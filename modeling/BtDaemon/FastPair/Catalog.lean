import BtDaemon.FastPair.Crypto
import BtDaemon.Foundation.Text

/-!
# The trusted models

The operator provides the models whose public keys are trusted, in a file that nobody else may
write. The models of the file are a map of texts, whose order is not known; two texts can stand for
one model, which is refused in whatever order they come. A catalog holds only keys that parse.
-/

namespace BtDaemon.FastPair

open Storage (hexDecode)
open Text (isControl)

structure Model where
  name : String
  antiSpoofingPublicKey : String
  deriving DecidableEq, Repr

structure MetadataFile where
  version : UInt8
  /-- A map, in the order of its iteration. -/
  models : List (String × Model)

/-- The models; their keys parse. -/
structure Catalog (crypto : Crypto) where
  models : Table (BitVec 24) Model
  trusted : ∀ id model, models.lookup id = some model →
    ∃ key, crypto.parseAntiSpoofingPublicKey model.antiSpoofingPublicKey = .ok key

/-- `hex::decode_to_slice` to three bytes. -/
def decodeModelId (encoded : String) : Option (BitVec 24) :=
  match hexDecode encoded with
  | none => none
  | some bytes =>
    if hlength : bytes.length = 3 then
      let id : Vector UInt8 3 := ⟨bytes.toArray, hlength⟩
      some (ofBytes 24 id)
    else none

def validName (name : String) : Bool :=
  !name.isEmpty && decide (name.utf8ByteSize ≤ 256) && !name.toList.any isControl

namespace Catalog

variable {crypto : Crypto}

/-- Only a model that is not there yet is inserted. -/
def insert (catalog : Catalog crypto) (id : BitVec 24) (model : Model) {key : crypto.PublicKey}
    (hkey : crypto.parseAntiSpoofingPublicKey model.antiSpoofingPublicKey = .ok key) :
    Catalog crypto where
  models := catalog.models.insert id model
  trusted other found hfound := by
    rcases Table.lookup_insert_eq_some.mp hfound with ⟨-, rfl⟩ | ⟨-, hold⟩
    · exact ⟨key, hkey⟩
    · exact catalog.trusted other found hold

instance : EmptyCollection (Catalog crypto) :=
  ⟨⟨∅, fun id model hmodel ↦ by rw [AList.lookup_empty] at hmodel; cases hmodel⟩⟩

/-- One turn of the loop of `parse`. -/
def addModel (catalog : Catalog crypto) (entry : String × Model) : Except String (Catalog crypto) :=
  match decodeModelId entry.1 with
  | none => .error "model ID must be three bytes"
  | some id =>
    if !validName entry.2.name then .error "invalid model display name"
    else
      match hkey : crypto.parseAntiSpoofingPublicKey entry.2.antiSpoofingPublicKey with
      | .error error => .error error
      | .ok _ =>
        if (catalog.models.lookup id).isSome then .error "duplicate model ID"
        else .ok (catalog.insert id entry.2 hkey)

def parse (crypto : Crypto) (file : MetadataFile) : Except String (Catalog crypto) :=
  if file.version ≠ 1 then .error "unsupported Fast Pair metadata version"
  else if file.models.length > 1024 then .error "too many Fast Pair model entries"
  else file.models.foldlM addModel ∅

/-! ## The file -/

structure OpenedFile where
  isFile : Bool
  mode : UInt32
  content : Except String (List UInt8)

/-- What opening the file gives. -/
inductive Opened
  | opened (file : OpenedFile)
  | notFound
  | failed (error : String)

/-- Read the file through `serde_json`. -/
def load (crypto : Crypto) (fromSlice : List UInt8 → Except String MetadataFile) :
    Opened → Except String (Catalog crypto)
  | .notFound => .ok ∅
  | .failed error => .error error
  | .opened file =>
    if !file.isFile then .error "Fast Pair metadata must be a regular file"
    else if file.mode &&& 0o022 ≠ 0 then
      .error "Fast Pair metadata must not be group/world writable"
    else
      match file.content with
      | .error error => .error error
      | .ok content =>
        let data := content.take 1048577
        if data.length > 1048576 then .error "Fast Pair metadata exceeds 1 MiB"
        else
          match fromSlice data >>= parse crypto with
          | .error _ => .error "validate trusted Fast Pair model metadata"
          | .ok catalog => .ok catalog

/-! ## What is accepted -/

/-- An entry that can stand alone. -/
structure Valid (crypto : Crypto) (entry : String × Model) : Prop where
  id : (decodeModelId entry.1).isSome = true
  name : validName entry.2.name = true
  key : ∃ key, crypto.parseAntiSpoofingPublicKey entry.2.antiSpoofingPublicKey = .ok key

/-- The two entries are not for one model. -/
def Apart (first second : String × Model) : Prop := decodeModelId first.1 ≠ decodeModelId second.1

theorem addModel_eq_ok {catalog next : Catalog crypto} {entry : String × Model}
    (hadd : catalog.addModel entry = .ok next) :
    Valid crypto entry ∧ ∃ id, decodeModelId entry.1 = some id ∧
      catalog.models.lookup id = none ∧ next.models = catalog.models.insert id entry.2 := by
  unfold addModel at hadd
  split at hadd
  · cases hadd
  next id hid =>
  split at hadd
  · cases hadd
  next hname =>
  split at hadd
  · cases hadd
  next key hkey =>
  split at hadd
  · cases hadd
  next hnew =>
  obtain rfl := Except.ok.inj hadd
  refine ⟨⟨by rw [hid]; rfl, by simpa using hname, key, hkey⟩, id, hid, by simpa using hnew, rfl⟩

theorem addModel_of_valid {catalog : Catalog crypto} {entry : String × Model} {id : BitVec 24}
    (hvalid : Valid crypto entry) (hid : decodeModelId entry.1 = some id)
    (hnew : catalog.models.lookup id = none) : ∃ next, catalog.addModel entry = .ok next := by
  obtain ⟨key, hkey⟩ := hvalid.key
  unfold addModel
  rw [hid]
  simp only [hvalid.name, Bool.not_true, Bool.false_eq_true, if_false, hnew, Option.isSome_none]
  split
  · next error herror => rw [hkey] at herror; cases herror
  · exact ⟨_, rfl⟩

theorem lookup_of_foldlM {models : List (String × Model)} {catalog last : Catalog crypto}
    (hfold : models.foldlM addModel catalog = .ok last) {id : BitVec 24} {model : Model} :
    last.models.lookup id = some model ↔ catalog.models.lookup id = some model ∨
      ∃ text, (text, model) ∈ models ∧ decodeModelId text = some id := by
  induction models generalizing catalog with
  | nil =>
    obtain rfl := Except.ok.inj hfold
    simp
  | cons entry models ih =>
    obtain ⟨next, hadd, hrest⟩ := Loop.bind_eq_ok.mp hfold
    obtain ⟨-, first, hfirst, hnew, hnext⟩ := addModel_eq_ok hadd
    rw [ih hrest, hnext, Table.lookup_insert_eq_some]
    constructor
    · rintro ((⟨rfl, rfl⟩ | ⟨-, hold⟩) | ⟨text, hmem, htext⟩)
      · exact .inr ⟨entry.1, List.mem_cons_self, hfirst⟩
      · exact .inl hold
      · exact .inr ⟨text, List.mem_cons_of_mem _ hmem, htext⟩
    · rintro (hold | ⟨text, hmem, htext⟩)
      · refine .inl (.inr ⟨?_, hold⟩)
        rintro rfl
        rw [hnew] at hold
        cases hold
      · rcases List.mem_cons.mp hmem with rfl | hmem
        · exact .inl (.inl ⟨Option.some.inj (htext.symm.trans hfirst), rfl⟩)
        · exact .inr ⟨text, hmem, htext⟩

theorem foldlM_isOk_iff {models : List (String × Model)} {catalog : Catalog crypto} :
    (∃ last, models.foldlM addModel catalog = .ok last) ↔
      (∀ entry ∈ models, Valid crypto entry) ∧ models.Pairwise Apart ∧
        ∀ entry ∈ models, ∀ id, decodeModelId entry.1 = some id →
          catalog.models.lookup id = none := by
  induction models generalizing catalog with
  | nil => exact ⟨fun _ ↦ ⟨nofun, .nil, nofun⟩, fun _ ↦ ⟨catalog, rfl⟩⟩
  | cons entry models ih =>
    constructor
    · rintro ⟨last, hfold⟩
      obtain ⟨next, hadd, hrest⟩ := Loop.bind_eq_ok.mp hfold
      obtain ⟨hvalid, id, hid, hnew, hnext⟩ := addModel_eq_ok hadd
      obtain ⟨hvalids, hpairwise, hfresh⟩ := ih.mp ⟨last, hrest⟩
      have hother : ∀ other ∈ models, ∀ found, decodeModelId other.1 = some found →
          found ≠ id ∧ catalog.models.lookup found = none := by
        intro other hother found hfound
        have hnone := hfresh other hother found hfound
        rw [hnext, Table.lookup_insert] at hnone
        split at hnone
        · cases hnone
        · next hne => exact ⟨hne, hnone⟩
      refine ⟨List.forall_mem_cons.mpr ⟨hvalid, hvalids⟩, List.pairwise_cons.mpr ⟨?_, hpairwise⟩,
        List.forall_mem_cons.mpr
          ⟨?_, fun other hmem found hfound ↦ (hother other hmem found hfound).2⟩⟩
      · intro other hmem heq
        exact (hother other hmem id (heq.symm.trans hid)).1 rfl
      · intro found hfound
        exact Option.some.inj (hfound.symm.trans hid) ▸ hnew
    · rintro ⟨hvalids, hpairwise, hfresh⟩
      obtain ⟨hvalid, hvalids⟩ := List.forall_mem_cons.mp hvalids
      obtain ⟨hapart, hpairwise⟩ := List.pairwise_cons.mp hpairwise
      obtain ⟨hfirst, hfresh⟩ := List.forall_mem_cons.mp hfresh
      obtain ⟨id, hid⟩ := Option.isSome_iff_exists.mp hvalid.id
      obtain ⟨next, hadd⟩ := addModel_of_valid hvalid hid (hfirst id hid)
      obtain ⟨-, other, hother, -, hnext⟩ := addModel_eq_ok hadd
      have hfresh : ∀ second ∈ models, ∀ found, decodeModelId second.1 = some found →
          next.models.lookup found = none := by
        intro second hmem found hfound
        rw [hnext, Table.lookup_insert, if_neg, hfresh second hmem found hfound]
        rintro rfl
        exact hapart second hmem (hother.trans hfound.symm)
      obtain ⟨last, hrest⟩ := ih.mpr ⟨hvalids, hpairwise, hfresh⟩
      exact ⟨last, Loop.bind_eq_ok.mpr ⟨next, hadd, hrest⟩⟩

/-- What makes a file acceptable does not depend on the order of its models. -/
structure Acceptable (crypto : Crypto) (file : MetadataFile) : Prop where
  version : file.version = 1
  bounded : file.models.length ≤ 1024
  valid : ∀ entry ∈ file.models, Valid crypto entry
  apart : file.models.Pairwise Apart

theorem Acceptable.perm {first second : MetadataFile} (haccepts : Acceptable crypto first)
    (hversion : first.version = second.version) (hperm : first.models.Perm second.models) :
    Acceptable crypto second where
  version := hversion ▸ haccepts.version
  bounded := hperm.length_eq ▸ haccepts.bounded
  valid entry hmem := haccepts.valid entry (hperm.mem_iff.mpr hmem)
  apart := hperm.pairwise haccepts.apart fun happart ↦ happart.symm

theorem parse_eq {file : MetadataFile} (hversion : file.version = 1)
    (hbounded : file.models.length ≤ 1024) :
    parse crypto file = file.models.foldlM addModel ∅ := by
  rw [parse, if_neg (not_not.mpr hversion), if_neg (Nat.not_lt.mpr hbounded)]

theorem parse_isOk_iff {file : MetadataFile} :
    (∃ catalog, parse crypto file = .ok catalog) ↔ Acceptable crypto file := by
  constructor
  · rintro ⟨catalog, hparse⟩
    have hbefore := hparse
    unfold parse at hbefore
    split at hbefore
    · cases hbefore
    next hversion =>
    split at hbefore
    · cases hbefore
    next hbounded =>
    obtain ⟨hvalid, hapart, -⟩ := foldlM_isOk_iff.mp ⟨catalog, hbefore⟩
    exact ⟨not_not.mp hversion, Nat.not_lt.mp hbounded, hvalid, hapart⟩
  · intro haccepts
    rw [parse_eq haccepts.version haccepts.bounded, foldlM_isOk_iff]
    exact ⟨haccepts.valid, haccepts.apart, fun _ _ _ _ ↦ AList.lookup_empty _⟩

/-- The catalog knows exactly the models of the file, each by its own id. -/
theorem lookup_of_parse {file : MetadataFile} {catalog : Catalog crypto}
    (hparse : parse crypto file = .ok catalog) {id : BitVec 24} {model : Model} :
    catalog.models.lookup id = some model ↔
      ∃ text, (text, model) ∈ file.models ∧ decodeModelId text = some id := by
  have haccepts := parse_isOk_iff.mp ⟨catalog, hparse⟩
  rw [parse_eq haccepts.version haccepts.bounded] at hparse
  rw [lookup_of_foldlM hparse]
  have hempty : (∅ : Catalog crypto).models.lookup id = none := AList.lookup_empty id
  rw [hempty]
  exact or_iff_right nofun

/-- A metadata file is accepted if and only if it is acceptable, and its catalog knows exactly its
models; the order in which the map of the models is iterated changes neither. -/
theorem parse_exact (crypto : Crypto) (file other : MetadataFile)
    (hversion : file.version = other.version) (hperm : file.models.Perm other.models) :
    ((∃ catalog, parse crypto file = .ok catalog) ↔ Acceptable crypto file) ∧
      ((∃ catalog, parse crypto file = .ok catalog) ↔
        ∃ catalog, parse crypto other = .ok catalog) ∧
      ∀ catalog again, parse crypto file = .ok catalog → parse crypto other = .ok again →
        ∀ id, catalog.models.lookup id = again.models.lookup id ∧
          ∀ model, catalog.models.lookup id = some model ↔
            ∃ text, (text, model) ∈ file.models ∧ decodeModelId text = some id := by
  refine ⟨parse_isOk_iff, ?_, ?_⟩
  · rw [parse_isOk_iff, parse_isOk_iff]
    exact ⟨fun haccepts ↦ haccepts.perm hversion hperm,
      fun haccepts ↦ haccepts.perm hversion.symm hperm.symm⟩
  · intro catalog again hparse hagain id
    refine ⟨Option.ext fun model ↦ ?_, fun model ↦ lookup_of_parse hparse⟩
    rw [lookup_of_parse hparse, lookup_of_parse hagain]
    exact exists_congr fun text ↦ and_congr_left' hperm.mem_iff

def budsAndCase : MetadataFile :=
  ⟨1, [("aabbcc", ⟨"Buds", Crypto.generatorText⟩), ("0A0b0C", ⟨"Case", Crypto.generatorText⟩)]⟩

def caseAndBuds : MetadataFile := ⟨1, budsAndCase.models.reverse⟩

theorem parse_exact_reversed : ∃ catalog, parse Crypto.twoParties caseAndBuds = .ok catalog := by
  apply (parse_exact Crypto.twoParties budsAndCase caseAndBuds rfl
    (List.reverse_perm _).symm).2.1.mp
  apply parse_isOk_iff.mpr
  refine ⟨rfl, by decide, List.forall_mem_cons.mpr ⟨?_, List.forall_mem_singleton.mpr ?_⟩,
    List.pairwise_pair.mpr (by unfold Apart; decide +kernel)⟩
  · exact ⟨by decide +kernel, by decide +kernel, _, Crypto.parse_generatorText⟩
  · exact ⟨by decide +kernel, by decide +kernel, _, Crypto.parse_generatorText⟩

end Catalog

end BtDaemon.FastPair
