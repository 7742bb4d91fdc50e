import Mathlib.Data.List.Perm.Basic
import Mathlib.Data.Nat.Bitwise
import Mathlib.Tactic.Common

/-!
# Discoverable advertisements

An advertisement is a Model ID, or a version and fields that each state their own length. It comes
from any radio nearby, so that everything that is not exactly of the grammar is refused. Of the
fields only the Model ID and the capability map matter.
-/

namespace BtDaemon.FastPair

/-! ## The parser -/

structure AdvertisementCapabilities where
  leAudioSharing : Bool
  factoryNew : Bool
  deriving DecidableEq

abbrev ModelId := { bytes : List UInt8 // bytes.length = 3 }

structure Advertisement where
  modelId : ModelId
  capabilities : Option AdvertisementCapabilities
  deriving DecidableEq

/-- `try_into` for three bytes. -/
def toModelId (data : List UInt8) : Option ModelId :=
  if hlength : data.length = 3 then some ⟨data, hlength⟩ else none

/-- The map is not empty where this is used. -/
def readCapabilities (value : List UInt8) : AdvertisementCapabilities where
  leAudioSharing := (value.headD 0) &&& 2 != 0
  factoryNew := (value.headD 0) &&& 1 != 0

structure Found where
  modelId : Option ModelId := none
  capabilities : Option AdvertisementCapabilities := none

/-- The body of the loop, behind the checks of the length. -/
def Found.collect (self : Found) (type : ℕ) (value : List UInt8) : Option Found :=
  match type with
  | 0 | 2 => none
  | 7 => (toModelId value).bind fun modelId ↦
    if self.modelId.isSome then none else some { self with modelId := some modelId }
  | 8 =>
    if self.capabilities.isSome then none
    else some { self with capabilities := some (readCapabilities value) }
  | _ => some self

def Found.finish (self : Found) : Option Advertisement := do
  let modelId ← self.modelId
  let capabilities ← self.capabilities
  return ⟨modelId, some capabilities⟩

def readFields (found : Found) : List UInt8 → Option Advertisement
  | [] => found.finish
  | header :: rest =>
    let length := (header >>> 4).toNat
    if length = 0 then none
    else if length ≤ rest.length then
      (found.collect (header &&& 0x0f).toNat (rest.take length)).bind fun found ↦
        readFields found (rest.drop length)
    else none
termination_by data => data.length
decreasing_by
  simp only [List.length_drop, List.length_cons]
  omega

def advertisement (data : List UInt8) : Option Advertisement :=
  match toModelId data with
  | some modelId => some ⟨modelId, none⟩
  | none =>
    match data with
    | [] => none
    | versionFlags :: fields => if versionFlags ≠ 0 then none else readFields {} fields

/-! ## The grammar -/

/-- A field with its type and its value, both of which fit into the header. -/
structure Field where
  type : ℕ
  value : List UInt8
  fits : type < 16
  nonempty : 1 ≤ value.length
  short : value.length ≤ 15

def Field.encode (self : Field) : List UInt8 :=
  UInt8.ofNat (16 * self.value.length + self.type) :: self.value

def encodeFields (fields : List Field) : List UInt8 := fields.flatMap Field.encode

def ofType (type : ℕ) (fields : List Field) : List Field :=
  fields.filter fun field ↦ field.type = type

/-- The fields of an advertisement for sharing, and what they stand for. -/
structure Sharing (fields : List Field) (advertisement : Advertisement) : Prop where
  discoverable : ∀ field ∈ fields, field.type ≠ 0 ∧ field.type ≠ 2
  model : ∃ field, ofType 7 fields = [field] ∧ field.value = advertisement.modelId.1
  map : ∃ field, ofType 8 fields = [field] ∧
    advertisement.capabilities = some (readCapabilities field.value)

/-! ## Headers -/

theorem toNat_length (header : UInt8) : (header >>> 4).toNat = header.toNat / 16 := by
  rw [UInt8.toNat_shiftRight]
  exact Nat.shiftRight_eq_div_pow header.toNat 4

theorem toNat_type (header : UInt8) : (header &&& 0x0f).toNat = header.toNat % 16 := by
  rw [UInt8.toNat_and]
  exact Nat.and_two_pow_sub_one_eq_mod header.toNat 4

theorem toNat_header (field : Field) :
    (UInt8.ofNat (16 * field.value.length + field.type)).toNat =
      16 * field.value.length + field.type := by
  have hfits := field.fits
  have hshort := field.short
  rw [UInt8.toNat_ofNat']
  omega

/-- A header with the bytes that it announces is a field. -/
theorem exists_field {header : UInt8} {rest : List UInt8} (hpositive : header.toNat / 16 ≠ 0)
    (hlength : header.toNat / 16 ≤ rest.length) :
    ∃ field : Field, field.type = header.toNat % 16 ∧
      field.value = rest.take (header.toNat / 16) ∧
        header :: rest = field.encode ++ rest.drop (header.toNat / 16) := by
  have htaken : (rest.take (header.toNat / 16)).length = header.toNat / 16 :=
    List.length_take_of_le hlength
  have hbyte := header.toNat_lt
  have hheader : 16 * (rest.take (header.toNat / 16)).length + header.toNat % 16 =
      header.toNat := by
    rw [htaken]
    exact Nat.div_add_mod header.toNat 16
  refine ⟨⟨header.toNat % 16, rest.take (header.toNat / 16), Nat.mod_lt _ (by decide), by omega,
    by omega⟩, rfl, rfl, ?_⟩
  calc header :: rest
    _ = header :: (rest.take (header.toNat / 16) ++ rest.drop (header.toNat / 16)) := by
      rw [List.take_append_drop]
    _ = UInt8.ofNat (16 * (rest.take (header.toNat / 16)).length + header.toNat % 16) ::
        (rest.take (header.toNat / 16) ++ rest.drop (header.toNat / 16)) := by
      rw [hheader, UInt8.ofNat_toNat]

theorem readFields_encode (found : Found) (field : Field) (rest : List UInt8) :
    readFields found (field.encode ++ rest) =
      (found.collect field.type field.value).bind fun found ↦ readFields found rest := by
  have hfits := field.fits
  have hnonempty := field.nonempty
  have hdiv : (16 * field.value.length + field.type) / 16 = field.value.length := by omega
  have hmod : (16 * field.value.length + field.type) % 16 = field.type := by omega
  rw [Field.encode, List.cons_append, readFields, toNat_length, toNat_type, toNat_header, hdiv, hmod]
  rw [if_neg (by omega), if_pos (by simp), List.take_left, List.drop_left]

/-- Whatever is accepted is made of fields. -/
theorem exists_fields {found : Found} {data : List UInt8} {result : Advertisement}
    (hread : readFields found data = some result) :
    ∃ fields : List Field, data = encodeFields fields := by
  induction hlength : data.length using Nat.strongRecOn generalizing found data with
  | ind length ih =>
    cases data with
    | nil => exact ⟨[], rfl⟩
    | cons header rest =>
      rw [readFields, toNat_length] at hread
      split at hread
      case isTrue => cases hread
      case isFalse hpositive =>
        split at hread
        case isFalse => cases hread
        case isTrue henough =>
          obtain ⟨field, -, -, hfield⟩ := exists_field hpositive henough
          obtain ⟨next, -, hrest⟩ := Option.bind_eq_some_iff.mp hread
          have hshorter : (rest.drop (header.toNat / 16)).length < length := by
            rw [List.length_drop, ← hlength, List.length_cons]
            omega
          obtain ⟨fields, hfields⟩ := ih _ hshorter hrest rfl
          refine ⟨field :: fields, ?_⟩
          rw [hfield, hfields]
          rfl

/-! ## One field of a type -/

section Slots

variable {Value : Type} (read : List UInt8 → Option Value)

/-- The values of a type fill an empty slot, at most once. -/
def Slot : Option Value → List Field → Option Value → Prop
  | before, [], after => after = before
  | before, field :: rest, after =>
    before = none ∧ ∃ value, read field.value = some value ∧ Slot (some value) rest after

theorem slot_none {fields : List Field} {value : Value} :
    Slot read none fields (some value) ↔
      ∃ field, fields = [field] ∧ read field.value = some value := by
  constructor
  · intro hslot
    cases fields with
    | nil => cases hslot
    | cons field rest =>
      obtain ⟨-, found, hfound, hrest⟩ := hslot
      cases rest with
      | nil =>
        obtain rfl := Option.some.inj hrest
        exact ⟨field, rfl, hfound⟩
      | cons next later => cases hrest.1
  · rintro ⟨field, rfl, hfound⟩
    exact ⟨rfl, value, hfound, rfl⟩

end Slots

/-- The fields fill the slots of what was found. -/
structure Fills (found : Found) (fields : List Field) (result : Advertisement) : Prop where
  discoverable : ∀ field ∈ fields, field.type ≠ 0 ∧ field.type ≠ 2
  model : Slot toModelId found.modelId (ofType 7 fields) (some result.modelId)
  map : ∃ capabilities, result.capabilities = some capabilities ∧
    Slot (fun value ↦ some (readCapabilities value)) found.capabilities (ofType 8 fields)
      (some capabilities)

section Fills

variable {found : Found} {field : Field} {fields : List Field} {result : Advertisement}

theorem finish_eq_some : found.finish = some result ↔ Fills found [] result := by
  obtain ⟨modelId, capabilities⟩ := found
  obtain ⟨resultId, resultCapabilities⟩ := result
  constructor
  · intro hfinish
    obtain ⟨id, rfl, hlater⟩ := Option.bind_eq_some_iff.mp hfinish
    obtain ⟨map, rfl, hresult⟩ := Option.bind_eq_some_iff.mp hlater
    obtain ⟨rfl, rfl⟩ := Advertisement.mk.inj (Option.some.inj hresult)
    exact ⟨(fun _ hmem ↦ nomatch hmem), rfl, map, rfl, rfl⟩
  · rintro ⟨-, hmodel, map, hmap, hslot⟩
    obtain rfl : some resultId = modelId := hmodel
    obtain rfl : some map = capabilities := hslot
    obtain rfl : resultCapabilities = some map := hmap
    rfl

theorem ofType_cons (type : ℕ) : ofType type (field :: fields) =
    if field.type = type then field :: ofType type fields else ofType type fields := by
  rw [ofType, List.filter_cons]
  by_cases htype : field.type = type <;> simp [htype, ofType]

/-- The other types are extensions. -/
theorem collect_other {type : ℕ} {value : List UInt8} (hzero : type ≠ 0) (htwo : type ≠ 2)
    (hseven : type ≠ 7) (height : type ≠ 8) : found.collect type value = some found := by
  unfold Found.collect
  split <;> first | rfl | contradiction

theorem fills_model (htype : field.type = 7) : Fills found (field :: fields) result ↔
    ∃ next, found.collect 7 field.value = some next ∧ Fills next fields result := by
  have hseven : ofType 7 (field :: fields) = field :: ofType 7 fields := by
    rw [ofType_cons, if_pos htype]
  have height : ofType 8 (field :: fields) = ofType 8 fields := by
    rw [ofType_cons, if_neg (by omega)]
  constructor
  · rintro ⟨hdiscoverable, hmodel, hmap⟩
    rw [hseven] at hmodel
    rw [height] at hmap
    obtain ⟨hnone, modelId, hread, hrest⟩ := hmodel
    refine ⟨{ found with modelId := some modelId }, ?_, ?_⟩
    · simp [Found.collect, hread, hnone]
    · exact ⟨(List.forall_mem_cons.mp hdiscoverable).2, hrest, hmap⟩
  · rintro ⟨next, hcollect, hdiscoverable, hmodel, hmap⟩
    obtain ⟨modelId, hread, hnew⟩ := Option.bind_eq_some_iff.mp hcollect
    split at hnew
    case isTrue => cases hnew
    case isFalse hnone =>
      obtain rfl := Option.some.inj hnew
      refine ⟨?_, ?_, ?_⟩
      · exact List.forall_mem_cons.mpr ⟨by omega, hdiscoverable⟩
      · rw [hseven]
        exact ⟨by simpa using hnone, modelId, hread, hmodel⟩
      · rw [height]
        exact hmap

theorem fills_map (htype : field.type = 8) : Fills found (field :: fields) result ↔
    ∃ next, found.collect 8 field.value = some next ∧ Fills next fields result := by
  have hseven : ofType 7 (field :: fields) = ofType 7 fields := by
    rw [ofType_cons, if_neg (by omega)]
  have height : ofType 8 (field :: fields) = field :: ofType 8 fields := by
    rw [ofType_cons, if_pos htype]
  constructor
  · rintro ⟨hdiscoverable, hmodel, capabilities, hresult, hmap⟩
    rw [hseven] at hmodel
    rw [height] at hmap
    obtain ⟨hnone, map, hread, hrest⟩ := hmap
    obtain rfl := Option.some.inj hread
    refine ⟨{ found with capabilities := some (readCapabilities field.value) }, ?_, ?_⟩
    · simp [Found.collect, hnone]
    · exact ⟨(List.forall_mem_cons.mp hdiscoverable).2, hmodel, capabilities, hresult, hrest⟩
  · rintro ⟨next, hcollect, hdiscoverable, hmodel, capabilities, hresult, hmap⟩
    change (if found.capabilities.isSome then none else
      some { found with capabilities := some (readCapabilities field.value) }) = some next at hcollect
    split at hcollect
    case isTrue => cases hcollect
    case isFalse hnone =>
      obtain rfl := Option.some.inj hcollect
      refine ⟨?_, ?_, capabilities, hresult, ?_⟩
      · exact List.forall_mem_cons.mpr ⟨by omega, hdiscoverable⟩
      · rw [hseven]
        exact hmodel
      · rw [height]
        exact ⟨by simpa using hnone, readCapabilities field.value, rfl, hmap⟩

theorem fills_cons : Fills found (field :: fields) result ↔
    ∃ next, found.collect field.type field.value = some next ∧ Fills next fields result := by
  by_cases hseven : field.type = 7
  · rw [hseven]
    exact fills_model hseven
  by_cases height : field.type = 8
  · rw [height]
    exact fills_map height
  by_cases hplain : field.type ≠ 0 ∧ field.type ≠ 2
  · rw [collect_other hplain.1 hplain.2 hseven height]
    have hmodel : ofType 7 (field :: fields) = ofType 7 fields := by rw [ofType_cons, if_neg hseven]
    have hmap : ofType 8 (field :: fields) = ofType 8 fields := by rw [ofType_cons, if_neg height]
    constructor
    · intro fills
      refine ⟨found, rfl, (List.forall_mem_cons.mp fills.discoverable).2, ?_, ?_⟩
      · exact hmodel ▸ fills.model
      · exact hmap ▸ fills.map
    · rintro ⟨next, hnext, fills⟩
      obtain rfl := Option.some.inj hnext
      refine ⟨List.forall_mem_cons.mpr ⟨hplain, fills.discoverable⟩, ?_, ?_⟩
      · rw [hmodel]
        exact fills.model
      · rw [hmap]
        exact fills.map
  · constructor
    · intro fills
      exact absurd (List.forall_mem_cons.mp fills.discoverable).1 hplain
    · rintro ⟨next, hnext, -⟩
      have hexcluded : field.type = 0 ∨ field.type = 2 := by omega
      rcases hexcluded with htype | htype
      · rw [htype] at hnext
        cases hnext
      · rw [htype] at hnext
        cases hnext

theorem readFields_eq_some :
    readFields found (encodeFields fields) = some result ↔ Fills found fields result := by
  induction fields generalizing found with
  | nil =>
    rw [encodeFields, List.flatMap_nil, readFields]
    exact finish_eq_some
  | cons field fields ih =>
    rw [encodeFields, List.flatMap_cons, readFields_encode, Option.bind_eq_some_iff, fills_cons]
    exact exists_congr fun next ↦ and_congr_right fun _ ↦ ih

end Fills

/-! ## What is accepted -/

section Accepted

variable {fields others : List Field} {result : Advertisement}

theorem toModelId_eq_some {data : List UInt8} {modelId : ModelId} :
    toModelId data = some modelId ↔ data = modelId.1 := by
  unfold toModelId
  constructor
  · intro hread
    split at hread
    case isTrue hlength =>
      obtain rfl := Option.some.inj hread
      rfl
    case isFalse => cases hread
  · rintro rfl
    rw [dif_pos modelId.2]

theorem fills_empty : Fills {} fields result ↔ Sharing fields result := by
  constructor
  · rintro ⟨hdiscoverable, hmodel, capabilities, hresult, hmap⟩
    obtain ⟨model, hmodels, hread⟩ := (slot_none toModelId).mp hmodel
    obtain ⟨map, hmaps, hvalue⟩ := (slot_none _).mp hmap
    refine ⟨hdiscoverable, ⟨model, hmodels, toModelId_eq_some.mp hread⟩, map, hmaps, ?_⟩
    rw [hresult, ← hvalue]
  · rintro ⟨hdiscoverable, ⟨model, hmodels, hvalue⟩, map, hmaps, hresult⟩
    refine ⟨hdiscoverable, ?_, readCapabilities map.value, hresult, ?_⟩
    · exact (slot_none toModelId).mpr ⟨model, hmodels, toModelId_eq_some.mpr hvalue⟩
    · exact (slot_none _).mpr ⟨map, hmaps, rfl⟩

/-- Fields that are accepted are too long to be a Model ID. -/
theorem Sharing.length (sharing : Sharing fields result) : 3 < (encodeFields fields).length := by
  obtain ⟨model, hmodels, hvalue⟩ := sharing.model
  have hmem : model ∈ fields := by
    have hone : model ∈ ofType 7 fields := by
      rw [hmodels]
      exact List.mem_cons_self
    exact (List.mem_filter.mp hone).1
  obtain ⟨before, after, rfl⟩ := List.append_of_mem hmem
  have hlength : model.value.length = 3 := by
    rw [hvalue]
    exact result.modelId.2
  simp only [encodeFields, Field.encode, List.flatMap_append, List.flatMap_cons, List.length_append,
    List.length_cons]
  omega

/-- The parser accepts Model IDs and version zero with fields of the grammar. -/
theorem advertisement_eq_some {data : List UInt8} : advertisement data = some result ↔
    (data = result.modelId.1 ∧ result.capabilities = none) ∨
      ∃ fields, data = 0 :: encodeFields fields ∧ Sharing fields result := by
  constructor
  · intro hread
    unfold advertisement at hread
    split at hread
    case h_1 modelId hmodel =>
      obtain rfl := Option.some.inj hread
      exact .inl ⟨toModelId_eq_some.mp hmodel, rfl⟩
    case h_2 =>
      cases data with
      | nil => cases hread
      | cons versionFlags rest =>
        dsimp only at hread
        split at hread
        case isTrue => cases hread
        case isFalse hversion =>
          obtain rfl := not_not.mp hversion
          obtain ⟨fields, rfl⟩ := exists_fields hread
          exact .inr ⟨fields, rfl, fills_empty.mp (readFields_eq_some.mp hread)⟩
  · rintro (⟨hdata, hnone⟩ | ⟨fields, rfl, sharing⟩)
    · unfold advertisement
      rw [toModelId_eq_some.mpr hdata]
      obtain ⟨modelId, capabilities⟩ := result
      obtain rfl : capabilities = none := hnone
      rfl
    · have hlong : toModelId (0 :: encodeFields fields) = none := by
        have hlength := sharing.length
        rw [toModelId, dif_neg]
        rw [List.length_cons]
        omega
      unfold advertisement
      rw [hlong]
      exact readFields_eq_some.mpr (fills_empty.mpr sharing)

/-- The order of the fields does not matter. -/
theorem Sharing.of_perm (sharing : Sharing fields result) (hperm : fields.Perm others) :
    Sharing others result := by
  have htype : ∀ type field, ofType type fields = [field] → ofType type others = [field] := by
    intro type field hone
    have hfiltered : (ofType type fields).Perm (ofType type others) := hperm.filter _
    rw [hone] at hfiltered
    exact List.perm_singleton.mp hfiltered.symm
  obtain ⟨model, hmodel, hvalue⟩ := sharing.model
  obtain ⟨map, hmap, hresult⟩ := sharing.map
  refine ⟨?_, ⟨model, htype 7 model hmodel, hvalue⟩, map, htype 8 map hmap, hresult⟩
  intro field hfield
  exact sharing.discoverable field (hperm.mem_iff.mpr hfield)

/-- An extension is a field of none of the types that are read. -/
def Field.Extension (field : Field) : Prop :=
  field.type ≠ 0 ∧ field.type ≠ 2 ∧ field.type ≠ 7 ∧ field.type ≠ 8

/-- Extensions do not matter. -/
theorem Sharing.append (sharing : Sharing fields result)
    (hothers : ∀ other ∈ others, other.Extension) : Sharing (fields ++ others) result := by
  have htype : ∀ type, (∀ other ∈ others, other.type ≠ type) →
      ofType type (fields ++ others) = ofType type fields := by
    intro type hnone
    rw [ofType, List.filter_append]
    have hempty : others.filter (fun field ↦ field.type = type) = [] :=
      List.filter_eq_nil_iff.mpr fun other hother ↦ by simpa using hnone other hother
    rw [hempty, List.append_nil]
    rfl
  refine ⟨?_, ?_, ?_⟩
  · intro field hfield
    rcases List.mem_append.mp hfield with hmem | hmem
    · exact sharing.discoverable field hmem
    · exact ⟨(hothers field hmem).1, (hothers field hmem).2.1⟩
  · rw [htype 7 fun other hother ↦ (hothers other hother).2.2.1]
    exact sharing.model
  · rw [htype 8 fun other hother ↦ (hothers other hother).2.2.2]
    exact sharing.map

/-- The result comes from the two fields. -/
theorem Sharing.unique {one two : Advertisement} (sharing : Sharing fields one)
    (other : Sharing others two) (hmodels : ofType 7 fields = ofType 7 others)
    (hmaps : ofType 8 fields = ofType 8 others) : one = two := by
  obtain ⟨model, hmodel, hvalue⟩ := sharing.model
  obtain ⟨map, hmap, hresult⟩ := sharing.map
  obtain ⟨otherModel, hotherModel, hotherValue⟩ := other.model
  obtain ⟨otherMap, hotherMap, hotherResult⟩ := other.map
  obtain rfl := List.singleton_inj.mp (hmodel.symm.trans (hmodels.trans hotherModel))
  obtain rfl := List.singleton_inj.mp (hmap.symm.trans (hmaps.trans hotherMap))
  obtain ⟨modelId, capabilities⟩ := one
  obtain ⟨otherId, otherCapabilities⟩ := two
  obtain rfl : modelId = otherId := Subtype.ext (hvalue.symm.trans hotherValue)
  obtain rfl : capabilities = otherCapabilities := hresult.trans hotherResult.symm
  rfl

end Accepted

/-- The parser accepts exactly its grammar. The two fields that matter decide the result, in every
order of the fields and with any extensions between them. -/
theorem advertisement_grammar :
    (∀ data result, advertisement data = some result ↔
      (data = result.modelId.1 ∧ result.capabilities = none) ∨
        ∃ fields, data = 0 :: encodeFields fields ∧ Sharing fields result) ∧
    (∀ fields result, Sharing fields result →
      ∀ others : List Field, (∀ other ∈ others, other.Extension) →
        ∀ arranged, (fields ++ others).Perm arranged →
          advertisement (0 :: encodeFields arranged) = some result) ∧
    ∀ fields others one two, Sharing fields one → Sharing others two →
      ofType 7 fields = ofType 7 others → ofType 8 fields = ofType 8 others → one = two := by
  refine ⟨fun _ _ ↦ advertisement_eq_some, ?_, fun _ _ _ _ ↦ Sharing.unique⟩
  intro fields result sharing others hothers arranged hperm
  exact advertisement_eq_some.mpr (.inr ⟨arranged, rfl, (sharing.append hothers).of_perm hperm⟩)

def modelField : Field := ⟨7, [1, 2, 3], by decide, by decide, by decide⟩

def mapField : Field := ⟨8, [3], by decide, by decide, by decide⟩

def extensionField : Field := ⟨9, [0xff], by decide, by decide, by decide⟩

theorem advertisement_grammar_arranged :
    encodeFields [extensionField, mapField, modelField] = [0x19, 0xff, 0x18, 3, 0x37, 1, 2, 3] ∧
      advertisement (0 :: encodeFields [extensionField, mapField, modelField]) =
        some ⟨⟨[1, 2, 3], rfl⟩, some ⟨true, true⟩⟩ := by
  have sharing : Sharing [modelField, mapField] ⟨⟨[1, 2, 3], rfl⟩, some ⟨true, true⟩⟩ :=
    ⟨by decide, ⟨modelField, rfl, rfl⟩, mapField, rfl, rfl⟩
  refine ⟨by decide, advertisement_grammar.2.1 _ _ sharing [extensionField] ?_ _ ?_⟩
  · intro other hother
    obtain rfl := List.mem_singleton.mp hother
    exact ⟨by decide, by decide, by decide, by decide⟩
  · exact List.reverse_perm [extensionField, mapField, modelField]

end BtDaemon.FastPair
