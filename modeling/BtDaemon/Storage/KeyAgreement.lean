import BtDaemon.Foundation.Loop
import BtDaemon.Foundation.WriteThrough
import BtDaemon.Storage.AccountKeys

/-!
# The account keys in memory and on disk

The text of a key is decoded to the same key, so the candidate that a mutator writes is loaded
as the candidate that it commits. A key is checked when it is inserted and when it is loaded.
-/

namespace BtDaemon.Storage

open WriteThrough

/-! ## The keys of a file -/

theorem validateKey_eq_ok {key : AccountKey} {label : String} :
    validateKey key label = .ok () ↔ typeByte key = 0x04 := by
  unfold validateKey
  split
  · next hinvalid => simpa using hinvalid
  · next hvalid => simpa using hvalid

theorem decodeKey_hexEncode (device : String) {key : AccountKey}
    (hvalid : typeByte key = 0x04) :
    decodeKey device (hexEncode key.toList) = .ok key := by
  rw [decodeKey, hexDecode_hexEncode]
  dsimp only
  have hlength : key.toList.toArray.size = 16 := by simp
  rw [dif_pos hlength]
  have hkey : (⟨key.toList.toArray, hlength⟩ : AccountKey) = key := by
    apply Vector.toArray_inj.mp
    exact Array.toArray_toList
  rw [hkey, validateKey_eq_ok.mpr hvalid]
  rfl

theorem typeByte_of_decodeKey {device encoded : String} {key : AccountKey}
    (hkey : decodeKey device encoded = .ok key) : typeByte key = 0x04 := by
  unfold decodeKey at hkey
  cases hdecoded : hexDecode encoded with
  | none =>
    rw [hdecoded] at hkey
    cases hkey
  | some decoded =>
    rw [hdecoded] at hkey
    dsimp only at hkey
    split at hkey
    · obtain ⟨result, hchecked, rfl⟩ := Loop.map_eq_ok.mp hkey
      exact validateKey_eq_ok.mp hchecked
    · cases hkey

/-- Every key has the type byte of an account key. -/
def TypeByte (keys : Table String AccountKey) : Prop :=
  ∀ device key, keys.lookup device = some key → typeByte key = 0x04

theorem TypeByte.insert {keys : Table String AccountKey} (htype : TypeByte keys)
    {device : String} {key : AccountKey} (hkey : typeByte key = 0x04) :
    TypeByte (keys.insert device key) := by
  intro other found hfound
  rw [Table.lookup_insert] at hfound
  split at hfound
  · rw [← Option.some.inj hfound]
    exact hkey
  · exact htype other found hfound

theorem TypeByte.erase {keys : Table String AccountKey} (htype : TypeByte keys)
    (device : String) : TypeByte (keys.erase device) := by
  intro other found hfound
  rw [Table.lookup_erase] at hfound
  exact htype other found (Option.ite_none_left_eq_some.mp hfound).2

/-- The loop of `load` over entries that decode to the given keys. -/
theorem decodeKeys_loop {entries : List (Sigma fun _ : String ↦ String)}
    (decoded : String → AccountKey) (keys : Table String AccountKey)
    (hentries : ∀ entry ∈ entries, decodeKey entry.1 entry.2 = .ok (decoded entry.1)) :
    ∃ loaded, entries.foldlM (fun keys entry ↦
        (decodeKey entry.1 entry.2).map fun key ↦ keys.insert entry.1 key) keys = .ok loaded ∧
      ∀ device, loaded.lookup device =
        if device ∈ entries.keys then some (decoded device) else keys.lookup device := by
  induction entries generalizing keys with
  | nil => exact ⟨keys, rfl, fun device ↦ by simp⟩
  | cons entry rest ih =>
    obtain ⟨loaded, hloaded, hlookup⟩ := ih (keys.insert entry.1 (decoded entry.1))
      fun other hother ↦ hentries other (List.mem_cons_of_mem _ hother)
    refine ⟨loaded, ?_, fun device ↦ ?_⟩
    · rw [List.foldlM_cons, hentries entry List.mem_cons_self]
      exact hloaded
    · simp only [hlookup, List.keys_cons, List.mem_cons, Table.lookup_insert]
      by_cases hrest : device ∈ rest.keys
      · simp [hrest]
      · by_cases hdevice : device = entry.1 <;> simp [hrest, hdevice]

/-- Keys that were decoded have the type byte. -/
theorem typeByte_of_decodeKeys {file : KeyFile} {loaded : Table String AccountKey}
    (hloaded : decodeKeys file = .ok loaded) : TypeByte loaded := by
  refine Loop.foldlM_invariant (fun keys entry next htype hnext ↦ ?_) ?_ hloaded
  · obtain ⟨key, hkey, hinsert⟩ := Loop.map_eq_ok.mp hnext
    rw [← hinsert]
    exact htype.insert (typeByte_of_decodeKey hkey)
  · exact fun _ _ hkey ↦ by cases hkey

/-- The file that holds the given keys. -/
def keyFile (keys : Table String AccountKey) : KeyFile :=
  ⟨storeVersion, keys.mapValues fun key ↦ hexEncode key.toList⟩

theorem decodeKeys_of_equiv {keys : Table String AccountKey} (htype : TypeByte keys)
    {file : KeyFile} (hfile : file ≈ keyFile keys) :
    ∃ loaded, decodeKeys file = .ok loaded ∧ loaded ≈ keys := by
  have hlookup : ∀ device, file.accountKeys.lookup device =
      (keys.lookup device).map fun key ↦ hexEncode key.toList := by
    intro device
    rw [hfile.2 device]
    exact Table.lookup_mapValues ..
  have hentries : ∀ entry ∈ file.accountKeys.entries, decodeKey entry.1 entry.2 =
      .ok ((keys.lookup entry.1).getD (Vector.replicate 16 0)) := by
    intro entry hentry
    have hvalue := (Table.mem_entries _ entry.1 entry.2).mp hentry
    rw [hlookup, Option.map_eq_some_iff] at hvalue
    obtain ⟨key, hkey, hencoded⟩ := hvalue
    rw [← hencoded, hkey, decodeKey_hexEncode entry.1 (htype entry.1 key hkey)]
    rfl
  obtain ⟨loaded, hloaded, hsame⟩ := decodeKeys_loop
    (fun device ↦ (keys.lookup device).getD (Vector.replicate 16 0)) ∅ hentries
  refine ⟨loaded, hloaded, fun device ↦ ?_⟩
  rw [hsame]
  have hmem : device ∈ file.accountKeys.entries.keys ↔ (keys.lookup device).isSome = true := by
    change device ∈ file.accountKeys.keys ↔ _
    rw [Table.mem_keys, ← Option.isSome_iff_exists, hlookup, Option.isSome_map]
  cases hkey : keys.lookup device with
  | none =>
    rw [if_neg]
    · rfl
    · rw [hmem, hkey]
      exact Bool.false_ne_true
  | some key =>
    rw [if_pos]
    · rfl
    · rw [hmem, hkey]
      rfl

/-! ## The store -/

namespace AccountKeyStore

variable {Text : Type} {codec : Codec Text KeyFile}

/-- What a fresh load returns. -/
def loadKeys (codec : Codec Text KeyFile) (file : JsonFile Text) :
    Option (Table String AccountKey) :=
  (load codec file).toOption.map keys

def backed (store : AccountKeyStore Text) : Backed (Table String AccountKey) (JsonFile Text) :=
  ⟨store.keys, store.file⟩

/-- What was written is loaded. -/
theorem agrees_written (hjson : codec.RoundTrips) {keys candidate : Table String AccountKey}
    (htype : TypeByte keys) (hcandidate : candidate ≈ keys) (file : JsonFile Text) :
    Backed.Agrees (loadKeys codec) ⟨keys, file.written codec (keyFile candidate)⟩ := by
  obtain ⟨stored, hread, hstored⟩ :=
    file.readJson_written codec hjson (keyFile candidate) description
  have hfile : stored ≈ keyFile keys := by
    refine Setoid.trans hstored ⟨rfl, fun device ↦ ?_⟩
    rw [keyFile, keyFile, Table.lookup_mapValues, Table.lookup_mapValues, hcandidate device]
  obtain ⟨loaded, hloaded, hsame⟩ := decodeKeys_of_equiv htype hfile
  have hversion : stored.version = storeVersion := hstored.1
  refine ⟨loaded, ?_, hsame⟩
  rw [loadKeys, load, hread]
  dsimp only
  rw [if_neg (not_not.mpr hversion), hloaded]
  rfl

theorem typeByte_of_load {file : JsonFile Text} {store : AccountKeyStore Text}
    (hload : load codec file = .ok store) : store.file = file ∧ TypeByte store.keys := by
  unfold load at hload
  cases hread : file.readJson codec description with
  | error error =>
    rw [hread] at hload
    cases hload
  | ok stored =>
    rw [hread] at hload
    cases stored with
    | none =>
      cases hload
      exact ⟨rfl, fun _ _ hkey ↦ by cases hkey⟩
    | some stored =>
      dsimp only at hload
      split at hload
      · cases hload
      · cases hkeys : decodeKeys stored with
        | error error =>
          rw [hkeys] at hload
          cases hload
        | ok keys =>
          rw [hkeys] at hload
          cases hload
          exact ⟨rfl, typeByte_of_decodeKeys hkeys⟩

/-- A store that was just loaded agrees with its file. -/
theorem agrees_of_load {file : JsonFile Text} {store : AccountKeyStore Text}
    (hload : load codec file = .ok store) : store.backed.Agrees (loadKeys codec) := by
  refine ⟨store.keys, ?_, Setoid.refl _⟩
  rw [loadKeys, backed, (typeByte_of_load hload).1, hload]
  rfl

theorem remove_writesThrough (hjson : codec.RoundTrips) (store : AccountKeyStore Text)
    (htype : TypeByte store.keys) (deviceKey : String) (succeeds : Bool) :
    Backed.WritesThrough (loadKeys codec) store.backed
      (store.remove codec deviceKey succeeds).1.backed succeeds
      (failed (store.remove codec deviceKey succeeds).2) := by
  unfold remove
  split
  · exact .keeps (Setoid.refl _)
  · have hcandidate : (store.keys.retain fun device _ ↦ device ≠ deviceKey) ≈
        store.keys.erase deviceKey := by
      intro device
      rw [Table.lookup_retain, Table.lookup_erase]
      by_cases hdevice : device = deviceKey <;>
        cases store.keys.lookup device <;> simp [hdevice]
    rcases store.file.writeJson_cases codec (keyFile _) description succeeds with
      ⟨rfl, hwritten⟩ | ⟨rfl, error, hfails⟩
    · rw [persist, ← keyFile, hwritten]
      exact .commits rfl rfl (agrees_written hjson (htype.erase deviceKey) hcandidate store.file)
        (Setoid.refl _)
    · rw [persist, ← keyFile, hfails]
      exact .keeps (Setoid.refl _)

theorem insert_writesThrough (hjson : codec.RoundTrips) (store : AccountKeyStore Text)
    (htype : TypeByte store.keys) (deviceKey : String) (key : AccountKey) (succeeds : Bool) :
    Backed.WritesThrough (loadKeys codec) store.backed
      (store.insert codec deviceKey key succeeds).1.backed succeeds
      (failed (store.insert codec deviceKey key succeeds).2) := by
  unfold insert
  cases hvalid : validateKey key "Fast Pair account key" with
  | error error => exact .keeps (Setoid.refl _)
  | ok result =>
    have hcandidate : (store.keys.retain fun device _ ↦ device ≠ deviceKey).insert deviceKey key ≈
        store.keys.insert deviceKey key := by
      intro device
      rw [Table.lookup_insert, Table.lookup_insert, Table.lookup_retain]
      by_cases hdevice : device = deviceKey <;>
        cases store.keys.lookup device <;> simp [hdevice]
    have hkey := validateKey_eq_ok.mp hvalid
    dsimp only
    rcases store.file.writeJson_cases codec (keyFile _) description succeeds with
      ⟨rfl, hwritten⟩ | ⟨rfl, error, hfails⟩
    · rw [persist, ← keyFile, hwritten]
      exact .commits rfl rfl (agrees_written hjson (htype.insert hkey) hcandidate store.file)
        (Setoid.refl _)
    · rw [persist, ← keyFile, hfails]
      exact .keeps (Setoid.refl _)

theorem insert_rejects {store : AccountKeyStore Text} {key : AccountKey}
    (hkey : typeByte key ≠ 0x04)
    (deviceKey : String) (succeeds : Bool) :
    failed (store.insert codec deviceKey key succeeds).2 = true := by
  unfold insert
  cases hvalid : validateKey key "Fast Pair account key" with
  | error error => rfl
  | ok result => exact absurd (validateKey_eq_ok.mp hvalid) hkey

theorem typeByte_remove {store : AccountKeyStore Text} (htype : TypeByte store.keys)
    (deviceKey : String) (succeeds : Bool) :
    TypeByte (store.remove codec deviceKey succeeds).1.keys := by
  unfold remove
  split
  · exact htype
  · split
    · exact htype
    · exact htype.erase deviceKey

theorem typeByte_insert {store : AccountKeyStore Text} (htype : TypeByte store.keys)
    (deviceKey : String) (key : AccountKey) (succeeds : Bool) :
    TypeByte (store.insert codec deviceKey key succeeds).1.keys := by
  unfold insert
  cases hvalid : validateKey key "Fast Pair account key" with
  | error error => exact htype
  | ok result =>
    dsimp only
    split
    · exact htype
    · exact htype.insert (validateKey_eq_ok.mp hvalid)

end AccountKeyStore

end BtDaemon.Storage
