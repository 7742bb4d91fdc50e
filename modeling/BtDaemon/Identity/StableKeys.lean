import BtDaemon.Identity.Registry

/-!
# Stable and distinct device keys

Every key belongs to one identity, and the text of an identity determines its adapter and its
address. A call therefore keeps the answer of every earlier call whose entry is still there.
The one step that moves entries is the first registration of an adapter: it moves the
persisted devices under the adapter's name, and leaves the discovered ones behind.
-/

namespace BtDaemon.Identity

open Transition

/-! ## The text of an identity -/

theorem hexDigit_injective {first second : ℕ} (hfirst : first < 16) (hsecond : second < 16)
    (hdigit : hexDigit first = hexDigit second) : first = second := by
  have hall : ∀ left right : Fin 16, hexDigit left = hexDigit right → left = right := by decide
  have hsame := hall ⟨first, hfirst⟩ ⟨second, hsecond⟩ hdigit
  exact congrArg Fin.val hsame

theorem byteText_injective {first second : ℕ} (hfirst : first < 256) (hsecond : second < 256)
    (htext : byteText first = byteText second) : first = second := by
  simp only [byteText, List.cons.injEq, and_true] at htext
  have hhigh : first / 16 = second / 16 :=
    hexDigit_injective (by omega) (by omega) htext.1
  have hlow : first % 16 = second % 16 := hexDigit_injective (by omega) (by omega) htext.2
  omega

/-- A number is determined by its bytes. -/
theorem eq_of_bytes {count first second : ℕ} (hfirst : first < 256 ^ count)
    (hsecond : second < 256 ^ count)
    (hbyte : ∀ index < count, first / 256 ^ index % 256 = second / 256 ^ index % 256) :
    first = second := by
  induction count generalizing first second with
  | zero => exact (Nat.lt_one_iff.mp hfirst).trans (Nat.lt_one_iff.mp hsecond).symm
  | succ count ih =>
    have hlow : first % 256 = second % 256 := by
      have hzero := hbyte 0 (Nat.succ_pos count)
      rwa [Nat.pow_zero, Nat.div_one, Nat.div_one] at hzero
    rw [Nat.pow_succ'] at hfirst hsecond
    have hhigh : first / 256 = second / 256 := by
      apply ih (Nat.div_lt_of_lt_mul hfirst) (Nat.div_lt_of_lt_mul hsecond)
      intro index hindex
      rw [Nat.div_div_eq_div_mul, Nat.div_div_eq_div_mul, ← Nat.pow_succ']
      exact hbyte (index + 1) (Nat.succ_lt_succ hindex)
    rw [← Nat.div_add_mod first 256, hhigh, hlow, Nat.div_add_mod]

theorem addressText_injective {first second : Address}
    (htext : addressText first = addressText second) : first = second := by
  have hbyte : ∀ index < 6, first.toNat / 256 ^ index % 256 = second.toNat / 256 ^ index % 256 := by
    intro index hindex
    apply byteText_injective (Nat.mod_lt _ (by decide)) (Nat.mod_lt _ (by decide))
    simp only [addressText, byteText, List.cons_append, List.nil_append, List.cons.injEq,
      and_true, true_and] at htext
    obtain ⟨h5, l5, h4, l4, h3, l3, h2, l2, h1, l1, h0, l0⟩ := htext
    match index, hindex with
    | 0, _ => simp only [byteText, h0, l0]
    | 1, _ => simp only [byteText, h1, l1]
    | 2, _ => simp only [byteText, h2, l2]
    | 3, _ => simp only [byteText, h3, l3]
    | 4, _ => simp only [byteText, h4, l4]
    | 5, _ => simp only [byteText, h5, l5]
  apply BitVec.eq_of_toNat_eq
  exact eq_of_bytes first.isLt second.isLt hbyte

/-- The text of an identity determines what it was made of. -/
theorem identity_injective {stable other : String} {address peer : Address}
    (hidentity : identity stable address = identity other peer) :
    stable = other ∧ address = peer := by
  have hlist := congrArg String.toList hidentity
  simp only [identity, String.toList_append, String.toList_ofList] at hlist
  obtain ⟨hstable, haddress⟩ := List.append_inj' hlist rfl
  refine ⟨?_, addressText_injective haddress⟩
  exact String.toList_inj.mp (List.append_cancel_right hstable)

theorem legacyAddress_eq_some {adapter found rest : String} :
    legacyAddress adapter found = some rest ↔ found = adapter ++ ":" ++ rest := by
  unfold legacyAddress
  constructor
  · intro hrest
    obtain ⟨hstart, hdrop⟩ := Option.ite_none_right_eq_some.mp hrest
    obtain ⟨tail, htail⟩ := List.isPrefixOf_iff_prefix.mp hstart
    rw [← Option.some.inj hdrop, ← htail, List.drop_left, ← String.toList_inj,
      String.toList_append, String.toList_ofList, htail]
  · rintro rfl
    have hlist : (adapter ++ ":" ++ rest).toList = (adapter ++ ":").toList ++ rest.toList :=
      String.toList_append
    rw [hlist, if_pos (List.isPrefixOf_iff_prefix.mpr ⟨_, rfl⟩), List.drop_left,
      String.ofList_toList]

theorem legacyAddress_identity (stable : String) (address : Address) :
    legacyAddress stable (identity stable address) =
      some (String.ofList (addressText address)) :=
  legacyAddress_eq_some.mpr rfl

/-! ## What the migration moves -/

theorem lookup_orInsert (devices : Table String String) (entry : String × String)
    (found : String) :
    (orInsert devices entry).lookup found =
      (devices.lookup found).or (if entry.1 = found then some entry.2 else none) := by
  unfold orInsert
  split
  · next hheld =>
    by_cases hfound : entry.1 = found
    · obtain ⟨key, hkey⟩ := Option.isSome_iff_exists.mp hheld
      rw [← hfound, hkey]
      rfl
    · rw [if_neg hfound, Option.or_none]
  · next hheld =>
    rw [Option.not_isSome_iff_eq_none] at hheld
    rw [Table.lookup_insert]
    by_cases hfound : found = entry.1
    · rw [if_pos hfound, if_pos hfound.symm, hfound, hheld]
      rfl
    · rw [if_neg hfound, if_neg (Ne.symm hfound), Option.or_none]

/-- The first entry of an identity is taken, unless the table has one already. -/
theorem lookup_foldl_orInsert (entries : List (String × String)) (devices : Table String String)
    (found : String) :
    (entries.foldl orInsert devices).lookup found =
      (devices.lookup found).or ((entries.find? fun entry ↦ entry.1 = found).map Prod.snd) := by
  induction entries generalizing devices with
  | nil => simp
  | cons entry rest ih =>
    rw [List.foldl_cons, ih, lookup_orInsert, Option.or_assoc, List.find?_cons]
    by_cases hfound : entry.1 = found <;> simp [hfound]

/-- Where the migration takes the key of an identity from, besides the identity itself. -/
def legacyKey (file : RegistryFile) (adapter stable found : String) : Option String :=
  (legacyAddress stable found).bind fun rest ↦ file.devices.lookup (adapter ++ ":" ++ rest)

theorem lookup_migrate (file : RegistryFile) (adapter stable found : String) :
    (migrateLegacyDevices file adapter stable).devices.lookup found =
      (if (legacyAddress adapter found).isNone then file.devices.lookup found else none).or
        (legacyKey file adapter stable found) := by
  set legacy := file.devices.entries.filterMap fun entry ↦
    (legacyAddress adapter entry.1).map fun address ↦ (stable ++ ":" ++ address, entry.2)
    with hlegacy
  have hmem : ∀ target key, (target, key) ∈ legacy ↔ ∃ rest,
      target = stable ++ ":" ++ rest ∧
        file.devices.lookup (adapter ++ ":" ++ rest) = some key := by
    intro target key
    simp only [hlegacy, List.mem_filterMap, Option.map_eq_some_iff, legacyAddress_eq_some,
      Sigma.exists, Table.mem_entries]
    constructor
    · rintro ⟨source, value, hvalue, rest, rfl, htarget⟩
      obtain ⟨rfl, rfl⟩ := Prod.mk.inj htarget
      exact ⟨rest, rfl, hvalue⟩
    · rintro ⟨rest, rfl, hvalue⟩
      exact ⟨_, key, hvalue, rest, rfl, rfl⟩
  have hfind : (legacy.find? fun entry ↦ entry.1 = found).map Prod.snd =
      legacyKey file adapter stable found := by
    ext key
    rw [legacyKey, Option.bind_eq_some_iff]
    simp only [legacyAddress_eq_some]
    constructor
    · intro hkey
      obtain ⟨⟨target, value⟩, hfirst, rfl⟩ := Option.map_eq_some_iff.mp hkey
      have htarget : target = found := by simpa using List.find?_some hfirst
      obtain ⟨rest, hrest, hvalue⟩ := (hmem _ _).mp (List.mem_of_find?_eq_some hfirst)
      exact ⟨rest, htarget.symm.trans hrest, hvalue⟩
    · rintro ⟨rest, hrest, hvalue⟩
      have hin := (hmem found key).mpr ⟨rest, hrest, hvalue⟩
      cases hfirst : legacy.find? fun entry ↦ entry.1 = found with
      | none =>
        have hnone := List.find?_eq_none.mp hfirst (found, key) hin
        simp at hnone
      | some entry =>
        obtain ⟨target, value⟩ := entry
        have htarget : target = found := by simpa using List.find?_some hfirst
        obtain ⟨other, hother, hheld⟩ := (hmem _ _).mp (List.mem_of_find?_eq_some hfirst)
        have hsame : legacyAddress stable found = some other :=
          legacyAddress_eq_some.mpr (htarget.symm.trans hother)
        rw [legacyAddress_eq_some.mpr hrest] at hsame
        obtain rfl := Option.some.inj hsame
        exact congrArg some (Option.some.inj (hheld.symm.trans hvalue))
  rw [← hfind]
  simp only [migrateLegacyDevices, ← hlegacy, lookup_foldl_orInsert, Table.lookup_retain]
  congr 1
  cases legacyAddress adapter found <;> cases file.devices.lookup found <;> rfl

/-! ## Distinct keys -/

/-- No two persisted devices have the same key. -/
def RegistryFile.Loadable (file : RegistryFile) : Prop :=
  ∀ first second key, file.devices.lookup first = some key →
    file.devices.lookup second = some key → first = second

/-- No two entries of the registry have the same key. -/
structure RegistryFile.Distinct (file : RegistryFile) : Prop where
  persisted : file.Loadable
  discovered : ∀ first second key seen later, file.ephemeral.lookup first = some (key, seen) →
    file.ephemeral.lookup second = some (key, later) → first = second
  apart : ∀ first second key seen, file.devices.lookup first = some key →
    file.ephemeral.lookup second ≠ some (key, seen)

theorem held_eq_some {file : RegistryFile} {found key : String} :
    file.held found = some key ↔ file.devices.lookup found = some key ∨
      file.devices.lookup found = none ∧ ∃ seen, file.ephemeral.lookup found = some (key, seen) := by
  unfold RegistryFile.held
  cases file.devices.lookup found with
  | some other => simp
  | none =>
    cases file.ephemeral.lookup found with
    | none => simp
    | some entry =>
      obtain ⟨other, seen⟩ := entry
      simp

theorem held_eq_none {file : RegistryFile} {found : String} :
    file.held found = none ↔
      file.devices.lookup found = none ∧ file.ephemeral.lookup found = none := by
  unfold RegistryFile.held
  rw [Option.or_eq_none_iff, Option.map_eq_none_iff]

/-- Two identities never share a key. -/
theorem RegistryFile.Distinct.held_injective {file : RegistryFile} (distinct : file.Distinct)
    {first second key : String} (hfirst : file.held first = some key)
    (hsecond : file.held second = some key) : first = second := by
  rcases held_eq_some.mp hfirst with hleft | ⟨-, seen, hleft⟩ <;>
    rcases held_eq_some.mp hsecond with hright | ⟨-, later, hright⟩
  · exact distinct.persisted first second key hleft hright
  · exact absurd hright (distinct.apart first second key later hleft)
  · exact absurd hleft (distinct.apart second first key seen hright)
  · exact distinct.discovered first second key seen later hleft hright

/-- Where a migrated key was before. -/
theorem migrated_origin {file : RegistryFile} {adapter stable found key : String}
    (hkey : (migrateLegacyDevices file adapter stable).devices.lookup found = some key) :
    (file.devices.lookup found = some key ∧ legacyAddress adapter found = none) ∨
      ∃ rest, found = stable ++ ":" ++ rest ∧
        file.devices.lookup (adapter ++ ":" ++ rest) = some key := by
  rw [lookup_migrate] at hkey
  rcases Option.or_eq_some_iff.mp hkey with hkept | ⟨-, hmoved⟩
  · obtain ⟨hother, hheld⟩ := Option.ite_none_right_eq_some.mp hkept
    exact .inl ⟨hheld, Option.isNone_iff_eq_none.mp hother⟩
  · obtain ⟨rest, hrest, hheld⟩ := Option.bind_eq_some_iff.mp hmoved
    exact .inr ⟨rest, legacyAddress_eq_some.mp hrest, hheld⟩

theorem RegistryFile.Distinct.migrate {file : RegistryFile} (distinct : file.Distinct)
    (adapter stable : String) : (migrateLegacyDevices file adapter stable).Distinct := by
  have horigin : ∀ found key,
      (migrateLegacyDevices file adapter stable).devices.lookup found = some key →
        ∃ source, file.devices.lookup source = some key := by
    intro found key hkey
    rcases migrated_origin hkey with ⟨hheld, -⟩ | ⟨rest, -, hheld⟩
    · exact ⟨found, hheld⟩
    · exact ⟨_, hheld⟩
  refine ⟨fun first second key hfirst hsecond ↦ ?_, distinct.discovered,
    fun first second key seen hfirst ↦ ?_⟩
  · rcases migrated_origin hfirst with ⟨hleft, hnone⟩ | ⟨rest, rfl, hleft⟩ <;>
      rcases migrated_origin hsecond with ⟨hright, hother⟩ | ⟨tail, rfl, hright⟩
    · exact distinct.persisted first second key hleft hright
    · have hsame := distinct.persisted _ _ key hleft hright
      rw [legacyAddress_eq_some.mpr hsame] at hnone
      cases hnone
    · have hsame := distinct.persisted _ _ key hright hleft
      rw [legacyAddress_eq_some.mpr hsame] at hother
      cases hother
    · have hsame := distinct.persisted _ _ key hleft hright
      have hrest := legacyAddress_eq_some.mpr hsame
      rw [legacyAddress_eq_some.mpr rfl] at hrest
      rw [Option.some.inj hrest]
  · obtain ⟨source, hsource⟩ := horigin first key hfirst
    exact distinct.apart source second key seen hsource

/-! ## One call -/

section Call

variable {file : RegistryFile} {now : Instant} {called : String} {draw : Draw}

theorem lookup_unexpired (file : RegistryFile) (now : Instant) (found : String) :
    (file.unexpired now).lookup found = (file.ephemeral.lookup found).filter fun entry ↦
      decide (now - entry.2 < ephemeralLifetime) :=
  Table.lookup_retain _ _ _

theorem devices_deviceKey (file : RegistryFile) (now : Instant) (called : String) (draw : Draw) :
    (file.deviceKey now called draw).1.devices = file.devices ∧
      (file.deviceKey now called draw).1.adapters = file.adapters := by
  unfold RegistryFile.deviceKey
  split
  · exact ⟨rfl, rfl⟩
  · split <;> exact ⟨rfl, rfl⟩

/-- The answer of a call is what the registry holds, or a new key. -/
theorem answer_deviceKey (file : RegistryFile) (now : Instant) (called : String) (draw : Draw) :
    (file.deviceKey now called draw).2 = (file.held called).getD ("device-" ++ draw.uuid) := by
  unfold RegistryFile.deviceKey RegistryFile.held
  cases file.devices.lookup called with
  | some key => rfl
  | none => cases file.ephemeral.lookup called <;> rfl

/-- Only a call that draws a key changes the entries of other identities. -/
theorem ephemeral_deviceKey (file : RegistryFile) (now : Instant) (called : String) (draw : Draw)
    {found : String} (hother : found ≠ called) :
    (file.deviceKey now called draw).1.ephemeral.lookup found =
      if file.draws called && (((file.unexpired now).lookup found).isNone ||
        (file.full now && found = draw.oldest)) then none
      else file.ephemeral.lookup found := by
  unfold RegistryFile.deviceKey RegistryFile.draws
  cases hdevice : file.devices.lookup called with
  | some key => rfl
  | none =>
    cases hentry : file.ephemeral.lookup called with
    | some entry =>
      simp only [Table.lookup_insert, if_neg hother]
      rfl
    | none =>
      have hkept : ((file.unexpired now).lookup found).isNone = false →
          (file.unexpired now).lookup found = file.ephemeral.lookup found := by
        intro hsome
        rw [lookup_unexpired] at hsome ⊢
        cases hfound : file.ephemeral.lookup found with
        | none => rfl
        | some old =>
          rw [hfound, Option.isNone_eq_false_iff] at hsome
          obtain ⟨value, hvalue⟩ := Option.isSome_iff_exists.mp hsome
          obtain ⟨hold, -⟩ := Option.filter_eq_some_iff.mp hvalue
          exact hvalue.trans hold.symm
      simp only [Table.lookup_insert, if_neg hother, Option.isNone_none, Bool.true_and]
      cases hlost : ((file.unexpired now).lookup found).isNone with
      | true =>
        have hnone := Option.isNone_iff_eq_none.mp hlost
        cases file.full now <;> simp [Table.lookup_erase, hnone]
      | false =>
        have hsame := hkept hlost
        cases file.full now with
        | false => simpa using hsame
        | true =>
          by_cases holdest : found = draw.oldest
          · simp [Table.lookup_erase, holdest]
          · simpa [Table.lookup_erase, holdest] using hsame

theorem called_deviceKey (file : RegistryFile) (now : Instant) (called : String) (draw : Draw) :
    (file.deviceKey now called draw).1.held called = some (file.deviceKey now called draw).2 := by
  unfold RegistryFile.deviceKey
  cases hdevice : file.devices.lookup called with
  | some key => simp [RegistryFile.held, hdevice]
  | none =>
    cases file.ephemeral.lookup called <;> simp [RegistryFile.held, hdevice]

/-- A call keeps every other key whose entry it does not evict. -/
theorem held_deviceKey (file : RegistryFile) (now : Instant) (called : String) (draw : Draw)
    {found : String} (hother : found ≠ called) :
    (file.deviceKey now called draw).1.held found =
      if file.evicts now called draw found then none else file.held found := by
  unfold RegistryFile.held RegistryFile.evicts
  rw [ephemeral_deviceKey file now called draw hother, (devices_deviceKey _ _ _ _).1]
  cases file.devices.lookup found with
  | some key => simp
  | none =>
    simp only [Option.isNone_none, Bool.and_true, Option.none_or]
    split <;> rfl

/-- Where an entry of a discovered device comes from. -/
theorem ephemeral_origin {found key : String} {seen : Instant}
    (hentry : (file.deviceKey now called draw).1.ephemeral.lookup found = some (key, seen)) :
    (∃ earlier, file.ephemeral.lookup found = some (key, earlier)) ∨
      found = called ∧ key = "device-" ++ draw.uuid ∧ file.draws called = true := by
  by_cases hother : found = called
  · subst hother
    unfold RegistryFile.deviceKey at hentry
    unfold RegistryFile.draws
    cases hdevice : file.devices.lookup found with
    | some other =>
      simp only [hdevice] at hentry
      exact .inl ⟨seen, hentry⟩
    | none =>
      cases hold : file.ephemeral.lookup found with
      | some entry =>
        simp only [hdevice, hold, Table.lookup_insert, if_true] at hentry
        rw [← (Prod.mk.inj (Option.some.inj hentry)).1]
        exact .inl ⟨entry.2, rfl⟩
      | none =>
        simp only [hdevice, hold, Table.lookup_insert, if_true] at hentry
        exact .inr ⟨rfl, (Prod.mk.inj (Option.some.inj hentry)).1.symm, rfl⟩
  · rw [ephemeral_deviceKey file now called draw hother] at hentry
    obtain ⟨-, hold⟩ := Option.ite_none_left_eq_some.mp hentry
    exact .inl ⟨seen, hold⟩

theorem length_insert (table : Table String (String × Instant)) (found : String)
    (entry : String × Instant) :
    (table.insert found entry).keys.length = (table.keys.erase found).length + 1 := by
  rw [AList.keys_insert, List.length_cons]

/-- The table of discovered devices stays within its bound. -/
theorem length_deviceKey (hbound : file.ephemeral.keys.length ≤ ephemeralLimit)
    (hdraw : file.draws called = true → file.Oldest now draw) :
    (file.deviceKey now called draw).1.ephemeral.keys.length ≤ ephemeralLimit := by
  unfold RegistryFile.deviceKey
  cases hdevice : file.devices.lookup called with
  | some key => exact hbound
  | none =>
    cases hold : file.ephemeral.lookup called with
    | some entry =>
      have hmem : called ∈ file.ephemeral.keys := (Table.mem_keys _ _).mpr ⟨entry, hold⟩
      have hpositive := List.length_pos_of_mem hmem
      simp only [length_insert, List.length_erase_of_mem hmem]
      omega
    | none =>
      have hkept : (file.unexpired now).keys.length ≤ ephemeralLimit := by
        refine Nat.le_trans (List.Sublist.length_le ?_) hbound
        exact List.filter_sublist.map _
      have hroom : (if file.full now then (file.unexpired now).erase draw.oldest
          else file.unexpired now).keys.length < ephemeralLimit := by
        cases hfull : file.full now with
        | false => simpa [RegistryFile.full] using hfull
        | true =>
          have hdraws : file.draws called = true := by simp [RegistryFile.draws, hdevice, hold]
          rcases hdraw hdraws with hfalse | ⟨entry, hentry, -⟩
          · cases hfull.symm.trans hfalse
          · have hmem : draw.oldest ∈ (file.unexpired now).keys :=
              (Table.mem_keys _ _).mpr ⟨entry, hentry⟩
            have hpositive := List.length_pos_of_mem hmem
            rw [if_pos rfl, AList.keys_erase, List.length_erase_of_mem hmem]
            omega
      simp only [length_insert]
      refine Nat.le_trans (Nat.succ_le_succ ?_) hroom
      exact List.Sublist.length_le List.erase_sublist

theorem draws_iff : file.draws called = true ↔ file.held called = none := by
  rw [held_eq_none, RegistryFile.draws, Bool.and_eq_true, Option.isNone_iff_eq_none,
    Option.isNone_iff_eq_none]

theorem answer_of_held {key : String} (hheld : file.held called = some key) :
    (file.deviceKey now called draw).2 = key := by
  rw [answer_deviceKey, hheld]
  rfl

/-- A fresh key is no other entry's key. -/
theorem RegistryFile.Distinct.deviceKey (distinct : file.Distinct)
    (hfresh : file.draws called = true →
      (∀ found, file.devices.lookup found ≠ some ("device-" ++ draw.uuid)) ∧
        ∀ found seen, file.ephemeral.lookup found ≠ some ("device-" ++ draw.uuid, seen)) :
    (file.deviceKey now called draw).1.Distinct := by
  have hdevices := (devices_deviceKey file now called draw).1
  refine ⟨?_, fun first second key seen later hfirst hsecond ↦ ?_,
    fun first second key seen hfirst hsecond ↦ ?_⟩
  · rw [RegistryFile.Loadable, hdevices]
    exact distinct.persisted
  · rcases ephemeral_origin hfirst with ⟨earlier, hleft⟩ | ⟨hleft, hkey, hdraws⟩ <;>
      rcases ephemeral_origin hsecond with ⟨previous, hright⟩ | ⟨hright, hsame, hother⟩
    · exact distinct.discovered first second key earlier previous hleft hright
    · exact absurd (hsame ▸ hleft) ((hfresh hother).2 first earlier)
    · exact absurd (hkey ▸ hright) ((hfresh hdraws).2 second previous)
    · rw [hleft, hright]
  · rw [hdevices] at hfirst
    rcases ephemeral_origin hsecond with ⟨earlier, hright⟩ | ⟨-, hkey, hdraws⟩
    · exact distinct.apart first second key earlier hfirst hright
    · exact (hfresh hdraws).1 first (hkey ▸ hfirst)

end Call

/-- Move the entry of an identity to the persisted ones. -/
def RegistryFile.promoted (file : RegistryFile) (called key : String) : RegistryFile :=
  { file with
    ephemeral := file.ephemeral.erase called
    devices := file.devices.insert called key }

theorem promoteDevice_eq (file : RegistryFile) (now : Instant) (called : String) (draw : Draw) :
    file.promoteDevice now called draw =
      if ((file.deviceKey now called draw).1.ephemeral.lookup called).isSome then
        ((file.deviceKey now called draw).1.promoted called (file.deviceKey now called draw).2,
          (file.deviceKey now called draw).2, true)
      else ((file.deviceKey now called draw).1, (file.deviceKey now called draw).2, false) := rfl

theorem answer_promoteDevice (file : RegistryFile) (now : Instant) (called : String)
    (draw : Draw) :
    (file.promoteDevice now called draw).2.1 = (file.deviceKey now called draw).2 := by
  rw [promoteDevice_eq]
  split <;> rfl

theorem held_promoted {file : RegistryFile} {called key : String}
    (hheld : file.held called = some key) (found : String) :
    (file.promoted called key).held found = file.held found := by
  by_cases hfound : found = called
  · subst hfound
    rw [hheld]
    simp [RegistryFile.held, RegistryFile.promoted]
  · simp [RegistryFile.held, RegistryFile.promoted, hfound]

theorem RegistryFile.Distinct.promoted {file : RegistryFile} (distinct : file.Distinct)
    {called key : String} (hheld : file.held called = some key) :
    (file.promoted called key).Distinct := by
  have hpersisted : ∀ found other,
      (file.promoted called key).devices.lookup found = some other → file.held found = some other := by
    intro found other hfound
    rw [← held_promoted hheld]
    exact held_eq_some.mpr (.inl hfound)
  refine ⟨fun first second other hfirst hsecond ↦ ?_,
    fun first second other seen later hfirst hsecond ↦ ?_,
    fun first second other seen hfirst hsecond ↦ ?_⟩
  · exact distinct.held_injective (hpersisted first other hfirst) (hpersisted second other hsecond)
  · simp only [RegistryFile.promoted, Table.lookup_erase] at hfirst hsecond
    obtain ⟨-, hleft⟩ := Option.ite_none_left_eq_some.mp hfirst
    obtain ⟨-, hright⟩ := Option.ite_none_left_eq_some.mp hsecond
    exact distinct.discovered first second other seen later hleft hright
  · simp only [RegistryFile.promoted, Table.lookup_erase] at hsecond
    obtain ⟨hne, hright⟩ := Option.ite_none_left_eq_some.mp hsecond
    rcases held_eq_some.mp (hpersisted first other hfirst) with hleft | ⟨-, earlier, hleft⟩
    · exact distinct.apart first second other seen hleft hright
    · -- The first identity was discovered before, so it is the promoted one.
      have hsame := distinct.discovered first second other earlier seen hleft hright
      rw [← hsame] at hne
      simp only [RegistryFile.promoted, Table.lookup_insert, if_neg hne] at hfirst
      exact distinct.apart first second other seen hfirst hright

/-! ## Runs -/

/-- The state that was handed to the writer has only promoted devices, with distinct keys. -/
structure OnlyPromoted (promoted : List String) (file : RegistryFile) : Prop where
  discovered : file.ephemeral = ∅
  persisted : ∀ found key, file.devices.lookup found = some key → key ∈ promoted
  loadable : file.Loadable

/-- What the registry promises: identities with distinct keys, a call that answers with the key
on record, a bounded number of discovered devices, and none of them handed to the writer. -/
structure Promised (state : State) : Prop where
  distinct : ∀ stable other address peer key,
    state.registry.held (identity stable address) = some key →
      state.registry.held (identity other peer) = some key → stable = other ∧ address = peer
  stable : ∀ adapter address key, state.returned.lookup (adapter, address) = some key →
    ∀ draw, (state.registry.deviceKey state.now
      (state.registry.deviceIdentity adapter address) draw).2 = key
  promotion : ∀ adapter address key, state.returned.lookup (adapter, address) = some key →
    ∀ draw, (state.registry.promoteDevice state.now
      (state.registry.deviceIdentity adapter address) draw).2.1 = key
  bounded : state.registry.ephemeral.keys.length ≤ ephemeralLimit
  unpromoted : ∀ file ∈ state.scheduled, OnlyPromoted state.promoted file

/-- The migration leaves the key of the identity where it is. -/
def RegistryFile.Spared (file : RegistryFile) (adapter stable found : String) : Prop :=
  match file.devices.lookup found with
  | some _ => adapter = stable ∨ legacyAddress adapter found = none
  | none => legacyKey file adapter stable found = none

instance (file : RegistryFile) (adapter stable found : String) :
    Decidable (file.Spared adapter stable found) := by
  unfold RegistryFile.Spared
  split <;> infer_instance

/-- A key on record survives the first registration of the adapter: its device was persisted
under the adapter's name, or the migration does not touch its identity. -/
def State.Moves (self : State) (adapter stable : String) (peer : String × Address) : Prop :=
  if peer.1 = adapter then
    (self.registry.held (identity stable peer.2)).isSome = true ∨
      (self.registry.devices.lookup (self.registry.deviceIdentity peer.1 peer.2)).isSome = true
  else self.registry.Spared adapter stable (self.registry.deviceIdentity peer.1 peer.2)

instance (self : State) (adapter stable : String) (peer : String × Address) :
    Decidable (self.Moves adapter stable peer) := by
  unfold State.Moves
  split <;> infer_instance

/-- Every key on record survives the step. -/
def Migrates (state : State) (action : Action) : Prop :=
  match action with
  | .registerAdapter adapter stable =>
    (state.registry.adapters.lookup adapter).isSome = true ∨
      ∀ peer ∈ state.returned.keys, state.Moves adapter stable peer
  | _ => True

instance (state : State) (action : Action) : Decidable (Migrates state action) := by
  unfold Migrates
  split <;> infer_instance

structure Coherent (state : State) : Prop where
  distinct : state.registry.Distinct
  persisted : ∀ found key, state.registry.devices.lookup found = some key →
    key ∈ state.issued ∧ key ∈ state.promoted
  discovered : ∀ found key seen, state.registry.ephemeral.lookup found = some (key, seen) →
    key ∈ state.issued
  returned : ∀ adapter address key, state.returned.lookup (adapter, address) = some key →
    state.registry.held (state.registry.deviceIdentity adapter address) = some key
  bounded : state.registry.ephemeral.keys.length ≤ ephemeralLimit
  unpromoted : ∀ file ∈ state.scheduled, OnlyPromoted state.promoted file

namespace Coherent

variable {state : State}

theorem promised (coherent : Coherent state) : Promised state where
  distinct _ _ _ _ _ hfirst hsecond :=
    identity_injective (coherent.distinct.held_injective hfirst hsecond)
  stable adapter address key hreturned _ :=
    answer_of_held (coherent.returned adapter address key hreturned)
  promotion adapter address key hreturned draw := by
    rw [answer_promoteDevice]
    exact answer_of_held (coherent.returned adapter address key hreturned)
  bounded := coherent.bounded
  unpromoted := coherent.unpromoted

/-- A call keeps every record whose entry it does not evict, and adds its answer. -/
theorem returned_deviceKey (coherent : Coherent state) (adapter : String) (address : Address)
    (draw : Draw) (other : String) (peer : Address) (key : String)
    (hreturned : (state.deviceKey adapter address draw).returned.lookup (other, peer) = some key) :
    (state.deviceKey adapter address draw).registry.held
      (state.registry.deviceIdentity other peer) = some key := by
  set called := state.registry.deviceIdentity adapter address with hcalled
  change (state.recorded adapter address draw _).lookup (other, peer) = some key at hreturned
  change (state.registry.deviceKey state.now called draw).1.held _ = some key
  rw [State.recorded, Table.lookup_insert] at hreturned
  split at hreturned
  · next hpeer =>
    obtain ⟨rfl, rfl⟩ := Prod.mk.inj hpeer
    rw [← hreturned]
    exact called_deviceKey _ _ _ _
  · rw [Table.lookup_retain] at hreturned
    obtain ⟨hold, hkept⟩ := Option.filter_eq_some_iff.mp hreturned
    have hheld := coherent.returned other peer key hold
    by_cases hsame : state.registry.deviceIdentity other peer = called
    · rw [hsame] at hheld ⊢
      rw [called_deviceKey, answer_of_held hheld]
    · rw [held_deviceKey _ _ _ _ hsame, if_neg]
      · exact hheld
      · simpa using hkept

theorem deviceKey (coherent : Coherent state) {adapter : String} {address : Address} {draw : Draw}
    (hdraws : state.Draws adapter address draw) :
    Coherent (state.deviceKey adapter address draw) := by
  set called := state.registry.deviceIdentity adapter address with hcalled
  obtain ⟨hdevices, hadapters⟩ := devices_deviceKey state.registry state.now called draw
  have hfresh : state.registry.draws called = true →
      "device-" ++ draw.uuid ∉ state.issued ∧ state.registry.Oldest state.now draw := by
    intro hdraw
    rcases hdraws with hfalse | hfresh
    · cases hfalse.symm.trans hdraw
    · exact hfresh
  refine ⟨coherent.distinct.deviceKey fun hdraw ↦ ⟨fun found hfound ↦ ?_,
    fun found seen hfound ↦ ?_⟩, fun found key hkey ↦ ?_, fun found key seen hkey ↦ ?_,
    fun other peer key hreturned ↦ ?_,
    length_deviceKey coherent.bounded fun hdraw ↦ (hfresh hdraw).2, coherent.unpromoted⟩
  · exact (hfresh hdraw).1 (coherent.persisted found _ hfound).1
  · exact (hfresh hdraw).1 (coherent.discovered found _ seen hfound)
  · have hold : state.registry.devices.lookup found = some key := hdevices ▸ hkey
    obtain ⟨hissued, hpromoted⟩ := coherent.persisted found key hold
    exact ⟨List.mem_cons_of_mem _ hissued, hpromoted⟩
  · rcases ephemeral_origin hkey with ⟨earlier, hold⟩ | ⟨-, rfl, hdraw⟩
    · exact List.mem_cons_of_mem _ (coherent.discovered found key earlier hold)
    · have hanswer : (state.registry.deviceKey state.now called draw).2 =
          "device-" ++ draw.uuid := by
        rw [answer_deviceKey, draws_iff.mp hdraw]
        rfl
      change _ ∈ (state.registry.deviceKey state.now called draw).2 :: state.issued
      rw [hanswer]
      exact List.mem_cons_self
  · have hidentity : (state.deviceKey adapter address draw).registry.deviceIdentity other peer =
        state.registry.deviceIdentity other peer := by
      change identity (((state.registry.deviceKey state.now called draw).1.adapters.lookup
        other).getD other) peer = _
      rw [hadapters]
      rfl
    rw [hidentity]
    exact coherent.returned_deviceKey adapter address draw other peer key hreturned

/-- The entry of an identity is promoted with the key it has, and the registry is handed to
the writer. -/
theorem promote (coherent : Coherent state) {called key : String}
    (hheld : state.registry.held called = some key) (hissued : key ∈ state.issued) :
    Coherent { state.persist (state.registry.promoted called key) with
      promoted := key :: state.promoted } := by
  have hpersisted : ∀ found other,
      (state.registry.promoted called key).devices.lookup found = some other →
        other ∈ state.issued ∧ other ∈ key :: state.promoted := by
    intro found other hfound
    simp only [RegistryFile.promoted, Table.lookup_insert] at hfound
    split at hfound
    · rw [← Option.some.inj hfound]
      exact ⟨hissued, List.mem_cons_self⟩
    · obtain ⟨hold, hpromoted⟩ := coherent.persisted found other hfound
      exact ⟨hold, List.mem_cons_of_mem _ hpromoted⟩
  refine ⟨coherent.distinct.promoted hheld, hpersisted, fun found other seen hfound ↦ ?_,
    fun other peer found hreturned ↦ ?_, ?_, fun file hfile ↦ ?_⟩
  · simp only [State.persist, RegistryFile.promoted, Table.lookup_erase] at hfound
    exact coherent.discovered found other seen (Option.ite_none_left_eq_some.mp hfound).2
  · exact (held_promoted hheld _).trans (coherent.returned other peer found hreturned)
  · refine Nat.le_trans (List.Sublist.length_le ?_) coherent.bounded
    change (state.registry.ephemeral.erase called).keys.Sublist _
    rw [AList.keys_erase]
    exact List.erase_sublist
  · rcases List.mem_append.mp hfile with hold | hnew
    · have honly := coherent.unpromoted file hold
      exact { honly with
        persisted := fun found other hother ↦
          List.mem_cons_of_mem _ (honly.persisted found other hother) }
    · rw [List.mem_singleton.mp hnew]
      exact ⟨rfl, fun found other hother ↦ (hpersisted found other hother).2,
        (coherent.distinct.promoted hheld).persisted⟩

theorem promoteDevice (coherent : Coherent state) {adapter : String} {address : Address}
    {draw : Draw} (hdraws : state.Draws adapter address draw) :
    Coherent (state.promoteDevice adapter address draw) := by
  have hresolved := coherent.deviceKey hdraws
  unfold State.promoteDevice
  rw [promoteDevice_eq]
  by_cases hpresent : ((state.registry.deviceKey state.now
      (state.registry.deviceIdentity adapter address) draw).1.ephemeral.lookup
        (state.registry.deviceIdentity adapter address)).isSome = true
  · rw [if_pos hpresent]
    exact hresolved.promote (called_deviceKey _ _ _ _) List.mem_cons_self
  · rw [if_neg hpresent]
    exact hresolved

/-- The identity of a device, after its own or another adapter was registered. -/
theorem deviceIdentity_insert (file : RegistryFile) (adapter stable other : String)
    (peer : Address) (devices : Table String String) :
    RegistryFile.deviceIdentity { file with
        adapters := file.adapters.insert adapter stable, devices := devices } other peer =
      if other = adapter then identity stable peer else file.deviceIdentity other peer := by
  simp only [RegistryFile.deviceIdentity, Table.lookup_insert]
  by_cases hother : other = adapter
  · simp [hother]
  · simp [hother]

theorem lookup_retained {adapter stable other key : String} {peer : Address} :
    (state.retained adapter stable).lookup (other, peer) = some key ↔
      state.returned.lookup (other, peer) = some key ∧ (other ≠ adapter ∨
        state.registry.adapters.lookup adapter = none ∧
          state.registry.held (identity stable peer) = none) := by
  rw [State.retained, Table.lookup_retain, Option.filter_eq_some_iff]
  simp [Option.isNone_iff_eq_none]

end Coherent

/-- What the migration does to the key of a single identity. -/
theorem held_migrate_of_spared {file : RegistryFile} {adapter stable found key : String}
    (hheld : file.held found = some key) (hspared : file.Spared adapter stable found) :
    (migrateLegacyDevices file adapter stable).held found = some key := by
  unfold RegistryFile.Spared at hspared
  rcases held_eq_some.mp hheld with hdevice | ⟨hdevice, seen, hentry⟩
  · rw [hdevice] at hspared
    refine held_eq_some.mpr (.inl ?_)
    rw [lookup_migrate]
    cases hlegacy : legacyAddress adapter found with
    | none =>
      rw [hdevice]
      rfl
    | some rest =>
      obtain rfl : adapter = stable := by simpa [hlegacy] using hspared
      have hkey : legacyKey file adapter adapter found = some key := by
        rw [legacyKey, hlegacy]
        rwa [legacyAddress_eq_some.mp hlegacy] at hdevice
      rw [hkey]
      rfl
  · rw [hdevice] at hspared
    refine held_eq_some.mpr (.inr ⟨?_, seen, hentry⟩)
    rw [lookup_migrate, hspared, hdevice, ite_self]
    rfl

/-- A device that was persisted under the adapter's name gets its key under the stable one. -/
theorem held_migrate_own {file : RegistryFile} {adapter stable key : String} {peer : Address}
    (hdevice : file.devices.lookup (identity adapter peer) = some key)
    (hnone : file.devices.lookup (identity stable peer) = none) :
    (migrateLegacyDevices file adapter stable).held (identity stable peer) = some key := by
  refine held_eq_some.mpr (.inl ?_)
  have hsource : legacyKey file adapter stable (identity stable peer) = some key := by
    rw [legacyKey, legacyAddress_identity]
    exact hdevice
  rw [lookup_migrate, hnone, hsource]
  simp

/-- An identity that the migration touches does not keep its key. -/
theorem spared_of_held {file : RegistryFile} (distinct : file.Distinct)
    {adapter stable found key : String} (hheld : file.held found = some key)
    (hmigrated : (migrateLegacyDevices file adapter stable).held found = some key) :
    file.Spared adapter stable found := by
  have hnotDiscovered : ∀ source seen, file.devices.lookup source = some key →
      file.ephemeral.lookup found ≠ some (key, seen) :=
    fun source seen hsource ↦ distinct.apart source found key seen hsource
  rcases held_eq_some.mp hheld with hdevice | ⟨hdevice, seen, hentry⟩
  · rw [RegistryFile.Spared, hdevice]
    rcases held_eq_some.mp hmigrated with hkey | ⟨-, later, hkey⟩
    · rcases migrated_origin hkey with ⟨-, hnone⟩ | ⟨rest, hrest, hsource⟩
      · exact .inr hnone
      · -- The key came from another name, which can only be the identity itself.
        have hsame := distinct.persisted _ _ key hdevice hsource
        rw [hsame, ← String.toList_inj] at hrest
        simp only [String.toList_append, List.append_cancel_right_eq] at hrest
        exact .inl (String.toList_inj.mp hrest)
    · exact absurd hkey (hnotDiscovered found later hdevice)
  · rw [RegistryFile.Spared, hdevice]
    cases hlegacy : legacyKey file adapter stable found with
    | none => rfl
    | some other =>
      obtain ⟨rest, -, hsource⟩ := Option.bind_eq_some_iff.mp hlegacy
      have hkey : (migrateLegacyDevices file adapter stable).held found = some other := by
        refine held_eq_some.mpr (.inl ?_)
        rw [lookup_migrate, hdevice, hlegacy, ite_self]
        rfl
      rw [hmigrated] at hkey
      rw [← Option.some.inj hkey] at hsource
      exact absurd hentry (hnotDiscovered _ seen hsource)

/-- The identity of a key that is still found was not taken from the stable one by another
device. -/
theorem persisted_of_migrated {file : RegistryFile} {adapter stable key : String} {peer : Address}
    (hnone : file.held (identity stable peer) = none)
    (hmigrated : (migrateLegacyDevices file adapter stable).held (identity stable peer) =
      some key) : file.devices.lookup (identity adapter peer) = some key := by
  obtain ⟨hdevice, hentry⟩ := held_eq_none.mp hnone
  rcases held_eq_some.mp hmigrated with hkey | ⟨-, seen, hkey⟩
  · rcases migrated_origin hkey with ⟨hheld, -⟩ | ⟨rest, hrest, hsource⟩
    · cases hdevice.symm.trans hheld
    · have haddress := legacyAddress_eq_some.mpr hrest
      rw [legacyAddress_identity] at haddress
      rw [← Option.some.inj haddress] at hsource
      exact hsource
  · cases hentry.symm.trans hkey

/-- An identity that gives the same answer for every draw has an entry. -/
theorem held_of_answer {file : RegistryFile} {now : Instant} {found key : String}
    (hanswer : ∀ draw, (file.deviceKey now found draw).2 = key) : file.held found = some key := by
  cases hheld : file.held found with
  | some other =>
    have hsame := hanswer ⟨"", ""⟩
    rw [answer_deviceKey, hheld] at hsame
    exact congrArg some hsame
  | none =>
    have hfirst := hanswer ⟨"", ""⟩
    have hsecond := hanswer ⟨"0", ""⟩
    rw [answer_deviceKey, hheld] at hfirst hsecond
    exact absurd (hfirst.trans hsecond.symm) (by decide)

namespace Coherent

variable {state : State}

/-- A registry whose keys are those of the state, and whose records are kept, is handed to the
writer. -/
theorem replaced (coherent : Coherent state) {registry : RegistryFile}
    {records : Table (String × Address) String} (hdistinct : registry.Distinct)
    (hdevices : ∀ found key, registry.devices.lookup found = some key →
      ∃ source, state.registry.devices.lookup source = some key)
    (hephemeral : registry.ephemeral = state.registry.ephemeral)
    (hreturned : ∀ adapter address key, records.lookup (adapter, address) = some key →
      registry.held (registry.deviceIdentity adapter address) = some key) :
    Coherent { state.persist registry with returned := records } := by
  have hpersisted : ∀ found key, registry.devices.lookup found = some key →
      key ∈ state.issued ∧ key ∈ state.promoted := by
    intro found key hkey
    obtain ⟨source, hsource⟩ := hdevices found key hkey
    exact coherent.persisted source key hsource
  refine ⟨hdistinct, hpersisted, fun found key seen hentry ↦ ?_, hreturned, ?_, ?_⟩
  · rw [State.persist, hephemeral] at hentry
    exact coherent.discovered found key seen hentry
  · rw [State.persist, hephemeral]
    exact coherent.bounded
  · intro file hfile
    rcases List.mem_append.mp hfile with hold | hnew
    · exact coherent.unpromoted file hold
    · rw [List.mem_singleton.mp hnew]
      exact ⟨rfl, fun found key hkey ↦ (hpersisted found key hkey).2, hdistinct.persisted⟩

/-- The records that a first registration leaves, when each of them meets the condition. -/
theorem returned_migrate (coherent : Coherent state) {adapter stable other key : String}
    {peer : Address} (hmoves : ∀ peer ∈ state.returned.keys, state.Moves adapter stable peer)
    (hreturned : (state.retained adapter stable).lookup (other, peer) = some key) :
    (migrateLegacyDevices state.registry adapter stable).held
      (if other = adapter then identity stable peer
        else state.registry.deviceIdentity other peer) = some key := by
  obtain ⟨hold, hkept⟩ := lookup_retained.mp hreturned
  have hheld := coherent.returned other peer key hold
  have hmove := hmoves (other, peer) ((Table.mem_keys _ _).mpr ⟨key, hold⟩)
  rw [State.Moves] at hmove
  by_cases hother : other = adapter
  · subst hother
    obtain ⟨hfirst, hnone⟩ : state.registry.adapters.lookup other = none ∧
        state.registry.held (identity stable peer) = none := by simpa using hkept
    have hname : state.registry.deviceIdentity other peer = identity other peer := by
      rw [RegistryFile.deviceIdentity, hfirst]
      rfl
    rw [if_pos rfl, hnone, hname] at hmove
    obtain hfalse | hdevice := hmove
    · cases hfalse
    · obtain ⟨value, hvalue⟩ := Option.isSome_iff_exists.mp hdevice
      rw [hname, RegistryFile.held, hvalue] at hheld
      rw [if_pos rfl]
      apply held_migrate_own _ (held_eq_none.mp hnone).1
      rw [hvalue]
      exact hheld
  · rw [if_neg hother] at hmove ⊢
    exact held_migrate_of_spared hheld hmove

theorem registerAdapter (coherent : Coherent state) {adapter stable : String}
    (hmigrates : Migrates state (.registerAdapter adapter stable)) :
    Coherent (state.registerAdapter adapter stable) := by
  unfold State.registerAdapter
  split
  · exact coherent
  · cases hadapter : state.registry.adapters.lookup adapter with
    | none =>
      simp only [Option.isNone_none, if_true]
      have hmoves : ∀ peer ∈ state.returned.keys, state.Moves adapter stable peer := by
        rcases hmigrates with hpresent | hmoves
        · rw [hadapter] at hpresent
          cases hpresent
        · exact hmoves
      have hdistinct := coherent.distinct.migrate adapter stable
      refine coherent.replaced ⟨hdistinct.persisted, hdistinct.discovered, hdistinct.apart⟩ ?_
        rfl ?_
      · intro found key hkey
        rcases migrated_origin hkey with ⟨hheld, -⟩ | ⟨rest, -, hheld⟩
        · exact ⟨found, hheld⟩
        · exact ⟨_, hheld⟩
      · intro other peer key hreturned
        have hidentity := deviceIdentity_insert state.registry adapter stable other peer
          (migrateLegacyDevices state.registry adapter stable).devices
        exact hidentity ▸ coherent.returned_migrate hmoves hreturned
    | some previous =>
      simp only [Option.isNone_some, Bool.false_eq_true, if_false]
      refine coherent.replaced ⟨coherent.distinct.persisted, coherent.distinct.discovered,
        coherent.distinct.apart⟩ (fun found key hkey ↦ ⟨found, hkey⟩) rfl ?_
      intro other peer key hreturned
      obtain ⟨hold, hkept⟩ := lookup_retained.mp hreturned
      have hother : other ≠ adapter := by simpa [hadapter] using hkept
      have hidentity := deviceIdentity_insert state.registry adapter stable other peer
        state.registry.devices
      rw [if_neg hother] at hidentity
      exact hidentity ▸ coherent.returned other peer key hold

theorem step (coherent : Coherent state) {stored : RegistryFile} {action : Action} {next : State}
    (hstep : (registry stored).step state action = some next)
    (hmigrates : Migrates state action) : Coherent next := by
  cases action with
  | advance elapsed =>
    rw [← Option.some.inj hstep]
    exact { coherent with }
  | registerAdapter adapter stable =>
    rw [← Option.some.inj hstep]
    exact coherent.registerAdapter hmigrates
  | deviceKey adapter address draw =>
    obtain ⟨hdraws, hnext⟩ := Option.ite_none_right_eq_some.mp hstep
    rw [← Option.some.inj hnext]
    exact coherent.deviceKey hdraws
  | promoteDevice adapter address draw =>
    obtain ⟨hdraws, hnext⟩ := Option.ite_none_right_eq_some.mp hstep
    rw [← Option.some.inj hnext]
    exact coherent.promoteDevice hdraws

/-- A first registration that keeps the answers meets the condition. -/
theorem moves_of_promised (coherent : Coherent state) {adapter stable : String}
    (hadapter : state.registry.adapters.lookup adapter = none)
    (promised : Promised (state.registerAdapter adapter stable)) (peer : String × Address)
    (hpeer : peer ∈ state.returned.keys) : state.Moves adapter stable peer := by
  obtain ⟨key, hold⟩ := (Table.mem_keys _ _).mp hpeer
  obtain ⟨other, address⟩ := peer
  have hheld := coherent.returned other address key hold
  have hafter : (state.retained adapter stable).lookup (other, address) = some key →
      (migrateLegacyDevices state.registry adapter stable).held
        (if other = adapter then identity stable address
          else state.registry.deviceIdentity other address) = some key := by
    intro hkept
    have hstable := promised.stable other address key
    rw [State.registerAdapter, hadapter, if_neg (by simp)] at hstable
    simp only [Option.isNone_none, if_true] at hstable
    have hidentity := deviceIdentity_insert state.registry adapter stable other address
      (migrateLegacyDevices state.registry adapter stable).devices
    have hfound := held_of_answer (hstable hkept)
    rw [← hidentity]
    exact hfound
  rw [State.Moves]
  by_cases hother : other = adapter
  · subst hother
    rw [if_pos rfl]
    cases hstable : state.registry.held (identity stable address) with
    | some value => exact .inl rfl
    | none =>
      have hkept := hafter (lookup_retained.mpr ⟨hold, .inr ⟨hadapter, hstable⟩⟩)
      rw [if_pos rfl] at hkept
      have hname : state.registry.deviceIdentity other address = identity other address := by
        rw [RegistryFile.deviceIdentity, hadapter]
        rfl
      rw [hname, persisted_of_migrated hstable hkept]
      exact .inr rfl
  · have hkept := hafter (lookup_retained.mpr ⟨hold, .inl hother⟩)
    rw [if_neg hother] at hkept ⊢
    exact spared_of_held coherent.distinct hheld hkept

theorem migrates_of_promised (coherent : Coherent state) {stored : RegistryFile} {action : Action}
    {next : State} (hstep : (registry stored).step state action = some next)
    (promised : Promised next) : Migrates state action := by
  cases action with
  | registerAdapter adapter stable =>
    rw [← Option.some.inj hstep] at promised
    cases hadapter : state.registry.adapters.lookup adapter with
    | some previous =>
      refine .inl ?_
      rw [hadapter]
      rfl
    | none => exact .inr (coherent.moves_of_promised hadapter promised)
  | advance => trivial
  | deviceKey => trivial
  | promoteDevice => trivial

/-- The devices of a file that was written have distinct keys. -/
theorem load {stored : RegistryFile} (hdistinct : stored.Loadable) :
    Coherent (State.load stored) where
  distinct := by
    refine ⟨hdistinct, fun _ _ _ _ _ hfirst ↦ ?_, fun _ _ _ _ _ hsecond ↦ ?_⟩
    · cases hfirst
    · cases hsecond
  persisted found key hkey := by
    have hmem := (Table.mem_values stored.devices key).mpr ⟨found, hkey⟩
    exact ⟨hmem, hmem⟩
  discovered _ _ _ hentry := by cases hentry
  returned _ _ _ hreturned := by cases hreturned
  bounded := Nat.zero_le _
  unpromoted _ hfile := by cases hfile

end Coherent

/-- The registry keeps its promises over a run exactly when every first registration of an
adapter finds the keys on record where the migration looks for them. -/
theorem always_promised_iff_migrates (stored : RegistryFile) (actions : List Action)
    (final : State)
    (hdistinct : stored.Loadable)
    (hrun : (registry stored).run (registry stored).init actions = some final) :
    (registry stored).Always Promised (registry stored).init actions ↔
      (registry stored).Meets Migrates (registry stored).init actions := by
  apply (registry stored).always_iff_meets fun _ (coherent : Coherent _) ↦ coherent.promised
  · exact fun _ _ _ coherent hstep hmigrates ↦ coherent.step hstep hmigrates
  · exact fun _ _ _ coherent hstep promised ↦ coherent.migrates_of_promised hstep promised
  · exact Coherent.load hdistinct
  · exact hrun

/-- The file that a first start creates. -/
def firstStart : RegistryFile := ⟨1, ∅, ∅, ∅⟩

/-- The file of a daemon that has promoted a device and knew its adapter by name only. -/
def promotedBefore : RegistryFile :=
  ⟨1, ∅, (∅ : Table String String).insert "hci1:00:00:00:00:00:00" "device-7", ∅⟩

/-- The persisted device is seen, its adapter is registered, and another device is found and
promoted. -/
def migratedRun : List Action :=
  [.deviceKey "hci1" 0 ⟨"1", ""⟩, .registerAdapter "hci1" "A0", .deviceKey "hci1" 1 ⟨"1", ""⟩,
    .promoteDevice "hci1" 1 ⟨"2", ""⟩]

/-- The persisted device keeps its key, and so does one that is found after the registration. -/
theorem always_promised_iff_migrates_registered :
    ∃ final, (registry promotedBefore).run (registry promotedBefore).init migratedRun =
        some final ∧
      (registry promotedBefore).Always Promised (registry promotedBefore).init migratedRun ∧
      final.registry.devices.lookup "A0:00:00:00:00:00:00" = some "device-7" ∧
      final.registry.devices.lookup "A0:00:00:00:00:00:01" = some "device-1" := by
  refine ⟨_, rfl, ?_, by decide +kernel, by decide +kernel⟩
  refine (always_promised_iff_migrates promotedBefore _ _ ?_ rfl).mpr ?_
  · intro first second key hfirst hsecond
    rw [promotedBefore, Table.lookup_insert] at hfirst hsecond
    split at hfirst
    · next hfound =>
      split at hsecond
      · next hother => exact hfound.trans hother.symm
      · cases hsecond
    · cases hfirst
  · exact ⟨trivial, .inr (by decide +kernel), trivial, trivial, trivial⟩

/-- A device that was found before its adapter was registered gets another key. -/
theorem key_lost_at_registration :
    ∃ final, (registry firstStart).run (registry firstStart).init
        [.deviceKey "hci1" 0 ⟨"1", ""⟩, .registerAdapter "hci1" "A0"] = some final ∧
      ¬ Promised final := by
  refine ⟨_, rfl, fun promised ↦ ?_⟩
  have hkey := promised.stable "hci1" 0 "device-1" (by decide +kernel) ⟨"2", ""⟩
  revert hkey
  decide +kernel

end BtDaemon.Identity
