import Mathlib.Algebra.GroupWithZero.Nat
import Mathlib.Data.List.AList

/-!
# Keyed tables

A keyed table is Mathlib's association list with unique keys. The lookup laws are stated
with one conditional each, so that a proof about an arbitrary key splits once on whether
the updated key is the one it asks about.
-/

namespace BtDaemon

/-- A finite map. The uniqueness of its keys is a field of `AList`. -/
abbrev Table (Key Value : Type) := AList (fun _ : Key ↦ Value)

namespace Table

variable {Key Value : Type} [DecidableEq Key]

theorem lookup_insert (table : Table Key Value) (key other : Key) (value : Value) :
    (table.insert key value).lookup other =
      if other = key then some value else table.lookup other := by
  by_cases hkey : other = key
  · subst hkey
    simp
  · rw [if_neg hkey, AList.lookup_insert_ne hkey]

theorem lookup_erase (table : Table Key Value) (key other : Key) :
    (table.erase key).lookup other = if other = key then none else table.lookup other := by
  by_cases hkey : other = key
  · subst hkey
    simp
  · rw [if_neg hkey, AList.lookup_erase_ne hkey]

/-- What is found after an insertion is the new value or was there before. -/
theorem lookup_insert_eq_some {table : Table Key Value} {key other : Key} {value found : Value} :
    (table.insert key value).lookup other = some found ↔
      other = key ∧ value = found ∨ other ≠ key ∧ table.lookup other = some found := by
  rw [lookup_insert]
  split
  case isTrue hkey => simp [hkey]
  case isFalse hkey => simp [hkey]

/-- What is found after a removal was there before. -/
theorem lookup_erase_eq_some {table : Table Key Value} {key other : Key} {found : Value} :
    (table.erase key).lookup other = some found ↔
      other ≠ key ∧ table.lookup other = some found := by
  rw [lookup_erase, Option.ite_none_left_eq_some]

theorem mem_entries (table : Table Key Value) (key : Key) (value : Value) :
    ⟨key, value⟩ ∈ table.entries ↔ table.lookup key = some value := by
  rw [← AList.mem_lookup_iff, Option.mem_def]

theorem mem_keys (table : Table Key Value) (key : Key) :
    key ∈ table.keys ↔ ∃ value, table.lookup key = some value := by
  rw [← AList.mem_keys, ← AList.lookup_isSome, Option.isSome_iff_exists]

/-- Keep the entries that satisfy the predicate (`HashMap::retain`). -/
def retain (table : Table Key Value) (keep : Key → Value → Bool) : Table Key Value :=
  ⟨table.entries.filter fun entry ↦ keep entry.1 entry.2,
    table.nodupKeys.sublist List.filter_sublist⟩

theorem lookup_retain (table : Table Key Value) (keep : Key → Value → Bool) (key : Key) :
    (table.retain keep).lookup key = (table.lookup key).filter (keep key) := by
  ext value
  rw [← Table.mem_entries, Option.filter_eq_some_iff, ← Table.mem_entries]
  simp [retain]

/-- Replace the value under a key that is present (`HashMap::get_mut`). -/
def modify (table : Table Key Value) (key : Key) (change : Value → Value) : Table Key Value :=
  match table.lookup key with
  | some value => table.insert key (change value)
  | none => table

theorem lookup_modify (table : Table Key Value) (key other : Key) (change : Value → Value) :
    (table.modify key change).lookup other =
      if other = key then (table.lookup other).map change else table.lookup other := by
  unfold modify
  cases hvalue : table.lookup key with
  | none =>
    by_cases hkey : other = key
    · subst hkey
      simp [hvalue]
    · simp [hkey]
  | some value =>
    by_cases hkey : other = key
    · subst hkey
      simp [hvalue]
    · simp [hkey]

/-- Change the value under a key, from a default when it is absent (`entry().or_default()`). -/
def update (table : Table Key Value) (key : Key) (initial : Value) (change : Value → Value) :
    Table Key Value :=
  table.insert key (change ((table.lookup key).getD initial))

theorem lookup_update (table : Table Key Value) (key other : Key) (initial : Value)
    (change : Value → Value) :
    (table.update key initial change).lookup other =
      if other = key then some (change ((table.lookup key).getD initial))
      else table.lookup other := by
  rw [update, lookup_insert]

/-- Change every value (`HashMap::values_mut`, or a `map` that is collected again). -/
def mapValues {Other : Type} (table : Table Key Value) (change : Value → Other) :
    Table Key Other :=
  ⟨table.entries.map fun entry ↦ ⟨entry.1, change entry.2⟩, by
    have hkeys : (table.entries.map fun entry ↦
        (⟨entry.1, change entry.2⟩ : Sigma fun _ : Key ↦ Other)).keys = table.entries.keys := by
      simp [List.keys, Function.comp_def]
    rw [List.NodupKeys, hkeys]
    exact table.nodupKeys⟩

theorem lookup_mapValues {Other : Type} (table : Table Key Value) (change : Value → Other)
    (key : Key) : (table.mapValues change).lookup key = (table.lookup key).map change := by
  ext value
  rw [← Table.mem_entries, Option.map_eq_some_iff]
  simp only [mapValues, List.mem_map, Sigma.exists, ← Table.mem_entries]
  constructor
  · rintro ⟨found, old, hmem, heq⟩
    obtain ⟨rfl, hvalue⟩ := Sigma.mk.inj heq
    exact ⟨old, hmem, eq_of_heq hvalue⟩
  · rintro ⟨old, hmem, rfl⟩
    exact ⟨key, old, hmem, rfl⟩

/-- Change every value by what its key says (a loop over `HashMap::iter_mut`). -/
def mapEntries (table : Table Key Value) (change : Key → Value → Value) : Table Key Value :=
  ⟨table.entries.map fun entry ↦ ⟨entry.1, change entry.1 entry.2⟩, by
    have hkeys : (table.entries.map fun entry ↦
        (⟨entry.1, change entry.1 entry.2⟩ : Sigma fun _ : Key ↦ Value)).keys =
          table.entries.keys := by
      simp [List.keys, Function.comp_def]
    rw [List.NodupKeys, hkeys]
    exact table.nodupKeys⟩

theorem lookup_mapEntries (table : Table Key Value) (change : Key → Value → Value) (key : Key) :
    (table.mapEntries change).lookup key = (table.lookup key).map (change key) := by
  ext value
  rw [← Table.mem_entries, Option.map_eq_some_iff]
  simp only [mapEntries, List.mem_map, Sigma.exists, ← Table.mem_entries]
  constructor
  · rintro ⟨found, old, hmem, heq⟩
    obtain ⟨rfl, hvalue⟩ := Sigma.mk.inj heq
    exact ⟨old, hmem, eq_of_heq hvalue⟩
  · rintro ⟨old, hmem, rfl⟩
    exact ⟨key, old, hmem, rfl⟩

section MapValues

variable (table : Table Key Value) (change : Value → Value)

theorem mapValues_erase (key : Key) :
    mapValues (table.erase key) change = (table.mapValues change).erase key := by
  apply AList.ext
  have herase : ∀ entries : List (Sigma fun _ : Key ↦ Value),
      (entries.kerase key).map (fun entry ↦ ⟨entry.1, change entry.2⟩) =
        (entries.map fun entry ↦ (⟨entry.1, change entry.2⟩ : Sigma fun _ : Key ↦ Value)).kerase
          key := by
    intro entries
    induction entries with
    | nil => rfl
    | cons entry rest ih =>
      obtain ⟨found, value⟩ := entry
      by_cases hkey : key = found
      · subst hkey
        simp
      · rw [List.kerase_cons_ne hkey, List.map_cons, List.map_cons, List.kerase_cons_ne hkey, ih]
  exact herase table.entries

theorem mapValues_insert (key : Key) (value : Value) :
    mapValues (table.insert key value) change =
      (table.mapValues change).insert key (change value) := by
  apply AList.ext
  have herase := congrArg AList.entries (mapValues_erase table change key)
  rw [AList.entries_insert]
  exact congrArg (List.cons _) herase

omit [DecidableEq Key] in
theorem mapValues_retain (keep : Key → Value → Bool)
    (hkeep : ∀ key value, keep key (change value) = keep key value) :
    mapValues (table.retain keep) change = (table.mapValues change).retain keep := by
  apply AList.ext
  simp [mapValues, retain, List.filter_map, Function.comp_def, hkeep]

omit [DecidableEq Key] in
theorem mapValues_mapValues (later : Value → Value) :
    (table.mapValues change).mapValues later = table.mapValues (later ∘ change) := by
  apply AList.ext
  simp [mapValues, Function.comp_def]

omit [DecidableEq Key] in
theorem mapValues_empty : (∅ : Table Key Value).mapValues change = ∅ := rfl

omit [DecidableEq Key] in
@[simp]
theorem keys_mapValues : (table.mapValues change).keys = table.keys := by
  simp [mapValues, AList.keys, List.keys, Function.comp_def]

end MapValues

/-- Erase every listed key. -/
def eraseAll (table : Table Key Value) (keys : List Key) : Table Key Value :=
  keys.foldl (fun rest key ↦ rest.erase key) table

theorem lookup_eraseAll (table : Table Key Value) (keys : List Key) (key : Key) :
    (table.eraseAll keys).lookup key = if key ∈ keys then none else table.lookup key := by
  induction keys generalizing table with
  | nil => simp [eraseAll]
  | cons first rest ih =>
    have hrest := ih (table.erase first)
    rw [Table.lookup_erase] at hrest
    by_cases hkey : key = first <;> by_cases hmem : key ∈ rest <;>
      simp_all [eraseAll]

/-- The values in the order of the entries (`HashMap::values`). -/
def values (table : Table Key Value) : List Value := table.entries.map Sigma.snd

theorem mem_values (table : Table Key Value) (value : Value) :
    value ∈ table.values ↔ ∃ key, table.lookup key = some value := by
  simp only [values, List.mem_map, Sigma.exists, ← Table.mem_entries]
  constructor
  · rintro ⟨key, found, hmem, rfl⟩
    exact ⟨key, hmem⟩
  · rintro ⟨key, hmem⟩
    exact ⟨key, value, hmem, rfl⟩

omit [DecidableEq Key] in
theorem values_mapValues (table : Table Key Value) (change : Value → Value) :
    (table.mapValues change).values = table.values.map change := by
  simp [values, mapValues, Function.comp_def]

/-- Values that name their own key have distinct names. -/
theorem nodup_names {table : Table Key Value} {name : Value → Key}
    (hname : ∀ key value, table.lookup key = some value → name value = key) :
    (table.values.map name).Nodup := by
  have hkeys : table.values.map name = table.keys := by
    rw [values, List.map_map]
    apply List.map_congr_left
    intro entry hentry
    exact hname entry.1 entry.2 ((mem_entries table entry.1 entry.2).mp hentry)
  rw [hkeys]
  exact table.nodupKeys

/-! ## Equality as maps -/

/-- The order of the entries is not part of a map. -/
instance : Setoid (Table Key Value) where
  r first second := ∀ key, first.lookup key = second.lookup key
  iseqv := {
    refl := fun _ _ ↦ rfl
    symm := fun hsame key ↦ (hsame key).symm
    trans := fun hfirst hsecond key ↦ (hfirst key).trans (hsecond key) }

/-- Equal maps hold the same values, in some order. -/
theorem values_perm {first second : Table Key Value} (hsame : first ≈ second) :
    first.values.Perm second.values := by
  refine List.Perm.map _ (List.lookup_ext first.nodupKeys second.nodupKeys ?_)
  intro key value
  exact Eq.to_iff (congrArg (value ∈ ·) (hsame key))

/-! ## Totals -/

/-- The sum of a weight over all values. -/
def total (table : Table Key Value) (weight : Value → ℕ) : ℕ :=
  (table.entries.map fun entry ↦ weight entry.2).sum

omit [DecidableEq Key] in
@[simp]
theorem total_empty (weight : Value → ℕ) : total (∅ : Table Key Value) weight = 0 := rfl

theorem total_erase (table : Table Key Value) (key : Key) (weight : Value → ℕ) :
    total (table.erase key) weight + (table.lookup key).elim 0 weight = table.total weight := by
  have herase : ∀ entries : List (Sigma fun _ : Key ↦ Value),
      ((entries.kerase key).map fun entry ↦ weight entry.2).sum +
          (entries.dlookup key).elim 0 weight =
        (entries.map fun entry ↦ weight entry.2).sum := by
    intro entries
    induction entries with
    | nil => rfl
    | cons entry rest ih =>
      obtain ⟨found, value⟩ := entry
      by_cases hkey : key = found
      · subst hkey
        simp [Nat.add_comm]
      · rw [List.kerase_cons_ne hkey, List.dlookup_cons_ne _ _ hkey]
        simp only [List.map_cons, List.sum_cons]
        omega
  exact herase table.entries

theorem total_insert (table : Table Key Value) (key : Key) (value : Value)
    (weight : Value → ℕ) :
    total (table.insert key value) weight + (table.lookup key).elim 0 weight =
      table.total weight + weight value := by
  have hentries : (table.erase key).entries = table.entries.kerase key := rfl
  have hinsert : total (table.insert key value) weight =
      weight value + total (table.erase key) weight := by
    simp [total, AList.entries_insert, hentries]
  rw [hinsert, ← table.total_erase key weight]
  omega

theorem total_eq_zero {table : Table Key Value} {weight : Value → ℕ}
    (hzero : ∀ key value, table.lookup key = some value → weight value = 0) :
    table.total weight = 0 := by
  apply List.sum_eq_zero_iff_forall_eq_nat.mpr
  intro _ hmem
  obtain ⟨⟨key, value⟩, hentry, rfl⟩ := List.mem_map.mp hmem
  exact hzero key value ((mem_entries table key value).mp hentry)

/-- When values name their own key, exactly the entry of a key has its name. -/
theorem countP_values {table : Table Key Value} {name : Value → Key}
    (hname : ∀ key value, table.lookup key = some value → name value = key) (key : Key) :
    table.values.countP (fun value ↦ name value = key) =
      if (table.lookup key).isSome then 1 else 0 := by
  have hcount : table.values.countP (fun value ↦ name value = key) =
      table.total fun value ↦ if name value = key then 1 else 0 := by
    unfold values total
    induction table.entries with
    | nil => rfl
    | cons entry rest ih =>
      simp only [List.map_cons, List.countP_cons, List.sum_cons, ih, decide_eq_true_eq]
      omega
  have hothers : (total (table.erase key) fun value ↦ if name value = key then 1 else 0) = 0 := by
    refine total_eq_zero fun other value hlookup ↦ if_neg ?_
    obtain ⟨hother, hlookup⟩ := lookup_erase_eq_some.mp hlookup
    rwa [hname other value hlookup]
  rw [hcount, ← table.total_erase key, hothers, Nat.zero_add]
  cases hlookup : table.lookup key with
  | none => rfl
  | some value => simp [hname key value hlookup]

/-- The keys whose values satisfy the predicate (`iter().filter(..).map(..)`). -/
def keysWhere (table : Table Key Value) (select : Value → Bool) : List Key :=
  (table.entries.filter fun entry ↦ select entry.2).map Sigma.fst

theorem mem_keysWhere (table : Table Key Value) (select : Value → Bool) (key : Key) :
    key ∈ table.keysWhere select ↔ ∃ value, table.lookup key = some value ∧ select value := by
  simp only [keysWhere, List.mem_map, List.mem_filter, Sigma.exists, ← Table.mem_entries]
  constructor
  · rintro ⟨found, value, ⟨hmem, hselect⟩, rfl⟩
    exact ⟨value, hmem, hselect⟩
  · rintro ⟨value, hmem, hselect⟩
    exact ⟨key, value, ⟨hmem, hselect⟩, rfl⟩

end Table

end BtDaemon
