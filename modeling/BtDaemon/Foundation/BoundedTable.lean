import BtDaemon.Foundation.Table

/-!
# Tables with room for a number of keys

A table that is full drops a key of the least rank before it takes a new key. What it holds is
then a part of the table without a bound: every entry that is kept is current, as long as the
table without a bound is small enough they are the same, and if ranks do not decrease the
entries that are kept are those of the greatest ranks.
-/

namespace BtDaemon.BoundedTable

variable {Key Value : Type} [DecidableEq Key] (capacity : ℕ) (rank : Value → ℕ)

/-- A new key needs room. -/
def full (kept : Table Key Value) (key : Key) : Bool :=
  (kept.lookup key).isNone && decide (capacity ≤ kept.keys.length)

/-- A key of the least rank. -/
def Least (kept : Table Key Value) (oldest : Key) : Prop :=
  ∃ value, kept.lookup oldest = some value ∧
    ∀ key other, kept.lookup key = some other → rank value ≤ rank other

def isLeast (kept : Table Key Value) (oldest : Key) : Bool :=
  match kept.lookup oldest with
  | some value => kept.entries.all fun entry ↦ decide (rank value ≤ rank entry.2)
  | none => false

def record (kept : Table Key Value) (key : Key) (value : Value) (oldest : Key) :
    Table Key Value :=
  if full capacity kept key then (kept.erase oldest).insert key value else kept.insert key value

variable {capacity rank} {kept all : Table Key Value} {key oldest : Key} {value : Value}

theorem isLeast_iff : isLeast rank kept oldest = true ↔ Least rank kept oldest := by
  rw [isLeast, Least]
  cases holdest : kept.lookup oldest with
  | none => simp
  | some value =>
    simp only [List.all_eq_true, decide_eq_true_iff, Option.some.injEq, exists_eq_left']
    constructor
    · intro hall key other hother
      exact hall ⟨key, other⟩ ((kept.mem_entries key other).mpr hother)
    · intro hall entry hentry
      exact hall entry.1 entry.2 ((kept.mem_entries entry.1 entry.2).mp hentry)

theorem lookup_record (other : Key) :
    (record capacity kept key value oldest).lookup other =
      if other = key then some value
      else if full capacity kept key = true ∧ other = oldest then none
      else kept.lookup other := by
  rw [record]
  by_cases hfull : full capacity kept key = true
  · rw [if_pos hfull, Table.lookup_insert, Table.lookup_erase]
    simp [hfull]
  · rw [if_neg hfull, Table.lookup_insert]
    simp [hfull]

theorem length_keys_congr {first second : Table Key Value} (hsame : first ≈ second) :
    first.keys.length = second.keys.length := by
  have hvalues := (Table.values_perm hsame).length_eq
  simpa [Table.values, AList.keys, List.keys] using hvalues

theorem length_keys_insert (hnew : kept.lookup key = none) :
    (kept.insert key value).keys.length = kept.keys.length + 1 := by
  have hkey : key ∉ kept.keys := by
    intro hmem
    obtain ⟨found, hfound⟩ := (kept.mem_keys key).mp hmem
    rw [hnew] at hfound
    cases hfound
  have herase : kept.keys.erase key = kept.keys := List.erase_of_not_mem hkey
  rw [AList.keys_insert, List.length_cons, herase]

theorem length_keys_known {found : Value} (hknown : kept.lookup key = some found) :
    (kept.insert key value).keys.length = kept.keys.length := by
  have hkey : key ∈ kept.keys := (kept.mem_keys key).mpr ⟨found, hknown⟩
  rw [AList.keys_insert, List.length_cons, List.length_erase_of_mem hkey]
  have hpositive := List.length_pos_of_mem hkey
  omega

theorem length_keys_erase {found : Value} (hknown : kept.lookup key = some found) :
    (AList.erase key kept).keys.length = kept.keys.length - 1 := by
  have hkey : key ∈ kept.keys := (kept.mem_keys key).mpr ⟨found, hknown⟩
  rw [AList.keys_erase, List.length_erase_of_mem hkey]

omit [DecidableEq Key] in
theorem length_keys_retain (keep : Key → Value → Bool) :
    (kept.retain keep).keys.length ≤ kept.keys.length := by
  have hfilter := List.length_filter_le (fun entry ↦ keep entry.1 entry.2) kept.entries
  simpa [Table.retain, AList.keys, List.keys] using hfilter

/-! ## The table without a bound -/

/-- What is kept has room and is current. -/
structure Within (capacity : ℕ) (kept all : Table Key Value) : Prop where
  room : kept.keys.length ≤ capacity
  current : ∀ key value, kept.lookup key = some value → all.lookup key = some value

theorem within_empty : Within capacity (∅ : Table Key Value) ∅ where
  room := Nat.zero_le _
  current _ _ hlookup := by cases hlookup

theorem Within.record (hwithin : Within capacity kept all) (hpositive : 0 < capacity)
    (hleast : full capacity kept key = true → Least rank kept oldest) :
    Within capacity (record capacity kept key value oldest) (all.insert key value) where
  room := by
    rw [BoundedTable.record]
    by_cases hfull : full capacity kept key = true
    · obtain ⟨least, holdest, -⟩ := hleast hfull
      have hnew : kept.lookup key = none := by
        rw [full, Bool.and_eq_true, Option.isNone_iff_eq_none] at hfull
        exact hfull.1
      have herased : (AList.erase oldest kept).lookup key = none := by
        rw [Table.lookup_erase, hnew, ite_self]
      rw [if_pos hfull, length_keys_insert herased, length_keys_erase holdest]
      have hroom := hwithin.room
      omega
    · rw [if_neg hfull]
      cases hknown : kept.lookup key with
      | none =>
        rw [length_keys_insert hknown]
        rw [full, hknown, Option.isNone_none, Bool.true_and, decide_eq_true_iff] at hfull
        omega
      | some found =>
        rw [length_keys_known hknown]
        exact hwithin.room
  current other found hfound := by
    rw [lookup_record] at hfound
    rw [Table.lookup_insert]
    split at hfound
    · next hsame => rw [if_pos hsame, hfound]
    · next hother =>
      rw [if_neg hother]
      split at hfound
      · cases hfound
      · exact hwithin.current other found hfound

theorem Within.retain (hwithin : Within capacity kept all) (keep : Key → Value → Bool) :
    Within capacity (kept.retain keep) (all.retain keep) where
  room := Nat.le_trans (length_keys_retain keep) hwithin.room
  current other found hfound := by
    rw [Table.lookup_retain, Option.filter_eq_some_iff] at hfound ⊢
    exact ⟨hwithin.current other found hfound.1, hfound.2⟩

/-- While there is room for every key nothing is dropped. -/
theorem record_complete (hsame : kept ≈ all)
    (hroom : (all.insert key value).keys.length ≤ capacity) :
    record capacity kept key value oldest ≈ all.insert key value := by
  have hnotFull : full capacity kept key = false := by
    by_contra hfull
    rw [Bool.not_eq_false, full, Bool.and_eq_true, Option.isNone_iff_eq_none,
      decide_eq_true_iff] at hfull
    have hnew : all.lookup key = none := (hsame key).symm.trans hfull.1
    rw [length_keys_insert hnew, ← length_keys_congr hsame] at hroom
    omega
  intro other
  rw [lookup_record, hnotFull, Table.lookup_insert, hsame other]
  simp

theorem retain_complete (hsame : kept ≈ all) (keep : Key → Value → Bool) :
    kept.retain keep ≈ all.retain keep := by
  intro other
  rw [Table.lookup_retain, Table.lookup_retain, hsame other]

/-! ## Ranks that do not decrease -/

/-- What was dropped is not above what is kept. -/
def Newest (rank : Value → ℕ) (kept all : Table Key Value) : Prop :=
  ∀ missing dropped, all.lookup missing = some dropped → kept.lookup missing = none →
    ∀ present found, kept.lookup present = some found → rank dropped ≤ rank found

theorem newest_empty : Newest rank (∅ : Table Key Value) ∅ := by
  intro missing dropped hdropped
  cases hdropped

theorem Newest.record (hnewest : Newest rank kept all) (hwithin : Within capacity kept all)
    (hleast : full capacity kept key = true → Least rank kept oldest)
    (hgreatest : ∀ other found, all.lookup other = some found → rank found ≤ rank value) :
    Newest rank (record capacity kept key value oldest) (all.insert key value) := by
  intro missing dropped hdropped hmissing present found hpresent
  rw [lookup_record] at hmissing hpresent
  have hother : missing ≠ key := by
    intro hsame
    rw [if_pos hsame] at hmissing
    cases hmissing
  rw [if_neg hother] at hmissing
  rw [Table.lookup_insert, if_neg hother] at hdropped
  by_cases hkey : present = key
  · rw [if_pos hkey] at hpresent
    rw [← Option.some.inj hpresent]
    exact hgreatest missing dropped hdropped
  · rw [if_neg hkey] at hpresent
    split at hpresent
    · cases hpresent
    · split at hmissing
      · next hevicted =>
        obtain ⟨least, holdest, hminimal⟩ := hleast hevicted.1
        have hsame : least = dropped := by
          have hcurrent := hwithin.current oldest least holdest
          rw [← hevicted.2, hdropped] at hcurrent
          exact (Option.some.inj hcurrent).symm
        rw [← hsame]
        exact hminimal present found hpresent
      · exact hnewest missing dropped hdropped hmissing present found hpresent

theorem Newest.retain (hnewest : Newest rank kept all) (keep : Key → Value → Bool)
    (hwithin : Within capacity kept all) :
    Newest rank (kept.retain keep) (all.retain keep) := by
  intro missing dropped hdropped hmissing present found hpresent
  rw [Table.lookup_retain, Option.filter_eq_some_iff] at hdropped hpresent
  rw [Table.lookup_retain] at hmissing
  apply hnewest missing dropped hdropped.1 _ present found hpresent.1
  cases hkept : kept.lookup missing with
  | none => rfl
  | some value =>
    have hcurrent := hwithin.current missing value hkept
    rw [hdropped.1] at hcurrent
    rw [hkept, ← Option.some.inj hcurrent, Option.filter_some, if_pos hdropped.2] at hmissing
    cases hmissing

end BtDaemon.BoundedTable
