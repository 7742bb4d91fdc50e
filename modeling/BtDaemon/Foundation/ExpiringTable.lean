import BtDaemon.Foundation.Table
import Mathlib.Order.MinMax

/-!
# Tables whose entries expire

An entry is fresh until some time, and a table from which stale entries are dropped answers like
the table that keeps them all. Each entry has deadlines after which it looks different; the next
deadline of a table is the least one that is still to come.
-/

namespace BtDaemon.ExpiringTable

variable {Key Value Time : Type} [DecidableEq Key] [LinearOrder Time]
variable {fresh : Time → Value → Bool} {now later : Time} {kept all : Table Key Value}

/-- What is kept is current, and what is current and fresh is kept. -/
structure Exact (fresh : Time → Value → Bool) (now : Time) (kept all : Table Key Value) : Prop where
  current : ∀ key value, kept.lookup key = some value → all.lookup key = some value
  complete : ∀ key value, all.lookup key = some value → fresh now value = true →
    kept.lookup key = some value

/-- What is stale stays stale. -/
def Expires (fresh : Time → Value → Bool) : Prop :=
  ∀ {now later : Time} {value : Value}, now ≤ later → fresh later value = true →
    fresh now value = true

omit [LinearOrder Time] in
theorem exact_empty : Exact fresh now (∅ : Table Key Value) ∅ where
  current _ _ hlookup := by cases hlookup
  complete _ _ hlookup := by cases hlookup

theorem Exact.mono (hexact : Exact fresh now kept all) (hexpires : Expires fresh)
    (hlater : now ≤ later) : Exact fresh later kept all where
  current := hexact.current
  complete key value hlookup hfresh := hexact.complete key value hlookup (hexpires hlater hfresh)

omit [LinearOrder Time] in
/-- Pruning is not seen. -/
theorem Exact.prune (hexact : Exact fresh now kept all) :
    Exact fresh now (kept.retain fun _ value ↦ fresh now value) all where
  current key value hlookup := by
    rw [Table.lookup_retain, Option.filter_eq_some_iff] at hlookup
    exact hexact.current key value hlookup.1
  complete key value hlookup hfresh := by
    rw [Table.lookup_retain, hexact.complete key value hlookup hfresh, Option.filter_some,
      if_pos hfresh]

omit [LinearOrder Time] in
theorem Exact.insert (hexact : Exact fresh now kept all) (key : Key) (value : Value) :
    Exact fresh now (kept.insert key value) (all.insert key value) where
  current other found hfound := by
    rw [Table.lookup_insert_eq_some] at hfound ⊢
    exact hfound.imp_right fun ⟨hother, hbefore⟩ ↦ ⟨hother, hexact.current other found hbefore⟩
  complete other found hfound hfresh := by
    rw [Table.lookup_insert_eq_some] at hfound ⊢
    exact hfound.imp_right fun ⟨hother, hbefore⟩ ↦
      ⟨hother, hexact.complete other found hbefore hfresh⟩

/-- The answers of both tables agree from now on. -/
theorem Exact.lookup_eq (hexact : Exact fresh now kept all) (hexpires : Expires fresh)
    (hlater : now ≤ later) (key : Key) :
    (kept.lookup key).filter (fresh later) = (all.lookup key).filter (fresh later) := by
  ext value
  rw [Option.filter_eq_some_iff, Option.filter_eq_some_iff]
  constructor
  · rintro ⟨hlookup, hfresh⟩
    exact ⟨hexact.current key value hlookup, hfresh⟩
  · rintro ⟨hlookup, hfresh⟩
    exact ⟨hexact.complete key value hlookup (hexpires hlater hfresh), hfresh⟩

/-! ## The next deadline -/

/-- The first deadline after now. -/
def next (deadlines : Value → List Time) (now : Time) (kept : Table Key Value) : Option Time :=
  ((kept.values.flatMap deadlines).filter fun deadline ↦ now < deadline).min?

variable {deadlines : Value → List Time} {deadline : Time}

theorem next_eq_some (hnext : next deadlines now kept = some deadline) :
    now < deadline ∧ ∃ key value, kept.lookup key = some value ∧ deadline ∈ deadlines value := by
  have hmem := List.min?_mem hnext
  rw [List.mem_filter, decide_eq_true_iff, List.mem_flatMap] at hmem
  obtain ⟨⟨value, hvalue, hdeadline⟩, hnow⟩ := hmem
  obtain ⟨key, hlookup⟩ := (kept.mem_values value).mp hvalue
  exact ⟨hnow, key, value, hlookup, hdeadline⟩

/-- No deadline that is still to come is before the next one. -/
theorem next_le {key : Key} {value : Value} (hlookup : kept.lookup key = some value)
    (hdeadline : deadline ∈ deadlines value) (hnow : now < deadline) :
    ∃ first, next deadlines now kept = some first ∧ first ≤ deadline := by
  have hmem : deadline ∈ (kept.values.flatMap deadlines).filter fun deadline ↦ now < deadline := by
    rw [List.mem_filter, decide_eq_true_iff, List.mem_flatMap]
    exact ⟨⟨value, (kept.mem_values value).mpr ⟨key, hlookup⟩, hdeadline⟩, hnow⟩
  cases hfirst : next deadlines now kept with
  | none =>
    rw [List.min?_eq_none_iff.mp hfirst] at hmem
    cases hmem
  | some first => exact ⟨first, rfl, (List.min?_eq_some_iff.mp hfirst).2 deadline hmem⟩

end BtDaemon.ExpiringTable
