import Mathlib.Algebra.GroupWithZero.Nat
import Mathlib.Algebra.Order.BigOperators.Group.List
import Mathlib.Data.List.Basic
import Mathlib.Tactic.Common

/-!
# Broadcast channels

A receiver takes one event of a log after the other, or is told how many events it missed and goes
on behind them. What a receiver was told accounts for the whole log since it subscribed: every
event was passed on, or was not for this receiver, or is counted as missed. The channel that keeps
the last events of its log is one such receiver; the results hold for each.
-/

namespace BtDaemon.Broadcast

variable {Event : Type}

inductive Received (Event : Type) where
  | item (event : Event)
  | lagged (skipped : ℕ)
  deriving DecidableEq, Repr

/-- What the receiver at a position gets and where it is then. It takes the next event or is told
how many it missed, and waits exactly while there is nothing left. -/
structure Receiver (Event : Type) where
  recv : List Event → ℕ → Option (Received Event × ℕ)
  recv_cases : ∀ {log : List Event} {position next : ℕ} {received : Received Event},
    recv log position = some (received, next) →
      (∃ event, received = .item event ∧ next = position + 1 ∧ log[position]? = some event) ∨
        received = .lagged (next - position) ∧ position < next ∧ next ≤ log.length
  recv_eq_none : ∀ {log : List Event} {position : ℕ},
    recv log position = none ↔ log.length ≤ position

/-- The receiver of a channel that keeps so many events. -/
def Receiver.keeping (capacity : ℕ) : Receiver Event where
  recv log position :=
    if position < log.length - capacity then
      some (.lagged (log.length - capacity - position), log.length - capacity)
    else log[position]?.map fun event ↦ (.item event, position + 1)
  recv_cases {log position next received} hrecv := by
    split at hrecv
    · next hbehind =>
      obtain ⟨rfl, rfl⟩ := Prod.mk.inj (Option.some.inj hrecv)
      exact .inr ⟨rfl, hbehind, Nat.sub_le _ _⟩
    · obtain ⟨event, hevent, hpair⟩ := Option.map_eq_some_iff.mp hrecv
      obtain ⟨rfl, rfl⟩ := Prod.mk.inj hpair
      exact .inl ⟨event, rfl, rfl, hevent⟩
  recv_eq_none {log position} := by
    split
    · next hbehind =>
      refine ⟨nofun, fun hcaught ↦ ?_⟩
      omega
    · rw [Option.map_eq_none_iff, List.getElem?_eq_none_iff]

/-! ## What a receiver was told -/

/-- The events that were passed on. -/
def items (told : List (Received Event)) : List Event :=
  told.filterMap fun
    | .item event => some event
    | .lagged _ => none

/-- How many events were missed. -/
def missed (told : List (Received Event)) : ℕ :=
  (told.map fun
    | .item _ => 0
    | .lagged skipped => skipped).sum

@[simp]
theorem items_append (told later : List (Received Event)) :
    items (told ++ later) = items told ++ items later := List.filterMap_append

@[simp]
theorem missed_append (told later : List (Received Event)) :
    missed (told ++ later) = missed told + missed later := by
  rw [missed, List.map_append, List.sum_append]
  rfl

/-- What was passed on and what was missed, in any order. -/
theorem counts_of_perm {told other : List (Received Event)} (hperm : told.Perm other) :
    (items told).length = (items other).length ∧ missed told = missed other :=
  ⟨(hperm.filterMap _).length_eq, (hperm.map _).sum_eq⟩

/-- The receiver was told of these events: those that are not for it may be left out, and of some
it is only told how many they are. -/
inductive Tells (visible : Event → Bool) : List (Received Event) → List Event → Prop where
  | nil : Tells visible [] []
  | item {told : List (Received Event)} {events : List Event} (event : Event)
      (hvisible : visible event = true) (htold : Tells visible told events) :
      Tells visible (told ++ [.item event]) (events ++ [event])
  | hidden {told : List (Received Event)} {events : List Event} (event : Event)
      (hvisible : visible event = false) (htold : Tells visible told events) :
      Tells visible told (events ++ [event])
  | lagged {told : List (Received Event)} {events : List Event} (lost : List Event)
      (hlost : lost ≠ []) (htold : Tells visible told events) :
      Tells visible (told ++ [.lagged lost.length]) (events ++ lost)

namespace Tells

variable {visible : Event → Bool} {told : List (Received Event)} {events : List Event}

/-- What was passed on is in order, nothing is passed on twice, and nothing that is not for the
receiver. -/
theorem items_sublist (htold : Tells visible told events) :
    (items told).Sublist (events.filter visible) := by
  induction htold with
  | nil => exact List.Sublist.refl _
  | item event hvisible _ ih =>
    rw [items_append, List.filter_append, List.filter_singleton, hvisible, cond_true]
    exact ih.append (List.Sublist.refl _)
  | hidden event hvisible _ ih =>
    rw [List.filter_append]
    exact ih.trans (List.sublist_append_left _ _)
  | lagged lost _ _ ih =>
    rw [items_append, List.filter_append]
    change (items _ ++ []).Sublist _
    rw [List.append_nil]
    exact ih.trans (List.sublist_append_left _ _)

/-- Nothing is missed without a count. -/
theorem length_filter_le (htold : Tells visible told events) :
    (events.filter visible).length ≤ (items told).length + missed told := by
  induction htold with
  | nil => exact Nat.le_refl 0
  | item event hvisible _ ih =>
    rw [items_append, missed_append, List.filter_append, List.length_append, List.length_append,
      List.filter_singleton, hvisible, cond_true]
    change _ + 1 ≤ _ + 1 + (_ + 0)
    omega
  | hidden event hvisible _ ih =>
    rwa [List.filter_append, List.filter_singleton, hvisible, cond_false, List.append_nil]
  | lagged lost _ _ ih =>
    rw [items_append, missed_append, List.filter_append, List.length_append, List.length_append]
    have hfilter := List.length_filter_le visible lost
    change _ ≤ _ + 0 + (_ + (lost.length + 0))
    omega

/-- No more events are counted than there were. -/
theorem length_le (htold : Tells visible told events) :
    (items told).length + missed told ≤ events.length := by
  induction htold with
  | nil => exact Nat.le_refl 0
  | item event _ _ ih =>
    rw [items_append, missed_append, List.length_append, List.length_append]
    change _ + 1 + (_ + 0) ≤ _ + 1
    omega
  | hidden event _ _ ih =>
    rw [List.length_append]
    exact ih.trans (Nat.le_add_right _ _)
  | lagged lost _ _ ih =>
    rw [items_append, missed_append, List.length_append, List.length_append]
    change _ + 0 + (_ + (lost.length + 0)) ≤ _
    omega

/-- A receiver that was not told of missed events got all events that are for it. -/
theorem items_eq (htold : Tells visible told events) (hmissed : missed told = 0) :
    items told = events.filter visible := by
  apply htold.items_sublist.eq_of_length_le
  have hcounted := htold.length_filter_le
  rwa [hmissed, Nat.add_zero] at hcounted

end Tells

/-! ## The position in the log -/

/-- The receiver started here and was told of everything up to its position. -/
structure Heard (visible : Event → Bool) (log : List Event) (start position : ℕ)
    (told : List (Received Event)) : Prop where
  start_le : start ≤ position
  le_length : position ≤ log.length
  tells : Tells visible told ((log.take position).drop start)

namespace Heard

variable {visible : Event → Bool} {log : List Event} {start position : ℕ}
  {told : List (Received Event)}

theorem subscribe : Heard visible log log.length log.length [] where
  start_le := Nat.le_refl _
  le_length := Nat.le_refl _
  tells := by
    rw [List.take_length, List.drop_length]
    exact .nil

/-- Later events do not change what a receiver was told of. -/
theorem grow {later : List Event} (hheard : Heard visible log start position told)
    (hmore : log <+: later) : Heard visible later start position told where
  start_le := hheard.start_le
  le_length := hheard.le_length.trans hmore.length_le
  tells := by
    obtain ⟨more, rfl⟩ := hmore
    rw [List.take_append_of_le_length hheard.le_length]
    exact hheard.tells

/-- From one position to a later one. -/
theorem drop_take {next : ℕ} (hstart : start ≤ position) (hnext : position ≤ next)
    (hle : position ≤ log.length) :
    (log.take next).drop start =
      (log.take position).drop start ++ (log.drop position).take (next - position) := by
  have hsplit :
      log.take next = log.take position ++ (log.drop position).take (next - position) := by
    obtain ⟨more, rfl⟩ := Nat.exists_eq_add_of_le hnext
    rw [List.take_add, Nat.add_sub_cancel_left]
  rw [hsplit, List.drop_append_of_le_length]
  rwa [List.length_take, Nat.min_eq_left hle]

/-- The receiver misses the events up to the oldest that is kept. -/
theorem skip {next : ℕ} (hheard : Heard visible log start position told) (hnext : position < next)
    (hle : next ≤ log.length) :
    Heard visible log start next (told ++ [.lagged (next - position)]) where
  start_le := hheard.start_le.trans hnext.le
  le_length := hle
  tells := by
    have hlength : ((log.drop position).take (next - position)).length = next - position := by
      rw [List.length_take, List.length_drop]
      omega
    rw [drop_take hheard.start_le hnext.le hheard.le_length]
    conv => arg 2; rw [← hlength]
    apply hheard.tells.lagged
    intro hnil
    rw [hnil, List.length_nil] at hlength
    omega

theorem drop_take_one {event : Event} (hevent : log[position]? = some event) :
    (log.drop position).take (position + 1 - position) = [event] := by
  obtain ⟨hlt, rfl⟩ := List.getElem?_eq_some_iff.mp hevent
  rw [Nat.add_sub_cancel_left, List.drop_eq_getElem_cons hlt]
  rfl

/-- The receiver takes an event. -/
theorem take {event : Event} {more : List (Received Event)}
    (hheard : Heard visible log start position told) (hevent : log[position]? = some event)
    (hmore : ∀ events, Tells visible told events →
      Tells visible (told ++ more) (events ++ [event])) :
    Heard visible log start (position + 1) (told ++ more) where
  start_le := hheard.start_le.trans (Nat.le_succ _)
  le_length := (List.getElem?_eq_some_iff.mp hevent).1
  tells := by
    rw [drop_take hheard.start_le (Nat.le_succ _) hheard.le_length, drop_take_one hevent]
    exact hmore _ hheard.tells

/-- A receiver with nothing left to receive was told of the whole log. -/
theorem caught_up {receiver : Receiver Event} (hheard : Heard visible log start position told)
    (hnone : receiver.recv log position = none) : Tells visible told (log.drop start) := by
  have hall := hheard.tells
  rwa [List.take_of_length_le (receiver.recv_eq_none.mp hnone)] at hall

end Heard

end BtDaemon.Broadcast
