import Mathlib.Data.List.Basic
import Mathlib.Data.List.Pairwise
import Mathlib.Tactic.Common

/-!
# Published event logs

A log holds every published event, oldest first. What a subscriber can conclude about one
request is a property of the part of the log that carries its identifier: the events are in
increasing order, and nothing follows a terminal one. In a causal log each event is one that the
events before it allow; in a contiguous log the events of one owner stand together.
-/

namespace BtDaemon.EventLog

variable {Event Key : Type}

section About

variable [DecidableEq Key] (key : Event → Key)

/-- The events that carry the given identifier, in the order they were published. -/
def about (log : List Event) (wanted : Key) : List Event :=
  log.filter fun event ↦ key event = wanted

theorem about_nil (wanted : Key) : about key [] wanted = [] := rfl

theorem about_append (log later : List Event) (wanted : Key) :
    about key (log ++ later) wanted = about key log wanted ++ about key later wanted :=
  List.filter_append log later

theorem about_append_singleton (log : List Event) (event : Event) (wanted : Key) :
    about key (log ++ [event]) wanted =
      if key event = wanted then about key log wanted ++ [event] else about key log wanted := by
  by_cases hkey : key event = wanted <;> simp [about, hkey]

end About

/-- Nothing follows a terminal event. -/
def TerminalLast (terminal : Event → Bool) (log : List Event) : Prop :=
  log.Pairwise fun earlier _ ↦ terminal earlier = false

theorem terminalLast_nil (terminal : Event → Bool) : TerminalLast terminal [] := List.Pairwise.nil

theorem terminalLast_of_open {terminal : Event → Bool} {log : List Event}
    (hopen : ∀ earlier ∈ log, terminal earlier = false) : TerminalLast terminal log :=
  List.Pairwise.imp_of_mem (fun hfirst _ _ ↦ hopen _ hfirst)
    (List.pairwise_of_forall (R := fun _ _ ↦ True) fun _ _ ↦ trivial)

/-- A log without terminal events may be extended by any event. -/
theorem terminalLast_append {terminal : Event → Bool} {log : List Event} {event : Event}
    (hopen : ∀ earlier ∈ log, terminal earlier = false) :
    TerminalLast terminal (log ++ [event]) := by
  refine List.pairwise_append.mpr ⟨terminalLast_of_open hopen, List.pairwise_singleton _ _, ?_⟩
  intro earlier hmem _ _
  exact hopen earlier hmem

/-- A log in which nothing follows a terminal event holds at most one. -/
theorem TerminalLast.count_le_one {terminal : Event → Bool} {log : List Event}
    (hlast : TerminalLast terminal log) : log.countP terminal ≤ 1 := by
  induction log with
  | nil => simp
  | cons event rest ih =>
    obtain ⟨hhead, htail⟩ := List.pairwise_cons.mp hlast
    cases rest with
    | nil => cases hterminal : terminal event <;> simp [hterminal]
    | cons next others =>
      have hopen := hhead next List.mem_cons_self
      simpa [List.countP_cons, hopen] using ih htail

/-- The log is in strictly increasing order of the given rank. -/
def Increasing (rank : Event → ℕ) (log : List Event) : Prop :=
  log.Pairwise fun earlier later ↦ rank earlier < rank later

theorem Increasing.append {rank : Event → ℕ} {log : List Event} {event : Event}
    (hlog : Increasing rank log) (hbound : ∀ earlier ∈ log, rank earlier < rank event) :
    Increasing rank (log ++ [event]) := by
  refine List.pairwise_append.mpr ⟨hlog, List.pairwise_singleton _ _, ?_⟩
  intro earlier hmem later hlater
  obtain rfl := List.mem_singleton.mp hlater
  exact hbound earlier hmem

/-- Every event is one that the events before it allow. -/
def Causal (allowed : List Event → Event → Prop) (log : List Event) : Prop :=
  ∀ before event after, log = before ++ event :: after → allowed before event

theorem causal_nil (allowed : List Event → Event → Prop) : Causal allowed [] := by
  intro before event after hsplit
  exact absurd hsplit (by simp)

theorem Causal.concat {allowed : List Event → Event → Prop} {log : List Event} {event : Event}
    (hlog : Causal allowed log) (hevent : allowed log event) :
    Causal allowed (log ++ [event]) := by
  intro before other after hsplit
  rcases List.eq_nil_or_concat after with rfl | ⟨middle, last, rfl⟩
  · obtain ⟨rfl, hother⟩ := List.append_inj' hsplit rfl
    obtain rfl := List.singleton_inj.mp hother
    exact hevent
  · rw [List.concat_eq_append, ← List.cons_append, ← List.append_assoc] at hsplit
    exact hlog before other middle (List.append_inj' hsplit rfl).1

section Contiguous

variable (owner : Event → Key)

/-- Between two events of one owner there are only events of that owner. -/
def Contiguous (log : List Event) : Prop :=
  ∀ first middle last, [first, middle, last].Sublist log → owner first = owner last →
    owner middle = owner first

/-- After an event of this owner there are only events of this owner. -/
def Trailing (log : List Event) (current : Key) : Prop :=
  ∀ first later, [first, later].Sublist log → owner first = current → owner later = current

theorem contiguous_nil : Contiguous owner [] := by
  intro first middle last hsublist
  exact absurd (List.sublist_nil.mp hsublist) (List.cons_ne_nil _ _)

theorem trailing_of_silent {log : List Event} {current : Key}
    (hsilent : ∀ event ∈ log, owner event ≠ current) : Trailing owner log current := by
  intro first later hsublist hfirst
  exact absurd hfirst (hsilent first (hsublist.subset List.mem_cons_self))

variable {owner}

theorem sublist_concat {log wanted : List Event} {event last : Event}
    (hsublist : (wanted ++ [last]).Sublist (log ++ [event])) :
    (wanted ++ [last]).Sublist log ∨ wanted.Sublist log ∧ last = event := by
  rcases List.sublist_append_iff.mp hsublist with ⟨front, back, hsplit, hfront, hback⟩
  rcases List.sublist_singleton.mp hback with rfl | rfl
  · left
    rw [hsplit, List.append_nil]
    exact hfront
  · obtain ⟨rfl, hlast⟩ := List.append_inj' hsplit rfl
    exact .inr ⟨hfront, List.singleton_inj.mp hlast⟩

theorem Contiguous.concat {log : List Event} {event : Event} (hlog : Contiguous owner log)
    (htrailing : Trailing owner log (owner event)) : Contiguous owner (log ++ [event]) := by
  intro first middle last hsublist hsame
  rcases @sublist_concat _ log [first, middle] event last hsublist with hbefore | ⟨hpair, rfl⟩
  · exact hlog first middle last hbefore hsame
  · exact (htrailing first middle hpair hsame).trans hsame.symm

theorem Trailing.concat {log : List Event} {event : Event} {current : Key}
    (hlog : Trailing owner log current) (hevent : owner event = current) :
    Trailing owner (log ++ [event]) current := by
  intro first later hsublist hfirst
  rcases @sublist_concat _ log [first] event later hsublist with hbefore | ⟨-, rfl⟩
  · exact hlog first later hbefore hfirst
  · exact hevent

end Contiguous

end BtDaemon.EventLog
