import BtDaemon.Daemon.ScanLeases

/-!
# Sweeps over the scans of one owner

A `stop_owner` call collects the identifiers of its owner's active scans and stops them one
by one. As long as stops succeed, what it has collected stays in its list, then is being
stopped, and then is no longer active.
-/

namespace BtDaemon.Daemon.Scan

open Transition State

def Action.sweepCall : Action → Option ℕ
  | .sweep call _ | .sweepNext call => some call
  | _ => none

/-- The scans that end when the section's stop succeeds. -/
def Section.removes : Section → List String
  | .stopping cause selected _ _ _ | .reading cause selected => cause.removes selected
  | _ => []

/-- Every answer to the stop in progress was a success. -/
def Section.soFarOk : Section → Bool
  | .stopping _ _ _ _ earlier => earlier.isOk
  | _ => true

/-- The section stops the scan for this `stop_owner` call. -/
def Section.Stops (self : Section) (call : ℕ) (id : String) : Prop :=
  self.sweep = some call ∧ id ∈ self.removes

/-- The `stop_owner` call has the scan in its list, or is stopping it. -/
def State.Sweeping (self : State) (call : ℕ) (id : String) : Prop :=
  (∃ remaining, self.sweeps.lookup call = some remaining ∧ id ∈ remaining) ∨
    self.transition.Stops call id

theorem Action.eq_reply {action : Action} {result : Except BackendError Snapshot}
    (hanswer : action.answer = some result) : action = .reply result := by
  cases action with
  | reply given => rw [Option.some.inj hanswer]
  | _ => contradiction

theorem Action.isOk_of_answer {action : Action} {result : Except BackendError Snapshot}
    (hanswer : action.answer = some result)
    (hnot : ∀ failure, action = .reply (.error failure) → False) : result.isOk = true := by
  cases result with
  | ok snapshot => rfl
  | error failure => exact absurd (Action.eq_reply hanswer) (hnot failure)

/-- A stop in progress is answered with a success. -/
def Succeeds (transition : Section) (answer : Option (Except BackendError Snapshot)) : Prop :=
  match transition, answer with
  | .stopping _ _ _ _ _, some result | .reading _ _, some result => result.isOk = true
  | _, _ => True

section Moves

variable {before after : Leases} {answer : Option (Except BackendError Snapshot)}

/-- Active scans do not change, and a new one belongs to the owner that started it. -/
theorem Move.tasks_before (hmove : Move answer before after) {id : String} {task : ScanTask}
    (htask : after.tasks.lookup id = some task) :
    before.tasks.lookup id = some task ∨ id = before.nextId ∧
      ∃ adapterKey timeoutMs snapshot, before.transition =
        .starting adapterKey timeoutMs task.event.owner ∧ answer = some (.ok snapshot) ∧
          poweredAdapterKeys snapshot adapterKey ≠ [] := by
  cases hmove with
  | started tasks nextId adapterKey timeoutMs owner snapshot started laterId hkeys hleases howner =>
    rcases Table.lookup_insert_eq_some.mp htask with ⟨hid, rfl⟩ | ⟨-, htask⟩
    · exact Or.inr ⟨hid, adapterKey, timeoutMs, snapshot, by rw [howner], rfl, hkeys⟩
    · exact Or.inl htask
  | stopped =>
    rw [Table.lookup_eraseAll] at htask
    exact Or.inl (Option.ite_none_left_eq_some.mp htask).2
  | readDone =>
    rw [Table.lookup_eraseAll] at htask
    exact Or.inl (Option.ite_none_left_eq_some.mp htask).2
  | _ => exact Or.inl htask

theorem Move.soFarOk (hmove : Move answer before after) (hok : before.transition.soFarOk = true)
    (hsucceeds : Succeeds before.transition answer) : after.transition.soFarOk = true := by
  cases hmove with
  | stay => exact hok
  | stopNext tasks nextId cause selected current following remaining earlier result =>
    cases earlier with
    | error failure => exact absurd hok (by simp [Section.soFarOk, Except.isOk, Except.toBool])
    | ok earlier =>
      cases result with
      | error failure => exact absurd hsucceeds (by simp [Succeeds, Except.isOk, Except.toBool])
      | ok snapshot => rfl
  | _ => rfl

/-- A scan that is being stopped stays so until it is no longer active. -/
theorem Move.stops (hmove : Move answer before after) (hok : before.transition.soFarOk = true)
    (hsucceeds : Succeeds before.transition answer) {call : ℕ} {id : String} {task : ScanTask}
    (hstops : before.transition.Stops call id) (htask : after.tasks.lookup id = some task) :
    after.transition.Stops call id := by
  cases hmove with
  | stay => exact hstops
  | stopNext => exact hstops
  | stopped =>
    rw [Table.lookup_eraseAll] at htask
    exact absurd hstops.2 (Option.ite_none_left_eq_some.mp htask).1
  | readDone =>
    rw [Table.lookup_eraseAll] at htask
    exact absurd hstops.2 (Option.ite_none_left_eq_some.mp htask).1
  | stopFailed tasks nextId cause selected current earlier result hfailed =>
    obtain hearlier | hresult := hfailed
    · exact absurd hok (by simp [Section.soFarOk, hearlier])
    · exact absurd hsucceeds (by simp [Succeeds, hresult])
  | readFailed => exact absurd hsucceeds (by simp [Succeeds, Except.isOk, Except.toBool])
  | _ => simp [Section.Stops, Section.sweep] at hstops

end Moves

/-! ## The steps of a sweep -/

section Steps

variable {self next : State} {action : Action}

theorem sweeps_stopSelected (self : State) (requestId owner : Option String) (event : String)
    (sweep : Option ℕ) : (self.stopSelected requestId owner event sweep).sweeps = self.sweeps := by
  unfold stopSelected
  split
  · rfl
  · next selected adapters _ _ => cases adapters <;> rfl

theorem sweeps_finishStop (self : State) (cause : Cause) (selected : List String)
    (result : Except BackendError Snapshot) :
    (self.finishStop cause selected result).sweeps = self.sweeps := by
  cases cause <;> cases result <;> rfl

theorem sweeps_stopAdapters (self : State) (cause : Cause) (selected adapters : List String)
    (result : Except BackendError (Option Snapshot)) :
    (self.stopAdapters cause selected adapters result).sweeps = self.sweeps := by
  unfold stopAdapters
  split
  · rfl
  · rfl
  · exact sweeps_finishStop _ _ _ _
  · exact sweeps_finishStop _ _ _ _

theorem sweeps_reply {result : Except BackendError Snapshot}
    (hreply : self.reply result = some next) : next.sweeps = self.sweeps := by
  unfold reply at hreply
  split at hreply
  · contradiction
  · obtain rfl := Option.some.inj hreply
    rfl
  · split at hreply
    · obtain rfl := Option.some.inj hreply
      rfl
    · obtain rfl := Option.some.inj hreply
      rfl
  · obtain rfl := Option.some.inj hreply
    rfl
  · obtain rfl := Option.some.inj hreply
    exact sweeps_stopAdapters _ _ _ _ _
  · obtain rfl := Option.some.inj hreply
    exact sweeps_finishStop _ _ _ _

/-- Only a sweep changes its own list. -/
theorem sweeps_step (hstep : step self action = some next) {call : ℕ}
    (hother : action.sweepCall ≠ some call) :
    next.sweeps.lookup call = self.sweeps.lookup call := by
  cases action with
  | start params owner =>
    simp only [step] at hstep
    split at hstep
    · obtain rfl := Option.some.inj hstep
      rfl
    · obtain ⟨-, hnext⟩ := Option.ite_none_right_eq_some.mp hstep
      obtain rfl := Option.some.inj hnext
      rw [sweeps_stopSelected]
    · obtain ⟨-, hnext⟩ := Option.ite_none_right_eq_some.mp hstep
      obtain rfl := Option.some.inj hnext
      rfl
  | stop requestId owner event =>
    obtain ⟨-, hnext⟩ := Option.ite_none_right_eq_some.mp hstep
    obtain rfl := Option.some.inj hnext
    rw [sweeps_stopSelected]
  | sweep swept owner =>
    obtain ⟨-, hnext⟩ := Option.ite_none_right_eq_some.mp hstep
    obtain rfl := Option.some.inj hnext
    exact AList.lookup_insert_ne fun heq ↦ hother (congrArg some heq.symm)
  | sweepNext swept =>
    have hne : call ≠ swept := fun heq ↦ hother (congrArg some heq.symm)
    simp only [step] at hstep
    split at hstep
    · obtain ⟨-, hnext⟩ := Option.ite_none_right_eq_some.mp hstep
      obtain rfl := Option.some.inj hnext
      rw [sweeps_stopSelected]
      exact AList.lookup_insert_ne hne
    · obtain ⟨-, hnext⟩ := Option.ite_none_left_eq_some.mp hstep
      obtain rfl := Option.some.inj hnext
      exact AList.lookup_erase_ne hne
    · contradiction
  | timeout timer =>
    simp only [step] at hstep
    split at hstep
    · obtain ⟨-, hnext⟩ := Option.ite_none_right_eq_some.mp hstep
      split at hnext
      · obtain rfl := Option.some.inj hnext
        rfl
      · obtain rfl := Option.some.inj hnext
        rw [sweeps_stopAdapters]
    · contradiction
  | reply result => rw [sweeps_reply hstep]

theorem stopSelected_stops {id : String} {task : ScanTask}
    (htask : self.tasks.lookup id = some task) (event : String) (call : ℕ) :
    (self.stopSelected (some id) none event (some call)).transition.Stops call id := by
  have hselected := (mem_selectScans_ids self.tasks (some id) none id).mpr
    ⟨task, htask, by simp [selects]⟩
  unfold stopSelected
  split
  · next adapters hselect => simp [hselect] at hselected
  · next selected adapters _ hselect =>
    rw [hselect] at hselected
    cases adapters with
    | nil => exact ⟨rfl, hselected⟩
    | cons current remaining => exact ⟨rfl, hselected⟩

/-- Every active scan of the owner is collected. -/
theorem sweep_collects {call : ℕ} {owner : String}
    (hstep : step self (.sweep call owner) = some next) :
    self.sweeps.lookup call = none ∧ next.tasks = self.tasks ∧
      next.transition = self.transition ∧ ∃ remaining, next.sweeps.lookup call = some remaining ∧
        (∀ id task, self.tasks.lookup id = some task → task.event.owner = owner →
          id ∈ remaining) ∧
        ∀ id ∈ remaining, ∀ task, self.tasks.lookup id = some task →
          task.event.owner = owner := by
  obtain ⟨hfresh, hnext⟩ := Option.ite_none_right_eq_some.mp hstep
  obtain rfl := Option.some.inj hnext
  refine ⟨hfresh, rfl, rfl, _, AList.lookup_insert _, ?_, ?_⟩
  · intro id task htask howner
    exact (Table.mem_keysWhere _ _ _).mpr ⟨task, htask, by simp [howner]⟩
  · intro id hid task htask
    obtain ⟨found, hfound, howner⟩ := (Table.mem_keysWhere _ _ _).mp hid
    obtain rfl := Option.some.inj (htask.symm.trans hfound)
    simpa using howner

/-- After one step of a sweep, a collected scan that is still active is still in its list
or is being stopped, and a sweep ends only when none of its stops is in progress. -/
theorem sweepNext_stops {call : ℕ} (hstep : step self (.sweepNext call) = some next) :
    (∀ remaining, next.sweeps.lookup call = some remaining → ∃ collected,
      self.sweeps.lookup call = some collected ∧ remaining ⊆ collected) ∧
    (next.sweeps.lookup call = none → next.transition.sweep ≠ some call) ∧
    ∀ id task, self.Sweeping call id → next.tasks.lookup id = some task →
      next.Sweeping call id := by
  have hmove := step_move hstep
  simp only [step] at hstep
  split at hstep
  · next requestId rest hsweep =>
    obtain ⟨hfree, hnext⟩ := Option.ite_none_right_eq_some.mp hstep
    obtain rfl := Option.some.inj hnext
    set popped : State := { self with sweeps := self.sweeps.insert call rest } with hpopped
    have hlater : (popped.stopSelected (some requestId) none "cancelled" (some call)).sweeps.lookup
        call = some rest := by
      rw [sweeps_stopSelected, hpopped]
      exact AList.lookup_insert _
    refine ⟨?_, by simp [hlater], fun id task hsweeping htask ↦ ?_⟩
    · intro remaining hremaining
      obtain rfl := Option.some.inj (hlater.symm.trans hremaining)
      exact ⟨_, hsweep, List.subset_cons_self _ _⟩
    · obtain ⟨collected, hcollected, hid⟩ | hstops := hsweeping
      · obtain rfl := Option.some.inj (hsweep.symm.trans hcollected)
        obtain rfl | hrest := List.mem_cons.mp hid
        · obtain hbefore | ⟨-, _, _, _, -, hanswer, -⟩ := hmove.tasks_before htask
          · have hpoppedTask : popped.tasks.lookup id = some task := hbefore
            exact Or.inr (stopSelected_stops hpoppedTask "cancelled" call)
          · contradiction
        · exact Or.inl ⟨rest, hlater, hrest⟩
      · rw [isFree_iff.mp hfree] at hstops
        exact absurd hstops.1 (by simp [Section.sweep])
  · next hsweep =>
    obtain ⟨hflying, hnext⟩ := Option.ite_none_left_eq_some.mp hstep
    obtain rfl := Option.some.inj hnext
    refine ⟨by simp, fun _ ↦ hflying, fun id task hsweeping htask ↦ ?_⟩
    obtain ⟨remaining, hremaining, hid⟩ | hstops := hsweeping
    · obtain rfl := Option.some.inj (hsweep.symm.trans hremaining)
      simp at hid
    · exact absurd hstops.1 hflying
  · contradiction

end Steps

end BtDaemon.Daemon.Scan
