import BtDaemon.Daemon.OperationLifecycle

/-!
# Sweeps over the operations of one owner

A sweep collects the active operations of its owner once and then cancels them one by one.
Any step other than a start only takes operations out of the active table or takes their
handle away, so what a sweep has collected and cancelled never becomes abortable again.
-/

namespace BtDaemon.Daemon.Operation

open Transition OperationCoordinator

/-- The `cancel_owner` call that the step belongs to. -/
def Action.sweepCall : Action → Option ℕ
  | .sweep call _ | .sweepNext call => some call
  | _ => none

/-- The owner of the operation that the step may admit. -/
def Action.startOwner : Action → Option (Option String)
  | .start _ _ owner _ _ => some owner
  | _ => none

/-- The operation is active and its worker may still be aborted. -/
def State.Abortable (self : State) (requestId : String) (owner : Option String) : Prop :=
  ∃ task, self.coordinator.active.lookup requestId = some task ∧ task.owner = owner ∧
    task.value.handle = true

section Frames

variable {self next : State} {action : Action}

theorem frame_cancel {requestId : String} {owner : Option String} {outcome : Cancellation}
    (hcancel : self.cancel requestId owner = (outcome, next)) :
    next.accepted = self.accepted ∧ next.sweeps = self.sweeps := by
  obtain rfl | ⟨-, worker, task, -, -, -, -, rfl⟩ := self.cancel_cases requestId hcancel
  · exact ⟨rfl, rfl⟩
  · exact ⟨rfl, rfl⟩

theorem accepted_start (requestId : String) (request : Except String (String × DeviceOperation))
    (owner : Option String) (admission insertion : Option String) :
    ((self.start requestId request owner admission insertion).accepted = self.accepted ∨
      (self.start requestId request owner admission insertion).accepted =
        self.accepted.insert requestId owner) ∧
      (self.start requestId request owner admission insertion).sweeps = self.sweeps := by
  unfold State.start
  split
  · exact ⟨Or.inr rfl, rfl⟩
  · exact ⟨Or.inl rfl, rfl⟩
  · exact ⟨Or.inl rfl, rfl⟩

/-- Only a start extends the receipts, and only a sweep changes its own entry. -/
theorem step_frame (hstep : step self action = some next) :
    (action.startOwner = none → next.accepted = self.accepted) ∧
      ∀ call, action.sweepCall ≠ some call →
        next.sweeps.lookup call = self.sweeps.lookup call := by
  cases action with
  | start requestId request owner admission insertion =>
    obtain ⟨-, hnext⟩ := Option.ite_none_right_eq_some.mp hstep
    obtain rfl := Option.some.inj hnext
    have hframe := @accepted_start self requestId request owner admission insertion
    exact ⟨by simp [Action.startOwner], fun call _ ↦ by rw [hframe.2]⟩
  | cancel requestId owner =>
    simp only [step] at hstep
    split at hstep
    · next cancelled hcancel =>
      obtain rfl := Option.some.inj hstep
      obtain ⟨haccepted, hsweeps⟩ := frame_cancel hcancel
      exact ⟨fun _ ↦ haccepted, fun call _ ↦ by simp [hsweeps]⟩
    · next outcome cancelled _ hcancel =>
      obtain rfl := Option.some.inj hstep
      obtain ⟨haccepted, hsweeps⟩ := frame_cancel hcancel
      exact ⟨fun _ ↦ haccepted, fun call _ ↦ by simp [hsweeps]⟩
  | sweep call owner =>
    obtain ⟨-, hnext⟩ := Option.ite_none_right_eq_some.mp hstep
    obtain rfl := Option.some.inj hnext
    refine ⟨fun _ ↦ rfl, fun other hother ↦ ?_⟩
    have hne : other ≠ call := fun heq ↦ hother (congrArg some heq.symm)
    simp [hne]
  | sweepNext call =>
    simp only [step] at hstep
    have hne : ∀ other, Action.sweepCall (.sweepNext call) ≠ some other → other ≠ call :=
      fun other hother heq ↦ hother (congrArg some heq.symm)
    split at hstep
    · obtain ⟨-, hnext⟩ := Option.ite_none_left_eq_some.mp hstep
      obtain rfl := Option.some.inj hnext
      exact ⟨fun _ ↦ rfl, fun other hother ↦ by simp [hne other hother]⟩
    · split at hstep
      · next cancelled hcancel =>
        obtain rfl := Option.some.inj hstep
        obtain ⟨haccepted, -⟩ := frame_cancel hcancel
        exact ⟨fun _ ↦ haccepted, fun other hother ↦ by simp [hne other hother]⟩
      · next outcome cancelled _ hcancel =>
        obtain rfl := Option.some.inj hstep
        obtain ⟨haccepted, -⟩ := frame_cancel hcancel
        exact ⟨fun _ ↦ haccepted, fun other hother ↦ by simp [hne other hother]⟩
    · obtain rfl := Option.some.inj hstep
      exact ⟨fun _ ↦ rfl, fun other hother ↦ by simp [hne other hother]⟩
    · contradiction
  | _ =>
    -- Every other step leaves the receipts and the sweeps alone.
    simp only [step, State.setWorker] at hstep
    repeat' split at hstep
    all_goals first
      | contradiction
      | obtain rfl := Option.some.inj hstep
        exact ⟨fun _ ↦ rfl, fun _ _ ↦ rfl⟩

/-- A move other than an admission admits nothing new. -/
theorem Move.active_before {busy : String → Prop} {requestId : String} {life after : Life}
    (hmove : Move busy requestId life after) (hknown : after.accepted = life.accepted)
    (hlife : life.Coherent requestId) {task : Owned OperationTask}
    (htask : after.active = some task) :
    ∃ before, life.active = some before ∧ before.owner = task.owner ∧
      (task.value.handle = true → before.value.handle = true) := by
  cases hmove with
  | accept owner deviceKey operation hfresh hidle =>
    obtain ⟨-, haccepted, -⟩ := hlife.fresh hfresh
    simp [haccepted] at hknown
  | publishStarted worker before hworker hphase hbefore =>
    obtain rfl := Option.some.inj htask
    exact ⟨before, hbefore, rfl, id⟩
  | report worker before stage hworker hreporter hbefore hhandle hreserve =>
    obtain rfl := Option.some.inj htask
    exact ⟨before, hbefore, rfl, id⟩
  | abort worker before hworker hbefore hhandle =>
    obtain rfl := Option.some.inj htask
    exact ⟨before, hbefore, rfl, fun _ ↦ hhandle⟩
  | settle => simp [Life.claim] at htask
  | reap => simp [Life.claim] at htask
  | _ => exact ⟨task, htask, rfl, id⟩

theorem State.Abortable.before (hcoherent : self.Coherent) (hstep : step self action = some next)
    (hstart : action.startOwner = none) {requestId : String} {owner : Option String}
    (habortable : next.Abortable requestId owner) : self.Abortable requestId owner := by
  obtain ⟨task, htask, rfl, hhandle⟩ := habortable
  have hknown : (next.life requestId).accepted = (self.life requestId).accepted := by
    simp only [State.life, (step_frame hstep).1 hstart]
  obtain hsame | ⟨moved, hmove, helse⟩ := step_life hcoherent.wellKeyed hstep
  · exact ⟨task, (congrArg Life.active (hsame requestId)).symm.trans htask, rfl, hhandle⟩
  · by_cases hmoved : requestId = moved
    · subst hmoved
      obtain ⟨before, hbefore, howner, hkept⟩ :=
        hmove.active_before hknown (hcoherent requestId) htask
      exact ⟨before, hbefore, howner, hkept hhandle⟩
    · have hsame := congrArg Life.active (helse requestId hmoved)
      exact ⟨task, hsame.symm.trans htask, rfl, hhandle⟩

theorem active_start (self : State) (requestId : String)
    (request : Except String (String × DeviceOperation)) (owner : Option String)
    (admission insertion : Option String) :
    let started := self.start requestId request owner admission insertion
    started.coordinator.active = self.coordinator.active ∨ ∃ event,
      started.coordinator.active =
        self.coordinator.active.insert requestId ⟨owner, ⟨true, event⟩⟩ := by
  unfold State.start
  split
  · next receipt coordinator event hstart =>
    unfold startOwned at hstart
    repeat' split at hstart
    all_goals simp only [Prod.mk.injEq, Except.ok.injEq, reduceCtorEq, false_and] at hstart
    obtain ⟨-, rfl, -⟩ := hstart
    exact Or.inr ⟨_, rfl⟩
  · exact Or.inl rfl
  · exact Or.inl rfl

/-- A start admits for its own owner only. -/
theorem State.Abortable.before_start {requestId : String}
    {request : Except String (String × DeviceOperation)}
    {owner : Option String} {admission insertion : Option String}
    (hstep : step self (.start requestId request owner admission insertion) = some next)
    {other : String} {holder : Option String} (habortable : next.Abortable other holder) :
    self.Abortable other holder ∨
      holder = owner ∧ (next.coordinator.active.lookup requestId).isSome = true := by
  obtain ⟨-, hnext⟩ := Option.ite_none_right_eq_some.mp hstep
  obtain rfl := Option.some.inj hnext
  obtain ⟨task, htask, rfl, hhandle⟩ := habortable
  obtain hsame | ⟨event, hinsert⟩ := active_start self requestId request owner admission insertion
  · exact Or.inl ⟨task, hsame ▸ htask, rfl, hhandle⟩
  · rw [hinsert] at htask ⊢
    by_cases hother : other = requestId
    · subst hother
      rw [AList.lookup_insert] at htask
      obtain rfl := Option.some.inj htask
      exact Or.inr ⟨rfl, by simp⟩
    · rw [AList.lookup_insert_ne hother] at htask
      exact Or.inl ⟨task, htask, rfl, hhandle⟩

end Frames

/-! ## The steps of one sweep -/

/-- Everything abortable of the owner is collected. -/
theorem sweep_collects {self next : State} {call : ℕ} {owner : String}
    (hstep : step self (.sweep call owner) = some next) :
    self.sweeps.lookup call = none ∧ next.coordinator = self.coordinator ∧
      ∃ remaining, next.sweeps.lookup call = some ⟨owner, remaining, none⟩ ∧
        ∀ requestId, self.Abortable requestId (some owner) → requestId ∈ remaining := by
  obtain ⟨hfresh, hnext⟩ := Option.ite_none_right_eq_some.mp hstep
  obtain rfl := Option.some.inj hnext
  refine ⟨hfresh, rfl, _, AList.lookup_insert _, ?_⟩
  rintro requestId ⟨task, htask, howner, -⟩
  exact (Table.mem_keysWhere _ _ _).mpr ⟨task, htask, by simp [howner]⟩

theorem State.Coherent.cancel_aborts {self : State} (hcoherent : self.Coherent)
    {requestId : String} {owner : Option String} (habortable : self.Abortable requestId owner) :
    (self.cancel requestId owner).1 = .aborted := by
  obtain ⟨task, htask, rfl, hhandle⟩ := habortable
  have hrunning := (hcoherent requestId).running task htask
  obtain ⟨worker, hworker, -⟩ := hrunning.worker
  have hlive : self.workers.lookup requestId = some worker := hworker
  have hvisible : task.value.event.visibleTo task.owner = true := by
    simpa [OperationEvent.visibleTo] using hrunning.owner_eq
  simp [State.cancel, cancelOwned, htask, hlive, hvisible, hhandle, Option.filter]

theorem cancel_fst (self : State) (requestId : String) (owner : Option String) :
    (self.cancel requestId owner).1 = (self.coordinator.cancelOwned requestId owner).1 := by
  unfold State.cancel
  split
  · next haborted _ => rw [haborted]
  · next howned _ => rw [howned]

/-- What is aborted for an owner is visible to that owner. -/
theorem owner_of_cancel {self : State} {requestId : String} {owner : Option String}
    {task : Owned OperationTask} (hcancel : (self.cancel requestId owner).1 = .aborted)
    (htask : self.coordinator.active.lookup requestId = some task) :
    task.value.event.owner = owner := by
  rw [cancel_fst] at hcancel
  unfold cancelOwned at hcancel
  split at hcancel
  · contradiction
  · next found hfound =>
    obtain ⟨hlookup, hvisible⟩ := Option.filter_eq_some_iff.mp hfound
    obtain rfl := Option.some.inj (htask.symm.trans hlookup)
    simpa [OperationEvent.visibleTo] using hvisible

theorem not_abortable_of_cancel {self next : State} (hcoherent : self.Coherent)
    {requestId : String} {owner : Option String}
    (hcancel : self.cancel requestId owner = (.aborted, next)) (holder : Option String) :
    ¬ next.Abortable requestId holder := by
  rintro ⟨task, htask, -, hhandle⟩
  unfold State.cancel at hcancel
  split at hcancel
  · next coordinator worker haborted hworker =>
    obtain ⟨-, rfl⟩ := Prod.mk.inj hcancel
    unfold cancelOwned at haborted
    repeat' split at haborted
    all_goals simp only [Prod.mk.injEq, reduceCtorEq, false_and, true_and] at haborted
    subst haborted
    rw [AList.lookup_insert] at htask
    obtain rfl := Option.some.inj htask
    exact absurd hhandle (by simp)
  · next howned hnot =>
    obtain ⟨rfl, rfl⟩ := Prod.mk.inj hcancel
    obtain ⟨worker, hworker, -⟩ := ((hcoherent requestId).running task htask).worker
    exact hnot worker hworker rfl

/-- After one step of a sweep, what it had collected and is still abortable is still to be
cancelled; a sweep that is over has cancelled everything. -/
theorem sweepNext_cancels {self next : State} {call : ℕ} (hcoherent : self.Coherent)
    (hstep : step self (.sweepNext call) = some next) :
    ∃ sweep, self.sweeps.lookup call = some sweep ∧
      (∀ after, next.sweeps.lookup call = some after → after.owner = sweep.owner) ∧
      ∀ requestId ∈ sweep.remaining, next.Abortable requestId (some sweep.owner) →
        ∃ after, next.sweeps.lookup call = some after ∧ requestId ∈ after.remaining := by
  simp only [step] at hstep
  split at hstep
  · next owner remaining waiting hsweep =>
    obtain ⟨-, hnext⟩ := Option.ite_none_left_eq_some.mp hstep
    obtain rfl := Option.some.inj hnext
    exact ⟨_, hsweep, by simp, fun requestId hmem _ ↦ ⟨_, AList.lookup_insert _, hmem⟩⟩
  · next owner requestId remaining hsweep =>
    split at hstep
    · next cancelled hcancel =>
      obtain rfl := Option.some.inj hstep
      refine ⟨_, hsweep, by simp, fun other hmem habortable ↦ ?_⟩
      refine ⟨_, AList.lookup_insert _, (List.mem_cons.mp hmem).resolve_left ?_⟩
      rintro rfl
      exact not_abortable_of_cancel hcoherent hcancel _ habortable
    · next outcome cancelled hnot hcancel =>
      obtain rfl := Option.some.inj hstep
      refine ⟨_, hsweep, by simp, fun other hmem habortable ↦ ?_⟩
      refine ⟨_, AList.lookup_insert _, (List.mem_cons.mp hmem).resolve_left ?_⟩
      rintro rfl
      obtain rfl | ⟨rfl, -⟩ := self.cancel_cases other hcancel
      · have haborted := hcoherent.cancel_aborts habortable
        rw [hcancel] at haborted
        exact hnot haborted
      · exact hnot rfl
  · next owner hsweep =>
    obtain rfl := Option.some.inj hstep
    exact ⟨_, hsweep, by simp, by simp⟩
  · contradiction

end BtDaemon.Daemon.Operation
