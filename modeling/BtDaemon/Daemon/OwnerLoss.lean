import Mathlib.Data.Fintype.Basic
import BtDaemon.Daemon.OperationSweeps
import BtDaemon.Daemon.RequestOwners
import BtDaemon.Daemon.ScanSweeps

/-!
# What the loss of an owner leaves behind

Every active request of an owner is in the hands of some agent of that owner: a call that
has still to register it, a watch that still waits, or a cleanup that has still to collect
or to cancel it. The one step that may break this is a call that asks the bus about its
owner, learns that it is still there, and leaves: the watch that it relied on may have
collected its requests before.
-/

namespace BtDaemon.Daemon.RequestOwners

open Transition

/-! ## Agents that still look at a request -/

/-- The agent has still to collect the operation, or to cancel what it collected. -/
def coversOperation (operations : Operation.State) (requestId : String) (agent : ℕ) :
    Phase → Prop
  | .admitted | .checking | .waiting | .cancel => True
  | .cancelling => ∃ sweep ∈ operations.sweeps.lookup agent, requestId ∈ sweep.remaining
  | _ => False

/-- The agent has still to collect the scan, or to finish stopping what it collected. -/
def coversScan (scans : Scan.State) (id : String) (agent : ℕ) : Phase → Prop
  | .finishing => False
  | .stopping => scans.Sweeping agent id
  | _ => True

instance (scans : Scan.State) (call : ℕ) (id : String) : Decidable (scans.Sweeping call id) :=
  decidable_of_iff ((∃ remaining ∈ scans.sweeps.lookup call, id ∈ remaining) ∨
    (scans.transition.sweep = some call ∧ id ∈ scans.transition.removes)) Iff.rfl

instance (operations : Operation.State) (requestId : String) (agent : ℕ) :
    ∀ phase, Decidable (coversOperation operations requestId agent phase)
  | .admitted | .checking | .waiting | .cancel => isTrue trivial
  | .cancelling =>
    inferInstanceAs (Decidable (∃ sweep ∈ operations.sweeps.lookup agent, _ ∈ sweep.remaining))
  | .stop | .stopping | .finishing => isFalse id

instance (scans : Scan.State) (id : String) (agent : ℕ) :
    ∀ phase, Decidable (coversScan scans id agent phase)
  | .finishing => isFalse fun hfalse ↦ hfalse
  | .stopping => inferInstanceAs (Decidable (scans.Sweeping agent id))
  | .admitted | .checking | .waiting | .cancel | .cancelling | .stop => isTrue trivial

def Covered (agents : Table ℕ Agent) (owner : String) (covers : ℕ → Phase → Prop) : Prop :=
  ∃ entry ∈ agents.entries, entry.2.owner = owner ∧ covers entry.1 entry.2.phase

instance (agents : Table ℕ Agent) (owner : String) (covers : ℕ → Phase → Prop)
    [∀ agent phase, Decidable (covers agent phase)] : Decidable (Covered agents owner covers) :=
  inferInstanceAs (Decidable (∃ entry ∈ agents.entries, entry.2.owner = owner ∧ _))

section Covered

variable {agents : Table ℕ Agent} {owner holder : String} {covers later : ℕ → Phase → Prop}
  {agent : ℕ} {phase : Phase}

theorem covered_iff : Covered agents owner covers ↔
    ∃ agent phase, agents.lookup agent = some ⟨owner, phase⟩ ∧ covers agent phase := by
  constructor
  · rintro ⟨⟨agent, found, phase⟩, hmem, rfl, hcovers⟩
    exact ⟨agent, phase, (Table.mem_entries _ _ _).mp hmem, hcovers⟩
  · rintro ⟨agent, phase, hagent, hcovers⟩
    exact ⟨⟨agent, owner, phase⟩, (Table.mem_entries _ _ _).mpr hagent, rfl, hcovers⟩

theorem Covered.imp (hcovered : Covered agents owner covers)
    (hlater : ∀ agent phase, agents.lookup agent = some ⟨owner, phase⟩ → covers agent phase →
      later agent phase) : Covered agents owner later := by
  obtain ⟨agent, phase, hagent, hcovers⟩ := covered_iff.mp hcovered
  exact covered_iff.mpr ⟨agent, phase, hagent, hlater agent phase hagent hcovers⟩

/-- One agent moves on; what it covered, it covers in its new phase. -/
theorem Covered.setPhase (hcovered : Covered agents owner covers) {next : Phase}
    (hagent : agents.lookup agent = some ⟨holder, phase⟩)
    (hothers : ∀ other, other ≠ agent → ∀ found, covers other found → later other found)
    (hself : holder = owner → covers agent phase → later agent next) :
    Covered (agents.insert agent ⟨holder, next⟩) owner later := by
  obtain ⟨other, found, hother, hcovers⟩ := covered_iff.mp hcovered
  by_cases hsame : other = agent
  · subst hsame
    obtain ⟨rfl, rfl⟩ := Agent.mk.inj (Option.some.inj (hagent.symm.trans hother))
    exact covered_iff.mpr ⟨other, next, AList.lookup_insert _, hself rfl hcovers⟩
  · refine covered_iff.mpr ⟨other, found, ?_, hothers other hsame found hcovers⟩
    rwa [AList.lookup_insert_ne hsame]

theorem Covered.erase (hcovered : Covered agents owner covers)
    (hagent : agents.lookup agent = some ⟨holder, phase⟩)
    (hself : holder = owner → ¬ covers agent phase) :
    Covered (agents.erase agent) owner covers := by
  obtain ⟨other, found, hother, hcovers⟩ := covered_iff.mp hcovered
  have hsame : other ≠ agent := by
    rintro rfl
    obtain ⟨rfl, rfl⟩ := Agent.mk.inj (Option.some.inj (hagent.symm.trans hother))
    exact hself rfl hcovers
  exact covered_iff.mpr ⟨other, found, by rwa [AList.lookup_erase_ne hsame], hcovers⟩

theorem Covered.spawn (hcovered : Covered agents owner covers) {spawned : Agent}
    (hfresh : agents.lookup agent = none) :
    Covered (agents.insert agent spawned) owner covers := by
  obtain ⟨other, found, hother, hcovers⟩ := covered_iff.mp hcovered
  have hsame : other ≠ agent := by
    rintro rfl
    exact absurd (hfresh.symm.trans hother) (by simp)
  exact covered_iff.mpr ⟨other, found, by rwa [AList.lookup_insert_ne hsame], hcovers⟩

theorem covered_insert (hcovers : covers agent phase) :
    Covered (agents.insert agent ⟨owner, phase⟩) owner covers :=
  covered_iff.mpr ⟨agent, phase, AList.lookup_insert _, hcovers⟩

end Covered

/-! ## The invariant -/

structure OperationsGuarded (agents : Table ℕ Agent) (operations : Operation.State) : Prop where
  coherent : operations.Coherent
  sweeper : ∀ agent sweep, operations.sweeps.lookup agent = some sweep →
    agents.lookup agent = some ⟨sweep.owner, .cancelling⟩
  covered : ∀ requestId owner, operations.Abortable requestId (some owner) →
    Covered agents owner (coversOperation operations requestId)

structure ScansGuarded (agents : Table ℕ Agent) (scans : Scan.State) : Prop where
  soFarOk : scans.transition.soFarOk = true
  stopper : ∀ agent remaining, scans.sweeps.lookup agent = some remaining →
    ∃ owner, agents.lookup agent = some ⟨owner, .stopping⟩ ∧ ∀ id ∈ remaining, ∀ task,
      scans.tasks.lookup id = some task → task.event.owner = owner
  covered : ∀ id task, scans.tasks.lookup id = some task →
    Covered agents task.event.owner (coversScan scans id)

structure State.Guarded (state : State) : Prop where
  fresh : ∀ agent, state.spawned ≤ agent → state.agents.lookup agent = none
  operations : OperationsGuarded state.agents state.operations
  scans : ScansGuarded state.agents state.scans
  ownOnly : ∀ entry ∈ state.cancellations, entry.2 = some entry.1

/-- A call that leaves its owner to others, because the bus still knows the owner, leaves
each of the owner's active requests to an agent that has still to look at it. Scans take
identifiers that no `stop_owner` call has still to stop. -/
def State.Reconciled (self : State) : Action → Prop
  | .hasOwner call failed =>
    ∀ agent ∈ self.agents.lookup call, agent.phase = .checking →
      failed = false → agent.owner ∉ self.departed →
        (∀ entry ∈ self.operations.coordinator.active.entries, entry.2.owner = some agent.owner →
          entry.2.value.handle = true → Covered (self.agents.erase call) agent.owner
            (coversOperation self.operations entry.1)) ∧
        ∀ entry ∈ self.scans.tasks.entries, entry.2.event.owner = agent.owner →
          Covered (self.agents.erase call) agent.owner (coversScan self.scans entry.1)
  | .scans (.reply _) => ∀ entry ∈ self.scans.sweeps.entries, self.scans.leases.nextId ∉ entry.2
  | _ => True

instance (self : State) : ∀ action, Decidable (self.Reconciled action) := fun action ↦ by
  unfold State.Reconciled
  split <;> infer_instance

/-! ## Steps of one coordinator -/

section Coordinators

variable {agents changed : Table ℕ Agent}

/-- The agents change and the operations do not. -/
theorem OperationsGuarded.replace {operations : Operation.State}
    (hguarded : OperationsGuarded agents operations)
    (hkeep : ∀ agent owner, agents.lookup agent = some ⟨owner, .cancelling⟩ →
      changed.lookup agent = some ⟨owner, .cancelling⟩)
    (hcovered : ∀ requestId owner, operations.Abortable requestId (some owner) →
      Covered agents owner (coversOperation operations requestId) →
      Covered changed owner (coversOperation operations requestId)) :
    OperationsGuarded changed operations where
  coherent := hguarded.coherent
  sweeper agent sweep hsweep := hkeep agent sweep.owner (hguarded.sweeper agent sweep hsweep)
  covered requestId owner habortable :=
    hcovered requestId owner habortable (hguarded.covered requestId owner habortable)

theorem ScansGuarded.replace {scans : Scan.State} (hguarded : ScansGuarded agents scans)
    (hkeep : ∀ agent owner, agents.lookup agent = some ⟨owner, .stopping⟩ →
      changed.lookup agent = some ⟨owner, .stopping⟩)
    (hcovered : ∀ id task, scans.tasks.lookup id = some task →
      Covered agents task.event.owner (coversScan scans id) →
      Covered changed task.event.owner (coversScan scans id)) :
    ScansGuarded changed scans where
  soFarOk := hguarded.soFarOk
  stopper agent remaining hsweep := by
    obtain ⟨owner, hagent, howner⟩ := hguarded.stopper agent remaining hsweep
    exact ⟨owner, hkeep agent owner hagent, howner⟩
  covered id task htask := hcovered id task htask (hguarded.covered id task htask)

/-- A step of the operations that neither starts one for a bus owner nor sweeps. -/
theorem OperationsGuarded.step {operations next : Operation.State} {action : Operation.Action}
    (hguarded : OperationsGuarded agents operations)
    (hstep : Operation.step operations action = some next)
    (hdriven : Operation.isDriven action = false) : OperationsGuarded agents next := by
  have hsweeps : ∀ call, next.sweeps.lookup call = operations.sweeps.lookup call := by
    refine fun call ↦ (Operation.step_frame hstep).2 call ?_
    cases action <;> simp_all [Operation.isDriven, Operation.Action.sweepCall]
  refine ⟨Operation.coherent_step hguarded.coherent hstep,
    fun agent sweep hsweep ↦ hguarded.sweeper agent sweep (hsweeps agent ▸ hsweep), ?_⟩
  intro requestId owner habortable
  have hbefore : operations.Abortable requestId (some owner) := by
    cases action with
    | start started request holder admission insertion =>
      obtain hbefore | ⟨rfl, -⟩ := habortable.before_start hstep
      · exact hbefore
      · simp [Operation.isDriven] at hdriven
    | _ => exact habortable.before hguarded.coherent hstep rfl
  apply (hguarded.covered requestId owner hbefore).imp
  intro agent phase _ hcovers
  cases phase <;> simp_all [coversOperation]

/-- Every operation of the owner of a new call is covered by that call. -/
theorem OperationsGuarded.start {operations next : Operation.State} {spawned : ℕ}
    {requestId owner : String} {request : Except String (String × DeviceOperation)}
    {admission insertion : Option String} (hguarded : OperationsGuarded agents operations)
    (hfresh : agents.lookup spawned = none)
    (hstep : Operation.step operations
      (.start requestId request (some owner) admission insertion) = some next) :
    OperationsGuarded (if (next.coordinator.active.lookup requestId).isSome then
      agents.insert spawned ⟨owner, .admitted⟩ else agents) next := by
  have hsweeps : ∀ call, next.sweeps.lookup call = operations.sweeps.lookup call :=
    fun call ↦ (Operation.step_frame hstep).2 call (by simp [Operation.Action.sweepCall])
  have hkept : ∀ other holder, operations.Abortable other (some holder) →
      Covered agents holder (coversOperation next other) := by
    intro other holder habortable
    apply (hguarded.covered other holder habortable).imp
    intro agent phase _ hcovers
    cases phase <;> simp_all [coversOperation]
  have hcoherent := Operation.coherent_step hguarded.coherent hstep
  split
  · refine ⟨hcoherent, fun agent sweep hsweep ↦ ?_, fun other holder habortable ↦ ?_⟩
    · have hagent := hguarded.sweeper agent sweep (hsweeps agent ▸ hsweep)
      rwa [AList.lookup_insert_ne fun heq ↦ absurd (heq ▸ hagent) (by simp [hfresh])]
    · obtain hbefore | ⟨howner, -⟩ := habortable.before_start hstep
      · exact (hkept other holder hbefore).spawn hfresh
      · obtain rfl := Option.some.inj howner
        exact covered_insert trivial
  · next hrefused =>
    refine ⟨hcoherent, fun agent sweep hsweep ↦
      hguarded.sweeper agent sweep (hsweeps agent ▸ hsweep), fun other holder habortable ↦ ?_⟩
    obtain hbefore | ⟨-, hactive⟩ := habortable.before_start hstep
    · exact hkept other holder hbefore
    · exact absurd hactive hrefused

/-- `cancel_owner` collects what its agent covered until then. -/
theorem OperationsGuarded.sweep {operations next : Operation.State} {agent : ℕ} {owner : String}
    (hguarded : OperationsGuarded agents operations)
    (hagent : agents.lookup agent = some ⟨owner, .cancel⟩)
    (hstep : Operation.step operations (.sweep agent owner) = some next) :
    OperationsGuarded (agents.insert agent ⟨owner, .cancelling⟩) next := by
  obtain ⟨hfresh, hsame, remaining, hsweep, hcollected⟩ := Operation.sweep_collects hstep
  have hothers : ∀ other, other ≠ agent →
      next.sweeps.lookup other = operations.sweeps.lookup other := fun other hother ↦
    (Operation.step_frame hstep).2 other fun heq ↦ hother (Option.some.inj heq).symm
  refine ⟨Operation.coherent_step hguarded.coherent hstep, fun other sweep hother ↦ ?_,
    fun requestId holder habortable ↦ ?_⟩
  · by_cases hsweeper : other = agent
    · subst hsweeper
      obtain rfl := Option.some.inj (hsweep.symm.trans hother)
      exact AList.lookup_insert _
    · rw [AList.lookup_insert_ne hsweeper]
      exact hguarded.sweeper other sweep (hothers other hsweeper ▸ hother)
  · have hbefore := habortable.before hguarded.coherent hstep rfl
    apply (hguarded.covered requestId holder hbefore).setPhase hagent
    · intro other hother phase hcovers
      cases phase <;> simp_all [coversOperation]
    · rintro rfl -
      exact ⟨_, hsweep, hcollected requestId hbefore⟩

/-- One step of `cancel_owner`, and the end of it. -/
theorem OperationsGuarded.sweepNext {operations next : Operation.State} {agent : ℕ}
    {owner : String} (hguarded : OperationsGuarded agents operations)
    (hagent : agents.lookup agent = some ⟨owner, .cancelling⟩)
    (hstep : Operation.step operations (.sweepNext agent) = some next) :
    OperationsGuarded (agents.insert agent
      ⟨owner, if next.sweeps.lookup agent = none then .stop else .cancelling⟩) next := by
  obtain ⟨sweep, hsweep, howner, hcancelled⟩ :=
    Operation.sweepNext_cancels hguarded.coherent hstep
  have hothers : ∀ other, other ≠ agent →
      next.sweeps.lookup other = operations.sweeps.lookup other := fun other hother ↦
    (Operation.step_frame hstep).2 other fun heq ↦ hother (Option.some.inj heq).symm
  have hsame : sweep.owner = owner := by
    have hsweeper := hagent.symm.trans (hguarded.sweeper agent sweep hsweep)
    exact (Agent.mk.inj (Option.some.inj hsweeper)).1.symm
  refine ⟨Operation.coherent_step hguarded.coherent hstep, fun other after hother ↦ ?_,
    fun requestId holder habortable ↦ ?_⟩
  · by_cases hsweeper : other = agent
    · subst hsweeper
      rw [AList.lookup_insert, if_neg (by simp [hother]), howner after hother, hsame]
    · rw [AList.lookup_insert_ne hsweeper]
      exact hguarded.sweeper other after (hothers other hsweeper ▸ hother)
  · have hbefore := habortable.before hguarded.coherent hstep rfl
    apply (hguarded.covered requestId holder hbefore).setPhase hagent
    · intro other hother phase hcovers
      cases phase <;> simp_all [coversOperation]
    · rintro rfl ⟨found, hfound, hmem⟩
      obtain rfl := Option.some.inj (hsweep.symm.trans hfound)
      obtain ⟨after, hafter, hleft⟩ := hcancelled requestId hmem (hsame.symm ▸ habortable)
      rw [if_neg (by simp [hafter])]
      exact ⟨after, hafter, hleft⟩

/-- A step of the scans that is no sweep. A new scan belongs to the owner that `admits`
names, and takes an identifier that no sweep has still to stop. -/
theorem ScansGuarded.step {scans next : Scan.State} {action : Scan.Action}
    (hguarded : ScansGuarded agents scans) (hstep : Scan.step scans action = some next)
    (hdriven : action.sweepCall = none)
    (hsucceeds : Scan.Succeeds scans.transition action.answer)
    (hkeep : ∀ agent entry, agents.lookup agent = some entry → changed.lookup agent = some entry)
    (hadmits : ∀ adapterKey timeoutMs owner snapshot,
      scans.transition = .starting adapterKey timeoutMs owner →
      action.answer = some (.ok snapshot) → Scan.poweredAdapterKeys snapshot adapterKey ≠ [] →
      (∃ agent, changed.lookup agent = some ⟨owner, .admitted⟩) ∧
        ∀ agent remaining, scans.sweeps.lookup agent = some remaining →
          scans.leases.nextId ∉ remaining) : ScansGuarded changed next := by
  have hmove := Scan.step_move hstep
  have hsweeps : ∀ call, next.sweeps.lookup call = scans.sweeps.lookup call :=
    fun call ↦ Scan.sweeps_step hstep (by simp [hdriven])
  refine ⟨hmove.soFarOk hguarded.soFarOk hsucceeds, fun agent remaining hsweep ↦ ?_,
    fun id task htask ↦ ?_⟩
  · rw [hsweeps] at hsweep
    obtain ⟨owner, hagent, howner⟩ := hguarded.stopper agent remaining hsweep
    refine ⟨owner, hkeep agent _ hagent, fun id hid task htask ↦ ?_⟩
    obtain hbefore | ⟨rfl, adapterKey, timeoutMs, snapshot, hstarting, hanswer, hkeys⟩ :=
      hmove.tasks_before htask
    · exact howner id hid task hbefore
    · exact absurd hid ((hadmits _ _ _ _ hstarting hanswer hkeys).2 agent remaining hsweep)
  · obtain hbefore | ⟨rfl, adapterKey, timeoutMs, snapshot, hstarting, hanswer, hkeys⟩ :=
      hmove.tasks_before htask
    · obtain ⟨agent, phase, hagent, hcovers⟩ := covered_iff.mp (hguarded.covered id task hbefore)
      refine covered_iff.mpr ⟨agent, phase, hkeep agent _ hagent, ?_⟩
      cases phase with
      | stopping =>
        obtain ⟨remaining, hremaining, hid⟩ | hstops := hcovers
        · exact Or.inl ⟨remaining, (hsweeps agent).trans hremaining, hid⟩
        · exact Or.inr (hmove.stops hguarded.soFarOk hsucceeds hstops htask)
      | _ => exact hcovers
    · obtain ⟨agent, hagent⟩ := (hadmits _ _ _ _ hstarting hanswer hkeys).1
      exact covered_iff.mpr ⟨agent, .admitted, hagent, trivial⟩

theorem ScansGuarded.sweep {scans next : Scan.State} {agent : ℕ} {owner : String}
    (hguarded : ScansGuarded agents scans)
    (hagent : agents.lookup agent = some ⟨owner, .stop⟩)
    (hstep : Scan.step scans (.sweep agent owner) = some next) :
    ScansGuarded (agents.insert agent ⟨owner, .stopping⟩) next := by
  obtain ⟨hfresh, htasks, htransition, remaining, hsweep, hcollected, howned⟩ :=
    Scan.sweep_collects hstep
  have hothers : ∀ other, other ≠ agent →
      next.sweeps.lookup other = scans.sweeps.lookup other := fun other hother ↦
    Scan.sweeps_step hstep fun heq ↦ hother (Option.some.inj heq).symm
  refine ⟨htransition ▸ hguarded.soFarOk, fun other list hother ↦ ?_, fun id task htask ↦ ?_⟩
  · rw [htasks]
    by_cases hstopper : other = agent
    · subst hstopper
      obtain rfl := Option.some.inj (hsweep.symm.trans hother)
      exact ⟨owner, AList.lookup_insert _, howned⟩
    · rw [AList.lookup_insert_ne hstopper]
      exact hguarded.stopper other list (hothers other hstopper ▸ hother)
  · rw [htasks] at htask
    apply (hguarded.covered id task htask).setPhase hagent
    · intro other hother phase hcovers
      cases phase with
      | stopping => simpa [coversScan, Scan.State.Sweeping, hothers other hother, htransition]
          using hcovers
      | _ => exact hcovers
    · exact fun howner _ ↦ Or.inl ⟨remaining, hsweep, hcollected id task htask howner.symm⟩

theorem ScansGuarded.sweepNext {scans next : Scan.State} {agent : ℕ} {owner : String}
    (hguarded : ScansGuarded agents scans)
    (hagent : agents.lookup agent = some ⟨owner, .stopping⟩)
    (hstep : Scan.step scans (.sweepNext agent) = some next) :
    ScansGuarded (agents.insert agent
      ⟨owner, if next.sweeps.lookup agent = none then .finishing else .stopping⟩) next := by
  have hmove := Scan.step_move hstep
  obtain ⟨hsubset, hended, hsweeping⟩ := Scan.sweepNext_stops hstep
  have hothers : ∀ other, other ≠ agent →
      next.sweeps.lookup other = scans.sweeps.lookup other := fun other hother ↦
    Scan.sweeps_step hstep fun heq ↦ hother (Option.some.inj heq).symm
  have hsucceeds : Scan.Succeeds scans.transition none := by
    unfold Scan.Succeeds
    split <;> simp_all
  have hbefore : ∀ id task, next.tasks.lookup id = some task →
      scans.tasks.lookup id = some task := by
    intro id task htask
    obtain hbefore | ⟨-, _, _, _, -, hanswer, -⟩ := hmove.tasks_before htask
    · exact hbefore
    · contradiction
  refine ⟨hmove.soFarOk hguarded.soFarOk hsucceeds, fun other list hother ↦ ?_,
    fun id task htask ↦ ?_⟩
  · by_cases hstopper : other = agent
    · subst hstopper
      obtain ⟨collected, hcollected, hlist⟩ := hsubset list hother
      obtain ⟨holder, hholder, howned⟩ := hguarded.stopper other collected hcollected
      obtain rfl := (Agent.mk.inj (Option.some.inj (hagent.symm.trans hholder))).1
      refine ⟨owner, ?_, fun id hid task htask ↦ howned id (hlist hid) task (hbefore id task htask)⟩
      rw [AList.lookup_insert, if_neg (by simp [hother])]
    · rw [AList.lookup_insert_ne hstopper]
      obtain ⟨holder, hholder, howned⟩ :=
        hguarded.stopper other list (hothers other hstopper ▸ hother)
      exact ⟨holder, hholder, fun id hid task htask ↦ howned id hid task (hbefore id task htask)⟩
  · apply (hguarded.covered id task (hbefore id task htask)).setPhase hagent
    · intro other hother phase hcovers
      cases phase with
      | stopping =>
        obtain ⟨remaining, hremaining, hid⟩ | hstops := hcovers
        · exact Or.inl ⟨remaining, (hothers other hother).trans hremaining, hid⟩
        · exact Or.inr (hmove.stops hguarded.soFarOk hsucceeds hstops htask)
      | _ => exact hcovers
    · intro _ hcovers
      have hlater := hsweeping id task hcovers htask
      split
      · next hover =>
        obtain ⟨remaining, hremaining, -⟩ | hstops := hlater
        · exact absurd (hover.symm.trans hremaining) (by simp)
        · exact absurd hstops.1 (hended hover)
      · exact hlater

end Coordinators

/-! ## Every step -/

section Steps

variable {self next : State}

theorem State.Guarded.lookup_ne (hguarded : self.Guarded) {agent : ℕ} {entry : Agent}
    (hagent : self.agents.lookup agent = some entry) : agent ≠ self.spawned := by
  rintro rfl
  exact absurd ((hguarded.fresh _ le_rfl).symm.trans hagent) (by simp)

theorem State.Guarded.fresh_insert (hguarded : self.Guarded) {agent : ℕ} {entry : Agent}
    (hagent : agent ≤ self.spawned) (other : ℕ) (hother : self.spawned + 1 ≤ other) :
    (self.agents.insert agent entry).lookup other = none := by
  rw [AList.lookup_insert_ne (by omega), hguarded.fresh other (by omega)]

/-- A new agent leaves what the others look at alone. -/
theorem State.Guarded.spawn (hguarded : self.Guarded) (owner : String) (phase : Phase) :
    (self.spawn owner phase).Guarded := by
  have hnew := hguarded.fresh self.spawned le_rfl
  have hkeep : ∀ agent entry, self.agents.lookup agent = some entry →
      (self.agents.insert self.spawned ⟨owner, phase⟩).lookup agent = some entry :=
    fun agent entry hagent ↦ by rwa [AList.lookup_insert_ne (hguarded.lookup_ne hagent)]
  refine ⟨hguarded.fresh_insert le_rfl, ?_, ?_, hguarded.ownOnly⟩
  · exact hguarded.operations.replace (fun agent owner ↦ hkeep agent _)
      fun _ _ _ hcovered ↦ hcovered.spawn hnew
  · exact hguarded.scans.replace (fun agent owner ↦ hkeep agent _)
      fun _ _ _ hcovered ↦ hcovered.spawn hnew

theorem State.Guarded.fresh_setPhase (hguarded : self.Guarded) {agent : ℕ} {entry : Agent}
    (hagent : self.agents.lookup agent = some entry) (later : Agent) (other : ℕ)
    (hother : self.spawned ≤ other) : (self.agents.insert agent later).lookup other = none := by
  have hold := hguarded.fresh other hother
  have hne : other ≠ agent := by
    rintro rfl
    exact absurd (hold.symm.trans hagent) (by simp)
  rw [AList.lookup_insert_ne hne, hold]

theorem lookup_insert_of_phase {agents : Table ℕ Agent} {agent other : ℕ} {owner : String}
    {phase : Phase} {entry later : Agent} (hagent : agents.lookup agent = some ⟨owner, phase⟩)
    (hother : agents.lookup other = some entry) (hne : entry.phase ≠ phase) :
    (agents.insert agent later).lookup other = some entry := by
  rw [AList.lookup_insert_ne, hother]
  rintro rfl
  obtain rfl := Option.some.inj (hagent.symm.trans hother)
  exact hne rfl

theorem lookup_erase_of_phase {agents : Table ℕ Agent} {agent other : ℕ} {owner : String}
    {phase : Phase} {entry : Agent} (hagent : agents.lookup agent = some ⟨owner, phase⟩)
    (hother : agents.lookup other = some entry) (hne : entry.phase ≠ phase) :
    (agents.erase agent).lookup other = some entry := by
  rw [AList.lookup_erase_ne, hother]
  rintro rfl
  obtain rfl := Option.some.inj (hagent.symm.trans hother)
  exact hne rfl

/-- An agent moves to a phase that covers everything. -/
theorem State.Guarded.setPhase (hguarded : self.Guarded) {agent : ℕ} {owner : String}
    {phase later : Phase} (hagent : self.agents.lookup agent = some ⟨owner, phase⟩)
    (hphase : phase ≠ .cancelling ∧ phase ≠ .stopping)
    (hlater : later = .checking ∨ later = .cancel) : (self.setPhase agent owner later).Guarded := by
  refine ⟨hguarded.fresh_setPhase hagent _, ?_, ?_, hguarded.ownOnly⟩
  · refine hguarded.operations.replace (fun other owner hother ↦
      lookup_insert_of_phase hagent hother hphase.1.symm) fun _ _ _ hcovered ↦
        hcovered.setPhase hagent ?_ ?_
    · exact fun _ _ _ ↦ id
    · obtain rfl | rfl := hlater <;> exact fun _ _ ↦ trivial
  · refine hguarded.scans.replace (fun other owner hother ↦
      lookup_insert_of_phase hagent hother hphase.2.symm) fun _ _ _ hcovered ↦
        hcovered.setPhase hagent ?_ ?_
    · exact fun _ _ _ ↦ id
    · obtain rfl | rfl := hlater <;> exact fun _ _ ↦ trivial

/-- An agent leaves, and every request of its owner is covered without it. -/
theorem State.Guarded.erase (hguarded : self.Guarded) {agent : ℕ} {owner : String} {phase : Phase}
    (hagent : self.agents.lookup agent = some ⟨owner, phase⟩)
    (hphase : phase ≠ .cancelling ∧ phase ≠ .stopping)
    (hoperations : ∀ requestId, self.operations.Abortable requestId (some owner) →
      Covered (self.agents.erase agent) owner (coversOperation self.operations requestId))
    (hscans : ∀ id task, self.scans.tasks.lookup id = some task → task.event.owner = owner →
      Covered (self.agents.erase agent) owner (coversScan self.scans id)) :
    ({ self with agents := self.agents.erase agent } : State).Guarded := by
  refine ⟨fun other hother ↦ ?_, ?_, ?_, hguarded.ownOnly⟩
  · rw [Table.lookup_erase, hguarded.fresh other hother, ite_self]
  · refine hguarded.operations.replace (fun other owner hother ↦
      lookup_erase_of_phase hagent hother hphase.1.symm) fun requestId holder habortable hcovered ↦ ?_
    by_cases hholder : owner = holder
    · subst hholder
      exact hoperations requestId habortable
    · exact hcovered.erase hagent fun heq ↦ absurd heq hholder
  · refine hguarded.scans.replace (fun other owner hother ↦
      lookup_erase_of_phase hagent hother hphase.2.symm) fun id task htask hcovered ↦ ?_
    by_cases hholder : owner = task.event.owner
    · subst hholder
      exact hscans id task htask rfl
    · exact hcovered.erase hagent fun heq ↦ absurd heq hholder

theorem scanStep_cases {action : Scan.Action} (hstep : self.scanStep action = some next) :
    ∃ scans, Scan.step self.scans action = some scans ∧
      Scan.Succeeds self.scans.transition action.answer ∧
      (next = { self with scans := scans } ∧ (∀ adapterKey timeoutMs owner snapshot,
          self.scans.transition = .starting adapterKey timeoutMs owner →
          action.answer = some (.ok snapshot) →
          Scan.poweredAdapterKeys snapshot adapterKey = []) ∨
        ∃ adapterKey timeoutMs owner,
          self.scans.transition = .starting adapterKey timeoutMs owner ∧
          next = ({ self with scans := scans } : State).spawn owner .admitted) := by
  obtain ⟨scans, hscans, hnext⟩ := Option.bind_eq_some_iff.mp hstep
  refine ⟨scans, hscans, ?_⟩
  dsimp only at hnext
  split at hnext
  · next adapterKey timeoutMs owner snapshot htransition =>
    rw [htransition]
    refine ⟨trivial, ?_⟩
    split at hnext
    · next hkeys =>
      refine Or.inl ⟨(Option.some.inj hnext).symm, fun key _ _ found heq hanswer ↦ ?_⟩
      obtain ⟨rfl, -, -⟩ := Scan.Section.starting.inj heq
      obtain rfl := Except.ok.inj (Option.some.inj hanswer)
      exact hkeys
    · exact Or.inr ⟨adapterKey, timeoutMs, owner, rfl, (Option.some.inj hnext).symm⟩
  · contradiction
  · contradiction
  · next hstarting hstopping hreading =>
    refine ⟨?_, Or.inl ⟨(Option.some.inj hnext).symm, ?_⟩⟩
    · unfold Scan.Succeeds
      split
      · next htransition hanswer =>
        exact Scan.Action.isOk_of_answer hanswer fun failure ↦ hstopping _ _ _ _ _ failure htransition
      · next htransition hanswer =>
        exact Scan.Action.isOk_of_answer hanswer fun failure ↦ hreading _ _ failure htransition
      · trivial
    · intro key timeoutMs owner snapshot htransition hanswer
      exact absurd (Scan.Action.eq_reply hanswer) (hstarting _ _ _ _ htransition)

/-- A step of the scans, with the call that it may admit. -/
theorem State.Guarded.scanStep (hguarded : self.Guarded) {action : Scan.Action}
    (hstep : self.scanStep action = some next) (hdriven : action.sweepCall = none)
    (hnextId : action.answer ≠ none → ∀ agent remaining,
      self.scans.sweeps.lookup agent = some remaining → self.scans.leases.nextId ∉ remaining) :
    next.Guarded := by
  obtain ⟨scans, hscans, hsucceeds, ⟨rfl, hnone⟩ | ⟨adapterKey, timeoutMs, owner, hstarting, rfl⟩⟩ :=
    scanStep_cases hstep
  · refine ⟨hguarded.fresh, hguarded.operations, ?_, hguarded.ownOnly⟩
    refine hguarded.scans.step hscans hdriven hsucceeds (fun _ _ ↦ id) ?_
    intro key timeoutMs owner snapshot hstarting hanswer hkeys
    exact absurd (hnone key timeoutMs owner snapshot hstarting hanswer) hkeys
  · have hspawned := hguarded.spawn owner .admitted
    refine ⟨hspawned.fresh, hspawned.operations, ?_, hguarded.ownOnly⟩
    refine hguarded.scans.step hscans hdriven hsucceeds (fun agent entry hagent ↦ ?_) ?_
    · exact (AList.lookup_insert_ne (hguarded.lookup_ne hagent)).trans hagent
    · intro key _ holder snapshot hsame hanswer _
      obtain ⟨-, -, rfl⟩ := Scan.Section.starting.inj (hstarting.symm.trans hsame)
      exact ⟨⟨self.spawned, AList.lookup_insert _⟩, hnextId (by simp [hanswer])⟩

/-- What a step of `cancel_owner` aborts belongs to its owner. -/
theorem State.Guarded.abortedOwner_eq (hguarded : self.Guarded) {agent : ℕ} {owner : String}
    {phase : Phase} (hagent : self.agents.lookup agent = some ⟨owner, phase⟩)
    {aborted : Option String} (haborted : self.abortedOwner agent = some aborted) :
    aborted = some owner := by
  unfold State.abortedOwner at haborted
  split at haborted
  · next holder requestId remaining hsweep =>
    obtain ⟨hcancel, hfound⟩ := Option.ite_none_right_eq_some.mp haborted
    obtain ⟨task, htask, rfl⟩ := Option.map_eq_some_iff.mp hfound
    have hsweeper := hagent.symm.trans (hguarded.operations.sweeper agent _ hsweep)
    obtain ⟨rfl, -⟩ := Agent.mk.inj (Option.some.inj hsweeper)
    have hrunning := (hguarded.operations.coherent requestId).running task htask
    exact hrunning.owner_eq.symm.trans (Operation.owner_of_cancel hcancel htask)
  · contradiction

theorem State.Guarded.stoppedOwners_eq (hguarded : self.Guarded) {agent : ℕ} {owner : String}
    {phase : Phase} (hagent : self.agents.lookup agent = some ⟨owner, phase⟩)
    {stopped : Option String} (hstopped : stopped ∈ self.stoppedOwners agent) :
    stopped = some owner := by
  unfold State.stoppedOwners at hstopped
  split at hstopped
  · next requestId remaining hsweep =>
    obtain ⟨task, hfound, rfl⟩ := List.mem_map.mp hstopped
    obtain ⟨id, hid, htask⟩ := List.mem_filterMap.mp hfound
    obtain ⟨selected, -, hselects⟩ := (Scan.mem_selectScans_ids _ _ _ _).mp hid
    obtain rfl : requestId = id := by simpa [Scan.selects] using hselects
    obtain ⟨holder, hholder, howned⟩ := hguarded.scans.stopper agent _ hsweep
    obtain ⟨rfl, -⟩ := Agent.mk.inj (Option.some.inj (hagent.symm.trans hholder))
    exact congrArg some (howned requestId List.mem_cons_self task htask)
  · simp at hstopped

theorem State.Guarded.cleanup (hguarded : self.Guarded) {agent : ℕ} {owner : String}
    {phase : Phase} (hagent : self.agents.lookup agent = some ⟨owner, phase⟩)
    (hstep : self.cleanup agent owner phase = some next) : next.Guarded := by
  cases phase with
  | cancel =>
    obtain ⟨operations, hoperations, rfl⟩ := Option.map_eq_some_iff.mp hstep
    refine ⟨hguarded.fresh_setPhase hagent _, hguarded.operations.sweep hagent hoperations, ?_,
      hguarded.ownOnly⟩
    exact hguarded.scans.replace
      (fun other holder hother ↦ lookup_insert_of_phase hagent hother (by simp))
      fun _ _ _ hcovered ↦ hcovered.setPhase hagent (fun _ _ _ ↦ id) fun _ _ ↦ trivial
  | cancelling =>
    obtain ⟨operations, hoperations, rfl⟩ := Option.map_eq_some_iff.mp hstep
    refine ⟨hguarded.fresh_setPhase hagent _, hguarded.operations.sweepNext hagent hoperations,
      ?_, ?_⟩
    · refine hguarded.scans.replace
        (fun other holder hother ↦ lookup_insert_of_phase hagent hother (by simp))
        fun _ _ _ hcovered ↦ hcovered.setPhase hagent (fun _ _ _ ↦ id) fun _ _ ↦ ?_
      split <;> trivial
    · intro entry hentry
      obtain hold | hnew := List.mem_append.mp hentry
      · exact hguarded.ownOnly entry hold
      · obtain ⟨aborted, haborted, rfl⟩ := List.mem_map.mp hnew
        exact hguarded.abortedOwner_eq hagent (Option.mem_toList.mp haborted)
  | stop =>
    obtain ⟨scans, hscans, rfl⟩ := Option.map_eq_some_iff.mp hstep
    refine ⟨hguarded.fresh_setPhase hagent _, ?_, hguarded.scans.sweep hagent hscans,
      hguarded.ownOnly⟩
    exact hguarded.operations.replace
      (fun other holder hother ↦ lookup_insert_of_phase hagent hother (by simp))
      fun _ _ _ hcovered ↦ hcovered.setPhase hagent (fun _ _ _ ↦ id) fun _ hfalse ↦ hfalse.elim
  | stopping =>
    obtain ⟨scans, hscans, rfl⟩ := Option.map_eq_some_iff.mp hstep
    refine ⟨hguarded.fresh_setPhase hagent _, ?_, hguarded.scans.sweepNext hagent hscans, ?_⟩
    · exact hguarded.operations.replace
        (fun other holder hother ↦ lookup_insert_of_phase hagent hother (by simp))
        fun _ _ _ hcovered ↦ hcovered.setPhase hagent (fun _ _ _ ↦ id) fun _ hfalse ↦ hfalse.elim
    · intro entry hentry
      obtain hold | hnew := List.mem_append.mp hentry
      · exact hguarded.ownOnly entry hold
      · obtain ⟨stopped, hstopped, rfl⟩ := List.mem_map.mp hnew
        exact hguarded.stoppedOwners_eq hagent hstopped
  | finishing =>
    obtain rfl := Option.some.inj hstep
    have herased := hguarded.erase hagent (by simp)
      (fun requestId habortable ↦ (hguarded.operations.covered requestId owner habortable).erase
        hagent fun _ hfalse ↦ hfalse)
      (fun id task htask howner ↦ howner ▸ (hguarded.scans.covered id task htask).erase
        hagent fun _ hfalse ↦ hfalse)
    exact ⟨herased.fresh, herased.operations, herased.scans, herased.ownOnly⟩
  | _ => contradiction

theorem State.Guarded.register (hguarded : self.Guarded) {call : ℕ} {owner : String}
    (hcall : self.agents.lookup call = some ⟨owner, .admitted⟩) :
    (self.register call owner).Guarded := by
  unfold State.register
  split
  · have hnew : (self.agents.erase call).lookup self.spawned = none := by
      rw [Table.lookup_erase, hguarded.fresh _ le_rfl, ite_self]
    have hkeep : ∀ other entry, self.agents.lookup other = some entry → entry.phase ≠ .admitted →
        ((self.agents.erase call).insert self.spawned ⟨owner, .waiting⟩).lookup other =
          some entry := by
      intro other entry hother hne
      rw [AList.lookup_insert_ne (hguarded.lookup_ne hother)]
      exact lookup_erase_of_phase hcall hother hne
    -- The watch covers what the call covered; other owners' agents stay.
    have hcovered : ∀ holder covers, Covered self.agents holder covers →
        (∀ agent, covers agent .waiting) → Covered ((self.agents.erase call).insert self.spawned
          ⟨owner, .waiting⟩) holder covers := by
      intro holder covers hcovered hwaiting
      by_cases hholder : owner = holder
      · subst hholder
        exact covered_insert (hwaiting _)
      · exact (hcovered.erase hcall fun heq ↦ absurd heq hholder).spawn hnew
    refine ⟨fun other hother ↦ ?_, ?_, ?_, hguarded.ownOnly⟩
    · have hother : self.spawned + 1 ≤ other := hother
      have hgone := hguarded.fresh other (by omega)
      have hne : other ≠ self.spawned := by omega
      exact (AList.lookup_insert_ne hne).trans
        ((Table.lookup_erase _ _ _).trans (by rw [hgone, ite_self]))
    · exact hguarded.operations.replace (fun other holder hother ↦ hkeep other _ hother (by simp))
        fun _ _ _ hold ↦ hcovered _ _ hold fun _ ↦ trivial
    · exact hguarded.scans.replace (fun other holder hother ↦ hkeep other _ hother (by simp))
        fun _ _ _ hold ↦ hcovered _ _ hold fun _ ↦ trivial
  · exact hguarded.setPhase hcall (by simp) (Or.inl rfl)

theorem guarded_step {action : Action} (hguarded : self.Guarded)
    (hstep : step self action = some next) (hreconciled : self.Reconciled action) :
    next.Guarded := by
  cases action with
  | startOperation requestId request owner admission insertion =>
    obtain ⟨operations, hoperations, rfl⟩ := Option.map_eq_some_iff.mp hstep
    have hstarted := hguarded.operations.start (hguarded.fresh _ le_rfl) hoperations
    dsimp only
    split at hstarted
    · next hactive =>
      rw [if_pos hactive]
      have hspawned := hguarded.spawn owner .admitted
      exact ⟨hspawned.fresh, hstarted, hspawned.scans, hguarded.ownOnly⟩
    · next hrefused =>
      rw [if_neg hrefused]
      exact ⟨hguarded.fresh, hstarted, hguarded.scans, hguarded.ownOnly⟩
  | startScan params owner =>
    exact hguarded.scanStep hstep rfl fun hanswer ↦ absurd rfl hanswer
  | stoppedScan owner =>
    obtain rfl := Option.some.inj hstep
    exact hguarded.spawn owner .admitted
  | operations action =>
    obtain ⟨hdriven, hnext⟩ := Option.ite_none_left_eq_some.mp hstep
    obtain ⟨operations, hoperations, rfl⟩ := Option.map_eq_some_iff.mp hnext
    exact ⟨hguarded.fresh, hguarded.operations.step hoperations (by simpa using hdriven),
      hguarded.scans, hguarded.ownOnly⟩
  | scans action =>
    obtain ⟨hdriven, hnext⟩ := Option.ite_none_left_eq_some.mp hstep
    refine hguarded.scanStep hnext ?_ fun hanswer agent remaining hremaining ↦ ?_
    · cases action <;> simp_all [Scan.isDriven, Scan.Action.sweepCall]
    · cases action with
      | reply result =>
        exact hreconciled ⟨agent, remaining⟩ ((Table.mem_entries _ _ _).mpr hremaining)
      | _ => exact absurd rfl hanswer
  | register call =>
    simp only [step] at hstep
    split at hstep
    · next owner hcall =>
      obtain rfl := Option.some.inj hstep
      exact hguarded.register hcall
    · contradiction
  | hasOwner call failed =>
    simp only [step] at hstep
    split at hstep
    · next owner hcall =>
      split at hstep
      · obtain rfl := Option.some.inj hstep
        exact hguarded.setPhase hcall (by simp) (Or.inr rfl)
      · next hknown =>
        obtain rfl := Option.some.inj hstep
        simp only [Bool.or_eq_true, List.contains_iff_mem, not_or, Bool.not_eq_true] at hknown
        obtain ⟨hoperations, hscans⟩ := hreconciled _ hcall rfl hknown.1 hknown.2
        apply hguarded.erase hcall (by simp)
        · rintro requestId ⟨task, htask, howner, hhandle⟩
          exact hoperations ⟨requestId, task⟩ ((Table.mem_entries _ _ _).mpr htask) howner hhandle
        · exact fun id task htask ↦ hscans ⟨id, task⟩ ((Table.mem_entries _ _ _).mpr htask)
    · contradiction
  | waitReturns watch =>
    simp only [step] at hstep
    split at hstep
    · next owner hwatch =>
      obtain rfl := Option.some.inj hstep
      exact hguarded.setPhase hwatch (by simp) (Or.inr rfl)
    · contradiction
  | cleanup agent =>
    simp only [step] at hstep
    split at hstep
    · next owner phase hagent => exact hguarded.cleanup hagent hstep
    · contradiction
  | leave owner =>
    obtain rfl := Option.some.inj hstep
    exact ⟨hguarded.fresh, hguarded.operations, hguarded.scans, hguarded.ownOnly⟩

theorem guarded_init : State.init.Guarded := by
  refine ⟨by simp [State.init], ⟨Operation.coherent_init, ?_, ?_⟩, ⟨rfl, ?_, ?_⟩, ?_⟩ <;>
    simp [State.init, Operation.State.init, Scan.State.init, Operation.State.Abortable,
      Operation.OperationCoordinator.new]

end Steps

/-! ## Owners that have left -/

/-- The owner's calls, watch and cleanups are finished, and so are all reapers. -/
def State.Quiescent (self : State) (owner : String) : Prop :=
  (∀ agent entry, self.agents.lookup agent = some entry → entry.owner ≠ owner) ∧
    ∀ requestId, self.operations.reaping requestId = false

/-- No request of a lost owner is active once everything about it has finished, and no
cleanup ever cancelled a request of another owner. -/
structure State.OwnerLoss (state : State) : Prop where
  nothing_left : ∀ owner ∈ state.departed, state.Quiescent owner →
    (∀ requestId task, state.operations.coordinator.active.lookup requestId = some task →
      task.owner ≠ some owner) ∧
    ∀ id task, state.scans.tasks.lookup id = some task → task.event.owner ≠ owner
  own_only : ∀ entry ∈ state.cancellations, entry.2 = some entry.1

theorem State.Guarded.ownerLoss {self : State} (hguarded : self.Guarded) : self.OwnerLoss := by
  refine ⟨fun owner _ hquiescent ↦ ⟨?_, ?_⟩, hguarded.ownOnly⟩
  · intro requestId task htask howner
    by_cases hhandle : task.value.handle = true
    · obtain ⟨agent, phase, hagent, -⟩ := covered_iff.mp
        (hguarded.operations.covered requestId owner ⟨task, htask, howner, hhandle⟩)
      exact hquiescent.1 agent _ hagent rfl
    · obtain ⟨worker, hworker, -, -, hreaper⟩ :=
        ((hguarded.operations.coherent requestId).running task htask).worker
      have hreaping : self.operations.reaping requestId = true := by
        have hlive : self.operations.workers.lookup requestId = some worker := hworker
        simp [Operation.State.reaping, hlive, hreaper (by simpa using hhandle)]
      exact absurd hreaping (by simp [hquiescent.2 requestId])
  · intro id task htask howner
    obtain ⟨agent, phase, hagent, -⟩ := covered_iff.mp (hguarded.scans.covered id task htask)
    exact hquiescent.1 agent _ hagent howner

/-- Owner loss leaves nothing behind, in every run in which no call leaves its owner to a
watch that has nothing of the owner's active requests left to cancel. -/
theorem ownerLoss_of_meets {actions : List Action} {final : State}
    (hmeets : system.Meets State.Reconciled system.init actions)
    (hrun : system.run system.init actions = some final) : final.OwnerLoss := by
  have hstep : ∀ state action next, state.Guarded → state.Reconciled action →
      system.step state action = some next → next.Guarded :=
    fun _ _ _ hguarded hreconciled htake ↦ guarded_step hguarded htake hreconciled
  exact (system.run_invariant_of_meets hstep guarded_init hmeets hrun).ownerLoss

/-- An owner leaves while a call of its own is being admitted: the cleanup has collected
already, and the call finds the owner gone and cleans up again. -/
def lateAdmissionRun : List Action :=
  [.startOperation "operation-a" (.ok ("device-a", .connect)) ":1.7" none none, .register 0,
    .leave ":1.7", .waitReturns 1, .cleanup 1,
    .startOperation "operation-b" (.ok ("device-b", .connect)) ":1.7" none none,
    .cleanup 1, .operations (.drop "operation-a"), .operations (.reap "operation-a"),
    .cleanup 1, .cleanup 1, .cleanup 1, .cleanup 1,
    .register 2, .hasOwner 2 false, .cleanup 1, .cleanup 2, .cleanup 2,
    .operations (.drop "operation-b"), .operations (.reap "operation-b"),
    .cleanup 2, .cleanup 2, .cleanup 2, .cleanup 2, .cleanup 2]

theorem ownerLoss_of_lateAdmissionRun :
    ∃ final, system.run system.init lateAdmissionRun = some final ∧ final.OwnerLoss ∧
      final.departed = [":1.7"] ∧ final.agents.keys = [] ∧
      final.operations.coordinator.active.keys = [] := by
  have hmeets : system.Meets State.Reconciled system.init lateAdmissionRun := by decide
  exact ⟨_, rfl, ownerLoss_of_meets hmeets rfl, by decide, by decide, by decide⟩

/-- Monitoring fails while the owner is on the bus. A call that comes after the cleanup has
collected is told that the owner is still there, and nobody watches it any more. -/
def failedMonitorRun : List Action :=
  [.startOperation "operation-a" (.ok ("device-a", .connect)) ":1.7" none none, .register 0,
    .waitReturns 1, .cleanup 1, .cleanup 1, .operations (.drop "operation-a"),
    .operations (.reap "operation-a"), .cleanup 1, .cleanup 1,
    .startOperation "operation-b" (.ok ("device-b", .connect)) ":1.7" none none,
    .operations (.release "operation-b"), .register 2, .hasOwner 2 false,
    .cleanup 1, .cleanup 1, .cleanup 1, .leave ":1.7"]

theorem quiescent_of_entries {self : State} (hagents : self.agents.entries = [])
    (hreapers : ∀ entry ∈ self.operations.workers.entries, entry.2.reaper = false)
    (owner : String) : self.Quiescent owner := by
  refine ⟨fun agent entry hagent ↦ ?_, fun requestId ↦ ?_⟩
  · have hmem := (Table.mem_entries _ _ _).mpr hagent
    rw [hagents] at hmem
    exact absurd hmem List.not_mem_nil
  · apply Bool.eq_false_iff.mpr
    intro hreaping
    obtain ⟨worker, hworker, hreaper⟩ := (Option.any_eq_true _ _).mp hreaping
    have hnone := hreapers ⟨requestId, worker⟩ ((Table.mem_entries _ _ _).mpr hworker)
    exact absurd hreaper (by simpa using hnone)

theorem not_ownerLoss_of_active {self : State} {owner : String} (requestId : String)
    (hdeparted : owner ∈ self.departed) (hquiescent : self.Quiescent owner)
    (hactive : (self.operations.coordinator.active.lookup requestId).map Operation.Owned.owner =
      some (some owner)) : ¬ self.OwnerLoss := by
  intro hloss
  obtain ⟨task, htask, howner⟩ := Option.map_eq_some_iff.mp hactive
  exact (hloss.nothing_left owner hdeparted hquiescent).1 requestId task htask howner

theorem not_ownerLoss_of_failedMonitorRun :
    ∃ final, system.run system.init failedMonitorRun = some final ∧
      final.departed = [":1.7"] ∧ final.Quiescent ":1.7" ∧ ¬ final.OwnerLoss :=
  ⟨_, rfl, by decide, quiescent_of_entries (by decide) (by decide) _,
    not_ownerLoss_of_active "operation-b" (by decide)
      (quiescent_of_entries (by decide) (by decide) _) rfl⟩

end BtDaemon.Daemon.RequestOwners
