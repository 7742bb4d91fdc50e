import BtDaemon.Daemon.OperationMoves

/-!
# The lifecycle of operation events

The invariant of a single operation is kept by every move, so it holds of every operation
in every reachable state. What a subscriber may conclude from the events of one request
identifier is read off that invariant.
-/

namespace BtDaemon.Daemon.Operation

open EventLog Transition OperationCoordinator

/-! ## The invariant of one operation -/

/-- The worker may still take the operation to its terminal event. -/
def Phase.isOpen : Phase → Prop
  | .awaitingStart (some false) | .ended => False
  | _ => True

namespace Life

/-- Every published revision is exact: positive and representable in a double. -/
def Bounded (events : List OperationEvent) : Prop :=
  ∀ event ∈ events, 1 ≤ event.revision ∧ event.revision ≤ maxRevision

/-- An operation in the active table. -/
structure Running (requestId : String) (life : Life) (task : Owned OperationTask) : Prop where
  requestId_eq : task.value.event.requestId = requestId
  owner_eq : task.value.event.owner = task.owner
  accepted : life.accepted = some task.owner
  recent : life.recent = none
  evicted : life.evicted = false
  isOpen : ∀ event ∈ life.events, event.isTerminal = false
  published : ∀ event ∈ life.events, event.revision ≤ task.value.event.revision
  positive : 1 ≤ task.value.event.revision
  reserved : task.value.event.revision ≤ maxRevision - 1
  worker : ∃ worker, life.worker = some worker ∧
    worker.event.deviceKey = task.value.event.deviceKey ∧
    (worker.reporter = false → task.value.event.revision = 1) ∧
    (task.value.handle = false → worker.reaper = true)

/-- An operation whose terminal event has been published. -/
def Settled (requestId : String) (life : Life) (owner : Option String) : Prop :=
  ∃ earlier last, life.events = earlier ++ [last] ∧ last.isTerminal = true ∧
    last.requestId = requestId ∧ last.owner = owner ∧
    (∀ event ∈ earlier, event.isTerminal = false) ∧
    (life.recent = some ⟨owner, last⟩ ∨ life.recent = none ∧ life.evicted = true)

/-- The invariant of the life of one operation. -/
structure Coherent (requestId : String) (life : Life) : Prop where
  increasing : Increasing OperationEvent.revision life.events
  bounded : Bounded life.events
  running : ∀ task, life.active = some task → life.Running requestId task
  settled : ∀ owner, life.accepted = some owner → life.active = none →
    life.Settled requestId owner
  unaccepted : life.accepted = none → life.recent = none ∧ life.events = []
  fresh : life.worker = none → life.active = none ∧ life.accepted = none ∧ life.evicted = false
  unreported : ∀ worker, life.worker = some worker →
    (∃ signal, worker.phase = .awaitingStart signal) ∨ worker.phase = .publishing →
    worker.reporter = false
  isOpen : ∀ worker, life.worker = some worker → worker.phase.isOpen → life.active.isSome

namespace Coherent

variable {requestId : String} {life : Life} {worker : Worker}

/-- The receipt of an accepted operation is the first thing held about it. -/
theorem accept (hlife : life.Coherent requestId) (hfresh : life.worker = none)
    (owner : Option String) (deviceKey operation : String) :
    Coherent requestId
      { life with
        worker := some ⟨.queued requestId deviceKey operation owner, .awaitingStart none,
          false, false, false⟩
        active := some ⟨owner, ⟨true, .queued requestId deviceKey operation owner⟩⟩
        accepted := some owner } := by
  obtain ⟨-, haccepted, hevicted⟩ := hlife.fresh hfresh
  obtain ⟨hrecent, hevents⟩ := hlife.unaccepted haccepted
  constructor
  case increasing => simp [hevents, Increasing]
  case bounded => simp [hevents, Bounded]
  case running =>
    rintro task htask
    obtain rfl := Option.some.inj htask
    refine ⟨rfl, rfl, rfl, hrecent, hevicted, by simp [hevents], by simp [hevents], le_rfl,
      by simp [OperationEvent.queued, maxRevision], _, rfl, rfl, fun _ ↦ rfl, by simp⟩
  all_goals simp

/-- A change of the worker alone that opens nothing and keeps its reporter. -/
theorem withWorker (hlife : life.Coherent requestId) {changed : Worker}
    (hworker : life.worker = some worker) (hevent : changed.event = worker.event)
    (hreporter : changed.reporter = worker.reporter)
    (hreaper : worker.reaper = true → changed.reaper = true ∨ life.active = none)
    (hearly : (∃ signal, changed.phase = .awaitingStart signal) ∨ changed.phase = .publishing →
      (∃ signal, worker.phase = .awaitingStart signal) ∨ worker.phase = .publishing)
    (hopen : changed.phase.isOpen → worker.phase.isOpen) :
    Coherent requestId { life with worker := some changed } := by
  constructor
  case increasing => exact hlife.increasing
  case bounded => exact hlife.bounded
  case running =>
    intro task htask
    have hrunning := hlife.running task htask
    obtain ⟨current, hcurrent, hdevice, hfirst, hhandle⟩ := hrunning.worker
    obtain rfl := Option.some.inj (hworker.symm.trans hcurrent)
    refine { hrunning with worker := ⟨changed, rfl, ?_, ?_, ?_⟩ }
    · rw [hevent, hdevice]
    · rw [hreporter]
      exact hfirst
    · intro htaken
      have hactive : life.active ≠ none := by
        rw [show life.active = some task from htask]
        simp
      exact (hreaper (hhandle htaken)).resolve_right hactive
  case settled => exact hlife.settled
  case unaccepted => exact hlife.unaccepted
  case fresh => simp
  case unreported =>
    rintro current hcurrent hphase
    obtain rfl := Option.some.inj hcurrent
    rw [hreporter]
    exact hlife.unreported worker hworker (hearly hphase)
  case isOpen =>
    rintro current hcurrent hphase
    obtain rfl := Option.some.inj hcurrent
    exact hlife.isOpen worker hworker (hopen hphase)

/-- Publishing a further non-terminal event of a running operation. -/
theorem publish (hlife : life.Coherent requestId) (changed : Worker) {task : Owned OperationTask}
    (event : OperationEvent) (hworker : life.worker = some worker)
    (htask : life.active = some task) (hrequest : event.requestId = task.value.event.requestId)
    (howner : event.owner = task.value.event.owner)
    (hdevice : event.deviceKey = task.value.event.deviceKey)
    (hrevision : event.revision = task.value.event.revision + 1)
    (hterminal : event.isTerminal = false) (hreserve : event.revision ≤ maxRevision - 1)
    (hevent : changed.event = worker.event) (hreporter : changed.reporter = true)
    (hreaper : worker.reaper = true → changed.reaper = true)
    (hphase : ¬ ((∃ signal, changed.phase = .awaitingStart signal) ∨
      changed.phase = .publishing)) :
    Coherent requestId { life.publish task event with worker := some changed } := by
  have hrunning := hlife.running task htask
  constructor
  case increasing =>
    apply hlife.increasing.append
    intro earlier hearlier
    have hpublished := hrunning.published earlier hearlier
    omega
  case bounded =>
    intro other hother
    obtain hother | hother := List.mem_append.mp hother
    · exact hlife.bounded other hother
    · obtain rfl := List.mem_singleton.mp hother
      omega
  case running =>
    intro current hcurrent
    obtain rfl := Option.some.inj hcurrent
    obtain ⟨found, hfound, hsame, -, hhandle⟩ := hrunning.worker
    obtain rfl := Option.some.inj (hworker.symm.trans hfound)
    refine ⟨hrequest.trans hrunning.requestId_eq, howner.trans hrunning.owner_eq,
      hrunning.accepted, hrunning.recent, hrunning.evicted, ?_, ?_, ?_, hreserve, changed, rfl,
      ?_, ?_, ?_⟩
    · intro other hother
      obtain hother | hother := List.mem_append.mp hother
      · exact hrunning.isOpen other hother
      · obtain rfl := List.mem_singleton.mp hother
        exact hterminal
    · intro other hother
      change other.revision ≤ event.revision
      obtain hother | hother := List.mem_append.mp hother
      · have hpublished := hrunning.published other hother
        omega
      · obtain rfl := List.mem_singleton.mp hother
        exact le_rfl
    · change 1 ≤ event.revision
      omega
    · rw [hevent]
      exact hsame.trans hdevice.symm
    · simp [hreporter]
    · exact fun htaken ↦ hreaper (hhandle htaken)
  case settled => simp [Life.publish]
  case unaccepted =>
    intro hnone
    have haccepted : life.accepted = some task.owner := hrunning.accepted
    simp [Life.publish, haccepted] at hnone
  case fresh => simp
  case unreported =>
    rintro current hcurrent hearly
    obtain rfl := Option.some.inj hcurrent
    exact absurd hearly hphase
  case isOpen => simp [Life.publish]

/-- The one claim of an active operation publishes and retains its terminal event. -/
theorem claim (hlife : life.Coherent requestId) {changed : Worker} {task : Owned OperationTask}
    {terminal : OperationEvent} (htask : life.active = some task)
    (hrequest : terminal.requestId = task.value.event.requestId)
    (howner : terminal.owner = task.value.event.owner)
    (hrevision : terminal.revision = task.value.event.revision + 1)
    (hterminal : terminal.isTerminal = true) (hphase : changed.phase = .ended) :
    Coherent requestId { life.claim terminal with worker := some changed } := by
  have hrunning := hlife.running task htask
  have hreserved := hrunning.reserved
  have hpositive := hrunning.positive
  constructor
  case increasing =>
    apply hlife.increasing.append
    intro earlier hearlier
    have hpublished := hrunning.published earlier hearlier
    omega
  case bounded =>
    intro other hother
    obtain hother | hother := List.mem_append.mp hother
    · exact hlife.bounded other hother
    · obtain rfl := List.mem_singleton.mp hother
      constructor <;> omega
  case running => simp [Life.claim]
  case settled =>
    intro owner haccepted _
    have hsame : owner = task.owner :=
      (Option.some.inj (hrunning.accepted.symm.trans haccepted)).symm
    subst hsame
    have hterminalOwner := howner.trans hrunning.owner_eq
    refine ⟨life.events, terminal, rfl, hterminal, hrequest.trans hrunning.requestId_eq,
      hterminalOwner, hrunning.isOpen, Or.inl ?_⟩
    simp [Life.claim, hterminalOwner]
  case unaccepted =>
    intro hnone
    have haccepted : life.accepted = some task.owner := hrunning.accepted
    simp [Life.claim, haccepted] at hnone
  case fresh => simp
  case unreported =>
    rintro current hcurrent hearly
    obtain rfl := Option.some.inj hcurrent
    simp [hphase] at hearly
  case isOpen =>
    rintro current hcurrent hopen
    obtain rfl := Option.some.inj hcurrent
    simp [hphase, Phase.isOpen] at hopen

/-- A refused start leaves a worker that ends at once. -/
theorem refuse (hlife : life.Coherent requestId) (hfresh : life.worker = none)
    (event : OperationEvent) :
    Coherent requestId
      { life with worker := some ⟨event, .awaitingStart (some false), true, false, false⟩ } := by
  obtain ⟨hactive, haccepted, -⟩ := hlife.fresh hfresh
  constructor
  case increasing => exact hlife.increasing
  case bounded => exact hlife.bounded
  case running => simp [hactive]
  case settled => simp [haccepted]
  case unaccepted => exact hlife.unaccepted
  case fresh => simp
  case unreported =>
    rintro current hcurrent -
    obtain rfl := Option.some.inj hcurrent
    rfl
  case isOpen =>
    rintro current hcurrent hopen
    obtain rfl := Option.some.inj hcurrent
    simp [Phase.isOpen] at hopen

theorem abort (hlife : life.Coherent requestId) {worker : Worker} {task : Owned OperationTask}
    (hworker : life.worker = some worker) (htask : life.active = some task) :
    Coherent requestId
      { life with
        worker := some { worker with aborted := true, reaper := true }
        active := some { task with value := { task.value with handle := false } } } := by
  have hrunning := hlife.running task htask
  obtain ⟨found, hfound, hdevice, hfirst, -⟩ := hrunning.worker
  obtain rfl := Option.some.inj (hworker.symm.trans hfound)
  constructor
  case increasing => exact hlife.increasing
  case bounded => exact hlife.bounded
  case running =>
    intro current hcurrent
    obtain rfl := Option.some.inj hcurrent
    exact ⟨hrunning.requestId_eq, hrunning.owner_eq, hrunning.accepted, hrunning.recent,
      hrunning.evicted, hrunning.isOpen, hrunning.published, hrunning.positive,
      hrunning.reserved, _, rfl, hdevice, hfirst, fun _ ↦ rfl⟩
  case settled => simp
  case unaccepted => exact hlife.unaccepted
  case fresh => simp
  case unreported =>
    rintro current hcurrent hearly
    obtain rfl := Option.some.inj hcurrent
    exact hlife.unreported worker hworker hearly
  case isOpen => simp

/-- Only a settled operation has a record to evict. -/
theorem evict (hlife : life.Coherent requestId) {record : Owned OperationEvent}
    (hrecord : life.recent = some record) :
    Coherent requestId { life with recent := none, evicted := true } := by
  have hactive : life.active = none := by
    by_contra hsome
    obtain ⟨task, htask⟩ := Option.ne_none_iff_exists'.mp hsome
    simp [(hlife.running task htask).recent] at hrecord
  have haccepted : life.accepted ≠ none := fun hnone ↦ by
    simp [(hlife.unaccepted hnone).1] at hrecord
  constructor
  case increasing => exact hlife.increasing
  case bounded => exact hlife.bounded
  case running => simp [hactive]
  case settled =>
    intro owner howner _
    obtain ⟨earlier, last, hevents, hterminal, hrequest, hlast, hopen, -⟩ :=
      hlife.settled owner howner hactive
    exact ⟨earlier, last, hevents, hterminal, hrequest, hlast, hopen, Or.inr ⟨rfl, rfl⟩⟩
  case unaccepted => exact fun hnone ↦ absurd hnone haccepted
  case fresh => exact fun hnone ↦ absurd (hlife.fresh hnone).2.1 haccepted
  case unreported => exact hlife.unreported
  case isOpen => exact hlife.isOpen

/-- Every move keeps the invariant of its operation. -/
theorem move (hlife : life.Coherent requestId) {next : Life} {busy : String → Prop}
    (hmove : Move busy requestId life next) : next.Coherent requestId := by
  cases hmove with
  | accept owner deviceKey operation hfresh _ => exact hlife.accept hfresh owner deviceKey operation
  | refuse event hfresh => exact hlife.refuse hfresh event
  | release worker hworker hphase =>
    exact hlife.withWorker hworker rfl rfl Or.inl (fun _ ↦ Or.inl ⟨none, hphase⟩)
      (by simp [hphase, Phase.isOpen])
  | wake worker hworker hphase =>
    exact hlife.withWorker hworker rfl rfl Or.inl (fun _ ↦ Or.inl ⟨some true, hphase⟩)
      (by simp [hphase, Phase.isOpen])
  | publishStarted worker task hworker hphase htask =>
    have hfirst : task.value.event.revision = 1 := by
      obtain ⟨found, hfound, -, hfirst, -⟩ := (hlife.running task htask).worker
      obtain rfl := Option.some.inj (hworker.symm.trans hfound)
      exact hfirst (hlife.unreported worker hworker (Or.inr hphase))
    refine hlife.publish _ _ hworker htask rfl rfl rfl rfl rfl ?_ rfl rfl id (by simp)
    simp [hfirst, maxRevision]
  | report worker task stage hworker hreporter htask hhandle hreserve =>
    have hphase : ¬ ((∃ signal, worker.phase = .awaitingStart signal) ∨
        worker.phase = .publishing) := fun hearly ↦ by
      simp [hlife.unreported worker hworker hearly] at hreporter
    have hnext := hlife.publish worker (task.value.event.progress stage) hworker htask
      rfl rfl rfl rfl rfl (by simp; omega) rfl hreporter id hphase
    rwa [show { life.publish task (task.value.event.progress stage) with worker := some worker } =
      life.publish task (task.value.event.progress stage) by simp [Life.publish, hworker]] at hnext
  | backendReturns worker result hworker hphase =>
    exact hlife.withWorker hworker rfl rfl Or.inl (by simp) (by simp [hphase, Phase.isOpen])
  | settle worker task result hworker hphase htask =>
    exact hlife.claim htask (by simp) (by simp) (by simp) (by simp) rfl
  | ends worker hworker hcause =>
    exact hlife.withWorker hworker rfl rfl Or.inl (by simp) (by simp [Phase.isOpen])
  | abort worker task hworker htask _ => exact hlife.abort hworker htask
  | reap worker task hworker hphase hreaper htask =>
    exact hlife.claim htask rfl rfl rfl rfl hphase
  | reapNothing worker hworker hgone =>
    exact hlife.withWorker hworker rfl rfl (fun _ ↦ Or.inr hgone) id id
  | evict record hrecord => exact hlife.evict hrecord

end Coherent

end Life

/-- Every operation that the system knows anything about is coherent. -/
def State.Coherent (self : State) : Prop := ∀ requestId, (self.life requestId).Coherent requestId

theorem State.Coherent.wellKeyed {self : State} (hcoherent : self.Coherent) : self.WellKeyed :=
  fun requestId task htask ↦ ((hcoherent requestId).running task htask).requestId_eq

theorem coherent_init : State.init.Coherent := by
  intro requestId
  constructor <;>
    simp [State.init, State.life, State.eventsOf, OperationCoordinator.new, about_nil, Increasing,
      Life.Bounded]

theorem coherent_step {self next : State} {action : Action} (hcoherent : self.Coherent)
    (hstep : step self action = some next) : next.Coherent := by
  intro requestId
  obtain hsame | ⟨moved, hmove, helse⟩ := step_life hcoherent.wellKeyed hstep
  · exact hsame requestId ▸ hcoherent requestId
  · by_cases hmoved : requestId = moved
    · subst hmoved
      exact (hcoherent requestId).move hmove
    · exact helse requestId hmoved ▸ hcoherent requestId

theorem coherent_of_reachable {self : State} (hreach : system.Reachable self) : self.Coherent :=
  hreach.invariant coherent_init fun _ _ _ ↦ coherent_step

/-- The events of one operation, as a subscriber sees them: exact strictly increasing
revisions, at most one terminal event, nothing after it, and the record kept for status
queries is that last event. -/
structure State.EventLifecycle (self : State) (requestId : String) : Prop where
  increasing : Increasing OperationEvent.revision (self.eventsOf requestId)
  exact_revisions : ∀ event ∈ self.eventsOf requestId,
    1 ≤ event.revision ∧ event.revision ≤ 2 ^ 53 - 1
  one_terminal : (self.eventsOf requestId).countP OperationEvent.isTerminal ≤ 1
  terminal_last : TerminalLast OperationEvent.isTerminal (self.eventsOf requestId)
  retained : ∀ record, self.coordinator.recent.lookup requestId = some record →
    (self.eventsOf requestId).getLast? = some record.value ∧ record.value.isTerminal = true

theorem Life.Coherent.terminalLast {requestId : String} {life : Life}
    (hlife : life.Coherent requestId) : TerminalLast OperationEvent.isTerminal life.events := by
  cases hactive : life.active with
  | some task => exact terminalLast_of_open (hlife.running task hactive).isOpen
  | none =>
    cases haccepted : life.accepted with
    | none =>
      rw [(hlife.unaccepted haccepted).2]
      exact terminalLast_nil _
    | some owner =>
      obtain ⟨earlier, last, hevents, -, -, -, hopen, -⟩ := hlife.settled owner haccepted hactive
      rw [hevents]
      exact terminalLast_append hopen

/-- The event lifecycle holds for every identifier, in every state that any interleaving
of starters, workers, progress callbacks, cancellations, reapers and sweeps can reach. -/
theorem eventLifecycle_of_reachable {self : State} (hreach : system.Reachable self)
    (requestId : String) : self.EventLifecycle requestId := by
  have hlife := coherent_of_reachable hreach requestId
  refine ⟨hlife.increasing, hlife.bounded, hlife.terminalLast.count_le_one, hlife.terminalLast, ?_⟩
  intro record hrecord
  have hactive : (self.life requestId).active = none := by
    by_contra hsome
    obtain ⟨task, htask⟩ := Option.ne_none_iff_exists'.mp hsome
    have hnone := (hlife.running task htask).recent
    exact absurd (hrecord.symm.trans hnone) (by simp)
  obtain ⟨owner, haccepted⟩ : ∃ owner, (self.life requestId).accepted = some owner := by
    apply Option.ne_none_iff_exists'.mp
    intro hnone
    exact absurd (hrecord.symm.trans (hlife.unaccepted hnone).1) (by simp)
  obtain ⟨earlier, last, hevents, hterminal, -, -, -, hrecent⟩ :=
    hlife.settled owner haccepted hactive
  obtain hretained | ⟨hnone, -⟩ := hrecent
  · obtain rfl := Option.some.inj (hrecord.symm.trans hretained)
    refine ⟨?_, hterminal⟩
    rw [show self.eventsOf requestId = earlier ++ [last] from hevents, List.getLast?_concat]
  · exact absurd (hrecord.symm.trans hnone) (by simp)

/-- One operation from its receipt to its completion, with a late progress callback. -/
def completedRun : List Action :=
  [.start "operation-a" (.ok ("device", .connect)) (some ":1.7") none none,
    .release "operation-a", .wake "operation-a", .publish "operation-a",
    .report "operation-a" "connecting", .backendReturns "operation-a" (.ok ⟨[]⟩),
    .settle "operation-a", .report "operation-a" "late"]

theorem eventLifecycle_of_completedRun :
    ∃ final, system.run system.init completedRun = some final ∧
      final.EventLifecycle "operation-a" ∧
      (final.eventsOf "operation-a").map (fun event ↦ (event.revision, event.event)) =
        [(2, .started), (3, .progress), (4, .completed)] ∧
      (final.coordinator.recent.lookup "operation-a").map Owned.value =
        (final.eventsOf "operation-a").getLast? :=
  ⟨_, rfl, eventLifecycle_of_reachable ⟨completedRun, rfl⟩ "operation-a", by decide, by decide⟩

end BtDaemon.Daemon.Operation
