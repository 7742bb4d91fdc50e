import BtDaemon.Daemon.Operation

/-!
# Runs of the operation coordinator

The tasks around the coordinator and the atomic step of each. A worker is spawned inside
admission and waits for the starter's release. Aborting it only takes effect at one of its
awaits, so an aborted worker may still take any number of its own steps before it is
dropped. The reaper of a cancelled worker claims the operation only after the worker has
ended.

`accepted` and `evicted` are bookkeeping: which identifiers a receipt was given for, and
which retained results the table has given up.
-/

namespace BtDaemon.Daemon.Operation

open EventLog Transition OperationCoordinator

inductive Phase where
  /-- `start.await`: not yet released, released, or the starter gave up. -/
  | awaitingStart (signal : Option Bool)
  | publishing
  /-- The backend's `device_operation` future is alive. -/
  | inBackend
  | settling (result : Except BackendError Snapshot)
  | ended

structure Worker where
  event : OperationEvent
  phase : Phase
  aborted : Bool
  /-- The progress reporter exists; its clones outlive the worker. -/
  reporter : Bool
  /-- A reaper awaits this worker's handle. -/
  reaper : Bool

/-- One `cancel_owner` call: the identifiers still to cancel and the one it waits for. -/
structure Sweep where
  owner : String
  remaining : List String
  waiting : Option String

structure State where
  coordinator : OperationCoordinator
  workers : Table String Worker
  waiters : List String
  sweeps : Table ℕ Sweep
  accepted : Table String (Option String)
  evicted : List String

inductive Action where
  | start (requestId : String) (request : Except String (String × DeviceOperation))
      (owner : Option String) (admission insertion : Option String)
  | release (requestId : String)
  | wake (requestId : String)
  | publish (requestId : String)
  | report (requestId stage : String)
  | backendReturns (requestId : String) (result : Except BackendError Snapshot)
  | settle (requestId : String)
  | drop (requestId : String)
  | cancel (requestId : String) (owner : Option String)
  | waiterReturns (requestId : String)
  | waiterDropped (requestId : String)
  | reap (requestId : String)
  | sweep (call : ℕ) (owner : String)
  | sweepNext (call : ℕ)
  | evict (requestId : String)

namespace State

def init : State := ⟨new, ∅, [], ∅, ∅, []⟩

def setWorker (self : State) (requestId : String) (worker : Worker) : State :=
  { self with workers := self.workers.insert requestId worker }

/-- Admission with its spawned task. A refused insertion aborts the task and drops the
sender, so the worker can only return from `start.await` with an error. -/
def start (self : State) (requestId : String)
    (request : Except String (String × DeviceOperation)) (owner : Option String)
    (admission insertion : Option String) : State :=
  match self.coordinator.startOwned requestId request owner admission insertion with
  | (.ok _, coordinator, some event) =>
    { self with
      coordinator := coordinator
      workers := self.workers.insert requestId ⟨event, .awaitingStart none, false, false, false⟩
      accepted := self.accepted.insert requestId owner }
  | (_, _, some event) =>
    self.setWorker requestId ⟨event, .awaitingStart (some false), true, false, false⟩
  | (_, _, none) => self

/-- `cancel_owned` with the reaper it spawns. -/
def cancel (self : State) (requestId : String) (owner : Option String) : Cancellation × State :=
  match self.coordinator.cancelOwned requestId owner, self.workers.lookup requestId with
  | (.aborted, coordinator), some worker =>
    (.aborted,
      { self with
        coordinator := coordinator
        workers := self.workers.insert requestId { worker with aborted := true, reaper := true } })
  | (outcome, _), _ => (outcome, self)

def reaping (self : State) (requestId : String) : Bool :=
  (self.workers.lookup requestId).any Worker.reaper

end State

open State in
def step (self : State) : Action → Option State
  | .start requestId request owner admission insertion =>
    -- Request identifiers are fresh UUIDs.
    if self.workers.lookup requestId = none then
      some (self.start requestId request owner admission insertion)
    else none
  | .release requestId =>
    match self.workers.lookup requestId with
    | some ⟨event, .awaitingStart none, aborted, reporter, reaper⟩ =>
      some (self.setWorker requestId
        ⟨event, .awaitingStart (some true), aborted, reporter, reaper⟩)
    | _ => none
  | .wake requestId =>
    match self.workers.lookup requestId with
    | some ⟨event, .awaitingStart (some sent), aborted, reporter, reaper⟩ =>
      some (self.setWorker requestId
        ⟨event, if sent then .publishing else .ended, aborted, reporter, reaper⟩)
    | _ => none
  | .publish requestId =>
    match self.workers.lookup requestId with
    | some ⟨event, .publishing, aborted, reporter, reaper⟩ =>
      match self.coordinator.publishStarted requestId with
      | (true, coordinator) =>
        some ({ self with coordinator := coordinator }.setWorker requestId
          ⟨event, .inBackend, aborted, true, reaper⟩)
      | (false, _) => some (self.setWorker requestId ⟨event, .ended, aborted, reporter, reaper⟩)
    | _ => none
  | .report requestId stage =>
    if (self.workers.lookup requestId).any Worker.reporter then
      some { self with coordinator := self.coordinator.progressReport requestId stage }
    else none
  | .backendReturns requestId result =>
    match self.workers.lookup requestId with
    | some ⟨event, .inBackend, aborted, reporter, reaper⟩ =>
      some (self.setWorker requestId ⟨event, .settling result, aborted, reporter, reaper⟩)
    | _ => none
  | .settle requestId =>
    match self.workers.lookup requestId with
    | some ⟨event, .settling result, aborted, reporter, reaper⟩ =>
      some ({ self with
        coordinator := self.coordinator.claimTerminal requestId fun running ↦
          running.finished result }.setWorker requestId ⟨event, .ended, aborted, reporter, reaper⟩)
    | _ => none
  | .drop requestId =>
    match self.workers.lookup requestId with
    | some worker =>
      if worker.aborted then some (self.setWorker requestId { worker with phase := .ended })
      else none
    | none => none
  | .cancel requestId owner =>
    match self.cancel requestId owner with
    | (.aborted, next) => some { next with waiters := requestId :: next.waiters }
    | (_, next) => some next
  | .waiterReturns requestId =>
    if requestId ∈ self.waiters ∧ !self.reaping requestId then
      some { self with waiters := self.waiters.erase requestId }
    else none
  | .waiterDropped requestId => some { self with waiters := self.waiters.erase requestId }
  | .reap requestId =>
    match self.workers.lookup requestId with
    | some ⟨event, .ended, aborted, reporter, true⟩ =>
      some ({ self with
        coordinator := self.coordinator.claimTerminal requestId fun running ↦
          running.setState .cancelled .cancelled }.setWorker requestId
            ⟨event, .ended, aborted, reporter, false⟩)
    | _ => none
  | .sweep call owner =>
    if self.sweeps.lookup call = none then
      some { self with
        sweeps := self.sweeps.insert call ⟨owner, self.coordinator.ownedBy owner, none⟩ }
    else none
  | .sweepNext call =>
    match self.sweeps.lookup call with
    | some ⟨owner, remaining, some waiting⟩ =>
      if self.reaping waiting then none
      else some { self with sweeps := self.sweeps.insert call ⟨owner, remaining, none⟩ }
    | some ⟨owner, requestId :: remaining, none⟩ =>
      match self.cancel requestId (some owner) with
      | (.aborted, next) =>
        some { next with sweeps := self.sweeps.insert call ⟨owner, remaining, some requestId⟩ }
      | (_, next) => some { next with sweeps := self.sweeps.insert call ⟨owner, remaining, none⟩ }
    | some ⟨_, [], none⟩ => some { self with sweeps := self.sweeps.erase call }
    | none => none
  | .evict requestId =>
    if self.coordinator.recent.lookup requestId = none then none
    else some { self with
      coordinator :=
        { self.coordinator with recent := self.coordinator.recent.erase requestId }
      evicted := requestId :: self.evicted }

def system : System State Action := ⟨State.init, step⟩

/-! ## The life of one operation -/

/-- Everything the system holds about one identifier. -/
structure Life where
  worker : Option Worker
  active : Option (Owned OperationTask)
  recent : Option (Owned OperationEvent)
  events : List OperationEvent
  accepted : Option (Option String)
  evicted : Bool

def State.eventsOf (self : State) (requestId : String) : List OperationEvent :=
  about OperationEvent.requestId self.coordinator.events requestId

def State.life (self : State) (requestId : String) : Life where
  worker := self.workers.lookup requestId
  active := self.coordinator.active.lookup requestId
  recent := self.coordinator.recent.lookup requestId
  events := self.eventsOf requestId
  accepted := self.accepted.lookup requestId
  evicted := self.evicted.contains requestId

namespace Life

def claim (life : Life) (terminal : OperationEvent) : Life :=
  { life with
    active := none
    recent := some ⟨terminal.owner, terminal⟩
    events := life.events ++ [terminal] }

def publish (life : Life) (task : Owned OperationTask) (event : OperationEvent) : Life :=
  { life with
    active := some { task with value := { task.value with event := event } }
    events := life.events ++ [event] }

end Life

/-- All that a step can do to one operation, where `busy` are the devices that active
operations hold before the step. -/
inductive Move (busy : String → Prop) (requestId : String) : Life → Life → Prop where
  | accept (life : Life) (owner : Option String) (deviceKey operation : String)
      (hfresh : life.worker = none) (hidle : ¬ busy deviceKey) :
      Move busy requestId life
        { life with
          worker := some ⟨.queued requestId deviceKey operation owner, .awaitingStart none,
            false, false, false⟩
          active := some ⟨owner, ⟨true, .queued requestId deviceKey operation owner⟩⟩
          accepted := some owner }
  | refuse (life : Life) (event : OperationEvent) (hfresh : life.worker = none) :
      Move busy requestId life
        { life with worker := some ⟨event, .awaitingStart (some false), true, false, false⟩ }
  | release (life : Life) (worker : Worker) (hworker : life.worker = some worker)
      (hphase : worker.phase = .awaitingStart none) :
      Move busy requestId life
        { life with worker := some { worker with phase := .awaitingStart (some true) } }
  | wake (life : Life) (worker : Worker) (hworker : life.worker = some worker)
      (hphase : worker.phase = .awaitingStart (some true)) :
      Move busy requestId life { life with worker := some { worker with phase := .publishing } }
  | publishStarted (life : Life) (worker : Worker) (task : Owned OperationTask)
      (hworker : life.worker = some worker) (hphase : worker.phase = .publishing)
      (htask : life.active = some task) :
      Move busy requestId life
        { life.publish task (task.value.event.setState .started .running) with
          worker := some { worker with phase := .inBackend, reporter := true } }
  | report (life : Life) (worker : Worker) (task : Owned OperationTask) (stage : String)
      (hworker : life.worker = some worker) (hreporter : worker.reporter = true)
      (htask : life.active = some task) (hhandle : task.value.handle = true)
      (hreserve : task.value.event.revision < maxRevision - 1) :
      Move busy requestId life (life.publish task (task.value.event.progress stage))
  | backendReturns (life : Life) (worker : Worker) (result : Except BackendError Snapshot)
      (hworker : life.worker = some worker) (hphase : worker.phase = .inBackend) :
      Move busy requestId life { life with worker := some { worker with phase := .settling result } }
  | settle (life : Life) (worker : Worker) (task : Owned OperationTask)
      (result : Except BackendError Snapshot) (hworker : life.worker = some worker)
      (hphase : worker.phase = .settling result) (htask : life.active = some task) :
      Move busy requestId life
        { life.claim (task.value.event.finished result) with
          worker := some { worker with phase := .ended } }
  /-- The worker is dropped, or finds that its operation is gone, or was never released. -/
  | ends (life : Life) (worker : Worker) (hworker : life.worker = some worker)
      (hcause : worker.aborted = true ∨ worker.phase = .awaitingStart (some false) ∨
        life.active = none) :
      Move busy requestId life { life with worker := some { worker with phase := .ended } }
  | abort (life : Life) (worker : Worker) (task : Owned OperationTask)
      (hworker : life.worker = some worker) (htask : life.active = some task)
      (hhandle : task.value.handle = true) :
      Move busy requestId life
        { life with
          worker := some { worker with aborted := true, reaper := true }
          active := some { task with value := { task.value with handle := false } } }
  | reap (life : Life) (worker : Worker) (task : Owned OperationTask)
      (hworker : life.worker = some worker) (hphase : worker.phase = .ended)
      (hreaper : worker.reaper = true) (htask : life.active = some task) :
      Move busy requestId life
        { life.claim (task.value.event.setState .cancelled .cancelled) with
          worker := some { worker with reaper := false } }
  | reapNothing (life : Life) (worker : Worker) (hworker : life.worker = some worker)
      (hgone : life.active = none) :
      Move busy requestId life { life with worker := some { worker with reaper := false } }
  | evict (life : Life) (record : Owned OperationEvent) (hrecord : life.recent = some record) :
      Move busy requestId life { life with recent := none, evicted := true }

/-- Some active operation holds the device. -/
def State.Busy (self : State) (deviceKey : String) : Prop :=
  ∃ requestId task, self.coordinator.active.lookup requestId = some task ∧
    task.value.event.deviceKey = deviceKey

/-- At most one operation differs between the two states, and it differs by a move. -/
def MovesOne (self next : State) : Prop :=
  (∀ other, next.life other = self.life other) ∨
    ∃ requestId, Move self.Busy requestId (self.life requestId) (next.life requestId) ∧
      ∀ other, other ≠ requestId → next.life other = self.life other

end BtDaemon.Daemon.Operation
