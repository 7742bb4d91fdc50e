import BtDaemon.Daemon.Scan
import BtDaemon.Foundation.Transition

/-!
# Runs of the scan coordinator

Every path that calls the backend holds the `transition` lock from its first call to its
last table update. The section that holds the lock is a state of its own here, with the
backend call that it waits for, and every answer of the backend is one step. Callers that
wait for the lock, timers that have not elapsed and owner sweeps between two stops take no
part until they acquire it.

A timer whose cleanup failed releases the lock and is armed again, so an elapsed timer and a
retry are the same step. Events and responses are logged in the order they are produced.
-/

namespace BtDaemon.Daemon.Scan

open Transition

/-- The call that an active section waits for. -/
inductive BackendCall where
  | setScanning (adapterKey : Option String) (enabled : Bool)
  | snapshot
  deriving DecidableEq, Repr

/-- On whose behalf adapters are stopped: a `stop` call, which may be one of a `stop_owner`
call, or a timeout task. -/
inductive Cause where
  | request (requestId : Option String) (event : String) (sweep : Option ℕ)
  | timeout (timer : ℕ) (taskId : String)
  deriving DecidableEq, Repr

/-- The scans that end when the stop succeeds. -/
def Cause.removes (selected : List String) : Cause → List String
  | .request _ _ _ => selected
  | .timeout _ taskId => [taskId]

def Cause.sweep : Cause → Option ℕ
  | .request _ _ sweep => sweep
  | .timeout _ _ => none

/-- The holder of the `transition` lock. -/
inductive Section where
  | free
  | starting (adapterKey : Option String) (timeoutMs : ℕ) (owner : String)
  | rollingBack (adapterKey : Option String)
  /-- The loop of `stop_adapters`: the adapter being stopped, those after it, and the
  first error or the last snapshot so far. -/
  | stopping (cause : Cause) (selected : List String) (current : String)
      (remaining : List String) (result : Except BackendError (Option Snapshot))
  /-- There was nothing to stop, so `stop_adapters` reads a snapshot instead. -/
  | reading (cause : Cause) (selected : List String)

def Section.call : Section → Option BackendCall
  | .free => none
  | .starting adapterKey _ _ => some (.setScanning adapterKey true)
  | .rollingBack adapterKey => some (.setScanning adapterKey false)
  | .stopping _ _ current _ _ => some (.setScanning (some current) false)
  | .reading _ _ => some .snapshot

/-- The `stop_owner` call that waits for the section. -/
def Section.sweep : Section → Option ℕ
  | .stopping cause _ _ _ _ | .reading cause _ => cause.sweep
  | _ => none

/-- A spawned timeout task. `terminalAdapter` is its right to publish a terminal event. -/
structure Timer where
  taskId : String
  terminalAdapter : Option (Option String)
  deriving DecidableEq, Repr

structure State where
  sequence : ℕ
  tasks : Table String ScanTask
  transition : Section
  timers : Table ℕ Timer
  spawned : ℕ
  /-- The scans that each `stop_owner` call still has to stop. -/
  sweeps : Table ℕ (List String)
  events : List ScanEvent
  responses : List Response

inductive Action where
  | start (params : ScanParams) (owner : String)
  | stop (requestId owner : Option String) (event : String)
  | sweep (call : ℕ) (owner : String)
  | sweepNext (call : ℕ)
  | timeout (timer : ℕ)
  /-- The backend answers the call of the section that holds the lock. -/
  | reply (result : Except BackendError Snapshot)

namespace State

def init : State := ⟨1, ∅, .free, ∅, 0, ∅, [], []⟩

def snapshot (self : State) : List ScanEvent := self.tasks.values.map ScanTask.event

def respond (self : State) (response : Response) : State :=
  { self with responses := self.responses ++ [response] }

/-- Release the lock. -/
def release (self : State) : State := { self with transition := .free }

/-! ## Stopping adapters -/

/-- After a successful stop: the tables and events of `stop_selected`. -/
def removeSelected (self : State) (selected : List String) (event : String)
    (lastSnapshot : Snapshot) : State :=
  let removed := selected.filterMap self.tasks.lookup
  { self with
    tasks := self.tasks.eraseAll selected
    timers := self.timers.eraseAll (removed.map ScanTask.handle)
    events := self.events ++ removed.map (stoppedEvent event lastSnapshot) }

/-- One round of a timeout task ends. Publishing consumes the right to publish. -/
def finishTimeout (self : State) (timer : ℕ) (taskId : String)
    (result : Except BackendError Snapshot) : State :=
  let terminalAdapter := (self.timers.lookup timer).bind Timer.terminalAdapter
  let terminal := terminalAdapter.map fun adapterKey ↦ terminalEvent taskId adapterKey result
  let published := { self with events := self.events ++ terminal.toList }
  match result with
  | .ok _ =>
    { published with
      tasks := self.tasks.eraseAll [taskId]
      timers := self.timers.erase timer }
  | .error _ => { published with timers := self.timers.insert timer ⟨taskId, none⟩ }

/-- What follows `stop_adapters` before the lock is released. -/
def finishStop (self : State) (cause : Cause) (selected : List String)
    (result : Except BackendError Snapshot) : State :=
  match cause, result with
  | .request requestId event _, .ok snapshot =>
    ((self.removeSelected selected event snapshot).respond (.stopped requestId snapshot)).release
  | .request _ _ _, .error failure =>
    (self.respond (.error (error "scan-stop-failed" failure.message))).release
  | .timeout timer taskId, result => (self.finishTimeout timer taskId result).release

/-- The rest of the `stop_adapters` loop, up to its next call of the backend. -/
def stopAdapters (self : State) (cause : Cause) (selected : List String) :
    List String → Except BackendError (Option Snapshot) → State
  | current :: remaining, result =>
    { self with transition := .stopping cause selected current remaining result }
  | [], .ok none => { self with transition := .reading cause selected }
  | [], .ok (some snapshot) => self.finishStop cause selected (.ok snapshot)
  | [], .error failure => self.finishStop cause selected (.error failure)

/-- `stop_selected`, up to its first call of the backend. -/
def stopSelected (self : State) (requestId owner : Option String) (event : String)
    (sweep : Option ℕ) : State :=
  match selectScans self.tasks requestId owner with
  | ([], _) => self.respond (.error (error "request-not-found" "No matching scan is active"))
  | (selected, adapters) =>
    self.stopAdapters (.request requestId event sweep) selected adapters (.ok none)

/-! ## Starting -/

/-- A confirmed start: the scan, its timeout task and its `started` event. -/
def startScan (self : State) (adapterKey : Option String) (timeoutMs : ℕ) (owner : String)
    (snapshot : Snapshot) : State :=
  let requestId := "scan-" ++ toString self.sequence
  let adapterKeys := poweredAdapterKeys snapshot adapterKey
  let running := runningEvent requestId adapterKey adapterKeys owner timeoutMs snapshot
  { self with
    sequence := (self.sequence + 1) % 2 ^ 64
    tasks := self.tasks.insert requestId ⟨self.spawned, running⟩
    timers := self.timers.insert self.spawned ⟨requestId, some adapterKey⟩
    spawned := self.spawned + 1
    events := self.events ++ [running] }.respond (.started running snapshot)

/-- The answer to the backend call that the section waits for. -/
def reply (self : State) (result : Except BackendError Snapshot) : Option State :=
  match self.transition, result with
  | .free, _ => none
  | .starting _ _ _, .error failure =>
    some (self.respond (.error (error "scan-start-failed" failure.message))).release
  | .starting adapterKey timeoutMs owner, .ok snapshot =>
    if poweredAdapterKeys snapshot adapterKey = [] then
      some { self with transition := .rollingBack adapterKey }
    else some (self.startScan adapterKey timeoutMs owner snapshot).release
  | .rollingBack _, _ =>
    -- A failed roll-back is logged and changes nothing here.
    some (self.respond (.error (error "scan-start-failed"
      "Bluetooth discovery did not start on a powered adapter"))).release
  | .stopping cause selected _ remaining earlier, result =>
    -- Attempt every adapter, preserving the first error or the last snapshot.
    some (self.stopAdapters cause selected remaining (earlier.bind fun _ ↦ result.map some))
  | .reading cause selected, result => some (self.finishStop cause selected result)

def isFree (self : State) : Bool :=
  match self.transition with
  | .free => true
  | _ => false

end State

open State in
def step (self : State) : Action → Option State
  | .start params owner =>
    match ScanRequest.parse params with
    | .error message => some (self.respond (.error (error "validation-error" message)))
    | .ok (.stop requestId) =>
      if self.isFree then some (self.stopSelected requestId (some owner) "cancelled" none)
      else none
    | .ok (.start adapterKey timeoutMs) =>
      if self.isFree then
        some { self with transition := .starting adapterKey timeoutMs owner }
      else none
  | .stop requestId owner event =>
    if self.isFree then some (self.stopSelected requestId owner event none) else none
  | .sweep call owner =>
    if self.sweeps.lookup call = none then
      let requestIds := self.tasks.keysWhere fun task ↦ task.event.owner = owner
      some { self with sweeps := self.sweeps.insert call requestIds }
    else none
  | .sweepNext call =>
    match self.sweeps.lookup call with
    | some (requestId :: rest) =>
      if self.isFree then
        some ({ self with sweeps := self.sweeps.insert call rest }.stopSelected
          (some requestId) none "cancelled" (some call))
      else none
    | some [] =>
      if self.transition.sweep = some call then none
      else some { self with sweeps := self.sweeps.erase call }
    | none => none
  | .timeout timer =>
    match self.timers.lookup timer with
    | some ⟨taskId, _⟩ =>
      if self.isFree then
        match selectScans self.tasks (some taskId) none with
        | ([], _) => some { self with timers := self.timers.erase timer }
        | (selected, adapters) =>
          some (self.stopAdapters (.timeout timer taskId) selected adapters (.ok none))
      else none
    | none => none
  | .reply result => self.reply result

def system : System State Action := ⟨State.init, step⟩

end BtDaemon.Daemon.Scan
