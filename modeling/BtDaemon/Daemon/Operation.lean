import BtDaemon.Backend
import BtDaemon.Foundation.EventLog
import BtDaemon.Foundation.Table
import BtDaemon.Foundation.Transition

/-!
# Device operations

The coordinator keeps every accepted operation in one of two owner-keyed tables: `active`
while its worker may still run, `recent` once it has a terminal event. Both tables and the
event channel change together inside one critical section of the state lock, and each
section is one action here. Between sections any task may run: the starter that still has to
release its worker, the worker, progress callbacks, the reaper of a cancelled worker, a
sweep over the operations of a lost owner, and the retention policy of the result table.

The owner-keyed tables come from the daemon framework. Their refusals (admission limits,
insertion) and the eviction of retained results are choices of the environment.
-/

namespace BtDaemon.Daemon.Operation

open EventLog Transition

/-- `TERMINAL_LIMIT` and `TERMINAL_RETENTION` only bound what `evict` removes. -/
def maxRevision : ℕ := 2 ^ 53 - 1

inductive EventName where
  | queued
  | started
  | progress
  | completed
  | failed
  | cancelled
  deriving DecidableEq, Repr

inductive StateName where
  | queued
  | running
  | completed
  | failed
  | cancelled
  deriving DecidableEq, Repr

def StateName.asStr : StateName → String
  | .queued => "queued"
  | .running => "running"
  | .completed => "completed"
  | .failed => "failed"
  | .cancelled => "cancelled"

structure OperationEvent where
  event : EventName
  requestId : String
  revision : ℕ
  owner : Option String
  deviceKey : String
  operation : String
  state : StateName
  stage : String
  snapshot : Option Snapshot
  error : Option ApiError
  deriving DecidableEq, Repr

namespace OperationEvent

def queued (requestId deviceKey operation : String) (owner : Option String) : OperationEvent where
  event := .queued
  requestId := requestId
  revision := 1
  owner := owner
  deviceKey := deviceKey
  operation := operation
  state := .queued
  stage := "queued"
  snapshot := none
  error := none

def visibleTo (event : OperationEvent) (owner : Option String) : Bool := event.owner = owner

def setState (self : OperationEvent) (event : EventName) (state : StateName) : OperationEvent :=
  { self with revision := self.revision + 1, event := event, state := state, stage := state.asStr }

def progress (self : OperationEvent) (stage : String) : OperationEvent :=
  { self.setState .progress .running with stage := stage }

def finished (self : OperationEvent) : Except BackendError Snapshot → OperationEvent
  | .ok snapshot => { self with snapshot := some snapshot }.setState .completed .completed
  | .error failure => { self with error := some (errorValue failure) }.setState .failed .failed

/-- The three events that end an operation. -/
def isTerminal (event : OperationEvent) : Bool :=
  event.event = .completed || event.event = .failed || event.event = .cancelled

end OperationEvent

/-- `handle` records whether the worker's join handle is still here to be taken. -/
structure OperationTask where
  handle : Bool
  event : OperationEvent
  deriving DecidableEq, Repr

/-- An entry of an owner-keyed table of the daemon framework. -/
structure Owned (Value : Type) where
  owner : Option String
  value : Value
  deriving DecidableEq, Repr

structure OperationCoordinator where
  active : Table String (Owned OperationTask)
  recent : Table String (Owned OperationEvent)
  /-- Everything sent on the broadcast channel, oldest first. -/
  events : List OperationEvent
  deriving DecidableEq

namespace OperationCoordinator

def new : OperationCoordinator := ⟨∅, ∅, []⟩

def snapshot (self : OperationCoordinator) (owner : Option String) :
    List OperationEvent × List OperationEvent :=
  ((self.active.values.filter fun task ↦ task.owner = owner).map fun task ↦ task.value.event,
    (self.recent.values.map Owned.value).filter fun event ↦ event.visibleTo owner)

/-- `get_owned` of both tables finds an entry only for its own owner. -/
def getOwned {Value : Type} (table : Table String (Owned Value)) (requestId : String)
    (owner : Option String) : Option Value :=
  ((table.lookup requestId).filter fun entry ↦ entry.owner = owner).map Owned.value

def status (self : OperationCoordinator) (requestId : Except String String)
    (owner : Option String) : Except ApiError OperationEvent :=
  match requestId with
  | .error message => .error (error "validation-error" message)
  | .ok requestId =>
    match (getOwned self.active requestId owner).map OperationTask.event <|>
        getOwned self.recent requestId owner with
    | some event => .ok event
    | none => .error (error "request-not-found" "No retained operation for this caller")

/-- The admission part of `start_owned`, under the state lock and up to the new task.
`request` is the outcome of `typed_operation`, `admission` and `insertion` are the answers
of the framework table, and `requestId` is the fresh identifier. -/
def startOwned (self : OperationCoordinator) (requestId : String)
    (request : Except String (String × DeviceOperation)) (owner : Option String)
    (admission insertion : Option String) :
    Except ApiError OperationEvent × OperationCoordinator × Option OperationEvent :=
  match request with
  | .error message => (.error (error "validation-error" message), self, none)
  | .ok (deviceKey, operation) =>
    match admission with
    | some refusal => (.error (error "operation-unavailable" refusal), self, none)
    | none =>
      if self.active.values.any fun task ↦ task.value.event.deviceKey = deviceKey then
        (.error (error "device-busy" "Device already has an active operation"), self, none)
      else
        let queued := OperationEvent.queued requestId deviceKey operation.asStr owner
        match insertion with
        | some refusal => (.error (error "operation-unavailable" refusal), self, some queued)
        | none =>
          (.ok queued,
            { self with active := self.active.insert requestId ⟨owner, ⟨true, queued⟩⟩ },
            some queued)

/-- Both the retained record and the published event, in one critical section. -/
def retainTerminal (self : OperationCoordinator) (event : OperationEvent) :
    OperationCoordinator :=
  { self with
    recent := self.recent.insert event.requestId ⟨event.owner, event⟩
    events := self.events ++ [event] }

/-- `claim` removes the entry and hands it to the one caller that found it. -/
def claimTerminal (self : OperationCoordinator) (requestId : String)
    (terminal : OperationEvent → OperationEvent) : OperationCoordinator :=
  match self.active.lookup requestId with
  | some task =>
    { self with active := self.active.erase requestId }.retainTerminal (terminal task.value.event)
  | none => self

def setEvent (self : OperationCoordinator) (requestId : String) (task : Owned OperationTask)
    (event : OperationEvent) : OperationCoordinator :=
  { self with
    active := self.active.insert requestId { task with value := { task.value with event := event } }
    events := self.events ++ [event] }

def publishStarted (self : OperationCoordinator) (requestId : String) :
    Bool × OperationCoordinator :=
  match self.active.lookup requestId with
  | none => (false, self)
  | some task => (true, self.setEvent requestId task (task.value.event.setState .started .running))

/-- One call of the reporter made by `progress_reporter`, with the lock acquired by `try_lock`. -/
def progressReport (self : OperationCoordinator) (requestId stage : String) :
    OperationCoordinator :=
  match self.active.lookup requestId with
  | none => self
  | some task =>
    -- Reserve the final exact revision for a terminal transition.
    if task.value.handle && task.value.event.revision < maxRevision - 1 then
      self.setEvent requestId task (task.value.event.progress stage)
    else self

inductive Cancellation where
  | notFound
  | alreadyOwned
  | aborted
  deriving DecidableEq, Repr

/-- The part of `cancel_owned` under the state lock. Only `aborted` spawns a reaper. -/
def cancelOwned (self : OperationCoordinator) (requestId : String) (owner : Option String) :
    Cancellation × OperationCoordinator :=
  match (self.active.lookup requestId).filter fun task ↦ task.value.event.visibleTo owner with
  | none => (.notFound, self)
  | some task =>
    if task.value.handle then
      (.aborted,
        { self with
          active := self.active.insert requestId
            { task with value := { task.value with handle := false } } })
    else (.alreadyOwned, self)

/-- The identifiers that `cancel_owner` collects under the state lock. -/
def ownedBy (self : OperationCoordinator) (owner : String) : List String :=
  self.active.keysWhere fun task ↦ task.owner = some owner

end OperationCoordinator

end BtDaemon.Daemon.Operation
