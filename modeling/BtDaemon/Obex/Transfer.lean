import BtDaemon.Backend
import BtDaemon.Foundation.EventLog
import BtDaemon.Foundation.Transition

/-!
# The life of an OBEX transfer

A transfer in either direction is watched by a task of its own. The task subscribes to the
properties of the transfer before it reads them, publishes an event for each update, and stops
at a terminal status, at a cancellation that obexd has acknowledged, or at a failure. Its
caller turns a failure into one more event. Everything that obexd answers is part of an action,
so a run is one order of property updates, cancellation and failing calls.

The events of a transfer carry its own request id, and no other task publishes under it.
-/

namespace BtDaemon.Obex

open Transition

inductive EventName where
  | authorizationRequested
  | queued
  | progress
  | completed
  | cancelled
  | failed
  deriving DecidableEq, Repr

def EventName.asStr : EventName → String
  | .authorizationRequested => "authorization-requested"
  | .queued => "queued"
  | .progress => "progress"
  | .completed => "completed"
  | .cancelled => "cancelled"
  | .failed => "failed"

inductive Direction where
  | outgoing
  | incoming
  deriving DecidableEq, Repr

structure ObexEvent where
  event : EventName
  requestId : String
  direction : Direction
  deviceKey : String
  deviceName : Option String
  fileName : String
  mediaType : Option String
  status : String
  transferred : ℕ
  size : ℕ
  timeoutMs : Option ℕ
  error : Option ApiError
  deriving DecidableEq, Repr

/-- The properties of a transfer that are present with the right type. -/
structure Properties where
  status : Option String
  transferred : Option ℕ
  size : Option ℕ
  deriving DecidableEq, Repr

structure TransferUpdate where
  status : String
  transferred : ℕ
  size : ℕ
  deriving DecidableEq, Repr

namespace TransferUpdate

def applyValues (update : TransferUpdate) (status : Option String)
    (transferred size : Option ℕ) : TransferUpdate where
  status := status.getD update.status
  transferred := transferred.getD update.transferred
  size := size.getD update.size

def apply (update : TransferUpdate) (properties : Properties) : TransferUpdate :=
  update.applyValues properties.status properties.transferred properties.size

/-- A changed size is not taken over. -/
def applyChanged (update : TransferUpdate) (changed : Properties) : TransferUpdate :=
  update.applyValues changed.status changed.transferred none

def terminal (update : TransferUpdate) : Bool :=
  update.status = "complete" || update.status = "error" || update.status = "cancelled"

end TransferUpdate

def lifecycleEvent (status : String) : EventName :=
  if status = "complete" then .completed
  else if status = "cancelled" then .cancelled
  else if status = "error" then .failed
  else if status = "queued" then .queued
  else .progress

namespace ObexEvent

def outgoing (requestId deviceKey fileName : String) (size : ℕ) : ObexEvent where
  event := .queued
  requestId := requestId
  direction := .outgoing
  deviceKey := deviceKey
  deviceName := none
  fileName := fileName
  mediaType := none
  status := "queued"
  transferred := 0
  size := size
  timeoutMs := none
  error := none

def updated (event : ObexEvent) (update : TransferUpdate) : ObexEvent :=
  { event with
    event := lifecycleEvent update.status
    status := update.status
    transferred := update.transferred
    size := update.size }

def failed (event : ObexEvent) (error : ApiError) : ObexEvent :=
  { event with event := .failed, status := "error", error := some error }

def isTerminal (event : ObexEvent) : Bool :=
  match event.event with
  | .completed | .cancelled | .failed => true
  | .authorizationRequested | .queued | .progress => false

end ObexEvent

/-- An event is terminal exactly when the update it is published for is. -/
theorem isTerminal_updated (event : ObexEvent) (update : TransferUpdate) :
    (event.updated update).isTerminal = update.terminal := by
  simp only [ObexEvent.updated, ObexEvent.isTerminal, lifecycleEvent, TransferUpdate.terminal]
  by_cases hcomplete : update.status = "complete"
  · simp [hcomplete]
  · by_cases hcancelled : update.status = "cancelled"
    · simp [hcancelled]
    · by_cases herror : update.status = "error"
      · simp [herror]
      · by_cases hqueued : update.status = "queued" <;> simp [hcomplete, hcancelled, herror, hqueued]

/-- What an incoming transfer is announced with. -/
structure IncomingAuthorization where
  requestId : String
  deviceKey : String
  deviceName : String
  fileName : String
  mediaType : Option String
  size : ℕ
  deriving DecidableEq, Repr

def IncomingAuthorization.event (authorization : IncomingAuthorization) (name : EventName)
    (status : String) (timeoutMs : Option ℕ) : ObexEvent where
  event := name
  requestId := authorization.requestId
  direction := .incoming
  deviceKey := authorization.deviceKey
  deviceName := some authorization.deviceName
  fileName := authorization.fileName
  mediaType := authorization.mediaType
  status := status
  transferred := 0
  size := authorization.size
  timeoutMs := timeoutMs
  error := none

/-- A transfer that was started: an outgoing one with the properties that `SendFile` returned
and the length of the file, or an incoming one that was accepted. -/
inductive Start where
  | outgoing (requestId deviceKey fileName : String) (properties : Properties) (length : ℕ)
  | incoming (authorization : IncomingAuthorization)
  deriving DecidableEq, Repr

namespace Start

/-- The `ActiveTransfer` of an outgoing transfer, or what an incoming one is watched from. -/
def current : Start → TransferUpdate
  | .outgoing _ _ _ properties length =>
    ⟨properties.status.getD "queued", properties.transferred.getD 0, properties.size.getD length⟩
  | .incoming authorization => ⟨"queued", 0, authorization.size⟩

/-- The event that all others of the transfer are made from. -/
def template : Start → ObexEvent
  | .outgoing requestId deviceKey fileName properties length =>
    .outgoing requestId deviceKey fileName (properties.size.getD length)
  | .incoming authorization => authorization.event .queued "queued" none

/-- The error of the event for a monitor that failed. -/
def failure (start : Start) (message : String) : ApiError :=
  match start with
  | .outgoing _ _ _ _ _ => errorValue ⟨.operationFailed, message⟩
  | .incoming _ => BtDaemon.error "obex-transfer-failed" ("monitor incoming OBEX transfer: " ++ message)

/-- The count that obexd reported before the task started. -/
def reported : Start → List ℕ
  | .outgoing _ _ _ properties _ => properties.transferred.toList
  | .incoming _ => []

end Start

/-- Where the task of a transfer is. `settling` is the return of `monitor_transfer`. -/
inductive Phase where
  | starting
  | connecting (current : TransferUpdate)
  | watching (current : TransferUpdate)
  | settling (current : TransferUpdate) (result : Except String Unit)
  | finished
  deriving DecidableEq

structure State where
  phase : Phase
  /-- The published events, oldest first. -/
  events : List ObexEvent
  /-- The transferred counts that obexd has reported. -/
  reported : List ℕ

inductive Action where
  | begin
  /-- One of the calls before the first read of the properties fails. -/
  | setupFailed (reason : String)
  | refreshed (properties : Properties)
  /-- The cancellation is received, and obexd answers `Cancel`. -/
  | cancelled (answer : Except String Unit)
  | propertiesChanged (interfaceName : String) (changed : Properties)
  | malformed (reason : String)
  | streamEnded
  | finish

def transferInterface : String := "org.bluez.obex.Transfer1"

/-- The result at a terminal status. -/
def TransferUpdate.result (current : TransferUpdate) : Except String Unit :=
  if current.status = "error" then .error "OBEX transfer failed" else .ok ()

namespace State

def init (start : Start) : State := ⟨.starting, [], start.reported⟩

def publish (state : State) (start : Start) (update : TransferUpdate) : State :=
  { state with events := state.events ++ [start.template.updated update] }

def moveTo (state : State) (phase : Phase) : State := { state with phase := phase }

/-- The head of the monitor's loop. -/
def watch (state : State) (current : TransferUpdate) : State :=
  state.moveTo (if current.terminal then .settling current current.result else .watching current)

/-- The start of the task. Only an outgoing transfer publishes its initial state. -/
def begin (state : State) (start : Start) : State :=
  let current := start.current
  let announced := match start with
    | .outgoing _ _ _ _ _ => state.publish start current
    | .incoming _ => state
  announced.moveTo
    (if current.terminal then .settling current current.result else .connecting current)

/-- Publish an update and look at the status again. -/
def update (state : State) (start : Start) (current : TransferUpdate) : State :=
  (state.publish start current).watch current

def report (state : State) (transferred : Option ℕ) : State :=
  { state with reported := state.reported ++ transferred.toList }

def fail (state : State) (current : TransferUpdate) (reason : String) : State :=
  state.moveTo (.settling current (.error reason))

def finish (state : State) (start : Start) : Except String Unit → State
  | .ok _ => state.moveTo .finished
  | .error message =>
    { state with events := state.events ++ [start.template.failed (start.failure message)] }.moveTo
      .finished

end State

/-- The task of one transfer. -/
def transfer (start : Start) : System State Action where
  init := State.init start
  step state action :=
    match state.phase, action with
    | .starting, .begin => some (state.begin start)
    | .connecting current, .setupFailed reason => some (state.fail current reason)
    | .connecting current, .refreshed properties =>
      some ((state.report properties.transferred).update start (current.apply properties))
    | .watching current, .cancelled (.error reason) =>
      some (state.fail current ("cancel OBEX transfer: " ++ reason))
    | .watching current, .cancelled (.ok _) =>
      some (state.update start { current with status := "cancelled" })
    | .watching current, .propertiesChanged interfaceName changed =>
      if interfaceName ≠ transferInterface then some state
      else some ((state.report changed.transferred).update start (current.applyChanged changed))
    | .watching current, .malformed reason => some (state.fail current reason)
    | .watching current, .streamEnded => some (state.fail current "OBEX property stream ended")
    | .settling _ result, .finish => some (state.finish start result)
    | _, _ => none

end BtDaemon.Obex
