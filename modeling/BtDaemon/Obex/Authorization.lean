import BtDaemon.Foundation.Table
import BtDaemon.Obex.Transfer

/-!
# The authorization of incoming transfers

Each incoming transfer asks for an answer with a request of its own. While it waits, its
`oneshot` sender is in the map of pending requests. An answer takes it out under the lock of
the map and sends the decision afterwards, so the call may expire or be dropped in between. An
accepted transfer is entered into the map of cancellations, after the lock of that map was
waited for.

The two maps, the channel, the reservation and the transfer's task are kept row by row, with
the number of the request as the key. A row also records how the request was decided and
whether it was cancelled, and the state records which numbers were given out, for the counter
wraps around, and what each `cancel_transfer` answered.
-/

namespace BtDaemon.Obex.Authorization

open Transition

inductive AuthorizationDecision where
  | accept
  | reject
  | cancel
  deriving DecidableEq, Repr

/-- What decided a request: an answer, its deadline, or the loss of its call. -/
inductive Decision where
  | answered (decision : AuthorizationDecision)
  | timedOut
  | abandoned
  deriving DecidableEq, Repr

/-- Where the future of `authorize` is. The last five are its possible ends. -/
inductive Call where
  /-- Pending, and not announced yet. -/
  | registered
  | awaiting
  /-- The deadline has passed and the receiver is gone. -/
  | expired
  /-- Removed from the pending requests after the deadline. -/
  | timingOut
  /-- The decision was to reject or to cancel. -/
  | refusing
  /-- Accepted, and waiting for the lock of the cancellations. -/
  | starting
  /-- Dropped with its receiver, while the prompt is still to be dropped. -/
  | dropping
  /-- The prompt was pending when it was dropped. -/
  | withdrawing
  | started
  | refused
  | timedOut
  | withdrawn
  | lost
  deriving DecidableEq, Repr

namespace Call

def announced : Call → Bool
  | .registered => false
  | _ => true

def returned : Call → Bool
  | .started | .refused | .timedOut | .withdrawn | .lost => true
  | _ => false

/-- The receiver of the decision still exists. -/
def listening : Call → Bool
  | .registered | .awaiting => true
  | _ => false

end Call

/-- The spawned task, and whether its entry is still its own to remove. -/
structure Task where
  state : Obex.State
  registered : Bool

def Task.settled (task : Task) : Bool :=
  match task.state.phase with
  | .settling _ _ => true
  | _ => false

structure Request where
  authorization : IncomingAuthorization
  call : Call
  /-- The sender is in the map of pending requests. -/
  pending : Bool
  /-- A decision whose sender was taken out and has not been used yet. -/
  responder : Option AuthorizationDecision
  channel : Option AuthorizationDecision
  /-- The cancel sender is in the map of cancellations. -/
  cancellation : Bool
  /-- The cancel sender has been used. -/
  signal : Bool
  task : Option Task
  /-- The reserved file has not been removed. -/
  reserved : Bool
  /-- The events that the call has published. -/
  events : List ObexEvent
  decisions : List Decision
  cancelled : Bool

inductive RequestAction where
  | announce
  | send
  | receive
  | expire
  | removeExpired
  | publishExpired
  | rejectAuthorization
  | startIncoming
  /-- The future is dropped where it waits. -/
  | drop
  | dropPrompt
  | publishWithdrawn
  | monitor (action : Obex.Action)
  /-- The task removes itself from the map of cancellations. -/
  | unregister

def authorizationTimeoutMs : ℕ := 60000

namespace Request

/-- `request_decision` up to the insertion into the map of pending requests. -/
def register (authorization : IncomingAuthorization) : Request where
  authorization := authorization
  call := .registered
  pending := true
  responder := none
  channel := none
  cancellation := false
  signal := false
  task := none
  reserved := true
  events := []
  decisions := []
  cancelled := false

def requested (self : Request) : ObexEvent :=
  self.authorization.event .authorizationRequested "awaiting-authorization"
    (some authorizationTimeoutMs)

def cancelledEvent (self : Request) : ObexEvent :=
  self.authorization.event .cancelled "cancelled" none

def terminal (self : Request) : Bool :=
  self.events.any ObexEvent.isTerminal ||
    self.task.any fun task ↦ task.state.events.any ObexEvent.isTerminal

/-- A request that `cancel_transfer` promises to cancel. -/
def cancellable (self : Request) : Bool :=
  self.call.announced && !self.cancelled && !self.terminal

/-- Take the sender out of the map of pending requests, with a decision to send. -/
def take (self : Request) (decision : AuthorizationDecision) : Request :=
  { self with
    pending := false
    responder := some decision
    decisions := self.decisions ++ [.answered decision] }

def cancelPending (self : Request) : Request :=
  { self.take .cancel with cancelled := true }

/-- Use the taken sender. A send without a receiver fails, and the failure is ignored. -/
def send (self : Request) (decision : AuthorizationDecision) : Request :=
  { self with
    responder := none
    channel := if self.call.listening then some decision else self.channel }

def publish (self : Request) (event : ObexEvent) : Request :=
  { self with events := self.events ++ [event] }

/-- The end of a call that did not start the transfer: its destination is dropped. -/
def release (self : Request) (call : Call) : Request :=
  { self with call := call, reserved := false }

def startIncoming (self : Request) : Request :=
  { self with
    call := .started
    cancellation := true
    task := some ⟨Obex.State.init (.incoming self.authorization), true⟩ }

/-- The drop of the prompt's guard: it publishes only if the request was still pending. -/
def dropPrompt (self : Request) : Request :=
  if self.pending then
    { self with
      pending := false
      call := .withdrawing
      decisions := self.decisions ++ [.abandoned] }
  else self.release .lost

def removeExpired (self : Request) : Request :=
  { self with
    pending := false
    call := .timingOut
    decisions := self.decisions ++ [.timedOut] }

/-- The monitor hears of a cancellation only when one was sent, and the task ends after it has
removed itself. -/
def allows (self : Request) (task : Task) : Obex.Action → Bool
  | .cancelled _ => self.signal
  | .finish => !task.registered
  | _ => true

def monitor (self : Request) (task : Task) (action : Obex.Action) : Option Request :=
  if self.allows task action then
    ((transfer (.incoming self.authorization)).step task.state action).map fun state ↦
      { self with task := some { task with state := state } }
  else none

def unregister (self : Request) (task : Task) : Request :=
  { self with cancellation := false, task := some { task with registered := false } }

def step (self : Request) (action : RequestAction) : Option Request :=
  match self.call, action with
  | .registered, .announce => some { self.publish self.requested with call := .awaiting }
  | .awaiting, .receive =>
    match self.channel with
    | none => none
    | some .accept => some { self with call := .starting }
    | some .reject | some .cancel => some { self with call := .refusing }
  -- The channel is looked at before the deadline.
  | .awaiting, .expire => if self.channel = none then some { self with call := .expired } else none
  | .awaiting, .drop => some { self with call := .dropping }
  | .expired, .removeExpired => some self.removeExpired
  | .timingOut, .publishExpired => some ((self.publish self.cancelledEvent).release .timedOut)
  | .refusing, .rejectAuthorization => some ((self.publish self.cancelledEvent).release .refused)
  | .starting, .startIncoming => some self.startIncoming
  | .starting, .drop => some (self.release .lost)
  | .dropping, .dropPrompt => some self.dropPrompt
  | .withdrawing, .publishWithdrawn =>
    some ((self.publish { self.requested with
      event := .cancelled, status := "cancelled", timeoutMs := none }).release .withdrawn)
  | _, .send => self.responder.map self.send
  | _, .monitor action => self.task.bind fun task ↦ self.monitor task action
  | _, .unregister =>
    self.task.bind fun task ↦
      if task.settled && task.registered then some (self.unregister task) else none
  | _, _ => none

end Request

/-- What a call of `cancel_transfer` has returned, and for which request. -/
structure CancelAnswer where
  requestId : UInt64
  cancellable : Bool
  result : Bool
  deriving DecidableEq, Repr

structure State where
  sequence : UInt64
  /-- The numbers that requests were given, newest first. -/
  issued : List UInt64
  requests : Table UInt64 Request
  /-- The calls of `cancel_transfer` that found nothing pending and wait for the lock of the
  cancellations, with whether their request was announced when they looked. -/
  waiting : List (UInt64 × Bool)
  answers : List CancelAnswer

inductive Action where
  /-- `authorize`, from the prepared details to the insertion of the sender. -/
  | authorize (authorization : IncomingAuthorization)
  | own (requestId : UInt64) (action : RequestAction)
  | respond (requestId : UInt64) (accept : Bool)
  | cancelTransfer (requestId : UInt64)
  | cancelActive (requestId : UInt64) (announced : Bool)
  /-- `Cancel` or `Release` of the agent, or a new owner of the name of obexd. -/
  | cancelAuthorizations

/-- The text that stands for the number of a request. -/
def requestName (sequence : UInt64) : String := "obex-incoming-" ++ toString sequence.toNat

namespace State

def init : State := ⟨1, [], ∅, [], []⟩

def authorize (self : State) (authorization : IncomingAuthorization) : State :=
  { self with
    sequence := self.sequence + 1
    issued := self.sequence :: self.issued
    requests := self.requests.insert self.sequence
      (.register { authorization with requestId := requestName self.sequence }) }

def setRequest (self : State) (requestId : UInt64) (request : Request) : State :=
  { self with requests := self.requests.insert requestId request }

def respond (self : State) (requestId : UInt64) (accept : Bool) : Except String State :=
  match self.requests.lookup requestId with
  | some request =>
    if request.pending then
      .ok (self.setRequest requestId (request.take (if accept then .accept else .reject)))
    else .error "incoming transfer authorization is no longer pending"
  | none => .error "incoming transfer authorization is no longer pending"

def answer (self : State) (requestId : UInt64) (cancellable result : Bool) : State :=
  { self with answers := self.answers ++ [⟨requestId, cancellable, result⟩] }

/-- `cancel_transfer` up to the lock of the cancellations. -/
def cancelTransfer (self : State) (requestId : UInt64) : State :=
  match self.requests.lookup requestId with
  | some request =>
    if request.pending then
      (self.setRequest requestId request.cancelPending).answer requestId request.cancellable true
    else { self with waiting := self.waiting ++ [(requestId, request.call.announced)] }
  | none => { self with waiting := self.waiting ++ [(requestId, false)] }

/-- The rest of `cancel_transfer`. -/
def cancelActive (self : State) (requestId : UInt64) (announced : Bool) : State :=
  let self := { self with waiting := self.waiting.erase (requestId, announced) }
  match self.requests.lookup requestId with
  | some request =>
    if request.cancellation then
      (self.setRequest requestId { request with
        cancellation := false, signal := true, cancelled := true }).answer requestId
          (announced && request.cancellable) true
    else self.answer requestId (announced && request.cancellable) false
  | none => self.answer requestId false false

def cancelAuthorizations (self : State) : State :=
  { self with
    requests := self.requests.mapValues fun request ↦
      if request.pending then request.cancelPending else request }

end State

def broker : System State Action where
  init := State.init
  step self action :=
    match action with
    | .authorize authorization => some (self.authorize authorization)
    | .own requestId action =>
      (self.requests.lookup requestId).bind fun request ↦
        (request.step action).map (self.setRequest requestId)
    | .respond requestId accept =>
      match self.respond requestId accept with
      | .ok next => some next
      | .error _ => some self
    | .cancelTransfer requestId => some (self.cancelTransfer requestId)
    | .cancelActive requestId announced =>
      if (requestId, announced) ∈ self.waiting then some (self.cancelActive requestId announced)
      else none
    | .cancelAuthorizations => some self.cancelAuthorizations

end BtDaemon.Obex.Authorization
