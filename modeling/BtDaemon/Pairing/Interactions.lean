import BtDaemon.Foundation.Transition
import BtDaemon.Pairing.Broker

/-!
# Pairing interactions

Five parties can end a prompt: its answer, its timeout, BlueZ dropping the callback, and a
`cancel_all`; a display ends when BlueZ cancels it, when a newer one replaces it, or with a
`cancel_all`. Whoever takes an interaction out of its table still has to answer BlueZ and to
publish the end, and both happen after the table's lock is released. These unfinished ends
are the agents below. A `cancel_all` goes through the requests that it took, in any order,
and then through the displays.

A callback that BlueZ drops first loses its receiver, so that answers no longer reach it, and
then runs its guard.
-/

namespace BtDaemon.Pairing

open Transition

/-- The future of a callback that asks for an answer. -/
inductive CallbackPhase where
  /-- Inserted, with the announcement to publish before it waits. -/
  | inserted (event : PairingEvent)
  | waiting
  /-- Its receiver is gone, its guard is not. -/
  | dropping
  | finished
  deriving DecidableEq, Repr

/-- The task that waits until BlueZ cancels a display. -/
inductive DisplayPhase where
  | inserted (event : PairingEvent)
  | waiting
  /-- Removed from the displays by the task, but not announced as cancelled. -/
  | removed
  | finished
  deriving DecidableEq, Repr

structure DisplayTask where
  kind : String
  phase : DisplayPhase
  deriving DecidableEq, Repr

/-- A party that has taken interactions out of the tables. -/
inductive Agent where
  /-- A `cancel_all` between its two locks. -/
  | cancelAll (reason : String) (requests : List PendingRequest)
  /-- A `respond` that is about to accept. -/
  | accepting (request : PendingRequest) (params : RespondParams)
  /-- The event to publish next, the requests to end after it, and the displays after those. -/
  | ending (announcement : Option PairingEvent) (requests : List (Answer × PairingEvent))
      (displays : List PairingEvent)

/-- A failed `respond`, with the prompt that it had taken. -/
structure RespondError where
  message : String
  taken : Option String
  deriving DecidableEq, Repr

structure State where
  broker : PairingBroker
  callbacks : Table String CallbackPhase
  displayTasks : Table String DisplayTask
  timers : List String
  agents : Table ℕ Agent
  spawned : ℕ
  /-- The answers that reached their callback, by the id of the prompt. -/
  answers : List (String × Answer)
  respondErrors : List RespondError
  /-- The displays that a `cancel_all` took. -/
  swept : List String

inductive Action where
  | prompt (prompt : Prompt) (deviceKey : String)
  | announcePrompt (id : String)
  | timeout (id : String)
  /-- The callback is polled after its answer arrived. -/
  | wake (id : String)
  | dropReceiver (id : String)
  | dropGuard (id : String)
  | respond (params : RespondParams)
  | cancelAll (reason : String)
  | takeDisplays (agent : ℕ)
  /-- The next step of an agent; the index picks the interaction that it ends next. -/
  | next (agent index : ℕ)
  | display (display : Display) (deviceKey : String)
  | announceDisplay (id : String)
  | cancelDisplay (id : String)
  | announceCancelled (id deviceKey : String)

namespace State

def init : State := ⟨PairingBroker.init, ∅, ∅, [], ∅, 0, [], [], []⟩

def emit (state : State) (event : PairingEvent) : State :=
  { state with broker := state.broker.emit event }

def spawn (state : State) (agent : Agent) : State :=
  { state with
    agents := state.agents.insert state.spawned agent
    spawned := state.spawned + 1 }

def setAgent (state : State) (serial : ℕ) (agent : Agent) : State :=
  { state with agents := state.agents.insert serial agent }

def setCallback (state : State) (id : String) (phase : CallbackPhase) : State :=
  { state with callbacks := state.callbacks.insert id phase }

def setDisplayTask (state : State) (id kind : String) (phase : DisplayPhase) : State :=
  { state with displayTasks := state.displayTasks.insert id ⟨kind, phase⟩ }

/-- The callback still has its receiver. -/
def listening (state : State) (id : String) : Bool :=
  match state.callbacks.lookup id with
  | some (.inserted _) | some .waiting => true
  | _ => false

/-- Send an answer; without a receiver it goes nowhere. -/
def deliver (state : State) (id : String) (answer : Answer) : State :=
  { state with
    answers := if state.listening id then state.answers ++ [(id, answer)] else state.answers }

/-- `insert_request`, up to the insertion. -/
def prompt (state : State) (prompt : Prompt) (deviceKey : String) : State :=
  { state with broker := state.broker.insertRequest prompt deviceKey }.setCallback
    state.broker.promptId
    (.inserted (PairingBroker.requestedEvent state.broker.promptId prompt deviceKey))

/-- `cancel_pending`, up to the removal. -/
def cancelPending (state : State) (id reason : String) : State :=
  match state.broker.pending.lookup id with
  | none => state
  | some request =>
    { state with broker.pending := state.broker.pending.erase id }.spawn
      (.ending none [(request.response.finish .canceled, request.event.cancelled reason)] [])

def respond (state : State) (params : RespondParams) : State :=
  match state.broker.takeResponse params with
  | .error message =>
    { state with respondErrors := state.respondErrors ++ [⟨message, none⟩] }
  | .ok (id, request, accept) =>
    { state with broker.pending := state.broker.pending.erase id }.spawn
      (if accept then .accepting request params
      else .ending none [(request.response.finish .rejected, request.event.answered false)] [])

def cancelAll (state : State) (reason : String) : State :=
  { state with broker.pending := ∅ }.spawn (.cancelAll reason state.broker.pending.values)

def takeDisplays (state : State) (serial : ℕ) (reason : String)
    (requests : List PendingRequest) : State :=
  { state with
    broker.displays := ∅
    swept := state.swept ++ state.broker.displays.keys }.setAgent serial
      (.ending none
        (requests.map fun request : PendingRequest ↦
          (request.response.finish .canceled, request.event.cancelled reason))
        (state.broker.displays.values.map fun event : PairingEvent ↦ event.cancelled reason))

/-- `accept`: an answer that cannot be sent fails the call. -/
def accepting (state : State) (serial : ℕ) (request : PendingRequest) (params : RespondParams) :
    State :=
  let id := request.event.requestId
  match request.response.accept params with
  | .error message =>
    { state with
      agents := state.agents.erase serial
      respondErrors := state.respondErrors ++ [⟨message, some id⟩] }
  | .ok answer =>
    if state.listening id then
      (state.deliver id answer).setAgent serial (.ending (some (request.event.answered true)) [] [])
    else
      { state with
        agents := state.agents.erase serial
        respondErrors := state.respondErrors ++ [⟨"pairing request was cancelled", some id⟩] }

def nextStep (state : State) (serial index : ℕ) : Agent → Option State
  | .cancelAll _ _ => none
  | .accepting request params => some (state.accepting serial request params)
  | .ending (some event) requests displays =>
    some ((state.emit event).setAgent serial (.ending none requests displays))
  | .ending none [] [] => some { state with agents := state.agents.erase serial }
  | .ending none [] (first :: rest) =>
    ((first :: rest)[index]?).map fun event ↦
      (state.emit event).setAgent serial (.ending none [] ((first :: rest).eraseIdx index))
  | .ending none (first :: rest) displays =>
    ((first :: rest)[index]?).map fun request ↦
      (state.deliver request.2.requestId request.1).setAgent serial
        (.ending (some request.2) ((first :: rest).eraseIdx index) displays)

/-- `begin_display`, up to the insertion. -/
def display (state : State) (display : Display) (deviceKey : String) : State :=
  { state with broker := state.broker.display display deviceKey }.setDisplayTask
    state.broker.displayId display.kind
    (.inserted (PairingBroker.displayEvent state.broker.displayId display deviceKey))

end State

open State in
def step (state : State) : Action → Option State
  | .prompt prompt deviceKey => some (state.prompt prompt deviceKey)
  | .announcePrompt id =>
    match state.callbacks.lookup id with
    | some (.inserted event) =>
      some ({ state.emit event with timers := id :: state.timers }.setCallback id .waiting)
    | _ => none
  | .timeout id =>
    if id ∈ state.timers then
      some ({ state with timers := state.timers.erase id }.cancelPending id "timeout")
    else none
  | .wake id =>
    if state.callbacks.lookup id = some .waiting ∧ id ∈ state.answers.map Prod.fst then
      some (state.setCallback id .finished)
    else none
  | .dropReceiver id =>
    if state.callbacks.lookup id = some .waiting then some (state.setCallback id .dropping)
    else none
  | .dropGuard id =>
    if state.callbacks.lookup id = some .dropping then
      some ((state.setCallback id .finished).cancelPending id "bluez-cancelled")
    else none
  | .respond params => some (state.respond params)
  | .cancelAll reason => some (state.cancelAll reason)
  | .takeDisplays serial =>
    match state.agents.lookup serial with
    | some (.cancelAll reason requests) => some (state.takeDisplays serial reason requests)
    | _ => none
  | .next serial index => (state.agents.lookup serial).bind (state.nextStep serial index)
  | .display display deviceKey => some (state.display display deviceKey)
  | .announceDisplay id =>
    match state.displayTasks.lookup id with
    | some ⟨kind, .inserted event⟩ => some ((state.emit event).setDisplayTask id kind .waiting)
    | _ => none
  | .cancelDisplay id =>
    match state.displayTasks.lookup id with
    | some ⟨kind, .waiting⟩ =>
      some ({ state with broker.displays := state.broker.displays.erase id }.setDisplayTask
        id kind .removed)
    | _ => none
  | .announceCancelled id deviceKey =>
    match state.displayTasks.lookup id with
    | some ⟨kind, .removed⟩ =>
      some ((state.emit (PairingBroker.displayCancelled id kind deviceKey)).setDisplayTask
        id kind .finished)
    | _ => none

def system : System State Action := ⟨State.init, step⟩

/-- The steps, each with what it needs. -/
inductive Steps (state : State) : Action → State → Prop
  | prompt (prompt : Prompt) (deviceKey : String) :
    Steps state (.prompt prompt deviceKey) (state.prompt prompt deviceKey)
  | announcePrompt {id : String} {event : PairingEvent}
      (hinserted : state.callbacks.lookup id = some (.inserted event)) :
    Steps state (.announcePrompt id)
      ({ state.emit event with timers := id :: state.timers }.setCallback id .waiting)
  | timeout {id : String} (htimer : id ∈ state.timers) :
    Steps state (.timeout id)
      ({ state with timers := state.timers.erase id }.cancelPending id "timeout")
  | wake {id : String} (hwaiting : state.callbacks.lookup id = some .waiting)
      (hanswered : id ∈ state.answers.map Prod.fst) :
    Steps state (.wake id) (state.setCallback id .finished)
  | dropReceiver {id : String} (hwaiting : state.callbacks.lookup id = some .waiting) :
    Steps state (.dropReceiver id) (state.setCallback id .dropping)
  | dropGuard {id : String} (hdropping : state.callbacks.lookup id = some .dropping) :
    Steps state (.dropGuard id)
      ((state.setCallback id .finished).cancelPending id "bluez-cancelled")
  | respond (params : RespondParams) : Steps state (.respond params) (state.respond params)
  | cancelAll (reason : String) : Steps state (.cancelAll reason) (state.cancelAll reason)
  | takeDisplays {serial : ℕ} {reason : String} {requests : List PendingRequest}
      (hagent : state.agents.lookup serial = some (.cancelAll reason requests)) :
    Steps state (.takeDisplays serial) (state.takeDisplays serial reason requests)
  | next {serial index : ℕ} {agent : Agent} {next : State}
      (hagent : state.agents.lookup serial = some agent)
      (hnext : state.nextStep serial index agent = some next) :
    Steps state (.next serial index) next
  | display (display : Display) (deviceKey : String) :
    Steps state (.display display deviceKey) (state.display display deviceKey)
  | announceDisplay {id kind : String} {event : PairingEvent}
      (htask : state.displayTasks.lookup id = some ⟨kind, .inserted event⟩) :
    Steps state (.announceDisplay id) ((state.emit event).setDisplayTask id kind .waiting)
  | cancelDisplay {id kind : String}
      (htask : state.displayTasks.lookup id = some ⟨kind, .waiting⟩) :
    Steps state (.cancelDisplay id)
      ({ state with broker.displays := state.broker.displays.erase id }.setDisplayTask
        id kind .removed)
  | announceCancelled {id kind deviceKey : String}
      (htask : state.displayTasks.lookup id = some ⟨kind, .removed⟩) :
    Steps state (.announceCancelled id deviceKey)
      ((state.emit (PairingBroker.displayCancelled id kind deviceKey)).setDisplayTask
        id kind .finished)

theorem steps_of_step {state next : State} {action : Action}
    (hstep : step state action = some next) : Steps state action next := by
  cases action with
  | prompt | respond | cancelAll | display =>
    obtain rfl := Option.some.inj hstep
    constructor
  | timeout | dropReceiver | dropGuard =>
    obtain ⟨hallowed, hnext⟩ := Option.ite_none_right_eq_some.mp hstep
    obtain rfl := Option.some.inj hnext
    constructor
    exact hallowed
  | wake =>
    obtain ⟨⟨hwaiting, hanswered⟩, hnext⟩ := Option.ite_none_right_eq_some.mp hstep
    obtain rfl := Option.some.inj hnext
    exact .wake hwaiting hanswered
  | next =>
    obtain ⟨agent, hagent, hnext⟩ := Option.bind_eq_some_iff.mp hstep
    exact .next hagent hnext
  | announcePrompt | takeDisplays | announceDisplay | cancelDisplay | announceCancelled =>
    rw [step] at hstep
    split at hstep
    · next hfound =>
      obtain rfl := Option.some.inj hstep
      constructor
      exact hfound
    · cases hstep

/-! ## Ending exactly once -/

namespace State

/-- The terminal events of a request or display. -/
def terminals (state : State) (id : String) : ℕ :=
  state.broker.events.countP fun event ↦ event.isTerminal && event.requestId == id

/-- The answers that reached the callback of a request. -/
def answered (state : State) (id : String) : ℕ :=
  state.answers.countP fun answer ↦ answer.1 == id

/-- The callback and the display task of the id, where it has one, are over. -/
def Finished (state : State) (id : String) : Prop :=
  (∀ phase ∈ state.callbacks.lookup id, phase = .finished) ∧
    ∀ task ∈ state.displayTasks.lookup id, task.phase = .finished

/-- No party is between two steps that belong together. -/
structure Quiescent (state : State) : Prop where
  agents : state.agents = ∅
  callbacks : ∀ phase ∈ state.callbacks.values, phase = .waiting ∨ phase = .finished
  displayTasks : ∀ task ∈ state.displayTasks.values,
    task.phase = .waiting ∨ task.phase = .finished

end State

structure EndsOnce (state : State) : Prop where
  atMostOnce : ∀ id, state.terminals id ≤ 1
  exactlyOnce : state.Quiescent → ∀ event ∈ state.broker.events,
    state.broker.pending.lookup event.requestId = none →
    state.broker.displays.lookup event.requestId = none →
    state.Finished event.requestId → state.terminals event.requestId = 1
  answeredAtMostOnce : ∀ id, state.answered id ≤ 1
  /-- A callback that still waits is pending, or has its one answer. -/
  answeredOnce : state.Quiescent → ∀ id, state.callbacks.lookup id = some .waiting →
    state.broker.pending.lookup id = none → state.answered id = 1
  /-- A `respond` that fails has taken no prompt. -/
  respondErrors : ∀ error ∈ state.respondErrors, error.taken = none
  /-- A `respond` that takes no prompt leaves the pending ones as they are. -/
  respondRefused : ∀ params message, state.broker.takeResponse params = .error message →
    (state.respond params).broker = state.broker

/-! ## When it holds -/

/-- Neither a request nor a display has this id. -/
def State.Unused (state : State) (id : String) : Prop :=
  state.callbacks.lookup id = none ∧ state.displayTasks.lookup id = none

instance (state : State) (id : String) : Decidable (state.Unused id) :=
  inferInstanceAs (Decidable (_ ∧ _))

/-- The prompt that the agent is about to accept. -/
def Agent.acceptedId : Agent → Option String
  | .accepting request _ => some request.event.requestId
  | _ => none

/-- Ids are not given out twice, BlueZ cancels no display that a `cancel_all` took, and an
accepted prompt still has its receiver when the answer is sent. -/
def Orderly (state : State) : Action → Prop
  | .prompt _ _ => state.Unused state.broker.promptId
  | .display _ _ => state.Unused state.broker.displayId
  | .cancelDisplay id => id ∉ state.swept
  | .next serial _ =>
    ∀ id ∈ (state.agents.lookup serial).bind Agent.acceptedId, state.listening id = true
  | _ => True

instance (state : State) : (action : Action) → Decidable (Orderly state action)
  | .prompt _ _ | .display _ _ => inferInstanceAs (Decidable (state.Unused _))
  | .cancelDisplay id => inferInstanceAs (Decidable (id ∉ state.swept))
  | .next serial _ =>
    inferInstanceAs (Decidable (∀ id ∈ (state.agents.lookup serial).bind Agent.acceptedId, _))
  | .announcePrompt _ | .timeout _ | .wake _ | .dropReceiver _ | .dropGuard _ | .respond _
  | .cancelAll _ | .takeDisplays _ | .announceDisplay _ | .announceCancelled _ _ => isTrue trivial

end BtDaemon.Pairing
