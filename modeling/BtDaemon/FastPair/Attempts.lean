import BtDaemon.Foundation.Transition
import BtDaemon.FastPair.Connection

/-!
# Fast Pair connection attempts

A reconcile pass begins attempts, and every granted attempt runs in a task of its own. The
task reads the PSM of an L2CAP peer, opens the stream or asks BlueZ for the profile, and
reports what came out of it, at any later time: the attempt may have expired, may have been
removed by a disconnect, or may have been replaced. Streams that BlueZ delivers to the
registered profile belong to no attempt, and every accepted stream gets a reader task.

The tasks also remember how many connections of their peer BlueZ had reported when they were
begun, which is what tells an older physical session from a newer one.
-/

namespace BtDaemon.FastPair.Attempts

open Transition VendorChannel

/-- Where a task is. Only a stream's reader no longer has an attempt. -/
inductive Stage where
  | readingPsm (attempt : UInt64)
  | opening (attempt : UInt64) (transport : MessageStreamTransport)
  /-- `connect_l2cap` has noted the PSM answer and fails with this error. -/
  | failing (attempt : UInt64) (error : ConnectionError)
  | streaming
  deriving DecidableEq, Repr

def Stage.attempt : Stage → Option UInt64
  | .readingPsm attempt | .opening attempt _ | .failing attempt _ => some attempt
  | .streaming => none

structure Task where
  address : Address
  /-- The reported connections of the peer when the task was begun. -/
  session : ℕ
  stage : Stage
  deriving DecidableEq, Repr

structure State where
  now : Instant
  connections : ConnectionState
  tasks : Table ℕ Task
  spawned : ℕ
  /-- The task that the link of an address was last made for. -/
  owner : Table Address ℕ
  /-- The addresses that BlueZ has reported as connected, one entry for each report. -/
  reports : List Address

inductive Action where
  | advance (elapsed : ℕ)
  | begin (address : Address) (transport : MessageStreamTransport) (random : UInt8)
  | psm (task : ℕ) (answer : PsmAvailability)
  /-- The L2CAP stream is connected, or the profile call has returned. -/
  | opened (task : ℕ)
  /-- An error of any step of the attempt, the timeout of the whole included. -/
  | fails (task : ℕ) (error : ConnectionError) (random : UInt8)
  /-- BlueZ delivers a stream to the registered profile. -/
  | incoming (address : Address)
  | readerEnds (task : ℕ) (random : UInt8)
  | change (address : Address) (connected : Bool)
  | clearDue

def psmNotReady : ConnectionError :=
  .other "Fast Pair Message Stream PSM is not ready (bounded retry)"

def psmUnavailable : ConnectionError :=
  .other "Fast Pair Message Stream PSM is unavailable for this connection"

def timedOut : ConnectionError := .other "Fast Pair connection timed out"

namespace State

def init : State := ⟨0, ConnectionState.init, ∅, 0, ∅, []⟩

def session (state : State) (address : Address) : ℕ := state.reports.count address

/-- Give the link of the address to a new task. -/
def spawn (state : State) (address : Address) (stage : Stage) : State :=
  { state with
    tasks := state.tasks.insert state.spawned ⟨address, state.session address, stage⟩
    spawned := state.spawned + 1
    owner := state.owner.insert address state.spawned }

def setStage (state : State) (serial : ℕ) (task : Task) (stage : Stage) : State :=
  { state with tasks := state.tasks.insert serial { task with stage := stage } }

def finish (state : State) (serial : ℕ) : State :=
  { state with tasks := state.tasks.erase serial }

/-- `ensure_connected`. -/
def begin (state : State) (address : Address) (transport : MessageStreamTransport)
    (random : UInt8) : State :=
  match state.connections.begin state.now address transport random with
  | (connections, none) => { state with connections := connections }
  | (connections, some attempt) =>
    { state with connections := connections }.spawn address <| match transport with
      | .rfcomm => .opening attempt .rfcomm
      | .l2cap => .readingPsm attempt

/-- What `connect_l2cap` does with the PSM that it read. -/
def psmAnswer (state : State) (serial : ℕ) (task : Task) (attempt : UInt64) :
    PsmAvailability → State
  | .ready _ => state.setStage serial task (.opening attempt .l2cap)
  | .unknown =>
    { state with
      connections.retry := state.connections.retry.psmUnknown task.address }.setStage
        serial task (.failing attempt psmNotReady)
  | .unavailable =>
    { state with
      connections.retry := state.connections.retry.psmUnavailable task.address }.setStage
        serial task (.failing attempt psmUnavailable)

/-- The task's match on `Ok`: an RFCOMM stream is delivered to the profile handler. -/
def opened (state : State) (serial : ℕ) (task : Task) (attempt : UInt64) :
    MessageStreamTransport → State
  | .rfcomm => state.finish serial
  | .l2cap =>
    match state.connections.connectCompleted state.now task.address attempt with
    | (connections, true) =>
      { state with connections := connections }.setStage serial task .streaming
    | (connections, false) => { state with connections := connections }.finish serial

def fails (state : State) (serial : ℕ) (task : Task) (attempt : UInt64)
    (error : ConnectionError) (random : UInt8) : State :=
  { state with
    connections := state.connections.connectionFailed state.now task.address attempt error
      random }.finish serial

def incoming (state : State) (address : Address) : State :=
  match state.connections.markConnected state.now address with
  | (connections, true) => { state with connections := connections }.spawn address .streaming
  | (connections, false) => { state with connections := connections }

def change (state : State) (address : Address) (connected : Bool) : State :=
  { state with
    connections := state.connections.noteConnectionChange address connected
    reports := if connected then address :: state.reports else state.reports }

end State

open State in
def step (state : State) : Action → Option State
  | .advance elapsed => some { state with now := state.now + elapsed }
  | .begin address transport random => some (state.begin address transport random)
  | .psm serial answer =>
    match state.tasks.lookup serial with
    | some task => match task.stage with
      | .readingPsm attempt => some (state.psmAnswer serial task attempt answer)
      | _ => none
    | none => none
  | .opened serial =>
    match state.tasks.lookup serial with
    | some task => match task.stage with
      | .opening attempt transport => some (state.opened serial task attempt transport)
      | _ => none
    | none => none
  | .fails serial error random =>
    match state.tasks.lookup serial with
    | some task => match task.stage with
      | .readingPsm attempt | .opening attempt _ =>
        some (state.fails serial task attempt error random)
      | .failing attempt noted =>
        if error = noted ∨ error = timedOut then
          some (state.fails serial task attempt error random)
        else none
      | .streaming => none
    | none => none
  | .incoming address => some (state.incoming address)
  | .readerEnds serial random =>
    match state.tasks.lookup serial with
    | some task => match task.stage with
      | .streaming =>
        some ({ state with
          connections := state.connections.ended state.now task.address random }.finish serial)
      | _ => none
    | none => none
  | .change address connected => some (state.change address connected)
  | .clearDue =>
    some { state with connections.retry := state.connections.retry.clearDue state.now }

def system : System State Action := ⟨State.init, step⟩

/-! ## Superseded tasks -/

/-- The task whose result the step delivers. -/
def resultOf : Action → Option ℕ
  | .psm serial _ | .opened serial | .fails serial _ _ | .readerEnds serial _ => some serial
  | _ => none

/-- The link at the task's address is there, and it was made for this task. -/
def State.Holds (state : State) (serial : ℕ) (task : Task) : Prop :=
  state.connections.links.lookup task.address ≠ none ∧
    state.owner.lookup task.address = some serial

instance (state : State) (serial : ℕ) (task : Task) : Decidable (state.Holds serial task) :=
  inferInstanceAs (Decidable (_ ∧ _))

/-- The task lost its link, and its address has a newer attempt, stream or connection. -/
def State.Superseded (state : State) (serial : ℕ) (task : Task) : Prop :=
  ¬state.Holds serial task ∧
    (state.connections.links.lookup task.address ≠ none ∨
      task.session < state.session task.address)

instance (state : State) (serial : ℕ) (task : Task) : Decidable (state.Superseded serial task) :=
  inferInstanceAs (Decidable (_ ∧ _))

/-- Link and retry state of the address are the same. -/
def SameAt (address : Address) (before after : ConnectionState) : Prop :=
  after.links.lookup address = before.links.lookup address ∧
    after.retry.peers.lookup address = before.retry.peers.lookup address

instance (address : Address) (before after : ConnectionState) :
    Decidable (SameAt address before after) :=
  inferInstanceAs (Decidable (_ ∧ _))

/-- The task whose result the step delivers, when it is superseded. -/
def supersededTask (state : State) (action : Action) : Option Task :=
  (resultOf action).bind fun serial ↦
    (state.tasks.lookup serial).filter fun task ↦ state.Superseded serial task

/-- A result on behalf of a superseded task changes nothing at the task's address. -/
def Fenced (state : State) (action : Action) : Prop :=
  ∀ task ∈ supersededTask state action, ∀ next ∈ step state action,
    SameAt task.address state.connections next.connections

instance (state : State) (action : Action) : Decidable (Fenced state action) :=
  inferInstanceAs (Decidable (∀ task ∈ supersededTask state action, _))

/-! ## When the fence holds -/

/-- The answer is on record already, and noting it again changes nothing. -/
def onRecord (retry : RetryPolicy) (address : Address) : PsmAvailability → Bool
  | .ready _ => true
  | .unknown => (retry.peers.lookup address).any fun peer ↦
      peer.unavailablePsm && peer.unknownPsm == 2 ^ 8 - 1
  | .unavailable => (retry.peers.lookup address).any PeerRetry.unavailablePsm

/-- An attempt id is free when no unfinished attempt of the address has it. -/
def State.FreeId (state : State) (address : Address) (attempt : UInt64) : Prop :=
  ∀ task ∈ state.tasks.values, task.address = address → task.stage.attempt ≠ some attempt

instance (state : State) (address : Address) (attempt : UInt64) :
    Decidable (state.FreeId address attempt) :=
  inferInstanceAs (Decidable (∀ task ∈ state.tasks.values, _))

/-- No id is given out while an older attempt of the address still has it, and no PSM answer
that says something new arrives for a superseded attempt. -/
def Separated (state : State) : Action → Prop
  | .begin address transport random =>
    ∀ attempt ∈ (state.connections.begin state.now address transport random).2,
      state.FreeId address attempt
  | .psm serial answer =>
    ∀ task ∈ supersededTask state (.psm serial answer),
      onRecord state.connections.retry task.address answer = true
  | _ => True

instance (state : State) : (action : Action) → Decidable (Separated state action)
  | .begin address transport random =>
    show Decidable (∀ attempt ∈ (state.connections.begin state.now address transport random).2,
      state.FreeId address attempt) from Option.decidableForallMem _
  | .psm _ _ => inferInstanceAs (Decidable (∀ task ∈ _, _))
  | .advance _ | .opened _ | .fails _ _ _ | .incoming _ | .readerEnds _ _ | .change _ _
  | .clearDue => isTrue trivial

end BtDaemon.FastPair.Attempts
