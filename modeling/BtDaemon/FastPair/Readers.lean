import BtDaemon.Foundation.Transition
import BtDaemon.FastPair.Commands

/-!
# Fast Pair stream readers

Every accepted stream gets a reader. It installs its writer, creates the runtime entry of its
peer, and then applies the frames that arrive. When the stream ends it tears its state down in
`connection_ended`: the link and writer, the pending commands, the runtime entry and the
battery report, each under a lock of its own. Between two of these steps anything else can
run, a newer stream of the same peer included.

Next to each table the state records the reader that an entry was last written for. A command
belongs to the reader that has the link when it is reserved, and later to the reader through
whose writer it is sent.
-/

namespace BtDaemon.FastPair.Readers

open Transition VendorChannel

/-- Where a reader is. The last three are named after the teardown step that was taken. -/
inductive Phase where
  | accepted
  | installed
  | running
  | ended
  | disconnected
  | forgotten
  deriving DecidableEq, Repr

/-- The number of teardown steps taken. -/
def Phase.cleared : Phase → ℕ
  | .accepted | .installed | .running => 0
  | .ended => 1
  | .disconnected => 2
  | .forgotten => 3

structure Reader where
  address : Address
  phase : Phase
  deriving DecidableEq, Repr

structure State where
  now : Instant
  connections : ConnectionState
  commands : PendingCommands
  runtime : Table Address RuntimeReport
  reports : Table Address BatteryReport
  readers : Table ℕ Reader
  spawned : ℕ
  /-- The keys of the reservations that are still held. -/
  reservations : Table ℕ CommandKey
  linkOf : Table Address ℕ
  runtimeOf : Table Address ℕ
  reportOf : Table Address ℕ
  commandOf : Table ℕ ℕ

/-- Steps on the connection state that neither accept nor end a stream. -/
inductive ConnectionStep where
  | begin (transport : MessageStreamTransport) (random : UInt8)
  | failed (attempt : UInt64) (error : ConnectionError) (random : UInt8)
  | psmUnknown
  | psmUnavailable
  | change (connected : Bool)
  | clearDue

inductive Action where
  | advance (elapsed : ℕ)
  | connection (address : Address) (connectionStep : ConnectionStep)
  /-- BlueZ delivers a stream to the registered profile. -/
  | markConnected (address : Address)
  /-- The L2CAP connect of an attempt returns its stream. -/
  | connectCompleted (address : Address) (attempt : UInt64)
  /-- The two halves of `install_writer`. -/
  | installWriter (reader : ℕ)
  | createRuntime (reader : ℕ)
  | updateRuntime (reader : ℕ) (value : RuntimeValue)
  | updateReport (reader : ℕ) (report : BatteryReport)
  /-- An acknowledgement frame. -/
  | resolve (reader : ℕ) (group code : UInt8)
  /-- The next step of `connection_ended`, from the end of the stream on. -/
  | teardown (reader : ℕ) (random : UInt8)
  /-- `remove_report` of a reconcile pass that found the device disconnected. -/
  | removeReport (address : Address)
  | reserve (key : CommandKey)
  | send (generation : ℕ)
  | release (generation : ℕ)

namespace State

def init : State :=
  ⟨0, ConnectionState.init, PendingCommands.init, ∅, ∅, ∅, 0, ∅, ∅, ∅, ∅, ∅⟩

def connection (state : State) (address : Address) : ConnectionStep → ConnectionState
  | .begin transport random =>
    (state.connections.begin state.now address transport random).1
  | .failed attempt error random =>
    state.connections.connectionFailed state.now address attempt error random
  | .psmUnknown =>
    { state.connections with retry := state.connections.retry.psmUnknown address }
  | .psmUnavailable =>
    { state.connections with retry := state.connections.retry.psmUnavailable address }
  | .change connected => state.connections.noteConnectionChange address connected
  | .clearDue => { state.connections with retry := state.connections.retry.clearDue state.now }

/-- Start a reader for a stream that was accepted. A refused stream starts none. -/
def accept (state : State) (address : Address) : ConnectionState × Bool → State
  | (connections, false) => { state with connections := connections }
  | (connections, true) =>
    { state with
      connections := connections
      readers := state.readers.insert state.spawned ⟨address, .accepted⟩
      spawned := state.spawned + 1
      linkOf := state.linkOf.insert address state.spawned }

def setPhase (state : State) (serial : ℕ) (address : Address) (phase : Phase) : State :=
  { state with readers := state.readers.insert serial ⟨address, phase⟩ }

def installWriter (state : State) (serial : ℕ) (address : Address) : State :=
  { state with
    connections.writers := state.connections.writers.insert address serial }.setPhase
      serial address .installed

/-- `entry(address).or_default()`. -/
def createRuntime (state : State) (serial : ℕ) (address : Address) : State :=
  { state with
    runtime := state.runtime.update address {} id
    runtimeOf := state.runtimeOf.insert address serial }.setPhase serial address .running

def updateRuntime (state : State) (serial : ℕ) (address : Address) (value : RuntimeValue) :
    State :=
  { state with
    runtime := state.runtime.update address {} fun report ↦ report.set value
    runtimeOf := state.runtimeOf.insert address serial }

def updateReport (state : State) (serial : ℕ) (address : Address) (report : BatteryReport) :
    State :=
  { state with
    reports := state.reports.insert address report
    reportOf := state.reportOf.insert address serial }

/-- `connection_ended`, one lock at a time. The first step also ends the reader's stream. -/
def teardown (state : State) (serial : ℕ) (address : Address) (random : UInt8) :
    Phase → Option State
  | .accepted | .running =>
    some ({ state with
      connections := state.connections.ended state.now address random }.setPhase
        serial address .ended)
  | .installed => none
  | .ended =>
    some ({ state with commands := state.commands.disconnect address }.setPhase
      serial address .disconnected)
  | .disconnected =>
    some ({ state with runtime := state.runtime.erase address }.setPhase serial address .forgotten)
  | .forgotten =>
    some { state with
      reports := state.reports.erase address
      readers := state.readers.erase serial }

/-- The reader that a command reserved now belongs to. -/
def reader (state : State) (address : Address) : Option ℕ :=
  if (state.connections.links.lookup address).any LinkState.isConnected then
    state.linkOf.lookup address
  else none

/-- Note which reader a generation belongs to. -/
def noteCommand (state : State) (generation : ℕ) : Option ℕ → State
  | some serial => { state with commandOf := state.commandOf.insert generation serial }
  | none => state

def reserve (state : State) (key : CommandKey) : State :=
  match state.commands.reserve key with
  | .error _ => state
  | .ok (commands, generation) =>
    { state with
      commands := commands
      reservations := state.reservations.insert generation key }.noteCommand generation
        (state.reader key.address)

def release (state : State) (generation : ℕ) (key : CommandKey) : State :=
  { state with
    commands := state.commands.release key generation
    reservations := state.reservations.erase generation }

/-- `send_frame`: without a writer the command fails, which drops its reservation. -/
def send (state : State) (generation : ℕ) (key : CommandKey) : State :=
  match state.connections.writers.lookup key.address with
  | some serial => state.noteCommand generation (some serial)
  | none => state.release generation key

end State

open State in
def step (state : State) : Action → Option State
  | .advance elapsed => some { state with now := state.now + elapsed }
  | .connection address connectionStep =>
    some { state with connections := state.connection address connectionStep }
  | .markConnected address =>
    some (state.accept address (state.connections.markConnected state.now address))
  | .connectCompleted address attempt =>
    some (state.accept address (state.connections.connectCompleted state.now address attempt))
  | .installWriter serial =>
    match state.readers.lookup serial with
    | some ⟨address, .accepted⟩ => some (state.installWriter serial address)
    | _ => none
  | .createRuntime serial =>
    match state.readers.lookup serial with
    | some ⟨address, .installed⟩ => some (state.createRuntime serial address)
    | _ => none
  | .updateRuntime serial value =>
    match state.readers.lookup serial with
    | some ⟨address, .running⟩ => some (state.updateRuntime serial address value)
    | _ => none
  | .updateReport serial report =>
    match state.readers.lookup serial with
    | some ⟨address, .running⟩ => some (state.updateReport serial address report)
    | _ => none
  | .resolve serial group code =>
    match state.readers.lookup serial with
    | some ⟨address, .running⟩ =>
      some { state with commands := (state.commands.resolve ⟨address, group, code⟩).1 }
    | _ => none
  | .teardown serial random =>
    match state.readers.lookup serial with
    | some reader => state.teardown serial reader.address random reader.phase
    | none => none
  | .removeReport address => some { state with reports := state.reports.erase address }
  | .reserve key => some (state.reserve key)
  | .send generation => (state.reservations.lookup generation).map (state.send generation)
  | .release generation => (state.reservations.lookup generation).map (state.release generation)

def system : System State Action := ⟨State.init, step⟩

/-! ## What a teardown must leave alone -/

/-- The reader that the step tears down. -/
def teardownOf (state : State) : Action → Option (ℕ × Address)
  | .teardown serial _ => (state.readers.lookup serial).map fun reader ↦ (serial, reader.address)
  | _ => none

/-- Whatever at the address was written for a reader newer than this one stays as it is. -/
@[mk_iff]
structure Spared (serial : ℕ) (address : Address) (before after : State) : Prop where
  link : ∀ newer ∈ before.linkOf.lookup address, serial < newer →
    after.connections.links.lookup address = before.connections.links.lookup address
  writer : ∀ newer ∈ before.connections.writers.lookup address, serial < newer →
    after.connections.writers.lookup address = some newer
  command : ∀ key ∈ before.commands.entries.keys, key.address = address →
    ∀ generation ∈ before.commands.entries.lookup key,
      ∀ newer ∈ before.commandOf.lookup generation, serial < newer →
        after.commands.entries.lookup key = some generation
  runtime : ∀ newer ∈ before.runtimeOf.lookup address, serial < newer →
    after.runtime.lookup address = before.runtime.lookup address
  report : ∀ newer ∈ before.reportOf.lookup address, serial < newer →
    after.reports.lookup address = before.reports.lookup address

instance (serial : ℕ) (address : Address) (before after : State) :
    Decidable (Spared serial address before after) :=
  decidable_of_iff _ (spared_iff serial address before after).symm

/-- The step, if it is one of a teardown, spares every newer session of its address. -/
def SparesNewer (state : State) (action : Action) : Prop :=
  ∀ target ∈ teardownOf state action, ∀ next ∈ step state action,
    Spared target.1 target.2 state next

instance (state : State) (action : Action) : Decidable (SparesNewer state action) :=
  inferInstanceAs (Decidable (∀ target ∈ teardownOf state action, _))

/-! ## When it does -/

/-- Every older reader of the address has taken at least this many teardown steps. -/
def Cleared (readers : Table ℕ Reader) (address : Address) (steps serial : ℕ) : Prop :=
  ∀ entry ∈ readers.entries, entry.2.address = address → entry.1 < serial →
    steps ≤ entry.2.phase.cleared

instance (readers : Table ℕ Reader) (address : Address) (steps serial : ℕ) :
    Decidable (Cleared readers address steps serial) :=
  inferInstanceAs (Decidable (∀ entry ∈ readers.entries, _))

/-- State is made for a reader only when no older reader of its address still has to clear the
table that it goes to. -/
def Apart (state : State) : Action → Prop
  | .createRuntime serial | .updateRuntime serial _ =>
    ∀ reader ∈ state.readers.lookup serial, Cleared state.readers reader.address 3 serial
  | .updateReport serial _ =>
    ∀ reader ∈ state.readers.lookup serial, Cleared state.readers reader.address 4 serial
  | .reserve key =>
    ∀ serial ∈ state.reader key.address, Cleared state.readers key.address 2 serial
  | .send generation =>
    ∀ key ∈ state.reservations.lookup generation,
      ∀ serial ∈ state.connections.writers.lookup key.address,
        Cleared state.readers key.address 2 serial
  | _ => True

instance (state : State) : (action : Action) → Decidable (Apart state action)
  | .createRuntime _ | .updateRuntime _ _ | .updateReport _ _ =>
    inferInstanceAs (Decidable (∀ reader ∈ state.readers.lookup _, _))
  | .reserve _ => inferInstanceAs (Decidable (∀ serial ∈ state.reader _, _))
  | .send _ => inferInstanceAs (Decidable (∀ key ∈ state.reservations.lookup _, _))
  | .advance _ | .connection _ _ | .markConnected _ | .connectCompleted _ _ | .installWriter _
  | .resolve _ _ _ | .teardown _ _ | .removeReport _ | .release _ => isTrue trivial

end BtDaemon.FastPair.Readers
