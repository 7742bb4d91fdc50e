import BtDaemon.Foundation.Transition
import BtDaemon.FastPair.Connection

/-!
# One reader per Fast Pair link

The connection state admits a reader when it accepts a stream, and the reader ends its link
when the stream is over. The calls of the attempts, of the profile handler and of BlueZ come in
any order and with any attempt number. The link of an address is connected exactly while one
reader of the address is admitted, so the table of links is a faithful summary of the readers.
-/

namespace BtDaemon.FastPair.OneReader

open Transition VendorChannel ConnectionState

structure State where
  now : Instant
  connections : ConnectionState
  /-- The addresses of the readers that were admitted and have not called `ended`. -/
  readers : List Address

inductive Action where
  | advance (elapsed : ℕ)
  | begin (address : Address) (transport : MessageStreamTransport) (random : UInt8)
  | markConnected (address : Address)
  | connectCompleted (address : Address) (attempt : UInt64)
  | connectionFailed (address : Address) (attempt : UInt64) (error : ConnectionError)
      (random : UInt8)
  | noteConnectionChange (address : Address) (connected : Bool)
  | ended (address : Address) (random : UInt8)

/-- A call that accepted the stream admits a reader. -/
def State.admitReader (state : State) (address : Address)
    (result : ConnectionState × Bool) : State :=
  { state with
    connections := result.1
    readers := if result.2 then address :: state.readers else state.readers }

def step (state : State) : Action → Option State
  | .advance elapsed => some { state with now := state.now + elapsed }
  | .begin address transport random =>
    some { state with
      connections := (state.connections.begin state.now address transport random).1 }
  | .markConnected address =>
    some (state.admitReader address (state.connections.markConnected state.now address))
  | .connectCompleted address attempt =>
    some (state.admitReader address (state.connections.connectCompleted state.now address attempt))
  | .connectionFailed address attempt error random =>
    some { state with
      connections := state.connections.connectionFailed state.now address attempt error random }
  | .noteConnectionChange address connected =>
    some { state with connections := state.connections.noteConnectionChange address connected }
  | .ended address random =>
    if address ∈ state.readers then
      some { state with
        connections := state.connections.ended state.now address random
        readers := state.readers.erase address }
    else none

def system : System State Action := ⟨⟨0, ConnectionState.init, []⟩, step⟩

/-! ## The links that are connected -/

def Connected (connections : ConnectionState) (address : Address) : Bool :=
  (connections.links.lookup address).any LinkState.isConnected

theorem connected_iff {connections : ConnectionState} {address : Address} :
    Connected connections address = true ↔
      ∃ start, connections.links.lookup address = some (.connected start) := by
  unfold Connected
  rcases connections.links.lookup address with _ | ⟨attempt, started⟩ | start
  · simp
  · simp [LinkState.isConnected]
  · simp [LinkState.isConnected]

/-- A step that fills no link with a stream. -/
theorem connected_erase {before after : ConnectionState} {address : Address}
    (hidle : Connected before address = false)
    (hlinks : after.links = before.links ∨ after.links = before.links.erase address) :
    Connected after = Connected before := by
  funext other
  rcases hlinks with hsame | herased
  · rw [Connected, hsame]
    rfl
  · by_cases hother : other = address
    · rw [hother, hidle, Connected, herased, Table.lookup_erase, if_pos rfl]
      rfl
    · rw [Connected, herased, Table.lookup_erase, if_neg hother]
      rfl

theorem connected_begin (connections : ConnectionState) (now : Instant) (address : Address)
    (transport : MessageStreamTransport) (random : UInt8) :
    Connected (connections.begin now address transport random).1 = Connected connections := by
  have hexpired : Connected (connections.expire now address random) = Connected connections := by
    rcases connections.expire_cases now address random with hkept | ⟨hpending, hlinks, -, -⟩
    · rw [hkept]
    · exact connected_erase (isConnected_eq_false_of_isConnecting hpending) (.inr hlinks)
  rw [← hexpired, ConnectionState.begin]
  rcases (connections.expire now address random).start_cases now address transport with
    hrefused | ⟨hempty, -, hgranted⟩
  · rw [hrefused]
  · rw [hgranted]
    funext other
    simp only [Connected, Table.lookup_insert]
    by_cases hother : other = address
    · rw [hother, if_pos rfl, hempty]
      rfl
    · rw [if_neg hother]

theorem connected_connectionFailed (connections : ConnectionState) (now : Instant)
    (address : Address) (attempt : UInt64) (error : ConnectionError) (random : UInt8) :
    Connected (connections.connectionFailed now address attempt error random) =
      Connected connections := by
  unfold ConnectionState.connectionFailed
  split
  · next hcurrent =>
    exact connected_erase (not_isConnected_of_isCurrentAttempt hcurrent) (.inr rfl)
  · rfl

theorem connected_noteConnectionChange (connections : ConnectionState) (address : Address)
    (connected : Bool) :
    Connected (connections.noteConnectionChange address connected) = Connected connections := by
  cases hidle : Connected connections address with
  | false =>
    apply connected_erase hidle
    unfold ConnectionState.noteConnectionChange
    dsimp only
    split
    · exact .inr rfl
    · exact .inl rfl
  | true =>
    obtain ⟨start, hlink⟩ := connected_iff.mp hidle
    unfold ConnectionState.noteConnectionChange
    rw [hlink, Option.any_some, LinkState.isConnecting, Bool.and_false]
    rfl

theorem connected_accepted (connections : ConnectionState) (now : Instant)
    (address other : Address) :
    Connected (connections.accepted now address) other =
      (decide (other = address) || Connected connections other) := by
  simp only [Connected, ConnectionState.accepted, Table.lookup_insert]
  by_cases hother : other = address <;> simp [hother, LinkState.isConnected]

theorem connected_ended (connections : ConnectionState) (now : Instant)
    (address other : Address) (random : UInt8) :
    Connected (connections.ended now address random) other =
      (!decide (other = address) && Connected connections other) := by
  simp only [Connected, ConnectionState.ended, Table.lookup_erase]
  by_cases hother : other = address <;> simp [hother]

/-! ## The readers behind them -/

/-- One reader for a connected link, and none for any other. -/
def Counted (state : State) : Prop :=
  ∀ address, state.readers.count address = (Connected state.connections address).toNat

namespace Counted

variable {state : State}

theorem init : Counted system.init := fun _ ↦ rfl

theorem connections (counted : Counted state) {connections : ConnectionState}
    (hconnected : Connected connections = Connected state.connections) :
    Counted { state with connections := connections } := by
  intro address
  rw [hconnected]
  exact counted address

/-- A stream is accepted when there is no reader, and refused otherwise. -/
theorem admitReader (counted : Counted state) {address : Address} {result : ConnectionState × Bool}
    (hcases : result = (state.connections, false) ∨
      (state.connections.links.lookup address).any LinkState.isConnected = false ∧
        result = (state.connections.accepted state.now address, true)) :
    Counted (state.admitReader address result) := by
  rcases hcases with hrefused | ⟨hidle, haccepted⟩
  · rw [hrefused]
    exact counted
  · rw [haccepted]
    intro other
    have hother := counted other
    simp only [State.admitReader, if_true, connected_accepted, List.count_cons]
    by_cases hsame : other = address
    · rw [hsame, Connected, hidle] at hother
      simp [hsame, hother]
    · simp [hsame, Ne.symm hsame, hother]

/-- The only reader of an address ends its link. -/
theorem ended (counted : Counted state) {address : Address} (random : UInt8)
    (hreader : address ∈ state.readers) :
    Counted { state with
      connections := state.connections.ended state.now address random
      readers := state.readers.erase address } := by
  intro other
  have hother := counted other
  simp only [connected_ended]
  by_cases hsame : other = address
  · have hpositive := List.count_pos_iff.mpr hreader
    have hone := Bool.toNat_le (Connected state.connections other)
    rw [hsame] at hother hone ⊢
    rw [List.count_erase_self]
    simp only [decide_true, Bool.not_true, Bool.false_and, Bool.toNat_false]
    omega
  · rw [List.count_erase_of_ne hsame, hother]
    simp [hsame]

theorem step (counted : Counted state) {action : Action} {next : State}
    (hstep : OneReader.step state action = some next) : Counted next := by
  cases action with
  | advance elapsed =>
    rw [← Option.some.inj hstep]
    exact counted
  | begin address transport random =>
    rw [← Option.some.inj hstep]
    exact counted.connections (connected_begin ..)
  | markConnected address =>
    rw [← Option.some.inj hstep]
    exact counted.admitReader (state.connections.markConnected_cases state.now address)
  | connectCompleted address attempt =>
    rw [← Option.some.inj hstep]
    exact counted.admitReader (state.connections.connectCompleted_cases state.now address attempt)
  | connectionFailed address attempt error random =>
    rw [← Option.some.inj hstep]
    exact counted.connections (connected_connectionFailed ..)
  | noteConnectionChange address connected =>
    rw [← Option.some.inj hstep]
    exact counted.connections (connected_noteConnectionChange ..)
  | ended address random =>
    obtain ⟨hreader, hnext⟩ := Option.ite_none_right_eq_some.mp hstep
    rw [← Option.some.inj hnext]
    exact counted.ended random hreader

theorem of_reachable (hreach : system.Reachable state) : Counted state :=
  hreach.invariant init fun _ _ _ counted hstep ↦ counted.step hstep

/-- A stream that is offered to an address with a reader is refused. -/
theorem refuses (counted : Counted state) {address : Address} (hreader : address ∈ state.readers) :
    state.connections.markConnected state.now address = (state.connections, false) ∧
      ∀ attempt, state.connections.connectCompleted state.now address attempt =
        (state.connections, false) := by
  have hpositive := List.count_pos_iff.mpr hreader
  have hcount := counted address
  have hconnected : Connected state.connections address = true := by
    cases hidle : Connected state.connections address with
    | true => rfl
    | false =>
      rw [hidle, Bool.toNat_false] at hcount
      omega
  constructor
  · rcases state.connections.markConnected_cases state.now address with hrefused | ⟨hidle, -⟩
    · exact hrefused
    · cases hconnected.symm.trans hidle
  · intro attempt
    rcases state.connections.connectCompleted_cases state.now address attempt with
      hrefused | ⟨hidle, -⟩
    · exact hrefused
    · cases hconnected.symm.trans hidle

end Counted

/-- The readers of an address, and what is refused and kept while there is one. -/
structure Exclusive (state : State) : Prop where
  atMostOne : ∀ address, state.readers.count address ≤ 1
  connected : ∀ address, state.readers.count address = 1 ↔
    ∃ start, state.connections.links.lookup address = some (.connected start)
  refused : ∀ address ∈ state.readers,
    state.connections.markConnected state.now address = (state.connections, false) ∧
      ∀ attempt, state.connections.connectCompleted state.now address attempt =
        (state.connections, false)
  begin : ∀ address transport random,
    KeepsStreams state.connections
      (state.connections.begin state.now address transport random).1
  change : ∀ address connected,
    KeepsStreams state.connections (state.connections.noteConnectionChange address connected)

theorem readers_exclusive {state : State} (hreach : system.Reachable state) :
    Exclusive state := by
  have counted := Counted.of_reachable hreach
  refine ⟨fun address ↦ ?_, fun address ↦ ?_, fun address hreader ↦ counted.refuses hreader,
    fun address transport random ↦ ?_, fun address connected ↦ ?_⟩
  · rw [counted address]
    exact Bool.toNat_le _
  · rw [counted address, ← connected_iff]
    cases Connected state.connections address <;> simp
  · exact keepsStreams_begin state.connections state.now address transport random
  · exact keepsStreams_noteConnectionChange state.connections address connected

/-- A stream that arrives while an older reader has not ended is refused. -/
theorem readers_exclusive_duplicate :
    ∃ state, system.Reachable state ∧ Exclusive state ∧ state.readers = [7] := by
  have hreach : system.Reachable _ :=
    ⟨[.begin 7 .l2cap 0, .connectCompleted 7 1, .noteConnectionChange 7 false, .markConnected 7,
      .connectionFailed 7 1 (.other "late") 0], rfl⟩
  exact ⟨_, hreach, readers_exclusive hreach, by decide⟩

end BtDaemon.FastPair.OneReader
