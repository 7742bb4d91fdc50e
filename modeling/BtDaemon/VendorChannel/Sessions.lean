import BtDaemon.Foundation.Transition
import BtDaemon.VendorChannel.Links

/-!
# Vendor channel sessions

The request handler accepts one stream at a time. It takes the link first and accepts the
request afterwards; when the request cannot be accepted it gives the link back. An accepted
stream gets a session, which serves it, lets the vendor handler clear the state of the peer, and
then gives the link back. All of this runs next to the reconciler, which begins attempts and
resets peers that are not connected, and next to the profile calls of every attempt so far.

The vendor handler keeps one entry per peer, which its sessions write. The state records which
session an entry was last written by.
-/

namespace BtDaemon.VendorChannel

open Transition

/-- Where the request handler is between two requests. -/
inductive RequestHandler where
  | idle
  /-- The link is taken and the request is about to be accepted. -/
  | accepting (address : Address)
  /-- The request could not be accepted, and the link is about to be given back. -/
  | failing (address : Address)
  deriving DecidableEq, Repr

/-- The address whose link the request handler has. -/
def RequestHandler.holds : RequestHandler → Option Address
  | .idle => none
  | .accepting address => some address
  | .failing address => some address

inductive Phase where
  | running
  /-- The stream ended and `Handler::ended` is called. -/
  | ending
  /-- `Handler::ended` returned. -/
  | cleaned
  deriving DecidableEq, Repr

structure Session where
  address : Address
  phase : Phase
  deriving DecidableEq, Repr

structure State (Value : Type) where
  now : Instant
  links : Links
  requests : RequestHandler
  sessions : Table ℕ Session
  spawned : ℕ
  /-- What the vendor handler keeps for a peer. -/
  peers : Table Address Value
  storedBy : Table Address ℕ
  /-- Every attempt that was granted, newest first. -/
  granted : List (Address × UInt64)

inductive Action (Value : Type) where
  | advance (elapsed : ℕ)
  | begin (address : Address)
  | reset (address : Address)
  /-- The profile call of an attempt fails, at any time after it was granted. -/
  | connectFailed (address : Address) (attempt : UInt64) (busy : Bool)
  /-- BlueZ delivers a stream to the registered profile. -/
  | request (address : Address)
  | acceptRequest (succeeds : Bool)
  | giveBack
  | store (session : ℕ) (value : Value)
  | streamEnded (session : ℕ)
  | handlerEnded (session : ℕ)
  | ended (session : ℕ)

namespace State

variable {Value : Type} (self : State Value)

def init : State Value := ⟨0, Links.init, .idle, ∅, 0, ∅, ∅, []⟩

def begin (address : Address) : State Value :=
  let (links, attempt) := self.links.begin self.now address
  { self with
    links := links
    granted := (attempt.map fun id ↦ (address, id)).toList ++ self.granted }

/-- The request handler takes the link, or rejects the request. -/
def request (address : Address) : State Value :=
  let (links, admitted) := self.links.accept self.now address
  { self with
    links := links
    requests := if admitted then .accepting address else .idle }

def spawnSession (address : Address) : State Value :=
  { self with
    requests := .idle
    sessions := self.sessions.insert self.spawned ⟨address, .running⟩
    spawned := self.spawned + 1 }

def giveBack (address : Address) : State Value :=
  { self with links := self.links.ended self.now address, requests := .idle }

def setPhase (serial : ℕ) (address : Address) (phase : Phase) : State Value :=
  { self with sessions := self.sessions.insert serial ⟨address, phase⟩ }

/-- A running session writes the entry of its peer. -/
def store (serial : ℕ) (address : Address) (value : Value) : State Value :=
  { self with
    peers := self.peers.insert address value
    storedBy := self.storedBy.insert address serial }

/-- `Handler::ended` removes the entry of the peer, whoever wrote it. -/
def handlerEnded (serial : ℕ) (address : Address) : State Value :=
  { self with
    peers := self.peers.erase address
    storedBy := self.storedBy.erase address }.setPhase serial address .cleaned

def ended (serial : ℕ) (address : Address) : State Value :=
  { self with
    links := self.links.ended self.now address
    sessions := self.sessions.erase serial }

end State

section Step

variable {Value : Type}

def step (state : State Value) : Action Value → Option (State Value)
  | .advance elapsed => some { state with now := state.now + elapsed }
  | .begin address => some (state.begin address)
  | .reset address => some { state with links := state.links.reset address }
  | .connectFailed address attempt busy =>
    if (address, attempt) ∈ state.granted then
      some { state with links := state.links.connectFailed state.now address attempt busy }
    else none
  | .request address =>
    match state.requests with
    | .idle => some (state.request address)
    | _ => none
  | .acceptRequest succeeds =>
    match state.requests with
    | .accepting address =>
      if succeeds then some (state.spawnSession address)
      else some { state with requests := .failing address }
    | _ => none
  | .giveBack =>
    match state.requests with
    | .failing address => some (state.giveBack address)
    | _ => none
  | .store serial value =>
    match state.sessions.lookup serial with
    | some ⟨address, .running⟩ => some (state.store serial address value)
    | _ => none
  | .streamEnded serial =>
    match state.sessions.lookup serial with
    | some ⟨address, .running⟩ => some (state.setPhase serial address .ending)
    | _ => none
  | .handlerEnded serial =>
    match state.sessions.lookup serial with
    | some ⟨address, .ending⟩ => some (state.handlerEnded serial address)
    | _ => none
  | .ended serial =>
    match state.sessions.lookup serial with
    | some ⟨address, .cleaned⟩ => some (state.ended serial address)
    | _ => none

def channels (Value : Type) : System (State Value) (Action Value) := ⟨State.init, step⟩

/-! ## What the sessions promise -/

/-- The address has a live stream: the request handler has its link, or a session has. -/
def State.Live (state : State Value) (address : Address) : Prop :=
  state.requests.holds = some address ∨
    ∃ serial phase, state.sessions.lookup serial = some ⟨address, phase⟩

/-- An attempt that is no longer the current one of its address. -/
def State.Old (state : State Value) (address : Address) (attempt : UInt64) : Prop :=
  (address, attempt) ∈ state.granted ∧ state.links.isCurrent address attempt = false

/-- One session per address, every link of a stream has its session, and no attempt number is
used twice. -/
structure Exclusive (state : State Value) : Prop where
  streams : ∀ address, (state.links.connected.lookup address).isSome = true ↔ state.Live address
  session : ∀ first second address phase other,
    state.sessions.lookup first = some ⟨address, phase⟩ →
      state.sessions.lookup second = some ⟨address, other⟩ → first = second
  requested : ∀ address serial phase, state.requests.holds = some address →
    state.sessions.lookup serial ≠ some ⟨address, phase⟩
  granted : (state.granted.map Prod.snd).Nodup

/-- What the step respects. -/
structure Respects (state : State Value) (action : Action Value) (next : State Value) : Prop where
  /-- An old attempt stays old, and its failure changes nothing. -/
  old : ∀ address attempt, state.Old address attempt → next.Old address attempt
  failure : ∀ address attempt busy, action = .connectFailed address attempt busy →
    state.Old address attempt → next = state
  /-- A failure of the current attempt is confined to its own address and changes no stream. -/
  confined : ∀ address attempt busy, action = .connectFailed address attempt busy →
    Links.Touches address state.links next.links ∧ next.links.connected = state.links.connected
  reset : ∀ address, action = .reset address →
    next.links.connected = state.links.connected ∧ next.requests = state.requests ∧
      next.sessions = state.sessions
  /-- A stream is accepted only when nothing is left of an earlier one. -/
  accepted : ∀ address, state.requests = .idle → next.requests = .accepting address →
    ¬ state.Live address ∧ state.peers.lookup address = none
  /-- The cleanup of a session keeps what another session wrote. -/
  cleanup : ∀ serial, action = .handlerEnded serial → ∀ address owner,
    state.storedBy.lookup address = some owner → owner ≠ serial →
      next.peers.lookup address = state.peers.lookup address

end Step

end BtDaemon.VendorChannel
