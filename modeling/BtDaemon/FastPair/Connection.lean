import BtDaemon.FastPair.Retry

/-!
# The Fast Pair connection state

One link per address, either a pending attempt with its id or an accepted stream. All
methods run under one lock, so each is an atomic step. The clock is an argument of every
method that reads it.
-/

namespace BtDaemon.FastPair

open VendorChannel

inductive MessageStreamTransport where
  | rfcomm
  | l2cap
  deriving DecidableEq, Repr

inductive PsmAvailability where
  | unknown
  | ready (psm : UInt16)
  | unavailable
  deriving DecidableEq, Repr

inductive LinkState where
  | connecting (attempt : UInt64) (started : Instant)
  | connected (start : Instant)
  deriving DecidableEq, Repr

namespace LinkState

def isConnecting : LinkState → Bool
  | .connecting _ _ => true
  | .connected _ => false

def isConnected : LinkState → Bool
  | .connecting _ _ => false
  | .connected _ => true

def isAttempt (attempt : UInt64) : LinkState → Bool
  | .connecting current _ => current == attempt
  | .connected _ => false

end LinkState

/-- `STALE_CONNECT`. -/
def staleConnect : ℕ := 30000

/-- The age from which the end of a stream starts a new retry session. -/
def stableSession : ℕ := 60000

structure ConnectionState where
  links : Table Address LinkState
  /-- The sender of a stream's write channel, by the reader that created it. -/
  writers : Table Address ℕ
  retry : RetryPolicy
  nextAttempt : UInt64

namespace ConnectionState

def init : ConnectionState := ⟨∅, ∅, RetryPolicy.init, 0⟩

/-- The first half of `begin`: give up an attempt that produced no stream in time. -/
def expire (state : ConnectionState) (now : Instant) (address : Address) (random : UInt8) :
    ConnectionState :=
  match state.links.lookup address with
  | some (.connecting _ started) =>
    if staleConnect ≤ now - started then
      { state with
        links := state.links.erase address
        retry := state.retry.failed now address random }
    else state
  | _ => state

/-- The second half of `begin`. -/
def start (state : ConnectionState) (now : Instant) (address : Address)
    (transport : MessageStreamTransport) : ConnectionState × Option UInt64 :=
  if (state.links.lookup address).isSome || !state.retry.ready now address ||
      (transport == .l2cap && !state.retry.l2capAllowed address) then
    (state, none)
  else
    let attempt := state.nextAttempt + 1
    ({ state with
      links := state.links.insert address (.connecting attempt now)
      nextAttempt := attempt }, some attempt)

def begin (state : ConnectionState) (now : Instant) (address : Address)
    (transport : MessageStreamTransport) (random : UInt8) : ConnectionState × Option UInt64 :=
  (state.expire now address random).start now address transport

def isCurrentAttempt (state : ConnectionState) (address : Address) (attempt : UInt64) : Bool :=
  (state.links.lookup address).any (LinkState.isAttempt attempt)

def noteConnectionChange (state : ConnectionState) (address : Address) (connected : Bool) :
    ConnectionState :=
  { state with
    retry := state.retry.resetSession address
    -- A live reader still owns Connected and its teardown.
    links := if !connected && (state.links.lookup address).any LinkState.isConnecting then
        state.links.erase address
      else state.links }

def markConnected (state : ConnectionState) (now : Instant) (address : Address) :
    ConnectionState × Bool :=
  if (state.links.lookup address).any LinkState.isConnected then (state, false)
  else
    ({ state with
      links := state.links.insert address (.connected now)
      retry := state.retry.connected address }, true)

def connectCompleted (state : ConnectionState) (now : Instant) (address : Address)
    (attempt : UInt64) : ConnectionState × Bool :=
  if state.isCurrentAttempt address attempt then state.markConnected now address
  else (state, false)

def ended (state : ConnectionState) (now : Instant) (address : Address) (random : UInt8) :
    ConnectionState :=
  let retry := match state.links.lookup address with
    | some (.connected start) =>
      if stableSession ≤ now - start then state.retry.resetSession address else state.retry
    | _ => state.retry
  { state with
    links := state.links.erase address
    writers := state.writers.erase address
    retry := retry.failed now address random }

def connectionFailed (state : ConnectionState) (now : Instant) (address : Address)
    (attempt : UInt64) (error : ConnectionError) (random : UInt8) : ConnectionState :=
  if state.isCurrentAttempt address attempt then
    { state with
      links := state.links.erase address
      retry := state.retry.connectionFailed now address error random }
  else state

/-! ## What each method does to the links -/

/-- Giving up an attempt removes it or changes nothing. -/
theorem expire_cases (state : ConnectionState) (now : Instant) (address : Address)
    (random : UInt8) :
    state.expire now address random = state ∨
      (state.links.lookup address).any LinkState.isConnecting = true ∧
        (state.expire now address random).links = state.links.erase address ∧
        (state.expire now address random).writers = state.writers ∧
        (state.expire now address random).nextAttempt = state.nextAttempt := by
  unfold expire
  cases hlink : state.links.lookup address with
  | none => exact .inl rfl
  | some link =>
    cases link with
    | connected start => exact .inl rfl
    | connecting attempt started =>
      by_cases hstale : staleConnect ≤ now - started
      · exact .inr ⟨rfl, by simp [hstale], by simp [hstale], by simp [hstale]⟩
      · exact .inl (by simp [hstale])

/-- A granted attempt has the next id and fills an empty link. -/
theorem start_cases (state : ConnectionState) (now : Instant) (address : Address)
    (transport : MessageStreamTransport) :
    state.start now address transport = (state, none) ∨
      state.links.lookup address = none ∧ state.retry.ready now address = true ∧
        state.start now address transport =
          ({ state with
            links := state.links.insert address (.connecting (state.nextAttempt + 1) now)
            nextAttempt := state.nextAttempt + 1 }, some (state.nextAttempt + 1)) := by
  unfold start
  by_cases hrefused : ((state.links.lookup address).isSome || !state.retry.ready now address ||
      (transport == .l2cap && !state.retry.l2capAllowed address)) = true
  · exact .inl (if_pos hrefused)
  · refine .inr ⟨?_, ?_, if_neg hrefused⟩
    · cases hlink : state.links.lookup address with
      | none => rfl
      | some link => simp [hlink] at hrefused
    · cases hready : state.retry.ready now address with
      | true => rfl
      | false => simp [hready] at hrefused

theorem not_isConnected_of_isCurrentAttempt {state : ConnectionState} {address : Address}
    {attempt : UInt64} (hcurrent : state.isCurrentAttempt address attempt = true) :
    (state.links.lookup address).any LinkState.isConnected = false := by
  unfold isCurrentAttempt at hcurrent
  cases hlink : state.links.lookup address with
  | none => rfl
  | some link =>
    cases link with
    | connecting current started => rfl
    | connected start => simp [hlink, LinkState.isAttempt] at hcurrent

theorem connectCompleted_of_current {state : ConnectionState} {address : Address}
    {attempt : UInt64} (now : Instant)
    (hcurrent : state.isCurrentAttempt address attempt = true) :
    state.connectCompleted now address attempt =
      ({ state with
        links := state.links.insert address (.connected now)
        retry := state.retry.connected address }, true) := by
  rw [connectCompleted, if_pos hcurrent, markConnected,
    not_isConnected_of_isCurrentAttempt hcurrent]
  rfl

/-- The connection state once the stream of an address is accepted. -/
def accepted (state : ConnectionState) (now : Instant) (address : Address) : ConnectionState :=
  { state with
    links := state.links.insert address (.connected now)
    retry := state.retry.connected address }

/-- A stream is refused, or it takes a link that no other stream has. -/
theorem markConnected_cases (state : ConnectionState) (now : Instant) (address : Address) :
    state.markConnected now address = (state, false) ∨
      (state.links.lookup address).any LinkState.isConnected = false ∧
        state.markConnected now address = (state.accepted now address, true) := by
  by_cases hconnected : (state.links.lookup address).any LinkState.isConnected = true
  · exact .inl (if_pos hconnected)
  · exact .inr ⟨Bool.of_not_eq_true hconnected, if_neg hconnected⟩

theorem connectCompleted_cases (state : ConnectionState) (now : Instant) (address : Address)
    (attempt : UInt64) :
    state.connectCompleted now address attempt = (state, false) ∨
      (state.links.lookup address).any LinkState.isConnected = false ∧
        state.connectCompleted now address attempt = (state.accepted now address, true) := by
  by_cases hcurrent : state.isCurrentAttempt address attempt = true
  · exact .inr ⟨not_isConnected_of_isCurrentAttempt hcurrent,
      connectCompleted_of_current now hcurrent⟩
  · exact .inl (if_neg hcurrent)

/-! ## Accepted streams stay -/

/-- Every accepted stream keeps its link, and no writer changes. -/
structure KeepsStreams (before after : ConnectionState) : Prop where
  link : ∀ address start, before.links.lookup address = some (.connected start) →
    after.links.lookup address = some (.connected start)
  writers : after.writers = before.writers

theorem KeepsStreams.refl (state : ConnectionState) : KeepsStreams state state :=
  ⟨fun _ _ hlink ↦ hlink, rfl⟩

theorem KeepsStreams.trans {first second third : ConnectionState}
    (hfirst : KeepsStreams first second) (hsecond : KeepsStreams second third) :
    KeepsStreams first third :=
  ⟨fun address start hlink ↦ hsecond.link address start (hfirst.link address start hlink),
    hsecond.writers.trans hfirst.writers⟩

/-- Removing a link that is no stream's keeps the streams. -/
theorem keepsStreams_of_erase {before after : ConnectionState} {address : Address}
    (hidle : (before.links.lookup address).any LinkState.isConnected = false)
    (hlinks : after.links = before.links.erase address)
    (hwriters : after.writers = before.writers) : KeepsStreams before after := by
  refine ⟨fun other start hlink ↦ ?_, hwriters⟩
  rw [hlinks, Table.lookup_erase, if_neg, hlink]
  rintro rfl
  simp [hlink, LinkState.isConnected] at hidle

theorem isConnected_eq_false_of_isConnecting {link : Option LinkState}
    (hconnecting : link.any LinkState.isConnecting = true) :
    link.any LinkState.isConnected = false := by
  rcases link with _ | ⟨attempt, started⟩ | start
  · rfl
  · rfl
  · cases hconnecting

theorem keepsStreams_expire (state : ConnectionState) (now : Instant) (address : Address)
    (random : UInt8) : KeepsStreams state (state.expire now address random) := by
  rcases state.expire_cases now address random with hkept | ⟨hpending, hlinks, hwriters, _⟩
  · rw [hkept]
    exact .refl state
  · exact keepsStreams_of_erase (isConnected_eq_false_of_isConnecting hpending) hlinks hwriters

theorem keepsStreams_begin (state : ConnectionState) (now : Instant) (address : Address)
    (transport : MessageStreamTransport) (random : UInt8) :
    KeepsStreams state (state.begin now address transport random).1 := by
  apply (state.keepsStreams_expire now address random).trans
  rw [begin]
  rcases (state.expire now address random).start_cases now address transport with
    hrefused | ⟨hempty, -, hgranted⟩
  · rw [hrefused]
    exact .refl _
  · rw [hgranted]
    refine ⟨fun other start hlink ↦ ?_, rfl⟩
    rw [Table.lookup_insert, if_neg, hlink]
    rintro rfl
    simp [hempty] at hlink

theorem keepsStreams_connectionFailed (state : ConnectionState) (now : Instant)
    (address : Address) (attempt : UInt64) (error : ConnectionError) (random : UInt8) :
    KeepsStreams state (state.connectionFailed now address attempt error random) := by
  by_cases hcurrent : state.isCurrentAttempt address attempt = true
  · refine keepsStreams_of_erase (not_isConnected_of_isCurrentAttempt hcurrent) ?_ ?_ <;>
      simp only [connectionFailed, if_pos hcurrent]
  · rw [connectionFailed, if_neg hcurrent]
    exact .refl state

theorem keepsStreams_noteConnectionChange (state : ConnectionState) (address : Address)
    (connected : Bool) : KeepsStreams state (state.noteConnectionChange address connected) := by
  by_cases hretired : (!connected &&
      (state.links.lookup address).any LinkState.isConnecting) = true
  · have hpending := (Bool.and_eq_true_iff.mp hretired).2
    refine keepsStreams_of_erase (isConnected_eq_false_of_isConnecting hpending) ?_ rfl
    simp only [noteConnectionChange, if_pos hretired]
  · refine ⟨fun other start hlink ↦ ?_, rfl⟩
    simpa only [noteConnectionChange, if_neg hretired] using hlink

end ConnectionState

end BtDaemon.FastPair
