import BtDaemon.Foundation.Deadlines
import BtDaemon.Foundation.Transition
import BtDaemon.FastPair.Connection

/-!
# Fast Pair back-off

Every failure of a peer arms a deadline before which no attempt begins. A run keeps a ledger of
the delays that were armed for each peer since the last reset of its retry state, so that what
the policy may still do is a property of the ledger: a few quick busy retries in a fixed order,
and otherwise delays between fifteen seconds and six minutes.
-/

namespace BtDaemon.FastPair

open Transition VendorChannel

/-- The retry state of a peer, which has its default when there is no entry. -/
def RetryPolicy.peer (retry : RetryPolicy) (address : Address) : PeerRetry :=
  (retry.peers.lookup address).getD {}

namespace RetryPolicy

variable (retry : RetryPolicy) (address : Address)

theorem peer_update (change : PeerRetry → PeerRetry) :
    (retry.update address change).peer address = change (retry.peer address) := by
  rw [peer, lookup_update, if_pos rfl]
  rfl

theorem peer_update_of_ne {other : Address} (hother : other ≠ address)
    (change : PeerRetry → PeerRetry) :
    (retry.update address change).peer other = retry.peer other := by
  rw [peer, lookup_update, if_neg hother]
  rfl

theorem peer_connected : (retry.connected address).peer address =
    { retry.peer address with after := none } := by
  rw [peer, connected, Table.lookup_modify, if_pos rfl, peer]
  cases retry.peers.lookup address <;> rfl

theorem peer_connected_of_ne {other : Address} (hother : other ≠ address) :
    (retry.connected address).peer other = retry.peer other := by
  rw [peer, connected, Table.lookup_modify, if_neg hother]
  rfl

theorem peer_clearDue (now : Instant) : (retry.clearDue now).peer address =
    { retry.peer address with
      after := (retry.peer address).after.filter fun deadline ↦ decide (now < deadline) } := by
  rw [peer, clearDue, Table.lookup_mapValues, peer]
  cases retry.peers.lookup address <;> rfl

theorem peer_resetSession : (retry.resetSession address).peer address = {} := by
  rw [peer, resetSession, Table.lookup_erase, if_pos rfl]
  rfl

theorem peer_resetSession_of_ne {other : Address} (hother : other ≠ address) :
    (retry.resetSession address).peer other = retry.peer other := by
  rw [peer, resetSession, Table.lookup_erase, if_neg hother]
  rfl

end RetryPolicy

def LinkState.isStale (now : Instant) : LinkState → Bool
  | .connecting _ started => decide (staleConnect ≤ now - started)
  | .connected _ => false

def LinkState.isStable (now : Instant) : LinkState → Bool
  | .connecting _ _ => false
  | .connected start => decide (stableSession ≤ now - start)

namespace Backoff

structure State where
  connections : ConnectionState
  now : Instant
  ledger : Deadlines Address

inductive Action where
  | begin (now : Instant) (address : Address) (transport : MessageStreamTransport)
      (random : UInt8)
  | connectionFailed (now : Instant) (address : Address) (attempt : UInt64)
      (error : ConnectionError) (random : UInt8)
  | connectCompleted (now : Instant) (address : Address) (attempt : UInt64)
  | markConnected (now : Instant) (address : Address)
  | ended (now : Instant) (address : Address) (random : UInt8)
  | clearDue (now : Instant)
  | noteConnectionChange (now : Instant) (address : Address) (connected : Bool)
  | psmUnknown (now : Instant) (address : Address)
  | psmUnavailable (now : Instant) (address : Address)

def Action.now : Action → Instant
  | .begin now _ _ _ | .connectionFailed now _ _ _ _ | .connectCompleted now _ _
  | .markConnected now _ | .ended now _ _ | .clearDue now | .noteConnectionChange now _ _
  | .psmUnknown now _ | .psmUnavailable now _ => now

namespace State

def init : State := ⟨ConnectionState.init, 0, Deadlines.empty⟩

def deadline (state : State) (address : Address) : Option Instant :=
  (state.connections.retry.peer address).after

/-- Replace the connections by ones that have armed a deadline for the peer. -/
def arm (state : State) (connections : ConnectionState) (now : Instant) (address : Address) :
    State where
  connections := connections
  now := now
  ledger := state.ledger.arm now address (connections.retry.peer address).after

def begin (state : State) (now : Instant) (address : Address)
    (transport : MessageStreamTransport) (random : UInt8) : State :=
  let connections := (state.connections.begin now address transport random).1
  if (state.connections.links.lookup address).any (LinkState.isStale now) then
    state.arm connections now address
  else { state with connections, now }

def connectionFailed (state : State) (now : Instant) (address : Address) (attempt : UInt64)
    (error : ConnectionError) (random : UInt8) : State :=
  let connections := state.connections.connectionFailed now address attempt error random
  if state.connections.isCurrentAttempt address attempt then
    state.arm connections now address
  else { state with connections, now }

/-- A stream that is accepted needs no deadline. -/
def accept (state : State) (now : Instant) (address : Address) : ConnectionState × Bool → State
  | (connections, true) => ⟨connections, now, state.ledger.disarm address⟩
  | (connections, false) => { state with connections, now }

def ended (state : State) (now : Instant) (address : Address) (random : UInt8) : State :=
  let connections := state.connections.ended now address random
  if (state.connections.links.lookup address).any (LinkState.isStable now) then
    { state with ledger := state.ledger.forget address }.arm connections now address
  else state.arm connections now address

def clearDue (state : State) (now : Instant) : State :=
  { state with connections.retry := state.connections.retry.clearDue now, now := now }

def noteConnectionChange (state : State) (now : Instant) (address : Address)
    (connected : Bool) : State where
  connections := state.connections.noteConnectionChange address connected
  now := now
  ledger := state.ledger.forget address

def apply (state : State) : Action → State
  | .begin now address transport random => state.begin now address transport random
  | .connectionFailed now address attempt error random =>
    state.connectionFailed now address attempt error random
  | .connectCompleted now address attempt =>
    state.accept now address (state.connections.connectCompleted now address attempt)
  | .markConnected now address =>
    state.accept now address (state.connections.markConnected now address)
  | .ended now address random => state.ended now address random
  | .clearDue now => state.clearDue now
  | .noteConnectionChange now address connected =>
    state.noteConnectionChange now address connected
  | .psmUnknown now address =>
    { state with
      connections.retry := state.connections.retry.psmUnknown address
      now := now }
  | .psmUnavailable now address =>
    { state with
      connections.retry := state.connections.retry.psmUnavailable address
      now := now }

end State

def step (state : State) (action : Action) : Option State :=
  if state.now ≤ action.now then some (state.apply action) else none

def system : System State Action := ⟨State.init, step⟩

/-! ## What the policy promises -/

def isQuick (delay : ℕ) : Bool := decide (delay ∈ busyRetryMs)

/-- The quick retries of a session come in their order, and every other delay is long. -/
structure Budgeted (delays : List ℕ) : Prop where
  quick : (delays.filter isQuick).length ≤ 6
  order : delays.filter isQuick <+: busyRetryMs
  slow : ∀ delay ∈ delays, isQuick delay = false → 15000 ≤ delay ∧ delay ≤ 360000

/-- The counters fit their types, and so does the shifted delay. -/
structure Fits (peer : PeerRetry) : Prop where
  failures : peer.failures < 2 ^ 32
  busyAttempts : peer.busyAttempts ≤ 6
  shift : min peer.failures 5 < 64
  shifted : 15 * 2 ^ min peer.failures 5 < 2 ^ 64

structure Bounded (state : State) : Prop where
  delays : ∀ address, Budgeted (state.ledger.delays address)
  fits : ∀ address, Fits (state.connections.retry.peer address)
  begin_granted : ∀ now address transport random attempt, state.now ≤ now →
    (state.connections.begin now address transport random).2 = some attempt →
      (state.begin now address transport random).ledger = state.ledger ∧
        ∀ deadline, state.ledger.armed address = some deadline → deadline ≤ now
  begin_keeps : ∀ now address transport random other,
    (state.connections.links.lookup address).any LinkState.isConnecting = false →
      (state.begin now address transport random).deadline other = state.deadline other
  clearDue_keeps : ∀ now other, (state.clearDue now).deadline other = state.deadline other ∨
    (state.clearDue now).deadline other = none ∧
      ∀ deadline, state.deadline other = some deadline → deadline ≤ now

/-! ## What each method does to the retry state -/

theorem ready_iff (retry : RetryPolicy) (now : Instant) (address : Address) :
    retry.ready now address = true ↔
      ∀ deadline, (retry.peer address).after = some deadline → deadline ≤ now := by
  rw [RetryPolicy.ready, RetryPolicy.peer]
  rcases retry.peers.lookup address with _ | ⟨failures, busyAttempts, _ | after, psm, gone⟩ <;>
    simp

section Methods

variable (connections : ConnectionState) (now : Instant) (address : Address)

theorem retry_expire (random : UInt8) : (connections.expire now address random).retry =
    if (connections.links.lookup address).any (LinkState.isStale now) then
      connections.retry.failed now address random
    else connections.retry := by
  rw [ConnectionState.expire]
  rcases connections.links.lookup address with _ | ⟨attempt, started⟩ | start
  · rfl
  · by_cases hstale : staleConnect ≤ now - started <;> simp [LinkState.isStale, hstale]
  · rfl

theorem retry_begin (transport : MessageStreamTransport) (random : UInt8) :
    (connections.begin now address transport random).1.retry =
      (connections.expire now address random).retry := by
  rw [ConnectionState.begin]
  rcases (connections.expire now address random).start_cases now address transport with
    hrefused | ⟨-, -, hgranted⟩
  · rw [hrefused]
  · rw [hgranted]

theorem retry_ended (random : UInt8) :
    (connections.ended now address random).retry =
      (if (connections.links.lookup address).any (LinkState.isStable now) then
        connections.retry.resetSession address
      else connections.retry).failed now address random := by
  rw [ConnectionState.ended]
  rcases connections.links.lookup address with _ | ⟨attempt, started⟩ | start
  · rfl
  · rfl
  · by_cases hstable : stableSession ≤ now - start <;> simp [LinkState.isStable, hstable]

/-- An attempt is granted only to a peer that is ready and has no expired attempt. -/
theorem begin_granted {transport : MessageStreamTransport} {random : UInt8} {attempt : UInt64}
    (hgranted : (connections.begin now address transport random).2 = some attempt) :
    (connections.links.lookup address).any (LinkState.isStale now) = false ∧
      ∀ deadline, (connections.retry.peer address).after = some deadline → deadline ≤ now := by
  rcases (connections.expire now address random).start_cases now address transport with
    hrefused | ⟨-, hready, -⟩
  · rw [ConnectionState.begin, hrefused] at hgranted
    cases hgranted
  · rw [ready_iff, retry_expire] at hready
    split at hready
    · rw [RetryPolicy.failed, RetryPolicy.peer_update] at hready
      have hdue := hready _ rfl
      have hpower : 1 ≤ 2 ^ min (connections.retry.peer address).failures 5 :=
        Nat.one_le_two_pow
      exact absurd hdue (Nat.not_le_of_lt (Nat.lt_add_of_pos_right (by omega)))
    · next hfresh => exact ⟨Bool.of_not_eq_true hfresh, hready⟩

end Methods

/-! ## The ledger of one peer -/

/-- The counters of a peer are what its ledger says, and a deadline is dropped only when it is
due or when a stream was accepted. -/
structure Tracks (now : Instant) (peer : PeerRetry) (delays : List ℕ) (armed : Option Instant) :
    Prop where
  quick : delays.filter isQuick = busyRetryMs.take peer.busyAttempts
  busyAttempts : peer.busyAttempts ≤ 6
  failures : peer.failures = min (delays.filter fun delay ↦ !isQuick delay).length (2 ^ 32 - 1)
  slow : ∀ delay ∈ delays, isQuick delay = false → 15000 ≤ delay ∧ delay ≤ 360000
  after : ∀ deadline, peer.after = some deadline → armed = some deadline
  armed : ∀ deadline, armed = some deadline → peer.after = some deadline ∨ deadline ≤ now

/-- The peer has a new deadline, and its ledger has the delay. -/
def Arms (now : Instant) (peer : PeerRetry) (delays : List ℕ) : Prop :=
  ∃ delay, peer.after = some (now + delay) ∧
    Tracks now peer (delays ++ [delay]) (some (now + delay))

theorem mem_busyRetryMs_le {delay : ℕ} (hdelay : delay ∈ busyRetryMs) : delay ≤ 1000 := by
  revert delay
  decide

namespace Tracks

variable {earlier now : Instant} {peer : PeerRetry} {delays : List ℕ} {armed : Option Instant}

theorem init (now : Instant) : Tracks now {} [] none where
  quick := rfl
  busyAttempts := Nat.zero_le 6
  failures := rfl
  slow _ hdelay := by cases hdelay
  after _ hafter := hafter
  armed _ harmed := by cases harmed

theorem mono (tracks : Tracks earlier peer delays armed) (hnow : earlier ≤ now) :
    Tracks now peer delays armed :=
  { tracks with
    armed := fun deadline harmed ↦
      (tracks.armed deadline harmed).imp_right fun hdue ↦ Nat.le_trans hdue hnow }

theorem fits (tracks : Tracks now peer delays armed) : Fits peer := by
  have hshift : min peer.failures 5 ≤ 5 := Nat.min_le_right ..
  have hpower : 2 ^ min peer.failures 5 ≤ 2 ^ 5 := Nat.pow_le_pow_right (by decide) hshift
  refine ⟨?_, tracks.busyAttempts, by omega, by omega⟩
  rw [tracks.failures]
  omega

theorem budgeted (tracks : Tracks now peer delays armed) : Budgeted delays where
  quick := by
    rw [tracks.quick]
    exact List.length_take_le' ..
  order := by
    rw [tracks.quick]
    exact List.take_prefix ..
  slow := tracks.slow

theorem arms_failed (tracks : Tracks earlier peer delays armed) (now : Instant)
    (random : UInt8) : Arms now (peer.failed now random) delays := by
  set seconds := min (15 * 2 ^ min peer.failures 5) 300 with hseconds
  have hpower : 1 ≤ 2 ^ min peer.failures 5 := Nat.one_le_two_pow
  have hjitter : random.toNat % (seconds / 5 + 1) ≤ seconds / 5 :=
    Nat.lt_succ_iff.mp (Nat.mod_lt _ (Nat.succ_pos _))
  set delay := (seconds + random.toNat % (seconds / 5 + 1)) * 1000 with hdelay
  have hlong : 15000 ≤ delay ∧ delay ≤ 360000 := by omega
  have hslow : isQuick delay = false := by
    apply decide_eq_false
    intro hmem
    have hshort := mem_busyRetryMs_le hmem
    omega
  refine ⟨delay, rfl, ?_, tracks.busyAttempts, ?_, ?_, fun _ hafter ↦ hafter,
    fun _ harmed ↦ .inl harmed⟩
  · rw [List.filter_append, tracks.quick, List.filter_singleton, hslow]
    exact List.append_nil _
  · rw [List.filter_append, List.length_append, List.filter_singleton, hslow]
    change min (peer.failures + 1) (2 ^ 32 - 1) = _
    rw [tracks.failures, Bool.not_false, cond_true, List.length_singleton]
    omega
  · intro other hother hquick
    rcases List.mem_append.mp hother with hold | hnew
    · exact tracks.slow other hold hquick
    · rw [List.mem_singleton.mp hnew]
      exact hlong

theorem arms_connectionFailed (tracks : Tracks earlier peer delays armed) (now : Instant)
    (error : ConnectionError) (random : UInt8) :
    Arms now (peer.connectionFailed now error random) delays := by
  unfold PeerRetry.connectionFailed
  split
  · next millis hbusy hmillis =>
    obtain ⟨hlt, hget⟩ := List.getElem?_eq_some_iff.mp hmillis
    have hquick : isQuick millis = true := decide_eq_true (List.mem_of_getElem? hmillis)
    refine ⟨millis, rfl, ?_, hlt, ?_, ?_, fun _ hafter ↦ hafter, fun _ harmed ↦ .inl harmed⟩
    · rw [List.filter_append, tracks.quick, List.filter_singleton, hquick, cond_true, ← hget]
      exact List.take_append_getElem hlt
    · rw [List.filter_append, List.filter_singleton, hquick]
      simpa using tracks.failures
    · intro other hother hslow
      rcases List.mem_append.mp hother with hold | hnew
      · exact tracks.slow other hold hslow
      · rw [List.mem_singleton.mp hnew, hquick] at hslow
        cases hslow
  · exact tracks.arms_failed now random

theorem connected (tracks : Tracks earlier peer delays armed) (now : Instant) :
    Tracks now { peer with after := none } delays none :=
  { tracks with
    after := fun _ hafter ↦ hafter
    armed := fun _ harmed ↦ by cases harmed }

theorem clearDue (tracks : Tracks earlier peer delays armed) (hnow : earlier ≤ now) :
    Tracks now { peer with
      after := peer.after.filter fun deadline ↦ decide (now < deadline) } delays armed :=
  { tracks with
    after := fun deadline hafter ↦
      tracks.after deadline (Option.filter_eq_some_iff.mp hafter).1
    armed := fun deadline harmed ↦ by
      rcases tracks.armed deadline harmed with hafter | hdue
      · by_cases hdue : now < deadline
        · exact .inl (Option.filter_eq_some_iff.mpr ⟨hafter, decide_eq_true hdue⟩)
        · exact .inr (Nat.le_of_not_lt hdue)
      · exact .inr (Nat.le_trans hdue hnow) }

/-- Notes about the PSM change none of this. -/
theorem psmUnknown (tracks : Tracks now peer delays armed) :
    Tracks now peer.psmUnknown delays armed :=
  { tracks with }

theorem psmUnavailable (tracks : Tracks now peer delays armed) :
    Tracks now peer.psmUnavailable delays armed :=
  { tracks with }

end Tracks

/-! ## The invariant -/

def Invariant (state : State) : Prop :=
  ∀ address, Tracks state.now (state.connections.retry.peer address)
    (state.ledger.delays address) (state.ledger.armed address)

namespace Invariant

variable {state : State} {now : Instant} {connections : ConnectionState} {address : Address}

theorem init : Invariant system.init := fun _ ↦ Tracks.init 0

/-- A peer whose retry state and ledger are as before. -/
theorem other (invariant : Invariant state) (hnow : state.now ≤ now)
    {ledger : Deadlines Address} {peer : PeerRetry}
    (hpeer : peer = state.connections.retry.peer address)
    (hagree : Deadlines.Agree state.ledger ledger address) :
    Tracks now peer (ledger.delays address) (ledger.armed address) := by
  rw [hpeer, hagree.delays, hagree.armed]
  exact (invariant address).mono hnow

/-- Connections whose retry states are as before. -/
theorem advance (invariant : Invariant state) (hnow : state.now ≤ now)
    (hretry : connections.retry = state.connections.retry) :
    Invariant { state with connections, now } := by
  intro address
  change Tracks now (connections.retry.peer address) _ _
  rw [hretry]
  exact (invariant address).mono hnow

theorem arm (ledger : Deadlines Address)
    (harms : Arms now (connections.retry.peer address) (ledger.delays address))
    (hothers : ∀ other, other ≠ address → Tracks now (connections.retry.peer other)
      (ledger.delays other) (ledger.armed other)) :
    Invariant ({ state with ledger := ledger }.arm connections now address) := by
  intro other
  rw [State.arm]
  by_cases hother : other = address
  · obtain ⟨delay, hafter, htracks⟩ := harms
    subst hother
    simpa only [hafter, Deadlines.delays_arm, Deadlines.armed_arm] using htracks
  · have hagree : Deadlines.Agree ledger
        (ledger.arm now address (connections.retry.peer address).after) other :=
      Deadlines.agree_arm hother _
    simpa only [hagree.delays, hagree.armed] using hothers other hother

theorem begin (invariant : Invariant state) (hnow : state.now ≤ now) (address : Address)
    (transport : MessageStreamTransport) (random : UInt8) :
    Invariant (state.begin now address transport random) := by
  have hretry := (retry_begin state.connections now address transport random).trans
    (retry_expire ..)
  unfold State.begin
  split
  · next hstale =>
    rw [if_pos hstale, RetryPolicy.failed] at hretry
    apply arm state.ledger
    · rw [hretry, RetryPolicy.peer_update]
      exact (invariant address).arms_failed now random
    · intro other hother
      rw [hretry, RetryPolicy.peer_update_of_ne _ _ hother]
      exact (invariant other).mono hnow
  · next hfresh =>
    rw [if_neg hfresh] at hretry
    exact invariant.advance hnow hretry

theorem connectionFailed (invariant : Invariant state) (hnow : state.now ≤ now)
    (address : Address) (attempt : UInt64) (error : ConnectionError) (random : UInt8) :
    Invariant (state.connectionFailed now address attempt error random) := by
  unfold State.connectionFailed ConnectionState.connectionFailed
  split
  · apply arm state.ledger
    · rw [RetryPolicy.connectionFailed, RetryPolicy.peer_update]
      exact (invariant address).arms_connectionFailed now error random
    · intro other hother
      rw [RetryPolicy.connectionFailed, RetryPolicy.peer_update_of_ne _ _ hother]
      exact (invariant other).mono hnow
  · exact invariant.advance hnow rfl

theorem accept (invariant : Invariant state) (hnow : state.now ≤ now) (address : Address)
    {answer : ConnectionState × Bool} (hanswer : answer = (state.connections, false) ∨
      answer = (state.connections.accepted now address, true)) :
    Invariant (state.accept now address answer) := by
  rcases hanswer with rfl | rfl
  · exact invariant.advance hnow rfl
  · intro other
    change Tracks now ((state.connections.retry.connected address).peer other) _ _
    by_cases hother : other = address
    · subst hother
      rw [RetryPolicy.peer_connected]
      simpa only [State.accept, Deadlines.delays_disarm, Deadlines.armed_disarm] using
        (invariant other).connected now
    · exact invariant.other hnow (RetryPolicy.peer_connected_of_ne _ _ hother)
        (Deadlines.agree_disarm hother)

theorem ended (invariant : Invariant state) (hnow : state.now ≤ now) (address : Address)
    (random : UInt8) : Invariant (state.ended now address random) := by
  have hretry := retry_ended state.connections now address random
  unfold State.ended
  split
  · next hstable =>
    rw [if_pos hstable, RetryPolicy.failed] at hretry
    apply arm
    · rw [hretry, RetryPolicy.peer_update, RetryPolicy.peer_resetSession, Deadlines.delays_forget]
      exact (Tracks.init now).arms_failed now random
    · intro other hother
      apply invariant.other hnow _ (Deadlines.agree_forget hother)
      rw [hretry, RetryPolicy.peer_update_of_ne _ _ hother,
        RetryPolicy.peer_resetSession_of_ne _ _ hother]
  · next hshort =>
    rw [if_neg hshort, RetryPolicy.failed] at hretry
    apply arm state.ledger
    · rw [hretry, RetryPolicy.peer_update]
      exact (invariant address).arms_failed now random
    · intro other hother
      rw [hretry, RetryPolicy.peer_update_of_ne _ _ hother]
      exact (invariant other).mono hnow

theorem clearDue (invariant : Invariant state) (hnow : state.now ≤ now) :
    Invariant (state.clearDue now) := by
  intro address
  change Tracks now ((state.connections.retry.clearDue now).peer address) _ _
  rw [RetryPolicy.peer_clearDue]
  exact (invariant address).clearDue hnow

theorem noteConnectionChange (invariant : Invariant state) (hnow : state.now ≤ now)
    (address : Address) (connected : Bool) :
    Invariant (state.noteConnectionChange now address connected) := by
  intro other
  change Tracks now ((state.connections.retry.resetSession address).peer other) _ _
  by_cases hother : other = address
  · subst hother
    rw [RetryPolicy.peer_resetSession]
    simpa only [State.noteConnectionChange, Deadlines.delays_forget, Deadlines.armed_forget] using
      Tracks.init now
  · exact invariant.other hnow (RetryPolicy.peer_resetSession_of_ne _ _ hother)
      (Deadlines.agree_forget hother)

/-- A change of the peer's own state that keeps what the ledger is about. -/
theorem update (invariant : Invariant state) (hnow : state.now ≤ now) (address : Address)
    {change : PeerRetry → PeerRetry} (hchange : Tracks now
      (change (state.connections.retry.peer address)) (state.ledger.delays address)
      (state.ledger.armed address)) :
    Invariant { state with
      connections.retry := state.connections.retry.update address change
      now := now } := by
  intro other
  by_cases hother : other = address
  · subst hother
    rw [RetryPolicy.peer_update]
    exact hchange
  · rw [RetryPolicy.peer_update_of_ne _ _ hother]
    exact (invariant other).mono hnow

theorem step (invariant : Invariant state) {action : Action} {next : State}
    (hstep : system.step state action = some next) : Invariant next := by
  obtain ⟨hnow, happly⟩ := Option.ite_none_right_eq_some.mp hstep
  rw [← Option.some.inj happly]
  cases action with
  | begin now address transport random => exact invariant.begin hnow address transport random
  | connectionFailed now address attempt error random =>
    exact invariant.connectionFailed hnow address attempt error random
  | connectCompleted now address attempt =>
    exact invariant.accept hnow address
      ((state.connections.connectCompleted_cases now address attempt).imp_right And.right)
  | markConnected now address =>
    exact invariant.accept hnow address
      ((state.connections.markConnected_cases now address).imp_right And.right)
  | ended now address random => exact invariant.ended hnow address random
  | clearDue now => exact invariant.clearDue hnow
  | noteConnectionChange now address connected =>
    exact invariant.noteConnectionChange hnow address connected
  | psmUnknown now address =>
    exact invariant.update hnow address ((invariant address).mono hnow).psmUnknown
  | psmUnavailable now address =>
    exact invariant.update hnow address ((invariant address).mono hnow).psmUnavailable

end Invariant

theorem Invariant.of_reachable {state : State} (hreach : system.Reachable state) :
    Invariant state :=
  hreach.invariant Invariant.init fun _ _ _ invariant hstep ↦ invariant.step hstep

/-- A call of `begin` for a peer without an attempt changes no deadline. -/
theorem deadline_begin {state : State} {now : Instant} {address : Address}
    {transport : MessageStreamTransport} {random : UInt8}
    (hidle : (state.connections.links.lookup address).any LinkState.isConnecting = false)
    (other : Address) :
    (state.begin now address transport random).deadline other = state.deadline other := by
  have hfresh : ¬ (state.connections.links.lookup address).any (LinkState.isStale now) = true := by
    intro hstale
    rcases hlink : state.connections.links.lookup address with _ | ⟨attempt, started⟩ | start
    · rw [hlink] at hstale
      cases hstale
    · rw [hlink] at hidle
      cases hidle
    · rw [hlink] at hstale
      cases hstale
  rw [State.begin, if_neg hfresh, State.deadline, retry_begin, retry_expire, if_neg hfresh]
  rfl

/-- Dropping what is due leaves every other deadline alone. -/
theorem deadline_clearDue (state : State) (now : Instant) (other : Address) :
    (state.clearDue now).deadline other = state.deadline other ∨
      (state.clearDue now).deadline other = none ∧
        ∀ deadline, state.deadline other = some deadline → deadline ≤ now := by
  have hfilter : (state.clearDue now).deadline other =
      (state.deadline other).filter fun deadline ↦ decide (now < deadline) := by
    simp only [State.deadline, State.clearDue, RetryPolicy.peer_clearDue]
  rw [hfilter]
  cases state.deadline other with
  | none => exact .inl rfl
  | some deadline =>
    by_cases hdue : now < deadline
    · exact .inl (by simp [hdue])
    · refine .inr ⟨by simpa using Nat.le_of_not_lt hdue, ?_⟩
      intro same hsame
      rw [← Option.some.inj hsame]
      exact Nat.le_of_not_lt hdue

theorem bounded_of_reachable {state : State} (hreach : system.Reachable state) :
    Bounded state where
  delays address := (Invariant.of_reachable hreach address).budgeted
  fits address := (Invariant.of_reachable hreach address).fits
  begin_granted := by
    intro now address transport random attempt hnow hgranted
    obtain ⟨hfresh, hready⟩ := begin_granted state.connections now address hgranted
    constructor
    · rw [State.begin, hfresh]
      rfl
    · intro deadline harmed
      rcases (Invariant.of_reachable hreach address).armed deadline harmed with hafter | hdue
      · exact hready deadline hafter
      · exact Nat.le_trans hdue hnow
  begin_keeps _ _ _ _ other hidle := deadline_begin hidle other
  clearDue_keeps := deadline_clearDue state

end Backoff

end BtDaemon.FastPair
