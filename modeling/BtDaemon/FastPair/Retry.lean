import BtDaemon.Foundation.Table

/-!
# The Fast Pair retry policy

Retry state is kept per peer and is scoped to a physical connection. A peer that is still
settling gets a few quick retries; every other failure backs off exponentially, with jitter.
The instants are milliseconds of one monotonic clock, and the random byte that a call draws
for its jitter is an argument of the call.
-/

namespace BtDaemon.VendorChannel

/-- The kinds of `bluer::Error` that the busy test tells apart. -/
inductive BluezErrorKind where
  | inProgress
  | failed
  | other
  deriving DecidableEq, Repr

/-- A connection error, by what `downcast_ref::<bluer::Error>` finds in it. -/
inductive ConnectionError where
  | bluez (kind : BluezErrorKind) (message : String)
  | other (message : String)
  deriving DecidableEq, Repr

def isConnectionBusy : ConnectionError → Bool
  | .bluez kind message =>
    kind == .inProgress || (kind == .failed && message == "br-connection-busy")
  | .other _ => false

end BtDaemon.VendorChannel

namespace BtDaemon.FastPair

open VendorChannel

abbrev Address := BitVec 48

/-- Milliseconds of the monotonic clock. -/
abbrev Instant := ℕ

def busyRetryMs : List ℕ := [250, 500, 1000, 1000, 1000, 1000]

@[ext]
structure PeerRetry where
  failures : ℕ := 0
  busyAttempts : ℕ := 0
  after : Option Instant := none
  unknownPsm : ℕ := 0
  unavailablePsm : Bool := false
  deriving DecidableEq, Repr

namespace PeerRetry

/-- Both counters saturate at the bound of their type, `u32` and `u8`. -/
def failed (peer : PeerRetry) (now : Instant) (random : UInt8) : PeerRetry :=
  let seconds := min (15 * 2 ^ min peer.failures 5) 300
  let jitter := random.toNat % (seconds / 5 + 1)
  { peer with
    failures := min (peer.failures + 1) (2 ^ 32 - 1)
    after := some (now + (seconds + jitter) * 1000) }

def connectionFailed (peer : PeerRetry) (now : Instant) (error : ConnectionError)
    (random : UInt8) : PeerRetry :=
  match isConnectionBusy error, busyRetryMs[peer.busyAttempts]? with
  | true, some millis =>
    { peer with busyAttempts := peer.busyAttempts + 1, after := some (now + millis) }
  | _, _ => peer.failed now random

def psmUnknown (peer : PeerRetry) : PeerRetry :=
  let unknownPsm := min (peer.unknownPsm + 1) (2 ^ 8 - 1)
  { peer with
    unknownPsm := unknownPsm
    unavailablePsm := peer.unavailablePsm || decide (3 ≤ unknownPsm) }

def psmUnavailable (peer : PeerRetry) : PeerRetry := { peer with unavailablePsm := true }

theorem psmUnknown_eq_self_iff {peer : PeerRetry} :
    peer.psmUnknown = peer ↔ peer.unavailablePsm = true ∧ peer.unknownPsm = 2 ^ 8 - 1 := by
  constructor
  · intro hfixed
    have hcount : min (peer.unknownPsm + 1) (2 ^ 8 - 1) = peer.unknownPsm :=
      congrArg PeerRetry.unknownPsm hfixed
    have hlimit : (peer.unavailablePsm || decide (3 ≤ min (peer.unknownPsm + 1) (2 ^ 8 - 1))) =
        peer.unavailablePsm := congrArg PeerRetry.unavailablePsm hfixed
    have hbound : peer.unknownPsm = 2 ^ 8 - 1 := by omega
    refine ⟨?_, hbound⟩
    simpa [hbound] using hlimit
  · rintro ⟨hunavailable, hcount⟩
    simp [psmUnknown, hcount, hunavailable, PeerRetry.ext_iff]

theorem psmUnavailable_eq_self_iff {peer : PeerRetry} :
    peer.psmUnavailable = peer ↔ peer.unavailablePsm = true := by
  constructor
  · intro hfixed
    exact (congrArg PeerRetry.unavailablePsm hfixed).symm
  · intro hunavailable
    simp [psmUnavailable, hunavailable, PeerRetry.ext_iff]

end PeerRetry

structure RetryPolicy where
  peers : Table Address PeerRetry

namespace RetryPolicy

def init : RetryPolicy := ⟨∅⟩

def ready (retry : RetryPolicy) (now : Instant) (address : Address) : Bool :=
  match (retry.peers.lookup address).bind PeerRetry.after with
  | some deadline => decide (deadline ≤ now)
  | none => true

def nextDeadline (retry : RetryPolicy) : Option Instant :=
  (retry.peers.values.filterMap PeerRetry.after).min?

def clearDue (retry : RetryPolicy) (now : Instant) : RetryPolicy :=
  ⟨retry.peers.mapValues fun peer ↦
    { peer with after := peer.after.filter fun deadline ↦ decide (now < deadline) }⟩

/-- Change the entry of a peer, which is created when it is missing. -/
def update (retry : RetryPolicy) (address : Address) (change : PeerRetry → PeerRetry) :
    RetryPolicy :=
  ⟨retry.peers.update address {} change⟩

def connectionFailed (retry : RetryPolicy) (now : Instant) (address : Address)
    (error : ConnectionError) (random : UInt8) : RetryPolicy :=
  retry.update address fun peer ↦ peer.connectionFailed now error random

def failed (retry : RetryPolicy) (now : Instant) (address : Address) (random : UInt8) :
    RetryPolicy :=
  retry.update address fun peer ↦ peer.failed now random

/-- A stream clears the deadline of an entry that exists. -/
def connected (retry : RetryPolicy) (address : Address) : RetryPolicy :=
  ⟨retry.peers.modify address fun peer ↦ { peer with after := none }⟩

def l2capAllowed (retry : RetryPolicy) (address : Address) : Bool :=
  match retry.peers.lookup address with
  | some peer => !peer.unavailablePsm
  | none => true

def psmUnknown (retry : RetryPolicy) (address : Address) : RetryPolicy :=
  retry.update address PeerRetry.psmUnknown

def psmUnavailable (retry : RetryPolicy) (address : Address) : RetryPolicy :=
  retry.update address PeerRetry.psmUnavailable

def resetSession (retry : RetryPolicy) (address : Address) : RetryPolicy :=
  ⟨retry.peers.erase address⟩

theorem lookup_update (retry : RetryPolicy) (address other : Address)
    (change : PeerRetry → PeerRetry) :
    (retry.update address change).peers.lookup other =
      if other = address then some (change ((retry.peers.lookup address).getD {}))
      else retry.peers.lookup other :=
  Table.lookup_update ..

/-- An update keeps the entry when there is one and the change does nothing to it. -/
theorem lookup_update_eq_iff {retry : RetryPolicy} {address : Address}
    {change : PeerRetry → PeerRetry} :
    (retry.update address change).peers.lookup address = retry.peers.lookup address ↔
      ∃ peer, retry.peers.lookup address = some peer ∧ change peer = peer := by
  rw [lookup_update, if_pos rfl]
  cases retry.peers.lookup address with
  | none => simp
  | some peer => simp

end RetryPolicy

end BtDaemon.FastPair
