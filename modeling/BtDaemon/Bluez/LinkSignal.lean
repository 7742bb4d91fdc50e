import BtDaemon.Foundation.Transition
import BtDaemon.Foundation.Table
import Mathlib.Data.Finset.Insert

/-!
# Link signal readings

The monitor asks a helper for the RSSI of the connected peers and keeps the last sample of each
peer. A poll carries the epoch that it began with as its token. An invalidation fences the
replies of one peer, or of every peer of one adapter, until the next poll begins, and a suspend
retires every token. Every method is an atomic step under one lock, and what it reads of the
clocks is an argument.
-/

namespace BtDaemon.Bluez.LinkSignal

open Transition

abbrev Address := BitVec 48

/-- Nanoseconds of the monotonic clock. An instant may lie before the origin of the clock. -/
abbrev Instant := ℤ

def failureBackoff : ℕ := 30 * 1000000000

def liveTtl : ℕ := 12 * 1000000000

def cacheTtl : ℕ := 300 * 1000000000

/-- `elapsed`, which is zero for an instant in the future. -/
def elapsed (now since : Instant) : ℕ := (now - since).toNat

abbrev Key := String × Address

inductive RssiKind where
  | dbm
  | brEdrRelative
  deriving DecidableEq, Repr

structure Reading where
  rssi : Int16
  kind : RssiKind
  lastSeenMs : UInt64
  live : Bool
  deriving DecidableEq

structure Entry where
  reading : Option Reading
  observed : Instant
  attempted : Instant
  succeeded : Bool
  deriving DecidableEq

namespace Entry

/-- What an invalidation and a suspend do to an entry. -/
def disturb (self : Entry) (now : Instant) : Entry :=
  { self with succeeded := false, attempted := now - failureBackoff }

/-- What an accepted reply does to an entry. -/
def record (self : Entry) (now : Instant) (unixTimeMs : UInt64) :
    Option (Int16 × RssiKind) → Entry
  | some (rssi, kind) =>
    { attempted := now, succeeded := true, observed := now,
      reading := some ⟨rssi, kind, unixTimeMs, true⟩ }
  | none => { self with attempted := now, succeeded := false }

/-- The last successful sample, with the instant from which it ages. -/
def sample (self : Entry) : Option (Reading × Instant) :=
  self.reading.map fun reading ↦ (reading, self.observed)

@[simp]
theorem sample_disturb (self : Entry) (now : Instant) : (self.disturb now).sample = self.sample :=
  rfl

@[simp]
theorem sample_record_none (self : Entry) (now : Instant) (unixTimeMs : UInt64) :
    (self.record now unixTimeMs none).sample = self.sample := rfl

end Entry

/-- Whether an invalidation is about this peer. -/
def covers (adapter : String) (address : Option Address) (key : Key) : Bool :=
  key.1 == adapter && address.all fun address ↦ address == key.2

structure Signals where
  entries : Table Key Entry
  epoch : UInt64
  invalidatedDevices : Finset Key
  invalidatedAdapters : Finset String

namespace Signals

def init : Signals := ⟨∅, 0, ∅, ∅⟩

variable (self : Signals)

def get (now : Instant) (adapter : String) (address : Address) (connected : Bool) :
    Option Reading := do
  let entry ← self.entries.lookup (adapter, address)
  let reading ← entry.reading
  if elapsed now entry.observed > cacheTtl then none
  else
    some { reading with
      live := connected && entry.succeeded && decide (elapsed now entry.observed ≤ liveTtl) }

def invalidate (now : Instant) (adapter : String) (address : Option Address) : Signals :=
  { self with
    invalidatedDevices :=
      match address with
      | some address => insert (adapter, address) self.invalidatedDevices
      | none => self.invalidatedDevices
    invalidatedAdapters :=
      match address with
      | some _ => self.invalidatedAdapters
      | none => insert adapter self.invalidatedAdapters
    entries := self.entries.mapEntries fun key entry ↦
      if covers adapter address key then entry.disturb now else entry }

def suspend (now : Instant) : Signals :=
  { self with
    epoch := self.epoch + 1
    entries := self.entries.mapValues fun entry ↦ entry.disturb now }

def beginPoll : Signals × UInt64 :=
  ({ self with epoch := self.epoch + 1, invalidatedDevices := ∅, invalidatedAdapters := ∅ },
    self.epoch + 1)

/-- The part of `current` that is about the peer. -/
def unfenced (key : Key) : Bool :=
  decide (key ∉ self.invalidatedDevices) && decide (key.1 ∉ self.invalidatedAdapters)

def current (key : Key) (epoch : UInt64) : Bool := epoch == self.epoch && self.unfenced key

def due (now : Instant) (key : Key) : Bool :=
  (self.entries.lookup key).all fun entry ↦
    entry.succeeded || decide (elapsed now entry.attempted ≥ failureBackoff)

/-- The entry that a reply for this peer is recorded in. -/
def entryOr (now : Instant) (key : Key) : Entry :=
  (self.entries.lookup key).getD ⟨none, now, now, false⟩

def accept (now : Instant) (unixTimeMs : UInt64) (key : Key) (epoch : UInt64)
    (reading : Option (Int16 × RssiKind)) : Signals :=
  if self.current key epoch then
    { self with
      entries := self.entries.insert key ((self.entryOr now key).record now unixTimeMs reading) }
  else self

/-- The ageing of the entries, before the loop of the monitor begins a poll. -/
def age (now : Instant) : Signals :=
  { self with
    entries :=
      (self.entries.mapValues fun entry ↦
        if elapsed now entry.observed > cacheTtl then { entry with reading := none } else entry
      ).retain fun _ entry ↦ decide (elapsed now entry.attempted ≤ cacheTtl) }

/-- The last successful sample of a peer. -/
def sample (key : Key) : Option (Reading × Instant) :=
  (self.entries.lookup key).bind Entry.sample

end Signals

/-! ## The helper's answers -/

inductive Reply where
  | reading (rssi : Int16)
  | notConnected
  | unavailable
  | denied
  deriving DecidableEq, Repr

/-- What `poll_peer` makes of an answer. The flag says whether the reading is a relative one. -/
def readingOf : Except String (Reply × Bool) → Option (Int16 × RssiKind)
  | .ok (.reading rssi, true) => some (rssi, .brEdrRelative)
  | .ok (.reading rssi, false) => some (rssi, .dbm)
  | .ok _ => none
  | .error _ => none

/-! ## Interleavings -/

structure State where
  signals : Signals
  /-- The tokens of the polls that began. -/
  polls : List UInt64

inductive Action where
  | age (now : Instant)
  | beginPoll
  | accept (key : Key) (epoch : UInt64) (answer : Except String (Reply × Bool)) (now : Instant)
      (unixTimeMs : UInt64)
  | invalidate (adapter : String) (address : Option Address) (now : Instant)
  | suspend (now : Instant)

/-- A reply carries the token of a poll that began, whatever happened since. -/
def step (state : State) : Action → Option State
  | .age now => some { state with signals := state.signals.age now }
  | .beginPoll =>
    some ⟨state.signals.beginPoll.1, state.signals.beginPoll.2 :: state.polls⟩
  | .accept key epoch answer now unixTimeMs =>
    if epoch ∈ state.polls then
      some { state with
        signals := state.signals.accept now unixTimeMs key epoch (readingOf answer) }
    else none
  | .invalidate adapter address now =>
    some { state with signals := state.signals.invalidate now adapter address }
  | .suspend now => some { state with signals := state.signals.suspend now }

def system : System State Action := ⟨⟨Signals.init, []⟩, step⟩

namespace Action

/-- The steps that retire the tokens handed out before. -/
def retires : Action → Bool
  | .beginPoll | .suspend _ => true
  | .age _ | .accept .. | .invalidate .. => false

/-- The steps that end the validity of the samples of a peer. -/
def disturbs (key : Key) : Action → Bool
  | .invalidate adapter address _ => covers adapter address key
  | .suspend _ => true
  | .age _ | .beginPoll | .accept .. => false

/-- The steps after which a reply for the peer comes too late. -/
def fences (key : Key) (action : Action) : Bool := action.retires || action.disturbs key

end Action

end BtDaemon.Bluez.LinkSignal
