import BtDaemon.Foundation.Table
import BtDaemon.Foundation.Transition

/-!
# The device identity registry

The registry gives every device an opaque key. A device is named by the stable identity of its
adapter and its address; until the adapter is registered, the adapter's name stands for its
stable identity. A device that was only discovered is kept in a bounded table that is never
written to disk, and a paired one is promoted to the persisted table with the key it has.

A run records next to the registry which keys were ever used, which were promoted, what was
handed to the writer, and the key that each adapter and address was last given. The record of
a key ends when its entry is evicted or expires, when its adapter is registered again, or when
the first registration finds that the stable identity has a key for the address.
-/

namespace BtDaemon.Identity

open Transition

abbrev Address := BitVec 48

/-- Milliseconds of the monotonic clock. -/
abbrev Instant := ℕ

/-! ## Addresses and identities as text -/

def hexDigit (value : ℕ) : Char :=
  ['0', '1', '2', '3', '4', '5', '6', '7', '8', '9', 'A', 'B', 'C', 'D', 'E', 'F'].getD value '0'

def byteText (byte : ℕ) : List Char := [hexDigit (byte / 16), hexDigit (byte % 16)]

/-- Six bytes, most significant first, separated by colons. -/
def addressText (address : Address) : List Char :=
  let byte (index : ℕ) := byteText (address.toNat / 256 ^ index % 256)
  byte 5 ++ ':' :: byte 4 ++ ':' :: byte 3 ++ ':' :: byte 2 ++ ':' :: byte 1 ++ ':' :: byte 0

def identity (stable : String) (address : Address) : String :=
  stable ++ ":" ++ String.ofList (addressText address)

/-! ## The registry -/

/-- The presentations of the file are left out. -/
structure RegistryFile where
  version : ℕ
  adapters : Table String String
  devices : Table String String
  ephemeral : Table String (String × Instant)

def ephemeralLimit : ℕ := 4096

def ephemeralLifetime : ℕ := 300000

/-- What a call draws that is not in the registry: a fresh UUID, and the entry that the
iteration over the discovered devices finds to be the oldest. -/
structure Draw where
  uuid : String
  oldest : String
  deriving DecidableEq, Repr

namespace RegistryFile

variable (file : RegistryFile)

def deviceIdentity (adapter : String) (address : Address) : String :=
  identity ((file.adapters.lookup adapter).getD adapter) address

/-- The discovered devices that have not expired. -/
def unexpired (now : Instant) : Table String (String × Instant) :=
  file.ephemeral.retain fun _ entry ↦ decide (now - entry.2 < ephemeralLifetime)

def full (now : Instant) : Bool := decide (ephemeralLimit ≤ (file.unexpired now).keys.length)

def deviceKey (now : Instant) (identity : String) (draw : Draw) : RegistryFile × String :=
  match file.devices.lookup identity with
  | some key => (file, key)
  | none =>
    match file.ephemeral.lookup identity with
    | some (key, _) =>
      ({ file with ephemeral := file.ephemeral.insert identity (key, now) }, key)
    | none =>
      let kept := file.unexpired now
      let room := if file.full now then kept.erase draw.oldest else kept
      let key := "device-" ++ draw.uuid
      ({ file with ephemeral := room.insert identity (key, now) }, key)

/-- The call has to draw a new key. -/
def draws (identity : String) : Bool :=
  (file.devices.lookup identity).isNone && (file.ephemeral.lookup identity).isNone

/-- The drawn entry is one that `min_by_key` may return. -/
def Oldest (now : Instant) (draw : Draw) : Prop :=
  file.full now = false ∨ ∃ entry ∈ (file.unexpired now).lookup draw.oldest,
    ∀ other ∈ (file.unexpired now).values, entry.2 ≤ other.2

instance (now : Instant) (draw : Draw) : Decidable (file.Oldest now draw) :=
  inferInstanceAs (Decidable (_ ∨ _))

/-- The entry of the identity expires or makes room when the call draws a new key. -/
def evicts (now : Instant) (called : String) (draw : Draw) (identity : String) : Bool :=
  file.draws called && (file.devices.lookup identity).isNone &&
    (((file.unexpired now).lookup identity).isNone || (file.full now && identity = draw.oldest))

/-- Resolve and promote in one step. The result says whether the registry was changed. -/
def promoteDevice (now : Instant) (identity : String) (draw : Draw) :
    RegistryFile × String × Bool :=
  let (resolved, key) := file.deviceKey now identity draw
  if (resolved.ephemeral.lookup identity).isSome then
    ({ resolved with
      ephemeral := resolved.ephemeral.erase identity
      devices := resolved.devices.insert identity key }, key, true)
  else (resolved, key, false)

/-- The key that a call would find for the identity. -/
def held (identity : String) : Option String :=
  (file.devices.lookup identity).or ((file.ephemeral.lookup identity).map Prod.fst)

end RegistryFile

/-! ## The migration of legacy devices -/

/-- What follows the name of the adapter and a colon, if the identity begins so. -/
def legacyAddress (adapter identity : String) : Option String :=
  let text := (adapter ++ ":").toList
  if text.isPrefixOf identity.toList then
    some (String.ofList (identity.toList.drop text.length))
  else none

/-- `entry(..).or_insert(..)`. -/
def orInsert (devices : Table String String) (entry : String × String) : Table String String :=
  if (devices.lookup entry.1).isSome then devices else devices.insert entry.1 entry.2

def migrateLegacyDevices (file : RegistryFile) (adapter stable : String) : RegistryFile :=
  let legacy := file.devices.entries.filterMap fun entry ↦
    (legacyAddress adapter entry.1).map fun address ↦ (stable ++ ":" ++ address, entry.2)
  let others := file.devices.retain fun identity _ ↦ (legacyAddress adapter identity).isNone
  { file with devices := legacy.foldl orInsert others }

/-! ## Runs -/

structure State where
  registry : RegistryFile
  now : Instant
  /-- Every key that was ever in the registry. -/
  issued : List String
  promoted : List String
  /-- The states that were handed to the writer, oldest first. -/
  scheduled : List RegistryFile
  returned : Table (String × Address) String

inductive Action where
  | advance (elapsed : ℕ)
  | registerAdapter (adapter stable : String)
  | deviceKey (adapter : String) (address : Address) (draw : Draw)
  | promoteDevice (adapter : String) (address : Address) (draw : Draw)

namespace State

variable (self : State)

/-- A registry that was just loaded. Discovered devices are not in the file. -/
def load (stored : RegistryFile) : State where
  registry := { stored with ephemeral := ∅ }
  now := 0
  issued := stored.devices.values
  promoted := stored.devices.values
  scheduled := []
  returned := ∅

/-- A copy without the discovered devices is handed to the writer. -/
def persist (registry : RegistryFile) : State :=
  { self with
    registry := registry
    scheduled := self.scheduled ++ [{ registry with ephemeral := ∅ }] }

/-- The records that a registration leaves. -/
def retained (adapter stable : String) : Table (String × Address) String :=
  self.returned.retain fun peer _ ↦ peer.1 ≠ adapter ||
    ((self.registry.adapters.lookup adapter).isNone &&
      (self.registry.held (identity stable peer.2)).isNone)

def registerAdapter (adapter stable : String) : State :=
  if self.registry.adapters.lookup adapter = some stable then self
  else
    let registered :=
      { self.registry with adapters := self.registry.adapters.insert adapter stable }
    let migrated :=
      if (self.registry.adapters.lookup adapter).isNone then
        migrateLegacyDevices registered adapter stable
      else registered
    { self.persist migrated with returned := self.retained adapter stable }

/-- The records after a call: those of evicted entries end, and the answer is recorded. -/
def recorded (adapter : String) (address : Address) (draw : Draw) (key : String) :
    Table (String × Address) String :=
  let called := self.registry.deviceIdentity adapter address
  (self.returned.retain fun peer _ ↦
    !self.registry.evicts self.now called draw (self.registry.deviceIdentity peer.1 peer.2)).insert
      (adapter, address) key

def deviceKey (adapter : String) (address : Address) (draw : Draw) : State :=
  let (registry, key) :=
    self.registry.deviceKey self.now (self.registry.deviceIdentity adapter address) draw
  { self with
    registry := registry
    issued := key :: self.issued
    returned := self.recorded adapter address draw key }

def promoteDevice (adapter : String) (address : Address) (draw : Draw) : State :=
  let (registry, key, changed) :=
    self.registry.promoteDevice self.now (self.registry.deviceIdentity adapter address) draw
  let resolved := { self with
    registry := registry
    issued := key :: self.issued
    returned := self.recorded adapter address draw key }
  if changed then { resolved.persist registry with promoted := key :: self.promoted }
  else resolved

/-- A UUID is fresh when it is used, and the oldest entry is found when it is evicted. -/
def Draws (adapter : String) (address : Address) (draw : Draw) : Prop :=
  self.registry.draws (self.registry.deviceIdentity adapter address) = false ∨
    ("device-" ++ draw.uuid ∉ self.issued ∧ self.registry.Oldest self.now draw)

instance (adapter : String) (address : Address) (draw : Draw) :
    Decidable (self.Draws adapter address draw) :=
  inferInstanceAs (Decidable (_ ∨ _))

end State

/-- The registry that was loaded from a file. -/
def registry (stored : RegistryFile) : System State Action where
  init := State.load stored
  step self action :=
    match action with
    | .advance elapsed => some { self with now := self.now + elapsed }
    | .registerAdapter adapter stable => some (self.registerAdapter adapter stable)
    | .deviceKey adapter address draw =>
      if self.Draws adapter address draw then some (self.deviceKey adapter address draw) else none
    | .promoteDevice adapter address draw =>
      if self.Draws adapter address draw then some (self.promoteDevice adapter address draw)
      else none

end BtDaemon.Identity
