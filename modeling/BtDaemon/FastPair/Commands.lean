import BtDaemon.FastPair.Connection

/-!
# Pending Fast Pair commands and reports

A control command reserves its key before it is sent, and waits for the acknowledgement of
that key. The generation of a reservation stands for its reply channel. The runtime and
battery reports of the peers are tables that only stream readers fill.
-/

namespace BtDaemon.FastPair

structure CommandKey where
  address : Address
  group : UInt8
  code : UInt8
  deriving DecidableEq, Repr

structure PendingCommands where
  /-- The next generation, a `u64`. -/
  sequence : ℕ
  /-- The generation that a key is reserved for. -/
  entries : Table CommandKey ℕ

namespace PendingCommands

def init : PendingCommands := ⟨0, ∅⟩

def reserve (commands : PendingCommands) (key : CommandKey) :
    Except String (PendingCommands × ℕ) :=
  if (commands.entries.lookup key).isSome then
    .error "a matching Fast Pair control command is already pending"
  else if commands.sequence = 2 ^ 64 - 1 then .error "Fast Pair command generation exhausted"
  else
    .ok (⟨commands.sequence + 1, commands.entries.insert key commands.sequence⟩,
      commands.sequence)

/-- Remove the entry of the key and name the reservation that gets the reply. -/
def resolve (commands : PendingCommands) (key : CommandKey) : PendingCommands × Option ℕ :=
  ({ commands with entries := commands.entries.erase key }, commands.entries.lookup key)

def disconnect (commands : PendingCommands) (address : Address) : PendingCommands :=
  { commands with entries := commands.entries.retain fun key _ ↦ key.address != address }

def clear (commands : PendingCommands) : PendingCommands := { commands with entries := ∅ }

/-- `Reservation::drop`: an old reservation never removes the entry of a newer one. -/
def release (commands : PendingCommands) (key : CommandKey) (generation : ℕ) : PendingCommands :=
  if commands.entries.lookup key = some generation then
    { commands with entries := commands.entries.erase key }
  else commands

theorem lookup_disconnect (commands : PendingCommands) (address : Address) (key : CommandKey) :
    (commands.disconnect address).entries.lookup key =
      if key.address = address then none else commands.entries.lookup key := by
  rw [disconnect, Table.lookup_retain]
  by_cases haddress : key.address = address <;> cases commands.entries.lookup key <;>
    simp [haddress]

end PendingCommands

structure FastPairMultipoint where
  version : UInt16
  supported : Bool
  configurable : Bool
  enabled : Bool
  audioSwitchEnabled : Bool
  deriving DecidableEq, Repr

structure FastPairNoiseControl where
  version : UInt8
  availableModes : List String
  settableModes : List String
  activeMode : Option String
  deriving DecidableEq, Repr

structure FastPairSwitchEvent where
  reason : String
  target : String
  targetName : Option String
  observedAtMs : ℕ
  deriving DecidableEq, Repr

structure RuntimeReport where
  sessionNonce : Option (BitVec 64) := none
  modelId : Option (BitVec 24) := none
  bleAddress : Option Address := none
  multipoint : Option FastPairMultipoint := none
  noiseControl : Option FastPairNoiseControl := none
  lastSwitch : Option FastPairSwitchEvent := none
  deriving DecidableEq, Repr

/-- The value and the field that `update_runtime` is called with. -/
inductive RuntimeValue where
  | sessionNonce (value : BitVec 64)
  | modelId (value : BitVec 24)
  | bleAddress (value : Address)
  | multipoint (value : FastPairMultipoint)
  | noiseControl (value : FastPairNoiseControl)
  | lastSwitch (value : FastPairSwitchEvent)
  deriving DecidableEq, Repr

def RuntimeReport.set (report : RuntimeReport) : RuntimeValue → RuntimeReport
  | .sessionNonce value => { report with sessionNonce := some value }
  | .modelId value => { report with modelId := some value }
  | .bleAddress value => { report with bleAddress := some value }
  | .multipoint value => { report with multipoint := some value }
  | .noiseControl value => { report with noiseControl := some value }
  | .lastSwitch value => { report with lastSwitch := some value }

structure BatteryReport where
  left : Option UInt8
  right : Option UInt8
  case : Option UInt8
  charging : Bool × Bool × Bool
  deriving DecidableEq, Repr

end BtDaemon.FastPair
