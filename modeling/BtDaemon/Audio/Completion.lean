import BtDaemon.Audio.Device
import BtDaemon.Foundation.Table
import BtDaemon.Foundation.Text

/-!
# PipeWire objects and the completion of a change

A change is made by callbacks. They recognize the target by its global identifier, its serial
and the transport identity of its device, and they share one completion: it keeps the first
success until a failure replaces it, and a failure for good.
-/

namespace BtDaemon.Audio

open Text (eqIgnoreAsciiCase)

/-! ## Objects of the audio server -/

/-- The string properties of an object. -/
abbrev Dict := List (String × String)

def Dict.get (self : Dict) (key : String) : Option String := List.lookup key self

inductive ObjectType where
  | device
  | node
  | metadata
  | other
  deriving DecidableEq

/-- A global as the registry announces it. -/
structure Global where
  id : UInt32
  type : ObjectType
  props : Option Dict

/-- `str::parse` for an unsigned type whose values lie below the bound. -/
def parseUnsigned (bound : ℕ) (value : String) : Option ℕ :=
  let digits := match value.toList with
    | '+' :: rest => rest
    | digits => digits
  if digits.isEmpty || !digits.all Char.isDigit then none
  else
    let number := digits.foldl (fun number digit ↦ number * 10 + (digit.toNat - '0'.toNat)) 0
    if number < bound then some number else none

def parseU32 (value : String) : Option UInt32 :=
  (parseUnsigned UInt32.size value).map UInt32.ofNat

def parseU64 (value : String) : Option UInt64 :=
  (parseUnsigned UInt64.size value).map UInt64.ofNat

/-- The kind of the objects that an operation keeps alive with their listeners. -/
inductive Listener where
  | device
  | metadata
  deriving DecidableEq

abbrev Objects := Table UInt32 Listener

/-! ## Identity -/

structure DeviceIdentity where
  id : UInt32
  serial : Option UInt64
  adapter : String
  address : String
  deriving DecidableEq

def objectMatches (global : Global) (id : UInt32) (serial : Option UInt64) : Bool :=
  global.id == id && serial.isSome &&
    (global.props.bind fun props ↦ props.get "object.serial").bind parseU64 == serial

def adapterFromBluezPath (path : String) : Option String :=
  ((path.toList.splitOn '/').find? fun part ↦ "hci".toList.isPrefixOf part).map String.ofList

def devicePropertiesMatch (adapter address : String) (properties : Dict) : Bool :=
  (properties.get "api.bluez5.address").any (eqIgnoreAsciiCase · address) &&
    (properties.get "api.bluez5.path").bind adapterFromBluezPath == some adapter

/-- A global that a change takes for the device of its target. -/
structure IsDevice (device : DeviceIdentity) (global : Global) : Prop where
  type : global.type = .device
  matched : objectMatches global device.id device.serial = true

/-- The identifier was announced for the device of the target. -/
def Announced (device : DeviceIdentity) (globals : List Global) (id : UInt32) : Prop :=
  ∃ global ∈ globals, IsDevice device global ∧ global.id = id

theorem Announced.append {device : DeviceIdentity} {globals : List Global} {id : UInt32}
    (hannounced : Announced device globals id) (later : List Global) :
    Announced device (globals ++ later) id := by
  obtain ⟨global, hmem, hdevice⟩ := hannounced
  exact ⟨global, List.mem_append_left later hmem, hdevice⟩

/-! ## Completion -/

/-- The outcome of an operation, once there is one. -/
abbrev Completion := Option (Except String Unit)

namespace Completion

def succeed (self : Completion) : Completion :=
  if self.isNone then some (.ok ()) else self

def failed : Completion → Bool
  | some (.error _) => true
  | _ => false

/-- A failure replaces a success of the same dispatch batch. -/
def fail (_ : Completion) (error : String) : Completion := some (.error error)

/-- The error that `watch_core` records. -/
def coreError (self : Completion) (id : UInt32) (code : Int32) (message : String) : Completion :=
  self.fail s!"PipeWire object {id} error ({code}): {message}"

/-- What `wait` returns when the loop ends. -/
def wait : Completion → Except String Bool
  | some (.ok ()) => .ok true
  | some (.error error) => .error error
  | none => .ok false

theorem failed_iff {self : Completion} :
    self.failed = true ↔ ∃ error, self = some (.error error) := by
  cases self with
  | none => simp [failed]
  | some result => cases result <;> simp [failed]

@[simp]
theorem failed_succeed (self : Completion) : self.succeed.failed = self.failed := by
  cases self <;> rfl

theorem wait_eq_true {self : Completion} : self.wait = .ok true ↔ self = some (.ok ()) := by
  cases self with
  | none => simp [wait]
  | some result => cases result <;> simp [wait]

theorem wait_of_failed {self : Completion} (hfailed : self.failed = true) :
    ∃ error, self.wait = .error error := by
  obtain ⟨error, rfl⟩ := failed_iff.mp hfailed
  exact ⟨error, rfl⟩

end Completion

/-! ## Writes -/

/-- There is one write when the flag is set, and none otherwise. -/
def Counted {Write : Type} (written : Bool) (sent : List Write) : Prop :=
  sent.length = written.toNat

namespace Counted

variable {Write : Type} {written : Bool} {sent : List Write}

theorem le_one (counted : Counted written sent) : sent.length ≤ 1 := by
  rw [counted]
  exact Bool.toNat_le written

theorem eq_nil (counted : Counted written sent) (hwritten : written = false) : sent = [] := by
  rw [← List.length_eq_zero_iff, counted, hwritten]
  rfl

theorem ne_nil (counted : Counted written sent) (hwritten : written = true) : sent ≠ [] := by
  rw [← List.length_pos_iff, counted, hwritten]
  exact Nat.one_pos

theorem concat (counted : Counted written sent) (hwritten : written = false) (write : Write) :
    Counted true (sent ++ [write]) := by
  rw [counted.eq_nil hwritten]
  rfl

end Counted

end BtDaemon.Audio
