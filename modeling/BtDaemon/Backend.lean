import Mathlib.Data.Nat.Notation

/-!
# Requests, failures and snapshots at the backend boundary

The coordinators of the daemon talk to one `BluetoothBackend`. What they read of its
answers is small: a snapshot shows the power and discovery state of each adapter, and a
failure has a stable kind that decides the error code a client sees.
-/

namespace BtDaemon

inductive BackendErrorKind where
  | timeout
  | deviceUnavailable
  | rejected
  | unavailable
  | invalidInput
  | operationFailed
  deriving DecidableEq, Repr

def BackendErrorKind.code : BackendErrorKind → String
  | .timeout => "timeout"
  | .deviceUnavailable => "device-unavailable"
  | .rejected => "rejected"
  | .unavailable => "bluez-unavailable"
  | .invalidInput => "validation-error"
  | .operationFailed => "operation-failed"

def BackendErrorKind.retryable : BackendErrorKind → Bool
  | .timeout | .deviceUnavailable | .unavailable => true
  | _ => false

/-- An `anyhow` error chain: the kind of the first classified cause (`operationFailed`
when there is none) and the text of the whole chain. -/
structure BackendError where
  kind : BackendErrorKind
  message : String
  deriving DecidableEq, Repr

/-- What a request holds under the name of a parameter. Numbers outside `u64`, arrays and
objects are among the others. -/
inductive Param where
  | absent
  | null
  | bool (value : Bool)
  | string (value : String)
  | unsigned (value : ℕ)
  | other
  deriving DecidableEq, Repr

def invalidParameter (name expected : String) (isOptional : Bool) : String :=
  (if isOptional then "invalid optional" else "missing or invalid") ++
    " " ++ expected ++ " parameter '" ++ name ++ "'"

def Param.optionalString (name : String) : Param → Except String (Option String)
  | .absent | .null => .ok none
  | .string value =>
    if value = "" then .error (invalidParameter name "string" true) else .ok (some value)
  | _ => .error (invalidParameter name "string" true)

def Param.requireString (name : String) : Param → Except String String
  | .string value =>
    if value = "" then .error (invalidParameter name "string" false) else .ok value
  | _ => .error (invalidParameter name "string" false)

def Param.requireBool (name : String) : Param → Except String Bool
  | .bool value => .ok value
  | _ => .error (invalidParameter name "boolean" false)

/-- `Value::as_str`, with the empty string in place of none. -/
def Param.asStr : Param → String
  | .string value => value
  | _ => ""

/-- The error part of a response envelope. `retryable` is present only on backend failures. -/
structure ApiError where
  code : String
  message : String
  retryable : Option Bool
  deriving DecidableEq, Repr

def error (code message : String) : ApiError := ⟨code, message, none⟩

def errorValue (failure : BackendError) : ApiError :=
  ⟨failure.kind.code, failure.message, some failure.kind.retryable⟩

structure Adapter where
  key : String
  powered : Bool
  discovering : Bool
  deriving DecidableEq, Repr

structure Snapshot where
  adapters : List Adapter
  deriving DecidableEq, Repr

inductive DeviceOperation where
  | pair
  | connect
  | disconnect
  | remove
  | setTrusted
  | setBlocked
  | setWakeAllowed
  | setAlias
  | resetAlias
  | provisionFastPair
  | setMultipoint
  | setNoiseControl
  deriving DecidableEq, Repr

def DeviceOperation.asStr : DeviceOperation → String
  | .pair => "pair"
  | .connect => "connect"
  | .disconnect => "disconnect"
  | .remove => "remove"
  | .setTrusted => "set-trusted"
  | .setBlocked => "set-blocked"
  | .setWakeAllowed => "set-wake-allowed"
  | .setAlias => "set-alias"
  | .resetAlias => "reset-alias"
  | .provisionFastPair => "provision-fast-pair"
  | .setMultipoint => "set-multipoint"
  | .setNoiseControl => "set-noise-control"

end BtDaemon
