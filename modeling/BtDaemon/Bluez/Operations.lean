import BtDaemon.Backend
import BtDaemon.Foundation.Program
import BtDaemon.Storage.Management

/-!
# Device operations

An operation on a device is a sequence of effects on the adapter, the device, its credentials and
the local state. Each effect is a request whose answer decides how it goes on. What BlueZ answers,
and whether a step times out, is not known; a client that goes away drops the operation at any
request.
-/

namespace BtDaemon.Bluez.Operations

open Storage (DevicePolicy)

/-! ## Answers of BlueZ -/

inductive BluezErrorKind
  | alreadyConnected
  | authenticationCanceled
  | authenticationFailed
  | authenticationRejected
  | authenticationTimeout
  | notAuthorized
  | notPermitted
  | doesNotExist
  | notFound
  | notAvailable
  | notReady
  | internal
  | invalidArguments
  | invalidLength
  | invalidOffset
  | invalidAddress
  | invalidName
  | other
  deriving DecidableEq, Repr

/-- An error with its text. -/
structure BluezError where
  kind : BluezErrorKind
  text : String
  deriving DecidableEq, Repr

abbrev Reply (Found : Type) := Except BluezError Found

/-- `none` when the time is over. -/
abbrev Timed (Found : Type) := Option (Reply Found)

/-- The radio part of a snapshot. -/
structure RadioState where
  rfkillPresent : Bool
  softBlocked : Bool
  hardBlocked : Bool
  deriving DecidableEq, Repr

/-- What became of one attempt to apply the audio policy. -/
inductive AudioAttempt
  | applied
  /-- A change failed, which is not tried again. -/
  | failed (error : BackendError)
  /-- The task of the attempt is lost. -/
  | lost (error : BackendError)
  /-- PipeWire is not there yet; `late` if the deadline is over. -/
  | waiting (error : BackendError) (late : Bool)
  deriving DecidableEq, Repr

structure PolicyRequest where
  preferredProfileKey : Option String
  switchOutput : Bool
  deriving DecidableEq, Repr

/-! ## Requests -/

inductive Request
  /-- The gate of the device. -/
  | lock
  | findDevice
  | devicePolicy
  | sonyNoiseControl
  | progress (stage : String)
  | isPowered
  | snapshot
  | unblockRfkill
  | setPowered (powered : Bool)
  | forgetAccountKey
  | pair
  | notePairing
  | isPaired
  | isTrusted
  | isBlocked
  | setTrusted (trusted : Bool)
  | isConnected
  | connect
  | disconnect
  | removeDevice
  | servicesResolved
  | sleep (milliseconds : ℕ)
  | setBlocked (blocked : Bool)
  | setWakeAllowed (allowed : Bool)
  | setAlias (name : String)
  | provisionAccountKey (key : String)
  | provisionFromCatalog
  | autoProvision
  | setMultipoint (enabled : Bool)
  | setNoiseControl (mode : String)
  | sonySetNoiseControl (mode : String)
  | applyAudioPolicy (request : PolicyRequest)
  | enableFastPairControls
  | notify
  | forgetCached
  | forgetPresentation
  | forgetDevicePolicy
  | rememberSnapshot
  deriving DecidableEq, Repr

@[reducible]
def Request.Answer : Request → Type
  | .lock | .progress _ | .notePairing | .sleep _ | .notify | .forgetCached
  | .forgetPresentation | .forgetDevicePolicy | .rememberSnapshot => Unit
  | .devicePolicy => DevicePolicy
  | .sonyNoiseControl => Bool
  | .findDevice | .forgetAccountKey | .provisionAccountKey _ | .provisionFromCatalog
  | .autoProvision | .setMultipoint _ | .setNoiseControl _ | .sonySetNoiseControl _
  | .enableFastPairControls | .unblockRfkill => Except BackendError Unit
  | .snapshot => Except BackendError RadioState
  | .isPowered | .isPaired | .isTrusted | .isBlocked | .isConnected => Reply Bool
  | .setPowered _ | .setTrusted _ | .removeDevice | .setBlocked _ | .setWakeAllowed _
  | .setAlias _ => Reply Unit
  | .pair | .connect | .disconnect => Timed Unit
  | .servicesResolved => Timed Bool
  | .applyAudioPolicy _ => AudioAttempt

abbrev Operation (Found : Type) := Program Request.Answer BackendError Found

abbrev ask (request : Request) : Operation request.Answer := Program.ask request

/-! ## Errors -/

def bluezErrorKind : BluezErrorKind → BackendErrorKind
  | .authenticationCanceled | .authenticationFailed | .authenticationRejected | .notAuthorized
  | .notPermitted => .rejected
  | .authenticationTimeout => .timeout
  | .doesNotExist | .notFound => .deviceUnavailable
  | .notAvailable | .notReady | .internal => .unavailable
  | .invalidArguments | .invalidLength | .invalidOffset | .invalidAddress | .invalidName =>
    .invalidInput
  | .alreadyConnected | .other => .operationFailed

def bluezResult {Found : Type} (result : Reply Found) (operation : String) : Operation Found :=
  .ofExcept (result.mapError fun error ↦
    ⟨bluezErrorKind error.kind, operation ++ ": " ++ error.text⟩)

def operationTimeout {Found : Type} (result : Timed Found) (operation : String) :
    Operation Found :=
  match result with
  | some result => bluezResult result operation
  | none => .fail ⟨.timeout, operation ++ " timed out"⟩

def rejected {Found : Type} (message : String) : Operation Found := .fail ⟨.rejected, message⟩

/-- `bail!` -/
def bail {Found : Type} (message : String) : Operation Found := .fail ⟨.operationFailed, message⟩

/-! ## Parameters -/

abbrev Params := String → Param

def invalidInput {Found : Type} (result : Except String Found) : Operation Found :=
  .ofExcept (result.mapError fun message ↦ ⟨.invalidInput, message⟩)

def Params.optionalBool (params : Params) (name : String) : Operation (Option Bool) :=
  invalidInput (match params name with
    | .absent | .null => .ok none
    | .bool value => .ok (some value)
    | _ => .error (invalidParameter name "boolean" true))

def Params.optionalString (params : Params) (name : String) : Operation (Option String) :=
  invalidInput ((params name).optionalString name)

def Params.requireBool (params : Params) (name : String) : Operation Bool :=
  invalidInput ((params name).requireBool name)

def Params.requireString (params : Params) (name : String) : Operation String :=
  invalidInput ((params name).requireString name)

/-! ## The adapter -/

def unblockRfkill (before : RadioState) (noAdapters : Bool) : Operation Unit :=
  Program.when (before.rfkillPresent && before.softBlocked) do
    match ← ask .unblockRfkill with
    | .ok () => pure ()
    | .error error =>
      if noAdapters then rejected ("could not unblock Bluetooth through rfkill: " ++ error.message)
      else pure ()

def ensureOperationAdapterPowered (powerOn : Bool) : Operation Unit := do
  let powered ← bluezResult (← ask .isPowered) "read operation adapter power"
  if powered then pure ()
  else if !powerOn then rejected "Bluetooth adapter is powered off and power_on is disabled"
  else
    ask (.progress "powering-on")
    let before ← Program.ofExcept (← ask .snapshot)
    if before.hardBlocked then rejected "Bluetooth is disabled by a hardware radio switch"
    else
      unblockRfkill before false
      bluezResult (← ask (.setPowered true)) "power adapter for Bluetooth device operation"

/-! ## The device -/

def connectDevice (operation : String) : Operation Unit := do
  match ← ask .connect with
  | some (.error error) =>
    if error.kind = .alreadyConnected then pure () else bluezResult (.error error) operation
  | result => operationTimeout result operation

def disconnectDevice (operation : String) : Operation Unit := do
  operationTimeout (← ask .disconnect) operation

def removeDevice : Operation Unit := do
  let connected ← bluezResult (← ask .isConnected) "read device connected state"
  Program.when connected (disconnectDevice "disconnect Bluetooth device before removal")
  bluezResult (← ask .removeDevice) "remove Bluetooth device"

/-- The polls of the services, until the ten seconds are over. -/
def waitForServices : ℕ → Operation Unit
  | 0 => pure ()
  | polls + 1 => do
    match ← ask .servicesResolved with
    | some (.ok false) =>
      ask (.sleep 200)
      waitForServices polls
    | _ => pure ()

/-- Fifty sleeps of 200 ms take the ten seconds. -/
def servicePolls : ℕ := 51

def trustPaired : Operation Unit := do
  let paired ← bluezResult (← ask .isPaired) "read connect device pairing state"
  Program.when paired do
    let trusted ← bluezResult (← ask .isTrusted) "read connect device trust state"
    Program.when (!trusted) do
      ask (.progress "trusting")
      bluezResult (← ask (.setTrusted true)) "trust Bluetooth device before connecting"

def connectWorkflow (params : Params) (defaultWaitForServices : Bool) : Operation Unit := do
  let trust ← params.optionalBool "trust"
  Program.when (trust.getD false) trustPaired
  ask (.progress "connecting")
  connectDevice "connect Bluetooth device"
  let wait ← params.optionalBool "wait_for_services"
  Program.when (wait.getD defaultWaitForServices) do
    ask (.progress "resolving-services")
    waitForServices servicePolls

def pairDevice (trustAfterPair waitForServiceResolution fastPair : Bool) : Operation Unit := do
  ask (.progress "pairing")
  operationTimeout (← ask .pair) "pair Bluetooth device"
  Program.when fastPair (ask .notePairing)
  Program.when trustAfterPair do
    ask (.progress "trusting")
    bluezResult (← ask (.setTrusted true)) "trust paired Bluetooth device"
  let connected ← bluezResult (← ask .isConnected) "read device connected state"
  Program.when (!connected) do
    ask (.progress "connecting")
    connectDevice "connect paired Bluetooth device"
  Program.when waitForServiceResolution do
    ask (.progress "resolving-services")
    waitForServices servicePolls

def provisionAfterPair (publicKey : Option String) (fastPair : Bool) : Operation Unit :=
  match publicKey with
  | some publicKey =>
    if fastPair then do Program.ofExcept (← ask (.provisionAccountKey publicKey))
    else bail "Fast Pair provider is unavailable"
  | none =>
    Program.when fastPair do
      -- Pairing succeeded, whatever becomes of the optional provisioning.
      let _ ← ask .autoProvision

def pairWithPolicy (params : Params) (fastPair defaultTrustAfterPair defaultWaitForServices : Bool) :
    Operation Unit := do
  let trustAfterPair ← params.optionalBool "trust_after_pair"
  let publicKey ← params.optionalString "fast_pair_anti_spoofing_public_key"
  if publicKey.isSome && !fastPair then bail "Fast Pair provider is unavailable"
  else
    pairDevice (trustAfterPair.getD defaultTrustAfterPair) defaultWaitForServices fastPair
    provisionAfterPair publicKey fastPair

def runFastPairOperation (operation : DeviceOperation) (params : Params) (fastPair : Bool) :
    Operation Unit :=
  if !fastPair then bail "Fast Pair provider is unavailable"
  else
    match operation with
    | .provisionFastPair => do
      match ← params.optionalString "anti_spoofing_public_key" with
      | some key => Program.ofExcept (← ask (.provisionAccountKey key))
      | none => Program.ofExcept (← ask .provisionFromCatalog)
    | .setMultipoint => do
      let enabled ← params.requireBool "enabled"
      Program.ofExcept (← ask (.setMultipoint enabled))
    | .setNoiseControl => do
      let mode ← params.requireString "mode"
      Program.ofExcept (← ask (.setNoiseControl mode))
    | _ => bail "invalid Fast Pair operation group"

def runPropertyOperation (operation : DeviceOperation) (params : Params) : Operation Unit :=
  match operation with
  | .setTrusted => do
    let trusted ← params.requireBool "trusted"
    bluezResult (← ask (.setTrusted trusted)) "set trusted state"
  | .setBlocked => do
    let blocked ← params.requireBool "blocked"
    bluezResult (← ask (.setBlocked blocked)) "set blocked state"
  | .setWakeAllowed => do
    let allowed ← params.requireBool "wake_allowed"
    bluezResult (← ask (.setWakeAllowed allowed)) "set wake permission"
  | .setAlias => do
    let name ← params.requireString "alias"
    bluezResult (← ask (.setAlias name)) "set device alias"
  | .resetAlias => do bluezResult (← ask (.setAlias "")) "reset device alias"
  | _ => bail "invalid property operation group"

def runDeviceOperation (operation : DeviceOperation) (params : Params) (fastPair : Bool)
    (policy : DevicePolicy) : Operation Unit :=
  match operation with
  | .pair => pairWithPolicy params fastPair policy.trustAfterPair policy.waitForServices
  | .connect => connectWorkflow params policy.waitForServices
  | .disconnect => disconnectDevice "disconnect Bluetooth device"
  | .remove => removeDevice
  | .setTrusted | .setBlocked | .setWakeAllowed | .setAlias | .resetAlias =>
    runPropertyOperation operation params
  | .provisionFastPair | .setMultipoint | .setNoiseControl =>
    runFastPairOperation operation params fastPair

/-! ## The plan -/

structure Plan where
  operation : DeviceOperation
  powerOn : Option Bool
  routeAudio : Bool

def connects (operation : DeviceOperation) : Bool :=
  operation == .pair || operation == .connect

def audioRouteRequired (connects : Bool) (policy : DevicePolicy) : Bool :=
  connects && (policy.audioRouteOnConnect == "switch" || policy.preferredAudioProfileKey.isSome)

def Plan.new (operation : DeviceOperation) (params : Params) (policy : DevicePolicy) :
    Operation Plan := do
  if connects operation then
    let powerOn ← params.optionalBool "power_on"
    return ⟨operation, some (powerOn.getD policy.powerOnConnect), audioRouteRequired true policy⟩
  else return ⟨operation, none, audioRouteRequired false policy⟩

/-- The backend, as far as its operations differ. -/
structure Backend where
  fastPair : Bool
  sony : Bool

namespace Backend

variable (self : Backend)

def revokeCredentials : Operation Unit :=
  Program.when self.fastPair do Program.ofExcept (← ask .forgetAccountKey)

/-- The noise control of the device is one of the Sony channel. -/
def sonyNoiseControl (operation : DeviceOperation) : Operation Bool :=
  if operation = .setNoiseControl ∧ self.sony = true then ask .sonyNoiseControl else pure false

def run (operation : DeviceOperation) (params : Params) (policy : DevicePolicy) :
    Operation Unit := do
  let sony ← self.sonyNoiseControl operation
  if sony then
    let mode ← params.requireString "mode"
    Program.ofExcept (← ask (.sonySetNoiseControl mode))
  else runDeviceOperation operation params self.fastPair policy

def audioPolicyFailed (error : BackendError) : Operation Unit :=
  .fail ⟨error.kind, "apply Bluetooth per-device audio policy: " ++ error.message⟩

/-- The attempts to route the audio, with this many sleeps left before the deadline. -/
def routeAttempts (request : PolicyRequest) (sleeps : ℕ) : Operation Unit := do
  match ← ask (.applyAudioPolicy request) with
  | .applied => pure ()
  | .failed error => audioPolicyFailed error
  | .lost error => .fail error
  | .waiting error late =>
    if late then audioPolicyFailed error
    else
      match sleeps with
      | 0 => audioPolicyFailed error
      | sleeps + 1 =>
        ask (.sleep 500)
        routeAttempts request sleeps

/-- Twenty sleeps of 500 ms take the ten seconds. -/
def audioSleeps : ℕ := 20

def routeAudio (policy : DevicePolicy) : Operation Unit := do
  ask (.progress "waiting-for-audio")
  routeAttempts ⟨policy.preferredAudioProfileKey, policy.audioRouteOnConnect == "switch"⟩
    audioSleeps

def ensurePowered : Option Bool → Operation Unit
  | some powerOn => ensureOperationAdapterPowered powerOn
  | none => pure ()

def execute (plan : Plan) (params : Params) (policy : DevicePolicy) : Operation Unit := do
  ensurePowered plan.powerOn
  Program.when (plan.operation == .remove) self.revokeCredentials
  self.run plan.operation params policy
  Program.when plan.routeAudio (routeAudio policy)

def validateFastPairControlPolicy (operation : DeviceOperation) (policy : DevicePolicy) :
    Operation Unit :=
  if !policy.fastPairControlsEnabled &&
    (operation == .setMultipoint || operation == .setNoiseControl)
  then bail "Fast Pair controls are disabled for this device"
  else pure ()

/-- What is kept or forgotten of a device whose operation succeeded. -/
def settle (operation : DeviceOperation) (policy : DevicePolicy) : Operation Unit := do
  Program.when (operation == .provisionFastPair && !policy.fastPairControlsEnabled) do
    Program.ofExcept (← ask .enableFastPairControls)
    ask .notify
  Program.when (operation == .remove) do
    ask .forgetCached
    ask .forgetPresentation
    ask .forgetDevicePolicy
  let _ ← Program.ofExcept (← ask .snapshot)
  ask .rememberSnapshot

def deviceOperation (operation : DeviceOperation) (params : Params) : Operation Unit := do
  ask .lock
  Program.ofExcept (← ask .findDevice)
  let policy ← ask .devicePolicy
  let sony ← self.sonyNoiseControl operation
  Program.when (!sony) (validateFastPairControlPolicy operation policy)
  let plan ← Plan.new operation params policy
  self.execute plan params policy
  settle operation policy

end Backend

end BtDaemon.Bluez.Operations
