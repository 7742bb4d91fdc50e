import BtDaemon.Storage.JsonFile

/-!
# The management store

Global defaults, overrides per device and the remembered runtime state, each in a file of its
own. A patch is what a client sends: an object of new values, where `null` clears an override.
A call also reads whether its write succeeds.
-/

namespace BtDaemon.Storage

/-- A JSON value, as far as the patches tell values apart. -/
inductive Value where
  | null
  | bool (flag : Bool)
  | string (text : String)
  | other
  deriving DecidableEq, Repr

namespace Value

def asBool : Value → Option Bool
  | .bool flag => some flag
  | _ => none

def asString : Value → Option String
  | .string text => some text
  | _ => none

end Value

/-- `Option::context`: the error that stands for a missing value. -/
def context {Found : Type} (found : Option Found) (message : String) : Except String Found :=
  match found with
  | some found => .ok found
  | none => .error message

/-- What `as_object` returns for the values of a patch. -/
abbrev Patch := Option (Table String Value)

def policyVersion : UInt8 := 1

def runtimeVersion : UInt8 := 1

def devicePolicyVersion : UInt8 := 1

def validateLaunchState (value : String) : Except String Unit :=
  if ["remember", "enable", "disable"].contains value then .ok ()
  else .error "launch_state must be remember, enable, or disable"

structure ManagementPolicy where
  version : UInt8 := policyVersion
  launchState : String := "remember"
  reconnectOnResume : Bool := true
  trustAfterPair : Bool := true
  preferredAdapterKey : String := ""
  showBlockedDevices : Bool := false
  showRecentDevices : Bool := false
  deriving DecidableEq, Repr

instance : Setoid ManagementPolicy := exact ManagementPolicy

namespace ManagementPolicy

/-- One turn of the loop of `apply`. -/
def set (policy : ManagementPolicy) (name : String) (value : Value) :
    Except String ManagementPolicy :=
  let flag (change : Bool → ManagementPolicy) : Except String ManagementPolicy :=
    (context value.asBool (name ++ " must be a boolean")).map change
  match name with
  | "launch_state" => do
    let text ← context value.asString "launch_state must be a string"
    validateLaunchState text
    return { policy with launchState := text }
  | "preferred_adapter_key" =>
    (context value.asString "preferred_adapter_key must be a string").map fun text ↦
      { policy with preferredAdapterKey := text }
  | "reconnect_on_resume" => flag fun value ↦ { policy with reconnectOnResume := value }
  | "trust_after_pair" => flag fun value ↦ { policy with trustAfterPair := value }
  | "show_blocked_devices" => flag fun value ↦ { policy with showBlockedDevices := value }
  | "show_recent_devices" => flag fun value ↦ { policy with showRecentDevices := value }
  | _ => .error ("unsupported management setting '" ++ name ++ "'")

def apply (policy : ManagementPolicy) (object : Table String Value) :
    Except String ManagementPolicy :=
  object.entries.foldlM (fun policy entry ↦ policy.set entry.1 entry.2) policy

end ManagementPolicy

structure DevicePolicy where
  reconnectOnResume : Bool
  trustAfterPair : Bool
  powerOnConnect : Bool
  waitForServices : Bool
  fastPairControlsEnabled : Bool
  audioRouteOnConnect : String
  preferredAudioProfileKey : Option String
  deriving DecidableEq, Repr

structure DevicePolicyOverrides where
  reconnectOnResume : Option Bool := none
  trustAfterPair : Option Bool := none
  powerOnConnect : Option Bool := none
  waitForServices : Option Bool := none
  fastPairControlsEnabled : Option Bool := none
  audioRouteOnConnect : Option String := none
  preferredAudioProfileKey : Option String := none
  deriving DecidableEq, Repr

def optionalValue {Parsed : Type} (value : Value) (name : String)
    (parse : Value → Option Parsed) (expected : String) : Except String (Option Parsed) :=
  match value with
  | .null => .ok none
  | value => (context (parse value) (name ++ " must be " ++ expected)).map some

namespace DevicePolicyOverrides

def effective (overrides : DevicePolicyOverrides) (policy : ManagementPolicy) : DevicePolicy where
  reconnectOnResume := overrides.reconnectOnResume.getD policy.reconnectOnResume
  trustAfterPair := overrides.trustAfterPair.getD policy.trustAfterPair
  powerOnConnect := overrides.powerOnConnect.getD true
  waitForServices := overrides.waitForServices.getD true
  fastPairControlsEnabled := overrides.fastPairControlsEnabled.getD true
  audioRouteOnConnect := overrides.audioRouteOnConnect.getD "keep"
  preferredAudioProfileKey := overrides.preferredAudioProfileKey

/-- One turn of the loop of `apply`. -/
def set (overrides : DevicePolicyOverrides) (name : String) (value : Value) :
    Except String DevicePolicyOverrides :=
  let flag (change : Option Bool → DevicePolicyOverrides) : Except String DevicePolicyOverrides :=
    (optionalValue value name Value.asBool "a boolean or null").map change
  match name with
  | "audio_route_on_connect" =>
    (optionalValue value name
      (fun value ↦ value.asString.filter fun text ↦ ["keep", "switch"].contains text)
      "keep, switch, or null").map fun value ↦ { overrides with audioRouteOnConnect := value }
  | "preferred_audio_profile_key" =>
    (optionalValue value name (fun value ↦ value.asString.filter fun text ↦ text ≠ "")
      "a non-empty string or null").map fun value ↦
        { overrides with preferredAudioProfileKey := value }
  | "reconnect_on_resume" => flag fun value ↦ { overrides with reconnectOnResume := value }
  | "trust_after_pair" => flag fun value ↦ { overrides with trustAfterPair := value }
  | "power_on_connect" => flag fun value ↦ { overrides with powerOnConnect := value }
  | "wait_for_services" => flag fun value ↦ { overrides with waitForServices := value }
  | "fast_pair_controls_enabled" =>
    flag fun value ↦ { overrides with fastPairControlsEnabled := value }
  | _ => .error ("unsupported per-device management setting '" ++ name ++ "'")

def apply (overrides : DevicePolicyOverrides) (object : Table String Value) :
    Except String DevicePolicyOverrides :=
  object.entries.foldlM (fun overrides entry ↦ overrides.set entry.1 entry.2) overrides

/-- The override of the given name, as a JSON value. -/
def entry (overrides : DevicePolicyOverrides) (name : String) : Option Value :=
  match name with
  | "audio_route_on_connect" => overrides.audioRouteOnConnect.map .string
  | "preferred_audio_profile_key" => overrides.preferredAudioProfileKey.map .string
  | "reconnect_on_resume" => overrides.reconnectOnResume.map .bool
  | "trust_after_pair" => overrides.trustAfterPair.map .bool
  | "power_on_connect" => overrides.powerOnConnect.map .bool
  | "wait_for_services" => overrides.waitForServices.map .bool
  | "fast_pair_controls_enabled" => overrides.fastPairControlsEnabled.map .bool
  | _ => none

end DevicePolicyOverrides

structure DevicePolicyFile where
  version : UInt8 := devicePolicyVersion
  devices : Table String DevicePolicyOverrides := ∅

instance : Setoid DevicePolicyFile where
  r first second := first.version = second.version ∧ first.devices ≈ second.devices
  iseqv := {
    refl := fun file ↦ ⟨rfl, Setoid.refl file.devices⟩
    symm := fun hsame ↦ ⟨hsame.1.symm, Setoid.symm hsame.2⟩
    trans := fun hfirst hsecond ↦
      ⟨hfirst.1.trans hsecond.1, Setoid.trans hfirst.2 hsecond.2⟩ }

structure RuntimeState where
  version : UInt8 := runtimeVersion
  adapterPower : Table String Bool := ∅
  connectedDeviceKeys : List String := []

instance : Setoid RuntimeState where
  r first second := first.version = second.version ∧ first.adapterPower ≈ second.adapterPower ∧
    first.connectedDeviceKeys = second.connectedDeviceKeys
  iseqv := {
    refl := fun state ↦ ⟨rfl, Setoid.refl state.adapterPower, rfl⟩
    symm := fun hsame ↦ ⟨hsame.1.symm, Setoid.symm hsame.2.1, hsame.2.2.symm⟩
    trans := fun hfirst hsecond ↦ ⟨hfirst.1.trans hsecond.1,
      Setoid.trans hfirst.2.1 hsecond.2.1, hfirst.2.2.trans hsecond.2.2⟩ }

def RuntimeState.observed (adapterPower : Table String Bool) (connectedDeviceKeys : List String) :
    RuntimeState :=
  ⟨runtimeVersion, adapterPower, connectedDeviceKeys⟩

structure ManagementCodecs (Text : Type) where
  policy : Codec Text ManagementPolicy
  runtime : Codec Text RuntimeState
  devicePolicies : Codec Text DevicePolicyFile

@[ext]
structure ManagementFiles (Text : Type) where
  policy : JsonFile Text
  runtime : JsonFile Text
  devicePolicies : JsonFile Text
  deriving DecidableEq

structure ManagementStore (Text : Type) where
  files : ManagementFiles Text
  policy : ManagementPolicy
  runtime : RuntimeState
  devicePolicies : DevicePolicyFile

namespace ManagementStore

variable {Text : Type}

/-- `load_state`: a missing file is the default state. -/
def loadState {State : Type} (file : JsonFile Text) (codec : Codec Text State)
    (description : String) (default : State) : Except String State :=
  (file.readJson codec description).map fun state ↦ state.getD default

def checkVersion (description : String) (version expected : UInt8) : Except String Unit :=
  if version ≠ expected then
    .error ("unsupported Bluetooth " ++ description ++ " version " ++ toString version.toNat)
  else .ok ()

def load (codecs : ManagementCodecs Text) (files : ManagementFiles Text) :
    Except String (ManagementStore Text) := do
  let policy ← loadState files.policy codecs.policy "Bluetooth management policy" {}
  checkVersion "management policy" policy.version policyVersion
  validateLaunchState policy.launchState
  let runtime ← loadState files.runtime codecs.runtime "Bluetooth runtime state" {}
  checkVersion "runtime state" runtime.version runtimeVersion
  let devicePolicies ←
    loadState files.devicePolicies codecs.devicePolicies "Bluetooth per-device policy" {}
  checkVersion "per-device policy" devicePolicies.version devicePolicyVersion
  return ⟨files, policy, runtime, devicePolicies⟩

variable (store : ManagementStore Text) (codecs : ManagementCodecs Text)

def update (values : Patch) (succeeds : Bool) :
    ManagementStore Text × Except String ManagementPolicy :=
  match context values "management update must be an object" with
  | .error error => (store, .error error)
  | .ok object =>
    match store.policy.apply object with
    | .error error => (store, .error error)
    | .ok updated =>
      match store.files.policy.writeJson codecs.policy updated "Bluetooth management policy"
          succeeds with
      | .error error => (store, .error error)
      | .ok file => ({ store with files.policy := file, policy := updated }, .ok updated)

def overrides (deviceKey : String) : DevicePolicyOverrides :=
  (store.devicePolicies.devices.lookup deviceKey).getD {}

def devicePolicy (deviceKey : String) : DevicePolicy :=
  (store.overrides deviceKey).effective store.policy

/-- Remove the entry of a device, and put another in its place if there is one. -/
def withEntry (devices : Table String DevicePolicyOverrides) (key : String) :
    Option DevicePolicyOverrides → Table String DevicePolicyOverrides
  | some overrides => (devices.erase key).insert key overrides
  | none => devices.erase key

/-- The devices are changed in place, and changed back when the write fails. -/
def persistDeviceChange (key : String) (updated : Option DevicePolicyOverrides)
    (succeeds : Bool) : ManagementStore Text × Except String Unit :=
  let previous := store.devicePolicies.devices.lookup key
  let devices := withEntry store.devicePolicies.devices key updated
  match store.files.devicePolicies.writeJson codecs.devicePolicies
      ⟨store.devicePolicies.version, devices⟩ "Bluetooth per-device policy" succeeds with
  | .ok file =>
    ({ store with files.devicePolicies := file, devicePolicies.devices := devices }, .ok ())
  | .error error =>
    ({ store with devicePolicies.devices := withEntry devices key previous }, .error error)

def updateDevicePolicy (deviceKey : String) (values : Patch) (succeeds : Bool) :
    ManagementStore Text × Except String DevicePolicy :=
  match context values "device policy update must be an object" with
  | .error error => (store, .error error)
  | .ok object =>
    match (store.overrides deviceKey).apply object with
    | .error error => (store, .error error)
    | .ok updated =>
      match store.persistDeviceChange codecs deviceKey
          (if updated ≠ {} then some updated else none) succeeds with
      | (changed, .ok ()) => (changed, .ok (changed.devicePolicy deviceKey))
      | (changed, .error error) => (changed, .error error)

/-- The result is the error that is logged. -/
def forgetDevicePolicy (deviceKey : String) (succeeds : Bool) :
    ManagementStore Text × Except String Unit :=
  if (store.devicePolicies.devices.lookup deviceKey).isSome then
    store.persistDeviceChange codecs deviceKey none succeeds
  else (store, .ok ())

/-- The result is the error that is logged. -/
def rememberSnapshot (runtime : RuntimeState) (succeeds : Bool) :
    ManagementStore Text × Except String Unit :=
  match store.files.runtime.writeJson codecs.runtime runtime "Bluetooth runtime state"
      succeeds with
  | .error error => (store, .error error)
  | .ok file => ({ store with files.runtime := file, runtime := runtime }, .ok ())

end ManagementStore

end BtDaemon.Storage
