import BtDaemon.Bluez.Operations
import BtDaemon.FastPair.Advertisement
import BtDaemon.FastPair.Controls
import BtDaemon.FastPair.Provisioning
import BtDaemon.Foundation.World
import BtDaemon.Identity.Registry
import BtDaemon.Sony.NoiseControl

/-!
# Capabilities of devices

A snapshot says of each device which operations are open to it, and the reason why others are not.
The operations do not read the snapshot: those of Fast Pair check the device again, and the Sony
provider goes by its own report. Both look at the same evidence.
-/

namespace BtDaemon.Bluez.Capabilities

open BtDaemon.FastPair (Address Advertisement AdvertisementCapabilities Catalog Crypto
  FastPairMultipoint FastPairNoiseControl FastPairSwitchEvent RuntimeReport advertisement
  decodeAncState noiseControlFrame ofBytes)
open Program (Asks Avoids MustAsk NeverAsks)
open Storage (AccountKey DevicePolicy hexEncode)

/-! ## Evidence -/

/-- What is known about a device when its snapshot is built. -/
structure Evidence (crypto : Crypto) where
  paired : Bool
  connected : Bool
  blocked : Bool
  wakeAllowed : Option Bool
  uuids : List String
  deviceKey : String
  policy : DevicePolicy
  accountKey : Option AccountKey
  runtime : Option RuntimeReport
  /-- The service data of Fast Pair. -/
  serviceData : Option (List UInt8)
  catalog : Catalog crypto
  /-- How long ago the device was paired, in milliseconds. -/
  pairedFor : Option ℕ
  /-- A message stream to the device is open. -/
  writer : Bool
  /-- What Sony headphones reported. -/
  sony : Option Sony.NcAsm
  /-- A report of noise control is stored only if it could be decoded. -/
  decoded : ∀ report state, runtime = some report → report.noiseControl = some state →
    ∃ payload, decodeAncState payload = .ok state

/-! ## Features -/

structure FastPairFeatures where
  modelId : Option String
  advertisedCapabilities : Option AdvertisementCapabilities
  bleAddress : Option String
  controlsAvailable : Bool
  authenticatedControls : Bool
  accountKeyAvailable : Bool
  provisioningAvailable : Bool
  provisioningReason : Option String
  trustedModelName : Option String
  multipoint : Option FastPairMultipoint
  noiseControl : Option FastPairNoiseControl
  lastSwitch : Option FastPairSwitchEvent
  audioSwitchSeekerSupported : Bool

def provisioningReason (hasKey trustedModel recentPairing : Bool) : Option String :=
  if hasKey then some "Account key already provisioned"
  else if !trustedModel then
    some "Trusted model metadata is missing; configure fast-pair-models.json"
  else if !recentPairing then
    some "Re-pair this device to open its one-minute Fast Pair provisioning window"
  else none

/-- The flags of the controls are set by the caller. -/
def describe (runtime : RuntimeReport) (accountKeyAvailable : Bool)
    (trustedModelName : Option String) (recent : Bool) : FastPairFeatures :=
  let reason := provisioningReason accountKeyAvailable trustedModelName.isSome recent
  { modelId := runtime.modelId.map fun id ↦ hexEncode (Endian.toBe 3 id.toNat)
    advertisedCapabilities := none
    bleAddress := runtime.bleAddress.map fun address ↦
      String.ofList (Identity.addressText address)
    controlsAvailable := false
    authenticatedControls := false
    accountKeyAvailable
    provisioningAvailable := reason.isNone
    provisioningReason := reason
    trustedModelName
    multipoint := runtime.multipoint
    noiseControl := runtime.noiseControl
    lastSwitch := runtime.lastSwitch
    audioSwitchSeekerSupported := false }

def modelIdOf (found : Advertisement) : BitVec 24 := .ofNat 24 (Endian.ofBe found.modelId.val)

namespace Evidence

variable {crypto : Crypto} (self : Evidence crypto)

/-- The report, whose model may be the one that is advertised. -/
def report : RuntimeReport :=
  let runtime := self.runtime.getD {}
  if runtime.modelId.isNone then
    { runtime with modelId := (self.serviceData.bind advertisement).map modelIdOf }
  else runtime

def controlsAvailable : Bool :=
  self.connected && self.policy.fastPairControlsEnabled && self.writer

def features : Option FastPairFeatures :=
  let runtime := self.report
  let found := (self.serviceData.bind advertisement).filter fun data ↦
    decide (some (modelIdOf data) = runtime.modelId)
  let accountKeyAvailable := self.accountKey.isSome
  if self.runtime.isNone && runtime.modelId.isNone && !accountKeyAvailable then none
  else
    let model := runtime.modelId.bind self.catalog.models.lookup
    some { describe runtime accountKeyAvailable (model.map FastPair.Model.name)
        (FastPair.Provisioning.recent self.pairedFor) with
      advertisedCapabilities := found.bind Advertisement.capabilities
      controlsAvailable := self.controlsAvailable
      authenticatedControls :=
        self.controlsAvailable && runtime.sessionNonce.isSome && accountKeyAvailable }

end Evidence

/-! ## Noise control -/

structure NoiseControl where
  source : String
  availableModes : List String
  settableModes : List String
  activeMode : Option String

def fromFastPair (state : FastPairNoiseControl) : NoiseControl :=
  ⟨"google-fast-pair-message-stream", state.availableModes, state.settableModes, state.activeMode⟩

/-- `noise_control` of the Sony provider. -/
def fromSony (state : Sony.NcAsm) : NoiseControl :=
  ⟨"sony-headphones-control", Sony.modes, Sony.modes, state.activeMode⟩

/-! ## Capabilities -/

structure DeviceCapabilities where
  canPair : Bool
  canConnect : Bool
  canDisconnect : Bool
  canRemove : Bool
  canTrust : Bool
  canBlock : Bool
  canWake : Bool
  canRename : Bool
  canSendFile : Bool
  canProvisionFastPair : Bool
  canSetMultipoint : Bool
  canSetNoiseControl : Bool
  /-- A map from operations to reasons. -/
  unsupportedReasons : List (String × String)

def hasFastPairService (uuids : List String) : Bool :=
  uuids.any fun uuid ↦ uuid.toLower == FastPair.Provisioning.fastPairServiceUuid ||
    uuid.toLower == FastPair.Provisioning.messageStreamUuid

def fastPairCapabilities (paired connected hasFastPair : Bool)
    (features : Option FastPairFeatures) : Bool × Bool × Bool :=
  match features.filter fun _ ↦ paired && connected && hasFastPair with
  | none => (false, false, false)
  | some features =>
    let multipoint := features.authenticatedControls &&
      features.multipoint.any fun multipoint ↦ multipoint.supported && multipoint.configurable
    let noiseControl := features.controlsAvailable &&
      features.noiseControl.any fun noise ↦
        (noise.version == 1 || noise.version == 2) && !noise.settableModes.isEmpty
    (features.provisioningAvailable, multipoint, noiseControl)

def unsupportedReasons (paired connected : Bool) (wakeAllowed : Option Bool)
    (canProvisionFastPair canSetMultipoint canSetNoiseControl : Bool) : List (String × String) :=
  ([(paired, "pair", "Device is already paired"),
    (connected, "connect", "Device is already connected"),
    (!connected, "disconnect", "Device is not connected"),
    (wakeAllowed.isNone, "wake", "BlueZ does not expose wake control for this device"),
    (!paired, "send_file", "Pair the device before sending files"),
    (!canProvisionFastPair, "provision_fast_pair",
      "Fast Pair provisioning requires recent-pairing model metadata from a connected device"),
    (!canSetMultipoint, "set_multipoint",
      "Authenticated configurable Fast Pair multipoint is unavailable"),
    (!canSetNoiseControl, "set_noise_control", "Noise control is unavailable or disabled")].filter
      Prod.fst).map Prod.snd

def deviceCapabilities (paired connected blocked : Bool) (wakeAllowed : Option Bool)
    (hasFastPair : Bool) (fastPair : Option FastPairFeatures)
    (vendorNoiseControl : Option NoiseControl) : DeviceCapabilities :=
  let (canProvisionFastPair, canSetMultipoint, fastPairNoiseControl) :=
    fastPairCapabilities paired connected hasFastPair fastPair
  let canSetNoiseControl := fastPairNoiseControl ||
    (paired && connected && vendorNoiseControl.any fun noise ↦ !noise.settableModes.isEmpty)
  { canPair := !paired && !blocked
    canConnect := !connected && !blocked
    canDisconnect := connected
    canRemove := paired
    canTrust := paired
    canBlock := true
    canWake := wakeAllowed.isSome
    canRename := true
    canSendFile := paired && !blocked
    canProvisionFastPair := canProvisionFastPair && !blocked
    canSetMultipoint := canSetMultipoint && !blocked
    canSetNoiseControl := canSetNoiseControl && !blocked
    unsupportedReasons := unsupportedReasons paired connected wakeAllowed canProvisionFastPair
      canSetMultipoint canSetNoiseControl }

def validateObexSendState (paired blocked : Bool) : Except BackendError Unit :=
  if !paired then .error ⟨.rejected, "outgoing transfers require a paired Bluetooth device"⟩
  else if blocked then
    .error ⟨.rejected, "outgoing transfers are disabled for blocked Bluetooth devices"⟩
  else .ok ()

namespace Evidence

variable {crypto : Crypto} (self : Evidence crypto)

/-- The Sony provider is asked about a connected device only. -/
def vendorNoiseControl : Option NoiseControl :=
  if self.connected then self.sony.map fromSony else none

def capabilities : DeviceCapabilities :=
  deviceCapabilities self.paired self.connected self.blocked self.wakeAllowed
    (hasFastPairService self.uuids) self.features self.vendorNoiseControl

/-- The noise control of the snapshot. -/
def noiseControl : Option NoiseControl :=
  self.vendorNoiseControl.or
    ((self.features.bind FastPairFeatures.noiseControl).map fromFastPair)

end Evidence

end BtDaemon.Bluez.Capabilities
