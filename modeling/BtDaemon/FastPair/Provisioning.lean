import BtDaemon.FastPair.Catalog
import BtDaemon.Foundation.Rules

/-!
# Provisioning of account keys

A device that was paired within the last minute gets an account key. The daemon finds its low
energy side, proves with a fresh key pair that it means the provider of the trusted key, checks
that the answer names the device that was paired, and only then writes a new account key and
remembers it. Each step is a request to BlueZ, to the state of the daemon or to the source of
random bytes.
-/

namespace BtDaemon.FastPair.Provisioning

open Program (ensure required)
open Storage (AccountKey)

abbrev Uuid := String

def fastPairServiceUuid : Uuid := "0000fe2c-0000-1000-8000-00805f9b34fb"

def messageStreamUuid : Uuid := "df21fe2c-2515-4fdb-8886-f12c4d67927c"

def keyBasedPairingUuid : Uuid := "fe2c1234-8366-4814-8eb0-01de32100bea"

def accountKeyUuid : Uuid := "fe2c1236-8366-4814-8eb0-01de32100bea"

/-- A GATT service of a device. -/
structure Service where
  device : Address
  id : UInt16
  deriving DecidableEq, Repr

structure Characteristic where
  service : Service
  id : UInt16
  deriving DecidableEq, Repr

/-- What has a UUID. -/
inductive GattObject
  | service (service : Service)
  | characteristic (characteristic : Characteristic)
  deriving DecidableEq, Repr

/-! ## Requests -/

inductive Request
  | isPaired
  | isBlocked
  | uuids
  | deviceKey
  | controlsEnabled (deviceKey : String)
  | storedKey (deviceKey : String)
  /-- How long ago the device was paired, in milliseconds. -/
  | pairedFor (deviceKey : String)
  | runtime
  | sleep (milliseconds : ℕ)
  | deviceAddresses
  | discoverDevices
  /-- What discovery adds until its stream or its time is over. -/
  | discovered
  | openDevice (address : Address)
  | isConnected (address : Address)
  | connect (address : Address)
  | isServicesResolved (address : Address)
  | services (address : Address)
  | characteristics (service : Service)
  | uuid (object : GattObject)
  | localAddress
  | randomSecret
  | randomSalt
  | randomKey
  | notify (characteristic : Characteristic)
  | write (characteristic : Characteristic) (value : List UInt8)
  | notification (characteristic : Characteristic)
  | promoteDevice
  | flush
  | insertKey (deviceKey : String) (key : AccountKey)
  | announce
  deriving DecidableEq

/-- What came of discovery. -/
structure Discovered where
  /-- The events; those that add a device have its address. -/
  events : List (Option Address)
  /-- The stream ended before its time was over. -/
  ended : Bool

/-- What came of waiting for a notification. -/
inductive Notified
  | value (value : List UInt8)
  | ended
  | timedOut

@[reducible]
def Request.Answer (crypto : Crypto) : Request → Type
  | .isPaired | .isBlocked | .isConnected _ => Except String Bool
  | .uuids => Except String (List Uuid)
  | .deviceKey | .promoteDevice => String
  | .controlsEnabled _ => Bool
  | .storedKey _ => Option AccountKey
  | .pairedFor _ => Option ℕ
  | .runtime => Option (BitVec 24 × Option Address)
  -- whether the time is over while it sleeps
  | .sleep _ => Bool
  | .deviceAddresses => Except String (List Address)
  | .discovered => Discovered
  | .discoverDevices | .openDevice _ | .connect _ | .notify _ | .write _ _ | .flush
  | .insertKey _ _ => Except String Unit
  -- `none` when the time is over
  | .isServicesResolved _ => Option (Except String Bool)
  | .services _ => Except String (List Service)
  | .characteristics _ => Except String (List Characteristic)
  | .uuid _ => Except String Uuid
  | .localAddress => Except String Address
  | .randomSecret => crypto.Secret
  | .randomSalt => Vector UInt8 2
  | .randomKey => AccountKey
  | .notification _ => Notified
  | .announce => Unit

section Model

variable (crypto : Crypto)

/-- An error is its outermost text. -/
abbrev Provision (Found : Type) := Program (Request.Answer crypto) String Found

variable {crypto : Crypto}

abbrev ask (request : Request) : Provision crypto (request.Answer crypto) := Program.ask request

def fails {Found : Type} (message : String) : Provision crypto Found := .fail message

def context {Found : Type} (result : Except String Found) (message : String) :
    Provision crypto Found :=
  .ofExcept (result.mapError fun _ ↦ message)

/-! ## The low energy side -/

def metadataTimeout : String := "timed out waiting for Fast Pair retroactive-pairing metadata"

/-- The polls of the reports, until the eight seconds are over. -/
def waitForMetadata : ℕ → Provision crypto (BitVec 24 × Option Address)
  | 0 => fails metadataTimeout
  | polls + 1 => do
    match ← ask .runtime with
    | some metadata => pure metadata
    | none =>
      if ← ask (.sleep 100) then fails metadataTimeout else waitForMetadata polls

/-- Eighty sleeps of 100 ms take the eight seconds. -/
def metadataPolls : ℕ := 81

def waitForProvisioningMetadata : Provision crypto (BitVec 24 × Option Address) :=
  waitForMetadata metadataPolls

/-- The events until the device is added. -/
def awaitAdded (address : Address) (ended : Bool) : List (Option Address) → Provision crypto Unit
  | [] =>
    if ended then fails "Bluetooth discovery ended before the Fast Pair BLE address appeared"
    else fails "Fast Pair BLE address was not discovered"
  | event :: events => if event = some address then pure () else awaitAdded address ended events

def discoverAddress (address : Address) : Provision crypto Unit := do
  let known ← context (← ask .deviceAddresses) "list devices before Fast Pair BLE discovery"
  if known.contains address then pure ()
  else
    context (← ask .discoverDevices) "start discovery for Fast Pair BLE address"
    let discovered ← ask .discovered
    awaitAdded address discovered.ended discovered.events

def resolutionTimeout : String := "Fast Pair BLE service resolution timed out"

def waitForServices (address : Address) : ℕ → Provision crypto Unit
  | 0 => fails resolutionTimeout
  | polls + 1 => do
    match ← ask (.isServicesResolved address) with
    | none => fails resolutionTimeout
    | some (.error _) => fails "read Fast Pair BLE service resolution state"
    | some (.ok true) => pure ()
    | some (.ok false) =>
      if ← ask (.sleep 100) then fails resolutionTimeout else waitForServices address polls

/-- A hundred sleeps of 100 ms take the ten seconds. -/
def servicePolls : ℕ := 101

def resolveBleDevice (address : Address) : Provision crypto Unit := do
  discoverAddress address
  context (← ask (.openDevice address)) "open discovered Fast Pair BLE device"
  let connected ← context (← ask (.isConnected address)) "read Fast Pair BLE connection state"
  Program.when (!connected) do
    context (← ask (.connect address)) "connect Fast Pair BLE device for provisioning"
  waitForServices address servicePolls

/-! ## The characteristics -/

/-- `gatt_lookup!` -/
def lookup {Item : Type} (object : Item → GattObject) (uuid : Uuid) :
    List Item → Provision crypto (Option Item)
  | [] => pure none
  | item :: items => do
    let found ← context (← ask (.uuid (object item))) "read Fast Pair GATT UUID"
    if found = uuid then pure (some item) else lookup object uuid items

def findService (address : Address) (uuid : Uuid) : Provision crypto (Option Service) := do
  let services ← context (← ask (.services address)) "list Fast Pair GATT services"
  lookup .service uuid services

def findCharacteristic (service : Service) (uuid : Uuid) :
    Provision crypto (Option Characteristic) := do
  let characteristics ←
    context (← ask (.characteristics service)) "list Fast Pair GATT characteristics"
  lookup .characteristic uuid characteristics

def provisioningCharacteristics (address : Address) :
    Provision crypto (Characteristic × Characteristic) := do
  let service ← required (← findService address fastPairServiceUuid)
    "Fast Pair GATT service is unavailable for account-key provisioning"
  let pairing ← required (← findCharacteristic service keyBasedPairingUuid)
    "Fast Pair key-based pairing characteristic is unavailable"
  let accountKey ← required (← findCharacteristic service accountKeyUuid)
    "Fast Pair account key characteristic is unavailable"
  return (pairing, accountKey)

/-! ## The key-based pairing -/

/-- The shared key, and what is written. -/
def provisioningRequest (antiSpoofingKey : String) (remote own : Address) :
    Provision crypto (Block × List UInt8) := do
  let providerKey ← Program.ofExcept (crypto.parseAntiSpoofingPublicKey antiSpoofingKey)
  let ephemeral ← ask .randomSecret
  let salt ← ask .randomSalt
  return (crypto.sharedKey ephemeral providerKey,
    crypto.sealRequest ephemeral providerKey (Crypto.requestBlock remote own salt))

def completeKeyPairing (pairing : Characteristic) (request : List UInt8) (sharedKey : Block)
    (device : Address) : Provision crypto Unit := do
  context (← ask (.notify pairing)) "subscribe to Fast Pair key-based pairing response"
  context (← ask (.write pairing request))
    "write Fast Pair retroactive key-based pairing request"
  match ← ask (.notification pairing) with
  | .timedOut => fails "Fast Pair key-based pairing response timed out"
  | .ended => fails "Fast Pair key-based pairing notification stream ended"
  | .value value =>
    let response ← Program.ofExcept (decodeFixed 16 value "key-based pairing response")
    let block := crypto.cryptBlock sharedKey response false
    ensure (decide (block.get ⟨0, zero_lt_blockSize⟩ = 0x01))
      "Fast Pair provider returned an invalid key-based pairing response"
    ensure (decide ((block.toList.drop 1).take 6 = Endian.toBe 6 device.toNat))
      "Fast Pair provider response did not match the paired Bluetooth device"

/-- `AccountKeyStore::generate` -/
def generateKey (random : AccountKey) : AccountKey := random.set 0 0x04 zero_lt_blockSize

def writeAccountKey (characteristic : Characteristic) (sharedKey : Block) :
    Provision crypto AccountKey := do
  let accountKey := generateKey (← ask .randomKey)
  context (← ask (.write characteristic (crypto.cryptBlock sharedKey accountKey true).toList))
    "write encrypted Fast Pair account key"
  return accountKey

/-! ## The workflow -/

/-- `device.is_paired().await? && !device.is_blocked().await?` -/
def usable : Provision crypto Bool := do
  if ← Program.ofExcept (← ask .isPaired) then
    let blocked ← Program.ofExcept (← ask .isBlocked)
    pure !blocked
  else pure false

/-- A device was paired within the last minute. -/
def recent (pairedFor : Option ℕ) : Bool := pairedFor.any fun elapsed ↦ decide (elapsed < 60000)

def provisionAccountKey (device : Address) (antiSpoofingKey : String) : Provision crypto Unit := do
  let paired ← usable
  ensure paired "pair and unblock the device before provisioning Fast Pair"
  let key ← ask .deviceKey
  let stored ← ask (.storedKey key)
  ensure stored.isNone "Fast Pair account key is already provisioned"
  let pairedFor ← ask (.pairedFor key)
  ensure (recent pairedFor)
    "Fast Pair retroactive provisioning requires pairing within the last minute; re-pair the device"
  let (_, reported) ← waitForProvisioningMetadata
  let bleAddress := reported.getD device
  resolveBleDevice bleAddress
  let (pairing, accountKeyCharacteristic) ← provisioningCharacteristics bleAddress
  let localAddress ←
    context (← ask .localAddress) "read local address for Fast Pair provisioning"
  let (sharedKey, request) ← provisioningRequest antiSpoofingKey bleAddress localAddress
  completeKeyPairing pairing request sharedKey device
  let deviceKey ← ask .promoteDevice
  Program.ofExcept (← ask .flush)
  let accountKey ← writeAccountKey accountKeyCharacteristic sharedKey
  Program.ofExcept (← ask (.insertKey deviceKey accountKey))
  ask .announce

/-- A model that the operator trusts. -/
def trustedModel (catalog : Catalog crypto) (id : BitVec 24) : Option Model :=
  catalog.models.lookup id

def provisionFromCatalog (catalog : Catalog crypto) (device : Address) : Provision crypto Unit := do
  let (modelId, _) ← waitForProvisioningMetadata
  let model ← required (trustedModel catalog modelId)
    "trusted Fast Pair model metadata is missing; configure /etc/bluetooth/fast-pair-models.json"
  provisionAccountKey device model.antiSpoofingPublicKey

def autoProvision (catalog : Catalog crypto) (device : Address) : Provision crypto Unit :=
  if catalog.models.entries.isEmpty then pure ()
  else do
    let key ← ask .deviceKey
    let enabled ← ask (.controlsEnabled key)
    if !enabled then pure ()
    else
      let stored ← ask (.storedKey key)
      if stored.isSome then pure ()
      else
        let uuids ← Program.ofExcept (← ask .uuids)
        if messageStreamUuid ∉ uuids ∧ fastPairServiceUuid ∉ uuids then pure ()
        else
          let (modelId, _) ← waitForProvisioningMetadata
          match trustedModel catalog modelId with
          | some model => provisionAccountKey device model.antiSpoofingPublicKey
          | none => pure ()

/-- How the provisioning is asked for. -/
inductive Entry
  /-- With the public key of the provider. -/
  | provided (antiSpoofingKey : String)
  | fromCatalog
  /-- After a pairing. -/
  | automatic

def provision (catalog : Catalog crypto) (device : Address) : Entry → Provision crypto Unit
  | .provided antiSpoofingKey => provisionAccountKey device antiSpoofingKey
  | .fromCatalog => provisionFromCatalog catalog device
  | .automatic => autoProvision catalog device

end Model

end BtDaemon.FastPair.Provisioning
