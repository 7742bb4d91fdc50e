import BtDaemon.Bluez.LinkSignal

/-!
# Device snapshots

The signal part of a device snapshot: the discovery observation, the cached device and the link
reading are merged into one signal, the signal becomes part of the published device, and a
device that is present goes back into the cache with a wall-clock stamp. Of the device only what
the signal and the cache depend on is kept.
-/

namespace BtDaemon.Bluez.Snapshot

open LinkSignal

/-- `CACHE_TTL` in milliseconds. -/
def cacheTtlMs : ℕ := 300000

/-- `LIVE_TTL` of an observation. -/
def observationTtl : ℕ := 30 * 1000000000

structure Observation where
  rssi : Option Int16
  lastSeenMs : UInt64
  observed : Instant
  deriving DecidableEq

def Observation.live (self : Observation) (now : Instant) (discovering : Bool) : Bool :=
  discovering && decide (elapsed now self.observed ≤ observationTtl)

structure DeviceState where
  paired : Bool
  connected : Bool
  deriving DecidableEq

structure DevicePresentation where
  rssi : Option Int16
  rssiKind : Option RssiKind
  signalStrength : Option UInt8
  signalLevel : Option UInt8
  signalLive : Bool
  present : Bool
  lastSeenMs : Option UInt64
  deriving DecidableEq

structure Device where
  key : String
  adapterKey : String
  state : DeviceState
  presentation : DevicePresentation
  deriving DecidableEq

structure CachedDevice where
  device : Device
  observedAtMs : UInt64
  deriving DecidableEq

structure Signal where
  rssi : Option Int16
  kind : Option RssiKind
  lastSeenMs : Option UInt64
  live : Bool
  present : Bool

namespace Signal

/-- The observation, where its RSSI is used instead of the cached one. A time compares as later
than no time. -/
def measured (observed : Option Observation) (cached : Option CachedDevice) (live : Bool) :
    Option Observation :=
  observed.filter fun seen ↦
    seen.rssi.isSome && (live || cached.all fun cache ↦
      cache.device.presentation.rssi.isNone ||
        cache.device.presentation.lastSeenMs.all fun lastSeenMs ↦
          decide (lastSeenMs ≤ seen.lastSeenMs))

def resolve (observed : Option Observation) (cached : Option CachedDevice) (live : Bool) :
    Signal where
  rssi := ((measured observed cached live).bind Observation.rssi).or
    (cached.bind fun cache ↦ cache.device.presentation.rssi)
  kind := ((measured observed cached live).map fun _ ↦ RssiKind.dbm).or
    (cached.bind fun cache ↦ cache.device.presentation.rssiKind)
  lastSeenMs := (((measured observed cached live).map Observation.lastSeenMs).or
    (cached.bind fun cache ↦ cache.device.presentation.lastSeenMs)).or
      (observed.map Observation.lastSeenMs)
  live := live && (measured observed cached live).isSome
  present := live

/-- Whether a link reading replaces the signal. -/
def yields (self : Signal) (link : Reading) : Bool :=
  link.live || (!self.live && (self.rssi.isNone || self.lastSeenMs.all fun lastSeenMs ↦
    decide (lastSeenMs ≤ link.lastSeenMs)))

def withLink (self : Signal) : Option Reading → Signal
  | none => self
  | some link =>
    if self.yields link then
      { self with
        rssi := some link.rssi
        kind := some link.kind
        lastSeenMs := some link.lastSeenMs
        live := link.live }
    else self

end Signal

/-- A division of `i32` rounds towards zero. -/
def signalStrength (rssi : Int16) : UInt8 :=
  UInt8.ofNat (max 0 (min 100 (((rssi.toInt + 100) * 100).tdiv 60))).toNat

def signalLevel (rssi : Int16) (kind : Option RssiKind) : UInt8 :=
  if kind = some .brEdrRelative then
    if 0 ≤ rssi then 3 else if -10 ≤ rssi then 2 else 1
  else
    if 67 ≤ signalStrength rssi then 3 else if 34 ≤ signalStrength rssi then 2 else 1

structure Context where
  key : String
  adapterKey : String

def build (context : Context) (state : DeviceState) (signal : Signal) : Device where
  key := context.key
  adapterKey := context.adapterKey
  state := state
  presentation :=
    { rssi := signal.rssi
      rssiKind := signal.kind
      signalStrength := (signal.rssi.filter fun _ ↦
        signal.kind != some .brEdrRelative).map signalStrength
      signalLevel := signal.rssi.map fun rssi ↦ signalLevel rssi signal.kind
      signalLive := signal.live
      present := state.connected || signal.present
      lastSeenMs := signal.lastSeenMs }

def cacheEntry (device : Device) (nowMs : UInt64) : Option CachedDevice :=
  if device.presentation.present then
    some ⟨device, if device.state.connected then nowMs
      else device.presentation.lastSeenMs.getD nowMs⟩
  else none

def cachedDeviceView (cached : CachedDevice) : Device :=
  { cached.device with
    state.connected := false
    presentation.present := false
    presentation.signalLive := false }

/-- `saturating_sub` -/
def cacheEntryIsFresh (observedAtMs nowMs : UInt64) : Bool :=
  decide (nowMs.toNat - observedAtMs.toNat ≤ cacheTtlMs)

/-- The cached device belongs to the adapter and is not in the list of its live devices. -/
def missing (devices : List Device) (adapterKey : String) (cached : CachedDevice) : Bool :=
  cached.device.adapterKey == adapterKey &&
    !(devices.map Device.key).contains cached.device.key

def extendCachedDevices (devices : List Device) (cached : List CachedDevice)
    (adapterKey : String) (nowMs : UInt64) : List Device :=
  devices ++ (cached.filter fun cached ↦
    missing devices adapterKey cached && cacheEntryIsFresh cached.observedAtMs nowMs).map
      cachedDeviceView

def shouldIncludeDevice (paired present cached : Bool) : Bool := paired || present || cached

/-- What one snapshot of a device reads, with the cached device that is still fresh. -/
structure Evidence where
  context : Context
  state : DeviceState
  observation : Option Observation
  discovering : Bool
  cached : Option CachedDevice
  link : Option Reading

namespace Evidence

variable (self : Evidence)

def signalLive (now : Instant) : Bool :=
  self.observation.any fun seen ↦ seen.live now self.discovering

def signal (now : Instant) : Signal :=
  (Signal.resolve self.observation self.cached (self.signalLive now)).withLink self.link

end Evidence

/-- The published device, if there is one, and the entry that it leaves in the cache. -/
def deviceSnapshot (evidence : Evidence) (now : Instant) (nowMs : UInt64) :
    Option Device × Option CachedDevice :=
  let present := evidence.state.connected || evidence.signalLive now
  if shouldIncludeDevice evidence.state.paired present evidence.cached.isSome then
    let device := build evidence.context evidence.state (evidence.signal now)
    (some device, cacheEntry device nowMs)
  else (none, none)

end BtDaemon.Bluez.Snapshot
