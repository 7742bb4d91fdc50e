import Mathlib.Data.List.Basic
import Mathlib.Data.List.Nodup
import Mathlib.Tactic.Common

/-!
# Bluetooth audio devices

A probe collects the profiles of a device and its public nodes in no particular order.
Finalization marks the default nodes, puts profiles and nodes into a fixed order, picks the first
node of each kind for the aliases of older clients, and refines the codec of the active profile.
-/

namespace BtDaemon.Audio

inductive EndpointKind where
  | sink
  | source
  deriving DecidableEq, Repr

def EndpointKind.asStr : EndpointKind → String
  | .sink => "sink"
  | .source => "source"

structure AudioEndpoint where
  pipewireId : UInt32
  serial : Option UInt64
  name : String
  kind : EndpointKind
  state : String
  isDefault : Bool
  codec : Option String
  priority : Int32
  internal : Bool
  deriving DecidableEq

structure AudioProfile where
  index : UInt32
  name : String
  description : String
  available : Bool
  priority : Int32
  mode : String
  codec : Option String
  deriving DecidableEq

structure AudioDevice where
  pipewireId : UInt32
  serial : Option UInt64
  address : String
  adapter : String
  name : String
  activeProfile : Option UInt32
  profiles : List AudioProfile
  endpoints : List AudioEndpoint
  internalEndpoints : List AudioEndpoint
  sink : Option AudioEndpoint
  source : Option AudioEndpoint
  deriving DecidableEq

structure Defaults where
  sink : String
  source : String

def Defaults.ofKind (defaults : Defaults) : EndpointKind → String
  | .sink => defaults.sink
  | .source => defaults.source

/-- The key `(Reverse(priority), index)`. -/
def profileLe (first second : AudioProfile) : Bool :=
  ((compare second.priority first.priority).then (compare first.index second.index)).isLE

/-- The comparison of endpoints. Its last part is the identifier, as names may be equal. -/
def endpointLe (first second : AudioEndpoint) : Bool :=
  ((((compare second.isDefault first.isDefault).then
    (compare second.priority first.priority)).then
      (compare first.name second.name)).then
        (compare first.pipewireId second.pipewireId)).isLE

def markDefault (defaults : Defaults) (endpoint : AudioEndpoint) : AudioEndpoint :=
  { endpoint with isDefault := endpoint.name == defaults.ofKind endpoint.kind }

/-- The codec of the endpoints, when all that are known are the same. -/
def commonCodec (endpoints : List AudioEndpoint) : Option String :=
  match endpoints.filterMap AudioEndpoint.codec with
  | [] => none
  | first :: rest => if rest.all (· == first) then some first else none

/-- Change the first profile with the index. -/
def setCodec (codec : String) (active : Option UInt32) : List AudioProfile → List AudioProfile
  | [] => []
  | profile :: rest =>
    if some profile.index = active then { profile with codec := some codec } :: rest
    else profile :: setCodec codec active rest

def AudioDevice.finalize (self : AudioDevice) (defaults : Defaults) : AudioDevice :=
  let profiles := self.profiles.mergeSort profileLe
  let endpoints := (self.endpoints.map (markDefault defaults)).mergeSort endpointLe
  { self with
    endpoints := endpoints
    sink := endpoints.find? fun node ↦ node.kind == .sink
    source := endpoints.find? fun node ↦ node.kind == .source
    profiles := match commonCodec endpoints with
      | some codec => setCodec codec self.activeProfile profiles
      | none => profiles }

/-! ## What finalization keeps -/

/-- A view of the profiles that does not depend on the codec. -/
theorem map_setCodec {View : Type} (view : AudioProfile → View)
    (hview : ∀ (profile : AudioProfile) (codec : Option String),
      view { profile with codec := codec } = view profile)
    (codec : String) (active : Option UInt32) (profiles : List AudioProfile) :
    (setCodec codec active profiles).map view = profiles.map view := by
  induction profiles with
  | nil => rfl
  | cons profile rest ih =>
    rw [setCodec]
    split
    · rw [List.map_cons, List.map_cons, hview]
    · rw [List.map_cons, List.map_cons, ih]

variable (device : AudioDevice) (defaults : Defaults)

theorem map_profiles_finalize {View : Type} (view : AudioProfile → View)
    (hview : ∀ (profile : AudioProfile) (codec : Option String),
      view { profile with codec := codec } = view profile) :
    ((device.finalize defaults).profiles.map view).Perm (device.profiles.map view) := by
  have hsorted := (List.mergeSort_perm device.profiles profileLe).map view
  unfold AudioDevice.finalize
  dsimp only
  split
  · rw [map_setCodec view hview]
    exact hsorted
  · exact hsorted

theorem map_endpoints_finalize {View : Type} (view : AudioEndpoint → View)
    (hview : ∀ (endpoint : AudioEndpoint) (isDefault : Bool),
      view { endpoint with isDefault := isDefault } = view endpoint) :
    ((device.finalize defaults).endpoints.map view).Perm (device.endpoints.map view) := by
  have hsorted := (List.mergeSort_perm (device.endpoints.map (markDefault defaults))
    endpointLe).map view
  have hmarked : (device.endpoints.map (markDefault defaults)).map view =
      device.endpoints.map view := by
    rw [List.map_map]
    exact List.map_congr_left fun endpoint _ ↦ hview endpoint _
  rw [hmarked] at hsorted
  exact hsorted

end BtDaemon.Audio
