import BtDaemon.Audio.Finalization
import BtDaemon.Audio.ProfileChange
import BtDaemon.Audio.RouteChange
import Mathlib.Data.List.Induction

/-!
# Probing the audio server

A probe binds every Bluetooth device and every node that the registry announces, asks each device
for its profiles, and keeps what it learns in hash tables until it finalizes them. The audio server
announces in any order, except that a device answers for its profiles only after it was bound.
-/

namespace BtDaemon.Audio

/-! ## Announcements -/

/-- `str::parse` for `i32`. -/
def parseI32 (value : String) : Option Int32 :=
  match value.toList with
  | '-' :: '+' :: _ => none
  | '-' :: digits =>
    (parseUnsigned (2 ^ 31 + 1) (String.ofList digits)).map fun number ↦ Int32.ofInt (-number)
  | _ => (parseUnsigned (2 ^ 31) value).map fun number ↦ Int32.ofInt number

def updateEndpointProperties (endpoint : AudioEndpoint) (properties : Dict) : AudioEndpoint :=
  { endpoint with
    codec := match properties.get "api.bluez5.codec" with
      | some value => codecName value
      | none => endpoint.codec
    internal := match properties.get "api.bluez5.internal" with
      | some value => value == "true" || value == "1"
      | none => endpoint.internal
    priority := ((properties.get "priority.session").bind parseI32).getD endpoint.priority }

def updateProfile (device : AudioDevice) (parameter : ParamType) (profile : AudioProfile) :
    AudioDevice :=
  if parameter = .profile then { device with activeProfile := some profile.index }
  else if parameter = .enumProfile &&
      !device.profiles.any fun item ↦ item.index == profile.index then
    { device with profiles := device.profiles ++ [profile] }
  else device

/-- The device that `bind_device` inserts. -/
def newDevice (global : Global) (properties : Dict) : AudioDevice where
  pipewireId := global.id
  serial := (properties.get "object.serial").bind parseU64
  address := (properties.get "api.bluez5.address").getD ""
  adapter := ((properties.get "api.bluez5.path").bind adapterFromBluezPath).getD ""
  name := ((properties.get "device.description").or (properties.get "device.alias")).getD
    "Bluetooth audio device"
  activeProfile := none
  profiles := []
  endpoints := []
  internalEndpoints := []
  sink := none
  source := none

/-- The node that `bind_node` inserts, with the device that it belongs to. -/
def newNode (global : Global) (properties : Dict) : Option (UInt32 × AudioEndpoint) := do
  let deviceId ← (properties.get "device.id").bind parseU32
  let kind ← endpointKind (properties.get "media.class")
  let endpoint : AudioEndpoint := {
    pipewireId := global.id
    serial := (properties.get "object.serial").bind parseU64
    name := (properties.get "node.name").getD ""
    kind := kind
    state := "creating"
    isDefault := false
    codec := none
    priority := 0
    internal := false }
  return (deviceId, updateEndpointProperties endpoint properties)

deriving instance DecidableEq for Global

/-- An event of the probe: the registry announces a global, which then can or cannot be bound, or
a bound device answers with a parameter. -/
inductive Announcement where
  | global (announced : Global) (bound : Bool)
  | param (deviceId : UInt32) (parameter : ParamType) (pod : Option Pod)
  deriving DecidableEq

structure ProbeState where
  devices : Table UInt32 AudioDevice := ∅
  endpoints : Table UInt32 DeviceEndpoints := ∅

namespace ProbeState

variable (self : ProbeState)

def bindDevice (global : Global) (properties : Dict) (bound : Bool) : ProbeState :=
  if bound then
    { self with devices := self.devices.insert global.id (newDevice global properties) }
  else self

/-- The node is kept even when it cannot be bound. -/
def bindNode (global : Global) (properties : Dict) : ProbeState :=
  match newNode global properties with
  | some (deviceId, endpoint) =>
    { self with endpoints := self.endpoints.update deviceId ∅ (·.insert global.id endpoint) }
  | none => self

def bindGlobal (global : Global) (bound : Bool) : ProbeState :=
  match global.props with
  | none => self
  | some properties =>
    match global.type with
    | .device =>
      if properties.get "device.api" == some "bluez5" then
        self.bindDevice global properties bound
      else self
    | .node => self.bindNode global properties
    | _ => self

def param (deviceId : UInt32) (parameter : ParamType) (pod : Option Pod) : ProbeState :=
  match pod.bind parseProfile with
  | some profile =>
    { self with devices := self.devices.modify deviceId (updateProfile · parameter profile) }
  | none => self

def observe : Announcement → ProbeState
  | .global announced bound => self.bindGlobal announced bound
  | .param deviceId parameter pod => self.param deviceId parameter pod

end ProbeState

/-- The state after the announcements. -/
def probe (announcements : List Announcement) : ProbeState :=
  announcements.foldl ProbeState.observe {}

/-! ## What an announcement adds -/

namespace Announcement

def device : Announcement → Option AudioDevice
  | .global announced bound => announced.props.bind fun properties ↦
      if announced.type = .device ∧ properties.get "device.api" = some "bluez5" ∧ bound then
        some (newDevice announced properties)
      else none
  | .param .. => none

def node : Announcement → Option (UInt32 × AudioEndpoint)
  | .global announced _ => announced.props.bind fun properties ↦
      if announced.type = .node then newNode announced properties else none
  | .param .. => none

def parameter : Announcement → Option (UInt32 × ParamType × AudioProfile)
  | .global .. => none
  | .param deviceId parameter pod =>
    (pod.bind parseProfile).map fun profile ↦ (deviceId, parameter, profile)

end Announcement

/-- An announcement adds at most one thing. -/
inductive Adds (state : ProbeState) : Option AudioDevice → Option (UInt32 × AudioEndpoint) →
    Option (UInt32 × ParamType × AudioProfile) → ProbeState → Prop
  | device (device : AudioDevice) : Adds state (some device) none none
      { state with devices := state.devices.insert device.pipewireId device }
  | node (deviceId : UInt32) (endpoint : AudioEndpoint) :
      Adds state none (some (deviceId, endpoint)) none
        { state with
          endpoints := state.endpoints.update deviceId ∅ (·.insert endpoint.pipewireId endpoint) }
  | parameter (deviceId : UInt32) (parameter : ParamType) (profile : AudioProfile) :
      Adds state none none (some (deviceId, parameter, profile))
        { state with devices := state.devices.modify deviceId (updateProfile · parameter profile) }
  | nothing : Adds state none none none state

theorem id_of_newNode {global : Global} {properties : Dict} {deviceId : UInt32}
    {endpoint : AudioEndpoint} (hnode : newNode global properties = some (deviceId, endpoint)) :
    endpoint.pipewireId = global.id := by
  simp only [newNode, Option.bind_eq_bind, Option.bind_eq_some_iff, Option.pure_def,
    Option.some.injEq, Prod.mk.injEq] at hnode
  obtain ⟨_, _, _, _, _, rfl⟩ := hnode
  rfl

theorem adds_global (state : ProbeState) (announced : Global) (bound : Bool) :
    Adds state (Announcement.global announced bound).device
      (Announcement.global announced bound).node none (state.bindGlobal announced bound) := by
  obtain ⟨id, type, props⟩ := announced
  cases props with
  | none => exact .nothing
  | some properties =>
    simp only [Announcement.device, Announcement.node, Option.bind_some, ProbeState.bindGlobal]
    cases type with
    | device =>
      simp only [reduceCtorEq, if_false, true_and, beq_iff_eq]
      by_cases hapi : properties.get "device.api" = some "bluez5"
      · cases bound with
        | true =>
          rw [if_pos hapi, if_pos ⟨hapi, rfl⟩]
          exact .device (newDevice ⟨id, .device, some properties⟩ properties)
        | false =>
          rw [if_pos hapi, if_neg (by simp)]
          exact .nothing
      · rw [if_neg hapi, if_neg fun h ↦ hapi h.1]
        exact .nothing
    | node =>
      simp only [reduceCtorEq, false_and, if_false, if_true, ProbeState.bindNode]
      cases hnode : newNode ⟨id, .node, some properties⟩ properties with
      | none => exact .nothing
      | some found =>
        obtain ⟨deviceId, endpoint⟩ := found
        obtain rfl : endpoint.pipewireId = id := id_of_newNode hnode
        exact .node deviceId endpoint
    | metadata => exact .nothing
    | other => exact .nothing

theorem adds_observe (state : ProbeState) (announcement : Announcement) :
    Adds state announcement.device announcement.node announcement.parameter
      (state.observe announcement) := by
  cases announcement with
  | global announced bound => exact adds_global state announced bound
  | param deviceId parameter pod =>
    simp only [Announcement.device, Announcement.node, Announcement.parameter,
      ProbeState.observe, ProbeState.param]
    cases pod.bind parseProfile with
    | none => exact .nothing
    | some profile => exact .parameter deviceId parameter profile

/-! ## The state after the announcements -/

def devicesOf (announcements : List Announcement) : List AudioDevice :=
  announcements.filterMap Announcement.device

def nodesOf (announcements : List Announcement) : List (UInt32 × AudioEndpoint) :=
  announcements.filterMap Announcement.node

/-- The parameters of one device. -/
def parametersOf (id : UInt32) (announcements : List Announcement) :
    List (ParamType × AudioProfile) :=
  (announcements.filterMap Announcement.parameter).filterMap fun parameter ↦
    if parameter.1 = id then some parameter.2 else none

/-- The profiles that a device offers. -/
def enumerated (parameters : List (ParamType × AudioProfile)) : List AudioProfile :=
  parameters.filterMap fun parameter ↦
    if parameter.1 = .enumProfile then some parameter.2 else none

/-- The profiles that a device reports as active. -/
def reported (parameters : List (ParamType × AudioProfile)) : List UInt32 :=
  parameters.filterMap fun parameter ↦
    if parameter.1 = .profile then some parameter.2.index else none

/-- Every global has its own identifier and every profile of a device its own index, and a device
is asked once for its active profile. -/
structure Distinct (announcements : List Announcement) : Prop where
  devices : ((devicesOf announcements).map AudioDevice.pipewireId).Nodup
  nodes : ((nodesOf announcements).map fun node ↦ node.2.pipewireId).Nodup
  profiles : ∀ device ∈ devicesOf announcements,
    ((enumerated (parametersOf device.pipewireId announcements)).map AudioProfile.index).Nodup
  active : ∀ device ∈ devicesOf announcements,
    (reported (parametersOf device.pipewireId announcements)).length ≤ 1

/-- A device with the profiles that were announced for it. -/
def AudioDevice.announced (self : AudioDevice) (announcements : List Announcement) : AudioDevice :=
  { self with
    profiles := enumerated (parametersOf self.pipewireId announcements)
    activeProfile := (reported (parametersOf self.pipewireId announcements)).getLast? }

/-- The nodes that were announced for a device, the internal ones apart. -/
def publicNodesOf (id : UInt32) (announcements : List Announcement) : List AudioEndpoint :=
  ((nodesOf announcements).filter fun node ↦ node.1 == id && !node.2.internal).map Prod.snd

/-- The parameters of a device come after the device. -/
def DeviceFirst (announcements : List Announcement) : Prop :=
  ∀ i < announcements.length, ∀ parameter ∈ announcements[i]?.bind Announcement.parameter,
    ∃ device ∈ devicesOf (announcements.take i), device.pipewireId = parameter.1

/-- A device to which the parameters were reported. -/
def AudioDevice.withParameters (self : AudioDevice)
    (parameters : List (ParamType × AudioProfile)) : AudioDevice :=
  parameters.foldl (fun device parameter ↦ updateProfile device parameter.1 parameter.2) self

/-- What the tables hold of devices, nodes and parameters. -/
structure Holds (devices : List AudioDevice) (nodes : List (UInt32 × AudioEndpoint))
    (parameters : UInt32 → List (ParamType × AudioProfile)) (state : ProbeState) : Prop where
  devices : ∀ id device, state.devices.lookup id = some device ↔
    ∃ announced ∈ devices, announced.pipewireId = id ∧
      device = announced.withParameters (parameters id)
  entries : ∀ id, (∃ table, state.endpoints.lookup id = some table) ↔ ∃ node ∈ nodes, node.1 = id
  nodes : ∀ id table, state.endpoints.lookup id = some table → ∀ key endpoint,
    table.lookup key = some endpoint ↔ (id, endpoint) ∈ nodes ∧ endpoint.pipewireId = key

section Steps

variable {devices : List AudioDevice} {nodes : List (UInt32 × AudioEndpoint)}
  {parameters : UInt32 → List (ParamType × AudioProfile)} {state : ProbeState}

theorem Holds.device (holds : Holds devices nodes parameters state) {device : AudioDevice}
    (hfresh : ∀ other ∈ devices, other.pipewireId ≠ device.pipewireId)
    (hnone : parameters device.pipewireId = []) :
    Holds (devices ++ [device]) nodes parameters
      { state with devices := state.devices.insert device.pipewireId device } := by
  refine { holds with devices := ?_ }
  intro id found
  simp only [Table.lookup_insert_eq_some, holds.devices, List.mem_append, List.mem_singleton]
  constructor
  · rintro (⟨rfl, rfl⟩ | ⟨_, announced, hmem, hsame⟩)
    · exact ⟨device, .inr rfl, rfl, by rw [hnone]; rfl⟩
    · exact ⟨announced, .inl hmem, hsame⟩
  · rintro ⟨announced, hmem | rfl, rfl, rfl⟩
    · exact .inr ⟨hfresh announced hmem, announced, hmem, rfl, rfl⟩
    · exact .inl ⟨rfl, by rw [hnone]; rfl⟩

theorem Holds.parameter (holds : Holds devices nodes parameters state) (deviceId : UInt32)
    (parameter : ParamType) (profile : AudioProfile) :
    Holds devices nodes
      (fun id ↦ parameters id ++ if deviceId = id then [(parameter, profile)] else [])
      { state with devices := state.devices.modify deviceId (updateProfile · parameter profile) } := by
  refine { holds with devices := ?_ }
  intro id found
  rw [Table.lookup_modify]
  by_cases hid : id = deviceId
  · subst hid
    simp only [if_true, Option.map_eq_some_iff, holds.devices, AudioDevice.withParameters,
      List.foldl_append, List.foldl_cons, List.foldl_nil]
    constructor
    · rintro ⟨before, ⟨announced, hmem, hsame, rfl⟩, rfl⟩
      exact ⟨announced, hmem, hsame, rfl⟩
    · rintro ⟨announced, hmem, hsame, rfl⟩
      exact ⟨_, ⟨announced, hmem, hsame, rfl⟩, rfl⟩
  · rw [if_neg hid, if_neg fun h ↦ hid h.symm, List.append_nil]
    exact holds.devices id found

/-- A device without a table has no nodes. -/
theorem Holds.lookup_node (holds : Holds devices nodes parameters state) (id key : UInt32)
    (endpoint : AudioEndpoint) :
    ((state.endpoints.lookup id).getD ∅).lookup key = some endpoint ↔
      (id, endpoint) ∈ nodes ∧ endpoint.pipewireId = key := by
  cases htable : state.endpoints.lookup id with
  | some table => exact holds.nodes id table htable key endpoint
  | none =>
    have hempty : (id, endpoint) ∉ nodes := fun hmem ↦ by
      obtain ⟨table, hfound⟩ := (holds.entries id).mpr ⟨_, hmem, rfl⟩
      rw [htable] at hfound
      cases hfound
    constructor
    · intro hfound
      cases hfound
    · intro hfound
      exact absurd hfound.1 hempty

theorem Holds.node (holds : Holds devices nodes parameters state) {deviceId : UInt32}
    {endpoint : AudioEndpoint}
    (hfresh : ∀ other ∈ nodes, other.2.pipewireId ≠ endpoint.pipewireId) :
    Holds devices (nodes ++ [(deviceId, endpoint)]) parameters
      { state with
        endpoints := state.endpoints.update deviceId ∅ (·.insert endpoint.pipewireId endpoint) } := by
  refine { holds with entries := ?_, nodes := ?_ }
  · intro id
    simp only [Table.lookup_update, List.mem_append, List.mem_singleton]
    split
    case isTrue hid => exact ⟨fun _ ↦ ⟨_, .inr rfl, hid.symm⟩, fun _ ↦ ⟨_, rfl⟩⟩
    case isFalse hid =>
      rw [holds.entries]
      constructor
      · rintro ⟨node, hmem, rfl⟩
        exact ⟨node, .inl hmem, rfl⟩
      · rintro ⟨node, hmem | rfl, rfl⟩
        · exact ⟨node, hmem, rfl⟩
        · exact absurd rfl hid
  · intro id table htable key found
    simp only [Table.lookup_update] at htable
    simp only [List.mem_append, List.mem_singleton, Prod.mk.injEq]
    split at htable
    case isTrue hid =>
      obtain rfl := Option.some.inj htable
      subst hid
      rw [Table.lookup_insert_eq_some, holds.lookup_node]
      constructor
      · rintro (⟨rfl, rfl⟩ | ⟨_, hmem, hsame⟩)
        · exact ⟨.inr ⟨rfl, rfl⟩, rfl⟩
        · exact ⟨.inl hmem, hsame⟩
      · rintro ⟨hmem | ⟨_, rfl⟩, rfl⟩
        · exact .inr ⟨hfresh _ hmem, hmem, rfl⟩
        · exact .inl ⟨rfl, rfl⟩
    case isFalse hid =>
      rw [holds.nodes id table htable]
      constructor
      · rintro ⟨hmem, hsame⟩
        exact ⟨.inl hmem, hsame⟩
      · rintro ⟨hmem | ⟨hsame, _⟩, hkey⟩
        · exact ⟨hmem, hkey⟩
        · exact absurd hsame hid

end Steps

section Runs

variable {announcements : List Announcement} {announcement : Announcement}

theorem devicesOf_append : devicesOf (announcements ++ [announcement]) =
    devicesOf announcements ++ announcement.device.toList := by
  rw [devicesOf, List.filterMap_append]
  cases hdevice : announcement.device <;> simp [devicesOf, hdevice]

theorem nodesOf_append : nodesOf (announcements ++ [announcement]) =
    nodesOf announcements ++ announcement.node.toList := by
  rw [nodesOf, List.filterMap_append]
  cases hnode : announcement.node <;> simp [nodesOf, hnode]

theorem parametersOf_append (id : UInt32) : parametersOf id (announcements ++ [announcement]) =
    parametersOf id announcements ++ announcement.parameter.toList.filterMap fun parameter ↦
      if parameter.1 = id then some parameter.2 else none := by
  rw [parametersOf, List.filterMap_append, List.filterMap_append]
  cases hparameter : announcement.parameter <;> simp [parametersOf, hparameter]

theorem DeviceFirst.init (hfirst : DeviceFirst (announcements ++ [announcement])) :
    DeviceFirst announcements := by
  intro i hi parameter hparameter
  have hlonger : i < (announcements ++ [announcement]).length := by
    rw [List.length_append]
    exact Nat.lt_add_right _ hi
  have hearlier := hfirst i hlonger parameter
  rw [List.getElem?_append_left hi, List.take_append_of_le_length (Nat.le_of_lt hi)] at hearlier
  exact hearlier hparameter

/-- Nothing was reported to a device that is still to come. -/
theorem parametersOf_eq_nil (hfirst : DeviceFirst announcements) {id : UInt32}
    (hnone : ∀ device ∈ devicesOf announcements, device.pipewireId ≠ id) :
    parametersOf id announcements = [] := by
  apply List.filterMap_eq_nil_iff.mpr
  intro parameter hparameter
  obtain ⟨announcement, hmem, hadded⟩ := List.mem_filterMap.mp hparameter
  obtain ⟨i, hi, hget⟩ := List.getElem_of_mem hmem
  have hthere : parameter ∈ announcements[i]?.bind Announcement.parameter := by
    rw [List.getElem?_eq_getElem hi, hget]
    exact hadded
  obtain ⟨device, hdevice, hid⟩ := hfirst i hi parameter hthere
  have hearlier : device ∈ devicesOf announcements :=
    ((List.take_sublist i announcements).filterMap _).subset hdevice
  exact if_neg fun heq ↦ hnone device hearlier (hid.trans heq)

theorem holds_probe
    (hdevices : ((devicesOf announcements).map AudioDevice.pipewireId).Nodup)
    (hnodes : ((nodesOf announcements).map fun node ↦ node.2.pipewireId).Nodup)
    (hfirst : DeviceFirst announcements) :
    Holds (devicesOf announcements) (nodesOf announcements)
      (fun id ↦ parametersOf id announcements) (probe announcements) := by
  induction announcements using List.reverseRecOn with
  | nil =>
    refine ⟨fun id device ↦ ?_, fun id ↦ ?_, fun id table htable ↦ ?_⟩
    · simp [probe, devicesOf]
    · simp [probe, nodesOf]
    · cases htable
  | append_singleton announcements announcement ih =>
    simp only [devicesOf_append, nodesOf_append, parametersOf_append] at hdevices hnodes ⊢
    rw [List.map_append, List.nodup_append] at hdevices hnodes
    have hadds := adds_observe (probe announcements) announcement
    have holds := ih hdevices.1 hnodes.1 hfirst.init
    have hprobe : probe (announcements ++ [announcement]) =
        (probe announcements).observe announcement := by
      rw [probe, List.foldl_append]
      rfl
    rw [hprobe]
    generalize (probe announcements).observe announcement = next at hadds ⊢
    generalize announcement.device = added at hadds hdevices ⊢
    generalize announcement.node = node at hadds hnodes ⊢
    generalize announcement.parameter = parameter at hadds ⊢
    cases hadds with
    | device device =>
      simp only [Option.toList_none, List.filterMap_nil, List.append_nil]
      have hfresh : ∀ other ∈ devicesOf announcements, other.pipewireId ≠ device.pipewireId :=
        fun other hother ↦ hdevices.2.2 _ (List.mem_map_of_mem hother) _ (by simp)
      exact holds.device hfresh (parametersOf_eq_nil hfirst.init hfresh)
    | node deviceId endpoint =>
      simp only [Option.toList_none, List.filterMap_nil, List.append_nil]
      exact holds.node fun other hother ↦
        hnodes.2.2 _ (List.mem_map_of_mem hother) _ (by simp)
    | parameter deviceId parameter profile =>
      simp only [Option.toList_none, List.append_nil]
      have hparameters := holds.parameter deviceId parameter profile
      have hlists : ∀ id, [(deviceId, parameter, profile)].filterMap (fun added ↦
          if added.1 = id then some added.2 else none) =
            if deviceId = id then [(parameter, profile)] else [] := fun id ↦ by
        by_cases hid : deviceId = id <;> simp [hid]
      simpa only [Option.toList_some, hlists] using hparameters
    | nothing =>
      simp only [Option.toList_none, List.filterMap_nil, List.append_nil]
      exact holds

end Runs

/-! ## Reported parameters -/

section Parameters

variable {parameters others : List (ParamType × AudioProfile)}

/-- A profile whose index is new is added at the end. -/
theorem withParameters_eq (base : AudioDevice)
    (hnodup : ((base.profiles ++ enumerated parameters).map AudioProfile.index).Nodup) :
    base.withParameters parameters =
      { base with
        profiles := base.profiles ++ enumerated parameters
        activeProfile := (reported parameters).getLast?.or base.activeProfile } := by
  induction parameters generalizing base with
  | nil => simp [AudioDevice.withParameters, enumerated, reported]
  | cons parameter rest ih =>
    obtain ⟨type, profile⟩ := parameter
    have hstep : base.withParameters ((type, profile) :: rest) =
        (updateProfile base type profile).withParameters rest := rfl
    rw [hstep]
    cases type with
    | profile =>
      have henumerated : enumerated ((.profile, profile) :: rest) = enumerated rest := rfl
      have hreported : reported ((.profile, profile) :: rest) = profile.index :: reported rest :=
        rfl
      rw [henumerated] at hnodup ⊢
      have hrest := ih (updateProfile base .profile profile) hnodup
      rw [hrest, hreported, List.getLast?_cons]
      cases (reported rest).getLast? <;> rfl
    | enumProfile =>
      have henumerated : enumerated ((.enumProfile, profile) :: rest) =
          profile :: enumerated rest := rfl
      have hreported : reported ((.enumProfile, profile) :: rest) = reported rest := rfl
      rw [henumerated] at hnodup ⊢
      have hnew : (base.profiles.any fun item ↦ item.index == profile.index) = false := by
        rw [List.map_append, List.nodup_append] at hnodup
        apply List.any_eq_false.mpr
        intro item hitem heq
        exact hnodup.2.2 _ (List.mem_map_of_mem hitem) _ (by simp) (eq_of_beq heq)
      have hbase : updateProfile base .enumProfile profile =
          { base with profiles := base.profiles ++ [profile] } := by
        simp [updateProfile, hnew]
      have hsplit : base.profiles ++ profile :: enumerated rest =
          base.profiles ++ [profile] ++ enumerated rest := by simp
      rw [hsplit] at hnodup ⊢
      have hrest := ih { base with profiles := base.profiles ++ [profile] } hnodup
      rw [hbase, hrest, hreported]
    | other => exact ih base hnodup

theorem reported_eq_of_perm (hperm : parameters.Perm others)
    (hone : (reported parameters).length ≤ 1) : reported parameters = reported others := by
  have hreported : (reported parameters).Perm (reported others) := hperm.filterMap _
  cases hlist : reported parameters with
  | nil =>
    rw [hlist] at hreported
    exact hreported.nil_eq
  | cons index rest =>
    rw [hlist] at hreported hone
    obtain rfl : rest = [] := List.length_eq_zero_iff.mp (by simpa using hone)
    exact (List.perm_singleton.mp hreported.symm).symm

/-- The order in which a device reports its profiles is the order of its list. -/
theorem sameDevice_withParameters {base : AudioDevice} (hnone : base.profiles = [])
    (hperm : parameters.Perm others)
    (hnodup : ((enumerated parameters).map AudioProfile.index).Nodup)
    (hone : (reported parameters).length ≤ 1) :
    SameDevice (base.withParameters parameters) (base.withParameters others) := by
  have henumerated : (enumerated parameters).Perm (enumerated others) := hperm.filterMap _
  have hothers := (henumerated.map AudioProfile.index).nodup_iff.mp hnodup
  rw [withParameters_eq base (by rwa [hnone]), withParameters_eq base (by rwa [hnone]),
    reported_eq_of_perm hperm hone]
  exact ⟨rfl, rfl, rfl, rfl, rfl, rfl, henumerated.append_left _, .refl _⟩

end Parameters

/-! ## The order of the announcements -/

theorem sameTables_symm {first second : Option DeviceEndpoints}
    (hsame : Option.Rel (· ≈ ·) first second) : Option.Rel (· ≈ ·) second first := by
  cases hsame with
  | none => exact .none
  | some hequal => exact .some (Setoid.symm hequal)

theorem sameTables_trans {first second third : Option DeviceEndpoints}
    (hfirst : Option.Rel (· ≈ ·) first second) (hsecond : Option.Rel (· ≈ ·) second third) :
    Option.Rel (· ≈ ·) first third := by
  cases hfirst with
  | none => exact hsecond
  | some hequal =>
    cases hsecond with
    | some hnext => exact .some (Setoid.trans hequal hnext)

/-- What `finish` can find in the tables, which are iterated in any order. -/
structure ProbeState.Drained (state : ProbeState) (devices : List AudioDevice)
    (endpoints : Table UInt32 DeviceEndpoints) : Prop where
  devices : devices.Perm state.devices.values
  nodes : ∀ id, Option.Rel (· ≈ ·) (state.endpoints.lookup id) (endpoints.lookup id)

theorem ProbeState.drained (state : ProbeState) :
    state.Drained state.devices.values state.endpoints := by
  refine ⟨.refl _, fun id ↦ ?_⟩
  cases state.endpoints.lookup id with
  | none => exact .none
  | some table => exact .some (Setoid.refl table)

theorem ProbeState.Drained.table {state : ProbeState} {devices : List AudioDevice}
    {endpoints : Table UInt32 DeviceEndpoints} (hdrained : state.Drained devices endpoints)
    {id : UInt32} {nodes : DeviceEndpoints} (hlookup : endpoints.lookup id = some nodes) :
    ∃ table, state.endpoints.lookup id = some table ∧ table ≈ nodes := by
  have hrel := hdrained.nodes id
  rw [hlookup] at hrel
  generalize state.endpoints.lookup id = found at hrel ⊢
  cases hrel with
  | some hsame => exact ⟨_, rfl, hsame⟩

theorem ProbeState.Drained.noTable {state : ProbeState} {devices : List AudioDevice}
    {endpoints : Table UInt32 DeviceEndpoints} (hdrained : state.Drained devices endpoints)
    {id : UInt32} (hlookup : endpoints.lookup id = none) : state.endpoints.lookup id = none := by
  have hrel := hdrained.nodes id
  rw [hlookup] at hrel
  generalize state.endpoints.lookup id = found at hrel ⊢
  cases hrel
  rfl

/-- A device that was bound has neither profiles nor nodes. -/
theorem empty_of_mem_devicesOf {announcements : List Announcement} {device : AudioDevice}
    (hdevice : device ∈ devicesOf announcements) :
    device.profiles = [] ∧ device.endpoints = [] ∧ device.activeProfile = none := by
  obtain ⟨announcement, _, hadded⟩ := List.mem_filterMap.mp hdevice
  cases announcement with
  | param deviceId parameter pod => cases hadded
  | global announced bound =>
    obtain ⟨properties, _, hnew⟩ := Option.bind_eq_some_iff.mp hadded
    split at hnew
    case isTrue =>
      obtain rfl := Option.some.inj hnew
      exact ⟨rfl, rfl, rfl⟩
    case isFalse => cases hnew

section Drained

variable {announcements : List Announcement} {devices : List AudioDevice}
  {endpoints : Table UInt32 DeviceEndpoints}

theorem Distinct.withParameters (hdistinct : Distinct announcements) {device : AudioDevice}
    (hdevice : device ∈ devicesOf announcements) :
    device.withParameters (parametersOf device.pipewireId announcements) =
      { device with
        profiles := enumerated (parametersOf device.pipewireId announcements)
        activeProfile := (reported (parametersOf device.pipewireId announcements)).getLast?.or
          device.activeProfile } := by
  have hempty := (empty_of_mem_devicesOf hdevice).1
  rw [withParameters_eq device, hempty, List.nil_append]
  rw [hempty, List.nil_append]
  exact hdistinct.profiles device hdevice

theorem Distinct.holds (hdistinct : Distinct announcements) (hfirst : DeviceFirst announcements) :
    Holds (devicesOf announcements) (nodesOf announcements)
      (fun id ↦ parametersOf id announcements) (probe announcements) :=
  holds_probe hdistinct.devices hdistinct.nodes hfirst

variable (hdistinct : Distinct announcements) (hfirst : DeviceFirst announcements)
  (hdrained : (probe announcements).Drained devices endpoints)

include hdistinct hfirst hdrained

theorem mem_drained (device : AudioDevice) : device ∈ devices ↔
    ∃ announced ∈ devicesOf announcements,
      device = announced.withParameters (parametersOf announced.pipewireId announcements) := by
  rw [hdrained.devices.mem_iff, Table.mem_values]
  simp only [(hdistinct.holds hfirst).devices]
  constructor
  · rintro ⟨_, announced, hmem, rfl, hdevice⟩
    exact ⟨announced, hmem, hdevice⟩
  · rintro ⟨announced, hmem, hdevice⟩
    exact ⟨_, announced, hmem, rfl, hdevice⟩

theorem uniqueArguments_of_drained : UniqueArguments devices endpoints where
  ids := by
    refine (hdrained.devices.map _).nodup_iff.mpr (Table.nodup_names ?_)
    intro id device hlookup
    obtain ⟨announced, hmem, rfl, rfl⟩ := ((hdistinct.holds hfirst).devices id device).mp hlookup
    rw [hdistinct.withParameters hmem]
  each device hdevice := by
    obtain ⟨announced, hmem, rfl⟩ :=
      (mem_drained hdistinct hfirst hdrained device).mp hdevice
    rw [hdistinct.withParameters hmem]
    refine ⟨hdistinct.profiles announced hmem, ?_⟩
    dsimp only
    rw [(empty_of_mem_devicesOf hmem).2.1]
    exact List.nodup_nil
  nodes id nodes hlookup := by
    obtain ⟨table, htable, hsame⟩ := hdrained.table hlookup
    refine ((Table.values_perm hsame).map _).nodup_iff.mp (Table.nodup_names ?_)
    intro key endpoint hfound
    exact (((hdistinct.holds hfirst).nodes id table htable key endpoint).mp hfound).2

omit hfirst hdrained in
theorem Distinct.announced {device : AudioDevice} (hdevice : device ∈ devicesOf announcements) :
    device.withParameters (parametersOf device.pipewireId announcements) =
      device.announced announcements := by
  have hinactive : device.activeProfile = none := (empty_of_mem_devicesOf hdevice).2.2
  rw [hdistinct.withParameters hdevice, hinactive, Option.or_none]
  rfl

/-- What is passed on are the devices that were announced. -/
theorem drained_perm : devices.Perm
    ((devicesOf announcements).map fun device ↦ device.announced announcements) := by
  have hids := (uniqueArguments_of_drained hdistinct hfirst hdrained).ids
  have hknown : ((devicesOf announcements).map fun device ↦ device.announced announcements).map
      AudioDevice.pipewireId = (devicesOf announcements).map AudioDevice.pipewireId := by
    rw [List.map_map]
    rfl
  refine (List.perm_ext_iff_of_nodup (List.Nodup.of_map _ hids)
    (List.Nodup.of_map _ (hknown ▸ hdistinct.devices))).mpr fun device ↦ ?_
  rw [mem_drained hdistinct hfirst hdrained, List.mem_map]
  constructor
  · rintro ⟨announced, hmem, rfl⟩
    exact ⟨announced, hmem, (hdistinct.announced hmem).symm⟩
  · rintro ⟨announced, hmem, rfl⟩
    exact ⟨announced, hmem, (hdistinct.announced hmem).symm⟩

omit hdistinct hfirst hdrained in
theorem mem_publicNodesOf {id : UInt32} {endpoint : AudioEndpoint} :
    endpoint ∈ publicNodesOf id announcements ↔
      (id, endpoint) ∈ nodesOf announcements ∧ endpoint.internal = false := by
  simp only [publicNodesOf, List.mem_map, List.mem_filter, Bool.and_eq_true, beq_iff_eq,
    Bool.not_eq_true', Prod.exists]
  constructor
  · rintro ⟨_, _, ⟨hmem, rfl, hpublic⟩, rfl⟩
    exact ⟨hmem, hpublic⟩
  · rintro ⟨hmem, hpublic⟩
    exact ⟨id, endpoint, ⟨hmem, rfl, hpublic⟩, rfl⟩

omit hfirst hdrained in
theorem Distinct.nodup_publicNodesOf (id : UInt32) :
    (publicNodesOf id announcements).Nodup := by
  apply List.Nodup.of_map AudioEndpoint.pipewireId
  rw [publicNodesOf, List.map_map]
  exact hdistinct.nodes.sublist (List.filter_sublist.map _)

omit hdrained in
/-- Without a table no node was announced for the device. -/
theorem publicNodesOf_eq_nil {id : UInt32}
    (hnone : (probe announcements).endpoints.lookup id = none) :
    publicNodesOf id announcements = [] := by
  rw [List.eq_nil_iff_forall_not_mem]
  intro endpoint hendpoint
  obtain ⟨table, hfound⟩ := ((hdistinct.holds hfirst).entries id).mpr
    ⟨_, (mem_publicNodesOf.mp hendpoint).1, rfl⟩
  exact nomatch hnone.symm.trans hfound

theorem publicNodes_perm {device : AudioDevice} (hdevice : device ∈ devices) :
    (device.publicNodes endpoints).Perm (publicNodesOf device.pipewireId announcements) := by
  unfold AudioDevice.publicNodes
  cases hlookup : endpoints.lookup device.pipewireId with
  | none =>
    rw [publicNodesOf_eq_nil hdistinct hfirst (hdrained.noTable hlookup)]
    obtain ⟨announced, hmem, rfl⟩ := (mem_drained hdistinct hfirst hdrained device).mp hdevice
    rw [hdistinct.announced hmem]
    change announced.endpoints.Perm []
    rw [(empty_of_mem_devicesOf hmem).2.1]
  | some nodes =>
    obtain ⟨table, htable, hsame⟩ := hdrained.table hlookup
    have hids := (uniqueArguments_of_drained hdistinct hfirst hdrained).nodes
      device.pipewireId nodes hlookup
    refine (List.perm_ext_iff_of_nodup ((List.Nodup.of_map _ hids).filter _)
      (hdistinct.nodup_publicNodesOf _)).mpr fun endpoint ↦ ?_
    rw [List.mem_filter, mem_publicNodesOf, ← (Table.values_perm hsame).mem_iff, Table.mem_values]
    simp only [(hdistinct.holds hfirst).nodes _ table htable, exists_and_left, exists_eq', and_true,
      Bool.not_eq_true']

end Drained

section Order

variable {first second : List Announcement} {devices others : List AudioDevice}
  {endpoints otherEndpoints : Table UInt32 DeviceEndpoints}

theorem parametersOf_perm (hperm : first.Perm second) (id : UInt32) :
    (parametersOf id first).Perm (parametersOf id second) :=
  (hperm.filterMap _).filterMap _

theorem Distinct.of_perm (hdistinct : Distinct first) (hperm : first.Perm second) :
    Distinct second where
  devices := ((hperm.filterMap _).map _).nodup_iff.mp hdistinct.devices
  nodes := ((hperm.filterMap _).map _).nodup_iff.mp hdistinct.nodes
  profiles device hdevice := by
    have henumerated : (enumerated (parametersOf device.pipewireId first)).Perm
        (enumerated (parametersOf device.pipewireId second)) :=
      (parametersOf_perm hperm _).filterMap _
    have hmem := (hperm.filterMap Announcement.device).mem_iff.mpr hdevice
    exact (henumerated.map _).nodup_iff.mp (hdistinct.profiles device hmem)
  active device hdevice := by
    have hreported : (reported (parametersOf device.pipewireId first)).Perm
        (reported (parametersOf device.pipewireId second)) :=
      (parametersOf_perm hperm _).filterMap _
    have hmem := (hperm.filterMap Announcement.device).mem_iff.mpr hdevice
    rw [← hreported.length_eq]
    exact hdistinct.active device hmem

/-- The tables of two probes that heard the same in another order. -/
theorem nodes_of_perm (hdistinct : Distinct first) (hperm : first.Perm second)
    (hfirst : DeviceFirst first) (hsecond : DeviceFirst second) (id : UInt32) :
    Option.Rel (· ≈ ·) ((probe first).endpoints.lookup id)
      ((probe second).endpoints.lookup id) := by
  have hone := hdistinct.holds hfirst
  have htwo := (hdistinct.of_perm hperm).holds hsecond
  have hnodes : ∀ node, node ∈ nodesOf first ↔ node ∈ nodesOf second :=
    fun node ↦ (hperm.filterMap _).mem_iff
  have hentries : (∃ table, (probe first).endpoints.lookup id = some table) ↔
      ∃ table, (probe second).endpoints.lookup id = some table := by
    simp only [hone.entries, htwo.entries, hnodes]
  cases hleft : (probe first).endpoints.lookup id with
  | none =>
    cases hright : (probe second).endpoints.lookup id with
    | none => exact .none
    | some table => simp [hleft, hright] at hentries
  | some left =>
    cases hright : (probe second).endpoints.lookup id with
    | none => simp [hleft, hright] at hentries
    | some right =>
      refine .some fun key ↦ ?_
      ext endpoint
      rw [hone.nodes id left hleft, htwo.nodes id right hright, hnodes]

/-- What two probes that heard the same in another order can pass on. -/
theorem sameArguments_of_perm (hdistinct : Distinct first) (hperm : first.Perm second)
    (hfirst : DeviceFirst first) (hsecond : DeviceFirst second)
    (hdrained : (probe first).Drained devices endpoints)
    (hother : (probe second).Drained others otherEndpoints) :
    SameArguments devices others endpoints otherEndpoints := by
  have hdevicesOf : ∀ device, device ∈ devicesOf first ↔ device ∈ devicesOf second :=
    fun device ↦ (hperm.filterMap _).mem_iff
  have hsame : ∀ announced ∈ devicesOf first,
      SameDevice (announced.withParameters (parametersOf announced.pipewireId first))
        (announced.withParameters (parametersOf announced.pipewireId second)) :=
    fun announced hmem ↦ sameDevice_withParameters (empty_of_mem_devicesOf hmem).1
      (parametersOf_perm hperm _) (hdistinct.profiles announced hmem)
      (hdistinct.active announced hmem)
  have hleft := mem_drained hdistinct hfirst hdrained
  have hright := mem_drained (hdistinct.of_perm hperm) hsecond hother
  refine ⟨?_, ?_, fun id ↦ ?_⟩
  · intro device hdevice
    obtain ⟨announced, hmem, rfl⟩ := (hleft device).mp hdevice
    exact ⟨_, (hright _).mpr ⟨announced, (hdevicesOf _).mp hmem, rfl⟩, hsame announced hmem⟩
  · intro device hdevice
    obtain ⟨announced, hmem, rfl⟩ := (hright device).mp hdevice
    have hearlier := (hdevicesOf announced).mpr hmem
    exact ⟨_, (hleft _).mpr ⟨announced, hearlier, rfl⟩, hsame announced hearlier⟩
  · have htables := nodes_of_perm hdistinct hperm hfirst hsecond id
    exact sameTables_trans (sameTables_trans (sameTables_symm (hdrained.nodes id)) htables)
      (hother.nodes id)

end Order

/-! ## Finalization is deterministic -/

/-- Two finalizations publish the same: one device for each that was passed on, made of its public
nodes and its profiles. Each of them is settled, and its aliases are the greatest nodes of their
kinds. -/
structure Deterministic (toLowercase : String → String) (defaults : Defaults)
    (devices others : List AudioDevice)
    (endpoints otherEndpoints : Table UInt32 DeviceEndpoints) : Prop where
  same : (finalizeDevices toLowercase devices endpoints defaults).map AudioDevice.published =
    (finalizeDevices toLowercase others otherEndpoints defaults).map AudioDevice.published
  publishes : Publishes toLowercase defaults devices (fun device ↦ device.publicNodes endpoints)
    (finalizeDevices toLowercase devices endpoints defaults)
  settled : ∀ device ∈ finalizeDevices toLowercase devices endpoints defaults,
    Settled defaults device
  sink : ∀ device ∈ finalizeDevices toLowercase devices endpoints defaults,
    Greatest .sink device.endpoints device.sink
  source : ∀ device ∈ finalizeDevices toLowercase devices endpoints defaults,
    Greatest .source device.endpoints device.source

section Main

variable (toLowercase : String → String) (defaults : Defaults)
  {devices others : List AudioDevice} {endpoints otherEndpoints : Table UInt32 DeviceEndpoints}

theorem deterministic_of_same (hunique : UniqueArguments devices endpoints)
    (hother : UniqueArguments others otherEndpoints)
    (hsame : SameArguments devices others endpoints otherEndpoints) :
    Deterministic toLowercase defaults devices others endpoints otherEndpoints where
  same := finalizeDevices_same toLowercase hunique hother hsame
  publishes := publishes_finalizeDevices defaults toLowercase hunique
  settled device hmem := by
    obtain ⟨source, hsource, rfl⟩ := mem_finalizeDevices toLowercase hunique hmem
    exact settled_finalize
      (unique_takeNodes (hunique.each source hsource) fun found ↦ hunique.nodes _ found)
  sink device hmem := by
    obtain ⟨source, _, rfl⟩ := mem_finalizeDevices toLowercase hunique hmem
    exact greatest_find defaults .sink _
  source device hmem := by
    obtain ⟨source, _, rfl⟩ := mem_finalizeDevices toLowercase hunique hmem
    exact greatest_find defaults .source _

/-- One device is published for each that was announced, with the profiles and the public nodes
that were announced for it. -/
theorem publishes_of_drained {announcements : List Announcement}
    (hdistinct : Distinct announcements) (hfirst : DeviceFirst announcements)
    (hdrained : (probe announcements).Drained devices endpoints) :
    Publishes toLowercase defaults
      ((devicesOf announcements).map fun device ↦ device.announced announcements)
      (fun device ↦ publicNodesOf device.pipewireId announcements)
      (finalizeDevices toLowercase devices endpoints defaults) := by
  obtain ⟨order, hperm, hordered, hcompleted⟩ := publishes_finalizeDevices defaults
    toLowercase (uniqueArguments_of_drained hdistinct hfirst hdrained)
  refine ⟨order, hperm.trans (drained_perm hdistinct hfirst hdrained), hordered, ?_⟩
  refine ((List.forall₂_and_left _ _).mpr ⟨fun _ hmem ↦ hperm.mem_iff.mp hmem, hcompleted⟩).imp ?_
  rintro device output ⟨hdevice, houtput⟩
  exact houtput.of_perm (publicNodes_perm hdistinct hfirst hdrained hdevice)

/-- Internal nodes are not published. -/
theorem public_of_drained {announcements : List Announcement} (hdistinct : Distinct announcements)
    (hfirst : DeviceFirst announcements)
    (hdrained : (probe announcements).Drained devices endpoints) :
    ∀ device ∈ finalizeDevices toLowercase devices endpoints defaults,
      ∀ node ∈ device.endpoints, node.internal = false := by
  intro device hdevice node hnode
  have hunique := uniqueArguments_of_drained hdistinct hfirst hdrained
  obtain ⟨source, hsource, rfl⟩ := mem_finalizeDevices toLowercase hunique hdevice
  obtain ⟨announced, hmem, rfl⟩ := (mem_drained hdistinct hfirst hdrained source).mp hsource
  refine public_complete ?_ hnode
  rw [hdistinct.withParameters hmem]
  exact (empty_of_mem_devicesOf hmem).2.1

/-- The published audio state depends on what was announced alone. -/
theorem audioState_deterministic :
    (∀ (devices others : List AudioDevice)
        (endpoints otherEndpoints : Table UInt32 DeviceEndpoints),
      UniqueArguments devices endpoints → UniqueArguments others otherEndpoints →
      SameArguments devices others endpoints otherEndpoints →
      Deterministic toLowercase defaults devices others endpoints otherEndpoints) ∧
    ∀ first second : List Announcement, first.Perm second → Distinct first →
      DeviceFirst first → DeviceFirst second →
      ∀ (devices others : List AudioDevice)
        (endpoints otherEndpoints : Table UInt32 DeviceEndpoints),
      (probe first).Drained devices endpoints → (probe second).Drained others otherEndpoints →
      Deterministic toLowercase defaults devices others endpoints otherEndpoints ∧
        Publishes toLowercase defaults
          ((devicesOf first).map fun device ↦ device.announced first)
          (fun device ↦ publicNodesOf device.pipewireId first)
          (finalizeDevices toLowercase devices endpoints defaults) ∧
        ∀ device ∈ finalizeDevices toLowercase devices endpoints defaults,
          ∀ node ∈ device.endpoints, node.internal = false := by
  refine ⟨fun _ _ _ _ ↦ deterministic_of_same toLowercase defaults, ?_⟩
  intro first second hperm hdistinct hfirst hsecond devices others endpoints otherEndpoints
    hdrained hother
  have hunique := uniqueArguments_of_drained hdistinct hfirst hdrained
  have hotherUnique := uniqueArguments_of_drained (hdistinct.of_perm hperm) hsecond hother
  have hsame := sameArguments_of_perm hdistinct hperm hfirst hsecond hdrained hother
  exact ⟨deterministic_of_same toLowercase defaults hunique hotherUnique hsame,
    publishes_of_drained toLowercase defaults hdistinct hfirst hdrained,
    public_of_drained toLowercase defaults hdistinct hfirst hdrained⟩

end Main

/-- A headset with a transport node, two public nodes of one name and two profiles. -/
def headsetAnnouncements : List Announcement :=
  [.global ⟨7, .device, some [("device.api", "bluez5"), ("device.alias", "Headset")]⟩ true,
    .global ⟨10, .node, some [("device.id", "7"), ("media.class", "Audio/Sink"),
      ("node.name", "out"), ("api.bluez5.codec", "lc3")]⟩ true,
    .global ⟨11, .node, some [("device.id", "7"), ("media.class", "Audio/Sink"),
      ("node.name", "out"), ("priority.session", "-5")]⟩ true,
    .global ⟨12, .node, some [("device.id", "7"), ("media.class", "Audio/Source"),
      ("node.name", "transport"), ("api.bluez5.internal", "true")]⟩ false,
    .param 7 .enumProfile (some (.object .paramProfile [(.index, .int 2)])),
    .param 7 .enumProfile (some (.object .paramProfile [(.index, .int 1)])),
    .param 7 .profile (some (.object .paramProfile [(.index, .int 2)]))]

/-- The same announcements in another order. -/
def otherAnnouncements : List Announcement :=
  [.global ⟨12, .node, some [("device.id", "7"), ("media.class", "Audio/Source"),
      ("node.name", "transport"), ("api.bluez5.internal", "true")]⟩ false,
    .global ⟨11, .node, some [("device.id", "7"), ("media.class", "Audio/Sink"),
      ("node.name", "out"), ("priority.session", "-5")]⟩ true,
    .global ⟨7, .device, some [("device.api", "bluez5"), ("device.alias", "Headset")]⟩ true,
    .param 7 .profile (some (.object .paramProfile [(.index, .int 2)])),
    .param 7 .enumProfile (some (.object .paramProfile [(.index, .int 1)])),
    .global ⟨10, .node, some [("device.id", "7"), ("media.class", "Audio/Sink"),
      ("node.name", "out"), ("api.bluez5.codec", "lc3")]⟩ true,
    .param 7 .enumProfile (some (.object .paramProfile [(.index, .int 2)]))]

/-- The headset is published with its two public nodes and its two profiles. -/
theorem audioState_deterministic_headset :
    (probe headsetAnnouncements).devices.values ≠ (probe otherAnnouncements).devices.values ∧
      Deterministic id ⟨"out", ""⟩ (probe headsetAnnouncements).devices.values
        (probe otherAnnouncements).devices.values (probe headsetAnnouncements).endpoints
        (probe otherAnnouncements).endpoints ∧
      ∃ device, finalizeDevices id (probe headsetAnnouncements).devices.values
          (probe headsetAnnouncements).endpoints ⟨"out", ""⟩ = [device] ∧
        device.name = "Headset" ∧ device.endpoints.length = 2 ∧ device.profiles.length = 2 := by
  have hperm : headsetAnnouncements.Perm otherAnnouncements := by decide
  have hdistinct : Distinct headsetAnnouncements :=
    ⟨by decide, by decide, by decide, by decide⟩
  have hfirst : DeviceFirst headsetAnnouncements := by unfold DeviceFirst; decide
  have hsecond : DeviceFirst otherAnnouncements := by unfold DeviceFirst; decide
  have hdrained := (probe headsetAnnouncements).drained
  have hother := (probe otherAnnouncements).drained
  refine ⟨by decide, ?_, ?_⟩
  · exact (audioState_deterministic id ⟨"out", ""⟩).1 _ _ _ _
      (uniqueArguments_of_drained hdistinct hfirst hdrained)
      (uniqueArguments_of_drained (hdistinct.of_perm hperm) hsecond hother)
      (sameArguments_of_perm hdistinct hperm hfirst hsecond hdrained hother)
  · obtain ⟨-, ⟨order, horder, -, hcompleted⟩, -⟩ := (audioState_deterministic id ⟨"out", ""⟩).2
      _ _ hperm hdistinct hfirst hsecond _ _ _ _ hdrained hother
    obtain rfl := List.perm_singleton.mp horder
    obtain ⟨device, _, hdevice, hnil, hall⟩ := List.forall₂_cons_left_iff.mp hcompleted
    obtain rfl := List.forall₂_nil_left_iff.mp hnil
    refine ⟨device, hall, ?_, hdevice.endpoints.length_eq, hdevice.profiles.length_eq⟩
    have hname := congrArg AudioDevice.name hdevice.bare
    exact hname

end BtDaemon.Audio
