import BtDaemon.Audio.Device
import BtDaemon.Foundation.CompareSort
import BtDaemon.Foundation.Table

/-!
# Finalization of the audio state

At the end of a probe the nodes are handed out to their devices and every device is finalized.
Profiles stand in the order in which they were announced and nodes come out of hash tables, so
that equal states reach finalization in many forms. None of these forms can be told from the
published devices.
-/

namespace BtDaemon.Audio

open CompareSort

/-! ## The comparisons -/

def profileCmp : AudioProfile → AudioProfile → Ordering :=
  compareLex (fun first second ↦ compareOn AudioProfile.priority second first)
    (compareOn AudioProfile.index)

def endpointCmp : AudioEndpoint → AudioEndpoint → Ordering :=
  compareLex
    (compareLex
      (compareLex (fun first second ↦ compareOn AudioEndpoint.isDefault second first)
        (fun first second ↦ compareOn AudioEndpoint.priority second first))
      (compareOn AudioEndpoint.name))
    (compareOn AudioEndpoint.pipewireId)

instance : Std.TransCmp profileCmp := inferInstanceAs (Std.TransCmp (compareLex _ _))

instance : Std.TransCmp endpointCmp := inferInstanceAs (Std.TransCmp (compareLex _ _))

theorem index_eq_of_profileCmp (first second : AudioProfile)
    (heq : profileCmp first second = .eq) : first.index = second.index :=
  Std.LawfulEqOrd.eq_of_compare (compareLex_eq_eq.mp heq).2

theorem id_eq_of_endpointCmp (first second : AudioEndpoint)
    (heq : endpointCmp first second = .eq) : first.pipewireId = second.pipewireId :=
  Std.LawfulEqOrd.eq_of_compare (compareLex_eq_eq.mp heq).2

/-! ## The parts of a finalized device -/

/-- The nodes of a device as they are published. -/
def arranged (defaults : Defaults) (endpoints : List AudioEndpoint) : List AudioEndpoint :=
  sortBy endpointCmp (endpoints.map (markDefault defaults))

/-- The profiles of a device as they are published. -/
def refined (codec : Option String) (active : Option UInt32) (profiles : List AudioProfile) :
    List AudioProfile :=
  match codec with
  | some codec => setCodec codec active (sortBy profileCmp profiles)
  | none => sortBy profileCmp profiles

theorem finalize_eq (device : AudioDevice) (defaults : Defaults) :
    device.finalize defaults =
      { device with
        endpoints := arranged defaults device.endpoints
        sink := (arranged defaults device.endpoints).find? fun node ↦ node.kind == .sink
        source := (arranged defaults device.endpoints).find? fun node ↦ node.kind == .source
        profiles := refined (commonCodec (arranged defaults device.endpoints))
          device.activeProfile device.profiles } := rfl

section Parts

variable (defaults : Defaults)

theorem map_markDefault {View : Type} (view : AudioEndpoint → View)
    (hview : ∀ (endpoint : AudioEndpoint) (isDefault : Bool),
      view { endpoint with isDefault := isDefault } = view endpoint)
    (endpoints : List AudioEndpoint) :
    (endpoints.map (markDefault defaults)).map view = endpoints.map view := by
  rw [List.map_map]
  exact List.map_congr_left fun endpoint _ ↦ hview endpoint _

theorem arranged_eq_of_perm {endpoints others : List AudioEndpoint}
    (hnodup : (endpoints.map AudioEndpoint.pipewireId).Nodup) (hperm : endpoints.Perm others) :
    arranged defaults endpoints = arranged defaults others := by
  refine sortBy_eq_of_keys id_eq_of_endpointCmp ?_ (hperm.map _)
  rwa [map_markDefault defaults AudioEndpoint.pipewireId fun _ _ ↦ rfl]

/-- The default flag is the same when it is set again. -/
theorem map_markDefault_arranged {endpoints others : List AudioEndpoint}
    (hperm : others.Perm (arranged defaults endpoints)) :
    others.map (markDefault defaults) = others := by
  refine Eq.trans (List.map_congr_left (g := id) ?_) (List.map_id others)
  intro endpoint hendpoint
  have hmem := (sortBy_perm _ _).mem_iff.mp (hperm.mem_iff.mp hendpoint)
  obtain ⟨original, _, rfl⟩ := List.mem_map.mp hmem
  rfl

/-- Published nodes in any order are published as before. -/
theorem arranged_arranged {endpoints others : List AudioEndpoint}
    (hnodup : (endpoints.map AudioEndpoint.pipewireId).Nodup)
    (hperm : others.Perm (arranged defaults endpoints)) :
    arranged defaults others = arranged defaults endpoints := by
  have hsame : others.Perm (endpoints.map (markDefault defaults)) := hperm.trans (sortBy_perm _ _)
  have hids : (others.map AudioEndpoint.pipewireId).Nodup := by
    have hmapped := hsame.map AudioEndpoint.pipewireId
    rw [map_markDefault defaults AudioEndpoint.pipewireId fun _ _ ↦ rfl] at hmapped
    exact hmapped.nodup_iff.mpr hnodup
  calc arranged defaults others
    _ = sortBy endpointCmp others := by rw [arranged, map_markDefault_arranged defaults hperm]
    _ = sortBy endpointCmp (endpoints.map (markDefault defaults)) :=
      sortBy_eq_of_keys id_eq_of_endpointCmp hids hsame

end Parts

theorem refined_eq_of_perm (codec : Option String) (active : Option UInt32)
    {profiles others : List AudioProfile}
    (hnodup : (profiles.map AudioProfile.index).Nodup) (hperm : profiles.Perm others) :
    refined codec active profiles = refined codec active others := by
  unfold refined
  rw [sortBy_eq_of_keys index_eq_of_profileCmp hnodup hperm]

theorem map_refined {View : Type} (view : AudioProfile → View)
    (hview : ∀ (profile : AudioProfile) (codec : Option String),
      view { profile with codec := codec } = view profile)
    (codec : Option String) (active : Option UInt32) (profiles : List AudioProfile) :
    (refined codec active profiles).map view = (sortBy profileCmp profiles).map view := by
  cases codec with
  | none => rfl
  | some codec => exact map_setCodec view hview codec active _

/-- The codec is no part of the order. -/
theorem pairwise_refined (codec : Option String) (active : Option UInt32)
    (profiles : List AudioProfile) :
    (refined codec active profiles).Pairwise fun first second ↦
      (profileCmp first second).isLE := by
  let plain : AudioProfile → AudioProfile := fun profile ↦ { profile with codec := none }
  have hplain : ∀ list : List AudioProfile,
      (list.map plain).Pairwise (fun first second ↦ (profileCmp first second).isLE) ↔
        list.Pairwise fun first second ↦ (profileCmp first second).isLE := by
    intro list
    rw [List.pairwise_map]
    rfl
  rw [← hplain, map_refined plain (fun _ _ ↦ rfl), hplain]
  exact pairwise_sortBy profileCmp profiles

theorem setCodec_setCodec (codec : String) (active : Option UInt32)
    (profiles : List AudioProfile) :
    setCodec codec active (setCodec codec active profiles) = setCodec codec active profiles := by
  induction profiles with
  | nil => rfl
  | cons profile rest ih =>
    by_cases hactive : some profile.index = active
    · simp only [setCodec, if_pos hactive]
    · simp only [setCodec, if_neg hactive, ih]

/-- Published profiles in any order are published as before. -/
theorem refined_refined {codec : Option String} {active : Option UInt32}
    {profiles others : List AudioProfile} (hnodup : (profiles.map AudioProfile.index).Nodup)
    (hperm : others.Perm (refined codec active profiles)) :
    refined codec active others = refined codec active profiles := by
  have hids : (others.map AudioProfile.index).Nodup := by
    have hindices := hperm.map AudioProfile.index
    rw [map_refined AudioProfile.index fun _ _ ↦ rfl] at hindices
    exact (hindices.trans ((sortBy_perm _ _).map _)).nodup_iff.mpr hnodup
  have hsorted : sortBy profileCmp others = refined codec active profiles := by
    rw [sortBy_eq_of_keys index_eq_of_profileCmp hids hperm]
    exact sortBy_of_pairwise profileCmp (pairwise_refined codec active profiles)
  cases codec with
  | none => exact hsorted
  | some codec =>
    calc refined (some codec) active others
      _ = setCodec codec active (sortBy profileCmp others) := rfl
      _ = setCodec codec active (setCodec codec active (sortBy profileCmp profiles)) := by
        rw [hsorted]
        rfl
      _ = setCodec codec active (sortBy profileCmp profiles) := setCodec_setCodec ..

/-! ## The choice of the aliases -/

/-- The order of preference: the default flag, the priority, the name, the identifier. -/
def Preferred (first second : AudioEndpoint) : Prop :=
  (first.isDefault = true ∧ second.isDefault = false) ∨
    first.isDefault = second.isDefault ∧
      (second.priority < first.priority ∨
        first.priority = second.priority ∧
          (first.name < second.name ∨
            first.name = second.name ∧ first.pipewireId ≤ second.pipewireId))

/-- The alias of a kind is the preferred node of the kind, if there is one. -/
def Greatest (kind : EndpointKind) (endpoints : List AudioEndpoint) :
    Option AudioEndpoint → Prop
  | none => ∀ other ∈ endpoints, other.kind ≠ kind
  | some chosen => chosen ∈ endpoints ∧ chosen.kind = kind ∧
      ∀ other ∈ endpoints, other.kind = kind → Preferred chosen other

theorem compare_bool_eq_lt : ∀ first second : Bool,
    compare first second = .lt ↔ first = false ∧ second = true := by
  decide

theorem preferred_of_isLE {first second : AudioEndpoint}
    (hle : (endpointCmp first second).isLE) : Preferred first second := by
  have hname : compare first.name second.name = .lt ↔ first.name < second.name :=
    compareOfLessAndEq_eq_lt
  simp only [endpointCmp, compareLex, compareOn, Ordering.isLE_then_iff_or, Ordering.then_eq_lt,
    Ordering.then_eq_eq, Std.compare_eq_lt, Std.compare_eq_iff_eq, Std.isLE_compare,
    compare_bool_eq_lt, hname] at hle
  rcases hle with ((⟨hsecond, hfirst⟩ | ⟨hflag, hpriority⟩) | ⟨⟨hflag, hpriority⟩, hless⟩) |
    ⟨⟨⟨hflag, hpriority⟩, hequal⟩, hid⟩
  · exact .inl ⟨hfirst, hsecond⟩
  · exact .inr ⟨hflag.symm, .inl hpriority⟩
  · exact .inr ⟨hflag.symm, .inr ⟨hpriority.symm, .inl hless⟩⟩
  · exact .inr ⟨hflag.symm, .inr ⟨hpriority.symm, .inr ⟨hequal, hid⟩⟩⟩

theorem greatest_find (defaults : Defaults) (kind : EndpointKind)
    (endpoints : List AudioEndpoint) :
    Greatest kind (arranged defaults endpoints)
      ((arranged defaults endpoints).find? fun node ↦ node.kind == kind) := by
  cases hfound : (arranged defaults endpoints).find? fun node ↦ node.kind == kind with
  | none =>
    intro other hother hkind
    have hnot := List.find?_eq_none.mp hfound other hother
    exact hnot (by rw [hkind]; exact beq_self_eq_true kind)
  | some chosen =>
    obtain ⟨hmem, hkind, hleast⟩ := find?_sortBy hfound
    have hiff : ∀ endpoint, endpoint ∈ arranged defaults endpoints ↔
        endpoint ∈ endpoints.map (markDefault defaults) := fun _ ↦ (sortBy_perm _ _).mem_iff
    refine ⟨(hiff chosen).mpr hmem, eq_of_beq hkind, ?_⟩
    intro other hother hsame
    have hkinds : (other.kind == kind) = true := by
      rw [hsame]
      exact beq_self_eq_true kind
    exact preferred_of_isLE (hleast other ((hiff other).mp hother) hkinds)

theorem Greatest.of_perm {kind : EndpointKind} {endpoints others : List AudioEndpoint}
    {chosen : Option AudioEndpoint} (hgreatest : Greatest kind endpoints chosen)
    (hperm : endpoints.Perm others) : Greatest kind others chosen := by
  cases chosen with
  | none => exact fun other hother ↦ hgreatest other (hperm.mem_iff.mpr hother)
  | some chosen =>
    obtain ⟨hmem, hkind, hleast⟩ := hgreatest
    exact ⟨hperm.mem_iff.mp hmem, hkind, fun other hother ↦
      hleast other (hperm.mem_iff.mpr hother)⟩

/-! ## Published profiles -/

/-- A profile as it is published: the codec that is known of the nodes is that of the active
profile. -/
def refineProfile (codec : Option String) (active : Option UInt32) (profile : AudioProfile) :
    AudioProfile :=
  match codec with
  | some codec =>
    if some profile.index = active then { profile with codec := some codec } else profile
  | none => profile

/-- With distinct indices the first profile with an index is the only one. -/
theorem setCodec_eq_map (codec : String) (active : Option UInt32) {profiles : List AudioProfile}
    (hnodup : (profiles.map AudioProfile.index).Nodup) :
    setCodec codec active profiles = profiles.map (refineProfile (some codec) active) := by
  induction profiles with
  | nil => rfl
  | cons profile rest ih =>
    obtain ⟨hfresh, hrest⟩ := List.nodup_cons.mp hnodup
    rw [List.map_cons]
    by_cases hactive : some profile.index = active
    · have hother : rest.map (refineProfile (some codec) active) = rest.map id := by
        apply List.map_congr_left
        intro other hmem
        have hne : some other.index ≠ active := fun hsame ↦ by
          have hindex := Option.some.inj (hsame.trans hactive.symm)
          exact hfresh (hindex ▸ List.mem_map_of_mem hmem)
        simp only [refineProfile, if_neg hne, id]
      rw [hother, List.map_id]
      simp only [setCodec, refineProfile, if_pos hactive]
    · rw [← ih hrest]
      simp only [setCodec, refineProfile, if_neg hactive]

theorem refined_perm (codec : Option String) (active : Option UInt32)
    {profiles : List AudioProfile} (hnodup : (profiles.map AudioProfile.index).Nodup) :
    (refined codec active profiles).Perm (profiles.map (refineProfile codec active)) := by
  have hsorted := sortBy_perm profileCmp profiles
  cases codec with
  | none =>
    have hsame : profiles.map (refineProfile none active) = profiles := List.map_id profiles
    rw [hsame]
    exact hsorted
  | some codec =>
    have hids := (hsorted.map AudioProfile.index).nodup_iff.mpr hnodup
    change (setCodec codec active (sortBy profileCmp profiles)).Perm _
    rw [setCodec_eq_map codec active hids]
    exact hsorted.map _

/-- Profiles of a higher priority come first, then those of a smaller index. -/
def Precedes (first second : AudioProfile) : Prop :=
  second.priority < first.priority ∨
    first.priority = second.priority ∧ first.index ≤ second.index

theorem precedes_of_isLE {first second : AudioProfile}
    (hle : (profileCmp first second).isLE) : Precedes first second := by
  simp only [profileCmp, compareLex, compareOn, Ordering.isLE_then_iff_or, Std.compare_eq_lt,
    Std.compare_eq_iff_eq, Std.isLE_compare] at hle
  exact hle.imp_right fun ⟨hpriority, hindex⟩ ↦ ⟨hpriority.symm, hindex⟩

/-! ## The devices of a probe -/

/-- The nodes of a device by their identifiers. -/
abbrev DeviceEndpoints := Table UInt32 AudioEndpoint

/-- Give a device the nodes that the table had for it, the internal ones apart. -/
def AudioDevice.takeNodes (self : AudioDevice) : Option DeviceEndpoints → AudioDevice
  | some nodes =>
    let (internalEndpoints, endpoints) := nodes.values.partition AudioEndpoint.internal
    { self with internalEndpoints := internalEndpoints, endpoints := endpoints }
  | none => self

/-- A device with its nodes, finalized. -/
def AudioDevice.complete (self : AudioDevice) (endpoints : Table UInt32 DeviceEndpoints)
    (defaults : Defaults) : AudioDevice :=
  (self.takeNodes (endpoints.lookup self.pipewireId)).finalize defaults

/-- The loop of `finalize_devices`, which removes the nodes of each device from the table. -/
def finalizeEach (defaults : Defaults) :
    List AudioDevice → Table UInt32 DeviceEndpoints → List AudioDevice
  | [], _ => []
  | device :: rest, endpoints =>
    device.complete endpoints defaults ::
      finalizeEach defaults rest (endpoints.erase device.pipewireId)

/-- The key `(name.to_lowercase(), pipewire_id)`. -/
def deviceCmp (toLowercase : String → String) : AudioDevice → AudioDevice → Ordering :=
  compareLex (compareOn fun device ↦ toLowercase device.name) (compareOn AudioDevice.pipewireId)

def finalizeDevices (toLowercase : String → String) (devices : List AudioDevice)
    (endpoints : Table UInt32 DeviceEndpoints) (defaults : Defaults) : List AudioDevice :=
  sortBy (deviceCmp toLowercase) (finalizeEach defaults devices endpoints)

/-- The nodes of a device that are published. -/
def AudioDevice.publicNodes (self : AudioDevice) (endpoints : Table UInt32 DeviceEndpoints) :
    List AudioEndpoint :=
  match endpoints.lookup self.pipewireId with
  | some nodes => nodes.values.filter fun node ↦ !node.internal
  | none => self.endpoints

/-- What a device is apart from its profiles and its nodes. -/
def AudioDevice.bare (self : AudioDevice) : AudioDevice :=
  { self with profiles := [], endpoints := [], internalEndpoints := [], sink := none, source := none }

/-- The published device is made of the known one and of the given nodes, and of nothing else. -/
structure Completed (defaults : Defaults) (known : AudioDevice) (nodes : List AudioEndpoint)
    (device : AudioDevice) : Prop where
  bare : device.bare = known.bare
  endpoints : device.endpoints.Perm (nodes.map (markDefault defaults))
  preferred : device.endpoints.Pairwise Preferred
  profiles : device.profiles.Perm
    (known.profiles.map (refineProfile (commonCodec device.endpoints) known.activeProfile))
  precedes : device.profiles.Pairwise Precedes
  sink : Greatest .sink (nodes.map (markDefault defaults)) device.sink
  source : Greatest .source (nodes.map (markDefault defaults)) device.source

/-- The order of devices: the name in lower case, then the identifier. -/
def Before (toLowercase : String → String) (first second : AudioDevice) : Prop :=
  toLowercase first.name < toLowercase second.name ∨
    toLowercase first.name = toLowercase second.name ∧ first.pipewireId ≤ second.pipewireId

/-- One device is published for each known one, and they are in order. -/
def Publishes (toLowercase : String → String) (defaults : Defaults) (known : List AudioDevice)
    (nodes : AudioDevice → List AudioEndpoint) (published : List AudioDevice) : Prop :=
  ∃ order : List AudioDevice, order.Perm known ∧ order.Pairwise (Before toLowercase) ∧
    List.Forall₂ (fun device output ↦ Completed defaults device (nodes device) output) order
      published

/-- A device without its internal nodes, which are not published. -/
def AudioDevice.published (self : AudioDevice) : AudioDevice :=
  { self with internalEndpoints := [] }

/-- The same device, whose profiles and nodes may stand in another order. -/
structure SameDevice (first second : AudioDevice) : Prop where
  pipewireId : first.pipewireId = second.pipewireId
  serial : first.serial = second.serial
  address : first.address = second.address
  adapter : first.adapter = second.adapter
  name : first.name = second.name
  activeProfile : first.activeProfile = second.activeProfile
  profiles : first.profiles.Perm second.profiles
  endpoints : first.endpoints.Perm second.endpoints

/-- The same devices and the same nodes, in whatever order lists and tables hold them. -/
structure SameArguments (devices others : List AudioDevice)
    (endpoints otherEndpoints : Table UInt32 DeviceEndpoints) : Prop where
  forward : ∀ device ∈ devices, ∃ other ∈ others, SameDevice device other
  backward : ∀ other ∈ others, ∃ device ∈ devices, SameDevice device other
  nodes : ∀ id, Option.Rel (· ≈ ·) (endpoints.lookup id) (otherEndpoints.lookup id)

/-- The identifiers and the indices are unique. -/
structure UniqueDevice (device : AudioDevice) : Prop where
  profiles : (device.profiles.map AudioProfile.index).Nodup
  endpoints : (device.endpoints.map AudioEndpoint.pipewireId).Nodup

structure UniqueArguments (devices : List AudioDevice)
    (endpoints : Table UInt32 DeviceEndpoints) : Prop where
  ids : (devices.map AudioDevice.pipewireId).Nodup
  each : ∀ device ∈ devices, UniqueDevice device
  nodes : ∀ id nodes, endpoints.lookup id = some nodes →
    (nodes.values.map AudioEndpoint.pipewireId).Nodup

/-- Another finalization changes nothing, in whatever order it finds profiles and nodes. -/
def Settled (defaults : Defaults) (device : AudioDevice) : Prop :=
  ∀ profiles endpoints, profiles.Perm device.profiles → endpoints.Perm device.endpoints →
    { device with profiles := profiles, endpoints := endpoints }.finalize defaults = device

section Finalized

variable {defaults : Defaults} {device other : AudioDevice}

theorem settled_finalize (hunique : UniqueDevice device) :
    Settled defaults (device.finalize defaults) := by
  intro profiles endpoints hprofiles hendpoints
  have hnodes := arranged_arranged defaults hunique.endpoints hendpoints
  have hrefined := refined_refined hunique.profiles hprofiles
  rw [finalize_eq { device.finalize defaults with profiles := profiles, endpoints := endpoints }]
  dsimp only
  rw [hnodes]
  exact congrArg (fun profiles ↦ { device.finalize defaults with profiles := profiles }) hrefined

theorem published_finalize (hunique : UniqueDevice device) (hsame : SameDevice device other) :
    (device.finalize defaults).published = (other.finalize defaults).published := by
  have hnodes := arranged_eq_of_perm defaults hunique.endpoints hsame.endpoints
  have hprofiles := fun codec active ↦
    refined_eq_of_perm codec active hunique.profiles hsame.profiles
  simp only [finalize_eq, AudioDevice.published, hnodes, hprofiles, hsame.pipewireId,
    hsame.serial, hsame.address, hsame.adapter, hsame.name, hsame.activeProfile]

theorem takeNodes_some (nodes : DeviceEndpoints) :
    device.takeNodes (some nodes) =
      { device with
        internalEndpoints := nodes.values.filter AudioEndpoint.internal
        endpoints := nodes.values.filter fun node ↦ !node.internal } := by
  simp [AudioDevice.takeNodes, List.partition_eq_filter_filter, Function.comp_def]

theorem pipewireId_takeNodes (device : AudioDevice) (nodes : Option DeviceEndpoints) :
    (device.takeNodes nodes).pipewireId = device.pipewireId := by
  cases nodes with
  | none => rfl
  | some nodes => rw [takeNodes_some]

theorem unique_takeNodes (hunique : UniqueDevice device) {nodes : Option DeviceEndpoints}
    (hnodes : ∀ found, nodes = some found →
      (found.values.map AudioEndpoint.pipewireId).Nodup) :
    UniqueDevice (device.takeNodes nodes) := by
  cases nodes with
  | none => exact hunique
  | some nodes =>
    rw [takeNodes_some]
    exact ⟨hunique.profiles, (hnodes nodes rfl).sublist (List.filter_sublist.map _)⟩

theorem sameDevice_takeNodes (hsame : SameDevice device other)
    {nodes otherNodes : Option DeviceEndpoints} (hnodes : Option.Rel (· ≈ ·) nodes otherNodes) :
    SameDevice (device.takeNodes nodes) (other.takeNodes otherNodes) := by
  cases hnodes with
  | none => exact hsame
  | some hequal =>
    rw [takeNodes_some, takeNodes_some]
    exact { hsame with endpoints := (Table.values_perm hequal).filter _ }

theorem endpoints_takeNodes (device : AudioDevice) (endpoints : Table UInt32 DeviceEndpoints) :
    (device.takeNodes (endpoints.lookup device.pipewireId)).endpoints =
      device.publicNodes endpoints := by
  unfold AudioDevice.publicNodes
  cases endpoints.lookup device.pipewireId with
  | none => rfl
  | some nodes => rw [takeNodes_some]

theorem takeNodes_same (device : AudioDevice) (nodes : Option DeviceEndpoints) :
    (device.takeNodes nodes).profiles = device.profiles ∧
      (device.takeNodes nodes).activeProfile = device.activeProfile ∧
        (device.takeNodes nodes).bare = device.bare := by
  cases nodes with
  | none => exact ⟨rfl, rfl, rfl⟩
  | some nodes =>
    rw [takeNodes_some]
    exact ⟨rfl, rfl, rfl⟩

variable (defaults) in
theorem completed_finalize (hunique : UniqueDevice device) :
    Completed defaults device device.endpoints (device.finalize defaults) where
  bare := rfl
  endpoints := sortBy_perm _ _
  preferred := (pairwise_sortBy endpointCmp _).imp preferred_of_isLE
  profiles := refined_perm _ _ hunique.profiles
  precedes := (pairwise_refined _ _ _).imp precedes_of_isLE
  sink := (greatest_find defaults .sink device.endpoints).of_perm (sortBy_perm _ _)
  source := (greatest_find defaults .source device.endpoints).of_perm (sortBy_perm _ _)

theorem completed_complete {endpoints : Table UInt32 DeviceEndpoints}
    (hunique : UniqueDevice (device.takeNodes (endpoints.lookup device.pipewireId))) :
    Completed defaults device (device.publicNodes endpoints)
      (device.complete endpoints defaults) := by
  have hcompleted := completed_finalize defaults hunique
  obtain ⟨hprofiles, hactive, hbare⟩ :=
    takeNodes_same device (endpoints.lookup device.pipewireId)
  rw [endpoints_takeNodes] at hcompleted
  exact
    { hcompleted with
      bare := hcompleted.bare.trans hbare
      profiles := by
        rw [← hprofiles, ← hactive]
        exact hcompleted.profiles }

theorem Completed.of_perm {known output : AudioDevice} {nodes others : List AudioEndpoint}
    (hcompleted : Completed defaults known nodes output) (hperm : nodes.Perm others) :
    Completed defaults known others output :=
  { hcompleted with
    endpoints := hcompleted.endpoints.trans (hperm.map _)
    sink := hcompleted.sink.of_perm (hperm.map _)
    source := hcompleted.source.of_perm (hperm.map _) }

/-- Internal nodes are not among those that are published. -/
theorem public_complete {endpoints : Table UInt32 DeviceEndpoints} (hempty : device.endpoints = [])
    {node : AudioEndpoint} (hnode : node ∈ (device.complete endpoints defaults).endpoints) :
    node.internal = false := by
  have hmarked : node ∈ ((device.takeNodes (endpoints.lookup device.pipewireId)).endpoints).map
      (markDefault defaults) := (sortBy_perm _ _).mem_iff.mp hnode
  obtain ⟨original, horiginal, rfl⟩ := List.mem_map.mp hmarked
  cases hnodes : endpoints.lookup device.pipewireId with
  | none =>
    rw [hnodes] at horiginal
    change original ∈ device.endpoints at horiginal
    rw [hempty] at horiginal
    cases horiginal
  | some nodes =>
    rw [hnodes, takeNodes_some] at horiginal
    have hpublic := (List.mem_filter.mp horiginal).2
    change original.internal = false
    simpa using hpublic

end Finalized

section Devices

variable {defaults : Defaults}

/-- Each device of distinct identifiers finds the nodes that the table held at first. -/
theorem finalizeEach_eq {devices : List AudioDevice}
    (hnodup : (devices.map AudioDevice.pipewireId).Nodup)
    (endpoints : Table UInt32 DeviceEndpoints) :
    finalizeEach defaults devices endpoints =
      devices.map fun device ↦ device.complete endpoints defaults := by
  induction devices generalizing endpoints with
  | nil => rfl
  | cons device rest ih =>
    obtain ⟨hfresh, hrest⟩ := List.nodup_cons.mp hnodup
    rw [finalizeEach, ih hrest, List.map_cons]
    congr 1
    apply List.map_congr_left
    intro other hother
    have hne : other.pipewireId ≠ device.pipewireId := fun heq ↦
      hfresh (heq ▸ List.mem_map_of_mem hother)
    rw [AudioDevice.complete, AudioDevice.complete, Table.lookup_erase, if_neg hne]

instance (toLowercase : String → String) : Std.TransCmp (deviceCmp toLowercase) :=
  inferInstanceAs (Std.TransCmp (compareLex _ _))

theorem id_eq_of_deviceCmp {toLowercase : String → String} (first second : AudioDevice)
    (heq : deviceCmp toLowercase first second = .eq) : first.pipewireId = second.pipewireId :=
  Std.LawfulEqOrd.eq_of_compare (compareLex_eq_eq.mp heq).2

variable (toLowercase : String → String) {devices others : List AudioDevice}
  {endpoints otherEndpoints : Table UInt32 DeviceEndpoints}

/-- The devices are put into order, each with its nodes. -/
theorem finalizeDevices_eq (hunique : UniqueArguments devices endpoints) :
    finalizeDevices toLowercase devices endpoints defaults =
      (sortBy (deviceCmp toLowercase) devices).map fun device ↦
        device.complete endpoints defaults := by
  rw [finalizeDevices, finalizeEach_eq hunique.ids]
  refine (map_sortBy (deviceCmp toLowercase) _ (deviceCmp toLowercase) ?_ devices).symm
  intro first second
  have hname : ∀ device : AudioDevice,
      (device.complete endpoints defaults).name = device.name := fun device ↦ by
    have hbare := (takeNodes_same device (endpoints.lookup device.pipewireId)).2.2
    have hsame := congrArg AudioDevice.name hbare
    exact hsame
  have hid : ∀ device : AudioDevice,
      (device.complete endpoints defaults).pipewireId = device.pipewireId := fun device ↦
    pipewireId_takeNodes device _
  simp only [deviceCmp, compareLex, compareOn, hname, hid]

theorem mem_finalizeDevices (hunique : UniqueArguments devices endpoints) {device : AudioDevice}
    (hmem : device ∈ finalizeDevices toLowercase devices endpoints defaults) :
    ∃ source ∈ devices, device = source.complete endpoints defaults := by
  rw [finalizeDevices_eq toLowercase hunique] at hmem
  obtain ⟨source, hsource, rfl⟩ := List.mem_map.mp hmem
  exact ⟨source, (sortBy_perm _ _).mem_iff.mp hsource, rfl⟩

theorem before_of_isLE {first second : AudioDevice}
    (hle : (deviceCmp toLowercase first second).isLE) : Before toLowercase first second := by
  have hname : compare (toLowercase first.name) (toLowercase second.name) = .lt ↔
      toLowercase first.name < toLowercase second.name := compareOfLessAndEq_eq_lt
  simp only [deviceCmp, compareLex, compareOn, Ordering.isLE_then_iff_or, hname,
    Std.compare_eq_iff_eq, Std.isLE_compare] at hle
  exact hle

variable (defaults) in
theorem publishes_finalizeDevices (hunique : UniqueArguments devices endpoints) :
    Publishes toLowercase defaults devices (fun device ↦ device.publicNodes endpoints)
      (finalizeDevices toLowercase devices endpoints defaults) := by
  have horder := sortBy_perm (deviceCmp toLowercase) devices
  refine ⟨sortBy (deviceCmp toLowercase) devices, horder,
    (pairwise_sortBy (deviceCmp toLowercase) devices).imp (before_of_isLE toLowercase), ?_⟩
  rw [finalizeDevices_eq toLowercase hunique, List.forall₂_map_right_iff, List.forall₂_same]
  intro device hdevice
  have hmem := horder.mem_iff.mp hdevice
  exact completed_complete (unique_takeNodes (hunique.each device hmem)
    fun found ↦ hunique.nodes _ found)

theorem published_finalizeDevices (hunique : UniqueArguments devices endpoints) :
    (finalizeDevices toLowercase devices endpoints defaults).map AudioDevice.published =
      sortBy (deviceCmp toLowercase)
        (devices.map fun device ↦ (device.complete endpoints defaults).published) := by
  calc (sortBy (deviceCmp toLowercase) (finalizeEach defaults devices endpoints)).map
        AudioDevice.published
    _ = sortBy (deviceCmp toLowercase)
        ((finalizeEach defaults devices endpoints).map AudioDevice.published) :=
      map_sortBy (deviceCmp toLowercase) AudioDevice.published (deviceCmp toLowercase)
        (fun _ _ ↦ rfl) _
    _ = _ := by
      rw [finalizeEach_eq hunique.ids, List.map_map]
      rfl

theorem ids_complete (defaults : Defaults) (devices : List AudioDevice)
    (endpoints : Table UInt32 DeviceEndpoints) :
    (devices.map fun device ↦ (device.complete endpoints defaults).published).map
      AudioDevice.pipewireId = devices.map AudioDevice.pipewireId := by
  rw [List.map_map]
  apply List.map_congr_left
  intro device _
  exact pipewireId_takeNodes device _

theorem finalizeDevices_same (hunique : UniqueArguments devices endpoints)
    (hother : UniqueArguments others otherEndpoints)
    (hsame : SameArguments devices others endpoints otherEndpoints) :
    (finalizeDevices toLowercase devices endpoints defaults).map AudioDevice.published =
      (finalizeDevices toLowercase others otherEndpoints defaults).map
        AudioDevice.published := by
  have hfinal : ∀ device ∈ devices, ∀ other, SameDevice device other →
      (device.complete endpoints defaults).published =
        (other.complete otherEndpoints defaults).published := by
    intro device hdevice other hequal
    have hnodes := hsame.nodes device.pipewireId
    rw [AudioDevice.complete, AudioDevice.complete, ← hequal.pipewireId]
    exact published_finalize
      (unique_takeNodes (hunique.each device hdevice) fun found ↦ hunique.nodes _ found)
      (sameDevice_takeNodes hequal hnodes)
  have hids := ids_complete defaults devices endpoints
  have hotherIds := ids_complete defaults others otherEndpoints
  rw [published_finalizeDevices toLowercase hunique, published_finalizeDevices toLowercase hother]
  refine sortBy_eq_of_keys id_eq_of_deviceCmp (hids ▸ hunique.ids) ?_
  refine (List.perm_ext_iff_of_nodup (List.Nodup.of_map _ (hids ▸ hunique.ids))
    (List.Nodup.of_map _ (hotherIds ▸ hother.ids))).mpr ?_
  intro result
  simp only [List.mem_map]
  constructor
  · rintro ⟨device, hdevice, rfl⟩
    obtain ⟨other, hmem, hequal⟩ := hsame.forward device hdevice
    exact ⟨other, hmem, (hfinal device hdevice other hequal).symm⟩
  · rintro ⟨other, hmem, rfl⟩
    obtain ⟨device, hdevice, hequal⟩ := hsame.backward other hmem
    exact ⟨device, hdevice, hfinal device hdevice other hequal⟩

end Devices

end BtDaemon.Audio
