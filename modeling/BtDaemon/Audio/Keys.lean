import BtDaemon.Audio.Device
import Mathlib.Data.Set.Function

/-!
# Audio keys

Clients see opaque keys for the endpoints and the profiles of a device, and send one back to
select what it was published for. A key is the truncated digest of the device key and a value,
which is the name of a profile, the kind and the name of an endpoint, or only the kind for the
aliases of older clients. The digest is a parameter.
-/

namespace BtDaemon.Audio

/-! ## Keys -/

section Keys

variable (digest : String → String) (deviceKey : String)

def opaqueAudioKey (kind value : String) : String :=
  "audio-" ++ kind ++ "-" ++ digest (deviceKey ++ ":" ++ value)

def profileKey (profileName : String) : String :=
  opaqueAudioKey digest deviceKey "profile" profileName

def endpointKey (kind : String) : String := opaqueAudioKey digest deviceKey "endpoint" kind

/-- What the key of an endpoint is made of. -/
def AudioEndpoint.value (self : AudioEndpoint) : String := self.kind.asStr ++ ":" ++ self.name

def AudioEndpoint.key (self : AudioEndpoint) : String := endpointKey digest deviceKey self.value

def AudioDevice.availableProfile (self : AudioDevice) (key : String) : Option AudioProfile :=
  self.profiles.find? fun profile ↦
    profile.available && profileKey digest deviceKey profile.name == key

end Keys

/-! ## The published device -/

namespace Wire

structure Profile where
  key : String
  label : String
  mode : String
  codec : Option String
  available : Bool
  priority : Int32

structure Endpoint where
  key : String
  kind : EndpointKind
  codec : Option String
  ready : Bool
  state : String
  isDefault : Bool

structure Device where
  deviceKey : String
  activeProfileKey : Option String
  profiles : List Profile
  endpoints : List Endpoint
  sink : Option Endpoint
  source : Option Endpoint

end Wire

section Snapshot

variable (digest : String → String) (deviceKey : String)

def nodeSnapshot (endpoint : AudioEndpoint) (key : String) : Wire.Endpoint where
  key := key
  kind := endpoint.kind
  codec := endpoint.codec
  ready := !(endpoint.state == "creating" || endpoint.state == "error")
  state := endpoint.state
  isDefault := endpoint.isDefault

def endpointSnapshot (kind : String) (endpoint : Option AudioEndpoint) : Option Wire.Endpoint :=
  endpoint.map fun endpoint ↦ nodeSnapshot endpoint (endpointKey digest deviceKey kind)

/-- The snapshot of a device whose key was resolved. -/
def deviceSnapshot (device : AudioDevice) : Wire.Device where
  deviceKey := deviceKey
  activeProfileKey := (device.activeProfile.bind fun active ↦
    device.profiles.find? fun profile ↦ profile.index == active).map fun profile ↦
      profileKey digest deviceKey profile.name
  profiles := device.profiles.map fun profile ↦
    { key := profileKey digest deviceKey profile.name
      label := profile.description
      mode := profile.mode
      codec := profile.codec
      available := profile.available
      priority := profile.priority }
  endpoints := device.endpoints.map fun node ↦ nodeSnapshot node (node.key digest deviceKey)
  sink := endpointSnapshot digest deviceKey "sink" device.sink
  source := endpointSnapshot digest deviceKey "source" device.source

end Snapshot

/-! ## Selection -/

inductive AudioOperation where
  | setDefaultNode (device : AudioDevice) (endpoint : AudioEndpoint)
  | setProfile (device : AudioDevice) (index : UInt32)
  deriving DecidableEq

section Select

variable (digest : String → String) (deviceKey requestedKey : String) (device : AudioDevice)

def selectDefault : Option AudioOperation :=
  let named := device.endpoints.find? fun node ↦ node.key digest deviceKey == requestedKey
  let aliased := [("sink", device.sink), ("source", device.source)].findSome? fun (kind, node) ↦
    if endpointKey digest deviceKey kind == requestedKey then node else none
  (named.or aliased).map fun endpoint ↦ .setDefaultNode device endpoint

def selectProfile : Option AudioOperation :=
  (device.availableProfile digest deviceKey requestedKey).map fun profile ↦
    .setProfile device profile.index

end Select

/-! ## What the keys promise -/

/-- Every published key selects what it was published for. -/
structure KeysSelect (digest : String → String) (deviceKey : String) (device : AudioDevice) :
    Prop where
  distinct : ((deviceSnapshot digest deviceKey device).endpoints.map Wire.Endpoint.key).Nodup
  endpoints : ∀ endpoint ∈ device.endpoints,
    selectDefault digest deviceKey (endpoint.key digest deviceKey) device =
      some (.setDefaultNode device endpoint)
  sink : ∀ endpoint, device.sink = some endpoint →
    selectDefault digest deviceKey (endpointKey digest deviceKey "sink") device =
      some (.setDefaultNode device endpoint)
  source : ∀ endpoint, device.source = some endpoint →
    selectDefault digest deviceKey (endpointKey digest deviceKey "source") device =
      some (.setDefaultNode device endpoint)
  profiles : ∀ profile ∈ device.profiles, profile.available = true →
    selectProfile digest deviceKey (profileKey digest deviceKey profile.name) device =
      some (.setProfile device profile.index)

/-- The names that keys are derived from are distinct. -/
structure NamesDistinct (device : AudioDevice) : Prop where
  endpoints : (device.endpoints.map fun node ↦ (node.kind, node.name)).Nodup
  profiles : ((device.profiles.filter AudioProfile.available).map AudioProfile.name).Nodup

/-- The values that the keys of a device are made of. -/
def AudioDevice.values (self : AudioDevice) : List String :=
  ["sink", "source"] ++ self.endpoints.map AudioEndpoint.value ++
    self.profiles.map AudioProfile.name

/-- The digest tells the values of the device apart. -/
def Separates (digest : String → String) (deviceKey : String) (values : List String) : Prop :=
  ∀ first ∈ values, ∀ second ∈ values,
    digest (deviceKey ++ ":" ++ first) = digest (deviceKey ++ ":" ++ second) → first = second

/-! ## Keys and values -/

section Injective

variable {digest : String → String} {deviceKey : String}

theorem opaqueAudioKey_inj {values : List String} (hseparates : Separates digest deviceKey values)
    {kind first second : String} (hfirst : first ∈ values) (hsecond : second ∈ values)
    (hkey : opaqueAudioKey digest deviceKey kind first =
      opaqueAudioKey digest deviceKey kind second) : first = second :=
  hseparates first hfirst second hsecond ((String.append_right_inj _).mp hkey)

/-- The kind and the name are read off the value of an endpoint. -/
theorem value_inj {first second : AudioEndpoint} (hvalue : first.value = second.value) :
    (first.kind, first.name) = (second.kind, second.name) := by
  have hlists := congrArg String.toList hvalue
  simp only [AudioEndpoint.value, String.toList_append] at hlists
  cases hfirst : first.kind <;> cases hsecond : second.kind <;>
    simp [hfirst, hsecond, EndpointKind.asStr] at hlists
  · rw [String.toList_inj.mp hlists]
  · rw [String.toList_inj.mp hlists]

/-- The value of an endpoint has a colon, so it is not that of an alias. -/
theorem value_ne_alias (endpoint : AudioEndpoint) (kind : EndpointKind) :
    endpoint.value ≠ kind.asStr := by
  intro hvalue
  have hlists := congrArg String.toList hvalue
  simp only [AudioEndpoint.value, String.toList_append] at hlists
  cases hkind : endpoint.kind <;> cases kind <;> simp [hkind, EndpointKind.asStr] at hlists

end Injective

/-! ## When keys select -/

/-- A lookup by a key that no two elements share finds the element. -/
theorem find?_eq_some_of_nodup {Element Key : Type} [BEq Key] [LawfulBEq Key]
    {key : Element → Key} {elements : List Element} (hnodup : (elements.map key).Nodup)
    {element : Element} (hmem : element ∈ elements) :
    elements.find? (fun other ↦ key other == key element) = some element := by
  induction elements with
  | nil => cases hmem
  | cons first rest ih =>
    obtain ⟨hfirst, hrest⟩ := List.nodup_cons.mp hnodup
    rcases List.mem_cons.mp hmem with rfl | hlater
    · exact List.find?_cons_of_pos (beq_self_eq_true _)
    · have hother : key first ≠ key element := by
        intro hsame
        exact hfirst (hsame ▸ List.mem_map.mpr ⟨element, hlater, rfl⟩)
      rw [List.find?_cons_of_neg (by simpa using hother)]
      exact ih hrest hlater

/-- Two views that agree on which elements are the same have the same repetitions. -/
theorem nodup_map_iff {Element First Second : Type} {first : Element → First}
    {second : Element → Second} {elements : List Element}
    (hsame : ∀ left ∈ elements, ∀ right ∈ elements,
      first left = first right ↔ second left = second right) :
    (elements.map first).Nodup ↔ (elements.map second).Nodup := by
  rw [List.Nodup, List.Nodup, List.pairwise_map, List.pairwise_map]
  exact List.Pairwise.iff_of_mem fun hleft hright ↦ not_congr (hsame _ hleft _ hright)

section Selects

variable {digest : String → String} {deviceKey : String} {device : AudioDevice}

theorem value_mem {endpoint : AudioEndpoint} (hendpoint : endpoint ∈ device.endpoints) :
    endpoint.value ∈ device.values :=
  List.mem_append_left _ (List.mem_append_right _ (List.mem_map.mpr ⟨endpoint, hendpoint, rfl⟩))

theorem alias_mem (kind : EndpointKind) : kind.asStr ∈ device.values := by
  cases kind <;> simp [AudioDevice.values, EndpointKind.asStr]

theorem name_mem {profile : AudioProfile} (hprofile : profile ∈ device.profiles) :
    profile.name ∈ device.values :=
  List.mem_append_right _ (List.mem_map.mpr ⟨profile, hprofile, rfl⟩)

/-- The published keys are those of the endpoints. -/
theorem published_keys : (deviceSnapshot digest deviceKey device).endpoints.map Wire.Endpoint.key =
    device.endpoints.map fun node ↦ node.key digest deviceKey := by
  rw [deviceSnapshot, List.map_map]
  rfl

theorem nodup_keys_iff (hseparates : Separates digest deviceKey device.values) :
    (device.endpoints.map fun node ↦ node.key digest deviceKey).Nodup ↔
      (device.endpoints.map fun node ↦ (node.kind, node.name)).Nodup := by
  apply nodup_map_iff
  intro left hleft right hright
  constructor
  · intro hkey
    exact value_inj (opaqueAudioKey_inj hseparates (value_mem hleft) (value_mem hright) hkey)
  · intro hname
    obtain ⟨hkind, hname⟩ := Prod.mk.inj hname
    rw [AudioEndpoint.key, AudioEndpoint.key, AudioEndpoint.value, AudioEndpoint.value, hkind,
      hname]

theorem nodup_names_iff (hseparates : Separates digest deviceKey device.values) :
    ((device.profiles.filter AudioProfile.available).map fun profile ↦
      profileKey digest deviceKey profile.name).Nodup ↔
      ((device.profiles.filter AudioProfile.available).map AudioProfile.name).Nodup := by
  apply nodup_map_iff
  intro left hleft right hright
  constructor
  · exact opaqueAudioKey_inj hseparates (name_mem (List.mem_filter.mp hleft).1)
      (name_mem (List.mem_filter.mp hright).1)
  · exact congrArg (profileKey digest deviceKey)

/-- The key of an alias is not that of an endpoint. -/
theorem find?_alias (hseparates : Separates digest deviceKey device.values)
    (kind : EndpointKind) : (device.endpoints.find? fun node ↦
      node.key digest deviceKey == endpointKey digest deviceKey kind.asStr) = none := by
  rw [List.find?_eq_none]
  intro node hnode hkey
  have hvalue := opaqueAudioKey_inj hseparates (value_mem hnode) (alias_mem kind)
    (beq_iff_eq.mp hkey)
  exact value_ne_alias node kind hvalue

theorem selectDefault_sink (hseparates : Separates digest deviceKey device.values)
    {endpoint : AudioEndpoint} (hsink : device.sink = some endpoint) :
    selectDefault digest deviceKey (endpointKey digest deviceKey "sink") device =
      some (.setDefaultNode device endpoint) := by
  have hnamed := find?_alias hseparates .sink
  simp only [EndpointKind.asStr] at hnamed
  simp [selectDefault, hnamed, hsink]

theorem selectDefault_source (hseparates : Separates digest deviceKey device.values)
    {endpoint : AudioEndpoint} (hsource : device.source = some endpoint) :
    selectDefault digest deviceKey (endpointKey digest deviceKey "source") device =
      some (.setDefaultNode device endpoint) := by
  have hnamed := find?_alias hseparates .source
  simp only [EndpointKind.asStr] at hnamed
  have hother : endpointKey digest deviceKey "sink" ≠ endpointKey digest deviceKey "source" := by
    intro hkey
    have hvalue := opaqueAudioKey_inj hseparates (alias_mem .sink) (alias_mem .source) hkey
    revert hvalue
    decide
  simp [selectDefault, hnamed, hsource, hother]

theorem selectDefault_endpoint
    (hnodup : (device.endpoints.map fun node ↦ node.key digest deviceKey).Nodup)
    {endpoint : AudioEndpoint} (hendpoint : endpoint ∈ device.endpoints) :
    selectDefault digest deviceKey (endpoint.key digest deviceKey) device =
      some (.setDefaultNode device endpoint) := by
  have hnamed := find?_eq_some_of_nodup hnodup hendpoint
  simp [selectDefault, hnamed]

/-- Among the available profiles the lookup is by key alone. -/
theorem availableProfile_eq (key : String) : device.availableProfile digest deviceKey key =
    (device.profiles.filter AudioProfile.available).find? fun profile ↦
      profileKey digest deviceKey profile.name == key := by
  simp only [AudioDevice.availableProfile, List.find?_filter, Bool.decide_and,
    Bool.decide_eq_true]

theorem selectProfile_available
    (hnodup : ((device.profiles.filter AudioProfile.available).map fun profile ↦
      profileKey digest deviceKey profile.name).Nodup)
    {profile : AudioProfile} (hprofile : profile ∈ device.profiles)
    (havailable : profile.available = true) :
    selectProfile digest deviceKey (profileKey digest deviceKey profile.name) device =
      some (.setProfile device profile.index) := by
  have hfound := find?_eq_some_of_nodup hnodup (List.mem_filter.mpr ⟨hprofile, havailable⟩)
  rw [selectProfile, availableProfile_eq, hfound]
  rfl

/-- Two profiles of one name cannot both be selected by their key. -/
theorem nodup_names_of_select (hindices : (device.profiles.map AudioProfile.index).Nodup)
    (hselect : ∀ profile ∈ device.profiles, profile.available = true →
      selectProfile digest deviceKey (profileKey digest deviceKey profile.name) device =
        some (.setProfile device profile.index)) :
    ((device.profiles.filter AudioProfile.available).map AudioProfile.name).Nodup := by
  have hprofiles := (hindices.of_map _).filter AudioProfile.available
  apply (List.nodup_map_iff_inj_on hprofiles).mpr
  intro left hleft right hright hname
  obtain ⟨hleft, hleftAvailable⟩ := List.mem_filter.mp hleft
  obtain ⟨hright, hrightAvailable⟩ := List.mem_filter.mp hright
  have hone := hselect left hleft hleftAvailable
  have htwo := hselect right hright hrightAvailable
  rw [hname, htwo] at hone
  have hindex : right.index = left.index := by
    simpa using hone
  exact List.inj_on_of_nodup_map hindices hleft hright hindex.symm

theorem keysSelect_iff (hseparates : Separates digest deviceKey device.values)
    (hindices : (device.profiles.map AudioProfile.index).Nodup) :
    KeysSelect digest deviceKey device ↔ NamesDistinct device := by
  constructor
  · intro hselect
    have hdistinct := hselect.distinct
    rw [published_keys] at hdistinct
    exact ⟨(nodup_keys_iff hseparates).mp hdistinct,
      nodup_names_of_select hindices hselect.profiles⟩
  · intro hnames
    have hkeys := (nodup_keys_iff hseparates).mpr hnames.endpoints
    have hprofileKeys := (nodup_names_iff hseparates).mpr hnames.profiles
    exact {
      distinct := by
        rw [published_keys]
        exact hkeys
      endpoints := fun _ hendpoint ↦ selectDefault_endpoint hkeys hendpoint
      sink := fun _ hsink ↦ selectDefault_sink hseparates hsink
      source := fun _ hsource ↦ selectDefault_source hseparates hsource
      profiles := fun _ hprofile havailable ↦
        selectProfile_available hprofileKeys hprofile havailable }

end Selects

/-- Finalization keeps the names. -/
theorem namesDistinct_finalize (device : AudioDevice) (defaults : Defaults) :
    NamesDistinct (device.finalize defaults) ↔ NamesDistinct device := by
  have hendpoints := map_endpoints_finalize device defaults
    (fun node ↦ (node.kind, node.name)) fun _ _ ↦ rfl
  have hprofiles := map_profiles_finalize device defaults
    (fun profile ↦ (profile.available, profile.name)) fun _ _ ↦ rfl
  have hview : ∀ profiles : List AudioProfile,
      (profiles.filter AudioProfile.available).map AudioProfile.name =
        ((profiles.map fun profile ↦ (profile.available, profile.name)).filter Prod.fst).map
          Prod.snd := by
    intro profiles
    rw [List.filter_map, List.map_map]
    rfl
  have hnames := (hprofiles.filter Prod.fst).map Prod.snd
  rw [← hview, ← hview] at hnames
  constructor
  · rintro ⟨hfirst, hsecond⟩
    exact ⟨hendpoints.nodup_iff.mp hfirst, hnames.nodup_iff.mp hsecond⟩
  · rintro ⟨hfirst, hsecond⟩
    exact ⟨hendpoints.nodup_iff.mpr hfirst, hnames.nodup_iff.mpr hsecond⟩

theorem values_finalize (device : AudioDevice) (defaults : Defaults) :
    (device.finalize defaults).values.Perm device.values := by
  have hendpoints := map_endpoints_finalize device defaults AudioEndpoint.value fun _ _ ↦ rfl
  have hprofiles := map_profiles_finalize device defaults AudioProfile.name fun _ _ ↦ rfl
  exact (hendpoints.append_left _).append hprofiles

/-- The keys of a finalized device select what they name exactly when the names are distinct. -/
theorem keys_select_iff (digest : String → String) (deviceKey : String) (device : AudioDevice)
    (defaults : Defaults) (hseparates : Separates digest deviceKey device.values)
    (hindices : (device.profiles.map AudioProfile.index).Nodup) :
    KeysSelect digest deviceKey (device.finalize defaults) ↔ NamesDistinct device := by
  have hvalues := values_finalize device defaults
  have hindex := map_profiles_finalize device defaults AudioProfile.index fun _ _ ↦ rfl
  rw [keysSelect_iff _ (hindex.nodup_iff.mpr hindices), namesDistinct_finalize]
  intro first hfirst second hsecond
  exact hseparates first (hvalues.mem_iff.mp hfirst) second (hvalues.mem_iff.mp hsecond)

section Example

/-- The digests of the values of one headset, as hexadecimal text. -/
def headsetDigest : String → String
  | "peer:sink" => "748214ecd2aee44f48d39087"
  | "peer:source" => "b81c1694fd7863700bf74920"
  | "peer:sink:first" => "69cd3d07fc10301fed6a7a56"
  | "peer:source:first" => "93ae068941ff57c887327d5a"
  | "peer:a2dp-sink" => "9cd386658244008a6a5ff2d3"
  | "peer:sink:same-name" => "0cc9a2dd60ab1c4f60837828"
  | other => other

def exampleNode (pipewireId : UInt32) (name : String) (kind : EndpointKind) : AudioEndpoint :=
  ⟨pipewireId, some pipewireId.toUInt64, name, kind, "running", false, some "lc3", 0, false⟩

def exampleDevice (endpoints : List AudioEndpoint) : AudioDevice :=
  { pipewireId := 7
    serial := some 70
    address := "AA:BB:CC:DD:EE:FF"
    adapter := "hci0"
    name := "Headset"
    activeProfile := some 1
    profiles := [⟨1, "a2dp-sink", "High Fidelity", true, 10, "high-fidelity", some "sbc"⟩]
    endpoints := endpoints
    internalEndpoints := []
    sink := none
    source := none }

/-- A sink and a source may share a name. -/
theorem keys_select_headset :
    KeysSelect headsetDigest "peer" ((exampleDevice [exampleNode 10 "first" .sink,
      exampleNode 11 "first" .source]).finalize ⟨"first", ""⟩) :=
  (keys_select_iff headsetDigest "peer" _ ⟨"first", ""⟩ (by unfold Separates; decide)
    (by decide)).mpr ⟨by decide, by decide⟩

/-- Two sinks of one name. -/
def twinSinks : AudioDevice :=
  exampleDevice [exampleNode 10 "same-name" .sink, exampleNode 11 "same-name" .sink]

/-- They have one key, and it selects only one of them, though the digest separates the values of
their device. -/
theorem keys_select_fails : (twinSinks.endpoints.map AudioEndpoint.pipewireId).Nodup ∧
    (twinSinks.profiles.map AudioProfile.index).Nodup ∧
    Separates headsetDigest "peer" twinSinks.values ∧
    ¬ KeysSelect headsetDigest "peer" (twinSinks.finalize ⟨"same-name", ""⟩) := by
  refine ⟨by decide, by decide, by unfold Separates; decide, fun hselect ↦ ?_⟩
  have hdistinct := hselect.distinct
  rw [published_keys, (map_endpoints_finalize _ _ _ fun _ _ ↦ rfl).nodup_iff] at hdistinct
  revert hdistinct
  decide

end Example

end BtDaemon.Audio
