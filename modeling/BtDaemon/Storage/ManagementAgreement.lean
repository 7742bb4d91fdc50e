import BtDaemon.Foundation.Loop
import BtDaemon.Foundation.WriteThrough
import BtDaemon.Storage.Management

/-!
# The management state in memory and on disk

Each of the three files agrees with its part of the memory on its own. A patch is applied to a
copy of the policy, so it takes effect as a whole; a device entry that was changed in place is
the old one again after a failed write. What a patch does to the overrides of a device is said
once, for every name: the entries of the patch replace theirs, and no other override changes.
-/

namespace BtDaemon.Storage

open WriteThrough

/-! ## Patches -/

theorem context_eq_ok {Found : Type} {found : Option Found} {message : String} {value : Found} :
    context found message = .ok value ↔ found = some value := by
  cases found <;> simp [context]

namespace ManagementPolicy

/-- A policy that `load` accepts. -/
def Valid (policy : ManagementPolicy) : Prop :=
  policy.version = policyVersion ∧ validateLaunchState policy.launchState = .ok ()

instance (policy : ManagementPolicy) : Decidable policy.Valid :=
  inferInstanceAs (Decidable (_ ∧ _))

theorem Valid.set {policy next : ManagementPolicy} (valid : policy.Valid) {name : String}
    {value : Value} (hset : policy.set name value = .ok next) : next.Valid := by
  unfold ManagementPolicy.set at hset
  dsimp only at hset
  split at hset
  · obtain ⟨text, -, hchecked⟩ := Loop.bind_eq_ok.mp hset
    obtain ⟨result, hlaunch, hnext⟩ := Loop.bind_eq_ok.mp hchecked
    rw [← Except.ok.inj hnext]
    exact ⟨valid.1, hlaunch⟩
  iterate 5
    · obtain ⟨value, -, rfl⟩ := Loop.map_eq_ok.mp hset
      exact valid
  · cases hset

theorem Valid.apply {policy updated : ManagementPolicy} (valid : policy.Valid)
    {object : Table String Value} (happly : policy.apply object = .ok updated) :
    updated.Valid :=
  Loop.foldlM_invariant (fun _ _ _ valid hset ↦ valid.set hset) valid happly

end ManagementPolicy

namespace DevicePolicyOverrides

/-- What a patch entry makes of its override. -/
def effect : Value → Option Value
  | .null => none
  | value => some value

/-- A value that is parsed shows as it was sent. -/
theorem effect_of_optionalValue {Parsed : Type} {value : Value} {name expected : String}
    {parse : Value → Option Parsed} {wrap : Parsed → Value} {result : Option Parsed}
    (hparse : ∀ sent parsed, parse sent = some parsed → wrap parsed = sent)
    (hvalue : optionalValue value name parse expected = .ok result) :
    result.map wrap = effect value := by
  have hsent : (context (parse value) (name ++ " must be " ++ expected)).map some = .ok result →
      result.map wrap = some value := by
    intro hcontext
    obtain ⟨parsed, hparsed, rfl⟩ := Loop.map_eq_ok.mp hcontext
    rw [Option.map_some, hparse value parsed (context_eq_ok.mp hparsed)]
  cases value with
  | null =>
    rw [← Except.ok.inj hvalue]
    rfl
  | bool | string | other => exact hsent hvalue

theorem bool_of_asBool (sent : Value) (flag : Bool) (hflag : sent.asBool = some flag) :
    Value.bool flag = sent := by
  cases sent <;> simp_all [Value.asBool]

theorem string_of_asString {accepts : String → Bool} (sent : Value) (text : String)
    (htext : sent.asString.filter accepts = some text) : Value.string text = sent := by
  obtain ⟨hstring, -⟩ := Option.filter_eq_some_iff.mp htext
  cases sent <;> simp_all [Value.asString]

theorem entry_set {overrides next : DevicePolicyOverrides} {name : String} {value : Value}
    (hset : overrides.set name value = .ok next) (other : String) :
    next.entry other = if other = name then effect value else overrides.entry other := by
  unfold DevicePolicyOverrides.set at hset
  dsimp only at hset
  split at hset
  · obtain ⟨parsed, hparsed, rfl⟩ := Loop.map_eq_ok.mp hset
    rw [← effect_of_optionalValue string_of_asString hparsed]
    unfold entry
    split <;> simp_all
  · obtain ⟨parsed, hparsed, rfl⟩ := Loop.map_eq_ok.mp hset
    rw [← effect_of_optionalValue string_of_asString hparsed]
    unfold entry
    split <;> simp_all
  iterate 5
    · obtain ⟨parsed, hparsed, rfl⟩ := Loop.map_eq_ok.mp hset
      rw [← effect_of_optionalValue bool_of_asBool hparsed]
      unfold entry
      split <;> simp_all
  · cases hset

/-- A patch replaces the overrides that it names, and clears those it sends as `null`. -/
theorem entry_apply {overrides updated : DevicePolicyOverrides} {object : Table String Value}
    (happly : overrides.apply object = .ok updated) (name : String) :
    updated.entry name = (object.lookup name).elim (overrides.entry name) effect :=
  Loop.seen_of_foldlM (fun _ _ _ hset ↦ entry_set hset) object happly name

end DevicePolicyOverrides

namespace ManagementStore

variable {Text : Type} {codecs : ManagementCodecs Text}

theorem checkVersion_eq_ok {description : String} {version expected : UInt8} {result : Unit} :
    checkVersion description version expected = .ok result ↔ version = expected := by
  unfold checkVersion
  split
  · next hother => simpa using hother
  · next hsame => simpa using hsame

theorem load_eq_ok {files : ManagementFiles Text} {loaded : ManagementStore Text} :
    load codecs files = .ok loaded ↔ loaded.files = files ∧
      (loadState files.policy codecs.policy "Bluetooth management policy" {} =
          .ok loaded.policy ∧ loaded.policy.Valid) ∧
      (loadState files.runtime codecs.runtime "Bluetooth runtime state" {} =
          .ok loaded.runtime ∧ loaded.runtime.version = runtimeVersion) ∧
      (loadState files.devicePolicies codecs.devicePolicies "Bluetooth per-device policy" {} =
          .ok loaded.devicePolicies ∧
        loaded.devicePolicies.version = devicePolicyVersion) := by
  unfold load
  simp only [Loop.bind_eq_ok, checkVersion_eq_ok, exists_and_left]
  constructor
  · rintro ⟨policy, hpolicy, hversion, ⟨⟩, launch, hlaunch, runtime, hruntime, hruntimeVersion,
      -, devices, hdevices, hdevicesVersion, -, hstore⟩
    rw [← Except.ok.inj hstore]
    exact ⟨rfl, ⟨hpolicy, hversion, hlaunch⟩, ⟨hruntime, hruntimeVersion⟩, hdevices,
      hdevicesVersion⟩
  · obtain ⟨loadedFiles, policy, runtime, devices⟩ := loaded
    rintro ⟨rfl, ⟨hpolicy, valid⟩, ⟨hruntime, hruntimeVersion⟩, hdevices, hdevicesVersion⟩
    exact ⟨policy, hpolicy, valid.1, (), (), valid.2, runtime, hruntime, hruntimeVersion, (),
      devices, hdevices, hdevicesVersion, (), rfl⟩

/-! ## The three files -/

/-- What `load` reads from one file. -/
def loadPart {State : Type} (codec : Codec Text State) (description : String) (default : State)
    (accepts : State → Bool) (file : JsonFile Text) : Option State :=
  (loadState file codec description default).toOption.filter accepts

theorem loadPart_eq_some {State : Type} {codec : Codec Text State} {description : String}
    {default loaded : State} {accepts : State → Bool} {file : JsonFile Text} :
    loadPart codec description default accepts file = some loaded ↔
      loadState file codec description default = .ok loaded ∧ accepts loaded = true := by
  rw [loadPart, Option.filter_eq_some_iff]
  cases loadState file codec description default <;> simp [Except.toOption]

/-- What was written is loaded, when it is acceptable. -/
theorem agrees_written {State : Type} [Setoid State] {codec : Codec Text State}
    (hjson : codec.RoundTrips) {description : String} {default state : State}
    {accepts : State → Bool} (haccepts : ∀ other, other ≈ state → accepts other = true)
    (file : JsonFile Text) :
    Backed.Agrees (loadPart codec description default accepts)
      ⟨state, file.written codec state⟩ := by
  obtain ⟨loaded, hread, hsame⟩ := file.readJson_written codec hjson state description
  refine ⟨loaded, loadPart_eq_some.mpr ⟨?_, haccepts loaded hsame⟩, hsame⟩
  rw [loadState, hread]
  rfl

def loadPolicy (codecs : ManagementCodecs Text) : JsonFile Text → Option ManagementPolicy :=
  loadPart codecs.policy "Bluetooth management policy" {} fun policy ↦ decide policy.Valid

def loadRuntime (codecs : ManagementCodecs Text) : JsonFile Text → Option RuntimeState :=
  loadPart codecs.runtime "Bluetooth runtime state" {} fun runtime ↦
    decide (runtime.version = runtimeVersion)

def loadDevicePolicies (codecs : ManagementCodecs Text) : JsonFile Text → Option DevicePolicyFile :=
  loadPart codecs.devicePolicies "Bluetooth per-device policy" {} fun policies ↦
    decide (policies.version = devicePolicyVersion)

def backedPolicy (store : ManagementStore Text) : Backed ManagementPolicy (JsonFile Text) :=
  ⟨store.policy, store.files.policy⟩

def backedRuntime (store : ManagementStore Text) : Backed RuntimeState (JsonFile Text) :=
  ⟨store.runtime, store.files.runtime⟩

def backedDevicePolicies (store : ManagementStore Text) :
    Backed DevicePolicyFile (JsonFile Text) :=
  ⟨store.devicePolicies, store.files.devicePolicies⟩

/-- Every part of the memory agrees with its file. -/
structure PartsAgree (codecs : ManagementCodecs Text) (store : ManagementStore Text) : Prop where
  policy : store.backedPolicy.Agrees (loadPolicy codecs)
  runtime : store.backedRuntime.Agrees (loadRuntime codecs)
  devicePolicies : store.backedDevicePolicies.Agrees (loadDevicePolicies codecs)

/-- Memory with the same content. -/
structure SameMemory (first second : ManagementStore Text) : Prop where
  policy : first.policy = second.policy
  runtime : first.runtime ≈ second.runtime
  devicePolicies : first.devicePolicies ≈ second.devicePolicies

theorem PartsAgree.of_load {files : ManagementFiles Text} {store : ManagementStore Text}
    (hload : load codecs files = .ok store) : PartsAgree codecs store := by
  obtain ⟨rfl, ⟨hpolicy, valid⟩, ⟨hruntime, hruntimeVersion⟩, hdevices, hdevicesVersion⟩ :=
    load_eq_ok.mp hload
  refine ⟨⟨_, loadPart_eq_some.mpr ⟨hpolicy, ?_⟩, Setoid.refl _⟩,
    ⟨_, loadPart_eq_some.mpr ⟨hruntime, ?_⟩, Setoid.refl _⟩,
    ⟨_, loadPart_eq_some.mpr ⟨hdevices, ?_⟩, Setoid.refl _⟩⟩
  · exact decide_eq_true valid
  · exact decide_eq_true hruntimeVersion
  · exact decide_eq_true hdevicesVersion

/-- Three files that agree are loaded as a whole. -/
theorem PartsAgree.load {store : ManagementStore Text} (agree : PartsAgree codecs store) :
    ∃ loaded, ManagementStore.load codecs store.files = .ok loaded ∧
      SameMemory loaded store := by
  obtain ⟨⟨policy, hpolicy, hpolicySame⟩, ⟨runtime, hruntime, hruntimeSame⟩,
    devices, hdevices, hdevicesSame⟩ := agree
  obtain ⟨hpolicyLoad, valid⟩ := loadPart_eq_some.mp hpolicy
  obtain ⟨hruntimeLoad, hruntimeVersion⟩ := loadPart_eq_some.mp hruntime
  obtain ⟨hdevicesLoad, hdevicesVersion⟩ := loadPart_eq_some.mp hdevices
  refine ⟨⟨store.files, policy, runtime, devices⟩, load_eq_ok.mpr ⟨rfl,
    ⟨hpolicyLoad, of_decide_eq_true valid⟩, ⟨hruntimeLoad, of_decide_eq_true hruntimeVersion⟩,
    hdevicesLoad, of_decide_eq_true hdevicesVersion⟩, ?_⟩
  exact ⟨hpolicySame, hruntimeSame, hdevicesSame⟩

/-- The policy in memory is one that `load` accepts. -/
theorem PartsAgree.valid {store : ManagementStore Text} (agree : PartsAgree codecs store) :
    store.policy.Valid := by
  obtain ⟨policy, hpolicy, hsame⟩ := agree.policy
  have hequal : policy = store.policy := hsame
  exact hequal ▸ of_decide_eq_true (loadPart_eq_some.mp hpolicy).2

theorem PartsAgree.version {store : ManagementStore Text} (agree : PartsAgree codecs store) :
    store.devicePolicies.version = devicePolicyVersion := by
  obtain ⟨devices, hdevices, hsame⟩ := agree.devicePolicies
  exact hsame.1.symm.trans (of_decide_eq_true (loadPart_eq_some.mp hdevices).2)

/-! ## The calls -/

/-- Every part is written through. -/
structure PartsWritten (codecs : ManagementCodecs Text) (before after : ManagementStore Text)
    (succeeds failed : Bool) : Prop where
  policy : Backed.WritesThrough (loadPolicy codecs) before.backedPolicy after.backedPolicy
    succeeds failed
  runtime : Backed.WritesThrough (loadRuntime codecs) before.backedRuntime after.backedRuntime
    succeeds failed
  devicePolicies : Backed.WritesThrough (loadDevicePolicies codecs) before.backedDevicePolicies
    after.backedDevicePolicies succeeds failed

theorem PartsWritten.refl (codecs : ManagementCodecs Text) (store : ManagementStore Text)
    (succeeds failed : Bool) :
    PartsWritten codecs store store succeeds failed :=
  ⟨.keeps (Setoid.refl _), .keeps (Setoid.refl _), .keeps (Setoid.refl _)⟩

theorem PartsWritten.agree {before after : ManagementStore Text} {succeeds failed : Bool}
    (written : PartsWritten codecs before after succeeds failed)
    (agree : PartsAgree codecs before) : PartsAgree codecs after :=
  ⟨written.policy.agrees agree.policy, written.runtime.agrees agree.runtime,
    written.devicePolicies.agrees agree.devicePolicies⟩

/-- A call that fails leaves memory and files as they were. -/
theorem PartsWritten.kept {before after : ManagementStore Text} {succeeds failed : Bool}
    (written : PartsWritten codecs before after succeeds failed)
    (hfails : failed = true ∨ succeeds = false) :
    after.files = before.files ∧ SameMemory after before := by
  obtain ⟨hpolicy, hpolicyFile⟩ := written.policy.kept hfails
  obtain ⟨hruntime, hruntimeFile⟩ := written.runtime.kept hfails
  obtain ⟨hdevices, hdevicesFile⟩ := written.devicePolicies.kept hfails
  exact ⟨ManagementFiles.ext hpolicyFile hruntimeFile hdevicesFile, hpolicy, hruntime, hdevices⟩

structure RoundTrips (codecs : ManagementCodecs Text) : Prop where
  policy : codecs.policy.RoundTrips
  runtime : codecs.runtime.RoundTrips
  devicePolicies : codecs.devicePolicies.RoundTrips

variable {store : ManagementStore Text}

theorem update_written (hjson : RoundTrips codecs) (agree : PartsAgree codecs store)
    (values : Patch) (succeeds : Bool) :
    PartsWritten codecs store (store.update codecs values succeeds).1 succeeds
      (failed (store.update codecs values succeeds).2) := by
  unfold update
  cases context values "management update must be an object" with
  | error error => exact .refl codecs store succeeds true
  | ok object =>
    dsimp only
    cases happly : store.policy.apply object with
    | error error => exact .refl codecs store succeeds true
    | ok updated =>
      dsimp only
      rcases store.files.policy.writeJson_cases codecs.policy updated
        "Bluetooth management policy" succeeds with ⟨rfl, hwritten⟩ | ⟨rfl, error, hfails⟩
      · rw [hwritten]
        have hvalid := agree.valid.apply happly
        have hagrees : Backed.Agrees (loadPolicy codecs)
            ⟨updated, store.files.policy.written codecs.policy updated⟩ := by
          apply agrees_written hjson.policy
          intro other hother
          obtain rfl : other = updated := hother
          exact decide_eq_true hvalid
        exact { PartsWritten.refl codecs store true false with
          policy := .commits rfl rfl hagrees (Setoid.refl _) }
      · rw [hfails]
        exact .refl codecs store false true

theorem lookup_withEntry (devices : Table String DevicePolicyOverrides) (key other : String)
    (updated : Option DevicePolicyOverrides) :
    (withEntry devices key updated).lookup other =
      if other = key then updated else devices.lookup other := by
  cases updated with
  | none => exact Table.lookup_erase devices key other
  | some updated =>
    rw [withEntry, Table.lookup_insert, Table.lookup_erase]
    by_cases hother : other = key <;> simp [hother]

/-- The change is written, or it is undone. -/
theorem persistDeviceChange_cases (store : ManagementStore Text)
    (codecs : ManagementCodecs Text) (key : String) (updated : Option DevicePolicyOverrides)
    (succeeds : Bool) :
    let devices := withEntry store.devicePolicies.devices key updated
    succeeds = true ∧ store.persistDeviceChange codecs key updated succeeds =
        ({ store with
          files.devicePolicies := store.files.devicePolicies.written codecs.devicePolicies
            ⟨store.devicePolicies.version, devices⟩
          devicePolicies.devices := devices }, .ok ()) ∨
      succeeds = false ∧ ∃ error restored, store.persistDeviceChange codecs key updated succeeds =
          ({ store with devicePolicies.devices := restored }, .error error) ∧
        restored ≈ store.devicePolicies.devices := by
  dsimp only
  rcases store.files.devicePolicies.writeJson_cases codecs.devicePolicies
    ⟨store.devicePolicies.version, withEntry store.devicePolicies.devices key updated⟩
    "Bluetooth per-device policy" succeeds with ⟨hsucceeds, hwritten⟩ | ⟨hfails, error, herror⟩
  · refine .inl ⟨hsucceeds, ?_⟩
    simp only [persistDeviceChange, hwritten]
  · refine .inr ⟨hfails, error, withEntry (withEntry store.devicePolicies.devices key updated) key
      (store.devicePolicies.devices.lookup key), ?_, fun other ↦ ?_⟩
    · simp only [persistDeviceChange, herror]
    · rw [lookup_withEntry, lookup_withEntry]
      by_cases hother : other = key
      · rw [if_pos hother, hother]
      · rw [if_neg hother, if_neg hother]

theorem persistDeviceChange_written (hjson : RoundTrips codecs) (agree : PartsAgree codecs store)
    (key : String) (updated : Option DevicePolicyOverrides) (succeeds : Bool) :
    PartsWritten codecs store (store.persistDeviceChange codecs key updated succeeds).1 succeeds
      (failed (store.persistDeviceChange codecs key updated succeeds).2) := by
  rcases store.persistDeviceChange_cases codecs key updated succeeds with
    ⟨rfl, hwritten⟩ | ⟨rfl, error, restored, hfails, hsame⟩
  · rw [hwritten]
    let file : DevicePolicyFile :=
      ⟨store.devicePolicies.version, withEntry store.devicePolicies.devices key updated⟩
    have hagrees : Backed.Agrees (loadDevicePolicies codecs)
        ⟨file, store.files.devicePolicies.written codecs.devicePolicies file⟩ := by
      apply agrees_written hjson.devicePolicies
      intro other hother
      exact decide_eq_true (hother.1.trans agree.version)
    exact { PartsWritten.refl codecs store true false with
      devicePolicies := .commits rfl rfl hagrees (Setoid.refl _) }
  · rw [hfails]
    exact { PartsWritten.refl codecs store false true with
      devicePolicies := .keeps ⟨⟨rfl, hsame⟩, rfl⟩ }

theorem updateDevicePolicy_written (hjson : RoundTrips codecs) (agree : PartsAgree codecs store)
    (deviceKey : String) (values : Patch) (succeeds : Bool) :
    PartsWritten codecs store (store.updateDevicePolicy codecs deviceKey values succeeds).1
      succeeds (failed (store.updateDevicePolicy codecs deviceKey values succeeds).2) := by
  unfold updateDevicePolicy
  cases context values "device policy update must be an object" with
  | error error => exact .refl codecs store succeeds true
  | ok object =>
    dsimp only
    cases (store.overrides deviceKey).apply object with
    | error error => exact .refl codecs store succeeds true
    | ok updated =>
      have hwritten := persistDeviceChange_written hjson agree deviceKey
        (if updated ≠ {} then some updated else none) succeeds
      dsimp only
      cases hresult : store.persistDeviceChange codecs deviceKey
          (if updated ≠ {} then some updated else none) succeeds with
      | mk changed result =>
        rw [hresult] at hwritten
        cases result with
        | ok => exact hwritten
        | error error => exact hwritten

theorem forgetDevicePolicy_written (hjson : RoundTrips codecs) (agree : PartsAgree codecs store)
    (deviceKey : String) (succeeds : Bool) :
    PartsWritten codecs store (store.forgetDevicePolicy codecs deviceKey succeeds).1 succeeds
      (failed (store.forgetDevicePolicy codecs deviceKey succeeds).2) := by
  unfold forgetDevicePolicy
  split
  · exact persistDeviceChange_written hjson agree deviceKey none succeeds
  · exact .refl codecs store succeeds false

theorem rememberSnapshot_written (hjson : RoundTrips codecs) {runtime : RuntimeState}
    (hversion : runtime.version = runtimeVersion) (succeeds : Bool) :
    PartsWritten codecs store (store.rememberSnapshot codecs runtime succeeds).1 succeeds
      (failed (store.rememberSnapshot codecs runtime succeeds).2) := by
  unfold rememberSnapshot
  rcases store.files.runtime.writeJson_cases codecs.runtime runtime "Bluetooth runtime state"
    succeeds with ⟨rfl, hwritten⟩ | ⟨rfl, error, hfails⟩
  · rw [hwritten]
    have hagrees : Backed.Agrees (loadRuntime codecs)
        ⟨runtime, store.files.runtime.written codecs.runtime runtime⟩ := by
      apply agrees_written hjson.runtime
      intro other hother
      exact decide_eq_true (hother.1.trans hversion)
    exact { PartsWritten.refl codecs store true false with
      runtime := .commits rfl rfl hagrees (Setoid.refl _) }
  · rw [hfails]
    exact .refl codecs store false true

/-! ## What a patch does -/

/-- A patch with an entry that is rejected by every policy is rejected. -/
theorem update_rejects {values : Patch} (hrejected : ∀ object ∈ values, ∃ name value,
      object.lookup name = some value ∧
        ∀ policy : ManagementPolicy, failed (policy.set name value) = true) (succeeds : Bool) :
    failed (store.update codecs values succeeds).2 = true := by
  unfold update
  cases values with
  | none => rfl
  | some object =>
    obtain ⟨name, value, hvalue, hfails⟩ := hrejected object rfl
    dsimp only [context]
    cases happly : store.policy.apply object with
    | error error => rfl
    | ok updated =>
      have hmem := (Table.mem_entries object name value).mpr hvalue
      obtain ⟨policy, next, hset⟩ := Loop.accepted_of_foldlM happly hmem
      have hfailed := hfails policy
      rw [hset] at hfailed
      cases hfailed

theorem updateDevicePolicy_rejects {values : Patch} (deviceKey : String)
    (hrejected : ∀ object ∈ values, ∃ name value, object.lookup name = some value ∧
      ∀ overrides : DevicePolicyOverrides, failed (overrides.set name value) = true)
    (succeeds : Bool) :
    failed (store.updateDevicePolicy codecs deviceKey values succeeds).2 = true := by
  unfold updateDevicePolicy
  cases values with
  | none => rfl
  | some object =>
    obtain ⟨name, value, hvalue, hfails⟩ := hrejected object rfl
    dsimp only [context]
    cases happly : (store.overrides deviceKey).apply object with
    | error error => rfl
    | ok updated =>
      have hmem := (Table.mem_entries object name value).mpr hvalue
      obtain ⟨overrides, next, hset⟩ := Loop.accepted_of_foldlM happly hmem
      have hfailed := hfails overrides
      rw [hset] at hfailed
      cases hfailed

theorem overrides_withEntry (devices : Table String DevicePolicyOverrides) (version : UInt8)
    (key other : String) (updated : DevicePolicyOverrides) (files : ManagementFiles Text)
    (policy : ManagementPolicy) (runtime : RuntimeState) :
    overrides ⟨files, policy, runtime, version,
        withEntry devices key (if updated ≠ {} then some updated else none)⟩ other =
      if other = key then updated else (devices.lookup other).getD {} := by
  rw [overrides, lookup_withEntry]
  by_cases hother : other = key
  · rw [if_pos hother, if_pos hother]
    by_cases hupdated : updated = {} <;> simp [hupdated]
  · rw [if_neg hother, if_neg hother]

/-- A patch that is accepted changes the overrides of its device, and of no other. -/
theorem updateDevicePolicy_accepted {object : Table String Value} {deviceKey : String}
    {succeeds : Bool}
    (haccepted : failed (store.updateDevicePolicy codecs deviceKey (some object) succeeds).2 =
      false) :
    ∃ updated, (store.overrides deviceKey).apply object = .ok updated ∧
      ∀ other, (store.updateDevicePolicy codecs deviceKey (some object) succeeds).1.overrides
        other = if other = deviceKey then updated else store.overrides other := by
  unfold updateDevicePolicy at haccepted ⊢
  dsimp only [context] at haccepted ⊢
  cases happly : (store.overrides deviceKey).apply object with
  | error error =>
    rw [happly] at haccepted
    cases haccepted
  | ok updated =>
    rw [happly] at haccepted
    refine ⟨updated, rfl, fun other ↦ ?_⟩
    dsimp only at haccepted ⊢
    rcases store.persistDeviceChange_cases codecs deviceKey
      (if updated ≠ {} then some updated else none) succeeds with
      ⟨-, hwritten⟩ | ⟨-, error, restored, hfails, -⟩
    · rw [hwritten]
      exact overrides_withEntry ..
    · rw [hfails] at haccepted
      cases haccepted

end ManagementStore

end BtDaemon.Storage
