import BtDaemon.Foundation.Transition
import BtDaemon.Storage.KeyAgreement
import BtDaemon.Storage.ManagementAgreement

/-!
# The stores agree with their files

After every call, whatever writes fail, a fresh load of the files returns what the stores hold.
A call that fails changes neither side, and a call that changes the overrides of a device
changes exactly what its patch names.
-/

namespace BtDaemon.Storage

open Transition WriteThrough

structure Codecs (Text : Type) where
  management : ManagementCodecs Text
  accountKeys : Codec Text KeyFile

/-- What was written is read back, for every type that is written. -/
structure Codecs.RoundTrips {Text : Type} (codecs : Codecs Text) : Prop where
  management : ManagementStore.RoundTrips codecs.management
  accountKeys : codecs.accountKeys.RoundTrips

structure State (Text : Type) where
  management : ManagementStore Text
  accountKeys : AccountKeyStore Text

inductive Call where
  | update (values : Patch)
  | updateDevicePolicy (deviceKey : String) (values : Patch)
  | forgetDevicePolicy (deviceKey : String)
  | rememberSnapshot (adapterPower : Table String Bool) (connectedDeviceKeys : List String)
  | insertKey (deviceKey : String) (key : AccountKey)
  | removeKey (deviceKey : String)

section

variable {Text : Type} (codecs : Codecs Text)

/-- Both stores after a call, and whether the call failed. -/
def State.call (state : State Text) (succeeds : Bool) : Call → State Text × Bool
  | .update values =>
    let (management, result) := state.management.update codecs.management values succeeds
    ({ state with management := management }, failed result)
  | .updateDevicePolicy deviceKey values =>
    let (management, result) :=
      state.management.updateDevicePolicy codecs.management deviceKey values succeeds
    ({ state with management := management }, failed result)
  | .forgetDevicePolicy deviceKey =>
    let (management, result) :=
      state.management.forgetDevicePolicy codecs.management deviceKey succeeds
    ({ state with management := management }, failed result)
  | .rememberSnapshot adapterPower connectedDeviceKeys =>
    let (management, result) := state.management.rememberSnapshot codecs.management
      (.observed adapterPower connectedDeviceKeys) succeeds
    ({ state with management := management }, failed result)
  | .insertKey deviceKey key =>
    let (accountKeys, result) :=
      state.accountKeys.insert codecs.accountKeys deviceKey key succeeds
    ({ state with accountKeys := accountKeys }, failed result)
  | .removeKey deviceKey =>
    let (accountKeys, result) := state.accountKeys.remove codecs.accountKeys deviceKey succeeds
    ({ state with accountKeys := accountKeys }, failed result)

/-- A call, and whether its write succeeds. -/
def stores (start : State Text) : System (State Text) (Call × Bool) where
  init := start
  step state action := some (state.call codecs action.2 action.1).1

/-- Both stores were just loaded. -/
structure Loaded (start : State Text) : Prop where
  management : ManagementStore.load codecs.management start.management.files =
    .ok start.management
  accountKeys : AccountKeyStore.load codecs.accountKeys start.accountKeys.file =
    .ok start.accountKeys

/-! ## What the stores promise -/

/-- A fresh load of the files returns what is in memory. -/
structure Agreement (state : State Text) : Prop where
  management : ∃ loaded,
    ManagementStore.load codecs.management state.management.files = .ok loaded ∧
      ManagementStore.SameMemory loaded state.management
  accountKeys : ∃ loaded,
    AccountKeyStore.load codecs.accountKeys state.accountKeys.file = .ok loaded ∧
      loaded.keys ≈ state.accountKeys.keys
  typeByte : TypeByte state.accountKeys.keys

/-- Memory and files are as they were. -/
structure Unchanged (before after : State Text) : Prop where
  files : after.management.files = before.management.files
  management : ManagementStore.SameMemory after.management before.management
  keyFile : after.accountKeys.file = before.accountKeys.file
  accountKeys : after.accountKeys.keys ≈ before.accountKeys.keys

/-- No policy accepts the value, and no overrides do. -/
def Rejected (call : Call) : Prop :=
  match call with
  | .update values => ∀ object ∈ values, ∃ name value, object.lookup name = some value ∧
      ∀ policy : ManagementPolicy, failed (policy.set name value) = true
  | .updateDevicePolicy _ values =>
    ∀ object ∈ values, ∃ name value, object.lookup name = some value ∧
      ∀ overrides : DevicePolicyOverrides, failed (overrides.set name value) = true
  | .insertKey _ key => typeByte key ≠ 0x04
  | _ => False

/-- What a call does. -/
structure Respects (before : State Text) (call : Call) (succeeds : Bool) : Prop where
  rejects : Rejected call → (before.call codecs succeeds call).2 = true
  unchanged : (before.call codecs succeeds call).2 = true ∨ succeeds = false →
    Unchanged before (before.call codecs succeeds call).1
  /-- A patch that is accepted sets the overrides it names, clears those that it sends as
  `null`, and leaves every other one alone. -/
  overrides : ∀ deviceKey object, call = .updateDevicePolicy deviceKey (some object) →
    (before.call codecs succeeds call).2 = false →
      (∀ name, (((before.call codecs succeeds call).1.management).overrides deviceKey).entry name =
        (object.lookup name).elim ((before.management.overrides deviceKey).entry name)
          DevicePolicyOverrides.effect) ∧
      ∀ other, other ≠ deviceKey →
        ((before.call codecs succeeds call).1.management).overrides other =
          before.management.overrides other

end

/-! ## Every call writes through -/

section

variable {Text : Type} {codecs : Codecs Text}

structure Agreeing (codecs : Codecs Text) (state : State Text) : Prop where
  management : ManagementStore.PartsAgree codecs.management state.management
  accountKeys : state.accountKeys.backed.Agrees (AccountKeyStore.loadKeys codecs.accountKeys)
  typeByte : TypeByte state.accountKeys.keys

namespace Agreeing

variable {state : State Text}

theorem of_loaded {start : State Text} (loaded : Loaded codecs start) :
    Agreeing codecs start where
  management := .of_load loaded.management
  accountKeys := AccountKeyStore.agrees_of_load loaded.accountKeys
  typeByte := (AccountKeyStore.typeByte_of_load loaded.accountKeys).2

theorem management_written (agreeing : Agreeing codecs state) (hjson : codecs.RoundTrips)
    (call : Call) (succeeds : Bool) :
    ManagementStore.PartsWritten codecs.management state.management
      (state.call codecs succeeds call).1.management succeeds
      (state.call codecs succeeds call).2 := by
  cases call with
  | update values =>
    exact ManagementStore.update_written hjson.management agreeing.management values succeeds
  | updateDevicePolicy deviceKey values =>
    exact ManagementStore.updateDevicePolicy_written hjson.management agreeing.management
      deviceKey values succeeds
  | forgetDevicePolicy deviceKey =>
    exact ManagementStore.forgetDevicePolicy_written hjson.management agreeing.management
      deviceKey succeeds
  | rememberSnapshot adapterPower connectedDeviceKeys =>
    exact ManagementStore.rememberSnapshot_written hjson.management rfl succeeds
  | insertKey | removeKey => exact .refl codecs.management state.management _ _

theorem accountKeys_written (agreeing : Agreeing codecs state) (hjson : codecs.RoundTrips)
    (call : Call) (succeeds : Bool) :
    Backed.WritesThrough (AccountKeyStore.loadKeys codecs.accountKeys) state.accountKeys.backed
      (state.call codecs succeeds call).1.accountKeys.backed succeeds
      (state.call codecs succeeds call).2 := by
  cases call with
  | insertKey deviceKey key =>
    exact state.accountKeys.insert_writesThrough hjson.accountKeys agreeing.typeByte deviceKey key
      succeeds
  | removeKey deviceKey =>
    exact state.accountKeys.remove_writesThrough hjson.accountKeys agreeing.typeByte deviceKey
      succeeds
  | update | updateDevicePolicy | forgetDevicePolicy | rememberSnapshot =>
    exact .keeps (Setoid.refl _)

theorem call (agreeing : Agreeing codecs state) (hjson : codecs.RoundTrips) (call : Call)
    (succeeds : Bool) : Agreeing codecs (state.call codecs succeeds call).1 where
  management := (agreeing.management_written hjson call succeeds).agree agreeing.management
  accountKeys := (agreeing.accountKeys_written hjson call succeeds).agrees agreeing.accountKeys
  typeByte := by
    cases call with
    | insertKey deviceKey key =>
      exact AccountKeyStore.typeByte_insert agreeing.typeByte deviceKey key succeeds
    | removeKey deviceKey =>
      exact AccountKeyStore.typeByte_remove agreeing.typeByte deviceKey succeeds
    | update | updateDevicePolicy | forgetDevicePolicy | rememberSnapshot =>
      exact agreeing.typeByte

theorem of_reachable (hjson : codecs.RoundTrips) {start : State Text}
    (loaded : Loaded codecs start) (hreach : (stores codecs start).Reachable state) :
    Agreeing codecs state := by
  apply hreach.invariant (of_loaded loaded)
  intro before action next agreeing hstep
  rw [← Option.some.inj hstep]
  exact agreeing.call hjson action.1 action.2

theorem agreement (agreeing : Agreeing codecs state) : Agreement codecs state where
  management := agreeing.management.load
  accountKeys := by
    obtain ⟨loaded, hloaded, hsame⟩ := agreeing.accountKeys
    obtain ⟨store, hstore, hkeys⟩ := Option.map_eq_some_iff.mp hloaded
    refine ⟨store, ?_, hkeys ▸ hsame⟩
    cases hload : AccountKeyStore.load codecs.accountKeys state.accountKeys.file with
    | error error =>
      change (AccountKeyStore.load codecs.accountKeys state.accountKeys.file).toOption =
        some store at hstore
      rw [hload] at hstore
      cases hstore
    | ok found =>
      change (AccountKeyStore.load codecs.accountKeys state.accountKeys.file).toOption =
        some store at hstore
      rw [hload] at hstore
      exact congrArg Except.ok (Option.some.inj hstore)
  typeByte := agreeing.typeByte

theorem respects (agreeing : Agreeing codecs state) (hjson : codecs.RoundTrips) (call : Call)
    (succeeds : Bool) : Respects codecs state call succeeds where
  rejects hrejected := by
    cases call with
    | update values => exact ManagementStore.update_rejects hrejected succeeds
    | updateDevicePolicy deviceKey values =>
      exact ManagementStore.updateDevicePolicy_rejects deviceKey hrejected succeeds
    | insertKey deviceKey key => exact AccountKeyStore.insert_rejects hrejected deviceKey succeeds
    | forgetDevicePolicy | rememberSnapshot | removeKey => exact hrejected.elim
  unchanged hfails := by
    obtain ⟨hfiles, hmemory⟩ := (agreeing.management_written hjson call succeeds).kept hfails
    obtain ⟨hkeys, hkeyFile⟩ := (agreeing.accountKeys_written hjson call succeeds).kept hfails
    exact ⟨hfiles, hmemory, hkeyFile, hkeys⟩
  overrides deviceKey object hcall haccepted := by
    subst hcall
    obtain ⟨updated, happly, hafter⟩ := ManagementStore.updateDevicePolicy_accepted haccepted
    refine ⟨fun name ↦ ?_, fun other hother ↦ ?_⟩
    · rw [← DevicePolicyOverrides.entry_apply happly name]
      exact congrArg (fun overrides ↦ overrides.entry name)
        ((hafter deviceKey).trans (if_pos rfl))
    · exact (hafter other).trans (if_neg hother)

end Agreeing

/-- In every run of calls, whatever writes fail, the stores agree with their files, and every
call respects what it may not change. -/
theorem stores_agree_with_files (hjson : codecs.RoundTrips) {start state : State Text}
    (loaded : Loaded codecs start) (hreach : (stores codecs start).Reachable state) :
    Agreement codecs state ∧ ∀ call succeeds, Respects codecs state call succeeds := by
  have agreeing := Agreeing.of_reachable hjson loaded hreach
  exact ⟨agreeing.agreement, fun call succeeds ↦ agreeing.respects hjson call succeeds⟩

end

/-- An encoding that keeps the value as it is, with the type it was written for. -/
inductive Saved where
  | policy (policy : ManagementPolicy)
  | runtime (runtime : RuntimeState)
  | devicePolicies (policies : DevicePolicyFile)
  | keys (file : KeyFile)

def savedCodecs : Codecs Saved where
  management :=
    { policy := ⟨.policy, fun saved ↦ match saved with
        | .policy policy => some policy
        | _ => none⟩
      runtime := ⟨.runtime, fun saved ↦ match saved with
        | .runtime runtime => some runtime
        | _ => none⟩
      devicePolicies := ⟨.devicePolicies, fun saved ↦ match saved with
        | .devicePolicies policies => some policies
        | _ => none⟩ }
  accountKeys := ⟨.keys, fun saved ↦ match saved with
    | .keys file => some file
    | _ => none⟩

/-- The stores of a first start. -/
def firstStart : State Saved where
  management := ⟨⟨⟨"management-policy.json", none⟩, ⟨"runtime-state.json", none⟩,
    ⟨"device-policy.json", none⟩⟩, {}, {}, {}⟩
  accountKeys := ⟨⟨"fast-pair-account-keys.json", none⟩, ∅⟩

/-- An override is set, a write of its removal fails, and it is still set on both sides. -/
theorem stores_agree_with_files_override :
    ∃ state, Agreement savedCodecs state ∧
      (state.management.overrides "peer").trustAfterPair = some false := by
  have hjson : savedCodecs.RoundTrips :=
    ⟨⟨fun value ↦ ⟨value, rfl, Setoid.refl value⟩, fun value ↦ ⟨value, rfl, Setoid.refl value⟩,
      fun value ↦ ⟨value, rfl, Setoid.refl value⟩⟩, fun value ↦ ⟨value, rfl, Setoid.refl value⟩⟩
  have loaded : Loaded savedCodecs firstStart := ⟨rfl, rfl⟩
  have hreach : (stores savedCodecs firstStart).Reachable _ :=
    ⟨[(.updateDevicePolicy "peer"
        (some ((∅ : Table String Value).insert "trust_after_pair" (.bool false))), true),
      (.updateDevicePolicy "peer"
        (some ((∅ : Table String Value).insert "trust_after_pair" .null)), false)], rfl⟩
  exact ⟨_, (stores_agree_with_files hjson loaded hreach).1, by decide⟩

end BtDaemon.Storage
