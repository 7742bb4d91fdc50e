import BtDaemon.Bluez.Capabilities
import BtDaemon.Sony.Control

/-!
# What a snapshot offers

Against the evidence of a snapshot, an operation that the snapshot offers gets to the device, and
one that it does not offer is refused before anything is sent. Provisioning waits for the model
that the device itself reports, also where the snapshot goes by the advertised one. The Sony
provider goes by the report of the headphones alone.
-/

namespace BtDaemon.Bluez.Capabilities

open BtDaemon.FastPair (Address Crypto FastPairMultipoint FastPairNoiseControl Model RuntimeReport
  noiseControlFrame)
open FastPair.Controls (audioSwitchGroup authenticatedFrame sendAuthenticated setMultipoint
  setNoiseControl validateControl)
open FastPair.Provisioning (metadataTimeout provisionAccountKey provisionFromCatalog recent
  waitForMetadata waitForProvisioningMetadata)
open Program (Asks Avoids MustAsk NeverAsks asks_bind asks_request avoids_bind avoids_request)

/-! ## The world of an operation -/

def nonceOf (nonce : BitVec 64) : FastPair.Controls.Nonce :=
  ⟨(Endian.toBe 8 nonce.toNat).toArray, by
    rw [List.size_toArray, Endian.toBe, List.length_reverse, Endian.length_toLe]⟩

namespace Evidence

variable {crypto : Crypto} (self : Evidence crypto)

/-- The answers to a control that this evidence gives. -/
def control : (request : FastPair.Controls.Request) → request.Answer → Prop
  | .isPaired, answer => answer = .ok self.paired
  | .isConnected, answer => answer = .ok self.connected
  | .isBlocked, answer => answer = .ok self.blocked
  | .deviceKey, answer => answer = self.deviceKey
  | .controlsEnabled key, answer =>
    key = self.deviceKey → answer = self.policy.fastPairControlsEnabled
  | .storedKey key, answer => key = self.deviceKey → answer = self.accountKey
  | .sessionNonce, answer => answer = (self.runtime.bind RuntimeReport.sessionNonce).map nonceOf
  | .multipoint, answer => answer = self.runtime.bind RuntimeReport.multipoint
  | .noiseControl, answer => answer = self.runtime.bind RuntimeReport.noiseControl
  | _, _ => True

/-- The model and the address that the device reported. -/
def metadata : Option (BitVec 24 × Option Address) :=
  self.runtime.bind fun report ↦ report.modelId.map fun id ↦ (id, report.bleAddress)

/-- The answers to a provisioning that this evidence gives. -/
def provisioning : (request : FastPair.Provisioning.Request) → request.Answer crypto → Prop
  | .isPaired, answer => answer = .ok self.paired
  | .isBlocked, answer => answer = .ok self.blocked
  | .deviceKey, answer => answer = self.deviceKey
  | .storedKey key, answer => key = self.deviceKey → answer = self.accountKey
  | .pairedFor key, answer => key = self.deviceKey → answer = self.pairedFor
  | .runtime, answer => answer = self.metadata
  | _, _ => True

end Evidence

/-- A frame is sent to the device. -/
def sends : FastPair.Controls.Request → Prop
  | .execute _ _ => True
  | _ => False

/-- The low energy side of the device is looked for. -/
def seeks : FastPair.Provisioning.Request → Prop
  | .deviceAddresses => True
  | _ => False

/-- Anything but a look at the paired device and at what the daemon knows of it. -/
def approaches : FastPair.Provisioning.Request → Prop
  | .isPaired | .isBlocked | .uuids | .deviceKey | .controlsEnabled _ | .storedKey _
  | .pairedFor _ | .runtime | .sleep _ => False
  | _ => True

/-- The provider makes a command that the headphones read as the mode. -/
def Commanded (report : Sony.NcAsm) (control : Sony.Control.State) (mode : String) : Prop :=
  ∃ payload changed, Sony.Control.setNoiseControl control mode =
      { control with calls := control.calls ++ [⟨mode, report, payload, none⟩] } ∧
    Sony.decodeNcAsm (Sony.ncAsmNotify :: payload.tail) = .ok changed ∧
      changed.activeMode = some mode

variable {crypto : Crypto} {self : Evidence crypto}

/-! ## Controls -/

/-- The device may be controlled. -/
def Evidence.Controllable (self : Evidence crypto) : Prop :=
  self.paired = true ∧ self.connected = true ∧ self.blocked = false ∧
    self.policy.fastPairControlsEnabled = true

instance : Decidable self.Controllable := instDecidableAnd

theorem asks_validateControl {rest : String → Prop} (hmay : self.Controllable)
    (hrest : rest self.deviceKey) :
    Asks self.control sends rest validateControl := by
  obtain ⟨hpaired, hconnected, hblocked, henabled⟩ := hmay
  refine asks_bind.mpr (asks_request ?_)
  rintro _ rfl
  rw [hpaired]
  refine asks_request ?_
  rintro _ rfl
  rw [hconnected]
  refine asks_request ?_
  rintro _ rfl
  rw [hblocked]
  refine asks_request ?_
  rintro _ rfl
  refine asks_request ?_
  intro enabled hanswer
  rw [hanswer rfl, henabled]
  exact hrest

theorem avoids_validateControl {rest : String → Prop}
    (hrest : self.Controllable → rest self.deviceKey) :
    Avoids self.control sends rest validateControl := by
  refine avoids_bind.mpr (avoids_request id ?_)
  rintro _ rfl
  cases hpaired : self.paired with
  | false => trivial
  | true =>
    refine avoids_request id ?_
    rintro _ rfl
    cases hconnected : self.connected with
    | false => trivial
    | true =>
      refine avoids_request id ?_
      rintro _ rfl
      cases hblocked : self.blocked with
      | true => trivial
      | false =>
        refine avoids_request id ?_
        rintro _ rfl
        refine avoids_request id ?_
        intro enabled hanswer
        rw [hanswer rfl]
        cases henabled : self.policy.fastPairControlsEnabled with
        | false => trivial
        | true => exact hrest ⟨hpaired, hconnected, hblocked, henabled⟩

theorem asks_sendAuthenticated {address : Address} {code : UInt8} {message : List UInt8}
    (hmay : self.Controllable) (hnonce : (self.runtime.bind RuntimeReport.sessionNonce).isSome)
    (hkey : self.accountKey.isSome) (hmessage : message.length ≤ 4) :
    Asks self.control sends (fun _ ↦ False)
      (sendAuthenticated crypto address audioSwitchGroup code message) := by
  obtain ⟨nonce, hnonce⟩ := Option.isSome_iff_exists.mp hnonce
  obtain ⟨accountKey, hkey⟩ := Option.isSome_iff_exists.mp hkey
  refine asks_bind.mpr (asks_validateControl hmay (asks_request ?_))
  rintro _ rfl
  rw [hnonce]
  refine asks_request ?_
  intro stored hstored
  rw [hstored rfl, hkey]
  refine asks_request fun messageNonce _ ↦ ?_
  obtain ⟨frame, -, hframe, -⟩ := FastPair.Controls.authenticatedFrame_ok hmessage
  rw [hframe]
  exact .inl trivial

theorem avoids_sendAuthenticated {address : Address} {code : UInt8} {message : List UInt8}
    (hclosed : ¬ (self.Controllable ∧ (self.runtime.bind RuntimeReport.sessionNonce).isSome ∧
      self.accountKey.isSome)) :
    Avoids self.control sends (fun _ ↦ True)
      (sendAuthenticated crypto address audioSwitchGroup code message) := by
  refine avoids_bind.mpr (avoids_validateControl fun hmay ↦ avoids_request id ?_)
  rintro _ rfl
  cases hnonce : self.runtime.bind RuntimeReport.sessionNonce with
  | none => trivial
  | some nonce =>
    refine avoids_request id ?_
    intro stored hstored
    rw [hstored rfl]
    cases hkey : self.accountKey with
    | none => trivial
    | some accountKey =>
      exact absurd ⟨hmay, Option.isSome_of_eq_some hnonce, Option.isSome_of_eq_some hkey⟩ hclosed

theorem asks_setMultipoint {address : Address} {enabled : Bool} {capability : FastPairMultipoint}
    (hmay : self.Controllable) (hnonce : (self.runtime.bind RuntimeReport.sessionNonce).isSome)
    (hkey : self.accountKey.isSome)
    (hreported : self.runtime.bind RuntimeReport.multipoint = some capability)
    (hsupported : capability.supported = true) (hconfigurable : capability.configurable = true) :
    Asks self.control sends (fun _ ↦ False) (setMultipoint crypto address enabled) := by
  refine asks_request ?_
  rintro _ rfl
  rw [hreported]
  change Asks _ _ _ (if (!capability.supported) = true then _ else
    if (!capability.configurable) = true then _ else _)
  rw [hsupported, hconfigurable]
  exact asks_sendAuthenticated hmay hnonce hkey (by simp)

theorem avoids_setMultipoint {address : Address} {enabled : Bool}
    (hclosed : ¬ (self.Controllable ∧ (self.runtime.bind RuntimeReport.sessionNonce).isSome ∧
      self.accountKey.isSome ∧ ∃ capability, self.runtime.bind RuntimeReport.multipoint =
        some capability ∧ capability.supported = true ∧ capability.configurable = true)) :
    Avoids self.control sends (fun _ ↦ True) (setMultipoint crypto address enabled) := by
  refine avoids_request id ?_
  rintro _ rfl
  cases hreported : self.runtime.bind RuntimeReport.multipoint with
  | none => trivial
  | some capability =>
    change Avoids _ _ _ (if (!capability.supported) = true then _ else
      if (!capability.configurable) = true then _ else _)
    cases hsupported : capability.supported with
    | false => trivial
    | true =>
      cases hconfigurable : capability.configurable with
      | false => trivial
      | true =>
        apply avoids_sendAuthenticated
        rintro ⟨hmay, hnonce, hkey⟩
        exact hclosed ⟨hmay, hnonce, hkey, capability, hreported, hsupported, hconfigurable⟩

theorem asks_setNoiseControl {address : Address} {mode : String} {state : FastPairNoiseControl}
    (hmay : self.Controllable)
    (hreported : self.runtime.bind RuntimeReport.noiseControl = some state)
    (hframe : ∃ wire, noiseControlFrame state mode = .ok wire) :
    Asks self.control sends (fun _ ↦ False) (setNoiseControl address mode) := by
  obtain ⟨wire, hwire⟩ := hframe
  refine asks_bind.mpr (asks_validateControl hmay (asks_request ?_))
  rintro _ rfl
  rw [hreported]
  change Asks _ _ _ (Program.ofExcept (noiseControlFrame state mode) >>= _)
  rw [hwire]
  exact .inl trivial

theorem avoids_setNoiseControl {address : Address} {mode : String}
    (hclosed : ¬ (self.Controllable ∧ ∃ state, self.runtime.bind RuntimeReport.noiseControl =
      some state ∧ ∃ wire, noiseControlFrame state mode = .ok wire)) :
    Avoids self.control sends (fun _ ↦ True) (setNoiseControl address mode) := by
  refine avoids_bind.mpr (avoids_validateControl fun hmay ↦ avoids_request id ?_)
  rintro _ rfl
  cases hreported : self.runtime.bind RuntimeReport.noiseControl with
  | none => trivial
  | some state =>
    change Avoids _ _ _ (Program.ofExcept (noiseControlFrame state mode) >>= _)
    cases hwire : noiseControlFrame state mode with
    | error error => trivial
    | ok wire => exact absurd ⟨hmay, state, hreported, wire, hwire⟩ hclosed

/-! ## Provisioning -/

namespace Evidence

/-- What provisioning checks before it looks for the device. -/
def Provisionable (self : Evidence crypto) : Prop :=
  self.paired = true ∧ self.blocked = false ∧ self.accountKey = none ∧
    recent self.pairedFor = true

end Evidence

theorem asks_waitForProvisioningMetadata {rest : BitVec 24 × Option Address → Prop}
    {metadata : BitVec 24 × Option Address} (hmetadata : self.metadata = some metadata)
    (hrest : rest metadata) :
    Asks self.provisioning seeks rest waitForProvisioningMetadata := by
  refine asks_request ?_
  rintro _ rfl
  rw [hmetadata]
  exact hrest

theorem avoids_waitForMetadata {rest : BitVec 24 × Option Address → Prop}
    (hrest : ∀ metadata, self.metadata = some metadata → rest metadata) (polls : ℕ) :
    Avoids self.provisioning approaches rest (waitForMetadata polls) := by
  induction polls with
  | zero => trivial
  | succ polls ih =>
    refine avoids_request id ?_
    rintro _ rfl
    cases hmetadata : self.metadata with
    | some metadata => exact hrest metadata hmetadata
    | none =>
      refine avoids_request id ?_
      rintro (_ | _) -
      · exact ih
      · trivial

theorem asks_provisionAccountKey {address : Address} {antiSpoofingKey : String}
    {metadata : BitVec 24 × Option Address} (hmay : self.Provisionable)
    (hmetadata : self.metadata = some metadata) :
    Asks self.provisioning seeks (fun _ ↦ False)
      (provisionAccountKey address antiSpoofingKey) := by
  obtain ⟨hpaired, hblocked, hstored, hrecent⟩ := hmay
  refine asks_bind.mpr (asks_request ?_)
  rintro _ rfl
  rw [hpaired]
  refine asks_request ?_
  rintro _ rfl
  rw [hblocked]
  refine asks_request ?_
  rintro _ rfl
  refine asks_request ?_
  intro stored hanswer
  rw [hanswer rfl, hstored]
  refine asks_request ?_
  intro pairedFor hanswer
  rw [hanswer rfl, hrecent]
  change Asks _ _ _ (waitForProvisioningMetadata >>= _)
  refine asks_bind.mpr (asks_waitForProvisioningMetadata hmetadata ?_)
  exact .inl trivial

theorem avoids_provisionAccountKey {address : Address} {antiSpoofingKey : String}
    (hclosed : ¬ (self.Provisionable ∧ self.metadata.isSome)) :
    Avoids self.provisioning approaches (fun _ ↦ True)
      (provisionAccountKey address antiSpoofingKey) := by
  refine avoids_bind.mpr (avoids_request id ?_)
  rintro _ rfl
  cases hpaired : self.paired with
  | false => trivial
  | true =>
    refine avoids_request id ?_
    rintro _ rfl
    cases hblocked : self.blocked with
    | true => trivial
    | false =>
      refine avoids_request id ?_
      rintro _ rfl
      refine avoids_request id ?_
      intro stored hanswer
      rw [hanswer rfl]
      cases hstored : self.accountKey with
      | some accountKey => trivial
      | none =>
        refine avoids_request id ?_
        intro pairedFor hanswer
        rw [hanswer rfl]
        cases hrecent : recent self.pairedFor with
        | false => trivial
        | true =>
          change Avoids _ _ _ (waitForProvisioningMetadata >>= _)
          refine avoids_bind.mpr (avoids_waitForMetadata ?_ _)
          intro metadata hmetadata
          exact absurd ⟨⟨hpaired, hblocked, hstored, hrecent⟩, Option.isSome_of_eq_some hmetadata⟩
            hclosed

theorem asks_provisionFromCatalog {address : Address} {metadata : BitVec 24 × Option Address}
    {model : Model} (hmay : self.Provisionable) (hmetadata : self.metadata = some metadata)
    (hmodel : self.catalog.models.lookup metadata.1 = some model) :
    Asks self.provisioning seeks (fun _ ↦ False) (provisionFromCatalog self.catalog address) := by
  refine asks_bind.mpr (asks_waitForProvisioningMetadata hmetadata ?_)
  change Asks _ _ _ (Program.required
    (FastPair.Provisioning.trustedModel self.catalog metadata.1) _ >>= _)
  rw [FastPair.Provisioning.trustedModel, hmodel]
  exact asks_provisionAccountKey hmay hmetadata

theorem avoids_provisionFromCatalog {address : Address}
    (hclosed : ¬ (self.Provisionable ∧ ∃ metadata model, self.metadata = some metadata ∧
      self.catalog.models.lookup metadata.1 = some model)) :
    Avoids self.provisioning approaches (fun _ ↦ True)
      (provisionFromCatalog self.catalog address) := by
  refine avoids_bind.mpr (avoids_waitForMetadata ?_ _)
  intro metadata hmetadata
  change Avoids _ _ _ (Program.required
    (FastPair.Provisioning.trustedModel self.catalog metadata.1) _ >>= _)
  rw [FastPair.Provisioning.trustedModel]
  cases hmodel : self.catalog.models.lookup metadata.1 with
  | none => trivial
  | some model =>
    apply avoids_provisionAccountKey
    rintro ⟨hmay, -⟩
    exact hclosed ⟨hmay, metadata, model, hmetadata, hmodel⟩

/-! ## What is offered -/

namespace Evidence

@[simp]
theorem report_sessionNonce :
    self.report.sessionNonce = self.runtime.bind RuntimeReport.sessionNonce := by
  unfold report
  cases self.runtime <;> dsimp only [Option.getD] <;> split <;> rfl

@[simp]
theorem report_multipoint :
    self.report.multipoint = self.runtime.bind RuntimeReport.multipoint := by
  unfold report
  cases self.runtime <;> dsimp only [Option.getD] <;> split <;> rfl

@[simp]
theorem report_noiseControl :
    self.report.noiseControl = self.runtime.bind RuntimeReport.noiseControl := by
  unfold report
  cases self.runtime <;> dsimp only [Option.getD] <;> split <;> rfl

/-- The model of a report stands over the advertised one. -/
theorem report_modelId {metadata : BitVec 24 × Option Address}
    (hmetadata : self.metadata = some metadata) : self.report.modelId = some metadata.1 := by
  obtain ⟨report, hruntime, hid⟩ := Option.bind_eq_some_iff.mp hmetadata
  obtain ⟨id, hreported, rfl⟩ := Option.map_eq_some_iff.mp hid
  unfold Evidence.report
  rw [hruntime]
  dsimp only [Option.getD]
  rw [if_neg (by simp [hreported]), hreported]

/-- The features say what the evidence says. -/
structure Describes (evidence : Evidence crypto) (features : FastPairFeatures) : Prop where
  multipoint : features.multipoint = evidence.runtime.bind RuntimeReport.multipoint
  noiseControl : features.noiseControl = evidence.runtime.bind RuntimeReport.noiseControl
  controls : features.controlsAvailable = evidence.controlsAvailable
  authenticated : features.authenticatedControls = (evidence.controlsAvailable &&
    (evidence.runtime.bind RuntimeReport.sessionNonce).isSome && evidence.accountKey.isSome)
  provisioning : features.provisioningAvailable = true ↔ evidence.accountKey = none ∧
    recent evidence.pairedFor = true ∧ ∃ id model, evidence.report.modelId = some id ∧
      evidence.catalog.models.lookup id = some model

theorem provisioningReason_isNone {hasKey trustedModel recentPairing : Bool} :
    (provisioningReason hasKey trustedModel recentPairing).isNone = true ↔
      hasKey = false ∧ trustedModel = true ∧ recentPairing = true := by
  revert hasKey trustedModel recentPairing
  decide

/-- Without features nothing is known that could open an operation. -/
theorem features_cases :
    (self.features = none ∧ self.runtime = none ∧ self.report.modelId = none ∧
      self.accountKey = none) ∨
    ∃ features, self.features = some features ∧ self.Describes features := by
  unfold features
  dsimp only
  split
  · next hnone =>
    left
    simpa [and_assoc] using hnone
  · right
    refine ⟨_, rfl, ⟨?_, ?_, rfl, ?_, ?_⟩⟩
    · exact self.report_multipoint
    · exact self.report_noiseControl
    · dsimp only
      rw [report_sessionNonce]
    · dsimp only [describe]
      rw [provisioningReason_isNone]
      simp only [Option.isSome_eq_false_iff, Option.isNone_iff_eq_none, Option.isSome_map,
        Option.isSome_iff_exists, Option.bind_eq_some_iff]
      constructor
      · rintro ⟨hkey, ⟨model, id, hid, hmodel⟩, hrecent⟩
        exact ⟨hkey, hrecent, id, model, hid, hmodel⟩
      · rintro ⟨hkey, hrecent, id, model, hid, hmodel⟩
        exact ⟨hkey, ⟨model, id, hid, hmodel⟩, hrecent⟩

end Evidence

theorem fastPairCapabilities_some (paired connected hasFastPair : Bool)
    (features : FastPairFeatures) :
    fastPairCapabilities paired connected hasFastPair (some features) =
      (paired && connected && hasFastPair && features.provisioningAvailable,
        paired && connected && hasFastPair && (features.authenticatedControls &&
          features.multipoint.any fun multipoint ↦
            multipoint.supported && multipoint.configurable),
        paired && connected && hasFastPair && (features.controlsAvailable &&
          features.noiseControl.any fun noise ↦
            (noise.version == 1 || noise.version == 2) && !noise.settableModes.isEmpty)) := by
  unfold fastPairCapabilities
  cases paired <;> cases connected <;> cases hasFastPair <;> rfl

theorem Evidence.multipoint_offered : self.capabilities.canSetMultipoint = true ↔
    (hasFastPairService self.uuids = true ∧ self.writer = true) ∧ self.Controllable ∧
      (self.runtime.bind RuntimeReport.sessionNonce).isSome ∧ self.accountKey.isSome ∧
        ∃ capability, self.runtime.bind RuntimeReport.multipoint = some capability ∧
          capability.supported = true ∧ capability.configurable = true := by
  unfold capabilities deviceCapabilities
  dsimp only
  rcases self.features_cases with ⟨hnone, -, -, hkey⟩ | ⟨features, hsome, hdescribes⟩
  · simp [hnone, hkey, fastPairCapabilities]
  · rw [hsome, fastPairCapabilities_some, hdescribes.multipoint, hdescribes.authenticated]
    simp only [controlsAvailable, Controllable, Bool.and_eq_true, Bool.not_eq_true',
      Option.any_eq_true]
    constructor
    · rintro ⟨⟨⟨⟨hpaired, hconnected⟩, hlisted⟩, ⟨⟨⟨⟨-, henabled⟩, hwriter⟩, hnonce⟩, hkey⟩,
        hcapable⟩, hblocked⟩
      exact ⟨⟨hlisted, hwriter⟩, ⟨hpaired, hconnected, hblocked, henabled⟩, hnonce, hkey,
        hcapable⟩
    · rintro ⟨⟨hlisted, hwriter⟩, ⟨hpaired, hconnected, hblocked, henabled⟩, hnonce, hkey,
        hcapable⟩
      exact ⟨⟨⟨⟨hpaired, hconnected⟩, hlisted⟩, ⟨⟨⟨⟨hconnected, henabled⟩, hwriter⟩, hnonce⟩,
        hkey⟩, hcapable⟩, hblocked⟩

theorem Evidence.noiseControl_offered (hvendor : self.vendorNoiseControl = none) :
    self.capabilities.canSetNoiseControl = true ↔
      (hasFastPairService self.uuids = true ∧ self.writer = true) ∧ self.Controllable ∧
        ∃ state, self.runtime.bind RuntimeReport.noiseControl = some state ∧
          (state.version = 1 ∨ state.version = 2) ∧ state.settableModes ≠ [] := by
  unfold capabilities deviceCapabilities
  dsimp only
  rcases self.features_cases with ⟨hnone, hruntime, -, -⟩ | ⟨features, hsome, hdescribes⟩
  · simp [hnone, hruntime, hvendor, fastPairCapabilities]
  · rw [hsome, hvendor, fastPairCapabilities_some, hdescribes.noiseControl, hdescribes.controls]
    simp only [controlsAvailable, Controllable, Bool.and_eq_true, Bool.not_eq_true',
      Option.any_eq_true, Option.any_none, Bool.and_false, Bool.or_false, Bool.or_eq_true,
      beq_iff_eq, List.isEmpty_eq_false_iff]
    constructor
    · rintro ⟨⟨⟨⟨hpaired, hconnected⟩, hlisted⟩, ⟨⟨-, henabled⟩, hwriter⟩, hstate⟩, hblocked⟩
      exact ⟨⟨hlisted, hwriter⟩, ⟨hpaired, hconnected, hblocked, henabled⟩, hstate⟩
    · rintro ⟨⟨hlisted, hwriter⟩, ⟨hpaired, hconnected, hblocked, henabled⟩, hstate⟩
      exact ⟨⟨⟨⟨hpaired, hconnected⟩, hlisted⟩, ⟨⟨hconnected, henabled⟩, hwriter⟩, hstate⟩,
        hblocked⟩

theorem Evidence.provisioning_offered : self.capabilities.canProvisionFastPair = true ↔
    (hasFastPairService self.uuids = true ∧ self.connected = true) ∧ self.Provisionable ∧
      ∃ id model, self.report.modelId = some id ∧
        self.catalog.models.lookup id = some model := by
  unfold capabilities deviceCapabilities
  dsimp only
  rcases self.features_cases with ⟨hnone, -, hid, -⟩ | ⟨features, hsome, hdescribes⟩
  · simp [hnone, hid, fastPairCapabilities]
  · rw [hsome, fastPairCapabilities_some]
    simp only [Provisionable, Bool.and_eq_true, Bool.not_eq_true', hdescribes.provisioning]
    constructor
    · rintro ⟨⟨⟨⟨hpaired, hconnected⟩, hlisted⟩, hkey, hrecent, hmodel⟩, hblocked⟩
      exact ⟨⟨hlisted, hconnected⟩, ⟨hpaired, hblocked, hkey, hrecent⟩, hmodel⟩
    · rintro ⟨⟨hlisted, hconnected⟩, ⟨hpaired, hblocked, hkey, hrecent⟩, hmodel⟩
      exact ⟨⟨⟨⟨hpaired, hconnected⟩, hlisted⟩, hkey, hrecent, hmodel⟩, hblocked⟩

/-! ## Reasons -/

/-- The operations that can have a reason. -/
def DeviceCapabilities.explainable (capabilities : DeviceCapabilities) : List (String × Bool) :=
  [("pair", capabilities.canPair), ("connect", capabilities.canConnect),
    ("disconnect", capabilities.canDisconnect), ("wake", capabilities.canWake),
    ("send_file", capabilities.canSendFile),
    ("provision_fast_pair", capabilities.canProvisionFastPair),
    ("set_multipoint", capabilities.canSetMultipoint),
    ("set_noise_control", capabilities.canSetNoiseControl)]

def DeviceCapabilities.Explained (capabilities : DeviceCapabilities) (operation : String) : Prop :=
  ∃ reason, (operation, reason) ∈ capabilities.unsupportedReasons

theorem mem_reasons {table : List (Bool × String × String)} {operation : String} :
    (∃ reason, (operation, reason) ∈ (table.filter Prod.fst).map Prod.snd) ↔
      (operation, true) ∈ table.map fun entry ↦ (entry.2.1, entry.1) := by
  constructor
  · rintro ⟨reason, hreason⟩
    obtain ⟨entry, hentry, heq⟩ := List.mem_map.mp hreason
    obtain ⟨hmem, hunsupported⟩ := List.mem_filter.mp hentry
    exact List.mem_map.mpr ⟨entry, hmem, by rw [hunsupported, heq]⟩
  · intro hmem
    obtain ⟨⟨unsupported, name, reason⟩, hentry, heq⟩ := List.mem_map.mp hmem
    obtain ⟨rfl, rfl⟩ := Prod.mk.inj heq
    exact ⟨reason, List.mem_map.mpr ⟨_, List.mem_filter.mpr ⟨hentry, rfl⟩, rfl⟩⟩

/-- Blocking a device closes operations without a reason; nothing else does. -/
theorem explained_of_mem {paired connected hasFastPair blocked : Bool} {wakeAllowed : Option Bool}
    {features : Option FastPairFeatures} {vendor : Option NoiseControl} {operation : String}
    {offered : Bool} {capabilities : DeviceCapabilities}
    (hcapabilities : deviceCapabilities paired connected blocked wakeAllowed hasFastPair features
      vendor = capabilities)
    (hmem : (operation, offered) ∈ capabilities.explainable) :
    (capabilities.Explained operation → offered = false) ∧
      (offered = false → capabilities.Explained operation ∨ blocked = true) := by
  subst hcapabilities
  unfold deviceCapabilities DeviceCapabilities.explainable at hmem
  unfold deviceCapabilities DeviceCapabilities.Explained unsupportedReasons
  dsimp only at hmem ⊢
  rw [mem_reasons, ← Option.not_isSome]
  simp only [List.mem_cons, Prod.mk.injEq, List.not_mem_nil, or_false] at hmem
  rcases hmem with ⟨rfl, rfl⟩ | ⟨rfl, rfl⟩ | ⟨rfl, rfl⟩ | ⟨rfl, rfl⟩ | ⟨rfl, rfl⟩ | ⟨rfl, rfl⟩ |
    ⟨rfl, rfl⟩ | ⟨rfl, rfl⟩
  all_goals
    simp only [List.map_cons, List.map_nil, List.mem_cons, Prod.mk.injEq, List.not_mem_nil,
      String.reduceEq, false_and, true_and, or_false, false_or]
    grind

/-! ## The operations keep what the snapshot says -/

namespace Evidence

theorem noiseControl_of_vendor (hvendor : self.vendorNoiseControl = none) :
    self.noiseControl = (self.runtime.bind RuntimeReport.noiseControl).map fromFastPair := by
  rw [noiseControl, hvendor, Option.none_or]
  rcases self.features_cases with ⟨hnone, hruntime, -, -⟩ | ⟨features, hsome, hdescribes⟩
  · rw [hnone, hruntime]
    rfl
  · rw [hsome, Option.bind_some, hdescribes.noiseControl]

theorem noiseControl_of_sony {state : Sony.NcAsm} (hconnected : self.connected = true)
    (hsony : self.sony = some state) : self.noiseControl = some (fromSony state) := by
  rw [noiseControl, vendorNoiseControl, if_pos hconnected, hsony]
  rfl

theorem vendorNoiseControl_of_none (hsony : self.sony = none) : self.vendorNoiseControl = none := by
  rw [vendorNoiseControl, hsony]
  split <;> rfl

theorem connected_of_noiseControl (hoffered : self.capabilities.canSetNoiseControl = true) :
    self.connected = true := by
  by_contra hdisconnected
  rw [Bool.not_eq_true] at hdisconnected
  simp [capabilities, deviceCapabilities, fastPairCapabilities, hdisconnected] at hoffered

end Evidence

theorem asks_publishedMode {address : Address} {noise : NoiseControl} {mode : String}
    (hvendor : self.vendorNoiseControl = none)
    (hoffered : self.capabilities.canSetNoiseControl = true)
    (hnoise : self.noiseControl = some noise) (hmode : mode ∈ noise.settableModes) :
    Asks self.control sends (fun _ ↦ False) (setNoiseControl address mode) := by
  obtain ⟨-, hmay, state, hreported, hversion, -⟩ :=
    (Evidence.noiseControl_offered hvendor).mp hoffered
  obtain ⟨report, hruntime, hstate⟩ := Option.bind_eq_some_iff.mp hreported
  obtain ⟨payload, hpayload⟩ := self.decoded report state hruntime hstate
  rw [self.noiseControl_of_vendor hvendor, hreported] at hnoise
  obtain rfl := Option.some.inj hnoise
  exact asks_setNoiseControl hmay hreported
    ((FastPair.noiseControlFrame_settable hpayload mode).mpr ⟨hversion, hmode⟩)

theorem avoids_unpublishedMode {address : Address} {mode : String}
    (hvendor : self.vendorNoiseControl = none) (hlisted : hasFastPairService self.uuids = true)
    (hwriter : self.writer = true)
    (hclosed : self.capabilities.canSetNoiseControl = true →
      ∀ noise, self.noiseControl = some noise → mode ∉ noise.settableModes) :
    Avoids self.control sends (fun _ ↦ True) (setNoiseControl address mode) := by
  apply avoids_setNoiseControl
  rintro ⟨hmay, state, hreported, hframe⟩
  obtain ⟨report, hruntime, hstate⟩ := Option.bind_eq_some_iff.mp hreported
  obtain ⟨payload, hpayload⟩ := self.decoded report state hruntime hstate
  obtain ⟨hversion, hmode⟩ := (FastPair.noiseControlFrame_settable hpayload mode).mp hframe
  have hoffered := (Evidence.noiseControl_offered hvendor).mpr
    ⟨⟨hlisted, hwriter⟩, hmay, state, hreported, hversion, List.ne_nil_of_mem hmode⟩
  apply hclosed hoffered (fromFastPair state) _ hmode
  rw [self.noiseControl_of_vendor hvendor, hreported]
  rfl

theorem commanded_publishedMode {report : Sony.NcAsm} {control : Sony.Control.State}
    {noise : NoiseControl} {mode : String} (hsony : self.sony = some report)
    (hstored : control.noiseControl = some report)
    (hoffered : self.capabilities.canSetNoiseControl = true)
    (hnoise : self.noiseControl = some noise) (hmode : mode ∈ noise.settableModes) :
    Commanded report control mode := by
  have hconnected := Evidence.connected_of_noiseControl hoffered
  rw [Evidence.noiseControl_of_sony hconnected hsony] at hnoise
  obtain rfl := Option.some.inj hnoise
  obtain ⟨fields, hfields⟩ := Option.isSome_iff_exists.mp ((Sony.modeFields_isSome mode).mpr hmode)
  have hpayload : ∃ payload, Sony.ncAsmPayload report mode = .ok payload := by
    rw [Sony.ncAsmPayload, hfields]
    exact ⟨_, rfl⟩
  obtain ⟨payload, hpayload⟩ := hpayload
  obtain ⟨enabled, ambient, hset, hreads⟩ := Sony.decode_ncAsmPayload hpayload
  refine ⟨payload, _, ?_, hreads, Sony.activeMode_withMode hset⟩
  rw [Sony.Control.setNoiseControl, hstored]
  dsimp only
  rw [hpayload]

theorem refused_unpublishedMode {report : Sony.NcAsm} {control : Sony.Control.State}
    {noise : NoiseControl} {mode : String} (hsony : self.sony = some report)
    (hconnected : self.connected = true) (hnoise : self.noiseControl = some noise)
    (hmode : mode ∉ noise.settableModes) : Sony.Control.setNoiseControl control mode = control := by
  rw [Evidence.noiseControl_of_sony hconnected hsony] at hnoise
  obtain rfl := Option.some.inj hnoise
  have hfields : Sony.modeFields mode = none := by
    rw [← Option.not_isSome_iff_eq_none, Sony.modeFields_isSome]
    exact hmode
  unfold Sony.Control.setNoiseControl
  split
  · rfl
  · rw [Sony.ncAsmPayload, hfields]

theorem canSendFile_iff : self.capabilities.canSendFile = true ↔
    validateObexSendState self.paired self.blocked = .ok () := by
  change (self.paired && !self.blocked) = true ↔ _
  rw [validateObexSendState]
  cases self.paired <;> cases self.blocked <;> simp

/-- What the snapshot says of the device at `address`, and what its operations do. -/
structure Honoured (evidence : Evidence crypto) (address : Address) : Prop where
  sendFile : evidence.capabilities.canSendFile = true ↔
    validateObexSendState evidence.paired evidence.blocked = .ok ()
  multipoint : evidence.capabilities.canSetMultipoint = true → ∀ enabled,
    MustAsk evidence.control sends (setMultipoint crypto address enabled)
  noMultipoint : evidence.capabilities.canSetMultipoint = false →
    hasFastPairService evidence.uuids = true → evidence.writer = true → ∀ enabled,
      NeverAsks evidence.control sends (setMultipoint crypto address enabled)
  noiseControl : evidence.capabilities.canSetNoiseControl = true → ∀ noise mode,
    evidence.noiseControl = some noise → mode ∈ noise.settableModes →
      match evidence.sony with
      | some report => ∀ control, control.noiseControl = some report →
        Commanded report control mode
      | none => MustAsk evidence.control sends (setNoiseControl address mode)
  noNoiseControl : evidence.sony = none → hasFastPairService evidence.uuids = true →
    evidence.writer = true → ∀ mode, (evidence.capabilities.canSetNoiseControl = true →
      ∀ noise, evidence.noiseControl = some noise → mode ∉ noise.settableModes) →
        NeverAsks evidence.control sends (setNoiseControl address mode)
  noSonyMode : ∀ report noise mode control, evidence.sony = some report →
    evidence.connected = true → evidence.noiseControl = some noise → mode ∉ noise.settableModes →
      Sony.Control.setNoiseControl control mode = control
  provisioning : evidence.capabilities.canProvisionFastPair = true → evidence.metadata.isSome →
    MustAsk evidence.provisioning seeks (provisionFromCatalog evidence.catalog address)
  noProvisioning : evidence.capabilities.canProvisionFastPair = false →
    hasFastPairService evidence.uuids = true → evidence.connected = true →
      NeverAsks evidence.provisioning approaches (provisionFromCatalog evidence.catalog address)
  /-- An advertised model opens the offer only. -/
  unreported : evidence.metadata = none →
    NeverAsks evidence.provisioning approaches (provisionFromCatalog evidence.catalog address)
  /-- Blocking a device closes operations without a reason; nothing else does. -/
  explained : ∀ operation offered, (operation, offered) ∈ evidence.capabilities.explainable →
    (evidence.capabilities.Explained operation → offered = false) ∧
      (offered = false → evidence.capabilities.Explained operation ∨ evidence.blocked = true)

/-- Headphones with everything that multipoint needs. -/
def headphones : Evidence Crypto.twoParties where
  paired := true
  connected := true
  blocked := false
  wakeAllowed := none
  uuids := [FastPair.Provisioning.messageStreamUuid]
  deviceKey := "device-1"
  policy := ⟨true, true, true, true, true, "keep", none⟩
  accountKey := some (Vector.replicate 16 0x04)
  runtime := some { sessionNonce := some 1, multipoint := some ⟨0x0102, true, true, false, false⟩ }
  serviceData := none
  catalog := ⟨∅, by simp⟩
  pairedFor := none
  writer := true
  sony := none
  decoded report state hreport hstate := by
    obtain rfl := Option.some.inj hreport
    cases hstate

def sonyReport : Sony.NcAsm := ⟨0x17, true, true, none, false, 10, by decide, by decide⟩

/-- They are Sony headphones as well. -/
def sonyHeadphones : Evidence Crypto.twoParties := { headphones with sony := some sonyReport }

end BtDaemon.Bluez.Capabilities
