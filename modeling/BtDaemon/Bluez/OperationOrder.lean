import BtDaemon.Bluez.Operations
import BtDaemon.Foundation.Rules

/-!
# The order of the effects of a device operation

Which effects an operation may ask for depends on what was answered before. Nothing is asked for
after a failure, an adapter is powered only where that is allowed and a hardware switch does not
forbid it, credentials are revoked before a device is removed, and local state is forgotten only
after it was. This holds for whatever BlueZ answers and wherever the operation is dropped.
-/

namespace BtDaemon.Bluez.Operations

open Program (Did Ends Ensures Event Outcome Rules Runs ensures_bind)
open Storage (DevicePolicy)

abbrev Past := List (Event Request.Answer)

/-! ## What happened -/

/-- The answer ends the operation. A failed `rfkill` write, automatic provisioning or poll of the
services does not. -/
def Request.fails : (request : Request) → request.Answer → Bool
  | .findDevice, .error _ => true
  | .forgetAccountKey, .error _ => true
  | .provisionAccountKey _, .error _ => true
  | .provisionFromCatalog, .error _ => true
  | .setMultipoint _, .error _ => true
  | .setNoiseControl _, .error _ => true
  | .sonySetNoiseControl _, .error _ => true
  | .enableFastPairControls, .error _ => true
  | .snapshot, .error _ => true
  | .isPowered, .error _ => true
  | .isPaired, .error _ => true
  | .isTrusted, .error _ => true
  | .isBlocked, .error _ => true
  | .isConnected, .error _ => true
  | .setPowered _, .error _ => true
  | .setTrusted _, .error _ => true
  | .removeDevice, .error _ => true
  | .setBlocked _, .error _ => true
  | .setWakeAllowed _, .error _ => true
  | .setAlias _, .error _ => true
  | .pair, none | .pair, some (.error _) => true
  | .disconnect, none | .disconnect, some (.error _) => true
  | .connect, none => true
  | .connect, some (.error error) => error.kind != .alreadyConnected
  | .applyAudioPolicy _, .failed _ => true
  | .applyAudioPolicy _, .lost _ => true
  | .applyAudioPolicy _, .waiting _ late => late
  | _, _ => false

/-- The snapshot after the operation is remembered. -/
def Request.remembers : (request : Request) → request.Answer → Bool
  | .rememberSnapshot, _ => true
  | _, _ => false

def ends : Ends Request.Answer where
  fails := Request.fails
  lasts := Request.remembers

/-- The device is connected, or was before. -/
def Connected (past : Past) : Prop :=
  ∃ answer, Did past .connect answer ∧ Request.fails .connect answer = false

/-! ## What an operation may do -/

section Allowed

variable (backend : Backend) (operation : DeviceOperation) (params : Params)

/-- The adapter may be powered for the operation. -/
def powerOn (policy : DevicePolicy) : Bool :=
  match params "power_on" with
  | .bool value => value
  | _ => policy.powerOnConnect

/-- What an operation that succeeded did. -/
def Effective (past : Past) : Prop :=
  match operation with
  | .pair => Did past .pair (some (.ok ())) ∧ (Did past .isConnected (.ok true) ∨ Connected past)
  | .connect => Connected past
  | .disconnect => Did past .disconnect (some (.ok ()))
  | .remove => Did past .removeDevice (.ok ())
  | .setTrusted => ∃ trusted, params "trusted" = .bool trusted ∧
    Did past (.setTrusted trusted) (.ok ())
  | .setBlocked => ∃ blocked, params "blocked" = .bool blocked ∧
    Did past (.setBlocked blocked) (.ok ())
  | .setWakeAllowed => ∃ allowed, params "wake_allowed" = .bool allowed ∧
    Did past (.setWakeAllowed allowed) (.ok ())
  | .setAlias => ∃ name, params "alias" = .string name ∧ Did past (.setAlias name) (.ok ())
  | .resetAlias => Did past (.setAlias "") (.ok ())
  | .provisionFastPair => (∃ key, params "anti_spoofing_public_key" = .string key ∧
      Did past (.provisionAccountKey key) (.ok ())) ∨ Did past .provisionFromCatalog (.ok ())
  | .setMultipoint => ∃ enabled, params "enabled" = .bool enabled ∧
    Did past (.setMultipoint enabled) (.ok ())
  | .setNoiseControl => ∃ mode, params "mode" = .string mode ∧
    (Did past (.setNoiseControl mode) (.ok ()) ∨ Did past (.sonySetNoiseControl mode) (.ok ()))

/-- The operation is one that powers an adapter, and may. -/
def MayPower (past : Past) : Prop :=
  connects operation = true ∧
    ∃ policy, Did past .devicePolicy policy ∧ powerOn params policy = true

/-- What must have happened before a request. -/
def Needs (past : Past) : Request → Prop
  | .setPowered powered => powered = true ∧ MayPower operation params past ∧
    Did past .isPowered (.ok false) ∧
    ∃ before, Did past .snapshot (.ok before) ∧ before.hardBlocked = false
  | .unblockRfkill => MayPower operation params past ∧
    ∃ before, Did past .snapshot (.ok before) ∧ before.hardBlocked = false ∧
      before.rfkillPresent = true ∧ before.softBlocked = true
  | .pair => operation = .pair
  | .connect =>
    operation = .pair ∧ Did past .pair (some (.ok ())) ∧ Did past .isConnected (.ok false) ∨
    operation = .connect
  | .setTrusted trusted => operation = .setTrusted ∨ trusted = true ∧
    (operation = .pair ∧ Did past .pair (some (.ok ())) ∨
      operation = .connect ∧ Did past .isPaired (.ok true) ∧ Did past .isTrusted (.ok false))
  | .setBlocked _ => operation = .setBlocked
  | .setWakeAllowed _ => operation = .setWakeAllowed
  | .setAlias _ => operation = .setAlias ∨ operation = .resetAlias
  | .notePairing => Did past .pair (some (.ok ()))
  | .autoProvision => backend.fastPair = true ∧ Did past .pair (some (.ok ()))
  | .provisionAccountKey _ => backend.fastPair = true ∧
    (operation = .provisionFastPair ∨ Did past .pair (some (.ok ())))
  | .provisionFromCatalog => backend.fastPair = true ∧ operation = .provisionFastPair
  | .disconnect =>
    operation = .disconnect ∨ operation = .remove ∧ Did past .isConnected (.ok true) ∧
    (backend.fastPair = true → Did past .forgetAccountKey (.ok ()))
  | .forgetAccountKey => backend.fastPair = true ∧ operation = .remove
  | .removeDevice => operation = .remove ∧
    (backend.fastPair = true → Did past .forgetAccountKey (.ok ())) ∧
    (Did past .isConnected (.ok false) ∨ Did past .disconnect (some (.ok ())))
  | .setMultipoint _ => operation = .setMultipoint ∧
    ∃ policy, Did past .devicePolicy policy ∧ policy.fastPairControlsEnabled = true
  | .setNoiseControl _ => operation = .setNoiseControl ∧
    (Did past .sonyNoiseControl true ∨
      ∃ policy, Did past .devicePolicy policy ∧ policy.fastPairControlsEnabled = true)
  | .sonySetNoiseControl _ => operation = .setNoiseControl ∧ Did past .sonyNoiseControl true
  | .applyAudioPolicy request => connects operation = true ∧
    ∃ policy, Did past .devicePolicy policy ∧ audioRouteRequired true policy = true ∧
      request = ⟨policy.preferredAudioProfileKey, policy.audioRouteOnConnect == "switch"⟩
  | .enableFastPairControls => operation = .provisionFastPair ∧ Effective operation params past
  | .forgetCached | .forgetPresentation | .forgetDevicePolicy =>
    operation = .remove ∧ Effective operation params past
  | .rememberSnapshot => Effective operation params past
  | _ => True

/-- Everything but the gate is asked for under the gate, and where it may be. -/
def rules : Rules Request.Answer where
  toEnds := ends
  needs past request := (request = .lock ∨ Did past .lock ()) ∧
    Needs backend operation params past request

/-- An operation succeeds if and only if its effect and everything around it did. -/
def Settled (past : Past) : Except BackendError Unit → Prop
  | .ok () => ends.Clean past ∧ Effective operation params past ∧ Did past .rememberSnapshot ()
  | .error _ => ends.Free past

end Allowed

/-! ## Progress -/

/-- The operation has the gate and nothing failed. -/
structure Working (past : Past) : Prop extends ends.Working past where
  locked : Did past .lock ()

/-- The past after an answer under the gate. -/
structure After (past : Past) (request : Request) (answer : request.Answer) (later : Past) : Prop
    extends ends.After past request answer later where
  locked : Did later .lock ()

theorem After.working {past later : Past} {request : Request} {answer : request.Answer}
    (hafter : After past request answer later) (hfails : request.fails answer = false)
    (hremembers : request.remembers answer = false) : Working later :=
  ⟨hafter.toAfter.working hfails hremembers, hafter.locked⟩

theorem Connected.mono {past later : Past} (hconnected : Connected past) (hmore : past <+: later) :
    Connected later := by
  obtain ⟨answer, hdid, hfails⟩ := hconnected
  exact ⟨answer, hdid.mono hmore, hfails⟩

variable {backend : Backend} {operation : DeviceOperation} {params : Params} {past : Past}

/-- One request of an operation. -/
theorem ensures_ask {Found : Type} {post : Past → Except BackendError Found → Prop}
    (request : Request) {next : request.Answer → Operation Found} (hworking : Working past)
    (hneeds : Needs backend operation params past request)
    (hanswer : ∀ answer later, After past request answer later →
      Ensures (rules backend operation params).Allowed post (next answer) later) :
    Ensures (rules backend operation params).Allowed post (ask request >>= next) past :=
  Rules.ensures_ask request hworking.toWorking ⟨.inr hworking.locked, hneeds⟩
    fun answer later hafter ↦ hanswer answer later ⟨hafter, hworking.locked.mono hafter.more⟩

/-! ## The steps of an operation -/

section Steps

variable {post : Past → Except BackendError Unit → Prop}

theorem ensures_progress {stage : String} {next : Unit → Operation Unit} (hworking : Working past)
    (hnext : ∀ later, past <+: later → Working later →
      Ensures (rules backend operation params).Allowed post (next ()) later) :
    Ensures (rules backend operation params).Allowed post (ask (.progress stage) >>= next)
      past := by
  apply ensures_ask (.progress stage) hworking trivial
  intro answer later hafter
  exact hnext later hafter.more (hafter.working rfl rfl)

theorem MayPower.mono {later : Past} (hmay : MayPower operation params past)
    (hmore : past <+: later) : MayPower operation params later := by
  obtain ⟨hconnects, policy, hpolicy, hpower⟩ := hmay
  exact ⟨hconnects, policy, hpolicy.mono hmore, hpower⟩

theorem ensures_unblockRfkill {before : RadioState} (hworking : Working past)
    (hmay : MayPower operation params past) (hsnapshot : Did past .snapshot (.ok before))
    (hhard : before.hardBlocked = false)
    (hdone : ∀ later, past <+: later → Working later → post later (.ok ())) :
    Ensures (rules backend operation params).Allowed post (unblockRfkill before false) past := by
  rw [unblockRfkill, Program.ensures_when]
  split
  · next hblocked =>
    rw [Bool.and_eq_true] at hblocked
    apply ensures_ask .unblockRfkill hworking ⟨hmay, before, hsnapshot, hhard, hblocked⟩
    rintro (error | ⟨⟩) later hafter
    · exact hdone later hafter.more (hafter.working rfl rfl)
    · exact hdone later hafter.more (hafter.working rfl rfl)
  · exact hdone past (List.prefix_refl _) hworking

theorem ensures_ensureOperationAdapterPowered {powerOn : Bool} (hworking : Working past)
    (hpowerOn : powerOn = true → MayPower operation params past)
    (hforgiving : ends.Forgiving post)
    (hdone : ∀ later, past <+: later → Working later → post later (.ok ())) :
    Ensures (rules backend operation params).Allowed post (ensureOperationAdapterPowered powerOn)
      past := by
  apply ensures_ask .isPowered hworking trivial
  rintro (error | powered) later hafter
  · exact hforgiving _ _ (hafter.free rfl)
  have hread := hafter.working rfl rfl
  change Ensures _ post (if powered = true then _ else _) later
  split
  · exact hdone later hafter.more hread
  next hpowered =>
  split
  · exact hforgiving _ _ (hafter.free rfl)
  next hallowed =>
  apply ensures_progress hread
  intro announced hannounced hworking
  apply ensures_ask .snapshot hworking trivial
  rintro (error | before) known hknown
  · exact hforgiving _ _ (hknown.free rfl)
  change Ensures _ post (if before.hardBlocked = true then _ else _) known
  split
  · exact hforgiving _ _ (hknown.free rfl)
  next hhard =>
  apply (ensures_bind _ _).mpr
  have hmay := hpowerOn (by simpa using hallowed)
  apply ensures_unblockRfkill (hknown.working rfl rfl)
    (hmay.mono (hafter.more.trans (hannounced.trans hknown.more))) hknown.did
      (Bool.not_eq_true _ ▸ hhard)
  intro unblocked hunblocked hworking
  have hmore := (hannounced.trans hknown.more).trans hunblocked
  apply ensures_ask (.setPowered true) hworking _
  · rintro (error | ⟨⟩) final hfinal
    · exact hforgiving _ _ (hfinal.free rfl)
    · exact hdone final ((hafter.more.trans hmore).trans hfinal.more) (hfinal.working rfl rfl)
  · refine ⟨rfl, hmay.mono (hafter.more.trans hmore), ?_, before, hknown.did.mono hunblocked,
      Bool.not_eq_true _ ▸ hhard⟩
    rw [Bool.not_eq_true] at hpowered
    exact hpowered ▸ hafter.did.mono hmore

theorem ensures_invalidInput {Found Next : Type} {result : Except String Found}
    {post : Past → Except BackendError Next → Prop} {next : Found → Operation Next}
    (hworking : Working past) (hforgiving : ends.Forgiving post)
    (hnext : ∀ value, result = .ok value →
      Ensures (rules backend operation params).Allowed post (next value) past) :
    Ensures (rules backend operation params).Allowed post (invalidInput result >>= next) past := by
  cases result with
  | error message => exact hforgiving _ _ hworking.free
  | ok value => exact hnext value rfl

theorem ensures_waitForServices {polls : ℕ} (hworking : Working past)
    (hdone : ∀ later, past <+: later → Working later → post later (.ok ())) :
    Ensures (rules backend operation params).Allowed post (waitForServices polls) past := by
  induction polls generalizing past with
  | zero => exact hdone past (List.prefix_refl _) hworking
  | succ polls ih =>
    apply ensures_ask .servicesResolved hworking trivial
    rintro (_ | (error | (_ | _))) later hafter
    · exact hdone later hafter.more (hafter.working rfl rfl)
    · exact hdone later hafter.more (hafter.working rfl rfl)
    · apply ensures_ask (.sleep 200) (hafter.working rfl rfl) trivial
      intro answer slept hslept
      apply ih (hslept.working rfl rfl)
      exact fun final hfinal ↦ hdone final ((hafter.more.trans hslept.more).trans hfinal)
    · exact hdone later hafter.more (hafter.working rfl rfl)

/-- The end of a workflow that may wait for the services. -/
theorem ensures_resolve {wait : Bool} (hworking : Working past)
    (hdone : ∀ later, past <+: later → Working later → post later (.ok ())) :
    Ensures (rules backend operation params).Allowed post (Program.when wait do
      ask (.progress "resolving-services")
      waitForServices servicePolls) past := by
  rw [Program.ensures_when]
  split
  · apply ensures_progress hworking
    intro later hmore hlater
    apply ensures_waitForServices hlater
    exact fun final hfinal ↦ hdone final (hmore.trans hfinal)
  · exact hdone past (List.prefix_refl _) hworking

theorem ensures_connectDevice {step : String} (hworking : Working past)
    (hneeds : Needs backend operation params past .connect) (hforgiving : ends.Forgiving post)
    (hdone : ∀ later, past <+: later → Working later → Connected later → post later (.ok ())) :
    Ensures (rules backend operation params).Allowed post (connectDevice step) past := by
  apply ensures_ask .connect hworking hneeds
  rintro (_ | (error | ⟨⟩)) later hafter
  · exact hforgiving _ _ (hafter.free rfl)
  · change Ensures _ post (if error.kind = .alreadyConnected then _ else _) later
    split
    · next hkind =>
      have hfails : Request.fails .connect (some (.error error)) = false := by
        change (error.kind != .alreadyConnected) = false
        rw [hkind]
        rfl
      exact hdone later hafter.more (hafter.working hfails rfl) ⟨_, hafter.did, hfails⟩
    · exact hforgiving _ _ (hafter.free rfl)
  · exact hdone later hafter.more (hafter.working rfl rfl) ⟨_, hafter.did, rfl⟩

theorem ensures_disconnectDevice {step : String} (hworking : Working past)
    (hneeds : Needs backend operation params past .disconnect) (hforgiving : ends.Forgiving post)
    (hdone : ∀ later, past <+: later → Working later → Did later .disconnect (some (.ok ())) →
      post later (.ok ())) :
    Ensures (rules backend operation params).Allowed post (disconnectDevice step) past := by
  apply ensures_ask .disconnect hworking hneeds
  rintro (_ | (error | ⟨⟩)) later hafter
  · exact hforgiving _ _ (hafter.free rfl)
  · exact hforgiving _ _ (hafter.free rfl)
  · exact hdone later hafter.more (hafter.working rfl rfl) hafter.did

theorem ensures_removeDevice (hworking : Working past) (hremove : operation = .remove)
    (hrevoked : backend.fastPair = true → Did past .forgetAccountKey (.ok ()))
    (hforgiving : ends.Forgiving post)
    (hdone : ∀ later, past <+: later → Working later → Did later .removeDevice (.ok ()) →
      post later (.ok ())) :
    Ensures (rules backend operation params).Allowed post removeDevice past := by
  have hremoval : ∀ later, past <+: later → Working later →
      Did later .isConnected (.ok false) ∨ Did later .disconnect (some (.ok ())) →
        Ensures (rules backend operation params).Allowed post
          (ask .removeDevice >>= fun answer ↦ bluezResult answer "remove Bluetooth device")
            later := by
    intro later hmore hlater halone
    apply ensures_ask .removeDevice hlater
      ⟨hremove, fun hprovider ↦ (hrevoked hprovider).mono hmore, halone⟩
    rintro (error | ⟨⟩) final hfinal
    · exact hforgiving _ _ (hfinal.free rfl)
    · exact hdone final (hmore.trans hfinal.more) (hfinal.working rfl rfl) hfinal.did
  apply ensures_ask .isConnected hworking trivial
  rintro (error | connected) later hafter
  · exact hforgiving _ _ (hafter.free rfl)
  change Ensures _ post (Program.when connected _ >>= _) later
  apply (ensures_bind _ _).mpr
  rw [Program.ensures_when]
  have hlater := hafter.working rfl rfl
  cases connected with
  | false => exact hremoval later hafter.more hlater (.inl hafter.did)
  | true =>
    have hneeds : Needs backend operation params later .disconnect :=
      .inr ⟨hremove, hafter.did, fun hprovider ↦ (hrevoked hprovider).mono hafter.more⟩
    apply ensures_disconnectDevice hlater hneeds hforgiving.continues
    intro final hmore hfinal hdisconnected
    exact hremoval final (hafter.more.trans hmore) hfinal (.inr hdisconnected)

theorem ensures_trustPaired (hworking : Working past) (hconnect : operation = .connect)
    (hforgiving : ends.Forgiving post)
    (hdone : ∀ later, past <+: later → Working later → post later (.ok ())) :
    Ensures (rules backend operation params).Allowed post trustPaired past := by
  apply ensures_ask .isPaired hworking trivial
  rintro (error | paired) known hknown
  · exact hforgiving _ _ (hknown.free rfl)
  change Ensures _ post (Program.when paired _) known
  rw [Program.ensures_when]
  split
  · next hpaired =>
    apply ensures_ask .isTrusted (hknown.working rfl rfl) trivial
    rintro (error | trusted) later hafter
    · exact hforgiving _ _ (hafter.free rfl)
    change Ensures _ post (Program.when (!trusted) _) later
    rw [Program.ensures_when]
    have hmore := hknown.more.trans hafter.more
    split
    · next htrusted =>
      obtain rfl := hpaired
      obtain rfl : trusted = false := by simpa using htrusted
      apply ensures_progress (hafter.working rfl rfl)
      intro announced hannounced hlater
      apply ensures_ask (.setTrusted true) hlater _
      · rintro (error | ⟨⟩) final hfinal
        · exact hforgiving _ _ (hfinal.free rfl)
        · exact hdone final ((hmore.trans hannounced).trans hfinal.more) (hfinal.working rfl rfl)
      · exact .inr ⟨rfl, .inr ⟨hconnect, hknown.did.mono (hafter.more.trans hannounced),
          hafter.did.mono hannounced⟩⟩
    · exact hdone later hmore (hafter.working rfl rfl)
  · exact hdone known hknown.more (hknown.working rfl rfl)

theorem ensures_connectWorkflow {wait : Bool} (hworking : Working past)
    (hconnect : operation = .connect) (hforgiving : ends.Forgiving post)
    (hdone : ∀ later, past <+: later → Working later → Connected later → post later (.ok ())) :
    Ensures (rules backend operation params).Allowed post (connectWorkflow params wait) past := by
  have hlink : ∀ later, past <+: later → Working later →
      Ensures (rules backend operation params).Allowed post (do
        ask (.progress "connecting")
        connectDevice "connect Bluetooth device"
        let chosen ← params.optionalBool "wait_for_services"
        Program.when (chosen.getD wait) do
          ask (.progress "resolving-services")
          waitForServices servicePolls) later := by
    intro later hmore hlater
    apply ensures_progress hlater
    intro announced hannounced hworking
    apply (ensures_bind _ _).mpr
    apply ensures_connectDevice hworking (.inr hconnect) hforgiving.continues
    intro linked hlinked hworking hconnected
    apply ensures_invalidInput hworking hforgiving
    intro chosen _
    apply ensures_resolve hworking
    intro final hfinal hworking
    exact hdone final (((hmore.trans hannounced).trans hlinked).trans hfinal) hworking
      (hconnected.mono hfinal)
  apply ensures_invalidInput hworking hforgiving
  intro trust _
  apply (ensures_bind _ _).mpr
  rw [Program.ensures_when]
  split
  · exact ensures_trustPaired hworking hconnect hforgiving.continues hlink
  · exact hlink past (List.prefix_refl _) hworking

theorem ensures_notePairing {fastPair : Bool} (hworking : Working past)
    (hpaired : Did past .pair (some (.ok ())))
    (hdone : ∀ later, past <+: later → Working later → post later (.ok ())) :
    Ensures (rules backend operation params).Allowed post (Program.when fastPair (ask .notePairing))
      past := by
  rw [Program.ensures_when]
  split
  · apply ensures_ask .notePairing hworking hpaired
    exact fun answer later hafter ↦ hdone later hafter.more (hafter.working rfl rfl)
  · exact hdone past (List.prefix_refl _) hworking

theorem ensures_trustAfterPair {trust : Bool} (hworking : Working past) (hpair : operation = .pair)
    (hpaired : Did past .pair (some (.ok ()))) (hforgiving : ends.Forgiving post)
    (hdone : ∀ later, past <+: later → Working later → post later (.ok ())) :
    Ensures (rules backend operation params).Allowed post (Program.when trust do
      ask (.progress "trusting")
      bluezResult (← ask (.setTrusted true)) "trust paired Bluetooth device") past := by
  rw [Program.ensures_when]
  split
  · apply ensures_progress hworking
    intro announced hannounced hworking
    have hneeds : Needs backend operation params announced (.setTrusted true) :=
      .inr ⟨rfl, .inl ⟨hpair, hpaired.mono hannounced⟩⟩
    apply ensures_ask (.setTrusted true) hworking hneeds
    rintro (error | ⟨⟩) later hafter
    · exact hforgiving _ _ (hafter.free rfl)
    · exact hdone later (hannounced.trans hafter.more) (hafter.working rfl rfl)
  · exact hdone past (List.prefix_refl _) hworking

/-- A paired device is connected unless it is. -/
theorem ensures_connectPaired {wait : Bool} (hworking : Working past) (hpair : operation = .pair)
    (hpaired : Did past .pair (some (.ok ()))) (hforgiving : ends.Forgiving post)
    (hdone : ∀ later, past <+: later → Working later →
      Did later .isConnected (.ok true) ∨ Connected later → post later (.ok ())) :
    Ensures (rules backend operation params).Allowed post (do
      let connected ← bluezResult (← ask .isConnected) "read device connected state"
      Program.when (!connected) do
        ask (.progress "connecting")
        connectDevice "connect paired Bluetooth device"
      Program.when wait do
        ask (.progress "resolving-services")
        waitForServices servicePolls) past := by
  apply ensures_ask .isConnected hworking trivial
  rintro (error | connected) later hafter
  · exact hforgiving _ _ (hafter.free rfl)
  change Ensures _ post (Program.when (!connected) _ >>= _) later
  apply (ensures_bind _ _).mpr
  rw [Program.ensures_when]
  have hlater := hafter.working rfl rfl
  cases connected with
  | true =>
    apply ensures_resolve hlater
    exact fun final hmore hfinal ↦
      hdone final (hafter.more.trans hmore) hfinal (.inl (hafter.did.mono hmore))
  | false =>
    apply ensures_progress hlater
    intro announced hannounced hworking
    have hneeds : Needs backend operation params announced .connect :=
      .inl ⟨hpair, hpaired.mono (hafter.more.trans hannounced), hafter.did.mono hannounced⟩
    apply ensures_connectDevice hworking hneeds hforgiving.continues
    intro linked hlinked hworking hconnected
    apply ensures_resolve hworking
    intro final hmore hfinal
    exact hdone final (((hafter.more.trans hannounced).trans hlinked).trans hmore) hfinal
      (.inr (hconnected.mono hmore))

theorem ensures_pairDevice {trust wait fastPair : Bool} (hworking : Working past)
    (hpair : operation = .pair) (hforgiving : ends.Forgiving post)
    (hdone : ∀ later, past <+: later → Working later → Did later .pair (some (.ok ())) →
      Did later .isConnected (.ok true) ∨ Connected later → post later (.ok ())) :
    Ensures (rules backend operation params).Allowed post (pairDevice trust wait fastPair)
      past := by
  apply ensures_progress hworking
  intro announced hannounced hworking
  apply ensures_ask .pair hworking hpair
  rintro (_ | (error | ⟨⟩)) paired hpaired
  · exact hforgiving _ _ (hpaired.free rfl)
  · exact hforgiving _ _ (hpaired.free rfl)
  change Ensures _ post (Program.when fastPair _ >>= _) paired
  apply (ensures_bind _ _).mpr
  apply ensures_notePairing (hpaired.working rfl rfl) hpaired.did
  intro noted hnoted hworking
  apply (ensures_bind _ _).mpr
  have hdid := hpaired.did.mono hnoted
  apply ensures_trustAfterPair hworking hpair hdid hforgiving.continues
  intro trusted htrusted hworking
  apply ensures_connectPaired hworking hpair (hdid.mono htrusted) hforgiving
  intro final hmore hfinal hconnected
  exact hdone final ((((hannounced.trans hpaired.more).trans hnoted).trans htrusted).trans hmore)
    hfinal (hdid.mono (htrusted.trans hmore)) hconnected

theorem ensures_provisionAfterPair {publicKey : Option String} (hworking : Working past)
    (hpaired : Did past .pair (some (.ok ()))) (hforgiving : ends.Forgiving post)
    (hdone : ∀ later, past <+: later → Working later → post later (.ok ())) :
    Ensures (rules backend operation params).Allowed post
      (provisionAfterPair publicKey backend.fastPair) past := by
  cases publicKey with
  | some publicKey =>
    change Ensures _ post (if backend.fastPair = true then _ else _) past
    split
    · next hprovider =>
      apply ensures_ask (.provisionAccountKey publicKey) hworking ⟨hprovider, .inr hpaired⟩
      rintro (error | ⟨⟩) later hafter
      · exact hforgiving _ _ (hafter.free rfl)
      · exact hdone later hafter.more (hafter.working rfl rfl)
    · exact hforgiving _ _ hworking.free
  | none =>
    change Ensures _ post (Program.when backend.fastPair _) past
    rw [Program.ensures_when]
    split
    · next hprovider =>
      apply ensures_ask .autoProvision hworking ⟨hprovider, hpaired⟩
      rintro (error | ⟨⟩) later hafter
      · exact hdone later hafter.more (hafter.working rfl rfl)
      · exact hdone later hafter.more (hafter.working rfl rfl)
    · exact hdone past (List.prefix_refl _) hworking

theorem ensures_pairWithPolicy {trust wait : Bool} (hworking : Working past)
    (hpair : operation = .pair) (hforgiving : ends.Forgiving post)
    (hdone : ∀ later, past <+: later → Working later → Did later .pair (some (.ok ())) →
      Did later .isConnected (.ok true) ∨ Connected later → post later (.ok ())) :
    Ensures (rules backend operation params).Allowed post
      (pairWithPolicy params backend.fastPair trust wait) past := by
  apply ensures_invalidInput hworking hforgiving
  intro chosen _
  apply ensures_invalidInput hworking hforgiving
  intro publicKey _
  split
  · exact hforgiving _ _ hworking.free
  apply (ensures_bind _ _).mpr
  apply ensures_pairDevice hworking hpair hforgiving.continues
  intro paired hmore hworking hdid hconnected
  apply ensures_provisionAfterPair hworking hdid hforgiving
  intro final hfinal hworking
  exact hdone final (hmore.trans hfinal) hworking (hdid.mono hfinal)
    (hconnected.imp (Did.mono · hfinal) (Connected.mono · hfinal))

/-! ## Controls and properties -/

theorem requireBool_eq_ok {param : Param} {name : String} {value : Bool}
    (hvalue : param.requireBool name = .ok value) : param = .bool value := by
  cases param <;> cases hvalue
  rfl

theorem requireString_eq_ok {param : Param} {name value : String}
    (hvalue : param.requireString name = .ok value) : param = .string value := by
  cases param with
  | string text =>
    change (if text = "" then _ else _) = _ at hvalue
    split at hvalue
    · cases hvalue
    · rw [Except.ok.inj hvalue]
  | _ => cases hvalue

theorem optionalString_eq_ok {param : Param} {name value : String}
    (hvalue : param.optionalString name = .ok (some value)) : param = .string value := by
  cases param with
  | string text =>
    change (if text = "" then _ else _) = _ at hvalue
    split at hvalue
    · cases hvalue
    · rw [Option.some.inj (Except.ok.inj hvalue)]
  | _ => cases hvalue

/-- A Fast Pair control is one that the policy allows, or was one of the Sony channel when it was
checked. -/
structure Controlled (operation : DeviceOperation) (past : Past) : Prop where
  multipoint : operation = .setMultipoint →
    ∃ policy, Did past .devicePolicy policy ∧ policy.fastPairControlsEnabled = true
  noise : operation = .setNoiseControl → Did past .sonyNoiseControl true ∨
    ∃ policy, Did past .devicePolicy policy ∧ policy.fastPairControlsEnabled = true

theorem ensures_runFastPairOperation (hworking : Working past)
    (hgroup : operation = .provisionFastPair ∨ operation = .setMultipoint ∨
      operation = .setNoiseControl)
    (hcontrolled : Controlled operation past) (hforgiving : ends.Forgiving post)
    (hdone : ∀ later, past <+: later → Working later → Effective operation params later →
      post later (.ok ())) :
    Ensures (rules backend operation params).Allowed post
      (runFastPairOperation operation params backend.fastPair) past := by
  unfold runFastPairOperation
  split
  · exact hforgiving _ _ hworking.free
  next hprovider =>
  have hfastPair : backend.fastPair = true := by simpa using hprovider
  rcases hgroup with rfl | rfl | rfl
  · apply ensures_invalidInput hworking hforgiving
    rintro (_ | key) hkey
    · apply ensures_ask .provisionFromCatalog hworking ⟨hfastPair, rfl⟩
      rintro (error | ⟨⟩) later hafter
      · exact hforgiving _ _ (hafter.free rfl)
      · exact hdone later hafter.more (hafter.working rfl rfl) (.inr hafter.did)
    · apply ensures_ask (.provisionAccountKey key) hworking ⟨hfastPair, .inl rfl⟩
      rintro (error | ⟨⟩) later hafter
      · exact hforgiving _ _ (hafter.free rfl)
      · exact hdone later hafter.more (hafter.working rfl rfl)
          (.inl ⟨key, optionalString_eq_ok hkey, hafter.did⟩)
  · apply ensures_invalidInput hworking hforgiving
    intro enabled henabled
    apply ensures_ask (.setMultipoint enabled) hworking ⟨rfl, hcontrolled.multipoint rfl⟩
    rintro (error | ⟨⟩) later hafter
    · exact hforgiving _ _ (hafter.free rfl)
    · exact hdone later hafter.more (hafter.working rfl rfl)
        ⟨enabled, requireBool_eq_ok henabled, hafter.did⟩
  · apply ensures_invalidInput hworking hforgiving
    intro mode hmode
    apply ensures_ask (.setNoiseControl mode) hworking ⟨rfl, hcontrolled.noise rfl⟩
    rintro (error | ⟨⟩) later hafter
    · exact hforgiving _ _ (hafter.free rfl)
    · exact hdone later hafter.more (hafter.working rfl rfl)
        ⟨mode, requireString_eq_ok hmode, .inl hafter.did⟩

theorem ensures_runPropertyOperation (hworking : Working past) (hforgiving : ends.Forgiving post)
    (hdone : ∀ later, past <+: later → Working later → Effective operation params later →
      post later (.ok ())) :
    Ensures (rules backend operation params).Allowed post (runPropertyOperation operation params)
      past := by
  unfold runPropertyOperation
  split
  · apply ensures_invalidInput hworking hforgiving
    intro trusted htrusted
    apply ensures_ask (.setTrusted trusted) hworking (.inl rfl)
    rintro (error | ⟨⟩) later hafter
    · exact hforgiving _ _ (hafter.free rfl)
    · exact hdone later hafter.more (hafter.working rfl rfl)
        ⟨trusted, requireBool_eq_ok htrusted, hafter.did⟩
  · apply ensures_invalidInput hworking hforgiving
    intro blocked hblocked
    apply ensures_ask (.setBlocked blocked) hworking rfl
    rintro (error | ⟨⟩) later hafter
    · exact hforgiving _ _ (hafter.free rfl)
    · exact hdone later hafter.more (hafter.working rfl rfl)
        ⟨blocked, requireBool_eq_ok hblocked, hafter.did⟩
  · apply ensures_invalidInput hworking hforgiving
    intro allowed hallowed
    apply ensures_ask (.setWakeAllowed allowed) hworking rfl
    rintro (error | ⟨⟩) later hafter
    · exact hforgiving _ _ (hafter.free rfl)
    · exact hdone later hafter.more (hafter.working rfl rfl)
        ⟨allowed, requireBool_eq_ok hallowed, hafter.did⟩
  · apply ensures_invalidInput hworking hforgiving
    intro name hname
    apply ensures_ask (.setAlias name) hworking (.inl rfl)
    rintro (error | ⟨⟩) later hafter
    · exact hforgiving _ _ (hafter.free rfl)
    · exact hdone later hafter.more (hafter.working rfl rfl)
        ⟨name, requireString_eq_ok hname, hafter.did⟩
  · apply ensures_ask (.setAlias "") hworking (.inr rfl)
    rintro (error | ⟨⟩) later hafter
    · exact hforgiving _ _ (hafter.free rfl)
    · exact hdone later hafter.more (hafter.working rfl rfl) hafter.did
  · exact hforgiving _ _ hworking.free

/-! ## The plan -/

theorem ensures_runDeviceOperation {policy : DevicePolicy} (hworking : Working past)
    (hrevoked : operation = .remove → backend.fastPair = true → Did past .forgetAccountKey (.ok ()))
    (hcontrolled : Controlled operation past) (hforgiving : ends.Forgiving post)
    (hdone : ∀ later, past <+: later → Working later → Effective operation params later →
      post later (.ok ())) :
    Ensures (rules backend operation params).Allowed post
      (runDeviceOperation operation params backend.fastPair policy) past := by
  cases operation with
  | pair =>
    apply ensures_pairWithPolicy hworking rfl hforgiving
    exact fun later hmore hlater hpaired hconnected ↦ hdone later hmore hlater ⟨hpaired, hconnected⟩
  | connect => exact ensures_connectWorkflow hworking rfl hforgiving hdone
  | disconnect => exact ensures_disconnectDevice hworking (.inl rfl) hforgiving hdone
  | remove => exact ensures_removeDevice hworking rfl (hrevoked rfl) hforgiving hdone
  | setTrusted => exact ensures_runPropertyOperation hworking hforgiving hdone
  | setBlocked => exact ensures_runPropertyOperation hworking hforgiving hdone
  | setWakeAllowed => exact ensures_runPropertyOperation hworking hforgiving hdone
  | setAlias => exact ensures_runPropertyOperation hworking hforgiving hdone
  | resetAlias => exact ensures_runPropertyOperation hworking hforgiving hdone
  | provisionFastPair =>
    exact ensures_runFastPairOperation hworking (.inl rfl) hcontrolled hforgiving hdone
  | setMultipoint =>
    exact ensures_runFastPairOperation hworking (.inr (.inl rfl)) hcontrolled hforgiving hdone
  | setNoiseControl =>
    exact ensures_runFastPairOperation hworking (.inr (.inr rfl)) hcontrolled hforgiving hdone

/-- The Sony channel is asked for noise control and nothing else. -/
theorem ensures_sonyNoiseControl {next : Bool → Operation Unit} (hworking : Working past)
    (hnext : ∀ sony later, past <+: later → Working later →
      (sony = true → operation = .setNoiseControl ∧ Did later .sonyNoiseControl true) →
        Ensures (rules backend operation params).Allowed post (next sony) later) :
    Ensures (rules backend operation params).Allowed post
      (backend.sonyNoiseControl operation >>= next) past := by
  unfold Backend.sonyNoiseControl
  split
  · next hasked =>
    apply ensures_ask .sonyNoiseControl hworking trivial
    intro sony later hafter
    apply hnext sony later hafter.more (hafter.working rfl rfl)
    intro hsony
    exact ⟨hasked.1, hsony ▸ hafter.did⟩
  · apply hnext false past (List.prefix_refl _) hworking
    intro hsony
    cases hsony

theorem Controlled.mono {later : Past} (hcontrolled : Controlled operation past)
    (hmore : past <+: later) : Controlled operation later where
  multipoint hmultipoint := by
    obtain ⟨policy, hpolicy, henabled⟩ := hcontrolled.multipoint hmultipoint
    exact ⟨policy, hpolicy.mono hmore, henabled⟩
  noise hnoise := by
    rcases hcontrolled.noise hnoise with hsony | ⟨policy, hpolicy, henabled⟩
    · exact .inl (hsony.mono hmore)
    · exact .inr ⟨policy, hpolicy.mono hmore, henabled⟩

theorem ensures_run {policy : DevicePolicy} (hworking : Working past)
    (hrevoked : operation = .remove → backend.fastPair = true → Did past .forgetAccountKey (.ok ()))
    (hcontrolled : Controlled operation past) (hforgiving : ends.Forgiving post)
    (hdone : ∀ later, past <+: later → Working later → Effective operation params later →
      post later (.ok ())) :
    Ensures (rules backend operation params).Allowed post (backend.run operation params policy)
      past := by
  apply ensures_sonyNoiseControl hworking
  intro sony checked hchecked hworking hsony
  split
  · next hsame =>
    obtain ⟨rfl, hdid⟩ := hsony hsame
    apply ensures_invalidInput hworking hforgiving
    intro mode hmode
    apply ensures_ask (.sonySetNoiseControl mode) hworking ⟨rfl, hdid⟩
    rintro (error | ⟨⟩) later hafter
    · exact hforgiving _ _ (hafter.free rfl)
    · exact hdone later (hchecked.trans hafter.more) (hafter.working rfl rfl)
        ⟨mode, requireString_eq_ok hmode, .inr hafter.did⟩
  · apply ensures_runDeviceOperation hworking _ (hcontrolled.mono hchecked) hforgiving
    · exact fun later hmore ↦ hdone later (hchecked.trans hmore)
    · exact fun hremove hprovider ↦ (hrevoked hremove hprovider).mono hchecked

theorem ensures_routeAttempts {request : PolicyRequest} {sleeps : ℕ} (hworking : Working past)
    (hneeds : ∀ later, past <+: later →
      Needs backend operation params later (.applyAudioPolicy request))
    (hforgiving : ends.Forgiving post)
    (hdone : ∀ later, past <+: later → Working later → post later (.ok ())) :
    Ensures (rules backend operation params).Allowed post (Backend.routeAttempts request sleeps)
      past := by
  induction sleeps generalizing past with
  | zero =>
    unfold Backend.routeAttempts
    apply ensures_ask (.applyAudioPolicy request) hworking (hneeds _ (List.prefix_refl _))
    rintro (_ | error | error | ⟨error, late⟩) later hafter
    · exact hdone later hafter.more (hafter.working rfl rfl)
    · exact hforgiving _ _ (hafter.free rfl)
    · exact hforgiving _ _ (hafter.free rfl)
    · cases late <;> exact hforgiving _ _ (hafter.free rfl)
  | succ sleeps ih =>
    unfold Backend.routeAttempts
    apply ensures_ask (.applyAudioPolicy request) hworking (hneeds _ (List.prefix_refl _))
    rintro (_ | error | error | ⟨error, late⟩) later hafter
    · exact hdone later hafter.more (hafter.working rfl rfl)
    · exact hforgiving _ _ (hafter.free rfl)
    · exact hforgiving _ _ (hafter.free rfl)
    · cases late with
      | true => exact hforgiving _ _ (hafter.free rfl)
      | false =>
        apply ensures_ask (.sleep 500) (hafter.working rfl rfl) trivial
        intro answer slept hslept
        have hmore := hafter.more.trans hslept.more
        apply ih (hslept.working rfl rfl)
        · exact fun final hfinal ↦ hneeds final (hmore.trans hfinal)
        · exact fun final hfinal ↦ hdone final (hmore.trans hfinal)

theorem ensures_routeAudio {policy : DevicePolicy} (hworking : Working past)
    (hconnects : connects operation = true) (hpolicy : Did past .devicePolicy policy)
    (hrequired : audioRouteRequired true policy = true) (hforgiving : ends.Forgiving post)
    (hdone : ∀ later, past <+: later → Working later → post later (.ok ())) :
    Ensures (rules backend operation params).Allowed post (Backend.routeAudio policy) past := by
  apply ensures_progress hworking
  intro announced hannounced hworking
  apply ensures_routeAttempts hworking _ hforgiving
  · exact fun later hmore ↦ hdone later (hannounced.trans hmore)
  · exact fun later hmore ↦
      ⟨hconnects, policy, hpolicy.mono (hannounced.trans hmore), hrequired, rfl⟩

theorem Effective.mono {later : Past} (heffective : Effective operation params past)
    (hmore : past <+: later) : Effective operation params later := by
  cases operation with
  | pair =>
    exact ⟨heffective.1.mono hmore,
      heffective.2.imp (Did.mono · hmore) (Connected.mono · hmore)⟩
  | connect => exact Connected.mono heffective hmore
  | disconnect | remove | resetAlias => exact Did.mono heffective hmore
  | setTrusted | setBlocked | setWakeAllowed | setAlias | setMultipoint =>
    obtain ⟨value, hvalue, hdid⟩ := heffective
    exact ⟨value, hvalue, hdid.mono hmore⟩
  | provisionFastPair =>
    rcases heffective with ⟨key, hkey, hdid⟩ | hdid
    · exact .inl ⟨key, hkey, hdid.mono hmore⟩
    · exact .inr (Did.mono hdid hmore)
  | setNoiseControl =>
    obtain ⟨mode, hmode, hdid⟩ := heffective
    exact ⟨mode, hmode, hdid.imp (Did.mono · hmore) (Did.mono · hmore)⟩

/-- A plan that follows the policy. -/
structure Follows (operation : DeviceOperation) (params : Params) (policy : DevicePolicy)
    (plan : Plan) : Prop where
  operation_eq : plan.operation = operation
  powerOn : ∀ allowed, plan.powerOn = some allowed → connects operation = true ∧
    (allowed = true → Operations.powerOn params policy = true)
  routeAudio : plan.routeAudio = true → connects operation = true ∧
    audioRouteRequired true policy = true

theorem powerOn_of_optionalBool {policy : DevicePolicy} {chosen : Option Bool}
    (hchosen : (match params "power_on" with
      | .absent | .null => .ok none
      | .bool value => .ok (some value)
      | _ => .error (invalidParameter "power_on" "boolean" true) : Except String (Option Bool)) =
        .ok chosen) : powerOn params policy = chosen.getD policy.powerOnConnect := by
  unfold powerOn
  split at hchosen
  · next hparam =>
    rw [hparam]
    cases hchosen
    rfl
  · next hparam =>
    rw [hparam]
    cases hchosen
    rfl
  · next value hparam =>
    rw [hparam]
    cases hchosen
    rfl
  · cases hchosen

theorem ensures_plan {policy : DevicePolicy} {next : Plan → Operation Unit}
    (hworking : Working past) (hforgiving : ends.Forgiving post)
    (hnext : ∀ plan, Follows operation params policy plan →
      Ensures (rules backend operation params).Allowed post (next plan) past) :
    Ensures (rules backend operation params).Allowed post
      (Plan.new operation params policy >>= next) past := by
  unfold Plan.new
  split
  · next hconnects =>
    apply (ensures_bind _ _).mpr
    apply ensures_invalidInput hworking hforgiving.continues
    intro chosen hchosen
    apply hnext
    refine ⟨rfl, ?_, fun hroute ↦ ⟨hconnects, hroute⟩⟩
    intro allowed hallowed
    refine ⟨hconnects, fun hpower ↦ ?_⟩
    rw [powerOn_of_optionalBool hchosen, Option.some.inj hallowed, hpower]
  · next hconnects =>
    apply hnext
    refine ⟨rfl, nofun, ?_⟩
    intro hroute
    cases hroute

theorem ensures_revokeCredentials (hworking : Working past) (hforgiving : ends.Forgiving post)
    (hdone : ∀ later, past <+: later → Working later →
      (operation = .remove → backend.fastPair = true → Did later .forgetAccountKey (.ok ())) →
        post later (.ok ())) :
    Ensures (rules backend operation params).Allowed post
      (Program.when (operation == .remove) backend.revokeCredentials) past := by
  rw [Program.ensures_when]
  split
  · next hremove =>
    rw [Backend.revokeCredentials, Program.ensures_when]
    split
    · next hprovider =>
      apply ensures_ask .forgetAccountKey hworking ⟨hprovider, eq_of_beq hremove⟩
      rintro (error | ⟨⟩) later hafter
      · exact hforgiving _ _ (hafter.free rfl)
      · exact hdone later hafter.more (hafter.working rfl rfl) fun _ _ ↦ hafter.did
    · next hprovider =>
      exact hdone past (List.prefix_refl _) hworking fun _ hfastPair ↦ absurd hfastPair hprovider
  · next hother =>
    apply hdone past (List.prefix_refl _) hworking
    rintro rfl
    exact absurd rfl hother

theorem ensures_execute {policy : DevicePolicy} {plan : Plan} (hworking : Working past)
    (hpolicy : Did past .devicePolicy policy) (hplan : Follows operation params policy plan)
    (hcontrolled : Controlled operation past) (hforgiving : ends.Forgiving post)
    (hdone : ∀ later, past <+: later → Working later → Effective operation params later →
      post later (.ok ())) :
    Ensures (rules backend operation params).Allowed post (backend.execute plan params policy)
      past := by
  have hrest : ∀ powered, past <+: powered → Working powered →
      Ensures (rules backend operation params).Allowed post (do
        Program.when (operation == .remove) backend.revokeCredentials
        backend.run operation params policy
        Program.when plan.routeAudio (Backend.routeAudio policy)) powered := by
    intro powered hpowered hworking
    apply (ensures_bind _ _).mpr
    apply ensures_revokeCredentials hworking hforgiving.continues
    intro revoked hmore hworking hrevoked
    have hrevokedMore := hpowered.trans hmore
    apply (ensures_bind _ _).mpr
    apply ensures_run hworking hrevoked (hcontrolled.mono hrevokedMore) hforgiving.continues
    intro done hran hworking heffective
    change Ensures _ post (Program.when plan.routeAudio _) done
    rw [Program.ensures_when]
    have hdoneMore := hrevokedMore.trans hran
    split
    · next hroute =>
      obtain ⟨hconnects, hrequired⟩ := hplan.routeAudio hroute
      apply ensures_routeAudio hworking hconnects (hpolicy.mono hdoneMore) hrequired hforgiving
      exact fun final hfinal hworking ↦
        hdone final (hdoneMore.trans hfinal) hworking (heffective.mono hfinal)
    · exact hdone done hdoneMore hworking heffective
  unfold Backend.execute
  rw [hplan.operation_eq]
  cases hpower : plan.powerOn with
  | none => exact hrest past (List.prefix_refl _) hworking
  | some allowed =>
    apply (ensures_bind _ _).mpr
    refine ensures_ensureOperationAdapterPowered hworking ?_ hforgiving.continues hrest
    intro hallowed
    obtain ⟨hconnects, hpowerOn⟩ := hplan.powerOn allowed hpower
    exact ⟨hconnects, policy, hpolicy, hpowerOn hallowed⟩

theorem ensures_forget (hworking : Working past) (heffective : Effective operation params past)
    (hdone : ∀ later, past <+: later → Working later → post later (.ok ())) :
    Ensures (rules backend operation params).Allowed post (Program.when (operation == .remove) do
      ask .forgetCached
      ask .forgetPresentation
      ask .forgetDevicePolicy) past := by
  rw [Program.ensures_when]
  split
  · next hremove =>
    have hforget : operation = .remove := eq_of_beq hremove
    apply ensures_ask .forgetCached hworking ⟨hforget, heffective⟩
    intro _ cached hcached
    apply ensures_ask .forgetPresentation (hcached.working rfl rfl)
      ⟨hforget, heffective.mono hcached.more⟩
    intro _ presented hpresented
    have hmore := hcached.more.trans hpresented.more
    apply ensures_ask .forgetDevicePolicy (hpresented.working rfl rfl)
      ⟨hforget, heffective.mono hmore⟩
    intro _ later hafter
    exact hdone later (hmore.trans hafter.more) (hafter.working rfl rfl)
  · exact hdone past (List.prefix_refl _) hworking

theorem ensures_enable {policy : DevicePolicy} (hworking : Working past)
    (heffective : Effective operation params past) (hforgiving : ends.Forgiving post)
    (hdone : ∀ later, past <+: later → Working later → post later (.ok ())) :
    Ensures (rules backend operation params).Allowed post
      (Program.when (operation == .provisionFastPair && !policy.fastPairControlsEnabled) do
        Program.ofExcept (← ask .enableFastPairControls)
        ask .notify) past := by
  rw [Program.ensures_when]
  split
  · next hprovision =>
    have hoperation : operation = .provisionFastPair :=
      eq_of_beq (Bool.and_eq_true_iff.mp hprovision).1
    apply ensures_ask .enableFastPairControls hworking ⟨hoperation, heffective⟩
    rintro (error | ⟨⟩) enabled henabled
    · exact hforgiving _ _ (henabled.free rfl)
    · apply ensures_ask .notify (henabled.working rfl rfl) trivial
      intro _ later hafter
      exact hdone later (henabled.more.trans hafter.more) (hafter.working rfl rfl)
  · exact hdone past (List.prefix_refl _) hworking

theorem ensures_settle {policy : DevicePolicy} (hworking : Working past)
    (heffective : Effective operation params past) :
    Ensures (rules backend operation params).Allowed (Settled operation params)
      (Backend.settle operation policy) past := by
  have hforgiving : ends.Forgiving (Settled operation params) := fun _ _ hfree ↦ hfree
  apply (ensures_bind _ _).mpr
  apply ensures_enable hworking heffective hforgiving.continues
  intro enabled henabled hworking
  apply (ensures_bind _ _).mpr
  apply ensures_forget hworking (heffective.mono henabled)
  intro forgotten hforgotten hworking
  have hmore := henabled.trans hforgotten
  apply ensures_ask .snapshot hworking trivial
  rintro (error | radio) known hknown
  · exact hforgiving _ _ (hknown.free rfl)
  have hlast := heffective.mono (hmore.trans hknown.more)
  have hknownWorking := hknown.working rfl rfl
  refine ⟨⟨hknownWorking.clean, .inr hknownWorking.locked, hlast⟩, ?_⟩
  intro answer
  have hremember := hknownWorking.after .rememberSnapshot answer
  exact ⟨hremember.clean rfl, hlast.mono hremember.more, hremember.did⟩

theorem ensures_validate {policy : DevicePolicy} {sony : Bool} {next : Unit → Operation Unit}
    (hworking : Working past) (hpolicy : Did past .devicePolicy policy)
    (hsony : sony = true → operation = .setNoiseControl ∧ Did past .sonyNoiseControl true)
    (hforgiving : ends.Forgiving post)
    (hnext : Controlled operation past →
      Ensures (rules backend operation params).Allowed post (next ()) past) :
    Ensures (rules backend operation params).Allowed post
      (Program.when (!sony) (Backend.validateFastPairControlPolicy operation policy) >>= next)
        past := by
  cases sony with
  | true =>
    obtain ⟨rfl, hdid⟩ := hsony rfl
    exact hnext ⟨nofun, fun _ ↦ .inl hdid⟩
  | false =>
    apply (ensures_bind _ _).mpr
    change Ensures _ _ (Backend.validateFastPairControlPolicy operation policy) past
    unfold Backend.validateFastPairControlPolicy
    split
    · exact hforgiving _ _ hworking.free
    · next hvalid =>
      apply hnext
      simp only [Bool.and_eq_true, Bool.not_eq_true', Bool.or_eq_true, beq_iff_eq, not_and]
        at hvalid
      have henabled : operation = .setMultipoint ∨ operation = .setNoiseControl →
          policy.fastPairControlsEnabled = true := by
        intro hcontrol
        by_contra hdisabled
        exact hvalid (Bool.not_eq_true _ ▸ hdisabled) hcontrol
      exact ⟨fun hmultipoint ↦ ⟨policy, hpolicy, henabled (.inl hmultipoint)⟩,
        fun hnoise ↦ .inr ⟨policy, hpolicy, henabled (.inr hnoise)⟩⟩

end Steps

theorem ensures_deviceOperation :
    Ensures (rules backend operation params).Allowed (Settled operation params)
      (backend.deviceOperation operation params) [] := by
  have hforgiving : ends.Forgiving (Settled operation params) := fun _ _ hfree ↦ hfree
  refine ⟨⟨nofun, .inl rfl, trivial⟩, fun answer ↦ ?_⟩
  have hlocked := (Ends.working_nil : ends.Working []).after .lock answer
  have hworking : Working [⟨.lock, answer⟩] := ⟨hlocked.working rfl rfl, hlocked.did⟩
  apply ensures_ask .findDevice hworking trivial
  rintro (error | ⟨⟩) found hfound
  · exact hforgiving _ _ (hfound.free rfl)
  apply ensures_ask .devicePolicy (hfound.working rfl rfl) trivial
  intro policy known hknown
  apply ensures_sonyNoiseControl (hknown.working rfl rfl)
  intro sony checked hchecked hworking hsony
  have hpolicy := hknown.did.mono hchecked
  apply ensures_validate hworking hpolicy hsony hforgiving
  intro hcontrolled
  apply ensures_plan hworking hforgiving
  intro plan hplan
  apply (ensures_bind _ _).mpr
  apply ensures_execute hworking hpolicy hplan hcontrolled hforgiving.continues
  exact fun later _ hlater heffective ↦ ensures_settle hlater heffective

/-- Whatever is answered and wherever it is dropped, a device operation asks only for what is
allowed after what was answered before, it succeeds only with its effect, and what became of the
device is remembered only if it succeeds. -/
theorem operation_ordered (backend : Backend) (operation : DeviceOperation) (params : Params)
    {events : Past} {outcome : Outcome Request BackendError Unit}
    (hruns : Runs (backend.deviceOperation operation params) events outcome) :
    (∀ before event after, events = before ++ event :: after →
      (rules backend operation params).Allowed before event.request) ∧
    outcome.Good (rules backend operation params).Allowed (Settled operation params) events := by
  have hensures := ensures_deviceOperation.of_runs hruns
  simpa using hensures

/-- A device with an account key is removed up to the removal itself. -/
def removal : Past :=
  [⟨.lock, ()⟩, ⟨.findDevice, .ok ()⟩,
    ⟨.devicePolicy, ⟨true, true, true, true, true, "keep", none⟩⟩, ⟨.forgetAccountKey, .ok ()⟩,
    ⟨.isConnected, .ok true⟩, ⟨.disconnect, some (.ok ())⟩]

/-- The client goes away while BlueZ removes the device. -/
theorem operation_ordered_removal :
    (rules ⟨true, false⟩ .remove fun _ ↦ .absent).Allowed removal .removeDevice := by
  have hruns : Runs (Backend.deviceOperation ⟨true, false⟩ .remove fun _ ↦ .absent) removal
      (.dropped .removeDevice) :=
    .answered _ _ _ _ _ (.answered _ _ _ _ _ (.answered _ _ _ _ _ (.answered _ _ _ _ _
      (.answered _ _ _ _ _ (.answered _ _ _ _ _ (.dropped _ _))))))
  exact (operation_ordered _ _ _ hruns).2

end BtDaemon.Bluez.Operations
