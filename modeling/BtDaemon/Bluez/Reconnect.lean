import BtDaemon.Bluez.OperationOrder

/-!
# Reconnection after a resume

A device that was connected before the system slept is connected again, up to three times and
with growing pauses, unless its policy changed or it is not a paired device any more. The attempts
are connect operations that must not power an adapter. They are dropped when the system sleeps
again.
-/

namespace BtDaemon.Bluez.Operations

open Program (Ensures Event Outcome Runs Spends ensures_bind spent)
open Storage (DevicePolicy)

/-! ## The attempts -/

/-- `?` on an error of BlueZ that is not classified. -/
def bluerResult {Found : Type} (result : Reply Found) : Operation Found :=
  .ofExcept (result.mapError fun error ↦ ⟨.operationFailed, error.text⟩)

/-- `{"power_on": false}` -/
def resumeParams : Params := fun name ↦ if name = "power_on" then .bool false else .absent

namespace Backend

variable (self : Backend)

/-- Whether the device is one to connect to; a device that is not paired is not looked at
further. -/
def refuses : Operation Bool := do
  let paired ← bluerResult (← ask .isPaired)
  if paired then bluerResult (← ask .isBlocked) else pure true

def reconnectAttempts (attempt : ℕ) : ℕ → Operation Unit
  | 0 => pure ()
  | left + 1 => do
    ask (.sleep (1000 * 2 ^ attempt))
    let policy ← ask .devicePolicy
    if !policy.reconnectOnResume then pure ()
    else
      match ← ask .findDevice with
      | .error _ => pure ()
      | .ok () =>
        if ← refuses then pure ()
        else
          match ← (self.deviceOperation .connect resumeParams).attempt with
          | .ok () => pure ()
          | .error error =>
            if attempt < 2 then reconnectAttempts (attempt + 1) left else .fail error

def reconnectWhileAwake : Operation Unit := self.reconnectAttempts 0 3

end Backend

/-! ## What an attempt may do -/

/-- The device was just found to be one to connect to. -/
def Eligible (past : Past) : Prop :=
  ∃ before pause policy, policy.reconnectOnResume = true ∧
    past = before ++ [⟨.sleep pause, ()⟩, ⟨.devicePolicy, policy⟩, ⟨.findDevice, .ok ()⟩,
      ⟨.isPaired, .ok true⟩, ⟨.isBlocked, .ok false⟩]

/-- A reconnection looks at the device, and what it does is what a connect operation without the
permission to power an adapter does with a device that is eligible. -/
def Reconnects (backend : Backend) (past : Past) (request : Request) : Prop :=
  (∃ pause, request = .sleep pause) ∨
    request ∈ [Request.devicePolicy, .findDevice, .isPaired, .isBlocked] ∨
    ∃ before own, past = before ++ own ∧ Eligible before ∧
      (rules backend .connect resumeParams).Allowed own request

variable {backend : Backend} {past : Past} {post : Past → Except BackendError Unit → Prop}

/-- A request that only looks. -/
theorem ensures_look {Found : Type} {post : Past → Except BackendError Found → Prop}
    {request : Request} {next : request.Answer → Operation Found}
    (hlook : (∃ pause, request = .sleep pause) ∨
      request ∈ [Request.devicePolicy, .findDevice, .isPaired, .isBlocked])
    (hnext : ∀ answer, Ensures (Reconnects backend) post (next answer)
      (past ++ [⟨request, answer⟩])) :
    Ensures (Reconnects backend) post (ask request >>= next) past :=
  ⟨hlook.imp_right .inl, hnext⟩

theorem ensures_attempt_connect
    {post : Past → Except BackendError (Except BackendError Unit) → Prop}
    (heligible : Eligible past) (hpost : ∀ later result, post later (.ok result)) :
    Ensures (Reconnects backend) post (backend.deviceOperation .connect resumeParams).attempt
      past := by
  rw [Program.ensures_attempt]
  have hframe : Ensures (Reconnects backend) (fun later result ↦ post later (.ok result))
      (backend.deviceOperation .connect resumeParams) (past ++ []) :=
    ensures_deviceOperation.frame past
      (fun own _ hallowed ↦ .inr (.inr ⟨past, own, rfl, heligible, hallowed⟩))
      (fun _ _ _ ↦ hpost _ _)
  rwa [List.append_nil] at hframe

theorem ensures_reconnectAttempts {attempt left : ℕ} :
    Ensures (Reconnects backend) (fun _ _ ↦ True) (backend.reconnectAttempts attempt left)
      past := by
  induction left generalizing attempt past with
  | zero => trivial
  | succ left ih =>
    unfold Backend.reconnectAttempts
    apply ensures_look (.inl ⟨_, rfl⟩)
    intro waited
    apply ensures_look (.inr (by simp))
    intro policy
    split
    · trivial
    next hpolicy =>
    apply ensures_look (.inr (by simp))
    rintro (error | ⟨⟩)
    · trivial
    apply (ensures_bind _ _).mpr
    apply ensures_look (.inr (by simp))
    rintro (error | (_ | _))
    · trivial
    · trivial
    apply ensures_look (.inr (by simp))
    rintro (error | (_ | _))
    · trivial
    · have heligible : Eligible (past ++ [⟨.sleep (1000 * 2 ^ attempt), waited⟩] ++
          [⟨.devicePolicy, policy⟩] ++ [⟨.findDevice, .ok ()⟩] ++ [⟨.isPaired, .ok true⟩] ++
            [⟨.isBlocked, .ok false⟩]) := by
        refine ⟨past, 1000 * 2 ^ attempt, policy, by simpa using hpolicy, ?_⟩
        simp
      apply (ensures_bind _ _).mpr
      apply ensures_attempt_connect heligible
      rintro later (error | ⟨⟩)
      · change Ensures _ _ (if attempt < 2 then _ else _) later
        split
        · exact ih
        · trivial
      · trivial
    · trivial

/-- Requests that change the radio, the pairing, the properties or the credentials. -/
def Request.intrusive : Request → Bool
  | .setPowered _ | .unblockRfkill | .pair | .disconnect | .removeDevice | .forgetAccountKey
  | .setBlocked _ | .setWakeAllowed _ | .setAlias _ | .provisionFromCatalog | .setMultipoint _
  | .setNoiseControl _ | .sonySetNoiseControl _ | .enableFastPairControls | .forgetCached
  | .forgetPresentation | .forgetDevicePolicy => true
  | _ => false

theorem not_mayPower_resumeParams : ¬MayPower .connect resumeParams past := by
  rintro ⟨-, policy, -, hpower⟩
  have hforbidden : powerOn resumeParams policy = false := rfl
  exact Bool.false_ne_true (hforbidden.symm.trans hpower)

/-- A connect operation that must not power an adapter needs nothing else. -/
theorem gentle_of_allowed {own : Past} {request : Request}
    (hallowed : (rules backend .connect resumeParams).Allowed own request) :
    request.intrusive = false := by
  have hneeds := hallowed.needs.2
  cases request with
  | setPowered powered => exact absurd hneeds.2.1 not_mayPower_resumeParams
  | unblockRfkill => exact absurd hneeds.1 not_mayPower_resumeParams
  | setAlias name => exact hneeds.elim nofun nofun
  | disconnect => exact hneeds.elim nofun fun hremove ↦ nomatch hremove.1
  | pair | setBlocked | setWakeAllowed => exact nomatch hneeds
  | removeDevice | setMultipoint | setNoiseControl | sonySetNoiseControl | enableFastPairControls
  | forgetCached | forgetPresentation | forgetDevicePolicy => exact nomatch hneeds.1
  | forgetAccountKey | provisionFromCatalog => exact nomatch hneeds.2
  | _ => rfl

theorem Reconnects.gentle {request : Request} (hreconnects : Reconnects backend past request) :
    request.intrusive = false := by
  obtain ⟨pause, rfl⟩ | hlook | ⟨before, own, -, -, hallowed⟩ := hreconnects
  · rfl
  · simp only [List.mem_cons, List.not_mem_nil, or_false] at hlook
    obtain rfl | rfl | rfl | rfl := hlook <;> rfl
  · exact gentle_of_allowed hallowed

/-! ## How often BlueZ is asked to connect -/

def connectCost : Request → ℕ
  | .connect => 1
  | _ => 0

section Costs

variable {bound : ℕ} {Found : Type} {operation : DeviceOperation}

theorem spends_ask {request : Request} {next : request.Answer → Operation Found}
    (hcost : connectCost request = 0) (hnext : ∀ answer, Spends connectCost (next answer) bound) :
    Spends connectCost (ask request >>= next) bound := by
  refine ⟨hcost.le.trans (Nat.zero_le _), fun answer ↦ ?_⟩
  rw [hcost, Nat.sub_zero]
  exact hnext answer

/-- What costs nothing may come first. -/
theorem spends_bind_free {Next : Type} {program : Operation Found} {next : Found → Operation Next}
    (hprogram : Spends connectCost program 0)
    (hnext : ∀ value, Spends connectCost (next value) bound) :
    Spends connectCost (program >>= next) bound :=
  (hprogram.bind hnext).mono (Nat.zero_add _).le

/-- What costs nothing may come last. -/
theorem spends_bind_last {Next : Type} {program : Operation Found} {next : Found → Operation Next}
    (hprogram : Spends connectCost program bound)
    (hnext : ∀ value, Spends connectCost (next value) 0) :
    Spends connectCost (program >>= next) bound :=
  hprogram.bind hnext

theorem spends_bluezResult {result : Reply Found} {step : String} :
    Spends connectCost (bluezResult result step) bound := Program.spends_ofExcept _

theorem spends_reply {request : Request} {decode : request.Answer → Operation Found}
    {Next : Type} {next : Found → Operation Next} (hcost : connectCost request = 0)
    (hdecode : ∀ answer, Spends connectCost (decode answer) 0)
    (hnext : ∀ value, Spends connectCost (next value) bound) :
    Spends connectCost (ask request >>= fun answer ↦ decode answer >>= next) bound :=
  spends_ask hcost fun answer ↦ spends_bind_free (hdecode answer) hnext

theorem spends_unblockRfkill {before : RadioState} :
    Spends connectCost (unblockRfkill before false) 0 := by
  apply Spends.when
  apply spends_ask rfl
  rintro (error | ⟨⟩) <;> trivial

theorem spends_ensurePowered {allowed : Option Bool} :
    Spends connectCost (Backend.ensurePowered allowed) 0 := by
  cases allowed with
  | none => trivial
  | some allowed =>
    apply spends_reply rfl (fun answer ↦ spends_bluezResult)
    intro powered
    split
    · trivial
    split
    · trivial
    apply spends_ask rfl
    intro announced
    apply spends_reply rfl (fun answer ↦ Program.spends_ofExcept _)
    intro before
    split
    · trivial
    apply spends_bind_free spends_unblockRfkill
    intro unblocked
    apply spends_ask rfl
    exact fun answer ↦ spends_bluezResult

theorem spends_waitForServices {polls : ℕ} : Spends connectCost (waitForServices polls) 0 := by
  induction polls with
  | zero => trivial
  | succ polls ih =>
    apply spends_ask rfl
    rintro (_ | (error | (_ | _)))
    · trivial
    · trivial
    · exact spends_ask rfl fun answer ↦ ih
    · trivial

theorem spends_trustPaired : Spends connectCost trustPaired 0 := by
  apply spends_reply rfl (fun answer ↦ spends_bluezResult)
  intro paired
  apply Spends.when
  apply spends_reply rfl (fun answer ↦ spends_bluezResult)
  intro trusted
  apply Spends.when
  apply spends_ask rfl
  intro announced
  apply spends_ask rfl
  exact fun answer ↦ spends_bluezResult

theorem spends_connectDevice {step : String} : Spends connectCost (connectDevice step) 1 := by
  refine ⟨Nat.le_refl 1, ?_⟩
  rintro (_ | (error | ⟨⟩))
  · trivial
  · change Spends connectCost (if error.kind = .alreadyConnected then _ else _) 0
    split <;> trivial
  · trivial

theorem spends_invalidInput {result : Except String Found} :
    Spends connectCost (invalidInput result) bound := Program.spends_ofExcept _

theorem spends_connectWorkflow {params : Params} {wait : Bool} :
    Spends connectCost (connectWorkflow params wait) 1 := by
  apply spends_bind_free spends_invalidInput
  intro trust
  apply spends_bind_free spends_trustPaired.when
  intro trusted
  apply spends_ask rfl
  intro announced
  apply spends_bind_last spends_connectDevice
  intro connected
  apply spends_bind_free spends_invalidInput
  intro chosen
  apply Spends.when
  apply spends_ask rfl
  exact fun answer ↦ spends_waitForServices

theorem spends_routeAttempts {request : PolicyRequest} {sleeps : ℕ} :
    Spends connectCost (Backend.routeAttempts request sleeps) 0 := by
  induction sleeps with
  | zero =>
    unfold Backend.routeAttempts
    apply spends_ask rfl
    rintro (_ | error | error | ⟨error, late⟩)
    · trivial
    · trivial
    · trivial
    · cases late <;> trivial
  | succ sleeps ih =>
    unfold Backend.routeAttempts
    apply spends_ask rfl
    rintro (_ | error | error | ⟨error, late⟩)
    · trivial
    · trivial
    · trivial
    · cases late with
      | true => trivial
      | false => exact spends_ask rfl fun answer ↦ ih

theorem spends_settle {policy : DevicePolicy} :
    Spends connectCost (Backend.settle operation policy) 0 := by
  have henable : Spends connectCost (do
      Program.ofExcept (← ask .enableFastPairControls)
      ask .notify : Operation Unit) 0 := by
    apply spends_reply rfl (fun answer ↦ Program.spends_ofExcept _)
    exact fun value ↦ ⟨Nat.le_refl 0, fun answer ↦ trivial⟩
  have hforget : Spends connectCost (do
      ask .forgetCached
      ask .forgetPresentation
      ask .forgetDevicePolicy : Operation Unit) 0 := by
    apply spends_ask rfl
    intro cached
    apply spends_ask rfl
    exact fun presented ↦ ⟨Nat.le_refl 0, fun answer ↦ trivial⟩
  apply spends_bind_free henable.when
  intro enabled
  apply spends_bind_free hforget.when
  intro forgotten
  apply spends_reply rfl (fun answer ↦ Program.spends_ofExcept _)
  exact fun radio ↦ ⟨Nat.le_refl 0, fun answer ↦ trivial⟩

theorem spends_sonyNoiseControl : Spends connectCost (backend.sonyNoiseControl operation) 0 := by
  unfold Backend.sonyNoiseControl
  split
  · exact ⟨Nat.le_refl 0, fun answer ↦ trivial⟩
  · trivial

theorem spends_validate {policy : DevicePolicy} :
    Spends connectCost (Backend.validateFastPairControlPolicy operation policy) 0 := by
  unfold Backend.validateFastPairControlPolicy
  split <;> trivial

theorem spends_plan {params : Params} {policy : DevicePolicy} {next : Plan → Operation Unit}
    (hnext : ∀ plan, plan.operation = operation → Spends connectCost (next plan) bound) :
    Spends connectCost (Plan.new operation params policy >>= next) bound := by
  unfold Plan.new
  split
  · unfold Params.optionalBool
    cases params "power_on" with
    | absent | null => exact hnext ⟨operation, _, _⟩ rfl
    | bool value => exact hnext ⟨operation, _, _⟩ rfl
    | string | unsigned | other => trivial
  · exact hnext ⟨operation, _, _⟩ rfl

theorem spends_run {params : Params} {policy : DevicePolicy} :
    Spends connectCost (backend.run .connect params policy) 1 := by
  apply spends_bind_free spends_sonyNoiseControl
  intro sony
  split
  · apply spends_bind_free spends_invalidInput
    intro mode
    apply spends_ask rfl
    exact fun answer ↦ Program.spends_ofExcept _
  · exact spends_connectWorkflow

theorem spends_connect {params : Params} :
    Spends connectCost (backend.deviceOperation .connect params) 1 := by
  apply spends_ask rfl
  intro locked
  apply spends_reply rfl (fun answer ↦ Program.spends_ofExcept _)
  intro found
  apply spends_ask rfl
  intro policy
  apply spends_bind_free spends_sonyNoiseControl
  intro sony
  apply spends_bind_free spends_validate.when
  intro valid
  apply spends_plan
  rintro plan hplan
  refine spends_bind_last ?_ fun done ↦ spends_settle
  unfold Backend.execute
  rw [hplan]
  apply spends_bind_free spends_ensurePowered
  intro powered
  have hrevoke : Spends connectCost backend.revokeCredentials 0 :=
    Spends.when (spends_ask rfl fun answer ↦ Program.spends_ofExcept _)
  apply spends_bind_free hrevoke.when
  intro revoked
  refine spends_bind_last spends_run fun ran ↦ ?_
  exact Spends.when (spends_ask rfl fun announced ↦ spends_routeAttempts)

theorem spends_refuses : Spends connectCost Backend.refuses 0 := by
  apply spends_reply rfl (fun answer ↦ Program.spends_ofExcept _)
  intro paired
  split
  · apply spends_ask rfl
    exact fun answer ↦ Program.spends_ofExcept _
  · trivial

/-- Each attempt asks BlueZ to connect once. -/
theorem spends_reconnectAttempts {attempt left : ℕ} :
    Spends connectCost (backend.reconnectAttempts attempt left) left := by
  induction left generalizing attempt with
  | zero => trivial
  | succ left ih =>
    unfold Backend.reconnectAttempts
    apply spends_ask rfl
    intro waited
    apply spends_ask rfl
    intro policy
    split
    · trivial
    apply spends_ask rfl
    rintro (error | ⟨⟩)
    · trivial
    apply spends_bind_free spends_refuses
    intro refused
    split
    · trivial
    rw [Nat.add_comm left 1]
    apply spends_connect.attempt.bind
    rintro (error | ⟨⟩)
    · change Spends connectCost (if attempt < 2 then _ else _) left
      split
      · exact ih
      · trivial
    · trivial

end Costs

/-! ## Every reconnection -/

/-- Whatever is answered and wherever the reconnection is dropped, it only acts on a device that
was just found to be paired, not blocked and wanted, it acts as a connect operation may, it changes
neither radio nor pairing nor credentials, and it asks BlueZ to connect at most three times. -/
theorem reconnect_bounded (backend : Backend) {events : Past}
    {outcome : Outcome Request BackendError Unit}
    (hruns : Runs backend.reconnectWhileAwake events outcome) :
    (∀ before event after, events = before ++ event :: after →
      Reconnects backend before event.request ∧ event.request.intrusive = false) ∧
    (∀ request, outcome = .dropped request →
      Reconnects backend events request ∧ request.intrusive = false) ∧
    spent connectCost events + outcome.pending connectCost ≤ 3 := by
  have hensures : Ensures (Reconnects backend) (fun _ _ ↦ True) backend.reconnectWhileAwake [] :=
    ensures_reconnectAttempts
  obtain ⟨hallowed, hgood⟩ := hensures.of_runs hruns
  refine ⟨fun before event after hevents ↦ ?_, ?_, spends_reconnectAttempts.of_runs hruns⟩
  · have hreconnects := hallowed before event after hevents
    exact ⟨hreconnects, hreconnects.gentle⟩
  · rintro request rfl
    have hreconnects : Reconnects backend events request := hgood
    exact ⟨hreconnects, hreconnects.gentle⟩

/-- A paired device is connected, but its adapter is not ready; the system sleeps again while the
second attempt waits. -/
def interrupted : Past :=
  [⟨.sleep 1000, ()⟩, ⟨.devicePolicy, ⟨true, true, true, true, true, "keep", none⟩⟩,
    ⟨.findDevice, .ok ()⟩, ⟨.isPaired, .ok true⟩, ⟨.isBlocked, .ok false⟩, ⟨.lock, ()⟩,
    ⟨.findDevice, .ok ()⟩, ⟨.devicePolicy, ⟨true, true, true, true, true, "keep", none⟩⟩,
    ⟨.isPowered, .ok true⟩, ⟨.progress "connecting", ()⟩,
    ⟨.connect, some (.error ⟨.notReady, "br-connection-busy"⟩)⟩]

theorem reconnect_bounded_interrupted :
    Reconnects ⟨true, false⟩ interrupted (.sleep 2000) ∧ spent connectCost interrupted ≤ 3 := by
  have hruns : Runs (Backend.reconnectWhileAwake ⟨true, false⟩) interrupted
      (.dropped (.sleep 2000)) :=
    .answered _ _ _ _ _ (.answered _ _ _ _ _ (.answered _ _ _ _ _ (.answered _ _ _ _ _
      (.answered _ _ _ _ _ (.answered _ _ _ _ _ (.answered _ _ _ _ _ (.answered _ _ _ _ _
      (.answered _ _ _ _ _ (.answered _ _ _ _ _ (.answered _ _ _ _ _ (.dropped _ _)))))))))))
  obtain ⟨-, hdropped, hspent⟩ := reconnect_bounded _ hruns
  exact ⟨(hdropped _ rfl).1, (Nat.le_add_right _ _).trans hspent⟩

end BtDaemon.Bluez.Operations
