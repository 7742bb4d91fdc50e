import Mathlib.Data.List.InsertIdx
import BtDaemon.Pairing.Interactions

/-!
# Terminal pairing events carry no secrets

A prompt or a display carries what the user has to compare or to type: a value, the number of
digits that were entered, a service. Its terminal event is built from the stored event or
afresh. Masking removes everything of this kind from a state; a step of the broker never reads
it, so what a step publishes depends on it only through the terminal events that keep it.
-/

namespace BtDaemon.Pairing

open Transition

/-! ## Cleared events -/

/-- Nothing of the interaction is left in the event. -/
structure PairingEvent.Cleared (event : PairingEvent) : Prop where
  value : event.value = none
  entered : event.entered = none
  service : event.service = none
  responseRequired : event.responseRequired = false
  timeoutMs : event.timeoutMs = 0

/-- Every terminal event that was published is cleared. -/
def TerminalsCleared (state : State) : Prop :=
  ∀ event ∈ state.broker.events, event.isTerminal = true → event.Cleared

/-- A `cancel_all` finds no display that shows how many digits were entered. -/
def Unentered (state : State) : Action → Prop
  | .takeDisplays _ => ∀ event ∈ state.broker.displays.values, event.entered = none
  | _ => True

instance (state : State) : (action : Action) → Decidable (Unentered state action)
  | .takeDisplays _ =>
    inferInstanceAs (Decidable (∀ event ∈ state.broker.displays.values, _))
  | .prompt _ _ | .announcePrompt _ | .timeout _ | .wake _ | .dropReceiver _ | .dropGuard _
  | .respond _ | .cancelAll _ | .next _ _ | .display _ _ | .announceDisplay _ | .cancelDisplay _
  | .announceCancelled _ _ => isTrue trivial

theorem PairingEvent.cleared_cancelled {event : PairingEvent} (hentered : event.entered = none)
    (reason : String) : (event.cancelled reason).Cleared := ⟨rfl, hentered, rfl, rfl, rfl⟩

theorem PairingEvent.cleared_answered {event : PairingEvent} (hentered : event.entered = none)
    (accept : Bool) : (event.answered accept).Cleared := ⟨rfl, hentered, rfl, rfl, rfl⟩

/-- What the agent still publishes is cleared. -/
def Agent.Cleared : Agent → Prop
  | .cancelAll _ requests => ∀ request ∈ requests, request.event.entered = none
  | .accepting request _ => request.event.entered = none
  | .ending announcement requests displays =>
    (∀ event ∈ announcement, event.Cleared) ∧ (∀ request ∈ requests, request.2.Cleared) ∧
      ∀ event ∈ displays, event.Cleared

structure Clean (state : State) : Prop where
  events : TerminalsCleared state
  pending : ∀ id request, state.broker.pending.lookup id = some request →
    request.event.entered = none
  agents : ∀ serial agent, state.agents.lookup serial = some agent → agent.Cleared
  inserted : ∀ id event, state.callbacks.lookup id = some (.inserted event) →
    event.isTerminal = false
  displayInserted : ∀ id kind event,
    state.displayTasks.lookup id = some ⟨kind, .inserted event⟩ → event.isTerminal = false

theorem clean_init : Clean State.init := by
  constructor <;> simp [State.init, PairingBroker.init, TerminalsCleared]

namespace Clean

variable {state : State}

theorem emit (clean : Clean state) {event : PairingEvent}
    (hcleared : event.isTerminal = true → event.Cleared) : Clean (state.emit event) := by
  refine ⟨fun other hother ↦ ?_, clean.pending, clean.agents, clean.inserted, clean.displayInserted⟩
  rcases List.mem_append.mp hother with hold | hnew
  · exact clean.events other hold
  · obtain rfl := List.mem_singleton.mp hnew
    exact hcleared

theorem setAgent (clean : Clean state) {agent : Agent} (serial : ℕ) (hagent : agent.Cleared) :
    Clean (state.setAgent serial agent) := by
  refine ⟨clean.events, clean.pending, fun other found hfound ↦ ?_, clean.inserted,
    clean.displayInserted⟩
  rw [State.setAgent, Table.lookup_insert_eq_some] at hfound
  rcases hfound with ⟨-, rfl⟩ | ⟨-, hfound⟩
  · exact hagent
  · exact clean.agents other found hfound

theorem spawn (clean : Clean state) {agent : Agent} (hagent : agent.Cleared) :
    Clean (state.spawn agent) :=
  have hset := clean.setAgent state.spawned hagent
  ⟨hset.events, hset.pending, hset.agents, hset.inserted, hset.displayInserted⟩

theorem eraseAgent (clean : Clean state) (serial : ℕ) :
    Clean { state with agents := state.agents.erase serial } := by
  refine ⟨clean.events, clean.pending, fun other found hfound ↦ ?_, clean.inserted,
    clean.displayInserted⟩
  obtain ⟨-, hfound⟩ := Table.lookup_erase_eq_some.mp hfound
  exact clean.agents other found hfound

theorem erasePending (clean : Clean state) (id : String) :
    Clean { state with broker.pending := state.broker.pending.erase id } := by
  refine ⟨clean.events, fun other request hlookup ↦ ?_, clean.agents, clean.inserted,
    clean.displayInserted⟩
  obtain ⟨-, hlookup⟩ := Table.lookup_erase_eq_some.mp hlookup
  exact clean.pending other request hlookup

theorem setCallback (clean : Clean state) (id : String) {phase : CallbackPhase}
    (hphase : ∀ event, phase = .inserted event → event.isTerminal = false) :
    Clean (state.setCallback id phase) := by
  refine ⟨clean.events, clean.pending, clean.agents, fun other event hlookup ↦ ?_,
    clean.displayInserted⟩
  rw [State.setCallback, Table.lookup_insert] at hlookup
  split at hlookup
  · exact hphase event (Option.some.inj hlookup)
  · exact clean.inserted other event hlookup

theorem setDisplayTask (clean : Clean state) (id kind : String) {phase : DisplayPhase}
    (hphase : ∀ event, phase = .inserted event → event.isTerminal = false) :
    Clean (state.setDisplayTask id kind phase) := by
  refine ⟨clean.events, clean.pending, clean.agents, clean.inserted,
    fun other found event hlookup ↦ ?_⟩
  rw [State.setDisplayTask, Table.lookup_insert] at hlookup
  split at hlookup
  · exact hphase event (congrArg DisplayTask.phase (Option.some.inj hlookup))
  · exact clean.displayInserted other found event hlookup

theorem deliver (clean : Clean state) (id : String) (answer : Answer) :
    Clean (state.deliver id answer) :=
  ⟨clean.events, clean.pending, clean.agents, clean.inserted, clean.displayInserted⟩

theorem refuse (clean : Clean state) (errors : List RespondError) :
    Clean { state with respondErrors := errors } :=
  ⟨clean.events, clean.pending, clean.agents, clean.inserted, clean.displayInserted⟩

theorem cancelPending (clean : Clean state) (id reason : String) :
    Clean (state.cancelPending id reason) := by
  unfold State.cancelPending
  split
  · exact clean
  · next request hpending =>
    have hcleared := PairingEvent.cleared_cancelled (clean.pending id request hpending) reason
    exact (clean.erasePending id).spawn ⟨by simp, by simpa using hcleared, by simp⟩

theorem respond (clean : Clean state) (params : RespondParams) :
    Clean (state.respond params) := by
  unfold State.respond
  split
  · exact clean.refuse _
  · next id request accept htake =>
    have hentered := clean.pending id request (PairingBroker.takeResponse_eq_ok htake).1
    apply (clean.erasePending id).spawn
    cases accept with
    | true => exact hentered
    | false =>
      have hcleared := PairingEvent.cleared_answered hentered false
      exact ⟨by simp, by simpa using hcleared, by simp⟩

theorem takeDisplays (clean : Clean state) {serial : ℕ} {reason : String}
    {requests : List PendingRequest} (hagent : (Agent.cancelAll reason requests).Cleared)
    (hdisplays : ∀ event ∈ state.broker.displays.values, event.entered = none) :
    Clean (state.takeDisplays serial reason requests) := by
  have hswept : Clean { state with
      broker.displays := ∅
      swept := state.swept ++ state.broker.displays.keys } :=
    ⟨clean.events, clean.pending, clean.agents, clean.inserted, clean.displayInserted⟩
  refine hswept.setAgent serial ⟨by simp, fun request hrequest ↦ ?_, fun event hevent ↦ ?_⟩
  · obtain ⟨taken, htaken, rfl⟩ := List.mem_map.mp hrequest
    exact PairingEvent.cleared_cancelled (hagent taken htaken) reason
  · obtain ⟨taken, htaken, rfl⟩ := List.mem_map.mp hevent
    exact PairingEvent.cleared_cancelled (hdisplays taken htaken) reason

theorem accepting (clean : Clean state) (serial : ℕ) {request : PendingRequest}
    {params : RespondParams} (hentered : request.event.entered = none) :
    Clean (state.accepting serial request params) := by
  unfold State.accepting
  dsimp only
  split
  · exact (clean.eraseAgent serial).refuse _
  · split
    · have hcleared := PairingEvent.cleared_answered hentered true
      exact (clean.deliver _ _).setAgent serial ⟨by simpa using hcleared, by simp, by simp⟩
    · exact (clean.eraseAgent serial).refuse _

theorem nextStep (clean : Clean state) {serial index : ℕ} {agent : Agent}
    (hagent : agent.Cleared) {next : State}
    (hnext : state.nextStep serial index agent = some next) : Clean next := by
  unfold State.nextStep at hnext
  split at hnext
  · cases hnext
  · obtain rfl := Option.some.inj hnext
    exact clean.accepting serial hagent
  · next event requests displays =>
    obtain rfl := Option.some.inj hnext
    obtain ⟨hevent, hrequests, hdisplays⟩ := hagent
    exact (clean.emit fun _ ↦ hevent event rfl).setAgent serial ⟨by simp, hrequests, hdisplays⟩
  · obtain rfl := Option.some.inj hnext
    exact clean.eraseAgent serial
  · next first rest =>
    obtain ⟨event, hindex, rfl⟩ := Option.map_eq_some_iff.mp hnext
    obtain ⟨-, -, hdisplays⟩ := hagent
    refine (clean.emit fun _ ↦ hdisplays event (List.mem_of_getElem? hindex)).setAgent serial
      ⟨by simp, by simp, fun other hother ↦ ?_⟩
    exact hdisplays other (List.mem_of_mem_eraseIdx hother)
  · next first rest displays =>
    obtain ⟨request, hindex, rfl⟩ := Option.map_eq_some_iff.mp hnext
    obtain ⟨-, hrequests, hdisplays⟩ := hagent
    have hcleared := hrequests request (List.mem_of_getElem? hindex)
    refine (clean.deliver _ _).setAgent serial
      ⟨by simpa using hcleared, fun other hother ↦ ?_, hdisplays⟩
    exact hrequests other (List.mem_of_mem_eraseIdx hother)

theorem prompt (clean : Clean state) (prompt : Prompt) (deviceKey : String) :
    Clean (state.prompt prompt deviceKey) := by
  have hinsert : Clean { state with broker := state.broker.insertRequest prompt deviceKey } := by
    refine ⟨clean.events, fun id request hlookup ↦ ?_, clean.agents, clean.inserted,
      clean.displayInserted⟩
    simp only [PairingBroker.insertRequest, Table.lookup_insert_eq_some] at hlookup
    rcases hlookup with ⟨-, rfl⟩ | ⟨-, hlookup⟩
    · rfl
    · exact clean.pending id request hlookup
  apply hinsert.setCallback _
  intro event hevent
  obtain rfl := CallbackPhase.inserted.inj hevent
  rfl

theorem display (clean : Clean state) (display : Display) (deviceKey : String) :
    Clean (state.display display deviceKey) := by
  have hinsert : Clean { state with broker := state.broker.display display deviceKey } :=
    ⟨clean.events, clean.pending, clean.agents, clean.inserted, clean.displayInserted⟩
  apply hinsert.setDisplayTask _ _
  intro event hevent
  obtain rfl := DisplayPhase.inserted.inj hevent
  rfl

end Clean

theorem clean_step (state : State) (action : Action) (next : State) (clean : Clean state)
    (hunentered : Unentered state action) (hstep : step state action = some next) :
    Clean next := by
  cases steps_of_step hstep with
  | prompt prompt deviceKey => exact clean.prompt prompt deviceKey
  | @announcePrompt id event hinserted =>
    have hopen := clean.inserted id event hinserted
    have hemit : Clean (state.emit event) :=
      clean.emit fun hterminal ↦ by cases hopen.symm.trans hterminal
    have htimed : Clean { state.emit event with timers := id :: state.timers } :=
      ⟨hemit.events, hemit.pending, hemit.agents, hemit.inserted, hemit.displayInserted⟩
    exact htimed.setCallback id fun _ hinserted ↦ by cases hinserted
  | @timeout id =>
    have htimed : Clean { state with timers := state.timers.erase id } :=
      ⟨clean.events, clean.pending, clean.agents, clean.inserted, clean.displayInserted⟩
    exact htimed.cancelPending id "timeout"
  | @wake id => exact clean.setCallback id fun _ hinserted ↦ by cases hinserted
  | @dropReceiver id => exact clean.setCallback id fun _ hinserted ↦ by cases hinserted
  | @dropGuard id =>
    have hset : Clean (state.setCallback id .finished) :=
      clean.setCallback id fun _ hinserted ↦ by cases hinserted
    exact hset.cancelPending id "bluez-cancelled"
  | respond params => exact clean.respond params
  | cancelAll reason =>
    have hempty : Clean { state with broker.pending := ∅ } :=
      ⟨clean.events, fun _ _ hlookup ↦ by simp at hlookup, clean.agents, clean.inserted,
        clean.displayInserted⟩
    apply hempty.spawn
    intro request hrequest
    obtain ⟨id, hlookup⟩ := (Table.mem_values ..).mp hrequest
    exact clean.pending id request hlookup
  | takeDisplays hagent => exact clean.takeDisplays (clean.agents _ _ hagent) hunentered
  | next hagent hnext => exact clean.nextStep (clean.agents _ _ hagent) hnext
  | display display deviceKey => exact clean.display display deviceKey
  | @announceDisplay id kind event htask =>
    have hopen := clean.displayInserted id kind event htask
    have hemit : Clean (state.emit event) :=
      clean.emit fun hterminal ↦ by cases hopen.symm.trans hterminal
    exact hemit.setDisplayTask id kind fun _ hinserted ↦ by cases hinserted
  | @cancelDisplay id kind =>
    have herase : Clean { state with broker.displays := state.broker.displays.erase id } :=
      ⟨clean.events, clean.pending, clean.agents, clean.inserted, clean.displayInserted⟩
    exact herase.setDisplayTask id kind fun _ hinserted ↦ by cases hinserted
  | @announceCancelled id kind deviceKey =>
    have hemit : Clean (state.emit (PairingBroker.displayCancelled id kind deviceKey)) :=
      clean.emit fun _ ↦ ⟨rfl, rfl, rfl, rfl, rfl⟩
    exact hemit.setDisplayTask id kind fun _ hinserted ↦ by cases hinserted

/-! ## Masking -/

namespace PairingEvent

def masked (event : PairingEvent) : PairingEvent :=
  { event with value := none, entered := none, service := none }

theorem masked_of_cleared {event : PairingEvent} (hcleared : event.Cleared) :
    event.masked = event := by
  obtain ⟨hvalue, hentered, hservice, -, -⟩ := hcleared
  cases event
  simp_all [masked]

end PairingEvent

def Prompt.masked : Prompt → Prompt
  | .confirmation _ => .confirmation 0
  | .service _ => .service ""
  | .pinCode => .pinCode
  | .passkey => .passkey
  | .authorization => .authorization

def Display.masked : Display → Display
  | .pinCode _ => .pinCode ""
  | .passkey _ _ => .passkey 0 0

def Answer.masked : Answer → Answer
  | .pin result => .pin (result.map fun _ ↦ "")
  | .passkey result => .passkey (result.map fun _ ↦ 0)
  | .unit result => .unit result

/-- All that is left of a value is whether it can be a passkey, and whether a PIN. -/
def maskedValue (isPasskey isPin : Bool) : String :=
  if isPasskey then "0" else if isPin then "x" else ""

def RespondParams.masked (params : RespondParams) : RespondParams :=
  { params with value := .string (maskedValue (passkeyValue params).isOk (pinValue params).isOk) }

def PendingRequest.masked (request : PendingRequest) : PendingRequest :=
  { request with event := request.event.masked }

def CallbackPhase.masked : CallbackPhase → CallbackPhase
  | .inserted event => .inserted event.masked
  | phase => phase

def DisplayTask.masked (task : DisplayTask) : DisplayTask :=
  { task with
    phase := match task.phase with
      | .inserted event => .inserted event.masked
      | phase => phase }

def maskedEnd (request : Answer × PairingEvent) : Answer × PairingEvent :=
  (request.1.masked, request.2.masked)

def Agent.masked : Agent → Agent
  | .cancelAll reason requests => .cancelAll reason (requests.map PendingRequest.masked)
  | .accepting request params => .accepting request.masked params.masked
  | .ending announcement requests displays =>
    .ending (announcement.map PairingEvent.masked) (requests.map maskedEnd)
      (displays.map PairingEvent.masked)

def PairingBroker.masked (broker : PairingBroker) : PairingBroker :=
  { broker with
    pending := broker.pending.mapValues PendingRequest.masked
    displays := broker.displays.mapValues PairingEvent.masked
    events := broker.events.map PairingEvent.masked }

/-- The state without the PINs, passkeys, digit counts and service ids in it. -/
def State.masked (state : State) : State :=
  { state with
    broker := state.broker.masked
    callbacks := state.callbacks.mapValues CallbackPhase.masked
    displayTasks := state.displayTasks.mapValues DisplayTask.masked
    agents := state.agents.mapValues Agent.masked
    answers := state.answers.map fun answer ↦ (answer.1, answer.2.masked) }

def Action.masked : Action → Action
  | .prompt asked deviceKey => .prompt asked.masked deviceKey
  | .display shown deviceKey => .display shown.masked deviceKey
  | .respond params => .respond params.masked
  | other => other

/-! ### Answers -/

theorem length_le_utf8ByteSize (text : String) : text.length ≤ text.utf8ByteSize := by
  have hlist : ∀ chars : List Char, chars.length ≤ chars.utf8Encode.size := by
    intro chars
    induction chars with
    | nil => simp
    | cons char rest ih =>
      have hpos := char.utf8Size_pos
      rw [List.utf8Encode_cons, ByteArray.size_append, List.utf8Encode_singleton]
      simp only [List.length_cons, List.size_toByteArray, String.length_utf8EncodeChar]
      omega
  have htext := hlist text.toList
  rw [← String.toByteArray_ofList, String.ofList_toList] at htext
  exact htext

/-- Whatever can be a passkey can be a PIN. -/
theorem isOk_pinValue {params : RespondParams} (hpasskey : (passkeyValue params).isOk = true) :
    (pinValue params).isOk = true := by
  simp only [passkeyValue] at hpasskey
  split at hpasskey
  · cases hpasskey
  · next hvalid =>
    have hlength := length_le_utf8ByteSize params.value.asStr
    have hpin : ¬(params.value.asStr = "" ∨ 16 < params.value.asStr.length) := by
      rintro (hempty | hlong)
      · exact hvalid (.inl hempty)
      · exact hvalid (.inr (.inl (by omega)))
    rw [pinValue, if_neg hpin]
    rfl

theorem pinValue_verdict (params : RespondParams) :
    (pinValue params).map (fun _ ↦ ()) =
      if (pinValue params).isOk then .ok () else .error "PIN must contain 1 to 16 characters" := by
  simp only [pinValue]
  split <;> rfl

theorem passkeyValue_verdict (params : RespondParams) :
    (passkeyValue params).map (fun _ ↦ ()) =
      if (passkeyValue params).isOk then .ok ()
      else .error "passkey must contain 1 to 6 digits" := by
  simp only [passkeyValue]
  split <;> rfl

theorem isOk_pinValue_masked (params : RespondParams) :
    (pinValue params.masked).isOk = (pinValue params).isOk := by
  have hvalue : ∀ isPasskey isPin requestId accept,
      (pinValue ⟨requestId, accept, .string (maskedValue isPasskey isPin)⟩).isOk =
        (isPasskey || isPin) := by
    intro isPasskey isPin requestId accept
    have hvalid : ∀ isPasskey isPin : Bool, (maskedValue isPasskey isPin = "" ∨
        16 < (maskedValue isPasskey isPin).length) ↔ (isPasskey || isPin) = false := by decide
    by_cases hrefused : maskedValue isPasskey isPin = "" ∨
        16 < (maskedValue isPasskey isPin).length
    · have herror : pinValue ⟨requestId, accept, .string (maskedValue isPasskey isPin)⟩ =
          .error _ := if_pos hrefused
      rw [herror, (hvalid ..).mp hrefused]
      rfl
    · have hok : pinValue ⟨requestId, accept, .string (maskedValue isPasskey isPin)⟩ =
          .ok _ := if_neg hrefused
      rw [hok, Bool.of_not_eq_false fun hfalse ↦ hrefused ((hvalid ..).mpr hfalse)]
      rfl
  apply (hvalue ..).trans
  cases hpasskey : (passkeyValue params).isOk with
  | false => rfl
  | true => exact (isOk_pinValue hpasskey).symm

theorem isOk_passkeyValue_masked (params : RespondParams) :
    (passkeyValue params.masked).isOk = (passkeyValue params).isOk := by
  have hvalue : ∀ isPasskey isPin requestId accept,
      (passkeyValue ⟨requestId, accept, .string (maskedValue isPasskey isPin)⟩).isOk =
        isPasskey := by
    intro isPasskey isPin requestId accept
    have hvalid : ∀ isPasskey isPin : Bool, (maskedValue isPasskey isPin = "" ∨
        6 < (maskedValue isPasskey isPin).utf8ByteSize ∨
          (!(maskedValue isPasskey isPin).toList.all isAsciiDigit) = true) ↔
        isPasskey = false := by decide
    by_cases hrefused : maskedValue isPasskey isPin = "" ∨
        6 < (maskedValue isPasskey isPin).utf8ByteSize ∨
          (!(maskedValue isPasskey isPin).toList.all isAsciiDigit) = true
    · have herror : passkeyValue ⟨requestId, accept, .string (maskedValue isPasskey isPin)⟩ =
          .error _ := if_pos hrefused
      rw [herror, (hvalid ..).mp hrefused]
      rfl
    · have hok : passkeyValue ⟨requestId, accept, .string (maskedValue isPasskey isPin)⟩ =
          .ok _ := if_neg hrefused
      rw [hok, Bool.of_not_eq_false fun hfalse ↦ hrefused ((hvalid ..).mpr hfalse)]
      rfl
  exact hvalue ..

theorem pinValue_masked (params : RespondParams) :
    (pinValue params.masked).map (fun _ ↦ ()) = (pinValue params).map fun _ ↦ () := by
  rw [pinValue_verdict, pinValue_verdict, isOk_pinValue_masked]

theorem passkeyValue_masked (params : RespondParams) :
    (passkeyValue params.masked).map (fun _ ↦ ()) = (passkeyValue params).map fun _ ↦ () := by
  rw [passkeyValue_verdict, passkeyValue_verdict, isOk_passkeyValue_masked]

theorem validate_masked (response : PendingResponse) (params : RespondParams) :
    response.validate params.masked = response.validate params := by
  cases response with
  | pin => exact pinValue_masked params
  | passkey => exact passkeyValue_masked params
  | unit => rfl

/-- Two results with the same verdict give the same masked answer. -/
theorem map_masked_eq {Value : Type} {first second : Except String Value}
    (answer : Value → Answer) (hanswer : ∀ one other, (answer one).masked = (answer other).masked)
    (hverdict : first.map (fun _ ↦ ()) = second.map fun _ ↦ ()) :
    (first.map answer).map Answer.masked = (second.map answer).map Answer.masked := by
  cases first with
  | error reason =>
    cases second with
    | error other => exact congrArg Except.error (Except.error.inj hverdict)
    | ok value => cases hverdict
  | ok value =>
    cases second with
    | error other => cases hverdict
    | ok other => exact congrArg Except.ok (hanswer value other)

theorem accept_masked (response : PendingResponse) (params : RespondParams) :
    (response.accept params.masked).map Answer.masked =
      (response.accept params).map Answer.masked := by
  cases response with
  | pin => exact map_masked_eq _ (fun _ _ ↦ rfl) (pinValue_masked params)
  | passkey => exact map_masked_eq _ (fun _ _ ↦ rfl) (passkeyValue_masked params)
  | unit => rfl

/-! ### Steps -/

section Idempotent

@[simp]
theorem PairingEvent.masked_masked (event : PairingEvent) : event.masked.masked = event.masked :=
  rfl

@[simp]
theorem PairingEvent.masked_cancelled (event : PairingEvent) (reason : String) :
    (event.masked.cancelled reason).masked = (event.cancelled reason).masked := rfl

@[simp]
theorem PairingEvent.masked_answered (event : PairingEvent) (accept : Bool) :
    (event.masked.answered accept).masked = (event.answered accept).masked := rfl

@[simp]
theorem PendingRequest.masked_masked (request : PendingRequest) :
    request.masked.masked = request.masked := rfl

@[simp]
theorem CallbackPhase.masked_masked (phase : CallbackPhase) : phase.masked.masked = phase.masked := by
  cases phase <;> rfl

@[simp]
theorem DisplayTask.masked_masked (task : DisplayTask) : task.masked.masked = task.masked := by
  obtain ⟨kind, phase⟩ := task
  cases phase <;> rfl

@[simp]
theorem Answer.masked_masked (answer : Answer) : answer.masked.masked = answer.masked := by
  cases answer with
  | pin result => cases result <;> rfl
  | passkey result => cases result <;> rfl
  | unit result => rfl

@[simp]
theorem RespondParams.masked_masked (params : RespondParams) :
    params.masked.masked = params.masked := by
  have hvalue : params.masked.masked.value = params.masked.value := by
    rw [RespondParams.masked, isOk_passkeyValue_masked, isOk_pinValue_masked]
    rfl
  exact congrArg (RespondParams.mk params.requestId params.accept) hvalue

@[simp]
theorem maskedEnd_masked (request : Answer × PairingEvent) :
    maskedEnd (maskedEnd request) = maskedEnd request := by
  simp [maskedEnd]

@[simp]
theorem Agent.masked_masked (agent : Agent) : agent.masked.masked = agent.masked := by
  cases agent <;> simp [Agent.masked, Function.comp_def]

theorem mapValues_twice {Key Value : Type} [DecidableEq Key] {mask : Value → Value}
    (hmask : ∀ value, mask (mask value) = mask value) (table : Table Key Value) :
    (table.mapValues mask).mapValues mask = table.mapValues mask := by
  rw [Table.mapValues_mapValues]
  exact congrArg table.mapValues (funext hmask)

@[simp]
theorem pending_twice (table : Table String PendingRequest) :
    (table.mapValues PendingRequest.masked).mapValues PendingRequest.masked =
      table.mapValues PendingRequest.masked := mapValues_twice PendingRequest.masked_masked table

@[simp]
theorem displays_twice (table : Table String PairingEvent) :
    (table.mapValues PairingEvent.masked).mapValues PairingEvent.masked =
      table.mapValues PairingEvent.masked := mapValues_twice PairingEvent.masked_masked table

@[simp]
theorem callbacks_twice (table : Table String CallbackPhase) :
    (table.mapValues CallbackPhase.masked).mapValues CallbackPhase.masked =
      table.mapValues CallbackPhase.masked := mapValues_twice CallbackPhase.masked_masked table

@[simp]
theorem displayTasks_twice (table : Table String DisplayTask) :
    (table.mapValues DisplayTask.masked).mapValues DisplayTask.masked =
      table.mapValues DisplayTask.masked := mapValues_twice DisplayTask.masked_masked table

@[simp]
theorem agents_twice (table : Table ℕ Agent) :
    (table.mapValues Agent.masked).mapValues Agent.masked = table.mapValues Agent.masked :=
  mapValues_twice Agent.masked_masked table

@[simp]
theorem State.masked_masked (state : State) : state.masked.masked = state.masked := by
  simp [State.masked, PairingBroker.masked, Function.comp_def]

end Idempotent

namespace State

variable (state : State)

theorem masked_emit (event : PairingEvent) :
    (state.emit event).masked = state.masked.emit event.masked := by
  simp [emit, masked, PairingBroker.emit, PairingBroker.masked]

theorem masked_setAgent (serial : ℕ) (agent : Agent) :
    (state.setAgent serial agent).masked = state.masked.setAgent serial agent.masked := by
  simp [setAgent, masked, Table.mapValues_insert]

theorem masked_spawn (agent : Agent) :
    (state.spawn agent).masked = state.masked.spawn agent.masked := by
  simp [spawn, masked, Table.mapValues_insert]

theorem masked_setCallback (id : String) (phase : CallbackPhase) :
    (state.setCallback id phase).masked = state.masked.setCallback id phase.masked := by
  simp [setCallback, masked, Table.mapValues_insert]

theorem masked_setDisplayTask (id kind : String) (phase : DisplayPhase) :
    (state.setDisplayTask id kind phase).masked =
      { state.masked with
        displayTasks := state.masked.displayTasks.insert id (DisplayTask.masked ⟨kind, phase⟩) } := by
  simp [setDisplayTask, masked, Table.mapValues_insert]

theorem masked_erasePending (id : String) :
    State.masked { state with broker.pending := state.broker.pending.erase id } =
      { state.masked with broker.pending := state.masked.broker.pending.erase id } := by
  simp [masked, PairingBroker.masked, Table.mapValues_erase]

theorem listening_masked (id : String) : state.masked.listening id = state.listening id := by
  simp only [listening, masked, Table.lookup_mapValues]
  cases state.callbacks.lookup id with
  | none => rfl
  | some phase => cases phase <;> rfl

theorem masked_deliver_masked (id : String) (answer : Answer) :
    (state.deliver id answer).masked = (state.masked.deliver id answer.masked).masked := by
  simp only [deliver, listening_masked]
  split <;> simp [masked, PairingBroker.masked, Function.comp_def]

theorem masked_prompt (prompt : Prompt) (deviceKey : String) :
    (state.prompt prompt deviceKey).masked = (state.masked.prompt prompt.masked deviceKey).masked := by
  have hevent : ∀ id, (PairingBroker.requestedEvent id prompt.masked deviceKey).masked =
      (PairingBroker.requestedEvent id prompt deviceKey).masked := by
    intro id
    cases prompt <;>
      simp [PairingEvent.masked, PairingBroker.requestedEvent, Prompt.masked, Prompt.kind]
  have hresponse : prompt.masked.response = prompt.response := by cases prompt <;> rfl
  simp [State.prompt, setCallback, masked, PairingBroker.masked, PairingBroker.insertRequest,
    Table.mapValues_insert, Function.comp_def, PendingRequest.masked, hevent,
    hresponse, CallbackPhase.masked, PairingBroker.promptId]

theorem masked_display (display : Display) (deviceKey : String) :
    (state.display display deviceKey).masked =
      (state.masked.display display.masked deviceKey).masked := by
  have hevent : ∀ id, (PairingBroker.displayEvent id display.masked deviceKey).masked =
      (PairingBroker.displayEvent id display deviceKey).masked := by
    intro id
    cases display <;>
      simp [PairingEvent.masked, PairingBroker.displayEvent, Display.masked, Display.kind]
  have hkind : display.masked.kind = display.kind := by cases display <;> rfl
  have hretain := fun displays : Table String PairingEvent ↦
    Table.mapValues_retain displays PairingEvent.masked
      (fun _ old ↦ old.deviceKey != deviceKey || old.kind != display.kind) fun _ _ ↦ rfl
  have hid : state.masked.broker.displayId = state.broker.displayId := rfl
  simp only [masked, PairingBroker.masked] at hid
  simp [State.display, setDisplayTask, masked, PairingBroker.masked, PairingBroker.display,
    Table.mapValues_insert, Function.comp_def, hevent, hkind, hretain, DisplayTask.masked, hid]

theorem masked_cancelPending (id reason : String) :
    (state.cancelPending id reason).masked = (state.masked.cancelPending id reason).masked := by
  have hlookup : state.masked.broker.pending.lookup id =
      (state.broker.pending.lookup id).map PendingRequest.masked := Table.lookup_mapValues ..
  unfold cancelPending
  rw [hlookup]
  cases state.broker.pending.lookup id with
  | none => simp
  | some request =>
    simp only [Option.map_some]
    rw [masked_spawn, masked_spawn, masked_erasePending, masked_erasePending, masked_masked]
    rfl

theorem takeResponse_masked (params : RespondParams) :
    state.masked.broker.takeResponse params.masked =
      (state.broker.takeResponse params).map fun taken ↦
        (taken.1, taken.2.1.masked, taken.2.2) := by
  have hlookup : ∀ id, state.masked.broker.pending.lookup id =
      (state.broker.pending.lookup id).map PendingRequest.masked := fun id ↦
    Table.lookup_mapValues ..
  have hid : params.masked.requestId = params.requestId := rfl
  have haccept : params.masked.accept = params.accept := rfl
  unfold PairingBroker.takeResponse
  rw [hid, haccept]
  cases params.requestId.requireString "request_id" with
  | error reason => rfl
  | ok id =>
    cases params.accept.requireBool "accept" with
    | error reason => rfl
    | ok accept =>
      dsimp only
      rw [hlookup]
      cases state.broker.pending.lookup id with
      | none => rfl
      | some request =>
        have hvalid : request.masked.response.validate params.masked =
            request.response.validate params := validate_masked ..
        simp only [Option.map_some, hvalid]
        cases accept <;> cases request.response.validate params <;> rfl

theorem masked_respond (params : RespondParams) :
    (state.respond params).masked = (state.masked.respond params.masked).masked := by
  unfold respond
  rw [takeResponse_masked]
  cases state.broker.takeResponse params with
  | error message =>
    simp [masked, PairingBroker.masked, Function.comp_def, Except.map]
  | ok taken =>
    obtain ⟨id, request, accept⟩ := taken
    simp only [Except.map]
    rw [masked_spawn, masked_spawn, masked_erasePending, masked_erasePending, masked_masked]
    cases accept
    · rfl
    · simp [Agent.masked]

theorem masked_cancelAll (reason : String) :
    (state.cancelAll reason).masked = (state.masked.cancelAll reason).masked := by
  have hpending : ∀ broken : State, State.masked { broken with broker.pending := ∅ } =
      { broken.masked with broker.pending := ∅ } := fun broken ↦ by
    simp [masked, PairingBroker.masked, Table.mapValues_empty]
  have hvalues : state.masked.broker.pending.values =
      state.broker.pending.values.map PendingRequest.masked := Table.values_mapValues ..
  unfold cancelAll
  rw [masked_spawn, masked_spawn, hpending, hpending, masked_masked, hvalues]
  simp [Agent.masked, Function.comp_def]

theorem masked_takeDisplays (serial : ℕ) (reason : String) (requests : List PendingRequest) :
    (state.takeDisplays serial reason requests).masked =
      (state.masked.takeDisplays serial reason (requests.map PendingRequest.masked)).masked := by
  have hvalues : state.masked.broker.displays.values =
      state.broker.displays.values.map PairingEvent.masked := Table.values_mapValues ..
  have hkeys : state.masked.broker.displays.keys = state.broker.displays.keys :=
    Table.keys_mapValues ..
  have hswept : ∀ (broken : State) (keys : List String),
      State.masked { broken with broker.displays := ∅, swept := broken.swept ++ keys } =
        { broken.masked with
          broker.displays := ∅
          swept := broken.masked.swept ++ keys } := fun broken keys ↦ by
    simp [masked, PairingBroker.masked, Table.mapValues_empty]
  unfold takeDisplays
  rw [masked_setAgent, masked_setAgent, hkeys, hvalues, hswept, hswept, masked_masked]
  simp [Agent.masked, Function.comp_def, maskedEnd, PendingRequest.masked]

theorem masked_eraseAgent (serial : ℕ) :
    State.masked { state with agents := state.agents.erase serial } =
      { state.masked with agents := state.masked.agents.erase serial } := by
  simp [masked, Table.mapValues_erase]

theorem masked_accepting (serial : ℕ) (request : PendingRequest) (params : RespondParams) :
    (state.accepting serial request params).masked =
      (state.masked.accepting serial request.masked params.masked).masked := by
  have haccept := accept_masked request.response params
  have hrefused : ∀ (message : String) (errors : List RespondError),
      State.masked { state with
        agents := state.agents.erase serial
        respondErrors := errors ++ [⟨message, some request.event.requestId⟩] } =
      State.masked { state.masked with
        agents := state.masked.agents.erase serial
        respondErrors := errors ++ [⟨message, some request.event.requestId⟩] } := by
    intro message errors
    simp [masked, PairingBroker.masked, Table.mapValues_erase, Function.comp_def]
  have hresponse : request.masked.response = request.response := rfl
  have hid : request.masked.event.requestId = request.event.requestId := rfl
  unfold accepting
  dsimp only
  rw [hresponse, hid]
  cases hfirst : request.response.accept params with
  | error message =>
    cases hsecond : request.response.accept params.masked with
    | error other =>
      rw [hfirst, hsecond] at haccept
      obtain rfl := Except.error.inj haccept
      exact hrefused other state.respondErrors
    | ok answer =>
      rw [hfirst, hsecond] at haccept
      cases haccept
  | ok answer =>
    cases hsecond : request.response.accept params.masked with
    | error other =>
      rw [hfirst, hsecond] at haccept
      cases haccept
    | ok other =>
      rw [hfirst, hsecond] at haccept
      have hanswer : other.masked = answer.masked := Except.ok.inj haccept
      dsimp only
      rw [listening_masked]
      split
      · rw [masked_setAgent, masked_setAgent, masked_deliver_masked,
          masked_deliver_masked _ _ other, hanswer, masked_masked]
        simp only [Agent.masked, Option.map_some, List.map_nil]
        rfl
      · exact hrefused _ state.respondErrors

theorem masked_nextStep (serial index : ℕ) (agent : Agent) :
    (state.nextStep serial index agent).map masked =
      (state.masked.nextStep serial index agent.masked).map masked := by
  cases agent with
  | cancelAll reason requests => rfl
  | accepting request params => exact congrArg some (masked_accepting ..)
  | ending announcement requests displays =>
    cases announcement with
    | some event =>
      simp only [nextStep, Agent.masked, Option.map_some]
      rw [masked_setAgent, masked_setAgent, masked_emit, masked_emit, masked_masked]
      simp [Agent.masked, Function.comp_def]
    | none =>
      cases requests with
      | nil =>
        cases displays with
        | nil =>
          simp only [nextStep, Agent.masked, Option.map_some, Option.map_none, List.map_nil]
          rw [masked_eraseAgent, masked_eraseAgent, masked_masked]
        | cons first rest =>
          simp only [nextStep, Agent.masked, Option.map_none, List.map_nil, List.map_cons,
            Option.map_map]
          rw [← List.map_cons, List.getElem?_map, Option.map_map]
          apply Option.map_congr
          intro event _
          simp only [Function.comp_apply]
          rw [masked_setAgent, masked_setAgent, masked_emit, masked_emit, masked_masked,
            List.eraseIdx_map]
          simp [Agent.masked, Function.comp_def]
      | cons first rest =>
        simp only [nextStep, Agent.masked, Option.map_none, List.map_cons, Option.map_map]
        rw [← List.map_cons, List.getElem?_map, Option.map_map]
        apply Option.map_congr
        intro request _
        simp only [Function.comp_apply]
        rw [masked_setAgent, masked_setAgent, masked_deliver_masked, List.eraseIdx_map]
        have hends : maskedEnd ∘ maskedEnd = maskedEnd := funext maskedEnd_masked
        have hevents : PairingEvent.masked ∘ PairingEvent.masked = PairingEvent.masked := rfl
        simp only [Agent.masked, Option.map_some, List.map_map, hends, hevents]
        rfl

end State

theorem step_masked (state : State) (action : Action) :
    (step state action).map State.masked = (step state.masked action.masked).map State.masked := by
  have hcallback : ∀ id, state.masked.callbacks.lookup id =
      (state.callbacks.lookup id).map CallbackPhase.masked := fun id ↦ Table.lookup_mapValues ..
  have htask : ∀ id, state.masked.displayTasks.lookup id =
      (state.displayTasks.lookup id).map DisplayTask.masked := fun id ↦ Table.lookup_mapValues ..
  have hagent : ∀ serial, state.masked.agents.lookup serial =
      (state.agents.lookup serial).map Agent.masked := fun serial ↦ Table.lookup_mapValues ..
  have hwaiting : ∀ id, state.masked.callbacks.lookup id = some .waiting ↔
      state.callbacks.lookup id = some .waiting := fun id ↦ by
    rw [hcallback]
    cases state.callbacks.lookup id with
    | none => simp
    | some phase => cases phase <;> simp [CallbackPhase.masked]
  have hdropping : ∀ id, state.masked.callbacks.lookup id = some .dropping ↔
      state.callbacks.lookup id = some .dropping := fun id ↦ by
    rw [hcallback]
    cases state.callbacks.lookup id with
    | none => simp
    | some phase => cases phase <;> simp [CallbackPhase.masked]
  cases action with
  | prompt prompt deviceKey => exact congrArg some (State.masked_prompt ..)
  | announcePrompt id =>
    simp only [step, Action.masked, hcallback]
    cases state.callbacks.lookup id with
    | none => rfl
    | some phase =>
      cases phase with
      | inserted event =>
        simp only [Option.map_some, CallbackPhase.masked]
        rw [State.masked_setCallback, State.masked_setCallback]
        exact congrArg (fun broker ↦ some (State.setCallback broker id .waiting)) (by
          simp [State.masked, State.emit, PairingBroker.emit, PairingBroker.masked,
            Function.comp_def])
      | waiting => rfl
      | dropping => rfl
      | finished => rfl
  | timeout id =>
    simp only [step, Action.masked]
    have htimers : state.masked.timers = state.timers := rfl
    rw [htimers]
    split
    · exact congrArg some (State.masked_cancelPending
        { state with timers := state.timers.erase id } id "timeout")
    · rfl
  | wake id =>
    have hanswers : state.masked.answers.map Prod.fst = state.answers.map Prod.fst := by
      simp [State.masked, Function.comp_def]
    simp only [step, Action.masked, hanswers, hwaiting]
    split
    · simp only [Option.map_some]
      rw [State.masked_setCallback, State.masked_setCallback, State.masked_masked]
    · rfl
  | dropReceiver id =>
    simp only [step, Action.masked, hwaiting]
    split
    · simp only [Option.map_some]
      rw [State.masked_setCallback, State.masked_setCallback, State.masked_masked]
    · rfl
  | dropGuard id =>
    simp only [step, Action.masked, hdropping]
    split
    · simp only [Option.map_some]
      rw [State.masked_cancelPending, State.masked_setCallback]
      rfl
    · rfl
  | respond params => exact congrArg some (State.masked_respond ..)
  | cancelAll reason => exact congrArg some (State.masked_cancelAll ..)
  | takeDisplays serial =>
    simp only [step, Action.masked, hagent]
    cases state.agents.lookup serial with
    | none => rfl
    | some agent =>
      cases agent with
      | cancelAll reason requests => exact congrArg some (State.masked_takeDisplays ..)
      | accepting request params => rfl
      | ending announcement requests displays => rfl
  | next serial index =>
    simp only [step, Action.masked, hagent]
    cases state.agents.lookup serial with
    | none => rfl
    | some agent => exact State.masked_nextStep ..
  | display display deviceKey => exact congrArg some (State.masked_display ..)
  | announceDisplay id =>
    simp only [step, Action.masked, htask]
    cases state.displayTasks.lookup id with
    | none => rfl
    | some task =>
      obtain ⟨kind, phase⟩ := task
      cases phase with
      | inserted event =>
        simp only [Option.map_some, DisplayTask.masked]
        rw [State.masked_setDisplayTask, State.masked_setDisplayTask, State.masked_emit,
          State.masked_emit, State.masked_masked]
        rfl
      | waiting => rfl
      | removed => rfl
      | finished => rfl
  | cancelDisplay id =>
    have herase : ∀ broken : State, State.masked { broken with
        broker.displays := broken.broker.displays.erase id } =
        { broken.masked with broker.displays := broken.masked.broker.displays.erase id } :=
      fun broken ↦ by simp [State.masked, PairingBroker.masked, Table.mapValues_erase]
    simp only [step, Action.masked, htask]
    cases state.displayTasks.lookup id with
    | none => rfl
    | some task =>
      obtain ⟨kind, phase⟩ := task
      cases phase with
      | waiting =>
        simp only [Option.map_some, DisplayTask.masked]
        rw [State.masked_setDisplayTask, State.masked_setDisplayTask, herase, herase,
          State.masked_masked]
      | inserted event => rfl
      | removed => rfl
      | finished => rfl
  | announceCancelled id deviceKey =>
    simp only [step, Action.masked, htask]
    cases state.displayTasks.lookup id with
    | none => rfl
    | some task =>
      obtain ⟨kind, phase⟩ := task
      cases phase with
      | removed =>
        simp only [Option.map_some, DisplayTask.masked]
        rw [State.masked_setDisplayTask, State.masked_setDisplayTask, State.masked_emit,
          State.masked_emit, State.masked_masked]
      | inserted event => rfl
      | waiting => rfl
      | finished => rfl

/-- Runs from alike states on alike actions stay alike. -/
theorem run_masked {first second : State} {actions others : List Action} {one other : State}
    (hstates : first.masked = second.masked)
    (hactions : actions.map Action.masked = others.map Action.masked)
    (hfirst : system.run first actions = some one)
    (hsecond : system.run second others = some other) : one.masked = other.masked := by
  induction actions generalizing first second others with
  | nil =>
    obtain rfl := List.map_eq_nil_iff.mp hactions.symm
    obtain rfl := Option.some.inj hfirst
    obtain rfl := Option.some.inj hsecond
    exact hstates
  | cons action rest ih =>
    cases others with
    | nil => cases hactions
    | cons action' rest' =>
      obtain ⟨hhead, htail⟩ := List.cons.inj hactions
      obtain ⟨next, hnext, hrest⟩ := (system.run_cons_eq_some).mp hfirst
      obtain ⟨next', hnext', hrest'⟩ := (system.run_cons_eq_some).mp hsecond
      refine ih ?_ htail hrest hrest'
      have hstep := step_masked first action
      rw [hstates, hhead, ← step_masked second action'] at hstep
      have hone : step first action = some next := hnext
      have hother : step second action' = some next' := hnext'
      rw [hone, hother] at hstep
      exact Option.some.inj hstep

/-! ## Runs -/

/-- The terminal events that were published, in order. -/
def terminalEvents (state : State) : List PairingEvent :=
  state.broker.events.filter PairingEvent.isTerminal

/-- A cleared terminal event is published as it stands in the masked state. -/
theorem terminalEvents_masked {state : State} (hcleared : TerminalsCleared state) :
    terminalEvents state.masked = terminalEvents state := by
  have hterminal : PairingEvent.isTerminal ∘ PairingEvent.masked = PairingEvent.isTerminal := rfl
  have hevents : state.masked.broker.events = state.broker.events.map PairingEvent.masked := rfl
  rw [terminalEvents, hevents, List.filter_map, hterminal]
  refine (List.map_congr_left fun event hevent ↦ ?_).trans (List.map_id _)
  obtain ⟨hmem, hends⟩ := List.mem_filter.mp hevent
  exact PairingEvent.masked_of_cleared (hcleared event hmem hends)

/-- In every run in which no `cancel_all` takes a display with digit progress, the terminal
events carry no secrets, and neither do the differences between two such runs. -/
theorem terminalsCleared_of_meets (actions : List Action) (final : State)
    (hmeets : system.Meets Unentered State.init actions)
    (hrun : system.run State.init actions = some final) :
    TerminalsCleared final ∧
      ∀ others other, system.Meets Unentered State.init others →
        system.run State.init others = some other →
        actions.map Action.masked = others.map Action.masked →
        terminalEvents final = terminalEvents other := by
  have hcleared : ∀ actions final, system.Meets Unentered State.init actions →
      system.run State.init actions = some final → TerminalsCleared final :=
    fun _ _ hmeets hrun ↦ (system.run_invariant_of_meets clean_step clean_init hmeets hrun).events
  refine ⟨hcleared actions final hmeets hrun, fun others other hmeets' hrun' hactions ↦ ?_⟩
  rw [← terminalEvents_masked (hcleared actions final hmeets hrun),
    ← terminalEvents_masked (hcleared others other hmeets' hrun'),
    run_masked rfl hactions hrun hrun']

/-- A confirmed passkey, a displayed PIN that BlueZ cancels, and a prompt that is swept. -/
def discreetRun (passkey : UInt32) (pincode : String) : List Action :=
  [.prompt (.confirmation passkey) "device", .announcePrompt "pairing-1",
    .display (.pinCode pincode) "device", .announceDisplay "pairing-display-2",
    .respond ⟨.string "pairing-1", .bool true, .absent⟩, .next 0 0, .next 0 0,
    .cancelDisplay "pairing-display-2", .announceCancelled "pairing-display-2" "device",
    .prompt (.service pincode) "device", .announcePrompt "pairing-3",
    .cancelAll "bluez-unavailable", .takeDisplays 1, .next 1 0, .next 1 0]

theorem terminalsCleared_of_discreetRun :
    ∃ final other, system.run State.init (discreetRun 123456 "0000") = some final ∧
      system.run State.init (discreetRun 654321 "9999") = some other ∧
      (terminalEvents final).length = 3 ∧ terminalEvents final = terminalEvents other := by
  refine ⟨_, _, rfl, rfl, rfl, ?_⟩
  exact (terminalsCleared_of_meets (discreetRun 123456 "0000") _ (by decide) rfl).2
    (discreetRun 654321 "9999") _ (by decide) rfl rfl

/-- A keyboard passkey is swept while three of its digits are entered. -/
def sweptPasskeyRun : List Action :=
  [.display (.passkey 123456 3) "device", .announceDisplay "pairing-display-1",
    .cancelAll "bluez-unavailable", .takeDisplays 0, .next 0 0]

theorem not_terminalsCleared_of_sweptPasskeyRun :
    ∃ final, system.run State.init sweptPasskeyRun = some final ∧ ¬TerminalsCleared final := by
  refine ⟨_, rfl, fun hcleared ↦ ?_⟩
  have hlast := (hcleared _ (List.mem_cons_of_mem _ List.mem_cons_self) rfl).entered
  cases hlast

end BtDaemon.Pairing
