import BtDaemon.Obex.Authorization

/-!
# One decision for each incoming transfer

A request is decided when its sender leaves the map of pending requests, and an accepted one
is started when its call registers it among the cancellations. In between it is in neither
map, and its call can still end without starting it. The promise of the broker is kept by the
runs in which no call ends there, no cancellation looks for it there and no number is given
out again.
-/

namespace BtDaemon.Obex.Authorization

open Transition

/-- What a single request is promised. -/
structure Request.Decided (request : Request) : Prop where
  once : request.decisions.length ≤ 1
  decided : request.call.returned = true → request.decisions.length = 1
  started : request.call.returned = true → .answered .accept ∈ request.decisions →
    request.task.isSome = true
  released : request.reserved = false ↔ request.call.returned = true ∧ request.task = none

/-- The promise to every request, which has a number of its own, and to every call of
`cancel_transfer`. -/
structure Promised (state : State) : Prop where
  issued : state.issued.Nodup
  requests : ∀ requestId request, state.requests.lookup requestId = some request →
    request.Decided
  cancels : ∀ answer ∈ state.answers, answer.cancellable = true → answer.result = true

/-- The request is registered with its task or over, as far as its call and its events say. -/
def Request.Settled (request : Request) : Prop :=
  match request.call, request.task with
  | .started, some task => task.registered = true ∨ request.terminal = true
  | .refused, _ | .timedOut, _ | .withdrawn, _ => True
  | _, _ => False

/-- The deadline removes only an undecided request, and no call is dropped once its transfer was
accepted. -/
def Request.Undisturbed (request : Request) : RequestAction → Prop
  | .removeExpired => request.decisions = []
  | .drop => request.call ≠ .starting
  | .dropPrompt => .answered .accept ∉ request.decisions
  | _ => True

/-- A request gets a number that is free, and a cancellation that found nothing pending does not
look for its request while that is handed over. -/
def Undisturbed (state : State) (action : Action) : Prop :=
  match action with
  | .authorize _ => state.sequence ∉ state.issued
  | .own requestId action =>
    ∀ request ∈ state.requests.lookup requestId, request.Undisturbed action
  | .cancelActive requestId true =>
    ∀ request ∈ state.requests.lookup requestId, request.cancelled = true ∨ request.Settled
  | _ => True

instance (request : Request) : Decidable request.Settled := by
  unfold Request.Settled
  split <;> infer_instance

instance (request : Request) (action : RequestAction) :
    Decidable (request.Undisturbed action) := by
  unfold Request.Undisturbed
  split <;> infer_instance

instance (state : State) (action : Action) : Decidable (Undisturbed state action) := by
  unfold Undisturbed
  split <;> infer_instance

/-- The request may still be undecided. -/
def Call.prompting : Call → Bool
  | .registered | .awaiting | .expired | .dropping => true
  | _ => false

/-- The decision that the call may have. -/
def Call.Fits (call : Call) (decision : Decision) : Prop :=
  match call with
  | .registered | .awaiting | .expired | .dropping => ∃ answer, decision = .answered answer
  | .refusing | .refused | .lost => ∃ answer, answer ≠ .accept ∧ decision = .answered answer
  | .starting | .started => decision = .answered .accept
  | .timingOut | .timedOut => decision = .timedOut
  | .withdrawing | .withdrawn => decision = .abandoned

/-- The call has published the terminal event of its request. -/
def Call.closed : Call → Bool
  | .refused | .timedOut | .withdrawn => true
  | _ => false

theorem Call.closed_eq_false {call : Call} (hreturned : call.returned = false) :
    call.closed = false := by
  cases call <;> first | rfl | cases hreturned

/-- How the decisions of a request follow its call. -/
def Call.Explains (call : Call) (decisions : List Decision) : Prop :=
  (decisions = [] ∧ call.prompting = true) ∨ ∃ decision, decisions = [decision] ∧ call.Fits decision

structure Request.Coherent (request : Request) : Prop where
  explains : request.call.Explains request.decisions
  pending : request.pending = true ↔ request.decisions = []
  responder : ∀ decision, request.responder = some decision →
    .answered decision ∈ request.decisions
  channel : ∀ decision, request.channel = some decision → .answered decision ∈ request.decisions
  task : request.task.isSome = true ↔ request.call = .started
  registered : ∀ task, request.task = some task → task.registered = true →
    request.cancellation = true ∨ request.cancelled = true
  cancellation : request.cancellation = true →
    ∃ task, request.task = some task ∧ task.registered = true
  reserved : request.reserved = false ↔ request.call.returned = true ∧ request.call ≠ .started
  closed : request.events.any ObexEvent.isTerminal = request.call.closed

namespace Request.Coherent

variable {request next : Request}

theorem decided (coherent : request.Coherent) : request.Decided := by
  refine ⟨?_, fun hreturned ↦ ?_, fun hreturned haccept ↦ ?_, ?_⟩
  · obtain ⟨hnone, -⟩ | ⟨decision, hone, -⟩ := coherent.explains
    · simp [hnone]
    · simp [hone]
  · obtain ⟨-, hprompting⟩ | ⟨decision, hone, -⟩ := coherent.explains
    · cases hcall : request.call <;> simp [hcall, Call.prompting, Call.returned] at *
    · simp [hone]
  · apply coherent.task.mpr
    obtain ⟨hnone, -⟩ | ⟨decision, hone, hfits⟩ := coherent.explains
    · rw [hnone] at haccept
      cases haccept
    · rw [hone, List.mem_singleton] at haccept
      subst haccept
      cases hcall : request.call <;> simp_all [Call.Fits, Call.returned]
  · have hnone : request.task = none ↔ request.call ≠ .started := by
      rw [← Option.not_isSome_iff_eq_none, coherent.task]
    rw [hnone, coherent.reserved]

/-- A request whose sender is still in the map is undecided, so its call is still prompting. -/
theorem prompting (coherent : request.Coherent) (hpending : request.pending = true) :
    request.call.prompting = true := by
  obtain ⟨-, hprompting⟩ | ⟨decision, hone, -⟩ := coherent.explains
  · exact hprompting
  · rw [coherent.pending.mp hpending] at hone
    cases hone

theorem take (coherent : request.Coherent) (hpending : request.pending = true)
    (decision : AuthorizationDecision) : (request.take decision).Coherent := by
  have hnone := coherent.pending.mp hpending
  have htaken : (request.take decision).decisions = [.answered decision] := by
    simp only [Request.take, hnone, List.nil_append]
  refine { coherent with
    explains := .inr ⟨_, htaken, ?_⟩
    pending := ?_
    responder := fun other hother ↦ ?_
    channel := fun other hother ↦ ?_ }
  · have hprompting := coherent.prompting hpending
    cases hcall : request.call <;>
      simp_all [Request.take, Call.prompting, Call.Fits]
  · rw [htaken]
    simp [Request.take]
  · rw [htaken, ← Option.some.inj hother]
    exact List.mem_singleton_self _
  · have hold := coherent.channel other hother
    rw [hnone] at hold
    cases hold

theorem send (coherent : request.Coherent) {decision : AuthorizationDecision}
    (hresponder : request.responder = some decision) : (request.send decision).Coherent := by
  refine { coherent with
    responder := fun other hother ↦ (by cases hother)
    channel := fun other hother ↦ ?_ }
  simp only [Request.send] at hother
  split at hother
  · rw [← Option.some.inj hother]
    exact coherent.responder decision hresponder
  · exact coherent.channel other hother

theorem monitor (coherent : request.Coherent) {task : Task} {action : Obex.Action}
    (htask : request.task = some task) (hmonitor : request.monitor task action = some next) :
    next.Coherent := by
  unfold Request.monitor at hmonitor
  split at hmonitor
  · obtain ⟨state, -, rfl⟩ := Option.map_eq_some_iff.mp hmonitor
    have hsome : request.task.isSome = true := by rw [htask]; rfl
    refine { coherent with
      task := iff_of_true rfl (coherent.task.mp hsome)
      registered := fun other hother hregistered ↦ ?_
      cancellation := fun hcancellation ↦ ?_ }
    · obtain rfl := Option.some.inj hother
      exact coherent.registered task htask hregistered
    · obtain ⟨other, hother, hregistered⟩ := coherent.cancellation hcancellation
      obtain rfl := Option.some.inj (htask.symm.trans hother)
      exact ⟨_, rfl, hregistered⟩
  · cases hmonitor

theorem unregister (coherent : request.Coherent) {task : Task}
    (htask : request.task = some task) : (request.unregister task).Coherent := by
  have hsome : request.task.isSome = true := by rw [htask]; rfl
  refine { coherent with
    task := iff_of_true rfl (coherent.task.mp hsome)
    registered := fun other hother hregistered ↦ ?_
    cancellation := fun hcancellation ↦ (by cases hcancellation) }
  obtain rfl := Option.some.inj hother
  cases hregistered

/-- The call moves on without ending. -/
theorem moveTo (coherent : request.Coherent) {call : Call}
    (hexplains : call.Explains request.decisions) (hopen : request.call.returned = false)
    (hreturned : call.returned = false) : Request.Coherent { request with call := call } := by
  refine { coherent with
    explains := hexplains
    task := iff_of_false (fun htask ↦ ?_) fun hcall ↦ ?_
    reserved := iff_of_false (fun hreserved ↦ ?_) fun hcall ↦ ?_
    closed := ?_ }
  · rw [coherent.task.mp htask] at hopen
    cases hopen
  · rw [show call = .started from hcall] at hreturned
    cases hreturned
  · rw [(coherent.reserved.mp hreserved).1] at hopen
    cases hopen
  · exact Bool.false_ne_true (hreturned.symm.trans hcall.1)
  · rw [show call.closed = false from Call.closed_eq_false hreturned,
      ← Call.closed_eq_false hopen]
    exact coherent.closed

/-- The call ends without starting the transfer. -/
theorem release (coherent : request.Coherent) {call : Call} {events : List ObexEvent}
    (hexplains : call.Explains request.decisions) (hopen : request.call.returned = false)
    (hreturned : call.returned = true) (hstarted : call ≠ .started)
    (hclosed : events.any ObexEvent.isTerminal = call.closed) :
    Request.Coherent ({ request with events := events }.release call) := by
  refine { coherent with
    explains := hexplains
    task := iff_of_false (fun htask ↦ ?_) hstarted
    reserved := iff_of_true rfl ⟨hreturned, hstarted⟩
    closed := hclosed }
  rw [coherent.task.mp htask] at hopen
  cases hopen

theorem publish (coherent : request.Coherent) {event : ObexEvent}
    (hevent : event.isTerminal = false) : (request.publish event).Coherent := by
  refine { coherent with closed := ?_ }
  simpa [Request.publish, hevent] using coherent.closed

theorem startIncoming (coherent : request.Coherent) (hcall : request.call = .starting) :
    request.startIncoming.Coherent := by
  have hexplains := coherent.explains
  rw [hcall] at hexplains
  refine { coherent with
    explains := hexplains
    task := iff_of_true rfl rfl
    registered := fun _ _ _ ↦ .inl rfl
    cancellation := fun _ ↦ ⟨_, rfl, rfl⟩
    reserved := iff_of_false (fun hreserved ↦ ?_) fun hstarted ↦ hstarted.2 rfl
    closed := ?_ }
  · have hreturned := (coherent.reserved.mp hreserved).1
    rw [hcall] at hreturned
    cases hreturned
  · have hclosed := coherent.closed
    rw [hcall] at hclosed
    exact hclosed

theorem cancelPending (coherent : request.Coherent) (hpending : request.pending = true) :
    request.cancelPending.Coherent :=
  { coherent.take hpending .cancel with registered := fun _ _ _ ↦ .inr rfl }

/-- The request leaves the pending ones undecided, and its call decides it. -/
theorem retire (coherent : request.Coherent) {call : Call} {decision : Decision}
    (hundecided : request.decisions = []) (hfits : call.Fits decision)
    (hopen : request.call.returned = false) (hreturned : call.returned = false) :
    Request.Coherent { request with
      pending := false, call := call, decisions := request.decisions ++ [decision] } := by
  have hdecided : request.decisions ++ [decision] = [decision] := by rw [hundecided, List.nil_append]
  have hnone : ∀ answer, .answered answer ∉ request.decisions := by simp [hundecided]
  refine { coherent with
    explains := .inr ⟨_, hdecided, hfits⟩
    pending := by simp
    responder := fun answer hsome ↦ absurd (coherent.responder answer hsome) (hnone answer)
    channel := fun answer hsome ↦ absurd (coherent.channel answer hsome) (hnone answer)
    task := iff_of_false (fun htask ↦ ?_) fun hstarted ↦ ?_
    reserved := iff_of_false (fun hreserved ↦ ?_) fun hended ↦ ?_
    closed := ?_ }
  · rw [coherent.task.mp htask] at hopen
    cases hopen
  · rw [show call = .started from hstarted] at hreturned
    cases hreturned
  · rw [(coherent.reserved.mp hreserved).1] at hopen
    cases hopen
  · exact Bool.false_ne_true (hreturned.symm.trans hended.1)
  · rw [show call.closed = false from Call.closed_eq_false hreturned, ← Call.closed_eq_false hopen]
    exact coherent.closed

theorem dropPrompt (coherent : request.Coherent) (hcall : request.call = .dropping)
    (hrefused : .answered .accept ∉ request.decisions) : request.dropPrompt.Coherent := by
  have hopen : request.call.returned = false := by rw [hcall]; rfl
  have hexplains := coherent.explains
  unfold Request.dropPrompt
  split
  · next hpending =>
    exact coherent.retire (coherent.pending.mp hpending) rfl hopen rfl
  · next hpending =>
    obtain ⟨hnone, -⟩ | ⟨decision, hone, hfits⟩ := hexplains
    · exact absurd (coherent.pending.mpr hnone) hpending
    · rw [hcall] at hfits
      obtain ⟨answer, rfl⟩ := hfits
      refine coherent.release (.inr ⟨_, hone, answer, ?_, rfl⟩) hopen rfl (by decide) ?_
      · rintro rfl
        exact hrefused (by rw [hone]; exact List.mem_singleton_self _)
      · exact coherent.closed.trans (by rw [hcall]; rfl)

theorem eq_of_answered (coherent : request.Coherent) {decision : AuthorizationDecision}
    (hmem : .answered decision ∈ request.decisions) :
    request.decisions = [.answered decision] := by
  obtain ⟨hnone, -⟩ | ⟨other, hone, -⟩ := coherent.explains
  · rw [hnone] at hmem
    cases hmem
  · rw [hone, List.mem_singleton] at hmem
    rw [hone, hmem]

theorem receive (coherent : request.Coherent) (hcall : request.call = .awaiting)
    (hstep : request.step .receive = some next) : next.Coherent := by
  have hopen : request.call.returned = false := by rw [hcall]; rfl
  simp only [Request.step, hcall] at hstep
  split at hstep
  · cases hstep
  · next hchannel =>
    obtain rfl := Option.some.inj hstep
    have hone := coherent.eq_of_answered (coherent.channel _ hchannel)
    exact coherent.moveTo (.inr ⟨_, hone, rfl⟩) hopen rfl
  · next hchannel =>
    obtain rfl := Option.some.inj hstep
    have hone := coherent.eq_of_answered (coherent.channel _ hchannel)
    exact coherent.moveTo (.inr ⟨_, hone, _, by decide, rfl⟩) hopen rfl
  · next hchannel =>
    obtain rfl := Option.some.inj hstep
    have hone := coherent.eq_of_answered (coherent.channel _ hchannel)
    exact coherent.moveTo (.inr ⟨_, hone, _, by decide, rfl⟩) hopen rfl

/-- The call publishes its terminal event and ends. -/
theorem close (coherent : request.Coherent) {call : Call} {event : ObexEvent}
    (hexplains : call.Explains request.decisions) (hopen : request.call.returned = false)
    (hreturned : call.returned = true) (hstarted : call ≠ .started)
    (hevent : event.isTerminal = true) (hclosed : call.closed = true) :
    ((request.publish event).release call).Coherent :=
  coherent.release hexplains hopen hreturned hstarted (by simp [hevent, hclosed])

theorem step (coherent : request.Coherent) {action : RequestAction}
    (hstep : request.step action = some next) (hundisturbed : request.Undisturbed action) :
    next.Coherent := by
  have hexplains := coherent.explains
  have hopen : ∀ {call : Call}, request.call = call → call.returned = false →
      request.call.returned = false := fun hcall hreturned ↦ by rw [hcall, hreturned]
  by_cases hreceive : request.call = .awaiting ∧ action = .receive
  · obtain ⟨hcall, rfl⟩ := hreceive
    exact coherent.receive hcall hstep
  unfold Request.step at hstep
  split at hstep
  · next hcall =>
    obtain rfl := Option.some.inj hstep
    rw [hcall] at hexplains
    exact (coherent.publish rfl).moveTo hexplains (hopen hcall rfl) rfl
  · next hcall => exact absurd ⟨hcall, rfl⟩ hreceive
  · next hcall =>
    rw [hcall] at hexplains
    split at hstep
    · obtain rfl := Option.some.inj hstep
      exact coherent.moveTo hexplains (hopen hcall rfl) rfl
    · cases hstep
  · next hcall =>
    obtain rfl := Option.some.inj hstep
    rw [hcall] at hexplains
    exact coherent.moveTo hexplains (hopen hcall rfl) rfl
  · next hcall =>
    obtain rfl := Option.some.inj hstep
    exact coherent.retire hundisturbed rfl (hopen hcall rfl) rfl
  · next hcall =>
    obtain rfl := Option.some.inj hstep
    rw [hcall] at hexplains
    obtain ⟨-, hprompting⟩ | hexplains := hexplains
    · cases hprompting
    · exact coherent.close (.inr hexplains) (hopen hcall rfl) rfl (by decide) rfl rfl
  · next hcall =>
    obtain rfl := Option.some.inj hstep
    rw [hcall] at hexplains
    obtain ⟨-, hprompting⟩ | hexplains := hexplains
    · cases hprompting
    · exact coherent.close (.inr hexplains) (hopen hcall rfl) rfl (by decide) rfl rfl
  · next hcall =>
    obtain rfl := Option.some.inj hstep
    exact coherent.startIncoming hcall
  · next hcall => exact absurd hcall hundisturbed
  · next hcall =>
    obtain rfl := Option.some.inj hstep
    exact coherent.dropPrompt hcall hundisturbed
  · next hcall =>
    obtain rfl := Option.some.inj hstep
    rw [hcall] at hexplains
    obtain ⟨-, hprompting⟩ | hexplains := hexplains
    · cases hprompting
    · exact coherent.close (.inr hexplains) (hopen hcall rfl) rfl (by decide) rfl rfl
  · obtain ⟨decision, hresponder, rfl⟩ := Option.map_eq_some_iff.mp hstep
    exact coherent.send hresponder
  · obtain ⟨task, htask, hmonitor⟩ := Option.bind_eq_some_iff.mp hstep
    exact coherent.monitor htask hmonitor
  · obtain ⟨task, htask, hunregister⟩ := Option.bind_eq_some_iff.mp hstep
    split at hunregister
    · obtain rfl := Option.some.inj hunregister
      exact coherent.unregister htask
    · cases hunregister
  · cases hstep

/-- A registered or finished request is no longer promised to be cancelled, or still can be. -/
theorem answers (coherent : request.Coherent) (hcancellation : request.cancellation = false)
    (hsettled : request.cancelled = true ∨ request.Settled) : request.cancellable = false := by
  have hterminal : request.terminal = true → request.cancellable = false := fun h ↦ by
    simp [Request.cancellable, h]
  rcases hsettled with hcancelled | hsettled
  · simp [Request.cancellable, hcancelled]
  · have hclosed := coherent.closed
    unfold Request.Settled at hsettled
    split at hsettled
    · next task hcall htask =>
      rcases hsettled with hregistered | hdone
      · rcases coherent.registered task htask hregistered with hheld | hcancelled
        · cases hcancellation.symm.trans hheld
        · simp [Request.cancellable, hcancelled]
      · exact hterminal hdone
    all_goals first
      | exact hsettled.elim
      | next hcall =>
        rw [hcall] at hclosed
        exact hterminal (by rw [Request.terminal, hclosed]; rfl)

/-- While it is handed over, a request is promised to be cancelled and is in neither map. -/
theorem unanswered (coherent : request.Coherent) (hannounced : request.call.announced = true)
    (hcancelled : request.cancelled = false) (hsettled : ¬request.Settled) :
    request.cancellation = false ∧ request.cancellable = true := by
  have hstarted : ∀ task, request.task = some task →
      task.registered = false ∧ request.terminal = false := by
    intro task htask
    have hcall := coherent.task.mp (by rw [htask]; rfl)
    simp only [Request.Settled, hcall, htask, not_or, Bool.not_eq_true] at hsettled
    exact hsettled
  have hclosed : request.call.closed = false := by
    by_contra hclosed
    rw [Bool.not_eq_false] at hclosed
    apply hsettled
    cases hcall : request.call <;> simp_all [Call.closed, Request.Settled]
  have hterminal : request.terminal = false := by
    cases htask : request.task with
    | some task => exact (hstarted task htask).2
    | none =>
      rw [Request.terminal, coherent.closed, hclosed, htask]
      rfl
  refine ⟨?_, by simp [Request.cancellable, hannounced, hcancelled, hterminal]⟩
  by_contra hheld
  rw [Bool.not_eq_false] at hheld
  obtain ⟨task, htask, hregistered⟩ := coherent.cancellation hheld
  cases hregistered.symm.trans (hstarted task htask).1

end Request.Coherent

/-- Announced, and no longer pending. -/
def Request.Taken (request : Request) : Prop :=
  request.call.announced = true ∧ request.pending = false

theorem Request.Taken.step {request next : Request} {action : RequestAction}
    (htaken : request.Taken) (hstep : request.step action = some next) : next.Taken := by
  obtain ⟨hannounced, hpending⟩ := htaken
  unfold Request.step at hstep
  split at hstep
  · next hcall =>
    rw [hcall] at hannounced
    cases hannounced
  · split at hstep
    · cases hstep
    all_goals
      obtain rfl := Option.some.inj hstep
      exact ⟨rfl, hpending⟩
  · split at hstep
    · obtain rfl := Option.some.inj hstep
      exact ⟨rfl, hpending⟩
    · cases hstep
  · obtain rfl := Option.some.inj hstep
    exact ⟨rfl, hpending⟩
  · obtain rfl := Option.some.inj hstep
    exact ⟨rfl, rfl⟩
  · obtain rfl := Option.some.inj hstep
    exact ⟨rfl, hpending⟩
  · obtain rfl := Option.some.inj hstep
    exact ⟨rfl, hpending⟩
  · obtain rfl := Option.some.inj hstep
    exact ⟨rfl, hpending⟩
  · obtain rfl := Option.some.inj hstep
    exact ⟨rfl, hpending⟩
  · obtain rfl := Option.some.inj hstep
    rw [Request.dropPrompt, hpending, if_neg Bool.false_ne_true]
    exact ⟨rfl, hpending⟩
  · obtain rfl := Option.some.inj hstep
    exact ⟨rfl, hpending⟩
  · obtain ⟨decision, -, rfl⟩ := Option.map_eq_some_iff.mp hstep
    exact ⟨hannounced, hpending⟩
  · obtain ⟨task, -, hmonitor⟩ := Option.bind_eq_some_iff.mp hstep
    unfold Request.monitor at hmonitor
    split at hmonitor
    · obtain ⟨state, -, rfl⟩ := Option.map_eq_some_iff.mp hmonitor
      exact ⟨hannounced, hpending⟩
    · cases hmonitor
  · obtain ⟨task, -, hunregister⟩ := Option.bind_eq_some_iff.mp hstep
    split at hunregister
    · obtain rfl := Option.some.inj hunregister
      exact ⟨hannounced, hpending⟩
    · cases hunregister
  · cases hstep

/-- The requests are coherent, their numbers were given out once, and a call that waits for the
lock of the cancellations has found its request taken. -/
structure Coherent (state : State) : Prop where
  issued : state.issued.Nodup
  requests : ∀ requestId request, state.requests.lookup requestId = some request →
    request.Coherent
  used : ∀ requestId, (state.requests.lookup requestId).isSome → requestId ∈ state.issued
  waiting : ∀ requestId, (requestId, true) ∈ state.waiting →
    ∃ request, state.requests.lookup requestId = some request ∧ request.Taken
  cancels : ∀ answer ∈ state.answers, answer.cancellable = true → answer.result = true

namespace Coherent

variable {state : State}

theorem promised (coherent : Coherent state) : Promised state where
  issued := coherent.issued
  requests requestId request hlookup := (coherent.requests requestId request hlookup).decided
  cancels := coherent.cancels

/-- One request changes, and stays taken if it was. -/
theorem setRequest (coherent : Coherent state) {requestId : UInt64} {request next : Request}
    (hlookup : state.requests.lookup requestId = some request) (hnext : next.Coherent)
    (htaken : request.Taken → next.Taken) : Coherent (state.setRequest requestId next) where
  issued := coherent.issued
  requests other found hother := by
    rw [State.setRequest, Table.lookup_insert] at hother
    split at hother
    · rw [← Option.some.inj hother]
      exact hnext
    · exact coherent.requests other found hother
  used other hsome := by
    rw [State.setRequest, Table.lookup_insert] at hsome
    split at hsome
    · next hsame =>
      rw [hsame]
      exact coherent.used requestId (by rw [hlookup]; rfl)
    · exact coherent.used other hsome
  waiting other hwaiting := by
    obtain ⟨found, hfound, hother⟩ := coherent.waiting other hwaiting
    rw [State.setRequest, Table.lookup_insert]
    split
    · next hsame =>
      rw [hsame, hlookup] at hfound
      obtain rfl := Option.some.inj hfound
      exact ⟨next, rfl, htaken hother⟩
    · exact ⟨found, hfound, hother⟩
  cancels := coherent.cancels

theorem answer (coherent : Coherent state) {requestId : UInt64} {cancellable result : Bool}
    (hresult : cancellable = true → result = true) :
    Coherent (state.answer requestId cancellable result) :=
  { coherent with
    cancels := by
      intro answer hanswer hcancellable
      rcases List.mem_append.mp hanswer with hold | hnew
      · exact coherent.cancels answer hold hcancellable
      · rw [List.mem_singleton.mp hnew] at hcancellable ⊢
        exact hresult hcancellable }

theorem setWaiting (coherent : Coherent state) {waiting : List (UInt64 × Bool)}
    (hwaiting : ∀ requestId, (requestId, true) ∈ waiting →
      ∃ request, state.requests.lookup requestId = some request ∧ request.Taken) :
    Coherent { state with waiting := waiting } :=
  { coherent with waiting := hwaiting }

theorem authorize (coherent : Coherent state) (authorization : IncomingAuthorization)
    (hfree : state.sequence ∉ state.issued) : Coherent (state.authorize authorization) where
  issued := List.nodup_cons.mpr ⟨hfree, coherent.issued⟩
  requests other found hother := by
    rw [State.authorize, Table.lookup_insert] at hother
    split at hother
    · rw [← Option.some.inj hother]
      exact ⟨.inl ⟨rfl, rfl⟩, by simp [Request.register], by simp [Request.register],
        by simp [Request.register], by simp [Request.register], by simp [Request.register],
        by simp [Request.register], by simp [Request.register, Call.returned], rfl⟩
    · exact coherent.requests other found hother
  used other hsome := by
    rw [State.authorize, Table.lookup_insert] at hsome
    split at hsome
    · next hsame =>
      rw [hsame]
      exact List.mem_cons_self
    · exact List.mem_cons_of_mem _ (coherent.used other hsome)
  waiting other hwaiting := by
    obtain ⟨found, hfound, hother⟩ := coherent.waiting other hwaiting
    have hused := coherent.used other (by rw [hfound]; rfl)
    rw [State.authorize, Table.lookup_insert, if_neg (ne_of_mem_of_not_mem hused hfree)]
    exact ⟨found, hfound, hother⟩
  cancels := coherent.cancels

theorem cancelAuthorizations (coherent : Coherent state) :
    Coherent state.cancelAuthorizations where
  issued := coherent.issued
  requests other found hother := by
    rw [State.cancelAuthorizations, Table.lookup_mapValues] at hother
    obtain ⟨request, hlookup, rfl⟩ := Option.map_eq_some_iff.mp hother
    split
    · next hpending => exact (coherent.requests other request hlookup).cancelPending hpending
    · exact coherent.requests other request hlookup
  used other hsome := by
    rw [State.cancelAuthorizations, Table.lookup_mapValues, Option.isSome_map] at hsome
    exact coherent.used other hsome
  waiting other hwaiting := by
    obtain ⟨found, hfound, hother⟩ := coherent.waiting other hwaiting
    rw [State.cancelAuthorizations, Table.lookup_mapValues, hfound]
    refine ⟨_, rfl, ?_⟩
    simpa only [hother.2, Bool.false_eq_true, if_false] using hother
  cancels := coherent.cancels

theorem respond (coherent : Coherent state) {next : State} {requestId : UInt64} {accept : Bool}
    (hrespond : state.respond requestId accept = .ok next) : Coherent next := by
  unfold State.respond at hrespond
  split at hrespond
  · next request hlookup =>
    split at hrespond
    · next hpending =>
      cases hrespond
      apply coherent.setRequest hlookup ((coherent.requests _ _ hlookup).take hpending _)
      exact fun htaken ↦ ⟨htaken.1, rfl⟩
    · cases hrespond
  · cases hrespond

theorem cancelTransfer (coherent : Coherent state) (requestId : UInt64) :
    Coherent (state.cancelTransfer requestId) := by
  have hold : ∀ other announced, (other, true) ∈ state.waiting ++ [(requestId, announced)] →
      (announced = true → ∃ request, state.requests.lookup requestId = some request ∧
        request.Taken) →
      ∃ request, state.requests.lookup other = some request ∧ request.Taken := by
    intro other announced hmem hfound
    rcases List.mem_append.mp hmem with hwaiting | hnew
    · exact coherent.waiting other hwaiting
    · obtain ⟨rfl, rfl⟩ := Prod.mk.inj (List.mem_singleton.mp hnew)
      exact hfound rfl
  unfold State.cancelTransfer
  split
  · next request hlookup =>
    split
    · next hpending =>
      refine Coherent.answer ?_ fun _ ↦ rfl
      refine coherent.setRequest hlookup
        ((coherent.requests _ _ hlookup).cancelPending hpending) ?_
      exact fun htaken ↦ ⟨htaken.1, rfl⟩
    · next hpending =>
      refine coherent.setWaiting fun other hmem ↦ hold other _ hmem fun hannounced ↦ ?_
      exact ⟨request, hlookup, hannounced, Bool.eq_false_iff.mpr hpending⟩
  · exact coherent.setWaiting fun other hmem ↦ hold other _ hmem fun hfalse ↦ (by cases hfalse)

theorem cancelActive (coherent : Coherent state) {requestId : UInt64} {announced : Bool}
    (hundisturbed : Undisturbed state (.cancelActive requestId announced)) :
    Coherent (state.cancelActive requestId announced) := by
  have hwaited : Coherent { state with waiting := state.waiting.erase (requestId, announced) } :=
    coherent.setWaiting fun other hmem ↦ coherent.waiting other (List.mem_of_mem_erase hmem)
  simp only [State.cancelActive]
  split
  · next request hlookup =>
    have hrequest := coherent.requests requestId request hlookup
    split
    · refine Coherent.answer ?_ fun _ ↦ rfl
      refine hwaited.setRequest hlookup ?_ id
      exact { hrequest with
        registered := fun _ _ _ ↦ .inr rfl
        cancellation := fun hcancellation ↦ (by cases hcancellation) }
    · next hcancellation =>
      apply hwaited.answer
      intro hcancellable
      rw [Bool.and_eq_true] at hcancellable
      obtain ⟨rfl, hcancellable⟩ := hcancellable
      rw [hrequest.answers (Bool.eq_false_iff.mpr hcancellation)
        (hundisturbed request hlookup)] at hcancellable
      cases hcancellable
  · exact hwaited.answer fun hfalse ↦ (by cases hfalse)

/-- One step of a run. -/
theorem step (state : State) (action : Action) (next : State) (coherent : Coherent state)
    (hstep : broker.step state action = some next) (hundisturbed : Undisturbed state action) :
    Coherent next := by
  cases action with
  | authorize authorization =>
    obtain rfl := Option.some.inj hstep
    exact coherent.authorize authorization hundisturbed
  | own requestId action =>
    obtain ⟨request, hlookup, hown⟩ := Option.bind_eq_some_iff.mp hstep
    obtain ⟨changed, hchanged, rfl⟩ := Option.map_eq_some_iff.mp hown
    exact coherent.setRequest hlookup
      ((coherent.requests _ _ hlookup).step hchanged (hundisturbed request hlookup))
      fun htaken ↦ htaken.step hchanged
  | respond requestId accept =>
    simp only [broker] at hstep
    split at hstep
    · next hrespond =>
      obtain rfl := Option.some.inj hstep
      exact coherent.respond hrespond
    · obtain rfl := Option.some.inj hstep
      exact coherent
  | cancelTransfer requestId =>
    obtain rfl := Option.some.inj hstep
    exact coherent.cancelTransfer requestId
  | cancelActive requestId announced =>
    simp only [broker] at hstep
    split at hstep
    · obtain rfl := Option.some.inj hstep
      exact coherent.cancelActive hundisturbed
    · cases hstep
  | cancelAuthorizations =>
    obtain rfl := Option.some.inj hstep
    exact coherent.cancelAuthorizations

theorem init : Coherent State.init where
  issued := List.nodup_nil
  requests _ _ hlookup := by cases hlookup
  used _ hsome := by cases hsome
  waiting _ hmem := by cases hmem
  cancels _ hmem := by cases hmem

end Coherent

/-- A single request that changed is promised as much as every other. -/
theorem Promised.decided {state : State} {requestId : UInt64} {request : Request}
    (promised : Promised (state.setRequest requestId request)) : request.Decided :=
  promised.requests requestId request (by rw [State.setRequest, Table.lookup_insert, if_pos rfl])

/-- A step of a call that keeps its promise has met the condition. -/
theorem Request.Coherent.undisturbed {request next : Request} {action : RequestAction}
    (coherent : request.Coherent) (hstep : request.step action = some next)
    (hdecided : next.Decided) : request.Undisturbed action := by
  have hlost : ∀ lost : Request, lost.Decided → lost.call = .lost → lost.task = none →
      .answered .accept ∉ lost.decisions := by
    intro lost hlost hcall htask haccept
    have hsome := hlost.started (by rw [hcall]; rfl) haccept
    rw [htask] at hsome
    cases hsome
  have hnone : request.call ≠ .started → request.task = none := fun hcall ↦ by
    rw [← Option.not_isSome_iff_eq_none, coherent.task]
    exact hcall
  cases action with
  | removeExpired =>
    cases hcall : request.call <;> simp only [Request.step, hcall] at hstep <;> try cases hstep
    have honce := hdecided.once
    simp only [Request.removeExpired, List.length_append, List.length_singleton] at honce
    exact List.eq_nil_of_length_eq_zero (by omega)
  | drop =>
    intro hcall
    simp only [Request.step, hcall] at hstep
    obtain rfl := Option.some.inj hstep
    apply hlost _ hdecided rfl (hnone (by rw [hcall]; decide))
    have hexplains := coherent.explains
    rw [hcall] at hexplains
    obtain ⟨-, hprompting⟩ | ⟨decision, hone, hfits⟩ := hexplains
    · cases hprompting
    · change .answered .accept ∈ request.decisions
      rw [hone, show decision = .answered .accept from hfits]
      exact List.mem_singleton_self _
  | dropPrompt =>
    intro haccept
    have hpending : request.pending = false := by
      rw [← Bool.not_eq_true, coherent.pending]
      exact List.ne_nil_of_mem haccept
    cases hcall : request.call <;> simp only [Request.step, hcall] at hstep <;> try cases hstep
    rw [Request.dropPrompt, hpending, if_neg Bool.false_ne_true] at hdecided
    exact hlost _ hdecided rfl (hnone (by rw [hcall]; decide)) haccept
  | _ => trivial

theorem undisturbed_of_promised (state : State) (action : Action) (next : State)
    (coherent : Coherent state) (hstep : broker.step state action = some next)
    (promised : Promised next) : Undisturbed state action := by
  cases action with
  | authorize authorization =>
    obtain rfl := Option.some.inj hstep
    exact (List.nodup_cons.mp promised.issued).1
  | own requestId action =>
    intro request hlookup
    obtain ⟨found, hfound, hown⟩ := Option.bind_eq_some_iff.mp hstep
    obtain rfl := Option.some.inj (hlookup.symm.trans hfound)
    obtain ⟨changed, hchanged, rfl⟩ := Option.map_eq_some_iff.mp hown
    exact (coherent.requests _ _ hlookup).undisturbed hchanged promised.decided
  | cancelActive requestId announced =>
    cases announced with
    | false => trivial
    | true =>
      intro request hlookup
      by_contra hhanded
      obtain ⟨hcancelled, hsettled⟩ := not_or.mp hhanded
      simp only [broker] at hstep
      split at hstep
      · next hwaiting =>
        obtain rfl := Option.some.inj hstep
        obtain ⟨found, hfound, hannounced, -⟩ := coherent.waiting requestId hwaiting
        obtain rfl := Option.some.inj (hlookup.symm.trans hfound)
        obtain ⟨hcancellation, hcancellable⟩ := (coherent.requests _ _ hlookup).unanswered
          hannounced (Bool.eq_false_iff.mpr hcancelled) hsettled
        have hanswer : ⟨requestId, true, false⟩ ∈ (state.cancelActive requestId true).answers := by
          simp [State.cancelActive, hfound, hcancellation, hcancellable, State.answer]
        cases promised.cancels _ hanswer rfl
      · cases hstep
  | _ => trivial

/-- The broker keeps its promise in every state of a run exactly when no step of the run ends
or cancels a request that is being handed over, or gives a number out again. -/
theorem always_promised_iff {actions : List Action} {final : State}
    (hrun : broker.run State.init actions = some final) :
    broker.Always Promised State.init actions ↔
      broker.Meets Undisturbed State.init actions :=
  broker.always_iff_meets (fun _ coherent ↦ coherent.promised) Coherent.step
    undisturbed_of_promised Coherent.init hrun

/-- A photo that a peer wants to send. -/
def photo : IncomingAuthorization := ⟨"", "device", "Phone", "photo.jpg", none, 400⟩

/-- The photo is accepted and received, while a second one is cancelled by its sender. -/
def acceptedRun : List Action :=
  [.authorize photo, .own 1 .announce, .authorize photo, .own 2 .announce, .respond 1 true,
    .own 1 .send, .own 1 .receive, .own 1 .startIncoming, .cancelAuthorizations, .own 2 .send,
    .own 2 .receive, .own 2 .rejectAuthorization, .own 1 (.monitor .begin),
    .own 1 (.monitor (.refreshed ⟨some "complete", some 400, some 400⟩)), .cancelTransfer 1,
    .cancelActive 1 true, .own 1 .unregister, .own 1 (.monitor .finish)]

theorem always_promised_of_acceptedRun : broker.Always Promised State.init acceptedRun :=
  (always_promised_iff (by rfl : broker.run State.init acceptedRun = some _)).mpr (by decide)

/-- The photo is accepted, and cancelled before its call has registered the transfer. -/
def handedOverRun : List Action :=
  [.authorize photo, .own 1 .announce, .respond 1 true, .own 1 .send, .own 1 .receive,
    .cancelTransfer 1, .cancelActive 1 true, .own 1 .startIncoming]

/-- The photo is accepted after its deadline has passed. -/
def expiredRun : List Action :=
  [.authorize photo, .own 1 .announce, .own 1 .expire, .respond 1 true, .own 1 .send,
    .own 1 .removeExpired, .own 1 .publishExpired]

/-- A cancellation finds the accepted transfer nowhere and it starts all the same, and an
accepted transfer never starts. -/
theorem not_promised_of_handover :
    (∃ final, broker.run State.init handedOverRun = some final ∧
      final.answers = [⟨1, true, false⟩] ∧
      (final.requests.lookup 1).map Request.call = some .started ∧ ¬Promised final) ∧
    ∃ final, broker.run State.init expiredRun = some final ∧
      (final.requests.lookup 1).map Request.decisions = some [.answered .accept, .timedOut] ∧
      (final.requests.lookup 1).map Request.call = some .timedOut ∧ ¬Promised final := by
  refine ⟨⟨_, rfl, rfl, rfl, fun promised ↦ ?_⟩, ⟨_, rfl, rfl, rfl, fun promised ↦ ?_⟩⟩
  · cases promised.cancels ⟨1, true, false⟩ (List.mem_singleton_self _) rfl
  · have honce := (promised.requests 1 _ rfl).once
    cases honce with
    | step hless => cases hless

end BtDaemon.Obex.Authorization
