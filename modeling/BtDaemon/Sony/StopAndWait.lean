import Mathlib.Data.List.Nodup
import BtDaemon.Sony.Session

/-!
# Stop and wait

What a Sony session writes and reports, for every order in which commands, headphone messages,
ACKs and deadlines come. The second half is about progress: an answer or a result that is due
comes after a number of steps of the writer that only later headphone messages can raise.
-/

namespace BtDaemon.Sony.Session

/-! ## What holds in every run -/

/-- A command is begun when no other awaits its outcome, and with the sequence of the last ACK
accepted before it. An outcome is that of the one command that awaits it. -/
def Allowed (before : List Event) : Event → Prop
  | .command _ sequence =>
    begun before = (settled before).map Prod.fst ∧ sequence = lastAccepted before
  | .answer _ => True
  | .accepted command _ => begun before = (settled before).map Prod.fst ++ [command]
  | .timedOut command => begun before = (settled before).map Prod.fst ++ [command]

/-- What the completion sender of a settled command is given. -/
def given (outcome : Command × Reply) : Option (ℕ × Reply) :=
  outcome.1.done.map fun done ↦ (done, outcome.2)

structure Invariant (state : State) : Prop where
  causal : EventLog.Causal Allowed state.log
  awaited : ∃ awaiting : Option Command,
    begun state.log = (settled state.log).map Prod.fst ++ awaiting.toList ∧
      (state.phase.live → awaiting = state.phase.current)
  begun_inOrder : begun state.log <+: state.queued
  queued_eq : state.phase.live → state.queued = begun state.log ++ state.commands
  answered_inOrder : answered state.log <+: state.messages.map fun sequence ↦ sequence ^^^ 1
  messages_eq : state.phase.live → state.messages.map (fun sequence ↦ sequence ^^^ 1) =
    answered state.log ++ state.phase.answer.toList ++ state.acks.map fun sequence ↦ sequence ^^^ 1
  sequence_eq : state.sequence = lastAccepted state.log
  results_eq : state.results = (settled state.log).filterMap given
  senders_eq : state.queued.filterMap Command.done = List.range state.senders

theorem invariant_init : Invariant init where
  causal := EventLog.causal_nil Allowed
  awaited := ⟨none, rfl, fun _ ↦ rfl⟩
  begun_inOrder := List.prefix_refl _
  queued_eq _ := rfl
  answered_inOrder := List.prefix_refl _
  messages_eq _ := rfl
  sequence_eq := rfl
  results_eq := rfl
  senders_eq := rfl

/-- The session may end in any state. -/
theorem Invariant.ended {state : State} (hinv : Invariant state) :
    Invariant { state with phase := .ended } where
  causal := hinv.causal
  awaited := by
    obtain ⟨awaiting, hbegun, -⟩ := hinv.awaited
    exact ⟨awaiting, hbegun, fun hlive ↦ absurd rfl hlive⟩
  begun_inOrder := hinv.begun_inOrder
  queued_eq hlive := absurd rfl hlive
  answered_inOrder := hinv.answered_inOrder
  messages_eq hlive := absurd rfl hlive
  sequence_eq := hinv.sequence_eq
  results_eq := hinv.results_eq
  senders_eq := hinv.senders_eq

/-! ### The queues -/

/-- What the writer does not see until it takes it from a queue. -/
theorem Invariant.enqueue {state : State} {command : Command} {senders : ℕ}
    (hinv : Invariant state)
    (hsenders : (state.queued ++ [command]).filterMap Command.done = List.range senders) :
    Invariant (Session.enqueue { state with senders } command) where
  causal := hinv.causal
  awaited := hinv.awaited
  begun_inOrder := hinv.begun_inOrder.trans (List.prefix_append _ _)
  queued_eq hlive := by
    rw [Session.enqueue, ← List.append_assoc, ← hinv.queued_eq hlive]
  answered_inOrder := hinv.answered_inOrder
  messages_eq := hinv.messages_eq
  sequence_eq := hinv.sequence_eq
  results_eq := hinv.results_eq
  senders_eq := hsenders

theorem Invariant.enqueue_background {state : State} (hinv : Invariant state)
    (payload : List UInt8) : Invariant (Session.enqueue state ⟨payload, none⟩) := by
  have hsenders : (state.queued ++ [(⟨payload, none⟩ : Command)]).filterMap Command.done =
      List.range state.senders := by
    rw [List.filterMap_append, hinv.senders_eq]
    exact List.append_nil _
  exact hinv.enqueue hsenders

theorem Invariant.trySend {state : State} (hinv : Invariant state) (capacity : Capacities)
    (payload : List UInt8) : Invariant (trySend capacity state payload) := by
  rw [Session.trySend]
  split
  · exact hinv.enqueue_background payload
  · exact hinv

theorem Invariant.applyCommand {state : State} (hinv : Invariant state) (capacity : Capacities)
    (payload : List UInt8) : Invariant (applyCommand capacity state payload) := by
  rw [Session.applyCommand]
  split
  · exact List.foldlRecOn queries (Session.trySend capacity) hinv
      fun state hstate payload _ ↦ hstate.trySend capacity payload
  · exact hinv

theorem Invariant.queueAck {state : State} (hinv : Invariant state) (sequence : UInt8) :
    Invariant (queueAck state sequence) where
  causal := hinv.causal
  awaited := hinv.awaited
  begun_inOrder := hinv.begun_inOrder
  queued_eq := hinv.queued_eq
  answered_inOrder := by
    rw [Session.queueAck, List.map_append]
    exact hinv.answered_inOrder.trans (List.prefix_append _ _)
  messages_eq hlive := by
    rw [Session.queueAck, List.map_append, List.map_append, ← List.append_assoc,
      ← hinv.messages_eq hlive]
  sequence_eq := hinv.sequence_eq
  results_eq := hinv.results_eq
  senders_eq := hinv.senders_eq

theorem Invariant.applyFrame {state next : State} (hinv : Invariant state)
    {capacity : Capacities} {frame : Frame} (hstep : applyFrame capacity state frame = some next) :
    Invariant next := by
  rw [Session.applyFrame] at hstep
  split at hstep
  · obtain rfl := Option.some.inj hstep
    split
    · exact { hinv with }
    · exact hinv
  split at hstep
  · split at hstep
    · obtain rfl := Option.some.inj hstep
      split
      · exact (hinv.queueAck frame.sequence).applyCommand capacity frame.payload
      · exact hinv.queueAck frame.sequence
    · cases hstep
  · obtain rfl := Option.some.inj hstep
    exact hinv

theorem Invariant.queue {state next : State} (hinv : Invariant state) {capacity : Capacities}
    {payload : List UInt8} {completion : Bool}
    (hstep : queue capacity state payload completion = some next) : Invariant next := by
  rw [Session.queue] at hstep
  split at hstep
  · obtain rfl := Option.some.inj hstep
    split
    · apply hinv.enqueue
      rw [List.filterMap_append, hinv.senders_eq]
      exact List.range_succ.symm
    · exact hinv.enqueue_background payload
  · cases hstep

/-! ### The writer -/

theorem sendAck_eq (state : State) (received : UInt8) (current : Option Command) :
    sendAck state received current =
      { state with phase := .answering (received ^^^ 1) current } := by
  rw [sendAck, encode, if_pos (by decide)]

theorem Invariant.sendAck {state : State} (hinv : Invariant state) {received : UInt8}
    {acks : List UInt8} (hacks : state.acks = received :: acks) (hlive : state.phase.live)
    (hanswer : state.phase.answer = none) :
    Invariant (sendAck { state with acks } received state.phase.current) := by
  rw [sendAck_eq]
  refine { hinv with awaited := ?_, queued_eq := fun _ ↦ hinv.queued_eq hlive, messages_eq := ?_ }
  · obtain ⟨awaiting, hbegun, hcurrent⟩ := hinv.awaited
    exact ⟨awaiting, hbegun, fun _ ↦ hcurrent hlive⟩
  · intro _
    have hmessages := hinv.messages_eq hlive
    rw [hanswer, hacks] at hmessages
    rw [hmessages, List.map_cons]
    simp [Phase.answer]

theorem Invariant.sendCommand {state : State} (hinv : Invariant state) {next : Command}
    {commands : List Command} (hcommands : state.commands = next :: commands)
    (hphase : state.phase = .selecting) :
    Invariant (sendCommand { state with commands, acked := [] } next) := by
  have hlive : state.phase.live := by rw [hphase, Phase.live]; decide
  have hqueued := hinv.queued_eq hlive
  rw [hcommands] at hqueued
  have hsettled : begun state.log = (settled state.log).map Prod.fst := by
    obtain ⟨awaiting, hbegun, hcurrent⟩ := hinv.awaited
    rw [hbegun, hcurrent hlive, hphase]
    exact List.append_nil _
  rw [Session.sendCommand]
  split
  · refine ⟨hinv.causal.concat ⟨hsettled, hinv.sequence_eq⟩, ?_, ?_, ?_, ?_, ?_, ?_, ?_, ?_⟩
    · refine ⟨some next, ?_, fun _ ↦ rfl⟩
      simp [begunBy, settledBy, hsettled]
    · exact ⟨commands, by simp [begunBy, hqueued]⟩
    · intro _
      simp [begunBy, hqueued]
    · simpa [answeredBy] using hinv.answered_inOrder
    · intro _
      simp [answeredBy, hinv.messages_eq hlive, hphase, Phase.answer]
    · exact hinv.sequence_eq.trans
        (lastAccepted_concat state.log (.command next state.sequence)).symm
    · simp [settledBy, hinv.results_eq]
    · exact hinv.senders_eq
  · exact { hinv.ended with queued_eq := fun hended ↦ absurd rfl hended }

/-- The outcome of the command in flight, an ACK or the deadline. -/
theorem Invariant.settle {state : State} (hinv : Invariant state) {current : Command}
    (hphase : state.phase = .waiting current) (event : Event) {result : Reply} {sequence : UInt8}
    (hallowed : begun state.log = (settled state.log).map Prod.fst ++ [current] →
      Allowed state.log event)
    (hbegun : begunBy event = none) (hsettled : settledBy event = some (current, result))
    (hanswered : answeredBy event = none) (hsequence : sequence = afterEvent state.sequence event)
    (acked : List UInt8) :
    Invariant
      (settle { state with acked, sequence, log := state.log ++ [event] } current result) := by
  have hlive : state.phase.live := by rw [hphase, Phase.live]; exact Phase.noConfusion
  have hawaited : begun state.log = (settled state.log).map Prod.fst ++ [current] := by
    obtain ⟨awaiting, hbegun, hcurrent⟩ := hinv.awaited
    rw [hbegun, hcurrent hlive, hphase]
    rfl
  refine ⟨hinv.causal.concat (hallowed hawaited), ?_, ?_, ?_, ?_, ?_, ?_, ?_, hinv.senders_eq⟩
  · refine ⟨none, ?_, fun _ ↦ rfl⟩
    simp [Session.settle, hbegun, hsettled, hawaited]
  · simpa [Session.settle, hbegun] using hinv.begun_inOrder
  · intro _
    simpa [Session.settle, hbegun] using hinv.queued_eq hlive
  · simpa [Session.settle, hanswered] using hinv.answered_inOrder
  · intro _
    simpa [Session.settle, hanswered, hphase, Phase.answer] using hinv.messages_eq hlive
  · exact hsequence.trans (by rw [hinv.sequence_eq]; exact (lastAccepted_concat _ _).symm)
  · simp only [Session.settle, settled_concat, hsettled, hinv.results_eq, List.filterMap_append]
    cases hdone : current.done <;> simp [given, hdone]

theorem Invariant.accept {state : State} (hinv : Invariant state) {current : Command}
    (hphase : state.phase = .waiting current) (sequence : UInt8) (acked : List UInt8) :
    Invariant (accept { state with acked } current sequence) :=
  hinv.settle hphase (.accepted current sequence) id rfl rfl rfl rfl acked

theorem Invariant.timeOut {state : State} (hinv : Invariant state) {current : Command}
    (hphase : state.phase = .waiting current) : Invariant (timeOut state current) :=
  hinv.settle hphase (.timedOut current) id rfl rfl rfl rfl state.acked

theorem Invariant.turn {state next : State} (hinv : Invariant state)
    (hstep : turn state = some next) : Invariant next := by
  rcases turn_cases hstep with ⟨received, acks, hacks, hlive, hwriting, rfl⟩ |
    ⟨command, commands, hphase, -, hcommands, rfl⟩ | ⟨-, -, rfl⟩ |
    ⟨current, sequence, acked, hphase, -, -, rfl⟩ | ⟨current, hphase, -, -, -, rfl⟩
  · exact hinv.sendAck hacks hlive (Phase.answer_of_not_writing hwriting)
  · exact hinv.sendCommand hcommands hphase
  · exact hinv.ended
  · exact hinv.accept hphase sequence acked
  · exact hinv.timeOut hphase

theorem written_cases {state next : State} (hstep : written state = some next) :
    (∃ sequence current, state.phase = .answering sequence current ∧
      next = { state with
        phase := current.elim .selecting .waiting
        log := state.log ++ [.answer sequence] }) ∨
    (∃ current, state.phase = .sending current ∧
      next = { state with phase := .waiting current, expired := false }) := by
  rw [written] at hstep
  cases hphase : state.phase with
  | answering sequence current =>
    rw [hphase] at hstep
    exact .inl ⟨sequence, current, rfl, (Option.some.inj hstep).symm⟩
  | sending current =>
    rw [hphase] at hstep
    exact .inr ⟨current, rfl, (Option.some.inj hstep).symm⟩
  | selecting | waiting | ended =>
    rw [hphase] at hstep
    cases hstep

theorem Invariant.answerWritten {state : State} (hinv : Invariant state) {sequence : UInt8}
    {current : Option Command} (hphase : state.phase = .answering sequence current) :
    Invariant { state with
      phase := current.elim .selecting .waiting
      log := state.log ++ [.answer sequence] } := by
  have hlive : state.phase.live := by rw [hphase]; exact Phase.noConfusion
  have hmessages := hinv.messages_eq hlive
  rw [hphase] at hmessages
  have hcurrent : (current.elim Phase.selecting Phase.waiting).current = current := by
    cases current <;> rfl
  have hanswer : (current.elim Phase.selecting Phase.waiting).answer = none := by
    cases current <;> rfl
  refine ⟨hinv.causal.concat trivial, ?_, ?_, ?_, ?_, ?_, ?_, ?_, hinv.senders_eq⟩
  · obtain ⟨awaiting, hbegun, hawaiting⟩ := hinv.awaited
    refine ⟨awaiting, by simpa [begunBy, settledBy] using hbegun, fun _ ↦ ?_⟩
    rw [hawaiting hlive, hphase, hcurrent]
    rfl
  · simpa [begunBy] using hinv.begun_inOrder
  · intro _
    simpa [begunBy] using hinv.queued_eq hlive
  · rw [hmessages]
    simp [answeredBy, Phase.answer]
  · intro _
    rw [hmessages, hanswer]
    simp [answeredBy, Phase.answer]
  · exact hinv.sequence_eq.trans (lastAccepted_concat state.log (.answer sequence)).symm
  · simpa [settledBy] using hinv.results_eq

theorem Invariant.commandWritten {state : State} (hinv : Invariant state) {current : Command}
    (hphase : state.phase = .sending current) :
    Invariant { state with phase := .waiting current, expired := false } := by
  have hlive : state.phase.live := by rw [hphase]; exact Phase.noConfusion
  refine { hinv with awaited := ?_, queued_eq := fun _ ↦ hinv.queued_eq hlive, messages_eq := ?_ }
  · obtain ⟨awaiting, hbegun, hcurrent⟩ := hinv.awaited
    refine ⟨awaiting, hbegun, fun _ ↦ ?_⟩
    rw [hcurrent hlive, hphase]
    rfl
  · intro _
    rw [hinv.messages_eq hlive, hphase]
    rfl

theorem Invariant.written {state next : State} (hinv : Invariant state)
    (hstep : written state = some next) : Invariant next := by
  rcases written_cases hstep with ⟨sequence, current, hphase, rfl⟩ | ⟨current, hphase, rfl⟩
  · exact hinv.answerWritten hphase
  · exact hinv.commandWritten hphase

theorem step_eq_some {capacity : Capacities} {state next : State} {action : Action} :
    step capacity state action = some next ↔
      state.phase.live ∧ act capacity state action = some next := by
  rw [step]
  by_cases hended : state.phase = .ended
  · rw [if_pos hended]
    exact iff_of_false (Option.some_ne_none next ∘ Eq.symm) fun hlive ↦ hlive.1 hended
  · rw [if_neg hended]
    exact (and_iff_right hended).symm

theorem Invariant.step {capacity : Capacities} {state next : State} {action : Action}
    (hinv : Invariant state) (hstep : step capacity state action = some next) : Invariant next := by
  obtain ⟨-, hact⟩ := step_eq_some.mp hstep
  cases action with
  | queue => exact hinv.queue hact
  | receive => exact hinv.applyFrame hact
  | closeCommands =>
    obtain rfl := Option.some.inj hact
    exact { hinv with }
  | expire =>
    obtain ⟨-, hnext⟩ := Option.ite_none_right_eq_some.mp hact
    obtain rfl := Option.some.inj hnext
    exact { hinv with }
  | turn => exact hinv.turn hact
  | written => exact hinv.written hact
  | failed =>
    obtain ⟨-, hnext⟩ := Option.ite_none_right_eq_some.mp hact
    obtain rfl := Option.some.inj hnext
    exact hinv.ended
  | cancel =>
    obtain rfl := Option.some.inj hact
    exact hinv.ended

theorem invariant_of_run {capacity : Capacities} {actions : List Action} {state : State}
    (hrun : (system capacity).run init actions = some state) : Invariant state :=
  (system capacity).run_invariant (fun _ _ _ ↦ Invariant.step) invariant_init hrun

theorem Invariant.sender_of_settled {state : State} (hinv : Invariant state)
    {outcome : Command × Reply} (houtcome : outcome ∈ settled state.log) {done : ℕ}
    (hdone : outcome.1.done = some done) : done ∈ state.results.map Prod.fst := by
  rw [hinv.results_eq, List.map_filterMap]
  exact List.mem_filterMap.mpr ⟨outcome, houtcome, by rw [given, hdone]; rfl⟩

/-- A completion sender belongs to one command, and a command is settled once. -/
theorem Invariant.results_nodup {state : State} (hinv : Invariant state) :
    (state.results.map Prod.fst).Nodup := by
  obtain ⟨awaiting, hbegun, -⟩ := hinv.awaited
  have hgiven : (fun outcome ↦ (given outcome).map Prod.fst) =
      fun outcome : Command × Reply ↦ outcome.1.done := by
    funext outcome
    rw [given, Option.map_map]
    exact Option.map_id'
  have hsettled : state.results.map Prod.fst =
      ((settled state.log).map Prod.fst).filterMap Command.done := by
    calc state.results.map Prod.fst
        = (settled state.log).filterMap (fun outcome ↦ (given outcome).map Prod.fst) := by
          rw [hinv.results_eq, List.map_filterMap]
      _ = ((settled state.log).map Prod.fst).filterMap Command.done := by
          rw [hgiven, List.filterMap_map]
          rfl
  have hbefore : (settled state.log).map Prod.fst <+: state.queued := by
    apply List.IsPrefix.trans _ hinv.begun_inOrder
    exact ⟨awaiting.toList, hbegun.symm⟩
  have hsublist : (((settled state.log).map Prod.fst).filterMap Command.done).Sublist
      (List.range state.senders) := by
    rw [← hinv.senders_eq]
    exact hbefore.sublist.filterMap Command.done
  rw [hsettled]
  exact List.nodup_range.sublist hsublist

/-! ## Progress -/

/-- What the other tasks and the clock do to the writer: queues grow, the deadline passes. -/
structure Inflow (state next : State) : Prop where
  phase : next.phase = state.phase
  log : next.log = state.log
  results : next.results = state.results
  acked : state.acked <+: next.acked
  expired : state.expired = true → next.expired = true
  messages : ∃ more, next.messages = state.messages ++ more ∧ next.acks = state.acks ++ more

theorem Inflow.refl (state : State) : Inflow state state :=
  ⟨rfl, rfl, rfl, List.prefix_refl _, id, [], (List.append_nil _).symm, (List.append_nil _).symm⟩

theorem Inflow.trans {first second third : State} (hfirst : Inflow first second)
    (hsecond : Inflow second third) : Inflow first third := by
  refine ⟨hsecond.phase.trans hfirst.phase, hsecond.log.trans hfirst.log,
    hsecond.results.trans hfirst.results, hfirst.acked.trans hsecond.acked,
    hsecond.expired ∘ hfirst.expired, ?_⟩
  obtain ⟨more, hmessages, hacks⟩ := hfirst.messages
  obtain ⟨later, hlater, hlaterAcks⟩ := hsecond.messages
  refine ⟨more ++ later, ?_, ?_⟩
  · rw [hlater, hmessages, List.append_assoc]
  · rw [hlaterAcks, hacks, List.append_assoc]

theorem inflow_enqueue (state : State) (command : Command) :
    Inflow state (enqueue state command) := { Inflow.refl state with }

theorem inflow_trySend (capacity : Capacities) (state : State) (payload : List UInt8) :
    Inflow state (trySend capacity state payload) := by
  rw [trySend]
  split
  · exact inflow_enqueue state _
  · exact Inflow.refl state

theorem inflow_applyCommand (capacity : Capacities) (state : State) (payload : List UInt8) :
    Inflow state (applyCommand capacity state payload) := by
  rw [applyCommand]
  split
  · exact List.foldlRecOn queries (trySend capacity) (Inflow.refl state)
      fun later hlater query _ ↦ hlater.trans (inflow_trySend capacity later query)
  · exact Inflow.refl state

theorem inflow_queueAck (state : State) (sequence : UInt8) :
    Inflow state (queueAck state sequence) :=
  { Inflow.refl state with messages := ⟨[sequence], rfl, rfl⟩ }

theorem inflow_applyFrame {capacity : Capacities} {state next : State} {frame : Frame}
    (hstep : applyFrame capacity state frame = some next) : Inflow state next := by
  rw [applyFrame] at hstep
  split at hstep
  · obtain rfl := Option.some.inj hstep
    split
    · exact { Inflow.refl state with acked := List.prefix_append _ _ }
    · exact Inflow.refl state
  split at hstep
  · obtain ⟨-, hnext⟩ := Option.ite_none_right_eq_some.mp hstep
    obtain rfl := Option.some.inj hnext
    have hqueued := inflow_queueAck state frame.sequence
    split
    · exact hqueued.trans (inflow_applyCommand capacity _ frame.payload)
    · exact hqueued
  · obtain rfl := Option.some.inj hstep
    exact Inflow.refl state

theorem inflow_queue {capacity : Capacities} {state next : State} {payload : List UInt8}
    {completion : Bool} (hstep : queue capacity state payload completion = some next) :
    Inflow state next := by
  obtain ⟨-, hnext⟩ := Option.ite_none_right_eq_some.mp hstep
  obtain rfl := Option.some.inj hnext
  split
  · exact { Inflow.refl state with }
  · exact inflow_enqueue state _

/-- A step of the writer: a branch that it takes or a write that is complete. -/
def spent : Action → ℕ
  | .turn => 1
  | .written => 1
  | _ => 0

def writerSteps (actions : List Action) : ℕ := (actions.map spent).sum

theorem act_cases {capacity : Capacities} {state next : State} {action : Action}
    (hact : act capacity state action = some next) :
    (Inflow state next ∧ spent action = 0) ∨ (turn state = some next ∧ spent action = 1) ∨
      (written state = some next ∧ spent action = 1) ∨ next = { state with phase := .ended } := by
  cases action with
  | queue => exact .inl ⟨inflow_queue hact, rfl⟩
  | receive => exact .inl ⟨inflow_applyFrame hact, rfl⟩
  | closeCommands =>
    obtain rfl := Option.some.inj hact
    exact .inl ⟨{ Inflow.refl state with }, rfl⟩
  | expire =>
    obtain ⟨-, hnext⟩ := Option.ite_none_right_eq_some.mp hact
    obtain rfl := Option.some.inj hnext
    exact .inl ⟨{ Inflow.refl state with expired := fun _ ↦ rfl }, rfl⟩
  | turn => exact .inr (.inl ⟨hact, rfl⟩)
  | written => exact .inr (.inr (.inl ⟨hact, rfl⟩))
  | failed =>
    obtain ⟨-, hnext⟩ := Option.ite_none_right_eq_some.mp hact
    obtain rfl := Option.some.inj hnext
    exact .inr (.inr (.inr rfl))
  | cancel =>
    obtain rfl := Option.some.inj hact
    exact .inr (.inr (.inr rfl))

/-- Nothing that was received, recorded or reported is taken back. -/
structure Extends (state next : State) : Prop where
  messages : state.messages <+: next.messages
  log : state.log <+: next.log
  results : state.results <+: next.results

theorem Extends.refl (state : State) : Extends state state :=
  ⟨List.prefix_refl _, List.prefix_refl _, List.prefix_refl _⟩

theorem Extends.trans {first second third : State} (hfirst : Extends first second)
    (hsecond : Extends second third) : Extends first third :=
  ⟨hfirst.messages.trans hsecond.messages, hfirst.log.trans hsecond.log,
    hfirst.results.trans hsecond.results⟩

theorem Inflow.extends {state next : State} (hflow : Inflow state next) : Extends state next := by
  obtain ⟨more, hmessages, -⟩ := hflow.messages
  exact ⟨⟨more, hmessages.symm⟩, ⟨[], (List.append_nil _).trans hflow.log.symm⟩,
    ⟨[], (List.append_nil _).trans hflow.results.symm⟩⟩

theorem extends_turn {state next : State} (hturn : turn state = some next) :
    Extends state next := by
  rcases turn_cases hturn with ⟨_, _, -, -, -, rfl⟩ | ⟨_, _, -, -, -, rfl⟩ | ⟨-, -, rfl⟩ |
    ⟨_, _, _, -, -, -, rfl⟩ | ⟨_, -, -, -, -, rfl⟩
  · rw [sendAck_eq]
    exact { Extends.refl state with }
  · rw [sendCommand]
    split
    · exact { Extends.refl state with log := List.prefix_append _ _ }
    · exact { Extends.refl state with }
  · exact { Extends.refl state with }
  · exact ⟨List.prefix_refl _, List.prefix_append _ _, List.prefix_append _ _⟩
  · exact ⟨List.prefix_refl _, List.prefix_append _ _, List.prefix_append _ _⟩

theorem extends_written {state next : State} (hwritten : written state = some next) :
    Extends state next := by
  rcases written_cases hwritten with ⟨_, _, -, rfl⟩ | ⟨_, -, rfl⟩
  · exact { Extends.refl state with log := List.prefix_append _ _ }
  · exact { Extends.refl state with }

theorem extends_step {capacity : Capacities} {state next : State} {action : Action}
    (hstep : step capacity state action = some next) : Extends state next := by
  obtain ⟨-, hact⟩ := step_eq_some.mp hstep
  rcases act_cases hact with ⟨hflow, -⟩ | ⟨hturn, -⟩ | ⟨hwritten, -⟩ | rfl
  · exact hflow.extends
  · exact extends_turn hturn
  · exact extends_written hwritten
  · exact { Extends.refl state with }

theorem extends_run {capacity : Capacities} {actions : List Action} {state next : State}
    (hrun : (system capacity).run state actions = some next) : Extends state next :=
  (system capacity).run_invariant (fun _ _ _ hlater hstep ↦ hlater.trans (extends_step hstep))
    (Extends.refl state) hrun

/-! ### Answers -/

/-- The steps to the end of the answer under way, or to the next choice. -/
def Phase.beforeAnswer : Phase → ℕ
  | .selecting => 1
  | .sending _ => 2
  | .waiting _ => 1
  | _ => 0

/-- An answer takes two steps, the choice and the write. -/
def answersOwed (wanted : ℕ) (state : State) : ℕ :=
  2 * (wanted - (answered state.log).length) + state.phase.beforeAnswer

structure AnswersDue (wanted : ℕ) (state : State) : Prop where
  invariant : Invariant state
  live : state.phase.live
  unanswered : (answered state.log).length < wanted
  received : wanted ≤ state.messages.length

theorem AnswersDue.acks_ne_nil {wanted : ℕ} {state : State} (hdue : AnswersDue wanted state)
    (hanswer : state.phase.answer = none) : state.acks ≠ [] := by
  intro hacks
  have hlength := congrArg List.length (hdue.invariant.messages_eq hdue.live)
  rw [hanswer, hacks] at hlength
  simp only [List.length_map, Option.toList_none, List.append_nil, List.map_nil] at hlength
  have hunanswered := hdue.unanswered
  have hreceived := hdue.received
  omega

theorem AnswersDue.inflow {wanted : ℕ} {state next : State} (hdue : AnswersDue wanted state)
    (hinv : Invariant next) (hflow : Inflow state next) :
    AnswersDue wanted next ∧ answersOwed wanted next = answersOwed wanted state := by
  refine ⟨⟨hinv, ?_, ?_, ?_⟩, ?_⟩
  · rw [hflow.phase]
    exact hdue.live
  · rw [hflow.log]
    exact hdue.unanswered
  · exact Nat.le_trans hdue.received hflow.extends.messages.length_le
  · rw [answersOwed, answersOwed, hflow.phase, hflow.log]

/-- The writer chooses nothing but the next answer. -/
theorem AnswersDue.turn {wanted : ℕ} {state next : State} (hdue : AnswersDue wanted state)
    (hturn : turn state = some next) :
    ¬ next.phase.live ∨
      AnswersDue wanted next ∧ answersOwed wanted next + 1 ≤ answersOwed wanted state := by
  have hinv := hdue.invariant.turn hturn
  have hreceived := Nat.le_trans hdue.received (extends_turn hturn).messages.length_le
  rcases turn_cases hturn with ⟨received, acks, hacks, hlive, hwriting, rfl⟩ |
    ⟨command, commands, hphase, hacks, -, rfl⟩ | ⟨-, -, rfl⟩ |
    ⟨current, sequence, acked, hphase, hacks, -, rfl⟩ | ⟨current, hphase, hacks, -, -, rfl⟩
  · rw [sendAck_eq] at hinv hreceived ⊢
    refine .inr ⟨⟨hinv, Phase.noConfusion, hdue.unanswered, hreceived⟩, ?_⟩
    rw [answersOwed, answersOwed]
    cases hphase : state.phase with
    | selecting | waiting => simp [Phase.beforeAnswer]
    | answering | sending => rw [hphase] at hwriting; cases hwriting
    | ended => exact absurd hphase hlive
  · exact absurd hacks (hdue.acks_ne_nil (by rw [hphase]; rfl))
  · exact .inl fun hlive ↦ hlive rfl
  · exact absurd hacks (hdue.acks_ne_nil (by rw [hphase]; rfl))
  · exact absurd hacks (hdue.acks_ne_nil (by rw [hphase]; rfl))

theorem AnswersDue.written {wanted : ℕ} {state next : State} (hdue : AnswersDue wanted state)
    (hwritten : written state = some next) :
    wanted ≤ (answered next.log).length ∨
      AnswersDue wanted next ∧ answersOwed wanted next + 1 ≤ answersOwed wanted state := by
  have hinv := hdue.invariant.written hwritten
  have hreceived := Nat.le_trans hdue.received (extends_written hwritten).messages.length_le
  rcases written_cases hwritten with ⟨sequence, current, hphase, rfl⟩ | ⟨current, hphase, rfl⟩
  · by_cases hlast : wanted ≤ (answered state.log).length + 1
    · left
      simpa [answeredBy] using hlast
    · refine .inr ⟨⟨hinv, ?_, ?_, hreceived⟩, ?_⟩
      · cases current <;> exact Phase.noConfusion
      · simpa [answeredBy] using Nat.lt_of_not_le hlast
      · have hstage : (current.elim Phase.selecting Phase.waiting).beforeAnswer = 1 := by
          cases current <;> rfl
        rw [answersOwed, answersOwed, hphase, hstage]
        simp only [answered_concat, answeredBy, Phase.beforeAnswer, List.length_append,
          Option.toList_some, List.length_singleton]
        omega
  · refine .inr ⟨⟨hinv, Phase.noConfusion, hdue.unanswered, hreceived⟩, ?_⟩
    simp only [answersOwed, hphase, Phase.beforeAnswer]
    omega

theorem AnswersDue.step {capacity : Capacities} {wanted : ℕ} {state next : State}
    {action : Action} (hdue : AnswersDue wanted state)
    (hstep : step capacity state action = some next) :
    (¬ next.phase.live ∨ wanted ≤ (answered next.log).length) ∨
      AnswersDue wanted next ∧
        answersOwed wanted next + spent action + 0 ≤ answersOwed wanted state + 0 := by
  obtain ⟨-, hact⟩ := step_eq_some.mp hstep
  rcases act_cases hact with ⟨hflow, hspent⟩ | ⟨hturn, hspent⟩ | ⟨hwritten, hspent⟩ | rfl
  · obtain ⟨hnext, howed⟩ := hdue.inflow (hdue.invariant.step hstep) hflow
    exact .inr ⟨hnext, Nat.le_of_eq (by rw [howed, hspent])⟩
  · rw [hspent]
    exact (hdue.turn hturn).imp_left .inl
  · rw [hspent]
    exact (hdue.written hwritten).imp_left .inr
  · exact .inl (.inl fun hlive ↦ hlive rfl)

/-- An answer is not taken back, and a session that ended takes no step. -/
theorem answers_final {capacity : Capacities} {wanted : ℕ} {state next : State} {action : Action}
    (hdone : ¬ state.phase.live ∨ wanted ≤ (answered state.log).length)
    (hstep : step capacity state action = some next) :
    ¬ next.phase.live ∨ wanted ≤ (answered next.log).length := by
  rcases hdone with hended | hanswered
  · exact absurd (step_eq_some.mp hstep).1 hended
  · right
    exact Nat.le_trans hanswered ((extends_step hstep).log.filterMap answeredBy).length_le

/-- The messages that stand in the queue now are answered after two steps of the writer each. -/
theorem answered_of_steps {capacity : Capacities} {actions : List Action} {state next : State}
    (hinv : Invariant state) (hrun : (system capacity).run state actions = some next)
    (hlive : next.phase.live) (hsteps : 2 * state.acks.length < writerSteps actions) :
    state.messages.length ≤ (answered next.log).length := by
  by_cases hdone : state.messages.length ≤ (answered state.log).length
  · exact Nat.le_trans hdone ((extends_run hrun).log.filterMap answeredBy).length_le
  have hstart : state.phase.live := by
    intro hended
    cases actions with
    | nil => exact absurd hsteps (Nat.not_lt_zero _)
    | cons action rest =>
      obtain ⟨middle, hstep, -⟩ := ((system capacity).run_cons_eq_some).mp hrun
      exact (step_eq_some.mp hstep).1 hended
  have hdue : AnswersDue state.messages.length state :=
    ⟨hinv, hstart, Nat.lt_of_not_le hdone, Nat.le_refl _⟩
  have hpaid := @Transition.System.run_ledger _ _ (system capacity)
    (AnswersDue state.messages.length)
    (fun later ↦ ¬ later.phase.live ∨ state.messages.length ≤ (answered later.log).length)
    (answersOwed state.messages.length) (fun _ ↦ 0) spent (fun _ _ _ ↦ AnswersDue.step)
    (fun _ _ _ ↦ answers_final) _ _ _ hdue hrun
  rcases hpaid with (hended | hanswered) | ⟨hunpaid, hledger⟩
  · exact absurd hlive hended
  · exact hanswered
  · exfalso
    have hunanswered := hunpaid.unanswered
    have hlength := congrArg List.length (hinv.messages_eq hstart)
    simp only [List.length_map, List.length_append] at hlength
    rw [answersOwed, answersOwed, hlength] at hledger
    rw [writerSteps] at hsteps
    cases hphase : state.phase with
    | answering | selecting | sending | waiting =>
      rw [hphase] at hledger hlength
      simp only [Phase.beforeAnswer, Phase.answer, Option.toList_some, Option.toList_none,
        List.length_singleton, List.length_nil] at hledger hlength
      omega
    | ended => exact hstart hphase

/-! ### Results -/

/-- The ACK or the deadline of the command in flight has come. -/
def Decided (state : State) : Prop :=
  state.acked ≠ [] ∨ (state.phase.armed = true ∧ state.expired = true)

/-- The steps until the writer looks at the outcome, with nothing new in the queue. -/
def resultOwed (state : State) : ℕ := 2 * state.acks.length + if state.phase.writing then 1 else 0

structure ResultDue (command : Command) (state : State) : Prop where
  live : state.phase.live
  current : state.phase.current = some command
  decided : Decided state

/-- A message that comes is owed an answer first. -/
theorem ResultDue.inflow {command : Command} {state next : State} (hdue : ResultDue command state)
    (hflow : Inflow state next) :
    ResultDue command next ∧ resultOwed next + 2 * state.messages.length =
      resultOwed state + 2 * next.messages.length := by
  refine ⟨⟨?_, ?_, ?_⟩, ?_⟩
  · rw [hflow.phase]
    exact hdue.live
  · rw [hflow.phase]
    exact hdue.current
  · rw [Decided, hflow.phase]
    apply hdue.decided.imp
    · exact fun hacked hnil ↦ hacked (List.prefix_nil.mp (hnil ▸ hflow.acked))
    · exact And.imp_right hflow.expired
  · obtain ⟨more, hmessages, hacks⟩ := hflow.messages
    rw [resultOwed, resultOwed, hflow.phase, hmessages, hacks, List.length_append,
      List.length_append]
    omega

/-- The writer answers a message or looks at the outcome. -/
theorem ResultDue.turn {command : Command} {done : ℕ} {state next : State}
    (hdue : ResultDue command state) (hdone : command.done = some done)
    (hturn : turn state = some next) :
    (¬ next.phase.live ∨ done ∈ next.results.map Prod.fst) ∨
      ResultDue command next ∧ next.messages = state.messages ∧
        resultOwed next + 1 ≤ resultOwed state := by
  have hcurrent := hdue.current
  rcases turn_cases hturn with ⟨received, acks, hacks, hlive, hwriting, rfl⟩ |
    ⟨_, _, hphase, -, -, rfl⟩ | ⟨-, -, rfl⟩ |
    ⟨waiting, sequence, acked, hphase, -, -, rfl⟩ | ⟨waiting, hphase, -, -, -, rfl⟩
  · rw [sendAck_eq]
    refine .inr ⟨⟨Phase.noConfusion, hcurrent, ?_⟩, rfl, ?_⟩
    · apply hdue.decided.imp_right
      exact fun hexpired ↦ ⟨by rw [hcurrent]; rfl, hexpired.2⟩
    · rw [resultOwed, resultOwed, hacks, hwriting]
      simp only [Phase.writing, List.length_cons, if_true, Bool.false_eq_true, if_false]
      omega
  · rw [hphase] at hcurrent
    cases hcurrent
  · exact .inl (.inl fun hlive ↦ hlive rfl)
  · rw [hphase] at hcurrent
    obtain rfl := Option.some.inj hcurrent
    refine .inl (.inr ?_)
    simp [accept, settle, hdone]
  · rw [hphase] at hcurrent
    obtain rfl := Option.some.inj hcurrent
    refine .inl (.inr ?_)
    simp [timeOut, settle, hdone]

theorem ResultDue.written {command : Command} {state next : State} (hdue : ResultDue command state)
    (hwritten : written state = some next) :
    ResultDue command next ∧ next.messages = state.messages ∧
      resultOwed next + 1 ≤ resultOwed state := by
  have hcurrent := hdue.current
  rcases written_cases hwritten with ⟨sequence, current, hphase, rfl⟩ | ⟨current, hphase, rfl⟩
  · rw [hphase] at hcurrent
    obtain rfl : current = some command := hcurrent
    refine ⟨⟨Phase.noConfusion, rfl, ?_⟩, rfl, ?_⟩
    · apply hdue.decided.imp_right
      exact fun hexpired ↦ ⟨rfl, hexpired.2⟩
    · simp [resultOwed, hphase, Phase.writing]
  · rw [hphase] at hcurrent
    obtain rfl := Option.some.inj hcurrent
    refine ⟨⟨Phase.noConfusion, rfl, ?_⟩, rfl, ?_⟩
    · apply hdue.decided.imp_right
      rw [hphase]
      exact fun hexpired ↦ absurd hexpired.1 Bool.noConfusion
    · simp [resultOwed, hphase, Phase.writing]

theorem ResultDue.step {capacity : Capacities} {command : Command} {done : ℕ}
    {state next : State} {action : Action} (hdue : ResultDue command state)
    (hdone : command.done = some done) (hstep : step capacity state action = some next) :
    (¬ next.phase.live ∨ done ∈ next.results.map Prod.fst) ∨
      ResultDue command next ∧
        resultOwed next + spent action + 2 * state.messages.length ≤
          resultOwed state + 2 * next.messages.length := by
  obtain ⟨-, hact⟩ := step_eq_some.mp hstep
  rcases act_cases hact with ⟨hflow, hspent⟩ | ⟨hturn, hspent⟩ | ⟨hwritten, hspent⟩ | rfl
  · obtain ⟨hnext, howed⟩ := hdue.inflow hflow
    exact .inr ⟨hnext, by rw [hspent, Nat.add_zero]; exact Nat.le_of_eq howed⟩
  · apply (hdue.turn hdone hturn).imp_right
    rintro ⟨hnext, hmessages, howed⟩
    rw [hspent, hmessages]
    exact ⟨hnext, Nat.add_le_add_right howed _⟩
  · obtain ⟨hnext, hmessages, howed⟩ := hdue.written hwritten
    rw [hspent, hmessages]
    exact .inr ⟨hnext, Nat.add_le_add_right howed _⟩
  · exact .inl (.inl fun hlive ↦ hlive rfl)

/-- A result is not taken back. -/
theorem results_final {capacity : Capacities} {done : ℕ} {state next : State} {action : Action}
    (hdone : ¬ state.phase.live ∨ done ∈ state.results.map Prod.fst)
    (hstep : step capacity state action = some next) :
    ¬ next.phase.live ∨ done ∈ next.results.map Prod.fst := by
  rcases hdone with hended | hgiven
  · exact absurd (step_eq_some.mp hstep).1 hended
  · exact .inr (((extends_step hstep).results.map Prod.fst).subset hgiven)

/-- The result of the command in flight is given after two steps of the writer for each message
that is queued now or comes until then. -/
theorem result_of_steps {capacity : Capacities} {actions : List Action} {state next : State}
    {command : Command} {done : ℕ} (hdue : ResultDue command state)
    (hdone : command.done = some done)
    (hrun : (system capacity).run state actions = some next) (hlive : next.phase.live)
    (hsteps : 2 * (state.acks.length + (next.messages.length - state.messages.length)) + 1 <
      writerSteps actions) :
    done ∈ next.results.map Prod.fst := by
  have hpaid := @Transition.System.run_ledger _ _ (system capacity) (ResultDue command)
    (fun later ↦ ¬ later.phase.live ∨ done ∈ later.results.map Prod.fst)
    resultOwed (fun later ↦ 2 * later.messages.length) spent
    (fun _ _ _ hpending hstep ↦ hpending.step hdone hstep)
    (fun _ _ _ ↦ results_final) _ _ _ hdue hrun
  rcases hpaid with (hended | hgiven) | ⟨-, hledger⟩
  · exact absurd hlive hended
  · exact hgiven
  · exfalso
    have hmessages := (extends_run hrun).messages.length_le
    have hwriting : (if state.phase.writing then 1 else 0) ≤ 1 := by split <;> decide
    rw [resultOwed, resultOwed] at hledger
    rw [writerSteps] at hsteps
    omega

/-- The writer can take a step wherever an answer or a result is due. -/
theorem writer_enabled {capacity : Capacities} {state : State} (hlive : state.phase.live)
    (hdue : state.acks ≠ [] ∨ state.phase.answer ≠ none ∨
      (state.phase.current ≠ none ∧ Decided state)) :
    ∃ action, spent action = 1 ∧ (step capacity state action).isSome = true := by
  have htake : ∀ {action}, step capacity state action = act capacity state action :=
    if_neg hlive
  cases hphase : state.phase with
  | selecting =>
    refine ⟨.turn, rfl, ?_⟩
    have hacks : state.acks ≠ [] := by
      rw [hphase] at hdue
      exact hdue.resolve_right fun hnone ↦ hnone.elim (· rfl) (·.1 rfl)
    obtain ⟨received, acks, hcons⟩ := List.exists_cons_of_ne_nil hacks
    simp only [htake, act, turn, hphase, hcons, Option.isSome_some]
  | answering => exact ⟨.written, rfl, by rw [htake, act, written, hphase]; rfl⟩
  | sending => exact ⟨.written, rfl, by rw [htake, act, written, hphase]; rfl⟩
  | waiting current =>
    refine ⟨.turn, rfl, ?_⟩
    cases hacks : state.acks with
    | cons received acks => simp only [htake, act, turn, hphase, hacks, Option.isSome_some]
    | nil =>
      have hdecided : Decided state := by
        rw [hphase] at hdue
        exact (hdue.resolve_left (· hacks)).elim (absurd rfl) (·.2)
      cases hacked : state.acked with
      | cons => simp only [htake, act, turn, hphase, hacks, hacked, Option.isSome_some]
      | nil =>
        have hexpired : state.expired = true := (hdecided.resolve_left (· hacked)).2
        simp only [htake, act, turn, hphase, hacks, hacked, hexpired, if_true, Option.isSome_some]
  | ended => exact absurd hphase hlive

/-! ## The protocol -/

structure StopAndWait (state : State) : Prop where
  /-- Commands and outcomes alternate, and a command carries the last accepted sequence. -/
  allowed : EventLog.Causal Allowed state.log
  /-- At most the command in flight has no outcome. -/
  oneAwaits : ∃ awaiting : Option Command,
    begun state.log = (settled state.log).map Prod.fst ++ awaiting.toList ∧
      (state.phase.live → awaiting = state.phase.current)
  /-- Commands are begun once each and in the order of the queue, and none is lost. -/
  begun_inOrder : begun state.log <+: state.queued
  queued_eq : state.phase.live → state.queued = begun state.log ++ state.commands
  /-- Messages are acknowledged once each, in order, with the other sequence bit. -/
  answered_inOrder : answered state.log <+: state.messages.map fun sequence ↦ sequence ^^^ 1
  messages_eq : state.phase.live → state.messages.map (fun sequence ↦ sequence ^^^ 1) =
    answered state.log ++ state.phase.answer.toList ++ state.acks.map fun sequence ↦ sequence ^^^ 1
  /-- A completion sender gets the outcome of its command, at most once. -/
  results_eq : state.results = (settled state.log).filterMap given
  results_nodup : (state.results.map Prod.fst).Nodup
  /-- While the session lives, only the command in flight has no result yet. -/
  result_once : state.phase.live → ∀ command ∈ begun state.log, ∀ done,
    command.done = some done → state.phase.current ≠ some command →
      (state.results.map Prod.fst).count done = 1

/-- Every later state of a session that still lives, however the steps are ordered. -/
structure Progresses (capacity : Capacities) (state : State) : Prop where
  enabled : state.phase.live → state.acks ≠ [] ∨ state.phase.answer ≠ none ∨
      (state.phase.current ≠ none ∧ Decided state) →
    ∃ action, spent action = 1 ∧ (step capacity state action).isSome = true
  answers : ∀ actions next, (system capacity).run state actions = some next → next.phase.live →
    2 * state.acks.length < writerSteps actions →
      state.messages.map (fun sequence ↦ sequence ^^^ 1) <+: answered next.log
  result : ∀ command done, state.phase.live → state.phase.current = some command →
    command.done = some done → Decided state →
    ∀ actions next, (system capacity).run state actions = some next → next.phase.live →
      2 * (state.acks.length + (next.messages.length - state.messages.length)) + 1 <
        writerSteps actions →
      (next.results.map Prod.fst).count done = 1

theorem Invariant.result_once {state : State} (hinv : Invariant state)
    (hlive : state.phase.live) {command : Command} (hbegun : command ∈ begun state.log) {done : ℕ}
    (hdone : command.done = some done) (hcurrent : state.phase.current ≠ some command) :
    (state.results.map Prod.fst).count done = 1 := by
  obtain ⟨awaiting, hsplit, hawaiting⟩ := hinv.awaited
  rw [hsplit, List.mem_append, Option.mem_toList, hawaiting hlive] at hbegun
  obtain ⟨outcome, houtcome, rfl⟩ := List.mem_map.mp (hbegun.resolve_right hcurrent)
  exact List.count_eq_one_of_mem hinv.results_nodup (hinv.sender_of_settled houtcome hdone)

theorem Invariant.stopAndWait {state : State} (hinv : Invariant state) : StopAndWait state where
  allowed := hinv.causal
  oneAwaits := hinv.awaited
  begun_inOrder := hinv.begun_inOrder
  queued_eq := hinv.queued_eq
  answered_inOrder := hinv.answered_inOrder
  messages_eq := hinv.messages_eq
  results_eq := hinv.results_eq
  results_nodup := hinv.results_nodup
  result_once hlive _ hbegun _ := hinv.result_once hlive hbegun

theorem Invariant.progresses {capacity : Capacities} {state : State}
    (hreach : ∀ actions next, (system capacity).run state actions = some next → Invariant next) :
    Progresses capacity state where
  enabled := writer_enabled
  answers actions next hrun hlive hsteps := by
    have hanswered := answered_of_steps (hreach [] state rfl) hrun hlive hsteps
    apply List.prefix_of_prefix_length_le
      ((extends_run hrun).messages.map fun sequence ↦ sequence ^^^ 1)
      (hreach actions next hrun).answered_inOrder
    rw [List.length_map]
    exact hanswered
  result command done hlive hcurrent hdone hdecided actions next hrun hnext hsteps := by
    apply List.count_eq_one_of_mem (hreach actions next hrun).results_nodup
    exact result_of_steps ⟨hlive, hcurrent, hdecided⟩ hdone hrun hnext hsteps

/-- For every order of arrivals and deadlines and every size of the queues, the session follows
the protocol in each state that it reaches, and from there it makes progress. -/
theorem session_stops_and_waits (capacity : Capacities) {actions : List Action} {state : State}
    (hrun : (system capacity).run init actions = some state) :
    StopAndWait state ∧ Progresses capacity state := by
  refine ⟨(invariant_of_run hrun).stopAndWait, Invariant.progresses ?_⟩
  intro later next hlater
  exact invariant_of_run ((system capacity).run_append hrun hlater)

/-- The init request and its answer, a message while a command waits, a deadline, and the ACK
that comes too late. -/
def lateAckRun : List Action :=
  [.queue initRequest false, .turn, .written,
    .receive ⟨ack, 1, []⟩, .turn,
    .receive ⟨command, 0, [initReply, 0]⟩, .queue [0x68] true,
    .turn, .written, .turn, .written, .receive ⟨command2, 1, []⟩, .turn, .written, .expire, .turn,
    .receive ⟨ack, 0, []⟩, .turn, .written, .receive ⟨ack, 0, []⟩, .turn, .turn, .written]

theorem session_stops_and_waits_lateAck :
    ∃ state, (system runSession).run init lateAckRun = some state ∧
      StopAndWait state ∧ Progresses runSession state := by
  refine ⟨_, rfl, ?_⟩
  exact session_stops_and_waits runSession (rfl : (system runSession).run init lateAckRun = some _)

end BtDaemon.Sony.Session
