import Mathlib.Data.List.Perm.Basic
import BtDaemon.Pairing.Interactions

/-!
# Pairing interactions end exactly once

For every id the terminal events that were published and those that some party still owes add
up to one. A pending prompt is owed by its table entry, an interaction that was taken is owed
by the agent that took it, and a display is owed by its task until a `cancel_all` takes it.
The answers to BlueZ are counted in the same way, except that an answer may find its receiver
gone.
-/

namespace BtDaemon.Pairing

open Transition

/-! ## What is owed -/

/-- The event ends the interaction with this id. -/
def ends (id : String) (event : PairingEvent) : Bool := event.isTerminal && event.requestId == id

namespace Agent

/-- The terminal events that the agent still publishes for the id. -/
def announcements (id : String) : Agent → ℕ
  | .cancelAll _ requests => requests.countP fun request ↦ request.event.requestId = id
  | .accepting request _ => if request.event.requestId = id then 1 else 0
  | .ending announcement requests displays =>
    announcement.toList.countP (ends id) + requests.countP (fun request ↦ ends id request.2) +
      displays.countP (ends id)

/-- The answers that the agent still sends for the id. -/
def unanswered (id : String) : Agent → ℕ
  | .cancelAll _ requests => requests.countP fun request ↦ request.event.requestId = id
  | .accepting request _ => if request.event.requestId = id then 1 else 0
  | .ending _ requests _ => requests.countP fun request ↦ request.2.requestId = id

/-- What an agent accepts is valid, and what it ends with is terminal. -/
def WellFormed : Agent → Prop
  | .cancelAll _ _ => True
  | .accepting request params => request.response.validate params = .ok ()
  | .ending announcement requests displays =>
    (∀ event ∈ announcement, event.isTerminal = true) ∧
      (∀ request ∈ requests, request.2.isTerminal = true) ∧
        ∀ event ∈ displays, event.isTerminal = true

end Agent

def DisplayTask.owed (task : DisplayTask) : ℕ := if task.phase = .finished then 0 else 1

def CallbackPhase.isListening : CallbackPhase → Bool
  | .inserted _ | .waiting => true
  | .dropping | .finished => false

/-- The task has not removed its display yet. -/
def DisplayPhase.isShowing : DisplayPhase → Bool
  | .inserted _ | .waiting => true
  | .removed | .finished => false

namespace State

def pendingCount (state : State) (id : String) : ℕ :=
  if (state.broker.pending.lookup id).isSome then 1 else 0

/-- A display that no `cancel_all` took is ended by its task. -/
def displayOwed (state : State) (id : String) : ℕ :=
  if id ∈ state.swept then 0 else (state.displayTasks.lookup id).elim 0 DisplayTask.owed

def known (state : State) (id : String) : ℕ :=
  if (state.callbacks.lookup id).isSome ∨ (state.displayTasks.lookup id).isSome then 1 else 0

def announcements (state : State) (id : String) : ℕ :=
  state.agents.total (Agent.announcements id)

def unanswered (state : State) (id : String) : ℕ := state.agents.total (Agent.unanswered id)

theorem listening_eq (state : State) (id : String) :
    state.listening id = (state.callbacks.lookup id).any CallbackPhase.isListening := by
  unfold listening
  split
  · next event hphase => rw [hphase]; rfl
  · next hphase => rw [hphase]; rfl
  · next hinserted hwaiting =>
    cases hphase : state.callbacks.lookup id with
    | none => rfl
    | some phase =>
      cases phase with
      | inserted event => exact absurd hphase (hinserted event)
      | waiting => exact absurd hphase hwaiting
      | dropping | finished => rfl

end State

structure Accounted (state : State) : Prop where
  named : ∀ id request, state.broker.pending.lookup id = some request →
    request.event.requestId = id
  shown : ∀ id event, state.broker.displays.lookup id = some event →
    event.requestId = id ∧ id ∉ state.swept ∧
      ∃ task, state.displayTasks.lookup id = some task ∧ task.phase.isShowing = true
  fresh : ∀ serial agent, state.agents.lookup serial = some agent → serial < state.spawned
  wellFormed : ∀ serial agent, state.agents.lookup serial = some agent → agent.WellFormed
  inserted : ∀ id event, state.callbacks.lookup id = some (.inserted event) →
    event.requestId = id ∧ event.isTerminal = false
  displayInserted : ∀ id kind event,
    state.displayTasks.lookup id = some ⟨kind, .inserted event⟩ →
      event.requestId = id ∧ event.isTerminal = false
  /-- A display that its own task removed was not taken before. -/
  removed : ∀ id kind, state.displayTasks.lookup id = some ⟨kind, .removed⟩ → id ∉ state.swept
  sweptKnown : ∀ id ∈ state.swept, (state.displayTasks.lookup id).isSome = true
  announced : ∀ event ∈ state.broker.events, event.isTerminal = false →
    state.known event.requestId = 1
  /-- Published and owed ends add up to one for every id that is in use. -/
  endings : ∀ id, state.terminals id + state.pendingCount id + state.announcements id +
    state.displayOwed id = state.known id
  answers : ∀ id, state.answered id + state.pendingCount id + state.unanswered id ≤ 1
  /-- Nothing is sent, or left to send, to an id that no callback has. -/
  silent : ∀ id, state.callbacks.lookup id = none →
    state.answered id + state.pendingCount id + state.unanswered id = 0
  /-- A callback that can still hear has, or will get, its answer. -/
  listening : ∀ id, state.listening id = true →
    state.answered id + state.pendingCount id + state.unanswered id = 1
  respondErrors : ∀ error ∈ state.respondErrors, error.taken = none

theorem accounted_init : Accounted State.init := by
  constructor <;>
    simp [State.init, PairingBroker.init, State.terminals, State.pendingCount,
      State.announcements, State.displayOwed, State.known, State.answered, State.unanswered,
      State.listening]

/-- What the accounting says in a quiescent state. -/
theorem Accounted.endsOnce {state : State} (accounted : Accounted state) : EndsOnce state where
  atMostOnce id := by
    have hendings := accounted.endings id
    have hknown : state.known id ≤ 1 := by unfold State.known; split <;> omega
    omega
  exactlyOnce hquiet event hevent hpending hdisplay hfinished := by
    have hendings := accounted.endings event.requestId
    have hagents : state.announcements event.requestId = 0 := by
      rw [State.announcements, hquiet.agents, Table.total_empty]
    have hnone : state.pendingCount event.requestId = 0 := by
      simp [State.pendingCount, hpending]
    have howed : state.displayOwed event.requestId = 0 := by
      unfold State.displayOwed
      split
      · rfl
      · cases htask : state.displayTasks.lookup event.requestId with
        | none => rfl
        | some task => simp [DisplayTask.owed, hfinished.2 task htask]
    have hknown : state.known event.requestId = 1 := by
      cases hterminal : event.isTerminal with
      | false => exact accounted.announced event hevent hterminal
      | true =>
        have hpositive : 0 < state.terminals event.requestId :=
          List.countP_pos_iff.mpr ⟨event, hevent, by simp [hterminal]⟩
        have hbound : state.known event.requestId ≤ 1 := by unfold State.known; split <;> omega
        omega
    omega
  answeredAtMostOnce id := by
    have hanswers := accounted.answers id
    omega
  answeredOnce hquiet id hwaiting hpending := by
    have hlistening := accounted.listening id (by simp [State.listening_eq, hwaiting,
      CallbackPhase.isListening])
    have hagents : state.unanswered id = 0 := by
      rw [State.unanswered, hquiet.agents, Table.total_empty]
    have hnone : state.pendingCount id = 0 := by simp [State.pendingCount, hpending]
    omega
  respondErrors := accounted.respondErrors
  respondRefused params message htake := by rw [State.respond, htake]

/-! ## Steps of the agents -/

namespace Accounted

variable {state next : State}

/-- A step that only moves duties between the prompts, the agents and the logs. -/
theorem transfer (accounted : Accounted state)
    (hcallbacks : next.callbacks = state.callbacks)
    (hdisplayTasks : next.displayTasks = state.displayTasks)
    (hdisplays : next.broker.displays = state.broker.displays)
    (hswept : next.swept = state.swept)
    (hpending : ∀ id request, next.broker.pending.lookup id = some request →
      state.broker.pending.lookup id = some request)
    (hagents : ∀ serial agent, next.agents.lookup serial = some agent →
      serial < next.spawned ∧ agent.WellFormed)
    (hevents : ∀ event ∈ next.broker.events, event.isTerminal = false →
      event ∈ state.broker.events)
    (hendings : ∀ id, next.terminals id + next.pendingCount id + next.announcements id =
      state.terminals id + state.pendingCount id + state.announcements id)
    (hanswers : ∀ id, next.answered id + next.pendingCount id + next.unanswered id ≤
      state.answered id + state.pendingCount id + state.unanswered id)
    (hlistening : ∀ id, state.listening id = true →
      next.answered id + next.pendingCount id + next.unanswered id =
        state.answered id + state.pendingCount id + state.unanswered id)
    (herrors : ∀ error ∈ next.respondErrors, error.taken = none) : Accounted next := by
  have hknown : ∀ id, next.known id = state.known id := fun id ↦ by
    rw [State.known, State.known, hcallbacks, hdisplayTasks]
  have howed : ∀ id, next.displayOwed id = state.displayOwed id := fun id ↦ by
    rw [State.displayOwed, State.displayOwed, hdisplayTasks, hswept]
  have hhears : ∀ id, next.listening id = state.listening id := fun id ↦ by
    rw [State.listening_eq, State.listening_eq, hcallbacks]
  exact {
    named := fun id request hlookup ↦ accounted.named id request (hpending id request hlookup)
    shown := by rw [hdisplays, hswept, hdisplayTasks]; exact accounted.shown
    fresh := fun serial agent hlookup ↦ (hagents serial agent hlookup).1
    wellFormed := fun serial agent hlookup ↦ (hagents serial agent hlookup).2
    inserted := by rw [hcallbacks]; exact accounted.inserted
    displayInserted := by rw [hdisplayTasks]; exact accounted.displayInserted
    removed := by rw [hdisplayTasks, hswept]; exact accounted.removed
    sweptKnown := by rw [hdisplayTasks, hswept]; exact accounted.sweptKnown
    announced := fun event hevent hopen ↦
      (hknown _).trans (accounted.announced event (hevents event hevent hopen) hopen)
    endings := fun id ↦ by rw [hendings, howed, hknown]; exact accounted.endings id
    answers := fun id ↦ Nat.le_trans (hanswers id) (accounted.answers id)
    silent := fun id hlookup ↦ by
      have hsilent := accounted.silent id (hcallbacks ▸ hlookup)
      have := hanswers id
      omega
    listening := fun id hhearing ↦ by
      rw [hhears] at hhearing
      rw [hlistening id hhearing]
      exact accounted.listening id hhearing
    respondErrors := herrors }

theorem total_spawn (accounted : Accounted state) (agent : Agent) (weight : Agent → ℕ) :
    Table.total (state.agents.insert state.spawned agent) weight =
      state.agents.total weight + weight agent := by
  have hnone : state.agents.lookup state.spawned = none := by
    cases hlookup : state.agents.lookup state.spawned with
    | none => rfl
    | some found => exact absurd (accounted.fresh _ found hlookup) (Nat.lt_irrefl _)
  have htotal := Table.total_insert state.agents state.spawned agent weight
  rw [hnone] at htotal
  exact htotal

/-- The agents after a new one started. -/
theorem agents_spawn (accounted : Accounted state) {agent : Agent} (hwell : agent.WellFormed) :
    ∀ serial found, (state.agents.insert state.spawned agent).lookup serial = some found →
      serial < state.spawned + 1 ∧ found.WellFormed := by
  intro serial found hlookup
  rcases Table.lookup_insert_eq_some.mp hlookup with ⟨hserial, rfl⟩ | ⟨-, hlookup⟩
  · exact ⟨hserial ▸ Nat.lt_succ_self _, hwell⟩
  · exact ⟨Nat.lt_succ_of_lt (accounted.fresh serial found hlookup),
      accounted.wellFormed serial found hlookup⟩

theorem pendingCount_erase (pending : Table String PendingRequest) {id : String}
    {request : PendingRequest} (hlookup : pending.lookup id = some request) (other : String) :
    (if ((pending.erase id).lookup other).isSome then 1 else 0) + (if id = other then 1 else 0) =
      if (pending.lookup other).isSome then 1 else 0 := by
  rw [Table.lookup_erase]
  by_cases hother : other = id
  · subst hother
    simp [hlookup]
  · simp [hother, Ne.symm hother]

/-- A pending prompt is taken by an agent that owes its end and its answer. -/
theorem take (accounted : Accounted state) {id : String} {request : PendingRequest}
    (hlookup : state.broker.pending.lookup id = some request) {agent : Agent}
    (hwell : agent.WellFormed)
    (hannouncements : ∀ other, agent.announcements other = if id = other then 1 else 0)
    (hunanswered : ∀ other, agent.unanswered other = if id = other then 1 else 0) :
    Accounted ({ state with broker.pending := state.broker.pending.erase id }.spawn agent) := by
  have hcount := pendingCount_erase state.broker.pending hlookup
  have hendings : ∀ other,
      state.terminals other + (if ((state.broker.pending.erase id).lookup other).isSome then 1
        else 0) + Table.total (state.agents.insert state.spawned agent)
          (Agent.announcements other) =
      state.terminals other + state.pendingCount other + state.announcements other :=
    fun other ↦ by
      rw [accounted.total_spawn, hannouncements, State.pendingCount, ← hcount other,
        State.announcements]
      omega
  have hanswers : ∀ other,
      state.answered other + (if ((state.broker.pending.erase id).lookup other).isSome then 1
        else 0) + Table.total (state.agents.insert state.spawned agent) (Agent.unanswered other) =
      state.answered other + state.pendingCount other + state.unanswered other := fun other ↦ by
    rw [accounted.total_spawn, hunanswered, State.pendingCount, ← hcount other, State.unanswered]
    omega
  refine accounted.transfer rfl rfl rfl rfl (fun other found hfound ↦ ?_)
    (accounted.agents_spawn hwell) (fun event hevent _ ↦ hevent) hendings
    (fun other ↦ Nat.le_of_eq (hanswers other)) (fun other _ ↦ hanswers other)
    accounted.respondErrors
  obtain ⟨-, hfound⟩ := Table.lookup_erase_eq_some.mp hfound
  exact hfound

theorem cancelPending (accounted : Accounted state) (id reason : String) :
    Accounted (state.cancelPending id reason) := by
  unfold State.cancelPending
  split
  · exact accounted
  · next request hlookup =>
    have hname := accounted.named id request hlookup
    refine accounted.take hlookup (by simp [Agent.WellFormed]) (fun other ↦ ?_) fun other ↦ ?_
    · simp [Agent.announcements, ends, hname, List.countP_cons]
    · simp [Agent.unanswered, hname, List.countP_cons]

theorem respond (accounted : Accounted state) (params : RespondParams) :
    Accounted (state.respond params) := by
  unfold State.respond
  split
  · next message htake =>
    refine accounted.transfer rfl rfl rfl rfl (fun _ _ hlookup ↦ hlookup)
      (fun serial agent hlookup ↦ ⟨accounted.fresh serial agent hlookup,
        accounted.wellFormed serial agent hlookup⟩)
      (fun _ hevent _ ↦ hevent) (fun _ ↦ rfl) (fun _ ↦ Nat.le_refl _) (fun _ _ ↦ rfl) ?_
    intro error herror
    rcases List.mem_append.mp herror with hold | hnew
    · exact accounted.respondErrors error hold
    · rw [List.mem_singleton.mp hnew]
  · next id request accept htake =>
    obtain ⟨hlookup, hvalid⟩ := PairingBroker.takeResponse_eq_ok htake
    have hname := accounted.named id request hlookup
    cases accept with
    | true =>
      exact accounted.take hlookup (hvalid rfl)
        (fun other ↦ by simp [Agent.announcements, hname])
        fun other ↦ by simp [Agent.unanswered, hname]
    | false =>
      refine accounted.take hlookup (by simp [Agent.WellFormed]) (fun other ↦ ?_) fun other ↦ ?_
      · simp [Agent.announcements, ends, hname, List.countP_cons]
      · simp [Agent.unanswered, hname, List.countP_cons]

/-- `cancel_all` takes every prompt, each with its end and its answer. -/
theorem cancelAll (accounted : Accounted state) (reason : String) :
    Accounted (state.cancelAll reason) := by
  have hcount : ∀ id, state.broker.pending.values.countP
      (fun request ↦ request.event.requestId = id) = state.pendingCount id :=
    Table.countP_values accounted.named
  have hendings : ∀ id, state.terminals id + 0 +
      Table.total (state.agents.insert state.spawned
        (.cancelAll reason state.broker.pending.values)) (Agent.announcements id) =
      state.terminals id + state.pendingCount id + state.announcements id := fun id ↦ by
    rw [accounted.total_spawn, Agent.announcements, hcount, State.announcements]
    omega
  have hanswers : ∀ id, state.answered id + 0 +
      Table.total (state.agents.insert state.spawned
        (.cancelAll reason state.broker.pending.values)) (Agent.unanswered id) =
      state.answered id + state.pendingCount id + state.unanswered id := fun id ↦ by
    rw [accounted.total_spawn, Agent.unanswered, hcount, State.unanswered]
    omega
  refine accounted.transfer rfl rfl rfl rfl (fun id request hlookup ↦ ?_)
    (accounted.agents_spawn trivial) (fun event hevent _ ↦ hevent) hendings
    (fun id ↦ Nat.le_of_eq (hanswers id)) (fun id _ ↦ hanswers id) accounted.respondErrors
  simp [State.cancelAll, State.spawn] at hlookup

theorem total_setAgent {serial : ℕ} {old : Agent}
    (hlookup : state.agents.lookup serial = some old) (agent : Agent) (weight : Agent → ℕ) :
    Table.total (state.agents.insert serial agent) weight + weight old =
      state.agents.total weight + weight agent := by
  have htotal := Table.total_insert state.agents serial agent weight
  rw [hlookup] at htotal
  exact htotal

theorem agents_setAgent (accounted : Accounted state) {serial : ℕ} {old agent : Agent}
    (hlookup : state.agents.lookup serial = some old) (hwell : agent.WellFormed) :
    ∀ other found, (state.agents.insert serial agent).lookup other = some found →
      other < state.spawned ∧ found.WellFormed := by
  intro other found hfound
  rcases Table.lookup_insert_eq_some.mp hfound with ⟨hother, rfl⟩ | ⟨-, hfound⟩
  · exact ⟨hother ▸ accounted.fresh serial old hlookup, hwell⟩
  · exact ⟨accounted.fresh other found hfound, accounted.wellFormed other found hfound⟩

theorem terminals_emit (state : State) (event : PairingEvent) (id : String) :
    (state.emit event).terminals id = state.terminals id + if ends id event then 1 else 0 := by
  rw [State.terminals, State.emit, PairingBroker.emit, List.countP_append, List.countP_singleton]
  rfl

/-- An agent publishes one of the ends that it owes. -/
theorem publish (accounted : Accounted state) {serial : ℕ} {old agent : Agent}
    {event : PairingEvent} (hlookup : state.agents.lookup serial = some old)
    (hwell : agent.WellFormed) (hterminal : event.isTerminal = true)
    (hannouncements : ∀ id,
      (if ends id event then 1 else 0) + agent.announcements id = old.announcements id)
    (hunanswered : ∀ id, agent.unanswered id = old.unanswered id) :
    Accounted ((state.emit event).setAgent serial agent) := by
  have hendings : ∀ id, (state.emit event).terminals id + state.pendingCount id +
      Table.total (state.agents.insert serial agent) (Agent.announcements id) =
      state.terminals id + state.pendingCount id + state.announcements id := fun id ↦ by
    have htotal := total_setAgent hlookup agent (Agent.announcements id)
    rw [terminals_emit, State.announcements]
    have := hannouncements id
    omega
  have hanswers : ∀ id, state.answered id + state.pendingCount id +
      Table.total (state.agents.insert serial agent) (Agent.unanswered id) =
      state.answered id + state.pendingCount id + state.unanswered id := fun id ↦ by
    have htotal := total_setAgent hlookup agent (Agent.unanswered id)
    rw [State.unanswered]
    have := hunanswered id
    omega
  refine accounted.transfer rfl rfl rfl rfl (fun _ _ hfound ↦ hfound)
    (accounted.agents_setAgent hlookup hwell) (fun found hfound hopen ↦ ?_) hendings
    (fun id ↦ Nat.le_of_eq (hanswers id)) (fun id _ ↦ hanswers id) accounted.respondErrors
  rcases List.mem_append.mp hfound with hold | hnew
  · exact hold
  · rw [List.mem_singleton.mp hnew, hterminal] at hopen
    cases hopen

theorem answered_deliver (state : State) (id : String) (answer : Answer) (other : String) :
    (state.deliver id answer).answered other =
      state.answered other + if state.listening id = true ∧ id = other then 1 else 0 := by
  by_cases hlistening : state.listening id = true
  · simp [State.deliver, hlistening, State.answered, List.countP_append, List.countP_singleton]
  · simp [State.deliver, hlistening, State.answered]

/-- An agent sends one of the answers that it owes. A callback that is gone does not hear it. -/
theorem send (accounted : Accounted state) {serial : ℕ} {old agent : Agent} {id : String}
    {answer : Answer} (hlookup : state.agents.lookup serial = some old)
    (hwell : agent.WellFormed)
    (hannouncements : ∀ other, agent.announcements other = old.announcements other)
    (hunanswered : ∀ other,
      (if id = other then 1 else 0) + agent.unanswered other = old.unanswered other) :
    Accounted ((state.deliver id answer).setAgent serial agent) := by
  have htotal := fun other ↦ total_setAgent hlookup agent (Agent.unanswered other)
  have hendings : ∀ other, state.terminals other + state.pendingCount other +
      Table.total (state.agents.insert serial agent) (Agent.announcements other) =
      state.terminals other + state.pendingCount other + state.announcements other := fun other ↦ by
    have := total_setAgent hlookup agent (Agent.announcements other)
    rw [State.announcements]
    have := hannouncements other
    omega
  have hheard : ∀ other, (state.deliver id answer).answered other ≤
      state.answered other + if id = other then 1 else 0 := fun other ↦ by
    rw [answered_deliver]
    refine Nat.add_le_add_left ?_ _
    split
    · next hheard => rw [if_pos hheard.2]
    · exact Nat.zero_le _
  refine accounted.transfer rfl rfl rfl rfl (fun _ _ hfound ↦ hfound)
    (accounted.agents_setAgent hlookup hwell) (fun _ hevent _ ↦ hevent) hendings
    (fun other ↦ ?_) (fun other hlistening ↦ ?_) accounted.respondErrors
  · have := htotal other
    have := hheard other
    have := hunanswered other
    show (state.deliver id answer).answered other + state.pendingCount other +
      Table.total (state.agents.insert serial agent) (Agent.unanswered other) ≤ _
    rw [State.unanswered]
    omega
  · have := htotal other
    have := hunanswered other
    have hexact : (state.deliver id answer).answered other =
        state.answered other + if id = other then 1 else 0 := by
      rw [answered_deliver]
      by_cases hid : id = other
      · simp [hid, hlistening]
      · simp [hid]
    show (state.deliver id answer).answered other + state.pendingCount other +
      Table.total (state.agents.insert serial agent) (Agent.unanswered other) = _
    rw [State.unanswered, hexact]
    omega

/-- An agent that owes nothing any more is done. -/
theorem retire (accounted : Accounted state) {serial : ℕ}
    (hlookup : state.agents.lookup serial = some (.ending none [] [])) :
    Accounted { state with agents := state.agents.erase serial } := by
  have htotal : ∀ weight : Agent → ℕ, weight (.ending none [] []) = 0 →
      Table.total (state.agents.erase serial) weight = state.agents.total weight := by
    intro weight hzero
    have := state.agents.total_erase serial weight
    rw [hlookup, Option.elim_some, hzero] at this
    exact this
  have hannouncements : ∀ id, Table.total (state.agents.erase serial) (Agent.announcements id) =
      state.announcements id := fun id ↦ htotal _ rfl
  have hunanswered : ∀ id, Table.total (state.agents.erase serial) (Agent.unanswered id) =
      state.unanswered id := fun id ↦ htotal _ rfl
  refine accounted.transfer rfl rfl rfl rfl (fun _ _ hfound ↦ hfound) (fun other agent hfound ↦ ?_)
    (fun _ hevent _ ↦ hevent) (fun id ↦ congrArg _ (hannouncements id))
    (fun id ↦ Nat.le_of_eq (congrArg _ (hunanswered id)))
    (fun id _ ↦ congrArg _ (hunanswered id)) accounted.respondErrors
  obtain ⟨-, hfound⟩ := Table.lookup_erase_eq_some.mp hfound
  exact ⟨accounted.fresh other agent hfound, accounted.wellFormed other agent hfound⟩

/-- An answer that can still be heard is sent, and the call goes on to publish it. -/
theorem accepting (accounted : Accounted state) {serial : ℕ} {request : PendingRequest}
    {params : RespondParams}
    (hlookup : state.agents.lookup serial = some (.accepting request params))
    (hlistening : state.listening request.event.requestId = true) :
    Accounted (state.accepting serial request params) := by
  obtain ⟨answer, haccept⟩ :=
    PendingResponse.accept_of_validate (accounted.wellFormed serial _ hlookup)
  simp only [State.accepting, haccept, hlistening, if_true]
  refine accounted.send hlookup (by simp [Agent.WellFormed]) (fun other ↦ ?_) fun other ↦ ?_
  · simp [Agent.announcements, ends, List.countP_cons]
  · simp [Agent.unanswered]

theorem countP_eraseIdx {Value : Type} {values : List Value} {index : ℕ} {value : Value}
    (hvalue : values[index]? = some value) (count : Value → Bool) :
    (if count value then 1 else 0) + (values.eraseIdx index).countP count =
      values.countP count := by
  obtain ⟨hbound, rfl⟩ := List.getElem?_eq_some_iff.mp hvalue
  rw [← (List.getElem_cons_eraseIdx_perm hbound).countP_eq count, List.countP_cons, Nat.add_comm]

theorem nextStep (accounted : Accounted state) {serial index : ℕ} {agent : Agent}
    (hlookup : state.agents.lookup serial = some agent)
    (hlistening : ∀ id ∈ agent.acceptedId, state.listening id = true)
    (hstep : state.nextStep serial index agent = some next) : Accounted next := by
  rcases agent with ⟨reason, requests⟩ | ⟨request, params⟩ | ⟨announcement, requests, displays⟩
  · cases hstep
  · obtain rfl := Option.some.inj hstep
    exact accounted.accepting hlookup (hlistening _ rfl)
  · have hwell := accounted.wellFormed serial _ hlookup
    obtain ⟨hannouncement, hrequests, hdisplays⟩ := hwell
    cases announcement with
    | some event =>
      obtain rfl := Option.some.inj hstep
      refine accounted.publish hlookup ⟨by simp, hrequests, hdisplays⟩ (hannouncement event rfl)
        (fun id ↦ ?_) fun id ↦ rfl
      simp only [Agent.announcements, Option.toList_some, Option.toList_none, List.countP_nil,
        List.countP_singleton]
      omega
    | none =>
      cases requests with
      | nil =>
        cases displays with
        | nil =>
          obtain rfl := Option.some.inj hstep
          exact accounted.retire hlookup
        | cons first rest =>
          obtain ⟨event, hevent, rfl⟩ := Option.map_eq_some_iff.mp hstep
          refine accounted.publish hlookup ⟨by simp, by simp, ?_⟩
            (hdisplays event (List.mem_of_getElem? hevent)) (fun id ↦ ?_) fun id ↦ rfl
          · exact fun found hfound ↦ hdisplays found (List.mem_of_mem_eraseIdx hfound)
          · have := countP_eraseIdx hevent (ends id)
            simp only [Agent.announcements, Option.toList_none, List.countP_nil]
            omega
      | cons first rest =>
        obtain ⟨request, hrequest, rfl⟩ := Option.map_eq_some_iff.mp hstep
        have hterminal := hrequests request (List.mem_of_getElem? hrequest)
        refine accounted.send hlookup ⟨?_, ?_, hdisplays⟩ (fun id ↦ ?_) fun id ↦ ?_
        · rintro event ⟨⟩
          exact hterminal
        · exact fun found hfound ↦ hrequests found (List.mem_of_mem_eraseIdx hfound)
        · have := countP_eraseIdx hrequest fun found ↦ ends id found.2
          simp only [Agent.announcements, Option.toList_some, Option.toList_none, List.countP_nil,
            List.countP_singleton]
          omega
        · have := countP_eraseIdx hrequest fun found ↦ decide (found.2.requestId = id)
          simpa only [Agent.unanswered, decide_eq_true_eq] using this

/-! ## Steps of the callbacks -/

/-- A callback moves on. It never hears again once it stopped listening. -/
theorem setCallback (accounted : Accounted state) {id : String} {old phase : CallbackPhase}
    (hlookup : state.callbacks.lookup id = some old)
    (hlistening : phase.isListening = true → old.isListening = true)
    (hphase : ∀ event, phase ≠ .inserted event) : Accounted (state.setCallback id phase) := by
  have hknown : ∀ other, (state.setCallback id phase).known other = state.known other := by
    intro other
    unfold State.known State.setCallback
    rw [Table.lookup_insert]
    split
    · next hother =>
      subst hother
      simp [hlookup]
    · rfl
  exact { accounted with
    inserted := by
      intro other event hfound
      simp only [State.setCallback, Table.lookup_insert] at hfound
      split at hfound
      · exact absurd (Option.some.inj hfound) (hphase event)
      · exact accounted.inserted other event hfound
    announced := fun event hevent hopen ↦
      (hknown _).trans (accounted.announced event hevent hopen)
    endings := fun other ↦ (accounted.endings other).trans (hknown other).symm
    silent := by
      intro other hfound
      simp only [State.setCallback, Table.lookup_insert] at hfound
      split at hfound
      · cases hfound
      · exact accounted.silent other hfound
    listening := by
      intro other hhearing
      apply accounted.listening other
      rw [State.listening_eq] at hhearing ⊢
      simp only [State.setCallback, Table.lookup_insert] at hhearing
      split at hhearing
      · next hother =>
        rw [hother, hlookup]
        exact hlistening hhearing
      · exact hhearing }

/-- An announcement ends nothing. -/
theorem announce (accounted : Accounted state) {event : PairingEvent}
    (hopen : event.isTerminal = false) (hknown : state.known event.requestId = 1) :
    Accounted (state.emit event) :=
  { accounted with
    announced := by
      intro found hfound hfoundOpen
      rcases List.mem_append.mp hfound with hold | hnew
      · exact accounted.announced found hold hfoundOpen
      · rw [List.mem_singleton.mp hnew]
        exact hknown
    endings := by
      intro id
      have hterminals : (state.emit event).terminals id = state.terminals id := by
        rw [terminals_emit, ends, hopen]
        rfl
      have hendings := accounted.endings id
      rw [← hterminals] at hendings
      exact hendings }

theorem known_of_callback {id : String} {phase : CallbackPhase}
    (hlookup : state.callbacks.lookup id = some phase) : state.known id = 1 := by
  simp [State.known, hlookup]

theorem known_of_displayTask {id : String} {task : DisplayTask}
    (hlookup : state.displayTasks.lookup id = some task) : state.known id = 1 := by
  simp [State.known, hlookup]

theorem announcePrompt (accounted : Accounted state) {id : String} {event : PairingEvent}
    (hlookup : state.callbacks.lookup id = some (.inserted event)) (timers : List String) :
    Accounted ({ state.emit event with timers := timers }.setCallback id .waiting) := by
  obtain ⟨hname, hopen⟩ := accounted.inserted id event hlookup
  have hannounced := accounted.announce hopen (hname ▸ known_of_callback hlookup)
  have htimers : Accounted { state.emit event with timers := timers } := { hannounced with }
  exact htimers.setCallback hlookup (fun _ ↦ rfl) (by simp)

theorem known_of_unused {id : String} (hunused : state.Unused id) : state.known id = 0 := by
  simp [State.known, hunused.1, hunused.2]

/-- Nothing was announced for an id that is not in use. -/
theorem ne_of_unused (accounted : Accounted state) {event : PairingEvent}
    (hevent : event ∈ state.broker.events) (hopen : event.isTerminal = false) {id : String}
    (hunused : state.Unused id) : event.requestId ≠ id := by
  rintro rfl
  have hone := accounted.announced event hevent hopen
  rw [known_of_unused hunused] at hone
  cases hone

theorem pendingCount_prompt (accounted : Accounted state) (prompt : Prompt) (deviceKey : String)
    (hunused : state.Unused state.broker.promptId) (id : String) :
    (state.prompt prompt deviceKey).pendingCount id =
      state.pendingCount id + if id = state.broker.promptId then 1 else 0 := by
  have hsilent := accounted.silent state.broker.promptId hunused.1
  unfold State.pendingCount at hsilent ⊢
  simp only [State.prompt, State.setCallback, PairingBroker.insertRequest, Table.lookup_insert]
  by_cases hid : id = state.broker.promptId
  · subst hid
    simp only [if_true, Option.isSome_some]
    omega
  · simp [hid]

theorem known_prompt (prompt : Prompt) (deviceKey : String)
    (hunused : state.Unused state.broker.promptId) (id : String) :
    (state.prompt prompt deviceKey).known id =
      state.known id + if id = state.broker.promptId then 1 else 0 := by
  by_cases hid : id = state.broker.promptId
  · rw [hid, known_of_unused hunused]
    simp [State.known, State.prompt, State.setCallback]
  · simp [State.known, State.prompt, State.setCallback, hid]

/-- A new prompt is pending, and everything about its id starts from there. -/
theorem prompt (accounted : Accounted state) (prompt : Prompt) (deviceKey : String)
    (hunused : state.Unused state.broker.promptId) :
    Accounted (state.prompt prompt deviceKey) := by
  have hsilent := accounted.silent state.broker.promptId hunused.1
  have hpending := accounted.pendingCount_prompt prompt deviceKey hunused
  have hknown := known_prompt prompt deviceKey hunused
  exact { accounted with
    named := by
      intro id request hlookup
      simp only [State.prompt, State.setCallback, PairingBroker.insertRequest,
        Table.lookup_insert] at hlookup
      split at hlookup
      · next hid =>
        obtain rfl := Option.some.inj hlookup
        exact hid.symm
      · exact accounted.named id request hlookup
    inserted := by
      intro id event hlookup
      simp only [State.prompt, State.setCallback, Table.lookup_insert] at hlookup
      split at hlookup
      · next hid =>
        obtain rfl := CallbackPhase.inserted.inj (Option.some.inj hlookup)
        exact ⟨hid.symm, rfl⟩
      · exact accounted.inserted id event hlookup
    announced := by
      intro event hevent hopen
      rw [hknown, if_neg (accounted.ne_of_unused hevent hopen hunused)]
      exact accounted.announced event hevent hopen
    endings := by
      intro id
      have hendings := accounted.endings id
      have : state.terminals id + (state.prompt prompt deviceKey).pendingCount id +
          state.announcements id + state.displayOwed id =
          (state.prompt prompt deviceKey).known id := by
        rw [hpending, hknown]
        omega
      exact this
    answers := by
      intro id
      have hanswers := accounted.answers id
      have : state.answered id + (state.prompt prompt deviceKey).pendingCount id +
          state.unanswered id ≤ 1 := by
        rw [hpending]
        split
        · next hid =>
          rw [hid]
          omega
        · omega
      exact this
    silent := by
      intro id hlookup
      simp only [State.prompt, State.setCallback, Table.lookup_insert] at hlookup
      split at hlookup
      · cases hlookup
      · next hid =>
        have hzero := accounted.silent id hlookup
        have : state.answered id + (state.prompt prompt deviceKey).pendingCount id +
            state.unanswered id = 0 := by
          rw [hpending, if_neg hid]
          exact hzero
        exact this
    listening := by
      intro id hhearing
      have : state.answered id + (state.prompt prompt deviceKey).pendingCount id +
          state.unanswered id = 1 := by
        rw [hpending]
        split
        · next hid =>
          rw [hid]
          omega
        · next hid =>
          apply accounted.listening id
          rw [State.listening_eq] at hhearing ⊢
          simpa only [State.prompt, State.setCallback, Table.lookup_insert, if_neg hid]
            using hhearing
      exact this }

/-! ## Steps of the displays -/

theorem known_setDisplayTask {id kind : String} {old : DisplayTask} (phase : DisplayPhase)
    (hlookup : state.displayTasks.lookup id = some old) (other : String) :
    (state.setDisplayTask id kind phase).known other = state.known other := by
  unfold State.known State.setDisplayTask
  rw [Table.lookup_insert]
  split
  · next hother =>
    subst hother
    simp [hlookup]
  · rfl

theorem displayOwed_setDisplayTask {id kind : String} {phase : DisplayPhase} (other : String) :
    (state.setDisplayTask id kind phase).displayOwed other =
      if other = id ∧ id ∉ state.swept then DisplayTask.owed ⟨kind, phase⟩
      else state.displayOwed other := by
  unfold State.displayOwed State.setDisplayTask
  rw [Table.lookup_insert]
  by_cases hother : other = id
  · subst hother
    by_cases hswept : other ∈ state.swept <;> simp [hswept]
  · simp [hother]

theorem sweptKnown_setDisplayTask (accounted : Accounted state) (id kind : String)
    (phase : DisplayPhase) :
    ∀ other ∈ state.swept,
      ((state.setDisplayTask id kind phase).displayTasks.lookup other).isSome = true := by
  intro other hswept
  rw [State.setDisplayTask, Table.lookup_insert]
  split
  · rfl
  · exact accounted.sweptKnown other hswept

theorem displayInserted_setDisplayTask (accounted : Accounted state) {id kind : String}
    {phase : DisplayPhase} (hphase : ∀ event, phase ≠ .inserted event) :
    ∀ other found event,
      (state.setDisplayTask id kind phase).displayTasks.lookup other =
        some ⟨found, .inserted event⟩ →
      event.requestId = other ∧ event.isTerminal = false := by
  intro other found event hfound
  rw [State.setDisplayTask, Table.lookup_insert] at hfound
  split at hfound
  · exact absurd (DisplayTask.mk.inj (Option.some.inj hfound)).2 (hphase event)
  · exact accounted.displayInserted other found event hfound

/-- A display task moves on without ending its display. -/
theorem setDisplayTask (accounted : Accounted state) {id kind : String} {old phase : DisplayPhase}
    (hlookup : state.displayTasks.lookup id = some ⟨kind, old⟩) (hold : old ≠ .finished)
    (hphase : phase = .waiting ∨
      phase = .removed ∧ state.broker.displays.lookup id = none ∧ id ∉ state.swept) :
    Accounted (state.setDisplayTask id kind phase) := by
  have howed : ∀ other,
      (state.setDisplayTask id kind phase).displayOwed other = state.displayOwed other := by
    intro other
    rw [displayOwed_setDisplayTask]
    split
    · next hother =>
      rw [hother.1, State.displayOwed, if_neg hother.2, hlookup]
      rcases hphase with rfl | ⟨rfl, -, -⟩ <;> simp [DisplayTask.owed, hold]
    · rfl
  exact { accounted with
    shown := by
      intro other event hdisplay
      obtain ⟨hname, hswept, task, htask, hshowing⟩ := accounted.shown other event hdisplay
      refine ⟨hname, hswept, ?_⟩
      rw [State.setDisplayTask, Table.lookup_insert]
      split
      · next hother =>
        rcases hphase with rfl | ⟨-, hnone, -⟩
        · exact ⟨_, rfl, rfl⟩
        · have hdisplayed : state.broker.displays.lookup other = some event := hdisplay
          rw [hother, hnone] at hdisplayed
          cases hdisplayed
      · exact ⟨task, htask, hshowing⟩
    displayInserted := by
      apply accounted.displayInserted_setDisplayTask
      rcases hphase with rfl | ⟨rfl, -, -⟩ <;> exact fun _ ↦ DisplayPhase.noConfusion
    removed := by
      intro other found hfound
      simp only [State.setDisplayTask, Table.lookup_insert] at hfound
      split at hfound
      · next hother =>
        rcases hphase with rfl | ⟨-, -, hswept⟩
        · cases hfound
        · exact hother ▸ hswept
      · exact accounted.removed other found hfound
    sweptKnown := accounted.sweptKnown_setDisplayTask id kind phase
    announced := fun event hevent hopen ↦
      (known_setDisplayTask phase hlookup _).trans (accounted.announced event hevent hopen)
    endings := by
      intro other
      have hendings := accounted.endings other
      have hknown : (state.setDisplayTask id kind phase).known other = state.known other :=
        known_setDisplayTask phase hlookup other
      rw [← howed, ← hknown] at hendings
      exact hendings }

theorem announceDisplay (accounted : Accounted state) {id kind : String} {event : PairingEvent}
    (hlookup : state.displayTasks.lookup id = some ⟨kind, .inserted event⟩) :
    Accounted ((state.emit event).setDisplayTask id kind .waiting) := by
  obtain ⟨hname, hopen⟩ := accounted.displayInserted id kind event hlookup
  exact (accounted.announce hopen (hname ▸ known_of_displayTask hlookup)).setDisplayTask hlookup
    (by simp) (.inl rfl)

theorem cancelDisplay (accounted : Accounted state) {id kind : String}
    (hlookup : state.displayTasks.lookup id = some ⟨kind, .waiting⟩) (hswept : id ∉ state.swept) :
    Accounted ({ state with broker.displays := state.broker.displays.erase id }.setDisplayTask
      id kind .removed) := by
  have herased : Accounted { state with broker.displays := state.broker.displays.erase id } :=
    { accounted with
      shown := by
        intro other event hdisplay
        obtain ⟨-, hdisplay⟩ := Table.lookup_erase_eq_some.mp hdisplay
        exact accounted.shown other event hdisplay }
  refine herased.setDisplayTask hlookup (by simp) (.inr ⟨rfl, ?_, hswept⟩)
  rw [Table.lookup_erase, if_pos rfl]

/-- The task announces the end that it owed. -/
theorem announceCancelled (accounted : Accounted state) {id kind deviceKey : String}
    (hlookup : state.displayTasks.lookup id = some ⟨kind, .removed⟩) :
    Accounted ((state.emit (PairingBroker.displayCancelled id kind deviceKey)).setDisplayTask
      id kind .finished) := by
  have hswept := accounted.removed id kind hlookup
  have hbalance : ∀ other,
      (state.emit (PairingBroker.displayCancelled id kind deviceKey)).terminals other +
        (state.setDisplayTask id kind .finished).displayOwed other =
      state.terminals other + state.displayOwed other := by
    intro other
    rw [terminals_emit, displayOwed_setDisplayTask]
    by_cases hother : other = id
    · subst hother
      simp [ends, PairingBroker.displayCancelled, PairingEvent.isTerminal, hswept,
        State.displayOwed, hlookup, DisplayTask.owed]
    · simp [ends, PairingBroker.displayCancelled, hother, Ne.symm hother]
  exact { accounted with
    shown := by
      intro other event hdisplay
      obtain ⟨hname, hshown, task, htask, hshowing⟩ := accounted.shown other event hdisplay
      refine ⟨hname, hshown, ?_⟩
      rw [State.setDisplayTask, Table.lookup_insert]
      split
      · next hother =>
        obtain rfl := Option.some.inj (hlookup.symm.trans (hother ▸ htask))
        cases hshowing
      · exact ⟨task, htask, hshowing⟩
    displayInserted := accounted.displayInserted_setDisplayTask fun _ ↦ DisplayPhase.noConfusion
    removed := by
      intro other found hfound
      simp only [State.setDisplayTask, Table.lookup_insert] at hfound
      split at hfound
      · cases hfound
      · exact accounted.removed other found hfound
    sweptKnown := accounted.sweptKnown_setDisplayTask id kind .finished
    announced := by
      intro event hevent hopen
      rcases List.mem_append.mp hevent with hold | hnew
      · exact (known_setDisplayTask _ hlookup _).trans (accounted.announced event hold hopen)
      · rw [List.mem_singleton.mp hnew] at hopen
        cases hopen
    endings := by
      intro other
      have hendings := accounted.endings other
      have := hbalance other
      have hknown : (state.setDisplayTask id kind .finished).known other = state.known other :=
        known_setDisplayTask .finished hlookup other
      have : (state.emit (PairingBroker.displayCancelled id kind deviceKey)).terminals other +
          state.pendingCount other + state.announcements other +
          (state.setDisplayTask id kind .finished).displayOwed other =
          (state.setDisplayTask id kind .finished).known other := by
        omega
      exact this }

/-- The id of a new display was not swept. -/
theorem not_swept_of_unused (accounted : Accounted state) {id : String}
    (hunused : state.Unused id) : id ∉ state.swept := by
  intro hmember
  have hsome := accounted.sweptKnown id hmember
  rw [hunused.2] at hsome
  cases hsome

theorem displayOwed_display (accounted : Accounted state) (display : Display) (deviceKey : String)
    (hunused : state.Unused state.broker.displayId) (id : String) :
    (state.display display deviceKey).displayOwed id =
      state.displayOwed id + if id = state.broker.displayId then 1 else 0 := by
  simp only [State.displayOwed, State.display, State.setDisplayTask, Table.lookup_insert]
  by_cases hid : id = state.broker.displayId
  · subst hid
    simp [accounted.not_swept_of_unused hunused, hunused.2, DisplayTask.owed]
  · simp [hid]

theorem known_display (display : Display) (deviceKey : String)
    (hunused : state.Unused state.broker.displayId) (id : String) :
    (state.display display deviceKey).known id =
      state.known id + if id = state.broker.displayId then 1 else 0 := by
  by_cases hid : id = state.broker.displayId
  · rw [hid, known_of_unused hunused]
    simp [State.known, State.display, State.setDisplayTask]
  · simp [State.known, State.display, State.setDisplayTask, hid]

/-- A new display is owed by the task that starts with it. The displays that it replaces are
still owed by theirs. -/
theorem display (accounted : Accounted state) (display : Display) (deviceKey : String)
    (hunused : state.Unused state.broker.displayId) :
    Accounted (state.display display deviceKey) := by
  have hswept := accounted.not_swept_of_unused hunused
  have howed := accounted.displayOwed_display display deviceKey hunused
  have hknown := known_display display deviceKey hunused
  exact { accounted with
    shown := by
      intro id event hdisplay
      simp only [State.display, State.setDisplayTask, PairingBroker.display,
        Table.lookup_insert] at hdisplay ⊢
      split at hdisplay
      · next hid =>
        obtain rfl := Option.some.inj hdisplay
        exact ⟨hid.symm, hid ▸ hswept, _, if_pos hid, rfl⟩
      · next hid =>
        rw [Table.lookup_retain, Option.filter_eq_some_iff] at hdisplay
        rw [if_neg hid]
        exact accounted.shown id event hdisplay.1
    displayInserted := by
      intro id kind event hfound
      simp only [State.display, State.setDisplayTask, Table.lookup_insert] at hfound
      split at hfound
      · next hid =>
        obtain ⟨-, hphase⟩ := DisplayTask.mk.inj (Option.some.inj hfound)
        obtain rfl := DisplayPhase.inserted.inj hphase
        exact ⟨hid.symm, rfl⟩
      · exact accounted.displayInserted id kind event hfound
    removed := by
      intro id kind hfound
      simp only [State.display, State.setDisplayTask, Table.lookup_insert] at hfound
      split at hfound
      · cases hfound
      · exact accounted.removed id kind hfound
    sweptKnown := accounted.sweptKnown_setDisplayTask state.broker.displayId display.kind _
    announced := by
      intro event hevent hopen
      rw [hknown, if_neg (accounted.ne_of_unused hevent hopen hunused)]
      exact accounted.announced event hevent hopen
    endings := by
      intro id
      have hendings := accounted.endings id
      have : state.terminals id + state.pendingCount id + state.announcements id +
          (state.display display deviceKey).displayOwed id =
          (state.display display deviceKey).known id := by
        rw [howed, hknown]
        omega
      exact this }

/-- A display is shown exactly when one of the events that `cancel_all` takes is its own. -/
theorem countP_displays (accounted : Accounted state) (reason id : String) :
    (state.broker.displays.values.map fun event : PairingEvent ↦ event.cancelled reason).countP
        (ends id) = if (state.broker.displays.lookup id).isSome then 1 else 0 := by
  rw [List.countP_map, ← Table.countP_values (fun key event hlookup ↦
    (accounted.shown key event hlookup).1) id]
  apply List.countP_congr
  intro event _
  simp [ends]

/-- The second half of `cancel_all`: the displays are owed by it from now on. -/
theorem takeDisplays (accounted : Accounted state) {serial : ℕ} {reason : String}
    {requests : List PendingRequest}
    (hlookup : state.agents.lookup serial = some (.cancelAll reason requests)) :
    Accounted (state.takeDisplays serial reason requests) := by
  set ended : Agent := .ending none
    (requests.map fun request : PendingRequest ↦
      (request.response.finish .canceled, request.event.cancelled reason))
    (state.broker.displays.values.map fun event : PairingEvent ↦ event.cancelled reason)
    with hended
  have hannouncements : ∀ id, ended.announcements id =
      (Agent.cancelAll reason requests).announcements id +
        if (state.broker.displays.lookup id).isSome then 1 else 0 := by
    intro id
    simp only [hended, Agent.announcements, accounted.countP_displays, List.countP_map]
    simp [ends, Function.comp_def]
    rfl
  have hunanswered : ∀ id, ended.unanswered id =
      (Agent.cancelAll reason requests).unanswered id := by
    intro id
    simp only [hended, Agent.unanswered, List.countP_map]
    rfl
  have hwell : ended.WellFormed := by
    refine ⟨by simp, ?_, ?_⟩ <;> simp
  have howed : ∀ id, (state.takeDisplays serial reason requests).displayOwed id +
      (if (state.broker.displays.lookup id).isSome then 1 else 0) = state.displayOwed id := by
    intro id
    have hkeys := Table.mem_keys state.broker.displays id
    simp only [State.displayOwed, State.takeDisplays, State.setAgent, List.mem_append]
    cases hdisplay : state.broker.displays.lookup id with
    | none => simp [hkeys, hdisplay]
    | some event =>
      obtain ⟨-, hswept, task, htask, hshowing⟩ := accounted.shown id event hdisplay
      have hopen : task.phase ≠ .finished := by
        rintro hphase
        rw [hphase] at hshowing
        cases hshowing
      simp [hkeys, hdisplay, hswept, htask, DisplayTask.owed, hopen]
  have hannounced : ∀ id, (state.takeDisplays serial reason requests).announcements id =
      state.announcements id + if (state.broker.displays.lookup id).isSome then 1 else 0 := by
    intro id
    have hsum := total_setAgent hlookup ended (Agent.announcements id)
    rw [hannouncements, Nat.add_left_comm, Nat.add_comm] at hsum
    exact Nat.add_left_cancel hsum
  have hanswers : ∀ id, (state.takeDisplays serial reason requests).unanswered id =
      state.unanswered id := by
    intro id
    have hsum := total_setAgent hlookup ended (Agent.unanswered id)
    rw [hunanswered] at hsum
    exact Nat.add_right_cancel hsum
  exact { accounted with
    shown := by
      intro id event hdisplay
      simp [State.takeDisplays, State.setAgent] at hdisplay
    fresh := fun other agent hfound ↦ (accounted.agents_setAgent hlookup hwell other agent hfound).1
    wellFormed := fun other agent hfound ↦
      (accounted.agents_setAgent hlookup hwell other agent hfound).2
    removed := by
      intro id kind hfound hmember
      simp only [State.takeDisplays, State.setAgent, List.mem_append, Table.mem_keys] at hmember
      rcases hmember with hold | ⟨event, hdisplay⟩
      · exact accounted.removed id kind hfound hold
      · obtain ⟨-, -, task, htask, hshowing⟩ := accounted.shown id event hdisplay
        obtain rfl := Option.some.inj (htask.symm.trans hfound)
        cases hshowing
    sweptKnown := by
      intro id hmember
      simp only [State.takeDisplays, State.setAgent, List.mem_append, Table.mem_keys] at hmember
      rcases hmember with hold | ⟨event, hdisplay⟩
      · exact accounted.sweptKnown id hold
      · obtain ⟨-, -, task, htask, -⟩ := accounted.shown id event hdisplay
        exact Option.isSome_iff_exists.mpr ⟨task, htask⟩
    endings := by
      intro id
      have hendings := accounted.endings id
      have hmoved := howed id
      rw [hannounced]
      change state.terminals id + state.pendingCount id + _ + _ = state.known id
      omega
    answers := fun id ↦ by
      rw [hanswers]
      exact accounted.answers id
    silent := fun id hfound ↦ by
      rw [hanswers]
      exact accounted.silent id hfound
    listening := fun id hhearing ↦ by
      rw [hanswers]
      exact accounted.listening id hhearing }

end Accounted

theorem accounted_step (state : State) (action : Action) (next : State)
    (accounted : Accounted state) (horderly : Orderly state action)
    (hstep : system.step state action = some next) : Accounted next := by
  cases steps_of_step hstep with
  | prompt prompt deviceKey => exact accounted.prompt prompt deviceKey horderly
  | announcePrompt hinserted => exact accounted.announcePrompt hinserted _
  | @timeout id =>
    have htimers : Accounted { state with timers := state.timers.erase id } := { accounted with }
    exact htimers.cancelPending id "timeout"
  | wake hwaiting =>
    exact accounted.setCallback hwaiting (by simp [CallbackPhase.isListening]) (by simp)
  | dropReceiver hwaiting =>
    exact accounted.setCallback hwaiting (by simp [CallbackPhase.isListening]) (by simp)
  | @dropGuard id hdropping =>
    exact (accounted.setCallback hdropping (by simp [CallbackPhase.isListening])
      (by simp)).cancelPending id "bluez-cancelled"
  | respond params => exact accounted.respond params
  | cancelAll reason => exact accounted.cancelAll reason
  | takeDisplays hagent => exact accounted.takeDisplays hagent
  | next hagent hnext =>
    refine accounted.nextStep hagent (fun id hid ↦ horderly id ?_) hnext
    rw [hagent]
    exact hid
  | display display deviceKey => exact accounted.display display deviceKey horderly
  | announceDisplay htask => exact accounted.announceDisplay htask
  | cancelDisplay htask => exact accounted.cancelDisplay htask horderly
  | announceCancelled htask => exact accounted.announceCancelled htask

/-- In an orderly run every interaction ends exactly once. -/
theorem endsOnce_of_meets (actions : List Action) (final : State)
    (hrun : system.run system.init actions = some final)
    (horderly : system.Meets Orderly system.init actions) : EndsOnce final :=
  (system.run_invariant_of_meets accounted_step accounted_init horderly hrun).endsOnce

/-- A passkey that is refused once and then accepted, a confirmation that times out while BlueZ
drops it, a service that `cancel_all` cancels, and two displays of one device. -/
def orderlyRun : List Action :=
  [.prompt .passkey "d", .announcePrompt "pairing-1",
    .respond ⟨.string "pairing-1", .bool true, .string "12x"⟩,
    .respond ⟨.string "pairing-1", .bool true, .string "000123"⟩, .next 0 0, .next 0 0, .next 0 0,
    .wake "pairing-1", .prompt (.confirmation 42) "d", .announcePrompt "pairing-2",
    .dropReceiver "pairing-2", .timeout "pairing-2", .dropGuard "pairing-2", .next 1 0, .next 1 0,
    .next 1 0, .display (.passkey 7 0) "d", .announceDisplay "pairing-display-3",
    .display (.passkey 7 1) "d", .announceDisplay "pairing-display-4",
    .cancelDisplay "pairing-display-3", .announceCancelled "pairing-display-3" "d",
    .prompt (.service "uuid") "d", .announcePrompt "pairing-5", .cancelAll "bluez-unavailable",
    .takeDisplays 2, .next 2 0, .next 2 0, .next 2 0, .next 2 0, .wake "pairing-5"]

theorem endsOnce_of_orderlyRun :
    ∃ final, system.run system.init orderlyRun = some final ∧ EndsOnce final :=
  ⟨_, rfl, endsOnce_of_meets orderlyRun _ rfl (by decide)⟩

/-- A `cancel_all` ends a display, and then BlueZ cancels it. -/
def sweptDisplayRun : List Action :=
  [.display (.pinCode "0000") "d", .announceDisplay "pairing-display-1",
    .cancelAll "bluez-unavailable", .takeDisplays 0, .next 0 0,
    .cancelDisplay "pairing-display-1", .announceCancelled "pairing-display-1" "d"]

/-- BlueZ drops the callback of a prompt that is just being accepted. -/
def lostAnswerRun : List Action :=
  [.prompt .authorization "d", .announcePrompt "pairing-1",
    .respond ⟨.string "pairing-1", .bool true, .absent⟩, .dropReceiver "pairing-1", .next 0 0,
    .dropGuard "pairing-1"]

theorem not_endsOnce_of_lateCancellation :
    (∃ final, system.run system.init sweptDisplayRun = some final ∧
        final.terminals "pairing-display-1" = 2 ∧ ¬EndsOnce final) ∧
      ∃ final, system.run system.init lostAnswerRun = some final ∧
        final.broker.pending.lookup "pairing-1" = none ∧ final.terminals "pairing-1" = 0 ∧
        final.respondErrors = [⟨"pairing request was cancelled", some "pairing-1"⟩] ∧
        ¬EndsOnce final := by
  refine ⟨⟨_, rfl, rfl, fun honce ↦ ?_⟩, ⟨_, rfl, rfl, rfl, rfl, fun honce ↦ ?_⟩⟩
  · exact absurd (honce.atMostOnce "pairing-display-1") (by decide)
  · exact absurd (honce.respondErrors _ List.mem_cons_self) (by decide)

end BtDaemon.Pairing
