import BtDaemon.FastPair.Attempts

/-!
# The fence around connection attempts

The link of an address names one attempt by its id. As long as no two unfinished attempts of
an address share an id, the id test of `connect_completed` and `connection_failed` stops
every late result, and a live reader always still has its link. The one result that carries
no id is the PSM answer.
-/

namespace BtDaemon.FastPair.Attempts

open Transition VendorChannel ConnectionState

theorem Stage.attempt_eq_none {stage : Stage} : stage.attempt = none ↔ stage = .streaming := by
  cases stage <;> simp [Stage.attempt]

/-- A link is traced to the one task it was made for: by the attempt id while it is pending,
and by the address once a stream is accepted. -/
structure Traced (state : State) : Prop where
  fresh : ∀ serial task, state.tasks.lookup serial = some task → serial < state.spawned
  pending : ∀ serial task attempt started, state.tasks.lookup serial = some task →
    task.stage.attempt = some attempt →
    state.connections.links.lookup task.address = some (.connecting attempt started) →
    state.owner.lookup task.address = some serial
  streaming : ∀ serial task, state.tasks.lookup serial = some task → task.stage = .streaming →
    state.owner.lookup task.address = some serial ∧
      ∃ start, state.connections.links.lookup task.address = some (.connected start)

theorem traced_init : Traced State.init where
  fresh serial task hlookup := by simp [State.init] at hlookup
  pending serial task attempt started hlookup := by simp [State.init] at hlookup
  streaming serial task hlookup := by simp [State.init] at hlookup

namespace Traced

variable {state next : State}

/-- The tasks of the first state that a step may have moved on, finished, or left. -/
def Continues (state next : State) : Prop :=
  ∀ serial task, next.tasks.lookup serial = some task →
    ∃ before, state.tasks.lookup serial = some before ∧ before.address = task.address ∧
      before.stage.attempt = task.stage.attempt

theorem continues_of_eq (htasks : next.tasks = state.tasks) : Continues state next := by
  intro serial task hlookup
  exact ⟨task, htasks ▸ hlookup, rfl, rfl⟩

theorem continues_setStage {serial : ℕ} {task : Task} {stage : Stage}
    (hlookup : state.tasks.lookup serial = some task)
    (hattempt : task.stage.attempt = stage.attempt)
    (htasks : next.tasks = state.tasks.insert serial { task with stage := stage }) :
    Continues state next := by
  intro other found hfound
  rw [htasks, Table.lookup_insert_eq_some] at hfound
  rcases hfound with ⟨hother, rfl⟩ | ⟨-, hfound⟩
  · exact ⟨task, hother ▸ hlookup, rfl, hattempt⟩
  · exact ⟨found, hfound, rfl, rfl⟩

theorem continues_finish {serial : ℕ} (htasks : next.tasks = state.tasks.erase serial) :
    Continues state next := by
  intro other found hfound
  rw [htasks, Table.lookup_erase_eq_some] at hfound
  exact ⟨found, hfound.2, rfl, rfl⟩

/-- A step that makes no link keeps the trace when every reader keeps its own. -/
theorem weaken (traced : Traced state) (hcontinues : Continues state next)
    (hspawned : next.spawned = state.spawned) (howner : next.owner = state.owner)
    (hlinks : ∀ serial task, next.tasks.lookup serial = some task →
      next.connections.links.lookup task.address = state.connections.links.lookup task.address ∨
        next.connections.links.lookup task.address = none ∧ task.stage ≠ .streaming) :
    Traced next where
  fresh serial task hlookup := by
    obtain ⟨before, hbefore, _⟩ := hcontinues serial task hlookup
    rw [hspawned]
    exact traced.fresh serial before hbefore
  pending serial task attempt started hlookup hattempt hlink := by
    obtain ⟨before, hbefore, haddress, hsame⟩ := hcontinues serial task hlookup
    rcases hlinks serial task hlookup with hkept | ⟨hnone, _⟩
    · rw [howner, ← haddress]
      rw [hkept, ← haddress] at hlink
      exact traced.pending serial before attempt started hbefore (hsame.trans hattempt) hlink
    · rw [hnone] at hlink
      cases hlink
  streaming serial task hlookup hstage := by
    obtain ⟨before, hbefore, haddress, hsame⟩ := hcontinues serial task hlookup
    rw [Stage.attempt_eq_none.mpr hstage, Stage.attempt_eq_none] at hsame
    obtain ⟨hown, hlink⟩ := traced.streaming serial before hbefore hsame
    rcases hlinks serial task hlookup with hkept | ⟨_, hpending⟩
    · rw [howner, hkept, ← haddress]
      exact ⟨hown, hlink⟩
    · exact absurd hstage hpending

/-- A pending link, or none, at the address of a task rules out that it is a reader. -/
theorem not_streaming (traced : Traced state) {serial : ℕ} {task : Task}
    (hlookup : state.tasks.lookup serial = some task)
    (hlink : (state.connections.links.lookup task.address).any LinkState.isConnected = false) :
    task.stage ≠ .streaming := by
  intro hstage
  obtain ⟨_, start, hconnected⟩ := traced.streaming serial task hlookup hstage
  simp [hconnected, LinkState.isConnected] at hlink

/-- Erasing one link keeps the trace when the tasks that are left at it are no readers. -/
theorem weaken_erase (traced : Traced state) {address : Address}
    (hcontinues : Continues state next)
    (hspawned : next.spawned = state.spawned) (howner : next.owner = state.owner)
    (hlinks : next.connections.links = state.connections.links.erase address)
    (hreaders : ∀ serial task, next.tasks.lookup serial = some task → task.address = address →
      task.stage ≠ .streaming) : Traced next := by
  apply traced.weaken hcontinues hspawned howner
  intro serial task hlookup
  rw [hlinks, Table.lookup_erase]
  by_cases haddress : task.address = address
  · exact .inr ⟨if_pos haddress, hreaders serial task hlookup haddress⟩
  · exact .inl (if_neg haddress)

/-- Erasing a pending link leaves every reader its own. -/
theorem weaken_pending (traced : Traced state) {address : Address}
    (hidle : (state.connections.links.lookup address).any LinkState.isConnected = false)
    (hcontinues : Continues state next)
    (hspawned : next.spawned = state.spawned) (howner : next.owner = state.owner)
    (hlinks : next.connections.links = state.connections.links.erase address) : Traced next := by
  apply traced.weaken_erase hcontinues hspawned howner hlinks
  intro serial task hlookup haddress
  obtain ⟨before, hbefore, hsame, hattempt⟩ := hcontinues serial task hlookup
  have hpending : before.stage ≠ .streaming :=
    traced.not_streaming hbefore (by rw [hsame, haddress]; exact hidle)
  rwa [ne_eq, ← Stage.attempt_eq_none, hattempt, Stage.attempt_eq_none] at hpending

theorem weaken_of_links_eq (traced : Traced state) (hcontinues : Continues state next)
    (hspawned : next.spawned = state.spawned) (howner : next.owner = state.owner)
    (hlinks : next.connections.links = state.connections.links) : Traced next :=
  traced.weaken hcontinues hspawned howner fun serial task _ ↦ .inl (by rw [hlinks])

/-- Making a link for a new task keeps the trace when no older task can take it for its own. -/
theorem spawn (traced : Traced state) {connections : ConnectionState} {address : Address}
    {link : LinkState} {stage : Stage}
    (hlinks : connections.links = state.connections.links.insert address link)
    (hothers : ∀ serial task, state.tasks.lookup serial = some task → task.address = address →
      task.stage ≠ .streaming ∧
        ∀ attempt started, task.stage.attempt = some attempt → link ≠ .connecting attempt started)
    (hstage : stage = .streaming → ∃ start, link = .connected start) :
    Traced ({ state with connections := connections }.spawn address stage) where
  fresh serial task hlookup := by
    simp only [State.spawn, Table.lookup_insert] at hlookup ⊢
    split at hlookup
    · omega
    · have := traced.fresh serial task hlookup
      omega
  pending serial task attempt started hlookup hattempt hlink := by
    simp only [State.spawn, Table.lookup_insert, hlinks] at hlookup hlink ⊢
    split at hlookup
    · next hserial =>
      obtain rfl := Option.some.inj hlookup
      simp [hserial]
    · by_cases haddress : task.address = address
      · rw [if_pos haddress] at hlink
        exact absurd (Option.some.inj hlink)
          ((hothers serial task hlookup haddress).2 attempt started hattempt)
      · rw [if_neg haddress] at hlink ⊢
        exact traced.pending serial task attempt started hlookup hattempt hlink
  streaming serial task hlookup hstreaming := by
    simp only [State.spawn, Table.lookup_insert, hlinks] at hlookup ⊢
    split at hlookup
    · next hserial =>
      obtain rfl := Option.some.inj hlookup
      obtain ⟨start, rfl⟩ := hstage hstreaming
      simp [hserial]
    · have haddress : task.address ≠ address := fun haddress ↦
        (hothers serial task hlookup haddress).1 hstreaming
      rw [if_neg haddress, if_neg haddress]
      exact traced.streaming serial task hlookup hstreaming

/-- The task that the current attempt belongs to may turn its link into a stream. -/
theorem accept (traced : Traced state) {connections : ConnectionState} {serial : ℕ}
    {task : Task} {attempt : UInt64}
    (hlookup : state.tasks.lookup serial = some task)
    (hattempt : task.stage.attempt = some attempt)
    (hcurrent : state.connections.isCurrentAttempt task.address attempt = true)
    (hlinks : connections.links =
      state.connections.links.insert task.address (.connected state.now)) :
    Traced ({ state with connections := connections }.setStage serial task .streaming) := by
  have hidle := ConnectionState.not_isConnected_of_isCurrentAttempt hcurrent
  have hown : state.owner.lookup task.address = some serial := by
    obtain ⟨link, hlink, hid⟩ := (Option.any_eq_true _ _).mp hcurrent
    cases link with
    | connected start => cases hid
    | connecting current started =>
      obtain rfl : current = attempt := by simpa [LinkState.isAttempt] using hid
      exact traced.pending serial task current started hlookup hattempt hlink
  constructor
  · intro other found hfound
    simp only [State.setStage, Table.lookup_insert] at hfound ⊢
    split at hfound
    · next hother => exact hother ▸ traced.fresh serial task hlookup
    · exact traced.fresh other found hfound
  · intro other found id started hfound hid hlink
    simp only [State.setStage, Table.lookup_insert, hlinks] at hfound hlink ⊢
    split at hfound
    · obtain rfl := Option.some.inj hfound
      cases hid
    · split at hlink
      · cases Option.some.inj hlink
      · exact traced.pending other found id started hfound hid hlink
  · intro other found hfound hstreaming
    simp only [State.setStage, Table.lookup_insert, hlinks] at hfound ⊢
    split at hfound
    · next hother =>
      obtain rfl := Option.some.inj hfound
      exact ⟨hother ▸ hown, state.now, if_pos rfl⟩
    · have haddress : found.address ≠ task.address := by
        intro haddress
        exact traced.not_streaming hfound (haddress ▸ hidle) hstreaming
      rw [if_neg haddress]
      exact traced.streaming other found hfound hstreaming

end Traced

/-! ## What the task steps are -/

section Inversion

variable {state next : State} {serial : ℕ}

theorem step_psm {answer : PsmAvailability} (hstep : step state (.psm serial answer) = some next) :
    ∃ task attempt, state.tasks.lookup serial = some task ∧
      task.stage = .readingPsm attempt ∧ next = state.psmAnswer serial task attempt answer := by
  simp only [step] at hstep
  split at hstep
  · next task hlookup =>
    split at hstep
    · next attempt hstage => exact ⟨task, attempt, hlookup, hstage, (Option.some.inj hstep).symm⟩
    · cases hstep
  · cases hstep

theorem step_opened (hstep : step state (.opened serial) = some next) :
    ∃ task attempt transport, state.tasks.lookup serial = some task ∧
      task.stage = .opening attempt transport ∧
      next = state.opened serial task attempt transport := by
  simp only [step] at hstep
  split at hstep
  · next task hlookup =>
    split at hstep
    · next attempt transport hstage =>
      exact ⟨task, attempt, transport, hlookup, hstage, (Option.some.inj hstep).symm⟩
    · cases hstep
  · cases hstep

theorem step_fails {error : ConnectionError} {random : UInt8}
    (hstep : step state (.fails serial error random) = some next) :
    ∃ task attempt, state.tasks.lookup serial = some task ∧
      task.stage.attempt = some attempt ∧
      next = state.fails serial task attempt error random := by
  simp only [step] at hstep
  split at hstep
  · next task hlookup =>
    split at hstep
    · next attempt hstage =>
      exact ⟨task, attempt, hlookup, by rw [hstage]; rfl, (Option.some.inj hstep).symm⟩
    · next attempt transport hstage =>
      exact ⟨task, attempt, hlookup, by rw [hstage]; rfl, (Option.some.inj hstep).symm⟩
    · next attempt noted hstage =>
      split at hstep
      · exact ⟨task, attempt, hlookup, by rw [hstage]; rfl, (Option.some.inj hstep).symm⟩
      · cases hstep
    · cases hstep
  · cases hstep

theorem step_readerEnds {random : UInt8}
    (hstep : step state (.readerEnds serial random) = some next) :
    ∃ task, state.tasks.lookup serial = some task ∧ task.stage = .streaming ∧
      next = { state with
        connections := state.connections.ended state.now task.address random }.finish serial := by
  simp only [step] at hstep
  split at hstep
  · next task hlookup =>
    split at hstep
    · next hstage => exact ⟨task, hlookup, hstage, (Option.some.inj hstep).symm⟩
    · cases hstep
  · cases hstep

end Inversion

/-! ## Every step keeps the trace -/

section Steps

variable {state : State}

theorem Traced.expire (traced : Traced state) (address : Address) (random : UInt8) :
    Traced { state with
      connections := state.connections.expire state.now address random } := by
  rcases state.connections.expire_cases state.now address random with
    hkept | ⟨hpending, hlinks, _, _⟩
  · rw [hkept]
    exact traced
  · exact traced.weaken_pending (isConnected_eq_false_of_isConnecting hpending)
      (Traced.continues_of_eq rfl) rfl rfl hlinks

/-- The id of a granted attempt is free among the attempts that `begin` found. -/
theorem Traced.begin (traced : Traced state) {address : Address}
    {transport : MessageStreamTransport} {random : UInt8}
    (hfree : Separated state (.begin address transport random)) :
    Traced (state.begin address transport random) := by
  have hexpired := traced.expire address random
  simp only [Separated, ConnectionState.begin, Option.mem_def] at hfree
  simp only [State.begin, ConnectionState.begin]
  rcases ConnectionState.start_cases (state.connections.expire state.now address random)
    state.now address transport with hrefused | ⟨hempty, -, hgranted⟩
  · rw [hrefused]
    exact hexpired
  · rw [hgranted] at hfree ⊢
    refine hexpired.spawn rfl (fun serial task hlookup haddress ↦ ⟨?_, ?_⟩) ?_
    · apply hexpired.not_streaming hlookup
      rw [haddress]
      exact hempty ▸ rfl
    · intro attempt started hattempt hlink
      have hmem : task ∈ state.tasks.values := (Table.mem_values _ _).mpr ⟨serial, hlookup⟩
      obtain ⟨hsame, -⟩ := LinkState.connecting.inj hlink
      exact hfree _ rfl task hmem haddress (hsame ▸ hattempt)
    · cases transport <;> intro hstage <;> cases hstage

theorem Traced.psmAnswer (traced : Traced state) {serial : ℕ} {task : Task} {attempt : UInt64}
    (hlookup : state.tasks.lookup serial = some task) (hstage : task.stage = .readingPsm attempt)
    (answer : PsmAvailability) : Traced (state.psmAnswer serial task attempt answer) := by
  cases answer <;>
    exact traced.weaken_of_links_eq
      (Traced.continues_setStage hlookup (by rw [hstage]; rfl) rfl) rfl rfl rfl

theorem Traced.opened (traced : Traced state) {serial : ℕ} {task : Task} {attempt : UInt64}
    {transport : MessageStreamTransport} (hlookup : state.tasks.lookup serial = some task)
    (hstage : task.stage = .opening attempt transport) :
    Traced (state.opened serial task attempt transport) := by
  have hattempt : task.stage.attempt = some attempt := by rw [hstage]; rfl
  cases transport with
  | rfcomm => exact traced.weaken_of_links_eq (Traced.continues_finish rfl) rfl rfl rfl
  | l2cap =>
    by_cases hcurrent : state.connections.isCurrentAttempt task.address attempt = true
    · simp only [State.opened, ConnectionState.connectCompleted_of_current _ hcurrent]
      exact traced.accept hlookup hattempt hcurrent rfl
    · simp only [State.opened, ConnectionState.connectCompleted, if_neg hcurrent]
      exact traced.weaken_of_links_eq (Traced.continues_finish rfl) rfl rfl rfl

theorem Traced.fails (traced : Traced state) (serial : ℕ) (task : Task) (attempt : UInt64)
    (error : ConnectionError) (random : UInt8) :
    Traced (state.fails serial task attempt error random) := by
  by_cases hcurrent : state.connections.isCurrentAttempt task.address attempt = true
  · refine traced.weaken_pending (ConnectionState.not_isConnected_of_isCurrentAttempt hcurrent)
      (Traced.continues_finish rfl) rfl rfl ?_
    simp only [State.fails, State.finish, ConnectionState.connectionFailed, if_pos hcurrent]
  · refine traced.weaken_of_links_eq (Traced.continues_finish rfl) rfl rfl ?_
    simp only [State.fails, State.finish, ConnectionState.connectionFailed, if_neg hcurrent]

theorem Traced.incoming (traced : Traced state) (address : Address) :
    Traced (state.incoming address) := by
  by_cases hconnected : (state.connections.links.lookup address).any LinkState.isConnected = true
  · simp only [State.incoming, ConnectionState.markConnected, if_pos hconnected]
    exact traced
  · simp only [State.incoming, ConnectionState.markConnected, if_neg hconnected]
    refine traced.spawn rfl (fun serial task hlookup haddress ↦ ⟨?_, ?_⟩)
      fun _ ↦ ⟨state.now, rfl⟩
    · exact traced.not_streaming hlookup (by rw [haddress]; exact Bool.of_not_eq_true hconnected)
    · intro attempt started _ hlink
      cases hlink

/-- A reader is alone at its address, so its end takes no other reader's link. -/
theorem Traced.readerEnds (traced : Traced state) {serial : ℕ} {task : Task}
    (hlookup : state.tasks.lookup serial = some task) (hstage : task.stage = .streaming)
    (random : UInt8) :
    Traced ({ state with
      connections := state.connections.ended state.now task.address random }.finish serial) := by
  refine traced.weaken_erase (Traced.continues_finish rfl) rfl rfl rfl
    fun other found hfound haddress hstreaming ↦ ?_
  obtain ⟨hother, hfound⟩ := Table.lookup_erase_eq_some.mp hfound
  have hfirst := (traced.streaming serial task hlookup hstage).1
  have hsecond := (traced.streaming other found hfound hstreaming).1
  rw [haddress, hfirst] at hsecond
  exact hother (Option.some.inj hsecond).symm

theorem Traced.change (traced : Traced state) (address : Address) (connected : Bool) :
    Traced (state.change address connected) := by
  by_cases hretired : (!connected &&
      (state.connections.links.lookup address).any LinkState.isConnecting) = true
  · have hpending := (Bool.and_eq_true_iff.mp hretired).2
    refine traced.weaken_pending (isConnected_eq_false_of_isConnecting hpending)
      (Traced.continues_of_eq rfl) rfl rfl ?_
    simp only [State.change, ConnectionState.noteConnectionChange, if_pos hretired]
  · refine traced.weaken_of_links_eq (Traced.continues_of_eq rfl) rfl rfl ?_
    simp only [State.change, ConnectionState.noteConnectionChange, if_neg hretired]

theorem traced_step (state : State) (action : Action) (next : State) (traced : Traced state)
    (hseparated : Separated state action) (hstep : system.step state action = some next) :
    Traced next := by
  cases action with
  | advance elapsed =>
    obtain rfl := Option.some.inj hstep
    exact traced.weaken_of_links_eq (Traced.continues_of_eq rfl) rfl rfl rfl
  | begin address transport random =>
    obtain rfl := Option.some.inj hstep
    exact traced.begin hseparated
  | psm serial answer =>
    obtain ⟨task, attempt, hlookup, hstage, rfl⟩ := step_psm hstep
    exact traced.psmAnswer hlookup hstage answer
  | opened serial =>
    obtain ⟨task, attempt, transport, hlookup, hstage, rfl⟩ := step_opened hstep
    exact traced.opened hlookup hstage
  | fails serial error random =>
    obtain ⟨task, attempt, -, -, rfl⟩ := step_fails hstep
    exact traced.fails serial task attempt error random
  | incoming address =>
    obtain rfl := Option.some.inj hstep
    exact traced.incoming address
  | readerEnds serial random =>
    obtain ⟨task, hlookup, hstage, rfl⟩ := step_readerEnds hstep
    exact traced.readerEnds hlookup hstage random
  | change address connected =>
    obtain rfl := Option.some.inj hstep
    exact traced.change address connected
  | clearDue =>
    obtain rfl := Option.some.inj hstep
    exact traced.weaken_of_links_eq (Traced.continues_of_eq rfl) rfl rfl rfl

end Steps

/-! ## The fence -/

section Fence

variable {state : State}

theorem SameAt.refl (address : Address) (connections : ConnectionState) :
    SameAt address connections connections := ⟨rfl, rfl⟩

theorem mem_supersededTask {action : Action} {task : Task} :
    task ∈ supersededTask state action ↔
      ∃ serial, resultOf action = some serial ∧ state.tasks.lookup serial = some task ∧
        state.Superseded serial task := by
  simp only [supersededTask, Option.mem_def, Option.bind_eq_some_iff, Option.filter_eq_some_iff,
    decide_eq_true_eq]

/-- The id of a superseded attempt is not the id that its address waits for. -/
theorem Traced.not_current (traced : Traced state) {serial : ℕ} {task : Task} {attempt : UInt64}
    (hlookup : state.tasks.lookup serial = some task)
    (hattempt : task.stage.attempt = some attempt) (hsuperseded : state.Superseded serial task) :
    ¬state.connections.isCurrentAttempt task.address attempt = true := by
  intro hcurrent
  obtain ⟨link, hlink, hid⟩ := (Option.any_eq_true _ _).mp hcurrent
  cases link with
  | connected start => cases hid
  | connecting current started =>
    obtain rfl : current = attempt := by simpa [LinkState.isAttempt] using hid
    exact hsuperseded.1 ⟨by simp [hlink],
      traced.pending serial task current started hlookup hattempt hlink⟩

/-- Noting an answer keeps the entry exactly when the answer is on record. -/
theorem sameAt_psmAnswer_iff {serial : ℕ} {task : Task} {attempt : UInt64}
    {answer : PsmAvailability} :
    SameAt task.address state.connections
        (state.psmAnswer serial task attempt answer).connections ↔
      onRecord state.connections.retry task.address answer = true := by
  cases answer with
  | ready psm => exact iff_of_true (.refl _ _) rfl
  | unknown =>
    simp only [SameAt, State.psmAnswer, State.setStage, true_and, RetryPolicy.psmUnknown,
      RetryPolicy.lookup_update_eq_iff, PeerRetry.psmUnknown_eq_self_iff, onRecord,
      Option.any_eq_true, Bool.and_eq_true, beq_iff_eq]
  | unavailable =>
    simp only [SameAt, State.psmAnswer, State.setStage, true_and, RetryPolicy.psmUnavailable,
      RetryPolicy.lookup_update_eq_iff, PeerRetry.psmUnavailable_eq_self_iff, onRecord,
      Option.any_eq_true]

theorem Traced.fenced (traced : Traced state) {action : Action}
    (hseparated : Separated state action) : Fenced state action := by
  intro task htask next hstep
  obtain ⟨serial, hresult, hlookup, hsuperseded⟩ := mem_supersededTask.mp htask
  cases action with
  | psm found answer =>
    obtain rfl := Option.some.inj hresult
    obtain ⟨other, attempt, hother, -, rfl⟩ := step_psm hstep
    obtain rfl := Option.some.inj (hother.symm.trans hlookup)
    exact sameAt_psmAnswer_iff.mpr (hseparated other htask)
  | opened found =>
    obtain rfl := Option.some.inj hresult
    obtain ⟨other, attempt, transport, hother, hstage, rfl⟩ := step_opened hstep
    obtain rfl := Option.some.inj (hother.symm.trans hlookup)
    cases transport with
    | rfcomm => exact .refl _ _
    | l2cap =>
      have hlate := traced.not_current hlookup (by rw [hstage]; rfl) hsuperseded
      simp only [State.opened, ConnectionState.connectCompleted, if_neg hlate]
      exact .refl _ _
  | fails found error random =>
    obtain rfl := Option.some.inj hresult
    obtain ⟨other, attempt, hother, hattempt, rfl⟩ := step_fails hstep
    obtain rfl := Option.some.inj (hother.symm.trans hlookup)
    have hlate := traced.not_current hlookup hattempt hsuperseded
    simp only [State.fails, ConnectionState.connectionFailed, if_neg hlate]
    exact .refl _ _
  | readerEnds found random =>
    -- A reader that is still running has its link, so it is never superseded.
    obtain rfl := Option.some.inj hresult
    obtain ⟨other, hother, hstage, -⟩ := step_readerEnds hstep
    obtain rfl := Option.some.inj (hother.symm.trans hlookup)
    obtain ⟨howner, start, hlink⟩ := traced.streaming found other hlookup hstage
    exact absurd ⟨by simp [hlink], howner⟩ hsuperseded.1
  | advance | begin | incoming | change | clearDue => cases hresult

/-- The PSM answer of a superseded attempt is the one result that no id stops. -/
theorem fenced_psm_iff {serial : ℕ} {answer : PsmAvailability} {next : State}
    (hstep : step state (.psm serial answer) = some next) :
    Fenced state (.psm serial answer) ↔ Separated state (.psm serial answer) := by
  obtain ⟨task, attempt, hlookup, -, rfl⟩ := step_psm hstep
  have hsame : ∀ found ∈ supersededTask state (.psm serial answer), found = task := by
    intro found hfound
    obtain ⟨other, hresult, hother, -⟩ := mem_supersededTask.mp hfound
    obtain rfl := Option.some.inj hresult
    exact Option.some.inj (hother.symm.trans hlookup)
  constructor
  · intro hfenced found hfound
    obtain rfl := hsame found hfound
    exact sameAt_psmAnswer_iff.mp (hfenced found hfound _ hstep)
  · intro hrecord found hfound next hnext
    obtain rfl := hsame found hfound
    obtain rfl := Option.some.inj (hstep.symm.trans hnext)
    exact sameAt_psmAnswer_iff.mpr (hrecord found hfound)

end Fence

/-- In a run that keeps attempts separated, no result of a superseded attempt changes the link
or the retry state that its successor uses. -/
theorem fenced_of_meets (actions : List Action)
    (hseparated : system.Meets Separated system.init actions) :
    system.Meets Fenced system.init actions :=
  system.meets_of_meets traced_step (fun _ _ traced hstep ↦ traced.fenced hstep) traced_init
    hseparated

/-- A disconnect retires an L2CAP attempt, a second attempt begins on the next connection, and
everything that the first one still reports arrives late. -/
def lateFailureRun : List Action :=
  [.begin 7 .l2cap 0, .psm 0 (.ready 0x80), .change 7 false, .change 7 true, .begin 7 .l2cap 0,
    .fails 0 (.bluez .inProgress "") 3, .psm 1 (.ready 0x80), .opened 1, .advance 70000,
    .incoming 7, .readerEnds 1 9]

theorem fenced_of_lateFailureRun :
    (system.run system.init lateFailureRun).isSome ∧
      system.Meets Fenced system.init lateFailureRun :=
  ⟨by decide, fenced_of_meets lateFailureRun (by decide)⟩

/-- The same, but the first attempt is still reading its PSM when the disconnect retires it. -/
def lateAnswerRun : List Action :=
  [.begin 7 .l2cap 0, .change 7 false, .change 7 true, .begin 7 .l2cap 0, .psm 0 .unavailable]

theorem not_fenced_of_lateAnswerRun :
    ∃ final, system.run system.init lateAnswerRun = some final ∧
      final.connections.retry.l2capAllowed 7 = false ∧
      ¬system.Meets Fenced system.init lateAnswerRun :=
  ⟨_, rfl, by decide, by decide⟩

end BtDaemon.FastPair.Attempts
