import BtDaemon.Identity.Durability

/-!
# Recovery of the identity writer after failed writes

The thread drops a state whose write failed, and keeps the error. The error goes away only with
the next successful write, and there is none before another state was scheduled: a flush finds
the slot empty and answers with the old error. So once writes succeed again, flushes succeed
again exactly when the last write did not fail, or a state is still to be written.
-/

namespace BtDaemon.Identity.Persistence

open Transition

variable {Content : Type}

/-! ## What recovery means -/

/-- The step is not a write that fails. -/
def Action.succeeds : Action Content → Bool
  | .write error => error.isNone
  | _ => true

/-- A run of the writer all of whose writes succeed. -/
def Reaches (state final : State Content) : Prop :=
  ∃ actions, (writer Content).run state actions = some final ∧
    (writer Content).Meets (fun _ action ↦ action.succeeds = true) state actions

/-- What is on disk is the latest state that was scheduled before the flush began, or a state
that was scheduled later. -/
def Saved (state : State Content) (flusher : Flusher) : Prop :=
  flusher.since = 0 ∨ ∃ stored, Recorded state.scheduled stored ∧
    flusher.since ≤ stored.serial + 1 ∧ state.disk = some stored.content

/-- While writes succeed, every flush that begins from now on can return, and it returns with
success and with the latest state on disk. -/
structure Recovers (point : State Content) : Prop where
  saved : ∀ later, Reaches point later → ∀ flusher result, point.flushes ≤ flusher.call →
    (flusher, result) ∈ later.returned → result = none ∧ Saved later flusher
  returns : ∀ later, Reaches point later → later.closed = false →
    ∃ final result, Reaches later.beginFlush final ∧
      (⟨later.flushes, later.scheduled.length⟩, result) ∈ final.returned

/-- The last write failed, and nothing is left to write. -/
structure Lost (point : State Content) : Prop where
  failed : point.lastError.isSome = true
  slot : point.slot = none
  inHand : point.phase.inHand = none

/-! ## Flushes that were begun before -/

/-- Every flush that is known was counted. -/
structure Begun (state : State Content) : Prop where
  sending : ∀ flusher ∈ state.sending, flusher.call < state.flushes
  queued : ∀ flusher, state.queue = some (.flush flusher) → flusher.call < state.flushes
  collected : ∀ flusher ∈ state.phase.collected, flusher.call < state.flushes
  covered : ∀ flusher ∈ state.phase.covered, flusher.call < state.flushes
  replied : ∀ flusher result, (flusher, result) ∈ state.replies ∨
    (flusher, result) ∈ state.returned → flusher.call < state.flushes

namespace Begun

variable {state : State Content}

theorem init : Begun (State.init : State Content) where
  sending _ hflusher := by cases hflusher
  queued _ hqueue := by cases hqueue
  collected _ hflusher := by cases hflusher
  covered _ hflusher := by cases hflusher
  replied _ _ hreply := by rcases hreply with hreply | hreply <;> cases hreply

theorem wake (begun : Begun state) (serial : ℕ) : Begun (state.wake serial) :=
  { begun with
    queued := by
      intro flusher hflush
      cases hold : state.queue with
      | none =>
        simp only [State.wake, hold] at hflush
        cases hflush
      | some message =>
        simp only [State.wake, hold] at hflush
        exact begun.queued flusher (hold.trans hflush) }

theorem beginFlush (begun : Begun state) : Begun state.beginFlush where
  sending := by
    intro flusher hflusher
    rcases List.mem_cons.mp hflusher with rfl | hold
    · exact Nat.lt_succ_self _
    · exact Nat.lt_succ_of_lt (begun.sending flusher hold)
  queued flusher hqueue := Nat.lt_succ_of_lt (begun.queued flusher hqueue)
  collected flusher hflusher := Nat.lt_succ_of_lt (begun.collected flusher hflusher)
  covered flusher hflusher := Nat.lt_succ_of_lt (begun.covered flusher hflusher)
  replied flusher result hreply := Nat.lt_succ_of_lt (begun.replied flusher result hreply)

theorem send (begun : Begun state) {flusher : Flusher} (hsending : flusher ∈ state.sending) :
    Begun { state with
      queue := some (.flush flusher)
      sending := state.sending.erase flusher } :=
  { begun with
    sending := fun other hother ↦ begun.sending other (List.mem_of_mem_erase hother)
    queued := by
      rintro other hother
      cases hother
      exact begun.sending flusher hsending }

theorem returns (begun : Begun state) {flusher : Flusher} {result : Option String}
    (hreply : (flusher, result) ∈ state.replies) :
    Begun { state with
      replies := state.replies.erase (flusher, result)
      returned := (flusher, result) :: state.returned } :=
  { begun with
    replied := by
      rintro other answer (hother | hother)
      · exact begun.replied other answer (.inl (List.mem_of_mem_erase hother))
      · rcases List.mem_cons.mp hother with hsame | hold
        · rw [← hsame] at hreply
          exact begun.replied other answer (.inl hreply)
        · exact begun.replied other answer (.inr hold) }

/-- The thread moves on with flushes that were known. -/
theorem thread (begun : Begun state) (phase : Phase Content)
    (hcollected : ∀ flusher ∈ phase.collected, flusher.call < state.flushes)
    (hcovered : ∀ flusher ∈ phase.covered, flusher.call < state.flushes) :
    Begun { state with phase := phase } :=
  { begun with
    collected := hcollected
    covered := hcovered }

/-- The thread receives a message, or finds another one while it collects. -/
theorem receives (begun : Begun state) {phase : Phase Content}
    (hcollected : ∀ flusher ∈ phase.collected, flusher.call < state.flushes)
    (hcovered : phase.covered = []) : Begun { state with queue := none, phase := phase } :=
  { begun with
    queued := fun _ hqueue ↦ by cases hqueue
    collected := hcollected
    covered := fun flusher hflusher ↦ by
      rw [hcovered] at hflusher
      cases hflusher }

theorem step (begun : Begun state) {action : Action Content} {next : State Content}
    (hstep : Persistence.step state action = some next) : Begun next := by
  have hnone : ∀ flusher ∈ ([] : List Flusher), flusher.call < state.flushes :=
    fun _ hflusher ↦ by cases hflusher
  cases moves_of_step hstep with
  | store content hopen => exact { begun with }
  | wake serial => exact begun.wake serial
  | beginFlush => exact begun.beginFlush
  | send flusher hsending => exact begun.send hsending
  | returns flusher result hreply => exact begun.returns hreply
  | drop hopen hwaking => exact { begun with }
  | receiveChanged hphase hqueue => exact begun.receives hnone rfl
  | receiveFlush flusher hphase hqueue =>
    refine begun.receives (fun other hother ↦ ?_) rfl
    rw [List.mem_singleton.mp hother]
    exact begun.queued flusher hqueue
  | drain barriers message hphase hqueue =>
    refine begun.receives (fun other hother ↦ ?_) rfl
    rcases List.mem_append.mp hother with hold | hnew
    · exact begun.collected other (by rwa [hphase])
    · cases message with
      | changed => cases hnew
      | flush flusher =>
        rw [List.mem_singleton.mp hnew]
        exact begun.queued flusher hqueue
  | awake hphase => exact begun.thread _ hnone hnone
  | drained barriers hphase hqueue =>
    have hcollected := begun.collected
    rw [hphase] at hcollected
    exact begun.thread _ hcollected hnone
  | take barriers hphase =>
    have hcollected := begun.collected
    rw [hphase] at hcollected
    exact { begun.thread (.writing barriers state.slot) hnone hcollected with }
  | write barriers stored error hphase =>
    have hcovered := begun.covered
    rw [hphase] at hcovered
    exact { begun.thread (.replying barriers) hnone hcovered with }
  | writeNothing barriers error hphase =>
    have hcovered := begun.covered
    rw [hphase] at hcovered
    exact begun.thread _ hnone hcovered
  | reply flusher rest hphase =>
    have hcovered := begun.covered
    rw [hphase] at hcovered
    exact { begun.thread (.replying rest) hnone
        (fun other hother ↦ hcovered other (List.mem_cons_of_mem _ hother)) with
      replied := by
        rintro other result (hreply | hreturned)
        · rcases List.mem_cons.mp hreply with hsame | hold
          · obtain ⟨rfl, -⟩ := Prod.mk.inj hsame
            exact hcovered other List.mem_cons_self
          · exact begun.replied other result (.inl hold)
        · exact begun.replied other result (.inr hreturned) }
  | replied hphase => exact begun.thread _ hnone hnone
  | stop hphase hqueue hclosed => exact begun.thread _ hnone hnone

theorem of_reachable (hreach : (writer Content).Reachable state) : Begun state :=
  hreach.invariant init fun _ _ _ begun hstep ↦ begun.step hstep

end Begun

/-! ## Recovery stays -/

/-- As long as the writes succeed: no error is left, or a state is to be written that ends it,
and the flushes that began after the given number of calls have not seen the error. -/
structure Recovering (calls : ℕ) (state : State Content) : Prop where
  hopeful : state.lastError = none ∨ state.slot.isSome = true ∨
    state.phase.inHand.isSome = true
  covered : ∀ flusher ∈ state.phase.covered, calls ≤ flusher.call →
    state.lastError = none ∨ state.phase.inHand.isSome = true
  replied : ∀ flusher result, (flusher, result) ∈ state.replies ∨
    (flusher, result) ∈ state.returned → calls ≤ flusher.call →
      result = none ∧ state.lastError = none

namespace Recovering

variable {calls : ℕ} {state : State Content}

/-- At the start every known flush is an older one. -/
theorem start (begun : Begun state) (hopeful : ¬ Lost state) :
    Recovering state.flushes state where
  hopeful := by
    by_contra hnone
    simp only [not_or, Option.isSome_iff_ne_none, not_not] at hnone
    exact hopeful ⟨Option.isSome_iff_ne_none.mpr hnone.1, hnone.2.1, hnone.2.2⟩
  covered flusher hflusher hcall :=
    absurd (begun.covered flusher hflusher) (Nat.not_lt_of_le hcall)
  replied flusher result hreply hcall :=
    absurd (begun.replied flusher result hreply) (Nat.not_lt_of_le hcall)

/-- The thread goes on with nothing in hand and no flush to answer. -/
theorem idle (recovering : Recovering calls state) {phase : Phase Content}
    {queue : Option Message} (hempty : state.phase.inHand = none) (hcovered : phase.covered = []) :
    Recovering calls { state with queue := queue, phase := phase } where
  hopeful := by
    rcases recovering.hopeful with herror | hslot | hinHand
    · exact .inl herror
    · exact .inr (.inl hslot)
    · rw [hempty] at hinHand
      cases hinHand
  covered flusher hflusher := by
    rw [hcovered] at hflusher
    cases hflusher
  replied := recovering.replied

theorem take (recovering : Recovering calls state) {barriers : List Flusher}
    (hempty : state.phase.inHand = none) : Recovering calls (state.take barriers) where
  hopeful := by
    rcases recovering.hopeful with herror | hslot | hinHand
    · exact .inl herror
    · exact .inr (.inr hslot)
    · rw [hempty] at hinHand
      cases hinHand
  covered flusher _ _ := by
    rcases recovering.hopeful with herror | hslot | hinHand
    · exact .inl herror
    · exact .inr hslot
    · rw [hempty] at hinHand
      cases hinHand
  replied := recovering.replied

theorem step (recovering : Recovering calls state) {action : Action Content}
    {next : State Content} (hsucceeds : action.succeeds = true)
    (hstep : Persistence.step state action = some next) : Recovering calls next := by
  cases moves_of_step hstep with
  | store content hopen =>
    exact { recovering with
      hopeful := .inr (.inl rfl) }
  | wake serial => exact { recovering with }
  | beginFlush => exact { recovering with }
  | send flusher hsending => exact { recovering with }
  | drop hopen hwaking => exact { recovering with }
  | returns flusher result hreply =>
    exact { recovering with
      replied := by
        rintro other answer (hother | hother)
        · exact recovering.replied other answer (.inl (List.mem_of_mem_erase hother))
        · rcases List.mem_cons.mp hother with hsame | hold
          · rw [← hsame] at hreply
            exact recovering.replied other answer (.inl hreply)
          · exact recovering.replied other answer (.inr hold) }
  | receiveChanged hphase hqueue => exact recovering.idle (by rw [hphase]; rfl) rfl
  | receiveFlush flusher hphase hqueue => exact recovering.idle (by rw [hphase]; rfl) rfl
  | awake hphase => exact recovering.idle (by rw [hphase]; rfl) rfl
  | drain barriers message hphase hqueue => exact recovering.idle (by rw [hphase]; rfl) rfl
  | drained barriers hphase hqueue => exact recovering.idle (by rw [hphase]; rfl) rfl
  | replied hphase => exact recovering.idle (by rw [hphase]; rfl) rfl
  | stop hphase hqueue hclosed => exact recovering.idle (by rw [hphase]; rfl) rfl
  | take barriers hphase => exact recovering.take (by rw [hphase]; rfl)
  | write barriers stored error hphase =>
    obtain rfl := Option.isNone_iff_eq_none.mp hsucceeds
    exact ⟨.inl rfl, fun _ _ _ ↦ .inl rfl, fun flusher result hreply hcall ↦
      ⟨(recovering.replied flusher result hreply hcall).1, rfl⟩⟩
  | writeNothing barriers error hphase =>
    have hcovered := recovering.covered
    have hopeful := recovering.hopeful
    rw [hphase] at hcovered hopeful
    exact { recovering with
      hopeful := hopeful
      covered := hcovered }
  | reply flusher rest hphase =>
    have hcovered := recovering.covered
    have hopeful := recovering.hopeful
    rw [hphase] at hcovered hopeful
    exact {
      hopeful := hopeful
      covered := fun other hother ↦ hcovered other (List.mem_cons_of_mem _ hother)
      replied := by
        rintro other result (hreply | hreturned) hcall
        · rcases List.mem_cons.mp hreply with hsame | hold
          · obtain ⟨rfl, rfl⟩ := Prod.mk.inj hsame
            rcases hcovered other List.mem_cons_self hcall with herror | hinHand
            · exact ⟨herror, herror⟩
            · cases hinHand
          · exact recovering.replied other result (.inl hold) hcall
        · exact recovering.replied other result (.inr hreturned) hcall }

theorem reaches {point later : State Content} (recovering : Recovering calls point)
    (hreaches : Reaches point later) : Recovering calls later := by
  obtain ⟨actions, hrun, hmeets⟩ := hreaches
  exact (writer Content).run_invariant_of_meets
    (fun _ _ _ hrecovering hsucceeds hstep ↦ hrecovering.step hsucceeds hstep) recovering hmeets
    hrun

end Recovering

/-- Without an error on record the last write is on disk, and it covers every answered flush. -/
theorem Coherent.saved {state : State Content} (coherent : Coherent state)
    (herror : state.lastError = none) {flusher : Flusher}
    (hreturned : (flusher, none) ∈ state.returned) : Saved state flusher := by
  rcases coherent.answered flusher (.inr hreturned) with hzero | ⟨stored, hwrite, hsince⟩
  · exact .inl hzero
  · cases hlast : state.writes.getLast? with
    | none =>
      rw [List.getLast?_eq_none_iff.mp hlast] at hwrite
      cases hwrite
    | some write =>
      obtain ⟨newest, error⟩ := write
      have hsuccess := coherent.error
      rw [herror, hlast] at hsuccess
      obtain rfl : error = none := hsuccess.symm
      obtain ⟨earlier, hwrites⟩ := List.getLast?_eq_some_iff.mp hlast
      have hordered := coherent.ordered
      rw [hwrites] at hwrite hordered
      have hnewest : stored.serial ≤ newest.serial := by
        rcases List.mem_append.mp hwrite with hold | hnew
        · exact Nat.le_of_lt ((List.pairwise_append.mp hordered).2.2 _ hold _
            List.mem_cons_self)
        · cases List.mem_singleton.mp hnew
          exact Nat.le_refl _
      refine .inr ⟨newest, coherent.written newest none (List.mem_of_getLast? hlast), ?_,
        coherent.disk newest hlast⟩
      omega

/-! ## A flush can always return -/

namespace Reaches

theorem refl (state : State Content) : Reaches state state := ⟨[], rfl, trivial⟩

theorem moves {state next final : State Content} {action : Action Content}
    (hmoves : Moves state action next) (hsucceeds : action.succeeds = true)
    (hlater : Reaches next final) : Reaches state final := by
  obtain ⟨actions, hrun, hmeets⟩ := hlater
  have htake : (writer Content).step state action = some next := step_of_moves hmoves
  refine ⟨action :: actions, ((writer Content).run_cons_eq_some).mpr ⟨next, htake, hrun⟩,
    hsucceeds, ?_⟩
  rw [htake]
  exact hmeets

theorem trans {first second third : State Content} (hfirst : Reaches first second)
    (hsecond : Reaches second third) : Reaches first third := by
  obtain ⟨earlier, hearlier, hmeets⟩ := hfirst
  induction earlier generalizing first with
  | nil =>
    obtain rfl := Option.some.inj hearlier
    exact hsecond
  | cons action rest ih =>
    obtain ⟨next, htake, hrest⟩ := ((writer Content).run_cons_eq_some).mp hearlier
    obtain ⟨hsucceeds, hlater⟩ := hmeets
    rw [htake] at hlater
    exact (ih hrest hlater).moves (moves_of_step htake) hsucceeds

theorem reachable {point later : State Content} (hreaches : Reaches point later)
    (hreach : (writer Content).Reachable point) : (writer Content).Reachable later := by
  obtain ⟨earlier, hearlier⟩ := hreach
  obtain ⟨actions, hrun, -⟩ := hreaches
  exact ⟨earlier ++ actions, (writer Content).run_append hearlier hrun⟩

end Reaches

theorem Coherent.running {state : State Content} (coherent : Coherent state)
    (hopen : state.closed = false) : state.phase ≠ .stopped := by
  intro hphase
  cases hopen.symm.trans (coherent.stopped hphase).1

/-- The thread alone goes from here to there, and a lost state stays lost. -/
structure Drives (state next : State Content) : Prop where
  reaches : Reaches state next
  sending : next.sending = state.sending
  lost : state.slot = none → state.phase.inHand = none →
    next.slot = none ∧ next.phase.inHand = none ∧ next.lastError = state.lastError

namespace Drives

variable {state next final : State Content}

theorem refl (state : State Content) : Drives state state :=
  ⟨.refl state, rfl, fun hslot hinHand ↦ ⟨hslot, hinHand, rfl⟩⟩

theorem moves {action : Action Content} (hmoves : Moves state action next)
    (hsucceeds : action.succeeds = true) (hsending : next.sending = state.sending)
    (hlost : state.slot = none → state.phase.inHand = none →
      next.slot = none ∧ next.phase.inHand = none ∧ next.lastError = state.lastError)
    (hlater : Drives next final) : Drives state final where
  reaches := hlater.reaches.moves hmoves hsucceeds
  sending := hlater.sending.trans hsending
  lost hslot hinHand := by
    obtain ⟨hnextSlot, hnextHand, hnextError⟩ := hlost hslot hinHand
    obtain ⟨hfinalSlot, hfinalHand, hfinalError⟩ := hlater.lost hnextSlot hnextHand
    exact ⟨hfinalSlot, hfinalHand, hfinalError.trans hnextError⟩

end Drives

/-- The thread can go on until it waits for a message and the queue is empty. -/
def Settles (state : State Content) : Prop :=
  ∃ final, Drives state final ∧ final.phase = .receiving ∧ final.queue = none

namespace Settles

variable {state : State Content}

theorem moves {next : State Content} {action : Action Content}
    (hmoves : Moves state action next) (hsucceeds : action.succeeds = true)
    (hsending : next.sending = state.sending)
    (hlost : state.slot = none → state.phase.inHand = none →
      next.slot = none ∧ next.phase.inHand = none ∧ next.lastError = state.lastError)
    (hlater : Settles next) : Settles state := by
  obtain ⟨final, hdrives, hphase, hqueue⟩ := hlater
  exact ⟨final, hdrives.moves hmoves hsucceeds hsending hlost, hphase, hqueue⟩

theorem of_replying {barriers : List Flusher} (hphase : state.phase = .replying barriers)
    (hreceiving : ∀ next : State Content, next.phase = .receiving → next.queue = state.queue →
      Settles next) : Settles state := by
  induction barriers generalizing state with
  | nil =>
    refine moves (.replied hphase) rfl rfl
      (fun hslot _ ↦ ⟨hslot, rfl, rfl⟩) ?_
    exact hreceiving _ rfl rfl
  | cons flusher rest ih =>
    refine moves (.reply flusher rest hphase) rfl rfl
      (fun hslot _ ↦ ⟨hslot, rfl, rfl⟩) ?_
    exact ih rfl hreceiving

theorem of_writing {barriers : List Flusher} {latest : Option (Stored Content)}
    (hphase : state.phase = .writing barriers latest)
    (hreceiving : ∀ next : State Content, next.phase = .receiving → next.queue = state.queue →
      Settles next) : Settles state := by
  cases latest with
  | none =>
    refine moves (.writeNothing barriers none hphase) rfl rfl
      (fun hslot _ ↦ ⟨hslot, rfl, rfl⟩) ?_
    exact of_replying rfl hreceiving
  | some stored =>
    refine moves (.write barriers stored none hphase) rfl rfl
      (fun _ hinHand ↦ ?_) ?_
    · rw [hphase] at hinHand
      cases hinHand
    · exact of_replying rfl hreceiving

theorem of_drained {barriers : List Flusher} (hphase : state.phase = .drained barriers)
    (hreceiving : ∀ next : State Content, next.phase = .receiving → next.queue = state.queue →
      Settles next) : Settles state := by
  refine moves (.take barriers hphase) rfl rfl
    (fun hslot _ ↦ ⟨rfl, hslot, rfl⟩) ?_
  exact of_writing rfl hreceiving

/-- After the queue was found empty nothing is left to do. -/
theorem of_draining {barriers : List Flusher} (hphase : state.phase = .draining barriers) :
    Settles state := by
  have hempty : ∀ next : State Content, ∀ barriers, next.phase = .draining barriers →
      next.queue = none → Settles next := by
    intro next barriers hnext hqueue
    refine moves (.drained barriers hnext hqueue) rfl rfl
      (fun hslot _ ↦ ⟨hslot, rfl, rfl⟩) ?_
    refine of_drained rfl fun later hlater hnone ↦ ?_
    exact ⟨later, .refl later, hlater, hnone.trans hqueue⟩
  cases hqueue : state.queue with
  | none => exact hempty state barriers hphase hqueue
  | some message =>
    refine moves (.drain barriers message hphase hqueue) rfl rfl
      (fun hslot _ ↦ ⟨hslot, rfl, rfl⟩) ?_
    exact hempty _ _ rfl rfl

theorem of_sleeping (hphase : state.phase = .sleeping) : Settles state := by
  refine moves (.awake hphase) rfl rfl
    (fun hslot _ ↦ ⟨hslot, rfl, rfl⟩) ?_
  exact of_draining rfl

theorem of_receiving (hphase : state.phase = .receiving) : Settles state := by
  rcases hqueue : state.queue with _ | _ | flusher
  · exact ⟨state, .refl state, hphase, hqueue⟩
  · refine moves (.receiveChanged hphase hqueue) rfl rfl
      (fun hslot _ ↦ ⟨hslot, rfl, rfl⟩) ?_
    exact of_sleeping rfl
  · refine moves (.receiveFlush flusher hphase hqueue) rfl rfl
      (fun hslot _ ↦ ⟨hslot, rfl, rfl⟩) ?_
    exact of_draining rfl

theorem of_running (hrunning : state.phase ≠ .stopped) : Settles state := by
  have hreceiving : ∀ next : State Content, next.phase = .receiving →
      next.queue = state.queue → Settles next := fun _ hnext _ ↦ of_receiving hnext
  cases hphase : state.phase with
  | receiving => exact of_receiving hphase
  | sleeping => exact of_sleeping hphase
  | draining barriers => exact of_draining hphase
  | drained barriers => exact of_drained hphase hreceiving
  | writing barriers latest => exact of_writing hphase hreceiving
  | replying barriers => exact of_replying hphase hreceiving
  | stopped => exact absurd hphase hrunning

end Settles

/-- A flush that finds the thread waiting returns with the result of the write, or with the
error that was kept when there is nothing to write. -/
theorem reaches_returned {state : State Content} {flusher : Flusher}
    (hphase : state.phase = .receiving) (hqueue : state.queue = none)
    (hsending : flusher ∈ state.sending) :
    ∃ final result, Reaches state final ∧ (flusher, result) ∈ final.returned ∧
      (state.slot = none → result = state.lastError) := by
  -- The queue holds the flush, which is the only one that is collected.
  have hfound : ∀ next : State Content, next.phase = .writing [flusher] state.slot →
      next.lastError = state.lastError →
      ∃ final result, Reaches next final ∧ (flusher, result) ∈ final.returned ∧
        (state.slot = none → result = state.lastError) := by
    intro next hwriting herror
    cases hslot : state.slot with
    | none =>
      rw [hslot] at hwriting
      refine ⟨_, next.lastError, .moves (.writeNothing _ none hwriting) rfl <|
        .moves (.reply flusher [] rfl) rfl <|
        .moves (.returns flusher next.lastError List.mem_cons_self) rfl <| .refl _,
        List.mem_cons_self, fun _ ↦ herror⟩
    | some stored =>
      rw [hslot] at hwriting
      refine ⟨_, none, .moves (.write _ stored none hwriting) rfl <|
        .moves (.reply flusher [] rfl) rfl <|
        .moves (.returns flusher none List.mem_cons_self) rfl <| .refl _,
        List.mem_cons_self, fun hnone ↦ by cases hnone⟩
  obtain ⟨final, result, hreaches, hreturned, hresult⟩ := hfound
    { state with
      queue := none
      sending := state.sending.erase flusher
      slot := none
      phase := .writing [flusher] state.slot
      taken := state.slot.elim state.taken fun stored ↦ stored.serial + 1 } rfl rfl
  refine ⟨final, result, .moves (.send flusher hsending hqueue) rfl <|
    .moves (.receiveFlush flusher hphase rfl) rfl <|
    .moves (.drained [flusher] rfl rfl) rfl <|
    .moves (.take [flusher] rfl) rfl hreaches, hreturned, hresult⟩

theorem flush_returns {state : State Content} (hrunning : state.phase ≠ .stopped) :
    ∃ final result, Reaches state.beginFlush final ∧
      (⟨state.flushes, state.scheduled.length⟩, result) ∈ final.returned ∧
      (state.slot = none → state.phase.inHand = none → result = state.lastError) := by
  have hsettles : Settles state.beginFlush := Settles.of_running hrunning
  obtain ⟨idle, hdrives, hphase, hqueue⟩ := hsettles
  have hsending : ⟨state.flushes, state.scheduled.length⟩ ∈ idle.sending := by
    rw [hdrives.sending]
    exact List.mem_cons_self
  obtain ⟨final, result, hreaches, hreturned, hresult⟩ := reaches_returned hphase hqueue hsending
  refine ⟨final, result, hdrives.reaches.trans hreaches, hreturned, fun hslot hinHand ↦ ?_⟩
  obtain ⟨hempty, -, herror⟩ := hdrives.lost hslot hinHand
  exact (hresult hempty).trans herror

/-! ## When the writer recovers -/

theorem recovers_of_not_lost {point : State Content} (hreach : (writer Content).Reachable point)
    (hfound : ¬ Lost point) : Recovers point where
  saved later hreaches flusher result hcall hreturned := by
    have hrecovering := (Recovering.start (Begun.of_reachable hreach) hfound).reaches hreaches
    obtain ⟨rfl, herror⟩ := hrecovering.replied flusher result (.inr hreturned) hcall
    exact ⟨rfl, (Coherent.of_reachable (hreaches.reachable hreach)).saved herror hreturned⟩
  returns later hreaches hopen := by
    have hrunning := (Coherent.of_reachable (hreaches.reachable hreach)).running hopen
    obtain ⟨final, result, hlater, hreturned, -⟩ := flush_returns hrunning
    exact ⟨final, result, hlater, hreturned⟩

/-- A flush of a lost state returns the error that was kept, though every write succeeds. -/
theorem not_recovers_of_lost {point : State Content}
    (hreach : (writer Content).Reachable point) (hopen : point.closed = false)
    (hlost : Lost point) : ¬ Recovers point := by
  intro hrecovers
  have hrunning := (Coherent.of_reachable hreach).running hopen
  obtain ⟨final, result, hreaches, hreturned, hresult⟩ := flush_returns hrunning
  have hfinal : Reaches point final := hreaches.moves (.beginFlush hopen) rfl
  have hsuccess := (hrecovers.saved final hfinal _ result (Nat.le_refl _) hreturned).1
  have herror := hlost.failed
  rw [← hresult hlost.slot hlost.inHand, hsuccess] at herror
  cases herror

/-- From any point of any run, the writer recovers with its writes unless the last state was
lost. -/
theorem recovers_iff {point : State Content} (hreach : (writer Content).Reachable point)
    (hopen : point.closed = false) : Recovers point ↔ ¬ Lost point :=
  ⟨fun hrecovers hlost ↦ not_recovers_of_lost hreach hopen hlost hrecovers,
    recovers_of_not_lost hreach⟩

section Example

/-- The only scheduled state is taken, and its write fails. -/
def failedRun : List (Action ℕ) :=
  [.store 1, .wake 0, .receive, .awake, .drained, .take, .write (some "full"), .reply]

/-- A flush after that, with nothing scheduled. -/
def laterFlush : List (Action ℕ) :=
  [.beginFlush, .send ⟨0, 1⟩, .receive, .drained, .take, .write none, .reply, .reply,
    .returns ⟨0, 1⟩ (some "full")]

/-- The flush fails with the old error, and the state is not on disk. -/
theorem recovers_fails : ∃ point later, (writer ℕ).run State.init failedRun = some point ∧
    (writer ℕ).run point laterFlush = some later ∧
    later.returned = [(⟨0, 1⟩, some "full")] ∧ later.disk = none ∧ ¬ Recovers point := by
  refine ⟨_, _, rfl, rfl, rfl, rfl, fun hrecovers ↦ ?_⟩
  have hsaved := hrecovers.saved _ ⟨laterFlush, rfl, by decide⟩ ⟨0, 1⟩ (some "full")
    (by decide) List.mem_cons_self
  cases hsaved.1

/-- Another state is scheduled after the failure, and then the writer recovers. -/
def rescheduledRun : List (Action ℕ) := failedRun ++ [.store 2]

theorem recovers_iff_rescheduled : ∃ point,
    (writer ℕ).run State.init rescheduledRun = some point ∧ (Recovers point ↔ ¬ Lost point) ∧
      ¬ Lost point :=
  ⟨_, rfl, recovers_iff ⟨rescheduledRun, rfl⟩ rfl, fun hlost ↦ by cases hlost.slot⟩

end Example

end BtDaemon.Identity.Persistence
