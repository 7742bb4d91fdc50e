import BtDaemon.Identity.Persistence

/-!
# Durability of the identity writer

The slot holds the last scheduled state, or the thread has taken everything that was scheduled.
So a flush that was collected before the slot was taken is covered by what the thread wrote
last, and the result of that write is its answer. A state in the slot always has a wake-up on
its way, because a full queue is one. The channel closes after the last call, and the thread
stops only when the queue is empty, so by then the slot is empty as well.
-/

namespace BtDaemon.Identity.Persistence

open Transition

variable {Content : Type}

/-- The state was scheduled under its serial. -/
def Recorded (scheduled : List Content) (stored : Stored Content) : Prop :=
  scheduled[stored.serial]? = some stored.content

theorem Recorded.append {scheduled : List Content} {stored : Stored Content}
    (recorded : Recorded scheduled stored) (content : Content) :
    Recorded (scheduled ++ [content]) stored := by
  obtain ⟨hbound, -⟩ := List.getElem?_eq_some_iff.mp recorded
  rw [Recorded, List.getElem?_append_left hbound]
  exact recorded

theorem Answered.append {writes : List (Stored Content × Option String)} {flusher : Flusher}
    (answered : Answered writes flusher) (later : List (Stored Content × Option String)) :
    Answered (writes ++ later) flusher := by
  rcases answered with hzero | ⟨stored, hstored, hsince⟩
  · exact .inl hzero
  · exact .inr ⟨stored, List.mem_append_left later hstored, hsince⟩

structure Coherent (state : State Content) : Prop where
  slotted : ∀ stored, state.slot = some stored → stored.serial + 1 = state.scheduled.length ∧
    Recorded state.scheduled stored ∧ state.taken ≤ stored.serial
  /-- Without a state in the slot everything that was scheduled is taken. -/
  empty : state.slot = none → state.taken = state.scheduled.length
  woken : ∀ stored, state.slot = some stored → state.queue.isSome = true ∨
    state.phase.received = true ∨ stored.serial ∈ state.waking
  inHand : ∀ stored, state.phase.inHand = some stored → stored.serial + 1 = state.taken ∧
    Recorded state.scheduled stored ∧ ∀ write ∈ state.writes, write.1.serial < stored.serial
  /-- With empty hands the last write is of the newest state that was taken. -/
  last : ∀ stored error, state.phase.inHand = none →
    state.writes.getLast? = some (stored, error) → stored.serial + 1 = state.taken
  unwritten : state.phase.inHand = none → state.writes = [] → state.taken = 0
  below : ∀ write ∈ state.writes, write.1.serial < state.taken
  ordered : state.writes.Pairwise fun earlier later ↦ earlier.1.serial < later.1.serial
  written : ∀ stored error, (stored, error) ∈ state.writes → Recorded state.scheduled stored
  error : state.lastError = (state.writes.getLast?.map Prod.snd).getD none
  disk : ∀ stored, state.writes.getLast? = some (stored, none) → state.disk = some stored.content
  sending : ∀ flusher ∈ state.sending, flusher.since ≤ state.scheduled.length
  queued : ∀ flusher, state.queue = some (.flush flusher) →
    flusher.since ≤ state.scheduled.length
  collected : ∀ flusher ∈ state.phase.collected, flusher.since ≤ state.scheduled.length
  covered : ∀ flusher ∈ state.phase.covered, flusher.since ≤ state.taken
  answered : ∀ flusher, (flusher, none) ∈ state.replies ∨ (flusher, none) ∈ state.returned →
    Answered state.writes flusher
  awake : state.closed = true → state.waking = []
  stopped : state.phase = .stopped → state.closed = true ∧ state.slot = none

namespace Coherent

variable {state : State Content}

theorem init : Coherent (State.init : State Content) where
  slotted _ hslot := by cases hslot
  empty _ := rfl
  woken _ hslot := by cases hslot
  inHand _ hstored := by cases hstored
  last _ _ _ hlast := by cases hlast
  unwritten _ _ := rfl
  below _ hwrite := by cases hwrite
  ordered := List.Pairwise.nil
  written _ _ hwrite := by cases hwrite
  error := rfl
  disk _ hlast := by cases hlast
  sending _ hflusher := by cases hflusher
  queued _ hqueue := by cases hqueue
  collected _ hflusher := by cases hflusher
  covered _ hflusher := by cases hflusher
  answered _ hreply := by rcases hreply with hreply | hreply <;> cases hreply
  awake _ := rfl
  stopped hphase := by cases hphase

/-! ## The calls -/

theorem store (coherent : Coherent state) (hopen : state.closed = false) (content : Content) :
    Coherent (state.store content) := by
  have hlength : (state.scheduled ++ [content]).length = state.scheduled.length + 1 := by simp
  have hgrown : ∀ {since : ℕ}, since ≤ state.scheduled.length →
      since ≤ (state.scheduled ++ [content]).length := by
    intro since hsince
    omega
  refine { coherent with
    slotted := fun stored hslot ↦ ?_
    empty := fun hslot ↦ by cases hslot
    woken := fun stored hslot ↦ ?_
    inHand := fun stored hstored ↦ ?_
    written := fun stored error hwrite ↦ (coherent.written stored error hwrite).append content
    sending := fun flusher hflusher ↦ hgrown (coherent.sending flusher hflusher)
    queued := fun flusher hqueue ↦ hgrown (coherent.queued flusher hqueue)
    collected := fun flusher hflusher ↦ hgrown (coherent.collected flusher hflusher)
    awake := fun hclosed ↦ ?_
    stopped := fun hphase ↦ ?_ }
  · cases hslot
    refine ⟨hlength.symm, by simp [Recorded, State.store], ?_⟩
    cases hold : state.slot with
    | none => exact Nat.le_of_eq (coherent.empty hold)
    | some old =>
      obtain ⟨hserial, -, htaken⟩ := coherent.slotted old hold
      exact Nat.le_trans htaken (by dsimp only; omega)
  · cases hslot
    exact .inr (.inr List.mem_cons_self)
  · obtain ⟨htaken, hrecorded, hnew⟩ := coherent.inHand stored hstored
    exact ⟨htaken, hrecorded.append content, hnew⟩
  · cases hopen.symm.trans hclosed
  · cases hopen.symm.trans (coherent.stopped hphase).1

/-- The wake-up is queued, or the queue is full of another message. -/
theorem wake (coherent : Coherent state) (serial : ℕ) : Coherent (state.wake serial) := by
  have hqueue : (state.queue.or (some .changed)).isSome = true := by
    cases state.queue <;> rfl
  refine { coherent with
    woken := fun _ _ ↦ .inl hqueue
    queued := fun flusher hflush ↦ ?_
    awake := fun hclosed ↦ ?_ }
  · cases hold : state.queue with
    | none =>
      simp only [State.wake, hold] at hflush
      cases hflush
    | some message =>
      simp only [State.wake, hold] at hflush
      exact coherent.queued flusher (hold.trans hflush)
  · have hwaking := coherent.awake hclosed
    simp only [State.wake, hwaking]
    rfl

theorem beginFlush (coherent : Coherent state) : Coherent state.beginFlush :=
  { coherent with
    sending := by
      intro flusher hflusher
      rcases List.mem_cons.mp hflusher with rfl | hold
      · exact Nat.le_refl _
      · exact coherent.sending flusher hold }

theorem send (coherent : Coherent state) {flusher : Flusher} (hsending : flusher ∈ state.sending) :
    Coherent { state with
      queue := some (.flush flusher)
      sending := state.sending.erase flusher } :=
  { coherent with
    woken := fun _ _ ↦ .inl rfl
    sending := fun other hother ↦ coherent.sending other (List.mem_of_mem_erase hother)
    queued := by
      rintro other hother
      cases hother
      exact coherent.sending flusher hsending }

theorem returns (coherent : Coherent state) {flusher : Flusher} {result : Option String}
    (hreply : (flusher, result) ∈ state.replies) :
    Coherent { state with
      replies := state.replies.erase (flusher, result)
      returned := (flusher, result) :: state.returned } :=
  { coherent with
    answered := by
      rintro other (hother | hother)
      · exact coherent.answered other (.inl (List.mem_of_mem_erase hother))
      · rcases List.mem_cons.mp hother with hsame | hold
        · rw [← hsame] at hreply
          exact coherent.answered other (.inl hreply)
        · exact coherent.answered other (.inr hold) }

theorem drop (coherent : Coherent state) (hwaking : state.waking = []) :
    Coherent { state with closed := true } :=
  { coherent with
    awake := fun _ ↦ hwaking
    stopped := fun hphase ↦ ⟨rfl, (coherent.stopped hphase).2⟩ }

/-! ## The thread -/

/-- The thread moves on without taking the slot, writing or answering. -/
theorem collect (coherent : Coherent state) {phase : Phase Content} {queue : Option Message}
    (hinHand : phase.inHand = none) (hempty : state.phase.inHand = none)
    (hwoken : ∀ stored, state.slot = some stored → queue.isSome = true ∨
      phase.received = true ∨ stored.serial ∈ state.waking)
    (hqueued : ∀ flusher, queue = some (.flush flusher) →
      flusher.since ≤ state.scheduled.length)
    (hcollected : ∀ flusher ∈ phase.collected, flusher.since ≤ state.scheduled.length)
    (hcovered : ∀ flusher ∈ phase.covered, flusher.since ≤ state.taken)
    (hstopped : phase = .stopped → state.closed = true ∧ state.slot = none) :
    Coherent { state with queue := queue, phase := phase } :=
  { coherent with
    woken := hwoken
    inHand := fun stored hstored ↦ by cases hinHand.symm.trans hstored
    last := fun stored error _ hlast ↦ coherent.last stored error hempty hlast
    unwritten := fun _ hwrites ↦ coherent.unwritten hempty hwrites
    queued := hqueued
    collected := hcollected
    covered := hcovered
    stopped := hstopped }

/-- The flush of a message that was queued was begun before now. -/
theorem barrier (coherent : Coherent state) {message : Message}
    (hqueue : state.queue = some message) :
    ∀ flusher ∈ message.barrier, flusher.since ≤ state.scheduled.length := by
  intro flusher hflusher
  cases message with
  | changed => cases hflusher
  | flush other =>
    rw [List.mem_singleton.mp hflusher]
    exact coherent.queued other hqueue

theorem take (coherent : Coherent state) {barriers : List Flusher}
    (hphase : state.phase = .drained barriers) : Coherent (state.take barriers) := by
  have hempty : state.phase.inHand = none := by
    rw [hphase]
    rfl
  have hbarriers : ∀ flusher ∈ barriers, flusher.since ≤ state.scheduled.length := by
    intro flusher hflusher
    apply coherent.collected
    rw [hphase]
    exact hflusher
  cases hslot : state.slot with
  | none =>
    have htaken := coherent.empty hslot
    unfold State.take
    rw [hslot]
    exact { coherent with
      slotted := fun _ hnone ↦ by cases hnone
      empty := fun _ ↦ htaken
      woken := fun _ hnone ↦ by cases hnone
      inHand := fun _ hnone ↦ by cases hnone
      last := fun stored error _ hlast ↦ coherent.last stored error hempty hlast
      unwritten := fun _ hwrites ↦ coherent.unwritten hempty hwrites
      collected := fun _ hnone ↦ by cases hnone
      covered := fun flusher hflusher ↦ htaken ▸ hbarriers flusher hflusher
      stopped := fun hstopped ↦ by cases hstopped }
  | some stored =>
    obtain ⟨hserial, hrecorded, hnew⟩ := coherent.slotted stored hslot
    unfold State.take
    rw [hslot]
    exact { coherent with
      slotted := fun _ hnone ↦ by cases hnone
      empty := fun _ ↦ hserial
      woken := fun _ hnone ↦ by cases hnone
      inHand := fun other hother ↦ by
        cases hother
        exact ⟨rfl, hrecorded, fun write hwrite ↦
          Nat.lt_of_lt_of_le (coherent.below write hwrite) hnew⟩
      last := fun _ _ hnone ↦ by cases hnone
      unwritten := fun hnone ↦ by cases hnone
      below := fun write hwrite ↦
        Nat.lt_of_lt_of_le (coherent.below write hwrite) (Nat.le_succ_of_le hnew)
      collected := fun _ hnone ↦ by cases hnone
      covered := fun flusher hflusher ↦
        Nat.le_trans (hbarriers flusher hflusher) (Nat.le_of_eq hserial.symm)
      stopped := fun hstopped ↦ by cases hstopped }

theorem write (coherent : Coherent state) {barriers : List Flusher} {stored : Stored Content}
    (hphase : state.phase = .writing barriers (some stored)) (error : Option String) :
    Coherent (state.write barriers stored error) := by
  have hinHand : state.phase.inHand = some stored := by
    rw [hphase]
    rfl
  obtain ⟨htaken, hrecorded, hnew⟩ := coherent.inHand stored hinHand
  have hlast : (state.writes ++ [(stored, error)]).getLast? = some (stored, error) := by simp
  have hcovered : ∀ flusher ∈ barriers, flusher.since ≤ state.taken := by
    intro flusher hflusher
    apply coherent.covered
    rw [hphase]
    exact hflusher
  refine { coherent with
    woken := fun other hslot ↦ ?_
    inHand := fun _ hnone ↦ by cases hnone
    last := fun other result _ hother ↦ ?_
    unwritten := fun _ hwrites ↦ ?_
    below := fun write hwrite ↦ ?_
    ordered := ?_
    written := fun other result hwrite ↦ ?_
    error := ?_
    disk := fun other hother ↦ ?_
    collected := fun _ hnone ↦ by cases hnone
    covered := hcovered
    answered := fun flusher hreply ↦ (coherent.answered flusher hreply).append _
    stopped := fun hstopped ↦ by cases hstopped }
  · have hold := coherent.woken other hslot
    rw [hphase] at hold
    exact hold
  · cases hlast.symm.trans hother
    exact htaken
  · simp [State.write] at hwrites
  · rcases List.mem_append.mp hwrite with hold | hwritten
    · exact coherent.below write hold
    · rw [List.mem_singleton.mp hwritten]
      exact Nat.lt_of_succ_le (Nat.le_of_eq htaken)
  · refine List.pairwise_append.mpr ⟨coherent.ordered, List.pairwise_singleton _ _, ?_⟩
    intro earlier hearlier later hlater
    rw [List.mem_singleton.mp hlater]
    exact hnew earlier hearlier
  · rcases List.mem_append.mp hwrite with hold | hwritten
    · exact coherent.written other result hold
    · cases List.mem_singleton.mp hwritten
      exact hrecorded
  · simp only [State.write, hlast]
    rfl
  · cases hlast.symm.trans hother
    rfl

theorem reply (coherent : Coherent state) {flusher : Flusher} {rest : List Flusher}
    (hphase : state.phase = .replying (flusher :: rest)) :
    Coherent { state with
      phase := .replying rest
      replies := (flusher, state.lastError) :: state.replies } := by
  have hempty : state.phase.inHand = none := by
    rw [hphase]
    rfl
  have hcovered : ∀ other ∈ flusher :: rest, other.since ≤ state.taken := by
    intro other hother
    apply coherent.covered
    rw [hphase]
    exact hother
  -- The answer is the result of the last write, which covers the flush.
  have hanswer : state.lastError = none → Answered state.writes flusher := by
    intro herror
    have hsince := hcovered flusher List.mem_cons_self
    rw [coherent.error] at herror
    cases hlast : state.writes.getLast? with
    | none =>
      have htaken := coherent.unwritten hempty (List.getLast?_eq_none_iff.mp hlast)
      exact .inl (Nat.le_zero.mp (htaken ▸ hsince))
    | some write =>
      obtain ⟨stored, error⟩ := write
      rw [hlast] at herror
      obtain rfl : error = none := herror
      have htaken := coherent.last stored none hempty hlast
      exact .inr ⟨stored, List.mem_of_getLast? hlast, htaken ▸ hsince⟩
  refine { coherent with
    woken := fun stored hslot ↦ ?_
    inHand := fun _ hnone ↦ by cases hnone
    last := fun stored error _ hlast ↦ coherent.last stored error hempty hlast
    unwritten := fun _ hwrites ↦ coherent.unwritten hempty hwrites
    collected := fun _ hnone ↦ by cases hnone
    covered := fun other hother ↦ hcovered other (List.mem_cons_of_mem _ hother)
    answered := fun other hreply ↦ ?_
    stopped := fun hstopped ↦ by cases hstopped }
  · have hold := coherent.woken stored hslot
    rw [hphase] at hold
    exact hold
  · rcases hreply with hreply | hreturned
    · rcases List.mem_cons.mp hreply with hsame | hold
      · obtain ⟨rfl, herror⟩ := Prod.mk.inj hsame
        exact hanswer herror.symm
      · exact coherent.answered other (.inl hold)
    · exact coherent.answered other (.inr hreturned)

/-- The thread receives a message, or finds another one while it collects. -/
theorem receives (coherent : Coherent state) {message : Message} {phase : Phase Content}
    (hqueue : state.queue = some message) (hempty : state.phase.inHand = none)
    (hphase : phase = .sleeping ∧ message = .changed ∨
      ∃ barriers, phase = .draining (barriers ++ message.barrier) ∧
        ∀ flusher ∈ barriers, flusher.since ≤ state.scheduled.length) :
    Coherent { state with queue := none, phase := phase } := by
  rcases hphase with ⟨rfl, -⟩ | ⟨barriers, rfl, hbarriers⟩
  · exact coherent.collect rfl hempty (fun _ _ ↦ .inr (.inl rfl)) (fun _ hnone ↦ by cases hnone)
      (fun _ hnone ↦ by cases hnone) (fun _ hnone ↦ by cases hnone)
      (fun hstopped ↦ by cases hstopped)
  · refine coherent.collect rfl hempty (fun _ _ ↦ .inr (.inl rfl)) (fun _ hnone ↦ by cases hnone)
      (fun flusher hflusher ↦ ?_) (fun _ hnone ↦ by cases hnone)
      (fun hstopped ↦ by cases hstopped)
    rcases List.mem_append.mp hflusher with hold | hnew
    · exact hbarriers flusher hold
    · exact coherent.barrier hqueue flusher hnew

/-- The thread goes from one phase of its loop to the next, with the queue as it is. -/
theorem moves (coherent : Coherent state) {phase : Phase Content}
    (hinHand : phase.inHand = none) (hempty : state.phase.inHand = none)
    (hreceived : state.phase.received = true → phase.received = true)
    (hcollected : phase.collected = [] ∨ phase.collected = state.phase.collected)
    (hcovered : phase.covered = [] ∨ phase.covered = state.phase.covered)
    (hstopped : phase = .stopped → state.closed = true ∧ state.slot = none) :
    Coherent { state with phase := phase } := by
  refine coherent.collect hinHand hempty (fun stored hslot ↦ ?_) coherent.queued
    (fun flusher hflusher ↦ ?_) (fun flusher hflusher ↦ ?_) hstopped
  · rcases coherent.woken stored hslot with hqueue | hold | hwaking
    · exact .inl hqueue
    · exact .inr (.inl (hreceived hold))
    · exact .inr (.inr hwaking)
  · rcases hcollected with hnone | hsame
    · rw [hnone] at hflusher
      cases hflusher
    · exact coherent.collected flusher (hsame ▸ hflusher)
  · rcases hcovered with hnone | hsame
    · rw [hnone] at hflusher
      cases hflusher
    · exact coherent.covered flusher (hsame ▸ hflusher)

/-- The channel is closed and empty, so no wake-up is outstanding. -/
theorem slot_of_idle (coherent : Coherent state) (hphase : state.phase = .receiving)
    (hqueue : state.queue = none) (hclosed : state.closed = true) : state.slot = none := by
  cases hslot : state.slot with
  | none => rfl
  | some stored =>
    have hwoken := coherent.woken stored hslot
    rw [hqueue, hphase, coherent.awake hclosed] at hwoken
    rcases hwoken with hwoken | hwoken | hwoken <;> cases hwoken

theorem step (coherent : Coherent state) {action : Action Content} {next : State Content}
    (hstep : Persistence.step state action = some next) : Coherent next := by
  cases moves_of_step hstep with
  | store content hopen => exact coherent.store hopen content
  | wake serial => exact coherent.wake serial
  | beginFlush => exact coherent.beginFlush
  | send flusher hsending => exact coherent.send hsending
  | receiveChanged hphase hqueue =>
    exact coherent.receives hqueue (by rw [hphase]; rfl) (.inl ⟨rfl, rfl⟩)
  | receiveFlush flusher hphase hqueue =>
    refine coherent.receives hqueue (by rw [hphase]; rfl) (.inr ⟨[], rfl, ?_⟩)
    exact fun _ hnone ↦ by cases hnone
  | awake hphase =>
    exact coherent.moves rfl (by rw [hphase]; rfl) (fun _ ↦ rfl) (.inl rfl) (.inl rfl)
      (fun hstopped ↦ by cases hstopped)
  | drain barriers message hphase hqueue =>
    refine coherent.receives hqueue (by rw [hphase]; rfl) (.inr ⟨barriers, rfl, ?_⟩)
    intro flusher hflusher
    apply coherent.collected
    rw [hphase]
    exact hflusher
  | drained barriers hphase =>
    exact coherent.moves rfl (by rw [hphase]; rfl) (fun _ ↦ rfl) (.inr (by rw [hphase]; rfl))
      (.inl rfl) (fun hstopped ↦ by cases hstopped)
  | take barriers hphase => exact coherent.take hphase
  | write barriers stored error hphase => exact coherent.write hphase error
  | writeNothing barriers error hphase =>
    exact coherent.moves rfl (by rw [hphase]; rfl) (by rw [hphase]; exact fun hnone ↦ hnone)
      (.inl rfl) (.inr (by rw [hphase]; rfl)) (fun hstopped ↦ by cases hstopped)
  | reply flusher rest hphase => exact coherent.reply hphase
  | replied hphase =>
    exact coherent.moves rfl (by rw [hphase]; rfl) (by rw [hphase]; exact fun hnone ↦ hnone)
      (.inl rfl) (.inl rfl) (fun hstopped ↦ by cases hstopped)
  | returns flusher result hreply => exact coherent.returns hreply
  | drop hopen hwaking => exact coherent.drop hwaking
  | stop hphase hqueue hclosed =>
    exact coherent.moves rfl (by rw [hphase]; rfl) (by rw [hphase]; exact fun hnone ↦ hnone)
      (.inl rfl) (.inl rfl)
      (fun _ ↦ ⟨hclosed, coherent.slot_of_idle hphase hqueue hclosed⟩)

theorem of_reachable (hreach : (writer Content).Reachable state) : Coherent state :=
  hreach.invariant init fun _ _ _ coherent hstep ↦ coherent.step hstep

theorem durable (coherent : Coherent state) : Durable state where
  flushed flusher hflusher := coherent.answered flusher (.inr hflusher)
  woken := coherent.woken
  ordered := coherent.ordered
  written := coherent.written
  dropped hphase content hcontent := by
    have htaken := coherent.empty (coherent.stopped hphase).2
    have hempty : state.phase.inHand = none := by
      rw [hphase]
      rfl
    cases hlast : state.writes.getLast? with
    | none =>
      have hzero := coherent.unwritten hempty (List.getLast?_eq_none_iff.mp hlast)
      rw [hzero] at htaken
      rw [List.eq_nil_of_length_eq_zero htaken.symm] at hcontent
      cases hcontent
    | some write =>
      obtain ⟨stored, error⟩ := write
      have hserial := coherent.last stored error hempty hlast
      have hrecorded := coherent.written stored error (List.mem_of_getLast? hlast)
      have hindex : state.scheduled.length - 1 = stored.serial := by omega
      rw [List.getLast?_eq_getElem?, hindex, hrecorded] at hcontent
      have hsame := Option.some.inj hcontent
      refine ⟨stored, error, rfl, hsame, ?_⟩
      rintro rfl
      rw [coherent.disk stored hlast, hsame]

end Coherent

/-- In every interleaving of the calls, the thread and the drop, with any results of the
writes, the writer is durable. -/
theorem writer_durable {state : State Content} (hreach : (writer Content).Reachable state) :
    Durable state :=
  (Coherent.of_reachable hreach).durable

/-- Two states are scheduled, a flush waits for the second one, and the writer is dropped. -/
theorem writer_durable_flushed :
    ∃ state, (writer ℕ).Reachable state ∧ Durable state ∧ state.phase = .stopped ∧
      state.disk = some 2 ∧ state.returned = [(⟨0, 2⟩, none)] := by
  have hreach : (writer ℕ).Reachable _ :=
    ⟨[.store 1, .wake 0, .store 2, .receive, .wake 1, .beginFlush, .awake, .drain, .drained,
      .send ⟨0, 2⟩, .take, .write (some "full"), .reply, .receive, .drained, .store 2, .take,
      .write none, .reply, .reply, .wake 2, .returns ⟨0, 2⟩ none, .drop, .receive, .awake,
      .drained, .take, .write none, .reply, .stop], rfl⟩
  exact ⟨_, hreach, writer_durable hreach, rfl, rfl, rfl⟩

end BtDaemon.Identity.Persistence
