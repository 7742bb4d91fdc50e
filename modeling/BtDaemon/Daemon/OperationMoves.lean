import BtDaemon.Daemon.OperationRuns

/-!
# Every step is a move of one operation

Each atomic step of the coordinator changes what is held about at most one identifier, and
changes it by one of the moves of `Move`. Later arguments never unfold `step` again to learn
what may have happened to an operation.
-/

namespace BtDaemon.Daemon.Operation

open EventLog Transition OperationCoordinator

/-! ## Effects of the critical sections -/

namespace OperationEvent

@[simp]
theorem requestId_setState (self : OperationEvent) (event : EventName) (state : StateName) :
    (self.setState event state).requestId = self.requestId := rfl

@[simp]
theorem revision_setState (self : OperationEvent) (event : EventName) (state : StateName) :
    (self.setState event state).revision = self.revision + 1 := rfl

@[simp]
theorem owner_setState (self : OperationEvent) (event : EventName) (state : StateName) :
    (self.setState event state).owner = self.owner := rfl

@[simp]
theorem deviceKey_setState (self : OperationEvent) (event : EventName) (state : StateName) :
    (self.setState event state).deviceKey = self.deviceKey := rfl

@[simp]
theorem event_setState (self : OperationEvent) (event : EventName) (state : StateName) :
    (self.setState event state).event = event := rfl

@[simp]
theorem requestId_progress (self : OperationEvent) (stage : String) :
    (self.progress stage).requestId = self.requestId := rfl

@[simp]
theorem revision_progress (self : OperationEvent) (stage : String) :
    (self.progress stage).revision = self.revision + 1 := rfl

@[simp]
theorem owner_progress (self : OperationEvent) (stage : String) :
    (self.progress stage).owner = self.owner := rfl

@[simp]
theorem deviceKey_progress (self : OperationEvent) (stage : String) :
    (self.progress stage).deviceKey = self.deviceKey := rfl

@[simp]
theorem isTerminal_progress (self : OperationEvent) (stage : String) :
    (self.progress stage).isTerminal = false := rfl

variable (self : OperationEvent) (result : Except BackendError Snapshot)

@[simp]
theorem requestId_finished : (self.finished result).requestId = self.requestId := by
  cases result <;> rfl

@[simp]
theorem revision_finished : (self.finished result).revision = self.revision + 1 := by
  cases result <;> rfl

@[simp]
theorem owner_finished : (self.finished result).owner = self.owner := by
  cases result <;> rfl

@[simp]
theorem isTerminal_finished : (self.finished result).isTerminal = true := by
  cases result <;> rfl

end OperationEvent

namespace State

variable (self : State) (requestId other : String)

theorem life_setWorker (worker : Worker) :
    (self.setWorker requestId worker).life other =
      if other = requestId then { self.life other with worker := some worker }
      else self.life other := by
  by_cases hother : other = requestId <;>
    simp [life, setWorker, eventsOf, Table.lookup_insert, hother]

theorem life_setEvent (task : Owned OperationTask) (event : OperationEvent)
    (hevent : event.requestId = requestId) :
    { self with coordinator := self.coordinator.setEvent requestId task event }.life other =
      if other = requestId then (self.life other).publish task event else self.life other := by
  by_cases hother : other = requestId
  · subst hother
    simp [life, Life.publish, eventsOf, setEvent, about_append_singleton, hevent]
  · have hne : requestId ≠ other := Ne.symm hother
    simp [life, eventsOf, setEvent, about_append_singleton, hevent, hother, hne]

theorem life_claimTerminal (task : Owned OperationTask) (terminal : OperationEvent → OperationEvent)
    (htask : self.coordinator.active.lookup requestId = some task)
    (hterminal : (terminal task.value.event).requestId = requestId) :
    { self with coordinator := self.coordinator.claimTerminal requestId terminal }.life other =
      if other = requestId then (self.life other).claim (terminal task.value.event)
      else self.life other := by
  by_cases hother : other = requestId
  · subst hother
    simp [life, Life.claim, eventsOf, claimTerminal, htask, retainTerminal, about_append_singleton,
      hterminal]
  · have hne : requestId ≠ other := Ne.symm hother
    simp [life, eventsOf, claimTerminal, htask, retainTerminal, about_append_singleton, hterminal,
      hother, hne]

theorem claimTerminal_of_none (terminal : OperationEvent → OperationEvent)
    (hgone : self.coordinator.active.lookup requestId = none) :
    self.coordinator.claimTerminal requestId terminal = self.coordinator := by
  simp [claimTerminal, hgone]

/-- Cancelling either aborts a running worker or leaves the whole state alone. -/
theorem cancel_cases {outcome : Cancellation} {next : State} {owner : Option String}
    (hcancel : self.cancel requestId owner = (outcome, next)) :
    next = self ∨ outcome = .aborted ∧ ∃ worker task,
      self.workers.lookup requestId = some worker ∧
      self.coordinator.active.lookup requestId = some task ∧
      task.value.event.owner = owner ∧ task.value.handle = true ∧
      next = { self with
        coordinator := { self.coordinator with
          active := self.coordinator.active.insert requestId
            { task with value := { task.value with handle := false } } }
        workers := self.workers.insert requestId { worker with aborted := true, reaper := true } } := by
  unfold cancel at hcancel
  split at hcancel
  · rename_i coordinator worker haborted hworker
    obtain ⟨rfl, rfl⟩ := Prod.mk.inj hcancel
    right
    unfold cancelOwned at haborted
    split at haborted
    · simp at haborted
    · rename_i task hfound
      obtain ⟨htask, howner⟩ := Option.filter_eq_some_iff.mp hfound
      split at haborted
      · rename_i hhandle
        obtain ⟨-, rfl⟩ := Prod.mk.inj haborted
        exact ⟨rfl, worker, task, hworker, htask, by simpa [OperationEvent.visibleTo] using howner,
          hhandle, rfl⟩
      · simp at haborted
  · obtain ⟨-, rfl⟩ := Prod.mk.inj hcancel
    exact Or.inl rfl

/-- A state that differs at one identifier only, by a move, is one move away. -/
theorem movesOne_of_move {next : State} {changed : Life}
    (hmove : Move self.Busy requestId (self.life requestId) changed)
    (hself : next.life requestId = changed)
    (helse : ∀ third, third ≠ requestId → next.life third = self.life third) :
    MovesOne self next :=
  Or.inr ⟨requestId, hself ▸ hmove, helse⟩

/-- The scan over the active table in `start_owned` finds every holder of a device. -/
theorem not_busy_of_any (deviceKey : String)
    (hany : ¬ (self.coordinator.active.values.any fun task ↦
      task.value.event.deviceKey = deviceKey) = true) : ¬ self.Busy deviceKey := by
  rintro ⟨holder, task, htask, hdevice⟩
  refine hany (List.any_eq_true.mpr ⟨task, ?_, by simpa using hdevice⟩)
  exact (Table.mem_values _ _).mpr ⟨holder, htask⟩

/-- The key of an active entry is the identifier that its event carries. -/
def WellKeyed : Prop :=
  ∀ requestId task, self.coordinator.active.lookup requestId = some task →
    task.value.event.requestId = requestId

end State

section Step

variable {self next : State}

theorem waiterReturns_life {requestId : String}
    (hstep : step self (.waiterReturns requestId) = some next) : MovesOne self next := by
  simp only [step] at hstep
  split at hstep
  · obtain rfl := Option.some.inj hstep
    exact Or.inl fun _ ↦ rfl
  · simp at hstep

theorem sweep_life {call : ℕ} {owner : String} (hstep : step self (.sweep call owner) = some next) :
    MovesOne self next := by
  simp only [step] at hstep
  split at hstep
  · obtain rfl := Option.some.inj hstep
    exact Or.inl fun _ ↦ rfl
  · simp at hstep

theorem start_life {requestId : String} {request : Except String (String × DeviceOperation)}
    {owner : Option String} {admission insertion : Option String}
    (hfresh : self.workers.lookup requestId = none) :
    MovesOne self (self.start requestId request owner admission insertion) := by
  have hworker : (self.life requestId).worker = none := hfresh
  unfold State.start
  split
  · rename_i receipt coordinator event hstart
    unfold startOwned at hstart
    split at hstart
    · simp at hstart
    · rename_i deviceKey operation
      split at hstart
      · simp at hstart
      · split at hstart
        · simp at hstart
        · split at hstart
          · simp at hstart
          · rename_i hany _
            have hidle : ¬ self.Busy deviceKey := self.not_busy_of_any deviceKey hany
            simp only [Prod.mk.injEq, Except.ok.injEq, Option.some.injEq] at hstart
            obtain ⟨-, rfl, rfl⟩ := hstart
            refine self.movesOne_of_move requestId
              (.accept _ owner deviceKey operation.asStr hworker hidle) ?_ fun third hthird ↦ ?_
            · simp [State.life, State.eventsOf]
            · simp [State.life, State.eventsOf, hthird]
  · rename_i receipt coordinator event hstart hrefused
    refine self.movesOne_of_move requestId (.refuse _ event hworker) ?_ fun third hthird ↦ ?_
    · rw [State.life_setWorker, if_pos rfl]
    · rw [State.life_setWorker, if_neg hthird]
  · exact Or.inl fun _ ↦ rfl

theorem cancel_life {requestId : String} {owner : Option String} {outcome : Cancellation}
    (hcancel : self.cancel requestId owner = (outcome, next)) :
    MovesOne self next := by
  obtain rfl | ⟨-, worker, task, hworker, htask, -, hhandle, rfl⟩ :=
    self.cancel_cases requestId hcancel
  · exact Or.inl fun _ ↦ rfl
  · refine self.movesOne_of_move requestId
      (.abort _ worker task hworker htask hhandle) ?_ fun third hthird ↦ ?_
    · simp [State.life, State.eventsOf]
    · simp [State.life, State.eventsOf, hthird]

/-- A step that only replaces a worker is a move if the replacement is one. -/
theorem setWorker_life {requestId : String} {worker : Worker}
    (hmove : Move self.Busy requestId (self.life requestId)
      { self.life requestId with worker := some worker }) :
    MovesOne self (self.setWorker requestId worker) :=
  self.movesOne_of_move requestId hmove (by rw [State.life_setWorker, if_pos rfl])
    fun third hthird ↦ by rw [State.life_setWorker, if_neg hthird]

theorem publish_life {requestId : String} (hkeyed : self.WellKeyed)
    (hstep : step self (.publish requestId) = some next) :
    MovesOne self next := by
  simp only [step] at hstep
  split at hstep
  · rename_i event aborted reporter reaper hworker
    have hlive : (self.life requestId).worker = some ⟨event, .publishing, aborted, reporter, reaper⟩ :=
      hworker
    split at hstep
    · rename_i coordinator hpublish
      obtain rfl := Option.some.inj hstep
      unfold publishStarted at hpublish
      split at hpublish
      · simp at hpublish
      · rename_i task htask
        obtain ⟨-, rfl⟩ := Prod.mk.inj hpublish
        have hid : (task.value.event.setState .started .running).requestId = requestId :=
          hkeyed requestId task htask
        refine self.movesOne_of_move requestId
          (.publishStarted _ _ task hlive rfl htask) ?_ fun third hthird ↦ ?_
        · rw [State.life_setWorker, if_pos rfl, State.life_setEvent _ _ _ _ _ hid, if_pos rfl]
        · rw [State.life_setWorker, if_neg hthird, State.life_setEvent _ _ _ _ _ hid,
            if_neg hthird]
    · rename_i coordinator hpublish
      obtain rfl := Option.some.inj hstep
      unfold publishStarted at hpublish
      split at hpublish
      · rename_i hgone
        exact setWorker_life (.ends _ _ hlive (Or.inr (Or.inr hgone)))
      · simp at hpublish
  · simp at hstep

theorem report_life {requestId stage : String} (hkeyed : self.WellKeyed)
    (hstep : step self (.report requestId stage) = some next) :
    MovesOne self next := by
  simp only [step] at hstep
  split at hstep
  · rename_i hreporter
    obtain rfl := Option.some.inj hstep
    obtain ⟨worker, hworker, hreporter⟩ := Option.any_eq_true _ _ |>.mp hreporter
    unfold progressReport
    split
    · exact Or.inl fun _ ↦ rfl
    · rename_i task htask
      split
      · rename_i hallowed
        simp only [Bool.and_eq_true, decide_eq_true_eq] at hallowed
        have hid : (task.value.event.progress stage).requestId = requestId :=
          hkeyed requestId task htask
        refine self.movesOne_of_move requestId (.report _ worker task stage hworker hreporter htask
          hallowed.1 hallowed.2) ?_ fun third hthird ↦ ?_
        · rw [State.life_setEvent _ _ _ _ _ hid, if_pos rfl]
        · rw [State.life_setEvent _ _ _ _ _ hid, if_neg hthird]
      · exact Or.inl fun _ ↦ rfl
  · simp at hstep

theorem settle_life {requestId : String} (hkeyed : self.WellKeyed)
    (hstep : step self (.settle requestId) = some next) :
    MovesOne self next := by
  simp only [step] at hstep
  split at hstep
  · rename_i event result aborted reporter reaper hworker
    obtain rfl := Option.some.inj hstep
    have hlive : (self.life requestId).worker =
      some ⟨event, .settling result, aborted, reporter, reaper⟩ := hworker
    cases htask : self.coordinator.active.lookup requestId with
    | none =>
      rw [self.claimTerminal_of_none requestId _ htask]
      exact setWorker_life (.ends _ _ hlive (Or.inr (Or.inr htask)))
    | some task =>
      have hid : (task.value.event.finished result).requestId = requestId := by
        rw [OperationEvent.requestId_finished]
        exact hkeyed requestId task htask
      refine self.movesOne_of_move requestId
        (.settle _ _ task result hlive rfl htask) ?_ fun third hthird ↦ ?_
      · rw [State.life_setWorker, if_pos rfl, State.life_claimTerminal _ _ _ task _ htask hid,
          if_pos rfl]
      · rw [State.life_setWorker, if_neg hthird, State.life_claimTerminal _ _ _ task _ htask hid,
          if_neg hthird]
  · simp at hstep

theorem reap_life {requestId : String} (hkeyed : self.WellKeyed)
    (hstep : step self (.reap requestId) = some next) :
    MovesOne self next := by
  simp only [step] at hstep
  split at hstep
  · rename_i event aborted reporter hworker
    obtain rfl := Option.some.inj hstep
    have hlive : (self.life requestId).worker = some ⟨event, .ended, aborted, reporter, true⟩ :=
      hworker
    cases htask : self.coordinator.active.lookup requestId with
    | none =>
      rw [self.claimTerminal_of_none requestId _ htask]
      exact setWorker_life (.reapNothing _ _ hlive htask)
    | some task =>
      have hid : (task.value.event.setState .cancelled .cancelled).requestId = requestId :=
        hkeyed requestId task htask
      refine self.movesOne_of_move requestId
        (.reap _ _ task hlive rfl rfl htask) ?_ fun third hthird ↦ ?_
      · rw [State.life_setWorker, if_pos rfl, State.life_claimTerminal _ _ _ task _ htask hid,
          if_pos rfl]
      · rw [State.life_setWorker, if_neg hthird, State.life_claimTerminal _ _ _ task _ htask hid,
          if_neg hthird]
  · simp at hstep

theorem sweepNext_life {call : ℕ} (hstep : step self (.sweepNext call) = some next) :
    MovesOne self next := by
  simp only [step] at hstep
  split at hstep
  · split at hstep
    · simp at hstep
    · obtain rfl := Option.some.inj hstep
      exact Or.inl fun _ ↦ rfl
  · rename_i owner requestId remaining hsweep
    split at hstep
    · rename_i cancelled hcancel
      obtain rfl := Option.some.inj hstep
      exact (show MovesOne self cancelled from cancel_life hcancel)
    · rename_i outcome cancelled hnot hcancel
      obtain rfl := Option.some.inj hstep
      exact (show MovesOne self cancelled from cancel_life hcancel)
  · obtain rfl := Option.some.inj hstep
    exact Or.inl fun _ ↦ rfl
  · simp at hstep

/-- Every step is a move of at most one operation. -/
theorem step_life (hkeyed : self.WellKeyed) {action : Action}
    (hstep : step self action = some next) : MovesOne self next := by
  cases action with
  | start requestId request owner admission insertion =>
    simp only [step] at hstep
    split at hstep
    · rename_i hfresh
      obtain rfl := Option.some.inj hstep
      exact start_life hfresh
    · simp at hstep
  | release requestId =>
    simp only [step] at hstep
    split at hstep
    · rename_i event aborted reporter reaper hworker
      obtain rfl := Option.some.inj hstep
      exact setWorker_life (.release _ ⟨event, .awaitingStart none, aborted, reporter, reaper⟩
        hworker rfl)
    · simp at hstep
  | wake requestId =>
    simp only [step] at hstep
    split at hstep
    · rename_i event sent aborted reporter reaper hworker
      obtain rfl := Option.some.inj hstep
      cases sent with
      | true =>
        exact setWorker_life (.wake _ ⟨event, .awaitingStart (some true), aborted, reporter, reaper⟩
          hworker rfl)
      | false =>
        exact setWorker_life (.ends _ ⟨event, .awaitingStart (some false), aborted, reporter, reaper⟩
          hworker (Or.inr (Or.inl rfl)))
    · simp at hstep
  | publish requestId => exact publish_life hkeyed hstep
  | report requestId stage => exact report_life hkeyed hstep
  | backendReturns requestId result =>
    simp only [step] at hstep
    split at hstep
    · rename_i event aborted reporter reaper hworker
      obtain rfl := Option.some.inj hstep
      exact setWorker_life (.backendReturns _ ⟨event, .inBackend, aborted, reporter, reaper⟩
        result hworker rfl)
    · simp at hstep
  | settle requestId => exact settle_life hkeyed hstep
  | drop requestId =>
    simp only [step] at hstep
    split at hstep
    · rename_i worker hworker
      split at hstep
      · rename_i haborted
        obtain rfl := Option.some.inj hstep
        exact setWorker_life (.ends _ _ hworker (Or.inl haborted))
      · simp at hstep
    · simp at hstep
  | cancel requestId owner =>
    simp only [step] at hstep
    split at hstep
    · rename_i cancelled hcancel
      obtain rfl := Option.some.inj hstep
      exact (show MovesOne self cancelled from cancel_life hcancel)
    · rename_i outcome cancelled hnot hcancel
      obtain rfl := Option.some.inj hstep
      exact (show MovesOne self cancelled from cancel_life hcancel)
  | waiterReturns requestId => exact waiterReturns_life hstep
  | waiterDropped requestId =>
    obtain rfl := Option.some.inj hstep
    exact Or.inl fun _ ↦ rfl
  | reap requestId => exact reap_life hkeyed hstep
  | sweep call owner => exact sweep_life hstep
  | sweepNext call => exact sweepNext_life hstep
  | evict requestId =>
    simp only [step] at hstep
    split at hstep
    · simp at hstep
    · rename_i hretained
      obtain ⟨record, hrecord⟩ := Option.ne_none_iff_exists'.mp hretained
      obtain rfl := Option.some.inj hstep
      refine self.movesOne_of_move requestId (.evict _ record hrecord) ?_ fun third hthird ↦ ?_
      · simp [State.life, State.eventsOf]
      · simp [State.life, State.eventsOf, hthird]

end Step

end BtDaemon.Daemon.Operation
