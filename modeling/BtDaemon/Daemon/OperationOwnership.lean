import BtDaemon.Daemon.OperationLifecycle

/-!
# Ownership and device exclusivity of operations

An accepted operation is always in one of the two tables until the retention policy gives
its result up, only its own owner can see or cancel it, and no two operations work on one
device: neither in the active table nor with backend futures that are alive together.
-/

namespace BtDaemon.Daemon.Operation

open EventLog Transition OperationCoordinator

/-! ## One operation per device -/

/-- No two active operations hold one device. -/
def State.Exclusive (self : State) : Prop :=
  ∀ first second taskOne taskTwo, self.coordinator.active.lookup first = some taskOne →
    self.coordinator.active.lookup second = some taskTwo →
    taskOne.value.event.deviceKey = taskTwo.value.event.deviceKey → first = second

/-- A move keeps the device of an operation that was active, or accepts an idle device. -/
theorem Move.device {busy : String → Prop} {requestId : String} {life next : Life}
    (hmove : Move busy requestId life next) {task : Owned OperationTask}
    (htask : next.active = some task) :
    (∃ before, life.active = some before ∧
      before.value.event.deviceKey = task.value.event.deviceKey) ∨
      ¬ busy task.value.event.deviceKey := by
  cases hmove with
  | accept owner deviceKey operation hfresh hidle =>
    obtain rfl := Option.some.inj htask
    exact Or.inr hidle
  | publishStarted worker before hworker hphase hbefore =>
    obtain rfl := Option.some.inj htask
    exact Or.inl ⟨before, hbefore, rfl⟩
  | report worker before stage hworker hreporter hbefore hhandle hreserve =>
    obtain rfl := Option.some.inj htask
    exact Or.inl ⟨before, hbefore, rfl⟩
  | abort worker before hworker hbefore hhandle =>
    obtain rfl := Option.some.inj htask
    exact Or.inl ⟨before, hbefore, rfl⟩
  | settle => simp [Life.claim] at htask
  | reap => simp [Life.claim] at htask
  | _ => exact Or.inl ⟨task, htask, rfl⟩

theorem exclusive_step {self next : State} {action : Action} (hcoherent : self.Coherent)
    (hexclusive : self.Exclusive) (hstep : step self action = some next) : next.Exclusive := by
  obtain hsame | ⟨moved, hmove, helse⟩ := step_life hcoherent.wellKeyed hstep
  · intro first second taskOne taskTwo hone htwo hdevice
    exact hexclusive first second taskOne taskTwo
      ((congrArg Life.active (hsame first)).symm.trans hone)
      ((congrArg Life.active (hsame second)).symm.trans htwo) hdevice
  · -- The moved operation against one that did not move.
    have hmoved : ∀ other taskMoved taskOther, other ≠ moved →
        next.coordinator.active.lookup moved = some taskMoved →
        next.coordinator.active.lookup other = some taskOther →
        taskMoved.value.event.deviceKey ≠ taskOther.value.event.deviceKey := by
      intro other taskMoved taskOther hother htaskMoved htaskOther hdevice
      have hbefore : self.coordinator.active.lookup other = some taskOther :=
        (congrArg Life.active (helse other hother)).symm.trans htaskOther
      obtain ⟨before, hactive, hkept⟩ | hidle := hmove.device htaskMoved
      · exact hother (hexclusive other moved taskOther before hbefore hactive
          (hdevice.symm.trans hkept.symm))
      · exact hidle ⟨other, taskOther, hbefore, hdevice.symm⟩
    intro first second taskOne taskTwo hone htwo hdevice
    by_cases hfirst : first = moved <;> by_cases hsecond : second = moved
    · rw [hfirst, hsecond]
    · subst hfirst
      exact absurd hdevice (hmoved second taskOne taskTwo hsecond hone htwo)
    · subst hsecond
      exact absurd hdevice.symm (hmoved first taskTwo taskOne hfirst htwo hone)
    · exact hexclusive first second taskOne taskTwo
        ((congrArg Life.active (helse first hfirst)).symm.trans hone)
        ((congrArg Life.active (helse second hsecond)).symm.trans htwo) hdevice

theorem exclusive_init : State.init.Exclusive := by
  intro first second taskOne taskTwo hone
  simp [State.init, new] at hone

theorem exclusive_of_reachable {self : State} (hreach : system.Reachable self) :
    self.Exclusive := by
  have hstep : ∀ state action next, state.Coherent ∧ state.Exclusive →
      step state action = some next → next.Coherent ∧ next.Exclusive := by
    rintro state action next ⟨hcoherent, hexclusive⟩ hstep
    exact ⟨coherent_step hcoherent hstep, exclusive_step hcoherent hexclusive hstep⟩
  have hinit : State.init.Coherent ∧ State.init.Exclusive := ⟨coherent_init, exclusive_init⟩
  exact (hreach.invariant hinit hstep).2

/-- The backend future of this operation, on this device, is alive. -/
def State.InBackend (self : State) (requestId deviceKey : String) : Prop :=
  ∃ worker, self.workers.lookup requestId = some worker ∧ worker.phase = .inBackend ∧
    worker.event.deviceKey = deviceKey

/-- A live backend future belongs to an operation that still holds its device. -/
theorem State.Coherent.holds_device {self : State} (hcoherent : self.Coherent)
    {requestId deviceKey : String} (halive : self.InBackend requestId deviceKey) :
    ∃ task, self.coordinator.active.lookup requestId = some task ∧
      task.value.event.deviceKey = deviceKey := by
  obtain ⟨worker, hworker, hphase, hdevice⟩ := halive
  have hlife := hcoherent requestId
  have hopen : worker.phase.isOpen := by simp [hphase, Phase.isOpen]
  obtain ⟨task, htask⟩ := Option.isSome_iff_exists.mp (hlife.isOpen worker hworker hopen)
  obtain ⟨found, hfound, hsame, -, -⟩ := (hlife.running task htask).worker
  obtain rfl := Option.some.inj (hworker.symm.trans hfound)
  exact ⟨task, htask, hsame.symm.trans hdevice⟩

/-! ## What each owner can find -/

/-- The state's answer to a foreign owner is the answer for an identifier it never saw. -/
structure State.HiddenFrom (self : State) (requestId : String) (stranger : Option String) :
    Prop where
  status : self.coordinator.status (.ok requestId) stranger =
    .error (error "request-not-found" "No retained operation for this caller")
  snapshot : ∀ event ∈ (self.coordinator.snapshot stranger).1 ++
    (self.coordinator.snapshot stranger).2, event.requestId ≠ requestId
  cancel : self.cancel requestId stranger = (.notFound, self)

theorem getOwned_eq_some {Value : Type} {table : Table String (Owned Value)} {requestId : String}
    {owner : Option String} {value : Value} :
    getOwned table requestId owner = some value ↔ table.lookup requestId = some ⟨owner, value⟩ := by
  simp only [getOwned, Option.map_eq_some_iff, Option.filter_eq_some_iff, decide_eq_true_eq]
  constructor
  · rintro ⟨⟨found, kept⟩, ⟨hlookup, rfl⟩, rfl⟩
    exact hlookup
  · intro hlookup
    exact ⟨_, ⟨hlookup, rfl⟩, rfl⟩

theorem getOwned_eq_none {Value : Type} {table : Table String (Owned Value)} {requestId : String}
    {owner : Option String} (hforeign : ∀ entry, table.lookup requestId = some entry →
      entry.owner ≠ owner) : getOwned table requestId owner = none := by
  cases hfound : getOwned table requestId owner with
  | none => rfl
  | some value => exact absurd rfl (hforeign _ (getOwned_eq_some.mp hfound))

namespace State.Coherent

variable {self : State} (hcoherent : self.Coherent) {requestId : String} {owner : Option String}

include hcoherent

theorem recent_owner {record : Owned OperationEvent}
    (hrecord : self.coordinator.recent.lookup requestId = some record) :
    self.accepted.lookup requestId = some record.owner ∧
      record.value.owner = record.owner ∧ record.value.requestId = requestId := by
  have hlife := hcoherent requestId
  have hactive : (self.life requestId).active = none := by
    by_contra hsome
    obtain ⟨task, htask⟩ := Option.ne_none_iff_exists'.mp hsome
    exact absurd (hrecord.symm.trans (hlife.running task htask).recent) (by simp)
  obtain ⟨holder, haccepted⟩ : ∃ holder, (self.life requestId).accepted = some holder := by
    apply Option.ne_none_iff_exists'.mp
    intro hnone
    exact absurd (hrecord.symm.trans (hlife.unaccepted hnone).1) (by simp)
  obtain ⟨earlier, last, -, -, hrequest, howner, -, hrecent⟩ :=
    hlife.settled holder haccepted hactive
  obtain hretained | ⟨hnone, -⟩ := hrecent
  · obtain rfl := Option.some.inj (hrecord.symm.trans hretained)
    exact ⟨haccepted, howner, hrequest⟩
  · exact absurd (hrecord.symm.trans hnone) (by simp)

/-- An accepted operation answers its owner's status call until its result is evicted. -/
theorem status_of_accepted (haccepted : self.accepted.lookup requestId = some owner)
    (hkept : requestId ∉ self.evicted) :
    ∃ event, self.coordinator.status (.ok requestId) owner = .ok event ∧
      event.requestId = requestId := by
  have hlife := hcoherent requestId
  cases hactive : self.coordinator.active.lookup requestId with
  | some task =>
    have hrunning := hlife.running task hactive
    obtain rfl : task.owner = owner :=
      Option.some.inj (hrunning.accepted.symm.trans haccepted)
    refine ⟨task.value.event, ?_, hrunning.requestId_eq⟩
    have hfound : getOwned self.coordinator.active requestId task.owner = some task.value :=
      getOwned_eq_some.mpr hactive
    simp [status, hfound]
  | none =>
    obtain ⟨earlier, last, -, -, hrequest, -, -, hrecent⟩ := hlife.settled owner haccepted hactive
    obtain hretained | ⟨-, hevicted⟩ := hrecent
    · refine ⟨last, ?_, hrequest⟩
      have hnone : getOwned self.coordinator.active requestId owner = none := by
        simp [getOwned, hactive]
      have hfound : getOwned self.coordinator.recent requestId owner = some last :=
        getOwned_eq_some.mpr hretained
      simp [status, hnone, hfound]
    · exact absurd (by simpa [State.life] using hevicted) hkept

/-- To any other owner the operation does not exist. -/
theorem hiddenFrom (haccepted : self.accepted.lookup requestId = some owner)
    {stranger : Option String} (hstranger : stranger ≠ owner) :
    self.HiddenFrom requestId stranger := by
  have hlife := hcoherent requestId
  have hactive : ∀ task, self.coordinator.active.lookup requestId = some task →
      task.owner = owner := fun task htask ↦
    Option.some.inj ((hlife.running task htask).accepted.symm.trans haccepted)
  have hrecent : ∀ record, self.coordinator.recent.lookup requestId = some record →
      record.owner = owner := fun record hrecord ↦
    Option.some.inj ((hcoherent.recent_owner hrecord).1.symm.trans haccepted)
  refine ⟨?_, ?_, ?_⟩
  · have hnoActive : getOwned self.coordinator.active requestId stranger = none :=
      getOwned_eq_none fun task htask heq ↦ hstranger (heq.symm.trans (hactive task htask))
    have hnoRecent : getOwned self.coordinator.recent requestId stranger = none :=
      getOwned_eq_none fun record hrecord heq ↦ hstranger (heq.symm.trans (hrecent record hrecord))
    simp [status, hnoActive, hnoRecent]
  · intro event hmem hevent
    obtain hmem | hmem := List.mem_append.mp hmem
    · simp only [snapshot, List.mem_map, List.mem_filter, decide_eq_true_eq,
        Table.mem_values] at hmem
      obtain ⟨task, ⟨⟨key, hkey⟩, howner⟩, rfl⟩ := hmem
      obtain rfl : requestId = key := hevent.symm.trans (hcoherent.wellKeyed key task hkey)
      exact hstranger (howner.symm.trans (hactive task hkey))
    · simp only [snapshot, List.mem_map, List.mem_filter, Table.mem_values,
        OperationEvent.visibleTo, decide_eq_true_eq] at hmem
      obtain ⟨⟨record, ⟨key, hkey⟩, rfl⟩, howner⟩ := hmem
      obtain ⟨-, hsame, hrequest⟩ := hcoherent.recent_owner hkey
      obtain rfl : requestId = key := hevent.symm.trans hrequest
      exact hstranger (howner.symm.trans (hsame.trans (hrecent record hkey)))
  · have hnone : (self.coordinator.active.lookup requestId).filter
        (fun task ↦ task.value.event.visibleTo stranger) = none := by
      apply Option.filter_eq_none_iff.mpr
      intro task htask hvisible
      have hevent := (hlife.running task htask).owner_eq
      simp only [OperationEvent.visibleTo, decide_eq_true_eq] at hvisible
      exact hstranger (hvisible.symm.trans (hevent.trans (hactive task htask)))
    simp [State.cancel, cancelOwned, hnone]

end State.Coherent

/-! ## All of it in every reachable state -/

/-- What the owners of operations, and the devices, may rely on. -/
structure State.Guarded (self : State) : Prop where
  found : ∀ requestId owner, self.accepted.lookup requestId = some owner →
    requestId ∉ self.evicted → ∃ event,
      self.coordinator.status (.ok requestId) owner = .ok event ∧ event.requestId = requestId
  hidden : ∀ requestId owner stranger, self.accepted.lookup requestId = some owner →
    stranger ≠ owner → self.HiddenFrom requestId stranger
  exclusive : self.Exclusive
  one_future : ∀ first second deviceKey, self.InBackend first deviceKey →
    self.InBackend second deviceKey → first = second

/-- Every interleaving keeps accepted operations findable by their owner alone, and one
operation and one backend future for each device. -/
theorem guarded_of_reachable {self : State} (hreach : system.Reachable self) : self.Guarded := by
  have hcoherent := coherent_of_reachable hreach
  have hexclusive := exclusive_of_reachable hreach
  refine ⟨fun _ _ ↦ hcoherent.status_of_accepted,
    fun _ _ _ haccepted ↦ hcoherent.hiddenFrom haccepted, hexclusive, ?_⟩
  intro first second deviceKey hfirst hsecond
  obtain ⟨taskOne, hone, honeDevice⟩ := hcoherent.holds_device hfirst
  obtain ⟨taskTwo, htwo, htwoDevice⟩ := hcoherent.holds_device hsecond
  exact hexclusive first second taskOne taskTwo hone htwo (honeDevice.trans htwoDevice.symm)

/-- A cancel whose caller went away: the device is taken until the reaper has claimed the
operation, and only then accepts the next one. -/
def abandonedCancelRun : List Action :=
  [.start "operation-a" (.ok ("device", .connect)) (some ":1.7") none none,
    .release "operation-a", .wake "operation-a", .publish "operation-a",
    .cancel "operation-a" (some ":1.7"), .waiterDropped "operation-a",
    .start "operation-b" (.ok ("device", .disconnect)) (some ":1.8") none none,
    .drop "operation-a", .reap "operation-a",
    .start "operation-c" (.ok ("device", .disconnect)) (some ":1.8") none none]

theorem guarded_of_abandonedCancelRun :
    ∃ final, system.run system.init abandonedCancelRun = some final ∧ final.Guarded ∧
      final.accepted.keys = ["operation-c", "operation-a"] :=
  ⟨_, rfl, guarded_of_reachable ⟨abandonedCancelRun, rfl⟩, by decide⟩

end BtDaemon.Daemon.Operation
