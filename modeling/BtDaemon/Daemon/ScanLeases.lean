import BtDaemon.Daemon.ScanRuns

/-!
# Leases of active scans

What a step of the coordinator can do to the table of active scans and to the section that
holds the lock. From it follows which adapters the backend is ever asked to stop: a stop
spares every adapter that another active scan leases, and the roll-back of an unconfirmed
start is the one request that does not look at the leases.
-/

namespace BtDaemon.Daemon.Scan

open Transition State

/-- The part of the state that decides what is leased and what is being stopped. -/
structure Leases where
  tasks : Table String ScanTask
  transition : Section
  nextId : String

def State.leases (self : State) : Leases :=
  ⟨self.tasks, self.transition, "scan-" ++ toString self.sequence⟩

/-- The backend's answer that a step consumes. -/
def Action.answer : Action → Option (Except BackendError Snapshot)
  | .reply result => some result
  | _ => none

/-- All that a step can do to the leases. -/
inductive Move : Option (Except BackendError Snapshot) → Leases → Leases → Prop where
  | stay (leases : Leases) : Move none leases leases
  | start (tasks nextId adapterKey timeoutMs owner) :
      Move none ⟨tasks, .free, nextId⟩ ⟨tasks, .starting adapterKey timeoutMs owner, nextId⟩
  | stop (tasks nextId cause selected current remaining) (requestId owner : Option String)
      (hselect : selectScans tasks requestId owner = (selected, current :: remaining))
      (hremoves : ∀ id ∈ cause.removes selected, id ∈ selected) :
      Move none ⟨tasks, .free, nextId⟩
        ⟨tasks, .stopping cause selected current remaining (.ok none), nextId⟩
  | read (tasks nextId cause selected) (requestId owner : Option String)
      (hselect : selectScans tasks requestId owner = (selected, []))
      (hremoves : ∀ id ∈ cause.removes selected, id ∈ selected) :
      Move none ⟨tasks, .free, nextId⟩ ⟨tasks, .reading cause selected, nextId⟩
  | startFailed (tasks nextId adapterKey timeoutMs owner failure) :
      Move (some (.error failure)) ⟨tasks, .starting adapterKey timeoutMs owner, nextId⟩
        ⟨tasks, .free, nextId⟩
  | unconfirmed (tasks nextId adapterKey timeoutMs owner snapshot)
      (hkeys : poweredAdapterKeys snapshot adapterKey = []) :
      Move (some (.ok snapshot)) ⟨tasks, .starting adapterKey timeoutMs owner, nextId⟩
        ⟨tasks, .rollingBack adapterKey, nextId⟩
  | started (tasks nextId adapterKey timeoutMs owner snapshot) (task : ScanTask) (laterId : String)
      (hkeys : poweredAdapterKeys snapshot adapterKey ≠ [])
      (htask : task.event.adapterKeys = poweredAdapterKeys snapshot adapterKey)
      (howner : task.event.owner = owner) :
      Move (some (.ok snapshot)) ⟨tasks, .starting adapterKey timeoutMs owner, nextId⟩
        ⟨tasks.insert nextId task, .free, laterId⟩
  | rolledBack (tasks nextId adapterKey result) :
      Move (some result) ⟨tasks, .rollingBack adapterKey, nextId⟩ ⟨tasks, .free, nextId⟩
  | stopNext (tasks nextId cause selected current next remaining earlier result) :
      Move (some result) ⟨tasks, .stopping cause selected current (next :: remaining) earlier, nextId⟩
        ⟨tasks, .stopping cause selected next remaining
          (earlier.bind fun _ ↦ result.map some), nextId⟩
  | stopped (tasks nextId cause selected current earlier snapshot) :
      Move (some (.ok snapshot)) ⟨tasks, .stopping cause selected current [] (.ok earlier), nextId⟩
        ⟨tasks.eraseAll (cause.removes selected), .free, nextId⟩
  | stopFailed (tasks nextId cause selected current earlier result)
      (hfailed : earlier.isOk = false ∨ result.isOk = false) :
      Move (some result) ⟨tasks, .stopping cause selected current [] earlier, nextId⟩
        ⟨tasks, .free, nextId⟩
  | readDone (tasks nextId cause selected snapshot) :
      Move (some (.ok snapshot)) ⟨tasks, .reading cause selected, nextId⟩
        ⟨tasks.eraseAll (cause.removes selected), .free, nextId⟩
  | readFailed (tasks nextId cause selected failure) :
      Move (some (.error failure)) ⟨tasks, .reading cause selected, nextId⟩
        ⟨tasks, .free, nextId⟩

/-! ## Every step is a move -/

theorem leases_finishStop_ok (self : State) (cause : Cause) (selected : List String)
    (snapshot : Snapshot) :
    (self.finishStop cause selected (.ok snapshot)).leases =
      ⟨self.tasks.eraseAll (cause.removes selected), .free, self.leases.nextId⟩ := by
  cases cause <;> rfl

theorem leases_finishStop_error (self : State) (cause : Cause) (selected : List String)
    (failure : BackendError) :
    (self.finishStop cause selected (.error failure)).leases =
      ⟨self.tasks, .free, self.leases.nextId⟩ := by
  cases cause <;> rfl

theorem State.leases_of_transition {self : State} {transition : Section}
    (htransition : self.transition = transition) :
    self.leases = ⟨self.tasks, transition, self.leases.nextId⟩ := by
  rw [← htransition]
  rfl

/-- The first call of a stop that found scans to stop. -/
theorem stopAdapters_move (self : State) (cause : Cause) (requestId owner : Option String)
    {selected adapters : List String} (hfree : self.transition = .free)
    (hselect : selectScans self.tasks requestId owner = (selected, adapters))
    (hremoves : ∀ id ∈ cause.removes selected, id ∈ selected) :
    Move none self.leases (self.stopAdapters cause selected adapters (.ok none)).leases := by
  rw [leases_of_transition hfree]
  cases adapters with
  | nil => exact .read _ _ cause selected requestId owner hselect hremoves
  | cons current remaining =>
    exact .stop _ _ cause selected current remaining requestId owner hselect hremoves

theorem stopSelected_move (self : State) (requestId owner : Option String) (event : String)
    (sweep : Option ℕ) (hfree : self.transition = .free) :
    Move none self.leases (self.stopSelected requestId owner event sweep).leases := by
  unfold stopSelected
  split
  · exact .stay _
  · next selected adapters hnonempty hselect =>
    exact stopAdapters_move self _ requestId owner hfree hselect fun _ ↦ id

/-- The answer to one call of the `stop_adapters` loop. -/
theorem stopping_move {self : State} {cause : Cause} {selected remaining : List String}
    {current : String} {earlier : Except BackendError (Option Snapshot)}
    (htransition : self.transition = .stopping cause selected current remaining earlier)
    (result : Except BackendError Snapshot) :
    Move (some result) self.leases
      (self.stopAdapters cause selected remaining (earlier.bind fun _ ↦ result.map some)).leases := by
  rw [leases_of_transition htransition]
  cases remaining with
  | cons following remaining => exact .stopNext _ _ _ _ _ _ _ _ _
  | nil =>
    cases earlier with
    | error failure =>
      have hfinish := leases_finishStop_error self cause selected failure
      exact hfinish ▸ Move.stopFailed _ _ _ _ _ _ _ (Or.inl rfl)
    | ok earlier =>
      cases result with
      | error failure =>
        have hfinish := leases_finishStop_error self cause selected failure
        exact hfinish ▸ Move.stopFailed _ _ _ _ _ _ _ (Or.inr rfl)
      | ok snapshot =>
        have hfinish := leases_finishStop_ok self cause selected snapshot
        exact hfinish ▸ Move.stopped _ _ _ _ _ _ _

theorem reading_move {self : State} {cause : Cause} {selected : List String}
    (htransition : self.transition = .reading cause selected)
    (result : Except BackendError Snapshot) :
    Move (some result) self.leases (self.finishStop cause selected result).leases := by
  rw [leases_of_transition htransition]
  cases result with
  | error failure => exact leases_finishStop_error self cause selected failure ▸ .readFailed _ _ _ _ _
  | ok snapshot => exact leases_finishStop_ok self cause selected snapshot ▸ .readDone _ _ _ _ _

theorem starting_move {self next : State} {adapterKey : Option String} {timeoutMs : ℕ}
    {owner : String} (htransition : self.transition = .starting adapterKey timeoutMs owner)
    {result : Except BackendError Snapshot} (hreply : self.reply result = some next) :
    Move (some result) self.leases next.leases := by
  rw [leases_of_transition htransition]
  cases result with
  | error failure =>
    simp only [reply, htransition] at hreply
    obtain rfl := Option.some.inj hreply
    exact .startFailed _ _ _ _ _ _
  | ok snapshot =>
    simp only [reply, htransition] at hreply
    split at hreply
    · next hkeys =>
      obtain rfl := Option.some.inj hreply
      exact .unconfirmed _ _ _ _ _ _ hkeys
    · next hkeys =>
      obtain rfl := Option.some.inj hreply
      exact .started _ _ _ _ _ _ ⟨self.spawned, _⟩ _ hkeys rfl rfl

theorem reply_move {self next : State} {result : Except BackendError Snapshot}
    (hreply : self.reply result = some next) : Move (some result) self.leases next.leases := by
  cases htransition : self.transition with
  | free => simp [reply, htransition] at hreply
  | starting adapterKey timeoutMs owner => exact starting_move htransition hreply
  | rollingBack adapterKey =>
    simp only [reply, htransition] at hreply
    obtain rfl := Option.some.inj hreply
    rw [leases_of_transition htransition]
    exact .rolledBack _ _ _ _
  | stopping cause selected current remaining earlier =>
    simp only [reply, htransition] at hreply
    obtain rfl := Option.some.inj hreply
    exact stopping_move htransition result
  | reading cause selected =>
    simp only [reply, htransition] at hreply
    obtain rfl := Option.some.inj hreply
    exact reading_move htransition result

theorem isFree_iff {self : State} : self.isFree = true ↔ self.transition = .free := by
  unfold isFree
  split <;> simp_all

/-- What `select_scans` selects for a timeout is its own scan. -/
theorem taskId_mem_selected {tasks : Table String ScanTask} {taskId : String}
    {selected adapters : List String}
    (hselect : selectScans tasks (some taskId) none = (selected, adapters))
    (hsome : selected ≠ []) : taskId ∈ selected := by
  obtain ⟨id, hid⟩ := List.exists_mem_of_ne_nil selected hsome
  have hmem := (mem_selectScans_ids tasks (some taskId) none id).mp (by rwa [hselect])
  obtain ⟨task, -, hselects⟩ := hmem
  obtain rfl : taskId = id := by simpa [selects] using hselects
  exact hid

theorem step_move {self next : State} {action : Action} (hstep : step self action = some next) :
    Move action.answer self.leases next.leases := by
  cases action with
  | start params owner =>
    simp only [step] at hstep
    split at hstep
    · obtain rfl := Option.some.inj hstep
      exact .stay _
    · obtain ⟨hfree, hnext⟩ := Option.ite_none_right_eq_some.mp hstep
      obtain rfl := Option.some.inj hnext
      exact stopSelected_move self _ _ _ _ (isFree_iff.mp hfree)
    · obtain ⟨hfree, hnext⟩ := Option.ite_none_right_eq_some.mp hstep
      obtain rfl := Option.some.inj hnext
      rw [leases_of_transition (isFree_iff.mp hfree)]
      exact .start _ _ _ _ _
  | stop requestId owner event =>
    obtain ⟨hfree, hnext⟩ := Option.ite_none_right_eq_some.mp hstep
    obtain rfl := Option.some.inj hnext
    exact stopSelected_move self _ _ _ _ (isFree_iff.mp hfree)
  | sweep call owner =>
    obtain ⟨-, hnext⟩ := Option.ite_none_right_eq_some.mp hstep
    obtain rfl := Option.some.inj hnext
    exact .stay _
  | sweepNext call =>
    simp only [step] at hstep
    split at hstep
    · next requestId rest _ =>
      obtain ⟨hfree, hnext⟩ := Option.ite_none_right_eq_some.mp hstep
      obtain rfl := Option.some.inj hnext
      have hmove := stopSelected_move { self with sweeps := self.sweeps.insert call rest }
        (some requestId) none "cancelled" (some call) (isFree_iff.mp hfree)
      exact hmove
    · obtain ⟨-, hnext⟩ := Option.ite_none_left_eq_some.mp hstep
      obtain rfl := Option.some.inj hnext
      exact .stay _
    · contradiction
  | timeout timer =>
    simp only [step] at hstep
    split at hstep
    · next taskId _ _ =>
      obtain ⟨hfree, hnext⟩ := Option.ite_none_right_eq_some.mp hstep
      split at hnext
      · obtain rfl := Option.some.inj hnext
        exact .stay _
      · next selected adapters hsome hselect =>
        obtain rfl := Option.some.inj hnext
        apply stopAdapters_move self _ (some taskId) none (isFree_iff.mp hfree) hselect
        intro id hid
        obtain rfl := List.mem_singleton.mp hid
        exact taskId_mem_selected hselect hsome
    · contradiction
  | reply result => exact reply_move hstep

/-! ## What the backend is asked to stop -/

/-- A stop without an adapter key means all adapters. -/
def Reaches (target : Option String) (key : String) : Bool := target.all (key = ·)

/-- No active scan outside the list leases an adapter that the stop reaches. -/
def Spares (tasks : Table String ScanTask) (onBehalfOf : List String) (target : Option String) :
    Prop :=
  ∀ entry ∈ tasks.entries, entry.1 ∉ onBehalfOf →
    ∀ key ∈ entry.2.event.adapterKeys, Reaches target key = false

instance (tasks : Table String ScanTask) (onBehalfOf : List String) (target : Option String) :
    Decidable (Spares tasks onBehalfOf target) :=
  inferInstanceAs (Decidable (∀ entry ∈ tasks.entries, entry.1 ∉ onBehalfOf → _))

/-- The adapter that the section asks the backend to stop; `some none` stops all of them. -/
def Section.asksToStop (self : Section) : Option (Option String) :=
  match self.call with
  | some (.setScanning target false) => some target
  | _ => none

/-- The scans that a stop acts for; the roll-back of a start acts for none of them. -/
def Section.onBehalfOf : Section → List String
  | .stopping _ selected _ _ _ | .reading _ selected => selected
  | _ => []

def Leases.Safe (self : Leases) : Prop :=
  ∀ target ∈ self.transition.asksToStop, Spares self.tasks self.transition.onBehalfOf target

/-- The adapter key of the start that this answer does not confirm. -/
def Leases.unconfirmed (self : Leases) (answer : Option (Except BackendError Snapshot)) :
    Option (Option String) :=
  match self.transition, answer with
  | .starting adapterKey _ _, some (.ok snapshot) =>
    if poweredAdapterKeys snapshot adapterKey = [] then some adapterKey else none
  | _, _ => none

/-- No active scan leases an adapter that the roll-back of an unconfirmed start reaches. -/
def Leases.RollBackSpares (self : Leases) (answer : Option (Except BackendError Snapshot)) :
    Prop :=
  ∀ adapterKey ∈ self.unconfirmed answer, Spares self.tasks [] adapterKey

/-- The adapters that a stop has still to ask for are leased by nobody else. -/
def Leases.Prepared (self : Leases) : Prop :=
  match self.transition with
  | .stopping _ selected current remaining _ =>
    ∀ key ∈ current :: remaining, Spares self.tasks selected (some key)
  | .rollingBack adapterKey => Spares self.tasks [] adapterKey
  | _ => True

theorem Leases.Prepared.safe {self : Leases} (hprepared : self.Prepared) : self.Safe := by
  intro target htarget
  obtain ⟨tasks, transition, nextId⟩ := self
  cases transition with
  | rollingBack adapterKey =>
    obtain rfl := Option.some.inj htarget
    exact hprepared
  | stopping cause selected current remaining result =>
    obtain rfl := Option.some.inj htarget
    exact hprepared current List.mem_cons_self
  | _ => simp [Section.asksToStop, Section.call] at htarget

theorem spares_of_selectScans {tasks : Table String ScanTask} {requestId owner : Option String}
    {selected adapters : List String}
    (hselect : selectScans tasks requestId owner = (selected, adapters)) {key : String}
    (hkey : key ∈ adapters) : Spares tasks selected (some key) := by
  have hothers := ((mem_selectScans_adapters tasks requestId owner key).mp (by rwa [hselect])).2
  rw [hselect] at hothers
  rintro ⟨id, task⟩ hentry hid other hother
  have hlookup := (Table.mem_entries tasks id task).mp hentry
  apply Bool.eq_false_iff.mpr
  intro hreaches
  obtain rfl : other = key := by simpa [Reaches] using hreaches
  exact hothers id task hlookup hid hother

theorem Leases.Prepared.move {self next : Leases}
    {answer : Option (Except BackendError Snapshot)} (hprepared : self.Prepared)
    (hmove : Move answer self next) (hspares : self.RollBackSpares answer) : next.Prepared := by
  cases hmove with
  | stay => exact hprepared
  | stop tasks nextId cause selected current remaining requestId owner hselect hremoves =>
    exact fun key hkey ↦ spares_of_selectScans hselect hkey
  | unconfirmed tasks nextId adapterKey timeoutMs owner snapshot hkeys =>
    exact hspares adapterKey (by simp [Leases.unconfirmed, hkeys])
  | stopNext tasks nextId cause selected current following remaining earlier result =>
    exact fun key hkey ↦ hprepared key (List.mem_cons_of_mem _ hkey)
  | _ => trivial

/-- An unsafe roll-back makes the next state unsafe. -/
theorem rollBackSpares_of_safe {self next : Leases}
    {answer : Option (Except BackendError Snapshot)} (hmove : Move answer self next)
    (hsafe : next.Safe) : self.RollBackSpares answer := by
  intro adapterKey hunconfirmed
  cases hmove with
  | unconfirmed tasks nextId requested timeoutMs owner snapshot hkeys =>
    obtain rfl : requested = adapterKey := by
      simpa [Leases.unconfirmed, hkeys] using hunconfirmed
    exact hsafe requested rfl
  | started tasks nextId requested timeoutMs owner snapshot task laterId hkeys htask howner =>
    simp [Leases.unconfirmed, hkeys] at hunconfirmed
  | _ => simp [Leases.unconfirmed] at hunconfirmed

/-! ## Whole runs -/

/-- At this moment the backend is not asked to stop an adapter that another scan leases. -/
def State.LeaseSafe (self : State) : Prop := self.leases.Safe

/-- The step does not roll back a start on an adapter that an active scan leases. -/
def State.RollBackSpares (self : State) (action : Action) : Prop :=
  self.leases.RollBackSpares action.answer

instance (self : State) : Decidable self.LeaseSafe :=
  inferInstanceAs (Decidable (∀ target ∈ self.transition.asksToStop, Spares _ _ target))

instance (self : State) (action : Action) : Decidable (self.RollBackSpares action) :=
  inferInstanceAs (Decidable (∀ adapterKey ∈ self.leases.unconfirmed _, Spares _ _ adapterKey))

/-- A run asks the backend only for adapters that no other active scan leases exactly when
none of its roll-backs of an unconfirmed start reaches a leased adapter. -/
theorem always_leaseSafe_iff {actions : List Action} {final : State}
    (hrun : system.run system.init actions = some final) :
    system.Always State.LeaseSafe system.init actions ↔
      system.Meets State.RollBackSpares system.init actions := by
  have hinit : State.init.leases.Prepared := trivial
  refine system.always_iff_meets (fun state (hprepared : state.leases.Prepared) ↦
    hprepared.safe) ?_ ?_ hinit hrun
  · intro state action next hprepared hstep hspares
    exact hprepared.move (step_move hstep) hspares
  · intro state action next _ hstep hsafe
    exact rollBackSpares_of_safe (step_move hstep) hsafe

/-- Two scans of one adapter, and a stop of the first that has nothing to stop. -/
def sharedRun : List Action :=
  let request : ScanParams := ⟨.absent, .absent, .string "adapter-a", .absent⟩
  let scanning : Snapshot := ⟨[⟨"adapter-a", true, true⟩, ⟨"adapter-b", true, false⟩]⟩
  [.start request ":1.7", .reply (.ok scanning), .start request ":1.8", .reply (.ok scanning),
    .timeout 0, .reply (.ok scanning), .stop (some "scan-2") none "cancelled",
    .reply (.ok scanning)]

theorem leaseSafe_of_sharedRun :
    ∃ final, system.run system.init sharedRun = some final ∧
      system.Always State.LeaseSafe system.init sharedRun ∧ final.tasks.keys = [] :=
  ⟨_, rfl, (always_leaseSafe_iff rfl).mpr (by decide), by decide⟩

/-- The second start finds the adapter no longer discovering and rolls itself back. -/
def unconfirmedRun : List Action :=
  let request : ScanParams := ⟨.absent, .absent, .string "adapter-a", .absent⟩
  [.start request ":1.7", .reply (.ok ⟨[⟨"adapter-a", true, true⟩]⟩),
    .start request ":1.8", .reply (.ok ⟨[⟨"adapter-a", true, false⟩]⟩)]

theorem not_leaseSafe_of_unconfirmedRun :
    ∃ final, system.run system.init unconfirmedRun = some final ∧
      final.transition.asksToStop = some (some "adapter-a") ∧
      (final.tasks.lookup "scan-1").map (fun task ↦ task.event.adapterKeys) = some ["adapter-a"] ∧
      ¬ system.Always State.LeaseSafe system.init unconfirmedRun :=
  ⟨_, rfl, by decide, by decide, by decide⟩

end BtDaemon.Daemon.Scan
