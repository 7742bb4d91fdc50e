import BtDaemon.Daemon.ScanLeases
import BtDaemon.Foundation.EventLog

/-!
# The events of a scan

A scan starts with one event and ends with one. The right to publish the last one is shared:
the timeout task of a scan has it until it publishes, and a stop takes it over with the entry
of the scan. A timeout whose cleanup failed has published and leaves the entry behind, so a
later stop publishes once more.
-/

namespace BtDaemon.Daemon.Scan

open Transition EventLog State

/-- Only the `started` event carries the timeout of its scan. -/
def ScanEvent.isTerminal (event : ScanEvent) : Bool := event.timeoutMs.isNone

def ScanEvent.isStarted (event : ScanEvent) : Bool :=
  event.event = "started" && event.timeoutMs.isSome

/-- The events of one request: the start, then the terminal event if there is one. -/
def Lifecycle : List ScanEvent → Prop
  | [] => True
  | [started] => started.isStarted = true
  | [started, terminal] => started.isStarted = true ∧ terminal.isTerminal = true
  | _ => False

/-- The published events of one request. -/
def State.log (self : State) (requestId : String) : List ScanEvent :=
  about ScanEvent.requestId self.events requestId

/-- Every request has its started event first, and at most one terminal event, which is last. -/
def State.OneTerminal (self : State) : Prop := ∀ requestId, Lifecycle (self.log requestId)

/-- The timeout task of the scan has not published its event. -/
def State.mayPublish (self : State) (task : ScanTask) : Bool :=
  ((self.timers.lookup task.handle).bind Timer.terminalAdapter).isSome

/-- The scans that a stop is about to remove, when the answer lets it succeed. -/
def State.stopped (self : State) (action : Action) : List ScanTask :=
  match self.transition, action with
  | .stopping (.request _ _ _) selected _ [] (.ok _), .reply (.ok _)
  | .reading (.request _ _ _) selected, .reply (.ok _) => selected.filterMap self.tasks.lookup
  | _, _ => []

/-- The scan that a start is about to announce. -/
def State.announced (self : State) (action : Action) : Option String :=
  match self.transition, action with
  | .starting adapterKey _ _, .reply (.ok snapshot) =>
    if poweredAdapterKeys snapshot adapterKey = [] then none else some self.leases.nextId
  | _, _ => none

/-- A stop that succeeds removes no scan whose timeout has already published, and a start takes
an identifier that has no event yet. -/
def State.Single (self : State) (action : Action) : Prop :=
  (∀ task ∈ self.stopped action, self.mayPublish task = true) ∧
    ∀ requestId ∈ self.announced action, self.log requestId = []

instance (self : State) (action : Action) : Decidable (self.Single action) :=
  inferInstanceAs (Decidable (_ ∧ _))

/-! ## One log -/

section Log

variable {log : List ScanEvent} {event : ScanEvent}

theorem Lifecycle.finish (hlog : Lifecycle log) (hlength : log.length = 1)
    (hevent : event.isTerminal = true) : Lifecycle (log ++ [event]) := by
  obtain ⟨started, rfl⟩ := List.length_eq_one_iff.mp hlength
  exact ⟨hlog, hevent⟩

theorem Lifecycle.length_le (hlog : Lifecycle log) : log.length ≤ 2 := by
  match log, hlog with
  | [], _ => exact Nat.zero_le _
  | [_], _ => exact Nat.le_succ _
  | [_, _], _ => exact Nat.le_refl _

/-- Only the first event of a request is its start. -/
theorem Lifecycle.eq_nil (hlog : Lifecycle (log ++ [event])) (hevent : event.isTerminal = false) :
    log = [] := by
  cases log with
  | nil => rfl
  | cons first rest =>
    cases rest with
    | nil => cases hevent.symm.trans hlog.2
    | cons second others => cases others <;> exact hlog.elim

end Log

/-- What the events and the timers say about one another. -/
structure Accounted (state : State) : Prop where
  logs : state.OneTerminal
  tasks : ∀ requestId task, state.tasks.lookup requestId = some task →
    task.event.requestId = requestId ∧
      ∃ right, state.timers.lookup task.handle = some ⟨requestId, right⟩
  timers : ∀ handle timer, state.timers.lookup handle = some timer →
    handle < state.spawned ∧
      (∃ task, state.tasks.lookup timer.taskId = some task ∧ task.handle = handle) ∧
      (state.log timer.taskId).length = if timer.terminalAdapter.isSome then 1 else 2

/-- The scans that a stop selected are different ones, and a timeout task that holds the lock
still exists. -/
def Cause.Ready (cause : Cause) (selected : List String) (timers : Table ℕ Timer) : Prop :=
  selected.Nodup ∧ ∀ handle taskId, cause = .timeout handle taskId →
    ∃ right, timers.lookup handle = some ⟨taskId, right⟩

def Section.Ready (transition : Section) (timers : Table ℕ Timer) : Prop :=
  match transition with
  | .stopping cause selected _ _ _ | .reading cause selected => cause.Ready selected timers
  | _ => True

structure Coherent (state : State) : Prop where
  accounted : Accounted state
  ready : state.transition.Ready state.timers

section Steps

variable {self : State}

theorem Accounted.handle_inj (accounted : Accounted self) {first second : String}
    {task other : ScanTask} (hfirst : self.tasks.lookup first = some task)
    (hsecond : self.tasks.lookup second = some other) (hhandle : task.handle = other.handle) :
    first = second := by
  obtain ⟨-, right, hright⟩ := accounted.tasks first task hfirst
  obtain ⟨-, left, hleft⟩ := accounted.tasks second other hsecond
  rw [hhandle, hleft] at hright
  exact (congrArg Timer.taskId (Option.some.inj hright)).symm

/-- The log of an active scan, by the right of its timeout task. -/
theorem Accounted.length_log (accounted : Accounted self) {requestId : String} {task : ScanTask}
    (htask : self.tasks.lookup requestId = some task) :
    (self.log requestId).length = if self.mayPublish task then 1 else 2 := by
  obtain ⟨-, right, hright⟩ := accounted.tasks requestId task htask
  rw [(accounted.timers _ _ hright).2.2, State.mayPublish, hright]
  rfl

/-- The events of a stop, seen by one request. -/
theorem about_stopped {tasks : Table String ScanTask} {selected : List String}
    (hnodup : selected.Nodup)
    (hkeyed : ∀ id task, tasks.lookup id = some task → task.event.requestId = id)
    (event : String) (snapshot : Snapshot) (requestId : String) :
    about ScanEvent.requestId
        ((selected.filterMap tasks.lookup).map (stoppedEvent event snapshot)) requestId =
      if requestId ∈ selected then
        ((tasks.lookup requestId).map (stoppedEvent event snapshot)).toList
      else [] := by
  induction selected with
  | nil => rfl
  | cons id rest ih =>
    obtain ⟨hfresh, hrest⟩ := List.nodup_cons.mp hnodup
    have htail := ih hrest
    cases htask : tasks.lookup id with
    | none =>
      rw [show (id :: rest).filterMap tasks.lookup = rest.filterMap tasks.lookup from
        List.filterMap_cons_none htask, htail]
      by_cases hid : requestId = id
      · subst hid
        simp [hfresh, htask]
      · simp [hid]
    | some task =>
      have hkey : (stoppedEvent event snapshot task).requestId = id := hkeyed id task htask
      rw [show (id :: rest).filterMap tasks.lookup = task :: rest.filterMap tasks.lookup from
        List.filterMap_cons_some htask, List.map_cons, about, List.filter_cons, hkey]
      by_cases hid : requestId = id
      · subst hid
        rw [if_neg hfresh] at htail
        simp only [decide_true, if_true, List.mem_cons_self, htask]
        exact congrArg _ htail
      · rw [if_neg (by simpa using Ne.symm hid)]
        simpa only [about, List.mem_cons, hid, false_or] using htail

theorem mem_removed {selected : List String} {task : ScanTask} :
    task ∈ selected.filterMap self.tasks.lookup ↔
      ∃ id ∈ selected, self.tasks.lookup id = some task := List.mem_filterMap

/-- A stop removes scans whose timeout tasks have not published. -/
theorem Accounted.removeSelected (accounted : Accounted self) {selected : List String}
    (hnodup : selected.Nodup)
    (hmay : ∀ task ∈ selected.filterMap self.tasks.lookup, self.mayPublish task = true)
    (event : String) (snapshot : Snapshot) :
    Accounted (self.removeSelected selected event snapshot) := by
  have hkeyed : ∀ id task, self.tasks.lookup id = some task → task.event.requestId = id :=
    fun id task htask ↦ (accounted.tasks id task htask).1
  have hlog : ∀ requestId, (self.removeSelected selected event snapshot).log requestId =
      self.log requestId ++ if requestId ∈ selected then
        ((self.tasks.lookup requestId).map (stoppedEvent event snapshot)).toList else [] := by
    intro requestId
    rw [← about_stopped hnodup hkeyed]
    exact about_append _ _ _ _
  have hhandle : ∀ handle, handle ∈ (selected.filterMap self.tasks.lookup).map ScanTask.handle ↔
      ∃ id ∈ selected, ∃ task, self.tasks.lookup id = some task ∧ task.handle = handle := by
    intro handle
    simp only [List.mem_map, mem_removed]
    exact ⟨fun ⟨task, ⟨id, hid, htask⟩, heq⟩ ↦ ⟨id, hid, task, htask, heq⟩,
      fun ⟨id, hid, task, htask, heq⟩ ↦ ⟨task, ⟨id, hid, htask⟩, heq⟩⟩
  refine ⟨fun requestId ↦ ?_, fun requestId task htask ↦ ?_, fun handle timer htimer ↦ ?_⟩
  · rw [hlog]
    by_cases hselected : requestId ∈ selected
    · rw [if_pos hselected]
      cases htask : self.tasks.lookup requestId with
      | none => simpa using accounted.logs requestId
      | some task =>
        refine (accounted.logs requestId).finish ?_ rfl
        rw [accounted.length_log htask, hmay task (mem_removed.mpr ⟨_, hselected, htask⟩)]
        rfl
    · rw [if_neg hselected, List.append_nil]
      exact accounted.logs requestId
  · simp only [State.removeSelected, Table.lookup_eraseAll] at htask ⊢
    obtain ⟨hselected, hbefore⟩ := Option.ite_none_left_eq_some.mp htask
    obtain ⟨hrequest, right, hright⟩ := accounted.tasks requestId task hbefore
    refine ⟨hrequest, right, ?_⟩
    rw [if_neg]
    · exact hright
    · intro hremoved
      obtain ⟨id, hid, other, hother, hsame⟩ := (hhandle _).mp hremoved
      rw [accounted.handle_inj hother hbefore hsame] at hid
      exact hselected hid
  · simp only [State.removeSelected, Table.lookup_eraseAll] at htimer ⊢
    obtain ⟨hkept, hbefore⟩ := Option.ite_none_left_eq_some.mp htimer
    obtain ⟨hspawned, ⟨task, htask, hsame⟩, hlength⟩ := accounted.timers handle timer hbefore
    have hselected : timer.taskId ∉ selected := fun hselected ↦
      hkept ((hhandle _).mpr ⟨_, hselected, task, htask, hsame⟩)
    refine ⟨hspawned, ⟨task, ?_, hsame⟩, ?_⟩
    · rw [if_neg hselected]
      exact htask
    · have hsilent := hlog timer.taskId
      rw [if_neg hselected, List.append_nil] at hsilent
      exact (congrArg List.length hsilent).trans hlength

theorem log_finishTimeout {handle : ℕ} {taskId : String} {right : Option (Option String)}
    (htimer : self.timers.lookup handle = some ⟨taskId, right⟩)
    (result : Except BackendError Snapshot) (requestId : String) :
    (self.finishTimeout handle taskId result).log requestId =
      self.log requestId ++ if requestId = taskId then
        (right.map fun adapterKey ↦ terminalEvent taskId adapterKey result).toList else [] := by
  have hevents : (self.finishTimeout handle taskId result).events =
      self.events ++ (right.map fun adapterKey ↦ terminalEvent taskId adapterKey result).toList := by
    simp only [State.finishTimeout, htimer]
    cases result <;> rfl
  have hkey : ∀ adapterKey, (terminalEvent taskId adapterKey result).requestId = taskId :=
    fun _ ↦ rfl
  rw [State.log, hevents, about_append]
  congr 1
  cases right with
  | none => split <;> rfl
  | some adapterKey =>
    by_cases hid : requestId = taskId
    · simp [about, hkey, hid]
    · simp [about, hkey, hid, Ne.symm hid]

/-- A round of a timeout task publishes at most once. -/
theorem Accounted.ends_finishTimeout (accounted : Accounted self) {handle : ℕ} {taskId : String}
    {right : Option (Option String)} (htimer : self.timers.lookup handle = some ⟨taskId, right⟩)
    (result : Except BackendError Snapshot) :
    Lifecycle ((self.finishTimeout handle taskId result).log taskId) ∧
      ((self.finishTimeout handle taskId result).log taskId).length = 2 := by
  have hlength := (accounted.timers handle _ htimer).2.2
  rw [log_finishTimeout htimer, if_pos rfl]
  cases right with
  | none => simpa using ⟨accounted.logs taskId, hlength⟩
  | some adapterKey =>
    refine ⟨(accounted.logs taskId).finish hlength rfl, ?_⟩
    simpa using hlength

theorem Accounted.oneTerminal_finishTimeout (accounted : Accounted self) {handle : ℕ}
    {taskId : String} {right : Option (Option String)}
    (htimer : self.timers.lookup handle = some ⟨taskId, right⟩)
    (result : Except BackendError Snapshot) :
    (self.finishTimeout handle taskId result).OneTerminal := by
  intro requestId
  by_cases hid : requestId = taskId
  · exact hid ▸ (accounted.ends_finishTimeout htimer result).1
  · rw [log_finishTimeout htimer, if_neg hid, List.append_nil]
    exact accounted.logs requestId

/-- Every scan has a timeout task of its own. -/
theorem Accounted.taskId_ne (accounted : Accounted self) {handle other : ℕ} {timer found : Timer}
    (htimer : self.timers.lookup handle = some timer)
    (hfound : self.timers.lookup other = some found) (hne : other ≠ handle) :
    found.taskId ≠ timer.taskId := by
  intro hid
  obtain ⟨-, ⟨task, htask, hsame⟩, -⟩ := accounted.timers handle timer htimer
  obtain ⟨-, ⟨held, hheld, hhandle⟩, -⟩ := accounted.timers other found hfound
  rw [hid, htask] at hheld
  obtain rfl := Option.some.inj hheld
  exact hne (hhandle.symm.trans hsame)

/-- A round that stops the scan ends its timeout task with it. -/
theorem Accounted.finishTimeout_ok (accounted : Accounted self) {handle : ℕ} {taskId : String}
    {right : Option (Option String)} (htimer : self.timers.lookup handle = some ⟨taskId, right⟩)
    (snapshot : Snapshot) : Accounted (self.finishTimeout handle taskId (.ok snapshot)) := by
  refine ⟨accounted.oneTerminal_finishTimeout htimer _, fun requestId found hfound ↦ ?_,
    fun other timer hlookup ↦ ?_⟩
  · simp only [State.finishTimeout, Table.lookup_eraseAll, List.mem_singleton] at hfound
    obtain ⟨hne, hbefore⟩ := Option.ite_none_left_eq_some.mp hfound
    obtain ⟨hrequest, kept, hkept⟩ := accounted.tasks requestId found hbefore
    refine ⟨hrequest, kept, ?_⟩
    simp only [State.finishTimeout, Table.lookup_erase]
    rw [if_neg]
    · exact hkept
    · intro hhandle
      rw [hhandle, htimer] at hkept
      exact hne (congrArg Timer.taskId (Option.some.inj hkept)).symm
  · simp only [State.finishTimeout, Table.lookup_erase] at hlookup
    obtain ⟨hne, hbefore⟩ := Option.ite_none_left_eq_some.mp hlookup
    obtain ⟨hbound, ⟨found, hfound, hhandle⟩, hcount⟩ := accounted.timers other timer hbefore
    have hid := accounted.taskId_ne htimer hbefore hne
    refine ⟨hbound, ⟨found, ?_, hhandle⟩, ?_⟩
    · simp only [State.finishTimeout, Table.lookup_eraseAll, List.mem_singleton]
      rw [if_neg hid]
      exact hfound
    · rw [log_finishTimeout htimer, if_neg hid, List.append_nil]
      exact hcount

/-- After a failed round the timeout task goes on without the right to publish. -/
theorem Accounted.finishTimeout_error (accounted : Accounted self) {handle : ℕ} {taskId : String}
    {right : Option (Option String)} (htimer : self.timers.lookup handle = some ⟨taskId, right⟩)
    (failure : BackendError) : Accounted (self.finishTimeout handle taskId (.error failure)) := by
  obtain ⟨hspawned, ⟨task, htask, hsame⟩, -⟩ := accounted.timers handle _ htimer
  refine ⟨accounted.oneTerminal_finishTimeout htimer _, fun requestId found hfound ↦ ?_,
    fun other timer hlookup ↦ ?_⟩
  · obtain ⟨hrequest, kept, hkept⟩ := accounted.tasks requestId found hfound
    simp only [State.finishTimeout, Table.lookup_insert]
    by_cases hhandle : found.handle = handle
    · rw [if_pos hhandle]
      rw [hhandle, htimer] at hkept
      have hid : taskId = requestId := congrArg Timer.taskId (Option.some.inj hkept)
      exact ⟨hrequest, none, by rw [hid]⟩
    · rw [if_neg hhandle]
      exact ⟨hrequest, kept, hkept⟩
  · simp only [State.finishTimeout, Table.lookup_insert] at hlookup
    by_cases hne : other = handle
    · rw [if_pos hne] at hlookup
      obtain rfl := Option.some.inj hlookup
      rw [hne]
      exact ⟨hspawned, ⟨task, htask, hsame⟩, (accounted.ends_finishTimeout htimer _).2⟩
    · rw [if_neg hne] at hlookup
      obtain ⟨hbound, hheld, hcount⟩ := accounted.timers other timer hlookup
      have hid := accounted.taskId_ne htimer hlookup hne
      refine ⟨hbound, hheld, ?_⟩
      rw [log_finishTimeout htimer, if_neg hid, List.append_nil]
      exact hcount

theorem Accounted.finishTimeout (accounted : Accounted self) {handle : ℕ} {taskId : String}
    {right : Option (Option String)} (htimer : self.timers.lookup handle = some ⟨taskId, right⟩)
    (result : Except BackendError Snapshot) :
    Accounted (self.finishTimeout handle taskId result) := by
  cases result with
  | ok snapshot => exact accounted.finishTimeout_ok htimer snapshot
  | error failure => exact accounted.finishTimeout_error htimer failure

/-- A start takes an identifier that has no event, and so no scan. -/
theorem Accounted.startScan (accounted : Accounted self)
    (hfresh : self.log self.leases.nextId = []) (adapterKey : Option String) (timeoutMs : ℕ)
    (owner : String) (snapshot : Snapshot) :
    Accounted (self.startScan adapterKey timeoutMs owner snapshot) := by
  set running := runningEvent self.leases.nextId adapterKey (poweredAdapterKeys snapshot adapterKey)
    owner timeoutMs snapshot with hrunning
  have hlog : ∀ requestId, (self.startScan adapterKey timeoutMs owner snapshot).log requestId =
      self.log requestId ++ if self.leases.nextId = requestId then [running] else [] := by
    intro requestId
    have hsingle : about ScanEvent.requestId [running] requestId =
        if self.leases.nextId = requestId then [running] else [] := by
      by_cases hid : self.leases.nextId = requestId <;> simp [about, hrunning, runningEvent, hid]
    rw [← hsingle]
    exact about_append _ _ _ _
  have htasks : (self.startScan adapterKey timeoutMs owner snapshot).tasks =
      self.tasks.insert self.leases.nextId ⟨self.spawned, running⟩ := rfl
  have htimers : (self.startScan adapterKey timeoutMs owner snapshot).timers =
      self.timers.insert self.spawned ⟨self.leases.nextId, some adapterKey⟩ := rfl
  have hbound : (self.startScan adapterKey timeoutMs owner snapshot).spawned =
      self.spawned + 1 := rfl
  have hunused : ∀ requestId task, self.tasks.lookup requestId = some task →
      requestId ≠ self.leases.nextId := by
    rintro requestId task htask rfl
    have hlength := accounted.length_log htask
    rw [hfresh] at hlength
    split at hlength <;> cases hlength
  have hspawned : ∀ requestId task, self.tasks.lookup requestId = some task →
      task.handle ≠ self.spawned := by
    intro requestId task htask
    obtain ⟨-, right, hright⟩ := accounted.tasks requestId task htask
    exact Nat.ne_of_lt (accounted.timers _ _ hright).1
  refine ⟨fun requestId ↦ ?_, fun requestId task htask ↦ ?_, fun handle timer htimer ↦ ?_⟩
  · rw [hlog]
    by_cases hid : self.leases.nextId = requestId
    · rw [if_pos hid, ← hid, hfresh]
      rfl
    · rw [if_neg hid, List.append_nil]
      exact accounted.logs requestId
  · rw [htasks, Table.lookup_insert] at htask
    rw [htimers, Table.lookup_insert]
    by_cases hid : requestId = self.leases.nextId
    · rw [if_pos hid] at htask
      obtain rfl := Option.some.inj htask
      exact ⟨hid.symm, some adapterKey, by rw [if_pos rfl, hid]⟩
    · rw [if_neg hid] at htask
      obtain ⟨hrequest, right, hright⟩ := accounted.tasks requestId task htask
      exact ⟨hrequest, right, by rw [if_neg (hspawned requestId task htask)]; exact hright⟩
  · rw [htimers, Table.lookup_insert] at htimer
    rw [htasks, hbound]
    by_cases hhandle : handle = self.spawned
    · rw [if_pos hhandle] at htimer
      obtain rfl := Option.some.inj htimer
      refine ⟨by omega, ⟨⟨self.spawned, running⟩, ?_, hhandle.symm⟩, ?_⟩
      · rw [Table.lookup_insert, if_pos rfl]
      · rw [hlog, if_pos rfl, hfresh]
        rfl
    · rw [if_neg hhandle] at htimer
      obtain ⟨hless, ⟨task, htask, hsame⟩, hcount⟩ := accounted.timers handle timer htimer
      have hid := hunused _ _ htask
      refine ⟨by omega, ⟨task, ?_, hsame⟩, ?_⟩
      · rw [Table.lookup_insert, if_neg hid]
        exact htask
      · rw [hlog, if_neg (Ne.symm hid), List.append_nil]
        exact hcount

theorem nodup_selected {tasks : Table String ScanTask} {requestId owner : Option String}
    {selected adapters : List String}
    (hselect : selectScans tasks requestId owner = (selected, adapters)) : selected.Nodup := by
  have hkeys : (selectScans tasks requestId owner).1.Nodup := by
    simp only [selectScans, List.partition_eq_filter_filter]
    exact tasks.nodupKeys.sublist List.filter_sublist
  rwa [hselect] at hkeys

/-- The end of a stop, for a request or for a timeout task. -/
theorem Accounted.finishStop (accounted : Accounted self) {cause : Cause} {selected : List String}
    (hready : cause.Ready selected self.timers) (result : Except BackendError Snapshot)
    (hmay : ∀ requestId event sweep, cause = .request requestId event sweep →
      result.isOk = true → ∀ task ∈ selected.filterMap self.tasks.lookup,
        self.mayPublish task = true) :
    Coherent (self.finishStop cause selected result) := by
  cases cause with
  | request requestId event sweep =>
    cases result with
    | ok snapshot =>
      have hremoved := accounted.removeSelected hready.1 (hmay _ _ _ rfl rfl) event snapshot
      exact ⟨{ hremoved with }, trivial⟩
    | error failure => exact ⟨{ accounted with }, trivial⟩
  | timeout handle taskId =>
    obtain ⟨right, htimer⟩ := hready.2 handle taskId rfl
    have hfinished := accounted.finishTimeout htimer result
    cases result <;> exact ⟨{ hfinished with }, trivial⟩

theorem Accounted.stopAdapters (accounted : Accounted self) {cause : Cause}
    {selected : List String} (hready : cause.Ready selected self.timers) (adapters : List String)
    (result : Except BackendError (Option Snapshot))
    (hmay : ∀ requestId event sweep, cause = .request requestId event sweep → adapters = [] →
      (∃ snapshot, result = .ok (some snapshot)) →
        ∀ task ∈ selected.filterMap self.tasks.lookup, self.mayPublish task = true) :
    Coherent (self.stopAdapters cause selected adapters result) := by
  unfold State.stopAdapters
  split
  · exact ⟨{ accounted with }, hready⟩
  · exact ⟨{ accounted with }, hready⟩
  · next snapshot =>
    apply accounted.finishStop hready
    intro requestId event sweep hcause _
    exact hmay requestId event sweep hcause rfl ⟨snapshot, rfl⟩
  · apply accounted.finishStop hready
    intro _ _ _ _ hok
    cases hok

/-- A stop begins with a call of the backend. -/
theorem Accounted.stopSelected (accounted : Accounted self) (hfree : self.transition = .free)
    (requestId owner : Option String) (event : String) (sweep : Option ℕ) :
    Coherent (self.stopSelected requestId owner event sweep) := by
  unfold State.stopSelected
  split
  · refine ⟨{ accounted with }, ?_⟩
    rw [show (self.respond _).transition = .free from hfree]
    trivial
  · next selected adapters _ hselect =>
    apply accounted.stopAdapters ⟨nodup_selected hselect, fun _ _ hcause ↦ by cases hcause⟩
    intro _ _ _ _ _ hsnapshot
    obtain ⟨snapshot, hsnapshot⟩ := hsnapshot
    cases hsnapshot

theorem Coherent.reply {next : State} (coherent : Coherent self)
    {result : Except BackendError Snapshot} (hreply : self.reply result = some next)
    (hsingle : self.Single (.reply result)) : Coherent next := by
  obtain ⟨accounted, hready⟩ := coherent
  obtain ⟨hstopped, hannounced⟩ := hsingle
  cases htransition : self.transition with
  | free => simp [State.reply, htransition] at hreply
  | starting adapterKey timeoutMs owner =>
    cases result with
    | error failure =>
      simp only [State.reply, htransition] at hreply
      obtain rfl := Option.some.inj hreply
      exact ⟨{ accounted with }, trivial⟩
    | ok snapshot =>
      simp only [State.reply, htransition] at hreply
      split at hreply
      · obtain rfl := Option.some.inj hreply
        exact ⟨{ accounted with }, trivial⟩
      · next hkeys =>
        obtain rfl := Option.some.inj hreply
        have hfresh := hannounced self.leases.nextId (by
          simp only [State.announced, htransition, if_neg hkeys]
          rfl)
        exact ⟨{ accounted.startScan hfresh adapterKey timeoutMs owner snapshot with }, trivial⟩
  | rollingBack adapterKey =>
    simp only [State.reply, htransition] at hreply
    obtain rfl := Option.some.inj hreply
    exact ⟨{ accounted with }, trivial⟩
  | stopping cause selected current remaining earlier =>
    simp only [State.reply, htransition] at hreply
    obtain rfl := Option.some.inj hreply
    rw [htransition] at hready
    apply accounted.stopAdapters hready
    rintro requestId event sweep rfl rfl ⟨snapshot, hsnapshot⟩
    cases earlier with
    | error failure => cases hsnapshot
    | ok earlier =>
      cases result with
      | error failure => cases hsnapshot
      | ok last =>
        simp only [State.stopped, htransition] at hstopped
        exact hstopped
  | reading cause selected =>
    simp only [State.reply, htransition] at hreply
    obtain rfl := Option.some.inj hreply
    rw [htransition] at hready
    apply accounted.finishStop hready
    rintro requestId event sweep rfl hok
    cases result with
    | error failure => cases hok
    | ok last =>
      simp only [State.stopped, htransition] at hstopped
      exact hstopped

/-- One step of a run. -/
theorem Coherent.step (self : State) (action : Action) (next : State) (coherent : Coherent self)
    (hstep : step self action = some next) (hsingle : self.Single action) : Coherent next := by
  obtain ⟨accounted, hready⟩ := coherent
  cases action with
  | start params owner =>
    simp only [Scan.step] at hstep
    split at hstep
    · obtain rfl := Option.some.inj hstep
      exact ⟨{ accounted with }, hready⟩
    · obtain ⟨hfree, hnext⟩ := Option.ite_none_right_eq_some.mp hstep
      obtain rfl := Option.some.inj hnext
      exact accounted.stopSelected (isFree_iff.mp hfree) _ _ _ _
    · obtain ⟨-, hnext⟩ := Option.ite_none_right_eq_some.mp hstep
      obtain rfl := Option.some.inj hnext
      exact ⟨{ accounted with }, trivial⟩
  | stop requestId owner event =>
    obtain ⟨hfree, hnext⟩ := Option.ite_none_right_eq_some.mp hstep
    obtain rfl := Option.some.inj hnext
    exact accounted.stopSelected (isFree_iff.mp hfree) _ _ _ _
  | sweep call owner =>
    obtain ⟨-, hnext⟩ := Option.ite_none_right_eq_some.mp hstep
    obtain rfl := Option.some.inj hnext
    exact ⟨{ accounted with }, hready⟩
  | sweepNext call =>
    simp only [Scan.step] at hstep
    split at hstep
    · next requestId rest _ =>
      obtain ⟨hfree, hnext⟩ := Option.ite_none_right_eq_some.mp hstep
      obtain rfl := Option.some.inj hnext
      have hpopped : Accounted { self with sweeps := self.sweeps.insert call rest } :=
        { accounted with }
      exact hpopped.stopSelected (isFree_iff.mp hfree) _ _ _ _
    · obtain ⟨-, hnext⟩ := Option.ite_none_left_eq_some.mp hstep
      obtain rfl := Option.some.inj hnext
      exact ⟨{ accounted with }, hready⟩
    · cases hstep
  | timeout handle =>
    simp only [Scan.step] at hstep
    split at hstep
    · next taskId right htimer =>
      obtain ⟨hfree, hnext⟩ := Option.ite_none_right_eq_some.mp hstep
      obtain ⟨-, ⟨task, htask, -⟩, -⟩ := accounted.timers handle _ htimer
      split at hnext
      · next hselect =>
        -- The scan of a timeout task that still exists is active.
        have hmem := (mem_selectScans_ids self.tasks (some taskId) none taskId).mpr
          ⟨task, htask, by simp [selects]⟩
        rw [hselect] at hmem
        cases hmem
      · next selected adapters _ hselect =>
        obtain rfl := Option.some.inj hnext
        apply accounted.stopAdapters
        · refine ⟨nodup_selected hselect, fun other id hcause ↦ ?_⟩
          cases hcause
          exact ⟨right, htimer⟩
        · intro _ _ _ hcause
          cases hcause
    · cases hstep
  | reply result => exact Coherent.reply ⟨accounted, hready⟩ hstep hsingle

/-- A removed scan that had published leaves three events. -/
theorem Coherent.mayPublish (coherent : Coherent self) {cause : Cause} {selected : List String}
    (hready : cause.Ready selected self.timers) {event : String} {snapshot : Snapshot}
    (hone : (self.removeSelected selected event snapshot).OneTerminal) :
    ∀ task ∈ selected.filterMap self.tasks.lookup, self.mayPublish task = true := by
  intro task hremoved
  by_contra hpublished
  obtain ⟨requestId, hselected, htask⟩ := mem_removed.mp hremoved
  have hlength := coherent.accounted.length_log htask
  rw [if_neg hpublished] at hlength
  have hkeyed : ∀ id task, self.tasks.lookup id = some task → task.event.requestId = id :=
    fun id task htask ↦ (coherent.accounted.tasks id task htask).1
  have hlog : (self.removeSelected selected event snapshot).log requestId =
      self.log requestId ++ [stoppedEvent event snapshot task] := by
    have hstopped := about_stopped hready.1 hkeyed event snapshot requestId
    rw [if_pos hselected, htask] at hstopped
    exact (about_append _ _ _ _).trans (congrArg _ hstopped)
  have hbound := (hone requestId).length_le
  rw [hlog, List.length_append, hlength] at hbound
  cases hbound
  next hless => cases hless; next hless => cases hless

end Steps

/-- A step that leaves one terminal event for each request has met the condition. -/
theorem single_of_oneTerminal (self : State) (action : Action) (next : State)
    (coherent : Coherent self) (hstep : step self action = some next)
    (hone : next.OneTerminal) : self.Single action := by
  have hready := coherent.ready
  constructor
  · intro task htask
    unfold State.stopped at htask
    split at htask
    · next requestId event sweep selected current earlier snapshot htransition =>
      rw [htransition] at hready
      have hnext : ((self.removeSelected selected event snapshot).respond
          (.stopped requestId snapshot)).release = next := by
        simp only [step, State.reply, htransition] at hstep
        exact Option.some.inj hstep
      rw [← hnext] at hone
      exact coherent.mayPublish hready hone task htask
    · next requestId event sweep selected snapshot htransition =>
      rw [htransition] at hready
      have hnext : ((self.removeSelected selected event snapshot).respond
          (.stopped requestId snapshot)).release = next := by
        simp only [step, State.reply, htransition] at hstep
        exact Option.some.inj hstep
      rw [← hnext] at hone
      exact coherent.mayPublish hready hone task htask
    · cases htask
  · intro requestId hrequest
    unfold State.announced at hrequest
    split at hrequest
    · next adapterKey timeoutMs owner snapshot htransition =>
      obtain ⟨hkeys, hid⟩ := Option.ite_none_left_eq_some.mp hrequest
      obtain rfl := Option.some.inj hid
      have hnext : (self.startScan adapterKey timeoutMs owner snapshot).release = next := by
        simp only [step, State.reply, htransition, if_neg hkeys] at hstep
        exact Option.some.inj hstep
      rw [← hnext] at hone
      have hlog : ((self.startScan adapterKey timeoutMs owner snapshot).release).log
          self.leases.nextId = self.log self.leases.nextId ++ [runningEvent self.leases.nextId
            adapterKey (poweredAdapterKeys snapshot adapterKey) owner timeoutMs snapshot] := by
        apply (about_append_singleton _ _ _ _).trans
        exact if_pos rfl
      have hstarted := hone self.leases.nextId
      rw [hlog] at hstarted
      exact hstarted.eq_nil rfl
    · cases hrequest

/-- Every request of a run has its one start first and at most one terminal event, which is
last, exactly when no stop removes a scan whose timeout has published already and no start
takes a used identifier. -/
theorem always_oneTerminal_iff_single {actions : List Action} {final : State}
    (hrun : system.run system.init actions = some final) :
    system.Always State.OneTerminal system.init actions ↔
      system.Meets State.Single system.init actions := by
  have hinit : Coherent State.init := by
    refine ⟨⟨fun _ ↦ trivial, fun _ _ htask ↦ ?_, fun _ _ htimer ↦ ?_⟩, trivial⟩
    · cases htask
    · cases htimer
  exact system.always_iff_meets (fun _ coherent ↦ coherent.accounted.logs) Coherent.step
    single_of_oneTerminal hinit hrun

/-- The cleanup of a timeout fails once, and a second scan is stopped in the meantime. -/
def retriedRun : List Action :=
  let request (adapter : String) : ScanParams := ⟨.absent, .absent, .string adapter, .absent⟩
  let scanning (adapter : String) : Snapshot := ⟨[⟨adapter, true, true⟩]⟩
  [.start (request "adapter-a") ":1.7", .reply (.ok (scanning "adapter-a")),
    .timeout 0, .reply (.error ⟨.unavailable, "bluetoothd is restarting"⟩),
    .start (request "adapter-b") ":1.8", .reply (.ok (scanning "adapter-b")),
    .stop (some "scan-2") none "cancelled", .reply (.ok ⟨[]⟩), .timeout 0, .reply (.ok ⟨[]⟩)]

theorem oneTerminal_of_retriedRun : system.Always State.OneTerminal system.init retriedRun :=
  (always_oneTerminal_iff_single (by rfl : system.run system.init retriedRun = some _)).mpr
    (by decide)

/-- The scan whose cleanup has failed is stopped by its owner before the retry. -/
def stoppedAfterTimeoutRun : List Action :=
  let request : ScanParams := ⟨.absent, .absent, .string "adapter-a", .absent⟩
  [.start request ":1.7", .reply (.ok ⟨[⟨"adapter-a", true, true⟩]⟩),
    .timeout 0, .reply (.error ⟨.unavailable, "bluetoothd is restarting"⟩),
    .stop (some "scan-1") (some ":1.7") "cancelled", .reply (.ok ⟨[]⟩)]

theorem not_oneTerminal_of_stoppedAfterTimeoutRun :
    ∃ final, system.run system.init stoppedAfterTimeoutRun = some final ∧
      (final.log "scan-1").map ScanEvent.event = ["started", "failed", "cancelled"] ∧
      ¬final.OneTerminal := by
  refine ⟨_, rfl, by decide, fun hone ↦ ?_⟩
  have hbound := (hone "scan-1").length_le
  revert hbound
  decide

end BtDaemon.Daemon.Scan
