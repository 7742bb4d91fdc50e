import BtDaemon.Bluez.Discovery
import BtDaemon.Daemon.ScanLeases

/-!
# Scans over BlueZ discovery

The coordinator learns which adapters it leases from the snapshot of its start, while the
backend knows which discovery tasks it created. The two run together here: every backend
call of the coordinator is answered by the discovery functions, and a discovery task can
also end on its own or be stopped by a power-off. Between calls, every running discovery
task should be leased by some active scan.
-/

namespace BtDaemon.Daemon.ScanDiscovery

open Transition Scan Bluez

structure State where
  scans : Scan.State
  discovery : Discovery

inductive Action where
  | coordinator (action : Scan.Action)
  /-- BlueZ's answers to the backend call that the coordinator waits for. -/
  | backend (replies : BluezReplies)
  | discoveryEnds (name : String)
  /-- A power-off stops the discovery of one adapter or of all. -/
  | poweredOff (name : Option String)

section System

variable (names : AdapterNames)

def answer (discovery : Discovery) (replies : BluezReplies) :
    BackendCall → Except BackendError Snapshot × Discovery
  | .setScanning adapterKey enabled => discovery.setScanning names adapterKey enabled replies
  | .snapshot => (replies.snapshot, discovery)

def step (self : State) : Action → Option State
  | .coordinator action =>
    match action with
    | .reply _ => none
    | action => (Scan.step self.scans action).map fun scans ↦ { self with scans := scans }
  | .backend replies =>
    self.scans.transition.call.bind fun call ↦
      let (result, discovery) := answer names self.discovery replies call
      (self.scans.reply result).map fun scans ↦ ⟨scans, discovery⟩
  | .discoveryEnds name =>
    some { self with discovery := ⟨self.discovery.tasks.modify name fun _ ↦ ⟨true⟩⟩ }
  | .poweredOff name => some { self with discovery := self.discovery.stopDiscovery name }

def system : System State Action := ⟨⟨Scan.State.init, ⟨∅⟩⟩, step names⟩

end System

/-! ## Leases of running discovery tasks -/

/-- Some active scan outside the list leases the adapter. -/
def LeasedBeyond (tasks : Table String ScanTask) (without : List String) (key : String) : Prop :=
  ∃ entry ∈ tasks.entries, entry.1 ∉ without ∧ key ∈ entry.2.event.adapterKeys

instance (tasks : Table String ScanTask) (without : List String) (key : String) :
    Decidable (LeasedBeyond tasks without key) :=
  inferInstanceAs (Decidable (∃ entry ∈ tasks.entries, entry.1 ∉ without ∧ _))

def Leased (tasks : Table String ScanTask) (key : String) : Prop := LeasedBeyond tasks [] key

instance (tasks : Table String ScanTask) (key : String) : Decidable (Leased tasks key) :=
  inferInstanceAs (Decidable (LeasedBeyond tasks [] key))

variable {names : AdapterNames}

/-- Between calls, every running discovery task is leased by an active scan. -/
def State.NoLeak (names : AdapterNames) (self : State) : Prop :=
  self.scans.isFree = true →
    ∀ name ∈ self.discovery.runningNames, Leased self.scans.tasks (names.key name)

instance (self : State) : Decidable (self.NoLeak names) :=
  inferInstanceAs (Decidable (_ → ∀ name ∈ self.discovery.runningNames, Leased _ _))

/-- The adapters that a start's answer gives the new scan, if the answer is a success. -/
def confirmedKeys (names : AdapterNames) (discovery : Discovery) (adapterKey : Option String)
    (replies : BluezReplies) : Option (List String) :=
  if discovery.admits names adapterKey replies.adapters then
    replies.snapshot.toOption.map fun snapshot ↦ poweredAdapterKeys snapshot adapterKey
  else none

/-- BlueZ's answers leave nothing unaccounted for. A start that fails after its discovery
part has begun discovery only where a scan leases the adapter; one whose snapshot shows some
adapter shows every adapter it began; and a roll-back finds its adapter. -/
def Accounted (names : AdapterNames) (leases : Leases) (discovery : Discovery)
    (replies : BluezReplies) : Prop :=
  match leases.transition with
  | .starting adapterKey _ _ =>
    let begun := discovery.begun names adapterKey replies.adapters
    match confirmedKeys names discovery adapterKey replies with
    | none => ∀ name ∈ begun, Leased leases.tasks (names.key name)
    | some [] => True
    | some keys =>
      -- The new scan replaces one that holds its identifier, once the sequence wraps.
      ∀ name ∈ discovery.runningNames ++ begun, names.key name ∈ keys ∨
        LeasedBeyond leases.tasks [leases.nextId] (names.key name)
  | .rollingBack target =>
    Discovery.finds names target replies.adapters = true ∨
      ∀ name ∈ discovery.runningNames, Leased leases.tasks (names.key name)
  | _ => True

instance (leases : Leases) (discovery : Discovery) (replies : BluezReplies) :
    Decidable (Accounted names leases discovery replies) := by
  unfold Accounted
  split
  · dsimp only
    split <;> infer_instance
  · infer_instance
  · infer_instance

def State.Accounted (names : AdapterNames) (self : State) : Action → Prop
  | .backend replies => ScanDiscovery.Accounted names self.scans.leases self.discovery replies
  | _ => True

instance (self : State) : ∀ action, Decidable (self.Accounted names action)
  | .backend replies =>
    inferInstanceAs (Decidable (ScanDiscovery.Accounted names _ _ replies))
  | .coordinator _ | .discoveryEnds _ | .poweredOff _ => isTrue trivial

/-! ## Leases under the table updates -/

theorem leasedBeyond_iff {tasks : Table String ScanTask} {without : List String} {key : String} :
    LeasedBeyond tasks without key ↔ ∃ id task, tasks.lookup id = some task ∧ id ∉ without ∧
      key ∈ task.event.adapterKeys := by
  simp [LeasedBeyond, Sigma.exists, Table.mem_entries]

theorem leased_insert_iff {tasks : Table String ScanTask} {id key : String} {task : ScanTask} :
    Leased (tasks.insert id task) key ↔
      key ∈ task.event.adapterKeys ∨ LeasedBeyond tasks [id] key := by
  simp only [Leased, leasedBeyond_iff, Table.lookup_insert, List.not_mem_nil, not_false_eq_true,
    true_and, List.mem_singleton]
  constructor
  · rintro ⟨other, found, hfound, hkey⟩
    split at hfound
    · obtain rfl := Option.some.inj hfound
      exact Or.inl hkey
    · next hother => exact Or.inr ⟨other, found, hfound, hother, hkey⟩
  · rintro (hkey | ⟨other, found, hfound, hother, hkey⟩)
    · exact ⟨id, task, if_pos rfl, hkey⟩
    · exact ⟨other, found, (if_neg hother).trans hfound, hkey⟩

theorem LeasedBeyond.eraseAll {tasks : Table String ScanTask} {selected ids : List String}
    {key : String} (hleased : LeasedBeyond tasks selected key) (hids : ∀ id ∈ ids, id ∈ selected) :
    Leased (tasks.eraseAll ids) key := by
  obtain ⟨id, task, htask, hid, hkey⟩ := leasedBeyond_iff.mp hleased
  refine leasedBeyond_iff.mpr ⟨id, task, ?_, by simp, hkey⟩
  rw [Table.lookup_eraseAll, if_neg fun hmem ↦ hid (hids id hmem), htask]

/-- What a stop leaves out of its list is leased beyond the scans it selects. -/
theorem leasedBeyond_of_selectScans {tasks : Table String ScanTask}
    {requestId owner : Option String} {selected adapters : List String} {key : String}
    (hselect : selectScans tasks requestId owner = (selected, adapters))
    (hleased : Leased tasks key) : LeasedBeyond tasks selected key ∨ key ∈ adapters := by
  have hadapters := mem_selectScans_adapters tasks requestId owner key
  rw [hselect] at hadapters
  by_cases hbeyond : LeasedBeyond tasks selected key
  · exact Or.inl hbeyond
  · refine Or.inr (hadapters.mpr ⟨?_, ?_⟩)
    · obtain ⟨id, task, htask, -, hkey⟩ := leasedBeyond_iff.mp hleased
      refine ⟨id, task, htask, ?_, hkey⟩
      by_contra hid
      exact hbeyond (leasedBeyond_iff.mpr ⟨id, task, htask, hid, hkey⟩)
    · intro id task htask hid hkey
      exact hbeyond (leasedBeyond_iff.mpr ⟨id, task, htask, hid, hkey⟩)

/-! ## The invariant -/

/-- Every running discovery task is leased; in the middle of a stop that has succeeded so
far, also without the selected scans, unless its adapter is still to be stopped. -/
def Kept (names : AdapterNames) (leases : Leases) (discovery : Discovery) : Prop :=
  match leases.transition with
  | .rollingBack target => ∀ name, discovery.isRunning name = true →
      Leased leases.tasks (names.key name) ∨ Reaches target (names.key name) = true
  | .stopping cause selected current remaining earlier =>
    (∀ id ∈ cause.removes selected, id ∈ selected) ∧
      (∀ name, discovery.isRunning name = true → Leased leases.tasks (names.key name)) ∧
      (earlier.isOk = true → ∀ name, discovery.isRunning name = true →
        LeasedBeyond leases.tasks selected (names.key name) ∨
          names.key name ∈ current :: remaining)
  | .reading cause selected =>
    (∀ id ∈ cause.removes selected, id ∈ selected) ∧
      (∀ name, discovery.isRunning name = true → Leased leases.tasks (names.key name)) ∧
      ∀ name, discovery.isRunning name = true →
        LeasedBeyond leases.tasks selected (names.key name)
  | _ => ∀ name, discovery.isRunning name = true → Leased leases.tasks (names.key name)

/-- Discovery that stops by itself or by a power-off leaves less to account for. -/
theorem Kept.mono {leases : Leases} {before after : Discovery} (hkept : Kept names leases before)
    (hless : ∀ name, after.isRunning name = true → before.isRunning name = true) :
    Kept names leases after := by
  obtain ⟨tasks, transition, nextId⟩ := leases
  cases transition with
  | stopping cause selected current remaining earlier =>
    obtain ⟨hremoves, hleased, hbeyond⟩ := hkept
    exact ⟨hremoves, fun name hname ↦ hleased name (hless name hname),
      fun hok name hname ↦ hbeyond hok name (hless name hname)⟩
  | reading cause selected =>
    obtain ⟨hremoves, hleased, hbeyond⟩ := hkept
    exact ⟨hremoves, fun name hname ↦ hleased name (hless name hname),
      fun name hname ↦ hbeyond name (hless name hname)⟩
  | _ => exact fun name hname ↦ hkept name (hless name hname)

/-- A step of the coordinator between two answers of the backend. -/
theorem Kept.move {before after : Leases} {discovery : Discovery}
    (hkept : Kept names before discovery) (hmove : Move none before after) :
    Kept names after discovery := by
  cases hmove with
  | stay => exact hkept
  | start => exact hkept
  | stop tasks nextId cause selected current remaining requestId owner hselect hremoves =>
    exact ⟨hremoves, hkept, fun _ name hname ↦
      leasedBeyond_of_selectScans hselect (hkept name hname)⟩
  | read tasks nextId cause selected requestId owner hselect hremoves =>
    refine ⟨hremoves, hkept, fun name hname ↦ ?_⟩
    obtain hbeyond | hnil := leasedBeyond_of_selectScans hselect (hkept name hname)
    · exact hbeyond
    · exact absurd hnil (by simp)

section Answers

variable {discovery after : Discovery} {replies : BluezReplies}
  {result : Except BackendError Snapshot}

/-- What the coordinator and the backend learn from the answer to a start. -/
theorem answer_start {adapterKey : Option String}
    (hanswer : answer names discovery replies (.setScanning adapterKey true) = (result, after)) :
    confirmedKeys names discovery adapterKey replies =
        result.toOption.map (poweredAdapterKeys · adapterKey) ∧
      ∀ name, after.isRunning name = true ↔ name ∈ discovery.runningNames ++
        discovery.begun names adapterKey replies.adapters := by
  obtain ⟨hok, hrunning⟩ := discovery.setDiscovery_start names adapterKey replies.adapters
  simp only [answer, Discovery.setScanning] at hanswer
  simp only [confirmedKeys, ← hok, List.mem_append, Discovery.mem_runningNames,
    Discovery.mem_begun, ← Bool.or_eq_true]
  rcases hpart : discovery.setDiscovery names adapterKey true replies.adapters with ⟨part, next⟩
  simp only [hpart] at hrunning hanswer
  cases part with
  | error failure =>
    obtain ⟨rfl, rfl⟩ := Prod.mk.inj hanswer
    exact ⟨rfl, fun name ↦ by rw [hrunning]⟩
  | ok _ =>
    obtain ⟨rfl, rfl⟩ := Prod.mk.inj hanswer
    exact ⟨rfl, fun name ↦ by rw [hrunning]⟩

/-- A stop that found its adapter leaves nothing running that it reaches. -/
theorem answer_stop {target : Option String}
    (hanswer : answer names discovery replies (.setScanning target false) = (result, after)) :
    (result.isOk = true → Discovery.finds names target replies.adapters = true) ∧
      ∀ name, after.isRunning name = true ↔ discovery.isRunning name = true ∧
        (Discovery.finds names target replies.adapters = true →
          Reaches target (names.key name) = false) := by
  obtain ⟨hok, hrunning⟩ := discovery.setDiscovery_stop names target replies.adapters
  simp only [answer, Discovery.setScanning] at hanswer
  rcases hpart : discovery.setDiscovery names target false replies.adapters with ⟨part, next⟩
  simp only [hpart] at hrunning hanswer hok
  have hstopped : ∀ name, next.isRunning name = true ↔ discovery.isRunning name = true ∧
      (Discovery.finds names target replies.adapters = true →
        Reaches target (names.key name) = false) := by
    intro name
    rw [hrunning name, Reaches]
    cases Discovery.finds names target replies.adapters <;>
      simp [and_comm]
  cases part with
  | error failure =>
    obtain ⟨rfl, rfl⟩ := Prod.mk.inj hanswer
    exact ⟨fun hfalse ↦ absurd hfalse (by simp [Except.isOk, Except.toBool]), hstopped⟩
  | ok _ =>
    obtain ⟨rfl, rfl⟩ := Prod.mk.inj hanswer
    exact ⟨fun _ ↦ hok.symm, hstopped⟩

/-- One more adapter of a stop that has succeeded so far. -/
theorem beyond_of_answer_stop {tasks : Table String ScanTask} {selected remaining : List String}
    {current : String}
    (hanswer : answer names discovery replies (.setScanning (some current) false) =
      (result, after))
    (hok : result.isOk = true)
    (hbeyond : ∀ name, discovery.isRunning name = true →
      LeasedBeyond tasks selected (names.key name) ∨ names.key name ∈ current :: remaining)
    {name : String} (hname : after.isRunning name = true) :
    LeasedBeyond tasks selected (names.key name) ∨ names.key name ∈ remaining := by
  obtain ⟨hfinds, hrunning⟩ := answer_stop hanswer
  obtain ⟨hbefore, hmissed⟩ := (hrunning name).mp hname
  apply (hbeyond name hbefore).imp_right
  intro hmem
  obtain hcurrent | hremaining := List.mem_cons.mp hmem
  · have hreached := hmissed (hfinds hok)
    simp [Reaches, hcurrent] at hreached
  · exact hremaining

variable {before next : Leases} {call : BackendCall}

/-- The answer to a backend call, when it leaves nothing unaccounted for. -/
theorem Kept.answered (hkept : Kept names before discovery)
    (hcall : before.transition.call = some call)
    (hanswer : answer names discovery replies call = (result, after))
    (hmove : Move (some result) before next)
    (haccounted : Accounted names before discovery replies) : Kept names next after := by
  cases hmove with
  | startFailed tasks nextId adapterKey timeoutMs owner failure =>
    obtain rfl := Option.some.inj hcall
    obtain ⟨hkeys, hrunning⟩ := answer_start hanswer
    simp only [Accounted, hkeys, Except.toOption, Option.map_none] at haccounted
    intro name hname
    obtain hbefore | hbegun := List.mem_append.mp ((hrunning name).mp hname)
    · exact hkept name (Discovery.mem_runningNames.mp hbefore)
    · exact haccounted name hbegun
  | unconfirmed tasks nextId adapterKey timeoutMs owner snapshot hnone =>
    obtain rfl := Option.some.inj hcall
    obtain ⟨-, hrunning⟩ := answer_start hanswer
    intro name hname
    obtain hbefore | hbegun := List.mem_append.mp ((hrunning name).mp hname)
    · exact Or.inl (hkept name (Discovery.mem_runningNames.mp hbefore))
    · have hbegins := Discovery.mem_begun.mp hbegun
      simp only [Discovery.begins, Bool.and_eq_true] at hbegins
      exact Or.inr hbegins.1.2
  | started tasks nextId adapterKey timeoutMs owner snapshot task laterId hsome htask howner =>
    obtain rfl := Option.some.inj hcall
    obtain ⟨hkeys, hrunning⟩ := answer_start hanswer
    obtain ⟨key, keys, hcons⟩ := List.exists_cons_of_ne_nil hsome
    simp only [Accounted, hkeys, Except.toOption, Option.map_some, hcons] at haccounted
    intro name hname
    apply leased_insert_iff.mpr
    rw [htask, hcons]
    exact haccounted name ((hrunning name).mp hname)
  | rolledBack tasks nextId target =>
    obtain rfl := Option.some.inj hcall
    obtain ⟨-, hrunning⟩ := answer_stop hanswer
    intro name hname
    obtain ⟨hbefore, hmissed⟩ := (hrunning name).mp hname
    obtain hfinds | hleased := haccounted
    · obtain hleased | hreached := hkept name hbefore
      · exact hleased
      · exact absurd hreached (by simp [hmissed hfinds])
    · exact hleased name (Discovery.mem_runningNames.mpr hbefore)
  | stopNext tasks nextId cause selected current following remaining earlier =>
    obtain rfl := Option.some.inj hcall
    obtain ⟨-, hrunning⟩ := answer_stop hanswer
    obtain ⟨hremoves, hleased, hbeyond⟩ := hkept
    refine ⟨hremoves, fun name hname ↦ hleased name ((hrunning name).mp hname).1, ?_⟩
    intro hok name hname
    cases earlier with
    | error failure => simp [Except.bind, Except.isOk, Except.toBool] at hok
    | ok earlier =>
      cases result with
      | error failure => simp [Except.bind, Except.map, Except.isOk, Except.toBool] at hok
      | ok snapshot => exact beyond_of_answer_stop hanswer rfl (hbeyond rfl) hname
  | stopped tasks nextId cause selected current earlier snapshot =>
    obtain rfl := Option.some.inj hcall
    obtain ⟨hremoves, -, hbeyond⟩ := hkept
    intro name hname
    obtain hleased | hnil := beyond_of_answer_stop hanswer rfl (hbeyond rfl) hname
    · exact hleased.eraseAll hremoves
    · exact absurd hnil (by simp)
  | stopFailed =>
    obtain rfl := Option.some.inj hcall
    obtain ⟨-, hrunning⟩ := answer_stop hanswer
    exact fun name hname ↦ hkept.2.1 name ((hrunning name).mp hname).1
  | readDone tasks nextId cause selected snapshot =>
    obtain rfl := Option.some.inj hcall
    obtain ⟨-, rfl⟩ := Prod.mk.inj hanswer
    exact fun name hname ↦ (hkept.2.2 name hname).eraseAll hkept.1
  | readFailed =>
    obtain rfl := Option.some.inj hcall
    obtain ⟨-, rfl⟩ := Prod.mk.inj hanswer
    exact hkept.2.1

/-- An answer that leaves a discovery task unaccounted for leaks it. -/
theorem accounted_of_noLeak (hcall : before.transition.call = some call)
    (hanswer : answer names discovery replies call = (result, after))
    (hmove : Move (some result) before next)
    (hnoLeak : next.transition = .free → ∀ name, after.isRunning name = true →
      Leased next.tasks (names.key name)) : Accounted names before discovery replies := by
  cases hmove with
  | startFailed tasks nextId adapterKey timeoutMs owner failure =>
    obtain rfl := Option.some.inj hcall
    obtain ⟨hkeys, hrunning⟩ := answer_start hanswer
    simp only [Accounted, hkeys, Except.toOption, Option.map_none]
    exact fun name hname ↦ hnoLeak rfl name
      ((hrunning name).mpr (List.mem_append_right _ hname))
  | unconfirmed tasks nextId adapterKey timeoutMs owner snapshot hnone =>
    obtain rfl := Option.some.inj hcall
    obtain ⟨hkeys, -⟩ := answer_start hanswer
    simp [Accounted, hkeys, Except.toOption, hnone]
  | started tasks nextId adapterKey timeoutMs owner snapshot task laterId hsome htask howner =>
    obtain rfl := Option.some.inj hcall
    obtain ⟨hkeys, hrunning⟩ := answer_start hanswer
    obtain ⟨key, keys, hcons⟩ := List.exists_cons_of_ne_nil hsome
    simp only [Accounted, hkeys, Except.toOption, Option.map_some, hcons]
    intro name hname
    have hleased := leased_insert_iff.mp (hnoLeak rfl name ((hrunning name).mpr hname))
    rwa [htask, hcons] at hleased
  | rolledBack tasks nextId target =>
    obtain rfl := Option.some.inj hcall
    obtain ⟨-, hrunning⟩ := answer_stop hanswer
    apply or_iff_not_imp_left.mpr
    intro hmissed name hname
    exact hnoLeak rfl name ((hrunning name).mpr
      ⟨Discovery.mem_runningNames.mp hname, fun hfinds ↦ absurd hfinds hmissed⟩)
  | _ => trivial

end Answers

/-! ## Whole runs -/

theorem backend_step {self next : State} {replies : BluezReplies}
    (hstep : step names self (.backend replies) = some next) :
    ∃ call result, self.scans.transition.call = some call ∧
      answer names self.discovery replies call = (result, next.discovery) ∧
      Move (some result) self.scans.leases next.scans.leases := by
  obtain ⟨call, hcall, hnext⟩ := Option.bind_eq_some_iff.mp hstep
  rcases hanswer : answer names self.discovery replies call with ⟨result, discovery⟩
  simp only [hanswer, Option.map_eq_some_iff] at hnext
  obtain ⟨scans, hreply, rfl⟩ := hnext
  exact ⟨call, result, hcall, hanswer, reply_move hreply⟩

theorem coordinator_step {self next : State} {action : Scan.Action}
    (hstep : step names self (.coordinator action) = some next) :
    Move none self.scans.leases next.scans.leases ∧ next.discovery = self.discovery := by
  cases action with
  | reply result => contradiction
  | _ =>
    obtain ⟨scans, hscans, rfl⟩ := Option.map_eq_some_iff.mp hstep
    exact ⟨step_move hscans, rfl⟩

theorem kept_step {self next : State} {action : Action}
    (hkept : Kept names self.scans.leases self.discovery)
    (hstep : step names self action = some next) (haccounted : self.Accounted names action) :
    Kept names next.scans.leases next.discovery := by
  cases action with
  | coordinator action =>
    obtain ⟨hmove, hdiscovery⟩ := coordinator_step hstep
    rw [hdiscovery]
    exact hkept.move hmove
  | backend replies =>
    obtain ⟨call, result, hcall, hanswer, hmove⟩ := backend_step hstep
    exact hkept.answered hcall hanswer hmove haccounted
  | discoveryEnds name =>
    obtain rfl := Option.some.inj hstep
    apply hkept.mono
    intro other hother
    rw [Discovery.isRunning, Table.lookup_modify] at hother
    split at hother
    · simp [Option.any_map] at hother
    · exact hother
  | poweredOff name =>
    obtain rfl := Option.some.inj hstep
    apply hkept.mono
    intro other hother
    rw [Discovery.isRunning_stopDiscovery, Bool.and_eq_true] at hother
    exact hother.2

theorem noLeak_iff {self : State} : self.NoLeak names ↔ (self.scans.transition = .free →
    ∀ name, self.discovery.isRunning name = true → Leased self.scans.tasks (names.key name)) := by
  simp only [State.NoLeak, isFree_iff, Discovery.mem_runningNames]

theorem Kept.noLeak {self : State} (hkept : Kept names self.scans.leases self.discovery) :
    self.NoLeak names := by
  apply noLeak_iff.mpr
  intro hfree
  rw [State.leases_of_transition hfree] at hkept
  exact hkept

/-- A run leaks no discovery task between its calls exactly when BlueZ's answers to its
starts and roll-backs leave nothing unaccounted for. -/
theorem always_noLeak_iff {actions : List Action} {final : State}
    (hrun : (system names).run (system names).init actions = some final) :
    (system names).Always (State.NoLeak names) (system names).init actions ↔
      (system names).Meets (State.Accounted names) (system names).init actions := by
  have hinit : Kept names (system names).init.scans.leases (system names).init.discovery :=
    fun name hname ↦ by simp [system, Discovery.isRunning] at hname
  refine (system names).always_iff_meets
    (fun state (hkept : Kept names state.scans.leases state.discovery) ↦ hkept.noLeak)
    (fun _ _ _ ↦ kept_step) ?_ hinit hrun
  intro state action next _ hstep hnoLeak
  cases action with
  | backend replies =>
    obtain ⟨call, result, hcall, hanswer, hmove⟩ := backend_step hstep
    exact accounted_of_noLeak hcall hanswer hmove (noLeak_iff.mp hnoLeak)
  | _ => trivial

section Runs

def plainNames : AdapterNames := ⟨id, Function.injective_id⟩

def scanningReply : AdapterReply := ⟨.ok (), .ok true, .ok ()⟩

/-- A scan of all adapters whose snapshot shows both, and its stop. -/
def accountedRun : List Action :=
  let adapters : Table String AdapterReply :=
    (AList.singleton "hci1" scanningReply).insert "hci0" scanningReply
  let replies : BluezReplies :=
    ⟨.ok adapters, .ok ⟨[⟨"hci0", true, true⟩, ⟨"hci1", true, true⟩]⟩⟩
  [.coordinator (.start ⟨.absent, .absent, .absent, .absent⟩ ":1.7"), .backend replies,
    .discoveryEnds "hci1", .coordinator (.stop (some "scan-1") (some ":1.7") "cancelled"),
    .backend replies, .backend replies]

theorem noLeak_of_accountedRun :
    ∃ final, (system plainNames).run (system plainNames).init accountedRun = some final ∧
      (system plainNames).Always (State.NoLeak plainNames) (system plainNames).init
        accountedRun ∧ final.discovery.runningNames = [] :=
  ⟨_, rfl, (always_noLeak_iff rfl).mpr (by decide), by decide⟩

/-- Discovery begins, and the snapshot that would have confirmed it fails. -/
def failedSnapshotRun : List Action :=
  let failure : BackendError := ⟨.unavailable, "list BlueZ adapters"⟩
  [.coordinator (.start ⟨.absent, .absent, .string "hci0", .absent⟩ ":1.7"),
    .backend ⟨.ok (AList.singleton "hci0" scanningReply), .error failure⟩]

theorem not_noLeak_of_failedSnapshotRun :
    ∃ final, (system plainNames).run (system plainNames).init failedSnapshotRun = some final ∧
      final.scans.isFree = true ∧ final.scans.tasks.keys = [] ∧
      final.discovery.runningNames = ["hci0"] ∧ ¬ final.NoLeak plainNames :=
  ⟨_, rfl, by decide, by decide, by decide, by decide⟩

end Runs

end BtDaemon.Daemon.ScanDiscovery
