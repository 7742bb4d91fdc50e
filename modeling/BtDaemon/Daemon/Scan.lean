import BtDaemon.Backend
import BtDaemon.Foundation.Table
import Mathlib.Data.List.Dedup
import Mathlib.Data.List.Sort
import Mathlib.Data.String.Basic

/-!
# Bluetooth scans

An active scan leases the adapters that its start found powered and discovering. Adapters
may be leased by several scans, so a stop asks the backend only for the adapters that no
other active scan leases. Here are the request parser, the choice of what to stop, and the
events; the calls and tasks around them are in the next module.
-/

namespace BtDaemon.Daemon.Scan

structure ScanEvent where
  event : String
  requestId : String
  adapterKey : Option String
  adapterKeys : List String
  owner : String
  state : String
  timeoutMs : Option ℕ
  snapshot : Option Snapshot
  error : Option ApiError
  deriving DecidableEq, Repr

/-- `handle` names the timeout task that was spawned for the scan. -/
structure ScanTask where
  handle : ℕ
  event : ScanEvent
  deriving DecidableEq, Repr

inductive ScanRequest where
  | start (adapterKey : Option String) (timeoutMs : ℕ)
  | stop (requestId : Option String)
  deriving DecidableEq, Repr

structure ScanParams where
  enabled : Param
  requestId : Param
  adapterKey : Param
  timeoutMs : Param
  deriving DecidableEq, Repr

def ScanRequest.parse (params : ScanParams) : Except String ScanRequest := do
  let enabled ← match params.enabled with
    | .absent => .ok true
    | .bool enabled => .ok enabled
    | _ => .error "invalid optional boolean parameter 'enabled'"
  if !enabled then
    let requestId ← params.requestId.optionalString "request_id"
    return .stop requestId
  let adapterKey ← params.adapterKey.optionalString "adapter_key"
  let timeoutMs ← match params.timeoutMs with
    | .absent => .ok 15000
    | .unsigned value => .ok (max 1000 (min value 60000))
    | _ => .error "invalid optional unsigned integer parameter 'timeout_ms'"
  return .start adapterKey timeoutMs

/-- The adapters that a scan leases when its start returned this snapshot. -/
def poweredAdapterKeys (snapshot : Snapshot) (requested : Option String) : List String :=
  (snapshot.adapters.filter fun adapter ↦
    adapter.powered && adapter.discovering && requested.all (adapter.key = ·)).map Adapter.key

/-! ## What a stop selects -/

def selects (requestId owner : Option String) (id : String) (task : ScanTask) : Bool :=
  requestId.all (· = id) && owner.all (task.event.owner = ·)

/-- The selected scans, and the adapters that only they lease. -/
def selectScans (tasks : Table String ScanTask) (requestId owner : Option String) :
    List String × List String :=
  let (selected, others) :=
    tasks.entries.partition fun entry ↦ selects requestId owner entry.1 entry.2
  let adapters := (selected.flatMap fun entry ↦ entry.2.event.adapterKeys).dedup
  let retained := others.flatMap fun entry ↦ entry.2.event.adapterKeys
  (selected.map Sigma.fst,
    -- Stable ordering also makes the first backend failure deterministic.
    (adapters.filter fun key ↦ !retained.contains key).insertionSort (· ≤ ·))

section SelectScans

variable (tasks : Table String ScanTask) (requestId owner : Option String)

theorem mem_selectScans_ids (id : String) :
    id ∈ (selectScans tasks requestId owner).1 ↔
      ∃ task, tasks.lookup id = some task ∧ selects requestId owner id task = true := by
  simp only [selectScans, List.partition_eq_filter_filter, List.mem_map, List.mem_filter,
    Sigma.exists, Table.mem_entries]
  constructor
  · rintro ⟨found, task, ⟨htask, hselected⟩, rfl⟩
    exact ⟨task, htask, hselected⟩
  · rintro ⟨task, htask, hselected⟩
    exact ⟨id, task, ⟨htask, hselected⟩, rfl⟩

theorem mem_selectScans_adapters (key : String) :
    key ∈ (selectScans tasks requestId owner).2 ↔
      (∃ id task, tasks.lookup id = some task ∧ id ∈ (selectScans tasks requestId owner).1 ∧
        key ∈ task.event.adapterKeys) ∧
      ∀ id task, tasks.lookup id = some task → id ∉ (selectScans tasks requestId owner).1 →
        key ∉ task.event.adapterKeys := by
  have hselected : ∀ id task, tasks.lookup id = some task →
      (id ∈ (selectScans tasks requestId owner).1 ↔ selects requestId owner id task = true) := by
    intro id task htask
    rw [mem_selectScans_ids]
    constructor
    · rintro ⟨found, hfound, hselects⟩
      obtain rfl := Option.some.inj (htask.symm.trans hfound)
      exact hselects
    · exact fun hselects ↦ ⟨task, htask, hselects⟩
  have hmem : key ∈ (selectScans tasks requestId owner).2 ↔
      (∃ id task, tasks.lookup id = some task ∧ selects requestId owner id task = true ∧
        key ∈ task.event.adapterKeys) ∧
      ∀ id task, tasks.lookup id = some task → selects requestId owner id task = false →
        key ∉ task.event.adapterKeys := by
    simp [selectScans, List.mem_insertionSort, Table.mem_entries, and_assoc]
  rw [hmem]
  constructor
  · rintro ⟨⟨id, task, htask, hselects, hkey⟩, hothers⟩
    refine ⟨⟨id, task, htask, (hselected id task htask).mpr hselects, hkey⟩, ?_⟩
    intro other kept hkept hother
    exact hothers other kept hkept (Bool.eq_false_iff.mpr (mt (hselected other kept hkept).mpr hother))
  · rintro ⟨⟨id, task, htask, hid, hkey⟩, hothers⟩
    refine ⟨⟨id, task, htask, (hselected id task htask).mp hid, hkey⟩, ?_⟩
    intro other kept hkept hother
    refine hothers other kept hkept (mt (hselected other kept hkept).mp ?_)
    simp [hother]

end SelectScans

/-! ## Events -/

def runningEvent (requestId : String) (adapterKey : Option String) (adapterKeys : List String)
    (owner : String) (timeoutMs : ℕ) (snapshot : Snapshot) : ScanEvent where
  event := "started"
  requestId := requestId
  adapterKey := adapterKey
  adapterKeys := adapterKeys
  owner := owner
  state := "running"
  timeoutMs := some timeoutMs
  snapshot := some snapshot
  error := none

/-- The event that an explicit stop publishes for a scan it removed. -/
def stoppedEvent (event : String) (lastSnapshot : Snapshot) (task : ScanTask) : ScanEvent :=
  { task.event with
    event := event
    state := event
    timeoutMs := none
    snapshot := some lastSnapshot }

def terminalEvent (requestId : String) (adapterKey : Option String)
    (result : Except BackendError Snapshot) : ScanEvent :=
  let (snapshot, error, state) := match result with
    | .ok snapshot => (some snapshot, none, "completed")
    | .error failure => (none, some (errorValue failure), "failed")
  { event := state
    requestId := requestId
    adapterKey := adapterKey
    adapterKeys := []
    owner := ""
    state := state
    timeoutMs := none
    snapshot := snapshot
    error := error }

inductive Response where
  | started (scan : ScanEvent) (snapshot : Snapshot)
  | stopped (requestId : Option String) (snapshot : Snapshot)
  | error (error : ApiError)
  deriving DecidableEq, Repr

end BtDaemon.Daemon.Scan
