import BtDaemon.Daemon.OperationOwnership
import BtDaemon.Daemon.ScanLeases

/-!
# Owners of requests

Every D-Bus call that was admitted registers its owner with `watch_request_owner`. The first
registration of an owner spawns a watch task, which waits until the bus reports the owner
gone or monitoring fails, and then cancels whatever the owner has active; a later
registration only asks the bus whether the owner is still there. Both coordinators run as
they are, and the calls and watch tasks are the agents that act on them.

What is assumed of the outside: unique names are never reused, `has_owner` never reports an
owner that has left, and stopping discovery succeeds.
-/

namespace BtDaemon.Daemon.RequestOwners

open Transition

/-- Where a call or a watch task is. -/
inductive Phase where
  /-- A call before it takes the watch set's lock. -/
  | admitted
  /-- A call that found its owner watched, at `has_owner`. -/
  | checking
  /-- A watch task at `monitor.wait`. -/
  | waiting
  /-- `cancel_owner` before it collects, and while it cancels what it collected. -/
  | cancel
  | cancelling
  /-- `stop_owner` likewise. -/
  | stop
  | stopping
  | finishing
  deriving DecidableEq, Repr

structure Agent where
  owner : String
  phase : Phase
  deriving DecidableEq, Repr

structure State where
  operations : Operation.State
  scans : Scan.State
  agents : Table ℕ Agent
  spawned : ℕ
  /-- `scan_owner_watches`, with the watch task of each entry. -/
  watches : Table String ℕ
  departed : List String
  /-- The owner whose cleanup cancelled a request, and the owner of that request. -/
  cancellations : List (String × Option String)

inductive Action where
  | startOperation (requestId : String) (request : Except String (String × DeviceOperation))
      (owner : String) (admission insertion : Option String)
  | startScan (params : Scan.ScanParams) (owner : String)
  /-- A scan call that only stopped scans also registers its owner. -/
  | stoppedScan (owner : String)
  | operations (action : Operation.Action)
  | scans (action : Scan.Action)
  | register (call : ℕ)
  | hasOwner (call : ℕ) (failed : Bool)
  /-- `monitor.wait` returns, because the owner left or with an error. -/
  | waitReturns (watch : ℕ)
  | cleanup (agent : ℕ)
  | leave (owner : String)

/-! ## The coordinators' own steps -/

/-- Steps that start an operation for a D-Bus owner, or belong to a cleanup. -/
def Operation.isDriven : Operation.Action → Bool
  | .start _ _ (some _) _ _ | .sweep _ _ | .sweepNext _ => true
  | _ => false

def Scan.isDriven : Scan.Action → Bool
  | .start _ _ | .sweep _ _ | .sweepNext _ => true
  | _ => false

namespace State

def init : State := ⟨Operation.State.init, Scan.State.init, ∅, 0, ∅, [], []⟩

def spawn (self : State) (owner : String) (phase : Phase) : State :=
  { self with
    agents := self.agents.insert self.spawned ⟨owner, phase⟩
    spawned := self.spawned + 1 }

def setPhase (self : State) (agent : ℕ) (owner : String) (phase : Phase) : State :=
  { self with agents := self.agents.insert agent ⟨owner, phase⟩ }

def startOperation (self : State) (requestId : String)
    (request : Except String (String × DeviceOperation)) (owner : String)
    (admission insertion : Option String) : Option State :=
  (Operation.step self.operations (.start requestId request (some owner) admission insertion)).map
    fun operations ↦
      let started := { self with operations := operations }
      if (operations.coordinator.active.lookup requestId).isSome then
        started.spawn owner .admitted
      else started

/-- A step of the scan coordinator. The answer that confirms a start admits its call. -/
def scanStep (self : State) (action : Scan.Action) : Option State :=
  (Scan.step self.scans action).bind fun scans ↦
    let stepped := { self with scans := scans }
    match self.scans.transition, action with
    | .starting adapterKey _ owner, .reply (.ok snapshot) =>
      if Scan.poweredAdapterKeys snapshot adapterKey = [] then some stepped
      else some (stepped.spawn owner .admitted)
    | .stopping _ _ _ _ _, .reply (.error _) | .reading _ _, .reply (.error _) => none
    | _, _ => some stepped

/-! ## Registration and cleanup -/

/-- `watch_request_owner`, with the watch set's lock held. -/
def register (self : State) (call : ℕ) (owner : String) : State :=
  match self.watches.lookup owner with
  | none =>
    { { self with agents := self.agents.erase call }.spawn owner .waiting with
      watches := self.watches.insert owner self.spawned }
  | some _ => self.setPhase call owner .checking

/-- The operation that the next step of a `cancel_owner` call aborts. -/
def abortedOwner (self : State) (agent : ℕ) : Option (Option String) :=
  match self.operations.sweeps.lookup agent with
  | some ⟨owner, requestId :: _, none⟩ =>
    if (self.operations.cancel requestId (some owner)).1 = .aborted then
      (self.operations.coordinator.active.lookup requestId).map Operation.Owned.owner
    else none
  | _ => none

/-- The scans that the next stop of a `stop_owner` call selects. -/
def stoppedOwners (self : State) (agent : ℕ) : List (Option String) :=
  match self.scans.sweeps.lookup agent with
  | some (requestId :: _) =>
    ((Scan.selectScans self.scans.tasks (some requestId) none).1.filterMap
      self.scans.tasks.lookup).map fun task ↦ some task.event.owner
  | _ => []

/-- One step of the cleanup that an agent does for its owner. -/
def cleanup (self : State) (agent : ℕ) (owner : String) : Phase → Option State
  | .cancel =>
    (Operation.step self.operations (.sweep agent owner)).map fun operations ↦
      { self with operations := operations }.setPhase agent owner .cancelling
  | .cancelling =>
    (Operation.step self.operations (.sweepNext agent)).map fun operations ↦
      let phase := if operations.sweeps.lookup agent = none then .stop else .cancelling
      { self with
        operations := operations
        cancellations := self.cancellations ++
          (self.abortedOwner agent).toList.map (owner, ·) }.setPhase agent owner phase
  | .stop =>
    (Scan.step self.scans (.sweep agent owner)).map fun scans ↦
      { self with scans := scans }.setPhase agent owner .stopping
  | .stopping =>
    (Scan.step self.scans (.sweepNext agent)).map fun scans ↦
      let phase := if scans.sweeps.lookup agent = none then .finishing else .stopping
      { self with
        scans := scans
        cancellations := self.cancellations ++ (self.stoppedOwners agent).map (owner, ·) }.setPhase
          agent owner phase
  | .finishing =>
    -- Only a watch task has an entry to remove.
    some { self with
      agents := self.agents.erase agent
      watches := if self.watches.lookup owner = some agent then self.watches.erase owner
        else self.watches }
  | _ => none

end State

open State in
def step (self : State) : Action → Option State
  | .startOperation requestId request owner admission insertion =>
    self.startOperation requestId request owner admission insertion
  | .startScan params owner => self.scanStep (.start params owner)
  | .stoppedScan owner => some (self.spawn owner .admitted)
  | .operations action =>
    if Operation.isDriven action then none
    else (Operation.step self.operations action).map fun operations ↦
      { self with operations := operations }
  | .scans action => if Scan.isDriven action then none else self.scanStep action
  | .register call =>
    match self.agents.lookup call with
    | some ⟨owner, .admitted⟩ => some (self.register call owner)
    | _ => none
  | .hasOwner call failed =>
    match self.agents.lookup call with
    | some ⟨owner, .checking⟩ =>
      -- Fail closed if monitoring itself is unavailable.
      if failed || self.departed.contains owner then some (self.setPhase call owner .cancel)
      else some { self with agents := self.agents.erase call }
    | _ => none
  | .waitReturns watch =>
    match self.agents.lookup watch with
    | some ⟨owner, .waiting⟩ => some (self.setPhase watch owner .cancel)
    | _ => none
  | .cleanup agent =>
    match self.agents.lookup agent with
    | some ⟨owner, phase⟩ => self.cleanup agent owner phase
    | none => none
  | .leave owner => some { self with departed := owner :: self.departed }

def system : System State Action := ⟨State.init, step⟩

end BtDaemon.Daemon.RequestOwners
