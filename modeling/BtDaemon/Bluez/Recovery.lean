import BtDaemon.Bluez.Discovery
import BtDaemon.Foundation.TaskPool
import BtDaemon.Foundation.Transition

/-!
# Recovery of the BlueZ backend

`RecoveringBackend` keeps one installed generation of the BlueZ backend. Its monitor reads the
changes of the bus owner of `org.bluez` and polls at most one replacement, a future that first
stops the installed generation and then builds a new one for the owner it was created for. A
future stops at its awaits only, and at each of them a newer owner change may drop it.

Building starts worker tasks. A worker ends by itself, when its task group is aborted or shut
down, or when the last `Arc` of the group's owner goes away; most workers hold such an `Arc`.
A client's call gets an `Arc` of the installed backend and keeps it over its awaits, also when the
generation is stopped and another one is built.
A generation is numbered when the building of its backend starts, a replacement by the owner
change it was created for.
-/

namespace BtDaemon.Bluez.Recovery

open Transition

/-! ## Workers -/

inductive Vendor where
  | sony
  | maestro
  deriving DecidableEq, Repr

/-- Who stops a worker: a task group of the backend or of a provider, or the map of discovery
tasks. -/
inductive Group where
  | backend
  | discovery
  | fastPair
  | vendor (vendor : Vendor)
  deriving DecidableEq, Repr

/-- The worker tasks of one generation, by the names they are spawned under. A discovery task is
late if a shutdown had stopped all others before it was spawned. -/
inductive Kind where
  | bluezLinkRssi
  | bluezMonitor
  | logindLifecycle
  | resumeReconnect
  | cacheExpiry
  | changeForwarder
  | discovery (adapter : String) (late : Bool)
  | fastPairRequests
  | fastPairReconciler
  | fastPairConnect
  | fastPairReader
  | fastPairSeekerCapability
  | fastPairPairingWindow
  | vendorRequests (vendor : Vendor)
  | vendorReconciler (vendor : Vendor)
  | vendorConnect (vendor : Vendor)
  | vendorSession (vendor : Vendor)
  deriving DecidableEq, Repr

def Kind.group : Kind → Group
  | .bluezLinkRssi | .bluezMonitor | .logindLifecycle | .resumeReconnect | .cacheExpiry
  | .changeForwarder => .backend
  | .discovery _ _ => .discovery
  | .fastPairRequests | .fastPairReconciler | .fastPairConnect | .fastPairReader
  | .fastPairSeekerCapability | .fastPairPairingWindow => .fastPair
  | .vendorRequests vendor | .vendorReconciler vendor | .vendorConnect vendor
  | .vendorSession vendor => .vendor vendor

/-- Whether the task holds an `Arc` that keeps the group's owner alive. The backend owns its
providers. A discovery task is detached and outlives its handle. -/
def Kind.keeps : Kind → Group → Bool
  | .bluezLinkRssi, _ | .bluezMonitor, _ | .logindLifecycle, _ | .resumeReconnect, _ => true
  | .cacheExpiry, _ | .changeForwarder, _ | .fastPairPairingWindow, _ => false
  | .discovery _ _, group => group = .discovery
  | .fastPairRequests, group | .fastPairReconciler, group | .fastPairConnect, group
  | .fastPairReader, group | .fastPairSeekerCapability, group => group = .fastPair
  | .vendorRequests vendor, group | .vendorReconciler vendor, group
  | .vendorConnect vendor, group | .vendorSession vendor, group => group = .vendor vendor

/-- The tasks that a task of the first kind spawns. -/
def Kind.spawns : Kind → Kind → Bool
  | .logindLifecycle, .resumeReconnect => true
  | .bluezMonitor, .fastPairPairingWindow => true
  | .fastPairRequests, .fastPairReader => true
  | .fastPairReconciler, .fastPairConnect => true
  | .fastPairConnect, .fastPairReader => true
  | .fastPairReader, .fastPairSeekerCapability => true
  | .vendorRequests vendor, .vendorSession other => vendor = other
  | .vendorReconciler vendor, .vendorConnect other => vendor = other
  | _, _ => false

structure Worker where
  generation : ℕ
  kind : Kind
  deriving DecidableEq, Repr

def Worker.keeps (self other : Worker) : Bool :=
  self.generation = other.generation && self.kind.keeps other.kind.group

theorem Kind.keeps_own {kind : Kind} {group : Group} (hkeeps : kind.keeps group = true) :
    kind.keeps kind.group = true := by
  cases kind <;> first | rfl | simp_all [Kind.keeps, Kind.group]

theorem Worker.keeps_self {worker other : Worker} (hkeeps : worker.keeps other = true) :
    worker.keeps worker = true := by
  have hown := Kind.keeps_own (Bool.and_eq_true_iff.mp hkeeps).2
  simp [Worker.keeps, hown]

/-! ## Replacements -/

/-- The awaits of `BluezBackend::shutdown`. -/
inductive Stage where
  | tasks
  | discovery
  | fastPair
  | sony
  | maestro
  deriving DecidableEq, Repr

def Stage.next : Stage → Option Stage
  | .tasks => some .discovery
  | .discovery => some .fastPair
  | .fastPair => some .sony
  | .sony => some .maestro
  | .maestro => none

/-- Where a run of `stop_generation` is. -/
inductive Stop where
  | enter
  | shutdown (previous : ℕ) (stage : Stage)
  | take
  | takeAgent
  deriving DecidableEq, Repr

/-- The await a replacement is at. -/
inductive Phase where
  | stopping (stop : Stop)
  | opening (generation : ℕ)
  | startingFastPair (generation : ℕ)
  | startingSony (generation : ℕ)
  | startingMaestro (generation : ℕ)
  | registering (generation : ℕ)
  | applyingPolicy (generation : ℕ)
  | lockingAgent (generation : ℕ)
  | retrying
  deriving DecidableEq, Repr

/-- The generation under construction. -/
def Phase.generation : Phase → Option ℕ
  | .opening generation | .startingFastPair generation | .startingSony generation
  | .startingMaestro generation | .registering generation | .applyingPolicy generation
  | .lockingAgent generation => some generation
  | .stopping _ | .retrying => none

/-- The generation that a `Candidate` of the future owns. -/
def Phase.candidate : Phase → Option ℕ
  | .registering generation | .applyingPolicy generation | .lockingAgent generation =>
    some generation
  | _ => none

structure Replacement where
  owner : String
  phase : Phase
  deriving DecidableEq, Repr

/-- The recovery task: subscribing, in `drive` with its replacement, in the cleanup after a
lost stream, or in the pause before it subscribes again. -/
inductive Monitor where
  | setup
  | driving (replacement : Option ℕ)
  | failing (stop : Stop)
  | sleeping
  deriving DecidableEq, Repr

/-- The answer to an await. Fast Pair starts with or without its registered profile; the
startup policy reconnects a number of devices. -/
inductive Reply where
  | ready
  | failed
  | requests (registered : Bool)
  | reconnects (devices : ℕ)
  deriving DecidableEq, Repr

/-- One successful await on the way from the session to a complete candidate, with the workers
that start before the next await. A provider that does not start is left out. -/
def Phase.build : Phase → Reply → Option (Phase × List Kind)
  | .opening generation, .ready => some (.startingFastPair generation, [])
  | .startingFastPair generation, .requests registered =>
    some (.startingSony generation,
      (if registered then [.fastPairRequests] else []) ++ [.fastPairReconciler])
  | .startingFastPair generation, .failed => some (.startingSony generation, [])
  | .startingSony generation, .ready =>
    some (.startingMaestro generation, [.vendorRequests .sony, .vendorReconciler .sony])
  | .startingSony generation, .failed => some (.startingMaestro generation, [])
  | .startingMaestro generation, .ready =>
    some (.registering generation, [.vendorRequests .maestro, .vendorReconciler .maestro])
  | .startingMaestro generation, .failed => some (.registering generation, [])
  | .registering generation, .ready => some (.applyingPolicy generation, [])
  | .applyingPolicy generation, .reconnects devices =>
    some (.lockingAgent generation,
      List.replicate devices .resumeReconnect ++ [.bluezLinkRssi, .bluezMonitor, .logindLifecycle])
  | _, _ => none

/-! ## The recovering backend -/

structure State where
  current : Option ℕ
  available : Bool
  /-- The generation whose session registered the agent that is kept. -/
  agent : Option ℕ
  monitor : Monitor
  replacements : Table ℕ Replacement
  workers : TaskPool Worker
  /-- `discovery_tasks` of each backend. -/
  discoveries : Table ℕ Discovery
  /-- The generations whose `discovery_tasks` a shutdown has emptied. -/
  drained : List ℕ
  /-- The calls of clients in flight, with the generation whose `Arc` each of them holds. -/
  calls : Table ℕ ℕ
  called : ℕ
  changes : ℕ
  /-- The reasons given to `PairingBroker::cancel_all`. -/
  cancelled : List String
  /-- The owner that was received last, and how many were received. -/
  owner : String
  received : ℕ
  generations : ℕ
  /-- The owner change whose replacement builds the generation. -/
  builtFor : Table ℕ ℕ
  installed : List ℕ
  /-- The generations whose `shutdown` has returned. -/
  closed : List ℕ

inductive Action where
  /-- The monitor has subscribed and asked whether `org.bluez` has an owner. -/
  | subscribed (present : Bool)
  | setupFailed
  /-- A `NameOwnerChanged` signal is received. -/
  | ownerChanged (name old new : String)
  /-- The signal stream ends or yields an error. -/
  | streamLost
  /-- A replacement makes its next step. -/
  | poll (replacement : ℕ) (reply : Reply)
  /-- The next step of `stop_generation` after a lost stream. -/
  | cleanup
  | wake
  | spawns (parent : ℕ) (kind : Kind)
  | finishes (worker : ℕ)
  /-- A client's call gets the installed backend. -/
  | call
  /-- A call starts or stops discovery on its backend. -/
  | startDiscovery (call : ℕ) (adapter : String) (reply : AdapterReply)
  | stopDiscovery (call : ℕ) (adapter : Option String)
  /-- A call has paired a device, whose provisioning window opens. -/
  | notePairing (call : ℕ)
  /-- A call returns or is dropped. -/
  | returns (call : ℕ)

namespace State

def init : State where
  current := none
  available := false
  agent := none
  monitor := .setup
  replacements := ∅
  workers := .empty
  discoveries := ∅
  drained := []
  calls := ∅
  called := 0
  changes := 0
  cancelled := []
  owner := ""
  received := 0
  generations := 0
  builtFor := ∅
  installed := []
  closed := []

/-- `RecoveringBackend::current`. -/
def currentBackend (state : State) : Except BackendError ℕ :=
  match state.available, state.current with
  | true, some generation => .ok generation
  | _, _ => .error ⟨.unavailable, "BlueZ is recovering"⟩

def invalidate (state : State) : State :=
  { state with
    available := false
    cancelled := state.cancelled ++ ["bluez-unavailable"]
    changes := state.changes + 1 }

/-- Whether the generation is installed or under construction. -/
def holds (state : State) (generation : ℕ) : Bool :=
  state.current = some generation ||
    state.replacements.values.any fun replacement ↦
      replacement.phase.generation = some generation

def inFlight (state : State) (generation : ℕ) : Bool :=
  state.calls.values.any fun held ↦ held = generation

/-- Whether a value other than a worker holds the generation or a part of it. -/
def owns (state : State) (generation : ℕ) : Bool :=
  state.holds generation || state.inFlight generation

/-- End the workers whose group was dropped. -/
def collect (state : State) : State :=
  { state with
    workers := state.workers.collect (fun worker ↦ state.owns worker.generation) Worker.keeps }

def abortGroup (state : State) (generation : ℕ) (group : Group) : State :=
  { state with
    workers := state.workers.abort fun worker ↦
      worker.generation = generation && worker.kind.group = group }

/-- `Candidate::drop` of a candidate that was not installed. -/
def dropCandidate (state : State) (generation : ℕ) : State :=
  (((state.abortGroup generation .backend).abortGroup generation .fastPair).abortGroup
    generation (.vendor .sony)).abortGroup generation (.vendor .maestro)

def setPhase (state : State) (serial : ℕ) (owner : String) (phase : Phase) : State :=
  { state with replacements := state.replacements.insert serial ⟨owner, phase⟩ }

def dropReplacement (state : State) (serial : ℕ) : State :=
  match state.replacements.lookup serial with
  | none => state
  | some replacement =>
    let dropped := { state with replacements := state.replacements.erase serial }
    match replacement.phase.candidate with
    | some generation => (dropped.dropCandidate generation).collect
    | none => dropped.collect

/-- Drop the replacement that `drive` holds. -/
def dropCurrent (state : State) : State :=
  match state.monitor with
  | .driving (some serial) => state.dropReplacement serial
  | _ => state

/-- The closure that `monitor_owner` gives to `drive`: it invalidates at once and returns the
future of the replacement. -/
def replace (state : State) (owner : String) : State :=
  { state.invalidate with
    owner := owner
    received := state.received + 1
    replacements := state.replacements.insert (state.received + 1) ⟨owner, .stopping .enter⟩
    monitor := .driving (some (state.received + 1)) }

/-- An event of `drive`. -/
def ownerChanged (state : State) (name old new : String) : State :=
  if name ≠ "org.bluez" ∨ old = new then state else state.dropCurrent.replace new

/-- `monitor_owner` returns an error; its caller invalidates and cleans up. -/
def streamLost (state : State) : State :=
  { state.dropCurrent.invalidate with monitor := .failing .enter }

/-! ### Stopping a generation -/

/-- Whether `stop_discovery` finds a task to stop. -/
def stopsDiscovery (discovery : Discovery) : Option String → Bool
  | some name => (discovery.tasks.lookup name).isSome
  | none => !discovery.tasks.keys.isEmpty

def stopsTask (generation : ℕ) (adapter : Option String) (worker : Worker) : Bool :=
  worker.generation = generation &&
    match worker.kind, adapter with
    | .discovery name _, some stopped => name = stopped
    | .discovery _ _, none => true
    | _, _ => false

def discoveryOf (state : State) (generation : ℕ) : Discovery :=
  (state.discoveries.lookup generation).getD ⟨∅⟩

def stopDiscovery (state : State) (generation : ℕ) (adapter : Option String) : State :=
  let discovery := state.discoveryOf generation
  let workers := state.workers.abort (stopsTask generation adapter)
  { state with
    discoveries := state.discoveries.insert generation (discovery.stopDiscovery adapter)
    workers :=
      if stopsDiscovery discovery adapter then workers.spawn ⟨generation, .cacheExpiry⟩
      else workers }

/-- One await of `BluezBackend::shutdown`, up to the next. -/
def shutdownStage (state : State) (previous : ℕ) : Stage → State
  | .tasks => state.abortGroup previous .backend
  | .discovery =>
    { state.stopDiscovery previous none with drained := state.drained ++ [previous] }
  | .fastPair => state.abortGroup previous .fastPair
  | .sony => state.abortGroup previous (.vendor .sony)
  | .maestro =>
    { state.abortGroup previous (.vendor .maestro) with closed := state.closed ++ [previous] }

/-- One step of `stop_generation`, with where it leads; `none` when it returns. -/
def stopStep (state : State) : Stop → State × Option Stop
  | .enter =>
    (state,
      some (match state.current with
        | some previous => .shutdown previous .tasks
        | none => .take))
  | .shutdown previous stage =>
    (state.shutdownStage previous stage,
      some (match stage.next with
        | some later => .shutdown previous later
        | none => .take))
  | .take => ({ state with current := none }.collect, some .takeAgent)
  | .takeAgent => ({ state with agent := none }, none)

/-! ### Building a generation -/

/-- `replacement` is entered: `with_state` starts a new generation. -/
def startBuilding (state : State) (serial : ℕ) (owner : String) : State :=
  { state.setPhase serial owner (.opening state.generations) with
    generations := state.generations + 1
    builtFor := state.builtFor.insert state.generations serial }

/-- The replacement's future returns and `drive` drops it. -/
def complete (state : State) (serial : ℕ) : State :=
  { state with
    replacements := state.replacements.erase serial
    monitor := .driving none }

/-- The end of `recover`, once it has the lock of the agent. -/
def install (state : State) (serial generation : ℕ) : State :=
  { state with
    agent := some generation
    current := some generation
    discoveries := state.discoveries.insert generation ⟨∅⟩
    workers := state.workers.spawn ⟨generation, .changeForwarder⟩
    available := true
    changes := state.changes + 1
    installed := state.installed ++ [generation] }.complete serial

def build (state : State) (serial : ℕ) (owner : String) (phase : Phase) (kinds : List Kind) :
    State :=
  { state with
    workers := state.workers.spawnAll
      (phase.generation.toList.flatMap fun generation ↦ kinds.map (Worker.mk generation)) }.setPhase
    serial owner phase

/-- A step of the replacement at the given phase. -/
def poll (state : State) (serial : ℕ) (owner : String) : Phase → Reply → Option State
  | .stopping stop, .ready =>
    match state.stopStep stop with
    | (stopped, some later) => some (stopped.setPhase serial owner (.stopping later))
    | (stopped, none) =>
      if owner = "" then some (stopped.complete serial)
      else some (stopped.startBuilding serial owner)
  | .retrying, .ready => some (state.startBuilding serial owner)
  | .opening _, .failed => some (state.setPhase serial owner .retrying)
  | .registering generation, .failed =>
    some ((state.dropCandidate generation).setPhase serial owner .retrying).collect
  | .lockingAgent generation, .ready => some (state.install serial generation)
  | phase, reply => (phase.build reply).map fun next ↦ state.build serial owner next.1 next.2

/-! ### Calls of clients -/

def enter (state : State) (generation : ℕ) : State :=
  { state with calls := state.calls.insert state.called generation, called := state.called + 1 }

/-- Whether `start_discovery` spawns a task. -/
def startsDiscovery (discovery : Discovery) (adapter : String) (reply : AdapterReply) : Bool :=
  match (discovery.startDiscovery adapter reply).1 with
  | .ok started => started
  | .error _ => false

def startDiscovery (state : State) (generation : ℕ) (adapter : String) (reply : AdapterReply) :
    State :=
  let discovery := state.discoveryOf generation
  { state with
    discoveries :=
      state.discoveries.insert generation (discovery.startDiscovery adapter reply).2
    workers :=
      if startsDiscovery discovery adapter reply then
        state.workers.spawn ⟨generation, .discovery adapter (state.drained.contains generation)⟩
      else state.workers }

def notePairing (state : State) (generation : ℕ) : State :=
  { state with workers := state.workers.spawn ⟨generation, .fastPairPairingWindow⟩ }

def leave (state : State) (call : ℕ) : State :=
  { state with calls := state.calls.erase call }.collect

/-- A worker ends. The handle of a discovery task stays in the map. -/
def finish (state : State) (serial : ℕ) (worker : Worker) : State :=
  let finished := { state with workers := state.workers.finish serial }
  match worker.kind with
  | .discovery adapter _ =>
    { finished with
      discoveries := state.discoveries.modify worker.generation fun discovery ↦
        ⟨discovery.tasks.modify adapter fun _ ↦ ⟨true⟩⟩ }.collect
  | _ => finished.collect

end State

/-- The recovery of one daemon, under every order of its steps. -/
def recovery : System State Action where
  init := State.init
  step state
    | .subscribed present =>
      match state.monitor with
      | .setup => some (state.replace (if present then "initial" else ""))
      | _ => none
    | .setupFailed =>
      match state.monitor with
      | .setup => some state.streamLost
      | _ => none
    | .ownerChanged name old new =>
      match state.monitor with
      | .driving _ => some (state.ownerChanged name old new)
      | _ => none
    | .streamLost =>
      match state.monitor with
      | .driving _ => some state.streamLost
      | _ => none
    | .poll serial reply =>
      (state.replacements.lookup serial).bind fun replacement ↦
        state.poll serial replacement.owner replacement.phase reply
    | .cleanup =>
      match state.monitor with
      | .failing stop =>
        match state.stopStep stop with
        | (stopped, some later) => some { stopped with monitor := .failing later }
        | (stopped, none) => some { stopped with monitor := .sleeping }
      | _ => none
    | .wake =>
      match state.monitor with
      | .sleeping => some { state with monitor := .setup }
      | _ => none
    | .spawns parent kind =>
      (state.workers.live.lookup parent).bind fun worker ↦
        if worker.kind.spawns kind then
          some { state with workers := state.workers.spawn ⟨worker.generation, kind⟩ }
        else none
    | .finishes serial => (state.workers.live.lookup serial).map (state.finish serial)
    | .call => state.currentBackend.toOption.map state.enter
    | .startDiscovery call adapter reply =>
      (state.calls.lookup call).map fun generation ↦ state.startDiscovery generation adapter reply
    | .stopDiscovery call adapter =>
      (state.calls.lookup call).map fun generation ↦ state.stopDiscovery generation adapter
    | .notePairing call => (state.calls.lookup call).map state.notePairing
    | .returns call => (state.calls.lookup call).map fun _ ↦ state.leave call

end BtDaemon.Bluez.Recovery
