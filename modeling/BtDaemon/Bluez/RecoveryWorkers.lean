import BtDaemon.Bluez.RecoveryOwner

/-!
# Recovery and the workers of a generation

A worker is accounted for while its generation is installed or a replacement is building it. A
replacement that is dropped before its candidate exists owns the providers it has started through
plain `Arc`s only, and their workers hold `Arc`s of their own. A call of a client can outlive its
generation and then start workers that nobody stops. These drops and these calls are exactly the
leaks.
-/

namespace BtDaemon.Bluez.Recovery

open Transition

/-- Every live worker belongs to the installed generation or to the one under construction. -/
def NoLeak (state : State) : Prop :=
  ∀ worker ∈ state.workers.live.values, state.holds worker.generation = true

instance : DecidablePred NoLeak := fun state ↦
  inferInstanceAs (Decidable (∀ worker ∈ state.workers.live.values, _))

/-- The generation of providers that only the variables of `with_state` own. -/
def Phase.unowned : Phase → Option ℕ
  | .startingSony generation | .startingMaestro generation => some generation
  | _ => none

/-- Whether the action makes `drive` drop its replacement. -/
def Action.drops : Action → Bool
  | .ownerChanged name old new => !(name ≠ "org.bluez" || old = new)
  | .streamLost => true
  | _ => false

/-- A replacement that is dropped while Sony or Maestro starts finds no worker of its
generation that keeps its provider alive. -/
def DropsCleanly (state : State) (action : Action) : Prop :=
  action.drops = true → ∀ replacement ∈ state.replacements.values,
    ∀ worker ∈ state.workers.live.values,
      replacement.phase.unowned = some worker.generation → worker.keeps worker = false

instance (state : State) (action : Action) : Decidable (DropsCleanly state action) :=
  inferInstanceAs (Decidable (_ → ∀ replacement ∈ state.replacements.values,
    ∀ worker ∈ state.workers.live.values, _))

/-- A timer, which ends at the latest with its task group. -/
def Kind.isTimer : Kind → Bool
  | .cacheExpiry | .fastPairPairingWindow => true
  | _ => false

def Kind.isLate : Kind → Bool
  | .discovery _ late => late
  | _ => false

/-- What the end of the generation does not end: a late discovery task, and a timer while a call
holds the backend. -/
def State.lingers (state : State) (worker : Worker) : Bool :=
  worker.kind.isLate || worker.kind.isTimer && state.inFlight worker.generation

/-- Whether the action takes the installed generation away. -/
def State.takes (state : State) : Action → Bool
  | .poll serial _ => (state.replacements.lookup serial).any fun replacement ↦
      replacement.phase = .stopping .take
  | .cleanup => state.monitor = .failing .take
  | _ => false

def TakesCleanly (state : State) (action : Action) : Prop :=
  state.takes action = true → ∀ worker ∈ state.workers.live.values, state.lingers worker = false

instance (state : State) (action : Action) : Decidable (TakesCleanly state action) :=
  inferInstanceAs (Decidable (_ → ∀ worker ∈ state.workers.live.values, _))

/-- The generation in which a call starts a worker by the action. -/
def State.serves (state : State) : Action → Option ℕ
  | .startDiscovery call adapter reply => (state.calls.lookup call).filter fun generation ↦
      State.startsDiscovery (state.discoveryOf generation) adapter reply
  | .stopDiscovery call adapter => (state.calls.lookup call).filter fun generation ↦
      State.stopsDiscovery (state.discoveryOf generation) adapter
  | .notePairing call => state.calls.lookup call
  | _ => none

/-- A call starts workers in the installed generation only. -/
def ServesInstalled (state : State) (action : Action) : Prop :=
  ∀ generation ∈ state.serves action, state.current = some generation

instance (state : State) (action : Action) : Decidable (ServesInstalled state action) :=
  inferInstanceAs (Decidable (∀ generation ∈ state.serves action, _))

def Released (state : State) (action : Action) : Prop :=
  DropsCleanly state action ∧ TakesCleanly state action ∧ ServesInstalled state action

instance (state : State) (action : Action) : Decidable (Released state action) :=
  inferInstanceAs (Decidable (_ ∧ _ ∧ _))

theorem inFlight_iff (state : State) (generation : ℕ) :
    state.inFlight generation = true ↔ ∃ call, state.calls.lookup call = some generation := by
  simp only [State.inFlight, List.any_eq_true, decide_eq_true_eq, Table.mem_values,
    exists_eq_right]

theorem holds_iff (state : State) (generation : ℕ) :
    state.holds generation = true ↔ state.current = some generation ∨
      ∃ serial replacement, state.replacements.lookup serial = some replacement ∧
        replacement.phase.generation = some generation := by
  rw [State.holds, Bool.or_eq_true, decide_eq_true_eq, List.any_eq_true]
  apply or_congr_right
  simp only [decide_eq_true_eq, Table.mem_values]
  constructor
  · rintro ⟨replacement, ⟨serial, hlookup⟩, hgeneration⟩
    exact ⟨serial, replacement, hlookup, hgeneration⟩
  · rintro ⟨serial, replacement, hlookup, hgeneration⟩
    exact ⟨replacement, ⟨serial, hlookup⟩, hgeneration⟩

/-- Collecting leaves a worker behind exactly when a call holds its generation or it keeps its own
group. -/
theorem noLeak_collect_iff (state : State) :
    NoLeak state.collect ↔ ∀ worker ∈ state.workers, state.holds worker.generation = false →
      state.inFlight worker.generation = false ∧ worker.keeps worker = false := by
  have hmem : ∀ worker, worker ∈ state.collect.workers ↔ worker ∈ state.workers ∧
      (state.owns worker.generation = true ∨
        ∃ other ∈ state.workers, other.keeps worker = true) := fun worker ↦
    TaskPool.mem_collect _ _ _
  constructor
  · intro hnoLeak worker hworker hheld
    have hgone : ¬ (state.owns worker.generation = true ∨
        ∃ other ∈ state.workers, other.keeps worker = true) := fun hkept ↦ by
      have hholds : state.holds worker.generation = true :=
        hnoLeak worker ((hmem worker).mpr ⟨hworker, hkept⟩)
      rw [hheld] at hholds
      cases hholds
    rw [not_or, State.owns, hheld, Bool.false_or, Bool.not_eq_true] at hgone
    exact ⟨hgone.1, Bool.eq_false_iff.mpr fun hkeeps ↦ hgone.2 ⟨worker, hworker, hkeeps⟩⟩
  · intro hreleased worker hworker
    obtain ⟨hlive, howned | ⟨other, hother, hkeeps⟩⟩ := (hmem worker).mp hworker
    · by_contra hheld
      obtain ⟨hcalls, -⟩ := hreleased worker hlive (Bool.eq_false_iff.mpr hheld)
      rw [State.owns, hcalls, Bool.or_false] at howned
      exact hheld howned
    · have hgeneration : other.generation = worker.generation := by
        simpa using (Bool.and_eq_true_iff.mp hkeeps).1
      by_contra hheld
      have hheld' : state.holds other.generation = false := by
        rw [hgeneration]
        exact Bool.eq_false_iff.mpr hheld
      have hself := (hreleased other hother hheld').2
      rw [Worker.keeps_self hkeeps] at hself
      cases hself

theorem mem_of_mem_collect {state : State} {worker : Worker}
    (hmem : worker ∈ state.collect.workers) : worker ∈ state.workers :=
  ((TaskPool.mem_collect _ _ _).mp hmem).1

/-! ## The groups that a shutdown has still to stop -/

def Stage.remaining : Stage → List Group
  | .tasks => [.backend, .discovery, .fastPair, .vendor .sony, .vendor .maestro]
  | .discovery => [.discovery, .fastPair, .vendor .sony, .vendor .maestro]
  | .fastPair => [.fastPair, .vendor .sony, .vendor .maestro]
  | .sony => [.vendor .sony, .vendor .maestro]
  | .maestro => [.vendor .maestro]

/-- Workers that a call or `stop_discovery` spawns after their group was stopped. -/
def Kind.remains (kind : Kind) : Bool := kind.isTimer || kind.isLate

/-- The workers that may be left. Once the map of discovery tasks was emptied, each later one is
late. -/
def Stop.Cleared (state : State) : Stop → Prop
  | .enter | .takeAgent => True
  | .shutdown previous stage => (.discovery ∈ stage.remaining ∨ previous ∈ state.drained) ∧
      ∀ worker ∈ state.workers,
        worker.kind.remains = true ∨ worker.kind.group ∈ stage.remaining
  | .take => (∀ generation, state.current = some generation → generation ∈ state.drained) ∧
      ∀ worker ∈ state.workers, worker.kind.remains = true

def InStop (state : State) (stop : Stop) : Prop :=
  state.monitor = .failing stop ∨ ∃ serial replacement,
    state.replacements.lookup serial = some replacement ∧ replacement.phase = .stopping stop

/-- A generation before its first worker. -/
def Phase.isEarly : Phase → Bool
  | .opening _ | .startingFastPair _ => true
  | _ => false

/-- Each call holds a generation that is not under construction any more. -/
def CallsHoldBuilt (state : State) : Prop :=
  ∀ call generation, state.calls.lookup call = some generation →
    generation < state.generations ∧ ∀ serial replacement,
      state.replacements.lookup serial = some replacement →
        replacement.phase.generation ≠ some generation

structure Contained (state : State) : Prop where
  noLeak : NoLeak state
  numbered : ∀ generation, state.holds generation = true → generation < state.generations
  early : ∀ serial replacement, state.replacements.lookup serial = some replacement →
    replacement.phase.isEarly = true →
    ∀ worker ∈ state.workers, replacement.phase.generation ≠ some worker.generation
  discovery : ∀ worker ∈ state.workers, worker.kind.group = .discovery →
    state.current = some worker.generation
  stops : ∀ stop, InStop state stop → stop.Cleared state
  calls : CallsHoldBuilt state

theorem contained_init : Contained State.init where
  noLeak worker hworker := by cases hworker
  numbered generation hholds := by cases hholds
  early serial replacement hlookup := by simp [State.init] at hlookup
  discovery worker hworker := by cases hworker
  stops stop hstop := by
    rcases hstop with hmonitor | ⟨serial, replacement, hlookup, -⟩
    · cases hmonitor
    · simp [State.init] at hlookup
  calls call generation hlookup := by simp [State.init] at hlookup

theorem Kind.group_of_spawns {parent kind : Kind} (hspawns : parent.spawns kind = true) :
    kind.group ≠ .discovery ∧ parent.remains = false ∧
      (kind.group = parent.group ∨ parent.group = .backend) := by
  unfold Kind.spawns at hspawns
  split at hspawns <;> simp_all [Kind.group, Kind.remains, Kind.isTimer, Kind.isLate]

theorem Stage.remaining_of_spawns {parent kind : Kind} {stage : Stage}
    (hspawns : parent.spawns kind = true) (hparent : parent.group ∈ stage.remaining) :
    kind.group ∈ stage.remaining := by
  obtain ⟨hdiscovery, -, hgroup | hbackend⟩ := Kind.group_of_spawns hspawns
  · rwa [hgroup]
  · rw [hbackend] at hparent
    cases stage with
    | tasks =>
      cases hkind : kind.group with
      | vendor vendor => cases vendor <;> simp [Stage.remaining]
      | backend => simp [Stage.remaining]
      | discovery => simp [Stage.remaining]
      | fastPair => simp [Stage.remaining]
    | discovery => simp [Stage.remaining] at hparent
    | fastPair => simp [Stage.remaining] at hparent
    | sony => simp [Stage.remaining] at hparent
    | maestro => simp [Stage.remaining] at hparent

/-! ## Steps of the workers -/

/-- New workers are of a group that is still to be stopped, or may be left. -/
theorem Stop.Cleared.grow {state next : State} {stop : Stop} (hcleared : stop.Cleared state)
    (hcurrent : next.current = state.current) (hdrained : next.drained = state.drained)
    (hnew : ∀ worker ∈ next.workers, worker ∈ state.workers ∨ worker.kind.remains = true ∨
      ∃ previous stage, stop = .shutdown previous stage ∧ worker.kind.group ∈ stage.remaining) :
    stop.Cleared next := by
  cases stop with
  | enter => trivial
  | takeAgent => trivial
  | shutdown previous stage =>
    obtain ⟨hstage, hworkers⟩ := hcleared
    refine ⟨hdrained ▸ hstage, fun worker hworker ↦ ?_⟩
    rcases hnew worker hworker with hold | hremains | ⟨_, _, hstop, hgroup⟩
    · exact hworkers worker hold
    · exact .inl hremains
    · obtain ⟨rfl, rfl⟩ := Stop.shutdown.inj hstop
      exact .inr hgroup
  | take =>
    obtain ⟨hcurrents, hworkers⟩ := hcleared
    refine ⟨hcurrent ▸ hdrained ▸ hcurrents, fun worker hworker ↦ ?_⟩
    rcases hnew worker hworker with hold | hremains | ⟨_, _, hstop, -⟩
    · exact hworkers worker hold
    · exact hremains
    · cases hstop

/-- Fewer workers and calls under the same owners. -/
theorem Contained.subset {state next : State} (hcontained : Contained state)
    (hcurrent : next.current = state.current) (hmonitor : next.monitor = state.monitor)
    (hreplacements : next.replacements = state.replacements)
    (hgenerations : next.generations = state.generations) (hdrained : next.drained = state.drained)
    (hcalls : ∀ call generation, next.calls.lookup call = some generation →
      state.calls.lookup call = some generation)
    (hworkers : ∀ worker ∈ next.workers, worker ∈ state.workers) : Contained next := by
  have hholds : ∀ generation, next.holds generation = state.holds generation := by
    intro generation
    rw [State.holds, State.holds, hcurrent, hreplacements]
  exact
    { noLeak := fun worker hworker ↦
        (hholds worker.generation).trans (hcontained.noLeak worker (hworkers worker hworker))
      numbered := fun generation hheld ↦ by
        rw [hgenerations]
        exact hcontained.numbered generation ((hholds generation).symm.trans hheld)
      early := fun serial replacement hlookup hearly worker hworker ↦
        hcontained.early serial replacement (hreplacements ▸ hlookup) hearly worker
          (hworkers worker hworker)
      discovery := fun worker hworker hgroup ↦
        hcurrent.trans (hcontained.discovery worker (hworkers worker hworker) hgroup)
      stops := fun stop hstop ↦ by
        have hstop' : InStop state stop := by
          rw [InStop, hmonitor, hreplacements] at hstop
          exact hstop
        exact (hcontained.stops stop hstop').grow hcurrent hdrained
          fun worker hworker ↦ .inl (hworkers worker hworker)
      calls := fun call generation hlookup ↦ by
        rw [hgenerations, hreplacements]
        exact hcontained.calls call generation (hcalls call generation hlookup) }

theorem Contained.spawns {state : State} {parent : Worker} {kind : Kind}
    (hcontained : Contained state) (hparent : parent ∈ state.workers)
    (hspawns : parent.kind.spawns kind = true) :
    Contained { state with workers := state.workers.spawn ⟨parent.generation, kind⟩ } := by
  obtain ⟨hdiscovery, hends, -⟩ := Kind.group_of_spawns hspawns
  refine ⟨fun worker hworker ↦ ?_, hcontained.numbered,
    fun serial replacement hlookup hearly worker hworker ↦ ?_,
    fun worker hworker hgroup ↦ ?_, fun stop hstop ↦ ?_, hcontained.calls⟩
  · rcases TaskPool.mem_spawn.mp hworker with rfl | hold
    · exact hcontained.noLeak parent hparent
    · exact hcontained.noLeak worker hold
  · rcases TaskPool.mem_spawn.mp hworker with rfl | hold
    · exact hcontained.early serial replacement hlookup hearly parent hparent
    · exact hcontained.early serial replacement hlookup hearly worker hold
  · rcases TaskPool.mem_spawn.mp hworker with rfl | hold
    · exact absurd hgroup hdiscovery
    · exact hcontained.discovery worker hold hgroup
  · have hcleared := hcontained.stops stop hstop
    cases stop with
    | enter => trivial
    | takeAgent => trivial
    | shutdown previous stage =>
      refine hcleared.grow rfl rfl fun worker hworker ↦ ?_
      rcases TaskPool.mem_spawn.mp hworker with rfl | hold
      · have hgroup := (hcleared.2 parent hparent).resolve_left (by rw [hends]; nofun)
        exact .inr (.inr ⟨_, _, rfl, Stage.remaining_of_spawns hspawns hgroup⟩)
      · exact .inl hold
    | take =>
      have hremains := hcleared.2 parent hparent
      rw [hends] at hremains
      cases hremains

theorem finish_workers {state : State} {serial : ℕ} {ended worker : Worker}
    (hmem : worker ∈ (state.finish serial ended).workers) : worker ∈ state.workers := by
  unfold State.finish at hmem
  split at hmem <;> exact TaskPool.mem_of_mem_finish (mem_of_mem_collect hmem)

theorem Contained.finish {state : State} (hcontained : Contained state) (serial : ℕ)
    (ended : Worker) : Contained (state.finish serial ended) := by
  refine hcontained.subset ?_ ?_ ?_ ?_ ?_ ?_ fun worker hworker ↦ finish_workers hworker
  case refine_6 =>
    intro call generation hlookup
    unfold State.finish at hlookup
    split at hlookup <;> exact hlookup
  all_goals
    unfold State.finish
    split <;> rfl

/-! ## Calls of clients -/

/-- While the backend is available, no replacement exists and nothing is being stopped. -/
theorem Follows.idle_of_available {state : State} (hfollows : Follows state)
    (havailable : state.available = true) (serial : ℕ) :
    state.replacements.lookup serial = none := by
  have hmonitor := hfollows.idle havailable
  cases hlookup : state.replacements.lookup serial with
  | none => rfl
  | some replacement =>
    have hdriving := (hfollows.replacement serial replacement hlookup).monitor
    rw [hmonitor] at hdriving
    cases hdriving

theorem Contained.enter {state : State} {generation : ℕ} (hcontained : Contained state)
    (hfollows : Follows state) (hbackend : state.currentBackend = .ok generation) :
    Contained (state.enter generation) := by
  obtain ⟨havailable, hsome⟩ := currentBackend_eq_ok hbackend
  have hstops : ∀ stop, InStop state stop → stop.Cleared (state.enter generation) :=
    fun stop hstop ↦ (hcontained.stops stop hstop).grow rfl rfl fun worker hworker ↦ .inl hworker
  refine ⟨hcontained.noLeak, hcontained.numbered, hcontained.early, hcontained.discovery, hstops,
    fun call other hlookup ↦ ?_⟩
  obtain ⟨-, rfl⟩ | ⟨-, hold⟩ := Table.lookup_insert_eq_some.mp hlookup
  · refine ⟨hcontained.numbered _ ((holds_iff ..).mpr (.inl hsome)), ?_⟩
    intro serial replacement hfound
    cases (hfollows.idle_of_available havailable serial).symm.trans hfound
  · exact hcontained.calls call other hold

theorem Contained.leave {state : State} (hcontained : Contained state) (call : ℕ) :
    Contained (state.leave call) := by
  refine hcontained.subset rfl rfl rfl rfl rfl (fun other generation hlookup ↦ ?_)
    fun worker hworker ↦ ?_
  · exact (Table.lookup_erase_eq_some.mp hlookup).2
  · have hlive := mem_of_mem_collect hworker
    exact hlive

/-- The run of `stop_generation` has reached the step. -/
theorem Follows.agrees {state : State} (hfollows : Follows state) {stop : Stop}
    (hstop : InStop state stop) : stop.Agrees state := by
  rcases hstop with hmonitor | ⟨serial, replacement, hlookup, hphase⟩
  · exact hfollows.failing stop hmonitor
  · exact (hfollows.replacement serial replacement hlookup).stops stop hphase

/-- A call starts a worker of the installed generation. -/
theorem Contained.serve {state next : State} {call generation : ℕ} (kind : Kind)
    (hcontained : Contained state) (hcall : state.calls.lookup call = some generation)
    (hsome : state.current = some generation) (hcurrent : next.current = state.current)
    (hmonitor : next.monitor = state.monitor)
    (hreplacements : next.replacements = state.replacements)
    (hgenerations : next.generations = state.generations) (hdrained : next.drained = state.drained)
    (hcalls : next.calls = state.calls)
    (hworkers : ∀ worker ∈ next.workers, worker ∈ state.workers ∨ worker = ⟨generation, kind⟩)
    (hkind : ∀ stop, InStop state stop → stop = .enter ∨ kind.remains = true ∨
      ∃ previous stage, stop = .shutdown previous stage ∧ kind.group ∈ stage.remaining) :
    Contained next := by
  have hholds : ∀ other, next.holds other = state.holds other := by
    intro other
    rw [State.holds, State.holds, hcurrent, hreplacements]
  refine ⟨fun worker hworker ↦ ?_, fun other hheld ↦ ?_,
    fun serial replacement hlookup hearly worker hworker ↦ ?_, fun worker hworker hgroup ↦ ?_,
    fun stop hstop ↦ ?_, fun other held hlookup ↦ ?_⟩
  · rw [hholds]
    rcases hworkers worker hworker with hold | rfl
    · exact hcontained.noLeak worker hold
    · exact (holds_iff ..).mpr (.inl hsome)
  · rw [hgenerations]
    exact hcontained.numbered other ((hholds other).symm.trans hheld)
  · rw [hreplacements] at hlookup
    rcases hworkers worker hworker with hold | rfl
    · exact hcontained.early serial replacement hlookup hearly worker hold
    · exact (hcontained.calls call generation hcall).2 serial replacement hlookup
  · rcases hworkers worker hworker with hold | rfl
    · exact hcurrent.trans (hcontained.discovery worker hold hgroup)
    · exact hcurrent.trans hsome
  · have hstop' : InStop state stop := by
      rw [InStop, hmonitor, hreplacements] at hstop
      exact hstop
    rcases hkind stop hstop' with rfl | hleft
    · trivial
    · refine (hcontained.stops stop hstop').grow hcurrent hdrained fun worker hworker ↦ ?_
      rcases hworkers worker hworker with hold | rfl
      · exact .inl hold
      · exact .inr hleft
  · rw [hcalls] at hlookup
    rw [hgenerations, hreplacements]
    exact hcontained.calls other held hlookup

theorem toOption_eq_some {Error Value : Type} {result : Except Error Value} {value : Value}
    (hresult : result.toOption = some value) : result = .ok value := by
  cases result with
  | error => cases hresult
  | ok found => exact congrArg Except.ok (Option.some.inj hresult)

theorem mem_stopDiscovery {state : State} {generation : ℕ} {adapter : Option String}
    {worker : Worker} (hmem : worker ∈ (state.stopDiscovery generation adapter).workers) :
    worker = ⟨generation, .cacheExpiry⟩ ∨
      (worker ∈ state.workers ∧ State.stopsTask generation adapter worker = false) := by
  simp only [State.stopDiscovery] at hmem
  split at hmem
  · rcases TaskPool.mem_spawn.mp hmem with rfl | hold
    · exact .inl rfl
    · exact .inr (TaskPool.mem_abort.mp hold)
  · exact .inr (TaskPool.mem_abort.mp hmem)

section Calls

variable {state : State} {call generation : ℕ} {adapter : Option String} {name : String}
  {reply : AdapterReply}

/-- A discovery task that starts while the map is emptied, or later, is late. -/
theorem Contained.startDiscovery (hcontained : Contained state) (hfollows : Follows state)
    (hcall : state.calls.lookup call = some generation)
    (hserves : ServesInstalled state (.startDiscovery call name reply)) :
    Contained (state.startDiscovery generation name reply) := by
  cases hstarts : State.startsDiscovery (state.discoveryOf generation) name reply with
  | false =>
    refine hcontained.subset rfl rfl rfl rfl rfl (fun _ _ hlookup ↦ hlookup) fun worker hworker ↦ ?_
    simpa only [State.startDiscovery, hstarts, Bool.false_eq_true, if_false] using hworker
  | true =>
    have hsome := hserves generation (by simp [State.serves, hcall, hstarts])
    refine hcontained.serve (.discovery name (state.drained.contains generation)) hcall hsome
      rfl rfl rfl rfl rfl rfl (fun worker hworker ↦ ?_) fun stop hstop ↦ ?_
    · simp only [State.startDiscovery, hstarts, if_true] at hworker
      exact (TaskPool.mem_spawn.mp hworker).symm
    · have hagrees := hfollows.agrees hstop
      have hcleared := hcontained.stops stop hstop
      have hlate : generation ∈ state.drained →
          Kind.remains (.discovery name (state.drained.contains generation)) = true := by
        intro hdrained
        simpa [Kind.remains, Kind.isLate, Kind.isTimer] using hdrained
      cases stop with
      | enter => exact .inl rfl
      | shutdown previous stage =>
        obtain rfl : previous = generation := Option.some.inj (hagrees.symm.trans hsome)
        rcases hcleared.1 with hremaining | hdrained
        · exact .inr (.inr ⟨_, _, rfl, hremaining⟩)
        · exact .inr (.inl (hlate hdrained))
      | take => exact .inr (.inl (hlate (hcleared.1 generation hsome)))
      | takeAgent => cases (hagrees : state.current = none).symm.trans hsome

theorem Contained.stopDiscovery (hcontained : Contained state)
    (hcall : state.calls.lookup call = some generation)
    (hserves : ServesInstalled state (.stopDiscovery call adapter)) :
    Contained (state.stopDiscovery generation adapter) := by
  cases hstops : State.stopsDiscovery (state.discoveryOf generation) adapter with
  | false =>
    refine hcontained.subset rfl rfl rfl rfl rfl (fun _ _ hlookup ↦ hlookup) fun worker hworker ↦ ?_
    simp only [State.stopDiscovery, hstops] at hworker
    exact (TaskPool.mem_abort.mp hworker).1
  | true =>
    have hsome := hserves generation (by simp [State.serves, hcall, hstops])
    refine hcontained.serve .cacheExpiry hcall hsome rfl rfl rfl rfl rfl rfl
      (fun worker hworker ↦ ?_) fun _ _ ↦ .inr (.inl rfl)
    exact (mem_stopDiscovery hworker).symm.imp_left And.left

theorem Contained.notePairing (hcontained : Contained state)
    (hcall : state.calls.lookup call = some generation)
    (hserves : ServesInstalled state (.notePairing call)) :
    Contained (state.notePairing generation) :=
  hcontained.serve .fastPairPairingWindow hcall (hserves generation hcall)
    rfl rfl rfl rfl rfl rfl (fun _ hworker ↦ (TaskPool.mem_spawn.mp hworker).symm)
    fun _ _ ↦ .inr (.inl rfl)

end Calls

/-! ## Stopping the installed generation -/

/-- In a run of `stop_generation` every worker belongs to the installed generation. -/
structure StopReady (state : State) (stop : Stop) : Prop where
  agrees : stop.Agrees state
  current : ∀ worker ∈ state.workers, state.current = some worker.generation
  cleared : stop.Cleared state

theorem mem_abortGroup {state : State} {generation : ℕ} {group : Group} {worker : Worker} :
    worker ∈ (state.abortGroup generation group).workers ↔
      worker ∈ state.workers ∧ ¬(worker.generation = generation ∧ worker.kind.group = group) := by
  simp only [State.abortGroup, TaskPool.mem_abort, Bool.and_eq_false_iff, decide_eq_false_iff_not,
    not_and_or]

/-- A stage of `shutdown` ends the workers of its group. -/
theorem mem_shutdownStage {state : State} {previous : ℕ} {stage : Stage} {worker : Worker}
    (hmem : worker ∈ (state.shutdownStage previous stage).workers)
    (hcurrent : ∀ other ∈ state.workers, other.generation = previous)
    (hcleared : ∀ other ∈ state.workers,
      other.kind.remains = true ∨ other.kind.group ∈ stage.remaining) :
    worker.generation = previous ∧ (worker.kind.remains = true ∨
      ∃ later, stage.next = some later ∧ worker.kind.group ∈ later.remaining) := by
  have habort : ∀ {group : Group}, worker ∈ (state.abortGroup previous group).workers →
      worker ∈ state.workers ∧ worker.kind.group ≠ group := fun hworker ↦ by
    obtain ⟨hold, hkept⟩ := mem_abortGroup.mp hworker
    exact ⟨hold, fun hgroup ↦ hkept ⟨hcurrent worker hold, hgroup⟩⟩
  cases stage with
  | tasks =>
    obtain ⟨hold, hgroup⟩ := habort hmem
    refine ⟨hcurrent worker hold, (hcleared worker hold).imp_right fun hin ↦ ⟨_, rfl, ?_⟩⟩
    simpa [Stage.remaining, hgroup] using hin
  | discovery =>
    rcases mem_stopDiscovery hmem with rfl | ⟨hold, hkept⟩
    · exact ⟨rfl, .inl rfl⟩
    · refine ⟨hcurrent worker hold, (hcleared worker hold).imp_right fun hin ↦ ⟨_, rfl, ?_⟩⟩
      have hgroup : worker.kind.group ≠ .discovery := by
        intro hgroup
        cases hkind : worker.kind <;> simp_all [Kind.group, State.stopsTask]
      simpa [Stage.remaining, hgroup] using hin
  | fastPair =>
    obtain ⟨hold, hgroup⟩ := habort hmem
    refine ⟨hcurrent worker hold, (hcleared worker hold).imp_right fun hin ↦ ⟨_, rfl, ?_⟩⟩
    simpa [Stage.remaining, hgroup] using hin
  | sony =>
    obtain ⟨hold, hgroup⟩ := habort hmem
    refine ⟨hcurrent worker hold, (hcleared worker hold).imp_right fun hin ↦ ⟨_, rfl, ?_⟩⟩
    simpa [Stage.remaining, hgroup] using hin
  | maestro =>
    obtain ⟨hold, hgroup⟩ := habort hmem
    refine ⟨hcurrent worker hold, .inl ((hcleared worker hold).resolve_right fun hin ↦ ?_)⟩
    exact hgroup (by simpa [Stage.remaining] using hin)

/-- From the stage that empties the map on, the generation is marked. -/
theorem drained_shutdownStage (state : State) (previous : ℕ) (stage : Stage)
    (hstage : .discovery ∈ stage.remaining ∨ previous ∈ state.drained) :
    (∃ later, stage.next = some later ∧ .discovery ∈ later.remaining) ∨
      previous ∈ (state.shutdownStage previous stage).drained := by
  cases stage with
  | tasks => exact .inl ⟨.discovery, rfl, by simp [Stage.remaining]⟩
  | discovery => exact .inr (List.mem_append_right _ (List.mem_singleton_self _))
  | fastPair | sony | maestro => exact .inr (hstage.resolve_left (by simp [Stage.remaining]))

/-- A timer ends with the backend, so nothing is left once it is taken. -/
theorem take_workers {state : State} {worker : Worker}
    (hnone : ∀ serial replacement, state.replacements.lookup serial = some replacement →
      replacement.phase.generation = none)
    (hcleared : Stop.take.Cleared state)
    (hlingers : ∀ other ∈ state.workers, state.lingers other = false) :
    worker ∉ (state.stopStep .take).1.workers := by
  intro hmem
  have hleft : ∀ other ∈ state.workers, other.kind.isLate = false ∧ other.kind.isTimer = true ∧
      state.inFlight other.generation = false := by
    intro other hother
    have hremains := hcleared.2 other hother
    have hends := hlingers other hother
    rw [State.lingers, Bool.or_eq_false_iff, Bool.and_eq_false_iff] at hends
    rw [Kind.remains, hends.1, Bool.or_false] at hremains
    exact ⟨hends.1, hremains, hends.2.resolve_left (by rw [hremains]; nofun)⟩
  obtain ⟨hlive, howned | ⟨other, hother, hkeeps⟩⟩ := (TaskPool.mem_collect _ _ _).mp hmem
  · rcases Bool.or_eq_true_iff.mp howned with hholds | hcalls
    · rcases (holds_iff _ _).mp hholds with hcurrent | ⟨serial, replacement, hlookup, hbuilt⟩
      · cases hcurrent
      · rw [hnone serial replacement hlookup] at hbuilt
        cases hbuilt
    · have hfree : state.inFlight worker.generation = false := (hleft worker hlive).2.2
      exact nomatch hfree.symm.trans hcalls
  · obtain ⟨-, htimer, -⟩ := hleft other hother
    have hkept := (Bool.and_eq_true_iff.mp hkeeps).2
    cases hkind : other.kind <;> simp_all [Kind.isTimer, Kind.keeps]

theorem StopReady.step {state : State} {stop later : Stop} (hready : StopReady state stop)
    (hnone : ∀ serial replacement, state.replacements.lookup serial = some replacement →
      replacement.phase.generation = none)
    (hlingers : stop = .take → ∀ worker ∈ state.workers, state.lingers worker = false)
    (hstep : (state.stopStep stop).2 = some later) :
    StopReady (state.stopStep stop).1 later := by
  have hagrees := agrees_of_stopStep hready.agrees hstep
  cases stop with
  | enter =>
    obtain rfl := Option.some.inj hstep
    refine ⟨hagrees, hready.current, ?_⟩
    cases hcurrent : state.current with
    | none =>
      have hnot : ∀ generation, state.current ≠ some generation := fun generation hsome ↦ by
        cases hcurrent.symm.trans hsome
      exact ⟨fun generation hsome ↦ absurd hsome (hnot generation),
        fun worker hworker ↦ absurd (hready.current worker hworker) (hnot _)⟩
    | some previous =>
      refine ⟨.inl (by simp [Stage.remaining]), fun worker _ ↦ .inr ?_⟩
      cases worker.kind.group with
      | vendor vendor => cases vendor <;> simp [Stage.remaining]
      | backend => simp [Stage.remaining]
      | discovery => simp [Stage.remaining]
      | fastPair => simp [Stage.remaining]
  | shutdown previous stage =>
    have hcurrent : ∀ other ∈ state.workers, other.generation = previous := fun other hother ↦
      (Option.some.inj ((hready.agrees : state.current = some previous).symm.trans
        (hready.current other hother))).symm
    have hstage : ∀ worker ∈ (state.shutdownStage previous stage).workers, _ := fun worker hmem ↦
      mem_shutdownStage hmem hcurrent hready.cleared.2
    have hdrained := drained_shutdownStage state previous stage hready.cleared.1
    refine ⟨hagrees, fun worker hworker ↦ ?_, ?_⟩
    · apply (shutdownStage_current ..).trans
      rw [(hstage worker hworker).1]
      exact hready.agrees
    · obtain rfl := Option.some.inj hstep
      cases hnext : stage.next with
      | none =>
        refine ⟨fun generation hsome ↦ ?_, fun worker hworker ↦ ?_⟩
        · obtain rfl : previous = generation := Option.some.inj
            ((hready.agrees : state.current = some previous).symm.trans
              ((shutdownStage_current state previous stage).symm.trans hsome))
          refine hdrained.resolve_left ?_
          rintro ⟨other, hother, -⟩
          exact nomatch hnext.symm.trans hother
        · obtain ⟨-, hremains | ⟨other, hother, -⟩⟩ := hstage worker hworker
          · exact hremains
          · exact nomatch hnext.symm.trans hother
      | some other =>
        refine ⟨hdrained.imp_left ?_, fun worker hworker ↦ ?_⟩
        · rintro ⟨found, hfound, hremaining⟩
          obtain rfl := Option.some.inj (hnext.symm.trans hfound)
          exact hremaining
        · obtain ⟨-, hremains | ⟨found, hfound, hgroup⟩⟩ := hstage worker hworker
          · exact .inl hremains
          · obtain rfl := Option.some.inj (hnext.symm.trans hfound)
            exact .inr hgroup
  | take =>
    obtain rfl := Option.some.inj hstep
    refine ⟨hagrees, fun worker hworker ↦ ?_, trivial⟩
    exact absurd hworker (take_workers hnone hready.cleared (hlingers rfl))
  | takeAgent => cases hstep

/-- When `stop_generation` returns, no worker is left. -/
theorem StopReady.done {state : State} {stop : Stop} (hready : StopReady state stop)
    (hstep : (state.stopStep stop).2 = none) (worker : Worker) :
    worker ∉ (state.stopStep stop).1.workers := by
  cases stop with
  | enter => cases hstep
  | shutdown previous stage => cases hstep
  | take => cases hstep
  | takeAgent =>
    intro hworker
    have hsome := hready.current worker hworker
    rw [(hready.agrees : state.current = none)] at hsome
    cases hsome

/-- Nothing lives and nothing is being stopped, so nothing leaks. -/
theorem Contained.ofEmpty {next : State} (hempty : ∀ worker, worker ∉ next.workers)
    (hnumbered : ∀ generation, next.holds generation = true → generation < next.generations)
    (hidle : ∀ stop, ¬InStop next stop) (hcalls : CallsHoldBuilt next) : Contained next where
  noLeak worker hworker := absurd hworker (hempty worker)
  numbered := hnumbered
  early _ _ _ _ worker hworker := absurd hworker (hempty worker)
  discovery worker hworker := absurd hworker (hempty worker)
  stops stop hstop := absurd hstop (hidle stop)
  calls := hcalls

/-! ## Dropping a replacement -/

section Drop

variable {state : State} {serial : ℕ} {replacement : Replacement}

/-- There is one replacement future at a time. -/
theorem Follows.same (hfollows : Follows state)
    (hlookup : state.replacements.lookup serial = some replacement) {other : ℕ}
    {found : Replacement} (hfound : state.replacements.lookup other = some found) :
    other = serial :=
  (hfollows.replacement other found hfound).latest.trans
    (hfollows.replacement serial replacement hlookup).latest.symm

theorem Follows.found_eq (hfollows : Follows state)
    (hlookup : state.replacements.lookup serial = some replacement) {other : ℕ}
    {found : Replacement} (hfound : state.replacements.lookup other = some found) :
    found = replacement := by
  rw [hfollows.same hlookup hfound, hlookup] at hfound
  exact (Option.some.inj hfound).symm

/-- Once its phase is written, what is found is what was written. -/
theorem Follows.found_inserted (hfollows : Follows state)
    (hlookup : state.replacements.lookup serial = some replacement)
    {inserted found : Replacement} {other : ℕ}
    (hfound : (state.replacements.insert serial inserted).lookup other = some found) :
    found = inserted := by
  rw [Table.lookup_insert] at hfound
  split at hfound
  · exact (Option.some.inj hfound).symm
  · next hserial =>
    exact absurd (hfollows.same hlookup hfound) hserial

/-- Once it is taken away, none is left. -/
theorem Follows.erased (hfollows : Follows state)
    (hlookup : state.replacements.lookup serial = some replacement) (other : ℕ) :
    (state.replacements.erase serial).lookup other = none := by
  rw [Table.lookup_erase]
  split
  · rfl
  · next hserial =>
    cases hother : state.replacements.lookup other with
    | none => rfl
    | some found => exact absurd (hfollows.same hlookup hother) hserial

/-- With a replacement, the installed generation and the one it builds are all there is. -/
theorem Contained.generation_of_worker (hcontained : Contained state) (hfollows : Follows state)
    (hlookup : state.replacements.lookup serial = some replacement) {worker : Worker}
    (hworker : worker ∈ state.workers) :
    state.current = some worker.generation ∨
      replacement.phase.generation = some worker.generation := by
  rcases (holds_iff ..).mp (hcontained.noLeak worker hworker) with
    hcurrent | ⟨other, found, hfound, hgeneration⟩
  · exact .inl hcurrent
  · obtain rfl := hfollows.found_eq hlookup hfound
    exact .inr hgeneration

/-- While a replacement builds, only its own generation has workers. -/
theorem Contained.building (hcontained : Contained state) (hfollows : Follows state)
    (hlookup : state.replacements.lookup serial = some replacement)
    (hphase : replacement.phase.isStopping = false) {worker : Worker}
    (hworker : worker ∈ state.workers) :
    replacement.phase.generation = some worker.generation := by
  have hbuilds := (hfollows.replacement serial replacement hlookup).builds hphase
  apply (hcontained.generation_of_worker hfollows hlookup hworker).resolve_left
  intro hcurrent
  rw [hbuilds.current] at hcurrent
  cases hcurrent

/-- Dropping a candidate ends every worker of its generation. -/
theorem Contained.dropCandidate (hcontained : Contained state) (hfollows : Follows state)
    (hlookup : state.replacements.lookup serial = some replacement) {generation : ℕ}
    (hcandidate : replacement.phase.candidate = some generation)
    (before : State) (hbefore : before.workers = state.workers) (worker : Worker) :
    worker ∉ (before.dropCandidate generation).workers := by
  intro hmem
  obtain ⟨hmaestro, hnotMaestro⟩ := mem_abortGroup.mp hmem
  obtain ⟨hsony, hnotSony⟩ := mem_abortGroup.mp hmaestro
  obtain ⟨hfastPair, hnotFastPair⟩ := mem_abortGroup.mp hsony
  obtain ⟨hbackend, hnotBackend⟩ := mem_abortGroup.mp hfastPair
  have hworker : worker ∈ state.workers := hbefore ▸ hbackend
  have hphase : replacement.phase.isStopping = false ∧
      replacement.phase.generation = some generation := by
    revert hcandidate
    cases replacement.phase <;> simp [Phase.candidate, Phase.isStopping, Phase.generation]
  have hgeneration : worker.generation = generation := Option.some.inj
    ((hcontained.building hfollows hlookup hphase.1 hworker).symm.trans hphase.2)
  cases hgroup : worker.kind.group with
  | backend => exact hnotBackend ⟨hgeneration, hgroup⟩
  | fastPair => exact hnotFastPair ⟨hgeneration, hgroup⟩
  | vendor vendor =>
    cases vendor with
    | sony => exact hnotSony ⟨hgeneration, hgroup⟩
    | maestro => exact hnotMaestro ⟨hgeneration, hgroup⟩
  | discovery =>
    have hcurrent := hcontained.discovery worker hworker hgroup
    rw [((hfollows.replacement serial replacement hlookup).builds hphase.1).current] at hcurrent
    cases hcurrent

/-- No call holds a generation under construction. -/
theorem Contained.not_inFlight (hcontained : Contained state)
    (hlookup : state.replacements.lookup serial = some replacement) {generation : ℕ}
    (hgeneration : replacement.phase.generation = some generation) :
    state.inFlight generation = false := by
  refine Bool.eq_false_iff.mpr fun hheld ↦ ?_
  obtain ⟨call, hcall⟩ := (inFlight_iff ..).mp hheld
  exact (hcontained.calls call generation hcall).2 serial replacement hlookup hgeneration

/-- What one drop leaves: no leak exactly when nothing keeps the providers of the future. -/
theorem noLeak_dropReplacement_iff (hcontained : Contained state) (hfollows : Follows state)
    (hlookup : state.replacements.lookup serial = some replacement) :
    NoLeak (state.dropReplacement serial) ↔ ∀ worker ∈ state.workers,
      replacement.phase.unowned = some worker.generation → worker.keeps worker = false := by
  have hnone := hfollows.erased hlookup
  have hholds : ∀ generation,
      State.holds { state with replacements := state.replacements.erase serial } generation = true ↔
        state.current = some generation := by
    intro generation
    rw [holds_iff, or_iff_left]
    rintro ⟨other, found, hfound, -⟩
    have hfound' : (state.replacements.erase serial).lookup other = some found := hfound
    rw [hnone] at hfound'
    cases hfound'
  unfold State.dropReplacement
  rw [hlookup]
  dsimp only
  cases hcandidate : replacement.phase.candidate with
  | some generation =>
    refine iff_of_true ?_ fun worker _ hunowned ↦ ?_
    · exact (noLeak_collect_iff _).mpr fun worker hworker ↦ absurd hworker
        (hcontained.dropCandidate hfollows hlookup hcandidate _ rfl worker)
    · revert hcandidate hunowned
      cases replacement.phase <;> simp [Phase.candidate, Phase.unowned]
  | none =>
    dsimp only
    rw [noLeak_collect_iff]
    apply forall₂_congr
    intro worker hworker
    rw [← Bool.not_eq_true, hholds]
    constructor
    · intro hkept hunowned
      refine (hkept fun hcurrent ↦ ?_).2
      have hphase : replacement.phase.isStopping = false := by
        revert hunowned
        cases replacement.phase <;> simp [Phase.unowned, Phase.isStopping]
      rw [((hfollows.replacement serial replacement hlookup).builds hphase).current] at hcurrent
      cases hcurrent
    · intro hkept hcurrent
      have hgeneration := (hcontained.generation_of_worker hfollows hlookup hworker).resolve_left
        hcurrent
      refine ⟨hcontained.not_inFlight hlookup hgeneration, hkept ?_⟩
      have hlate := fun hearly ↦
        hcontained.early serial replacement hlookup hearly worker hworker hgeneration
      revert hcandidate hgeneration hlate
      cases replacement.phase <;>
        simp [Phase.candidate, Phase.generation, Phase.unowned, Phase.isEarly]

/-- The condition on a drop, for the one replacement that can exist. -/
theorem dropsCleanly_iff (hfollows : Follows state) {action : Action} (hdrops : action.drops = true)
    (hlookup : state.replacements.lookup serial = some replacement) :
    DropsCleanly state action ↔ ∀ worker ∈ state.workers,
      replacement.phase.unowned = some worker.generation → worker.keeps worker = false := by
  constructor
  · intro hreleased worker hworker
    exact hreleased hdrops replacement ((Table.mem_values ..).mpr ⟨serial, hlookup⟩) worker hworker
  · intro hkept _ found hfound worker hworker
    obtain ⟨other, hother⟩ := (Table.mem_values ..).mp hfound
    obtain rfl := hfollows.found_eq hlookup hother
    exact hkept worker hworker

theorem noLeak_dropCurrent_iff (hcontained : Contained state) (hfollows : Follows state)
    {action : Action} (hdrops : action.drops = true) :
    NoLeak state.dropCurrent ↔ DropsCleanly state action := by
  have hnothing : (∀ serial, state.replacements.lookup serial = none) →
      DropsCleanly state action := by
    intro hnone _ replacement hmem
    obtain ⟨serial, hlookup⟩ := (Table.mem_values ..).mp hmem
    rw [hnone] at hlookup
    cases hlookup
  unfold State.dropCurrent
  split
  · next serial hmonitor =>
    cases hlookup : state.replacements.lookup serial with
    | some replacement =>
      rw [noLeak_dropReplacement_iff hcontained hfollows hlookup,
        dropsCleanly_iff hfollows hdrops hlookup]
    | none =>
      have hsame : state.dropReplacement serial = state := by
        simp [State.dropReplacement, hlookup]
      rw [hsame]
      refine iff_of_true hcontained.noLeak (hnothing fun other ↦ ?_)
      cases hother : state.replacements.lookup other with
      | none => rfl
      | some found =>
        have hdriving := (hfollows.replacement other found hother).monitor
        rw [hmonitor] at hdriving
        obtain rfl := Option.some.inj (Monitor.driving.inj hdriving)
        cases hlookup.symm.trans hother
  · next hmonitor =>
    refine iff_of_true hcontained.noLeak (hnothing fun serial ↦ ?_)
    cases hlookup : state.replacements.lookup serial with
    | none => rfl
    | some replacement =>
      exact absurd (hfollows.replacement serial replacement hlookup).monitor (hmonitor serial)

/-- Dropping only takes workers away, and leaves the installed generation alone. -/
theorem mem_dropCurrent {worker : Worker} (hmem : worker ∈ state.dropCurrent.workers) :
    worker ∈ state.workers := by
  unfold State.dropCurrent at hmem
  split at hmem
  · unfold State.dropReplacement at hmem
    split at hmem
    · exact hmem
    · dsimp only at hmem
      split at hmem
      · have hlive := mem_of_mem_collect hmem
        exact (mem_abortGroup.mp (mem_abortGroup.mp (mem_abortGroup.mp
          (mem_abortGroup.mp hlive).1).1).1).1
      · have hlive := mem_of_mem_collect hmem
        exact hlive
  · exact hmem

/-- A new replacement, or the cleanup of the monitor, starts with nothing under construction. -/
theorem Contained.restart {next : State} (hcontained : Contained state)
    (hfollows : Follows state) (hnoLeak : NoLeak state.dropCurrent)
    (hcurrent : next.current = state.current) (hgenerations : next.generations = state.generations)
    (hcalls : next.calls = state.calls) (hworkers : next.workers = state.dropCurrent.workers)
    (hnone : ∀ serial replacement, next.replacements.lookup serial = some replacement →
      replacement.phase = .stopping .enter)
    (hmonitor : ∀ stop, next.monitor = .failing stop → stop = .enter) : Contained next := by
  obtain ⟨replacements, workers, hdrop, hempty⟩ := hfollows.dropCurrent_eq
  have hcurrentDrop : state.dropCurrent.current = state.current := by rw [hdrop]
  have hholds : ∀ generation, next.holds generation = true ↔ state.current = some generation := by
    intro generation
    rw [holds_iff, hcurrent, or_iff_left]
    rintro ⟨serial, replacement, hlookup, hgeneration⟩
    rw [hnone serial replacement hlookup] at hgeneration
    cases hgeneration
  refine ⟨fun worker hworker ↦ ?_, fun generation hheld ↦ ?_,
    fun serial replacement hlookup hearly ↦ ?_, fun worker hworker hgroup ↦ ?_, ?_,
    fun call generation hlookup ↦ ?_⟩
  · have hheld := hnoLeak worker (hworkers ▸ hworker)
    apply (hholds _).mpr
    rcases (holds_iff ..).mp hheld with hcurrent' | ⟨serial, replacement, hlookup, -⟩
    · exact hcurrentDrop.symm.trans hcurrent'
    · rw [hdrop, hempty] at hlookup
      cases hlookup
  · rw [hgenerations]
    exact hcontained.numbered generation ((holds_iff ..).mpr (.inl ((hholds _).mp hheld)))
  · rw [hnone serial replacement hlookup] at hearly
    cases hearly
  · rw [hworkers] at hworker
    exact hcurrent.trans (hcontained.discovery worker (mem_dropCurrent hworker) hgroup)
  · rintro stop (hfailing | ⟨serial, replacement, hlookup, hphase⟩)
    · rw [hmonitor stop hfailing]
      trivial
    · rw [hnone serial replacement hlookup] at hphase
      obtain rfl := Phase.stopping.inj hphase
      trivial
  · rw [hcalls] at hlookup
    rw [hgenerations]
    refine ⟨(hcontained.calls call generation hlookup).1, fun serial replacement hfound hbuilt ↦ ?_⟩
    rw [hnone serial replacement hfound] at hbuilt
    cases hbuilt

/-- A restart leaks only what the drop before it leaks. -/
theorem NoLeak.ofRestart {next : State} (hfollows : Follows state) (hnoLeak : NoLeak next)
    (hcurrent : next.current = state.current)
    (hworkers : next.workers = state.dropCurrent.workers)
    (hnone : ∀ serial replacement, next.replacements.lookup serial = some replacement →
      replacement.phase = .stopping .enter) : NoLeak state.dropCurrent := by
  obtain ⟨replacements, workers, hdrop, -⟩ := hfollows.dropCurrent_eq
  have hcurrentDrop : state.dropCurrent.current = state.current := by rw [hdrop]
  intro worker hworker
  refine (holds_iff ..).mpr (.inl ?_)
  rw [← hworkers] at hworker
  rcases (holds_iff ..).mp (hnoLeak worker hworker) with hsome | ⟨serial, replacement, hlookup, hgen⟩
  · rw [hcurrentDrop, ← hcurrent]
    exact hsome
  · rw [hnone serial replacement hlookup] at hgen
    cases hgen

end Drop

theorem replace_lookup {state : State} (hempty : ∀ serial, state.replacements.lookup serial = none)
    {owner : String} {serial : ℕ} {replacement : Replacement}
    (hlookup : (state.replace owner).replacements.lookup serial = some replacement) :
    replacement.phase = .stopping .enter := by
  simp only [State.replace, Table.lookup_insert, hempty] at hlookup
  split at hlookup
  · obtain rfl := Option.some.inj hlookup
    rfl
  · cases hlookup

theorem Follows.dropCurrent_lookup {state : State} (hfollows : Follows state) (serial : ℕ) :
    state.dropCurrent.replacements.lookup serial = none := by
  obtain ⟨replacements, workers, hdrop, hempty⟩ := hfollows.dropCurrent_eq
  rw [hdrop]
  exact hempty serial

theorem Follows.dropCurrent_same {state : State} (hfollows : Follows state) :
    state.dropCurrent.current = state.current ∧
      state.dropCurrent.generations = state.generations ∧
      state.dropCurrent.calls = state.calls := by
  obtain ⟨replacements, workers, hdrop, -⟩ := hfollows.dropCurrent_eq
  rw [hdrop]
  exact ⟨rfl, rfl, rfl⟩

theorem Contained.replace {state : State} (hcontained : Contained state)
    (hfollows : Follows state) (hnoLeak : NoLeak state.dropCurrent) (owner : String) :
    Contained (state.dropCurrent.replace owner) :=
  have ⟨hcurrent, hgenerations, hcalls⟩ := hfollows.dropCurrent_same
  hcontained.restart hfollows hnoLeak hcurrent hgenerations hcalls rfl
    (fun _ _ hlookup ↦ replace_lookup hfollows.dropCurrent_lookup hlookup)
    fun _ hmonitor ↦ by cases hmonitor

theorem Contained.streamLost {state : State} (hcontained : Contained state)
    (hfollows : Follows state) (hnoLeak : NoLeak state.dropCurrent) :
    Contained state.streamLost :=
  have ⟨hcurrent, hgenerations, hcalls⟩ := hfollows.dropCurrent_same
  hcontained.restart hfollows hnoLeak hcurrent hgenerations hcalls rfl
    (fun serial replacement hlookup ↦ by
      have hlookup' : state.dropCurrent.replacements.lookup serial = some replacement := hlookup
      rw [hfollows.dropCurrent_lookup] at hlookup'
      cases hlookup')
    fun _ hmonitor ↦ (Monitor.failing.inj hmonitor).symm

/-! ## Steps of a replacement -/

section Poll

variable {state : State} {serial : ℕ} {replacement : Replacement}

/-- A replacement that stops a generation has no generation of its own. -/
theorem Contained.stopReady (hcontained : Contained state) (hfollows : Follows state)
    (hlookup : state.replacements.lookup serial = some replacement) {stop : Stop}
    (hphase : replacement.phase = .stopping stop) : StopReady state stop where
  agrees := (hfollows.replacement serial replacement hlookup).stops stop hphase
  current worker hworker := by
    apply (hcontained.generation_of_worker hfollows hlookup hworker).resolve_right
    intro hbuilt
    rw [hphase] at hbuilt
    cases hbuilt
  cleared := hcontained.stops stop (.inr ⟨serial, replacement, hlookup, hphase⟩)

theorem Follows.generation_eq (hfollows : Follows state)
    (hlookup : state.replacements.lookup serial = some replacement) {generation : Option ℕ}
    (hphase : replacement.phase.generation = generation) (other : ℕ) (found : Replacement)
    (hfound : state.replacements.lookup other = some found) :
    found.phase.generation = generation := by
  rw [hfollows.found_eq hlookup hfound, hphase]

/-- The only replacement moves to another phase. -/
theorem holds_setPhase (hfollows : Follows state)
    (hlookup : state.replacements.lookup serial = some replacement) {next : State}
    {owner : String} {phase : Phase}
    (hreplacements : next.replacements = state.replacements.insert serial ⟨owner, phase⟩)
    (generation : ℕ) :
    next.holds generation = true ↔
      next.current = some generation ∨ phase.generation = some generation := by
  rw [holds_iff, hreplacements]
  refine or_congr_right ⟨?_, fun hgeneration ↦ ?_⟩
  · rintro ⟨other, found, hfound, hgeneration⟩
    obtain rfl := hfollows.found_inserted hlookup hfound
    exact hgeneration
  · exact ⟨serial, ⟨owner, phase⟩, by rw [Table.lookup_insert, if_pos rfl], hgeneration⟩

/-- Nothing is being stopped while the replacement builds. -/
theorem Follows.not_inStop (hfollows : Follows state)
    (hlookup : state.replacements.lookup serial = some replacement) {next : State}
    {owner : String} {phase : Phase} (hmonitor : next.monitor = state.monitor)
    (hreplacements : next.replacements = state.replacements.insert serial ⟨owner, phase⟩)
    (hphase : phase.isStopping = false) (stop : Stop) : ¬InStop next stop := by
  rintro (hfailing | ⟨other, found, hfound, hstopping⟩)
  · rw [hmonitor, (hfollows.replacement serial replacement hlookup).monitor] at hfailing
    cases hfailing
  · rw [hreplacements] at hfound
    obtain rfl := hfollows.found_inserted hlookup hfound
    rw [show phase = .stopping stop from hstopping] at hphase
    cases hphase

/-- A phase without a new generation keeps the calls as they are. -/
theorem CallsHoldBuilt.setPhase (hbuilt : CallsHoldBuilt state) (hfollows : Follows state)
    (hlookup : state.replacements.lookup serial = some replacement) {next : State}
    {owner : String} {phase : Phase} (hcalls : next.calls = state.calls)
    (hgenerations : next.generations = state.generations)
    (hreplacements : next.replacements = state.replacements.insert serial ⟨owner, phase⟩)
    (hphase : ∀ generation, phase.generation = some generation →
      replacement.phase.generation = some generation) : CallsHoldBuilt next := by
  intro call generation hcall
  rw [hcalls] at hcall
  obtain ⟨hnumber, hfree⟩ := hbuilt call generation hcall
  refine ⟨hgenerations ▸ hnumber, fun other found hfound hgeneration ↦ ?_⟩
  rw [hreplacements] at hfound
  obtain rfl := hfollows.found_inserted hlookup hfound
  exact hfree serial replacement hlookup (hphase generation hgeneration)

/-- The replacement starts a generation in a world without workers. -/
theorem Contained.startBuilding (hbuilt : CallsHoldBuilt state) (hfollows : Follows state)
    (hlookup : state.replacements.lookup serial = some replacement) {stopped : State}
    (hsame : SameRecovery state stopped) (hcurrent : stopped.current = none)
    (hempty : ∀ worker, worker ∉ stopped.workers) (owner : String) :
    Contained (stopped.startBuilding serial owner) := by
  have hnext : (stopped.startBuilding serial owner).replacements =
      state.replacements.insert serial ⟨owner, .opening stopped.generations⟩ := by
    rw [← hsame.replacements]
    rfl
  refine Contained.ofEmpty hempty (fun generation hheld ↦ ?_)
    (hfollows.not_inStop hlookup hsame.monitor hnext rfl) fun call generation hcall ↦ ?_
  · rcases (holds_setPhase hfollows hlookup hnext generation).mp hheld with hsome | hnew
    · cases hcurrent.symm.trans hsome
    · obtain rfl := Option.some.inj hnew
      exact Nat.lt_succ_self _
  · have hcall' : stopped.calls.lookup call = some generation := hcall
    rw [hsame.calls] at hcall'
    have hnumber : generation < stopped.generations := by
      rw [hsame.generations]
      exact (hbuilt call generation hcall').1
    refine ⟨Nat.lt_succ_of_lt hnumber, fun other found hfound hgeneration ↦ ?_⟩
    rw [hnext] at hfound
    obtain rfl := hfollows.found_inserted hlookup hfound
    exact Nat.ne_of_gt hnumber (Option.some.inj hgeneration)

/-- A failed attempt leaves no worker, and the replacement pauses. -/
theorem Contained.retry (hbuilt : CallsHoldBuilt state) (hfollows : Follows state)
    (hlookup : state.replacements.lookup serial = some replacement)
    (hphase : replacement.phase.isStopping = false) {next : State} {owner : String}
    (hreplacements : next.replacements = state.replacements.insert serial ⟨owner, .retrying⟩)
    (hcurrent : next.current = state.current) (hmonitor : next.monitor = state.monitor)
    (hgenerations : next.generations = state.generations) (hcalls : next.calls = state.calls)
    (hempty : ∀ worker, worker ∉ next.workers) : Contained next := by
  refine Contained.ofEmpty hempty (fun generation hheld ↦ ?_)
    (hfollows.not_inStop hlookup hmonitor hreplacements rfl)
    (hbuilt.setPhase hfollows hlookup hcalls hgenerations hreplacements nofun)
  rcases (holds_setPhase hfollows hlookup hreplacements generation).mp hheld with hsome | hnone
  · rw [hcurrent, ((hfollows.replacement serial replacement hlookup).builds hphase).current]
      at hsome
    cases hsome
  · cases hnone

theorem complete_lookup (hfollows : Follows state)
    (hlookup : state.replacements.lookup serial = some replacement) {next : State}
    (hreplacements : next.replacements = state.replacements) (other : ℕ) :
    (next.complete serial).replacements.lookup other = none := by
  simp only [State.complete, hreplacements]
  exact hfollows.erased hlookup other

/-- The generation under construction becomes the installed one, with its workers. -/
theorem Contained.install (hcontained : Contained state) (hfollows : Follows state)
    (hlookup : state.replacements.lookup serial = some replacement) {generation : ℕ}
    (hphase : replacement.phase = .lockingAgent generation) :
    Contained (state.install serial generation) := by
  have hnone : ∀ other, (state.install serial generation).replacements.lookup other = none :=
    complete_lookup hfollows hlookup rfl
  have hholds : ∀ other, (state.install serial generation).holds other = true ↔
      generation = other := by
    intro other
    rw [holds_iff, or_iff_left]
    · exact Option.some_inj
    · rintro ⟨found, replacement', hfound, -⟩
      rw [hnone] at hfound
      cases hfound
  have hbuilding : replacement.phase.isStopping = false := by rw [hphase]; rfl
  have hworkers : ∀ worker ∈ (state.install serial generation).workers,
      worker.generation = generation ∧ (worker ∈ state.workers ∨
        worker = ⟨generation, .changeForwarder⟩) := by
    intro worker hworker
    rcases TaskPool.mem_spawn.mp hworker with rfl | hold
    · exact ⟨rfl, .inr rfl⟩
    · have hgeneration := hcontained.building hfollows hlookup hbuilding hold
      rw [hphase] at hgeneration
      exact ⟨(Option.some.inj hgeneration).symm, .inl hold⟩
  refine ⟨fun worker hworker ↦ (hholds _).mpr (hworkers worker hworker).1.symm,
    fun other hheld ↦ ?_, fun other found hfound ↦ ?_,
    fun worker hworker _ ↦ congrArg some (hworkers worker hworker).1.symm, ?_,
    fun call other hcall ↦ ⟨(hcontained.calls call other hcall).1, fun found _ hfound ↦ ?_⟩⟩
  · obtain rfl := (hholds other).mp hheld
    refine hcontained.numbered generation ((holds_iff ..).mpr (.inr ?_))
    exact ⟨serial, replacement, hlookup, by rw [hphase]; rfl⟩
  · rw [hnone] at hfound
    cases hfound
  · rintro stop (hfailing | ⟨other, found, hfound, -⟩)
    · cases hfailing
    · rw [hnone] at hfound
      cases hfound
  · rw [hnone] at hfound
    cases hfound

theorem Phase.build_kinds {phase next : Phase} {reply : Reply} {kinds : List Kind}
    (hbuild : phase.build reply = some (next, kinds)) :
    (∀ kind ∈ kinds, kind.group ≠ .discovery) ∧ (next.isEarly = true → kinds = []) ∧
      (next.isEarly = true → phase.isEarly = true) := by
  unfold Phase.build at hbuild
  split at hbuild
  case h_10 => cases hbuild
  all_goals
    obtain ⟨rfl, rfl⟩ := Prod.mk.inj (Option.some.inj hbuild)
    refine ⟨fun kind hkind ↦ ?_, by simp [Phase.isEarly], by simp [Phase.isEarly]⟩
  case h_2 registered =>
    cases registered <;> simp at hkind
    · rw [hkind]
      nofun
    · rcases hkind with rfl | rfl <;> nofun
  case h_9 devices =>
    rcases List.mem_append.mp hkind with hreconnect | hmonitor
    · rw [(List.mem_replicate.mp hreconnect).2]
      nofun
    · simp at hmonitor
      rcases hmonitor with rfl | rfl | rfl <;> nofun
  all_goals
    simp at hkind
  all_goals
    rcases hkind with rfl | rfl <;> nofun

theorem Contained.build (hcontained : Contained state) (hfollows : Follows state)
    (hlookup : state.replacements.lookup serial = some replacement) {owner : String}
    {phase : Phase} {reply : Reply} {kinds : List Kind}
    (hbuild : replacement.phase.build reply = some (phase, kinds)) :
    Contained (state.build serial owner phase kinds) := by
  obtain ⟨generation, hfrom, hto⟩ := Phase.build_generation hbuild
  obtain ⟨hkinds, hnoKinds, hearly⟩ := Phase.build_kinds hbuild
  have hbuilding := Phase.isStopping_of_generation hfrom
  have hholds := holds_setPhase hfollows hlookup
    (rfl : (state.build serial owner phase kinds).replacements = _)
  have hworkers : ∀ worker ∈ (state.build serial owner phase kinds).workers,
      worker.generation = generation ∧
        (worker ∈ state.workers ∨ worker.kind ∈ kinds) := by
    intro worker hworker
    rcases TaskPool.mem_spawnAll.mp hworker with hnew | hold
    · rw [hto] at hnew
      obtain ⟨kind, hkind, rfl⟩ : ∃ kind ∈ kinds, Worker.mk generation kind = worker := by
        simpa using hnew
      exact ⟨rfl, .inr hkind⟩
    · have hgeneration := hcontained.building hfollows hlookup hbuilding hold
      exact ⟨Option.some.inj (hgeneration.symm.trans hfrom), .inl hold⟩
  refine ⟨fun worker hworker ↦ ?_, fun other hheld ↦ ?_,
    fun other found hfound hfoundEarly worker hworker ↦ ?_, fun worker hworker hgroup ↦ ?_,
    fun stop hstop ↦ ?_, hcontained.calls.setPhase hfollows hlookup rfl rfl rfl
      fun other hother ↦ hfrom.trans (hto.symm.trans hother)⟩
  · rw [hholds, (hworkers worker hworker).1]
    exact .inr hto
  · rcases (hholds other).mp hheld with hcurrent | hnew
    · exact hcontained.numbered other ((holds_iff ..).mpr (.inl hcurrent))
    · obtain rfl := Option.some.inj (hto.symm.trans hnew)
      exact hcontained.numbered generation
        ((holds_iff ..).mpr (.inr ⟨serial, replacement, hlookup, hfrom⟩))
  · obtain rfl := hfollows.found_inserted hlookup hfound
    rcases (hworkers worker hworker).2 with hold | hkind
    · have hnot := hcontained.early serial replacement hlookup (hearly hfoundEarly) worker hold
      exact absurd (hcontained.building hfollows hlookup hbuilding hold) hnot
    · rw [hnoKinds hfoundEarly] at hkind
      cases hkind
  · rcases (hworkers worker hworker).2 with hold | hkind
    · exact hcontained.discovery worker hold hgroup
    · exact absurd hgroup (hkinds _ hkind)
  · have hidle := @Follows.not_inStop _ _ _ hfollows hlookup
      (state.build serial owner phase kinds) owner phase rfl rfl
      (Phase.isStopping_of_generation hto)
    exact absurd hstop (hidle stop)

/-- One step of `stop_generation`, taken by the replacement or by the monitor. -/
theorem StopReady.contained {next : State} {stop : Stop} (hready : StopReady next stop)
    (hnone : ∀ serial replacement, next.replacements.lookup serial = some replacement →
      replacement.phase = .stopping stop)
    (hmonitor : ∀ other, next.monitor = .failing other → other = stop)
    (hnumbered : ∀ generation, next.current = some generation → generation < next.generations)
    (hcalls : ∀ call generation, next.calls.lookup call = some generation →
      generation < next.generations) : Contained next := by
  refine ⟨fun worker hworker ↦ ?_, fun generation hheld ↦ ?_,
    fun serial replacement hlookup hearly ↦ ?_, fun worker hworker _ ↦ hready.current worker hworker,
    ?_, fun call generation hcall ↦ ⟨hcalls call generation hcall, fun serial replacement hlookup ↦ ?_⟩⟩
  · exact (holds_iff ..).mpr (.inl (hready.current worker hworker))
  · rcases (holds_iff ..).mp hheld with hcurrent | ⟨serial, replacement, hlookup, hbuilt⟩
    · exact hnumbered generation hcurrent
    · rw [hnone serial replacement hlookup] at hbuilt
      cases hbuilt
  · rw [hnone serial replacement hlookup] at hearly
    cases hearly
  · rintro other (hfailing | ⟨serial, replacement, hlookup, hphase⟩)
    · rw [hmonitor other hfailing]
      exact hready.cleared
    · rw [hnone serial replacement hlookup] at hphase
      obtain rfl := Phase.stopping.inj hphase
      exact hready.cleared
  · rw [hnone serial replacement hlookup]
    nofun

theorem stopStep_current {state : State} {stop : Stop} {generation : ℕ}
    (hcurrent : (state.stopStep stop).1.current = some generation) :
    state.current = some generation := by
  cases stop with
  | enter => exact hcurrent
  | shutdown previous stage => exact (shutdownStage_current state previous stage).symm.trans hcurrent
  | take => cases hcurrent
  | takeAgent => exact hcurrent

/-- One more step of `stop_generation`, with the next one still to come. -/
theorem Contained.stopping (hcontained : Contained state) (hfollows : Follows state)
    (hlookup : state.replacements.lookup serial = some replacement) {stop later : Stop}
    (hphase : replacement.phase = .stopping stop)
    (hlingers : stop = .take → ∀ worker ∈ state.workers, state.lingers worker = false)
    {stopped : State} (hstep : state.stopStep stop = (stopped, some later)) :
    Contained (stopped.setPhase serial replacement.owner (.stopping later)) := by
  have hready := hcontained.stopReady hfollows hlookup hphase
  have hnoGeneration := hfollows.generation_eq hlookup
    (show replacement.phase.generation = none by rw [hphase]; rfl)
  have hlater := hready.step hnoGeneration hlingers (congrArg Prod.snd hstep)
  have hsame := stopStep_same state stop
  rw [hstep] at hlater hsame
  have hset : StopReady (stopped.setPhase serial replacement.owner (.stopping later)) later := by
    refine ⟨?_, hlater.current, ?_⟩
    · cases later <;> exact hlater.agrees
    · cases later <;> exact hlater.cleared
  refine hset.contained (fun other found hfound ↦ ?_) (fun other hfailing ↦ ?_)
    (fun generation hsome ↦ ?_) fun call generation hcall ↦ ?_
  · have hinserted : (state.replacements.insert serial
        ⟨replacement.owner, .stopping later⟩).lookup other = some found := by
      rw [← hsame.replacements]
      exact hfound
    obtain rfl := hfollows.found_inserted hlookup hinserted
    rfl
  · have hdriving : stopped.monitor = .failing other := hfailing
    rw [hsame.monitor, (hfollows.replacement serial replacement hlookup).monitor] at hdriving
    cases hdriving
  · have hcurrent : (state.stopStep stop).1.current = some generation := by
      rw [hstep]
      exact hsome
    have hlt := hcontained.numbered generation
      ((holds_iff ..).mpr (.inl (stopStep_current hcurrent)))
    rw [← hsame.generations] at hlt
    exact hlt
  · have hcall' : stopped.calls.lookup call = some generation := hcall
    rw [hsame.calls] at hcall'
    have hlt := (hcontained.calls call generation hcall').1
    rw [← hsame.generations] at hlt
    exact hlt

/-- After the last step of `stop_generation` nothing runs and nothing is installed. -/
theorem Contained.stopped (hcontained : Contained state) (hfollows : Follows state)
    (hlookup : state.replacements.lookup serial = some replacement) {stop : Stop}
    (hphase : replacement.phase = .stopping stop) {stopped : State}
    (hstep : state.stopStep stop = (stopped, none)) :
    SameRecovery state stopped ∧ stopped.current = none ∧
      ∀ worker, worker ∉ stopped.workers := by
  have hready := hcontained.stopReady hfollows hlookup hphase
  have hdone := hready.done (congrArg Prod.snd hstep)
  have hcurrent := current_of_stopStep hready.agrees (congrArg Prod.snd hstep)
  have hsame := stopStep_same state stop
  rw [hstep] at hdone hcurrent hsame
  exact ⟨hsame, hcurrent, hdone⟩

theorem Contained.poll {next : State} {reply : Reply} (hcontained : Contained state)
    (hfollows : Follows state)
    (hlookup : state.replacements.lookup serial = some replacement)
    (hpoll : state.poll serial replacement.owner replacement.phase reply = some next)
    (htakes : TakesCleanly state (.poll serial reply)) : Contained next := by
  have hempty : replacement.phase.generation = none → replacement.phase.isStopping = false →
      ∀ worker, worker ∉ state.workers := by
    intro hgeneration hbuilding worker hworker
    have hsome := hcontained.building hfollows hlookup hbuilding hworker
    rw [hgeneration] at hsome
    cases hsome
  unfold State.poll at hpoll
  split at hpoll
  · next stop hphase =>
    split at hpoll
    · next stopped later hstep =>
      obtain rfl := Option.some.inj hpoll
      refine hcontained.stopping hfollows hlookup hphase (fun htake ↦ htakes ?_) hstep
      simp [State.takes, hlookup, hphase, htake]
    · next stopped hstep =>
      obtain ⟨hsame, hcurrent, hdone⟩ := hcontained.stopped hfollows hlookup hphase hstep
      split at hpoll <;> obtain rfl := Option.some.inj hpoll
      · have hnone := complete_lookup hfollows hlookup hsame.replacements
        refine Contained.ofEmpty hdone (fun generation hheld ↦ ?_) ?_ fun call generation hcall ↦ ?_
        · rcases (holds_iff ..).mp hheld with hsome | ⟨other, found, hfound, -⟩
          · cases hcurrent.symm.trans hsome
          · rw [hnone] at hfound
            cases hfound
        · rintro stop (hfailing | ⟨other, found, hfound, -⟩)
          · cases hfailing
          · rw [hnone] at hfound
            cases hfound
        · have hcall' : stopped.calls.lookup call = some generation := hcall
          rw [hsame.calls] at hcall'
          have hlt := (hcontained.calls call generation hcall').1
          rw [← hsame.generations] at hlt
          refine ⟨hlt, fun other found hfound ↦ ?_⟩
          rw [hnone] at hfound
          cases hfound
      · exact Contained.startBuilding hcontained.calls hfollows hlookup hsame hcurrent hdone _
  · next hphase =>
    obtain rfl := Option.some.inj hpoll
    exact Contained.startBuilding hcontained.calls hfollows hlookup
      ⟨rfl, rfl, rfl, rfl, rfl, rfl, rfl, rfl, rfl⟩
      ((hfollows.replacement serial replacement hlookup).builds (by rw [hphase]; rfl)).current
      (hempty (by rw [hphase]; rfl) (by rw [hphase]; rfl)) _
  · next generation hphase =>
    obtain rfl := Option.some.inj hpoll
    have hbuilding : replacement.phase.isStopping = false := by rw [hphase]; rfl
    refine Contained.retry hcontained.calls hfollows hlookup hbuilding rfl rfl rfl rfl rfl
      fun worker hworker ↦ ?_
    exact hcontained.early serial replacement hlookup (by rw [hphase]; rfl) worker hworker
      (hcontained.building hfollows hlookup hbuilding hworker)
  · next generation hphase =>
    obtain rfl := Option.some.inj hpoll
    obtain ⟨workers, hdrop⟩ := dropCandidate_eq state generation
    have hnone := hcontained.dropCandidate hfollows hlookup (by rw [hphase]; rfl) state rfl
    rw [hdrop] at hnone ⊢
    refine Contained.retry hcontained.calls hfollows hlookup (by rw [hphase]; rfl) rfl rfl rfl rfl
      rfl fun worker hworker ↦ ?_
    have hlive := mem_of_mem_collect hworker
    exact hnone worker hlive
  · next generation hphase =>
    obtain rfl := Option.some.inj hpoll
    exact hcontained.install hfollows hlookup hphase
  · obtain ⟨⟨phase, kinds⟩, hbuild, rfl⟩ := Option.map_eq_some_iff.mp hpoll
    exact hcontained.build hfollows hlookup hbuild

end Poll

/-! ## Every step -/

theorem Contained.cleanup {state next : State} {stop later : Stop} (hcontained : Contained state)
    (hfollows : Follows state) (hmonitor : state.monitor = .failing stop)
    (htakes : TakesCleanly state .cleanup) (hstep : state.stopStep stop = (next, some later)) :
    Contained { next with monitor := .failing later } := by
  have hnone : ∀ serial, state.replacements.lookup serial = none := by
    intro serial
    cases hlookup : state.replacements.lookup serial with
    | none => rfl
    | some replacement =>
      have hdriving := (hfollows.replacement serial replacement hlookup).monitor
      rw [hmonitor] at hdriving
      cases hdriving
  have hready : StopReady state stop := by
    refine ⟨hfollows.failing stop hmonitor, fun worker hworker ↦ ?_,
      hcontained.stops stop (.inl hmonitor)⟩
    rcases (holds_iff ..).mp (hcontained.noLeak worker hworker) with
      hcurrent | ⟨serial, replacement, hlookup, -⟩
    · exact hcurrent
    · rw [hnone] at hlookup
      cases hlookup
  have hsame := stopStep_same state stop
  have hlater := hready.step (fun serial replacement hlookup ↦ by
    rw [hnone] at hlookup
    cases hlookup) (fun htake ↦ htakes (by simp [State.takes, hmonitor, htake]))
    (congrArg Prod.snd hstep)
  have hnumbered : ∀ generation, (state.stopStep stop).1.current = some generation →
      generation < (state.stopStep stop).1.generations := fun generation hsome ↦ by
    rw [hsame.generations]
    exact hcontained.numbered generation ((holds_iff ..).mpr (.inl (stopStep_current hsome)))
  have hcalls : ∀ call generation, (state.stopStep stop).1.calls.lookup call = some generation →
      generation < (state.stopStep stop).1.generations := fun call generation hcall ↦ by
    rw [hsame.calls] at hcall
    rw [hsame.generations]
    exact (hcontained.calls call generation hcall).1
  rw [hstep] at hsame hlater hnumbered hcalls
  have hset : StopReady { next with monitor := .failing later } later := by
    refine ⟨?_, hlater.current, ?_⟩
    · cases later <;> exact hlater.agrees
    · cases later <;> exact hlater.cleared
  refine hset.contained (fun other found hfound ↦ ?_)
    (fun other hfailing ↦ (Monitor.failing.inj hfailing).symm) hnumbered hcalls
  have hfound' : next.replacements.lookup other = some found := hfound
  rw [hsame.replacements, hnone] at hfound'
  cases hfound'

theorem Contained.done {state next : State} {stop : Stop} (hcontained : Contained state)
    (hfollows : Follows state) (hmonitor : state.monitor = .failing stop)
    (hstep : state.stopStep stop = (next, none)) :
    Contained { next with monitor := .sleeping } := by
  have hsame := stopStep_same state stop
  rw [hstep] at hsame
  have hstop : stop = .takeAgent := by
    cases stop <;> first | rfl | cases congrArg Prod.snd hstep
  subst hstop
  obtain rfl : { state with agent := none } = next := congrArg Prod.fst hstep
  refine ⟨hcontained.noLeak, hcontained.numbered, hcontained.early, hcontained.discovery, ?_,
    hcontained.calls⟩
  rintro stop (hfailing | ⟨serial, replacement, hlookup, -⟩)
  · cases hfailing
  · have hdriving := (hfollows.replacement serial replacement hlookup).monitor
    rw [hmonitor] at hdriving
    cases hdriving

theorem Contained.wake {state : State} (hcontained : Contained state) (hfollows : Follows state)
    (hmonitor : state.monitor = .sleeping) : Contained { state with monitor := .setup } := by
  refine ⟨hcontained.noLeak, hcontained.numbered, hcontained.early, hcontained.discovery, ?_,
    hcontained.calls⟩
  rintro stop (hfailing | ⟨serial, replacement, hlookup, -⟩)
  · cases hfailing
  · have hdriving := (hfollows.replacement serial replacement hlookup).monitor
    rw [hmonitor] at hdriving
    cases hdriving

/-- A monitor that does not drive has nothing to drop. -/
theorem dropCurrent_of_setup {state : State} (hmonitor : state.monitor = .setup) :
    state.dropCurrent = state := by
  rw [State.dropCurrent, hmonitor]

theorem Contained.step {state next : State} {action : Action} (hcontained : Contained state)
    (hfollows : Follows state) (hstep : recovery.step state action = some next)
    (hreleased : Released state action) : Contained next := by
  cases action with
  | subscribed present =>
    simp only [recovery] at hstep
    split at hstep
    · next hmonitor =>
      obtain rfl := Option.some.inj hstep
      have hsame := dropCurrent_of_setup hmonitor
      have hreplace := hcontained.replace hfollows (by rw [hsame]; exact hcontained.noLeak)
        (if present then "initial" else "")
      rwa [hsame] at hreplace
    · cases hstep
  | setupFailed =>
    simp only [recovery] at hstep
    split at hstep
    · next hmonitor =>
      obtain rfl := Option.some.inj hstep
      exact hcontained.streamLost hfollows
        (by rw [dropCurrent_of_setup hmonitor]; exact hcontained.noLeak)
    · cases hstep
  | ownerChanged name old new =>
    simp only [recovery] at hstep
    split at hstep
    · obtain rfl := Option.some.inj hstep
      unfold State.ownerChanged
      split
      · exact hcontained
      · next hchange =>
        have hdrops : (Action.ownerChanged name old new).drops = true := by
          simpa [Action.drops] using hchange
        exact hcontained.replace hfollows
          ((noLeak_dropCurrent_iff hcontained hfollows hdrops).mpr hreleased.1) new
    · cases hstep
  | streamLost =>
    simp only [recovery] at hstep
    split at hstep
    · obtain rfl := Option.some.inj hstep
      exact hcontained.streamLost hfollows
        ((noLeak_dropCurrent_iff hcontained hfollows (rfl : Action.streamLost.drops = true)).mpr
          hreleased.1)
    · cases hstep
  | poll serial reply =>
    obtain ⟨replacement, hlookup, hpoll⟩ := Option.bind_eq_some_iff.mp hstep
    exact hcontained.poll hfollows hlookup hpoll hreleased.2.1
  | cleanup =>
    simp only [recovery] at hstep
    split at hstep
    · next stop hmonitor =>
      split at hstep <;> obtain rfl := Option.some.inj hstep
      · next hstop => exact hcontained.cleanup hfollows hmonitor hreleased.2.1 hstop
      · next hstop => exact hcontained.done hfollows hmonitor hstop
    · cases hstep
  | wake =>
    simp only [recovery] at hstep
    split at hstep
    · next hmonitor =>
      obtain rfl := Option.some.inj hstep
      exact hcontained.wake hfollows hmonitor
    · cases hstep
  | spawns parent kind =>
    obtain ⟨worker, hparent, hspawn⟩ := Option.bind_eq_some_iff.mp hstep
    split at hspawn
    · next hspawns =>
      obtain rfl := Option.some.inj hspawn
      exact hcontained.spawns (TaskPool.mem_iff.mpr ⟨parent, hparent⟩) hspawns
    · cases hspawn
  | finishes serial =>
    obtain ⟨worker, -, rfl⟩ := Option.map_eq_some_iff.mp hstep
    exact hcontained.finish serial worker
  | call =>
    obtain ⟨generation, hbackend, rfl⟩ := Option.map_eq_some_iff.mp hstep
    exact hcontained.enter hfollows (toOption_eq_some hbackend)
  | startDiscovery call adapter reply =>
    obtain ⟨generation, hcall, rfl⟩ := Option.map_eq_some_iff.mp hstep
    exact hcontained.startDiscovery hfollows hcall hreleased.2.2
  | stopDiscovery call adapter =>
    obtain ⟨generation, hcall, rfl⟩ := Option.map_eq_some_iff.mp hstep
    exact hcontained.stopDiscovery hcall hreleased.2.2
  | notePairing call =>
    obtain ⟨generation, hcall, rfl⟩ := Option.map_eq_some_iff.mp hstep
    exact hcontained.notePairing hcall hreleased.2.2
  | returns call =>
    obtain ⟨-, -, rfl⟩ := Option.map_eq_some_iff.mp hstep
    exact hcontained.leave call

/-! ## What the absence of a leak says about the step -/

/-- A drop that leaves no leak was clean. -/
theorem DropsCleanly.ofNoLeak {state next : State} {action : Action}
    (hcontained : Contained state) (hfollows : Follows state)
    (hstep : recovery.step state action = some next) (hnoLeak : NoLeak next) :
    DropsCleanly state action := by
  cases hdrops : action.drops with
  | false => exact fun htrue ↦ by cases hdrops.symm.trans htrue
  | true =>
    apply (noLeak_dropCurrent_iff hcontained hfollows hdrops).mp
    have hcurrent := hfollows.dropCurrent_same.1
    cases action with
    | ownerChanged name old new =>
      simp only [recovery] at hstep
      split at hstep
      · obtain rfl := Option.some.inj hstep
        have hchange : ¬(name ≠ "org.bluez" ∨ old = new) := by simpa [Action.drops] using hdrops
        rw [State.ownerChanged, if_neg hchange] at hnoLeak
        exact hnoLeak.ofRestart hfollows hcurrent rfl
          fun _ _ hlookup ↦ replace_lookup hfollows.dropCurrent_lookup hlookup
      · cases hstep
    | streamLost =>
      simp only [recovery] at hstep
      split at hstep
      · obtain rfl := Option.some.inj hstep
        apply hnoLeak.ofRestart hfollows hcurrent rfl
        intro serial replacement hlookup
        have hlookup' : state.dropCurrent.replacements.lookup serial = some replacement := hlookup
        rw [hfollows.dropCurrent_lookup] at hlookup'
        cases hlookup'
      · cases hstep
    | _ => cases hdrops

/-- A worker that lingers is still there after the generation was taken. -/
theorem mem_take_of_lingers {state : State} {worker : Worker} (hworker : worker ∈ state.workers)
    (hlingers : state.lingers worker = true) : worker ∈ (state.stopStep .take).1.workers := by
  refine (TaskPool.mem_collect _ _ _).mpr ⟨hworker, ?_⟩
  rcases Bool.or_eq_true_iff.mp hlingers with hlate | htimer
  · refine .inr ⟨worker, hworker, ?_⟩
    cases hkind : worker.kind <;>
      simp_all [Kind.isLate, Worker.keeps, Kind.keeps, Kind.group]
  · have hcalls : state.inFlight worker.generation = true := (Bool.and_eq_true_iff.mp htimer).2
    exact .inl (Bool.or_eq_true_iff.mpr (.inr hcalls))

/-- A generation that is taken without a leak leaves no lingering worker. -/
theorem TakesCleanly.ofNoLeak {state next : State} {action : Action} (hfollows : Follows state)
    (hstep : recovery.step state action = some next) (hnoLeak : NoLeak next) :
    TakesCleanly state action := by
  intro htakes worker hworker
  refine Bool.eq_false_iff.mpr fun hlingers ↦ ?_
  have hleft := mem_take_of_lingers hworker hlingers
  cases action with
  | poll serial reply =>
    obtain ⟨replacement, hlookup, hpoll⟩ := Option.bind_eq_some_iff.mp hstep
    have hphase : replacement.phase = .stopping .take := by
      simpa [State.takes, hlookup] using htakes
    rw [hphase] at hpoll
    cases reply with
    | ready =>
      obtain rfl := Option.some.inj hpoll
      have hheld := (holds_setPhase hfollows hlookup rfl worker.generation).mp
        (hnoLeak worker hleft)
      rcases hheld with hcurrent | hgeneration
      · cases hcurrent
      · cases hgeneration
    | failed => cases hpoll
    | requests registered => cases hpoll
    | reconnects devices => cases hpoll
  | cleanup =>
    have hmonitor : state.monitor = .failing .take := by simpa [State.takes] using htakes
    simp only [recovery, hmonitor, State.stopStep] at hstep
    obtain rfl := Option.some.inj hstep
    rcases (holds_iff ..).mp (hnoLeak worker hleft) with hcurrent | ⟨serial, replacement, hlookup, -⟩
    · cases hcurrent
    · have hdriving := (hfollows.replacement serial replacement hlookup).monitor
      rw [hmonitor] at hdriving
      cases hdriving
  | _ => cases htakes

/-- A held generation that a call holds is the installed one. -/
theorem Contained.current_of_holds {state : State} {call generation : ℕ}
    (hcontained : Contained state) (hcall : state.calls.lookup call = some generation)
    (hheld : state.holds generation = true) : state.current = some generation := by
  refine ((holds_iff ..).mp hheld).resolve_right ?_
  rintro ⟨serial, replacement, hlookup, hgeneration⟩
  exact (hcontained.calls call generation hcall).2 serial replacement hlookup hgeneration

/-- A call that starts a worker without a leak serves the installed generation. -/
theorem ServesInstalled.ofNoLeak {state next : State} {action : Action}
    (hcontained : Contained state) (hstep : recovery.step state action = some next)
    (hnoLeak : NoLeak next) : ServesInstalled state action := by
  intro generation hserves
  cases action with
  | startDiscovery call adapter reply =>
    obtain ⟨hcall, hstarts⟩ := Option.filter_eq_some_iff.mp hserves
    simp only [recovery, hcall, Option.map_some] at hstep
    obtain rfl := Option.some.inj hstep
    let started : Worker := ⟨generation, .discovery adapter (state.drained.contains generation)⟩
    refine hcontained.current_of_holds hcall (hnoLeak started ?_)
    rw [State.startDiscovery, if_pos hstarts]
    exact TaskPool.mem_spawn.mpr (.inl rfl)
  | stopDiscovery call adapter =>
    obtain ⟨hcall, hstops⟩ := Option.filter_eq_some_iff.mp hserves
    simp only [recovery, hcall, Option.map_some] at hstep
    obtain rfl := Option.some.inj hstep
    refine hcontained.current_of_holds hcall (hnoLeak ⟨generation, .cacheExpiry⟩ ?_)
    simp only [State.stopDiscovery, hstops, if_true]
    exact TaskPool.mem_spawn.mpr (.inl rfl)
  | notePairing call =>
    have hcall : state.calls.lookup call = some generation := hserves
    simp only [recovery, hcall, Option.map_some] at hstep
    obtain rfl := Option.some.inj hstep
    exact hcontained.current_of_holds hcall
      (hnoLeak ⟨generation, .fastPairPairingWindow⟩ (TaskPool.mem_spawn.mpr (.inl rfl)))
  | _ => cases hserves

/-- In every run, no worker is ever left behind exactly when no replacement is dropped while a
provider it has started, and nothing else owns yet, still has a worker, no call starts a worker in
a generation that is not installed any more, and no generation is taken while one of its late
discovery tasks runs, or one of its timers and a call. -/
theorem always_noLeakedWorker_iff {actions : List Action} {final : State}
    (hrun : recovery.run State.init actions = some final) :
    recovery.Always NoLeak State.init actions ↔ recovery.Meets Released State.init actions :=
  recovery.always_iff_meets (fun state (hinvariant : Follows state ∧ Contained state) ↦
      hinvariant.2.noLeak)
    (fun state action next hinvariant hstep hreleased ↦
      ⟨Follows.step state action next hinvariant.1 hstep,
        hinvariant.2.step hinvariant.1 hstep hreleased⟩)
    (fun _ _ _ ⟨hfollows, hcontained⟩ hstep hnoLeak ↦
      ⟨.ofNoLeak hcontained hfollows hstep hnoLeak, .ofNoLeak hfollows hstep hnoLeak,
        .ofNoLeak hcontained hstep hnoLeak⟩)
    ⟨follows_init, contained_init⟩ hrun

/-- A replacement is built and superseded before its session is open, and the next one is
installed. A call starts discovery and is still in flight when the owner goes away; it returns
after its generation was taken. -/
def retiringRun : List Action :=
  ([.subscribed true, .poll 1 .ready, .poll 1 .ready, .poll 1 .ready,
    .ownerChanged "org.bluez" ":1.7" ":1.9"] : List Action) ++ buildReplies.map (Action.poll 2) ++
    ([.call, .startDiscovery 0 "hci0" ⟨.ok (), .ok true, .ok ()⟩,
      .ownerChanged "org.bluez" ":1.9" ""] : List Action) ++
    List.replicate 3 (Action.poll 3 .ready) ++ [Action.finishes 12] ++
    List.replicate 5 (Action.poll 3 .ready) ++ [Action.returns 0]

theorem always_noLeak_of_retiringRun : recovery.Always NoLeak State.init retiringRun :=
  (always_noLeakedWorker_iff (by rfl : recovery.run State.init retiringRun = some _)).mpr (by decide)

/-- The owner changes while Sony starts, after Fast Pair has started its two workers. -/
def startupDropRun : List Action :=
  [.subscribed true, .poll 1 .ready, .poll 1 .ready, .poll 1 .ready, .poll 1 .ready,
    .poll 1 (.requests true), .ownerChanged "org.bluez" ":1.7" ":1.9"]

/-- A call gets the installed generation and starts discovery after it was retired. -/
def lateCallRun : List Action :=
  [Action.subscribed true] ++ buildReplies.map (Action.poll 1) ++
    ([.call, .ownerChanged "org.bluez" ":1.7" ""] : List Action) ++
    List.replicate 8 (Action.poll 2 .ready) ++
    ([.startDiscovery 0 "hci0" ⟨.ok (), .ok true, .ok ()⟩, .returns 0] : List Action)

theorem not_always_noLeak_of_startupDropRun :
    ((recovery.run State.init startupDropRun).isSome ∧
      ¬recovery.Always NoLeak State.init startupDropRun) ∧
    (recovery.run State.init lateCallRun).isSome ∧
      ¬recovery.Always NoLeak State.init lateCallRun := by
  decide

end BtDaemon.Bluez.Recovery
