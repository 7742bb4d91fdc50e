import BtDaemon.Bluez.Recovery

/-!
# Recovery follows the newest owner

The one replacement that exists was created for the owner that was received last. It builds a
generation only while none is installed and after every installed one has been shut down, and
what `current` returns was built by the replacement of the last owner.
-/

namespace BtDaemon.Bluez.Recovery

open Transition

/-- What a run of `stop_generation` has done before the step it is at. -/
def Stop.Agrees (state : State) : Stop → Prop
  | .enter => True
  | .shutdown previous _ => state.current = some previous
  | .take => ∀ generation, state.current = some generation → generation ∈ state.closed
  | .takeAgent => state.current = none

def Phase.isStopping : Phase → Bool
  | .stopping _ => true
  | _ => false

/-- While a replacement builds, nothing is installed and its owner is not empty. -/
structure Builds (state : State) (serial : ℕ) (owner : String) (phase : Phase) : Prop where
  current : state.current = none
  owner : owner ≠ ""
  generation : ∀ generation, phase.generation = some generation →
    state.builtFor.lookup generation = some serial

structure Polled (state : State) (serial : ℕ) (replacement : Replacement) : Prop where
  monitor : state.monitor = .driving (some serial)
  latest : serial = state.received
  owner : replacement.owner = state.owner
  stops : ∀ stop, replacement.phase = .stopping stop → stop.Agrees state
  builds : replacement.phase.isStopping = false →
    Builds state serial replacement.owner replacement.phase

/-- The generation was built for the owner received last, which is not empty. -/
structure ServesLatest (state : State) (generation : ℕ) : Prop where
  builtFor : state.builtFor.lookup generation = some state.received
  owner : state.owner ≠ ""
  agent : state.agent = some generation

/-- Every generation that was installed before has been shut down. -/
def Closed (state : State) : Prop :=
  ∀ generation ∈ state.installed, generation ∈ state.closed ∨ state.current = some generation

structure Follows (state : State) : Prop where
  replacement : ∀ serial replacement,
    state.replacements.lookup serial = some replacement → Polled state serial replacement
  failing : ∀ stop, state.monitor = .failing stop → stop.Agrees state
  idle : state.available = true → state.monitor = .driving none
  serving : state.available = true →
    ∀ generation, state.current = some generation → ServesLatest state generation
  closed : Closed state

theorem follows_init : Follows State.init where
  replacement serial replacement hlookup := by simp [State.init] at hlookup
  failing stop hmonitor := by cases hmonitor
  idle havailable := by cases havailable
  serving havailable := by cases havailable
  closed generation hmem := by cases hmem

/-! ## Steps that change workers only -/

/-- Neither the workers nor the calls of clients matter here. -/
theorem Follows.withWorkers {state : State} (hfollows : Follows state)
    (workers : TaskPool Worker) (discoveries : Table ℕ Discovery) (drained : List ℕ)
    (calls : Table ℕ ℕ) (called : ℕ) :
    Follows { state with
      workers := workers, discoveries := discoveries, drained := drained, calls := calls
      called := called } where
  replacement serial replacement hlookup :=
    have hpolled := hfollows.replacement serial replacement hlookup
    { hpolled with
      stops := fun stop hphase ↦ by
        have hagrees := hpolled.stops stop hphase
        cases stop <;> exact hagrees
      builds := fun hphase ↦ { hpolled.builds hphase with } }
  failing stop hmonitor := by
    have hagrees := hfollows.failing stop hmonitor
    cases stop <;> exact hagrees
  idle := hfollows.idle
  serving havailable generation hcurrent := { hfollows.serving havailable generation hcurrent with }
  closed := hfollows.closed

theorem Follows.finish {state : State} (hfollows : Follows state) (serial : ℕ)
    (worker : Worker) : Follows (state.finish serial worker) := by
  unfold State.finish
  split <;> exact hfollows.withWorkers _ _ state.drained state.calls state.called

/-! ## Dropping and creating replacements -/

theorem dropCandidate_eq (state : State) (generation : ℕ) :
    ∃ workers, state.dropCandidate generation = { state with workers := workers } :=
  ⟨_, rfl⟩

theorem dropReplacement_eq {state : State} {serial : ℕ} {replacement : Replacement}
    (hlookup : state.replacements.lookup serial = some replacement) :
    ∃ workers, state.dropReplacement serial =
      { state with replacements := state.replacements.erase serial, workers := workers } := by
  unfold State.dropReplacement
  rw [hlookup]
  dsimp only
  split <;> exact ⟨_, rfl⟩

/-- After `drive` has dropped its replacement none is left, and only the workers differ. -/
theorem Follows.dropCurrent_eq {state : State} (hfollows : Follows state) :
    ∃ replacements workers,
      state.dropCurrent = { state with replacements := replacements, workers := workers } ∧
        ∀ serial, replacements.lookup serial = none := by
  have hother : ∀ serial, state.monitor ≠ .driving (some serial) →
      state.replacements.lookup serial = none := by
    intro serial hmonitor
    cases hlookup : state.replacements.lookup serial with
    | none => rfl
    | some replacement =>
      exact absurd (hfollows.replacement serial replacement hlookup).monitor hmonitor
  unfold State.dropCurrent
  split
  · next serial hmonitor =>
    cases hlookup : state.replacements.lookup serial with
    | none =>
      refine ⟨state.replacements, state.workers, ?_, fun other ↦ ?_⟩
      · simp [State.dropReplacement, hlookup]
      · by_cases hserial : other = serial
        · rw [hserial, hlookup]
        · exact hother other (by rw [hmonitor]; simpa using Ne.symm hserial)
    | some replacement =>
      obtain ⟨workers, hdrop⟩ := dropReplacement_eq hlookup
      refine ⟨_, workers, hdrop, fun other ↦ ?_⟩
      rw [Table.lookup_erase]
      split
      · rfl
      · next hserial => exact hother other (by rw [hmonitor]; simpa using Ne.symm hserial)
  · next hmonitor => exact ⟨_, state.workers, rfl, fun serial ↦ hother serial (hmonitor serial)⟩

theorem Follows.replace {state : State} (hclosed : Closed state)
    (hnone : ∀ serial, state.replacements.lookup serial = none) (owner : String) :
    Follows (state.replace owner) where
  replacement serial replacement hlookup := by
    simp only [State.replace, Table.lookup_insert, hnone] at hlookup
    split at hlookup
    · next hserial =>
      obtain rfl := Option.some.inj hlookup
      subst hserial
      exact
        { monitor := rfl
          latest := rfl
          owner := rfl
          stops := fun stop hphase ↦ by
            obtain rfl := Phase.stopping.inj hphase
            trivial
          builds := fun hphase ↦ by cases hphase }
    · cases hlookup
  failing stop hmonitor := by cases hmonitor
  idle havailable := by cases havailable
  serving havailable := by cases havailable
  closed := hclosed

theorem Follows.ownerChanged {state : State} (hfollows : Follows state)
    (name old new : String) : Follows (state.ownerChanged name old new) := by
  unfold State.ownerChanged
  split
  · exact hfollows
  · obtain ⟨replacements, workers, hdrop, hnone⟩ := hfollows.dropCurrent_eq
    rw [hdrop]
    refine Follows.replace ?_ hnone new
    exact hfollows.closed

theorem Follows.streamLost {state : State} (hfollows : Follows state) :
    Follows state.streamLost := by
  obtain ⟨replacements, workers, hdrop, hnone⟩ := hfollows.dropCurrent_eq
  unfold State.streamLost
  rw [hdrop]
  exact
    { replacement := fun serial replacement hlookup ↦ by
        have hlookup' : replacements.lookup serial = some replacement := hlookup
        rw [hnone] at hlookup'
        cases hlookup'
      failing := fun stop hmonitor ↦ by
        obtain rfl := Monitor.failing.inj hmonitor
        trivial
      idle := fun havailable ↦ by cases havailable
      serving := fun havailable ↦ by cases havailable
      closed := hfollows.closed }

/-! ## Stopping the installed generation -/

/-- What `stop_generation` leaves alone. -/
structure SameRecovery (before after : State) : Prop where
  available : after.available = before.available
  monitor : after.monitor = before.monitor
  replacements : after.replacements = before.replacements
  owner : after.owner = before.owner
  received : after.received = before.received
  generations : after.generations = before.generations
  builtFor : after.builtFor = before.builtFor
  installed : after.installed = before.installed
  calls : after.calls = before.calls

theorem shutdownStage_same (state : State) (previous : ℕ) (stage : Stage) :
    SameRecovery state (state.shutdownStage previous stage) := by
  cases stage <;> exact ⟨rfl, rfl, rfl, rfl, rfl, rfl, rfl, rfl, rfl⟩

theorem shutdownStage_current (state : State) (previous : ℕ) (stage : Stage) :
    (state.shutdownStage previous stage).current = state.current := by
  cases stage <;> rfl

theorem mem_closed_shutdownStage (state : State) (previous : ℕ) (stage : Stage)
    (generation : ℕ) :
    generation ∈ (state.shutdownStage previous stage).closed ↔
      generation ∈ state.closed ∨ (stage = .maestro ∧ generation = previous) := by
  cases stage <;> simp [State.shutdownStage, State.abortGroup, State.stopDiscovery]

theorem stopStep_same (state : State) (stop : Stop) :
    SameRecovery state (state.stopStep stop).1 := by
  cases stop with
  | enter => exact ⟨rfl, rfl, rfl, rfl, rfl, rfl, rfl, rfl, rfl⟩
  | shutdown previous stage => exact shutdownStage_same state previous stage
  | take => exact ⟨rfl, rfl, rfl, rfl, rfl, rfl, rfl, rfl, rfl⟩
  | takeAgent => exact ⟨rfl, rfl, rfl, rfl, rfl, rfl, rfl, rfl, rfl⟩

/-- The generation stays installed until its shutdown has returned. -/
theorem Closed.stopStep {state : State} {stop : Stop} (hclosed : Closed state)
    (hagrees : stop.Agrees state) : Closed (state.stopStep stop).1 := by
  cases stop with
  | enter => exact hclosed
  | shutdown previous stage =>
    intro generation hmem
    have hmem' : generation ∈ state.installed :=
      (shutdownStage_same state previous stage).installed ▸ hmem
    rcases hclosed generation hmem' with hin | hcurrent
    · exact .inl ((mem_closed_shutdownStage ..).mpr (.inl hin))
    · exact .inr ((shutdownStage_current ..).trans hcurrent)
  | take =>
    intro generation hmem
    rcases hclosed generation hmem with hin | hcurrent
    · exact .inl hin
    · exact .inl (hagrees generation hcurrent)
  | takeAgent => exact hclosed

theorem agrees_of_stopStep {state : State} {stop later : Stop} (hagrees : stop.Agrees state)
    (hstep : (state.stopStep stop).2 = some later) : later.Agrees (state.stopStep stop).1 := by
  cases stop with
  | enter =>
    obtain rfl := Option.some.inj hstep
    cases hcurrent : state.current with
    | some previous => exact hcurrent
    | none =>
      intro generation hsome
      cases hcurrent.symm.trans hsome
  | shutdown previous stage =>
    obtain rfl := Option.some.inj hstep
    have hcurrent : (state.shutdownStage previous stage).current = some previous :=
      (shutdownStage_current ..).trans hagrees
    cases stage with
    | maestro =>
      intro generation hsome
      obtain rfl := Option.some.inj (hcurrent.symm.trans hsome)
      exact (mem_closed_shutdownStage ..).mpr (.inr ⟨rfl, rfl⟩)
    | tasks => exact hcurrent
    | discovery => exact hcurrent
    | fastPair => exact hcurrent
    | sony => exact hcurrent
  | take =>
    obtain rfl := Option.some.inj hstep
    rfl
  | takeAgent => cases hstep

/-- `stop_generation` returns with nothing installed. -/
theorem current_of_stopStep {state : State} {stop : Stop} (hagrees : stop.Agrees state)
    (hstep : (state.stopStep stop).2 = none) : (state.stopStep stop).1.current = none := by
  cases stop with
  | enter => cases hstep
  | shutdown previous stage => cases hstep
  | take => cases hstep
  | takeAgent => exact hagrees

/-! ## Steps of a replacement -/

section Poll

variable {state : State} {serial : ℕ} {replacement : Replacement}

theorem Polled.unavailable (hpolled : Polled state serial replacement)
    (hfollows : Follows state) : state.available = false := by
  cases havailable : state.available with
  | false => rfl
  | true =>
    have hmonitor := hpolled.monitor.symm.trans (hfollows.idle havailable)
    cases hmonitor

/-- A step keeps everything when the replacement it writes back is as the next state has it. -/
theorem Follows.ofReplacement {next : State} (phase : Phase)
    (hpolled : Polled state serial replacement) (hfollows : Follows state)
    (havailable : next.available = state.available) (hmonitor : next.monitor = state.monitor)
    (hreplacements : next.replacements =
      state.replacements.insert serial ⟨replacement.owner, phase⟩)
    (howner : next.owner = state.owner) (hreceived : next.received = state.received)
    (hclosed : Closed next) (hstops : ∀ stop, phase = .stopping stop → stop.Agrees next)
    (hbuilds : phase.isStopping = false → Builds next serial replacement.owner phase) :
    Follows next where
  replacement other found hlookup := by
    rw [hreplacements, Table.lookup_insert_eq_some] at hlookup
    rcases hlookup with ⟨hserial, rfl⟩ | ⟨hserial, hlookup⟩
    · subst hserial
      exact
        { monitor := hmonitor.trans hpolled.monitor
          latest := hpolled.latest.trans hreceived.symm
          owner := hpolled.owner.trans howner.symm
          stops := hstops
          builds := hbuilds }
    · have hother := (hfollows.replacement other found hlookup).monitor
      rw [hpolled.monitor] at hother
      exact absurd (Option.some.inj (Monitor.driving.inj hother)).symm hserial
  failing stop hfailing := by
    rw [hmonitor, hpolled.monitor] at hfailing
    cases hfailing
  idle htrue := by
    rw [havailable, hpolled.unavailable hfollows] at htrue
    cases htrue
  serving htrue := by
    rw [havailable, hpolled.unavailable hfollows] at htrue
    cases htrue
  closed := hclosed

/-- A replacement that returns leaves none behind. -/
theorem Follows.complete (hpolled : Polled state serial replacement) (hfollows : Follows state)
    {next : State} (hreplacements : next.replacements = state.replacements)
    (hserving : next.available = true →
      ∀ generation, next.current = some generation → ServesLatest next generation)
    (hclosed : Closed next) : Follows (next.complete serial) where
  replacement other found hlookup := by
    rw [State.complete, hreplacements, Table.lookup_erase_eq_some] at hlookup
    obtain ⟨hserial, hlookup⟩ := hlookup
    have hother := (hfollows.replacement other found hlookup).monitor
    rw [hpolled.monitor] at hother
    exact absurd (Option.some.inj (Monitor.driving.inj hother)).symm hserial
  failing stop hfailing := by cases hfailing
  idle _ := rfl
  serving havailable generation hcurrent := { hserving havailable generation hcurrent with }
  closed := hclosed

/-- A new generation is numbered and recorded for the replacement that builds it. -/
theorem Follows.startBuilding (hpolled : Polled state serial replacement)
    (hfollows : Follows state) {next : State} (hsame : SameRecovery state next)
    (hcurrent : next.current = none) (howner : replacement.owner ≠ "") (hclosed : Closed next) :
    Follows (next.startBuilding serial replacement.owner) := by
  refine Follows.ofReplacement (.opening next.generations) hpolled hfollows
    hsame.available hsame.monitor ?_ hsame.owner hsame.received hclosed
    (fun stop hphase ↦ by cases hphase) fun _ ↦ ⟨hcurrent, howner, ?_⟩
  · rw [← hsame.replacements]
    rfl
  · intro generation hgeneration
    obtain rfl := Option.some.inj hgeneration
    rw [State.startBuilding, Table.lookup_insert, if_pos rfl]

/-- A failure while building leaves the replacement in its pause. -/
theorem Follows.retry (hpolled : Polled state serial replacement) (hfollows : Follows state)
    (hbuilding : replacement.phase.isStopping = false) :
    Follows (state.setPhase serial replacement.owner .retrying) := by
  have hbuilds := hpolled.builds hbuilding
  refine Follows.ofReplacement .retrying hpolled hfollows rfl rfl rfl rfl rfl hfollows.closed
    (fun stop hstop ↦ by cases hstop) fun _ ↦ ⟨hbuilds.current, hbuilds.owner, ?_⟩
  intro generation hgeneration
  cases hgeneration

theorem Follows.install {generation : ℕ} (hpolled : Polled state serial replacement)
    (hfollows : Follows state) (hphase : replacement.phase = .lockingAgent generation) :
    Follows (state.install serial generation) := by
  have hbuilds := hpolled.builds (by rw [hphase]; rfl)
  refine Follows.complete hpolled hfollows rfl (fun _ other hcurrent ↦ ?_) fun other hmem ↦ ?_
  · obtain rfl := Option.some.inj hcurrent
    have hbuilt := hbuilds.generation generation (by rw [hphase]; rfl)
    exact ⟨hpolled.latest ▸ hbuilt, hpolled.owner ▸ hbuilds.owner, rfl⟩
  · rcases List.mem_append.mp hmem with hbefore | hnew
    · rcases hfollows.closed other hbefore with hin | hcurrent
      · exact .inl hin
      · rw [hbuilds.current] at hcurrent
        cases hcurrent
    · exact .inr (congrArg some (List.mem_singleton.mp hnew).symm)

end Poll

/-- A building step stays with its generation. -/
theorem Phase.build_generation {phase next : Phase} {reply : Reply} {kinds : List Kind}
    (hbuild : phase.build reply = some (next, kinds)) :
    ∃ generation, phase.generation = some generation ∧ next.generation = some generation := by
  unfold Phase.build at hbuild
  split at hbuild
  case h_10 => cases hbuild
  all_goals
    obtain ⟨rfl, -⟩ := Prod.mk.inj (Option.some.inj hbuild)
    exact ⟨_, rfl, rfl⟩

theorem Phase.isStopping_of_generation {phase : Phase} {generation : ℕ}
    (hgeneration : phase.generation = some generation) : phase.isStopping = false := by
  cases phase <;> first | rfl | cases hgeneration

theorem Follows.poll {state next : State} {serial : ℕ} {replacement : Replacement}
    {reply : Reply} (hfollows : Follows state)
    (hlookup : state.replacements.lookup serial = some replacement)
    (hpoll : state.poll serial replacement.owner replacement.phase reply = some next) :
    Follows next := by
  have hpolled := hfollows.replacement serial replacement hlookup
  unfold State.poll at hpoll
  split at hpoll
  · next stop hphase =>
    have hagrees := hpolled.stops stop hphase
    have hsame := stopStep_same state stop
    have hclosed := hfollows.closed.stopStep hagrees
    split at hpoll
    · next stopped later hstep =>
      obtain rfl := Option.some.inj hpoll
      have hlater : later.Agrees stopped := by
        have h := agrees_of_stopStep hagrees (congrArg Prod.snd hstep)
        rwa [hstep] at h
      rw [hstep] at hsame hclosed
      refine Follows.ofReplacement (.stopping later) hpolled hfollows hsame.available
        hsame.monitor (by rw [← hsame.replacements]; rfl) hsame.owner hsame.received hclosed
        (fun found hfound ↦ ?_) fun hstopping ↦ by cases hstopping
      obtain rfl := Phase.stopping.inj hfound
      cases later <;> exact hlater
    · next stopped hstep =>
      have hcurrent : stopped.current = none := by
        have h := current_of_stopStep hagrees (congrArg Prod.snd hstep)
        rwa [hstep] at h
      rw [hstep] at hsame hclosed
      split at hpoll <;> obtain rfl := Option.some.inj hpoll
      · refine Follows.complete hpolled hfollows hsame.replacements (fun _ generation hsome ↦ ?_)
          hclosed
        rw [hcurrent] at hsome
        cases hsome
      · next howner => exact Follows.startBuilding hpolled hfollows hsame hcurrent howner hclosed
  · next hphase =>
    obtain rfl := Option.some.inj hpoll
    have hbuilds := hpolled.builds (by rw [hphase]; rfl)
    exact Follows.startBuilding hpolled hfollows ⟨rfl, rfl, rfl, rfl, rfl, rfl, rfl, rfl, rfl⟩
      hbuilds.current hbuilds.owner hfollows.closed
  · next generation hphase =>
    obtain rfl := Option.some.inj hpoll
    exact Follows.retry hpolled hfollows (by rw [hphase]; rfl)
  · next generation hphase =>
    obtain rfl := Option.some.inj hpoll
    obtain ⟨workers, hdrop⟩ := dropCandidate_eq state generation
    rw [hdrop]
    have hretry := Follows.retry hpolled hfollows (by rw [hphase]; rfl)
    exact hretry.withWorkers _ state.discoveries state.drained state.calls state.called
  · next generation hphase =>
    obtain rfl := Option.some.inj hpoll
    exact Follows.install hpolled hfollows hphase
  · obtain ⟨⟨phase, kinds⟩, hbuild, rfl⟩ := Option.map_eq_some_iff.mp hpoll
    obtain ⟨generation, hfrom, hto⟩ := Phase.build_generation hbuild
    have hbuilds := hpolled.builds (Phase.isStopping_of_generation hfrom)
    refine Follows.ofReplacement phase hpolled hfollows rfl rfl rfl rfl rfl
      hfollows.closed (fun stop hstop ↦ ?_) fun _ ↦ ⟨hbuilds.current, hbuilds.owner, ?_⟩
    · rw [hstop] at hto
      cases hto
    · intro other hother
      obtain rfl := Option.some.inj (hto.symm.trans hother)
      exact hbuilds.generation generation hfrom

/-! ## Every step -/

theorem Follows.cleanup {state : State} {stop : Stop} (hfollows : Follows state)
    (hmonitor : state.monitor = .failing stop) :
    Follows { (state.stopStep stop).1 with
      monitor := match (state.stopStep stop).2 with
        | some later => .failing later
        | none => .sleeping } := by
  have hagrees := hfollows.failing stop hmonitor
  have hsame := stopStep_same state stop
  have hbusy : state.available ≠ true := fun htrue ↦ by
    have hidle := hmonitor.symm.trans (hfollows.idle htrue)
    cases hidle
  refine
    { replacement := fun serial replacement hlookup ↦ ?_
      failing := fun found hfound ↦ ?_
      idle := fun htrue ↦ absurd (hsame.available.symm.trans htrue) hbusy
      serving := fun htrue ↦ absurd (hsame.available.symm.trans htrue) hbusy
      closed := hfollows.closed.stopStep hagrees }
  · have hlookup' : (state.stopStep stop).1.replacements.lookup serial = some replacement :=
      hlookup
    rw [hsame.replacements] at hlookup'
    have hdriving := (hfollows.replacement serial replacement hlookup').monitor
    rw [hmonitor] at hdriving
    cases hdriving
  · cases hlater : (state.stopStep stop).2 with
    | none =>
      simp only [hlater] at hfound
      cases hfound
    | some later =>
      simp only [hlater] at hfound
      obtain rfl := Monitor.failing.inj hfound
      have hnext := agrees_of_stopStep hagrees hlater
      cases later <;> exact hnext

theorem Follows.wake {state : State} (hfollows : Follows state)
    (hmonitor : state.monitor = .sleeping) : Follows { state with monitor := .setup } where
  replacement serial replacement hlookup := by
    have hdriving := (hfollows.replacement serial replacement hlookup).monitor
    rw [hmonitor] at hdriving
    cases hdriving
  failing stop hfailing := by cases hfailing
  idle havailable := by
    have hidle := hmonitor.symm.trans (hfollows.idle havailable)
    cases hidle
  serving havailable generation hcurrent := { hfollows.serving havailable generation hcurrent with }
  closed := hfollows.closed

theorem Follows.step (state : State) (action : Action) (next : State) (hfollows : Follows state)
    (hstep : recovery.step state action = some next) : Follows next := by
  cases action with
  | subscribed present =>
    simp only [recovery] at hstep
    split at hstep
    · next hmonitor =>
      obtain rfl := Option.some.inj hstep
      refine Follows.replace hfollows.closed (fun serial ↦ ?_) _
      cases hlookup : state.replacements.lookup serial with
      | none => rfl
      | some replacement =>
        have hdriving := (hfollows.replacement serial replacement hlookup).monitor
        rw [hmonitor] at hdriving
        cases hdriving
    · cases hstep
  | setupFailed =>
    simp only [recovery] at hstep
    split at hstep
    · obtain rfl := Option.some.inj hstep
      exact hfollows.streamLost
    · cases hstep
  | ownerChanged name old new =>
    simp only [recovery] at hstep
    split at hstep
    · obtain rfl := Option.some.inj hstep
      exact hfollows.ownerChanged name old new
    · cases hstep
  | streamLost =>
    simp only [recovery] at hstep
    split at hstep
    · obtain rfl := Option.some.inj hstep
      exact hfollows.streamLost
    · cases hstep
  | poll serial reply =>
    obtain ⟨replacement, hlookup, hpoll⟩ := Option.bind_eq_some_iff.mp hstep
    exact hfollows.poll hlookup hpoll
  | cleanup =>
    simp only [recovery] at hstep
    split at hstep
    · next stop hmonitor =>
      have hcleanup := hfollows.cleanup hmonitor
      split at hstep <;> obtain rfl := Option.some.inj hstep <;>
        · next hstop =>
          rw [hstop] at hcleanup
          exact hcleanup
    · cases hstep
  | wake =>
    simp only [recovery] at hstep
    split at hstep
    · next hmonitor =>
      obtain rfl := Option.some.inj hstep
      exact hfollows.wake hmonitor
    · cases hstep
  | spawns parent kind =>
    obtain ⟨worker, -, hspawn⟩ := Option.bind_eq_some_iff.mp hstep
    split at hspawn
    · obtain rfl := Option.some.inj hspawn
      exact hfollows.withWorkers _ state.discoveries state.drained state.calls state.called
    · cases hspawn
  | finishes serial =>
    obtain ⟨worker, -, rfl⟩ := Option.map_eq_some_iff.mp hstep
    exact hfollows.finish serial worker
  | call =>
    obtain ⟨generation, -, rfl⟩ := Option.map_eq_some_iff.mp hstep
    exact hfollows.withWorkers state.workers state.discoveries state.drained _ _
  | startDiscovery call adapter reply | stopDiscovery call adapter | notePairing call
  | returns call =>
    obtain ⟨generation, -, rfl⟩ := Option.map_eq_some_iff.mp hstep
    exact hfollows.withWorkers _ _ state.drained _ state.called

/-! ## Runs -/

/-- The owner of `org.bluez` that an action reports to the recovery task. Signals about other
names, and those that report no change, are none. -/
def Action.receives : Action → Option String
  | .subscribed present => some (if present then "initial" else "")
  | .ownerChanged name old new => if name ≠ "org.bluez" ∨ old = new then none else some new
  | _ => none

/-- The owners received in the course of a run, oldest first. -/
def owners (actions : List Action) : List String := actions.filterMap Action.receives

theorem dropCurrent_received (state : State) :
    state.dropCurrent.received = state.received ∧ state.dropCurrent.owner = state.owner := by
  unfold State.dropCurrent
  split
  · next serial _ =>
    cases hlookup : state.replacements.lookup serial with
    | none => simp [State.dropReplacement, hlookup]
    | some replacement =>
      obtain ⟨workers, hdrop⟩ := dropReplacement_eq hlookup
      rw [hdrop]
      exact ⟨rfl, rfl⟩
  · exact ⟨rfl, rfl⟩

theorem poll_received {state next : State} {serial : ℕ} {owner : String} {phase : Phase}
    {reply : Reply} (hpoll : state.poll serial owner phase reply = some next) :
    next.received = state.received ∧ next.owner = state.owner := by
  unfold State.poll at hpoll
  split at hpoll
  · next stop =>
    have hsame := stopStep_same state stop
    split at hpoll
    · next stopped later hstep =>
      rw [hstep] at hsame
      obtain rfl := Option.some.inj hpoll
      exact ⟨hsame.received, hsame.owner⟩
    · next stopped hstep =>
      rw [hstep] at hsame
      split at hpoll <;> obtain rfl := Option.some.inj hpoll <;>
        exact ⟨hsame.received, hsame.owner⟩
  · obtain rfl := Option.some.inj hpoll
    exact ⟨rfl, rfl⟩
  · obtain rfl := Option.some.inj hpoll
    exact ⟨rfl, rfl⟩
  · next generation =>
    obtain rfl := Option.some.inj hpoll
    obtain ⟨workers, hdrop⟩ := dropCandidate_eq state generation
    rw [hdrop]
    exact ⟨rfl, rfl⟩
  · obtain rfl := Option.some.inj hpoll
    exact ⟨rfl, rfl⟩
  · obtain ⟨built, -, rfl⟩ := Option.map_eq_some_iff.mp hpoll
    exact ⟨rfl, rfl⟩

/-- One step records exactly the owner it receives. -/
theorem received_step {state next : State} {action : Action}
    (hstep : recovery.step state action = some next) :
    next.received = state.received + (owners [action]).length ∧
      next.owner = (owners [action]).getLastD state.owner := by
  cases action with
  | subscribed present =>
    simp only [recovery] at hstep
    split at hstep
    · obtain rfl := Option.some.inj hstep
      exact ⟨rfl, rfl⟩
    · cases hstep
  | setupFailed =>
    simp only [recovery] at hstep
    split at hstep
    · obtain rfl := Option.some.inj hstep
      exact dropCurrent_received state
    · cases hstep
  | ownerChanged name old new =>
    simp only [recovery] at hstep
    split at hstep
    · obtain rfl := Option.some.inj hstep
      unfold State.ownerChanged
      by_cases hignored : name ≠ "org.bluez" ∨ old = new
      · rw [if_pos hignored]
        simp [owners, Action.receives, hignored]
      · rw [if_neg hignored]
        have howners : owners [.ownerChanged name old new] = [new] := by
          simp [owners, Action.receives, hignored]
        rw [howners]
        exact ⟨congrArg (· + 1) (dropCurrent_received state).1, rfl⟩
    · cases hstep
  | streamLost =>
    simp only [recovery] at hstep
    split at hstep
    · obtain rfl := Option.some.inj hstep
      exact dropCurrent_received state
    · cases hstep
  | poll serial reply =>
    obtain ⟨replacement, -, hpoll⟩ := Option.bind_eq_some_iff.mp hstep
    exact poll_received hpoll
  | cleanup =>
    simp only [recovery] at hstep
    split at hstep
    · next stop _ =>
      have hsame := stopStep_same state stop
      split at hstep <;> obtain rfl := Option.some.inj hstep <;>
        · next hstop =>
          rw [hstop] at hsame
          exact ⟨hsame.received, hsame.owner⟩
    · cases hstep
  | wake =>
    simp only [recovery] at hstep
    split at hstep
    · obtain rfl := Option.some.inj hstep
      exact ⟨rfl, rfl⟩
    · cases hstep
  | spawns parent kind =>
    obtain ⟨worker, -, hspawn⟩ := Option.bind_eq_some_iff.mp hstep
    split at hspawn
    · obtain rfl := Option.some.inj hspawn
      exact ⟨rfl, rfl⟩
    · cases hspawn
  | finishes serial =>
    obtain ⟨worker, -, rfl⟩ := Option.map_eq_some_iff.mp hstep
    unfold State.finish
    split <;> exact ⟨rfl, rfl⟩
  | call | startDiscovery | stopDiscovery | notePairing | returns =>
    obtain ⟨generation, -, rfl⟩ := Option.map_eq_some_iff.mp hstep
    exact ⟨rfl, rfl⟩

theorem owners_cons (action : Action) (rest : List Action) :
    owners (action :: rest) = owners [action] ++ owners rest := by
  rw [owners, ← List.singleton_append, List.filterMap_append]
  rfl

theorem received_run {state final : State} {actions : List Action}
    (hrun : recovery.run state actions = some final) :
    final.received = state.received + (owners actions).length ∧
      final.owner = (owners actions).getLastD state.owner := by
  induction actions generalizing state with
  | nil =>
    obtain rfl := Option.some.inj hrun
    exact ⟨rfl, rfl⟩
  | cons action rest ih =>
    obtain ⟨next, hstep, hrest⟩ := (recovery.run_cons_eq_some).mp hrun
    obtain ⟨hreceived, howner⟩ := received_step hstep
    obtain ⟨hfinal, hlast⟩ := ih hrest
    rw [owners_cons]
    constructor
    · rw [hfinal, hreceived, List.length_append, Nat.add_assoc]
    · rw [hlast, howner]
      rcases List.eq_nil_or_concat (owners rest) with hnil | ⟨front, newest, hlast⟩
      · simp [hnil]
      · simp [hlast, ← List.append_assoc]

/-- What the recovery task promises after the given actions. Replacements are numbered by the
owners received: the latest one has the number of all of them. -/
structure FollowsNewest (actions : List Action) (state : State) : Prop where
  single : ∀ first second, state.replacements.lookup first ≠ none →
    state.replacements.lookup second ≠ none → first = second
  /-- Only the replacement of the newest owner makes a step. -/
  steps : ∀ serial reply next, recovery.step state (.poll serial reply) = some next →
    serial = (owners actions).length
  current : ∀ generation, state.currentBackend = .ok generation →
    state.builtFor.lookup generation = some (owners actions).length ∧
      ∃ owner ∈ (owners actions).getLast?, owner ≠ ""
  /-- While a generation is built, every one installed before has been shut down. -/
  building : ∀ serial replacement generation,
    state.replacements.lookup serial = some replacement →
    replacement.phase.generation = some generation →
    ∀ earlier ∈ state.installed, earlier ∈ state.closed

theorem currentBackend_eq_ok {state : State} {generation : ℕ}
    (hcurrent : state.currentBackend = .ok generation) :
    state.available = true ∧ state.current = some generation := by
  unfold State.currentBackend at hcurrent
  split at hcurrent
  · next havailable hsome =>
    obtain rfl := Except.ok.inj hcurrent
    exact ⟨havailable, hsome⟩
  · cases hcurrent

/-- In every run of the recovery task, the backend follows the owner that was received last. -/
theorem followsNewest_of_run {actions : List Action} {final : State}
    (hrun : recovery.run State.init actions = some final) : FollowsNewest actions final := by
  have hfollows : Follows final := recovery.run_invariant Follows.step follows_init hrun
  obtain ⟨hreceived, howner⟩ := received_run hrun
  have hcount : final.received = (owners actions).length :=
    hreceived.trans (Nat.zero_add _)
  refine
    { single := fun first second hfirst hsecond ↦ ?_
      steps := fun serial reply next hstep ↦ ?_
      current := fun generation hcurrent ↦ ?_
      building := fun serial replacement generation hlookup hgeneration earlier hinstalled ↦ ?_ }
  · obtain ⟨one, hone⟩ := Option.ne_none_iff_exists'.mp hfirst
    obtain ⟨two, htwo⟩ := Option.ne_none_iff_exists'.mp hsecond
    exact (hfollows.replacement first one hone).latest.trans
      (hfollows.replacement second two htwo).latest.symm
  · obtain ⟨replacement, hlookup, -⟩ := Option.bind_eq_some_iff.mp hstep
    exact (hfollows.replacement serial replacement hlookup).latest.trans hcount
  · obtain ⟨havailable, hsome⟩ := currentBackend_eq_ok hcurrent
    have hserves := hfollows.serving havailable generation hsome
    refine ⟨hcount ▸ hserves.builtFor, ?_⟩
    have hnonempty := hserves.owner
    rw [howner, List.getLastD_eq_getLast?] at hnonempty
    cases hlast : (owners actions).getLast? with
    | none =>
      rw [hlast] at hnonempty
      exact absurd rfl hnonempty
    | some owner =>
      rw [hlast] at hnonempty
      exact ⟨owner, rfl, hnonempty⟩
  · have hpolled := hfollows.replacement serial replacement hlookup
    have hbuilds := hpolled.builds (Phase.isStopping_of_generation hgeneration)
    rcases hfollows.closed earlier hinstalled with hclosed | hcurrent
    · exact hclosed
    · rw [hbuilds.current] at hcurrent
      cases hcurrent

/-- The answers that take a replacement with nothing to stop to its installation. -/
def buildReplies : List Reply :=
  [.ready, .ready, .ready, .ready, .requests true, .ready, .ready, .ready, .reconnects 1, .ready]

/-- The first replacement is superseded while it builds, the second is installed. -/
def supersedingRun : List Action :=
  ([.subscribed true, .poll 1 .ready, .poll 1 .ready, .poll 1 .ready, .poll 1 .ready,
    .ownerChanged "org.freedesktop.login1" "" ":1.4", .ownerChanged "org.bluez" ":1.7" ":1.7",
    .ownerChanged "org.bluez" ":1.7" ":1.9"] : List Action) ++ buildReplies.map (Action.poll 2)

theorem followsNewest_of_supersedingRun :
    ∃ final, recovery.run State.init supersedingRun = some final ∧
      final.currentBackend = .ok 1 ∧ FollowsNewest supersedingRun final :=
  ⟨_, rfl, rfl, followsNewest_of_run rfl⟩

end BtDaemon.Bluez.Recovery
