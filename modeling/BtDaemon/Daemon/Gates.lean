import BtDaemon.Foundation.Table
import BtDaemon.Foundation.Transition

/-!
# The gate table

A gate is a mutex that serializes the mutations of one key. The table holds gates weakly: a gate
lives as long as a task has it, and the next task of the key makes a new one. One `mutation_gate`
holds the lock of the table from its sweep to the gate that it returns, but tasks drop their gates
without that lock, at any point of the sweep.

Which of the tasks that wait for a mutex is next is left open.
-/

namespace BtDaemon.Gates

/-- Where a task stands with the gate of its key. -/
inductive Phase
  | absent
  /-- It did not ask yet. -/
  | outside
  /-- It has the lock of the table, and `retain` has these keys to look at. -/
  | scanning (unvisited : List String)
  /-- It has the lock of the table and found no gate that lives. -/
  | creating
  /-- It has the gate and waits for the mutex. -/
  | waiting (gate : ℕ)
  | holding (gate : ℕ)
  /-- The guard is dropped and the gate is not. -/
  | leaving (gate : ℕ)
  | gone
  deriving DecidableEq

/-- The gate of which the task has an `Arc`. -/
def Phase.gate : Phase → Option ℕ
  | .waiting gate => some gate
  | .holding gate => some gate
  | .leaving gate => some gate
  | _ => none

/-- The task has the lock of the table. -/
def Phase.locked : Phase → Bool
  | .scanning _ => true
  | .creating => true
  | _ => false

structure State where
  /-- Every task that ever came, under its number. -/
  arrived : List ℕ
  key : ℕ → String
  phase : ℕ → Phase
  /-- `GATES`: the gate of a key, held weakly. -/
  gates : Table String ℕ
  /-- How many gates were made. -/
  made : ℕ

def init : State := ⟨[], fun _ ↦ "", fun _ ↦ .absent, ∅, 0⟩

inductive Action
  | arrive (task : ℕ) (key : String)
  | enter (task : ℕ)
  /-- `retain` looks at one entry. -/
  | visit (task : ℕ) (key : String)
  | upgrade (task : ℕ)
  | create (task : ℕ)
  | lock (task : ℕ)
  | unlock (task : ℕ)
  | drop (task : ℕ)
  /-- The future of a task that does not have the mutex is dropped. -/
  | abandon (task : ℕ)
  deriving DecidableEq

/-- `Weak::strong_count` -/
def strongCount (state : State) (gate : ℕ) : ℕ :=
  state.arrived.countP fun task ↦ (state.phase task).gate = some gate

def setPhase (state : State) (task : ℕ) (phase : Phase) : State :=
  { state with phase := Function.update state.phase task phase }

def visit (state : State) (key : String) : Table String ℕ :=
  match state.gates.lookup key with
  | some gate => if strongCount state gate > 0 then state.gates else state.gates.erase key
  | none => state.gates

/-- `gates.get(key).and_then(Weak::upgrade)` -/
def upgrade (state : State) (key : String) : Option ℕ :=
  (state.gates.lookup key).filter fun gate ↦ strongCount state gate > 0

def step (state : State) : Action → Option State
  | .arrive task key =>
    if task ∈ state.arrived then none
    else some { setPhase state task .outside with
      arrived := state.arrived ++ [task]
      key := Function.update state.key task key }
  | .enter task =>
    if state.phase task = .outside ∧ ∀ other ∈ state.arrived, (state.phase other).locked = false
    then some (setPhase state task (.scanning state.gates.keys)) else none
  | .visit task key =>
    match state.phase task with
    | .scanning unvisited =>
      if key ∈ unvisited then
        some { setPhase state task (.scanning (unvisited.erase key)) with gates := visit state key }
      else none
    | _ => none
  | .upgrade task =>
    if state.phase task = .scanning [] then
      match upgrade state (state.key task) with
      | some gate => some (setPhase state task (.waiting gate))
      | none => some (setPhase state task .creating)
    else none
  | .create task =>
    if state.phase task = .creating then
      some { setPhase state task (.waiting state.made) with
        gates := state.gates.insert (state.key task) state.made
        made := state.made + 1 }
    else none
  | .lock task =>
    match state.phase task with
    | .waiting gate =>
      if ∀ other ∈ state.arrived, state.phase other ≠ .holding gate then
        some (setPhase state task (.holding gate)) else none
    | _ => none
  | .unlock task =>
    match state.phase task with
    | .holding gate => some (setPhase state task (.leaving gate))
    | _ => none
  | .drop task =>
    match state.phase task with
    | .leaving _ => some (setPhase state task .gone)
    | _ => none
  | .abandon task =>
    match state.phase task with
    | .outside => some (setPhase state task .gone)
    | .waiting _ => some (setPhase state task .gone)
    | _ => none

/-- The steps, each from the phase that it needs to the one that it leads to. -/
inductive Steps (state : State) : Action → State → Prop
  | arrive {task : ℕ} {key : String} (hnew : task ∉ state.arrived) :
    Steps state (.arrive task key) { setPhase state task .outside with
      arrived := state.arrived ++ [task]
      key := Function.update state.key task key }
  | enter {task : ℕ} (houtside : state.phase task = .outside)
      (hfree : ∀ other ∈ state.arrived, (state.phase other).locked = false) :
    Steps state (.enter task) (setPhase state task (.scanning state.gates.keys))
  | visit {task : ℕ} {key : String} {unvisited : List String}
      (hscanning : state.phase task = .scanning unvisited) :
    Steps state (.visit task key)
      { setPhase state task (.scanning (unvisited.erase key)) with gates := visit state key }
  | found {task gate : ℕ} (hscanning : state.phase task = .scanning [])
      (hupgrade : upgrade state (state.key task) = some gate) :
    Steps state (.upgrade task) (setPhase state task (.waiting gate))
  | vacant {task : ℕ} (hscanning : state.phase task = .scanning [])
      (hupgrade : upgrade state (state.key task) = none) :
    Steps state (.upgrade task) (setPhase state task .creating)
  | create {task : ℕ} (hcreating : state.phase task = .creating) :
    Steps state (.create task) { setPhase state task (.waiting state.made) with
      gates := state.gates.insert (state.key task) state.made
      made := state.made + 1 }
  | lock {task gate : ℕ} (hwaiting : state.phase task = .waiting gate)
      (hfree : ∀ other ∈ state.arrived, state.phase other ≠ .holding gate) :
    Steps state (.lock task) (setPhase state task (.holding gate))
  | unlock {task gate : ℕ} (hholding : state.phase task = .holding gate) :
    Steps state (.unlock task) (setPhase state task (.leaving gate))
  | drop {task gate : ℕ} (hleaving : state.phase task = .leaving gate) :
    Steps state (.drop task) (setPhase state task .gone)
  | abandon {task : ℕ} {phase : Phase} (hphase : state.phase task = phase)
      (hleft : phase = .outside ∨ ∃ gate, phase = .waiting gate) :
    Steps state (.abandon task) (setPhase state task .gone)

theorem steps_of_step {state next : State} {action : Action}
    (hstep : step state action = some next) : Steps state action next := by
  cases action with
  | arrive task key =>
    obtain ⟨hnew, hnext⟩ := Option.ite_none_left_eq_some.mp hstep
    rw [← Option.some.inj hnext]
    exact .arrive hnew
  | enter task =>
    obtain ⟨⟨houtside, hfree⟩, hnext⟩ := Option.ite_none_right_eq_some.mp hstep
    rw [← Option.some.inj hnext]
    exact .enter houtside hfree
  | visit task key =>
    rw [step] at hstep
    split at hstep
    · next unvisited hscanning =>
      obtain ⟨-, hnext⟩ := Option.ite_none_right_eq_some.mp hstep
      rw [← Option.some.inj hnext]
      exact .visit hscanning
    · cases hstep
  | upgrade task =>
    obtain ⟨hscanning, hnext⟩ := Option.ite_none_right_eq_some.mp hstep
    split at hnext
    · next gate hupgrade =>
      rw [← Option.some.inj hnext]
      exact .found hscanning hupgrade
    · next hupgrade =>
      rw [← Option.some.inj hnext]
      exact .vacant hscanning hupgrade
  | create task =>
    obtain ⟨hcreating, hnext⟩ := Option.ite_none_right_eq_some.mp hstep
    rw [← Option.some.inj hnext]
    exact .create hcreating
  | lock task =>
    rw [step] at hstep
    split at hstep
    · next gate hwaiting =>
      obtain ⟨hfree, hnext⟩ := Option.ite_none_right_eq_some.mp hstep
      rw [← Option.some.inj hnext]
      exact .lock hwaiting hfree
    · cases hstep
  | unlock task =>
    rw [step] at hstep
    split at hstep
    · next gate hholding =>
      rw [← Option.some.inj hstep]
      exact .unlock hholding
    · cases hstep
  | drop task =>
    rw [step] at hstep
    split at hstep
    · next gate hleaving =>
      rw [← Option.some.inj hstep]
      exact .drop hleaving
    · cases hstep
  | abandon task =>
    rw [step] at hstep
    split at hstep
    · next houtside =>
      rw [← Option.some.inj hstep]
      exact .abandon houtside (.inl rfl)
    · next gate hwaiting =>
      rw [← Option.some.inj hstep]
      exact .abandon hwaiting (.inr ⟨gate, rfl⟩)
    · cases hstep

/-! ## What holds in every run -/

structure Invariant (state : State) : Prop where
  arrived : ∀ task, state.phase task ≠ .absent → task ∈ state.arrived
  /-- The table shows the gate that a task has. -/
  held : ∀ task gate, (state.phase task).gate = some gate →
    state.gates.lookup (state.key task) = some gate
  made : ∀ key gate, state.gates.lookup key = some gate → gate < state.made
  distinct : ∀ first second gate, state.gates.lookup first = some gate →
    state.gates.lookup second = some gate → first = second
  oneLock : ∀ first second, (state.phase first).locked = true →
    (state.phase second).locked = true → first = second
  /-- Who is about to make a gate knows that no task has one of the key. -/
  vacant : ∀ task, state.phase task = .creating →
    ∀ other gate, (state.phase other).gate = some gate → state.key other ≠ state.key task
  exclusive : ∀ first second gate, state.phase first = .holding gate →
    state.phase second = .holding gate → first = second

theorem invariant_init : Invariant init where
  arrived _ hphase := absurd rfl hphase
  held _ _ hgate := nomatch hgate
  made _ _ hlookup := nomatch hlookup
  distinct _ _ _ hlookup := nomatch hlookup
  oneLock _ _ hlocked := nomatch hlocked
  vacant _ hcreating := nomatch hcreating
  exclusive _ _ _ hholding := nomatch hholding

theorem strongCount_pos {state : State} {gate : ℕ} :
    0 < strongCount state gate ↔
      ∃ task ∈ state.arrived, (state.phase task).gate = some gate := by
  rw [strongCount, List.countP_pos_iff]
  simp only [decide_eq_true_eq]

theorem Invariant.absent {state : State} (hinv : Invariant state) {task : ℕ}
    (hnew : task ∉ state.arrived) : state.phase task = .absent := by
  by_contra hphase
  exact hnew (hinv.arrived task hphase)

theorem Invariant.present {state : State} (hinv : Invariant state) {task : ℕ} {phase : Phase}
    (hphase : state.phase task = phase) (hne : phase ≠ .absent) : task ∈ state.arrived := by
  apply hinv.arrived
  rw [hphase]
  exact hne

theorem ne_absent_of_gate {phase : Phase} {gate : ℕ} (hgate : phase.gate = some gate) :
    phase ≠ .absent := by
  rintro rfl
  cases hgate

@[simp]
theorem setPhase_phase (state : State) (task other : ℕ) (phase : Phase) :
    (setPhase state task phase).phase other = if other = task then phase else state.phase other :=
  Function.update_apply _ _ _ _

/-- A gate that some task has is not swept. -/
theorem lookup_visit {state : State} (hinv : Invariant state) {task gate : ℕ}
    (hgate : (state.phase task).gate = some gate) (key : String) :
    (visit state key).lookup (state.key task) = some gate := by
  have hheld := hinv.held task gate hgate
  rw [visit]
  split
  · next found hfound =>
    split
    · exact hheld
    · next hdead =>
      rw [Table.lookup_erase]
      have hne : state.key task ≠ key := by
        rintro rfl
        obtain rfl := Option.some.inj (hfound.symm.trans hheld)
        apply hdead
        apply strongCount_pos.mpr
        exact ⟨task, hinv.arrived task (ne_absent_of_gate hgate), hgate⟩
      rw [if_neg hne]
      exact hheld
  · exact hheld

theorem lookup_of_visit {state : State} {key other : String} {gate : ℕ}
    (hlookup : (visit state key).lookup other = some gate) :
    state.gates.lookup other = some gate := by
  rw [visit] at hlookup
  split at hlookup
  · split at hlookup
    · exact hlookup
    · obtain ⟨-, hlookup⟩ := Table.lookup_erase_eq_some.mp hlookup
      exact hlookup
  · exact hlookup

/-- A task moves to a phase that is free for it. -/
theorem Invariant.move {state : State} (hinv : Invariant state) {task : ℕ} {next : Phase}
    (harrived : task ∈ state.arrived)
    (hheld : ∀ gate, next.gate = some gate → state.gates.lookup (state.key task) = some gate)
    (hlock : next.locked = true → ∀ other, other ≠ task → (state.phase other).locked = false)
    (hvacant : next = .creating → ∀ other gate, other ≠ task →
      (state.phase other).gate = some gate → state.key other ≠ state.key task)
    (hcreator : ∀ gate, next.gate = some gate → ∀ other, other ≠ task →
      state.phase other = .creating → state.key task ≠ state.key other)
    (hexclusive : ∀ gate, next = .holding gate → ∀ other, other ≠ task →
      state.phase other ≠ .holding gate) :
    Invariant (setPhase state task next) where
  arrived other hphase := by
    rw [setPhase_phase] at hphase
    split_ifs at hphase with hother
    · exact hother ▸ harrived
    · exact hinv.arrived other hphase
  held other gate hgate := by
    rw [setPhase_phase] at hgate
    split_ifs at hgate with hother
    · exact hother ▸ hheld gate hgate
    · exact hinv.held other gate hgate
  made := hinv.made
  distinct := hinv.distinct
  oneLock first second hfirst hsecond := by
    rw [setPhase_phase] at hfirst hsecond
    split_ifs at hfirst hsecond with hone htwo htwo
    · exact hone.trans htwo.symm
    · exact absurd hsecond (by rw [hlock hfirst second htwo]; exact Bool.noConfusion)
    · exact absurd hfirst (by rw [hlock hsecond first hone]; exact Bool.noConfusion)
    · exact hinv.oneLock first second hfirst hsecond
  vacant creator hcreating other gate hgate := by
    rw [setPhase_phase] at hcreating hgate
    split_ifs at hcreating hgate with hone htwo htwo
    · rw [hcreating] at hgate
      cases hgate
    · exact hone ▸ hvacant hcreating other gate htwo hgate
    · exact htwo ▸ hcreator gate hgate creator hone hcreating
    · exact hinv.vacant creator hcreating other gate hgate
  exclusive first second gate hfirst hsecond := by
    rw [setPhase_phase] at hfirst hsecond
    split_ifs at hfirst hsecond with hone htwo htwo
    · exact hone.trans htwo.symm
    · exact absurd hsecond (hexclusive gate hfirst second htwo)
    · exact absurd hfirst (hexclusive gate hsecond first hone)
    · exact hinv.exclusive first second gate hfirst hsecond

/-- A task that gives something back. -/
theorem Invariant.release {state : State} (hinv : Invariant state) {task : ℕ} {next : Phase}
    (harrived : task ∈ state.arrived) (hlocked : next.locked = false)
    (hgate : ∀ gate, next.gate = some gate → (state.phase task).gate = some gate)
    (hholding : ∀ gate, next ≠ .holding gate) : Invariant (setPhase state task next) := by
  apply hinv.move harrived
  · exact fun gate hnext ↦ hinv.held task gate (hgate gate hnext)
  · exact fun hnext ↦ absurd hnext (by rw [hlocked]; exact Bool.noConfusion)
  · rintro rfl
    cases hlocked
  · intro gate hnext other _ hcreating
    exact hinv.vacant other hcreating task gate (hgate gate hnext)
  · exact fun gate hnext ↦ absurd hnext (hholding gate)

/-- A new number is given its key. -/
theorem Invariant.registered {state : State} (hinv : Invariant state) {task : ℕ}
    (hnew : task ∉ state.arrived) (key : String) :
    Invariant { state with
      arrived := state.arrived ++ [task]
      key := Function.update state.key task key } := by
  have hkey : ∀ other, state.phase other ≠ .absent →
      Function.update state.key task key other = state.key other := by
    intro other hphase
    apply Function.update_of_ne
    rintro rfl
    exact hnew (hinv.arrived other hphase)
  refine ⟨?_, ?_, hinv.made, hinv.distinct, hinv.oneLock, ?_, hinv.exclusive⟩
  · exact fun other hphase ↦ List.mem_append_left _ (hinv.arrived other hphase)
  · intro other gate hgate
    have hsame := hkey other (ne_absent_of_gate hgate)
    exact (congrArg (AList.lookup · state.gates) hsame).trans (hinv.held other gate hgate)
  · intro creator hcreating other gate hgate
    have hcreator : state.phase creator ≠ .absent := by
      rw [hcreating]
      exact Phase.noConfusion
    intro hsame
    apply hinv.vacant creator hcreating other gate hgate
    calc state.key other
        = Function.update state.key task key other := (hkey other (ne_absent_of_gate hgate)).symm
      _ = Function.update state.key task key creator := hsame
      _ = state.key creator := hkey creator hcreator

theorem Invariant.visited {state : State} (hinv : Invariant state) (key : String) :
    Invariant { state with gates := visit state key } where
  arrived := hinv.arrived
  held _ _ hgate := lookup_visit hinv hgate key
  made other gate hlookup := hinv.made other gate (lookup_of_visit hlookup)
  distinct first second gate hfirst hsecond :=
    hinv.distinct first second gate (lookup_of_visit hfirst) (lookup_of_visit hsecond)
  oneLock := hinv.oneLock
  vacant := hinv.vacant
  exclusive := hinv.exclusive

theorem Invariant.created {state : State} (hinv : Invariant state) {task : ℕ}
    (hcreating : state.phase task = .creating) :
    Invariant { setPhase state task (.waiting state.made) with
      gates := state.gates.insert (state.key task) state.made
      made := state.made + 1 } := by
  have harrived := hinv.present hcreating Phase.noConfusion
  have hlocked : (state.phase task).locked = true := by rw [hcreating]; rfl
  have hother : ∀ other gate, other ≠ task →
      ((setPhase state task (.waiting state.made)).phase other).gate = some gate →
      (state.gates.insert (state.key task) state.made).lookup (state.key other) = some gate := by
    intro other gate hne hgate
    rw [setPhase_phase, if_neg hne] at hgate
    rw [Table.lookup_insert, if_neg (hinv.vacant task hcreating other gate hgate)]
    exact hinv.held other gate hgate
  refine ⟨?_, ?_, ?_, ?_, ?_, ?_, ?_⟩
  · intro other hphase
    rw [setPhase_phase] at hphase
    split_ifs at hphase with hsame
    · exact hsame ▸ harrived
    · exact hinv.arrived other hphase
  · intro other gate hgate
    by_cases hsame : other = task
    · subst hsame
      rw [setPhase_phase, if_pos rfl] at hgate
      obtain rfl := Option.some.inj hgate
      exact (Table.lookup_insert _ _ _ _).trans (if_pos rfl)
    · exact hother other gate hsame hgate
  · intro key gate hlookup
    rw [Table.lookup_insert] at hlookup
    split_ifs at hlookup with hsame
    · exact (Option.some.inj hlookup) ▸ Nat.lt_succ_self _
    · exact Nat.lt_succ_of_lt (hinv.made key gate hlookup)
  · intro first second gate hfirst hsecond
    rw [Table.lookup_insert] at hfirst hsecond
    split_ifs at hfirst hsecond with hone htwo htwo
    · exact hone.trans htwo.symm
    · obtain rfl := Option.some.inj hfirst
      exact absurd (hinv.made second _ hsecond) (Nat.lt_irrefl _)
    · obtain rfl := Option.some.inj hsecond
      exact absurd (hinv.made first _ hfirst) (Nat.lt_irrefl _)
    · exact hinv.distinct first second gate hfirst hsecond
  · intro first second hfirst hsecond
    rw [setPhase_phase] at hfirst hsecond
    split_ifs at hfirst hsecond
    · cases hfirst
    · cases hfirst
    · cases hsecond
    · exact hinv.oneLock first second hfirst hsecond
  · -- nobody else has the lock of the table
    intro creator hcreator
    rw [setPhase_phase] at hcreator
    split_ifs at hcreator with hsame
    · exact absurd (hinv.oneLock creator task (by rw [hcreator]; rfl) hlocked) hsame
  · intro first second gate hfirst hsecond
    rw [setPhase_phase] at hfirst hsecond
    split_ifs at hfirst hsecond
    exact hinv.exclusive first second gate hfirst hsecond

/-- No other task has the lock of the table. -/
theorem Invariant.others_unlocked {state : State} (hinv : Invariant state) {task : ℕ}
    (hlocked : (state.phase task).locked = true) {other : ℕ} (hother : other ≠ task) :
    (state.phase other).locked = false := by
  rw [← Bool.not_eq_true]
  exact fun hsecond ↦ hother (hinv.oneLock other task hsecond hlocked)

/-- Who leaves the table with the gate that it found there. -/
theorem Invariant.found {state : State} (hinv : Invariant state) {task gate : ℕ}
    (hscanning : state.phase task = .scanning [])
    (hupgrade : upgrade state (state.key task) = some gate) :
    Invariant (setPhase state task (.waiting gate)) := by
  have hlocked : (state.phase task).locked = true := by rw [hscanning]; rfl
  obtain ⟨hlookup, -⟩ := Option.filter_eq_some_iff.mp hupgrade
  apply hinv.move (hinv.present hscanning Phase.noConfusion)
  · rintro found hfound
    obtain rfl := Option.some.inj hfound
    exact hlookup
  · exact fun hnext ↦ nomatch hnext
  · exact fun hnext ↦ nomatch hnext
  · intro found _ other hother hcreating
    have hunlocked := hinv.others_unlocked hlocked hother
    rw [hcreating] at hunlocked
    cases hunlocked
  · exact fun found hnext ↦ nomatch hnext

/-- A table without a living gate of the key means that no task has one. -/
theorem Invariant.noneFound {state : State} (hinv : Invariant state) {task : ℕ}
    (hscanning : state.phase task = .scanning [])
    (hupgrade : upgrade state (state.key task) = none) :
    Invariant (setPhase state task .creating) := by
  have hlocked : (state.phase task).locked = true := by rw [hscanning]; rfl
  apply hinv.move (hinv.present hscanning Phase.noConfusion)
  · exact fun gate hgate ↦ nomatch hgate
  · exact fun _ other hother ↦ hinv.others_unlocked hlocked hother
  · intro _ other gate _ hgate hsame
    have hheld := hinv.held other gate hgate
    rw [hsame] at hheld
    apply Option.filter_eq_none_iff.mp hupgrade gate hheld
    apply decide_eq_true
    apply strongCount_pos.mpr
    exact ⟨other, hinv.arrived other (ne_absent_of_gate hgate), hgate⟩
  · exact fun gate hgate ↦ nomatch hgate
  · exact fun gate hnext ↦ nomatch hnext

/-- The table is locked by a task that looks at it, and by no other. -/
theorem Invariant.scanned {state : State} (hinv : Invariant state) {task : ℕ}
    (harrived : task ∈ state.arrived)
    (hothers : ∀ other, other ≠ task → (state.phase other).locked = false)
    (unvisited : List String) : Invariant (setPhase state task (.scanning unvisited)) := by
  apply hinv.move harrived
  · exact fun gate hgate ↦ nomatch hgate
  · exact fun _ ↦ hothers
  · exact fun hcreating ↦ nomatch hcreating
  · exact fun gate hgate ↦ nomatch hgate
  · exact fun gate hnext ↦ nomatch hnext

theorem Invariant.locked {state : State} (hinv : Invariant state) {task gate : ℕ}
    (hwaiting : state.phase task = .waiting gate)
    (hfree : ∀ other ∈ state.arrived, state.phase other ≠ .holding gate) :
    Invariant (setPhase state task (.holding gate)) := by
  have hgate : (state.phase task).gate = some gate := by rw [hwaiting]; rfl
  apply hinv.move (hinv.present hwaiting Phase.noConfusion)
  · exact fun found hfound ↦ hinv.held task found (hgate.trans hfound)
  · exact fun hlocked ↦ nomatch hlocked
  · exact fun hcreating ↦ nomatch hcreating
  · intro found hfound other _ hcreating
    exact hinv.vacant other hcreating task found (hgate.trans hfound)
  · rintro found hfound other -
    obtain rfl := Phase.holding.inj hfound
    by_cases harrived : other ∈ state.arrived
    · exact hfree other harrived
    · rw [hinv.absent harrived]
      exact Phase.noConfusion

theorem Invariant.gone {state : State} (hinv : Invariant state) {task : ℕ}
    (harrived : task ∈ state.arrived) : Invariant (setPhase state task .gone) := by
  apply hinv.release harrived rfl
  · exact fun gate hgate ↦ nomatch hgate
  · exact fun gate ↦ Phase.noConfusion

theorem Invariant.step {state next : State} {action : Action} (hinv : Invariant state)
    (hstep : step state action = some next) : Invariant next := by
  cases steps_of_step hstep with
  | @arrive task key hnew =>
    apply @Invariant.release _ (hinv.registered hnew key) task .outside
    · exact List.mem_append_right _ List.mem_cons_self
    · rfl
    · exact fun gate hgate ↦ nomatch hgate
    · exact fun gate ↦ Phase.noConfusion
  | enter houtside hfree =>
    apply hinv.scanned (hinv.present houtside Phase.noConfusion)
    intro other _
    by_cases harrived : other ∈ state.arrived
    · exact hfree other harrived
    · rw [hinv.absent harrived]
      rfl
  | @visit task key unvisited hscanning =>
    have hlocked : (state.phase task).locked = true := by rw [hscanning]; rfl
    exact (hinv.visited key).scanned (hinv.present hscanning Phase.noConfusion)
      (fun _ ↦ hinv.others_unlocked hlocked) (unvisited.erase key)
  | found hscanning hupgrade => exact hinv.found hscanning hupgrade
  | vacant hscanning hupgrade => exact hinv.noneFound hscanning hupgrade
  | create hcreating => exact hinv.created hcreating
  | lock hwaiting hfree => exact hinv.locked hwaiting hfree
  | unlock hholding =>
    apply hinv.release (hinv.present hholding Phase.noConfusion) rfl
    · intro gate hgate
      rw [hholding]
      exact hgate
    · exact fun gate ↦ Phase.noConfusion
  | drop hleaving => exact hinv.gone (hinv.present hleaving Phase.noConfusion)
  | abandon hphase hleft =>
    apply hinv.gone (hinv.present hphase _)
    rintro rfl
    rcases hleft with houtside | ⟨gate, hwaiting⟩
    · cases houtside
    · cases hwaiting

/-! ## One mutex a key -/

/-- The gates that live under one key are one gate. -/
theorem Invariant.one_gate {state : State} (hinv : Invariant state) {first second gate other : ℕ}
    (hfirst : (state.phase first).gate = some gate)
    (hsecond : (state.phase second).gate = some other)
    (hkey : state.key first = state.key second) : gate = other := by
  have hheld := hinv.held first gate hfirst
  rw [hkey, hinv.held second other hsecond] at hheld
  exact (Option.some.inj hheld).symm

/-- A gate lives under one key. -/
theorem Invariant.one_key {state : State} (hinv : Invariant state) {first second gate : ℕ}
    (hfirst : (state.phase first).gate = some gate)
    (hsecond : (state.phase second).gate = some gate) : state.key first = state.key second :=
  hinv.distinct _ _ gate (hinv.held first gate hfirst) (hinv.held second gate hsecond)

/-- One task at a time holds the mutex of a key. -/
theorem Invariant.one_holder {state : State} (hinv : Invariant state) {first second gate other : ℕ}
    (hfirst : state.phase first = .holding gate) (hsecond : state.phase second = .holding other)
    (hkey : state.key first = state.key second) : first = second := by
  have hsame : gate = other :=
    hinv.one_gate (by rw [hfirst]; rfl) (by rw [hsecond]; rfl) hkey
  exact hinv.exclusive first second gate hfirst (hsame ▸ hsecond)

/-- Only a holder of the same key keeps a task waiting. -/
theorem Invariant.lock_or_holder {state : State} (hinv : Invariant state) {task gate : ℕ}
    (hwaiting : state.phase task = .waiting gate) :
    (Gates.step state (.lock task)).isSome = true ∨
      ∃ other, state.phase other = .holding gate ∧ state.key other = state.key task := by
  by_cases hfree : ∀ other ∈ state.arrived, state.phase other ≠ .holding gate
  · left
    simp only [Gates.step, hwaiting, if_pos hfree, Option.isSome_some]
  · right
    simp only [not_forall, not_not] at hfree
    obtain ⟨other, -, hholding⟩ := hfree
    refine ⟨other, hholding, ?_⟩
    exact hinv.one_key (by rw [hholding]; rfl) (by rw [hwaiting]; rfl)

/-- The lock of the table is not kept: who has it can go on. -/
theorem locked_moves {state : State} {task : ℕ} (hlocked : (state.phase task).locked = true) :
    ∃ action, (Gates.step state action).isSome = true ∧
      (action = .upgrade task ∨ action = .create task ∨ ∃ key, action = .visit task key) := by
  cases hphase : state.phase task with
  | scanning unvisited =>
    cases unvisited with
    | nil =>
      refine ⟨.upgrade task, ?_, .inl rfl⟩
      rw [step, if_pos hphase]
      split <;> rfl
    | cons key rest =>
      refine ⟨.visit task key, ?_, .inr (.inr ⟨key, rfl⟩)⟩
      simp [step, hphase]
  | creating => exact ⟨.create task, by simp [step, hphase], .inr (.inl rfl)⟩
  | absent | outside | waiting | holding | leaving | gone =>
    rw [hphase] at hlocked
    cases hlocked

/-! ## One direction -/

/-- A task only goes on: from nothing over the mutex to the end. -/
def Phase.rank : Phase → ℕ
  | .absent => 0
  | .outside => 1
  | .scanning _ => 2
  | .creating => 3
  | .waiting _ => 4
  | .holding _ => 5
  | .leaving _ => 6
  | .gone => 7

theorem Phase.rank_le_gone (phase : Phase) : phase.rank ≤ Phase.gone.rank := by
  cases phase <;> simp [Phase.rank]

theorem Phase.exists_holding {phase : Phase} (hrank : phase.rank = 5) :
    ∃ gate, phase = .holding gate := by
  cases phase with
  | holding gate => exact ⟨gate, rfl⟩
  | absent | outside | scanning | creating | waiting | leaving | gone => cases hrank

def Action.task : Action → ℕ
  | .arrive task _ => task
  | .enter task => task
  | .visit task _ => task
  | .upgrade task => task
  | .create task => task
  | .lock task => task
  | .unlock task => task
  | .drop task => task
  | .abandon task => task

/-- What a step changes for the task that takes it. -/
structure Goes (action : Action) (before after : Phase) : Prop where
  forward : before.rank ≤ after.rank
  holding : after.rank = 5 → before.rank = 4
  past : 6 ≤ after.rank → 6 ≤ before.rank ∨ action = .unlock action.task ∨
    action = .abandon action.task

/-- Steps before the mutex is taken. -/
theorem goes_before {action : Action} {before after : Phase} (hforward : before.rank ≤ after.rank)
    (hbefore : after.rank < 5) : Goes action before after where
  forward := hforward
  holding hrank := absurd hrank (Nat.ne_of_lt hbefore)
  past hrank := by omega

/-- What is left alone by a step, and how the phase of its task goes on. -/
theorem step_frame {state next : State} {action : Action} (hstep : step state action = some next)
    (hold : ∀ key, action ≠ .arrive action.task key) :
    next.arrived = state.arrived ∧ next.key = state.key ∧
      ∃ after, next.phase = Function.update state.phase action.task after ∧
        Goes action (state.phase action.task) after := by
  cases steps_of_step hstep with
  | @arrive task key => exact absurd rfl (hold key)
  | enter hbefore | visit hbefore | found hbefore | vacant hbefore | create hbefore =>
    refine ⟨rfl, rfl, _, rfl, ?_⟩
    rw [Action.task, hbefore]
    exact goes_before (by simp [Phase.rank]) (by simp [Phase.rank])
  | lock hwaiting =>
    refine ⟨rfl, rfl, _, rfl, ?_⟩
    rw [Action.task, hwaiting]
    exact ⟨Nat.le_succ 4, fun _ ↦ rfl, fun hrank ↦ absurd hrank (Nat.not_succ_le_self 5)⟩
  | unlock hholding =>
    refine ⟨rfl, rfl, _, rfl, ?_⟩
    rw [Action.task, hholding]
    exact ⟨Nat.le_succ 5, fun hrank ↦ (nomatch hrank), fun _ ↦ .inr (.inl rfl)⟩
  | drop hleaving =>
    refine ⟨rfl, rfl, _, rfl, ?_⟩
    rw [Action.task, hleaving]
    exact ⟨Nat.le_succ 6, fun hrank ↦ (nomatch hrank), fun _ ↦ .inl (Nat.le_refl 6)⟩
  | abandon =>
    refine ⟨rfl, rfl, _, rfl, Phase.rank_le_gone _, ?_, ?_⟩
    · exact fun hrank ↦ nomatch hrank
    · exact fun _ ↦ .inr (.inr rfl)

/-- Only a task that came takes steps. -/
theorem Invariant.arrived_of_step {state next : State} {action : Action} (hinv : Invariant state)
    (hstep : Gates.step state action = some next)
    (hold : ∀ key, action ≠ .arrive action.task key) : action.task ∈ state.arrived := by
  by_contra hnew
  have habsent := hinv.absent hnew
  cases action with
  | arrive task key => exact hold key rfl
  | enter | visit | upgrade | create | lock | unlock | drop | abandon =>
    rw [Action.task] at habsent
    simp [Gates.step, habsent] at hstep

end BtDaemon.Gates
