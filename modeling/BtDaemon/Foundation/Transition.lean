import Mathlib.Algebra.GroupWithZero.Nat
import Mathlib.Data.Option.Basic
import Mathlib.Tactic.Common

/-!
# Interleavings of atomic steps

An action names one atomic step of one party, together with everything the environment
chooses for that step. A list of actions is then one interleaving of all parties, and a
statement about every list is a statement about every schedule. A step that the acting
party cannot take is `none`, so a run exists only when each of its steps was possible.

Induction rules cover every run: the plain invariant rule, the rule for invariants that remember
the actions taken, and the rule for runs all of whose steps meet a condition on the state they
are taken from. A simulation turns a run of a
detailed system into a run of a coarser one.
-/

namespace BtDaemon.Transition

/-- A system whose next state is determined by the state and the action taken. -/
structure System (State Action : Type) where
  init : State
  step : State → Action → Option State

namespace System

variable {State Action : Type} (system : System State Action)

/-- Take the actions in order; `none` as soon as one of them is not possible. -/
def run : State → List Action → Option State
  | state, [] => some state
  | state, action :: rest => (system.step state action).bind fun next ↦ run next rest

theorem run_cons (state : State) (action : Action) (rest : List Action) :
    system.run state (action :: rest) =
      (system.step state action).bind fun next ↦ system.run next rest := rfl

theorem run_cons_eq_some {state final : State} {action : Action} {rest : List Action} :
    system.run state (action :: rest) = some final ↔
      ∃ next, system.step state action = some next ∧ system.run next rest = some final := by
  rw [run_cons, Option.bind_eq_some_iff]

theorem run_append {state middle final : State} {first second : List Action}
    (hfirst : system.run state first = some middle)
    (hsecond : system.run middle second = some final) :
    system.run state (first ++ second) = some final := by
  induction first generalizing state with
  | nil =>
    obtain rfl := Option.some.inj hfirst
    exact hsecond
  | cons action rest ih =>
    obtain ⟨next, hstep, hrest⟩ := (system.run_cons_eq_some).mp hfirst
    exact (system.run_cons_eq_some).mpr ⟨next, hstep, ih hrest⟩

theorem run_append_eq_some {state final : State} {first second : List Action} :
    system.run state (first ++ second) = some final ↔
      ∃ middle, system.run state first = some middle ∧
        system.run middle second = some final := by
  constructor
  · intro hrun
    induction first generalizing state with
    | nil => exact ⟨state, rfl, hrun⟩
    | cons action rest ih =>
      obtain ⟨next, hstep, hlater⟩ := (system.run_cons_eq_some).mp hrun
      obtain ⟨middle, hrest, hsecond⟩ := ih hlater
      exact ⟨middle, (system.run_cons_eq_some).mpr ⟨next, hstep, hrest⟩, hsecond⟩
  · rintro ⟨middle, hfirst, hsecond⟩
    exact system.run_append hfirst hsecond

/-- Some interleaving leads from the initial state here. -/
def Reachable (state : State) : Prop :=
  ∃ actions, system.run system.init actions = some state

/-- What one step preserves, a whole run preserves. -/
theorem run_invariant {Invariant : State → Prop}
    (hstep : ∀ state action next,
      Invariant state → system.step state action = some next → Invariant next)
    {state final : State} {actions : List Action}
    (hstart : Invariant state) (hrun : system.run state actions = some final) :
    Invariant final := by
  induction actions generalizing state with
  | nil =>
    obtain rfl := Option.some.inj hrun
    exact hstart
  | cons action rest ih =>
    obtain ⟨next, htake, hrest⟩ := (system.run_cons_eq_some).mp hrun
    exact ih (hstep state action next hstart htake) hrest

/-- What holds after a first part of the run, and is preserved by each step, holds at its end. -/
theorem run_invariant_from {Invariant : State → Prop}
    (hstep : ∀ state action next,
      Invariant state → system.step state action = some next → Invariant next)
    {state middle final : State} {first second : List Action}
    (hfirst : system.run state first = some middle) (hmiddle : Invariant middle)
    (hrun : system.run state (first ++ second) = some final) : Invariant final := by
  obtain ⟨other, hother, hsecond⟩ := (system.run_append_eq_some).mp hrun
  obtain rfl := Option.some.inj (hother.symm.trans hfirst)
  exact system.run_invariant hstep hmiddle hsecond

/-- A property that does not hold at the start and holds at the end began with some step. -/
theorem run_begins (property : State → Prop) {state final : State} {actions : List Action}
    (hstart : ¬ property state) (hrun : system.run state actions = some final)
    (hfinal : property final) :
    ∃ before action after middle next, actions = before ++ action :: after ∧
      system.run state before = some middle ∧ system.step middle action = some next ∧
        ¬ property middle ∧ property next ∧ system.run next after = some final := by
  induction actions generalizing state with
  | nil =>
    obtain rfl := Option.some.inj hrun
    exact absurd hfinal hstart
  | cons action rest ih =>
    obtain ⟨next, htake, hrest⟩ := (system.run_cons_eq_some).mp hrun
    by_cases hnext : property next
    · exact ⟨[], action, rest, state, next, rfl, rfl, htake, hstart, hnext, hrest⟩
    · obtain ⟨before, event, after, middle, other, rfl, hbefore, hother⟩ := ih hnext hrest
      exact ⟨action :: before, event, after, middle, other, rfl,
        (system.run_cons_eq_some).mpr ⟨next, htake, hbefore⟩, hother⟩

/-- The invariant rule for invariants that also speak of the actions taken so far. -/
theorem run_history {Invariant : List Action → State → Prop}
    (hstep : ∀ history state action next, Invariant history state →
      system.step state action = some next → Invariant (history ++ [action]) next)
    {state final : State} {actions : List Action} (hstart : Invariant [] state)
    (hrun : system.run state actions = some final) : Invariant actions final := by
  have hlater : ∀ history state, Invariant history state →
      system.run state actions = some final → Invariant (history ++ actions) final := by
    clear hrun hstart
    induction actions with
    | nil =>
      intro history state hholds hrun
      obtain rfl := Option.some.inj hrun
      rwa [List.append_nil]
    | cons action rest ih =>
      intro history state hholds hrun
      obtain ⟨next, htake, hrest⟩ := (system.run_cons_eq_some).mp hrun
      rw [List.append_cons]
      exact ih _ next (hstep history state action next hholds htake) hrest
  exact hlater [] state hstart hrun

/-- The rule of the ledger: until the work is done each step takes what it spends out of the
debt, and the debt grows only with the credit. -/
theorem run_ledger {Pending Done : State → Prop} (debt credit : State → ℕ) (spent : Action → ℕ)
    (hstep : ∀ state action next, Pending state → system.step state action = some next →
      Done next ∨
        Pending next ∧ debt next + spent action + credit state ≤ debt state + credit next)
    (hdone : ∀ state action next, Done state → system.step state action = some next → Done next)
    {state final : State} {actions : List Action} (hstart : Pending state)
    (hrun : system.run state actions = some final) :
    Done final ∨ Pending final ∧
      debt final + (actions.map spent).sum + credit state ≤ debt state + credit final := by
  induction actions generalizing state with
  | nil =>
    obtain rfl := Option.some.inj hrun
    exact .inr ⟨hstart, Nat.le_refl _⟩
  | cons action rest ih =>
    obtain ⟨next, htake, hrest⟩ := (system.run_cons_eq_some).mp hrun
    rcases hstep state action next hstart htake with hdoneNext | ⟨hnext, hpaid⟩
    · exact .inl (system.run_invariant hdone hdoneNext hrest)
    · apply (ih hnext hrest).imp_right
      rintro ⟨hfinal, hlater⟩
      refine ⟨hfinal, ?_⟩
      rw [List.map_cons, List.sum_cons]
      omega

/-- A run of the detailed system is a run of the coarser one, when every action is matched by a
list of the coarser system's actions wherever the invariant holds. -/
theorem run_simulates {Coarse Move : Type} (coarse : System Coarse Move)
    (project : State → Coarse) (image : Action → List Move) {Invariant : State → Prop}
    (hpreserved : ∀ state action next,
      Invariant state → system.step state action = some next → Invariant next)
    (hstep : ∀ state action next, Invariant state → system.step state action = some next →
      coarse.run (project state) (image action) = some (project next))
    {state final : State} {actions : List Action} (hstart : Invariant state)
    (hrun : system.run state actions = some final) :
    coarse.run (project state) (actions.flatMap image) = some (project final) := by
  induction actions generalizing state with
  | nil =>
    obtain rfl := Option.some.inj hrun
    rfl
  | cons action rest ih =>
    obtain ⟨next, htake, hrest⟩ := (system.run_cons_eq_some).mp hrun
    rw [List.flatMap_cons]
    exact coarse.run_append (hstep state action next hstart htake)
      (ih (hpreserved state action next hstart htake) hrest)

/-- An inductive invariant holds in every reachable state. -/
theorem Reachable.invariant {system : System State Action} {Invariant : State → Prop}
    (hinit : Invariant system.init)
    (hstep : ∀ state action next,
      Invariant state → system.step state action = some next → Invariant next)
    {state : State} (hreach : system.Reachable state) : Invariant state := by
  obtain ⟨actions, hrun⟩ := hreach
  exact system.run_invariant hstep hinit hrun

/-- Every step of the run meets the condition in the state it is taken from. -/
def Meets (condition : State → Action → Prop) : State → List Action → Prop
  | _, [] => True
  | state, action :: rest =>
    condition state action ∧
      match system.step state action with
      | some next => Meets condition next rest
      | none => True

instance decidableMeets (condition : State → Action → Prop)
    [∀ state action, Decidable (condition state action)] :
    ∀ state actions, Decidable (system.Meets condition state actions)
  | _, [] => isTrue trivial
  | state, action :: rest =>
    match hstep : system.step state action with
    | some next =>
      have := decidableMeets condition next rest
      decidable_of_iff (condition state action ∧ system.Meets condition next rest)
        (by simp only [Meets, hstep])
    | none =>
      decidable_of_iff (condition state action) (by simp only [Meets, hstep, and_true])

/-- The invariant rule for runs all of whose steps meet a condition. -/
theorem run_invariant_of_meets {Invariant : State → Prop} {condition : State → Action → Prop}
    (hstep : ∀ state action next, Invariant state → condition state action →
      system.step state action = some next → Invariant next)
    {state final : State} {actions : List Action}
    (hstart : Invariant state) (hmeets : system.Meets condition state actions)
    (hrun : system.run state actions = some final) : Invariant final := by
  induction actions generalizing state with
  | nil =>
    obtain rfl := Option.some.inj hrun
    exact hstart
  | cons action rest ih =>
    obtain ⟨next, htake, hrest⟩ := (system.run_cons_eq_some).mp hrun
    obtain ⟨hcondition, hlater⟩ := hmeets
    rw [htake] at hlater
    exact ih (hstep state action next hstart hcondition htake) hlater hrest

/-- A step property that the invariant and the condition give at every step of the run. -/
theorem meets_of_meets {Invariant : State → Prop} {condition property : State → Action → Prop}
    (hstep : ∀ state action next, Invariant state → condition state action →
      system.step state action = some next → Invariant next)
    (hproperty : ∀ state action, Invariant state → condition state action →
      property state action)
    {state : State} {actions : List Action} (hstart : Invariant state)
    (hmeets : system.Meets condition state actions) :
    system.Meets property state actions := by
  induction actions generalizing state with
  | nil => trivial
  | cons action rest ih =>
    obtain ⟨hcondition, hlater⟩ := hmeets
    refine ⟨hproperty state action hstart hcondition, ?_⟩
    cases htake : system.step state action with
    | none => trivial
    | some next =>
      rw [htake] at hlater
      exact ih (hstep state action next hstart hcondition htake) hlater

/-- The property holds in every state that the run visits. -/
def Always (property : State → Prop) : State → List Action → Prop
  | state, [] => property state
  | state, action :: rest =>
    property state ∧
      match system.step state action with
      | some next => Always property next rest
      | none => True

instance decidableAlways (property : State → Prop) [DecidablePred property] :
    ∀ state actions, Decidable (system.Always property state actions)
  | state, [] => inferInstanceAs (Decidable (property state))
  | state, action :: rest =>
    match hstep : system.step state action with
    | some next =>
      have := decidableAlways property next rest
      decidable_of_iff (property state ∧ system.Always property next rest)
        (by simp only [Always, hstep])
    | none => decidable_of_iff (property state) (by simp only [Always, hstep, and_true])

/-- A property that fails exactly after the steps that do not meet the condition. -/
theorem always_iff_meets {Invariant property : State → Prop}
    {condition : State → Action → Prop}
    (hproperty : ∀ state, Invariant state → property state)
    (hstep : ∀ state action next, Invariant state → system.step state action = some next →
      condition state action → Invariant next)
    (hexact : ∀ state action next, Invariant state → system.step state action = some next →
      property next → condition state action)
    {state final : State} {actions : List Action} (hstart : Invariant state)
    (hrun : system.run state actions = some final) :
    system.Always property state actions ↔ system.Meets condition state actions := by
  induction actions generalizing state with
  | nil => exact iff_of_true (hproperty state hstart) trivial
  | cons action rest ih =>
    obtain ⟨next, htake, hrest⟩ := (system.run_cons_eq_some).mp hrun
    simp only [Always, Meets, htake, hproperty state hstart, true_and]
    constructor
    · intro halways
      have hcondition : condition state action := by
        apply hexact state action next hstart htake
        cases rest with
        | nil => exact halways
        | cons => exact halways.1
      exact ⟨hcondition, (ih (hstep state action next hstart htake hcondition) hrest).mp halways⟩
    · rintro ⟨hcondition, hmeets⟩
      exact (ih (hstep state action next hstart htake hcondition) hrest).mpr hmeets

end System

end BtDaemon.Transition
