import Mathlib.Tactic.Common

/-!
# Transducers

A machine that reads its input one element at a time and puts out a list of results at each.
What it puts out for an input depends on the state it is in, and not on how the input is cut
into chunks.
-/

namespace BtDaemon

structure Transducer (State Input Output : Type) where
  step : State → Input → State × List Output

namespace Transducer

variable {State Input Output : Type} (machine : Transducer State Input Output)

def run (state : State) : List Input → State × List Output
  | [] => (state, [])
  | input :: rest =>
    let (next, outputs) := machine.step state input
    let (final, later) := run next rest
    (final, outputs ++ later)

/-- Run over the chunks one after another. -/
def runChunks (state : State) : List (List Input) → State × List Output
  | [] => (state, [])
  | chunk :: rest =>
    let (next, outputs) := machine.run state chunk
    let (final, later) := runChunks next rest
    (final, outputs ++ later)

@[simp]
theorem run_nil (state : State) : machine.run state [] = (state, []) := rfl

theorem run_cons (state : State) (input : Input) (rest : List Input) :
    machine.run state (input :: rest) =
      ((machine.run (machine.step state input).1 rest).1,
        (machine.step state input).2 ++ (machine.run (machine.step state input).1 rest).2) :=
  rfl

theorem run_append (state : State) (first second : List Input) :
    machine.run state (first ++ second) =
      ((machine.run (machine.run state first).1 second).1,
        (machine.run state first).2 ++ (machine.run (machine.run state first).1 second).2) := by
  induction first generalizing state with
  | nil => rfl
  | cons input rest ih =>
    rw [List.cons_append, run_cons, ih, run_cons, List.append_assoc]

theorem run_trans {state middle final : State} {first second : List Input}
    {outputs later : List Output} (hfirst : machine.run state first = (middle, outputs))
    (hsecond : machine.run middle second = (final, later)) :
    machine.run state (first ++ second) = (final, outputs ++ later) := by
  rw [run_append, hfirst, hsecond]

/-- The results do not depend on how the input is cut into chunks. -/
theorem runChunks_eq (state : State) (chunks : List (List Input)) :
    machine.runChunks state chunks = machine.run state chunks.flatten := by
  induction chunks generalizing state with
  | nil => rfl
  | cons chunk rest ih =>
    rw [List.flatten_cons, run_append, ← ih]
    rfl

/-- What one element preserves, a whole input preserves. -/
theorem run_invariant {Invariant : State → Prop}
    (hstep : ∀ state input, Invariant state → Invariant (machine.step state input).1)
    {state : State} (hstart : Invariant state) (inputs : List Input) :
    Invariant (machine.run state inputs).1 := by
  induction inputs generalizing state with
  | nil => exact hstart
  | cons input rest ih =>
    apply ih
    exact hstep state input hstart

/-- An input that the machine ignores in the given state. -/
theorem run_ignored {state : State} {inputs : List Input}
    (hignored : ∀ input ∈ inputs, machine.step state input = (state, [])) :
    machine.run state inputs = (state, []) := by
  induction inputs with
  | nil => rfl
  | cons input rest ih =>
    rw [run_cons, hignored input List.mem_cons_self,
      ih fun later hmem ↦ hignored later (List.mem_cons_of_mem input hmem)]
    rfl

end Transducer

end BtDaemon
