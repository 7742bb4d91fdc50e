import Mathlib.Data.Nat.Notation
import Mathlib.Data.Option.Basic
import Mathlib.Logic.Function.Basic

/-!
# Ledgers of deadlines

Each key has at most one armed deadline. A ledger remembers for each key the delays with which
its deadlines were armed since the key was last forgotten, oldest first, and the deadline that
was armed last.
-/

namespace BtDaemon

structure Deadlines (Key : Type) where
  delays : Key → List ℕ
  armed : Key → Option ℕ

namespace Deadlines

variable {Key : Type} [DecidableEq Key]

def empty : Deadlines Key := ⟨fun _ ↦ [], fun _ ↦ none⟩

/-- Arm a deadline that was computed now. -/
def arm (ledger : Deadlines Key) (now : ℕ) (key : Key) (deadline : Option ℕ) : Deadlines Key where
  delays := Function.update ledger.delays key
    (ledger.delays key ++ (deadline.map fun instant ↦ instant - now).toList)
  armed := Function.update ledger.armed key deadline

def disarm (ledger : Deadlines Key) (key : Key) : Deadlines Key :=
  { ledger with armed := Function.update ledger.armed key none }

/-- Start a new session of the key. -/
def forget (ledger : Deadlines Key) (key : Key) : Deadlines Key where
  delays := Function.update ledger.delays key []
  armed := Function.update ledger.armed key none

variable {ledger : Deadlines Key} {now delay : ℕ} {key other : Key}

@[simp]
theorem delays_arm : (ledger.arm now key (some (now + delay))).delays key =
    ledger.delays key ++ [delay] := by
  simp [arm]

@[simp]
theorem armed_arm {deadline : Option ℕ} : (ledger.arm now key deadline).armed key = deadline :=
  Function.update_self ..

@[simp]
theorem delays_disarm : (ledger.disarm key).delays = ledger.delays := rfl

@[simp]
theorem armed_disarm : (ledger.disarm key).armed key = none := Function.update_self ..

@[simp]
theorem delays_forget : (ledger.forget key).delays key = [] := Function.update_self ..

@[simp]
theorem armed_forget : (ledger.forget key).armed key = none := Function.update_self ..

/-- No other key is concerned. -/
structure Agree (ledger later : Deadlines Key) (key : Key) : Prop where
  delays : later.delays key = ledger.delays key
  armed : later.armed key = ledger.armed key

theorem agree_arm (hother : other ≠ key) (deadline : Option ℕ) :
    Agree ledger (ledger.arm now key deadline) other :=
  ⟨Function.update_of_ne hother .., Function.update_of_ne hother ..⟩

theorem agree_disarm (hother : other ≠ key) : Agree ledger (ledger.disarm key) other :=
  ⟨rfl, Function.update_of_ne hother ..⟩

theorem agree_forget (hother : other ≠ key) : Agree ledger (ledger.forget key) other :=
  ⟨Function.update_of_ne hother .., Function.update_of_ne hother ..⟩

end Deadlines

end BtDaemon
