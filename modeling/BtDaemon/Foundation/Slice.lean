import Mathlib.Data.List.Basic
import Mathlib.Tactic.Common

/-!
# Slices that panic

Indexing, slicing and subtraction as a program performs them: out of bounds they do not give a
value. A computation over slices that is shown to be `.ok` for every input never panics.
-/

namespace BtDaemon.Slice

variable {Element : Type}

inductive Panic
  | outOfBounds
  | underflow
  deriving DecidableEq, Repr

/-- `slice[position]` -/
def read (slice : List Element) (position : ℕ) : Except Panic Element :=
  match slice[position]? with
  | some element => .ok element
  | none => .error .outOfBounds

/-- `&slice[start..]` -/
def dropFrom (slice : List Element) (start : ℕ) : Except Panic (List Element) :=
  if start ≤ slice.length then .ok (slice.drop start) else .error .outOfBounds

/-- `slice.get(..stop)` -/
def takeTo (slice : List Element) (stop : ℕ) : Option (List Element) :=
  if stop ≤ slice.length then some (slice.take stop) else none

/-- `minuend - subtrahend` on unsigned numbers. -/
def subtract (minuend subtrahend : ℕ) : Except Panic ℕ :=
  if subtrahend ≤ minuend then .ok (minuend - subtrahend) else .error .underflow

@[simp]
theorem read_zero (first : Element) (rest : List Element) : read (first :: rest) 0 = .ok first :=
  rfl

@[simp]
theorem read_succ (first : Element) (rest : List Element) (position : ℕ) :
    read (first :: rest) (position + 1) = read rest position := by
  rw [read, read, List.getElem?_cons_succ]

@[simp]
theorem dropFrom_append (front rest : List Element) :
    dropFrom (front ++ rest) front.length = .ok rest := by
  rw [dropFrom, if_pos (by rw [List.length_append]; exact Nat.le_add_right _ _),
    List.drop_left]

@[simp]
theorem takeTo_append (front rest : List Element) :
    takeTo (front ++ rest) front.length = some front := by
  rw [takeTo, if_pos (by rw [List.length_append]; exact Nat.le_add_right _ _),
    List.take_left]

theorem takeTo_eq_none {slice : List Element} {stop : ℕ} (hshort : slice.length < stop) :
    takeTo slice stop = none :=
  if_neg (Nat.not_le_of_lt hshort)

@[simp]
theorem subtract_add (difference subtrahend : ℕ) :
    subtract (difference + subtrahend) subtrahend = .ok difference := by
  rw [subtract, if_pos (Nat.le_add_left _ _), Nat.add_sub_cancel]

end BtDaemon.Slice
