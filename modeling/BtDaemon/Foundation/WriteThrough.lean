import Mathlib.Data.Setoid.Basic

/-!
# Write-through storage

A value is kept in memory and in a file. The abstract update is `commit`: it replaces both, or
neither when the write fails. A program may edit a copy, write before it commits, or change the
value in place and undo the change; each is as good as `commit` when it ends in an equivalent
state, because equivalent states agree with their files alike.
-/

namespace BtDaemon.WriteThrough

structure Backed (Memory File : Type) where
  memory : Memory
  file : File

namespace Backed

variable {Memory File : Type} [Setoid Memory]

/-- The same file, and memory with the same content. -/
instance : Setoid (Backed Memory File) where
  r first second := first.memory ≈ second.memory ∧ first.file = second.file
  iseqv := {
    refl := fun store ↦ ⟨Setoid.refl store.memory, rfl⟩
    symm := fun hsame ↦ ⟨Setoid.symm hsame.1, hsame.2.symm⟩
    trans := fun hfirst hsecond ↦
      ⟨Setoid.trans hfirst.1 hsecond.1, hfirst.2.trans hsecond.2⟩ }

omit [Setoid Memory] in
/-- Replace both sides, or keep both. -/
def commit (store : Backed Memory File) (candidate : Memory) (written : File)
    (succeeds : Bool) : Backed Memory File :=
  if succeeds then ⟨candidate, written⟩ else store

/-- A fresh load of the file gives what is in memory. -/
def Agrees (load : File → Option Memory) (store : Backed Memory File) : Prop :=
  ∃ loaded, load store.file = some loaded ∧ loaded ≈ store.memory

theorem Agrees.congr {load : File → Option Memory} {first second : Backed Memory File}
    (agrees : Agrees load first) (hsame : first ≈ second) : Agrees load second := by
  obtain ⟨loaded, hload, hloaded⟩ := agrees
  obtain ⟨hmemory, hfile⟩ := hsame
  exact ⟨loaded, hfile ▸ hload, Setoid.trans hloaded hmemory⟩

theorem Agrees.commit {load : File → Option Memory} {store : Backed Memory File}
    {candidate : Memory} {written : File} {succeeds : Bool} (agrees : Agrees load store)
    (hwritten : Agrees load ⟨candidate, written⟩) :
    Agrees load (store.commit candidate written succeeds) := by
  unfold Backed.commit
  split
  · exact hwritten
  · exact agrees

/-- What a call does to a store: it leaves both sides alone, or it commits a candidate that
agrees with what was written. A call that fails, or whose write fails, must be of the first
kind. -/
inductive WritesThrough (load : File → Option Memory) (before after : Backed Memory File)
    (succeeds failed : Bool) : Prop where
  | keeps (hsame : after ≈ before)
  | commits {candidate : Memory} {written : File} (hsucceeds : succeeds = true)
      (hfailed : failed = false) (hwritten : Agrees load ⟨candidate, written⟩)
      (hsame : after ≈ before.commit candidate written succeeds)

variable {load : File → Option Memory} {before after : Backed Memory File}
  {succeeds failed : Bool}

theorem WritesThrough.agrees (writes : WritesThrough load before after succeeds failed)
    (agrees : Agrees load before) : Agrees load after := by
  cases writes with
  | keeps hsame => exact agrees.congr (Setoid.symm hsame)
  | commits _ _ hwritten hsame => exact (agrees.commit hwritten).congr (Setoid.symm hsame)

theorem WritesThrough.kept (writes : WritesThrough load before after succeeds failed)
    (hfails : failed = true ∨ succeeds = false) : after ≈ before := by
  cases writes with
  | keeps hsame => exact hsame
  | commits hsucceeds hfailed _ _ =>
    rcases hfails with hfails | hfails
    · cases hfailed.symm.trans hfails
    · cases hsucceeds.symm.trans hfails

end Backed

end BtDaemon.WriteThrough
