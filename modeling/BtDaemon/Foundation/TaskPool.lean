import BtDaemon.Foundation.Table

/-!
# Pools of running tasks

A pool holds the tasks that run, each under a number of its own. A task runs until it ends,
until the group it was spawned in is aborted, or until the last owner of that group goes away.
Other tasks can be owners: a task that holds a reference keeps the groups behind it.
-/

namespace BtDaemon

structure TaskPool (Task : Type) where
  live : Table ℕ Task
  spawned : ℕ
  fresh : ∀ serial task, live.lookup serial = some task → serial < spawned

namespace TaskPool

variable {Task : Type}

instance : Membership Task (TaskPool Task) := ⟨fun pool task ↦ task ∈ pool.live.values⟩

instance [DecidableEq Task] (pool : TaskPool Task) (task : Task) : Decidable (task ∈ pool) :=
  inferInstanceAs (Decidable (task ∈ pool.live.values))

theorem mem_iff {pool : TaskPool Task} {task : Task} :
    task ∈ pool ↔ ∃ serial, pool.live.lookup serial = some task :=
  Table.mem_values pool.live task

def empty : TaskPool Task := ⟨∅, 0, fun _ _ hlookup ↦ by simp at hlookup⟩

def spawn (pool : TaskPool Task) (task : Task) : TaskPool Task where
  live := pool.live.insert pool.spawned task
  spawned := pool.spawned + 1
  fresh serial found hlookup := by
    rw [Table.lookup_insert] at hlookup
    split at hlookup
    · omega
    · exact Nat.lt_succ_of_lt (pool.fresh serial found hlookup)

theorem mem_spawn {pool : TaskPool Task} {task other : Task} :
    other ∈ pool.spawn task ↔ other = task ∨ other ∈ pool := by
  simp only [mem_iff, spawn, Table.lookup_insert]
  constructor
  · rintro ⟨serial, hlookup⟩
    split at hlookup
    · exact .inl (Option.some.inj hlookup).symm
    · exact .inr ⟨serial, hlookup⟩
  · rintro (rfl | ⟨serial, hlookup⟩)
    · exact ⟨pool.spawned, if_pos rfl⟩
    · have hbound := pool.fresh serial other hlookup
      exact ⟨serial, (if_neg (Nat.ne_of_lt hbound)).trans hlookup⟩

def spawnAll (pool : TaskPool Task) (tasks : List Task) : TaskPool Task := tasks.foldl spawn pool

theorem mem_spawnAll {pool : TaskPool Task} {tasks : List Task} {other : Task} :
    other ∈ pool.spawnAll tasks ↔ other ∈ tasks ∨ other ∈ pool := by
  induction tasks generalizing pool with
  | nil => simp [spawnAll]
  | cons task rest ih =>
    have hrest : other ∈ pool.spawnAll (task :: rest) ↔ other ∈ rest ∨ other ∈ pool.spawn task :=
      ih
    rw [hrest, mem_spawn, List.mem_cons]
    tauto

/-- Keep the tasks that satisfy the predicate. -/
def retain (pool : TaskPool Task) (keep : Task → Bool) : TaskPool Task where
  live := pool.live.retain fun _ task ↦ keep task
  spawned := pool.spawned
  fresh serial task hlookup := by
    rw [Table.lookup_retain] at hlookup
    exact pool.fresh serial task (Option.filter_eq_some_iff.mp hlookup).1

theorem mem_retain {pool : TaskPool Task} {keep : Task → Bool} {task : Task} :
    task ∈ pool.retain keep ↔ task ∈ pool ∧ keep task := by
  simp only [mem_iff, retain, Table.lookup_retain, Option.filter_eq_some_iff]
  exact ⟨fun ⟨serial, hlookup, hkeep⟩ ↦ ⟨⟨serial, hlookup⟩, hkeep⟩,
    fun ⟨⟨serial, hlookup⟩, hkeep⟩ ↦ ⟨serial, hlookup, hkeep⟩⟩

/-- A task ends by itself. -/
def finish (pool : TaskPool Task) (serial : ℕ) : TaskPool Task where
  live := pool.live.erase serial
  spawned := pool.spawned
  fresh other task hlookup := by
    obtain ⟨-, hlookup⟩ := Table.lookup_erase_eq_some.mp hlookup
    exact pool.fresh other task hlookup

theorem mem_of_mem_finish {pool : TaskPool Task} {serial : ℕ} {task : Task}
    (hmem : task ∈ pool.finish serial) : task ∈ pool := by
  obtain ⟨other, hlookup⟩ := mem_iff.mp hmem
  obtain ⟨-, hlookup⟩ := Table.lookup_erase_eq_some.mp hlookup
  exact mem_iff.mpr ⟨other, hlookup⟩

/-- Abort the selected tasks. -/
def abort (pool : TaskPool Task) (select : Task → Bool) : TaskPool Task :=
  pool.retain fun task ↦ !select task

theorem mem_abort {pool : TaskPool Task} {select : Task → Bool} {task : Task} :
    task ∈ pool.abort select ↔ task ∈ pool ∧ select task = false := by
  rw [abort, mem_retain, Bool.not_eq_true']

section Collect

variable (pool : TaskPool Task) (held : Task → Bool) (keeps : Task → Task → Bool)

/-- End the tasks whose group has lost its last owner. `held` tells whether something outside
the pool owns the task's group, `keeps` whether another task does. -/
def collect : TaskPool Task :=
  pool.retain fun task ↦ held task || pool.live.values.any fun other ↦ keeps other task

theorem mem_collect {task : Task} :
    task ∈ pool.collect held keeps ↔
      task ∈ pool ∧ (held task = true ∨ ∃ other ∈ pool, keeps other task = true) := by
  rw [collect, mem_retain, Bool.or_eq_true, List.any_eq_true]
  rfl

end Collect

end TaskPool

end BtDaemon
