import BtDaemon.Foundation.Table

/-!
# Names and files

A file system gives names to files. Every file that is created is a new one, so that two names stand
for the same file only after a link. Whether a call succeeds can be denied from outside;
an exclusive creation moreover fails under every name that stands for a file.
-/

namespace BtDaemon

/-- The kinds of errors that a caller tells apart. -/
inductive ErrorKind where
  | alreadyExists
  | notFound
  | other
  deriving DecidableEq

structure OpenOptions where
  write : Bool := false
  create : Bool := false
  createNew : Bool := false

/-- Files are numbered in the order of their creation, and the next number is not in use. -/
structure FileSystem where
  entries : Table String ℕ
  next : ℕ
  old : ∀ path file, entries.lookup path = some file → file < next

namespace FileSystem

def empty : FileSystem := ⟨∅, 0, fun _ _ hlookup ↦ nomatch hlookup⟩

variable (self : FileSystem)

def create (path : String) : FileSystem where
  entries := self.entries.insert path self.next
  next := self.next + 1
  old other file hlookup := by
    rcases Table.lookup_insert_eq_some.mp hlookup with ⟨-, rfl⟩ | ⟨-, hlookup⟩
    · exact Nat.lt_succ_self _
    · exact Nat.lt_succ_of_lt (self.old other file hlookup)

def remove (path : String) : FileSystem where
  entries := self.entries.erase path
  next := self.next
  old other file hlookup := by
    obtain ⟨-, hlookup⟩ := Table.lookup_erase_eq_some.mp hlookup
    exact self.old other file hlookup

/-- Let a path stand for a file. -/
def name (path : String) (file : ℕ) (hold : file < self.next) : FileSystem where
  entries := self.entries.insert path file
  next := self.next
  old other found hlookup := by
    rcases Table.lookup_insert_eq_some.mp hlookup with ⟨-, rfl⟩ | ⟨-, hlookup⟩
    · exact hold
    · exact self.old other found hlookup

/-- A second name for a file. -/
def link (source target : String) : FileSystem :=
  match hsource : self.entries.lookup source with
  | none => self
  | some file =>
    if (self.entries.lookup target).isSome then self
    else self.name target file (self.old source file hsource)

/-- Another name for a file. What had the name loses it. -/
def rename (source target : String) : FileSystem :=
  match hsource : self.entries.lookup source with
  | none => self
  | some file => (self.remove source).name target file (self.old source file hsource)

/-- `OpenOptions::open`, with the file that is open afterwards. -/
def openFile (options : OpenOptions) (path : String) (denied : Option ErrorKind) :
    Except ErrorKind (FileSystem × ℕ) :=
  match denied, self.entries.lookup path with
  | some error, _ => .error error
  | none, some file => if options.createNew then .error .alreadyExists else .ok (self, file)
  | none, none =>
    if options.createNew || options.create then .ok (self.create path, self.next)
    else .error .notFound

/-- What other processes do to the names. -/
inductive Change where
  | create (path : String)
  | remove (path : String)
  | link (source target : String)
  | rename (source target : String)

def change : Change → FileSystem
  | .create path => self.create path
  | .remove path => self.remove path
  | .link source target => self.link source target
  | .rename source target => self.rename source target

variable {self} {next : FileSystem} {options : OpenOptions} {path : String} {file : ℕ}
  {denied : Option ErrorKind}

/-- An exclusive creation finds nothing under the name and makes a new file. -/
theorem openFile_createNew (hexclusive : options.createNew = true)
    (hopen : self.openFile options path denied = .ok (next, file)) :
    self.entries.lookup path = none ∧ next = self.create path ∧ file = self.next := by
  unfold openFile at hopen
  split at hopen
  case h_1 => cases hopen
  case h_2 => simp [hexclusive] at hopen
  case h_3 hnone =>
    rw [hexclusive, Bool.true_or, if_pos rfl] at hopen
    obtain ⟨rfl, rfl⟩ := Prod.mk.inj (Except.ok.inj hopen)
    exact ⟨hnone, rfl, rfl⟩

/-- No number is used again. -/
theorem next_le_change (change : Change) : self.next ≤ (self.change change).next := by
  cases change with
  | create path => exact Nat.le_succ _
  | remove path => exact Nat.le_refl _
  | link source target =>
    change self.next ≤ (self.link source target).next
    unfold link
    split
    · exact Nat.le_refl _
    · split <;> exact Nat.le_refl _
  | rename source target =>
    change self.next ≤ (self.rename source target).next
    unfold rename
    split <;> exact Nat.le_refl _

end FileSystem

end BtDaemon
