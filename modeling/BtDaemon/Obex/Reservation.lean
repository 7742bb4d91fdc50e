import BtDaemon.Foundation.FileSystem
import BtDaemon.Foundation.Transition
import BtDaemon.Obex.FileName

/-!
# Reservations of incoming files

An incoming transfer reserves its file before anyone is asked about it: names are tried one after
another, each by an exclusive creation, until one is free. Any number of transfers do so at the same
time, and other processes create, remove, link and rename files in between. A reservation that is
not accepted removes its file again.
-/

namespace BtDaemon.Obex

open Transition UnixPath

/-! ## One reservation -/

structure Environment where
  btDaemonDownloadDir : Option String
  xdgDownloadDir : Option String
  home : Option String

def Environment.downloadDirectory (self : Environment) : Option String :=
  (self.btDaemonDownloadDir.or self.xdgDownloadDir).or
    (self.home.map fun home ↦ join home "Downloads")

inductive ReservationPhase where
  | resolving (directory : String)
  | opening (suffix : ℕ)
  | reserved (path : String) (file : ℕ)
  | accepted (path : String) (file : ℕ)
  | dropped (path : String) (file : ℕ)
  | failed (error : String)
  deriving DecidableEq

/-- The file of a reservation that succeeded. -/
def ReservationPhase.destination : ReservationPhase → Option (String × ℕ)
  | .reserved path file | .accepted path file | .dropped path file => some (path, file)
  | _ => none

/-- A call of `reserve_incoming_destination` and the destination that it returned. What was tried
is kept for the statements. -/
structure Reservation where
  fileName : String
  phase : ReservationPhase
  directory : Option String := none
  tried : List String := []
  deriving DecidableEq

/-- How `create_dir_all` and `canonicalize` end. -/
inductive Resolution where
  | notCreated
  | notResolved
  | resolved (directory : String)

def attempts : ℕ := 10000

def createNewOptions : OpenOptions := { write := true, createNew := true }

namespace Reservation

def new (name filename : Option String) (environment : Environment) : Reservation where
  fileName := safeFileName (incomingName name filename)
  phase := match environment.downloadDirectory with
    | some directory => .resolving directory
    | none => .failed "no incoming Bluetooth download directory is configured"

variable (self : Reservation)

def resolve (requested : String) : Resolution → Reservation
  | .notCreated =>
    { self with phase := .failed ("create Bluetooth download directory " ++ requested) }
  | .notResolved => { self with phase := .failed "resolve Bluetooth download directory" }
  | .resolved directory => { self with phase := .opening 0, directory := some directory }

/-- After a name that is taken the next one is tried. -/
def advance (suffix : ℕ) : Reservation :=
  { self with
    phase :=
      if suffix + 1 < attempts then .opening (suffix + 1)
      else .failed "could not reserve a unique incoming Bluetooth filename" }

def candidate (directory : String) (suffix : ℕ) : String :=
  join directory (numberedName self.fileName suffix)

/-- What an attempt comes to. -/
def attempt (suffix : ℕ) (path : String) :
    Except ErrorKind (FileSystem × ℕ) → Reservation
  | .ok (_, file) => { self with phase := .reserved path file, tried := self.tried ++ [path] }
  | .error .alreadyExists => { self with tried := self.tried ++ [path] }.advance suffix
  | .error _ =>
    { self with
      phase := .failed ("reserve incoming Bluetooth file " ++ path)
      tried := self.tried ++ [path] }

end Reservation

/-! ## All reservations -/

/-- A file that was opened for writing, and what its path stood for before. -/
structure Opened where
  path : String
  found : Option ℕ

/-- A step of one reservation, or of another process. -/
inductive FileAction where
  | authorize (name filename : Option String) (environment : Environment)
  | resolve (id : ℕ) (resolution : Resolution)
  | openNext (id : ℕ) (denied : Option ErrorKind)
  | accept (id : ℕ)
  | drop (id : ℕ) (denied : Bool)
  | change (change : FileSystem.Change)

structure Incoming where
  files : FileSystem
  reservations : Table ℕ Reservation := ∅
  next : ℕ := 0
  opened : List Opened := []

namespace Incoming

variable (self : Incoming)

def set (id : ℕ) (reservation : Reservation) : Incoming :=
  { self with reservations := self.reservations.insert id reservation }

def authorize (name filename : Option String) (environment : Environment) : Incoming :=
  { self with
    reservations := self.reservations.insert self.next (.new name filename environment)
    next := self.next + 1 }

def openNext (id : ℕ) (reservation : Reservation) (directory : String) (suffix : ℕ)
    (denied : Option ErrorKind) : Incoming :=
  let path := reservation.candidate directory suffix
  let result := self.files.openFile createNewOptions path denied
  let next := self.set id (reservation.attempt suffix path result)
  match result with
  | .ok (files, _) =>
    { next with
      files := files
      opened := self.opened ++ [⟨path, self.files.entries.lookup path⟩] }
  | .error _ => next

/-- The destructor of a destination that was not accepted. -/
def dropReservation (id : ℕ) (reservation : Reservation) (path : String) (file : ℕ)
    (denied : Bool) : Incoming :=
  { self.set id { reservation with phase := .dropped path file } with
    files := if denied then self.files else self.files.remove path }

def step : FileAction → Option Incoming
  | .authorize name filename environment => some (self.authorize name filename environment)
  | .resolve id resolution => do
    let reservation ← self.reservations.lookup id
    match reservation.phase with
    | .resolving requested => some (self.set id (reservation.resolve requested resolution))
    | _ => none
  | .openNext id denied => do
    let reservation ← self.reservations.lookup id
    match reservation.phase, reservation.directory with
    | .opening suffix, some directory =>
      some (self.openNext id reservation directory suffix denied)
    | _, _ => none
  | .accept id => do
    let reservation ← self.reservations.lookup id
    match reservation.phase with
    | .reserved path file => some (self.set id { reservation with phase := .accepted path file })
    | _ => none
  | .drop id denied => do
    let reservation ← self.reservations.lookup id
    match reservation.phase with
    | .reserved path file => some (self.dropReservation id reservation path file denied)
    | _ => none
  | .change change => some { self with files := self.files.change change }

end Incoming

/-- Reservations over the files that are there at the start. -/
def incomingFiles (files : FileSystem) : System Incoming FileAction where
  init := { files := files }
  step := Incoming.step

/-! ## Confinement -/

/-- A destination that a reservation tried or returned stands in its download directory. -/
structure Reservation.Confined (reservation : Reservation) : Prop where
  safe : SafeName reservation.fileName
  child : ∀ path ∈ reservation.tried, ∃ directory name, reservation.directory = some directory ∧
    Normal name ∧ path = join directory name ∧
      components path = components directory ++ [.normal name]
  distinct : reservation.tried.Nodup
  returned : ∀ path file, reservation.phase.destination = some (path, file) →
    path ∈ reservation.tried

/-- The file of a reservation is there. -/
def Incoming.Stands (state : Incoming) (id : ℕ) (path : String) (file : ℕ) : Prop :=
  ∃ reservation, state.reservations.lookup id = some reservation ∧
    reservation.phase.destination = some (path, file) ∧
      state.files.entries.lookup path = some file

structure Incoming.Confined (state : Incoming) : Prop where
  each : ∀ id reservation, state.reservations.lookup id = some reservation →
    reservation.Confined
  fresh : ∀ opened ∈ state.opened, opened.found = none
  exclusive : ∀ first second path other file otherFile, first ≠ second →
    state.Stands first path file → state.Stands second other otherFile → path ≠ other

/-! ## What a reservation keeps -/

/-- The names are tried in their order. -/
structure Reservation.Coherent (reservation : Reservation) : Prop where
  safe : SafeName reservation.fileName
  tried : reservation.tried = (List.range reservation.tried.length).map
    (reservation.candidate (reservation.directory.getD ""))
  unresolved : reservation.directory = none → reservation.tried = []
  resolving : ∀ requested, reservation.phase = .resolving requested → reservation.tried = []
  opening : ∀ suffix, reservation.phase = .opening suffix → suffix = reservation.tried.length
  returned : ∀ path file, reservation.phase.destination = some (path, file) →
    path ∈ reservation.tried

namespace Reservation

variable {reservation : Reservation}

theorem candidate_injective (safe : SafeName reservation.fileName) (directory : String) :
    Function.Injective (reservation.candidate directory) := by
  intro first second hsame
  have hcomponents := congrArg components hsame
  rw [candidate, candidate, (normal_numberedName safe.normal first).components_join,
    (normal_numberedName safe.normal second).components_join] at hcomponents
  have hname := List.append_cancel_left hcomponents
  exact numberedName_injective safe.normal (by simpa using hname)

namespace Coherent

theorem confined (coherent : reservation.Coherent) : reservation.Confined where
  safe := coherent.safe
  child path hpath := by
    have hmem := hpath
    rw [coherent.tried] at hmem
    obtain ⟨suffix, _, rfl⟩ := List.mem_map.mp hmem
    cases hdirectory : reservation.directory with
    | none =>
      rw [coherent.unresolved hdirectory] at hpath
      cases hpath
    | some directory =>
      have hnormal := normal_numberedName coherent.safe.normal suffix
      exact ⟨directory, _, rfl, hnormal, rfl, hnormal.components_join directory⟩
  distinct := by
    rw [coherent.tried]
    exact List.nodup_range.map (candidate_injective coherent.safe _)
  returned := coherent.returned

/-- Nothing was tried at the start. -/
theorem start {fileName : String} {phase : ReservationPhase} (safe : SafeName fileName)
    (hopening : ∀ suffix, phase ≠ .opening suffix) (hdestination : phase.destination = none) :
    Reservation.Coherent { fileName := fileName, phase := phase } where
  safe := safe
  tried := rfl
  unresolved _ := rfl
  resolving _ _ := rfl
  opening suffix hphase := absurd hphase (hopening suffix)
  returned path file hfound := by
    rw [hdestination] at hfound
    cases hfound

theorem new (name filename : Option String) (environment : Environment) :
    (Reservation.new name filename environment).Coherent := by
  unfold Reservation.new
  refine start (safeName_safeFileName (incomingName name filename)) ?_ ?_
  · intro suffix hopening
    split at hopening <;> cases hopening
  · split <;> rfl

/-- A reservation may fail at any time. -/
theorem fail (coherent : reservation.Coherent) (error : String) :
    { reservation with phase := .failed error }.Coherent :=
  { coherent with
    resolving := fun _ h ↦ nomatch h
    opening := fun _ h ↦ nomatch h
    returned := fun _ _ h ↦ nomatch h }

theorem resolve (coherent : reservation.Coherent) {requested : String}
    (hphase : reservation.phase = .resolving requested) (resolution : Resolution) :
    (reservation.resolve requested resolution).Coherent := by
  have hnone := coherent.resolving requested hphase
  cases resolution with
  | notCreated => exact coherent.fail _
  | notResolved => exact coherent.fail _
  | resolved directory =>
    refine ⟨coherent.safe, ?_, (fun h ↦ nomatch h), (fun _ h ↦ nomatch h), ?_,
      (fun _ _ h ↦ nomatch h)⟩
    · simp [Reservation.resolve, hnone]
    · intro suffix hopening
      obtain rfl : 0 = suffix := by simpa [Reservation.resolve] using hopening
      simp [Reservation.resolve, hnone]

/-- The name at the number is the next to be tried. -/
theorem tried_append (coherent : reservation.Coherent) {directory : String} {suffix : ℕ}
    (hdirectory : reservation.directory = some directory)
    (hphase : reservation.phase = .opening suffix) :
    reservation.tried ++ [reservation.candidate directory suffix] =
      (List.range (reservation.tried.length + 1)).map (reservation.candidate directory) := by
  have htried := coherent.tried
  rw [hdirectory, Option.getD_some] at htried
  rw [List.range_succ, List.map_append, ← htried, coherent.opening suffix hphase]
  rfl

/-- A further name was tried, and the reservation is no longer at its number. -/
theorem append (coherent : reservation.Coherent) {directory : String} {suffix : ℕ}
    (hdirectory : reservation.directory = some directory)
    (hphase : reservation.phase = .opening suffix) {phase : ReservationPhase}
    (hresolving : ∀ requested, phase ≠ .resolving requested)
    (hopening : ∀ other, phase = .opening other → other = suffix + 1)
    (hreturned : ∀ path file, phase.destination = some (path, file) →
      path = reservation.candidate directory suffix) :
    { reservation with
      phase := phase
      tried := reservation.tried ++ [reservation.candidate directory suffix] }.Coherent where
  safe := coherent.safe
  tried := by
    rw [coherent.tried_append hdirectory hphase, List.length_map, List.length_range, hdirectory]
    rfl
  unresolved hnone := by
    rw [hdirectory] at hnone
    cases hnone
  resolving requested h := absurd h (hresolving requested)
  opening other h := by
    rw [List.length_append, ← coherent.opening suffix hphase]
    exact hopening other h
  returned path file h := by
    rw [hreturned path file h]
    exact List.mem_append_right _ List.mem_cons_self

theorem attempt (coherent : reservation.Coherent) {directory : String} {suffix : ℕ}
    (hdirectory : reservation.directory = some directory)
    (hphase : reservation.phase = .opening suffix) (result : Except ErrorKind (FileSystem × ℕ)) :
    (reservation.attempt suffix (reservation.candidate directory suffix) result).Coherent := by
  cases result with
  | ok found =>
    refine coherent.append hdirectory hphase (fun _ h ↦ nomatch h) (fun _ h ↦ nomatch h) ?_
    intro path file h
    exact (Prod.mk.inj (Option.some.inj h)).1.symm
  | error kind =>
    cases kind with
    | alreadyExists =>
      refine coherent.append hdirectory hphase ?_ ?_ ?_
      · intro requested
        split <;> exact fun h ↦ nomatch h
      · intro other h
        split at h
        · exact (ReservationPhase.opening.inj h).symm
        · cases h
      · intro path file h
        split at h <;> cases h
    | notFound =>
      exact coherent.append hdirectory hphase (fun _ h ↦ nomatch h) (fun _ h ↦ nomatch h)
        (fun _ _ h ↦ nomatch h)
    | other =>
      exact coherent.append hdirectory hphase (fun _ h ↦ nomatch h) (fun _ h ↦ nomatch h)
        (fun _ _ h ↦ nomatch h)

/-- The destination of a reservation does not change with what becomes of it. -/
theorem settle (coherent : reservation.Coherent) {path : String} {file : ℕ}
    (hphase : reservation.phase.destination = some (path, file)) {phase : ReservationPhase}
    (hsame : phase.destination = some (path, file)) :
    { reservation with phase := phase }.Coherent where
  safe := coherent.safe
  tried := coherent.tried
  unresolved := coherent.unresolved
  resolving requested h := by
    obtain rfl : phase = .resolving requested := h
    cases hsame
  opening suffix h := by
    obtain rfl : phase = .opening suffix := h
    cases hsame
  returned found other h := coherent.returned found other (hphase.trans (hsame.symm.trans h))

end Coherent

end Reservation

/-! ## What all reservations keep -/

/-- Every reservation that succeeded made a file of its own. -/
structure Incoming.Coherent (state : Incoming) : Prop where
  each : ∀ id reservation, state.reservations.lookup id = some reservation → reservation.Coherent
  fresh : ∀ opened ∈ state.opened, opened.found = none
  ids : ∀ id reservation, state.reservations.lookup id = some reservation → id < state.next
  made : ∀ id reservation path file, state.reservations.lookup id = some reservation →
    reservation.phase.destination = some (path, file) → file < state.files.next
  own : ∀ first second one two path other file, state.reservations.lookup first = some one →
    state.reservations.lookup second = some two → one.phase.destination = some (path, file) →
      two.phase.destination = some (other, file) → first = second

namespace Incoming

variable {state : Incoming} {id : ℕ} {reservation next : Reservation}

theorem Coherent.confined (coherent : state.Coherent) : state.Confined where
  each id reservation hlookup := (coherent.each id reservation hlookup).confined
  fresh := coherent.fresh
  exclusive first second path other file otherFile hne hfirst hsecond hsame := by
    subst hsame
    obtain ⟨one, hone, honeFile, hfile⟩ := hfirst
    obtain ⟨two, htwo, htwoFile, hother⟩ := hsecond
    obtain rfl := Option.some.inj (hfile.symm.trans hother)
    exact hne (coherent.own first second one two path path file hone htwo honeFile htwoFile)

/-- A step of one reservation. A destination that it did not have is the file that was made. -/
theorem Coherent.update (coherent : state.Coherent) (hid : id < state.next)
    (hnext : next.Coherent) {files : FileSystem} {opened : List Opened}
    (hopened : ∀ opening ∈ opened, opening.found = none)
    (hfiles : state.files.next ≤ files.next)
    (hdestination : ∀ path file, next.phase.destination = some (path, file) →
      (∃ reservation, state.reservations.lookup id = some reservation ∧
        reservation.phase.destination = some (path, file)) ∨
      (file = state.files.next ∧ file < files.next)) :
    Incoming.Coherent { state.set id next with files := files, opened := opened } := by
  have hothers : ∀ other two path otherPath file, state.reservations.lookup other = some two →
      two.phase.destination = some (otherPath, file) →
        next.phase.destination = some (path, file) → other = id := by
    intro other two path otherPath file htwo hfile hfound
    rcases hdestination path file hfound with ⟨reservation, hlookup, hold⟩ | ⟨rfl, _⟩
    · exact coherent.own other id two reservation otherPath path file htwo hlookup hfile hold
    · exact absurd (coherent.made other two otherPath _ htwo hfile) (Nat.lt_irrefl _)
  refine ⟨?_, hopened, ?_, ?_, ?_⟩
  · intro other found hfound
    simp only [set, Table.lookup_insert_eq_some] at hfound
    rcases hfound with ⟨-, rfl⟩ | ⟨-, hfound⟩
    · exact hnext
    · exact coherent.each other found hfound
  · intro other found hfound
    simp only [set, Table.lookup_insert_eq_some] at hfound
    rcases hfound with ⟨rfl, -⟩ | ⟨-, hfound⟩
    · exact hid
    · exact coherent.ids other found hfound
  · intro other found path file hfound hfile
    simp only [set, Table.lookup_insert_eq_some] at hfound
    rcases hfound with ⟨-, rfl⟩ | ⟨-, hfound⟩
    · rcases hdestination path file hfile with ⟨reservation, hlookup, hold⟩ | ⟨_, hmade⟩
      · exact Nat.lt_of_lt_of_le (coherent.made id reservation path file hlookup hold) hfiles
      · exact hmade
    · exact Nat.lt_of_lt_of_le (coherent.made other found path file hfound hfile) hfiles
  · intro first second one two path other file hone htwo hfirst hsecond
    simp only [set, Table.lookup_insert_eq_some] at hone htwo
    rcases hone with ⟨rfl, rfl⟩ | ⟨-, hone⟩
    · rcases htwo with ⟨rfl, -⟩ | ⟨-, htwo⟩
      · rfl
      · exact (hothers second two path other file htwo hsecond hfirst).symm
    · rcases htwo with ⟨rfl, rfl⟩ | ⟨-, htwo⟩
      · exact hothers first one other path file hone hfirst hsecond
      · exact coherent.own first second one two path other file hone htwo hfirst hsecond

/-- A step of one reservation that makes no file. -/
theorem Coherent.set (coherent : state.Coherent) (hlookup : state.reservations.lookup id =
    some reservation) (hnext : next.Coherent) {files : FileSystem}
    (hfiles : files.next = state.files.next)
    (hsame : ∀ path file, next.phase.destination = some (path, file) →
      reservation.phase.destination = some (path, file)) :
    Incoming.Coherent { state.set id next with files := files } :=
  coherent.update (coherent.ids id reservation hlookup) hnext coherent.fresh
    (Nat.le_of_eq hfiles.symm)
    fun path file h ↦ .inl ⟨reservation, hlookup, hsame path file h⟩

theorem Coherent.authorize (coherent : state.Coherent) (name filename : Option String)
    (environment : Environment) : (state.authorize name filename environment).Coherent := by
  have hgrown : Incoming.Coherent { state with next := state.next + 1 } :=
    { coherent with ids := fun id reservation hlookup ↦
        Nat.lt_succ_of_lt (coherent.ids id reservation hlookup) }
  have hnew := Reservation.Coherent.new name filename environment
  have hnone : (Reservation.new name filename environment).phase.destination = none := by
    unfold Reservation.new
    dsimp only
    split <;> rfl
  have hid : state.next < ({ state with next := state.next + 1 } : Incoming).next :=
    Nat.lt_succ_self _
  refine hgrown.update hid hnew coherent.fresh (Nat.le_refl _) ?_
  intro path file hfound
  rw [hnone] at hfound
  cases hfound

theorem Coherent.openNext (coherent : state.Coherent)
    (hlookup : state.reservations.lookup id = some reservation) {directory : String} {suffix : ℕ}
    (hdirectory : reservation.directory = some directory)
    (hphase : reservation.phase = .opening suffix) (denied : Option ErrorKind) :
    (state.openNext id reservation directory suffix denied).Coherent := by
  have hid := coherent.ids id reservation hlookup
  have hattempt := coherent.each id reservation hlookup |>.attempt hdirectory hphase
  unfold Incoming.openNext
  dsimp only
  cases hopen : state.files.openFile createNewOptions (reservation.candidate directory suffix)
      denied with
  | ok found =>
    obtain ⟨files, file⟩ := found
    obtain ⟨hnone, rfl, rfl⟩ := FileSystem.openFile_createNew rfl hopen
    refine coherent.update hid (hattempt _) ?_ (Nat.le_succ _) ?_
    · intro opening hopening
      rcases List.mem_append.mp hopening with hold | hnew
      · exact coherent.fresh opening hold
      · obtain rfl := List.mem_singleton.mp hnew
        exact hnone
    · intro path file hfound
      obtain ⟨_, rfl⟩ := Prod.mk.inj (Option.some.inj hfound)
      exact .inr ⟨rfl, Nat.lt_succ_self _⟩
  | error kind =>
    refine coherent.set hlookup (hattempt (.error kind)) rfl ?_
    intro path file hfound
    cases kind with
    | alreadyExists =>
      simp only [Reservation.attempt, Reservation.advance] at hfound
      split at hfound <;> cases hfound
    | notFound => cases hfound
    | other => cases hfound

theorem Coherent.step (coherent : state.Coherent) {action : FileAction} {later : Incoming}
    (hstep : state.step action = some later) : later.Coherent := by
  cases action with
  | authorize name filename environment =>
    obtain rfl := Option.some.inj hstep
    exact coherent.authorize name filename environment
  | resolve id resolution =>
    obtain ⟨reservation, hlookup, hstep⟩ := Option.bind_eq_some_iff.mp hstep
    split at hstep
    · next requested hphase =>
      obtain rfl := Option.some.inj hstep
      refine coherent.set hlookup
        ((coherent.each id reservation hlookup).resolve hphase resolution) rfl ?_
      intro path file hfound
      cases resolution <;> cases hfound
    · cases hstep
  | openNext id denied =>
    obtain ⟨reservation, hlookup, hstep⟩ := Option.bind_eq_some_iff.mp hstep
    split at hstep
    · next suffix directory hphase hdirectory =>
      obtain rfl := Option.some.inj hstep
      exact coherent.openNext hlookup hdirectory hphase denied
    · cases hstep
  | accept id =>
    obtain ⟨reservation, hlookup, hstep⟩ := Option.bind_eq_some_iff.mp hstep
    split at hstep
    · next path file hphase =>
      obtain rfl := Option.some.inj hstep
      have hfound : reservation.phase.destination = some (path, file) := by rw [hphase]; rfl
      exact coherent.set hlookup ((coherent.each id reservation hlookup).settle hfound rfl) rfl
        fun _ _ h ↦ hfound.trans h
    · cases hstep
  | drop id denied =>
    obtain ⟨reservation, hlookup, hstep⟩ := Option.bind_eq_some_iff.mp hstep
    split at hstep
    · next path file hphase =>
      obtain rfl := Option.some.inj hstep
      have hfound : reservation.phase.destination = some (path, file) := by rw [hphase]; rfl
      refine coherent.set hlookup ((coherent.each id reservation hlookup).settle hfound rfl) ?_
        fun _ _ h ↦ hfound.trans h
      cases denied <;> rfl
    · cases hstep
  | change change =>
    obtain rfl := Option.some.inj hstep
    refine { coherent with made := ?_ }
    intro id reservation path file hlookup hfound
    calc file
      _ < state.files.next := coherent.made id reservation path file hlookup hfound
      _ ≤ (state.files.change change).next := FileSystem.next_le_change change

end Incoming

section Runs

variable {files : FileSystem} {state : Incoming}

theorem coherent_of_reachable (hreachable : (incomingFiles files).Reachable state) :
    state.Coherent := by
  obtain ⟨actions, hrun⟩ := hreachable
  refine (incomingFiles files).run_invariant (fun _ _ _ coherent hstep ↦
    Incoming.Coherent.step coherent hstep) ?_ hrun
  exact {
    each := fun _ _ hlookup ↦ nomatch hlookup
    fresh := fun _ hmem ↦ nomatch hmem
    ids := fun _ _ hlookup ↦ nomatch hlookup
    made := fun _ _ _ _ hlookup ↦ nomatch hlookup
    own := fun _ _ _ _ _ _ _ hlookup ↦ nomatch hlookup }

/-- Names are reduced to one component, and in every run over any files the reservations stay in
their directory, open no file that is there and have their files to themselves. -/
theorem incomingFiles_confined :
    (∀ value, SafeName (safeFileName value)) ∧
      ∀ (files : FileSystem) (state : Incoming), (incomingFiles files).Reachable state →
        state.Confined :=
  ⟨safeName_safeFileName, fun _ _ hreachable ↦ (coherent_of_reachable hreachable).confined⟩

end Runs

def downloads : Environment := ⟨some "/d", none, none⟩

/-- Two transfers of one name, over a file that is there already. -/
def concurrentRun : List FileAction :=
  [.change (.create "/d/a.txt"), .authorize (some "../../a.txt") none downloads,
    .authorize none (some "/tmp/a.txt") downloads, .resolve 0 (.resolved "/d"),
    .resolve 1 (.resolved "/d"), .openNext 0 none, .openNext 1 none, .openNext 0 none,
    .openNext 1 none, .openNext 1 none, .accept 0]

theorem incomingFiles_confined_concurrent :
    ∃ state, (incomingFiles .empty).run (incomingFiles .empty).init concurrentRun = some state ∧
      (state.reservations.lookup 0).map Reservation.phase =
        some (.accepted "/d/a (1).txt" 1) ∧
      (state.reservations.lookup 1).map Reservation.phase =
        some (.reserved "/d/a (2).txt" 2) ∧
      SafeName (safeFileName "../../a.txt") ∧ state.Confined := by
  let result := (incomingFiles .empty).run (incomingFiles .empty).init concurrentRun
  have hrun : result.isSome := by decide
  have hfirst : result.map (fun state ↦ (state.reservations.lookup 0).map Reservation.phase) =
      some (some (.accepted "/d/a (1).txt" 1)) := by decide
  have hsecond : result.map (fun state ↦ (state.reservations.lookup 1).map Reservation.phase) =
      some (some (.reserved "/d/a (2).txt" 2)) := by decide
  obtain ⟨state, hstate⟩ := Option.isSome_iff_exists.mp hrun
  rw [hstate] at hfirst hsecond
  exact ⟨state, hstate, Option.some.inj hfirst, Option.some.inj hsecond,
    incomingFiles_confined.1 _, incomingFiles_confined.2 _ _ ⟨concurrentRun, hstate⟩⟩

end BtDaemon.Obex
