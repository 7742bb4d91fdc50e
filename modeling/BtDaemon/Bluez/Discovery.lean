import BtDaemon.Backend
import BtDaemon.Foundation.Table
import Mathlib.Logic.Function.Basic

/-!
# Discovery on BlueZ adapters

The backend keeps one discovery task for each adapter name. A call of `set_scanning` first
starts or stops such tasks and then reads a snapshot, which is an answer of its own: the
discovery part may succeed and the snapshot fail. What BlueZ answers in the course of one
call is one value here; it lists each adapter once.
-/

namespace BtDaemon.Bluez

/-- The opaque key that clients see for an adapter. Different adapters have different keys. -/
structure AdapterNames where
  key : String → String
  injective : Function.Injective key

/-- BlueZ's answers about one adapter of its list. -/
structure AdapterReply where
  identity : Except BackendError Unit
  powered : Except BackendError Bool
  discover : Except BackendError Unit

def AdapterReply.isPowered (self : AdapterReply) : Bool :=
  match self.powered with
  | .ok powered => powered
  | .error _ => false

structure BluezReplies where
  adapters : Except BackendError (Table String AdapterReply)
  snapshot : Except BackendError Snapshot

structure DiscoveryTask where
  finished : Bool
  deriving DecidableEq, Repr

structure Discovery where
  tasks : Table String DiscoveryTask
  deriving DecidableEq

namespace Discovery

def isRunning (self : Discovery) (name : String) : Bool :=
  (self.tasks.lookup name).any fun task ↦ !task.finished

def runningNames (self : Discovery) : List String := self.tasks.keys.filter self.isRunning

theorem mem_runningNames {self : Discovery} {name : String} :
    name ∈ self.runningNames ↔ self.isRunning name = true := by
  rw [runningNames, List.mem_filter, and_iff_right_iff_imp, Table.mem_keys]
  intro hrunning
  obtain ⟨task, htask, -⟩ := (Option.any_eq_true _ _).mp hrunning
  exact ⟨task, htask⟩

/-! ## The backend's functions -/

def startDiscovery (self : Discovery) (name : String) (adapter : AdapterReply) :
    Except BackendError Bool × Discovery :=
  if self.isRunning name then (.ok false, self)
  else
    match adapter.discover with
    | .error failure => (.error failure, self)
    | .ok _ => (.ok true, ⟨self.tasks.insert name ⟨false⟩⟩)

def stopDiscovery (self : Discovery) : Option String → Discovery
  | some name => ⟨self.tasks.erase name⟩
  | none => ⟨∅⟩

/-- The loop of `discover_powered_adapters`, with its flag and the names started so far. -/
def discoverPoweredAdapters (self : Discovery) (eligible : Bool) (started : List String) :
    List (Σ _ : String, AdapterReply) → Except BackendError Unit × List String × Discovery
  | [] =>
    if eligible then (.ok (), started, self)
    else (.error ⟨.rejected, "Bluetooth discovery requires at least one powered adapter"⟩,
      started, self)
  | ⟨name, adapter⟩ :: rest =>
    match adapter.powered with
    | .error failure => (.error failure, started, self)
    | .ok false => self.discoverPoweredAdapters eligible started rest
    | .ok true =>
      match self.startDiscovery name adapter with
      | (.error failure, _) => (.error failure, started, self)
      | (.ok true, next) => next.discoverPoweredAdapters true (started ++ [name]) rest
      | (.ok false, _) => self.discoverPoweredAdapters true started rest

def rollbackDiscovery (self : Discovery) (names : List String) : Discovery :=
  names.foldl (fun rest name ↦ rest.stopDiscovery (some name)) self

def startGlobalDiscovery (self : Discovery)
    (adapters : Except BackendError (Table String AdapterReply)) :
    Except BackendError Unit × Discovery :=
  match adapters with
  | .error failure => (.error failure, self)
  | .ok adapters =>
    match self.discoverPoweredAdapters false [] adapters.entries with
    | (.ok _, _, next) => (.ok (), next)
    | (.error failure, started, next) => (.error failure, next.rollbackDiscovery started)

/-- The first adapter of the list with this key, reading identities in order. -/
def findIn (names : AdapterNames) (key : String) :
    List (Σ _ : String, AdapterReply) → Except BackendError (Σ _ : String, AdapterReply)
  | [] => .error ⟨.deviceUnavailable, "Bluetooth adapter is no longer available"⟩
  | ⟨name, adapter⟩ :: rest =>
    match adapter.identity with
    | .error failure => .error failure
    | .ok _ => if names.key name = key then .ok ⟨name, adapter⟩ else findIn names key rest

def findAdapter (names : AdapterNames) (key : String)
    (adapters : Except BackendError (Table String AdapterReply)) :
    Except BackendError (Σ _ : String, AdapterReply) :=
  adapters.bind fun adapters ↦ findIn names key adapters.entries

def setAdapterScanning (self : Discovery) (name : String) (adapter : AdapterReply)
    (enabled : Bool) : Except BackendError Unit × Discovery :=
  if enabled then
    match adapter.powered with
    | .error failure => (.error failure, self)
    | .ok false =>
      (.error ⟨.rejected, "Bluetooth discovery requires a powered adapter"⟩, self)
    | .ok true =>
      match self.startDiscovery name adapter with
      | (.error failure, next) => (.error failure, next)
      | (.ok _, next) => (.ok (), next)
  else (.ok (), self.stopDiscovery (some name))

/-- The part of `set_scanning` before its snapshot. -/
def setDiscovery (self : Discovery) (names : AdapterNames) (adapterKey : Option String)
    (enabled : Bool) (adapters : Except BackendError (Table String AdapterReply)) :
    Except BackendError Unit × Discovery :=
  match adapterKey, enabled with
  | some key, enabled =>
    match findAdapter names key adapters with
    | .error failure => (.error failure, self)
    | .ok ⟨name, adapter⟩ => self.setAdapterScanning name adapter enabled
  | none, true => self.startGlobalDiscovery adapters
  | none, false => (.ok (), self.stopDiscovery none)

def setScanning (self : Discovery) (names : AdapterNames) (adapterKey : Option String)
    (enabled : Bool) (replies : BluezReplies) : Except BackendError Snapshot × Discovery :=
  match self.setDiscovery names adapterKey enabled replies.adapters with
  | (.error failure, next) => (.error failure, next)
  | (.ok _, next) => (replies.snapshot, next)

/-! ## Which tasks run afterwards -/

@[simp]
theorem isRunning_insert (self : Discovery) (name other : String) :
    isRunning ⟨self.tasks.insert name ⟨false⟩⟩ other =
      (decide (other = name) || self.isRunning other) := by
  unfold isRunning
  rw [Table.lookup_insert]
  by_cases hname : other = name <;> simp [hname]

@[simp]
theorem isRunning_stopDiscovery (self : Discovery) (target : Option String) (other : String) :
    (self.stopDiscovery target).isRunning other =
      (!target.all (other = ·) && self.isRunning other) := by
  cases target with
  | none => simp [stopDiscovery, isRunning]
  | some name =>
    unfold stopDiscovery isRunning
    rw [Table.lookup_erase]
    by_cases hname : other = name <;> simp [hname]

theorem isRunning_rollbackDiscovery (self : Discovery) (started : List String) (other : String) :
    (self.rollbackDiscovery started).isRunning other =
      (!started.contains other && self.isRunning other) := by
  induction started generalizing self with
  | nil => simp [rollbackDiscovery]
  | cons name rest ih =>
    have hrest : self.rollbackDiscovery (name :: rest) =
        (self.stopDiscovery (some name)).rollbackDiscovery rest := rfl
    rw [hrest, ih, isRunning_stopDiscovery, List.contains_cons]
    by_cases hname : other = name
    · subst hname
      simp
    · have hother : (other == name) = false := beq_false_of_ne hname
      simp [hname, hother]

/-! ## What one start does -/

/-- BlueZ answers for the adapter, and accepts discovery where it would be started. -/
def accepts (self : Discovery) (entry : Σ _ : String, AdapterReply) : Bool :=
  entry.2.powered.isOk &&
    (!entry.2.isPowered || self.isRunning entry.1 || entry.2.discover.isOk)

/-- BlueZ lets the start succeed. -/
def admits (self : Discovery) (names : AdapterNames) (adapterKey : Option String)
    (adapters : Except BackendError (Table String AdapterReply)) : Bool :=
  match adapterKey, adapters with
  | some key, adapters =>
    (findAdapter names key adapters).toOption.any fun entry ↦
      entry.2.isPowered && self.accepts entry
  | none, .ok adapters =>
    adapters.entries.any (fun entry ↦ entry.2.isPowered) && adapters.entries.all self.accepts
  | none, .error _ => false

/-- The start begins discovery on this adapter. -/
def begins (self : Discovery) (names : AdapterNames) (adapterKey : Option String)
    (adapters : Except BackendError (Table String AdapterReply)) (name : String) : Bool :=
  self.admits names adapterKey adapters && !self.isRunning name &&
    adapterKey.all (names.key name = ·) &&
    adapters.toOption.any fun adapters ↦ (adapters.lookup name).any AdapterReply.isPowered

def begun (self : Discovery) (names : AdapterNames) (adapterKey : Option String)
    (adapters : Except BackendError (Table String AdapterReply)) : List String :=
  (adapters.toOption.elim [] AList.keys).filter (self.begins names adapterKey adapters)

theorem mem_begun {self : Discovery} {names : AdapterNames} {adapterKey : Option String}
    {adapters : Except BackendError (Table String AdapterReply)} {name : String} :
    name ∈ self.begun names adapterKey adapters ↔
      self.begins names adapterKey adapters name = true := by
  rw [begun, List.mem_filter, and_iff_right_iff_imp]
  intro hbegins
  simp only [begins, Bool.and_eq_true, Option.any_eq_true] at hbegins
  obtain ⟨-, listed, hlisted, adapter, hadapter, -⟩ := hbegins
  rw [hlisted]
  exact (Table.mem_keys listed name).mpr ⟨adapter, hadapter⟩

/-- The loop over the adapters, each of which it meets once. -/
structure Discovered (before after : Discovery) (eligible : Bool) (started begun : List String)
    (entries : List (Σ _ : String, AdapterReply)) (result : Except BackendError Unit) : Prop where
  ok_iff : result.isOk = true ↔
    (eligible = true ∨ ∃ entry ∈ entries, entry.2.isPowered = true) ∧
      ∀ entry ∈ entries, before.accepts entry = true
  isRunning_iff : ∃ new, begun = started ++ new ∧ (∀ name ∈ new, before.isRunning name = false) ∧
    (∀ name, after.isRunning name = true ↔ before.isRunning name = true ∨ name ∈ new) ∧
    (result.isOk = true → ∀ name, name ∈ new ↔ before.isRunning name = false ∧
      ∃ adapter, ⟨name, adapter⟩ ∈ entries ∧ adapter.isPowered = true)

theorem Discovered.failed {self : Discovery} {eligible : Bool} {started : List String}
    {entry : Σ _ : String, AdapterReply} {rest : List (Σ _ : String, AdapterReply)}
    {failure : BackendError} (hrefuses : self.accepts entry = false) :
    Discovered self self eligible started started (entry :: rest) (.error failure) where
  ok_iff := by simp [Except.isOk, Except.toBool, hrefuses]
  isRunning_iff := ⟨[], by simp [Except.isOk, Except.toBool]⟩

/-- An adapter that is off, or already being scanned, is passed over. -/
theorem Discovered.skip {self next : Discovery} {eligible : Bool} {started begun : List String}
    {entry : Σ _ : String, AdapterReply} {rest : List (Σ _ : String, AdapterReply)}
    {result : Except BackendError Unit}
    (hrest : Discovered self next (eligible || entry.2.isPowered) started begun rest result)
    (haccepts : self.accepts entry = true)
    (hskip : entry.2.isPowered = true → self.isRunning entry.1 = true) :
    Discovered self next eligible started begun (entry :: rest) result where
  ok_iff := by
    rw [hrest.ok_iff]
    simp [haccepts, or_assoc]
  isRunning_iff := by
    obtain ⟨new, hbegun, hfresh, hrunning, hnew⟩ := hrest.isRunning_iff
    refine ⟨new, hbegun, hfresh, hrunning, fun hok name ↦ ?_⟩
    rw [hnew hok name]
    refine and_congr_right fun hidle ↦ exists_congr fun adapter ↦ ?_
    constructor
    · rintro ⟨hmem, hpowered⟩
      exact ⟨List.mem_cons_of_mem _ hmem, hpowered⟩
    · rintro ⟨hmem, hpowered⟩
      obtain rfl | hmem := List.mem_cons.mp hmem
      · exact absurd (hskip hpowered) (by simp [hidle])
      · exact ⟨hmem, hpowered⟩

/-- Discovery begins on an adapter, and no later entry names it again. -/
theorem Discovered.start {self next : Discovery} {eligible : Bool} {started begun : List String}
    {name : String} {adapter : AdapterReply} {rest : List (Σ _ : String, AdapterReply)}
    {result : Except BackendError Unit}
    (hrest : Discovered ⟨self.tasks.insert name ⟨false⟩⟩ next true (started ++ [name]) begun rest
      result)
    (haccepts : self.accepts ⟨name, adapter⟩ = true) (hpowered : adapter.isPowered = true)
    (hidle : self.isRunning name = false) (hname : name ∉ rest.keys) :
    Discovered self next eligible started begun (⟨name, adapter⟩ :: rest) result where
  ok_iff := by
    have hlater : (∀ entry ∈ rest, accepts ⟨self.tasks.insert name ⟨false⟩⟩ entry = true) ↔
        ∀ entry ∈ rest, self.accepts entry = true := by
      apply forall₂_congr
      intro entry hentry
      have hother : entry.1 ≠ name := fun heq ↦
        hname (heq ▸ List.mem_keys_of_mem hentry)
      simp [accepts, hother]
    rw [hrest.ok_iff, hlater]
    simp [haccepts, hpowered]
  isRunning_iff := by
    obtain ⟨new, hbegun, hfresh, hrunning, hnew⟩ := hrest.isRunning_iff
    simp only [isRunning_insert, Bool.or_eq_true, decide_eq_true_eq, Bool.or_eq_false_iff,
      decide_eq_false_iff_not] at hfresh hrunning hnew
    refine ⟨name :: new, by simp [hbegun], ?_, ?_, fun hok other ↦ ?_⟩
    · intro other hother
      obtain rfl | hother := List.mem_cons.mp hother
      · exact hidle
      · exact (hfresh other hother).2
    · intro other
      rw [hrunning other, List.mem_cons]
      tauto
    · rw [List.mem_cons, hnew hok other]
      constructor
      · rintro (rfl | ⟨⟨-, hother⟩, found, hmem, hfound⟩)
        · exact ⟨hidle, adapter, List.mem_cons_self, hpowered⟩
        · exact ⟨hother, found, List.mem_cons_of_mem _ hmem, hfound⟩
      · rintro ⟨hother, found, hmem, hfound⟩
        by_cases hsame : other = name
        · exact Or.inl hsame
        · obtain heq | hmem := List.mem_cons.mp hmem
          · exact absurd (congrArg Sigma.fst heq) hsame
          · exact Or.inr ⟨⟨hsame, hother⟩, found, hmem, hfound⟩

theorem discoverPoweredAdapters_spec (self : Discovery) (eligible : Bool) (started : List String)
    (entries : List (Σ _ : String, AdapterReply)) (hnodup : entries.NodupKeys) :
    Discovered self (self.discoverPoweredAdapters eligible started entries).2.2 eligible started
      (self.discoverPoweredAdapters eligible started entries).2.1 entries
      (self.discoverPoweredAdapters eligible started entries).1 := by
  induction entries generalizing self eligible started with
  | nil =>
    constructor
    · cases eligible <;> simp [discoverPoweredAdapters, Except.isOk, Except.toBool]
    · exact ⟨[], by cases eligible <;> simp [discoverPoweredAdapters]⟩
  | cons entry rest ih =>
    obtain ⟨name, adapter⟩ := entry
    obtain ⟨hname, hrest⟩ := List.nodupKeys_cons.mp hnodup
    unfold discoverPoweredAdapters
    cases hread : adapter.powered with
    | error failure => exact .failed (by simp [accepts, hread, Except.isOk, Except.toBool])
    | ok powered =>
      cases powered with
      | false =>
        have hoff : adapter.isPowered = false := by simp [AdapterReply.isPowered, hread]
        refine .skip ?_ (by simp [accepts, hoff, hread, Except.isOk, Except.toBool])
          fun hon ↦ absurd hon (by simp [hoff])
        rw [hoff, Bool.or_false]
        exact ih self eligible started hrest
      | true =>
        have hon : adapter.isPowered = true := by simp [AdapterReply.isPowered, hread]
        cases hrunning : self.isRunning name with
        | true =>
          simp only [startDiscovery, hrunning, if_true]
          refine .skip ?_ (by simp [accepts, hrunning, hread, Except.isOk, Except.toBool])
            fun _ ↦ hrunning
          rw [hon, Bool.or_true]
          exact ih self true started hrest
        | false =>
          cases hdiscover : adapter.discover with
          | error failure =>
            simp only [startDiscovery, hrunning, hdiscover]
            exact .failed (by
              simp [accepts, hrunning, hon, hdiscover, Except.isOk, Except.toBool])
          | ok _ =>
            simp only [startDiscovery, hrunning, hdiscover]
            refine .start (ih _ true _ hrest) ?_ hon hrunning hname
            simp [accepts, hread, hdiscover, Except.isOk, Except.toBool]

theorem startGlobalDiscovery_spec (self : Discovery) (names : AdapterNames)
    (adapters : Except BackendError (Table String AdapterReply)) :
    (self.startGlobalDiscovery adapters).1.isOk = self.admits names none adapters ∧
      ∀ name, (self.startGlobalDiscovery adapters).2.isRunning name =
        (self.isRunning name || self.begins names none adapters name) := by
  cases adapters with
  | error failure =>
    simp [startGlobalDiscovery, admits, begins, Except.isOk, Except.toBool]
  | ok adapters =>
    have hspec := self.discoverPoweredAdapters_spec false [] adapters.entries adapters.nodupKeys
    rcases houtcome : self.discoverPoweredAdapters false [] adapters.entries with
      ⟨result, begun, next⟩
    simp only [houtcome] at hspec
    obtain ⟨new, hbegun, hfresh, hrunning, hnew⟩ := hspec.isRunning_iff
    obtain rfl : begun = new := hbegun
    have hadmits : self.admits names none (.ok adapters) = result.isOk := by
      rw [Bool.eq_iff_iff, hspec.ok_iff]
      simp [admits]
    cases result with
    | error failure =>
      simp only [startGlobalDiscovery, houtcome, begins, hadmits]
      refine ⟨trivial, fun name ↦ ?_⟩
      have hold := hfresh name
      rw [isRunning_rollbackDiscovery, Bool.eq_iff_iff, Bool.and_eq_true, hrunning name]
      by_cases hmem : name ∈ begun <;> simp_all [Except.isOk, Except.toBool]
    | ok _ =>
      simp only [startGlobalDiscovery, houtcome, begins, hadmits]
      refine ⟨trivial, fun name ↦ ?_⟩
      rw [Bool.eq_iff_iff, hrunning name, hnew rfl name]
      simp [Table.mem_entries, Except.toOption, Option.any_eq_true, Except.isOk, Except.toBool]

theorem findIn_eq_ok {names : AdapterNames} {key : String}
    {entries : List (Σ _ : String, AdapterReply)} {entry : Σ _ : String, AdapterReply}
    (hfound : findIn names key entries = .ok entry) :
    entry ∈ entries ∧ names.key entry.1 = key := by
  induction entries with
  | nil => simp [findIn] at hfound
  | cons first rest ih =>
    unfold findIn at hfound
    split at hfound
    · contradiction
    · split at hfound
      · next hkey =>
        obtain rfl := Except.ok.inj hfound
        exact ⟨List.mem_cons_self, hkey⟩
      · exact ⟨List.mem_cons_of_mem _ (ih hfound).1, (ih hfound).2⟩

theorem findAdapter_eq_ok {names : AdapterNames} {key name : String} {adapter : AdapterReply}
    {adapters : Except BackendError (Table String AdapterReply)}
    (hfound : findAdapter names key adapters = .ok ⟨name, adapter⟩) :
    names.key name = key ∧ ∃ listed, adapters = .ok listed ∧ listed.lookup name = some adapter := by
  cases adapters with
  | error failure => simp [findAdapter, Except.bind] at hfound
  | ok listed =>
    obtain ⟨hmem, hkey⟩ := findIn_eq_ok hfound
    exact ⟨hkey, listed, rfl, (Table.mem_entries listed name adapter).mp hmem⟩

theorem AdapterNames.key_eq_iff {names : AdapterNames} {key name : String}
    (hkey : names.key name = key) (other : String) : names.key other = key ↔ other = name :=
  ⟨fun heq ↦ names.injective (heq.trans hkey.symm), fun heq ↦ heq ▸ hkey⟩

theorem setAdapterScanning_start (self : Discovery) (name : String) (adapter : AdapterReply) :
    (self.setAdapterScanning name adapter true).1.isOk =
        (adapter.isPowered && self.accepts ⟨name, adapter⟩) ∧
      ∀ other, (self.setAdapterScanning name adapter true).2.isRunning other =
        (self.isRunning other || (adapter.isPowered && self.accepts ⟨name, adapter⟩ &&
          decide (other = name))) := by
  unfold setAdapterScanning accepts AdapterReply.isPowered
  rw [if_pos rfl]
  cases hread : adapter.powered with
  | error failure => simp [Except.isOk, Except.toBool]
  | ok powered =>
    cases powered with
    | false => simp [Except.isOk, Except.toBool]
    | true =>
      cases hrunning : self.isRunning name with
      | true =>
        simp [startDiscovery, hrunning, Except.isOk, Except.toBool]
      | false =>
        cases hdiscover : adapter.discover with
        | error failure => simp [startDiscovery, hrunning, hdiscover, Except.isOk, Except.toBool]
        | ok _ =>
          simp [startDiscovery, hrunning, hdiscover, Except.isOk, Except.toBool, Bool.or_comm]

/-- What a start does to the discovery tasks, whatever BlueZ answers. -/
theorem setDiscovery_start (self : Discovery) (names : AdapterNames) (adapterKey : Option String)
    (adapters : Except BackendError (Table String AdapterReply)) :
    (self.setDiscovery names adapterKey true adapters).1.isOk =
        self.admits names adapterKey adapters ∧
      ∀ name, (self.setDiscovery names adapterKey true adapters).2.isRunning name =
        (self.isRunning name || self.begins names adapterKey adapters name) := by
  cases adapterKey with
  | none => exact self.startGlobalDiscovery_spec names adapters
  | some key =>
    simp only [setDiscovery]
    cases hfind : findAdapter names key adapters with
    | error failure =>
      simp [admits, begins, hfind, Except.toOption, Except.isOk, Except.toBool]
    | ok entry =>
      obtain ⟨name, adapter⟩ := entry
      obtain ⟨hkey, listed, rfl, hlookup⟩ := findAdapter_eq_ok hfind
      obtain ⟨hok, hrunning⟩ := self.setAdapterScanning_start name adapter
      simp only [hok, hrunning, begins, admits, hfind, Except.toOption, Option.any_some,
        Option.all_some, AdapterNames.key_eq_iff hkey, true_and]
      intro other
      by_cases hother : other = name
      · subst hother
        cases hpowered : adapter.isPowered <;> cases self.isRunning other <;>
          simp [hlookup, hpowered]
      · simp [hother]

/-- The stop reaches BlueZ's adapter, if it names one. -/
def finds (names : AdapterNames) (target : Option String)
    (adapters : Except BackendError (Table String AdapterReply)) : Bool :=
  target.all fun key ↦ (findAdapter names key adapters).isOk

/-- What a stop does to the discovery tasks, whatever BlueZ answers. -/
theorem setDiscovery_stop (self : Discovery) (names : AdapterNames) (target : Option String)
    (adapters : Except BackendError (Table String AdapterReply)) :
    (self.setDiscovery names target false adapters).1.isOk = finds names target adapters ∧
      ∀ name, (self.setDiscovery names target false adapters).2.isRunning name =
        (!(finds names target adapters && target.all (names.key name = ·)) &&
          self.isRunning name) := by
  cases target with
  | none => simp [setDiscovery, finds, Except.isOk, Except.toBool]
  | some key =>
    simp only [setDiscovery]
    cases hfind : findAdapter names key adapters with
    | error failure => simp [finds, hfind, Except.isOk, Except.toBool]
    | ok entry =>
      obtain ⟨name, adapter⟩ := entry
      obtain ⟨hkey, -⟩ := findAdapter_eq_ok hfind
      simp [finds, hfind, setAdapterScanning, AdapterNames.key_eq_iff hkey, Except.isOk,
        Except.toBool]

end Discovery

end BtDaemon.Bluez
