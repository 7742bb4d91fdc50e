import BtDaemon.FastPair.Readers

/-!
# Teardown of Fast Pair readers

Whatever was written for a reader is safe from the teardown of an older one as soon as that
teardown is past the table in question, and a teardown never goes back. The link and the
writer are safe in every run, because a reader gives both up in one step and no newer stream
is accepted before it.
-/

namespace BtDaemon.FastPair.Readers

open Transition ConnectionState

section Cleared

variable {readers : Table ℕ Reader} {address : Address} {steps serial newer : ℕ}

theorem cleared_iff : Cleared readers address steps newer ↔
    ∀ serial reader, readers.lookup serial = some reader → reader.address = address →
      serial < newer → steps ≤ reader.phase.cleared := by
  constructor
  · intro hcleared serial reader hlookup
    exact hcleared ⟨serial, reader⟩ ((Table.mem_entries _ _ _).mpr hlookup)
  · rintro hcleared ⟨serial, reader⟩ hmem
    exact hcleared serial reader ((Table.mem_entries _ _ _).mp hmem)

/-- Teardown steps are never undone. -/
theorem Cleared.setPhase (hcleared : Cleared readers address steps newer) {reader : Reader}
    {phase : Phase} (hlookup : readers.lookup serial = some reader)
    (hforward : reader.phase.cleared ≤ phase.cleared) :
    Cleared (readers.insert serial ⟨reader.address, phase⟩) address steps newer := by
  rw [cleared_iff] at hcleared ⊢
  intro other found hfound haddress hnewer
  rcases Table.lookup_insert_eq_some.mp hfound with ⟨hother, rfl⟩ | ⟨-, hfound⟩
  · exact Nat.le_trans (hcleared serial reader hlookup haddress (hother ▸ hnewer)) hforward
  · exact hcleared other found hfound haddress hnewer

theorem Cleared.erase (hcleared : Cleared readers address steps newer) :
    Cleared (readers.erase serial) address steps newer := by
  rw [cleared_iff] at hcleared ⊢
  intro other found hfound
  obtain ⟨-, hfound⟩ := Table.lookup_erase_eq_some.mp hfound
  exact hcleared other found hfound

/-- A reader that starts now is no older than any reader there was. -/
theorem Cleared.insert (hcleared : Cleared readers address steps newer) {reader : Reader}
    (hlast : newer ≤ serial) : Cleared (readers.insert serial reader) address steps newer := by
  rw [cleared_iff] at hcleared ⊢
  intro other found hfound haddress hnewer
  rw [Table.lookup_insert] at hfound
  split at hfound
  · omega
  · exact hcleared other found hfound haddress hnewer

/-- An older reader that still has to take a step contradicts that it was taken. -/
theorem Cleared.not_lt (hcleared : Cleared readers address steps newer) {reader : Reader}
    (hlookup : readers.lookup serial = some reader) (haddress : reader.address = address)
    (hphase : reader.phase.cleared < steps) : ¬serial < newer := by
  intro hnewer
  have := cleared_iff.mp hcleared serial reader hlookup haddress hnewer
  omega

end Cleared

/-- What is written for this reader at the address is past the teardown of older readers. -/
def Safe (state : State) (address : Address) (steps newer : ℕ) : Prop :=
  newer < state.spawned ∧ Cleared state.readers address steps newer

structure Guarded (state : State) : Prop where
  fresh : ∀ serial reader, state.readers.lookup serial = some reader → serial < state.spawned
  /-- A reader that has not begun its teardown has the link. -/
  live : ∀ serial reader, state.readers.lookup serial = some reader → reader.phase.cleared = 0 →
    state.linkOf.lookup reader.address = some serial ∧
      ∃ start, state.connections.links.lookup reader.address = some (.connected start)
  link : ∀ address newer, state.linkOf.lookup address = some newer → Safe state address 1 newer
  writer : ∀ address newer, state.connections.writers.lookup address = some newer →
    Safe state address 1 newer
  generations : ∀ generation key, state.reservations.lookup generation = some key →
    generation < state.commands.sequence
  noted : ∀ generation serial, state.commandOf.lookup generation = some serial →
    generation < state.commands.sequence
  /-- The entry of a key is the entry of a reservation that is still held. -/
  held : ∀ key generation, state.commands.entries.lookup key = some generation →
    state.reservations.lookup generation = some key
  command : ∀ key generation newer, state.commands.entries.lookup key = some generation →
    state.commandOf.lookup generation = some newer → Safe state key.address 2 newer
  runtime : ∀ address newer, state.runtimeOf.lookup address = some newer →
    Safe state address 3 newer
  report : ∀ address newer, state.reportOf.lookup address = some newer →
    Safe state address 4 newer

theorem guarded_init : Guarded State.init := by
  constructor <;> simp [State.init, ConnectionState.init, PendingCommands.init]

namespace Guarded

variable {state : State}

/-! ## Steps on the readers -/

theorem setPhase (guarded : Guarded state) {serial : ℕ} {address : Address} {before : Phase}
    (phase : Phase) (hlookup : state.readers.lookup serial = some ⟨address, before⟩)
    (hforward : before.cleared ≤ phase.cleared) :
    Guarded (state.setPhase serial address phase) := by
  have hsafe : ∀ {other steps newer}, Safe state other steps newer →
      Safe (state.setPhase serial address phase) other steps newer := fun hsafe ↦
    ⟨hsafe.1, hsafe.2.setPhase hlookup hforward⟩
  exact {
    fresh := by
      intro other reader hfound
      simp only [State.setPhase, Table.lookup_insert] at hfound
      split at hfound
      · next hother => exact hother ▸ guarded.fresh serial _ hlookup
      · exact guarded.fresh other reader hfound
    live := by
      intro other reader hfound hcleared
      simp only [State.setPhase, Table.lookup_insert_eq_some] at hfound
      rcases hfound with ⟨hother, rfl⟩ | ⟨-, hfound⟩
      · have hzero : before.cleared = 0 := Nat.le_zero.mp (hcleared ▸ hforward)
        exact hother ▸ guarded.live serial _ hlookup hzero
      · exact guarded.live other reader hfound hcleared
    link := fun other newer hlink ↦ hsafe (guarded.link other newer hlink)
    writer := fun other newer hwriter ↦ hsafe (guarded.writer other newer hwriter)
    generations := guarded.generations
    noted := guarded.noted
    held := guarded.held
    command := fun key generation newer hentry hcommand ↦
      hsafe (guarded.command key generation newer hentry hcommand)
    runtime := fun other newer hruntime ↦ hsafe (guarded.runtime other newer hruntime)
    report := fun other newer hreport ↦ hsafe (guarded.report other newer hreport) }

theorem finish (guarded : Guarded state) (serial : ℕ) :
    Guarded { state with readers := state.readers.erase serial } := by
  have hfound : ∀ {other reader}, (state.readers.erase serial).lookup other = some reader →
      state.readers.lookup other = some reader := by
    intro other reader hlookup
    obtain ⟨-, hlookup⟩ := Table.lookup_erase_eq_some.mp hlookup
    exact hlookup
  exact {
    fresh := fun other reader hlookup ↦ guarded.fresh other reader (hfound hlookup)
    live := fun other reader hlookup ↦ guarded.live other reader (hfound hlookup)
    link := fun other newer hlink ↦ (guarded.link other newer hlink).imp_right Cleared.erase
    writer := fun other newer hwriter ↦
      (guarded.writer other newer hwriter).imp_right Cleared.erase
    generations := guarded.generations
    noted := guarded.noted
    held := guarded.held
    command := fun key generation newer hentry hcommand ↦
      (guarded.command key generation newer hentry hcommand).imp_right Cleared.erase
    runtime := fun other newer hruntime ↦
      (guarded.runtime other newer hruntime).imp_right Cleared.erase
    report := fun other newer hreport ↦
      (guarded.report other newer hreport).imp_right Cleared.erase }

/-- Every live reader of an address has its stream, so a stream that is not refused comes after
the end of all of them. -/
theorem accept (guarded : Guarded state) (address : Address)
    (hidle : (state.connections.links.lookup address).any LinkState.isConnected = false) :
    Guarded (state.accept address (state.connections.accepted state.now address, true)) := by
  have hended : ∀ serial reader, state.readers.lookup serial = some reader →
      reader.address = address → 1 ≤ reader.phase.cleared := by
    intro serial reader hlookup haddress
    by_contra hlive
    obtain ⟨-, start, hlink⟩ := guarded.live serial reader hlookup (by omega)
    rw [← haddress, hlink] at hidle
    cases hidle
  have hsafe : ∀ {other steps newer}, Safe state other steps newer →
      Safe (state.accept address (state.connections.accepted state.now address, true))
        other steps newer := fun hsafe ↦
    ⟨Nat.lt_succ_of_lt hsafe.1, hsafe.2.insert (Nat.le_of_lt hsafe.1)⟩
  exact {
    fresh := by
      intro serial reader hlookup
      simp only [State.accept, Table.lookup_insert] at hlookup ⊢
      split at hlookup
      · omega
      · exact Nat.lt_succ_of_lt (guarded.fresh serial reader hlookup)
    live := by
      intro serial reader hlookup hcleared
      simp only [State.accept, ConnectionState.accepted, Table.lookup_insert] at hlookup ⊢
      split at hlookup
      · next hserial =>
        obtain rfl := Option.some.inj hlookup
        simp [hserial]
      · have haddress : reader.address ≠ address := fun haddress ↦ by
          have := hended serial reader hlookup haddress
          omega
        rw [if_neg haddress, if_neg haddress]
        exact guarded.live serial reader hlookup hcleared
    link := by
      intro other newer hlink
      simp only [State.accept, Table.lookup_insert_eq_some] at hlink
      rcases hlink with ⟨hother, rfl⟩ | ⟨-, hlink⟩
      · refine ⟨Nat.lt_succ_self _, cleared_iff.mpr fun serial reader hlookup haddress hnewer ↦ ?_⟩
        simp only [State.accept, Table.lookup_insert, if_neg (Nat.ne_of_lt hnewer)] at hlookup
        exact hended serial reader hlookup (haddress.trans hother)
      · exact hsafe (guarded.link other newer hlink)
    writer := fun other newer hwriter ↦ hsafe (guarded.writer other newer hwriter)
    generations := guarded.generations
    noted := guarded.noted
    held := guarded.held
    command := fun key generation newer hentry hcommand ↦
      hsafe (guarded.command key generation newer hentry hcommand)
    runtime := fun other newer hruntime ↦ hsafe (guarded.runtime other newer hruntime)
    report := fun other newer hreport ↦ hsafe (guarded.report other newer hreport) }

/-! ## Steps on the tables -/

/-- The connection state may lose links and writers, as long as no live reader loses its own. -/
theorem connections (guarded : Guarded state) {connections : ConnectionState}
    (hlinks : ∀ serial reader, state.readers.lookup serial = some reader →
      reader.phase.cleared = 0 → connections.links.lookup reader.address =
        state.connections.links.lookup reader.address)
    (hwriters : ∀ address newer, connections.writers.lookup address = some newer →
      state.connections.writers.lookup address = some newer) :
    Guarded { state with connections := connections } :=
  { guarded with
    live := by
      intro serial reader hlookup hcleared
      obtain ⟨howner, start, hlink⟩ := guarded.live serial reader hlookup hcleared
      exact ⟨howner, start, (hlinks serial reader hlookup hcleared).trans hlink⟩
    writer := fun address newer hwriter ↦
      guarded.writer address newer (hwriters address newer hwriter) }

theorem keepsStreams (guarded : Guarded state) {connections : ConnectionState}
    (hkeeps : KeepsStreams state.connections connections) :
    Guarded { state with connections := connections } := by
  refine guarded.connections (fun serial reader hlookup hcleared ↦ ?_) fun address newer ↦ ?_
  · obtain ⟨-, start, hlink⟩ := guarded.live serial reader hlookup hcleared
    rw [hlink, hkeeps.link _ _ hlink]
  · rw [hkeeps.writers]
    exact id

/-- The writer of a live reader replaces none that a newer reader installed. -/
theorem installWriter (guarded : Guarded state) {serial : ℕ} {address : Address}
    (hlookup : state.readers.lookup serial = some ⟨address, .accepted⟩) :
    Guarded (state.installWriter serial address) := by
  have hwritten : Guarded { state with
      connections.writers := state.connections.writers.insert address serial } := { guarded with
    writer := by
      intro other newer hwriter
      rcases Table.lookup_insert_eq_some.mp hwriter with ⟨hother, rfl⟩ | ⟨-, hwriter⟩
      · exact guarded.link other serial (hother ▸ (guarded.live serial _ hlookup rfl).1)
      · exact guarded.writer other newer hwriter }
  exact hwritten.setPhase .installed hlookup (Nat.le_refl 0)

theorem writeRuntime (guarded : Guarded state) {serial : ℕ} {address : Address}
    (runtime : Table Address RuntimeReport) (hsafe : Safe state address 3 serial) :
    Guarded { state with
      runtime := runtime
      runtimeOf := state.runtimeOf.insert address serial } :=
  { guarded with
    runtime := by
      intro other newer hruntime
      rcases Table.lookup_insert_eq_some.mp hruntime with ⟨hother, rfl⟩ | ⟨-, hruntime⟩
      · exact hother ▸ hsafe
      · exact guarded.runtime other newer hruntime }

theorem updateReport (guarded : Guarded state) {serial : ℕ} {address : Address}
    (report : BatteryReport) (hsafe : Safe state address 4 serial) :
    Guarded (state.updateReport serial address report) :=
  { guarded with
    report := by
      intro other newer hreport
      rw [State.updateReport, Table.lookup_insert_eq_some] at hreport
      rcases hreport with ⟨hother, rfl⟩ | ⟨-, hreport⟩
      · exact hother ▸ hsafe
      · exact guarded.report other newer hreport }

/-- Commands may lose entries. -/
theorem commands (guarded : Guarded state) {commands : PendingCommands}
    (hsequence : commands.sequence = state.commands.sequence)
    (hentries : ∀ key generation, commands.entries.lookup key = some generation →
      state.commands.entries.lookup key = some generation) :
    Guarded { state with commands := commands } :=
  { guarded with
    generations := hsequence ▸ guarded.generations
    noted := hsequence ▸ guarded.noted
    held := fun key generation hentry ↦ guarded.held key generation (hentries key generation hentry)
    command := fun key generation newer hentry ↦
      guarded.command key generation newer (hentries key generation hentry) }

/-- A generation may be noted for a reader that is past the teardown of older ones. -/
theorem noteCommand (guarded : Guarded state) {generation : ℕ} {key : CommandKey}
    (hheld : state.reservations.lookup generation = some key) (owner : Option ℕ)
    (hsafe : ∀ serial ∈ owner, Safe state key.address 2 serial) :
    Guarded (state.noteCommand generation owner) := by
  cases owner with
  | none => exact guarded
  | some serial =>
    exact { guarded with
      noted := by
        intro found newer hcommand
        simp only [State.noteCommand, Table.lookup_insert] at hcommand
        split at hcommand
        · next hfound => exact hfound ▸ guarded.generations generation key hheld
        · exact guarded.noted found newer hcommand
      command := by
        intro other found newer hentry hcommand
        simp only [State.noteCommand, Table.lookup_insert_eq_some] at hcommand
        rcases hcommand with ⟨hfound, rfl⟩ | ⟨-, hcommand⟩
        · have hother := guarded.held other found hentry
          rw [hfound, hheld] at hother
          obtain rfl := Option.some.inj hother
          exact hsafe _ rfl
        · exact guarded.command other found newer hentry hcommand }

/-- The generation of a new reservation was never held and never noted. -/
theorem hold (guarded : Guarded state) {commands : PendingCommands} {key : CommandKey}
    {generation : ℕ} (hreserve : state.commands.reserve key = .ok (commands, generation)) :
    Guarded { state with
      commands := commands
      reservations := state.reservations.insert generation key } := by
  unfold PendingCommands.reserve at hreserve
  split_ifs at hreserve
  obtain ⟨rfl, rfl⟩ := Prod.mk.inj (Except.ok.inj hreserve)
  exact { guarded with
    generations := by
      intro found other hfound
      rw [Table.lookup_insert] at hfound
      split at hfound
      · next hnew => exact hnew ▸ Nat.lt_succ_self _
      · exact Nat.lt_succ_of_lt (guarded.generations found other hfound)
    noted := fun found newer hcommand ↦ Nat.lt_succ_of_lt (guarded.noted found newer hcommand)
    held := by
      intro other found hentry
      rw [Table.lookup_insert] at hentry ⊢
      split at hentry
      · next hother =>
        obtain rfl := Option.some.inj hentry
        rw [if_pos rfl, hother]
      · have hheld := guarded.held other found hentry
        rw [if_neg (Nat.ne_of_lt (guarded.generations found other hheld))]
        exact hheld
    command := by
      intro other found newer hentry hcommand
      rcases Table.lookup_insert_eq_some.mp hentry with ⟨-, rfl⟩ | ⟨-, hentry⟩
      · exact absurd (guarded.noted _ newer hcommand) (Nat.lt_irrefl _)
      · exact guarded.command other found newer hentry hcommand }

theorem reserve (guarded : Guarded state) (key : CommandKey)
    (hsafe : ∀ serial ∈ state.reader key.address, Safe state key.address 2 serial) :
    Guarded (state.reserve key) := by
  unfold State.reserve
  split
  · exact guarded
  · next commands generation hreserve =>
    have hheld : (state.reservations.insert generation key).lookup generation = some key := by
      rw [Table.lookup_insert, if_pos rfl]
    exact (guarded.hold hreserve).noteCommand hheld _ hsafe

theorem release (guarded : Guarded state) {generation : ℕ} {key : CommandKey}
    (hlookup : state.reservations.lookup generation = some key) :
    Guarded (state.release generation key) := by
  have hentries : ∀ other found,
      (state.commands.release key generation).entries.lookup other = some found →
        state.commands.entries.lookup other = some found ∧ found ≠ generation := by
    intro other found hentry
    unfold PendingCommands.release at hentry
    split at hentry
    · rw [Table.lookup_erase] at hentry
      split at hentry
      · cases hentry
      · next hcurrent hother =>
        refine ⟨hentry, ?_⟩
        rintro rfl
        have hheld := guarded.held other found hentry
        exact hother (Option.some.inj (hheld.symm.trans hlookup))
    · next hcurrent =>
      refine ⟨hentry, ?_⟩
      rintro rfl
      have hheld := guarded.held other found hentry
      obtain rfl := Option.some.inj (hheld.symm.trans hlookup)
      exact hcurrent hentry
  have hsequence : (state.commands.release key generation).sequence = state.commands.sequence := by
    unfold PendingCommands.release
    split <;> rfl
  have hcommands := guarded.commands hsequence fun other found hentry ↦ (hentries other found hentry).1
  exact { hcommands with
    generations := by
      intro found other hfound
      obtain ⟨-, hfound⟩ := Table.lookup_erase_eq_some.mp hfound
      exact hcommands.generations found other hfound
    held := by
      intro other found hentry
      simp only [State.release, Table.lookup_erase]
      rw [if_neg (hentries other found hentry).2]
      exact hcommands.held other found hentry }

/-- The first teardown step gives up the reader's own link and writer. -/
theorem ended (guarded : Guarded state) {serial : ℕ} {address : Address} {phase : Phase}
    (hlookup : state.readers.lookup serial = some ⟨address, phase⟩) (hlive : phase.cleared = 0)
    (random : UInt8) :
    Guarded ({ state with
      connections := state.connections.ended state.now address random }.setPhase
        serial address .ended) := by
  have hmoved := guarded.setPhase .ended hlookup (hlive ▸ Nat.zero_le 1)
  refine hmoved.connections (fun other reader hfound hcleared ↦ ?_) fun other newer hwriter ↦ ?_
  · simp only [State.setPhase, Table.lookup_insert_eq_some] at hfound
    rcases hfound with ⟨-, rfl⟩ | ⟨hother, hfound⟩
    · cases hcleared
    · have haddress : reader.address ≠ address := by
        intro haddress
        have hfirst := (guarded.live serial _ hlookup hlive).1
        have hsecond := (guarded.live other reader hfound hcleared).1
        rw [haddress, hfirst] at hsecond
        exact hother (Option.some.inj hsecond).symm
      rw [ConnectionState.ended, Table.lookup_erase, if_neg haddress]
      rfl
  · obtain ⟨-, hwriter⟩ := Table.lookup_erase_eq_some.mp hwriter
    exact hwriter

theorem teardown (guarded : Guarded state) {serial : ℕ} {address : Address} {phase : Phase}
    {random : UInt8} {next : State}
    (hlookup : state.readers.lookup serial = some ⟨address, phase⟩)
    (hstep : state.teardown serial address random phase = some next) : Guarded next := by
  cases phase with
  | accepted =>
    obtain rfl := Option.some.inj hstep
    exact guarded.ended hlookup rfl random
  | installed => cases hstep
  | running =>
    obtain rfl := Option.some.inj hstep
    exact guarded.ended hlookup rfl random
  | ended =>
    obtain rfl := Option.some.inj hstep
    have hkept : ∀ key generation,
        (state.commands.disconnect address).entries.lookup key = some generation →
          state.commands.entries.lookup key = some generation := by
      intro key generation hentry
      rw [PendingCommands.lookup_disconnect] at hentry
      split at hentry
      · cases hentry
      · exact hentry
    have hcleared : Guarded { state with commands := state.commands.disconnect address } :=
      guarded.commands rfl hkept
    exact hcleared.setPhase .disconnected hlookup (Nat.le_succ 1)
  | disconnected =>
    obtain rfl := Option.some.inj hstep
    have hcleared : Guarded { state with runtime := state.runtime.erase address } :=
      { guarded with }
    exact hcleared.setPhase .forgotten hlookup (Nat.le_succ 2)
  | forgotten =>
    obtain rfl := Option.some.inj hstep
    have hcleared : Guarded { state with reports := state.reports.erase address } :=
      { guarded with }
    exact hcleared.finish serial

/-- A reader that has written nothing yet is safe where its older readers are cleared. -/
theorem safe_of_cleared (guarded : Guarded state) {serial steps : ℕ} {reader : Reader}
    (hlookup : state.readers.lookup serial = some reader)
    (hcleared : Cleared state.readers reader.address steps serial) :
    Safe state reader.address steps serial :=
  ⟨guarded.fresh serial reader hlookup, hcleared⟩

theorem accepts (guarded : Guarded state) {address : Address} {result : ConnectionState × Bool}
    (hresult : result = (state.connections, false) ∨
      (state.connections.links.lookup address).any LinkState.isConnected = false ∧
        result = (state.connections.accepted state.now address, true)) :
    Guarded (state.accept address result) := by
  rcases hresult with rfl | ⟨hidle, rfl⟩
  · exact guarded
  · exact guarded.accept address hidle

theorem connectionStep (guarded : Guarded state) (address : Address)
    (connectionStep : ConnectionStep) :
    Guarded { state with connections := state.connection address connectionStep } := by
  apply guarded.keepsStreams
  cases connectionStep with
  | begin transport random => exact keepsStreams_begin _ _ _ _ _
  | failed attempt error random => exact keepsStreams_connectionFailed _ _ _ _ _ _
  | change connected => exact keepsStreams_noteConnectionChange _ _ _
  | psmUnknown | psmUnavailable | clearDue => exact ⟨fun _ _ hlink ↦ hlink, rfl⟩

theorem sends (guarded : Guarded state) {generation : ℕ} {key : CommandKey}
    (hlookup : state.reservations.lookup generation = some key)
    (hcleared : ∀ serial ∈ state.connections.writers.lookup key.address,
      Cleared state.readers key.address 2 serial) : Guarded (state.send generation key) := by
  unfold State.send
  split
  · next serial hwriter =>
    apply guarded.noteCommand hlookup _
    intro found hfound
    obtain rfl := Option.some.inj hfound
    exact ⟨(guarded.writer key.address serial hwriter).1, hcleared serial hwriter⟩
  · exact guarded.release hlookup

theorem reserves (guarded : Guarded state) {key : CommandKey}
    (hcleared : ∀ serial ∈ state.reader key.address,
      Cleared state.readers key.address 2 serial) : Guarded (state.reserve key) := by
  refine guarded.reserve key fun serial hserial ↦ ⟨?_, hcleared serial hserial⟩
  simp only [State.reader, Option.mem_def] at hserial
  split at hserial
  · exact (guarded.link key.address serial hserial).1
  · cases hserial

end Guarded

theorem guarded_step (state : State) (action : Action) (next : State) (guarded : Guarded state)
    (hapart : Apart state action) (hstep : system.step state action = some next) :
    Guarded next := by
  cases action with
  | advance elapsed =>
    obtain rfl := Option.some.inj hstep
    exact { guarded with }
  | connection address connectionStep =>
    obtain rfl := Option.some.inj hstep
    exact guarded.connectionStep address connectionStep
  | markConnected address =>
    obtain rfl := Option.some.inj hstep
    exact guarded.accepts (markConnected_cases _ _ _)
  | connectCompleted address attempt =>
    obtain rfl := Option.some.inj hstep
    exact guarded.accepts (connectCompleted_cases _ _ _ _)
  | installWriter serial =>
    simp only [system, step] at hstep
    split at hstep
    · next address hlookup =>
      obtain rfl := Option.some.inj hstep
      exact guarded.installWriter hlookup
    · cases hstep
  | createRuntime serial =>
    simp only [system, step] at hstep
    split at hstep
    · next address hlookup =>
      obtain rfl := Option.some.inj hstep
      have hsafe := guarded.safe_of_cleared hlookup (hapart _ hlookup)
      exact (guarded.writeRuntime _ hsafe).setPhase .running hlookup (Nat.le_refl 0)
    · cases hstep
  | updateRuntime serial value =>
    simp only [system, step] at hstep
    split at hstep
    · next address hlookup =>
      obtain rfl := Option.some.inj hstep
      exact guarded.writeRuntime _ (guarded.safe_of_cleared hlookup (hapart _ hlookup))
    · cases hstep
  | updateReport serial report =>
    simp only [system, step] at hstep
    split at hstep
    · next address hlookup =>
      obtain rfl := Option.some.inj hstep
      exact guarded.updateReport report (guarded.safe_of_cleared hlookup (hapart _ hlookup))
    · cases hstep
  | resolve serial group code =>
    simp only [system, step] at hstep
    split at hstep
    · obtain rfl := Option.some.inj hstep
      refine guarded.commands rfl fun key generation hentry ↦ ?_
      obtain ⟨-, hentry⟩ := Table.lookup_erase_eq_some.mp hentry
      exact hentry
    · cases hstep
  | teardown serial random =>
    simp only [system, step] at hstep
    split at hstep
    · next reader hlookup => exact guarded.teardown hlookup hstep
    · cases hstep
  | removeReport address =>
    obtain rfl := Option.some.inj hstep
    exact { guarded with }
  | reserve key =>
    obtain rfl := Option.some.inj hstep
    exact guarded.reserves hapart
  | send generation =>
    obtain ⟨key, hlookup, rfl⟩ := Option.map_eq_some_iff.mp hstep
    exact guarded.sends hlookup (hapart key hlookup)
  | release generation =>
    obtain ⟨key, hlookup, rfl⟩ := Option.map_eq_some_iff.mp hstep
    exact guarded.release hlookup

/-! ## Newer sessions are spared -/

/-- A teardown step clears one table at the address and leaves the rest as it is. -/
theorem Guarded.spared {state next : State} (guarded : Guarded state) {serial : ℕ}
    {address : Address} {phase : Phase} {random : UInt8}
    (hlookup : state.readers.lookup serial = some ⟨address, phase⟩)
    (hstep : state.teardown serial address random phase = some next) :
    Spared serial address state next := by
  have hlate : ∀ {steps newer}, Safe state address steps newer → phase.cleared < steps →
      ¬serial < newer := fun hsafe hbefore ↦ hsafe.2.not_lt hlookup rfl hbefore
  have hended : phase.cleared = 0 → next = ({ state with
      connections := state.connections.ended state.now address random }.setPhase
        serial address .ended) → Spared serial address state next := by
    rintro hlive rfl
    have hfirst : phase.cleared < 1 := hlive ▸ Nat.zero_lt_one
    exact {
      link := fun newer hlink hnewer ↦ absurd hnewer (hlate (guarded.link _ _ hlink) hfirst)
      writer := fun newer hwriter hnewer ↦
        absurd hnewer (hlate (guarded.writer _ _ hwriter) hfirst)
      command := fun key _ _ generation hentry newer _ _ ↦ hentry
      runtime := fun newer _ _ ↦ rfl
      report := fun newer _ _ ↦ rfl }
  cases phase with
  | accepted => exact hended rfl (Option.some.inj hstep).symm
  | installed => cases hstep
  | running => exact hended rfl (Option.some.inj hstep).symm
  | ended =>
    obtain rfl := Option.some.inj hstep
    exact {
      link := fun newer _ _ ↦ rfl
      writer := fun newer hwriter _ ↦ hwriter
      command := by
        rintro key - rfl generation hentry newer hcommand hnewer
        exact absurd hnewer
          (hlate (guarded.command key generation newer hentry hcommand) Nat.one_lt_two)
      runtime := fun newer _ _ ↦ rfl
      report := fun newer _ _ ↦ rfl }
  | disconnected =>
    obtain rfl := Option.some.inj hstep
    exact {
      link := fun newer _ _ ↦ rfl
      writer := fun newer hwriter _ ↦ hwriter
      command := fun key _ _ generation hentry newer _ _ ↦ hentry
      runtime := fun newer hruntime hnewer ↦
        absurd hnewer (hlate (guarded.runtime _ _ hruntime) (Nat.lt_succ_self 2))
      report := fun newer _ _ ↦ rfl }
  | forgotten =>
    obtain rfl := Option.some.inj hstep
    exact {
      link := fun newer _ _ ↦ rfl
      writer := fun newer hwriter _ ↦ hwriter
      command := fun key _ _ generation hentry newer _ _ ↦ hentry
      runtime := fun newer _ _ ↦ rfl
      report := fun newer hreport hnewer ↦
        absurd hnewer (hlate (guarded.report _ _ hreport) (Nat.lt_succ_self 3)) }

theorem Guarded.sparesNewer {state : State} (guarded : Guarded state) (action : Action) :
    SparesNewer state action := by
  intro target htarget next hstep
  cases action with
  | teardown serial random =>
    obtain ⟨reader, hlookup, rfl⟩ := Option.map_eq_some_iff.mp htarget
    have hteardown : state.teardown serial reader.address random reader.phase = some next := by
      simpa only [Option.mem_def, step, hlookup] using hstep
    exact guarded.spared hlookup hteardown
  | advance | connection | markConnected | connectCompleted | installWriter | createRuntime
  | updateRuntime | updateReport | resolve | removeReport | reserve | send | release =>
    cases htarget

/-- In a run that keeps new state apart from older teardowns, no teardown step touches what a
newer session of its address has written. -/
theorem sparesNewer_of_meets (actions : List Action)
    (hapart : system.Meets Apart system.init actions) :
    system.Meets SparesNewer system.init actions :=
  system.meets_of_meets guarded_step (fun _ action guarded _ ↦ guarded.sparesNewer action)
    guarded_init hapart

/-- A newer stream is accepted while the old reader is still tearing down, and starts up once
that is over. -/
def overlappingRun : List Action :=
  [.markConnected 7, .installWriter 0, .createRuntime 0, .updateReport 0 ⟨some 9, none, none, default⟩,
    .teardown 0 0, .teardown 0 0, .markConnected 7, .installWriter 1, .reserve ⟨7, 8, 0x12⟩,
    .send 0, .teardown 0 0, .createRuntime 1, .teardown 0 0, .updateRuntime 1 (.sessionNonce 5),
    .teardown 1 0, .teardown 1 0]

theorem sparesNewer_of_overlappingRun :
    (system.run system.init overlappingRun).isSome ∧
      system.Meets SparesNewer system.init overlappingRun :=
  ⟨by decide, sparesNewer_of_meets overlappingRun (by decide)⟩

/-- The newer stream reports its session nonce before the old teardown removes the runtime. -/
def lateTeardownRun : List Action :=
  [.markConnected 7, .installWriter 0, .createRuntime 0, .teardown 0 0, .markConnected 7,
    .installWriter 1, .createRuntime 1, .updateRuntime 1 (.sessionNonce 5), .teardown 0 0,
    .teardown 0 0]

theorem not_sparesNewer_of_lateTeardownRun :
    ∃ final, system.run system.init lateTeardownRun = some final ∧
      final.readers.lookup 1 = some ⟨7, .running⟩ ∧ final.runtime.lookup 7 = none ∧
      ¬system.Meets SparesNewer system.init lateTeardownRun :=
  ⟨_, rfl, by decide, by decide, by decide⟩

end BtDaemon.FastPair.Readers
