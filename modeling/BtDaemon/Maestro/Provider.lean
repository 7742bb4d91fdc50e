import BtDaemon.Identity.Presentation
import BtDaemon.Maestro.Delivery
import BtDaemon.VendorChannel.SessionFence

/-!
# The battery provider

Every vendor channel of the Maestro profile runs a session; the reports of all sessions are kept
in one table, which is read when a snapshot is made. The case has no radio: its last docked
reading is kept for the rest of the session and shown as last-known. A change of the table is
followed by a broadcast; other tasks may run between the two.

What the table holds for an address is a function of what its running session has stored, and
nothing of an earlier session is left.
-/

namespace BtDaemon.Maestro

open Identity (Battery)
open Transition (System)
open VendorChannel (Address)

def source : String := "google-maestro"

structure Report where
  batteries : Batteries
  /-- False once the case reading is remembered from an earlier dock. -/
  caseLive : Bool
  deriving DecidableEq, Repr

def Report.default : Report := ⟨Batteries.default, false⟩

/-- A reading that is remembered. -/
def Reading.remembered (reading : Reading) : Reading := { reading with charging := none }

def Report.update (self : Report) (reported : Batteries) : Report :=
  if reported.caseReading.isSome then ⟨reported, true⟩
  else
    ⟨{ reported with caseReading := self.batteries.caseReading.map Reading.remembered }, false⟩

def battery (id label component : String) (live : Bool) (reading : Reading) : Battery where
  id := id
  label := label
  component := component
  percentage := reading.level
  charging := reading.charging
  source := source
  confidence := if live then "high" else "last-known"

/-- `Report::batteries` -/
def Report.components (self : Report) : List Battery :=
  [self.batteries.left.map (battery "maestro-left" "Left" "left" true),
    self.batteries.right.map (battery "maestro-right" "Right" "right" true),
    self.batteries.caseReading.map (battery "maestro-case" "Case" "case" self.caseLive)].reduceOption

namespace Provider

structure State where
  channels : VendorChannel.State Report
  /-- The stream of every session that was spawned. -/
  streams : Table ℕ Session.State
  /-- Broadcasts of changes that were made and not announced yet. -/
  owed : ℕ
  /-- The table as it was at the last broadcast. -/
  announced : Table Address Report

def init : State := ⟨VendorChannel.State.init, ∅, 0, ∅⟩

inductive Action
  | channel (action : VendorChannel.Action Report)
  | session (serial : ℕ) (action : Session.Action)
  | broadcast

/-- `store`: an unchanged report is not announced. -/
def store (serial : ℕ) (address : Address) (state : State) (reported : Batteries) : State :=
  let previous := state.channels.peers.lookup address
  let report := (previous.getD Report.default).update reported
  if previous = some report then state
  else
    { state with
      channels := state.channels.store serial address report
      owed := state.owed + 1 }

/-- A step of a session, which hands its new reports to `store`. -/
def serve (state : State) (serial : ℕ) (address : Address) (stream next : Session.State) : State :=
  (next.stored.drop stream.stored.length).foldl (store serial address)
    { state with streams := state.streams.insert serial next }

def isClosed (stream : Session.State) : Bool := stream.phase matches .closed _

def step (state : State) : Action → Option State
  | .session serial action =>
    match state.channels.sessions.lookup serial, state.streams.lookup serial with
    | some ⟨address, .running⟩, some stream =>
      (Session.step stream action).map (serve state serial address stream)
    | _, _ => none
  | .channel (.store _ _) => none
  | .channel (.streamEnded serial) =>
    if (state.streams.lookup serial).any isClosed then
      (VendorChannel.step state.channels (.streamEnded serial)).map fun channels ↦
        { state with channels := channels }
    else none
  | .channel (.handlerEnded serial) =>
    match state.channels.sessions.lookup serial with
    | some ⟨address, _⟩ =>
      (VendorChannel.step state.channels (.handlerEnded serial)).map fun channels ↦
        { state with
          channels := channels
          owed := if (state.channels.peers.lookup address).isSome then state.owed + 1
            else state.owed }
    | none => none
  | .channel (.acceptRequest true) =>
    (VendorChannel.step state.channels (.acceptRequest true)).map fun channels ↦
      { state with
        channels := channels
        streams := state.streams.insert state.channels.spawned Session.init }
  | .channel action =>
    (VendorChannel.step state.channels action).map fun channels ↦
      { state with channels := channels }
  | .broadcast =>
    if state.owed = 0 then none
    else some { state with owed := state.owed - 1, announced := state.channels.peers }

def system : System State Action := ⟨init, step⟩

/-- What is answered for an address. -/
def batteries (state : State) (address : Address) : List Battery :=
  ((state.channels.peers.lookup address).map Report.components).getD []

/-! ## What a session leaves in the table -/

/-- The report of a session that has stored these. -/
def summary (stored : List Batteries) : Option Report :=
  stored.foldl (fun previous reported ↦ some ((previous.getD Report.default).update reported)) none

/-- The last reading of the case. -/
def lastDocked (stored : List Batteries) : Option Reading :=
  (stored.filterMap Batteries.caseReading).getLast?

/-- Both buds as they were reported last, and the case as it was when a bud was docked last. -/
def published (stored : List Batteries) : List Battery :=
  match stored.getLast? with
  | none => []
  | some last =>
    [last.left.map (battery "maestro-left" "Left" "left" true),
      last.right.map (battery "maestro-right" "Right" "right" true),
      match last.caseReading with
      | some reading => some (battery "maestro-case" "Case" "case" true reading)
      | none => (lastDocked stored).map fun reading ↦
        battery "maestro-case" "Case" "case" false reading.remembered].reduceOption

theorem summary_concat (earlier : List Batteries) (last : Batteries) :
    summary (earlier ++ [last]) = some (((summary earlier).getD Report.default).update last) := by
  rw [summary, List.foldl_append]
  rfl

theorem lastDocked_concat (earlier : List Batteries) (last : Batteries) :
    lastDocked (earlier ++ [last]) = last.caseReading.or (lastDocked earlier) := by
  rw [lastDocked, List.filterMap_append, List.getLast?_append]
  cases hcase : last.caseReading with
  | none => simp [lastDocked, hcase]
  | some reading => simp [hcase]

/-- The case of the report is the last docked reading, but for the charging state. -/
theorem remembered_summary (stored : List Batteries) :
    ((summary stored).getD Report.default).batteries.caseReading.map Reading.remembered =
      (lastDocked stored).map Reading.remembered := by
  induction stored using List.reverseRecOn with
  | nil => rfl
  | append_singleton earlier last ih =>
    rw [summary_concat, lastDocked_concat, Option.getD_some, Report.update]
    cases hcase : last.caseReading with
    | some reading => simp [hcase]
    | none =>
      have htwice : Reading.remembered ∘ Reading.remembered = Reading.remembered := rfl
      simp only [Option.isSome_none, Bool.false_eq_true, if_false, Option.none_or, Option.map_map,
        htwice]
      exact ih

theorem components_summary (stored : List Batteries) :
    ((summary stored).map Report.components).getD [] = published stored := by
  induction stored using List.reverseRecOn with
  | nil => rfl
  | append_singleton earlier last ih =>
    rw [summary_concat, published, List.getLast?_concat, Option.map_some, Option.getD_some,
      Report.components, Report.update, lastDocked_concat]
    cases hcase : last.caseReading with
    | some reading => simp [hcase]
    | none =>
      simp only [hcase, Option.isSome_none, Bool.false_eq_true, if_false, Option.none_or,
        remembered_summary, Option.map_map]
      rfl

/-! ## The table is what the running sessions stored -/

/-- A stream of a session, as some run of the session left it. -/
def Ran (stream : Session.State) : Prop :=
  ∃ actions, Session.system.run Session.init actions = some stream

/-- The table holds what the running sessions stored, and nothing is left to announce unless a
broadcast is owed. -/
structure Publishes (state : State) : Prop where
  fenced : VendorChannel.Fenced state.channels
  streams : ∀ serial session, state.channels.sessions.lookup serial = some session →
    ∃ stream, state.streams.lookup serial = some stream ∧ Ran stream
  stored : ∀ serial address phase stream,
    state.channels.sessions.lookup serial = some ⟨address, phase⟩ → phase ≠ .cleaned →
      state.streams.lookup serial = some stream →
        state.channels.peers.lookup address = summary stream.stored
  announced : state.owed = 0 →
    ∀ address, state.announced.lookup address = state.channels.peers.lookup address

theorem publishes_init : Publishes init where
  fenced := VendorChannel.Fenced.init
  streams serial session hsession := by cases hsession
  stored serial address phase stream hsession := by cases hsession
  announced _ _ := rfl

theorem store_cases (serial : ℕ) (address : Address) (state : State) (reported : Batteries) :
    let report := ((state.channels.peers.lookup address).getD Report.default).update reported
    state.channels.peers.lookup address = some report ∧ store serial address state reported = state ∨
    store serial address state reported =
      { state with
        channels := state.channels.store serial address report
        owed := state.owed + 1 } := by
  intro report
  unfold store
  by_cases hsame : state.channels.peers.lookup address = some report
  · exact .inl ⟨hsame, if_pos hsame⟩
  · exact .inr (if_neg hsame)

theorem serve_eq_concat {state : State} {serial : ℕ} {address : Address}
    {stream next : Session.State} {reported : Batteries}
    (hstored : next.stored = stream.stored ++ [reported]) :
    serve state serial address stream next =
      store serial address { state with streams := state.streams.insert serial next } reported := by
  rw [serve, hstored, List.drop_left]
  rfl

theorem serve_eq_same {state : State} {serial : ℕ} {address : Address}
    {stream next : Session.State} (hstored : next.stored = stream.stored) :
    serve state serial address stream next =
      { state with streams := state.streams.insert serial next } := by
  rw [serve, hstored, List.drop_length]
  rfl

/-- A step of a session stores at most one report. -/
theorem stored_step {stream next : Session.State} {action : Session.Action}
    (hstep : Session.step stream action = some next) :
    next.stored = stream.stored ∨ ∃ reported, next.stored = stream.stored ++ [reported] := by
  cases Session.step_moves hstep with
  | read bytes hreading hnext => exact .inl (by rw [hnext])
  | drained hpending channel hphase hnext => exact .inl (by rw [hnext]; rfl)
  | failed _ error hopen hnext => exact .inl (by rw [hnext]; rfl)
  | skipped error rest hpending hopen hnext => exact .inl (by rw [hnext])
  | awaited packet rest hpending hphase hnext =>
    rw [hnext, Session.await]
    cases announcedChannel packet with
    | none => exact .inl rfl
    | some channel => exact .inl rfl
  | followed channel packet rest hpending hphase hnext =>
    rw [hnext]
    rcases Session.follow_cases { stream with pending := rest } channel packet with
      ⟨status, -, -, hfollow⟩ | ⟨-, hfollow⟩
    · exact .inl (by rw [hfollow]; rfl)
    · rw [hfollow]
      cases Session.report channel packet with
      | none => exact .inl (List.append_nil _)
      | some reported => exact .inr ⟨reported, rfl⟩
  | subscribed channel hphase hnext => exact .inl (by rw [hnext])

/-- What `serve` does to the table. -/
structure Served (state : State) (serial : ℕ) (address : Address) (next : Session.State)
    (after : State) : Prop where
  streams : after.streams = state.streams.insert serial next
  sessions : after.channels.sessions = state.channels.sessions
  fenced : VendorChannel.Fenced after.channels
  stored : after.channels.peers.lookup address = summary next.stored
  others : ∀ other, other ≠ address →
    after.channels.peers.lookup other = state.channels.peers.lookup other
  announced : after.announced = state.announced
  owed : after.owed = 0 → state.owed = 0 ∧ after.channels.peers = state.channels.peers

theorem served {state : State} (fenced : VendorChannel.Fenced state.channels) {serial : ℕ}
    {address : Address}
    (hrunning : state.channels.sessions.lookup serial = some ⟨address, .running⟩)
    {stream next : Session.State}
    (hpeers : state.channels.peers.lookup address = summary stream.stored)
    {action : Session.Action} (hstep : Session.step stream action = some next) :
    Served state serial address next (serve state serial address stream next) := by
  rcases stored_step hstep with hsame | ⟨reported, hconcat⟩
  · rw [serve_eq_same hsame]
    exact {
      streams := rfl
      sessions := rfl
      fenced := fenced
      stored := hsame ▸ hpeers
      others := fun _ _ ↦ rfl
      announced := rfl
      owed := fun hzero ↦ ⟨hzero, rfl⟩ }
  · rw [serve_eq_concat hconcat]
    rcases store_cases serial address { state with streams := state.streams.insert serial next }
      reported with ⟨hequal, hstore⟩ | hstore
    · rw [hstore]
      exact {
        streams := rfl
        sessions := rfl
        fenced := fenced
        stored := by
          rw [hconcat, summary_concat, ← hpeers]
          exact hequal
        others := fun _ _ ↦ rfl
        announced := rfl
        owed := fun hzero ↦ ⟨hzero, rfl⟩ }
    · rw [hstore]
      exact {
        streams := rfl
        sessions := rfl
        fenced := fenced.store _ hrunning
        stored := by
          rw [hconcat, summary_concat, ← hpeers]
          exact (Table.lookup_insert _ _ _ _).trans (if_pos rfl)
        others := fun other hother ↦ (Table.lookup_insert _ _ _ _).trans (if_neg hother)
        announced := rfl
        owed := fun hzero ↦ absurd hzero (Nat.succ_ne_zero _) }

theorem Publishes.session {state : State} (hpublishes : Publishes state) {serial : ℕ}
    {address : Address}
    (hrunning : state.channels.sessions.lookup serial = some ⟨address, .running⟩)
    {stream next : Session.State} (hstream : state.streams.lookup serial = some stream)
    {action : Session.Action} (hstep : Session.step stream action = some next) :
    Publishes (serve state serial address stream next) := by
  obtain ⟨fenced, hstreams, hstored, hannounced⟩ := hpublishes
  have hpeers := hstored serial address .running stream hrunning (by decide) hstream
  obtain ⟨hnext, hsessions, hfenced, hmine, hothers, hsame, howed⟩ :=
    served fenced hrunning hpeers hstep
  refine ⟨hfenced, ?_, ?_, ?_⟩
  · intro other session hsession
    rw [hsessions] at hsession
    obtain ⟨found, hfound, hran⟩ := hstreams other session hsession
    rw [hnext, Table.lookup_insert]
    by_cases hother : other = serial
    · subst hother
      obtain rfl := Option.some.inj (hstream.symm.trans hfound)
      obtain ⟨actions, hrun⟩ := hran
      refine ⟨next, if_pos rfl, actions ++ [action], ?_⟩
      apply Session.system.run_append hrun
      exact (Session.system.run_cons_eq_some).mpr ⟨next, hstep, rfl⟩
    · exact ⟨found, (if_neg hother).trans hfound, hran⟩
  · intro other owner phase found hsession hphase hfound
    rw [hsessions] at hsession
    rw [hnext, Table.lookup_insert] at hfound
    by_cases hother : other = serial
    · rw [if_pos hother] at hfound
      obtain rfl := Option.some.inj hfound
      rw [hother, hrunning] at hsession
      obtain ⟨rfl, -⟩ := VendorChannel.Session.mk.inj (Option.some.inj hsession)
      exact hmine
    · rw [if_neg hother] at hfound
      have haddress : owner ≠ address := by
        rintro rfl
        exact hother (fenced.session other serial owner phase .running hsession hrunning)
      rw [hothers owner haddress]
      exact hstored other owner phase found hsession hphase hfound
  · intro hzero
    obtain ⟨hbefore, hkept⟩ := howed hzero
    rw [hsame, hkept]
    exact hannounced hbefore

/-- A step of the channels that keeps the table and begins no session. -/
theorem Publishes.kept {state : State} (hpublishes : Publishes state)
    {channels : VendorChannel.State Report} (hfenced : VendorChannel.Fenced channels)
    (hpeers : channels.peers = state.channels.peers)
    (hsessions : ∀ serial address phase, channels.sessions.lookup serial = some ⟨address, phase⟩ →
      ∃ before, (phase ≠ .cleaned → before ≠ .cleaned) ∧
        state.channels.sessions.lookup serial = some ⟨address, before⟩) :
    Publishes { state with channels := channels } where
  fenced := hfenced
  streams serial session hsession := by
    obtain ⟨before, -, hbefore⟩ := hsessions serial session.address session.phase hsession
    exact hpublishes.streams serial _ hbefore
  stored serial address phase stream hsession hphase hstream := by
    obtain ⟨before, hkept, hbefore⟩ := hsessions serial address phase hsession
    rw [show ({ state with channels := channels } : State).channels.peers = _ from hpeers]
    exact hpublishes.stored serial address before stream hbefore (hkept hphase) hstream
  announced hzero address := by
    rw [show ({ state with channels := channels } : State).channels.peers = _ from hpeers]
    exact hpublishes.announced hzero address

/-- A session begins with nothing in the table. -/
theorem Publishes.spawn {state : State} (hpublishes : Publishes state) {address : Address}
    (haccepting : state.channels.requests = .accepting address) :
    Publishes { state with
      channels := state.channels.spawnSession address
      streams := state.streams.insert state.channels.spawned Session.init } where
  fenced := hpublishes.fenced.spawnSession haccepting
  streams serial session hsession := by
    rcases Table.lookup_insert_eq_some.mp hsession with ⟨rfl, -⟩ | ⟨hother, hbefore⟩
    · exact ⟨Session.init, (Table.lookup_insert _ _ _ _).trans (if_pos rfl), [], rfl⟩
    · obtain ⟨stream, hstream, hran⟩ := hpublishes.streams serial session hbefore
      exact ⟨stream, (Table.lookup_insert _ _ _ _).trans ((if_neg hother).trans hstream), hran⟩
  stored serial owner phase stream hsession hphase hstream := by
    rcases Table.lookup_insert_eq_some.mp hsession with ⟨rfl, hnew⟩ | ⟨hother, hbefore⟩
    · obtain ⟨rfl, -⟩ := VendorChannel.Session.mk.inj hnew
      have hinit : stream = Session.init := by
        rcases Table.lookup_insert_eq_some.mp hstream with ⟨-, hinit⟩ | ⟨hne, -⟩
        · exact hinit.symm
        · exact absurd rfl hne
      rw [hinit]
      apply hpublishes.fenced.unstored
      cases howner : state.channels.storedBy.lookup address with
      | none => rfl
      | some serial =>
        obtain ⟨phase, -, hlive⟩ := hpublishes.fenced.stored address serial howner
        have hholds : state.channels.requests.holds = some address := by rw [haccepting]; rfl
        exact absurd hlive (hpublishes.fenced.requested address serial phase hholds)
    · rcases Table.lookup_insert_eq_some.mp hstream with ⟨rfl, -⟩ | ⟨-, hfound⟩
      · exact absurd rfl hother
      · exact hpublishes.stored serial owner phase stream hbefore hphase hfound
  announced hzero owner := hpublishes.announced hzero owner

/-- `ended` clears the entry of the session that ended and owes a broadcast if there was one. -/
theorem Publishes.handlerEnded {state : State} (hpublishes : Publishes state) {serial : ℕ}
    {address : Address}
    (hending : state.channels.sessions.lookup serial = some ⟨address, .ending⟩) :
    Publishes { state with
      channels := state.channels.handlerEnded serial address
      owed := if (state.channels.peers.lookup address).isSome then state.owed + 1
        else state.owed } where
  fenced := hpublishes.fenced.handlerEnded hending
  streams other session hsession := by
    rcases Table.lookup_insert_eq_some.mp hsession with ⟨rfl, -⟩ | ⟨-, hbefore⟩
    · exact hpublishes.streams other _ hending
    · exact hpublishes.streams other session hbefore
  stored other owner phase stream hsession hphase hstream := by
    rcases Table.lookup_insert_eq_some.mp hsession with ⟨-, hnew⟩ | ⟨hother, hbefore⟩
    · obtain ⟨-, hcleaned⟩ := VendorChannel.Session.mk.inj hnew
      exact absurd hcleaned.symm hphase
    · have howner : owner ≠ address := by
        rintro rfl
        exact hother (hpublishes.fenced.session other serial owner phase .ending hbefore hending)
      exact ((Table.lookup_erase _ _ _).trans (if_neg howner)).trans
        (hpublishes.stored other owner phase stream hbefore hphase hstream)
  announced hzero owner := by
    change (if (state.channels.peers.lookup address).isSome then state.owed + 1
      else state.owed) = 0 at hzero
    change state.announced.lookup owner = (state.channels.peers.erase address).lookup owner
    rw [Table.lookup_erase]
    split at hzero
    · exact absurd hzero (Nat.succ_ne_zero _)
    · next hnone =>
      rw [hpublishes.announced hzero owner]
      split
      · next hsame =>
        rw [hsame]
        exact Option.not_isSome_iff_eq_none.mp hnone
      · rfl

theorem publishes_step (state : State) (action : Action) (next : State)
    (hpublishes : Publishes state) (hstep : step state action = some next) : Publishes next := by
  cases action with
  | session serial action =>
    simp only [step] at hstep
    split at hstep
    · next address stream hrunning hstream =>
      obtain ⟨after, hafter, rfl⟩ := Option.map_eq_some_iff.mp hstep
      exact hpublishes.session hrunning hstream hafter
    · cases hstep
  | broadcast =>
    obtain ⟨-, hnext⟩ := Option.ite_none_left_eq_some.mp hstep
    rw [← Option.some.inj hnext]
    exact { hpublishes with announced := fun _ _ ↦ rfl }
  | channel action =>
    have hplain : ∀ {channels : VendorChannel.State Report},
        VendorChannel.step state.channels action = some channels →
        channels.peers = state.channels.peers →
        channels.sessions = state.channels.sessions →
          Publishes { state with channels := channels } := by
      intro channels hchannels hpeers hsessions
      apply hpublishes.kept (hpublishes.fenced.step hchannels) hpeers
      intro serial address phase hsession
      rw [hsessions] at hsession
      exact ⟨phase, id, hsession⟩
    cases action with
    | store serial value => cases hstep
    | advance elapsed =>
      rw [← Option.some.inj hstep]
      exact hplain rfl rfl rfl
    | begin address =>
      rw [← Option.some.inj hstep]
      exact hplain rfl rfl rfl
    | reset address =>
      rw [← Option.some.inj hstep]
      exact hplain rfl rfl rfl
    | connectFailed address attempt busy =>
      obtain ⟨channels, hchannels, rfl⟩ := Option.map_eq_some_iff.mp hstep
      obtain ⟨-, hnext⟩ := Option.ite_none_right_eq_some.mp hchannels
      rw [← Option.some.inj hnext] at hchannels ⊢
      exact hplain hchannels rfl rfl
    | request address =>
      obtain ⟨channels, hchannels, rfl⟩ := Option.map_eq_some_iff.mp hstep
      obtain ⟨-, rfl⟩ := (VendorChannel.step_requests_cases.1 address).mp hchannels
      exact hplain hchannels rfl rfl
    | acceptRequest succeeds =>
      cases succeeds with
      | true =>
        obtain ⟨channels, hchannels, rfl⟩ := Option.map_eq_some_iff.mp hstep
        obtain ⟨address, haccepting, rfl⟩ := VendorChannel.step_requests_cases.2.1.mp hchannels
        exact hpublishes.spawn haccepting
      | false =>
        obtain ⟨channels, hchannels, rfl⟩ := Option.map_eq_some_iff.mp hstep
        obtain ⟨address, -, rfl⟩ := VendorChannel.step_requests_cases.2.2.1.mp hchannels
        exact hplain hchannels rfl rfl
    | giveBack =>
      obtain ⟨channels, hchannels, rfl⟩ := Option.map_eq_some_iff.mp hstep
      obtain ⟨address, -, rfl⟩ := VendorChannel.step_requests_cases.2.2.2.mp hchannels
      exact hplain hchannels rfl rfl
    | streamEnded serial =>
      obtain ⟨-, hmap⟩ := Option.ite_none_right_eq_some.mp hstep
      obtain ⟨channels, hchannels, rfl⟩ := Option.map_eq_some_iff.mp hmap
      have hfenced := hpublishes.fenced.step hchannels
      obtain ⟨address, hrunning, rfl⟩ := VendorChannel.step_session_cases.2.1.mp hchannels
      apply hpublishes.kept hfenced rfl
      intro other owner phase hsession
      rcases Table.lookup_insert_eq_some.mp hsession with ⟨rfl, hnew⟩ | ⟨-, hbefore⟩
      · obtain ⟨rfl, -⟩ := VendorChannel.Session.mk.inj hnew
        exact ⟨.running, fun _ ↦ by decide, hrunning⟩
      · exact ⟨phase, id, hbefore⟩
    | handlerEnded serial =>
      simp only [step] at hstep
      split at hstep
      · next address phase hsession =>
        obtain ⟨channels, hchannels, rfl⟩ := Option.map_eq_some_iff.mp hstep
        obtain ⟨owner, hending, rfl⟩ := VendorChannel.step_session_cases.2.2.1.mp hchannels
        obtain ⟨rfl, -⟩ := VendorChannel.Session.mk.inj
          (Option.some.inj (hsession.symm.trans hending))
        exact hpublishes.handlerEnded hending
      · cases hstep
    | ended serial =>
      obtain ⟨channels, hchannels, rfl⟩ := Option.map_eq_some_iff.mp hstep
      have hfenced := hpublishes.fenced.step hchannels
      obtain ⟨address, hcleaned, rfl⟩ := VendorChannel.step_session_cases.2.2.2.mp hchannels
      apply hpublishes.kept hfenced rfl
      intro other owner phase hsession
      exact ⟨phase, id, (Table.lookup_erase_eq_some.mp hsession).2⟩

theorem publishes_of_run {state : State} {actions : List Action}
    (hrun : system.run init actions = some state) : Publishes state :=
  system.run_invariant publishes_step publishes_init hrun

/-- In every interleaving of the sessions of all buds with their connections: what is answered
for an address is made of the packets that its one running session took, or nothing if there is
no such session; and unless a broadcast is owed, nothing changed since the last one. -/
theorem provider_publishes {actions : List Action} {state : State}
    (hrun : system.run init actions = some state) :
    (∀ address, batteries state address = [] ∨ ∃ serial phase stream taken,
      state.channels.sessions.lookup serial = some ⟨address, phase⟩ ∧ phase ≠ .cleaned ∧
      state.streams.lookup serial = some stream ∧
      packets stream.received = taken ++ Session.left stream ∧ Session.Reported stream taken ∧
      batteries state address = published stream.stored) ∧
    (∀ serial address phase stream,
      state.channels.sessions.lookup serial = some ⟨address, phase⟩ → phase ≠ .cleaned →
      state.streams.lookup serial = some stream →
        batteries state address = published stream.stored) ∧
    (state.owed = 0 →
      ∀ address, state.announced.lookup address = state.channels.peers.lookup address) := by
  have hpublishes := publishes_of_run hrun
  have hshown : ∀ serial address phase stream,
      state.channels.sessions.lookup serial = some ⟨address, phase⟩ → phase ≠ .cleaned →
      state.streams.lookup serial = some stream →
        batteries state address = published stream.stored := by
    intro serial address phase stream hsession hphase hstream
    rw [batteries, hpublishes.stored serial address phase stream hsession hphase hstream]
    exact components_summary stream.stored
  refine ⟨fun address ↦ ?_, hshown, hpublishes.announced⟩
  cases howner : state.channels.storedBy.lookup address with
  | none =>
    left
    rw [batteries, hpublishes.fenced.unstored address howner]
    rfl
  | some serial =>
    right
    obtain ⟨phase, hphase, hsession⟩ := hpublishes.fenced.stored address serial howner
    obtain ⟨stream, hstream, steps, hran⟩ := hpublishes.streams serial _ hsession
    obtain ⟨-, taken, hpackets, hprogress⟩ := Session.serves_of_run hran
    exact ⟨serial, phase, stream, taken, hsession, hphase, hstream, hpackets, hprogress.reported,
      hshown serial address phase stream hsession hphase hstream⟩

/-- A session stores the report of a docked bud, and its broadcast follows. -/
def dockedRun : List Action :=
  [.channel (.request 7), .channel (.acceptRequest true), .session 0 (.read Session.dockedWire),
    .session 0 .take, .session 0 .subscribed, .session 0 .take, .broadcast]

theorem provider_publishes_docked :
    ∃ state, system.run init dockedRun = some state ∧
      batteries state 7 = [battery "maestro-case" "Case" "case" true ⟨43, some false⟩] ∧
      ∀ address, state.announced.lookup address = state.channels.peers.lookup address := by
  have hran : (system.run init dockedRun).map (fun state ↦
      (state.owed, state.channels.sessions.lookup 0,
        (state.streams.lookup 0).map Session.State.stored)) =
      some (0, some ⟨7, .running⟩, some [Session.docked]) := by
    decide +kernel
  obtain ⟨state, hrun, hend⟩ := Option.map_eq_some_iff.mp hran
  simp only [Prod.mk.injEq, Option.map_eq_some_iff] at hend
  obtain ⟨howed, hsession, stream, hstream, hstored⟩ := hend
  obtain ⟨-, hshown, hannounced⟩ := provider_publishes hrun
  refine ⟨state, hrun, ?_, hannounced howed⟩
  rw [hshown 0 7 .running stream hsession (by decide) hstream, hstored]
  decide

end Provider

end BtDaemon.Maestro
