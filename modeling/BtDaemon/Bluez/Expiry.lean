import BtDaemon.Bluez.Disconnect
import BtDaemon.Bluez.Snapshot
import BtDaemon.Foundation.ExpiringTable
import BtDaemon.Foundation.Transition

/-!
# Discovery observations and their expiry

The monitor records when a device was last heard of. An observation is live for half a minute
and known for five minutes. No event comes when these times are over, so the monitor sleeps
until the next of them, tells its clients that something changed, and computes the next one.

Next to the table a run records what a table without pruning would hold.
-/

namespace BtDaemon.Bluez.Expiry

open Disconnect (Peer)
open LinkSignal (Address Instant cacheTtl elapsed)
open Bluez.Snapshot (Observation observationTtl)
open Transition (System)

abbrev Observations := Table Peer Observation

/-- The observation is not forgotten. -/
def known (now : Instant) (seen : Observation) : Bool :=
  decide (elapsed now seen.observed ≤ cacheTtl)

/-- The last instants at which the observation is live and known. -/
def deadlines (seen : Observation) : List Instant :=
  [seen.observed + observationTtl, seen.observed + cacheTtl]

namespace Observations

def prune (self : Observations) (now : Instant) : Observations :=
  self.retain fun _ seen ↦ known now seen

def record (self : Observations) (pruned stamped : Instant) (unixTimeMs : UInt64) (peer : Peer)
    (rssi : Option Int16) : Observations :=
  (self.prune pruned).insert peer ⟨rssi, unixTimeMs, stamped⟩

def nextExpiry (self : Observations) (now : Instant) : Observations × Option Instant :=
  (self.prune now, ExpiringTable.next deadlines now (self.prune now))

def get (self : Observations) (now : Instant) (adapter : String) (address : Address) :
    Option Observation :=
  (self.lookup (adapter, address)).filter (known now)

end Observations

/-! ## The loop of the monitor -/

/-- A device was heard of: a new device while discovering, or an RSSI. -/
structure Heard where
  peer : Peer
  rssi : Option Int16
  unixTimeMs : UInt64
  pruned : Instant
  stamped : Instant

structure State where
  observations : Observations
  /-- The monitor runs, and sleeps until the deadline if there is one. -/
  running : Bool
  expiry : Option Instant
  /-- The last reading of the clock. -/
  now : Instant
  /-- When the clients were last told that something changed. -/
  notified : Instant
  /-- The last observation of every peer. -/
  recorded : Observations

def init (now : Instant) : State := ⟨∅, false, none, now, now, ∅⟩

inductive Action
  /-- The monitor begins, a notification after it ended. -/
  | start (notified evaluated : Instant)
  /-- An event is handled and announced. -/
  | event (heard : Option Heard) (notified evaluated : Instant)
  /-- The monitor wakes up and announces the expiry. -/
  | expired (notified evaluated : Instant)
  /-- An event cannot be handled, or a subscription ended. -/
  | failed (now : Instant)

namespace State

def hear (self : State) : Option Heard → State
  | none => self
  | some heard =>
    { self with
      observations := self.observations.record heard.pruned heard.stamped heard.unixTimeMs
        heard.peer heard.rssi
      now := heard.stamped
      recorded := self.recorded.insert heard.peer ⟨heard.rssi, heard.unixTimeMs, heard.stamped⟩ }

/-- The next turn of the loop. -/
def sleep (self : State) (notified evaluated : Instant) : State :=
  { self with
    observations := (self.observations.nextExpiry evaluated).1
    running := true
    expiry := (self.observations.nextExpiry evaluated).2
    now := evaluated
    notified := notified }

end State

/-- The clock does not go back. -/
def ordered (now : Instant) : Option Heard → Instant → Instant → Bool
  | none, notified, evaluated => decide (now ≤ notified ∧ notified ≤ evaluated)
  | some heard, notified, evaluated =>
    decide (now ≤ heard.pruned ∧ heard.pruned ≤ heard.stamped ∧ heard.stamped ≤ notified ∧
      notified ≤ evaluated)

def step (state : State) : Action → Option State
  | .start notified evaluated =>
    if state.running = false ∧ ordered state.now none notified evaluated = true then
      some (state.sleep notified evaluated)
    else none
  | .event heard notified evaluated =>
    if state.running = true ∧ ordered state.now heard notified evaluated = true then
      some ((state.hear heard).sleep notified evaluated)
    else none
  | .expired notified evaluated =>
    if state.running = true ∧
        (state.expiry.any fun deadline ↦ decide (deadline ≤ notified)) = true ∧
        ordered state.now none notified evaluated = true then
      some (state.sleep notified evaluated)
    else none
  | .failed now =>
    if state.running = true ∧ state.now ≤ now then
      some { state with running := false, expiry := none, now := now }
    else none

def system (now : Instant) : System State Action := ⟨init now, step⟩

/-! ## Time -/

theorem elapsed_le_iff {now since : ℤ} {bound : ℕ} :
    elapsed now since ≤ bound ↔ now ≤ since + bound := by
  rw [elapsed]
  omega

theorem known_iff {now : Instant} {seen : Observation} :
    known now seen = true ↔ now ≤ seen.observed + cacheTtl := by
  rw [known, decide_eq_true_iff, elapsed_le_iff]

theorem live_iff {now : Instant} {seen : Observation} {discovering : Bool} :
    seen.live now discovering = true ↔
      discovering = true ∧ now ≤ seen.observed + observationTtl := by
  rw [Observation.live, Bool.and_eq_true, decide_eq_true_iff, elapsed_le_iff]

theorem live_le_known (seen : Observation) :
    seen.observed + observationTtl ≤ seen.observed + cacheTtl := by
  apply Int.add_le_add_left
  decide

theorem expires_known : ExpiringTable.Expires known := by
  intro now later seen hlater hknown
  rw [known_iff] at hknown ⊢
  exact hlater.trans hknown

theorem mem_deadlines {seen : Observation} {deadline : Instant} :
    deadline ∈ deadlines seen ↔
      deadline = seen.observed + observationTtl ∨ deadline = seen.observed + cacheTtl := by
  simp [deadlines]

/-- What an observation says to a snapshot: that it is known, and that it is live. -/
def looks (seen : Observation) (discovering : Bool) (now : Instant) : Bool × Bool :=
  (known now seen, seen.live now discovering)

/-- An observation says the same until a deadline is over. -/
theorem looks_eq {seen : Observation} {earlier later : Instant} (hle : earlier ≤ later)
    (hquiet : ∀ deadline ∈ deadlines seen, earlier ≤ deadline → later ≤ deadline)
    (discovering : Bool) : looks seen discovering later = looks seen discovering earlier := by
  have hlive := hquiet _ (mem_deadlines.mpr (.inl rfl))
  have hcache := hquiet _ (mem_deadlines.mpr (.inr rfl))
  apply Prod.ext
  · apply Bool.eq_iff_iff.mpr
    rw [looks, looks, known_iff, known_iff]
    exact ⟨hle.trans, hcache⟩
  · apply Bool.eq_iff_iff.mpr
    rw [looks, looks, live_iff, live_iff]
    exact and_congr_right' ⟨hle.trans, hlive⟩

/-- After each deadline it says something else than before. -/
theorem looks_ne {seen : Observation} {earlier deadline : Instant}
    (hdeadline : deadline ∈ deadlines seen) (hle : earlier ≤ deadline) :
    known earlier seen = true ∧ looks seen true (deadline + 1) ≠ looks seen true earlier := by
  rcases mem_deadlines.mp hdeadline with rfl | rfl
  · refine ⟨known_iff.mpr (hle.trans (live_le_known seen)), ?_⟩
    intro hsame
    have hlive : seen.live earlier true = true := live_iff.mpr ⟨rfl, hle⟩
    have hlater := live_iff.mp ((Prod.mk.inj hsame).2.trans hlive)
    exact absurd hlater.2 (Int.not_le.mpr (Int.lt_add_one_of_le (Int.le_refl _)))
  · have hknown : known earlier seen = true := known_iff.mpr hle
    refine ⟨hknown, ?_⟩
    intro hsame
    have hlater := known_iff.mp ((Prod.mk.inj hsame).1.trans hknown)
    exact absurd hlater (Int.not_le.mpr (Int.lt_add_one_of_le (Int.le_refl _)))

/-! ## Turns of the loop -/

/-- What is heard, announced and evaluated in one turn. -/
def Action.turn : Action → Option (Option Heard × Instant × Instant)
  | .start notified evaluated => some (none, notified, evaluated)
  | .event heard notified evaluated => some (heard, notified, evaluated)
  | .expired notified evaluated => some (none, notified, evaluated)
  | .failed _ => none

/-- A step is a turn of the loop, or the monitor ends. -/
theorem step_cases {state next : State} {action : Action} (hstep : step state action = some next) :
    (∃ heard notified evaluated, action.turn = some (heard, notified, evaluated) ∧
      ordered state.now heard notified evaluated = true ∧
        next = (state.hear heard).sleep notified evaluated) ∨
    ∃ now, action = .failed now ∧ state.now ≤ now ∧
      next = { state with running := false, expiry := none, now := now } := by
  cases action with
  | start notified evaluated =>
    obtain ⟨⟨-, hordered⟩, hnext⟩ := Option.ite_none_right_eq_some.mp hstep
    exact .inl ⟨none, notified, evaluated, rfl, hordered, (Option.some.inj hnext).symm⟩
  | event heard notified evaluated =>
    obtain ⟨⟨-, hordered⟩, hnext⟩ := Option.ite_none_right_eq_some.mp hstep
    exact .inl ⟨heard, notified, evaluated, rfl, hordered, (Option.some.inj hnext).symm⟩
  | expired notified evaluated =>
    obtain ⟨⟨-, -, hordered⟩, hnext⟩ := Option.ite_none_right_eq_some.mp hstep
    exact .inl ⟨none, notified, evaluated, rfl, hordered, (Option.some.inj hnext).symm⟩
  | failed now =>
    obtain ⟨⟨-, hnow⟩, hnext⟩ := Option.ite_none_right_eq_some.mp hstep
    exact .inr ⟨now, rfl, hnow, (Option.some.inj hnext).symm⟩

/-- The table answers like one that is not pruned, and while the monitor sleeps it holds what is
known and nothing else. -/
structure Exact (state : State) : Prop where
  table : ExpiringTable.Exact known state.now state.observations state.recorded
  pruned : state.running = true → ∀ peer seen, state.observations.lookup peer = some seen →
    known state.now seen = true
  asleep : state.expiry = none ∨
    state.expiry = ExpiringTable.next deadlines state.now state.observations

theorem exact_init (now : Instant) : Exact (init now) where
  table := ExpiringTable.exact_empty
  pruned hrunning := by cases hrunning
  asleep := .inl rfl

theorem ordered_iff {now notified evaluated : Instant} {heard : Option Heard} :
    ordered now heard notified evaluated = true ↔
      (∀ seen, heard = some seen → now ≤ seen.pruned ∧ seen.pruned ≤ seen.stamped) ∧
        (heard.elim now Heard.stamped) ≤ notified ∧ notified ≤ evaluated := by
  cases heard with
  | none => simp [ordered]
  | some heard => simp [ordered, and_assoc]

theorem hear_now (state : State) (heard : Option Heard) :
    (state.hear heard).now = heard.elim state.now Heard.stamped := by
  cases heard <;> rfl

theorem Exact.hear {state : State} (hexact : Exact state) {heard : Option Heard}
    (hclock : ∀ seen, heard = some seen → state.now ≤ seen.pruned ∧ seen.pruned ≤ seen.stamped) :
    ExpiringTable.Exact known (state.hear heard).now (state.hear heard).observations
      (state.hear heard).recorded := by
  cases heard with
  | none => exact hexact.table
  | some seen =>
    obtain ⟨hpruned, hstamped⟩ := hclock seen rfl
    have htable := (hexact.table.mono expires_known hpruned).prune
    exact (htable.mono expires_known hstamped).insert _ _

theorem exact_sleep {state : State} {notified evaluated : Instant}
    (htable : ExpiringTable.Exact known state.now state.observations state.recorded)
    (hnow : state.now ≤ evaluated) : Exact (state.sleep notified evaluated) where
  table := (htable.mono expires_known hnow).prune
  pruned _ peer seen hlookup := by
    have hfilter : (state.observations.prune evaluated).lookup peer = some seen := hlookup
    rw [Observations.prune, Table.lookup_retain, Option.filter_eq_some_iff] at hfilter
    exact hfilter.2
  asleep := .inr rfl

theorem exact_step (state : State) (action : Action) (next : State) (hexact : Exact state)
    (hstep : step state action = some next) : Exact next := by
  rcases step_cases hstep with ⟨heard, notified, evaluated, -, hordered, rfl⟩ | ⟨now, -, hnow, rfl⟩
  · obtain ⟨hclock, hnotified, hevaluated⟩ := ordered_iff.mp hordered
    apply exact_sleep (hexact.hear hclock)
    rw [hear_now]
    exact hnotified.trans hevaluated
  · exact ⟨hexact.table.mono expires_known hnow, fun hrunning ↦ (by cases hrunning), .inl rfl⟩

/-! ## What the actions say -/

/-- The last observation of a peer that the actions make. -/
def lastHeard (peer : Peer) (actions : List Action) : Option Observation :=
  actions.foldl (fun last action ↦
    match action with
    | .event (some heard) _ _ =>
      if peer = heard.peer then some ⟨heard.rssi, heard.unixTimeMs, heard.stamped⟩ else last
    | _ => last) none

theorem lookup_recorded {start : Instant} {actions : List Action} {state : State}
    (hrun : (system start).run (init start) actions = some state) (peer : Peer) :
    state.recorded.lookup peer = lastHeard peer actions := by
  apply @Transition.System.run_history _ _ (system start)
    (fun actions state ↦ state.recorded.lookup peer = lastHeard peer actions) _ _ _ _ rfl hrun
  intro history state action next hstate hstep
  rw [lastHeard, List.foldl_append, ← lastHeard, ← hstate]
  rcases step_cases hstep with ⟨heard, notified, evaluated, hturn, -, rfl⟩ | ⟨now, rfl, -, rfl⟩
  · cases action with
    | start => cases hturn; rfl
    | expired => cases hturn; rfl
    | failed => cases hturn
    | event =>
      cases hturn
      cases heard with
      | none => rfl
      | some seen => exact Table.lookup_insert _ _ _ _
  · rfl

/-! ## Announcements -/

/-- What a snapshot is told about a device. -/
def answer (observations : Observations) (now : Instant) (adapter : String) (address : Address)
    (discovering : Bool) : Option (Observation × Bool) :=
  (observations.get now adapter address).map fun seen ↦ (seen, seen.live now discovering)

/-- What the clients were told stays true until the monitor wakes up. -/
def Current (state : State) : Prop :=
  state.running = true → ∀ later, state.notified ≤ later →
    (∀ deadline, state.expiry = some deadline → later ≤ deadline) →
      ∀ adapter address discovering, answer state.recorded later adapter address discovering =
        answer state.recorded state.notified adapter address discovering

/-- No deadline falls between an announcement and the evaluation after it. -/
def punctual (state : State) (action : Action) : Prop :=
  match action.turn with
  | some (heard, notified, evaluated) =>
    ((state.hear heard).recorded.values.all fun seen ↦ (deadlines seen).all fun deadline ↦
      decide (notified ≤ deadline → evaluated < deadline)) = true
  | none => True

instance (state : State) (action : Action) : Decidable (punctual state action) := by
  unfold punctual
  split <;> infer_instance

theorem punctual_iff {state : State} {action : Action} {heard : Option Heard}
    {notified evaluated : Instant} (hturn : action.turn = some (heard, notified, evaluated)) :
    punctual state action ↔ ∀ peer seen, (state.hear heard).recorded.lookup peer = some seen →
      ∀ deadline ∈ deadlines seen, notified ≤ deadline → evaluated < deadline := by
  simp only [punctual, hturn, List.all_eq_true, Table.mem_values, decide_eq_true_iff]
  constructor
  · exact fun hall peer seen hlookup ↦ hall seen ⟨peer, hlookup⟩
  · rintro hall seen ⟨peer, hlookup⟩
    exact hall peer seen hlookup

theorem answer_eq_some {observations : Observations} {now : Instant} {adapter : String}
    {address : Address} {seen : Observation}
    (hlookup : observations.lookup (adapter, address) = some seen) (discovering : Bool) :
    answer observations now adapter address discovering =
      if known now seen = true then some (seen, seen.live now discovering) else none := by
  rw [answer, Observations.get, hlookup, Option.filter_some]
  split <;> rfl

theorem answer_congr {observations : Observations} {first second : Instant} {adapter : String}
    {address : Address} {seen : Observation} {discovering : Bool}
    (hlookup : observations.lookup (adapter, address) = some seen)
    (hsame : looks seen discovering first = looks seen discovering second) :
    answer observations first adapter address discovering =
      answer observations second adapter address discovering := by
  obtain ⟨hknown, hlive⟩ := Prod.mk.inj hsame
  rw [answer_eq_some hlookup, answer_eq_some hlookup, hknown, hlive]

/-- After a deadline a snapshot is told something else. -/
theorem answer_ne {observations : Observations} {earlier deadline : Instant} {adapter : String}
    {address : Address} {seen : Observation}
    (hlookup : observations.lookup (adapter, address) = some seen)
    (hdeadline : deadline ∈ deadlines seen) (hle : earlier ≤ deadline) :
    answer observations (deadline + 1) adapter address true ≠
      answer observations earlier adapter address true := by
  obtain ⟨hknown, hne⟩ := looks_ne hdeadline hle
  intro hsame
  rw [answer_eq_some hlookup, answer_eq_some hlookup, if_pos hknown] at hsame
  obtain ⟨hlater, hpair⟩ := Option.ite_none_right_eq_some.mp hsame
  apply hne
  exact Prod.ext (hlater.trans hknown.symm) (Prod.mk.inj (Option.some.inj hpair)).2

theorem turn_deadline {state : State} {notified evaluated deadline : Instant}
    (hdeadline : (state.sleep notified evaluated).expiry = some deadline) : evaluated < deadline :=
  (ExpiringTable.next_eq_some hdeadline).1

theorem current_sleep {state : State} {notified evaluated : Instant}
    (htable : ExpiringTable.Exact known state.now state.observations state.recorded)
    (hnow : state.now ≤ evaluated)
    (hpunctual : ∀ peer seen, state.recorded.lookup peer = some seen →
      ∀ deadline ∈ deadlines seen, notified ≤ deadline → evaluated < deadline) :
    Current (state.sleep notified evaluated) := by
  intro _ later hlater hquiet adapter address discovering
  cases hlookup : state.recorded.lookup (adapter, address) with
  | none =>
    have hnone : ∀ now, answer state.recorded now adapter address discovering = none := by
      intro now
      rw [answer, Observations.get, hlookup]
      rfl
    exact (hnone later).trans (hnone notified).symm
  | some seen =>
    apply answer_congr hlookup
    apply looks_eq hlater
    intro deadline hdeadline hnotified
    have hevaluated := hpunctual _ _ hlookup deadline hdeadline hnotified
    -- The observation survives the pruning, so its deadline is one that the monitor waits for.
    have hlast : deadline ≤ seen.observed + cacheTtl := by
      rcases mem_deadlines.mp hdeadline with rfl | rfl
      · exact live_le_known seen
      · exact Int.le_refl _
    have hknown : known evaluated seen = true :=
      known_iff.mpr (hevaluated.le.trans hlast)
    have hkept := (htable.mono expires_known hnow).prune.complete _ _ hlookup hknown
    obtain ⟨first, hfirst, hle⟩ := ExpiringTable.next_le hkept hdeadline hevaluated
    exact (hquiet first hfirst).trans hle

theorem punctual_of_current {state : State} {notified evaluated : Instant}
    (hcurrent : Current (state.sleep notified evaluated)) {peer : Peer} {seen : Observation}
    (hlookup : state.recorded.lookup peer = some seen) {deadline : Instant}
    (hdeadline : deadline ∈ deadlines seen) (hnotified : notified ≤ deadline) :
    evaluated < deadline := by
  by_contra hlate
  rw [Int.not_lt] at hlate
  apply answer_ne hlookup hdeadline hnotified
  apply hcurrent rfl
  · exact hnotified.trans (Int.le_add_one (Int.le_refl _))
  · intro first hfirst
    exact Int.add_one_le_of_lt (Int.lt_of_le_of_lt hlate (turn_deadline hfirst))

/-- However the table is pruned, a snapshot is told the last observation of a device that is not
older than five minutes. While the monitor sleeps the table holds no other observations, and when
it wakes up a snapshot is told something new about some device. -/
theorem observations_exact {start : Instant} {actions : List Action} {state : State}
    (hrun : (system start).run (init start) actions = some state) :
    (∀ now adapter address, state.now ≤ now → state.observations.get now adapter address =
      (lastHeard (adapter, address) actions).filter (known now)) ∧
    (state.running = true → ∀ peer seen, state.observations.lookup peer = some seen →
      known state.now seen = true) ∧
    (∀ deadline, state.expiry = some deadline → state.now < deadline ∧ ∃ adapter address,
      answer state.observations (deadline + 1) adapter address true ≠
        answer state.observations deadline adapter address true) := by
  have hexact := (system start).run_invariant exact_step (exact_init start) hrun
  refine ⟨?_, hexact.pruned, ?_⟩
  · intro now adapter address hnow
    rw [← lookup_recorded hrun]
    exact hexact.table.lookup_eq expires_known hnow (adapter, address)
  · intro deadline hdeadline
    rcases hexact.asleep with hnone | hnext
    · rw [hnone] at hdeadline
      cases hdeadline
    · obtain ⟨hnow, ⟨adapter, address⟩, seen, hlookup, hmem⟩ :=
        ExpiringTable.next_eq_some (hnext.symm.trans hdeadline)
      exact ⟨hnow, adapter, address, answer_ne hlookup hmem (Int.le_refl _)⟩

/-- A device is heard of at once, and the monitor wakes up a while after the observation is not
live any more. -/
def heardOnce (delay : Instant) : List Action :=
  [.start 0 0, .event (some ⟨("hci0", 0x0011223344AA), some (-60), 1000, 1, 2⟩) 3 4,
    .expired (30000000002 + delay) (30000000002 + delay)]

theorem observations_exact_heardOnce : ∃ state,
    (system 0).run (init 0) (heardOnce 5) = some state ∧
    state.observations.get 300000000002 "hci0" 0x0011223344AA = some ⟨some (-60), 1000, 2⟩ ∧
    state.observations.get 300000000003 "hci0" 0x0011223344AA = none := by
  have hsome : ((system 0).run (init 0) (heardOnce 5)).isSome = true := by decide +kernel
  obtain ⟨state, hrun⟩ := Option.isSome_iff_exists.mp hsome
  have hnow : ((system 0).run (init 0) (heardOnce 5)).map State.now = some 30000000007 := by
    decide +kernel
  rw [hrun, Option.map_some, Option.some.injEq] at hnow
  have hget := (observations_exact hrun).1
  refine ⟨state, hrun, ?_, ?_⟩
  · rw [hget _ _ _ (hnow ▸ by decide)]
    decide +kernel
  · rw [hget _ _ _ (hnow ▸ by decide)]
    decide +kernel

/-- What the clients were told stays true until they are told that something changed, in every
state of the run, exactly if no deadline ever falls between an announcement and the evaluation
of the next deadline. -/
theorem always_current_iff {start : Instant} {actions : List Action} {state : State}
    (hrun : (system start).run (init start) actions = some state) :
    (system start).Always Current (init start) actions ↔
      (system start).Meets punctual (init start) actions := by
  apply @Transition.System.always_iff_meets _ _ (system start)
    (fun state ↦ Exact state ∧ Current state) _ _ _ _ _ _ _ _ _ hrun
  · exact fun state hstate ↦ hstate.2
  · rintro state action next ⟨hexact, -⟩ hstep hpunctual
    refine ⟨exact_step state action next hexact hstep, ?_⟩
    rcases step_cases hstep with
      ⟨heard, notified, evaluated, hturn, hordered, rfl⟩ | ⟨now, -, -, rfl⟩
    · obtain ⟨hclock, hnotified, hevaluated⟩ := ordered_iff.mp hordered
      apply current_sleep (hexact.hear hclock) _ ((punctual_iff hturn).mp hpunctual)
      rw [hear_now]
      exact hnotified.trans hevaluated
    · intro hrunning
      cases hrunning
  · rintro state action next - hstep hcurrent
    rcases step_cases hstep with ⟨heard, notified, evaluated, hturn, -, rfl⟩ | ⟨now, rfl, -, -⟩
    · rw [punctual_iff hturn]
      intro peer seen hlookup deadline hdeadline hnotified
      exact punctual_of_current hcurrent hlookup hdeadline hnotified
    · trivial
  · refine ⟨exact_init start, ?_⟩
    intro hrunning
    cases hrunning

/-- A monitor that wakes up in the very instant of the deadline waits for the next one. -/
theorem always_current_iff_heardOnce :
    (system 0).Always Current (init 0) (heardOnce 5) ∧
      ¬ (system 0).Always Current (init 0) (heardOnce 0) := by
  have hlate : ((system 0).run (init 0) (heardOnce 5)).isSome = true := by decide +kernel
  have hearly : ((system 0).run (init 0) (heardOnce 0)).isSome = true := by decide +kernel
  obtain ⟨late, hrunLate⟩ := Option.isSome_iff_exists.mp hlate
  obtain ⟨early, hrunEarly⟩ := Option.isSome_iff_exists.mp hearly
  rw [always_current_iff hrunLate, always_current_iff hrunEarly]
  decide +kernel

end BtDaemon.Bluez.Expiry
