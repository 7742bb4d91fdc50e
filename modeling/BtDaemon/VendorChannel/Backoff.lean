import BtDaemon.FastPair.Backoff
import BtDaemon.VendorChannel.Links

/-!
# Vendor channel back-off

The links of a vendor channel keep their own retry states, with a fixed delay for a busy peer
and a doubling one for every other failure. As for Fast Pair, a run keeps a ledger of the delays
that were armed for each peer since the last reset of its retry state.
-/

namespace BtDaemon.VendorChannel.Backoff

open Transition

structure State where
  links : Links
  now : Instant
  ledger : Deadlines Address

inductive Action where
  | begin (now : Instant) (address : Address)
  | accept (now : Instant) (address : Address)
  | connectFailed (now : Instant) (address : Address) (attempt : UInt64) (busy : Bool)
  | ended (now : Instant) (address : Address)
  | reset (now : Instant) (address : Address)

def Action.now : Action → Instant
  | .begin now _ | .accept now _ | .connectFailed now _ _ _ | .ended now _ | .reset now _ => now

namespace State

def init : State := ⟨Links.init, 0, Deadlines.empty⟩

def deadline (state : State) (address : Address) : Option Instant :=
  (state.links.retry.lookup address).map Retry.after

/-- Replace the links by ones that have armed a deadline for the peer. -/
def arm (state : State) (links : Links) (now : Instant) (address : Address) : State where
  links := links
  now := now
  ledger := state.ledger.arm now address ((links.retry.lookup address).map Retry.after)

def isStale (state : State) (now : Instant) (address : Address) : Bool :=
  (state.links.connecting.lookup address).any fun attempt ↦
    decide (staleConnect ≤ now - attempt.started)

def begin (state : State) (now : Instant) (address : Address) : State :=
  let links := (state.links.begin now address).1
  if state.isStale now address then state.arm links now address
  else { state with links, now }

def connectFailed (state : State) (now : Instant) (address : Address) (attempt : UInt64)
    (busy : Bool) : State :=
  let links := state.links.connectFailed now address attempt busy
  if state.links.isCurrent address attempt then state.arm links now address
  else { state with links, now }

def ended (state : State) (now : Instant) (address : Address) : State :=
  let links := state.links.ended now address
  match state.links.connected.lookup address with
  | none => { state with links, now }
  | some start =>
    if stableStream ≤ now - start then
      { state with ledger := state.ledger.forget address }.arm links now address
    else state.arm links now address

def reset (state : State) (now : Instant) (address : Address) : State where
  links := state.links.reset address
  now := now
  ledger := state.ledger.forget address

def apply (state : State) : Action → State
  | .begin now address => state.begin now address
  | .accept now address => { state with links := (state.links.accept now address).1, now := now }
  | .connectFailed now address attempt busy => state.connectFailed now address attempt busy
  | .ended now address => state.ended now address
  | .reset now address => state.reset now address

end State

def step (state : State) (action : Action) : Option State :=
  if state.now ≤ action.now then some (state.apply action) else none

def system : System State Action := ⟨State.init, step⟩

/-! ## What the links promise -/

/-- The delay of a busy peer. -/
def isBusy (delay : ℕ) : Bool := decide (delay = 1000)

/-- The delay after this many earlier back-offs. -/
def backOffDelay (failures : ℕ) : ℕ := min (15 * 2 ^ min failures 5) 300 * 1000

/-- Few delays are those of a busy peer, and the others are the ones of the successive
back-offs. -/
structure Budgeted (delays : List ℕ) : Prop where
  busy : (delays.filter isBusy).length ≤ 6
  backOffs : delays.filter (fun delay ↦ !isBusy delay) =
    (List.range (delays.filter fun delay ↦ !isBusy delay).length).map backOffDelay

/-- The counters fit their types, and so does the shifted delay. -/
structure Fits (retry : Retry) : Prop where
  failures : retry.failures < 2 ^ 32
  busy : retry.busy ≤ 6
  shift : min retry.failures 5 < 64
  shifted : 15 * 2 ^ min retry.failures 5 < 2 ^ 64

structure Bounded (state : State) : Prop where
  delays : ∀ address, Budgeted (state.ledger.delays address)
  fits : ∀ address retry, state.links.retry.lookup address = some retry → Fits retry
  begin_granted : ∀ now address attempt, (state.links.begin now address).2 = some attempt →
    (state.begin now address).ledger = state.ledger ∧
      ∀ deadline, state.ledger.armed address = some deadline → deadline ≤ now
  begin_keeps : ∀ now address other, state.links.connecting.lookup address = none →
    (state.begin now address).deadline other = state.deadline other

/-! ## The ledger of one peer -/

/-- The counters of a peer are what its ledger says. -/
structure Tracks (retry : Retry) (delays : List ℕ) : Prop where
  busy : (delays.filter isBusy).length = retry.busy
  busy_le : retry.busy ≤ 6
  backOffs : delays.filter (fun delay ↦ !isBusy delay) =
    (List.range (delays.filter fun delay ↦ !isBusy delay).length).map backOffDelay
  failures : retry.failures =
    min (delays.filter fun delay ↦ !isBusy delay).length (2 ^ 32 - 1)

/-- The peer has a new deadline, and its ledger has the delay. -/
def Arms (now : Instant) (entry : Option Retry) (delays : List ℕ) : Prop :=
  ∃ retry delay, entry = some retry ∧ retry.after = now + delay ∧
    Tracks retry (delays ++ [delay])

/-- The retry state after one more back-off. -/
def backedOff (retry : Retry) (now : Instant) : Retry :=
  { retry with
    failures := min (retry.failures + 1) (2 ^ 32 - 1)
    after := now + backOffDelay retry.failures }

theorem le_backOffDelay (failures : ℕ) : 15000 ≤ backOffDelay failures := by
  have hpower : 1 ≤ 2 ^ min failures 5 := Nat.one_le_two_pow
  unfold backOffDelay
  omega

theorem isBusy_backOffDelay (failures : ℕ) : isBusy (backOffDelay failures) = false := by
  have hlong := le_backOffDelay failures
  exact decide_eq_false (by omega)

/-- Counting further than the counter does not change the delay. -/
theorem backOffDelay_min (failures : ℕ) :
    backOffDelay (min failures (2 ^ 32 - 1)) = backOffDelay failures := by
  have hsame : min (min failures (2 ^ 32 - 1)) 5 = min failures 5 := by omega
  rw [backOffDelay, backOffDelay, hsame]

namespace Tracks

variable {retry : Retry} {delays : List ℕ}

theorem init (now : Instant) : Tracks ⟨0, 0, now⟩ [] :=
  ⟨rfl, Nat.zero_le 6, rfl, rfl⟩

/-- Only the counters matter. -/
theorem reset_after (tracks : Tracks retry delays) (after : Instant) :
    Tracks { retry with after := after } delays :=
  { tracks with }

theorem fits (tracks : Tracks retry delays) : Fits retry := by
  have hshift : min retry.failures 5 ≤ 5 := Nat.min_le_right ..
  have hpower : 2 ^ min retry.failures 5 ≤ 2 ^ 5 := Nat.pow_le_pow_right (by decide) hshift
  refine ⟨?_, tracks.busy_le, by omega, by omega⟩
  rw [tracks.failures]
  omega

theorem budgeted (tracks : Tracks retry delays) : Budgeted delays :=
  ⟨tracks.busy ▸ tracks.busy_le, tracks.backOffs⟩

theorem arms_backedOff (tracks : Tracks retry delays) (now : Instant) :
    Arms now (some (backedOff retry now)) delays := by
  have hslow := isBusy_backOffDelay retry.failures
  have hlater : (delays ++ [backOffDelay retry.failures]).filter (fun delay ↦ !isBusy delay) =
      delays.filter (fun delay ↦ !isBusy delay) ++ [backOffDelay retry.failures] := by
    rw [List.filter_append, List.filter_singleton, hslow]
    rfl
  refine ⟨_, backOffDelay retry.failures, rfl, rfl, ?_, tracks.busy_le, ?_, ?_⟩
  · rw [List.filter_append, List.filter_singleton, hslow, cond_false, List.append_nil]
    exact tracks.busy
  · rw [hlater, List.length_append, List.length_singleton, List.range_succ, List.map_append,
      ← tracks.backOffs, List.map_singleton, tracks.failures, backOffDelay_min]
  · change min (retry.failures + 1) (2 ^ 32 - 1) = _
    rw [hlater, List.length_append, List.length_singleton, tracks.failures]
    omega

theorem arms_busy (tracks : Tracks retry delays) (now : Instant)
    (hroom : retry.busy < busyRetries) :
    Arms now (some { retry with busy := retry.busy + 1, after := now + 1000 }) delays := by
  have hbusy : isBusy 1000 = true := rfl
  have hlater : (delays ++ [1000]).filter (fun delay ↦ !isBusy delay) =
      delays.filter (fun delay ↦ !isBusy delay) := by
    rw [List.filter_append, List.filter_singleton, hbusy]
    exact List.append_nil _
  refine ⟨_, 1000, rfl, rfl, ?_, hroom, ?_, ?_⟩
  · rw [List.filter_append, List.filter_singleton, hbusy, cond_true, List.length_append,
      tracks.busy]
    rfl
  · rw [hlater]
    exact tracks.backOffs
  · rw [hlater]
    exact tracks.failures

end Tracks

/-- The ledger of a peer is that of its entry, whose deadline is the armed one. -/
structure Follows (entry : Option Retry) (delays : List ℕ) (armed : Option Instant) : Prop where
  tracks : Tracks (entry.getD ⟨0, 0, 0⟩) delays
  armed : armed = entry.map Retry.after

/-! ## What each method does to the retry state -/

section Methods

variable {links : Links} {address : Address} {delays : List ℕ}

/-- Creating a missing entry keeps the counters. -/
theorem tracks_retryState (now : Instant)
    (htracks : Tracks ((links.retry.lookup address).getD ⟨0, 0, 0⟩) delays) :
    Tracks (links.retryState now address) delays := by
  rw [Links.retryState]
  cases hentry : links.retry.lookup address with
  | none =>
    rw [hentry] at htracks
    exact htracks.reset_after now
  | some retry =>
    rw [hentry] at htracks
    exact htracks

theorem arms_backOff (now : Instant) (htracks : Tracks (links.retryState now address) delays) :
    Arms now ((links.backOff now address).retry.lookup address) delays := by
  rw [Links.backOff, Table.lookup_insert, if_pos rfl]
  exact htracks.arms_backedOff now

theorem arms_connectFailed {now : Instant} {attempt : UInt64} (busy : Bool)
    (hcurrent : links.isCurrent address attempt = true)
    (htracks : Tracks (links.retryState now address) delays) :
    Arms now ((links.connectFailed now address attempt busy).retry.lookup address) delays := by
  rw [Links.connectFailed, if_pos hcurrent]
  dsimp only
  split
  · next hbusy =>
    rw [Table.lookup_insert, if_pos rfl]
    exact htracks.arms_busy now (of_decide_eq_true (Bool.and_eq_true_iff.mp hbusy).2)
  · apply arms_backOff
    rwa [Links.retryState, Table.lookup_insert, if_pos rfl]

theorem retry_start (now : Instant) : (links.start now address).1.retry = links.retry := by
  rcases links.start_cases now address with hrefused | ⟨attempt, -, -, -, hgranted⟩
  · rw [hrefused]
  · rw [hgranted]

theorem expire_of_stale {state : State} {now : Instant}
    (hstale : state.isStale now address = true) : state.links.expire now address =
      { state.links with connecting := state.links.connecting.erase address }.backOff
        now address :=
  if_pos hstale

theorem expire_of_fresh {state : State} {now : Instant}
    (hfresh : ¬ state.isStale now address = true) :
    state.links.expire now address = state.links :=
  if_neg hfresh

/-- An attempt is granted only at or after the deadline of the peer. -/
theorem begin_granted {now : Instant} {attempt : UInt64}
    (hgranted : (links.begin now address).2 = some attempt) (retry : Retry)
    (hretry : (links.expire now address).retry.lookup address = some retry) :
    retry.after ≤ now := by
  rw [Links.begin, Links.start, hretry] at hgranted
  split at hgranted
  · cases hgranted
  · next hfree =>
    simp only [Bool.or_eq_true, not_or, Option.any_some, decide_eq_true_eq] at hfree
    exact Nat.le_of_not_lt hfree.2

end Methods

/-! ## The invariant -/

def Invariant (state : State) : Prop :=
  ∀ address, Follows (state.links.retry.lookup address) (state.ledger.delays address)
    (state.ledger.armed address)

namespace Invariant

variable {state : State} {now : Instant} {links : Links} {address : Address}

theorem init : Invariant system.init := fun _ ↦ ⟨Tracks.init 0, rfl⟩

/-- A peer whose retry state and ledger are as before. -/
theorem other (invariant : Invariant state) {ledger : Deadlines Address} {entry : Option Retry}
    (hentry : entry = state.links.retry.lookup address)
    (hagree : Deadlines.Agree state.ledger ledger address) :
    Follows entry (ledger.delays address) (ledger.armed address) := by
  rw [hentry, hagree.delays, hagree.armed]
  exact invariant address

theorem arm (ledger : Deadlines Address)
    (harms : Arms now (links.retry.lookup address) (ledger.delays address))
    (hothers : ∀ other, other ≠ address → Follows (links.retry.lookup other)
      (ledger.delays other) (ledger.armed other)) :
    Invariant ({ state with ledger := ledger }.arm links now address) := by
  intro other
  rw [State.arm]
  by_cases hother : other = address
  · obtain ⟨retry, delay, hentry, hafter, htracks⟩ := harms
    subst hother
    refine ⟨?_, Deadlines.armed_arm⟩
    simpa only [hentry, Option.map_some, hafter, Option.getD_some, Deadlines.delays_arm] using
      htracks
  · have hagree : Deadlines.Agree ledger
        (ledger.arm now address ((links.retry.lookup address).map Retry.after)) other :=
      Deadlines.agree_arm hother _
    simpa only [hagree.delays, hagree.armed] using hothers other hother

theorem begin (invariant : Invariant state) (now : Instant) (address : Address) :
    Invariant (state.begin now address) := by
  have hretry : (state.links.begin now address).1.retry =
      (state.links.expire now address).retry := retry_start now
  unfold State.begin
  split
  · next hstale =>
    apply arm state.ledger
    · rw [hretry, expire_of_stale hstale]
      exact arms_backOff now (tracks_retryState now (invariant address).tracks)
    · intro other hother
      rw [hretry, (Links.touches_expire now address).retry other hother]
      exact invariant other
  · next hfresh =>
    intro other
    change Follows ((state.links.begin now address).1.retry.lookup other) _ _
    rw [hretry, expire_of_fresh hfresh]
    exact invariant other

theorem accept (invariant : Invariant state) (now : Instant) (address : Address) :
    Invariant { state with links := (state.links.accept now address).1, now := now } := by
  intro other
  change Follows ((state.links.accept now address).1.retry.lookup other) _ _
  rcases @Links.accept_cases state.links now address with ⟨-, hrefused⟩ | ⟨-, haccepted⟩
  · rw [hrefused]
    exact invariant other
  · rw [haccepted]
    exact invariant other

theorem connectFailed (invariant : Invariant state) (now : Instant) (address : Address)
    (attempt : UInt64) (busy : Bool) :
    Invariant (state.connectFailed now address attempt busy) := by
  unfold State.connectFailed
  split
  · next hcurrent =>
    apply arm state.ledger
    · exact arms_connectFailed busy hcurrent (tracks_retryState now (invariant address).tracks)
    · intro other hother
      rw [(Links.touches_connectFailed now address attempt busy).retry other hother]
      exact invariant other
  · next hold =>
    intro other
    change Follows ((state.links.connectFailed now address attempt busy).retry.lookup other) _ _
    rw [Links.connectFailed_of_not_current (Bool.of_not_eq_true hold)]
    exact invariant other

theorem ended (invariant : Invariant state) (now : Instant) (address : Address) :
    Invariant (state.ended now address) := by
  have htouches : Links.Touches address state.links (state.links.ended now address) :=
    Links.touches_ended now address
  unfold State.ended
  cases hstream : state.links.connected.lookup address with
  | none =>
    intro other
    change Follows ((state.links.ended now address).retry.lookup other) _ _
    rw [Links.ended, hstream]
    exact invariant other
  | some start =>
    dsimp only
    split
    · next hstable =>
      apply arm
      · rw [Links.ended, hstream, Deadlines.delays_forget]
        dsimp only
        rw [if_pos hstable]
        apply arms_backOff
        rw [Links.retryState, Table.lookup_erase, if_pos rfl]
        exact Tracks.init now
      · intro other hother
        exact invariant.other (htouches.retry other hother) (Deadlines.agree_forget hother)
    · next hshort =>
      apply arm state.ledger
      · rw [Links.ended, hstream]
        dsimp only
        rw [if_neg hshort]
        exact arms_backOff now (tracks_retryState now (invariant address).tracks)
      · intro other hother
        rw [htouches.retry other hother]
        exact invariant other

theorem reset (invariant : Invariant state) (now : Instant) (address : Address) :
    Invariant (state.reset now address) := by
  intro other
  change Follows ((state.links.reset address).retry.lookup other) _ _
  by_cases hother : other = address
  · subst hother
    rw [Links.reset, Table.lookup_erase, if_pos rfl]
    refine ⟨?_, Deadlines.armed_forget⟩
    simpa only [State.reset, Option.getD_none, Deadlines.delays_forget] using Tracks.init 0
  · exact invariant.other ((Links.touches_reset address).retry other hother)
      (Deadlines.agree_forget hother)

theorem step (invariant : Invariant state) {action : Action} {next : State}
    (hstep : system.step state action = some next) : Invariant next := by
  obtain ⟨-, happly⟩ := Option.ite_none_right_eq_some.mp hstep
  rw [← Option.some.inj happly]
  cases action with
  | begin now address => exact invariant.begin now address
  | accept now address => exact invariant.accept now address
  | connectFailed now address attempt busy =>
    exact invariant.connectFailed now address attempt busy
  | ended now address => exact invariant.ended now address
  | reset now address => exact invariant.reset now address

theorem of_reachable (hreach : system.Reachable state) : Invariant state :=
  hreach.invariant init fun _ _ _ invariant hstep ↦ invariant.step hstep

end Invariant

/-- A call of `begin` for a peer without an attempt changes no deadline. -/
theorem deadline_begin {state : State} {address : Address}
    (hidle : state.links.connecting.lookup address = none) (now : Instant) (other : Address) :
    (state.begin now address).deadline other = state.deadline other := by
  have hfresh : ¬ state.isStale now address = true := by
    rw [State.isStale, hidle]
    exact Bool.false_ne_true
  have hretry : (state.links.begin now address).1.retry = state.links.retry := by
    rw [Links.begin, retry_start, expire_of_fresh hfresh]
  rw [State.begin, if_neg hfresh, State.deadline, hretry]
  rfl

theorem bounded_of_reachable {state : State} (hreach : system.Reachable state) :
    Bounded state where
  delays address := (Invariant.of_reachable hreach address).tracks.budgeted
  fits address retry hretry := by
    have htracks := (Invariant.of_reachable hreach address).tracks
    rw [hretry] at htracks
    exact htracks.fits
  begin_granted := by
    intro now address attempt hgranted
    have hdue := begin_granted hgranted
    have hfresh : ¬ state.isStale now address = true := by
      intro hstale
      rw [expire_of_stale hstale, Links.backOff, Table.lookup_insert, if_pos rfl] at hdue
      have harmed := hdue _ rfl
      have hlong := le_backOffDelay (state.links.retryState now address).failures
      exact absurd harmed (Nat.not_le_of_lt (Nat.lt_add_of_pos_right
        (Nat.lt_of_lt_of_le (by decide) hlong)))
    rw [expire_of_fresh hfresh] at hdue
    constructor
    · rw [State.begin, if_neg hfresh]
    · intro deadline harmed
      rw [(Invariant.of_reachable hreach address).armed] at harmed
      obtain ⟨retry, hretry, rfl⟩ := Option.map_eq_some_iff.mp harmed
      exact hdue retry hretry
  begin_keeps now address other hidle := deadline_begin hidle now other

/-- The two implementations of the back-off, over all runs of each. -/
theorem retries_bounded :
    (∀ state, FastPair.Backoff.system.Reachable state → FastPair.Backoff.Bounded state) ∧
      ∀ state, system.Reachable state → Bounded state :=
  ⟨fun _ hreach ↦ FastPair.Backoff.bounded_of_reachable hreach,
    fun _ hreach ↦ bounded_of_reachable hreach⟩

section Example

/-- A busy peer, an attempt that expires, and a stream that ends after more than a minute. -/
def fastPairRun : List FastPair.Backoff.Action :=
  let busy := ConnectionError.bluez .inProgress ""
  [.begin 0 0 .rfcomm 0, .connectionFailed 10 0 1 busy 0, .clearDue 260, .begin 260 0 .rfcomm 0,
    .begin 40000 0 .rfcomm 7, .markConnected 41000 0, .ended 102000 0 3]

def vendorRun : List Action :=
  [.begin 0 0, .connectFailed 10 0 1 true, .begin 1010 0, .begin 40000 0, .accept 41000 0,
    .ended 102000 0]

theorem retries_bounded_example : ∃ fastPair vendor,
    FastPair.Backoff.system.run FastPair.Backoff.system.init fastPairRun = some fastPair ∧
      system.run system.init vendorRun = some vendor ∧
      fastPair.ledger.delays 0 = [18000] ∧ vendor.ledger.delays 0 = [15000] ∧
      FastPair.Backoff.Bounded fastPair ∧ Bounded vendor :=
  ⟨_, _, rfl, rfl, rfl, rfl, retries_bounded.1 _ ⟨fastPairRun, rfl⟩,
    retries_bounded.2 _ ⟨vendorRun, rfl⟩⟩

end Example

end BtDaemon.VendorChannel.Backoff
