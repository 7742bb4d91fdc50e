import BtDaemon.Foundation.Table
import BtDaemon.Foundation.Transition
import BtDaemon.Foundation.Window

/-!
# The limits of the RSSI helper

The helper admits a bounded number of requests a second, and reads a target again only after an
interval. Each limit keeps what it accepted within its window and drops the rest at the next
call. The limits are behind one lock, so the calls come at non-decreasing instants.
-/

namespace BtDaemon.RssiHelper

open Transition

/-- Nanoseconds of the monotonic clock. -/
abbrev Instant := ℕ

abbrev Target := UInt16 × BitVec 48

def second : ℕ := 1000000000

/-- `TARGET_INTERVAL` -/
def targetInterval : ℕ := 2 * second

/-- The error of the D-Bus interface that a limit answers with. -/
inductive FdoError
  | limitsExceeded (message : String)
  deriving DecidableEq

def limited : FdoError := .limitsExceeded "RSSI helper request limit reached"

structure Limits where
  arrivals : List Instant
  targets : Table Target Instant

namespace Limits

def init : Limits := ⟨[], ∅⟩

/-- `Limits::admit`. -/
def admits (limits : Limits) (now : Instant) : Except FdoError Unit × Limits :=
  let arrivals := limits.arrivals.filter fun time ↦ decide (now - time < second)
  if 16 ≤ arrivals.length then (.error limited, { limits with arrivals })
  else (.ok (), { limits with arrivals := arrivals ++ [now] })

def target (limits : Limits) (now : Instant) (target : Target) : Except FdoError Unit × Limits :=
  let targets := limits.targets.retain fun _ time ↦ decide (now - time < targetInterval)
  if 64 ≤ targets.entries.length ∨ (targets.lookup target).isSome then
    (.error limited, { limits with targets })
  else (.ok (), { limits with targets := targets.insert target now })

end Limits

/-! ## Runs -/

namespace Limits

/-- The limits, the instant of the last call, and every call that was accepted. -/
structure State where
  limits : Limits
  now : Instant
  admitted : List Instant
  accepted : List (Target × Instant)

inductive Action
  | admits (now : Instant)
  | target (now : Instant) (target : Target)

def State.admits (state : State) (now : Instant) : State :=
  match state.limits.admits now with
  | (.ok _, limits) => { state with limits, now, admitted := state.admitted ++ [now] }
  | (.error _, limits) => { state with limits, now }

def State.target (state : State) (now : Instant) (target : Target) : State :=
  match state.limits.target now target with
  | (.ok _, limits) => { state with limits, now, accepted := state.accepted ++ [(target, now)] }
  | (.error _, limits) => { state with limits, now }

def step (state : State) : Action → Option State
  | .admits now => if state.now ≤ now then some (state.admits now) else none
  | .target now target => if state.now ≤ now then some (state.target now target) else none

def system : System State Action := ⟨⟨init, 0, [], []⟩, step⟩

/-! ## What the limits promise -/

/-- The bound on admissions, for every half-open window of one second. -/
def AdmissionsBounded (admitted : List Instant) : Prop :=
  Window.Bounded id second 16 admitted

/-- The bounds on targets: one target at most once in an interval, and a bounded number of
targets in every half-open window of an interval. -/
structure TargetsBounded (accepted : List (Target × Instant)) : Prop where
  apart : accepted.Pairwise fun earlier later ↦
    earlier.1 = later.1 → earlier.2 + targetInterval ≤ later.2
  bounded : Window.Bounded Prod.snd targetInterval 64 accepted

/-- The bounds hold, a refused call would have broken one, and the tables are small. -/
structure Limited (state : State) : Prop where
  admissions : AdmissionsBounded state.admitted
  targets : TargetsBounded state.accepted
  admit_refused : ∀ now error limits, state.now ≤ now →
    state.limits.admits now = (.error error, limits) →
      ¬ AdmissionsBounded (state.admitted ++ [now])
  target_refused : ∀ now target error limits, state.now ≤ now →
    state.limits.target now target = (.error error, limits) →
      ¬ TargetsBounded (state.accepted ++ [(target, now)])
  arrivals_small : state.limits.arrivals.length ≤ 16
  targets_small : state.limits.targets.entries.length ≤ 64

/-! ## The tables hold what is recent -/

/-- The attempts in the table, oldest first. -/
def attempts (targets : Table Target Instant) : List (Target × Instant) :=
  (targets.entries.map fun entry ↦ (entry.1, entry.2)).reverse

theorem length_attempts (targets : Table Target Instant) :
    (attempts targets).length = targets.entries.length := by
  simp [attempts]

theorem attempts_retain (targets : Table Target Instant) (now : Instant) :
    attempts (targets.retain fun _ time ↦ decide (now - time < targetInterval)) =
      Window.recent Prod.snd targetInterval now (attempts targets) := by
  simp only [attempts, Table.retain, Window.recent, List.filter_reverse, List.filter_map]
  rfl

theorem attempts_insert {targets : Table Target Instant} {target : Target}
    (hfree : targets.lookup target = none) (now : Instant) :
    attempts (targets.insert target now) = attempts targets ++ [(target, now)] := by
  have hkey : target ∉ targets := AList.lookup_eq_none.mp hfree
  simp only [attempts, AList.entries_insert_of_notMem hkey, List.map_cons, List.reverse_cons]

theorem isSome_lookup_iff (targets : Table Target Instant) (target : Target) :
    (targets.lookup target).isSome = true ↔ ∃ time, (target, time) ∈ attempts targets := by
  rw [Option.isSome_iff_exists]
  refine exists_congr fun time ↦ ?_
  rw [← Table.mem_entries, attempts, List.mem_reverse, List.mem_map]
  constructor
  · intro hentry
    exact ⟨_, hentry, rfl⟩
  · rintro ⟨⟨key, value⟩, hentry, hsame⟩
    obtain ⟨rfl, rfl⟩ := Prod.mk.inj hsame
    exact hentry

/-! ## The invariant -/

structure Invariant (state : State) : Prop where
  arrivals : Window.Keeps id second state.now state.limits.arrivals state.admitted
  admitted : Window.Past id state.now state.admitted
  admissions : AdmissionsBounded state.admitted
  targets : Window.Keeps Prod.snd targetInterval state.now (attempts state.limits.targets)
    state.accepted
  accepted : Window.Past Prod.snd state.now state.accepted
  targetsBounded : TargetsBounded state.accepted
  arrivals_small : state.limits.arrivals.length ≤ 16
  targets_small : state.limits.targets.entries.length ≤ 64

namespace Invariant

variable {state : State}

theorem init : Invariant system.init where
  arrivals := ⟨0, Nat.le_refl 0, rfl⟩
  admitted _ hitem := by cases hitem
  admissions := Window.bounded_nil 16
  targets := ⟨0, Nat.le_refl 0, rfl⟩
  accepted _ hitem := by cases hitem
  targetsBounded := ⟨List.Pairwise.nil, Window.bounded_nil 64⟩
  arrivals_small := Nat.zero_le 16
  targets_small := Nat.zero_le 64

/-- What is left of the queue is every admission of the last second. -/
theorem pruned_arrivals (invariant : Invariant state) {now : Instant} (hnow : state.now ≤ now) :
    (state.limits.arrivals.filter fun time ↦ decide (now - time < second)) =
      Window.recent id second now state.admitted :=
  invariant.arrivals.recent_eq hnow

theorem pruned_targets (invariant : Invariant state) {now : Instant} (hnow : state.now ≤ now) :
    attempts (state.limits.targets.retain fun _ time ↦ decide (now - time < targetInterval)) =
      Window.recent Prod.snd targetInterval now state.accepted := by
  rw [attempts_retain]
  exact invariant.targets.recent_eq hnow

/-- The answer depends on the admissions of the last second. -/
theorem admit_ok (invariant : Invariant state) {now : Instant} (hnow : state.now ≤ now)
    (hroom : (Window.recent id second now state.admitted).length < 16) :
    state.limits.admits now = (.ok (), { state.limits with
      arrivals := Window.recent id second now state.admitted ++ [now] }) := by
  rw [Limits.admits, invariant.pruned_arrivals hnow]
  exact if_neg (Nat.not_le_of_lt hroom)

theorem admit_error (invariant : Invariant state) {now : Instant} (hnow : state.now ≤ now)
    (hfull : 16 ≤ (Window.recent id second now state.admitted).length) :
    state.limits.admits now = (.error limited, { state.limits with
      arrivals := Window.recent id second now state.admitted }) := by
  rw [Limits.admits, invariant.pruned_arrivals hnow]
  exact if_pos hfull

theorem admits (invariant : Invariant state) {now : Instant} (hnow : state.now ≤ now) :
    Invariant (state.admits now) := by
  have hpast := invariant.admitted.mono hnow
  unfold State.admits
  rcases Nat.lt_or_ge (Window.recent id second now state.admitted).length 16 with hroom | hfull
  · rw [invariant.admit_ok hnow hroom]
    exact
      { arrivals := Window.keeps_concat (by decide) state.admitted rfl
        admitted := hpast.concat (Nat.le_refl now)
        admissions := invariant.admissions.concat rfl hroom
        targets := invariant.targets.mono hnow
        accepted := invariant.accepted.mono hnow
        targetsBounded := invariant.targetsBounded
        arrivals_small := by
          rw [List.length_append, List.length_singleton]
          exact hroom
        targets_small := invariant.targets_small }
  · rw [invariant.admit_error hnow hfull]
    exact
      { arrivals := Window.keeps_recent now state.admitted
        admitted := hpast
        admissions := invariant.admissions
        targets := invariant.targets.mono hnow
        accepted := invariant.accepted.mono hnow
        targetsBounded := invariant.targetsBounded
        arrivals_small := by
          rw [← invariant.pruned_arrivals hnow]
          exact Nat.le_trans (List.length_filter_le _ _) invariant.arrivals_small
        targets_small := invariant.targets_small }

/-- There is no room for the target: too many targets were read within the interval, or this one
was. -/
def Taken (state : State) (now : Instant) (target : Target) : Prop :=
  64 ≤ (Window.recent Prod.snd targetInterval now state.accepted).length ∨
    ∃ time, (target, time) ∈ Window.recent Prod.snd targetInterval now state.accepted

/-- The targets that are left after the prune. -/
def kept (state : State) (now : Instant) : Table Target Instant :=
  state.limits.targets.retain fun _ time ↦ decide (now - time < targetInterval)

theorem taken_iff (invariant : Invariant state) {now : Instant} (hnow : state.now ≤ now)
    (target : Target) :
    64 ≤ (kept state now).entries.length ∨ ((kept state now).lookup target).isSome ↔
      Taken state now target := by
  have hpruned := invariant.pruned_targets hnow
  rw [← length_attempts, isSome_lookup_iff, kept, hpruned]
  rfl

theorem target_ok (invariant : Invariant state) {now : Instant} (hnow : state.now ≤ now)
    {target : Target} (hfree : ¬ Taken state now target) :
    state.limits.target now target = (.ok (), { state.limits with
      targets := (kept state now).insert target now }) :=
  if_neg fun htaken ↦ hfree ((invariant.taken_iff hnow target).mp htaken)

theorem target_error (invariant : Invariant state) {now : Instant} (hnow : state.now ≤ now)
    {target : Target} (htaken : Taken state now target) :
    state.limits.target now target = (.error limited, { state.limits with
      targets := kept state now }) :=
  if_pos ((invariant.taken_iff hnow target).mpr htaken)

/-- The bounds leave room for the target exactly when it is not taken. -/
theorem targetsBounded_concat_iff (invariant : Invariant state) {now : Instant}
    (hnow : state.now ≤ now) (target : Target) :
    TargetsBounded (state.accepted ++ [(target, now)]) ↔ ¬ Taken state now target := by
  have hpast := invariant.accepted.mono hnow
  constructor
  · rintro bounds (hfull | ⟨time, hrecent⟩)
    · exact Window.not_bounded_concat (by decide) hpast rfl hfull bounds.bounded
    · obtain ⟨hattempt, hyoung⟩ := List.mem_filter.mp hrecent
      have hapart := (List.pairwise_append.mp bounds.apart).2.2 _ hattempt (target, now)
        (List.mem_singleton_self _) rfl
      have hage := of_decide_eq_true hyoung
      dsimp only at hapart hage
      omega
  · intro hfree
    obtain ⟨hroom, hnew⟩ := not_or.mp hfree
    refine ⟨?_, invariant.targetsBounded.bounded.concat rfl (Nat.lt_of_not_le hroom)⟩
    refine List.pairwise_append.mpr ⟨invariant.targetsBounded.apart, List.pairwise_singleton _ _, ?_⟩
    rintro ⟨other, time⟩ hattempt later hlater hsame
    obtain rfl := List.mem_singleton.mp hlater
    obtain rfl : other = target := hsame
    by_contra hearly
    refine hnew ⟨time, List.mem_filter.mpr ⟨hattempt, decide_eq_true ?_⟩⟩
    exact Nat.sub_lt_left_of_lt_add (hpast _ hattempt) (Nat.lt_of_not_le hearly)

theorem target (invariant : Invariant state) {now : Instant} (hnow : state.now ≤ now)
    (target : Target) : Invariant (state.target now target) := by
  have hpast := invariant.accepted.mono hnow
  have hpruned : attempts (kept state now) = _ := invariant.pruned_targets hnow
  unfold State.target
  by_cases htaken : Taken state now target
  · rw [invariant.target_error hnow htaken]
    exact
      { arrivals := invariant.arrivals.mono hnow
        admitted := invariant.admitted.mono hnow
        admissions := invariant.admissions
        targets := by
          dsimp only
          rw [hpruned]
          exact Window.keeps_recent now state.accepted
        accepted := hpast
        targetsBounded := invariant.targetsBounded
        arrivals_small := invariant.arrivals_small
        targets_small := Nat.le_trans (List.length_filter_le _ _) invariant.targets_small }
  · obtain ⟨hroom, hnew⟩ := not_or.mp htaken
    have hfree : (kept state now).lookup target = none := by
      rw [← Option.not_isSome_iff_eq_none, isSome_lookup_iff, hpruned]
      exact hnew
    have hinserted := attempts_insert hfree now
    rw [hpruned] at hinserted
    rw [invariant.target_ok hnow htaken]
    exact
      { arrivals := invariant.arrivals.mono hnow
        admitted := invariant.admitted.mono hnow
        admissions := invariant.admissions
        targets := by
          dsimp only
          rw [hinserted]
          exact Window.keeps_concat (by decide) state.accepted rfl
        accepted := hpast.concat (Nat.le_refl now)
        targetsBounded := (invariant.targetsBounded_concat_iff hnow target).mpr htaken
        arrivals_small := invariant.arrivals_small
        targets_small := by
          dsimp only
          rw [← length_attempts, hinserted, List.length_append, List.length_singleton]
          exact Nat.lt_of_not_le hroom }

theorem step (invariant : Invariant state) {action : Action} {next : State}
    (hstep : Limits.step state action = some next) : Invariant next := by
  cases action with
  | admits now =>
    obtain ⟨hnow, hnext⟩ := Option.ite_none_right_eq_some.mp hstep
    obtain rfl := Option.some.inj hnext
    exact invariant.admits hnow
  | target now target =>
    obtain ⟨hnow, hnext⟩ := Option.ite_none_right_eq_some.mp hstep
    obtain rfl := Option.some.inj hnext
    exact invariant.target hnow target

theorem limited (invariant : Invariant state) : Limited state where
  admissions := invariant.admissions
  targets := invariant.targetsBounded
  admit_refused now error limits hnow hrefused := by
    apply Window.not_bounded_concat (by decide) (invariant.admitted.mono hnow) rfl
    by_contra hroom
    rw [invariant.admit_ok hnow (Nat.lt_of_not_le hroom)] at hrefused
    cases hrefused
  target_refused now target error limits hnow hrefused := by
    rw [invariant.targetsBounded_concat_iff hnow, not_not]
    by_contra hfree
    rw [invariant.target_ok hnow hfree] at hrefused
    cases hrefused
  arrivals_small := invariant.arrivals_small
  targets_small := invariant.targets_small

end Invariant

/-- In every run the limits bound every window, refuse only what would break a bound, and keep
their tables small. -/
theorem limits_bound_every_window {state : State} (hreach : system.Reachable state) :
    Limited state :=
  (hreach.invariant Invariant.init fun _ _ _ invariant hstep ↦ invariant.step hstep).limited

/-- A target is read, refused within the interval, and read again once it is over. -/
def repeatedRun : List Action :=
  [.admits 0, .target 0 (0, 1), .admits 5, .target (targetInterval - 1) (0, 1),
    .target targetInterval (0, 1)]

theorem limits_bound_every_window_repeated :
    ∃ state, system.run system.init repeatedRun = some state ∧
      state.accepted = [((0, 1), 0), ((0, 1), targetInterval)] ∧ Limited state :=
  ⟨_, rfl, rfl, limits_bound_every_window ⟨repeatedRun, rfl⟩⟩

end Limits

end BtDaemon.RssiHelper
