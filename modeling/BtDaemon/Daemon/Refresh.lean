import BtDaemon.Daemon.Published

/-!
# The refresh loop

A task publishes what it reads from the backend. It subscribes to the change notifications before
its first read, and after each read it waits for a notification, sleeps, drains the channel, and
reads again. The channel is a ring of bounded capacity: a receiver that was overtaken gets one
error for everything it missed and goes on with the oldest notification that is left.

Next to what the program has, a state numbers the notifications, and records how many had been
sent when the read that was published last began.
-/

namespace BtDaemon.Daemon.Refresh

open Transition

/-- Where the task is in its loop. -/
inductive Phase
  /-- Subscribed, or drained. -/
  | ready
  /-- `backend.snapshot()`, with the notifications sent when it began. -/
  | reading (began : ℕ)
  /-- `receiver.recv()` -/
  | waiting
  | sleeping
  | draining
  | stopped
  deriving DecidableEq

/-- What a receiver can get from the channel without waiting. -/
inductive Received
  | notification
  | lagged
  | closed
  | empty
  deriving DecidableEq

structure State (Value : Type) where
  published : Published Value
  phase : Phase
  /-- The notifications that were sent. -/
  sent : ℕ
  /-- The position of the receiver. -/
  next : ℕ
  closed : Bool
  /-- The notifications sent when the read that was published last began, and what it read. -/
  lastRead : Option (ℕ × Value)

inductive Action (Value : Type)
  | notify
  /-- The last sender is dropped. -/
  | close
  | read
  | publish (value : Value) (uuid : String)
  | receive
  | awake
  | drain

section

variable {Value : Type} (capacity : ℕ)

def init (value : Value) (uuid : String) : State Value :=
  ⟨.new value uuid, .ready, 0, 0, false, none⟩

/-- What the channel has for the receiver, and the position it moves to. -/
def received (state : State Value) : Received × ℕ :=
  if state.next + capacity < state.sent then (.lagged, state.sent - capacity)
  else if state.next < state.sent then (.notification, state.next + 1)
  else if state.closed then (.closed, state.next)
  else (.empty, state.next)

def step [BEq Value] (state : State Value) : Action Value → Option (State Value)
  | .notify => if state.closed then none else some { state with sent := state.sent + 1 }
  | .close => some { state with closed := true }
  | .read =>
    match state.phase with
    | .ready => some { state with phase := .reading state.sent }
    | _ => none
  | .publish value uuid =>
    match state.phase with
    | .reading began =>
      some { state with
        phase := .waiting
        published := state.published.update value uuid
        lastRead := some (began, value) }
    | _ => none
  | .receive =>
    match state.phase, received capacity state with
    | .waiting, (.notification, next) | .waiting, (.lagged, next) =>
      some { state with phase := .sleeping, next }
    | .waiting, (.closed, _) => some { state with phase := .stopped }
    | _, _ => none
  | .awake =>
    match state.phase with
    | .sleeping => some { state with phase := .draining }
    | _ => none
  | .drain =>
    -- The drain goes on while `try_recv` is `Ok`, so an error for missed ones ends it.
    match state.phase, received capacity state with
    | .draining, (.notification, next) => some { state with next }
    | .draining, (_, next) => some { state with phase := .ready, next }
    | _, _ => none

def system [BEq Value] (value : Value) (uuid : String) : System (State Value) (Action Value) :=
  ⟨init value uuid, step capacity⟩

/-! ## What the loop promises -/

structure Refreshed [BEq Value] (state : State Value) : Prop where
  /-- Waiting with nothing left, the published value is what a read saw that began after the
  last notification was sent. -/
  fresh : state.phase = .waiting → state.next = state.sent →
    ∃ value, state.lastRead = some (state.sent, value) ∧
      (state.published.value = value ∨ (state.published.value == value) = true)
  /-- With something left the loop goes on. -/
  awake : state.phase = .waiting → state.next < state.sent →
    ∃ later, step capacity state .receive = some later ∧ later.phase = .sleeping

/-! ## The invariant -/

/-- What was received was sent before the read that follows. -/
structure Invariant [BEq Value] (state : State Value) : Prop where
  next_le : state.next ≤ state.sent
  reading : ∀ began, state.phase = .reading began → state.next ≤ began ∧ began ≤ state.sent
  waiting : state.phase = .waiting → ∃ began value, state.lastRead = some (began, value) ∧
    state.next ≤ began ∧ began ≤ state.sent ∧
      (state.published.value = value ∨ (state.published.value == value) = true)

variable {capacity}

theorem received_le {state : State Value} (hnext : state.next ≤ state.sent) :
    (received capacity state).2 ≤ state.sent := by
  unfold received
  split
  · exact Nat.sub_le _ _
  · split
    · next hleft => exact hleft
    · split <;> exact hnext

/-- With something left a receiver gets a notification or the error for those it missed. -/
theorem received_of_lt {state : State Value} (hleft : state.next < state.sent) :
    ∃ next, received capacity state = (.notification, next) ∨
      received capacity state = (.lagged, next) := by
  rw [received, if_pos hleft]
  split
  · exact ⟨_, .inr rfl⟩
  · exact ⟨_, .inl rfl⟩

theorem published_update [BEq Value] (published : Published Value) (value : Value)
    (uuid : String) :
    (published.update value uuid).value = value ∨
      ((published.update value uuid).value == value) = true := by
  cases hequal : published.value == value with
  | true =>
    rw [Published.update_of_equal hequal]
    exact .inr hequal
  | false => exact .inl ((Publisher.advances published value uuid).published hequal)

namespace Invariant

variable [BEq Value] {state : State Value}

theorem init (value : Value) (uuid : String) : Invariant (init value uuid) where
  next_le := Nat.le_refl 0
  reading _ hphase := by cases hphase
  waiting hphase := by cases hphase

theorem notify (invariant : Invariant state) :
    Invariant { state with sent := state.sent + 1 } where
  next_le := Nat.le_succ_of_le invariant.next_le
  reading began hphase := by
    obtain ⟨hnext, hbegan⟩ := invariant.reading began hphase
    exact ⟨hnext, Nat.le_succ_of_le hbegan⟩
  waiting hphase := by
    obtain ⟨began, value, hread, hnext, hbegan, hvalue⟩ := invariant.waiting hphase
    exact ⟨began, value, hread, hnext, Nat.le_succ_of_le hbegan, hvalue⟩

/-- Between a receive and the next read only the position of the receiver matters. -/
theorem moves {phase : Phase} {next : ℕ} (hnext : next ≤ state.sent)
    (hreading : ∀ began, phase ≠ .reading began) (hwaiting : phase ≠ .waiting) :
    Invariant { state with phase, next } where
  next_le := hnext
  reading began hphase := absurd hphase (hreading began)
  waiting hphase := absurd hphase hwaiting

/-- The receiver moves on to what comes after the notification or the error that it got. -/
theorem receives (invariant : Invariant state) {phase : Phase} {outcome : Received} {next : ℕ}
    (hgot : received capacity state = (outcome, next))
    (hreading : ∀ began, phase ≠ .reading began) (hwaiting : phase ≠ .waiting) :
    Invariant { state with phase, next } := by
  have hreceived : (received capacity state).2 ≤ state.sent := received_le invariant.next_le
  rw [hgot] at hreceived
  exact moves hreceived hreading hwaiting

theorem step {action : Action Value} {next : State Value} (invariant : Invariant state)
    (hstep : Refresh.step capacity state action = some next) : Invariant next := by
  cases action with
  | notify =>
    obtain ⟨-, hnext⟩ := Option.ite_none_left_eq_some.mp hstep
    obtain rfl := Option.some.inj hnext
    exact invariant.notify
  | close =>
    obtain rfl := Option.some.inj hstep
    exact ⟨invariant.next_le, invariant.reading, invariant.waiting⟩
  | read =>
    simp only [Refresh.step] at hstep
    split at hstep
    · obtain rfl := Option.some.inj hstep
      refine ⟨invariant.next_le, fun began hreading ↦ ?_, nofun⟩
      obtain rfl := Phase.reading.inj hreading
      exact ⟨invariant.next_le, Nat.le_refl _⟩
    · cases hstep
  | publish value uuid =>
    simp only [Refresh.step] at hstep
    split at hstep
    · next began hphase =>
      obtain rfl := Option.some.inj hstep
      obtain ⟨hnext, hbegan⟩ := invariant.reading began hphase
      exact ⟨invariant.next_le, nofun, fun _ ↦
        ⟨began, value, rfl, hnext, hbegan, published_update state.published value uuid⟩⟩
    · cases hstep
  | receive =>
    simp only [Refresh.step] at hstep
    split at hstep
    · next later _ hgot =>
      obtain rfl := Option.some.inj hstep
      exact invariant.receives hgot nofun nofun
    · next later _ hgot =>
      obtain rfl := Option.some.inj hstep
      exact invariant.receives hgot nofun nofun
    · obtain rfl := Option.some.inj hstep
      exact moves invariant.next_le nofun nofun
    · cases hstep
  | awake =>
    simp only [Refresh.step] at hstep
    split at hstep
    · obtain rfl := Option.some.inj hstep
      exact moves invariant.next_le nofun nofun
    · cases hstep
  | drain =>
    simp only [Refresh.step] at hstep
    split at hstep
    · next later hphase hgot =>
      obtain rfl := Option.some.inj hstep
      rw [hphase]
      exact invariant.receives hgot nofun nofun
    · next later _ _ hgot =>
      obtain rfl := Option.some.inj hstep
      exact invariant.receives hgot nofun nofun
    · cases hstep

theorem refreshed (invariant : Invariant state) : Refreshed capacity state where
  fresh hphase hempty := by
    obtain ⟨began, value, hread, hnext, hbegan, hvalue⟩ := invariant.waiting hphase
    obtain rfl : began = state.sent := Nat.le_antisymm hbegan (hempty ▸ hnext)
    exact ⟨value, hread, hvalue⟩
  awake hphase hleft := by
    obtain ⟨next, hgot | hgot⟩ : ∃ next, received capacity state = (.notification, next) ∨
        received capacity state = (.lagged, next) := received_of_lt hleft
    · exact ⟨{ state with phase := .sleeping, next }, by simp only [Refresh.step, hphase, hgot], rfl⟩
    · exact ⟨{ state with phase := .sleeping, next }, by simp only [Refresh.step, hphase, hgot], rfl⟩

end Invariant

/-- In every interleaving of notifications with the loop, no notification is left unread. -/
theorem refreshes_all [BEq Value] {value : Value} {uuid : String} {state : State Value}
    (hreach : (system capacity value uuid).Reachable state) : Refreshed capacity state := by
  have hinvariant : Invariant state :=
    hreach.invariant (Invariant.init value uuid) fun _ _ _ invariant hstep ↦ invariant.step hstep
  exact hinvariant.refreshed

end

/-- Two notifications overrun a channel of one while the loop sleeps, one arrives while it reads,
and the loop reads again. -/
def overrunRun : List (Action ℕ) :=
  [.read, .publish 1 "a", .notify, .receive, .notify, .notify, .awake, .drain, .read, .notify,
    .publish 2 "b", .receive, .awake, .drain, .drain, .read, .publish 3 "c"]

theorem refreshes_all_overrun :
    ∃ state, (system 1 0 "epoch").run (init 0 "epoch") overrunRun = some state ∧
      state.lastRead = some (4, 3) ∧ Refreshed 1 state :=
  ⟨_, rfl, rfl, refreshes_all (⟨overrunRun, rfl⟩ : (system 1 0 "epoch").Reachable _)⟩

end BtDaemon.Daemon.Refresh
