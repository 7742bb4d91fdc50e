import BtDaemon.Foundation.Table

/-!
# The links of a vendor channel

One table of connection attempts, one of accepted streams and one of retry states, under one
lock. An attempt has a number that is never used again. All methods are atomic steps, and the
clock is an argument of every method that reads it.
-/

namespace BtDaemon.VendorChannel

abbrev Address := BitVec 48

/-- Milliseconds of the monotonic clock. -/
abbrev Instant := ℕ

/-- `STALE_CONNECT`. -/
def staleConnect : ℕ := 30000

def busyRetries : ℕ := 6

/-- The age from which the end of a stream clears the retry state. -/
def stableStream : ℕ := 60000

structure Attempt where
  id : UInt64
  started : Instant
  deriving DecidableEq, Repr

structure Retry where
  failures : ℕ
  busy : ℕ
  after : Instant
  deriving DecidableEq, Repr

/-- `checked_add(1)`. -/
def checkedSucc (value : UInt64) : Option UInt64 :=
  if value.toNat + 1 < UInt64.size then some (value + 1) else none

theorem toNat_checkedSucc {value next : UInt64} (hnext : checkedSucc value = some next) :
    next.toNat = value.toNat + 1 := by
  obtain ⟨hbound, hsum⟩ := Option.ite_none_right_eq_some.mp hnext
  rw [← Option.some.inj hsum, UInt64.toNat_add]
  exact Nat.mod_eq_of_lt hbound

structure Links where
  connecting : Table Address Attempt
  connected : Table Address Instant
  retry : Table Address Retry
  nextAttempt : UInt64

namespace Links

def init : Links := ⟨∅, ∅, ∅, 0⟩

variable (self : Links)

def retryState (now : Instant) (address : Address) : Retry :=
  (self.retry.lookup address).getD ⟨0, 0, now⟩

def backOff (now : Instant) (address : Address) : Links :=
  let retry := self.retryState now address
  let delay := min (15 * 2 ^ min retry.failures 5) 300
  { self with
    retry := self.retry.insert address { retry with
      failures := min (retry.failures + 1) (2 ^ 32 - 1)
      after := now + delay * 1000 } }

/-- The first half of `begin`: give up an attempt that produced no stream in time. -/
def expire (now : Instant) (address : Address) : Links :=
  if (self.connecting.lookup address).any fun attempt ↦
      decide (staleConnect ≤ now - attempt.started) then
    { self with connecting := self.connecting.erase address }.backOff now address
  else self

/-- The second half of `begin`. -/
def start (now : Instant) (address : Address) : Links × Option UInt64 :=
  if (self.connected.lookup address).isSome || (self.connecting.lookup address).isSome ||
      (self.retry.lookup address).any (fun retry ↦ decide (now < retry.after)) then
    (self, none)
  else
    match checkedSucc self.nextAttempt with
    | none => (self, none)
    | some attempt =>
      ({ self with
        connecting := self.connecting.insert address ⟨attempt, now⟩
        nextAttempt := attempt }, some attempt)

def begin (now : Instant) (address : Address) : Links × Option UInt64 :=
  (self.expire now address).start now address

def accept (now : Instant) (address : Address) : Links × Bool :=
  let retired := { self with connecting := self.connecting.erase address }
  if (self.connected.lookup address).isSome then (retired, false)
  else ({ retired with connected := retired.connected.insert address now }, true)

def isCurrent (address : Address) (attempt : UInt64) : Bool :=
  (self.connecting.lookup address).any fun current ↦ current.id == attempt

def connectFailed (now : Instant) (address : Address) (attempt : UInt64) (busy : Bool) : Links :=
  if self.isCurrent address attempt then
    let retired := { self with connecting := self.connecting.erase address }
    let retry := self.retryState now address
    if busy && decide (retry.busy < busyRetries) then
      { retired with
        retry := self.retry.insert address { retry with
          busy := retry.busy + 1
          after := now + 1000 } }
    else
      { retired with retry := self.retry.insert address retry }.backOff now address
  else self

def ended (now : Instant) (address : Address) : Links :=
  match self.connected.lookup address with
  | none => self
  | some start =>
    let closed := { self with connected := self.connected.erase address }
    if stableStream ≤ now - start then
      { closed with retry := closed.retry.erase address }.backOff now address
    else closed.backOff now address

/-- An accepted stream stays until its reader ends. -/
def reset (address : Address) : Links :=
  { self with
    retry := self.retry.erase address
    connecting := self.connecting.erase address }

/-! ## What each method does to attempts and streams -/

theorem connected_backOff (now : Instant) (address : Address) :
    (self.backOff now address).connected = self.connected := rfl

theorem retry_backOff (now : Instant) {address other : Address} (hother : other ≠ address) :
    (self.backOff now address).retry.lookup other = self.retry.lookup other := by
  rw [backOff, Table.lookup_insert, if_neg hother]

/-- The step retires at most the attempt of one address, and changes no other address. -/
structure Touches (address : Address) (before after : Links) : Prop where
  attempt : after.connecting.lookup address = before.connecting.lookup address ∨
    after.connecting.lookup address = none
  connecting : ∀ other, other ≠ address →
    after.connecting.lookup other = before.connecting.lookup other
  connected : ∀ other, other ≠ address →
    after.connected.lookup other = before.connected.lookup other
  retry : ∀ other, other ≠ address → after.retry.lookup other = before.retry.lookup other
  nextAttempt : after.nextAttempt = before.nextAttempt

variable {self}

theorem Touches.lookup {address other : Address} {before after : Links} {attempt : Attempt}
    (touches : Touches address before after)
    (hattempt : after.connecting.lookup other = some attempt) :
    before.connecting.lookup other = some attempt := by
  by_cases hother : other = address
  · subst hother
    rcases touches.attempt with hsame | hnone
    · exact hsame ▸ hattempt
    · cases hnone.symm.trans hattempt
  · exact touches.connecting other hother ▸ hattempt

theorem Touches.refl (address : Address) (links : Links) : Touches address links links :=
  ⟨.inl rfl, fun _ _ ↦ rfl, fun _ _ ↦ rfl, fun _ _ ↦ rfl, rfl⟩

theorem Touches.backOff {address : Address} {before after : Links}
    (touches : Touches address before after) (now : Instant) :
    Touches address before (after.backOff now address) :=
  { touches with
    retry := fun other hother ↦
      (after.retry_backOff now hother).trans (touches.retry other hother) }

/-- Retire the attempt and replace the retry state of an address. -/
theorem touches_erase (address : Address) {retry : Table Address Retry}
    (hretry : ∀ other, other ≠ address → retry.lookup other = self.retry.lookup other) :
    Touches address self
      { self with connecting := self.connecting.erase address, retry := retry } where
  attempt := .inr (by rw [Table.lookup_erase, if_pos rfl])
  connecting other hother := by rw [Table.lookup_erase, if_neg hother]
  connected _ _ := rfl
  retry := hretry
  nextAttempt := rfl

theorem touches_expire (now : Instant) (address : Address) :
    Touches address self (self.expire now address) := by
  unfold expire
  split
  · exact (touches_erase address fun _ _ ↦ rfl).backOff now
  · exact .refl address self

theorem connected_expire (now : Instant) (address : Address) :
    (self.expire now address).connected = self.connected := by
  unfold expire
  split <;> rfl

theorem touches_connectFailed (now : Instant) (address : Address) (attempt : UInt64)
    (busy : Bool) : Touches address self (self.connectFailed now address attempt busy) := by
  have hretry : ∀ retry other, other ≠ address →
      (self.retry.insert address retry).lookup other = self.retry.lookup other := by
    intro retry other hother
    rw [Table.lookup_insert, if_neg hother]
  unfold connectFailed
  split
  · dsimp only
    split
    · exact touches_erase address (hretry _)
    · exact (touches_erase address (hretry _)).backOff now
  · exact .refl address self

theorem connected_connectFailed (now : Instant) (address : Address) (attempt : UInt64)
    (busy : Bool) : (self.connectFailed now address attempt busy).connected = self.connected := by
  unfold connectFailed
  split
  · dsimp only
    split <;> rfl
  · rfl

/-- A failure that does not carry the id of the current attempt changes nothing. -/
theorem connectFailed_of_not_current {now : Instant} {address : Address} {attempt : UInt64}
    {busy : Bool} (hold : self.isCurrent address attempt = false) :
    self.connectFailed now address attempt busy = self := by
  rw [connectFailed, hold]
  rfl

theorem touches_reset (address : Address) : Touches address self (self.reset address) := by
  apply touches_erase address
  intro other hother
  rw [Table.lookup_erase, if_neg hother]

theorem touches_ended (now : Instant) (address : Address) :
    Touches address self (self.ended now address) := by
  unfold ended
  cases self.connected.lookup address with
  | none => exact .refl address self
  | some start =>
    have hclosed : Touches address self { self with connected := self.connected.erase address } :=
      { Touches.refl address self with
        connected := fun other hother ↦ by rw [Table.lookup_erase, if_neg hother] }
    dsimp only
    split
    · have hcleared : Touches address self
          { self with
            connected := self.connected.erase address
            retry := self.retry.erase address } :=
        { hclosed with retry := fun other hother ↦ by rw [Table.lookup_erase, if_neg hother] }
      exact hcleared.backOff now
    · exact hclosed.backOff now

theorem connected_ended (now : Instant) (address : Address) :
    (self.ended now address).connected.lookup address = none := by
  unfold ended
  cases hstream : self.connected.lookup address with
  | none => exact hstream
  | some start =>
    dsimp only
    split <;> rw [connected_backOff] <;> exact AList.lookup_erase address _

/-- A stream is refused when there is one, and takes the link otherwise. The attempt is over
either way. -/
theorem accept_cases (now : Instant) (address : Address) :
    (self.connected.lookup address).isSome = true ∧ self.accept now address =
        ({ self with connecting := self.connecting.erase address }, false) ∨
      self.connected.lookup address = none ∧ self.accept now address =
        ({ self with
          connecting := self.connecting.erase address
          connected := self.connected.insert address now }, true) := by
  unfold accept
  by_cases hstream : (self.connected.lookup address).isSome = true
  · exact .inl ⟨hstream, if_pos hstream⟩
  · exact .inr ⟨Option.not_isSome_iff_eq_none.mp hstream, if_neg hstream⟩

/-- A granted attempt has the next number and fills an empty link. -/
theorem start_cases (now : Instant) (address : Address) :
    self.start now address = (self, none) ∨
      ∃ attempt, checkedSucc self.nextAttempt = some attempt ∧
        self.connected.lookup address = none ∧ self.connecting.lookup address = none ∧
        self.start now address =
          ({ self with
            connecting := self.connecting.insert address ⟨attempt, now⟩
            nextAttempt := attempt }, some attempt) := by
  unfold start
  split
  · exact .inl rfl
  · next hfree =>
    cases hnext : checkedSucc self.nextAttempt with
    | none => exact .inl rfl
    | some attempt =>
      simp only [Bool.or_eq_true, not_or, Option.not_isSome_iff_eq_none] at hfree
      exact .inr ⟨attempt, rfl, hfree.1.1, hfree.1.2, rfl⟩

end Links

end BtDaemon.VendorChannel
