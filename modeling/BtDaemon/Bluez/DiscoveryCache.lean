import BtDaemon.Bluez.Snapshot
import Mathlib.Logic.Function.Basic

/-!
# Expiry of the discovery cache

A snapshot prunes the cache, looks up every device that BlueZ lists, stores what was present, and
shows what is cached and not listed. The stamps of the cache and the instants of the checks are
wall-clock readings, so a check is right about the real age of a device only as far as the wall
clock is, and only for a device that is stamped with the newest evidence of it.

Each wall-clock reading comes with the instant at which it was taken, and each device with the
instants at which it was observed. Nothing that the code computes depends on these instants.
-/

namespace BtDaemon.Bluez.Snapshot.DiscoveryCache

open LinkSignal Transition

/-- A wall-clock reading, and the real instant at which it was taken. -/
structure Clock where
  ms : UInt64
  instant : Instant
  deriving DecidableEq

/-- A cached device with the readings that its two times were copied from. -/
structure Entry where
  cached : CachedDevice
  stamped : Clock
  seen : Option Clock

/-- One decision whether a cached device is still fresh. -/
structure Check where
  now : Instant
  observed : List Instant
  kept : Bool

/-- A snapshot of a device that was resolved and not stored yet. -/
structure Resolved where
  evidence : Evidence
  found : Option Entry
  linkObserved : Instant
  clock : Clock

def observationClock (seen : Observation) : Clock := ⟨seen.lastSeenMs, seen.observed⟩

namespace Resolved

variable (self : Resolved)

def key : String := self.evidence.context.key

def resolve : Signal :=
  Signal.resolve self.evidence.observation self.evidence.cached
    (self.evidence.signalLive self.clock.instant)

/-- The reading that `last_seen_ms` of the resolved signal is copied from. -/
def resolvedSeen : Option Clock :=
  (((Signal.measured self.evidence.observation self.evidence.cached
    (self.evidence.signalLive self.clock.instant)).map observationClock).or
      (self.found.bind Entry.seen)).or (self.evidence.observation.map observationClock)

/-- The reading that `last_seen_ms` of the published device is copied from. -/
def seen : Option Clock :=
  match self.evidence.link with
  | some link =>
    if self.resolve.yields link then some ⟨link.lastSeenMs, self.linkObserved⟩
    else self.resolvedSeen
  | none => self.resolvedSeen

/-- The reading that `observed_at_ms` is copied from. -/
def stamped : Clock :=
  if self.evidence.state.connected then self.clock else self.seen.getD self.clock

def entry : Option Entry :=
  (deviceSnapshot self.evidence self.clock.instant self.clock.ms).2.map fun cached ↦
    ⟨cached, self.stamped, self.seen⟩

/-- The instants at which what the snapshot knows of the device was observed. -/
def instants : List Instant :=
  (if self.evidence.state.connected then [self.clock.instant] else []) ++
    (self.evidence.observation.map Observation.observed).toList ++
      (self.evidence.link.map fun _ ↦ self.linkObserved).toList

end Resolved

structure State where
  now : Instant
  deviceCache : Table String Entry
  resolved : List Resolved
  /-- The instants at which a device that went into the cache was observed. -/
  observed : String → List Instant
  checks : List Check

inductive Action where
  | prune (clock : Clock)
  /-- The lookup and the merge, under the lock of the cache. -/
  | resolve (evidence : Evidence) (linkObserved : Instant) (clock : Clock)
  /-- The insertion, which may come any time later. -/
  | store (index : ℕ)
  | extend (devices : List Device) (adapterKey : String) (clock : Clock)
  | remove (key : String)

def fresh (clock : Clock) (entry : Entry) : Bool :=
  cacheEntryIsFresh entry.cached.observedAtMs clock.ms

namespace State

def init : State := ⟨0, ∅, [], fun _ ↦ [], []⟩

def check (state : State) (clock : Clock) (key : String) (kept : Bool) : Check :=
  ⟨clock.instant, state.observed key, kept⟩

def pruned (state : State) (clock : Clock) : Table String Entry :=
  state.deviceCache.retain fun _ entry ↦ fresh clock entry

def prune (state : State) (clock : Clock) : State :=
  { state with
    now := clock.instant
    deviceCache := state.pruned clock
    checks := state.checks ++ state.deviceCache.entries.map fun entry ↦
      state.check clock entry.1 ((state.pruned clock).lookup entry.1).isSome }

def found (state : State) (clock : Clock) (key : String) : Option Entry :=
  (state.deviceCache.lookup key).filter (fresh clock)

def resolve (state : State) (evidence : Evidence) (linkObserved : Instant) (clock : Clock) :
    State :=
  let key := evidence.context.key
  let found := state.found clock key
  { state with
    now := clock.instant
    resolved := state.resolved ++
      [⟨{ evidence with cached := found.map Entry.cached }, found, linkObserved, clock⟩]
    checks := state.checks ++ (state.deviceCache.lookup key).toList.map fun _ ↦
      state.check clock key found.isSome }

/-- A device that is not present leaves nothing in the cache. -/
def store (state : State) (index : ℕ) (snapshot : Resolved) : State :=
  match snapshot.entry with
  | some entry =>
    { state with
      resolved := state.resolved.eraseIdx index
      deviceCache := state.deviceCache.insert snapshot.key entry
      observed := Function.update state.observed snapshot.key
        (state.observed snapshot.key ++ snapshot.instants) }
  | none => { state with resolved := state.resolved.eraseIdx index }

/-- The devices of an adapter, with those that BlueZ does not list. -/
def shown (state : State) (devices : List Device) (adapterKey : String) (clock : Clock) :
    List Device :=
  extendCachedDevices devices (state.deviceCache.values.map Entry.cached) adapterKey clock.ms

def extend (state : State) (devices : List Device) (adapterKey : String) (clock : Clock) : State :=
  { state with
    now := clock.instant
    checks := state.checks ++ (state.deviceCache.entries.filter fun entry ↦
      missing devices adapterKey entry.2.cached).map fun entry ↦
        state.check clock entry.1
          (decide (cachedDeviceView entry.2.cached ∈ state.shown devices adapterKey clock)) }

end State

/-- No evidence is from the future, and only a connected device has a live link reading. -/
def Consistent (evidence : Evidence) (linkObserved : Instant) (clock : Clock) : Prop :=
  (∀ seen ∈ evidence.observation, seen.observed ≤ clock.instant) ∧
    ∀ link ∈ evidence.link, linkObserved ≤ clock.instant ∧
      (link.live = true → evidence.state.connected = true)

instance (evidence : Evidence) (linkObserved : Instant) (clock : Clock) :
    Decidable (Consistent evidence linkObserved clock) := by
  unfold Consistent
  infer_instance

def step (state : State) : Action → Option State
  | .prune clock => if state.now ≤ clock.instant then some (state.prune clock) else none
  | .resolve evidence linkObserved clock =>
    if state.now ≤ clock.instant ∧ Consistent evidence linkObserved clock then
      some (state.resolve evidence linkObserved clock)
    else none
  | .store index => state.resolved[index]?.map fun snapshot ↦ state.store index snapshot
  | .extend devices adapterKey clock =>
    if state.now ≤ clock.instant then some (state.extend devices adapterKey clock) else none
  | .remove key => some { state with deviceCache := state.deviceCache.erase key }

def system : System State Action := ⟨State.init, step⟩

/-! ## What expiry in real time means -/

/-- A device that is kept was observed within five minutes, and one that was observed less than
five minutes ago is kept. -/
structure Check.Exact (check : Check) : Prop where
  kept : check.kept = true → ∃ instant ∈ check.observed, elapsed check.now instant ≤ cacheTtl
  dropped : (∃ instant ∈ check.observed, elapsed check.now instant < cacheTtl) →
    check.kept = true

def ExpiresInRealTime (state : State) : Prop := ∀ check ∈ state.checks, check.Exact

/-- The wall clock and the real time, read at a check and at a stamp, agree whether there are five
minutes between them. -/
structure Agrees (checked stamped : Clock) : Prop where
  early : checked.ms.toNat - stamped.ms.toNat ≤ cacheTtlMs →
    elapsed checked.instant stamped.instant ≤ cacheTtl
  late : elapsed checked.instant stamped.instant < cacheTtl →
    checked.ms.toNat - stamped.ms.toNat ≤ cacheTtlMs

/-- The device is connected, or discovery sees it. -/
def Resolved.present (self : Resolved) : Bool :=
  self.evidence.state.connected || self.evidence.signalLive self.clock.instant

/-- What a disconnected device is dated by: its observation if that has an RSSI, and otherwise
what the cache or a link reading, whichever is newer by the wall clock, has an RSSI from. -/
def Resolved.dated (self : Resolved) (observation : Observation) : Clock :=
  if observation.rssi.isSome then observationClock observation
  else
    let older := (self.found.bind Entry.seen).getD (observationClock observation)
    match self.evidence.link with
    | some link =>
      if (self.found.bind fun entry ↦ entry.cached.device.presentation.rssi).isNone ∨
          older.ms ≤ link.lastSeenMs then ⟨link.lastSeenMs, self.linkObserved⟩
      else older
    | none => older

/-- The device is dated by the newest evidence of it. -/
def Resolved.Newest (self : Resolved) (observed : List Instant) : Prop :=
  ∀ instant ∈ observed ++ self.instants,
    if self.evidence.state.connected then instant ≤ self.clock.instant
    else ∀ observation ∈ self.evidence.observation,
      instant ≤ (self.dated observation).instant

/-- The steps for which the cache is right. -/
def Sound (state : State) : Action → Prop
  | .prune clock => ∀ key entry,
    state.deviceCache.lookup key = some entry → Agrees clock entry.stamped
  | .resolve evidence _ clock => ∀ entry,
    state.deviceCache.lookup evidence.context.key = some entry → Agrees clock entry.stamped
  | .store index => ∀ snapshot, state.resolved[index]? = some snapshot →
    snapshot.present = true → snapshot.Newest (state.observed snapshot.key)
  | .extend devices adapterKey clock => ∀ key entry,
    state.deviceCache.lookup key = some entry → missing devices adapterKey entry.cached = true →
      Agrees clock entry.stamped
  | .remove _ => True

/-! ## The dates of a snapshot -/

/-- The times of a cached device are the readings that they were copied from. -/
structure Dated (key : String) (entry : Entry) : Prop where
  key : entry.cached.device.key = key
  stamped : entry.cached.observedAtMs = entry.stamped.ms
  seen : entry.cached.device.presentation.lastSeenMs = entry.seen.map Clock.ms

/-- What was found in the cache when the snapshot was resolved. -/
structure Coherent (observed : String → List Instant) (snapshot : Resolved) : Prop where
  found : snapshot.evidence.cached = snapshot.found.map Entry.cached
  dated : ∀ entry, snapshot.found = some entry → Dated snapshot.key entry
  observed : ∀ entry seen, snapshot.found = some entry → entry.seen = some seen →
    seen.instant ∈ observed snapshot.key
  link : ∀ link, snapshot.evidence.link = some link → link.live = true →
    snapshot.evidence.state.connected = true

namespace Coherent

variable {observed : String → List Instant} {snapshot : Resolved}

/-- The ghost readings of the merged signal are those of its time. -/
theorem map_resolvedSeen (coherent : Coherent observed snapshot) :
    snapshot.resolvedSeen.map Clock.ms = snapshot.resolve.lastSeenMs := by
  have hcached : (snapshot.found.bind Entry.seen).map Clock.ms =
      snapshot.evidence.cached.bind fun cache ↦ cache.device.presentation.lastSeenMs := by
    rw [coherent.found]
    cases hfound : snapshot.found with
    | none => rfl
    | some entry => exact (coherent.dated entry hfound).seen.symm
  simp only [Resolved.resolvedSeen, Resolved.resolve, Signal.resolve, Option.map_or,
    Option.map_map, hcached]
  rfl

theorem map_seen (coherent : Coherent observed snapshot) :
    snapshot.seen.map Clock.ms =
      (snapshot.evidence.signal snapshot.clock.instant).lastSeenMs := by
  have hresolved := coherent.map_resolvedSeen
  change snapshot.seen.map Clock.ms =
    (snapshot.resolve.withLink snapshot.evidence.link).lastSeenMs
  unfold Resolved.seen
  cases hlink : snapshot.evidence.link with
  | none => exact hresolved
  | some link =>
    dsimp only [Signal.withLink]
    by_cases hyields : snapshot.resolve.yields link = true
    · rw [if_pos hyields, if_pos hyields]
      rfl
    · rw [if_neg hyields, if_neg hyields]
      exact hresolved

theorem mem_of_seen (coherent : Coherent observed snapshot) {seen : Clock}
    (hseen : snapshot.seen = some seen) :
    seen.instant ∈ observed snapshot.key ++ snapshot.instants := by
  have hresolved : ∀ {clock}, snapshot.resolvedSeen = some clock →
      clock.instant ∈ observed snapshot.key ++ snapshot.instants := by
    intro clock hclock
    have hobservation : ∀ {observation : Observation},
        snapshot.evidence.observation = some observation →
        observation.observed ∈ observed snapshot.key ++ snapshot.instants := by
      intro observation hobservation
      simp [Resolved.instants, hobservation]
    rcases Option.or_eq_some_iff.mp hclock with hfirst | ⟨-, hlast⟩
    · rcases Option.or_eq_some_iff.mp hfirst with hmeasured | ⟨-, hfound⟩
      · obtain ⟨observation, hused, rfl⟩ := Option.map_eq_some_iff.mp hmeasured
        exact hobservation (Option.filter_eq_some_iff.mp hused).1
      · obtain ⟨entry, hfound, hentry⟩ := Option.bind_eq_some_iff.mp hfound
        exact List.mem_append_left _ (coherent.observed entry clock hfound hentry)
    · obtain ⟨observation, hseen, rfl⟩ := Option.map_eq_some_iff.mp hlast
      exact hobservation hseen
  unfold Resolved.seen at hseen
  cases hlink : snapshot.evidence.link with
  | none =>
    rw [hlink] at hseen
    exact hresolved hseen
  | some link =>
    rw [hlink] at hseen
    dsimp only at hseen
    split at hseen
    · rw [← Option.some.inj hseen]
      simp [Resolved.instants, hlink]
    · exact hresolved hseen

/-- Discovery sees the device. -/
theorem signalLive_of_present (hpresent : snapshot.present = true)
    (hdisconnected : snapshot.evidence.state.connected = false) :
    snapshot.evidence.signalLive snapshot.clock.instant = true ∧
      ∃ observation, snapshot.evidence.observation = some observation := by
  rw [Resolved.present, hdisconnected, Bool.false_or] at hpresent
  refine ⟨hpresent, ?_⟩
  obtain ⟨observation, hobservation, -⟩ := (Option.any_eq_true ..).mp hpresent
  exact ⟨observation, hobservation⟩

section Disconnected

variable {observation : Observation}

theorem link_not_live (coherent : Coherent observed snapshot)
    (hdisconnected : snapshot.evidence.state.connected = false) {link : Reading}
    (hlink : snapshot.evidence.link = some link) : link.live = false := by
  cases hlive : link.live with
  | false => rfl
  | true => cases hdisconnected.symm.trans (coherent.link link hlink hlive)

/-- Live discovery is used exactly if it has an RSSI. -/
theorem measured_eq (hlive : snapshot.evidence.signalLive snapshot.clock.instant = true)
    (hobservation : snapshot.evidence.observation = some observation) :
    Signal.measured snapshot.evidence.observation snapshot.evidence.cached
      (snapshot.evidence.signalLive snapshot.clock.instant) =
        if observation.rssi.isSome = true then some observation else none := by
  rw [hobservation, hlive]
  cases hrssi : observation.rssi <;> simp [Signal.measured, hrssi]

theorem live_resolve (hlive : snapshot.evidence.signalLive snapshot.clock.instant = true)
    (hobservation : snapshot.evidence.observation = some observation) :
    snapshot.resolve.live = observation.rssi.isSome := by
  rw [Resolved.resolve, Signal.resolve, measured_eq hlive hobservation, hlive]
  cases observation.rssi <;> rfl

theorem seen_eq_observation (coherent : Coherent observed snapshot)
    (hlive : snapshot.evidence.signalLive snapshot.clock.instant = true)
    (hdisconnected : snapshot.evidence.state.connected = false)
    (hobservation : snapshot.evidence.observation = some observation)
    (hrssi : observation.rssi.isSome = true) :
    snapshot.seen = some (observationClock observation) := by
  have hresolved : snapshot.resolvedSeen = some (observationClock observation) := by
    rw [Resolved.resolvedSeen, measured_eq hlive hobservation, if_pos hrssi]
    rfl
  rw [Resolved.seen]
  cases hlink : snapshot.evidence.link with
  | none => exact hresolved
  | some link =>
    have hyields : ¬ snapshot.resolve.yields link = true := by
      simp [Signal.yields, coherent.link_not_live hdisconnected hlink,
        live_resolve hlive hobservation, hrssi]
    exact (if_neg hyields).trans hresolved

/-- An older reading of the device, as the merged signal has it. -/
theorem resolve_older (coherent : Coherent observed snapshot)
    (hlive : snapshot.evidence.signalLive snapshot.clock.instant = true)
    (hobservation : snapshot.evidence.observation = some observation)
    (hrssi : observation.rssi = none) :
    snapshot.resolvedSeen =
        some ((snapshot.found.bind Entry.seen).getD (observationClock observation)) ∧
      snapshot.resolve.rssi =
        snapshot.found.bind fun entry ↦ entry.cached.device.presentation.rssi := by
  have hmeasured := measured_eq hlive hobservation
  constructor
  · rw [Resolved.resolvedSeen, hmeasured, hrssi, hobservation]
    cases snapshot.found.bind Entry.seen <;> rfl
  · rw [Resolved.resolve, Signal.resolve, hmeasured, hrssi, coherent.found]
    cases snapshot.found <;> rfl

/-- A disconnected device is stamped with the reading that it is dated by. -/
theorem seen_eq_dated (coherent : Coherent observed snapshot)
    (hpresent : snapshot.present = true)
    (hdisconnected : snapshot.evidence.state.connected = false)
    (hobservation : snapshot.evidence.observation = some observation) :
    snapshot.seen = some (snapshot.dated observation) := by
  have hlive := (signalLive_of_present hpresent hdisconnected).1
  cases hrssi : observation.rssi with
  | some rssi =>
    have hsome : observation.rssi.isSome = true := by rw [hrssi]; rfl
    rw [Resolved.dated, if_pos hsome]
    exact coherent.seen_eq_observation hlive hdisconnected hobservation hsome
  | none =>
    obtain ⟨hresolved, hfound⟩ := coherent.resolve_older hlive hobservation hrssi
    have htime := coherent.map_resolvedSeen
    rw [hresolved, Option.map_some] at htime
    rw [Resolved.dated, hrssi, Option.isSome_none, if_neg Bool.false_ne_true, Resolved.seen]
    cases hlink : snapshot.evidence.link with
    | none => exact hresolved
    | some link =>
      have hyields : snapshot.resolve.yields link = true ↔
          (snapshot.found.bind fun entry ↦ entry.cached.device.presentation.rssi).isNone = true ∨
            ((snapshot.found.bind Entry.seen).getD (observationClock observation)).ms ≤
              link.lastSeenMs := by
        simp [Signal.yields, coherent.link_not_live hdisconnected hlink,
          live_resolve hlive hobservation, hrssi, hfound, ← htime]
      dsimp only
      by_cases hnewer : snapshot.resolve.yields link = true
      · rw [if_pos hnewer, if_pos (hyields.mp hnewer)]
      · rw [if_neg hnewer, if_neg fun hchosen ↦ hnewer (hyields.mpr hchosen)]
        exact hresolved

end Disconnected

theorem present_signal (evidence : Evidence) (now : Instant) :
    (evidence.signal now).present = evidence.signalLive now := by
  unfold Evidence.signal
  cases evidence.link with
  | none => rfl
  | some link =>
    rw [Signal.withLink]
    split <;> rfl

/-- The device that goes into the cache is the one that is published. -/
theorem entry_eq_some {entry : Entry} (hentry : snapshot.entry = some entry) :
    snapshot.present = true ∧ entry = ⟨⟨build snapshot.evidence.context snapshot.evidence.state
      (snapshot.evidence.signal snapshot.clock.instant),
      if snapshot.evidence.state.connected then snapshot.clock.ms
      else (snapshot.evidence.signal snapshot.clock.instant).lastSeenMs.getD snapshot.clock.ms⟩,
      snapshot.stamped, snapshot.seen⟩ := by
  obtain ⟨cached, hcached, rfl⟩ := Option.map_eq_some_iff.mp hentry
  unfold deviceSnapshot at hcached
  dsimp only at hcached
  split at hcached
  · obtain ⟨hpresent, hcached⟩ := Option.ite_none_right_eq_some.mp hcached
    refine ⟨?_, ?_⟩
    · rw [← hpresent, Resolved.present]
      exact congrArg _ (present_signal ..).symm
    · rw [← Option.some.inj hcached]
      rfl
  · cases hcached

theorem dated_entry (coherent : Coherent observed snapshot) {entry : Entry}
    (hentry : snapshot.entry = some entry) : Dated snapshot.key entry := by
  obtain ⟨-, rfl⟩ := entry_eq_some hentry
  refine ⟨rfl, ?_, coherent.map_seen.symm⟩
  dsimp only [Resolved.stamped]
  rw [← coherent.map_seen]
  by_cases hconnected : snapshot.evidence.state.connected = true
  · rw [if_pos hconnected, if_pos hconnected]
  · rw [if_neg hconnected, if_neg hconnected]
    cases snapshot.seen <;> rfl

theorem stamped_of_connected (hconnected : snapshot.evidence.state.connected = true) :
    snapshot.stamped = snapshot.clock := if_pos hconnected

theorem stamped_eq_dated (coherent : Coherent observed snapshot)
    (hpresent : snapshot.present = true)
    (hdisconnected : snapshot.evidence.state.connected = false) {observation : Observation}
    (hobservation : snapshot.evidence.observation = some observation) :
    snapshot.stamped = snapshot.dated observation := by
  rw [Resolved.stamped, hdisconnected, if_neg Bool.false_ne_true,
    coherent.seen_eq_dated hpresent hdisconnected hobservation]
  rfl

/-- A stamp is an instant at which the device was observed. -/
theorem stamped_mem (coherent : Coherent observed snapshot) (hpresent : snapshot.present = true) :
    snapshot.stamped.instant ∈ observed snapshot.key ++ snapshot.instants := by
  cases hconnected : snapshot.evidence.state.connected with
  | true =>
    rw [stamped_of_connected hconnected]
    simp [Resolved.instants, hconnected]
  | false =>
    obtain ⟨-, observation, hobservation⟩ := signalLive_of_present hpresent hconnected
    rw [coherent.stamped_eq_dated hpresent hconnected hobservation]
    exact coherent.mem_of_seen (coherent.seen_eq_dated hpresent hconnected hobservation)

/-- Under the condition the stamp is the newest evidence. -/
theorem le_stamped (coherent : Coherent observed snapshot) (hpresent : snapshot.present = true)
    (hnewest : snapshot.Newest (observed snapshot.key)) :
    ∀ instant ∈ observed snapshot.key ++ snapshot.instants,
      instant ≤ snapshot.stamped.instant := by
  intro instant hinstant
  have hle := hnewest instant hinstant
  cases hconnected : snapshot.evidence.state.connected with
  | true =>
    rw [if_pos hconnected] at hle
    rw [stamped_of_connected hconnected]
    exact hle
  | false =>
    obtain ⟨-, observation, hobservation⟩ := signalLive_of_present hpresent hconnected
    rw [hconnected, if_neg Bool.false_ne_true] at hle
    rw [coherent.stamped_eq_dated hpresent hconnected hobservation]
    exact hle observation hobservation

theorem mono {later : String → List Instant} (coherent : Coherent observed snapshot)
    (hmono : ∀ key, observed key ⊆ later key) : Coherent later snapshot :=
  { coherent with
    observed := fun entry seen hfound hseen ↦
      hmono _ (coherent.observed entry seen hfound hseen) }

end Coherent

/-! ## The checks -/

/-- An entry that is dated right, by the newest evidence of its device. -/
structure Stamped (observed : List Instant) (key : String) (entry : Entry) : Prop where
  dated : Dated key entry
  stamped : entry.stamped.instant ∈ observed
  newest : ∀ instant ∈ observed, instant ≤ entry.stamped.instant
  seen : ∀ seen, entry.seen = some seen → seen.instant ∈ observed

theorem elapsed_anti {now first second : Instant} (hle : first ≤ second) :
    elapsed now second ≤ elapsed now first :=
  Int.toNat_le_toNat (Int.sub_le_sub_left hle now)

theorem Dated.fresh_iff {key : String} {entry : Entry} {clock : Clock} (dated : Dated key entry) :
    fresh clock entry = true ↔ clock.ms.toNat - entry.stamped.ms.toNat ≤ cacheTtlMs := by
  rw [← dated.stamped]
  exact decide_eq_true_iff

/-- Where the clocks agree, a check of the stamp is a check of the real age. -/
theorem Stamped.exact {observed : List Instant} {key : String} {entry : Entry} {clock : Clock}
    (stamped : Stamped observed key entry) (agrees : Agrees clock entry.stamped) {kept : Bool}
    (hkept : kept = true ↔ fresh clock entry = true) :
    Check.Exact ⟨clock.instant, observed, kept⟩ where
  kept hshown :=
    ⟨entry.stamped.instant, stamped.stamped,
      agrees.early (stamped.dated.fresh_iff.mp (hkept.mp hshown))⟩
  dropped := by
    rintro ⟨instant, hinstant, hage⟩
    have hyoung := Nat.lt_of_le_of_lt (elapsed_anti (stamped.newest instant hinstant)) hage
    exact hkept.mpr (stamped.dated.fresh_iff.mpr (agrees.late hyoung))

structure Invariant (state : State) : Prop where
  entries : ∀ key entry, state.deviceCache.lookup key = some entry →
    Stamped (state.observed key) key entry
  resolved : ∀ snapshot ∈ state.resolved, Coherent state.observed snapshot
  exact : ExpiresInRealTime state

namespace Invariant

variable {state : State} {clock : Clock}

theorem init : Invariant State.init where
  entries _ _ hentry := by cases hentry
  resolved _ hsnapshot := by cases hsnapshot
  exact _ hcheck := by cases hcheck

/-- Checks that were exact, and new ones of entries in the cache. -/
theorem exact_append (invariant : Invariant state) {checks : List Check}
    (hchecks : ∀ check ∈ checks, check.Exact) :
    ∀ check ∈ state.checks ++ checks, check.Exact := by
  intro check hcheck
  rcases List.mem_append.mp hcheck with hold | hnew
  · exact invariant.exact check hold
  · exact hchecks check hnew

theorem lookup_pruned (state : State) (clock : Clock) (key : String) :
    (state.pruned clock).lookup key = (state.deviceCache.lookup key).filter (fresh clock) := by
  rw [State.pruned, Table.lookup_retain]

theorem prune (invariant : Invariant state)
    (hsound : ∀ key entry, state.deviceCache.lookup key = some entry →
      Agrees clock entry.stamped) :
    Invariant (state.prune clock) where
  entries key entry hentry := by
    change (state.pruned clock).lookup key = some entry at hentry
    rw [lookup_pruned] at hentry
    exact invariant.entries key entry (Option.filter_eq_some_iff.mp hentry).1
  resolved := invariant.resolved
  exact := by
    apply invariant.exact_append
    intro check hcheck
    obtain ⟨⟨key, entry⟩, hmem, rfl⟩ := List.mem_map.mp hcheck
    have hentry := (Table.mem_entries ..).mp hmem
    apply (invariant.entries key entry hentry).exact (hsound key entry hentry)
    rw [lookup_pruned, hentry]
    cases hfresh : fresh clock entry <;> simp [hfresh]

theorem resolve (invariant : Invariant state) {evidence : Evidence} {linkObserved : Instant}
    (hconsistent : Consistent evidence linkObserved clock)
    (hsound : ∀ entry, state.deviceCache.lookup evidence.context.key = some entry →
      Agrees clock entry.stamped) : Invariant (state.resolve evidence linkObserved clock) where
  entries := invariant.entries
  resolved snapshot hsnapshot := by
    rcases List.mem_append.mp hsnapshot with hold | hnew
    · exact invariant.resolved snapshot hold
    · rw [List.mem_singleton.mp hnew]
      have hfound : ∀ entry, state.found clock evidence.context.key = some entry →
          Stamped (state.observed evidence.context.key) evidence.context.key entry :=
        fun entry hentry ↦ invariant.entries _ entry (Option.filter_eq_some_iff.mp hentry).1
      exact {
        found := rfl
        dated := fun entry hentry ↦ (hfound entry hentry).dated
        observed := fun entry seen hentry hseen ↦ (hfound entry hentry).seen seen hseen
        link := fun link hlink ↦ (hconsistent.2 link hlink).2 }
  exact := by
    apply invariant.exact_append
    intro check hcheck
    obtain ⟨entry, hmem, rfl⟩ := List.mem_map.mp hcheck
    have hentry := Option.mem_toList.mp hmem
    apply (invariant.entries _ entry hentry).exact (hsound entry hentry)
    rw [State.found, hentry]
    cases hfresh : fresh clock entry <;> simp [hfresh]

theorem store (invariant : Invariant state) {index : ℕ} {snapshot : Resolved}
    (hsnapshot : state.resolved[index]? = some snapshot)
    (hsound : snapshot.present = true → snapshot.Newest (state.observed snapshot.key)) :
    Invariant (state.store index snapshot) := by
  have hcoherent := invariant.resolved snapshot (List.mem_of_getElem? hsnapshot)
  unfold State.store
  cases hentry : snapshot.entry with
  | none =>
    exact { invariant with
      resolved := fun other hother ↦ invariant.resolved other (List.mem_of_mem_eraseIdx hother) }
  | some entry =>
    obtain ⟨hpresent, hfields⟩ := Coherent.entry_eq_some hentry
    have hmono : ∀ key, state.observed key ⊆ Function.update state.observed snapshot.key
        (state.observed snapshot.key ++ snapshot.instants) key := by
      intro key
      by_cases hkey : key = snapshot.key
      · rw [hkey, Function.update_self]
        exact List.subset_append_left ..
      · rw [Function.update_of_ne hkey]
        exact List.Subset.refl _
    refine ⟨fun key other hother ↦ ?_, fun other hother ↦ ?_, invariant.exact⟩
    · change Stamped (Function.update state.observed snapshot.key _ key) key other
      rw [Table.lookup_insert] at hother
      by_cases hkey : key = snapshot.key
      · rw [if_pos hkey] at hother
        obtain rfl := Option.some.inj hother
        rw [hkey, Function.update_self]
        have hstamped : entry.stamped = snapshot.stamped := by rw [hfields]
        have hseen : entry.seen = snapshot.seen := by rw [hfields]
        refine ⟨hcoherent.dated_entry hentry, ?_, ?_, fun seen hsome ↦ ?_⟩
        · rw [hstamped]
          exact hcoherent.stamped_mem hpresent
        · rw [hstamped]
          exact hcoherent.le_stamped hpresent (hsound hpresent)
        · exact hcoherent.mem_of_seen (hseen.symm.trans hsome)
      · rw [if_neg hkey] at hother
        rw [Function.update_of_ne hkey]
        exact invariant.entries key other hother
    · exact (invariant.resolved other (List.mem_of_mem_eraseIdx hother)).mono hmono

/-- A cached device that is not listed is shown when its check is positive. -/
theorem mem_shown_iff (invariant : Invariant state) {devices : List Device}
    {adapterKey : String} {key : String} {entry : Entry}
    (hentry : state.deviceCache.lookup key = some entry)
    (hmissing : missing devices adapterKey entry.cached = true) :
    cachedDeviceView entry.cached ∈ state.shown devices adapterKey clock ↔
      fresh clock entry = true := by
  obtain ⟨-, hunlisted⟩ := Bool.and_eq_true_iff.mp hmissing
  rw [State.shown, extendCachedDevices, List.mem_append, List.mem_map]
  constructor
  · rintro (hlisted | ⟨cached, hcached, hview⟩)
    · have hkey : entry.cached.device.key ∈ devices.map Device.key :=
        List.mem_map.mpr ⟨_, hlisted, rfl⟩
      simp [hkey] at hunlisted
    · obtain ⟨hmem, hshown⟩ := List.mem_filter.mp hcached
      obtain ⟨other, hother, rfl⟩ := List.mem_map.mp hmem
      obtain ⟨otherKey, hother⟩ := (Table.mem_values ..).mp hother
      have hkeys : (cachedDeviceView other.cached).key = (cachedDeviceView entry.cached).key :=
        congrArg Device.key hview
      change other.cached.device.key = entry.cached.device.key at hkeys
      rw [(invariant.entries _ _ hother).dated.key, (invariant.entries _ _ hentry).dated.key]
        at hkeys
      rw [hkeys, hentry] at hother
      rw [Option.some.inj hother]
      exact (Bool.and_eq_true_iff.mp hshown).2
  · intro hfresh
    refine .inr ⟨entry.cached, List.mem_filter.mpr ⟨?_, ?_⟩, rfl⟩
    · exact List.mem_map.mpr ⟨entry, (Table.mem_values ..).mpr ⟨key, hentry⟩, rfl⟩
    · exact Bool.and_eq_true_iff.mpr ⟨hmissing, hfresh⟩

theorem extend (invariant : Invariant state) {devices : List Device} {adapterKey : String}
    (hsound : ∀ key entry, state.deviceCache.lookup key = some entry →
      missing devices adapterKey entry.cached = true → Agrees clock entry.stamped) :
    Invariant (state.extend devices adapterKey clock) where
  entries := invariant.entries
  resolved := invariant.resolved
  exact := by
    apply invariant.exact_append
    intro check hcheck
    obtain ⟨⟨key, entry⟩, hmem, rfl⟩ := List.mem_map.mp hcheck
    obtain ⟨hmem, hmissing⟩ := List.mem_filter.mp hmem
    have hentry := (Table.mem_entries ..).mp hmem
    apply (invariant.entries key entry hentry).exact (hsound key entry hentry hmissing)
    rw [decide_eq_true_iff]
    exact invariant.mem_shown_iff hentry hmissing

theorem remove (invariant : Invariant state) (key : String) :
    Invariant { state with deviceCache := state.deviceCache.erase key } :=
  { invariant with
    entries := fun other entry hentry ↦ by
      rw [Table.lookup_erase] at hentry
      exact invariant.entries other entry (Option.ite_none_left_eq_some.mp hentry).2 }

theorem step (invariant : Invariant state) {action : Action} {next : State}
    (hsound : Sound state action) (hstep : system.step state action = some next) :
    Invariant next := by
  cases action with
  | prune clock =>
    obtain ⟨-, hnext⟩ := Option.ite_none_right_eq_some.mp hstep
    rw [← Option.some.inj hnext]
    exact invariant.prune hsound
  | resolve evidence linkObserved clock =>
    obtain ⟨⟨-, hconsistent⟩, hnext⟩ := Option.ite_none_right_eq_some.mp hstep
    rw [← Option.some.inj hnext]
    exact invariant.resolve hconsistent hsound
  | store index =>
    obtain ⟨snapshot, hsnapshot, rfl⟩ := Option.map_eq_some_iff.mp hstep
    exact invariant.store hsnapshot (hsound snapshot hsnapshot)
  | extend devices adapterKey clock =>
    obtain ⟨-, hnext⟩ := Option.ite_none_right_eq_some.mp hstep
    rw [← Option.some.inj hnext]
    exact invariant.extend hsound
  | remove key =>
    rw [← Option.some.inj hstep]
    exact invariant.remove key

end Invariant

/-- Where the clocks agree and devices are dated by their newest evidence, the cache expires in
real time. -/
theorem expires_in_real_time {actions : List Action} {state : State}
    (hrun : system.run system.init actions = some state)
    (hsound : system.Meets Sound system.init actions) : ExpiresInRealTime state :=
  (system.run_invariant_of_meets (fun _ _ _ invariant hsound hstep ↦ invariant.step hsound hstep)
    Invariant.init hsound hrun).exact

section Example

/-- One second. -/
def second : Instant := 1000000000

/-- A device that is not paired, as discovery sees it. -/
def seenEvidence (rssi : Option Int16) (ms : UInt64) (observed : Instant) : Evidence :=
  ⟨⟨"device", "adapter"⟩, ⟨false, false⟩, some ⟨rssi, ms, observed⟩, true, none, none⟩

/-- A device is seen, and the next snapshot comes some seconds later. -/
def laterRun (seconds : ℤ) (ms : UInt64) : List Action :=
  [.resolve (seenEvidence (some (-40)) 1000000 0) 0 ⟨1000000, 0⟩, .store 0,
    .prune ⟨ms, seconds * second⟩]

/-- The device is seen again without an RSSI, and pruned 100 seconds after that. -/
def silentRun : List Action :=
  [.resolve (seenEvidence (some (-40)) 1000000 0) 0 ⟨1000000, 0⟩, .store 0,
    .resolve (seenEvidence none 1250000 (250 * second)) 0 ⟨1250000, 250 * second⟩, .store 0,
    .prune ⟨1350000, 350 * second⟩]

/-- A device goes after one second when the wall clock jumps forwards, stays for an hour when it
jumps backwards, and goes after 100 seconds when its newest observation had no RSSI. -/
theorem expires_in_real_time_fails : ∃ forwards backwards silent,
    system.run system.init (laterRun 1 1601000) = some forwards ∧
      system.run system.init (laterRun 3600 1000000) = some backwards ∧
      system.run system.init silentRun = some silent ∧
      ¬ ExpiresInRealTime forwards ∧ ¬ ExpiresInRealTime backwards ∧
      ¬ ExpiresInRealTime silent := by
  refine ⟨_, _, _, rfl, rfl, rfl, fun hforwards ↦ ?_, fun hbackwards ↦ ?_, fun hsilent ↦ ?_⟩
  · have hexact := hforwards ⟨second, [0], false⟩ (.head _)
    cases hexact.dropped ⟨0, .head _, by decide⟩
  · have hexact := hbackwards ⟨3600 * second, [0], true⟩ (.head _)
    obtain ⟨instant, hinstant, hage⟩ := hexact.kept rfl
    rw [List.mem_singleton.mp hinstant] at hage
    revert hage
    decide
  · have hexact := hsilent ⟨350 * second, [0, 250 * second], false⟩ (.tail _ (.head _))
    cases hexact.dropped ⟨250 * second, .tail _ (.head _), by decide⟩

/-- With a steady clock and an RSSI each time the steps meet the condition. -/
theorem expires_in_real_time_steady : ∃ state,
    system.run system.init (laterRun 299 1299000) = some state ∧ ExpiresInRealTime state ∧
      (state.deviceCache.lookup "device").isSome = true := by
  have hrun : system.run system.init (laterRun 299 1299000) = some _ := rfl
  refine ⟨_, hrun, expires_in_real_time hrun (.intro ?_ (.intro ?_ (.intro ?_ trivial))), rfl⟩
  · rintro entry hentry
    cases hentry
  · rintro snapshot hsnapshot - instant hinstant
    obtain rfl := Option.some.inj hsnapshot
    obtain rfl := List.mem_singleton.mp hinstant
    intro observation hobservation
    obtain rfl := Option.some.inj hobservation
    exact Int.le_refl 0
  · intro key entry hentry
    cases List.mem_singleton.mp ((Table.mem_entries ..).mpr hentry)
    exact ⟨fun _ ↦ by decide, fun _ ↦ by decide⟩

end Example

end BtDaemon.Bluez.Snapshot.DiscoveryCache
