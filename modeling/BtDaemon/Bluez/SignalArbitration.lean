import BtDaemon.Bluez.Snapshot

/-!
# Arbitration between signal sources

A device may have an RSSI from its link, from discovery and from the cache. The published signal
is that of one of these sources and no mix of them: a live link reading comes first, then a live
observation, and then the newest of what is left. A cached signal was published by an earlier
snapshot, so along a sequence of snapshots it is still what one reading said.
-/

namespace BtDaemon.Bluez.Snapshot

open LinkSignal Transition

/-! ## Sources -/

/-- What one reading of an RSSI says. -/
structure Sample where
  rssi : Int16
  kind : RssiKind
  lastSeenMs : UInt64
  deriving DecidableEq

/-- A sample, and whether its source is live. -/
structure Candidate where
  sample : Sample
  live : Bool
  deriving DecidableEq

abbrev Triple := Option Int16 × Option RssiKind × Option UInt64

def Sample.triple (self : Sample) : Triple :=
  (some self.rssi, some self.kind, some self.lastSeenMs)

def Signal.triple (self : Signal) : Triple := (self.rssi, self.kind, self.lastSeenMs)

def DevicePresentation.triple (self : DevicePresentation) : Triple :=
  (self.rssi, self.rssiKind, self.lastSeenMs)

def Observation.sample (self : Observation) : Option Sample :=
  self.rssi.map fun rssi ↦ ⟨rssi, .dbm, self.lastSeenMs⟩

def linkSample (reading : Reading) : Sample := ⟨reading.rssi, reading.kind, reading.lastSeenMs⟩

/-- The sample that a presentation publishes, if it is a whole one. -/
def DevicePresentation.sample (self : DevicePresentation) : Option Sample :=
  match self.triple with
  | (some rssi, some kind, some lastSeenMs) => some ⟨rssi, kind, lastSeenMs⟩
  | _ => none

/-- The candidates of the three sources. -/
structure Candidates where
  link : Option Candidate
  discovery : Option Candidate
  cached : Option Candidate

def Candidates.Has (candidates : Candidates) (candidate : Candidate) : Prop :=
  candidates.link = some candidate ∨ candidates.discovery = some candidate ∨
    candidates.cached = some candidate

def discoveryCandidate (observed : Option Observation) (live : Bool) : Option Candidate :=
  (observed.bind Observation.sample).map fun sample ↦ ⟨sample, live⟩

def cachedCandidate (cached : Option CachedDevice) : Option Candidate :=
  (cached.bind fun cache ↦ cache.device.presentation.sample).map fun sample ↦ ⟨sample, false⟩

def linkCandidate (link : Option Reading) : Option Candidate :=
  link.map fun reading ↦ ⟨linkSample reading, reading.live⟩

def Evidence.candidates (self : Evidence) (now : Instant) : Candidates :=
  ⟨linkCandidate self.link, discoveryCandidate self.observation (self.signalLive now),
    cachedCandidate self.cached⟩

/-! ## What arbitration promises -/

/-- The candidate that wins. -/
structure Wins (candidates : Candidates) (chosen : Candidate) : Prop where
  candidate : candidates.Has chosen
  link : ∀ reading, candidates.link = some reading → reading.live = true → chosen = reading
  discovery : ∀ seen, candidates.discovery = some seen → seen.live = true →
    (∀ reading, candidates.link = some reading → reading.live = false) → chosen = seen
  newest : chosen.live = false → ∀ other, candidates.Has other →
    other.sample.lastSeenMs ≤ chosen.sample.lastSeenMs

/-- What is published comes from the winner, and without a candidate there is no RSSI. -/
inductive Arbitrated (candidates : Candidates) (triple : Triple) (live : Bool) : Prop where
  | silent (hrssi : triple.1 = none) (hlive : live = false)
    (hnone : ∀ candidate, ¬ candidates.Has candidate)
  | chosen (candidate : Candidate) (hwins : Wins candidates candidate)
    (htriple : triple = candidate.sample.triple) (hlive : live = candidate.live)

/-! ## The two steps -/

/-- An RSSI comes with its kind and its time. -/
def Whole (presentation : DevicePresentation) : Prop :=
  presentation.rssi = none ∨ ∃ sample : Sample, presentation.triple = sample.triple

theorem triple_eq_iff {presentation : DevicePresentation} {sample : Sample} :
    presentation.triple = sample.triple ↔ presentation.rssi = some sample.rssi ∧
      presentation.rssiKind = some sample.kind ∧
        presentation.lastSeenMs = some sample.lastSeenMs := by
  simp only [DevicePresentation.triple, Sample.triple, Prod.mk.injEq]

theorem sample_eq_some_iff {presentation : DevicePresentation} {sample : Sample} :
    presentation.sample = some sample ↔ presentation.triple = sample.triple := by
  obtain ⟨rssi, kind, strength, level, live, present, lastSeenMs⟩ := presentation
  obtain ⟨sampleRssi, sampleKind, sampleSeen⟩ := sample
  cases rssi <;> cases kind <;> cases lastSeenMs <;>
    simp [DevicePresentation.sample, DevicePresentation.triple, Sample.triple]

theorem discoveryCandidate_eq_some {observed : Option Observation} {live : Bool}
    {candidate : Candidate} (hcandidate : discoveryCandidate observed live = some candidate) :
    ∃ seen rssi, observed = some seen ∧ seen.rssi = some rssi ∧
      candidate = ⟨⟨rssi, .dbm, seen.lastSeenMs⟩, live⟩ := by
  simp only [discoveryCandidate, Observation.sample, Option.map_eq_some_iff,
    Option.bind_eq_some_iff] at hcandidate
  obtain ⟨_, ⟨seen, hseen, rssi, hrssi, rfl⟩, rfl⟩ := hcandidate
  exact ⟨seen, rssi, hseen, hrssi, rfl⟩

theorem cachedCandidate_eq_some {cached : Option CachedDevice} {candidate : Candidate}
    (hcandidate : cachedCandidate cached = some candidate) :
    ∃ cache, cached = some cache ∧
      cache.device.presentation.triple = candidate.sample.triple ∧ candidate.live = false := by
  simp only [cachedCandidate, Option.map_eq_some_iff, Option.bind_eq_some_iff] at hcandidate
  obtain ⟨sample, ⟨cache, hcache, hsample⟩, rfl⟩ := hcandidate
  exact ⟨cache, hcache, sample_eq_some_iff.mp hsample, rfl⟩

namespace Signal

variable {observed : Option Observation} {cached : Option CachedDevice} {live : Bool}

/-- The observation is used when it has an RSSI and is live, or not older than the cache. -/
theorem measured_eq_some {seen : Observation} (hmeasured : measured observed cached live = some seen) :
    observed = some seen ∧ seen.rssi.isSome = true ∧ (live = false → ∀ cache, cached = some cache →
      cache.device.presentation.rssi = none ∨
        ∀ lastSeenMs, cache.device.presentation.lastSeenMs = some lastSeenMs →
          lastSeenMs ≤ seen.lastSeenMs) := by
  obtain ⟨hseen, hused⟩ := Option.filter_eq_some_iff.mp hmeasured
  obtain ⟨hrssi, hnewer⟩ := Bool.and_eq_true_iff.mp hused
  refine ⟨hseen, hrssi, ?_⟩
  rintro rfl cache rfl
  simpa [Option.all_eq_true] using hnewer

theorem measured_eq_none {seen : Observation} (hmeasured : measured observed cached live = none)
    (hseen : observed = some seen) (hrssi : seen.rssi.isSome = true) :
    live = false ∧ ∃ cache lastSeenMs, cached = some cache ∧
      cache.device.presentation.rssi.isSome = true ∧
      cache.device.presentation.lastSeenMs = some lastSeenMs ∧ seen.lastSeenMs ≤ lastSeenMs := by
  subst hseen
  have hunused := Option.filter_eq_none_iff.mp hmeasured seen rfl
  rw [hrssi, Bool.true_and] at hunused
  cases live with
  | true => simp at hunused
  | false =>
    cases cached with
    | none => simp at hunused
    | some cache =>
      refine ⟨rfl, cache, ?_⟩
      cases hcached : cache.device.presentation.rssi with
      | none => simp [hcached] at hunused
      | some rssi =>
        cases htime : cache.device.presentation.lastSeenMs with
        | none => simp [htime] at hunused
        | some lastSeenMs =>
          refine ⟨lastSeenMs, rfl, rfl, rfl, ?_⟩
          simp only [hcached, htime, Option.isNone_some, Bool.false_or, Option.all_some,
            decide_eq_true_eq] at hunused
          exact UInt64.le_of_lt (UInt64.not_le.mp hunused)

theorem wins_measured {seen : Observation} {rssi : Int16}
    (hmeasured : measured observed cached live = some seen) (hrssi : seen.rssi = some rssi) :
    Wins ⟨none, discoveryCandidate observed live, cachedCandidate cached⟩
      ⟨⟨rssi, .dbm, seen.lastSeenMs⟩, live⟩ := by
  obtain ⟨hseen, -, hnewer⟩ := measured_eq_some hmeasured
  have hdiscovery : discoveryCandidate observed live =
      some ⟨⟨rssi, .dbm, seen.lastSeenMs⟩, live⟩ := by
    simp [discoveryCandidate, Observation.sample, hseen, hrssi]
  refine ⟨.inr (.inl hdiscovery), (fun _ hlink ↦ by cases hlink), ?_, ?_⟩
  · intro other hother _ _
    exact Option.some.inj (hdiscovery.symm.trans hother)
  · rintro hold other (hlink | hother | hcached)
    · cases hlink
    · rw [← Option.some.inj (hdiscovery.symm.trans hother)]
      exact UInt64.le_refl _
    · obtain ⟨cache, hcache, htriple, -⟩ := cachedCandidate_eq_some hcached
      obtain ⟨hcacheRssi, -, htime⟩ := triple_eq_iff.mp htriple
      rcases hnewer hold cache hcache with hnone | hle
      · cases hnone.symm.trans hcacheRssi
      · exact hle _ htime

/-- Without a used observation the cached sample is the only one that counts. -/
theorem wins_cached {cache : CachedDevice} {sample : Sample}
    (hmeasured : measured observed (some cache) live = none)
    (htriple : cache.device.presentation.triple = sample.triple) :
    Wins ⟨none, discoveryCandidate observed live, cachedCandidate (some cache)⟩
      ⟨sample, false⟩ := by
  have hcached : cachedCandidate (some cache) = some ⟨sample, false⟩ := by
    simp [cachedCandidate, sample_eq_some_iff.mpr htriple]
  obtain ⟨-, -, htime⟩ := triple_eq_iff.mp htriple
  refine ⟨.inr (.inr hcached), (fun _ hlink ↦ by cases hlink), ?_, ?_⟩
  · intro candidate hdiscovery hseenLive _
    obtain ⟨seen, rssi, hseen, hseenRssi, rfl⟩ := discoveryCandidate_eq_some hdiscovery
    obtain ⟨rfl, -⟩ := measured_eq_none hmeasured hseen (by rw [hseenRssi]; rfl)
    cases hseenLive
  · rintro - other (hlink | hdiscovery | hother)
    · cases hlink
    · obtain ⟨seen, rssi, hseen, hseenRssi, rfl⟩ := discoveryCandidate_eq_some hdiscovery
      obtain ⟨-, same, lastSeenMs, hsame, -, hlast, hle⟩ :=
        measured_eq_none hmeasured hseen (by rw [hseenRssi]; rfl)
      obtain rfl := Option.some.inj hsame
      obtain rfl := Option.some.inj (htime.symm.trans hlast)
      exact hle
    · rw [← Option.some.inj (hcached.symm.trans hother)]
      exact UInt64.le_refl _

theorem not_has_of_silent (hmeasured : measured observed cached live = none)
    (hsilent : ∀ cache, cached = some cache → cache.device.presentation.rssi = none)
    (candidate : Candidate) :
    ¬ Candidates.Has ⟨none, discoveryCandidate observed live, cachedCandidate cached⟩ candidate := by
  rintro (hlink | hdiscovery | hcached)
  · cases hlink
  · obtain ⟨seen, rssi, hseen, hrssi, -⟩ := discoveryCandidate_eq_some hdiscovery
    obtain ⟨-, cache, _, hcache, hsome, -⟩ := measured_eq_none hmeasured hseen (by rw [hrssi]; rfl)
    rw [hsilent cache hcache] at hsome
    cases hsome
  · obtain ⟨cache, hcache, htriple, -⟩ := cachedCandidate_eq_some hcached
    cases (hsilent cache hcache).symm.trans (congrArg Prod.fst htriple)

/-- Discovery and the cache, without a link reading. -/
theorem arbitrated_resolve (hwhole : ∀ cache, cached = some cache → Whole cache.device.presentation) :
    Arbitrated ⟨none, discoveryCandidate observed live, cachedCandidate cached⟩
      (resolve observed cached live).triple (resolve observed cached live).live := by
  cases hmeasured : measured observed cached live with
  | some seen =>
    obtain ⟨rssi, hrssi⟩ := Option.isSome_iff_exists.mp (measured_eq_some hmeasured).2.1
    refine .chosen _ (wins_measured hmeasured hrssi) ?_ ?_
    · simp [triple, Sample.triple, resolve, hmeasured, hrssi]
    · simp [resolve, hmeasured]
  | none =>
    have hlive : (resolve observed cached live).live = false := by simp [resolve, hmeasured]
    cases cached with
    | none =>
      exact .silent (by simp [triple, resolve, hmeasured]) hlive
        (not_has_of_silent hmeasured fun _ hcache ↦ by cases hcache)
    | some cache =>
      rcases hwhole cache rfl with hsilent | ⟨sample, htriple⟩
      · refine .silent (by simp [triple, resolve, hmeasured, hsilent]) hlive
          (not_has_of_silent hmeasured fun other hother ↦ ?_)
        rwa [← Option.some.inj hother]
      · obtain ⟨hrssi, hkind, htime⟩ := triple_eq_iff.mp htriple
        refine .chosen _ (wins_cached hmeasured htriple) ?_ hlive
        simp [triple, Sample.triple, resolve, hmeasured, hrssi, hkind, htime]

/-- An older link reading replaces a signal that is neither live nor newer. -/
theorem yields_iff {signal : Signal} {sample : Sample} {reading : Reading}
    (htriple : signal.triple = sample.triple) (hold : reading.live = false) :
    signal.yields reading = true ↔
      signal.live = false ∧ sample.lastSeenMs ≤ reading.lastSeenMs := by
  obtain ⟨hrssi, -, htime⟩ : signal.rssi = some sample.rssi ∧ signal.kind = some sample.kind ∧
      signal.lastSeenMs = some sample.lastSeenMs := by
    simpa only [triple, Sample.triple, Prod.mk.injEq] using htriple
  simp [yields, hold, hrssi, htime]

section Link

variable {discovery cache : Option Candidate} {reading : Reading}

/-- A link reading wins when it is live, or when nothing is live or newer. -/
theorem wins_link (hdiscovery : reading.live = false → ∀ seen, discovery = some seen →
      seen.live = false)
    (hnewest : reading.live = false → ∀ other, Candidates.Has ⟨none, discovery, cache⟩ other →
      other.sample.lastSeenMs ≤ reading.lastSeenMs) :
    Wins ⟨linkCandidate (some reading), discovery, cache⟩ ⟨linkSample reading, reading.live⟩ where
  candidate := .inl rfl
  link _ hother _ := Option.some.inj hother
  discovery seen hseen hlive hdead := by
    cases hlive.symm.trans (hdiscovery (hdead _ rfl) seen hseen)
  newest hold := by
    rintro other (hother | hother)
    · rw [← Option.some.inj hother]
      exact UInt64.le_refl _
    · exact hnewest hold other (.inr hother)

/-- A link reading that is not live leaves a newer winner. -/
theorem wins_kept {candidate : Candidate} (hwins : Wins ⟨none, discovery, cache⟩ candidate)
    (hold : reading.live = false)
    (hnewer : candidate.live = false → reading.lastSeenMs ≤ candidate.sample.lastSeenMs) :
    Wins ⟨linkCandidate (some reading), discovery, cache⟩ candidate where
  candidate := hwins.candidate.imp_left fun hlink ↦ by cases hlink
  link other hother hlive := by
    rw [← Option.some.inj hother] at hlive
    cases hold.symm.trans hlive
  discovery seen hseen hlive _ := hwins.discovery seen hseen hlive fun _ hlink ↦ by cases hlink
  newest hcandidate := by
    rintro other (hother | hother)
    · rw [← Option.some.inj hother]
      exact hnewer hcandidate
    · exact hwins.newest hcandidate other (.inr hother)

/-- A link reading replaces the signal, or the signal stays. -/
theorem arbitrated_withLink {signal : Signal}
    (harbitrated : Arbitrated ⟨none, discovery, cache⟩ signal.triple signal.live)
    (link : Option Reading) :
    Arbitrated ⟨linkCandidate link, discovery, cache⟩ (signal.withLink link).triple
      (signal.withLink link).live := by
  cases link with
  | none => exact harbitrated
  | some reading =>
    have hreplaced : signal.yields reading = true →
        Wins ⟨linkCandidate (some reading), discovery, cache⟩
          ⟨linkSample reading, reading.live⟩ →
        Arbitrated ⟨linkCandidate (some reading), discovery, cache⟩
          (signal.withLink (some reading)).triple (signal.withLink (some reading)).live := by
      intro hyields hwins
      rw [withLink, if_pos hyields]
      exact .chosen _ hwins rfl rfl
    by_cases hlive : reading.live = true
    · have hnot : reading.live ≠ false := fun hold ↦ by cases hlive.symm.trans hold
      exact hreplaced (by simp [yields, hlive])
        (wins_link (fun hold ↦ absurd hold hnot) fun hold ↦ absurd hold hnot)
    · have hold : reading.live = false := Bool.of_not_eq_true hlive
      cases harbitrated with
      | silent hrssi hsignal hnone =>
        have hrssi : signal.rssi = none := hrssi
        exact hreplaced (by simp [yields, hsignal, hrssi])
          (wins_link (fun _ seen hseen ↦ absurd (.inr (.inl hseen)) (hnone seen))
            fun _ other hother ↦ absurd hother (hnone other))
      | chosen candidate hwins htriple hsignal =>
        by_cases hyields : signal.yields reading = true
        · obtain ⟨hsignalOld, hle⟩ := (yields_iff htriple hold).mp hyields
          have hcandidate : candidate.live = false := hsignal.symm.trans hsignalOld
          refine hreplaced hyields (wins_link (fun _ seen hseen ↦ ?_) fun _ other hother ↦ ?_)
          · cases hseenLive : seen.live with
            | false => rfl
            | true =>
              have hsame := hwins.discovery seen hseen hseenLive fun _ hlink ↦ by cases hlink
              rw [hsame, hseenLive] at hcandidate
              exact hcandidate
          · exact UInt64.le_trans (hwins.newest hcandidate other hother) hle
        · rw [withLink, if_neg hyields]
          refine .chosen candidate (wins_kept hwins hold fun hcandidate ↦ ?_) htriple hsignal
          have hnewer : ¬ candidate.sample.lastSeenMs ≤ reading.lastSeenMs := fun hle ↦
            hyields ((yields_iff htriple hold).mpr ⟨hsignal.trans hcandidate, hle⟩)
          exact UInt64.le_of_lt (UInt64.not_le.mp hnewer)

end Link

end Signal

/-! ## Sequences of snapshots -/

namespace Arbitration

/-- The cache entries that were built so far, and the samples of all readings. -/
structure State where
  entries : List CachedDevice
  readings : List Sample

inductive Action where
  | snapshot (evidence : Evidence) (now : Instant) (nowMs : UInt64)

/-- The samples of what the snapshot reads. -/
def samples (evidence : Evidence) : List Sample :=
  (evidence.link.map linkSample).toList ++ (evidence.observation.bind Observation.sample).toList

/-- The cached device of a snapshot is one that an earlier snapshot built. -/
def step (state : State) : Action → Option State
  | .snapshot evidence now nowMs =>
    if ∀ cache ∈ evidence.cached, cache ∈ state.entries then
      some ⟨state.entries ++ (deviceSnapshot evidence now nowMs).2.toList,
        state.readings ++ samples evidence⟩
    else none

def system : System State Action := ⟨⟨[], []⟩, step⟩

/-- The signal of a cached device is that of one reading of the past, and its view shows it. -/
structure Original (readings : List Sample) (cache : CachedDevice) : Prop where
  whole : Whole cache.device.presentation
  original : ∀ sample, cache.device.presentation.sample = some sample → sample ∈ readings
  view : (cachedDeviceView cache).presentation.triple = cache.device.presentation.triple ∧
    (cachedDeviceView cache).presentation.signalLive = false

/-- Every snapshot that may come next publishes one source, and what it publishes was read
once. -/
structure OneSource (state : State) : Prop where
  entries : ∀ cache ∈ state.entries, Original state.readings cache
  published : ∀ evidence now nowMs device, (∀ cache ∈ evidence.cached, cache ∈ state.entries) →
    (deviceSnapshot evidence now nowMs).1 = some device →
      Arbitrated (evidence.candidates now) device.presentation.triple
        device.presentation.signalLive
  original : ∀ evidence now nowMs device, (∀ cache ∈ evidence.cached, cache ∈ state.entries) →
    (deviceSnapshot evidence now nowMs).1 = some device → ∀ sample,
      device.presentation.sample = some sample → sample ∈ state.readings ++ samples evidence

def Invariant (state : State) : Prop := ∀ cache ∈ state.entries, Original state.readings cache

theorem Original.mono {readings later : List Sample} {cache : CachedDevice}
    (original : Original readings cache) (hmono : readings ⊆ later) : Original later cache :=
  { original with
    original := fun sample hsample ↦ hmono (original.original sample hsample) }

section Snapshot

variable {evidence : Evidence} {now : Instant} {nowMs : UInt64} {device : Device}

theorem deviceSnapshot_fst (hdevice : (deviceSnapshot evidence now nowMs).1 = some device) :
    device = build evidence.context evidence.state (evidence.signal now) := by
  unfold deviceSnapshot at hdevice
  dsimp only at hdevice
  split at hdevice
  · exact (Option.some.inj hdevice).symm
  · cases hdevice

/-- What goes into the cache is what was published. -/
theorem deviceSnapshot_snd {cache : CachedDevice}
    (hcache : (deviceSnapshot evidence now nowMs).2 = some cache) :
    (deviceSnapshot evidence now nowMs).1 = some cache.device := by
  unfold deviceSnapshot at hcache ⊢
  dsimp only at hcache ⊢
  split at hcache
  · next hincluded =>
    rw [if_pos hincluded]
    obtain ⟨-, hentry⟩ := Option.ite_none_right_eq_some.mp hcache
    rw [← Option.some.inj hentry]
  · cases hcache

end Snapshot

namespace Invariant

variable {state : State}

theorem arbitrated (invariant : Invariant state) {evidence : Evidence} {now : Instant}
    {nowMs : UInt64} {device : Device} (hcached : ∀ cache ∈ evidence.cached, cache ∈ state.entries)
    (hdevice : (deviceSnapshot evidence now nowMs).1 = some device) :
    Arbitrated (evidence.candidates now) device.presentation.triple
      device.presentation.signalLive := by
  rw [deviceSnapshot_fst hdevice]
  apply Signal.arbitrated_withLink
  apply Signal.arbitrated_resolve
  intro cache hcache
  exact (invariant cache (hcached cache hcache)).whole

/-- A candidate is what the snapshot reads, or what it finds in the cache. -/
theorem mem_of_has (invariant : Invariant state) {evidence : Evidence} {now : Instant}
    (hcached : ∀ cache ∈ evidence.cached, cache ∈ state.entries) {candidate : Candidate}
    (hhas : (evidence.candidates now).Has candidate) :
    candidate.sample ∈ state.readings ++ samples evidence := by
  rcases hhas with hlink | hdiscovery | hcache
  · obtain ⟨reading, hreading, rfl⟩ := Option.map_eq_some_iff.mp hlink
    simp [samples, hreading]
  · obtain ⟨seen, rssi, hseen, hrssi, rfl⟩ := discoveryCandidate_eq_some hdiscovery
    simp [samples, hseen, Observation.sample, hrssi]
  · obtain ⟨cache, hcache, htriple, -⟩ := cachedCandidate_eq_some hcache
    apply List.mem_append_left
    exact (invariant cache (hcached cache hcache)).original _ (sample_eq_some_iff.mpr htriple)

theorem original (invariant : Invariant state) {evidence : Evidence} {now : Instant}
    {nowMs : UInt64} {device : Device} (hcached : ∀ cache ∈ evidence.cached, cache ∈ state.entries)
    (hdevice : (deviceSnapshot evidence now nowMs).1 = some device) {sample : Sample}
    (hsample : device.presentation.sample = some sample) :
    sample ∈ state.readings ++ samples evidence := by
  have htriple := sample_eq_some_iff.mp hsample
  cases invariant.arbitrated hcached hdevice with
  | silent hrssi => cases hrssi.symm.trans (congrArg Prod.fst htriple)
  | chosen candidate hwins hcandidate =>
    have hsame : candidate.sample = sample :=
      Option.some.inj ((sample_eq_some_iff.mpr hcandidate).symm.trans hsample)
    rw [← hsame]
    exact invariant.mem_of_has hcached hwins.candidate

theorem step (invariant : Invariant state) {action : Action} {next : State}
    (hstep : system.step state action = some next) : Invariant next := by
  obtain ⟨evidence, now, nowMs⟩ := action
  obtain ⟨hcached, hnext⟩ := Option.ite_none_right_eq_some.mp hstep
  rw [← Option.some.inj hnext]
  intro cache hcache
  rcases List.mem_append.mp hcache with hold | hnew
  · exact (invariant cache hold).mono (List.subset_append_left ..)
  · have hdevice := deviceSnapshot_snd (Option.mem_toList.mp hnew)
    refine ⟨?_, fun sample hsample ↦ invariant.original hcached hdevice hsample, rfl, rfl⟩
    cases invariant.arbitrated hcached hdevice with
    | silent hrssi => exact .inl hrssi
    | chosen candidate _ htriple => exact .inr ⟨candidate.sample, htriple⟩

end Invariant

/-- Along every sequence of snapshots one source is published. -/
theorem publishes_one_source {state : State} (hreach : system.Reachable state) :
    OneSource state := by
  have hinit : Invariant system.init := fun _ hcache ↦ by cases hcache
  have hinvariant : Invariant state :=
    hreach.invariant hinit fun _ _ _ invariant hstep ↦ invariant.step hstep
  exact {
    entries := hinvariant
    published := fun _ _ _ _ hcached hdevice ↦ hinvariant.arbitrated hcached hdevice
    original := fun _ _ _ _ hcached hdevice _ hsample ↦
      hinvariant.original hcached hdevice hsample }

section Example

/-- Discovery has an RSSI of the device. -/
def observedEvidence : Evidence :=
  ⟨⟨"device", "adapter"⟩, ⟨true, false⟩, some ⟨some (-40), 1000, 0⟩, true, none, none⟩

/-- Discovery sees the device later without an RSSI, beside the cached one and an older link
reading. -/
def recalledEvidence : Evidence :=
  { observedEvidence with
    observation := some ⟨none, 2000, 1000000000⟩
    cached := (deviceSnapshot observedEvidence 0 1000).2
    link := some ⟨-60, .dbm, 500, false⟩ }

def recalledRun : List Action :=
  [.snapshot observedEvidence 0 1000, .snapshot recalledEvidence 1000000000 2000]

theorem publishes_one_source_cached : ∃ state first second,
    system.run ⟨[], []⟩ recalledRun = some state ∧ state.entries = [first, second] ∧
      first.device.presentation.triple = (some (-40), some .dbm, some 1000) ∧
      second.device.presentation.triple = (some (-40), some .dbm, some 1000) ∧
      first.device.presentation.signalLive = true ∧
      second.device.presentation.signalLive = false ∧ OneSource state :=
  ⟨_, _, _, rfl, rfl, rfl, rfl, rfl, rfl, publishes_one_source ⟨recalledRun, rfl⟩⟩

end Example

end Arbitration

end BtDaemon.Bluez.Snapshot
