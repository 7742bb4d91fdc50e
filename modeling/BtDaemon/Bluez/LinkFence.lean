import BtDaemon.Bluez.LinkSignal

/-!
# Link signal readings are fenced

How far the epoch has moved since a poll began, together with the invalidations since then,
decides whether a reply of the poll is accepted. Clearing the fences at a new poll moves the
epoch, so it never admits a reply that a cleared fence had refused. A sample is live only
through a reply that was accepted after everything that disturbed its peer.
-/

namespace BtDaemon.Bluez.LinkSignal

open Transition

/-! ## What the methods do to the entries -/

namespace Signals

variable (self : Signals)

theorem lookup_invalidate (now : Instant) (adapter : String) (address : Option Address)
    (key : Key) :
    (self.invalidate now adapter address).entries.lookup key =
      (self.entries.lookup key).map fun entry ↦
        if covers adapter address key then entry.disturb now else entry :=
  Table.lookup_mapEntries _ _ _

theorem lookup_suspend (now : Instant) (key : Key) :
    (self.suspend now).entries.lookup key =
      (self.entries.lookup key).map fun entry ↦ entry.disturb now :=
  Table.lookup_mapValues _ _ _

theorem lookup_accept {now : Instant} {unixTimeMs : UInt64} {key : Key} {epoch : UInt64}
    {reading : Option (Int16 × RssiKind)} (hcurrent : self.current key epoch = true)
    (other : Key) :
    (self.accept now unixTimeMs key epoch reading).entries.lookup other =
      if other = key then some ((self.entryOr now key).record now unixTimeMs reading)
      else self.entries.lookup other := by
  rw [accept, if_pos hcurrent]
  exact Table.lookup_insert _ _ _ _

theorem accept_of_not_current {now : Instant} {unixTimeMs : UInt64} {key : Key} {epoch : UInt64}
    {reading : Option (Int16 × RssiKind)} (hstale : self.current key epoch = false) :
    self.accept now unixTimeMs key epoch reading = self := by
  rw [accept, hstale]
  rfl

/-- Ageing drops samples and entries; it renews none. -/
theorem lookup_age {now : Instant} {key : Key} {entry : Entry} {reading : Reading}
    (hentry : (self.age now).entries.lookup key = some entry)
    (hreading : entry.reading = some reading) : self.entries.lookup key = some entry := by
  rw [age, Table.lookup_retain, Table.lookup_mapValues] at hentry
  obtain ⟨haged, -⟩ := Option.filter_eq_some_iff.mp hentry
  obtain ⟨old, hold, hsame⟩ := Option.map_eq_some_iff.mp haged
  split at hsame
  · rw [← hsame] at hreading
    cases hreading
  · rw [hold, hsame]

/-! ## The last successful sample -/

theorem sample_invalidate (now : Instant) (adapter : String) (address : Option Address)
    (key : Key) : (self.invalidate now adapter address).sample key = self.sample key := by
  rw [sample, sample, lookup_invalidate]
  cases self.entries.lookup key with
  | none => rfl
  | some entry =>
    change Entry.sample (if _ then _ else _) = entry.sample
    split
    · exact entry.sample_disturb now
    · rfl

theorem sample_suspend (now : Instant) (key : Key) :
    (self.suspend now).sample key = self.sample key := by
  rw [sample, sample, lookup_suspend]
  cases self.entries.lookup key with
  | none => rfl
  | some entry => exact entry.sample_disturb now

theorem sample_entryOr (now : Instant) (key : Key) :
    (self.entryOr now key).sample = self.sample key := by
  unfold entryOr sample
  cases self.entries.lookup key with
  | none => rfl
  | some entry => rfl

/-- A failed reading keeps the last sample of every peer. -/
theorem sample_accept_none (now : Instant) (unixTimeMs : UInt64) (key : Key) (epoch : UInt64)
    (other : Key) : (self.accept now unixTimeMs key epoch none).sample other =
      self.sample other := by
  cases hcurrent : self.current key epoch with
  | false => rw [self.accept_of_not_current hcurrent]
  | true =>
    rw [sample, self.lookup_accept hcurrent]
    by_cases hother : other = key
    · rw [if_pos hother, hother, ← self.sample_entryOr now key]
      exact Entry.sample_record_none _ _ _
    · rw [if_neg hother]
      rfl

/-! ## The fences -/

theorem unfenced_iff (key : Key) : self.unfenced key = true ↔
    key ∉ self.invalidatedDevices ∧ key.1 ∉ self.invalidatedAdapters := by
  rw [unfenced, Bool.and_eq_true, decide_eq_true_iff, decide_eq_true_iff]

theorem current_iff (key : Key) (epoch : UInt64) :
    self.current key epoch = true ↔ epoch = self.epoch ∧ self.unfenced key = true := by
  rw [current, Bool.and_eq_true, beq_iff_eq]

theorem unfenced_invalidate (now : Instant) (adapter : String) (address : Option Address)
    (key : Key) : (self.invalidate now adapter address).unfenced key = true ↔
      self.unfenced key = true ∧ covers adapter address key = false := by
  rw [unfenced_iff, unfenced_iff]
  cases address with
  | none =>
    have hcovers : covers adapter none key = false ↔ key.1 ≠ adapter := by simp [covers]
    rw [hcovers, invalidate, Finset.mem_insert]
    tauto
  | some address =>
    have hcovers : covers adapter (some address) key = false ↔ key ≠ (adapter, address) := by
      obtain ⟨name, peer⟩ := key
      rw [Ne, Prod.mk.injEq, eq_comm (a := peer)]
      simp [covers]
    rw [hcovers, invalidate, Finset.mem_insert]
    tauto

theorem unfenced_beginPoll (key : Key) : self.beginPoll.1.unfenced key = true :=
  (unfenced_iff _ _).mpr ⟨Finset.notMem_empty _, Finset.notMem_empty _⟩

/-- A reply changes neither the epoch nor the fences. -/
theorem accept_fences (now : Instant) (unixTimeMs : UInt64) (key : Key) (epoch : UInt64)
    (reading : Option (Int16 × RssiKind)) :
    (self.accept now unixTimeMs key epoch reading).epoch = self.epoch ∧
      (self.accept now unixTimeMs key epoch reading).unfenced = self.unfenced := by
  unfold accept
  split
  · exact ⟨rfl, rfl⟩
  · exact ⟨rfl, rfl⟩

end Signals

/-! ## A reply is current exactly when nothing fenced its peer since its poll began -/

theorem eq_add_ofNat_iff {token : UInt64} {distance : ℕ} (hbound : distance < UInt64.size) :
    token = token + UInt64.ofNat distance ↔ distance = 0 := by
  constructor
  · intro hsame
    have hnumber := congrArg UInt64.toNat hsame
    rw [UInt64.toNat_add, UInt64.toNat_ofNat_of_lt' hbound] at hnumber
    have htoken := token.toNat_lt
    have hsize : UInt64.size = 2 ^ 64 := rfl
    omega
  · rintro rfl
    exact (UInt64.add_zero token).symm

/-- What one step does to the distance of the epoch from a token and to the fences. -/
theorem step_fences {state next : State} {action : Action} (hstep : step state action = some next)
    (key : Key) :
    (action.retires = true ∧ next.signals.epoch = state.signals.epoch + 1) ∨
      (action.retires = false ∧ next.signals.epoch = state.signals.epoch ∧
        (next.signals.unfenced key = true ↔
          state.signals.unfenced key = true ∧ action.fences key = false)) := by
  cases action with
  | age now =>
    obtain rfl := Option.some.inj hstep
    exact .inr ⟨rfl, rfl, (and_iff_left rfl).symm⟩
  | beginPoll =>
    obtain rfl := Option.some.inj hstep
    exact .inl ⟨rfl, rfl⟩
  | accept peer epoch answer now unixTimeMs =>
    obtain ⟨-, hnext⟩ := Option.ite_none_right_eq_some.mp hstep
    obtain rfl := Option.some.inj hnext
    obtain ⟨hepoch, hunfenced⟩ :=
      state.signals.accept_fences now unixTimeMs peer epoch (readingOf answer)
    refine .inr ⟨rfl, hepoch, ?_⟩
    rw [hunfenced]
    exact (and_iff_left rfl).symm
  | invalidate adapter address now =>
    obtain rfl := Option.some.inj hstep
    exact .inr ⟨rfl, rfl, state.signals.unfenced_invalidate now adapter address key⟩
  | suspend now =>
    obtain rfl := Option.some.inj hstep
    exact .inl ⟨rfl, rfl⟩

theorem current_run {state final : State} {since : List Action}
    (hrun : system.run state since = some final) {token : UInt64} {distance : ℕ}
    (hepoch : state.signals.epoch = token + UInt64.ofNat distance)
    (hbound : distance + since.countP Action.retires < UInt64.size) (key : Key) :
    final.signals.current key token = true ↔
      distance = 0 ∧ state.signals.unfenced key = true ∧
        ∀ action ∈ since, action.fences key = false := by
  induction since generalizing state distance with
  | nil =>
    obtain rfl := Option.some.inj hrun
    have hdistance : distance < UInt64.size := hbound
    rw [Signals.current_iff, hepoch, eq_add_ofNat_iff hdistance]
    simp
  | cons action rest ih =>
    obtain ⟨next, hstep, hrest⟩ := (system.run_cons_eq_some).mp hrun
    rw [List.countP_cons] at hbound
    rcases step_fences hstep key with ⟨hretires, hnext⟩ | ⟨hkeeps, hnext, hunfenced⟩
    · -- The distance only grows, and the run is too short for it to come back to zero.
      have hfar : next.signals.epoch = token + UInt64.ofNat (distance + 1) := by
        rw [hnext, hepoch, UInt64.add_assoc, UInt64.ofNat_add]
        rfl
      rw [if_pos hretires] at hbound
      rw [ih hrest hfar (by omega)]
      refine iff_of_false (fun h ↦ Nat.succ_ne_zero distance h.1) ?_
      rintro ⟨-, -, hclear⟩
      have hfence := hclear action List.mem_cons_self
      rw [Action.fences, hretires] at hfence
      cases hfence
    · rw [if_neg (by rw [hkeeps]; exact Bool.false_ne_true)] at hbound
      rw [ih hrest (hnext.trans hepoch) hbound, hunfenced, List.forall_mem_cons, and_assoc]

/-! ## Where a live sample comes from -/

/-- Only an accepted reply makes a peer's sample count as the result of its last attempt. -/
theorem step_succeeded {state next : State} {action : Action}
    (hstep : step state action = some next) {key : Key} {entry : Entry} {reading : Reading}
    (hentry : next.signals.entries.lookup key = some entry) (hsucceeded : entry.succeeded = true)
    (hreading : entry.reading = some reading) :
    (∃ old, state.signals.entries.lookup key = some old ∧ old.succeeded = true ∧
      old.reading = some reading ∧ action.disturbs key = false) ∨
    ∃ epoch answer now unixTimeMs rssi kind,
      action = .accept key epoch answer now unixTimeMs ∧ epoch ∈ state.polls ∧
        state.signals.current key epoch = true ∧ readingOf answer = some (rssi, kind) ∧
          reading = ⟨rssi, kind, unixTimeMs, true⟩ := by
  cases action with
  | age now =>
    obtain rfl := Option.some.inj hstep
    have hold := state.signals.lookup_age hentry hreading
    exact .inl ⟨entry, hold, hsucceeded, hreading, rfl⟩
  | beginPoll =>
    obtain rfl := Option.some.inj hstep
    exact .inl ⟨entry, hentry, hsucceeded, hreading, rfl⟩
  | accept peer epoch answer now unixTimeMs =>
    obtain ⟨hpoll, hnext⟩ := Option.ite_none_right_eq_some.mp hstep
    obtain rfl := Option.some.inj hnext
    dsimp only at hentry
    cases hcurrent : state.signals.current peer epoch with
    | false =>
      rw [state.signals.accept_of_not_current hcurrent] at hentry
      exact .inl ⟨entry, hentry, hsucceeded, hreading, rfl⟩
    | true =>
      rw [state.signals.lookup_accept hcurrent] at hentry
      by_cases hkey : key = peer
      · rw [if_pos hkey] at hentry
        obtain rfl := Option.some.inj hentry
        cases hanswer : readingOf answer with
        | none =>
          rw [hanswer] at hsucceeded
          cases hsucceeded
        | some sample =>
          obtain ⟨rssi, kind⟩ := sample
          rw [hanswer] at hreading
          rw [hkey]
          exact .inr ⟨epoch, answer, now, unixTimeMs, rssi, kind, rfl, hpoll, hcurrent, hanswer,
            (Option.some.inj hreading).symm⟩
      · rw [if_neg hkey] at hentry
        exact .inl ⟨entry, hentry, hsucceeded, hreading, rfl⟩
  | invalidate adapter address now =>
    obtain rfl := Option.some.inj hstep
    dsimp only at hentry
    rw [Signals.lookup_invalidate] at hentry
    obtain ⟨old, hold, hsame⟩ := Option.map_eq_some_iff.mp hentry
    cases hcovers : covers adapter address key with
    | false =>
      rw [hcovers] at hsame
      obtain rfl : old = entry := hsame
      exact .inl ⟨old, hold, hsucceeded, hreading, hcovers⟩
    | true =>
      rw [hcovers] at hsame
      rw [← hsame] at hsucceeded
      cases hsucceeded
  | suspend now =>
    obtain rfl := Option.some.inj hstep
    dsimp only at hentry
    rw [Signals.lookup_suspend] at hentry
    obtain ⟨old, -, hsame⟩ := Option.map_eq_some_iff.mp hentry
    rw [← hsame] at hsucceeded
    cases hsucceeded

/-- A sample that counts as the result of the last attempt was there at the start of the run and
nothing disturbed its peer, or a reply of the run was accepted with it. -/
theorem run_succeeded {start final : State} {since : List Action}
    (hrun : system.run start since = some final) {key : Key} {entry : Entry} {reading : Reading}
    (hentry : final.signals.entries.lookup key = some entry) (hsucceeded : entry.succeeded = true)
    (hreading : entry.reading = some reading) :
    (∃ old, start.signals.entries.lookup key = some old ∧ old.succeeded = true ∧
      old.reading = some reading) ∨
    ∃ middle reached later epoch answer now unixTimeMs rssi kind,
      since = middle ++ .accept key epoch answer now unixTimeMs :: later ∧
        system.run start middle = some reached ∧ epoch ∈ reached.polls ∧
          reached.signals.current key epoch = true ∧ readingOf answer = some (rssi, kind) ∧
            reading = ⟨rssi, kind, unixTimeMs, true⟩ := by
  induction since generalizing start with
  | nil =>
    obtain rfl := Option.some.inj hrun
    exact .inl ⟨entry, hentry, hsucceeded, hreading⟩
  | cons action rest ih =>
    obtain ⟨next, hstep, hrest⟩ := (system.run_cons_eq_some).mp hrun
    rcases ih hrest with ⟨old, hold, holdSucceeded, holdReading⟩ |
      ⟨middle, reached, later, epoch, answer, now, unixTimeMs, rssi, kind, hsplit, hmiddle, hlate⟩
    · rcases step_succeeded hstep hold holdSucceeded holdReading with
        ⟨first, hfirst, hfirstSucceeded, hfirstReading, -⟩ |
        ⟨epoch, answer, now, unixTimeMs, rssi, kind, haction, haccepted⟩
      · exact .inl ⟨first, hfirst, hfirstSucceeded, hfirstReading⟩
      · refine .inr ⟨[], start, rest, epoch, answer, now, unixTimeMs, rssi, kind, ?_, rfl,
          haccepted⟩
        rw [haction, List.nil_append]
    · refine .inr ⟨action :: middle, reached, later, epoch, answer, now, unixTimeMs, rssi, kind,
        ?_, (system.run_cons_eq_some).mpr ⟨next, hstep, hmiddle⟩, hlate⟩
      rw [hsplit, List.cons_append]

/-- Nothing counts as the result of the last attempt right after a step that disturbs the peer. -/
theorem not_succeeded_of_disturbs {state next : State} {action : Action}
    (hstep : step state action = some next) {key : Key} (hdisturbs : action.disturbs key = true)
    {entry : Entry} {reading : Reading}
    (hentry : next.signals.entries.lookup key = some entry)
    (hreading : entry.reading = some reading) : entry.succeeded = false := by
  apply Bool.eq_false_iff.mpr
  intro hsucceeded
  rcases step_succeeded hstep hentry hsucceeded hreading with
    ⟨-, -, -, -, hquiet⟩ | ⟨_, _, _, _, _, _, haction, -⟩
  · rw [hdisturbs] at hquiet
    cases hquiet
  · rw [haction] at hdisturbs
    cases hdisturbs

/-- What a live sample says about its entry. -/
theorem Signals.get_live {signals : Signals} {now : Instant} {adapter : String}
    {address : Address} {connected : Bool} {reading : Reading}
    (hget : signals.get now adapter address connected = some reading)
    (hlive : reading.live = true) :
    ∃ entry stored, signals.entries.lookup (adapter, address) = some entry ∧
      entry.succeeded = true ∧ entry.reading = some stored ∧
        reading = { stored with live := true } := by
  unfold Signals.get at hget
  obtain ⟨entry, hentry, hrest⟩ := Option.bind_eq_some_iff.mp hget
  obtain ⟨stored, hstored, hshown⟩ := Option.bind_eq_some_iff.mp hrest
  split at hshown
  · cases hshown
  · have hsame := Option.some.inj hshown
    rw [← hsame] at hlive
    obtain ⟨hfresh, -⟩ := (Bool.and_eq_true _ _).mp hlive
    obtain ⟨-, hsucceeded⟩ := (Bool.and_eq_true _ _).mp hfresh
    refine ⟨entry, stored, hentry, hsucceeded, hstored, ?_⟩
    rw [← hsame]
    exact congrArg (fun live ↦ { stored with live := live }) hlive

/-! ## Runs -/

/-- In the run a poll began with the token, and the given actions came after its begin. -/
def Began (actions : List Action) (token : UInt64) (since : List Action) : Prop :=
  ∃ earlier before, actions = earlier ++ .beginPoll :: since ∧
    system.run system.init earlier = some before ∧ before.signals.beginPoll.2 = token

/-- A reply is current for a peer exactly when nothing fenced the peer since its poll began. -/
theorem current_iff_of_began {actions since : List Action} {state : State}
    (hrun : system.run system.init actions = some state)
    (hbound : actions.countP Action.retires < UInt64.size) {token : UInt64}
    (hbegan : Began actions token since) (key : Key) :
    state.signals.current key token = true ↔ ∀ action ∈ since, action.fences key = false := by
  obtain ⟨earlier, before, rfl, hbefore, htoken⟩ := hbegan
  obtain ⟨middle, hmiddle, hrest⟩ := (system.run_append_eq_some).mp hrun
  obtain rfl : before = middle := Option.some.inj (hbefore.symm.trans hmiddle)
  obtain ⟨begun, hstep, hsince⟩ := (system.run_cons_eq_some).mp hrest
  obtain rfl := Option.some.inj hstep
  have hepoch : before.signals.beginPoll.1.epoch = token + UInt64.ofNat 0 := by
    rw [← htoken]
    exact (UInt64.add_zero _).symm
  have hshort : 0 + since.countP Action.retires < UInt64.size := by
    rw [List.countP_append, List.countP_cons] at hbound
    omega
  rw [current_run hsince hepoch hshort key]
  simp [before.signals.unfenced_beginPoll key]

/-- Every token was handed out by a poll of the run. -/
theorem mem_polls_run {start final : State} {actions : List Action}
    (hrun : system.run start actions = some final) {token : UInt64}
    (hmem : token ∈ final.polls) :
    token ∈ start.polls ∨ ∃ earlier before since, actions = earlier ++ .beginPoll :: since ∧
      system.run start earlier = some before ∧ before.signals.beginPoll.2 = token := by
  induction actions generalizing start with
  | nil =>
    obtain rfl := Option.some.inj hrun
    exact .inl hmem
  | cons action rest ih =>
    obtain ⟨next, hstep, hrest⟩ := (system.run_cons_eq_some).mp hrun
    rcases ih hrest with hnext | ⟨earlier, before, since, hsplit, hearlier, htoken⟩
    · cases action with
      | beginPoll =>
        obtain rfl := Option.some.inj hstep
        rcases List.mem_cons.mp hnext with hnew | hold
        · exact .inr ⟨[], start, rest, rfl, rfl, hnew.symm⟩
        · exact .inl hold
      | age now =>
        obtain rfl := Option.some.inj hstep
        exact .inl hnext
      | accept key epoch answer now unixTimeMs =>
        obtain ⟨-, haccepted⟩ := Option.ite_none_right_eq_some.mp hstep
        obtain rfl := Option.some.inj haccepted
        exact .inl hnext
      | invalidate adapter address now =>
        obtain rfl := Option.some.inj hstep
        exact .inl hnext
      | suspend now =>
        obtain rfl := Option.some.inj hstep
        exact .inl hnext
    · refine .inr ⟨action :: earlier, before, since, ?_,
        (system.run_cons_eq_some).mpr ⟨next, hstep, hearlier⟩, htoken⟩
      rw [hsplit, List.cons_append]

theorem began_of_mem_polls {actions : List Action} {state : State}
    (hrun : system.run system.init actions = some state) {token : UInt64}
    (hmem : token ∈ state.polls) : ∃ since, Began actions token since := by
  rcases mem_polls_run hrun hmem with hinit | ⟨earlier, before, since, hbegan⟩
  · cases hinit
  · exact ⟨since, earlier, before, hbegan⟩

/-- Of two places in a list, the one that the other's rest does not hold comes first. -/
theorem split_after {Element : Type} {before middle earlier rest : List Element}
    {first second : Element}
    (hsame : before ++ first :: middle = earlier ++ second :: rest) (hne : first ≠ second)
    (hnot : first ∉ rest) : ∃ between, middle = between ++ second :: rest := by
  rcases List.append_eq_append_iff.mp hsame with ⟨gap, hearlier, hgap⟩ | ⟨gap, hbefore, hgap⟩
  · cases gap with
    | nil => exact absurd (List.cons.inj hgap).1 hne
    | cons head between => exact ⟨between, (List.cons.inj hgap).2⟩
  · cases gap with
    | nil => exact absurd (List.cons.inj hgap).1.symm hne
    | cons head between =>
      rw [(List.cons.inj hgap).2] at hnot
      exact absurd (List.mem_append_right between List.mem_cons_self) hnot

/-- A sample that is live after a step that disturbed its peer is from a reading of a poll that
began after that step, and nothing fenced the peer between the two. -/
theorem reading_after_disturbance {before since : List Action} {disturbance : Action}
    {state : State} (hrun : system.run system.init (before ++ disturbance :: since) = some state)
    (hbound : (before ++ disturbance :: since).countP Action.retires < UInt64.size) {key : Key}
    (hdisturbs : disturbance.disturbs key = true) {now : Instant} {connected : Bool}
    {reading : Reading} (hget : state.signals.get now key.1 key.2 connected = some reading)
    (hlive : reading.live = true) :
    ∃ first polled later token answer received,
      since = first ++ .beginPoll ::
        (polled ++ .accept key token answer received reading.lastSeenMs :: later) ∧
      Began (before ++ disturbance :: (first ++ .beginPoll :: polled)) token polled ∧
      (∀ action ∈ polled, action.fences key = false) ∧
      readingOf answer = some (reading.rssi, reading.kind) := by
  obtain ⟨entry, stored, hentry, hsucceeded, hstored, hshown⟩ := Signals.get_live hget hlive
  obtain ⟨start, hbefore, hrest⟩ := (system.run_append_eq_some).mp hrun
  obtain ⟨next, hstep, hsince⟩ := (system.run_cons_eq_some).mp hrest
  rcases run_succeeded hsince hentry hsucceeded hstored with
    ⟨old, hold, holdSucceeded, holdStored⟩ |
    ⟨middle, reached, later, token, answer, received, unixTimeMs, rssi, kind, hsplit, hmiddle,
      hmem, hcurrent, hanswer, hreading⟩
  · have hquiet := not_succeeded_of_disturbs hstep hdisturbs hold holdStored
    rw [holdSucceeded] at hquiet
    cases hquiet
  · have hreached : system.run system.init (before ++ disturbance :: middle) = some reached :=
      system.run_append hbefore ((system.run_cons_eq_some).mpr ⟨next, hstep, hmiddle⟩)
    have hshort : (before ++ disturbance :: middle).countP Action.retires < UInt64.size := by
      refine Nat.lt_of_le_of_lt (List.Sublist.countP_le ?_) hbound
      rw [hsplit, ← List.cons_append, ← List.append_assoc]
      exact List.sublist_append_left _ _
    obtain ⟨polled, hbegan⟩ := began_of_mem_polls hreached hmem
    have hclear := (current_iff_of_began hreached hshort hbegan key).mp hcurrent
    obtain ⟨earlier, -, hsame, -, -⟩ := id hbegan
    have hne : disturbance ≠ .beginPoll := by
      rintro rfl
      cases hdisturbs
    have hnot : disturbance ∉ polled := by
      intro hlate
      have hfences := hclear disturbance hlate
      rw [Action.fences, hdisturbs, Bool.or_true] at hfences
      cases hfences
    obtain ⟨first, rfl⟩ := split_after hsame hne hnot
    rw [hshown, hreading]
    refine ⟨first, polled, later, token, answer, received, ?_, hbegan, hclear, hanswer⟩
    rw [hsplit, List.append_assoc, List.cons_append]

/-- What holds after a run, of the replies of its polls and of what may happen next. -/
structure Fenced (actions : List Action) (state : State) : Prop where
  stale : ∀ token since, Began actions token since → ∀ key,
    (∃ action ∈ since, action.fences key = true) → ∀ now unixTimeMs reading,
      state.signals.accept now unixTimeMs key token reading = state.signals
  own : ∀ token since, Began actions token since → ∀ key,
    (∀ action ∈ since, action.fences key = false) → ∀ now unixTimeMs reading other,
      (state.signals.accept now unixTimeMs key token reading).entries.lookup other =
        if other = key then some ((state.signals.entryOr now key).record now unixTimeMs reading)
        else state.signals.entries.lookup other
  apart : ∀ adapter address key, covers adapter address key = false → ∀ now,
    (state.signals.invalidate now adapter address).entries.lookup key =
      state.signals.entries.lookup key
  failed : ∀ now unixTimeMs key token other,
    (state.signals.accept now unixTimeMs key token none).sample other = state.signals.sample other
  invalidated : ∀ now adapter address key,
    (state.signals.invalidate now adapter address).sample key = state.signals.sample key
  suspended : ∀ now key, (state.signals.suspend now).sample key = state.signals.sample key
  /-- A live sample is from a poll that began after everything that disturbed its peer. -/
  live : ∀ before disturbance since key, actions = before ++ disturbance :: since →
    disturbance.disturbs key = true → ∀ now connected reading,
      state.signals.get now key.1 key.2 connected = some reading → reading.live = true →
        ∃ first polled later token answer received,
          since = first ++ .beginPoll ::
            (polled ++ .accept key token answer received reading.lastSeenMs :: later) ∧
          Began (before ++ disturbance :: (first ++ .beginPoll :: polled)) token polled ∧
          (∀ action ∈ polled, action.fences key = false) ∧
          readingOf answer = some (reading.rssi, reading.kind)

theorem fenced_of_run {actions : List Action} {state : State}
    (hrun : system.run system.init actions = some state)
    (hbound : actions.countP Action.retires < UInt64.size) : Fenced actions state where
  stale token since hbegan key hfence now unixTimeMs reading := by
    obtain ⟨action, hmem, hfences⟩ := hfence
    apply Signals.accept_of_not_current
    apply Bool.eq_false_iff.mpr
    intro hcurrent
    have hclear := (current_iff_of_began hrun hbound hbegan key).mp hcurrent action hmem
    rw [hfences] at hclear
    cases hclear
  own token since hbegan key hclear now unixTimeMs reading other := by
    have hcurrent := (current_iff_of_began hrun hbound hbegan key).mpr hclear
    exact state.signals.lookup_accept hcurrent other
  apart adapter address key hcovers now := by
    rw [Signals.lookup_invalidate, hcovers]
    exact Option.map_id_apply
  failed now unixTimeMs key token other :=
    state.signals.sample_accept_none now unixTimeMs key token other
  invalidated now adapter address key := state.signals.sample_invalidate now adapter address key
  suspended now key := state.signals.sample_suspend now key
  live before disturbance since key hactions hdisturbs now connected reading hget hlive := by
    subst hactions
    exact reading_after_disturbance hrun hbound hdisturbs hget hlive

end BtDaemon.Bluez.LinkSignal
