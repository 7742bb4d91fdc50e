import BtDaemon.VendorChannel.Sessions

/-!
# Vendor channel sessions are exclusive and fenced

A link is held from the moment the request handler takes it until the session gives it back,
and the session gives it back last. A replacement therefore finds the vendor handler without
state of the peer, and the cleanup of a session finds nothing that a replacement wrote.
-/

namespace BtDaemon.VendorChannel

open Transition

variable {Value : Type}

structure Fenced (state : State Value) : Prop extends Exclusive state where
  fresh : ∀ serial session, state.sessions.lookup serial = some session → serial < state.spawned
  /-- An address with a stream has no attempt. -/
  apart : ∀ address attempt, state.links.connecting.lookup address = some attempt →
    state.links.connected.lookup address = none
  current : ∀ address attempt, state.links.connecting.lookup address = some attempt →
    (address, attempt.id) ∈ state.granted
  bounded : ∀ entry ∈ state.granted, entry.2.toNat ≤ state.links.nextAttempt.toNat
  stored : ∀ address serial, state.storedBy.lookup address = some serial →
    ∃ phase, phase ≠ .cleaned ∧ state.sessions.lookup serial = some ⟨address, phase⟩
  unstored : ∀ address, state.storedBy.lookup address = none → state.peers.lookup address = none

/-- A step of a session in the given phase. -/
theorem step_session_cases {state next : State Value} {serial : ℕ} :
    (∀ value, step state (.store serial value) = some next ↔ ∃ address,
      state.sessions.lookup serial = some ⟨address, .running⟩ ∧
        state.store serial address value = next) ∧
    (step state (.streamEnded serial) = some next ↔ ∃ address,
      state.sessions.lookup serial = some ⟨address, .running⟩ ∧
        state.setPhase serial address .ending = next) ∧
    (step state (.handlerEnded serial) = some next ↔ ∃ address,
      state.sessions.lookup serial = some ⟨address, .ending⟩ ∧
        state.handlerEnded serial address = next) ∧
    (step state (.ended serial) = some next ↔ ∃ address,
      state.sessions.lookup serial = some ⟨address, .cleaned⟩ ∧
        state.ended serial address = next) := by
  simp only [step]
  cases state.sessions.lookup serial with
  | none => simp
  | some session =>
    obtain ⟨address, phase⟩ := session
    cases phase <;> simp

/-- A step of the request handler. -/
theorem step_requests_cases {state next : State Value} :
    (∀ address, step state (.request address) = some next ↔
      state.requests = .idle ∧ state.request address = next) ∧
    (step state (.acceptRequest true) = some next ↔ ∃ address,
      state.requests = .accepting address ∧ state.spawnSession address = next) ∧
    (step state (.acceptRequest false) = some next ↔ ∃ address,
      state.requests = .accepting address ∧ { state with requests := .failing address } = next) ∧
    (step state .giveBack = some next ↔ ∃ address,
      state.requests = .failing address ∧ state.giveBack address = next) := by
  simp only [step]
  cases state.requests <;> simp

namespace Fenced

variable {state : State Value}

theorem init : Fenced (State.init : State Value) where
  streams address := by
    apply iff_of_false (by simp [State.init, Links.init])
    rintro (hheld | ⟨serial, phase, hsession⟩)
    · cases hheld
    · cases hsession
  session _ _ _ _ _ hfirst := by cases hfirst
  requested _ _ _ hheld := by cases hheld
  granted := List.nodup_nil
  fresh _ _ hsession := by cases hsession
  apart _ _ hattempt := by cases hattempt
  current _ _ hattempt := by cases hattempt
  bounded _ hentry := by cases hentry
  stored _ _ hstored := by cases hstored
  unstored _ _ := rfl

/-! ## Steps on the attempts -/

/-- A step that retires at most an attempt, and no stream. -/
theorem retire (fenced : Fenced state) {address : Address} {links : Links}
    (touches : Links.Touches address state.links links)
    (hconnected : links.connected = state.links.connected) :
    Fenced { state with links := links } :=
  { fenced with
    streams := fun other ↦ by
      rw [hconnected]
      exact fenced.streams other
    apart := fun other attempt hattempt ↦ by
      rw [hconnected]
      exact fenced.apart other attempt (touches.lookup hattempt)
    current := fun other attempt hattempt ↦ fenced.current other attempt (touches.lookup hattempt)
    bounded := fun entry hentry ↦ by
      rw [touches.nextAttempt]
      exact fenced.bounded entry hentry }

theorem begin (fenced : Fenced state) (address : Address) : Fenced (state.begin address) := by
  have hexpired := fenced.retire (Links.touches_expire state.now address)
    (Links.connected_expire state.now address)
  unfold State.begin Links.begin
  have hcases := @Links.start_cases (state.links.expire state.now address) state.now address
  rcases hcases with hrefused | ⟨attempt, hnext, hidle, -, hgranted⟩
  · rw [hrefused]
    exact hexpired
  · rw [hgranted]
    have hnumber := toNat_checkedSucc hnext
    have hnew : ∀ entry ∈ state.granted, entry.2.toNat < attempt.toNat := by
      intro entry hentry
      have hbound := hexpired.bounded entry hentry
      dsimp only at hbound
      omega
    refine { hexpired with
      granted := ?_
      apart := fun other found hfound ↦ ?_
      current := fun other found hfound ↦ ?_
      bounded := fun entry hentry ↦ ?_ }
    · refine List.nodup_cons.mpr ⟨fun hmem ↦ ?_, fenced.granted⟩
      obtain ⟨entry, hentry, hsame⟩ := List.mem_map.mp hmem
      have hless := hnew entry hentry
      rw [hsame] at hless
      exact Nat.lt_irrefl _ hless
    · simp only [Table.lookup_insert] at hfound
      split at hfound
      · next hother =>
        rw [hother]
        exact hidle
      · exact hexpired.apart other found hfound
    · simp only [Table.lookup_insert] at hfound
      split at hfound
      · next hother =>
        rw [hother, ← Option.some.inj hfound]
        exact List.mem_cons_self
      · exact List.mem_cons_of_mem _ (hexpired.current other found hfound)
    · rcases List.mem_cons.mp hentry with rfl | hold
      · exact Nat.le_refl _
      · exact Nat.le_of_lt (hnew entry hold)

/-! ## Steps on the streams -/

theorem request (fenced : Fenced state) (address : Address) (hidle : state.requests = .idle) :
    Fenced (state.request address) := by
  have touches := @Links.touches_erase state.links address _ fun _ _ ↦ rfl
  unfold State.request
  rcases state.links.accept_cases state.now address with ⟨-, hrefused⟩ | ⟨hfree, hadmitted⟩
  · rw [hrefused]
    simp only [Bool.false_eq_true, if_false]
    rw [← hidle]
    exact fenced.retire touches rfl
  · rw [hadmitted]
    simp only [if_true]
    have hdead : ¬ state.Live address := by
      rw [← fenced.streams address, hfree]
      simp
    refine { fenced with
      streams := fun other ↦ ?_
      requested := fun other serial phase hheld hsession ↦ ?_
      apart := fun other attempt hattempt ↦ ?_
      current := fun other attempt hattempt ↦
        fenced.current other attempt (touches.lookup hattempt) }
    · simp only [Table.lookup_insert]
      by_cases hother : other = address
      · rw [hother, if_pos rfl]
        exact iff_of_true rfl (.inl rfl)
      · rw [if_neg hother, fenced.streams other, State.Live, State.Live, hidle]
        refine or_congr (iff_of_false (by simp [RequestHandler.holds]) ?_) Iff.rfl
        exact fun hsame ↦ hother (Option.some.inj hsame).symm
    · rw [← Option.some.inj hheld] at hsession
      exact hdead (.inr ⟨serial, phase, hsession⟩)
    · have hother : other ≠ address := by
        rintro rfl
        simp at hattempt
      simp only [Table.lookup_insert, if_neg hother]
      exact fenced.apart other attempt (touches.lookup hattempt)

theorem spawnSession (fenced : Fenced state) {address : Address}
    (haccepting : state.requests = .accepting address) : Fenced (state.spawnSession address) := by
  have hheld : state.requests.holds = some address := by
    rw [haccepting]
    rfl
  have hlookup : ∀ serial address' phase,
      (state.spawnSession address).sessions.lookup serial = some ⟨address', phase⟩ →
        serial = state.spawned ∧ address' = address ∧ phase = .running ∨
          state.sessions.lookup serial = some ⟨address', phase⟩ := by
    intro serial other phase hsession
    simp only [State.spawnSession, Table.lookup_insert] at hsession
    split at hsession
    · next hserial =>
      cases hsession
      exact .inl ⟨hserial, rfl, rfl⟩
    · exact .inr hsession
  have hkept : ∀ serial session, state.sessions.lookup serial = some session →
      (state.spawnSession address).sessions.lookup serial = some session := by
    intro serial session hsession
    have hless := fenced.fresh serial session hsession
    simp only [State.spawnSession, Table.lookup_insert]
    rwa [if_neg (Nat.ne_of_lt hless)]
  refine { fenced with
    streams := fun other ↦ ?_
    session := fun first second other phase phase' hfirst hsecond ↦ ?_
    requested := fun other serial phase hnone ↦ by cases hnone
    fresh := fun serial session hsession ↦ ?_
    stored := fun other serial hstored ↦ ?_ }
  · refine (fenced.streams other).trans ⟨?_, ?_⟩
    · rintro (hsame | ⟨serial, phase, hsession⟩)
      · obtain rfl := Option.some.inj (hheld.symm.trans hsame)
        exact .inr ⟨state.spawned, .running, by simp [State.spawnSession]⟩
      · exact .inr ⟨serial, phase, hkept _ _ hsession⟩
    · rintro (hnone | ⟨serial, phase, hsession⟩)
      · cases hnone
      · rcases hlookup _ _ _ hsession with ⟨-, rfl, -⟩ | hold
        · exact .inl hheld
        · exact .inr ⟨serial, phase, hold⟩
  · rcases hlookup _ _ _ hfirst with ⟨rfl, rfl, -⟩ | hleft <;>
      rcases hlookup _ _ _ hsecond with ⟨rfl, hother, -⟩ | hright
    · rfl
    · exact absurd hright (fenced.requested _ _ _ hheld)
    · rw [hother] at hleft
      exact absurd hleft (fenced.requested _ _ _ hheld)
    · exact fenced.session _ _ _ _ _ hleft hright
  · obtain ⟨other, phase⟩ := session
    rcases hlookup _ _ _ hsession with ⟨rfl, -, -⟩ | hold
    · exact Nat.lt_succ_self _
    · exact Nat.lt_succ_of_lt (fenced.fresh serial _ hold)
  · obtain ⟨phase, hphase, hsession⟩ := fenced.stored other serial hstored
    exact ⟨phase, hphase, hkept _ _ hsession⟩

/-- The request could not be accepted. -/
theorem failing (fenced : Fenced state) {address : Address}
    (haccepting : state.requests = .accepting address) :
    Fenced { state with requests := .failing address } := by
  have hholds : state.requests.holds = (RequestHandler.failing address).holds := by
    rw [haccepting]
    rfl
  refine { fenced with
    streams := fun other ↦ ?_
    requested := fun other serial phase hheld ↦ ?_ }
  · rw [fenced.streams other, State.Live, State.Live, hholds]
  · exact fenced.requested other serial phase (hholds.trans hheld)

/-- A link is given back by the only one who held it. -/
theorem ended (fenced : Fenced state) {address : Address} {requests : RequestHandler}
    {sessions : Table ℕ Session}
    (hsessions : ∀ serial session, sessions.lookup serial = some session →
      state.sessions.lookup serial = some session)
    (hholds : ∀ other, requests.holds = some other → state.requests.holds = some other)
    (hkept : ∀ other, other ≠ address → state.Live other →
      State.Live { state with requests := requests, sessions := sessions } other)
    (hgone : ¬ State.Live { state with requests := requests, sessions := sessions } address)
    (hstored : ∀ other serial, state.storedBy.lookup other = some serial →
      sessions.lookup serial = state.sessions.lookup serial) :
    Fenced { state with
      links := state.links.ended state.now address
      requests := requests
      sessions := sessions } := by
  have touches := @Links.touches_ended state.links state.now address
  refine { fenced with
    streams := fun other ↦ ?_
    session := fun first second other phase phase' hfirst hsecond ↦
      fenced.session _ _ _ _ _ (hsessions _ _ hfirst) (hsessions _ _ hsecond)
    requested := fun other serial phase hheld hsession ↦
      fenced.requested other serial phase (hholds other hheld) (hsessions _ _ hsession)
    fresh := fun serial session hsession ↦ fenced.fresh _ _ (hsessions _ _ hsession)
    apart := fun other attempt hattempt ↦ ?_
    current := fun other attempt hattempt ↦ fenced.current _ _ (touches.lookup hattempt)
    bounded := fun entry hentry ↦ ?_
    stored := fun other serial hother ↦ ?_ }
  · by_cases hother : other = address
    · rw [hother]
      dsimp only
      rw [Links.connected_ended]
      exact iff_of_false (by simp) hgone
    · dsimp only
      rw [touches.connected other hother, fenced.streams other]
      refine ⟨hkept other hother, ?_⟩
      rintro (hheld | ⟨serial, phase, hsession⟩)
      · exact .inl (hholds other hheld)
      · exact .inr ⟨serial, phase, hsessions _ _ hsession⟩
  · by_cases hother : other = address
    · rw [hother]
      exact Links.connected_ended state.now address
    · exact (touches.connected other hother).trans
        (fenced.apart other attempt (touches.lookup hattempt))
  · rw [touches.nextAttempt]
    exact fenced.bounded entry hentry
  · rw [hstored other serial hother]
    exact fenced.stored other serial hother

theorem giveBack (fenced : Fenced state) {address : Address}
    (hfailing : state.requests = .failing address) : Fenced (state.giveBack address) := by
  have hheld : state.requests.holds = some address := by
    rw [hfailing]
    rfl
  refine fenced.ended (fun _ _ hsession ↦ hsession) (fun _ hnone ↦ by cases hnone) ?_ ?_
    fun _ _ _ ↦ rfl
  · rintro other hother (hsame | hsession)
    · exact absurd (Option.some.inj (hsame.symm.trans hheld)) hother
    · exact .inr hsession
  · rintro (hnone | ⟨serial, phase, hsession⟩)
    · cases hnone
    · exact fenced.requested address serial phase hheld hsession

theorem endSession (fenced : Fenced state) {serial : ℕ} {address : Address}
    (hcleaned : state.sessions.lookup serial = some ⟨address, .cleaned⟩) :
    Fenced (state.ended serial address) := by
  have hlookup : ∀ other, (state.sessions.erase serial).lookup other =
      if other = serial then none else state.sessions.lookup other :=
    Table.lookup_erase state.sessions serial
  apply fenced.ended
  · intro other session hsession
    rw [hlookup] at hsession
    exact (Option.ite_none_left_eq_some.mp hsession).2
  · exact fun _ hheld ↦ hheld
  · rintro other hother (hheld | ⟨owner, phase, hsession⟩)
    · exact .inl hheld
    · refine .inr ⟨owner, phase, ?_⟩
      dsimp only
      rw [hlookup, if_neg, hsession]
      rintro rfl
      rw [hcleaned] at hsession
      cases hsession
      exact hother rfl
  · rintro (hheld | ⟨owner, phase, hsession⟩)
    · exact fenced.requested address serial _ hheld hcleaned
    · dsimp only at hsession
      rw [hlookup] at hsession
      obtain ⟨howner, hold⟩ := Option.ite_none_left_eq_some.mp hsession
      exact howner (fenced.session _ _ _ _ _ hold hcleaned)
  · intro other owner hstored
    obtain ⟨phase, hphase, hsession⟩ := fenced.stored other owner hstored
    rw [hlookup, if_neg]
    rintro rfl
    rw [hcleaned] at hsession
    cases hsession
    exact hphase rfl

/-- A session moves on, after the entries of other sessions were kept. -/
theorem setPhase (fenced : Fenced state) {serial : ℕ} {address : Address} {phase next : Phase}
    {peers : Table Address Value} {storedBy : Table Address ℕ}
    (hsession : state.sessions.lookup serial = some ⟨address, phase⟩)
    (hstored : ∀ other owner, storedBy.lookup other = some owner →
      state.storedBy.lookup other = some owner ∧ (owner = serial → next ≠ .cleaned))
    (hunstored : ∀ other, storedBy.lookup other = none → peers.lookup other = none) :
    Fenced (State.setPhase { state with peers := peers, storedBy := storedBy }
      serial address next) := by
  have hlookup : ∀ other session, (state.sessions.insert serial ⟨address, next⟩).lookup other =
      some session → ∃ old, state.sessions.lookup other = some ⟨session.address, old⟩ := by
    intro other session hother
    rw [Table.lookup_insert] at hother
    split at hother
    · next hserial =>
      rw [hserial, ← Option.some.inj hother]
      exact ⟨phase, hsession⟩
    · exact ⟨session.phase, hother⟩
  have hlive : ∀ other old owner, state.sessions.lookup owner = some ⟨other, old⟩ →
      ∃ later, (state.sessions.insert serial ⟨address, next⟩).lookup owner =
        some ⟨other, later⟩ ∧ (later = old ∨ owner = serial ∧ later = next) := by
    intro other old owner howner
    rw [Table.lookup_insert]
    by_cases hserial : owner = serial
    · rw [hserial, hsession] at howner
      cases howner
      exact ⟨next, if_pos hserial, .inr ⟨hserial, rfl⟩⟩
    · exact ⟨old, (if_neg hserial).trans howner, .inl rfl⟩
  refine { fenced with
    streams := fun other ↦ ?_
    session := fun first second other firstPhase secondPhase hfirst hsecond ↦ ?_
    requested := fun other owner later hheld howner ↦ ?_
    fresh := fun owner session howner ↦ ?_
    stored := fun other owner howner ↦ ?_
    unstored := hunstored }
  · refine (fenced.streams other).trans (or_congr Iff.rfl ⟨?_, ?_⟩)
    · rintro ⟨owner, old, howner⟩
      obtain ⟨later, hlater, -⟩ := hlive other old owner howner
      exact ⟨owner, later, hlater⟩
    · rintro ⟨owner, later, howner⟩
      obtain ⟨old, hold⟩ := hlookup owner _ howner
      exact ⟨owner, old, hold⟩
  · obtain ⟨old, hleft⟩ := hlookup first _ hfirst
    obtain ⟨older, hright⟩ := hlookup second _ hsecond
    exact fenced.session _ _ _ _ _ hleft hright
  · obtain ⟨old, hold⟩ := hlookup owner _ howner
    exact fenced.requested other owner old hheld hold
  · obtain ⟨old, hold⟩ := hlookup owner session howner
    exact fenced.fresh owner _ hold
  · obtain ⟨hkept, hnext⟩ := hstored other owner howner
    obtain ⟨old, hphase, hold⟩ := fenced.stored other owner hkept
    obtain ⟨later, hlater, hsame | ⟨hserial, hmoved⟩⟩ := hlive other old owner hold
    · exact ⟨later, hsame ▸ hphase, hlater⟩
    · exact ⟨later, hmoved ▸ hnext hserial, hlater⟩

theorem streamEnded (fenced : Fenced state) {serial : ℕ} {address : Address}
    (hrunning : state.sessions.lookup serial = some ⟨address, .running⟩) :
    Fenced (state.setPhase serial address .ending) := by
  apply fenced.setPhase hrunning
  · exact fun other owner howner ↦ ⟨howner, fun _ ↦ by decide⟩
  · exact fenced.unstored

theorem handlerEnded (fenced : Fenced state) {serial : ℕ} {address : Address}
    (hending : state.sessions.lookup serial = some ⟨address, .ending⟩) :
    Fenced (state.handlerEnded serial address) := by
  apply fenced.setPhase hending
  · intro other owner howner
    rw [Table.lookup_erase] at howner
    obtain ⟨hother, hold⟩ := Option.ite_none_left_eq_some.mp howner
    refine ⟨hold, ?_⟩
    rintro rfl
    obtain ⟨phase, -, hsession⟩ := fenced.stored other owner hold
    rw [hending] at hsession
    cases hsession
    exact absurd rfl hother
  · intro other hnone
    rw [Table.lookup_erase] at hnone ⊢
    split
    · rfl
    · next hother =>
      rw [if_neg hother] at hnone
      exact fenced.unstored other hnone

theorem store (fenced : Fenced state) {serial : ℕ} {address : Address} (value : Value)
    (hrunning : state.sessions.lookup serial = some ⟨address, .running⟩) :
    Fenced (state.store serial address value) := by
  refine { fenced with
    stored := fun other owner howner ↦ ?_
    unstored := fun other hnone ↦ ?_ }
  · simp only [State.store, Table.lookup_insert] at howner
    split at howner
    · next hother =>
      rw [hother, ← Option.some.inj howner]
      exact ⟨.running, by decide, hrunning⟩
    · exact fenced.stored other owner howner
  · simp only [State.store, Table.lookup_insert] at hnone ⊢
    split
    · next hother =>
      rw [if_pos hother] at hnone
      cases hnone
    · next hother =>
      rw [if_neg hother] at hnone
      exact fenced.unstored other hnone

theorem step (fenced : Fenced state) {action : Action Value} {next : State Value}
    (hstep : step state action = some next) : Fenced next := by
  cases action with
  | advance elapsed =>
    rw [← Option.some.inj hstep]
    exact { fenced with }
  | begin address =>
    rw [← Option.some.inj hstep]
    exact fenced.begin address
  | reset address =>
    rw [← Option.some.inj hstep]
    exact fenced.retire (Links.touches_reset address) rfl
  | connectFailed address attempt busy =>
    obtain ⟨-, hnext⟩ := Option.ite_none_right_eq_some.mp hstep
    rw [← Option.some.inj hnext]
    exact fenced.retire (Links.touches_connectFailed state.now address attempt busy)
      (Links.connected_connectFailed state.now address attempt busy)
  | request address =>
    obtain ⟨hidle, rfl⟩ := (step_requests_cases.1 address).mp hstep
    exact fenced.request address hidle
  | acceptRequest succeeds =>
    cases succeeds with
    | true =>
      obtain ⟨address, haccepting, rfl⟩ := step_requests_cases.2.1.mp hstep
      exact fenced.spawnSession haccepting
    | false =>
      obtain ⟨address, haccepting, rfl⟩ := step_requests_cases.2.2.1.mp hstep
      exact fenced.failing haccepting
  | giveBack =>
    obtain ⟨address, hfailing, rfl⟩ := step_requests_cases.2.2.2.mp hstep
    exact fenced.giveBack hfailing
  | store serial value =>
    obtain ⟨address, hsession, rfl⟩ := (step_session_cases.1 value).mp hstep
    exact fenced.store value hsession
  | streamEnded serial =>
    obtain ⟨address, hsession, rfl⟩ := step_session_cases.2.1.mp hstep
    exact fenced.streamEnded hsession
  | handlerEnded serial =>
    obtain ⟨address, hsession, rfl⟩ := step_session_cases.2.2.1.mp hstep
    exact fenced.handlerEnded hsession
  | ended serial =>
    obtain ⟨address, hsession, rfl⟩ := step_session_cases.2.2.2.mp hstep
    exact fenced.endSession hsession

/-! ## What a step respects -/

/-- The attempts after a step were there before, or have a number that was never granted. -/
theorem old_of_grown (fenced : Fenced state) {next : State Value}
    (hgranted : ∀ entry ∈ state.granted, entry ∈ next.granted)
    (hgrown : ∀ address attempt, next.links.connecting.lookup address = some attempt →
      state.links.connecting.lookup address = some attempt ∨
        state.links.nextAttempt.toNat < attempt.id.toNat)
    {address : Address} {attempt : UInt64} (hold : state.Old address attempt) :
    next.Old address attempt := by
  obtain ⟨hmem, hretired⟩ := hold
  refine ⟨hgranted _ hmem, ?_⟩
  unfold Links.isCurrent at hretired ⊢
  cases hlookup : next.links.connecting.lookup address with
  | none => rfl
  | some current =>
    rw [Option.any_some, beq_eq_false_iff_ne]
    rintro rfl
    rcases hgrown address current hlookup with hsame | hnew
    · simp [hsame] at hretired
    · exact Nat.not_lt.mpr (fenced.bounded _ hmem) hnew

theorem old_of_touches (fenced : Fenced state) {next : State Value} {touched : Address}
    {links : Links} (touches : Links.Touches touched state.links links)
    (hnext : next = { next with links := links, granted := state.granted }) {address : Address}
    {attempt : UInt64} (hold : state.Old address attempt) : next.Old address attempt := by
  rw [hnext]
  apply fenced.old_of_grown _ _ hold
  · exact fun _ hentry ↦ hentry
  · exact fun _ _ hlookup ↦ .inl (touches.lookup hlookup)

theorem old_begin (fenced : Fenced state) (touched : Address) {address : Address}
    {attempt : UInt64} (hold : state.Old address attempt) :
    (state.begin touched).Old address attempt := by
  have touches := @Links.touches_expire state.links state.now touched
  unfold State.begin Links.begin
  have hcases := @Links.start_cases (state.links.expire state.now touched) state.now touched
  rcases hcases with hrefused | ⟨number, hnext, -, -, hgranted⟩
  · rw [hrefused]
    exact fenced.old_of_touches touches rfl hold
  · rw [hgranted]
    apply fenced.old_of_grown (fun _ hentry ↦ List.mem_cons_of_mem _ hentry) _ hold
    intro other current hlookup
    simp only [Table.lookup_insert] at hlookup
    split at hlookup
    · have hnumber := toNat_checkedSucc hnext
      rw [touches.nextAttempt] at hnumber
      rw [← Option.some.inj hlookup]
      exact .inr (by dsimp only; omega)
    · exact .inl (touches.lookup hlookup)

theorem old (fenced : Fenced state) {action : Action Value} {next : State Value}
    (hstep : VendorChannel.step state action = some next) {address : Address} {attempt : UInt64}
    (hold : state.Old address attempt) : next.Old address attempt := by
  cases action with
  | begin touched =>
    rw [← Option.some.inj hstep]
    exact fenced.old_begin touched hold
  | advance elapsed =>
    rw [← Option.some.inj hstep]
    exact hold
  | reset touched =>
    rw [← Option.some.inj hstep]
    exact fenced.old_of_touches (Links.touches_reset touched) rfl hold
  | connectFailed touched failed busy =>
    obtain ⟨-, hnext⟩ := Option.ite_none_right_eq_some.mp hstep
    rw [← Option.some.inj hnext]
    exact fenced.old_of_touches
      (Links.touches_connectFailed state.now touched failed busy) rfl hold
  | request touched =>
    obtain ⟨-, rfl⟩ := (step_requests_cases.1 touched).mp hstep
    have hattempts : ∀ other current,
        (state.request touched).links.connecting.lookup other = some current →
          state.links.connecting.lookup other = some current := by
      intro other current hlookup
      unfold State.request at hlookup
      rcases state.links.accept_cases state.now touched with ⟨-, hcase⟩ | ⟨-, hcase⟩ <;>
      · rw [hcase] at hlookup
        simp only [Table.lookup_erase] at hlookup
        exact (Option.ite_none_left_eq_some.mp hlookup).2
    apply fenced.old_of_grown _ _ hold
    · exact fun _ hentry ↦ hentry
    · exact fun _ _ hlookup ↦ .inl (hattempts _ _ hlookup)
  | acceptRequest succeeds =>
    cases succeeds with
    | true =>
      obtain ⟨touched, -, rfl⟩ := step_requests_cases.2.1.mp hstep
      exact hold
    | false =>
      obtain ⟨touched, -, rfl⟩ := step_requests_cases.2.2.1.mp hstep
      exact hold
  | giveBack =>
    obtain ⟨touched, -, rfl⟩ := step_requests_cases.2.2.2.mp hstep
    exact fenced.old_of_touches (Links.touches_ended state.now touched) rfl hold
  | store serial value =>
    obtain ⟨touched, -, rfl⟩ := (step_session_cases.1 value).mp hstep
    exact hold
  | streamEnded serial =>
    obtain ⟨touched, -, rfl⟩ := step_session_cases.2.1.mp hstep
    exact hold
  | handlerEnded serial =>
    obtain ⟨touched, -, rfl⟩ := step_session_cases.2.2.1.mp hstep
    exact hold
  | ended serial =>
    obtain ⟨touched, -, rfl⟩ := step_session_cases.2.2.2.mp hstep
    exact fenced.old_of_touches (Links.touches_ended state.now touched) rfl hold

/-- An address without a stream has no state of the vendor handler either. -/
theorem peers_of_not_live (fenced : Fenced state) {address : Address}
    (hdead : ¬ state.Live address) : state.peers.lookup address = none := by
  apply fenced.unstored
  cases hstored : state.storedBy.lookup address with
  | none => rfl
  | some serial =>
    obtain ⟨phase, -, hsession⟩ := fenced.stored address serial hstored
    exact absurd (.inr ⟨serial, phase, hsession⟩) hdead

/-- Only a request takes the link, and it finds no live stream. -/
theorem accepted (fenced : Fenced state) {action : Action Value} {next : State Value}
    (hstep : VendorChannel.step state action = some next) {address : Address}
    (hidle : state.requests = .idle) (haccepting : next.requests = .accepting address) :
    ¬ state.Live address := by
  have hkept : next.requests ≠ state.requests := by
    rw [hidle, haccepting]
    exact fun hsame ↦ by cases hsame
  cases action with
  | request touched =>
    obtain ⟨-, rfl⟩ := (step_requests_cases.1 touched).mp hstep
    unfold State.request at haccepting
    rcases state.links.accept_cases state.now touched with ⟨-, hcase⟩ | ⟨hfree, hcase⟩
    · rw [hcase] at haccepting
      cases haccepting
    · rw [hcase] at haccepting
      cases haccepting
      rw [← fenced.streams address, hfree]
      simp
  | acceptRequest succeeds => simp [VendorChannel.step, hidle] at hstep
  | giveBack => simp [VendorChannel.step, hidle] at hstep
  | advance | begin | reset =>
    rw [← Option.some.inj hstep] at hkept
    exact absurd rfl hkept
  | connectFailed =>
    obtain ⟨-, hnext⟩ := Option.ite_none_right_eq_some.mp hstep
    rw [← Option.some.inj hnext] at hkept
    exact absurd rfl hkept
  | store serial value =>
    obtain ⟨touched, -, rfl⟩ := (step_session_cases.1 value).mp hstep
    exact absurd rfl hkept
  | streamEnded serial =>
    obtain ⟨touched, -, rfl⟩ := step_session_cases.2.1.mp hstep
    exact absurd rfl hkept
  | handlerEnded serial =>
    obtain ⟨touched, -, rfl⟩ := step_session_cases.2.2.1.mp hstep
    exact absurd rfl hkept
  | ended serial =>
    obtain ⟨touched, -, rfl⟩ := step_session_cases.2.2.2.mp hstep
    exact absurd rfl hkept

theorem respects (fenced : Fenced state) {action : Action Value} {next : State Value}
    (hstep : VendorChannel.step state action = some next) : Respects state action next where
  old _ _ hold := fenced.old hstep hold
  failure address attempt busy haction hold := by
    subst haction
    obtain ⟨-, hnext⟩ := Option.ite_none_right_eq_some.mp hstep
    rw [← Option.some.inj hnext, Links.connectFailed_of_not_current hold.2]
  confined address attempt busy haction := by
    subst haction
    obtain ⟨-, hnext⟩ := Option.ite_none_right_eq_some.mp hstep
    rw [← Option.some.inj hnext]
    exact ⟨Links.touches_connectFailed state.now address attempt busy,
      Links.connected_connectFailed state.now address attempt busy⟩
  reset address haction := by
    subst haction
    rw [← Option.some.inj hstep]
    exact ⟨rfl, rfl, rfl⟩
  accepted address hidle haccepting := by
    have hdead := fenced.accepted hstep hidle haccepting
    exact ⟨hdead, fenced.peers_of_not_live hdead⟩
  cleanup serial haction address owner hstored howner := by
    subst haction
    obtain ⟨cleaned, hending, rfl⟩ := step_session_cases.2.2.1.mp hstep
    change (state.peers.erase cleaned).lookup address = _
    rw [Table.lookup_erase, if_neg]
    rintro rfl
    obtain ⟨phase, -, hsession⟩ := fenced.stored address owner hstored
    exact howner (fenced.session _ _ _ _ _ hsession hending)

theorem of_reachable (hreach : (channels Value).Reachable state) : Fenced state :=
  hreach.invariant init fun _ _ _ fenced hstep ↦ fenced.step hstep

end Fenced

/-- In every interleaving the sessions are exclusive, and every step respects the attempts, the
streams and the state of other sessions. -/
theorem sessions_exclusive_and_fenced {state : State Value}
    (hreach : (channels Value).Reachable state) :
    Exclusive state ∧ ∀ action next, (channels Value).step state action = some next →
      Respects state action next := by
  have fenced := Fenced.of_reachable hreach
  exact ⟨fenced.toExclusive, fun _ _ hstep ↦ fenced.respects hstep⟩

/-- A replacement is accepted after the session of an earlier stream gave its link back. -/
theorem sessions_exclusive_and_fenced_replacement :
    ∃ state, (channels ℕ).Reachable state ∧ Exclusive state ∧
      state.requests = .accepting 7 ∧ state.peers.lookup 7 = none := by
  have hreach : (channels ℕ).Reachable _ :=
    ⟨[.begin 7, .request 7, .acceptRequest true, .store 0 5, .streamEnded 0, .handlerEnded 0,
      .ended 0, .connectFailed 7 1 true, .request 7], rfl⟩
  exact ⟨_, hreach, (sessions_exclusive_and_fenced hreach).1, by decide, by decide⟩

end BtDaemon.VendorChannel
