import BtDaemon.FastPair.Commands
import BtDaemon.Foundation.Transition

/-!
# Reservations and their waiters

Every reservation is given with the receiver of its reply. Senders stand in the map of pending
commands and are taken out by the acknowledgement of their key, by a disconnect, by a reset, or
when the reservation is dropped, in any order and at any time. A generation is given once, and
so it names the reservation, the sender and the receiver.
-/

namespace BtDaemon.FastPair.Reservations

abbrev Reply := Except String Unit

inductive Action
  | reserve (key : CommandKey)
  | resolve (key : CommandKey) (reply : Reply)
  | disconnect (address : Address)
  | clear
  /-- `Reservation::drop` -/
  | drop (key : CommandKey) (generation : ℕ)
  /-- The receiver is dropped. -/
  | leave (generation : ℕ)

structure State where
  commands : PendingCommands
  /-- Every reservation that was ever given. -/
  given : List (CommandKey × ℕ)
  /-- The reservations that were not dropped. -/
  live : List (CommandKey × ℕ)
  /-- The receivers that were not dropped. -/
  waiting : List ℕ
  /-- What the receivers got. -/
  received : List (ℕ × Reply)

def init : State := ⟨PendingCommands.init, [], [], [], []⟩

/-- `fetch_update` with `checked_add` on a `u64`: the new value, and the old one on success. -/
def fetchUpdate (sequence : ℕ) : ℕ × Option ℕ :=
  if sequence = 2 ^ 64 - 1 then (sequence, none) else (sequence + 1, some sequence)

/-- `PendingCommands::reserve` as it changes the state. -/
def reserve (commands : PendingCommands) (key : CommandKey) :
    PendingCommands × Except String ℕ :=
  if (commands.entries.lookup key).isSome then
    (commands, .error "a matching Fast Pair control command is already pending")
  else
    match fetchUpdate commands.sequence with
    | (sequence, none) => ({ commands with sequence }, .error "Fast Pair command generation exhausted")
    | (sequence, some generation) =>
      (⟨sequence, commands.entries.insert key generation⟩, .ok generation)

/-- `sender.send(result)`: a receiver that was dropped gets nothing. -/
def send (state : State) (generation : ℕ) (reply : Reply) : State :=
  if generation ∈ state.waiting then
    { state with
      waiting := state.waiting.erase generation
      received := state.received ++ [(generation, reply)] }
  else state

def step (state : State) : Action → Option State
  | .reserve key =>
    match reserve state.commands key with
    | (commands, .error _) => some { state with commands }
    | (commands, .ok generation) =>
      some { state with
        commands
        given := state.given ++ [(key, generation)]
        live := state.live ++ [(key, generation)]
        waiting := state.waiting ++ [generation] }
  | .resolve key reply =>
    match state.commands.resolve key with
    | (commands, none) => some { state with commands }
    | (commands, some generation) => some (send { state with commands } generation reply)
  | .disconnect address => some { state with commands := state.commands.disconnect address }
  | .clear => some { state with commands := state.commands.clear }
  | .drop key generation =>
    if (key, generation) ∈ state.live then
      some { state with
        commands := state.commands.release key generation
        live := state.live.erase (key, generation) }
    else none
  | .leave generation =>
    if generation ∈ state.waiting then
      some { state with waiting := state.waiting.erase generation }
    else none

def system : Transition.System State Action := ⟨init, step⟩

/-! ## What one operation does -/

/-- A refused `reserve` changes nothing. -/
theorem reserve_error {commands next : PendingCommands} {key : CommandKey} {error : String}
    (hreserve : reserve commands key = (next, .error error)) : next = commands := by
  rw [reserve] at hreserve
  split at hreserve
  · exact (Prod.mk.inj hreserve).1.symm
  · rw [fetchUpdate] at hreserve
    split at hreserve
    · next sequence hfetch =>
      split at hfetch
      · rw [← (Prod.mk.inj hfetch).1] at hreserve
        exact (Prod.mk.inj hreserve).1.symm
      · cases hfetch
    · cases hreserve

theorem reserve_ok {commands next : PendingCommands} {key : CommandKey} {generation : ℕ}
    (hreserve : reserve commands key = (next, .ok generation)) :
    commands.entries.lookup key = none ∧ generation = commands.sequence ∧
      next = ⟨commands.sequence + 1, commands.entries.insert key commands.sequence⟩ := by
  rw [reserve] at hreserve
  split at hreserve
  · cases hreserve
  · next hvacant =>
    rw [fetchUpdate] at hreserve
    split at hreserve
    · cases hreserve
    · next sequence previous hfetch =>
      split at hfetch
      · cases hfetch
      · obtain ⟨rfl, hprevious⟩ := Prod.mk.inj hfetch
        obtain rfl := Option.some.inj hprevious
        obtain ⟨rfl, hgeneration⟩ := Prod.mk.inj hreserve
        refine ⟨Option.not_isSome_iff_eq_none.mp hvacant, ?_, rfl⟩
        exact (Except.ok.inj hgeneration).symm

/-- The state that `reserve` leaves is the one that is modelled as its result. -/
theorem reserve_eq (commands : PendingCommands) (key : CommandKey) :
    commands.reserve key = (reserve commands key).2.map fun generation ↦
      ((reserve commands key).1, generation) := by
  rw [PendingCommands.reserve, reserve, fetchUpdate]
  by_cases hoccupied : (commands.entries.lookup key).isSome = true
  · rw [if_pos hoccupied, if_pos hoccupied]
    rfl
  · rw [if_neg hoccupied, if_neg hoccupied]
    by_cases hexhausted : commands.sequence = 2 ^ 64 - 1
    · rw [if_pos hexhausted, if_pos hexhausted]
      rfl
    · rw [if_neg hexhausted, if_neg hexhausted]
      rfl

theorem lookup_release {commands : PendingCommands} {key other : CommandKey} {generation found : ℕ}
    (hlookup : (commands.release key generation).entries.lookup other = some found) :
    commands.entries.lookup other = some found ∧ (other, found) ≠ (key, generation) := by
  rw [PendingCommands.release] at hlookup
  split at hlookup
  · next hown =>
    obtain ⟨hother, hlookup⟩ := Table.lookup_erase_eq_some.mp hlookup
    refine ⟨hlookup, ?_⟩
    rintro ⟨⟩
    exact hother rfl
  · next hforeign =>
    refine ⟨hlookup, ?_⟩
    rintro ⟨⟩
    exact hforeign hlookup

theorem lookup_resolve {commands : PendingCommands} {key other : CommandKey} {found : ℕ}
    (hlookup : (commands.resolve key).1.entries.lookup other = some found) :
    other ≠ key ∧ commands.entries.lookup other = some found := by
  obtain ⟨hother, hlookup⟩ := Table.lookup_erase_eq_some.mp hlookup
  exact ⟨hother, hlookup⟩

theorem lookup_disconnect {commands : PendingCommands} {address : Address} {key : CommandKey}
    {found : ℕ} (hlookup : (commands.disconnect address).entries.lookup key = some found) :
    commands.entries.lookup key = some found := by
  rw [PendingCommands.lookup_disconnect] at hlookup
  split at hlookup
  · cases hlookup
  · exact hlookup

/-! ## What holds in every state -/

structure Invariant (state : State) : Prop where
  entry_live : ∀ key generation, state.commands.entries.lookup key = some generation →
    (key, generation) ∈ state.live
  live_given : ∀ reservation ∈ state.live, reservation ∈ state.given
  given_below : ∀ reservation ∈ state.given, reservation.2 < state.commands.sequence
  given_increasing : (state.given.map Prod.snd).Pairwise (· < ·)
  waiting_below : ∀ generation ∈ state.waiting, generation < state.commands.sequence
  waiting_nodup : state.waiting.Nodup
  received_below : ∀ pair ∈ state.received, pair.1 < state.commands.sequence
  received_done : ∀ pair ∈ state.received, pair.1 ∉ state.waiting
  received_nodup : (state.received.map Prod.fst).Nodup

theorem invariant_init : Invariant init where
  entry_live _ _ hlookup := by cases hlookup
  live_given _ hmem := by cases hmem
  given_below _ hmem := by cases hmem
  given_increasing := List.Pairwise.nil
  waiting_below _ hmem := by cases hmem
  waiting_nodup := List.nodup_nil
  received_below _ hmem := by cases hmem
  received_done _ hmem := by cases hmem
  received_nodup := List.nodup_nil

/-- Taking senders out of the map, and nothing else, keeps what holds. -/
theorem Invariant.shrink {state : State} (hstate : Invariant state) {commands : PendingCommands}
    (hsequence : commands.sequence = state.commands.sequence)
    (hentries : ∀ key generation, commands.entries.lookup key = some generation →
      state.commands.entries.lookup key = some generation) :
    Invariant { state with commands } where
  entry_live key generation hlookup :=
    hstate.entry_live key generation (hentries key generation hlookup)
  live_given := hstate.live_given
  given_below reservation hmem := by
    rw [hsequence]
    exact hstate.given_below reservation hmem
  given_increasing := hstate.given_increasing
  waiting_below generation hmem := by
    rw [hsequence]
    exact hstate.waiting_below generation hmem
  waiting_nodup := hstate.waiting_nodup
  received_below pair hmem := by
    rw [hsequence]
    exact hstate.received_below pair hmem
  received_done := hstate.received_done
  received_nodup := hstate.received_nodup

theorem Invariant.leave {state : State} (hstate : Invariant state) (generation : ℕ) :
    Invariant { state with waiting := state.waiting.erase generation } where
  entry_live := hstate.entry_live
  live_given := hstate.live_given
  given_below := hstate.given_below
  given_increasing := hstate.given_increasing
  waiting_below other hmem := hstate.waiting_below other (List.mem_of_mem_erase hmem)
  waiting_nodup := hstate.waiting_nodup.erase generation
  received_below := hstate.received_below
  received_done pair hmem hwaiting :=
    hstate.received_done pair hmem (List.mem_of_mem_erase hwaiting)
  received_nodup := hstate.received_nodup

theorem Invariant.send {state : State} (hstate : Invariant state) (generation : ℕ)
    (reply : Reply) : Invariant (send state generation reply) := by
  rw [Reservations.send]
  split
  · next hwaiting =>
    have hleft := hstate.leave generation
    constructor
    · exact hleft.entry_live
    · exact hleft.live_given
    · exact hleft.given_below
    · exact hleft.given_increasing
    · exact hleft.waiting_below
    · exact hleft.waiting_nodup
    · intro pair hmem
      rcases List.mem_append.mp hmem with hold | hnew
      · exact hstate.received_below pair hold
      · rw [List.mem_singleton.mp hnew]
        exact hstate.waiting_below generation hwaiting
    · intro pair hmem hstill
      rcases List.mem_append.mp hmem with hold | hnew
      · exact hleft.received_done pair hold hstill
      · rw [List.mem_singleton.mp hnew] at hstill
        exact hstate.waiting_nodup.not_mem_erase hstill
    · rw [List.map_append]
      apply hstate.received_nodup.append (List.nodup_singleton generation)
      intro other hold hnew
      obtain ⟨pair, hpair, rfl⟩ := List.mem_map.mp hold
      have hsame : pair.1 = generation := List.mem_singleton.mp hnew
      exact hstate.received_done pair hpair (hsame ▸ hwaiting)
  · exact hstate

theorem Invariant.reserve {state : State} (hstate : Invariant state) {key : CommandKey} :
    Invariant
      { state with
        commands := ⟨state.commands.sequence + 1,
          state.commands.entries.insert key state.commands.sequence⟩
        given := state.given ++ [(key, state.commands.sequence)]
        live := state.live ++ [(key, state.commands.sequence)]
        waiting := state.waiting ++ [state.commands.sequence] } := by
  constructor
  · intro other generation hlookup
    dsimp only at hlookup
    rw [Table.lookup_insert] at hlookup
    split at hlookup
    · next hkey =>
      rw [hkey, ← Option.some.inj hlookup]
      exact List.mem_append_right _ List.mem_cons_self
    · exact List.mem_append_left _ (hstate.entry_live other generation hlookup)
  · intro reservation hmem
    rcases List.mem_append.mp hmem with hold | hnew
    · exact List.mem_append_left _ (hstate.live_given reservation hold)
    · exact List.mem_append_right _ hnew
  · intro reservation hmem
    rcases List.mem_append.mp hmem with hold | hnew
    · exact Nat.lt_succ_of_lt (hstate.given_below reservation hold)
    · rw [List.mem_singleton.mp hnew]
      exact Nat.lt_succ_self _
  · rw [List.map_append]
    apply List.pairwise_append.mpr
    refine ⟨hstate.given_increasing, List.pairwise_singleton _ _, ?_⟩
    intro earlier hearlier later hlater
    obtain ⟨reservation, hgiven, rfl⟩ := List.mem_map.mp hearlier
    rw [List.mem_singleton.mp hlater]
    exact hstate.given_below reservation hgiven
  · intro generation hmem
    rcases List.mem_append.mp hmem with hold | hnew
    · exact Nat.lt_succ_of_lt (hstate.waiting_below generation hold)
    · rw [List.mem_singleton.mp hnew]
      exact Nat.lt_succ_self _
  · apply hstate.waiting_nodup.append (List.nodup_singleton _)
    intro generation hold hnew
    rw [List.mem_singleton.mp hnew] at hold
    exact Nat.lt_irrefl _ (hstate.waiting_below _ hold)
  · intro pair hmem
    exact Nat.lt_succ_of_lt (hstate.received_below pair hmem)
  · intro pair hmem hwaiting
    rcases List.mem_append.mp hwaiting with hold | hnew
    · exact hstate.received_done pair hmem hold
    · exact Nat.ne_of_lt (hstate.received_below pair hmem) (List.mem_singleton.mp hnew)
  · exact hstate.received_nodup

theorem Invariant.drop {state : State} (hstate : Invariant state) (key : CommandKey)
    (generation : ℕ) :
    Invariant
      { state with
        commands := state.commands.release key generation
        live := state.live.erase (key, generation) } := by
  have hsequence : (state.commands.release key generation).sequence = state.commands.sequence := by
    rw [PendingCommands.release]
    split <;> rfl
  have hshrunk := hstate.shrink hsequence fun other found hlookup ↦ (lookup_release hlookup).1
  constructor
  · intro other found hlookup
    obtain ⟨hentry, hne⟩ := lookup_release hlookup
    exact (List.mem_erase_of_ne hne).mpr (hstate.entry_live other found hentry)
  · intro reservation hmem
    exact hstate.live_given reservation (List.mem_of_mem_erase hmem)
  · exact hshrunk.given_below
  · exact hshrunk.given_increasing
  · exact hshrunk.waiting_below
  · exact hshrunk.waiting_nodup
  · exact hshrunk.received_below
  · exact hshrunk.received_done
  · exact hshrunk.received_nodup

theorem step_invariant (state : State) (action : Action) (next : State) (hstate : Invariant state)
    (hstep : system.step state action = some next) : Invariant next := by
  change step state action = some next at hstep
  cases action with
  | reserve key =>
    rw [step] at hstep
    rcases hreserve : reserve state.commands key with ⟨commands, error | generation⟩
    · rw [hreserve] at hstep
      obtain rfl := Option.some.inj hstep
      rw [reserve_error hreserve]
      exact hstate
    · obtain ⟨-, rfl, rfl⟩ := reserve_ok hreserve
      rw [hreserve] at hstep
      obtain rfl := Option.some.inj hstep
      exact hstate.reserve
  | resolve key reply =>
    have hshrunk : Invariant { state with commands := (state.commands.resolve key).1 } :=
      hstate.shrink rfl fun other found hlookup ↦ (lookup_resolve hlookup).2
    rw [step] at hstep
    rcases hresolve : state.commands.resolve key with ⟨commands, _ | generation⟩
    · rw [hresolve] at hstep hshrunk
      obtain rfl := Option.some.inj hstep
      exact hshrunk
    · rw [hresolve] at hstep hshrunk
      obtain rfl := Option.some.inj hstep
      exact hshrunk.send generation reply
  | disconnect address =>
    obtain rfl := Option.some.inj hstep
    exact hstate.shrink rfl fun key found hlookup ↦ lookup_disconnect hlookup
  | clear =>
    obtain rfl := Option.some.inj hstep
    apply @Invariant.shrink state hstate state.commands.clear rfl
    intro key found hlookup
    cases hlookup
  | drop key generation =>
    rw [step] at hstep
    split at hstep
    · obtain rfl := Option.some.inj hstep
      exact hstate.drop key generation
    · cases hstep
  | leave generation =>
    rw [step] at hstep
    split at hstep
    · obtain rfl := Option.some.inj hstep
      exact hstate.leave generation
    · cases hstep

/-! ## What waiters can rely on -/

/-- Reservations, entries and replies are paired. -/
structure Paired (state : State) : Prop where
  /-- One entry per key. -/
  unique : state.commands.entries.keys.Nodup
  entry_live : ∀ key generation, state.commands.entries.lookup key = some generation →
    (key, generation) ∈ state.live
  generations : (state.given.map Prod.snd).Nodup
  replies : (state.received.map Prod.fst).Nodup
  empty : state.live = [] → state.commands.entries = ∅

/-- What one operation does to the entries and the replies of others. -/
structure Respects (state : State) (action : Action) (next : State) : Prop where
  /-- Dropping a reservation leaves the entry of every other one. -/
  drop : ∀ key generation, action = .drop key generation → ∀ other newer, newer ≠ generation →
    state.commands.entries.lookup other = some newer →
    next.commands.entries.lookup other = some newer
  /-- A reply comes from a `resolve` of the key that the waiter has its entry under. -/
  reply : next.received = state.received ∨
    ∃ key reply generation, action = .resolve key reply ∧
      state.commands.entries.lookup key = some generation ∧ (key, generation) ∈ state.given ∧
      next.received = state.received ++ [(generation, reply)]
  refused : ∀ key error, action = .reserve key → (reserve state.commands key).2 = .error error →
    next = state

theorem Invariant.paired {state : State} (hstate : Invariant state) : Paired state where
  unique := state.commands.entries.nodupKeys
  entry_live := hstate.entry_live
  generations := hstate.given_increasing.imp fun hless ↦ Nat.ne_of_lt hless
  replies := hstate.received_nodup
  empty hnone := by
    apply AList.ext
    apply List.eq_nil_iff_forall_not_mem.mpr
    rintro ⟨key, generation⟩ hmem
    have hlive := hstate.entry_live key generation ((Table.mem_entries _ _ _).mp hmem)
    rw [hnone] at hlive
    cases hlive

theorem received_send (state : State) (generation : ℕ) (reply : Reply) :
    (send state generation reply).received = state.received ∨
      (send state generation reply).received = state.received ++ [(generation, reply)] := by
  rw [send]
  split
  · exact Or.inr rfl
  · exact Or.inl rfl

/-- The guard removes its own entry and no other. -/
theorem lookup_release_of_newer {commands : PendingCommands} {other : CommandKey} {newer : ℕ}
    (hlookup : commands.entries.lookup other = some newer) {generation : ℕ}
    (hnewer : newer ≠ generation) (key : CommandKey) :
    (commands.release key generation).entries.lookup other = some newer := by
  rw [PendingCommands.release]
  split
  · next hown =>
    have hother : other ≠ key := by
      rintro rfl
      rw [hown] at hlookup
      exact hnewer (Option.some.inj hlookup).symm
    rw [Table.lookup_erase, if_neg hother]
    exact hlookup
  · exact hlookup

theorem drop_spares {state next : State} {key : CommandKey} {generation : ℕ}
    (hstep : step state (.drop key generation) = some next) {other : CommandKey} {newer : ℕ}
    (hnewer : newer ≠ generation) (hlookup : state.commands.entries.lookup other = some newer) :
    next.commands.entries.lookup other = some newer := by
  rw [step] at hstep
  split at hstep
  · obtain rfl := Option.some.inj hstep
    exact lookup_release_of_newer hlookup hnewer key
  · cases hstep

/-- A refused reservation leaves everything as it is. -/
theorem reserve_refused {state next : State} {key : CommandKey} {error : String}
    (hstep : step state (.reserve key) = some next)
    (hrefused : (reserve state.commands key).2 = .error error) : next = state := by
  rcases hreserve : reserve state.commands key with ⟨commands, other | generation⟩
  · rw [step, hreserve] at hstep
    obtain rfl := Option.some.inj hstep
    rw [reserve_error hreserve]
  · rw [hreserve] at hrefused
    cases hrefused

theorem Invariant.received_of_resolve {state next : State} (hstate : Invariant state)
    {key : CommandKey} {reply : Reply} (hstep : step state (.resolve key reply) = some next) :
    next.received = state.received ∨
      ∃ generation, state.commands.entries.lookup key = some generation ∧
        (key, generation) ∈ state.given ∧
        next.received = state.received ++ [(generation, reply)] := by
  rw [step] at hstep
  split at hstep
  · rw [← Option.some.inj hstep]
    exact Or.inl rfl
  · next commands generation hresolve =>
    have hentry : state.commands.entries.lookup key = some generation :=
      (Prod.mk.inj hresolve).2
    obtain rfl := Option.some.inj hstep
    rcases received_send { state with commands } generation reply with hsame | hadded
    · exact Or.inl hsame
    · refine Or.inr ⟨generation, hentry, ?_, hadded⟩
      exact hstate.live_given _ (hstate.entry_live key generation hentry)

/-- Only a `resolve` brings a reply. -/
theorem received_of_step {state next : State} {action : Action}
    (hstep : step state action = some next)
    (hother : ∀ key reply, action ≠ .resolve key reply) : next.received = state.received := by
  cases action with
  | resolve key reply => exact absurd rfl (hother key reply)
  | disconnect | clear => rw [← Option.some.inj hstep]
  | reserve | drop | leave =>
    rw [step] at hstep
    split at hstep
    all_goals cases hstep
    all_goals rfl

theorem Invariant.respects {state next : State} {action : Action} (hstate : Invariant state)
    (hstep : system.step state action = some next) : Respects state action next := by
  change step state action = some next at hstep
  constructor
  · rintro key generation rfl other newer hnewer hlookup
    exact drop_spares hstep hnewer hlookup
  · by_cases hresolve : ∃ key reply, action = .resolve key reply
    · obtain ⟨key, reply, rfl⟩ := hresolve
      apply (hstate.received_of_resolve hstep).imp_right
      rintro ⟨generation, hentry, hgiven, hadded⟩
      exact ⟨key, reply, generation, rfl, hentry, hgiven, hadded⟩
    · left
      apply received_of_step hstep
      exact fun key reply haction ↦ hresolve ⟨key, reply, haction⟩
  · rintro key error rfl hrefused
    exact reserve_refused hstep hrefused

/-- In every interleaving reservations, entries and replies stay paired, and every operation
respects the other reservations. -/
theorem waiters_paired {state : State} {actions : List Action}
    (hrun : system.run system.init actions = some state) :
    Paired state ∧ ∀ action next, system.step state action = some next →
      Respects state action next := by
  have hstate := system.run_invariant step_invariant invariant_init hrun
  refine ⟨hstate.paired, ?_⟩
  intro action next hstep
  exact hstate.respects hstep

/-- A reservation that is dropped after its key was reserved again. -/
def reusedRun : List Action :=
  [.reserve ⟨0, 8, 0x12⟩, .resolve ⟨0, 8, 0x12⟩ (.ok ()), .reserve ⟨0, 8, 0x12⟩,
    .drop ⟨0, 8, 0x12⟩ 0]

theorem waiters_paired_reused :
    ∃ state, system.run system.init reusedRun = some state ∧
      state.commands.entries.lookup ⟨0, 8, 0x12⟩ = some 1 ∧ state.received = [(0, .ok ())] ∧
      Paired state :=
  ⟨_, rfl, rfl, rfl, (waiters_paired (rfl : system.run system.init reusedRun = some _)).1⟩

end BtDaemon.FastPair.Reservations
