import BtDaemon.Bluez.LinkFence

/-!
# The polls of the monitor

One task ages the entries and begins a poll, enumerates the connected peers that are due, and
asks the helper about them, at most four at a time. Two others report what BlueZ says about
devices and adapters, and suspend the readings when the host goes to sleep. Their steps on the
readings are steps of the interleavings above, so the fences hold for the monitor as it runs.
-/

namespace BtDaemon.Bluez.LinkSignal

open Transition

namespace Polling

/-- The events of BlueZ that invalidate readings. -/
inductive BluezEvent where
  | adapterRemoved (adapter : String)
  | deviceRemoved (adapter : String) (address : Address)
  | connected (adapter : String) (address : Address) (connected : Bool)

/-- The arguments with which the handler of an event calls `invalidate`. -/
def BluezEvent.invalidated : BluezEvent → String × Option Address
  | .adapterRemoved adapter => (adapter, none)
  | .deviceRemoved adapter address => (adapter, some address)
  | .connected adapter address _ => (adapter, some address)

inductive Phase where
  | idle
  | aged
  | enumerating (epoch : UInt64) (peers : List Key)
  /-- The peers that `for_each_concurrent` has not pulled, and the futures that run: those before
  the test of `current` and those whose request is under way. -/
  | reading (epoch : UInt64) (waiting checking asked : List Key)
  deriving DecidableEq

namespace Phase

/-- The number of futures that `for_each_concurrent` runs. -/
def running : Phase → ℕ
  | .reading _ _ checking asked => checking.length + asked.length
  | .idle | .aged | .enumerating _ _ => 0

/-- The token of the poll that is under way. -/
def epoch : Phase → Option UInt64
  | .enumerating epoch _ | .reading epoch _ _ _ => some epoch
  | .idle | .aged => none

def enumerate (key : Key) (due : Bool) : Phase → Option Phase
  | .enumerating epoch peers => some (.enumerating epoch (if due then peers ++ [key] else peers))
  | _ => none

def enumerated : Phase → Option Phase
  | .enumerating epoch peers => some (.reading epoch peers [] [])
  | _ => none

def timedOut : Phase → Option Phase
  | .enumerating _ _ => some .idle
  | _ => none

def pull : Phase → Option Phase
  | .reading epoch (key :: waiting) checking asked =>
    if checking.length + asked.length < 4 then
      some (.reading epoch waiting (key :: checking) asked)
    else none
  | _ => none

def check (key : Key) (current : UInt64 → Bool) : Phase → Option Phase
  | .reading epoch waiting checking asked =>
    if key ∈ checking then
      some (.reading epoch waiting (checking.erase key)
        (if current epoch then key :: asked else asked))
    else none
  | _ => none

def answer (key : Key) (epoch : UInt64) : Phase → Option Phase
  | .reading token waiting checking asked =>
    if epoch = token ∧ key ∈ asked then
      some (.reading token waiting checking (asked.erase key))
    else none
  | _ => none

def finish : Phase → Option Phase
  | .reading _ [] [] [] => some .idle
  | _ => none

end Phase

structure State where
  link : LinkSignal.State
  phase : Phase
  sleeping : Bool
  /-- The logind task has published `sleeping` and not yet called `suspend`. -/
  suspending : Bool

inductive Action where
  | tick (now : Instant)
  /-- A tick while the host sleeps. -/
  | skip
  | beginPoll
  | enumerate (key : Key) (now : Instant)
  | enumerated
  | timedOut
  | pull
  | check (key : Key)
  | answer (key : Key) (epoch : UInt64) (answer : Except String (Reply × Bool)) (now : Instant)
      (unixTimeMs : UInt64)
  | finish
  | event (event : BluezEvent) (now : Instant)
  | prepareForSleep (sleeping : Bool)
  | suspend (now : Instant)

def State.setSignals (state : State) (signals : Signals) : State :=
  { state with link := { state.link with signals := signals } }

def State.setPhase (state : State) (phase : Phase) : State := { state with phase := phase }

def step (state : State) : Action → Option State
  | .tick now =>
    if state.phase = .idle ∧ state.sleeping = false then
      some ((state.setSignals (state.link.signals.age now)).setPhase .aged)
    else none
  | .skip => if state.phase = .idle ∧ state.sleeping = true then some state else none
  | .beginPoll =>
    if state.phase = .aged then
      let (signals, epoch) := state.link.signals.beginPoll
      some { state with
        link := ⟨signals, epoch :: state.link.polls⟩
        phase := .enumerating epoch [] }
    else none
  | .enumerate key now =>
    (state.phase.enumerate key (state.link.signals.due now key)).map state.setPhase
  | .enumerated => state.phase.enumerated.map state.setPhase
  | .timedOut => state.phase.timedOut.map state.setPhase
  | .pull => state.phase.pull.map state.setPhase
  | .check key => (state.phase.check key (state.link.signals.current key)).map state.setPhase
  | .answer key epoch answer now unixTimeMs =>
    (state.phase.answer key epoch).map
      (state.setSignals
        (state.link.signals.accept now unixTimeMs key epoch (readingOf answer))).setPhase
  | .finish => state.phase.finish.map state.setPhase
  | .event event now =>
    some (state.setSignals
      (state.link.signals.invalidate now event.invalidated.1 event.invalidated.2))
  | .prepareForSleep sleeping =>
    if state.suspending then none
    else some { state with sleeping := sleeping, suspending := sleeping }
  | .suspend now =>
    if state.suspending then
      some { state.setSignals (state.link.signals.suspend now) with suspending := false }
    else none

def system : System State Action := ⟨⟨LinkSignal.system.init, .idle, false, false⟩, step⟩

/-! ## The poll that is under way -/

/-- A move of a poll keeps its token and starts no fifth future. -/
structure Phase.Moves (before after : Phase) : Prop where
  token : ∀ epoch, after.epoch = some epoch → before.epoch = some epoch
  bounded : before.running ≤ 4 → after.running ≤ 4

namespace Phase

variable {before after : Phase}

theorem moves_idle : Moves before .idle := ⟨by rintro _ ⟨⟩, fun _ ↦ Nat.zero_le 4⟩

theorem moves_enumerate {key : Key} {due : Bool} (hmove : before.enumerate key due = some after) :
    Moves before after := by
  unfold enumerate at hmove
  split at hmove
  · obtain rfl := Option.some.inj hmove
    exact ⟨fun _ hepoch ↦ hepoch, fun _ ↦ Nat.zero_le 4⟩
  · cases hmove

theorem moves_enumerated (hmove : before.enumerated = some after) : Moves before after := by
  unfold enumerated at hmove
  split at hmove
  · obtain rfl := Option.some.inj hmove
    exact ⟨fun _ hepoch ↦ hepoch, fun _ ↦ Nat.zero_le 4⟩
  · cases hmove

theorem moves_timedOut (hmove : before.timedOut = some after) : Moves before after := by
  unfold timedOut at hmove
  split at hmove
  · obtain rfl := Option.some.inj hmove
    exact moves_idle
  · cases hmove

theorem moves_pull (hmove : before.pull = some after) : Moves before after := by
  unfold pull at hmove
  split at hmove
  · obtain ⟨hfree, hnext⟩ := Option.ite_none_right_eq_some.mp hmove
    obtain rfl := Option.some.inj hnext
    refine ⟨fun _ hepoch ↦ hepoch, fun _ ↦ ?_⟩
    rw [running, List.length_cons]
    omega
  · cases hmove

theorem moves_check {key : Key} {current : UInt64 → Bool}
    (hmove : before.check key current = some after) : Moves before after := by
  unfold check at hmove
  split at hmove
  · next epoch waiting checking asked =>
    obtain ⟨hmem, hnext⟩ := Option.ite_none_right_eq_some.mp hmove
    obtain rfl := Option.some.inj hnext
    refine ⟨fun _ hepoch ↦ hepoch, fun hbounded ↦ Nat.le_trans ?_ hbounded⟩
    have hlength := List.length_erase_add_one hmem
    rw [running, running]
    split
    · rw [List.length_cons]
      omega
    · omega
  · cases hmove

theorem moves_answer {key : Key} {epoch : UInt64} (hmove : before.answer key epoch = some after) :
    before.epoch = some epoch ∧ Moves before after := by
  unfold answer at hmove
  split at hmove
  · obtain ⟨⟨rfl, hmem⟩, hnext⟩ := Option.ite_none_right_eq_some.mp hmove
    obtain rfl := Option.some.inj hnext
    refine ⟨rfl, fun _ hepoch ↦ hepoch, fun hbounded ↦ Nat.le_trans ?_ hbounded⟩
    exact Nat.add_le_add_left List.length_erase_le _
  · cases hmove

theorem moves_finish (hmove : before.finish = some after) : Moves before after := by
  unfold finish at hmove
  split at hmove
  · obtain rfl := Option.some.inj hmove
    exact moves_idle
  · cases hmove

end Phase

/-- The poll under way has a token that was handed out, and runs at most four futures. -/
structure Coherent (state : State) : Prop where
  token : ∀ epoch, state.phase.epoch = some epoch → epoch ∈ state.link.polls
  bounded : state.phase.running ≤ 4

namespace Coherent

theorem moves {state : State} (coherent : Coherent state) {signals : Signals} {phase : Phase}
    (hmoves : Phase.Moves state.phase phase) :
    Coherent ((state.setSignals signals).setPhase phase) where
  token epoch hepoch := coherent.token epoch (hmoves.token epoch hepoch)
  bounded := hmoves.bounded coherent.bounded

theorem step {state next : State} {action : Action} (coherent : Coherent state)
    (hstep : Polling.step state action = some next) : Coherent next := by
  cases action with
  | tick now =>
    obtain ⟨-, hnext⟩ := Option.ite_none_right_eq_some.mp hstep
    obtain rfl := Option.some.inj hnext
    exact ⟨by rintro _ ⟨⟩, Nat.zero_le 4⟩
  | skip =>
    obtain ⟨-, hnext⟩ := Option.ite_none_right_eq_some.mp hstep
    obtain rfl := Option.some.inj hnext
    exact coherent
  | beginPoll =>
    obtain ⟨-, hnext⟩ := Option.ite_none_right_eq_some.mp hstep
    obtain rfl := Option.some.inj hnext
    refine ⟨fun epoch hepoch ↦ ?_, Nat.zero_le 4⟩
    rw [← Option.some.inj hepoch]
    exact List.mem_cons_self
  | enumerate key now =>
    obtain ⟨phase, hphase, rfl⟩ := Option.map_eq_some_iff.mp hstep
    exact coherent.moves (Phase.moves_enumerate hphase)
  | enumerated =>
    obtain ⟨phase, hphase, rfl⟩ := Option.map_eq_some_iff.mp hstep
    exact coherent.moves (Phase.moves_enumerated hphase)
  | timedOut =>
    obtain ⟨phase, hphase, rfl⟩ := Option.map_eq_some_iff.mp hstep
    exact coherent.moves (Phase.moves_timedOut hphase)
  | pull =>
    obtain ⟨phase, hphase, rfl⟩ := Option.map_eq_some_iff.mp hstep
    exact coherent.moves (Phase.moves_pull hphase)
  | check key =>
    obtain ⟨phase, hphase, rfl⟩ := Option.map_eq_some_iff.mp hstep
    exact coherent.moves (Phase.moves_check hphase)
  | answer key epoch reply now unixTimeMs =>
    obtain ⟨phase, hphase, rfl⟩ := Option.map_eq_some_iff.mp hstep
    exact coherent.moves (Phase.moves_answer hphase).2
  | finish =>
    obtain ⟨phase, hphase, rfl⟩ := Option.map_eq_some_iff.mp hstep
    exact coherent.moves (Phase.moves_finish hphase)
  | event event now =>
    obtain rfl := Option.some.inj hstep
    exact ⟨coherent.token, coherent.bounded⟩
  | prepareForSleep sleeping =>
    obtain ⟨-, hnext⟩ := Option.ite_none_left_eq_some.mp hstep
    obtain rfl := Option.some.inj hnext
    exact ⟨coherent.token, coherent.bounded⟩
  | suspend now =>
    obtain ⟨-, hnext⟩ := Option.ite_none_right_eq_some.mp hstep
    obtain rfl := Option.some.inj hnext
    exact ⟨coherent.token, coherent.bounded⟩

theorem init : Coherent system.init := ⟨by rintro _ ⟨⟩, Nat.zero_le 4⟩

end Coherent

/-- The monitor asks the helper about at most four peers at a time. -/
theorem running_le_four {state : State} (hreach : system.Reachable state) :
    state.phase.running ≤ 4 :=
  (hreach.invariant Coherent.init fun _ _ _ coherent hstep ↦ coherent.step hstep).bounded

/-! ## The monitor's runs are interleavings of the readings' methods -/

/-- What a step does to the readings. -/
def Action.image : Action → List LinkSignal.Action
  | .tick now => [.age now]
  | .beginPoll => [.beginPoll]
  | .answer key epoch reply now unixTimeMs => [.accept key epoch reply now unixTimeMs]
  | .event change now => [.invalidate change.invalidated.1 change.invalidated.2 now]
  | .suspend now => [.suspend now]
  | .skip | .enumerate .. | .enumerated | .timedOut | .pull | .check _ | .finish
  | .prepareForSleep _ => []

theorem step_image {state next : State} {action : Action} (coherent : Coherent state)
    (hstep : step state action = some next) :
    LinkSignal.system.run state.link action.image = some next.link := by
  cases action with
  | tick now =>
    obtain ⟨-, hnext⟩ := Option.ite_none_right_eq_some.mp hstep
    obtain rfl := Option.some.inj hnext
    rfl
  | skip =>
    obtain ⟨-, hnext⟩ := Option.ite_none_right_eq_some.mp hstep
    obtain rfl := Option.some.inj hnext
    rfl
  | beginPoll =>
    obtain ⟨-, hnext⟩ := Option.ite_none_right_eq_some.mp hstep
    obtain rfl := Option.some.inj hnext
    rfl
  | answer key epoch reply now unixTimeMs =>
    obtain ⟨phase, hphase, rfl⟩ := Option.map_eq_some_iff.mp hstep
    have htoken := coherent.token epoch (Phase.moves_answer hphase).1
    refine (LinkSignal.system.run_cons_eq_some).mpr ⟨_, ?_, rfl⟩
    exact if_pos htoken
  | event change now =>
    obtain rfl := Option.some.inj hstep
    rfl
  | prepareForSleep sleeping =>
    obtain ⟨-, hnext⟩ := Option.ite_none_left_eq_some.mp hstep
    obtain rfl := Option.some.inj hnext
    rfl
  | suspend now =>
    obtain ⟨-, hnext⟩ := Option.ite_none_right_eq_some.mp hstep
    obtain rfl := Option.some.inj hnext
    rfl
  | enumerate | enumerated | timedOut | pull | check | finish =>
    obtain ⟨phase, -, rfl⟩ := Option.map_eq_some_iff.mp hstep
    rfl

theorem run_image {actions : List Action} {state : State}
    (hrun : system.run system.init actions = some state) :
    LinkSignal.system.run LinkSignal.system.init (actions.flatMap Action.image) =
      some state.link :=
  system.run_simulates LinkSignal.system State.link Action.image
    (fun _ _ _ coherent hstep ↦ coherent.step hstep) (fun _ _ _ ↦ step_image) Coherent.init hrun

theorem beginPoll_mem_of_image {actions : List Action}
    (hmem : .beginPoll ∈ actions.flatMap Action.image) : .beginPoll ∈ actions := by
  obtain ⟨action, haction, himage⟩ := List.mem_flatMap.mp hmem
  cases action with
  | beginPoll => exact haction
  | tick | answer | event | suspend =>
    rw [Action.image, List.mem_singleton] at himage
    cases himage
  | skip | enumerate | enumerated | timedOut | pull | check | finish | prepareForSleep =>
    cases himage

theorem answer_mem_of_image {actions : List Action} {key : Key} {epoch : UInt64}
    {reply : Except String (Reply × Bool)} {now : Instant} {unixTimeMs : UInt64}
    (hmem : .accept key epoch reply now unixTimeMs ∈ actions.flatMap Action.image) :
    .answer key epoch reply now unixTimeMs ∈ actions := by
  obtain ⟨action, haction, himage⟩ := List.mem_flatMap.mp hmem
  cases action with
  | answer =>
    rw [Action.image, List.mem_singleton] at himage
    cases himage
    exact haction
  | beginPoll | tick | event | suspend =>
    rw [Action.image, List.mem_singleton] at himage
    cases himage
  | skip | enumerate | enumerated | timedOut | pull | check | finish | prepareForSleep =>
    cases himage

/-- After BlueZ reported a change of a peer, the monitor shows no live sample of the peer before
it has begun another poll and got a reading of the peer. -/
theorem live_after_event {before since : List Action} {change : BluezEvent} {reported : Instant}
    {state : State}
    (hrun : system.run system.init (before ++ .event change reported :: since) = some state)
    (hbound : ((before ++ .event change reported :: since).flatMap Action.image).countP
      LinkSignal.Action.retires < UInt64.size)
    {key : Key} (hcovers : covers change.invalidated.1 change.invalidated.2 key = true)
    {now : Instant} {connected : Bool} {reading : Reading}
    (hget : state.link.signals.get now key.1 key.2 connected = some reading)
    (hlive : reading.live = true) :
    .beginPoll ∈ since ∧ ∃ epoch reply received,
      .answer key epoch reply received reading.lastSeenMs ∈ since ∧
        readingOf reply = some (reading.rssi, reading.kind) := by
  have hlink := run_image hrun
  rw [List.flatMap_append, List.flatMap_cons] at hlink hbound
  obtain ⟨first, polled, later, epoch, reply, received, hsplit, -, -, hreply⟩ :=
    reading_after_disturbance hlink hbound hcovers hget hlive
  change since.flatMap Action.image = _ at hsplit
  refine ⟨beginPoll_mem_of_image ?_, epoch, reply, received, answer_mem_of_image ?_, hreply⟩
  · rw [hsplit]
    exact List.mem_append_right _ List.mem_cons_self
  · rw [hsplit]
    apply List.mem_append_right
    apply List.mem_cons_of_mem
    exact List.mem_append_right _ List.mem_cons_self

end Polling

/-- In every interleaving of the methods the readings are fenced, and the runs of the monitor are
such interleavings. -/
theorem link_readings_fenced :
    (∀ actions state, system.run system.init actions = some state →
      actions.countP Action.retires < UInt64.size → Fenced actions state) ∧
    ∀ actions state, Polling.system.run Polling.system.init actions = some state →
      (actions.flatMap Polling.Action.image).countP Action.retires < UInt64.size →
        Fenced (actions.flatMap Polling.Action.image) state.link :=
  ⟨fun _ _ hrun hbound ↦ fenced_of_run hrun hbound,
    fun _ _ hrun hbound ↦ fenced_of_run (Polling.run_image hrun) hbound⟩

/-- A peer is read, reconnects while a second reading is under way, and is read by a new poll. -/
def reconnectRun : List Action :=
  [.beginPoll, .accept ("hci0", 5) 1 (.ok (.reading (-60), false)) 1 101,
    .invalidate "hci0" (some 5) 2, .accept ("hci0", 5) 1 (.ok (.reading (-20), false)) 3 102,
    .beginPoll, .accept ("hci0", 5) 2 (.ok (.reading (-42), false)) 4 103]

/-- The monitor polls a peer that reconnects before the helper answers, and polls it again. -/
def monitorRun : List Polling.Action :=
  [.tick 0, .beginPoll, .enumerate ("hci0", 5) 0, .enumerated, .pull, .check ("hci0", 5),
    .event (.connected "hci0" 5 true) 1,
    .answer ("hci0", 5) 1 (.ok (.reading (-20), false)) 2 102, .finish, .tick 3, .beginPoll,
    .enumerate ("hci0", 5) 3, .enumerated, .pull, .check ("hci0", 5),
    .answer ("hci0", 5) 2 (.ok (.reading (-42), false)) 4 103, .finish]

theorem link_readings_fenced_reconnect :
    (∃ state, system.run system.init reconnectRun = some state ∧ Fenced reconnectRun state ∧
      state.signals.get 9 "hci0" 5 true = some ⟨-42, .dbm, 103, true⟩) ∧
    ∃ state, Polling.system.run Polling.system.init monitorRun = some state ∧
      Fenced (monitorRun.flatMap Polling.Action.image) state.link ∧
      state.link.signals.get 9 "hci0" 5 true = some ⟨-42, .dbm, 103, true⟩ :=
  ⟨⟨_, rfl, link_readings_fenced.1 _ _ rfl (by decide), by decide⟩,
    _, rfl, link_readings_fenced.2 _ _ rfl (by decide), by decide⟩

end BtDaemon.Bluez.LinkSignal
