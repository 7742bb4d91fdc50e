import BtDaemon.Daemon.OperationLifecycle
import BtDaemon.Foundation.Broadcast

/-!
# Subscriptions to events

A subscription forwards the events of a coordinator to one client until the client is gone. It
runs beside the coordinator and may fall behind; the client is then told how many events it lost.
An emission that fails is only logged, so its events reach the client neither as events nor as a
count. Events of operations are for their owner only. A client that lost nothing knows about its
operations what the daemon itself knows.
-/

namespace BtDaemon.Daemon.Subscription

open Broadcast EventLog Transition

/-- Of every event channel. -/
def channelCapacity : ℕ := 32

inductive GapReason where
  | lagged
  | sourceReset
  deriving DecidableEq, Repr

structure Gap where
  reason : GapReason
  droppedEvents : ℕ
  deriving DecidableEq, Repr

inductive EventBody (T : Type) where
  | data (event : T)
  | gap (gap : Gap)
  deriving DecidableEq, Repr

/-- An event as a client sees it, on one stream of one subscription. -/
structure Envelope (T : Type) where
  event : String
  body : EventBody T
  deriving DecidableEq, Repr

section Forward

variable {T : Type} (eventName : T → String) (visible : T → Bool)

def gapFields (gap : Gap) : Envelope T := ⟨"gap", .gap gap⟩

/-- `serializes` is whether the event has a JSON form. -/
def broadcastFields (serializes : Bool) : Received T → Envelope T
  | .item event =>
    if serializes then ⟨eventName event, .data event⟩ else gapFields ⟨.sourceReset, 1⟩
  | .lagged skipped => gapFields ⟨.lagged, skipped⟩

/-- The callback of `forward_events_filtered`. -/
def forwardEvent (serializes : Bool) (update : Received T) : Option (Envelope T) :=
  match update with
  | .item event =>
    if visible event then some (broadcastFields eventName serializes update) else none
  | .lagged _ => some (broadcastFields eventName serializes update)

end Forward

/-- What an envelope tells of the events. -/
def Envelope.told {T : Type} (envelope : Envelope T) : Received T :=
  match envelope.body with
  | .data event => .item event
  | .gap gap => .lagged gap.droppedEvents

/-! ## Coordinators and their subscribers -/

/-- A coordinator whose published events only become more. -/
structure Source (Coordinator Step T : Type) where
  system : System Coordinator Step
  log : Coordinator → List T
  grows : ∀ coordinator action next, system.step coordinator action = some next →
    log coordinator <+: log next
  eventName : T → String
  /-- Whether the event is for this client. -/
  visibleTo : String → T → Bool

/-- A call of `emit_event`, and whether it emitted the envelope. -/
structure Emission (T : Type) where
  envelope : Envelope T
  emitted : Bool
  deriving DecidableEq, Repr

structure Subscriber (T : Type) where
  owner : String
  /-- What was published before is not for the subscriber. -/
  start : ℕ
  position : ℕ
  emissions : List (Emission T)

namespace Subscriber

variable {T : Type} (subscriber : Subscriber T)

def attempted : List (Received T) := subscriber.emissions.map fun emission ↦ emission.envelope.told

/-- What the emissions that worked told the client, or those that failed would have. -/
def told (emitted : Bool) : List (Received T) :=
  (subscriber.emissions.filter fun emission ↦ emission.emitted = emitted).map fun emission ↦
    emission.envelope.told

/-- The events that the client got. -/
def received : List T := items (subscriber.told true)

/-- How many events the client was told that it lost. -/
def lost : ℕ := missed (subscriber.told true)

/-- How many events the emissions that failed were about. -/
def undelivered : ℕ := (items (subscriber.told false)).length + missed (subscriber.told false)

theorem told_perm : (subscriber.told true ++ subscriber.told false).Perm subscriber.attempted := by
  unfold told attempted
  rw [← List.map_append]
  refine List.Perm.map _ ?_
  have hsplit := List.filter_append_perm (fun emission : Emission T ↦ emission.emitted)
    subscriber.emissions
  simpa using hsplit

/-- Every event of an attempt was received, or counted, or not delivered. -/
theorem counts_attempted : (items subscriber.attempted).length + missed subscriber.attempted =
    subscriber.received.length + subscriber.lost + subscriber.undelivered := by
  obtain ⟨hitems, hmissed⟩ := counts_of_perm subscriber.told_perm
  rw [items_append, List.length_append] at hitems
  rw [missed_append] at hmissed
  unfold received lost undelivered
  omega

theorem received_sublist : subscriber.received.Sublist (items subscriber.attempted) :=
  (List.filter_sublist.map _).filterMap _

/-- When no emission failed, the client was told all. -/
theorem attempted_of_delivered (hdelivered : subscriber.undelivered = 0) :
    subscriber.received = items subscriber.attempted ∧
      subscriber.lost = missed subscriber.attempted := by
  obtain ⟨hitems, hmissed⟩ := counts_of_perm subscriber.told_perm
  rw [items_append, List.length_append] at hitems
  rw [missed_append] at hmissed
  obtain ⟨hnone, hnothing⟩ := Nat.add_eq_zero_iff.mp hdelivered
  rw [hnone, Nat.add_zero] at hitems
  rw [hnothing, Nat.add_zero] at hmissed
  exact ⟨subscriber.received_sublist.eq_of_length hitems, hmissed⟩

end Subscriber

structure State (Coordinator T : Type) where
  coordinator : Coordinator
  subscribers : Table String (Subscriber T)

inductive Action (Step : Type) where
  | coordinate (action : Step)
  | start (id owner : String)
  /-- The forwarder takes what its receiver has and gives it to `emit_event`. -/
  | forward (id : String) (serializes emitted : Bool)
  /-- The client is gone or has cancelled the subscription. -/
  | stop (id : String)

variable {Coordinator Step T : Type} (source : Source Coordinator Step T) (channel : Receiver T)

def step (state : State Coordinator T) : Action Step → Option (State Coordinator T)
  | .coordinate action =>
    (source.system.step state.coordinator action).map fun next ↦ { state with coordinator := next }
  | .start id owner =>
    let now := (source.log state.coordinator).length
    if state.subscribers.lookup id = none then
      some { state with subscribers := state.subscribers.insert id ⟨owner, now, now, []⟩ }
    else none
  | .forward id serializes emitted => do
    let subscriber ← state.subscribers.lookup id
    let (update, position) ←
      channel.recv (source.log state.coordinator) subscriber.position
    let envelope :=
      forwardEvent source.eventName (source.visibleTo subscriber.owner) serializes update
    return { state with
      subscribers := state.subscribers.insert id
        { subscriber with
          position := position
          emissions := subscriber.emissions ++ envelope.toList.map (Emission.mk · emitted) } }
  | .stop id => some { state with subscribers := state.subscribers.erase id }

def system : System (State Coordinator T) (Action Step) :=
  ⟨⟨source.system.init, ∅⟩, step source channel⟩

/-! ## Every subscriber is told of everything -/

/-- The subscriber was told of the log up to its position. -/
def Informed (coordinator : Coordinator) (subscriber : Subscriber T) : Prop :=
  Heard (source.visibleTo subscriber.owner) (source.log coordinator) subscriber.start
    subscriber.position subscriber.attempted

structure Invariant (state : State Coordinator T) : Prop where
  reachable : source.system.Reachable state.coordinator
  informed : ∀ id subscriber, state.subscribers.lookup id = some subscriber →
    Informed source state.coordinator subscriber

variable {source channel}

/-- The forwarder passes on what its receiver has. -/
theorem informed_forward {coordinator : Coordinator} {subscriber : Subscriber T}
    (hinformed : Informed source coordinator subscriber) {update : Received T} {position : ℕ}
    (hrecv : channel.recv (source.log coordinator) subscriber.position = some (update, position))
    (serializes emitted : Bool) :
    Informed source coordinator { subscriber with
      position := position
      emissions := subscriber.emissions ++ (forwardEvent source.eventName
        (source.visibleTo subscriber.owner) serializes update).toList.map
          (Emission.mk · emitted) } := by
  unfold Informed Subscriber.attempted
  rw [List.map_append]
  obtain ⟨event, rfl, rfl, hevent⟩ | ⟨rfl, hbehind, hle⟩ := channel.recv_cases hrecv
  · apply hinformed.take hevent
    intro events htold
    cases hvisible : source.visibleTo subscriber.owner event with
    | true =>
      rw [show forwardEvent source.eventName (source.visibleTo subscriber.owner) serializes
        (.item event) = _ from if_pos hvisible]
      cases serializes with
      | true => exact htold.item event hvisible
      | false => exact htold.lagged [event] (List.cons_ne_nil _ _)
    | false =>
      rw [show forwardEvent source.eventName (source.visibleTo subscriber.owner) serializes
        (.item event) = none from if_neg (hvisible ▸ Bool.false_ne_true)]
      change Tells _ (subscriber.attempted ++ []) _
      rw [List.append_nil]
      exact htold.hidden event hvisible
  · exact hinformed.skip hbehind hle

namespace Invariant

theorem init : Invariant source (system source channel).init where
  reachable := ⟨[], rfl⟩
  informed _ _ hlookup := nomatch hlookup

variable {state next : State Coordinator T}

theorem insert (hinvariant : Invariant source state) {id : String} {changed : Subscriber T}
    (hchanged : Informed source state.coordinator changed) :
    Invariant source { state with subscribers := state.subscribers.insert id changed } where
  reachable := hinvariant.reachable
  informed other subscriber hlookup := by
    obtain ⟨-, rfl⟩ | ⟨-, hold⟩ := Table.lookup_insert_eq_some.mp hlookup
    · exact hchanged
    · exact hinvariant.informed other subscriber hold

theorem step {action : Action Step} (hinvariant : Invariant source state)
    (hstep : (system source channel).step state action = some next) : Invariant source next := by
  cases action with
  | coordinate action =>
    obtain ⟨coordinator, htake, rfl⟩ := Option.map_eq_some_iff.mp hstep
    refine ⟨?_, fun id subscriber hlookup ↦ ?_⟩
    · obtain ⟨actions, hrun⟩ := hinvariant.reachable
      exact ⟨actions ++ [action], source.system.run_append hrun
        (source.system.run_cons_eq_some.mpr ⟨coordinator, htake, rfl⟩)⟩
    · exact (hinvariant.informed id subscriber hlookup).grow (source.grows _ _ _ htake)
  | start id owner =>
    obtain ⟨-, hnext⟩ := Option.ite_none_right_eq_some.mp hstep
    obtain rfl := Option.some.inj hnext
    exact hinvariant.insert Heard.subscribe
  | forward id serializes emitted =>
    obtain ⟨subscriber, hlookup, hrest⟩ := Option.bind_eq_some_iff.mp hstep
    obtain ⟨⟨update, position⟩, hrecv, hnext⟩ := Option.bind_eq_some_iff.mp hrest
    obtain rfl := Option.some.inj hnext
    exact hinvariant.insert
      (informed_forward (hinvariant.informed id subscriber hlookup) hrecv serializes emitted)
  | stop id =>
    obtain rfl := Option.some.inj hstep
    refine ⟨hinvariant.reachable, fun other subscriber hlookup ↦ ?_⟩
    exact hinvariant.informed other subscriber (Table.lookup_erase_eq_some.mp hlookup).2

theorem of_reachable (hreach : (system source channel).Reachable state) : Invariant source state :=
  hreach.invariant init fun _ _ _ ↦ step

end Invariant

/-! ## Subscriptions to operations -/

section Operations

open Operation Operation.OperationCoordinator

/-- Only the events of an operation itself are published, and they stay published. -/
theorem events_claimTerminal (self : OperationCoordinator) (requestId : String)
    (terminal : OperationEvent → OperationEvent) :
    self.events <+: (self.claimTerminal requestId terminal).events := by
  unfold claimTerminal
  split
  · exact List.prefix_append _ _
  · exact List.prefix_refl _

theorem events_publishStarted (self : OperationCoordinator) (requestId : String) :
    self.events <+: (self.publishStarted requestId).2.events := by
  unfold publishStarted
  split
  · exact List.prefix_refl _
  · exact List.prefix_append _ _

theorem events_progressReport (self : OperationCoordinator) (requestId stage : String) :
    self.events <+: (self.progressReport requestId stage).events := by
  unfold progressReport
  split
  · exact List.prefix_refl _
  · split
    · exact List.prefix_append _ _
    · exact List.prefix_refl _

theorem events_start (self : Operation.State) (requestId : String)
    (request : Except String (String × DeviceOperation))
    (owner admission insertion : Option String) :
    (self.start requestId request owner admission insertion).coordinator.events =
      self.coordinator.events := by
  unfold State.start
  split
  · next receipt coordinator event hstart =>
    unfold startOwned at hstart
    split at hstart
    · cases hstart
    split at hstart
    · cases hstart
    split at hstart
    · cases hstart
    split at hstart
    · cases hstart
    · obtain ⟨-, hcoordinator⟩ := Prod.mk.inj hstart
      obtain ⟨rfl, -⟩ := Prod.mk.inj hcoordinator
      rfl
  · rfl
  · rfl

theorem events_cancel {self next : Operation.State} {requestId : String} {owner : Option String}
    {outcome : Cancellation} (hcancel : self.cancel requestId owner = (outcome, next)) :
    next.coordinator.events = self.coordinator.events := by
  obtain rfl | ⟨-, worker, task, -, -, -, -, rfl⟩ := self.cancel_cases requestId hcancel
  · rfl
  · rfl

theorem events_grow (self : Operation.State) (action : Operation.Action) (next : Operation.State)
    (hstep : Operation.step self action = some next) :
    self.coordinator.events <+: next.coordinator.events := by
  cases action with
  | start requestId request owner admission insertion =>
    obtain ⟨-, hnext⟩ := Option.ite_none_right_eq_some.mp hstep
    obtain rfl := Option.some.inj hnext
    exact (events_start ..).symm ▸ List.prefix_refl _
  | release requestId | wake requestId | backendReturns requestId result =>
    simp only [Operation.step] at hstep
    split at hstep
    · obtain rfl := Option.some.inj hstep
      exact List.prefix_refl _
    · cases hstep
  | publish requestId =>
    simp only [Operation.step] at hstep
    split at hstep
    · split at hstep
      · next coordinator hstarted =>
        obtain rfl := Option.some.inj hstep
        have hgrown := events_publishStarted self.coordinator requestId
        rwa [hstarted] at hgrown
      · obtain rfl := Option.some.inj hstep
        exact List.prefix_refl _
    · cases hstep
  | report requestId stage =>
    obtain ⟨-, hnext⟩ := Option.ite_none_right_eq_some.mp hstep
    obtain rfl := Option.some.inj hnext
    exact events_progressReport _ _ _
  | settle requestId | reap requestId =>
    simp only [Operation.step] at hstep
    split at hstep
    · obtain rfl := Option.some.inj hstep
      exact events_claimTerminal _ _ _
    · cases hstep
  | drop requestId =>
    simp only [Operation.step] at hstep
    split at hstep
    · obtain ⟨-, hnext⟩ := Option.ite_none_right_eq_some.mp hstep
      obtain rfl := Option.some.inj hnext
      exact List.prefix_refl _
    · cases hstep
  | cancel requestId owner =>
    simp only [Operation.step] at hstep
    split at hstep
    · next other hcancel =>
      obtain rfl := Option.some.inj hstep
      exact (events_cancel hcancel).symm ▸ List.prefix_refl _
    · next outcome other _ hcancel =>
      obtain rfl := Option.some.inj hstep
      exact (events_cancel hcancel).symm ▸ List.prefix_refl _
  | waiterReturns requestId | sweep call owner =>
    obtain ⟨-, hnext⟩ := Option.ite_none_right_eq_some.mp hstep
    obtain rfl := Option.some.inj hnext
    exact List.prefix_refl _
  | waiterDropped requestId =>
    obtain rfl := Option.some.inj hstep
    exact List.prefix_refl _
  | sweepNext call =>
    simp only [Operation.step] at hstep
    split at hstep
    · obtain ⟨-, hnext⟩ := Option.ite_none_left_eq_some.mp hstep
      obtain rfl := Option.some.inj hnext
      exact List.prefix_refl _
    · split at hstep
      · next other hcancel =>
        obtain rfl := Option.some.inj hstep
        exact (events_cancel hcancel).symm ▸ List.prefix_refl _
      · next outcome other _ hcancel =>
        obtain rfl := Option.some.inj hstep
        exact (events_cancel hcancel).symm ▸ List.prefix_refl _
    · obtain rfl := Option.some.inj hstep
      exact List.prefix_refl _
    · cases hstep
  | evict requestId =>
    obtain ⟨-, hnext⟩ := Option.ite_none_left_eq_some.mp hstep
    obtain rfl := Option.some.inj hnext
    exact List.prefix_refl _

def operationSource : Source Operation.State Operation.Action OperationEvent where
  system := Operation.system
  log := fun state ↦ state.coordinator.events
  grows := events_grow
  eventName := fun event ↦ match event.event with
    | .queued => "queued"
    | .started => "started"
    | .progress => "progress"
    | .completed => "completed"
    | .failed => "failed"
    | .cancelled => "cancelled"
  visibleTo := fun owner event ↦ event.visibleTo (some owner)

/-- The record of an operation that ended is its last event. -/
theorem getLast_of_recent {self : Operation.State} (hcoherent : self.Coherent) {requestId : String}
    {record : Owned OperationEvent}
    (hrecord : self.coordinator.recent.lookup requestId = some record) :
    (self.eventsOf requestId).getLast? = some record.value ∧ record.value.isTerminal = true ∧
      record.value.owner = record.owner := by
  have hlife := hcoherent requestId
  have hactive : (self.life requestId).active = none := by
    by_contra hsome
    obtain ⟨task, htask⟩ := Option.ne_none_iff_exists'.mp hsome
    exact nomatch hrecord.symm.trans (hlife.running task htask).recent
  obtain ⟨owner, haccepted⟩ : ∃ owner, (self.life requestId).accepted = some owner := by
    apply Option.ne_none_iff_exists'.mp
    intro hnone
    exact nomatch hrecord.symm.trans (hlife.unaccepted hnone).1
  obtain ⟨earlier, last, hevents, hterminal, -, howner, -, hretained | ⟨hgone, -⟩⟩ :=
    hlife.settled owner haccepted hactive
  · obtain rfl := Option.some.inj (hrecord.symm.trans hretained)
    refine ⟨?_, hterminal, howner⟩
    rw [show self.eventsOf requestId = earlier ++ [last] from hevents, List.getLast?_concat]
  · exact nomatch hrecord.symm.trans hgone

/-- What the client of a subscription knows about operations. -/
structure Follows (channel : Receiver OperationEvent) (coordinator : Operation.State)
    (subscriber : Subscriber OperationEvent) : Prop where
  /-- It gets events of its own operations only, each once and in order. -/
  owned : ∀ event ∈ subscriber.received, event.owner = some subscriber.owner
  ordered : subscriber.received.Sublist coordinator.coordinator.events
  /-- Of one operation it gets increasing revisions up to a terminal event. -/
  increasing : ∀ requestId,
    Increasing OperationEvent.revision
      (about OperationEvent.requestId subscriber.received requestId)
  terminal_last : ∀ requestId,
    TerminalLast OperationEvent.isTerminal
      (about OperationEvent.requestId subscriber.received requestId)
  /-- What it did not get is counted, unless it was in an emission that failed. -/
  counted : ((coordinator.coordinator.events.take subscriber.position).drop subscriber.start).countP
      (fun event ↦ event.visibleTo (some subscriber.owner)) ≤
    subscriber.received.length + subscriber.lost + subscriber.undelivered
  lost_le : subscriber.received.length + subscriber.lost + subscriber.undelivered ≤
    subscriber.position - subscriber.start
  /-- Without a loss it has everything when the forwarder waits for the next event. -/
  complete : subscriber.lost = 0 → subscriber.undelivered = 0 →
    channel.recv coordinator.coordinator.events subscriber.position = none →
    subscriber.received = (coordinator.coordinator.events.drop subscriber.start).filter
      fun event ↦ event.visibleTo (some subscriber.owner)
  /-- It then knows the outcome of every operation with an event after it had subscribed. -/
  outcome : subscriber.lost = 0 → subscriber.undelivered = 0 →
    channel.recv coordinator.coordinator.events subscriber.position = none →
    ∀ requestId event,
      coordinator.coordinator.recent.lookup requestId = some ⟨some subscriber.owner, event⟩ →
      about OperationEvent.requestId (coordinator.coordinator.events.drop subscriber.start)
        requestId ≠ [] →
      event.isTerminal = true ∧
        (about OperationEvent.requestId subscriber.received requestId).getLast? = some event

theorem getLast_filter {Event : Type} {events : List Event} {keep : Event → Bool} {last : Event}
    (hlast : events.getLast? = some last) (hkeep : keep last = true) :
    (events.filter keep).getLast? = some last := by
  obtain ⟨earlier, rfl⟩ := List.getLast?_eq_some_iff.mp hlast
  rw [List.filter_append, List.filter_singleton, hkeep, cond_true, List.getLast?_concat]

theorem Informed.follows {channel : Receiver OperationEvent} {coordinator : Operation.State}
    (hcoherent : coordinator.Coherent) {subscriber : Subscriber OperationEvent}
    (hinformed : Informed operationSource coordinator subscriber) :
    Follows channel coordinator subscriber := by
  have hfiltered := subscriber.received_sublist.trans hinformed.tells.items_sublist
  have hordered : subscriber.received.Sublist coordinator.coordinator.events :=
    hfiltered.trans (List.filter_sublist.trans
      ((List.drop_sublist _ _).trans (List.take_sublist _ _)))
  have hcounts := subscriber.counts_attempted
  have hcomplete : subscriber.lost = 0 → subscriber.undelivered = 0 →
      channel.recv coordinator.coordinator.events subscriber.position = none →
        subscriber.received = (coordinator.coordinator.events.drop subscriber.start).filter
          fun event ↦ event.visibleTo (some subscriber.owner) := by
    intro hlost hdelivered hwaits
    obtain ⟨hreceived, hmissed⟩ := subscriber.attempted_of_delivered hdelivered
    rw [hreceived]
    exact (hinformed.caught_up hwaits).items_eq (hmissed.symm.trans hlost)
  refine ⟨?_, hordered, fun requestId ↦ ?_, fun requestId ↦ ?_, ?_, ?_, hcomplete, ?_⟩
  · intro event hevent
    have hvisible := (List.mem_filter.mp (hfiltered.subset hevent)).2
    exact of_decide_eq_true hvisible
  · exact (hcoherent requestId).increasing.sublist (hordered.filter _)
  · exact (hcoherent requestId).terminalLast.sublist (hordered.filter _)
  · rw [List.countP_eq_length_filter, ← hcounts]
    exact hinformed.tells.length_filter_le
  · have hlength := hinformed.tells.length_le
    rw [List.length_drop, List.length_take, Nat.min_eq_left hinformed.le_length] at hlength
    exact hcounts ▸ hlength
  · intro hlost hdelivered hwaits requestId event hrecord hlater
    obtain ⟨hlast, hterminal, howner⟩ := getLast_of_recent hcoherent hrecord
    refine ⟨hterminal, ?_⟩
    -- The record is the last event of the operation, so it is among those after the start.
    have hsplit : coordinator.eventsOf requestId =
        about OperationEvent.requestId (coordinator.coordinator.events.take subscriber.start)
            requestId ++
          about OperationEvent.requestId (coordinator.coordinator.events.drop subscriber.start)
            requestId := by
      rw [← about_append, List.take_append_drop]
      rfl
    rw [hsplit, List.getLast?_append_of_ne_nil _ hlater] at hlast
    rw [hcomplete hlost hdelivered hwaits, about, List.filter_comm]
    exact getLast_filter hlast (decide_eq_true howner)

/-- In every interleaving of the operations with the subscriptions, each client is told of its own
operations in order; every event was received, or counted as lost, or was in an emission that
failed; and once a client has everything and lost nothing, it knows the outcome of its
operations. -/
theorem subscription_follows {channel : Receiver OperationEvent}
    {state : State Operation.State OperationEvent}
    (hreach : (system operationSource channel).Reachable state) {id : String}
    {subscriber : Subscriber OperationEvent}
    (hsubscriber : state.subscribers.lookup id = some subscriber) :
    Follows channel state.coordinator subscriber := by
  have hinvariant := Invariant.of_reachable hreach
  exact (hinvariant.informed id subscriber hsubscriber).follows
    (coherent_of_reachable hinvariant.reachable)

/-- A client connects a device. Of its two subscriptions one gets all events; for the other the
first event has no JSON form and the emission of the second fails. -/
def connecting : List (Action Operation.Action) :=
  [.start "subscription-1" ":1.7", .start "subscription-2" ":1.7",
    .coordinate (.start "operation-a" (.ok ("device", .connect)) (some ":1.7") none none),
    .coordinate (.release "operation-a"), .coordinate (.wake "operation-a"),
    .coordinate (.publish "operation-a"), .forward "subscription-1" true true,
    .coordinate (.report "operation-a" "connecting"), .forward "subscription-2" false true,
    .coordinate (.backendReturns "operation-a" (.ok ⟨[]⟩)), .coordinate (.settle "operation-a"),
    .forward "subscription-2" true false, .forward "subscription-2" true true,
    .forward "subscription-1" true true, .forward "subscription-1" true true]

theorem subscription_follows_connecting : ∃ state complete partly,
    (system operationSource (.keeping channelCapacity)).Reachable state ∧
      state.subscribers.lookup "subscription-1" = some complete ∧
      state.subscribers.lookup "subscription-2" = some partly ∧
      complete.received.map OperationEvent.event = [.started, .progress, .completed] ∧
      complete.lost = 0 ∧ complete.undelivered = 0 ∧
      partly.received.map OperationEvent.event = [.completed] ∧
      partly.lost = 1 ∧ partly.undelivered = 1 ∧
      Follows (.keeping channelCapacity) state.coordinator complete ∧
      Follows (.keeping channelCapacity) state.coordinator partly :=
  ⟨_, _, _, ⟨connecting, rfl⟩, rfl, rfl, rfl, rfl, rfl, rfl, rfl, rfl,
    @subscription_follows _ _ ⟨connecting, rfl⟩ "subscription-1" _ rfl,
    @subscription_follows _ _ ⟨connecting, rfl⟩ "subscription-2" _ rfl⟩

end Operations

end BtDaemon.Daemon.Subscription
