import BtDaemon.Backend
import BtDaemon.Daemon.Published
import Mathlib.Data.List.Nodup

/-!
# Observations of the published state

A client learns the state of the daemon from the events of a subscription, which skip states that
were replaced before they were sent, and from reads, which answer with the state of their moment.
Both carry the watermark of the state, and they may arrive in any order. A client that takes only
what follows the state it shows, by the watermarks alone, never goes back, and it shows the current
state once everything arrived.
-/

namespace BtDaemon.Daemon

open Transition

/-! ## What is sent -/

inductive SharedSnapshot (Snap : Type) where
  | loading
  | available (snapshot : Snap)
  | unavailable (error : String)
  deriving DecidableEq

inductive WatchPhase where
  | initial
  | changed
  deriving DecidableEq, Repr

def watchEvent : WatchPhase → String
  | .initial => "subscribed"
  | .changed => "changed"

inductive EventData (Snap : Type) where
  | status (status : String)
  | snapshot (snapshot : Snap)
  | error (error : ApiError)

inductive Message (Snap : Type) where
  | event (event : String) (data : EventData Snap) (state : Watermark)
  | response (result : Except ApiError Snap) (state : Watermark)

section Messages

variable {Snap : Type}

def SharedSnapshot.response : SharedSnapshot Snap → Except ApiError Snap
  | .loading => .error (error "snapshot-loading" "Bluetooth snapshot is loading")
  | .available snapshot => .ok snapshot
  | .unavailable message => .error (error "bluez-unavailable" message)

/-- The value and its watermark are captured together. -/
def Published.response (self : Published (SharedSnapshot Snap)) : Message Snap :=
  .response self.value.response self.watermark

def snapshotFields (state : Published (SharedSnapshot Snap)) (event : String) : Message Snap :=
  match state.value with
  | .loading => .event "loading" (.status "loading") state.watermark
  | .available snapshot => .event event (.snapshot snapshot) state.watermark
  | .unavailable message =>
    .event "unavailable" (.error (error "bluez-unavailable" message)) state.watermark

/-- What a client reads off an error. -/
def observedError (error : ApiError) : SharedSnapshot Snap :=
  if error.code = "snapshot-loading" then .loading else .unavailable error.message

/-- What a client reads off a message. -/
def Message.observed : Message Snap → Published (SharedSnapshot Snap)
  | .event _ (.status _) state => ⟨.loading, state⟩
  | .event _ (.snapshot snapshot) state => ⟨.available snapshot, state⟩
  | .event _ (.error error) state => ⟨observedError error, state⟩
  | .response (.ok snapshot) state => ⟨.available snapshot, state⟩
  | .response (.error error) state => ⟨observedError error, state⟩

@[simp]
theorem observed_response (state : Published (SharedSnapshot Snap)) :
    state.response.observed = state := by
  obtain ⟨value, watermark⟩ := state
  cases value <;> rfl

@[simp]
theorem observed_snapshotFields (state : Published (SharedSnapshot Snap)) (event : String) :
    (snapshotFields state event).observed = state := by
  obtain ⟨value, watermark⟩ := state
  cases value <;> rfl

end Messages

/-! ## Positions in a list -/

section Pairs

variable {Item : Type} {items rest : List Item} {first second : Item}

theorem pair_cases (hfirst : first ∈ items) (hsecond : second ∈ items) :
    first = second ∨ [first, second].Sublist items ∨ [second, first].Sublist items := by
  induction items with
  | nil => exact nomatch hfirst
  | cons item items ih =>
    obtain rfl | hlater := List.mem_cons.mp hfirst
    · obtain rfl | hother := List.mem_cons.mp hsecond
      · exact .inl rfl
      · exact .inr (.inl ((List.singleton_sublist.mpr hother).cons_cons _))
    · obtain rfl | hother := List.mem_cons.mp hsecond
      · exact .inr (.inr ((List.singleton_sublist.mpr hlater).cons_cons _))
      · exact (ih hlater hother).imp_right (Or.imp (.cons _) (.cons _))

/-- In a list without repetitions, what stands before the first item of a sublist extends it. -/
theorem cons_sublist (hnodup : items.Nodup) (hpair : [first, second].Sublist items)
    (hrest : (second :: rest).Sublist items) : (first :: second :: rest).Sublist items := by
  induction items with
  | nil => exact nomatch hpair
  | cons item items ih =>
    obtain ⟨hitem, hnodup⟩ := List.nodup_cons.mp hnodup
    have hbehind : second ∈ items → (second :: rest).Sublist items := by
      intro hsecond
      cases hrest with
      | cons _ hrest => exact hrest
      | cons_cons => exact absurd hsecond hitem
    cases hpair with
    | cons _ hpair => exact (ih hnodup hpair (hbehind (hpair.subset (by simp)))).cons _
    | cons_cons _ hsecond =>
      exact (hbehind (List.singleton_sublist.mp hsecond)).cons_cons _

end Pairs

/-! ## The order of the watermarks -/

/-- The rule of a client: a higher revision of the epoch, or the epoch after it. -/
def Watermark.follows (incoming shown : Watermark) : Bool :=
  (incoming.epoch == shown.epoch && decide (shown.revision < incoming.revision)) ||
    incoming.previousEpoch == some shown.epoch

theorem Watermark.follows_iff {incoming shown : Watermark} : incoming.follows shown = true ↔
    incoming.epoch = shown.epoch ∧ shown.revision < incoming.revision ∨
      incoming.previousEpoch = some shown.epoch := by
  simp [Watermark.follows]

/-- What the watermarks of two states say when the first was published later. -/
structure Watermark.Supersedes (newer older : Watermark) : Prop where
  higher : newer.epoch = older.epoch → older.revision < newer.revision
  /-- No epoch names a later one as its predecessor. -/
  unnamed : older.previousEpoch ≠ some newer.epoch
  linked : newer.epoch ≠ older.epoch → newer.previousEpoch ≠ none

namespace Publisher

variable {Value : Type}

/-- The states stand in the order of their watermarks, the newest first. -/
structure Ordered (publisher : Publisher Value) : Prop where
  invariant : Invariant publisher
  supersedes : publisher.states.Pairwise fun newer older ↦
    newer.watermark.Supersedes older.watermark

/-- The first state was published after the second. -/
def Newer (publisher : Publisher Value) (newer older : Published Value) : Prop :=
  [newer, older].Sublist publisher.states

namespace Ordered

variable {publisher : Publisher Value}

theorem init (value : Value) (uuid : String) : Ordered (Publisher.init value uuid) where
  invariant := Invariant.init value uuid
  supersedes := List.pairwise_singleton _ _

theorem current_supersedes (hordered : Ordered publisher) {state : Published Value}
    (hstate : state ∈ publisher.earlier) :
    publisher.current.watermark.Supersedes state.watermark :=
  (List.pairwise_cons.mp hordered.supersedes).1 state hstate

theorem previous_ne (hordered : Ordered publisher) {state : Published Value}
    (hstate : state ∈ publisher.states) :
    state.watermark.previousEpoch ≠ some state.watermark.epoch :=
  fun hown ↦ (hordered.invariant.predecessor state hstate _ hown).1 rfl

theorem previous_drawn (hordered : Ordered publisher) {state : Published Value} {epoch : String}
    (hstate : state ∈ publisher.states) (hprevious : state.watermark.previousEpoch = some epoch) :
    epoch ∈ publisher.drawn := by
  obtain ⟨-, last, hlast, hidentity⟩ := hordered.invariant.predecessor state hstate epoch hprevious
  have hepoch : last.watermark.epoch = epoch := congrArg Prod.fst hidentity
  exact hepoch ▸ hordered.invariant.drawn last hlast

/-- The next revision supersedes every state of the publisher. -/
theorem supersedes_advance (hordered : Ordered publisher) {state : Published Value}
    (hstate : state ∈ publisher.states) :
    Watermark.Supersedes { publisher.current.watermark with
      revision := publisher.current.watermark.revision + 1 } state.watermark := by
  rcases List.mem_cons.mp hstate with rfl | hearlier
  · exact ⟨fun _ ↦ Nat.lt_succ_self _, hordered.previous_ne hstate, fun hother ↦ absurd rfl hother⟩
  · have hsupersedes := hordered.current_supersedes hearlier
    exact ⟨fun hepoch ↦ Nat.lt_succ_of_lt (hsupersedes.higher hepoch), hsupersedes.unnamed,
      hsupersedes.linked⟩

/-- So does the first revision of a new epoch. -/
theorem supersedes_rollOver (hordered : Ordered publisher) {uuid : String}
    (hfresh : uuid ∉ publisher.drawn) {state : Published Value}
    (hstate : state ∈ publisher.states) :
    Watermark.Supersedes ⟨uuid, 1, some publisher.current.watermark.epoch⟩ state.watermark where
  higher hepoch := by
    have hdrawn := hordered.invariant.drawn state hstate
    rw [← hepoch] at hdrawn
    exact absurd hdrawn hfresh
  unnamed hnamed := hfresh (hordered.previous_drawn hstate hnamed)
  linked _ := nofun

theorem step [BEq Value] (hordered : Ordered publisher) {call : Value × String}
    {later : Publisher Value} (hstep : publisher.step call = some later) : Ordered later := by
  refine ⟨hordered.invariant.step hstep, ?_⟩
  obtain ⟨next, uuid⟩ := call
  obtain ⟨hfresh, hlater⟩ := Option.ite_none_left_eq_some.mp hstep
  obtain rfl := Option.some.inj hlater
  unfold update
  split
  · exact hordered.supersedes
  · next hdiffers =>
    have hchanged : (publisher.current.value == next) = false := Bool.of_not_eq_true hdiffers
    refine List.pairwise_cons.mpr ⟨fun state hstate ↦ ?_, hordered.supersedes⟩
    by_cases hfull : publisher.current.watermark.revision = maxRevision
    · rw [Published.update_of_full hchanged hfull]
      apply hordered.supersedes_rollOver _ hstate
      intro hused
      apply hfresh
      rw [Published.rollsOver_of_full hchanged hfull, decide_eq_true hused]
      rfl
    · rw [Published.update_of_room hchanged hfull]
      exact hordered.supersedes_advance hstate

theorem supersedes_of_newer (hordered : Ordered publisher) {newer older : Published Value}
    (hnewer : publisher.Newer newer older) : newer.watermark.Supersedes older.watermark :=
  List.pairwise_iff_forall_sublist.mp hordered.supersedes hnewer

theorem nodup (hordered : Ordered publisher) : publisher.states.Nodup :=
  List.Nodup.of_map Published.identity hordered.invariant.unique

/-- A client never goes back: what follows the state it shows was published later. -/
theorem newer_of_follows (hordered : Ordered publisher) {incoming shown : Published Value}
    (hincoming : incoming ∈ publisher.states) (hshown : shown ∈ publisher.states)
    (hfollows : incoming.watermark.follows shown.watermark = true) :
    publisher.Newer incoming shown := by
  obtain rfl | hnewer | holder := pair_cases hincoming hshown
  · obtain ⟨-, hlt⟩ | hown := Watermark.follows_iff.mp hfollows
    · exact absurd hlt (Nat.lt_irrefl _)
    · exact absurd hown (hordered.previous_ne hincoming)
  · exact hnewer
  · have hsupersedes := hordered.supersedes_of_newer holder
    obtain ⟨hepoch, hlt⟩ | hnamed := Watermark.follows_iff.mp hfollows
    · exact absurd (hsupersedes.higher hepoch.symm) (Nat.lt_asymm hlt)
    · exact absurd hnamed hsupersedes.unnamed

/-- Two of at most two UUIDs that differ from a third are the same. -/
theorem eq_of_short {drawn : List String} (hshort : drawn.length ≤ 2) {first second third : String}
    (hfirst : first ∈ drawn) (hsecond : second ∈ drawn) (hthird : third ∈ drawn)
    (hfirstThird : first ≠ third) (hsecondThird : second ≠ third) : first = second := by
  match drawn, hshort with
  | [], _ => exact nomatch hfirst
  | [only], _ =>
    rw [List.mem_singleton.mp hfirst, List.mem_singleton.mp hsecond]
  | [one, other], _ =>
    simp only [List.mem_cons, List.not_mem_nil, or_false] at hfirst hsecond hthird
    obtain rfl | rfl := hthird
    · rw [hfirst.resolve_left hfirstThird, hsecond.resolve_left hsecondThird]
    · rw [hfirst.resolve_right hfirstThird, hsecond.resolve_right hsecondThird]

/-- While there was at most one new epoch, what was published later follows. -/
theorem follows_of_newer (hordered : Ordered publisher) (hshort : publisher.drawn.length ≤ 2)
    {incoming shown : Published Value} (hnewer : publisher.Newer incoming shown) :
    incoming.watermark.follows shown.watermark = true := by
  have hincoming : incoming ∈ publisher.states := hnewer.subset List.mem_cons_self
  have hshown : shown ∈ publisher.states := hnewer.subset (by simp)
  have hsupersedes := hordered.supersedes_of_newer hnewer
  rw [Watermark.follows_iff]
  by_cases hepoch : incoming.watermark.epoch = shown.watermark.epoch
  · exact .inl ⟨hepoch, hsupersedes.higher hepoch⟩
  · obtain ⟨epoch, hprevious⟩ := Option.ne_none_iff_exists'.mp (hsupersedes.linked hepoch)
    have hother : epoch ≠ incoming.watermark.epoch :=
      (hordered.invariant.predecessor incoming hincoming epoch hprevious).1
    have hsame := eq_of_short hshort (hordered.previous_drawn hincoming hprevious)
      (hordered.invariant.drawn shown hshown) (hordered.invariant.drawn incoming hincoming) hother
        (Ne.symm hepoch)
    exact .inr (hprevious.trans (congrArg some hsame))

end Ordered

/-- An update leaves the publisher alone or puts one state in front. -/
theorem step_cases [BEq Value] {publisher later : Publisher Value} {call : Value × String}
    (hstep : publisher.step call = some later) :
    later = publisher ∨
      later.earlier = publisher.states ∧ publisher.drawn.length ≤ later.drawn.length := by
  obtain ⟨next, uuid⟩ := call
  obtain ⟨-, hlater⟩ := Option.ite_none_left_eq_some.mp hstep
  obtain rfl := Option.some.inj hlater
  unfold update
  split
  · exact .inl rfl
  · refine .inr ⟨rfl, ?_⟩
    change _ ≤ (if _ then _ else _ : List String).length
    split
    · exact Nat.le_succ _
    · exact Nat.le_refl _

end Publisher

/-! ## A client -/

/-- A client with one subscription that also reads. -/
structure Observer (Snap : Type) where
  publisher : Publisher (SharedSnapshot Snap)
  /-- The version that the forwarder sent last. -/
  seen : Option ℕ
  inFlight : List (Message Snap)
  arrived : List (Published (SharedSnapshot Snap))
  /-- The states that the client showed, the one it shows first. -/
  shown : List (Published (SharedSnapshot Snap))

namespace Observer

variable {Snap : Type}

inductive Action (Snap : Type) where
  | update (next : SharedSnapshot Snap) (uuid : String)
  /-- A new subscription takes the place of the old one. -/
  | subscribe
  | forward
  | read
  /-- Events and responses arrive on different ways. -/
  | receive (index : ℕ)

def init (uuid : String) : Observer Snap := ⟨.init .loading uuid, none, [], [], []⟩

/-- A watch channel counts the states that were replaced. -/
def version (observer : Observer Snap) : ℕ := observer.publisher.earlier.length

def send (observer : Observer Snap) (message : Message Snap) : Observer Snap :=
  { observer with inFlight := observer.inFlight ++ [message] }

/-- What the client shows after it saw the state. -/
def prefer (shown : List (Published (SharedSnapshot Snap)))
    (state : Published (SharedSnapshot Snap)) :
    List (Published (SharedSnapshot Snap)) :=
  match shown with
  | [] => [state]
  | top :: rest =>
    if state.watermark.follows top.watermark then state :: top :: rest else top :: rest

def take (observer : Observer Snap) (state : Published (SharedSnapshot Snap)) : Observer Snap :=
  { observer with arrived := state :: observer.arrived, shown := prefer observer.shown state }

/-- `forward_watch` sends the first state as it is and then each change. -/
def phase (observer : Observer Snap) : WatchPhase :=
  if observer.seen.isNone then .initial else .changed

def step [DecidableEq Snap] (observer : Observer Snap) : Action Snap → Option (Observer Snap)
  | .update next uuid =>
    (observer.publisher.step (next, uuid)).map fun publisher ↦
      { observer with publisher := publisher }
  | .subscribe => some { observer with seen := none }
  | .forward =>
    if observer.seen = some observer.version then none
    else
      some ({ observer with seen := some observer.version }.send
        (snapshotFields observer.publisher.current (watchEvent observer.phase)))
  | .read => some (observer.send observer.publisher.current.response)
  | .receive index => do
    let message ← observer.inFlight[index]?
    return { observer with inFlight := observer.inFlight.eraseIdx index }.take message.observed

def system [DecidableEq Snap] (uuid : String) : System (Observer Snap) (Action Snap) :=
  ⟨init uuid, step⟩

/-- The client shows this state, and none of the states that it saw was published later. -/
def ShowsNewest (observer : Observer Snap) (state : Published (SharedSnapshot Snap)) : Prop :=
  ∃ top rest, observer.shown = top :: rest ∧ (top = state ∨ observer.publisher.Newer top state)

structure Invariant (observer : Observer Snap) : Prop where
  ordered : observer.publisher.Ordered
  inFlight : ∀ message ∈ observer.inFlight, message.observed ∈ observer.publisher.states
  arrived : ∀ state ∈ observer.arrived, state ∈ observer.publisher.states
  shown : observer.shown.Sublist observer.publisher.states
  newest : observer.publisher.drawn.length ≤ 2 → ∀ state ∈ observer.arrived,
    observer.ShowsNewest state
  seen_le : ∀ version, observer.seen = some version → version ≤ observer.version
  sent : observer.seen = some observer.version →
    observer.publisher.current ∈ observer.arrived ∨
      ∃ message ∈ observer.inFlight, message.observed = observer.publisher.current

namespace Invariant

variable {observer next : Observer Snap}

theorem init (uuid : String) : Invariant (Observer.init uuid : Observer Snap) where
  ordered := .init _ _
  inFlight _ hmessage := nomatch hmessage
  arrived _ hstate := nomatch hstate
  shown := List.nil_sublist _
  newest _ _ hstate := nomatch hstate
  seen_le _ hseen := nomatch hseen
  sent hseen := nomatch hseen

theorem update [DecidableEq Snap] (hinvariant : Invariant observer)
    {call : SharedSnapshot Snap × String} {later : Publisher (SharedSnapshot Snap)}
    (hstep : observer.publisher.step call = some later) :
    Invariant { observer with publisher := later } := by
  obtain rfl | ⟨hearlier, hdrawn⟩ := Publisher.step_cases hstep
  · exact hinvariant
  have hmore : observer.publisher.states.Sublist later.states := by
    rw [← hearlier]
    exact List.sublist_cons_self _ _
  have hversion : later.earlier.length = observer.version + 1 := congrArg List.length hearlier
  refine ⟨hinvariant.ordered.step hstep, ?_, ?_, hinvariant.shown.trans hmore, ?_, ?_, ?_⟩
  · exact fun message hmessage ↦ hmore.subset (hinvariant.inFlight message hmessage)
  · exact fun state hstate ↦ hmore.subset (hinvariant.arrived state hstate)
  · intro hshort state hstate
    obtain ⟨top, rest, hshown, hnewest⟩ :=
      hinvariant.newest (Nat.le_trans hdrawn hshort) state hstate
    exact ⟨top, rest, hshown, hnewest.imp_right fun hnewer ↦ hnewer.trans hmore⟩
  · intro version hseen
    have hle := hinvariant.seen_le version hseen
    change version ≤ later.earlier.length
    omega
  · intro hseen
    have hle := hinvariant.seen_le _ hseen
    change later.earlier.length ≤ observer.version at hle
    omega

theorem subscribe (hinvariant : Invariant observer) : Invariant { observer with seen := none } where
  ordered := hinvariant.ordered
  inFlight := hinvariant.inFlight
  arrived := hinvariant.arrived
  shown := hinvariant.shown
  newest := hinvariant.newest
  seen_le _ hseen := nomatch hseen
  sent hseen := nomatch hseen

/-- A message about the current state is sent. -/
theorem send (hinvariant : Invariant observer) {message : Message Snap}
    (hmessage : message.observed = observer.publisher.current) {seen : Option ℕ}
    (hseen : seen = observer.seen ∨ seen = some observer.version) :
    Invariant ({ observer with seen := seen }.send message) where
  ordered := hinvariant.ordered
  inFlight other hother := by
    rcases List.mem_append.mp hother with hbefore | hlast
    · exact hinvariant.inFlight other hbefore
    · rw [List.mem_singleton.mp hlast, hmessage]
      exact List.mem_cons_self
  arrived := hinvariant.arrived
  shown := hinvariant.shown
  newest := hinvariant.newest
  seen_le version hversion := by
    obtain rfl | rfl := hseen
    · exact hinvariant.seen_le version hversion
    · exact Nat.le_of_eq (Option.some.inj hversion).symm
  sent _ := .inr ⟨message, List.mem_append_right _ (List.mem_singleton_self _), hmessage⟩

/-- The client takes what follows the state that it shows. -/
theorem shown_take (hinvariant : Invariant observer) {state : Published (SharedSnapshot Snap)}
    (hstate : state ∈ observer.publisher.states) :
    (prefer observer.shown state).Sublist observer.publisher.states := by
  have hshown := hinvariant.shown
  cases htop : observer.shown with
  | nil => exact List.singleton_sublist.mpr hstate
  | cons top rest =>
    rw [htop] at hshown
    change (if state.watermark.follows top.watermark then state :: top :: rest
      else top :: rest).Sublist _
    split
    · next hfollows =>
      have hnewer := hinvariant.ordered.newer_of_follows hstate
        (hshown.subset List.mem_cons_self) hfollows
      exact cons_sublist hinvariant.ordered.nodup hnewer hshown
    · exact hshown

theorem newest_take (hinvariant : Invariant observer) {state : Published (SharedSnapshot Snap)}
    (hstate : state ∈ observer.publisher.states) (hshort : observer.publisher.drawn.length ≤ 2)
    {seen : Published (SharedSnapshot Snap)} (hseen : seen = state ∨ seen ∈ observer.arrived) :
    (observer.take state).ShowsNewest seen := by
  have hshown := hinvariant.shown
  unfold ShowsNewest
  change ∃ top rest, prefer observer.shown state = top :: rest ∧ _
  cases htop : observer.shown with
  | nil =>
    refine ⟨state, [], rfl, .inl ?_⟩
    obtain rfl | hbefore := hseen
    · rfl
    · obtain ⟨top, rest, hcons, -⟩ := hinvariant.newest hshort seen hbefore
      exact nomatch htop.symm.trans hcons
  | cons top rest =>
    rw [htop] at hshown
    have htopState := hshown.subset List.mem_cons_self
    have hbefore : seen ∈ observer.arrived → top = seen ∨ observer.publisher.Newer top seen := by
      intro harrived
      obtain ⟨other, others, hcons, hnewest⟩ := hinvariant.newest hshort seen harrived
      obtain ⟨rfl, -⟩ := List.cons.inj (htop.symm.trans hcons)
      exact hnewest
    change ∃ first others, (if state.watermark.follows top.watermark then state :: top :: rest
      else top :: rest) = first :: others ∧ _
    split
    · next hfollows =>
      have hnewer := hinvariant.ordered.newer_of_follows hstate htopState hfollows
      refine ⟨state, top :: rest, rfl, ?_⟩
      obtain rfl | harrived := hseen
      · exact .inl rfl
      obtain rfl | holder := hbefore harrived
      · exact .inr hnewer
      · have htriple := cons_sublist hinvariant.ordered.nodup hnewer holder
        exact .inr (List.Sublist.trans ((List.sublist_cons_self _ _).cons_cons _) htriple)
    · next hstays =>
      refine ⟨top, rest, rfl, ?_⟩
      obtain rfl | harrived := hseen
      · obtain rfl | hnewer | holder := pair_cases hstate htopState
        · exact .inl rfl
        · exact absurd (hinvariant.ordered.follows_of_newer hshort hnewer) hstays
        · exact .inr holder
      · exact hbefore harrived

theorem receive (hinvariant : Invariant observer) {index : ℕ} {message : Message Snap}
    (hmessage : observer.inFlight[index]? = some message) :
    Invariant ({ observer with inFlight := observer.inFlight.eraseIdx index }.take
      message.observed) := by
  have hstate := hinvariant.inFlight message (List.mem_of_getElem? hmessage)
  refine ⟨hinvariant.ordered, ?_, ?_, hinvariant.shown_take hstate, ?_, hinvariant.seen_le, ?_⟩
  · exact fun other hother ↦ hinvariant.inFlight other (List.mem_of_mem_eraseIdx hother)
  · intro state harrived
    obtain rfl | hbefore := List.mem_cons.mp harrived
    · exact hstate
    · exact hinvariant.arrived state hbefore
  · intro hshort state harrived
    exact hinvariant.newest_take hstate hshort (List.mem_cons.mp harrived)
  · intro hseen
    obtain harrived | ⟨other, hother, hcurrent⟩ := hinvariant.sent hseen
    · exact .inl (List.mem_cons_of_mem _ harrived)
    · obtain ⟨place, hplace⟩ := List.mem_iff_getElem?.mp hother
      by_cases hsame : place = index
      · subst hsame
        obtain rfl := Option.some.inj (hmessage.symm.trans hplace)
        have hfirst : observer.publisher.current ∈ message.observed :: observer.arrived := by
          rw [← hcurrent]
          exact List.mem_cons_self
        exact .inl hfirst
      · exact .inr ⟨other, List.mem_eraseIdx_iff_getElem?.mpr ⟨place, hsame, hplace⟩, hcurrent⟩

theorem step [DecidableEq Snap] {action : Action Snap} (hinvariant : Invariant observer)
    (hstep : observer.step action = some next) : Invariant next := by
  cases action with
  | update state uuid =>
    obtain ⟨later, hupdate, rfl⟩ := Option.map_eq_some_iff.mp hstep
    exact hinvariant.update hupdate
  | subscribe =>
    obtain rfl := Option.some.inj hstep
    exact hinvariant.subscribe
  | forward =>
    obtain ⟨-, hnext⟩ := Option.ite_none_left_eq_some.mp hstep
    obtain rfl := Option.some.inj hnext
    exact hinvariant.send (observed_snapshotFields _ _) (.inr rfl)
  | read =>
    obtain rfl := Option.some.inj hstep
    exact hinvariant.send (observed_response _) (.inl rfl)
  | receive index =>
    obtain ⟨message, hmessage, hnext⟩ := Option.bind_eq_some_iff.mp hstep
    obtain rfl := Option.some.inj hnext
    exact hinvariant.receive hmessage

/-- Nothing is newer than the current state. -/
theorem eq_current (hinvariant : Invariant observer)
    (hshows : observer.ShowsNewest observer.publisher.current) :
    ∃ rest, observer.shown = observer.publisher.current :: rest := by
  obtain ⟨top, rest, hshown, rfl | hnewer⟩ := hshows
  · exact ⟨rest, hshown⟩
  · have hcurrent := (List.nodup_cons.mp hinvariant.ordered.nodup).1
    have hearlier : observer.publisher.current ∈ observer.publisher.earlier := by
      cases hnewer with
      | cons _ hpair => exact hpair.subset (by simp)
      | cons_cons _ hsingle => exact List.singleton_sublist.mp hsingle
    exact absurd hearlier hcurrent

end Invariant

structure Consistent (observer : Observer Snap) : Prop where
  /-- The client shows published states in the order of their publication, none of them twice. -/
  shown : observer.shown.Sublist observer.publisher.states
  /-- Until a second epoch follows the first one, it shows the newest state that arrived. -/
  newest : observer.publisher.drawn.length ≤ 2 → ∀ state ∈ observer.arrived,
    observer.ShowsNewest state
  /-- It shows the current state once the forwarder waits and everything arrived. -/
  current : observer.publisher.drawn.length ≤ 2 → observer.seen = some observer.version →
    observer.inFlight = [] → ∃ rest, observer.shown = observer.publisher.current :: rest

/-- In every interleaving of updates, events, reads and their arrivals, the watermarks alone keep a
client consistent. -/
theorem observer_consistent [DecidableEq Snap] {uuid : String} {observer : Observer Snap}
    (hreach : (system uuid).Reachable observer) : Consistent observer := by
  have hinvariant : Invariant observer :=
    hreach.invariant (Invariant.init uuid) fun _ _ _ hinvariant hstep ↦ hinvariant.step hstep
  refine ⟨hinvariant.shown, hinvariant.newest, fun hshort hseen hempty ↦ ?_⟩
  obtain harrived | ⟨message, hmessage, -⟩ := hinvariant.sent hseen
  · exact hinvariant.eq_current (hinvariant.newest hshort _ harrived)
  · rw [hempty] at hmessage
    exact nomatch hmessage

/-- A read is answered before the first snapshot, but its answer arrives last. -/
def overtaken : List (Action ℕ) :=
  [.subscribe, .forward, .read, .update (.available 1) "a", .forward, .receive 2, .receive 0,
    .receive 0]

theorem observer_consistent_overtaken : ∃ observer : Observer ℕ,
    (system "epoch").run (init "epoch") overtaken = some observer ∧
      observer.shown.map Published.identity = [("epoch", 2)] ∧
      (∃ rest, observer.shown = observer.publisher.current :: rest) :=
  ⟨_, rfl, rfl,
    (observer_consistent (⟨overtaken, rfl⟩ : (system "epoch").Reachable _)).current
      (by decide) rfl rfl⟩

end Observer

end BtDaemon.Daemon
