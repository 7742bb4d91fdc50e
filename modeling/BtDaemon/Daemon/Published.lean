import BtDaemon.Foundation.Transition

/-!
# Published states and their watermarks

A publisher holds one state of the daemon together with the epoch and the revision that identify
it. A new value gets the next revision; after the last revision that a client can represent a new
epoch begins, which names the one before it. An update runs under the lock of the watch channel,
and the UUID that it would draw for a new epoch is its argument.
-/

namespace BtDaemon.Daemon

open Transition

def maxRevision : ℕ := 2 ^ 53 - 1

theorem one_le_maxRevision : 1 ≤ maxRevision := by decide

structure Watermark where
  epoch : String
  revision : ℕ
  previousEpoch : Option String
  deriving DecidableEq

structure Published (Value : Type) where
  value : Value
  watermark : Watermark

namespace Published

variable {Value : Type}

def new (value : Value) (uuid : String) : Published Value := ⟨value, ⟨uuid, 1, none⟩⟩

/-- The pair that a client tells states apart by. -/
def identity (published : Published Value) : String × ℕ :=
  (published.watermark.epoch, published.watermark.revision)

variable [BEq Value]

/-- `send_if_modified` with the closure of `update`. -/
def update (current : Published Value) (next : Value) (uuid : String) : Published Value :=
  if current.value == next then current
  else if current.watermark.revision = maxRevision then
    ⟨next, ⟨uuid, 1, some current.watermark.epoch⟩⟩
  else ⟨next, { current.watermark with revision := current.watermark.revision + 1 }⟩

/-- The update of this state begins a new epoch. -/
def rollsOver (current : Published Value) (next : Value) : Bool :=
  !(current.value == next) && current.watermark.revision == maxRevision

theorem update_of_equal {current : Published Value} {next : Value}
    (hequal : (current.value == next) = true) (uuid : String) :
    current.update next uuid = current := if_pos hequal

theorem update_of_room {current : Published Value} {next : Value}
    (hchanged : (current.value == next) = false)
    (hroom : current.watermark.revision ≠ maxRevision) (uuid : String) :
    current.update next uuid =
      ⟨next, { current.watermark with revision := current.watermark.revision + 1 }⟩ := by
  rw [update, hchanged, if_neg hroom]
  rfl

theorem update_of_full {current : Published Value} {next : Value}
    (hchanged : (current.value == next) = false)
    (hfull : current.watermark.revision = maxRevision) (uuid : String) :
    current.update next uuid = ⟨next, ⟨uuid, 1, some current.watermark.epoch⟩⟩ := by
  rw [update, hchanged, if_pos hfull]
  rfl

theorem rollsOver_of_full {current : Published Value} {next : Value}
    (hchanged : (current.value == next) = false)
    (hfull : current.watermark.revision = maxRevision) : current.rollsOver next = true := by
  rw [rollsOver, hchanged, hfull]
  rfl

theorem rollsOver_of_room {current : Published Value} {next : Value}
    (hroom : current.watermark.revision ≠ maxRevision) : current.rollsOver next = false := by
  rw [rollsOver, beq_eq_false_iff_ne.mpr hroom, Bool.and_false]

end Published

/-! ## Runs -/

/-- The published state, the states before it with the newest first, and the UUIDs in use. -/
structure Publisher (Value : Type) where
  current : Published Value
  earlier : List (Published Value)
  drawn : List String

namespace Publisher

variable {Value : Type}

def init (value : Value) (uuid : String) : Publisher Value := ⟨.new value uuid, [], [uuid]⟩

/-- Every state that was published. -/
def states (publisher : Publisher Value) : List (Published Value) :=
  publisher.current :: publisher.earlier

def update [BEq Value] (publisher : Publisher Value) (next : Value) (uuid : String) : Publisher Value :=
  if publisher.current.value == next then publisher
  else
    { current := publisher.current.update next uuid
      earlier := publisher.states
      drawn := if publisher.current.rollsOver next then uuid :: publisher.drawn
        else publisher.drawn }

/-- A UUID that is drawn is a fresh one. -/
def step [BEq Value] (publisher : Publisher Value) : Value × String → Option (Publisher Value)
  | (next, uuid) =>
    if publisher.current.rollsOver next && decide (uuid ∈ publisher.drawn) then none
    else some (publisher.update next uuid)

def system [BEq Value] (value : Value) (uuid : String) :
    System (Publisher Value) (Value × String) :=
  ⟨init value uuid, step⟩

/-! ## What a watermark promises -/

/-- What one update does: nothing for an equal value, and otherwise one step of the revision or
the first revision of a new epoch that names its predecessor. -/
structure Advances [BEq Value] (current : Published Value) (next : Value) (uuid : String) :
    Prop where
  unchanged : (current.update next uuid).watermark = current.watermark ↔
    (current.value == next) = true
  kept : (current.value == next) = true → current.update next uuid = current
  published : (current.value == next) = false → (current.update next uuid).value = next
  advanced : (current.value == next) = false → current.watermark.revision ≠ maxRevision →
    (current.update next uuid).watermark =
      { current.watermark with revision := current.watermark.revision + 1 }
  rolledOver : (current.value == next) = false → current.watermark.revision = maxRevision →
    (current.update next uuid).watermark = ⟨uuid, 1, some current.watermark.epoch⟩

structure Identifies [BEq Value] (publisher : Publisher Value) : Prop where
  unique : (publisher.states.map Published.identity).Nodup
  bounded : ∀ state ∈ publisher.states,
    1 ≤ state.watermark.revision ∧ state.watermark.revision ≤ maxRevision
  /-- The whole epoch names the same predecessor. -/
  lineage : ∀ first ∈ publisher.states, ∀ second ∈ publisher.states,
    first.watermark.epoch = second.watermark.epoch →
      first.watermark.previousEpoch = second.watermark.previousEpoch
  /-- The predecessor is an epoch that reached the last revision. -/
  predecessor : ∀ state ∈ publisher.states, ∀ epoch,
    state.watermark.previousEpoch = some epoch → epoch ≠ state.watermark.epoch ∧
      ∃ last ∈ publisher.states, last.identity = (epoch, maxRevision)
  advances : ∀ next uuid, Advances publisher.current next uuid

theorem advances [BEq Value] (current : Published Value) (next : Value) (uuid : String) :
    Advances current next uuid where
  unchanged := by
    constructor
    · intro hsame
      by_contra hchanged
      have hfalse : (current.value == next) = false := Bool.of_not_eq_true hchanged
      by_cases hfull : current.watermark.revision = maxRevision
      · rw [Published.update_of_full hfalse hfull] at hsame
        have hrevision : 1 = maxRevision := (congrArg Watermark.revision hsame).trans hfull
        cases hrevision
      · rw [Published.update_of_room hfalse hfull] at hsame
        exact Nat.succ_ne_self _ (congrArg Watermark.revision hsame)
    · intro hequal
      rw [Published.update_of_equal hequal]
  kept hequal := Published.update_of_equal hequal uuid
  published hchanged := by
    by_cases hfull : current.watermark.revision = maxRevision
    · rw [Published.update_of_full hchanged hfull]
    · rw [Published.update_of_room hchanged hfull]
  advanced hchanged hroom := by rw [Published.update_of_room hchanged hroom]
  rolledOver hchanged hfull := by rw [Published.update_of_full hchanged hfull]

/-! ## The invariant -/

structure Invariant (publisher : Publisher Value) : Prop where
  unique : (publisher.states.map Published.identity).Nodup
  /-- Within the epoch the revisions before the current one are lower. -/
  below : ∀ state ∈ publisher.earlier,
    state.watermark.epoch = publisher.current.watermark.epoch →
      state.watermark.revision < publisher.current.watermark.revision
  bounded : ∀ state ∈ publisher.states,
    1 ≤ state.watermark.revision ∧ state.watermark.revision ≤ maxRevision
  lineage : ∀ first ∈ publisher.states, ∀ second ∈ publisher.states,
    first.watermark.epoch = second.watermark.epoch →
      first.watermark.previousEpoch = second.watermark.previousEpoch
  predecessor : ∀ state ∈ publisher.states, ∀ epoch,
    state.watermark.previousEpoch = some epoch → epoch ≠ state.watermark.epoch ∧
      ∃ last ∈ publisher.states, last.identity = (epoch, maxRevision)
  drawn : ∀ state ∈ publisher.states, state.watermark.epoch ∈ publisher.drawn

namespace Invariant

theorem init (value : Value) (uuid : String) : Invariant (init value uuid) where
  unique := List.pairwise_singleton _ _
  below _ hstate := by cases hstate
  bounded state hstate := by
    obtain rfl := List.mem_singleton.mp hstate
    exact ⟨Nat.le_refl 1, one_le_maxRevision⟩
  lineage first hfirst second hsecond _ := by
    rw [List.mem_singleton.mp hfirst, List.mem_singleton.mp hsecond]
  predecessor state hstate epoch hprevious := by
    rw [List.mem_singleton.mp hstate] at hprevious
    cases hprevious
  drawn state hstate := by
    rw [List.mem_singleton.mp hstate]
    exact List.mem_singleton_self uuid

variable {publisher : Publisher Value}

/-- One more state, whose epoch has only lower revisions and the same predecessor so far. -/
theorem push (invariant : Invariant publisher) {published : Published Value} {drawn : List String}
    (hbelow : ∀ state ∈ publisher.states, state.watermark.epoch = published.watermark.epoch →
      state.watermark.revision < published.watermark.revision)
    (hlineage : ∀ state ∈ publisher.states, state.watermark.epoch = published.watermark.epoch →
      state.watermark.previousEpoch = published.watermark.previousEpoch)
    (hbounded : 1 ≤ published.watermark.revision ∧ published.watermark.revision ≤ maxRevision)
    (hpredecessor : ∀ epoch, published.watermark.previousEpoch = some epoch →
      epoch ≠ published.watermark.epoch ∧
        ∃ last ∈ publisher.states, last.identity = (epoch, maxRevision))
    (hdrawn : published.watermark.epoch ∈ drawn)
    (hgrown : ∀ uuid ∈ publisher.drawn, uuid ∈ drawn) :
    Invariant ⟨published, publisher.states, drawn⟩ where
  unique := by
    refine List.nodup_cons.mpr ⟨fun hused ↦ ?_, invariant.unique⟩
    obtain ⟨state, hstate, hsame⟩ := List.mem_map.mp hused
    obtain ⟨hepoch, hrevision⟩ := Prod.mk.inj hsame
    exact absurd hrevision (Nat.ne_of_lt (hbelow state hstate hepoch))
  below := hbelow
  bounded state hstate := by
    rcases List.mem_cons.mp hstate with rfl | hold
    · exact hbounded
    · exact invariant.bounded state hold
  lineage first hfirst second hsecond hepoch := by
    rcases List.mem_cons.mp hfirst with rfl | hfirst
    · rcases List.mem_cons.mp hsecond with rfl | hsecond
      · rfl
      · exact (hlineage second hsecond hepoch.symm).symm
    · rcases List.mem_cons.mp hsecond with rfl | hsecond
      · exact hlineage first hfirst hepoch
      · exact invariant.lineage first hfirst second hsecond hepoch
  predecessor state hstate epoch hprevious := by
    have hfound : epoch ≠ state.watermark.epoch ∧
        ∃ last ∈ publisher.states, last.identity = (epoch, maxRevision) := by
      rcases List.mem_cons.mp hstate with rfl | hold
      · exact hpredecessor epoch hprevious
      · exact invariant.predecessor state hold epoch hprevious
    obtain ⟨hother, last, hlast, hidentity⟩ := hfound
    exact ⟨hother, last, List.mem_cons_of_mem _ hlast, hidentity⟩
  drawn state hstate := by
    rcases List.mem_cons.mp hstate with rfl | hold
    · exact hdrawn
    · exact hgrown _ (invariant.drawn state hold)

theorem current_mem (publisher : Publisher Value) : publisher.current ∈ publisher.states :=
  List.mem_cons_self

/-- The next revision of the epoch. -/
theorem advance (invariant : Invariant publisher)
    (hroom : publisher.current.watermark.revision ≠ maxRevision) (next : Value) :
    Invariant ⟨⟨next, { publisher.current.watermark with
      revision := publisher.current.watermark.revision + 1 }⟩, publisher.states,
        publisher.drawn⟩ := by
  have hcurrent := current_mem publisher
  have hbounds := invariant.bounded publisher.current hcurrent
  refine invariant.push (fun state hstate hepoch ↦ ?_)
    (fun state hstate hepoch ↦ invariant.lineage state hstate publisher.current hcurrent hepoch)
    ⟨Nat.succ_pos _, Nat.lt_of_le_of_ne hbounds.2 hroom⟩
    (invariant.predecessor publisher.current hcurrent)
    (invariant.drawn publisher.current hcurrent) (fun _ hold ↦ hold)
  rcases List.mem_cons.mp hstate with rfl | hearlier
  · exact Nat.lt_succ_self _
  · exact Nat.lt_succ_of_lt (invariant.below state hearlier hepoch)

/-- The first revision of a new epoch. -/
theorem rollOver (invariant : Invariant publisher)
    (hfull : publisher.current.watermark.revision = maxRevision) {uuid : String}
    (hfresh : uuid ∉ publisher.drawn) (next : Value) :
    Invariant ⟨⟨next, ⟨uuid, 1, some publisher.current.watermark.epoch⟩⟩, publisher.states,
      uuid :: publisher.drawn⟩ := by
  have hunused : ∀ state ∈ publisher.states, state.watermark.epoch ≠ uuid := by
    rintro state hstate rfl
    exact hfresh (invariant.drawn state hstate)
  refine invariant.push (fun state hstate hepoch ↦ absurd hepoch (hunused state hstate))
    (fun state hstate hepoch ↦ absurd hepoch (hunused state hstate))
    ⟨Nat.le_refl 1, one_le_maxRevision⟩ (fun epoch hprevious ↦ ?_) List.mem_cons_self
    (fun _ hold ↦ List.mem_cons_of_mem _ hold)
  obtain rfl := Option.some.inj hprevious
  exact ⟨hunused _ (current_mem publisher), publisher.current, current_mem publisher,
    Prod.ext rfl hfull⟩

theorem step [BEq Value] (invariant : Invariant publisher) {call : Value × String}
    {later : Publisher Value} (hstep : publisher.step call = some later) :
    Invariant later := by
  obtain ⟨next, uuid⟩ := call
  obtain ⟨hfresh, hlater⟩ := Option.ite_none_left_eq_some.mp hstep
  obtain rfl := Option.some.inj hlater
  unfold update
  split
  · exact invariant
  · next hdiffers =>
    have hchanged : (publisher.current.value == next) = false := Bool.of_not_eq_true hdiffers
    by_cases hfull : publisher.current.watermark.revision = maxRevision
    · have hrolls := Published.rollsOver_of_full hchanged hfull
      rw [Published.update_of_full hchanged hfull, hrolls]
      refine invariant.rollOver hfull (fun hused ↦ hfresh ?_) next
      rw [hrolls, decide_eq_true hused]
      rfl
    · rw [Published.update_of_room hchanged hfull, Published.rollsOver_of_room hfull]
      exact invariant.advance hfull next

theorem identifies [BEq Value] (invariant : Invariant publisher) : Identifies publisher where
  unique := invariant.unique
  bounded := invariant.bounded
  lineage := invariant.lineage
  predecessor := invariant.predecessor
  advances := Publisher.advances publisher.current

end Invariant

/-- In every run of updates a watermark identifies the state it was published with. -/
theorem watermarks_identify [BEq Value] {value : Value} {uuid : String}
    {publisher : Publisher Value} (hreach : (system value uuid).Reachable publisher) :
    Identifies publisher := by
  have hinvariant : Invariant publisher :=
    hreach.invariant (Invariant.init value uuid) fun _ _ _ invariant hstep ↦ invariant.step hstep
  exact hinvariant.identifies

/-- One value is published twice in a row and another one in between. -/
theorem watermarks_identify_alternating :
    ∃ publisher, (system 0 "epoch").run (init 0 "epoch") [(1, "a"), (1, "b"), (0, "c")] =
        some publisher ∧
      publisher.states.map Published.identity = [("epoch", 3), ("epoch", 2), ("epoch", 1)] ∧
      Identifies publisher :=
  ⟨_, rfl, rfl, watermarks_identify
    (⟨[(1, "a"), (1, "b"), (0, "c")], rfl⟩ : (system 0 "epoch").Reachable _)⟩

end Publisher

end BtDaemon.Daemon
