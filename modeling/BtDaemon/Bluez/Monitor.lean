import BtDaemon.Bluez.Disconnect
import BtDaemon.Foundation.Transition
import Mathlib.Data.Finset.Card

/-!
# The BlueZ event monitor

The monitor watches the session, the adapters and their devices, each under a key made of text,
and keeps the disconnect reports of the devices that it watches. When one of its subscriptions
ends it stops, and begins anew with the adapters and devices that there are then; the history
stays over that.

Next to the history a run records what a history without a bound would hold.
-/

namespace BtDaemon.Bluez.Monitor

open Disconnect (DeviceDisconnect History Peer devicePath maxHistory observedAt)
open LinkSignal (Address)
open Transition (System)

/-- The key of the watch of a device. -/
def deviceWatch (adapter : String) (address : Address) : String :=
  adapter ++ "/" ++ String.ofList (Identity.addressText address)

structure State where
  running : Bool
  handles : Finset String
  history : History
  /-- The last report of every peer since it was last forgotten. -/
  recorded : History
  /-- The peers with a report when the monitor last began. -/
  inherited : Finset Peer

def init : State := ⟨false, ∅, ∅, ∅, ∅⟩

inductive Action
  /-- The monitor begins with these adapters and those of their devices that could be watched. -/
  | start (adapters : List (String × List Address))
  /-- An adapter is watched with its devices, or the watch fails. -/
  | adapterAdded (name : String) (devices : Option (List Address))
  | adapterRemoved (name : String)
  | deviceAdded (name : String) (address : Address) (watched : Bool)
  | deviceRemoved (name : String) (address : Address)
  | paired (adapter : String) (address : Address) (paired : Bool)
  /-- A `Disconnected` signal of BlueZ; `none` is a malformed body. -/
  | disconnected (path : String) (body : Option (String × String)) (unixTimeMs : UInt64)
    (oldest : Peer)
  | listenFailed
  /-- A subscription ends. -/
  | ended (key : String)

namespace State

/-- `Watches::adapter` -/
def watchAdapter (handles : Finset String) (name : String) (devices : List Address) :
    Finset String :=
  if name ∈ handles then handles
  else devices.foldl (fun handles address ↦ insert (deviceWatch name address) handles)
    (insert name handles)

/-- The keys that `remove_adapter` removes. -/
def ofAdapter (name key : String) : Bool :=
  key == name || (name ++ "/").toList.isPrefixOf key.toList

/-- Reports are forgotten, in both histories. -/
def forget (self : State) (adapter : String) (address : Option Address) : State :=
  { self with
    history := self.history.remove adapter address
    recorded := self.recorded.remove adapter address }

def stop (self : State) : State := { self with running := false, handles := ∅ }

def start (self : State) (adapters : List (String × List Address)) : State :=
  { self with
    running := true
    handles := adapters.foldl (fun handles (name, devices) ↦ watchAdapter handles name devices)
      {"disconnects", "session"}
    inherited := self.recorded.keys.toFinset }

/-- A report is kept if its peer is watched. -/
def disconnected (self : State) (peer : Peer) (report : DeviceDisconnect) (oldest : Peer) :
    Option State :=
  if deviceWatch peer.1 peer.2 ∈ self.handles then
    if BoundedTable.full maxHistory self.history peer = true ∧
        BoundedTable.isLeast observedAt self.history oldest = false then none
    else some { self with
      history := self.history.record peer report oldest
      recorded := self.recorded.insert peer report }
  else some self

end State

def step (state : State) : Action → Option State
  | .start adapters => if state.running then none else some (state.start adapters)
  | action =>
    if state.running then
      match action with
      | .start _ => none
      | .adapterAdded name (some devices) =>
        some { state with handles := State.watchAdapter state.handles name devices }
      | .adapterAdded name none => if name ∈ state.handles then some state else some state.stop
      | .adapterRemoved name =>
        -- The name is one component of an object path.
        if '/' ∈ name.toList then none
        else some { state.forget name none with
          handles := state.handles.filter fun key ↦ State.ofAdapter name key = false }
      | .deviceAdded name address watched =>
        some { state with
          handles := if watched then insert (deviceWatch name address) state.handles
            else state.handles }
      | .deviceRemoved name address =>
        some { state.forget name (some address) with
          handles := state.handles.erase (deviceWatch name address) }
      | .paired adapter address paired =>
        some (if paired then state else state.forget adapter (some address))
      | .disconnected path body unixTimeMs oldest =>
        match devicePath path, body with
        | some peer, some (reason, message) =>
          state.disconnected peer (Disconnect.report reason message unixTimeMs) oldest
        | _, _ => some state
      | .listenFailed => some state.stop
      | .ended _ => some state.stop
    else none

def system : System State Action := ⟨init, step⟩

/-! ## Keys of watches -/

/-- The key of a watch determines its device. -/
theorem deviceWatch_injective {adapter other : String} {address peer : Address}
    (hwatch : deviceWatch adapter address = deviceWatch other peer) :
    adapter = other ∧ address = peer := by
  have hlist := congrArg String.toList hwatch
  simp only [deviceWatch, String.toList_append, String.toList_ofList] at hlist
  obtain ⟨hfront, haddress⟩ := List.append_inj' hlist rfl
  obtain ⟨hadapter, -⟩ := List.append_inj' hfront rfl
  exact ⟨String.toList_inj.mp hadapter, Identity.addressText_injective haddress⟩

/-- Removing an adapter removes the watches of its own devices and of no others. -/
theorem ofAdapter_deviceWatch {name adapter : String} (hname : '/' ∉ name.toList)
    (hadapter : '/' ∉ adapter.toList) (address : Address) :
    State.ofAdapter name (deviceWatch adapter address) = true ↔ adapter = name := by
  have hkey : (deviceWatch adapter address).toList =
      adapter.toList ++ '/' :: Identity.addressText address := by
    simp only [deviceWatch, String.toList_append, String.toList_ofList, List.append_assoc]
    rfl
  rw [State.ofAdapter, Bool.or_eq_true, beq_iff_eq, hkey, List.isPrefixOf_iff_prefix]
  constructor
  · rintro (hsame | ⟨rest, hrest⟩)
    · rw [← hsame, hkey] at hname
      exact absurd (List.mem_append_right _ List.mem_cons_self) hname
    · rw [String.toList_append, List.append_assoc] at hrest
      have hfirst := Disconnect.splitOnce_eq_some.mpr ⟨hrest.symm, hname⟩
      have hsecond := Disconnect.splitOnce_eq_some.mpr
        (⟨rfl, hadapter⟩ : adapter.toList ++ '/' :: Identity.addressText address = _ ∧ _)
      obtain ⟨hsame, -⟩ := Prod.mk.inj (Option.some.inj (hfirst.symm.trans hsecond))
      exact (String.toList_inj.mp hsame).symm
  · rintro rfl
    right
    refine ⟨Identity.addressText address, ?_⟩
    rw [String.toList_append, List.append_assoc]
    rfl

/-! ## What the history holds -/

def Watched (state : State) (peer : Peer) : Prop := deviceWatch peer.1 peer.2 ∈ state.handles

/-- The history is a part of the one without a bound, which is about devices that are watched or
had a report when the monitor last began. -/
structure Faithful (state : State) : Prop where
  within : BoundedTable.Within maxHistory state.history state.recorded
  named : ∀ peer report, state.recorded.lookup peer = some report → '/' ∉ peer.1.toList
  known : state.running = true → ∀ peer report, state.recorded.lookup peer = some report →
    Watched state peer ∨ peer ∈ state.inherited

theorem faithful_init : Faithful init where
  within := BoundedTable.within_empty
  named _ _ hlookup := by cases hlookup
  known hrunning := by cases hrunning

theorem lookup_remove_eq_some {history : History} {adapter : String} {address : Option Address}
    {peer : Peer} {report : DeviceDisconnect} :
    (history.remove adapter address).lookup peer = some report ↔
      history.lookup peer = some report ∧
        (peer.1 = adapter → ∃ removed, address = some removed ∧ removed ≠ peer.2) := by
  rw [Disconnect.History.remove, Table.lookup_retain, Option.filter_eq_some_iff]
  apply and_congr_right'
  rw [Bool.or_eq_true, bne_iff_ne, or_iff_not_imp_left, not_not]
  apply imp_congr_right
  intro _
  cases address <;> simp

theorem Faithful.forget {state : State} (hfaithful : Faithful state) (adapter : String)
    (address : Option Address) : Faithful (state.forget adapter address) where
  within := BoundedTable.Within.retain hfaithful.within fun peer _ ↦
    peer.1 != adapter || address.any fun removed ↦ removed != peer.2
  named peer report hlookup := hfaithful.named peer report (lookup_remove_eq_some.mp hlookup).1
  known hrunning peer report hlookup :=
    hfaithful.known hrunning peer report (lookup_remove_eq_some.mp hlookup).1

/-- More watches are no harm. -/
theorem Faithful.watch {state : State} (hfaithful : Faithful state) {handles : Finset String}
    (hmore : state.handles ⊆ handles) : Faithful { state with handles := handles } where
  within := hfaithful.within
  named := hfaithful.named
  known hrunning peer report hlookup :=
    (hfaithful.known hrunning peer report hlookup).imp_left fun hwatched ↦ hmore hwatched

theorem Faithful.stop {state : State} (hfaithful : Faithful state) : Faithful state.stop where
  within := hfaithful.within
  named := hfaithful.named
  known hrunning := by cases hrunning

theorem Faithful.start {state : State} (hfaithful : Faithful state)
    (adapters : List (String × List Address)) : Faithful (state.start adapters) where
  within := hfaithful.within
  named := hfaithful.named
  known _ peer report hlookup :=
    .inr (List.mem_toFinset.mpr ((state.recorded.mem_keys peer).mpr ⟨report, hlookup⟩))

theorem subset_watchAdapter (handles : Finset String) (name : String) (devices : List Address) :
    handles ⊆ State.watchAdapter handles name devices := by
  have hfold : ∀ (devices : List Address) (handles : Finset String), handles ⊆
      devices.foldl (fun handles address ↦ insert (deviceWatch name address) handles) handles := by
    intro devices
    induction devices with
    | nil => exact fun _ ↦ Finset.Subset.refl _
    | cons address rest ih =>
      exact fun handles ↦ (Finset.subset_insert _ handles).trans (ih _)
  unfold State.watchAdapter
  split
  · exact Finset.Subset.refl handles
  · exact (Finset.subset_insert name handles).trans (hfold devices _)

/-! ## Steps -/

/-- A report that is kept. -/
theorem disconnected_cases {state next : State} {peer : Peer} {report : DeviceDisconnect}
    {oldest : Peer} (hstep : state.disconnected peer report oldest = some next) :
    next = state ∨
    Watched state peer ∧
      (BoundedTable.full maxHistory state.history peer = true →
        BoundedTable.Least observedAt state.history oldest) ∧
      next = { state with
        history := state.history.record peer report oldest
        recorded := state.recorded.insert peer report } := by
  unfold State.disconnected at hstep
  split at hstep
  · next hwatched =>
    right
    split at hstep
    · cases hstep
    · next hroom =>
      refine ⟨hwatched, ?_, (Option.some.inj hstep).symm⟩
      intro hfull
      rw [← BoundedTable.isLeast_iff, ← Bool.not_eq_false]
      exact fun hleast ↦ hroom ⟨hfull, hleast⟩
  · exact .inl (Option.some.inj hstep).symm

theorem Faithful.disconnected {state : State} (hfaithful : Faithful state) {peer : Peer}
    {report : DeviceDisconnect} {oldest : Peer} (hnamed : '/' ∉ peer.1.toList)
    (hwatched : Watched state peer)
    (hleast : BoundedTable.full maxHistory state.history peer = true →
      BoundedTable.Least observedAt state.history oldest) :
    Faithful { state with
      history := state.history.record peer report oldest
      recorded := state.recorded.insert peer report } where
  within := BoundedTable.Within.record hfaithful.within (by decide) hleast
  named other found hfound := by
    rcases Table.lookup_insert_eq_some.mp hfound with ⟨rfl, -⟩ | ⟨-, hbefore⟩
    · exact hnamed
    · exact hfaithful.named other found hbefore
  known hrunning other found hfound := by
    rcases Table.lookup_insert_eq_some.mp hfound with ⟨rfl, -⟩ | ⟨-, hbefore⟩
    · exact .inl hwatched
    · exact hfaithful.known hrunning other found hbefore

/-- What is forgotten with its watch. -/
theorem Faithful.unwatch {state : State} (hfaithful : Faithful state) {adapter : String}
    {address : Option Address} {handles : Finset String}
    (hkept : ∀ peer report, state.recorded.lookup peer = some report → Watched state peer →
      (peer.1 = adapter → ∃ removed, address = some removed ∧ removed ≠ peer.2) →
        deviceWatch peer.1 peer.2 ∈ handles) :
    Faithful { state.forget adapter address with handles := handles } where
  within := (hfaithful.forget adapter address).within
  named := (hfaithful.forget adapter address).named
  known hrunning peer report hlookup := by
    obtain ⟨hbefore, hother⟩ := lookup_remove_eq_some.mp hlookup
    exact (hfaithful.known hrunning peer report hbefore).imp_left fun hwatched ↦
      hkept peer report hbefore hwatched hother

theorem slash_notMem_of_devicePath {path : String} {peer : Peer}
    (hpath : devicePath path = some peer) : '/' ∉ peer.1.toList := by
  obtain ⟨⟨index, hindex, hadapter⟩, -⟩ := Disconnect.devicePath_iff.mp hpath
  rw [hadapter]
  exact hindex.notMem

/-- What a step does to the reports. -/
inductive Moves (state next : State) : Action → Prop
  | start (adapters : List (String × List Address)) (hnext : next = state.start adapters) :
      Moves state next (.start adapters)
  | watched (action : Action) (handles : Finset String) (hmore : state.handles ⊆ handles)
      (hnext : next = { state with handles := handles }) : Moves state next action
  | stopped (action : Action) (hnext : next = state.stop) : Moves state next action
  | adapterRemoved (name : String) (hname : '/' ∉ name.toList)
      (hnext : next = { state.forget name none with
        handles := state.handles.filter fun key ↦ State.ofAdapter name key = false }) :
      Moves state next (.adapterRemoved name)
  | deviceRemoved (name : String) (address : Address)
      (hnext : next = { state.forget name (some address) with
        handles := state.handles.erase (deviceWatch name address) }) :
      Moves state next (.deviceRemoved name address)
  | unpaired (adapter : String) (address : Address)
      (hnext : next = state.forget adapter (some address)) :
      Moves state next (.paired adapter address false)
  | reported (path reason message : String) (unixTimeMs : UInt64) (oldest peer : Peer)
      (hpath : devicePath path = some peer) (hwatched : Watched state peer)
      (hleast : BoundedTable.full maxHistory state.history peer = true →
        BoundedTable.Least observedAt state.history oldest)
      (hnext : next = { state with
        history := state.history.record peer (Disconnect.report reason message unixTimeMs) oldest
        recorded := state.recorded.insert peer (Disconnect.report reason message unixTimeMs) }) :
      Moves state next (.disconnected path (some (reason, message)) unixTimeMs oldest)

theorem step_moves {state next : State} {action : Action} (hstep : step state action = some next) :
    Moves state next action := by
  have hsame : ∀ {action : Action}, some state = some next → Moves state next action := by
    intro action hnext
    exact .watched action state.handles (Finset.Subset.refl _) (Option.some.inj hnext).symm
  cases action with
  | start adapters =>
    obtain ⟨-, hnext⟩ := Option.ite_none_left_eq_some.mp hstep
    exact .start adapters (Option.some.inj hnext).symm
  | adapterAdded name devices =>
    obtain ⟨-, hstep⟩ := Option.ite_none_right_eq_some.mp hstep
    cases devices with
    | none =>
      dsimp only at hstep
      split at hstep
      · exact hsame hstep
      · exact .stopped _ (Option.some.inj hstep).symm
    | some devices =>
      exact .watched _ _ (subset_watchAdapter state.handles name devices)
        (Option.some.inj hstep).symm
  | adapterRemoved name =>
    obtain ⟨-, hstep⟩ := Option.ite_none_right_eq_some.mp hstep
    obtain ⟨hname, hnext⟩ := Option.ite_none_left_eq_some.mp hstep
    exact .adapterRemoved name hname (Option.some.inj hnext).symm
  | deviceAdded name address watched =>
    obtain ⟨-, hstep⟩ := Option.ite_none_right_eq_some.mp hstep
    refine .watched _ _ ?_ (Option.some.inj hstep).symm
    split
    · exact Finset.subset_insert _ _
    · exact Finset.Subset.refl _
  | deviceRemoved name address =>
    obtain ⟨-, hstep⟩ := Option.ite_none_right_eq_some.mp hstep
    exact .deviceRemoved name address (Option.some.inj hstep).symm
  | paired adapter address paired =>
    obtain ⟨-, hstep⟩ := Option.ite_none_right_eq_some.mp hstep
    cases paired with
    | true => exact hsame hstep
    | false => exact .unpaired adapter address (Option.some.inj hstep).symm
  | disconnected path body unixTimeMs oldest =>
    obtain ⟨-, hstep⟩ := Option.ite_none_right_eq_some.mp hstep
    split at hstep
    · next peer reason message hpath _ =>
      rcases disconnected_cases hstep with rfl | ⟨hwatched, hleast, hnext⟩
      · exact hsame rfl
      · exact .reported path reason message unixTimeMs oldest peer hpath hwatched hleast hnext
    · exact hsame hstep
  | listenFailed =>
    obtain ⟨-, hstep⟩ := Option.ite_none_right_eq_some.mp hstep
    exact .stopped _ (Option.some.inj hstep).symm
  | ended key =>
    obtain ⟨-, hstep⟩ := Option.ite_none_right_eq_some.mp hstep
    exact .stopped _ (Option.some.inj hstep).symm

theorem faithful_step (state : State) (action : Action) (next : State)
    (hfaithful : Faithful state) (hstep : step state action = some next) : Faithful next := by
  cases step_moves hstep with
  | start adapters hnext => exact hnext ▸ hfaithful.start adapters
  | watched _ handles hmore hnext => exact hnext ▸ hfaithful.watch hmore
  | stopped _ hnext => exact hnext ▸ hfaithful.stop
  | adapterRemoved name hname hnext =>
    rw [hnext]
    apply hfaithful.unwatch
    intro peer report hlookup hwatched hother
    apply Finset.mem_filter.mpr
    refine ⟨hwatched, ?_⟩
    rw [← Bool.not_eq_true,
      ofAdapter_deviceWatch hname (hfaithful.named peer report hlookup) peer.2]
    intro hadapter
    obtain ⟨removed, hnone, -⟩ := hother hadapter
    cases hnone
  | deviceRemoved name address hnext =>
    rw [hnext]
    apply hfaithful.unwatch
    intro peer report _ hwatched hother
    apply Finset.mem_erase.mpr
    refine ⟨?_, hwatched⟩
    intro hsame
    obtain ⟨hadapter, haddress⟩ := deviceWatch_injective hsame
    obtain ⟨removed, hremoved, hne⟩ := hother hadapter
    obtain rfl := Option.some.inj hremoved
    exact hne haddress.symm
  | unpaired adapter address hnext => exact hnext ▸ hfaithful.forget adapter (some address)
  | reported path reason message unixTimeMs oldest peer hpath hwatched hleast hnext =>
    rw [hnext]
    exact hfaithful.disconnected (slash_notMem_of_devicePath hpath) hwatched hleast

/-! ## Room for every report -/

/-- There is room for the devices that are watched and for those known from before. -/
def fits (state : State) : Action → Prop
  | .disconnected .. =>
    (state.handles.filter fun key ↦ '/' ∈ key.toList).card +
      (state.inherited.filter fun peer ↦ deviceWatch peer.1 peer.2 ∉ state.handles).card ≤
        maxHistory
  | _ => True

instance (state : State) (action : Action) : Decidable (fits state action) := by
  cases action <;> unfold fits <;> infer_instance

/-- No report is older than one that was made before. -/
def steady (state : State) : Action → Prop
  | .disconnected _ _ unixTimeMs _ =>
    (state.recorded.entries.all fun entry ↦
      decide (observedAt entry.2 ≤ unixTimeMs.toNat)) = true
  | _ => True

instance (state : State) (action : Action) : Decidable (steady state action) := by
  cases action <;> unfold steady <;> infer_instance

theorem slash_mem_deviceWatch (adapter : String) (address : Address) :
    '/' ∈ (deviceWatch adapter address).toList := by
  have hslash : "/".toList = ['/'] := rfl
  simp [deviceWatch, String.toList_append, hslash]

/-- Peers that are watched or known from before are no more than the watches of devices and the
peers known from before without one. -/
theorem card_known_le {state : State} {peers : Finset Peer}
    (hknown : ∀ peer ∈ peers, Watched state peer ∨ peer ∈ state.inherited) :
    peers.card ≤ (state.handles.filter fun key ↦ '/' ∈ key.toList).card +
      (state.inherited.filter fun peer ↦ deviceWatch peer.1 peer.2 ∉ state.handles).card := by
  classical
  rw [← Finset.card_filter_add_card_filter_not (s := peers) fun peer ↦
    deviceWatch peer.1 peer.2 ∈ state.handles]
  apply Nat.add_le_add
  · apply Finset.card_le_card_of_injOn fun peer ↦ deviceWatch peer.1 peer.2
    · intro peer hpeer
      have hwatched := (Finset.mem_filter.mp (Finset.mem_coe.mp hpeer)).2
      exact Finset.mem_coe.mpr (Finset.mem_filter.mpr ⟨hwatched, slash_mem_deviceWatch _ _⟩)
    · intro first _ second _ hsame
      obtain ⟨hadapter, haddress⟩ := deviceWatch_injective hsame
      exact Prod.ext hadapter haddress
  · apply Finset.card_le_card
    intro peer hpeer
    obtain ⟨hmem, hunwatched⟩ := Finset.mem_filter.mp hpeer
    exact Finset.mem_filter.mpr ⟨(hknown peer hmem).resolve_left hunwatched, hunwatched⟩

/-- With room nothing is dropped. -/
theorem complete_disconnected {state : State} (hfaithful : Faithful state)
    (hsame : state.history ≈ state.recorded) (hrunning : state.running = true)
    {path : String} {body : Option (String × String)} {unixTimeMs : UInt64} {oldest peer : Peer}
    (hfits : fits state (.disconnected path body unixTimeMs oldest)) (hwatched : Watched state peer)
    (report : DeviceDisconnect) :
    state.history.record peer report oldest ≈ state.recorded.insert peer report := by
  apply BoundedTable.record_complete hsame
  rw [← List.toFinset_card_of_nodup (AList.keys_nodup _)]
  refine (card_known_le ?_).trans hfits
  intro other hother
  obtain ⟨found, hfound⟩ := (Table.mem_keys _ other).mp (List.mem_toFinset.mp hother)
  rcases Table.lookup_insert_eq_some.mp hfound with ⟨rfl, -⟩ | ⟨-, hbefore⟩
  · exact .inl hwatched
  · exact hfaithful.known hrunning other found hbefore

theorem complete_step (state : State) (action : Action) (next : State)
    (hstate : Faithful state ∧ state.history ≈ state.recorded) (hfits : fits state action)
    (hstep : step state action = some next) :
    Faithful next ∧ next.history ≈ next.recorded := by
  obtain ⟨hfaithful, hsame⟩ := hstate
  refine ⟨faithful_step state action next hfaithful hstep, ?_⟩
  cases step_moves hstep with
  | start adapters hnext => exact hnext ▸ hsame
  | watched _ handles hmore hnext => exact hnext ▸ hsame
  | stopped _ hnext => exact hnext ▸ hsame
  | adapterRemoved name hname hnext => exact hnext ▸ BoundedTable.retain_complete hsame _
  | deviceRemoved name address hnext => exact hnext ▸ BoundedTable.retain_complete hsame _
  | unpaired adapter address hnext => exact hnext ▸ BoundedTable.retain_complete hsame _
  | reported path reason message unixTimeMs oldest peer hpath hwatched hleast hnext =>
    have hrunning : state.running = true := (Option.ite_none_right_eq_some.mp hstep).1
    rw [hnext]
    exact complete_disconnected hfaithful hsame hrunning hfits hwatched _

theorem newest_step (state : State) (action : Action) (next : State)
    (hstate : Faithful state ∧ BoundedTable.Newest observedAt state.history state.recorded)
    (hsteady : steady state action) (hstep : step state action = some next) :
    Faithful next ∧ BoundedTable.Newest observedAt next.history next.recorded := by
  obtain ⟨hfaithful, hnewest⟩ := hstate
  refine ⟨faithful_step state action next hfaithful hstep, ?_⟩
  cases step_moves hstep with
  | start adapters hnext => exact hnext ▸ hnewest
  | watched _ handles hmore hnext => exact hnext ▸ hnewest
  | stopped _ hnext => exact hnext ▸ hnewest
  | adapterRemoved name hname hnext => exact hnext ▸ hnewest.retain _ hfaithful.within
  | deviceRemoved name address hnext => exact hnext ▸ hnewest.retain _ hfaithful.within
  | unpaired adapter address hnext => exact hnext ▸ hnewest.retain _ hfaithful.within
  | reported path reason message unixTimeMs oldest peer hpath hwatched hleast hnext =>
    rw [hnext]
    apply hnewest.record hfaithful.within hleast
    intro other found hfound
    exact of_decide_eq_true (List.all_eq_true.mp hsteady ⟨other, found⟩
      ((Table.mem_entries _ other found).mpr hfound))

/-- The history never has more than 256 reports. Whatever it says about a peer is the last report
since the peer was forgotten, and only peers that are watched or had a report when the monitor
last began are in it. While there is room for these no report is missing, and with a steady clock
those that are missing are none of the newest. -/
theorem history_faithful {actions : List Action} {state : State}
    (hrun : system.run init actions = some state) :
    state.history.keys.length ≤ maxHistory ∧
    (∀ adapter address report, state.history.get adapter address = some report →
      state.recorded.get adapter address = some report) ∧
    (state.running = true → ∀ adapter address report,
      state.recorded.get adapter address = some report →
        deviceWatch adapter address ∈ state.handles ∨ (adapter, address) ∈ state.inherited) ∧
    (system.Meets fits init actions → ∀ adapter address,
      state.history.get adapter address = state.recorded.get adapter address) ∧
    (system.Meets steady init actions →
      BoundedTable.Newest observedAt state.history state.recorded) := by
  have hfaithful := system.run_invariant faithful_step faithful_init hrun
  refine ⟨hfaithful.within.room, ?_, ?_, ?_, ?_⟩
  · intro adapter address report hget
    exact hfaithful.within.current (adapter, address) report hget
  · intro hrunning adapter address report hget
    exact hfaithful.known hrunning (adapter, address) report hget
  · intro hmeets adapter address
    have hcomplete := system.run_invariant_of_meets complete_step
      ⟨faithful_init, fun _ ↦ rfl⟩ hmeets hrun
    exact hcomplete.2 (adapter, address)
  · intro hmeets
    have hnewest := system.run_invariant_of_meets newest_step
      ⟨faithful_init, BoundedTable.newest_empty⟩ hmeets hrun
    exact hnewest.2

/-- A device is lost, connects again under another monitor and is then disconnected from here. -/
def lostTwice : List Action :=
  [.start [("hci0", [0x0011223344AA])],
    .disconnected "/org/bluez/hci0/dev_00_11_22_33_44_AA"
      (some ("org.bluez.Reason.Timeout", "Connection timeout")) 1000 ("", 0),
    .ended "session",
    .start [("hci0", [0x0011223344AA])],
    .disconnected "/org/bluez/hci0/dev_00_11_22_33_44_aa"
      (some ("org.bluez.Reason.Local", "")) 2000 ("", 0)]

theorem history_faithful_lostTwice : ∃ state, system.run init lostTwice = some state ∧
    state.history.get "hci0" 0x0011223344AA = some ⟨.localSide, "", 2000⟩ ∧
    state.recorded.get "hci0" 0x0011223344AA = some ⟨.localSide, "", 2000⟩ := by
  have hkept : ((system.run init lostTwice).bind fun state ↦
      state.history.get "hci0" 0x0011223344AA) = some ⟨.localSide, "", 2000⟩ := by
    decide +kernel
  obtain ⟨state, hrun, hget⟩ := Option.bind_eq_some_iff.mp hkept
  have hmeets : system.Meets fits init lostTwice := by decide +kernel
  have hsame := (history_faithful hrun).2.2.2.1 hmeets
  exact ⟨state, hrun, hget, (hsame _ _).symm.trans hget⟩

end BtDaemon.Bluez.Monitor
