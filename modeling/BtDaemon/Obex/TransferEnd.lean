import Mathlib.Data.List.Pairwise
import BtDaemon.Obex.Transfer

/-!
# The terminal event of a transfer

A terminal status is published as an update, and a failure as an event of the caller. The
status `error` is both: the monitor publishes it and then fails. A failure event starts from
the template again, so it falls back behind the counts that were published before it.
-/

namespace BtDaemon.Obex

open Transition EventLog

/-- The list never decreases. -/
def Nondecreasing (counts : List ℕ) : Prop := counts.Pairwise (· ≤ ·)

instance : DecidablePred Nondecreasing := fun counts ↦
  inferInstanceAs (Decidable (counts.Pairwise (· ≤ ·)))

/-- Exactly one terminal event by the end of the task, none after it, and published counts
that decrease only if obexd's do. -/
structure OneTerminal (state : State) : Prop where
  last : TerminalLast ObexEvent.isTerminal state.events
  once : state.phase = .finished → state.events.countP ObexEvent.isTerminal = 1
  monotone : Nondecreasing state.reported →
    Nondecreasing (state.events.map ObexEvent.transferred)

/-- The task does not end by the status `error`, and if it fails in another way then obexd has
reported no transferred bytes before, or counts that decrease. -/
def Settled (state : State) (action : Action) : Prop :=
  match state.phase, action with
  | .settling current (.error _), .finish =>
    current.status ≠ "error" ∧
      (Nondecreasing state.reported → ∀ count ∈ state.reported, count = 0)
  | _, _ => True

instance (state : State) (action : Action) : Decidable (Settled state action) := by
  unfold Settled
  split <;> infer_instance

/-- How the published counts follow the reported ones. -/
structure Follows (state : State) (current : TransferUpdate) : Prop where
  sorted : Nondecreasing state.reported →
    Nondecreasing (state.events.map ObexEvent.transferred)
  bound : Nondecreasing state.reported → ∀ event ∈ state.events,
    event.transferred ≤ current.transferred
  reportedBound : Nondecreasing state.reported →
    ∀ count ∈ state.reported, count ≤ current.transferred
  published : ∀ count ∈ state.reported, ∃ event ∈ state.events, event.transferred = count
  values : ∀ event ∈ state.events, event.transferred = 0 ∨ event.transferred ∈ state.reported
  origin : current.transferred = 0 ∨ current.transferred ∈ state.reported

/-- The events before the end of the task: a terminal one is last, and there is one exactly
when the current status is terminal. -/
structure Ends (state : State) (current : TransferUpdate) : Prop where
  last : TerminalLast ObexEvent.isTerminal state.events
  count : state.events.countP ObexEvent.isTerminal = if current.terminal then 1 else 0

structure Settling (state : State) (current : TransferUpdate) (result : Except String Unit) :
    Prop where
  follows : Follows state current
  ends : Ends state current
  completed : result = .ok () → current.terminal = true
  failed : ∀ reason, result = .error reason → current.terminal = true → current.status = "error"

/-- What holds at each point of the task. -/
def Accounted (start : Start) (state : State) : Prop :=
  match state.phase with
  | .starting => state = State.init start
  | .connecting current | .watching current =>
    Follows state current ∧ Ends state current ∧ current.terminal = false
  | .settling current result => Settling state current result
  | .finished => OneTerminal state

section Steps

variable {start : Start} {state : State} {current : TransferUpdate}

theorem Ends.isOpen (hends : Ends state current) (hcurrent : current.terminal = false) :
    ∀ event ∈ state.events, event.isTerminal = false := by
  have hcount := hends.count
  rw [hcurrent, if_neg Bool.false_ne_true, List.countP_eq_zero] at hcount
  exact fun event hevent ↦ Bool.eq_false_iff.mpr (hcount event hevent)

/-- Publishing an update of an open transfer. -/
theorem Ends.publish (hopen : ∀ event ∈ state.events, event.isTerminal = false)
    (update : TransferUpdate) : Ends (state.publish start update) update := by
  refine ⟨terminalLast_append hopen, ?_⟩
  have hzero : state.events.countP ObexEvent.isTerminal = 0 :=
    List.countP_eq_zero.mpr fun event hevent ↦ by rw [hopen event hevent]; exact Bool.false_ne_true
  simp only [State.publish, List.countP_append, List.countP_singleton, isTerminal_updated, hzero,
    Nat.zero_add]

theorem report_none (state : State) : state.report none = state := by
  simp only [State.report, Option.toList_none, List.append_nil]

/-- Publishing an update that carries what was reported last. -/
theorem Follows.publish (hfollows : Follows state current) {update : TransferUpdate}
    {transferred : Option ℕ}
    (hupdate : update.transferred = transferred.getD current.transferred) :
    Follows ((state.report transferred).publish start update) update := by
  have hearlier : Nondecreasing (state.reported ++ transferred.toList) →
      Nondecreasing state.reported := fun hsorted ↦ (List.pairwise_append.mp hsorted).1
  have hevents : ∀ event ∈ ((state.report transferred).publish start update).events,
      event ∈ state.events ∨ event.transferred = update.transferred := by
    intro event hevent
    rcases List.mem_append.mp hevent with hold | hnew
    · exact .inl hold
    · rw [List.mem_singleton.mp hnew]
      exact .inr rfl
  have hgrows : Nondecreasing (state.reported ++ transferred.toList) →
      ∀ event ∈ state.events, event.transferred ≤ update.transferred := by
    intro hsorted event hevent
    cases transferred with
    | none =>
      rw [hupdate]
      exact hfollows.bound (hearlier hsorted) event hevent
    | some count =>
      rw [hupdate]
      rcases hfollows.values event hevent with hzero | hreported
      · rw [hzero]
        exact Nat.zero_le _
      · exact (List.pairwise_append.mp hsorted).2.2 _ hreported count (by simp)
  have horigin : update.transferred = 0 ∨
      update.transferred ∈ state.reported ++ transferred.toList := by
    rw [hupdate]
    cases transferred with
    | some count => exact .inr (List.mem_append_right _ (by simp))
    | none => exact hfollows.origin.imp_right (List.mem_append_left _)
  refine ⟨fun hsorted ↦ ?_, fun hsorted event hevent ↦ ?_, fun hsorted count hcount ↦ ?_,
    fun count hcount ↦ ?_, fun event hevent ↦ ?_, horigin⟩
  · simp only [State.publish, State.report, List.map_append, List.map_singleton]
    refine List.pairwise_append.mpr
      ⟨hfollows.sorted (hearlier hsorted), List.pairwise_singleton _ _, ?_⟩
    intro count hcount last hlast
    obtain ⟨event, hevent, rfl⟩ := List.mem_map.mp hcount
    rw [List.mem_singleton.mp hlast]
    exact hgrows hsorted event hevent
  · rcases hevents event hevent with hold | hnew
    · exact hgrows hsorted event hold
    · exact Nat.le_of_eq hnew
  · rcases List.mem_append.mp hcount with hold | hnew
    · cases transferred with
      | none =>
        rw [hupdate]
        exact hfollows.reportedBound (hearlier hsorted) count hold
      | some last =>
        rw [hupdate]
        exact (List.pairwise_append.mp hsorted).2.2 _ hold last (by simp)
    · obtain rfl := Option.mem_toList.mp hnew
      exact Nat.le_of_eq hupdate.symm
  · rcases List.mem_append.mp hcount with hold | hnew
    · obtain ⟨event, hevent, hvalue⟩ := hfollows.published count hold
      exact ⟨event, List.mem_append_left _ hevent, hvalue⟩
    · obtain rfl := Option.mem_toList.mp hnew
      exact ⟨_, List.mem_append_right _ (List.mem_singleton_self _), hupdate⟩
  · rcases hevents event hevent with hold | hnew
    · exact (hfollows.values event hold).imp_right (List.mem_append_left _)
    · rw [hnew]
      exact horigin

theorem Settling.ofTerminal (hfollows : Follows state current) (hends : Ends state current)
    (hterminal : current.terminal = true) :
    Settling (state.moveTo (.settling current current.result)) current current.result := by
  refine ⟨{ hfollows with }, { hends with }, fun _ ↦ hterminal, fun reason hresult _ ↦ ?_⟩
  unfold TransferUpdate.result at hresult
  split at hresult
  · next herror => exact herror
  · cases hresult

/-- The head of the loop, after an update was published. -/
theorem accounted_watch (hfollows : Follows state current) (hends : Ends state current) :
    Accounted start (state.watch current) := by
  unfold State.watch
  cases hterminal : current.terminal with
  | false => exact ⟨{ hfollows with }, { hends with }, hterminal⟩
  | true => exact Settling.ofTerminal hfollows hends hterminal

theorem accounted_update (hfollows : Follows state current)
    (hopen : ∀ event ∈ state.events, event.isTerminal = false) {update : TransferUpdate}
    {transferred : Option ℕ}
    (hupdate : update.transferred = transferred.getD current.transferred) :
    Accounted start ((state.report transferred).update start update) := by
  refine accounted_watch (hfollows.publish hupdate) (Ends.publish ?_ update)
  exact hopen

theorem accounted_fail (hfollows : Follows state current) (hends : Ends state current)
    (hcurrent : current.terminal = false) (reason : String) :
    Accounted start (state.fail current reason) := by
  refine ⟨{ hfollows with }, { hends with }, fun hresult ↦ (by cases hresult), ?_⟩
  intro _ _ hterminal
  cases hcurrent.symm.trans hterminal

theorem accounted_begin (start : Start) : Accounted start ((State.init start).begin start) := by
  cases start with
  | incoming authorization =>
    have hempty : Follows (State.init (.incoming authorization))
        (Start.incoming authorization).current := by
      constructor <;> simp [State.init, Start.reported, Start.current, Nondecreasing]
    exact ⟨{ hempty with }, ⟨terminalLast_nil _, rfl⟩, rfl⟩
  | outgoing requestId deviceKey fileName properties length =>
    have hnothing : Follows ⟨.starting, [], []⟩ ⟨"", 0, 0⟩ := by
      constructor <;> simp [Nondecreasing]
    generalize hstart : Start.outgoing requestId deviceKey fileName properties length = start
    have hcount : start.current.transferred = properties.transferred.getD 0 := by rw [← hstart]; rfl
    have hreported : start.reported = properties.transferred.toList := by rw [← hstart]; rfl
    have hbegin : (State.init start).begin start = ((State.init start).publish start
        start.current).moveTo (if start.current.terminal then
          .settling start.current start.current.result else .connecting start.current) := by
      rw [← hstart]
      rfl
    have hfollows : Follows ((State.init start).publish start start.current) start.current := by
      have hpublished : Follows ((State.report ⟨.starting, [], []⟩ properties.transferred).publish
          start start.current) start.current := hnothing.publish hcount
      rw [State.init, hreported]
      exact hpublished
    have hends : Ends ((State.init start).publish start start.current) start.current :=
      Ends.publish (fun event hevent ↦ by cases hevent) _
    rw [hbegin]
    cases hterminal : start.current.terminal with
    | false => exact ⟨{ hfollows with }, { hends with }, hterminal⟩
    | true => exact Settling.ofTerminal hfollows hends hterminal

/-- The end of the task, when it ends as the condition asks. -/
theorem oneTerminal_finish {result : Except String Unit}
    (hsettling : Settling state current result) (hphase : state.phase = .settling current result)
    (hsettled : Settled state .finish) : OneTerminal (state.finish start result) := by
  obtain ⟨hfollows, hends, hcompleted, hfailed⟩ := hsettling
  cases result with
  | ok value =>
    refine ⟨hends.last, fun _ ↦ hends.count.trans (if_pos (hcompleted rfl)), hfollows.sorted⟩
  | error reason =>
    simp only [Settled, hphase] at hsettled
    obtain ⟨hstatus, hcounts⟩ := hsettled
    have hopen := hends.isOpen (Bool.eq_false_iff.mpr fun hterminal ↦
      hstatus (hfailed reason rfl hterminal))
    have hzero : state.events.countP ObexEvent.isTerminal = 0 :=
      List.countP_eq_zero.mpr fun event hevent ↦ by
        rw [hopen event hevent]
        exact Bool.false_ne_true
    refine ⟨terminalLast_append hopen, fun _ ↦ ?_, fun hsorted ↦ ?_⟩
    · simp only [State.finish, State.moveTo, List.countP_append, hzero]
      rfl
    · have hnone : ∀ event ∈ state.events, event.transferred = 0 := fun event hevent ↦
        (hfollows.values event hevent).elim id (hcounts hsorted _)
      simp only [State.finish, State.moveTo, List.map_append, List.map_singleton]
      refine List.pairwise_append.mpr
        ⟨hfollows.sorted hsorted, List.pairwise_singleton _ _, ?_⟩
      intro count hcount last _
      obtain ⟨event, hevent, rfl⟩ := List.mem_map.mp hcount
      rw [hnone event hevent]
      exact Nat.zero_le _

/-- A failure that leaves the promise whole has met the condition. -/
theorem settled_of_oneTerminal {result : Except String Unit}
    (hsettling : Settling state current result) (hphase : state.phase = .settling current result)
    (hone : OneTerminal (state.finish start result)) : Settled state .finish := by
  obtain ⟨hfollows, hends, -, hfailed⟩ := hsettling
  cases result with
  | ok value =>
    simp only [Settled, hphase]
  | error reason =>
    simp only [Settled, hphase]
    constructor
    · intro hstatus
      have hterminal : current.terminal = true := by simp [TransferUpdate.terminal, hstatus]
      have hcount := hends.count
      rw [if_pos hterminal] at hcount
      have honce := hone.once rfl
      simp only [State.finish, State.moveTo, List.countP_append, hcount] at honce
      cases honce
    · intro hsorted count hcount
      obtain ⟨event, hevent, rfl⟩ := hfollows.published count hcount
      have hmonotone := hone.monotone hsorted
      simp only [State.finish, State.moveTo, List.map_append, List.map_singleton] at hmonotone
      have hlast := (List.pairwise_append.mp hmonotone).2.2 _
        (List.mem_map_of_mem hevent) _ (List.mem_singleton_self _)
      have htemplate : (start.template.failed (start.failure reason)).transferred = 0 := by
        cases start <;> rfl
      rw [htemplate] at hlast
      exact Nat.le_zero.mp hlast

theorem accounted_oneTerminal (haccounted : Accounted start state) : OneTerminal state := by
  unfold Accounted at haccounted
  split at haccounted
  · subst haccounted
    exact ⟨terminalLast_nil _, fun hphase ↦ (by cases hphase), fun _ ↦ List.Pairwise.nil⟩
  · next hphase =>
    obtain ⟨hfollows, hends, -⟩ := haccounted
    exact ⟨hends.last, fun hfinished ↦ (by cases hphase.symm.trans hfinished), hfollows.sorted⟩
  · next hphase =>
    obtain ⟨hfollows, hends, -⟩ := haccounted
    exact ⟨hends.last, fun hfinished ↦ (by cases hphase.symm.trans hfinished), hfollows.sorted⟩
  · next hphase =>
    obtain ⟨hfollows, hends, -, -⟩ := haccounted
    exact ⟨hends.last, fun hfinished ↦ (by cases hphase.symm.trans hfinished), hfollows.sorted⟩
  · exact haccounted

end Steps

theorem accounted_step {start : Start} (state : State) (action : Action) (next : State)
    (haccounted : Accounted start state) (hstep : (transfer start).step state action = some next)
    (hsettled : Settled state action) : Accounted start next := by
  simp only [transfer] at hstep
  split at hstep
  · next hphase =>
    obtain rfl := Option.some.inj hstep
    simp only [Accounted, hphase] at haccounted
    rw [haccounted]
    exact accounted_begin start
  · next current reason hphase =>
    obtain rfl := Option.some.inj hstep
    simp only [Accounted, hphase] at haccounted
    exact accounted_fail haccounted.1 haccounted.2.1 haccounted.2.2 reason
  · next current properties hphase =>
    obtain rfl := Option.some.inj hstep
    simp only [Accounted, hphase] at haccounted
    exact accounted_update haccounted.1 (haccounted.2.1.isOpen haccounted.2.2) rfl
  · next current reason hphase =>
    obtain rfl := Option.some.inj hstep
    simp only [Accounted, hphase] at haccounted
    exact accounted_fail haccounted.1 haccounted.2.1 haccounted.2.2 _
  · next current _ hphase =>
    obtain rfl := Option.some.inj hstep
    simp only [Accounted, hphase] at haccounted
    have hcancelled : Accounted start
        ((state.report none).update start { current with status := "cancelled" }) :=
      accounted_update haccounted.1 (haccounted.2.1.isOpen haccounted.2.2) rfl
    rwa [report_none] at hcancelled
  · next current interfaceName changed hphase =>
    split at hstep <;> obtain rfl := Option.some.inj hstep
    · exact haccounted
    · simp only [Accounted, hphase] at haccounted
      exact accounted_update haccounted.1 (haccounted.2.1.isOpen haccounted.2.2) rfl
  · next current reason hphase =>
    obtain rfl := Option.some.inj hstep
    simp only [Accounted, hphase] at haccounted
    exact accounted_fail haccounted.1 haccounted.2.1 haccounted.2.2 _
  · next current hphase =>
    obtain rfl := Option.some.inj hstep
    simp only [Accounted, hphase] at haccounted
    exact accounted_fail haccounted.1 haccounted.2.1 haccounted.2.2 _
  · next current result hphase =>
    obtain rfl := Option.some.inj hstep
    simp only [Accounted, hphase] at haccounted
    have hfinish : OneTerminal (state.finish start result) :=
      oneTerminal_finish haccounted hphase hsettled
    cases result <;> exact hfinish
  · cases hstep

theorem settled_step {start : Start} (state : State) (action : Action) (next : State)
    (haccounted : Accounted start state) (hstep : (transfer start).step state action = some next)
    (hone : OneTerminal next) : Settled state action := by
  unfold Settled
  split
  · next current reason hphase =>
    simp only [Accounted, hphase] at haccounted
    have hnext : state.finish start (.error reason) = next := by
      simp only [transfer, hphase] at hstep
      exact Option.some.inj hstep
    rw [← hnext] at hone
    have hsettled := settled_of_oneTerminal haccounted hphase hone
    simpa only [Settled, hphase] using hsettled
  · trivial

/-- A transfer keeps the promise after every step exactly when its task never ends by the
status `error`, nor by a failure after bytes were transferred. -/
theorem always_oneTerminal_iff {start : Start} {actions : List Action} {final : State}
    (hrun : (transfer start).run (State.init start) actions = some final) :
    (transfer start).Always OneTerminal (State.init start) actions ↔
      (transfer start).Meets Settled (State.init start) actions :=
  (transfer start).always_iff_meets (fun _ haccounted ↦ accounted_oneTerminal haccounted)
    accounted_step settled_step (rfl : Accounted start (State.init start)) hrun

/-- An outgoing transfer of 400 bytes with its progress reported in two steps. -/
def outgoingStart : Start :=
  .outgoing "obex-transfer-1" "device" "photo.jpg" ⟨some "queued", none, some 400⟩ 400

def completedRun : List Action :=
  [.begin, .refreshed ⟨some "active", some 0, some 400⟩,
    .propertiesChanged transferInterface ⟨none, some 128, none⟩,
    .propertiesChanged "org.freedesktop.DBus.Properties" ⟨some "error", none, none⟩,
    .propertiesChanged transferInterface ⟨some "complete", some 400, none⟩, .finish]

theorem always_oneTerminal_of_completedRun :
    (transfer outgoingStart).Always OneTerminal (State.init outgoingStart) completedRun :=
  (always_oneTerminal_iff
    (by rfl : (transfer outgoingStart).run (State.init outgoingStart) completedRun = some _)).mpr
    (by decide)

/-- obexd reports an error after some bytes. -/
def erroneousRun : List Action :=
  [.begin, .refreshed ⟨some "active", some 128, some 400⟩,
    .propertiesChanged transferInterface ⟨some "error", none, none⟩, .finish]

theorem not_oneTerminal_of_erroneousRun :
    ∃ final, (transfer outgoingStart).run (State.init outgoingStart) erroneousRun = some final ∧
      final.phase = .finished ∧ final.events.countP ObexEvent.isTerminal = 2 ∧
        ¬OneTerminal final := by
  refine ⟨_, rfl, rfl, rfl, fun hone ↦ ?_⟩
  have honce := hone.once rfl
  cases honce

end BtDaemon.Obex
