import BtDaemon.Api.Adapter

/-!
# Adapter batches

The calls of one adapter request stand together among the calls for its adapter, because they are
made under the gate of the adapter and only one task at a time holds that gate. What a patch
reports is what its calls did: the settings that were applied, at most one whose write failed, and
the others, whose setters were not called.
-/

namespace BtDaemon.Api

/-! ## What a patch reports -/

/-- The calls for settings that were applied. -/
def performed (applied : List Setting) : List Call :=
  applied.flatMap fun setting ↦
    [.setter setting.operation setting.params, .acknowledged (.ok ())]

def attempted (failed : Setting × BackendError) : List Call :=
  [.setter failed.1.operation failed.1.params, .acknowledged (.error failed.2)]

/-- The outcomes are what the calls did: an applied prefix, at most one unknown setting, and the
rest, which is not attempted and whose setters were not called. -/
def Truthful (settings : List Setting) (calls : List Call) (outcomes : List Outcome) : Prop :=
  ∃ (applied : List Setting) (failed : Option (Setting × BackendError)) (rest : List Setting),
    settings = applied ++ failed.toList.map Prod.fst ++ rest ∧ (failed = none → rest = []) ∧
      calls = performed applied ++ failed.toList.flatMap attempted ∧
      outcomes = applied.map (fun setting ↦ setting.outcome "applied") ++
        failed.toList.map (fun failed ↦ failed.1.unknown failed.2) ++
        rest.map fun setting ↦ setting.outcome "not-attempted"

/-- The settings before this one were applied. -/
def Reached (settings : List Setting) (calls : List Call) (outcomes : List Outcome)
    (later : List Setting) : Prop :=
  ∃ applied, settings = applied ++ later ∧ calls = performed applied ∧
    outcomes = applied.map fun setting ↦ setting.outcome "applied"

def BatchHolds (key : String) (settings : List Setting) (calls : List Call) : Body → Prop
  | .ready outcomes current rest => Reached settings calls outcomes (current :: rest)
  | .applying outcomes current rest => ∃ before,
    calls = before ++ [.setter current.operation current.params] ∧
      Reached settings before outcomes (current :: rest)
  | .settled outcomes => Truthful settings calls outcomes
  | .reading outcomes => ∃ before,
    calls = before ++ [.snapshot] ∧ Truthful settings before outcomes
  | .done (.batch about outcomes snapshot) => about = key ∧ ∃ before result,
    calls = before ++ [.snapshot, .snapshotTaken result] ∧
      snapshot = result.mapError errorValue ∧ Truthful settings before outcomes
  | .done (.lost _) => True
  | _ => False

def SingleHolds (operation : AdapterOperation) (params : Value) (calls : List Call) : Body → Prop
  | .readyOne other given => other = operation ∧ given = params ∧ calls = []
  | .applyingOne => calls = [.setter operation params]
  | .settledOne => calls = [.setter operation params, .acknowledged (.ok ())]
  | .readingOne => calls = [.setter operation params, .acknowledged (.ok ()), .snapshot]
  | .done (.single result) =>
    (∃ failure, calls = [.setter operation params, .acknowledged (.error failure)] ∧
      result = .error failure) ∨
    calls = [.setter operation params, .acknowledged (.ok ()), .snapshot, .snapshotTaken result] ∨
    ∃ join, Response.single result = lostSingle join
  | _ => False

def BodyHolds (calls : List Call) : Request → Body → Prop
  | .batch key settings, body => BatchHolds key settings calls body
  | .single _ operation params, body => SingleHolds operation params calls body
  | .device _, body => body = .foreign

theorem performed_concat (applied : List Setting) (setting : Setting) :
    performed (applied ++ [setting]) = performed applied ++
      [.setter setting.operation setting.params, .acknowledged (.ok ())] := by
  rw [performed, List.flatMap_append]
  rfl

theorem batchHolds_continueWith {key : String} {settings : List Setting} {calls : List Call}
    {outcomes : List Outcome} {later : List Setting}
    (hreached : Reached settings calls outcomes later) :
    BatchHolds key settings calls (continueWith outcomes later) := by
  cases later with
  | nil =>
    obtain ⟨applied, rfl, rfl, rfl⟩ := hreached
    exact ⟨applied, none, [], by simp, fun _ ↦ rfl, by simp, by simp⟩
  | cons => exact hreached

theorem bodyHolds_start (request : Request) : BodyHolds [] request request.start := by
  cases request with
  | batch key settings => exact batchHolds_continueWith ⟨[], rfl, rfl, rfl⟩
  | single => exact ⟨rfl, rfl, rfl⟩
  | device => rfl

theorem Reached.applied {settings : List Setting} {calls : List Call} {outcomes : List Outcome}
    {current : Setting} {rest : List Setting}
    (hreached : Reached settings calls outcomes (current :: rest)) :
    Reached settings (calls ++
        [.setter current.operation current.params, .acknowledged (.ok ())])
      (outcomes ++ [current.outcome "applied"]) rest := by
  obtain ⟨applied, rfl, rfl, rfl⟩ := hreached
  refine ⟨applied ++ [current], ?_, (performed_concat applied current).symm, ?_⟩
  · rw [List.append_assoc]
    rfl
  · rw [List.map_append]
    rfl

theorem Reached.failed {settings : List Setting} {calls : List Call} {outcomes : List Outcome}
    {current : Setting} {rest : List Setting}
    (hreached : Reached settings calls outcomes (current :: rest)) (failure : BackendError) :
    Truthful settings (calls ++
        [.setter current.operation current.params, .acknowledged (.error failure)])
      (outcomes ++ [current.unknown failure] ++
        rest.map fun setting ↦ setting.outcome "not-attempted") := by
  obtain ⟨applied, rfl, rfl, rfl⟩ := hreached
  refine ⟨applied, some (current, failure), rest, ?_, fun hnone ↦ (nomatch hnone), ?_, ?_⟩
  · simp
  · simp [attempted]
  · simp

/-- The step lemma: what the task has called and what it will report go together. -/
theorem batchHolds_advance {key : String} {settings : List Setting} {calls : List Call}
    {body next : Body} {input : Input} {call : Option Call}
    (hholds : BatchHolds key settings calls body)
    (hadvance : advance key body input = some (next, call)) :
    BatchHolds key settings (calls ++ call.toList) next := by
  cases body with
  | ready outcomes current rest =>
    cases input with
    | call =>
      obtain ⟨rfl, rfl⟩ := Prod.mk.inj (Option.some.inj hadvance)
      exact ⟨calls, rfl, hholds⟩
    | acknowledge | readSnapshot | crash => cases hadvance
  | applying outcomes current rest =>
    obtain ⟨before, rfl, hreached⟩ := hholds
    cases input with
    | acknowledge result =>
      cases result with
      | ok =>
        obtain ⟨rfl, rfl⟩ := Prod.mk.inj (Option.some.inj hadvance)
        rw [List.append_assoc]
        exact batchHolds_continueWith hreached.applied
      | error failure =>
        obtain ⟨rfl, rfl⟩ := Prod.mk.inj (Option.some.inj hadvance)
        rw [List.append_assoc]
        exact hreached.failed failure
    | crash =>
      obtain ⟨rfl, rfl⟩ := Prod.mk.inj (Option.some.inj hadvance)
      trivial
    | call | readSnapshot => cases hadvance
  | settled outcomes =>
    cases input with
    | call =>
      obtain ⟨rfl, rfl⟩ := Prod.mk.inj (Option.some.inj hadvance)
      exact ⟨calls, rfl, hholds⟩
    | acknowledge | readSnapshot | crash => cases hadvance
  | reading outcomes =>
    obtain ⟨before, rfl, htruthful⟩ := hholds
    cases input with
    | readSnapshot result =>
      obtain ⟨rfl, rfl⟩ := Prod.mk.inj (Option.some.inj hadvance)
      exact ⟨rfl, before, result, List.append_assoc _ _ _, rfl, htruthful⟩
    | crash =>
      obtain ⟨rfl, rfl⟩ := Prod.mk.inj (Option.some.inj hadvance)
      trivial
    | call | acknowledge => cases hadvance
  | done => cases hadvance
  | readyOne | applyingOne | settledOne | readingOne | foreign => exact hholds.elim

theorem singleHolds_advance {key : String} {operation : AdapterOperation} {params : Value}
    {calls : List Call} {body next : Body} {input : Input} {call : Option Call}
    (hholds : SingleHolds operation params calls body)
    (hadvance : advance key body input = some (next, call)) :
    SingleHolds operation params (calls ++ call.toList) next := by
  cases body with
  | readyOne other given =>
    obtain ⟨rfl, rfl, rfl⟩ := hholds
    cases input with
    | call =>
      obtain ⟨rfl, rfl⟩ := Prod.mk.inj (Option.some.inj hadvance)
      rfl
    | acknowledge | readSnapshot | crash => cases hadvance
  | applyingOne =>
    obtain rfl : calls = _ := hholds
    cases input with
    | acknowledge result =>
      cases result with
      | ok =>
        obtain ⟨rfl, rfl⟩ := Prod.mk.inj (Option.some.inj hadvance)
        rfl
      | error failure =>
        obtain ⟨rfl, rfl⟩ := Prod.mk.inj (Option.some.inj hadvance)
        exact .inl ⟨failure, rfl, rfl⟩
    | crash join =>
      obtain ⟨rfl, rfl⟩ := Prod.mk.inj (Option.some.inj hadvance)
      exact .inr (.inr ⟨join, rfl⟩)
    | call | readSnapshot => cases hadvance
  | settledOne =>
    obtain rfl : calls = _ := hholds
    cases input with
    | call =>
      obtain ⟨rfl, rfl⟩ := Prod.mk.inj (Option.some.inj hadvance)
      rfl
    | acknowledge | readSnapshot | crash => cases hadvance
  | readingOne =>
    obtain rfl : calls = _ := hholds
    cases input with
    | readSnapshot result =>
      obtain ⟨rfl, rfl⟩ := Prod.mk.inj (Option.some.inj hadvance)
      exact .inr (.inl rfl)
    | crash join =>
      obtain ⟨rfl, rfl⟩ := Prod.mk.inj (Option.some.inj hadvance)
      exact .inr (.inr ⟨join, rfl⟩)
    | call | acknowledge => cases hadvance
  | done => cases hadvance
  | ready | applying | settled | reading | foreign => exact hholds.elim

theorem bodyHolds_advance {calls : List Call} {request : Request} {body next : Body}
    {input : Input} {call : Option Call} (hholds : BodyHolds calls request body)
    (hadvance : advance request.key body input = some (next, call)) :
    BodyHolds (calls ++ call.toList) request next := by
  cases request with
  | batch => exact batchHolds_advance hholds hadvance
  | single => exact singleHolds_advance hholds hadvance
  | device =>
    obtain rfl : body = .foreign := hholds
    cases hadvance

/-! ## What a request may call -/

/-- The request asks for this write. -/
def Lists (request : Request) (operation : AdapterOperation) (params : Value) : Prop :=
  match request with
  | .batch _ settings => ∃ setting ∈ settings, setting.operation = operation ∧ setting.params = params
  | .single _ wanted given => wanted = operation ∧ given = params
  | .device _ => False

theorem ready_of_setter {key : String} {body next : Body} {input : Input}
    {operation : AdapterOperation} {params : Value}
    (hadvance : advance key body input = some (next, some (.setter operation params))) :
    (∃ outcomes current rest, body = .ready outcomes current rest ∧
      current.operation = operation ∧ current.params = params) ∨
    body = .readyOne operation params := by
  rw [advance.eq_def] at hadvance
  split at hadvance
  all_goals cases hadvance
  · exact .inl ⟨_, _, _, rfl, rfl, rfl⟩
  · exact .inr rfl

theorem lists_of_advance {calls : List Call} {request : Request} {body next : Body}
    {input : Input} {operation : AdapterOperation} {params : Value}
    (hholds : BodyHolds calls request body)
    (hadvance : advance request.key body input = some (next, some (.setter operation params))) :
    Lists request operation params := by
  rcases ready_of_setter hadvance with ⟨outcomes, current, rest, rfl, rfl, rfl⟩ | rfl
  · cases request with
    | batch key settings =>
      obtain ⟨applied, rfl, -⟩ := hholds
      exact ⟨current, List.mem_append_right _ List.mem_cons_self, rfl, rfl⟩
    | single => exact hholds.elim
    | device => cases hholds
  · cases request with
    | batch => exact hholds.elim
    | single => exact ⟨hholds.1.symm, hholds.2.1.symm⟩
    | device => cases hholds

/-! ## Every run -/

/-- The calls of one task. -/
def callsOf (id : ℕ) (log : List Event) : List Call :=
  (EventLog.about Event.task log id).map Event.call

/-- The calls for one adapter. -/
abbrev about (key : String) (log : List Event) : List Event := EventLog.about Event.key log key

structure Invariant (state : State) : Prop where
  gates : Gates.Invariant state.gates
  keyed : ∀ id ∈ state.gates.arrived, state.gates.key id = (state.task id).request.gateKey
  /-- A task calls nothing before it has the mutex. -/
  entered : ∀ event ∈ state.log, 5 ≤ (state.gates.phase event.task).rank
  keys : ∀ event ∈ state.log, event.key = (state.task event.task).request.key ∧
    (state.task event.task).request.gateKey = "adapter:" ++ event.key
  body : ∀ id ∈ state.gates.arrived,
    BodyHolds (callsOf id state.log) (state.task id).request (state.task id).body
  lists : ∀ event ∈ state.log, ∀ operation params, event.call = .setter operation params →
    Lists (state.task event.task).request operation params
  contiguous : ∀ key, EventLog.Contiguous Event.task (about key state.log)
  trailing : ∀ id, (state.gates.phase id).rank = 5 →
    EventLog.Trailing Event.task (about (state.task id).request.key state.log) id
  /-- A task gives its mutex back when it is done. -/
  ended : ∀ id, 6 ≤ (state.gates.phase id).rank → (state.task id).body.ended = true
  answered : ∀ id response, (id, response) ∈ state.responses →
    (∃ error, response = .invalid error) ∨
      (id ∈ state.gates.arrived ∧ (state.task id).body = .done response)
  parsed : ∀ id ∈ state.gates.arrived, ∀ key settings,
    (state.task id).request = .batch key settings → ∃ params, parse params = .ok (key, settings)

theorem invariant_init : Invariant init where
  gates := Gates.invariant_init
  keyed _ hid := nomatch hid
  entered _ hevent := nomatch hevent
  keys _ hevent := nomatch hevent
  body _ hid := nomatch hid
  lists _ hevent := nomatch hevent
  contiguous _ := EventLog.contiguous_nil _
  trailing _ hrank := nomatch hrank
  ended _ hrank := nomatch hrank
  answered _ _ hresponse := nomatch hresponse
  parsed _ hid := nomatch hid

/-- Nothing of a task is in the log before it has the mutex. -/
theorem Invariant.silent {state : State} (hinv : Invariant state) {id : ℕ}
    (hrank : (state.gates.phase id).rank < 5) : ∀ event ∈ state.log, event.task ≠ id := by
  rintro event hevent rfl
  exact absurd (hinv.entered event hevent) (Nat.not_le_of_lt hrank)

theorem trailing_of_silent {log : List Event} {id : ℕ}
    (hsilent : ∀ event ∈ log, event.task ≠ id) (key : String) :
    EventLog.Trailing Event.task (about key log) id :=
  EventLog.trailing_of_silent _ fun event hevent ↦ hsilent event (List.mem_of_mem_filter hevent)

theorem callsOf_of_silent {log : List Event} {id : ℕ} (hsilent : ∀ event ∈ log, event.task ≠ id) :
    callsOf id log = [] := by
  apply List.map_eq_nil_iff.mpr
  apply List.filter_eq_nil_iff.mpr
  exact fun event hevent hsame ↦ hsilent event hevent (of_decide_eq_true hsame)

/-- The steps of the gates. -/
theorem Invariant.liftGate {state next : State} {action : Gates.Action} (hinv : Invariant state)
    (hold : ∀ key, action ≠ .arrive action.task key)
    (hended : action = .unlock action.task ∨ action = .abandon action.task →
      (state.task action.task).body.ended = true)
    (hstep : liftGate state action = some next) : Invariant next := by
  obtain ⟨gates, hgates, rfl⟩ := Option.map_eq_some_iff.mp hstep
  obtain ⟨harrived, hkey, after, hphase, hgoes⟩ := Gates.step_frame hgates hold
  have hforward : ∀ id, (state.gates.phase id).rank ≤ (gates.phase id).rank := by
    intro id
    rw [hphase, Function.update_apply]
    split_ifs with hid
    · exact hid ▸ hgoes.forward
    · exact Nat.le_refl _
  refine ⟨hinv.gates.step hgates, ?_, ?_, hinv.keys, ?_, hinv.lists, hinv.contiguous, ?_, ?_,
    ?_, ?_⟩
  · rw [harrived, hkey]
    exact hinv.keyed
  · exact fun event hevent ↦ Nat.le_trans (hinv.entered event hevent) (hforward event.task)
  · rw [harrived]
    exact hinv.body
  · intro id hrank
    rw [hphase, Function.update_apply] at hrank
    split_ifs at hrank with hid
    · -- it has just got the mutex, and has called nothing
      have hbefore := hgoes.holding hrank
      rw [← hid] at hbefore
      exact trailing_of_silent (hinv.silent (Nat.lt_of_succ_le (Nat.le_of_eq (by rw [hbefore])))) _
    · exact hinv.trailing id hrank
  · intro id hrank
    rw [hphase, Function.update_apply] at hrank
    split_ifs at hrank with hid
    · rw [hid]
      rcases hgoes.past hrank with hpast | hlast
      · exact hinv.ended action.task hpast
      · exact hended hlast
    · exact hinv.ended id hrank
  · rw [harrived]
    exact hinv.answered
  · rw [harrived]
    exact hinv.parsed

theorem setTask_same (state : State) (id : ℕ) (task : Task) :
    (setTask state id task).task id = task :=
  Function.update_self _ _ _

theorem setTask_other {state : State} {id other : ℕ} (hother : other ≠ id) (task : Task) :
    (setTask state id task).task other = state.task other :=
  Function.update_of_ne hother _ _

/-- What one task keeps, every task keeps. -/
theorem setTask_keeps {Part : Type} (part : Task → Part) {state : State} {id : ℕ} {task : Task}
    (hkept : part task = part (state.task id)) (other : ℕ) :
    part ((setTask state id task).task other) = part (state.task other) := by
  by_cases hother : other = id
  · rw [hother, setTask_same, hkept]
  · rw [setTask_other hother]

/-- A new request. -/
theorem Invariant.spawn {state next : State} {id : ℕ} {request : Request} (hinv : Invariant state)
    (hparsed : ∀ key settings, request = .batch key settings →
      ∃ params, parse params = .ok (key, settings))
    (hstep : spawn state id request = some next) : Invariant next := by
  obtain ⟨gates, hgates, rfl⟩ := Option.map_eq_some_iff.mp hstep
  obtain ⟨hnew, harrive⟩ := Option.ite_none_left_eq_some.mp hgates
  have habsent := hinv.gates.absent hnew
  have hsilent : ∀ event ∈ state.log, event.task ≠ id :=
    hinv.silent (by rw [habsent]; exact Nat.zero_lt_succ 4)
  have hold : ∀ {event}, event ∈ state.log →
      (setTask state id ⟨request, request.start, true⟩).task event.task = state.task event.task :=
    fun hevent ↦ setTask_other (hsilent _ hevent) _
  have hmember : ∀ other, other ∈ state.gates.arrived → other ≠ id :=
    fun other hother hsame ↦ hnew (hsame ▸ hother)
  have hgatesInv := hinv.gates.step hgates
  obtain rfl := Option.some.inj harrive
  have hcases : ∀ other, other ∈ state.gates.arrived ++ [id] →
      other ∈ state.gates.arrived ∨ other = id := fun other hother ↦
    (List.mem_append.mp hother).imp_right List.mem_singleton.mp
  refine ⟨hgatesInv, ?_, ?_, ?_, ?_, ?_, hinv.contiguous, ?_, ?_, ?_, ?_⟩
  · intro other hother
    rcases hcases other hother with hbefore | rfl
    · rw [setTask_other (hmember other hbefore)]
      exact (Function.update_of_ne (hmember other hbefore) _ _).trans (hinv.keyed other hbefore)
    · rw [setTask_same]
      exact Function.update_self _ _ _
  · intro event hevent
    rw [Gates.setPhase_phase, if_neg (hsilent event hevent)]
    exact hinv.entered event hevent
  · intro event hevent
    rw [hold hevent]
    exact hinv.keys event hevent
  · intro other hother
    rcases hcases other hother with hbefore | rfl
    · rw [setTask_other (hmember other hbefore)]
      exact hinv.body other hbefore
    · have hstart : BodyHolds (callsOf other state.log) request request.start := by
        rw [callsOf_of_silent hsilent]
        exact bodyHolds_start request
      rw [setTask_same]
      exact hstart
  · intro event hevent
    rw [hold hevent]
    exact hinv.lists event hevent
  · intro other hrank
    rw [Gates.setPhase_phase] at hrank
    split_ifs at hrank with hother
    · cases hrank
    · rw [setTask_other hother]
      exact hinv.trailing other hrank
  · intro other hrank
    rw [Gates.setPhase_phase] at hrank
    split_ifs at hrank with hother
    · exact absurd hrank (by simp [Gates.Phase.rank])
    · rw [setTask_other hother]
      exact hinv.ended other hrank
  · intro other response hresponse
    apply (hinv.answered other response hresponse).imp_right
    rintro ⟨hbefore, hdone⟩
    rw [setTask_other (hmember other hbefore)]
    exact ⟨List.mem_append_left _ hbefore, hdone⟩
  · intro other hother
    rcases hcases other hother with hbefore | rfl
    · rw [setTask_other (hmember other hbefore)]
      exact hinv.parsed other hbefore
    · rw [setTask_same]
      exact hparsed

/-- The caller stops waiting, and the task goes on. -/
theorem Invariant.unawaited {state : State} (hinv : Invariant state) (id : ℕ) :
    Invariant (setTask state id { state.task id with awaited := false }) := by
  have hrequest := @setTask_keeps _ Task.request state id { state.task id with awaited := false } rfl
  have hbody := @setTask_keeps _ Task.body state id { state.task id with awaited := false } rfl
  refine ⟨hinv.gates, ?_, hinv.entered, ?_, ?_, ?_, hinv.contiguous, ?_, ?_, ?_, ?_⟩
  · intro other hother
    rw [hrequest]
    exact hinv.keyed other hother
  · intro event hevent
    rw [hrequest]
    exact hinv.keys event hevent
  · intro other hother
    rw [hrequest, hbody]
    exact hinv.body other hother
  · intro event hevent
    rw [hrequest]
    exact hinv.lists event hevent
  · intro other hrank
    rw [hrequest]
    exact hinv.trailing other hrank
  · intro other hrank
    rw [hbody]
    exact hinv.ended other hrank
  · intro other response hresponse
    rw [hbody]
    exact hinv.answered other response hresponse
  · intro other hother
    rw [hrequest]
    exact hinv.parsed other hother

/-- A caller gets what its task reports, or why its patch is refused. -/
theorem Invariant.responded {state : State} (hinv : Invariant state) {id : ℕ} {response : Response}
    (hresponse : (∃ error, response = .invalid error) ∨
      (id ∈ state.gates.arrived ∧ (state.task id).body = .done response)) :
    Invariant { state with responses := state.responses ++ [(id, response)] } where
  gates := hinv.gates
  keyed := hinv.keyed
  entered := hinv.entered
  keys := hinv.keys
  body := hinv.body
  lists := hinv.lists
  contiguous := hinv.contiguous
  trailing := hinv.trailing
  ended := hinv.ended
  answered other found hfound := by
    rcases List.mem_append.mp hfound with hbefore | hnew
    · exact hinv.answered other found hbefore
    · obtain ⟨rfl, rfl⟩ := Prod.mk.inj (List.mem_singleton.mp hnew)
      exact hresponse
  parsed := hinv.parsed

theorem callsOf_event (id other : ℕ) (key : String) (log : List Event) (call : Option Call) :
    callsOf id (log ++ event other key call) =
      callsOf id log ++ if other = id then call.toList else [] := by
  cases call with
  | none => simp [event]
  | some call =>
    rw [callsOf, event, Option.toList_some, List.map_singleton, EventLog.about_append_singleton]
    split_ifs
    · rw [List.map_append]
      rfl
    · exact (List.append_nil _).symm

theorem about_concat (key : String) (log : List Event) (event : Event) :
    about key (log ++ [event]) =
      if event.key = key then about key log ++ [event] else about key log :=
  EventLog.about_append_singleton Event.key log event key

theorem holds_iff {state : State} {id : ℕ} :
    holds state id = true ↔ ∃ gate, state.gates.phase id = .holding gate := by
  rw [holds]
  split
  · next gate hholding => exact iff_of_true rfl ⟨gate, hholding⟩
  · next hother =>
    refine iff_of_false Bool.noConfusion ?_
    rintro ⟨gate, hholding⟩
    exact hother gate hholding

/-- Two tasks with the mutex of one adapter are one task. -/
theorem Invariant.one_task {state : State} (hinv : Invariant state) {id other : ℕ}
    (hid : holds state id = true) (hother : (state.gates.phase other).rank = 5)
    (hkey : (state.task id).request.gateKey = (state.task other).request.gateKey) : id = other := by
  obtain ⟨gate, hholding⟩ := holds_iff.mp hid
  obtain ⟨second, hsecond⟩ := Gates.Phase.exists_holding hother
  apply hinv.gates.one_holder hholding hsecond
  rw [hinv.keyed id (hinv.gates.present hholding Gates.Phase.noConfusion),
    hinv.keyed other (hinv.gates.present hsecond Gates.Phase.noConfusion), hkey]

theorem mem_event {id : ℕ} {key : String} {call : Option Call} {added : Event}
    (hadded : added ∈ event id key call) : ∃ made, call = some made ∧ added = ⟨id, key, made⟩ := by
  obtain ⟨made, hmade, rfl⟩ := List.mem_map.mp hadded
  exact ⟨made, Option.mem_toList.mp hmade, rfl⟩

/-- The next call of a task with the mutex stands next to its others. -/
theorem Invariant.contiguous_event {state : State} (hinv : Invariant state) {id : ℕ}
    (hid : holds state id = true) (call : Option Call) (key : String) :
    EventLog.Contiguous Event.task
      (about key (state.log ++ event id (state.task id).request.key call)) := by
  obtain ⟨gate, hholding⟩ := holds_iff.mp hid
  cases call with
  | none =>
    rw [event, Option.toList_none, List.map_nil, List.append_nil]
    exact hinv.contiguous key
  | some call =>
    rw [event, Option.toList_some, List.map_singleton, about_concat]
    split_ifs with hkey
    · apply (hinv.contiguous key).concat
      obtain rfl : (state.task id).request.key = key := hkey
      exact hinv.trailing id (by rw [hholding]; rfl)
    · exact hinv.contiguous key

theorem Invariant.trailing_concat {state : State} (hinv : Invariant state) {id : ℕ}
    (hid : holds state id = true)
    (hadapter : (state.task id).request.gateKey = "adapter:" ++ (state.task id).request.key)
    (call : Call) {other : ℕ} (hother : (state.gates.phase other).rank = 5) :
    EventLog.Trailing Event.task (about (state.task other).request.key
      (state.log ++ [⟨id, (state.task id).request.key, call⟩])) other := by
  rw [about_concat]
  split_ifs with hkey
  · by_cases hsame : id = other
    · exact (hinv.trailing other hother).concat hsame
    · -- the other task does not call this adapter, or it would have the same gate
      have hsilent : ∀ event ∈ state.log ++ [⟨id, (state.task id).request.key, call⟩],
          event.task ≠ other := by
        rintro event hevent rfl
        rcases List.mem_append.mp hevent with hbefore | hnew
        · apply hsame
          apply hinv.one_task hid hother
          obtain ⟨heventKey, hgate⟩ := hinv.keys event hbefore
          rw [hadapter, hgate, heventKey]
          exact congrArg ("adapter:" ++ ·) hkey
        · rw [List.mem_singleton.mp hnew] at hsame
          exact hsame rfl
      have htrailing := trailing_of_silent hsilent (state.task other).request.key
      rw [about_concat, if_pos hkey] at htrailing
      exact htrailing
  · exact hinv.trailing other hother

theorem Invariant.trailing_event {state : State} (hinv : Invariant state) {id : ℕ}
    (hid : holds state id = true)
    (hadapter : (state.task id).request.gateKey = "adapter:" ++ (state.task id).request.key)
    (call : Option Call) {other : ℕ} (hother : (state.gates.phase other).rank = 5) :
    EventLog.Trailing Event.task (about (state.task other).request.key
      (state.log ++ event id (state.task id).request.key call)) other := by
  cases call with
  | none =>
    rw [event, Option.toList_none, List.map_nil, List.append_nil]
    exact hinv.trailing other hother
  | some call => exact hinv.trailing_concat hid hadapter call hother

theorem adapter_of_advance {calls : List Call} {request : Request} {body next : Body}
    {input : Input} {call : Option Call} (hholds : BodyHolds calls request body)
    (hadvance : advance request.key body input = some (next, call)) :
    request.gateKey = "adapter:" ++ request.key := by
  cases request with
  | batch | single => rfl
  | device =>
    obtain rfl : body = .foreign := hholds
    cases hadvance

/-- One task goes on, and what the others have called is what it was. -/
theorem Invariant.body_work {state : State} (hinv : Invariant state) {id : ℕ} {input : Input}
    {body : Body} {call : Option Call}
    (hadvance : advance (state.task id).request.key (state.task id).body input = some (body, call))
    {other : ℕ} (hother : other ∈ state.gates.arrived) :
    BodyHolds (callsOf other (state.log ++ event id (state.task id).request.key call))
      (state.task other).request
      ((setTask state id { state.task id with body }).task other).body := by
  rw [callsOf_event]
  by_cases hsame : other = id
  · subst hsame
    rw [setTask_same, if_pos rfl]
    exact bodyHolds_advance (hinv.body other hother) hadvance
  · rw [setTask_other hsame, if_neg (Ne.symm hsame), List.append_nil]
    exact hinv.body other hother

/-- A task with the mutex goes on to its next await. -/
theorem Invariant.work {state next : State} {id : ℕ} {input : Input} (hinv : Invariant state)
    (hstep : work state id input = some next) : Invariant next := by
  obtain ⟨hid, hmap⟩ := Option.ite_none_right_eq_some.mp hstep
  obtain ⟨⟨body, call⟩, hadvance, rfl⟩ := Option.map_eq_some_iff.mp hmap
  obtain ⟨gate, hholding⟩ := holds_iff.mp hid
  have hrank : (state.gates.phase id).rank = 5 := by rw [hholding]; rfl
  have hbody := hinv.body id (hinv.gates.present hholding Gates.Phase.noConfusion)
  have hadapter := adapter_of_advance hbody hadvance
  have hrequest := @setTask_keeps _ Task.request state id { state.task id with body } rfl
  refine ⟨hinv.gates, ?_, ?_, ?_, ?_, ?_, hinv.contiguous_event hid call, ?_, ?_, ?_, ?_⟩
  · intro other hother
    rw [hrequest]
    exact hinv.keyed other hother
  · intro added hadded
    rcases List.mem_append.mp hadded with hbefore | hnew
    · exact hinv.entered added hbefore
    · obtain ⟨made, -, rfl⟩ := mem_event hnew
      exact Nat.le_of_eq hrank.symm
  · intro added hadded
    rw [hrequest]
    rcases List.mem_append.mp hadded with hbefore | hnew
    · exact hinv.keys added hbefore
    · obtain ⟨made, -, rfl⟩ := mem_event hnew
      exact ⟨rfl, hadapter⟩
  · intro other hother
    rw [hrequest]
    exact hinv.body_work hadvance hother
  · intro added hadded operation params hsetter
    rw [hrequest]
    rcases List.mem_append.mp hadded with hbefore | hnew
    · exact hinv.lists added hbefore operation params hsetter
    · obtain ⟨made, rfl, rfl⟩ := mem_event hnew
      obtain rfl : made = .setter operation params := hsetter
      exact lists_of_advance hbody hadvance
  · intro other hother
    rw [hrequest]
    exact hinv.trailing_event hid hadapter call hother
  · intro other hother
    have hsame : other ≠ id := by
      rintro rfl
      exact absurd (Nat.le_trans hother (Nat.le_of_eq hrank)) (Nat.not_succ_le_self 5)
    rw [setTask_other hsame]
    exact hinv.ended other hother
  · intro other response hresponse
    apply (hinv.answered other response hresponse).imp_right
    rintro ⟨hother, hdone⟩
    have hsame : other ≠ id := by
      rintro rfl
      rw [hdone] at hadvance
      cases hadvance
    rw [setTask_other hsame]
    exact ⟨hother, hdone⟩
  · intro other hother
    rw [hrequest]
    exact hinv.parsed other hother

theorem Invariant.submit {state next : State} {id : ℕ} {params : Value} (hinv : Invariant state)
    (hstep : submit state id params = some next) : Invariant next := by
  rw [Api.submit] at hstep
  split at hstep
  · obtain rfl := Option.some.inj hstep
    exact hinv.responded (.inl ⟨_, rfl⟩)
  · next key settings hparse =>
    apply hinv.spawn _ hstep
    rintro _ _ ⟨⟩
    exact ⟨params, hparse⟩

theorem Invariant.leave {state next : State} {id : ℕ} (hinv : Invariant state)
    (hstep : leave state id = some next) : Invariant next := by
  rw [Api.leave] at hstep
  split at hstep
  · next key hdevice =>
    obtain ⟨gates, hgates, -⟩ := Option.map_eq_some_iff.mp hstep
    have harrived := hinv.gates.arrived_of_step hgates fun _ ↦ Gates.Action.noConfusion
    have hbody : BodyHolds _ (.device key) (state.task id).body := hdevice ▸ hinv.body id harrived
    apply hinv.liftGate (fun _ ↦ Gates.Action.noConfusion) _ hstep
    intro _
    exact (congrArg Body.ended hbody).trans rfl
  · obtain rfl := Option.some.inj hstep
    exact hinv.unawaited id

theorem Invariant.finish {state next : State} {id : ℕ} (hinv : Invariant state)
    (hstep : finish state id = some next) : Invariant next := by
  obtain ⟨dropped, hdrop, rfl⟩ := Option.map_eq_some_iff.mp hstep
  have hdropped : Invariant dropped := by
    apply hinv.liftGate (fun _ ↦ Gates.Action.noConfusion) _ hdrop
    rintro (hunlock | habandon)
    · exact Gates.Action.noConfusion hunlock
    · exact Gates.Action.noConfusion habandon
  split
  · next response hdone =>
    split_ifs
    · obtain ⟨gates, hgates, rfl⟩ := Option.map_eq_some_iff.mp hdrop
      have harrived := hinv.gates.arrived_of_step hgates fun _ ↦ Gates.Action.noConfusion
      obtain ⟨hsame, -⟩ := Gates.step_frame hgates fun _ ↦ Gates.Action.noConfusion
      exact hdropped.responded (.inr ⟨hsame ▸ harrived, hdone⟩)
    · exact hdropped
  · exact hdropped

theorem Invariant.step {state next : State} {action : Action} (hinv : Invariant state)
    (hstep : step state action = some next) : Invariant next := by
  cases action with
  | submit => exact hinv.submit hstep
  | single => exact hinv.spawn (fun _ _ ↦ Request.noConfusion) hstep
  | device => exact hinv.spawn (fun _ _ ↦ Request.noConfusion) hstep
  | leave => exact hinv.leave hstep
  | gate action =>
    obtain ⟨hpermits, hlift⟩ := Option.ite_none_right_eq_some.mp hstep
    apply hinv.liftGate _ _ hlift
    · rintro key harrive
      rw [harrive] at hpermits
      cases hpermits
    · rintro (hunlock | habandon)
      · rw [hunlock] at hpermits
        exact hpermits
      · rw [habandon] at hpermits
        cases hpermits
  | work => exact hinv.work hstep
  | finish => exact hinv.finish hstep

theorem invariant_of_run {actions : List Action} {state : State}
    (hrun : system.run init actions = some state) : Invariant state :=
  system.run_invariant (fun _ _ _ ↦ Invariant.step) invariant_init hrun

/-! ## The promise -/

theorem adapter_of_gateKey {request : Request} {key : String}
    (hgate : request.gateKey = "adapter:" ++ key) :
    request.key = key ∧ ∀ device, request ≠ .device device := by
  have hspell : ∀ device, "device:" ++ device ≠ "adapter:" ++ key := by
    intro device hsame
    have hlist := congrArg String.toList hsame
    rw [String.toList_append, String.toList_append] at hlist
    exact absurd (List.cons.inj hlist).1 (by decide)
  cases request with
  | batch other | single other =>
    refine ⟨?_, fun _ ↦ Request.noConfusion⟩
    exact (String.append_right_inj _).mp hgate
  | device other => exact absurd hgate (hspell other)

/-- The other adapter task that this one waits for serves the same adapter. -/
theorem Invariant.waits_for_own_key {state : State} (hinv : Invariant state) {id gate : ℕ}
    (hwaiting : state.gates.phase id = .waiting gate)
    (hadapter : ∀ device, (state.task id).request ≠ .device device) :
    (Api.step state (.gate (.lock id))).isSome = true ∨
      ∃ other, state.gates.phase other = .holding gate ∧
        (state.task other).request.key = (state.task id).request.key ∧
        ∀ device, (state.task other).request ≠ .device device := by
  rcases hinv.gates.lock_or_holder hwaiting with hfree | ⟨other, hholding, hkey⟩
  · left
    change (Api.liftGate state (.lock id)).isSome = true
    rw [Api.liftGate, Option.isSome_map]
    exact hfree
  · right
    have hid := hinv.keyed id (hinv.gates.present hwaiting Gates.Phase.noConfusion)
    have hother := hinv.keyed other (hinv.gates.present hholding Gates.Phase.noConfusion)
    have hgate : (state.task id).request.gateKey = "adapter:" ++ (state.task id).request.key := by
      cases hrequest : (state.task id).request with
      | batch | single => rfl
      | device device => exact absurd hrequest (hadapter device)
    rw [hid, hgate, hother] at hkey
    exact ⟨other, hholding, adapter_of_gateKey hkey⟩

/-- What a caller is told about its patch is what the calls of its task did. -/
theorem Invariant.reported {state : State} (hinv : Invariant state) {id : ℕ} {key : String}
    {outcomes : List Outcome} {snapshot : Except ApiError Snapshot}
    (hresponse : (id, .batch key outcomes snapshot) ∈ state.responses) :
    ∃ settings before result, (state.task id).request = .batch key settings ∧
      callsOf id state.log = before ++ [.snapshot, .snapshotTaken result] ∧
      snapshot = result.mapError errorValue ∧ Truthful settings before outcomes := by
  rcases hinv.answered id _ hresponse with ⟨error, hinvalid⟩ | ⟨harrived, hdone⟩
  · cases hinvalid
  · have hbody := hinv.body id harrived
    rw [hdone] at hbody
    cases hrequest : (state.task id).request with
    | batch about settings =>
      rw [hrequest] at hbody
      obtain ⟨rfl, before, result, hcalls, hsnapshot, htruthful⟩ := hbody
      exact ⟨settings, before, result, rfl, hcalls, hsnapshot, htruthful⟩
    | single =>
      rw [hrequest] at hbody
      exact hbody.elim
    | device =>
      rw [hrequest] at hbody
      cases hbody

/-- A patch that is invalid in any part is refused before anything is done. -/
theorem refused_of_invalid {state next : State} {id : ℕ} {params : Value}
    (hinvalid : ¬ ∃ key fields, ValidPatch params key fields)
    (hstep : step state (.submit id params) = some next) :
    next.log = state.log ∧ next.gates = state.gates ∧ next.task = state.task ∧
      ∃ error, next.responses = state.responses ++ [(id, .invalid error)] := by
  rw [Api.step, Api.submit] at hstep
  split at hstep
  · obtain rfl := Option.some.inj hstep
    exact ⟨rfl, rfl, rfl, _, rfl⟩
  · next key settings hparse =>
    obtain ⟨fields, hvalid, -⟩ := validPatch_of_parse hparse
    exact absurd ⟨key, fields, hvalid⟩ hinvalid

/-- A caller that stops waiting changes nothing about its adapter request. -/
theorem detached_of_leave {state next : State} {id : ℕ}
    (hadapter : ∀ device, (state.task id).request ≠ .device device)
    (hstep : step state (.leave id) = some next) :
    next.log = state.log ∧ next.gates = state.gates ∧
      ∀ other, (next.task other).request = (state.task other).request ∧
        (next.task other).body = (state.task other).body := by
  rw [Api.step, Api.leave] at hstep
  split at hstep
  · next key hdevice => exact absurd hdevice (hadapter key)
  · obtain rfl := Option.some.inj hstep
    have hrequest :=
      @setTask_keeps _ Task.request state id { state.task id with awaited := false } rfl
    have hbody := @setTask_keeps _ Task.body state id { state.task id with awaited := false } rfl
    exact ⟨rfl, rfl, fun other ↦ ⟨hrequest other, hbody other⟩⟩

structure Promised (state : State) : Prop where
  /-- At most one mutex lives under a gate key, and it lives under no other. -/
  oneMutex : ∀ first second gate other, (state.gates.phase first).gate = some gate →
    (state.gates.phase second).gate = some other →
      (state.gates.key first = state.gates.key second ↔ gate = other)
  oneHolder : ∀ first second gate other, state.gates.phase first = .holding gate →
    state.gates.phase second = .holding other →
      state.gates.key first = state.gates.key second → first = second
  /-- The calls of one request stand together among the calls for its adapter. -/
  contiguous : ∀ key, EventLog.Contiguous Event.task (about key state.log)
  ownGate : ∀ id gate, state.gates.phase id = .waiting gate →
    (∀ device, (state.task id).request ≠ .device device) →
    (step state (.gate (.lock id))).isSome = true ∨
      ∃ other, state.gates.phase other = .holding gate ∧
        (state.task other).request.key = (state.task id).request.key ∧
        ∀ device, (state.task other).request ≠ .device device
  tableMoves : ∀ id, (state.gates.phase id).locked = true →
    ∃ action, (Gates.step state.gates action).isSome = true ∧
      (action = .upgrade id ∨ action = .create id ∨ ∃ key, action = .visit id key)
  detached : ∀ id next, (∀ device, (state.task id).request ≠ .device device) →
    step state (.leave id) = some next → next.log = state.log ∧ next.gates = state.gates ∧
      ∀ other, (next.task other).request = (state.task other).request ∧
        (next.task other).body = (state.task other).body
  /-- The mutex is given back when the body is done and not before. -/
  ended : ∀ id, 6 ≤ (state.gates.phase id).rank → (state.task id).body.ended = true
  refused : ∀ id params next, (¬ ∃ key fields, ValidPatch params key fields) →
    step state (.submit id params) = some next →
      next.log = state.log ∧ next.gates = state.gates ∧ next.task = state.task ∧
        ∃ error, next.responses = state.responses ++ [(id, .invalid error)]
  /-- Every setter call was asked for, and every patch under way is a valid one. -/
  asked : ∀ event ∈ state.log, ∀ operation params, event.call = .setter operation params →
    Lists (state.task event.task).request operation params
  valid : ∀ id ∈ state.gates.arrived, ∀ key settings,
    (state.task id).request = .batch key settings → ∃ params fields, ValidPatch params key fields ∧
      settings.map (fun setting ↦ (setting.field, setting.operation)) = chosen fields
  reported : ∀ id key outcomes snapshot, (id, .batch key outcomes snapshot) ∈ state.responses →
    ∃ settings before result, (state.task id).request = .batch key settings ∧
      callsOf id state.log = before ++ [.snapshot, .snapshotTaken result] ∧
      snapshot = result.mapError errorValue ∧ Truthful settings before outcomes

/-- For every interleaving of requests, their callers and the other users of the gate table, and
every pattern of failures. -/
theorem adapter_batches_promised {actions : List Action} {state : State}
    (hrun : system.run init actions = some state) : Promised state := by
  have hinv := invariant_of_run hrun
  refine ⟨?_, ?_, hinv.contiguous, ?_, ?_, ?_, hinv.ended, ?_, hinv.lists, ?_, ?_⟩
  · intro first second gate other hfirst hsecond
    constructor
    · exact hinv.gates.one_gate hfirst hsecond
    · rintro rfl
      exact hinv.gates.one_key hfirst hsecond
  · exact fun _ _ _ _ ↦ hinv.gates.one_holder
  · exact fun _ _ ↦ hinv.waits_for_own_key
  · exact fun _ ↦ Gates.locked_moves
  · exact fun _ _ ↦ detached_of_leave
  · exact fun _ _ _ ↦ refused_of_invalid
  · intro id harrived key settings hrequest
    obtain ⟨params, hparse⟩ := hinv.parsed id harrived key settings hrequest
    obtain ⟨fields, hvalid, hsettings⟩ := validPatch_of_parse hparse
    exact ⟨params, fields, hvalid, hsettings⟩
  · exact fun _ _ _ _ ↦ hinv.reported

/-- All settings of an adapter, in another order than they are written. -/
def wholePatch (key : String) : Value :=
  .object [("key", .string key), ("changes", .object [("pairable_timeout", .unsigned 0),
    ("alias", .string "Computer"), ("discoverable_timeout", .unsigned 120)])]

/-- A patch whose caller is aborted and whose second setter fails, while another patch waits for
the same adapter and a third is done for another one. -/
def sharedAdapterRun : List Action :=
  [.submit 0 (wholePatch "captured"), .gate (.enter 0), .gate (.upgrade 0), .gate (.create 0),
    .gate (.lock 0), .work 0 .call, .leave 0,
    .submit 1 (wholePatch "captured"), .gate (.enter 1), .gate (.visit 1 "adapter:captured"),
    .gate (.upgrade 1),
    .single 2 "other" .setPairable (.object [("pairable", .bool true)]), .gate (.enter 2),
    .gate (.visit 2 "adapter:captured"), .gate (.upgrade 2), .gate (.create 2), .gate (.lock 2),
    .work 2 .call, .work 2 (.acknowledge (.ok ())), .work 2 .call,
    .work 2 (.readSnapshot (.ok ⟨[]⟩)), .gate (.unlock 2), .finish 2,
    .work 0 (.acknowledge (.ok ())), .work 0 .call,
    .work 0 (.acknowledge (.error ⟨.operationFailed, "write acknowledgement lost"⟩)),
    .work 0 .call, .work 0 (.readSnapshot (.ok ⟨[]⟩)), .gate (.unlock 0), .finish 0,
    .gate (.lock 1), .work 1 .call, .work 1 (.acknowledge (.ok ())), .work 1 .call,
    .work 1 (.acknowledge (.error ⟨.timeout, "timed out"⟩)), .work 1 .call,
    .work 1 (.readSnapshot (.error ⟨.unavailable, "no snapshot"⟩)),
    .gate (.unlock 1), .finish 1]

/-- What the second caller hears. -/
def sharedAdapterOutcomes : List Outcome :=
  [⟨"alias", .string "Computer", "applied", none⟩,
    ⟨"discoverable_timeout", .unsigned 120, "unknown", some (errorValue ⟨.timeout, "timed out"⟩)⟩,
    ⟨"pairable_timeout", .unsigned 0, "not-attempted", none⟩]

theorem adapter_batches_promised_shared :
    ∃ state, system.run init sharedAdapterRun = some state ∧ Promised state ∧
      state.responses = [(2, .single (.ok ⟨[]⟩)),
        (1, .batch "captured" sharedAdapterOutcomes
          (.error (errorValue ⟨.unavailable, "no snapshot"⟩)))] := by
  refine ⟨_, rfl, ?_, rfl⟩
  exact adapter_batches_promised (rfl : system.run init sharedAdapterRun = some _)

end BtDaemon.Api
