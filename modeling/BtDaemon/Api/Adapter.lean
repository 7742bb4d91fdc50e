import BtDaemon.Api.AdapterPatch
import BtDaemon.Daemon.Gates
import BtDaemon.Foundation.EventLog

/-!
# Adapter requests

A patch and a single setting are each carried out by a task of their own, under the gate of the
adapter, and the task goes on when its caller stops waiting. A patch stops at the first setter
that fails and reports on every setting. The device operations are the other users of the gate
table; unlike the adapter tasks they end where their callers do.
-/

namespace BtDaemon.Api

structure Outcome where
  field : String
  value : Value
  state : String
  error : Option ApiError := none

def Setting.outcome (setting : Setting) (state : String) : Outcome :=
  { field := setting.field, value := setting.value, state }

/-- The outcome of a setter that failed: the write may have been made. -/
def Setting.unknown (setting : Setting) (failure : BackendError) : Outcome :=
  { setting.outcome "applied" with state := "unknown", error := some (errorValue failure) }

inductive Response
  | invalid (error : ApiError)
  | batch (key : String) (outcomes : List Outcome) (snapshot : Except ApiError Snapshot)
  | lost (error : ApiError)
  | single (result : Except BackendError Snapshot)

inductive Request
  | batch (key : String) (settings : List Setting)
  | single (key : String) (operation : AdapterOperation) (params : Value)
  | device (key : String)

def Request.key : Request → String
  | .batch key _ => key
  | .single key _ _ => key
  | .device key => key

/-- `adapter_gate` and `device_gate` -/
def Request.gateKey : Request → String
  | .batch key _ => "adapter:" ++ key
  | .single key _ _ => "adapter:" ++ key
  | .device key => "device:" ++ key

/-- Where the task of a request stands, under its gate. -/
inductive Body
  /-- The loop of a patch takes the next setting. -/
  | ready (outcomes : List Outcome) (current : Setting) (rest : List Setting)
  | applying (outcomes : List Outcome) (current : Setting) (rest : List Setting)
  /-- The loop is over. -/
  | settled (outcomes : List Outcome)
  | reading (outcomes : List Outcome)
  | readyOne (operation : AdapterOperation) (params : Value)
  | applyingOne
  | settledOne
  | readingOne
  | done (response : Response)
  /-- What a device operation does is not looked at. -/
  | foreign

/-- One call of the backend, from both ends. -/
inductive Call
  | setter (operation : AdapterOperation) (params : Value)
  | acknowledged (result : Except BackendError Unit)
  | snapshot
  | snapshotTaken (result : Except BackendError Snapshot)

inductive Input
  /-- The task makes its next call. -/
  | call
  | acknowledge (result : Except BackendError Unit)
  | readSnapshot (result : Except BackendError Snapshot)
  /-- The call that is awaited panics. -/
  | crash (join : String)

/-- The top of the loop. -/
def continueWith (outcomes : List Outcome) : List Setting → Body
  | [] => .settled outcomes
  | current :: rest => .ready outcomes current rest

def lostBatch (join : String) : Response :=
  .lost (error "adapter-outcome-unknown"
    ("Adapter worker ended without an outcome; inspect settings before retrying: " ++ join))

def lostSingle (join : String) : Response :=
  .single (.error ⟨.operationFailed, "adapter operation outcome unknown: " ++ join⟩)

/-- The task of a request, from one await to the next. -/
def advance (key : String) : Body → Input → Option (Body × Option Call)
  | .ready outcomes current rest, .call =>
    some (.applying outcomes current rest, some (.setter current.operation current.params))
  | .applying outcomes current rest, .acknowledge (.ok ()) =>
    some (continueWith (outcomes ++ [current.outcome "applied"]) rest,
      some (.acknowledged (.ok ())))
  | .applying outcomes current rest, .acknowledge (.error failure) =>
    some (.settled (outcomes ++ [current.unknown failure] ++
        rest.map fun setting ↦ setting.outcome "not-attempted"),
      some (.acknowledged (.error failure)))
  | .applying _ _ _, .crash join => some (.done (lostBatch join), none)
  | .settled outcomes, .call => some (.reading outcomes, some .snapshot)
  | .reading outcomes, .readSnapshot result =>
    some (.done (.batch key outcomes (result.mapError errorValue)), some (.snapshotTaken result))
  | .reading _, .crash join => some (.done (lostBatch join), none)
  | .readyOne operation params, .call => some (.applyingOne, some (.setter operation params))
  | .applyingOne, .acknowledge (.ok ()) => some (.settledOne, some (.acknowledged (.ok ())))
  | .applyingOne, .acknowledge (.error failure) =>
    some (.done (.single (.error failure)), some (.acknowledged (.error failure)))
  | .applyingOne, .crash join => some (.done (lostSingle join), none)
  | .settledOne, .call => some (.readingOne, some .snapshot)
  | .readingOne, .readSnapshot result =>
    some (.done (.single result), some (.snapshotTaken result))
  | .readingOne, .crash join => some (.done (lostSingle join), none)
  | _, _ => none

def Request.start : Request → Body
  | .batch _ settings => continueWith [] settings
  | .single _ operation params => .readyOne operation params
  | .device _ => .foreign

structure Task where
  request : Request
  body : Body
  /-- The caller still waits for the response. -/
  awaited : Bool

structure Event where
  task : ℕ
  key : String
  call : Call

structure State where
  gates : Gates.State
  task : ℕ → Task
  log : List Event
  responses : List (ℕ × Response)

def init : State := ⟨Gates.init, fun _ ↦ ⟨.device "", .foreign, false⟩, [], []⟩

inductive Action
  | submit (task : ℕ) (params : Value)
  | single (task : ℕ) (key : String) (operation : AdapterOperation) (params : Value)
  | device (task : ℕ) (key : String)
  /-- The caller is aborted. -/
  | leave (task : ℕ)
  | gate (action : Gates.Action)
  | work (task : ℕ) (input : Input)
  /-- The task drops its gate, and its caller gets the response. -/
  | finish (task : ℕ)

def setTask (state : State) (id : ℕ) (task : Task) : State :=
  { state with task := Function.update state.task id task }

def spawn (state : State) (id : ℕ) (request : Request) : Option State :=
  (Gates.step state.gates (.arrive id request.gateKey)).map fun gates ↦
    { setTask state id ⟨request, request.start, true⟩ with gates }

def submit (state : State) (id : ℕ) (params : Value) : Option State :=
  match parse params with
  | .error message =>
    some { state with
      responses := state.responses ++ [(id, .invalid (error "validation-error" message))] }
  | .ok (key, settings) => spawn state id (.batch key settings)

def Body.ended : Body → Bool
  | .done _ => true
  | .foreign => true
  | _ => false

/-- The guard is dropped at the end of the body, and only a device operation can be dropped while
it waits. -/
def permits (state : State) : Gates.Action → Bool
  | .unlock id => (state.task id).body.ended
  | .arrive _ _ => false
  | .drop _ => false
  | .abandon _ => false
  | _ => true

def liftGate (state : State) (action : Gates.Action) : Option State :=
  (Gates.step state.gates action).map fun gates ↦ { state with gates }

def leave (state : State) (id : ℕ) : Option State :=
  match (state.task id).request with
  | .device _ => liftGate state (.abandon id)
  | _ => some (setTask state id { state.task id with awaited := false })

def holds (state : State) (id : ℕ) : Bool :=
  match state.gates.phase id with
  | .holding _ => true
  | _ => false

/-- The event of a call, if there was one. -/
def event (id : ℕ) (key : String) (call : Option Call) : List Event :=
  call.toList.map fun call ↦ ⟨id, key, call⟩

def work (state : State) (id : ℕ) (input : Input) : Option State :=
  if holds state id then
    (advance (state.task id).request.key (state.task id).body input).map fun (body, call) ↦
      { setTask state id { state.task id with body } with
        log := state.log ++ event id (state.task id).request.key call }
  else none

def finish (state : State) (id : ℕ) : Option State :=
  (liftGate state (.drop id)).map fun next ↦
    match (state.task id).body with
    | .done response =>
      if (state.task id).awaited then
        { next with responses := state.responses ++ [(id, response)] } else next
    | _ => next

def step (state : State) : Action → Option State
  | .submit id params => submit state id params
  | .single id key operation params => spawn state id (.single key operation params)
  | .device id key => spawn state id (.device key)
  | .leave id => leave state id
  | .gate action => if permits state action then liftGate state action else none
  | .work id input => work state id input
  | .finish id => finish state id

def system : Transition.System State Action := ⟨init, step⟩

end BtDaemon.Api
