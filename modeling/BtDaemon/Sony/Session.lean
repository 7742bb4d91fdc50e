import BtDaemon.Sony.Protocol
import BtDaemon.Foundation.EventLog
import BtDaemon.Foundation.Transition

/-!
# The writer of a Sony session

The headphones expect one command at a time: the writer sends a command and waits for its ACK or
for the deadline before it takes the next one. Messages of the headphones are acknowledged as
they come, also while a command waits. The reader of the session fills the queues; what it
stores about noise control is not read by the writer and is left out.

The reader and the writer are branches of one task, so one poll of the writer's `select!` sees
the two queues of the reader as they are. Commands come from any task.
-/

namespace BtDaemon.Sony

def ack : UInt8 := 0x01
def command : UInt8 := 0x0c
def command2 : UInt8 := 0x0e
def initRequest : List UInt8 := [0x00, 0x00]
def initReply : UInt8 := 0x01
def ncAsmGet : UInt8 := 0x66
def ncAsmTypes : List UInt8 := [0x15, 0x17]

def queries : List (List UInt8) := ncAsmTypes.map fun inquired ↦ [ncAsmGet, inquired]

namespace Session

abbrev Reply := Except String Unit

/-- A completion sender is named by the number of senders that were made before it. -/
structure Command where
  payload : List UInt8
  done : Option ℕ
  deriving DecidableEq

/-- How many entries each channel holds. -/
structure Capacities where
  commands : ℕ
  acks : ℕ
  acked : ℕ

def runSession : Capacities := ⟨8, 16, 4⟩

/-- Where `write_session` stands. -/
inductive Phase
  /-- The outer `select!`. -/
  | selecting
  /-- `send_ack` is writing this sequence; the command in flight is the inner loop's. -/
  | answering (sequence : UInt8) (current : Option Command)
  | sending (command : Command)
  /-- The inner `select!`. -/
  | waiting (command : Command)
  | ended
  deriving DecidableEq

/-- A command is recorded when its frame is given to the writer, because a write that was begun
cannot be taken back. An answer is recorded when it is written. -/
inductive Event
  | command (command : Command) (sequence : UInt8)
  | answer (sequence : UInt8)
  | accepted (command : Command) (sequence : UInt8)
  | timedOut (command : Command)
  deriving DecidableEq

structure State where
  phase : Phase
  sequence : UInt8
  /-- The deadline of the command in flight has passed. -/
  expired : Bool
  commands : List Command
  /-- Every sender of commands is gone. -/
  closed : Bool
  acks : List UInt8
  acked : List UInt8
  /-- How many completion senders were made. -/
  senders : ℕ
  /-- Every command that was queued. -/
  queued : List Command
  /-- The sequence of every headphone message that was queued. -/
  messages : List UInt8
  log : List Event
  /-- What the completion senders were given. -/
  results : List (ℕ × Reply)

def init : State := ⟨.selecting, 0, false, [], false, [], [], 0, [], [], [], []⟩

inductive Action
  /-- `commands.send(..)` goes through. -/
  | queue (payload : List UInt8) (completion : Bool)
  /-- The reader applies a frame. -/
  | receive (frame : Frame)
  | closeCommands
  | expire
  /-- The `select!` at which the writer stands takes a branch. -/
  | turn
  /-- The write under way is complete. -/
  | written
  /-- The write under way fails. -/
  | failed
  /-- The reader ends first and the writer is dropped. -/
  | cancel
  deriving DecidableEq

/-! ## The queues -/

def enqueue (state : State) (command : Command) : State :=
  { state with
    commands := state.commands ++ [command]
    queued := state.queued ++ [command] }

/-- `commands.try_send(..)`: a full or closed queue drops the command. -/
def trySend (capacity : Capacities) (state : State) (payload : List UInt8) : State :=
  if state.closed = false ∧ state.commands.length < capacity.commands then
    enqueue state ⟨payload, none⟩
  else state

def applyCommand (capacity : Capacities) (state : State) (payload : List UInt8) : State :=
  if payload.head? = some initReply then queries.foldl (trySend capacity) state else state

def queueAck (state : State) (sequence : UInt8) : State :=
  { state with acks := state.acks ++ [sequence], messages := state.messages ++ [sequence] }

/-- The reader waits while the queue of acknowledgements is full. An ACK that does not fit is
dropped. -/
def applyFrame (capacity : Capacities) (state : State) (frame : Frame) : Option State :=
  if frame.kind = ack then
    some (if state.acked.length < capacity.acked then
      { state with acked := state.acked ++ [frame.sequence] } else state)
  else if frame.kind = command ∨ frame.kind = command2 then
    if state.acks.length < capacity.acks then
      some (if frame.kind = command then
        applyCommand capacity (queueAck state frame.sequence) frame.payload
        else queueAck state frame.sequence)
    else none
  else some state

def queue (capacity : Capacities) (state : State) (payload : List UInt8) (completion : Bool) :
    Option State :=
  if state.closed = false ∧ state.commands.length < capacity.commands then
    some (if completion then
      enqueue { state with senders := state.senders + 1 } ⟨payload, some state.senders⟩
      else enqueue state ⟨payload, none⟩)
  else none

/-! ## The writer -/

/-- `send_ack` -/
def sendAck (state : State) (received : UInt8) (current : Option Command) : State :=
  match encode ack (received ^^^ 1) [] with
  | .ok _ => { state with phase := .answering (received ^^^ 1) current }
  | .error _ => { state with phase := .ended }

def sendCommand (state : State) (next : Command) : State :=
  match encode command state.sequence next.payload with
  | .ok _ =>
    { state with
      phase := .sending next
      log := state.log ++ [.command next state.sequence] }
  | .error _ => { state with phase := .ended }

def notAcknowledged : String := "Sony headphones did not acknowledge the command"

/-- The end of the inner loop: the result goes to the completion sender, if there is one. -/
def settle (state : State) (command : Command) (result : Reply) : State :=
  { state with
    phase := .selecting
    results := state.results ++ (command.done.map fun done ↦ (done, result)).toList }

def accept (state : State) (command : Command) (sequence : UInt8) : State :=
  settle { state with sequence, log := state.log ++ [.accepted command sequence] } command (.ok ())

def timeOut (state : State) (command : Command) : State :=
  settle { state with log := state.log ++ [.timedOut command] } command (.error notAcknowledged)

def turn (state : State) : Option State :=
  match state.phase with
  | .selecting =>
    match state.acks, state.commands with
    | received :: acks, _ => some (sendAck { state with acks } received none)
    -- the ACKs that nobody waited for are drained here and nowhere else
    | [], next :: commands => some (sendCommand { state with commands, acked := [] } next)
    | [], [] => if state.closed then some { state with phase := .ended } else none
  | .waiting current =>
    match state.acks, state.acked with
    | received :: acks, _ => some (sendAck { state with acks } received (some current))
    | [], next :: acked => some (accept { state with acked } current next)
    | [], [] => if state.expired then some (timeOut state current) else none
  | _ => none

def written (state : State) : Option State :=
  match state.phase with
  | .answering sequence current =>
    some { state with
      phase := current.elim .selecting .waiting
      log := state.log ++ [.answer sequence] }
  | .sending current => some { state with phase := .waiting current, expired := false }
  | _ => none

def Phase.live (phase : Phase) : Prop := phase ≠ .ended

/-- The command whose outcome is awaited. -/
def Phase.current : Phase → Option Command
  | .answering _ current => current
  | .sending command => some command
  | .waiting command => some command
  | _ => none

/-- The answer that is being written. -/
def Phase.answer : Phase → Option UInt8
  | .answering sequence _ => some sequence
  | _ => none

/-- The deadline runs from the end of the command's write. -/
def Phase.armed : Phase → Bool
  | .answering _ current => current.isSome
  | .waiting _ => true
  | _ => false

def Phase.writing : Phase → Bool
  | .answering _ _ => true
  | .sending _ => true
  | _ => false

def act (capacity : Capacities) (state : State) : Action → Option State
  | .queue payload completion => queue capacity state payload completion
  | .receive frame => applyFrame capacity state frame
  | .closeCommands => some { state with closed := true }
  | .expire => if state.phase.armed then some { state with expired := true } else none
  | .turn => turn state
  | .written => written state
  | .failed => if state.phase.writing then some { state with phase := .ended } else none
  | .cancel => some { state with phase := .ended }

/-- Nothing happens in a session that ended. -/
def step (capacity : Capacities) (state : State) (action : Action) : Option State :=
  if state.phase = .ended then none else act capacity state action

def system (capacity : Capacities) : Transition.System State Action := ⟨init, step capacity⟩

/-! ## Reading the log -/

def begunBy : Event → Option Command
  | .command command _ => some command
  | _ => none

/-- The commands given to the writer. -/
def begun (log : List Event) : List Command := log.filterMap begunBy

def settledBy : Event → Option (Command × Reply)
  | .accepted command _ => some (command, .ok ())
  | .timedOut command => some (command, .error notAcknowledged)
  | _ => none

/-- The commands with an outcome. -/
def settled (log : List Event) : List (Command × Reply) := log.filterMap settledBy

def answeredBy : Event → Option UInt8
  | .answer sequence => some sequence
  | _ => none

/-- The sequences of the ACKs that were written. -/
def answered (log : List Event) : List UInt8 := log.filterMap answeredBy

def afterEvent (last : UInt8) : Event → UInt8
  | .accepted _ sequence => sequence
  | _ => last

/-- The sequence of the last ACK that was accepted. -/
def lastAccepted (log : List Event) : UInt8 := log.foldl afterEvent 0

@[simp]
theorem begun_concat (log : List Event) (event : Event) :
    begun (log ++ [event]) = begun log ++ (begunBy event).toList := by
  rw [begun, List.filterMap_append]
  cases hevent : begunBy event <;> simp [hevent, begun]

@[simp]
theorem settled_concat (log : List Event) (event : Event) :
    settled (log ++ [event]) = settled log ++ (settledBy event).toList := by
  rw [settled, List.filterMap_append]
  cases hevent : settledBy event <;> simp [hevent, settled]

@[simp]
theorem answered_concat (log : List Event) (event : Event) :
    answered (log ++ [event]) = answered log ++ (answeredBy event).toList := by
  rw [answered, List.filterMap_append]
  cases hevent : answeredBy event <;> simp [hevent, answered]

@[simp]
theorem lastAccepted_concat (log : List Event) (event : Event) :
    lastAccepted (log ++ [event]) = afterEvent (lastAccepted log) event := by
  rw [lastAccepted, List.foldl_append]
  rfl

theorem Phase.answer_of_not_writing {phase : Phase} (hwriting : phase.writing = false) :
    phase.answer = none := by
  cases phase with
  | answering => cases hwriting
  | selecting | sending | waiting | ended => rfl

/-- The branches that a `select!` of the writer can take. -/
theorem turn_cases {state next : State} (hstep : turn state = some next) :
    (∃ received acks, state.acks = received :: acks ∧ state.phase.live ∧
      state.phase.writing = false ∧
      next = sendAck { state with acks } received state.phase.current) ∨
    (∃ command commands, state.phase = .selecting ∧ state.acks = [] ∧
      state.commands = command :: commands ∧
      next = sendCommand { state with commands, acked := [] } command) ∨
    (state.phase = .selecting ∧ state.acks = [] ∧ next = { state with phase := .ended }) ∨
    (∃ current sequence acked, state.phase = .waiting current ∧ state.acks = [] ∧
      state.acked = sequence :: acked ∧ next = accept { state with acked } current sequence) ∨
    (∃ current, state.phase = .waiting current ∧ state.acks = [] ∧ state.acked = [] ∧
      state.expired = true ∧ next = timeOut state current) := by
  rw [turn] at hstep
  cases hphase : state.phase with
  | selecting =>
    cases hacks : state.acks with
    | cons received acks =>
      simp only [hphase, hacks, Option.some.injEq] at hstep
      exact .inl ⟨received, acks, rfl, Phase.noConfusion, rfl, hstep.symm⟩
    | nil =>
      cases hcommands : state.commands with
      | cons command commands =>
        simp only [hphase, hacks, hcommands, Option.some.injEq] at hstep
        exact .inr (.inl ⟨command, commands, rfl, rfl, rfl, hstep.symm⟩)
      | nil =>
        simp only [hphase, hacks, hcommands] at hstep
        split at hstep
        · exact .inr (.inr (.inl ⟨rfl, rfl, (Option.some.inj hstep).symm⟩))
        · cases hstep
  | waiting current =>
    cases hacks : state.acks with
    | cons received acks =>
      simp only [hphase, hacks, Option.some.injEq] at hstep
      exact .inl ⟨received, acks, rfl, Phase.noConfusion, rfl, hstep.symm⟩
    | nil =>
      cases hacked : state.acked with
      | cons sequence acked =>
        simp only [hphase, hacks, hacked, Option.some.injEq] at hstep
        exact .inr (.inr (.inr (.inl ⟨current, sequence, acked, rfl, rfl, rfl, hstep.symm⟩)))
      | nil =>
        simp only [hphase, hacks, hacked] at hstep
        split at hstep
        · next hexpired =>
          have hnext := (Option.some.inj hstep).symm
          exact .inr (.inr (.inr (.inr ⟨current, rfl, rfl, rfl, hexpired, hnext⟩)))
        · cases hstep
  | answering | sending | ended =>
    rw [hphase] at hstep
    cases hstep

end Session

end BtDaemon.Sony
