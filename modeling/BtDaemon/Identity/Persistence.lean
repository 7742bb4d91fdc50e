import BtDaemon.Foundation.Transition

/-!
# The identity writer

A thread of its own writes the identity file. `schedule` puts a state into a slot that holds
only the latest one, and then queues a wake-up, which is given up when the queue is full. A
flush queues a message that carries the sender for its answer, and waits. The thread receives a
message, collects what else is queued, takes the slot, writes what it took, and answers the
flushes it collected. Dropping the writer closes the channel and joins the thread.

A state records, next to what the program has, every scheduled state in the order in which the
slot was set, the calls that are in progress, every write with its result, and every flush that
returned.
-/

namespace BtDaemon.Identity.Persistence

open Transition

/-- A scheduled state, with its place in the order in which the slot was set. -/
structure Stored (Content : Type) where
  serial : ℕ
  content : Content
  deriving DecidableEq, Repr

/-- A call of `flush`, with the number of states scheduled before it began. -/
structure Flusher where
  call : ℕ
  since : ℕ
  deriving DecidableEq, Repr

inductive Message where
  | changed
  | flush (flusher : Flusher)
  deriving DecidableEq, Repr

/-- The flush whose answer the message carries. -/
def Message.barrier : Message → List Flusher
  | .changed => []
  | .flush flusher => [flusher]

/-- Where the thread is in its loop. -/
inductive Phase (Content : Type) where
  | receiving
  /-- The sleep after a wake-up. -/
  | sleeping
  | draining (barriers : List Flusher)
  /-- `try_iter` found the queue empty. -/
  | drained (barriers : List Flusher)
  | writing (barriers : List Flusher) (latest : Option (Stored Content))
  | replying (barriers : List Flusher)
  | stopped
  deriving DecidableEq

namespace Phase

variable {Content : Type}

/-- A message was received and the slot was not taken yet. -/
def received : Phase Content → Bool
  | .sleeping | .draining _ | .drained _ => true
  | .receiving | .writing _ _ | .replying _ | .stopped => false

/-- The state that was taken and not written yet. -/
def inHand : Phase Content → Option (Stored Content)
  | .writing _ latest => latest
  | _ => none

/-- The flushes that were collected before the slot is taken. -/
def collected : Phase Content → List Flusher
  | .draining barriers | .drained barriers => barriers
  | _ => []

/-- The flushes that were collected before the slot was taken. -/
def covered : Phase Content → List Flusher
  | .writing barriers _ | .replying barriers => barriers
  | _ => []

end Phase

structure State (Content : Type) where
  slot : Option (Stored Content)
  /-- `sync_channel(1)`. -/
  queue : Option Message
  closed : Bool
  phase : Phase Content
  lastError : Option String
  /-- What the writer left in the file. -/
  disk : Option Content
  scheduled : List Content
  /-- The calls of `schedule` that have set the slot and not yet sent their wake-up. -/
  waking : List ℕ
  flushes : ℕ
  sending : List Flusher
  replies : List (Flusher × Option String)
  returned : List (Flusher × Option String)
  /-- The number of scheduled states up to the newest one that was taken. -/
  taken : ℕ
  writes : List (Stored Content × Option String)

inductive Action (Content : Type) where
  /-- The two halves of `schedule`. -/
  | store (content : Content)
  | wake (serial : ℕ)
  | beginFlush
  | send (flusher : Flusher)
  | receive
  | awake
  | drain
  | drained
  | take
  /-- `persist` with its result, if there is something to write. -/
  | write (error : Option String)
  | reply
  | returns (flusher : Flusher) (result : Option String)
  | drop
  | stop

section

variable {Content : Type}

def State.init : State Content :=
  ⟨none, none, false, .receiving, none, none, [], [], 0, [], [], [], 0, []⟩

def State.store (state : State Content) (content : Content) : State Content :=
  { state with
    slot := some ⟨state.scheduled.length, content⟩
    scheduled := state.scheduled ++ [content]
    waking := state.scheduled.length :: state.waking }

/-- `try_send` gives up when the queue is full. -/
def State.wake (state : State Content) (serial : ℕ) : State Content :=
  { state with
    waking := state.waking.erase serial
    queue := state.queue.or (some .changed) }

def State.beginFlush (state : State Content) : State Content :=
  { state with
    flushes := state.flushes + 1
    sending := ⟨state.flushes, state.scheduled.length⟩ :: state.sending }

def State.take (state : State Content) (barriers : List Flusher) : State Content :=
  { state with
    slot := none
    phase := .writing barriers state.slot
    taken := state.slot.elim state.taken fun stored ↦ stored.serial + 1 }

def State.write (state : State Content) (barriers : List Flusher) (stored : Stored Content)
    (error : Option String) : State Content :=
  { state with
    phase := .replying barriers
    lastError := error
    disk := if error.isNone then some stored.content else state.disk
    writes := state.writes ++ [(stored, error)] }

def step (state : State Content) : Action Content → Option (State Content)
  | .store content => if state.closed then none else some (state.store content)
  | .wake serial => if serial ∈ state.waking then some (state.wake serial) else none
  | .beginFlush => if state.closed then none else some state.beginFlush
  | .send flusher =>
    if flusher ∈ state.sending ∧ state.queue = none then
      some { state with
        queue := some (.flush flusher)
        sending := state.sending.erase flusher }
    else none
  | .receive =>
    match state.phase, state.queue with
    | .receiving, some .changed => some { state with queue := none, phase := .sleeping }
    | .receiving, some (.flush flusher) =>
      some { state with queue := none, phase := .draining [flusher] }
    | _, _ => none
  | .awake =>
    match state.phase with
    | .sleeping => some { state with phase := .draining [] }
    | _ => none
  | .drain =>
    match state.phase, state.queue with
    | .draining barriers, some message =>
      some { state with queue := none, phase := .draining (barriers ++ message.barrier) }
    | _, _ => none
  | .drained =>
    match state.phase, state.queue with
    | .draining barriers, none => some { state with phase := .drained barriers }
    | _, _ => none
  | .take =>
    match state.phase with
    | .drained barriers => some (state.take barriers)
    | _ => none
  | .write error =>
    match state.phase with
    | .writing barriers (some stored) => some (state.write barriers stored error)
    | .writing barriers none => some { state with phase := .replying barriers }
    | _ => none
  | .reply =>
    match state.phase with
    | .replying (flusher :: rest) =>
      some { state with
        phase := .replying rest
        replies := (flusher, state.lastError) :: state.replies }
    | .replying [] => some { state with phase := .receiving }
    | _ => none
  | .returns flusher result =>
    if (flusher, result) ∈ state.replies then
      some { state with
        replies := state.replies.erase (flusher, result)
        returned := (flusher, result) :: state.returned }
    else none
  | .drop =>
    -- Dropping takes the writer by value, so no call is in progress.
    if state.closed = false ∧ state.waking = [] ∧ state.returned.length = state.flushes then
      some { state with closed := true }
    else none
  | .stop =>
    match state.phase, state.queue with
    | .receiving, none => if state.closed then some { state with phase := .stopped } else none
    | _, _ => none

def writer (Content : Type) : System (State Content) (Action Content) := ⟨State.init, step⟩

/-- What a step can be, with one constructor for each branch of `step`. -/
inductive Moves (state : State Content) : Action Content → State Content → Prop where
  | store (content : Content) (hopen : state.closed = false) :
    Moves state (.store content) (state.store content)
  | wake (serial : ℕ) (hwaking : serial ∈ state.waking) :
    Moves state (.wake serial) (state.wake serial)
  | beginFlush (hopen : state.closed = false) : Moves state .beginFlush state.beginFlush
  | send (flusher : Flusher) (hsending : flusher ∈ state.sending) (hqueue : state.queue = none) :
    Moves state (.send flusher)
      { state with
        queue := some (.flush flusher)
        sending := state.sending.erase flusher }
  | receiveChanged (hphase : state.phase = .receiving) (hqueue : state.queue = some .changed) :
    Moves state .receive { state with queue := none, phase := .sleeping }
  | receiveFlush (flusher : Flusher) (hphase : state.phase = .receiving)
    (hqueue : state.queue = some (.flush flusher)) :
    Moves state .receive { state with queue := none, phase := .draining [flusher] }
  | awake (hphase : state.phase = .sleeping) :
    Moves state .awake { state with phase := .draining [] }
  | drain (barriers : List Flusher) (message : Message) (hphase : state.phase = .draining barriers)
    (hqueue : state.queue = some message) :
    Moves state .drain
      { state with queue := none, phase := .draining (barriers ++ message.barrier) }
  | drained (barriers : List Flusher) (hphase : state.phase = .draining barriers)
    (hqueue : state.queue = none) :
    Moves state .drained { state with phase := .drained barriers }
  | take (barriers : List Flusher) (hphase : state.phase = .drained barriers) :
    Moves state .take (state.take barriers)
  | write (barriers : List Flusher) (stored : Stored Content) (error : Option String)
    (hphase : state.phase = .writing barriers (some stored)) :
    Moves state (.write error) (state.write barriers stored error)
  | writeNothing (barriers : List Flusher) (error : Option String)
    (hphase : state.phase = .writing barriers none) :
    Moves state (.write error) { state with phase := .replying barriers }
  | reply (flusher : Flusher) (rest : List Flusher)
    (hphase : state.phase = .replying (flusher :: rest)) :
    Moves state .reply
      { state with
        phase := .replying rest
        replies := (flusher, state.lastError) :: state.replies }
  | replied (hphase : state.phase = .replying []) :
    Moves state .reply { state with phase := .receiving }
  | returns (flusher : Flusher) (result : Option String)
    (hreply : (flusher, result) ∈ state.replies) :
    Moves state (.returns flusher result)
      { state with
        replies := state.replies.erase (flusher, result)
        returned := (flusher, result) :: state.returned }
  | drop (hopen : state.closed = false) (hwaking : state.waking = [])
    (hreturned : state.returned.length = state.flushes) :
    Moves state .drop { state with closed := true }
  | stop (hphase : state.phase = .receiving) (hqueue : state.queue = none)
    (hclosed : state.closed = true) :
    Moves state .stop { state with phase := .stopped }

theorem moves_of_step {state next : State Content} {action : Action Content}
    (hstep : step state action = some next) : Moves state action next := by
  cases action with
  | store content =>
    obtain ⟨hopen, hnext⟩ := Option.ite_none_left_eq_some.mp hstep
    rw [← Option.some.inj hnext]
    exact .store content (Bool.of_not_eq_true hopen)
  | wake serial =>
    obtain ⟨hwaking, hnext⟩ := Option.ite_none_right_eq_some.mp hstep
    rw [← Option.some.inj hnext]
    exact .wake serial hwaking
  | beginFlush =>
    obtain ⟨hopen, hnext⟩ := Option.ite_none_left_eq_some.mp hstep
    rw [← Option.some.inj hnext]
    exact .beginFlush (Bool.of_not_eq_true hopen)
  | send flusher =>
    obtain ⟨⟨hsending, hqueue⟩, hnext⟩ := Option.ite_none_right_eq_some.mp hstep
    rw [← Option.some.inj hnext]
    exact .send flusher hsending hqueue
  | returns flusher result =>
    obtain ⟨hreply, hnext⟩ := Option.ite_none_right_eq_some.mp hstep
    rw [← Option.some.inj hnext]
    exact .returns flusher result hreply
  | drop =>
    obtain ⟨⟨hopen, hwaking, hreturned⟩, hnext⟩ := Option.ite_none_right_eq_some.mp hstep
    rw [← Option.some.inj hnext]
    exact .drop hopen hwaking hreturned
  | receive =>
    unfold step at hstep
    dsimp only at hstep
    split at hstep
    · next hphase hqueue =>
      rw [← Option.some.inj hstep]
      exact .receiveChanged hphase hqueue
    · next flusher hphase hqueue =>
      rw [← Option.some.inj hstep]
      exact .receiveFlush flusher hphase hqueue
    · cases hstep
  | awake =>
    unfold step at hstep
    dsimp only at hstep
    split at hstep
    · next hphase =>
      rw [← Option.some.inj hstep]
      exact .awake hphase
    · cases hstep
  | drain =>
    unfold step at hstep
    dsimp only at hstep
    split at hstep
    · next barriers message hphase hqueue =>
      rw [← Option.some.inj hstep]
      exact .drain barriers message hphase hqueue
    · cases hstep
  | drained =>
    unfold step at hstep
    dsimp only at hstep
    split at hstep
    · next barriers hphase hqueue =>
      rw [← Option.some.inj hstep]
      exact .drained barriers hphase hqueue
    · cases hstep
  | take =>
    unfold step at hstep
    dsimp only at hstep
    split at hstep
    · next barriers hphase =>
      rw [← Option.some.inj hstep]
      exact .take barriers hphase
    · cases hstep
  | write error =>
    unfold step at hstep
    dsimp only at hstep
    split at hstep
    · next barriers stored hphase =>
      rw [← Option.some.inj hstep]
      exact .write barriers stored error hphase
    · next barriers hphase =>
      rw [← Option.some.inj hstep]
      exact .writeNothing barriers error hphase
    · cases hstep
  | reply =>
    unfold step at hstep
    dsimp only at hstep
    split at hstep
    · next flusher rest hphase =>
      rw [← Option.some.inj hstep]
      exact .reply flusher rest hphase
    · next hphase =>
      rw [← Option.some.inj hstep]
      exact .replied hphase
    · cases hstep
  | stop =>
    unfold step at hstep
    dsimp only at hstep
    split at hstep
    · next hphase hqueue =>
      obtain ⟨hclosed, hnext⟩ := Option.ite_none_right_eq_some.mp hstep
      rw [← Option.some.inj hnext]
      exact .stop hphase hqueue hclosed
    · cases hstep

theorem step_of_moves {state next : State Content} {action : Action Content}
    (hmoves : Moves state action next) : step state action = some next := by
  cases hmoves with
  | store content hopen => simp [step, hopen]
  | wake serial hwaking => exact if_pos hwaking
  | beginFlush hopen => simp [step, hopen]
  | send flusher hsending hqueue => exact if_pos ⟨hsending, hqueue⟩
  | receiveChanged hphase hqueue => simp only [step, hphase, hqueue]
  | receiveFlush flusher hphase hqueue => simp only [step, hphase, hqueue]
  | awake hphase => simp only [step, hphase]
  | drain barriers message hphase hqueue => simp only [step, hphase, hqueue]
  | drained barriers hphase hqueue => simp only [step, hphase, hqueue]
  | take barriers hphase => simp only [step, hphase]
  | write barriers stored error hphase => simp only [step, hphase]
  | writeNothing barriers error hphase => simp only [step, hphase]
  | reply flusher rest hphase => simp only [step, hphase]
  | replied hphase => simp only [step, hphase]
  | returns flusher result hreply => exact if_pos hreply
  | drop hopen hwaking hreturned => exact if_pos ⟨hopen, hwaking, hreturned⟩
  | stop hphase hqueue hclosed => simp only [step, hphase, hqueue, hclosed, if_true]

/-! ## What the writer promises -/

/-- A successful write covers every state that was scheduled before the flush began. -/
def Answered (writes : List (Stored Content × Option String)) (flusher : Flusher) : Prop :=
  flusher.since = 0 ∨ ∃ stored, (stored, none) ∈ writes ∧ flusher.since ≤ stored.serial + 1

structure Durable (state : State Content) : Prop where
  flushed : ∀ flusher, (flusher, none) ∈ state.returned → Answered state.writes flusher
  woken : ∀ stored, state.slot = some stored → state.queue.isSome = true ∨
    state.phase.received = true ∨ stored.serial ∈ state.waking
  ordered : state.writes.Pairwise fun earlier later ↦ earlier.1.serial < later.1.serial
  /-- The states that are written are those that were scheduled. -/
  written : ∀ stored error, (stored, error) ∈ state.writes →
    state.scheduled[stored.serial]? = some stored.content
  /-- The last write is one of the last scheduled state, and it decides what is on disk. -/
  dropped : state.phase = .stopped → ∀ content, state.scheduled.getLast? = some content →
    ∃ stored error, state.writes.getLast? = some (stored, error) ∧ stored.content = content ∧
      (error = none → state.disk = some content)

end

end BtDaemon.Identity.Persistence
