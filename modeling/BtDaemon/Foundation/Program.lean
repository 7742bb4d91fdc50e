import Mathlib.Algebra.GroupWithZero.Nat
import Mathlib.Algebra.Order.Group.Nat
import Mathlib.Tactic.Common

/-!
# Programs that ask

A program asks its environment for something, one request at a time, and goes on with the answer;
it ends with a value or an error. What the environment answers is not known, and while the program
waits for an answer it can be dropped. A program is specified by the requests that it may make
after what happened so far, and by what holds when it ends.
-/

namespace BtDaemon

inductive Program {Request : Type} (Answer : Request → Type) (Error Value : Type) where
  | done (value : Value)
  | fail (error : Error)
  | query (request : Request) (resume : Answer request → Program Answer Error Value)

namespace Program

variable {Request : Type} {Answer : Request → Type} {Error Value Next : Type}

def bind (program : Program Answer Error Value) (next : Value → Program Answer Error Next) :
    Program Answer Error Next :=
  match program with
  | .done value => next value
  | .fail error => .fail error
  | .query request resume => .query request fun answer ↦ (resume answer).bind next

instance : Monad (Program Answer Error) where
  pure := .done
  bind := bind

def ask (request : Request) : Program Answer Error (Answer request) := .query request .done

/-- `?` on a result. -/
def ofExcept : Except Error Value → Program Answer Error Value
  | .ok value => .done value
  | .error error => .fail error

def ensure (condition : Bool) (error : Error) : Program Answer Error Unit :=
  if condition then .done () else .fail error

/-- `context` on an option. -/
def required (found : Option Value) (error : Error) : Program Answer Error Value :=
  match found with
  | some found => .done found
  | none => .fail error

/-- Run the program if the condition holds. -/
def when (condition : Bool) (program : Program Answer Error Unit) : Program Answer Error Unit :=
  if condition then program else .done ()

/-- Take an error as a result. -/
def attempt : Program Answer Error Value → Program Answer Error (Except Error Value)
  | .done value => .done (.ok value)
  | .fail error => .done (.error error)
  | .query request resume => .query request fun answer ↦ (resume answer).attempt

/-! ## Runs -/

/-- An answered request. -/
structure Event {Request : Type} (Answer : Request → Type) where
  request : Request
  answer : Answer request

inductive Outcome (Request Error Value : Type) where
  | finished (result : Except Error Value)
  /-- The program is dropped before the answer comes. -/
  | dropped (request : Request)
  deriving DecidableEq

inductive Runs :
    Program Answer Error Value → List (Event Answer) → Outcome Request Error Value → Prop
  | done (value : Value) : Runs (.done value) [] (.finished (.ok value))
  | fail (error : Error) : Runs (.fail error) [] (.finished (.error error))
  | dropped (request : Request) (resume : Answer request → Program Answer Error Value) :
      Runs (.query request resume) [] (.dropped request)
  | answered (request : Request) (resume : Answer request → Program Answer Error Value)
      (answer : Answer request) (events : List (Event Answer))
      (outcome : Outcome Request Error Value) (hrest : Runs (resume answer) events outcome) :
      Runs (.query request resume) (⟨request, answer⟩ :: events) outcome

/-- Go through the answers; `none` if they answer other requests. -/
def replay [DecidableEq Request] :
    Program Answer Error Value → List (Event Answer) → Option (Outcome Request Error Value)
  | .done value, [] => some (.finished (.ok value))
  | .fail error, [] => some (.finished (.error error))
  | .query request _, [] => some (.dropped request)
  | .query request resume, ⟨other, answer⟩ :: events =>
    if hsame : other = request then (resume (hsame ▸ answer)).replay events else none
  | .done _, _ :: _ => none
  | .fail _, _ :: _ => none

theorem runs_of_replay [DecidableEq Request] {program : Program Answer Error Value}
    {events : List (Event Answer)} {outcome : Outcome Request Error Value}
    (hreplay : program.replay events = some outcome) : Runs program events outcome := by
  induction program generalizing events with
  | done value =>
    cases events with
    | nil => obtain rfl := Option.some.inj hreplay; exact .done value
    | cons event events => cases hreplay
  | fail error =>
    cases events with
    | nil => obtain rfl := Option.some.inj hreplay; exact .fail error
    | cons event events => cases hreplay
  | query request resume ih =>
    cases events with
    | nil => obtain rfl := Option.some.inj hreplay; exact .dropped request resume
    | cons event events =>
      obtain ⟨other, answer⟩ := event
      unfold replay at hreplay
      split at hreplay
      · next hsame =>
        obtain rfl := hsame
        exact .answered other resume answer events outcome (ih answer hreplay)
      · cases hreplay

/-! ## Specifications -/

/-- Whatever is answered, the program only makes requests that are allowed after what happened,
and ends as it should. -/
def Ensures (allowed : List (Event Answer) → Request → Prop)
    (post : List (Event Answer) → Except Error Value → Prop) :
    Program Answer Error Value → List (Event Answer) → Prop
  | .done value, past => post past (.ok value)
  | .fail error, past => post past (.error error)
  | .query request resume, past =>
    allowed past request ∧
      ∀ answer, Ensures allowed post (resume answer) (past ++ [⟨request, answer⟩])

variable {allowed : List (Event Answer) → Request → Prop}
  {post : List (Event Answer) → Except Error Value → Prop} {past : List (Event Answer)}

/-- What holds after the first part if the second part is to end as it should. -/
def continues (allowed : List (Event Answer) → Request → Prop)
    (post : List (Event Answer) → Except Error Next → Prop)
    (next : Value → Program Answer Error Next) (past : List (Event Answer)) :
    Except Error Value → Prop
  | .ok value => Ensures allowed post (next value) past
  | .error error => post past (.error error)

@[simp]
theorem ensures_bind (program : Program Answer Error Value)
    (next : Value → Program Answer Error Next)
    {post : List (Event Answer) → Except Error Next → Prop} :
    Ensures allowed post (program >>= next) past ↔
      Ensures allowed (continues allowed post next) program past := by
  change Ensures allowed post (program.bind next) past ↔ _
  induction program generalizing past with
  | done value => exact Iff.rfl
  | fail error => exact Iff.rfl
  | query request resume ih => exact and_congr_right' (forall_congr' fun answer ↦ ih answer)

@[simp]
theorem ensures_when (condition : Bool) (program : Program Answer Error Unit)
    {post : List (Event Answer) → Except Error Unit → Prop} :
    Ensures allowed post (when condition program) past ↔
      if condition = true then Ensures allowed post program past else post past (.ok ()) := by
  cases condition <;> exact Iff.rfl

@[simp]
theorem ensures_attempt (program : Program Answer Error Value)
    {post : List (Event Answer) → Except Error (Except Error Value) → Prop} :
    Ensures allowed post program.attempt past ↔
      Ensures allowed (fun past result ↦ post past (.ok result)) program past := by
  induction program generalizing past with
  | done value => exact Iff.rfl
  | fail error => exact Iff.rfl
  | query request resume ih => exact and_congr_right' (forall_congr' fun answer ↦ ih answer)

/-- What a program does on its own it also does after a past of which it knows nothing. -/
theorem Ensures.frame {program : Program Answer Error Value} {own : List (Event Answer)}
    (hensures : Ensures allowed post program own) (earlier : List (Event Answer))
    {wider : List (Event Answer) → Request → Prop}
    {widerPost : List (Event Answer) → Except Error Value → Prop}
    (hallowed : ∀ own request, allowed own request → wider (earlier ++ own) request)
    (hpost : ∀ own result, post own result → widerPost (earlier ++ own) result) :
    Ensures wider widerPost program (earlier ++ own) := by
  induction program generalizing own with
  | done value => exact hpost own _ hensures
  | fail error => exact hpost own _ hensures
  | query request resume ih =>
    refine ⟨hallowed own request hensures.1, fun answer ↦ ?_⟩
    rw [List.append_assoc]
    exact ih answer (hensures.2 answer)

/-- What is to hold of a program that finished or was dropped. -/
def Outcome.Good (allowed : List (Event Answer) → Request → Prop)
    (post : List (Event Answer) → Except Error Value → Prop) (past : List (Event Answer)) :
    Outcome Request Error Value → Prop
  | .finished result => post past result
  | .dropped request => allowed past request

/-- Every request of a run, answered or not, was allowed, and a run that finishes ends as it
should. -/
theorem Ensures.of_runs {program : Program Answer Error Value} {events : List (Event Answer)}
    {outcome : Outcome Request Error Value} (hensures : Ensures allowed post program past)
    (hruns : Runs program events outcome) :
    (∀ before event after, events = before ++ event :: after →
      allowed (past ++ before) event.request) ∧ outcome.Good allowed post (past ++ events) := by
  induction hruns generalizing past with
  | done value => exact ⟨by simp, by rwa [List.append_nil]⟩
  | fail error => exact ⟨by simp, by rwa [List.append_nil]⟩
  | dropped request resume => exact ⟨by simp, by rw [List.append_nil]; exact hensures.1⟩
  | answered request resume answer events outcome _ ih =>
    obtain ⟨hrest, houtcome⟩ := ih (hensures.2 answer)
    rw [List.append_assoc] at houtcome
    refine ⟨?_, houtcome⟩
    intro before event after hevents
    cases before with
    | nil =>
      obtain ⟨rfl, -⟩ := List.cons.inj hevents
      rw [List.append_nil]
      exact hensures.1
    | cons first before =>
      obtain ⟨rfl, hlater⟩ := List.cons.inj hevents
      have hallowed := hrest before event after hlater
      rwa [List.append_assoc] at hallowed

/-! ## Costs -/

/-- The requests of every run cost at most this much. -/
def Spends (cost : Request → ℕ) : Program Answer Error Value → ℕ → Prop
  | .done _, _ => True
  | .fail _, _ => True
  | .query request resume, bound =>
    cost request ≤ bound ∧ ∀ answer, Spends cost (resume answer) (bound - cost request)

variable {cost : Request → ℕ} {bound more : ℕ}

theorem Spends.mono {program : Program Answer Error Value} (hspends : Spends cost program bound)
    (hle : bound ≤ more) : Spends cost program more := by
  induction program generalizing bound more with
  | done value => trivial
  | fail error => trivial
  | query request resume ih =>
    exact ⟨hspends.1.trans hle, fun answer ↦
      ih answer (hspends.2 answer) (Nat.sub_le_sub_right hle _)⟩

theorem Spends.bind {program : Program Answer Error Value}
    {next : Value → Program Answer Error Next}
    (hprogram : Spends cost program bound) (hnext : ∀ value, Spends cost (next value) more) :
    Spends cost (program >>= next) (bound + more) := by
  change Spends cost (program.bind next) (bound + more)
  induction program generalizing bound with
  | done value => exact (hnext value).mono (Nat.le_add_left _ _)
  | fail error => trivial
  | query request resume ih =>
    refine ⟨hprogram.1.trans (Nat.le_add_right _ _), fun answer ↦ ?_⟩
    rw [Nat.sub_add_comm hprogram.1]
    exact ih answer (hprogram.2 answer)

theorem Spends.attempt {program : Program Answer Error Value}
    (hprogram : Spends cost program bound) :
    Spends cost program.attempt bound := by
  induction program generalizing bound with
  | done value => trivial
  | fail error => trivial
  | query request resume ih => exact ⟨hprogram.1, fun answer ↦ ih answer (hprogram.2 answer)⟩

theorem Spends.when {condition : Bool} {program : Program Answer Error Unit}
    (hprogram : Spends cost program bound) : Spends cost (when condition program) bound := by
  cases condition with
  | false => trivial
  | true => exact hprogram

theorem spends_ofExcept (result : Except Error Value) :
    Spends cost (ofExcept result : Program Answer Error Value) bound := by
  cases result <;> trivial

/-- What the answered requests of a run cost. -/
def spent (cost : Request → ℕ) (events : List (Event Answer)) : ℕ :=
  (events.map fun event ↦ cost event.request).sum

/-- What a request costs that a program was dropped at. -/
def Outcome.pending (cost : Request → ℕ) : Outcome Request Error Value → ℕ
  | .finished _ => 0
  | .dropped request => cost request

theorem Spends.of_runs {program : Program Answer Error Value} {events : List (Event Answer)}
    {outcome : Outcome Request Error Value} (hspends : Spends cost program bound)
    (hruns : Runs program events outcome) : spent cost events + outcome.pending cost ≤ bound := by
  induction hruns generalizing bound with
  | done value => exact Nat.zero_le _
  | fail error => exact Nat.zero_le _
  | dropped request resume => exact (Nat.zero_add _).trans_le hspends.1
  | answered request resume answer events outcome _ ih =>
    have hrest := ih (hspends.2 answer)
    have hfirst := hspends.1
    rw [spent, List.map_cons, List.sum_cons]
    change cost request + spent cost events + outcome.pending cost ≤ bound
    omega

end Program

end BtDaemon
