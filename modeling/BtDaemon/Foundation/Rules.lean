import BtDaemon.Foundation.Program

/-!
# Rules for programs that ask

Many programs ask for one thing after the other and end at the first answer that is a failure. Of
such a program one says which answers end it and which answers an error must not come after; its
rules also say what must have happened before a request is made.
-/

namespace BtDaemon.Program

variable {Request : Type} {Answer : Request → Type} {Error Value Next : Type}

/-- The request was answered like this. -/
def Did (past : List (Event Answer)) (request : Request) (answer : Answer request) : Prop :=
  (⟨request, answer⟩ : Event Answer) ∈ past

theorem Did.mono {past later : List (Event Answer)} {request : Request} {answer : Answer request}
    (hdid : Did past request answer) (hmore : past <+: later) : Did later request answer :=
  hmore.subset hdid

/-- What the answers mean for the end of a program. -/
structure Ends (Answer : Request → Type) where
  /-- The answer ends the program. -/
  fails : (request : Request) → Answer request → Bool
  /-- The answer is an effect that a program that fails does not leave behind. -/
  lasts : (request : Request) → Answer request → Bool

namespace Ends

variable (ends : Ends Answer)

/-- Nothing failed. -/
def Clean (past : List (Event Answer)) : Prop :=
  ∀ event ∈ past, ends.fails event.request event.answer = false

/-- Nothing lasting happened. -/
def Free (past : List (Event Answer)) : Prop :=
  ∀ event ∈ past, ends.lasts event.request event.answer = false

/-- The program goes on, and can still fail. -/
structure Working (past : List (Event Answer)) : Prop where
  clean : ends.Clean past
  free : ends.Free past

/-- The past after an answer. -/
structure After (past : List (Event Answer)) (request : Request) (answer : Answer request)
    (later : List (Event Answer)) : Prop where
  more : past <+: later
  did : Did later request answer
  clean : ends.fails request answer = false → ends.Clean later
  free : ends.lasts request answer = false → ends.Free later

/-- An error is fine as long as nothing lasting happened. -/
def Forgiving (post : List (Event Answer) → Except Error Value → Prop) : Prop :=
  ∀ past error, ends.Free past → post past (.error error)

variable {ends} {past : List (Event Answer)}

theorem working_nil : ends.Working [] := ⟨nofun, nofun⟩

theorem Working.after (hworking : ends.Working past) (request : Request)
    (answer : Answer request) : ends.After past request answer (past ++ [⟨request, answer⟩]) where
  more := List.prefix_append _ _
  did := List.mem_append_right _ (List.mem_singleton_self _)
  clean hfails := List.forall_mem_append.mpr ⟨hworking.clean, List.forall_mem_singleton.mpr hfails⟩
  free hlasts := List.forall_mem_append.mpr ⟨hworking.free, List.forall_mem_singleton.mpr hlasts⟩

theorem After.working {request : Request} {answer : Answer request} {later : List (Event Answer)}
    (hafter : ends.After past request answer later) (hfails : ends.fails request answer = false)
    (hlasts : ends.lasts request answer = false) : ends.Working later :=
  ⟨hafter.clean hfails, hafter.free hlasts⟩

theorem Forgiving.continues {post : List (Event Answer) → Except Error Next → Prop}
    {allowed : List (Event Answer) → Request → Prop} {next : Value → Program Answer Error Next}
    (hforgiving : ends.Forgiving post) : ends.Forgiving (continues allowed post next) :=
  hforgiving

end Ends

structure Rules (Answer : Request → Type) extends Ends Answer where
  /-- What must have happened before a request. -/
  needs : List (Event Answer) → Request → Prop

namespace Rules

variable {rules : Rules Answer} {past : List (Event Answer)}

variable (rules) in
/-- Requests are made while nothing failed, and where they may be. -/
structure Allowed (past : List (Event Answer)) (request : Request) : Prop where
  clean : rules.Clean past
  needs : rules.needs past request

/-- One request. -/
theorem ensures_ask {post : List (Event Answer) → Except Error Value → Prop} (request : Request)
    {next : Answer request → Program Answer Error Value} (hworking : rules.Working past)
    (hneeds : rules.needs past request)
    (hanswer : ∀ answer later, rules.After past request answer later →
      Ensures rules.Allowed post (next answer) later) :
    Ensures rules.Allowed post (Program.ask request >>= next) past :=
  ⟨⟨hworking.clean, hneeds⟩, fun answer ↦ hanswer answer _ (hworking.after request answer)⟩

theorem ensures_ensure {condition : Bool} {error : Error}
    {post : List (Event Answer) → Except Error Unit → Prop} (hfree : rules.Free past)
    (hforgiving : rules.Forgiving post) (hdone : condition = true → post past (.ok ())) :
    Ensures rules.Allowed post (ensure condition error) past := by
  cases condition with
  | false => exact hforgiving _ _ hfree
  | true => exact hdone rfl

end Rules

end BtDaemon.Program
