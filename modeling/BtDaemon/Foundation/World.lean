import BtDaemon.Foundation.Program

/-!
# Programs in a known world

What a program is answered may be known, up to a relation. Then it can be known that every run that
finishes asks for something, or that no run ever does, not even one that is dropped.
-/

namespace BtDaemon.Program

variable {Request : Type} {Answer : Request → Type} {Error Value Next : Type}
  {agrees : (request : Request) → Answer request → Prop} {wanted : Request → Prop}
  {rest : Value → Prop}

variable (agrees wanted rest) in
/-- Every way through the program asks for something wanted, or is done with such a value before. -/
def Asks : Program Answer Error Value → Prop
  | .done value => rest value
  | .fail _ => False
  | .query request resume => wanted request ∨ ∀ answer, agrees request answer → Asks (resume answer)

variable (agrees wanted rest) in
/-- No way through the program asks for something wanted, and it is done with such a value only. -/
def Avoids : Program Answer Error Value → Prop
  | .done value => rest value
  | .fail _ => True
  | .query request resume =>
    ¬ wanted request ∧ ∀ answer, agrees request answer → Avoids (resume answer)

theorem asks_bind {program : Program Answer Error Value} {next : Value → Program Answer Error Next}
    {rest : Next → Prop} :
    Asks agrees wanted rest (program >>= next) ↔
      Asks agrees wanted (fun value ↦ Asks agrees wanted rest (next value)) program := by
  change Asks agrees wanted rest (program.bind next) ↔ _
  induction program with
  | done value => exact Iff.rfl
  | fail error => exact Iff.rfl
  | query request resume ih =>
    exact or_congr_right (forall_congr' fun answer ↦ imp_congr_right fun _ ↦ ih answer)

theorem avoids_bind {program : Program Answer Error Value}
    {next : Value → Program Answer Error Next} {rest : Next → Prop} :
    Avoids agrees wanted rest (program >>= next) ↔
      Avoids agrees wanted (fun value ↦ Avoids agrees wanted rest (next value)) program := by
  change Avoids agrees wanted rest (program.bind next) ↔ _
  induction program with
  | done value => exact Iff.rfl
  | fail error => exact Iff.rfl
  | query request resume ih =>
    exact and_congr_right' (forall_congr' fun answer ↦ imp_congr_right fun _ ↦ ih answer)

/-- One answer that is known. -/
theorem asks_request {request : Request} {next : Answer request → Program Answer Error Value}
    (hnext : ∀ answer, agrees request answer → Asks agrees wanted rest (next answer)) :
    Asks agrees wanted rest (Program.ask request >>= next) := .inr hnext

theorem avoids_request {request : Request} {next : Answer request → Program Answer Error Value}
    (hwanted : ¬ wanted request)
    (hnext : ∀ answer, agrees request answer → Avoids agrees wanted rest (next answer)) :
    Avoids agrees wanted rest (Program.ask request >>= next) := ⟨hwanted, hnext⟩

/-! ## Runs -/

variable (agrees wanted) in
/-- Every run that finishes asked for something wanted. -/
def MustAsk (program : Program Answer Error Value) : Prop :=
  ∀ events result, Runs program events (.finished result) →
    (∀ event ∈ events, agrees event.request event.answer) → ∃ event ∈ events, wanted event.request

variable (agrees wanted) in
/-- No run asks for something wanted, whether it finishes or is dropped. -/
def NeverAsks (program : Program Answer Error Value) : Prop :=
  ∀ events outcome, Runs program events outcome →
    (∀ event ∈ events, agrees event.request event.answer) →
      (∀ event ∈ events, ¬ wanted event.request) ∧
        ∀ request, outcome = .dropped request → ¬ wanted request

theorem Asks.mustAsk {program : Program Answer Error Value}
    (hasks : Asks agrees wanted (fun _ ↦ False) program) : MustAsk agrees wanted program := by
  intro events result hruns
  generalize houtcome : Outcome.finished result = outcome at hruns
  induction hruns with
  | done value => exact absurd hasks id
  | fail error => exact absurd hasks id
  | dropped request resume => cases houtcome
  | answered request resume answer events outcome _ ih =>
    intro hagrees
    obtain ⟨hanswer, hrest⟩ := List.forall_mem_cons.mp hagrees
    rcases hasks with hwanted | hresume
    · exact ⟨_, List.mem_cons_self, hwanted⟩
    · obtain ⟨event, hevent, hwanted⟩ := ih (hresume answer hanswer) houtcome hrest
      exact ⟨event, List.mem_cons_of_mem _ hevent, hwanted⟩

theorem Avoids.neverAsks {program : Program Answer Error Value}
    (havoids : Avoids agrees wanted (fun _ ↦ True) program) : NeverAsks agrees wanted program := by
  intro events outcome hruns
  induction hruns with
  | done value => exact fun _ ↦ ⟨nofun, nofun⟩
  | fail error => exact fun _ ↦ ⟨nofun, nofun⟩
  | dropped request resume =>
    refine fun _ ↦ ⟨nofun, ?_⟩
    rintro other hother
    obtain rfl := Outcome.dropped.inj hother
    exact havoids.1
  | answered request resume answer events outcome _ ih =>
    intro hagrees
    obtain ⟨hanswer, hrest⟩ := List.forall_mem_cons.mp hagrees
    obtain ⟨hevents, hdropped⟩ := ih (havoids.2 answer hanswer) hrest
    exact ⟨List.forall_mem_cons.mpr ⟨havoids.1, hevents⟩, hdropped⟩

end BtDaemon.Program
