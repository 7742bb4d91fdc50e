import BtDaemon.Foundation.Loop

/-!
# Readers and grammars

A reader takes a value off the front of its input or fails. A grammar relates strings to the
values that they stand for. A reader reads a grammar if it accepts an input exactly when a prefix
of it is in the grammar, and then leaves the rest. A reader of nonempty strings can be repeated
until the input is empty; what it accepts then are the concatenations.
-/

namespace BtDaemon

abbrev Reader (Token Value : Type) := List Token → Except String (Value × List Token)

namespace Reader

variable {Token Value After : Type}

def Reads (reader : Reader Token Value) (Grammar : List Token → Value → Prop) : Prop :=
  ∀ input value rest, reader input = .ok (value, rest) ↔
    ∃ taken, input = taken ++ rest ∧ Grammar taken value

theorem Reads.congr {reader : Reader Token Value} {Grammar Other : List Token → Value → Prop}
    (hreads : Reads reader Grammar)
    (hsame : ∀ taken value, Grammar taken value ↔ Other taken value) :
    Reads reader Other := by
  intro input value rest
  rw [hreads input value rest]
  constructor
  · rintro ⟨taken, hinput, htaken⟩
    exact ⟨taken, hinput, (hsame taken value).mp htaken⟩
  · rintro ⟨taken, hinput, htaken⟩
    exact ⟨taken, hinput, (hsame taken value).mpr htaken⟩

/-- Check and change what was read. -/
def checked (reader : Reader Token Value) (check : Value → Except String After) :
    Reader Token After := fun input ↦ do
  let (value, rest) ← reader input
  let after ← check value
  .ok (after, rest)

theorem Reads.checked {reader : Reader Token Value} {Grammar : List Token → Value → Prop}
    (hreads : Reads reader Grammar) (check : Value → Except String After) :
    Reads (reader.checked check)
      (fun taken after ↦ ∃ value, Grammar taken value ∧ check value = .ok after) := by
  intro input after rest
  constructor
  · intro hread
    obtain ⟨⟨value, left⟩, hvalue, hcheck⟩ := Loop.bind_eq_ok.mp hread
    obtain ⟨changed, hchanged, hok⟩ := Loop.bind_eq_ok.mp hcheck
    obtain ⟨rfl, rfl⟩ := Prod.mk.inj (Except.ok.inj hok)
    obtain ⟨taken, hinput, htaken⟩ := (hreads _ _ _).mp hvalue
    exact ⟨taken, hinput, value, htaken, hchanged⟩
  · rintro ⟨taken, rfl, value, htaken, hcheck⟩
    have hread : reader (taken ++ rest) = .ok (value, rest) :=
      (hreads _ _ _).mpr ⟨taken, rfl, htaken⟩
    apply Loop.bind_eq_ok.mpr
    refine ⟨(value, rest), hread, Loop.bind_eq_ok.mpr ?_⟩
    exact ⟨after, hcheck, rfl⟩

/-- A value, and behind it another one that may depend on it. -/
def followed (first : Reader Token Value) (second : Value → Reader Token After) :
    Reader Token After := fun input ↦ do
  let (value, rest) ← first input
  second value rest

theorem Reads.followed {first : Reader Token Value} {second : Value → Reader Token After}
    {Before : List Token → Value → Prop} {Later : Value → List Token → After → Prop}
    (hfirst : Reads first Before) (hsecond : ∀ value, Reads (second value) (Later value)) :
    Reads (first.followed second)
      (fun taken after ↦ ∃ value front back, taken = front ++ back ∧ Before front value ∧
        Later value back after) := by
  intro input after rest
  constructor
  · intro hread
    obtain ⟨⟨value, middle⟩, hvalue, hafter⟩ := Loop.bind_eq_ok.mp hread
    obtain ⟨front, rfl, hfront⟩ := (hfirst _ _ _).mp hvalue
    obtain ⟨back, rfl, hback⟩ := (hsecond value _ _ _).mp hafter
    refine ⟨front ++ back, (List.append_assoc front back rest).symm, ?_⟩
    exact ⟨value, front, back, rfl, hfront, hback⟩
  · rintro ⟨_, rfl, value, front, back, rfl, hfront, hback⟩
    apply Loop.bind_eq_ok.mpr
    refine ⟨(value, back ++ rest), ?_, ?_⟩
    · exact (hfirst _ _ _).mpr ⟨front, List.append_assoc front back rest, hfront⟩
    · exact (hsecond value _ _ _).mpr ⟨back, rfl, hback⟩

/-- A reader fails with nothing but allowed errors. -/
def Fails (reader : Reader Token Value) (Allowed : String → Prop) : Prop :=
  ∀ input error, reader input = .error error → Allowed error

theorem Fails.checked {reader : Reader Token Value} {Allowed : String → Prop}
    (hfails : Fails reader Allowed) {check : Value → Except String After}
    (hcheck : ∀ value error, check value = .error error → Allowed error) :
    Fails (reader.checked check) Allowed := by
  intro input error hread
  rcases Loop.bind_eq_error.mp hread with hfirst | ⟨read, -, hlater⟩
  · exact hfails input error hfirst
  · rcases Loop.bind_eq_error.mp hlater with hfailed | ⟨after, -, hok⟩
    · exact hcheck read.1 error hfailed
    · cases hok

theorem Fails.followed {first : Reader Token Value} {second : Value → Reader Token After}
    {Allowed : String → Prop} (hfirst : Fails first Allowed)
    (hsecond : ∀ value, Fails (second value) Allowed) :
    Fails (first.followed second) Allowed := by
  intro input error hread
  rcases Loop.bind_eq_error.mp hread with hfailed | ⟨read, -, hlater⟩
  · exact hfirst input error hfailed
  · exact hsecond read.1 read.2 error hlater

/-- A reader of a grammar of nonempty strings. -/
structure Parser (Token Value : Type) where
  read : Reader Token Value
  Grammar : List Token → Value → Prop
  reads : Reads read Grammar
  nonempty : ∀ value, ¬Grammar [] value

namespace Parser

variable (parser : Parser Token Value)

theorem shrinks {input rest : List Token} {value : Value}
    (hread : parser.read input = .ok (value, rest)) : rest.length < input.length := by
  obtain ⟨taken, rfl, htaken⟩ := (parser.reads _ _ _).mp hread
  have hne : taken ≠ [] := by
    rintro rfl
    exact parser.nonempty value htaken
  have hlength := List.length_pos_of_ne_nil hne
  rw [List.length_append]
  omega

/-- Read values until nothing is left. -/
def readAll (input : List Token) : Except String (List Value) :=
  if input = [] then .ok []
  else
    match _hread : parser.read input with
    | .error error => .error error
    | .ok (value, rest) => (readAll rest).map (value :: ·)
termination_by input.length
decreasing_by exact parser.shrinks _hread

theorem readAll_nil : parser.readAll [] = .ok [] := by
  rw [readAll, if_pos rfl]

theorem readAll_eq {input : List Token} (hne : input ≠ []) :
    parser.readAll input =
      parser.read input >>= fun read ↦ (parser.readAll read.2).map (read.1 :: ·) := by
  rw [readAll, if_neg hne]
  split
  · next error hread =>
    rw [hread]
    rfl
  · next value rest hread =>
    rw [hread]
    rfl

theorem readAll_error {Allowed : String → Prop} (hfails : Fails parser.read Allowed)
    {input : List Token} {error : String} (hread : parser.readAll input = .error error) :
    Allowed error := by
  induction hlength : input.length using Nat.strongRecOn generalizing input with
  | ind length ih =>
    by_cases hinput : input = []
    · rw [hinput, readAll_nil] at hread
      cases hread
    · rw [parser.readAll_eq hinput] at hread
      rcases Loop.bind_eq_error.mp hread with hfirst | ⟨read, hvalue, hlater⟩
      · exact hfails input error hfirst
      · have hshorter : read.2.length < length := hlength ▸ parser.shrinks hvalue
        exact ih read.2.length hshorter (Loop.map_eq_error.mp hlater) rfl

/-- The strings in a sequence, each with the value it stands for. -/
def Sequence (parts : List (List Token × Value)) : Prop :=
  ∀ part ∈ parts, parser.Grammar part.1 part.2

/-- Exactly the concatenations are accepted, with the values in order. -/
theorem readAll_eq_ok {input : List Token} {values : List Value} :
    parser.readAll input = .ok values ↔
      ∃ parts, parser.Sequence parts ∧ input = parts.flatMap Prod.fst ∧
        values = parts.map Prod.snd := by
  constructor
  · intro hread
    induction hlength : input.length using Nat.strongRecOn generalizing input values with
    | ind length ih =>
      by_cases hinput : input = []
      · rw [hinput, readAll_nil] at hread
        refine ⟨[], fun part hpart ↦ absurd hpart List.not_mem_nil, hinput, ?_⟩
        exact (Except.ok.inj hread).symm
      · rw [parser.readAll_eq hinput] at hread
        obtain ⟨⟨value, rest⟩, hvalue, hrest⟩ := Loop.bind_eq_ok.mp hread
        obtain ⟨later, hlater, rfl⟩ := Loop.map_eq_ok.mp hrest
        have hshorter : rest.length < length := hlength ▸ parser.shrinks hvalue
        obtain ⟨parts, hparts, rfl, rfl⟩ := ih rest.length hshorter hlater rfl
        obtain ⟨taken, rfl, htaken⟩ := (parser.reads _ _ _).mp hvalue
        refine ⟨(taken, value) :: parts, ?_, rfl, rfl⟩
        intro part hpart
        rcases List.mem_cons.mp hpart with rfl | hlater
        · exact htaken
        · exact hparts part hlater
  · rintro ⟨parts, hparts, rfl, rfl⟩
    induction parts with
    | nil => exact parser.readAll_nil
    | cons part rest ih =>
      obtain ⟨taken, value⟩ := part
      have htaken : parser.Grammar taken value := hparts _ List.mem_cons_self
      have hlater := ih fun later hmem ↦ hparts later (List.mem_cons_of_mem _ hmem)
      have hne : taken ++ rest.flatMap Prod.fst ≠ [] := by
        intro hnil
        rw [(List.append_eq_nil_iff.mp hnil).1] at htaken
        exact parser.nonempty value htaken
      have hfirst : parser.read (taken ++ rest.flatMap Prod.fst) =
          .ok (value, rest.flatMap Prod.fst) := (parser.reads _ _ _).mpr ⟨taken, rfl, htaken⟩
      rw [List.flatMap_cons, parser.readAll_eq hne, hfirst]
      change (parser.readAll (rest.flatMap Prod.fst)).map (value :: ·) = _
      rw [hlater]
      rfl

theorem readAll_append {front back : List Token} {first second : List Value}
    (hfront : parser.readAll front = .ok first) (hback : parser.readAll back = .ok second) :
    parser.readAll (front ++ back) = .ok (first ++ second) := by
  obtain ⟨before, hbefore, rfl, rfl⟩ := parser.readAll_eq_ok.mp hfront
  obtain ⟨after, hafter, rfl, rfl⟩ := parser.readAll_eq_ok.mp hback
  apply parser.readAll_eq_ok.mpr
  refine ⟨before ++ after, ?_, List.flatMap_append.symm, List.map_append.symm⟩
  intro part hpart
  rcases List.mem_append.mp hpart with hmem | hmem
  · exact hbefore part hmem
  · exact hafter part hmem

end Parser

end Reader

end BtDaemon
