import BtDaemon.Backend
import BtDaemon.Foundation.Loop

/-!
# Adapter patches

A patch names an adapter and the settings to change. It is read whole before anything is done
about it: what `parse` accepts is exactly a valid patch, and its settings come in the order of
`FIELDS` whatever their order in the request.
-/

namespace BtDaemon.Api

/-- A JSON value. Numbers that are no `u64`, and arrays, are among the others. -/
inductive Value
  | null
  | bool (flag : Bool)
  | string (text : String)
  | unsigned (number : ℕ)
  | other
  | object (fields : List (String × Value))

namespace Value

def asObject : Value → Option (List (String × Value))
  | .object fields => some fields
  | _ => none

def get (value : Value) (name : String) : Option Value :=
  value.asObject.bind fun fields ↦ fields.lookup name

def requireString (value : Value) (name : String) : Except String String :=
  match value.get name with
  | some (.string text) =>
    if text = "" then .error (invalidParameter name "string" false) else .ok text
  | _ => .error (invalidParameter name "string" false)

def requireU32 (value : Value) (name : String) : Except String ℕ :=
  match value.get name with
  | some (.unsigned number) =>
    if number < UInt32.size then .ok number
    else .error (invalidParameter name "unsigned integer" false)
  | _ => .error (invalidParameter name "unsigned integer" false)

end Value

inductive AdapterOperation
  | setAlias
  | setDiscoverable
  | setPairable
  | setDiscoverableTimeout
  | setPairableTimeout
  deriving DecidableEq, Repr

def fieldOperations : List (String × AdapterOperation) :=
  [("alias", .setAlias), ("discoverable_timeout", .setDiscoverableTimeout),
    ("pairable_timeout", .setPairableTimeout)]

structure Setting where
  field : String
  operation : AdapterOperation
  value : Value
  params : Value

/-- `Option::context` -/
def context {Found : Type} (found : Option Found) (message : String) : Except String Found :=
  found.elim (.error message) .ok

/-- `ensure!` -/
def ensure (condition : Prop) [Decidable condition] (message : String) : Except String Unit :=
  if condition then .ok () else .error message

/-- One turn of the loop over the fields. -/
def setting (changes : Value) (entry : String × AdapterOperation) : Except String Setting :=
  if entry.2 = .setAlias then
    (changes.requireString entry.1).map fun value ↦
      ⟨entry.1, entry.2, .string value, .object [("alias", .string value)]⟩
  else
    (changes.requireU32 entry.1).map fun value ↦
      ⟨entry.1, entry.2, .unsigned value, .object [("timeout", .unsigned value)]⟩

def parse (params : Value) : Except String (String × List Setting) := do
  let key ← params.requireString "key"
  let object ← context params.asObject "expected adapter update object"
  ensure (∀ entry ∈ object, entry.1 = "key" ∨ entry.1 = "changes")
    "unknown adapter update parameter"
  let changes ← context (params.get "changes") "missing adapter changes"
  let fields ← context changes.asObject "expected adapter changes object"
  ensure (fields.isEmpty = false) "adapter changes must not be empty"
  ensure (∀ entry ∈ fields, entry.1 ∈ fieldOperations.map Prod.fst) "unknown adapter setting"
  let settings ← (fieldOperations.filter fun entry ↦ entry.1 ∈ fields.map Prod.fst).mapM
    (setting changes)
  return (key, settings)

/-! ## Valid patches -/

/-- The value that a setting takes. -/
def Admits (operation : AdapterOperation) (value : Value) : Prop :=
  if operation = .setAlias then ∃ text, value = .string text ∧ text ≠ ""
  else ∃ number, value = .unsigned number ∧ number < UInt32.size

/-- Every part of the patch is valid. -/
structure ValidPatch (params : Value) (key : String) (fields : List (String × Value)) : Prop where
  key_eq : params.get "key" = some (.string key)
  key_ne : key ≠ ""
  known : ∀ object, params.asObject = some object →
    ∀ entry ∈ object, entry.1 = "key" ∨ entry.1 = "changes"
  changes_eq : params.get "changes" = some (.object fields)
  changes_ne : fields ≠ []
  fields_known : ∀ entry ∈ fields, entry.1 ∈ fieldOperations.map Prod.fst
  admitted : ∀ entry ∈ fieldOperations, entry.1 ∈ fields.map Prod.fst →
    ∃ value, fields.lookup entry.1 = some value ∧ Admits entry.2 value

theorem requireString_eq_ok {value : Value} {name text : String} :
    value.requireString name = .ok text ↔ value.get name = some (.string text) ∧ text ≠ "" := by
  rw [Value.requireString]
  split
  · next found hfound =>
    rw [hfound]
    split_ifs with hempty
    · refine iff_of_false (fun herror ↦ nomatch herror) ?_
      rintro ⟨hsame, hne⟩
      exact hne (Value.string.inj (Option.some.inj hsame) ▸ hempty)
    · constructor
      · intro hok
        obtain rfl := Except.ok.inj hok
        exact ⟨rfl, hempty⟩
      · rintro ⟨hsame, -⟩
        rw [Value.string.inj (Option.some.inj hsame)]
  · next hother =>
    refine iff_of_false (fun herror ↦ nomatch herror) ?_
    rintro ⟨hstring, -⟩
    exact hother text hstring

theorem requireU32_eq_ok {value : Value} {name : String} {number : ℕ} :
    value.requireU32 name = .ok number ↔
      value.get name = some (.unsigned number) ∧ number < UInt32.size := by
  rw [Value.requireU32]
  split
  · next found hfound =>
    rw [hfound]
    split_ifs with hbound
    · constructor
      · intro hok
        obtain rfl := Except.ok.inj hok
        exact ⟨rfl, hbound⟩
      · rintro ⟨hsame, -⟩
        rw [Value.unsigned.inj (Option.some.inj hsame)]
    · refine iff_of_false (fun herror ↦ nomatch herror) ?_
      rintro ⟨hsame, hsmall⟩
      exact hbound (Value.unsigned.inj (Option.some.inj hsame) ▸ hsmall)
  · next hother =>
    refine iff_of_false (fun herror ↦ nomatch herror) ?_
    rintro ⟨hunsigned, -⟩
    exact hother number hunsigned

theorem context_eq_ok {Found : Type} {found : Option Found} {message : String} {value : Found} :
    context found message = .ok value ↔ found = some value := by
  cases found with
  | none => exact iff_of_false (fun herror ↦ nomatch herror) (fun hnone ↦ nomatch hnone)
  | some other =>
    exact ⟨fun hok ↦ congrArg some (Except.ok.inj hok),
      fun hsome ↦ congrArg _ (Option.some.inj hsome)⟩

theorem ensure_eq_ok {condition : Prop} [Decidable condition] {message : String} {result : Unit} :
    ensure condition message = .ok result ↔ condition := by
  rw [ensure]
  split_ifs with hcondition
  · exact iff_of_true rfl hcondition
  · exact iff_of_false (fun herror ↦ nomatch herror) hcondition

theorem setting_eq_ok {changes : Value} {entry : String × AdapterOperation} {accepted : Setting}
    (hsetting : setting changes entry = .ok accepted) :
    accepted.field = entry.1 ∧ accepted.operation = entry.2 ∧
      changes.get entry.1 = some accepted.value ∧ Admits entry.2 accepted.value := by
  rw [setting] at hsetting
  rw [Admits]
  split_ifs at hsetting ⊢ with halias
  · obtain ⟨text, htext, rfl⟩ := Loop.map_eq_ok.mp hsetting
    obtain ⟨hget, hne⟩ := requireString_eq_ok.mp htext
    exact ⟨rfl, rfl, hget, text, rfl, hne⟩
  · obtain ⟨number, hnumber, rfl⟩ := Loop.map_eq_ok.mp hsetting
    obtain ⟨hget, hbound⟩ := requireU32_eq_ok.mp hnumber
    exact ⟨rfl, rfl, hget, number, rfl, hbound⟩

theorem setting_isOk {changes value : Value} {entry : String × AdapterOperation}
    (hget : changes.get entry.1 = some value) (hadmits : Admits entry.2 value) :
    ∃ accepted, setting changes entry = .ok accepted := by
  rw [setting]
  rw [Admits] at hadmits
  split_ifs at hadmits ⊢ with halias
  · obtain ⟨text, rfl, hne⟩ := hadmits
    exact ⟨_, Loop.map_eq_ok.mpr ⟨text, requireString_eq_ok.mpr ⟨hget, hne⟩, rfl⟩⟩
  · obtain ⟨number, rfl, hbound⟩ := hadmits
    exact ⟨_, Loop.map_eq_ok.mpr ⟨number, requireU32_eq_ok.mpr ⟨hget, hbound⟩, rfl⟩⟩

/-- The fields of a patch, in the order of `fieldOperations`. -/
def chosen (fields : List (String × Value)) : List (String × AdapterOperation) :=
  fieldOperations.filter fun entry ↦ entry.1 ∈ fields.map Prod.fst

theorem asObject_eq_some {value : Value} {fields : List (String × Value)} :
    value.asObject = some fields ↔ value = .object fields := by
  cases value <;> simp [Value.asObject]

theorem parse_eq_ok {params : Value} {key : String} {settings : List Setting} :
    parse params = .ok (key, settings) ↔
      ∃ object fields, params.requireString "key" = .ok key ∧ params.asObject = some object ∧
        (∀ entry ∈ object, entry.1 = "key" ∨ entry.1 = "changes") ∧
        params.get "changes" = some (.object fields) ∧ fields ≠ [] ∧
        (∀ entry ∈ fields, entry.1 ∈ fieldOperations.map Prod.fst) ∧
        (chosen fields).mapM (setting (.object fields)) = .ok settings := by
  rw [parse]
  constructor
  · intro hparse
    obtain ⟨found, hkey, hparse⟩ := Loop.bind_eq_ok.mp hparse
    obtain ⟨object, hobject, hparse⟩ := Loop.bind_eq_ok.mp hparse
    obtain ⟨_, hknown, hparse⟩ := Loop.bind_eq_ok.mp hparse
    obtain ⟨changes, hchanges, hparse⟩ := Loop.bind_eq_ok.mp hparse
    obtain ⟨fields, hfields, hparse⟩ := Loop.bind_eq_ok.mp hparse
    obtain ⟨_, hne, hparse⟩ := Loop.bind_eq_ok.mp hparse
    obtain ⟨_, hnames, hparse⟩ := Loop.bind_eq_ok.mp hparse
    obtain ⟨collected, hloop, hparse⟩ := Loop.bind_eq_ok.mp hparse
    obtain ⟨rfl, rfl⟩ := Prod.mk.inj (Except.ok.inj hparse)
    obtain rfl := asObject_eq_some.mp (context_eq_ok.mp hfields)
    exact ⟨object, fields, hkey, context_eq_ok.mp hobject, ensure_eq_ok.mp hknown,
      context_eq_ok.mp hchanges, List.isEmpty_eq_false_iff.mp (ensure_eq_ok.mp hne),
      ensure_eq_ok.mp hnames, hloop⟩
  · rintro ⟨object, fields, hkey, hobject, hknown, hchanges, hne, hnames, hloop⟩
    refine Loop.bind_eq_ok.mpr ⟨key, hkey, ?_⟩
    refine Loop.bind_eq_ok.mpr ⟨object, context_eq_ok.mpr hobject, ?_⟩
    refine Loop.bind_eq_ok.mpr ⟨(), ensure_eq_ok.mpr hknown, ?_⟩
    refine Loop.bind_eq_ok.mpr ⟨.object fields, context_eq_ok.mpr hchanges, ?_⟩
    refine Loop.bind_eq_ok.mpr ⟨fields, rfl, ?_⟩
    refine Loop.bind_eq_ok.mpr ⟨(), ensure_eq_ok.mpr (List.isEmpty_eq_false_iff.mpr hne), ?_⟩
    refine Loop.bind_eq_ok.mpr ⟨(), ensure_eq_ok.mpr hnames, ?_⟩
    exact Loop.bind_eq_ok.mpr ⟨settings, hloop, rfl⟩

/-- What is accepted is a valid patch, in the order of the fields. -/
theorem validPatch_of_parse {params : Value} {key : String} {settings : List Setting}
    (hparse : parse params = .ok (key, settings)) :
    ∃ fields, ValidPatch params key fields ∧
      settings.map (fun accepted ↦ (accepted.field, accepted.operation)) = chosen fields := by
  obtain ⟨object, fields, hkey, hobject, hknown, hchanges, hne, hfields, hloop⟩ :=
    parse_eq_ok.mp hparse
  obtain ⟨hget, hkeyNe⟩ := requireString_eq_ok.mp hkey
  refine ⟨fields, ⟨hget, hkeyNe, ?_, hchanges, hne, hfields, ?_⟩, ?_⟩
  · intro other hother
    obtain rfl := Option.some.inj (hobject.symm.trans hother)
    exact hknown
  · intro entry hentry hname
    have hchosen : entry ∈ chosen fields := List.mem_filter.mpr ⟨hentry, decide_eq_true hname⟩
    obtain ⟨accepted, hsetting⟩ := Loop.accepted_of_mapM hloop hchosen
    obtain ⟨-, -, hvalue, hadmits⟩ := setting_eq_ok hsetting
    exact ⟨accepted.value, hvalue, hadmits⟩
  · have hsame : List.Forall₂ (fun entry accepted ↦ entry = (accepted.field, accepted.operation))
        (chosen fields) settings := by
      apply (Loop.mapM_eq_ok.mp hloop).imp
      intro entry accepted hsetting
      obtain ⟨hfield, hoperation, -⟩ := setting_eq_ok hsetting
      rw [hfield, hoperation]
    rw [← List.forall₂_map_right_iff, List.forall₂_eq_eq_eq] at hsame
    exact hsame.symm

theorem parse_of_validPatch {params : Value} {key : String} {fields : List (String × Value)}
    (hvalid : ValidPatch params key fields) :
    ∃ settings, parse params = .ok (key, settings) := by
  obtain ⟨object, hobject, hlookup⟩ := Option.bind_eq_some_iff.mp hvalid.key_eq
  have haccepted : ∀ entry ∈ chosen fields, ∃ accepted,
      setting (.object fields) entry = .ok accepted := by
    intro entry hentry
    obtain ⟨hmember, hname⟩ := List.mem_filter.mp hentry
    obtain ⟨value, hvalue, hadmits⟩ := hvalid.admitted entry hmember (of_decide_eq_true hname)
    exact setting_isOk hvalue hadmits
  obtain ⟨settings, hloop⟩ := Loop.mapM_isOk haccepted
  refine ⟨settings, parse_eq_ok.mpr ⟨object, fields, ?_, hobject, hvalid.known object hobject,
    hvalid.changes_eq, hvalid.changes_ne, hvalid.fields_known, hloop⟩⟩
  exact requireString_eq_ok.mpr ⟨hvalid.key_eq, hvalid.key_ne⟩

end BtDaemon.Api
