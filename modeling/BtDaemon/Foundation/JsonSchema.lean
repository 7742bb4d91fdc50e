import Mathlib.Algebra.Order.Field.Rat
import Mathlib.Data.Rat.Lemmas
import Mathlib.Tactic.Common

/-!
# JSON documents and the schemas that describe them

A JSON value as a decoder holds it, with its three kinds of numbers, and what it means that a
value satisfies a schema, read from the schema document as draft 2020-12 has it. The assertions
are `type`, `minimum`, `maximum`, `minLength`, `minProperties` and `required`, the applicators
`properties` and `additionalProperties`; every other keyword is taken as an annotation.
-/

namespace BtDaemon.JsonSchema

/-- A finite binary64 number. -/
structure Float64 where
  negative : Bool
  mantissa : ℕ
  exponent : ℤ
  mantissa_lt : mantissa < 2 ^ 53
  le_exponent : -1074 ≤ exponent
  exponent_le : exponent ≤ 971

def Float64.value (number : Float64) : ℚ :=
  (if number.negative then -1 else 1) * number.mantissa * 2 ^ number.exponent

/-- A number is kept as an integer where it is written as one and fits. -/
inductive Number
  | posInt (number : UInt64)
  | negInt (number : Int64) (negative : number < 0)
  | float (number : Float64)

namespace Number

/-- The mathematical value, which is all that a schema speaks about. -/
def value : Number → ℚ
  | posInt number => number.toNat
  | negInt number _ => number.toInt
  | float number => number.value

def isU64 : Number → Bool
  | posInt _ => true
  | _ => false

@[simp] theorem value_posInt (number : UInt64) : (posInt number).value = number.toNat := rfl

theorem value_negInt_neg (number : Int64) (negative : number < 0) :
    (negInt number negative).value < 0 := by
  have hneg : number.toInt < 0 := Int64.lt_iff_toInt_lt.mp negative
  rw [value]
  exact_mod_cast hneg

end Number

inductive Json
  | null
  | bool (flag : Bool)
  | number (number : Number)
  | string (text : String)
  | array (elements : List Json)
  | object (fields : List (String × Json))

namespace Json

def fields : Json → List (String × Json)
  | object fields => fields
  | _ => []

/-- An object is read by name; where a name is there twice, the first entry counts. -/
def get (value : Json) (name : String) : Option Json := value.fields.lookup name

/-- The types that a value has: a number without a fractional part is an integer too. -/
def types : Json → List String
  | null => ["null"]
  | bool _ => ["boolean"]
  | number found => if found.value.den = 1 then ["number", "integer"] else ["number"]
  | string _ => ["string"]
  | array _ => ["array"]
  | object _ => ["object"]

/-- The names of the fields are the names that can be looked up. -/
theorem mem_names_iff {Held : Type} {fields : List (String × Held)} {name : String} :
    name ∈ fields.map Prod.fst ↔ ∃ value, fields.lookup name = some value := by
  calc name ∈ fields.map Prod.fst
    _ ↔ ∃ entry ∈ fields, entry.1 = name := List.mem_map
    _ ↔ (fields.lookup name).isSome = true := by
      rw [List.lookup_isSome_iff]
      simp only [beq_iff_eq, @eq_comm _ name]
    _ ↔ ∃ value, fields.lookup name = some value := Option.isSome_iff_exists

theorem mem_types_object {value : Json} :
    "object" ∈ value.types ↔ ∃ fields, value = object fields := by
  cases value with
  | number found => by_cases hden : found.value.den = 1 <;> simp [types, hden]
  | _ => simp [types]

theorem mem_types_string {value : Json} :
    "string" ∈ value.types ↔ ∃ text, value = string text := by
  cases value with
  | number found => by_cases hden : found.value.den = 1 <;> simp [types, hden]
  | _ => simp [types]

theorem mem_types_integer {value : Json} :
    "integer" ∈ value.types ↔ ∃ found, value = number found ∧ found.value.den = 1 := by
  cases value with
  | number found => by_cases hden : found.value.den = 1 <;> simp [types, hden]
  | _ => simp [types]

end Json

/-! ## Assertions -/

def HasType (value : Json) : Json → Prop
  | .string name => name ∈ value.types
  | .array names => ∃ name ∈ value.types, Json.string name ∈ names
  | _ => True

def AtLeast : Json → Json → Prop
  | .number number, .number bound => bound.value ≤ number.value
  | _, _ => True

def AtMost : Json → Json → Prop
  | .number number, .number bound => number.value ≤ bound.value
  | _, _ => True

/-- A string's length counts its characters. -/
def IsLong : Json → Json → Prop
  | .string text, .number bound => bound.value ≤ text.length
  | _, _ => True

theorem isLong_one {text : String} :
    IsLong (.string text) (.number (.posInt 1)) ↔ text ≠ "" := by
  calc IsLong (.string text) (.number (.posInt 1))
    _ ↔ UInt64.toNat 1 ≤ text.length := Nat.cast_le (α := ℚ)
    _ ↔ text.length ≠ 0 := Nat.one_le_iff_ne_zero
    _ ↔ text ≠ "" := not_congr String.length_eq_zero_iff

def HasMany : Json → Json → Prop
  | .object fields, .number bound => bound.value ≤ fields.length
  | _, _ => True

theorem hasMany_one {fields : List (String × Json)} :
    HasMany (.object fields) (.number (.posInt 1)) ↔ fields ≠ [] := by
  calc HasMany (.object fields) (.number (.posInt 1))
    _ ↔ UInt64.toNat 1 ≤ fields.length := Nat.cast_le (α := ℚ)
    _ ↔ fields ≠ [] := List.length_pos_iff

def HasAll : Json → Json → Prop
  | .object fields, .array names =>
    ∀ name, Json.string name ∈ names → name ∈ fields.map Prod.fst
  | _, _ => True

/-- What a keyword without subschemas asks of a value. -/
def Asserts (name : String) (keyword value : Json) : Prop :=
  (name = "type" → HasType value keyword) ∧
    (name = "minimum" → AtLeast value keyword) ∧
    (name = "maximum" → AtMost value keyword) ∧
    (name = "minLength" → IsLong value keyword) ∧
    (name = "minProperties" → HasMany value keyword) ∧
    (name = "required" → HasAll value keyword)

/-! ## Schemas -/

/-- The names that `properties` speaks about, among the keywords of one schema. -/
def propertyNames (keywords : List (String × Json)) : List String :=
  ((Json.object keywords).get "properties").elim [] fun schemas ↦ schemas.fields.map Prod.fst

mutual

/-- The value satisfies the schema. -/
def Valid : Json → Json → Prop
  | .bool flag, _ => flag = true
  | .object keywords, value => Satisfies keywords (propertyNames keywords) value
  | _, _ => False

/-- The value satisfies each keyword of a schema that names these properties. -/
def Satisfies : List (String × Json) → List String → Json → Prop
  | [], _, _ => True
  | (name, keyword) :: rest, named, value =>
    Asserts name keyword value ∧
      (name = "properties" → Properties keyword value) ∧
      (name = "additionalProperties" →
        ∀ field ∈ value.fields, field.1 ∉ named → Valid keyword field.2) ∧
      Satisfies rest named value

/-- Each property that is present satisfies its own schema. -/
def Properties : Json → Json → Prop
  | .object schemas, value => EachProperty schemas value
  | _, _ => True

def EachProperty : List (String × Json) → Json → Prop
  | [], _ => True
  | (name, schema) :: rest, value =>
    (∀ found, value.get name = some found → Valid schema found) ∧ EachProperty rest value

end

theorem eachProperty_iff {schemas : List (String × Json)} {value : Json} :
    EachProperty schemas value ↔
      ∀ entry ∈ schemas, ∀ found, value.get entry.1 = some found → Valid entry.2 found := by
  induction schemas with
  | nil => simp [EachProperty]
  | cons entry rest ih =>
    rw [EachProperty, ih, List.forall_mem_cons]

/-- The schema of a string that is not empty. -/
theorem valid_nonempty {value : Json} :
    Valid (.object [("type", .string "string"), ("minLength", .number (.posInt 1))]) value ↔
      ∃ text, value = .string text ∧ text ≠ "" := by
  have hschema : Valid (.object [("type", .string "string"), ("minLength", .number (.posInt 1))])
      value ↔ "string" ∈ value.types ∧ IsLong value (.number (.posInt 1)) := by
    simp [Valid, Satisfies, Asserts, HasType]
  rw [hschema, Json.mem_types_string]
  constructor
  · rintro ⟨⟨text, rfl⟩, hlong⟩
    exact ⟨text, rfl, isLong_one.mp hlong⟩
  · rintro ⟨text, rfl, hne⟩
    exact ⟨⟨text, rfl⟩, isLong_one.mpr hne⟩

/-- A number from zero on without a fractional part is a natural number. -/
theorem eq_natCast_of_den {value : ℚ} (hden : value.den = 1) (hnonneg : 0 ≤ value) :
    ∃ amount : ℕ, value = amount := by
  obtain ⟨amount, hamount⟩ := Int.eq_ofNat_of_zero_le (Rat.num_nonneg.mpr hnonneg)
  refine ⟨amount, ?_⟩
  calc value
    _ = (value.num : ℚ) := (Rat.coe_int_num_of_den_eq_one hden).symm
    _ = ((amount : ℤ) : ℚ) := by rw [hamount]
    _ = (amount : ℚ) := Int.cast_natCast amount

/-- The schema of an integer between two bounds. -/
theorem valid_integer {value : Json} {least greatest : UInt64} :
    Valid (.object [("type", .string "integer"), ("minimum", .number (.posInt least)),
      ("maximum", .number (.posInt greatest))]) value ↔
      ∃ (found : Number) (amount : ℕ), value = .number found ∧ found.value = amount ∧
        least.toNat ≤ amount ∧ amount ≤ greatest.toNat := by
  have hschema : Valid (.object [("type", .string "integer"),
      ("minimum", .number (.posInt least)), ("maximum", .number (.posInt greatest))]) value ↔
      "integer" ∈ value.types ∧ AtLeast value (.number (.posInt least)) ∧
        AtMost value (.number (.posInt greatest)) := by
    simp [Valid, Satisfies, Asserts, HasType]
  rw [hschema, Json.mem_types_integer]
  constructor
  · rintro ⟨⟨found, rfl, hden⟩, hleast, hgreatest⟩
    rw [AtLeast, Number.value_posInt] at hleast
    rw [AtMost, Number.value_posInt] at hgreatest
    obtain ⟨amount, hamount⟩ := eq_natCast_of_den hden ((Nat.cast_nonneg _).trans hleast)
    rw [hamount, Nat.cast_le] at hleast hgreatest
    exact ⟨found, amount, rfl, hamount, hleast, hgreatest⟩
  · rintro ⟨found, amount, rfl, hamount, hleast, hgreatest⟩
    refine ⟨⟨found, rfl, ?_⟩, ?_, ?_⟩
    · rw [hamount, Rat.den_natCast]
    · rw [AtLeast, Number.value_posInt, hamount, Nat.cast_le]
      exact hleast
    · rw [AtMost, Number.value_posInt, hamount, Nat.cast_le]
      exact hgreatest

end BtDaemon.JsonSchema
