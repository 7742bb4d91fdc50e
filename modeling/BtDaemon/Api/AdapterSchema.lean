import BtDaemon.Api.AdapterPatch
import BtDaemon.Foundation.JsonSchema

/-!
# The advertised schema of adapter patches

The daemon advertises for each method a schema that it derives from an example of its parameters.
For adapter patches the schema and `parse` ask for the same, with one exception: the schema admits
every integer in range as a timeout however it is written, `parse` only one that was read as an
integer, so a timeout such as `120.0` is refused.
-/

namespace BtDaemon.Api

open JsonSchema (Json Number Valid Satisfies Asserts)

/-! ## The contract of a method -/

def AdapterOperation.asStr : AdapterOperation → String
  | .setAlias => "set-alias"
  | .setDiscoverable => "set-discoverable"
  | .setPairable => "set-pairable"
  | .setDiscoverableTimeout => "set-discoverable-timeout"
  | .setPairableTimeout => "set-pairable-timeout"

/-- `AdapterOperation::VALUES` -/
def adapterOperationValues : List String :=
  [.setAlias, .setDiscoverable, .setPairable, .setDiscoverableTimeout, .setPairableTimeout].map
    AdapterOperation.asStr

/-- `DeviceOperation::VALUES` -/
def deviceOperationValues : List String :=
  [.pair, .connect, .disconnect, .remove, .setTrusted, .setBlocked, .setWakeAllowed, .setAlias,
    .resetAlias, .provisionFastPair, .setMultipoint, .setNoiseControl].map DeviceOperation.asStr

def stringArray (texts : List String) : Json := .array (texts.map Json.string)

def integer (number : UInt64) : Json := .number (.posInt number)

/-- `schema[name] = value`; the entries of an object have no order. -/
def assign (schema : List (String × Json)) (name : String) (value : Json) :
    List (String × Json) :=
  schema.filter (fun entry ↦ entry.1 ≠ name) ++ [(name, value)]

def requiredParameters : String → List String
  | "bluetooth.setPowered" => ["powered"]
  | "bluetooth.operation.status" => ["request_id"]
  | "bluetooth.adapter.operation" | "bluetooth.device.operation" => ["key", "operation"]
  | "bluetooth.adapter.update" => ["key", "changes"]
  | "bluetooth.device.policy.update" => ["key"]
  | "bluetooth.obex.send" => ["device_key", "path"]
  | "bluetooth.obex.respond" | "bluetooth.pairing.respond" => ["request_id", "accept"]
  | "bluetooth.audio.setProfile" => ["device_key", "profile_key"]
  | "bluetooth.audio.setDefault" => ["device_key", "endpoint_key"]
  | _ => []

/-- The keywords of the schema for a value like this one. -/
def inferredSchema : Json → List (String × Json)
  | .null => [("type", stringArray ["string", "null"])]
  | .bool _ => [("type", .string "boolean")]
  | .number number =>
    if number.isU64 then [("type", .string "integer"), ("minimum", integer 0)]
    else [("type", .string "number")]
  | .string _ => [("type", .string "string"), ("minLength", integer 1)]
  | .array _ => [("type", .string "array")]
  | .object _ => [("type", .string "object")]

def timeoutSchema : Json :=
  .object [("type", .string "integer"), ("minimum", integer 0), ("maximum", integer 4294967295)]

def changesSchema : List (String × Json) :=
  [("type", .string "object"), ("minProperties", integer 1), ("additionalProperties", .bool false),
    ("properties", .object [
      ("alias", .object [("type", .string "string"), ("minLength", integer 1)]),
      ("discoverable_timeout", timeoutSchema), ("pairable_timeout", timeoutSchema)])]

def applyConstraints (method property : String) (schema : List (String × Json)) :
    List (String × Json) :=
  match method, property with
  | "bluetooth.adapter.update", "changes" => changesSchema
  | "bluetooth.adapter.operation", "operation" =>
    assign schema "enum" (stringArray adapterOperationValues)
  | "bluetooth.device.operation", "operation" =>
    assign schema "enum" (stringArray deviceOperationValues)
  | "bluetooth.management.update", "launch_state" =>
    assign schema "enum" (stringArray ["remember", "enable", "disable"])
  | "bluetooth.device.policy.update", "audio_route_on_connect" =>
    assign schema "enum" (stringArray ["keep", "switch"])
  | "bluetooth.device.policy.update", "fast_pair_controls_enabled" =>
    assign schema "type" (stringArray ["boolean", "null"])
  | "bluetooth.scan", "timeout_ms" =>
    assign (assign schema "minimum" (integer 1000)) "maximum" (integer 60000)
  | _, _ => schema

/-- The example of a method and the schema of its parameters. -/
def parameterContract (fromStr : String → Option Json) (name encoded : String) : Json × Json :=
  match fromStr encoded with
  | some (.object object) =>
    (.object object,
      .object [("$schema", .string "https://json-schema.org/draft/2020-12/schema"),
        ("type", .string "object"),
        ("properties", .object (object.map fun entry ↦
          (entry.1, .object (applyConstraints name entry.1 (inferredSchema entry.2))))),
        ("required", stringArray ((object.map Prod.fst).filter (· ∈ requiredParameters name))),
        ("additionalProperties", .bool (name ≠ "bluetooth.adapter.update"))])
  | _ => (.null, .bool false)

/-- The entry of `bluetooth.adapter.update` in the table of methods. -/
def adapterUpdate : String × String :=
  ("bluetooth.adapter.update",
    "\x7b\"key\":\"adapter-opaque\",\"changes\":\x7b\"alias\":\"Computer\"," ++
      "\"discoverable_timeout\":120,\"pairable_timeout\":0\x7d\x7d")

/-- The parameters that the text of that entry stands for. -/
def adapterUpdateExample : Json :=
  .object [("changes", .object [("alias", .string "Computer"),
    ("discoverable_timeout", integer 120), ("pairable_timeout", integer 0)]),
    ("key", .string "adapter-opaque")]

/-! ## The parameters as they are read -/

mutual

/-- What the accessors of `Params` tell apart in a document. -/
def Value.ofJson : Json → Value
  | .null => .null
  | .bool flag => .bool flag
  | .number (.posInt number) => .unsigned number.toNat
  | .number _ => .other
  | .string text => .string text
  | .array _ => .other
  | .object fields => .object (Value.ofFields fields)

def Value.ofFields : List (String × Json) → List (String × Value)
  | [] => []
  | (name, value) :: rest => (name, Value.ofJson value) :: Value.ofFields rest

end

theorem Value.forall_ofFields {fields : List (String × Json)} (Known : String → Prop) :
    (∀ entry ∈ ofFields fields, Known entry.1) ↔ ∀ entry ∈ fields, Known entry.1 := by
  induction fields with
  | nil => simp [ofFields]
  | cons entry rest ih => rw [ofFields, List.forall_mem_cons, List.forall_mem_cons, ih]

theorem Value.ofFields_lookup (fields : List (String × Json)) (name : String) :
    (ofFields fields).lookup name = (fields.lookup name).map ofJson := by
  induction fields with
  | nil => rfl
  | cons entry rest ih =>
    rw [ofFields, List.lookup_cons, List.lookup_cons]
    cases name == entry.1 with
    | true => rfl
    | false => exact ih

theorem Value.ofJson_eq_string {value : Json} {text : String} :
    ofJson value = .string text ↔ value = .string text := by
  cases value with
  | number found => cases found <;> simp [ofJson]
  | _ => simp [ofJson]

theorem Value.ofJson_eq_unsigned {value : Json} {number : ℕ} :
    ofJson value = .unsigned number ↔
      ∃ found : UInt64, value = .number (.posInt found) ∧ found.toNat = number := by
  cases value with
  | number found => cases found <;> simp [ofJson]
  | _ => simp [ofJson]

theorem Value.ofJson_eq_object {value : Json} {fields : List (String × Value)} :
    ofJson value = .object fields ↔
      ∃ object, value = .object object ∧ ofFields object = fields := by
  cases value with
  | number found => cases found <;> simp [ofJson]
  | _ => simp [ofJson]

/-! ## Patches -/

/-- What a setting takes, given what its timeouts are. -/
def Takes (Timeout : Json → Prop) (operation : AdapterOperation) (value : Json) : Prop :=
  if operation = .setAlias then ∃ text, value = .string text ∧ text ≠ "" else Timeout value

/-- A complete patch, given what its timeouts are. -/
structure Patch (Timeout : Json → Prop) (object changes : List (String × Json)) : Prop where
  known : ∀ entry ∈ object, entry.1 = "key" ∨ entry.1 = "changes"
  key : ∃ text, object.lookup "key" = some (.string text) ∧ text ≠ ""
  changes_eq : object.lookup "changes" = some (.object changes)
  changes_ne : changes ≠ []
  fields_known : ∀ entry ∈ changes, entry.1 ∈ fieldOperations.map Prod.fst
  taken : ∀ entry ∈ fieldOperations, ∀ value, changes.lookup entry.1 = some value →
    Takes Timeout entry.2 value

def IsPatch (Timeout : Json → Prop) (params : Json) : Prop :=
  ∃ object changes, params = .object object ∧ Patch Timeout object changes

/-- A number that was read as an integer and fits `u32`. -/
def Unsigned (value : Json) : Prop :=
  ∃ number : UInt64, value = .number (.posInt number) ∧ number.toNat < UInt32.size

/-- A number whose value is an integer that fits `u32`, however it is written. -/
def InRange (value : Json) : Prop :=
  ∃ (number : Number) (amount : ℕ), value = .number number ∧ number.value = amount ∧
    amount < UInt32.size

def IsFloat (value : Json) : Prop := ∃ number, value = .number (.float number)

/-- A complete patch with every timeout in range, one of which is written as a float. -/
def FloatPatch (params : Json) : Prop :=
  ∃ object changes, params = .object object ∧ Patch InRange object changes ∧
    ∃ entry ∈ fieldOperations, ∃ value, changes.lookup entry.1 = some value ∧ IsFloat value

theorem inRange_of_unsigned {value : Json} (hunsigned : Unsigned value) : InRange value := by
  obtain ⟨number, rfl, hbound⟩ := hunsigned
  exact ⟨.posInt number, number.toNat, rfl, rfl, hbound⟩

/-- A number in range that is no float was read as an integer. -/
theorem unsigned_of_inRange {value : Json} (hrange : InRange value) (hfloat : ¬IsFloat value) :
    Unsigned value := by
  obtain ⟨number, amount, rfl, hvalue, hbound⟩ := hrange
  cases number with
  | posInt found =>
    have hamount : found.toNat = amount := Nat.cast_injective (R := ℚ) hvalue
    exact ⟨found, rfl, hamount ▸ hbound⟩
  | negInt found negative =>
    have hneg := Number.value_negInt_neg found negative
    rw [hvalue] at hneg
    exact absurd hneg (not_lt.mpr (Nat.cast_nonneg amount))
  | float found => exact absurd ⟨found, rfl⟩ hfloat

theorem not_unsigned_of_isFloat {value : Json} (hfloat : IsFloat value) : ¬Unsigned value := by
  obtain ⟨number, rfl⟩ := hfloat
  rintro ⟨found, hsame, -⟩
  nomatch Json.number.inj hsame

theorem Takes.imp {Timeout Wider : Json → Prop} {operation : AdapterOperation} {value : Json}
    (htakes : Takes Timeout operation value) (himp : Timeout value → Wider value) :
    Takes Wider operation value := by
  rw [Takes] at htakes ⊢
  split_ifs at htakes ⊢ with halias
  · exact htakes
  · exact himp htakes

theorem Patch.imp {Timeout Wider : Json → Prop} {object changes : List (String × Json)}
    (hpatch : Patch Timeout object changes)
    (himp : ∀ entry ∈ fieldOperations, ∀ value, changes.lookup entry.1 = some value →
      Timeout value → Wider value) : Patch Wider object changes where
  known := hpatch.known
  key := hpatch.key
  changes_eq := hpatch.changes_eq
  changes_ne := hpatch.changes_ne
  fields_known := hpatch.fields_known
  taken entry hentry value hvalue :=
    (hpatch.taken entry hentry value hvalue).imp (himp entry hentry value hvalue)

/-! ## What `parse` accepts -/

theorem admits_ofJson {operation : AdapterOperation} {value : Json} :
    Admits operation (.ofJson value) ↔ Takes Unsigned operation value := by
  rw [Admits, Takes]
  split_ifs with halias
  · simp only [Value.ofJson_eq_string]
  · constructor
    · rintro ⟨_, hvalue, hbound⟩
      obtain ⟨found, rfl, rfl⟩ := Value.ofJson_eq_unsigned.mp hvalue
      exact ⟨found, rfl, hbound⟩
    · rintro ⟨found, rfl, hbound⟩
      exact ⟨found.toNat, rfl, hbound⟩

theorem Value.get_ofJson_object (object : List (String × Json)) (name : String) :
    (ofJson (.object object)).get name = (object.lookup name).map ofJson :=
  ofFields_lookup object name

theorem patch_of_validPatch {params : Json} {key : String} {fields : List (String × Value)}
    (hvalid : ValidPatch (.ofJson params) key fields) : IsPatch Unsigned params := by
  obtain ⟨read, hread, -⟩ := Option.bind_eq_some_iff.mp hvalid.key_eq
  obtain ⟨object, rfl, rfl⟩ := Value.ofJson_eq_object.mp (asObject_eq_some.mp hread)
  have hkey := hvalid.key_eq
  have hchanges := hvalid.changes_eq
  rw [Value.get_ofJson_object, Option.map_eq_some_iff] at hkey hchanges
  obtain ⟨keyFound, hkeyFound, hkeyRead⟩ := hkey
  obtain ⟨changesFound, hchangesFound, hchangesRead⟩ := hchanges
  obtain rfl := Value.ofJson_eq_string.mp hkeyRead
  obtain ⟨changes, rfl, rfl⟩ := Value.ofJson_eq_object.mp hchangesRead
  refine ⟨object, changes, rfl, ?_, ⟨key, hkeyFound, hvalid.key_ne⟩, hchangesFound, ?_, ?_, ?_⟩
  · exact (Value.forall_ofFields fun name ↦ name = "key" ∨ name = "changes").mp
      (hvalid.known _ rfl)
  · rintro rfl
    exact hvalid.changes_ne rfl
  · exact (Value.forall_ofFields fun name ↦ name ∈ fieldOperations.map Prod.fst).mp
      hvalid.fields_known
  · intro entry hentry value hvalue
    have hlookup : (Value.ofFields changes).lookup entry.1 = some (.ofJson value) := by
      rw [Value.ofFields_lookup, hvalue, Option.map_some]
    obtain ⟨admitted, hadmitted, hadmits⟩ :=
      hvalid.admitted entry hentry (Json.mem_names_iff.mpr ⟨_, hlookup⟩)
    obtain rfl := Option.some.inj (hlookup.symm.trans hadmitted)
    exact admits_ofJson.mp hadmits

theorem validPatch_of_patch {object changes : List (String × Json)}
    (hpatch : Patch Unsigned object changes) :
    ∃ key, ValidPatch (.ofJson (.object object)) key (Value.ofFields changes) := by
  obtain ⟨key, hkey, hkeyNe⟩ := hpatch.key
  have hfields := (Value.forall_ofFields fun name ↦ name ∈ fieldOperations.map Prod.fst).mpr
    hpatch.fields_known
  refine ⟨key, ?_, hkeyNe, ?_, ?_, ?_, hfields, ?_⟩
  · rw [Value.get_ofJson_object, hkey, Option.map_some, Value.ofJson]
  · intro read hread
    obtain rfl := Option.some.inj hread
    exact (Value.forall_ofFields fun name ↦ name = "key" ∨ name = "changes").mpr hpatch.known
  · rw [Value.get_ofJson_object, hpatch.changes_eq, Option.map_some, Value.ofJson]
  · intro hempty
    cases changes with
    | nil => exact hpatch.changes_ne rfl
    | cons entry rest => nomatch hempty
  · intro entry hentry hname
    obtain ⟨read, hread⟩ := Json.mem_names_iff.mp hname
    have hlookup := hread
    rw [Value.ofFields_lookup, Option.map_eq_some_iff] at hlookup
    obtain ⟨value, hvalue, rfl⟩ := hlookup
    exact ⟨_, hread, admits_ofJson.mpr (hpatch.taken entry hentry value hvalue)⟩

theorem parse_isOk_iff (params : Json) :
    (∃ result, parse (.ofJson params) = .ok result) ↔ IsPatch Unsigned params := by
  constructor
  · rintro ⟨⟨key, settings⟩, hparse⟩
    obtain ⟨fields, hvalid, -⟩ := validPatch_of_parse hparse
    exact patch_of_validPatch hvalid
  · rintro ⟨object, changes, rfl, hpatch⟩
    obtain ⟨key, hvalid⟩ := validPatch_of_patch hpatch
    obtain ⟨settings, hparse⟩ := parse_of_validPatch hvalid
    exact ⟨(key, settings), hparse⟩

/-! ## What the schema admits -/

theorem valid_timeoutSchema {value : Json} : Valid timeoutSchema value ↔ InRange value := by
  rw [timeoutSchema, integer, integer, JsonSchema.valid_integer]
  constructor
  · rintro ⟨number, amount, rfl, hvalue, -, hgreatest⟩
    exact ⟨number, amount, rfl, hvalue, Nat.lt_succ_of_le hgreatest⟩
  · rintro ⟨number, amount, rfl, hvalue, hbound⟩
    exact ⟨number, amount, rfl, hvalue, Nat.zero_le amount, Nat.le_of_lt_succ hbound⟩

/-- The schema of a setting's value. -/
def settingSchema (operation : AdapterOperation) : Json :=
  if operation = .setAlias then .object [("type", .string "string"), ("minLength", integer 1)]
  else timeoutSchema

theorem valid_settingSchema {operation : AdapterOperation} {value : Json} :
    Valid (settingSchema operation) value ↔ Takes InRange operation value := by
  rw [settingSchema, Takes]
  split_ifs with halias
  · exact JsonSchema.valid_nonempty
  · exact valid_timeoutSchema

/-- The properties of `changes` are the fields, each with the schema of its setting. -/
theorem changesSchema_eq : changesSchema =
    [("type", .string "object"), ("minProperties", integer 1),
      ("additionalProperties", .bool false),
      ("properties", .object (fieldOperations.map fun entry ↦
        (entry.1, settingSchema entry.2)))] := rfl

theorem propertyNames_changesSchema :
    JsonSchema.propertyNames changesSchema = fieldOperations.map Prod.fst := by decide

theorem valid_changesSchema {value : Json} :
    Valid (.object changesSchema) value ↔
      ∃ changes, value = .object changes ∧ changes ≠ [] ∧
        (∀ entry ∈ changes, entry.1 ∈ fieldOperations.map Prod.fst) ∧
        ∀ entry ∈ fieldOperations, ∀ found, changes.lookup entry.1 = some found →
          Takes InRange entry.2 found := by
  have hschema : Valid (.object changesSchema) value ↔ "object" ∈ value.types ∧
      JsonSchema.HasMany value (integer 1) ∧
      (∀ field ∈ value.fields, field.1 ∈ fieldOperations.map Prod.fst) ∧
      JsonSchema.EachProperty
        (fieldOperations.map fun entry ↦ (entry.1, settingSchema entry.2)) value := by
    rw [Valid, propertyNames_changesSchema, changesSchema_eq]
    simp [Valid, Satisfies, Asserts, JsonSchema.HasType, JsonSchema.Properties]
  rw [hschema, Json.mem_types_object, JsonSchema.eachProperty_iff, List.forall_mem_map]
  simp only [valid_settingSchema]
  constructor
  · rintro ⟨⟨changes, rfl⟩, hmany, hknown, htaken⟩
    exact ⟨changes, rfl, JsonSchema.hasMany_one.mp hmany, hknown, htaken⟩
  · rintro ⟨changes, rfl, hne, hknown, htaken⟩
    exact ⟨⟨changes, rfl⟩, JsonSchema.hasMany_one.mpr hne, hknown, htaken⟩

/-- The schema that is advertised for adapter patches. -/
def updateSchema : List (String × Json) :=
  [("$schema", .string "https://json-schema.org/draft/2020-12/schema"),
    ("type", .string "object"),
    ("properties", .object [("changes", .object changesSchema),
      ("key", .object [("type", .string "string"), ("minLength", integer 1)])]),
    ("required", stringArray ["changes", "key"]), ("additionalProperties", .bool false)]

theorem parameterContract_update {fromStr : String → Option Json}
    (hexample : fromStr adapterUpdate.2 = some adapterUpdateExample) :
    (parameterContract fromStr adapterUpdate.1 adapterUpdate.2).2 = .object updateSchema := by
  rw [parameterContract, hexample, adapterUpdateExample]
  rfl

theorem propertyNames_updateSchema :
    JsonSchema.propertyNames updateSchema = ["changes", "key"] := by decide

theorem hasAll_pair {object : List (String × Json)} {first second : String} :
    JsonSchema.HasAll (.object object) (stringArray [first, second]) ↔
      (∃ value, object.lookup first = some value) ∧
        ∃ value, object.lookup second = some value := by
  rw [← Json.mem_names_iff, ← Json.mem_names_iff]
  simp [JsonSchema.HasAll, stringArray]

theorem valid_updateSchema {params : Json} :
    Valid (.object updateSchema) params ↔ IsPatch InRange params := by
  have hschema : Valid (.object updateSchema) params ↔ "object" ∈ params.types ∧
      ((∀ found, params.get "changes" = some found → Valid (.object changesSchema) found) ∧
        ∀ found, params.get "key" = some found →
          Valid (.object [("type", .string "string"), ("minLength", integer 1)]) found) ∧
      JsonSchema.HasAll params (stringArray ["changes", "key"]) ∧
      ∀ field ∈ params.fields, field.1 ∈ ["changes", "key"] := by
    rw [Valid, propertyNames_updateSchema, updateSchema]
    simp [Valid, Satisfies, Asserts, JsonSchema.HasType, JsonSchema.Properties,
      JsonSchema.EachProperty, or_iff_not_imp_left]
  rw [hschema, Json.mem_types_object]
  constructor
  · rintro ⟨⟨object, rfl⟩, ⟨hchanges, hkey⟩, hall, hknown⟩
    obtain ⟨⟨changesFound, hchangesFound⟩, keyFound, hkeyFound⟩ := hasAll_pair.mp hall
    obtain ⟨changes, rfl, hne, hfields, htaken⟩ :=
      valid_changesSchema.mp (hchanges changesFound hchangesFound)
    obtain ⟨key, rfl, hkeyNe⟩ := JsonSchema.valid_nonempty.mp (hkey keyFound hkeyFound)
    refine ⟨object, changes, rfl, ?_, ⟨key, hkeyFound, hkeyNe⟩, hchangesFound, hne, hfields,
      htaken⟩
    intro entry hentry
    exact Or.symm (by simpa using hknown entry hentry)
  · rintro ⟨object, changes, rfl, hpatch⟩
    obtain ⟨key, hkey, hkeyNe⟩ := hpatch.key
    refine ⟨⟨object, rfl⟩, ⟨?_, ?_⟩, hasAll_pair.mpr ⟨⟨_, hpatch.changes_eq⟩, _, hkey⟩, ?_⟩
    · intro found hfound
      obtain rfl := Option.some.inj (hpatch.changes_eq.symm.trans hfound)
      exact valid_changesSchema.mpr
        ⟨changes, rfl, hpatch.changes_ne, hpatch.fields_known, hpatch.taken⟩
    · intro found hfound
      obtain rfl := Option.some.inj (hkey.symm.trans hfound)
      exact JsonSchema.valid_nonempty.mpr ⟨key, rfl, hkeyNe⟩
    · intro entry hentry
      simpa using (hpatch.known entry hentry).symm

/-! ## Agreement -/

theorem isPatch_inRange {params : Json} (hpatch : IsPatch Unsigned params) :
    IsPatch InRange params := by
  obtain ⟨object, changes, hobject, hpatch⟩ := hpatch
  exact ⟨object, changes, hobject, hpatch.imp fun _ _ _ _ ↦ inRange_of_unsigned⟩

/-- A setting that is a float is none that `parse` takes. -/
theorem not_takes_unsigned {operation : AdapterOperation} {value : Json}
    (hfloat : IsFloat value) : ¬Takes Unsigned operation value := by
  intro htakes
  rw [Takes] at htakes
  split_ifs at htakes
  · obtain ⟨number, rfl⟩ := hfloat
    obtain ⟨text, hsame, -⟩ := htakes
    nomatch hsame
  · exact not_unsigned_of_isFloat hfloat htakes

theorem FloatPatch.isPatch {params : Json} (hfloat : FloatPatch params) :
    IsPatch InRange params := by
  obtain ⟨object, changes, hobject, hpatch, -⟩ := hfloat
  exact ⟨object, changes, hobject, hpatch⟩

theorem not_isPatch_unsigned {params : Json} (hfloat : FloatPatch params) :
    ¬IsPatch Unsigned params := by
  rintro ⟨object, changes, rfl, hpatch⟩
  obtain ⟨_, floated, hobject, hranged, entry, hentry, value, hvalue, hfloat⟩ := hfloat
  obtain rfl := Json.object.inj hobject
  have hchanges : changes = floated :=
    Json.object.inj (Option.some.inj (hpatch.changes_eq.symm.trans hranged.changes_eq))
  rw [← hchanges] at hvalue
  exact not_takes_unsigned hfloat (hpatch.taken entry hentry value hvalue)

theorem isPatch_unsigned {params : Json} (hpatch : IsPatch InRange params)
    (hfloat : ¬FloatPatch params) : IsPatch Unsigned params := by
  obtain ⟨object, changes, hobject, hpatch⟩ := hpatch
  refine ⟨object, changes, hobject, hpatch.imp ?_⟩
  intro entry hentry value hvalue hrange
  apply unsigned_of_inRange hrange
  intro hwritten
  exact hfloat ⟨object, changes, hobject, hpatch, entry, hentry, value, hvalue, hwritten⟩

/-- The parser and the advertised schema agree about every value except a complete patch that
writes a timeout as a float. -/
theorem adapterUpdate_agrees_iff {fromStr : String → Option Json}
    (hexample : fromStr adapterUpdate.2 = some adapterUpdateExample) (params : Json) :
    ((∃ result, parse (.ofJson params) = .ok result) ↔
      Valid (parameterContract fromStr adapterUpdate.1 adapterUpdate.2).2 params) ↔
      ¬FloatPatch params := by
  rw [parse_isOk_iff, parameterContract_update hexample, valid_updateSchema]
  constructor
  · intro hagree hfloat
    exact not_isPatch_unsigned hfloat (hagree.mpr hfloat.isPatch)
  · intro hfloat
    exact ⟨isPatch_inRange, fun hpatch ↦ isPatch_unsigned hpatch hfloat⟩

/-- Nothing that the schema forbids is accepted. -/
theorem valid_of_parse {fromStr : String → Option Json}
    (hexample : fromStr adapterUpdate.2 = some adapterUpdateExample) {params : Json}
    {result : String × List Setting} (hparse : parse (.ofJson params) = .ok result) :
    Valid (parameterContract fromStr adapterUpdate.1 adapterUpdate.2).2 params := by
  rw [parameterContract_update hexample, valid_updateSchema]
  exact isPatch_inRange ((parse_isOk_iff params).mp ⟨result, hparse⟩)

/-- What a decoder makes of the text of the example. -/
def decodeExample (text : String) : Option Json :=
  if text = adapterUpdate.2 then some adapterUpdateExample else none

theorem mem_fieldOperations {entry : String × AdapterOperation} :
    entry ∈ fieldOperations ↔ entry = ("alias", .setAlias) ∨
      entry = ("discoverable_timeout", .setDiscoverableTimeout) ∨
      entry = ("pairable_timeout", .setPairableTimeout) := by
  simp [fieldOperations]

theorem not_floatPatch_example : ¬FloatPatch adapterUpdateExample := by
  rintro ⟨object, changes, hobject, hpatch, entry, hentry, value, hvalue, number, rfl⟩
  obtain rfl := Json.object.inj hobject
  have hchanges := hpatch.changes_eq
  rw [List.lookup_cons_self] at hchanges
  obtain rfl := Json.object.inj (Option.some.inj hchanges)
  rcases mem_fieldOperations.mp hentry with rfl | rfl | rfl <;> cases hvalue

theorem adapterUpdate_agrees_iff_example :
    (∃ result, parse (.ofJson adapterUpdateExample) = .ok result) ↔
      Valid (parameterContract decodeExample adapterUpdate.1 adapterUpdate.2).2
        adapterUpdateExample :=
  (adapterUpdate_agrees_iff (if_pos rfl) adapterUpdateExample).mpr not_floatPatch_example

/-- A timeout of two minutes, written with a decimal point. -/
def floatParams : Json :=
  .object [("changes", .object [("discoverable_timeout",
    .number (.float ⟨false, 120, 0, by decide, by decide, by decide⟩))]), ("key", .string "a")]

theorem adapterUpdate_disagrees :
    Valid (parameterContract decodeExample adapterUpdate.1 adapterUpdate.2).2 floatParams ∧
      parse (.ofJson floatParams) =
        .error (invalidParameter "discoverable_timeout" "unsigned integer" false) := by
  refine ⟨?_, rfl⟩
  rw [parameterContract_update (if_pos rfl), valid_updateSchema]
  refine ⟨_, _, rfl, ?_, ⟨"a", rfl, by decide⟩, rfl, by simp, ?_, ?_⟩
  · simp
  · simp [fieldOperations]
  · intro entry hentry value hvalue
    rcases mem_fieldOperations.mp hentry with rfl | rfl | rfl
    · cases hvalue
    · obtain rfl := Option.some.inj hvalue
      exact ⟨_, 120, rfl, by simp [Number.value, JsonSchema.Float64.value], by decide⟩
    · cases hvalue

end BtDaemon.Api
