import BtDaemon.Foundation.Table

/-!
# State files

Every store keeps its state in one JSON file of its own. The encoding is a parameter: of a
value that was written, what is read back is the same value up to the order of its maps. A
write replaces the whole file or leaves it alone.
-/

namespace BtDaemon.Storage

/-- Values that have no map in them are the same only when they are equal. -/
def exact (Value : Type) : Setoid Value := ⟨Eq, eq_equivalence⟩

/-- `serde_json` for one type. -/
structure Codec (Text Value : Type) where
  encode : Value → Text
  decode : Text → Option Value

def Codec.RoundTrips {Text Value : Type} [Setoid Value] (codec : Codec Text Value) : Prop :=
  ∀ value, ∃ decoded, codec.decode (codec.encode value) = some decoded ∧ decoded ≈ value

structure JsonFile (Text : Type) where
  path : String
  /-- `none` before the file was written for the first time. -/
  contents : Option Text
  deriving DecidableEq

namespace JsonFile

variable {Text Value : Type} (file : JsonFile Text) (codec : Codec Text Value)

def readJson (description : String) : Except String (Option Value) :=
  match file.contents with
  | none => .ok none
  | some text =>
    match codec.decode text with
    | some value => .ok (some value)
    | none => .error ("read and decode " ++ description ++ " " ++ file.path)

def writeJson (value : Value) (description : String) (succeeds : Bool) :
    Except String (JsonFile Text) :=
  if succeeds then .ok { file with contents := some (codec.encode value) }
  else .error ("replace " ++ description ++ " " ++ file.path)

/-- The file after a successful write. -/
def written (value : Value) : JsonFile Text :=
  { file with contents := some (codec.encode value) }

theorem writeJson_cases (value : Value) (description : String) (succeeds : Bool) :
    succeeds = true ∧
        file.writeJson codec value description succeeds = .ok (file.written codec value) ∨
      succeeds = false ∧ ∃ error, file.writeJson codec value description succeeds =
        .error error := by
  cases succeeds with
  | true => exact .inl ⟨rfl, rfl⟩
  | false => exact .inr ⟨rfl, _, rfl⟩

/-- What was written is read back. -/
theorem readJson_written [Setoid Value] (hjson : codec.RoundTrips) (value : Value)
    (description : String) : ∃ decoded,
      (file.written codec value).readJson codec description = .ok (some decoded) ∧
        decoded ≈ value := by
  obtain ⟨decoded, hdecode, hsame⟩ := hjson value
  refine ⟨decoded, ?_, hsame⟩
  rw [readJson, written]
  dsimp only
  rw [hdecode]

end JsonFile

/-- The call failed. -/
def failed {Result : Type} : Except String Result → Bool
  | .ok _ => false
  | .error _ => true

end BtDaemon.Storage
