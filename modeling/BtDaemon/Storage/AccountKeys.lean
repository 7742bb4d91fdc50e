import BtDaemon.Storage.JsonFile

/-!
# The account key store

One account key per device, in hexadecimal in the file. Both mutators write the candidate
before they change what is in memory.
-/

namespace BtDaemon.Storage

/-! ## Hexadecimal text -/

def hexDigit (value : ℕ) : Char :=
  ['0', '1', '2', '3', '4', '5', '6', '7', '8', '9', 'a', 'b', 'c', 'd', 'e', 'f'].getD value '0'

def hexEncode (bytes : List UInt8) : String :=
  String.ofList (bytes.flatMap fun byte ↦
    [hexDigit (byte.toNat / 16), hexDigit (byte.toNat % 16)])

/-- Both cases of a letter are accepted. -/
def hexValue (digit : Char) : Option ℕ :=
  let code := digit.toNat
  if 48 ≤ code ∧ code ≤ 57 then some (code - 48)
  else if 97 ≤ code ∧ code ≤ 102 then some (code - 87)
  else if 65 ≤ code ∧ code ≤ 70 then some (code - 55)
  else none

def hexBytes : List Char → Option (List UInt8)
  | [] => some []
  | [_] => none
  | high :: low :: rest =>
    match hexValue high, hexValue low, hexBytes rest with
    | some high, some low, some bytes => some (UInt8.ofNat (16 * high + low) :: bytes)
    | _, _, _ => none

def hexDecode (text : String) : Option (List UInt8) := hexBytes text.toList

theorem hexValue_hexDigit {value : ℕ} (hvalue : value < 16) :
    hexValue (hexDigit value) = some value := by
  have hall : ∀ digit : Fin 16, hexValue (hexDigit digit) = some digit.val := by decide
  exact hall ⟨value, hvalue⟩

/-- What was encoded is decoded. -/
theorem hexDecode_hexEncode (bytes : List UInt8) : hexDecode (hexEncode bytes) = some bytes := by
  rw [hexDecode, hexEncode, String.toList_ofList]
  induction bytes with
  | nil => rfl
  | cons byte rest ih =>
    have hbyte := byte.toNat_lt
    have hhigh := hexValue_hexDigit (Nat.div_lt_of_lt_mul hbyte : byte.toNat / 16 < 16)
    have hlow := hexValue_hexDigit (Nat.mod_lt byte.toNat (by decide : 0 < 16))
    rw [List.flatMap_cons, List.cons_append, List.cons_append, List.nil_append, hexBytes, hhigh,
      hlow, ih]
    dsimp only
    rw [Nat.div_add_mod, UInt8.ofNat_toNat]

/-! ## The store -/

abbrev AccountKey := Vector UInt8 16

/-- The first byte of a key, which says what kind of key it is. -/
def typeByte (key : AccountKey) : UInt8 := key[0]

def storeVersion : UInt8 := 1

def description : String := "Fast Pair account key store"

structure KeyFile where
  version : UInt8
  accountKeys : Table String String := ∅

instance : Setoid KeyFile where
  r first second := first.version = second.version ∧ first.accountKeys ≈ second.accountKeys
  iseqv := {
    refl := fun file ↦ ⟨rfl, Setoid.refl file.accountKeys⟩
    symm := fun hsame ↦ ⟨hsame.1.symm, Setoid.symm hsame.2⟩
    trans := fun hfirst hsecond ↦
      ⟨hfirst.1.trans hsecond.1, Setoid.trans hfirst.2 hsecond.2⟩ }

structure AccountKeyStore (Text : Type) where
  file : JsonFile Text
  keys : Table String AccountKey

def validateKey (key : AccountKey) (label : String) : Except String Unit :=
  if typeByte key ≠ 0x04 then .error (label ++ " has an invalid type byte") else .ok ()

/-- One turn of the loop of `load`. -/
def decodeKey (device encoded : String) : Except String AccountKey :=
  match hexDecode encoded with
  | none => .error ("decode Fast Pair account key for " ++ device)
  | some decoded =>
    if hlength : decoded.toArray.size = 16 then
      let key : AccountKey := ⟨decoded.toArray, hlength⟩
      (validateKey key ("Fast Pair account key for " ++ device)).map fun _ ↦ key
    else
      .error ("Fast Pair account key for " ++ device ++ " has " ++ toString decoded.length ++
        " bytes instead of 16")

def decodeKeys (file : KeyFile) : Except String (Table String AccountKey) :=
  file.accountKeys.entries.foldlM (fun keys entry ↦
    (decodeKey entry.1 entry.2).map fun key ↦ keys.insert entry.1 key) ∅

namespace AccountKeyStore

variable {Text : Type}

def load (codec : Codec Text KeyFile) (file : JsonFile Text) :
    Except String (AccountKeyStore Text) :=
  match file.readJson codec description with
  | .error error => .error error
  | .ok none => .ok ⟨file, ∅⟩
  | .ok (some stored) =>
    if stored.version ≠ storeVersion then
      .error ("unsupported " ++ description ++ " version " ++ toString stored.version.toNat)
    else (decodeKeys stored).map fun keys ↦ ⟨file, keys⟩

variable (store : AccountKeyStore Text) (codec : Codec Text KeyFile)

/-- Write the given keys. -/
def persist (keys : Table String AccountKey) (succeeds : Bool) : Except String (JsonFile Text) :=
  store.file.writeJson codec
    ⟨storeVersion, keys.mapValues fun key ↦ hexEncode key.toList⟩ description succeeds

def remove (deviceKey : String) (succeeds : Bool) : AccountKeyStore Text × Except String Unit :=
  if (store.keys.lookup deviceKey).isNone then (store, .ok ())
  else
    match store.persist codec (store.keys.retain fun device _ ↦ device ≠ deviceKey) succeeds with
    | .error error => (store, .error error)
    | .ok file => ({ store with file := file, keys := store.keys.erase deviceKey }, .ok ())

def insert (deviceKey : String) (key : AccountKey) (succeeds : Bool) :
    AccountKeyStore Text × Except String Unit :=
  match validateKey key "Fast Pair account key" with
  | .error error => (store, .error error)
  | .ok () =>
    let candidate := (store.keys.retain fun device _ ↦ device ≠ deviceKey).insert deviceKey key
    match store.persist codec candidate succeeds with
    | .error error => (store, .error error)
    | .ok file => ({ store with file := file, keys := store.keys.insert deviceKey key }, .ok ())

end AccountKeyStore

end BtDaemon.Storage
