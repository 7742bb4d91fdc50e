import BtDaemon.Foundation.Endian
import BtDaemon.Maestro.Varint
import Mathlib.Data.List.ReduceOption

/-!
# Protobuf fields

A message is a sequence of fields: a key with a field number and a wire type, and a value. Fields
with an unknown number are skipped; of several fields with one number the last one counts.
-/

namespace BtDaemon.Maestro

open Reader (Reads)

inductive Value
  | varint (value : UInt64)
  | fixed32 (value : UInt32)
  | bytes (value : List UInt8)
  deriving DecidableEq, Repr

/-- A protobuf key has a 29-bit, nonzero field number and a 3-bit wire type. -/
def checkKey (key : UInt64) : Except String UInt32 :=
  if key.toNat < UInt32.size then
    if key.toUInt32 >>> 3 ≠ 0 then .ok key.toUInt32 else .error "protobuf field number is zero"
  else .error "protobuf field key is too large"

/-- The value behind a key. No field that is read here is a fixed64. -/
def readValue (key : UInt32) : Reader UInt8 (Option (UInt32 × Value)) :=
  let field := key >>> 3
  match (key &&& 7).toNat with
  | 0 => readVarint.checked fun value ↦ .ok (some (field, .varint value))
  | 1 => (take 8).checked fun _ ↦ .ok none
  | 2 => readVarint.followed fun length ↦
      (take length.toNat).checked fun value ↦ .ok (some (field, .bytes value))
  | 5 => (take 4).checked fun value ↦ .ok (some (field, .fixed32 (.ofNat (Endian.ofLe value))))
  | wire => fun _ ↦ .error ("unsupported protobuf wire type " ++ toString wire)

def readField : Reader UInt8 (Option (UInt32 × Value)) :=
  (readVarint.checked checkKey).followed readValue

/-! ## The grammar of fields -/

structure IsKey (bytes : List UInt8) (field : UInt32) (wire : ℕ) : Prop where
  varint : ∃ key, IsVarint bytes key ∧ key.toNat = 8 * field.toNat + wire
  nonzero : 1 ≤ field.toNat
  bounded : field.toNat ≤ 2 ^ 29 - 1

/-- A well-formed field, with what is returned for it. -/
inductive IsField : List UInt8 → Option (UInt32 × Value) → Prop
  | varint {key bytes : List UInt8} {field : UInt32} {value : UInt64} (hkey : IsKey key field 0)
      (hvalue : IsVarint bytes value) : IsField (key ++ bytes) (some (field, .varint value))
  | fixed64 {key bytes : List UInt8} {field : UInt32} (hkey : IsKey key field 1)
      (hlength : bytes.length = 8) : IsField (key ++ bytes) none
  | bytes {key size bytes : List UInt8} {field : UInt32} {length : UInt64}
      (hkey : IsKey key field 2) (hsize : IsVarint size length)
      (hlength : bytes.length = length.toNat) :
      IsField (key ++ (size ++ bytes)) (some (field, .bytes bytes))
  | fixed32 {key bytes : List UInt8} {field : UInt32} (hkey : IsKey key field 5)
      (hlength : bytes.length = 4) :
      IsField (key ++ bytes) (some (field, .fixed32 (.ofNat (Endian.ofLe bytes))))

theorem checkKey_eq_ok {wide : UInt64} {key : UInt32} :
    checkKey wide = .ok key ↔ wide.toNat = key.toNat ∧ 8 ≤ key.toNat := by
  have hkey : key.toNat < 2 ^ 32 := key.toNat_lt
  have hnarrow : wide.toUInt32.toNat = wide.toNat % 2 ^ 32 := UInt64.toNat_toUInt32 wide
  have hshift : (wide.toUInt32 >>> 3).toNat = wide.toUInt32.toNat / 8 := by
    rw [UInt32.toNat_shiftRight]
    exact Nat.shiftRight_eq_div_pow wide.toUInt32.toNat 3
  have hzero : wide.toUInt32 >>> 3 = 0 ↔ wide.toUInt32.toNat / 8 = 0 := by
    rw [← UInt32.toNat_inj, hshift]
    rfl
  rw [checkKey, UInt32.size]
  constructor
  · intro hcheck
    split at hcheck
    · next hsmall =>
      split at hcheck
      · next hnonzero =>
        rw [← Except.ok.inj hcheck]
        rw [ne_eq, hzero] at hnonzero
        omega
      · cases hcheck
    · cases hcheck
  · rintro ⟨heq, hlarge⟩
    have hsame : wide.toUInt32 = key := by
      apply UInt32.toNat_inj.mp
      omega
    rw [if_pos (by omega), if_pos (by rw [ne_eq, hzero]; omega), hsame]

/-- The field number and the wire type of a key. -/
theorem key_parts (key : UInt32) :
    (key >>> 3).toNat = key.toNat / 8 ∧ (key &&& 7).toNat = key.toNat % 8 := by
  constructor
  · rw [UInt32.toNat_shiftRight]
    exact Nat.shiftRight_eq_div_pow key.toNat 3
  · rw [UInt32.toNat_and]
    exact Nat.and_two_pow_sub_one_eq_mod key.toNat 3

theorem isKey_iff {bytes : List UInt8} {field : UInt32} {wire : ℕ} (hwire : wire < 8) :
    IsKey bytes field wire ↔
      ∃ key : UInt32, (∃ wide, IsVarint bytes wide ∧ checkKey wide = .ok key) ∧
        field = key >>> 3 ∧ (key &&& 7).toNat = wire := by
  constructor
  · rintro ⟨⟨wide, hvarint, hwide⟩, hnonzero, hbounded⟩
    have hkey : (UInt32.ofNat wide.toNat).toNat = wide.toNat := by
      rw [UInt32.toNat_ofNat']
      omega
    obtain ⟨hfield, hlow⟩ := key_parts (UInt32.ofNat wide.toNat)
    refine ⟨UInt32.ofNat wide.toNat, ⟨wide, hvarint, checkKey_eq_ok.mpr ⟨hkey.symm, ?_⟩⟩, ?_, ?_⟩
    · omega
    · apply UInt32.toNat_inj.mp
      omega
    · omega
  · rintro ⟨key, ⟨wide, hvarint, hcheck⟩, rfl, rfl⟩
    obtain ⟨hwide, hlarge⟩ := checkKey_eq_ok.mp hcheck
    obtain ⟨hfield, hlow⟩ := key_parts key
    have hkey : key.toNat < 2 ^ 32 := key.toNat_lt
    refine ⟨⟨wide, hvarint, ?_⟩, ?_, ?_⟩
    · omega
    · omega
    · omega

/-- What may stand behind a key. -/
inductive IsValue (key : UInt32) : List UInt8 → Option (UInt32 × Value) → Prop
  | varint {bytes : List UInt8} {value : UInt64} (hwire : (key &&& 7).toNat = 0)
      (hvalue : IsVarint bytes value) : IsValue key bytes (some (key >>> 3, .varint value))
  | fixed64 {bytes : List UInt8} (hwire : (key &&& 7).toNat = 1) (hlength : bytes.length = 8) :
      IsValue key bytes none
  | bytes {size bytes : List UInt8} {length : UInt64} (hwire : (key &&& 7).toNat = 2)
      (hsize : IsVarint size length) (hlength : bytes.length = length.toNat) :
      IsValue key (size ++ bytes) (some (key >>> 3, .bytes bytes))
  | fixed32 {bytes : List UInt8} (hwire : (key &&& 7).toNat = 5) (hlength : bytes.length = 4) :
      IsValue key bytes (some (key >>> 3, .fixed32 (.ofNat (Endian.ofLe bytes))))

theorem readValue_reads (key : UInt32) : Reads (readValue key) (IsValue key) := by
  rw [readValue]
  split
  · next hwire =>
    apply (readVarint_reads.checked _).congr
    intro taken found
    constructor
    · rintro ⟨value, hvalue, hfound⟩
      rw [← Except.ok.inj hfound]
      exact .varint hwire hvalue
    · intro hvalue
      cases hvalue with
      | varint _ hvalue => exact ⟨_, hvalue, rfl⟩
      | fixed64 hother => omega
      | bytes hother => omega
      | fixed32 hother => omega
  · next hwire =>
    apply ((take_reads 8).checked _).congr
    intro taken found
    constructor
    · rintro ⟨value, ⟨rfl, hlength⟩, hfound⟩
      rw [← Except.ok.inj hfound]
      exact .fixed64 hwire hlength
    · intro hvalue
      cases hvalue with
      | varint hother => omega
      | fixed64 _ hlength => exact ⟨taken, ⟨rfl, hlength⟩, rfl⟩
      | bytes hother => omega
      | fixed32 hother => omega
  · next hwire =>
    apply (readVarint_reads.followed fun length ↦ (take_reads length.toNat).checked _).congr
    intro taken found
    constructor
    · rintro ⟨length, size, data, rfl, hsize, value, ⟨rfl, hlength⟩, hfound⟩
      rw [← Except.ok.inj hfound]
      exact .bytes hwire hsize hlength
    · intro hvalue
      cases hvalue with
      | varint hother => omega
      | fixed64 hother => omega
      | bytes _ hsize hlength => exact ⟨_, _, _, rfl, hsize, _, ⟨rfl, hlength⟩, rfl⟩
      | fixed32 hother => omega
  · next hwire =>
    apply ((take_reads 4).checked _).congr
    intro taken found
    constructor
    · rintro ⟨value, ⟨rfl, hlength⟩, hfound⟩
      rw [← Except.ok.inj hfound]
      exact .fixed32 hwire hlength
    · intro hvalue
      cases hvalue with
      | varint hother => omega
      | fixed64 hother => omega
      | bytes hother => omega
      | fixed32 _ hlength => exact ⟨taken, ⟨rfl, hlength⟩, rfl⟩
  · next hvarint hfixed64 hbytes hfixed32 =>
    intro bytes found rest
    constructor
    · intro hread
      cases hread
    · rintro ⟨taken, rfl, hvalue⟩
      cases hvalue with
      | varint hwire => exact absurd hwire hvarint
      | fixed64 hwire => exact absurd hwire hfixed64
      | bytes hwire => exact absurd hwire hbytes
      | fixed32 hwire => exact absurd hwire hfixed32

theorem readField_reads : Reads readField IsField := by
  apply ((readVarint_reads.checked checkKey).followed readValue_reads).congr
  intro taken found
  constructor
  · rintro ⟨key, front, back, rfl, hfront, hback⟩
    cases hback with
    | varint hwire hvalue =>
      exact .varint ((isKey_iff (by decide)).mpr ⟨key, hfront, rfl, hwire⟩) hvalue
    | fixed64 hwire hlength =>
      exact .fixed64 ((isKey_iff (by decide)).mpr ⟨key, hfront, rfl, hwire⟩) hlength
    | bytes hwire hsize hlength =>
      exact .bytes ((isKey_iff (by decide)).mpr ⟨key, hfront, rfl, hwire⟩) hsize hlength
    | fixed32 hwire hlength =>
      exact .fixed32 ((isKey_iff (by decide)).mpr ⟨key, hfront, rfl, hwire⟩) hlength
  · intro hfield
    cases hfield with
    | varint hkey hvalue =>
      obtain ⟨key, hfront, rfl, hwire⟩ := (isKey_iff (by decide)).mp hkey
      exact ⟨key, _, _, rfl, hfront, .varint hwire hvalue⟩
    | fixed64 hkey hlength =>
      obtain ⟨key, hfront, rfl, hwire⟩ := (isKey_iff (by decide)).mp hkey
      exact ⟨key, _, _, rfl, hfront, .fixed64 hwire hlength⟩
    | bytes hkey hsize hlength =>
      obtain ⟨key, hfront, rfl, hwire⟩ := (isKey_iff (by decide)).mp hkey
      exact ⟨key, _, _, rfl, hfront, .bytes hwire hsize hlength⟩
    | fixed32 hkey hlength =>
      obtain ⟨key, hfront, rfl, hwire⟩ := (isKey_iff (by decide)).mp hkey
      exact ⟨key, _, _, rfl, hfront, .fixed32 hwire hlength⟩

theorem IsVarint.ne_nil {bytes : List UInt8} {value : UInt64} (hvarint : IsVarint bytes value) :
    bytes ≠ [] := by
  rintro rfl
  exact hvarint.terminated

theorem IsField.ne_nil {bytes : List UInt8} {found : Option (UInt32 × Value)}
    (hfield : IsField bytes found) : bytes ≠ [] := by
  have happend : ∀ {key : List UInt8} {field : UInt32} {wire : ℕ} (rest : List UInt8),
      IsKey key field wire → key ++ rest ≠ [] := by
    intro key field wire rest hkey hnil
    obtain ⟨wide, hvarint, -⟩ := hkey.varint
    exact hvarint.ne_nil (List.append_eq_nil_iff.mp hnil).1
  cases hfield with
  | varint hkey => exact happend _ hkey
  | fixed64 hkey => exact happend _ hkey
  | bytes hkey => exact happend _ hkey
  | fixed32 hkey => exact happend _ hkey

/-! ## Messages -/

def fieldParser : Reader.Parser UInt8 (Option (UInt32 × Value)) where
  read := readField
  Grammar := IsField
  reads := readField_reads
  nonempty _ hfield := hfield.ne_nil rfl

/-- The fields of a message but the fixed64 ones. -/
def fields (bytes : List UInt8) : Except String (List (UInt32 × Value)) :=
  (fieldParser.readAll bytes).map List.reduceOption

theorem fields_eq_ok {bytes : List UInt8} {found : List (UInt32 × Value)} :
    fields bytes = .ok found ↔
      ∃ parts : List (List UInt8 × Option (UInt32 × Value)),
        (∀ part ∈ parts, IsField part.1 part.2) ∧ bytes = parts.flatMap Prod.fst ∧
          found = (parts.map Prod.snd).reduceOption := by
  rw [fields, Loop.map_eq_ok]
  constructor
  · rintro ⟨values, hread, rfl⟩
    obtain ⟨parts, hparts, rfl, rfl⟩ := fieldParser.readAll_eq_ok.mp hread
    exact ⟨parts, hparts, rfl, rfl⟩
  · rintro ⟨parts, hparts, rfl, rfl⟩
    exact ⟨parts.map Prod.snd, fieldParser.readAll_eq_ok.mpr ⟨parts, hparts, rfl, rfl⟩, rfl⟩

end BtDaemon.Maestro
