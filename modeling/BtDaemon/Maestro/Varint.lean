import BtDaemon.Foundation.Reader
import Mathlib.Data.Nat.Bitwise
import Mathlib.Data.Nat.Digits.Lemmas

/-!
# Varints

Seven bits a byte, the lowest first; the high bit of a byte says that another one follows. A
`u64` takes at most ten bytes, of which the last has room for one bit.
-/

namespace BtDaemon.Maestro

open Reader (Reads)

/-- The first bytes of the input, if it has so many. -/
def take (length : ℕ) : Reader UInt8 (List UInt8) := fun bytes ↦
  if length ≤ bytes.length then .ok (bytes.take length, bytes.drop length)
  else .error "protobuf field is truncated"

/-- `take(bytes, 1)?[0]` -/
def takeByte : Reader UInt8 UInt8 := fun bytes ↦ do
  let (taken, rest) ← take 1 bytes
  .ok (taken.headD 0, rest)

/-- The loop of `read_varint` over the shifts that are left, with the value so far. -/
def readVarintLoop (value : UInt64) : List ℕ → Reader UInt8 UInt64
  | [] => fun bytes ↦ do
    let (last, rest) ← takeByte bytes
    if last ≤ 1 then .ok (value ||| (last.toUInt64 <<< 63), rest)
    else .error "protobuf varint exceeds u64"
  | shift :: shifts => fun bytes ↦ do
    let (byte, rest) ← takeByte bytes
    let value := value ||| ((byte &&& 0x7f).toUInt64 <<< UInt64.ofNat shift)
    if byte &&& 0x80 = 0 then .ok (value, rest) else readVarintLoop value shifts rest

/-- The shifts are `(0..63).step_by(7)`. -/
def readVarint : Reader UInt8 UInt64 :=
  readVarintLoop 0 (List.range' 0 9 7)

theorem toNat_shiftRight_seven (value : UInt64) : (value >>> 7).toNat = value.toNat / 128 := by
  rw [UInt64.toNat_shiftRight]
  exact Nat.shiftRight_eq_div_pow value.toNat 7

def putVarint (value : UInt64) : List UInt8 :=
  if 0x80 ≤ value then (value.toUInt8 ||| 0x80) :: putVarint (value >>> 7) else [value.toUInt8]
termination_by value.toNat
decreasing_by
  next hlarge =>
  have hpos : 128 ≤ value.toNat := UInt64.le_iff_toNat_le.mp hlarge
  rw [toNat_shiftRight_seven]
  omega

/-! ## Bits of a byte -/

theorem toNat_low (byte : UInt8) : (byte &&& 0x7f).toNat = byte.toNat % 128 := by
  rw [UInt8.toNat_and]
  exact Nat.and_two_pow_sub_one_eq_mod byte.toNat 7

theorem high_eq_zero (byte : UInt8) : byte &&& 0x80 = 0 ↔ byte.toNat < 128 := by
  have hbyte := byte.toNat_lt
  have hbit : byte.toNat &&& 128 = (byte.toNat.testBit 7).toNat * 128 :=
    Nat.and_two_pow byte.toNat 7
  rw [← UInt8.toNat_inj, UInt8.toNat_and]
  change byte.toNat &&& 128 = 0 ↔ _
  rw [hbit, Nat.testBit_eq_decide_div_mod_eq]
  by_cases hlt : byte.toNat < 128
  · simp only [hlt, iff_true, mul_eq_zero, Bool.toNat_eq_zero, decide_eq_false_iff_not]
    omega
  · simp only [hlt, iff_false, mul_eq_zero, Bool.toNat_eq_zero, decide_eq_false_iff_not]
    omega

theorem toNat_continued (byte : UInt8) :
    (byte ||| 0x80).toNat % 128 = byte.toNat % 128 ∧ 128 ≤ (byte ||| 0x80).toNat := by
  rw [UInt8.toNat_or]
  constructor
  · have hlow : (byte.toNat ||| 128) % 2 ^ 7 = byte.toNat % 2 ^ 7 ||| 128 % 2 ^ 7 :=
      Nat.or_mod_two_pow
    have hzero : 128 % 2 ^ 7 = 0 := by decide
    rw [hzero, Nat.or_zero] at hlow
    exact hlow
  · exact Nat.right_le_or

/-- Bits above the ones that are there are added without a carry. -/
theorem toNat_or_shiftLeft {value part : UInt64} {shift : ℕ} (hshift : shift < 64)
    (hvalue : value.toNat < 2 ^ shift) (hfits : part.toNat * 2 ^ shift < 2 ^ 64) :
    (value ||| part <<< UInt64.ofNat shift).toNat = value.toNat + 2 ^ shift * part.toNat := by
  have hamount : (UInt64.ofNat shift).toNat % 64 = shift := by
    rw [UInt64.toNat_ofNat']
    omega
  have hpart : (part <<< UInt64.ofNat shift).toNat = part.toNat <<< shift := by
    rw [UInt64.toNat_shiftLeft, hamount, Nat.mod_eq_of_lt]
    rw [Nat.shiftLeft_eq]
    exact hfits
  calc (value ||| part <<< UInt64.ofNat shift).toNat
      = part.toNat <<< shift ||| value.toNat := by rw [UInt64.toNat_or, hpart, Nat.or_comm]
    _ = part.toNat <<< shift + value.toNat := (Nat.shiftLeft_add_eq_or_of_lt hvalue _).symm
    _ = value.toNat + 2 ^ shift * part.toNat := by
        rw [Nat.shiftLeft_eq, Nat.add_comm, Nat.mul_comm]

/-! ## The grammar of varints -/

/-- The first byte without the high bit is the last one. -/
def Terminated : List UInt8 → Prop
  | [] => False
  | byte :: rest => if byte &&& 0x80 = 0 then rest = [] else Terminated rest

/-- The sum of the seven low bits of each byte times its power of 128. -/
def varintValue (bytes : List UInt8) : ℕ :=
  ((bytes.map fun byte ↦ (byte &&& 0x7f).toNat).mapIdx fun index bits ↦ bits * 128 ^ index).sum

structure IsVarint (bytes : List UInt8) (value : UInt64) : Prop where
  terminated : Terminated bytes
  short : bytes.length ≤ 10
  value_eq : varintValue bytes = value.toNat

theorem varintValue_cons (byte : UInt8) (rest : List UInt8) :
    varintValue (byte :: rest) = byte.toNat % 128 + 128 * varintValue rest := by
  calc varintValue (byte :: rest)
      = Nat.ofDigits 128 ((byte :: rest).map fun byte ↦ (byte &&& 0x7f).toNat) :=
        (Nat.ofDigits_eq_sum_mapIdx 128 _).symm
    _ = (byte &&& 0x7f).toNat +
          128 * Nat.ofDigits 128 (rest.map fun byte ↦ (byte &&& 0x7f).toNat) := by
        rw [List.map_cons, Nat.ofDigits_cons]
    _ = byte.toNat % 128 + 128 * varintValue rest := by
        rw [toNat_low, Nat.ofDigits_eq_sum_mapIdx]
        rfl

theorem terminated_of_last {byte : UInt8} (hlast : byte.toNat < 128) {rest : List UInt8} :
    Terminated (byte :: rest) ↔ rest = [] := by
  rw [Terminated, if_pos ((high_eq_zero byte).mpr hlast)]

theorem terminated_of_continued {byte : UInt8} (hcontinued : 128 ≤ byte.toNat)
    {rest : List UInt8} : Terminated (byte :: rest) ↔ Terminated rest := by
  rw [Terminated, if_neg]
  intro hzero
  have hlast := (high_eq_zero byte).mp hzero
  omega

/-! ## Reading -/

theorem takeByte_cons (byte : UInt8) (rest : List UInt8) :
    takeByte (byte :: rest) = .ok (byte, rest) := by
  have hlength : 1 ≤ (byte :: rest).length := Nat.le_add_left 1 rest.length
  rw [takeByte, take, if_pos hlength]
  rfl

theorem readVarintLoop_tenth (value : UInt64) (last : UInt8) (rest : List UInt8) :
    readVarintLoop value [] (last :: rest) =
      if last ≤ 1 then .ok (value ||| (last.toUInt64 <<< 63), rest)
      else .error "protobuf varint exceeds u64" := by
  simp only [readVarintLoop, takeByte_cons]
  rfl

theorem readVarintLoop_next (value : UInt64) (shift : ℕ) (shifts : List ℕ) (byte : UInt8)
    (rest : List UInt8) :
    readVarintLoop value (shift :: shifts) (byte :: rest) =
      if byte &&& 0x80 = 0 then
        .ok (value ||| ((byte &&& 0x7f).toUInt64 <<< UInt64.ofNat shift), rest)
      else
        readVarintLoop (value ||| ((byte &&& 0x7f).toUInt64 <<< UInt64.ofNat shift)) shifts
          rest := by
  simp only [readVarintLoop, takeByte_cons]
  rfl

theorem take_reads (length : ℕ) :
    Reads (take length) fun taken value ↦ taken = value ∧ value.length = length := by
  intro bytes value rest
  rw [take]
  constructor
  · intro htake
    split at htake
    · next hlength =>
      obtain ⟨rfl, rfl⟩ := Prod.mk.inj (Except.ok.inj htake)
      refine ⟨bytes.take length, (List.take_append_drop length bytes).symm, rfl, ?_⟩
      rw [List.length_take, Nat.min_eq_left hlength]
    · cases htake
  · rintro ⟨_, rfl, rfl, rfl⟩
    rw [if_pos (by rw [List.length_append]; exact Nat.le_add_right _ _), List.take_left,
      List.drop_left]

theorem toNat_tenth {value : UInt64} (hvalue : value.toNat < 2 ^ 63) {last : UInt8}
    (hlast : last.toNat ≤ 1) :
    (value ||| last.toUInt64 <<< 63).toNat = value.toNat + 2 ^ 63 * last.toNat := by
  have hpart : last.toUInt64.toNat = last.toNat := UInt8.toNat_toUInt64 last
  have hsum := @toNat_or_shiftLeft value last.toUInt64 63 (by decide) hvalue (by rw [hpart]; omega)
  rw [hpart] at hsum
  exact hsum

theorem toNat_next {value : UInt64} {shift : ℕ} (hshift : shift ≤ 56)
    (hvalue : value.toNat < 2 ^ shift) (byte : UInt8) :
    (value ||| (byte &&& 0x7f).toUInt64 <<< UInt64.ofNat shift).toNat =
      value.toNat + 2 ^ shift * (byte.toNat % 128) := by
  have hpart : (byte &&& 0x7f).toUInt64.toNat = byte.toNat % 128 := by
    rw [UInt8.toNat_toUInt64, toNat_low]
  have hpow : 2 ^ shift ≤ 2 ^ 56 := Nat.pow_le_pow_right (by decide) hshift
  have hfits : (byte &&& 0x7f).toUInt64.toNat * 2 ^ shift < 2 ^ 64 := by
    rw [hpart]
    calc byte.toNat % 128 * 2 ^ shift ≤ 127 * 2 ^ 56 := by
          apply Nat.mul_le_mul _ hpow
          omega
      _ < 2 ^ 64 := by decide
  rw [toNat_or_shiftLeft (by omega) hvalue hfits, hpart]

theorem terminated_singleton {taken : List UInt8} (hterminated : Terminated taken)
    (hlength : taken.length ≤ 1) : ∃ last, taken = [last] ∧ last.toNat < 128 := by
  match taken, hterminated, hlength with
  | [last], hterminated, _ =>
    refine ⟨last, rfl, ?_⟩
    by_contra hcontinued
    exact (terminated_of_continued (Nat.le_of_not_lt hcontinued)).mp hterminated

/-- The tenth byte, which has room for bit 63 only. -/
theorem readTenth_reads {value : UInt64} (hvalue : value.toNat < 2 ^ 63) :
    Reads (readVarintLoop value []) fun taken result ↦
      Terminated taken ∧ taken.length ≤ 1 ∧
        result.toNat = value.toNat + 2 ^ 63 * varintValue taken := by
  intro bytes result rest
  constructor
  · intro hread
    cases bytes with
    | nil => cases hread
    | cons last tail =>
      rw [readVarintLoop_tenth] at hread
      split at hread
      · next hlast =>
        obtain ⟨rfl, rfl⟩ := Prod.mk.inj (Except.ok.inj hread)
        have hone : last.toNat ≤ 1 := UInt8.le_iff_toNat_le.mp hlast
        refine ⟨[last], rfl, ?_, Nat.le_refl 1, ?_⟩
        · exact (terminated_of_last (by omega)).mpr rfl
        · rw [toNat_tenth hvalue hone, varintValue_cons, Nat.mod_eq_of_lt (by omega)]
          rfl
      · cases hread
  · rintro ⟨taken, rfl, hterminated, hlength, hresult⟩
    obtain ⟨last, rfl, hlast⟩ := terminated_singleton hterminated hlength
    rw [varintValue_cons, Nat.mod_eq_of_lt hlast] at hresult
    change result.toNat = value.toNat + 2 ^ 63 * (last.toNat + 0) at hresult
    have hbound : result.toNat < 2 ^ 64 := result.toNat_lt
    have hone : last.toNat ≤ 1 := by omega
    have heq : value ||| last.toUInt64 <<< 63 = result := by
      apply UInt64.toNat_inj.mp
      rw [toNat_tenth hvalue hone, hresult, Nat.add_zero]
    rw [List.singleton_append, readVarintLoop_tenth, if_pos (UInt8.le_iff_toNat_le.mpr hone), heq]

theorem Terminated.exists_cons {taken rest tail : List UInt8} {byte : UInt8}
    (hterminated : Terminated taken) (hbytes : byte :: tail = taken ++ rest) :
    ∃ later, taken = byte :: later ∧ tail = later ++ rest := by
  cases taken with
  | nil => exact hterminated.elim
  | cons first later =>
    obtain ⟨rfl, htail⟩ := List.cons.inj hbytes
    exact ⟨later, rfl, htail⟩

/-- What the loop accepts from some shift on, and what it adds to the value so far. -/
def Accumulates (count shift : ℕ) (value : UInt64) (taken : List UInt8) (result : UInt64) : Prop :=
  Terminated taken ∧ taken.length ≤ count + 1 ∧
    result.toNat = value.toNat + 2 ^ shift * varintValue taken

/-- A byte without the high bit is the last one. -/
theorem readVarintLoop_last {shift : ℕ} (hshift : shift ≤ 56) {value : UInt64}
    (hvalue : value.toNat < 2 ^ shift) {byte : UInt8} (hlast : byte.toNat < 128) (count : ℕ)
    (shifts : List ℕ) (tail : List UInt8) (result : UInt64) (rest : List UInt8) :
    readVarintLoop value (shift :: shifts) (byte :: tail) = .ok (result, rest) ↔
      ∃ taken, byte :: tail = taken ++ rest ∧ Accumulates count shift value taken result := by
  have hnext := toNat_next hshift hvalue byte
  rw [readVarintLoop_next, if_pos ((high_eq_zero byte).mpr hlast)]
  constructor
  · intro hread
    obtain ⟨rfl, rfl⟩ := Prod.mk.inj (Except.ok.inj hread)
    refine ⟨[byte], rfl, (terminated_of_last hlast).mpr rfl, Nat.le_add_left 1 _, ?_⟩
    rw [hnext, varintValue_cons]
    rfl
  · rintro ⟨taken, hbytes, hterminated, -, hresult⟩
    obtain ⟨later, rfl, rfl⟩ := hterminated.exists_cons hbytes
    obtain rfl := (terminated_of_last hlast).mp hterminated
    have heq : value ||| (byte &&& 0x7f).toUInt64 <<< UInt64.ofNat shift = result := by
      apply UInt64.toNat_inj.mp
      rw [hnext, hresult, varintValue_cons]
      rfl
    rw [heq, List.nil_append]

/-- A byte with the high bit adds its other bits and leaves the rest to the later shifts. -/
theorem readVarintLoop_continued {shift count : ℕ} (hshift : shift ≤ 56) {value : UInt64}
    (hvalue : value.toNat < 2 ^ shift) {byte : UInt8} (hcontinued : 128 ≤ byte.toNat)
    {shifts : List ℕ}
    (hlater : ∀ next : UInt64, next.toNat < 2 ^ (shift + 7) →
      Reads (readVarintLoop next shifts) (Accumulates count (shift + 7) next))
    (tail : List UInt8) (result : UInt64) (rest : List UInt8) :
    readVarintLoop value (shift :: shifts) (byte :: tail) = .ok (result, rest) ↔
      ∃ taken, byte :: tail = taken ++ rest ∧
        Accumulates (count + 1) shift value taken result := by
  have hnext := toNat_next hshift hvalue byte
  have hpow : 2 ^ (shift + 7) = 2 ^ shift * 128 := pow_add 2 shift 7
  have hlarger : (value ||| (byte &&& 0x7f).toUInt64 <<< UInt64.ofNat shift).toNat <
      2 ^ (shift + 7) := by
    have hpart : 2 ^ shift * (byte.toNat % 128) ≤ 2 ^ shift * 127 :=
      Nat.mul_le_mul_left _ (by omega)
    rw [hnext, hpow]
    omega
  have hhigh : ¬byte &&& 0x80 = 0 :=
    fun hzero ↦ Nat.not_lt.mpr hcontinued ((high_eq_zero byte).mp hzero)
  rw [readVarintLoop_next, if_neg hhigh, hlater _ hlarger tail result rest]
  constructor
  · rintro ⟨taken, rfl, hterminated, hlength, hresult⟩
    refine ⟨byte :: taken, rfl, (terminated_of_continued hcontinued).mpr hterminated,
      Nat.succ_le_succ hlength, ?_⟩
    rw [hresult, hnext, hpow, varintValue_cons]
    ring
  · rintro ⟨taken, hbytes, hterminated, hlength, hresult⟩
    obtain ⟨later, rfl, rfl⟩ := hterminated.exists_cons hbytes
    refine ⟨later, rfl, (terminated_of_continued hcontinued).mp hterminated,
      Nat.le_of_succ_le_succ hlength, ?_⟩
    rw [hresult, hnext, hpow, varintValue_cons]
    ring

theorem readVarintLoop_reads (count shift : ℕ) (hshift : shift + 7 * count = 63) (value : UInt64)
    (hvalue : value.toNat < 2 ^ shift) :
    Reads (readVarintLoop value (List.range' shift count 7)) (Accumulates count shift value) := by
  induction count generalizing shift value with
  | zero =>
    obtain rfl : shift = 63 := hshift
    exact readTenth_reads hvalue
  | succ count ih =>
    intro bytes result rest
    rw [List.range'_succ]
    cases bytes with
    | nil =>
      constructor
      · intro hread
        cases hread
      · rintro ⟨taken, hnil, hterminated, -⟩
        rw [(List.append_eq_nil_iff.mp hnil.symm).1] at hterminated
        exact hterminated.elim
    | cons byte tail =>
      have hroom : shift ≤ 56 := by omega
      by_cases hlast : byte.toNat < 128
      · exact readVarintLoop_last hroom hvalue hlast (count + 1) _ tail result rest
      · apply readVarintLoop_continued hroom hvalue (Nat.le_of_not_lt hlast)
        exact fun next hnext ↦ ih (shift + 7) (by omega) next hnext

/-- A varint is at most ten bytes long and its value fits a `u64`; every such varint is read. -/
theorem readVarint_reads : Reads readVarint IsVarint := by
  intro bytes value rest
  have hloop := readVarintLoop_reads 9 0 rfl 0 (by decide) bytes value rest
  rw [readVarint, hloop]
  constructor
  · rintro ⟨taken, rfl, hterminated, hshort, hvalue⟩
    refine ⟨taken, rfl, hterminated, hshort, ?_⟩
    rw [hvalue, pow_zero, one_mul]
    exact (Nat.zero_add _).symm
  · rintro ⟨taken, rfl, hvarint⟩
    refine ⟨taken, rfl, hvarint.terminated, hvarint.short, ?_⟩
    rw [← hvarint.value_eq, pow_zero, one_mul]
    exact (Nat.zero_add _).symm

/-! ## Writing -/

theorem putVarint_last {value : UInt64} (hsmall : value.toNat < 128) :
    putVarint value = [value.toUInt8] := by
  rw [putVarint, if_neg]
  intro hlarge
  have hge : 128 ≤ value.toNat := UInt64.le_iff_toNat_le.mp hlarge
  omega

theorem putVarint_continued {value : UInt64} (hlarge : 128 ≤ value.toNat) :
    putVarint value = (value.toUInt8 ||| 0x80) :: putVarint (value >>> 7) := by
  have hge : 0x80 ≤ value := UInt64.le_iff_toNat_le.mpr hlarge
  rw [putVarint, if_pos hge]

/-- With room for a number of bytes, that many are enough. -/
theorem putVarint_shape (count : ℕ) (value : UInt64) (hvalue : value.toNat < 128 ^ (count + 1)) :
    Terminated (putVarint value) ∧ (putVarint value).length ≤ count + 1 ∧
      varintValue (putVarint value) = value.toNat := by
  have hbyte : value.toUInt8.toNat % 128 = value.toNat % 128 := by
    rw [UInt64.toNat_toUInt8]
    omega
  by_cases hsmall : value.toNat < 128
  · have hlast : value.toUInt8.toNat < 128 := by
      rw [UInt64.toNat_toUInt8]
      omega
    rw [putVarint_last hsmall]
    refine ⟨(terminated_of_last hlast).mpr rfl, Nat.le_add_left 1 count, ?_⟩
    rw [varintValue_cons, hbyte, Nat.mod_eq_of_lt hsmall]
    rfl
  · have hlarge : 128 ≤ value.toNat := Nat.le_of_not_lt hsmall
    have hrest := toNat_shiftRight_seven value
    obtain ⟨hlow, hhigh⟩ := toNat_continued value.toUInt8
    cases count with
    | zero => exact absurd hvalue (Nat.not_lt.mpr hlarge)
    | succ count =>
      have hquotient : (value >>> 7).toNat < 128 ^ (count + 1) := by
        rw [hrest]
        apply Nat.div_lt_of_lt_mul
        rw [← pow_succ']
        exact hvalue
      obtain ⟨hterminated, hlength, hrestValue⟩ := putVarint_shape count (value >>> 7) hquotient
      rw [putVarint_continued hlarge]
      refine ⟨(terminated_of_continued hhigh).mpr hterminated, Nat.succ_le_succ hlength, ?_⟩
      rw [varintValue_cons, hrestValue, hlow, hbyte, hrest]
      exact Nat.mod_add_div value.toNat 128

theorem isVarint_putVarint (value : UInt64) : IsVarint (putVarint value) value := by
  have hbound : value.toNat < 128 ^ (9 + 1) :=
    Nat.lt_trans value.toNat_lt (by decide)
  obtain ⟨hterminated, hshort, hvalue⟩ := putVarint_shape 9 value hbound
  exact { terminated := hterminated, short := hshort, value_eq := hvalue }

/-- What was put is read back, and what follows is left. -/
theorem readVarint_putVarint (value : UInt64) (suffix : List UInt8) :
    readVarint (putVarint value ++ suffix) = .ok (value, suffix) := by
  apply (readVarint_reads _ _ _).mpr
  exact ⟨putVarint value, rfl, isVarint_putVarint value⟩

end BtDaemon.Maestro
