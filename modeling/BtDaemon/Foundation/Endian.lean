import Mathlib.Algebra.GroupWithZero.Nat
import Mathlib.Tactic.Common

/-!
# Numbers as bytes

The fixed-width encodings of a number, least or most significant byte first. Reading back what
was written gives the number modulo the width, and every byte string is the encoding of the
number that is read from it.
-/

namespace BtDaemon.Endian

/-- Least significant byte first. -/
def toLe : ℕ → ℕ → List UInt8
  | 0, _ => []
  | width + 1, number => UInt8.ofNat number :: toLe width (number / 256)

def ofLe : List UInt8 → ℕ
  | [] => 0
  | byte :: rest => byte.toNat + 256 * ofLe rest

def toBe (width number : ℕ) : List UInt8 :=
  (toLe width number).reverse

def ofBe (bytes : List UInt8) : ℕ :=
  ofLe bytes.reverse

@[simp]
theorem length_toLe (width number : ℕ) : (toLe width number).length = width := by
  induction width generalizing number with
  | zero => rfl
  | succ width ih => rw [toLe, List.length_cons, ih]

theorem ofLe_toLe (width number : ℕ) : ofLe (toLe width number) = number % 256 ^ width := by
  induction width generalizing number with
  | zero => rw [pow_zero, Nat.mod_one]; rfl
  | succ width ih =>
    calc ofLe (toLe (width + 1) number)
        = number % 256 + 256 * ofLe (toLe width (number / 256)) := rfl
      _ = number % 256 + 256 * (number / 256 % 256 ^ width) := by rw [ih]
      _ = number % (256 * 256 ^ width) := Nat.mod_mul.symm
      _ = number % 256 ^ (width + 1) := by rw [pow_succ']

theorem ofLe_lt (bytes : List UInt8) : ofLe bytes < 256 ^ bytes.length := by
  induction bytes with
  | nil => exact Nat.one_pos
  | cons byte rest ih =>
    have hbyte : byte.toNat < 256 := byte.toNat_lt
    rw [ofLe, List.length_cons, pow_succ]
    omega

/-- Every byte string is the encoding of its number. -/
theorem toLe_ofLe (bytes : List UInt8) : toLe bytes.length (ofLe bytes) = bytes := by
  induction bytes with
  | nil => rfl
  | cons byte rest ih =>
    have hbyte : byte.toNat < 256 := byte.toNat_lt
    have hquotient : (byte.toNat + 256 * ofLe rest) / 256 = ofLe rest := by omega
    have hhead : UInt8.ofNat (byte.toNat + 256 * ofLe rest) = byte := by
      apply UInt8.toNat.inj
      rw [UInt8.toNat_ofNat']
      omega
    rw [List.length_cons, ofLe, toLe, hquotient, ih, hhead]

theorem ofBe_toBe (width number : ℕ) : ofBe (toBe width number) = number % 256 ^ width := by
  rw [ofBe, toBe, List.reverse_reverse, ofLe_toLe]

theorem toBe_ofBe (bytes : List UInt8) : toBe bytes.length (ofBe bytes) = bytes := by
  have hreverse := toLe_ofLe bytes.reverse
  rw [List.length_reverse] at hreverse
  rw [toBe, ofBe, hreverse, List.reverse_reverse]

end BtDaemon.Endian
