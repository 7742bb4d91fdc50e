import Mathlib.Data.Nat.Bitwise
import Mathlib.Logic.Function.Iterate
import Mathlib.Tactic.Common

/-!
# Shift registers

A register is shifted towards its low bit, and a polynomial is added whenever a one falls out.
Shifting is linear over addition without carry, and it loses nothing if the polynomial has its
high bit set. A register that absorbs symbols of a few bits each ends differently for two inputs
that differ in a window no longer than the register.
-/

namespace BtDaemon.ShiftRegister

variable {width : ℕ} (poly : BitVec width)

def shift (state : BitVec width) : BitVec width :=
  if state.getLsbD 0 then (state >>> 1) ^^^ poly else state >>> 1

def absorb (bits : ℕ) (state symbol : BitVec width) : BitVec width :=
  (shift poly)^[bits] (state ^^^ symbol)

theorem shift_xor (first second : BitVec width) :
    shift poly (first ^^^ second) = shift poly first ^^^ shift poly second := by
  rw [shift, shift, shift, BitVec.getLsbD_xor, BitVec.ushiftRight_xor_distrib]
  have hcancel : poly ^^^ poly = .ofNat width 0 := BitVec.xor_self
  cases first.getLsbD 0 <;> cases second.getLsbD 0
  · rfl
  · exact BitVec.xor_assoc _ _ _
  · change first >>> 1 ^^^ second >>> 1 ^^^ poly = first >>> 1 ^^^ poly ^^^ second >>> 1
    rw [BitVec.xor_assoc, BitVec.xor_assoc, BitVec.xor_comm poly]
  · change first >>> 1 ^^^ second >>> 1 = first >>> 1 ^^^ poly ^^^ (second >>> 1 ^^^ poly)
    rw [BitVec.xor_assoc, BitVec.xor_comm (second >>> 1) poly, ← BitVec.xor_assoc poly, hcancel,
      BitVec.zero_xor]

/-- Nothing but zero is shifted to zero. -/
theorem eq_zero_of_shift (hpoly : poly.msb = true) {state : BitVec width}
    (hshift : shift poly state = .ofNat width 0) : state = .ofNat width 0 := by
  rw [shift] at hshift
  split at hshift
  · next hlow =>
    have hmsb : ((state >>> 1) ^^^ poly).msb = true := by
      rw [BitVec.msb_xor, hpoly, BitVec.msb_ushiftRight]
      simp
    rw [hshift] at hmsb
    simp at hmsb
  · next hlow =>
    apply BitVec.eq_of_getLsbD_eq
    intro index hindex
    cases index with
    | zero => simpa using hlow
    | succ index =>
      have hbit := congrArg (fun bits ↦ bits.getLsbD index) hshift
      simpa [Nat.add_comm] using hbit

theorem shift_injective (hpoly : poly.msb = true) : Function.Injective (shift poly) := by
  intro first second hsame
  have hzero : shift poly (first ^^^ second) = .ofNat width 0 := by
    rw [shift_xor, hsame, BitVec.xor_self]
  have hxor := eq_zero_of_shift poly hpoly hzero
  exact BitVec.xor_eq_zero_iff.mp hxor

theorem iterate_shift_xor (count : ℕ) (first second : BitVec width) :
    (shift poly)^[count] (first ^^^ second) =
      (shift poly)^[count] first ^^^ (shift poly)^[count] second := by
  induction count generalizing first second with
  | zero => rfl
  | succ count ih => rw [Function.iterate_succ_apply, shift_xor, ih]; rfl

theorem toNat_shiftLeft_of_fits {state : BitVec width} {count : ℕ}
    (hroom : state.toNat * 2 ^ count < 2 ^ width) :
    (state <<< count).toNat = state.toNat * 2 ^ count := by
  rw [BitVec.toNat_shiftLeft, Nat.shiftLeft_eq, Nat.mod_eq_of_lt hroom]

theorem shift_shiftLeft {state : BitVec width} (hroom : state.toNat * 2 ^ 1 < 2 ^ width) :
    shift poly (state <<< 1) = state := by
  have hlow : (state <<< 1).getLsbD 0 = false := by simp
  have hback : (state <<< 1) >>> 1 = state := by
    apply BitVec.eq_of_toNat_eq
    rw [BitVec.toNat_ushiftRight, toNat_shiftLeft_of_fits hroom, Nat.shiftRight_eq_div_pow]
    exact Nat.mul_div_cancel _ (by decide)
  rw [shift, hlow, if_neg Bool.false_ne_true, hback]

/-- What stands above the low bits comes down unchanged. -/
theorem iterate_shift_shiftLeft (count : ℕ) {state : BitVec width}
    (hroom : state.toNat * 2 ^ count < 2 ^ width) :
    (shift poly)^[count] (state <<< count) = state := by
  induction count with
  | zero => rw [BitVec.shiftLeft_zero]; rfl
  | succ count ih =>
    have hpow : 2 ^ (count + 1) = 2 ^ count * 2 := pow_succ 2 count
    have hlower : state.toNat * 2 ^ count * 2 < 2 ^ width := by
      rw [Nat.mul_assoc, ← hpow]
      exact hroom
    have hfits : state.toNat * 2 ^ count < 2 ^ width := by omega
    have hone : (state <<< count).toNat * 2 ^ 1 < 2 ^ width := by
      rw [toNat_shiftLeft_of_fits hfits]
      exact hlower
    rw [Function.iterate_succ_apply, BitVec.shiftLeft_add, shift_shiftLeft poly hone]
    exact ih hfits

/-! ## Symbols -/

variable (bits : ℕ)

/-- The symbols of a window, the first one lowest. -/
def word : List (BitVec width) → ℕ
  | [] => 0
  | symbol :: rest => symbol.toNat + 2 ^ bits * word rest

/-- Symbols that leave the bits above their width clear. -/
def Narrow (symbols : List (BitVec width)) : Prop :=
  ∀ symbol ∈ symbols, symbol.toNat < 2 ^ bits

variable {bits}

theorem word_lt {symbols : List (BitVec width)} (hnarrow : Narrow bits symbols) :
    word bits symbols < 2 ^ (bits * symbols.length) := by
  induction symbols with
  | nil => exact Nat.one_pos
  | cons symbol rest ih =>
    have hsymbol : symbol.toNat < 2 ^ bits := hnarrow symbol List.mem_cons_self
    have hrest := ih fun later hmem ↦ hnarrow later (List.mem_cons_of_mem symbol hmem)
    calc symbol.toNat + 2 ^ bits * word bits rest
        < 2 ^ bits + 2 ^ bits * word bits rest := Nat.add_lt_add_right hsymbol _
      _ = 2 ^ bits * (word bits rest + 1) := by rw [Nat.mul_add_one, Nat.add_comm]
      _ ≤ 2 ^ bits * 2 ^ (bits * rest.length) := Nat.mul_le_mul_left _ hrest
      _ = 2 ^ (bits * (rest.length + 1)) := by rw [← pow_add, Nat.mul_add_one, Nat.add_comm]

theorem word_injective {first second : List (BitVec width)} (hfirst : Narrow bits first)
    (hsecond : Narrow bits second) (hlength : first.length = second.length)
    (hword : word bits first = word bits second) : first = second := by
  induction first generalizing second with
  | nil => exact (List.length_eq_zero_iff.mp hlength.symm).symm
  | cons symbol rest ih =>
    cases second with
    | nil => cases hlength
    | cons other later =>
      have hsymbol : symbol.toNat < 2 ^ bits := hfirst symbol List.mem_cons_self
      have hother : other.toNat < 2 ^ bits := hsecond other List.mem_cons_self
      rw [word, word] at hword
      have hlow := congrArg (· % 2 ^ bits) hword
      have hhigh := congrArg (· / 2 ^ bits) hword
      simp only [Nat.add_mul_mod_self_left, Nat.mod_eq_of_lt hsymbol,
        Nat.mod_eq_of_lt hother] at hlow
      simp only [Nat.add_mul_div_left _ _ (Nat.two_pow_pos bits), Nat.div_eq_of_lt hsymbol,
        Nat.div_eq_of_lt hother, Nat.zero_add] at hhigh
      have hsame := ih (fun next hmem ↦ hfirst next (List.mem_cons_of_mem symbol hmem))
        (fun next hmem ↦ hsecond next (List.mem_cons_of_mem other hmem))
        (Nat.succ.inj hlength) hhigh
      rw [BitVec.eq_of_toNat_eq hlow, hsame]

/-- Disjoint bits are added without a carry. -/
theorem ofNat_add_mul {symbol : BitVec width} (hsymbol : symbol.toNat < 2 ^ bits) {high : ℕ}
    (hhigh : high * 2 ^ bits < 2 ^ width) :
    BitVec.ofNat width (symbol.toNat + 2 ^ bits * high) =
      symbol ^^^ (BitVec.ofNat width high <<< bits) := by
  have hsmall : high < 2 ^ width :=
    Nat.lt_of_le_of_lt (Nat.le_mul_of_pos_right high (Nat.two_pow_pos bits)) hhigh
  have hofNat : (BitVec.ofNat width high).toNat = high := by
    rw [BitVec.toNat_ofNat, Nat.mod_eq_of_lt hsmall]
  apply BitVec.eq_of_getLsbD_eq
  intro index hindex
  rw [BitVec.getLsbD_xor, BitVec.getLsbD_shiftLeft, BitVec.getLsbD_ofNat, BitVec.getLsbD_ofNat,
    Nat.add_comm, Nat.testBit_two_pow_mul_add high hsymbol, decide_eq_true hindex]
  by_cases hlow : index < bits
  · rw [if_pos hlow, decide_eq_true hlow]
    simp [BitVec.getLsbD]
  · have hclear : symbol.getLsbD index = false := by
      rw [BitVec.getLsbD]
      apply Nat.testBit_lt_two_pow
      exact Nat.lt_of_lt_of_le hsymbol (Nat.pow_le_pow_right (by decide) (Nat.le_of_not_lt hlow))
    have hbelow : index - bits < width := Nat.lt_of_le_of_lt (Nat.sub_le _ _) hindex
    rw [if_neg hlow, decide_eq_false hlow, hclear, decide_eq_true hbelow]
    simp

/-- A window that fits is absorbed as one word. -/
theorem foldl_absorb {symbols : List (BitVec width)} (hnarrow : Narrow bits symbols)
    (hroom : bits * symbols.length ≤ width) (state : BitVec width) :
    symbols.foldl (absorb poly bits) state =
      (shift poly)^[bits * symbols.length] (state ^^^ BitVec.ofNat width (word bits symbols)) := by
  induction symbols generalizing state with
  | nil =>
    rw [word, BitVec.xor_zero]
    rfl
  | cons symbol rest ih =>
    have hsymbol : symbol.toNat < 2 ^ bits := hnarrow symbol List.mem_cons_self
    have hrest : Narrow bits rest := fun later hmem ↦
      hnarrow later (List.mem_cons_of_mem symbol hmem)
    have hlength : bits * (rest.length + 1) = bits * rest.length + bits := Nat.mul_add_one _ _
    rw [List.length_cons, hlength] at hroom
    have hhigh : word bits rest * 2 ^ bits < 2 ^ width := by
      calc word bits rest * 2 ^ bits < 2 ^ (bits * rest.length) * 2 ^ bits :=
            Nat.mul_lt_mul_of_pos_right (word_lt hrest) (Nat.two_pow_pos bits)
        _ = 2 ^ (bits * rest.length + bits) := (pow_add 2 _ _).symm
        _ ≤ 2 ^ width := Nat.pow_le_pow_right (by decide) hroom
    have hsmall : word bits rest < 2 ^ width :=
      Nat.lt_of_le_of_lt (Nat.le_mul_of_pos_right _ (Nat.two_pow_pos bits)) hhigh
    have hofNat : (BitVec.ofNat width (word bits rest)).toNat = word bits rest := by
      rw [BitVec.toNat_ofNat, Nat.mod_eq_of_lt hsmall]
    have hdown : (shift poly)^[bits] (BitVec.ofNat width (word bits rest) <<< bits) =
        BitVec.ofNat width (word bits rest) := by
      apply iterate_shift_shiftLeft
      rw [hofNat]
      exact hhigh
    calc rest.foldl (absorb poly bits) (absorb poly bits state symbol)
        = (shift poly)^[bits * rest.length] ((shift poly)^[bits] (state ^^^ symbol) ^^^
            BitVec.ofNat width (word bits rest)) := ih hrest (by omega) _
      _ = (shift poly)^[bits * rest.length] ((shift poly)^[bits] (state ^^^ symbol ^^^
            (BitVec.ofNat width (word bits rest) <<< bits))) := by
          rw [iterate_shift_xor poly bits (state ^^^ symbol)
            (BitVec.ofNat width (word bits rest) <<< bits), hdown]
      _ = (shift poly)^[bits * (rest.length + 1)] (state ^^^
            BitVec.ofNat width (symbol.toNat + 2 ^ bits * word bits rest)) := by
          rw [ofNat_add_mul hsymbol hhigh, hlength, Function.iterate_add_apply, BitVec.xor_assoc]

section Burst

variable (hpoly : poly.msb = true)

include hpoly

theorem iterate_shift_injective (count : ℕ) : Function.Injective (shift poly)^[count] :=
  (shift_injective poly hpoly).iterate count

theorem foldl_absorb_injective (symbols : List (BitVec width)) :
    Function.Injective fun state ↦ symbols.foldl (absorb poly bits) state := by
  induction symbols with
  | nil => exact Function.injective_id
  | cons symbol rest ih =>
    intro first second hsame
    have hstep : absorb poly bits first symbol = absorb poly bits second symbol := ih hsame
    have hxor := iterate_shift_injective poly hpoly bits hstep
    exact (BitVec.xor_left_inj symbol).mp hxor

/-- Inputs that differ in one window end in different states. -/
theorem burst_detected {window other : List (BitVec width)} (hwindow : Narrow bits window)
    (hother : Narrow bits other) (hlength : window.length = other.length)
    (hroom : bits * window.length ≤ width) (hne : window ≠ other) (state : BitVec width)
    (before after : List (BitVec width)) :
    (before ++ window ++ after).foldl (absorb poly bits) state ≠
      (before ++ other ++ after).foldl (absorb poly bits) state := by
  intro hsame
  rw [List.foldl_append, List.foldl_append, List.foldl_append, List.foldl_append] at hsame
  have hwindows := foldl_absorb_injective poly hpoly after hsame
  rw [foldl_absorb poly hwindow hroom, foldl_absorb poly hother (hlength ▸ hroom), hlength]
    at hwindows
  have hwords := (BitVec.xor_right_inj _).mp (iterate_shift_injective poly hpoly _ hwindows)
  have hbound : 2 ^ (bits * window.length) ≤ 2 ^ width := Nat.pow_le_pow_right (by decide) hroom
  have hfirst := Nat.lt_of_lt_of_le (word_lt hwindow) hbound
  have hsecond := Nat.lt_of_lt_of_le (word_lt hother) (hlength ▸ hbound)
  apply hne
  apply word_injective hwindow hother hlength
  have htoNat := congrArg BitVec.toNat hwords
  rw [BitVec.toNat_ofNat, BitVec.toNat_ofNat, Nat.mod_eq_of_lt hfirst,
    Nat.mod_eq_of_lt hsecond] at htoNat
  exact htoNat

end Burst

end BtDaemon.ShiftRegister
