import BtDaemon.Foundation.ShiftRegister
import BtDaemon.Maestro.Frame

/-!
# The Maestro checksum

The loop of the CRC is a shift register of 32 bits that absorbs eight bits at a time. A body ends
with its checksum exactly if the register ends in one fixed state, so that a change of up to four
consecutive bytes anywhere in the body, the checksum included, is seen.
-/

namespace BtDaemon.Maestro

open ShiftRegister (absorb)

def polynomial : BitVec 32 := 0xedb88320

/-- A byte as the register absorbs it. -/
def symbol (byte : UInt8) : BitVec 32 :=
  byte.toUInt32.toBitVec

theorem crcBit_toBitVec (crc : UInt32) :
    (crcBit crc).toBitVec = ShiftRegister.shift polynomial crc.toBitVec := by
  have hlow : crc &&& 1 = 0 ↔ crc.toBitVec.getLsbD 0 = false := by
    rw [← UInt32.toNat_inj, UInt32.toNat_and, BitVec.getLsbD, Nat.testBit_zero]
    change crc.toNat &&& 1 = 0 ↔ decide (crc.toNat % 2 = 1) = false
    rw [Nat.and_one_is_mod, decide_eq_false_iff_not]
    omega
  rw [crcBit, ShiftRegister.shift]
  cases hbit : crc.toBitVec.getLsbD 0 with
  | false =>
    rw [if_pos (hlow.mpr hbit), if_neg Bool.false_ne_true]
    rfl
  | true =>
    have hone : ¬crc &&& 1 = 0 := fun hzero ↦ by
      rw [hlow.mp hzero] at hbit
      cases hbit
    rw [if_neg hone, if_pos rfl]
    rfl

theorem crcByte_toBitVec (crc : UInt32) (byte : UInt8) :
    (crcByte crc byte).toBitVec = absorb polynomial 8 crc.toBitVec (symbol byte) := by
  have hbits : ∀ count (state : UInt32),
      ((List.range count).foldl (fun crc _ ↦ crcBit crc) state).toBitVec =
        (ShiftRegister.shift polynomial)^[count] state.toBitVec := by
    intro count state
    induction count with
    | zero => rfl
    | succ count ih =>
      rw [List.range_succ, List.foldl_append, Function.iterate_succ_apply', ← ih]
      exact crcBit_toBitVec _
  exact hbits 8 (crc ^^^ byte.toUInt32)

theorem foldl_crcByte_toBitVec (bytes : List UInt8) (crc : UInt32) :
    (bytes.foldl crcByte crc).toBitVec =
      (bytes.map symbol).foldl (absorb polynomial 8) crc.toBitVec := by
  induction bytes generalizing crc with
  | nil => rfl
  | cons byte rest ih =>
    rw [List.foldl_cons, ih, crcByte_toBitVec]
    rfl

theorem symbol_toNat (byte : UInt8) : (symbol byte).toNat = byte.toNat :=
  UInt8.toNat_toUInt32 byte

theorem narrow_symbols (bytes : List UInt8) : ShiftRegister.Narrow 8 (bytes.map symbol) := by
  intro element hmem
  obtain ⟨byte, -, rfl⟩ := List.mem_map.mp hmem
  rw [symbol_toNat]
  exact byte.toNat_lt

theorem symbol_injective : Function.Injective symbol := by
  intro first second hsame
  apply UInt8.toNat_inj.mp
  rw [← symbol_toNat, hsame, symbol_toNat]

/-- A word of the register is a little-endian number. -/
theorem word_symbols (bytes : List UInt8) :
    ShiftRegister.word 8 (bytes.map symbol) = Endian.ofLe bytes := by
  induction bytes with
  | nil => rfl
  | cons byte rest ih =>
    rw [List.map_cons, ShiftRegister.word, ih, symbol_toNat]
    rfl

/-! ## Bodies that end with their checksum -/

/-- The state of the register behind a whole body. -/
def register (bytes : List UInt8) : BitVec 32 :=
  (bytes.map symbol).foldl (absorb polynomial 8) (BitVec.allOnes 32)

/-- The state behind every body that ends with its checksum. -/
def residue : BitVec 32 :=
  (ShiftRegister.shift polynomial)^[32] (BitVec.allOnes 32)

theorem register_eq_residue {front received : List UInt8} (hreceived : received.length = 4)
    (hcrc : crc32 front = .ofNat (Endian.ofLe received)) :
    register (front ++ received) = residue := by
  have hlength : (received.map symbol).length = 4 := by rw [List.length_map, hreceived]
  have hones : (~~~(0 : UInt32)).toBitVec = BitVec.allOnes 32 := rfl
  have hstate : ~~~(register front) = BitVec.ofNat 32 (Endian.ofLe received) := by
    have hbits := congrArg UInt32.toBitVec hcrc
    rw [crc32, UInt32.toBitVec_not, foldl_crcByte_toBitVec, hones] at hbits
    exact hbits
  have hxor : register front ^^^ ~~~(register front) = BitVec.allOnes 32 := by
    rw [BitVec.not_def, BitVec.xor_comm, BitVec.xor_assoc, BitVec.xor_self, BitVec.xor_zero]
  calc register (front ++ received)
      = (received.map symbol).foldl (absorb polynomial 8) (register front) := by
        rw [register, List.map_append, List.foldl_append]
        rfl
    _ = (ShiftRegister.shift polynomial)^[32]
          (register front ^^^ BitVec.ofNat 32 (Endian.ofLe received)) := by
        rw [ShiftRegister.foldl_absorb polynomial (narrow_symbols received) (by rw [hlength]),
          hlength, word_symbols]
    _ = residue := by rw [← hstate, hxor, residue]

theorem register_of_decodeBody {bytes : List UInt8} {packet : Packet}
    (hdecode : decodeBody bytes = .ok packet) : register bytes = residue := by
  rw [decodeBody] at hdecode
  split at hdecode
  · cases hdecode
  · next hlong =>
    dsimp only at hdecode
    split at hdecode
    · cases hdecode
    · next hcrc =>
      have hreceived : (bytes.drop (bytes.length - 4)).length = 4 := by
        rw [List.length_drop]
        omega
      have hregister := register_eq_residue hreceived (not_not.mp hcrc)
      rw [List.take_append_drop] at hregister
      exact hregister

theorem register_body (address : UInt32) (data : List UInt8) :
    register (body address data) = residue := by
  apply register_eq_residue (Endian.length_toLe 4 _)
  have hbound := (crc32 (content address data)).toNat_lt
  apply UInt32.toNat_inj.mp
  rw [Endian.ofLe_toLe, UInt32.toNat_ofNat']
  omega

/-- A change of up to four consecutive bytes of a body is seen. -/
theorem decodeBody_changed {address : UInt32} {data before window after other : List UInt8}
    (hbody : body address data = before ++ window ++ after) (hwindow : window.length ≤ 4)
    (hlength : window.length = other.length) (hne : window ≠ other) :
    ∃ error, decodeBody (before ++ other ++ after) = .error error := by
  cases hdecode : decodeBody (before ++ other ++ after) with
  | error error => exact ⟨error, rfl⟩
  | ok packet =>
    have hsame : register (before ++ window ++ after) = register (before ++ other ++ after) := by
      rw [← hbody, register_body, register_of_decodeBody hdecode]
    have hsymbols : window.map symbol ≠ other.map symbol := fun hmap ↦
      hne (List.map_injective_iff.mpr symbol_injective hmap)
    exfalso
    apply ShiftRegister.burst_detected polynomial (by decide) (narrow_symbols window)
      (narrow_symbols other) (by rw [List.length_map, List.length_map, hlength])
      (by rw [List.length_map]; omega) hsymbols (BitVec.allOnes 32) (before.map symbol)
      (after.map symbol)
    rw [← List.map_append, ← List.map_append, ← List.map_append, ← List.map_append]
    exact hsame

end BtDaemon.Maestro
