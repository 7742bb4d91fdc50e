import BtDaemon.Foundation.Transducer

/-!
# Byte stuffing and delimiters

A body is stuffed so that the delimiters and the escape byte do not occur in it, and put between
two delimiters. The receiver collects the bytes between two delimiters and hands them to a
decoder. A start and an end delimiter may be the same byte; then the end of a frame is also the
start of the next one.
-/

namespace BtDaemon.Framing

/-- `Result::context`: the text that is added last is the one that is shown. -/
def context {Value : Type} (result : Except String Value) (message : String) :
    Except String Value :=
  result.mapError fun _ ↦ message

/-- The opening delimiter and the encoded body; the closing delimiter is not counted. -/
def maxFrame : ℕ := 4096

/-- The bytes of a stuffed body, without the delimiters. -/
def stuff (markers : UInt8 × UInt8) (escapeByte : UInt8) (encode : UInt8 → UInt8)
    (body : List UInt8) : List UInt8 :=
  body.flatMap fun byte ↦
    if byte ∈ [markers.1, markers.2, escapeByte] then [escapeByte, encode byte] else [byte]

def escape (body : List UInt8) (markers : UInt8 × UInt8) (escapeByte : UInt8)
    (encode : UInt8 → UInt8) : List UInt8 :=
  markers.1 :: stuff markers escapeByte encode body ++ [markers.2]

def unescape (escapeByte : UInt8) (decode : UInt8 → UInt8) :
    List UInt8 → Except String (List UInt8)
  | [] => .ok []
  | byte :: rest =>
    if byte = escapeByte then
      match rest with
      | [] => .error "frame ends inside an escape"
      | escaped :: rest => (unescape escapeByte decode rest).map (decode escaped :: ·)
    else (unescape escapeByte decode rest).map (byte :: ·)

theorem unescape_escaped (escapeByte : UInt8) (decode : UInt8 → UInt8) (escaped : UInt8)
    (rest : List UInt8) : unescape escapeByte decode (escapeByte :: escaped :: rest) =
      (unescape escapeByte decode rest).map (decode escaped :: ·) := by
  rw [unescape, if_pos rfl]

theorem unescape_plain {escapeByte byte : UInt8} (hplain : byte ≠ escapeByte)
    (decode : UInt8 → UInt8) (rest : List UInt8) :
    unescape escapeByte decode (byte :: rest) =
      (unescape escapeByte decode rest).map (byte :: ·) := by
  rw [unescape.eq_def]
  exact if_neg hplain

structure DelimitedFrames where
  body : List UInt8
  isOpen : Bool
  deriving DecidableEq, Repr

namespace DelimitedFrames

def init : DelimitedFrames := ⟨[], false⟩

section Push

variable {Message : Type} (markers : UInt8 × UInt8) (label : String)
  (decode : List UInt8 → Except String Message)

def tooLong : String := label ++ " frame exceeds 4096 bytes"

/-- One turn of the loop of `push`. -/
def pushByte (self : DelimitedFrames) (byte : UInt8) :
    DelimitedFrames × List (Except String Message) :=
  if self.isOpen then
    if byte = markers.2 then
      (⟨[], decide (markers.1 = markers.2)⟩,
        if markers.1 ≠ markers.2 ∨ self.body ≠ [] then [decode self.body] else [])
    else if self.body.length ≥ maxFrame - 1 then (⟨[], false⟩, [.error (tooLong label)])
    else (⟨self.body ++ [byte], true⟩, [])
  else ({ self with isOpen := decide (byte = markers.1) }, [])

def decoder : Transducer DelimitedFrames UInt8 (Except String Message) :=
  ⟨pushByte markers label decode⟩

def push (self : DelimitedFrames) (bytes : List UInt8) :
    DelimitedFrames × List (Except String Message) :=
  (decoder markers label decode).run self bytes

end Push

end DelimitedFrames

/-! ## Stuffing -/

/-- A choice of delimiters and of an escape that keeps them out of a body. -/
structure Stuffing where
  markers : UInt8 × UInt8
  escapeByte : UInt8
  encode : UInt8 → UInt8
  decode : UInt8 → UInt8
  escape_ne : escapeByte ≠ markers.1 ∧ escapeByte ≠ markers.2
  encode_ne : ∀ byte ∈ [markers.1, markers.2, escapeByte],
    encode byte ≠ markers.1 ∧ encode byte ≠ markers.2
  decode_encode : ∀ byte ∈ [markers.1, markers.2, escapeByte], decode (encode byte) = byte

namespace Stuffing

variable (self : Stuffing)

def stuff (body : List UInt8) : List UInt8 :=
  Framing.stuff self.markers self.escapeByte self.encode body

def unescape (bytes : List UInt8) : Except String (List UInt8) :=
  Framing.unescape self.escapeByte self.decode bytes

/-- A byte string that has no delimiter. -/
def Free (bytes : List UInt8) : Prop :=
  ∀ byte ∈ bytes, byte ≠ self.markers.1 ∧ byte ≠ self.markers.2

theorem stuff_cons (byte : UInt8) (body : List UInt8) :
    self.stuff (byte :: body) =
      (if byte ∈ [self.markers.1, self.markers.2, self.escapeByte] then
        [self.escapeByte, self.encode byte] else [byte]) ++ self.stuff body := by
  rw [stuff, Framing.stuff, List.flatMap_cons]
  rfl

theorem free_stuff (body : List UInt8) : self.Free (self.stuff body) := by
  intro byte hmem
  obtain ⟨source, -, hbyte⟩ := List.mem_flatMap.mp hmem
  split at hbyte
  · next hspecial =>
    rcases List.mem_cons.mp hbyte with rfl | hencoded
    · exact self.escape_ne
    · rw [List.mem_singleton.mp hencoded]
      exact self.encode_ne source hspecial
  · next hplain =>
    rw [List.mem_singleton.mp hbyte]
    simp only [List.mem_cons, List.not_mem_nil, or_false, not_or] at hplain
    exact ⟨hplain.1, hplain.2.1⟩

theorem length_le_stuff (body : List UInt8) : body.length ≤ (self.stuff body).length := by
  induction body with
  | nil => exact Nat.zero_le _
  | cons byte rest ih =>
    rw [stuff_cons, List.length_append, List.length_cons]
    split
    · rw [List.length_cons, List.length_singleton]
      omega
    · rw [List.length_singleton]
      omega

theorem length_stuff_le (body : List UInt8) : (self.stuff body).length ≤ 2 * body.length := by
  induction body with
  | nil => exact Nat.le_refl 0
  | cons byte rest ih =>
    rw [stuff_cons, List.length_append, List.length_cons]
    split
    · rw [List.length_cons, List.length_singleton]
      omega
    · rw [List.length_singleton]
      omega

/-- What was stuffed is read back, for every body. -/
theorem unescape_stuff (body : List UInt8) : self.unescape (self.stuff body) = .ok body := by
  induction body with
  | nil => rfl
  | cons byte rest ih =>
    rw [unescape] at ih
    rw [unescape, stuff_cons]
    split
    · next hspecial =>
      rw [List.cons_append, List.cons_append, List.nil_append, unescape_escaped, ih, Except.map,
        self.decode_encode byte hspecial]
    · next hplain =>
      have hne : byte ≠ self.escapeByte := by
        rintro rfl
        simp at hplain
      rw [List.cons_append, List.nil_append, unescape_plain hne, ih, Except.map]

theorem escape_eq (body : List UInt8) :
    escape body self.markers self.escapeByte self.encode =
      self.markers.1 :: self.stuff body ++ [self.markers.2] := rfl

end Stuffing

/-! ## What one byte does -/

namespace DelimitedFrames

section Push

variable {Message : Type} (markers : UInt8 × UInt8) (label : String)
  (decode : List UInt8 → Except String Message)

/-- The state behind an end delimiter. -/
def ended : DelimitedFrames := ⟨[], decide (markers.1 = markers.2)⟩

/-- What is put out for a body; between two shared delimiters nothing is idle. -/
def frames (body : List UInt8) : List (Except String Message) :=
  if markers.1 ≠ markers.2 ∨ body ≠ [] then [decode body] else []

theorem pushByte_closed (body : List UInt8) (byte : UInt8) :
    pushByte markers label decode ⟨body, false⟩ byte =
      (⟨body, decide (byte = markers.1)⟩, []) := rfl

theorem pushByte_end (body : List UInt8) :
    pushByte markers label decode ⟨body, true⟩ markers.2 =
      (ended markers, frames markers decode body) := by
  simp only [pushByte, if_true]
  rfl

variable {markers} {byte : UInt8} (hbyte : byte ≠ markers.2)

include hbyte

theorem pushByte_full {body : List UInt8} (hfull : body.length ≥ maxFrame - 1) :
    pushByte markers label decode ⟨body, true⟩ byte = (init, [.error (tooLong label)]) := by
  simp only [pushByte, if_true, if_neg hbyte, if_pos hfull]
  rfl

theorem pushByte_body {body : List UInt8} (hroom : body.length < maxFrame - 1) :
    pushByte markers label decode ⟨body, true⟩ byte = (⟨body ++ [byte], true⟩, []) := by
  have hnot : ¬body.length ≥ maxFrame - 1 := by omega
  simp only [pushByte, if_true, if_neg hbyte, if_neg hnot]

end Push

/-! ## Whole frames -/

section Frames

variable {Message : Type} {markers : UInt8 × UInt8} (label : String)
  (decode : List UInt8 → Except String Message)

/-- Between frames everything but a start delimiter is ignored. -/
theorem run_noise {noise : List UInt8} (hnoise : ∀ byte ∈ noise, byte ≠ markers.1) :
    (decoder markers label decode).run init noise = (init, []) := by
  apply Transducer.run_ignored
  intro byte hmem
  change pushByte markers label decode ⟨[], false⟩ byte = _
  rw [pushByte_closed, decide_eq_false (hnoise byte hmem)]
  rfl

theorem run_body {body bytes : List UInt8} (hfree : ∀ byte ∈ bytes, byte ≠ markers.2)
    (hroom : body.length + bytes.length ≤ maxFrame - 1) :
    (decoder markers label decode).run ⟨body, true⟩ bytes = (⟨body ++ bytes, true⟩, []) := by
  induction bytes generalizing body with
  | nil => rw [Transducer.run_nil, List.append_nil]
  | cons byte rest ih =>
    have hstep : (decoder markers label decode).step ⟨body, true⟩ byte =
        (⟨body ++ [byte], true⟩, []) := by
      apply pushByte_body label decode (hfree byte List.mem_cons_self)
      rw [List.length_cons] at hroom
      omega
    have hrest := @ih (body ++ [byte]) (fun later hmem ↦ hfree later (List.mem_cons_of_mem _ hmem))
      (by rw [List.length_append, List.length_singleton]; rw [List.length_cons] at hroom; omega)
    rw [Transducer.run_cons, hstep, hrest, List.append_assoc]
    rfl

/-- A body that fits and its end delimiter, behind a start delimiter. -/
theorem run_ending {bytes : List UInt8} (hfree : ∀ byte ∈ bytes, byte ≠ markers.2)
    (hroom : bytes.length ≤ maxFrame - 1) :
    (decoder markers label decode).run ⟨[], true⟩ (bytes ++ [markers.2]) =
      (ended markers, frames markers decode bytes) := by
  have hbody := @run_body _ _ label decode [] _ hfree (by simpa using hroom)
  have hend : (decoder markers label decode).run ⟨[] ++ bytes, true⟩ [markers.2] =
      (ended markers, frames markers decode bytes) := by
    rw [Transducer.run_cons, Transducer.run_nil, List.append_nil]
    exact pushByte_end markers label decode bytes
  exact Transducer.run_trans _ hbody hend

/-- A whole frame between frames. -/
theorem run_frame {bytes : List UInt8} (hfree : ∀ byte ∈ bytes, byte ≠ markers.2)
    (hroom : bytes.length ≤ maxFrame - 1) :
    (decoder markers label decode).run init (markers.1 :: bytes ++ [markers.2]) =
      (ended markers, frames markers decode bytes) := by
  have hstart : (decoder markers label decode).step init markers.1 = (⟨[], true⟩, []) := by
    change pushByte markers label decode ⟨[], false⟩ markers.1 = _
    rw [pushByte_closed, decide_eq_true rfl]
  rw [List.cons_append, Transducer.run_cons, hstart, run_ending label decode hfree hroom]
  rfl

end Frames

end DelimitedFrames

end BtDaemon.Framing
