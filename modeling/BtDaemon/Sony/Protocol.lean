import BtDaemon.Foundation.Endian
import BtDaemon.Framing.Delimited

/-!
# Sony frames

A frame is `3e kind seq length(be32) payload checksum 3c`. Bytes 3c, 3d and 3e inside the frame
are sent as 3d and the byte with one bit cleared. The checksum is the byte sum of kind, sequence,
length and payload.
-/

namespace BtDaemon.Sony

open Framing (DelimitedFrames Stuffing maxFrame)

def startMarker : UInt8 := 0x3e
def endMarker : UInt8 := 0x3c
def escapeByte : UInt8 := 0x3d
def escapeMask : UInt8 := 0xef

structure Frame where
  kind : UInt8
  sequence : UInt8
  payload : List UInt8
  deriving DecidableEq, Repr

def checksum (bytes : List UInt8) : UInt8 :=
  bytes.foldl (fun sum byte ↦ sum + byte) 0

/-- What the checksum is about. -/
def content (kind sequence : UInt8) (payload : List UInt8) : List UInt8 :=
  [kind, sequence] ++ Endian.toBe 4 payload.length ++ payload

def body (kind sequence : UInt8) (payload : List UInt8) : List UInt8 :=
  content kind sequence payload ++ [checksum (content kind sequence payload)]

def encode (kind sequence : UInt8) (payload : List UInt8) : Except String (List UInt8) :=
  if payload.length < UInt32.size then
    .ok (Framing.escape (body kind sequence payload) (startMarker, endMarker) escapeByte
      fun byte ↦ byte &&& escapeMask)
  else .error "Sony frame payload is too large"

/-- The checks on an unescaped body. -/
def decodeBody (bytes : List UInt8) : Except String Frame :=
  match bytes.getLast? with
  | none => .error "empty Sony frame"
  | some received =>
    match bytes.dropLast with
    | kind :: sequence :: a :: b :: c :: d :: payload =>
      let length := Endian.ofBe [a, b, c, d]
      if length ≠ payload.length then
        .error ("Sony frame length " ++ toString length ++ " does not match payload " ++
          toString payload.length)
      else if checksum bytes.dropLast ≠ received then .error "Sony frame checksum mismatch"
      else .ok { kind, sequence, payload }
    | _ => .error "Sony frame header is truncated"

def decode (escaped : List UInt8) : Except String Frame := do
  let bytes ← Framing.context (Framing.unescape escapeByte (fun byte ↦ byte ||| ~~~escapeMask)
    escaped) "decode Sony frame escaping"
  decodeBody bytes

/-- Splits the byte stream on start and end markers; bytes outside a frame are noise. -/
def frameDecoder : Transducer DelimitedFrames UInt8 (Except String Frame) :=
  DelimitedFrames.decoder (startMarker, endMarker) "Sony" decode

def stuffing : Stuffing where
  markers := (startMarker, endMarker)
  escapeByte := escapeByte
  encode byte := byte &&& escapeMask
  decode byte := byte ||| ~~~escapeMask
  escape_ne := by decide
  encode_ne byte hbyte := by
    simp only [List.mem_cons, List.not_mem_nil, or_false] at hbyte
    rcases hbyte with rfl | rfl | rfl <;> decide
  decode_encode byte hbyte := by
    simp only [List.mem_cons, List.not_mem_nil, or_false] at hbyte
    rcases hbyte with rfl | rfl | rfl <;> decide

/-! ## The checksum -/

theorem foldl_sum (bytes : List UInt8) (start : UInt8) :
    bytes.foldl (fun sum byte ↦ sum + byte) start = start + checksum bytes := by
  induction bytes generalizing start with
  | nil => exact (UInt8.add_zero start).symm
  | cons byte rest ih =>
    calc rest.foldl (fun sum byte ↦ sum + byte) (start + byte)
        = start + byte + checksum rest := ih (start + byte)
      _ = start + (0 + byte + checksum rest) := by rw [UInt8.zero_add, UInt8.add_assoc]
      _ = start + checksum (byte :: rest) := by rw [← ih (0 + byte)]; rfl

theorem checksum_append (first second : List UInt8) :
    checksum (first ++ second) = checksum first + checksum second := by
  rw [checksum, List.foldl_append, foldl_sum]
  rfl

theorem checksum_cons (byte : UInt8) (rest : List UInt8) :
    checksum (byte :: rest) = byte + checksum rest := by
  apply (foldl_sum rest (0 + byte)).trans
  rw [UInt8.zero_add]

/-! ## Reading a body back -/

theorem decodeBody_append (received : UInt8) (bytes : List UInt8) :
    decodeBody (bytes ++ [received]) =
      match bytes with
      | kind :: sequence :: a :: b :: c :: d :: payload =>
        let length := Endian.ofBe [a, b, c, d]
        if length ≠ payload.length then
          .error ("Sony frame length " ++ toString length ++ " does not match payload " ++
            toString payload.length)
        else if checksum bytes ≠ received then .error "Sony frame checksum mismatch"
        else .ok { kind, sequence, payload }
      | _ => .error "Sony frame header is truncated" := by
  simp only [decodeBody, List.getLast?_append, List.getLast?_singleton, Option.some_or,
    List.dropLast_concat]

theorem decodeBody_body {payload : List UInt8} (hlength : payload.length < UInt32.size)
    (kind sequence : UInt8) :
    decodeBody (body kind sequence payload) = .ok { kind, sequence, payload } := by
  obtain ⟨a, b, c, d, hbe⟩ : ∃ a b c d, Endian.toBe 4 payload.length = [a, b, c, d] :=
    ⟨_, _, _, _, rfl⟩
  have hread : Endian.ofBe [a, b, c, d] = payload.length := by
    rw [← hbe, Endian.ofBe_toBe]
    exact Nat.mod_eq_of_lt hlength
  have hcontent : content kind sequence payload =
      kind :: sequence :: a :: b :: c :: d :: payload := by
    rw [content, hbe]
    rfl
  rw [body, decodeBody_append, hcontent]
  simp only [hread, ne_eq, not_true_eq_false, if_false]

/-- What is accepted ends with its checksum. -/
theorem checksum_of_decodeBody {bytes : List UInt8} {frame : Frame}
    (hdecode : decodeBody bytes = .ok frame) : ∃ front, bytes = front ++ [checksum front] := by
  rcases List.eq_nil_or_concat bytes with rfl | ⟨front, received, rfl⟩
  · cases hdecode
  · refine ⟨front, ?_⟩
    rw [List.concat_eq_append] at hdecode ⊢
    rw [decodeBody_append] at hdecode
    split at hdecode
    · dsimp only at hdecode
      split at hdecode
      · cases hdecode
      · split at hdecode
        · cases hdecode
        · next hsum => rw [not_not.mp hsum]
    · cases hdecode

theorem checksum_change {before after : List UInt8} {old new : UInt8}
    (hsame : checksum (before ++ old :: after) = checksum (before ++ new :: after)) : old = new := by
  rw [checksum_append, checksum_append, checksum_cons, checksum_cons] at hsame
  have hcons := UInt8.add_right_inj (checksum before) |>.mp hsame
  exact UInt8.add_left_inj (checksum after) |>.mp hcons

/-- No body but the one that was sent differs from it in at most one byte and is accepted. -/
theorem decodeBody_changed {front before after : List UInt8} {old new : UInt8}
    (hbody : front ++ [checksum front] = before ++ old :: after) (hne : new ≠ old) :
    ∃ error, decodeBody (before ++ new :: after) = .error error := by
  cases hdecode : decodeBody (before ++ new :: after) with
  | error error => exact ⟨error, rfl⟩
  | ok frame =>
    obtain ⟨other, hother⟩ := checksum_of_decodeBody hdecode
    exfalso
    apply hne
    rcases List.eq_nil_or_concat after with rfl | ⟨later, last, rfl⟩
    · obtain ⟨hfront, hold⟩ := List.append_inj' hbody rfl
      obtain ⟨hbefore, hnew⟩ := List.append_inj' hother rfl
      rw [(List.cons.inj hnew).1, ← (List.cons.inj hold).1, hfront, hbefore]
    · have hassoc : ∀ byte, before ++ byte :: (later ++ [last]) =
          (before ++ byte :: later) ++ [last] := fun byte ↦ by
        rw [List.append_assoc, List.cons_append]
      rw [List.concat_eq_append, hassoc] at hbody hother
      obtain ⟨hfront, hold⟩ := List.append_inj' hbody rfl
      obtain ⟨hbefore, hnew⟩ := List.append_inj' hother rfl
      have hsame : checksum (before ++ old :: later) = checksum (before ++ new :: later) := by
        rw [← hfront, hbefore, (List.cons.inj hold).1, (List.cons.inj hnew).1]
      exact (checksum_change hsame).symm

theorem decode_eq (escaped bytes : List UInt8) (hbytes : stuffing.unescape escaped = .ok bytes) :
    decode escaped = decodeBody bytes := by
  have hunescape : Framing.unescape escapeByte (fun byte ↦ byte ||| ~~~escapeMask) escaped =
      .ok bytes := hbytes
  rw [decode, hunescape]
  rfl

/-- Every body is read back after escaping. -/
theorem decode_stuff (bytes : List UInt8) :
    decode (stuffing.stuff bytes) = decodeBody bytes := by
  apply decode_eq
  exact stuffing.unescape_stuff bytes

/-! ## The wire -/

/-- What encoding gives: the delimiters around the escaped body. -/
theorem encode_eq_ok {kind sequence : UInt8} {payload bytes : List UInt8}
    (hencode : encode kind sequence payload = .ok bytes) :
    payload.length < UInt32.size ∧
      bytes = startMarker :: stuffing.stuff (body kind sequence payload) ++ [endMarker] := by
  rw [encode] at hencode
  split at hencode
  · next hlength =>
    rw [← Except.ok.inj hencode]
    exact ⟨hlength, stuffing.escape_eq (body kind sequence payload)⟩
  · cases hencode

/-- A byte stream of encoded frames with anything but start markers before, between and after. -/
inductive Sent : List UInt8 → List Frame → Prop
  | nil (noise : List UInt8) (hnoise : startMarker ∉ noise) : Sent noise []
  | cons (noise : List UInt8) (hnoise : startMarker ∉ noise) {frame : Frame}
      {bytes : List UInt8} (hencode : encode frame.kind frame.sequence frame.payload = .ok bytes)
      (hfits : (stuffing.stuff (body frame.kind frame.sequence frame.payload)).length ≤
        maxFrame - 1)
      {rest : List UInt8} {frames : List Frame} (hrest : Sent rest frames) :
      Sent (noise ++ bytes ++ rest) (frame :: frames)

theorem run_noise {noise : List UInt8} (hnoise : startMarker ∉ noise) :
    frameDecoder.run DelimitedFrames.init noise = (DelimitedFrames.init, []) := by
  apply DelimitedFrames.run_noise
  rintro _ hmem rfl
  exact hnoise hmem

theorem run_encoded {frame : Frame} {bytes : List UInt8}
    (hencode : encode frame.kind frame.sequence frame.payload = .ok bytes)
    (hfits : (stuffing.stuff (body frame.kind frame.sequence frame.payload)).length ≤
      maxFrame - 1) :
    frameDecoder.run DelimitedFrames.init bytes = (DelimitedFrames.init, [.ok frame]) := by
  obtain ⟨hlength, rfl⟩ := encode_eq_ok hencode
  have hfree := stuffing.free_stuff (body frame.kind frame.sequence frame.payload)
  have hrun := @DelimitedFrames.run_frame _ (startMarker, endMarker) "Sony" decode _
    (fun byte hmem ↦ (hfree byte hmem).2) hfits
  apply hrun.trans
  rw [DelimitedFrames.frames, if_pos (Or.inl (by decide)), decode_stuff,
    decodeBody_body hlength]
  rfl

theorem run_sent {wire : List UInt8} {frames : List Frame} (hsent : Sent wire frames) :
    frameDecoder.run DelimitedFrames.init wire = (DelimitedFrames.init, frames.map .ok) := by
  induction hsent with
  | nil noise hnoise => exact run_noise hnoise
  | cons noise hnoise hencode hfits hrest ih =>
    have hframe := Transducer.run_trans _ (run_noise hnoise) (run_encoded hencode hfits)
    exact Transducer.run_trans _ hframe ih

/-- The frames that were sent are the ones that are delivered, however the stream is cut. -/
theorem frames_eq_sent {wire : List UInt8} {frames : List Frame} (hsent : Sent wire frames)
    {chunks : List (List UInt8)} (hchunks : chunks.flatten = wire) :
    (frameDecoder.runChunks DelimitedFrames.init chunks).2 = frames.map .ok := by
  rw [Transducer.runChunks_eq, hchunks, run_sent hsent]

/-- A start marker in the payload, an end marker as checksum and end markers as noise. -/
theorem frames_eq_sent_markers :
    (frameDecoder.runChunks DelimitedFrames.init
      [[0xaa, 0x3e, 0x0c, 1, 0, 0, 0], [2, 0x3d, 0x2e, 0xef, 0x3d, 0x2c, 0x3c, 0x3c]]).2 =
      [.ok ⟨0x0c, 1, [0x3e, 0xef]⟩] := by
  have hsent : Sent ([0xaa] ++
      [0x3e, 0x0c, 1, 0, 0, 0, 2, 0x3d, 0x2e, 0xef, 0x3d, 0x2c, 0x3c] ++ [0x3c])
      [⟨0x0c, 1, [0x3e, 0xef]⟩] := by
    apply Sent.cons
    · decide
    · rfl
    · decide
    · apply Sent.nil
      decide
  exact frames_eq_sent hsent rfl

end BtDaemon.Sony
