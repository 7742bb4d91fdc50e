import BtDaemon.Framing.Recovery
import BtDaemon.Maestro.Checksum
import BtDaemon.Maestro.Delivery
import BtDaemon.Sony.Protocol

/-!
# What the vendor wires promise

The receivers of both vendors find the next frame behind anything, and no body that differs a
little from one that was sent is accepted.
-/

namespace BtDaemon.VendorChannel.Wire

open Framing (DelimitedFrames maxFrame)
open Reader (Fails)

/-! ## Errors of the decoders -/

/-- Not the report of a Maestro frame that is too long. -/
def Apart (error : String) : Prop :=
  error ≠ DelimitedFrames.tooLong "Maestro"

instance (error : String) : Decidable (Apart error) :=
  inferInstanceAs (Decidable (error ≠ _))

theorem apart_of_head {error : String} (hhead : error.toList.head? ≠ some 'M') : Apart error := by
  rintro rfl
  exact hhead (by decide)

theorem take_fails (length : ℕ) : Fails (Maestro.take length) Apart := by
  intro bytes error hread
  rw [Maestro.take] at hread
  split at hread
  · cases hread
  · rw [← Except.error.inj hread]
    exact apart_of_head (by decide)

theorem readVarintLoop_fails (shifts : List ℕ) (value : UInt64) :
    Fails (Maestro.readVarintLoop value shifts) Apart := by
  induction shifts generalizing value with
  | nil =>
    intro bytes error hread
    cases bytes with
    | nil =>
      rw [← Except.error.inj hread]
      exact apart_of_head (by decide)
    | cons last rest =>
      rw [Maestro.readVarintLoop_tenth] at hread
      split at hread
      · cases hread
      · rw [← Except.error.inj hread]
        exact apart_of_head (by decide)
  | cons shift shifts ih =>
    intro bytes error hread
    cases bytes with
    | nil =>
      rw [← Except.error.inj hread]
      exact apart_of_head (by decide)
    | cons byte rest =>
      rw [Maestro.readVarintLoop_next] at hread
      split at hread
      · cases hread
      · exact ih _ rest error hread

theorem checkKey_fails (key : UInt64) (error : String)
    (hcheck : Maestro.checkKey key = .error error) : Apart error := by
  rw [Maestro.checkKey] at hcheck
  split at hcheck
  · split at hcheck
    · cases hcheck
    · rw [← Except.error.inj hcheck]
      exact apart_of_head (by decide)
  · rw [← Except.error.inj hcheck]
    exact apart_of_head (by decide)

theorem readValue_fails (key : UInt32) : Fails (Maestro.readValue key) Apart := by
  have hvarint : Fails Maestro.readVarint Apart := readVarintLoop_fails _ 0
  rw [Maestro.readValue]
  split
  · apply hvarint.checked
    intro value error hcheck
    cases hcheck
  · apply (take_fails 8).checked
    intro value error hcheck
    cases hcheck
  · apply hvarint.followed
    intro length
    apply (take_fails length.toNat).checked
    intro value error hcheck
    cases hcheck
  · apply (take_fails 4).checked
    intro value error hcheck
    cases hcheck
  · intro bytes error hread
    rw [← Except.error.inj hread]
    apply apart_of_head
    simp

theorem fields_fails {bytes : List UInt8} {error : String}
    (hfields : Maestro.fields bytes = .error error) : Apart error := by
  have hfield : Fails Maestro.readField Apart :=
    ((readVarintLoop_fails _ 0).checked checkKey_fails).followed readValue_fails
  exact Maestro.fieldParser.readAll_error hfield (Loop.map_eq_error.mp hfields)

theorem decodePacket_fails {bytes : List UInt8} {error : String}
    (hdecode : Maestro.decodePacket bytes = .error error) : Apart error := by
  rcases Loop.bind_eq_error.mp hdecode with hfields | ⟨found, -, hloop⟩
  · exact fields_fails hfields
  · obtain ⟨packet, field, -, hfailed⟩ := Loop.failed_of_foldlM hloop
    by_cases hlarge : Maestro.Oversized field
    · rw [Maestro.setField_of_oversized packet hlarge] at hfailed
      rw [← Except.error.inj hfailed]
      exact apart_of_head (by decide)
    · rw [Maestro.setField_of_fits packet hlarge] at hfailed
      cases hfailed

theorem decodeContent_fails {content : List UInt8} {error : String}
    (hdecode : Maestro.decodeContent content = .error error) : Apart error := by
  rw [Maestro.decodeContent] at hdecode
  split at hdecode
  · rw [← Except.error.inj hdecode]
    decide
  · split at hdecode
    · rw [← Except.error.inj hdecode]
      decide
    · split at hdecode
      · exact decodePacket_fails hdecode
      · rw [← Except.error.inj hdecode]
        apply apart_of_head
        simp

/-- No frame is so bad that it is reported as too long. -/
theorem maestro_apart (bytes : List UInt8) :
    Maestro.decodeFrame bytes ≠ .error (DelimitedFrames.tooLong "Maestro") := by
  intro hdecode
  have happart : ∀ error, Maestro.decodeFrame bytes = .error error → Apart error := by
    intro error herror
    rcases Loop.bind_eq_error.mp herror with hcontext | ⟨body, -, hbody⟩
    · cases hunescape : Framing.unescape Maestro.escapeByte
          (fun byte ↦ byte ^^^ Maestro.escapeMask) bytes with
      | error reason =>
        rw [hunescape] at hcontext
        obtain rfl : "decode Maestro frame escaping" = error := Except.error.inj hcontext
        decide
      | ok body =>
        rw [hunescape] at hcontext
        cases hcontext
    · rw [Maestro.decodeBody] at hbody
      split at hbody
      · rw [← Except.error.inj hbody]
        decide
      · dsimp only at hbody
        split at hbody
        · rw [← Except.error.inj hbody]
          decide
        · exact decodeContent_fails hbody
  exact happart _ hdecode rfl

theorem sony_apart (bytes : List UInt8) :
    Sony.decode bytes ≠ .error (DelimitedFrames.tooLong "Sony") := by
  intro hdecode
  rcases Loop.bind_eq_error.mp hdecode with hcontext | ⟨body, -, hbody⟩
  · cases hunescape : Framing.unescape Sony.escapeByte
        (fun byte ↦ byte ||| ~~~Sony.escapeMask) bytes with
    | error reason =>
      rw [hunescape] at hcontext
      have htext : "decode Sony frame escaping" = DelimitedFrames.tooLong "Sony" :=
        Except.error.inj hcontext
      exact absurd htext (by decide)
    | ok body =>
      rw [hunescape] at hcontext
      cases hcontext
  · rw [Sony.decodeBody] at hbody
    split at hbody
    · exact absurd (Except.error.inj hbody) (by decide)
    · split at hbody
      · dsimp only at hbody
        split at hbody
        · have htext := congrArg (fun text : String ↦ text.toList.take 12) (Except.error.inj hbody)
          simp [DelimitedFrames.tooLong] at htext
        · split at hbody
          · exact absurd (Except.error.inj hbody) (by decide)
          · cases hbody
      · exact absurd (Except.error.inj hbody) (by decide)

/-! ## Recovery -/

/-- A frame body that a receiver would deliver: no delimiters, not too long, accepted. -/
structure Deliverable {Message : Type} (markers : UInt8 × UInt8)
    (decode : List UInt8 → Except String Message) (escaped : List UInt8) (message : Message) :
    Prop where
  free : ∀ byte ∈ escaped, byte ≠ markers.1 ∧ byte ≠ markers.2
  fits : escaped.length ≤ maxFrame - 1
  accepted : decode escaped = .ok message

/-- Behind any bytes a Maestro receiver delivers the next frame and a Sony receiver at least the
second one; neither collects more than a frame, and after a frame that was too long both are
silent until a frame starts. -/
theorem receivers_recover :
    (∀ before escaped packet,
      Deliverable (Maestro.flag, Maestro.flag) Maestro.decodeFrame escaped packet →
      ∃ earlier, (Maestro.frameDecoder.run DelimitedFrames.init
        (before ++ (Maestro.flag :: escaped ++ [Maestro.flag]))).2 = earlier ++ [.ok packet]) ∧
    (∀ before escaped frame,
      Deliverable (Sony.startMarker, Sony.endMarker) Sony.decode escaped frame →
      ∃ earlier, (Sony.frameDecoder.run DelimitedFrames.init
        (before ++ ((Sony.startMarker :: escaped ++ [Sony.endMarker]) ++
          (Sony.startMarker :: escaped ++ [Sony.endMarker])))).2 = earlier ++ [.ok frame]) ∧
    (∀ bytes, (Maestro.frameDecoder.run DelimitedFrames.init bytes).1.body.length < 4096 ∧
      (Sony.frameDecoder.run DelimitedFrames.init bytes).1.body.length < 4096) ∧
    (∀ before byte between,
      .error (DelimitedFrames.tooLong "Maestro") ∈ (Maestro.frameDecoder.step
        (Maestro.frameDecoder.run DelimitedFrames.init before).1 byte).2 →
      Maestro.flag ∉ between →
      (Maestro.frameDecoder.run (Maestro.frameDecoder.run DelimitedFrames.init
        (before ++ [byte])).1 between).2 = []) ∧
    ∀ before byte between,
      .error (DelimitedFrames.tooLong "Sony") ∈ (Sony.frameDecoder.step
        (Sony.frameDecoder.run DelimitedFrames.init before).1 byte).2 →
      Sony.startMarker ∉ between →
      (Sony.frameDecoder.run (Sony.frameDecoder.run DelimitedFrames.init
        (before ++ [byte])).1 between).2 = [] := by
  refine ⟨?_, ?_, ?_, ?_, ?_⟩
  · intro before escaped packet hframe
    have hbounded := @DelimitedFrames.bounded_run _ (Maestro.flag, Maestro.flag) "Maestro"
      Maestro.decodeFrame before
    have hne : escaped ≠ [] := by
      rintro rfl
      cases hframe.accepted
    obtain ⟨earlier, hrun⟩ := DelimitedFrames.run_shared "Maestro" Maestro.decodeFrame rfl hbounded
      hne (fun byte hmem ↦ (hframe.free byte hmem).2) hframe.fits
    rw [hframe.accepted] at hrun
    rw [Transducer.run_append]
    exact ⟨_, (congrArg _ hrun).trans (List.append_assoc _ _ _).symm⟩
  · intro before escaped frame hframe
    have hbounded := @DelimitedFrames.bounded_run _ (Sony.startMarker, Sony.endMarker) "Sony"
      Sony.decode before
    obtain ⟨earlier, hrun⟩ := DelimitedFrames.run_twice "Sony" Sony.decode (by decide) hbounded
      hframe.free hframe.fits
    rw [hframe.accepted] at hrun
    rw [Transducer.run_append]
    exact ⟨_, (congrArg _ hrun).trans (List.append_assoc _ _ _).symm⟩
  · intro bytes
    exact ⟨Nat.lt_succ_of_le (DelimitedFrames.bounded_run "Maestro" _ bytes).fits,
      Nat.lt_succ_of_le (DelimitedFrames.bounded_run "Sony" _ bytes).fits⟩
  · intro before byte between hreport hbetween
    apply DelimitedFrames.run_after_tooLong "Maestro" Maestro.decodeFrame maestro_apart hreport
    rintro _ hmem rfl
    exact hbetween hmem
  · intro before byte between hreport hbetween
    apply DelimitedFrames.run_after_tooLong "Sony" Sony.decode sony_apart hreport
    rintro _ hmem rfl
    exact hbetween hmem

/-- The announcement of the buds behind a frame that was cut off, and a Sony frame with a byte that
must be escaped behind one. -/
theorem receivers_recover_encoded :
    (∃ earlier, (Maestro.frameDecoder.run DelimitedFrames.init ([Maestro.flag, 0x01, 0xaa] ++
      Maestro.encodeFrame 0 (Maestro.encodePacket Maestro.Session.announcement))).2 =
        earlier ++ [.ok Maestro.Session.announcement]) ∧
    ∃ encoded earlier, Sony.encode 0x0c 1 [0x66, 0x01, 0x3e] = .ok encoded ∧
      (Sony.frameDecoder.run DelimitedFrames.init ([Sony.startMarker, 0xaa] ++
        (encoded ++ encoded))).2 = earlier ++ [.ok ⟨0x0c, 1, [0x66, 0x01, 0x3e]⟩] := by
  obtain ⟨hmaestro, hsony, -⟩ := receivers_recover
  constructor
  · rw [Maestro.encodeFrame_eq]
    apply hmaestro
    have hfits : (Maestro.stuffing.stuff (Maestro.body 0
        (Maestro.encodePacket Maestro.Session.announcement))).length ≤ maxFrame - 1 := by
      decide +kernel
    exact ⟨Maestro.stuffing.free_stuff _, hfits, Maestro.decode_sent hfits⟩
  · have hframe : Deliverable (Sony.startMarker, Sony.endMarker) Sony.decode
        (Sony.stuffing.stuff (Sony.body 0x0c 1 [0x66, 0x01, 0x3e])) ⟨0x0c, 1, [0x66, 0x01, 0x3e]⟩ := by
      refine ⟨Sony.stuffing.free_stuff _, by decide +kernel, ?_⟩
      rw [Sony.decode_stuff]
      exact Sony.decodeBody_body (by decide) 0x0c 1
    obtain ⟨earlier, hrun⟩ := hsony [Sony.startMarker, 0xaa] _ _ hframe
    exact ⟨_, earlier, rfl, hrun⟩

/-! ## Corruption -/

/-- A change of up to four consecutive bytes of a Maestro body, or of one byte of a Sony body, is
seen after it was escaped again. -/
theorem corruption_detected :
    (∀ address data before window after other,
      Maestro.body address data = before ++ window ++ after → window.length ≤ 4 →
      window.length = other.length → window ≠ other →
      ∃ error, Maestro.decodeFrame (Maestro.stuffing.stuff (before ++ other ++ after)) =
        .error error) ∧
    ∀ kind sequence payload before old new after,
      Sony.body kind sequence payload = before ++ old :: after → new ≠ old →
      ∃ error, Sony.decode (Sony.stuffing.stuff (before ++ new :: after)) = .error error := by
  constructor
  · intro address data before window after other hbody hwindow hlength hne
    rw [Maestro.decodeFrame_stuff]
    exact Maestro.decodeBody_changed hbody hwindow hlength hne
  · intro kind sequence payload before old new after hbody hne
    rw [Sony.decode_stuff]
    exact Sony.decodeBody_changed hbody hne

/-- The last byte of the announcement and the first bytes of its checksum are changed, and the
length of a Sony frame. -/
theorem corruption_detected_encoded :
    (∃ before after, Maestro.body 0 (Maestro.encodePacket Maestro.Session.announcement) =
      before ++ [0x0f, 0x56, 0xb1] ++ after ∧ ∃ error, Maestro.decodeFrame
        (Maestro.stuffing.stuff (before ++ [0x0e, 0x57, 0xb0] ++ after)) = .error error) ∧
    ∃ before after, Sony.body 0x0c 1 [0x66, 0x01, 0x3e] = before ++ 0x03 :: after ∧
      ∃ error, Sony.decode (Sony.stuffing.stuff (before ++ 0x02 :: after)) = .error error := by
  obtain ⟨hmaestro, hsony⟩ := corruption_detected
  have hbody : Maestro.body 0 (Maestro.encodePacket Maestro.Session.announcement) =
      [0x01, 0x03, 0x08, 0x01, 0x10, 0x1a, 0x1d, 0xea, 0x71, 0xde, 0x7e, 0x25, 0x44, 0xfa, 0x99,
        0x71, 0x2a, 0x02, 0x0a, 0x00, 0x38, 0xff, 0xff, 0xff, 0xff] ++
          [0x0f, 0x56, 0xb1] ++ [0x77, 0x0e] := by
    decide +kernel
  have hframe : Sony.body 0x0c 1 [0x66, 0x01, 0x3e] =
      [0x0c, 0x01, 0x00, 0x00, 0x00] ++ 0x03 :: [0x66, 0x01, 0x3e, 0xb5] := by
    decide
  exact ⟨⟨_, _, hbody, hmaestro _ _ _ _ _ _ hbody (by decide) rfl (by decide)⟩,
    _, _, hframe, hsony _ _ _ _ _ _ _ hframe (by decide)⟩

end BtDaemon.VendorChannel.Wire
