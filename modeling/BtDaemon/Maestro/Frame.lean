import BtDaemon.Maestro.Packet

/-!
# Maestro frames

Each packet is carried in an HDLC U-frame: `7e address control(03) packet crc32(le) 7e`, where 7d
and 7e inside the frame are sent as 7d and the byte with one bit flipped. The address is a varint
of its own kind. A closing flag may also open the next frame.
-/

namespace BtDaemon.Maestro

open Framing (DelimitedFrames Stuffing maxFrame)

def flag : UInt8 := 0x7e
def escapeByte : UInt8 := 0x7d
def escapeMask : UInt8 := 0x20
def unnumberedInformation : UInt8 := 0x03

/-- One bit of the CRC. -/
def crcBit (crc : UInt32) : UInt32 :=
  if crc &&& 1 = 0 then crc >>> 1 else (crc >>> 1) ^^^ 0xedb88320

def crcByte (crc : UInt32) (byte : UInt8) : UInt32 :=
  (List.range 8).foldl (fun crc _ ↦ crcBit crc) (crc ^^^ byte.toUInt32)

/-- Bitwise CRC-32 (IEEE, reflected), as used by pw_hdlc. -/
def crc32 (bytes : List UInt8) : UInt32 :=
  ~~~(bytes.foldl crcByte (~~~0))

theorem toNat_address_shift (address : UInt32) : (address >>> 7).toNat = address.toNat / 128 := by
  rw [UInt32.toNat_shiftRight]
  exact Nat.shiftRight_eq_div_pow address.toNat 7

/-- HDLC addresses use 7 bits per byte, shifted left; bit 0 marks the last byte. -/
def putAddress (address : UInt32) : List UInt8 :=
  if address >>> 7 ≠ 0 then ((address &&& 0x7f).toUInt8 <<< 1) :: putAddress (address >>> 7)
  else [(address.toUInt8 <<< 1) ||| 1]
termination_by address.toNat
decreasing_by
  next hmore =>
  have hpos : (address >>> 7).toNat ≠ 0 := fun hzero ↦ hmore (UInt32.toNat_inj.mp hzero)
  rw [toNat_address_shift] at hpos ⊢
  omega

/-- What the checksum is about. -/
def content (address : UInt32) (data : List UInt8) : List UInt8 :=
  putAddress address ++ [unnumberedInformation] ++ data

def body (address : UInt32) (data : List UInt8) : List UInt8 :=
  content address data ++ Endian.toLe 4 (crc32 (content address data)).toNat

def encodeFrame (address : UInt32) (data : List UInt8) : List UInt8 :=
  Framing.escape (body address data) (flag, flag) escapeByte fun byte ↦ byte ^^^ escapeMask

/-- `{byte:02x}` -/
def hexByte (byte : UInt8) : String :=
  String.ofList [Nat.digitChar (byte.toNat / 16), Nat.digitChar (byte.toNat % 16)]

/-- What stands in front of the checksum. -/
def decodeContent (content : List UInt8) : Except String Packet :=
  match content.findIdx? fun byte ↦ byte &&& 1 = 1 with
  | none => .error "Maestro frame address is unterminated"
  | some addressLength =>
    match content.drop (addressLength + 1) with
    | [] => .error "Maestro frame has no control byte"
    | control :: packet =>
      if control = unnumberedInformation then decodePacket packet
      else .error ("unsupported Maestro HDLC control 0x" ++ hexByte control)

/-- The checks on an unescaped body. -/
def decodeBody (body : List UInt8) : Except String Packet :=
  if body.length < 6 then .error "Maestro frame is truncated"
  else
    let content := body.take (body.length - 4)
    let received := body.drop (body.length - 4)
    if crc32 content ≠ .ofNat (Endian.ofLe received) then .error "Maestro frame checksum mismatch"
    else decodeContent content

def decodeFrame (escaped : List UInt8) : Except String Packet := do
  let body ← Framing.context (Framing.unescape escapeByte (fun byte ↦ byte ^^^ escapeMask)
    escaped) "decode Maestro frame escaping"
  decodeBody body

/-- Splits the byte stream on flags; a closing flag may also open the next frame. -/
def frameDecoder : Transducer DelimitedFrames UInt8 (Except String Packet) :=
  DelimitedFrames.decoder (flag, flag) "Maestro" decodeFrame

def stuffing : Stuffing where
  markers := (flag, flag)
  escapeByte := escapeByte
  encode byte := byte ^^^ escapeMask
  decode byte := byte ^^^ escapeMask
  escape_ne := by decide
  encode_ne byte hbyte := by
    simp only [List.mem_cons, List.not_mem_nil, or_false] at hbyte
    rcases hbyte with rfl | rfl | rfl <;> decide
  decode_encode byte hbyte := by
    simp only [List.mem_cons, List.not_mem_nil, or_false] at hbyte
    rcases hbyte with rfl | rfl | rfl <;> decide

/-! ## Addresses -/

theorem low_eq_one (byte : UInt8) : byte &&& 1 = 1 ↔ byte.toNat % 2 = 1 := by
  rw [← UInt8.toNat_inj, UInt8.toNat_and]
  change byte.toNat &&& 1 = 1 ↔ _
  rw [Nat.and_one_is_mod]

theorem toNat_shifted (byte : UInt8) : (byte <<< 1).toNat % 2 = 0 := by
  rw [UInt8.toNat_shiftLeft]
  change (byte.toNat <<< 1) % 2 ^ 8 % 2 = 0
  rw [Nat.shiftLeft_eq]
  omega

theorem toNat_shifted_or (byte : UInt8) : ((byte <<< 1) ||| 1).toNat % 2 = 1 := by
  have hor : ((byte <<< 1).toNat ||| 1) % 2 ^ 1 = (byte <<< 1).toNat % 2 ^ 1 ||| 1 % 2 ^ 1 :=
    Nat.or_mod_two_pow
  have hlow : (byte <<< 1).toNat % 2 ^ 1 = 0 := toNat_shifted byte
  rw [hlow] at hor
  rw [UInt8.toNat_or]
  exact hor

/-- Only the last byte of an address has bit 0 set. -/
theorem putAddress_shape (address : UInt32) : ∃ front last, putAddress address = front ++ [last] ∧
    (∀ byte ∈ front, byte &&& 1 ≠ 1) ∧ last &&& 1 = 1 := by
  induction hvalue : address.toNat using Nat.strongRecOn generalizing address with
  | ind value ih =>
    rw [putAddress]
    split
    · next hmore =>
      have hpos : (address >>> 7).toNat ≠ 0 := fun hzero ↦ hmore (UInt32.toNat_inj.mp hzero)
      have hsmaller : (address >>> 7).toNat < value := by
        rw [toNat_address_shift] at hpos ⊢
        omega
      obtain ⟨front, last, hput, hfront, hlast⟩ := ih _ hsmaller (address >>> 7) rfl
      refine ⟨_ :: front, last, by rw [hput]; rfl, ?_, hlast⟩
      intro byte hmem
      rcases List.mem_cons.mp hmem with rfl | hlater
      · rw [ne_eq, low_eq_one, toNat_shifted]
        decide
      · exact hfront byte hlater
    · refine ⟨[], _, rfl, fun byte hmem ↦ absurd hmem List.not_mem_nil, ?_⟩
      rw [low_eq_one]
      exact toNat_shifted_or _

/-! ## Reading a body back -/

theorem decodeContent_content (address : UInt32) (data : List UInt8) :
    decodeContent (content address data) = decodePacket data := by
  obtain ⟨front, last, hput, hfront, hlast⟩ := putAddress_shape address
  have hcontent : content address data = front ++ last :: unnumberedInformation :: data := by
    rw [content, hput, List.append_assoc, List.append_assoc]
    rfl
  have hindex : (front ++ last :: unnumberedInformation :: data).findIdx?
      (fun byte ↦ byte &&& 1 = 1) = some front.length := by
    have hnone : front.findIdx? (fun byte ↦ byte &&& 1 = 1) = none := by
      apply List.findIdx?_eq_none_iff.mpr
      intro byte hmem
      exact decide_eq_false (hfront byte hmem)
    rw [List.findIdx?_append, hnone, List.findIdx?_cons, decide_eq_true hlast]
    simp
  have hdrop : (front ++ last :: unnumberedInformation :: data).drop (front.length + 1) =
      unnumberedInformation :: data := by
    rw [← List.drop_drop, List.drop_left]
    rfl
  rw [decodeContent, hcontent, hindex]
  simp only [hdrop, if_true]

theorem decodeBody_append {front received : List UInt8} (hfront : 2 ≤ front.length)
    (hreceived : received.length = 4) :
    decodeBody (front ++ received) =
      if crc32 front ≠ .ofNat (Endian.ofLe received) then .error "Maestro frame checksum mismatch"
      else decodeContent front := by
  have hlength : (front ++ received).length - 4 = front.length := by
    rw [List.length_append, hreceived]
    omega
  have hlong : ¬(front ++ received).length < 6 := by
    rw [List.length_append, hreceived]
    omega
  rw [decodeBody, if_neg hlong, hlength, List.take_left, List.drop_left]

theorem two_le_content (address : UInt32) (data : List UInt8) :
    2 ≤ (content address data).length := by
  obtain ⟨front, last, hput, -, -⟩ := putAddress_shape address
  rw [content, hput]
  simp only [List.length_append, List.length_singleton]
  omega

theorem decodeBody_body (address : UInt32) (data : List UInt8) :
    decodeBody (body address data) = decodePacket data := by
  have hcrc : UInt32.ofNat (Endian.ofLe (Endian.toLe 4 (crc32 (content address data)).toNat)) =
      crc32 (content address data) := by
    have hbound := (crc32 (content address data)).toNat_lt
    apply UInt32.toNat_inj.mp
    rw [Endian.ofLe_toLe, UInt32.toNat_ofNat']
    omega
  rw [body, decodeBody_append (two_le_content address data) (Endian.length_toLe 4 _), hcrc,
    if_neg (not_not.mpr rfl), decodeContent_content]

theorem decodeFrame_eq {escaped bytes : List UInt8}
    (hbytes : stuffing.unescape escaped = .ok bytes) : decodeFrame escaped = decodeBody bytes := by
  have hunescape : Framing.unescape escapeByte (fun byte ↦ byte ^^^ escapeMask) escaped =
      .ok bytes := hbytes
  rw [decodeFrame, hunescape]
  rfl

/-- Every body is read back after escaping. -/
theorem decodeFrame_stuff (bytes : List UInt8) :
    decodeFrame (stuffing.stuff bytes) = decodeBody bytes := by
  apply decodeFrame_eq
  exact stuffing.unescape_stuff bytes

/-! ## The wire -/

/-- What may stand behind a flag: more flags, and frames that share their opening flag with what
stands in front of them. -/
inductive Follows : List UInt8 → List (UInt32 × Packet) → Prop
  | nil : Follows [] []
  | flag {rest : List UInt8} {sent : List (UInt32 × Packet)} (hrest : Follows rest sent) :
      Follows (Maestro.flag :: rest) sent
  | frame {address : UInt32} {packet : Packet} {rest : List UInt8}
      {sent : List (UInt32 × Packet)}
      (hfits : (stuffing.stuff (body address (encodePacket packet))).length ≤ maxFrame - 1)
      (hrest : Follows rest sent) :
      Follows ((encodeFrame address (encodePacket packet)).tail ++ rest) ((address, packet) :: sent)

/-- A byte stream of encoded frames, after any noise without flags. -/
inductive Sent : List UInt8 → List (UInt32 × Packet) → Prop
  | noise {noise : List UInt8} (hnoise : flag ∉ noise) : Sent noise []
  | frames {noise : List UInt8} (hnoise : flag ∉ noise) {rest : List UInt8}
      {sent : List (UInt32 × Packet)} (hrest : Follows rest sent) :
      Sent (noise ++ flag :: rest) sent

theorem encodeFrame_eq (address : UInt32) (data : List UInt8) :
    encodeFrame address data = flag :: (stuffing.stuff (body address data) ++ [flag]) :=
  stuffing.escape_eq (body address data)

theorem decode_sent {address : UInt32} {packet : Packet}
    (hfits : (stuffing.stuff (body address (encodePacket packet))).length ≤ maxFrame - 1) :
    decodeFrame (stuffing.stuff (body address (encodePacket packet))) = .ok packet := by
  have hstuff := stuffing.length_le_stuff (body address (encodePacket packet))
  have hpayload := payload_le_encodePacket packet
  have hpacket : (encodePacket packet).length ≤ (body address (encodePacket packet)).length := by
    simp only [body, content, List.length_append]
    omega
  have hlength : packet.payload.length < 2 ^ 64 := by
    rw [maxFrame] at hfits
    omega
  rw [decodeFrame_stuff, decodeBody_body, decodePacket_encodePacket hlength]

theorem stuff_ne_nil (address : UInt32) (data : List UInt8) :
    stuffing.stuff (body address data) ≠ [] := by
  intro hnil
  have hstuff := stuffing.length_le_stuff (body address data)
  have hcontent := two_le_content address data
  have hbody : (content address data).length ≤ (body address data).length := by
    rw [body, List.length_append]
    exact Nat.le_add_right _ _
  rw [hnil, List.length_nil] at hstuff
  omega

theorem run_flag : frameDecoder.step ⟨[], true⟩ flag = (⟨[], true⟩, []) := rfl

theorem run_follows {bytes : List UInt8} {sent : List (UInt32 × Packet)}
    (hfollows : Follows bytes sent) :
    frameDecoder.run ⟨[], true⟩ bytes = (⟨[], true⟩, sent.map fun pair ↦ .ok pair.2) := by
  induction hfollows with
  | nil => rfl
  | flag hrest ih =>
    rw [Transducer.run_cons, run_flag, ih]
    rfl
  | @frame address packet rest sent hfits hrest ih =>
    have hfree := stuffing.free_stuff (body address (encodePacket packet))
    have hending := @DelimitedFrames.run_ending _ (flag, flag) "Maestro" decodeFrame _
      (fun byte hmem ↦ (hfree byte hmem).2) hfits
    rw [DelimitedFrames.frames, if_pos (Or.inr (stuff_ne_nil address _)), decode_sent hfits]
      at hending
    rw [encodeFrame_eq, List.tail_cons]
    exact Transducer.run_trans _ hending ih

theorem run_noise {noise : List UInt8} (hnoise : flag ∉ noise) :
    frameDecoder.run DelimitedFrames.init noise = (DelimitedFrames.init, []) := by
  apply DelimitedFrames.run_noise
  rintro _ hmem rfl
  exact hnoise hmem

/-- The packets that were sent are the ones that are delivered, however the stream is cut. -/
theorem packets_eq_sent {wire : List UInt8} {sent : List (UInt32 × Packet)} (hsent : Sent wire sent)
    {chunks : List (List UInt8)} (hchunks : chunks.flatten = wire) :
    (frameDecoder.runChunks DelimitedFrames.init chunks).2 = sent.map fun pair ↦ .ok pair.2 := by
  rw [Transducer.runChunks_eq, hchunks]
  cases hsent with
  | noise hnoise => rw [run_noise hnoise]; rfl
  | frames hnoise hrest =>
    have hopen : frameDecoder.step DelimitedFrames.init flag = (⟨[], true⟩, []) := rfl
    rw [Transducer.run_append, run_noise hnoise, Transducer.run_cons, hopen, run_follows hrest]
    rfl

theorem default_fits :
    (stuffing.stuff (body 0 (encodePacket Packet.default))).length ≤ maxFrame - 1 := by
  have hstuff := stuffing.length_stuff_le (body 0 (encodePacket Packet.default))
  have haddress : putAddress 0 = [1] := by
    rw [putAddress]
    rfl
  have hcontent : content 0 (encodePacket Packet.default) = [1, 3] := by
    rw [content, haddress]
    rfl
  have hbody : (body 0 (encodePacket Packet.default)).length = 6 := by
    rw [body, hcontent, List.length_append, Endian.length_toLe]
    rfl
  rw [hbody] at hstuff
  exact Nat.le_trans hstuff (by decide)

/-- Two frames that share a flag, behind noise and an idle flag. -/
theorem packets_eq_sent_shared :
    (frameDecoder.runChunks DelimitedFrames.init
      [[0xaa, flag], encodeFrame 0 (encodePacket Packet.default),
        (encodeFrame 0 (encodePacket Packet.default)).tail]).2 =
      [.ok Packet.default, .ok Packet.default] := by
  have hlast := Follows.frame default_fits Follows.nil
  have hfollows := Follows.flag (Follows.frame default_fits hlast)
  have hnoise : flag ∉ [(0xaa : UInt8)] := by decide
  apply packets_eq_sent (Sent.frames hnoise hfollows)
  rw [encodeFrame_eq]
  simp only [List.flatten_cons, List.flatten_nil, List.tail_cons, List.append_assoc,
    List.cons_append, List.nil_append]

end BtDaemon.Maestro
