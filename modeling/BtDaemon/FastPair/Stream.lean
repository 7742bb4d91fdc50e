import BtDaemon.Foundation.Endian
import BtDaemon.Foundation.Loop
import Mathlib.Data.List.Basic

/-!
# The Message Stream

A frame is a group, a code, a big-endian length and a payload. The decoder keeps the bytes of a
frame that is not complete; a length beyond the limit ends the stream. What is delivered before
that depends on the reads: the frames that were completed by the very read that brings the bad
length are lost.
-/

namespace BtDaemon.FastPair.Stream

def maxFramePayload : ℕ := 4096

structure Frame where
  group : UInt8
  code : UInt8
  payload : List UInt8
  deriving DecidableEq, Repr

/-- The header and the payload of a frame. -/
def Frame.bytes (frame : Frame) : List UInt8 :=
  [frame.group, frame.code] ++ Endian.toBe 2 frame.payload.length ++ frame.payload

def encoded (group code : UInt8) (payload : List UInt8) : Except String (List UInt8) :=
  if payload.length < UInt16.size then .ok (Frame.bytes ⟨group, code, payload⟩)
  else .error "Fast Pair frame payload exceeds the protocol length"

def tooLarge (length : ℕ) : String :=
  "Fast Pair frame payload is too large: " ++ toString length

def payloadLen (high low : UInt8) : ℕ :=
  Endian.ofBe [high, low]

/-- The loop of `push`: what stays in the buffer, and the frames unless a length is too large. -/
def drain : List UInt8 → List UInt8 × Except String (List Frame)
  | group :: code :: high :: low :: rest =>
    if payloadLen high low > maxFramePayload then ([], .error (tooLarge (payloadLen high low)))
    else if rest.length < payloadLen high low then (group :: code :: high :: low :: rest, .ok [])
    else
      let next := drain (rest.drop (payloadLen high low))
      (next.1, next.2.map (⟨group, code, rest.take (payloadLen high low)⟩ :: ·))
  | short => (short, .ok [])
termination_by buffered => buffered.length
decreasing_by
  rw [List.length_drop]
  simp only [List.length_cons]
  omega

def push (buffered bytes : List UInt8) : List UInt8 × Except String (List Frame) :=
  drain (buffered ++ bytes)

/-- The frames that are forwarded for a sequence of reads up to the end of the stream, and how
the task ends. -/
def readTransport (buffered : List UInt8) : List (List UInt8) → List Frame × Except String Unit
  | [] => ([], .ok ())
  | bytes :: reads =>
    match push buffered bytes with
    | (left, .ok frames) =>
      let (later, outcome) := readTransport left reads
      (frames ++ later, outcome)
    | (_, .error error) => ([], .error error)

/-- Reads of a stream: each brings between 1 and 512 bytes. -/
def Reads (stream : List UInt8) (reads : List (List UInt8)) : Prop :=
  reads.flatten = stream ∧ ∀ bytes ∈ reads, 1 ≤ bytes.length ∧ bytes.length ≤ 512

/-! ## Draining more of the stream -/

section Header

variable (group code high low : UInt8) (rest : List UInt8)

theorem drain_tooLarge (hlength : payloadLen high low > maxFramePayload) :
    drain (group :: code :: high :: low :: rest) =
      ([], .error (tooLarge (payloadLen high low))) := by
  rw [drain, if_pos hlength]

variable (hlength : ¬payloadLen high low > maxFramePayload)

include hlength

theorem drain_waiting (hwaiting : rest.length < payloadLen high low) :
    drain (group :: code :: high :: low :: rest) =
      (group :: code :: high :: low :: rest, .ok []) := by
  rw [drain, if_neg hlength, if_pos hwaiting]

theorem drain_complete (hcomplete : ¬rest.length < payloadLen high low) :
    drain (group :: code :: high :: low :: rest) =
      ((drain (rest.drop (payloadLen high low))).1,
        (drain (rest.drop (payloadLen high low))).2.map
          (⟨group, code, rest.take (payloadLen high low)⟩ :: ·)) := by
  rw [drain, if_neg hlength, if_neg hcomplete]

end Header

theorem drain_headless {buffered : List UInt8}
    (hshort : ∀ group code high low rest, buffered = group :: code :: high :: low :: rest → False) :
    drain buffered = (buffered, .ok []) := by
  rw [drain.eq_def]
  split
  · exact (hshort _ _ _ _ _ rfl).elim
  · rfl

theorem drain_short {buffered : List UInt8} (hshort : buffered.length < 4) :
    drain buffered = (buffered, .ok []) := by
  apply drain_headless
  rintro group code high low rest rfl
  simp only [List.length_cons] at hshort
  omega

theorem map_append_nil (result : Except String (List Frame)) : result.map ([] ++ ·) = result := by
  cases result <;> rfl

/-- Bytes that arrive later continue where the loop stopped. -/
theorem drain_append {first left : List UInt8} {frames : List Frame}
    (hfirst : drain first = (left, .ok frames)) (second : List UInt8) :
    drain (first ++ second) =
      ((drain (left ++ second)).1, (drain (left ++ second)).2.map (frames ++ ·)) := by
  induction first using drain.induct generalizing left frames with
  | case1 group code high low rest hlarge =>
    rw [drain_tooLarge group code high low rest hlarge] at hfirst
    cases hfirst
  | case2 group code high low rest hfits hwaiting =>
    rw [drain_waiting group code high low rest hfits hwaiting] at hfirst
    obtain ⟨rfl, hframes⟩ := Prod.mk.inj hfirst
    rw [← Except.ok.inj hframes, map_append_nil]
  | case3 group code high low rest hfits hcomplete ih =>
    have hwhole : payloadLen high low ≤ rest.length := Nat.le_of_not_lt hcomplete
    have hlonger : ¬(rest ++ second).length < payloadLen high low := by
      rw [List.length_append]
      omega
    rw [drain_complete group code high low rest hfits hcomplete] at hfirst
    obtain ⟨hleft, hframes⟩ := Prod.mk.inj hfirst
    obtain ⟨later, hlater, rfl⟩ := Loop.map_eq_ok.mp hframes
    have hdrop := ih (Prod.ext hleft hlater)
    rw [List.cons_append, List.cons_append, List.cons_append, List.cons_append,
      drain_complete group code high low (rest ++ second) hfits hlonger,
      List.drop_append_of_le_length hwhole, List.take_append_of_le_length hwhole, hdrop]
    cases (drain (left ++ second)).2 <;> rfl
  | case4 buffered hshort =>
    rw [drain_headless hshort] at hfirst
    obtain ⟨rfl, hframes⟩ := Prod.mk.inj hfirst
    rw [← Except.ok.inj hframes, map_append_nil]

/-- What stays in the buffer is the start of one frame. -/
theorem drain_left {buffered left : List UInt8} {frames : List Frame}
    (hdrain : drain buffered = (left, .ok frames)) : drain left = (left, .ok []) := by
  induction buffered using drain.induct generalizing left frames with
  | case1 group code high low rest hlarge =>
    rw [drain_tooLarge group code high low rest hlarge] at hdrain
    cases hdrain
  | case2 group code high low rest hfits hwaiting =>
    have hsame := drain_waiting group code high low rest hfits hwaiting
    rw [hsame] at hdrain
    rw [← (Prod.mk.inj hdrain).1]
    exact hsame
  | case3 group code high low rest hfits hcomplete ih =>
    rw [drain_complete group code high low rest hfits hcomplete] at hdrain
    obtain ⟨hleft, hframes⟩ := Prod.mk.inj hdrain
    obtain ⟨later, hlater, -⟩ := Loop.map_eq_ok.mp hframes
    exact ih (Prod.ext hleft hlater)
  | case4 buffered hshort =>
    have hsame := drain_headless hshort
    rw [hsame] at hdrain
    rw [← (Prod.mk.inj hdrain).1]
    exact hsame

/-! ## Streams as frames -/

def Fits (frames : List Frame) : Prop :=
  ∀ frame ∈ frames, frame.payload.length ≤ maxFramePayload

theorem Fits.tail {frame : Frame} {rest : List Frame} (hfits : Fits (frame :: rest)) : Fits rest :=
  fun later hmem ↦ hfits later (List.mem_cons_of_mem frame hmem)

/-- The bytes of a frame that fits, header first. -/
theorem bytes_eq {frame : Frame} (hfits : frame.payload.length ≤ maxFramePayload) :
    ∃ high low, frame.bytes = frame.group :: frame.code :: high :: low :: frame.payload ∧
      payloadLen high low = frame.payload.length := by
  obtain ⟨high, low, hbe⟩ : ∃ high low, Endian.toBe 2 frame.payload.length = [high, low] :=
    ⟨_, _, rfl⟩
  refine ⟨high, low, ?_, ?_⟩
  · rw [Frame.bytes, hbe]
    rfl
  · rw [maxFramePayload] at hfits
    rw [payloadLen, ← hbe, Endian.ofBe_toBe]
    apply Nat.mod_eq_of_lt
    omega

theorem drain_bytes {frame : Frame} (hfits : frame.payload.length ≤ maxFramePayload)
    (rest : List UInt8) :
    drain (frame.bytes ++ rest) = ((drain rest).1, (drain rest).2.map (frame :: ·)) := by
  obtain ⟨high, low, hbytes, hlength⟩ := bytes_eq hfits
  have hsmall : ¬payloadLen high low > maxFramePayload := by
    rw [hlength]
    exact Nat.not_lt.mpr hfits
  have hcomplete : ¬(frame.payload ++ rest).length < payloadLen high low := by
    rw [hlength, List.length_append]
    omega
  rw [hbytes, List.cons_append, List.cons_append, List.cons_append, List.cons_append,
    drain_complete _ _ _ _ _ hsmall hcomplete, hlength, List.drop_left, List.take_left]

theorem drain_flatMap {frames : List Frame} (hfits : Fits frames) (rest : List UInt8) :
    drain (frames.flatMap Frame.bytes ++ rest) =
      ((drain rest).1, (drain rest).2.map (frames ++ ·)) := by
  induction frames with
  | nil =>
    rw [List.flatMap_nil, List.nil_append, map_append_nil]
  | cons frame later ih =>
    rw [List.flatMap_cons, List.append_assoc, drain_bytes (hfits frame List.mem_cons_self),
      ih hfits.tail]
    cases (drain rest).2 <;> rfl

theorem drain_frames {frames : List Frame} (hfits : Fits frames) :
    drain (frames.flatMap Frame.bytes) = ([], .ok frames) := by
  have hdrain := drain_flatMap hfits []
  rw [List.append_nil, drain_short (by decide : ([] : List UInt8).length < 4)] at hdrain
  rw [hdrain, Except.map, List.append_nil]

/-- A stream without a length that is too large, or one with the frames in front of it. -/
theorem drain_cases (stream : List UInt8) :
    (∃ left frames, drain stream = (left, .ok frames)) ∨
      ∃ frames group code high low rest, Fits frames ∧
        stream = frames.flatMap Frame.bytes ++ group :: code :: high :: low :: rest ∧
        payloadLen high low > maxFramePayload := by
  induction stream using drain.induct with
  | case1 group code high low rest hlarge =>
    refine Or.inr ⟨[], group, code, high, low, rest, ?_, rfl, hlarge⟩
    intro frame hmem
    cases hmem
  | case2 group code high low rest hfits hwaiting =>
    exact Or.inl ⟨_, _, drain_waiting group code high low rest hfits hwaiting⟩
  | case3 group code high low rest hfits hcomplete ih =>
    rcases ih with ⟨left, frames, hdrain⟩ | ⟨frames, badGroup, badCode, badHigh, badLow, badRest,
      hframes, hrest, hlarge⟩
    · refine Or.inl ⟨left, ⟨group, code, rest.take (payloadLen high low)⟩ :: frames, ?_⟩
      rw [drain_complete group code high low rest hfits hcomplete, hdrain]
      rfl
    · have hlength : (rest.take (payloadLen high low)).length = payloadLen high low := by
        rw [List.length_take]
        omega
      have hheader : Endian.toBe 2 (payloadLen high low) = [high, low] :=
        Endian.toBe_ofBe [high, low]
      refine Or.inr ⟨⟨group, code, rest.take (payloadLen high low)⟩ :: frames, badGroup, badCode,
        badHigh, badLow, badRest, ?_, ?_, hlarge⟩
      · intro frame hmem
        rcases List.mem_cons.mp hmem with rfl | hlater
        · rw [hlength]
          exact Nat.le_of_not_lt hfits
        · exact hframes frame hlater
      · rw [List.flatMap_cons, List.append_assoc, ← hrest, Frame.bytes, hlength, hheader]
        simp only [List.cons_append, List.nil_append, List.take_append_drop]
  | case4 stream hshort => exact Or.inl ⟨_, _, drain_headless hshort⟩

/-! ## Reads of a stream -/

theorem readTransport_cons {buffered bytes left : List UInt8} {frames : List Frame}
    (hpush : drain (buffered ++ bytes) = (left, .ok frames)) (reads : List (List UInt8)) :
    readTransport buffered (bytes :: reads) =
      (frames ++ (readTransport left reads).1, (readTransport left reads).2) := by
  rw [readTransport, push, hpush]

theorem readTransport_error {buffered bytes left : List UInt8} {error : String}
    (hpush : drain (buffered ++ bytes) = (left, .error error)) (reads : List (List UInt8)) :
    readTransport buffered (bytes :: reads) = ([], .error error) := by
  rw [readTransport, push, hpush]

theorem drain_error_append {first left : List UInt8} {error : String}
    (hfirst : drain first = (left, .error error)) (second : List UInt8) :
    ∃ left, drain (first ++ second) = (left, .error error) := by
  induction first using drain.induct generalizing left with
  | case1 group code high low rest hlarge =>
    rw [drain_tooLarge group code high low rest hlarge] at hfirst
    obtain ⟨-, herror⟩ := Prod.mk.inj hfirst
    exact ⟨[], (drain_tooLarge group code high low (rest ++ second) hlarge).trans
      (congrArg (Prod.mk []) herror)⟩
  | case2 group code high low rest hfits hwaiting =>
    rw [drain_waiting group code high low rest hfits hwaiting] at hfirst
    cases hfirst
  | case3 group code high low rest hfits hcomplete ih =>
    have hwhole : payloadLen high low ≤ rest.length := Nat.le_of_not_lt hcomplete
    have hlonger : ¬(rest ++ second).length < payloadLen high low := by
      rw [List.length_append]
      omega
    rw [drain_complete group code high low rest hfits hcomplete] at hfirst
    obtain ⟨hleft, herror⟩ := Prod.mk.inj hfirst
    obtain ⟨after, hafter⟩ := ih (Prod.ext hleft (Loop.map_eq_error.mp herror))
    refine ⟨after, ?_⟩
    rw [List.cons_append, List.cons_append, List.cons_append, List.cons_append,
      drain_complete group code high low (rest ++ second) hfits hlonger,
      List.drop_append_of_le_length hwhole, hafter]
    rfl
  | case4 buffered hshort =>
    rw [drain_headless hshort] at hfirst
    cases hfirst

/-- Reads that complete frames only forward those frames, and the rest is read as if it were the
whole stream. -/
theorem readTransport_append {first : List (List UInt8)} {buffered left : List UInt8}
    {frames : List Frame} (hbuffered : drain buffered = (buffered, .ok []))
    (hfirst : drain (buffered ++ first.flatten) = (left, .ok frames))
    (second : List (List UInt8)) :
    readTransport buffered (first ++ second) =
      (frames ++ (readTransport left second).1, (readTransport left second).2) := by
  induction first generalizing buffered frames with
  | nil =>
    rw [List.flatten_nil, List.append_nil, hbuffered] at hfirst
    obtain ⟨rfl, hframes⟩ := Prod.mk.inj hfirst
    rw [← Except.ok.inj hframes]
    rfl
  | cons bytes reads ih =>
    rw [List.flatten_cons, ← List.append_assoc] at hfirst
    rcases hpush : drain (buffered ++ bytes) with ⟨middle, error | forwarded⟩
    · obtain ⟨after, hafter⟩ := drain_error_append hpush reads.flatten
      rw [hafter] at hfirst
      cases hfirst
    · have happend := drain_append hpush reads.flatten
      rw [hfirst] at happend
      obtain ⟨hleft, hframes⟩ := Prod.mk.inj happend
      obtain ⟨later, hlater, rfl⟩ := Loop.map_eq_ok.mp hframes.symm
      have hrest := ih (drain_left hpush) (Prod.ext hleft.symm hlater)
      rw [List.cons_append, readTransport_cons hpush, hrest, List.append_assoc]

theorem readTransport_of_drain {stream left : List UInt8} {frames : List Frame}
    (hdrain : drain stream = (left, .ok frames)) {reads : List (List UInt8)}
    (hreads : reads.flatten = stream) : readTransport [] reads = (frames, .ok ()) := by
  have hwhole := readTransport_append (drain_short (by decide : ([] : List UInt8).length < 4))
    (by rw [List.nil_append, hreads]; exact hdrain) []
  rw [List.append_nil] at hwhole
  rw [hwhole, readTransport, List.append_nil]

theorem exists_header {bytes : List UInt8} (hlong : ¬bytes.length < 4) :
    ∃ group code high low rest, bytes = group :: code :: high :: low :: rest := by
  match bytes, hlong with
  | [], hlong => exact absurd (by simp) hlong
  | [_], hlong => exact absurd (by simp) hlong
  | [_, _], hlong => exact absurd (by simp) hlong
  | [_, _, _], hlong => exact absurd (by simp) hlong
  | group :: code :: high :: low :: rest, _ => exact ⟨group, code, high, low, rest, rfl⟩

/-- A length that is too large in the first header ends every way of reading the stream. -/
theorem readTransport_tooLarge {group code high low : UInt8} {rest : List UInt8}
    (hlarge : payloadLen high low > maxFramePayload) {reads : List (List UInt8)}
    {buffered : List UInt8} (hshort : buffered.length < 4)
    (hreads : buffered ++ reads.flatten = group :: code :: high :: low :: rest) :
    readTransport buffered reads = ([], .error (tooLarge (payloadLen high low))) := by
  induction reads generalizing buffered with
  | nil =>
    rw [List.flatten_nil, List.append_nil] at hreads
    rw [hreads] at hshort
    simp only [List.length_cons] at hshort
    omega
  | cons bytes reads ih =>
    rw [List.flatten_cons, ← List.append_assoc] at hreads
    by_cases hstill : (buffered ++ bytes).length < 4
    · rw [readTransport_cons (drain_short hstill), ih hstill hreads]
      rfl
    · apply readTransport_error
      obtain ⟨_, _, _, _, later, hfront⟩ := exists_header hstill
      rw [hfront] at hreads ⊢
      simp only [List.cons_append, List.cons.injEq] at hreads
      obtain ⟨rfl, rfl, rfl, rfl, -⟩ := hreads
      exact drain_tooLarge _ _ _ _ later hlarge

/-! ## When the reads matter -/

/-- A length that is too large behind at least one complete frame. -/
def Overrun (stream : List UInt8) : Prop :=
  ∃ frames group code high low rest, frames ≠ [] ∧ Fits frames ∧
    stream = frames.flatMap Frame.bytes ++ group :: code :: high :: low :: rest ∧
    payloadLen high low > maxFramePayload

/-- Reads of one byte each. -/
def single (bytes : List UInt8) : List (List UInt8) :=
  bytes.map fun byte ↦ [byte]

theorem flatten_single (bytes : List UInt8) : (single bytes).flatten = bytes := by
  induction bytes with
  | nil => rfl
  | cons byte rest ih =>
    rw [single, List.map_cons, List.flatten_cons]
    exact congrArg (byte :: ·) ih

theorem reads_single {bytes read : List UInt8} (hmem : read ∈ single bytes) :
    1 ≤ read.length ∧ read.length ≤ 512 := by
  obtain ⟨byte, -, rfl⟩ := List.mem_map.mp hmem
  exact ⟨Nat.le_refl 1, Nat.le_add_left 1 511⟩

/-- All but the last byte of a frame waits for the last one. -/
theorem exists_waiting {frame : Frame} (hfits : frame.payload.length ≤ maxFramePayload) :
    ∃ front byte, frame.bytes = front ++ [byte] ∧ drain front = (front, .ok []) := by
  obtain ⟨high, low, hbytes, hlength⟩ := bytes_eq hfits
  rcases List.eq_nil_or_concat frame.payload with hnil | ⟨init, last, hconcat⟩
  · refine ⟨[frame.group, frame.code, high], low, ?_, drain_short (Nat.lt_succ_self 3)⟩
    rw [hbytes, hnil]
    rfl
  · rw [List.concat_eq_append] at hconcat
    have hinit : frame.payload.length = init.length + 1 := by
      rw [hconcat, List.length_append, List.length_singleton]
    refine ⟨frame.group :: frame.code :: high :: low :: init, last, ?_, ?_⟩
    · rw [hbytes, hconcat]
      rfl
    · apply drain_waiting
      · omega
      · omega

theorem agree_of_not_overrun {stream : List UInt8} (hsafe : ¬Overrun stream)
    {first second : List (List UInt8)} (hfirst : first.flatten = stream)
    (hsecond : second.flatten = stream) :
    readTransport [] first = readTransport [] second := by
  rcases drain_cases stream with ⟨left, frames, hdrain⟩ | ⟨frames, group, code, high, low, rest,
    hfits, hstream, hlarge⟩
  · rw [readTransport_of_drain hdrain hfirst, readTransport_of_drain hdrain hsecond]
  · have hnone : frames = [] := by
      by_contra hsome
      exact hsafe ⟨frames, group, code, high, low, rest, hsome, hfits, hstream, hlarge⟩
    rw [hnone, List.flatMap_nil, List.nil_append] at hstream
    have hempty : ([] : List UInt8).length < 4 := by decide
    rw [readTransport_tooLarge hlarge hempty (hfirst.trans hstream),
      readTransport_tooLarge hlarge hempty (hsecond.trans hstream)]

/-- Frames that arrive byte by byte are forwarded before the bad length comes. -/
theorem readTransport_apart {frames : List Frame} (hfits : Fits frames)
    {group code high low : UInt8} (hlarge : payloadLen high low > maxFramePayload)
    (rest : List UInt8) :
    readTransport [] (single (frames.flatMap Frame.bytes) ++
        single (group :: code :: high :: low :: rest)) =
      (frames, .error (tooLarge (payloadLen high low))) := by
  have hall : drain ([] ++ (single (frames.flatMap Frame.bytes)).flatten) = ([], .ok frames) := by
    rw [flatten_single, List.nil_append, drain_frames hfits]
  have htail := @readTransport_tooLarge group code high low rest hlarge
    (single (group :: code :: high :: low :: rest)) [] (by decide) (flatten_single _)
  rw [readTransport_append (drain_short (by decide)) hall, htail, List.append_nil]

/-- A frame that is completed by the read that brings the bad length is lost. -/
theorem readTransport_together {before : List Frame} (hbefore : Fits before) {last : Frame}
    (hlast : last.payload.length ≤ maxFramePayload) {front : List UInt8} {byte : UInt8}
    (hbytes : last.bytes = front ++ [byte]) (hwaiting : drain front = (front, .ok []))
    {group code high low : UInt8} (hlarge : payloadLen high low > maxFramePayload)
    (reads : List (List UInt8)) :
    readTransport [] (single (before.flatMap Frame.bytes ++ front) ++
        [byte, group, code, high, low] :: reads) =
      (before, .error (tooLarge (payloadLen high low))) := by
  have hmost : drain ([] ++ (single (before.flatMap Frame.bytes ++ front)).flatten) =
      (front, .ok before) := by
    rw [flatten_single, List.nil_append, drain_flatMap hbefore, hwaiting, Except.map,
      List.append_nil]
  have hbad : drain (front ++ [byte, group, code, high, low]) =
      ([], .error (tooLarge (payloadLen high low))) := by
    have hdrain := drain_bytes hlast [group, code, high, low]
    rw [drain_tooLarge group code high low [] hlarge, hbytes, List.append_assoc] at hdrain
    exact hdrain
  rw [readTransport_append (drain_short (by decide)) hmost, readTransport_error hbad,
    List.append_nil]

theorem reads_append_single {bytes : List UInt8} {reads : List (List UInt8)}
    (hreads : ∀ read ∈ reads, 1 ≤ read.length ∧ read.length ≤ 512) {read : List UInt8}
    (hmem : read ∈ single bytes ++ reads) : 1 ≤ read.length ∧ read.length ≤ 512 :=
  (List.mem_append.mp hmem).elim reads_single (hreads read)

/-- The last complete frame arrives byte by byte and is forwarded, or it is completed by the read
that brings the bad length and is lost. -/
theorem differ_of_overrun {stream : List UInt8} (hoverrun : Overrun stream) :
    ∃ first second, Reads stream first ∧ Reads stream second ∧
      readTransport [] first ≠ readTransport [] second := by
  obtain ⟨frames, group, code, high, low, rest, hsome, hfits, rfl, hlarge⟩ := hoverrun
  rcases List.eq_nil_or_concat frames with rfl | ⟨before, last, hconcat⟩
  · exact absurd rfl hsome
  rw [List.concat_eq_append] at hconcat
  subst hconcat
  have hbefore : Fits before := fun frame hmem ↦ hfits frame (List.mem_append_left _ hmem)
  have hlast : last.payload.length ≤ maxFramePayload :=
    hfits last (List.mem_append_right _ List.mem_cons_self)
  obtain ⟨front, byte, hbytes, hwaiting⟩ := exists_waiting hlast
  have hframes : (before ++ [last]).flatMap Frame.bytes =
      before.flatMap Frame.bytes ++ (front ++ [byte]) := by
    rw [List.flatMap_append, List.flatMap_singleton, hbytes]
  refine ⟨single ((before ++ [last]).flatMap Frame.bytes) ++
      single (group :: code :: high :: low :: rest),
    single (before.flatMap Frame.bytes ++ front) ++
      [byte, group, code, high, low] :: single rest, ⟨?_, ?_⟩, ⟨?_, ?_⟩, ?_⟩
  · rw [List.flatten_append, flatten_single, flatten_single]
  · exact fun _ ↦ reads_append_single fun _ ↦ reads_single
  · rw [List.flatten_append, flatten_single, List.flatten_cons, flatten_single, hframes]
    simp only [List.append_assoc, List.cons_append, List.nil_append]
  · intro read hmem
    apply reads_append_single _ hmem
    intro later hlater
    rcases List.mem_cons.mp hlater with rfl | hlater
    · exact ⟨Nat.le_add_left 1 4, Nat.le_add_left 5 507⟩
    · exact reads_single hlater
  · rw [readTransport_apart hfits hlarge,
      readTransport_together hbefore hlast hbytes hwaiting hlarge]
    intro hsame
    have hlengths := congrArg List.length (Prod.mk.inj hsame).1
    rw [List.length_append, List.length_singleton] at hlengths
    omega

theorem encoded_of_fits {frame : Frame} (hfits : frame.payload.length ≤ maxFramePayload) :
    encoded frame.group frame.code frame.payload = .ok frame.bytes := by
  have hlength : frame.payload.length < UInt16.size := by
    rw [maxFramePayload] at hfits
    rw [UInt16.size]
    omega
  rw [encoded, if_pos hlength]

/-- Any two ways of reading a stream forward the same frames and end the same, unless a length
that is too large stands behind a complete frame; and frames that fit are read back from their
encodings, however these are cut. -/
theorem reads_agree_iff_not_overrun (stream : List UInt8) (frames : List Frame) :
    ((∀ first second, Reads stream first → Reads stream second →
      readTransport [] first = readTransport [] second) ↔ ¬Overrun stream) ∧
    (Fits frames →
      (∀ frame ∈ frames, encoded frame.group frame.code frame.payload = .ok frame.bytes) ∧
      ∀ reads, reads.flatten = frames.flatMap Frame.bytes →
        readTransport [] reads = (frames, .ok ())) := by
  refine ⟨⟨?_, ?_⟩, fun hfits ↦ ⟨?_, ?_⟩⟩
  · intro hagree hoverrun
    obtain ⟨first, second, hfirst, hsecond, hdiffer⟩ := differ_of_overrun hoverrun
    exact hdiffer (hagree first second hfirst hsecond)
  · intro hsafe first second hfirst hsecond
    exact agree_of_not_overrun hsafe hfirst.1 hsecond.1
  · intro frame hmem
    exact encoded_of_fits (hfits frame hmem)
  · intro reads hreads
    exact readTransport_of_drain (drain_frames hfits) hreads

/-- A complete frame and a length that is too large, in two reads and in one. -/
theorem reads_disagree :
    readTransport [] [[3, 1, 0, 0], [3, 1, 16, 1]] =
        ([⟨3, 1, []⟩], .error "Fast Pair frame payload is too large: 4097") ∧
      readTransport [] [[3, 1, 0, 0, 3, 1, 16, 1]] =
        ([], .error "Fast Pair frame payload is too large: 4097") ∧
      ¬∀ stream first second, Reads stream first → Reads stream second →
        readTransport [] first = readTransport [] second := by
  have hgood : drain ([] ++ [3, 1, 0, 0]) = ([], .ok [⟨3, 1, []⟩]) :=
    @drain_frames [⟨3, 1, []⟩] (by unfold Fits; decide)
  have hbad : drain ([] ++ [3, 1, 16, 1]) = ([], .error (tooLarge 4097)) :=
    drain_tooLarge 3 1 16 1 [] (by decide)
  have hboth : drain ([] ++ [3, 1, 0, 0, 3, 1, 16, 1]) = ([], .error (tooLarge 4097)) := by
    have hdrain := @drain_bytes ⟨3, 1, []⟩ (by decide) [3, 1, 16, 1]
    rw [drain_tooLarge 3 1 16 1 [] (by decide)] at hdrain
    exact hdrain
  have htwo : readTransport [] [[3, 1, 0, 0], [3, 1, 16, 1]] =
      ([⟨3, 1, []⟩], .error (tooLarge 4097)) := by
    rw [readTransport_cons hgood, readTransport_error hbad]
    rfl
  have hone : readTransport [] [[3, 1, 0, 0, 3, 1, 16, 1]] = ([], .error (tooLarge 4097)) :=
    readTransport_error hboth []
  refine ⟨htwo, hone, ?_⟩
  intro hagree
  have hsame := hagree [3, 1, 0, 0, 3, 1, 16, 1] [[3, 1, 0, 0], [3, 1, 16, 1]]
    [[3, 1, 0, 0, 3, 1, 16, 1]] ⟨rfl, by decide⟩ ⟨rfl, by decide⟩
  rw [htwo, hone] at hsame
  cases hsame

end BtDaemon.FastPair.Stream
