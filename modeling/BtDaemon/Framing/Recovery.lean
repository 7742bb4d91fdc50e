import BtDaemon.Framing.Delimited

/-!
# Recovery of the receiver

Whatever was received before, the receiver is in one of three situations: between frames, in a
frame that fits, or behind a delimiter. A shared delimiter brings it back to the start of a frame
at once. With two different delimiters a start marker inside a frame is data, so that the first
frame may be lost; its end marker, or the limit, closes the receiver.
-/

namespace BtDaemon.Framing.DelimitedFrames

/-- The states that a receiver can be in. -/
structure Bounded (receiver : DelimitedFrames) : Prop where
  fits : receiver.body.length ≤ maxFrame - 1
  closed : receiver.isOpen = false → receiver.body = []

theorem bounded_init : Bounded init where
  fits := Nat.zero_le _
  closed _ := rfl

variable {Message : Type} {markers : UInt8 × UInt8} (label : String)
  (decode : List UInt8 → Except String Message)

theorem bounded_step (self : DelimitedFrames) (byte : UInt8) (hself : self.Bounded) :
    ((decoder markers label decode).step self byte).1.Bounded := by
  obtain ⟨body, isOpen⟩ := self
  change (pushByte markers label decode ⟨body, isOpen⟩ byte).1.Bounded
  cases isOpen with
  | false =>
    obtain rfl : body = [] := hself.closed rfl
    exact { fits := Nat.zero_le _, closed := fun _ ↦ rfl }
  | true =>
    by_cases hend : byte = markers.2
    · rw [hend, pushByte_end]
      exact { fits := Nat.zero_le _, closed := fun _ ↦ rfl }
    · by_cases hroom : body.length < maxFrame - 1
      · rw [pushByte_body label decode hend hroom]
        constructor
        · rw [List.length_append, List.length_singleton]
          exact hroom
        · intro hopen
          cases hopen
      · rw [pushByte_full label decode hend (Nat.le_of_not_lt hroom)]
        exact bounded_init

/-- The body that is collected never grows beyond the limit. -/
theorem bounded_run (bytes : List UInt8) :
    ((decoder markers label decode).run init bytes).1.Bounded := by
  apply Transducer.run_invariant _ (bounded_step label decode)
  exact bounded_init

/-! ## A shared delimiter -/

/-- A shared delimiter opens a new frame in every state. -/
theorem step_shared (hshared : markers.1 = markers.2) {self : DelimitedFrames}
    (hself : self.Bounded) :
    ((decoder markers label decode).step self markers.1).1 = ⟨[], true⟩ := by
  obtain ⟨body, isOpen⟩ := self
  change (pushByte markers label decode ⟨body, isOpen⟩ markers.1).1 = _
  cases isOpen with
  | false =>
    obtain rfl : body = [] := hself.closed rfl
    rw [pushByte_closed, decide_eq_true rfl]
  | true => rw [hshared, pushByte_end, ended, decide_eq_true hshared]

theorem run_shared (hshared : markers.1 = markers.2) {self : DelimitedFrames}
    (hself : self.Bounded) {bytes : List UInt8} (hne : bytes ≠ [])
    (hfree : ∀ byte ∈ bytes, byte ≠ markers.2) (hroom : bytes.length ≤ maxFrame - 1) :
    ∃ earlier, ((decoder markers label decode).run self
      (markers.1 :: bytes ++ [markers.2])).2 = earlier ++ [decode bytes] := by
  have hending := run_ending label decode hfree hroom
  rw [List.cons_append, Transducer.run_cons, step_shared label decode hshared hself, hending]
  refine ⟨((decoder markers label decode).step self markers.1).2, ?_⟩
  rw [frames, if_pos (Or.inr hne)]

/-! ## Different delimiters -/

section Distinct

variable (hdistinct : markers.1 ≠ markers.2)

include hdistinct

theorem ended_distinct : ended markers = init := by
  rw [ended, decide_eq_false hdistinct]
  rfl

/-- Inside a frame that fits or not, the next end marker leaves the receiver between frames. -/
theorem run_to_end {bytes : List UInt8} (hfree : ∀ byte ∈ bytes, byte ≠ markers.1)
    {self : DelimitedFrames} (hself : self.Bounded) :
    ((decoder markers label decode).run self (bytes ++ [markers.2])).1 = init := by
  induction bytes generalizing self with
  | nil =>
    obtain ⟨body, isOpen⟩ := self
    change (pushByte markers label decode ⟨body, isOpen⟩ markers.2).1 = _
    cases isOpen with
    | false =>
      obtain rfl : body = [] := hself.closed rfl
      rw [pushByte_closed, decide_eq_false (Ne.symm hdistinct)]
      rfl
    | true => rw [pushByte_end, ended_distinct hdistinct]
  | cons byte rest ih =>
    rw [List.cons_append, Transducer.run_cons]
    apply ih fun later hmem ↦ hfree later (List.mem_cons_of_mem byte hmem)
    exact bounded_step label decode self byte hself

/-- Behind a whole frame the receiver is between frames, whether it took the frame or lost it. -/
theorem run_whole {bytes : List UInt8} (hfree : ∀ byte ∈ bytes, byte ≠ markers.1)
    {self : DelimitedFrames} (hself : self.Bounded) :
    ((decoder markers label decode).run self (markers.1 :: bytes ++ [markers.2])).1 = init := by
  rw [List.cons_append, Transducer.run_cons]
  apply run_to_end label decode hdistinct hfree
  exact bounded_step label decode self markers.1 hself

theorem run_twice {self : DelimitedFrames} (hself : self.Bounded) {bytes : List UInt8}
    (hfree : ∀ byte ∈ bytes, byte ≠ markers.1 ∧ byte ≠ markers.2)
    (hroom : bytes.length ≤ maxFrame - 1) :
    ∃ earlier, ((decoder markers label decode).run self
      ((markers.1 :: bytes ++ [markers.2]) ++ (markers.1 :: bytes ++ [markers.2]))).2 =
        earlier ++ [decode bytes] := by
  have hfirst := run_whole label decode hdistinct (fun byte hmem ↦ (hfree byte hmem).1) hself
  have hsecond := run_frame label decode (fun byte hmem ↦ (hfree byte hmem).2) hroom
  rw [Transducer.run_append, hfirst, hsecond, frames, if_pos (Or.inl hdistinct)]
  exact ⟨_, rfl⟩

end Distinct

/-! ## Frames that are too long -/

/-- Only a frame that is too long is reported as such, and it leaves the receiver between
frames. -/
theorem step_tooLong (hdecode : ∀ bytes, decode bytes ≠ .error (tooLong label))
    {self : DelimitedFrames} {byte : UInt8}
    (hreport : .error (tooLong label) ∈ ((decoder markers label decode).step self byte).2) :
    ((decoder markers label decode).step self byte).1 = init := by
  obtain ⟨body, isOpen⟩ := self
  change .error (tooLong label) ∈ (pushByte markers label decode ⟨body, isOpen⟩ byte).2 at hreport
  change (pushByte markers label decode ⟨body, isOpen⟩ byte).1 = _
  cases isOpen with
  | false =>
    rw [pushByte_closed] at hreport
    cases hreport
  | true =>
    by_cases hend : byte = markers.2
    · rw [hend, pushByte_end, frames] at hreport
      split at hreport
      · exact absurd (List.mem_singleton.mp hreport).symm (hdecode body)
      · cases hreport
    · by_cases hroom : body.length < maxFrame - 1
      · rw [pushByte_body label decode hend hroom] at hreport
        cases hreport
      · rw [pushByte_full label decode hend (Nat.le_of_not_lt hroom)]

/-- From the report of a frame that is too long to the next start marker nothing comes out. -/
theorem run_after_tooLong (hdecode : ∀ bytes, decode bytes ≠ .error (tooLong label))
    {before between : List UInt8} {byte : UInt8}
    (hreport : .error (tooLong label) ∈
      ((decoder markers label decode).step ((decoder markers label decode).run init before).1
        byte).2)
    (hbetween : ∀ later ∈ between, later ≠ markers.1) :
    ((decoder markers label decode).run
      ((decoder markers label decode).run init (before ++ [byte])).1 between).2 = [] := by
  have hstate : ((decoder markers label decode).run init (before ++ [byte])).1 = init := by
    rw [Transducer.run_append, Transducer.run_cons, Transducer.run_nil]
    exact step_tooLong label decode hdecode hreport
  rw [hstate, run_noise label decode hbetween]

end BtDaemon.Framing.DelimitedFrames
