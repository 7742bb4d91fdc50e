import BtDaemon.Bluez.Disconnect
import BtDaemon.FastPair.Commands
import BtDaemon.FastPair.Stream
import BtDaemon.Identity.Presentation
import Mathlib.Data.Nat.Bitwise

/-!
# The messages of the Message Stream

A provider reports its batteries, its session nonce, its model, its address, what it can switch and
its noise control; a payload that is not exactly of its form is refused. A noise control command is
made from the last state that was reported, and it reads as that state with another mode.
-/

namespace BtDaemon.FastPair

open BtDaemon.FastPair.Stream (Frame encoded)

/-! ## Payloads of a fixed length -/

def decodeFixed (count : ℕ) (payload : List UInt8) (label : String) :
    Except String (Vector UInt8 count) :=
  if hlength : payload.length = count then .ok ⟨payload.toArray, hlength⟩
  else .error ("Fast Pair " ++ label ++ " has " ++ toString payload.length ++
    " bytes instead of " ++ toString count)

/-- A number in network order. -/
def ofBytes {count : ℕ} (width : ℕ) (bytes : Vector UInt8 count) : BitVec width :=
  .ofNat width (Endian.ofBe bytes.toList)

/-! ## Batteries -/

def decodeComponent (value : UInt8) : Except String (Option UInt8) :=
  let percentage := value &&& 0x7f
  if percentage = 0x7f then .ok none
  else if percentage > 100 then
    .error ("invalid Fast Pair battery percentage " ++ toString percentage.toNat)
  else .ok (some percentage)

namespace BatteryReport

def fromPayload (payload : List UInt8) : Except String BatteryReport := do
  let bytes ← decodeFixed 3 payload "battery update"
  return {
    left := ← decodeComponent bytes[0]
    right := ← decodeComponent bytes[1]
    case := ← decodeComponent bytes[2]
    charging := (bytes[0] &&& 0x80 != 0, bytes[1] &&& 0x80 != 0, bytes[2] &&& 0x80 != 0) }

/-- One component of a report. -/
def modelBattery (id label component : String) (reading : Option UInt8) (charging : Bool) :
    Option Identity.Battery :=
  reading.map fun percentage ↦
    ⟨id, label, component, percentage, some charging, "google-fast-pair-message-stream", "high"⟩

def modelBatteries (self : BatteryReport) : List Identity.Battery :=
  [modelBattery "fast-pair-left" "Left" "left" self.left self.charging.1,
    modelBattery "fast-pair-right" "Right" "right" self.right self.charging.2.1,
    modelBattery "fast-pair-case" "Case" "case" self.case self.charging.2.2].filterMap id

end BatteryReport

/-! ## Audio Switch -/

def decodeAudioSwitchCapability (payload : List UInt8) : Except String FastPairMultipoint := do
  let bytes ← decodeFixed 4 payload "Audio Switch capability"
  let version := UInt16.ofNat (Endian.ofBe [bytes[0], bytes[1]])
  return {
    version := version
    supported := version != 0
    audioSwitchEnabled := bytes[2] &&& 0x80 != 0
    configurable := bytes[2] &&& 0x40 != 0
    enabled := bytes[2] &&& 0x20 != 0 }

def switchReason (reason : UInt8) : String :=
  if reason = 0 then "unspecified"
  else if reason = 1 then "media"
  else if reason = 2 then "call"
  else "unknown"

def switchTarget (target : UInt8) : String :=
  if target = 1 then "this-device"
  else if target = 2 then "another-device"
  else "unknown"

/-- `audio_switch::notification`; the text of the decoding error is the one of the library. -/
def notification (payload : List UInt8) (unixTimeMs : ℕ) : Except String FastPairSwitchEvent :=
  match payload with
  | reason :: target :: name =>
    match String.fromUTF8? ⟨name.toArray⟩ with
    | none => .error "invalid utf-8"
    | some text =>
      let name := Bluez.Disconnect.remoteText text 128
      .ok ⟨switchReason reason, switchTarget target, if name = "" then none else some name,
        unixTimeMs⟩
  | _ => .error "Fast Pair switch notification is missing reason/target"

/-! ## Noise control -/

def ancModeTable : List (UInt8 × String) :=
  [(0x80, "transparent"), (0x40, "adaptive"), (0x20, "off"), (0x08, "noise-cancelling")]

def ancModes (flags : UInt8) : List String :=
  (ancModeTable.filter fun mode ↦ flags &&& mode.1 != 0).map Prod.snd

def ancModeFlag (mode : String) : Except String UInt8 :=
  match ancModeTable.find? fun entry ↦ entry.2 == mode with
  | some entry => .ok entry.1
  | none => .error ("unsupported Fast Pair noise-control mode " ++ mode ++
      "; expected transparent, adaptive, off, or noise-cancelling")

def decodeAncState (payload : List UInt8) : Except String FastPairNoiseControl := do
  let bytes ← decodeFixed 4 payload "ANC state"
  match ancModes bytes[3] with
  | [active] =>
    return ⟨bytes[0], ancModes bytes[1], ancModes bytes[2], some active⟩
  | _ => throw "Fast Pair ANC state must contain exactly one known active mode"

/-- The closure `flags`. -/
def ancFlags (modes : List String) : Except String UInt8 :=
  modes.foldlM (fun flags mode ↦ (flags ||| ·) <$> ancModeFlag mode) 0

def noiseControlPayload (state : FastPairNoiseControl) (mode : String) :
    Except String (List UInt8) :=
  if ¬(state.version = 1 ∨ state.version = 2) then
    .error "unsupported Fast Pair ANC protocol version"
  else do
    let modeFlag ← ancModeFlag mode
    if mode ∉ state.settableModes then
      throw ("Fast Pair noise-control mode " ++ mode ++ " is not currently settable")
    return [state.version, ← ancFlags state.availableModes, ← ancFlags state.settableModes,
      modeFlag]

def hearableControlsGroup : UInt8 := 0x08
def setAncStateCode : UInt8 := 0x12

def noiseControlFrame (state : FastPairNoiseControl) (mode : String) :
    Except String (List UInt8) := do
  encoded hearableControlsGroup setAncStateCode (← noiseControlPayload state mode)

/-! ## Commands read back -/

/-- The known bits of a set of modes. -/
def ancMask : UInt8 := 0xe8

theorem decodeFixed_eq_ok {count : ℕ} {payload : List UInt8} {label : String}
    {bytes : Vector UInt8 count} :
    decodeFixed count payload label = .ok bytes ↔ payload = bytes.toList := by
  unfold decodeFixed
  split
  · next hlength =>
    constructor
    · intro hbytes
      obtain rfl := Except.ok.inj hbytes
      rfl
    · rintro rfl
      rfl
  · next hlength =>
    constructor
    · exact nofun
    · rintro rfl
      exact absurd bytes.length_toList hlength

/-- A flag is set or not. -/
theorem and_flag (flags : UInt8) {flag : UInt8} {mode : String}
    (hmode : (flag, mode) ∈ ancModeTable) :
    flags &&& flag = 0 ∨ flags &&& flag = flag := by
  obtain ⟨bit, hbit⟩ : ∃ bit, flag.toNat = 2 ^ bit := by
    simp only [ancModeTable, List.mem_cons, Prod.mk.injEq, List.not_mem_nil, or_false] at hmode
    obtain ⟨rfl, -⟩ | ⟨rfl, -⟩ | ⟨rfl, -⟩ | ⟨rfl, -⟩ := hmode
    exacts [⟨7, rfl⟩, ⟨6, rfl⟩, ⟨5, rfl⟩, ⟨3, rfl⟩]
  rw [← UInt8.toNat_inj, ← UInt8.toNat_inj, UInt8.toNat_and, hbit, Nat.and_two_pow]
  cases flags.toNat.testBit bit with
  | false => exact .inl (Nat.zero_mul _)
  | true => exact .inr (Nat.one_mul _)

theorem mem_ancModes {flags : UInt8} {mode : String} :
    mode ∈ ancModes flags ↔ ∃ flag, (flag, mode) ∈ ancModeTable ∧ flags &&& flag ≠ 0 := by
  rw [ancModes, List.mem_map]
  constructor
  · rintro ⟨⟨flag, name⟩, hentry, rfl⟩
    obtain ⟨htable, hset⟩ := List.mem_filter.mp hentry
    exact ⟨flag, htable, bne_iff_ne.mp hset⟩
  · rintro ⟨flag, htable, hset⟩
    exact ⟨(flag, mode), List.mem_filter.mpr ⟨htable, bne_iff_ne.mpr hset⟩, rfl⟩

theorem ancModeFlag_of_mem {flag : UInt8} {mode : String} (hmode : (flag, mode) ∈ ancModeTable) :
    ancModeFlag mode = .ok flag := by
  simp only [ancModeTable, List.mem_cons, Prod.mk.injEq, List.not_mem_nil, or_false] at hmode
  obtain ⟨rfl, rfl⟩ | ⟨rfl, rfl⟩ | ⟨rfl, rfl⟩ | ⟨rfl, rfl⟩ := hmode <;> rfl

theorem ancModeFlag_eq_ok {flag : UInt8} {mode : String} :
    ancModeFlag mode = .ok flag ↔ (flag, mode) ∈ ancModeTable := by
  refine ⟨fun hflag ↦ ?_, ancModeFlag_of_mem⟩
  unfold ancModeFlag at hflag
  split at hflag
  · next entry hfound =>
    obtain rfl := Except.ok.inj hflag
    have hname : entry.2 = mode := by simpa using List.find?_some hfound
    rw [← hname]
    exact List.mem_of_find?_eq_some hfound
  · cases hflag

theorem and_ancMask (flags : UInt8) :
    flags &&& ancMask =
      (((0 ||| (flags &&& 0x80)) ||| (flags &&& 0x40)) ||| (flags &&& 0x20)) |||
        (flags &&& 0x08) := by
  have hdistrib : ∀ first second : UInt8,
      (flags &&& first) ||| (flags &&& second) = flags &&& (first ||| second) :=
    fun first second ↦ UInt8.toBitVec_inj.mp BitVec.and_or_distrib_left.symm
  rw [UInt8.zero_or, hdistrib, hdistrib, hdistrib]
  rfl

/-- The flags of the modes are the known bits. -/
theorem ancFlags_ancModes (flags : UInt8) :
    ancFlags (ancModes flags) = .ok (flags &&& ancMask) := by
  rw [and_ancMask]
  obtain htransparent | htransparent := @and_flag flags 0x80 "transparent" (by decide) <;>
    obtain hadaptive | hadaptive := @and_flag flags 0x40 "adaptive" (by decide) <;>
    obtain hoff | hoff := @and_flag flags 0x20 "off" (by decide) <;>
    obtain hcancelling | hcancelling :=
      @and_flag flags 0x08 "noise-cancelling" (by decide) <;>
    simp only [ancModes, ancModeTable, List.filter_cons, List.filter_nil, htransparent, hadaptive,
      hoff, hcancelling] <;>
    rfl

theorem ancModes_and_ancMask (flags : UInt8) : ancModes (flags &&& ancMask) = ancModes flags := by
  unfold ancModes
  congr 1
  apply List.filter_congr
  rintro ⟨flag, mode⟩ hmode
  have hknown : ancMask &&& flag = flag := by
    simp only [ancModeTable, List.mem_cons, Prod.mk.injEq, List.not_mem_nil, or_false] at hmode
    obtain ⟨rfl, -⟩ | ⟨rfl, -⟩ | ⟨rfl, -⟩ | ⟨rfl, -⟩ := hmode <;> rfl
  rw [UInt8.and_assoc, hknown]

theorem ancModes_flag {flag : UInt8} {mode : String} (hmode : (flag, mode) ∈ ancModeTable) :
    ancModes flag = [mode] := by
  simp only [ancModeTable, List.mem_cons, Prod.mk.injEq, List.not_mem_nil, or_false] at hmode
  obtain ⟨rfl, rfl⟩ | ⟨rfl, rfl⟩ | ⟨rfl, rfl⟩ | ⟨rfl, rfl⟩ := hmode <;> rfl

/-- A report of noise control: its four bytes, and the one mode that is active. -/
theorem decodeAncState_eq_ok {payload : List UInt8} {state : FastPairNoiseControl} :
    decodeAncState payload = .ok state ↔ ∃ version available settable active mode,
      payload = [version, available, settable, active] ∧ ancModes active = [mode] ∧
        state = ⟨version, ancModes available, ancModes settable, some mode⟩ := by
  constructor
  · intro hdecode
    obtain ⟨bytes, hbytes, hrest⟩ := Loop.bind_eq_ok.mp hdecode
    rw [decodeFixed_eq_ok] at hbytes
    split at hrest
    · next mode hactive =>
      obtain rfl := Except.ok.inj hrest
      refine ⟨bytes[0], bytes[1], bytes[2], bytes[3], mode, ?_, hactive, rfl⟩
      rw [hbytes]
      obtain ⟨⟨bytes⟩, hsize⟩ := bytes
      match bytes, hsize with
      | [_, _, _, _], _ => rfl
    · cases hrest
  · rintro ⟨version, available, settable, active, mode, rfl, hactive, rfl⟩
    have hbytes : decodeFixed 4 [version, available, settable, active] "ANC state" =
        .ok #v[version, available, settable, active] := decodeFixed_eq_ok.mpr rfl
    rw [decodeAncState, hbytes]
    change (match ancModes active with
      | [active] => _
      | _ => _ : Except String FastPairNoiseControl) = _
    rw [hactive]
    rfl

/-- A command is made if the version is known and the provider lets the mode be set, from the known
bits of what the provider reported. -/
theorem noiseControlPayload_eq_ok {version available settable : UInt8} {active : Option String}
    {mode : String} {command : List UInt8} :
    noiseControlPayload ⟨version, ancModes available, ancModes settable, active⟩ mode =
        .ok command ↔
      (version = 1 ∨ version = 2) ∧ ∃ flag, (flag, mode) ∈ ancModeTable ∧ settable &&& flag ≠ 0 ∧
        command = [version, available &&& ancMask, settable &&& ancMask, flag] := by
  unfold noiseControlPayload
  split
  · next hversion => exact ⟨nofun, fun hcommand ↦ absurd hcommand.1 hversion⟩
  next hversion =>
  rw [not_not] at hversion
  rw [Loop.bind_eq_ok]
  constructor
  · rintro ⟨flag, hflag, hrest⟩
    have hmode := ancModeFlag_eq_ok.mp hflag
    split at hrest
    · cases hrest
    · next hsettable =>
      simp only [ancFlags_ancModes] at hrest
      obtain rfl := Except.ok.inj hrest
      obtain ⟨other, hother, hset⟩ := mem_ancModes.mp (not_not.mp hsettable)
      have hsame : other = flag :=
        Except.ok.inj ((ancModeFlag_of_mem hother).symm.trans (ancModeFlag_of_mem hmode))
      exact ⟨hversion, flag, hmode, hsame ▸ hset, rfl⟩
  · rintro ⟨-, flag, hmode, hset, rfl⟩
    refine ⟨flag, ancModeFlag_of_mem hmode, ?_⟩
    have hsettable : mode ∈ ancModes settable := mem_ancModes.mpr ⟨flag, hmode, hset⟩
    rw [if_neg (not_not.mpr hsettable)]
    simp only [ancFlags_ancModes]
    rfl

/-- The frame of a command. -/
theorem encoded_short {group code : UInt8} {payload : List UInt8} (hshort : payload.length ≤ 4096) :
    encoded group code payload = .ok (Frame.bytes ⟨group, code, payload⟩) := by
  refine if_pos (Nat.lt_of_le_of_lt hshort ?_)
  decide

theorem encoded_ancState (version available settable active : UInt8) :
    encoded hearableControlsGroup setAncStateCode [version, available, settable, active] =
      .ok (Frame.bytes
        ⟨hearableControlsGroup, setAncStateCode, [version, available, settable, active]⟩) := by
  apply encoded_short
  change 4 ≤ 4096
  decide

theorem noiseControlFrame_eq_ok {version available settable : UInt8} {active mode : String}
    {wire : List UInt8} :
    noiseControlFrame ⟨version, ancModes available, ancModes settable, some active⟩ mode =
        .ok wire ↔
      (version = 1 ∨ version = 2) ∧ ∃ flag, (flag, mode) ∈ ancModeTable ∧
        settable &&& flag ≠ 0 ∧ wire = Frame.bytes ⟨hearableControlsGroup, setAncStateCode,
          [version, available &&& ancMask, settable &&& ancMask, flag]⟩ := by
  rw [noiseControlFrame, Loop.bind_eq_ok]
  constructor
  · rintro ⟨command, hcommand, hwire⟩
    obtain ⟨hversion, flag, hmode, hset, rfl⟩ := noiseControlPayload_eq_ok.mp hcommand
    rw [encoded_ancState] at hwire
    exact ⟨hversion, flag, hmode, hset, (Except.ok.inj hwire).symm⟩
  · rintro ⟨hversion, flag, hmode, hset, rfl⟩
    exact ⟨_, noiseControlPayload_eq_ok.mpr ⟨hversion, flag, hmode, hset, rfl⟩,
      encoded_ancState _ _ _ _⟩

theorem noiseControlFrame_settable {payload : List UInt8} {state : FastPairNoiseControl}
    (hstate : decodeAncState payload = .ok state) (mode : String) :
    (∃ wire, noiseControlFrame state mode = .ok wire) ↔
      (state.version = 1 ∨ state.version = 2) ∧ mode ∈ state.settableModes := by
  obtain ⟨version, available, settable, active, before, rfl, -, rfl⟩ :=
    decodeAncState_eq_ok.mp hstate
  constructor
  · rintro ⟨wire, hwire⟩
    obtain ⟨hversion, flag, hmode, hset, -⟩ := noiseControlFrame_eq_ok.mp hwire
    exact ⟨hversion, mem_ancModes.mpr ⟨flag, hmode, hset⟩⟩
  · rintro ⟨hversion, hsettable⟩
    obtain ⟨flag, hmode, hset⟩ := mem_ancModes.mp hsettable
    exact ⟨_, noiseControlFrame_eq_ok.mpr ⟨hversion, flag, hmode, hset, rfl⟩⟩

/-- The provider receives a command as one frame, and it reads as the last report with the mode in
place of the active one. -/
theorem noiseControlFrame_reads {payload wire : List UInt8} {state : FastPairNoiseControl}
    {mode : String} (hstate : decodeAncState payload = .ok state)
    (hwire : noiseControlFrame state mode = .ok wire) : ∃ command,
      Stream.drain wire = ([], .ok [⟨hearableControlsGroup, setAncStateCode, command⟩]) ∧
      decodeAncState command = .ok { state with activeMode := some mode } := by
  obtain ⟨version, available, settable, active, before, rfl, -, rfl⟩ :=
    decodeAncState_eq_ok.mp hstate
  obtain ⟨-, flag, hmode, -, rfl⟩ := noiseControlFrame_eq_ok.mp hwire
  refine ⟨[version, available &&& ancMask, settable &&& ancMask, flag], ?_, ?_⟩
  · have hdrain := @Stream.drain_frames [⟨hearableControlsGroup, setAncStateCode,
      [version, available &&& ancMask, settable &&& ancMask, flag]⟩] ?_
    · rwa [List.flatMap_singleton] at hdrain
    · intro frame hframe
      rw [List.mem_singleton.mp hframe]
      change 4 ≤ 4096
      decide
  · refine decodeAncState_eq_ok.mpr ⟨_, _, _, _, mode, rfl, ancModes_flag hmode, ?_⟩
    rw [ancModes_and_ancMask, ancModes_and_ancMask]

/-- The command for a mode exists exactly if the version of the last report is known and the report
lets the mode be set; the provider receives it as one frame, and it reads as that report with the
mode in place of the active one. -/
theorem noiseControl_commands {payload : List UInt8} {state : FastPairNoiseControl}
    (hstate : decodeAncState payload = .ok state) (mode : String) :
    ((∃ wire, noiseControlFrame state mode = .ok wire) ↔
      (state.version = 1 ∨ state.version = 2) ∧ mode ∈ state.settableModes) ∧
    ∀ wire, noiseControlFrame state mode = .ok wire → ∃ command,
      Stream.drain wire = ([], .ok [⟨hearableControlsGroup, setAncStateCode, command⟩]) ∧
      decodeAncState command = .ok { state with activeMode := some mode } :=
  ⟨noiseControlFrame_settable hstate mode, fun _ hwire ↦ noiseControlFrame_reads hstate hwire⟩

/-- The provider lets its mode be switched off. -/
theorem noiseControl_commands_off :
    ∃ wire, noiseControlFrame ⟨2, ["transparent", "off"], ["off"], some "transparent"⟩ "off" =
      .ok wire :=
  (noiseControl_commands (rfl : decodeAncState [2, 0xa4, 0x25, 0x80] = .ok _) "off").1.mpr
    ⟨.inr rfl, List.mem_singleton_self _⟩

end BtDaemon.FastPair
