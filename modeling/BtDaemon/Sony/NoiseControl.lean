import BtDaemon.Sony.Session
import BtDaemon.Storage.AccountKeys

/-!
# Noise control of Sony headphones

The headphones report whether noise control is enabled, whether it lets ambient sound in, and
settings that a change of the mode has to keep. A report that was accepted has a type that is
known and a level in its range, so that a command made of it is one that the headphones accept.
-/

namespace BtDaemon.Sony

def ncAsmRet : UInt8 := 0x67

def ncAsmSet : UInt8 := 0x68

def ncAsmNotify : UInt8 := 0x69

def modes : List String := ["transparent", "off", "noise-cancelling"]

/-- The state of noise control. -/
structure NcAsm where
  inquired : UInt8
  enabled : Bool
  ambient : Bool
  /-- Present on models that can reduce the noise of wind. -/
  wind : Option UInt8
  focusOnVoice : Bool
  level : UInt8
  supported : inquired ∈ ncAsmTypes
  bounded : level ≤ 20
  deriving DecidableEq

namespace NcAsm

/-- The reduction of wind is none of the modes. -/
def activeMode (self : NcAsm) : Option String :=
  match self.enabled, self.ambient, self.wind with
  | false, _, _ => some "off"
  | true, _, some 0x03 => none
  | true, _, some 0x05 => none
  | true, true, _ => some "transparent"
  | true, false, _ => some "noise-cancelling"

/-- The state with another mode, and everything else as it was. -/
def withMode (self : NcAsm) (enabled ambient : Bool) : NcAsm :=
  { self with enabled, ambient, wind := self.wind.map fun _ ↦ 0x02 }

end NcAsm

/-! ## Payloads -/

/-- The fields of a report. -/
def checkNcAsm (inquired enabled ambient : UInt8) (wind : Option UInt8) (voice level : UInt8) :
    Except String NcAsm :=
  if hsupported : inquired ∈ ncAsmTypes then
    if hvalid : enabled ≤ 1 ∧ ambient ≤ 1 ∧ voice ≤ 1 ∧ level ≤ 20 then
      .ok ⟨inquired, enabled == 1, ambient == 1, wind, voice == 1, level, hsupported,
        hvalid.2.2.2⟩
    else .error "invalid Sony noise-control report"
  else .error ("unsupported Sony noise-control type 0x" ++ Storage.hexEncode [inquired])

def decodeNcAsm : List UInt8 → Except String NcAsm
  | [_, inquired, _, enabled, ambient, voice, level] =>
    checkNcAsm inquired enabled ambient none voice level
  | [_, inquired, _, enabled, ambient, wind, voice, level] =>
    checkNcAsm inquired enabled ambient (some wind) voice level
  | payload => .error ("Sony noise-control report has length " ++ toString payload.length)

def modeFields (mode : String) : Option (Bool × Bool) :=
  if mode = "noise-cancelling" then some (true, false)
  else if mode = "transparent" then some (true, true)
  else if mode = "off" then some (false, false)
  else none

def flag (value : Bool) : UInt8 := if value then 1 else 0

def ncAsmPayload (state : NcAsm) (mode : String) : Except String (List UInt8) :=
  match modeFields mode with
  | none => .error ("unsupported Sony noise-control mode " ++ mode ++
      "; expected transparent, off, or noise-cancelling")
  | some (enabled, ambient) =>
    -- `1` marks a change that is settled.
    .ok ([ncAsmSet, state.inquired, 0x01, flag enabled, flag ambient] ++
      (if state.wind.isSome then [0x02] else []) ++ [flag state.focusOnVoice, state.level])

/-! ## Commands are reports -/

theorem modeFields_isSome (mode : String) : (modeFields mode).isSome = true ↔ mode ∈ modes := by
  rw [modes, List.mem_cons, List.mem_cons, List.mem_singleton, modeFields]
  constructor
  · intro hsome
    split at hsome
    · next hmode => exact .inr (.inr hmode)
    split at hsome
    · next hmode => exact .inl hmode
    split at hsome
    · next hmode => exact .inr (.inl hmode)
    · cases hsome
  · rintro (rfl | rfl | rfl) <;> rfl

@[simp]
theorem flag_le (value : Bool) : flag value ≤ 1 := by cases value <;> decide

@[simp]
theorem flag_beq (value : Bool) : (flag value == 1) = value := by cases value <;> rfl

theorem checkNcAsm_withMode (state : NcAsm) (enabled ambient : Bool) :
    checkNcAsm state.inquired (flag enabled) (flag ambient) (state.wind.map fun _ ↦ 0x02)
      (flag state.focusOnVoice) state.level = .ok (state.withMode enabled ambient) := by
  have hvalid : flag enabled ≤ 1 ∧ flag ambient ≤ 1 ∧ flag state.focusOnVoice ≤ 1 ∧
      state.level ≤ 20 := ⟨flag_le _, flag_le _, flag_le _, state.bounded⟩
  rw [checkNcAsm, dif_pos state.supported, dif_pos hvalid]
  simp only [flag_beq]
  rfl

/-- Read as a notification, a command is the state with the new mode. -/
theorem decode_ncAsmPayload {state : NcAsm} {mode : String} {payload : List UInt8}
    (hpayload : ncAsmPayload state mode = .ok payload) :
    ∃ enabled ambient, modeFields mode = some (enabled, ambient) ∧
      decodeNcAsm (ncAsmNotify :: payload.tail) = .ok (state.withMode enabled ambient) := by
  unfold ncAsmPayload at hpayload
  split at hpayload
  · cases hpayload
  next enabled ambient hmode =>
  obtain rfl := Except.ok.inj hpayload
  refine ⟨enabled, ambient, hmode, ?_⟩
  rw [← checkNcAsm_withMode]
  cases hwind : state.wind with
  | none => rfl
  | some wind => rfl

theorem activeMode_withMode {state : NcAsm} {mode : String} {enabled ambient : Bool}
    (hmode : modeFields mode = some (enabled, ambient)) :
    (state.withMode enabled ambient).activeMode = some mode := by
  unfold modeFields at hmode
  have hwind : ∀ wind, state.wind.map (fun _ ↦ (0x02 : UInt8)) = some wind → wind = 0x02 := by
    intro wind hsome
    obtain ⟨-, -, rfl⟩ := Option.map_eq_some_iff.mp hsome
    rfl
  split at hmode
  · next hname =>
    obtain ⟨rfl, rfl⟩ := Prod.mk.inj (Option.some.inj hmode)
    rw [hname, NcAsm.activeMode, NcAsm.withMode]
    cases state.wind <;> rfl
  split at hmode
  · next hname =>
    obtain ⟨rfl, rfl⟩ := Prod.mk.inj (Option.some.inj hmode)
    rw [hname, NcAsm.activeMode, NcAsm.withMode]
    cases state.wind <;> rfl
  split at hmode
  · next hname =>
    obtain ⟨rfl, rfl⟩ := Prod.mk.inj (Option.some.inj hmode)
    rw [hname]
    rfl
  · cases hmode

end BtDaemon.Sony
