import BtDaemon.FastPair.Messages
import BtDaemon.Foundation.Transition
import Mathlib.Data.List.Chain

/-!
# Reading a Message Stream

One task reads the stream and decodes frames, another one applies them, and a channel is between
them. A frame that is not understood is ignored. The tables of reports are the provider's, not the
stream's: the reconciler removes the battery report of a device that it found disconnected, and
the teardown of an earlier stream removes what it finds. Whatever the reads and whichever task
runs, what is known of a provider is what the last message of each kind says since then, and the
clients are told of every change of it.
-/

namespace BtDaemon.FastPair.Session

open BtDaemon.FastPair.Stream (Frame Fits drain drain_append drain_frames drain_left drain_short
  push)
open Transition

/-! ## Frames -/

def audioSwitchGroup : UInt8 := 0x07
def acknowledgementGroup : UInt8 := 0xff
def audioSwitchCapabilityCode : UInt8 := 0x11
def ackCode : UInt8 := 0x01

inductive Effect where
  | report (report : BatteryReport)
  | runtime (value : RuntimeValue)
  /-- Tell the provider what this seeker supports. -/
  | answerQuery
  | resolve (group message : UInt8) (result : Except String Unit)

def nakReason (reason : UInt8) : String :=
  if reason = 0x00 then "not supported"
  else if reason = 0x01 then "device busy"
  else if reason = 0x02 then "not allowed in the current state"
  else if reason = 0x03 then "message authentication failed"
  else if reason = 0x04 then "redundant device action"
  else "unknown provider rejection"

def applyDeviceInformation (code : UInt8) (payload : List UInt8) :
    Except String (Option Effect) :=
  match code with
  | 0x03 => (some <| .report ·) <$> BatteryReport.fromPayload payload
  | 0x0a => (some <| .runtime <| .sessionNonce <| ofBytes 64 ·) <$>
      decodeFixed 8 payload "session nonce"
  | 0x01 => (some <| .runtime <| .modelId <| ofBytes 24 ·) <$> decodeFixed 3 payload "model ID"
  | 0x02 => (some <| .runtime <| .bleAddress <| ofBytes 48 ·) <$>
      decodeFixed 6 payload "BLE address"
  | _ => .ok none

def applyAcknowledgement (code : UInt8) (payload : List UInt8) : Option Effect :=
  match code, payload with
  | 0x01, group :: message :: _ => some (.resolve group message (.ok ()))
  | 0x02, reason :: group :: message :: _ =>
    some (.resolve group message (.error (nakReason reason)))
  | _, _ => none

/-- A frame, what became of the acknowledgement if it needs one, and the time. -/
structure Applied where
  frame : Frame
  acknowledged : Except String Unit
  unixTimeMs : ℕ

def applyFrame (applied : Applied) : Except String (Option Effect) :=
  match applied.frame.group, applied.frame.code with
  | 0x03, code => applyDeviceInformation code applied.frame.payload
  | 0x07, 0x10 => .ok (some .answerQuery)
  | 0x07, 0x32 => (some <| .runtime <| .lastSwitch ·) <$>
      notification applied.frame.payload applied.unixTimeMs
  | 0x07, 0x11 => do
    let capability ← decodeAudioSwitchCapability applied.frame.payload
    applied.acknowledged
    return some (.runtime (.multipoint capability))
  | 0x08, 0x13 => (some <| .runtime <| .noiseControl ·) <$> decodeAncState applied.frame.payload
  | 0xff, code => .ok (applyAcknowledgement code applied.frame.payload)
  | _, _ => .ok none

/-- The acknowledgement that is queued before a capability takes effect. -/
def acknowledgement (applied : Applied) : Option Frame :=
  match applyFrame applied with
  | .ok (some (.runtime (.multipoint _))) =>
    some ⟨acknowledgementGroup, ackCode, [audioSwitchGroup, audioSwitchCapabilityCode]⟩
  | _ => none

/-- What the frame does; an error is logged. -/
def Applied.effect (applied : Applied) : Option Effect :=
  match applyFrame applied with
  | .ok effect => effect
  | .error _ => none

/-! ## What is known of the provider -/

/-- The entries of one address in the two tables. -/
structure Reports where
  runtime : Option RuntimeReport
  report : Option BatteryReport
  deriving DecidableEq

/-- `target.as_ref() == Some(&value)` -/
def holds (report : RuntimeReport) : RuntimeValue → Bool
  | .sessionNonce value => report.sessionNonce == some value
  | .modelId value => report.modelId == some value
  | .bleAddress value => report.bleAddress == some value
  | .multipoint value => report.multipoint == some value
  | .noiseControl value => report.noiseControl == some value
  | .lastSwitch value => report.lastSwitch == some value

/-- What is done to the entries: a message of the stream has an effect, `remove_report` is called,
or an earlier `connection_ended` removes the runtime report. -/
inductive Touch where
  | effect (effect : Effect)
  | removeReport
  | removeRuntime

def Touch.ofStream : Touch → Option Effect
  | .effect done => some done
  | .removeReport | .removeRuntime => none

/-- The reports and whether the clients are told at once. -/
def update (reports : Reports) : Touch → Reports × Bool
  | .effect (.report report) =>
    ({ reports with report := some report }, reports.report != some report)
  | .effect (.runtime value) =>
    let runtime := reports.runtime.getD {}
    if holds runtime value then (reports, false)
    else ({ reports with runtime := some (runtime.set value) }, true)
  | .effect .answerQuery | .effect (.resolve _ _ _) => (reports, false)
  | .removeReport => ({ reports with report := none }, reports.report.isSome)
  | .removeRuntime => ({ reports with runtime := none }, false)

/-- What the last touch that has a value says. -/
def latest {Value : Type} (select : Touch → Option Value) (initial : Value)
    (touches : List Touch) : Value := ((touches.filterMap select).getLast?).getD initial

def reportTouch : Touch → Option (Option BatteryReport)
  | .effect (.report report) => some (some report)
  | .removeReport => some none
  | _ => none

/-- Whether there is an entry with a runtime report. -/
def runtimeTouch : Touch → Option Bool
  | .effect (.runtime _) => some true
  | .removeRuntime => some false
  | _ => none

/-- One value of the runtime report, which goes away with the report. -/
def valueTouch {Value : Type} (select : RuntimeValue → Option Value) :
    Touch → Option (Option Value)
  | .effect (.runtime value) => (select value).map some
  | .removeRuntime => some none
  | _ => none

def sessionNonce : RuntimeValue → Option (BitVec 64)
  | .sessionNonce value => some value
  | _ => none

def modelId : RuntimeValue → Option (BitVec 24)
  | .modelId value => some value
  | _ => none

def bleAddress : RuntimeValue → Option Address
  | .bleAddress value => some value
  | _ => none

def multipoint : RuntimeValue → Option FastPairMultipoint
  | .multipoint value => some value
  | _ => none

def noiseControl : RuntimeValue → Option FastPairNoiseControl
  | .noiseControl value => some value
  | _ => none

def lastSwitch : RuntimeValue → Option FastPairSwitchEvent
  | .lastSwitch value => some value
  | _ => none

/-- Of each value of the runtime report the last message counts. -/
def values (initial : RuntimeReport) (touches : List Touch) : RuntimeReport where
  sessionNonce := latest (valueTouch sessionNonce) initial.sessionNonce touches
  modelId := latest (valueTouch modelId) initial.modelId touches
  bleAddress := latest (valueTouch bleAddress) initial.bleAddress touches
  multipoint := latest (valueTouch multipoint) initial.multipoint touches
  noiseControl := latest (valueTouch noiseControl) initial.noiseControl touches
  lastSwitch := latest (valueTouch lastSwitch) initial.lastSwitch touches

def summary (initial : Reports) (touches : List Touch) : Reports where
  runtime :=
    if latest runtimeTouch initial.runtime.isSome touches then
      some (values (initial.runtime.getD {}) touches)
    else none
  report := latest reportTouch initial.report touches

section Summary

variable {Value : Type} (initial : Reports) (touches : List Touch)

theorem latest_concat (select : Touch → Option Value) (first : Value) (touch : Touch) :
    latest select first (touches ++ [touch]) = (select touch).getD (latest select first touches) := by
  rw [latest, List.filterMap_append]
  cases hselect : select touch with
  | none => rw [List.filterMap_cons_none hselect, List.filterMap_nil, List.append_nil]; rfl
  | some value =>
    rw [List.filterMap_cons_some hselect, List.filterMap_nil, List.getLast?_concat]
    rfl

/-- Without an entry there is no value. -/
theorem summary_runtime_getD :
    (summary initial touches).runtime.getD {} = values (initial.runtime.getD {}) touches := by
  induction touches using List.reverseRecOn with
  | nil =>
    change (if initial.runtime.isSome then some (initial.runtime.getD {}) else none).getD {} = _
    cases initial.runtime <;> rfl
  | append_singleton touches touch ih =>
    cases touch with
    | effect effect =>
      cases effect with
      | runtime value => simp only [summary, latest_concat]; rfl
      | report | answerQuery | resolve =>
        simp only [summary, values, latest_concat] at ih ⊢
        exact ih
    | removeReport =>
      simp only [summary, values, latest_concat] at ih ⊢
      exact ih
    | removeRuntime => simp only [summary, values, latest_concat]; rfl

/-- One more value of the runtime report. -/
theorem values_concat (first : RuntimeReport) (value : RuntimeValue) :
    values first (touches ++ [.effect (.runtime value)]) = (values first touches).set value := by
  cases value <;> simp only [values, latest_concat] <;> rfl

theorem summary_runtime (value : RuntimeValue) :
    summary initial (touches ++ [.effect (.runtime value)]) =
      { summary initial touches with
        runtime := some (((summary initial touches).runtime.getD {}).set value) } := by
  rw [summary_runtime_getD, ← values_concat]
  simp only [summary, latest_concat]
  rfl

end Summary

theorem set_of_holds {report : RuntimeReport} {value : RuntimeValue}
    (hholds : holds report value = true) :
    report.set value = report := by
  cases value <;> simp only [holds, beq_iff_eq] at hholds <;> rw [RuntimeReport.set, ← hholds]

/-- A value that is not there yet makes a difference. -/
theorem set_ne_of_not_holds {report : RuntimeReport} {value : RuntimeValue}
    (hholds : holds report value = false) : report.set value ≠ report := by
  intro hsame
  cases value <;> simp only [holds, beq_eq_false_iff_ne] at hholds <;> rw [← hsame] at hholds <;>
    exact hholds rfl

/-- A value that is there is in an entry. -/
theorem runtime_of_holds {runtime : Option RuntimeReport} {value : RuntimeValue}
    (hholds : holds (runtime.getD {}) value = true) : runtime = some (runtime.getD {}) := by
  cases runtime with
  | some => rfl
  | none => cases value <;> cases hholds

/-- An update gives the summary with the new touch. -/
theorem update_summary (initial : Reports) (touches : List Touch) (touch : Touch) :
    (update (summary initial touches) touch).1 = summary initial (touches ++ [touch]) := by
  cases touch with
  | effect effect =>
    cases effect with
    | report | answerQuery | resolve =>
      simp only [summary, values, latest_concat]
      rfl
    | runtime value =>
      rw [summary_runtime, update]
      split
      · next hholds =>
        rw [set_of_holds hholds, ← runtime_of_holds hholds]
      · rfl
  | removeReport | removeRuntime =>
    simp only [summary, values, latest_concat]
    rfl

/-- The clients are told exactly of a change, except that `connection_ended` tells them of the
runtime report later. -/
theorem update_told (reports : Reports) {touch : Touch} (htouch : touch ≠ .removeRuntime) :
    (update reports touch).2 = true ↔ (update reports touch).1 ≠ reports := by
  cases touch with
  | effect effect =>
    cases effect with
    | report report =>
      change (_ != _) = true ↔ _
      rw [bne_iff_ne, not_iff_not]
      constructor
      · intro hsame
        rw [update, ← hsame]
      · intro hsame
        exact (congrArg Reports.report hsame).symm
    | runtime value =>
      rw [update]
      split
      · exact ⟨nofun, fun hdiffers ↦ absurd rfl hdiffers⟩
      · next hholds =>
        refine ⟨fun _ hsame ↦ ?_, fun _ ↦ rfl⟩
        have hruntime := congrArg (fun other ↦ (Reports.runtime other).getD {}) hsame
        exact set_ne_of_not_holds (Bool.eq_false_iff.mpr hholds) hruntime
    | answerQuery | resolve => exact ⟨nofun, fun hdiffers ↦ absurd rfl hdiffers⟩
  | removeReport =>
    rw [update, Option.isSome_iff_ne_none]
    refine not_congr ⟨fun hnone ↦ ?_, fun hsame ↦ (congrArg Reports.report hsame).symm⟩
    rw [← hnone]
  | removeRuntime => exact absurd rfl htouch

/-! ## The tasks of a stream -/

structure State where
  /-- The bytes that were read and decoded. -/
  taken : List UInt8
  buffered : List UInt8
  /-- Frames on their way into the channel. -/
  forwarding : List Frame
  channel : List Frame
  endOfStream : Bool
  applied : List Applied
  reports : Reports
  /-- What was done to the reports since the stream was installed. -/
  touches : List Touch
  /-- Earlier teardowns that removed a runtime report and have not told the clients yet. -/
  owed : ℕ
  /-- What the clients could ask for at each broadcast, the last one first. -/
  announced : List Reports
  /-- Frames for the provider that the stream queues itself. -/
  queued : List Frame
  ended : Option (Except String Unit)

inductive Action where
  | read (bytes : List UInt8)
  | readEnd
  | readError (message : String)
  | forward
  | apply (acknowledged : Except String Unit) (unixTimeMs : ℕ)
  | writeError (message : String)
  /-- All frames were applied after the end of the stream. -/
  | finish
  /-- `remove_report`, called by `reconcile_device` or by an earlier `connection_ended`. -/
  | removeReport
  /-- An earlier `connection_ended` removes the runtime report, and tells the clients later. -/
  | removeRuntime
  | tellRemoved

def framesCapacity : ℕ := 32

/-- The queries for what can be switched and for the noise control. -/
def queries : List Frame :=
  [⟨audioSwitchGroup, 0x10, []⟩, ⟨hearableControlsGroup, 0x11, []⟩]

namespace State

/-- `install_writer` enters a runtime report, if there is none. -/
def install (earlier : Reports) : Reports :=
  { earlier with runtime := some (earlier.runtime.getD {}) }

/-- The stream after `install_writer`, which tells the clients, and the queries. -/
def init (earlier : Reports) (owed : ℕ) : State :=
  ⟨[], [], [], [], false, [], install earlier, [], owed, [install earlier], queries, none⟩

def touch (state : State) (touch : Touch) : State :=
  let (reports, told) := update state.reports touch
  { state with
    reports := reports
    touches := state.touches ++ [touch]
    announced := if told then reports :: state.announced else state.announced }

def apply (state : State) (applied : Applied) : State :=
  match applied.effect with
  | none => { state with applied := state.applied ++ [applied] }
  | some effect =>
    { state.touch (.effect effect) with
      applied := state.applied ++ [applied]
      queued := state.queued ++ (acknowledgement applied).toList }

def step (state : State) (action : Action) : Option State :=
  if state.ended.isSome then none
  else
    match action with
    | .read bytes =>
      if state.forwarding = [] ∧ state.endOfStream = false ∧
          1 ≤ bytes.length ∧ bytes.length ≤ 512 then
        match push state.buffered bytes with
        | (left, .ok frames) =>
          some { state with
            taken := state.taken ++ bytes, buffered := left, forwarding := frames }
        | (_, .error message) => some { state with ended := some (.error message) }
      else none
    | .readEnd =>
      if state.forwarding = [] then some { state with endOfStream := true } else none
    | .readError message | .writeError message =>
      some { state with ended := some (.error message) }
    | .forward =>
      match state.forwarding with
      | [] => none
      | frame :: rest =>
        if state.channel.length < framesCapacity then
          some { state with forwarding := rest, channel := state.channel ++ [frame] }
        else none
    | .apply acknowledged unixTimeMs =>
      match state.channel with
      | [] => none
      | frame :: rest =>
        some ({ state with channel := rest }.apply ⟨frame, acknowledged, unixTimeMs⟩)
    | .finish =>
      if state.endOfStream = true ∧ state.forwarding = [] ∧ state.channel = [] then
        some { state with ended := some (.ok ()) }
      else none
    | .removeReport => some (state.touch .removeReport)
    | .removeRuntime =>
      some { state.touch .removeRuntime with
        owed := if state.reports.runtime.isSome then state.owed + 1 else state.owed }
    | .tellRemoved =>
      if 0 < state.owed then
        some { state with
          owed := state.owed - 1, announced := state.reports :: state.announced }
      else none

end State

/-- The stream over what an earlier one has left. -/
def system (earlier : Reports) (owed : ℕ) : System State Action :=
  ⟨State.init earlier owed, State.step⟩

/-! ## What a session does -/

def effects (applied : List Applied) : List Effect := applied.filterMap Applied.effect

/-- What is stored, and what the clients were told of it. -/
structure Told (earlier : Reports) (owed : ℕ) (state : State) : Prop where
  reports : state.reports = summary (State.install earlier) state.touches
  /-- The clients are told of each change, at the latest when no teardown has still to tell. -/
  announced : state.owed = 0 → ∃ before, state.announced = state.reports :: before
  /-- They are told of nothing else unless an earlier teardown comes in between. -/
  changes : owed = 0 → Touch.removeRuntime ∉ state.touches →
    state.owed = 0 ∧ state.announced.IsChain (· ≠ ·)

structure Faithful (earlier : Reports) (owed : ℕ) (state : State) : Prop
    extends Told earlier owed state where
  /-- The frames that were applied, those in the channel and those on their way into it are the
  frames of the bytes that were read. -/
  frames : drain state.taken = (state.buffered,
    .ok (state.applied.map Applied.frame ++ state.channel ++ state.forwarding))
  effects : state.touches.filterMap Touch.ofStream = effects state.applied
  /-- A capability takes effect only after its acknowledgement was queued. -/
  queued : state.queued = queries ++ state.applied.filterMap acknowledgement
  /-- A session that ends well applied everything. -/
  finished : state.ended = some (.ok ()) → state.channel = [] ∧ state.forwarding = []

variable {earlier : Reports} {owed : ℕ}

/-- One touch of the reports. A removed runtime report is still to be told. -/
theorem Told.touch {state : State} (htold : Told earlier owed state) (touch : Touch) {later : ℕ}
    (howed : touch ≠ .removeRuntime → later = state.owed)
    (hremoved : touch = .removeRuntime → later = 0 →
      state.owed = 0 ∧ state.reports.runtime = none) :
    Told earlier owed { state.touch touch with owed := later } := by
  have hreports : (update state.reports touch).1 =
      summary (State.install earlier) (state.touches ++ [touch]) := by
    rw [htold.reports]
    exact update_summary _ _ touch
  refine ⟨hreports, fun hnone ↦ ?_, fun hclean hkept ↦ ?_⟩
  · change ∃ before, (if (update state.reports touch).2 = true then _ else _) = _
    split
    · exact ⟨_, rfl⟩
    · next hsame =>
      have hstays : state.owed = 0 ∧ (update state.reports touch).1 = state.reports := by
        by_cases hruntime : touch = .removeRuntime
        · subst hruntime
          obtain ⟨hidle, hgone⟩ := hremoved rfl hnone
          refine ⟨hidle, ?_⟩
          rw [update, ← hgone]
        · have hstays := not_not.mp (mt (update_told _ hruntime).mpr hsame)
          exact ⟨(howed hruntime).symm.trans hnone, hstays⟩
      obtain ⟨before, hbefore⟩ := htold.announced hstays.1
      refine ⟨before, hbefore.trans ?_⟩
      rw [← hstays.2]
      rfl
  · have hruntime : touch ≠ .removeRuntime := fun hremoves ↦
      hkept (List.mem_append_right _ (hremoves ▸ List.mem_singleton_self _))
    obtain ⟨hidle, hchain⟩ := htold.changes hclean fun hmem ↦ hkept (List.mem_append_left _ hmem)
    refine ⟨(howed hruntime).trans hidle, ?_⟩
    obtain ⟨before, hbefore⟩ := htold.announced hidle
    change List.IsChain _ (if (update state.reports touch).2 = true then _ else _)
    split
    · next hchanged =>
      rw [hbefore, List.isChain_cons_cons]
      exact ⟨(update_told _ hruntime).mp hchanged, hbefore ▸ hchain⟩
    · exact hchain

namespace Faithful

variable {state next : State}

theorem init : Faithful earlier owed (State.init earlier owed) where
  reports := rfl
  announced _ := ⟨[], rfl⟩
  changes hclean _ := ⟨hclean, List.isChain_singleton _⟩
  frames := drain_short (show ([] : List UInt8).length < 4 by decide)
  effects := rfl
  queued := rfl
  finished := nofun

/-- A frame without effect needs no acknowledgement. -/
theorem acknowledgement_of_none {applied : Applied} (hnone : applied.effect = none) :
    acknowledgement applied = none := by
  unfold acknowledgement
  unfold Applied.effect at hnone
  split
  · next capability hcapability =>
    rw [hcapability] at hnone
    cases hnone
  · rfl

theorem apply (hfaithful : Faithful earlier owed state) (hopen : state.ended = none)
    {frame : Frame} {rest : List Frame} (hchannel : state.channel = frame :: rest)
    {applied : Applied} (happlied : applied.frame = frame) :
    Faithful earlier owed ({ state with channel := rest }.apply applied) := by
  have hframes : drain state.taken = (state.buffered,
      .ok ((state.applied ++ [applied]).map Applied.frame ++ rest ++ state.forwarding)) := by
    rw [hfaithful.frames, hchannel, List.map_append, List.map_singleton, happlied]
    simp only [List.append_assoc, List.cons_append, List.nil_append]
  have hfinished : state.ended = some (.ok ()) → rest = [] ∧ state.forwarding = [] := by
    intro hended
    rw [hopen] at hended
    cases hended
  unfold State.apply
  cases heffect : applied.effect with
  | none =>
    refine ⟨⟨hfaithful.reports, hfaithful.announced, hfaithful.changes⟩, hframes, ?_, ?_, hfinished⟩
    · rw [hfaithful.effects, Session.effects, Session.effects, List.filterMap_append,
        List.filterMap_cons_none heffect, List.filterMap_nil, List.append_nil]
    · rw [hfaithful.queued, List.filterMap_append,
        List.filterMap_cons_none (acknowledgement_of_none heffect), List.filterMap_nil,
        List.append_nil]
  | some effect =>
    have htold := hfaithful.toTold.touch (.effect effect) (fun _ ↦ rfl) nofun
    refine ⟨⟨htold.reports, htold.announced, htold.changes⟩, hframes, ?_, ?_, hfinished⟩
    · change (state.touches ++ [Touch.effect effect]).filterMap Touch.ofStream = _
      rw [List.filterMap_append, hfaithful.effects, Session.effects, Session.effects,
        List.filterMap_append, List.filterMap_cons_some heffect]
      rfl
    · change state.queued ++ _ = _
      rw [hfaithful.queued, List.filterMap_append, List.append_assoc]
      cases hacknowledgement : acknowledgement applied with
      | none => rw [List.filterMap_cons_none hacknowledgement]; rfl
      | some frame => rw [List.filterMap_cons_some hacknowledgement]; rfl

/-- A step of another task on the reports. -/
theorem remove (hfaithful : Faithful earlier owed state) {touch : Touch}
    (hremoves : touch.ofStream = none) {later : ℕ}
    (htold : Told earlier owed { state.touch touch with owed := later }) :
    Faithful earlier owed { state.touch touch with owed := later } where
  toTold := htold
  frames := hfaithful.frames
  effects := by
    change (state.touches ++ [touch]).filterMap Touch.ofStream = _
    rw [List.filterMap_append, List.filterMap_cons_none hremoves, List.filterMap_nil,
      List.append_nil]
    exact hfaithful.effects
  queued := hfaithful.queued
  finished := hfaithful.finished

/-- An earlier teardown tells the clients of what there is now. -/
theorem tellRemoved (hfaithful : Faithful earlier owed state) (howed : 0 < state.owed) :
    Faithful earlier owed { state with
      owed := state.owed - 1, announced := state.reports :: state.announced } where
  reports := hfaithful.reports
  announced _ := ⟨_, rfl⟩
  changes hclean hkept := by
    obtain ⟨hidle, -⟩ := hfaithful.changes hclean hkept
    omega
  frames := hfaithful.frames
  effects := hfaithful.effects
  queued := hfaithful.queued
  finished := hfaithful.finished

/-- A read that completes frames is taken once the frames of the last one are in the channel. -/
theorem read (hfaithful : Faithful earlier owed state) (hopen : state.ended = none)
    {bytes left : List UInt8} {frames : List Frame} (hempty : state.forwarding = [])
    (hpush : push state.buffered bytes = (left, .ok frames)) :
    Faithful earlier owed
      { state with taken := state.taken ++ bytes, buffered := left, forwarding := frames } := by
  refine ⟨⟨hfaithful.reports, hfaithful.announced, hfaithful.changes⟩, ?_, hfaithful.effects,
    hfaithful.queued, ?_⟩
  · have hframes := hfaithful.frames
    rw [hempty, List.append_nil] at hframes
    dsimp only
    rw [drain_append hframes bytes,
      show drain (state.buffered ++ bytes) = (left, .ok frames) from hpush]
    rfl
  · intro hended
    dsimp only at hended
    rw [hopen] at hended
    cases hended

theorem forward (hfaithful : Faithful earlier owed state) (hopen : state.ended = none)
    {frame : Frame} {rest : List Frame} (hforwarding : state.forwarding = frame :: rest) :
    Faithful earlier owed
      { state with forwarding := rest, channel := state.channel ++ [frame] } := by
  refine ⟨⟨hfaithful.reports, hfaithful.announced, hfaithful.changes⟩, ?_, hfaithful.effects,
    hfaithful.queued, ?_⟩
  · dsimp only
    rw [hfaithful.frames, hforwarding]
    simp only [List.append_assoc, List.cons_append, List.nil_append]
  · intro hended
    dsimp only at hended
    rw [hopen] at hended
    cases hended

/-- An error drops what was not applied. -/
theorem fail (hfaithful : Faithful earlier owed state) (message : String) :
    Faithful earlier owed { state with ended := some (.error message) } where
  reports := hfaithful.reports
  announced := hfaithful.announced
  changes := hfaithful.changes
  frames := hfaithful.frames
  effects := hfaithful.effects
  queued := hfaithful.queued
  finished := nofun

theorem step {action : Action} (hfaithful : Faithful earlier owed state)
    (hstep : state.step action = some next) : Faithful earlier owed next := by
  obtain ⟨hrunning, hstep⟩ := Option.ite_none_left_eq_some.mp hstep
  have hopen : state.ended = none := by simpa using hrunning
  cases action with
  | read bytes =>
    obtain ⟨⟨hempty, -⟩, hpushed⟩ := Option.ite_none_right_eq_some.mp hstep
    split at hpushed
    · next left frames hpush =>
      obtain rfl := Option.some.inj hpushed
      exact hfaithful.read hopen hempty hpush
    · obtain rfl := Option.some.inj hpushed
      exact hfaithful.fail _
  | readEnd =>
    obtain ⟨-, hnext⟩ := Option.ite_none_right_eq_some.mp hstep
    obtain rfl := Option.some.inj hnext
    exact ⟨⟨hfaithful.reports, hfaithful.announced, hfaithful.changes⟩, hfaithful.frames,
      hfaithful.effects, hfaithful.queued, hfaithful.finished⟩
  | readError message | writeError message =>
    obtain rfl := Option.some.inj hstep
    exact hfaithful.fail message
  | forward =>
    dsimp only at hstep
    split at hstep
    · cases hstep
    · next frame rest hforwarding =>
      obtain ⟨-, hnext⟩ := Option.ite_none_right_eq_some.mp hstep
      obtain rfl := Option.some.inj hnext
      exact hfaithful.forward hopen hforwarding
  | apply acknowledged unixTimeMs =>
    dsimp only at hstep
    split at hstep
    · cases hstep
    · next frame rest hchannel =>
      obtain rfl := Option.some.inj hstep
      exact hfaithful.apply hopen hchannel rfl
  | finish =>
    obtain ⟨⟨-, hforwarding, hchannel⟩, hnext⟩ := Option.ite_none_right_eq_some.mp hstep
    obtain rfl := Option.some.inj hnext
    exact ⟨⟨hfaithful.reports, hfaithful.announced, hfaithful.changes⟩, hfaithful.frames,
      hfaithful.effects, hfaithful.queued, fun _ ↦ ⟨hchannel, hforwarding⟩⟩
  | removeReport =>
    obtain rfl := Option.some.inj hstep
    exact hfaithful.remove rfl (hfaithful.toTold.touch .removeReport (fun _ ↦ rfl) nofun)
  | removeRuntime =>
    obtain rfl := Option.some.inj hstep
    refine hfaithful.remove rfl (hfaithful.toTold.touch .removeRuntime
      (fun hruntime ↦ absurd rfl hruntime) fun _ hidle ↦ ?_)
    split at hidle
    · cases hidle
    · next hnone => exact ⟨hidle, Option.not_isSome_iff_eq_none.mp hnone⟩
  | tellRemoved =>
    obtain ⟨howed, hnext⟩ := Option.ite_none_right_eq_some.mp hstep
    obtain rfl := Option.some.inj hnext
    exact hfaithful.tellRemoved howed

end Faithful

/-- A battery report that is too short and one that is complete. -/
def batteries : List Frame := [⟨3, 3, [50]⟩, ⟨3, 3, [100, 90, 0xff]⟩]

/-- What an earlier stream left, with its teardown still to come. -/
def left : Reports := ⟨none, some ⟨some 10, some 10, none, (false, false, true)⟩⟩

def reporting : List Action :=
  [.read (batteries.flatMap Frame.bytes), .forward, .forward, .apply (.ok ()) 0, .removeRuntime,
    .removeReport, .readEnd, .apply (.ok ()) 0, .tellRemoved, .finish]

end BtDaemon.FastPair.Session
