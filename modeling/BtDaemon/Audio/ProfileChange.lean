import BtDaemon.Audio.Completion
import BtDaemon.Foundation.Transition

/-!
# Changing the active profile

The callbacks of one profile change run in the order in which the audio server sends events. The
parameter is set from the callback that sees the device's own properties, and the change is
confirmed by a later report of the active profile. Identifiers may be announced again, so that a
callback is one of an object that was bound under the identifier it carries.
-/

namespace BtDaemon.Audio

open Transition

/-! ## Profile parameters -/

inductive ParamType where
  | profile
  | enumProfile
  | other
  deriving DecidableEq

inductive PodType where
  | paramProfile
  | other
  deriving DecidableEq

/-- The keys of a profile object. -/
inductive PodKey where
  | index
  | name
  | description
  | available
  | priority
  | save
  | other
  deriving DecidableEq

inductive PodValue where
  | int (value : Int32)
  | id (value : UInt32)
  | string (value : String)
  | bool (value : Bool)
  | other
  deriving DecidableEq

/-- What a pod deserializes to. -/
inductive Pod where
  | object (type : PodType) (properties : List (PodKey × PodValue))
  | other
  deriving DecidableEq

def stripPrefix (start value : String) : Option String :=
  if start.toList.isPrefixOf value.toList then
    some (String.ofList (value.toList.drop start.toList.length))
  else none

def profileMode (name : String) : String :=
  if name = "off" then "off"
  else
    ([("a2dp-", "high-fidelity"), ("headset-", "headset"), ("handsfree-", "headset"),
      ("bap-", "le-audio"), ("asha-", "hearing-aid")].findSome? fun entry ↦
        (stripPrefix entry.1 name).map fun _ ↦ entry.2).getD "other"

def codecName (value : String) : Option String :=
  if value ≠ "" ∧ value.utf8ByteSize ≤ 64 ∧
      value.toList.all fun char ↦ char.isAlphanum || char ∈ ['_', '-', '.'] then some value
  else none

def profileCodec (name : String) : Option String :=
  ["a2dp-sink", "a2dp-source", "a2dp-duplex", "headset-head-unit", "handsfree-head-unit",
    "bap-broadcast-sink", "bap-broadcast-source", "bap-sink", "bap-source", "bap-duplex",
    "asha-sink"].findSome? fun base ↦
      ((stripPrefix base name).bind (stripPrefix "-")).bind codecName

structure ProfileValues where
  index : Option UInt32 := none
  name : Option String := none
  description : Option String := none
  available : Bool := false
  priority : Int32 := 0

/-- `SPA_PARAM_AVAILABILITY_no`. -/
def availabilityNo : UInt32 := 1

def ProfileValues.apply (self : ProfileValues) : PodKey × PodValue → ProfileValues
  | (.index, .int value) => { self with index := if 0 ≤ value then some value.toUInt32 else none }
  | (.name, .string value) => { self with name := some value }
  | (.description, .string value) => { self with description := some value }
  | (.available, .id value) => { self with available := value != availabilityNo }
  | (.priority, .int value) => { self with priority := value }
  | _ => self

def ProfileValues.finish (self : ProfileValues) : Option AudioProfile :=
  let name := self.name.getD ""
  self.index.map fun index ↦
    { index
      name
      description := self.description.getD ""
      available := self.available
      priority := self.priority
      mode := profileMode name
      codec := profileCodec name }

def parseProfile : Pod → Option AudioProfile
  | .object .paramProfile properties =>
    (properties.foldl ProfileValues.apply {}).finish
  | _ => none

/-! ## The callbacks -/

/-- The fields of a `ProfileChange` that no callback changes. -/
structure ProfileTarget where
  target : DeviceIdentity
  index : UInt32
  bytes : Pod

/-- A call of `set_param` on the device bound under the identifier. -/
structure SetParam where
  proxy : UInt32
  parameter : ParamType
  flags : UInt32
  pod : Pod
  deriving DecidableEq

/-- The cells of a profile change, with those that its callbacks capture. -/
structure ProfileChange where
  completion : Completion := none
  written : Bool := false
  targetId : Option UInt32 := none
  objects : Objects := ∅
  sent : List SetParam := []

/-- `bind` and `write` are what the registry and the writer return to the callback. -/
inductive ProfileCallback where
  | global (global : Global) (bind : Except String Unit)
  | globalRemove (id : UInt32)
  | info (proxy : UInt32) (properties : Option Dict) (write : Except String Unit)
  | param (proxy : UInt32) (parameter : ParamType) (pod : Option Pod)
  | coreError (id : UInt32) (code : Int32) (message : String)

def ProfileCallback.announcement : ProfileCallback → Option Global
  | .global announced _ => some announced
  | _ => none

namespace ProfileChange

variable (change : ProfileTarget) (self : ProfileChange)

/-- The writer sets the parameter last, so that it has set it exactly if it returns `Ok`. -/
def info (proxy : UInt32) (properties : Option Dict) (write : Except String Unit) :
    ProfileChange :=
  if self.completion.failed then self
  else
    match properties with
    | none => self
    | some properties =>
      if !devicePropertiesMatch change.target.adapter change.target.address properties then
        { self with
          completion := self.completion.fail "PipeWire Bluetooth device changed identity" }
      else if self.written then self
      else
        match write with
        | .ok () =>
          { self with
            written := true
            sent := self.sent ++ [⟨proxy, .profile, 0, change.bytes⟩] }
        | .error error =>
          { self with completion := self.completion.fail s!"write PipeWire profile: {error}" }

def observe (parameter : ParamType) (pod : Option Pod) : ProfileChange :=
  if self.written && parameter == .profile &&
      (pod.bind parseProfile).any fun profile ↦ profile.index == change.index then
    { self with completion := self.completion.succeed }
  else self

def applyProfile (global : Global) : Except String Unit → ProfileChange × Except String Unit
  | .error cause => (self, .error s!"bind PipeWire device for profile change: {cause}")
  | .ok () => ({ self with objects := self.objects.insert global.id .device }, .ok ())

def global (global : Global) (bind : Except String Unit) : ProfileChange :=
  if global.type != .device || !objectMatches global change.target.id change.target.serial then
    self
  else
    match applyProfile { self with targetId := some global.id } global bind with
    | (self, .ok ()) => self
    | (self, .error error) =>
      { self with
        completion := self.completion.fail s!"apply PipeWire Bluetooth profile: {error}" }

def globalRemove (id : UInt32) : ProfileChange :=
  if self.targetId = some id then
    { self with
      completion := self.completion.fail
        "PipeWire Bluetooth device disappeared during profile change" }
  else self

/-- Only the listeners of a retained object are called. -/
def step : ProfileCallback → Option ProfileChange
  | .global global bind => some (self.global change global bind)
  | .globalRemove id => some (self.globalRemove id)
  | .info proxy properties write =>
    if self.objects.lookup proxy = some .device then some (self.info change proxy properties write)
    else none
  | .param proxy parameter pod =>
    if self.objects.lookup proxy = some .device then some (self.observe change parameter pod)
    else none
  | .coreError id code message =>
    some { self with completion := self.completion.coreError id code message }

end ProfileChange

def profileSystem (change : ProfileTarget) : System ProfileChange ProfileCallback where
  init := {}
  step := ProfileChange.step change

/-- What `set_profile` returns when the loop ends. -/
def ProfileChange.result (self : ProfileChange) : Except String Unit :=
  match self.completion.wait with
  | .ok true => .ok ()
  | .ok false => .error <|
    "PipeWire profile activation was not observed before the deadline; " ++
      "the write may still complete"
  | .error error => .error error

namespace ProfileChange

/-! ## What a run of callbacks promises -/

/-- The globals of a history. -/
def announcements (history : List ProfileCallback) : List Global :=
  history.filterMap ProfileCallback.announcement

/-- The promises of a profile change, about the callbacks it saw and the state they left. -/
structure Safe (change : ProfileTarget) (callbacks : List ProfileCallback)
    (final : ProfileChange) : Prop where
  once : final.sent.length ≤ 1
  identified : ∀ write ∈ final.sent, ∃ before properties after state,
    callbacks = before ++ .info write.proxy (some properties) (.ok ()) :: after ∧
      (profileSystem change).run {} before = some state ∧
        state.completion.failed = false ∧ state.sent = [] ∧
          devicePropertiesMatch change.target.adapter change.target.address properties = true ∧
            Announced change.target (announcements before) write.proxy ∧
              write = ⟨write.proxy, .profile, 0, change.bytes⟩
  confirmed : final.result = .ok () → ∃ before proxy pod profile after state,
    callbacks = before ++ .param proxy .profile (some pod) :: after ∧
      (profileSystem change).run {} before = some state ∧
        Announced change.target (announcements before) proxy ∧
          parseProfile pod = some profile ∧ profile.index = change.index ∧ state.sent ≠ []
  failClosed : ∀ before after state, callbacks = before ++ after →
    (profileSystem change).run {} before = some state → state.completion.failed = true →
      final.completion.failed = true ∧ ∃ error, final.result = .error error

/-! ## One callback -/

/-- What one callback can do. -/
inductive Moves (change : ProfileTarget) (state : ProfileChange) :
    ProfileCallback → ProfileChange → Prop where
  | ignored (callback : ProfileCallback) : Moves change state callback state
  | bound (global : Global) (hdevice : IsDevice change.target global) :
    Moves change state (.global global (.ok ()))
      { state with
        targetId := some global.id
        objects := state.objects.insert global.id .device }
  | failed (callback : ProfileCallback) (targetId : Option UInt32) (error : String) :
    Moves change state callback
      { state with
        targetId := targetId
        completion := state.completion.fail error }
  | wrote (proxy : UInt32) (properties : Dict)
    (hbound : state.objects.lookup proxy = some .device)
    (hfailed : state.completion.failed = false) (hwritten : state.written = false)
    (hmatch : devicePropertiesMatch change.target.adapter change.target.address properties = true) :
    Moves change state (.info proxy (some properties) (.ok ()))
      { state with
        written := true
        sent := state.sent ++ [⟨proxy, .profile, 0, change.bytes⟩] }
  | confirmed (proxy : UInt32) (pod : Pod) (profile : AudioProfile)
    (hbound : state.objects.lookup proxy = some .device)
    (hwritten : state.written = true) (hparse : parseProfile pod = some profile)
    (hindex : profile.index = change.index) :
    Moves change state (.param proxy .profile (some pod))
      { state with completion := state.completion.succeed }

variable {change : ProfileTarget} {state next : ProfileChange}

theorem moves_info {proxy : UInt32} (hbound : state.objects.lookup proxy = some .device)
    (properties : Option Dict) (write : Except String Unit) :
    Moves change state (.info proxy properties write)
      (state.info change proxy properties write) := by
  unfold info
  split
  case isTrue => exact .ignored _
  case isFalse hfailed =>
    cases properties with
    | none => exact .ignored _
    | some properties =>
      dsimp only
      split
      case isTrue => exact .failed _ state.targetId _
      case isFalse hmatch =>
        split
        case isTrue => exact .ignored _
        case isFalse hwritten =>
          cases write with
          | error error => exact .failed _ state.targetId _
          | ok =>
            exact .wrote proxy properties hbound (Bool.of_not_eq_true hfailed)
              (Bool.of_not_eq_true hwritten) (by simpa using hmatch)

theorem moves_observe {proxy : UInt32} (hbound : state.objects.lookup proxy = some .device)
    (parameter : ParamType) (pod : Option Pod) :
    Moves change state (.param proxy parameter pod) (state.observe change parameter pod) := by
  unfold observe
  split
  case isFalse => exact .ignored _
  case isTrue hcondition =>
    simp only [Bool.and_eq_true, beq_iff_eq, Option.any_eq_true, Option.bind_eq_some_iff]
      at hcondition
    obtain ⟨⟨hwritten, rfl⟩, profile, ⟨pod, rfl, hparse⟩, hindex⟩ := hcondition
    exact .confirmed proxy pod profile hbound hwritten hparse hindex

theorem moves_global (global : Global) (bind : Except String Unit) :
    Moves change state (.global global bind) (state.global change global bind) := by
  unfold ProfileChange.global
  split
  case isTrue => exact .ignored _
  case isFalse hcondition =>
    have hdevice : IsDevice change.target global := by
      simp only [Bool.or_eq_true, bne_iff_ne, not_or, not_not, Bool.not_eq_true',
        Bool.not_eq_false] at hcondition
      exact ⟨hcondition.1, hcondition.2⟩
    cases bind with
    | error cause => exact .failed _ (some global.id) _
    | ok => exact .bound global hdevice

theorem moves_of_step {callback : ProfileCallback}
    (hstep : step change state callback = some next) : Moves change state callback next := by
  cases callback with
  | global global bind =>
    rw [← Option.some.inj hstep]
    exact moves_global global bind
  | globalRemove id =>
    rw [← Option.some.inj hstep, globalRemove]
    split
    · exact .failed _ state.targetId _
    · exact .ignored _
  | info proxy properties write =>
    obtain ⟨hbound, hnext⟩ := Option.ite_none_right_eq_some.mp hstep
    rw [← Option.some.inj hnext]
    exact moves_info hbound properties write
  | param proxy parameter pod =>
    obtain ⟨hbound, hnext⟩ := Option.ite_none_right_eq_some.mp hstep
    rw [← Option.some.inj hnext]
    exact moves_observe hbound parameter pod
  | coreError id code message =>
    rw [← Option.some.inj hstep]
    exact .failed _ state.targetId _

/-! ## Runs -/

/-- What is known of the state after the callbacks. -/
structure Holds (change : ProfileTarget) (history : List ProfileCallback)
    (state : ProfileChange) : Prop where
  announced : ∀ proxy listener, state.objects.lookup proxy = some listener →
    Announced change.target (announcements history) proxy
  counted : Counted state.written state.sent

variable {history callbacks : List ProfileCallback} {final : ProfileChange}

theorem announcements_append (history later : List ProfileCallback) :
    announcements (history ++ later) = announcements history ++ announcements later :=
  List.filterMap_append

theorem Holds.init (change : ProfileTarget) : Holds change [] {} where
  announced _ _ hlookup := by cases hlookup
  counted := rfl

theorem Holds.step {callback : ProfileCallback} (holds : Holds change history state)
    (hmoves : Moves change state callback next) :
    Holds change (history ++ [callback]) next := by
  have hannounced : ∀ proxy listener, state.objects.lookup proxy = some listener →
      Announced change.target (announcements (history ++ [callback])) proxy := by
    intro proxy listener hlookup
    rw [announcements_append]
    exact (holds.announced proxy listener hlookup).append _
  cases hmoves with
  | ignored => exact ⟨hannounced, holds.counted⟩
  | bound global hdevice =>
    refine ⟨?_, holds.counted⟩
    intro proxy listener hlookup
    dsimp only at hlookup
    rw [Table.lookup_insert] at hlookup
    split at hlookup
    case isTrue hproxy =>
      rw [announcements_append]
      exact ⟨global, List.mem_append_right _ (List.mem_singleton_self global), hdevice,
        hproxy.symm⟩
    case isFalse => exact hannounced proxy listener hlookup
  | failed => exact ⟨hannounced, holds.counted⟩
  | wrote proxy properties hbound hfailed hwritten hmatch =>
    exact ⟨hannounced, holds.counted.concat hwritten _⟩
  | confirmed => exact ⟨hannounced, holds.counted⟩

theorem holds_of_run (hrun : (profileSystem change).run {} callbacks = some final) :
    Holds change callbacks final :=
  (profileSystem change).run_history
    (fun _ _ _ _ holds hstep ↦ holds.step (moves_of_step hstep)) (Holds.init change) hrun

theorem failed_of_moves {callback : ProfileCallback} (hmoves : Moves change state callback next)
    (hfailed : state.completion.failed = true) : next.completion.failed = true := by
  cases hmoves with
  | ignored | bound | wrote => exact hfailed
  | failed => rfl
  | confirmed => rwa [Completion.failed_succeed]

theorem result_eq_ok : final.result = .ok () ↔ final.completion = some (.ok ()) := by
  rw [← Completion.wait_eq_true, result]
  cases final.completion.wait with
  | error error => simp
  | ok confirmed => cases confirmed <;> simp

/-- The callback that made a write saw the device, and found neither a failure nor a write. -/
theorem identified_of_run (hrun : (profileSystem change).run {} callbacks = some final)
    {write : SetParam} (hwrite : write ∈ final.sent) : ∃ before properties after state,
      callbacks = before ++ .info write.proxy (some properties) (.ok ()) :: after ∧
        (profileSystem change).run {} before = some state ∧
          state.completion.failed = false ∧ state.sent = [] ∧
            devicePropertiesMatch change.target.adapter change.target.address properties = true ∧
              Announced change.target (announcements before) write.proxy ∧
                write = ⟨write.proxy, .profile, 0, change.bytes⟩ := by
  obtain ⟨before, callback, after, state, next, rfl, hbefore, hstep, hnot, hsent, -⟩ :=
    (profileSystem change).run_begins (fun state ↦ write ∈ state.sent)
      List.not_mem_nil hrun hwrite
  have holds := holds_of_run hbefore
  cases moves_of_step hstep with
  | ignored | bound | failed | confirmed => exact absurd hsent hnot
  | wrote proxy properties hbound hfailed hwritten hmatch =>
    have hempty := holds.counted.eq_nil hwritten
    dsimp only at hsent
    rw [hempty, List.nil_append, List.mem_singleton] at hsent
    subst hsent
    exact ⟨before, properties, after, state, rfl, hbefore, hfailed, hempty, hmatch,
      holds.announced proxy _ hbound, rfl⟩

/-- The callback that confirmed the change saw the wanted profile after the write. -/
theorem confirmed_of_run (hrun : (profileSystem change).run {} callbacks = some final)
    (hresult : final.result = .ok ()) : ∃ before proxy pod profile after state,
      callbacks = before ++ .param proxy .profile (some pod) :: after ∧
        (profileSystem change).run {} before = some state ∧
          Announced change.target (announcements before) proxy ∧
            parseProfile pod = some profile ∧ profile.index = change.index ∧ state.sent ≠ [] := by
  obtain ⟨before, callback, after, state, next, rfl, hbefore, hstep, hnot, hok, -⟩ :=
    (profileSystem change).run_begins
      (fun state ↦ state.completion = some (.ok ())) (by simp) hrun
      (result_eq_ok.mp hresult)
  cases moves_of_step hstep with
  | ignored | bound | wrote => exact absurd hok hnot
  | failed => cases hok
  | confirmed proxy pod profile hbound hwritten hparse hindex =>
    have holds := holds_of_run hbefore
    exact ⟨before, proxy, pod, profile, after, state, rfl, hbefore, holds.announced proxy _ hbound,
      hparse, hindex, holds.counted.ne_nil hwritten⟩

theorem safe_of_run (hrun : (profileSystem change).run {} callbacks = some final) :
    Safe change callbacks final where
  once := (holds_of_run hrun).counted.le_one
  identified _ hwrite := identified_of_run hrun hwrite
  confirmed := confirmed_of_run hrun
  failClosed before after state hsplit hbefore hfailed := by
    subst hsplit
    have hfinal : final.completion.failed = true :=
      (profileSystem change).run_invariant_from
        (fun _ _ _ hfailed hstep ↦ failed_of_moves (moves_of_step hstep) hfailed) hbefore hfailed
        hrun
    obtain ⟨error, hwait⟩ := Completion.wait_of_failed hfinal
    exact ⟨hfinal, error, by rw [result, hwait]⟩

end ProfileChange

end BtDaemon.Audio
