import BtDaemon.Audio.ProfileChange

/-!
# Changing the default route

A route change needs the device and the node of its target and the default metadata, which the
audio server announces in any order and may announce again. The first callback that finds all of
them writes the preference. The change is confirmed when the latest observations of the configured
and of the effective default both name the node, and a deadline before that still reports which of
the two do.
-/

namespace BtDaemon.Audio

open Transition

/-! ## Default metadata -/

inductive Json where
  | string (text : String)
  | object (fields : List (String × Json))
  | other

def Json.get (self : Json) (key : String) : Option Json :=
  match self with
  | .object fields => fields.lookup key
  | _ => none

def Json.asStr : Json → Option String
  | .string text => some text
  | _ => none

/-- The functions of `serde_json`. -/
structure Serde where
  fromStr : String → Option Json
  toString : Json → String

def defaultNodeName (serde : Serde) (value : String) : Option String :=
  ((serde.fromStr value).bind (Json.get · "name")).bind Json.asStr

def configuredDefaultKey : EndpointKind → String
  | .sink => "default.configured.audio.sink"
  | .source => "default.configured.audio.source"

def effectiveDefaultKey : EndpointKind → String
  | .sink => "default.audio.sink"
  | .source => "default.audio.source"

def endpointKind : Option String → Option EndpointKind
  | some "Audio/Sink" => some .sink
  | some "Audio/Source" => some .source
  | _ => none

structure DefaultRouteOutcome where
  configured : Bool := false
  effective : Bool := false
  deriving DecidableEq

namespace DefaultRouteOutcome

def confirmed (self : DefaultRouteOutcome) (written : Bool) : Bool :=
  written && self.configured && self.effective

def observe (serde : Serde) (self : DefaultRouteOutcome) (kind : EndpointKind) (expected : String)
    (key value : Option String) : DefaultRouteOutcome :=
  let matched := value.bind (defaultNodeName serde) == some expected
  match key with
  | some key =>
    if key = configuredDefaultKey kind then { self with configured := matched }
    else if key = effectiveDefaultKey kind then { self with effective := matched }
    else self
  | none => {}

end DefaultRouteOutcome

/-! ## The callbacks -/

/-- The fields of a `RouteChange` that no callback changes. -/
structure RouteTarget where
  device : DeviceIdentity
  nodeId : UInt32
  nodeSerial : Option UInt64
  name : String
  kind : EndpointKind

/-- A call of `set_property` on the metadata bound under the identifier. -/
structure SetProperty where
  metadata : UInt32
  subject : UInt32
  key : String
  type : Option String
  value : Option String
  deriving DecidableEq

/-- The cells of a route change, with the objects that its listeners retain. -/
structure RouteChange where
  completion : Completion := none
  outcome : DefaultRouteOutcome := {}
  deviceSeen : Bool := false
  nodeSeen : Bool := false
  written : Bool := false
  metadataId : Option UInt32 := none
  metadata : Option UInt32 := none
  objects : Objects := ∅
  sent : List SetProperty := []

/-- `bind` is what the registry returns to the callback. -/
inductive RouteCallback where
  | global (global : Global) (bind : Except String Unit)
  | globalRemove (id : UInt32)
  | info (proxy : UInt32) (properties : Option Dict)
  | property (proxy subject : UInt32) (key value : Option String)
  | coreError (id : UInt32) (code : Int32) (message : String)

/-- The properties of a node that the endpoint must still have. -/
def RouteTarget.endpointMatches (self : RouteTarget) (global : Global) : Bool :=
  global.props.any fun props ↦
    (props.get "device.id").bind parseU32 == some self.device.id &&
      props.get "node.name" == some self.name &&
        endpointKind (props.get "media.class") == some self.kind

def isDefaultMetadata (global : Global) : Bool :=
  global.type == .metadata &&
    (global.props.bind fun props ↦ props.get "metadata.name") == some "default"

/-- The preference that is written to the metadata. -/
def RouteTarget.preference (self : RouteTarget) (serde : Serde) (metadata : UInt32) :
    SetProperty where
  metadata := metadata
  subject := 0
  key := configuredDefaultKey self.kind
  type := some "Spa:String:JSON"
  value := some (serde.toString (.object [("name", .string self.name)]))

namespace RouteChange

variable (serde : Serde) (change : RouteTarget) (self : RouteChange)

def fail (error : String) : RouteChange := { self with completion := self.completion.fail error }

def confirm : RouteChange :=
  if self.outcome.confirmed self.written then
    { self with completion := self.completion.succeed }
  else self

def writeIfReady : RouteChange :=
  if !self.deviceSeen || !self.nodeSeen || self.written || self.completion.failed then self
  else
    match self.metadata with
    | none => self
    | some metadata =>
      confirm { self with
        written := true
        sent := self.sent ++ [change.preference serde metadata] }

def info : Option Dict → RouteChange
  | none => self
  | some properties =>
    if !devicePropertiesMatch change.device.adapter change.device.address properties then
      self.fail "PipeWire routing device changed identity"
    else writeIfReady serde change { self with deviceSeen := true }

def bindDevice (global : Global) : Except String Unit → RouteChange × Except String Unit
  | .error cause => (self, .error s!"bind PipeWire routing device: {cause}")
  | .ok () => ({ self with objects := self.objects.insert global.id .device }, .ok ())

/-- Metadata that is announced again replaces the listener of the previous one. -/
def bindMetadata (global : Global) (bind : Except String Unit) :
    RouteChange × Except String Unit :=
  let objects := self.metadataId.elim self.objects self.objects.erase
  match bind with
  | .error cause =>
    ({ self with metadataId := some global.id, objects },
      .error s!"bind PipeWire default metadata: {cause}")
  | .ok () =>
    ({ self with
        metadataId := some global.id
        metadata := some global.id
        objects := objects.insert global.id .metadata }, .ok ())

/-- The part of `observe` that looks at the type of the global. -/
def recognize (global : Global) (bind : Except String Unit) : RouteChange × Except String Unit :=
  if global.type == .device && objectMatches global change.device.id change.device.serial then
    self.bindDevice global bind
  else if global.type == .node && objectMatches global change.nodeId change.nodeSerial then
    if change.endpointMatches global then ({ self with nodeSeen := true }, .ok ())
    else (self, .error "PipeWire endpoint changed identity")
  else if isDefaultMetadata global then self.bindMetadata global bind
  else (self, .ok ())

def observe (global : Global) (bind : Except String Unit) : RouteChange × Except String Unit :=
  match self.recognize change global bind with
  | (self, .ok ()) => (self.writeIfReady serde change, .ok ())
  | (self, .error error) => (self, .error error)

def global (global : Global) (bind : Except String Unit) : RouteChange :=
  match self.observe serde change global bind with
  | (self, .ok ()) => self
  | (self, .error error) => self.fail error

def globalRemove (id : UInt32) : RouteChange :=
  if self.metadataId = some id ∨ id = change.device.id ∨ id = change.nodeId then
    self.fail "PipeWire routing target or default metadata disappeared"
  else self

def property (subject : UInt32) (key value : Option String) : RouteChange :=
  if subject = 0 then
    confirm { self with outcome := self.outcome.observe serde change.kind change.name key value }
  else self

/-- Only the listeners of a retained object are called. -/
def step : RouteCallback → Option RouteChange
  | .global global bind => some (self.global serde change global bind)
  | .globalRemove id => some (self.globalRemove change id)
  | .info proxy properties =>
    if self.objects.lookup proxy = some .device then some (self.info serde change properties)
    else none
  | .property proxy subject key value =>
    if self.objects.lookup proxy = some .metadata then
      some (self.property serde change subject key value)
    else none
  | .coreError id code message =>
    some { self with completion := self.completion.coreError id code message }

/-- What `set_default_node` returns when the loop ends. -/
def result : Except String DefaultRouteOutcome :=
  match self.completion.wait with
  | .error error => .error error
  | .ok _ =>
    if self.written && self.outcome.configured then .ok self.outcome
    else .error <|
      "PipeWire did not confirm the requested default before the deadline " ++
        "(target may have disappeared)"

end RouteChange

def routeSystem (serde : Serde) (change : RouteTarget) : System RouteChange RouteCallback where
  init := {}
  step := RouteChange.step serde change

/-! ## What the callbacks have shown -/

def RouteCallback.announcement : RouteCallback → Option Global
  | .global announced _ => some announced
  | _ => none

/-- The default of the key, when the callback is an observation of it. -/
def observedDefault (serde : Serde) (key : String) (observed : Option String) :
    RouteCallback → Option String
  | .property _ subject changed value =>
    if subject = 0 then
      match changed with
      | some changed => if changed = key then value.bind (defaultNodeName serde) else observed
      | none => none
    else observed
  | _ => observed

/-- The node that the latest observation of the default names. -/
def latestDefault (serde : Serde) (key : String) (history : List RouteCallback) : Option String :=
  history.foldl (observedDefault serde key) none

def boundMetadata (bound : Option UInt32) : RouteCallback → Option UInt32
  | .global announced (.ok ()) => if isDefaultMetadata announced then some announced.id else bound
  | _ => bound

/-- The default metadata that was bound last. -/
def latestMetadata (history : List RouteCallback) : Option UInt32 := history.foldl boundMetadata none

namespace RouteChange

/-- The globals of a history. -/
def announcements (history : List RouteCallback) : List Global :=
  history.filterMap RouteCallback.announcement

/-- A device announced as the target's reported the target's properties. -/
def DeviceIdentified (change : RouteTarget) (history : List RouteCallback) : Prop :=
  ∃ proxy properties, .info proxy (some properties) ∈ history ∧
    Announced change.device (announcements history) proxy ∧
      devicePropertiesMatch change.device.adapter change.device.address properties = true

/-- The node of the endpoint was announced with the properties of the endpoint. -/
def NodeIdentified (change : RouteTarget) (history : List RouteCallback) : Prop :=
  ∃ global ∈ announcements history, global.type = .node ∧
    objectMatches global change.nodeId change.nodeSerial = true ∧
      change.endpointMatches global = true

/-- The promises of a route change, about the callbacks it saw and the state they left. -/
structure Safe (serde : Serde) (change : RouteTarget) (callbacks : List RouteCallback)
    (final : RouteChange) : Prop where
  once : final.sent.length ≤ 1
  identified : ∀ write ∈ final.sent, ∃ before callback after state,
    callbacks = before ++ callback :: after ∧
      (routeSystem serde change).run {} before = some state ∧
        state.completion.failed = false ∧ state.sent = [] ∧
          DeviceIdentified change (before ++ [callback]) ∧
            NodeIdentified change (before ++ [callback]) ∧
              latestMetadata (before ++ [callback]) = some write.metadata ∧
                write = change.preference serde write.metadata
  confirmed : final.completion = some (.ok ()) → ∃ before callback after next,
    callbacks = before ++ callback :: after ∧
      (routeSystem serde change).run {} (before ++ [callback]) = some next ∧ next.sent ≠ [] ∧
        latestDefault serde (configuredDefaultKey change.kind) (before ++ [callback]) =
            some change.name ∧
          latestDefault serde (effectiveDefaultKey change.kind) (before ++ [callback]) =
            some change.name
  reported : ∀ outcome, final.result = .ok outcome → final.sent ≠ [] ∧
    latestDefault serde (configuredDefaultKey change.kind) callbacks = some change.name ∧
      (outcome.effective = true ↔
        latestDefault serde (effectiveDefaultKey change.kind) callbacks = some change.name)
  failClosed : ∀ before after state, callbacks = before ++ after →
    (routeSystem serde change).run {} before = some state → state.completion.failed = true →
      final.completion.failed = true ∧ ∃ error, final.result = .error error

/-! ## One callback -/

variable {serde : Serde} {change : RouteTarget} {state next : RouteChange}

@[simp]
theorem sent_confirm : state.confirm.sent = state.sent := by
  unfold confirm
  split <;> rfl

@[simp]
theorem failed_confirm : state.confirm.completion.failed = state.completion.failed := by
  unfold confirm
  split
  · exact Completion.failed_succeed _
  · rfl

theorem confirm_eq (state : RouteChange) :
    ∃ completion, state.confirm = { state with completion := completion } := by
  unfold confirm
  split
  · exact ⟨_, rfl⟩
  · exact ⟨state.completion, rfl⟩

theorem confirmed_of_confirm (hbefore : state.completion ≠ some (.ok ()))
    (hafter : state.confirm.completion = some (.ok ())) :
    state.outcome.confirmed state.written = true := by
  unfold confirm at hafter
  split at hafter
  case isTrue hconfirmed => exact hconfirmed
  case isFalse => exact absurd hafter hbefore

/-- What the write requires. -/
structure Ready (state : RouteChange) (metadata : UInt32) : Prop where
  device : state.deviceSeen = true
  node : state.nodeSeen = true
  unwritten : state.written = false
  open' : state.completion.failed = false
  metadata : state.metadata = some metadata

theorem writeIfReady_cases (serde : Serde) (change : RouteTarget) (state : RouteChange) :
    state.writeIfReady serde change = state ∨ ∃ metadata, Ready state metadata ∧
      state.writeIfReady serde change = confirm { state with
        written := true
        sent := state.sent ++ [change.preference serde metadata] } := by
  unfold writeIfReady
  split
  case isTrue => exact .inl rfl
  case isFalse hcondition =>
    cases hmetadata : state.metadata with
    | none => exact .inl rfl
    | some metadata =>
      simp only [Bool.or_eq_true, Bool.not_eq_true', not_or, Bool.not_eq_false,
        Bool.not_eq_true] at hcondition
      obtain ⟨⟨⟨hdevice, hnode⟩, hwritten⟩, hfailed⟩ := hcondition
      exact .inr ⟨metadata, ⟨hdevice, hnode, hwritten, hfailed, hmetadata⟩, rfl⟩

/-! ## Histories -/

/-- The outcome as the history shows it. -/
def shown (serde : Serde) (change : RouteTarget) (history : List RouteCallback) :
    DefaultRouteOutcome where
  configured := latestDefault serde (configuredDefaultKey change.kind) history == some change.name
  effective := latestDefault serde (effectiveDefaultKey change.kind) history == some change.name

/-- What is known of the state after the callbacks. -/
structure Holds (serde : Serde) (change : RouteTarget) (history : List RouteCallback)
    (state : RouteChange) : Prop where
  announced : ∀ proxy, state.objects.lookup proxy = some .device →
    Announced change.device (announcements history) proxy
  device : state.deviceSeen = true → DeviceIdentified change history
  node : state.nodeSeen = true → NodeIdentified change history
  metadata : state.metadata = latestMetadata history
  outcome : state.outcome = shown serde change history
  counted : Counted state.written state.sent

variable {history callbacks : List RouteCallback} {callback : RouteCallback} {final : RouteChange}

theorem announcements_append (history later : List RouteCallback) :
    announcements (history ++ later) = announcements history ++ announcements later :=
  List.filterMap_append

theorem latestDefault_concat (key : String) :
    latestDefault serde key (history ++ [callback]) =
      observedDefault serde key (latestDefault serde key history) callback := by
  rw [latestDefault, List.foldl_append]
  rfl

theorem latestMetadata_concat :
    latestMetadata (history ++ [callback]) = boundMetadata (latestMetadata history) callback := by
  rw [latestMetadata, List.foldl_append]
  rfl

theorem shown_concat
    (hobserved : ∀ key observed, observedDefault serde key observed callback = observed) :
    shown serde change (history ++ [callback]) = shown serde change history := by
  simp only [shown, latestDefault_concat, hobserved]

theorem configuredDefaultKey_ne (kind : EndpointKind) :
    configuredDefaultKey kind ≠ effectiveDefaultKey kind := by
  cases kind <;> decide

/-- The outcome follows the observations of both defaults. -/
theorem shown_property (proxy : UInt32) (key value : Option String) :
    shown serde change (history ++ [.property proxy 0 key value]) =
      (shown serde change history).observe serde change.kind change.name key value := by
  simp only [shown, latestDefault_concat, observedDefault, if_pos, DefaultRouteOutcome.observe]
  cases key with
  | none => rfl
  | some key =>
    dsimp only
    by_cases hconfigured : key = configuredDefaultKey change.kind
    · have hother : key ≠ effectiveDefaultKey change.kind :=
        hconfigured ▸ configuredDefaultKey_ne change.kind
      rw [if_pos hconfigured, if_neg hother, if_pos hconfigured]
    · rw [if_neg hconfigured, if_neg hconfigured]
      split <;> rfl

theorem DeviceIdentified.append (hdevice : DeviceIdentified change history)
    (later : List RouteCallback) : DeviceIdentified change (history ++ later) := by
  obtain ⟨proxy, properties, hmem, hannounced, hmatch⟩ := hdevice
  refine ⟨proxy, properties, List.mem_append_left later hmem, ?_, hmatch⟩
  rw [announcements_append]
  exact hannounced.append _

theorem NodeIdentified.append (hnode : NodeIdentified change history)
    (later : List RouteCallback) : NodeIdentified change (history ++ later) := by
  obtain ⟨global, hmem, hglobal⟩ := hnode
  refine ⟨global, ?_, hglobal⟩
  rw [announcements_append]
  exact List.mem_append_left _ hmem

theorem boundMetadata_eq {global : Global} (hother : isDefaultMetadata global = false)
    (bind : Except String Unit) (bound : Option UInt32) :
    boundMetadata bound (.global global bind) = bound := by
  cases bind with
  | error cause => rfl
  | ok => simp only [boundMetadata, hother, Bool.false_eq_true, if_false]

namespace Holds

theorem init (serde : Serde) (change : RouteTarget) : Holds serde change [] {} where
  announced _ hlookup := by cases hlookup
  device hseen := by cases hseen
  node hseen := by cases hseen
  metadata := rfl
  outcome := rfl
  counted := rfl

theorem confirm (holds : Holds serde change history state) :
    Holds serde change history state.confirm := by
  obtain ⟨completion, hconfirm⟩ := confirm_eq state
  rw [hconfirm]
  exact ⟨holds.announced, holds.device, holds.node, holds.metadata, holds.outcome, holds.counted⟩

theorem fail (holds : Holds serde change history state) (error : String) :
    Holds serde change history (state.fail error) :=
  ⟨holds.announced, holds.device, holds.node, holds.metadata, holds.outcome, holds.counted⟩

theorem writeIfReady (holds : Holds serde change history state) :
    Holds serde change history (state.writeIfReady serde change) := by
  rcases writeIfReady_cases serde change state with hsame | ⟨metadata, hready, hwrote⟩
  · rw [hsame]
    exact holds
  · rw [hwrote]
    apply confirm
    exact ⟨holds.announced, holds.device, holds.node, holds.metadata, holds.outcome,
      holds.counted.concat hready.unwritten _⟩

/-- A callback that observes no default and binds no metadata. -/
theorem later (holds : Holds serde change history state)
    (hobserved : ∀ key observed, observedDefault serde key observed callback = observed)
    (hbound : ∀ bound, boundMetadata bound callback = bound) :
    Holds serde change (history ++ [callback]) state where
  announced proxy hlookup := by
    rw [announcements_append]
    exact (holds.announced proxy hlookup).append _
  device hseen := (holds.device hseen).append _
  node hseen := (holds.node hseen).append _
  metadata := by rw [latestMetadata_concat, hbound, holds.metadata]
  outcome := by rw [shown_concat hobserved, holds.outcome]
  counted := holds.counted

theorem bindDevice (holds : Holds serde change history state) {global : Global}
    (hdevice : IsDevice change.device global) (bind : Except String Unit)
    (hannouncement : global ∈ announcements history) :
    Holds serde change history (state.bindDevice global bind).1 := by
  cases bind with
  | error cause => exact holds
  | ok =>
    refine ⟨?_, holds.device, holds.node, holds.metadata, holds.outcome, holds.counted⟩
    intro proxy hlookup
    simp only [RouteChange.bindDevice] at hlookup
    rw [Table.lookup_insert] at hlookup
    split at hlookup
    case isTrue hproxy => exact ⟨global, hannouncement, hdevice, hproxy.symm⟩
    case isFalse => exact holds.announced proxy hlookup

theorem lookup_released {objects : Objects} {previous : Option UInt32} {proxy : UInt32}
    {listener : Listener} (hlookup : (previous.elim objects objects.erase).lookup proxy =
      some listener) : objects.lookup proxy = some listener := by
  cases previous with
  | none => exact hlookup
  | some previous =>
    rw [Option.elim_some, Table.lookup_erase] at hlookup
    split at hlookup
    case isTrue => cases hlookup
    case isFalse => exact hlookup

theorem lookup_bindMetadata {global : Global} {bind : Except String Unit} {proxy : UInt32}
    (hlookup : (state.bindMetadata global bind).1.objects.lookup proxy = some .device) :
    state.objects.lookup proxy = some .device := by
  cases bind with
  | error cause => exact lookup_released hlookup
  | ok =>
    simp only [RouteChange.bindMetadata] at hlookup
    rw [Table.lookup_insert] at hlookup
    split at hlookup
    case isTrue => cases hlookup
    case isFalse => exact lookup_released hlookup

theorem recognize (holds : Holds serde change history state) (global : Global)
    (bind : Except String Unit) :
    Holds serde change (history ++ [.global global bind])
      (state.recognize change global bind).1 := by
  have hannouncement : global ∈ announcements (history ++ [.global global bind]) := by
    rw [announcements_append]
    exact List.mem_append_right _ (List.mem_singleton_self global)
  have hunbound : isDefaultMetadata global = false →
      Holds serde change (history ++ [.global global bind]) state :=
    fun hother ↦ holds.later (fun _ _ ↦ rfl) (boundMetadata_eq hother bind)
  unfold RouteChange.recognize
  split
  case isTrue hdevice =>
    simp only [Bool.and_eq_true, beq_iff_eq] at hdevice
    exact (hunbound (by simp [isDefaultMetadata, hdevice.1])).bindDevice
      ⟨hdevice.1, hdevice.2⟩ bind hannouncement
  case isFalse =>
    split
    case isTrue hnode =>
      simp only [Bool.and_eq_true, beq_iff_eq] at hnode
      have hlater := hunbound (by simp [isDefaultMetadata, hnode.1])
      split
      case isFalse => exact hlater
      case isTrue hmatch =>
        exact ⟨hlater.announced, hlater.device,
          fun _ ↦ ⟨global, hannouncement, hnode.1, hnode.2, hmatch⟩, hlater.metadata,
          hlater.outcome, hlater.counted⟩
    case isFalse =>
      split
      case isFalse hother => exact hunbound (Bool.of_not_eq_true hother)
      case isTrue hmetadata =>
        refine ⟨?_, fun hseen ↦ (holds.device ?_).append _, fun hseen ↦ (holds.node ?_).append _,
          ?_, ?_, ?_⟩
        · intro proxy hlookup
          rw [announcements_append]
          exact (holds.announced proxy (lookup_bindMetadata hlookup)).append _
        · cases bind <;> exact hseen
        · cases bind <;> exact hseen
        · rw [latestMetadata_concat]
          cases bind with
          | error cause => exact holds.metadata
          | ok => simp only [boundMetadata, hmetadata, if_true, bindMetadata]
        · rw [shown_concat fun _ _ ↦ rfl, ← holds.outcome]
          cases bind <;> rfl
        · cases bind <;> exact holds.counted

theorem global (holds : Holds serde change history state) (global : Global)
    (bind : Except String Unit) :
    Holds serde change (history ++ [.global global bind])
      (state.global serde change global bind) := by
  have hrecognized := holds.recognize global bind
  unfold RouteChange.global RouteChange.observe
  generalize state.recognize change global bind = recognized at hrecognized ⊢
  obtain ⟨middle, error | ok⟩ := recognized
  · exact hrecognized.fail error
  · exact hrecognized.writeIfReady

theorem info (holds : Holds serde change history state) {proxy : UInt32}
    (hbound : state.objects.lookup proxy = some .device) (properties : Option Dict) :
    Holds serde change (history ++ [.info proxy properties])
      (state.info serde change properties) := by
  have hlater : Holds serde change (history ++ [.info proxy properties]) state :=
    holds.later (fun _ _ ↦ rfl) fun _ ↦ rfl
  cases properties with
  | none => exact hlater
  | some properties =>
    unfold RouteChange.info
    dsimp only
    split
    case isTrue => exact hlater.fail _
    case isFalse hmatch =>
      apply writeIfReady
      refine ⟨hlater.announced, fun _ ↦ ?_, hlater.node, hlater.metadata, hlater.outcome,
        hlater.counted⟩
      exact ⟨proxy, properties, List.mem_append_right _ (List.mem_singleton_self _),
        hlater.announced proxy hbound, by simpa using hmatch⟩

theorem property (holds : Holds serde change history state) (proxy subject : UInt32)
    (key value : Option String) :
    Holds serde change (history ++ [.property proxy subject key value])
      (state.property serde change subject key value) := by
  unfold RouteChange.property
  split
  case isFalse hsubject =>
    refine holds.later (fun key observed ↦ ?_) fun _ ↦ rfl
    simp only [observedDefault, if_neg hsubject]
  case isTrue hsubject =>
    subst hsubject
    apply confirm
    refine ⟨?_, fun hseen ↦ (holds.device hseen).append _, fun hseen ↦ (holds.node hseen).append _,
      ?_, ?_, holds.counted⟩
    · intro proxy hlookup
      rw [announcements_append]
      exact (holds.announced proxy hlookup).append _
    · rw [latestMetadata_concat]
      exact holds.metadata
    · rw [shown_property, ← holds.outcome]

theorem step (holds : Holds serde change history state)
    (hstep : RouteChange.step serde change state callback = some next) :
    Holds serde change (history ++ [callback]) next := by
  cases callback with
  | global global bind =>
    rw [← Option.some.inj hstep]
    exact holds.global global bind
  | globalRemove id =>
    have hlater : Holds serde change (history ++ [.globalRemove id]) state :=
      holds.later (fun _ _ ↦ rfl) fun _ ↦ rfl
    rw [← Option.some.inj hstep, globalRemove]
    split
    · exact hlater.fail _
    · exact hlater
  | info proxy properties =>
    obtain ⟨hbound, hnext⟩ := Option.ite_none_right_eq_some.mp hstep
    rw [← Option.some.inj hnext]
    exact holds.info hbound properties
  | property proxy subject key value =>
    obtain ⟨-, hnext⟩ := Option.ite_none_right_eq_some.mp hstep
    rw [← Option.some.inj hnext]
    exact holds.property proxy subject key value
  | coreError id code message =>
    rw [← Option.some.inj hstep]
    exact (holds.later (fun _ _ ↦ rfl) fun _ ↦ rfl).fail _

end Holds

/-! ## What a callback does to the write and the completion -/

/-- Recognizing an object neither writes nor completes. -/
structure Same (state middle : RouteChange) : Prop where
  sent : middle.sent = state.sent
  written : middle.written = state.written
  completion : middle.completion = state.completion

/-- A callback fails, or it recognizes something and then may write or confirm. -/
inductive Acts (serde : Serde) (change : RouteTarget) (state : RouteChange) : RouteChange → Prop where
  | failed (middle : RouteChange) (error : String) (hsame : Same state middle) :
    Acts serde change state (middle.fail error)
  | quiet (middle : RouteChange) (hsame : Same state middle) : Acts serde change state middle
  | writes (middle : RouteChange) (hsame : Same state middle) :
    Acts serde change state (middle.writeIfReady serde change)
  | confirms (middle : RouteChange) (hsame : Same state middle) :
    Acts serde change state middle.confirm

theorem same_refl (state : RouteChange) : Same state state := ⟨rfl, rfl, rfl⟩

theorem same_recognize (global : Global) (bind : Except String Unit) :
    Same state (state.recognize change global bind).1 := by
  unfold recognize
  split
  · cases bind <;> exact ⟨rfl, rfl, rfl⟩
  · split
    · split <;> exact ⟨rfl, rfl, rfl⟩
    · split
      · cases bind <;> exact ⟨rfl, rfl, rfl⟩
      · exact same_refl state

theorem acts_of_step (hstep : step serde change state callback = some next) :
    Acts serde change state next := by
  cases callback with
  | global global bind =>
    have hsame : Same state (state.recognize change global bind).1 := same_recognize global bind
    rw [← Option.some.inj hstep, RouteChange.global, observe]
    generalize state.recognize change global bind = recognized at hsame ⊢
    obtain ⟨middle, error | ok⟩ := recognized
    · exact .failed middle error hsame
    · exact .writes middle hsame
  | globalRemove id =>
    rw [← Option.some.inj hstep, globalRemove]
    split
    · exact .failed state _ (same_refl state)
    · exact .quiet state (same_refl state)
  | info proxy properties =>
    obtain ⟨-, hnext⟩ := Option.ite_none_right_eq_some.mp hstep
    rw [← Option.some.inj hnext]
    cases properties with
    | none => exact .quiet state (same_refl state)
    | some properties =>
      unfold info
      dsimp only
      split
      · exact .failed state _ (same_refl state)
      · exact .writes _ ⟨rfl, rfl, rfl⟩
  | property proxy subject key value =>
    obtain ⟨-, hnext⟩ := Option.ite_none_right_eq_some.mp hstep
    rw [← Option.some.inj hnext, property]
    split
    · exact .confirms _ ⟨rfl, rfl, rfl⟩
    · exact .quiet state (same_refl state)
  | coreError id code message =>
    rw [← Option.some.inj hstep]
    exact .failed state _ (same_refl state)

theorem failed_of_acts (hacts : Acts serde change state next)
    (hfailed : state.completion.failed = true) : next.completion.failed = true := by
  cases hacts with
  | failed => rfl
  | quiet middle hsame => rwa [hsame.completion]
  | writes middle hsame =>
    rcases writeIfReady_cases serde change middle with hquiet | ⟨metadata, hready, -⟩
    · rwa [hquiet, hsame.completion]
    · rw [← hsame.completion, hready.open'] at hfailed
      cases hfailed
  | confirms middle hsame => rwa [failed_confirm, hsame.completion]

/-- The callback that writes finds both objects identified, and no failure and no write. -/
theorem write_of_acts (hacts : Acts serde change state next) {write : SetProperty}
    (hnot : write ∉ state.sent) (hwrite : write ∈ next.sent) :
    state.completion.failed = false ∧ state.written = false ∧ next.deviceSeen = true ∧
      next.nodeSeen = true ∧ next.metadata = some write.metadata ∧
        write = change.preference serde write.metadata := by
  cases hacts with
  | failed middle error hsame => exact absurd (hsame.sent ▸ hwrite) hnot
  | quiet middle hsame => exact absurd (hsame.sent ▸ hwrite) hnot
  | confirms middle hsame =>
    rw [sent_confirm, hsame.sent] at hwrite
    exact absurd hwrite hnot
  | writes middle hsame =>
    rcases writeIfReady_cases serde change middle with hquiet | ⟨metadata, hready, hwrote⟩
    · rw [hquiet, hsame.sent] at hwrite
      exact absurd hwrite hnot
    · rw [hwrote] at hwrite ⊢
      rw [sent_confirm] at hwrite
      rcases List.mem_append.mp hwrite with hold | hnew
      · exact absurd (hsame.sent ▸ hold) hnot
      · obtain rfl := List.mem_singleton.mp hnew
        obtain ⟨completion, hconfirm⟩ := confirm_eq { middle with
          written := true
          sent := middle.sent ++ [change.preference serde metadata] }
        rw [hconfirm]
        exact ⟨hsame.completion ▸ hready.open', hsame.written ▸ hready.unwritten, hready.device,
          hready.node, hready.metadata, rfl⟩

/-- The callback that completes the change finds both defaults confirmed. -/
theorem confirmed_of_acts (hacts : Acts serde change state next)
    (hbefore : state.completion ≠ some (.ok ())) (hafter : next.completion = some (.ok ())) :
    next.outcome.confirmed next.written = true := by
  have hconfirm : ∀ middle : RouteChange, middle.completion ≠ some (.ok ()) →
      middle.confirm.completion = some (.ok ()) →
        middle.confirm.outcome.confirmed middle.confirm.written = true := by
    intro middle hopen hdone
    obtain ⟨completion, hsame⟩ := confirm_eq middle
    have hconfirmed := confirmed_of_confirm hopen hdone
    rw [hsame]
    exact hconfirmed
  cases hacts with
  | failed => cases hafter
  | quiet middle hsame => exact absurd (hsame.completion ▸ hafter) hbefore
  | confirms middle hsame => exact hconfirm middle (hsame.completion ▸ hbefore) hafter
  | writes middle hsame =>
    rcases writeIfReady_cases serde change middle with hquiet | ⟨metadata, -, hwrote⟩
    · rw [hquiet, hsame.completion] at hafter
      exact absurd hafter hbefore
    · rw [hwrote] at hafter ⊢
      exact hconfirm _ (hsame.completion ▸ hbefore) hafter

/-! ## Runs -/

theorem holds_of_run (hrun : (routeSystem serde change).run {} callbacks = some final) :
    Holds serde change callbacks final :=
  (routeSystem serde change).run_history (fun _ _ _ _ holds hstep ↦ holds.step hstep)
    (Holds.init serde change) hrun

theorem result_eq_ok {outcome : DefaultRouteOutcome} (hresult : final.result = .ok outcome) :
    outcome = final.outcome ∧ final.written = true ∧ final.outcome.configured = true := by
  unfold result at hresult
  split at hresult
  · cases hresult
  · split at hresult
    case isFalse => cases hresult
    case isTrue hconfirmed =>
      obtain rfl := Except.ok.inj hresult
      exact ⟨rfl, Bool.and_eq_true_iff.mp hconfirmed⟩

theorem run_concat {before : List RouteCallback}
    (hbefore : (routeSystem serde change).run {} before = some state)
    (hstep : step serde change state callback = some next) :
    (routeSystem serde change).run {} (before ++ [callback]) = some next :=
  (routeSystem serde change).run_append hbefore
    ((routeSystem serde change).run_cons_eq_some.mpr ⟨next, hstep, rfl⟩)

theorem identified_of_run (hrun : (routeSystem serde change).run {} callbacks = some final)
    {write : SetProperty} (hwrite : write ∈ final.sent) : ∃ before callback after state,
      callbacks = before ++ callback :: after ∧
        (routeSystem serde change).run {} before = some state ∧
          state.completion.failed = false ∧ state.sent = [] ∧
            DeviceIdentified change (before ++ [callback]) ∧
              NodeIdentified change (before ++ [callback]) ∧
                latestMetadata (before ++ [callback]) = some write.metadata ∧
                  write = change.preference serde write.metadata := by
  obtain ⟨before, callback, after, state, next, rfl, hbefore, hstep, hnot, hsent, -⟩ :=
    (routeSystem serde change).run_begins (fun state ↦ write ∈ state.sent)
      List.not_mem_nil hrun hwrite
  have holds := holds_of_run (run_concat hbefore hstep)
  obtain ⟨hopen, hunwritten, hdevice, hnode, hmetadata, hpreference⟩ :=
    write_of_acts (acts_of_step hstep) hnot hsent
  exact ⟨before, callback, after, state, rfl, hbefore, hopen,
    (holds_of_run hbefore).counted.eq_nil hunwritten, holds.device hdevice, holds.node hnode,
    holds.metadata ▸ hmetadata, hpreference⟩

theorem confirmed_of_run (hrun : (routeSystem serde change).run {} callbacks = some final)
    (hdone : final.completion = some (.ok ())) : ∃ before callback after next,
      callbacks = before ++ callback :: after ∧
        (routeSystem serde change).run {} (before ++ [callback]) = some next ∧ next.sent ≠ [] ∧
          latestDefault serde (configuredDefaultKey change.kind) (before ++ [callback]) =
              some change.name ∧
            latestDefault serde (effectiveDefaultKey change.kind) (before ++ [callback]) =
              some change.name := by
  obtain ⟨before, callback, after, state, next, rfl, hbefore, hstep, hopen, hdone, -⟩ :=
    (routeSystem serde change).run_begins
      (fun state ↦ state.completion = some (.ok ())) (by simp) hrun hdone
  have hnext := run_concat hbefore hstep
  have holds := holds_of_run hnext
  have hconfirmed := confirmed_of_acts (acts_of_step hstep) hopen hdone
  simp only [DefaultRouteOutcome.confirmed, Bool.and_eq_true, holds.outcome, shown,
    beq_iff_eq] at hconfirmed
  exact ⟨before, callback, after, next, rfl, hnext, holds.counted.ne_nil hconfirmed.1.1,
    hconfirmed.1.2, hconfirmed.2⟩

theorem reported_of_run (hrun : (routeSystem serde change).run {} callbacks = some final)
    {outcome : DefaultRouteOutcome} (hresult : final.result = .ok outcome) :
    final.sent ≠ [] ∧
      latestDefault serde (configuredDefaultKey change.kind) callbacks = some change.name ∧
        (outcome.effective = true ↔
          latestDefault serde (effectiveDefaultKey change.kind) callbacks =
            some change.name) := by
  have holds := holds_of_run hrun
  obtain ⟨rfl, hwritten, hconfigured⟩ := result_eq_ok hresult
  rw [holds.outcome] at hconfigured ⊢
  exact ⟨holds.counted.ne_nil hwritten, beq_iff_eq.mp hconfigured, beq_iff_eq⟩

theorem safe_of_run (hrun : (routeSystem serde change).run {} callbacks = some final) :
    Safe serde change callbacks final where
  once := (holds_of_run hrun).counted.le_one
  identified _ hwrite := identified_of_run hrun hwrite
  confirmed := confirmed_of_run hrun
  reported _ hresult := reported_of_run hrun hresult
  failClosed before after state hsplit hbefore hfailed := by
    subst hsplit
    have hfinal : final.completion.failed = true :=
      (routeSystem serde change).run_invariant_from
        (fun _ _ _ hfailed hstep ↦ failed_of_acts (acts_of_step hstep) hfailed) hbefore hfailed
        hrun
    obtain ⟨error, hwait⟩ := Completion.wait_of_failed hfinal
    exact ⟨hfinal, error, by rw [result, hwait]⟩

end RouteChange

/-! ## Both changes -/

/-- A change is written at most once and to the object that was identified, it succeeds only when
the server reported it, and a failure is final. -/
theorem changes_written_once (serde : Serde) (profile : ProfileTarget) (route : RouteTarget)
    {profileCallbacks : List ProfileCallback} {profileFinal : ProfileChange}
    (hprofile : (profileSystem profile).run {} profileCallbacks = some profileFinal)
    {routeCallbacks : List RouteCallback} {routeFinal : RouteChange}
    (hroute : (routeSystem serde route).run {} routeCallbacks = some routeFinal) :
    ProfileChange.Safe profile profileCallbacks profileFinal ∧
      RouteChange.Safe serde route routeCallbacks routeFinal :=
  ⟨ProfileChange.safe_of_run hprofile, RouteChange.safe_of_run hroute⟩

def headset : DeviceIdentity := ⟨7, some 70, "hci0", "AA:BB:CC:DD:EE:FF"⟩

def headsetGlobal : Global := ⟨7, .device, some [("object.serial", "70")]⟩

def headsetProperties : Dict :=
  [("api.bluez5.address", "aa:bb:cc:dd:ee:ff"),
    ("api.bluez5.path", "/org/bluez/hci0/dev_AA_BB_CC_DD_EE_FF")]

def profileTwo : Pod := .object .paramProfile [(.index, .int 2), (.save, .bool true)]

/-- The profile is reported before and after the write. -/
def profileRun : List ProfileCallback :=
  [.global headsetGlobal (.ok ()), .param 7 .profile (some profileTwo),
    .info 7 (some headsetProperties) (.ok ()), .info 7 (some headsetProperties) (.ok ()),
    .param 7 .profile (some profileTwo)]

def speaker : RouteTarget := ⟨headset, 9, some 90, "speaker", .sink⟩

def speakerText : String := "\x7b\"name\":\"speaker\"\x7d"

def speakerSerde : Serde where
  fromStr text :=
    if text = speakerText then some (.object [("name", .string "speaker")]) else none
  toString _ := speakerText

def defaultMetadata (id : UInt32) : Global := ⟨id, .metadata, some [("metadata.name", "default")]⟩

def speakerNode : Global where
  id := 9
  type := .node
  props := some [("object.serial", "90"), ("device.id", "7"), ("node.name", "speaker"),
    ("media.class", "Audio/Sink")]

/-- The metadata is announced again before the device reports its properties. -/
def routeRun : List RouteCallback :=
  [.global (defaultMetadata 3) (.ok ()), .global speakerNode (.ok ()),
    .global headsetGlobal (.ok ()), .global (defaultMetadata 4) (.ok ()),
    .info 7 (some headsetProperties),
    .property 4 0 (some "default.configured.audio.sink") (some speakerText),
    .property 4 0 (some "default.audio.sink") (some speakerText)]

theorem changes_written_once_confirmed : ∃ profileFinal routeFinal,
    (profileSystem ⟨headset, 2, profileTwo⟩).run {} profileRun = some profileFinal ∧
      (routeSystem speakerSerde speaker).run {} routeRun = some routeFinal ∧
        profileFinal.result = .ok () ∧ routeFinal.result = .ok ⟨true, true⟩ ∧
          ProfileChange.Safe ⟨headset, 2, profileTwo⟩ profileRun profileFinal ∧
            RouteChange.Safe speakerSerde speaker routeRun routeFinal :=
  ⟨_, _, rfl, rfl, rfl, rfl, changes_written_once speakerSerde ⟨headset, 2, profileTwo⟩ speaker
    rfl rfl⟩

end BtDaemon.Audio
