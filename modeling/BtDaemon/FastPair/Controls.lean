import BtDaemon.FastPair.Crypto
import BtDaemon.Foundation.Rules

/-!
# Fast Pair controls

A control is sent to a device that is connected, paired, not blocked and permitted by its policy.
Controls of the audio switch carry the mark of their message under the account key and the nonce
of the session, so that a provider with the same key accepts them; noise control carries none.
-/

namespace BtDaemon.FastPair.Controls

open BtDaemon.FastPair.Stream (Frame encoded maxFramePayload)
open Program (Did Ends Ensures Event Outcome Rules Runs Spends continues ensure ensures_bind
  required spent)
open Storage (AccountKey)

def audioSwitchGroup : UInt8 := 0x07

def audioSwitchCapabilityCode : UInt8 := 0x11

def setMultipointCode : UInt8 := 0x12

abbrev Nonce := Vector UInt8 8

/-! ## Requests -/

inductive Request
  | isPaired
  | isConnected
  | isBlocked
  | deviceKey
  | controlsEnabled (deviceKey : String)
  | storedKey (deviceKey : String)
  | sessionNonce
  | multipoint
  | noiseControl
  | messageNonce
  /-- Send a frame and wait for its acknowledgement. -/
  | execute (key : CommandKey) (frame : List UInt8)
  | adapterNames
  | openAdapter (name : String)
  | deviceAddresses (name : String)
  | openDevice (name : String)
  deriving DecidableEq

@[reducible]
def Request.Answer : Request → Type
  | .isPaired | .isConnected | .isBlocked => Except String Bool
  | .deviceKey => String
  | .controlsEnabled _ => Bool
  | .storedKey _ => Option AccountKey
  | .sessionNonce => Option Nonce
  | .multipoint => Option FastPairMultipoint
  | .noiseControl => Option FastPairNoiseControl
  | .messageNonce => Nonce
  | .execute _ _ | .openAdapter _ | .openDevice _ => Except String Unit
  | .adapterNames => Except String (List String)
  | .deviceAddresses _ => Except String (List Address)

/-- An error is its outermost text. -/
abbrev Control (Found : Type) := Program Request.Answer String Found

abbrev ask (request : Request) : Control request.Answer := Program.ask request

def bail {Found : Type} (message : String) : Control Found := .fail message

/-! ## The controls -/

def authenticatedFrame (crypto : Crypto) (group code : UInt8) (message : List UInt8)
    (accountKey : AccountKey) (sessionNonce messageNonce : Nonce) : Except String (List UInt8) :=
  let mac := crypto.messageMac accountKey sessionNonce messageNonce message
  encoded group code (message ++ messageNonce.toList ++ mac.toList)

def usable : Control Bool := do
  if ← Program.ofExcept (← ask .isPaired) then
    if ← Program.ofExcept (← ask .isConnected) then
      let blocked ← Program.ofExcept (← ask .isBlocked)
      pure !blocked
    else pure false
  else pure false

def validateControl : Control String := do
  let usable ← usable
  ensure usable "Fast Pair controls require a connected, paired, unblocked device"
  let key ← ask .deviceKey
  let enabled ← ask (.controlsEnabled key)
  ensure enabled "Fast Pair controls are disabled for this device"
  return key

section Controls

variable (crypto : Crypto) (address : Address)

def sendAuthenticated (group code : UInt8) (message : List UInt8) : Control Unit := do
  let deviceKey ← validateControl
  let sessionNonce ← required (← ask .sessionNonce) "Fast Pair session nonce is unavailable"
  let accountKey ← required (← ask (.storedKey deviceKey))
    "Fast Pair account key is unavailable; pair or provision this device through bt-daemon"
  let messageNonce ← ask .messageNonce
  let frame ← Program.ofExcept
    (authenticatedFrame crypto group code message accountKey sessionNonce messageNonce)
  Program.ofExcept (← ask (.execute ⟨address, group, code⟩ frame))

def setMultipoint (enabled : Bool) : Control Unit := do
  let capability ← required (← ask .multipoint)
    "Fast Pair multipoint capability has not been reported"
  if !capability.supported then bail "Fast Pair Audio Switch is not supported by this device"
  else if !capability.configurable then bail "multipoint cannot be changed on this device"
  else
    sendAuthenticated crypto address audioSwitchGroup setMultipointCode
      [if enabled then 1 else 0]

def setNoiseControl (mode : String) : Control Unit := do
  let _ ← validateControl
  let state ← required (← ask .noiseControl) "Fast Pair ANC state has not been reported"
  let frame ← Program.ofExcept (noiseControlFrame state mode)
  Program.ofExcept (← ask (.execute ⟨address, hearableControlsGroup, setAncStateCode⟩ frame))

def answerFrom : List String → Control Unit
  | [] => bail "Audio Switch peer disappeared"
  | name :: names => do
    Program.ofExcept (← ask (.openAdapter name))
    let addresses ← Program.ofExcept (← ask (.deviceAddresses name))
    if address ∈ addresses then
      Program.ofExcept (← ask (.openDevice name))
      -- Version zero: the seeker of an audio switch is not implemented.
      sendAuthenticated crypto address audioSwitchGroup audioSwitchCapabilityCode [0, 0, 0, 0]
    else answerFrom names

def answerAudioSwitchQuery : Control Unit := do
  let names ← Program.ofExcept (← ask .adapterNames)
  answerFrom crypto address names

end Controls

inductive Command
  | setMultipoint (enabled : Bool)
  | setNoiseControl (mode : String)
  | answerAudioSwitchQuery

def perform (crypto : Crypto) (address : Address) : Command → Control Unit
  | .setMultipoint enabled => setMultipoint crypto address enabled
  | .setNoiseControl mode => setNoiseControl address mode
  | .answerAudioSwitchQuery => answerAudioSwitchQuery crypto address

/-! ## What a provider accepts -/

/-- The message of a payload whose mark is right. -/
def accept (crypto : Crypto) (accountKey : AccountKey) (sessionNonce : Nonce)
    (payload : List UInt8) : Option (List UInt8) :=
  let message := payload.take (payload.length - 16)
  let messageNonce := (payload.drop (payload.length - 16)).take 8
  if payload.drop (payload.length - 8) =
      crypto.mark accountKey.toList (sessionNonce.toList ++ messageNonce ++ message) then
    some message
  else none

theorem accept_payload (crypto : Crypto) (accountKey : AccountKey)
    (sessionNonce messageNonce : Nonce) (message : List UInt8) :
    accept crypto accountKey sessionNonce (message ++ messageNonce.toList ++
      (crypto.messageMac accountKey sessionNonce messageNonce message).toList) = some message := by
  have hnonce : messageNonce.toList.length = 8 := by simp
  have hmac :
      (crypto.messageMac accountKey sessionNonce messageNonce message).toList.length = 8 := by
    simp
  rw [Crypto.toList_messageMac] at hmac ⊢
  generalize hmark : crypto.mark accountKey.toList
    (sessionNonce.toList ++ messageNonce.toList ++ message) = mark at hmac
  have hlength : (message ++ messageNonce.toList ++ mark).length = message.length + 16 := by
    simp only [List.length_append, hnonce, hmac]
  have hmessage : (message ++ messageNonce.toList ++ mark).take message.length = message := by
    rw [List.append_assoc, List.take_left]
  have hrest : (message ++ messageNonce.toList ++ mark).drop message.length =
      messageNonce.toList ++ mark := by
    rw [List.append_assoc, List.drop_left]
  have hlast : (message ++ messageNonce.toList ++ mark).drop (message.length + 8) = mark := by
    rw [List.drop_left' (by rw [List.length_append, hnonce])]
  rw [accept, hlength, Nat.add_sub_cancel,
    show message.length + 16 - 8 = message.length + 8 by omega,
    hmessage, hrest, hlast, List.take_left' hnonce, hmark, if_pos rfl]

theorem authenticatedFrame_ok {crypto : Crypto} {group code : UInt8} {message : List UInt8}
    {accountKey : AccountKey} {sessionNonce messageNonce : Nonce} (hmessage : message.length ≤ 4) :
    ∃ frame payload, authenticatedFrame crypto group code message accountKey sessionNonce
        messageNonce = .ok frame ∧ Stream.drain frame = ([], .ok [⟨group, code, payload⟩]) ∧
      accept crypto accountKey sessionNonce payload = some message := by
  let mac := crypto.messageMac accountKey sessionNonce messageNonce message
  let frame : Frame := ⟨group, code, message ++ messageNonce.toList ++ mac.toList⟩
  have hfits : frame.payload.length ≤ maxFramePayload := by
    have hlength : frame.payload.length = message.length + 8 + 8 := by simp [frame]
    have hmax : maxFramePayload = 4096 := rfl
    omega
  refine ⟨frame.bytes, frame.payload, Stream.encoded_of_fits hfits, ?_,
    accept_payload crypto accountKey sessionNonce messageNonce message⟩
  have hdrain := Stream.drain_bytes hfits []
  rw [List.append_nil, Stream.drain_short (by decide : ([] : List UInt8).length < 4)] at hdrain
  exact hdrain

/-! ## What may be sent -/

abbrev Past := List (Event Request.Answer)

/-- The answer ends the control. -/
def Request.fails : (request : Request) → request.Answer → Bool
  | .isPaired, .error _ | .isConnected, .error _ | .isBlocked, .error _ | .execute _ _, .error _
  | .openAdapter _, .error _ | .openDevice _, .error _ | .adapterNames, .error _
  | .deviceAddresses _, .error _ => true
  | _, _ => false

/-- The device acknowledged a frame. -/
def Request.acknowledges : (request : Request) → request.Answer → Bool
  | .execute _ _, .ok () => true
  | _, _ => false

section Promises

variable (crypto : Crypto) (address : Address) (command : Command)

def Command.key : CommandKey :=
  match command with
  | .setMultipoint _ => ⟨address, audioSwitchGroup, setMultipointCode⟩
  | .setNoiseControl _ => ⟨address, hearableControlsGroup, setAncStateCode⟩
  | .answerAudioSwitchQuery => ⟨address, audioSwitchGroup, audioSwitchCapabilityCode⟩

/-- The device may be controlled. -/
structure Permitted (past : Past) (deviceKey : String) : Prop where
  paired : Did past .isPaired (.ok true)
  connected : Did past .isConnected (.ok true)
  unblocked : Did past .isBlocked (.ok false)
  named : Did past .deviceKey deviceKey
  enabled : Did past (.controlsEnabled deviceKey) true

/-- The frame is one that a provider with the key of the device and the nonce of the session
accepts. -/
def Authentic (past : Past) (deviceKey : String) (code : UInt8) (message frame : List UInt8) :
    Prop :=
  ∃ accountKey sessionNonce payload, Did past (.storedKey deviceKey) (some accountKey) ∧
    Did past .sessionNonce (some sessionNonce) ∧
    Stream.drain frame = ([], .ok [⟨audioSwitchGroup, code, payload⟩]) ∧
    accept crypto accountKey sessionNonce payload = some message

/-- The frame reads as what the device reported of its noise control, with the mode in place of the
active one. -/
def Commands (state : FastPairNoiseControl) (mode : String) (frame : List UInt8) : Prop :=
  ∃ message, Stream.drain frame = ([], .ok [⟨hearableControlsGroup, setAncStateCode, message⟩]) ∧
    decodeAncState message = .ok { state with activeMode := some mode }

/-- The frame does what the command says, and the device reported that it can. -/
def Carries (past : Past) (deviceKey : String) (frame : List UInt8) : Prop :=
  match command with
  | .setMultipoint enabled =>
    (∃ capability, Did past .multipoint (some capability) ∧ capability.supported = true ∧
      capability.configurable = true) ∧
    Authentic crypto past deviceKey setMultipointCode [if enabled then 1 else 0] frame
  | .setNoiseControl mode => ∃ state, Did past .noiseControl (some state) ∧
      noiseControlFrame state mode = .ok frame ∧
      ∀ report, decodeAncState report = .ok state →
        mode ∈ state.settableModes ∧ Commands state mode frame
  | .answerAudioSwitchQuery =>
    (∃ name addresses, Did past (.deviceAddresses name) (.ok addresses) ∧ address ∈ addresses) ∧
    Authentic crypto past deviceKey audioSwitchCapabilityCode [0, 0, 0, 0] frame

/-- What must have happened before a request. -/
def Needs (past : Past) : Request → Prop
  | .execute key frame => key = command.key address ∧
    ∃ deviceKey, Permitted past deviceKey ∧ Carries crypto address command past deviceKey frame
  | _ => True

def rules : Rules Request.Answer where
  fails := Request.fails
  lasts := Request.acknowledges
  needs := Needs crypto address command

/-- A control succeeds if and only if its frame was acknowledged. -/
def Settled (past : Past) : Except String Unit → Prop
  | .ok () => ∃ frame, Did past (.execute (command.key address) frame) (.ok ())
  | .error _ => (rules crypto address command).Free past

end Promises

variable {crypto : Crypto} {address : Address} {command : Command} {past later : Past}

theorem Permitted.mono {deviceKey : String} (hpermitted : Permitted past deviceKey)
    (hmore : past <+: later) : Permitted later deviceKey where
  paired := hpermitted.paired.mono hmore
  connected := hpermitted.connected.mono hmore
  unblocked := hpermitted.unblocked.mono hmore
  named := hpermitted.named.mono hmore
  enabled := hpermitted.enabled.mono hmore

/-! ## The steps -/

variable (crypto address command) in
/-- The control goes on after `past`, and can still fail. -/
def Goes (past later : Past) : Prop :=
  past <+: later ∧ (rules crypto address command).Working later

theorem ensures_ask {Found : Type} {post : Past → Except String Found → Prop} (request : Request)
    {next : request.Answer → Control Found}
    (hworking : (rules crypto address command).Working past)
    (hneeds : Needs crypto address command past request)
    (hanswer : ∀ answer later, (rules crypto address command).After past request answer later →
      Ensures (rules crypto address command).Allowed post (next answer) later) :
    Ensures (rules crypto address command).Allowed post (ask request >>= next) past :=
  Rules.ensures_ask request hworking hneeds hanswer

theorem ensures_usable {post : Past → Except String Bool → Prop}
    (hworking : (rules crypto address command).Working past)
    (hforgiving : (rules crypto address command).Forgiving post)
    (hdone : ∀ result later, Goes crypto address command past later →
      (result = true → Did later .isPaired (.ok true) ∧ Did later .isConnected (.ok true) ∧
        Did later .isBlocked (.ok false)) → post later (.ok result)) :
    Ensures (rules crypto address command).Allowed post usable past := by
  apply ensures_ask .isPaired hworking trivial
  rintro (error | (_ | _)) first hfirst
  · exact hforgiving _ _ (hfirst.free rfl)
  · exact hdone false first ⟨hfirst.more, hfirst.working rfl rfl⟩ nofun
  apply ensures_ask .isConnected (hfirst.working rfl rfl) trivial
  rintro (error | (_ | _)) second hsecond
  · exact hforgiving _ _ (hsecond.free rfl)
  · exact hdone false second ⟨hfirst.more.trans hsecond.more, hsecond.working rfl rfl⟩ nofun
  apply ensures_ask .isBlocked (hsecond.working rfl rfl) trivial
  rintro (error | blocked) third hthird
  · exact hforgiving _ _ (hthird.free rfl)
  have hmore := hsecond.more.trans hthird.more
  apply hdone (!blocked) third ⟨hfirst.more.trans hmore, hthird.working rfl rfl⟩
  intro hblocked
  obtain rfl : blocked = false := by simpa using hblocked
  exact ⟨hfirst.did.mono hmore, hsecond.did.mono hthird.more, hthird.did⟩

theorem ensures_validateControl {post : Past → Except String String → Prop}
    (hworking : (rules crypto address command).Working past)
    (hforgiving : (rules crypto address command).Forgiving post)
    (hdone : ∀ deviceKey later, Goes crypto address command past later →
      Permitted later deviceKey → post later (.ok deviceKey)) :
    Ensures (rules crypto address command).Allowed post validateControl past := by
  apply (ensures_bind _ _).mpr
  apply ensures_usable hworking hforgiving.continues
  rintro (_ | _) checked hchecked hfound
  · exact hforgiving _ _ hchecked.2.free
  obtain ⟨hpaired, hconnected, hunblocked⟩ := hfound rfl
  apply ensures_ask .deviceKey hchecked.2 trivial
  intro deviceKey named hnamed
  apply ensures_ask (.controlsEnabled deviceKey) (hnamed.working rfl rfl) trivial
  rintro (_ | _) later hlater
  · exact hforgiving _ _ (hlater.free rfl)
  have hmore := hnamed.more.trans hlater.more
  exact hdone deviceKey later ⟨hchecked.1.trans hmore, hlater.working rfl rfl⟩
    ⟨hpaired.mono hmore, hconnected.mono hmore, hunblocked.mono hmore,
      hnamed.did.mono hlater.more, hlater.did⟩

theorem forgiving_settled :
    (rules crypto address command).Forgiving (Settled crypto address command) :=
  fun _ _ hfree ↦ hfree

/-- The frame is sent last. -/
theorem ensures_execute {deviceKey : String} {frame : List UInt8}
    (hworking : (rules crypto address command).Working past)
    (hpermitted : Permitted past deviceKey)
    (hcarries : Carries crypto address command past deviceKey frame) :
    Ensures (rules crypto address command).Allowed (Settled crypto address command)
      (ask (.execute (command.key address) frame) >>= Program.ofExcept) past := by
  have hneeds : Needs crypto address command past (.execute (command.key address) frame) :=
    ⟨rfl, deviceKey, hpermitted, hcarries⟩
  apply ensures_ask _ hworking hneeds
  rintro (error | ⟨⟩) later hlater
  · exact hlater.free rfl
  · exact ⟨frame, hlater.did⟩

theorem ensures_sendAuthenticated {code : UInt8} {message : List UInt8}
    (hworking : (rules crypto address command).Working past) (hmessage : message.length ≤ 4)
    (hkey : command.key address = ⟨address, audioSwitchGroup, code⟩)
    (hcarries : ∀ deviceKey frame later, past <+: later →
      Authentic crypto later deviceKey code message frame →
        Carries crypto address command later deviceKey frame) :
    Ensures (rules crypto address command).Allowed (Settled crypto address command)
      (sendAuthenticated crypto address audioSwitchGroup code message) past := by
  have hforgiving := @forgiving_settled crypto address command
  apply (ensures_bind _ _).mpr
  apply ensures_validateControl hworking hforgiving.continues
  intro deviceKey valid hvalid hpermitted
  apply ensures_ask .sessionNonce hvalid.2 trivial
  rintro (_ | sessionNonce) opened hopened
  · exact hopened.free rfl
  apply ensures_ask (.storedKey deviceKey) (hopened.working rfl rfl) trivial
  rintro (_ | accountKey) known hknown
  · exact hknown.free rfl
  apply ensures_ask .messageNonce (hknown.working rfl rfl) trivial
  intro messageNonce drawn hdrawn
  obtain ⟨frame, payload, hframe, hdrain, haccept⟩ :=
    @authenticatedFrame_ok crypto audioSwitchGroup code message accountKey sessionNonce
      messageNonce hmessage
  rw [hframe, ← hkey]
  have hmore := hopened.more.trans (hknown.more.trans hdrawn.more)
  apply ensures_execute (hdrawn.working rfl rfl) (hpermitted.mono hmore)
  exact hcarries deviceKey frame drawn (hvalid.1.trans hmore)
    ⟨accountKey, sessionNonce, payload, hknown.did.mono hdrawn.more,
      hopened.did.mono (hknown.more.trans hdrawn.more), hdrain, haccept⟩

theorem ensures_setMultipoint {enabled : Bool} :
    Ensures (rules crypto address (.setMultipoint enabled)).Allowed
      (Settled crypto address (.setMultipoint enabled)) (setMultipoint crypto address enabled)
        [] := by
  apply ensures_ask .multipoint Ends.working_nil trivial
  rintro (_ | capability) reported hreported
  · exact hreported.free rfl
  change Ensures _ _ (if (!capability.supported) = true then _ else _) reported
  split
  · exact hreported.free rfl
  next hsupported =>
  split
  · exact hreported.free rfl
  next hconfigurable =>
  have hcapable : ∀ later, reported <+: later → ∃ capability,
      Did later .multipoint (some capability) ∧ capability.supported = true ∧
        capability.configurable = true := by
    intro later hmore
    exact ⟨capability, hreported.did.mono hmore, by simpa using hsupported,
      by simpa using hconfigurable⟩
  apply ensures_sendAuthenticated (hreported.working rfl rfl) (by simp) rfl
  exact fun deviceKey frame later hmore hauthentic ↦ ⟨hcapable later hmore, hauthentic⟩

theorem ensures_setNoiseControl {mode : String} :
    Ensures (rules crypto address (.setNoiseControl mode)).Allowed
      (Settled crypto address (.setNoiseControl mode)) (setNoiseControl address mode) [] := by
  apply (ensures_bind _ _).mpr
  apply ensures_validateControl Ends.working_nil forgiving_settled.continues
  intro deviceKey valid hvalid hpermitted
  apply ensures_ask .noiseControl hvalid.2 trivial
  rintro (_ | state) reported hreported
  · exact hreported.free rfl
  change Ensures _ _ (Program.ofExcept (noiseControlFrame state mode) >>= _) reported
  cases hframe : noiseControlFrame state mode with
  | error error => exact hreported.free rfl
  | ok frame =>
    refine ensures_execute (hreported.working rfl rfl) (hpermitted.mono hreported.more)
      ⟨state, hreported.did, hframe, fun report hreport ↦ ?_⟩
    exact ⟨((noiseControlFrame_settable hreport mode).mp ⟨frame, hframe⟩).2,
      noiseControlFrame_reads hreport hframe⟩

theorem ensures_answerFrom {names : List String}
    (hworking : (rules crypto address .answerAudioSwitchQuery).Working past) :
    Ensures (rules crypto address .answerAudioSwitchQuery).Allowed
      (Settled crypto address .answerAudioSwitchQuery) (answerFrom crypto address names) past := by
  induction names generalizing past with
  | nil => exact hworking.free
  | cons name names ih =>
    apply ensures_ask (.openAdapter name) hworking trivial
    rintro (error | ⟨⟩) opened hopened
    · exact hopened.free rfl
    apply ensures_ask (.deviceAddresses name) (hopened.working rfl rfl) trivial
    rintro (error | addresses) listed hlisted
    · exact hlisted.free rfl
    change Ensures _ _ (if address ∈ addresses then _ else _) listed
    split
    · next hmem =>
      apply ensures_ask (.openDevice name) (hlisted.working rfl rfl) trivial
      rintro (error | ⟨⟩) found hfound
      · exact hfound.free rfl
      apply ensures_sendAuthenticated (hfound.working rfl rfl) (by simp) rfl
      exact fun deviceKey frame later hmore hauthentic ↦
        ⟨⟨name, addresses, hlisted.did.mono (hfound.more.trans hmore), hmem⟩, hauthentic⟩
    · exact ih (hlisted.working rfl rfl)

theorem ensures_perform :
    Ensures (rules crypto address command).Allowed (Settled crypto address command)
      (perform crypto address command) [] := by
  cases command with
  | setMultipoint enabled => exact ensures_setMultipoint
  | setNoiseControl mode => exact ensures_setNoiseControl
  | answerAudioSwitchQuery =>
    apply ensures_ask .adapterNames Ends.working_nil trivial
    rintro (error | names) listed hlisted
    · exact hlisted.free rfl
    · exact ensures_answerFrom (hlisted.working rfl rfl)

/-! ## One frame -/

def executeCost : Request → ℕ
  | .execute _ _ => 1
  | _ => 0

theorem spends_validateControl : Spends executeCost validateControl 0 := by
  refine ⟨le_rfl, ?_⟩
  rintro (error | (_ | _))
  · trivial
  · trivial
  refine ⟨le_rfl, ?_⟩
  rintro (error | (_ | _))
  · trivial
  · trivial
  refine ⟨le_rfl, ?_⟩
  rintro (error | (_ | _))
  · trivial
  · refine ⟨le_rfl, fun deviceKey ↦ ⟨le_rfl, ?_⟩⟩
    rintro (_ | _)
    · trivial
    · trivial
  · trivial

theorem spends_sendAuthenticated {group code : UInt8} {message : List UInt8} :
    Spends executeCost (sendAuthenticated crypto address group code message) 1 := by
  change Spends executeCost (validateControl >>= _) (0 + 1)
  apply Spends.bind spends_validateControl
  intro deviceKey
  refine ⟨Nat.zero_le _, ?_⟩
  rintro (_ | sessionNonce)
  · trivial
  refine ⟨Nat.zero_le _, ?_⟩
  rintro (_ | accountKey)
  · trivial
  refine ⟨Nat.zero_le _, fun messageNonce ↦ ?_⟩
  change Spends executeCost (Program.ofExcept _ >>= _) (0 + 1)
  apply Spends.bind (Program.spends_ofExcept _)
  exact fun frame ↦ ⟨le_rfl, fun result ↦ Program.spends_ofExcept result⟩

theorem spends_answerFrom {names : List String} :
    Spends executeCost (answerFrom crypto address names) 1 := by
  induction names with
  | nil => trivial
  | cons name names ih =>
    refine ⟨Nat.zero_le _, ?_⟩
    rintro (error | ⟨⟩)
    · trivial
    refine ⟨Nat.zero_le _, ?_⟩
    rintro (error | addresses)
    · trivial
    change Spends executeCost (if address ∈ addresses then _ else _) 1
    split
    · refine ⟨Nat.zero_le _, ?_⟩
      rintro (error | ⟨⟩)
      · trivial
      · exact spends_sendAuthenticated
    · exact ih

theorem spends_perform : Spends executeCost (perform crypto address command) 1 := by
  cases command with
  | setMultipoint enabled =>
    refine ⟨Nat.zero_le _, ?_⟩
    rintro (_ | capability)
    · trivial
    change Spends executeCost (if (!capability.supported) = true then _ else _) 1
    split
    · trivial
    split
    · trivial
    · exact spends_sendAuthenticated
  | setNoiseControl mode =>
    change Spends executeCost (validateControl >>= _) (0 + 1)
    apply Spends.bind spends_validateControl
    intro deviceKey
    refine ⟨Nat.zero_le _, ?_⟩
    rintro (_ | state)
    · trivial
    change Spends executeCost (Program.ofExcept _ >>= _) (0 + 1)
    apply Spends.bind (Program.spends_ofExcept _)
    exact fun frame ↦ ⟨le_rfl, fun result ↦ Program.spends_ofExcept result⟩
  | answerAudioSwitchQuery =>
    refine ⟨Nat.zero_le _, ?_⟩
    rintro (error | names)
    · trivial
    · exact spends_answerFrom

/-- A control sends at most one frame, only to a device that was found connected, paired, not
blocked and permitted; the frame is one that the provider accepts as this command, by its mark or
as the mode to set, and the control succeeds exactly if it was acknowledged. -/
theorem controls_authentic {events : Past} {outcome : Outcome Request String Unit}
    (hruns : Runs (perform crypto address command) events outcome) :
    (∀ before event after, events = before ++ event :: after →
      (rules crypto address command).Allowed before event.request) ∧
    outcome.Good (rules crypto address command).Allowed (Settled crypto address command) events ∧
    spent executeCost events + outcome.pending executeCost ≤ 1 := by
  obtain ⟨hallowed, hgood⟩ := ensures_perform.of_runs hruns
  exact ⟨hallowed, hgood, spends_perform.of_runs hruns⟩

/-- What is asked for before multipoint is turned on. -/
def turningOn : Past :=
  [⟨.multipoint, some ⟨0x0102, true, true, false, false⟩⟩, ⟨.isPaired, .ok true⟩,
    ⟨.isConnected, .ok true⟩, ⟨.isBlocked, .ok false⟩, ⟨.deviceKey, "device-1"⟩,
    ⟨.controlsEnabled "device-1", true⟩, ⟨.sessionNonce, some (Vector.replicate 8 0x11)⟩,
    ⟨.storedKey "device-1", some (Vector.replicate 16 0x04)⟩,
    ⟨.messageNonce, Vector.replicate 8 0x22⟩]

def multipointFrame : List UInt8 :=
  [0x07, 0x12, 0, 17, 1] ++ List.replicate 8 0x22 ++
    [0x13, 0xcf, 0xda, 0xe5, 0x19, 0x49, 0x43, 0x7e]

theorem controls_authentic_turningOn : ∃ deviceKey,
    Carries Crypto.twoParties 0x0c1d2e3f5061 (.setMultipoint true) turningOn deviceKey
      multipointFrame := by
  let request : Request := .execute ⟨0x0c1d2e3f5061, 0x07, 0x12⟩ multipointFrame
  have hreplay : (perform Crypto.twoParties 0x0c1d2e3f5061 (.setMultipoint true)).replay
      (turningOn ++ [⟨request, .ok ()⟩]) = some (.finished (.ok ())) := by
    decide +kernel
  obtain ⟨hallowed, -, -⟩ := controls_authentic (Program.runs_of_replay hreplay)
  obtain ⟨-, -, deviceKey, -, hcarries⟩ := hallowed turningOn ⟨request, .ok ()⟩ [] rfl
  exact ⟨deviceKey, hcarries⟩

end BtDaemon.FastPair.Controls
