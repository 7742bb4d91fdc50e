import BtDaemon.RssiHelper.Limits
import BtDaemon.RssiHelper.Mgmt

/-!
# The RSSI helper

The helper is the only process that may open a management socket. A call of `Read` holds one of
four permits until it is over; it is admitted, authorized by polkit, counted against its target
and checked against BlueZ before a packet is sent for it. The calls are concurrent, and each of
them can time out or be dropped wherever it waits.
-/

namespace BtDaemon.RssiHelper

/-! ## The wire -/

structure Sample where
  status : String
  rssi : Int16
  relative : Bool
  deriving DecidableEq

inductive ErrorKind
  | permissionDenied
  | timedOut
  | other
  deriving DecidableEq

/-- The numbers are those of `EPERM`, `EACCES` and `ETIMEDOUT`. -/
def Mgmt.IoError.kind : Mgmt.IoError → ErrorKind
  | .timedOut => .timedOut
  | .os code => if code = 1 ∨ code = 13 then .permissionDenied
      else if code = 110 then .timedOut else .other
  | .writeZero => .other
  | .unexpectedEof => .other

namespace Sample

/-- `Sample::status`. -/
def ofStatus (status : String) : Sample := ⟨status, 0, false⟩

def fromRead : Except Mgmt.IoError (Reply × Bool) → Sample
  | .ok (.reading rssi, relative) => ⟨"ok", rssi, relative⟩
  | .ok (.notConnected, _) => ofStatus "not-connected"
  | .ok (.denied, _) => ofStatus "permission-denied"
  | .error error =>
    match error.kind with
    | .permissionDenied => ofStatus "permission-denied"
    | .timedOut => ofStatus "timeout"
    | .other => ofStatus "unavailable"
  | .ok (.unavailable, _) => ofStatus "unavailable"

end Sample

namespace Client

inductive Error
  | permissionDenied
  | timedOut
  | invalidData
  deriving DecidableEq

/-- `decode` of the unprivileged client. -/
def decode (sample : Sample) : Except Error (Reply × Bool) :=
  if sample.status = "ok" ∧ -128 ≤ sample.rssi ∧ sample.rssi < 127 then
    .ok (.reading sample.rssi, sample.relative)
  else if sample.status = "not-connected" then .ok (.notConnected, sample.relative)
  else if sample.status = "permission-denied" then .error .permissionDenied
  else if sample.status = "timeout" then .error .timedOut
  else if sample.status = "unavailable" then .ok (.unavailable, sample.relative)
  else .error .invalidData

end Client

namespace Helper

open Transition (System)

/-! ## A call -/

/-- The errors of the interface. -/
inductive Error
  | limits (error : FdoError)
  | invalidArgs (message : String)
  | accessDenied (message : String)
  | notSupported (message : String)
  | failed (message : String)
  | timeout (message : String)
  deriving DecidableEq

/-- What a call did, in the order in which it did it. -/
inductive Step
  | admitted (now : Instant)
  | authorized (sender : String)
  | accepted (target : Target) (now : Instant)
  | connected (answer : Bool)
  | typed (random : Bool)
  | mgmt (event : Mgmt.Event)

inductive Phase
  /-- Holds a permit and waits for the lock. -/
  | admitting (sender : String)
  | authorizing (sender : String) (address : Vector UInt8 6)
  | targeting (address : Vector UInt8 6)
  | connecting (address : Vector UInt8 6)
  /-- The device is connected, and the type of its address is asked for. -/
  | typing (address : Vector UInt8 6)
  | reading (target : Mgmt.Target) (exchange : Mgmt.State)
  | ended (result : Except Error Sample)
  | abandoned

/-- What a call of `Read` asks for. -/
structure Asked where
  sender : Option String
  index : UInt16
  address : String

structure Call where
  asked : Asked
  phase : Phase
  trail : List Step

namespace Call

/-- The call holds a permit. -/
def holds (call : Call) : Bool :=
  match call.phase with
  | .ended _ => false
  | .abandoned => false
  | _ => true

def finish (call : Call) (result : Except Error Sample) : Call :=
  { call with phase := .ended result }

def advance (call : Call) (step : Step) (phase : Phase) : Call :=
  { call with phase, trail := call.trail ++ [step] }

end Call

/-- The address as the limits know it. -/
def addressKey (address : Vector UInt8 6) : BitVec 48 :=
  BitVec.ofNat 48 (Endian.ofLe address.toList.reverse)

section Steps

-- How the Bluetooth library reads an address.
variable (parse : String → Option (Vector UInt8 6))

def parseTarget (index : UInt16) (address : String) : Except Error (Vector UInt8 6) :=
  if index = 0xffff ∨ address.utf8ByteSize ≠ 17 then
    .error (.invalidArgs "invalid Bluetooth target")
  else
    match parse address with
    | some address => .ok address
    | none => .error (.invalidArgs "invalid Bluetooth address")

inductive CallAction
  /-- The lock is got at this instant. -/
  | admits (now : Instant)
  | authorize (answer : Except String Bool)
  | target (now : Instant)
  | connected (answer : Except String Bool)
  /-- The type of the address, and whether the management socket opens. -/
  | addressType (answer : Except String String) (socket : Except Mgmt.IoError Unit)
  | exchange (action : Mgmt.Action)
  /-- `REQUEST_TIMEOUT` is over. -/
  | expire
  /-- The future is dropped. -/
  | abandon

def admitted (limits : Limits.State) (call : Call) (sender : String) (now : Instant) : Call :=
  match (limits.limits.admits now).1 with
  | .error error => call.finish (.error (.limits error))
  | .ok () =>
    match parseTarget parse call.asked.index call.asked.address with
    | .error error => (call.advance (.admitted now) call.phase).finish (.error error)
    | .ok address => call.advance (.admitted now) (.authorizing sender address)

/-- Polkit is asked about the sender of the call, and never opens a prompt. -/
def authorized (call : Call) (sender : String) (address : Vector UInt8 6) :
    Except String Bool → Call
  | .error error => call.finish (.error (.failed error))
  | .ok false => call.finish (.error (.accessDenied "connected RSSI read not authorized"))
  | .ok true => call.advance (.authorized sender) (.targeting address)

def targeted (limits : Limits.State) (call : Call) (address : Vector UInt8 6) (now : Instant) :
    Call :=
  let target := (call.asked.index, addressKey address)
  match (limits.limits.target now target).1 with
  | .error error => call.finish (.error (.limits error))
  | .ok () => call.advance (.accepted target now) (.connecting address)

def connected (call : Call) (address : Vector UInt8 6) : Except String Bool → Call
  | .error error => call.finish (.error (.failed error))
  | .ok false =>
    (call.advance (.connected false) call.phase).finish (.ok (.ofStatus "not-connected"))
  | .ok true => call.advance (.connected true) (.typing address)

/-- Whether the address is random. -/
def isRandom (addressType : String) : Except Error Bool :=
  if addressType = "public" ∨ addressType = "br/edr" then .ok false
  else if addressType = "random" then .ok true
  else .error (.notSupported "unknown Bluetooth address type")

def typed (call : Call) (address : Vector UInt8 6) (socket : Except Mgmt.IoError Unit) :
    Except String String → Call
  | .error error => call.finish (.error (.failed error))
  | .ok addressType =>
    match isRandom addressType with
    | .error error => call.finish (.error error)
    | .ok random =>
      let target : Mgmt.Target := ⟨call.asked.index, address, random⟩
      match socket with
      | .error error =>
        (call.advance (.typed random) call.phase).finish (.ok (.fromRead (.error error)))
      | .ok () => call.advance (.typed random) (.reading target (Mgmt.init target))

/-- The packets that the exchange added to its log. -/
def exchanged (call : Call) (target : Mgmt.Target) (before after : Mgmt.State) : Call :=
  let call := { call with
    trail := call.trail ++ (after.log.drop before.log.length).map Step.mgmt }
  match after.phase with
  | .done result => call.finish (.ok (.fromRead result))
  | .panicked _ => { call with phase := .abandoned }
  | _ => { call with phase := .reading target after }

def expire (call : Call) : Option Call :=
  match call.phase with
  | .admitting _ => none
  | .ended _ => none
  | .abandoned => none
  | _ => some (call.finish (.error (.timeout "RSSI helper request timed out")))

def callStep (limits : Limits.State) (call : Call) : CallAction → Option (Limits.State × Call)
  | .admits now =>
    match call.phase with
    | .admitting sender =>
      (Limits.step limits (.admits now)).map fun next ↦
        (next, admitted parse limits call sender now)
    | _ => none
  | .authorize answer =>
    match call.phase with
    | .authorizing sender address => some (limits, authorized call sender address answer)
    | _ => none
  | .target now =>
    match call.phase with
    | .targeting address =>
      (Limits.step limits (.target now (call.asked.index, addressKey address))).map fun next ↦
        (next, targeted limits call address now)
    | _ => none
  | .connected answer =>
    match call.phase with
    | .connecting address => some (limits, connected call address answer)
    | _ => none
  | .addressType answer socket =>
    match call.phase with
    | .typing address => some (limits, typed call address socket answer)
    | _ => none
  | .exchange action =>
    match call.phase with
    | .reading target exchange =>
      (Mgmt.step target exchange action).map fun next ↦
        (limits, exchanged call target exchange next)
    | _ => none
  | .expire => (expire call).map fun next ↦ (limits, next)
  | .abandon => if call.holds then some (limits, { call with phase := .abandoned }) else none

/-! ## The helper -/

structure State where
  permits : ℕ
  limits : Limits.State
  /-- Every call that came, oldest first. -/
  calls : List Call

def init : State := ⟨4, Limits.system.init, []⟩

inductive Action
  | read (sender : Option String) (index : UInt16) (address : String)
  | call (id : ℕ) (action : CallAction)

/-- A call that finds no permit is refused at once. -/
def read (state : State) (sender : Option String) (index : UInt16) (address : String) : State :=
  match sender with
  | none =>
    { state with calls := state.calls ++
        [⟨⟨none, index, address⟩, .ended (.error (.accessDenied "missing D-Bus sender")), []⟩] }
  | some name =>
    match state.permits with
    | 0 =>
      { state with calls := state.calls ++
          [⟨⟨sender, index, address⟩, .ended (.error (.limits limited)), []⟩] }
    | permits + 1 =>
      { state with
        permits
        calls := state.calls ++ [⟨⟨sender, index, address⟩, .admitting name, []⟩] }

/-- A call that is over gives its permit back. -/
def released (before after : Call) : ℕ := if before.holds && !after.holds then 1 else 0

def step (state : State) : Action → Option State
  | .read sender index address => some (read state sender index address)
  | .call id action =>
    match state.calls[id]? with
    | none => none
    | some call =>
      (callStep parse state.limits call action).map fun (limits, next) ↦
        { permits := state.permits + released call next
          limits
          calls := state.calls.set id next }

def system : System State Action := ⟨init, step parse⟩

end Steps

/-! ## What a call may do -/

/-- The management traffic of a call. -/
def mgmtBy : Step → Option Mgmt.Event
  | .mgmt event => some event
  | _ => none

def traffic (trail : List Step) : List Mgmt.Event := trail.filterMap mgmtBy

def admittedBy : Step → Option Instant
  | .admitted now => some now
  | _ => none

def acceptedBy : Step → Option (Target × Instant)
  | .accepted target now => some (target, now)
  | _ => none

section Trail

variable (parse : String → Option (Vector UInt8 6)) (asked : Asked)

/-- The call is of this sender and names this address. -/
def Asked.Names (sender : String) (address : Vector UInt8 6) : Prop :=
  asked.sender = some sender ∧ parseTarget parse asked.index asked.address = .ok address

/-- The trail of a call whose target was accepted. -/
def acceptedTrail (sender : String) (address : Vector UInt8 6) (admission acceptance : Instant) :
    List Step :=
  [.admitted admission, .authorized sender,
    .accepted (asked.index, addressKey address) acceptance]

/-- What may follow after a part of the trail of a call. -/
def Allowed (before : List Step) : Step → Prop
  | .admitted _ => before = []
  | .authorized sender => ∃ address admission, asked.Names parse sender address ∧
      before = [.admitted admission]
  | .accepted target _ => ∃ sender address admission, asked.Names parse sender address ∧
      target = (asked.index, addressKey address) ∧
      before = [.admitted admission, .authorized sender]
  | .connected _ => ∃ sender address admission acceptance, asked.Names parse sender address ∧
      before = acceptedTrail asked sender address admission acceptance
  | .typed _ => ∃ sender address admission acceptance, asked.Names parse sender address ∧
      before = acceptedTrail asked sender address admission acceptance ++ [.connected true]
  | .mgmt event => ∃ sender address random admission acceptance log,
      asked.Names parse sender address ∧
      before = acceptedTrail asked sender address admission acceptance ++
        [.connected true, .typed random] ++ log.map Step.mgmt ∧
      Mgmt.Allowed ⟨asked.index, address, random⟩ log event

/-- A sample says what the call saw. -/
def Truthful (trail : List Step) (sample : Sample) : Prop :=
  (sample = .ofStatus "not-connected" ∧ .connected false ∈ trail) ∨
  ∃ sender address random result, asked.Names parse sender address ∧
    .typed random ∈ trail ∧ sample = .fromRead result ∧
    ∀ answer relative, result = .ok (answer, relative) →
      Mgmt.Answered ⟨asked.index, address, random⟩ (traffic trail) answer relative

/-- Where a call stands is where its trail led. -/
def Stands (trail : List Step) : Phase → Prop
  | .admitting sender => asked.sender = some sender ∧ trail = []
  | .authorizing sender address => asked.Names parse sender address ∧
      ∃ admission, trail = [.admitted admission]
  | .targeting address => ∃ sender admission, asked.Names parse sender address ∧
      trail = [.admitted admission, .authorized sender]
  | .connecting address => ∃ sender admission acceptance, asked.Names parse sender address ∧
      trail = acceptedTrail asked sender address admission acceptance
  | .typing address => ∃ sender admission acceptance, asked.Names parse sender address ∧
      trail = acceptedTrail asked sender address admission acceptance ++ [.connected true]
  | .reading target exchange => ∃ sender admission acceptance,
      asked.Names parse sender target.address ∧ target.index = asked.index ∧
      trail = acceptedTrail asked sender target.address admission acceptance ++
        [.connected true, .typed target.random] ++ exchange.log.map Step.mgmt ∧
      Mgmt.Invariant target exchange
  | .ended (.ok sample) => Truthful parse asked trail sample
  | .ended (.error _) => True
  | .abandoned => True

end Trail

structure Proper (parse : String → Option (Vector UInt8 6)) (call : Call) : Prop where
  causal : EventLog.Causal (Allowed parse call.asked) call.trail
  stands : Stands parse call.asked call.trail call.phase

namespace Proper

variable {parse : String → Option (Vector UInt8 6)} {call : Call} {sender : String}
  {address : Vector UInt8 6}

theorem fails (hproper : Proper parse call) (error : Error) :
    Proper parse (call.finish (.error error)) := ⟨hproper.causal, trivial⟩

theorem advances (hproper : Proper parse call) {step : Step} {phase : Phase}
    (hallowed : Allowed parse call.asked call.trail step)
    (hstands : Stands parse call.asked (call.trail ++ [step]) phase) :
    Proper parse (call.advance step phase) := ⟨hproper.causal.concat hallowed, hstands⟩

theorem admitted (hproper : Proper parse call) (hphase : call.phase = .admitting sender)
    (limits : Limits.State) (now : Instant) :
    Proper parse (admitted parse limits call sender now) := by
  obtain ⟨hsender, htrail⟩ : call.asked.sender = some sender ∧ call.trail = [] := by
    have hstands := hproper.stands
    rw [hphase] at hstands
    exact hstands
  rw [Helper.admitted]
  split
  · exact hproper.fails _
  · split
    · exact ⟨hproper.causal.concat htrail, trivial⟩
    · next address haddress =>
      exact hproper.advances htrail ⟨⟨hsender, haddress⟩, now, by rw [htrail]; rfl⟩

theorem authorized (hproper : Proper parse call)
    (hphase : call.phase = .authorizing sender address) (answer : Except String Bool) :
    Proper parse (authorized call sender address answer) := by
  obtain ⟨hnames, admission, htrail⟩ : call.asked.Names parse sender address ∧
      ∃ admission, call.trail = [.admitted admission] := by
    have hstands := hproper.stands
    rw [hphase] at hstands
    exact hstands
  match answer with
  | .error error => exact hproper.fails _
  | .ok false => exact hproper.fails _
  | .ok true =>
    exact hproper.advances ⟨address, admission, hnames, htrail⟩
      ⟨sender, admission, hnames, by rw [htrail]; rfl⟩

theorem targeted (hproper : Proper parse call) (hphase : call.phase = .targeting address)
    (limits : Limits.State) (now : Instant) : Proper parse (targeted limits call address now) := by
  obtain ⟨sender, admission, hnames, htrail⟩ : ∃ sender admission,
      call.asked.Names parse sender address ∧
      call.trail = [.admitted admission, .authorized sender] := by
    have hstands := hproper.stands
    rw [hphase] at hstands
    exact hstands
  rw [Helper.targeted]
  split
  · exact hproper.fails _
  · exact hproper.advances ⟨sender, address, admission, hnames, rfl, htrail⟩
      ⟨sender, admission, now, hnames, by rw [htrail]; rfl⟩

theorem connected (hproper : Proper parse call) (hphase : call.phase = .connecting address)
    (answer : Except String Bool) : Proper parse (connected call address answer) := by
  obtain ⟨sender, admission, acceptance, hnames, htrail⟩ : ∃ sender admission acceptance,
      call.asked.Names parse sender address ∧
      call.trail = acceptedTrail call.asked sender address admission acceptance := by
    have hstands := hproper.stands
    rw [hphase] at hstands
    exact hstands
  have hallowed : ∀ answer, Allowed parse call.asked call.trail (.connected answer) :=
    fun _ ↦ ⟨sender, address, admission, acceptance, hnames, htrail⟩
  match answer with
  | .error error => exact hproper.fails _
  | .ok false =>
    exact ⟨hproper.causal.concat (hallowed false),
      .inl ⟨rfl, List.mem_append_right _ (List.mem_singleton_self _)⟩⟩
  | .ok true =>
    exact hproper.advances (hallowed true)
      ⟨sender, admission, acceptance, hnames, by rw [htrail]⟩

theorem typed (hproper : Proper parse call) (hphase : call.phase = .typing address)
    (socket : Except Mgmt.IoError Unit) (answer : Except String String) :
    Proper parse (typed call address socket answer) := by
  obtain ⟨sender, admission, acceptance, hnames, htrail⟩ : ∃ sender admission acceptance,
      call.asked.Names parse sender address ∧
      call.trail = acceptedTrail call.asked sender address admission acceptance ++
        [.connected true] := by
    have hstands := hproper.stands
    rw [hphase] at hstands
    exact hstands
  unfold Helper.typed
  split
  · exact hproper.fails _
  split
  · exact hproper.fails _
  next random _ =>
  have hallowed : Allowed parse call.asked call.trail (.typed random) :=
    ⟨sender, address, admission, acceptance, hnames, htrail⟩
  split
  · next error =>
    exact ⟨hproper.causal.concat hallowed, .inr ⟨sender, address, random, .error error, hnames,
      List.mem_append_right _ (List.mem_singleton_self _), rfl, nofun⟩⟩
  · refine hproper.advances hallowed ⟨sender, admission, acceptance, hnames, rfl, ?_,
      Mgmt.invariant_init _⟩
    rw [htrail, List.append_assoc]
    rfl

/-- A step of the exchange adds at most one packet. -/
theorem log_of_step {target : Mgmt.Target} {before after : Mgmt.State} {action : Mgmt.Action}
    (hstep : Mgmt.step target before action = some after) :
    after.log = before.log ∨ ∃ event, after.log = before.log ++ [event] := by
  cases action with
  | send result =>
    rw [Mgmt.step] at hstep
    split at hstep
    · rw [← Option.some.inj hstep]
      exact .inr ⟨_, rfl⟩
    · cases hstep
  | receive result =>
    cases result with
    | ok datagram =>
      rw [Mgmt.step] at hstep
      split at hstep
      · rw [← Option.some.inj hstep]
        exact .inr ⟨_, rfl⟩
      · cases hstep
    | error error =>
      rw [Mgmt.step] at hstep
      split at hstep
      · rw [← Option.some.inj hstep]
        exact .inl rfl
      · cases hstep
  | expire =>
    rw [Mgmt.step] at hstep
    split at hstep
    · rw [← Option.some.inj hstep]
      exact .inl rfl
    · rw [← Option.some.inj hstep]
      exact .inl rfl
    · cases hstep

theorem traffic_reading (asked : Asked) (admission acceptance : Instant) (random : Bool)
    (log : List Mgmt.Event) :
    traffic (acceptedTrail asked sender address admission acceptance ++
      [.connected true, .typed random] ++ log.map Step.mgmt) = log := by
  rw [traffic, List.filterMap_append, List.filterMap_map]
  exact List.filterMap_some

theorem exchanged (hproper : Proper parse call) {target : Mgmt.Target} {before after : Mgmt.State}
    (hphase : call.phase = .reading target before) {action : Mgmt.Action}
    (hstep : Mgmt.step target before action = some after) :
    Proper parse (exchanged call target before after) := by
  obtain ⟨sender, admission, acceptance, hnames, hindex, htrail, hinv⟩ :
      ∃ sender admission acceptance, call.asked.Names parse sender target.address ∧
        target.index = call.asked.index ∧
        call.trail = acceptedTrail call.asked sender target.address admission acceptance ++
          [.connected true, .typed target.random] ++ before.log.map Step.mgmt ∧
        Mgmt.Invariant target before := by
    have hstands := hproper.stands
    rw [hphase] at hstands
    exact hstands
  have hnext := hinv.step hstep
  have htarget : target = ⟨call.asked.index, target.address, target.random⟩ := by
    rw [← hindex]
  -- The trail with the new packet, if there is one.
  have hgrown : call.trail ++ (after.log.drop before.log.length).map Step.mgmt =
      acceptedTrail call.asked sender target.address admission acceptance ++
        [.connected true, .typed target.random] ++ after.log.map Step.mgmt := by
    rcases log_of_step hstep with hsame | ⟨event, hevent⟩
    · rw [hsame, List.drop_length, List.map_nil, List.append_nil, htrail]
    · rw [hevent, List.drop_left, htrail, List.append_assoc _ (before.log.map _), ← List.map_append]
  have hcausal : EventLog.Causal (Allowed parse call.asked)
      (call.trail ++ (after.log.drop before.log.length).map Step.mgmt) := by
    rcases log_of_step hstep with hsame | ⟨event, hevent⟩
    · rw [hsame, List.drop_length, List.map_nil, List.append_nil]
      exact hproper.causal
    · rw [hevent, List.drop_left]
      refine hproper.causal.concat ⟨sender, target.address, target.random, admission, acceptance,
        before.log, hnames, htrail, ?_⟩
      rw [← htarget]
      exact hnext.allowed before.log event [] hevent
  have htyped : Step.typed target.random ∈
      call.trail ++ (after.log.drop before.log.length).map Step.mgmt := by
    rw [hgrown]
    exact List.mem_append_left _ (List.mem_append_right _ (List.mem_cons_of_mem _
      (List.mem_singleton_self _)))
  unfold Helper.exchanged
  dsimp only
  split
  · next result hdone =>
    refine ⟨hcausal, .inr ⟨sender, target.address, target.random, result, hnames, htyped, rfl, ?_⟩⟩
    rintro answer relative rfl
    have hanswered := hnext.phase
    rw [hdone] at hanswered
    change Mgmt.Answered ⟨call.asked.index, target.address, target.random⟩
      (traffic (call.trail ++ _)) answer relative
    rw [← htarget, hgrown, traffic_reading]
    exact hanswered
  · exact ⟨hcausal, trivial⟩
  · exact ⟨hcausal, sender, admission, acceptance, hnames, hindex, hgrown, hnext⟩

theorem expired (hproper : Proper parse call) {next : Call} (hstep : expire call = some next) :
    Proper parse next := by
  unfold expire at hstep
  split at hstep
  · cases hstep
  · cases hstep
  · cases hstep
  · rw [← Option.some.inj hstep]
    exact hproper.fails _

theorem step (hproper : Proper parse call) {limits later : Limits.State} {next : Call}
    {action : CallAction} (hstep : callStep parse limits call action = some (later, next)) :
    Proper parse next := by
  cases action with
  | admits now =>
    simp only [callStep] at hstep
    split at hstep
    · next sender hphase =>
      obtain ⟨_, -, hpair⟩ := Option.map_eq_some_iff.mp hstep
      obtain ⟨-, rfl⟩ := Prod.mk.inj hpair
      exact hproper.admitted hphase limits now
    · cases hstep
  | authorize answer =>
    simp only [callStep] at hstep
    split at hstep
    · next sender address hphase =>
      obtain ⟨-, rfl⟩ := Prod.mk.inj (Option.some.inj hstep)
      exact hproper.authorized hphase answer
    · cases hstep
  | target now =>
    simp only [callStep] at hstep
    split at hstep
    · next address hphase =>
      obtain ⟨_, -, hpair⟩ := Option.map_eq_some_iff.mp hstep
      obtain ⟨-, rfl⟩ := Prod.mk.inj hpair
      exact hproper.targeted hphase limits now
    · cases hstep
  | connected answer =>
    simp only [callStep] at hstep
    split at hstep
    · next address hphase =>
      obtain ⟨-, rfl⟩ := Prod.mk.inj (Option.some.inj hstep)
      exact hproper.connected hphase answer
    · cases hstep
  | addressType answer socket =>
    simp only [callStep] at hstep
    split at hstep
    · next address hphase =>
      obtain ⟨-, rfl⟩ := Prod.mk.inj (Option.some.inj hstep)
      exact hproper.typed hphase socket answer
    · cases hstep
  | exchange action =>
    simp only [callStep] at hstep
    split at hstep
    · next target before hphase =>
      obtain ⟨after, hafter, hpair⟩ := Option.map_eq_some_iff.mp hstep
      obtain ⟨-, rfl⟩ := Prod.mk.inj hpair
      exact hproper.exchanged hphase hafter
    · cases hstep
  | expire =>
    obtain ⟨_, hexpired, hpair⟩ := Option.map_eq_some_iff.mp hstep
    obtain ⟨-, rfl⟩ := Prod.mk.inj hpair
    exact hproper.expired hexpired
  | abandon =>
    obtain ⟨-, hpair⟩ := Option.ite_none_right_eq_some.mp hstep
    obtain ⟨-, rfl⟩ := Prod.mk.inj (Option.some.inj hpair)
    exact ⟨hproper.causal, trivial⟩

end Proper

/-! ## The shared limits -/

def Call.admissions (call : Call) : List Instant := call.trail.filterMap admittedBy

def Call.acceptances (call : Call) : List (Target × Instant) := call.trail.filterMap acceptedBy

/-- What a step of a call takes of the limits is what it adds to its trail. -/
structure Counts (limits later : Limits.State) (call next : Call) : Prop where
  invariant : Limits.Invariant limits → Limits.Invariant later
  admitted : ∃ more, later.admitted = limits.admitted ++ more ∧
    next.admissions = call.admissions ++ more
  accepted : ∃ more, later.accepted = limits.accepted ++ more ∧
    next.acceptances = call.acceptances ++ more

namespace Counts

variable {parse : String → Option (Vector UInt8 6)} {limits later : Limits.State}
  {call next : Call}

/-- A step that leaves the limits alone. -/
theorem idle (hadmissions : next.admissions = call.admissions)
    (hacceptances : next.acceptances = call.acceptances) : Counts limits limits call next where
  invariant hinv := hinv
  admitted := ⟨[], (List.append_nil _).symm, by rw [hadmissions, List.append_nil]⟩
  accepted := ⟨[], (List.append_nil _).symm, by rw [hacceptances, List.append_nil]⟩

theorem admits {sender : String} {now : Instant}
    (hstep : Limits.step limits (.admits now) = some later) :
    Counts limits later call (Helper.admitted parse limits call sender now) := by
  have hinvariant : Limits.Invariant limits → Limits.Invariant later :=
    fun hinv ↦ hinv.step hstep
  obtain ⟨-, hnext⟩ := Option.ite_none_right_eq_some.mp hstep
  have hlater := Option.some.inj hnext
  rw [Limits.State.admits] at hlater
  rw [Helper.admitted]
  cases hadmits : limits.limits.admits now with
  | mk result table =>
    rw [hadmits] at hlater
    cases result with
    | error error =>
      dsimp only at hlater
      subst hlater
      exact ⟨hinvariant, ⟨[], (List.append_nil _).symm, (List.append_nil _).symm⟩,
        ⟨[], (List.append_nil _).symm, (List.append_nil _).symm⟩⟩
    | ok =>
      dsimp only at hlater
      subst hlater
      refine ⟨hinvariant, ⟨[now], rfl, ?_⟩, ⟨[], (List.append_nil _).symm, ?_⟩⟩
      · dsimp only
        split
        · exact List.filterMap_append
        · exact List.filterMap_append
      · dsimp only
        split
        · exact List.filterMap_append
        · exact List.filterMap_append

theorem target {address : Vector UInt8 6} {now : Instant}
    (hstep : Limits.step limits (.target now (call.asked.index, addressKey address)) =
      some later) :
    Counts limits later call (targeted limits call address now) := by
  have hinvariant : Limits.Invariant limits → Limits.Invariant later :=
    fun hinv ↦ hinv.step hstep
  obtain ⟨-, hnext⟩ := Option.ite_none_right_eq_some.mp hstep
  have hlater := Option.some.inj hnext
  rw [Limits.State.target] at hlater
  rw [Helper.targeted]
  cases htarget : limits.limits.target now (call.asked.index, addressKey address) with
  | mk result table =>
    rw [htarget] at hlater
    cases result with
    | error error =>
      dsimp only at hlater
      subst hlater
      exact ⟨hinvariant, ⟨[], (List.append_nil _).symm, (List.append_nil _).symm⟩,
        ⟨[], (List.append_nil _).symm, (List.append_nil _).symm⟩⟩
    | ok =>
      dsimp only at hlater
      subst hlater
      exact ⟨hinvariant, ⟨[], (List.append_nil _).symm, List.filterMap_append⟩,
        ⟨[_], rfl, List.filterMap_append⟩⟩

/-- A step that adds to the trail what the limits do not count. -/
theorem extends_idle {more : List Step} (htrail : next.trail = call.trail ++ more)
    (hadmitted : more.filterMap admittedBy = []) (haccepted : more.filterMap acceptedBy = []) :
    Counts limits limits call next := by
  apply idle
  · rw [Call.admissions, htrail, List.filterMap_append, hadmitted, List.append_nil]
    rfl
  · rw [Call.acceptances, htrail, List.filterMap_append, haccepted, List.append_nil]
    rfl

theorem authorize {sender : String} {address : Vector UInt8 6} (answer : Except String Bool) :
    Counts limits limits call (authorized call sender address answer) := by
  match answer with
  | .error error => exact idle rfl rfl
  | .ok false => exact idle rfl rfl
  | .ok true => exact extends_idle rfl rfl rfl

theorem connected {address : Vector UInt8 6} (answer : Except String Bool) :
    Counts limits limits call (connected call address answer) := by
  match answer with
  | .error error => exact idle rfl rfl
  | .ok false => exact extends_idle rfl rfl rfl
  | .ok true => exact extends_idle rfl rfl rfl

theorem typed {address : Vector UInt8 6} (socket : Except Mgmt.IoError Unit)
    (answer : Except String String) :
    Counts limits limits call (typed call address socket answer) := by
  unfold Helper.typed
  split
  · exact idle rfl rfl
  split
  · exact idle rfl rfl
  split
  · exact extends_idle rfl rfl rfl
  · exact extends_idle rfl rfl rfl

theorem exchanged (target : Mgmt.Target) (before after : Mgmt.State) :
    Counts limits limits call (exchanged call target before after) := by
  have hadmitted : ∀ events : List Mgmt.Event,
      (events.map Step.mgmt).filterMap admittedBy = [] := by
    intro events
    rw [List.filterMap_map]
    exact List.filterMap_eq_nil_iff.mpr fun _ _ ↦ rfl
  have haccepted : ∀ events : List Mgmt.Event,
      (events.map Step.mgmt).filterMap acceptedBy = [] := by
    intro events
    rw [List.filterMap_map]
    exact List.filterMap_eq_nil_iff.mpr fun _ _ ↦ rfl
  unfold Helper.exchanged
  dsimp only
  split
  · exact extends_idle rfl (hadmitted _) (haccepted _)
  · exact extends_idle rfl (hadmitted _) (haccepted _)
  · exact extends_idle rfl (hadmitted _) (haccepted _)

theorem of_step {action : CallAction}
    (hstep : callStep parse limits call action = some (later, next)) :
    Counts limits later call next := by
  cases action with
  | admits now =>
    simp only [callStep] at hstep
    split at hstep
    · obtain ⟨_, hlimits, hpair⟩ := Option.map_eq_some_iff.mp hstep
      obtain ⟨rfl, rfl⟩ := Prod.mk.inj hpair
      exact admits hlimits
    · cases hstep
  | authorize answer =>
    simp only [callStep] at hstep
    split at hstep
    · obtain ⟨rfl, rfl⟩ := Prod.mk.inj (Option.some.inj hstep)
      exact authorize answer
    · cases hstep
  | target now =>
    simp only [callStep] at hstep
    split at hstep
    · obtain ⟨_, hlimits, hpair⟩ := Option.map_eq_some_iff.mp hstep
      obtain ⟨rfl, rfl⟩ := Prod.mk.inj hpair
      exact target hlimits
    · cases hstep
  | connected answer =>
    simp only [callStep] at hstep
    split at hstep
    · obtain ⟨rfl, rfl⟩ := Prod.mk.inj (Option.some.inj hstep)
      exact connected answer
    · cases hstep
  | addressType answer socket =>
    simp only [callStep] at hstep
    split at hstep
    · obtain ⟨rfl, rfl⟩ := Prod.mk.inj (Option.some.inj hstep)
      exact typed socket answer
    · cases hstep
  | exchange action =>
    simp only [callStep] at hstep
    split at hstep
    · next target before _ =>
      obtain ⟨after, -, hpair⟩ := Option.map_eq_some_iff.mp hstep
      obtain ⟨rfl, rfl⟩ := Prod.mk.inj hpair
      exact exchanged target before after
    · cases hstep
  | expire =>
    obtain ⟨_, hexpired, hpair⟩ := Option.map_eq_some_iff.mp hstep
    obtain ⟨rfl, rfl⟩ := Prod.mk.inj hpair
    unfold expire at hexpired
    split at hexpired
    · cases hexpired
    · cases hexpired
    · cases hexpired
    · rw [← Option.some.inj hexpired]
      exact idle rfl rfl
  | abandon =>
    obtain ⟨-, hpair⟩ := Option.ite_none_right_eq_some.mp hstep
    obtain ⟨rfl, rfl⟩ := Prod.mk.inj (Option.some.inj hpair)
    exact idle rfl rfl

end Counts

/-! ## Every run -/

structure Invariant (parse : String → Option (Vector UInt8 6)) (state : State) : Prop where
  permits : state.permits + state.calls.countP Call.holds = 4
  proper : ∀ call ∈ state.calls, Proper parse call
  limits : Limits.Invariant state.limits
  admitted : state.limits.admitted.Perm (state.calls.flatMap Call.admissions)
  accepted : state.limits.accepted.Perm (state.calls.flatMap Call.acceptances)

namespace Invariant

variable {parse : String → Option (Vector UInt8 6)} {state : State}

theorem init : Invariant parse init where
  permits := rfl
  proper _ hcall := nomatch hcall
  limits := .init
  admitted := .nil
  accepted := .nil

/-- A new call did nothing yet. -/
theorem arrives (hinv : Invariant parse state) (call : Call) (htrail : call.trail = [])
    (hproper : Proper parse call) {permits : ℕ}
    (hpermits : permits + [call].countP Call.holds = state.permits) :
    Invariant parse { state with permits, calls := state.calls ++ [call] } where
  permits := by
    have hall := hinv.permits
    change permits + (state.calls ++ [call]).countP Call.holds = 4
    rw [List.countP_append]
    omega
  proper := List.forall_mem_append.mpr ⟨hinv.proper, List.forall_mem_singleton.mpr hproper⟩
  limits := hinv.limits
  admitted := by
    have hnone : call.admissions = [] := by rw [Call.admissions, htrail]; rfl
    rw [List.flatMap_append, List.flatMap_singleton, hnone, List.append_nil]
    exact hinv.admitted
  accepted := by
    have hnone : call.acceptances = [] := by rw [Call.acceptances, htrail]; rfl
    rw [List.flatMap_append, List.flatMap_singleton, hnone, List.append_nil]
    exact hinv.accepted

theorem read (hinv : Invariant parse state) (sender : Option String) (index : UInt16)
    (address : String) : Invariant parse (read state sender index address) := by
  have hnil : ∀ asked, EventLog.Causal (Allowed parse asked) [] :=
    fun _ ↦ EventLog.causal_nil _
  cases sender with
  | none => exact hinv.arrives ⟨_, .ended (.error _), []⟩ rfl ⟨hnil _, trivial⟩ rfl
  | some name =>
    unfold Helper.read
    dsimp only
    split
    · exact hinv.arrives ⟨_, .ended (.error _), []⟩ rfl ⟨hnil _, trivial⟩ rfl
    · next permits hpermits =>
      exact hinv.arrives ⟨_, .admitting name, []⟩ rfl ⟨hnil _, rfl, rfl⟩ hpermits.symm

/-- What one call gains, the calls gain together. -/
theorem perm_gain {Item : Type} {items : List Item} {of : Call → List Item}
    {before after : List Call} {call next : Call} {more : List Item}
    (hperm : items.Perm ((before ++ call :: after).flatMap of))
    (hnext : of next = of call ++ more) :
    (items ++ more).Perm ((before ++ next :: after).flatMap of) := by
  rw [List.flatMap_append, List.flatMap_cons] at hperm ⊢
  have hmoved : (before.flatMap of ++ (of call ++ after.flatMap of) ++ more).Perm
      (before.flatMap of ++ (of call ++ more ++ after.flatMap of)) := by
    rw [List.append_assoc, List.append_assoc, List.append_assoc]
    exact (List.perm_append_comm.append_left _).append_left _
  rw [hnext]
  exact (hperm.append_right more).trans hmoved

/-- A call that is over does nothing. -/
theorem holds_of_step {limits later : Limits.State} {call next : Call} {action : CallAction}
    (hstep : callStep parse limits call action = some (later, next)) : call.holds = true := by
  rw [Call.holds]
  cases hphase : call.phase with
  | ended result => cases action <;> simp [callStep, expire, Call.holds, hphase] at hstep
  | abandoned => cases action <;> simp [callStep, expire, Call.holds, hphase] at hstep
  | admitting | authorizing | targeting | connecting | typing | reading => rfl

theorem exists_split {calls : List Call} {id : ℕ} {call : Call} (hcall : calls[id]? = some call)
    (next : Call) : ∃ before after, calls = before ++ call :: after ∧
      calls.set id next = before ++ next :: after := by
  obtain ⟨hid, rfl⟩ := List.getElem?_eq_some_iff.mp hcall
  obtain ⟨before, after, hcalls, -, hset⟩ := @List.exists_of_set _ _ next _ hid
  exact ⟨before, after, hcalls, hset⟩

theorem call (hinv : Invariant parse state) {id : ℕ} {call : Call}
    (hcall : state.calls[id]? = some call) {action : CallAction} {limits : Limits.State}
    {next : Call} (hstep : callStep parse state.limits call action = some (limits, next)) :
    Invariant parse { permits := state.permits + released call next
                      limits
                      calls := state.calls.set id next } := by
  obtain ⟨before, after, hcalls, hset⟩ := exists_split hcall next
  have hcounts := Counts.of_step hstep
  obtain ⟨admissions, hadmitted, hadmissions⟩ := hcounts.admitted
  obtain ⟨acceptances, haccepted, hacceptances⟩ := hcounts.accepted
  have hheld := hinv.permits
  have hproper := hinv.proper
  have hadmits := hinv.admitted
  have haccepts := hinv.accepted
  rw [hcalls] at hheld hproper hadmits haccepts
  exact {
    permits := by
      change state.permits + released call next + (state.calls.set id next).countP Call.holds = 4
      rw [hset, List.countP_append, List.countP_cons, released, holds_of_step hstep]
      rw [List.countP_append, List.countP_cons, holds_of_step hstep] at hheld
      cases next.holds with
      | true =>
        simp only [Bool.not_true, Bool.and_false, if_true] at hheld ⊢
        simpa using hheld
      | false =>
        simp only [Bool.not_false, Bool.and_true, if_true] at hheld ⊢
        rw [if_neg Bool.false_ne_true]
        omega
    proper := by
      change ∀ other ∈ state.calls.set id next, Proper parse other
      rw [hset]
      obtain ⟨hbefore, hrest⟩ := List.forall_mem_append.mp hproper
      obtain ⟨hmine, hafter⟩ := List.forall_mem_cons.mp hrest
      exact List.forall_mem_append.mpr
        ⟨hbefore, List.forall_mem_cons.mpr ⟨hmine.step hstep, hafter⟩⟩
    limits := hcounts.invariant hinv.limits
    admitted := by
      change limits.admitted.Perm ((state.calls.set id next).flatMap Call.admissions)
      rw [hadmitted, hset]
      exact perm_gain hadmits hadmissions
    accepted := by
      change limits.accepted.Perm ((state.calls.set id next).flatMap Call.acceptances)
      rw [haccepted, hset]
      exact perm_gain haccepts hacceptances }

theorem step (hinv : Invariant parse state) {action : Action} {next : State}
    (hstep : Helper.step parse state action = some next) : Invariant parse next := by
  cases action with
  | read sender index address =>
    obtain rfl := Option.some.inj hstep
    exact hinv.read sender index address
  | call id action =>
    simp only [Helper.step] at hstep
    split at hstep
    · cases hstep
    · next called hcall =>
      obtain ⟨⟨limits, later⟩, hcalled, rfl⟩ := Option.map_eq_some_iff.mp hstep
      exact hinv.call hcall hcalled

end Invariant

/-! ## What the client believes -/

/-- Every reading of the management interface is one that the client accepts. -/
theorem reading_in_range {rssi : UInt8} (hrssi : rssi ≠ 127) :
    -128 ≤ rssi.toInt8.toInt16 ∧ rssi.toInt8.toInt16 < 127 := by
  have hlow := rssi.toInt8.le_toInt
  have hhigh := rssi.toInt8.toInt_lt
  have hother : rssi.toInt8.toInt ≠ 127 := by
    intro heq
    exact hrssi (congrArg Int8.toUInt8 (Int8.toInt_inj.mp heq))
  constructor
  · rw [Int16.le_iff_toInt_le, Int8.toInt_toInt16]
    exact hlow
  · rw [Int16.lt_iff_toInt_lt, Int8.toInt_toInt16]
    change rssi.toInt8.toInt < 127
    omega

/-- The call heard this reading of its target. -/
def Heard (parse : String → Option (Vector UInt8 6)) (call : Call) (rssi : Int16)
    (relative : Bool) : Prop :=
  ∃ sender address random before probe datagram, call.asked.Names parse sender address ∧
    .typed random ∈ call.trail ∧ traffic call.trail = before ++ [.datagram probe datagram] ∧
    Mgmt.inFlight before = some probe ∧
    Mgmt.IsReading ⟨call.asked.index, address, random⟩ probe datagram rssi ∧
    relative = decide (probe = .classic)

theorem decode_ofStatus_ne {status : String} (hstatus : status ≠ "ok") {rssi : Int16}
    {relative : Bool} :
    Client.decode (.ofStatus status) ≠ .ok (.reading rssi, relative) := by
  unfold Client.decode
  rw [if_neg fun hok ↦ hstatus hok.1]
  split
  · nofun
  split
  · nofun
  split
  · nofun
  split
  · nofun
  · nofun

/-- The client understands what the helper says, and believes what the call heard. -/
theorem understood {parse : String → Option (Vector UInt8 6)} {call : Call} {sample : Sample}
    (htruthful : Truthful parse call.asked call.trail sample) :
    Client.decode sample ≠ .error .invalidData ∧
      ∀ rssi relative, Client.decode sample = .ok (.reading rssi, relative) →
        Heard parse call rssi relative := by
  rcases htruthful with ⟨rfl, -⟩ | ⟨sender, address, random, result, hnames, htyped, rfl, hresult⟩
  · exact ⟨by decide, fun _ _ hdecode ↦ absurd hdecode (decode_ofStatus_ne (by decide))⟩
  cases result with
  | error error =>
    unfold Sample.fromRead
    dsimp only
    split
    · exact ⟨by decide, fun _ _ hdecode ↦ absurd hdecode (decode_ofStatus_ne (by decide))⟩
    · exact ⟨by decide, fun _ _ hdecode ↦ absurd hdecode (decode_ofStatus_ne (by decide))⟩
    · exact ⟨by decide, fun _ _ hdecode ↦ absurd hdecode (decode_ofStatus_ne (by decide))⟩
  | ok result =>
    obtain ⟨answer, classic⟩ := result
    have hanswered := hresult answer classic rfl
    cases answer with
    | reading reading =>
      obtain ⟨before, probe, datagram, hlog, hprobe, hanswers, hclassic⟩ := hanswered
      have hreading := hanswers.reading
      have hrange : -128 ≤ reading ∧ reading < 127 := by
        obtain ⟨byte, -, -, hbyte, rfl, -⟩ := hreading
        exact reading_in_range hbyte
      have hdecode : Client.decode (.fromRead (.ok (.reading reading, classic))) =
          .ok (.reading reading, classic) := if_pos ⟨rfl, hrange⟩
      rw [hdecode]
      refine ⟨nofun, ?_⟩
      rintro rssi relative hsame
      obtain ⟨hrssi, rfl⟩ := Prod.mk.inj (Except.ok.inj hsame)
      obtain rfl := Reply.reading.inj hrssi
      exact ⟨sender, address, random, before, probe, datagram, hnames, htyped, hlog, hprobe,
        hreading, hclassic⟩
    | notConnected =>
      exact ⟨nofun, fun _ _ hdecode ↦ absurd hdecode (decode_ofStatus_ne (by decide))⟩
    | unavailable =>
      exact ⟨nofun, fun _ _ hdecode ↦ absurd hdecode (decode_ofStatus_ne (by decide))⟩
    | denied =>
      exact ⟨nofun, fun _ _ hdecode ↦ absurd hdecode (decode_ofStatus_ne (by decide))⟩

/-! ## The helper is guarded -/

structure Guarded (parse : String → Option (Vector UInt8 6)) (state : State) : Prop where
  /-- At most four calls are under way, and no permit is lost. -/
  permits : state.permits + state.calls.countP Call.holds = 4
  /-- A packet is sent only for a call that was admitted, whose sender was authorized, whose target
  was accepted after that and then found connected, and it asks about this target. -/
  checked : ∀ call ∈ state.calls, EventLog.Causal (Allowed parse call.asked) call.trail
  /-- The limits hold for all calls together. -/
  admissions : ∃ admitted, admitted.Perm (state.calls.flatMap Call.admissions) ∧
    Limits.AdmissionsBounded admitted
  targets : ∃ accepted, accepted.Perm (state.calls.flatMap Call.acceptances) ∧
    Limits.TargetsBounded accepted
  /-- The client understands every sample, and a reading that it believes is one that the target of
  the call gave to it. -/
  understood : ∀ call ∈ state.calls, ∀ sample, call.phase = .ended (.ok sample) →
    Client.decode sample ≠ .error .invalidData ∧
      ∀ rssi relative, Client.decode sample = .ok (.reading rssi, relative) →
        Heard parse call rssi relative

/-- In every run of the helper, for any calls of any senders. -/
theorem helper_guarded {parse : String → Option (Vector UInt8 6)} {state : State}
    (hreach : (system parse).Reachable state) : Guarded parse state := by
  have hinv : Invariant parse state := hreach.invariant .init fun _ _ _ hinv ↦ hinv.step
  exact {
    permits := hinv.permits
    checked := fun call hcall ↦ (hinv.proper call hcall).causal
    admissions := ⟨_, hinv.admitted, hinv.limits.admissions⟩
    targets := ⟨_, hinv.accepted, hinv.limits.targetsBounded⟩
    understood := by
      intro call hcall sample hended
      have hstands := (hinv.proper call hcall).stands
      rw [hended] at hstands
      exact understood hstands }

/-- Only one address is known. -/
def parseOne (address : String) : Option (Vector UInt8 6) :=
  if address = "01:23:45:67:89:AB" then some Mgmt.someTarget.address else none

/-- A random address is read over LE. -/
def readingRandom : List Action :=
  [.read (some ":1.7") 0 "01:23:45:67:89:AB", .call 0 (.admits 5), .call 0 (.authorize (.ok true)),
    .call 0 (.target 6), .call 0 (.connected (.ok true)),
    .call 0 (.addressType (.ok "random") (.ok ())), .call 0 (.exchange (.send (.ok 13))),
    .call 0 (.exchange (.receive (.ok (Mgmt.eventBytes Mgmt.commandComplete 0 0
      (Mgmt.peer Mgmt.someTarget.address 2 ++ [0xd6, 127, 127])))))]

def answerOf (call : Call) : Option Sample :=
  match call.phase with
  | .ended (.ok sample) => some sample
  | _ => none

theorem helper_guarded_random :
    ∃ state, (system parseOne).Reachable state ∧
      state.calls.map answerOf = [some ⟨"ok", -42, false⟩] ∧ Guarded parseOne state := by
  have hanswers : ((system parseOne).run init readingRandom).map
      (fun state ↦ state.calls.map answerOf) = some [some ⟨"ok", -42, false⟩] := by
    decide +kernel
  obtain ⟨state, hrun, hanswer⟩ := Option.map_eq_some_iff.mp hanswers
  exact ⟨state, ⟨_, hrun⟩, hanswer, helper_guarded ⟨_, hrun⟩⟩

end Helper

end BtDaemon.RssiHelper
