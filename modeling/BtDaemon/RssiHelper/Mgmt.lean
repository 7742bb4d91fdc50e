import BtDaemon.Foundation.Endian
import BtDaemon.Foundation.EventLog
import BtDaemon.Foundation.Slice
import BtDaemon.Foundation.Transition

/-!
# The management exchange

One socket serves one request for the connection information of a peer. The socket receives
every event of the Bluetooth management interface, so what answers a probe must be told from
everything else by its bytes. A public address is probed over BR/EDR first and over LE only when
that is answered with Not Connected.
-/

namespace BtDaemon.RssiHelper

inductive Reply
  | reading (rssi : Int16)
  | notConnected
  | unavailable
  | denied
  deriving DecidableEq

namespace Mgmt

open Slice (Panic)

def getConnInfo : UInt16 := 0x0031
def commandComplete : UInt16 := 0x0001
def commandStatus : UInt16 := 0x0002
def notConnected : UInt8 := 0x02
def permissionDenied : UInt8 := 0x14

/-- `to_le_bytes` -/
def bytesOf (word : UInt16) : List UInt8 := Endian.toLe 2 word.toNat

def peer (address : Vector UInt8 6) (kind : UInt8) : List UInt8 :=
  address.toList.reverse ++ [kind]

def request (index : UInt16) (peer : List UInt8) : List UInt8 :=
  bytesOf getConnInfo ++ bytesOf index ++ bytesOf 7 ++ peer

/-! ## One datagram -/

def word (header : List UInt8) (position : ℕ) : Except Panic UInt16 := do
  let low ← Slice.read header position
  let high ← Slice.read header (position + 1)
  return .ofNat (Endian.ofLe [low, high])

/-- `[target @ .., rssi, _, _]` -/
def splitReading (parameters : List UInt8) : Option (List UInt8 × UInt8) :=
  match parameters.reverse with
  | _ :: _ :: rssi :: target => some (target.reverse, rssi)
  | _ => none

/-- What status, event and parameters say about the peer. -/
def outcome (status : UInt8) (event : UInt16) (parameters peer : List UInt8) : Option Reply :=
  if status = 0 then
    match splitReading parameters with
    | some (target, rssi) =>
      if event = commandComplete ∧ target = peer then
        some (if rssi = 127 then .unavailable else .reading rssi.toInt8.toInt16)
      else none
    | none => none
  else if status = notConnected then some .notConnected
  else if status = permissionDenied then some .denied
  else some .unavailable

def reply (packet : List UInt8) (index : UInt16) (peer : List UInt8) :
    Except Panic (Option Reply) :=
  match Slice.takeTo packet 9 with
  | none => .ok none
  | some header => do
    let event ← word header 0
    if (← word header 2) ≠ index then return none
    else if (← word header 4).toNat ≠ (← Slice.subtract packet.length 6) then return none
    else if (← word header 6) ≠ getConnInfo then return none
    else if event ∉ [commandComplete, commandStatus] then return none
    else
      let status ← Slice.read packet 8
      let parameters ← Slice.dropFrom packet 9
      return outcome status event parameters peer

/-- The bytes of an event that completes or refuses a request for connection information. -/
def eventBytes (event index : UInt16) (status : UInt8) (parameters : List UInt8) : List UInt8 :=
  bytesOf event ++ bytesOf index ++ Endian.toLe 2 (parameters.length + 3) ++
    bytesOf getConnInfo ++ [status] ++ parameters

/-- The datagram is a Command Complete or a Command Status for this index and the opcode. -/
def IsEvent (index : UInt16) (datagram : List UInt8) (event : UInt16) (status : UInt8)
    (parameters : List UInt8) : Prop :=
  event ∈ [commandComplete, commandStatus] ∧ parameters.length + 3 < UInt16.size ∧
    datagram = eventBytes event index status parameters

theorem bytesOf_ofLe (low high : UInt8) :
    bytesOf (.ofNat (Endian.ofLe [low, high])) = [low, high] := by
  have hbound : Endian.ofLe [low, high] < 256 ^ 2 := Endian.ofLe_lt [low, high]
  have hword : (UInt16.ofNat (Endian.ofLe [low, high])).toNat = Endian.ofLe [low, high] := by
    rw [UInt16.toNat_ofNat']
    omega
  rw [bytesOf, hword]
  exact Endian.toLe_ofLe [low, high]

theorem ofNat_ofLe_bytesOf (word : UInt16) : UInt16.ofNat (Endian.ofLe (bytesOf word)) = word := by
  apply UInt16.toNat.inj
  rw [bytesOf, Endian.ofLe_toLe, UInt16.toNat_ofNat']
  have hbound := word.toNat_lt
  omega

/-- A datagram with a whole header, read without a panic. -/
theorem reply_header (a b c d e f g h status : UInt8) (parameters : List UInt8) (index : UInt16)
    (peer : List UInt8) :
    reply ([a, b, c, d, e, f, g, h, status] ++ parameters) index peer =
      .ok (if .ofNat (Endian.ofLe [c, d]) = index ∧
          (UInt16.ofNat (Endian.ofLe [e, f])).toNat = parameters.length + 3 ∧
          .ofNat (Endian.ofLe [g, h]) = getConnInfo ∧
          .ofNat (Endian.ofLe [a, b]) ∈ [commandComplete, commandStatus]
        then outcome status (.ofNat (Endian.ofLe [a, b])) parameters peer else none) := by
  have hheader := Slice.takeTo_append [a, b, c, d, e, f, g, h, status] parameters
  have hrest := Slice.dropFrom_append [a, b, c, d, e, f, g, h, status] parameters
  have hlength : ([a, b, c, d, e, f, g, h, status] ++ parameters).length =
      parameters.length + 3 + 6 := by simp
  simp only [List.length_cons, List.length_nil, Nat.zero_add, Nat.reduceAdd] at hheader hrest
  rw [reply, hlength, Slice.subtract_add, hheader, hrest, ite_and, ite_and, ite_and]
  simp only [word, Slice.read_zero, Slice.read_succ, List.cons_append, ne_eq, ite_not]
  simp only [bind, Except.bind, pure, Except.pure]
  split_ifs <;> rfl

theorem exists_header (packet : List UInt8) :
    packet.length < 9 ∨ ∃ a b c d e f g h status parameters,
      packet = [a, b, c, d, e, f, g, h, status] ++ parameters := by
  match packet with
  | a :: b :: c :: d :: e :: f :: g :: h :: status :: parameters =>
    exact .inr ⟨a, b, c, d, e, f, g, h, status, parameters, rfl⟩
  | [] | [_] | [_, _] | [_, _, _] | [_, _, _, _] | [_, _, _, _, _] | [_, _, _, _, _, _]
  | [_, _, _, _, _, _, _] | [_, _, _, _, _, _, _, _] => exact .inl (by simp)

/-- No datagram is read out of its bounds. -/
theorem reply_no_panic (packet : List UInt8) (index : UInt16) (peer : List UInt8) :
    ∃ answer, reply packet index peer = .ok answer := by
  rcases exists_header packet with hshort | ⟨a, b, c, d, e, f, g, h, status, parameters, rfl⟩
  · exact ⟨none, by rw [reply, Slice.takeTo_eq_none hshort]⟩
  · exact ⟨_, reply_header a b c d e f g h status parameters index peer⟩

theorem length_eventBytes (event index : UInt16) (status : UInt8) (parameters : List UInt8) :
    (eventBytes event index status parameters).length = parameters.length + 9 := by
  simp only [eventBytes, bytesOf, List.length_append, Endian.length_toLe, List.length_singleton]
  omega

theorem exists_bytesOf (word : UInt16) :
    ∃ low high, bytesOf word = [low, high] ∧ .ofNat (Endian.ofLe [low, high]) = word := by
  refine ⟨_, _, rfl, ?_⟩
  exact ofNat_ofLe_bytesOf word

theorem reply_eventBytes {event : UInt16} {parameters : List UInt8}
    (hevent : event ∈ [commandComplete, commandStatus])
    (hlength : parameters.length + 3 < UInt16.size) (index : UInt16) (status : UInt8)
    (peer : List UInt8) :
    reply (eventBytes event index status parameters) index peer =
      .ok (outcome status event parameters peer) := by
  have hword : (UInt16.ofNat (parameters.length + 3)).toNat = parameters.length + 3 := by
    rw [UInt16.toNat_ofNat']
    exact Nat.mod_eq_of_lt hlength
  obtain ⟨a, b, hab, heventWord⟩ := exists_bytesOf event
  obtain ⟨c, d, hcd, hindexWord⟩ := exists_bytesOf index
  obtain ⟨e, f, hef, hlengthWord⟩ := exists_bytesOf (.ofNat (parameters.length + 3))
  obtain ⟨g, h, hgh, hopcodeWord⟩ := exists_bytesOf getConnInfo
  have hbytes : eventBytes event index status parameters =
      [a, b, c, d, e, f, g, h, status] ++ parameters := by
    rw [bytesOf, hword] at hef
    rw [eventBytes, hab, hcd, hef, hgh]
    rfl
  rw [hbytes, reply_header, heventWord, hindexWord, hlengthWord, hopcodeWord, hword,
    if_pos ⟨rfl, rfl, rfl, hevent⟩]

/-- What is taken for an answer is an event for this index and the opcode, of the length that its
header gives. -/
theorem reply_eq_some {packet : List UInt8} {index : UInt16} {peer : List UInt8} {answer : Reply} :
    reply packet index peer = .ok (some answer) ↔
      ∃ event status parameters, IsEvent index packet event status parameters ∧
        outcome status event parameters peer = some answer := by
  constructor
  · intro hanswer
    rcases exists_header packet with hshort | ⟨a, b, c, d, e, f, g, h, status, parameters, rfl⟩
    · rw [reply, Slice.takeTo_eq_none hshort] at hanswer
      cases hanswer
    · rw [reply_header] at hanswer
      obtain ⟨⟨hindex, hlength, hopcode, hevent⟩, houtcome⟩ :=
        Option.ite_none_right_eq_some.mp (Except.ok.inj hanswer)
      have hparameters : Endian.toLe 2 (parameters.length + 3) = [e, f] := by
        rw [← hlength]
        exact bytesOf_ofLe e f
      refine ⟨_, status, parameters, ⟨hevent, ?_, ?_⟩, houtcome⟩
      · rw [← hlength]
        exact UInt16.toNat_lt _
      · rw [eventBytes, bytesOf_ofLe, ← hindex, ← hopcode, bytesOf_ofLe, bytesOf_ofLe, hparameters]
        rfl
  · rintro ⟨event, status, parameters, ⟨hevent, hlength, rfl⟩, houtcome⟩
    rw [reply_eventBytes hevent hlength, houtcome]

theorem splitReading_eq_some {parameters target : List UInt8} {rssi : UInt8} :
    splitReading parameters = some (target, rssi) ↔
      ∃ txPower maxTxPower, parameters = target ++ [rssi, txPower, maxTxPower] := by
  rw [splitReading]
  constructor
  · intro hsplit
    split at hsplit
    · next maxTxPower txPower last front hreverse =>
      obtain ⟨rfl, rfl⟩ := Prod.mk.inj (Option.some.inj hsplit)
      refine ⟨txPower, maxTxPower, ?_⟩
      rw [← List.reverse_reverse parameters, hreverse]
      simp
    · cases hsplit
  · rintro ⟨txPower, maxTxPower, rfl⟩
    simp

theorem outcome_of_ne_zero {status : UInt8} (hstatus : status ≠ 0) (event : UInt16)
    (parameters peer : List UInt8) :
    outcome status event parameters peer =
      some (if status = notConnected then .notConnected
        else if status = permissionDenied then .denied else .unavailable) := by
  rw [outcome, if_neg hstatus]
  split_ifs <;> rfl

/-- Status zero is an answer only with the peer of the probe. -/
theorem outcome_zero {event : UInt16} {parameters peer : List UInt8} {answer : Reply}
    (houtcome : outcome 0 event parameters peer = some answer) :
    event = commandComplete ∧ ∃ rssi txPower maxTxPower,
      parameters = peer ++ [rssi, txPower, maxTxPower] ∧
        answer = if rssi = 127 then .unavailable else .reading rssi.toInt8.toInt16 := by
  rw [outcome, if_pos rfl] at houtcome
  split at houtcome
  · next target rssi hsplit =>
    obtain ⟨⟨hevent, rfl⟩, hread⟩ := Option.ite_none_right_eq_some.mp houtcome
    obtain ⟨txPower, maxTxPower, hparameters⟩ := splitReading_eq_some.mp hsplit
    exact ⟨hevent, rssi, txPower, maxTxPower, hparameters, (Option.some.inj hread).symm⟩
  · cases houtcome

theorem outcome_reading {status : UInt8} {event : UInt16} {parameters peer : List UInt8}
    {reading : Int16} (houtcome : outcome status event parameters peer = some (.reading reading)) :
    status = 0 ∧ event = commandComplete ∧ ∃ rssi txPower maxTxPower,
      parameters = peer ++ [rssi, txPower, maxTxPower] ∧ rssi ≠ 127 ∧
        reading = rssi.toInt8.toInt16 := by
  by_cases hstatus : status = 0
  · obtain rfl := hstatus
    obtain ⟨hevent, rssi, txPower, maxTxPower, hparameters, hanswer⟩ := outcome_zero houtcome
    refine ⟨rfl, hevent, rssi, txPower, maxTxPower, hparameters, ?_⟩
    split_ifs at hanswer with hunavailable
    exact ⟨hunavailable, Reply.reading.inj hanswer⟩
  · rw [outcome_of_ne_zero hstatus] at houtcome
    split_ifs at houtcome
    all_goals cases houtcome

theorem outcome_notConnected {status : UInt8} {event : UInt16} {parameters peer : List UInt8}
    (houtcome : outcome status event parameters peer = some .notConnected) :
    status = notConnected := by
  by_cases hstatus : status = 0
  · obtain rfl := hstatus
    obtain ⟨-, rssi, -, -, -, hanswer⟩ := outcome_zero houtcome
    split_ifs at hanswer
  · rw [outcome_of_ne_zero hstatus] at houtcome
    split_ifs at houtcome with hanswer
    · exact hanswer
    all_goals cases houtcome

/-! ## The exchange -/

inductive IoError
  | writeZero
  | unexpectedEof
  | timedOut
  /-- What the socket reports. -/
  | os (code : ℕ)
  deriving DecidableEq

/-- The transport and address type that a probe names. -/
inductive Probe
  | classic
  | lePublic
  | leRandom
  deriving DecidableEq

def Probe.kind : Probe → UInt8
  | .classic => 0
  | .lePublic => 1
  | .leRandom => 2

/-- What `read_from` is asked for. -/
structure Target where
  index : UInt16
  address : Vector UInt8 6
  random : Bool

def Target.peer (target : Target) (probe : Probe) : List UInt8 :=
  Mgmt.peer target.address probe.kind

structure Buffer where
  bytes : List UInt8
  length_eq : bytes.length = 1024

def Buffer.zeroed : Buffer := ⟨List.replicate 1024 0, List.length_replicate⟩

/-- `recv` with `MSG_TRUNC`: what fits is written, and the whole length is returned. -/
def Buffer.recv (buffer : Buffer) (datagram : List UInt8) : Buffer × ℕ :=
  (⟨datagram.take 1024 ++ buffer.bytes.drop datagram.length, by
    rw [List.length_append, List.length_take, List.length_drop, buffer.length_eq]
    omega⟩, datagram.length)

inductive Phase
  | sending (probe : Probe)
  | receiving (probe : Probe) (buffer : Buffer)
  | done (result : Except IoError (Reply × Bool))
  | panicked (panic : Panic)

inductive Event
  | request (probe : Probe) (bytes : List UInt8)
  | datagram (probe : Probe) (bytes : List UInt8)

structure State where
  phase : Phase
  log : List Event

inductive Action
  /-- `send` returns. -/
  | send (sent : Except IoError ℕ)
  /-- `recv` returns. -/
  | receive (received : Except IoError (List UInt8))
  /-- The two seconds are over. -/
  | expire

def init (target : Target) : State := ⟨.sending (if target.random then .leRandom else .classic), []⟩

/-- Zero is what the kernel returns when it queued a Command Status at once. -/
def sentRequest (sent length : ℕ) : Except IoError Unit :=
  if sent = 0 ∨ sent = length then .ok () else .error .writeZero

/-- `read_from` after an exchange. -/
def answered (probe : Probe) (answer : Reply) : Phase :=
  match probe with
  | .classic =>
    if answer ≠ .notConnected then .done (.ok (answer, true)) else .sending .lePublic
  | _ => .done (.ok (answer, false))

/-- One turn of the loop in `exchange`. -/
def received (target : Target) (probe : Probe) (buffer : Buffer) (datagram : List UInt8) : Phase :=
  match buffer.recv datagram with
  | (buffer, count) =>
    if count = 0 then .done (.error .unexpectedEof)
    else
      match Slice.takeTo buffer.bytes count with
      | none => .receiving probe buffer
      | some packet =>
        match reply packet target.index (target.peer probe) with
        | .error panic => .panicked panic
        | .ok none => .receiving probe buffer
        | .ok (some answer) => answered probe answer

def sent (probe : Probe) (length : ℕ) : Except IoError ℕ → Phase
  | .error error => .done (.error error)
  | .ok count =>
    match sentRequest count length with
    | .error error => .done (.error error)
    | .ok () => .receiving probe .zeroed

def step (target : Target) (state : State) : Action → Option State
  | .send result =>
    match state.phase with
    | .sending probe =>
      let packet := request target.index (target.peer probe)
      some ⟨sent probe packet.length result, state.log ++ [.request probe packet]⟩
    | _ => none
  | .receive (.ok datagram) =>
    match state.phase with
    | .receiving probe buffer =>
      some ⟨received target probe buffer datagram, state.log ++ [.datagram probe datagram]⟩
    | _ => none
  | .receive (.error error) =>
    match state.phase with
    | .receiving _ _ => some { state with phase := .done (.error error) }
    | _ => none
  | .expire =>
    match state.phase with
    | .sending _ => some { state with phase := .done (.error .timedOut) }
    | .receiving _ _ => some { state with phase := .done (.error .timedOut) }
    | _ => none

def system (target : Target) : Transition.System State Action := ⟨init target, step target⟩

/-- A datagram of any length is seen whole or not at all. -/
theorem Buffer.takeTo_recv (buffer : Buffer) (datagram : List UInt8) :
    Slice.takeTo (buffer.recv datagram).1.bytes (buffer.recv datagram).2 =
      if datagram.length ≤ 1024 then some datagram else none := by
  split_ifs with hfits
  · have hbytes : (buffer.recv datagram).1.bytes =
        datagram ++ buffer.bytes.drop datagram.length := by
      calc (buffer.recv datagram).1.bytes
          = datagram.take 1024 ++ buffer.bytes.drop datagram.length := rfl
        _ = datagram ++ buffer.bytes.drop datagram.length := by rw [List.take_of_length_le hfits]
    rw [hbytes]
    exact Slice.takeTo_append datagram _
  · apply Slice.takeTo_eq_none
    rw [(buffer.recv datagram).1.length_eq]
    exact Nat.lt_of_not_le hfits

/-! ## What ends an exchange -/

/-- An event that gives a reading for the peer of the probe. -/
def IsReading (target : Target) (probe : Probe) (datagram : List UInt8) (reading : Int16) : Prop :=
  ∃ rssi txPower maxTxPower, rssi ≠ 127 ∧ reading = rssi.toInt8.toInt16 ∧
    datagram = eventBytes commandComplete target.index 0
      (target.peer probe ++ [rssi, txPower, maxTxPower])

/-- An event that answers the probe. -/
def Answers (target : Target) (probe : Probe) (datagram : List UInt8) (answer : Reply) : Prop :=
  ∃ event status parameters, IsEvent target.index datagram event status parameters ∧
    outcome status event parameters (target.peer probe) = some answer

theorem Answers.reading {target : Target} {probe : Probe} {datagram : List UInt8} {reading : Int16}
    (hanswers : Answers target probe datagram (.reading reading)) :
    IsReading target probe datagram reading := by
  obtain ⟨event, status, parameters, ⟨-, -, rfl⟩, houtcome⟩ := hanswers
  obtain ⟨rfl, rfl, rssi, txPower, maxTxPower, rfl, havailable, hreading⟩ :=
    outcome_reading houtcome
  exact ⟨rssi, txPower, maxTxPower, havailable, hreading, rfl⟩

/-- What one turn of the loop does with a datagram. -/
theorem received_cases (target : Target) (probe : Probe) (buffer : Buffer)
    (datagram : List UInt8) :
    (datagram = [] ∧ received target probe buffer datagram = .done (.error .unexpectedEof)) ∨
    (datagram ≠ [] ∧ ∃ later, received target probe buffer datagram = .receiving probe later) ∨
    (∃ answer, Answers target probe datagram answer ∧
      received target probe buffer datagram = answered probe answer) := by
  by_cases hempty : datagram = []
  · obtain rfl := hempty
    exact .inl ⟨rfl, rfl⟩
  have hcount : (buffer.recv datagram).2 ≠ 0 :=
    fun hlength ↦ hempty (List.eq_nil_of_length_eq_zero hlength)
  have htake := buffer.takeTo_recv datagram
  right
  rw [received]
  dsimp only
  rw [if_neg hcount, htake]
  split_ifs with hfits
  · obtain ⟨result, hreply⟩ := reply_no_panic datagram target.index (target.peer probe)
    dsimp only
    rw [hreply]
    cases result with
    | none => exact .inl ⟨hempty, _, rfl⟩
    | some answer => exact .inr ⟨answer, reply_eq_some.mp hreply, rfl⟩
  · exact .inl ⟨hempty, _, rfl⟩

/-- The probe that was sent last. -/
def inFlight (log : List Event) : Option Probe :=
  log.foldl (fun last event ↦
    match event with
    | .request probe _ => some probe
    | .datagram _ _ => last) none

@[simp]
theorem inFlight_request (log : List Event) (probe : Probe) (bytes : List UInt8) :
    inFlight (log ++ [.request probe bytes]) = some probe := by
  rw [inFlight, List.foldl_append]
  rfl

@[simp]
theorem inFlight_datagram (log : List Event) (probe : Probe) (bytes : List UInt8) :
    inFlight (log ++ [.datagram probe bytes]) = inFlight log := by
  rw [inFlight, List.foldl_append]
  rfl

/-- An event for this index that reports Not Connected. -/
def ReportsNotConnected (target : Target) (datagram : List UInt8) : Prop :=
  ∃ event parameters, IsEvent target.index datagram event notConnected parameters

/-- When a probe may be sent: first, or over LE right after the answer to the classic probe. -/
def MayProbe (target : Target) (before : List Event) : Probe → Prop
  | .classic => target.random = false ∧ before = []
  | .lePublic => target.random = false ∧ ∃ earlier datagram,
      before = earlier ++ [.datagram .classic datagram] ∧ inFlight earlier = some .classic ∧
        ReportsNotConnected target datagram
  | .leRandom => target.random = true ∧ before = []

def Allowed (target : Target) (before : List Event) : Event → Prop
  | .request probe bytes =>
    bytes = request target.index (target.peer probe) ∧ MayProbe target before probe
  | .datagram probe _ => inFlight before = some probe

/-- The result comes from the last datagram, which answers the probe in flight. -/
def Answered (target : Target) (log : List Event) (answer : Reply) (relative : Bool) : Prop :=
  ∃ before probe datagram, log = before ++ [.datagram probe datagram] ∧
    inFlight before = some probe ∧ Answers target probe datagram answer ∧
      relative = decide (probe = .classic)

def PhaseHolds (target : Target) (log : List Event) : Phase → Prop
  | .sending probe => MayProbe target log probe
  | .receiving probe _ =>
    inFlight log = some probe ∧ (probe = .classic → target.random = false)
  | .done (.ok (answer, relative)) => Answered target log answer relative
  | .done (.error _) => True
  | .panicked _ => False

structure Invariant (target : Target) (state : State) : Prop where
  allowed : EventLog.Causal (Allowed target) state.log
  phase : PhaseHolds target state.log state.phase

theorem invariant_init (target : Target) : Invariant target (init target) := by
  refine ⟨EventLog.causal_nil _, ?_⟩
  cases hrandom : target.random with
  | true => simp [init, hrandom, PhaseHolds, MayProbe]
  | false => simp [init, hrandom, PhaseHolds, MayProbe]

theorem Answers.notConnected {target : Target} {probe : Probe} {datagram : List UInt8}
    (hanswers : Answers target probe datagram .notConnected) :
    ReportsNotConnected target datagram := by
  obtain ⟨event, status, parameters, hevent, houtcome⟩ := hanswers
  obtain rfl := outcome_notConnected houtcome
  exact ⟨event, parameters, hevent⟩

/-- Where an answer leads is where `MayProbe` and `Answered` allow it. -/
theorem phaseHolds_answered {target : Target} {log : List Event} {probe : Probe}
    {datagram : List UInt8} {answer : Reply} (hprobe : inFlight log = some probe)
    (hrandom : probe = .classic → target.random = false)
    (hanswers : Answers target probe datagram answer) :
    PhaseHolds target (log ++ [.datagram probe datagram]) (answered probe answer) := by
  cases probe with
  | classic =>
    rw [answered]
    by_cases hconnected : answer = .notConnected
    · obtain rfl := hconnected
      exact ⟨hrandom rfl, log, datagram, rfl, hprobe, hanswers.notConnected⟩
    · rw [if_pos hconnected]
      exact ⟨log, .classic, datagram, rfl, hprobe, hanswers, rfl⟩
  | lePublic => exact ⟨log, .lePublic, datagram, rfl, hprobe, hanswers, rfl⟩
  | leRandom => exact ⟨log, .leRandom, datagram, rfl, hprobe, hanswers, rfl⟩

theorem phaseHolds_received {target : Target} {log : List Event} {probe : Probe}
    (hprobe : inFlight log = some probe) (hrandom : probe = .classic → target.random = false)
    (buffer : Buffer) (datagram : List UInt8) :
    PhaseHolds target (log ++ [.datagram probe datagram])
      (received target probe buffer datagram) := by
  rcases received_cases target probe buffer datagram with ⟨-, hended⟩ | ⟨-, later, hgoesOn⟩ |
    ⟨answer, hanswers, hanswered⟩
  · rw [hended]
    trivial
  · rw [hgoesOn]
    exact ⟨(inFlight_datagram log probe datagram).trans hprobe, hrandom⟩
  · rw [hanswered]
    exact phaseHolds_answered hprobe hrandom hanswers

theorem phaseHolds_sent {target : Target} {log : List Event} {probe : Probe}
    (hmay : MayProbe target log probe) (bytes : List UInt8) (result : Except IoError ℕ) :
    PhaseHolds target (log ++ [.request probe bytes]) (sent probe bytes.length result) := by
  cases result with
  | error => trivial
  | ok count =>
    rw [sent]
    split
    · trivial
    · refine ⟨inFlight_request log probe bytes, ?_⟩
      rintro rfl
      exact hmay.1

theorem Invariant.step {target : Target} {state next : State} {action : Action}
    (hinv : Invariant target state) (hstep : step target state action = some next) :
    Invariant target next := by
  have hphase := hinv.phase
  cases action with
  | send result =>
    rw [Mgmt.step] at hstep
    split at hstep
    · next probe hsending =>
      obtain rfl := Option.some.inj hstep
      rw [hsending] at hphase
      exact ⟨hinv.allowed.concat ⟨rfl, hphase⟩, phaseHolds_sent hphase _ result⟩
    · cases hstep
  | receive result =>
    cases result with
    | ok datagram =>
      rw [Mgmt.step] at hstep
      split at hstep
      · next probe buffer hreceiving =>
        obtain rfl := Option.some.inj hstep
        rw [hreceiving] at hphase
        exact ⟨hinv.allowed.concat hphase.1, phaseHolds_received hphase.1 hphase.2 buffer datagram⟩
      · cases hstep
    | error =>
      rw [Mgmt.step] at hstep
      split at hstep
      · obtain rfl := Option.some.inj hstep
        exact ⟨hinv.allowed, trivial⟩
      · cases hstep
  | expire =>
    rw [Mgmt.step] at hstep
    split at hstep
    · obtain rfl := Option.some.inj hstep
      exact ⟨hinv.allowed, trivial⟩
    · obtain rfl := Option.some.inj hstep
      exact ⟨hinv.allowed, trivial⟩
    · cases hstep

/-! ## The whole exchange -/

/-- The exchange goes on after the datagram, with the same probe. -/
def GoesOn (target : Target) (state : State) (datagram : List UInt8) : Prop :=
  ∀ probe buffer, state.phase = .receiving probe buffer → ∃ later,
    step target state (.receive (.ok datagram)) =
      some ⟨.receiving probe later, state.log ++ [.datagram probe datagram]⟩

/-- An empty datagram ends the exchange as the end of the file would. -/
def EndsEmpty (target : Target) (state : State) : Prop :=
  ∀ probe buffer, state.phase = .receiving probe buffer →
    step target state (.receive (.ok [])) =
      some ⟨.done (.error .unexpectedEof), state.log ++ [.datagram probe []]⟩

def Unrelated (target : Target) (datagram : List UInt8) : Prop :=
  ∀ event status parameters, ¬ IsEvent target.index datagram event status parameters

structure Believes (target : Target) (state : State) : Prop where
  noPanic : ∀ panic, state.phase ≠ .panicked panic
  /-- The LE probe of a public address follows Not Connected. -/
  allowed : EventLog.Causal (Allowed target) state.log
  /-- The relative flag is that of the probe that was answered. -/
  answered : ∀ answer relative, state.phase = .done (.ok (answer, relative)) →
    Answered target state.log answer relative
  reading : ∀ reading relative, state.phase = .done (.ok (.reading reading, relative)) →
    ∃ before probe datagram, state.log = before ++ [.datagram probe datagram] ∧
      inFlight before = some probe ∧ IsReading target probe datagram reading
  goesOn : ∀ datagram, datagram ≠ [] → Unrelated target datagram → GoesOn target state datagram
  endsEmpty : EndsEmpty target state

theorem endsEmpty (target : Target) (state : State) : EndsEmpty target state := by
  intro probe buffer hphase
  rw [Mgmt.step, hphase]
  rfl

theorem goesOn_of_unrelated {target : Target} {datagram : List UInt8} (hne : datagram ≠ [])
    (hunrelated : Unrelated target datagram) (state : State) : GoesOn target state datagram := by
  intro probe buffer hphase
  rw [Mgmt.step, hphase]
  rcases received_cases target probe buffer datagram with ⟨hempty, -⟩ | ⟨-, later, hgoesOn⟩ |
    ⟨answer, ⟨event, status, parameters, hevent, -⟩, -⟩
  · exact absurd hempty hne
  · exact ⟨later, by dsimp only; rw [hgoesOn]⟩
  · exact absurd hevent (hunrelated event status parameters)

/-- For every sequence of datagrams, every controller and every peer. -/
theorem exchange_believes_own_reply (target : Target) {actions : List Action} {state : State}
    (hrun : (system target).run (init target) actions = some state) : Believes target state := by
  have hinv : Invariant target state :=
    (system target).run_invariant (fun _ _ _ ↦ Invariant.step) (invariant_init target) hrun
  have hanswered : ∀ answer relative, state.phase = .done (.ok (answer, relative)) →
      Answered target state.log answer relative := by
    intro answer relative hdone
    have hphase := hinv.phase
    rw [hdone] at hphase
    exact hphase
  refine ⟨?_, hinv.allowed, hanswered, ?_, ?_, endsEmpty target state⟩
  · intro panic hpanicked
    have hphase := hinv.phase
    rw [hpanicked] at hphase
    exact hphase
  · intro reading relative hdone
    obtain ⟨before, probe, datagram, hlog, hprobe, hanswers, -⟩ := hanswered _ relative hdone
    exact ⟨before, probe, datagram, hlog, hprobe, hanswers.reading⟩
  · exact fun datagram hne hunrelated ↦ goesOn_of_unrelated hne hunrelated state

/-- A public address on the first controller. -/
def someTarget : Target := ⟨0x1234, ⟨#[0x01, 0x23, 0x45, 0x67, 0x89, 0xab], rfl⟩, false⟩

/-- Not Connected over BR/EDR, an event of another controller, and a reading over LE. -/
def leReadingRun : List Action :=
  [.send (.ok 13),
    .receive (.ok (eventBytes commandStatus 0x1234 notConnected [])),
    .send (.ok 0),
    .receive (.ok (eventBytes commandComplete 0x1235 0
      (someTarget.peer .lePublic ++ [20, 127, 127]))),
    .receive (.ok (eventBytes commandComplete 0x1234 0
      (someTarget.peer .lePublic ++ [0xd6, 127, 127])))]

set_option maxRecDepth 20000 in
theorem exchange_believes_own_reply_le :
    ∃ state, (system someTarget).run (init someTarget) leReadingRun = some state ∧
      state.phase = .done (.ok (.reading (-42), false)) ∧ Believes someTarget state := by
  refine ⟨_, rfl, rfl, ?_⟩
  exact exchange_believes_own_reply someTarget
    (rfl : (system someTarget).run (init someTarget) leReadingRun = some _)

theorem unrelated_nil (target : Target) : Unrelated target [] := by
  rintro event status parameters ⟨-, -, hnil⟩
  have hlength := congrArg List.length hnil
  rw [length_eventBytes] at hlength
  cases hlength

/-- An empty datagram is no event, and ends the exchange as the end of the file would. -/
theorem empty_datagram_ends :
    ¬ ∀ (target : Target) (actions : List Action) (state : State),
      (system target).run (init target) actions = some state →
        ∀ datagram, Unrelated target datagram → GoesOn target state datagram := by
  intro hgoesOn
  let waiting : State :=
    ⟨.receiving .classic .zeroed, [.request .classic (request 0x1234 (someTarget.peer .classic))]⟩
  have hrun : (system someTarget).run (init someTarget) [.send (.ok 13)] = some waiting := rfl
  obtain ⟨later, hlater⟩ :=
    hgoesOn someTarget _ waiting hrun [] (unrelated_nil someTarget) .classic .zeroed rfl
  rw [endsEmpty someTarget waiting .classic .zeroed rfl] at hlater
  exact Phase.noConfusion (congrArg State.phase (Option.some.inj hlater))

end Mgmt

end BtDaemon.RssiHelper
