import BtDaemon.Maestro.Frame

/-!
# Runtime info

The buds announce the RPC channel that they answer on; the daemon subscribes to runtime info on
that channel, and each report of the stream may carry the battery of either bud and of the case.
A report is a protobuf message in a protobuf message: of several readings of one component the
last one counts, and a level above 100 makes the report invalid.
-/

namespace BtDaemon.Maestro

def request : UInt32 := 0
def response : UInt32 := 1
def serverError : UInt32 := 5
def serverStream : UInt32 := 7

/-- pw_rpc's 65599 hash of a service or method name. -/
protected def id (name : String) : UInt32 :=
  let bytes := name.toUTF8.toList
  (bytes.foldl
    (fun (hash, coefficient) byte ↦ (hash + coefficient * byte.toUInt32, coefficient * 65599))
    (UInt32.ofNat bytes.length, (65599 : UInt32))).1

def maestroService : UInt32 := Maestro.id "maestro_pw.Maestro"
def getSoftwareInfo : UInt32 := Maestro.id "GetSoftwareInfo"
def subscribeRuntimeInfoMethod : UInt32 := Maestro.id "SubscribeRuntimeInfo"
def subscribeCall : UInt32 := 0

/-! ## Channels -/

def casePeer : UInt32 := 2
def leftBtCore : UInt32 := 3
def rightBtCore : UInt32 := 4
def maestroA : UInt32 := 10
def maestroB : UInt32 := 13

/-- Channels the buds may answer on, with their local and remote peers. -/
def channels : List (UInt32 × UInt32 × UInt32) :=
  [(18, maestroA, casePeer), (19, maestroA, leftBtCore), (21, maestroA, rightBtCore),
    (23, maestroB, casePeer), (24, maestroB, leftBtCore), (26, maestroB, rightBtCore)]

/-- The RPC channel the buds answered on and its HDLC address. -/
structure Channel where
  id : UInt32
  address : UInt32
  deriving DecidableEq, Repr

/-- The buds send a GetSoftwareInfo response on their channel once the link opens. -/
def announcedChannel (packet : Packet) : Option Channel :=
  if (packet.kind, packet.service, packet.method) ≠ (response, maestroService, getSoftwareInfo) then
    none
  else
    (channels.find? fun known ↦ known.1 = packet.channel).map fun (id, near, remote) ↦
      ⟨id, (near <<< 6) ||| (remote <<< 10)⟩

def subscription (channel : Channel) : Packet :=
  { Packet.default with
    kind := request
    channel := channel.id
    service := maestroService
    method := subscribeRuntimeInfoMethod
    call := subscribeCall }

def subscribeRuntimeInfo (channel : Channel) : List UInt8 :=
  encodeFrame channel.address (encodePacket (subscription channel))

/-! ## Reports -/

structure Reading where
  level : UInt8
  charging : Option Bool
  deriving DecidableEq, Repr

/-- One runtime-info battery report; the case is unknown unless a bud is docked. -/
structure Batteries where
  left : Option Reading
  right : Option Reading
  caseReading : Option Reading
  deriving DecidableEq, Repr

def Batteries.default : Batteries := ⟨none, none, none⟩

/-- One turn of the loop of `decode_reading`, over the level and the state. -/
def readingField (read : UInt64 × UInt64) : UInt32 × Value → UInt64 × UInt64
  | (1, .varint value) => (value, read.2)
  | (2, .varint value) => (read.1, value)
  | _ => read

/-- `u8::try_from(level).ok().filter(..)` -/
def checkLevel (level : UInt64) : Except String UInt8 :=
  if level.toNat < UInt8.size ∧ level.toUInt8 ≤ 100 then .ok level.toUInt8
  else .error ("invalid Maestro battery level " ++ toString level)

def chargingState (state : UInt64) : Option Bool :=
  match state.toNat with
  | 1 => some false
  | 2 => some true
  | _ => none

def decodeReading (bytes : List UInt8) : Except String Reading := do
  let found ← fields bytes
  let (level, state) := found.foldl readingField (0, 0)
  let level ← checkLevel level
  .ok ⟨level, chargingState state⟩

/-- One turn of the loop of `runtime_batteries`. -/
def setReading (batteries : Batteries) : UInt32 × Value → Except String Batteries
  | (1, .bytes reading) =>
    (decodeReading reading).map fun reading ↦ { batteries with caseReading := some reading }
  | (2, .bytes reading) =>
    (decodeReading reading).map fun reading ↦ { batteries with left := some reading }
  | (3, .bytes reading) =>
    (decodeReading reading).map fun reading ↦ { batteries with right := some reading }
  | _ => .ok batteries

/-- Decodes `RuntimeInfo.battery_info` (field 6); reports without it carry no battery. -/
def runtimeBatteries (payload : List UInt8) : Except String (Option Batteries) := do
  let found ← fields payload
  match found.findSome? (bytesOf 6) with
  | none => .ok none
  | some info => do
    let parts ← fields info
    let batteries ← parts.foldlM setReading Batteries.default
    .ok (some batteries)

inductive Update
  | batteries (batteries : Batteries)
  /-- The buds completed or rejected the subscription with this status. -/
  | ended (status : UInt32)
  | ignored
  deriving DecidableEq, Repr

def subscriptionUpdate (packet : Packet) (channel : Channel) : Except String Update :=
  if (packet.channel, packet.service, packet.method, packet.call) ≠
      (channel.id, maestroService, subscribeRuntimeInfoMethod, subscribeCall) then
    .ok .ignored
  else if packet.kind = serverStream then
    (runtimeBatteries packet.payload).map fun found ↦ found.elim .ignored .batteries
  else if packet.kind = response ∨ packet.kind = serverError then .ok (.ended packet.status)
  else .ok .ignored

/-! ## What a reading says -/

def wideOf (field : UInt32) : UInt32 × Value → Option UInt64
  | (number, .varint value) => if number = field then some value else none
  | _ => none

theorem readingField_eq (read : UInt64 × UInt64) (field : UInt32 × Value) :
    readingField read field =
      ((wideOf 1 field).getD read.1, (wideOf 2 field).getD read.2) := by
  obtain ⟨number, value⟩ := field
  unfold readingField
  split
  · next heq =>
    obtain ⟨rfl, rfl⟩ := Prod.mk.inj heq
    rfl
  · next heq =>
    obtain ⟨rfl, rfl⟩ := Prod.mk.inj heq
    rfl
  · next hlevel hstate =>
    cases value with
    | varint value =>
      have hfirst : number ≠ 1 := by rintro rfl; exact hlevel value rfl
      have hsecond : number ≠ 2 := by rintro rfl; exact hstate value rfl
      simp only [wideOf, if_neg hfirst, if_neg hsecond, Option.getD_none]
    | fixed32 value => rfl
    | bytes value => rfl

/-- The loop keeps the last level and the last state. -/
theorem foldl_readingField (found : List (UInt32 × Value)) (read : UInt64 × UInt64) :
    found.foldl readingField read =
      (latest (wideOf 1) read.1 found, latest (wideOf 2) read.2 found) := by
  induction found generalizing read with
  | nil => rfl
  | cons field rest ih =>
    calc (field :: rest).foldl readingField read
        = rest.foldl readingField (readingField read field) := rfl
      _ = (latest (wideOf 1) ((wideOf 1 field).getD read.1) rest,
            latest (wideOf 2) ((wideOf 2 field).getD read.2) rest) := by
          rw [ih, readingField_eq]
      _ = (latest (wideOf 1) read.1 (field :: rest), latest (wideOf 2) read.2 (field :: rest)) := by
          rw [latest_cons, latest_cons]

theorem checkLevel_eq_ok {level : UInt64} {small : UInt8} :
    checkLevel level = .ok small ↔ level.toNat ≤ 100 ∧ small = level.toUInt8 := by
  have hbyte : level.toUInt8.toNat = level.toNat % 256 := UInt64.toNat_toUInt8 level
  have hle : level.toUInt8 ≤ 100 ↔ level.toUInt8.toNat ≤ 100 := UInt8.le_iff_toNat_le
  rw [checkLevel, UInt8.size]
  constructor
  · intro hcheck
    split at hcheck
    · next hfits =>
      rw [hle] at hfits
      exact ⟨by omega, (Except.ok.inj hcheck).symm⟩
    · cases hcheck
  · rintro ⟨hlevel, rfl⟩
    rw [if_pos]
    rw [hle]
    omega

/-- A reading is its last level and its last state, if the level is a percentage. -/
theorem decodeReading_eq_ok {bytes : List UInt8} {reading : Reading} :
    decodeReading bytes = .ok reading ↔
      ∃ found, fields bytes = .ok found ∧ (latest (wideOf 1) 0 found).toNat ≤ 100 ∧
        reading = ⟨(latest (wideOf 1) 0 found).toUInt8,
          chargingState (latest (wideOf 2) 0 found)⟩ := by
  rw [decodeReading, Loop.bind_eq_ok]
  constructor
  · rintro ⟨found, hfound, hread⟩
    rw [foldl_readingField] at hread
    obtain ⟨level, hlevel, hok⟩ := Loop.bind_eq_ok.mp hread
    obtain ⟨hsmall, rfl⟩ := checkLevel_eq_ok.mp hlevel
    exact ⟨found, hfound, hsmall, (Except.ok.inj hok).symm⟩
  · rintro ⟨found, hfound, hsmall, rfl⟩
    refine ⟨found, hfound, ?_⟩
    rw [foldl_readingField]
    exact Loop.bind_eq_ok.mpr ⟨_, checkLevel_eq_ok.mpr ⟨hsmall, rfl⟩, rfl⟩

/-! ## What a report says -/

/-- The bytes of a reading in a field of the battery info. -/
def readingOf (part : UInt32 × Value) : Option (List UInt8) :=
  (bytesOf 1 part).or ((bytesOf 2 part).or (bytesOf 3 part))

/-- The last reading of a component. -/
def component (field : UInt32) (start : Option Reading) (parts : List (UInt32 × Value)) :
    Option Reading :=
  latest (fun part ↦ (bytesOf field part).map fun bytes ↦ (decodeReading bytes).toOption) start
    parts

def Batteries.updated (batteries : Batteries) (parts : List (UInt32 × Value)) : Batteries where
  left := component 2 batteries.left parts
  right := component 3 batteries.right parts
  caseReading := component 1 batteries.caseReading parts

/-- A part of the report that is no invalid reading. -/
def Valid (part : UInt32 × Value) : Prop :=
  ∀ bytes, readingOf part = some bytes → ∃ reading, decodeReading bytes = .ok reading

theorem component_cons (field : UInt32) (start : Option Reading) (part : UInt32 × Value)
    (rest : List (UInt32 × Value)) :
    component field start (part :: rest) =
      component field (((bytesOf field part).map fun bytes ↦
        (decodeReading bytes).toOption).getD start) rest :=
  latest_cons _ start part rest

theorem updated_cons_part (batteries : Batteries) (part : UInt32 × Value)
    (rest : List (UInt32 × Value)) :
    batteries.updated (part :: rest) = (batteries.updated [part]).updated rest := by
  simp only [Batteries.updated, component_cons]
  rfl

theorem updated_other (batteries : Batteries) {part : UInt32 × Value} (hnone : readingOf part = none) :
    batteries.updated [part] = batteries := by
  obtain ⟨hcase, hrest⟩ := Option.or_eq_none_iff.mp hnone
  obtain ⟨hleft, hright⟩ := Option.or_eq_none_iff.mp hrest
  simp only [Batteries.updated, component_cons, hcase, hleft, hright]
  rfl

theorem valid_of_reading {part : UInt32 × Value} {bytes : List UInt8}
    (hpart : readingOf part = some bytes) :
    Valid part ↔ ∃ reading, decodeReading bytes = .ok reading := by
  constructor
  · intro hvalid
    exact hvalid bytes hpart
  · intro hreading other hother
    obtain rfl := Option.some.inj (hpart.symm.trans hother)
    exact hreading

theorem map_decodeReading_eq_ok {bytes : List UInt8} {change : Reading → Batteries}
    {next : Batteries} : (decodeReading bytes).map change = .ok next ↔
      ∃ reading, decodeReading bytes = .ok reading ∧ next = change reading := by
  rw [Loop.map_eq_ok]
  constructor
  · rintro ⟨reading, hreading, rfl⟩
    exact ⟨reading, hreading, rfl⟩
  · rintro ⟨reading, hreading, rfl⟩
    exact ⟨reading, hreading, rfl⟩

/-- A turn of the loop fails at an invalid reading only, and else sets its component. -/
theorem setReading_eq_ok {batteries next : Batteries} {part : UInt32 × Value} :
    setReading batteries part = .ok next ↔ Valid part ∧ next = batteries.updated [part] := by
  have hother : readingOf part = none →
      ((.ok batteries : Except String Batteries) = .ok next ↔
        Valid part ∧ next = batteries.updated [part]) := by
    intro hnone
    rw [updated_other batteries hnone]
    constructor
    · intro hok
      refine ⟨fun bytes hsome ↦ ?_, (Except.ok.inj hok).symm⟩
      rw [hnone] at hsome
      cases hsome
    · rintro ⟨-, rfl⟩
      rfl
  have hreading : ∀ {bytes : List UInt8} {change : Reading → Batteries},
      readingOf part = some bytes →
      (∀ reading, decodeReading bytes = .ok reading → batteries.updated [part] = change reading) →
      ((decodeReading bytes).map change = .ok next ↔
        Valid part ∧ next = batteries.updated [part]) := by
    intro bytes change hpart hchange
    rw [map_decodeReading_eq_ok, valid_of_reading hpart]
    constructor
    · rintro ⟨reading, hdecode, rfl⟩
      exact ⟨⟨reading, hdecode⟩, (hchange reading hdecode).symm⟩
    · rintro ⟨⟨reading, hdecode⟩, rfl⟩
      exact ⟨reading, hdecode, hchange reading hdecode⟩
  unfold setReading
  split
  · apply hreading rfl
    intro reading hdecode
    simp [Batteries.updated, component, latest, bytesOf, hdecode, Except.toOption]
  · apply hreading rfl
    intro reading hdecode
    simp [Batteries.updated, component, latest, bytesOf, hdecode, Except.toOption]
  · apply hreading rfl
    intro reading hdecode
    simp [Batteries.updated, component, latest, bytesOf, hdecode, Except.toOption]
  · next hcase hleft hright =>
    apply hother
    obtain ⟨number, value⟩ := part
    cases value with
    | varint value => rfl
    | fixed32 value => rfl
    | bytes bytes =>
      have hfirst : number ≠ 1 := by rintro rfl; exact hcase bytes rfl
      have hsecond : number ≠ 2 := by rintro rfl; exact hleft bytes rfl
      have hthird : number ≠ 3 := by rintro rfl; exact hright bytes rfl
      simp only [readingOf, bytesOf, if_neg hfirst, if_neg hsecond, if_neg hthird, Option.or_none]

theorem foldlM_setReading_eq_ok {parts : List (UInt32 × Value)} {batteries next : Batteries} :
    parts.foldlM setReading batteries = .ok next ↔
      (∀ part ∈ parts, Valid part) ∧ next = batteries.updated parts := by
  induction parts generalizing batteries with
  | nil =>
    constructor
    · intro hloop
      exact ⟨fun part hmem ↦ absurd hmem List.not_mem_nil, (Except.ok.inj hloop).symm⟩
    · rintro ⟨-, rfl⟩
      rfl
  | cons part rest ih =>
    rw [Loop.foldlM_cons_eq_ok, List.forall_mem_cons]
    constructor
    · rintro ⟨middle, hfirst, hrest⟩
      obtain ⟨hvalid, rfl⟩ := setReading_eq_ok.mp hfirst
      obtain ⟨hlater, rfl⟩ := ih.mp hrest
      exact ⟨⟨hvalid, hlater⟩, (updated_cons_part batteries part rest).symm⟩
    · rintro ⟨⟨hvalid, hlater⟩, rfl⟩
      refine ⟨batteries.updated [part], setReading_eq_ok.mpr ⟨hvalid, rfl⟩, ih.mpr ⟨hlater, ?_⟩⟩
      exact updated_cons_part batteries part rest

/-- A report carries a battery if it has battery info and no reading in it is invalid; of each
component it says the last reading. -/
theorem runtimeBatteries_eq_some {payload : List UInt8} {batteries : Batteries} :
    runtimeBatteries payload = .ok (some batteries) ↔
      ∃ found info parts, fields payload = .ok found ∧ found.findSome? (bytesOf 6) = some info ∧
        fields info = .ok parts ∧ (∀ part ∈ parts, Valid part) ∧
          batteries = Batteries.default.updated parts := by
  rw [runtimeBatteries, Loop.bind_eq_ok]
  constructor
  · rintro ⟨found, hfound, hinfo⟩
    cases hfind : found.findSome? (bytesOf 6) with
    | none =>
      rw [hfind] at hinfo
      cases hinfo
    | some info =>
      rw [hfind] at hinfo
      obtain ⟨parts, hparts, hloop⟩ := Loop.bind_eq_ok.mp hinfo
      obtain ⟨read, hread, hok⟩ := Loop.bind_eq_ok.mp hloop
      obtain rfl := Option.some.inj (Except.ok.inj hok)
      obtain ⟨hvalid, hupdated⟩ := foldlM_setReading_eq_ok.mp hread
      exact ⟨found, info, parts, hfound, hfind, hparts, hvalid, hupdated⟩
  · rintro ⟨found, info, parts, hfound, hfind, hparts, hvalid, rfl⟩
    refine ⟨found, hfound, ?_⟩
    rw [hfind]
    refine Loop.bind_eq_ok.mpr ⟨parts, hparts, Loop.bind_eq_ok.mpr ⟨_, ?_, rfl⟩⟩
    exact foldlM_setReading_eq_ok.mpr ⟨hvalid, rfl⟩

/-! ## Reports as the buds write them -/

namespace Fixtures

/-- A `DeviceBatteryInfo` with the level and `BatteryState` (1 idle, 2 charging). -/
def reading (level state : UInt8) : List UInt8 := [0x08, level, 0x10, state]

def nested (field : UInt8) (bytes : List UInt8) : List UInt8 :=
  ((field <<< 3) ||| 2) :: UInt8.ofNat bytes.length :: bytes

def info (batteries : List (UInt8 × List UInt8)) : List UInt8 :=
  batteries.flatMap fun (field, reading) ↦ nested field reading

/-- `RuntimeInfo` with the given `BatteryInfo` fields (1 case, 2 left, 3 right). -/
def runtimeInfo (batteries : List (UInt8 × List UInt8)) : List UInt8 :=
  [0x10, 0x96, 0x01] ++ nested 6 (info batteries)

end Fixtures

def stateOf : Option Bool → UInt8
  | none => 0
  | some false => 1
  | some true => 2

/-- The components of a report, as the buds write them. -/
def Batteries.written (batteries : Batteries) : List (UInt8 × List UInt8) :=
  [(1, batteries.caseReading), (2, batteries.left), (3, batteries.right)].filterMap
    fun (field, reading) ↦ reading.map fun reading ↦
      (field, Fixtures.reading reading.level (stateOf reading.charging))

/-- Every level is a percentage. -/
def Batteries.InRange (batteries : Batteries) : Prop :=
  ∀ reading, batteries.left = some reading ∨ batteries.right = some reading ∨
    batteries.caseReading = some reading → reading.level ≤ 100

theorem isVarint_byte {byte : UInt8} (hsmall : byte.toNat < 128) :
    IsVarint [byte] byte.toUInt64 where
  terminated := (terminated_of_last hsmall).mpr rfl
  short := Nat.le_add_left 1 9
  value_eq := by
    rw [varintValue_cons, Nat.mod_eq_of_lt hsmall, UInt8.toNat_toUInt64]
    rfl

theorem isKey_byte {key : UInt8} {field : UInt32} {wire : ℕ} (hkey : key.toNat < 128)
    (hparts : key.toNat = 8 * field.toNat + wire) (hnonzero : 1 ≤ field.toNat) :
    IsKey [key] field wire where
  varint := ⟨key.toUInt64, isVarint_byte hkey, by rw [UInt8.toNat_toUInt64]; exact hparts⟩
  nonzero := hnonzero
  bounded := by omega

theorem fields_byte {key byte : UInt8} {field : UInt32} (hkey : key.toNat < 128)
    (hparts : key.toNat = 8 * field.toNat + 0) (hnonzero : 1 ≤ field.toNat)
    (hbyte : byte.toNat < 128) : fields [key, byte] = .ok [(field, .varint byte.toUInt64)] :=
  fields_of_isField (.varint (isKey_byte hkey hparts hnonzero) (isVarint_byte hbyte))

theorem fields_reading {level state : UInt8} (hlevel : level.toNat < 128)
    (hstate : state.toNat < 128) :
    fields (Fixtures.reading level state) =
      .ok [(1, .varint level.toUInt64), (2, .varint state.toUInt64)] :=
  fields_append (fields_byte (by decide) (by decide) (by decide) hlevel)
    (fields_byte (by decide) (by decide) (by decide) hstate)

theorem decodeReading_reading {reading : Reading} (hlevel : reading.level ≤ 100) :
    decodeReading (Fixtures.reading reading.level (stateOf reading.charging)) = .ok reading := by
  obtain ⟨level, charging⟩ := reading
  have hsmall : level.toNat ≤ 100 := UInt8.le_iff_toNat_le.mp hlevel
  have hstate : (stateOf charging).toNat < 128 := by
    cases charging with
    | none => decide
    | some charging => cases charging <;> decide
  apply decodeReading_eq_ok.mpr
  refine ⟨_, fields_reading (Nat.lt_of_le_of_lt hsmall (by decide)) hstate, ?_, ?_⟩
  · change level.toUInt64.toNat ≤ 100
    rw [UInt8.toNat_toUInt64]
    exact hsmall
  · change (⟨level, charging⟩ : Reading) =
      ⟨level.toUInt64.toUInt8, chargingState (stateOf charging).toUInt64⟩
    have hsame : level.toUInt64.toUInt8 = level := by
      apply UInt8.toNat_inj.mp
      rw [UInt64.toNat_toUInt8, UInt8.toNat_toUInt64]
      exact Nat.mod_eq_of_lt level.toNat_lt
    rw [hsame]
    cases charging with
    | none => rfl
    | some charging => cases charging <;> rfl

/-- A field of bytes with a short key and a short length. -/
theorem fields_nested {field : UInt8} {bytes : List UInt8} (hfield : field ∈ [1, 2, 3, 6])
    (hshort : bytes.length < 128) :
    fields (Fixtures.nested field bytes) = .ok [(field.toUInt32, .bytes bytes)] := by
  have hlength : (UInt8.ofNat bytes.length).toNat = bytes.length := by
    rw [UInt8.toNat_ofNat']
    omega
  have hvarint : IsVarint [UInt8.ofNat bytes.length] (UInt8.ofNat bytes.length).toUInt64 :=
    isVarint_byte (by rw [hlength]; exact hshort)
  have hkey : IsKey [(field <<< 3) ||| 2] field.toUInt32 2 := by
    simp only [List.mem_cons, List.not_mem_nil, or_false] at hfield
    rcases hfield with rfl | rfl | rfl | rfl
    · exact isKey_byte (by decide) (by decide) (by decide)
    · exact isKey_byte (by decide) (by decide) (by decide)
    · exact isKey_byte (by decide) (by decide) (by decide)
    · exact isKey_byte (by decide) (by decide) (by decide)
  apply fields_of_isField
  apply IsField.bytes hkey hvarint
  rw [UInt8.toNat_toUInt64, hlength]

theorem fields_info {parts : List (UInt8 × List UInt8)}
    (hparts : ∀ part ∈ parts, part.1 ∈ [1, 2, 3, 6] ∧ part.2.length < 128) :
    fields (Fixtures.info parts) =
      .ok (parts.map fun part ↦ (part.1.toUInt32, .bytes part.2)) := by
  induction parts with
  | nil => exact fields_nil
  | cons part rest ih =>
    obtain ⟨hfield, hshort⟩ := hparts part List.mem_cons_self
    exact fields_append (fields_nested hfield hshort)
      (ih fun later hmem ↦ hparts later (List.mem_cons_of_mem part hmem))

theorem mem_written {batteries : Batteries} {part : UInt8 × List UInt8}
    (hmem : part ∈ batteries.written) :
    ∃ reading, part.2 = Fixtures.reading reading.level (stateOf reading.charging) ∧
      (part.1 = 1 ∧ batteries.caseReading = some reading ∨
        part.1 = 2 ∧ batteries.left = some reading ∨
        part.1 = 3 ∧ batteries.right = some reading) := by
  obtain ⟨⟨field, found⟩, hfound, hpart⟩ := List.mem_filterMap.mp hmem
  obtain ⟨reading, hreading, rfl⟩ := Option.map_eq_some_iff.mp hpart
  refine ⟨reading, rfl, ?_⟩
  simp only [List.mem_cons, List.not_mem_nil, or_false, Prod.mk.injEq] at hfound
  rcases hfound with ⟨rfl, rfl⟩ | ⟨rfl, rfl⟩ | ⟨rfl, rfl⟩
  · exact .inl ⟨rfl, hreading⟩
  · exact .inr (.inl ⟨rfl, hreading⟩)
  · exact .inr (.inr ⟨rfl, hreading⟩)

theorem length_info (batteries : Batteries) : (Fixtures.info batteries.written).length < 128 := by
  obtain ⟨left, right, caseReading⟩ := batteries
  cases left <;> cases right <;> cases caseReading <;>
    simp [Batteries.written, Fixtures.info, Fixtures.nested, Fixtures.reading]

theorem valid_written {batteries : Batteries} (hrange : batteries.InRange)
    {part : UInt8 × List UInt8} (hmem : part ∈ batteries.written) :
    Valid (part.1.toUInt32, .bytes part.2) := by
  obtain ⟨reading, hpart, hcomponent⟩ := mem_written hmem
  have hlevel : reading.level ≤ 100 := by
    apply hrange reading
    rcases hcomponent with ⟨-, hcase⟩ | ⟨-, hleft⟩ | ⟨-, hright⟩
    · exact .inr (.inr hcase)
    · exact .inl hleft
    · exact .inr (.inl hright)
  have hread : readingOf (part.1.toUInt32, .bytes part.2) = some part.2 := by
    rcases hcomponent with ⟨hfield, -⟩ | ⟨hfield, -⟩ | ⟨hfield, -⟩
    · rw [hfield]; rfl
    · rw [hfield]; rfl
    · rw [hfield]; rfl
  rw [valid_of_reading hread, hpart]
  exact ⟨reading, decodeReading_reading hlevel⟩

theorem updated_written {batteries : Batteries} (hrange : batteries.InRange) :
    Batteries.default.updated (batteries.written.map fun part ↦
      (part.1.toUInt32, .bytes part.2)) = batteries := by
  have hdecode : ∀ reading, batteries.left = some reading ∨ batteries.right = some reading ∨
      batteries.caseReading = some reading →
      decodeReading (Fixtures.reading reading.level (stateOf reading.charging)) = .ok reading :=
    fun reading hcomponent ↦ decodeReading_reading (hrange reading hcomponent)
  obtain ⟨left, right, caseReading⟩ := batteries
  cases left <;> cases right <;> cases caseReading <;>
    simp_all [Batteries.written, Batteries.updated, Batteries.default, component, latest, bytesOf,
      Except.toOption]

/-- Every report of percentages is read back. -/
theorem runtimeBatteries_runtimeInfo {batteries : Batteries} (hrange : batteries.InRange) :
    runtimeBatteries (Fixtures.runtimeInfo batteries.written) = .ok (some batteries) := by
  have hinfo : fields (Fixtures.nested 6 (Fixtures.info batteries.written)) =
      .ok [(6, .bytes (Fixtures.info batteries.written))] :=
    fields_nested (by decide) (length_info batteries)
  have htime : fields [0x10, 0x96, 0x01] = .ok [(2, .varint 150)] := by
    have hvarint : IsVarint [0x96, 0x01] 150 := {
      terminated := (terminated_of_continued (by decide)).mpr
        ((terminated_of_last (by decide)).mpr rfl)
      short := by decide
      value_eq := by decide }
    exact fields_of_isField (.varint (@isKey_byte 0x10 2 0 (by decide) (by decide) (by decide))
      hvarint)
  have hparts : fields (Fixtures.info batteries.written) =
      .ok (batteries.written.map fun part ↦ (part.1.toUInt32, .bytes part.2)) := by
    apply fields_info
    intro part hmem
    obtain ⟨reading, hpart, hcomponent⟩ := mem_written hmem
    rw [hpart]
    refine ⟨?_, (by decide : 4 < 128)⟩
    rcases hcomponent with ⟨hfield, -⟩ | ⟨hfield, -⟩ | ⟨hfield, -⟩ <;> simp [hfield]
  apply runtimeBatteries_eq_some.mpr
  refine ⟨_, _, _, fields_append htime hinfo, rfl, hparts, ?_, (updated_written hrange).symm⟩
  intro part hmem
  obtain ⟨written, hwritten, rfl⟩ := List.mem_map.mp hmem
  exact valid_written hrange hwritten

end BtDaemon.Maestro
