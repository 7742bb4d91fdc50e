import BtDaemon.Framing.Delimited
import BtDaemon.Maestro.Protobuf

/-!
# RPC packets

A packet is a protobuf message with seven known fields. Zero and empty fields are left out when
it is written and are the defaults when it is read.
-/

namespace BtDaemon.Maestro

structure Packet where
  kind : UInt32
  channel : UInt32
  service : UInt32
  method : UInt32
  payload : List UInt8
  status : UInt32
  call : UInt32
  deriving DecidableEq, Repr

def Packet.default : Packet := ⟨0, 0, 0, 0, [], 0, 0⟩

def varint (field : UInt64) (value : UInt32) : List UInt8 :=
  if value ≠ 0 then putVarint (field <<< 3) ++ putVarint value.toUInt64 else []

def fixed32 (field : UInt64) (value : UInt32) : List UInt8 :=
  if value ≠ 0 then putVarint (field <<< 3 ||| 5) ++ Endian.toLe 4 value.toNat else []

/-- Encodes like protobuf3, in field order: zero and empty fields are omitted. -/
def encodePacket (packet : Packet) : List UInt8 :=
  varint 1 packet.kind ++ varint 2 packet.channel ++ fixed32 3 packet.service ++
    fixed32 4 packet.method ++
    (if packet.payload ≠ [] then
      putVarint ((5 : UInt64) <<< 3 ||| 2) ++ putVarint (.ofNat packet.payload.length) ++ packet.payload
    else []) ++
    varint 6 packet.status ++ varint 7 packet.call

/-- `u32::try_from` -/
def narrow (value : UInt64) : Except String UInt32 :=
  if value.toNat < UInt32.size then .ok value.toUInt32
  else .error "pw_rpc packet field is too large"

/-- One turn of the loop of `decode_packet`. -/
def setField (packet : Packet) : UInt32 × Value → Except String Packet
  | (1, .varint value) => (narrow value).map fun value ↦ { packet with kind := value }
  | (2, .varint value) => (narrow value).map fun value ↦ { packet with channel := value }
  | (3, .fixed32 value) =>
    (narrow value.toUInt64).map fun value ↦ { packet with service := value }
  | (4, .fixed32 value) =>
    (narrow value.toUInt64).map fun value ↦ { packet with method := value }
  | (5, .bytes value) => .ok { packet with payload := value }
  | (6, .varint value) => (narrow value).map fun value ↦ { packet with status := value }
  | (7, .varint value) => (narrow value).map fun value ↦ { packet with call := value }
  | _ => .ok packet

def decodePacket (bytes : List UInt8) : Except String Packet := do
  let found ← fields bytes
  found.foldlM setField Packet.default

/-! ## The last occurrence of a field -/

def varintOf (field : UInt32) : UInt32 × Value → Option UInt32
  | (number, .varint value) => if number = field then some value.toUInt32 else none
  | _ => none

def fixed32Of (field : UInt32) : UInt32 × Value → Option UInt32
  | (number, .fixed32 value) => if number = field then some value else none
  | _ => none

def bytesOf (field : UInt32) : UInt32 × Value → Option (List UInt8)
  | (number, .bytes value) => if number = field then some value else none
  | _ => none

/-- The last of the values that are picked, or a default. -/
def latest {Slot : Type} (pick : UInt32 × Value → Option Slot) (default : Slot)
    (found : List (UInt32 × Value)) : Slot :=
  (found.filterMap pick).getLast?.getD default

/-- Every field of a packet is the last occurrence of its number and type. -/
def Packet.updated (packet : Packet) (found : List (UInt32 × Value)) : Packet where
  kind := latest (varintOf 1) packet.kind found
  channel := latest (varintOf 2) packet.channel found
  service := latest (fixed32Of 3) packet.service found
  method := latest (fixed32Of 4) packet.method found
  payload := latest (bytesOf 5) packet.payload found
  status := latest (varintOf 6) packet.status found
  call := latest (varintOf 7) packet.call found

/-- A known varint field that does not fit. -/
def Oversized (field : UInt32 × Value) : Prop :=
  ∃ value, field.2 = .varint value ∧ field.1 ∈ [1, 2, 6, 7] ∧ UInt32.size ≤ value.toNat

theorem latest_cons {Slot : Type} (pick : UInt32 × Value → Option Slot) (default : Slot)
    (field : UInt32 × Value) (rest : List (UInt32 × Value)) :
    latest pick default (field :: rest) = latest pick ((pick field).getD default) rest := by
  rw [latest, latest, List.filterMap_cons]
  cases pick field with
  | none => rfl
  | some value =>
    rw [List.getLast?_cons]
    rfl

theorem narrow_of_lt {value : UInt64} (hfits : value.toNat < UInt32.size) :
    narrow value = .ok value.toUInt32 := by
  rw [narrow, if_pos hfits]

theorem narrow_fixed32 (value : UInt32) : narrow value.toUInt64 = .ok value := by
  have hvalue : value.toUInt64.toNat = value.toNat := UInt32.toNat_toUInt64 value
  have hsame : value.toUInt64.toUInt32 = value := by
    apply UInt32.toNat_inj.mp
    rw [UInt64.toNat_toUInt32, hvalue]
    exact Nat.mod_eq_of_lt value.toNat_lt
  rw [narrow_of_lt (by rw [hvalue]; exact value.toNat_lt), hsame]

theorem narrow_of_ge {value : UInt64} (hlarge : UInt32.size ≤ value.toNat) :
    narrow value = .error "pw_rpc packet field is too large" := by
  rw [narrow, if_neg (Nat.not_lt.mpr hlarge)]

theorem updated_singleton (packet : Packet) (field : UInt32 × Value) :
    packet.updated [field] =
      { kind := (varintOf 1 field).getD packet.kind
        channel := (varintOf 2 field).getD packet.channel
        service := (fixed32Of 3 field).getD packet.service
        method := (fixed32Of 4 field).getD packet.method
        payload := (bytesOf 5 field).getD packet.payload
        status := (varintOf 6 field).getD packet.status
        call := (varintOf 7 field).getD packet.call } := by
  simp only [Packet.updated, latest_cons]
  rfl

theorem updated_cons (packet : Packet) (field : UInt32 × Value) (rest : List (UInt32 × Value)) :
    packet.updated (field :: rest) = (packet.updated [field]).updated rest := by
  simp only [Packet.updated, latest_cons]
  rfl

theorem setField_of_fits (packet : Packet) {field : UInt32 × Value} (hfits : ¬Oversized field) :
    setField packet field = .ok (packet.updated [field]) := by
  have hnarrow : ∀ number value, field = (number, .varint value) → number ∈ [1, 2, 6, 7] →
      narrow value = .ok value.toUInt32 := by
    rintro number value rfl hmem
    apply narrow_of_lt
    by_contra hlarge
    exact hfits ⟨value, rfl, hmem, Nat.le_of_not_lt hlarge⟩
  rw [updated_singleton]
  unfold setField
  split
  · rw [hnarrow _ _ rfl (by decide)]; rfl
  · rw [hnarrow _ _ rfl (by decide)]; rfl
  · rw [narrow_fixed32]; rfl
  · rw [narrow_fixed32]; rfl
  · rfl
  · rw [hnarrow _ _ rfl (by decide)]; rfl
  · rw [hnarrow _ _ rfl (by decide)]; rfl
  · next h1 h2 h3 h4 h5 h6 h7 =>
    obtain ⟨number, value⟩ := field
    cases value with
    | varint value =>
      have hkinds : number ≠ 1 ∧ number ≠ 2 ∧ number ≠ 6 ∧ number ≠ 7 := by
        refine ⟨?_, ?_, ?_, ?_⟩
        · rintro rfl; exact h1 value rfl
        · rintro rfl; exact h2 value rfl
        · rintro rfl; exact h6 value rfl
        · rintro rfl; exact h7 value rfl
      obtain ⟨hkind, hchannel, hstatus, hcall⟩ := hkinds
      simp only [varintOf, fixed32Of, bytesOf, if_neg hkind, if_neg hchannel, if_neg hstatus,
        if_neg hcall, Option.getD_none]
    | fixed32 value =>
      have hservice : number ≠ 3 := by rintro rfl; exact h3 value rfl
      have hmethod : number ≠ 4 := by rintro rfl; exact h4 value rfl
      simp only [varintOf, fixed32Of, bytesOf, if_neg hservice, if_neg hmethod, Option.getD_none]
    | bytes value =>
      have hpayload : number ≠ 5 := by rintro rfl; exact h5 value rfl
      simp only [varintOf, fixed32Of, bytesOf, if_neg hpayload, Option.getD_none]

theorem setField_of_oversized (packet : Packet) {field : UInt32 × Value}
    (hlarge : Oversized field) :
    setField packet field = .error "pw_rpc packet field is too large" := by
  obtain ⟨number, _⟩ := field
  obtain ⟨value, rfl, hmem, hvalue⟩ := hlarge
  have hnarrow := narrow_of_ge hvalue
  simp only [List.mem_cons, List.not_mem_nil, or_false] at hmem
  rcases hmem with rfl | rfl | rfl | rfl
  · rw [setField, hnarrow]; rfl
  · rw [setField, hnarrow]; rfl
  · rw [setField, hnarrow]; rfl
  · rw [setField, hnarrow]; rfl

theorem foldlM_setField_of_fits {found : List (UInt32 × Value)}
    (hfits : ∀ field ∈ found, ¬Oversized field) (packet : Packet) :
    found.foldlM setField packet = .ok (packet.updated found) := by
  induction found generalizing packet with
  | nil => rfl
  | cons field rest ih =>
    have hrest : ∀ later ∈ rest, ¬Oversized later := fun later hmem ↦
      hfits later (List.mem_cons_of_mem field hmem)
    calc (field :: rest).foldlM setField packet
        = rest.foldlM setField (packet.updated [field]) := by
          rw [List.foldlM_cons, setField_of_fits packet (hfits field List.mem_cons_self)]
          rfl
      _ = .ok ((packet.updated [field]).updated rest) := ih hrest (packet.updated [field])
      _ = .ok (packet.updated (field :: rest)) := by rw [← updated_cons]

theorem not_oversized_of_foldlM {found : List (UInt32 × Value)} {start packet : Packet}
    (hloop : found.foldlM setField start = .ok packet) {field : UInt32 × Value}
    (hmem : field ∈ found) : ¬Oversized field := by
  intro hlarge
  obtain ⟨state, next, haccepted⟩ := Loop.accepted_of_foldlM hloop hmem
  rw [setField_of_oversized state hlarge] at haccepted
  cases haccepted

/-- What is decoded, and that nothing but the fields and their sizes decides whether it is. -/
theorem decodePacket_eq_ok {bytes : List UInt8} {packet : Packet} :
    decodePacket bytes = .ok packet ↔
      ∃ found, fields bytes = .ok found ∧ (∀ field ∈ found, ¬Oversized field) ∧
        packet = Packet.default.updated found := by
  rw [decodePacket, Loop.bind_eq_ok]
  constructor
  · rintro ⟨found, hfound, hloop⟩
    have hfits : ∀ field ∈ found, ¬Oversized field := fun field hmem ↦
      not_oversized_of_foldlM hloop hmem
    rw [foldlM_setField_of_fits hfits] at hloop
    exact ⟨found, hfound, hfits, (Except.ok.inj hloop).symm⟩
  · rintro ⟨found, hfound, hfits, rfl⟩
    exact ⟨found, hfound, foldlM_setField_of_fits hfits Packet.default⟩

/-- The reader of protobuf messages accepts its grammar and nothing else, and a packet takes the
last occurrence of each of its fields. -/
theorem protobuf_reader_exact :
    (∀ bytes found, fields bytes = .ok found ↔
      ∃ parts : List (List UInt8 × Option (UInt32 × Value)),
        (∀ part ∈ parts, IsField part.1 part.2) ∧ bytes = parts.flatMap Prod.fst ∧
          found = (parts.map Prod.snd).reduceOption) ∧
    (∀ bytes found rest, readField bytes = .ok (found, rest) → rest.length < bytes.length) ∧
    (∀ bytes value rest, readVarint bytes = .ok (value, rest) ↔
      ∃ taken, bytes = taken ++ rest ∧ Terminated taken ∧ taken.length ≤ 10 ∧
        varintValue taken = value.toNat) ∧
    (∀ value suffix, readVarint (putVarint value ++ suffix) = .ok (value, suffix)) ∧
    (∀ bytes, (∃ error, decodePacket bytes = .error error) ↔
      (∃ error, fields bytes = .error error) ∨
        ∃ found, fields bytes = .ok found ∧ ∃ field ∈ found, Oversized field) ∧
    ∀ bytes packet, decodePacket bytes = .ok packet →
      ∃ found, fields bytes = .ok found ∧ packet = Packet.default.updated found := by
  refine ⟨fun _ _ ↦ fields_eq_ok, fun _ _ _ ↦ fieldParser.shrinks, ?_, readVarint_putVarint,
    ?_, ?_⟩
  · intro bytes value rest
    rw [readVarint_reads bytes value rest]
    constructor
    · rintro ⟨taken, hbytes, hvarint⟩
      exact ⟨taken, hbytes, hvarint.terminated, hvarint.short, hvarint.value_eq⟩
    · rintro ⟨taken, hbytes, hterminated, hshort, hvalue⟩
      exact ⟨taken, hbytes, hterminated, hshort, hvalue⟩
  · intro bytes
    constructor
    · rintro ⟨error, herror⟩
      cases hfields : fields bytes with
      | error error => exact Or.inl ⟨error, rfl⟩
      | ok found =>
        refine Or.inr ⟨found, rfl, ?_⟩
        by_contra hnone
        have hfits : ∀ field ∈ found, ¬Oversized field := fun field hmem hlarge ↦
          hnone ⟨field, hmem, hlarge⟩
        have hok := decodePacket_eq_ok.mpr ⟨found, hfields, hfits, rfl⟩
        rw [hok] at herror
        cases herror
    · intro hbad
      cases hdecode : decodePacket bytes with
      | error error => exact ⟨error, rfl⟩
      | ok packet =>
        obtain ⟨found, hfound, hfits, -⟩ := decodePacket_eq_ok.mp hdecode
        rcases hbad with ⟨error, herror⟩ | ⟨other, hother, field, hmem, hlarge⟩
        · rw [hfound] at herror
          cases herror
        · rw [hfound] at hother
          rw [← Except.ok.inj hother] at hmem
          exact absurd hlarge (hfits field hmem)
  · intro bytes packet hdecode
    obtain ⟨found, hfound, -, hpacket⟩ := decodePacket_eq_ok.mp hdecode
    exact ⟨found, hfound, hpacket⟩

/-! ## Packets are read back -/

def varintPart (number value : UInt32) : List (UInt32 × Value) :=
  if value ≠ 0 then [(number, .varint value.toUInt64)] else []

def fixed32Part (number value : UInt32) : List (UInt32 × Value) :=
  if value ≠ 0 then [(number, .fixed32 value)] else []

def bytesPart (number : UInt32) (value : List UInt8) : List (UInt32 × Value) :=
  if value ≠ [] then [(number, .bytes value)] else []

/-- The fields that are written. -/
def Packet.present (packet : Packet) : List (UInt32 × Value) :=
  varintPart 1 packet.kind ++ varintPart 2 packet.channel ++ fixed32Part 3 packet.service ++
    fixed32Part 4 packet.method ++ bytesPart 5 packet.payload ++ varintPart 6 packet.status ++
    varintPart 7 packet.call

theorem fields_nil : fields [] = .ok [] := by
  rw [fields, Reader.Parser.readAll_nil]
  rfl

theorem fields_append {front back : List UInt8} {first second : List (UInt32 × Value)}
    (hfront : fields front = .ok first) (hback : fields back = .ok second) :
    fields (front ++ back) = .ok (first ++ second) := by
  obtain ⟨before, hbefore, rfl⟩ := Loop.map_eq_ok.mp hfront
  obtain ⟨after, hafter, rfl⟩ := Loop.map_eq_ok.mp hback
  rw [fields, fieldParser.readAll_append hbefore hafter, ← List.reduceOption_append]
  rfl

theorem fields_of_isField {bytes : List UInt8} {field : UInt32 × Value}
    (hfield : IsField bytes (some field)) : fields bytes = .ok [field] := by
  apply fields_eq_ok.mpr
  refine ⟨[(bytes, some field)], ?_, (List.append_nil bytes).symm, rfl⟩
  intro part hpart
  rw [List.mem_singleton.mp hpart]
  exact hfield

theorem isKey_putVarint {key : UInt64} {number : UInt32} {wire : ℕ}
    (hkey : key.toNat = 8 * number.toNat + wire) (hnonzero : 1 ≤ number.toNat)
    (hbounded : number.toNat ≤ 2 ^ 29 - 1) : IsKey (putVarint key) number wire where
  varint := ⟨key, isVarint_putVarint key, hkey⟩
  nonzero := hnonzero
  bounded := hbounded

section Parts

variable {field : UInt64} {number : UInt32} (hnonzero : 1 ≤ number.toNat)
  (hbounded : number.toNat ≤ 2 ^ 29 - 1)

include hnonzero hbounded

theorem fields_varint (hkey : (field <<< 3).toNat = 8 * number.toNat + 0) (value : UInt32) :
    fields (varint field value) = .ok (varintPart number value) := by
  rw [varint, varintPart]
  split
  · apply fields_of_isField
    apply IsField.varint (isKey_putVarint hkey hnonzero hbounded)
    exact isVarint_putVarint value.toUInt64
  · exact fields_nil

theorem fields_fixed32 (hkey : (field <<< 3 ||| 5).toNat = 8 * number.toNat + 5)
    (value : UInt32) : fields (fixed32 field value) = .ok (fixed32Part number value) := by
  have hread : UInt32.ofNat (Endian.ofLe (Endian.toLe 4 value.toNat)) = value := by
    rw [Endian.ofLe_toLe]
    apply UInt32.toNat_inj.mp
    have hvalue := value.toNat_lt
    rw [UInt32.toNat_ofNat']
    omega
  rw [fixed32, fixed32Part]
  split
  · apply fields_of_isField
    have hfield := IsField.fixed32 (isKey_putVarint hkey hnonzero hbounded)
      (Endian.length_toLe 4 value.toNat)
    rw [hread] at hfield
    exact hfield
  · exact fields_nil

end Parts

theorem fields_payload {payload : List UInt8} (hlength : payload.length < 2 ^ 64) :
    fields (if payload ≠ [] then
      putVarint ((5 : UInt64) <<< 3 ||| 2) ++ putVarint (.ofNat payload.length) ++ payload
      else []) = .ok (bytesPart 5 payload) := by
  rw [bytesPart]
  split
  · apply fields_of_isField
    rw [List.append_assoc]
    apply IsField.bytes (isKey_putVarint (by decide) (by decide) (by decide))
      (isVarint_putVarint (.ofNat payload.length))
    rw [UInt64.toNat_ofNat']
    exact (Nat.mod_eq_of_lt hlength).symm
  · exact fields_nil

theorem fields_encodePacket {packet : Packet} (hlength : packet.payload.length < 2 ^ 64) :
    fields (encodePacket packet) = .ok packet.present := by
  rw [encodePacket, Packet.present]
  apply fields_append _ (fields_varint (by decide) (by decide) (by decide) packet.call)
  apply fields_append _ (fields_varint (by decide) (by decide) (by decide) packet.status)
  apply fields_append _ (fields_payload hlength)
  apply fields_append _ (fields_fixed32 (by decide) (by decide) (by decide) packet.method)
  apply fields_append _ (fields_fixed32 (by decide) (by decide) (by decide) packet.service)
  apply fields_append _ (fields_varint (by decide) (by decide) (by decide) packet.channel)
  exact fields_varint (by decide) (by decide) (by decide) packet.kind

theorem filterMap_varintPart {Slot : Type} (pick : UInt32 × Value → Option Slot)
    (number value : UInt32) : (varintPart number value).filterMap pick =
      if value ≠ 0 then (pick (number, .varint value.toUInt64)).toList else [] := by
  rw [varintPart]
  split
  · cases hpick : pick (number, .varint value.toUInt64) <;> simp [hpick]
  · rfl

theorem filterMap_fixed32Part {Slot : Type} (pick : UInt32 × Value → Option Slot)
    (number value : UInt32) : (fixed32Part number value).filterMap pick =
      if value ≠ 0 then (pick (number, .fixed32 value)).toList else [] := by
  rw [fixed32Part]
  split
  · cases hpick : pick (number, .fixed32 value) <;> simp [hpick]
  · rfl

theorem filterMap_bytesPart {Slot : Type} (pick : UInt32 × Value → Option Slot)
    (number : UInt32) (value : List UInt8) : (bytesPart number value).filterMap pick =
      if value ≠ [] then (pick (number, .bytes value)).toList else [] := by
  rw [bytesPart]
  split
  · cases hpick : pick (number, .bytes value) <;> simp [hpick]
  · rfl

theorem getD_present {Slot : Type} {value default : Slot} [Decidable (value = default)] :
    (if value = default then [] else [value]).getLast?.getD default = value := by
  split
  · next hsame => exact hsame.symm
  · rfl

theorem updated_present (packet : Packet) : Packet.default.updated packet.present = packet := by
  obtain ⟨kind, channel, service, method, payload, status, call⟩ := packet
  simp only [Packet.updated, Packet.present, Packet.default, latest, List.filterMap_append,
    filterMap_varintPart, filterMap_fixed32Part, filterMap_bytesPart, varintOf, fixed32Of, bytesOf]
  simp [getD_present]

theorem present_fits (packet : Packet) : ∀ field ∈ packet.present, ¬Oversized field := by
  rintro ⟨number, _⟩ hmem ⟨value, rfl, -, hlarge⟩
  have hvarint : ∀ known small, (number, Value.varint value) ∈ varintPart known small →
      value = small.toUInt64 := by
    intro known small hpart
    rw [varintPart] at hpart
    split at hpart
    · exact Value.varint.inj (Prod.mk.inj (List.mem_singleton.mp hpart)).2
    · cases hpart
  have hsmall : ∀ small : UInt32, value ≠ small.toUInt64 := by
    rintro small rfl
    have hfits := small.toNat_lt
    rw [UInt32.toNat_toUInt64, UInt32.size] at hlarge
    omega
  have hfixed32 : ∀ known small, (number, Value.varint value) ∉ fixed32Part known small := by
    intro known small hpart
    rw [fixed32Part] at hpart
    split at hpart <;> simp at hpart
  have hbytes : (number, Value.varint value) ∉ bytesPart 5 packet.payload := by
    intro hpart
    rw [bytesPart] at hpart
    split at hpart <;> simp at hpart
  simp only [Packet.present, List.mem_append] at hmem
  rcases hmem with (((((hkind | hchannel) | hservice) | hmethod) | hpayload) | hstatus) | hcall
  · exact hsmall _ (hvarint _ _ hkind)
  · exact hsmall _ (hvarint _ _ hchannel)
  · exact hfixed32 _ _ hservice
  · exact hfixed32 _ _ hmethod
  · exact hbytes hpayload
  · exact hsmall _ (hvarint _ _ hstatus)
  · exact hsmall _ (hvarint _ _ hcall)

/-- Every packet is read back. -/
theorem decodePacket_encodePacket {packet : Packet} (hlength : packet.payload.length < 2 ^ 64) :
    decodePacket (encodePacket packet) = .ok packet := by
  apply decodePacket_eq_ok.mpr
  refine ⟨packet.present, fields_encodePacket hlength, present_fits packet, ?_⟩
  exact (updated_present packet).symm

theorem payload_le_encodePacket (packet : Packet) :
    packet.payload.length ≤ (encodePacket packet).length := by
  have hpayload : packet.payload.length ≤ (if packet.payload ≠ [] then
      putVarint ((5 : UInt64) <<< 3 ||| 2) ++ putVarint (.ofNat packet.payload.length) ++
        packet.payload
      else []).length := by
    split
    · rw [List.length_append]
      exact Nat.le_add_left _ _
    · next hempty =>
      rw [not_not.mp hempty]
  simp only [encodePacket, List.length_append]
  omega

end BtDaemon.Maestro
