import BtDaemon.Bluez.LinkSignal
import BtDaemon.Foundation.BoundedTable
import BtDaemon.Foundation.Endian
import BtDaemon.Foundation.Text
import BtDaemon.Identity.StableKeys

/-!
# Disconnect reports

BlueZ names a device by an object path and reports why it disconnected. The path is read back to
an adapter and an address, the reason to a category and the text to bounded plain text. The last
report of each peer is kept in a history of bounded size; it is a diagnosis and nothing else.
-/

namespace BtDaemon.Bluez.Disconnect

open LinkSignal (Address)

/-! ## Object paths -/

/-- Split at the first occurrence of a separator. -/
def splitOnce (separator : Char) : List Char → Option (List Char × List Char)
  | [] => none
  | first :: rest =>
    if first = separator then some ([], rest)
    else (splitOnce separator rest).map fun (before, after) ↦ (first :: before, after)

def hexDigits : List Char := "0123456789abcdefABCDEF".toList

def isAsciiHexdigit (character : Char) : Bool := hexDigits.contains character

def hexValue (character : Char) : ℕ :=
  if character.isDigit then character.toNat - 48
  else if 'a' ≤ character then character.toNat - 87
  else character.toNat - 55

/-- `u8::from_str_radix(byte, 16)` for two digits. -/
def parseByte (byte : List Char) : UInt8 :=
  UInt8.ofNat (byte.foldl (fun value digit ↦ 16 * value + hexValue digit) 0)

/-- `parse` of six pairs of hexadecimal digits, which does not fail. -/
def parseAddress (bytes : List (List Char)) : Address :=
  BitVec.ofNat 48 (Endian.ofBe (bytes.map parseByte))

def devicePath (path : String) : Option (String × Address) := do
  let rest ← "/org/bluez/".toList.isPrefixOf? path.toList
  let (adapter, peer) ← splitOnce '/' rest
  let index ← "hci".toList.isPrefixOf? adapter
  if index = [] ∨ !index.all Char.isDigit then none
  else
    let peer ← "dev_".toList.isPrefixOf? peer
    let bytes := peer.splitOn '_'
    if bytes.length ≠ 6 ∨ bytes.any fun byte ↦ byte.length ≠ 2 || !byte.all isAsciiHexdigit then
      none
    else some (String.ofList adapter, parseAddress bytes)

/-! ## Reports -/

inductive DisconnectReason
  | unknown
  | timeout
  | localSide
  | remote
  | authentication
  | suspend
  deriving DecidableEq, Repr

structure DeviceDisconnect where
  reason : DisconnectReason
  message : String
  observedAtMs : UInt64
  deriving DecidableEq, Repr

/-- Bidirectional formatting. -/
def isBidi (character : Char) : Bool :=
  (0x202a ≤ character.toNat && character.toNat ≤ 0x202e) ||
    (0x2066 ≤ character.toNat && character.toNat ≤ 0x2069)

/-- Remote display text is bounded in characters, without controls and bidi formatting. -/
def remoteText (text : String) (limit : ℕ) : String :=
  String.ofList ((text.toList.filter fun character ↦
    !Text.isControl character && !isBidi character).take limit)

def reasonOf (reason : String) : DisconnectReason :=
  if reason = "org.bluez.Reason.Timeout" then .timeout
  else if reason = "org.bluez.Reason.Local" then .localSide
  else if reason = "org.bluez.Reason.Remote" then .remote
  else if reason = "org.bluez.Reason.Authentication" then .authentication
  else if reason = "org.bluez.Reason.Suspend" then .suspend
  else .unknown

def report (reason message : String) (unixTimeMs : UInt64) : DeviceDisconnect :=
  ⟨reasonOf reason, remoteText message 256, unixTimeMs⟩

/-! ## The history -/

abbrev Peer := String × Address

abbrev History := Table Peer DeviceDisconnect

def maxHistory : ℕ := 256

/-- When a report was made. -/
def observedAt (report : DeviceDisconnect) : ℕ := report.observedAtMs.toNat

namespace History

/-- The entry that makes room is the one that the iteration finds to be the oldest. -/
def record (self : History) (peer : Peer) (report : DeviceDisconnect) (oldest : Peer) : History :=
  BoundedTable.record maxHistory self peer report oldest

def get (self : History) (adapter : String) (address : Address) : Option DeviceDisconnect :=
  self.lookup (adapter, address)

def remove (self : History) (adapter : String) (address : Option Address) : History :=
  self.retain fun peer _ ↦
    peer.1 != adapter || (address.any fun address ↦ address != peer.2)

end History

/-! ## The grammar of object paths -/

theorem splitOnce_eq_some {separator : Char} {chars before after : List Char} :
    splitOnce separator chars = some (before, after) ↔
      chars = before ++ separator :: after ∧ separator ∉ before := by
  induction chars generalizing before with
  | nil => simp [splitOnce]
  | cons first rest ih =>
    rw [splitOnce]
    by_cases hfirst : first = separator
    · rw [if_pos hfirst]
      cases before with
      | nil => simp [hfirst, eq_comm]
      | cons head tail =>
        simp only [Option.some.injEq, Prod.mk.injEq, List.cons_append, List.cons.injEq,
          List.mem_cons, not_or]
        constructor
        · rintro ⟨hnil, -⟩
          cases hnil
        · rintro ⟨⟨hhead, -⟩, hne, -⟩
          exact absurd (hfirst.symm.trans hhead) hne
    · rw [if_neg hfirst]
      cases before with
      | nil => simp [hfirst]
      | cons head tail =>
        simp only [Option.map_eq_some_iff, Prod.exists, Prod.mk.injEq, List.cons.injEq,
          List.cons_append, List.mem_cons, not_or]
        constructor
        · rintro ⟨found, later, hrest, ⟨rfl, rfl⟩, rfl⟩
          obtain ⟨rfl, hnot⟩ := ih.mp hrest
          exact ⟨⟨rfl, rfl⟩, Ne.symm hfirst, hnot⟩
        · rintro ⟨⟨rfl, hrest⟩, -, hnot⟩
          exact ⟨tail, after, ih.mpr ⟨hrest, hnot⟩, ⟨rfl, rfl⟩, rfl⟩

theorem hexDigits_spec : hexDigits.all (fun character ↦
    decide (hexValue character < 16) && decide (character ≠ '_') && decide (character ≠ '/') &&
      decide (Identity.hexDigit (hexValue character) = character.toUpper)) = true := by
  decide

theorem hexDigit_hexValue {character : Char} (hhex : isAsciiHexdigit character = true) :
    hexValue character < 16 ∧ Identity.hexDigit (hexValue character) = character.toUpper := by
  have hspec := List.all_eq_true.mp hexDigits_spec character (List.contains_iff_mem.mp hhex)
  simp only [Bool.and_eq_true, decide_eq_true_iff] at hspec
  exact ⟨hspec.1.1.1, hspec.2⟩

theorem toUpper_cases (character : Char) : character.toUpper = character ∨
    97 ≤ character.toNat ∧ character.toNat ≤ 122 ∧
      character.toNat = character.toUpper.toNat + 32 := by
  unfold Char.toUpper
  split
  · next hlower =>
    right
    have hlow : 97 ≤ character.val.toNat := UInt32.le_iff_toNat_le.mp hlower.1
    have hhigh : character.val.toNat ≤ 122 := UInt32.le_iff_toNat_le.mp hlower.2
    have hshift : ('A'.val - 'a'.val).toNat = 4294967264 := by decide
    refine ⟨hlow, hhigh, ?_⟩
    change character.val.toNat = (character.val + ('A'.val - 'a'.val)).toNat + 32
    rw [UInt32.toNat_add, hshift]
    omega
  · exact .inl rfl

/-- The digit of a value, and the lower case letter where there is one, stand for it. -/
theorem digits_spec : (List.range 16).all (fun value ↦
    decide (isAsciiHexdigit (Identity.hexDigit value) = true ∧
      hexValue (Identity.hexDigit value) = value) &&
    (decide ((Identity.hexDigit value).toNat + 32 < 97) || decide (isAsciiHexdigit
      (Char.ofNat ((Identity.hexDigit value).toNat + 32)) = true ∧
        hexValue (Char.ofNat ((Identity.hexDigit value).toNat + 32)) = value))) = true := by
  decide

/-- A digit is what its upper case form says. -/
theorem hexValue_of_toUpper {character : Char} {value : ℕ} (hvalue : value < 16)
    (hupper : character.toUpper = Identity.hexDigit value) :
    isAsciiHexdigit character = true ∧ hexValue character = value := by
  have hspec := List.all_eq_true.mp digits_spec value (List.mem_range.mpr hvalue)
  rw [Bool.and_eq_true, Bool.or_eq_true, decide_eq_true_iff, decide_eq_true_iff,
    decide_eq_true_iff] at hspec
  rcases toUpper_cases character with hsame | ⟨hlow, -, hlower⟩
  · rw [← hupper, hsame] at hspec
    exact hspec.1
  · rw [hupper] at hlower
    rcases hspec.2 with hsmall | hletter
    · omega
    · rw [← hlower, Char.ofNat_toNat] at hletter
      exact hletter

/-- Two hexadecimal digits. -/
def IsByte (byte : List Char) : Prop := byte.length = 2 ∧ byte.all isAsciiHexdigit = true

instance (byte : List Char) : Decidable (IsByte byte) := inferInstanceAs (Decidable (_ ∧ _))

theorem IsByte.digits {byte : List Char} (hbyte : IsByte byte) : ∃ high low, byte = [high, low] ∧
    isAsciiHexdigit high = true ∧ isAsciiHexdigit low = true := by
  obtain ⟨hlength, hhex⟩ := hbyte
  obtain ⟨high, low, rfl⟩ := List.length_eq_two.mp hlength
  simp only [List.all_cons, List.all_nil, Bool.and_true, Bool.and_eq_true] at hhex
  exact ⟨high, low, rfl, hhex⟩

theorem toNat_parseByte {high low : Char} (hhigh : isAsciiHexdigit high = true)
    (hlow : isAsciiHexdigit low = true) :
    (parseByte [high, low]).toNat = 16 * hexValue high + hexValue low := by
  have hbounds := (hexDigit_hexValue hhigh).1
  have hbound := (hexDigit_hexValue hlow).1
  change (UInt8.ofNat (16 * (16 * 0 + hexValue high) + hexValue low)).toNat = _
  rw [UInt8.toNat_ofNat']
  omega

theorem byteText_parseByte {byte : List Char} (hbyte : IsByte byte) :
    Identity.byteText (parseByte byte).toNat = byte.map Char.toUpper := by
  obtain ⟨high, low, rfl, hhigh, hlow⟩ := hbyte.digits
  obtain ⟨hbounds, hupper⟩ := hexDigit_hexValue hhigh
  obtain ⟨hbound, hlower⟩ := hexDigit_hexValue hlow
  have hquotient : (16 * hexValue high + hexValue low) / 16 = hexValue high := by omega
  have hremainder : (16 * hexValue high + hexValue low) % 16 = hexValue low := by omega
  rw [toNat_parseByte hhigh hlow, Identity.byteText, hquotient, hremainder, hupper, hlower]
  rfl

/-- A byte is read from its text, in upper or lower case. -/
theorem parseByte_of_toUpper {byte : List Char} {value : UInt8}
    (hupper : byte.map Char.toUpper = Identity.byteText value.toNat) :
    IsByte byte ∧ parseByte byte = value := by
  have hlength := congrArg List.length hupper
  rw [List.length_map] at hlength
  obtain ⟨high, low, rfl⟩ := List.length_eq_two.mp hlength
  obtain ⟨hhighText, hrest⟩ := List.cons.inj hupper
  obtain ⟨hlowText, -⟩ := List.cons.inj hrest
  have hvalue := value.toNat_lt
  obtain ⟨hhigh, hhighValue⟩ := hexValue_of_toUpper (by omega) hhighText
  obtain ⟨hlow, hlowValue⟩ := hexValue_of_toUpper (by omega) hlowText
  refine ⟨⟨rfl, by simp [hhigh, hlow]⟩, ?_⟩
  apply UInt8.toNat_inj.mp
  rw [toNat_parseByte hhigh hlow, hhighValue, hlowValue]
  omega

/-- An address in an object path. -/
def peerText (address : Address) : List Char :=
  ['_'].intercalate ((Endian.toBe 6 address.toNat).map fun byte ↦ Identity.byteText byte.toNat)

/-- The number of an adapter. -/
def IsIndex (index : List Char) : Prop := index ≠ [] ∧ index.all Char.isDigit = true

theorem IsIndex.notMem {index : List Char} (hindex : IsIndex index) :
    '/' ∉ "hci".toList ++ index := by
  intro hmem
  rcases List.mem_append.mp hmem with hfront | hback
  · revert hfront
    decide
  · have hdigit := List.all_eq_true.mp hindex.2 '/' hback
    revert hdigit
    decide

theorem IsByte.notMem {byte : List Char} (hbyte : IsByte byte) : '_' ∉ byte := by
  intro hmem
  have hhex := List.all_eq_true.mp hbyte.2 '_' hmem
  revert hhex
  decide

theorem not_any_invalid {bytes : List (List Char)} :
    ¬(bytes.length ≠ 6 ∨ (bytes.any fun byte ↦ byte.length ≠ 2 || !byte.all isAsciiHexdigit) =
      true) ↔ bytes.length = 6 ∧ ∀ byte ∈ bytes, IsByte byte := by
  rw [not_or, not_not, List.any_eq_true]
  constructor
  · rintro ⟨hlength, hnone⟩
    refine ⟨hlength, fun byte hmem ↦ ?_⟩
    by_contra hbyte
    apply hnone
    refine ⟨byte, hmem, ?_⟩
    rw [IsByte, not_and_or] at hbyte
    simpa using hbyte
  · rintro ⟨hlength, hbytes⟩
    refine ⟨hlength, ?_⟩
    rintro ⟨byte, hmem, hinvalid⟩
    obtain ⟨htwo, hhex⟩ := hbytes byte hmem
    simp [htwo, hhex] at hinvalid

/-- The paths that are read, digit by digit. -/
theorem devicePath_eq_some {path : String} {adapter : String} {address : Address} :
    devicePath path = some (adapter, address) ↔
      ∃ index bytes, IsIndex index ∧ bytes.length = 6 ∧ (∀ byte ∈ bytes, IsByte byte) ∧
        path.toList = "/org/bluez/".toList ++ (("hci".toList ++ index) ++
          '/' :: ("dev_".toList ++ ['_'].intercalate bytes)) ∧
        adapter = String.ofList ("hci".toList ++ index) ∧ address = parseAddress bytes := by
  unfold devicePath
  simp only [Option.bind_eq_bind, Option.bind_eq_some_iff, Prod.exists,
    List.isPrefixOf?_eq_some_iff_append_eq, splitOnce_eq_some]
  constructor
  · rintro ⟨rest, hpath, found, peer, ⟨rfl, -⟩, index, rfl, hread⟩
    split at hread
    · cases hread
    · next hindex =>
      obtain ⟨text, htext, hbytes⟩ := Option.bind_eq_some_iff.mp hread
      obtain rfl := List.isPrefixOf?_eq_some_iff_append_eq.mp htext
      split at hbytes
      · cases hbytes
      · next hvalid =>
        obtain ⟨hlength, hall⟩ := not_any_invalid.mp hvalid
        obtain ⟨rfl, rfl⟩ := Prod.mk.inj (Option.some.inj hbytes)
        refine ⟨index, text.splitOn '_', ?_, hlength, hall, ?_, rfl, rfl⟩
        · obtain ⟨hne, hdigits⟩ := not_or.mp hindex
          exact ⟨hne, by simpa using hdigits⟩
        · rw [List.intercalate_splitOn]
          exact hpath.symm
  · rintro ⟨index, bytes, hindex, hlength, hall, hpath, rfl, rfl⟩
    refine ⟨_, hpath.symm, _, _, ⟨rfl, hindex.notMem⟩, index, rfl, ?_⟩
    have hne : bytes ≠ [] := by
      rintro rfl
      cases hlength
    have hsplit : (['_'].intercalate bytes).splitOn '_' = bytes :=
      List.splitOn_intercalate '_' (fun byte hmem ↦ (hall byte hmem).notMem) hne
    have hdigits : ¬(index = [] ∨ (!index.all Char.isDigit) = true) := by
      rw [hindex.2]
      simp [hindex.1]
    rw [if_neg hdigits]
    apply Option.bind_eq_some_iff.mpr
    refine ⟨_, List.isPrefixOf?_eq_some_iff_append_eq.mpr rfl, ?_⟩
    simp only [hsplit]
    rw [if_neg (not_any_invalid.mpr ⟨hlength, hall⟩)]

/-! ## Paths and peers -/

theorem map_intercalate (change : Char → Char) (separator : Char) (parts : List (List Char)) :
    ([separator].intercalate parts).map change =
      [change separator].intercalate (parts.map (List.map change)) := by
  match parts with
  | [] => rfl
  | [part] => simp [List.intercalate_singleton]
  | part :: next :: rest =>
    have ih := map_intercalate change separator (next :: rest)
    simp only [List.map_cons, List.intercalate_cons_cons, List.map_append] at ih ⊢
    rw [ih]
    rfl

/-- A text whose image is made of parts is itself made of parts. -/
theorem exists_intercalate {change : Char → Char} {separator : Char}
    (hseparator : ∀ character, change character = separator → character = separator)
    {parts : List (List Char)} {text : List Char}
    (htext : text.map change = [separator].intercalate parts) :
    ∃ pieces, text = [separator].intercalate pieces ∧ pieces.map (List.map change) = parts := by
  match parts with
  | [] => exact ⟨[], List.map_eq_nil_iff.mp htext, rfl⟩
  | [part] =>
    rw [List.intercalate_singleton] at htext
    exact ⟨[text], List.intercalate_singleton.symm, congrArg (fun part ↦ [part]) htext⟩
  | part :: next :: rest =>
    rw [List.intercalate_cons_cons] at htext
    obtain ⟨front, back, rfl, hfront, hback⟩ := List.map_eq_append_iff.mp htext
    obtain ⟨first, mark, rfl, hfirst, hmark⟩ := List.map_eq_append_iff.mp hfront
    obtain ⟨character, rest', rfl, hcharacter, hnil⟩ := List.map_eq_cons_iff.mp hmark
    obtain rfl := List.map_eq_nil_iff.mp hnil
    obtain ⟨pieces, rfl, hpieces⟩ := exists_intercalate hseparator hback
    refine ⟨first :: pieces, ?_, ?_⟩
    · rw [hseparator character hcharacter]
      cases pieces with
      | nil => cases hpieces
      | cons head tail => rw [List.intercalate_cons_cons]
    · rw [List.map_cons, hfirst, hpieces]

theorem eq_underscore_of_toUpper {character : Char} (hupper : character.toUpper = '_') :
    character = '_' := by
  rcases toUpper_cases character with hsame | ⟨hlow, hhigh, hlower⟩
  · rw [← hsame, hupper]
  · rw [hupper] at hlower
    have hcode : '_'.toNat = 95 := rfl
    omega

theorem toNat_parseAddress {bytes : List (List Char)} (hlength : bytes.length = 6) :
    (parseAddress bytes).toNat = Endian.ofBe (bytes.map parseByte) := by
  have hbound := Endian.ofLe_lt (bytes.map parseByte).reverse
  rw [List.length_reverse, List.length_map, hlength] at hbound
  rw [parseAddress, BitVec.toNat_ofNat]
  exact Nat.mod_eq_of_lt hbound

/-- What is read of the bytes of an address is their upper case form. -/
theorem peerText_parseAddress {bytes : List (List Char)} (hlength : bytes.length = 6)
    (hbytes : ∀ byte ∈ bytes, IsByte byte) :
    peerText (parseAddress bytes) = ['_'].intercalate (bytes.map (List.map Char.toUpper)) := by
  have hoctets := Endian.toBe_ofBe (bytes.map parseByte)
  rw [List.length_map, hlength] at hoctets
  rw [peerText, toNat_parseAddress hlength, hoctets, List.map_map]
  congr 1
  apply List.map_congr_left
  intro byte hmem
  exact byteText_parseByte (hbytes byte hmem)

theorem parseAddress_of_toUpper {bytes : List (List Char)} {address : Address}
    (hupper : bytes.map (List.map Char.toUpper) =
      (Endian.toBe 6 address.toNat).map fun byte ↦ Identity.byteText byte.toNat) :
    bytes.length = 6 ∧ (∀ byte ∈ bytes, IsByte byte) ∧ parseAddress bytes = address := by
  have hsame : ∀ {octets : List UInt8} {bytes : List (List Char)},
      bytes.map (List.map Char.toUpper) = octets.map (fun byte ↦ Identity.byteText byte.toNat) →
        (∀ byte ∈ bytes, IsByte byte) ∧ bytes.map parseByte = octets := by
    intro octets
    induction octets with
    | nil =>
      intro bytes hnil
      obtain rfl := List.map_eq_nil_iff.mp hnil
      exact ⟨fun byte hmem ↦ absurd hmem List.not_mem_nil, rfl⟩
    | cons octet rest ih =>
      intro bytes hcons
      obtain ⟨byte, later, rfl, hbyte, hlater⟩ := List.map_eq_cons_iff.mp hcons
      obtain ⟨hvalid, hparse⟩ := parseByte_of_toUpper hbyte
      obtain ⟨hall, hrest⟩ := ih hlater
      refine ⟨List.forall_mem_cons.mpr ⟨hvalid, hall⟩, ?_⟩
      rw [List.map_cons, hparse, hrest]
  have hlength : bytes.length = 6 := by
    have hlengths := congrArg List.length hupper
    rw [List.length_map, List.length_map, Endian.toBe, List.length_reverse,
      Endian.length_toLe] at hlengths
    exact hlengths
  obtain ⟨hall, hparse⟩ := hsame hupper
  refine ⟨hlength, hall, ?_⟩
  apply BitVec.eq_of_toNat_eq
  rw [toNat_parseAddress hlength, hparse, Endian.ofBe_toBe]
  exact Nat.mod_eq_of_lt address.isLt

/-- A path names a peer exactly if it is the path of the peer, up to the case of its digits. -/
theorem devicePath_iff {path : String} {adapter : String} {address : Address} :
    devicePath path = some (adapter, address) ↔
      (∃ index, IsIndex index ∧ adapter.toList = "hci".toList ++ index) ∧
        ∃ peer, peer.map Char.toUpper = peerText address ∧
          path.toList = "/org/bluez/".toList ++ (adapter.toList ++
            '/' :: ("dev_".toList ++ peer)) := by
  rw [devicePath_eq_some]
  constructor
  · rintro ⟨index, bytes, hindex, hlength, hall, hpath, rfl, rfl⟩
    rw [String.toList_ofList]
    refine ⟨⟨index, hindex, rfl⟩, _, ?_, hpath⟩
    rw [map_intercalate, peerText_parseAddress hlength hall]
    rfl
  · rintro ⟨⟨index, hindex, hadapter⟩, peer, hpeer, hpath⟩
    obtain ⟨bytes, rfl, hbytes⟩ := exists_intercalate (fun _ ↦ eq_underscore_of_toUpper) hpeer
    obtain ⟨hlength, hall, hparse⟩ := parseAddress_of_toUpper hbytes
    refine ⟨index, bytes, hindex, hlength, hall, ?_, ?_, hparse.symm⟩
    · rw [hpath, hadapter]
    · rw [← hadapter, String.ofList_toList]

end BtDaemon.Bluez.Disconnect
