import BtDaemon.Foundation.Text
import BtDaemon.Foundation.UnixPath

/-!
# Names of incoming files

The name of an incoming file comes from the remote device. It is reduced to one path component
before it is joined to the download directory, and a number is put between its stem and its
extension when the name is taken.
-/

namespace BtDaemon.Obex

open Text (isControl)
open UnixPath

/-! ## Safe names -/

def defaultName : String := "bluetooth-transfer"

/-- The name that OBEX reports for a transfer. -/
def incomingName (name filename : Option String) : String :=
  (name.or (filename.bind fileName)).getD defaultName

def safeFileName (value : String) : String :=
  let basename := (fileName value).getD defaultName
  let sanitized :=
    String.ofList ((basename.toList.filter fun character ↦ !isControl character).take 180)
  if sanitized = "" ∨ sanitized = "." ∨ sanitized = ".." then defaultName else sanitized

/-- A name that is safe to create in a directory. -/
structure SafeName (name : String) : Prop where
  normal : Normal name
  component : components name = [.normal name]
  noControl : ∀ character ∈ name.toList, isControl character = false
  short : name.toList.length ≤ 180

theorem safeName_default : SafeName defaultName where
  normal := ⟨by decide, by decide, by decide, by decide⟩
  component := by decide
  noControl := by
    have hall : defaultName.toList.all (fun character ↦ !isControl character) = true := by decide
    simpa using hall
  short := by decide

/-- Whatever name a peer sends, the safe name is one component. -/
theorem safeName_safeFileName (value : String) : SafeName (safeFileName value) := by
  have hbase : Normal ((fileName value).getD defaultName) := by
    cases hname : fileName value with
    | none => exact safeName_default.normal
    | some name => exact normal_of_fileName hname
  unfold safeFileName
  dsimp only
  generalize (fileName value).getD defaultName = basename at hbase ⊢
  split
  case isTrue => exact safeName_default
  case isFalse hplain =>
    have hkept : ∀ character, character ∈ (String.ofList ((basename.toList.filter
        fun character ↦ !isControl character).take 180)).toList →
          character ∈ basename.toList ∧ isControl character = false := by
      intro character hmem
      rw [String.toList_ofList] at hmem
      simpa using List.mem_filter.mp (List.mem_of_mem_take hmem)
    have hnormal : Normal (String.ofList ((basename.toList.filter
        fun character ↦ !isControl character).take 180)) := by
      obtain ⟨hempty, hdots⟩ := not_or.mp hplain
      obtain ⟨hdot, hdotdot⟩ := not_or.mp hdots
      exact ⟨hempty, fun hslash ↦ hbase.single (hkept '/' hslash).1, hdot, hdotdot⟩
    refine ⟨hnormal, hnormal.components, fun character hmem ↦ (hkept character hmem).2, ?_⟩
    rw [String.toList_ofList]
    exact List.length_take_le _ _

/-! ## Numbered names -/

/-- The name that is tried at the number. -/
def numberedName (name : String) (suffix : ℕ) : String :=
  let stem := (fileStem name).getD defaultName
  match suffix, extension name with
  | 0, _ => name
  | suffix, some rest => stem ++ " (" ++ toString suffix ++ ")." ++ rest
  | suffix, none => stem ++ " (" ++ toString suffix ++ ")"

section Numbered

variable {name : String}

/-- The number stands between two parts that make up the name. -/
theorem numberedName_eq (normal : Normal name) :
    ∃ front back, name = front ++ back ∧ ∀ suffix, numberedName name (suffix + 1) =
      front ++ " (" ++ toString (suffix + 1) ++ ")" ++ back := by
  rcases normal.stem with ⟨hstem, hextension⟩ | ⟨stem, rest, hstem, hextension, hname⟩
  · refine ⟨name, "", (String.append_empty).symm, fun suffix ↦ ?_⟩
    unfold numberedName
    rw [hstem, hextension, Option.getD_some, String.append_empty]
    rfl
  · refine ⟨stem, "." ++ rest, by rw [hname, String.append_assoc], fun suffix ↦ ?_⟩
    have hclose : ")." = ")" ++ "." := rfl
    unfold numberedName
    rw [hstem, hextension, Option.getD_some]
    dsimp only
    simp only [hclose, String.append_assoc]

/-- A number is written without a separator. -/
theorem separator_notMem_toDigits (number : ℕ) : '/' ∉ Nat.toDigits 10 number := by
  intro hmem
  have hdigit : ('/').isDigit = true :=
    Nat.isDigit_of_mem_toDigits (by decide) (by decide) hmem
  revert hdigit
  decide

theorem toString_injective {first second : ℕ} (hsame : toString first = toString second) :
    first = second := by
  have hdigits : Nat.toDigits 10 first = Nat.toDigits 10 second := by
    simpa using congrArg String.toList hsame
  calc first
    _ = Nat.ofDigitChars 10 (Nat.toDigits 10 first) 0 := Nat.ofDigitChars_ten_toDigits.symm
    _ = Nat.ofDigitChars 10 (Nat.toDigits 10 second) 0 := by rw [hdigits]
    _ = second := Nat.ofDigitChars_ten_toDigits

theorem normal_numberedName (normal : Normal name) (suffix : ℕ) :
    Normal (numberedName name suffix) := by
  cases suffix with
  | zero => exact normal
  | succ suffix =>
    obtain ⟨front, back, hname, hnumbered⟩ := numberedName_eq normal
    rw [hnumbered]
    have hsingle := normal.single
    rw [hname, String.toList_append, List.mem_append, not_or] at hsingle
    have hopen : '(' ∈ (front ++ " (" ++ toString (suffix + 1) ++ ")" ++ back).toList := by simp
    refine ⟨?_, ?_, ?_, ?_⟩
    · intro hempty
      rw [hempty] at hopen
      simp at hopen
    · have hnumber := separator_notMem_toDigits (suffix + 1)
      simp [hsingle.1, hsingle.2, hnumber]
    · intro hdot
      rw [hdot] at hopen
      simp at hopen
    · intro hdots
      rw [hdots] at hopen
      simp at hopen

/-- No name is tried twice. -/
theorem numberedName_injective (normal : Normal name) :
    Function.Injective (numberedName name) := by
  obtain ⟨front, back, hname, hnumbered⟩ := numberedName_eq normal
  have hlonger : ∀ suffix, numberedName name (suffix + 1) ≠ name := by
    intro suffix hsame
    have hlength := congrArg String.length hsame
    rw [hnumbered] at hlength
    conv at hlength => rhs; rw [hname]
    simp only [String.length_append] at hlength
    have hbracket : " (".length = 2 := rfl
    omega
  intro first second hsame
  cases first with
  | zero =>
    cases second with
    | zero => rfl
    | succ second => exact absurd hsame.symm (hlonger second)
  | succ first =>
    cases second with
    | zero => exact absurd hsame (hlonger first)
    | succ second =>
      rw [hnumbered, hnumbered, String.append_left_inj, String.append_left_inj,
        String.append_right_inj] at hsame
      exact toString_injective hsame

end Numbered

end BtDaemon.Obex
