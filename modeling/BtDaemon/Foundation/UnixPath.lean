import Mathlib.Data.List.Basic
import Mathlib.Tactic.Common

/-!
# Unix paths

A path is a string. Its components are what stands between separators, without empty parts and
without the current directory behind the start. Joining a directory with a normal name adds one
component and nothing else, whatever the directory looks like.
-/

namespace BtDaemon.UnixPath

inductive Component where
  | rootDir
  | curDir
  | parentDir
  | normal (name : String)
  deriving DecidableEq

/-- What a part between separators stands for. -/
def component (part : List Char) : Option Component :=
  if part = [] ∨ part = ['.'] then none
  else if part = ['.', '.'] then some .parentDir
  else some (.normal (String.ofList part))

def parts (path : List Char) : List (List Char) := path.splitOn '/'

/-- The component in front of the named ones. -/
def start (path : List Char) : List Component :=
  if path.head? = some '/' then [.rootDir]
  else if (parts path).head? = some ['.'] then [.curDir]
  else []

/-- `Path::components`. -/
def components (path : String) : List Component :=
  start path.toList ++ (parts path.toList).filterMap component

/-- `Path::file_name`. -/
def fileName (path : String) : Option String :=
  match (components path).getLast? with
  | some (.normal name) => some name
  | _ => none

/-- `Path::join` for a relative path. An absolute path replaces the directory. -/
def join (directory path : String) : String :=
  if path.toList.head? = some '/' then path
  else if directory = "" ∨ directory.toList.getLast? = some '/' then directory ++ path
  else directory ++ "/" ++ path

/-- A name that is one component as it stands. -/
structure Normal (name : String) : Prop where
  nonempty : name ≠ ""
  single : '/' ∉ name.toList
  notCurrent : name ≠ "."
  notParent : name ≠ ".."

/-! ## The last dot -/

/-- Split at the last occurrence of a separator. -/
def rsplitOnce (separator : Char) : List Char → Option (List Char × List Char)
  | [] => none
  | first :: rest =>
    match rsplitOnce separator rest with
    | some (before, after) => some (first :: before, after)
    | none => if first = separator then some ([], rest) else none

theorem rsplitOnce_eq_some {separator : Char} {chars before after : List Char}
    (hsplit : rsplitOnce separator chars = some (before, after)) :
    chars = before ++ separator :: after := by
  induction chars generalizing before with
  | nil => cases hsplit
  | cons first rest ih =>
    rw [rsplitOnce] at hsplit
    split at hsplit
    case h_1 earlier later hrest =>
      obtain ⟨rfl, rfl⟩ := Prod.mk.inj (Option.some.inj hsplit)
      rw [ih hrest, List.cons_append]
    case h_2 =>
      split at hsplit
      case isTrue hfirst =>
        obtain ⟨rfl, rfl⟩ := Prod.mk.inj (Option.some.inj hsplit)
        rw [hfirst, List.nil_append]
      case isFalse => cases hsplit

/-- A file name before and after its last dot (`rsplit_file_at_dot`). -/
def rsplitFileAtDot (file : String) : Option String × Option String :=
  if file = ".." then (some file, none)
  else
    match rsplitOnce '.' file.toList with
    | none => (none, some file)
    | some ([], _) => (some file, none)
    | some (before, after) => (some (String.ofList before), some (String.ofList after))

/-- `Path::file_stem`. -/
def fileStem (path : String) : Option String :=
  (fileName path).bind fun file ↦
    let (before, after) := rsplitFileAtDot file
    before.or after

/-- `Path::extension`. -/
def extension (path : String) : Option String :=
  (fileName path).bind fun file ↦
    let (before, after) := rsplitFileAtDot file
    before.bind fun _ ↦ after

/-! ## Parts -/

theorem separator_notMem {path part : List Char} (hpart : part ∈ parts path) : '/' ∉ part := by
  induction path generalizing part with
  | nil =>
    obtain rfl : part = [] := by simpa [parts] using hpart
    exact List.not_mem_nil
  | cons first rest ih =>
    rw [parts, List.splitOn_cons_eq_if_modifyHead] at hpart
    split at hpart
    case isTrue =>
      rcases List.mem_cons.mp hpart with rfl | hlater
      · exact List.not_mem_nil
      · exact ih hlater
    case isFalse hfirst =>
      cases hrest : rest.splitOn '/' with
      | nil => exact absurd hrest (List.splitOn_ne_nil '/' rest)
      | cons head tail =>
        rw [hrest, List.modifyHead_cons] at hpart
        rw [parts, hrest] at ih
        rcases List.mem_cons.mp hpart with rfl | hlater
        · have hhead := ih List.mem_cons_self
          simpa [eq_comm] using And.intro (by simpa using hfirst) hhead
        · exact ih (List.mem_cons_of_mem head hlater)

theorem parts_append (front rest : List Char) :
    parts (front ++ '/' :: rest) = parts front ++ parts rest :=
  List.splitOn_append_cons_self front rest

/-- What follows a separator does not change how a path starts. -/
theorem start_append {front : List Char} (hfront : front ≠ []) (rest : List Char) :
    start (front ++ '/' :: rest) = start front := by
  have hhead : (front ++ '/' :: rest).head? = front.head? :=
    List.head?_append_of_ne_nil front hfront
  have hparts : (parts (front ++ '/' :: rest)).head? = (parts front).head? := by
    rw [parts_append]
    exact List.head?_append_of_ne_nil _ (List.splitOn_ne_nil '/' front)
  rw [start, start, hhead, hparts]

/-! ## Names -/

section Names

variable {name : String}

theorem Normal.parts (normal : Normal name) : parts name.toList = [name.toList] :=
  List.splitOn_eq_singleton normal.single

theorem Normal.component (normal : Normal name) :
    component name.toList = some (.normal name) := by
  have hdot : name.toList ≠ ['.'] := fun h ↦ normal.notCurrent (String.toList_inj.mp h)
  have hdots : name.toList ≠ ['.', '.'] := fun h ↦ normal.notParent (String.toList_inj.mp h)
  have hempty : name.toList ≠ [] := fun h ↦ normal.nonempty (String.toList_inj.mp h)
  rw [UnixPath.component, if_neg (not_or.mpr ⟨hempty, hdot⟩), if_neg hdots, String.ofList_toList]

theorem Normal.components (normal : Normal name) : components name = [.normal name] := by
  have hhead : name.toList.head? ≠ some '/' := fun h ↦ normal.single (List.mem_of_mem_head? h)
  have hdot : name.toList ≠ ['.'] := fun h ↦ normal.notCurrent (String.toList_inj.mp h)
  rw [UnixPath.components, start, if_neg hhead, normal.parts, List.filterMap_cons,
    normal.component]
  simp [hdot]

/-- Joining a normal name adds it as the last component. -/
theorem Normal.components_join (normal : Normal name) (directory : String) :
    UnixPath.components (join directory name) =
      UnixPath.components directory ++ [.normal name] := by
  have hrelative : name.toList.head? ≠ some '/' :=
    fun h ↦ normal.single (List.mem_of_mem_head? h)
  have hname : UnixPath.parts name.toList = [name.toList] := normal.parts
  have hnamed : UnixPath.component name.toList = some (.normal name) := normal.component
  rw [join, if_neg hrelative]
  by_cases hends : directory.toList.getLast? = some '/'
  · obtain ⟨front, hfront⟩ := List.getLast?_eq_some_iff.mp hends
    have hstart : start (front ++ '/' :: name.toList) = start (front ++ ['/']) := by
      cases front with
      | nil => rfl
      | cons first rest =>
        rw [start_append (List.cons_ne_nil first rest), start_append (List.cons_ne_nil first rest)]
    rw [if_pos (.inr hends), UnixPath.components, UnixPath.components, String.toList_append,
      hfront, List.append_assoc, List.singleton_append, hstart, parts_append, parts_append, hname,
      List.filterMap_append, List.filterMap_append, List.filterMap_cons, hnamed]
    simp [UnixPath.parts, UnixPath.component]
  · by_cases hempty : directory = ""
    · subst hempty
      rw [if_pos (.inl rfl), String.empty_append, normal.components]
      rfl
    · have hfront : directory.toList ≠ [] := fun h ↦ hempty (String.toList_inj.mp h)
      have htext : (directory ++ "/" ++ name).toList = directory.toList ++ '/' :: name.toList := by
        simp
      rw [if_neg (not_or.mpr ⟨hempty, hends⟩), UnixPath.components, UnixPath.components, htext,
        start_append hfront, parts_append, hname, List.filterMap_append, List.filterMap_cons, hnamed,
        List.filterMap_nil, List.append_assoc]

theorem Normal.fileName (normal : Normal name) : fileName name = some name := by
  rw [UnixPath.fileName, normal.components]
  rfl

/-- The last component of a path is a name if it is anything that has one. -/
theorem normal_of_fileName {path : String} (hname : UnixPath.fileName path = some name) :
    Normal name := by
  have hlast : (UnixPath.components path).getLast? = some (.normal name) := by
    rw [UnixPath.fileName] at hname
    split at hname
    case h_1 last hlast =>
      obtain rfl := Option.some.inj hname
      exact hlast
    case h_2 => cases hname
  have hmem : Component.normal name ∈ (UnixPath.parts path.toList).filterMap
      UnixPath.component := by
    rcases List.mem_append.mp (List.mem_of_getLast? hlast) with hstart | hnamed
    · unfold start at hstart
      split at hstart
      · simp at hstart
      · split at hstart <;> simp at hstart
    · exact hnamed
  obtain ⟨part, hpart, hcomponent⟩ := List.mem_filterMap.mp hmem
  unfold UnixPath.component at hcomponent
  split at hcomponent
  case isTrue => cases hcomponent
  case isFalse hplain =>
    split at hcomponent
    case isTrue => cases hcomponent
    case isFalse hdots =>
      obtain ⟨hempty, hdot⟩ := not_or.mp hplain
      obtain rfl : String.ofList part = name := by simpa using hcomponent
      refine ⟨fun h ↦ hempty ?_, ?_, fun h ↦ hdot ?_, fun h ↦ hdots ?_⟩
      · simpa using congrArg String.toList h
      · rw [String.toList_ofList]
        exact separator_notMem hpart
      · simpa using congrArg String.toList h
      · simpa using congrArg String.toList h

/-- A normal name is its stem, or its stem and its extension around a dot. -/
theorem Normal.stem (normal : Normal name) :
    (fileStem name = some name ∧ extension name = none) ∨
      ∃ stem rest, fileStem name = some stem ∧ extension name = some rest ∧
        name = stem ++ "." ++ rest := by
  rw [fileStem, extension, normal.fileName, Option.bind_some, Option.bind_some, rsplitFileAtDot,
    if_neg normal.notParent]
  cases hsplit : rsplitOnce '.' name.toList with
  | none => exact .inl ⟨rfl, rfl⟩
  | some found =>
    obtain ⟨before, after⟩ := found
    cases before with
    | nil => exact .inl ⟨rfl, rfl⟩
    | cons first before =>
      refine .inr ⟨String.ofList (first :: before), String.ofList after, rfl, rfl, ?_⟩
      apply String.toList_inj.mp
      rw [rsplitOnce_eq_some hsplit]
      simp

end Names

end BtDaemon.UnixPath
