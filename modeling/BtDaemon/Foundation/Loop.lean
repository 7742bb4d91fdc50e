import BtDaemon.Foundation.Table

/-!
# Loops that can fail

A computation that stops at the first error, and a loop of such computations over a list. What
every turn preserves, a loop that finishes preserves; and a loop whose turns each set the key of
their entry ends with the entries set and everything else as it was.
-/

namespace BtDaemon.Loop

variable {Error State Element : Type} {turn : State → Element → Except Error State}

theorem bind_eq_ok {Before After : Type} {result : Except Error Before}
    {later : Before → Except Error After} {value : After} :
    (result >>= later) = .ok value ↔
      ∃ before, result = .ok before ∧ later before = .ok value := by
  cases result with
  | error error =>
    constructor
    · intro hbind
      cases hbind
    · rintro ⟨before, hbefore, -⟩
      cases hbefore
  | ok before =>
    constructor
    · intro hbind
      exact ⟨before, rfl, hbind⟩
    · rintro ⟨other, hother, hrest⟩
      rw [Except.ok.inj hother]
      exact hrest

theorem bind_eq_error {Before After : Type} {result : Except Error Before}
    {later : Before → Except Error After} {error : Error} :
    (result >>= later) = .error error ↔
      result = .error error ∨ ∃ before, result = .ok before ∧ later before = .error error := by
  cases result with
  | error other =>
    constructor
    · intro hbind
      exact Or.inl (congrArg Except.error (Except.error.inj hbind))
    · rintro (herror | ⟨before, hbefore, -⟩)
      · exact congrArg Except.error (Except.error.inj herror)
      · cases hbefore
  | ok before =>
    constructor
    · intro hbind
      exact Or.inr ⟨before, rfl, hbind⟩
    · rintro (herror | ⟨other, hother, hrest⟩)
      · cases herror
      · rw [Except.ok.inj hother]
        exact hrest

theorem map_eq_ok {Before After : Type} {result : Except Error Before}
    {change : Before → After} {value : After} :
    result.map change = .ok value ↔ ∃ before, result = .ok before ∧ change before = value := by
  cases result <;> simp [Except.map]

theorem map_eq_error {Before After : Type} {result : Except Error Before}
    {change : Before → After} {error : Error} :
    result.map change = .error error ↔ result = .error error := by
  cases result <;> simp [Except.map]

/-- A loop that collects: every element is accepted, in order. -/
theorem mapM_eq_ok {Source Target : Type} {convert : Source → Except Error Target}
    {sources : List Source} {targets : List Target} :
    sources.mapM convert = .ok targets ↔
      List.Forall₂ (fun source target ↦ convert source = .ok target) sources targets := by
  induction sources generalizing targets with
  | nil =>
    rw [List.forall₂_nil_left_iff, List.mapM_nil]
    exact ⟨fun hnil ↦ (Except.ok.inj hnil).symm, fun hnil ↦ congrArg Except.ok hnil.symm⟩
  | cons source rest ih =>
    rw [List.forall₂_cons_left_iff, List.mapM_cons, bind_eq_ok]
    constructor
    · rintro ⟨target, htarget, hrest⟩
      obtain ⟨later, hlater, hcons⟩ := bind_eq_ok.mp hrest
      exact ⟨target, later, htarget, ih.mp hlater, (Except.ok.inj hcons).symm⟩
    · rintro ⟨target, later, htarget, hlater, rfl⟩
      exact ⟨target, htarget, bind_eq_ok.mpr ⟨later, ih.mpr hlater, rfl⟩⟩

/-- A loop that collects stops only at an element that is refused. -/
theorem mapM_isOk {Source Target : Type} {convert : Source → Except Error Target}
    {sources : List Source}
    (haccepted : ∀ source ∈ sources, ∃ target, convert source = .ok target) :
    ∃ targets, sources.mapM convert = .ok targets := by
  induction sources with
  | nil => exact ⟨[], rfl⟩
  | cons source rest ih =>
    obtain ⟨target, htarget⟩ := haccepted source List.mem_cons_self
    obtain ⟨later, hlater⟩ := ih fun other hother ↦
      haccepted other (List.mem_cons_of_mem _ hother)
    exact ⟨target :: later, mapM_eq_ok.mpr (.cons htarget (mapM_eq_ok.mp hlater))⟩

/-- A loop that collected accepted each of its elements. -/
theorem accepted_of_mapM {Source Target : Type} {convert : Source → Except Error Target}
    {sources : List Source} {targets : List Target} (hloop : sources.mapM convert = .ok targets)
    {source : Source} (hsource : source ∈ sources) : ∃ target, convert source = .ok target := by
  induction mapM_eq_ok.mp hloop with
  | nil => cases hsource
  | cons hfirst hrest ih =>
    rcases List.mem_cons.mp hsource with rfl | hlater
    · exact ⟨_, hfirst⟩
    · exact ih (mapM_eq_ok.mpr hrest) hlater

theorem foldlM_cons_eq_ok {start final : State} {first : Element} {rest : List Element} :
    (first :: rest).foldlM turn start = .ok final ↔
      ∃ next, turn start first = .ok next ∧ rest.foldlM turn next = .ok final := by
  rw [List.foldlM_cons]
  exact bind_eq_ok

theorem foldlM_invariant {Invariant : State → Prop}
    (hturn : ∀ state element next, Invariant state → turn state element = .ok next →
      Invariant next)
    {elements : List Element} {start final : State} (hstart : Invariant start)
    (hloop : elements.foldlM turn start = .ok final) : Invariant final := by
  induction elements generalizing start with
  | nil =>
    obtain rfl : start = final := Except.ok.inj hloop
    exact hstart
  | cons first rest ih =>
    obtain ⟨next, hfirst, hrest⟩ := foldlM_cons_eq_ok.mp hloop
    exact ih (hturn start first next hstart hfirst) hrest

/-- A loop that finishes has accepted every element. -/
theorem accepted_of_foldlM {elements : List Element} {start final : State}
    (hloop : elements.foldlM turn start = .ok final) {element : Element}
    (hmem : element ∈ elements) : ∃ state next, turn state element = .ok next := by
  induction elements generalizing start with
  | nil => cases hmem
  | cons first rest ih =>
    obtain ⟨next, hfirst, hrest⟩ := foldlM_cons_eq_ok.mp hloop
    rcases List.mem_cons.mp hmem with rfl | hlater
    · exact ⟨start, next, hfirst⟩
    · exact ih hrest hlater

/-- A loop that fails has failed in one of its turns. -/
theorem failed_of_foldlM {elements : List Element} {start : State} {error : Error}
    (hloop : elements.foldlM turn start = .error error) :
    ∃ state, ∃ element ∈ elements, turn state element = .error error := by
  induction elements generalizing start with
  | nil => cases hloop
  | cons first rest ih =>
    rw [List.foldlM_cons] at hloop
    rcases bind_eq_error.mp hloop with hfirst | ⟨next, -, hrest⟩
    · exact ⟨start, first, List.mem_cons_self, hfirst⟩
    · obtain ⟨state, element, hmem, hfailed⟩ := ih hrest
      exact ⟨state, element, List.mem_cons_of_mem first hmem, hfailed⟩

section Keyed

variable {Key Value Seen : Type} [DecidableEq Key]
  {setKey : State → (Sigma fun _ : Key ↦ Value) → Except Error State}
  {seen : State → Key → Option Seen} {effect : Value → Option Seen}

/-- A loop over the entries of a table sets exactly the keys of the table. -/
theorem seen_of_foldlM
    (hturn : ∀ state entry next, setKey state entry = .ok next →
      ∀ key, seen next key = if key = entry.1 then effect entry.2 else seen state key)
    (table : Table Key Value) {start final : State}
    (hloop : table.entries.foldlM setKey start = .ok final) (key : Key) :
    seen final key = (table.lookup key).elim (seen start key) effect := by
  obtain ⟨entries, hnodup⟩ := table
  change seen final key = (entries.dlookup key).elim (seen start key) effect
  induction entries generalizing start with
  | nil =>
    obtain rfl : start = final := Except.ok.inj hloop
    rfl
  | cons entry rest ih =>
    obtain ⟨next, hfirst, hrest⟩ := foldlM_cons_eq_ok.mp hloop
    obtain ⟨hnew, hrestNodup⟩ := List.nodupKeys_cons.mp hnodup
    have hfinal := ih hrestNodup hrest
    have hnext := hturn start entry next hfirst key
    obtain ⟨name, value⟩ := entry
    by_cases hkey : key = name
    · subst hkey
      rw [List.dlookup_eq_none.mpr hnew] at hfinal
      rw [List.dlookup_cons_eq, hfinal, Option.elim_none, hnext, if_pos rfl]
      rfl
    · rw [List.dlookup_cons_ne _ _ hkey, hfinal, hnext, if_neg hkey]

end Keyed

end BtDaemon.Loop
