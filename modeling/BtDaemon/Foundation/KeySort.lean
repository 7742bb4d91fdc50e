import Mathlib.Data.List.Destutter
import Mathlib.Data.Nat.Basic

/-!
# Stable sorting by a key

Core's merge sort is stable, so sorting by a key puts the classes of equal keys one after another
and leaves each class as it was. Collapsing runs of equal neighbours then works class by class.
-/

namespace BtDaemon.KeySort

variable {Element : Type}

/-- A stable sort by the key (`sort_by_key`). -/
def sortByKey (key : Element → ℕ) (elements : List Element) : List Element :=
  elements.mergeSort fun first second ↦ decide (key first ≤ key second)

/-- The elements with one key, in their order. -/
def ofKey (key : Element → ℕ) (value : ℕ) (elements : List Element) : List Element :=
  elements.filter fun element ↦ decide (key element = value)

variable {key : Element → ℕ}

theorem pairwise_sortByKey (elements : List Element) :
    (sortByKey key elements).Pairwise fun first second ↦ key first ≤ key second := by
  have hsorted : (sortByKey key elements).Pairwise fun first second ↦
      decide (key first ≤ key second) = true := List.pairwise_mergeSort
    (by simpa using fun _ _ _ ↦ Nat.le_trans) (by simpa using fun _ _ ↦ Nat.le_total _ _) elements
  exact hsorted.imp of_decide_eq_true

/-- The sort leaves each class as it was. -/
theorem ofKey_sortByKey (value : ℕ) (elements : List Element) :
    ofKey key value (sortByKey key elements) = ofKey key value elements := by
  have hclass : (ofKey key value elements).Pairwise fun first second ↦
      decide (key first ≤ key second) = true := by
    apply List.pairwise_of_forall_mem_list
    intro first hfirst second hsecond
    have hone := of_decide_eq_true (List.mem_filter.mp hfirst).2
    have htwo := of_decide_eq_true (List.mem_filter.mp hsecond).2
    exact decide_eq_true (Nat.le_of_eq (hone.trans htwo.symm))
  have hsub : (ofKey key value elements).Sublist (sortByKey key elements) :=
    List.sublist_mergeSort (by simpa using fun _ _ _ ↦ Nat.le_trans)
      (by simpa using fun _ _ ↦ Nat.le_total _ _) hclass List.filter_sublist
  have hfiltered := hsub.filter fun element ↦ decide (key element = value)
  rw [ofKey, List.filter_filter] at hfiltered
  simp only [Bool.and_self] at hfiltered
  refine (hfiltered.eq_of_length ?_).symm
  exact ((List.mergeSort_perm elements _).filter _).length_eq.symm

/-- The class of the next key follows everything below it. -/
theorem filter_lt_succ {elements : List Element}
    (hsorted : elements.Pairwise fun first second ↦ key first ≤ key second) (bound : ℕ) :
    elements.filter (fun element ↦ decide (key element < bound + 1)) =
      elements.filter (fun element ↦ decide (key element < bound)) ++
        ofKey key bound elements := by
  induction elements with
  | nil => rfl
  | cons element rest ih =>
    obtain ⟨hfirst, hrest⟩ := List.pairwise_cons.mp hsorted
    by_cases hbelow : key element < bound
    · have hnot : ¬ key element = bound := Nat.ne_of_lt hbelow
      have hstill : key element < bound + 1 := Nat.lt_succ_of_lt hbelow
      simp only [ofKey, List.filter_cons, hbelow, hnot, hstill, decide_true, decide_false, if_true,
        Bool.false_eq_true, if_false, List.cons_append]
      rw [ih hrest]
      rfl
    · have hfrom : ∀ other ∈ element :: rest, bound ≤ key other := by
        intro other hother
        rcases List.mem_cons.mp hother with rfl | hlater
        · exact Nat.le_of_not_lt hbelow
        · exact Nat.le_trans (Nat.le_of_not_lt hbelow) (hfirst other hlater)
      have hempty : (element :: rest).filter (fun other ↦ decide (key other < bound)) = [] := by
        apply List.filter_eq_nil_iff.mpr
        intro other hother
        simpa using hfrom other hother
      rw [hempty, List.nil_append]
      apply List.filter_congr
      intro other hother
      have hlow := hfrom other hother
      exact decide_eq_decide.mpr (by omega)

/-- A sorted list is its classes one after another. -/
theorem eq_flatMap_ofKey {elements : List Element}
    (hsorted : elements.Pairwise fun first second ↦ key first ≤ key second) {bound : ℕ}
    (hbound : ∀ element ∈ elements, key element < bound) :
    elements = (List.range bound).flatMap fun value ↦ ofKey key value elements := by
  have hbelow : ∀ limit, elements.filter (fun element ↦ decide (key element < limit)) =
      (List.range limit).flatMap fun value ↦ ofKey key value elements := by
    intro limit
    induction limit with
    | zero => simp
    | succ limit ih =>
      rw [filter_lt_succ hsorted, ih, List.range_succ, List.flatMap_append, List.flatMap_singleton]
  calc elements
    _ = elements.filter (fun element ↦ decide (key element < bound)) :=
      (List.filter_eq_self.mpr fun element helement ↦
        decide_eq_true (hbound element helement)).symm
    _ = _ := hbelow bound

/-- What the sort produces. -/
theorem sortByKey_eq {elements : List Element} {bound : ℕ}
    (hbound : ∀ element ∈ elements, key element < bound) :
    sortByKey key elements =
      (List.range bound).flatMap fun value ↦ ofKey key value elements := by
  have hsame : ∀ element ∈ sortByKey key elements, key element < bound :=
    fun element helement ↦ hbound element (List.mem_mergeSort.mp helement)
  rw [eq_flatMap_ofKey (pairwise_sortByKey elements) hsame]
  simp only [ofKey_sortByKey]

/-! ## Runs of equal neighbours -/

section Dedup

variable [DecidableEq Element]

/-- Keep one of each run of equal neighbours (`Vec::dedup`). -/
def dedup (elements : List Element) : List Element := elements.destutter (· ≠ ·)

theorem dedup_dedup (elements : List Element) : dedup (dedup elements) = dedup elements :=
  List.destutter_idem ..

theorem dedup_cons_self (element : Element) (rest : List Element) :
    dedup (element :: element :: rest) = dedup (element :: rest) :=
  List.destutter'_cons_neg rest (not_not.mpr rfl)

theorem dedup_cons_of_ne {element : Element} {rest : List Element}
    (hrest : rest.head? ≠ some element) : dedup (element :: rest) = element :: dedup rest := by
  cases rest with
  | nil => rfl
  | cons next later =>
    have hne : element ≠ next := by
      rintro rfl
      exact hrest rfl
    exact List.destutter'_cons_pos later hne

/-- A run of one element collapses, whatever follows it. -/
theorem dedup_append {element : Element} {run rest : List Element}
    (hrun : ∀ other ∈ run, other = element) (hrest : rest.head? ≠ some element) :
    dedup (run ++ rest) = run.head?.toList ++ dedup rest := by
  induction run with
  | nil => rfl
  | cons first later ih =>
    obtain rfl := hrun first List.mem_cons_self
    have hlater := fun other hother ↦ hrun other (List.mem_cons_of_mem first hother)
    cases later with
    | nil => exact dedup_cons_of_ne hrest
    | cons second others =>
      obtain rfl := hlater second List.mem_cons_self
      rw [List.cons_append, List.cons_append, dedup_cons_self]
      exact ih hlater

/-- A class that is one element comes down to it, if it is there at all. -/
theorem head_ofKey {element : Element} {value : ℕ}
    (hclass : ∀ other, key other = value ↔ other = element) (elements : List Element) :
    (ofKey key value elements).head?.toList = if element ∈ elements then [element] else [] := by
  have hmem : ∀ other ∈ ofKey key value elements, other = element := fun other hother ↦
    (hclass other).mp (of_decide_eq_true (List.mem_filter.mp hother).2)
  by_cases hthere : element ∈ elements
  · have hin : element ∈ ofKey key value elements :=
      List.mem_filter.mpr ⟨hthere, decide_eq_true ((hclass element).mpr rfl)⟩
    rw [if_pos hthere]
    cases hlist : ofKey key value elements with
    | nil => simp [hlist] at hin
    | cons first rest =>
      rw [hlist] at hmem
      rw [hmem first List.mem_cons_self]
      rfl
  · rw [if_neg hthere]
    have hempty : ofKey key value elements = [] := by
      apply List.eq_nil_iff_forall_not_mem.mpr
      intro other hother
      exact hthere (hmem other hother ▸ (List.mem_filter.mp hother).1)
    rw [hempty]
    rfl

/-- The class in front of others collapses to its element. -/
theorem dedup_ofKey_append {element : Element} {value : ℕ}
    (hclass : ∀ other, key other = value ↔ other = element) (elements : List Element)
    {rest : List Element} (hrest : ∀ other ∈ rest, key other ≠ value) :
    dedup (ofKey key value elements ++ rest) =
      (if element ∈ elements then [element] else []) ++ dedup rest := by
  rw [← head_ofKey hclass elements]
  apply dedup_append
  · intro other hother
    exact (hclass other).mp (of_decide_eq_true (List.mem_filter.mp hother).2)
  · intro hhead
    exact hrest element (List.mem_of_mem_head? hhead) ((hclass element).mpr rfl)

end Dedup

end BtDaemon.KeySort
