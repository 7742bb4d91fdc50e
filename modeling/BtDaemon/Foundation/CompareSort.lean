import Mathlib.Data.List.Nodup
import Mathlib.Tactic.Common

/-!
# Sorting by a comparison

A list sorted by a comparison is a matter of its elements alone, and not of the order in which
they came, as soon as elements that compare as equal are the same. A search from the front of the
sorted list finds the least element of its kind.
-/

namespace BtDaemon.CompareSort

variable {Element Key : Type} (cmp : Element → Element → Ordering)

/-- A stable sort by the comparison (`sort_by`). -/
def sortBy (elements : List Element) : List Element :=
  elements.mergeSort fun first second ↦ (cmp first second).isLE

theorem sortBy_perm (elements : List Element) : (sortBy cmp elements).Perm elements :=
  List.mergeSort_perm ..

section Ordered

variable [Std.TransCmp cmp]

theorem pairwise_sortBy (elements : List Element) :
    (sortBy cmp elements).Pairwise fun first second ↦ (cmp first second).isLE := by
  refine List.pairwise_mergeSort ?_ ?_ elements
  · intro first second third hfirst hsecond
    exact Std.TransCmp.isLE_trans hfirst hsecond
  · intro first second
    have hswap : cmp second first = (cmp first second).swap := Std.OrientedCmp.eq_swap
    rw [hswap]
    cases cmp first second <;> rfl

omit [Std.TransCmp cmp] in
/-- A sorted list stays as it is. -/
theorem sortBy_of_pairwise {elements : List Element}
    (hsorted : elements.Pairwise fun first second ↦ (cmp first second).isLE) :
    sortBy cmp elements = elements :=
  List.mergeSort_of_pairwise hsorted

variable {cmp}

/-- The order in which the elements came is lost. -/
theorem sortBy_eq_of_perm {elements others : List Element}
    (hdistinct : ∀ first ∈ elements, ∀ second ∈ elements,
      cmp first second = .eq → first = second)
    (hperm : elements.Perm others) : sortBy cmp elements = sortBy cmp others := by
  refine List.Perm.eq_of_pairwise ?_ (pairwise_sortBy cmp elements) (pairwise_sortBy cmp others) ?_
  · intro first second hfirst hsecond hle hge
    have hone := (sortBy_perm cmp elements).mem_iff.mp hfirst
    have htwo := hperm.mem_iff.mpr ((sortBy_perm cmp others).mem_iff.mp hsecond)
    exact hdistinct first hone second htwo (Std.OrientedCmp.isLE_antisymm hle hge)
  · exact ((sortBy_perm cmp elements).trans hperm).trans (sortBy_perm cmp others).symm

/-- Elements of distinct keys are distinct to a comparison that looks at the key. -/
theorem sortBy_eq_of_keys {key : Element → Key}
    (hkey : ∀ first second, cmp first second = .eq → key first = key second)
    {elements others : List Element} (hnodup : (elements.map key).Nodup)
    (hperm : elements.Perm others) : sortBy cmp elements = sortBy cmp others :=
  sortBy_eq_of_perm (fun first hfirst second hsecond heq ↦
    List.inj_on_of_nodup_map hnodup hfirst hsecond (hkey first second heq)) hperm

/-- What a search finds first is the least that it could find. -/
theorem find?_sortBy {select : Element → Bool} {elements : List Element} {found : Element}
    (hfound : (sortBy cmp elements).find? select = some found) :
    found ∈ elements ∧ select found ∧
      ∀ other ∈ elements, select other → (cmp found other).isLE := by
  obtain ⟨hselect, before, after, hsplit, hbefore⟩ := List.find?_eq_some_iff_append.mp hfound
  have hmem : ∀ element, element ∈ elements ↔ element ∈ before ++ found :: after := fun element ↦ by
    rw [← hsplit, (sortBy_perm cmp elements).mem_iff]
  have hsorted := pairwise_sortBy cmp elements
  rw [hsplit] at hsorted
  refine ⟨(hmem found).mpr (by simp), hselect, ?_⟩
  intro other hother hchosen
  rcases List.mem_append.mp ((hmem other).mp hother) with hearlier | hlater
  · have hnot := hbefore other hearlier
    rw [hchosen] at hnot
    cases hnot
  · rcases List.mem_cons.mp hlater with rfl | hafter
    · have hself : cmp other other = .eq := Std.ReflCmp.compare_self
      rw [hself]
      rfl
    · exact (List.pairwise_cons.mp (List.pairwise_append.mp hsorted).2.1).1 other hafter

end Ordered

/-- A view that the comparison does not distinguish can be taken before or after the sort. -/
theorem map_sortBy {View : Type} (view : Element → View) (viewCmp : View → View → Ordering)
    (hview : ∀ first second, viewCmp (view first) (view second) = cmp first second)
    (elements : List Element) :
    (sortBy cmp elements).map view = sortBy viewCmp (elements.map view) := by
  refine List.map_mergeSort ?_
  intro first _ second _
  rw [hview]

end BtDaemon.CompareSort
