import Mathlib.Algebra.GroupWithZero.Nat
import Mathlib.Data.List.Basic

/-!
# Sliding windows

A log of timed items in the order of their instants, and the half-open windows of one width over
it. A limiter keeps only the items that are recent at the current instant and refuses an item
when it keeps as many as the limit: this bounds every window of the whole log, and it refuses
nothing that every window had room for.
-/

namespace BtDaemon.Window

variable {Item : Type} (time : Item → ℕ) (width : ℕ)

/-- The items of the log in the window that starts here. -/
def within (start : ℕ) (log : List Item) : List Item :=
  log.filter fun item ↦ decide (start ≤ time item ∧ time item < start + width)

/-- The items of the log that are younger than the width. -/
def recent (now : ℕ) (log : List Item) : List Item :=
  log.filter fun item ↦ decide (now - time item < width)

/-- No window of the log holds more items than the limit. -/
def Bounded (limit : ℕ) (log : List Item) : Prop :=
  ∀ start, (within time width start log).length ≤ limit

/-- The items of the log are not in the future. -/
def Past (now : ℕ) (log : List Item) : Prop :=
  ∀ item ∈ log, time item ≤ now

variable {time width}

theorem Past.mono {earlier now : ℕ} {log : List Item} (hpast : Past time earlier log)
    (hnow : earlier ≤ now) : Past time now log :=
  fun item hitem ↦ Nat.le_trans (hpast item hitem) hnow

theorem Past.concat {now : ℕ} {log : List Item} {item : Item} (hpast : Past time now log)
    (hitem : time item ≤ now) : Past time now (log ++ [item]) := by
  intro other hother
  rcases List.mem_append.mp hother with hold | hnew
  · exact hpast other hold
  · rw [List.mem_singleton.mp hnew]
    exact hitem

theorem bounded_nil (limit : ℕ) : Bounded time width limit [] := fun _ ↦ Nat.zero_le _

/-- What is recent is what the window that ends now holds. -/
theorem recent_eq_within {now : ℕ} {log : List Item}
    (hpast : Past time now log) :
    recent time width now log = within time width (now + 1 - width) log := by
  apply List.filter_congr
  intro item hitem
  have hold := hpast item hitem
  have hsame : now - time item < width ↔
      now + 1 - width ≤ time item ∧ time item < now + 1 - width + width := by omega
  exact decide_eq_decide.mpr hsame

/-- Dropping what is old already changes nothing later. -/
theorem recent_recent {earlier now : ℕ} (hnow : earlier ≤ now) (log : List Item) :
    recent time width now (recent time width earlier log) = recent time width now log := by
  unfold recent
  rw [List.filter_filter]
  apply List.filter_congr
  intro item _
  have hyounger : now - time item < width → earlier - time item < width := by omega
  simpa using hyounger

theorem recent_concat (hwidth : 0 < width) {now : ℕ} (log : List Item) {item : Item}
    (hitem : time item = now) :
    recent time width now (log ++ [item]) = recent time width now log ++ [item] := by
  simp [recent, hitem, hwidth]

theorem within_concat (start : ℕ) (log : List Item) (item : Item) :
    within time width start (log ++ [item]) = within time width start log ++
      if start ≤ time item ∧ time item < start + width then [item] else [] := by
  unfold within
  rw [List.filter_append]
  by_cases hitem : start ≤ time item ∧ time item < start + width
  · simp [hitem]
  · rw [if_neg hitem, List.filter_cons, if_neg (by simpa using hitem), List.filter_nil]

variable (time width) in
/-- What a limiter kept of the log when it last dropped what was old. -/
def Keeps (now : ℕ) (kept log : List Item) : Prop :=
  ∃ earlier, earlier ≤ now ∧ kept = recent time width earlier log

theorem Keeps.recent_eq {earlier now : ℕ} {kept log : List Item}
    (hkeeps : Keeps time width earlier kept log) (hnow : earlier ≤ now) :
    recent time width now kept = recent time width now log := by
  obtain ⟨before, hbefore, rfl⟩ := hkeeps
  exact recent_recent (Nat.le_trans hbefore hnow) log

theorem Keeps.mono {earlier now : ℕ} {kept log : List Item}
    (hkeeps : Keeps time width earlier kept log) (hnow : earlier ≤ now) :
    Keeps time width now kept log := by
  obtain ⟨before, hbefore, hkept⟩ := hkeeps
  exact ⟨before, Nat.le_trans hbefore hnow, hkept⟩

theorem keeps_recent (now : ℕ) (log : List Item) :
    Keeps time width now (recent time width now log) log :=
  ⟨now, Nat.le_refl now, rfl⟩

theorem keeps_concat (hwidth : 0 < width) {now : ℕ} (log : List Item) {item : Item}
    (hitem : time item = now) :
    Keeps time width now (recent time width now log ++ [item]) (log ++ [item]) :=
  ⟨now, Nat.le_refl now, (recent_concat hwidth log hitem).symm⟩

/-- With room among the recent items every window has room for one more. -/
theorem Bounded.concat {limit now : ℕ} {log : List Item} {item : Item}
    (hbounded : Bounded time width limit log) (hitem : time item = now)
    (hroom : (recent time width now log).length < limit) :
    Bounded time width limit (log ++ [item]) := by
  intro start
  rw [within_concat]
  by_cases hinside : start ≤ time item ∧ time item < start + width
  · rw [if_pos hinside, List.length_append, List.length_singleton]
    have hsub : (within time width start log).Sublist (recent time width now log) := by
      apply List.monotone_filter_right
      intro other hother
      have hwindow := of_decide_eq_true hother
      exact decide_eq_true (by omega)
    have hlength := hsub.length_le
    omega
  · rw [if_neg hinside, List.append_nil]
    exact hbounded start

/-- Without room among the recent items one more breaks the bound. -/
theorem not_bounded_concat (hwidth : 0 < width) {limit now : ℕ} {log : List Item} {item : Item}
    (hpast : Past time now log) (hitem : time item = now)
    (hfull : limit ≤ (recent time width now log).length) :
    ¬ Bounded time width limit (log ++ [item]) := by
  intro hbounded
  have hwindow := hbounded (now + 1 - width)
  rw [within_concat, ← recent_eq_within hpast, if_pos (by omega), List.length_append,
    List.length_singleton] at hwindow
  omega

end BtDaemon.Window
