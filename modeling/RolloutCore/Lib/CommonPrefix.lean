import Mathlib.Data.List.Basic
import Mathlib.Order.Bounds.Defs

/-!
# The common beginning of two lists

How far two lists agree, as a position: `agreement` counts the positions before the first at which
they differ, a list that has ended counting as different from one that goes on. It is the length of
the longest common prefix, and the lists differ there unless they are the same.
-/

namespace CommonPrefix

variable {α : Type*} [DecidableEq α] {l l' : List α} {n : ℕ}

/-- The length of the longest common prefix. -/
def agreement : List α → List α → ℕ
  | a :: l, b :: l' => if a = b then agreement l l' + 1 else 0
  | _, _ => 0

/-- Before it the lists agree. -/
theorem getElem?_eq (h : n < agreement l l') : l[n]? = l'[n]? := by
  induction l generalizing l' n with
  | nil => simp [agreement] at h
  | cons a l ih =>
    cases l' with
    | nil => simp [agreement] at h
    | cons b l' =>
      unfold agreement at h
      split_ifs at h with hab
      · cases n with
        | zero => simp [hab]
        | succ n => exact ih (Nat.lt_of_succ_lt_succ h)
      · omega

/-- At it they differ, unless they are the same. -/
theorem getElem?_ne (h : l ≠ l') : l[agreement l l']? ≠ l'[agreement l l']? := by
  induction l generalizing l' with
  | nil =>
    cases l' with
    | nil => exact absurd rfl h
    | cons b l' => simp [agreement]
  | cons a l ih =>
    cases l' with
    | nil => simp [agreement]
    | cons b l' =>
      unfold agreement
      split_ifs with hab
      · subst hab
        exact ih fun heq => h (congrArg (a :: ·) heq)
      · simpa using hab

theorem agreement_le_left (l l' : List α) : agreement l l' ≤ l.length := by
  induction l generalizing l' with
  | nil => simp [agreement]
  | cons a l ih =>
    cases l' with
    | nil => simp [agreement]
    | cons b l' =>
      unfold agreement
      split_ifs
      · exact Nat.succ_le_succ (ih l')
      · exact Nat.zero_le _

theorem agreement_comm (l l' : List α) : agreement l l' = agreement l' l := by
  induction l generalizing l' with
  | nil => cases l' <;> rfl
  | cons a l ih =>
    cases l' with
    | nil => rfl
    | cons b l' =>
      unfold agreement
      rw [ih l']
      simp only [eq_comm]

theorem agreement_le_right (l l' : List α) : agreement l l' ≤ l'.length := by
  rw [agreement_comm]
  exact agreement_le_left l' l

theorem agreement_self (l : List α) : agreement l l = l.length := by
  induction l with
  | nil => rfl
  | cons a l ih => simp [agreement, ih]

/-- A position before which the lists agree, and at which they differ. -/
theorem agreement_eq (hbefore : ∀ i < n, l[i]? = l'[i]?) (hat : l[n]? ≠ l'[n]?) :
    agreement l l' = n := by
  have hne : l ≠ l' := fun h => hat (by rw [h])
  rcases Nat.lt_trichotomy (agreement l l') n with hlt | heq | hgt
  · exact absurd (hbefore _ hlt) (getElem?_ne hne)
  · exact heq
  · exact absurd (getElem?_eq hgt) hat

theorem take_agreement (l l' : List α) :
    l.take (agreement l l') = l'.take (agreement l l') := by
  apply List.ext_getElem?
  intro i
  rw [List.getElem?_take, List.getElem?_take]
  split_ifs with hi
  · exact getElem?_eq hi
  · rfl

/-- **It is the length of the longest common prefix.** -/
theorem agreement_isGreatest (l l' : List α) :
    IsGreatest { n | ∃ p, p <+: l ∧ p <+: l' ∧ p.length = n } (agreement l l') := by
  constructor
  · refine ⟨l.take (agreement l l'), List.take_prefix _ _, ?_, ?_⟩
    · rw [take_agreement]
      exact List.take_prefix _ _
    · rw [List.length_take, Nat.min_eq_left (agreement_le_left l l')]
  · rintro n ⟨p, hp, hp', rfl⟩
    by_cases heq : l = l'
    · subst heq
      rw [agreement_self]
      exact hp.length_le
    · by_contra hlt
      rw [Nat.not_le] at hlt
      have hread : ∀ {m : List α}, p <+: m → m[agreement l l']? = p[agreement l l']? := by
        rintro m ⟨t, rfl⟩
        exact List.getElem?_append_left hlt
      exact getElem?_ne heq ((hread hp).trans (hread hp').symm)

end CommonPrefix
