import Mathlib.Algebra.Order.Floor.Ring
import Mathlib.Data.List.Sort

/-!
# Order statistics of a list

Percentiles by the nearest rank: of `n` values in ascending order, the one of rank `⌈p n⌉`, counting
from one. Nothing is interpolated, so a percentile is one of the values, duplicates or not; and for a
share `p` in `(0, 1]` the rank is one of `1, …, n`.
-/

namespace Ranks

/-! ## Positions of an ascending list -/

section Ascending

variable {α : Type*} [LinearOrder α] {l : List α} {k : ℕ} {v : α}

/-- The positions up to `k` hold values up to the one at `k`. -/
theorem lt_countP_le (hl : l.Pairwise (· ≤ ·)) (h : l[k]? = some v) : k < l.countP (· ≤ v) := by
  obtain ⟨hk, rfl⟩ := List.getElem?_eq_some_iff.mp h
  have hall : ∀ x ∈ l.take (k + 1), decide (x ≤ l[k]) = true := by
    intro x hx
    obtain ⟨i, hi, rfl⟩ := List.mem_take_iff_getElem.mp hx
    apply decide_eq_true
    exact hl.sortedLE.getElem_le_getElem_of_le (by omega)
  have hcount : (l.take (k + 1)).countP (· ≤ l[k]) = k + 1 := by
    rw [List.countP_eq_length.mpr hall]
    exact List.length_take_of_le hk
  apply Nat.lt_of_succ_le
  rw [← Nat.add_one, ← hcount]
  exact (List.take_sublist _ _).countP_le

/-- From `k` on no value is below the one at `k`. -/
theorem countP_lt_le (hl : l.Pairwise (· ≤ ·)) (h : l[k]? = some v) : l.countP (· < v) ≤ k := by
  obtain ⟨hk, rfl⟩ := List.getElem?_eq_some_iff.mp h
  have hnone : (l.drop k).countP (· < l[k]) = 0 := by
    rw [List.countP_eq_zero]
    intro x hx
    obtain ⟨i, hi, rfl⟩ := List.mem_drop_iff_getElem.mp hx
    rw [decide_eq_true_eq, not_lt]
    exact hl.sortedLE.getElem_le_getElem_of_le (by omega)
  calc l.countP (· < l[k])
      = (l.take k).countP (· < l[k]) + (l.drop k).countP (· < l[k]) := by
        rw [← List.countP_append, List.take_append_drop]
    _ = (l.take k).countP (· < l[k]) := by rw [hnone, Nat.add_zero]
    _ ≤ (l.take k).length := List.countP_le_length
    _ ≤ k := List.length_take_le k l

end Ascending

/-! ## The nearest rank -/

section Rank

variable {R : Type*} [Field R] [LinearOrder R] [IsStrictOrderedRing R] [FloorRing R]
  {p : R} {n : ℕ}

/-- The rank of the share `p` of `n` values, counting from one. -/
def nearestRank (p : R) (n : ℕ) : ℤ := ⌈p * n⌉

theorem one_le_nearestRank (hp : 0 < p) (hn : 0 < n) : 1 ≤ nearestRank p n := by
  apply Int.one_le_ceil_iff.mpr
  exact mul_pos hp (Nat.cast_pos.mpr hn)

theorem nearestRank_le (hp : p ≤ 1) : nearestRank p n ≤ n := by
  apply Int.ceil_le.mpr
  rw [Int.cast_natCast]
  exact mul_le_of_le_one_left (Nat.cast_nonneg n) hp

/-- Where the value of that rank stands. -/
def rankIndex (p : R) (n : ℕ) : ℕ := (nearestRank p n - 1).toNat

theorem rankIndex_lt (hp : p ≤ 1) (hn : 0 < n) : rankIndex p n < n := by
  have hle : nearestRank p n ≤ n := nearestRank_le hp
  unfold rankIndex
  omega

theorem cast_rankIndex (hp : 0 < p) (hn : 0 < n) : (rankIndex p n : ℤ) = nearestRank p n - 1 := by
  have hone := one_le_nearestRank hp hn
  unfold rankIndex
  omega

/-- The index has passed the share. -/
theorem le_rankIndex_add_one (hp : 0 < p) (hn : 0 < n) : p * n ≤ (rankIndex p n : R) + 1 := by
  have hrank : (rankIndex p n : ℤ) + 1 = ⌈p * n⌉ := by
    rw [cast_rankIndex hp hn, nearestRank, sub_add_cancel]
  calc p * n ≤ (⌈p * n⌉ : R) := Int.le_ceil _
    _ = ((rankIndex p n : ℤ) + 1 : ℤ) := by rw [hrank]
    _ = (rankIndex p n : R) + 1 := by push_cast; rfl

/-- It is the first one to do so. -/
theorem rankIndex_lt_mul (hp : 0 < p) (hn : 0 < n) : (rankIndex p n : R) < p * n := by
  have hrank : ((rankIndex p n : ℤ) : R) = (⌈p * n⌉ : R) - 1 := by
    rw [cast_rankIndex hp hn, nearestRank, Int.cast_sub, Int.cast_one]
  rw [← Int.cast_natCast, hrank, sub_lt_iff_lt_add]
  exact Int.ceil_lt_add_one _

end Rank

/-! ## Percentiles -/

section Percentile

variable {R : Type*} [Field R] [LinearOrder R] {α : Type*} [LinearOrder α] {p : R} {l l' : List α}
  {v : α}

/-- A value among them: the share `p` of the values is up to it, and less than that below it. -/
structure IsPercentile (p : R) (l : List α) (v : α) : Prop where
  mem : v ∈ l
  upTo : p * l.length ≤ l.countP (· ≤ v)
  below : (l.countP (· < v) : R) < p * l.length

theorem IsPercentile.of_perm (h : IsPercentile p l v) (hl : l.Perm l') : IsPercentile p l' v where
  mem := hl.mem_iff.mp h.mem
  upTo := by
    rw [← hl.length_eq, ← hl.countP_eq]
    exact h.upTo
  below := by
    rw [← hl.length_eq, ← hl.countP_eq]
    exact h.below

variable [IsStrictOrderedRing R] [FloorRing R]

/-- In an ascending list it stands at the index of the rank. -/
theorem isPercentile_of_ascending (hl : l.Pairwise (· ≤ ·)) (hp : 0 < p)
    (h : l[rankIndex p l.length]? = some v) : IsPercentile p l v := by
  have hn : 0 < l.length := Nat.zero_lt_of_lt (List.getElem?_eq_some_iff.mp h).1
  refine ⟨List.mem_of_getElem? h, ?_, ?_⟩
  · calc p * l.length ≤ (rankIndex p l.length : R) + 1 := le_rankIndex_add_one hp hn
      _ ≤ l.countP (· ≤ v) := by exact_mod_cast lt_countP_le hl h
  · calc (l.countP (· < v) : R) ≤ rankIndex p l.length := by exact_mod_cast countP_lt_le hl h
      _ < p * l.length := rankIndex_lt_mul hp hn

/-- **Sorting and reading at the index** gives the percentile of any list that is not empty. -/
theorem exists_isPercentile (hp : 0 < p) (hp' : p ≤ 1) (hl : l ≠ []) :
    ∃ v, (l.insertionSort (· ≤ ·))[rankIndex p l.length]? = some v ∧ IsPercentile p l v := by
  have hlen : (l.insertionSort (· ≤ ·)).length = l.length := List.length_insertionSort _ _
  have hk : rankIndex p l.length < (l.insertionSort (· ≤ ·)).length := by
    rw [hlen]
    exact rankIndex_lt hp' (List.length_pos_iff.mpr hl)
  refine ⟨_, List.getElem?_eq_getElem hk, ?_⟩
  apply (isPercentile_of_ascending (List.pairwise_insertionSort (· ≤ ·) l) hp ?_).of_perm
    (List.perm_insertionSort _ _)
  rw [hlen]
  exact List.getElem?_eq_getElem hk

end Percentile

end Ranks
