import Mathlib.Algebra.Order.BigOperators.Group.List
import Mathlib.Data.Set.List
import RolloutCore.Lib.Ranks
import RolloutCore.ReplayVerdicts

/-!
# The figures of the logprob lane

On ordinary logprobs the figures are those of a list of rationals: its maximum with the first
position that has it, its mean, and its percentile by the nearest rank, the clamp being idle.
-/

namespace RolloutCore

/-! ## Lists of ordinary numbers -/

namespace PyFloat

theorem exists_map_fin {xs : List PyFloat} (h : ∀ x ∈ xs, x.isFinite = true) :
    ∃ qs : List ℚ, qs.map .fin = xs := by
  have hrange : xs ∈ Set.range (List.map PyFloat.fin) := by
    rw [Set.range_list_map]
    intro x hx
    obtain ⟨q, rfl⟩ := isFinite_iff.mp (h x hx)
    exact ⟨q, rfl⟩
  exact hrange

theorem fin_lt (q r : ℚ) : (PyFloat.fin q).lt (.fin r) = decide (q < r) := rfl

theorem max_fin (q r : ℚ) :
    (if (PyFloat.fin q).lt (.fin r) then PyFloat.fin r else .fin q) = .fin (max q r) := by
  rw [fin_lt]
  by_cases h : q < r
  · rw [if_pos (decide_eq_true h), max_eq_right h.le]
  · rw [if_neg (by simpa using h), max_eq_left (not_lt.mp h)]

theorem maxOf_fin (qs : List ℚ) : maxOf (qs.map .fin) = qs.max?.map .fin := by
  cases qs with
  | nil => rfl
  | cons q qs =>
    rw [List.max?_cons', Option.map_some, List.map_cons, maxOf]
    apply congrArg
    induction qs generalizing q with
    | nil => rfl
    | cons r qs ih => rw [List.map_cons, List.foldl_cons, max_fin, ih, List.foldl_cons]

theorem sum_fin (qs : List ℚ) : sum (qs.map .fin) = .fin qs.sum := by
  have hfold : ∀ a : ℚ, (qs.map PyFloat.fin).foldl add (.fin a) = .fin (a + qs.sum) := by
    induction qs with
    | nil =>
      intro a
      rw [List.sum_nil, add_zero]
      rfl
    | cons q qs ih =>
      intro a
      rw [List.map_cons, List.foldl_cons, List.sum_cons, ← add_assoc]
      exact ih (a + q)
  rw [sum, hfold, zero_add]

theorem sorted_fin (qs : List ℚ) :
    sorted (qs.map .fin) = (qs.insertionSort (· ≤ ·)).map .fin := by
  refine (List.map_insertionSort _ _ _ _ fun a _ b _ => ?_).symm
  rw [fin_lt]
  simp

theorem idxOf_fin (qs : List ℚ) (q : ℚ) : (qs.map PyFloat.fin).idxOf (.fin q) = qs.idxOf q := by
  induction qs with
  | nil => rfl
  | cons r qs ih =>
    by_cases h : r = q
    · subst h
      rw [List.map_cons, List.idxOf_cons_self, List.idxOf_cons_self]
    · have hfin : PyFloat.fin r ≠ .fin q := fun heq => h (PyFloat.fin.inj heq)
      rw [List.map_cons, List.idxOf_cons_ne _ hfin, List.idxOf_cons_ne _ h, ih]

end PyFloat

/-- The clamp is idle. -/
theorem p99Index_eq (n : ℕ) : p99Index n = Ranks.rankIndex (99 / 100 : ℚ) n := by
  have hle : Ranks.nearestRank (99 / 100 : ℚ) n ≤ n := Ranks.nearestRank_le (by norm_num)
  unfold p99Index Ranks.rankIndex
  rw [min_eq_right]
  · rfl
  · exact Int.sub_le_sub_right hle 1

/-! ## The figures -/

/-- What the figures say of the deltas: `worst` is the largest, first at `w`; `mean` is their mean;
`p99` is the value of rank `⌈99 n / 100⌉`, with at least 99 percent of the deltas up to it and fewer
below it. -/
structure Figures (δ : List ℚ) (mean worst p99 : ℚ) (w : ℕ) : Prop where
  attained : δ[w]? = some worst
  largest : ∀ d ∈ δ, d ≤ worst
  first : ∀ i < w, δ[i]? ≠ some worst
  mean_eq : mean = δ.sum / δ.length
  mean_le : mean ≤ worst
  rank : 1 ≤ ⌈(99 / 100 : ℚ) * δ.length⌉ ∧ ⌈(99 / 100 : ℚ) * δ.length⌉ ≤ δ.length
  ranked : (δ.insertionSort (· ≤ ·))[(⌈(99 / 100 : ℚ) * δ.length⌉ - 1).toNat]? = some p99
  mem : p99 ∈ δ
  upTo : 99 * δ.length ≤ 100 * δ.countP (· ≤ p99)
  below : 100 * δ.countP (· < p99) < 99 * δ.length

theorem mean_le_max {δ : List ℚ} {worst : ℚ} (hne : δ ≠ []) (h : ∀ d ∈ δ, d ≤ worst) :
    δ.sum / δ.length ≤ worst := by
  have hpos : (0 : ℚ) < δ.length := Nat.cast_pos.mpr (List.length_pos_iff.mpr hne)
  rw [div_le_iff₀ hpos, mul_comm, ← nsmul_eq_mul]
  exact List.sum_le_card_nsmul δ worst h

/-- The position of a value that is there, the first such. -/
theorem getElem?_idxOf {δ : List ℚ} {q : ℚ} (h : q ∈ δ) :
    δ[δ.idxOf q]? = some q ∧ ∀ i < δ.idxOf q, δ[i]? ≠ some q := by
  have hlt : δ.idxOf q < δ.length := List.idxOf_lt_length_of_mem h
  constructor
  · rw [List.getElem?_eq_getElem hlt, List.getElem_idxOf]
  · intro i hi heq
    obtain ⟨hlen, heq⟩ := List.getElem?_eq_some_iff.mp heq
    have hnot : (δ[i] == q) = false := List.not_of_lt_findIdx hi
    rw [heq, beq_self_eq_true] at hnot
    cases hnot

/-- **The figures** of ordinary deltas, if there are any. -/
theorem ofDeltas_fin {δ : List ℚ} (hne : δ ≠ []) : ∃ mean worst p99 w,
    LogprobStatistics.ofDeltas (δ.map .fin) =
      ⟨δ.length, some (.fin mean), some (.fin worst), some (.fin p99), some w⟩ ∧
    Figures δ mean worst p99 w := by
  obtain ⟨worst, hworst⟩ := Option.isSome_iff_exists.mp (List.isSome_max?_of_ne_nil hne)
  obtain ⟨hmem, hlargest⟩ := List.max?_eq_some_iff.mp hworst
  obtain ⟨p99, hp99, hpercentile⟩ :=
    Ranks.exists_isPercentile (p := (99 / 100 : ℚ)) (by norm_num) (by norm_num) hne
  obtain ⟨hattained, hfirst⟩ := getElem?_idxOf hmem
  have hlen : 0 < δ.length := List.length_pos_iff.mpr hne
  refine ⟨δ.sum / δ.length, worst, p99, δ.idxOf worst, ?_, ?_⟩
  · unfold LogprobStatistics.ofDeltas
    rw [PyFloat.maxOf_fin, hworst, PyFloat.sum_fin, PyFloat.sorted_fin, List.length_map,
      p99Index_eq, List.getElem?_map, hp99]
    simp only [Option.map_some, PyFloat.idxOf_fin]
    rfl
  · refine ⟨hattained, hlargest, hfirst, rfl, mean_le_max hne hlargest, ⟨?_, ?_⟩, hp99,
      hpercentile.mem, ?_, ?_⟩
    · exact Ranks.one_le_nearestRank (by norm_num) hlen
    · exact Ranks.nearestRank_le (by norm_num)
    · have hupTo := hpercentile.upTo
      have : (99 : ℚ) * δ.length ≤ 100 * δ.countP (· ≤ p99) := by linarith
      exact_mod_cast this
    · have hbelow := hpercentile.below
      have : (100 : ℚ) * δ.countP (· < p99) < 99 * δ.length := by linarith
      exact_mod_cast this

/-! ## The lane -/

namespace ReplayPlan

variable {plan : ReplayPlan} {o : ReplayObservation}

theorem isFinite_of_mem_deltas (hrec : ∀ r ∈ plan.recordedLogprobs, r.isFinite = true)
    (hobs : ∀ s ∈ o.logprobs, s.isFinite = true) {d : PyFloat} (hd : d ∈ plan.deltas o) :
    d.isFinite = true := by
  obtain ⟨i, hi⟩ := List.mem_iff_getElem?.mp hd
  have hlt : i < plan.compared o := by
    have hlen := (List.getElem?_eq_some_iff.mp hi).1
    rw [deltas, List.length_take] at hlen
    omega
  rw [getElem?_deltas hlt] at hi
  obtain ⟨r, s, hr, hs, -, hfin⟩ := deltaAt_isFinite hi
  rw [hfin, hrec r (List.mem_of_getElem? hr), hobs s (List.mem_of_getElem? hs)]
  rfl

/-- The deltas of a compared lane with ordinary logprobs. -/
theorem exists_deltas (hcomp : plan.logprobLane o = .compared)
    (hrec : ∀ r ∈ plan.recordedLogprobs, r.isFinite = true)
    (hobs : ∀ s ∈ o.logprobs, s.isFinite = true) : ∃ δ : List ℚ, plan.deltas o = δ.map .fin ∧
      δ.length = plan.compared o ∧ ∀ i < plan.compared o, ∃ r s,
        plan.recordedLogprobs[i]? = some (.fin r) ∧ o.logprobs[i]? = some (.fin s) ∧
          δ[i]? = some |r - s| := by
  obtain ⟨δ, hδ⟩ := PyFloat.exists_map_fin fun d hd => isFinite_of_mem_deltas hrec hobs hd
  have hlen : δ.length = plan.compared o := by rw [← length_deltas hcomp, ← hδ, List.length_map]
  refine ⟨δ, hδ.symm, hlen, fun i hi => ?_⟩
  have hat : (δ[i]?).map PyFloat.fin = plan.deltaAt o i := by
    rw [← getElem?_deltas hi, ← hδ, List.getElem?_map]
  have hsome : δ[i]? = some δ[i] := List.getElem?_eq_getElem (hlen ▸ hi)
  rw [hsome, Option.map_some] at hat
  obtain ⟨r, s, hr, hs, hd, -⟩ := deltaAt_isFinite hat.symm
  obtain ⟨r, rfl⟩ := PyFloat.isFinite_iff.mp (hrec r (List.mem_of_getElem? hr))
  obtain ⟨s, rfl⟩ := PyFloat.isFinite_iff.mp (hobs s (List.mem_of_getElem? hs))
  refine ⟨r, s, hr, hs, ?_⟩
  rw [hsome, PyFloat.fin.inj hd, sub_eq_add_neg]

theorem statistics_of_compared_eq_zero (h : plan.compared o = 0) : plan.statistics o = {} := by
  unfold statistics deltas
  rw [h, List.take_zero]
  split_ifs <;> rfl

end ReplayPlan

open ReplayPlan

/-- **The logprob statistics.** With ordinary logprobs: the lane is compared exactly when both
sides have logprobs and cover the shorter token sequence; the figures of a compared lane with a
position to compare are those of the deltas; in every other case there are none. -/
theorem logprob_statistics (plan : ReplayPlan) (o : ReplayObservation) (tolerance : PyFloat)
    (hrec : ∀ r ∈ plan.recordedLogprobs, r.isFinite = true)
    (hobs : ∀ s ∈ o.logprobs, s.isFinite = true) :
    let v := validateReplay plan o tolerance
    let m := min plan.expectedTokenIds.length o.tokenIds.length
    (v.logprobLane = .compared ↔ (plan.recordedLogprobs ≠ [] ∧ o.logprobs ≠ []) ∧
      m ≤ plan.recordedLogprobs.length ∧ m ≤ o.logprobs.length) ∧
    (v.logprobLane = .compared → 0 < m → ∃ (δ : List ℚ) (mean worst p99 : ℚ) (w : ℕ),
      (δ.length = m ∧ ∀ i < m, ∃ r s, plan.recordedLogprobs[i]? = some (.fin r) ∧
        o.logprobs[i]? = some (.fin s) ∧ δ[i]? = some |r - s|) ∧
      v.statistics = ⟨m, some (.fin mean), some (.fin worst), some (.fin p99), some w⟩ ∧
      Figures δ mean worst p99 w) ∧
    (¬ (v.logprobLane = .compared ∧ 0 < m) →
      v.statistics = ⟨0, none, none, none, none⟩) := by
  intro v m
  refine ⟨?_, fun hcomp hpos => ?_, fun hnot => ?_⟩
  · show plan.logprobLane o = .compared ↔ _
    rw [logprobLane_eq_compared, recordCovers, observedCovers, decide_eq_true_eq,
      decide_eq_true_eq]
    exact and_and_and_comm
  · obtain ⟨δ, hδ, hlen, hat⟩ := exists_deltas hcomp hrec hobs
    have hne : δ ≠ [] := List.length_pos_iff.mp (hlen ▸ hpos)
    obtain ⟨mean, worst, p99, w, hstatistics, hfigures⟩ := ofDeltas_fin hne
    refine ⟨δ, mean, worst, p99, w, ⟨hlen, hat⟩, ?_, hfigures⟩
    have hv : v.statistics = .ofDeltas (plan.deltas o) := if_pos hcomp
    rw [hv, hδ, hstatistics, hlen]
    rfl
  · by_cases hcomp : v.logprobLane = .compared
    · have hzero : plan.compared o = 0 := Nat.eq_zero_of_not_pos fun hpos => hnot ⟨hcomp, hpos⟩
      exact statistics_of_compared_eq_zero hzero
    · exact if_neg hcomp

/-- Two positions, the larger delta at the second. -/
theorem logprob_statistics_two :
    (validateReplay (twoTokenPlan [.fin 0, .fin (-1)])
        (twoTokenReplay [.fin (-1 / 2), .fin 0])).logprobLane = .compared ∧
      ∃ δ mean worst p99 w, (validateReplay (twoTokenPlan [.fin 0, .fin (-1)])
          (twoTokenReplay [.fin (-1 / 2), .fin 0])).statistics =
        ⟨2, some (.fin mean), some (.fin worst), some (.fin p99), some w⟩ ∧
      Figures δ mean worst p99 w := by
  obtain ⟨-, hcompared, -⟩ := logprob_statistics (twoTokenPlan [.fin 0, .fin (-1)])
    (twoTokenReplay [.fin (-1 / 2), .fin 0]) DEFAULT_LOGPROB_TOLERANCE (by decide) (by decide)
  obtain ⟨δ, mean, worst, p99, w, -, hstatistics, hfigures⟩ := hcompared (by decide) (by decide)
  exact ⟨by decide, δ, mean, worst, p99, w, hstatistics, hfigures⟩

end RolloutCore
