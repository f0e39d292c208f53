import RolloutCore.Archive
import RolloutCore.Replay

/-!
# What a verdict says

Agreement read off the plan, the observation and the tolerance. The logprob lane decides by the
maximum of the deltas, which passes over a NaN behind the first position.
-/

namespace RolloutCore

namespace PyFloat

/-- `math.isfinite(x)`. -/
def isFinite : PyFloat → Bool
  | .fin _ => true
  | _ => false

theorem isFinite_iff {x : PyFloat} : x.isFinite = true ↔ ∃ q, x = .fin q := by
  cases x <;> simp [isFinite]

theorem isFinite_abs_sub (x y : PyFloat) :
    (x.sub y).abs.isFinite = (x.isFinite && y.isFinite) := by
  cases x <;> cases y <;> rfl

end PyFloat

namespace ReplayPlan

variable {plan : ReplayPlan} {o : ReplayObservation} {tolerance : PyFloat}

/-! ## Version, identity, prompt and tokens -/

/-- Everything but the logprobs is as the plan says. -/
structure Reproduced (plan : ReplayPlan) (o : ReplayObservation) : Prop where
  version : o.version = plan.version
  identity : ∀ d ∈ o.identityDigest, d = plan.identityDigest
  prompt : ∀ p ∈ o.prompt, p = plan.prompt
  tokens : o.tokenIds = plan.expectedTokenIds

theorem mismatchIndexes_eq_nil {expected observed : List ℤ}
    (hlen : expected.length = observed.length) :
    mismatchIndexes expected observed = [] ↔ observed = expected := by
  unfold mismatchIndexes
  rw [List.filter_eq_nil_iff, ← hlen, min_self]
  constructor
  · intro h
    refine List.ext_getElem? fun i => ?_
    by_cases hi : i < expected.length
    · exact (not_not.mp fun hne => h i (List.mem_range.mpr hi) (decide_eq_true hne)).symm
    · rw [List.getElem?_eq_none (hlen ▸ not_lt.mp hi), List.getElem?_eq_none (not_lt.mp hi)]
  · rintro rfl i -
    simp

theorem echoViolations_eq_nil (htokens : o.tokenIds = plan.expectedTokenIds) :
    plan.echoViolations o = [] := by
  have hmis : plan.tokenMismatches o = 0 := by
    rw [tokenMismatches, (mismatchIndexes_eq_nil (by rw [htokens])).mpr htokens]
    rfl
  unfold echoViolations
  rw [hmis, htokens]
  simp

theorem reproduced_iff : (plan.protocol o = [] ∧ plan.tokenMismatches o = 0 ∧
    plan.expectedTokenIds.length = o.tokenIds.length) ↔ plan.Reproduced o := by
  constructor
  · rintro ⟨hprotocol, hmis, hlen⟩
    have htokens := (mismatchIndexes_eq_nil hlen).mp (List.length_eq_zero_iff.mp hmis)
    unfold protocol at hprotocol
    simp only [List.append_eq_nil_iff] at hprotocol
    obtain ⟨⟨⟨⟨hversion, hidentity⟩, hprompt⟩, -⟩, -⟩ := hprotocol
    refine ⟨by simpa using hversion, fun d hd => ?_, fun p hp => ?_, htokens⟩
    · rw [Option.mem_def.mp hd] at hidentity
      simpa using hidentity
    · rw [Option.mem_def.mp hp] at hprompt
      simpa using hprompt
  · rintro ⟨hversion, hidentity, hprompt, htokens⟩
    refine ⟨?_, ?_, by rw [htokens]⟩
    · unfold protocol
      rw [echoViolations_eq_nil htokens, hversion, htokens]
      cases hd : o.identityDigest <;> cases hp : o.prompt <;> simp_all
    · rw [tokenMismatches, (mismatchIndexes_eq_nil (by rw [htokens])).mpr htokens]
      rfl

theorem agrees_iff : plan.agrees o tolerance = true ↔
    plan.Reproduced o ∧ plan.logprobsAgree o tolerance = true := by
  unfold agrees
  rw [decide_eq_true_eq, ← reproduced_iff]
  tauto

/-! ## The logprob lane -/

/-- One side is empty, or shorter than the token sequence. -/
def Uncompared (plan : ReplayPlan) (o : ReplayObservation) : Prop :=
  plan.recordedLogprobs = [] ∨ plan.recordedLogprobs.length < o.tokenIds.length ∨
    o.logprobs = [] ∨ o.logprobs.length < o.tokenIds.length

theorem logprobLane_eq_compared : plan.logprobLane o = .compared ↔
    plan.recordCovers o = true ∧ plan.observedCovers o = true := by
  unfold logprobLane
  cases plan.recordCovers o <;> cases plan.observedCovers o <;> simp

theorem Reproduced.compared_eq (h : plan.Reproduced o) : plan.compared o = o.tokenIds.length := by
  rw [compared, h.tokens, min_self]

theorem Reproduced.uncompared_iff (h : plan.Reproduced o) :
    plan.Uncompared o ↔ plan.logprobLane o ≠ .compared := by
  rw [Ne, logprobLane_eq_compared]
  unfold Uncompared recordCovers observedCovers
  rw [h.compared_eq, decide_eq_true_eq, decide_eq_true_eq]
  simp only [not_and_or, not_not, not_le]
  tauto

/-- `|recorded - observed|` at a position. -/
def deltaAt (plan : ReplayPlan) (o : ReplayObservation) (i : ℕ) : Option PyFloat :=
  match plan.recordedLogprobs[i]?, o.logprobs[i]? with
  | some r, some s => some (r.sub s).abs
  | _, _ => none

theorem getElem?_deltas {i : ℕ} (hi : i < plan.compared o) :
    (plan.deltas o)[i]? = plan.deltaAt o i := by
  rw [deltas, List.getElem?_take_of_lt hi, List.getElem?_zipWith]
  unfold deltaAt
  cases plan.recordedLogprobs[i]? <;> cases o.logprobs[i]? <;> rfl

theorem length_deltas (h : plan.logprobLane o = .compared) :
    (plan.deltas o).length = plan.compared o := by
  obtain ⟨hr, ho⟩ := logprobLane_eq_compared.mp h
  have hr' : plan.compared o ≤ plan.recordedLogprobs.length := (of_decide_eq_true hr).2
  have ho' : plan.compared o ≤ o.logprobs.length := (of_decide_eq_true ho).2
  rw [deltas, List.length_take, List.length_zipWith]
  omega

theorem forall_deltas (h : plan.logprobLane o = .compared) {P : PyFloat → Prop} :
    (∀ d ∈ plan.deltas o, P d) ↔ ∀ i < plan.compared o, ∃ d, plan.deltaAt o i = some d ∧ P d := by
  rw [← length_deltas h]
  constructor
  · intro hall i hi
    refine ⟨(plan.deltas o)[i], ?_, hall _ (List.getElem_mem hi)⟩
    rw [← getElem?_deltas (length_deltas h ▸ hi), List.getElem?_eq_getElem hi]
  · intro hall d hd
    obtain ⟨i, hi, rfl⟩ := List.mem_iff_getElem.mp hd
    obtain ⟨d, hd, hP⟩ := hall i hi
    rw [← getElem?_deltas (length_deltas h ▸ hi), List.getElem?_eq_getElem hi] at hd
    exact Option.some.inj hd ▸ hP

theorem maxAbsDelta_ofDeltas (ds : List PyFloat) :
    (LogprobStatistics.ofDeltas ds).maxAbsDelta = PyFloat.maxOf ds := by
  unfold LogprobStatistics.ofDeltas
  cases h : PyFloat.maxOf ds <;> rfl

theorem withinTolerance_iff_max (h : plan.logprobLane o = .compared) :
    plan.withinTolerance o tolerance = true ↔
      ∃ m, PyFloat.maxOf (plan.deltas o) = some m ∧ m.le tolerance = true := by
  unfold withinTolerance statistics
  rw [if_pos h, maxAbsDelta_ofDeltas]
  cases PyFloat.maxOf (plan.deltas o) <;> simp

/-- The lane agrees by its first delta, and by those of the others that are no NaN. -/
theorem withinTolerance_iff (h : plan.logprobLane o = .compared) :
    plan.withinTolerance o tolerance = true ↔ 0 < plan.compared o ∧
      (∃ d, plan.deltaAt o 0 = some d ∧ d.le tolerance = true) ∧ ∀ i < plan.compared o, ∃ d,
        plan.deltaAt o i = some d ∧ (d = .nan ∨ d.le tolerance = true) := by
  rw [withinTolerance_iff_max h, ← forall_deltas h]
  have hlen := length_deltas h
  cases hds : plan.deltas o with
  | nil =>
    rw [hds] at hlen
    refine iff_of_false (by simp [PyFloat.maxOf]) ?_
    rintro ⟨hpos, -⟩
    exact hpos.ne hlen
  | cons d ds =>
    rw [hds, List.length_cons] at hlen
    have hpos : 0 < plan.compared o := by omega
    have hfirst : plan.deltaAt o 0 = some d := by
      rw [← getElem?_deltas hpos, hds]
      rfl
    rw [PyFloat.maxOf_le_iff, hfirst, List.forall_mem_cons]
    simp only [Option.some.injEq, exists_eq_left']
    tauto

theorem agrees_iff_of_compared (h : plan.logprobLane o = .compared) :
    plan.agrees o tolerance = true ↔ plan.Reproduced o ∧ 0 < plan.compared o ∧
      (∃ d, plan.deltaAt o 0 = some d ∧ d.le tolerance = true) ∧ ∀ i < plan.compared o, ∃ d,
        plan.deltaAt o i = some d ∧ (d = .nan ∨ d.le tolerance = true) := by
  rw [agrees_iff, ← withinTolerance_iff h]
  simp [logprobsAgree, h]

/-! ## Divergence that nothing reports -/

/-- Everything else agrees, the first delta is within the tolerance, so is every other one that is
no NaN, and at some position a side is no ordinary number. -/
structure HidesDivergence (plan : ReplayPlan) (o : ReplayObservation) (tolerance : PyFloat) :
    Prop where
  reproduced : plan.Reproduced o
  compared : ¬ plan.Uncompared o
  first : ∃ d, plan.deltaAt o 0 = some d ∧ d.le tolerance = true
  within : ∀ i < o.tokenIds.length, ∃ d, plan.deltaAt o i = some d ∧
    (d = .nan ∨ d.le tolerance = true)
  hidden : ∃ i < o.tokenIds.length, ∃ r s, plan.recordedLogprobs[i]? = some r ∧
    o.logprobs[i]? = some s ∧ ¬ (r.isFinite = true ∧ s.isFinite = true)

theorem deltaAt_isFinite {i : ℕ} {d : PyFloat} (h : plan.deltaAt o i = some d) :
    ∃ r s, plan.recordedLogprobs[i]? = some r ∧ o.logprobs[i]? = some s ∧ d = (r.sub s).abs ∧
      d.isFinite = (r.isFinite && s.isFinite) := by
  unfold deltaAt at h
  cases hr : plan.recordedLogprobs[i]? with
  | none => simp [hr] at h
  | some r =>
    cases hs : o.logprobs[i]? with
    | none => simp [hr, hs] at h
    | some s =>
      rw [hr, hs] at h
      obtain rfl := Option.some.inj h
      exact ⟨r, s, rfl, rfl, rfl, PyFloat.isFinite_abs_sub r s⟩

/-- The verdict agrees on a compared lane with a delta that is no ordinary number. -/
theorem hidesDivergence_iff : plan.HidesDivergence o tolerance ↔
    plan.logprobLane o = .compared ∧ plan.agrees o tolerance = true ∧
      ∃ i < plan.compared o, ∃ d, plan.deltaAt o i = some d ∧ d.isFinite = false := by
  constructor
  · rintro ⟨hrep, hcomp, hfirst, hwithin, i, hi, r, s, hr, hs, hfin⟩
    rw [hrep.uncompared_iff, not_not] at hcomp
    rw [← hrep.compared_eq] at hwithin hi
    obtain ⟨d, hd, -⟩ := hwithin i hi
    obtain ⟨r', s', hr', hs', -, hdfin⟩ := deltaAt_isFinite hd
    obtain rfl := Option.some.inj (hr.symm.trans hr')
    obtain rfl := Option.some.inj (hs.symm.trans hs')
    have hagree := (agrees_iff_of_compared hcomp).mpr ⟨hrep, by omega, hfirst, hwithin⟩
    refine ⟨hcomp, hagree, i, hi, d, hd, ?_⟩
    rw [hdfin]
    simpa using hfin
  · rintro ⟨hcomp, hagree, i, hi, d, hd, hfin⟩
    obtain ⟨hrep, -, hfirst, hwithin⟩ := (agrees_iff_of_compared hcomp).mp hagree
    rw [hrep.compared_eq] at hwithin hi
    obtain ⟨r, s, hr, hs, -, hdfin⟩ := deltaAt_isFinite hd
    have hun : ¬ plan.Uncompared o := hrep.uncompared_iff.not.mpr (not_not.mpr hcomp)
    refine ⟨hrep, hun, hfirst, hwithin, i, hi, r, s, hr, hs, ?_⟩
    rw [hdfin] at hfin
    simpa using hfin

/-! ## Agreement -/

/-- What agreement is meant to say. -/
def Agreement (plan : ReplayPlan) (o : ReplayObservation) (tolerance : PyFloat) : Prop :=
  plan.Reproduced o ∧ (plan.Uncompared o ∨
    ∀ i < o.tokenIds.length, ∃ d, plan.deltaAt o i = some d ∧ d.le tolerance = true)

/-- Everything else agrees, the first recorded logprob is no NaN, a later one is, and every position
without a NaN is within the tolerance. -/
structure HidesNan (plan : ReplayPlan) (o : ReplayObservation) (tolerance : PyFloat) : Prop where
  reproduced : plan.Reproduced o
  compared : ¬ plan.Uncompared o
  first : plan.recordedLogprobs[0]? ≠ some .nan
  within : ∀ i < o.tokenIds.length, plan.recordedLogprobs[i]? = some .nan ∨
    ∃ d, plan.deltaAt o i = some d ∧ d.le tolerance = true
  hidden : ∃ i < o.tokenIds.length, plan.recordedLogprobs[i]? = some .nan

/-- On a compared lane agreement says something of every position that is compared. -/
theorem agreement_iff (hcomp : plan.logprobLane o = .compared) :
    plan.Agreement o tolerance ↔ plan.Reproduced o ∧
      ∀ i < plan.compared o, ∃ d, plan.deltaAt o i = some d ∧ d.le tolerance = true := by
  refine and_congr_right fun hrep => ?_
  have hun : ¬ plan.Uncompared o := hrep.uncompared_iff.not.mpr (not_not.mpr hcomp)
  rw [hrep.compared_eq]
  exact or_iff_right hun

/-- An observation with ordinary logprobs: a delta is NaN exactly where the record is. -/
theorem deltaAt_eq_nan (hfin : ∀ s ∈ o.logprobs, s.isFinite = true) {i : ℕ} {d : PyFloat}
    (h : plan.deltaAt o i = some d) : d = .nan ↔ plan.recordedLogprobs[i]? = some .nan := by
  obtain ⟨r, s, hr, hs, rfl, -⟩ := deltaAt_isFinite h
  obtain ⟨q, rfl⟩ := PyFloat.isFinite_iff.mp (hfin s (List.mem_of_getElem? hs))
  rw [hr]
  cases r <;> simp [PyFloat.sub, PyFloat.add, PyFloat.neg, PyFloat.abs]

/-- The verdict agrees on a compared lane with a delta that is NaN. -/
theorem hidesNan_iff (hfin : ∀ s ∈ o.logprobs, s.isFinite = true) :
    plan.HidesNan o tolerance ↔ plan.logprobLane o = .compared ∧
      plan.agrees o tolerance = true ∧ ∃ i < plan.compared o, plan.deltaAt o i = some .nan := by
  constructor
  · rintro ⟨hrep, hcomp, hfirst, hwithin, i, hi, hnan⟩
    rw [hrep.uncompared_iff, not_not] at hcomp
    rw [← hrep.compared_eq] at hwithin hi
    have hdelta := (forall_deltas hcomp (P := fun _ => True)).mp fun _ _ => trivial
    have hall : ∀ j < plan.compared o, ∃ d, plan.deltaAt o j = some d ∧
        (d = .nan ∨ d.le tolerance = true) := by
      intro j hj
      obtain ⟨d, hd, -⟩ := hdelta j hj
      rcases hwithin j hj with hj | ⟨d', hd', hle⟩
      · exact ⟨d, hd, .inl ((deltaAt_eq_nan hfin hd).mpr hj)⟩
      · exact ⟨d', hd', .inr hle⟩
    have hpos : 0 < plan.compared o := by omega
    obtain ⟨d₀, hd₀, hwhich⟩ := hall 0 hpos
    have hle := hwhich.resolve_left fun hn => hfirst ((deltaAt_eq_nan hfin hd₀).mp hn)
    obtain ⟨d, hd, -⟩ := hdelta i hi
    refine ⟨hcomp, (agrees_iff_of_compared hcomp).mpr ⟨hrep, hpos, ⟨d₀, hd₀, hle⟩, hall⟩, i, hi, ?_⟩
    rw [hd, (deltaAt_eq_nan hfin hd).mpr hnan]
  · rintro ⟨hcomp, hagree, i, hi, hd⟩
    obtain ⟨hrep, -, ⟨d₀, hd₀, hle⟩, hall⟩ := (agrees_iff_of_compared hcomp).mp hagree
    rw [hrep.compared_eq] at hall hi
    have hun : ¬ plan.Uncompared o := hrep.uncompared_iff.not.mpr (not_not.mpr hcomp)
    refine ⟨hrep, hun, fun hnan => ?_, fun j hj => ?_, i, hi, (deltaAt_eq_nan hfin hd).mp rfl⟩
    · obtain rfl := (deltaAt_eq_nan hfin hd₀).mpr hnan
      cases tolerance <;> cases hle
    · obtain ⟨d, hdj, hwhich⟩ := hall j hj
      exact hwhich.imp (deltaAt_eq_nan hfin hdj).mp fun hle => ⟨d, hdj, hle⟩

theorem agrees_iff_of_uncompared (h : plan.logprobLane o ≠ .compared) :
    plan.agrees o tolerance = true ↔ plan.Agreement o tolerance := by
  rw [agrees_iff, Agreement]
  refine and_congr_right fun hrep => ?_
  have hun := hrep.uncompared_iff.mpr h
  simp [logprobsAgree, h, hun]

theorem fromTrajectory_lists {t : Trajectory} (h : ReplayPlan.fromTrajectory t = .ok plan) :
    plan.expectedTokenIds = t.tokenIds ∧ plan.recordedLogprobs = t.logprobs := by
  unfold ReplayPlan.fromTrajectory at h
  cases hready : t.replayReady with
  | false =>
    rw [hready] at h
    cases h
  | true =>
    rw [hready] at h
    cases h
    exact ⟨rfl, rfl⟩

theorem compared_pos {t : Trajectory} (hplan : ReplayPlan.fromTrajectory t = .ok plan)
    (hrep : plan.Reproduced o) (hcomp : plan.logprobLane o = .compared) :
    0 < plan.compared o := by
  have hcover : plan.recordedLogprobs ≠ [] := (of_decide_eq_true
    (logprobLane_eq_compared.mp hcomp).1).1
  obtain ⟨htokens, hlogprobs⟩ := fromTrajectory_lists hplan
  rw [hlogprobs] at hcover
  rw [hrep.compared_eq, hrep.tokens, htokens, ← t.logprobs_length.resolve_left hcover]
  exact List.length_pos_iff.mpr hcover

end ReplayPlan

open ReplayPlan

/-- **What agreement says.** For a record that is ready for a replay, an observation with ordinary
logprobs and a finite tolerance, the verdict is the one agreement is meant to be, unless a recorded
NaN hides behind the first position. -/
theorem replay_agreement_iff (t : Trajectory) (plan : ReplayPlan)
    (hplan : ReplayPlan.fromTrajectory t = .ok plan) (o : ReplayObservation)
    (hfin : ∀ s ∈ o.logprobs, s.isFinite = true) (q : ℚ) :
    ((validateReplay plan o (.fin q)).agrees = true ↔ plan.Agreement o (.fin q)) ↔
      ¬ plan.HidesNan o (.fin q) := by
  show (plan.agrees o (.fin q) = true ↔ _) ↔ _
  rw [hidesNan_iff hfin]
  by_cases hcomp : plan.logprobLane o = .compared
  · rw [agreement_iff hcomp]
    constructor
    · rintro h ⟨-, hagree, i, hi, hd⟩
      obtain ⟨d, hd', hle⟩ := (h.mp hagree).2 i hi
      obtain rfl := Option.some.inj (hd.symm.trans hd')
      cases hle
    · intro h
      constructor
      · intro hagree
        obtain ⟨hrep, -, -, hall⟩ := (agrees_iff_of_compared hcomp).mp hagree
        refine ⟨hrep, fun i hi => ?_⟩
        obtain ⟨d, hd, rfl | hle⟩ := hall i hi
        · exact absurd ⟨hcomp, hagree, i, hi, hd⟩ h
        · exact ⟨d, hd, hle⟩
      · rintro ⟨hrep, hall⟩
        have hpos := compared_pos hplan hrep hcomp
        refine (agrees_iff_of_compared hcomp).mpr ⟨hrep, hpos, hall 0 hpos, fun i hi => ?_⟩
        obtain ⟨d, hd, hle⟩ := hall i hi
        exact ⟨d, hd, .inr hle⟩
  · exact iff_of_true (agrees_iff_of_uncompared hcomp) fun h => hcomp h.1

/-- A record of two tokens with these logprobs, and what its plan asks for. -/
def twoTokens (lps : List PyFloat) (h : lps.length = 2) : Trajectory :=
  { sampleTrajectory with tokenIds := [19, 20], logprobs := lps, logprobs_length := .inr h }

def twoTokenPlan (lps : List PyFloat) : ReplayPlan :=
  ⟨"R1", "2+2=", [19, 20], (WeightVersion.mk 1).label, sampleTrajectory.identity.digest, "rc-1",
    lps⟩

theorem plan_twoTokens (lps : List PyFloat) (h : lps.length = 2) :
    ReplayPlan.fromTrajectory (twoTokens lps h) = .ok (twoTokenPlan lps) := by
  unfold ReplayPlan.fromTrajectory
  rw [(twoTokens lps h).replayReady_iff.mpr rfl]
  rfl

/-- The same tokens again, with these logprobs. -/
def twoTokenReplay (lps : List PyFloat) : ReplayObservation where
  requestId := "R1"
  version := (WeightVersion.mk 1).label
  tokenIds := [19, 20]
  logprobs := lps

/-- Without a NaN the verdict is right: the second position is out of the tolerance. -/
theorem replay_agreement_iff_ordinary :
    (validateReplay (twoTokenPlan [.fin 0, .fin (-1)]) (twoTokenReplay [.fin 0, .fin 0])
      (.fin (1 / 1000))).agrees = true ↔
    (twoTokenPlan [.fin 0, .fin (-1)]).Agreement (twoTokenReplay [.fin 0, .fin 0])
      (.fin (1 / 1000)) := by
  refine (replay_agreement_iff _ _ (plan_twoTokens [.fin 0, .fin (-1)] rfl) _ (by decide) _).mpr ?_
  rintro ⟨-, -, -, -, i, hi, hnan⟩
  have hmem := List.mem_of_getElem? hnan
  simp [twoTokenPlan] at hmem

/-- The record has a NaN in the second position, the replay a zero. -/
theorem recorded_nan_agrees : ∃ (t : Trajectory) (plan : ReplayPlan) (o : ReplayObservation)
    (q : ℚ), ReplayPlan.fromTrajectory t = .ok plan ∧ (∀ s ∈ o.logprobs, s.isFinite = true) ∧
      (validateReplay plan o (.fin q)).agrees = true ∧ ¬ plan.Agreement o (.fin q) := by
  refine ⟨twoTokens [.fin 0, .nan] rfl, twoTokenPlan [.fin 0, .nan],
    twoTokenReplay [.fin 0, .fin 0], 1 / 1000, plan_twoTokens _ _, by decide, by decide +kernel, ?_⟩
  rintro ⟨-, hun | hall⟩
  · revert hun
    unfold Uncompared
    decide
  · obtain ⟨d, hd, hle⟩ := hall 1 (by decide)
    cases hd
    cases hle

/-- **No divergence hides** behind a logprob that is no ordinary number, unless everything else
agrees and the first position and those that are no NaN are within the tolerance. -/
theorem compared_deltas_ordinary_iff (plan : ReplayPlan) (o : ReplayObservation)
    (tolerance : PyFloat) :
    ((validateReplay plan o tolerance).logprobLane = .compared →
      (validateReplay plan o tolerance).agrees = true →
        ∀ i < plan.compared o, ∃ p : ℚ, plan.deltaAt o i = some (.fin p) ∧
          (PyFloat.fin p).le tolerance = true) ↔
      ¬ plan.HidesDivergence o tolerance := by
  rw [hidesDivergence_iff]
  constructor
  · rintro h ⟨hcomp, hagree, i, hi, d, hd, hfin⟩
    obtain ⟨p, hp, -⟩ := h hcomp hagree i hi
    obtain rfl := Option.some.inj (hd.symm.trans hp)
    cases hfin
  · intro h hcomp hagree i hi
    obtain ⟨-, -, -, hall⟩ := (agrees_iff_of_compared hcomp).mp hagree
    obtain ⟨d, hd, hle⟩ := hall i hi
    cases hfin : d.isFinite with
    | false => exact absurd ⟨hcomp, hagree, i, hi, d, hd, hfin⟩ h
    | true =>
      obtain ⟨p, rfl⟩ := PyFloat.isFinite_iff.mp hfin
      exact ⟨p, hd, hle.resolve_left (by simp)⟩

/-- A masked token: both sides have `-inf` in the second position. -/
theorem masked_token_agrees : ∃ (plan : ReplayPlan) (o : ReplayObservation),
    (validateReplay plan o).logprobLane = .compared ∧ (validateReplay plan o).agrees = true ∧
      ∃ i < plan.compared o, plan.deltaAt o i = some .nan :=
  ⟨twoTokenPlan [.fin 0, .negInf], twoTokenReplay [.fin 0, .negInf], by decide, by decide +kernel,
    1, by decide, rfl⟩

end RolloutCore
