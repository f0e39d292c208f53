import RolloutCore.Lib.CommonPrefix
import RolloutCore.ReplayVerdicts

/-!
# What a verdict reports

The token figures of a verdict as the agreement of two sequences, and where a mismatch is reported:
as a violation of the protocol when the tokens were dictated, as a finding when they were expected.
-/

namespace RolloutCore

open CommonPrefix

/-! ## The token figures -/

section Tokens

variable {expected observed : List ℤ}

theorem mem_mismatchIndexes {i : ℕ} : i ∈ mismatchIndexes expected observed ↔
    i < min expected.length observed.length ∧ expected[i]? ≠ observed[i]? := by
  simp [mismatchIndexes]

/-- The first of the differing positions. -/
theorem mismatchIndexes_eq_cons {i : ℕ} {is : List ℕ}
    (h : mismatchIndexes expected observed = i :: is) :
    expected[i]? ≠ observed[i]? ∧ ∀ j < i, expected[j]? = observed[j]? := by
  have hfirst : (mismatchIndexes expected observed).head? = some i := by rw [h]; rfl
  unfold mismatchIndexes at hfirst
  rw [List.head?_filter, List.find?_range_eq_some] at hfirst
  obtain ⟨hdiffer, -, hbefore⟩ := hfirst
  exact ⟨of_decide_eq_true hdiffer, fun j hj => by simpa using hbefore j hj⟩

/-- **The first divergence** is where the sequences cease to agree. -/
theorem firstDivergence_eq : firstDivergence expected observed =
    if expected = observed then none else some (agreement expected observed) := by
  unfold firstDivergence
  cases hmis : mismatchIndexes expected observed with
  | cons i is =>
    obtain ⟨hdiffer, hbefore⟩ := mismatchIndexes_eq_cons hmis
    have hne : expected ≠ observed := by
      rintro rfl
      exact hdiffer rfl
    rw [if_neg hne, agreement_eq hbefore hdiffer]
  | nil =>
    have hagree : ∀ i < min expected.length observed.length, expected[i]? = observed[i]? := by
      intro i hi
      by_contra hdiffer
      have hmem := mem_mismatchIndexes.mpr ⟨hi, hdiffer⟩
      rw [hmis] at hmem
      cases hmem
    dsimp only
    by_cases hlen : expected.length = observed.length
    · rw [if_neg (not_not_intro hlen), if_pos ((ReplayPlan.mismatchIndexes_eq_nil hlen).mp hmis).symm]
    · -- one sequence has ended where the other goes on
      have hne : expected ≠ observed := fun h => hlen (congrArg List.length h)
      have hdiffer : expected[min expected.length observed.length]? ≠
          observed[min expected.length observed.length]? := by
        rcases Nat.lt_or_gt_of_ne hlen with hlt | hgt
        · rw [Nat.min_eq_left hlt.le, List.getElem?_eq_none le_rfl, List.getElem?_eq_getElem hlt]
          simp
        · rw [Nat.min_eq_right hgt.le, List.getElem?_eq_none (l := observed) le_rfl,
            List.getElem?_eq_getElem hgt]
          simp
      rw [if_pos hlen, if_neg hne, agreement_eq hagree hdiffer]

theorem sharedPrefix_eq : sharedPrefix expected observed = agreement expected observed := by
  unfold sharedPrefix
  rw [firstDivergence_eq]
  split_ifs with h
  · rw [h, agreement_self, min_self]
    rfl
  · rfl

theorem length_mismatchIndexes : (mismatchIndexes expected observed).length =
    (expected.zip observed).countP fun p => p.1 ≠ p.2 := by
  unfold mismatchIndexes
  rw [← List.countP_eq_length_filter]
  induction expected generalizing observed with
  | nil => simp
  | cons a expected ih =>
    cases observed with
    | nil => simp
    | cons b observed =>
      rw [List.length_cons, List.length_cons, Nat.succ_min_succ, List.range_succ_eq_map,
        List.countP_cons, List.countP_map, List.zip_cons_cons, List.countP_cons, ← ih]
      simp [Function.comp_def]

end Tokens

/-- **The token figures.** The shared prefix is the length of the longest common prefix; the first
divergence is there, unless the sequences are the same; the mismatches are the differing pairs. -/
theorem token_diagnostics (plan : ReplayPlan) (o : ReplayObservation) (tolerance : PyFloat) :
    let v := validateReplay plan o tolerance
    IsGreatest { n | ∃ p, p <+: plan.expectedTokenIds ∧ p <+: o.tokenIds ∧ p.length = n }
      v.sharedPrefix ∧
    (v.firstDivergence = none ↔ plan.expectedTokenIds = o.tokenIds) ∧
    (v.firstDivergence =
      if plan.expectedTokenIds = o.tokenIds then none else some v.sharedPrefix) ∧
    v.tokenMismatches =
      ((plan.expectedTokenIds.zip o.tokenIds).countP fun p => p.1 ≠ p.2) ∧
    (v.tokenMismatches = 0 ∧ v.firstDivergence = none ↔ plan.expectedTokenIds = o.tokenIds) ∧
    ∀ i ∈ v.firstDivergence, i ≤ min plan.expectedTokenIds.length o.tokenIds.length := by
  intro v
  have hshared : v.sharedPrefix = agreement plan.expectedTokenIds o.tokenIds := sharedPrefix_eq
  have hfirst : v.firstDivergence = if plan.expectedTokenIds = o.tokenIds then none
      else some (agreement plan.expectedTokenIds o.tokenIds) := firstDivergence_eq
  have hnone : v.firstDivergence = none ↔ plan.expectedTokenIds = o.tokenIds := by
    rw [hfirst]
    simp
  refine ⟨?_, hnone, ?_, length_mismatchIndexes, ?_, ?_⟩
  · rw [hshared]
    exact agreement_isGreatest _ _
  · rw [hshared]
    exact hfirst
  · rw [hnone, and_iff_right_iff_imp]
    intro heq
    exact List.length_eq_zero_iff.mpr
      ((ReplayPlan.mismatchIndexes_eq_nil (by rw [heq])).mpr heq.symm)
  · intro i hi
    rw [hfirst] at hi
    split_ifs at hi
    · cases hi
    · obtain rfl := Option.mem_some.mp hi
      exact le_min (agreement_le_left _ _) (agreement_le_right _ _)

/-! ## Violations and findings -/

theorem startsWith_of_append {p a : String} (h : p.toList.length ≤ a.toList.length) (b : String) :
    startsWith p (a ++ b) = startsWith p a := by
  unfold startsWith
  rw [Bool.eq_iff_iff, List.isPrefixOf_iff_prefix, List.isPrefixOf_iff_prefix, String.toList_append]
  constructor
  · intro hp
    exact List.prefix_of_prefix_length_le hp (List.prefix_append _ _) h
  · intro hp
    exact hp.trans (List.prefix_append _ _)

/-- The text begins with one of the heads. -/
def HeadedBy (heads : List String) (s : String) : Prop := ∃ a ∈ heads, ∃ b, s = a ++ b

theorem HeadedBy.of_mem {heads : List String} {a s : String} (ha : a ∈ heads)
    (h : ∃ b, s = a ++ b) : HeadedBy heads s := ⟨a, ha, h⟩

/-- A text headed otherwise does not begin with `p`. -/
theorem HeadedBy.not_startsWith {heads : List String} {p s : String}
    (hp : ∀ a ∈ heads, p.toList.length ≤ a.toList.length ∧ startsWith p a = false)
    (h : HeadedBy heads s) : ¬ startsWith p s = true := by
  obtain ⟨a, ha, b, rfl⟩ := h
  obtain ⟨hlen, hstart⟩ := hp a ha
  rw [startsWith_of_append hlen, hstart]
  exact Bool.false_ne_true

/-- The engine did not emit what it was told to emit. -/
def IsEcho (violation : String) : Prop := startsWith "echo:" violation = true

/-- The weights did not reproduce their own argmax. -/
def IsGreedyFinding (note : String) : Prop := startsWith "greedy replay:" note = true

namespace ReplayPlan

variable {plan : ReplayPlan} {o : ReplayObservation} {tolerance : PyFloat}

/-- The tokens were dictated, and are not what came back. -/
def EchoFails (plan : ReplayPlan) (o : ReplayObservation) : Prop :=
  o.tokensWereForced = true ∧ o.tokenIds ≠ plan.expectedTokenIds

theorem tokenIds_eq_iff : o.tokenIds = plan.expectedTokenIds ↔
    plan.tokenMismatches o = 0 ∧ o.tokenIds.length = plan.expectedTokenIds.length := by
  unfold tokenMismatches
  rw [List.length_eq_zero_iff]
  constructor
  · intro h
    exact ⟨(mismatchIndexes_eq_nil (by rw [h])).mpr h, by rw [h]⟩
  · rintro ⟨hmis, hlen⟩
    exact (mismatchIndexes_eq_nil hlen.symm).mp hmis

theorem echoViolations_eq_nil_iff : plan.echoViolations o = [] ↔ ¬ plan.EchoFails o := by
  unfold EchoFails
  rw [ne_eq, tokenIds_eq_iff]
  unfold echoViolations
  cases o.tokensWereForced with
  | false => simp
  | true =>
    by_cases hmis : plan.tokenMismatches o = 0
    · by_cases hlen : o.tokenIds.length = plan.expectedTokenIds.length <;> simp [hmis, hlen]
    · simp [hmis]

theorem isEcho_of_mem {e : String} (h : e ∈ plan.echoViolations o) : IsEcho e := by
  unfold echoViolations at h
  unfold IsEcho
  split_ifs at h
  · cases h
  · rw [List.mem_singleton.mp h]
    simp only [String.append_assoc]
    rw [startsWith_of_append (by decide)]
    decide
  · rw [List.mem_singleton.mp h]
    simp only [String.append_assoc]
    rw [startsWith_of_append (by decide)]
    decide
  · cases h

/-- How the violations begin that the other checks report. -/
def checkHeads : List String :=
  ["version: the record was bound to ", "identity: the record declares ",
    "prompt: the record replays ", "early stop: the engine returned "]

theorem eq_of_mem_check {c : Prop} [Decidable c] {x e : String} (h : e ∈ if c then [x] else []) :
    e = x := by
  split_ifs at h
  · exact List.mem_singleton.mp h
  · cases h

theorem headed_of_mem_protocol {e : String} (h : e ∈ plan.protocol o) :
    HeadedBy checkHeads e ∨ e ∈ plan.echoViolations o := by
  unfold protocol at h
  simp only [List.mem_append, String.append_assoc] at h
  obtain (((hversion | hidentity) | hprompt) | hstop) | hecho := h
  · exact .inl (.of_mem (by decide) ⟨_, eq_of_mem_check hversion⟩)
  · cases hd : o.identityDigest with
    | none =>
      rw [hd] at hidentity
      cases hidentity
    | some d =>
      rw [hd] at hidentity
      exact .inl (.of_mem (by decide) ⟨_, eq_of_mem_check hidentity⟩)
  · cases hp : o.prompt with
    | none =>
      rw [hp] at hprompt
      cases hprompt
    | some p =>
      rw [hp] at hprompt
      exact .inl (.of_mem (by decide) ⟨_, eq_of_mem_check hprompt⟩)
  · exact .inl (.of_mem (by decide) ⟨_, eq_of_mem_check hstop⟩)
  · exact .inr hecho

/-- **The protocol reports an echo** exactly when the dictated tokens did not come back. -/
theorem exists_isEcho_iff : (∃ e ∈ plan.protocol o, IsEcho e) ↔ plan.EchoFails o := by
  rw [← not_iff_not, ← echoViolations_eq_nil_iff]
  constructor
  · intro h
    rw [List.eq_nil_iff_forall_not_mem]
    intro e he
    exact h ⟨e, List.mem_append_right _ he, isEcho_of_mem he⟩
  · rintro h ⟨e, he, hecho⟩
    obtain hheaded | hmem := headed_of_mem_protocol he
    · exact hheaded.not_startsWith (by decide) hecho
    · rw [h] at hmem
      cases hmem

/-- The tokens were expected, and one within the shorter length is another one. -/
def GreedyDiffers (plan : ReplayPlan) (o : ReplayObservation) : Prop :=
  o.tokensWereForced = false ∧ ∃ i < min plan.expectedTokenIds.length o.tokenIds.length,
    plan.expectedTokenIds[i]? ≠ o.tokenIds[i]?

theorem tokenMismatches_ne_zero : plan.tokenMismatches o ≠ 0 ↔
    ∃ i < min plan.expectedTokenIds.length o.tokenIds.length,
      plan.expectedTokenIds[i]? ≠ o.tokenIds[i]? := by
  unfold tokenMismatches
  rw [← Nat.pos_iff_ne_zero, List.length_pos_iff_exists_mem]
  exact exists_congr fun i => mem_mismatchIndexes

theorem greedyNotes_ne_nil : plan.greedyNotes o ≠ [] ↔ plan.GreedyDiffers o := by
  unfold GreedyDiffers
  rw [← tokenMismatches_ne_zero]
  unfold greedyNotes
  cases o.tokensWereForced <;> simp

theorem isGreedyFinding_of_mem {n : String} (h : n ∈ plan.greedyNotes o) : IsGreedyFinding n := by
  unfold greedyNotes at h
  unfold IsGreedyFinding
  rw [eq_of_mem_check h]
  simp only [String.append_assoc]
  rw [startsWith_of_append (by decide)]
  decide

/-- How the notes begin that are no finding about the tokens. -/
def noteHeads : List String :=
  ["the replay returned ", "logprobs were not compared (", "max |Δ logprob| "]

theorem headed_of_mem_notes {n : String} (h : n ∈ plan.notes o tolerance) :
    HeadedBy noteHeads n ∨ n ∈ plan.greedyNotes o := by
  unfold notes logprobNotes at h
  simp only [List.mem_append, String.append_assoc] at h
  obtain (hgreedy | hbeyond) | hlogprob := h
  · exact .inr hgreedy
  · exact .inl (.of_mem (by decide) ⟨_, eq_of_mem_check hbeyond⟩)
  · split_ifs at hlogprob
    · exact .inl (.of_mem (by decide) ⟨_, List.mem_singleton.mp hlogprob⟩)
    · cases hmax : (plan.statistics o).maxAbsDelta with
      | none =>
        rw [hmax] at hlogprob
        cases hlogprob
      | some worst =>
        rw [hmax] at hlogprob
        exact .inl (.of_mem (by decide) ⟨_, eq_of_mem_check hlogprob⟩)

/-- **The notes report a greedy finding** exactly when an expected token is another one. -/
theorem exists_isGreedyFinding_iff :
    (∃ n ∈ plan.notes o tolerance, IsGreedyFinding n) ↔ plan.GreedyDiffers o := by
  rw [← greedyNotes_ne_nil]
  constructor
  · rintro ⟨n, hn, hgreedy⟩ hnil
    obtain hheaded | hmem := headed_of_mem_notes hn
    · exact hheaded.not_startsWith (by decide) hgreedy
    · rw [hnil] at hmem
      cases hmem
  · intro h
    obtain ⟨n, hn⟩ := List.exists_mem_of_ne_nil _ h
    exact ⟨n, List.mem_append_left _ (List.mem_append_left _ hn), isGreedyFinding_of_mem hn⟩

/-- **The protocol is empty** when every check passes. -/
theorem protocol_eq_nil_iff : plan.protocol o = [] ↔ o.version = plan.version ∧
    (∀ d ∈ o.identityDigest, d = plan.identityDigest) ∧ (∀ p ∈ o.prompt, p = plan.prompt) ∧
      plan.expectedTokenIds.length ≤ o.tokenIds.length ∧ ¬ plan.EchoFails o := by
  rw [← echoViolations_eq_nil_iff]
  unfold protocol
  simp only [List.append_eq_nil_iff, and_assoc]
  refine and_congr ?_ (and_congr ?_ (and_congr ?_ (and_congr_left fun _ => ?_)))
  · simp
  · cases o.identityDigest <;> simp
  · cases o.prompt <;> simp
  · simp

end ReplayPlan

/-- **Attribution of a mismatch.** The protocol has an echo entry exactly when the tokens were
dictated and differ; the notes have the greedy finding exactly when they were expected and one
within the shorter length differs; never both; and the protocol is empty exactly when every check
passes. -/
theorem mismatch_attribution (plan : ReplayPlan) (o : ReplayObservation) (tolerance : PyFloat) :
    let v := validateReplay plan o tolerance
    ((∃ e ∈ v.protocol, IsEcho e) ↔
      o.tokensWereForced = true ∧ o.tokenIds ≠ plan.expectedTokenIds) ∧
    ((∃ n ∈ v.notes, IsGreedyFinding n) ↔ o.tokensWereForced = false ∧
      ∃ i < min plan.expectedTokenIds.length o.tokenIds.length,
        plan.expectedTokenIds[i]? ≠ o.tokenIds[i]?) ∧
    ¬ ((∃ e ∈ v.protocol, IsEcho e) ∧ ∃ n ∈ v.notes, IsGreedyFinding n) ∧
    (v.protocol = [] ↔ o.version = plan.version ∧
      (∀ d ∈ o.identityDigest, d = plan.identityDigest) ∧ (∀ p ∈ o.prompt, p = plan.prompt) ∧
        plan.expectedTokenIds.length ≤ o.tokenIds.length ∧
          ¬ (o.tokensWereForced = true ∧ o.tokenIds ≠ plan.expectedTokenIds)) := by
  intro v
  have hecho : (∃ e ∈ v.protocol, IsEcho e) ↔ plan.EchoFails o := ReplayPlan.exists_isEcho_iff
  have hgreedy : (∃ n ∈ v.notes, IsGreedyFinding n) ↔ plan.GreedyDiffers o :=
    ReplayPlan.exists_isGreedyFinding_iff
  refine ⟨hecho, hgreedy, ?_, ReplayPlan.protocol_eq_nil_iff⟩
  rw [hecho, hgreedy]
  rintro ⟨⟨hforced, -⟩, hexpected, -⟩
  rw [hforced] at hexpected
  cases hexpected

end RolloutCore
