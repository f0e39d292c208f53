import Mathlib.Data.List.Induction
import RolloutCore.ReplayCli

/-!
# Replay jobs in parts

A job of the replay command line may be split by request id: its report is the reports of the parts
put together, whatever the order of the lines, as long as the observations of one id keep theirs.
-/

namespace RolloutCore

/-! ## The figures of a report -/

theorem get?_countLanes (verdicts : List ReplayVerdict) (lane : String) :
    ((countLanes verdicts).get? lane).getD 0 =
      verdicts.countP fun v => v.logprobLane.value = lane := by
  induction verdicts using List.reverseRecOn with
  | nil => rfl
  | append_singleton verdicts v ih =>
    have hlast : countLanes (verdicts ++ [v]) = (countLanes verdicts).insert v.logprobLane.value
        (((countLanes verdicts).get? v.logprobLane.value).getD 0 + 1) := by
      unfold countLanes
      rw [List.foldl_append, List.foldl_cons, List.foldl_nil]
    rw [hlast, OrderedDict.get?_insert, List.countP_append, List.countP_singleton, ← ih]
    by_cases hlane : v.logprobLane.value = lane
    · simp [hlane]
    · simp [hlane, Ne.symm hlane]

section Figures

variable (ts : List Trajectory) (os : List ReplayObservation) (tolerance : PyFloat)

theorem lanes_runReplay (lane : String) :
    ((runReplay ts os tolerance).summary.logprobLanes.get? lane).getD 0 =
      (runReplay ts os tolerance).verdicts.countP fun v => v.logprobLane.value = lane :=
  get?_countLanes _ lane

theorem agreed_add_disagreed : (runReplay ts os tolerance).summary.agreed +
    (runReplay ts os tolerance).summary.disagreed =
      (runReplay ts os tolerance).summary.compared :=
  Nat.add_sub_cancel' List.countP_le_length

theorem traceForced_add_greedy : (runReplay ts os tolerance).summary.traceForced +
    (runReplay ts os tolerance).summary.greedy = (runReplay ts os tolerance).summary.replays :=
  Nat.add_sub_cancel' List.countP_le_length

theorem exitCode_runReplay : (runReplay ts os tolerance).exitCode = 0 ↔
    (runReplay ts os tolerance).summary.failures = [] := by
  unfold runReplay
  simp

end Figures

/-- `r` is the report of a job of which `r₁` and `r₂` are those of the parts. -/
structure ReplayReport.Joins (r r₁ r₂ : ReplayReport) : Prop where
  verdicts : r.verdicts.Perm (r₁.verdicts ++ r₂.verdicts)
  failures : r.summary.failures.Perm (r₁.summary.failures ++ r₂.summary.failures)
  exitCode : r.exitCode = 0 ↔ r₁.exitCode = 0 ∧ r₂.exitCode = 0
  trajectories : r.summary.trajectories = r₁.summary.trajectories + r₂.summary.trajectories
  replays : r.summary.replays = r₁.summary.replays + r₂.summary.replays
  compared : r.summary.compared = r₁.summary.compared + r₂.summary.compared
  traceForced : r.summary.traceForced = r₁.summary.traceForced + r₂.summary.traceForced
  greedy : r.summary.greedy = r₁.summary.greedy + r₂.summary.greedy
  agreed : r.summary.agreed = r₁.summary.agreed + r₂.summary.agreed
  disagreed : r.summary.disagreed = r₁.summary.disagreed + r₂.summary.disagreed
  tokenMismatches :
    r.summary.tokenMismatches = r₁.summary.tokenMismatches + r₂.summary.tokenMismatches
  lanes (lane : String) : (r.summary.logprobLanes.get? lane).getD 0 =
    (r₁.summary.logprobLanes.get? lane).getD 0 + (r₂.summary.logprobLanes.get? lane).getD 0

/-! ## Parts of a job -/

/-- The request ids on either side of a job. -/
def jobIds (ts : List Trajectory) (os : List ReplayObservation) : List String :=
  ts.map (·.requestId) ++ os.map (·.requestId)

/-- The lines of a job are those of two parts in some order, the observations of one id in theirs;
the parts share no id. -/
structure Parts (ts : List Trajectory) (os : List ReplayObservation) (ts₁ : List Trajectory)
    (os₁ : List ReplayObservation) (ts₂ : List Trajectory) (os₂ : List ReplayObservation) :
    Prop where
  trajectories : ts.Perm (ts₁ ++ ts₂)
  observations (id : String) : (os.filter fun o => o.requestId = id) =
    (os₁ ++ os₂).filter fun o => o.requestId = id
  apart : (jobIds ts₁ os₁).Disjoint (jobIds ts₂ os₂)

section Parts

variable {ts ts₁ ts₂ : List Trajectory} {os os₁ os₂ : List ReplayObservation} {tolerance : PyFloat}

theorem lastObservation_eq_getLast? (os : List ReplayObservation) (id : String) :
    lastObservation os id = (os.filter fun o => o.requestId = id).getLast? :=
  List.getLast?_filter.symm

namespace Parts

/-- The parts in the other order, when the order of the observations allows. -/
theorem symm (h : Parts ts os ts₁ os₁ ts₂ os₂) : Parts ts os ts₂ os₂ ts₁ os₁ where
  trajectories := h.trajectories.trans List.perm_append_comm
  observations id := by
    have hid : ∀ {ts : List Trajectory} {os : List ReplayObservation}, id ∉ jobIds ts os →
        (os.filter fun o => o.requestId = id) = [] := by
      intro ts os hid
      rw [List.filter_eq_nil_iff]
      intro o ho heq
      refine hid (List.mem_append_right _ (List.mem_map.mpr ⟨o, ho, of_decide_eq_true heq⟩))
    rw [h.observations, List.filter_append, List.filter_append]
    by_cases h₁ : id ∈ jobIds ts₁ os₁
    · rw [hid (h.apart h₁), List.append_nil, List.nil_append]
    · rw [hid h₁, List.append_nil, List.nil_append]
  apart := List.disjoint_symm h.apart

theorem observations_perm (h : Parts ts os ts₁ os₁ ts₂ os₂) : os.Perm (os₁ ++ os₂) := by
  rw [List.perm_iff_count]
  intro o
  have hcount : ∀ os : List ReplayObservation,
      os.count o = (os.filter fun o' => o'.requestId = o.requestId).count o :=
    fun os => (List.count_filter (by simp)).symm
  rw [hcount, h.observations, ← hcount]

theorem lastObservation_left (h : Parts ts os ts₁ os₁ ts₂ os₂) {id : String}
    (hid : id ∈ jobIds ts₁ os₁) : lastObservation os id = lastObservation os₁ id := by
  have hnone : (os₂.filter fun o => o.requestId = id) = [] := by
    rw [List.filter_eq_nil_iff]
    intro o ho heq
    refine h.apart hid (List.mem_append_right _ (List.mem_map.mpr ⟨o, ho, of_decide_eq_true heq⟩))
  rw [lastObservation_eq_getLast?, lastObservation_eq_getLast?, h.observations,
    List.filter_append, hnone, List.append_nil]

theorem visit_left (h : Parts ts os ts₁ os₁ ts₂ os₂) {t : Trajectory} (ht : t ∈ ts₁) :
    ReplayProgress.visit (byRequest os) tolerance {} t =
      ReplayProgress.visit (byRequest os₁) tolerance {} t := by
  unfold ReplayProgress.visit
  cases hplan : ReplayPlan.fromTrajectory t with
  | error e => rfl
  | ok plan =>
    have hid : plan.requestId ∈ jobIds ts₁ os₁ := by
      rw [ReplayPlan.fromTrajectory_requestId hplan]
      exact List.mem_append_left _ (List.mem_map.mpr ⟨t, ht, rfl⟩)
    simp only [get?_byRequest, h.lastObservation_left hid]

/-- What the loop gathers from the whole is what it gathers from the parts. -/
theorem flatMap_perm {α : Type} (h : Parts ts os ts₁ os₁ ts₂ os₂) (f : ReplayProgress → List α) :
    (ts.flatMap fun t => f (ReplayProgress.visit (byRequest os) tolerance {} t)).Perm
      ((ts₁.flatMap fun t => f (ReplayProgress.visit (byRequest os₁) tolerance {} t)) ++
        ts₂.flatMap fun t => f (ReplayProgress.visit (byRequest os₂) tolerance {} t)) := by
  have hleft : ∀ {ts ts₁ ts₂ : List Trajectory} {os os₁ os₂ : List ReplayObservation},
      Parts ts os ts₁ os₁ ts₂ os₂ →
      (ts₁.flatMap fun t => f (ReplayProgress.visit (byRequest os) tolerance {} t)) =
        ts₁.flatMap fun t => f (ReplayProgress.visit (byRequest os₁) tolerance {} t) :=
    fun h => List.flatMap_congr fun t ht => by rw [h.visit_left ht]
  rw [← hleft h, ← hleft h.symm, ← List.flatMap_append]
  exact h.trajectories.flatMap_right _

end Parts

/-! ## The loop and the unmatched observations -/

/-- The loop of a run. -/
abbrev replayLoop (ts : List Trajectory) (os : List ReplayObservation) (tolerance : PyFloat) :
    ReplayProgress :=
  ts.foldl (ReplayProgress.visit (byRequest os) tolerance) {}

theorem Parts.verdicts (h : Parts ts os ts₁ os₁ ts₂ os₂) :
    (replayLoop ts os tolerance).verdicts.Perm
      ((replayLoop ts₁ os₁ tolerance).verdicts ++ (replayLoop ts₂ os₂ tolerance).verdicts) := by
  unfold replayLoop
  rw [foldl_visit, foldl_visit, foldl_visit]
  exact h.flatMap_perm (·.verdicts)

theorem Parts.loopFailures (h : Parts ts os ts₁ os₁ ts₂ os₂) :
    (replayLoop ts os tolerance).failures.Perm
      ((replayLoop ts₁ os₁ tolerance).failures ++ (replayLoop ts₂ os₂ tolerance).failures) := by
  unfold replayLoop
  rw [foldl_visit, foldl_visit, foldl_visit]
  exact h.flatMap_perm (·.failures)

theorem mem_keys_byRequest {id : String} :
    id ∈ (byRequest os).keys ↔ id ∈ os.map (·.requestId) := by
  unfold byRequest
  rw [OrderedDict.mem_keys_ofPairs, List.map_map]
  rfl

theorem Parts.matched_left (h : Parts ts os ts₁ os₁ ts₂ os₂) {id : String}
    (hid : id ∈ jobIds ts₁ os₁) :
    id ∈ (replayLoop ts os tolerance).matched ↔ id ∈ (replayLoop ts₁ os₁ tolerance).matched := by
  have hmem : id ∈ (replayLoop ts os tolerance).matched ↔
      id ∈ (replayLoop ts₁ os₁ tolerance).matched ++ (replayLoop ts₂ os₂ tolerance).matched := by
    unfold replayLoop
    rw [foldl_visit, foldl_visit, foldl_visit]
    exact (h.flatMap_perm (·.matched)).mem_iff
  rw [hmem, List.mem_append]
  refine or_iff_left fun h₂ => ?_
  obtain ⟨t, ht, rfl, -⟩ := mem_matched.mp h₂
  exact h.apart hid (List.mem_append_left _ (List.mem_map.mpr ⟨t, ht, rfl⟩))

theorem Parts.mem_unmatched (h : Parts ts os ts₁ os₁ ts₂ os₂) {id : String} :
    id ∈ unmatched (byRequest os) (replayLoop ts os tolerance) ↔
      id ∈ unmatched (byRequest os₁) (replayLoop ts₁ os₁ tolerance) ∨
        id ∈ unmatched (byRequest os₂) (replayLoop ts₂ os₂ tolerance) := by
  have hmem : ∀ {os : List ReplayObservation} {s : ReplayProgress},
      id ∈ unmatched (byRequest os) s ↔ id ∈ os.map (·.requestId) ∧ id ∉ s.matched := by
    intro os s
    unfold unmatched sortedStrings
    rw [(List.perm_insertionSort _ _).mem_iff, List.mem_filter, mem_keys_byRequest,
      decide_eq_true_eq]
  rw [hmem, hmem, hmem, (h.observations_perm.map _).mem_iff, List.map_append, List.mem_append,
    or_and_right]
  refine or_congr (and_congr_right fun hid => ?_) (and_congr_right fun hid => ?_)
  · rw [h.matched_left (List.mem_append_right _ hid)]
  · rw [h.symm.matched_left (List.mem_append_right _ hid)]

theorem nodup_unmatched {s : ReplayProgress} : (unmatched (byRequest os) s).Nodup :=
  (List.perm_insertionSort _ _).nodup_iff.mpr ((byRequest os).nodup.filter _)

theorem Parts.unmatched_perm (h : Parts ts os ts₁ os₁ ts₂ os₂) :
    (unmatched (byRequest os) (replayLoop ts os tolerance)).Perm
      (unmatched (byRequest os₁) (replayLoop ts₁ os₁ tolerance) ++
        unmatched (byRequest os₂) (replayLoop ts₂ os₂ tolerance)) := by
  have hids : ∀ {ts : List Trajectory} {os : List ReplayObservation} {id : String},
      id ∈ unmatched (byRequest os) (replayLoop ts os tolerance) → id ∈ jobIds ts os := by
    intro ts os id hid
    unfold unmatched sortedStrings at hid
    rw [(List.perm_insertionSort _ _).mem_iff, List.mem_filter, mem_keys_byRequest] at hid
    exact List.mem_append_right _ hid.1
  rw [List.perm_ext_iff_of_nodup nodup_unmatched]
  · intro id
    rw [List.mem_append]
    exact h.mem_unmatched
  · refine nodup_unmatched.append nodup_unmatched fun id h₁ h₂ => ?_
    exact h.apart (hids h₁) (hids h₂)

end Parts

/-- **A job in parts.** Split a replay job by request id into two, and shuffle its lines in any way
that keeps the observations of one id in their order. The verdicts and the failures of the job are
those of the parts together, it passes exactly if both parts do, and its counts are the sums. -/
theorem replay_job_in_parts {ts ts₁ ts₂ : List Trajectory} {os os₁ os₂ : List ReplayObservation}
    (h : Parts ts os ts₁ os₁ ts₂ os₂) (tolerance : PyFloat) :
    (runReplay ts os tolerance).Joins (runReplay ts₁ os₁ tolerance)
      (runReplay ts₂ os₂ tolerance) := by
  have hverdicts : (runReplay ts os tolerance).verdicts.Perm
      ((runReplay ts₁ os₁ tolerance).verdicts ++ (runReplay ts₂ os₂ tolerance).verdicts) :=
    h.verdicts
  have hos := h.observations_perm
  have hfailures : (runReplay ts os tolerance).summary.failures.Perm
      ((runReplay ts₁ os₁ tolerance).summary.failures ++
        (runReplay ts₂ os₂ tolerance).summary.failures) := by
    refine (h.loopFailures.append (h.unmatched_perm.map _)).trans ?_
    rw [List.map_append, List.append_assoc]
    refine List.Perm.trans ?_ (.of_eq (List.append_assoc _ _ _).symm)
    exact List.Perm.append_left _ (List.perm_append_comm_assoc _ _ _)
  have hcompared : (runReplay ts os tolerance).summary.compared =
      (runReplay ts₁ os₁ tolerance).summary.compared +
        (runReplay ts₂ os₂ tolerance).summary.compared :=
    hverdicts.length_eq.trans List.length_append
  have hagreed : (runReplay ts os tolerance).summary.agreed =
      (runReplay ts₁ os₁ tolerance).summary.agreed +
        (runReplay ts₂ os₂ tolerance).summary.agreed :=
    (hverdicts.countP_eq ReplayVerdict.agrees).trans List.countP_append
  have hreplays : (runReplay ts os tolerance).summary.replays =
      (runReplay ts₁ os₁ tolerance).summary.replays +
        (runReplay ts₂ os₂ tolerance).summary.replays :=
    hos.length_eq.trans List.length_append
  have hforced : (runReplay ts os tolerance).summary.traceForced =
      (runReplay ts₁ os₁ tolerance).summary.traceForced +
        (runReplay ts₂ os₂ tolerance).summary.traceForced :=
    (hos.countP_eq ReplayObservation.tokensWereForced).trans List.countP_append
  constructor
  case verdicts => exact hverdicts
  case failures => exact hfailures
  case exitCode =>
    rw [exitCode_runReplay, exitCode_runReplay, exitCode_runReplay, ← List.append_eq_nil_iff,
      ← List.perm_nil, hfailures.congr_left, List.perm_nil]
  case trajectories => exact h.trajectories.length_eq.trans List.length_append
  case replays => exact hreplays
  case compared => exact hcompared
  case traceForced => exact hforced
  case agreed => exact hagreed
  case greedy =>
    have hsum := traceForced_add_greedy ts os tolerance
    have hsum₁ := traceForced_add_greedy ts₁ os₁ tolerance
    have hsum₂ := traceForced_add_greedy ts₂ os₂ tolerance
    omega
  case disagreed =>
    have hsum := agreed_add_disagreed ts os tolerance
    have hsum₁ := agreed_add_disagreed ts₁ os₁ tolerance
    have hsum₂ := agreed_add_disagreed ts₂ os₂ tolerance
    omega
  case tokenMismatches =>
    have hsum := (hverdicts.map (·.tokenMismatches)).sum_eq
    rwa [List.map_append, List.sum_append] at hsum
  case lanes =>
    intro lane
    rw [lanes_runReplay, lanes_runReplay, lanes_runReplay, ← List.countP_append]
    exact hverdicts.countP_eq _

/-- The sample record under another id. -/
def secondRecord : Trajectory :=
  { sampleTrajectory with binding := { sampleTrajectory.binding with requestId := "R2" } }

def secondReplay : ReplayObservation := { replayOf 20 with requestId := "R2" }

/-- Two records with their replays, the second of which disagrees, the lines of the second
first. -/
theorem replay_job_in_parts_shuffled :
    (runReplay [secondRecord, sampleTrajectory] [secondReplay, replayOf 19]
      DEFAULT_LOGPROB_TOLERANCE).Joins
      (runReplay [sampleTrajectory] [replayOf 19] DEFAULT_LOGPROB_TOLERANCE)
      (runReplay [secondRecord] [secondReplay] DEFAULT_LOGPROB_TOLERANCE) := by
  refine replay_job_in_parts ⟨.swap _ _ _, fun id => ?_, ?_⟩ _
  · by_cases h₁ : "R1" = id
    · subst h₁
      decide +kernel
    · by_cases h₂ : "R2" = id <;> simp [replayOf, secondReplay, h₁, h₂]
  · show List.Disjoint ["R1", "R1"] ["R2", "R2"]
    simp

end RolloutCore
