import RolloutCore.Archive
import RolloutCore.Replay
import RolloutCore.Lib.OrderedDict

/-!
# The replay command line

`run` of `scripts/validate_replay.py`, from the loaded records to the summary and the exit code.
What it prints is left out.
-/

namespace RolloutCore

/-! ## The loop over the trajectories -/

/-- The local variables of the loop; `matched` is a set. -/
structure ReplayProgress where
  verdicts : List ReplayVerdict := []
  failures : List String := []
  matched : List String := []

namespace ReplayProgress

def fail (s : ReplayProgress) (failure : String) : ReplayProgress :=
  { s with failures := s.failures ++ [failure] }

/-- A plan was paired with an observation. -/
def compare (s : ReplayProgress) (plan : ReplayPlan) (o : ReplayObservation)
    (tolerance : PyFloat) : ReplayProgress :=
  let verdict := validateReplay plan o tolerance
  let s := { s with
    matched := s.matched ++ [plan.requestId], verdicts := s.verdicts ++ [verdict] }
  if verdict.agrees then s else s.fail s!"{verdict.requestId}: disagrees"

/-- One trajectory. -/
def visit (byRequest : OrderedDict String ReplayObservation) (tolerance : PyFloat)
    (s : ReplayProgress) (t : Trajectory) : ReplayProgress :=
  match ReplayPlan.fromTrajectory t with
  | .error _ => s.fail s!"{t.requestId}: not replayable"
  | .ok plan =>
    match byRequest.get? plan.requestId with
    | none => s.fail s!"{plan.requestId}: no replay"
    | some o => s.compare plan o tolerance

end ReplayProgress

/-! ## The report -/

/-- The aggregate of the JSON artifact. -/
structure ReplaySummary where
  trajectories : ℕ
  replays : ℕ
  compared : ℕ
  traceForced : ℕ
  greedy : ℕ
  agreed : ℕ
  disagreed : ℕ
  failures : List String
  tokenMismatches : ℕ
  logprobLanes : OrderedDict String ℕ
  maxAbsDelta : Option PyFloat
  tolerance : PyFloat

/-- What `run` leaves: the artifact and the exit code. -/
structure ReplayReport where
  verdicts : List ReplayVerdict
  summary : ReplaySummary
  exitCode : ℕ

/-- How often each lane occurs. -/
def countLanes (verdicts : List ReplayVerdict) : OrderedDict String ℕ :=
  verdicts.foldl (fun lanes v =>
    lanes.insert v.logprobLane.value ((lanes.get? v.logprobLane.value).getD 0 + 1)) .empty

/-- The dictionary of the observations: of two with one request id the later stays. -/
def byRequest (os : List ReplayObservation) : OrderedDict String ReplayObservation :=
  .ofPairs (os.map fun o => (o.requestId, o))

/-- The request ids of the dictionary that no trajectory matched, in order. -/
def unmatched (d : OrderedDict String ReplayObservation) (s : ReplayProgress) : List String :=
  sortedStrings (d.keys.filter fun id => id ∉ s.matched)

/-- `run`, on the loaded files. -/
def runReplay (ts : List Trajectory) (os : List ReplayObservation) (tolerance : PyFloat) :
    ReplayReport :=
  let progress := ts.foldl (ReplayProgress.visit (byRequest os) tolerance) {}
  let failures := progress.failures ++
    (unmatched (byRequest os) progress).map fun id => s!"{id}: no trajectory"
  let verdicts := progress.verdicts
  let agreed := verdicts.countP (·.agrees)
  let forced := os.countP (·.tokensWereForced)
  { verdicts
    exitCode := if failures = [] then 0 else 1
    summary := {
      trajectories := ts.length
      replays := os.length
      compared := verdicts.length
      traceForced := forced
      greedy := os.length - forced
      agreed
      disagreed := verdicts.length - agreed
      failures
      tokenMismatches := (verdicts.map (·.tokenMismatches)).sum
      logprobLanes := countLanes verdicts
      maxAbsDelta := PyFloat.maxOf (verdicts.filterMap (·.statistics.maxAbsDelta))
      tolerance } }

/-! ## What the loop gathers -/

section Loop

variable (d : OrderedDict String ReplayObservation) (tolerance : PyFloat)

theorem visit_append (s : ReplayProgress) (t : Trajectory) :
    s.visit d tolerance t =
      ⟨s.verdicts ++ (ReplayProgress.visit d tolerance {} t).verdicts,
        s.failures ++ (ReplayProgress.visit d tolerance {} t).failures,
        s.matched ++ (ReplayProgress.visit d tolerance {} t).matched⟩ := by
  unfold ReplayProgress.visit
  cases ReplayPlan.fromTrajectory t with
  | error e => simp [ReplayProgress.fail]
  | ok plan =>
    cases hget : d.get? plan.requestId with
    | none => simp [hget, ReplayProgress.fail]
    | some o =>
      cases hagrees : (validateReplay plan o tolerance).agrees <;>
        simp [hget, ReplayProgress.compare, ReplayProgress.fail, hagrees]

theorem foldl_visit (ts : List Trajectory) (s : ReplayProgress) :
    ts.foldl (ReplayProgress.visit d tolerance) s =
      ⟨s.verdicts ++ ts.flatMap fun t => (ReplayProgress.visit d tolerance {} t).verdicts,
        s.failures ++ ts.flatMap fun t => (ReplayProgress.visit d tolerance {} t).failures,
        s.matched ++ ts.flatMap fun t => (ReplayProgress.visit d tolerance {} t).matched⟩ := by
  induction ts generalizing s with
  | nil => simp
  | cons t ts ih =>
    rw [List.foldl_cons, visit_append, ih]
    simp

end Loop

/-! ## Who is compared with whom -/

/-- The last observation with a request id. -/
def lastObservation (os : List ReplayObservation) (id : String) : Option ReplayObservation :=
  os.reverse.find? fun o => o.requestId = id

theorem get?_byRequest (os : List ReplayObservation) (id : String) :
    (byRequest os).get? id = lastObservation os id := by
  unfold byRequest lastObservation
  rw [OrderedDict.get?_ofPairs, ← List.map_reverse, List.find?_map, Option.map_map]
  simp [Function.comp_def]

theorem lastObservation_mem {os : List ReplayObservation} {id : String} {o : ReplayObservation}
    (h : lastObservation os id = some o) : o ∈ os ∧ o.requestId = id :=
  ⟨List.mem_reverse.mp (List.mem_of_find?_eq_some h), by simpa using List.find?_some h⟩

/-- The replay `o` of the record `t` agrees with it. -/
def ReplayAgrees (t : Trajectory) (o : ReplayObservation) (tolerance : PyFloat) : Prop :=
  ∃ plan, ReplayPlan.fromTrajectory t = .ok plan ∧ (validateReplay plan o tolerance).agrees = true

/-- The pairs that are compared in a run. -/
def comparisons (ts : List Trajectory) (os : List ReplayObservation) :
    List (Trajectory × ReplayObservation) :=
  ts.filterMap fun t => if t.replayReady then (lastObservation os t.requestId).map (t, ·) else none

theorem mem_comparisons {ts : List Trajectory} {os : List ReplayObservation} {t : Trajectory}
    {o : ReplayObservation} : (t, o) ∈ comparisons ts os ↔
      t ∈ ts ∧ t.replayReady = true ∧ lastObservation os t.requestId = some o := by
  unfold comparisons
  rw [List.mem_filterMap]
  constructor
  · rintro ⟨t', ht', h⟩
    cases hready : t'.replayReady with
    | false => simp [hready] at h
    | true =>
      rw [hready, if_pos rfl] at h
      obtain ⟨o', ho', heq⟩ := Option.map_eq_some_iff.mp h
      cases heq
      exact ⟨ht', hready, ho'⟩
  · rintro ⟨ht, hready, ho⟩
    exact ⟨t, ht, by rw [hready, if_pos rfl, ho]; rfl⟩

theorem replayReady_of_agrees {t : Trajectory} {o : ReplayObservation} {tolerance : PyFloat}
    (h : ReplayAgrees t o tolerance) : t.replayReady = true := by
  obtain ⟨plan, hplan, -⟩ := h
  exact ReplayPlan.fromTrajectory_isOk.mp ⟨plan, hplan⟩

section Visit

variable {os : List ReplayObservation} {tolerance : PyFloat} {t : Trajectory}

/-- What becomes of a trajectory: it has no plan, it has no observation, or it is compared with
the last one under its id. -/
theorem visit_cases (os : List ReplayObservation) (tolerance : PyFloat) (t : Trajectory) :
    (t.replayReady = false ∧ ∃ failure,
      ReplayProgress.visit (byRequest os) tolerance {} t = ⟨[], [failure], []⟩) ∨
    (t.replayReady = true ∧ lastObservation os t.requestId = none ∧ ∃ failure,
      ReplayProgress.visit (byRequest os) tolerance {} t = ⟨[], [failure], []⟩) ∨
    ∃ plan o, ReplayPlan.fromTrajectory t = .ok plan ∧
      lastObservation os t.requestId = some o ∧
      ReplayProgress.visit (byRequest os) tolerance {} t = ⟨[validateReplay plan o tolerance],
        if (validateReplay plan o tolerance).agrees then [] else [s!"{plan.requestId}: disagrees"],
        [t.requestId]⟩ := by
  unfold ReplayProgress.visit
  cases hplan : ReplayPlan.fromTrajectory t with
  | error e =>
    have hready : t.replayReady = false := by
      rw [← Bool.not_eq_true, ← ReplayPlan.fromTrajectory_isOk, hplan]
      simp
    exact .inl ⟨hready, _, rfl⟩
  | ok plan =>
    have hready := ReplayPlan.fromTrajectory_isOk.mp ⟨plan, hplan⟩
    have hid := ReplayPlan.fromTrajectory_requestId hplan
    simp only [hid, get?_byRequest]
    cases hlast : lastObservation os t.requestId with
    | none => exact .inr (.inl ⟨hready, rfl, _, rfl⟩)
    | some o =>
      refine .inr (.inr ⟨plan, o, rfl, rfl, ?_⟩)
      have hverdict : (validateReplay plan o tolerance).requestId = t.requestId := hid
      unfold ReplayProgress.compare
      cases hagrees : (validateReplay plan o tolerance).agrees <;>
        simp [hagrees, ReplayProgress.fail, hid, hverdict]

/-- A trajectory is no failure exactly if the last observation with its id agrees with it. -/
theorem visit_failures :
    (ReplayProgress.visit (byRequest os) tolerance {} t).failures = [] ↔
      ∃ o, lastObservation os t.requestId = some o ∧ ReplayAgrees t o tolerance := by
  rcases visit_cases os tolerance t with ⟨hready, failure, hvisit⟩ |
    ⟨-, hlast, failure, hvisit⟩ | ⟨plan, o, hplan, hlast, hvisit⟩
  · rw [hvisit]
    refine iff_of_false (List.cons_ne_nil _ _) ?_
    rintro ⟨o, -, hagrees⟩
    rw [replayReady_of_agrees hagrees] at hready
    cases hready
  · rw [hvisit, hlast]
    exact iff_of_false (List.cons_ne_nil _ _) (by simp)
  · rw [hvisit, hlast]
    unfold ReplayAgrees
    rw [hplan]
    simp

theorem visit_matched {id : String} :
    id ∈ (ReplayProgress.visit (byRequest os) tolerance {} t).matched ↔
      id = t.requestId ∧ t.replayReady = true ∧
        (lastObservation os t.requestId).isSome = true := by
  rcases visit_cases os tolerance t with ⟨hready, failure, hvisit⟩ |
    ⟨-, hlast, failure, hvisit⟩ | ⟨plan, o, hplan, hlast, hvisit⟩
  · simp [hvisit, hready]
  · simp [hvisit, hlast]
  · simp [hvisit, hlast, ReplayPlan.fromTrajectory_isOk.mp ⟨plan, hplan⟩]

theorem visit_verdicts :
    (ReplayProgress.visit (byRequest os) tolerance {} t).verdicts =
      (comparisons [t] os).filterMap fun p =>
        (ReplayPlan.fromTrajectory p.1).toOption.map (validateReplay · p.2 tolerance) := by
  unfold comparisons
  rcases visit_cases os tolerance t with ⟨hready, failure, hvisit⟩ |
    ⟨-, hlast, failure, hvisit⟩ | ⟨plan, o, hplan, hlast, hvisit⟩
  · simp [hvisit, hready]
  · simp [hvisit, hlast]
  · simp [hvisit, hlast, hplan, ReplayPlan.fromTrajectory_isOk.mp ⟨plan, hplan⟩, Except.toOption]

end Visit

theorem verdicts_runReplay (ts : List Trajectory) (os : List ReplayObservation)
    (tolerance : PyFloat) : (runReplay ts os tolerance).verdicts =
      (comparisons ts os).filterMap fun p =>
        (ReplayPlan.fromTrajectory p.1).toOption.map (validateReplay · p.2 tolerance) := by
  show (ts.foldl (ReplayProgress.visit (byRequest os) tolerance) {}).verdicts = _
  rw [foldl_visit]
  induction ts with
  | nil => rfl
  | cons t ts ih =>
    have hcons : comparisons (t :: ts) os = comparisons [t] os ++ comparisons ts os :=
      List.filterMap_append (l := [t])
    rw [hcons, List.filterMap_append, ← ih, ← visit_verdicts]
    simp

/-! ## The exit code -/

theorem unmatched_eq_nil {os : List ReplayObservation} {s : ReplayProgress} :
    unmatched (byRequest os) s = [] ↔ ∀ o ∈ os, o.requestId ∈ s.matched := by
  have hkeys : ∀ id, id ∈ (byRequest os).keys ↔ ∃ o ∈ os, o.requestId = id := by
    intro id
    unfold byRequest
    rw [OrderedDict.mem_keys_ofPairs, List.map_map, List.mem_map]
    rfl
  unfold unmatched sortedStrings
  rw [← List.perm_nil, (List.perm_insertionSort _ _).congr_left, List.perm_nil,
    List.filter_eq_nil_iff]
  simp only [hkeys]
  simp

theorem mem_matched {ts : List Trajectory} {os : List ReplayObservation} {tolerance : PyFloat}
    {id : String} :
    id ∈ (ts.foldl (ReplayProgress.visit (byRequest os) tolerance) {}).matched ↔
      ∃ t ∈ ts, id = t.requestId ∧ t.replayReady = true ∧
        (lastObservation os t.requestId).isSome = true := by
  rw [foldl_visit]
  show id ∈ ts.flatMap _ ↔ _
  rw [List.mem_flatMap]
  exact exists_congr fun t => and_congr_right fun _ => visit_matched

/-- A run passes exactly if every trajectory agrees with the last observation under its id, and
every observation has a trajectory. -/
theorem exitCode_eq_zero {ts : List Trajectory} {os : List ReplayObservation}
    {tolerance : PyFloat} : (runReplay ts os tolerance).exitCode = 0 ↔
      (∀ t ∈ ts, ∃ o, lastObservation os t.requestId = some o ∧ ReplayAgrees t o tolerance) ∧
        ∀ o ∈ os, ∃ t ∈ ts, t.requestId = o.requestId := by
  have hfailures : (ts.foldl (ReplayProgress.visit (byRequest os) tolerance) {}).failures = [] ↔
      ∀ t ∈ ts, ∃ o, lastObservation os t.requestId = some o ∧ ReplayAgrees t o tolerance := by
    rw [foldl_visit]
    show ts.flatMap _ = [] ↔ _
    rw [List.flatMap_eq_nil_iff]
    exact forall₂_congr fun t _ => visit_failures
  have hexit : (runReplay ts os tolerance).exitCode = 0 ↔
      (ts.foldl (ReplayProgress.visit (byRequest os) tolerance) {}).failures = [] ∧
        unmatched (byRequest os) (ts.foldl (ReplayProgress.visit (byRequest os) tolerance) {}) =
          [] := by
    unfold runReplay
    simp
  rw [hexit, hfailures, unmatched_eq_nil]
  refine and_congr_right fun hall => forall₂_congr fun o _ => mem_matched.trans
    (exists_congr fun t => and_congr_right fun ht => ?_)
  constructor
  · exact fun h => h.1.symm
  · intro hid
    obtain ⟨o', hlast, hagrees⟩ := hall t ht
    exact ⟨hid.symm, replayReady_of_agrees hagrees, by rw [hlast]; rfl⟩

/-- Every trajectory is ready and compared with an observation of its id that agrees with it, and
every observation is compared with a trajectory of its id and agrees with it. -/
def Complete (ts : List Trajectory) (os : List ReplayObservation) (tolerance : PyFloat) : Prop :=
  (∀ t ∈ ts, t.replayReady = true ∧ ∃ o, (t, o) ∈ comparisons ts os ∧
    o.requestId = t.requestId ∧ ReplayAgrees t o tolerance) ∧
  ∀ o ∈ os, ∃ t, (t, o) ∈ comparisons ts os ∧ o.requestId = t.requestId ∧
    ReplayAgrees t o tolerance

/-- A run is complete exactly if it passes and no observation is followed by a different one
under the same id. -/
theorem complete_iff {ts : List Trajectory} {os : List ReplayObservation} {tolerance : PyFloat} :
    Complete ts os tolerance ↔ (runReplay ts os tolerance).exitCode = 0 ∧
      ∀ o ∈ os, lastObservation os o.requestId = some o := by
  rw [exitCode_eq_zero]
  constructor
  · rintro ⟨hts, hos⟩
    refine ⟨⟨fun t ht => ?_, fun o ho => ?_⟩, fun o ho => ?_⟩
    · obtain ⟨-, o, hmem, -, hagrees⟩ := hts t ht
      exact ⟨o, (mem_comparisons.mp hmem).2.2, hagrees⟩
    · obtain ⟨t, hmem, hid, -⟩ := hos o ho
      exact ⟨t, (mem_comparisons.mp hmem).1, hid.symm⟩
    · obtain ⟨t, hmem, hid, -⟩ := hos o ho
      rw [hid]
      exact (mem_comparisons.mp hmem).2.2
  · rintro ⟨⟨hts, hos⟩, hlast⟩
    refine ⟨fun t ht => ?_, fun o ho => ?_⟩
    · obtain ⟨o, ho, hagrees⟩ := hts t ht
      have hready := replayReady_of_agrees hagrees
      exact ⟨hready, o, mem_comparisons.mpr ⟨ht, hready, ho⟩, (lastObservation_mem ho).2, hagrees⟩
    · obtain ⟨t, ht, hid⟩ := hos o ho
      obtain ⟨o', ho', hagrees⟩ := hts t ht
      -- the observation compared with `t` is `o` itself
      rw [hid, hlast o ho] at ho'
      cases ho'
      exact ⟨t, mem_comparisons.mpr ⟨ht, replayReady_of_agrees hagrees, by rw [hid, hlast o ho]⟩,
        hid.symm, hagrees⟩

/-- **The exit code.** A run returns 0 on the complete inputs and 1 on the others, unless nothing
else is wrong and an observation is dropped for a different one behind it under the same id. -/
theorem replay_exit_code_iff (ts : List Trajectory) (os : List ReplayObservation)
    (tolerance : PyFloat) :
    (((runReplay ts os tolerance).exitCode = 0 ↔ Complete ts os tolerance) ∧
      ((runReplay ts os tolerance).exitCode = 1 ↔ ¬ Complete ts os tolerance)) ↔
    (∀ o ∈ os, lastObservation os o.requestId = some o) ∨
      (∃ t ∈ ts, ∀ o, lastObservation os t.requestId = some o → ¬ ReplayAgrees t o tolerance) ∨
      ∃ o ∈ os, ∀ t ∈ ts, t.requestId ≠ o.requestId := by
  have hone : (runReplay ts os tolerance).exitCode = 1 ↔
      ¬ (runReplay ts os tolerance).exitCode = 0 := by
    unfold runReplay
    simp only
    split_ifs <;> simp
  have hother : ¬ (runReplay ts os tolerance).exitCode = 0 ↔
      (∃ t ∈ ts, ∀ o, lastObservation os t.requestId = some o → ¬ ReplayAgrees t o tolerance) ∨
        ∃ o ∈ os, ∀ t ∈ ts, t.requestId ≠ o.requestId := by
    rw [exitCode_eq_zero, not_and_or]
    push Not
    rfl
  rw [← hother, hone, complete_iff]
  by_cases hzero : (runReplay ts os tolerance).exitCode = 0 <;> simp [hzero]

/-- A replay of the sample record that returned the token `n`. -/
def replayOf (n : ℤ) : ReplayObservation :=
  { requestId := "R1", version := "rc-1", tokenIds := [n] }

/-- A disagreeing observation in front of an agreeing one under the same id is not looked at. -/
theorem dropped_observation :
    (runReplay [sampleTrajectory] [replayOf 20, replayOf 19] DEFAULT_LOGPROB_TOLERANCE).exitCode =
      0 ∧
    ¬ ReplayAgrees sampleTrajectory (replayOf 20) DEFAULT_LOGPROB_TOLERANCE ∧
    ¬ Complete [sampleTrajectory] [replayOf 20, replayOf 19] DEFAULT_LOGPROB_TOLERANCE := by
  refine ⟨by decide +kernel, ?_, ?_⟩
  · rintro ⟨plan, hplan, hagrees⟩
    cases hplan
    exact absurd hagrees (by decide +kernel)
  · rw [complete_iff]
    rintro ⟨-, hlast⟩
    exact absurd (hlast _ List.mem_cons_self) (by decide +kernel)

end RolloutCore
