import RolloutCore.Trajectory

/-!
# Replay validation

`validate_replay` of `replay.py`: a pure comparison of a plan, made from a trajectory record, with
what a replay returned. The function is cut at the comments of the source: protocol, tokens,
logprobs.
-/

namespace RolloutCore

/-- `|Δ logprob|` at or below this is agreement: the double `1e-3`. -/
def DEFAULT_LOGPROB_TOLERANCE : PyFloat := .fin (1152921504606847 / 1152921504606846976)

/-- A replay that cannot be made meaningful, with its message. -/
structure ReplayError where
  message : String

/-! ## Plans and observations -/

/-- What to ask a replayed engine for. -/
structure ReplayPlan where
  requestId : String
  prompt : String
  expectedTokenIds : List ℤ
  version : String
  identityDigest : String
  cacheSalt : String
  recordedLogprobs : List PyFloat
  deriving DecidableEq

/-- Build a plan, or refuse if the record cannot support a replay claim. -/
def ReplayPlan.fromTrajectory (t : Trajectory) : Except ReplayError ReplayPlan :=
  if !t.replayReady then
    .error ⟨s!"trajectory {pyRepr t.requestId} carries a manifest-only identity " ++
      s!"({t.identity.short}), which cannot separate two checkpoints of " ++
      "the same architecture, so a replay could not be attributed to any " ++
      "particular weight source; record a declared provenance " ++
      "(checkpoint/run_id/step) before replaying"⟩
  else
    .ok ⟨t.requestId, t.prompt, t.tokenIds, t.version, t.identity.digest, t.cacheSalt, t.logprobs⟩

/-- What a replay run returned. -/
structure ReplayObservation where
  requestId : String
  version : String
  tokenIds : List ℤ
  logprobs : List PyFloat := []
  identityDigest : Option String := none
  prompt : Option String := none
  /-- The engine was told which tokens to emit. -/
  tokensWereForced : Bool := false
  deriving DecidableEq

/-! ## Tokens -/

/-- The positions within the shorter length at which the two sequences differ. -/
def mismatchIndexes (expected observed : List ℤ) : List ℕ :=
  (List.range (min expected.length observed.length)).filter fun i => expected[i]? ≠ observed[i]?

/-- The first position that differs or was never compared. -/
def firstDivergence (expected observed : List ℤ) : Option ℕ :=
  match mismatchIndexes expected observed with
  | i :: _ => some i
  | [] =>
    if expected.length ≠ observed.length then some (min expected.length observed.length) else none

def sharedPrefix (expected observed : List ℤ) : ℕ :=
  (firstDivergence expected observed).getD (min expected.length observed.length)

/-! ## Logprobs -/

/-- Which sides have a logprob for every compared position. -/
inductive LogprobLane
  | compared | recordMissing | replayMissing | bothMissing
  deriving DecidableEq

def LogprobLane.value : LogprobLane → String
  | .compared => "compared"
  | .recordMissing => "record-missing"
  | .replayMissing => "replay-missing"
  | .bothMissing => "both-missing"

/-- The figures of the logprob lane; all absent when nothing was compared. -/
structure LogprobStatistics where
  comparedLogprobs : ℕ := 0
  meanAbsDelta : Option PyFloat := none
  maxAbsDelta : Option PyFloat := none
  p99AbsDelta : Option PyFloat := none
  worstIndex : Option ℕ := none

/-- The index of the nearest rank among `n` values in order, clamped into range. -/
def p99Index (n : ℕ) : ℕ := (min ((n : ℤ) - 1) (⌈(99 / 100 : ℚ) * n⌉ - 1)).toNat

def LogprobStatistics.ofDeltas (deltas : List PyFloat) : LogprobStatistics :=
  match PyFloat.maxOf deltas with
  | none => {}
  | some worst => {
      comparedLogprobs := deltas.length
      meanAbsDelta := some ((PyFloat.sum deltas).divCount deltas.length)
      maxAbsDelta := some worst
      p99AbsDelta := (PyFloat.sorted deltas)[p99Index deltas.length]?
      worstIndex := some (deltas.idxOf worst) }

/-! ## The verdict -/

/-- The outcome of one comparison, with every number the decision rested on. -/
structure ReplayVerdict where
  requestId : String
  agrees : Bool
  protocol : List String
  tokenMismatches : ℕ
  firstDivergence : Option ℕ
  sharedPrefix : ℕ
  logprobLane : LogprobLane
  statistics : LogprobStatistics
  tolerance : PyFloat
  notes : List String

namespace ReplayPlan

variable (plan : ReplayPlan) (o : ReplayObservation)

/-- How many positions are compared. -/
def compared : ℕ := min plan.expectedTokenIds.length o.tokenIds.length

def tokenMismatches : ℕ := (mismatchIndexes plan.expectedTokenIds o.tokenIds).length

/-- A token the engine was told to emit is a protocol matter, not a finding. -/
def echoViolations : List String :=
  if !o.tokensWereForced then []
  else if plan.tokenMismatches o ≠ 0 then
    let first := match RolloutCore.firstDivergence plan.expectedTokenIds o.tokenIds with
      | none => "None"
      | some i => toString i
    [s!"echo: the engine was told to emit exactly these token ids and did not -- " ++
      s!"{plan.tokenMismatches o} position(s) differ, the first at {first}; " ++
      "the replay is faulty and says nothing about the weights"]
  else if o.tokenIds.length ≠ plan.expectedTokenIds.length then
    [s!"echo: the engine was told to emit exactly {plan.expectedTokenIds.length} " ++
      s!"token ids and returned {o.tokenIds.length}; the replay is faulty " ++
      "and says nothing about the weights"]
  else []

/-- Why the comparison itself is not sound. -/
def protocol : List String :=
  (if o.version ≠ plan.version then
    [s!"version: the record was bound to {plan.version} but the replay ran on " ++
      s!"{o.version}; a comparison across weight versions is meaningless"] else []) ++
  (match o.identityDigest with
    | some d => if d ≠ plan.identityDigest then
        [s!"identity: the record declares {plan.identityDigest} but the replay reports " ++
          s!"{d}; these are not the same weight source"] else []
    | none => []) ++
  (match o.prompt with
    | some p => if p ≠ plan.prompt then
        [s!"prompt: the record replays {pyRepr plan.prompt} but the observation reports " ++
          s!"{pyRepr p}"] else []
    | none => []) ++
  (if o.tokenIds.length < plan.expectedTokenIds.length then
    [s!"early stop: the engine returned {o.tokenIds.length} tokens for an " ++
      s!"expected sequence of {plan.expectedTokenIds.length}"] else []) ++
  plan.echoViolations o

/-- The record has a logprob for every compared position; an empty one covers nothing. -/
def recordCovers : Bool :=
  plan.recordedLogprobs ≠ [] ∧ plan.compared o ≤ plan.recordedLogprobs.length

def observedCovers : Bool := o.logprobs ≠ [] ∧ plan.compared o ≤ o.logprobs.length

def logprobLane : LogprobLane :=
  if plan.recordCovers o && plan.observedCovers o then .compared
  else if !plan.recordCovers o && !plan.observedCovers o then .bothMissing
  else if plan.recordCovers o then .replayMissing
  else .recordMissing

/-- `|Δ logprob|` at every compared position, when both sides cover all of them. -/
def deltas : List PyFloat :=
  (List.zipWith (fun r s => (r.sub s).abs) plan.recordedLogprobs o.logprobs).take (plan.compared o)

def statistics : LogprobStatistics :=
  if plan.logprobLane o = .compared then .ofDeltas (plan.deltas o) else {}

/-- The largest delta, if there is one, is within the tolerance. -/
def withinTolerance (tolerance : PyFloat) : Bool :=
  match (plan.statistics o).maxAbsDelta with
  | none => false
  | some worst => worst.le tolerance

def logprobsAgree (tolerance : PyFloat) : Bool :=
  plan.logprobLane o ≠ .compared || plan.withinTolerance o tolerance

def greedyNotes : List String :=
  if !o.tokensWereForced ∧ plan.tokenMismatches o ≠ 0 then
    [s!"greedy replay: the tokens were expected, not forced, so the " ++
      s!"{plan.tokenMismatches o} mismatch(es) are the finding -- the weights did not " ++
      "reproduce their own argmax"]
  else []

def logprobNotes (tolerance : PyFloat) : List String :=
  if plan.logprobLane o ≠ .compared then
    [s!"logprobs were not compared ({(plan.logprobLane o).value}); the verdict is token-only"]
  else
    match (plan.statistics o).maxAbsDelta with
    | none => []
    | some worst =>
      if tolerance.lt worst then
        let position := match (plan.statistics o).worstIndex with
          | none => "None"
          | some i => toString i
        [s!"max |Δ logprob| {worst.format6g} exceeds the tolerance " ++
          s!"{tolerance.format6g} at position {position}"]
      else []

def notes (tolerance : PyFloat) : List String :=
  plan.greedyNotes o ++
  (if o.tokenIds.length > plan.expectedTokenIds.length then
    [s!"the replay returned {o.tokenIds.length - plan.compared o} token(s) beyond the " ++
      "expected sequence; they were ignored, and agreement withholds because the replay " ++
      "was not run the way the record describes"] else []) ++
  plan.logprobNotes o tolerance

def agrees (tolerance : PyFloat) : Bool :=
  plan.protocol o = [] ∧ plan.tokenMismatches o = 0 ∧
    plan.expectedTokenIds.length = o.tokenIds.length ∧ plan.logprobsAgree o tolerance

end ReplayPlan

/-- Compare a replay with its plan. -/
def validateReplay (plan : ReplayPlan) (o : ReplayObservation)
    (tolerance : PyFloat := DEFAULT_LOGPROB_TOLERANCE) : ReplayVerdict where
  requestId := plan.requestId
  agrees := plan.agrees o tolerance
  protocol := plan.protocol o
  tokenMismatches := plan.tokenMismatches o
  firstDivergence := firstDivergence plan.expectedTokenIds o.tokenIds
  sharedPrefix := sharedPrefix plan.expectedTokenIds o.tokenIds
  logprobLane := plan.logprobLane o
  statistics := plan.statistics o
  tolerance := tolerance
  notes := plan.notes o tolerance

theorem ReplayPlan.fromTrajectory_requestId {t : Trajectory} {plan : ReplayPlan}
    (h : fromTrajectory t = .ok plan) : plan.requestId = t.requestId := by
  unfold fromTrajectory at h
  by_cases hready : t.replayReady = true
  · rw [hready] at h
    cases h
    rfl
  · rw [Bool.not_eq_true] at hready
    rw [hready] at h
    cases h

/-- A plan is made exactly from the records that are ready. -/
theorem ReplayPlan.fromTrajectory_isOk {t : Trajectory} :
    (∃ plan, fromTrajectory t = .ok plan) ↔ t.replayReady = true := by
  unfold fromTrajectory
  cases t.replayReady <;> simp

end RolloutCore
