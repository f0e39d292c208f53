import RolloutCore.Errors
import RolloutCore.Json

/-!
# Evidence

What an adapter observed, and the postcondition it has to meet: `failureReason` is `none` when it
does and the reason for the taint when it does not. Journal records, orphans and cycle plans are
here as well, as in `evidence.py`.
-/

namespace RolloutCore

/-! ## Evidence of the six steps -/

/-- Result of bringing a fresh engine under control. -/
structure BootstrapEvidence where
  /-- The engine's label after bootstrap; must be `rc-0`. -/
  observedEngineLabel : String
  weightTransferInitialised : Bool
  /-- The label before seeding; must be unmanaged. -/
  preSeedLabel : Option String
  weightIdentity : WeightIdentity
  backend : String
  worldSize : Json
  /-- `none` when bootstrap ran control-plane-only. -/
  weightTransferDriver : Option String

def BootstrapEvidence.failureReason (e : BootstrapEvidence) : Option String :=
  match e.weightTransferInitialised, e.weightTransferDriver with
  | false, some d =>
    some (s!"weight transfer driver {pyRepr d} reported an " ++ "uninitialised transfer engine")
  | true, none =>
    some ("bootstrap reports an initialised weight transfer engine but no " ++
      "driver to drive it; a bootstrapped controller must be able to " ++
      "account for how updates reach the engine")
  | _, _ =>
    match e.preSeedLabel with
    | none =>
      some ("bootstrap must report the pre-seed label; V1 is single-owner and " ++
        "does not adopt an engine it did not seed")
    | some l =>
      match WeightVersion.parseLabel l with
      | .error _ => none
      | .ok _ =>
        some (s!"refusing to claim engine already labelled {pyRepr l}: " ++
          "another RolloutCore controller may own it (a lease/recovery protocol " ++
          "is required and V1 does not implement one)")

/-- The engine's response to the pause. -/
structure DrainEvidence where
  engineDrainCompleted : Bool
  engineActiveRequests : Option ℤ
  note : String
  deriving DecidableEq

def DrainEvidence.failureReason (e : DrainEvidence) : Option String :=
  if !e.engineDrainCompleted then some "engine has not confirmed a completed drain"
  else if e.engineActiveRequests ≠ none ∧ e.engineActiveRequests ≠ some 0 then
    let active := optIntStr e.engineActiveRequests
    some (s!"engine reports drain complete but also {active} " ++
      "active request(s); engine evidence is self-contradictory")
  else none

/-- Result of transferring and loading the new weights. -/
structure UpdateEvidence where
  target : UpdateTarget
  weightsLoaded : Bool
  finishAcknowledged : Bool
  chunksTransferred : Option ℤ
  dataPlaneComplete : Bool
  /-- Identity of the tensors the driver staged, when it can compute one. -/
  observedIdentity : Option WeightIdentity
  deriving DecidableEq

def UpdateEvidence.failureReason (e : UpdateEvidence) : Option String :=
  if !e.weightsLoaded then some "not all weight chunks were loaded"
  else if !e.dataPlaneComplete then
    some "trainer-side weight data plane did not report completion"
  else if !e.finishAcknowledged then
    some "finish_weight_update was not acknowledged by the engine"
  else
    match e.observedIdentity with
    | none => none
    | some i =>
      if i ≠ e.target.identity then
        some (s!"driver staged weight source {i.describe} but " ++
          s!"{e.target.identity.describe} was the target")
      else none

/-- Proof that every cache of previous-generation content is dropped. -/
structure InvalidateEvidence where
  prefixCacheReset : Bool
  encoderCacheReset : Bool
  mmCacheReset : Bool
  deriving DecidableEq

/-- The caches that were not reset. -/
def InvalidateEvidence.missing (e : InvalidateEvidence) : List String :=
  [("prefix cache", e.prefixCacheReset), ("encoder cache", e.encoderCacheReset),
    ("multimodal cache", e.mmCacheReset)].filterMap fun p => if p.2 then none else some p.1

def InvalidateEvidence.failureReason (e : InvalidateEvidence) : Option String :=
  if e.missing = [] then none
  else
    let names := ", ".intercalate e.missing
    some s!"cache invalidation incomplete: {names} not reset"

/-- Pre-resume correctness evidence; the engine is still paused. -/
structure ValidateEvidence where
  target : UpdateTarget
  observedEngineLabel : String
  isPaused : Bool
  cachesStillClean : Bool
  deriving DecidableEq

def ValidateEvidence.failureReason (e : ValidateEvidence) : Option String :=
  if e.observedEngineLabel ≠ e.target.label then
    some (s!"engine reports weight_version {pyRepr e.observedEngineLabel} but " ++
      s!"{pyRepr e.target.label} was expected; refusing to reconcile")
  else if !e.isPaused then
    some ("engine is not paused during validation; it was resumed outside " ++
      "RolloutCore's control")
  else if !e.cachesStillClean then
    some "caches were repopulated between invalidation and validation"
  else none

/-- Result of issuing the resume. -/
structure ResumeEvidence where
  target : UpdateTarget
  resumeAcknowledged : Bool
  isPaused : Bool
  /-- The label re-read after the resume, if the adapter re-checks. -/
  observedEngineLabel : Option String
  deriving DecidableEq

def ResumeEvidence.failureReason (e : ResumeEvidence) : Option String :=
  if !e.resumeAcknowledged then some "resume was not acknowledged by the engine"
  else if e.isPaused then some "engine still reports paused after resume"
  else
    match e.observedEngineLabel with
    | none => none
    | some l =>
      if l ≠ e.target.label then
        some (s!"engine reports weight_version {pyRepr l} after " ++
          s!"resume but {pyRepr e.target.label} was committed")
      else none

/-! ## What passing evidence says -/

theorem DrainEvidence.failureReason_eq_none {e : DrainEvidence} :
    e.failureReason = none ↔ e.engineDrainCompleted = true ∧
      (e.engineActiveRequests = none ∨ e.engineActiveRequests = some 0) := by
  unfold failureReason
  by_cases hc : e.engineDrainCompleted = true
  · by_cases ha : e.engineActiveRequests = none ∨ e.engineActiveRequests = some 0
    · simp [hc, ha, ← not_or]
    · simp [hc, not_or.mp ha]
  · simp [hc]

theorem UpdateEvidence.failureReason_eq_none {e : UpdateEvidence} :
    e.failureReason = none ↔ e.weightsLoaded = true ∧ e.dataPlaneComplete = true ∧
      e.finishAcknowledged = true ∧
      (e.observedIdentity = none ∨ e.observedIdentity = some e.target.identity) := by
  unfold failureReason
  cases e.weightsLoaded <;> cases e.dataPlaneComplete <;> cases e.finishAcknowledged <;>
    cases e.observedIdentity <;> simp

theorem InvalidateEvidence.failureReason_eq_none {e : InvalidateEvidence} :
    e.failureReason = none ↔
      e.prefixCacheReset = true ∧ e.encoderCacheReset = true ∧ e.mmCacheReset = true := by
  unfold failureReason missing
  cases e.prefixCacheReset <;> cases e.encoderCacheReset <;> cases e.mmCacheReset <;> simp

theorem ValidateEvidence.failureReason_eq_none {e : ValidateEvidence} :
    e.failureReason = none ↔ e.observedEngineLabel = e.target.label ∧ e.isPaused = true ∧
      e.cachesStillClean = true := by
  unfold failureReason
  by_cases hl : e.observedEngineLabel = e.target.label <;> cases e.isPaused <;>
    cases e.cachesStillClean <;> simp [hl]

theorem ResumeEvidence.failureReason_eq_none {e : ResumeEvidence} :
    e.failureReason = none ↔ e.resumeAcknowledged = true ∧ e.isPaused = false ∧
      (e.observedEngineLabel = none ∨ e.observedEngineLabel = some e.target.label) := by
  unfold failureReason
  cases e.resumeAcknowledged <;> cases e.isPaused <;> cases e.observedEngineLabel <;> simp

/-! ## Records -/

/-- A rollout bound to one generation and one weight identity, at admission. -/
structure RolloutBinding where
  requestId : String
  version : WeightVersion
  weightIdentity : WeightIdentity
  cacheSalt : String
  admittedSeq : ℕ
  deriving DecidableEq

def RolloutBinding.target (b : RolloutBinding) : UpdateTarget := ⟨b.version, b.weightIdentity⟩

/-- One entry of the lifecycle journal. -/
structure TransitionRecord where
  seq : ℕ
  fromState : LifecycleState
  toState : LifecycleState
  event : RecordEvent
  version : Option WeightVersion
  identity : Option WeightIdentity
  detail : String
  deriving DecidableEq

/-- A binding kept for forensics after a taint. -/
structure OrphanedRollout where
  binding : RolloutBinding
  orphanedInState : LifecycleState
  reason : String
  seq : ℕ
  deriving DecidableEq

/-- Narration of what a transition expects the adapter to do next. -/
structure CyclePlan where
  target : UpdateTarget
  steps : List String
  tags : List String
  deriving DecidableEq

end RolloutCore
