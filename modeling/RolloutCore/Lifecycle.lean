import RolloutCore.Evidence
import RolloutCore.Lib.OrderedDict

/-!
# The lifecycle controller

`LifecycleController` of `lifecycle.py`: its nine fields and its thirteen operations. An operation
is a program in `Ctl`, state passing with Python exceptions: a raise keeps the changes made before
it, as it does in the source. Every operation runs under the controller's lock, so one operation
is one atomic step; `Op` lists them and `Op.call` dispatches.
-/

namespace RolloutCore

/-! ## The transition table -/

/-- The complete happy-path transition table. -/
def LEGAL_TRANSITIONS : LifecycleState → Event → Option LifecycleState
  | .uninitialized, .initialise => some .ready
  | .ready, .beginDrain => some .draining
  | .draining, .confirmDrained => some .quiesced
  | .quiesced, .beginUpdate => some .updating
  | .updating, .confirmUpdated => some .invalidating
  | .invalidating, .confirmInvalidated => some .validating
  | .validating, .confirmValidated => some .resuming
  | .resuming, .confirmResumed => some .ready
  | _, _ => none

/-- States from which rollouts may be admitted. -/
def ADMITTING_STATES : List LifecycleState := [.ready]

/-- States in which a rollout may complete. -/
def ROLLOUT_COMPLETION_STATES : List LifecycleState := [.ready, .draining]

/-- The `str` of the sorted list of completion states. -/
def completionStatesText : String :=
  "[" ++ ", ".intercalate ((sortedStrings (ROLLOUT_COMPLETION_STATES.map (·.value))).map pyRepr) ++
    "]"

/-! ## The controller -/

/-- The fields of the controller; the lock is the atomicity of `Op.call`. -/
structure LifecycleController where
  state : LifecycleState
  currentTarget : Option UpdateTarget
  pendingTarget : Option UpdateTarget
  active : OrderedDict String RolloutBinding
  orphaned : List OrphanedRollout
  journal : List TransitionRecord
  seq : ℕ
  taintReason : Option String
  taintedInState : Option LifecycleState
  deriving DecidableEq

/-- One call on the controller: state passing with exceptions. -/
abbrev Ctl := EStateM PyExc LifecycleController

namespace LifecycleController

/-- The controller as constructed. -/
def init : LifecycleController where
  state := .uninitialized
  currentTarget := none
  pendingTarget := none
  active := .empty
  orphaned := []
  journal := []
  seq := 0
  taintReason := none
  taintedInState := none

/-- The bindings in admission order. -/
def activeRollouts (c : LifecycleController) : List RolloutBinding := c.active.values

/-! ### The transition core -/

/-- `if condition: raise e`. -/
def raiseIf (condition : Bool) (e : RolloutCoreError) : Ctl Unit :=
  if condition then throw (.core e) else pure ()

/-- Assert that `event` is legal from the current state. -/
def requireLegal (event : Event) : Ctl Unit := do
  let c ← get
  raiseIf (LEGAL_TRANSITIONS c.state event).isNone
    (.illegalTransition c.state (.event event) "")

def record (fromState toState : LifecycleState) (event : Event) (detail : String)
    (target : Option UpdateTarget) : Ctl Unit :=
  modify fun c =>
    let effective := target <|> c.pendingTarget <|> c.currentTarget
    { c with
      seq := c.seq + 1
      journal := c.journal ++ [⟨c.seq + 1, fromState, toState, .event event,
        effective.map (·.version), effective.map (·.identity), detail⟩] }

/-- Apply a table-defined transition, or raise. -/
def advance (event : Event) (detail : String) (target : Option UpdateTarget) : Ctl Unit := do
  let c ← get
  match LEGAL_TRANSITIONS c.state event with
  | none => throw (.core (.illegalTransition c.state (.event event) detail))
  | some next =>
    record c.state next event detail target
    modify fun c => { c with state := next }

/-- The orphans a taint makes of the active bindings, numbered from `seq + 1` on. -/
def orphans (fromState : LifecycleState) (reason : String) :
    ℕ → List RolloutBinding → List OrphanedRollout
  | _, [] => []
  | seq, b :: bs => ⟨b, fromState, reason, seq + 1⟩ :: orphans fromState reason (seq + 1) bs

/-- Taint, keeping the bindings as orphans, and return the error to raise: `error`, when one is
given. A second taint keeps the first reason. -/
def taintWith (reason : String) (error : Option RolloutCoreError) : Ctl RolloutCoreError := do
  let c ← get
  if c.state = .tainted then
    return .engineTainted c.state (strOr c.taintReason reason)
  set { c with
    taintReason := some reason
    taintedInState := some c.state
    seq := c.seq + c.active.size
    orphaned := c.orphaned ++ orphans c.state reason c.seq c.active.values
    active := .empty }
  record c.state .tainted .taint reason none
  modify fun c' => { c' with state := .tainted, pendingTarget := none }
  return error.getD (.engineTainted c.state reason)

/-- Taint and raise. -/
def raiseTaint {α : Type} (reason : String) (error : Option RolloutCoreError) : Ctl α := do
  let e ← taintWith reason error
  throw (.core e)

/-- `if condition: raise self._taint_with(reason, error)`. -/
def taintIf (condition : Bool) (reason : String) (error : Option RolloutCoreError) : Ctl Unit :=
  if condition then raiseTaint reason error else pure ()

/-- Raise unless a precondition holds; the state is left as it is. -/
def require (condition : Bool) (invariant detail : String) : Ctl Unit :=
  if condition then pure () else throw (.core (.invariantViolation invariant detail))

/-- `assert x is not None`. -/
def assertSome {α : Type} : Option α → Ctl α
  | none => throw .assertion
  | some a => pure a

/-- Taint on any engine-side postcondition failure. -/
def checkEvidence (failureReason : Option String) : Ctl Unit :=
  match failureReason with
  | none => pure ()
  | some reason => raiseTaint reason none

/-! ### Transitions -/

/-- UNINITIALIZED → READY. -/
def initialise (evidence : BootstrapEvidence) : Ctl Unit := do
  requireLegal .initialise
  checkEvidence evidence.failureReason
  match WeightVersion.parseLabel evidence.observedEngineLabel with
  | .error exc =>
    raiseTaint s!"engine does not report a RolloutCore-managed weight_version: {exc.message}" none
  | .ok observed =>
    taintIf (observed ≠ ⟨INITIAL_VERSION⟩)
      (s!"engine reports {pyRepr observed.label} at bootstrap; a fresh engine must " ++
        s!"report {pyRepr (WeightVersion.mk INITIAL_VERSION).label}") none
    advance .initialise s!"backend={evidence.backend}" none
    modify fun c => { c with currentTarget := some ⟨observed, evidence.weightIdentity⟩ }

/-- READY → DRAINING. -/
def beginDrain : Ctl CyclePlan := do
  requireLegal .beginDrain
  advance .beginDrain "" none
  let c ← get
  let current ← assertSome c.currentTarget
  return ⟨current, ["POST /pause?mode=wait&clear_cache=false"], ["pause", "drain"]⟩

/-- DRAINING → QUIESCED. An unfinished drain is retryable; a finished one that disagrees with the
local bookkeeping taints. -/
def confirmDrained (evidence : DrainEvidence) : Ctl Unit := do
  requireLegal .confirmDrained
  let c ← get
  raiseIf (!evidence.engineDrainCompleted)
    (.evidenceNotReady "I5-DRAIN" ("engine drain is still in flight; " ++
      s!"{c.active.size} local rollout(s) outstanding is expected here"))
  let ids := sortedStrings c.active.keys
  let joined := ", ".intercalate ids
  taintIf (c.active.entries ≠ [])
    (s!"engine reported a completed drain but RolloutCore still counts " ++
      s!"{ids.length} active rollout(s) ({joined})")
    (some (.drainDisagreement c.state ids.length ids))
  checkEvidence evidence.failureReason
  advance .confirmDrained evidence.note none

/-- QUIESCED → UPDATING. -/
def beginUpdate (target : UpdateTarget) : Ctl CyclePlan := do
  requireLegal .beginUpdate
  let c ← get
  require c.currentTarget.isSome "I1-ATOMICITY"
    "cannot begin an update before a target has been committed"
  let current ← assertSome c.currentTarget
  require (current.version < target.version) "I1-MONOTONIC"
    (s!"target version {pyRepr target.label} must be greater than committed " ++
      s!"{pyRepr current.version.label}")
  advance .beginUpdate s!"target={target.describe}" (some target)
  modify fun c => { c with pendingTarget := some target }
  return ⟨target, ["POST /start_weight_update",
    "POST /update_weights (xN; the data plane runs out of band)"],
    ["start_weight_update", "update_weights"]⟩

/-- UPDATING → INVALIDATING. -/
def confirmUpdated (evidence : UpdateEvidence) : Ctl CyclePlan := do
  requireLegal .confirmUpdated
  let c ← get
  require c.pendingTarget.isSome "I1-ATOMICITY"
    "no pending target; begin_update must precede confirm_updated"
  let pending ← assertSome c.pendingTarget
  taintIf (evidence.target ≠ pending)
    (s!"update evidence targets {evidence.target.describe} but " ++
      s!"{pending.describe} is pending; engine version is now ambiguous") none
  checkEvidence evidence.failureReason
  let chunks := optIntStr evidence.chunksTransferred
  advance .confirmUpdated s!"chunks={chunks}" (some pending)
  return ⟨pending, ["POST /reset_prefix_cache?reset_running_requests=true&reset_external=true",
    "POST /reset_encoder_cache", "POST /reset_mm_cache"],
    ["reset_prefix_cache", "reset_encoder_cache", "reset_mm_cache"]⟩

/-- INVALIDATING → VALIDATING. -/
def confirmInvalidated (evidence : InvalidateEvidence) : Ctl CyclePlan := do
  requireLegal .confirmInvalidated
  let c ← get
  require c.pendingTarget.isSome "I1-ATOMICITY" "no pending target; cannot invalidate"
  let pending ← assertSome c.pendingTarget
  checkEvidence evidence.failureReason
  advance .confirmInvalidated "" (some pending)
  return ⟨pending, ["GET /weight_info  (expect the target label)",
    "GET /is_paused    (expect still paused -- do NOT resume yet)"],
    ["get_weight_info", "get_is_paused"]⟩

/-- VALIDATING → RESUMING, while still paused. -/
def confirmValidated (evidence : ValidateEvidence) : Ctl CyclePlan := do
  requireLegal .confirmValidated
  let c ← get
  require c.pendingTarget.isSome "I1-ATOMICITY" "no pending target; cannot validate"
  let pending ← assertSome c.pendingTarget
  taintIf (evidence.target ≠ pending)
    (s!"validation evidence targets {evidence.target.describe} but " ++
      s!"{pending.describe} is pending") none
  match evidence.failureReason with
  | some reason =>
    if evidence.observedEngineLabel ≠ pending.label then
      raiseTaint reason
        (some (.versionMismatch c.state pending.version evidence.observedEngineLabel))
    else
      raiseTaint reason none
  | none =>
    advance .confirmValidated s!"validated while paused: {pending.describe}" (some pending)
    return ⟨pending, ["POST /resume", "GET /is_paused  (expect false)"],
      ["resume", "get_is_paused"]⟩

/-- RESUMING → READY: the commit point. -/
def confirmResumed (evidence : ResumeEvidence) : Ctl Unit := do
  requireLegal .confirmResumed
  let c ← get
  require c.pendingTarget.isSome "I1-ATOMICITY" "no pending target; cannot confirm resume"
  let pending ← assertSome c.pendingTarget
  taintIf (evidence.target ≠ pending)
    (s!"resume evidence targets {evidence.target.describe} but " ++
      s!"{pending.describe} is pending") none
  match evidence.failureReason with
  | some reason =>
    match evidence.observedEngineLabel with
    | some label =>
      if label ≠ pending.label then
        raiseTaint reason (some (.versionMismatch c.state pending.version label))
      else
        raiseTaint reason none
    | none => raiseTaint reason none
  | none =>
    advance .confirmResumed s!"published={pending.describe}" (some pending)
    modify fun c => { c with currentTarget := some pending, pendingTarget := none }

/-- Move to TAINTED from anywhere; returns the error. -/
def taint (reason : String) : Ctl RolloutCoreError := taintWith reason none

/-! ### Rollout admission -/

/-- Build the target of the next generation. -/
def nextTarget (identity : Option WeightIdentity) : Ctl UpdateTarget := do
  let c ← get
  require c.currentTarget.isSome "I1-ATOMICITY"
    "cannot compute a next target before one has been committed"
  let current ← assertSome c.currentTarget
  return ⟨current.version.next, identity.getD current.identity⟩

/-- Bind a new rollout to the current committed target. -/
def admitRollout (requestId : String) : Ctl RolloutBinding := do
  let c ← get
  raiseIf (c.state ∉ ADMITTING_STATES) (.notServing c.state)
  require c.currentTarget.isSome "I2-BINDING"
    "cannot admit a rollout before a target has been committed"
  require (requestId ∉ c.active.keys) "I2-BINDING"
    s!"rollout {pyRepr requestId} is already active"
  let current ← assertSome c.currentTarget
  let binding : RolloutBinding :=
    ⟨requestId, current.version, current.identity, current.version.cacheSalt, c.seq + 1⟩
  let entry : TransitionRecord := ⟨c.seq + 1, c.state, c.state, .admitRollout,
    some binding.version, some binding.weightIdentity, requestId⟩
  set { c with
    seq := c.seq + 1
    active := c.active.insert requestId binding
    journal := c.journal ++ [entry] }
  return binding

def releaseRollout (requestId : String) (event : RecordEvent) : Ctl RolloutBinding := do
  let c ← get
  raiseIf (c.state ∉ ROLLOUT_COMPLETION_STATES)
    (.illegalTransition c.state event s!"rollouts may only complete in {completionStatesText}")
  match c.active.get? requestId with
  | none => throw (.core (.unknownRollout requestId))
  | some binding =>
    let entry : TransitionRecord := ⟨c.seq + 1, c.state, c.state, event, some binding.version,
      some binding.weightIdentity, requestId⟩
    set { c with
      seq := c.seq + 1
      active := c.active.erase requestId
      journal := c.journal ++ [entry] }
    return binding

/-- Release a completed rollout. -/
def finishRollout (requestId : String) : Ctl RolloutBinding :=
  releaseRollout requestId .finishRollout

/-- Release an aborted rollout. -/
def abortRollout (requestId : String) : Ctl RolloutBinding :=
  releaseRollout requestId .abortRollout

end LifecycleController

/-! ## The operations as data -/

/-- A call on the controller with its arguments. -/
inductive Op
  | initialise (evidence : BootstrapEvidence)
  | beginDrain
  | confirmDrained (evidence : DrainEvidence)
  | beginUpdate (target : UpdateTarget)
  | confirmUpdated (evidence : UpdateEvidence)
  | confirmInvalidated (evidence : InvalidateEvidence)
  | confirmValidated (evidence : ValidateEvidence)
  | confirmResumed (evidence : ResumeEvidence)
  | taint (reason : String)
  | nextTarget (identity : Option WeightIdentity)
  | admitRollout (requestId : String)
  | finishRollout (requestId : String)
  | abortRollout (requestId : String)

namespace Op

/-- What a call returns. -/
def Ret : Op → Type
  | .initialise _ | .confirmDrained _ | .confirmResumed _ => Unit
  | .beginDrain | .beginUpdate _ | .confirmUpdated _ | .confirmInvalidated _ |
    .confirmValidated _ => CyclePlan
  | .taint _ => RolloutCoreError
  | .nextTarget _ => UpdateTarget
  | .admitRollout _ | .finishRollout _ | .abortRollout _ => RolloutBinding

/-- The program of a call. -/
def call : (op : Op) → Ctl op.Ret
  | .initialise e => LifecycleController.initialise e
  | .beginDrain => LifecycleController.beginDrain
  | .confirmDrained e => LifecycleController.confirmDrained e
  | .beginUpdate t => LifecycleController.beginUpdate t
  | .confirmUpdated e => LifecycleController.confirmUpdated e
  | .confirmInvalidated e => LifecycleController.confirmInvalidated e
  | .confirmValidated e => LifecycleController.confirmValidated e
  | .confirmResumed e => LifecycleController.confirmResumed e
  | .taint r => LifecycleController.taint r
  | .nextTarget i => LifecycleController.nextTarget i
  | .admitRollout r => LifecycleController.admitRollout r
  | .finishRollout r => LifecycleController.finishRollout r
  | .abortRollout r => LifecycleController.abortRollout r

end Op

end RolloutCore
