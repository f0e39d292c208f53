import RolloutCore.Versions

/-!
# States, events and errors

The lifecycle states and events name themselves in error messages and journal records, so they
come first. `RolloutCoreError` is the exception hierarchy of `errors.py`: one constructor a
class, with the arguments of its `__init__`. `PyExc` adds the exceptions of other origin that the
adapters and the runner tell apart.
-/

namespace RolloutCore

/-! ## States and events -/

/-- The nine lifecycle states. -/
inductive LifecycleState
  | uninitialized | ready | draining | quiesced | updating | invalidating | validating | resuming
  | tainted
  deriving DecidableEq, Repr

def LifecycleState.value : LifecycleState → String
  | .uninitialized => "UNINITIALIZED"
  | .ready => "READY"
  | .draining => "DRAINING"
  | .quiesced => "QUIESCED"
  | .updating => "UPDATING"
  | .invalidating => "INVALIDATING"
  | .validating => "VALIDATING"
  | .resuming => "RESUMING"
  | .tainted => "TAINTED"

/-- Every state-mutating event. -/
inductive Event
  | initialise | beginDrain | confirmDrained | beginUpdate | confirmUpdated | confirmInvalidated
  | confirmValidated | confirmResumed | taint
  deriving DecidableEq, Repr

def Event.value : Event → String
  | .initialise => "initialize"
  | .beginDrain => "begin_drain"
  | .confirmDrained => "confirm_drained"
  | .beginUpdate => "begin_update"
  | .confirmUpdated => "confirm_updated"
  | .confirmInvalidated => "confirm_invalidated"
  | .confirmValidated => "confirm_validated"
  | .confirmResumed => "confirm_resumed"
  | .taint => "taint"

/-- The event strings of journal records: the events, and the three calls that leave the state
alone. -/
inductive RecordEvent
  | event (e : Event) | admitRollout | finishRollout | abortRollout
  deriving DecidableEq, Repr

def RecordEvent.value : RecordEvent → String
  | .event e => e.value
  | .admitRollout => "admit_rollout"
  | .finishRollout => "finish_rollout"
  | .abortRollout => "abort_rollout"

/-! ## Errors -/

/-- Every error raised by RolloutCore. -/
inductive RolloutCoreError
  | rolloutCore (message : String)
  | invariantViolation (invariant detail : String)
  | evidenceNotReady (invariant detail : String)
  | illegalTransition (state : LifecycleState) (event : RecordEvent) (detail : String)
  | alreadyManagedEngine (observedLabel : String)
  | weightTransferNotConfigured (operation detail : String)
  | drainFailed (attempts : ℕ) (lastError : Option String)
  | weightIdentityMismatch (expected computed : WeightIdentity)
  | engineTainted (state : LifecycleState) (reason : String)
  | notServing (state : LifecycleState)
  | unknownRollout (requestId : String)
  | versionMismatch (state : LifecycleState) (expected : WeightVersion) (observed : String)
  | drainDisagreement (state : LifecycleState) (activeRollouts : ℕ) (requestIds : List String)
  deriving DecidableEq, Repr

namespace RolloutCoreError

/-- `isinstance(e, EngineTaintedError)`. -/
def isEngineTainted : RolloutCoreError → Bool
  | .engineTainted .. | .versionMismatch .. | .drainDisagreement .. => true
  | _ => false

/-- `isinstance(e, InvariantViolation)`. -/
def isInvariantViolation : RolloutCoreError → Bool
  | .invariantViolation .. | .evidenceNotReady .. | .illegalTransition .. |
    .weightIdentityMismatch .. | .notServing .. | .unknownRollout .. => true
  | _ => false

def invariantMessage (invariant detail : String) : String := s!"[{invariant}] {detail}"

def taintMessage (state : LifecycleState) (reason : String) : String :=
  s!"engine tainted in state {state.value}: {reason}. " ++
    "TAINTED is terminal in V1: restart the engine and construct a new controller."

/-- The `str` of the error. -/
def message : RolloutCoreError → String
  | .rolloutCore m => m
  | .invariantViolation i d => invariantMessage i d
  | .evidenceNotReady i d => invariantMessage i s!"not ready: {d}"
  | .illegalTransition s e d =>
    let m := s!"event {pyRepr e.value} is not legal from state {s.value}"
    invariantMessage "T-ILLEGAL" (if d = "" then m else s!"{m}: {d}")
  | .alreadyManagedEngine l =>
    s!"engine already reports weight_version {pyRepr l}, which " ++
      "RolloutCore wrote: another controller may own it. Bootstrap " ++
      "refused before writing anything. A lease/recovery protocol is " ++
      "required to take over a managed engine and V1 does not implement one."
  | .weightTransferNotConfigured o d => s!"{o} needs a weight-transfer driver: {d}"
  | .drainFailed n e =>
    let d := s!" after {n} attempt(s)"
    let d := match e with
      | none => d
      | some m => if m = "" then d else s!"{d}; last error: {m}"
    s!"drain did not complete{d}. The engine's pause state is therefore " ++
      "unconfirmed, and DRAINING admits no rollouts, so nothing can be " ++
      "published. Re-draining, or an operator taint, is the next decision."
  | .weightIdentityMismatch e c =>
    invariantMessage "I4-IDENTITY" (s!"the driver would stage {c.describe} but " ++
      s!"{e.describe} is the target; refusing before any request is sent")
  | .engineTainted s r => taintMessage s r
  | .notServing s => invariantMessage "I2-ADMISSION"
      s!"rollouts may only be admitted in READY; controller is {s.value}"
  | .unknownRollout r => invariantMessage "I2-BINDING" s!"no active rollout with id {pyRepr r}"
  | .versionMismatch s v o => taintMessage s
      (s!"expected engine weight_version {pyRepr v.label}, observed {pyRepr o}; " ++
        "automatic reconciliation is disabled")
  | .drainDisagreement s n ids =>
    let joined := ", ".intercalate ids
    taintMessage s
      (s!"engine reported a completed drain but RolloutCore still counts " ++
        s!"{n} active rollout(s) ({joined}); " ++
        "engine and controller bookkeeping disagree")

end RolloutCoreError

/-- The exceptions that reach the code. `other` is any exception of a class none of the `except`
clauses name, known by its `str` and its `repr`; `unprintable` is one whose `repr` raises in turn,
as a `__repr__` may that the code does not own. -/
inductive PyExc
  | core (e : RolloutCoreError)
  | assertion
  | valueError (e : PyValueError)
  | fakeEngine (message : String)
  | httpAdapter (method path detail : String)
  | other (text reprText : String)
  | unprintable (text : String) (raised : PyExc)
  deriving DecidableEq, Repr

namespace PyExc

/-- `isinstance(e, RolloutCoreError)`. -/
def isCore : PyExc → Bool
  | .core _ => true
  | _ => false

/-- `isinstance(e, EngineTaintedError)`. -/
def isTaint : PyExc → Bool
  | .core e => e.isEngineTainted
  | _ => false

/-- `str(e)`. -/
def str : PyExc → String
  | .core e => e.message
  | .assertion => ""
  | .valueError e => e.message
  | .fakeEngine m => m
  | .httpAdapter m p d => s!"{m} {p}: {d}"
  | .other t _ | .unprintable t _ => t

/-- The class of the exception, as `repr` shows it. -/
def className : PyExc → String
  | .core e => match e with
    | .rolloutCore .. => "RolloutCoreError"
    | .invariantViolation .. => "InvariantViolation"
    | .evidenceNotReady .. => "EvidenceNotReady"
    | .illegalTransition .. => "IllegalTransitionError"
    | .alreadyManagedEngine .. => "AlreadyManagedEngineError"
    | .weightTransferNotConfigured .. => "WeightTransferNotConfiguredError"
    | .drainFailed .. => "DrainFailedError"
    | .weightIdentityMismatch .. => "WeightIdentityMismatchError"
    | .engineTainted .. => "EngineTaintedError"
    | .notServing .. => "NotServingError"
    | .unknownRollout .. => "UnknownRolloutError"
    | .versionMismatch .. => "VersionMismatchError"
    | .drainDisagreement .. => "DrainDisagreementError"
  | .assertion => "AssertionError"
  | .valueError (.version _) => "VersionError"
  | .valueError (.weightIdentity _) => "WeightIdentityError"
  | .valueError (.plain _) => "ValueError"
  | .fakeEngine _ => "FakeEngineError"
  | .httpAdapter .. => "HTTPAdapterError"
  | .other .. | .unprintable .. => ""

/-- `repr(e)`: the class and the message it was constructed with. -/
def repr : PyExc → Except PyExc String
  | .other _ r => .ok r
  | .unprintable _ raised => .error raised
  | .assertion => .ok "AssertionError()"
  | e => .ok s!"{e.className}({pyRepr e.str})"

@[simp] theorem isCore_core (e : RolloutCoreError) : (core e).isCore = true := rfl

@[simp] theorem isTaint_core (e : RolloutCoreError) : (core e).isTaint = e.isEngineTainted := rfl

end PyExc

end RolloutCore
