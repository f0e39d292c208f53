import RolloutCore.Lifecycle
import RolloutCore.Lib.Program

/-!
# The runner

`LifecycleRunner` of `runner.py`, as programs over the calls it makes: controller operations,
adapter methods, and the clock. Which order the calls come in, and how their exceptions are
classified, is what this module embeds; what an adapter does is left open.
-/

namespace RolloutCore

/-! ## The calls of a runner -/

/-- The methods of the adapter port. -/
inductive AdapterCall
  | bootstrap
  | beginDrain
  | awaitDrain
  | startWeightUpdate (target : UpdateTarget)
  | completeWeightUpdate (target : UpdateTarget)
  | invalidateCaches (target : UpdateTarget)
  | validatePreResume (target : UpdateTarget)
  | resume (target : UpdateTarget)

/-- What a method returns. -/
def AdapterCall.Ret : AdapterCall → Type
  | .bootstrap => BootstrapEvidence
  | .beginDrain | .startWeightUpdate _ => Unit
  | .awaitDrain => DrainEvidence
  | .completeWeightUpdate _ => UpdateEvidence
  | .invalidateCaches _ => InvalidateEvidence
  | .validatePreResume _ => ValidateEvidence
  | .resume _ => ResumeEvidence

/-- A call of the runner: a controller operation or property, an adapter method, the clock. -/
inductive RunnerCall
  | ctrl (op : Op)
  | state
  | currentTarget
  | adapter (method : AdapterCall)
  | monotonic
  | sleep (seconds : ℚ)

/-- What a call answers; operations and methods may raise. -/
def RunnerCall.Reply : RunnerCall → Type
  | .ctrl op => Except PyExc op.Ret
  | .state => LifecycleState
  | .currentTarget => Option UpdateTarget
  | .adapter method => Except PyExc method.Ret
  | .monotonic => ℚ
  | .sleep _ => Unit

abbrev RunnerProg := Prog RunnerCall.Reply PyExc

/-! ## The runner -/

def DEFAULT_DRAIN_POLLS : ℤ := 600

def DEFAULT_DRAIN_INTERVAL : ℚ := 1 / 2

/-- What one cycle did. -/
structure CycleResult where
  committed : UpdateTarget
  statesVisited : List LifecycleState
  drainPolls : ℕ
  durationS : ℚ
  detail : List (String × ℚ) := []

/-- The fields of the runner; the controller and the adapter are behind its calls. -/
structure LifecycleRunner where
  drainPolls : ℤ := DEFAULT_DRAIN_POLLS
  drainInterval : ℚ := DEFAULT_DRAIN_INTERVAL

namespace LifecycleRunner

/-! ### Single calls -/

/-- Call the controller, with its exception as a value. -/
def tryCtrl (op : Op) : RunnerProg (Except PyExc op.Ret) := Prog.op (RunnerCall.ctrl op)

/-- Call the adapter, with its exception as a value. -/
def tryAdapter (method : AdapterCall) : RunnerProg (Except PyExc method.Ret) :=
  Prog.op (RunnerCall.adapter method)

def state : RunnerProg LifecycleState := Prog.op RunnerCall.state

def currentTarget : RunnerProg (Option UpdateTarget) := Prog.op RunnerCall.currentTarget

def monotonic : RunnerProg ℚ := Prog.op RunnerCall.monotonic

def sleep (seconds : ℚ) : RunnerProg Unit := Prog.op (RunnerCall.sleep seconds)

/-- Call the controller; its exceptions propagate. -/
def ctrl (op : Op) : RunnerProg op.Ret := do
  Prog.ofExcept (← tryCtrl op)

/-- Taint the controller and raise the error it returns. -/
def raiseTaint {α : Type} (reason : String) : RunnerProg α := do
  let e ← ctrl (.taint reason)
  throw (.core e)

/-- Run a mutating adapter call: an exception of foreign origin taints, once it is printed. -/
def effect (what : String) (method : AdapterCall) : RunnerProg method.Ret := do
  match ← tryAdapter method with
  | .ok r => return r
  | .error exc =>
    if exc.isCore then throw exc
    else
      -- the message is put together before the taint
      let shown ← Prog.ofExcept exc.repr
      raiseTaint s!"{what} failed with an unknown engine outcome: {shown}"

/-- Run an observational adapter call: every exception propagates. -/
def observe (method : AdapterCall) : RunnerProg method.Ret := do
  Prog.ofExcept (← tryAdapter method)

/-! ### The drivers -/

/-- Bring the engine under control. -/
def bootstrap : RunnerProg Unit := do
  let evidence ← effect "bootstrap" .bootstrap
  ctrl (.initialise evidence)

/-- The exception of a drain that ran out of polls. -/
def drainExhausted (r : LifecycleRunner) : RolloutCoreError :=
  let budget := formatFixed0 (r.drainPolls * r.drainInterval)
  .rolloutCore (s!"drain did not complete after {r.drainPolls} polls ({budget}s); " ++
    "the engine is still paused and has not been resumed")

/-- The polls of the drain loop, of which `left` are left. -/
def pollDrain (r : LifecycleRunner) (deadline : ℚ) : (left : ℕ) → RunnerProg ℕ
  | 0 => throw (.core r.drainExhausted)
  | left + 1 => do
    let poll := r.drainPolls.toNat - left
    let evidence ← observe .awaitDrain
    match ← tryCtrl (.confirmDrained evidence) with
    | .ok _ => return poll
    | .error (.core (.evidenceNotReady _ _)) =>
      if (poll : ℤ) < r.drainPolls then
        let now ← monotonic
        if now < deadline then
          sleep r.drainInterval
          r.pollDrain deadline left
        else r.pollDrain deadline left
      else r.pollDrain deadline left
    | .error e => throw e

/-- Poll until the engine confirms the drain, then confirm it locally. -/
def drainUntilQuiesced (r : LifecycleRunner) : RunnerProg ℕ := do
  let start ← monotonic
  r.pollDrain (start + r.drainPolls * r.drainInterval) r.drainPolls.toNat

/-- One full cycle installing `target`. -/
def runCycle (r : LifecycleRunner) (target : UpdateTarget) : RunnerProg CycleResult := do
  let s₀ ← state
  let started ← monotonic
  -- READY → DRAINING
  let _ ← ctrl .beginDrain
  let s₁ ← state
  let _ ← effect "begin_drain" .beginDrain
  -- DRAINING → QUIESCED
  let polls ← r.drainUntilQuiesced
  let s₂ ← state
  -- QUIESCED → UPDATING
  let _ ← ctrl (.beginUpdate target)
  let s₃ ← state
  let _ ← effect "start_weight_update" (.startWeightUpdate target)
  -- UPDATING → INVALIDATING
  let updateEvidence ← effect "complete_weight_update" (.completeWeightUpdate target)
  let _ ← ctrl (.confirmUpdated updateEvidence)
  let s₄ ← state
  -- INVALIDATING → VALIDATING
  let invalidateEvidence ← effect "invalidate_caches" (.invalidateCaches target)
  let _ ← ctrl (.confirmInvalidated invalidateEvidence)
  let s₅ ← state
  -- VALIDATING → RESUMING, still paused
  let validateEvidence ← observe (.validatePreResume target)
  let _ ← ctrl (.confirmValidated validateEvidence)
  let s₆ ← state
  -- RESUMING → READY, the commit point
  let resumeEvidence ← effect "resume" (.resume target)
  let _ ← ctrl (.confirmResumed resumeEvidence)
  let s₇ ← state
  match ← currentTarget with
  | none => throw .assertion
  | some committed =>
    let now ← monotonic
    return {
      committed
      statesVisited := [s₀, s₁, s₂, s₃, s₄, s₅, s₆, s₇]
      drainPolls := polls
      durationS := now - started }

/-- Advance one generation beyond the current one. -/
def installNext (r : LifecycleRunner) (identity : Option WeightIdentity) :
    RunnerProg CycleResult := do
  let target ← ctrl (.nextTarget identity)
  r.runCycle target

end LifecycleRunner

end RolloutCore
