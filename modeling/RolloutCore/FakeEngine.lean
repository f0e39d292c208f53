import RolloutCore.Runner

/-!
# The reference engine and its adapter

`FakeVLLMEngine` of `adapters/fake_engine.py` and `FakeVLLMAdapter` of `adapters/fake.py`. An
engine endpoint is one atomic step; an adapter method is a program over endpoints and attribute
accesses, so that others may act between any two of them.
-/

namespace RolloutCore

/-! ## The engine -/

inductive PauseState
  | unpaused | pausedNew | pausedAll
  deriving DecidableEq

inductive PauseMode
  | abort | wait | keep
  deriving DecidableEq

/-- In-memory stand-in for a `vllm serve` process. -/
structure FakeVLLMEngine where
  weightVersion : String := "default"
  weightIdentity : Option WeightIdentity := none
  pauseState : PauseState := .unpaused
  pauseMode : Option PauseMode := none
  activeRequests : ℤ := 0
  worldSize : ℤ := 1
  backend : String := "nccl"
  prefixCacheDirty : Bool := false
  encoderCacheDirty : Bool := false
  mmCacheDirty : Bool := false
  prefixResetSucceeds : Bool := true
  weightTransferInitialised : Bool := false
  updateSessionOpen : Bool := false
  /-- Operation name to exception message. -/
  faults : OrderedDict String String := .empty
  calls : List String := []

/-- An endpoint: state passing with exceptions. -/
abbrev Endpoint := EStateM PyExc FakeVLLMEngine

namespace FakeVLLMEngine

def paused (g : FakeVLLMEngine) : Bool := g.pauseState ≠ .unpaused

def isManaged (g : FakeVLLMEngine) : Bool := startsWith ENGINE_LABEL_PREFIX g.weightVersion

/-- Log the call, and raise the fault injected for it. -/
def call (name : String) : Endpoint Unit := do
  modify fun g => { g with calls := g.calls ++ [name] }
  let g ← get
  match g.faults.get? name with
  | some message => throw (.fakeEngine message)
  | none => pure ()

def initWeightTransferEngine : Endpoint Unit := do
  call "init_weight_transfer_engine"
  modify fun g => { g with weightTransferInitialised := true }

def getWorldSize : Endpoint ℤ := do
  call "get_world_size"
  return (← get).worldSize

def getWeightInfo : Endpoint String := do
  call "get_weight_info"
  return (← get).weightVersion

def updateWeightVersion (newVersion : String) : Endpoint Unit := do
  call "update_weight_version"
  modify fun g => { g with weightVersion := newVersion }

def isPaused : Endpoint Bool := do
  call "is_paused"
  return (← get).paused

/-- The pause state is set before the wait for running work, which is reported by raising. -/
def pause (mode : PauseMode) (clearCache : Bool) : Endpoint Unit := do
  call "pause"
  modify fun g => { g with pauseMode := some mode }
  if mode = .keep then
    modify fun g => { g with pauseState := .pausedAll }
  else
    modify fun g => { g with pauseState := .pausedNew }
    let g ← get
    if mode = .abort then modify fun g => { g with activeRequests := 0 }
    else if mode = .wait ∧ g.activeRequests > 0 then
      throw (.fakeEngine s!"pause(wait) not complete: {g.activeRequests} request(s) active")
    if clearCache then
      modify fun g =>
        { g with prefixCacheDirty := false, encoderCacheDirty := false, mmCacheDirty := false }

def resume : Endpoint Unit := do
  call "resume"
  modify fun g => { g with pauseState := .unpaused, pauseMode := none }

def startWeightUpdate : Endpoint Unit := do
  call "start_weight_update"
  if (← get).updateSessionOpen then
    throw (.fakeEngine "start_weight_update while a session is already open")
  modify fun g => { g with updateSessionOpen := true }

def updateWeights : Endpoint Unit := do
  call "update_weights"
  if !(← get).updateSessionOpen then
    throw (.fakeEngine "update_weights without start_weight_update")

/-- Finalize and commit; no cache is invalidated. -/
def finishWeightUpdate (weightVersion : Option String) : Endpoint Unit := do
  call "finish_weight_update"
  if !(← get).updateSessionOpen then
    throw (.fakeEngine "finish_weight_update without start_weight_update")
  modify fun g => { g with
    updateSessionOpen := false
    weightVersion := strOr weightVersion g.weightVersion }

def resetPrefixCache : Endpoint Bool := do
  call "reset_prefix_cache"
  if !(← get).prefixResetSucceeds then return false
  modify fun g => { g with prefixCacheDirty := false }
  return true

def resetEncoderCache : Endpoint Unit := do
  call "reset_encoder_cache"
  modify fun g => { g with encoderCacheDirty := false }

def resetMmCache : Endpoint Unit := do
  call "reset_mm_cache"
  modify fun g => { g with mmCacheDirty := false }

/-- A server that has just loaded weights. -/
def seedFreshWith (g : FakeVLLMEngine) (identity : WeightIdentity) : FakeVLLMEngine :=
  { g with
    weightVersion := "default"
    weightIdentity := some identity
    prefixCacheDirty := true
    encoderCacheDirty := true
    mmCacheDirty := true }

end FakeVLLMEngine

/-- The endpoints the adapter calls. The arguments the engine ignores are left out. -/
inductive EngineCall
  | initWeightTransferEngine | getWorldSize | getWeightInfo
  | updateWeightVersion (newVersion : String)
  | isPaused
  | pause (mode : PauseMode) (clearCache : Bool)
  | resume | startWeightUpdate | updateWeights
  | finishWeightUpdate (weightVersion : Option String)
  | resetPrefixCache | resetEncoderCache | resetMmCache

namespace EngineCall

def Ret : EngineCall → Type
  | .getWorldSize => ℤ
  | .getWeightInfo => String
  | .isPaused | .resetPrefixCache => Bool
  | _ => Unit

def run : (call : EngineCall) → Endpoint call.Ret
  | .initWeightTransferEngine => FakeVLLMEngine.initWeightTransferEngine
  | .getWorldSize => FakeVLLMEngine.getWorldSize
  | .getWeightInfo => FakeVLLMEngine.getWeightInfo
  | .updateWeightVersion v => FakeVLLMEngine.updateWeightVersion v
  | .isPaused => FakeVLLMEngine.isPaused
  | .pause mode clear => FakeVLLMEngine.pause mode clear
  | .resume => FakeVLLMEngine.resume
  | .startWeightUpdate => FakeVLLMEngine.startWeightUpdate
  | .updateWeights => FakeVLLMEngine.updateWeights
  | .finishWeightUpdate v => FakeVLLMEngine.finishWeightUpdate v
  | .resetPrefixCache => FakeVLLMEngine.resetPrefixCache
  | .resetEncoderCache => FakeVLLMEngine.resetEncoderCache
  | .resetMmCache => FakeVLLMEngine.resetMmCache

end EngineCall

/-! ## The adapter -/

/-- A step of a runner over the reference engine: a call of the runner itself, an endpoint, or an
access to an attribute of the engine or of the adapter. -/
inductive FakeCall
  | runner (call : RunnerCall)
  | engine (call : EngineCall)
  | attributes
  | setWeightIdentity (identity : WeightIdentity)
  | drainCompleted
  | setDrainCompleted (value : Bool)

def FakeCall.Reply : FakeCall → Type
  | .runner call => call.Reply
  | .engine call => Except PyExc call.Ret
  | .attributes => FakeVLLMEngine
  | .setWeightIdentity _ | .setDrainCompleted _ => Unit
  | .drainCompleted => Bool

abbrev FakeProg := Prog FakeCall.Reply PyExc

/-- The constructor argument of the adapter. -/
structure FakeVLLMAdapter where
  chunks : ℤ := 4

namespace FakeVLLMAdapter

def driverName : String := "fake-in-process"

/-- Call an endpoint, with its exception as a value. -/
def tryEngine (call : EngineCall) : FakeProg (Except PyExc call.Ret) :=
  Prog.op (FakeCall.engine call)

/-- Call an endpoint; its exceptions propagate. -/
def engine (call : EngineCall) : FakeProg call.Ret := do
  Prog.ofExcept (← tryEngine call)

/-- Read the attributes of the engine; a caller uses one of them. -/
def attributes : FakeProg FakeVLLMEngine := Prog.op FakeCall.attributes

def setWeightIdentity (identity : WeightIdentity) : FakeProg Unit :=
  Prog.op (FakeCall.setWeightIdentity identity)

def drainCompleted : FakeProg Bool := Prog.op FakeCall.drainCompleted

def setDrainCompleted (value : Bool) : FakeProg Unit := Prog.op (FakeCall.setDrainCompleted value)

/-- Bring a fresh, unmanaged engine under control; the check comes before any write. -/
def bootstrap : FakeProg BootstrapEvidence := do
  match (← attributes).weightIdentity with
  | none =>
    let message := "fake engine has no weight identity; call engine.seed_fresh_with(...) first"
    throw (.other message s!"RuntimeError({pyRepr message})")
  | some identity =>
    let preSeed ← engine .getWeightInfo
    if (← attributes).isManaged then throw (.core (.alreadyManagedEngine preSeed))
    let _ ← attributes
    engine .initWeightTransferEngine
    engine (.updateWeightVersion (WeightVersion.mk INITIAL_VERSION).label)
    let observed ← engine .getWeightInfo
    let initialised := (← attributes).weightTransferInitialised
    let backend := (← attributes).backend
    let worldSize ← engine .getWorldSize
    return {
      observedEngineLabel := observed
      weightTransferInitialised := initialised
      preSeedLabel := some preSeed
      weightIdentity := identity
      backend
      worldSize := .int worldSize
      weightTransferDriver := some driverName }

/-- Attempt `pause(mode="wait")`; whether it completed. -/
def tryPause : FakeProg Bool := do
  match ← tryEngine (.pause .wait false) with
  | .ok _ =>
    setDrainCompleted true
    return true
  | .error (.fakeEngine _) => return false
  | .error e => throw e

/-- Issue the pause without blocking on completion. -/
def beginDrain : FakeProg Unit := do
  setDrainCompleted false
  let _ ← tryPause

/-- Report drain progress. -/
def awaitDrain : FakeProg DrainEvidence := do
  let completed ← do
    if ← drainCompleted then pure true else tryPause
  let active := (← attributes).activeRequests
  if completed then return ⟨true, some active, "pause(wait) returned"⟩
  else return ⟨false, some active, "drain still in flight"⟩

/-- The transfer loop: the chunks that got through, and whether all `left` more did. -/
def transfer : (left : ℕ) → (chunks : ℕ) → FakeProg (Bool × ℕ)
  | 0, chunks => return (true, chunks)
  | left + 1, chunks => do
    match ← tryEngine .updateWeights with
    | .ok _ => transfer left (chunks + 1)
    | .error (.fakeEngine _) => return (false, chunks)
    | .error e => throw e

/-- Transfer and finalize, reporting which stage failed. -/
def completeWeightUpdate (a : FakeVLLMAdapter) (target : UpdateTarget) :
    FakeProg UpdateEvidence := do
  let (loaded, chunks) ← transfer a.chunks.toNat 0
  if !loaded then
    return ⟨target, false, false, some chunks, false, none⟩
  -- the engine now holds the target's weights, even if the finalize call fails
  setWeightIdentity target.identity
  match ← tryEngine (.finishWeightUpdate (some target.label)) with
  | .error (.fakeEngine _) =>
    return ⟨target, true, false, some chunks, true, (← attributes).weightIdentity⟩
  | .error e => throw e
  | .ok _ => return ⟨target, true, true, some chunks, true, (← attributes).weightIdentity⟩

def invalidateCaches : FakeProg InvalidateEvidence := do
  let prefixOk ← engine .resetPrefixCache
  engine .resetEncoderCache
  engine .resetMmCache
  let encoderDirty := (← attributes).encoderCacheDirty
  let mmDirty := (← attributes).mmCacheDirty
  return ⟨prefixOk, !encoderDirty, !mmDirty⟩

/-- Read back version and pause state; the engine is not resumed. -/
def validatePreResume (target : UpdateTarget) : FakeProg ValidateEvidence := do
  let observed ← engine .getWeightInfo
  let paused ← engine .isPaused
  let prefixDirty := (← attributes).prefixCacheDirty
  let encoderDirty := (← attributes).encoderCacheDirty
  let mmDirty := (← attributes).mmCacheDirty
  return ⟨target, observed, paused, !(prefixDirty || encoderDirty || mmDirty)⟩

def resume (target : UpdateTarget) : FakeProg ResumeEvidence := do
  let acknowledged ← do
    match ← tryEngine .resume with
    | .ok _ => pure true
    | .error (.fakeEngine _) => pure false
    | .error e => throw e
  let paused ← engine .isPaused
  let observed ← engine .getWeightInfo
  return ⟨target, acknowledged, paused, some observed⟩

/-- The methods of the port. -/
def method (a : FakeVLLMAdapter) : (m : AdapterCall) → FakeProg m.Ret
  | .bootstrap => bootstrap
  | .beginDrain => beginDrain
  | .awaitDrain => awaitDrain
  | .startWeightUpdate _ => engine .startWeightUpdate
  | .completeWeightUpdate t => a.completeWeightUpdate t
  | .invalidateCaches _ => invalidateCaches
  | .validatePreResume t => validatePreResume t
  | .resume t => resume t

/-- A call of the runner, carried out over the reference engine. -/
def handle (a : FakeVLLMAdapter) : (call : RunnerCall) → FakeProg call.Reply
  | .adapter m => (a.method m).attempt
  | call => Prog.op (FakeCall.runner call)

end FakeVLLMAdapter

end RolloutCore
