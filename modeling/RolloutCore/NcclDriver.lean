import RolloutCore.HttpAdapter
import RolloutCore.WeightDigest
import RolloutCore.Lib.CallOutcome
import RolloutCore.Lib.Machines

/-!
# The NCCL weight transfer driver

`NCCLWeightTransferDriver` and `RolloutCoreWeightSyncClient` of `adapters/nccl.py`. A call of the
driver is state passing with exceptions over the driver and what it reads from outside: what its
source answers and which device the thread is on. What the trainer engine does when it is built,
driven or closed is not in the repository, so a call takes it as an argument.
-/

namespace RolloutCore

open CallOutcome

/-! ## The manifest of a source -/

/-- What `metadata()` says of one parameter, the name and the dtype as `str` shows them. -/
structure ParamMeta where
  name : String
  dtype : String
  shape : List ℤ

/-- Normalise a parameter dtype to the string the manifest digest uses. -/
def dtypeName (dtype : String) : String := removeText "torch." dtype

example : dtypeName "torch.bfloat16" = "bfloat16" := by decide

def paramDim (name : String) (dim : ℤ) : Except PyExc ℕ :=
  if dim < 0 then
    .error (.valueError (.weightIdentity
      s!"param {pyRepr name}: shape entries must be non-negative ints, got {dim}"))
  else .ok dim.toNat

/-- The constructor of `ParamSpec`. -/
def ParamSpec.construct (name dtype : String) (shape : List ℤ) : Except PyExc ParamSpec :=
  if hname : name = "" then
    .error (.valueError (.weightIdentity "param name must be a non-empty string"))
  else if hdtype : dtype = "" then
    .error (.valueError (.weightIdentity
      s!"param {pyRepr name}: dtype must be a non-empty string"))
  else do return ⟨name, dtype, ← shape.mapM (paramDim name), hname, hdtype⟩

def paramSpec (m : ParamMeta) : Except PyExc ParamSpec :=
  ParamSpec.construct m.name (dtypeName m.dtype) m.shape

/-- The identity of a manifest, if it is read and has one. -/
def manifestIdentity (H : Sha256) (metadata : Except PyExc (List ParamMeta))
    (provenance : Option WeightProvenance) : Except PyExc WeightIdentity := do
  let specs ← (← metadata).mapM paramSpec
  (WeightIdentity.fromParamSpecs H specs provenance).mapError .valueError

/-! ## The sync client -/

/-- A call the trainer engine makes on its client. -/
inductive SyncCall
  | initWeightTransferEngine (initInfo : Json)
  | startWeightUpdate
  | updateWeights (updateInfo : Json)
  | finishWeightUpdate (weightVersion : Option String)

/-- A call that reaches the wrapped client. -/
inductive SyncRequest
  | initWeightTransferEngine (initInfo : Json)
  | startWeightUpdate
  | updateWeights (updateInfo : Json)
  | finishWeightUpdate (weightVersion : String)

/-- Wrap a vLLM weight-sync client and own the version at finalize. -/
structure RolloutCoreWeightSyncClient where
  pendingLabel : Option String

namespace RolloutCoreWeightSyncClient

def setTarget (c : RolloutCoreWeightSyncClient) (target : UpdateTarget) :
    RolloutCoreWeightSyncClient :=
  { c with pendingLabel := some target.label }

/-- `weight_version or self._pending_label`. -/
def commitLabel (c : RolloutCoreWeightSyncClient) : Option String → Option String
  | some version => if version = "" then c.pendingLabel else some version
  | none => c.pendingLabel

/-- What a call on the wrapper passes on. -/
def forward (c : RolloutCoreWeightSyncClient) : SyncCall → Except PyExc SyncRequest
  | .initWeightTransferEngine initInfo => .ok (.initWeightTransferEngine initInfo)
  | .startWeightUpdate => .ok .startWeightUpdate
  | .updateWeights updateInfo => .ok (.updateWeights updateInfo)
  | .finishWeightUpdate weightVersion =>
    match c.commitLabel weightVersion with
    | some label => .ok (.finishWeightUpdate label)
    | none => .error (.core (.weightTransferNotConfigured "finish_weight_update"
        ("no target was set on the sync client, so the version to commit " ++
          "is unknown; the driver must call set_target() before send_weights()")))

end RolloutCoreWeightSyncClient

/-! ## The driver -/

/-- Describe a thread/device mismatch, or `None` if there is not one. -/
def deviceMismatch : Option ℤ → Option ℤ → Option String
  | some initializedOn, some current =>
    if initializedOn = current then none
    else some (s!"the driver was initialized on cuda:{initializedOn} but this thread's current " ++
      s!"device is cuda:{current}. PyTorch's current device is thread-local, so a " ++
      s!"transfer run from another thread must call torch.cuda.set_device(" ++
      s!"{initializedOn}) in that thread first; otherwise vLLM's packed producer " ++
      s!"streams the trainer's tensors on the wrong device and NCCL fails with " ++
      s!"'Cuda failure 400 invalid resource handle'")
  | _, _ => none

/-- The attributes of the driver that its methods change. The wrappers it made are numbered; a
trainer engine is known by the wrapper it was built with. -/
structure NCCLWeightTransferDriver where
  provenance : Option WeightProvenance := none
  engine : Option ℕ := none
  sync : Option ℕ := none
  cachedIdentity : Option WeightIdentity := none
  device : Option ℤ := none

/-- The driver, its wrappers, what it reads from outside, and what has reached the wrapped client
and the trainer engine. -/
structure NcclSystem where
  driver : NCCLWeightTransferDriver
  metadata : Except PyExc (List ParamMeta)
  currentDevice : Option ℤ := none
  wrappers : ℕ → RolloutCoreWeightSyncClient := fun _ => ⟨none⟩
  made : ℕ := 0
  requests : List SyncRequest := []
  broadcasts : ℕ := 0

abbrev DriverM := EStateM PyExc NcclSystem

/-- What code outside the repository does in one call: the calls it makes on the client it was
given, and how it ends. -/
structure Foreign where
  calls : List SyncCall
  outcome : Except PyExc Unit

namespace NcclSystem

/-- A driver as constructed. -/
def constructed (provenance : Option WeightProvenance) (metadata : Except PyExc (List ParamMeta))
    (currentDevice : Option ℤ) : NcclSystem where
  driver := { provenance }
  metadata
  currentDevice

/-- A call on the wrapper `client`. -/
def receive (client : ℕ) (w : NcclSystem) (call : SyncCall) : NcclSystem :=
  match (w.wrappers client).forward call with
  | .ok request => { w with requests := w.requests ++ [request] }
  | .error _ => w

/-- The identity of what the source holds at the moment, under the declared provenance. -/
def staged (H : Sha256) (w : NcclSystem) : Except PyExc WeightIdentity :=
  manifestIdentity H w.metadata w.driver.provenance

end NcclSystem

/-- The result of `x`, in a program. -/
def orRaise {α : Type} (x : Except PyExc α) : DriverM α :=
  match x with
  | .ok a => pure a
  | .error e => throw e

/-- The trainer engine with the wrapper `client` acts. -/
def act (client : ℕ) (f : Foreign) : DriverM Unit := do
  modify fun w => f.calls.foldl (NcclSystem.receive client) w
  orRaise f.outcome

namespace NCCLWeightTransferDriver

def name : String := "nccl"

def movesTensors : Bool := true

variable (H : Sha256)

/-- The identity of the tensors this driver would stage. -/
def identity : DriverM WeightIdentity := do
  match (← get).driver.cachedIdentity with
  | some identity => return identity
  | none =>
    let identity ← orRaise ((← get).staged H)
    modify fun w => { w with driver := { w.driver with cachedIdentity := some identity } }
    return identity

/-- Re-declare the provenance of the weights the source now holds. -/
def declare (provenance : WeightProvenance) : DriverM WeightIdentity := do
  modify fun w => { w with
    driver := { w.driver with provenance := some provenance, cachedIdentity := none } }
  identity H

/-- Rendezvous: open the trainer endpoint and initialize the engine. `opened` is how the client is
obtained, `built` what the builder does with its wrapper. -/
def initialise (opened : Except PyExc Unit) (built : Foreign) : DriverM WeightTransferInit := do
  modify fun w => { w with driver := { w.driver with device := w.currentDevice } }
  orRaise opened
  let client := (← get).made
  modify fun w => { w with
    wrappers := Function.update w.wrappers client ⟨none⟩
    made := client + 1
    driver := { w.driver with sync := some client } }
  act client built
  modify fun w => { w with driver := { w.driver with engine := some client } }
  return ⟨name, name, true⟩

/-- Verify, then push. -/
def transfer (target : UpdateTarget) (sent : Foreign) : DriverM WeightTransferReport := do
  let w ← get
  match w.driver.engine, w.driver.sync with
  | some engine, some sync =>
    match deviceMismatch w.driver.device w.currentDevice with
    | some mismatch => throw (.core (.weightTransferNotConfigured "transfer" mismatch))
    | none =>
      let computed ← identity H
      if computed ≠ target.identity then
        throw (.core (.weightIdentityMismatch target.identity computed))
      modify fun w => { w with
        wrappers := Function.update w.wrappers sync ((w.wrappers sync).setTarget target) }
      modify fun w => { w with broadcasts := w.broadcasts + 1 }
      act engine sent
      return ⟨true, true, none, some computed⟩
  | _, _ =>
    throw (.core (.weightTransferNotConfigured "transfer"
      "initialize() must run before transfer()"))

def shutdown (closed : Foreign) : DriverM Unit := do
  match (← get).driver.engine with
  | none => return
  | some engine =>
    act engine closed
    modify fun w => { w with driver := { w.driver with engine := none } }

end NCCLWeightTransferDriver

/-! ## Runs -/

/-- A call of the driver, or a change of what it reads from outside. -/
inductive NcclStep
  | identity
  | declare (provenance : WeightProvenance)
  | initialise (opened : Except PyExc Unit) (built : Foreign)
  | transfer (target : UpdateTarget) (sent : Foreign)
  | shutdown (closed : Foreign)
  | changeSource (metadata : Except PyExc (List ParamMeta))
  | selectDevice (device : Option ℤ)

/-- What a step leaves. -/
def NcclStep.apply (H : Sha256) : NcclStep → NcclSystem → NcclSystem
  | .identity, w => left ((NCCLWeightTransferDriver.identity H).run w)
  | .declare provenance, w => left ((NCCLWeightTransferDriver.declare H provenance).run w)
  | .initialise opened built, w =>
    left ((NCCLWeightTransferDriver.initialise opened built).run w)
  | .transfer target sent, w => left ((NCCLWeightTransferDriver.transfer H target sent).run w)
  | .shutdown closed, w => left ((NCCLWeightTransferDriver.shutdown closed).run w)
  | .changeSource metadata, w => { w with metadata }
  | .selectDevice device, w => { w with currentDevice := device }

end RolloutCore
