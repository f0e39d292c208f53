import RolloutCore.Decoding
import RolloutCore.Evidence

/-!
# Trajectory records

`Trajectory` of `trajectory.py`: the binding of a rollout and what came out of it, and its codec.
A value of the type is one `__post_init__` accepts, with fields of the annotated types.
-/

namespace RolloutCore

/-- The only exactness that supports a replay claim. -/
def REPLAY_READY_EXACTNESS : String := "declared-source"

def WeightIdentity.exactness (i : WeightIdentity) : String :=
  if i.source.isSome then "declared-source" else "manifest-only"

/-- How building or decoding a record fails. `untyped` is no exception: Python builds a record whose
field is not of the annotated type, and there is no such record here. -/
inductive ArchiveError
  | trajectory (message : String)
  | raised (e : PyExc)
  | untyped (field : String)

instance : MonadLift (Except PyExc) (Except ArchiveError) := ⟨fun x => x.mapError .raised⟩

/-- One rollout, and the declared weight source that produced it. -/
structure Trajectory where
  binding : RolloutBinding
  prompt : String
  text : String
  tokenIds : List ℤ
  /-- One per generated token, or none at all. -/
  logprobs : List PyFloat
  finishReason : Option String
  seconds : Option PyFloat
  /-- What the engine reported when the rollout was admitted. -/
  engineVersionAtAdmission : Option String
  engineVersionAtCompletion : Option String
  prompt_ne : prompt ≠ ""
  logprobs_length : logprobs = [] ∨ logprobs.length = tokenIds.length
  seconds_ok : ∀ s ∈ seconds, s.lt (.fin 0) = false
  deriving DecidableEq

namespace Trajectory

theorem seconds_ok_none : ∀ s ∈ (none : Option PyFloat), s.lt (.fin 0) = false := by
  simp

/-- The comparison of `seconds` with zero. -/
def secondsOf :
    Json → Except ArchiveError { o : Option PyFloat // ∀ s ∈ o, s.lt (.fin 0) = false }
  | .null => .ok ⟨none, nofun⟩
  | .float x =>
    if h : x.lt (.fin 0) = true then .error (.trajectory "trajectory seconds must be >= 0")
    else .ok ⟨some x, by simpa using h⟩
  | .int n =>
    if h : n < 0 then .error (.trajectory "trajectory seconds must be >= 0")
    else .ok ⟨some (.fin n), by simpa [PyFloat.lt] using h⟩
  | .bool _ => .error (.untyped "seconds")
  | v => .error (.raised (typeError
      s!"'<' not supported between instances of '{v.className}' and 'int'"))

/-- An optional string that nothing checks. -/
def optionalText (field : String) : Json → Except ArchiveError (Option String)
  | .null => .ok none
  | .str s => .ok (some s)
  | _ => .error (.untyped field)

/-- The constructor. The checks of classes in `__post_init__` are the types of the first arguments;
the others come as they were decoded. -/
def make (binding : RolloutBinding) (prompt text : String) (tokenIds : List ℤ)
    (logprobs : List PyFloat)
    (finishReason seconds engineVersionAtAdmission engineVersionAtCompletion : Json) :
    Except ArchiveError Trajectory :=
  if hprompt : prompt = "" then
    .error (.trajectory "a trajectory needs a non-empty prompt to be replayable")
  else if hlength : logprobs ≠ [] ∧ logprobs.length ≠ tokenIds.length then
    .error (.trajectory (s!"trajectory logprobs must be empty or one per generated token: got " ++
      s!"{logprobs.length} for {tokenIds.length} token_ids"))
  else do
    let seconds ← secondsOf seconds
    let finishReason ← optionalText "finish_reason" finishReason
    let admission ← optionalText "engine_version_at_admission" engineVersionAtAdmission
    let completion ← optionalText "engine_version_at_completion" engineVersionAtCompletion
    return {
      binding, prompt, text, tokenIds, logprobs, finishReason
      seconds := seconds.1
      engineVersionAtAdmission := admission
      engineVersionAtCompletion := completion
      prompt_ne := hprompt
      logprobs_length := by simpa [or_iff_not_imp_left] using hlength
      seconds_ok := seconds.2 }

variable (t : Trajectory)

/-! ## Views -/

def requestId : String := t.binding.requestId

/-- The version the rollout was bound to. -/
def version : String := t.binding.version.label

def identity : WeightIdentity := t.binding.weightIdentity

def exactness : String := t.identity.exactness

def provenance : Option WeightProvenance := t.identity.source

def cacheSalt : String := t.binding.cacheSalt

/-- Whether the record can support a claim about which weights ran. -/
def replayReady : Bool := t.exactness = REPLAY_READY_EXACTNESS

/-- Did the engine agree with the binding when the rollout was admitted? Unknown when nothing was
observed. -/
def admissionAgrees : Option Bool :=
  match t.engineVersionAtAdmission with
  | none => none
  | some v => some (v = t.version)

/-- Did the label of the engine change under the rollout? -/
def spansAnUpdate : Bool :=
  match t.engineVersionAtCompletion with
  | none => false
  | some v => v ≠ t.version

def describe : String :=
  let provenance := match t.provenance with
    | none => "manifest-only"
    | some p => p.describe
  s!"{t.requestId} {t.version} ({provenance}) {t.tokenIds.length} tokens" ++
    if t.replayReady then "" else " [NOT replay-ready]"

/-- A record is ready for a replay exactly if its identity declares a source. -/
theorem replayReady_iff : t.replayReady = true ↔ t.identity.source.isSome = true := by
  unfold replayReady exactness WeightIdentity.exactness REPLAY_READY_EXACTNESS
  cases t.identity.source <;> simp

theorem secondsOf_ofOption {o : Option PyFloat} (h : ∀ s ∈ o, s.lt (.fin 0) = false) :
    secondsOf (.ofOption .float o) = .ok ⟨o, h⟩ := by
  cases o with
  | none => rfl
  | some x =>
    have hx : ¬ x.lt (.fin 0) = true := by simpa using h x rfl
    exact dif_neg hx

theorem optionalText_ofOption (field : String) (o : Option String) :
    optionalText field (.ofOption .str o) = .ok o := by
  cases o <;> rfl

/-- The constructor accepts the fields of a record and builds that record. -/
theorem make_fields : make t.binding t.prompt t.text t.tokenIds t.logprobs
    (.ofOption .str t.finishReason) (.ofOption .float t.seconds)
    (.ofOption .str t.engineVersionAtAdmission) (.ofOption .str t.engineVersionAtCompletion) =
      .ok t := by
  have hlength : ¬ (t.logprobs ≠ [] ∧ t.logprobs.length ≠ t.tokenIds.length) := by
    simpa [or_iff_not_imp_left] using t.logprobs_length
  unfold make
  rw [dif_neg t.prompt_ne, dif_neg hlength, secondsOf_ofOption t.seconds_ok,
    optionalText_ofOption, optionalText_ofOption, optionalText_ofOption]
  rfl

end Trajectory

end RolloutCore
