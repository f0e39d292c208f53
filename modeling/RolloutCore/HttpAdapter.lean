import RolloutCore.Runner

/-!
# The HTTP adapter

`HttpVLLMAdapter` of `adapters/http.py`, as programs over the requests it sends, the calls it makes
on its driver, and the sections it runs under its drain lock. The transport answers a request with
any response or exception. `json.loads` and the `repr` of what it returns are parameters.
-/

namespace RolloutCore

/-! ## Responses -/

structure Response where
  status : ℤ
  body : String

/-- The decoded body; an empty one is `None`. -/
def Response.json (J : JsonModule) (r : Response) : Except PyExc Json :=
  if r.body = "" then .ok .null
  else
    match J.loads r.body with
    | .ok v => .ok v
    | .error (.decode m) => .error (.httpAdapter "<transport>" "<response>" s!"bad JSON: {m}")
    | .error (.raised e) => .error e

/-! ## The weight transfer driver -/

/-- What the driver observed while initializing the transfer engine. -/
structure WeightTransferInit where
  driver : String
  backend : String
  initialised : Bool

/-- Trainer-side facts after one round trip. -/
structure WeightTransferReport where
  finishAcknowledged : Bool
  dataPlaneComplete : Bool
  chunksTransferred : Option ℤ
  observedIdentity : Option WeightIdentity

/-- The attributes of a driver; its methods are steps. -/
structure WeightTransferDriver where
  name : String := "lifecycle-only"
  movesTensors : Bool := false

/-! ## The steps of the adapter -/

/-- Drain attempt states. -/
inductive DrainState
  | idle | inFlight | failed | completed
  deriving DecidableEq

/-- A URL in the parts it is put together from. -/
structure Url where
  base : String
  path : String
  query : String
  deriving DecidableEq

/-- The string `_url` returns. -/
def Url.text (u : Url) : String := s!"{u.base}{u.path}{u.query}"

/-- A step of the adapter or of one of its threads. The body of a request is the dictionary before
`json.dumps`. The last five are under the drain lock, but for the start of a thread. -/
inductive HttpCall
  | runner (call : RunnerCall)
  | request (method : String) (url : Url) (body : Option Json) (timeout : ℚ)
  | driverInitialise
  | driverTransfer (target : UpdateTarget)
  | inflight
  | setInflight (target : Option UpdateTarget)
  | resetAttempts
  | openAttempt
  | startThread (attempt : ℕ)
  | drainStatus
  | closeAttempt (attempt : ℕ) (ok : Bool) (error : Option String)

def HttpCall.Reply : HttpCall → Type
  | .runner call => call.Reply
  | .request .. => Except PyExc Response
  | .driverInitialise => Except PyExc (Option WeightTransferInit)
  | .driverTransfer _ => Except PyExc WeightTransferReport
  | .inflight => Option UpdateTarget
  | .openAttempt => ℕ
  | .drainStatus => DrainState × Option String × ℕ
  | .setInflight _ | .resetAttempts | .startThread _ | .closeAttempt .. => Unit

abbrev HttpProg := Prog HttpCall.Reply PyExc

/-! ## The adapter -/

/-- The configuration of the adapter; its mutable attributes are behind its steps. -/
structure HttpVLLMAdapter where
  baseUrl : String := "http://127.0.0.1:8000"
  /-- Timeout for fast read-back calls. -/
  timeout : ℚ := 10
  /-- How long one pause attempt may block. -/
  drainTimeout : ℚ := 60
  drainReissues : ℤ := 2
  abortRetries : ℤ := 2
  weightIdentity : Option WeightIdentity := none
  driver : WeightTransferDriver := {}

namespace HttpVLLMAdapter

variable (J : JsonModule) (a : HttpVLLMAdapter)

/-! ### HTTP verbs -/

def url (path query : String) : Url :=
  ⟨String.ofList (a.baseUrl.toList.reverse.dropWhile (· = '/')).reverse, path, query⟩

/-- What `_call` makes of the transport's answer. -/
def accept (method path : String) : Except PyExc Response → Except PyExc Response
  | .error e => .error e
  | .ok r =>
    if r.status ≥ 400 then
      let text := String.ofList (r.body.toList.take 400)
      .error (.httpAdapter method path s!"HTTP {r.status}: {text}")
    else .ok r

theorem accept_eq_ok {method path : String} {answer : Except PyExc Response} {r : Response} :
    accept method path answer = .ok r ↔ answer = .ok r ∧ r.status < 400 := by
  cases answer with
  | error e => simp [accept]
  | ok r' =>
    unfold accept
    by_cases h : r'.status ≥ 400
    · simp only [if_pos h, reduceCtorEq, false_iff]
      rintro ⟨heq, hlt⟩
      cases heq
      omega
    · simp only [if_neg h, Except.ok.injEq, iff_self_and]
      rintro rfl
      omega

/-- `_call`; a timeout of zero is no timeout given. -/
def call (method path : String) (body : Option Json) (query : String) (timeout : Option ℚ) :
    HttpProg Response := do
  let limit := match timeout with
    | none => a.timeout
    | some t => if t = 0 then a.timeout else t
  let answer ← Prog.op (HttpCall.request method (a.url path query) body limit)
  Prog.ofExcept (accept method path answer)

def getJson (path query : String) : HttpProg Json := do
  let r ← a.call "GET" path none query none
  Prog.ofExcept (r.json J)

def weightInfo : HttpProg String := do
  let body ← a.getJson J "/weight_info" ""
  match ← Prog.ofExcept (body.get "weight_version") with
  | .str label => return label
  | _ =>
    let text := J.reprStr body
    throw (.httpAdapter "GET" "/weight_info" s!"missing weight_version: {text}")

/-- Whether a call went through; an `HTTPAdapterError` is caught. -/
def succeeds (p : HttpProg Response) : HttpProg Bool := do
  match ← p.attempt with
  | .ok _ => return true
  | .error (.httpAdapter ..) => return false
  | .error e => throw e

/-! ### The port -/

/-- Bring a fresh, unmanaged engine under control: read the label, refuse a managed one, initialize
the driver, write `rc-0`, read it back. -/
def bootstrap : HttpProg BootstrapEvidence := do
  match a.weightIdentity with
  | none =>
    throw (.core (.weightTransferNotConfigured "bootstrap"
      ("the adapter has no weight_identity; the engine cannot report one " ++
        "(weight_version is an opaque string) so it must be supplied")))
  | some identity =>
    let preSeed ← a.weightInfo J
    match WeightVersion.parseLabel preSeed with
    | .ok _ => throw (.core (.alreadyManagedEngine preSeed))
    | .error _ =>
      let init ← Prog.ofExcept (← Prog.op HttpCall.driverInitialise)
      let _ ← a.call "POST" "/update_weight_version"
        (some (.obj [("new_version", .str (WeightVersion.mk INITIAL_VERSION).label)])) "" none
      let observed ← a.weightInfo J
      let worldSize ← Prog.ofExcept
        ((← a.getJson J "/get_world_size" "?include_dp=true").get "world_size")
      return {
        observedEngineLabel := observed
        weightTransferInitialised := init.elim false (·.initialised)
        preSeedLabel := some preSeed
        weightIdentity := identity
        backend := init.elim "none" (·.backend)
        worldSize := if init.isSome then worldSize else .null
        weightTransferDriver := init.map (·.driver) }

/-- Number an attempt, mark the drain IN_FLIGHT and start the thread of the attempt. -/
def startAttempt : HttpProg Unit := do
  let attempt ← Prog.op HttpCall.openAttempt
  Prog.op (HttpCall.startThread attempt)

/-- The thread of an attempt: the blocking pause, then its verdict under the lock. -/
def pauseAttempt (attempt : ℕ) : HttpProg Unit := do
  let answer ← (a.call "POST" "/pause" none "?mode=wait&clear_cache=false"
    (some a.drainTimeout)).attempt
  match answer with
  | .ok _ => Prog.op (HttpCall.closeAttempt attempt true none)
  | .error e => Prog.op (HttpCall.closeAttempt attempt false (some e.str))

/-- Issue the pause on a background thread. -/
def beginDrain : HttpProg Unit := do
  Prog.op HttpCall.resetAttempts
  startAttempt

/-- `POST /abort_requests` until it goes through, `left` times at most. -/
def abortAll : (left : ℕ) → HttpProg Unit
  | 0 => return
  | left + 1 => do
    if ← succeeds (a.call "POST" "/abort_requests" (some (.obj [])) "" none) then return
    else abortAll left

/-- Report drain progress: a failed attempt is aborted and reissued, within the budget. -/
def awaitDrain : HttpProg DrainEvidence := do
  let (state, error, attempts) ← Prog.op HttpCall.drainStatus
  match state with
  | .completed => return ⟨true, none, "pause(mode=wait) returned"⟩
  | .inFlight => return ⟨false, none, "pause(mode=wait) still in flight"⟩
  | .idle => return ⟨false, none, "drain was never started"⟩
  | .failed =>
    a.abortAll a.abortRetries.toNat
    if (attempts : ℤ) > a.drainReissues then throw (.core (.drainFailed attempts error))
    startAttempt
    let cause := error.getD "None"
    let next := attempts + 1
    return ⟨false, none, s!"pause attempt {attempts} failed ({cause}); " ++
      s!"aborted stragglers and reissued attempt {next}"⟩

/-- Record the target; the driver opens the session itself. -/
def startWeightUpdate (target : UpdateTarget) : HttpProg Unit := do
  if !a.driver.movesTensors then
    throw (.core (.weightTransferNotConfigured "start_weight_update"
      (s!"driver {pyRepr a.driver.name} moves no tensors. Nothing was sent, so " ++
        "the engine is still paused and the controller stays in UPDATING: " ++
        "configure a driving WeightTransferDriver, or taint the controller " ++
        "deliberately so the situation is explicit.")))
  Prog.op (HttpCall.setInflight (some target))

/-- Delegate the round trip to the driver. -/
def completeWeightUpdate (target : UpdateTarget) : HttpProg UpdateEvidence := do
  let opened : Option UpdateTarget ← Prog.op HttpCall.inflight
  if opened ≠ some target then
    throw (.core (.weightTransferNotConfigured "complete_weight_update"
      s!"{target.describe} was never opened via start_weight_update"))
  let report ← Prog.ofExcept (← Prog.op (HttpCall.driverTransfer target))
  Prog.op (HttpCall.setInflight none)
  return ⟨target, report.dataPlaneComplete, report.finishAcknowledged, report.chunksTransferred,
    report.dataPlaneComplete, report.observedIdentity⟩

/-- Reset all three caches; the prefix result is read from the body. -/
def invalidateCaches : HttpProg InvalidateEvidence := do
  let r ← a.call "POST" "/reset_prefix_cache" none
    "?reset_running_requests=true&reset_external=true" none
  let prefixBody ← Prog.ofExcept (r.json J)
  let prefixOk ← do
    if prefixBody.truthy then
      pure (← Prog.ofExcept (prefixBody.get "success")).truthy
    else pure false
  let encoderOk ← succeeds (a.call "POST" "/reset_encoder_cache" none "" none)
  let mmOk ← succeeds (a.call "POST" "/reset_mm_cache" none "" none)
  return ⟨prefixOk, encoderOk, mmOk⟩

/-- `bool(self._get_json("/is_paused").get("is_paused"))`. -/
def isPaused : HttpProg Bool := do
  let body ← a.getJson J "/is_paused" ""
  return (← Prog.ofExcept (body.get "is_paused")).truthy

/-- Read version and pause state. -/
def validatePreResume (target : UpdateTarget) : HttpProg ValidateEvidence := do
  let observed ← a.weightInfo J
  let paused ← a.isPaused J
  return ⟨target, observed, paused, true⟩

def resume (target : UpdateTarget) : HttpProg ResumeEvidence := do
  let acknowledged ← succeeds (a.call "POST" "/resume" none "" none)
  let paused ← a.isPaused J
  let observed ← a.weightInfo J
  return ⟨target, acknowledged, paused, some observed⟩

/-- The methods of the port. -/
def method : (m : AdapterCall) → HttpProg m.Ret
  | .bootstrap => a.bootstrap J
  | .beginDrain => beginDrain
  | .awaitDrain => a.awaitDrain
  | .startWeightUpdate t => a.startWeightUpdate t
  | .completeWeightUpdate t => completeWeightUpdate t
  | .invalidateCaches _ => a.invalidateCaches J
  | .validatePreResume t => a.validatePreResume J t
  | .resume t => a.resume J t

/-- A call of the runner, carried out over HTTP. -/
def handle : (call : RunnerCall) → HttpProg call.Reply
  | .adapter m => (a.method J m).attempt
  | call => Prog.op (HttpCall.runner call)

end HttpVLLMAdapter

end RolloutCore
