import RolloutCore.FakeGuarantees
import RolloutCore.Lib.Termination

/-!
# Progress over the reference engine

Where nothing is faulted and nothing is active, bootstrap and every cycle return. `Standing` is what
the next step needs of the system, and `Total` says that a program takes one standing to another.
-/

namespace RolloutCore

open LifecycleController CallOutcome

/-! ## Endpoints that serve -/

/-- The dirty flags of the three caches. -/
structure CacheFlags where
  prefixDirty : Bool
  encoderDirty : Bool
  mmDirty : Bool

def FakeVLLMEngine.caches (g : FakeVLLMEngine) : CacheFlags :=
  ⟨g.prefixCacheDirty, g.encoderCacheDirty, g.mmCacheDirty⟩

/-- No fault is injected, the prefix reset succeeds and no request is active. -/
structure FakeVLLMEngine.Unfaulted (g : FakeVLLMEngine) : Prop where
  faults (name : String) : g.faults.get? name = none
  resets : g.prefixResetSucceeds = true
  idle : g.activeRequests = 0

namespace EngineCall

/-- What an endpoint needs of the core to succeed. -/
def Admissible : EngineCall → EngineCore → Prop
  | .startWeightUpdate, k => k.sessionOpen = false
  | .updateWeights, k | .finishWeightUpdate _, k => k.sessionOpen = true
  | _, _ => True

/-- What a successful endpoint does to the caches. -/
def cachesAfter : EngineCall → CacheFlags → CacheFlags
  | .pause mode clear, f => if mode ≠ .keep ∧ clear then ⟨false, false, false⟩ else f
  | .resetPrefixCache, f => { f with prefixDirty := false }
  | .resetEncoderCache, f => { f with encoderDirty := false }
  | .resetMmCache, f => { f with mmDirty := false }
  | _, f => f

def readyAfter : EngineCall → Bool → Bool
  | .initWeightTransferEngine, _ => true
  | _, b => b

/-- The one endpoint that may refuse without raising does not. -/
def Grants : (call : EngineCall) → call.Ret → Prop
  | .resetPrefixCache, r => r = true
  | _, _ => True

end EngineCall

section Endpoints

variable {g : FakeVLLMEngine}

/-- With an empty fault table the call is only logged. -/
theorem call_unfaulted (hg : g.Unfaulted) (name : String) :
    (FakeVLLMEngine.call name).run g = .ok () { g with calls := g.calls ++ [name] } := by
  have hlogged : (modify fun g : FakeVLLMEngine => { g with calls := g.calls ++ [name] } :
      Endpoint PUnit).run g = .ok ⟨⟩ { g with calls := g.calls ++ [name] } := rfl
  unfold FakeVLLMEngine.call
  rw [bind_of_ok hlogged, bind_of_ok run_get]
  dsimp only
  rw [hg.faults name]
  rfl

/-- The endpoint returns, with a reply and an engine of `P`. -/
abbrev Serves {α : Type} (x : Endpoint α) (g : FakeVLLMEngine) (P : α → FakeVLLMEngine → Prop) :
    Prop :=
  Ends P (fun _ _ => False) (x.run g)

theorem serves_of_call {α : Type} {x : Endpoint α} {P : α → FakeVLLMEngine → Prop} {name : String}
    (hg : g.Unfaulted) (hx : Serves x { g with calls := g.calls ++ [name] } P) :
    Serves (FakeVLLMEngine.call name >>= fun _ => x) g P := by
  rw [Serves, bind_of_ok (call_unfaulted hg name)]
  exact hx

theorem serves_of_get {α : Type} {f : FakeVLLMEngine → Endpoint α}
    {P : α → FakeVLLMEngine → Prop} (h : Serves (f g) g P) : Serves (get >>= f) g P := by
  rw [Serves, bind_of_ok run_get]
  exact h

theorem serves_of_modify {α : Type} {u : FakeVLLMEngine → FakeVLLMEngine} {x : Endpoint α}
    {P : α → FakeVLLMEngine → Prop} (h : Serves x (u g) P) :
    Serves (modify u >>= fun _ => x) g P := h

/-- What a successful endpoint leaves. -/
structure EngineCall.Serving (call : EngineCall) (g : FakeVLLMEngine) (r : call.Ret)
    (g' : FakeVLLMEngine) : Prop where
  unfaulted : g'.Unfaulted
  caches : g'.caches = call.cachesAfter g.caches
  ready : g'.weightTransferInitialised = call.readyAfter g.weightTransferInitialised
  grants : call.Grants r

/-- **An endpoint of an unfaulted engine succeeds** where the session is as it expects. -/
theorem engineCall_serves (call : EngineCall) (hg : g.Unfaulted) (hk : call.Admissible g.core) :
    Serves call.run g (call.Serving g) := by
  have hleft : ∀ {g' : FakeVLLMEngine}, g'.faults = g.faults →
      g'.prefixResetSucceeds = g.prefixResetSucceeds → g'.activeRequests = g.activeRequests →
      g'.Unfaulted :=
    fun hf hr ha => ⟨fun name => hf ▸ hg.faults name, hr ▸ hg.resets, ha ▸ hg.idle⟩
  cases call with
  | pause mode clear =>
    refine serves_of_call hg ?_
    cases mode with
    | keep => exact ⟨hleft rfl rfl rfl, rfl, rfl, trivial⟩
    | abort => cases clear <;> exact ⟨⟨hg.faults, hg.resets, rfl⟩, rfl, rfl, trivial⟩
    | wait =>
      refine serves_of_modify ?_
      rw [if_neg (by decide)]
      refine serves_of_modify (serves_of_get ?_)
      have hdone : ¬ (PauseMode.wait = .wait ∧ g.activeRequests > 0) := fun h => by
        simp [hg.idle] at h
      dsimp only
      rw [if_neg (by decide), if_neg hdone]
      cases clear <;> exact ⟨hleft rfl rfl rfl, rfl, rfl, trivial⟩
  | startWeightUpdate =>
    refine serves_of_call hg (serves_of_get ?_)
    rw [if_neg (by simp [show g.updateSessionOpen = false from hk])]
    exact ⟨hleft rfl rfl rfl, rfl, rfl, trivial⟩
  | updateWeights =>
    refine serves_of_call hg (serves_of_get ?_)
    rw [if_neg (by simp [show g.updateSessionOpen = true from hk])]
    exact ⟨hleft rfl rfl rfl, rfl, rfl, trivial⟩
  | finishWeightUpdate v =>
    refine serves_of_call hg (serves_of_get ?_)
    rw [if_neg (by simp [show g.updateSessionOpen = true from hk])]
    exact ⟨hleft rfl rfl rfl, rfl, rfl, trivial⟩
  | resetPrefixCache =>
    refine serves_of_call hg (serves_of_get ?_)
    rw [if_neg (by simp [hg.resets])]
    exact ⟨hleft rfl rfl rfl, rfl, rfl, rfl⟩
  | _ => exact serves_of_call hg ⟨hleft rfl rfl rfl, rfl, rfl, trivial⟩

theorem EngineCall.Replies.of_serves {call : EngineCall} {g' : FakeVLLMEngine}
    {reply : Except PyExc call.Ret} (h : call.Replies g reply g') (hg : g.Unfaulted)
    (hk : call.Admissible g.core) : ∃ r, reply = .ok r ∧ call.Serving g r g' := by
  have hs := engineCall_serves call hg hk
  cases reply with
  | ok r =>
    have hr : call.run.run g = .ok r g' := h
    rw [Serves, hr] at hs
    exact ⟨r, rfl, hs⟩
  | error e =>
    have hr : call.run.run g = .error e g' := h
    rw [Serves, hr] at hs
    exact hs.elim

end Endpoints

/-! ## Standings -/

/-- What the next step needs to know of a controller without active rollouts. -/
structure ControllerStanding where
  state : LifecycleState
  current : Option UpdateTarget
  pending : Option UpdateTarget

structure ControllerStanding.Holds (x : ControllerStanding) (c : LifecycleController) : Prop where
  state : c.state = x.state
  current : c.currentTarget = x.current
  pending : c.pendingTarget = x.pending
  released : c.active.entries = []

/-- What the next step needs to know of an unfaulted engine. -/
structure EngineStanding where
  core : EngineCore
  caches : CacheFlags
  ready : Bool

structure EngineStanding.Holds (x : EngineStanding) (g : FakeVLLMEngine) : Prop where
  unfaulted : g.Unfaulted
  core : g.core = x.core
  caches : g.caches = x.caches
  ready : g.weightTransferInitialised = x.ready

/-- The standing after a successful endpoint. -/
def EngineStanding.after (x : EngineStanding) (call : EngineCall) : EngineStanding :=
  ⟨call.coreAfter x.core, call.cachesAfter x.caches, call.readyAfter x.ready⟩

structure Standing where
  controller : ControllerStanding
  engine : EngineStanding
  drained : Bool

structure Standing.Holds (x : Standing) (s : FakeSystem) : Prop where
  controller : x.controller.Holds s.controller
  engine : x.engine.Holds s.engine
  drained : s.drainCompleted = x.drained

def Standing.withCore (x : Standing) (k : EngineCore) : Standing :=
  { x with engine := { x.engine with core := k } }

def Standing.withCaches (x : Standing) (f : CacheFlags) : Standing :=
  { x with engine := { x.engine with caches := f } }

/-- From `x` the program returns with a value of `P`, and the system stands at `y`. -/
def Total {α : Type} (x : Standing) (p : FakeProg α) (y : Standing) (P : α → Prop) : Prop :=
  ∀ s, x.Holds s → p.Returns fakeAnswers (fun a s' => y.Holds s' ∧ P a) s

section Rules

variable {α β : Type} {x y z : Standing} {p : FakeProg α} {P : α → Prop}

theorem Total.bind {f : α → FakeProg β} {Q : β → Prop} (h : Total x p y P)
    (hf : ∀ a, P a → Total y (f a) z Q) : Total x (p >>= f) z Q :=
  fun s hs => (h s hs).bind fun a s' ha => hf a ha.2 s' ha.1

theorem total_ret {a : α} (h : P a) : Total x (pure a : FakeProg α) x P := fun _ hs => ⟨hs, h⟩

theorem total_attributes : Total x FakeVLLMAdapter.attributes x x.engine.Holds := by
  rintro s hs g s' ⟨rfl, rfl⟩
  exact ⟨hs, hs.engine⟩

theorem total_setWeightIdentity (i : WeightIdentity) :
    Total x (FakeVLLMAdapter.setWeightIdentity i)
      (x.withCore { x.engine.core with identity := some i }) fun _ => True := by
  rintro s hs _ s' rfl
  obtain ⟨hc, ⟨⟨hf, hr, hi⟩, hcore, hcaches, hready⟩, hd⟩ := hs
  have hcore' := congrArg (fun k : EngineCore => { k with identity := some i }) hcore
  exact ⟨⟨hc, ⟨⟨hf, hr, hi⟩, hcore', hcaches, hready⟩, hd⟩, trivial⟩

theorem total_drainCompleted : Total x FakeVLLMAdapter.drainCompleted x (· = x.drained) := by
  rintro s hs b s' ⟨rfl, rfl⟩
  exact ⟨hs, hs.drained⟩

theorem total_setDrainCompleted (b : Bool) :
    Total x (FakeVLLMAdapter.setDrainCompleted b) { x with drained := b } fun _ => True := by
  rintro s hs _ s' rfl
  exact ⟨⟨hs.controller, hs.engine, rfl⟩, trivial⟩

/-- An endpoint that the session admits answers, as a value. -/
theorem total_tryEngine (call : EngineCall) (hk : call.Admissible x.engine.core) :
    Total x (FakeVLLMAdapter.tryEngine call) { x with engine := x.engine.after call }
      fun reply => ∃ r, reply = .ok r ∧ call.Says r x.engine.core ∧ call.Grants r := by
  rintro s hs reply s' ⟨g', hr, rfl⟩
  obtain ⟨hg, hcore, hcaches, hready⟩ := hs.engine
  obtain ⟨r, rfl, hserved⟩ := hr.of_serves hg (by rwa [hcore])
  obtain ⟨hcore', hsays⟩ := hr.core_of_ok
  rw [hcore] at hcore' hsays
  have hcaches' := hserved.caches.trans (congrArg call.cachesAfter hcaches)
  have hready' := hserved.ready.trans (congrArg call.readyAfter hready)
  exact ⟨⟨hs.controller, ⟨hserved.unfaulted, hcore', hcaches', hready'⟩, hs.drained⟩,
    r, rfl, hsays, hserved.grants⟩

/-- The same, where its exceptions would propagate. -/
theorem total_engine (call : EngineCall) (hk : call.Admissible x.engine.core) :
    Total x (FakeVLLMAdapter.engine call) { x with engine := x.engine.after call }
      fun r => call.Says r x.engine.core ∧ call.Grants r := by
  refine (total_tryEngine call hk).bind ?_
  rintro _ ⟨r, rfl, hr⟩
  exact total_ret hr

/-- A method that returns is not seen to fail. -/
theorem Total.attempt (h : Total x p y P) :
    Total x p.attempt y fun reply => ∃ a, reply = .ok a ∧ P a :=
  fun s hs => Prog.Returns.attempt ((h s hs).mono fun a _ ha => ⟨ha.1, a, rfl, ha.2⟩)

end Rules

/-! ## The adapter methods -/

section Methods

open FakeVLLMAdapter

variable {x : Standing}

/-- With no active request the pause completes. -/
theorem tryPause_total : Total x tryPause
    { x.withCore { x.engine.core with paused := true } with drained := true } (· = true) := by
  unfold tryPause
  refine (total_tryEngine (.pause .wait false) trivial).bind ?_
  rintro _ ⟨r, rfl, -⟩
  exact (total_setDrainCompleted true).bind fun _ _ => total_ret rfl

theorem beginDrain_total : Total x FakeVLLMAdapter.beginDrain
    { x.withCore { x.engine.core with paused := true } with drained := true } fun _ => True :=
  (total_setDrainCompleted false).bind fun _ _ => tryPause_total.bind fun _ _ => total_ret trivial

/-- After the completed pause the first poll reports it. -/
theorem awaitDrain_total (hd : x.drained = true) : Total x awaitDrain x fun e =>
    e.engineDrainCompleted = true ∧ e.failureReason = none := by
  unfold awaitDrain
  refine total_drainCompleted.bind fun b hb => ?_
  obtain rfl : b = true := hb.trans hd
  refine (total_ret (P := (· = true)) rfl).bind fun b hb => total_attributes.bind fun g hg => ?_
  subst hb
  refine total_ret ⟨rfl, DrainEvidence.failureReason_eq_none.mpr ⟨rfl, .inr ?_⟩⟩
  rw [hg.unfaulted.idle]

theorem transfer_total (ho : x.engine.core.sessionOpen = true) (left chunks : ℕ) :
    Total x (transfer left chunks) x (·.1 = true) := by
  induction left generalizing chunks with
  | zero => exact total_ret rfl
  | succ left ih =>
    refine (total_tryEngine .updateWeights ho).bind ?_
    rintro _ ⟨r, rfl, -⟩
    exact ih _

theorem completeWeightUpdate_total (a : FakeVLLMAdapter) (t : UpdateTarget)
    (ho : x.engine.core.sessionOpen = true) : Total x (a.completeWeightUpdate t)
      (x.withCore ⟨t.label, some t.identity, x.engine.core.paused, false⟩)
      fun e => e.target = t ∧ e.failureReason = none := by
  unfold completeWeightUpdate
  refine (transfer_total ho _ _).bind ?_
  rintro ⟨_, chunks⟩ rfl
  refine (total_setWeightIdentity t.identity).bind fun _ _ => ?_
  refine Total.bind (total_tryEngine (.finishWeightUpdate (some t.label)) ?_) ?_
  · exact ho
  rintro _ ⟨r, rfl, -⟩
  rw [EngineStanding.after, EngineCall.coreAfter, strOr_label]
  refine total_attributes.bind fun g hg => ?_
  refine total_ret ⟨rfl, UpdateEvidence.failureReason_eq_none.mpr ⟨rfl, rfl, rfl, .inr ?_⟩⟩
  exact congrArg EngineCore.identity hg.core

theorem invalidateCaches_total : Total x FakeVLLMAdapter.invalidateCaches
    (x.withCaches ⟨false, false, false⟩) fun e => e.failureReason = none := by
  unfold FakeVLLMAdapter.invalidateCaches
  refine (total_engine .resetPrefixCache trivial).bind fun _ hp => ?_
  refine (total_engine .resetEncoderCache trivial).bind fun _ _ => ?_
  refine (total_engine .resetMmCache trivial).bind fun _ _ => ?_
  refine total_attributes.bind fun g hg => total_attributes.bind fun g' hg' => ?_
  refine total_ret (InvalidateEvidence.failureReason_eq_none.mpr ⟨hp.2, ?_, ?_⟩)
  · rw [show g.encoderCacheDirty = false from congrArg CacheFlags.encoderDirty hg.caches]
    rfl
  · rw [show g'.mmCacheDirty = false from congrArg CacheFlags.mmDirty hg'.caches]
    rfl

theorem validatePreResume_total {t : UpdateTarget} (hl : x.engine.core.label = t.label)
    (hp : x.engine.core.paused = true) (hc : x.engine.caches = ⟨false, false, false⟩) :
    Total x (validatePreResume t) x fun e => e.target = t ∧ e.failureReason = none := by
  unfold validatePreResume
  refine (total_engine .getWeightInfo trivial).bind fun label hlabel => ?_
  refine (total_engine .isPaused trivial).bind fun paused hpaused => ?_
  refine total_attributes.bind fun g₁ h₁ => total_attributes.bind fun g₂ h₂ =>
    total_attributes.bind fun g₃ h₃ => ?_
  refine total_ret ⟨rfl, ValidateEvidence.failureReason_eq_none.mpr
    ⟨hlabel.1.trans hl, hpaused.1.trans hp, ?_⟩⟩
  have hdirty : ∀ {g : FakeVLLMEngine}, x.engine.Holds g → g.caches = ⟨false, false, false⟩ :=
    fun h => h.caches.trans hc
  show (!(g₁.caches.prefixDirty || g₂.caches.encoderDirty || g₃.caches.mmDirty)) = true
  rw [hdirty h₁, hdirty h₂, hdirty h₃]
  rfl

theorem resume_total {t : UpdateTarget} (hl : x.engine.core.label = t.label) :
    Total x (FakeVLLMAdapter.resume t) (x.withCore { x.engine.core with paused := false })
      fun e => e.target = t ∧ e.failureReason = none := by
  unfold FakeVLLMAdapter.resume
  refine (total_tryEngine .resume trivial).bind ?_
  rintro _ ⟨r, rfl, -⟩
  refine (total_ret (P := (· = true)) rfl).bind fun b hb => ?_
  refine (total_engine .isPaused trivial).bind fun paused hpaused => ?_
  refine (total_engine .getWeightInfo trivial).bind fun label hlabel => ?_
  exact total_ret ⟨rfl, ResumeEvidence.failureReason_eq_none.mpr
    ⟨hb, hpaused.1, .inr (congrArg some (hlabel.1.trans hl))⟩⟩

/-- An engine that is not managed yet is claimed under the first label. -/
theorem bootstrap_total {i : WeightIdentity} (hi : x.engine.core.identity = some i)
    (hl : x.engine.core.label = "default") : Total x FakeVLLMAdapter.bootstrap
      { x with engine := ⟨{ x.engine.core with label := (WeightVersion.mk INITIAL_VERSION).label },
        x.engine.caches, true⟩ }
      fun e => e.failureReason = none ∧ e.weightIdentity = i ∧
        e.observedEngineLabel = (WeightVersion.mk INITIAL_VERSION).label := by
  unfold FakeVLLMAdapter.bootstrap
  refine total_attributes.bind fun g hg => ?_
  rw [show g.weightIdentity = some i from (congrArg EngineCore.identity hg.core).trans hi]
  refine (total_engine .getWeightInfo trivial).bind fun preSeed hpre => ?_
  refine total_attributes.bind fun g₁ h₁ => ?_
  have hlabel : g₁.weightVersion = "default" := (congrArg EngineCore.label h₁.core).trans hl
  rw [if_neg (by simp [FakeVLLMEngine.isManaged, hlabel]; decide)]
  refine total_attributes.bind fun _ _ => ?_
  refine (total_engine .initWeightTransferEngine trivial).bind fun _ _ => ?_
  refine (total_engine (.updateWeightVersion _) trivial).bind fun _ _ => ?_
  refine (total_engine .getWeightInfo trivial).bind fun observed hobs => ?_
  refine total_attributes.bind fun g₂ h₂ => total_attributes.bind fun g₃ _ => ?_
  refine (total_engine .getWorldSize trivial).bind fun worldSize _ => ?_
  refine total_ret ⟨?_, rfl, hobs.1⟩
  unfold BootstrapEvidence.failureReason
  have hready : g₂.weightTransferInitialised = true := h₂.ready
  have hpre' : preSeed = "default" := hpre.1.trans hl
  rw [hready, hpre']
  rfl

end Methods

/-! ## The runner -/

section Runner

variable {r : LifecycleRunner} {a : FakeVLLMAdapter} {x y z : Standing}

/-- A program of the runner over the reference engine. -/
abbrev RunnerTotal {α : Type} (a : FakeVLLMAdapter) (x : Standing) (p : RunnerProg α) (y : Standing)
    (P : α → Prop) : Prop :=
  Total x (p.interp a.handle) y P

theorem RunnerTotal.bind {α β : Type} {p : RunnerProg α} {f : α → RunnerProg β} {P : α → Prop}
    {Q : β → Prop} (hp : RunnerTotal a x p y P) (hf : ∀ b, P b → RunnerTotal a y (f b) z Q) :
    RunnerTotal a x (p >>= f) z Q := by
  show Total x ((p.bind f).interp a.handle) z Q
  rw [Prog.interp_bind]
  exact Total.bind hp hf

/-- A view of the controller or the clock. -/
theorem runnerTotal_view {call : RunnerCall} {P : call.Reply → Prop}
    (hcall : ∀ m, call ≠ .adapter m)
    (h : ∀ c reply c', x.controller.Holds c → runnerAnswers call c reply c' → c' = c ∧ P reply) :
    RunnerTotal a x (Prog.op call) x P := by
  have hop : a.handle call = Prog.op (FakeCall.runner call) := by
    cases call with
    | adapter m => exact absurd rfl (hcall m)
    | _ => rfl
  show Total x ((a.handle call).bind Prog.pure) x P
  rw [hop]
  rintro s hs reply s' ⟨c', hc, rfl⟩
  obtain ⟨rfl, hP⟩ := h _ _ _ hs.controller hc
  exact ⟨hs, hP⟩

theorem state_total : RunnerTotal a x LifecycleRunner.state x fun _ => True :=
  runnerTotal_view (by simp) fun _ _ _ _ h => ⟨h.2, trivial⟩

theorem currentTarget_total :
    RunnerTotal a x LifecycleRunner.currentTarget x (· = x.controller.current) :=
  runnerTotal_view (by simp) fun _ _ _ hc h => ⟨h.2, h.1.trans hc.current⟩

theorem monotonic_total : RunnerTotal a x LifecycleRunner.monotonic x fun _ => True :=
  runnerTotal_view (by simp) fun _ _ _ _ h => ⟨h, trivial⟩

/-- A controller operation that succeeds, as a value. -/
theorem tryCtrl_total {op : Op} {y : ControllerStanding} {P : op.Ret → Prop}
    (h : ∀ c, x.controller.Holds c → ∃ b c', op.call.run c = .ok b c' ∧ y.Holds c' ∧ P b) :
    RunnerTotal a x (LifecycleRunner.tryCtrl op) { x with controller := y }
      fun reply => ∃ b, reply = .ok b ∧ P b := by
  rintro s hs reply s' ⟨c', hr, rfl⟩
  obtain ⟨b, c'', hrun, hy, hP⟩ := h _ hs.controller
  have hreply : op.Replies s.controller reply c' := hr
  cases reply with
  | ok b' =>
    cases hrun.symm.trans hreply
    exact ⟨⟨hy, hs.engine, hs.drained⟩, b, rfl, hP⟩
  | error e => cases hrun.symm.trans hreply

/-- The same, where its exceptions would propagate. -/
theorem ctrl_total (op : Op) {y : ControllerStanding} {P : op.Ret → Prop}
    (h : ∀ c, x.controller.Holds c → ∃ b c', op.call.run c = .ok b c' ∧ y.Holds c' ∧ P b) :
    RunnerTotal a x (LifecycleRunner.ctrl op) { x with controller := y } P := by
  refine RunnerTotal.bind (tryCtrl_total h) ?_
  rintro _ ⟨b, rfl, hb⟩
  exact total_ret hb

/-- A transition, whatever it returns. -/
theorem transition_total {op : Op} (y : ControllerStanding)
    (h : ∀ c, x.controller.Holds c → ∃ b c', op.call.run c = .ok b c' ∧ y.Holds c') :
    RunnerTotal a x (LifecycleRunner.ctrl op) { x with controller := y } fun _ => True :=
  ctrl_total op fun c hc => by
    obtain ⟨b, c', hrun, hy⟩ := h c hc
    exact ⟨b, c', hrun, hy, trivial⟩

/-- An adapter method, as a value. -/
theorem tryAdapter_total {m : AdapterCall} {P : m.Ret → Prop} (h : Total x (a.method m) y P) :
    RunnerTotal a x (LifecycleRunner.tryAdapter m) y fun reply => ∃ b, reply = .ok b ∧ P b :=
  Total.bind h.attempt fun _ hb => total_ret hb

theorem effect_total {m : AdapterCall} {P : m.Ret → Prop} (what : String)
    (h : Total x (a.method m) y P) : RunnerTotal a x (LifecycleRunner.effect what m) y P := by
  refine RunnerTotal.bind (tryAdapter_total h) ?_
  rintro _ ⟨b, rfl, hb⟩
  exact total_ret hb

theorem observe_total {m : AdapterCall} {P : m.Ret → Prop} (h : Total x (a.method m) y P) :
    RunnerTotal a x (LifecycleRunner.observe m) y P := by
  refine RunnerTotal.bind (tryAdapter_total h) ?_
  rintro _ ⟨b, rfl, hb⟩
  exact total_ret hb

/-- The first poll finds the drain complete. -/
theorem drainUntilQuiesced_total {current pending : Option UpdateTarget} (hpolls : 1 ≤ r.drainPolls)
    (hx : x.controller = ⟨.draining, current, pending⟩) (hd : x.drained = true) :
    RunnerTotal a x r.drainUntilQuiesced { x with controller := ⟨.quiesced, current, pending⟩ }
      fun _ => True := by
  unfold LifecycleRunner.drainUntilQuiesced
  refine RunnerTotal.bind monotonic_total fun start _ => ?_
  obtain ⟨left, hleft⟩ : ∃ left, r.drainPolls.toNat = left + 1 :=
    ⟨r.drainPolls.toNat - 1, by omega⟩
  rw [hleft, LifecycleRunner.pollDrain]
  refine RunnerTotal.bind (observe_total (awaitDrain_total hd)) fun e he => ?_
  refine RunnerTotal.bind (tryCtrl_total (y := ⟨.quiesced, current, pending⟩)
    (P := fun _ => True) fun c hc => ?_) ?_
  · rw [hx] at hc
    exact ⟨_, _, confirmDrained_apply hc.state hc.released he.1 he.2,
      ⟨rfl, hc.current, hc.pending, hc.released⟩, trivial⟩
  · rintro _ ⟨_, rfl, -⟩
    exact total_ret trivial

/-- The engine serves exactly `t`: unpaused, no session open, every cache clean. -/
def serving (t : UpdateTarget) (ready drained : Bool) : Standing where
  controller := ⟨.ready, some t, none⟩
  engine := ⟨⟨t.label, some t.identity, false, false⟩, ⟨false, false, false⟩, ready⟩
  drained := drained

/-- **One cycle**: every check passes and the target is committed. -/
theorem runCycle_total (hpolls : 1 ≤ r.drainPolls) {t t₀ : UpdateTarget}
    (hlt : t₀.version < t.version) (hx : x.controller = ⟨.ready, some t₀, none⟩)
    (hclosed : x.engine.core.sessionOpen = false) :
    RunnerTotal a x (r.runCycle t) (serving t x.engine.ready true)
      fun res => res.committed = t := by
  unfold LifecycleRunner.runCycle
  refine RunnerTotal.bind state_total fun s₀ _ => ?_
  refine RunnerTotal.bind monotonic_total fun started _ => ?_
  refine RunnerTotal.bind (transition_total ⟨.draining, some t₀, none⟩ fun c hc => ?_)
    fun _ _ => ?_
  · rw [hx] at hc
    obtain ⟨plan, hrun⟩ := beginDrain_apply hc.state hc.current
    exact ⟨_, _, hrun, ⟨rfl, hc.current, hc.pending, hc.released⟩⟩
  refine RunnerTotal.bind state_total fun s₁ _ => ?_
  refine RunnerTotal.bind (effect_total "begin_drain" beginDrain_total) fun _ _ => ?_
  refine RunnerTotal.bind (drainUntilQuiesced_total hpolls rfl rfl) fun polls _ => ?_
  refine RunnerTotal.bind state_total fun s₂ _ => ?_
  refine RunnerTotal.bind (transition_total ⟨.updating, some t₀, some t⟩ fun c hc => ?_)
    fun _ _ => ?_
  · obtain ⟨plan, hrun⟩ := beginUpdate_apply hc.state hc.current hlt
    exact ⟨_, _, hrun, ⟨rfl, hc.current, rfl, hc.released⟩⟩
  refine RunnerTotal.bind state_total fun s₃ _ => ?_
  refine RunnerTotal.bind (effect_total "start_weight_update"
    (total_engine .startWeightUpdate hclosed)) fun _ _ => ?_
  refine RunnerTotal.bind (effect_total "complete_weight_update"
    (completeWeightUpdate_total a t rfl)) fun e₄ he₄ => ?_
  refine RunnerTotal.bind (transition_total ⟨.invalidating, some t₀, some t⟩ fun c hc => ?_)
    fun _ _ => ?_
  · obtain ⟨ht, he⟩ := he₄
    obtain ⟨plan, detail, hrun⟩ := confirmUpdated_apply hc.state (ht ▸ hc.pending) he
    exact ⟨_, _, hrun, ⟨rfl, hc.current, hc.pending, hc.released⟩⟩
  refine RunnerTotal.bind state_total fun s₄ _ => ?_
  refine RunnerTotal.bind (effect_total "invalidate_caches" invalidateCaches_total) fun e₅ he₅ => ?_
  refine RunnerTotal.bind (transition_total ⟨.validating, some t₀, some t⟩ fun c hc => ?_)
    fun _ _ => ?_
  · obtain ⟨plan, hrun⟩ := confirmInvalidated_apply hc.state hc.pending he₅
    exact ⟨_, _, hrun, ⟨rfl, hc.current, hc.pending, hc.released⟩⟩
  refine RunnerTotal.bind state_total fun s₅ _ => ?_
  refine RunnerTotal.bind (observe_total (validatePreResume_total rfl rfl rfl)) fun e₆ he₆ => ?_
  refine RunnerTotal.bind (transition_total ⟨.resuming, some t₀, some t⟩ fun c hc => ?_)
    fun _ _ => ?_
  · obtain ⟨ht, he⟩ := he₆
    obtain ⟨plan, hrun⟩ := confirmValidated_apply hc.state (ht ▸ hc.pending) he
    exact ⟨_, _, hrun, ⟨rfl, hc.current, hc.pending, hc.released⟩⟩
  refine RunnerTotal.bind state_total fun s₆ _ => ?_
  refine RunnerTotal.bind (effect_total "resume" (resume_total rfl)) fun e₇ he₇ => ?_
  refine RunnerTotal.bind (transition_total ⟨.ready, some t, none⟩ fun c hc => ?_)
    fun _ _ => ?_
  · obtain ⟨ht, he⟩ := he₇
    have hrun := confirmResumed_apply hc.state (ht ▸ hc.pending) he
    exact ⟨_, _, hrun, ⟨rfl, congrArg some ht, rfl, hc.released⟩⟩
  refine RunnerTotal.bind state_total fun s₇ _ => ?_
  refine RunnerTotal.bind currentTarget_total fun committed hcommitted => ?_
  subst hcommitted
  exact RunnerTotal.bind monotonic_total fun now _ => total_ret rfl

/-- The next generation is one version on, with the identity asked for. -/
theorem installNext_total (hpolls : 1 ≤ r.drainPolls) {t₀ : UpdateTarget} (i : WeightIdentity)
    (hx : x.controller = ⟨.ready, some t₀, none⟩) (hclosed : x.engine.core.sessionOpen = false) :
    RunnerTotal a x (r.installNext (some i)) (serving ⟨t₀.version.next, i⟩ x.engine.ready true)
      fun res => res.committed = ⟨t₀.version.next, i⟩ := by
  unfold LifecycleRunner.installNext
  refine RunnerTotal.bind (ctrl_total (.nextTarget (some i)) (y := x.controller)
    (P := fun t : UpdateTarget => t = ⟨t₀.version.next, i⟩) fun c hc => ?_) fun t ht => ?_
  · rw [hx] at hc ⊢
    exact ⟨_, _, nextTarget_apply hc.current, hc, rfl⟩
  subst ht
  exact runCycle_total hpolls (Nat.lt_succ_self t₀.version.value) hx hclosed

/-- **Bootstrap** commits the first generation. -/
theorem runnerBootstrap_total {i : WeightIdentity}
    (hx : x.controller = ⟨.uninitialized, none, none⟩) (hi : x.engine.core.identity = some i)
    (hl : x.engine.core.label = "default") :
    RunnerTotal a x LifecycleRunner.bootstrap
      { x with
        controller := ⟨.ready, some ⟨⟨INITIAL_VERSION⟩, i⟩, none⟩
        engine := ⟨{ x.engine.core with label := (WeightVersion.mk INITIAL_VERSION).label },
          x.engine.caches, true⟩ }
      fun _ => True := by
  unfold LifecycleRunner.bootstrap
  refine RunnerTotal.bind (effect_total "bootstrap" (bootstrap_total hi hl)) fun e he => ?_
  obtain ⟨hfail, hid, hlabel⟩ := he
  refine transition_total ⟨.ready, some ⟨⟨INITIAL_VERSION⟩, i⟩, none⟩ fun c hc => ?_
  rw [hx] at hc
  have hparse : WeightVersion.parseLabel e.observedEngineLabel = .ok ⟨INITIAL_VERSION⟩ := by
    rw [hlabel, WeightVersion.parseLabel_initial]
  exact ⟨_, _, initialise_apply hc.state hfail hparse,
    ⟨rfl, by rw [← hid], hc.pending, hc.released⟩⟩

end Runner

end RolloutCore
