import RolloutCore.RolloutSpans

/-!
# Interrupted cycles over the reference engine

A cycle that has raised leaves its controller outside READY and the label of a generation on the
engine. From there on every request is refused before it reaches the core of the engine: cycles by
the controller, which begins no drain, and bootstraps by the adapter, which adopts no managed
engine. A new controller over the same engine fares no better.
-/

namespace RolloutCore

open LifecycleController

/-- The engine is at `k` and carries a label of a generation; the controller, which has committed
`t`, does not serve. -/
structure Frozen (k : EngineCore) (t : Option UpdateTarget) (s : FakeSystem) : Prop where
  inv : Inv s.controller
  managed : k.Managed
  core : s.engine.core = k
  notReady : s.controller.state ≠ .ready
  target : s.controller.currentTarget = t

/-- The calls on the controller in a request to a frozen system, and those of the others. -/
def Op.IsIdle : Op → Prop
  | .beginDrain | .nextTarget _ => True
  | op => op.IsOwners

theorem Op.IsOwners.isIdle {op : Op} (hop : op.IsOwners) : op.IsIdle := by
  cases op <;> trivial

section Steps

variable {k : EngineCore} {t : Option UpdateTarget} {s s' : FakeSystem}

theorem Op.IsIdle.after {c : LifecycleController} {op : Op} (hop : op.IsIdle) (hi : c.Inv)
    (hs : c.state ≠ .ready) :
    (op.after c).state ≠ .ready ∧ (op.after c).currentTarget = c.currentTarget := by
  obtain ⟨c', hc, he⟩ := op.effect hi
  rw [hc]
  cases he with
  | rejected _ _ hc =>
    rw [hc]
    exact ⟨hs, rfl⟩
  | tainted _ _ _ hc =>
    rw [hc]
    exact ⟨by simp, rfl⟩
  | accepted _ ha =>
    cases ha with
    | beginDrain hr | admitRollout hr => exact absurd hr hs
    | taint => exact ⟨by simp, rfl⟩
    | taintAgain | nextTarget | finishRollout | abortRollout => exact ⟨hs, rfl⟩
    | _ => exact hop.elim

theorem Frozen.op (h : Frozen k t s) {op : Op} (hop : op.IsIdle) :
    Frozen k t { s with controller := op.after s.controller } := by
  obtain ⟨hs, hcur⟩ := hop.after h.inv h.notReady
  exact ⟨inv_after h.inv op, h.managed, h.core, hs, hcur.trans h.target⟩

theorem Frozen.env (h : Frozen k t s) (he : fakeWorld.env s s') : Frozen k t s' := by
  rcases he with ⟨c', ⟨op, hop, rfl⟩, rfl⟩ | ⟨_, _, _, _, _, _, rfl⟩
  · exact h.op hop.isIdle
  · exact ⟨h.inv, h.managed, h.core, h.notReady, h.target⟩

/-- Calls of the adapter that leave the core alone. -/
theorem Frozen.adapter (h : Frozen k t s) (hc : s'.controller = s.controller)
    (hk : s'.engine.core = s.engine.core) : Frozen k t s' :=
  ⟨hc ▸ h.inv, h.managed, hk.trans h.core, hc ▸ h.notReady, hc ▸ h.target⟩

end Steps

/-! ## Requests to a frozen system -/

/-- Frozen, and `P`. -/
def frozen (k : EngineCore) (t : Option UpdateTarget) (P : Prop) : Assertion fakeWorld :=
  .ofState (fun s => Frozen k t s ∧ P) fun _ _ h he => ⟨h.1.env he, h.2⟩

section Requests

variable {k : EngineCore} {t : Option UpdateTarget} {α β : Type} {r : LifecycleRunner}
  {a : FakeVLLMAdapter}

/-- From a frozen system the program keeps it frozen, and returns `x` only if `P x`. -/
abbrev KeepsFrozen (k : EngineCore) (t : Option UpdateTarget) (p : FakeProg α) (P : α → Prop) :
    Prop :=
  Triple (frozen k t True) (frozen k t True) p (fun x => frozen k t (P x))
    (fun _ => frozen k t True)

theorem KeepsFrozen.bind {p : FakeProg α} {f : α → FakeProg β} {P : α → Prop} {Q : β → Prop}
    (hp : KeepsFrozen k t p P) (hf : ∀ x, P x → KeepsFrozen k t (f x) Q) :
    KeepsFrozen k t (p.bind f) Q :=
  Triple.bind hp fun x tr s h => hf x h.2 tr s ⟨h.1, trivial⟩

theorem KeepsFrozen.op (call : FakeCall) {P : call.Reply → Prop}
    (h : ∀ s reply s', Frozen k t s → fakeAnswers call s reply s' → Frozen k t s' ∧ P reply) :
    KeepsFrozen k t (Prog.op call) P :=
  Triple.op (Assertion.le_refl _) fun _ s reply s' hs ha =>
    ⟨⟨(h s reply s' hs.1 ha).1, trivial⟩, h s reply s' hs.1 ha⟩

theorem keepsFrozen_throw {e : PyExc} {P : α → Prop} : KeepsFrozen k t (.throw e) P :=
  Triple.throw (Assertion.le_refl _) (Assertion.le_refl _)

theorem keepsFrozen_ofExcept {x : Except PyExc α} {P : α → Prop} (h : ∀ y, x = .ok y → P y) :
    KeepsFrozen k t (Prog.ofExcept x : FakeProg α) P := by
  cases x with
  | ok y => exact Triple.pure (Assertion.le_refl _) fun _ _ hs => ⟨hs.1, h y rfl⟩
  | error e => exact keepsFrozen_throw

theorem KeepsFrozen.attempt {p : FakeProg α} {P : α → Prop} (h : KeepsFrozen k t p P) :
    KeepsFrozen k t p.attempt fun x => ∀ y, x = .ok y → P y := by
  refine fun tr s hs => Safe.attempt ((h tr s hs).mono ?_ ?_)
  · rintro x tr s ⟨hf, hP⟩
    exact ⟨hf, by rintro y ⟨⟩; exact hP⟩
  · rintro e tr s ⟨hf, -⟩
    exact ⟨hf, by rintro y ⟨⟩⟩

/-- A program of the runner over the reference engine. -/
abbrev RunnerFrozen (k : EngineCore) (t : Option UpdateTarget) (a : FakeVLLMAdapter)
    (p : RunnerProg α) (P : α → Prop) : Prop :=
  KeepsFrozen k t (p.interp a.handle) P

theorem RunnerFrozen.bind {p : RunnerProg α} {f : α → RunnerProg β} {P : α → Prop} {Q : β → Prop}
    (hp : RunnerFrozen k t a p P) (hf : ∀ x, P x → RunnerFrozen k t a (f x) Q) :
    RunnerFrozen k t a (p >>= f) Q := by
  show KeepsFrozen k t ((p.bind f).interp a.handle) Q
  rw [Prog.interp_bind]
  exact KeepsFrozen.bind hp hf

theorem frozen_view (call : RunnerCall) (hv : call.IsView) :
    KeepsFrozen k t (Prog.op (FakeCall.runner call)) fun _ => True :=
  KeepsFrozen.op (.runner call) fun _ _ _ h ⟨_, hc, hs'⟩ =>
    ⟨h.adapter (hs' ▸ view_answers hv hc) (hs' ▸ rfl), trivial⟩

theorem frozen_ctrl {op : Op} (hop : op.IsIdle) {P : op.Ret → Prop}
    (hP : ∀ c x c', c.Inv → c.state ≠ .ready → Accepted op c x c' → P x) :
    RunnerFrozen k t a (LifecycleRunner.ctrl op) P := by
  refine KeepsFrozen.bind (P := fun reply : Except PyExc op.Ret => ∀ x, reply = .ok x → P x)
    (KeepsFrozen.op (.runner (.ctrl op)) ?_) fun reply hreply => ?_
  · rintro s reply s' h ⟨c', hc, rfl⟩
    have hr : op.Replies s.controller reply c' := hc
    refine ⟨hr.after ▸ h.op hop, ?_⟩
    rintro x rfl
    exact hP _ x _ h.inv h.notReady (hr.accepted h.inv)
  · cases reply with
    | ok x => exact keepsFrozen_ofExcept (x := .ok x) hreply
    | error e => exact keepsFrozen_throw

theorem frozen_beginDrain :
    RunnerFrozen k t a (LifecycleRunner.ctrl .beginDrain) fun _ => False := by
  refine @frozen_ctrl _ _ a .beginDrain trivial _ fun c _ c' _ hs ha => ?_
  cases ha with
  | beginDrain hr => exact hs hr

/-- No drain is begun, so nothing follows. -/
theorem frozen_runCycle (target : UpdateTarget) :
    RunnerFrozen k t a (r.runCycle target) fun _ => False := by
  refine RunnerFrozen.bind (frozen_view .state trivial) fun _ _ =>
    RunnerFrozen.bind (frozen_view .monotonic trivial) fun _ _ =>
    RunnerFrozen.bind frozen_beginDrain fun _ h => h.elim

theorem frozen_endpoint {call : EngineCall} (hcall : ∀ k, call.coreAfter k = k)
    (hfail : ∀ k k', call.MayFail k k' → k' = k) :
    KeepsFrozen k t (FakeVLLMAdapter.engine call) fun _ => True := by
  refine KeepsFrozen.bind (P := fun _ => True) (KeepsFrozen.op (.engine call) ?_)
    fun reply _ => keepsFrozen_ofExcept fun _ _ => trivial
  rintro s reply s' h ⟨g', hr, rfl⟩
  refine ⟨h.adapter rfl ?_, trivial⟩
  cases reply with
  | ok x => exact hr.core_of_ok.1.trans (hcall _)
  | error e => exact hfail _ _ hr.core_of_error

theorem frozen_attributes :
    KeepsFrozen k t FakeVLLMAdapter.attributes fun g => g.isManaged = true :=
  KeepsFrozen.op _ fun _ _ _ h ⟨hreply, hs'⟩ =>
    ⟨hs' ▸ h, hreply ▸ isManaged_of_managed (h.core ▸ h.managed)⟩

/-- The adapter reads a managed label, and writes nothing. -/
theorem frozen_adapterBootstrap : KeepsFrozen k t FakeVLLMAdapter.bootstrap fun _ => False := by
  unfold FakeVLLMAdapter.bootstrap
  refine KeepsFrozen.bind frozen_attributes fun g _ => ?_
  cases g.weightIdentity with
  | none => exact keepsFrozen_throw
  | some i =>
    refine KeepsFrozen.bind (frozen_endpoint (fun _ => rfl) fun _ _ h => h) fun preSeed _ =>
      KeepsFrozen.bind frozen_attributes fun g hg => ?_
    dsimp only
    rw [if_pos hg]
    exact keepsFrozen_throw

theorem frozen_bootstrap : RunnerFrozen k t a LifecycleRunner.bootstrap fun _ => False := by
  refine RunnerFrozen.bind (P := fun _ => False) ?_ fun _ h => h.elim
  refine KeepsFrozen.bind (p := (a.method .bootstrap).attempt) frozen_adapterBootstrap.attempt
    fun reply hreply => ?_
  cases reply with
  | ok e => exact (hreply e rfl).elim
  | error e =>
    show RunnerFrozen k t a (if e.isCore = true then throw e else
      Prog.ofExcept e.repr >>= fun _ => LifecycleRunner.raiseTaint _) _
    split_ifs
    · exact keepsFrozen_throw
    · cases e.repr with
      | error raised => exact keepsFrozen_throw
      | ok shown =>
        show RunnerFrozen k t a (LifecycleRunner.raiseTaint _) _
        exact RunnerFrozen.bind (P := fun _ => True)
          (@frozen_ctrl _ _ a (.taint _) trivial _ fun _ _ _ _ _ _ => trivial) fun e _ =>
          keepsFrozen_throw

/-- **Every request to a frozen system raises**, and leaves it frozen. -/
theorem frozen_serveOver (q : RunnerRequest) :
    KeepsFrozen k t (r.serveOver a q) fun _ => False := by
  cases q with
  | bootstrap => exact frozen_bootstrap
  | cycle q =>
    refine KeepsFrozen.bind (P := fun _ => False) ?_ fun _ h => h.elim
    cases q with
    | runCycle t' => exact frozen_runCycle t'
    | installNext i =>
      exact RunnerFrozen.bind (P := fun _ => True)
        (@frozen_ctrl _ _ a (.nextTarget i) trivial _ fun _ _ _ _ _ _ => trivial)
        fun t' _ => frozen_runCycle t'

theorem session_frozen {s₀ s : FakeSystem} {past : List (RunnerRequest × List FakeEvent)}
    (h : Session fakeWorld (r.serveOver a) s₀ past s) (h₀ : Frozen k t s₀) : Frozen k t s :=
  h.invariant (fun q _ _ _ _ hs hr => ((frozen_serveOver q).always ⟨hs, trivial⟩ hr).1)
    (fun _ _ hs he => hs.env he) h₀

end Requests

/-- **An interrupted engine is nobody's any more.** Bring an unpaused engine with no open session
under control and run cycles on it, with rollout owners, the operator and faults in between, until
the controller is not READY between two requests; or replace it, at any time between two requests,
by a new one. Whatever is requested from then on, with whatever in between, every request raises,
the engine keeps label, weights, pause and session, and the controller never gets to READY and
keeps its committed target. -/
theorem interrupted_for_good (r r' : LifecycleRunner) (a a' : FakeVLLMAdapter) (g : FakeVLLMEngine)
    (d d' : Bool) (hpaused : g.pauseState = .unpaused) (hclosed : g.updateSessionOpen = false)
    {past more : List (RunnerRequest × List FakeEvent)} {s s' s'' : FakeSystem}
    (h : Session fakeWorld (r.serveOver a) ⟨.init, g, d⟩ past s) (hboot : Bootstrapped past [])
    {c : LifecycleController} (hc : c = .init ∨ c = s.controller ∧ c.state ≠ .ready)
    (hmore : Session fakeWorld (r'.serveOver a') ⟨c, s.engine, d'⟩ more s')
    {q : RunnerRequest} {tr : List FakeEvent} {p : FakeProg Unit}
    (hr : Run fakeWorld (r'.serveOver a' q) s' tr p s'') :
    (∀ x, p ≠ .pure x) ∧ s''.engine.core = s.engine.core ∧ s''.controller.state ≠ .ready ∧
      s''.controller.currentTarget = c.currentTarget := by
  have h₀ : Agree LifecycleController.init g.core :=
    .of_uncommitted inv_init rfl fun _ => ⟨pauseState_eq.mp hpaused, hclosed⟩
  obtain ⟨hagree, hcommitted⟩ := session_keeps h h₀
  have hmanaged : s.engine.core.Managed := by
    obtain ⟨x, hx, hini⟩ := hboot
    exact hagree.managed (hcommitted ⟨x, by simpa using hx, hini⟩)
  have hfrozen : Frozen s.engine.core c.currentTarget ⟨c, s.engine, d'⟩ := by
    rcases hc with rfl | ⟨rfl, hs⟩
    · exact ⟨inv_init, hmanaged, rfl, by simp [LifecycleController.init], rfl⟩
    · exact ⟨hagree.inv, hmanaged, rfl, hs, rfl⟩
  have hsafe := (frozen_serveOver q [] s' ⟨session_frozen hmore hfrozen, trivial⟩).run hr
  obtain ⟨hend, -⟩ := hsafe.inv
  refine ⟨?_, hend.core, hend.notReady, hend.target⟩
  rintro x rfl
  exact hsafe.2.2

/-- A bootstrapped system whose engine is about to fail the read-back of its pause state. -/
def failingSystem : FakeSystem :=
  let s := (fakePlay .bootstrap freshSystem).2.2
  let faults := .ofPairs [("is_paused", "timed out")]
  { s with engine := s.engine.disturbed faults 0 true false false false }

/-- The cycle to the second generation, which raises after the transfer. -/
def interruptedPlay : List FakeEvent × Except PyExc Unit × FakeSystem :=
  fakePlay (.cycle (.runCycle ⟨⟨1⟩, identityB⟩)) failingSystem

theorem session_failing : Session fakeWorld (LifecycleRunner.serveOver {} {}) freshSystem
    [(.bootstrap, (fakePlay .bootstrap freshSystem).1)] failingSystem := by
  have hboot := Session.nil.request (run_fakePlay .bootstrap freshSystem) (Prog.ended_ofExcept _)
  exact hboot.env (.inr ⟨.ofPairs [("is_paused", "timed out")], 0, true, false, false, false, rfl⟩)

theorem session_interrupted : Session fakeWorld (LifecycleRunner.serveOver {} {}) freshSystem
    [(.bootstrap, (fakePlay .bootstrap freshSystem).1),
      (.cycle (.runCycle ⟨⟨1⟩, identityB⟩), interruptedPlay.1)] interruptedPlay.2.2 :=
  session_failing.request (run_fakePlay (.cycle (.runCycle ⟨⟨1⟩, identityB⟩)) failingSystem)
    (Prog.ended_ofExcept _)

/-- The engine is left paused under the label of the second generation, and a new controller
raises. -/
theorem interrupted_for_good_restarted : ∃ tr p s',
    Run fakeWorld (LifecycleRunner.serveOver {} {} .bootstrap)
      ⟨.init, interruptedPlay.2.2.engine, false⟩ tr p s' ∧
    (∀ x, p ≠ .pure x) ∧ s'.engine.core.label = "rc-1" ∧ s'.engine.core.paused = true := by
  have hrun := run_fakePlay .bootstrap ⟨.init, interruptedPlay.2.2.engine, false⟩
  have hini : (fakePlay .bootstrap freshSystem).1.any FakeEvent.initialises = true := by
    decide +kernel
  obtain ⟨x, hx, hxi⟩ := List.any_eq_true.mp hini
  have hcore : interruptedPlay.2.2.engine.core.label = "rc-1" ∧
      interruptedPlay.2.2.engine.core.paused = true := by
    decide +kernel
  have hboot : Bootstrapped [(.bootstrap, (fakePlay .bootstrap freshSystem).1),
      (.cycle (.runCycle ⟨⟨1⟩, identityB⟩), interruptedPlay.1)] [] :=
    ⟨x, List.mem_append_left _ (List.mem_append_left _ hx), hxi⟩
  obtain ⟨hraises, hkept, -⟩ := interrupted_for_good {} {} {} {} freshSystem.engine false false
    rfl rfl session_interrupted hboot (.inl rfl) .nil hrun
  refine ⟨_, _, _, hrun, hraises, ?_⟩
  rw [hkept]
  exact hcore

end RolloutCore
