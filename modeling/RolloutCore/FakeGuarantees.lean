import RolloutCore.FakeCycle
import RolloutCore.CycleOrder

/-!
# Agreement over whole sessions

Bootstraps and cycles of a runner over the reference engine, one after the other, with the other
callers of the controller and every change of faults and requests in between.
-/

namespace RolloutCore

open LifecycleController

/-! ## Requests -/

/-- A request to the runner. -/
inductive RunnerRequest
  | bootstrap
  | cycle (request : CycleRequest)

/-- The program that serves a request over the reference engine. -/
def LifecycleRunner.serveOver (r : LifecycleRunner) (a : FakeVLLMAdapter) :
    RunnerRequest → FakeProg Unit
  | .bootstrap => LifecycleRunner.bootstrap.interp a.handle
  | .cycle q => (r.serve q).interp a.handle >>= fun _ => pure ()

/-! ## Bootstrap -/

section Bootstrap

open FakeVLLMAdapter

/-- The engine holds the weights `i`, and nothing has been committed yet. -/
def seeding (i : WeightIdentity) : Joint where
  holds c k _ := Agree c k ∧ c.currentTarget = none ∧ k.identity = some i
  stable := by
    rintro c c' k d ⟨h, hcur, hid⟩ he
    obtain ⟨op, hop, rfl⟩ := he
    exact ⟨h.owners hop, (owners_after h.inv hop).1.trans hcur, hid⟩
  agree h := h.1

/-- And the engine carries the label of the first generation. -/
def seeded (i : WeightIdentity) : Joint :=
  (seeding i).given fun k _ => k.label = (WeightVersion.mk INITIAL_VERSION).label

theorem isManaged_of_managed {g : FakeVLLMEngine} (h : g.core.Managed) : g.isManaged = true := by
  obtain ⟨v, hv⟩ := h
  show startsWith ENGINE_LABEL_PREFIX g.core.label = true
  rw [hv]
  exact startsWith_append _ _

/-- A change of the core that keeps pause and session, before the first commit. -/
theorem seeding_label {i : WeightIdentity} {c : LifecycleController} {k k' : EngineCore} {d : Bool}
    (h : (seeding i).holds c k d) (hid : k'.identity = k.identity) (hp : k'.paused = k.paused)
    (hs : k'.sessionOpen = k.sessionOpen) : (seeding i).holds c k' d := by
  obtain ⟨ha, hcur, hk⟩ := h
  refine ⟨.of_uncommitted ha.inv hcur fun hu => ?_, hcur, hid.trans hk⟩
  rw [hp, hs]
  exact ha.fresh hu

/-- **The adapter's bootstrap** writes only to an engine nothing was committed for. -/
theorem bootstrap_under : Joint.agreement.Under FakeVLLMAdapter.bootstrap
    (fun e => seeded e.weightIdentity) Joint.agreement := by
  unfold FakeVLLMAdapter.bootstrap
  refine Joint.bind Joint.attributes fun g => ?_
  cases hg : g.weightIdentity with
  | none => exact Joint.raise fun _ _ _ h => h.1
  | some i =>
    refine Joint.bind (Joint.engineView (fun _ => rfl) (fun _ _ h => h) fun _ _ _ h => h.1)
      fun preSeed => Joint.bind Joint.attributes fun g' => ?_
    dsimp only
    cases hm : g'.isManaged with
    | true => exact Joint.raise fun _ _ _ h => h.1.1.1
    | false =>
      refine Triple.weaken (B := (seeding i).assertion) ?_ ?_
      · refine Joint.bind Joint.attributes fun _ => ?_
        refine Joint.bind (M := fun _ => seeding i) (Joint.engine (fun c k d r h _ => h.1) ?_)
          fun _ => ?_
        · rintro c k k' d h (rfl : k' = k)
          exact h.1.1
        refine Joint.bind (M := fun _ => seeded i) (Joint.engine
          (fun c k d r h _ => ⟨seeding_label h rfl rfl rfl, rfl⟩) ?_) fun _ => ?_
        · rintro c k k' d h (rfl : k' = k)
          exact h.1
        refine Joint.bind (Joint.engineView (fun _ => rfl) (fun _ _ h => h) fun _ _ _ h => h.1.1)
          fun observed => Joint.bind Joint.attributes fun _ =>
          Joint.bind Joint.attributes fun _ => ?_
        exact Joint.bind (Joint.engineView (fun _ => rfl) (fun _ _ h => h)
          fun _ _ _ h => h.1.1.1.1.1) fun worldSize => Joint.ret fun _ _ _ h => h.1.1.1.1
      · -- the label was not managed, so no target is committed
        rintro tr s ⟨⟨⟨h, hk⟩, -⟩, hk'⟩
        refine ⟨h, ?_, ?_⟩
        · by_contra hcur
          rw [isManaged_of_managed (hk' ▸ h.managed hcur)] at hm
          cases hm
        · rw [hk]
          exact hg

variable {r : LifecycleRunner} {a : FakeVLLMAdapter}

/-- A program of the runner over the reference engine; it raises only where the two agree. -/
abbrev RunnerUnder {α : Type} (a : FakeVLLMAdapter) (R : Joint) (p : RunnerProg α) (Q : α → Joint) :
    Prop :=
  R.Under (p.interp a.handle) Q Joint.agreement

theorem RunnerUnder.bind {α β : Type} {R : Joint} {p : RunnerProg α} {f : α → RunnerProg β}
    {M : α → Joint} {Q : β → Joint} (hp : RunnerUnder a R p M)
    (hf : ∀ x, RunnerUnder a (M x) (f x) Q) : RunnerUnder a R (p >>= f) Q := by
  show Triple _ _ ((p.bind f).interp a.handle) _ _
  rw [Prog.interp_bind]
  exact Joint.bind hp hf

/-- A controller operation, with what an accepted one establishes. -/
theorem ctrl_under {R : Joint} {op : Op} {M : op.Ret → Joint}
    (hok : ∀ c c' k d r, R.holds c k d → Accepted op c r c' → (M r).holds c' k d) :
    RunnerUnder a R (LifecycleRunner.ctrl op) M := by
  refine Triple.bind (Q := fun reply : Except PyExc op.Ret =>
    (match reply with | .ok r => M r | .error _ => Joint.agreement).assertion)
    (Joint.triple_op fun s reply s' hs ha => ?_) fun reply => ?_
  · obtain ⟨c', hc, rfl⟩ := ha
    have hi := (R.agree hs).inv
    have hreply : op.Replies s.controller reply c' := hc
    cases reply with
    | ok r => exact hok _ _ _ _ r hs (hreply.accepted hi)
    | error e => exact (R.agree hs).failed hreply
  · cases reply with
    | ok r => exact Joint.ret fun _ _ _ h => h
    | error e => exact Joint.raise fun _ _ _ h => h

/-- Tainting keeps the agreement, and raises. -/
theorem raiseTaint_under {α : Type} {R : Joint} {reason : String} {Q : α → Joint} :
    RunnerUnder a R (LifecycleRunner.raiseTaint reason) Q := by
  refine RunnerUnder.bind (M := fun _ => Joint.agreement) (ctrl_under fun c c' k d e h ha => ?_)
    fun e => Joint.raise fun _ _ _ h => h
  cases ha with
  | taint hs => exact (R.agree h).taintedWith hs reason
  | taintAgain => exact R.agree h

/-- `runner.bootstrap`: an accepted `initialise` commits what the engine holds. -/
theorem runnerBootstrap_under :
    RunnerUnder a Joint.agreement LifecycleRunner.bootstrap (fun _ => Joint.agreement) := by
  refine RunnerUnder.bind (M := fun e : BootstrapEvidence => seeded e.weightIdentity) ?_
    fun evidence => ctrl_under fun c c' k d _ h ha => ?_
  · refine Triple.bind (Q := fun reply : Except PyExc BootstrapEvidence =>
      (match reply with | .ok e => seeded e.weightIdentity | .error _ => Joint.agreement).assertion)
      (fun tr s h => Safe.attempt (bootstrap_under tr s h)) fun reply => ?_
    cases reply with
    | ok e => exact Joint.ret fun _ _ _ h => h
    | error e =>
      show RunnerUnder a _ (if e.isCore = true then throw e else
        Prog.ofExcept e.repr >>= fun _ => LifecycleRunner.raiseTaint _) _
      split_ifs
      · exact Joint.raise fun _ _ _ h => h
      · cases e.repr with
        | ok shown => exact raiseTaint_under
        | error raised => exact Joint.raise fun _ _ _ h => h
  · obtain ⟨⟨hagree, -, hid⟩, hlabel⟩ := h
    have hi := inv_accepted hagree.inv ha
    cases ha with
    | initialise hs =>
      obtain ⟨hp, hclosed⟩ := hagree.fresh hs
      refine Agree.of_ready hi rfl hp ?_
      rintro t ⟨⟩
      exact ⟨hlabel, hid, hclosed⟩

theorem runCycle_under (t : UpdateTarget) :
    RunnerUnder a Joint.agreement (r.runCycle t) (fun _ => Joint.agreement) := by
  intro tr s h
  have hstart : (CyclePoint.start.joint t s.controller.currentTarget).assertion tr s := by
    refine ⟨.of_agree ⟨Agree.inv h, rfl, ?_, False.elim, ?_⟩ h rfl, trivial⟩
    · rintro s' ⟨⟩
    · rintro t' ⟨⟩
  refine ((annotated r a t s.controller.currentTarget).runCycle tr s hstart).mono ?_ ?_
  · exact fun res tr s h => h.1.agree
  · exact fun e tr s h => h.1.agree

theorem serve_under (q : CycleRequest) :
    RunnerUnder a Joint.agreement (r.serve q) (fun _ => Joint.agreement) := by
  cases q with
  | runCycle t => exact runCycle_under t
  | installNext i =>
    refine RunnerUnder.bind (M := fun _ => Joint.agreement) (ctrl_under fun c c' k d t h ha => ?_)
      fun t => runCycle_under t
    cases ha with
    | nextTarget => exact h

/-- **Every request keeps the agreement.** -/
theorem serveOver_under (q : RunnerRequest) :
    Joint.agreement.Under (r.serveOver a q) (fun _ => Joint.agreement) Joint.agreement := by
  cases q with
  | bootstrap => exact runnerBootstrap_under
  | cycle q => exact Joint.bind (serve_under q) fun _ => Joint.ret fun _ _ _ h => h

end Bootstrap

/-! ## Sessions -/

/-- An `initialise` that the controller accepted. -/
def FakeEvent.initialises : FakeEvent → Bool
  | .call (.runner (.ctrl (.initialise _))) (.ok _) _ _ => true
  | _ => false

/-- A bootstrap has succeeded, in an earlier request or in this one. -/
def Bootstrapped (past : List (RunnerRequest × List FakeEvent)) (tr : List FakeEvent) : Prop :=
  ∃ x ∈ past.flatMap (·.2) ++ tr, FakeEvent.initialises x = true

section Sessions

variable {c c' : LifecycleController} {s s' : FakeSystem} {tr : List FakeEvent}

/-- A step leaves the controller as it was, or is one operation on it. -/
theorem controller_of_answers {call : FakeCall} {reply : call.Reply}
    (ha : fakeWorld.answers call s reply s') :
    s'.controller = s.controller ∨ ∃ op : Op, s'.controller = op.after s.controller := by
  cases call with
  | runner call =>
    obtain ⟨c', hc, rfl⟩ := ha
    cases call with
    | ctrl op => exact .inr ⟨op, (Op.Replies.after hc).symm⟩
    | state | currentTarget => exact .inl hc.2
    | _ => exact .inl hc
  | engine call => obtain ⟨g', -, rfl⟩ := ha; exact .inl rfl
  | attributes => obtain ⟨-, rfl⟩ := ha; exact .inl rfl
  | setWeightIdentity i => obtain rfl : s' = _ := ha; exact .inl rfl
  | drainCompleted => obtain ⟨-, rfl⟩ := ha; exact .inl rfl
  | setDrainCompleted b => obtain rfl : s' = _ := ha; exact .inl rfl

theorem controller_of_env (he : fakeWorld.env s s') :
    s'.controller = s.controller ∨ ∃ op : Op, s'.controller = op.after s.controller := by
  rcases he with ⟨c', ⟨op, -, hop⟩, rfl⟩ | ⟨_, _, _, _, _, _, rfl⟩
  · exact .inr ⟨op, hop.symm⟩
  · exact .inl rfl

theorem inv_of_controller (hi : Inv s.controller)
    (h : s'.controller = s.controller ∨ ∃ op : Op, s'.controller = op.after s.controller) :
    Inv s'.controller := by
  rcases h with h | ⟨op, h⟩ <;> rw [h]
  · exact hi
  · exact inv_after hi op

theorem committed_of_controller (hi : Inv s.controller) (hcur : s.controller.currentTarget ≠ none)
    (h : s'.controller = s.controller ∨ ∃ op : Op, s'.controller = op.after s.controller) :
    s'.controller.currentTarget ≠ none := by
  rcases h with h | ⟨op, h⟩ <;> rw [h]
  · exact hcur
  · exact committed_after hi hcur op

theorem committed_of_initialises {call : FakeCall} {reply : call.Reply} (hi : Inv s.controller)
    (ha : fakeWorld.answers call s reply s')
    (h : FakeEvent.initialises (.call call reply s s') = true) :
    s'.controller.currentTarget ≠ none := by
  unfold FakeEvent.initialises at h
  split at h
  · next heq =>
    cases heq
    obtain ⟨c', hc, rfl⟩ := ha
    have hreply : (Op.initialise _).Replies s.controller (.ok _) c' := hc
    cases hreply.accepted hi with
    | initialise => simp
  · cases h

/-- The controller along a run: its invariant, and a committed target from `initialise` on. -/
theorem run_keeps {α : Type} {p q : FakeProg α} (h : Run fakeWorld p s tr q s')
    (hi : Inv s.controller) : Inv s'.controller ∧
      ((s.controller.currentTarget ≠ none ∨ ∃ x ∈ tr, FakeEvent.initialises x = true) →
        s'.controller.currentTarget ≠ none) := by
  induction h with
  | nil => exact ⟨hi, fun hc => hc.resolve_right (by simp)⟩
  | env _ he ih =>
    obtain ⟨hi, ih⟩ := ih
    refine ⟨inv_of_controller hi (controller_of_env he), fun hc => ?_⟩
    refine committed_of_controller hi (ih ?_) (controller_of_env he)
    rcases hc with hc | ⟨x, hx, hini⟩
    · exact .inl hc
    · rcases List.mem_append.mp hx with hx | hx
      · exact .inr ⟨x, hx, hini⟩
      · obtain rfl := List.mem_singleton.mp hx
        cases hini
  | call _ ha ih =>
    obtain ⟨hi, ih⟩ := ih
    refine ⟨inv_of_controller hi (controller_of_answers ha), fun hc => ?_⟩
    rcases hc with hc | ⟨x, hx, hini⟩
    · exact committed_of_controller hi (ih (.inl hc)) (controller_of_answers ha)
    · rcases List.mem_append.mp hx with hx | hx
      · exact committed_of_controller hi (ih (.inr ⟨x, hx, hini⟩)) (controller_of_answers ha)
      · obtain rfl := List.mem_singleton.mp hx
        exact committed_of_initialises hi ha hini

variable {r : LifecycleRunner} {a : FakeVLLMAdapter} {s₀ : FakeSystem}
  {past : List (RunnerRequest × List FakeEvent)}

/-- The system between two requests. -/
theorem session_keeps (h : Session fakeWorld (r.serveOver a) s₀ past s)
    (h₀ : Agree s₀.controller s₀.engine.core) : Agree s.controller s.engine.core ∧
      ((∃ x ∈ past.flatMap (·.2), FakeEvent.initialises x = true) →
        s.controller.currentTarget ≠ none) := by
  induction h with
  | nil => exact ⟨h₀, by simp⟩
  | env _ he ih =>
    obtain ⟨ha, ih⟩ := ih
    refine ⟨@Assertion.stable _ _ _ _ Joint.agreement.assertion [] _ _ ha he, fun hx => ?_⟩
    exact committed_of_controller ha.inv (ih hx) (controller_of_env he)
  | @request _ _ _ k tr _ _ hr _ ih =>
    obtain ⟨ha, ih⟩ := ih
    refine ⟨(serveOver_under k).always (s := _) ha hr, fun ⟨x, hx, hini⟩ => ?_⟩
    rw [List.flatMap_append, List.mem_append] at hx
    refine (run_keeps hr ha.inv).2 ?_
    rcases hx with hx | hx
    · exact .inl (ih ⟨x, hx, hini⟩)
    · exact .inr ⟨x, by simpa using hx, hini⟩

theorem pauseState_eq {g : FakeVLLMEngine} : g.pauseState = .unpaused ↔ g.core.paused = false := by
  simp [FakeVLLMEngine.core, FakeVLLMEngine.paused]

end Sessions

/-! ## Computed runs -/

/-- The reply of an endpoint and the engine it leaves. -/
def EngineCall.reply (call : EngineCall) (g : FakeVLLMEngine) :
    Except PyExc call.Ret × FakeVLLMEngine :=
  match call.run.run g with
  | .ok r g' => (.ok r, g')
  | .error e g' => (.error e, g')

theorem EngineCall.replies_reply (call : EngineCall) (g : FakeVLLMEngine) :
    call.Replies g (call.reply g).1 (call.reply g).2 := by
  unfold EngineCall.reply
  cases h : call.run.run g with
  | ok r g' => exact h
  | error e g' => exact h

/-- The reply of a step and the system it leaves. -/
def fakeAnswer : (call : FakeCall) → FakeSystem → call.Reply × FakeSystem
  | .runner call, s =>
    ((goodAnswer call s.controller).1, { s with controller := (goodAnswer call s.controller).2 })
  | .engine call, s => ((call.reply s.engine).1, { s with engine := (call.reply s.engine).2 })
  | .attributes, s => (s.engine, s)
  | .setWeightIdentity i, s => ((), { s with engine := { s.engine with weightIdentity := some i } })
  | .drainCompleted, s => (s.drainCompleted, s)
  | .setDrainCompleted b, s => ((), { s with drainCompleted := b })

theorem fakeAnswer_answers (call : FakeCall) (s : FakeSystem) :
    fakeWorld.answers call s (fakeAnswer call s).1 (fakeAnswer call s).2 := by
  cases call with
  | runner call => exact ⟨_, goodAnswer_answers call s.controller, rfl⟩
  | engine call => exact ⟨_, call.replies_reply s.engine, rfl⟩
  | attributes => exact ⟨rfl, rfl⟩
  | setWeightIdentity i => rfl
  | drainCompleted => exact ⟨rfl, rfl⟩
  | setDrainCompleted b => rfl

/-- A request served on a quiet day. -/
def fakePlay (q : RunnerRequest) (s : FakeSystem) :
    List FakeEvent × Except PyExc Unit × FakeSystem :=
  (LifecycleRunner.serveOver {} {} q).play fakeAnswer (fun _ _ => none) 0 s

theorem run_fakePlay (q : RunnerRequest) (s : FakeSystem) :
    Run fakeWorld (LifecycleRunner.serveOver {} {} q) s (fakePlay q s).1
      (.ofExcept (fakePlay q s).2.1) (fakePlay q s).2.2 :=
  Run.of_play fakeAnswer_answers (fun _ _ s' h => by cases h) _ 0 s

/-- A new controller over a freshly seeded engine. -/
def freshSystem : FakeSystem := ⟨.init, { weightIdentity := some identityA }, false⟩

/-- **Engine and controller agree.** Start from an unpaused engine with no open session and run
bootstraps and cycles to whatever point, with rollout owners, the operator and faults in between.
Once a bootstrap has succeeded a target `t₀` is committed, and
* READY means the engine is unpaused and serves exactly `t₀`, with no session open;
* every active binding names what the engine serves;
* the engine is paused from QUIESCED to VALIDATING;
* whenever the engine is not paused it serves exactly one target, which is `t₀` in READY and
  DRAINING, the pending one in RESUMING, and in TAINTED `t₀` or the one the taint interrupted. -/
theorem engine_agreement (r : LifecycleRunner) (a : FakeVLLMAdapter) (g : FakeVLLMEngine) (d : Bool)
    (hpaused : g.pauseState = .unpaused) (hclosed : g.updateSessionOpen = false)
    {past : List (RunnerRequest × List FakeEvent)} {s : FakeSystem}
    (h : Session fakeWorld (r.serveOver a) ⟨.init, g, d⟩ past s)
    {q : RunnerRequest} {tr : List FakeEvent} {p : FakeProg Unit} {s' : FakeSystem}
    (hr : Run fakeWorld (r.serveOver a q) s tr p s') (hboot : Bootstrapped past tr) :
    ∃ t₀, s'.controller.currentTarget = some t₀ ∧
      (s'.controller.state = .ready → s'.engine.pauseState = .unpaused ∧
        s'.engine.weightVersion = t₀.label ∧ s'.engine.weightIdentity = some t₀.identity ∧
        s'.engine.updateSessionOpen = false) ∧
      (∀ b ∈ s'.controller.activeRollouts, b.version.label = s'.engine.weightVersion ∧
        s'.engine.weightIdentity = some b.weightIdentity) ∧
      (Halted s'.controller.state → s'.engine.pauseState ≠ .unpaused) ∧
      (s'.engine.pauseState = .unpaused → ∃ t, s'.engine.weightVersion = t.label ∧
        s'.engine.weightIdentity = some t.identity ∧ s'.engine.updateSessionOpen = false ∧
        (t = t₀ ∧ (s'.controller.state = .ready ∨ s'.controller.state = .draining) ∨
          s'.controller.pendingTarget = some t ∧ s'.controller.state = .resuming ∨
          s'.controller.state = .tainted ∧ (t = t₀ ∨ s'.controller.lastRecorded = some t))) := by
  have h₀ : Agree LifecycleController.init g.core :=
    .of_uncommitted inv_init rfl fun _ => ⟨pauseState_eq.mp hpaused, hclosed⟩
  obtain ⟨ha, hpast⟩ := session_keeps h h₀
  have ha' : Agree s'.controller s'.engine.core := (serveOver_under q).always ha hr
  have hcur : s'.controller.currentTarget ≠ none := by
    obtain ⟨x, hx, hini⟩ := hboot
    refine (run_keeps hr ha.inv).2 ?_
    rcases List.mem_append.mp hx with hx | hx
    · exact .inl (hpast ⟨x, hx, hini⟩)
    · exact .inr ⟨x, hx, hini⟩
  obtain ⟨t₀, ht₀⟩ := Option.ne_none_iff_exists'.mp hcur
  refine ⟨t₀, ht₀, fun hs => ?_, fun b hb => ?_, fun hh => ?_, fun hp => ?_⟩
  · have hk := ha'.serving (.inl hs) t₀ ht₀
    exact ⟨pauseState_eq.mpr (ha'.ready hs), hk.label, hk.identity, hk.closed⟩
  · have hk := ha'.bound (b := b) hb
    exact ⟨hk.label.symm, hk.identity⟩
  · rw [Ne, pauseState_eq, ha'.halted hh]
    decide
  · rw [pauseState_eq] at hp
    by_cases hs : s'.controller.state = .tainted
    · obtain ⟨t, ht, hwhich⟩ := ha'.tainted hs hcur hp
      refine ⟨t, ht.label, ht.identity, ht.closed, .inr (.inr ⟨hs, hwhich.imp_left fun h => ?_⟩)⟩
      exact Option.some.inj (h.symm.trans ht₀)
    · obtain ⟨t, ht, hwhich⟩ := ha'.holds hp hs hcur
      refine ⟨t, ht.label, ht.identity, ht.closed, ?_⟩
      rcases hwhich with ⟨h, hserve⟩ | hres
      · exact .inl ⟨Option.some.inj (h.symm.trans ht₀), hserve⟩
      · exact .inr (.inl hres)

/-- A bootstrap and a cycle: the engine serves the second generation. -/
theorem engine_agreement_second_generation : ∃ s tr p s',
    Session fakeWorld (LifecycleRunner.serveOver {} {}) freshSystem
      [(.bootstrap, (fakePlay .bootstrap freshSystem).1)] s ∧
    Run fakeWorld (LifecycleRunner.serveOver {} {} (.cycle (.runCycle ⟨⟨1⟩, identityB⟩)))
      s tr p s' ∧
    s'.controller.state = .ready ∧ s'.engine.weightVersion = "rc-1" ∧
      s'.engine.weightIdentity = some identityB := by
  have hsession : Session fakeWorld (LifecycleRunner.serveOver {} {}) freshSystem
      [(.bootstrap, (fakePlay .bootstrap freshSystem).1)] (fakePlay .bootstrap freshSystem).2.2 :=
    Session.nil.request (run_fakePlay _ _) (Prog.ended_ofExcept _)
  have hrun := run_fakePlay (.cycle (.runCycle ⟨⟨1⟩, identityB⟩))
    (fakePlay .bootstrap freshSystem).2.2
  have hini : (fakePlay .bootstrap freshSystem).1.any FakeEvent.initialises = true := by
    decide +kernel
  obtain ⟨x, hx, hxi⟩ := List.any_eq_true.mp hini
  obtain ⟨t₀, ht₀, hready, -⟩ := engine_agreement {} {} _ _ rfl rfl hsession hrun
    ⟨x, List.mem_append_left _ (List.mem_flatMap.mpr ⟨_, List.mem_singleton_self _, hx⟩), hxi⟩
  have hstate : (fakePlay (.cycle (.runCycle ⟨⟨1⟩, identityB⟩))
      (fakePlay .bootstrap freshSystem).2.2).2.2.controller.state = .ready ∧
      (fakePlay (.cycle (.runCycle ⟨⟨1⟩, identityB⟩))
      (fakePlay .bootstrap freshSystem).2.2).2.2.controller.currentTarget =
        some ⟨⟨1⟩, identityB⟩ := by
    decide +kernel
  obtain rfl := Option.some.inj (ht₀.symm.trans hstate.2)
  obtain ⟨-, hlabel, hid, -⟩ := hready hstate.1
  exact ⟨_, _, _, _, hsession, hrun, hstate.1, hlabel.trans (by decide), hid⟩

end RolloutCore
