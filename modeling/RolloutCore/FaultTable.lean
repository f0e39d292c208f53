import RolloutCore.FaultedMethods

/-!
# The fault table

A cycle over the reference engine that nobody disturbs, under an arbitrary fault table: it ends at
the first step that the faults break, and commits if there is none.
-/

namespace RolloutCore

open LifecycleController CallOutcome

/-! ## The table -/

/-- The steps at which a cycle may break, in their order. -/
inductive CycleBreak
  | drain | disagree | refuse | start | transfer | finish | invalidate | validate | resume
  deriving DecidableEq

def CycleBreak.all : List CycleBreak :=
  [.drain, .disagree, .refuse, .start, .transfer, .finish, .invalidate, .validate, .resume]

/-- A cycle to `t` that starts from the system `start`. -/
structure CycleStart where
  runner : LifecycleRunner
  adapter : FakeVLLMAdapter
  start : FakeSystem
  current : UpdateTarget
  target : UpdateTarget

namespace CycleStart

variable (x : CycleStart)

def faulted (name : String) : Bool := x.start.engine.setup.faulted name

/-- The cycle breaks at this step if it comes to it. -/
def breaksAt : CycleBreak → Bool
  | .drain => decide (x.runner.drainPolls < 1) || !x.start.engine.setup.drains
  | .disagree => !x.start.controller.active.entries.isEmpty ||
      decide (x.start.engine.activeRequests ≠ 0)
  | .refuse => decide (¬ x.current.version < x.target.version)
  | .start => x.faulted "start_weight_update" || x.start.engine.updateSessionOpen
  | .transfer => decide (0 < x.adapter.chunks) && x.faulted "update_weights"
  | .finish => x.faulted "finish_weight_update"
  | .invalidate => x.start.engine.setup.keepsCaches
  | .validate => x.start.engine.setup.hidesState
  | .resume => x.faulted "resume"

def firstBreak : Option CycleBreak := CycleBreak.all.find? x.breaksAt

/-- The state in which the controller is left. -/
def stateAt : CycleBreak → LifecycleState
  | .drain => .draining
  | .refuse => .quiesced
  | .validate => .validating
  | _ => .tainted

def pendingAt : CycleBreak → Option UpdateTarget
  | .drain | .refuse => x.start.controller.pendingTarget
  | .validate => some x.target
  | _ => none

/-- The core of the engine between pause and session, in the session, and after it. -/
def pausedCore : EngineCore := { x.start.engine.core with paused := true }

def openCore : EngineCore := { x.start.engine.core with paused := true, sessionOpen := true }

def newCore : EngineCore := ⟨x.target.label, some x.target.identity, true, false⟩

/-- What the engine is left with. A pause that is faulted does not pause; a transfer that breaks
leaves the session open, and a finish that breaks leaves the new weights under the old label. -/
def coreAt : CycleBreak → EngineCore
  | .drain => { x.start.engine.core with
      paused := x.start.engine.core.paused || !x.faulted "pause" }
  | .disagree | .refuse | .start => x.pausedCore
  | .transfer => x.openCore
  | .finish => ⟨x.start.engine.core.label, some x.target.identity, true, true⟩
  | _ => x.newCore

/-- What is raised. -/
def RaisesAt : CycleBreak → PyExc → Prop
  | .drain, e => e = .core x.runner.drainExhausted
  | .refuse, e => ∃ detail, e = .core (.invariantViolation "I1-MONOTONIC" detail)
  | .validate, e => ∃ name ∈ ["get_weight_info", "is_paused"], ∃ message,
      x.start.engine.faults.get? name = some message ∧ e = .fakeEngine message
  | _, e => e.isTaint = true

/-- The cycle has broken off at `b`. -/
structure Broken (b : CycleBreak) (e : PyExc) (s : FakeSystem) : Prop where
  raises : x.RaisesAt b e
  state : s.controller.state = stateAt b
  current : s.controller.currentTarget = some x.current
  pending : s.controller.pendingTarget = x.pendingAt b
  core : s.engine.core = x.coreAt b

/-- The cycle has committed its target. -/
structure Committed (res : CycleResult) (s : FakeSystem) : Prop where
  committed : res.committed = x.target
  state : s.controller.state = .ready
  current : s.controller.currentTarget = some x.target
  pending : s.controller.pendingTarget = none
  core : s.engine.core = ⟨x.target.label, some x.target.identity, false, false⟩
  caches : s.engine.caches = ⟨false, false, false⟩

/-- Nothing breaks the cycle before `b`. -/
def Reaches (b : CycleBreak) : Prop :=
  ∀ b' ∈ CycleBreak.all.takeWhile (· ≠ b), x.breaksAt b' = false

/-- How the cycle may end. -/
def Returned (res : CycleResult) (s : FakeSystem) : Prop := x.firstBreak = none ∧ x.Committed res s

def Raised (e : PyExc) (s : FakeSystem) : Prop := ∃ b, x.firstBreak = some b ∧ x.Broken b e s

end CycleStart

/-! ## The runner -/

section Runner

variable {s₀ : FakeSystem} {x y : Spot} {r : LifecycleRunner} {a : FakeVLLMAdapter} {α β : Type}

/-- A program of the runner over the reference engine. -/
abbrev RunnerLeads (s₀ : FakeSystem) (a : FakeVLLMAdapter) (x : Spot) (p : RunnerProg α)
    (Q : α → FakeSystem → Prop) (E : PyExc → FakeSystem → Prop) : Prop :=
  Leads s₀ x (p.interp a.handle) Q E

abbrev RunnerGoes (s₀ : FakeSystem) (a : FakeVLLMAdapter) (x : Spot) (p : RunnerProg α) (y : Spot)
    (P : α → Prop) : Prop :=
  Goes s₀ x (p.interp a.handle) y P

abbrev RunnerStops (s₀ : FakeSystem) (a : FakeVLLMAdapter) (x : Spot) (p : RunnerProg α)
    (E : PyExc → FakeSystem → Prop) : Prop :=
  Stops s₀ x (p.interp a.handle) E

section Rules

variable {p : RunnerProg α} {f : α → RunnerProg β} {P : α → Prop} {Q : β → FakeSystem → Prop}
  {E : PyExc → FakeSystem → Prop}

theorem RunnerGoes.andThen (hp : RunnerGoes s₀ a x p y P)
    (hf : ∀ b, P b → RunnerLeads s₀ a y (f b) Q E) : RunnerLeads s₀ a x (p >>= f) Q E := by
  show Leads s₀ x ((p.bind f).interp a.handle) Q E
  rw [Prog.interp_bind]
  exact Goes.andThen hp hf

theorem RunnerStops.early (hp : RunnerStops s₀ a x p E) : RunnerLeads s₀ a x (p >>= f) Q E := by
  show Leads s₀ x ((p.bind f).interp a.handle) Q E
  rw [Prog.interp_bind]
  exact Stops.early hp

theorem RunnerLeads.bind {M : α → FakeSystem → Prop} (hp : RunnerLeads s₀ a x p M E)
    (hf : ∀ b s, M b s → ((f b).interp a.handle).Settles fakeAnswers Q E s) :
    RunnerLeads s₀ a x (p >>= f) Q E := by
  show Leads s₀ x ((p.bind f).interp a.handle) Q E
  rw [Prog.interp_bind]
  exact fun s hs => (hp s hs).bind hf

/-- A view of the controller or the clock. -/
theorem goes_view {call : RunnerCall} {P : call.Reply → Prop} (hcall : ∀ m, call ≠ .adapter m)
    (h : ∀ c reply c', x.Controls s₀ c → runnerAnswers call c reply c' → c' = c ∧ P reply) :
    RunnerGoes s₀ a x (Prog.op call) x P := by
  have hop : a.handle call = Prog.op (FakeCall.runner call) := by
    cases call with
    | adapter m => exact absurd rfl (hcall m)
    | _ => rfl
  show Leads s₀ x ((a.handle call).bind Prog.pure) _ _
  rw [hop]
  rintro s hs reply s' ⟨c', hc, rfl⟩
  obtain ⟨rfl, hP⟩ := h _ _ _ hs.controller hc
  exact ⟨hs, hP⟩

end Rules

theorem state_goes : RunnerGoes s₀ a x LifecycleRunner.state x fun _ => True :=
  goes_view (by simp) fun _ _ _ _ h => ⟨h.2, trivial⟩

theorem currentTarget_goes : RunnerGoes s₀ a x LifecycleRunner.currentTarget x (· = x.current) :=
  goes_view (by simp) fun _ _ _ hc h => ⟨h.2, h.1.trans hc.current⟩

theorem monotonic_goes : RunnerGoes s₀ a x LifecycleRunner.monotonic x fun _ => True :=
  goes_view (by simp) fun _ _ _ _ h => ⟨h, trivial⟩

theorem sleep_goes (seconds : ℚ) :
    RunnerGoes s₀ a x (LifecycleRunner.sleep seconds) x fun _ => True :=
  goes_view (by simp) fun _ _ _ _ h => ⟨h, trivial⟩

/-! ### Controller operations -/

/-- An operation that succeeds, as a value. -/
theorem goes_tryCtrl {op : Op} (hcore : y.core = x.core) (hcaches : y.caches = x.caches)
    (hdrained : y.drained = x.drained)
    (h : ∀ c, x.Controls s₀ c → ∃ b c', op.call.run c = .ok b c' ∧ y.Controls s₀ c') :
    RunnerGoes s₀ a x (LifecycleRunner.tryCtrl op) y fun reply => ∃ b, reply = .ok b := by
  rintro s hs reply s' ⟨c', hr, rfl⟩
  obtain ⟨b, c'', hrun, hy⟩ := h _ hs.controller
  have hreply : op.Replies s.controller reply c' := hr
  cases reply with
  | error e => cases hrun.symm.trans hreply
  | ok b' =>
    cases hrun.symm.trans hreply
    obtain ⟨h₁, h₂, h₃⟩ := hs.engine
    exact ⟨⟨hy, ⟨h₁, h₂.trans hcore.symm, h₃.trans hcaches.symm⟩, hs.drained.trans hdrained.symm⟩,
      b, rfl⟩

/-- The same, where its exceptions would propagate. -/
theorem goes_ctrl {op : Op} (hcore : y.core = x.core) (hcaches : y.caches = x.caches)
    (hdrained : y.drained = x.drained)
    (h : ∀ c, x.Controls s₀ c → ∃ b c', op.call.run c = .ok b c' ∧ y.Controls s₀ c') :
    RunnerGoes s₀ a x (LifecycleRunner.ctrl op) y fun _ => True := by
  refine (goes_tryCtrl hcore hcaches hdrained h).andThen ?_
  rintro _ ⟨b, rfl⟩
  exact goes_pure trivial

/-- An operation that is refused, as a value. -/
theorem refused_tryCtrl {op : Op} {P : PyExc → Prop}
    (h : ∀ c, x.Controls s₀ c → ∃ e, op.call.run c = .error e c ∧ P e) :
    RunnerGoes s₀ a x (LifecycleRunner.tryCtrl op) x fun reply => ∃ e, reply = .error e ∧ P e := by
  rintro s hs reply s' ⟨c', hr, rfl⟩
  obtain ⟨e, hrun, he⟩ := h _ hs.controller
  have hreply : op.Replies s.controller reply c' := hr
  cases reply with
  | ok b => cases hrun.symm.trans hreply
  | error e' =>
    cases hrun.symm.trans hreply
    exact ⟨hs, e, rfl, he⟩

theorem refused_ctrl {op : Op} {P : PyExc → Prop}
    (h : ∀ c, x.Controls s₀ c → ∃ e, op.call.run c = .error e c ∧ P e) :
    RunnerStops s₀ a x (LifecycleRunner.ctrl op) fun e s => x.Holds s₀ s ∧ P e := by
  refine (refused_tryCtrl h).andThen ?_
  rintro _ ⟨e, rfl, he⟩
  exact stops_throw fun s hs => ⟨hs, he⟩

/-- The controller has been tainted at `x`. -/
structure Wrecked (x : Spot) (e : PyExc) (s : FakeSystem) : Prop where
  raises : e.isTaint = true
  state : s.controller.state = .tainted
  current : s.controller.currentTarget = x.current
  pending : s.controller.pendingTarget = none
  core : s.engine.core = x.core

/-- An operation that taints, as a value. -/
theorem wrecks_tryCtrl {op : Op} (h : ∀ c, x.Controls s₀ c → EndsInTaint op.call c) :
    RunnerLeads s₀ a x (LifecycleRunner.tryCtrl op)
      (fun reply s => ∃ e, reply = .error e ∧ Wrecked x e s) fun _ _ => False := by
  rintro s hs reply s' ⟨c', hr, rfl⟩
  obtain ⟨e, reason, hrun, he⟩ := h _ hs.controller
  have hreply : op.Replies s.controller reply c' := hr
  cases reply with
  | ok b => cases hrun.symm.trans hreply
  | error e' =>
    cases hrun.symm.trans hreply
    exact ⟨e, rfl, he, rfl, hs.controller.current, rfl, hs.engine.core⟩

theorem wrecks_ctrl {op : Op} (h : ∀ c, x.Controls s₀ c → EndsInTaint op.call c) :
    RunnerStops s₀ a x (LifecycleRunner.ctrl op) (Wrecked x) := by
  refine RunnerLeads.bind (fun s hs => (wrecks_tryCtrl h s hs).mono (fun _ _ h => h)
    fun _ _ h => h.elim) ?_
  rintro _ s ⟨e, rfl, he⟩
  exact he

/-! ### Adapter methods -/

theorem leads_tryAdapter {m : AdapterCall} {Q : m.Ret → FakeSystem → Prop}
    {E : PyExc → FakeSystem → Prop} (h : Leads s₀ x (a.method m) Q E) :
    RunnerLeads s₀ a x (LifecycleRunner.tryAdapter m)
      (fun reply s => Except.casesOn reply (fun e => E e s) fun b => Q b s) fun _ _ => False :=
  fun s hs => Prog.Settles.bind (Prog.Settles.attempt (h s hs)) fun _ _ hb => hb

theorem observe_leads {m : AdapterCall} {Q : m.Ret → FakeSystem → Prop}
    {E : PyExc → FakeSystem → Prop} (h : Leads s₀ x (a.method m) Q E) :
    RunnerLeads s₀ a x (LifecycleRunner.observe m) Q E := by
  refine RunnerLeads.bind (fun s hs => (leads_tryAdapter h s hs).mono (fun _ _ h => h)
    fun _ _ h => h.elim) fun reply s hreply => ?_
  cases reply with
  | ok b => exact hreply
  | error e => exact hreply

/-- Tainting raises the error of the taint. -/
theorem raiseTaint_wrecks (hx : x.state ≠ .tainted) (reason : String) :
    RunnerStops s₀ a x (LifecycleRunner.raiseTaint reason : RunnerProg α) (Wrecked x) := by
  have htry : RunnerLeads s₀ a x (LifecycleRunner.tryCtrl (.taint reason))
      (fun reply s => ∃ e : RolloutCoreError, reply = .ok e ∧ Wrecked x (.core e) s)
      fun _ _ => False := by
    rintro s hs reply s' ⟨c', hr, rfl⟩
    have hrun := taintWith_apply (ne_tainted hs.controller.state hx) reason none
    have hreply : (Op.taint reason).Replies s.controller reply c' := hr
    cases reply with
    | error e => cases hrun.symm.trans hreply
    | ok e =>
      cases hrun.symm.trans hreply
      exact ⟨_, rfl, rfl, rfl, hs.controller.current, rfl, hs.engine.core⟩
  have hctrl : RunnerLeads s₀ a x (LifecycleRunner.ctrl (.taint reason))
      (fun (e : RolloutCoreError) s => Wrecked x (.core e) s) fun _ _ => False := by
    refine htry.bind ?_
    rintro _ s ⟨e, rfl, he⟩
    exact he
  exact RunnerLeads.bind (fun s hs => (hctrl s hs).mono (fun _ _ h => h) fun _ _ h => h.elim)
    fun e s he => he

/-- **A mutating call**: an exception of the engine taints. -/
theorem effect_leads {m : AdapterCall} {Q : m.Ret → FakeSystem → Prop} (what : String)
    (hx : x.state ≠ .tainted) (h : Leads s₀ x (a.method m) Q (EngineRaises s₀ x)) :
    RunnerLeads s₀ a x (LifecycleRunner.effect what m) Q (Wrecked x) := by
  refine RunnerLeads.bind (fun s hs => (leads_tryAdapter h s hs).mono (fun _ _ h => h)
    fun _ _ h => h.elim) fun reply s hreply => ?_
  cases reply with
  | ok b => exact hreply
  | error e =>
    obtain ⟨⟨f, hf⟩, message, rfl⟩ := hreply
    dsimp only
    rw [if_neg (by simp [PyExc.isCore])]
    exact (raiseTaint_wrecks (x := x.withCaches f) hx _ s hf).mono (fun _ _ h => h.elim)
      fun _ _ h => ⟨h.raises, h.state, h.current, h.pending, h.core⟩

theorem effect_goes {m : AdapterCall} {P : m.Ret → Prop} (what : String)
    (h : Goes s₀ x (a.method m) y P) : RunnerGoes s₀ a x (LifecycleRunner.effect what m) y P := by
  refine RunnerLeads.bind (leads_tryAdapter h) fun reply s hreply => ?_
  cases reply with
  | ok b => exact hreply
  | error e => exact hreply.elim

/-! ### The drain -/

/-- **A drain that the engine does not finish** polls until it runs out of polls. -/
theorem pollDrain_exhausts (hx : (x.withDrained false).paused s₀ = x) (hs : x.state = .draining)
    (hd : s₀.engine.setup.drains = false) (deadline : ℚ) (left : ℕ) :
    RunnerStops s₀ a x (r.pollDrain deadline left) fun e s =>
      x.Holds s₀ s ∧ e = .core r.drainExhausted := by
  induction left with
  | zero => exact stops_throw fun s hs => ⟨hs, rfl⟩
  | succ left ih =>
    unfold LifecycleRunner.pollDrain
    refine RunnerGoes.andThen (observe_leads (awaitDrain_goes hx)) fun e he => ?_
    refine RunnerGoes.andThen (refused_tryCtrl
      (P := fun e => ∃ detail, e = .core (.evidenceNotReady "I5-DRAIN" detail)) fun c hc => ?_) ?_
    · obtain ⟨detail, hrun⟩ := confirmDrained_waits (hc.state.trans hs) (he.1.trans hd)
      exact ⟨_, hrun, detail, rfl⟩
    rintro _ ⟨_, rfl, detail, rfl⟩
    dsimp only
    split_ifs
    · refine RunnerGoes.andThen monotonic_goes fun now _ => ?_
      split_ifs
      · exact RunnerGoes.andThen (sleep_goes _) fun _ _ => ih
      · exact ih
    · exact ih

/-- A drain that the engine has finished ends at the first poll: on a disagreement with a taint. -/
theorem pollDrain_disagrees (hx : (x.withDrained false).paused s₀ = x) (hs : x.state = .draining)
    (hd : s₀.engine.setup.drains = true)
    (h : s₀.controller.active.entries ≠ [] ∨ s₀.engine.activeRequests ≠ 0) (deadline : ℚ)
    (left : ℕ) : RunnerStops s₀ a x (r.pollDrain deadline (left + 1)) (Wrecked x) := by
  unfold LifecycleRunner.pollDrain
  refine RunnerGoes.andThen (observe_leads (awaitDrain_goes hx)) fun e he => ?_
  have htaints : ∀ c, x.Controls s₀ c → EndsInTaint (Op.confirmDrained e).call c := by
    intro c hc
    refine confirmDrained_taints (hc.state.trans hs) (he.1.trans hd) (h.imp (hc.active ▸ ·) ?_)
    intro hactive hnone
    have hzero := (DrainEvidence.failureReason_eq_none.mp hnone).2
    rw [he.2] at hzero
    simp [hactive] at hzero
  refine RunnerLeads.bind (fun s hs => (wrecks_tryCtrl htaints s hs).mono
    (fun _ _ h => h) fun _ _ h => h.elim) ?_
  rintro _ s ⟨e, rfl, he⟩
  have hraises := he.raises
  cases e with
  | core e => cases e <;> first | exact he | cases hraises
  | _ => cases hraises

theorem pollDrain_goes (hx : (x.withDrained false).paused s₀ = x) (hs : x.state = .draining)
    (hd : s₀.engine.setup.drains = true) (ha : s₀.controller.active.entries = [])
    (hidle : s₀.engine.activeRequests = 0) (deadline : ℚ) (left : ℕ) :
    RunnerGoes s₀ a x (r.pollDrain deadline (left + 1)) (x.moved .quiesced x.pending)
      fun _ => True := by
  unfold LifecycleRunner.pollDrain
  refine RunnerGoes.andThen (observe_leads (awaitDrain_goes hx)) fun e he => ?_
  refine RunnerGoes.andThen (goes_tryCtrl (y := x.moved .quiesced x.pending) rfl rfl rfl
    fun c hc => ?_) ?_
  · have hfail : e.failureReason = none := DrainEvidence.failureReason_eq_none.mpr
      ⟨he.1.trans hd, .inr (he.2.trans (congrArg some hidle))⟩
    exact ⟨_, _, confirmDrained_apply (hc.state.trans hs) (by rw [hc.active, ha]) (he.1.trans hd)
      hfail, ⟨rfl, hc.current, hc.pending, hc.active⟩⟩
  rintro _ ⟨_, rfl⟩
  exact goes_pure trivial

end Runner

/-! ## The cycle -/

section Cycle

variable {q : CycleStart} {b : CycleBreak} {e : PyExc} {s : FakeSystem} {x : Spot}

namespace CycleStart

/-- Before the cycle. -/
def spot (q : CycleStart) : Spot :=
  ⟨.ready, some q.current, q.start.controller.pendingTarget, q.start.engine.core,
    q.start.engine.caches, q.start.drainCompleted⟩

/-- After the pause. -/
def spotAt (q : CycleStart) (state : LifecycleState) (pending : Option UpdateTarget)
    (core : EngineCore) (caches : CacheFlags) : Spot :=
  ⟨state, some q.current, pending, core, caches, true⟩

/-- After the cycle. -/
def served (q : CycleStart) : Spot :=
  ⟨.ready, some q.target, none, { q.newCore with paused := false }, ⟨false, false, false⟩, true⟩

theorem drains_of_spared (h : q.breaksAt .drain = false) : 1 ≤ q.runner.drainPolls ∧
    q.start.engine.setup.drains = true := by
  obtain ⟨hpolls, hdrains⟩ := Bool.or_eq_false_iff.mp h
  exact ⟨not_lt.mp (of_decide_eq_false hpolls), by simpa using hdrains⟩

theorem paused_of_spared (h : q.breaksAt .drain = false) :
    ((q.spot.moved .draining q.start.controller.pendingTarget).withDrained false).paused q.start =
      q.spotAt .draining q.start.controller.pendingTarget q.pausedCore
        q.start.engine.caches := by
  obtain ⟨-, hdrains⟩ := drains_of_spared h
  have hpause : q.start.engine.setup.faulted "pause" = false := by
    simpa using (Bool.and_eq_true_iff.mp hdrains).1
  simp [Spot.paused, Spot.withDrained, Spot.moved, spot, spotAt, pausedCore, hpause, hdrains]

end CycleStart

open CycleStart

theorem CycleStart.Reaches.first (h : q.Reaches b) (hb : q.breaksAt b = true) :
    q.firstBreak = some b := by
  have hall : CycleBreak.all = CycleBreak.all.takeWhile (· ≠ b) ++
      b :: (CycleBreak.all.dropWhile (· ≠ b)).tail := by
    cases b <;> rfl
  refine List.find?_eq_some_iff_append.mpr ⟨hb, _, _, hall, fun b' hb' => ?_⟩
  rw [h b' hb']
  rfl

theorem CycleStart.Reaches.next {b' : CycleBreak} (h : q.Reaches b) (hb : q.breaksAt b = false)
    (hnext : CycleBreak.all.takeWhile (· ≠ b') = CycleBreak.all.takeWhile (· ≠ b) ++ [b]) :
    q.Reaches b' := by
  intro b'' hb''
  rw [hnext, List.mem_append, List.mem_singleton] at hb''
  rcases hb'' with hb'' | rfl
  · exact h b'' hb''
  · exact hb

/-- Nothing breaks the cycle. -/
theorem CycleStart.Reaches.none (h : q.Reaches .resume) (hb : q.breaksAt .resume = false) :
    q.firstBreak = none := by
  refine List.find?_eq_none.mpr fun b' hb' => ?_
  have hspared : q.breaksAt b' = false := by
    cases b' with
    | resume => exact hb
    | _ => exact h _ (by decide)
  simp [hspared]

/-- A taint at `x` breaks the cycle at `b`. -/
theorem Wrecked.raised (h : Wrecked x e s) (hb : q.firstBreak = some b)
    (hraises : q.RaisesAt b e ↔ e.isTaint = true) (hstate : stateAt b = .tainted)
    (hpending : q.pendingAt b = none) (hcurrent : x.current = some q.current)
    (hcore : x.core = q.coreAt b) : q.Raised e s :=
  ⟨b, hb, hraises.mpr h.raises, h.state.trans hstate.symm, h.current.trans hcurrent,
    h.pending.trans hpending.symm, h.core.trans hcore⟩

theorem drain_breaks (h : q.breaksAt .drain = true)
    (hx : (x.withDrained false).paused q.start = x) (hs : x.state = .draining) :
    RunnerStops q.start q.adapter x q.runner.drainUntilQuiesced fun e s =>
      x.Holds q.start s ∧ e = .core q.runner.drainExhausted := by
  unfold LifecycleRunner.drainUntilQuiesced
  refine RunnerGoes.andThen monotonic_goes fun start _ => ?_
  rcases Bool.or_eq_true_iff.mp h with hpolls | hdrains
  · rw [Int.toNat_of_nonpos (by have := of_decide_eq_true hpolls; omega)]
    exact stops_throw fun s hs => ⟨hs, rfl⟩
  · exact pollDrain_exhausts hx hs (by simpa using hdrains) _ _

theorem drain_disagrees (h₁ : q.breaksAt .drain = false) (h₂ : q.breaksAt .disagree = true)
    (hx : (x.withDrained false).paused q.start = x) (hs : x.state = .draining) :
    RunnerStops q.start q.adapter x q.runner.drainUntilQuiesced (Wrecked x) := by
  obtain ⟨hpolls, hdrains⟩ := drains_of_spared h₁
  have hbusy : q.start.controller.active.entries ≠ [] ∨ q.start.engine.activeRequests ≠ 0 := by
    simpa [breaksAt] using h₂
  obtain ⟨left, hleft⟩ : ∃ left, q.runner.drainPolls.toNat = left + 1 :=
    ⟨q.runner.drainPolls.toNat - 1, by omega⟩
  unfold LifecycleRunner.drainUntilQuiesced
  refine RunnerGoes.andThen monotonic_goes fun start _ => ?_
  rw [hleft]
  exact pollDrain_disagrees hx hs hdrains hbusy _ left

theorem drain_goes (h₁ : q.breaksAt .drain = false) (h₂ : q.breaksAt .disagree = false)
    (hx : (x.withDrained false).paused q.start = x) (hs : x.state = .draining) :
    RunnerGoes q.start q.adapter x q.runner.drainUntilQuiesced (x.moved .quiesced x.pending)
      fun _ => True := by
  obtain ⟨hpolls, hdrains⟩ := drains_of_spared h₁
  obtain ⟨ha, hidle⟩ : q.start.controller.active.entries = [] ∧
      q.start.engine.activeRequests = 0 := by
    simpa [breaksAt] using h₂
  obtain ⟨left, hleft⟩ : ∃ left, q.runner.drainPolls.toNat = left + 1 :=
    ⟨q.runner.drainPolls.toNat - 1, by omega⟩
  unfold LifecycleRunner.drainUntilQuiesced
  refine RunnerGoes.andThen monotonic_goes fun start _ => ?_
  rw [hleft]
  exact pollDrain_goes hx hs hdrains ha hidle _ left

/-- A session that is open already breaks the start like a fault. -/
theorem start_breaks (h : q.breaksAt .start = true) (hx : x.state ≠ .tainted)
    (ho : x.core.sessionOpen = q.start.engine.updateSessionOpen) :
    RunnerStops q.start q.adapter x
      (LifecycleRunner.effect "start_weight_update" (.startWeightUpdate q.target))
      (Wrecked x) := by
  refine effect_leads _ hx ?_
  cases hm : q.start.engine.setup.faulted "start_weight_update" with
  | true => exact faulted_raises .startWeightUpdate hm x.caches
  | false =>
    have hopen : q.start.engine.updateSessionOpen = true := by simpa [breaksAt, faulted, hm] using h
    intro s hs
    exact (refused_start hm (ho.trans hopen) s hs).mono (fun _ _ h => h)
      fun _ _ h => ⟨⟨x.caches, h.1⟩, h.2⟩

/-! ### One lemma a step -/

section Steps

variable {α : Type} {Q : α → FakeSystem → Prop} {caches : CacheFlags}

/-- **The drain.** -/
theorem drain_step {f : ℕ → RunnerProg α} (hr : q.Reaches .drain)
    (hf : q.Reaches .refuse → ∀ polls, RunnerLeads q.start q.adapter
      (q.spotAt .quiesced q.start.controller.pendingTarget q.pausedCore q.start.engine.caches)
      (f polls) Q q.Raised) :
    RunnerLeads q.start q.adapter (((q.spot.moved .draining
      q.start.controller.pendingTarget).withDrained false).paused q.start)
      (q.runner.drainUntilQuiesced >>= f) Q q.Raised := by
  cases h₁ : q.breaksAt .drain with
  | true =>
    refine RunnerStops.early fun s hs => (drain_breaks h₁ ?_ ?_ s hs).mono (fun _ _ h => h) ?_
    · simp [Spot.paused, Spot.withDrained]
    · rfl
    · rintro e s ⟨hx, rfl⟩
      exact ⟨.drain, hr.first h₁, rfl, hx.controller.state, hx.controller.current,
        hx.controller.pending, hx.engine.core⟩
  | false =>
    have hpaused : ((q.spotAt .draining q.start.controller.pendingTarget q.pausedCore
        q.start.engine.caches).withDrained false).paused q.start =
          q.spotAt .draining q.start.controller.pendingTarget q.pausedCore
            q.start.engine.caches := by
      rw [← paused_of_spared h₁]
      simp [Spot.paused, Spot.withDrained]
    rw [paused_of_spared h₁]
    have hr₂ : q.Reaches .disagree := hr.next h₁ rfl
    cases h₂ : q.breaksAt .disagree with
    | true =>
      refine RunnerStops.early fun s hs => (drain_disagrees h₁ h₂ hpaused rfl s hs).mono
        (fun _ _ h => h) fun e s he => ?_
      exact he.raised (hr₂.first h₂) Iff.rfl rfl rfl rfl rfl
    | false =>
      exact RunnerGoes.andThen (drain_goes h₁ h₂ hpaused rfl) fun polls _ =>
        hf (hr₂.next h₂ rfl) polls

theorem beginUpdate_step {f : CyclePlan → RunnerProg α} (hr : q.Reaches .refuse)
    (hf : q.Reaches .start → ∀ plan, RunnerLeads q.start q.adapter
      (q.spotAt .updating (some q.target) q.pausedCore caches) (f plan) Q q.Raised) :
    RunnerLeads q.start q.adapter
      (q.spotAt .quiesced q.start.controller.pendingTarget q.pausedCore caches)
      (LifecycleRunner.ctrl (.beginUpdate q.target) >>= f) Q q.Raised := by
  cases h : q.breaksAt .refuse with
  | true =>
    have hlt : ¬ q.current.version < q.target.version := of_decide_eq_true h
    refine RunnerStops.early fun s hs => (refused_ctrl (P := fun e => ∃ detail,
      e = .core (.invariantViolation "I1-MONOTONIC" detail)) (fun c hc => ?_) s hs).mono
      (fun _ _ h => h) ?_
    · obtain ⟨detail, hrun⟩ := beginUpdate_refused hc.state hc.current hlt
      exact ⟨_, hrun, detail, rfl⟩
    · rintro e s ⟨hx, hraises⟩
      exact ⟨.refuse, hr.first h, hraises, hx.controller.state, hx.controller.current,
        hx.controller.pending, hx.engine.core⟩
  | false =>
    have hlt : q.current.version < q.target.version := not_not.mp (of_decide_eq_false h)
    refine RunnerGoes.andThen (goes_ctrl
      (y := q.spotAt .updating (some q.target) q.pausedCore caches) rfl rfl rfl fun c hc => ?_)
      fun plan _ => hf (hr.next h rfl) plan
    obtain ⟨plan, hrun⟩ := beginUpdate_apply hc.state hc.current hlt
    exact ⟨_, _, hrun, ⟨rfl, hc.current, rfl, hc.active⟩⟩

theorem start_step {f : Unit → RunnerProg α} (hr : q.Reaches .start)
    (hf : q.Reaches .transfer → ∀ u, RunnerLeads q.start q.adapter
      (q.spotAt .updating (some q.target) q.openCore caches) (f u) Q q.Raised) :
    RunnerLeads q.start q.adapter (q.spotAt .updating (some q.target) q.pausedCore caches)
      (LifecycleRunner.effect "start_weight_update" (.startWeightUpdate q.target) >>= f) Q
      q.Raised := by
  cases h : q.breaksAt .start with
  | true =>
    refine RunnerStops.early fun s hs => ?_
    refine (start_breaks h (by simp [spotAt]) rfl s hs).mono (fun _ _ h => h) fun e s he => ?_
    exact he.raised (hr.first h) Iff.rfl rfl rfl rfl rfl
  | false =>
    obtain ⟨hm, hclosed⟩ := Bool.or_eq_false_iff.mp h
    refine RunnerGoes.andThen (y := q.spotAt .updating (some q.target) q.openCore caches)
      (effect_goes _ (P := fun _ => True) ?_) fun u _ => hf (hr.next h rfl) u
    intro s hs
    refine (goes_engine .startWeightUpdate hm (fun g hg => ?_) s hs).mono
      (fun _ _ h => ⟨h.1, trivial⟩) fun _ _ h => h
    exact (congrArg EngineCore.sessionOpen hg.core).trans hclosed

/-- **Transfer and finish.** -/
theorem update_step {f : UpdateEvidence → CyclePlan → RunnerProg α} (hr : q.Reaches .transfer)
    (hf : q.Reaches .invalidate → ∀ e plan, RunnerLeads q.start q.adapter
      (q.spotAt .invalidating (some q.target) q.newCore caches) (f e plan) Q q.Raised) :
    RunnerLeads q.start q.adapter (q.spotAt .updating (some q.target) q.openCore caches)
      (LifecycleRunner.effect "complete_weight_update" (.completeWeightUpdate q.target) >>=
        fun e => LifecycleRunner.ctrl (.confirmUpdated e) >>= f e) Q q.Raised := by
  -- evidence that fails taints, with the engine as the method left it
  have hfails : ∀ {k : EngineCore} {e : UpdateEvidence} {b : CycleBreak},
      e.target = q.target → e.failureReason ≠ none → q.firstBreak = some b →
      (∀ e, q.RaisesAt b e ↔ e.isTaint = true) → stateAt b = .tainted → q.pendingAt b = none →
      k = q.coreAt b → RunnerLeads q.start q.adapter
        (q.spotAt .updating (some q.target) k caches)
        (LifecycleRunner.ctrl (.confirmUpdated e) >>= f e) Q q.Raised := by
    intro k e b ht he hfirst hraises hstate hpending hcore
    refine RunnerStops.early fun s hs => (wrecks_ctrl (fun c hc => ?_) s hs).mono
      (fun _ _ h => h) fun e s hw => hw.raised hfirst (hraises e) hstate hpending rfl hcore
    exact confirmUpdated_taints hc.state (ht ▸ hc.pending) he
  cases h₁ : q.breaksAt .transfer with
  | true =>
    obtain ⟨hchunks, hm⟩ := Bool.and_eq_true_iff.mp h₁
    refine RunnerGoes.andThen (effect_goes _
      (completeWeightUpdate_breaks hm (of_decide_eq_true hchunks))) fun e he => ?_
    exact hfails he.1 he.2 (hr.first h₁) (fun _ => Iff.rfl) rfl rfl rfl
  | false =>
    have hr₂ : q.Reaches .finish := hr.next h₁ rfl
    cases h₂ : q.breaksAt .finish with
    | true =>
      refine RunnerGoes.andThen (effect_goes _ (finish_breaks h₁ h₂ rfl)) fun e he => ?_
      exact hfails he.1 he.2 (hr₂.first h₂) (fun _ => Iff.rfl) rfl rfl rfl
    | false =>
      refine RunnerGoes.andThen (effect_goes _ (completeWeightUpdate_goes h₁ h₂ rfl)) fun e he => ?_
      refine RunnerGoes.andThen (goes_ctrl
        (y := q.spotAt .invalidating (some q.target) q.newCore caches) rfl rfl rfl fun c hc => ?_)
        fun plan _ => hf (hr₂.next h₂ rfl) e plan
      obtain ⟨plan, detail, hrun⟩ := confirmUpdated_apply hc.state (he.1 ▸ hc.pending) he.2
      exact ⟨_, _, hrun, ⟨rfl, hc.current, hc.pending, hc.active⟩⟩

theorem invalidate_step {f : InvalidateEvidence → CyclePlan → RunnerProg α}
    (hr : q.Reaches .invalidate)
    (hf : q.Reaches .validate → ∀ e plan, RunnerLeads q.start q.adapter
      (q.spotAt .validating (some q.target) q.newCore ⟨false, false, false⟩) (f e plan) Q
      q.Raised) :
    RunnerLeads q.start q.adapter (q.spotAt .invalidating (some q.target) q.newCore caches)
      (LifecycleRunner.effect "invalidate_caches" (.invalidateCaches q.target) >>=
        fun e => LifecycleRunner.ctrl (.confirmInvalidated e) >>= f e) Q q.Raised := by
  cases h : q.breaksAt .invalidate with
  | true =>
    have hraised : ∀ {x : Spot} {e : PyExc} {s : FakeSystem}, Wrecked x e s →
        x.current = some q.current → x.core = q.newCore → q.Raised e s :=
      fun hw hcurrent hcore => hw.raised (hr.first h) Iff.rfl rfl rfl hcurrent hcore
    refine RunnerLeads.bind (fun s hs => (effect_leads _ (by simp [spotAt])
      (invalidateCaches_breaks h) s hs).mono (fun _ _ h => h) fun e s hw => hraised hw rfl rfl) ?_
    rintro e s ⟨⟨f', hx⟩, he⟩
    refine RunnerStops.early (fun s hs => (wrecks_ctrl (fun c hc => ?_) s hs).mono
      (fun _ _ h => h) fun e s hw => hraised hw rfl rfl) s hx
    exact confirmInvalidated_taints hc.state hc.pending he
  | false =>
    refine RunnerGoes.andThen (effect_goes _ (invalidateCaches_goes h)) fun e he => ?_
    refine RunnerGoes.andThen (goes_ctrl
      (y := q.spotAt .validating (some q.target) q.newCore ⟨false, false, false⟩) rfl rfl rfl
      fun c hc => ?_) fun plan _ => hf (hr.next h rfl) e plan
    obtain ⟨plan, hrun⟩ := confirmInvalidated_apply hc.state hc.pending he
    exact ⟨_, _, hrun, ⟨rfl, hc.current, hc.pending, hc.active⟩⟩

/-- **Validation** raises what a read raises, and leaves the cycle where it is. -/
theorem validate_step {f : ValidateEvidence → CyclePlan → RunnerProg α} (hr : q.Reaches .validate)
    (hf : q.Reaches .resume → ∀ e plan, RunnerLeads q.start q.adapter
      (q.spotAt .resuming (some q.target) q.newCore ⟨false, false, false⟩) (f e plan) Q
      q.Raised) :
    RunnerLeads q.start q.adapter
      (q.spotAt .validating (some q.target) q.newCore ⟨false, false, false⟩)
      (LifecycleRunner.observe (.validatePreResume q.target) >>=
        fun e => LifecycleRunner.ctrl (.confirmValidated e) >>= f e) Q q.Raised := by
  cases h : q.breaksAt .validate with
  | true =>
    refine RunnerStops.early fun s hs => (observe_leads (validatePreResume_breaks h) s hs).mono
      (fun _ _ h => h) ?_
    rintro e s ⟨hx, hraises⟩
    exact ⟨.validate, hr.first h, hraises, hx.controller.state, hx.controller.current,
      hx.controller.pending, hx.engine.core⟩
  | false =>
    refine RunnerGoes.andThen (observe_leads (validatePreResume_goes h rfl rfl rfl)) fun e he => ?_
    refine RunnerGoes.andThen (goes_ctrl
      (y := q.spotAt .resuming (some q.target) q.newCore ⟨false, false, false⟩) rfl rfl rfl
      fun c hc => ?_) fun plan _ => hf (hr.next h rfl) e plan
    obtain ⟨plan, hrun⟩ := confirmValidated_apply hc.state (he.1 ▸ hc.pending) he.2
    exact ⟨_, _, hrun, ⟨rfl, hc.current, hc.pending, hc.active⟩⟩

/-- **Resume and commit.** -/
theorem resume_step {f : ResumeEvidence → Unit → RunnerProg α} (hr : q.Reaches .resume)
    (hf : q.firstBreak = none → ∀ e u, RunnerLeads q.start q.adapter q.served (f e u) Q
      q.Raised) :
    RunnerLeads q.start q.adapter
      (q.spotAt .resuming (some q.target) q.newCore ⟨false, false, false⟩)
      (LifecycleRunner.effect "resume" (.resume q.target) >>=
        fun e => LifecycleRunner.ctrl (.confirmResumed e) >>= f e) Q q.Raised := by
  have hreads : q.breaksAt .validate = false := hr .validate (by decide)
  cases h : q.breaksAt .resume with
  | true =>
    refine RunnerGoes.andThen (effect_goes _ (resume_breaks hreads h)) fun e he => ?_
    refine RunnerStops.early fun s hs => (wrecks_ctrl (fun c hc => ?_) s hs).mono
      (fun _ _ h => h) fun e s hw => hw.raised (hr.first h) Iff.rfl rfl rfl rfl rfl
    exact confirmResumed_taints hc.state (he.1 ▸ hc.pending) he.2
  | false =>
    refine RunnerGoes.andThen (effect_goes _ (resume_goes hreads h rfl)) fun e he => ?_
    refine RunnerGoes.andThen (goes_ctrl (y := q.served) rfl rfl rfl fun c hc => ?_)
      fun u _ => hf (hr.none h) e u
    exact ⟨_, _, confirmResumed_apply hc.state (he.1 ▸ hc.pending) he.2,
      ⟨rfl, congrArg some he.1, rfl, hc.active⟩⟩

end Steps

/-- **A cycle under faults** commits, or ends at its first break. -/
theorem runCycle_leads : RunnerLeads q.start q.adapter q.spot (q.runner.runCycle q.target)
    q.Returned q.Raised := by
  unfold LifecycleRunner.runCycle
  refine RunnerGoes.andThen state_goes fun s₀ _ => ?_
  refine RunnerGoes.andThen monotonic_goes fun started _ => ?_
  refine RunnerGoes.andThen
    (goes_ctrl (y := q.spot.moved .draining q.start.controller.pendingTarget) rfl rfl rfl
      fun c hc => ?_) fun _ _ => ?_
  · obtain ⟨plan, hrun⟩ := beginDrain_apply hc.state hc.current
    exact ⟨_, _, hrun, ⟨rfl, hc.current, hc.pending, hc.active⟩⟩
  refine RunnerGoes.andThen state_goes fun s₁ _ => ?_
  refine RunnerGoes.andThen (effect_goes _ beginDrain_goes) fun _ _ => ?_
  refine drain_step (by simp [Reaches, CycleBreak.all]) fun hr polls => ?_
  refine RunnerGoes.andThen state_goes fun s₂ _ => ?_
  refine beginUpdate_step hr fun hr _ => RunnerGoes.andThen state_goes fun s₃ _ => ?_
  refine start_step hr fun hr _ => update_step hr fun hr _ _ => ?_
  refine RunnerGoes.andThen state_goes fun s₄ _ => invalidate_step hr fun hr _ _ => ?_
  refine RunnerGoes.andThen state_goes fun s₅ _ => validate_step hr fun hr _ _ => ?_
  refine RunnerGoes.andThen state_goes fun s₆ _ => resume_step hr fun hnone _ _ => ?_
  refine RunnerGoes.andThen state_goes fun s₇ _ => ?_
  refine RunnerGoes.andThen currentTarget_goes fun committed hcommitted => ?_
  subst hcommitted
  exact RunnerGoes.andThen monotonic_goes fun now _ s hs => ⟨hnone, rfl, hs.controller.state,
    hs.controller.current, hs.controller.pending, hs.engine.core, hs.engine.caches⟩

end Cycle

/-- **The fault table.** Let a cycle over the reference engine start from a controller that is
READY, with whatever fault table, active rollouts and requests, open session or cache state, and
let nobody disturb it. If none of its steps breaks it commits its target, and the engine serves it
with clean caches. Otherwise the first that breaks decides everything: the exception, the state and
the targets of the controller, and label, weights, pause and session of the engine. -/
theorem cycle_ends_at_first_break (q : CycleStart) (hs : q.start.controller.state = .ready)
    (hcurrent : q.start.controller.currentTarget = some q.current) {tr : List FakeEvent}
    {p : FakeProg CycleResult} {s : FakeSystem}
    (hr : Run (World.undisturbed fakeAnswers)
      ((q.runner.runCycle q.target).interp q.adapter.handle) q.start tr p s) (hp : p.Ended) :
    (q.firstBreak = none → ∃ res, p = .pure res ∧ q.Committed res s) ∧
      ∀ b, q.firstBreak = some b → ∃ e, p = .throw e ∧ q.Broken b e s := by
  have hspot : q.spot.Holds q.start q.start :=
    ⟨⟨hs, hcurrent, rfl, rfl⟩, ⟨rfl, rfl, rfl⟩, rfl⟩
  rcases (runCycle_leads q.start hspot).ended hr hp with ⟨res, rfl, hnone, hres⟩ |
    ⟨e, rfl, b, hb, he⟩
  · refine ⟨fun _ => ⟨res, rfl, hres⟩, fun b hb => ?_⟩
    rw [hnone] at hb
    cases hb
  · refine ⟨fun hnone => ?_, fun b' hb' => ?_⟩
    · rw [hnone] at hb
      cases hb
    · obtain rfl := Option.some.inj (hb.symm.trans hb')
      exact ⟨e, rfl, he⟩

/-- A cycle to the second generation over an engine whose worker dies in the finish. -/
def dyingWorker : CycleStart where
  runner := {}
  adapter := {}
  start := {
    controller := bootstrapped
    engine := {
      weightVersion := "rc-0"
      weightIdentity := some identityA
      faults := .ofPairs [("finish_weight_update", "worker died")] }
    drainCompleted := false }
  current := ⟨⟨0⟩, identityA⟩
  target := ⟨⟨1⟩, identityB⟩

/-- It taints, with the new weights under the old label in a paused engine. -/
theorem cycle_ends_at_first_break_dying : ∃ tr p s e,
    Run (World.undisturbed fakeAnswers) ((dyingWorker.runner.runCycle dyingWorker.target).interp
      dyingWorker.adapter.handle) dyingWorker.start tr p s ∧ p = .throw e ∧ e.isTaint = true ∧
      s.controller.state = .tainted ∧ s.controller.currentTarget = some ⟨⟨0⟩, identityA⟩ ∧
      s.engine.core = ⟨"rc-0", some identityB, true, true⟩ := by
  have htotal : ∀ call s, ∃ reply s', (World.undisturbed fakeAnswers).answers call s reply s' :=
    fun call s => ⟨_, _, fakeAnswer_answers call s⟩
  obtain ⟨tr, p, s, hr, hp⟩ := Run.completes htotal ((dyingWorker.runner.runCycle
    dyingWorker.target).interp dyingWorker.adapter.handle) dyingWorker.start
  obtain ⟨e, rfl, he⟩ := (cycle_ends_at_first_break dyingWorker rfl rfl hr hp).2 .finish
    (by decide +kernel)
  exact ⟨tr, _, s, e, hr, rfl, he.raises, he.state, he.current, he.core⟩

end RolloutCore
