import RolloutCore.Runner

/-!
# The control flow of a cycle

`CycleStep` is the control-flow graph of `run_cycle`: the points between its calls and where each
reply leads. `runCycle_outline` proves the program follows the graph, for every way of carrying
the calls out; what is proved about cycles is then proved point by point.
-/

namespace RolloutCore

/-! ## The graph -/

/-- A point of `run_cycle`, named by the call that led to it. -/
inductive CyclePoint
  | start
  | begun
  | draining
  | polled (e : DrainEvidence)
  | quiesced
  | updating
  | opened
  | staged (e : UpdateEvidence)
  | invalidating
  | reset (e : InvalidateEvidence)
  | validating
  | validated (e : ValidateEvidence)
  | resuming
  | resumed (e : ResumeEvidence)
  | committed
  | tainting (reason : String)
  | returned (t : UpdateTarget)
  | raised (e : PyExc)

/-- The adapter methods that act on the engine: a foreign exception of theirs taints. -/
def AdapterCall.IsEffect : AdapterCall → Prop
  | .awaitDrain | .validatePreResume _ => False
  | _ => True

/-- Calls that only look: a property, the clock. -/
def RunnerCall.IsView : RunnerCall → Prop
  | .state | .monotonic | .sleep _ => True
  | _ => False

namespace CyclePoint

/-- The call a point makes next, when it installs `t`. -/
def call? (t : UpdateTarget) : CyclePoint → Option RunnerCall
  | .start => some (.ctrl .beginDrain)
  | .begun => some (.adapter .beginDrain)
  | .draining => some (.adapter .awaitDrain)
  | .polled e => some (.ctrl (.confirmDrained e))
  | .quiesced => some (.ctrl (.beginUpdate t))
  | .updating => some (.adapter (.startWeightUpdate t))
  | .opened => some (.adapter (.completeWeightUpdate t))
  | .staged e => some (.ctrl (.confirmUpdated e))
  | .invalidating => some (.adapter (.invalidateCaches t))
  | .reset e => some (.ctrl (.confirmInvalidated e))
  | .validating => some (.adapter (.validatePreResume t))
  | .validated e => some (.ctrl (.confirmValidated e))
  | .resuming => some (.adapter (.resume t))
  | .resumed e => some (.ctrl (.confirmResumed e))
  | .committed => some .currentTarget
  | .tainting reason => some (.ctrl (.taint reason))
  | .returned _ | .raised _ => none

end CyclePoint

/-- `CycleStep t pt call reply pt'`: at `pt` the call, answered so, leads to `pt'`. -/
inductive CycleStep (t : UpdateTarget) :
    CyclePoint → (call : RunnerCall) → call.Reply → CyclePoint → Prop
  | view {pt : CyclePoint} {call : RunnerCall} {r : call.Reply} (h : call.IsView) :
      CycleStep t pt call r pt
  | beginDrain {plan : CyclePlan} :
      CycleStep t .start (.ctrl .beginDrain) (Except.ok plan) .begun
  | pause : CycleStep t .begun (.adapter .beginDrain) (Except.ok ()) .draining
  | poll {e : DrainEvidence} :
      CycleStep t .draining (.adapter .awaitDrain) (Except.ok e) (.polled e)
  | notYet {e : DrainEvidence} {i d : String} :
      CycleStep t (.polled e) (.ctrl (.confirmDrained e))
        (Except.error (.core (.evidenceNotReady i d))) .draining
  | drained {e : DrainEvidence} :
      CycleStep t (.polled e) (.ctrl (.confirmDrained e)) (Except.ok ()) .quiesced
  | beginUpdate {plan : CyclePlan} :
      CycleStep t .quiesced (.ctrl (.beginUpdate t)) (Except.ok plan) .updating
  | startUpdate : CycleStep t .updating (.adapter (.startWeightUpdate t)) (Except.ok ()) .opened
  | transfer {e : UpdateEvidence} :
      CycleStep t .opened (.adapter (.completeWeightUpdate t)) (Except.ok e) (.staged e)
  | updated {e : UpdateEvidence} {plan : CyclePlan} :
      CycleStep t (.staged e) (.ctrl (.confirmUpdated e)) (Except.ok plan) .invalidating
  | invalidate {e : InvalidateEvidence} :
      CycleStep t .invalidating (.adapter (.invalidateCaches t)) (Except.ok e) (.reset e)
  | invalidated {e : InvalidateEvidence} {plan : CyclePlan} :
      CycleStep t (.reset e) (.ctrl (.confirmInvalidated e)) (Except.ok plan) .validating
  | validate {e : ValidateEvidence} :
      CycleStep t .validating (.adapter (.validatePreResume t)) (Except.ok e) (.validated e)
  | validated {e : ValidateEvidence} {plan : CyclePlan} :
      CycleStep t (.validated e) (.ctrl (.confirmValidated e)) (Except.ok plan) .resuming
  | resume {e : ResumeEvidence} :
      CycleStep t .resuming (.adapter (.resume t)) (Except.ok e) (.resumed e)
  | resumed {e : ResumeEvidence} :
      CycleStep t (.resumed e) (.ctrl (.confirmResumed e)) (Except.ok ()) .committed
  | commit {t' : UpdateTarget} : CycleStep t .committed .currentTarget (some t') (.returned t')
  | uncommitted : CycleStep t .committed .currentTarget none (.raised .assertion)
  /-- The controller refuses; a drain that is not ready is polled again instead. -/
  | refused {pt : CyclePoint} {op : Op} {e : PyExc} (h : pt.call? t = some (.ctrl op))
      (he : ∀ i d ev, op = .confirmDrained ev → e ≠ .core (.evidenceNotReady i d)) :
      CycleStep t pt (.ctrl op) (Except.error e) (.raised e)
  /-- The adapter raises in a way that propagates. -/
  | failed {pt : CyclePoint} {m : AdapterCall} {e : PyExc} (h : pt.call? t = some (.adapter m))
      (he : m.IsEffect → e.isCore = true) :
      CycleStep t pt (.adapter m) (Except.error e) (.raised e)
  /-- A mutating call raises an exception of foreign origin. -/
  | ambiguous {pt : CyclePoint} {m : AdapterCall} {e : PyExc} {shown reason : String}
      (h : pt.call? t = some (.adapter m)) (hm : m.IsEffect) (he : e.isCore = false)
      (hr : e.repr = .ok shown) : CycleStep t pt (.adapter m) (Except.error e) (.tainting reason)
  /-- And the exception cannot be printed. -/
  | unprinted {pt : CyclePoint} {m : AdapterCall} {e raised : PyExc}
      (h : pt.call? t = some (.adapter m)) (hm : m.IsEffect) (he : e.isCore = false)
      (hr : e.repr = .error raised) : CycleStep t pt (.adapter m) (Except.error e) (.raised raised)
  | tainted {reason : String} {e : RolloutCoreError} :
      CycleStep t (.tainting reason) (.ctrl (.taint reason)) (Except.ok e) (.raised (.core e))

/-! ## The program follows the graph -/

section Outline

variable {κ σ : Type} {Reply : κ → Type} {W : World Reply σ} {t : UpdateTarget}
  {handle : (call : RunnerCall) → Prog Reply PyExc call.Reply} {I : Assertion W}
  {A : CyclePoint → Assertion W}

/-- Where the reply of a call leads from `pt`, as an assertion. -/
def stepped (t : UpdateTarget) (A : CyclePoint → Assertion W) (pt : CyclePoint) (call : RunnerCall)
    (r : call.Reply) : Assertion W where
  holds tr s := ∀ pt', CycleStep t pt call r pt' → A pt' tr s
  stable h he pt' hstep := (A pt').stable (h pt' hstep) he

/-- Carrying out the calls of a cycle with `handle` keeps `A` along the graph, and `I`. -/
structure Annotated (r : LifecycleRunner) (t : UpdateTarget)
    (handle : (call : RunnerCall) → Prog Reply PyExc call.Reply) (I : Assertion W)
    (A : CyclePoint → Assertion W) : Prop where
  inv : ∀ pt, A pt ≤ I
  view : ∀ pt call, call.IsView →
    Triple I (A pt) (handle call) (stepped t A pt call) (fun e => A (.raised e))
  call : ∀ pt call, pt.call? t = some call →
    Triple I (A pt) (handle call) (stepped t A pt call) (fun e => A (.raised e))
  exhausted : A .draining ≤ A (.raised (.core r.drainExhausted))

namespace Annotated

variable {r : LifecycleRunner} (h : Annotated r t handle I A)

/-- The program with its calls carried out keeps `I`, from `pre` to `post`. -/
abbrev Under {α : Type} (_ : Annotated r t handle I A) (pre : Assertion W)
    (p : RunnerProg α) (post : α → Assertion W) : Prop :=
  Triple I pre (p.interp handle) post (fun e => A (.raised e))

theorem bind {α β : Type} {pre : Assertion W} {mid : α → Assertion W} {post : β → Assertion W}
    {p : RunnerProg α} {f : α → RunnerProg β} (hp : h.Under pre p mid)
    (hf : ∀ a, h.Under (mid a) (f a) post) : h.Under pre (p >>= f) post := by
  show Triple I pre ((p.bind f).interp handle) post _
  rw [Prog.interp_bind]
  exact hp.bind hf

theorem raise {α : Type} {pre : Assertion W} {e : PyExc} {post : α → Assertion W}
    (he : pre ≤ A (.raised e)) : h.Under pre (throw e : RunnerProg α) post :=
  Triple.throw (fun tr s hs => h.inv _ tr s (he tr s hs)) he

theorem ret {α : Type} {pre : Assertion W} {a : α} {post : α → Assertion W}
    (hI : pre ≤ I) (ha : pre ≤ post a) : h.Under pre (pure a : RunnerProg α) post :=
  Triple.pure hI ha

theorem look (pt : CyclePoint) {call : RunnerCall} (hcall : call.IsView) :
    h.Under (A pt) (Prog.op call) (fun _ => A pt) := by
  show Triple I (A pt) ((handle call).bind .pure) _ _
  refine (h.view pt call hcall).bind fun reply => Triple.pure ?_ ?_
  · intro tr s hs
    exact h.inv pt tr s (hs pt (.view hcall))
  · intro tr s hs
    exact hs pt (.view hcall)

theorem next {pt : CyclePoint} {call : RunnerCall} (hcall : pt.call? t = some call)
    {α : Type} {f : call.Reply → RunnerProg α} {post : α → Assertion W}
    (hf : ∀ reply, h.Under (stepped t A pt call reply) (f reply) post) :
    h.Under (A pt) (Prog.op call >>= f) post :=
  (h.call pt call hcall).bind hf

/-- A reply that leads to `pt'` establishes its assertion. -/
theorem stepped_le {pt pt' : CyclePoint} {call : RunnerCall} {reply : call.Reply}
    (hstep : CycleStep t pt call reply pt') : stepped t A pt call reply ≤ A pt' :=
  fun _ _ hs => hs pt' hstep

include h in
theorem stepped_le_inv {pt pt' : CyclePoint} {call : RunnerCall} {reply : call.Reply}
    (hstep : CycleStep t pt call reply pt') : stepped t A pt call reply ≤ I :=
  fun tr s hs => h.inv pt' tr s (hs pt' hstep)

theorem ctrl {pt : CyclePoint} (op : Op) (next : op.Ret → CyclePoint)
    (hcall : pt.call? t = some (.ctrl op)) (hop : ∀ ev, op ≠ .confirmDrained ev)
    (hstep : ∀ r, CycleStep t pt (.ctrl op) (Except.ok r) (next r)) :
    h.Under (A pt) (LifecycleRunner.ctrl op) (fun r => A (next r)) := by
  unfold LifecycleRunner.ctrl LifecycleRunner.tryCtrl
  refine h.next hcall fun reply => ?_
  cases reply with
  | ok r => exact h.ret (h.stepped_le_inv (hstep r)) (stepped_le (hstep r))
  | error e =>
    exact h.raise (stepped_le (.refused hcall fun _ _ ev hev => absurd hev (hop ev)))

theorem observe {pt : CyclePoint} (m : AdapterCall) (next : m.Ret → CyclePoint)
    (hcall : pt.call? t = some (.adapter m)) (hm : ¬ m.IsEffect)
    (hstep : ∀ r, CycleStep t pt (.adapter m) (Except.ok r) (next r)) :
    h.Under (A pt) (LifecycleRunner.observe m) (fun r => A (next r)) := by
  unfold LifecycleRunner.observe LifecycleRunner.tryAdapter
  refine h.next hcall fun reply => ?_
  cases reply with
  | ok r => exact h.ret (h.stepped_le_inv (hstep r)) (stepped_le (hstep r))
  | error e => exact h.raise (stepped_le (.failed hcall fun he => absurd he hm))

theorem raiseTaint {α : Type} {reason : String} {post : α → Assertion W} :
    h.Under (A (.tainting reason)) (LifecycleRunner.raiseTaint reason) post := by
  unfold LifecycleRunner.raiseTaint LifecycleRunner.ctrl LifecycleRunner.tryCtrl
  refine h.bind (h.next rfl fun reply => ?_) fun e => h.raise (Assertion.le_refl _)
  cases reply with
  | ok e => exact h.ret (h.stepped_le_inv .tainted) (stepped_le .tainted)
  | error e => exact h.raise (stepped_le (.refused rfl (by simp)))

/-- A mutating call that raises ends the cycle, with a taint when the exception is foreign and can
be printed. -/
theorem effect {pt : CyclePoint} (m : AdapterCall) (next : m.Ret → CyclePoint) {what : String}
    (hcall : pt.call? t = some (.adapter m)) (hm : m.IsEffect)
    (hstep : ∀ r, CycleStep t pt (.adapter m) (Except.ok r) (next r)) :
    h.Under (A pt) (LifecycleRunner.effect what m) (fun r => A (next r)) := by
  unfold LifecycleRunner.effect LifecycleRunner.tryAdapter
  refine h.next hcall fun reply => ?_
  cases reply with
  | ok r => exact h.ret (h.stepped_le_inv (hstep r)) (stepped_le (hstep r))
  | error e =>
    dsimp only
    split_ifs with he
    · exact h.raise (stepped_le (.failed hcall fun _ => he))
    · have hf : e.isCore = false := by simpa using he
      cases hr : e.repr with
      | ok shown => exact h.raiseTaint.weaken (stepped_le (.ambiguous hcall hm hf hr))
      | error raised => exact h.raise (stepped_le (.unprinted hcall hm hf hr))

/-- The drain loop polls until the drain is accepted. -/
theorem pollDrain (deadline : ℚ) (left : ℕ) :
    h.Under (A .draining) (r.pollDrain deadline left) (fun _ => A .quiesced) := by
  induction left with
  | zero => exact h.raise h.exhausted
  | succ left ih =>
    unfold LifecycleRunner.pollDrain LifecycleRunner.tryCtrl
    refine h.bind (h.observe .awaitDrain .polled rfl (by simp [AdapterCall.IsEffect])
      fun _ => .poll) fun ev => h.next rfl fun reply => ?_
    cases reply with
    | ok _ => exact h.ret (h.stepped_le_inv .drained) (stepped_le .drained)
    | error e =>
      split
      · next heq => cases heq
      · -- not ready: back to the head of the loop
        next i d heq =>
        cases heq
        refine Triple.weaken ?_ (stepped_le .notYet)
        split_ifs
        · refine h.bind (h.look .draining trivial) fun now => ?_
          split_ifs
          · exact h.bind (h.look .draining trivial) fun _ => ih
          · exact ih
        · exact ih
      · next e' hne heq =>
        cases heq
        exact h.raise (stepped_le (.refused rfl fun i d _ _ he => hne i d (he ▸ rfl)))

/-- **The cycle follows its graph**: carried out in any way that keeps `A` along the graph, a run
of `run_cycle` keeps `I`, and returns or raises where `A` says. -/
theorem runCycle :
    h.Under (A .start) (r.runCycle t) (fun res => A (.returned res.committed)) := by
  have hview : ∀ {pt : CyclePoint} {call : RunnerCall} {α : Type} {f : call.Reply → RunnerProg α}
      {post : α → Assertion W}, call.IsView → (∀ reply, h.Under (A pt) (f reply) post) →
      h.Under (A pt) (Prog.op call >>= f) post := fun hc hf => h.bind (h.look _ hc) hf
  unfold LifecycleRunner.runCycle LifecycleRunner.drainUntilQuiesced
  refine hview trivial fun _ => hview trivial fun started => ?_
  refine h.bind (h.ctrl .beginDrain (fun _ => .begun) rfl (by simp) fun _ => .beginDrain)
    fun _ => hview trivial fun _ => ?_
  refine h.bind (h.effect .beginDrain (fun _ => .draining) rfl trivial fun _ => .pause) fun _ => ?_
  refine h.bind (hview trivial fun _ => h.pollDrain _ _) fun polls => hview trivial fun _ => ?_
  refine h.bind (h.ctrl (.beginUpdate t) (fun _ => .updating) rfl (by simp) fun _ => .beginUpdate)
    fun _ => hview trivial fun _ => ?_
  refine h.bind (h.effect (.startWeightUpdate t) (fun _ => .opened) rfl trivial
    fun _ => .startUpdate) fun _ => ?_
  refine h.bind (h.effect (.completeWeightUpdate t) .staged rfl trivial fun _ => .transfer)
    fun ev => ?_
  refine h.bind (h.ctrl (.confirmUpdated ev) (fun _ => .invalidating) rfl (by simp)
    fun _ => .updated) fun _ => hview trivial fun _ => ?_
  refine h.bind (h.effect (.invalidateCaches t) .reset rfl trivial fun _ => .invalidate)
    fun ev => ?_
  refine h.bind (h.ctrl (.confirmInvalidated ev) (fun _ => .validating) rfl (by simp)
    fun _ => .invalidated) fun _ => hview trivial fun _ => ?_
  refine h.bind (h.observe (.validatePreResume t) .validated rfl (by simp [AdapterCall.IsEffect])
    fun _ => .validate) fun ev => ?_
  refine h.bind (h.ctrl (.confirmValidated ev) (fun _ => .resuming) rfl (by simp)
    fun _ => .validated) fun _ => hview trivial fun _ => ?_
  refine h.bind (h.effect (.resume t) .resumed rfl trivial fun _ => .resume) fun ev => ?_
  refine h.bind (h.ctrl (.confirmResumed ev) (fun _ => .committed) rfl (by simp)
    fun _ => .resumed) fun _ => hview trivial fun _ => ?_
  refine h.next rfl fun reply => ?_
  cases reply with
  | none => exact h.raise (stepped_le .uncommitted)
  | some committed =>
    exact Triple.weaken (hview trivial fun now => h.ret (h.inv _) (Assertion.le_refl _))
      (stepped_le .commit)

end Annotated

end Outline

/-! ## The traces of a cycle -/

/-- `CycleTrace r W t B pt tr s`: a cycle begun where `B` holds has got to `pt`, and the trace has
come to `tr` and the state to `s`. -/
inductive CycleTrace {σ : Type} (r : LifecycleRunner) (W : World RunnerCall.Reply σ)
    (t : UpdateTarget) (B : List (TraceEvent RunnerCall.Reply σ) → σ → Prop) :
    CyclePoint → List (TraceEvent RunnerCall.Reply σ) → σ → Prop
  | start {tr : List (TraceEvent RunnerCall.Reply σ)} {s : σ} (h : B tr s) :
      CycleTrace r W t B .start tr s
  | env {pt : CyclePoint} {tr : List (TraceEvent RunnerCall.Reply σ)} {s s' : σ}
      (h : CycleTrace r W t B pt tr s) (he : W.env s s') :
      CycleTrace r W t B pt (tr ++ [.env s s']) s'
  | call {pt pt' : CyclePoint} {tr : List (TraceEvent RunnerCall.Reply σ)} {call : RunnerCall}
      {reply : call.Reply} {s s' : σ} (h : CycleTrace r W t B pt tr s)
      (hstep : CycleStep t pt call reply pt') (ha : W.answers call s reply s') :
      CycleTrace r W t B pt' (tr ++ [.call call reply s s']) s'
  | exhausted {tr : List (TraceEvent RunnerCall.Reply σ)} {s : σ}
      (h : CycleTrace r W t B .draining tr s) :
      CycleTrace r W t B (.raised (.core r.drainExhausted)) tr s

section Traces

variable {σ : Type} {r : LifecycleRunner} {W : World RunnerCall.Reply σ} {t : UpdateTarget}
  {B : List (TraceEvent RunnerCall.Reply σ) → σ → Prop}

/-- The traces that lead to `pt`, as an assertion. -/
def cycleAssertion (r : LifecycleRunner) (W : World RunnerCall.Reply σ) (t : UpdateTarget)
    (B : List (TraceEvent RunnerCall.Reply σ) → σ → Prop) (pt : CyclePoint) : Assertion W :=
  ⟨CycleTrace r W t B pt, .env⟩

/-- The traces of a cycle, at whatever point. -/
def someCycleTrace (r : LifecycleRunner) (W : World RunnerCall.Reply σ) (t : UpdateTarget)
    (B : List (TraceEvent RunnerCall.Reply σ) → σ → Prop) : Assertion W :=
  ⟨fun tr s => ∃ pt, CycleTrace r W t B pt tr s, fun ⟨pt, h⟩ he => ⟨pt, h.env he⟩⟩

theorem triple_op_trace (pt : CyclePoint) (call : RunnerCall)
    (hreply : ∀ reply, ∃ pt', CycleStep t pt call reply pt') :
    Triple (someCycleTrace r W t B) (cycleAssertion r W t B pt) (Prog.op call)
      (stepped t (cycleAssertion r W t B) pt call)
      (fun e : PyExc => cycleAssertion r W t B (.raised e)) := by
  refine Triple.op (fun tr s h => ⟨pt, h⟩) fun tr s reply s' h ha => ⟨?_, fun pt' hstep => ?_⟩
  · obtain ⟨pt', hstep⟩ := hreply reply
    exact ⟨pt', h.call hstep ha⟩
  · exact CycleTrace.call h hstep ha

theorem exists_step_of_refusal {pt : CyclePoint} {op : Op} (h : pt.call? t = some (.ctrl op))
    (e : PyExc) : ∃ pt', CycleStep t pt (.ctrl op) (Except.error e) pt' := by
  by_cases he : ∃ i d ev, op = .confirmDrained ev ∧ e = .core (.evidenceNotReady i d)
  · obtain ⟨i, d, ev, rfl, rfl⟩ := he
    obtain rfl : pt = .polled ev := by
      cases pt <;> simp_all [CyclePoint.call?]
    exact ⟨_, .notYet⟩
  · exact ⟨_, .refused h fun i d ev hop hi => he ⟨i, d, ev, hop, hi⟩⟩

theorem exists_step_of_failure {pt : CyclePoint} {m : AdapterCall}
    (h : pt.call? t = some (.adapter m)) (e : PyExc) :
    ∃ pt', CycleStep t pt (.adapter m) (Except.error e) pt' := by
  by_cases he : m.IsEffect ∧ e.isCore = false
  · cases hr : e.repr with
    | ok shown => exact ⟨.tainting "", .ambiguous h he.1 he.2 hr⟩
    | error raised => exact ⟨_, .unprinted h he.1 he.2 hr⟩
  · refine ⟨_, .failed h fun hm => ?_⟩
    simpa [hm] using he

theorem exists_cycleStep {pt : CyclePoint} {call : RunnerCall} (h : pt.call? t = some call)
    (reply : call.Reply) : ∃ pt', CycleStep t pt call reply pt' := by
  cases call with
  | state => exact ⟨_, .view trivial⟩
  | monotonic => exact ⟨_, .view trivial⟩
  | sleep => exact ⟨_, .view trivial⟩
  | currentTarget =>
    obtain rfl : pt = .committed := by
      cases pt <;> simp_all [CyclePoint.call?]
    cases reply with
    | none => exact ⟨_, .uncommitted⟩
    | some t' => exact ⟨_, .commit⟩
  | ctrl op =>
    cases reply with
    | error e => exact exists_step_of_refusal h e
    | ok r =>
      cases pt <;> cases h
      case start.refl => exact ⟨_, .beginDrain⟩
      case polled.refl => exact ⟨_, .drained⟩
      case quiesced.refl => exact ⟨_, .beginUpdate⟩
      case staged.refl => exact ⟨_, .updated⟩
      case reset.refl => exact ⟨_, .invalidated⟩
      case validated.refl => exact ⟨_, .validated⟩
      case resumed.refl => exact ⟨_, .resumed⟩
      case tainting.refl => exact ⟨_, .tainted⟩
  | adapter m =>
    cases reply with
    | error e => exact exists_step_of_failure h e
    | ok r =>
      cases pt <;> cases h
      case begun.refl => exact ⟨_, .pause⟩
      case draining.refl => exact ⟨_, .poll⟩
      case updating.refl => exact ⟨_, .startUpdate⟩
      case opened.refl => exact ⟨_, .transfer⟩
      case invalidating.refl => exact ⟨_, .invalidate⟩
      case validating.refl => exact ⟨_, .validate⟩
      case resuming.refl => exact ⟨_, .resume⟩

theorem annotated_traces : Annotated r t Prog.op (someCycleTrace r W t B)
    (cycleAssertion r W t B) where
  inv pt _ _ h := ⟨pt, h⟩
  view pt call hcall := triple_op_trace pt call fun _ => ⟨pt, .view hcall⟩
  call pt call hcall := triple_op_trace pt call (exists_cycleStep hcall)
  exhausted _ _ h := .exhausted h

theorem triple_runCycle : Triple (someCycleTrace r W t B) (cycleAssertion r W t B .start)
    (r.runCycle t) (fun res => cycleAssertion r W t B (.returned res.committed))
    (fun e => cycleAssertion r W t B (.raised e)) := by
  have h : Annotated r t Prog.op (someCycleTrace r W t B) (cycleAssertion r W t B) :=
    annotated_traces
  have hrun := h.runCycle
  unfold Annotated.Under at hrun
  rwa [Prog.interp_op] at hrun

/-- The traces of a cycle begun at `s`. -/
abbrev CycleFrom (r : LifecycleRunner) (W : World RunnerCall.Reply σ) (t : UpdateTarget) (s : σ) :
    CyclePoint → List (TraceEvent RunnerCall.Reply σ) → σ → Prop :=
  CycleTrace r W t fun tr s' => tr = [] ∧ s' = s

/-- **Every run of `run_cycle` is a trace of the graph**, and ends where it returns or raises. -/
theorem cycleFrom_of_run {s s' : σ} {tr : List (TraceEvent RunnerCall.Reply σ)}
    {p : RunnerProg CycleResult} (h : Run W (r.runCycle t) s tr p s') :
    ∃ pt, CycleFrom r W t s pt tr s' ∧
      (∀ res, p = .pure res → pt = .returned res.committed) ∧
      ∀ e, p = .throw e → pt = .raised e := by
  have hstart : CycleFrom r W t s .start [] s := .start ⟨rfl, rfl⟩
  have hsafe := (triple_runCycle _ _ hstart).run h
  rw [List.nil_append] at hsafe
  cases p with
  | pure res => exact ⟨_, hsafe.2, by simp, by simp⟩
  | throw e => exact ⟨_, hsafe.2, by simp, by simp⟩
  | perform op next =>
    obtain ⟨pt, hpt⟩ := hsafe.inv
    exact ⟨pt, hpt, by simp, by simp⟩

end Traces

end RolloutCore
