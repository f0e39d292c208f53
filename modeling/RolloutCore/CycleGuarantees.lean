import RolloutCore.CycleInvariant
import RolloutCore.LifecycleGuarantees

/-!
# Guarantees of a cycle

Statements about every run of `run_cycle` with any adapter, with rollout owners and the operator
calling the controller in between.
-/

namespace RolloutCore

open LifecycleController

/-- A controller operation in a trace. -/
abbrev ctrlEvent (op : Op) (reply : Except PyExc op.Ret) (c c' : LifecycleController) :
    CycleEvent :=
  .call (.ctrl op) reply c c'

/-- An adapter call in a trace. -/
abbrev adapterEvent (m : AdapterCall) (reply : Except PyExc m.Ret) (c c' : LifecycleController) :
    CycleEvent :=
  .call (.adapter m) reply c c'

/-! ## Computed runs -/

/-- The replies of an engine on which nothing goes wrong. -/
def goodReply : (m : AdapterCall) → Except PyExc m.Ret
  | .bootstrap => .ok (goodBootstrap identityA)
  | .beginDrain => .ok ()
  | .awaitDrain => .ok goodDrain
  | .startWeightUpdate _ => .ok ()
  | .completeWeightUpdate t => .ok (goodUpdate t)
  | .invalidateCaches _ => .ok goodInvalidate
  | .validatePreResume t => .ok (goodValidate t)
  | .resume t => .ok (goodResume t)

/-- The replies to a runner over such an engine; its clock stands still. -/
def goodAnswer : (call : RunnerCall) → LifecycleController → call.Reply × LifecycleController
  | .ctrl op, c => op.reply c
  | .state, c => (c.state, c)
  | .currentTarget, c => (c.currentTarget, c)
  | .adapter m, c => (goodReply m, c)
  | .monotonic, c => ((0 : ℚ), c)
  | .sleep _, c => ((), c)

theorem goodAnswer_answers (call : RunnerCall) (c : LifecycleController) :
    anyAdapter.answers call c (goodAnswer call c).1 (goodAnswer call c).2 := by
  cases call with
  | ctrl op => exact op.replies_reply c
  | state => exact ⟨rfl, rfl⟩
  | currentTarget => exact ⟨rfl, rfl⟩
  | _ => rfl

/-- A cycle on such an engine, where the operator taints before call number `n`, if at all. -/
def goodPlay (t : UpdateTarget) (n : Option ℕ) (c : LifecycleController) :
    List CycleEvent × Except PyExc CycleResult × LifecycleController :=
  (LifecycleRunner.runCycle {} t).play goodAnswer
    (fun m c => if some m = n then some ((Op.taint "operator").after c) else none) 0 c

theorem run_goodPlay (t : UpdateTarget) (n : Option ℕ) (c : LifecycleController) :
    Run anyAdapter (LifecycleRunner.runCycle {} t) c (goodPlay t n c).1
      (.ofExcept (goodPlay t n c).2.1) (goodPlay t n c).2.2 := by
  refine Run.of_play goodAnswer_answers (fun m s s' hs' => ?_) _ 0 c
  rw [Option.mem_def] at hs'
  split_ifs at hs'
  exact ⟨.taint "operator", trivial, Option.some.inj hs'⟩

/-- A controller that has just committed its first target. -/
def bootstrapped : LifecycleController := runOps [.initialise (goodBootstrap identityA)]

theorem reachable_bootstrapped : Reachable bootstrapped := ⟨_, rfl⟩

/-! ## The outcome of a cycle -/

section Outcome

variable {r : LifecycleRunner} {t : UpdateTarget} {pt : CyclePoint} {tr : List CycleEvent}
  {c c' : LifecycleController}

theorem at_of_cycleFrom (hi : Inv c) (h : CycleFrom r anyAdapter t c pt tr c') :
    pt.At t c.currentTarget c' := by
  refine CyclePoint.At.of_trace ?_ h
  rintro tr s ⟨-, rfl⟩
  exact ⟨hi, rfl⟩

/-- The trace holds a resume that committed `t`. -/
def CommittedIn (t : UpdateTarget) (tr : List CycleEvent) : Prop :=
  ∃ e c₁ c₂, ctrlEvent (.confirmResumed e) (Except.ok ()) c₁ c₂ ∈ tr ∧ c₂.currentTarget = some t

theorem CommittedIn.mono {tr' : List CycleEvent} (h : CommittedIn t tr) (hsub : tr ⊆ tr') :
    CommittedIn t tr' := by
  obtain ⟨e, c₁, c₂, hmem, hcur⟩ := h
  exact ⟨e, c₁, c₂, hsub hmem, hcur⟩

/-- A cycle that got to its commit went through `confirm_resumed`. -/
theorem committedIn_of_trace (hi : Inv c) (h : CycleFrom r anyAdapter t c pt tr c')
    (hpt : pt.target t none = some t) : CommittedIn t tr := by
  induction h with
  | start => cases hpt
  | env _ _ ih => exact (ih hpt).mono (List.subset_append_left _ _)
  | exhausted => cases hpt
  | call h hstep ha ih =>
    cases hstep with
    | view => exact (ih hpt).mono (List.subset_append_left _ _)
    | commit => exact (ih rfl).mono (List.subset_append_left _ _)
    | resumed =>
      have hat := (at_of_cycleFrom hi h).step .resumed ha
      exact ⟨_, _, _, List.mem_append_right _ (List.mem_singleton_self _), hat.current⟩
    | _ => cases hpt

/-- A mutating adapter call raised an exception of foreign origin. -/
def ForeignFailure (tr : List CycleEvent) : Prop :=
  ∃ m e c₁ c₂, m.IsEffect ∧ e.isCore = false ∧ adapterEvent m (Except.error e) c₁ c₂ ∈ tr

/-- One raised an exception of foreign origin whose `repr` raised `raised`. -/
def UnprintedFailure (raised : PyExc) (tr : List CycleEvent) : Prop :=
  ∃ m e c₁ c₂, m.IsEffect ∧ e.isCore = false ∧ e.repr = .error raised ∧
    adapterEvent m (Except.error e) c₁ c₂ ∈ tr

theorem UnprintedFailure.mono {raised : PyExc} {tr' : List CycleEvent}
    (h : UnprintedFailure raised tr) (hsub : tr ⊆ tr') : UnprintedFailure raised tr' := by
  obtain ⟨m, e, c₁, c₂, hm, he, hr, hmem⟩ := h
  exact ⟨m, e, c₁, c₂, hm, he, hr, hsub hmem⟩

/-- A failing cycle stays so, and calls no more methods. -/
theorem CyclePoint.Failing.step (h : pt.Failing) {call : RunnerCall} {reply : call.Reply}
    {pt' : CyclePoint} (hstep : CycleStep t pt call reply pt') :
    pt'.Failing ∧ ∀ m, call ≠ .adapter m := by
  cases hstep with
  | view hv =>
    refine ⟨h, ?_⟩
    rintro m rfl
    exact hv
  | tainted => exact ⟨trivial, by simp⟩
  | refused => exact ⟨trivial, by simp⟩
  | failed hcall | ambiguous hcall | unprinted hcall => cases pt <;> cases hcall <;> exact h.elim
  | _ => exact h.elim

theorem failing_of_adapterError {m : AdapterCall} {e : PyExc} {c₁ c₂ : LifecycleController}
    (h : CycleFrom r anyAdapter t c pt tr c')
    (hmem : adapterEvent m (Except.error e) c₁ c₂ ∈ tr) : pt.Failing := by
  induction h with
  | start h =>
    obtain ⟨rfl, -⟩ := h
    cases hmem
  | env _ _ ih =>
    rcases List.mem_append.mp hmem with hmem | hmem
    · exact ih hmem
    · cases List.mem_singleton.mp hmem
  | exhausted => trivial
  | call _ hstep _ ih =>
    rcases List.mem_append.mp hmem with hmem | hmem
    · exact ((ih hmem).step hstep).1
    · cases List.mem_singleton.mp hmem
      cases hstep with
      | view hv => exact hv.elim
      | failed | ambiguous | unprinted => trivial

/-- At most one method raises in a cycle. -/
theorem adapterError_unique {m m' : AdapterCall} {e e' : PyExc}
    {c₁ c₂ c₃ c₄ : LifecycleController} (h : CycleFrom r anyAdapter t c pt tr c')
    (h₁ : adapterEvent m (Except.error e) c₁ c₂ ∈ tr)
    (h₂ : adapterEvent m' (Except.error e') c₃ c₄ ∈ tr) : m = m' := by
  induction h with
  | start h =>
    obtain ⟨rfl, -⟩ := h
    cases h₁
  | env _ _ ih =>
    rcases List.mem_append.mp h₁ with h₁ | h₁ <;> rcases List.mem_append.mp h₂ with h₂ | h₂
    · exact ih h₁ h₂
    · cases List.mem_singleton.mp h₂
    all_goals cases List.mem_singleton.mp h₁
  | exhausted _ ih => exact ih h₁ h₂
  | call h hstep _ ih =>
    rcases List.mem_append.mp h₁ with hold₁ | hnew₁ <;>
      rcases List.mem_append.mp h₂ with hold₂ | hnew₂
    · exact ih hold₁ hold₂
    · cases List.mem_singleton.mp hnew₂
      exact absurd rfl (((failing_of_adapterError h hold₁).step hstep).2 _)
    · cases List.mem_singleton.mp hnew₁
      exact absurd rfl (((failing_of_adapterError h hold₂).step hstep).2 _)
    · cases List.mem_singleton.mp hnew₁
      cases List.mem_singleton.mp hnew₂
      rfl

/-- A taint never raises. -/
theorem taint_returns {reason : String} {e : PyExc} :
    ¬ (Op.taint reason).Replies c (.error e) c' := by
  intro h
  have herr : (taintWith reason none).run c = .error e c' := h
  by_cases hs : c.state = .tainted
  · rw [taintWith_tainted hs] at herr
    cases herr
  · rw [taintWith_apply hs] at herr
    cases herr

theorem taint_answers (hi : Inv c) {reason : String} {e : RolloutCoreError}
    (ha : anyAdapter.answers (.ctrl (.taint reason)) c (Except.ok e) c') : c'.state = .tainted := by
  cases (ctrl_answers.mp ha).accepted hi with
  | taint => rfl
  | taintAgain hs => exact hs

/-- Where a foreign failure of a mutating call leaves a cycle: the exception was printed and the
cycle is about to taint, or has, or it was not and what `repr` raised has escaped. -/
def CyclePoint.AfterFailure (shown : Except PyExc String) (c : LifecycleController)
    (pt : CyclePoint) : Prop :=
  (∃ text, shown = .ok text) ∧
      ((∃ reason, pt = .tainting reason) ∨ (∃ e, pt = .raised e) ∧ c.state = .tainted) ∨
    ∃ raised, shown = .error raised ∧ pt = .raised raised

/-- **After a foreign failure of a mutating call.** -/
theorem afterFailure {m : AdapterCall} {e : PyExc} {c₁ c₂ : LifecycleController} (hi : Inv c)
    (h : CycleFrom r anyAdapter t c pt tr c') (hm : m.IsEffect) (he : e.isCore = false)
    (hmem : adapterEvent m (Except.error e) c₁ c₂ ∈ tr) : pt.AfterFailure e.repr c' := by
  induction h with
  | start h =>
    obtain ⟨rfl, -⟩ := h
    cases hmem
  | @env pt tr s s' h henv ih =>
    rcases List.mem_append.mp hmem with hmem | hmem
    · refine (ih hmem).imp_left fun ⟨hshown, hpt⟩ => ⟨hshown, hpt.imp_right fun ⟨hr, hs⟩ => ⟨hr, ?_⟩⟩
      obtain ⟨op, hop, rfl⟩ := henv
      rw [after_of_tainted (at_of_cycleFrom hi h).inv hs]
      exact hs
    · cases List.mem_singleton.mp hmem
  | exhausted h => exact (failing_of_adapterError h hmem).elim
  | call h hstep ha ih =>
    rcases List.mem_append.mp hmem with hold | hnew
    · have hpt := ih hold
      have hfailing := failing_of_adapterError h hold
      cases hstep with
      | view hv => rwa [view_answers hv ha]
      | tainted =>
        rcases hpt with ⟨hshown, -⟩ | ⟨raised, -, heq⟩
        · exact .inl ⟨hshown, .inr ⟨⟨_, rfl⟩, taint_answers (at_of_cycleFrom hi h).inv ha⟩⟩
        · cases heq
      | refused hcall =>
        rcases hpt with ⟨-, ⟨reason, rfl⟩ | ⟨⟨e', rfl⟩, -⟩⟩ | ⟨raised, -, rfl⟩ <;> cases hcall
        exact absurd ha taint_returns
      | failed hcall | ambiguous hcall | unprinted hcall =>
        rcases hpt with ⟨-, ⟨reason, rfl⟩ | ⟨⟨e', rfl⟩, -⟩⟩ | ⟨raised, -, rfl⟩ <;> cases hcall
      | _ => exact hfailing.elim
    · cases List.mem_singleton.mp hnew
      cases hstep with
      | view hv => exact hv.elim
      | failed _ hcore =>
        rw [hcore hm] at he
        cases he
      | ambiguous _ _ _ hr => exact .inl ⟨⟨_, hr⟩, .inl ⟨_, rfl⟩⟩
      | unprinted _ _ _ hr => exact .inr ⟨_, hr, rfl⟩

/-- An exception of foreign origin that ends a cycle is one that an observation raised, or the
`repr` of one that an effect raised. -/
theorem foreign_of_raised (hi : Inv c) {e : PyExc}
    (h : CycleFrom r anyAdapter t c (.raised e) tr c') (he : e.isCore = false) :
    (∃ m c₁ c₂, (m = .awaitDrain ∨ m = .validatePreResume t) ∧
      adapterEvent m (Except.error e) c₁ c₂ ∈ tr) ∨ UnprintedFailure e tr := by
  generalize hpt : CyclePoint.raised e = pt at h
  have hmono : ∀ {tr : List CycleEvent} {x : CycleEvent},
      ((∃ m c₁ c₂, (m = .awaitDrain ∨ m = .validatePreResume t) ∧
        adapterEvent m (Except.error e) c₁ c₂ ∈ tr) ∨ UnprintedFailure e tr) →
      (∃ m c₁ c₂, (m = .awaitDrain ∨ m = .validatePreResume t) ∧
        adapterEvent m (Except.error e) c₁ c₂ ∈ tr ++ [x]) ∨ UnprintedFailure e (tr ++ [x]) :=
    Or.imp (fun ⟨m, c₁, c₂, hm, hmem⟩ => ⟨m, c₁, c₂, hm, List.mem_append_left _ hmem⟩)
      fun hu => hu.mono (List.subset_append_left _ _)
  induction h with
  | start => cases hpt
  | env _ _ ih => exact hmono (ih hpt)
  | exhausted => cases hpt; cases he
  | @call pt _ _ _ _ _ _ h hstep ha ih =>
    cases hstep with
    | view => exact hmono (ih hpt)
    | refused =>
      cases hpt
      obtain ⟨hcore, -⟩ := ((ctrl_answers.mp ha).fails (at_of_cycleFrom hi h).inv).cases
      rw [hcore] at he
      cases he
    | @failed _ m _ hcall hcore =>
      cases hpt
      have hm : ¬ m.IsEffect := fun hm => by rw [hcore hm] at he; cases he
      refine .inl ⟨m, _, _, ?_, List.mem_append_right _ (List.mem_singleton_self _)⟩
      cases pt <;> cases hcall <;> simp [AdapterCall.IsEffect] at hm ⊢
    | @unprinted _ m e _ _ hm hcore hr =>
      cases hpt
      exact .inr ⟨m, e, _, _, hm, hcore, hr,
        List.mem_append_right _ (List.mem_singleton_self _)⟩
    | uncommitted => cases ha.1.trans (at_of_cycleFrom hi h).current
    | tainted => cases hpt; cases he
    | _ => cases hpt

end Outcome

/-- **A cycle fails closed, if exceptions can be printed.** For every adapter and every target, a run
of `run_cycle` that returns has committed the target through `confirm_resumed`; one that raises
leaves the committed target as it was and the controller outside READY. When a mutating adapter call
raised an exception of foreign origin the controller ends TAINTED, and such an exception escapes
only from an observation, as long as `repr` returns for those the mutating calls raise; where it
raises, what it raises is what escapes, and no observation raised it. Every run can be continued to
its end. -/
theorem fail_closed_cycle (r : LifecycleRunner) (t : UpdateTarget) (c : LifecycleController)
    (hc : Reachable c) {tr : List CycleEvent} {p : RunnerProg CycleResult}
    {c' : LifecycleController} (h : Run anyAdapter (r.runCycle t) c tr p c') :
    (∀ res, p = .pure res →
      res.committed = t ∧ c'.currentTarget = some t ∧ CommittedIn t tr) ∧
    (∀ e, p = .throw e → c'.currentTarget = c.currentTarget ∧ c'.state ≠ .ready) ∧
    ((∀ raised, ¬ UnprintedFailure raised tr) →
      (p.Ended → ForeignFailure tr → c'.state = .tainted) ∧
      ∀ e, p = .throw e → e.isCore = false →
        ∃ m c₁ c₂, (m = .awaitDrain ∨ m = .validatePreResume t) ∧
          adapterEvent m (Except.error e) c₁ c₂ ∈ tr) ∧
    (∀ raised, UnprintedFailure raised tr → p.Ended → p = .throw raised ∧
      ∀ m e c₁ c₂, (m = .awaitDrain ∨ m = .validatePreResume t) →
        adapterEvent m (Except.error e) c₁ c₂ ∉ tr) ∧
    ∃ tr' q c'', Run anyAdapter p c' tr' q c'' ∧ q.Ended := by
  obtain ⟨pt, htrace, hret, hraise⟩ := cycleFrom_of_run h
  have hat := at_of_cycleFrom hc.inv htrace
  refine ⟨fun res hp => ?_, fun e hp => ?_, fun hprinted => ⟨fun hend hf => ?_, fun e hp he => ?_⟩,
    fun raised hu hend => ?_, Run.completes anyAdapter_answers p c'⟩
  · obtain rfl := hret res hp
    have hres := hat.result _ rfl
    exact ⟨hres, hat.current, committedIn_of_trace hc.inv htrace rfl⟩
  · obtain rfl := hraise e hp
    exact ⟨hat.current, hat.failing trivial⟩
  · obtain ⟨m, e, c₁, c₂, hm, he, hmem⟩ := hf
    rcases afterFailure hc.inv htrace hm he hmem with ⟨-, ⟨reason, rfl⟩ | ⟨-, hs⟩⟩ | ⟨raised, hr, -⟩
    · cases hend with
      | pure res => cases hret res rfl
      | throw e => cases hraise e rfl
    · exact hs
    · exact absurd ⟨m, e, c₁, c₂, hm, he, hr, hmem⟩ (hprinted raised)
  · obtain rfl := hraise e hp
    exact (foreign_of_raised hc.inv htrace he).resolve_right (hprinted e)
  · obtain ⟨m, e, c₁, c₂, hm, he, hr, hmem⟩ := hu
    refine ⟨?_, fun m' e' c₃ c₄ hm' hmem' => ?_⟩
    · rcases afterFailure hc.inv htrace hm he hmem with ⟨⟨text, htext⟩, -⟩ | ⟨raised', hr', hpt⟩
      · cases htext.symm.trans hr
      · cases hr.symm.trans hr'
        cases hend with
        | pure res => cases (hret res rfl).symm.trans hpt
        | throw e => cases (hraise e rfl).symm.trans hpt; rfl
    · obtain rfl := adapterError_unique htrace hmem hmem'
      rcases hm' with rfl | rfl <;> exact hm

/-- An uneventful cycle commits its target. -/
theorem fail_closed_cycle_commits : ∃ res tr c',
    Run anyAdapter (LifecycleRunner.runCycle {} ⟨⟨1⟩, identityB⟩) bootstrapped tr (.pure res) c' ∧
      res.committed = ⟨⟨1⟩, identityB⟩ ∧ c'.currentTarget = some ⟨⟨1⟩, identityB⟩ := by
  have hok : (goodPlay ⟨⟨1⟩, identityB⟩ none bootstrapped).2.1.toBool = true := by decide +kernel
  have hrun := run_goodPlay ⟨⟨1⟩, identityB⟩ none bootstrapped
  cases hres : (goodPlay ⟨⟨1⟩, identityB⟩ none bootstrapped).2.1 with
  | error e => rw [hres] at hok; cases hok
  | ok res =>
    rw [hres] at hrun
    obtain ⟨hcommit, hcur, -⟩ := (fail_closed_cycle {} _ _ reachable_bootstrapped hrun).1 res rfl
    exact ⟨res, _, _, hrun, hcommit, hcur⟩

/-- An exception whose `__repr__` raises. -/
def lostHandle : PyExc := .unprintable "lost" (.other "gone" "RuntimeError('gone')")

/-- An engine on which nothing goes wrong, but `begin_drain` raises that exception. -/
def lostAnswer : (call : RunnerCall) → LifecycleController → call.Reply × LifecycleController
  | .adapter .beginDrain, c => (.error lostHandle, c)
  | call, c => goodAnswer call c

theorem lostAnswer_answers (call : RunnerCall) (c : LifecycleController) :
    anyAdapter.answers call c (lostAnswer call c).1 (lostAnswer call c).2 := by
  unfold lostAnswer
  split
  · rfl
  · exact goodAnswer_answers _ _

/-- The cycle over it. -/
def lostPlay : List CycleEvent × Except PyExc CycleResult × LifecycleController :=
  (LifecycleRunner.runCycle {} ⟨⟨1⟩, identityB⟩).play lostAnswer (fun _ _ => none) 0 bootstrapped

theorem run_lostPlay : Run anyAdapter (LifecycleRunner.runCycle {} ⟨⟨1⟩, identityB⟩) bootstrapped
    lostPlay.1 (.ofExcept lostPlay.2.1) lostPlay.2.2 :=
  Run.of_play lostAnswer_answers (fun _ _ _ h => by cases h) _ 0 _

/-- The drain raises that exception. -/
def lostDrain : CycleEvent → Bool
  | .call (.adapter .beginDrain) (.error e) _ _ => e = lostHandle
  | _ => false

theorem foreignFailure_of_lostDrain {tr : List CycleEvent} (h : tr.any lostDrain = true) :
    ForeignFailure tr := by
  obtain ⟨x, hmem, hx⟩ := List.any_eq_true.mp h
  unfold lostDrain at hx
  split at hx
  · rw [of_decide_eq_true hx] at hmem
    exact ⟨.beginDrain, lostHandle, _, _, trivial, rfl, hmem⟩
  · cases hx

/-- The drain has begun, and the controller is left DRAINING. -/
theorem fail_closed_cycle_unprinted : ¬ ∀ (r : LifecycleRunner) (t : UpdateTarget)
    (c : LifecycleController), Reachable c → c.state = .ready → ∀ tr p c',
      Run anyAdapter (r.runCycle t) c tr p c' → p.Ended → ForeignFailure tr →
        c'.state = .tainted := by
  intro hclaim
  have hfailed : lostPlay.1.any lostDrain = true := by decide +kernel
  have hstate : lostPlay.2.2.state = .draining := by decide +kernel
  have htainted := hclaim {} _ _ reachable_bootstrapped (by decide) _ _ _ run_lostPlay
    (Prog.ended_ofExcept _) (foreignFailure_of_lostDrain hfailed)
  rw [hstate] at htainted
  cases htainted

end RolloutCore
