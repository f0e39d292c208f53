import RolloutCore.FakeGuarantees

/-!
# What a refused request has cost

A request the controller is going to refuse: a bootstrap of a controller that is not new, and a
cycle whose target is not newer. Both have called the adapter by the time they are refused.
-/

namespace RolloutCore

open LifecycleController CallOutcome

/-! ## Bootstrap -/

section Bootstrap

variable {c c' : LifecycleController} {op : Op} {calls : List AdapterCall}

theorem ne_uninitialized_of_replies {reply : Except PyExc op.Ret} (hi : Inv c)
    (hs : c.state ≠ .uninitialized) (h : op.Replies c reply c') : c'.state ≠ .uninitialized := by
  rw [← h.after]
  exact after_ne_uninitialized hi hs op

/-- A controller that is not new, after the adapter calls `calls`. -/
def underway (calls : List AdapterCall) : Assertion anyAdapter where
  holds tr c := (Inv c ∧ c.state ≠ .uninitialized) ∧ adapterCalls tr = calls
  stable := by
    rintro tr c c' ⟨⟨hi, hs⟩, hcalls⟩ ⟨op, hop, rfl⟩
    refine ⟨⟨inv_after hi op, after_ne_uninitialized hi hs op⟩, ?_⟩
    rw [adapterCalls_append, hcalls]
    exact List.append_nil calls

/-- A controller that is not new. -/
def notNew : Assertion anyAdapter where
  holds tr c := ∃ calls, underway calls tr c
  stable := fun ⟨calls, h⟩ he => ⟨calls, (underway calls).stable h he⟩

theorem underway_le : underway calls ≤ notNew := fun _ _ h => ⟨calls, h⟩

/-- A program that only raises, with the adapter calls `calls` made. -/
abbrev Raises {α : Type} (before : List AdapterCall) (p : RunnerProg α)
    (after : List AdapterCall) : Prop :=
  Triple notNew (underway before) p (fun _ => ⟨fun _ _ => False, fun h _ => h⟩)
    (fun _ => underway after)

theorem raises_ctrl (hop : ∀ (c c' : LifecycleController) (r : op.Ret), c.state ≠ .uninitialized →
    ¬ Accepted op c r c') : Raises calls (LifecycleRunner.ctrl op) calls := by
  refine Triple.bind (Q := fun reply : Except PyExc op.Ret =>
    ⟨fun tr c => underway calls tr c ∧ ∃ e, reply = .error e,
      fun h he => ⟨(underway calls).stable h.1 he, h.2⟩⟩)
    (Triple.op underway_le fun tr c reply c' h ha => ?_) fun reply => ?_
  · obtain ⟨⟨hi, hs⟩, hcalls⟩ := h
    have hreply : op.Replies c reply c' := ha
    have hcalls' : adapterCalls (tr ++ [.call (.ctrl op) reply c c']) = calls := by
      rw [adapterCalls_append, hcalls]
      exact List.append_nil calls
    cases reply with
    | ok r => exact absurd (hreply.accepted hi) (hop _ _ r hs)
    | error e =>
      have hnext : underway calls (tr ++ [.call (.ctrl op) (Except.error e) c c']) c' :=
        ⟨⟨hreply.inv hi, ne_uninitialized_of_replies hi hs hreply⟩, hcalls'⟩
      exact ⟨underway_le _ _ hnext, hnext, e, rfl⟩
  · rintro tr c ⟨h, e, rfl⟩
    exact ⟨underway_le _ _ h, h⟩

theorem raises_raiseTaint {α : Type} {reason : String} :
    Raises calls (LifecycleRunner.raiseTaint reason : RunnerProg α) calls := by
  refine Triple.bind (Q := fun _ => underway calls)
    (Triple.bind (Q := fun _ => underway calls)
      (Triple.op underway_le fun tr c reply c' h ha => ?_) fun reply => ?_)
    fun e => Triple.throw underway_le (Assertion.le_refl _)
  · obtain ⟨⟨hi, hs⟩, hcalls⟩ := h
    have hreply : (Op.taint reason).Replies c reply c' := ha
    have hnext : underway calls (tr ++ [.call (.ctrl (.taint reason)) reply c c']) c' := by
      refine ⟨⟨hreply.inv hi, ne_uninitialized_of_replies hi hs hreply⟩, ?_⟩
      rw [adapterCalls_append, hcalls]
      exact List.append_nil calls
    exact ⟨underway_le _ _ hnext, hnext⟩
  · cases reply with
    | ok e => exact Triple.pure underway_le (Assertion.le_refl _)
    | error e => exact Triple.throw underway_le (Assertion.le_refl _)

/-- **The adapter comes first**: a bootstrap of a controller that is not new raises, after one call
of the adapter. -/
theorem raises_bootstrap : Raises [] LifecycleRunner.bootstrap [.bootstrap] := by
  refine Triple.bind (Q := fun _ => underway [.bootstrap]) ?_ fun evidence => ?_
  · refine Triple.bind (Q := fun _ => underway [.bootstrap])
      (Triple.op underway_le fun tr c reply c' h ha => ?_) fun reply => ?_
    · obtain rfl : c' = c := ha
      have hnext : underway [.bootstrap]
          (tr ++ [.call (.adapter .bootstrap) reply c' c']) c' := by
        refine ⟨h.1, ?_⟩
        rw [adapterCalls_append, h.2]
        rfl
      exact ⟨underway_le _ _ hnext, hnext⟩
    · cases reply with
      | ok e => exact Triple.pure underway_le (Assertion.le_refl _)
      | error e =>
        dsimp only
        split_ifs
        · exact Triple.throw underway_le (Assertion.le_refl _)
        · cases e.repr with
          | error raised => exact Triple.throw underway_le (Assertion.le_refl _)
          | ok shown =>
            intro tr c h
            exact (raises_raiseTaint tr c h).mono (fun _ _ _ hf => hf.elim)
              fun e => Assertion.le_refl _
  · refine raises_ctrl fun c c' r hs ha => ?_
    cases ha with
    | initialise hu => exact hs hu

end Bootstrap

/-! ## A cycle with an old target -/

section Cycle

variable {r : LifecycleRunner} {t t₀ : UpdateTarget} {pt pt' : CyclePoint}
  {tr : List CycleEvent} {c c' : LifecycleController} {calls : List AdapterCall}

/-- How far a cycle with an old target gets: the pause has been called for when the target is
looked at. -/
def CyclePoint.PausedFirst (calls : List AdapterCall) : CyclePoint → Prop
  | .start | .begun => True
  | .raised e => (∃ i d, e = .core (.invariantViolation i d)) → .beginDrain ∈ calls
  | .draining | .polled _ | .quiesced | .tainting _ => .beginDrain ∈ calls
  | _ => False

theorem CyclePoint.PausedFirst.mono (h : pt.PausedFirst calls) {more : List AdapterCall} :
    pt.PausedFirst (calls ++ more) := by
  cases pt <;> first
    | trivial
    | exact h.elim
    | exact List.mem_append_left _ h
    | exact fun he => List.mem_append_left _ (h he)

theorem beginDrain_refusal (hi : Inv c) {e : PyExc}
    (h : Op.beginDrain.Replies c (.error e) c') :
    ¬ ∃ i d, e = .core (.invariantViolation i d) := by
  have hs : c.state ≠ .ready := fun hs => beginDrain_succeeds hi hs h
  have hillegal : LEGAL_TRANSITIONS c.state .beginDrain = none := by
    unfold LEGAL_TRANSITIONS
    split <;> simp_all
  have hrefused : (requireLegal .beginDrain).run c =
      .error (.core (.illegalTransition c.state (.event .beginDrain) "")) c := by
    unfold requireLegal
    rw [bind_of_ok run_get, hillegal]
    rfl
  have herr : LifecycleController.beginDrain.run c = .error e c' := h
  unfold LifecycleController.beginDrain at herr
  rw [bind_of_error hrefused] at herr
  cases herr
  simp

/-- **Every call keeps it**: no update begins towards a target that is not newer. -/
theorem CyclePoint.PausedFirst.step (h : pt.PausedFirst calls) (hat : pt.At t (some t₀) c)
    (hle : ¬ t₀.version < t.version) {call : RunnerCall} {reply : call.Reply}
    (hstep : CycleStep t pt call reply pt') (ha : anyAdapter.answers call c reply c') :
    pt'.PausedFirst (calls ++ adapterCalls [.call call reply c c']) := by
  cases hstep with
  | view => exact h.mono
  | beginDrain => trivial
  | pause => exact List.mem_append_right _ (List.mem_singleton_self _)
  | poll | notYet | drained => exact List.mem_append_left _ h
  | beginUpdate =>
    cases (ctrl_answers.mp ha).accepted hat.inv with
    | beginUpdate hs ht hlt =>
      cases ht.symm.trans hat.current
      exact absurd hlt hle
  | refused hcall =>
    cases pt <;> cases hcall
    case start.refl =>
      exact fun he => absurd he (beginDrain_refusal hat.inv (ctrl_answers.mp ha))
    case polled.refl => exact fun _ => List.mem_append_left _ h
    case quiesced.refl => exact fun _ => List.mem_append_left _ h
    case tainting.refl => exact fun _ => List.mem_append_left _ h
    all_goals exact h.elim
  | failed hcall | unprinted hcall =>
    cases pt <;> cases hcall
    case begun.refl => exact fun _ => List.mem_append_right _ (List.mem_singleton_self _)
    case draining.refl => exact fun _ => List.mem_append_left _ h
    all_goals exact h.elim
  | ambiguous hcall =>
    cases pt <;> cases hcall
    case begun.refl => exact List.mem_append_right _ (List.mem_singleton_self _)
    case draining.refl => exact List.mem_append_left _ h
    all_goals exact h.elim
  | tainted => exact fun _ => List.mem_append_left _ h
  | _ => exact h.elim

theorem pausedFirst_of_trace (hi : Inv c) (ht : c.currentTarget = some t₀)
    (hle : ¬ t₀.version < t.version) (h : CycleFrom r anyAdapter t c pt tr c') :
    pt.PausedFirst (adapterCalls tr) := by
  induction h with
  | start => trivial
  | env _ _ ih =>
    rw [adapterCalls_append]
    exact ih.mono
  | call h hstep ha ih =>
    rw [adapterCalls_append]
    have hat := at_of_cycleFrom hi h
    rw [ht] at hat
    exact ih.step hat hle hstep ha
  | exhausted _ ih => exact fun _ => ih

end Cycle

/-! ## Computed runs -/

/-- An engine that cannot be initialized for a transfer, under a new controller. -/
def faultySystem : FakeSystem :=
  ⟨.init, { weightIdentity := some identityA,
            faults := OrderedDict.empty.insert "init_weight_transfer_engine" "no peers" }, false⟩

/-- What a failed bootstrap of it leaves, once the fault is gone. -/
def recoveredSystem : FakeSystem :=
  let s := (fakePlay .bootstrap faultySystem).2.2
  { s with engine := s.engine.disturbed .empty 0 true false false false }

theorem session_recoveredSystem : Session fakeWorld (LifecycleRunner.serveOver {} {}) faultySystem
    [(.bootstrap, (fakePlay .bootstrap faultySystem).1)] recoveredSystem :=
  (Session.nil.request (run_fakePlay .bootstrap faultySystem) (Prog.ended_ofExcept _)).env
    (.inr ⟨_, _, _, _, _, _, rfl⟩)

theorem recoveredSystem_tainted : Reachable recoveredSystem.controller ∧
    recoveredSystem.controller.state = .tainted ∧
    recoveredSystem.engine.weightVersion = "default" := by
  have hops : recoveredSystem.controller = runOps [.taint ("bootstrap failed with an unknown " ++
      "engine outcome: FakeEngineError('no peers')")] ∧
      recoveredSystem.controller.state = .tainted ∧
      recoveredSystem.engine.weightVersion = "default" := by
    decide +kernel
  exact ⟨⟨_, hops.1.symm⟩, hops.2⟩

/-- A bootstrap over an adapter on which nothing goes wrong. -/
def bootstrapPlay (c : LifecycleController) :
    List CycleEvent × Except PyExc Unit × LifecycleController :=
  LifecycleRunner.bootstrap.play goodAnswer (fun _ _ => none) 0 c

theorem run_bootstrapPlay (c : LifecycleController) :
    Run anyAdapter LifecycleRunner.bootstrap c (bootstrapPlay c).1
      (.ofExcept (bootstrapPlay c).2.1) (bootstrapPlay c).2.2 :=
  Run.of_play goodAnswer_answers (fun _ _ s' h => by cases h) _ 0 c

/-! ## Never before the effect -/

/-- The call raised without a call of the adapter. -/
def RefusedUnseen {α : Type} (tr : List CycleEvent) (p : RunnerProg α) : Prop :=
  (∃ e, p = .throw e) ∧ adapterCalls tr = []

/-- **A late bootstrap reaches the engine.** A bootstrap of a controller that is not UNINITIALIZED
raises in every run, with any adapter and any other callers, and in every run it has called the
adapter's bootstrap by then. -/
theorem bootstrap_refused_late {c : LifecycleController} (hc : Reachable c)
    (hs : c.state ≠ .uninitialized) {tr : List CycleEvent} {p : RunnerProg Unit}
    {c' : LifecycleController} (h : Run anyAdapter LifecycleRunner.bootstrap c tr p c')
    (hend : p.Ended) :
    ¬ RefusedUnseen tr p ∧ (∃ e, p = .throw e) ∧ adapterCalls tr = [.bootstrap] := by
  have hsafe := (raises_bootstrap [] c ⟨⟨hc.inv, hs⟩, rfl⟩).run h
  rw [List.nil_append] at hsafe
  have hraised : (∃ e, p = .throw e) ∧ adapterCalls tr = [.bootstrap] := by
    cases hend with
    | pure u => exact hsafe.2.elim
    | throw e => exact ⟨⟨e, rfl⟩, hsafe.2.2⟩
  refine ⟨?_, hraised⟩
  rintro ⟨-, hno⟩
  cases hno.symm.trans hraised.2

theorem bootstrap_refused_late_tainted : ∃ tr p c',
    Run anyAdapter LifecycleRunner.bootstrap recoveredSystem.controller tr p c' ∧ p.Ended ∧
      (∃ e, p = .throw e) ∧ adapterCalls tr = [.bootstrap] := by
  obtain ⟨hc, hs, -⟩ := recoveredSystem_tainted
  have hrun := run_bootstrapPlay recoveredSystem.controller
  have hend : (Prog.ofExcept (bootstrapPlay recoveredSystem.controller).2.1 :
      RunnerProg Unit).Ended := Prog.ended_ofExcept _
  have hne : recoveredSystem.controller.state ≠ .uninitialized := by simp [hs]
  exact ⟨_, _, _, hrun, hend, (bootstrap_refused_late hc hne hrun hend).2⟩

/-- After a bootstrap that failed, a second one raises `IllegalTransitionError` and has written
`rc-0` to the engine and initialized its transfer by then. -/
theorem tainted_controller_seeds : (¬ ∀ c : LifecycleController, Reachable c →
      c.state ≠ .uninitialized → ∀ tr p c', Run anyAdapter LifecycleRunner.bootstrap c tr p c' →
        p.Ended → RefusedUnseen tr p) ∧
    Session fakeWorld (LifecycleRunner.serveOver {} {}) faultySystem
      [(.bootstrap, (fakePlay .bootstrap faultySystem).1)] recoveredSystem ∧
    recoveredSystem.controller.state = .tainted ∧
    recoveredSystem.engine.weightVersion = "default" ∧
    ∃ tr p s, Run fakeWorld (LifecycleRunner.serveOver {} {} .bootstrap) recoveredSystem tr p s ∧
      p.Ended ∧ s.controller = recoveredSystem.controller ∧ s.engine.weightVersion = "rc-0" ∧
      s.engine.weightTransferInitialised = true := by
  obtain ⟨hc, hs, hlabel⟩ := recoveredSystem_tainted
  refine ⟨fun hall => ?_, session_recoveredSystem, hs, hlabel, ?_⟩
  · have hcalls : (adapterCalls (bootstrapPlay recoveredSystem.controller).1).length = 1 := by
      decide +kernel
    obtain ⟨-, hno⟩ := hall _ hc (by simp [hs]) _ _ _ (run_bootstrapPlay _) (Prog.ended_ofExcept _)
    rw [hno] at hcalls
    cases hcalls
  · have hseeded : (fakePlay .bootstrap recoveredSystem).2.2.controller =
        recoveredSystem.controller ∧
        (fakePlay .bootstrap recoveredSystem).2.2.engine.weightVersion = "rc-0" ∧
        (fakePlay .bootstrap recoveredSystem).2.2.engine.weightTransferInitialised = true := by
      decide +kernel
    exact ⟨_, _, _, run_fakePlay _ _, Prog.ended_ofExcept _, hseeded⟩

/-- The cycle raised I1-MONOTONIC, with the controller as it was and no call of the adapter. -/
def RejectedUntouched (c : LifecycleController) (tr : List CycleEvent)
    (p : RunnerProg CycleResult) (c' : LifecycleController) : Prop :=
  (∃ d, p = .throw (.core (.invariantViolation "I1-MONOTONIC" d))) ∧ c' = c ∧ adapterCalls tr = []

/-- **A rejected target costs the drain.** A cycle of a READY controller whose target is not newer
than the committed one raises in every run, and never with the controller as it was: where it
raises I1-MONOTONIC the engine has been told to pause, and the controller has left READY. -/
theorem target_rejected_late (r : LifecycleRunner) {c : LifecycleController} (hc : Reachable c)
    (hs : c.state = .ready) {t t₀ : UpdateTarget} (ht : c.currentTarget = some t₀)
    (hle : ¬ t₀.version < t.version) {tr : List CycleEvent} {p : RunnerProg CycleResult}
    {c' : LifecycleController} (h : Run anyAdapter (r.runCycle t) c tr p c') (hend : p.Ended) :
    ¬ RejectedUntouched c tr p c' ∧ (∃ e, p = .throw e) ∧ c'.state ≠ .ready ∧
      ∀ d, p = .throw (.core (.invariantViolation "I1-MONOTONIC" d)) →
        .beginDrain ∈ adapterCalls tr := by
  obtain ⟨pt, htrace, hret, hraise⟩ := cycleFrom_of_run h
  have hpaused := pausedFirst_of_trace hc.inv ht hle htrace
  have hat := at_of_cycleFrom hc.inv htrace
  cases hend with
  | pure res =>
    obtain rfl := hret res rfl
    exact hpaused.elim
  | throw e =>
    obtain rfl := hraise e rfl
    have hne : c'.state ≠ .ready := hat.failing trivial
    refine ⟨?_, ⟨e, rfl⟩, hne, ?_⟩
    · rintro ⟨-, rfl, -⟩
      exact hne hs
    · rintro d heq
      cases heq
      exact hpaused ⟨_, d, rfl⟩

/-- A cycle that is to install the committed version again, on an engine on which nothing goes
wrong: the target is rejected. -/
theorem target_rejected_late_same_version : ∃ tr p c',
    Run anyAdapter (LifecycleRunner.runCycle {} ⟨⟨0⟩, identityB⟩) bootstrapped tr p c' ∧
      (∃ d, p = .throw (.core (.invariantViolation "I1-MONOTONIC" d))) ∧
      .beginDrain ∈ adapterCalls tr ∧ c'.state ≠ .ready := by
  have hres : (goodPlay ⟨⟨0⟩, identityB⟩ none bootstrapped).2.1 =
      .error (.core (.invariantViolation "I1-MONOTONIC"
        "target version 'rc-0' must be greater than committed 'rc-0'")) := rfl
  have hrun := run_goodPlay ⟨⟨0⟩, identityB⟩ none bootstrapped
  rw [hres] at hrun
  have hcur : bootstrapped.currentTarget = some ⟨⟨0⟩, identityA⟩ := by decide
  obtain ⟨-, -, hs, hpaused⟩ := target_rejected_late {} reachable_bootstrapped (by decide) hcur
    (by decide) hrun (.throw _)
  exact ⟨_, _, _, hrun, ⟨_, rfl⟩, hpaused _ rfl, hs⟩

/-- The rejection leaves a paused engine behind a QUIESCED controller, after a drain. -/
theorem rejected_after_drain : (¬ ∀ (r : LifecycleRunner) (c : LifecycleController), Reachable c →
      c.state = .ready → ∀ t t₀, c.currentTarget = some t₀ → ¬ t₀.version < t.version →
        ∀ tr p c', Run anyAdapter (r.runCycle t) c tr p c' → p.Ended →
          RejectedUntouched c tr p c') ∧
    (adapterCalls (goodPlay ⟨⟨0⟩, identityB⟩ none bootstrapped).1).length = 2 ∧
    (goodPlay ⟨⟨0⟩, identityB⟩ none bootstrapped).2.2.state = .quiesced := by
  have hplay : (adapterCalls (goodPlay ⟨⟨0⟩, identityB⟩ none bootstrapped).1).length = 2 ∧
      (goodPlay ⟨⟨0⟩, identityB⟩ none bootstrapped).2.2.state = .quiesced := by
    decide +kernel
  refine ⟨fun hall => ?_, hplay⟩
  obtain ⟨-, -, hno⟩ := hall {} bootstrapped reachable_bootstrapped (by decide) ⟨⟨0⟩, identityB⟩
    ⟨⟨0⟩, identityA⟩ (by decide) (by decide) _ _ _ (run_goodPlay _ none _) (Prog.ended_ofExcept _)
  rw [hno] at hplay
  cases hplay.1

end RolloutCore
