import RolloutCore.CycleTranscript

/-!
# Deployments that move no tensors

The lifecycle-only driver cannot install weights, and the HTTP adapter refuses `start_weight_update`
for it. The controller would take any evidence of an update, whatever its bootstrap said of the
driver; behind this adapter it is never offered one, so such a deployment stays at `rc-0`.
-/

namespace RolloutCore

open LifecycleController Prog

/-! ## Controllers without an update -/

/-- Nothing but `rc-0` has been committed, and no transfer has been confirmed. -/
structure LifecycleController.Unpublished (c : LifecycleController) : Prop where
  inv : Inv c
  initial : ∀ t ∈ c.currentTarget, t.version = ⟨INITIAL_VERSION⟩
  before : c.state ≠ .invalidating ∧ c.state ≠ .validating ∧ c.state ≠ .resuming

section Unpublished

variable {c c' : LifecycleController}

/-- Only a confirmed transfer leads to an update. -/
theorem LifecycleController.Unpublished.after (h : c.Unpublished) {op : Op}
    (hop : ∀ e, op ≠ .confirmUpdated e) : (op.after c).Unpublished := by
  have hi := inv_after h.inv op
  obtain ⟨c', hc, he⟩ := op.effect h.inv
  rw [hc] at hi ⊢
  cases he with
  | rejected _ _ heq => exact heq ▸ h
  | tainted _ _ _ heq =>
    subst heq
    exact ⟨hi, h.initial, by simp⟩
  | accepted _ ha =>
    cases ha with
    | initialise => exact ⟨hi, by simp, by simp⟩
    | beginDrain | confirmDrained | beginUpdate | taint => exact ⟨hi, h.initial, by simp⟩
    | confirmUpdated => exact absurd rfl (hop _)
    | confirmInvalidated hs => exact absurd hs h.before.1
    | confirmValidated hs => exact absurd hs h.before.2.1
    | confirmResumed hs => exact absurd hs h.before.2.2
    | taintAgain | nextTarget | admitRollout | finishRollout | abortRollout =>
      exact ⟨hi, h.initial, h.before⟩

theorem LifecycleController.Unpublished.env (h : c.Unpublished) (he : anyAdapter.env c c') :
    c'.Unpublished := by
  obtain ⟨op, hop, rfl⟩ := he
  refine h.after fun e hop' => ?_
  subst hop'
  exact hop

theorem LifecycleController.Unpublished.answers (h : c.Unpublished) {call : RunnerCall}
    {reply : call.Reply} (hcall : ∀ e, call ≠ .ctrl (.confirmUpdated e))
    (ha : anyAdapter.answers call c reply c') : c'.Unpublished := by
  cases call with
  | ctrl op =>
    rw [← (ctrl_answers.mp ha).after]
    exact h.after fun e he => hcall e (congrArg _ he)
  | state | currentTarget =>
    obtain ⟨-, rfl⟩ := ha
    exact h
  | adapter | monotonic | sleep =>
    obtain rfl : c' = c := ha
    exact h

end Unpublished

/-! ## Assertions -/

/-- The call is one of the runner, or of a method that touches neither weights nor caches and
resumes nothing. -/
def HttpCall.ControlPlane (a : HttpVLLMAdapter) (call : HttpCall) : Prop :=
  (∃ rc, call = .runner rc) ∨
    a.Makes .bootstrap call ∨ a.Makes .beginDrain call ∨ a.Makes .awaitDrain call

def HttpEvent.ControlPlane (a : HttpVLLMAdapter) : HttpEvent → Prop
  | .env _ _ => True
  | .call call _ _ _ => call.ControlPlane a

/-- The points of a cycle from the opened update on. -/
def CyclePoint.Beyond : CyclePoint → Prop
  | .opened | .staged _ | .invalidating | .reset _ | .validating | .validated _ | .resuming
  | .resumed _ | .committed | .returned _ => True
  | _ => False

section Assertions

variable {a : HttpVLLMAdapter} {allowed : DrainSystem → ℕ → Prop}

/-- Nothing but the control plane so far, nothing published, and `P`. -/
def unpublished (a : HttpVLLMAdapter) (allowed : DrainSystem → ℕ → Prop) (P : Prop) :
    Assertion (httpWorld a allowed) where
  holds tr s := (∀ e ∈ tr, HttpEvent.ControlPlane a e) ∧ s.controller.Unpublished ∧ P
  stable := by
    rintro tr s s' ⟨htr, hs, hP⟩ he
    refine ⟨fun e hmem => ?_, ?_, hP⟩
    · rcases List.mem_append.mp hmem with hmem | hmem
      · exact htr e hmem
      · rw [List.mem_singleton.mp hmem]
        trivial
    · rcases he with ⟨c', hc, rfl⟩ | ⟨d, -, rfl⟩
      · exact hs.env hc
      · exact hs

theorem unpublished_le {P Q : Prop} (h : P → Q) :
    unpublished a allowed P ≤ unpublished a allowed Q :=
  fun _ _ hs => ⟨hs.1, hs.2.1, h hs.2.2⟩

theorem unpublished_call {P : Prop} {call : HttpCall} {reply : call.Reply} {tr : List HttpEvent}
    {s s' : HttpSystem} (h : unpublished a allowed P tr s) (hcall : call.ControlPlane a)
    (hs : s'.controller.Unpublished) :
    unpublished a allowed P (tr ++ [.call call reply s s']) s' := by
  refine ⟨fun e hmem => ?_, hs, h.2.2⟩
  rcases List.mem_append.mp hmem with hmem | hmem
  · exact h.1 e hmem
  · rw [List.mem_singleton.mp hmem]
    exact hcall

theorem unpublished_method (J : JsonModule) {m : AdapterCall} {P : Prop}
    (hm : m = .bootstrap ∨ m = .beginDrain ∨ m = .awaitDrain) :
    Triple (unpublished a allowed True) (unpublished a allowed P) (a.method J m)
      (fun _ => unpublished a allowed P) (fun _ => unpublished a allowed P) := by
  refine (a.performs_method J m).triple (unpublished_le fun _ => trivial)
    fun call hcall tr s reply s' hs ha => ?_
  refine unpublished_call hs (.inr ?_) ?_
  · rcases hm with rfl | rfl | rfl
    · exact .inl hcall
    · exact .inr (.inl hcall)
    · exact .inr (.inr hcall)
  · rw [controller_of_httpAnswers ha fun _ => hcall.ne_runner]
    exact hs.2.1

theorem unpublished_runner {call : RunnerCall} {P : Prop} {tr : List HttpEvent} {s s' : HttpSystem}
    {reply : call.Reply} (h : unpublished a allowed P tr s)
    (hcall : ∀ e, call ≠ .ctrl (.confirmUpdated e))
    (ha : (httpWorld a allowed).answers (.runner call) s reply s') :
    unpublished a allowed P (tr ++ [.call (.runner call) reply s s']) s' := by
  refine unpublished_call h (.inl ⟨call, rfl⟩) ?_
  obtain ⟨c', hc, rfl⟩ := ha
  exact h.2.1.answers hcall hc

end Assertions

/-! ## Cycles -/

section Cycles

variable {a : HttpVLLMAdapter} {allowed : DrainSystem → ℕ → Prop} {t : UpdateTarget}
  {pt pt' : CyclePoint}

/-- What holds at a point: from the opened update on, nothing. -/
abbrev unpublishedAt (a : HttpVLLMAdapter) (allowed : DrainSystem → ℕ → Prop) (pt : CyclePoint) :
    Assertion (httpWorld a allowed) :=
  unpublished a allowed (¬ pt.Beyond)

/-- The only way beyond is an update that was opened. -/
theorem CycleStep.beyond {call : RunnerCall} {reply : call.Reply}
    (hstep : CycleStep t pt call reply pt') (h : pt'.Beyond) :
    pt.Beyond ∨ call = .adapter (.startWeightUpdate t) := by
  cases hstep with
  | view => exact .inl h
  | startUpdate => exact .inr rfl
  | transfer | updated | invalidate | invalidated | validate | validated | resume | resumed
  | commit => exact .inl trivial
  | _ => exact h.elim

theorem unpublished_step {call : RunnerCall} (hadapter : ∀ m, call ≠ .adapter m)
    (hcall : ∀ e, call = .ctrl (.confirmUpdated e) → pt.Beyond) {E : PyExc → Assertion _} :
    Triple (unpublished a allowed True) (unpublishedAt a allowed pt)
      (Prog.op (HttpCall.runner call)) (stepped t (unpublishedAt a allowed) pt call) E := by
  refine Triple.op (unpublished_le fun _ => trivial) fun tr s reply s' hs ha => ?_
  have hpost := unpublished_runner hs (fun e he => hs.2.2 (hcall e he)) ha
  refine ⟨unpublished_le (fun _ => trivial) _ _ hpost, fun pt' hstep => ?_⟩
  refine ⟨hpost.1, hpost.2.1, fun hb => ?_⟩
  rcases hstep.beyond hb with hb | he
  · exact hpost.2.2 hb
  · exact hadapter _ he

/-- The methods of a cycle: those before the update, the refused one, and those never reached. -/
theorem unpublished_adapter (J : JsonModule) (hmove : a.driver.movesTensors = false)
    {m : AdapterCall} (hcall : pt.call? t = some (.adapter m)) :
    Triple (unpublished a allowed True) (unpublishedAt a allowed pt) (a.method J m).attempt
      (stepped t (unpublishedAt a allowed) pt (.adapter m))
      fun e => unpublishedAt a allowed (.raised e) := by
  have hdrain : m = .beginDrain ∨ m = .awaitDrain → Triple (unpublished a allowed True)
      (unpublishedAt a allowed pt) (a.method J m).attempt
      (stepped t (unpublishedAt a allowed) pt (.adapter m))
      fun e => unpublishedAt a allowed (.raised e) := by
    intro hm
    have hkeep : ∀ reply, unpublished a allowed (¬ pt.Beyond) ≤
        stepped t (unpublishedAt a allowed) pt (.adapter m) reply := by
      intro reply tr s hs pt' hstep
      refine ⟨hs.1, hs.2.1, fun hb => ?_⟩
      rcases hstep.beyond hb with hb | he
      · exact hs.2.2 hb
      · cases he
        rcases hm with hm | hm <;> cases hm
    exact fun tr s hs => Safe.attempt ((unpublished_method J (.inr hm) tr s hs).mono
      (fun r => hkeep (.ok r)) fun e => hkeep (.error e))
  cases pt with
  | begun => cases hcall; exact hdrain (.inl rfl)
  | draining => cases hcall; exact hdrain (.inr rfl)
  | updating =>
    cases hcall
    show Triple _ _ (a.startWeightUpdate t).attempt _ _
    unfold HttpVLLMAdapter.startWeightUpdate
    rw [hmove]
    refine Triple.pure (unpublished_le fun _ => trivial) fun tr s hs pt' hstep => ?_
    cases hstep with
    | view hv => exact hv.elim
    | failed | ambiguous | unprinted => exact ⟨hs.1, hs.2.1, id⟩
  | opened | invalidating | validating | resuming => exact fun tr s hs => absurd trivial hs.2.2
  | _ => cases hcall

theorem unpublished_annotated (J : JsonModule) (r : LifecycleRunner)
    (hmove : a.driver.movesTensors = false) (t : UpdateTarget) :
    Annotated r t (a.handle J) (unpublished a allowed True) (unpublishedAt a allowed) where
  inv _ := unpublished_le fun _ => trivial
  view pt call hv := by
    cases call with
    | state | monotonic | sleep => exact unpublished_step (by simp) (by simp)
    | _ => exact hv.elim
  call pt call hcall := by
    cases call with
    | adapter m => exact unpublished_adapter J hmove hcall
    | ctrl op =>
      refine unpublished_step (by simp) fun e he => ?_
      cases he
      cases pt <;> cases hcall
      trivial
    | _ => exact unpublished_step (by simp) (by simp)
  exhausted := unpublished_le id

end Cycles

/-! ## Sessions -/

section Sessions

variable {J : JsonModule} {a : HttpVLLMAdapter} {allowed : DrainSystem → ℕ → Prop}
  {r : LifecycleRunner} {s₀ s s' : HttpSystem} {past : List (RunnerRequest × List HttpEvent)}

theorem unpublished_runCycle (hmove : a.driver.movesTensors = false) (t : UpdateTarget) :
    Triple (unpublished a allowed True) (unpublished a allowed True)
      ((r.runCycle t).interp (a.handle J)) (fun _ => unpublished a allowed False)
      fun _ => unpublished a allowed True := by
  intro tr s hs
  refine ((unpublished_annotated J r hmove t).runCycle tr s ⟨hs.1, hs.2.1, id⟩).mono ?_ ?_
  · exact fun _ => unpublished_le fun h => h trivial
  · exact fun _ => unpublished_le fun _ => trivial

theorem unpublished_ctrl {op : Op} (hop : ∀ e, op ≠ .confirmUpdated e) :
    Triple (unpublished a allowed True) (unpublished a allowed True)
      (Prog.op (HttpCall.runner (.ctrl op)) : HttpProg (Except PyExc op.Ret))
      (fun _ => unpublished a allowed True) (fun _ => unpublished a allowed True) := by
  refine Triple.op (Assertion.le_refl _) fun tr s reply s' hs ha => ?_
  have hpost := unpublished_runner hs (fun e he => hop e (RunnerCall.ctrl.inj he)) ha
  exact ⟨hpost, hpost⟩

theorem unpublished_outside {call : RunnerCall} (hcall : call.OutsideCycle) :
    Triple (unpublished a allowed True) (unpublished a allowed True) (a.handle J call)
      (fun _ => unpublished a allowed True) fun _ => unpublished a allowed True := by
  cases call with
  | ctrl op =>
    refine unpublished_ctrl fun e he => ?_
    subst he
    exact hcall
  | adapter m =>
    cases m with
    | bootstrap => exact fun tr s hs => Safe.attempt (unpublished_method J (.inl rfl) tr s hs)
    | _ => exact hcall.elim
  | _ => exact hcall.elim

theorem unpublished_cycle (hmove : a.driver.movesTensors = false) (q : CycleRequest) :
    Triple (unpublished a allowed True) (unpublished a allowed True) (r.serveHttp J a (.cycle q))
      (fun _ => unpublished a allowed False) fun _ => unpublished a allowed True := by
  show Triple _ _ (((r.serve q).bind _).interp _) _ _
  rw [interp_bind]
  refine Triple.bind (Q := fun _ => unpublished a allowed False) ?_ fun _ tr s hs =>
    hs.2.2.elim
  cases q with
  | runCycle t => exact unpublished_runCycle hmove t
  | installNext i =>
    have hnext : (LifecycleRunner.ctrl (.nextTarget i)).Performs RunnerCall.OutsideCycle :=
      (performs_op trivial).bind fun r => performs_ofExcept r
    show Triple _ _ (((LifecycleRunner.ctrl (.nextTarget i)).bind _).interp _) _ _
    rw [interp_bind]
    exact Triple.bind (hnext.interp_triple fun _ => unpublished_outside)
      fun t => unpublished_runCycle hmove t

/-- **Every request** stays on the control plane. -/
theorem unpublished_serveHttp (hmove : a.driver.movesTensors = false) (q : RunnerRequest) :
    Triple (unpublished a allowed True) (unpublished a allowed True) (r.serveHttp J a q)
      (fun _ => unpublished a allowed True) fun _ => unpublished a allowed True := by
  cases q with
  | bootstrap => exact bootstrap_outside.interp_triple fun _ => unpublished_outside
  | cycle q =>
    exact fun tr s hs => (unpublished_cycle hmove q tr s hs).mono
      (fun _ => unpublished_le False.elim) fun _ => Assertion.le_refl _

theorem session_unpublished (hmove : a.driver.movesTensors = false)
    (h : Session (httpWorld a allowed) (r.serveHttp J a) s₀ past s)
    (h₀ : s₀.controller.Unpublished) : unpublished a allowed True (past.flatMap (·.2)) s := by
  induction h with
  | nil => exact ⟨by simp, h₀, trivial⟩
  | env h he ih => exact ⟨ih.1, ((unpublished a allowed True).stable ih he).2⟩
  | request h hr hp ih =>
    have hrun := (unpublished_serveHttp hmove _).always ⟨by simp, ih.2.1, trivial⟩ hr
    refine ⟨fun e he => ?_, hrun.2⟩
    rw [List.flatMap_append, List.mem_append] at he
    rcases he with he | he
    · exact ih.1 e he
    · exact hrun.1 e (by simpa using he)

end Sessions

/-- **A deployment that moves no tensors publishes nothing.** Over HTTP, with a driver that moves no
tensors, run bootstraps and cycles to whatever point from a controller that has committed `rc-0` at
most and has no update under way, whatever the transport answers, with rollout owners, the operator
and the pause attempts in between. Then nothing was ever called but what bootstraps, drains and the
runner itself call: no transfer, no cache reset, no resume. The controller has still committed
`rc-0` at most and is not past UPDATING, and no cycle has returned. -/
theorem lifecycle_only_never_publishes (J : JsonModule) (a : HttpVLLMAdapter)
    (allowed : DrainSystem → ℕ → Prop) (r : LifecycleRunner) (hmove : a.driver.movesTensors = false)
    {c : LifecycleController} {i : Option UpdateTarget} {d : DrainSystem} (hc : Reachable c)
    (hinitial : ∀ t ∈ c.currentTarget, t.version = ⟨INITIAL_VERSION⟩)
    (hpending : c.pendingTarget = none) {past : List (RunnerRequest × List HttpEvent)}
    {s s' : HttpSystem} {q : RunnerRequest} {tr : List HttpEvent} {p : HttpProg Unit}
    (h : Session (httpWorld a allowed) (r.serveHttp J a) ⟨c, i, d⟩ past s)
    (hr : Run (httpWorld a allowed) (r.serveHttp J a q) s tr p s') :
    (∀ e ∈ past.flatMap (·.2) ++ tr, HttpEvent.ControlPlane a e) ∧
      (∀ t ∈ s'.controller.currentTarget, t.version = ⟨INITIAL_VERSION⟩) ∧
      s'.controller.state ∉ [.invalidating, .validating, .resuming] ∧
      ∀ q', q = .cycle q' → ∀ x, p ≠ .pure x := by
  have hnot : ¬ InFlight c.state := fun hs => hc.inv.pending.mpr hs hpending
  have hs₀ : c.Unpublished :=
    ⟨hc.inv, hinitial, fun hs => hnot (.inr (.inl hs)), fun hs => hnot (.inr (.inr (.inl hs))),
      fun hs => hnot (.inr (.inr (.inr hs)))⟩
  have hpast := session_unpublished hmove h hs₀
  have hstart : unpublished a allowed True [] s := ⟨by simp, hpast.2⟩
  have hrun := (unpublished_serveHttp hmove q).always hstart hr
  refine ⟨fun e he => ?_, hrun.2.1.initial, by simp [hrun.2.1.before], ?_⟩
  · exact (List.mem_append.mp he).elim (hpast.1 e) (hrun.1 e)
  · rintro q' rfl x rfl
    have hend := (unpublished_cycle hmove q' [] s hstart).run hr
    exact hend.2.2.2

/-- The request of a cycle with the default driver. -/
abbrev movelessRequest : HttpProg Unit :=
  LifecycleRunner.serveHttp {} servedJson {} (.cycle (.runCycle ⟨⟨1⟩, identityB⟩))

/-- The cycle, whose pause goes through just before it is polled. -/
def movelessPlay : List HttpEvent × Except PyExc Unit × HttpSystem :=
  movelessRequest.play (commitReply {})
    (fun n s => if n = 7 ∨ n = 8 then
      (threadNext {} 0 s.drain).map fun d => { s with drain := d } else none) 0
    ⟨bootstrapped, none, {}⟩

theorem run_movelessPlay : Run (httpWorld {} fun _ _ => True) movelessRequest
    ⟨bootstrapped, none, {}⟩ movelessPlay.1 (.ofExcept movelessPlay.2.1) movelessPlay.2.2 := by
  refine Run.of_play (commitReply_answers {}) (fun n s s' hs => ?_) _ 0 _
  rw [Option.mem_def] at hs
  split_ifs at hs
  obtain ⟨d, hd, rfl⟩ := Option.map_eq_some_iff.mp hs
  exact .inr ⟨d, ⟨0, trivial, threadStep_threadNext hd⟩, rfl⟩

/-- A cycle with the default driver gets to UPDATING and no further. -/
theorem lifecycle_only_never_publishes_stuck : ∃ tr p s',
    Run (httpWorld {} fun _ _ => True) movelessRequest ⟨bootstrapped, none, {}⟩ tr p s' ∧
    s'.controller.state = .updating ∧ (∀ x, p ≠ .pure x) ∧
    ∀ t ∈ s'.controller.currentTarget, t.version = ⟨INITIAL_VERSION⟩ := by
  have hinitial : ∀ t ∈ bootstrapped.currentTarget, t.version = ⟨INITIAL_VERSION⟩ := by
    decide +kernel
  have hstate : movelessPlay.2.2.controller.state = .updating := by
    decide +kernel
  obtain ⟨-, hversion, -, hraises⟩ := lifecycle_only_never_publishes servedJson {} _ {} rfl
    reachable_bootstrapped hinitial rfl .nil run_movelessPlay
  exact ⟨_, _, _, run_movelessPlay, hstate, hraises _ rfl, hversion⟩

end RolloutCore
