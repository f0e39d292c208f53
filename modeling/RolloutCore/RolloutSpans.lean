import RolloutCore.FakeGuarantees
import RolloutCore.Publication
import RolloutCore.Trajectory
import RolloutCore.Lib.Interleaving
import RolloutCore.Lib.Worlds

/-!
# Rollouts and updates over the reference engine

No update lands under a rollout, active or orphaned: the runner touches weights, label or update
session of the engine only when no rollout is bound, so every binding keeps naming what the engine
holds (`bindings_held`). A trajectory recorded from such a run agrees at admission and never spans
an update.
-/

namespace RolloutCore

open LifecycleController

/-! ## Bindings along calls -/

section Bindings

variable {c c' : LifecycleController} {op : Op}

/-- No rollout is bound, and none can be admitted. -/
def LifecycleController.Vacant (c : LifecycleController) : Prop :=
  c.bindings = [] ∧ c.state ≠ .ready

theorem mem_bindings {b : RolloutBinding} : b ∈ c.bindings ↔
    b ∈ c.activeRollouts ∨ ∃ o ∈ c.orphaned, o.binding = b := by
  unfold bindings
  rw [List.mem_append, List.mem_map]

/-- A binding after a call was there before it, or a READY controller has just made it for the
committed target. -/
theorem mem_bindings_after (hi : Inv c) {b : RolloutBinding} (hb : b ∈ (op.after c).bindings) :
    b ∈ c.bindings ∨ c.state = .ready ∧ c.currentTarget = some b.target := by
  obtain ⟨c', hc, he⟩ := op.effect hi
  rw [hc] at hb
  cases he with
  | rejected _ _ heq => exact .inl (heq ▸ hb)
  | tainted _ _ hs heq =>
    rw [heq, bindings_taintedWith hi hs] at hb
    exact .inl hb
  | accepted _ ha =>
    cases ha with
    | taint hs =>
      rw [bindings_taintedWith hi hs] at hb
      exact .inl hb
    | @admitRollout _ id t hs ht hid =>
      rcases mem_bindings.mp hb with hb | ho
      · unfold activeRollouts at hb
        rw [admitted_active, OrderedDict.values_insert hid, List.mem_append,
          List.mem_singleton] at hb
        rcases hb with hb | rfl
        · exact .inl (mem_bindings.mpr (.inl hb))
        · exact .inr ⟨hs, ht⟩
      · exact .inl (mem_bindings.mpr (.inr ho))
    | finishRollout
    | abortRollout =>
      rcases mem_bindings.mp hb with hb | ho
      · exact .inl (mem_bindings.mpr (.inl ((OrderedDict.values_erase_sublist _ _).subset hb)))
      · exact .inl (mem_bindings.mpr (.inr ho))
    | _ => exact .inl hb

theorem LifecycleController.Vacant.after (hi : Inv c) (h : c.Vacant)
    (hs : (op.after c).state ≠ .ready) : (op.after c).Vacant := by
  refine ⟨List.eq_nil_iff_forall_not_mem.mpr fun b hb => ?_, hs⟩
  rcases mem_bindings_after hi hb with hb | ⟨hr, -⟩
  · rw [h.1] at hb
    cases hb
  · exact h.2 hr

/-- The other callers find nothing to release and cannot admit. -/
theorem LifecycleController.Vacant.env (hi : Inv c) (h : c.Vacant)
    (he : anyAdapter.env c c') : c'.Vacant := by
  obtain ⟨op, hop, rfl⟩ := he
  refine Vacant.after hi h ?_
  rcases (owners_after hi hop).2 with hs | ⟨hs, -⟩
  · simp [hs]
  · rw [hs]
    exact h.2

/-- A drain that was accepted leaves no binding behind. -/
theorem vacant_of_drained (hi : Inv c) (hs : c.state ≠ .tainted) (hr : c.state ≠ .ready)
    (ha : c.active.entries = []) : c.Vacant := by
  refine ⟨?_, hr⟩
  unfold bindings activeRollouts
  rw [hi.no_orphans hs, OrderedDict.values_eq_nil.mpr ha]
  rfl

/-- The points of a cycle after its drain. -/
def CyclePoint.Late : CyclePoint → Prop
  | .quiesced | .updating | .opened | .staged _ | .invalidating | .reset _ | .validating
  | .validated _ | .resuming | .resumed _ => True
  | _ => False

/-- From the drain on a cycle is alone with the engine. -/
theorem vacant_step {t : UpdateTarget} {pt pt' : CyclePoint} {call : RunnerCall}
    {reply : call.Reply} (hi : Inv c) (h : pt.Late → c.Vacant)
    (hstep : CycleStep t pt call reply pt') (ha : anyAdapter.answers call c reply c')
    (hlate : pt'.Late) : c'.Vacant := by
  have hctrl : ∀ {op : Op} {r : op.Ret}, op.Replies c (.ok r) c' → c.Vacant → c'.state ≠ .ready →
      c'.Vacant := by
    intro op r hr hv hs
    rw [← hr.after] at hs ⊢
    exact Vacant.after hi hv hs
  cases hstep with
  | view hv => rw [view_answers hv ha]; exact h hlate
  | drained =>
    have hacc := (ctrl_answers.mp ha).accepted hi
    have hi' := inv_accepted hi hacc
    cases hacc with
    | confirmDrained hs hact => exact vacant_of_drained hi' (by simp) (by simp) hact
  | beginUpdate | updated | invalidated | validated =>
    refine hctrl (ctrl_answers.mp ha) (h trivial) ?_
    have hacc := (ctrl_answers.mp ha).accepted hi
    cases hacc
    simp
  | startUpdate | transfer | invalidate | validate | resume =>
    obtain rfl : c' = c := ha
    exact h trivial
  | _ => exact hlate.elim

end Bindings

/-! ## Calls that rewrite the engine -/

/-- Endpoints and attribute writes after which the engine serves, or may serve, something else. -/
def FakeCall.Rewrites : FakeCall → Prop
  | .engine (.updateWeightVersion _) | .engine .startWeightUpdate | .engine .updateWeights
  | .engine (.finishWeightUpdate _) | .setWeightIdentity _ => True
  | _ => False

/-- Every rollout is bound to what the engine holds. -/
def Spared (s : FakeSystem) : Prop := ∀ b ∈ s.controller.bindings, s.engine.core.Holds b.target

/-- A call that rewrites the engine finds no rollout bound. -/
def FakeEvent.Clear : FakeEvent → Prop
  | .env _ _ => True
  | .call call _ s _ => call.Rewrites → s.controller.bindings = []

theorem EngineCore.Holds.congr {k k' : EngineCore} {t : UpdateTarget} (h : k.Holds t)
    (hl : k'.label = k.label) (hid : k'.identity = k.identity)
    (hs : k'.sessionOpen = k.sessionOpen) : k'.Holds t :=
  ⟨hl.trans h.label, hid.trans h.identity, hs.trans h.closed⟩

/-- The other endpoints at most pause or resume the engine. -/
theorem EngineCall.spares {call : EngineCall} {g g' : FakeVLLMEngine}
    {reply : Except PyExc call.Ret} (h : call.Replies g reply g')
    (hcall : ¬ (FakeCall.engine call).Rewrites) {t : UpdateTarget} (hk : g.core.Holds t) :
    g'.core.Holds t := by
  cases reply with
  | ok r =>
    rw [h.core_of_ok.1]
    cases call <;> first | exact hk | exact absurd trivial hcall | exact hk.congr rfl rfl rfl
  | error e =>
    have hfail := h.core_of_error
    cases call with
    | pause =>
      rcases hfail with hk' | hk' <;> rw [hk']
      · exact hk
      · exact hk.congr rfl rfl rfl
    | _ =>
      have hk' : g'.core = g.core := hfail
      rw [hk']
      exact hk

section Calls

variable {s s' : FakeSystem}

/-- A step of the adapter. -/
theorem spared_adapter {call : FakeCall} {reply : call.Reply} (h : Spared s)
    (hrunner : ∀ rc, call ≠ .runner rc) (ha : fakeAnswers call s reply s')
    (hcall : call.Rewrites → s.controller.bindings = []) :
    Spared s' ∧ s'.controller = s.controller := by
  by_cases hw : call.Rewrites
  · have hc : s'.controller = s.controller := by
      cases call with
      | engine => obtain ⟨g', -, rfl⟩ := ha; rfl
      | setWeightIdentity => obtain rfl : s' = _ := ha; rfl
      | _ => exact hw.elim
    refine ⟨fun b hb => ?_, hc⟩
    rw [hc, hcall hw] at hb
    cases hb
  · cases call with
    | runner rc => exact absurd rfl (hrunner rc)
    | engine call =>
      obtain ⟨g', hr, rfl⟩ := ha
      exact ⟨fun b hb => EngineCall.spares hr hw (h b hb), rfl⟩
    | attributes | drainCompleted =>
      obtain ⟨-, rfl⟩ := ha
      exact ⟨h, rfl⟩
    | setWeightIdentity => exact absurd trivial hw
    | setDrainCompleted b =>
      obtain rfl : s' = _ := ha
      exact ⟨h, rfl⟩

/-- A rollout is only ever bound to what the engine serves. -/
theorem spared_op {c' : LifecycleController} (h : Spared s)
    (hagree : Agree s.controller s.engine.core) {op : Op} (hc : op.after s.controller = c') :
    Spared { s with controller := c' } := by
  intro b hb
  rw [← hc] at hb
  rcases mem_bindings_after hagree.inv hb with hb | ⟨hs, hcur⟩
  · exact h b hb
  · exact hagree.serving (.inl hs) _ hcur

theorem spared_runner {call : RunnerCall} {reply : call.Reply} (h : Spared s)
    (hagree : Agree s.controller s.engine.core) (ha : fakeAnswers (.runner call) s reply s') :
    Spared s' := by
  obtain ⟨c', hc, rfl⟩ := ha
  cases call with
  | ctrl op => exact spared_op h hagree (Op.Replies.after hc)
  | state | currentTarget =>
    obtain ⟨-, rfl⟩ := hc
    exact h
  | _ =>
    obtain rfl : c' = s.controller := hc
    exact h

theorem spared_env (h : Spared s) (hagree : Agree s.controller s.engine.core)
    (he : fakeWorld.env s s') : Spared s' := by
  rcases he with ⟨c', ⟨op, -, hop⟩, rfl⟩ | ⟨_, _, _, _, _, _, rfl⟩
  · exact spared_op h hagree hop
  · exact h

end Calls

/-! ## Fences -/

/-- The runner over the reference engine, where engine and controller agree. -/
abbrev agreeingWorld : World FakeCall.Reply FakeSystem :=
  fakeWorld.restrict fun s => Agree s.controller s.engine.core

/-- Every rollout is spared, every call so far was clear, and if `late` no rollout is bound. -/
def fence (late : Prop) : Assertion agreeingWorld where
  holds tr s := Spared s ∧ (∀ e ∈ tr, FakeEvent.Clear e) ∧ (late → s.controller.Vacant)
  stable := by
    rintro tr s s' ⟨hs, htr, hv⟩ ⟨hagree, he, -⟩
    refine ⟨spared_env hs hagree he, fun e hmem => ?_, fun hl => ?_⟩
    · rcases List.mem_append.mp hmem with hmem | hmem
      · exact htr e hmem
      · obtain rfl := List.mem_singleton.mp hmem
        trivial
    · rcases he with ⟨c', he, rfl⟩ | ⟨_, _, _, _, _, _, rfl⟩
      · exact (hv hl).env hagree.inv he
      · exact hv hl

section Fences

variable {late late' : Prop}

theorem fence_mono (h : late' → late) : fence late ≤ fence late' :=
  fun _ _ hf => ⟨hf.1, hf.2.1, fun hl => hf.2.2 (h hl)⟩

theorem clear_concat {tr : List FakeEvent} {call : FakeCall} {reply : call.Reply}
    {s s' : FakeSystem} (htr : ∀ e ∈ tr, FakeEvent.Clear e)
    (h : call.Rewrites → s.controller.bindings = []) :
    ∀ e ∈ tr ++ [.call call reply s s'], FakeEvent.Clear e := by
  intro e he
  rcases List.mem_append.mp he with he | he
  · exact htr e he
  · obtain rfl := List.mem_singleton.mp he
    exact h

/-- The calls an adapter may make, those that rewrite the engine only if `late`. -/
def FakeCall.Allowed (late : Prop) (call : FakeCall) : Prop :=
  (∀ rc, call ≠ .runner rc) ∧ (call.Rewrites → late)

/-- A program of allowed calls stays behind the fence. -/
theorem fence_performs {α : Type} {p : FakeProg α} (h : p.Performs (FakeCall.Allowed late)) :
    Triple (fence False) (fence late) p (fun _ => fence late) (fun _ => fence late) := by
  refine h.triple (fence_mono False.elim) fun call hcall tr s reply s' hf ha => ?_
  obtain ⟨hs, htr, hv⟩ := hf
  have hclear : call.Rewrites → s.controller.bindings = [] := fun hw => (hv (hcall.2 hw)).1
  obtain ⟨hs', hc⟩ := spared_adapter hs hcall.1 ha.2.1 hclear
  exact ⟨hs', clear_concat htr hclear, fun hl => hc ▸ hv hl⟩

/-- A step of the runner itself. -/
theorem fence_runner {tr : List FakeEvent} {s s' : FakeSystem} {call : RunnerCall}
    {reply : call.Reply} (h : fence late tr s)
    (ha : agreeingWorld.answers (.runner call) s reply s') :
    fence False (tr ++ [.call (.runner call) reply s s']) s' :=
  ⟨spared_runner h.1 ha.1 ha.2.1, clear_concat h.2.1 False.elim, False.elim⟩

variable {a : FakeVLLMAdapter}

/-- What the runner does without its adapter. -/
theorem fence_local {α : Type} {p : RunnerProg α}
    (h : p.Performs fun call => ∀ m, call ≠ .adapter m) :
    Triple (fence False) (fence False) (p.interp a.handle) (fun _ => fence False)
      (fun _ => fence False) := by
  have hp : (p.interp a.handle).Performs fun call => ∃ rc, call = .runner rc :=
    h.interp fun call hcall => by
      cases call with
      | adapter m => exact absurd rfl (hcall m)
      | _ => exact Prog.performs_op ⟨_, rfl⟩
  refine hp.triple (Assertion.le_refl _) ?_
  rintro _ ⟨rc, rfl⟩ tr s reply s' hf ha
  exact fence_runner hf ha

end Fences

/-! ## The methods of the adapter -/

section Methods

open FakeVLLMAdapter Prog

theorem allowed_engine {late : Prop} {call : EngineCall}
    (h : (FakeCall.engine call).Rewrites → late) :
    (FakeVLLMAdapter.engine call).Performs (FakeCall.Allowed late) :=
  (performs_op ⟨by simp, h⟩).bind fun r => performs_ofExcept r

theorem allowed_tryPause {late : Prop} : tryPause.Performs (FakeCall.Allowed late) := by
  refine Performs.bind (performs_op ⟨by simp, False.elim⟩) fun r => ?_
  cases r with
  | ok _ => exact Performs.bind (performs_op ⟨by simp, False.elim⟩) fun _ => trivial
  | error e => cases e <;> trivial

theorem allowed_transfer (left chunks : ℕ) :
    (transfer left chunks).Performs (FakeCall.Allowed True) := by
  induction left generalizing chunks with
  | zero => trivial
  | succ left ih =>
    refine Performs.bind (performs_op ⟨by simp, fun _ => trivial⟩) fun r => ?_
    cases r with
    | ok _ => exact ih _
    | error e => cases e <;> trivial

theorem allowed_completeWeightUpdate (a : FakeVLLMAdapter) (t : UpdateTarget) :
    (a.completeWeightUpdate t).Performs (FakeCall.Allowed True) := by
  have hany : ∀ {call : FakeCall}, (∀ rc, call ≠ .runner rc) →
      (Prog.op call : FakeProg call.Reply).Performs (FakeCall.Allowed True) :=
    fun h => performs_op ⟨h, fun _ => trivial⟩
  refine (allowed_transfer _ _).bind fun loaded => ?_
  obtain ⟨loaded, chunks⟩ := loaded
  cases loaded with
  | false => trivial
  | true =>
    refine Performs.bind (hany (by simp)) fun _ => Performs.bind (hany (by simp)) fun r => ?_
    cases r with
    | ok _ => exact Performs.bind (hany (by simp)) fun _ => trivial
    | error e =>
      cases e with
      | fakeEngine m => exact Performs.bind (hany (by simp)) fun _ => trivial
      | _ => trivial

theorem allowed_attributes {late : Prop} : attributes.Performs (FakeCall.Allowed late) :=
  performs_op ⟨by simp, False.elim⟩

/-- The methods that may write to the engine. -/
def AdapterCall.Mutates : AdapterCall → Prop
  | .bootstrap | .startWeightUpdate _ | .completeWeightUpdate _ => True
  | _ => False

theorem allowed_bootstrap : FakeVLLMAdapter.bootstrap.Performs (FakeCall.Allowed True) := by
  have hwrite : ∀ {call : EngineCall}, (engine call).Performs (FakeCall.Allowed True) :=
    allowed_engine fun _ => trivial
  unfold FakeVLLMAdapter.bootstrap
  refine allowed_attributes.bind fun g => ?_
  cases g.weightIdentity with
  | none => trivial
  | some i =>
    refine hwrite.bind fun _ => allowed_attributes.bind fun g => ?_
    dsimp only
    split_ifs
    · trivial
    · exact allowed_attributes.bind fun _ => hwrite.bind fun _ => hwrite.bind fun _ =>
        hwrite.bind fun _ => allowed_attributes.bind fun _ => allowed_attributes.bind fun _ =>
        hwrite.bind fun _ => trivial

theorem allowed_awaitDrain : awaitDrain.Performs (FakeCall.Allowed False) := by
  have htail : ∀ completed : Bool, Performs (FakeCall.Allowed False) (do
      let active := (← attributes).activeRequests
      if completed then return ⟨true, some active, "pause(wait) returned"⟩
      else return ⟨false, some active, "drain still in flight"⟩ : FakeProg DrainEvidence) :=
    fun completed => allowed_attributes.bind fun _ => by cases completed <;> trivial
  refine Performs.bind (performs_op ⟨by simp, id⟩) fun b => ?_
  cases b with
  | true => exact htail true
  | false => exact allowed_tryPause.bind htail

theorem allowed_resume (t : UpdateTarget) :
    (FakeVLLMAdapter.resume t).Performs (FakeCall.Allowed False) := by
  have htail : ∀ acknowledged : Bool, Performs (FakeCall.Allowed False) (do
      let paused ← engine .isPaused
      let observed ← engine .getWeightInfo
      return ⟨t, acknowledged, paused, some observed⟩ : FakeProg ResumeEvidence) :=
    fun _ => (allowed_engine id).bind fun _ => (allowed_engine id).bind fun _ => trivial
  refine Performs.bind (performs_op ⟨by simp, id⟩) fun r => ?_
  cases r with
  | ok _ => exact htail true
  | error e =>
    cases e with
    | fakeEngine m => exact htail false
    | _ => trivial

/-- What a method calls. -/
theorem allowed_method (a : FakeVLLMAdapter) (m : AdapterCall) :
    (a.method m).Performs (FakeCall.Allowed m.Mutates) := by
  cases m with
  | bootstrap => exact allowed_bootstrap
  | beginDrain =>
    exact Performs.bind (performs_op ⟨by simp, id⟩) fun _ => allowed_tryPause.bind fun _ => trivial
  | awaitDrain => exact allowed_awaitDrain
  | startWeightUpdate t => exact allowed_engine fun _ => trivial
  | completeWeightUpdate t => exact allowed_completeWeightUpdate a t
  | invalidateCaches t =>
    exact (allowed_engine id).bind fun _ => (allowed_engine id).bind fun _ =>
      (allowed_engine id).bind fun _ => allowed_attributes.bind fun _ =>
      allowed_attributes.bind fun _ => trivial
  | validatePreResume t =>
    exact (allowed_engine id).bind fun _ => (allowed_engine id).bind fun _ =>
      allowed_attributes.bind fun _ => allowed_attributes.bind fun _ =>
      allowed_attributes.bind fun _ => trivial
  | resume t => exact allowed_resume t

/-- In a cycle the writing methods are called after the drain. -/
theorem late_of_mutates {t : UpdateTarget} {pt : CyclePoint} {m : AdapterCall}
    (hcall : pt.call? t = some (.adapter m)) (hm : m.Mutates) : pt.Late := by
  cases pt <;> cases hcall <;> trivial

/-- An engine with an unmanaged label never had a target committed for it. -/
theorem vacant_of_unmanaged {s : FakeSystem} (hagree : Agree s.controller s.engine.core)
    (hs : Spared s) (hm : s.engine.isManaged = false) : s.controller.Vacant := by
  have hnot : ¬ s.engine.core.Managed := fun hmanaged => by
    rw [isManaged_of_managed hmanaged] at hm
    cases hm
  refine ⟨List.eq_nil_iff_forall_not_mem.mpr fun b hb => hnot (hs b hb).managed, fun hready => ?_⟩
  have hcur := hagree.inv.committed (by simp [hready]) (by simp [hready])
  exact hnot (hagree.managed hcur)

/-- The adapter's bootstrap writes only where it has found an unmanaged label. -/
theorem fence_bootstrap :
    Triple (fence False) (fence False) FakeVLLMAdapter.bootstrap (fun _ => fence False)
      (fun _ => fence False) := by
  unfold FakeVLLMAdapter.bootstrap
  refine Triple.bind (fence_performs allowed_attributes) fun g => ?_
  cases g.weightIdentity with
  | none => exact Triple.throw (Assertion.le_refl _) (Assertion.le_refl _)
  | some i =>
    refine Triple.bind (fence_performs (allowed_engine False.elim)) fun preSeed =>
      Triple.bind (Q := fun g => fence (g.isManaged = false)) (Triple.op (Assertion.le_refl _) ?_)
      fun g => ?_
    · rintro tr s g s' ⟨hs, htr, -⟩ ⟨hagree, ⟨rfl, rfl⟩, -⟩
      have htr' : ∀ e ∈ tr ++ [.call .attributes s'.engine s' s'], FakeEvent.Clear e :=
        clear_concat htr False.elim
      exact ⟨⟨hs, htr', False.elim⟩, hs, htr', vacant_of_unmanaged hagree hs⟩
    · dsimp only
      split_ifs with hm
      · exact Triple.throw (fence_mono False.elim) (fence_mono False.elim)
      · have hwrite : ∀ {call : EngineCall}, (engine call).Performs (FakeCall.Allowed True) :=
          allowed_engine fun _ => trivial
        have hfence : fence (g.isManaged = false) ≤ fence True :=
          fence_mono fun _ => by simpa using hm
        refine fun tr s h => (fence_performs ?_ tr s (hfence tr s h)).mono
          (fun _ => fence_mono False.elim) fun _ => fence_mono False.elim
        exact allowed_attributes.bind fun _ => hwrite.bind fun _ => hwrite.bind fun _ =>
          hwrite.bind fun _ => allowed_attributes.bind fun _ => allowed_attributes.bind fun _ =>
          hwrite.bind fun _ => trivial

end Methods

/-! ## Requests -/

section Requests

variable {r : LifecycleRunner} {a : FakeVLLMAdapter}

/-- Runner calls along a cycle. -/
theorem fence_step {t : UpdateTarget} {pt : CyclePoint} {call : RunnerCall} :
    Triple (fence False) (fence pt.Late) (Prog.op (FakeCall.runner call))
      (stepped t (fun pt => fence pt.Late) pt call) (fun _ : PyExc => fence False) := by
  refine Triple.op (fence_mono False.elim) fun tr s reply s' hf ha => ?_
  have hfence := fence_runner hf ha
  refine ⟨hfence, fun pt' hstep => ⟨hfence.1, hfence.2.1, fun hlate => ?_⟩⟩
  obtain ⟨hagree, ⟨c', hc, rfl⟩, -⟩ := ha
  exact vacant_step hagree.inv hf.2.2 hstep hc hlate

theorem fence_annotated (t : UpdateTarget) :
    Annotated r t a.handle (fence False) (fun pt => fence pt.Late) where
  inv pt := fence_mono False.elim
  view pt call hv := by
    cases call with
    | state | monotonic | sleep => exact fence_step
    | _ => exact hv.elim
  call pt call hcall := by
    cases call with
    | adapter m =>
      have hm := fence_performs ((allowed_method a m).mono fun call h =>
        ⟨h.1, fun hw => late_of_mutates hcall (h.2 hw)⟩)
      refine fun tr s h => Safe.attempt ((hm tr s h).mono ?_ ?_)
      · intro reply tr s h pt' hstep
        refine fence_mono ?_ tr s h
        intro hlate
        cases hstep <;> exact hlate
      · intro e tr s h pt' hstep
        refine fence_mono ?_ tr s h
        intro hlate
        cases hstep <;> first | exact hlate | exact hlate.elim
    | _ => exact fence_step
  exhausted := fence_mono id

theorem fence_runCycle (t : UpdateTarget) :
    Triple (fence False) (fence False) ((r.runCycle t).interp a.handle) (fun _ => fence False)
      (fun _ => fence False) :=
  (fence_annotated t).runCycle

theorem performs_ctrl {op : Op} :
    (LifecycleRunner.ctrl op).Performs fun call => ∀ m, call ≠ .adapter m :=
  (Prog.performs_op (by simp)).bind fun r => Prog.performs_ofExcept r

/-- A program of the runner stays behind the fence. -/
abbrev Fenced {α : Type} (a : FakeVLLMAdapter) (p : RunnerProg α) : Prop :=
  Triple (fence False) (fence False) (p.interp a.handle) (fun _ => fence False)
    (fun _ => fence False)

theorem Fenced.bind {α β : Type} {p : RunnerProg α} {f : α → RunnerProg β} (hp : Fenced a p)
    (hf : ∀ x, Fenced a (f x)) : Fenced a (p >>= f) := by
  show Triple _ _ ((p.bind f).interp a.handle) _ _
  rw [Prog.interp_bind]
  exact Triple.bind hp hf

/-- **Every request keeps the fence.** -/
theorem fence_serveOver (q : RunnerRequest) :
    Triple (fence False) (fence False) (r.serveOver a q) (fun _ => fence False)
      (fun _ => fence False) := by
  cases q with
  | bootstrap =>
    refine Fenced.bind ?_ fun evidence => fence_local performs_ctrl
    refine Triple.bind (p := (a.method .bootstrap).attempt) (Q := fun _ => fence False)
      (fun tr s h => Safe.attempt (fence_bootstrap tr s h)) fun reply => ?_
    cases reply with
    | ok evidence => exact Triple.pure (Assertion.le_refl _) (Assertion.le_refl _)
    | error e =>
      refine fence_local (p := if e.isCore = true then throw e else
        Prog.ofExcept e.repr >>= fun _ => LifecycleRunner.raiseTaint _) ?_
      split_ifs
      · trivial
      · exact (Prog.performs_ofExcept _).bind fun _ => performs_ctrl.bind fun _ => trivial
  | cycle q =>
    refine Triple.bind (Q := fun _ => fence False) ?_ fun _ =>
      Triple.pure (Assertion.le_refl _) (Assertion.le_refl _)
    cases q with
    | runCycle t => exact fence_runCycle t
    | installNext i => exact Fenced.bind (fence_local performs_ctrl) fun t => fence_runCycle t

end Requests

/-! ## Sessions -/

section Sessions

variable {r : LifecycleRunner} {a : FakeVLLMAdapter} {s₀ s s' : FakeSystem} {tr : List FakeEvent}
  {past : List (RunnerRequest × List FakeEvent)}

/-- A request from an agreeing system in which every rollout is spared. -/
theorem run_spared {q : RunnerRequest} {p : FakeProg Unit}
    (hr : Run fakeWorld (r.serveOver a q) s tr p s') (hagree : Agree s.controller s.engine.core)
    (hs : Spared s) :
    Agree s'.controller s'.engine.core ∧ Spared s' ∧ ∀ e ∈ tr, FakeEvent.Clear e := by
  have hr' := hr.restrict (J := fun s => Agree s.controller s.engine.core)
    (serveOver_under q [] s hagree) fun _ _ (h : Agree _ _) => h
  have hf := (fence_serveOver q).always (s := s) ⟨hs, by simp, False.elim⟩ hr'
  exact ⟨(serveOver_under q).always (s := s) hagree hr, hf.1, hf.2.1⟩

theorem session_spared (h : Session fakeWorld (r.serveOver a) s₀ past s)
    (h₀ : Agree s₀.controller s₀.engine.core) (hs₀ : Spared s₀) :
    Agree s.controller s.engine.core ∧ Spared s ∧
      ∀ e ∈ past.flatMap (·.2), FakeEvent.Clear e := by
  induction h with
  | nil => exact ⟨h₀, hs₀, by simp⟩
  | env h he ih =>
    obtain ⟨hagree, hs, hpast⟩ := ih
    exact ⟨(session_keeps (h.env he) h₀).1, spared_env hs hagree he, hpast⟩
  | request _ hr _ ih =>
    obtain ⟨hagree, hs, hpast⟩ := ih
    obtain ⟨hagree', hs', htr⟩ := run_spared hr hagree hs
    refine ⟨hagree', hs', fun e he => ?_⟩
    rw [List.flatMap_append, List.mem_append] at he
    rcases he with he | he
    · exact hpast e he
    · exact htr e (by simpa using he)

end Sessions

/-- **No update lands under a rollout.** Start from an unpaused engine with no open session and run
bootstraps and cycles to whatever point, with rollout owners, the operator and faults in between.
Every call that wrote weights, label or update session of the engine was made while no rollout was
bound, active or orphaned. And a record of a rollout that is bound at this point names what the
engine serves: with the label of this point it agrees at admission, and it does not span an
update. -/
theorem rollouts_span_no_update (r : LifecycleRunner) (a : FakeVLLMAdapter) (g : FakeVLLMEngine)
    (d : Bool) (hpaused : g.pauseState = .unpaused) (hclosed : g.updateSessionOpen = false)
    {past : List (RunnerRequest × List FakeEvent)} {s : FakeSystem}
    (h : Session fakeWorld (r.serveOver a) ⟨.init, g, d⟩ past s)
    {q : RunnerRequest} {tr : List FakeEvent} {p : FakeProg Unit} {s' : FakeSystem}
    (hr : Run fakeWorld (r.serveOver a q) s tr p s') :
    (∀ e ∈ past.flatMap (·.2) ++ tr, FakeEvent.Clear e) ∧
      ∀ t : Trajectory, t.binding ∈ s'.controller.bindings →
        s'.engine.weightVersion = t.version ∧ s'.engine.weightIdentity = some t.identity ∧
        (t.engineVersionAtAdmission = some s'.engine.weightVersion →
          t.admissionAgrees = some true) ∧
        (t.engineVersionAtCompletion = some s'.engine.weightVersion → t.spansAnUpdate = false) := by
  have h₀ : Agree LifecycleController.init g.core :=
    .of_uncommitted inv_init rfl fun _ => ⟨pauseState_eq.mp hpaused, hclosed⟩
  have hs₀ : Spared ⟨.init, g, d⟩ := by
    intro b hb
    cases hb
  obtain ⟨hagree, hs, hpast⟩ := session_spared h h₀ hs₀
  obtain ⟨-, hs', htr⟩ := run_spared hr hagree hs
  refine ⟨fun e he => (List.mem_append.mp he).elim (hpast e) (htr e), fun t hb => ?_⟩
  have hholds := hs' _ hb
  have hlabel : s'.engine.weightVersion = t.version := hholds.label
  refine ⟨hlabel, hholds.identity, fun hadm => ?_, fun hcomp => ?_⟩
  · unfold Trajectory.admissionAgrees
    rw [hadm]
    simp [hlabel]
  · unfold Trajectory.spansAnUpdate
    rw [hcomp]
    simp [hlabel]

/-- A bootstrapped system in which the operator has stopped the controller under a rollout. -/
def stoppedSystem : FakeSystem :=
  let s := (fakePlay .bootstrap freshSystem).2.2
  { s with controller := (Op.taint "stop").after ((Op.admitRollout "r1").after s.controller) }

theorem session_stoppedSystem : Session fakeWorld (LifecycleRunner.serveOver {} {}) freshSystem
    [(.bootstrap, (fakePlay .bootstrap freshSystem).1)] stoppedSystem :=
  ((Session.nil.request (run_fakePlay _ _) (Prog.ended_ofExcept _)).env
    (.inl ⟨_, ⟨.admitRollout "r1", trivial, rfl⟩, rfl⟩)).env
    (.inl ⟨_, ⟨.taint "stop", trivial, rfl⟩, rfl⟩)

/-- The record of a rollout, with the label the engine reports throughout. -/
def recordOf (b : RolloutBinding) (label : String) : Trajectory where
  binding := b
  prompt := "p"
  text := ""
  tokenIds := []
  logprobs := []
  finishReason := none
  seconds := none
  engineVersionAtAdmission := some label
  engineVersionAtCompletion := some label
  prompt_ne := by decide
  logprobs_length := .inl rfl
  seconds_ok := Trajectory.seconds_ok_none

/-- A second bootstrap is refused, and the orphan of the first generation keeps its engine. -/
theorem rollouts_span_no_update_orphaned : ∃ tr p s', ∃ t : Trajectory,
    Run fakeWorld (LifecycleRunner.serveOver {} {} .bootstrap) stoppedSystem tr p s' ∧
    s'.controller.orphaned.map (·.binding) = [t.binding] ∧ t.admissionAgrees = some true ∧
    t.spansAnUpdate = false := by
  have hrun := run_fakePlay .bootstrap stoppedSystem
  obtain ⟨-, hrecord⟩ := rollouts_span_no_update {} {} _ _ rfl rfl session_stoppedSystem hrun
  have hb : (fakePlay .bootstrap stoppedSystem).2.2.controller.orphaned.map (·.binding) =
      [⟨"r1", ⟨0⟩, identityA, (WeightVersion.mk 0).cacheSalt, 2⟩] := by
    decide +kernel
  let t := recordOf ⟨"r1", ⟨0⟩, identityA, (WeightVersion.mk 0).cacheSalt, 2⟩
    (fakePlay .bootstrap stoppedSystem).2.2.engine.weightVersion
  obtain ⟨-, -, hadm, hspan⟩ := hrecord t (List.mem_append_right _ (hb ▸ List.mem_singleton_self _))
  exact ⟨_, _, _, t, hrun, hb, hadm rfl, hspan rfl⟩

end RolloutCore
