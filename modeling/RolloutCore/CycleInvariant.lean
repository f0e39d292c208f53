import RolloutCore.RunnerOutline
import RolloutCore.LifecycleInvariant

/-!
# A cycle against any adapter

The world of a runner whose adapter may do anything: return any evidence or raise any exception,
at every call. Rollout owners and the operator call the same controller in between. `At` says what
the controller is like at each point of the cycle; every trace keeps it (`At.of_trace`).
-/

namespace RolloutCore

open CallOutcome LifecycleController

/-! ## The world -/

/-- The call answers `reply` and leaves `c'`. -/
def Op.Replies (op : Op) (c : LifecycleController) :
    Except PyExc op.Ret → LifecycleController → Prop
  | .ok r, c' => op.call.run c = .ok r c'
  | .error e, c' => op.call.run c = .error e c'

/-- The reply of a call and the controller it leaves. -/
def Op.reply (op : Op) (c : LifecycleController) : Except PyExc op.Ret × LifecycleController :=
  match op.call.run c with
  | .ok r c' => (.ok r, c')
  | .error e c' => (.error e, c')

theorem Op.replies_reply (op : Op) (c : LifecycleController) :
    op.Replies c (op.reply c).1 (op.reply c).2 := by
  unfold Op.reply
  cases h : op.call.run c with
  | ok r c' => exact h
  | error e c' => exact h

/-- The calls of rollout owners and of the operator. -/
def Op.IsOwners : Op → Prop
  | .admitRollout _ | .finishRollout _ | .abortRollout _ | .taint _ => True
  | _ => False

/-- What a call of the runner does to the controller; an adapter may answer anything. -/
def runnerAnswers :
    (call : RunnerCall) → LifecycleController → call.Reply → LifecycleController → Prop
  | .ctrl op, c, reply, c' => op.Replies c reply c'
  | .state, c, reply, c' => reply = c.state ∧ c' = c
  | .currentTarget, c, reply, c' => reply = c.currentTarget ∧ c' = c
  | .adapter _, c, _, c' => c' = c
  | .monotonic, c, _, c' => c' = c
  | .sleep _, c, _, c' => c' = c

/-- The controller under a runner with an arbitrary adapter, and under its other callers. -/
def anyAdapter : World RunnerCall.Reply LifecycleController where
  answers := runnerAnswers
  env c c' := ∃ op : Op, op.IsOwners ∧ op.after c = c'

/-- A step of a run of the runner. -/
abbrev CycleEvent := TraceEvent RunnerCall.Reply LifecycleController

theorem anyAdapter_answers (call : RunnerCall) (c : LifecycleController) :
    ∃ reply c', anyAdapter.answers call c reply c' := by
  cases call with
  | ctrl op => exact ⟨_, _, op.replies_reply c⟩
  | state => exact ⟨c.state, c, rfl, rfl⟩
  | currentTarget => exact ⟨c.currentTarget, c, rfl, rfl⟩
  | adapter m => exact ⟨.error .assertion, c, rfl⟩
  | monotonic => exact ⟨(0 : ℚ), c, rfl⟩
  | sleep s => exact ⟨(), c, rfl⟩

/-! ## Replies of the controller -/

theorem ctrl_answers {op : Op} {c c' : LifecycleController} {reply : Except PyExc op.Ret} :
    anyAdapter.answers (.ctrl op) c reply c' ↔ op.Replies c reply c' := Iff.rfl

theorem view_answers {call : RunnerCall} {c c' : LifecycleController} {reply : call.Reply}
    (hv : call.IsView) (ha : anyAdapter.answers call c reply c') : c' = c := by
  cases call with
  | state => exact ha.2
  | monotonic => exact ha
  | sleep => exact ha
  | _ => exact hv.elim

section Replies

variable {c c' : LifecycleController} {op : Op}

theorem Op.Replies.after {reply : Except PyExc op.Ret} (h : op.Replies c reply c') :
    op.after c = c' := by
  unfold Op.after
  cases reply with
  | ok r => rw [show op.call.run c = _ from h]
  | error e => rw [show op.call.run c = _ from h]

theorem Op.Replies.accepted (hi : Inv c) {r : op.Ret} (h : op.Replies c (.ok r) c') :
    Accepted op c r c' := by
  have ho := op.outcome hi.ready_committed
  rwa [Outcome, show op.call.run c = _ from h] at ho

theorem Op.Replies.fails (hi : Inv c) {e : PyExc} (h : op.Replies c (.error e) c') :
    c.Fails e c' := by
  have ho := op.outcome hi.ready_committed
  rwa [Outcome, show op.call.run c = _ from h] at ho

theorem Op.Replies.inv (hi : Inv c) {reply : Except PyExc op.Ret} (h : op.Replies c reply c') :
    Inv c' := by
  rw [← h.after]
  exact inv_after hi op

/-- Whatever the adapter answers, and whatever others call, the invariant holds on. -/
theorem anyAdapter_inv {call : RunnerCall} {reply : call.Reply} (hi : Inv c)
    (ha : anyAdapter.answers call c reply c') : Inv c' := by
  cases call with
  | ctrl op => exact (ctrl_answers.mp ha).inv hi
  | state => obtain ⟨-, rfl⟩ := ha; exact hi
  | currentTarget => obtain ⟨-, rfl⟩ := ha; exact hi
  | adapter | monotonic | sleep => obtain rfl : c' = c := ha; exact hi

theorem anyAdapter_env_inv (hi : Inv c) (he : anyAdapter.env c c') : Inv c' := by
  obtain ⟨op, -, rfl⟩ := he
  exact inv_after hi op

/-- What a refused call leaves. -/
theorem LifecycleController.Fails.cases {e : PyExc} (h : c.Fails e c') :
    e.isCore = true ∧ c'.currentTarget = c.currentTarget ∧ (c' = c ∨ c'.state = .tainted) := by
  obtain ⟨e, rfl, ⟨-, rfl⟩ | ⟨-, -, reason, rfl⟩⟩ := h
  · exact ⟨rfl, rfl, .inl rfl⟩
  · exact ⟨rfl, rfl, .inr rfl⟩

/-- What a call of an owner or of the operator does to the fields a cycle depends on. -/
theorem owners_after (hi : Inv c) (hop : op.IsOwners) :
    (op.after c).currentTarget = c.currentTarget ∧
      ((op.after c).state = .tainted ∨
        (op.after c).state = c.state ∧ (op.after c).pendingTarget = c.pendingTarget) := by
  obtain ⟨c', hc', he⟩ := op.effect hi
  rw [hc']
  cases he with
  | rejected _ _ hc => rw [hc]; exact ⟨rfl, .inr ⟨rfl, rfl⟩⟩
  | tainted _ _ _ hc => rw [hc]; exact ⟨rfl, .inl rfl⟩
  | accepted hok ha =>
    cases ha with
    | taint => exact ⟨rfl, .inl rfl⟩
    | taintAgain => exact ⟨rfl, .inr ⟨rfl, rfl⟩⟩
    | admitRollout => exact ⟨rfl, .inr ⟨rfl, rfl⟩⟩
    | finishRollout => exact ⟨rfl, .inr ⟨rfl, rfl⟩⟩
    | abortRollout => exact ⟨rfl, .inr ⟨rfl, rfl⟩⟩
    | _ => exact hop.elim

theorem beginDrain_succeeds (hi : Inv c) (hs : c.state = .ready) {e : PyExc} :
    ¬ Op.beginDrain.Replies c (.error e) c' := by
  obtain ⟨t, ht⟩ := Option.ne_none_iff_exists'.mp (hi.ready_committed hs)
  intro h
  have herr : LifecycleController.beginDrain.run c = .error e c' := h
  have hedge : edge .beginDrain = some (c.state, .draining) := by rw [hs]; rfl
  unfold LifecycleController.beginDrain at herr
  rw [bind_of_ok (requireLegal_apply hedge), bind_of_ok (advance_apply hedge _ _),
    bind_of_ok run_get,
    show (c.advanced .draining .beginDrain "" none).currentTarget = some t from ht] at herr
  cases herr

end Replies

/-! ## The controller at each point -/

namespace CyclePoint

/-- The state of an untainted controller at a point between two transitions. -/
def phase : CyclePoint → Option LifecycleState
  | .begun | .draining | .polled _ => some .draining
  | .quiesced => some .quiesced
  | .updating | .opened | .staged _ => some .updating
  | .invalidating | .reset _ => some .invalidating
  | .validating | .validated _ => some .validating
  | .resuming | .resumed _ => some .resuming
  | _ => none

/-- The cycle has failed. -/
def Failing : CyclePoint → Prop
  | .tainting _ | .raised _ => True
  | _ => False

/-- The target committed at a point, when `t₀` was before the cycle. -/
def target (t : UpdateTarget) (t₀ : Option UpdateTarget) : CyclePoint → Option UpdateTarget
  | .committed | .returned _ => some t
  | _ => t₀

/-- What the controller is like at a point of a cycle that installs `t`. -/
structure At (t : UpdateTarget) (t₀ : Option UpdateTarget) (pt : CyclePoint)
    (c : LifecycleController) : Prop where
  inv : Inv c
  current : c.currentTarget = pt.target t t₀
  phase : ∀ s, pt.phase = some s →
    c.state = .tainted ∨ c.state = s ∧ (InFlight s → c.pendingTarget = some t)
  failing : pt.Failing → c.state ≠ .ready
  result : ∀ t', pt = .returned t' → t' = t

section Steps

variable {t : UpdateTarget} {t₀ : Option UpdateTarget} {pt pt' : CyclePoint}
  {c c' : LifecycleController}

theorem At.env (h : pt.At t t₀ c) (he : anyAdapter.env c c') : pt.At t t₀ c' := by
  obtain ⟨op, hop, rfl⟩ := he
  obtain ⟨hcur, hstate⟩ := owners_after h.inv hop
  refine ⟨inv_after h.inv op, hcur.trans h.current, fun s hs => ?_, fun hf => ?_, h.result⟩
  · rcases hstate with ht | ⟨hst, hpend⟩
    · exact .inl ht
    · rw [hst, hpend]
      exact h.phase s hs
  · rcases hstate with ht | ⟨hst, -⟩
    · rw [ht]
      decide
    · rw [hst]
      exact h.failing hf

/-- A controller transition that succeeds, from one phase of a cycle to the next. -/
theorem At.of_accepted (hi : Inv c') (hcur : c'.currentTarget = pt'.target t t₀)
    {s : LifecycleState}
    (hphase : pt'.phase = some s) (hs : c'.state = s) (hp : InFlight s → c'.pendingTarget = some t)
    (hf : ¬ pt'.Failing) (hr : ∀ t', pt' ≠ .returned t') : pt'.At t t₀ c' where
  inv := hi
  current := hcur
  phase s' hs' := .inr (by
    obtain rfl : s = s' := Option.some.inj (hphase.symm.trans hs')
    exact ⟨hs, hp⟩)
  failing h := absurd h hf
  result t' h := absurd h (hr t')

theorem At.pending (h : pt.At t t₀ c) {s : LifecycleState} (hphase : pt.phase = some s)
    (hs : InFlight s) (hne : c.state ≠ .tainted) : c.pendingTarget = some t := by
  rcases h.phase s hphase with ht | ⟨-, hp⟩
  · exact absurd ht hne
  · exact hp hs

theorem At.ne_ready (h : pt.At t t₀ c) {s : LifecycleState} (hphase : pt.phase = some s) :
    c.state ≠ .ready := by
  have hs : s ≠ .ready := by
    rintro rfl
    cases pt <;> cases hphase
  rcases h.phase s hphase with ht | ⟨hst, -⟩
  · rw [ht]
    decide
  · rw [hst]
    exact hs

/-- An adapter call leaves the controller alone, so the phase carries over. -/
theorem At.of_adapter (h : pt.At t t₀ c) (hphase : pt'.phase = pt.phase)
    (htarget : pt'.target t t₀ = pt.target t t₀) (hf : ¬ pt'.Failing)
    (hr : ∀ t', pt' ≠ .returned t') : pt'.At t t₀ c where
  inv := h.inv
  current := by rw [htarget]; exact h.current
  phase s hs := h.phase s (hphase ▸ hs)
  failing hf' := absurd hf' hf
  result t' ht' := absurd ht' (hr t')

theorem At.of_failure (h : pt.At t t₀ c) (hi : Inv c') (hcur : c'.currentTarget = c.currentTarget)
    (htarget : pt'.target t t₀ = pt.target t t₀) (hphase : pt'.phase = none)
    (hs : c'.state ≠ .ready) (hr : ∀ t', pt' ≠ .returned t') : pt'.At t t₀ c' where
  inv := hi
  current := by rw [htarget, hcur]; exact h.current
  phase s hs' := by rw [hphase] at hs'; cases hs'
  failing _ := hs
  result t' ht' := absurd ht' (hr t')

theorem phase_of_adapter {m : AdapterCall} (h : pt.call? t = some (.adapter m)) :
    ∃ s, pt.phase = some s := by
  cases pt <;> cases h <;> exact ⟨_, rfl⟩

theorem target_of_adapter {m : AdapterCall} (h : pt.call? t = some (.adapter m)) :
    pt.target t t₀ = t₀ := by
  cases pt <;> cases h <;> rfl

theorem target_of_ctrl {op : Op} (h : pt.call? t = some (.ctrl op)) : pt.target t t₀ = t₀ := by
  cases pt <;> cases h <;> rfl

theorem At.refused (h : pt.At t t₀ c) {op : Op} {e : PyExc} (hcall : pt.call? t = some (.ctrl op))
    (ha : op.Replies c (.error e) c') : (CyclePoint.raised e).At t t₀ c' := by
  obtain ⟨-, hcur, hc⟩ := (ha.fails h.inv).cases
  refine h.of_failure (ha.inv h.inv) hcur (target_of_ctrl hcall).symm rfl ?_ (by simp)
  rcases hc with rfl | ht
  · cases pt <;> cases hcall
    case start.refl => exact fun hs => beginDrain_succeeds h.inv hs ha
    case tainting.refl => exact h.failing trivial
    all_goals exact h.ne_ready rfl
  · rw [ht]
    decide

/-- **Every call keeps `At`.** -/
theorem At.step (h : pt.At t t₀ c) {call : RunnerCall} {reply : call.Reply}
    (hstep : CycleStep t pt call reply pt') (ha : anyAdapter.answers call c reply c') :
    pt'.At t t₀ c' := by
  cases hstep with
  | view hv =>
    rw [view_answers hv ha]
    exact h
  | beginDrain =>
    have hi := (ctrl_answers.mp ha).inv h.inv
    cases (ctrl_answers.mp ha).accepted h.inv with
    | beginDrain hs ht =>
      exact .of_accepted hi h.current rfl rfl (by simp [InFlight]) not_false (by simp)
  | pause => obtain rfl : c' = c := ha; exact h.of_adapter rfl rfl not_false (by simp)
  | poll => obtain rfl : c' = c := ha; exact h.of_adapter rfl rfl not_false (by simp)
  | notYet =>
    obtain ⟨-, hcur, hc⟩ := ((ctrl_answers.mp ha).fails h.inv).cases
    refine ⟨(ctrl_answers.mp ha).inv h.inv, hcur.trans h.current, fun s hs => ?_, False.elim,
      by simp⟩
    rcases hc with rfl | ht
    · exact h.phase s hs
    · exact .inl ht
  | drained =>
    have hi := (ctrl_answers.mp ha).inv h.inv
    cases (ctrl_answers.mp ha).accepted h.inv with
    | confirmDrained hs =>
      exact .of_accepted hi h.current rfl rfl (by simp [InFlight]) not_false (by simp)
  | beginUpdate =>
    have hi := (ctrl_answers.mp ha).inv h.inv
    cases (ctrl_answers.mp ha).accepted h.inv with
    | beginUpdate hs => exact .of_accepted hi h.current rfl rfl (fun _ => rfl) not_false (by simp)
  | startUpdate => obtain rfl : c' = c := ha; exact h.of_adapter rfl rfl not_false (by simp)
  | transfer => obtain rfl : c' = c := ha; exact h.of_adapter rfl rfl not_false (by simp)
  | updated =>
    have hi := (ctrl_answers.mp ha).inv h.inv
    cases (ctrl_answers.mp ha).accepted h.inv with
    | confirmUpdated hs =>
      have hp := h.pending rfl (.inl rfl) (by simp [hs])
      exact .of_accepted hi h.current rfl rfl (fun _ => hp) not_false (by simp)
  | invalidate => obtain rfl : c' = c := ha; exact h.of_adapter rfl rfl not_false (by simp)
  | invalidated =>
    have hi := (ctrl_answers.mp ha).inv h.inv
    cases (ctrl_answers.mp ha).accepted h.inv with
    | confirmInvalidated hs =>
      have hp := h.pending rfl (.inr (.inl rfl)) (by simp [hs])
      exact .of_accepted hi h.current rfl rfl (fun _ => hp) not_false (by simp)
  | validate => obtain rfl : c' = c := ha; exact h.of_adapter rfl rfl not_false (by simp)
  | validated =>
    have hi := (ctrl_answers.mp ha).inv h.inv
    cases (ctrl_answers.mp ha).accepted h.inv with
    | confirmValidated hs =>
      have hp := h.pending rfl (.inr (.inr (.inl rfl))) (by simp [hs])
      exact .of_accepted hi h.current rfl rfl (fun _ => hp) not_false (by simp)
  | resume => obtain rfl : c' = c := ha; exact h.of_adapter rfl rfl not_false (by simp)
  | resumed =>
    have hi := (ctrl_answers.mp ha).inv h.inv
    cases (ctrl_answers.mp ha).accepted h.inv with
    | confirmResumed hs hpend =>
      have hp := h.pending rfl (.inr (.inr (.inr rfl))) (by simp [hs])
      exact ⟨hi, hpend.symm.trans hp, by simp [CyclePoint.phase], False.elim, by simp⟩
  | commit =>
    obtain ⟨hr, rfl⟩ := ha
    have ht := Option.some.inj (hr.trans h.current)
    exact ⟨h.inv, h.current, by simp [CyclePoint.phase], False.elim, by simp [ht]⟩
  | uncommitted =>
    obtain ⟨hr, rfl⟩ := ha
    cases hr.trans h.current
  | refused hcall => exact h.refused hcall (ctrl_answers.mp ha)
  | failed hcall =>
    obtain rfl : c' = c := ha
    obtain ⟨s, hs⟩ := phase_of_adapter hcall
    exact h.of_failure h.inv rfl (target_of_adapter hcall).symm rfl (h.ne_ready hs) (by simp)
  | ambiguous hcall | unprinted hcall =>
    obtain rfl : c' = c := ha
    obtain ⟨s, hs⟩ := phase_of_adapter hcall
    exact h.of_failure h.inv rfl (target_of_adapter hcall).symm rfl (h.ne_ready hs) (by simp)
  | tainted =>
    have hi := (ctrl_answers.mp ha).inv h.inv
    cases (ctrl_answers.mp ha).accepted h.inv with
    | taint => exact h.of_failure hi rfl rfl rfl (by simp) (by simp)
    | taintAgain hs => exact h.of_failure hi rfl rfl rfl (by simp [hs]) (by simp)

theorem At.of_trace {r : LifecycleRunner}
    {B : List CycleEvent → LifecycleController → Prop} {tr : List CycleEvent}
    (hB : ∀ tr c, B tr c → Inv c ∧ c.currentTarget = t₀)
    (h : CycleTrace r anyAdapter t B pt tr c) : pt.At t t₀ c := by
  induction h with
  | start h =>
    obtain ⟨hi, hcur⟩ := hB _ _ h
    exact ⟨hi, hcur, by simp [CyclePoint.phase], False.elim, by simp⟩
  | env _ he ih => exact ih.env he
  | call _ hstep ha ih => exact ih.step hstep ha
  | exhausted _ ih => exact ih.of_failure ih.inv rfl rfl rfl (ih.ne_ready rfl) (by simp)

end Steps

end CyclePoint

end RolloutCore
