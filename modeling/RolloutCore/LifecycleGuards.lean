import RolloutCore.CycleGuarantees

/-!
# Guards that cannot fire

The shape of a reachable controller, and what follows for the guards of the operations: the asserts
on the current and the pending target and the guards in front of them are dead code, except in
`next_target`. The final assert of `run_cycle` is too, whatever the adapter does and whatever calls
others make in between.
-/

namespace RolloutCore

open CallOutcome LifecycleController

/-! ## The shape of a controller -/

/-- How the state determines which of the other fields are set. -/
structure LifecycleController.Shape (c : LifecycleController) : Prop where
  uninitialized : c.state = .uninitialized →
    c.currentTarget = none ∧ c.pendingTarget = none ∧ c.journal = []
  committed : c.state ≠ .uninitialized → c.state ≠ .tainted → c.currentTarget ≠ none
  pending : c.pendingTarget ≠ none ↔ InFlight c.state
  ahead : ∀ p, c.pendingTarget = some p →
    ∃ t, c.currentTarget = some t ∧ t.version < p.version
  tainted : c.state = .tainted → c.pendingTarget = none ∧ c.activeRollouts = [] ∧
    c.taintReason ≠ none ∧ c.taintedInState ≠ none
  untainted : c.state ≠ .tainted → c.taintReason = none ∧ c.taintedInState = none
  orphans : c.orphaned ≠ [] → c.state = .tainted

section Guards

variable {c : LifecycleController} (h : Inv c)

include h

theorem LifecycleController.Inv.inFlight_committed (hs : InFlight c.state) :
    c.currentTarget ≠ none := by
  apply h.committed
  · rintro hu
    rw [hu] at hs
    simp [InFlight] at hs
  · rintro ht
    rw [ht] at hs
    simp [InFlight] at hs

theorem LifecycleController.Inv.shape : c.Shape where
  uninitialized hs := by
    obtain ⟨hcurrent, hjournal, -⟩ := h.fresh hs
    exact ⟨hcurrent, h.not_inFlight_pending (by simp [hs, InFlight]), hjournal⟩
  committed := h.committed
  pending := h.pending
  ahead p hp := by
    have hs := h.pending.mp (by simp [hp])
    obtain ⟨t, ht⟩ := Option.ne_none_iff_exists'.mp (h.inFlight_committed hs)
    exact ⟨t, ht, h.ahead p hp t ht⟩
  tainted hs := by
    refine ⟨h.not_inFlight_pending (by simp [hs, InFlight]), ?_, h.reason.mpr hs,
      h.taintedIn.mpr hs⟩
    exact OrderedDict.values_eq_nil.mpr (h.no_active (by simp [hs]) (by simp [hs]))
  untainted hs := ⟨not_not.mp fun hr => hs (h.reason.mp hr),
    not_not.mp fun ht => hs (h.taintedIn.mp ht)⟩
  orphans := h.orphansTainted

/-! ## The guards of the operations -/

/-- No call but `next_target` is rejected for a target that is not there. -/
theorem Rejects.ne_atomicity {op : Op} {e : RolloutCoreError} (hr : Rejects op c e)
    (hop : ∀ i, op ≠ .nextTarget i) (detail : String) :
    e ≠ .invariantViolation "I1-ATOMICITY" detail := by
  have hpending : InFlight c.state → c.pendingTarget ≠ none := h.pending.mpr
  cases hr with
  | uncommitted hs ht => exact absurd ht (h.committed (by simp [hs]) (by simp [hs]))
  | notUpdating hs hp => exact absurd hp (hpending (.inl hs))
  | notInvalidating hs hp => exact absurd hp (hpending (.inr (.inl hs)))
  | notValidating hs hp => exact absurd hp (hpending (.inr (.inr (.inl hs))))
  | notResuming hs hp => exact absurd hp (hpending (.inr (.inr (.inr hs))))
  | noNext => exact absurd rfl (hop _)
  | _ => simp

/-- No call is rejected for an admission without a target. -/
theorem Rejects.ne_noTarget {op : Op} {e : RolloutCoreError} (hr : Rejects op c e) :
    e ≠ .invariantViolation "I2-BINDING"
      "cannot admit a rollout before a target has been committed" := by
  cases hr with
  | noTarget hs ht => exact absurd ht (h.ready_committed hs)
  | alreadyActive =>
    -- the other text begins with another letter
    intro heq
    obtain ⟨-, hdetail⟩ := RolloutCoreError.invariantViolation.inj heq
    have hhead := congrArg (fun s => s.toList.head?) hdetail
    simp [toString] at hhead
  | _ => simp

theorem Op.raises {op : Op} {e : PyExc} {c' : LifecycleController}
    (hr : op.call.run c = .error e c') : c.FailsBy (Rejects op c) e c' := by
  have hdecides := op.decides h.ready_committed
  rwa [Decides, hr] at hdecides

end Guards

/-! ## The final assert of a cycle -/

/-- The controller under a runner with an arbitrary adapter, and under callers that may make any
call, another runner among them. -/
def anyCallers : World RunnerCall.Reply LifecycleController where
  answers := runnerAnswers
  env c c' := ∃ op : Op, op.after c = c'

section Cycle

variable {r : LifecycleRunner} {t : UpdateTarget} {pt pt' : CyclePoint} {tr : List CycleEvent}
  {c c' : LifecycleController}

/-- An adapter call raised an `AssertionError`, or an exception whose `repr` raises one. -/
def AdapterAsserts (tr : List CycleEvent) : Prop :=
  ∃ m e c₁ c₂, (e = .assertion ∨ e.repr = .error .assertion) ∧
    adapterEvent m (Except.error e) c₁ c₂ ∈ tr

theorem AdapterAsserts.append (h : AdapterAsserts tr) (x : CycleEvent) :
    AdapterAsserts (tr ++ [x]) := by
  obtain ⟨m, e, c₁, c₂, he, hmem⟩ := h
  exact ⟨m, e, c₁, c₂, he, List.mem_append_left _ hmem⟩

/-- The account of the final assert along a cycle: what it reads is there, and no other assert has
failed but an adapter's. -/
structure AssertAccount (pt : CyclePoint) (tr : List CycleEvent) (c : LifecycleController) :
    Prop where
  inv : Inv c
  committed : pt = .committed → c.currentTarget ≠ none
  reads : ∀ reply c₁ c₂, .call .currentTarget reply c₁ c₂ ∈ tr → reply ≠ none
  asserts : pt = .raised .assertion → AdapterAsserts tr

theorem AssertAccount.env (h : AssertAccount pt tr c) (he : anyCallers.env c c') :
    AssertAccount pt (tr ++ [.env c c']) c' := by
  obtain ⟨op, rfl⟩ := he
  refine ⟨inv_after h.inv op, fun hpt => committed_after h.inv (h.committed hpt) op, ?_,
    fun hpt => (h.asserts hpt).append _⟩
  intro reply c₁ c₂ hmem
  exact h.reads reply c₁ c₂ (by simpa using hmem)

theorem AssertAccount.next (h : AssertAccount pt tr c) {call : RunnerCall} {reply : call.Reply}
    (ha : anyCallers.answers call c reply c') (hcall : call ≠ .currentTarget)
    (hcommitted : pt' = .committed → c'.currentTarget ≠ none)
    (hasserts : pt' = .raised .assertion →
      AdapterAsserts (tr ++ [.call call reply c c'])) :
    AssertAccount pt' (tr ++ [.call call reply c c']) c' := by
  refine ⟨anyAdapter_inv h.inv ha, hcommitted, ?_, hasserts⟩
  intro reply' c₁ c₂ hmem
  rcases List.mem_append.mp hmem with hmem | hmem
  · exact h.reads reply' c₁ c₂ hmem
  · have heq := List.mem_singleton.mp hmem
    cases heq
    exact absurd rfl hcall

theorem AssertAccount.step (h : AssertAccount pt tr c) {call : RunnerCall} {reply : call.Reply}
    (hstep : CycleStep t pt call reply pt') (ha : anyCallers.answers call c reply c') :
    AssertAccount pt' (tr ++ [.call call reply c c']) c' := by
  cases hstep with
  | view hv =>
    have hc : c' = c := view_answers hv ha
    refine h.next ha (fun hcall => ?_) (fun hpt => ?_) fun hpt => (h.asserts hpt).append _
    · subst hcall
      exact hv
    · rw [hc]
      exact h.committed hpt
  | resumed =>
    refine h.next ha (by simp) (fun _ => ?_) (by simp)
    cases (ctrl_answers.mp ha).accepted h.inv with
    | confirmResumed => simp
  | commit =>
    refine ⟨anyAdapter_inv h.inv ha, by simp, fun reply c₁ c₂ hmem => ?_, by simp⟩
    rcases List.mem_append.mp hmem with hmem | hmem
    · exact h.reads reply c₁ c₂ hmem
    · cases List.mem_singleton.mp hmem
      simp
  | uncommitted =>
    -- the target committed by `confirm_resumed` is still there
    obtain ⟨hread, -⟩ := ha
    exact absurd hread.symm (h.committed rfl)
  | refused =>
    obtain ⟨e, rfl, -⟩ := (ctrl_answers.mp ha).fails h.inv
    exact h.next ha (by simp) (by simp) (by simp)
  | failed =>
    refine h.next ha (by simp) (by simp) fun hpt => ?_
    cases hpt
    exact ⟨_, _, c, c', .inl rfl, List.mem_append_right _ (List.mem_singleton_self _)⟩
  | unprinted _ _ _ hr =>
    refine h.next ha (by simp) (by simp) fun hpt => ?_
    cases hpt
    exact ⟨_, _, c, c', .inr hr, List.mem_append_right _ (List.mem_singleton_self _)⟩
  | _ => exact h.next ha (by simp) (by simp) (by simp)

theorem AssertAccount.of_trace (hi : Inv c) (h : CycleFrom r anyCallers t c pt tr c') :
    AssertAccount pt tr c' := by
  induction h with
  | start h =>
    obtain ⟨rfl, rfl⟩ := h
    exact ⟨hi, by simp, by simp, by simp⟩
  | env _ he ih => exact ih.env he
  | call _ hstep ha ih => exact ih.step hstep ha
  | exhausted _ ih => exact ⟨ih.inv, by simp, ih.reads, by simp⟩

end Cycle

/-- **The shape of a controller, and its dead guards.** A reachable controller has the shape its
state determines. No call on it fails an assert; none but `next_target` finds the current or the
pending target missing; no admission finds it missing. In a run of `run_cycle`, with any adapter and
with any calls of others in between, the final assert finds a target, so an `AssertionError` can
only be the adapter's. -/
theorem guards_never_fire (c : LifecycleController) (hc : Reachable c) :
    c.Shape ∧
    (∀ (op : Op) (e : PyExc) (c' : LifecycleController), op.call.run c = .error e c' →
      e ≠ .assertion ∧
      ((∀ i, op ≠ .nextTarget i) → ∀ detail,
        e ≠ .core (.invariantViolation "I1-ATOMICITY" detail)) ∧
      e ≠ .core (.invariantViolation "I2-BINDING"
        "cannot admit a rollout before a target has been committed")) ∧
    ∀ (r : LifecycleRunner) (t : UpdateTarget) (tr : List CycleEvent) (p : RunnerProg CycleResult)
      (c' : LifecycleController), Run anyCallers (r.runCycle t) c tr p c' →
      (∀ reply c₁ c₂, .call .currentTarget reply c₁ c₂ ∈ tr → reply ≠ none) ∧
      (p = .throw .assertion → AdapterAsserts tr) := by
  refine ⟨hc.inv.shape, fun op e c' hr => ?_, fun r t tr p c' h => ?_⟩
  · obtain ⟨e, rfl, ⟨hrejects, -⟩ | ⟨htaint, -⟩⟩ := Op.raises hc.inv hr
    · refine ⟨by simp, fun hop detail heq => ?_, fun heq => ?_⟩
      · exact hrejects.ne_atomicity hc.inv hop detail (PyExc.core.inj heq)
      · exact hrejects.ne_noTarget hc.inv (PyExc.core.inj heq)
    · refine ⟨by simp, fun _ detail heq => ?_, fun heq => ?_⟩
      · rw [PyExc.core.inj heq] at htaint
        cases htaint
      · rw [PyExc.core.inj heq] at htaint
        cases htaint
  · obtain ⟨pt, htrace, -, hraise⟩ := cycleFrom_of_run h
    have haccount := AssertAccount.of_trace hc.inv htrace
    exact ⟨haccount.reads, fun hp => haccount.asserts (hraise _ hp)⟩

/-- A controller that has committed its first target admits a rollout or refuses for another
reason. -/
theorem guards_never_fire_bootstrapped : bootstrapped.currentTarget ≠ none ∧
    ∀ e c', (Op.admitRollout "R1").call.run bootstrapped = .error e c' → e ≠ .assertion := by
  obtain ⟨hshape, hguards, -⟩ := guards_never_fire bootstrapped reachable_bootstrapped
  exact ⟨hshape.committed (by decide +kernel) (by decide +kernel), fun e c' h => (hguards _ e c' h).1⟩

end RolloutCore
