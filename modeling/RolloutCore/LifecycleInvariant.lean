import RolloutCore.LifecycleSteps
import RolloutCore.Lib.Machines

/-!
# The state-shape invariant

`Inv` relates the lifecycle state to the other fields; every call preserves it (`inv_after`), so
it holds of every controller a run produces (`Reachable.inv`).
-/

namespace RolloutCore

open CallOutcome LifecycleController

/-! ## One call as a step -/

/-- The controller after a call, however it ended. -/
def Op.after (op : Op) (c : LifecycleController) : LifecycleController :=
  match op.call.run c with
  | .ok _ c' => c'
  | .error _ c' => c'

/-- The call returned. -/
def Op.succeeds (op : Op) (c : LifecycleController) : Bool :=
  match op.call.run c with
  | .ok _ _ => true
  | .error _ _ => false

/-- A controller some sequence of calls produces from a new one. -/
abbrev Reachable (c : LifecycleController) : Prop := Runs.Reachable Op.after .init c

namespace LifecycleController

/-- The states in which a target is in flight. -/
def InFlight (s : LifecycleState) : Prop :=
  s = .updating ∨ s = .invalidating ∨ s = .validating ∨ s = .resuming

/-- How the state determines the shape of the other fields. -/
structure Inv (c : LifecycleController) : Prop where
  fresh : c.state = .uninitialized → c.currentTarget = none ∧ c.journal = [] ∧ c.orphaned = []
  committed : c.state ≠ .uninitialized → c.state ≠ .tainted → c.currentTarget ≠ none
  pending : c.pendingTarget ≠ none ↔ InFlight c.state
  ahead : ∀ p ∈ c.pendingTarget, ∀ t ∈ c.currentTarget, t.version < p.version
  reason : c.taintReason ≠ none ↔ c.state = .tainted
  taintedIn : c.taintedInState ≠ none ↔ c.state = .tainted
  orphansTainted : c.orphaned ≠ [] → c.state = .tainted
  serving : c.active.entries ≠ [] → c.state = .ready ∨ c.state = .draining
  bound : ∀ k b, (k, b) ∈ c.active.entries →
    b.requestId = k ∧ c.currentTarget = some b.target ∧ b.cacheSalt = b.version.cacheSalt
  ordered : c.active.values.Pairwise fun a b => a.admittedSeq < b.admittedSeq
  numbered : ∀ b ∈ c.active.values, b.admittedSeq ≤ c.seq

theorem inv_init : Inv .init where
  fresh _ := ⟨rfl, rfl, rfl⟩
  committed h := absurd rfl h
  pending := by simp [init, InFlight]
  ahead := by simp [init]
  reason := by simp [init]
  taintedIn := by simp [init]
  orphansTainted := by simp [init]
  serving := by simp [init]
  bound := by simp [init]
  ordered := by simp [init]
  numbered := by simp [init]

theorem Inv.ready_committed {c : LifecycleController} (h : Inv c) (hs : c.state = .ready) :
    c.currentTarget ≠ none :=
  h.committed (by simp [hs]) (by simp [hs])

/-! ## Preservation -/

section Preservation

variable {c : LifecycleController} (h : Inv c)

include h

/-- No binding is active outside READY and DRAINING. -/
theorem Inv.no_active (hr : c.state ≠ .ready) (hd : c.state ≠ .draining) :
    c.active.entries = [] := by
  by_contra ha
  exact (h.serving ha).elim hr hd

/-- An active binding carries the request id it is filed under. -/
theorem Inv.activeIds : c.activeRollouts.map (·.requestId) = c.active.keys := by
  unfold activeRollouts OrderedDict.values OrderedDict.keys
  rw [List.map_map]
  exact List.map_congr_left fun e he => (h.bound e.1 e.2 he).1

theorem Inv.not_inFlight_pending (hs : ¬ InFlight c.state) : c.pendingTarget = none := by
  by_contra hp
  exact hs (h.pending.mp hp)

theorem Inv.no_orphans (hs : c.state ≠ .tainted) : c.orphaned = [] := by
  by_contra ho
  exact hs (h.orphansTainted ho)

/-- A table step with no active binding keeps the invariant when its targets fit its new state. -/
theorem Inv.of_table_step {c' : LifecycleController} (ha : c.active.entries = [])
    (hactive : c'.active = c.active) (horphaned : c'.orphaned = c.orphaned)
    (hreason : c'.taintReason = c.taintReason) (htainted : c'.taintedInState = c.taintedInState)
    (hs : c.state ≠ .tainted) (hs' : c'.state ≠ .tainted) (hu' : c'.state ≠ .uninitialized)
    (hcommitted : c'.currentTarget ≠ none) (hpending : c'.pendingTarget ≠ none ↔ InFlight c'.state)
    (hahead : ∀ p ∈ c'.pendingTarget, ∀ t ∈ c'.currentTarget, t.version < p.version) : Inv c' where
  fresh hu := absurd hu hu'
  committed _ _ := hcommitted
  pending := hpending
  ahead := hahead
  reason := by rw [hreason, h.reason]; exact iff_of_false hs hs'
  taintedIn := by rw [htainted, h.taintedIn]; exact iff_of_false hs hs'
  orphansTainted ho := by
    rw [horphaned] at ho
    exact absurd (h.orphansTainted ho) hs
  serving hne := by rw [hactive] at hne; exact absurd ha hne
  bound k b hb := by rw [hactive, ha] at hb; cases hb
  ordered := by rw [hactive, OrderedDict.values_eq_nil.mpr ha]; exact .nil
  numbered b hb := by rw [hactive, OrderedDict.values_eq_nil.mpr ha] at hb; cases hb

omit h in
theorem inv_taintedWith (reason : String) : Inv (c.taintedWith reason) where
  fresh hu := by simp at hu
  committed _ ht := absurd rfl ht
  pending := by simp [InFlight]
  ahead := by simp
  reason := by simp
  taintedIn := by simp
  orphansTainted _ := rfl
  serving hne := absurd rfl hne
  bound k b hb := by cases hb
  ordered := .nil
  numbered b hb := by cases hb

theorem inv_admitted {id : String} {t : UpdateTarget} (hs : c.state = .ready)
    (ht : c.currentTarget = some t) (hid : id ∉ c.active.keys) : Inv (c.admitted id t) where
  fresh hu := by simp [hs] at hu
  committed := h.committed
  pending := h.pending
  ahead := h.ahead
  reason := h.reason
  taintedIn := h.taintedIn
  orphansTainted := h.orphansTainted
  serving _ := .inl hs
  bound k b hb := by
    rw [admitted_active, OrderedDict.entries_insert hid, List.mem_append, List.mem_singleton] at hb
    rcases hb with hb | hb
    · exact h.bound k b hb
    · obtain ⟨rfl, rfl⟩ := Prod.mk.inj hb
      exact ⟨rfl, ht, rfl⟩
  ordered := by
    rw [admitted_active, OrderedDict.values_insert hid, List.pairwise_append]
    refine ⟨h.ordered, List.pairwise_singleton _ _, fun a ha b hb => ?_⟩
    obtain rfl := List.mem_singleton.mp hb
    exact Nat.lt_succ_of_le (h.numbered a ha)
  numbered b hb := by
    rw [admitted_active, OrderedDict.values_insert hid, List.mem_append, List.mem_singleton] at hb
    rcases hb with hb | rfl
    · exact (h.numbered b hb).trans (Nat.le_succ _)
    · exact le_rfl

theorem inv_released (id : String) (b : RolloutBinding) (event : RecordEvent)
    (hs : c.state = .ready ∨ c.state = .draining) : Inv (c.released id b event) where
  fresh hu := by rcases hs with hs | hs <;> simp [hs] at hu
  committed := h.committed
  pending := h.pending
  ahead := h.ahead
  reason := h.reason
  taintedIn := h.taintedIn
  orphansTainted := h.orphansTainted
  serving _ := hs
  bound k b' hb := h.bound k b' (OrderedDict.mem_entries_erase.mp hb).1
  ordered := h.ordered.sublist (OrderedDict.values_erase_sublist _ _)
  numbered b' hb := (h.numbered b' ((OrderedDict.values_erase_sublist _ _).subset hb)).trans
    (Nat.le_succ _)

/-- Every accepted call keeps the invariant. -/
theorem inv_accepted {op : Op} {r : op.Ret} {c' : LifecycleController} (ha : Accepted op c r c') :
    Inv c' := by
  cases ha with
  | initialise hs he hl =>
    have hact := h.no_active (by simp [hs]) (by simp [hs])
    exact h.of_table_step hact rfl rfl rfl rfl (by simp [hs]) (by simp) (by simp) (by simp)
      (by simp [InFlight, h.not_inFlight_pending (by simp [hs, InFlight])])
      (by simp [h.not_inFlight_pending (by simp [hs, InFlight])])
  | beginDrain hs ht =>
    have hp := h.not_inFlight_pending (by simp [hs, InFlight])
    exact {
      fresh := by simp
      committed := fun _ _ => by simp [ht]
      pending := by simp [hp, InFlight]
      ahead := by simp [hp]
      reason := by simpa [hs] using h.reason
      taintedIn := by simpa [hs] using h.taintedIn
      orphansTainted := fun ho => by simpa [hs] using h.orphansTainted ho
      serving := fun _ => .inr rfl
      bound := h.bound
      ordered := h.ordered
      numbered := fun b hb => (h.numbered b hb).trans (Nat.le_succ _) }
  | confirmDrained hs hact he =>
    have hp := h.not_inFlight_pending (by simp [hs, InFlight])
    exact h.of_table_step hact rfl rfl rfl rfl (by simp [hs]) (by simp) (by simp)
      (h.committed (by simp [hs]) (by simp [hs])) (by simp [hp, InFlight]) (by simp [hp])
  | beginUpdate hs ht hlt =>
    have hact := h.no_active (by simp [hs]) (by simp [hs])
    exact h.of_table_step hact rfl rfl rfl rfl (by simp [hs]) (by simp) (by simp) (by simp [ht])
      (by simp [InFlight]) (by simp [ht, hlt])
  | confirmUpdated hs hp he =>
    have hact := h.no_active (by simp [hs]) (by simp [hs])
    exact h.of_table_step hact rfl rfl rfl rfl (by simp [hs]) (by simp) (by simp)
      (h.committed (by simp [hs]) (by simp [hs])) (by simp [hp, InFlight]) h.ahead
  | confirmInvalidated hs hp he =>
    have hact := h.no_active (by simp [hs]) (by simp [hs])
    exact h.of_table_step hact rfl rfl rfl rfl (by simp [hs]) (by simp) (by simp)
      (h.committed (by simp [hs]) (by simp [hs])) (by simp [hp, InFlight]) h.ahead
  | confirmValidated hs hp he =>
    have hact := h.no_active (by simp [hs]) (by simp [hs])
    exact h.of_table_step hact rfl rfl rfl rfl (by simp [hs]) (by simp) (by simp)
      (h.committed (by simp [hs]) (by simp [hs])) (by simp [hp, InFlight]) h.ahead
  | confirmResumed hs hp he =>
    have hact := h.no_active (by simp [hs]) (by simp [hs])
    exact h.of_table_step hact rfl rfl rfl rfl (by simp [hs]) (by simp) (by simp) (by simp)
      (by simp [InFlight]) (by simp)
  | taint hs => exact inv_taintedWith _
  | taintAgain hs => exact h
  | nextTarget ht => exact h
  | admitRollout hs ht hid => exact inv_admitted h hs ht hid
  | finishRollout hs hb => exact inv_released h _ _ _ hs
  | abortRollout hs hb => exact inv_released h _ _ _ hs

end Preservation

end LifecycleController

/-! ## Steps and runs -/

/-- The three ways a call at `c` ends in `c'`. -/
inductive Op.Effect (op : Op) (c c' : LifecycleController) : Prop
  | accepted {r : op.Ret} (h : op.call.run c = .ok r c') (ha : Accepted op c r c')
  | rejected {e : RolloutCoreError} (h : op.call.run c = .error (.core e) c')
      (he : e.isInvariantViolation = true) (hc : c' = c)
  | tainted {e : RolloutCoreError} {reason : String} (h : op.call.run c = .error (.core e) c')
      (he : e.isEngineTainted = true) (hs : c.state ≠ .tainted) (hc : c' = c.taintedWith reason)

variable {c : LifecycleController}

theorem Op.effect (h : Inv c) (op : Op) : ∃ c', op.after c = c' ∧ op.Effect c c' := by
  have ho := op.outcome h.ready_committed
  unfold Outcome at ho
  unfold Op.after
  cases hr : op.call.run c with
  | ok r c' =>
    rw [hr] at ho
    exact ⟨c', rfl, .accepted hr ho⟩
  | error exc c' =>
    rw [hr] at ho
    obtain ⟨e, rfl, ⟨he, hc⟩ | ⟨he, hs, reason, hc⟩⟩ := ho
    · exact ⟨c', rfl, .rejected hr he hc⟩
    · exact ⟨c', rfl, .tainted hr he hs hc⟩

theorem Op.after_of_ok {op : Op} {r : op.Ret} {c' : LifecycleController}
    (h : op.call.run c = .ok r c') : op.after c = c' := by
  unfold Op.after
  rw [h]

theorem Op.succeeds_of_ok {op : Op} {r : op.Ret} {c' : LifecycleController}
    (h : op.call.run c = .ok r c') : op.succeeds c = true := by
  unfold Op.succeeds
  rw [h]

theorem Op.not_succeeds_of_error {op : Op} {e : PyExc} {c' : LifecycleController}
    (h : op.call.run c = .error e c') : op.succeeds c = false := by
  unfold Op.succeeds
  rw [h]

/-- A call that returned was accepted. -/
theorem Op.accepted_of_succeeds (h : Inv c) {op : Op} (hs : op.succeeds c = true) :
    ∃ r c', op.after c = c' ∧ Accepted op c r c' := by
  obtain ⟨c', hc', he⟩ := op.effect h
  cases he with
  | accepted hr ha => exact ⟨_, c', hc', ha⟩
  | rejected hr _ _ => rw [Op.not_succeeds_of_error hr] at hs; cases hs
  | tainted hr _ _ _ => rw [Op.not_succeeds_of_error hr] at hs; cases hs

/-- **Every call preserves the invariant.** -/
theorem inv_after (h : Inv c) (op : Op) : Inv (op.after c) := by
  obtain ⟨c', hc', he⟩ := op.effect h
  rw [hc']
  cases he with
  | accepted _ ha => exact inv_accepted h ha
  | rejected _ _ hc => rw [hc]; exact h
  | tainted _ _ _ hc => rw [hc]; exact inv_taintedWith _

/-- No call takes the committed target away. -/
theorem committed_after (h : Inv c) (hc : c.currentTarget ≠ none) (op : Op) :
    (op.after c).currentTarget ≠ none := by
  obtain ⟨c', hc', he⟩ := op.effect h
  rw [hc']
  cases he with
  | rejected _ _ heq => rw [heq]; exact hc
  | tainted _ _ _ heq => rw [heq]; exact hc
  | accepted _ ha =>
    cases ha with
    | initialise => simp
    | confirmResumed => simp
    | _ => exact hc

/-- No call makes a controller new again. -/
theorem after_ne_uninitialized (h : Inv c) (hs : c.state ≠ .uninitialized) (op : Op) :
    (op.after c).state ≠ .uninitialized := by
  obtain ⟨c', hc', he⟩ := op.effect h
  rw [hc']
  cases he with
  | rejected _ _ hc => rwa [hc]
  | tainted _ _ _ hc => simp [hc]
  | accepted _ ha =>
    cases ha with
    | taintAgain | nextTarget | admitRollout | finishRollout | abortRollout => exact hs
    | _ => simp

/-- A tainted controller stays as it is. -/
theorem after_of_tainted (h : Inv c) (hs : c.state = .tainted)
    (op : Op) : op.after c = c := by
  obtain ⟨c', hc', he⟩ := op.effect h
  rw [hc']
  cases he with
  | rejected _ _ hc => exact hc
  | tainted _ _ hne => exact absurd hs hne
  | accepted hok ha =>
    cases ha with
    | taint hne => exact absurd hs hne
    | taintAgain => rfl
    | nextTarget => rfl
    | finishRollout hs' => simp [hs] at hs'
    | abortRollout hs' => simp [hs] at hs'
    | _ hs' => simp [hs] at hs'

/-- A call that brings a controller to TAINTED taints it. -/
theorem exists_taintedWith (h : Inv c) (hs : c.state ≠ .tainted) {op : Op}
    (ht : (op.after c).state = .tainted) : ∃ reason, op.after c = c.taintedWith reason := by
  obtain ⟨c', hc', he⟩ := op.effect h
  rw [hc'] at ht ⊢
  cases he with
  | rejected _ _ hc => exact absurd (hc ▸ ht) hs
  | tainted _ _ _ hc => exact ⟨_, hc⟩
  | accepted _ ha =>
    cases ha with
    | taint => exact ⟨_, rfl⟩
    | taintAgain | nextTarget | admitRollout | finishRollout | abortRollout => exact absurd ht hs
    | _ => cases ht

theorem Reachable.inv (h : Reachable c) : Inv c :=
  Runs.Reachable.invariant (I := Inv) (fun _ op hc => inv_after hc op) inv_init h

end RolloutCore
