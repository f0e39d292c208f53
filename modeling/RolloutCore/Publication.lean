import RolloutCore.LifecycleGuarantees
import RolloutCore.Lib.Register

/-!
# The controller as a register of generations

What a controller is for: rollouts read one committed target after the other, and a target changes
only while nobody reads. `LifecycleController.register` forgets everything else about a controller;
the histories of controllers are exactly the histories of registers (`histories_exact`).
-/

namespace RolloutCore

open CallOutcome LifecycleController

/-! ## The abstraction -/

/-- What the others see of a controller: a request reads a target. -/
abbrev RolloutEvent := RegisterEvent String UpdateTarget

/-- The target a bootstrap may commit. -/
def FirstTarget (t : UpdateTarget) : Prop := t.version = ⟨INITIAL_VERSION⟩

/-- The later generation. -/
def Later (t t' : UpdateTarget) : Prop := t.version < t'.version

/-- The bindings of a controller, active or orphaned. -/
def LifecycleController.bindings (c : LifecycleController) : List RolloutBinding :=
  c.activeRollouts ++ c.orphaned.map (·.binding)

/-- The target a request is bound to. -/
def LifecycleController.reader (c : LifecycleController) (id : String) : Option UpdateTarget :=
  (c.bindings.find? fun b => b.requestId = id).map (·.target)

/-- The register a controller is. -/
def LifecycleController.register (c : LifecycleController) : Register String UpdateTarget where
  current := c.currentTarget
  admitting := c.state = .ready
  failed := c.state = .tainted
  readers := c.reader

namespace Op

/-- What a call that returned has done for everybody to see. -/
def visible : (op : Op) → op.Ret → List RolloutEvent
  | .initialise e, _ => [.publish ⟨⟨INITIAL_VERSION⟩, e.weightIdentity⟩]
  | .beginDrain, _ => [.close]
  | .confirmResumed e, _ => [.publish e.target]
  | .admitRollout id, b => [.enter id (RolloutBinding.target b)]
  | .finishRollout id, b => [.leave id (RolloutBinding.target b)]
  | .abortRollout id, b => [.leave id (RolloutBinding.target b)]
  | _, _ => []

/-- The events of a call: what it returned, and a failure when it tainted. -/
def events (op : Op) (c : LifecycleController) : List RolloutEvent :=
  (match op.call.run c with
    | .ok r _ => op.visible r
    | .error _ _ => []) ++
  if c.state ≠ .tainted ∧ (op.after c).state = .tainted then [.fail] else []

end Op

/-- A call on the controller, with what it lets others see. -/
def controllerStep (c : LifecycleController) (es : List RolloutEvent) (c' : LifecycleController) :
    Prop :=
  ∃ op : Op, op.after c = c' ∧ op.events c = es

/-- The steps of the register a controller is to be. -/
abbrev registerStep : Register String UpdateTarget → List RolloutEvent →
    Register String UpdateTarget → Prop :=
  Register.Step FirstTarget Later

section Calls

variable {c c' : LifecycleController} {op : Op}

theorem Op.after_of_run {r : op.Ret} (h : op.call.run c = .ok r c') : op.after c = c' := by
  unfold Op.after
  rw [h]

/-- The events of a call that returned and did not taint. -/
theorem Op.events_of_ok {r : op.Ret} (h : op.call.run c = .ok r c')
    (hs : c.state = .tainted ∨ c'.state ≠ .tainted) : op.events c = op.visible r := by
  unfold Op.events
  rw [Op.after_of_run h, h, if_neg, List.append_nil]
  rintro ⟨hs₁, hs₂⟩
  exact hs.elim hs₁ fun hne => hne hs₂

/-- Any accepted call is a step. -/
theorem controllerStep_of_ok (op : Op) {r : op.Ret} (h : op.call.run c = .ok r c')
    (hs : c.state = .tainted ∨ c'.state ≠ .tainted) : controllerStep c (op.visible r) c' :=
  ⟨op, Op.after_of_run h, Op.events_of_ok h hs⟩

end Calls

/-! ## The controller refines the register -/

section Readers

variable {c : LifecycleController} {id id' : String}

/-- The orphans of a taint are the bindings, in order. -/
theorem orphans_bindings (st : LifecycleState) (reason : String) (n : ℕ)
    (bs : List RolloutBinding) : (orphans st reason n bs).map (·.binding) = bs := by
  induction bs generalizing n with
  | nil => rfl
  | cons b bs ih =>
    unfold orphans
    rw [List.map_cons, ih]

theorem bindings_taintedWith (h : Inv c) (hs : c.state ≠ .tainted) (reason : String) :
    (c.taintedWith reason).bindings = c.bindings := by
  unfold bindings activeRollouts
  rw [taintedWith_orphaned, taintedWith_active, h.no_orphans hs, List.nil_append,
    orphans_bindings, OrderedDict.values_empty, List.map_nil, List.append_nil, List.nil_append]

/-- Before a taint a request reads by its active binding. -/
theorem reader_eq (h : Inv c) (hs : c.state ≠ .tainted) :
    c.reader id = (c.active.get? id).map (·.target) := by
  unfold reader bindings activeRollouts
  rw [h.no_orphans hs, List.map_nil, List.append_nil,
    OrderedDict.find?_values fun k b hb => (h.bound k b hb).1]

theorem reader_eq_none (h : Inv c) (hs : c.state ≠ .tainted) :
    c.reader id = none ↔ id ∉ c.active.keys := by
  rw [reader_eq h hs, Option.map_eq_none_iff, OrderedDict.mem_keys_iff_isSome, Bool.not_eq_true,
    Option.isSome_eq_false_iff, Option.isNone_iff_eq_none]

end Readers

section Refinement

variable {c c' : LifecycleController} {r : Register String UpdateTarget}

theorem register_eq (hcur : c.currentTarget = r.current)
    (hadm : r.admitting = true ↔ c.state = .ready) (hf : r.failed = true ↔ c.state = .tainted)
    (hr : ∀ id, c.reader id = r.readers id) : c.register = r :=
  Register.ext hcur (Bool.eq_iff_iff.mpr (by simp [register, hadm]))
    (Bool.eq_iff_iff.mpr (by simp [register, hf])) (funext hr)

/-- A transition that neither publishes, closes nor taints is not seen. -/
theorem register_of_silent (hcur : c'.currentTarget = c.currentTarget)
    (hadm : c'.state = .ready ↔ c.state = .ready) (hf : c'.state = .tainted ↔ c.state = .tainted)
    (hr : ∀ id, c'.reader id = c.reader id) : c'.register = c.register :=
  register_eq hcur (by simp [register, hadm]) (by simp [register, hf]) hr

theorem register_published {t : UpdateTarget} (hcur : c'.currentTarget = some t)
    (hs : c.state ≠ .tainted) (hs' : c'.state = .ready) (hr : ∀ id, c'.reader id = c.reader id) :
    c'.register = { c.register with current := some t, admitting := true } :=
  register_eq hcur (by simp [hs']) (by simp [register, hs, hs']) hr

theorem register_closed (hcur : c'.currentTarget = c.currentTarget) (hs : c.state = .ready)
    (hs' : c'.state = .draining) (hr : ∀ id, c'.reader id = c.reader id) :
    c'.register = { c.register with admitting := false } :=
  register_eq hcur (by simp [hs']) (by simp [register, hs, hs']) hr

/-- Taking a request in or out is an update of the readers. -/
theorem register_of_move {id : String} {v : Option UpdateTarget}
    (hcur : c'.currentTarget = c.currentTarget) (hstate : c'.state = c.state)
    (hr : ∀ id', c'.reader id' = if id' = id then v else c.reader id') :
    c'.register = { c.register with readers := Function.update c.register.readers id v } := by
  refine register_eq hcur (by simp [register, hstate]) (by simp [register, hstate]) fun id' => ?_
  rw [hr]
  by_cases h : id' = id
  · rw [h, if_pos rfl]
    exact (Function.update_self id v c.register.readers).symm
  · rw [if_neg h]
    exact (Function.update_of_ne h v c.register.readers).symm

theorem reader_admitted (h : Inv c) {id id' : String} {t : UpdateTarget} (hs : c.state = .ready)
    (ht : c.currentTarget = some t) (hid : id ∉ c.active.keys) :
    (c.admitted id t).reader id' = if id' = id then some t else c.reader id' := by
  rw [reader_eq (inv_admitted h hs ht hid) (by simp [hs]), reader_eq h (by simp [hs]),
    admitted_active, OrderedDict.get?_insert]
  split_ifs <;> rfl

theorem reader_released (h : Inv c) {id id' : String} {b : RolloutBinding} {event : RecordEvent}
    (hs : c.state = .ready ∨ c.state = .draining) :
    (c.released id b event).reader id' = if id' = id then none else c.reader id' := by
  have hne : c.state ≠ .tainted := by rcases hs with hs | hs <;> simp [hs]
  rw [reader_eq (inv_released h id b event hs) hne, reader_eq h hne, released_active,
    OrderedDict.get?_erase]
  split_ifs <;> rfl

theorem register_taintedWith (h : Inv c) (hs : c.state ≠ .tainted) (reason : String) :
    (c.taintedWith reason).register = { c.register with failed := true, admitting := false } := by
  refine register_eq rfl (by simp) (by simp) fun id => ?_
  unfold reader
  rw [bindings_taintedWith h hs]
  rfl

/-- A rollout that leaves read the target it was bound to. -/
theorem reader_of_get? (h : Inv c) (hs : c.state = .ready ∨ c.state = .draining) {id : String}
    {b : RolloutBinding} (hb : c.active.get? id = some b) : c.reader id = some b.target := by
  rw [reader_eq h (by rcases hs with hs | hs <;> simp [hs]), hb]
  rfl

theorem Op.after_taint (hs : c.state ≠ .tainted) (reason : String) :
    (Op.taint reason).after c = c.taintedWith reason :=
  Op.after_of_run (taintWith_apply hs reason none)

/-- A first taint is a failure. -/
theorem Op.events_taint (hs : c.state ≠ .tainted) (reason : String) :
    (Op.taint reason).events c = [.fail] := by
  have hrun : (Op.taint reason).call.run c = .ok _ (c.taintedWith reason) :=
    taintWith_apply hs reason none
  unfold Op.events
  rw [hrun, Op.after_taint hs, if_pos ⟨hs, rfl⟩]
  rfl

/-- **Every call is a step of the register**, or is not seen. -/
theorem controller_simulates :
    Simulates controllerStep registerStep fun c r => Inv c ∧ r = c.register := by
  rintro c _ _ _ ⟨hi, rfl⟩ ⟨op, rfl, rfl⟩
  refine ⟨_, ?_, inv_after hi op, rfl⟩
  obtain ⟨c', hc, he⟩ := op.effect hi
  rw [hc]
  cases he with
  | rejected h he heq =>
    have hes : op.events c = [] := by
      unfold Op.events
      rw [h, hc, heq, if_neg fun hs => hs.1 hs.2]
      rfl
    rw [hes, heq]
    exact .nil
  | tainted h he hs heq =>
    have hes : op.events c = [.fail] := by
      unfold Op.events
      rw [h, hc, heq, if_pos ⟨hs, rfl⟩]
      rfl
    rw [hes, heq, register_taintedWith hi hs]
    exact .single (.fail (by simp [register, hs]))
  | @accepted r h ha =>
    -- of the accepted calls only a first taint taints
    have hes : c'.state ≠ .tainted → op.events c = op.visible r :=
      fun hs => Op.events_of_ok h (.inr hs)
    cases ha with
    | initialise hs =>
      rw [hes (by simp)]
      refine (Behaves.single ?_).cast
        (register_published (c := c) rfl (by simp [hs]) rfl fun _ => rfl)
      exact .first (by simp [register, hs]) (hi.fresh hs).1 (show FirstTarget _ from rfl)
    | beginDrain hs =>
      rw [hes (by simp)]
      refine (Behaves.single ?_).cast (register_closed (c := c) rfl hs rfl fun _ => rfl)
      exact .close (by simp [register, hs])
    | confirmDrained hs
    | beginUpdate hs
    | confirmUpdated hs
    | confirmInvalidated hs
    | confirmValidated hs =>
      rw [hes (by simp)]
      exact Behaves.nil.cast (register_of_silent rfl (by simp [hs]) (by simp [hs]) fun _ => rfl)
    | confirmResumed hs hp =>
      obtain ⟨t, ht⟩ := Option.ne_none_iff_exists'.mp (hi.committed (by simp [hs]) (by simp [hs]))
      have hkeys : c.active.entries = [] := hi.no_active (by simp [hs]) (by simp [hs])
      rw [hes (by simp)]
      refine (Behaves.single ?_).cast
        (register_published (c := c) rfl (by simp [hs]) rfl fun _ => rfl)
      refine .publish ?_ ht ?_ (fun id => ?_) (show Later _ _ from hi.ahead _ hp _ ht)
      · simp [register, hs]
      · simp [register, hs]
      · refine (reader_eq_none hi (by simp [hs])).mpr ?_
        rw [OrderedDict.keys, hkeys]
        exact List.not_mem_nil
    | @taint _ reason hs =>
      rw [Op.events_taint hs, register_taintedWith hi hs]
      exact .single (.fail (by simp [register, hs]))
    | taintAgain hs =>
      rw [Op.events_of_ok h (.inl hs)]
      exact .nil
    | nextTarget =>
      by_cases hs : c.state = .tainted
      · rw [Op.events_of_ok h (.inl hs)]
        exact .nil
      · rw [hes hs]
        exact .nil
    | @admitRollout _ id t hs ht hid =>
      rw [hes (by simp [hs])]
      refine (Behaves.single ?_).cast
        (register_of_move (c := c) rfl rfl fun id' => reader_admitted hi hs ht hid)
      exact .enter (by simp [register, hs]) ht ((reader_eq_none hi (by simp [hs])).mpr hid)
    | @finishRollout _ id b hs hb
    | @abortRollout _ id b hs hb =>
      have hne : c.state ≠ .tainted := by rcases hs with hs | hs <;> simp [hs]
      rw [hes hne]
      refine (Behaves.single ?_).cast
        (register_of_move (c := c) rfl rfl fun id' => reader_released hi hs)
      exact .leave (by simp [register, hne]) (reader_of_get? hi hs hb)

end Refinement

/-! ## The register refines the controller -/

section Realization

variable {c : LifecycleController}

theorem admitRollout_apply {id : String} {t : UpdateTarget} (hs : c.state = .ready)
    (ht : c.currentTarget = some t) (hid : id ∉ c.active.keys) :
    (admitRollout id).run c = .ok (c.bindingOf id t) (c.admitted id t) := by
  unfold admitRollout
  rw [bind_of_ok run_get, ht, hs,
    bind_of_ok (show (raiseIf _ _).run c = .ok () c from rfl),
    bind_of_ok (show (require (some t).isSome _ _).run c = .ok () c from rfl), decide_eq_true hid,
    bind_of_ok (show (require true _ _).run c = .ok () c from rfl),
    bind_of_ok (show (assertSome (some t)).run c = .ok t c from rfl)]
  simp only [admitted, recorded, bindingOf, hs, ht]
  rfl

/-- A state the calls of a publication start from and end in. -/
def Resting (s : LifecycleState) : Prop :=
  s = .uninitialized ∨ s = .ready ∨ s = .draining ∨ s = .tainted

/-- A call that nobody sees. -/
theorem behaves_silently {c₀ c' : LifecycleController} {h : List RolloutEvent} (op : Op)
    {r : op.Ret} (hb : Behaves controllerStep c₀ h c) (hrun : op.call.run c = .ok r c')
    (hr : op.visible r = []) (hs : c'.state ≠ .tainted) : Behaves controllerStep c₀ h c' := by
  have hstep := controllerStep_of_ok op hrun (.inr hs)
  rw [hr] at hstep
  exact hb.silent hstep

/-- The calls that publish `t` after the drain has begun. -/
theorem publishes_of_draining {t₀ t : UpdateTarget} (hs : c.state = .draining)
    (ha : c.active.entries = []) (ht : c.currentTarget = some t₀) (hlt : t₀.version < t.version) :
    ∃ c', Behaves controllerStep c [.publish t] c' ∧ c'.state = .ready ∧
      c'.currentTarget = some t ∧ ∀ id, c'.reader id = c.reader id := by
  let c₁ := c.advanced .quiesced .confirmDrained goodDrain.note none
  let c₂ := { c₁.advanced .updating .beginUpdate s!"target={t.describe}" (some t) with
    pendingTarget := some t }
  have hb : Behaves controllerStep c [] c₁ := behaves_silently (.confirmDrained goodDrain) .nil
    (confirmDrained_apply hs ha rfl rfl) rfl (by simp [c₁])
  obtain ⟨_, hbegun⟩ := beginUpdate_apply (c := c₁) rfl ht hlt
  have hb := behaves_silently (.beginUpdate t) hb hbegun rfl (by simp)
  obtain ⟨_, detail, hupdated⟩ := confirmUpdated_apply (c := c₂) (e := goodUpdate t) rfl rfl
    (UpdateEvidence.failureReason_eq_none.mpr ⟨rfl, rfl, rfl, .inr rfl⟩)
  have hb := behaves_silently (.confirmUpdated (goodUpdate t)) hb hupdated rfl (by simp)
  let c₃ := c₂.advanced .invalidating .confirmUpdated detail (some t)
  obtain ⟨_, hreset⟩ :=
    confirmInvalidated_apply (c := c₃) (e := goodInvalidate) (p := t) rfl rfl rfl
  have hb := behaves_silently (.confirmInvalidated goodInvalidate) hb hreset rfl (by simp)
  let c₄ := c₃.advanced .validating .confirmInvalidated "" (some t)
  obtain ⟨_, hvalid⟩ := confirmValidated_apply (c := c₄) (e := goodValidate t) rfl rfl
    (ValidateEvidence.failureReason_eq_none.mpr ⟨rfl, rfl, rfl⟩)
  have hb := behaves_silently (.confirmValidated (goodValidate t)) hb hvalid rfl (by simp)
  have hresumed := confirmResumed_apply (e := goodResume t) (c := c₄.advanced .resuming
    .confirmValidated s!"validated while paused: {t.describe}" (some t)) rfl rfl
    (ResumeEvidence.failureReason_eq_none.mpr ⟨rfl, rfl, .inr rfl⟩)
  exact ⟨_, hb.snoc (controllerStep_of_ok (.confirmResumed (goodResume t)) hresumed
    (.inr (by simp))), rfl, rfl, fun _ => rfl⟩

/-- **Every step of a register is some calls of a controller.** -/
theorem register_simulated : Simulates registerStep controllerStep fun r c =>
    c.register = r ∧ Inv c ∧ Resting c.state := by
  rintro _ c es r' ⟨rfl, hi, hrest⟩ hstep
  -- what the calls leave keeps the invariant
  suffices h : ∃ c', Behaves controllerStep c es c' ∧ c'.register = r' ∧ Resting c'.state by
    obtain ⟨c', hb, hr, hs⟩ := h
    refine ⟨c', hb, hr, ?_, hs⟩
    refine hb.invariant (J := fun _ c => Inv c) (fun _ _ _ _ hi hs => ?_) hi
    obtain ⟨op, rfl, -⟩ := hs
    exact inv_after hi op
  cases hstep with
  | @first g hf hc hg =>
    have hne : c.state ≠ .tainted := by simpa [register] using hf
    have hs : c.state = .uninitialized := by
      by_contra hu
      exact hi.committed hu hne hc
    obtain ⟨v, i⟩ := g
    obtain rfl : v = ⟨INITIAL_VERSION⟩ := hg
    have hpass : (goodBootstrap i).failureReason = none := by
      unfold BootstrapEvidence.failureReason goodBootstrap
      rfl
    have hrun := initialise_apply hs hpass WeightVersion.parseLabel_initial
    refine ⟨_, .single (controllerStep_of_ok (.initialise (goodBootstrap i)) hrun
      (.inr (by simp))), register_published rfl hne rfl fun _ => rfl, .inr (.inl rfl)⟩
  | @publish t₀ t hf hc ha hr hlt =>
    have hne : c.state ≠ .tainted := by simpa [register] using hf
    have hready : c.state ≠ .ready := by simpa [register] using ha
    have hcur : c.currentTarget = some t₀ := hc
    have hfresh : c.state ≠ .uninitialized := fun hu => by
      rw [(hi.fresh hu).1] at hcur
      cases hcur
    have hs : c.state = .draining := by simpa [Resting, hne, hready, hfresh] using hrest
    have hact : c.active.entries = [] := by
      have hkeys : c.active.keys = [] := List.eq_nil_iff_forall_not_mem.mpr fun id =>
        (reader_eq_none hi hne).mp (hr id)
      exact List.map_eq_nil_iff.mp hkeys
    obtain ⟨c', hb, hs', hcur', hread⟩ := publishes_of_draining hs hact hcur hlt
    exact ⟨c', hb, register_published hcur' hne hs' hread, .inr (.inl hs')⟩
  | close ha =>
    have hs : c.state = .ready := by simpa [register] using ha
    obtain ⟨t, ht⟩ := Option.ne_none_iff_exists'.mp (hi.ready_committed hs)
    obtain ⟨plan, hrun⟩ := beginDrain_apply hs ht
    exact ⟨_, .single (controllerStep_of_ok (.beginDrain) hrun (.inr (by simp))),
      register_closed rfl hs rfl fun _ => rfl, .inr (.inr (.inl rfl))⟩
  | @enter id t ha hc hk =>
    have hs : c.state = .ready := by simpa [register] using ha
    have hid := (reader_eq_none hi (by simp [hs])).mp hk
    refine ⟨_, .single (controllerStep_of_ok (.admitRollout id)
      (admitRollout_apply hs hc hid) (.inr (by simp [hs]))), ?_, .inr (.inl hs)⟩
    exact register_of_move rfl rfl fun id' => reader_admitted hi hs hc hid
  | @leave id t hf hk =>
    have hne : c.state ≠ .tainted := by simpa [register] using hf
    have hk' : c.reader id = some t := hk
    rw [reader_eq hi hne, Option.map_eq_some_iff] at hk'
    obtain ⟨b, hb, rfl⟩ := hk'
    have hs : c.state = .ready ∨ c.state = .draining :=
      hi.serving (List.ne_nil_of_mem (OrderedDict.get?_eq_some.mp hb))
    refine ⟨_, .single (controllerStep_of_ok (.finishRollout id)
      (releaseRollout_apply hs hb) (.inr hne)), ?_, hrest⟩
    exact register_of_move rfl rfl fun id' => reader_released hi hs
  | fail hf =>
    have hne : c.state ≠ .tainted := by simpa [register] using hf
    exact ⟨c.taintedWith "", .single ⟨.taint "", Op.after_taint hne "", Op.events_taint hne ""⟩,
      register_taintedWith hi hne "", .inr (.inr (.inr rfl))⟩

end Realization

/-! ## Histories -/

/-- What a run of a new controller lets others see. -/
def history (ops : List Op) : List RolloutEvent :=
  (traceOps ops .init).flatMap fun m => m.2.events m.1

theorem history_snoc (ops : List Op) (op : Op) :
    history (ops ++ [op]) = history ops ++ op.events (runOps ops) := by
  unfold history traceOps
  rw [Runs.trace_append, List.flatMap_append]
  simp

theorem behaves_iff {h : List RolloutEvent} {c : LifecycleController} :
    Behaves controllerStep .init h c ↔ ∃ ops, history ops = h ∧ runOps ops = c := by
  constructor
  · intro hb
    refine hb.invariant (J := fun h c => ∃ ops, history ops = h ∧ runOps ops = c) ?_ ⟨[], rfl, rfl⟩
    rintro _ _ _ _ ⟨ops, rfl, rfl⟩ ⟨op, rfl, rfl⟩
    exact ⟨ops ++ [op], history_snoc ops op, Runs.run_append ops [op] _⟩
  · rintro ⟨ops, rfl, rfl⟩
    induction ops using List.reverseRecOn with
    | nil => exact .nil
    | append_singleton ops op ih =>
      rw [history_snoc, show runOps (ops ++ [op]) = op.after (runOps ops) from
        Runs.run_append ops [op] _]
      exact ih.snoc ⟨op, rfl, rfl⟩

theorem register_init : LifecycleController.init.register = .empty :=
  register_eq rfl (by simp [init, Register.empty]) (by simp [init, Register.empty]) fun _ => rfl

/-- **The controller is a register of generations.** Reduced to what rollouts see of them
(publications, admissions, releases, the close of admission and the failure), the runs of a new
controller are exactly the behaviours of the register that publishes ever later targets and never
while a reader is inside; so every such history is orderly. -/
theorem histories_exact (h : List RolloutEvent) (r : Register String UpdateTarget) :
    ((∃ ops, history ops = h ∧ (runOps ops).register = r) ↔ Behaves registerStep .empty h r) ∧
      (Behaves registerStep .empty h r → Before (Register.Orderly Later) h) := by
  refine ⟨⟨?_, fun hb => ?_⟩, fun hb => ?_⟩
  · rintro ⟨ops, rfl, rfl⟩
    obtain ⟨_, hb, -, rfl⟩ := controller_simulates.behaves (behaves_iff.mpr ⟨ops, rfl, rfl⟩)
      ⟨inv_init, register_init.symm⟩
    exact hb
  · obtain ⟨c, hc, hr, -⟩ := register_simulated.behaves hb ⟨register_init, inv_init, .inl rfl⟩
    obtain ⟨ops, hh, rfl⟩ := behaves_iff.mp hc
    exact ⟨ops, hh, hr⟩
  · refine Register.orderly (fun a b c hab hbc => ?_) hb
    exact Nat.lt_trans (m := b.version.value) hab hbc

end RolloutCore
