import RolloutCore.Lifecycle
import RolloutCore.Lib.CallOutcome
import Mathlib.Tactic.Simps.Basic

/-!
# What one call on the controller can do

`Op.decides`: a call is accepted, with the effect `Accepted` states for its operation, or it is
rejected for one of the reasons `Rejects` states and changes nothing, or it taints. Everything
proved about the controller goes through this statement, or through `Op.outcome`, which keeps of a
rejection only that it is an `InvariantViolation`; no later proof unfolds an operation.
-/

namespace RolloutCore

open CallOutcome

namespace LifecycleController

/-! ## Effects -/

/-- The controller after one more journal record. -/
@[simps]
def recorded (c : LifecycleController) (toState : LifecycleState) (event : RecordEvent)
    (detail : String) (target : Option UpdateTarget) : LifecycleController :=
  { c with
    seq := c.seq + 1
    journal := c.journal ++ [⟨c.seq + 1, c.state, toState, event,
      target.map (·.version), target.map (·.identity), detail⟩] }

/-- The target a record of the transition core names. -/
def effective (c : LifecycleController) (target : Option UpdateTarget) : Option UpdateTarget :=
  target <|> c.pendingTarget <|> c.currentTarget

/-- The controller after a table-defined transition. -/
@[simps]
def advanced (c : LifecycleController) (next : LifecycleState) (event : Event) (detail : String)
    (target : Option UpdateTarget) : LifecycleController :=
  { c.recorded next (.event event) detail (c.effective target) with state := next }

/-- The controller after its first taint. -/
@[simps]
def taintedWith (c : LifecycleController) (reason : String) : LifecycleController :=
  { ({ c with seq := c.seq + c.active.size }).recorded .tainted (.event .taint) reason
      (c.effective none) with
    state := .tainted
    pendingTarget := none
    taintReason := some reason
    taintedInState := some c.state
    orphaned := c.orphaned ++ orphans c.state reason c.seq c.active.values
    active := .empty }

/-- The binding an admission makes. -/
@[simps]
def bindingOf (c : LifecycleController) (requestId : String) (t : UpdateTarget) : RolloutBinding :=
  ⟨requestId, t.version, t.identity, t.version.cacheSalt, c.seq + 1⟩

/-- The controller after an admission under the target `t`. -/
@[simps]
def admitted (c : LifecycleController) (requestId : String) (t : UpdateTarget) :
    LifecycleController :=
  { c.recorded c.state .admitRollout requestId (some t) with
    active := c.active.insert requestId (c.bindingOf requestId t) }

/-- The controller after the release of `b`. -/
@[simps]
def released (c : LifecycleController) (requestId : String) (b : RolloutBinding)
    (event : RecordEvent) : LifecycleController :=
  { c.recorded c.state event requestId (some b.target) with active := c.active.erase requestId }

/-! ## The transition core -/

/-- A call fails by rejecting, which changes nothing, or by tainting. -/
def Fails (c : LifecycleController) (exc : PyExc) (c' : LifecycleController) : Prop :=
  ∃ e, exc = .core e ∧ (e.isInvariantViolation = true ∧ c' = c ∨
    e.isEngineTainted = true ∧ c.state ≠ .tainted ∧ ∃ reason, c' = c.taintedWith reason)

/-- A call fails by rejecting with an error that `R` allows, which changes nothing, or by
tainting. -/
def FailsBy (R : RolloutCoreError → Prop) (c : LifecycleController) (exc : PyExc)
    (c' : LifecycleController) : Prop :=
  ∃ e, exc = .core e ∧ (R e ∧ c' = c ∨
    e.isEngineTainted = true ∧ c.state ≠ .tainted ∧ ∃ reason, c' = c.taintedWith reason)

theorem FailsBy.fails {R : RolloutCoreError → Prop} {c c' : LifecycleController} {exc : PyExc}
    (h : c.FailsBy R exc c') (hR : ∀ e, R e → e.isInvariantViolation = true) : c.Fails exc c' := by
  obtain ⟨e, rfl, ⟨he, hc⟩ | htaint⟩ := h
  · exact ⟨e, rfl, .inl ⟨hR e he, hc⟩⟩
  · exact ⟨e, rfl, .inr htaint⟩

/-- The states a table event leads from and to. -/
def edge : Event → Option (LifecycleState × LifecycleState)
  | .initialise => some (.uninitialized, .ready)
  | .beginDrain => some (.ready, .draining)
  | .confirmDrained => some (.draining, .quiesced)
  | .beginUpdate => some (.quiesced, .updating)
  | .confirmUpdated => some (.updating, .invalidating)
  | .confirmInvalidated => some (.invalidating, .validating)
  | .confirmValidated => some (.validating, .resuming)
  | .confirmResumed => some (.resuming, .ready)
  | .taint => none

theorem legal_iff {s next : LifecycleState} {event : Event} :
    LEGAL_TRANSITIONS s event = some next ↔ edge event = some (s, next) := by
  cases event <;> cases s <;> simp [LEGAL_TRANSITIONS, edge, eq_comm]

theorem edge_ne_tainted {s next : LifecycleState} {event : Event}
    (h : edge event = some (s, next)) : s ≠ .tainted ∧ next ≠ .tainted := by
  cases event <;> cases h <;> exact ⟨by simp, by simp⟩

theorem advance_apply {c : LifecycleController} {event : Event} {next : LifecycleState}
    (h : edge event = some (c.state, next)) (detail : String) (target : Option UpdateTarget) :
    (advance event detail target).run c = .ok () (c.advanced next event detail target) := by
  unfold advance
  rw [bind_of_ok run_get]
  simp only [legal_iff.mpr h]
  rw [bind_of_ok (show (record _ _ _ _ _).run c =
    .ok () (c.recorded next (.event event) detail (c.effective target)) from rfl)]
  rfl

theorem requireLegal_apply {c : LifecycleController} {event : Event} {next : LifecycleState}
    (h : edge event = some (c.state, next)) : (requireLegal event).run c = .ok () c := by
  unfold requireLegal
  rw [bind_of_ok run_get, legal_iff.mpr h]
  rfl

theorem taintWith_apply {c : LifecycleController} (h : c.state ≠ .tainted) (reason : String)
    (error : Option RolloutCoreError) :
    (taintWith reason error).run c =
      .ok (error.getD (.engineTainted c.state reason)) (c.taintedWith reason) := by
  unfold taintWith
  rw [bind_of_ok run_get]
  simp only [if_neg h]
  rfl

theorem taintWith_tainted {c : LifecycleController} (h : c.state = .tainted) (reason : String)
    (error : Option RolloutCoreError) :
    (taintWith reason error).run c =
      .ok (.engineTainted c.state (strOr c.taintReason reason)) c := by
  unfold taintWith
  rw [bind_of_ok run_get]
  simp only [if_pos h]
  rfl

/-! ## Statements of a call -/

section Statements

variable {α : Type} {R : RolloutCoreError → Prop} {c : LifecycleController}

/-- A statement that returns without a change, having established `P`, or fails as `R` says. -/
abbrev Checks (R : RolloutCoreError → Prop) (c : LifecycleController) (x : Ctl α) (P : α → Prop) :
    Prop :=
  Ends (fun a c' => c' = c ∧ P a) (c.FailsBy R) (x.run c)

theorem Checks.bind {β : Type} {x : Ctl α} {f : α → Ctl β} {P : α → Prop}
    {acc : β → LifecycleController → Prop} (hx : Checks R c x P)
    (hf : ∀ a, P a → Ends acc (c.FailsBy R) ((f a).run c)) :
    Ends acc (c.FailsBy R) ((x >>= f).run c) :=
  Ends.bind hx fun a c' h => by
    obtain ⟨rfl, hP⟩ := h
    exact hf a hP

theorem checks_get : Checks R c (get : Ctl LifecycleController) (· = c) := Ends.get ⟨rfl, rfl⟩

theorem checks_raiseIf {b : Bool} {e : RolloutCoreError} (he : b = true → R e) :
    Checks R c (raiseIf b e) fun _ => b = false := by
  unfold raiseIf
  cases b with
  | false => exact Ends.pure ⟨rfl, rfl⟩
  | true => exact Ends.throw ⟨e, rfl, .inl ⟨he rfl, rfl⟩⟩

theorem checks_require {b : Bool} {invariant detail : String}
    (he : b = false → R (.invariantViolation invariant detail)) :
    Checks R c (require b invariant detail) fun _ => b = true := by
  unfold require
  cases b with
  | false => exact Ends.throw ⟨_, rfl, .inl ⟨he rfl, rfl⟩⟩
  | true => exact Ends.pure ⟨rfl, rfl⟩

theorem checks_requireLegal {event : Event} {source next : LifecycleState}
    (h : edge event = some (source, next))
    (he : R (.illegalTransition c.state (.event event) "")) :
    Checks R c (requireLegal event) fun _ => c.state = source := by
  unfold requireLegal
  refine checks_get.bind fun s hs => ?_
  subst hs
  refine (checks_raiseIf fun _ => he).mono fun _ _ hb => ⟨hb.1, ?_⟩
  obtain ⟨n, hn⟩ := Option.isSome_iff_exists.mp (by simpa using hb.2 : _ = true)
  have he := legal_iff.mp hn
  rw [h] at he
  exact (Prod.mk.inj (Option.some.inj he)).1.symm

theorem checks_assertSome {o : Option α} (h : o ≠ none) :
    Checks R c (assertSome o) fun a => o = some a := by
  cases o with
  | none => exact absurd rfl h
  | some a => exact Ends.pure ⟨rfl, rfl⟩

/-- What is required and then asserted. -/
theorem checks_present {β : Type} {o : Option α} {invariant detail : String} {x : α → Ctl β}
    {acc : β → LifecycleController → Prop}
    (he : o = none → R (.invariantViolation invariant detail))
    (h : ∀ a, o = some a → Ends acc (c.FailsBy R) ((x a).run c)) :
    Ends acc (c.FailsBy R) ((do
      require o.isSome invariant detail
      let a ← assertSome o
      x a : Ctl β).run c) := by
  refine (checks_require fun hb => he (by simpa using hb)).bind fun _ hsome => ?_
  exact (checks_assertSome (Option.isSome_iff_ne_none.mp hsome)).bind fun a ha => h a ha

theorem raiseTaint_fails {acc : α → LifecycleController → Prop} (h : c.state ≠ .tainted)
    {reason : String} {error : Option RolloutCoreError}
    (he : ∀ e ∈ error, e.isEngineTainted = true) :
    Ends acc (c.FailsBy R) ((raiseTaint reason error).run c) := by
  unfold raiseTaint
  rw [bind_of_ok (taintWith_apply h reason error)]
  refine Ends.throw ⟨_, rfl, .inr ⟨?_, h, reason, rfl⟩⟩
  cases error with
  | none => rfl
  | some e => exact he e rfl

theorem checks_taintIf (h : c.state ≠ .tainted) {b : Bool} {reason : String}
    {error : Option RolloutCoreError} (he : ∀ e ∈ error, e.isEngineTainted = true) :
    Checks R c (taintIf b reason error) fun _ => b = false := by
  unfold taintIf
  cases b with
  | false => exact Ends.pure ⟨rfl, rfl⟩
  | true => exact raiseTaint_fails h he

theorem checks_checkEvidence (h : c.state ≠ .tainted) {failureReason : Option String} :
    Checks R c (checkEvidence failureReason) fun _ => failureReason = none := by
  unfold checkEvidence
  cases failureReason with
  | none => exact Ends.pure ⟨rfl, rfl⟩
  | some reason => exact raiseTaint_fails h (by simp)

end Statements

/-! ## The two commits -/

theorem initialise_apply {c : LifecycleController} {e : BootstrapEvidence}
    (hs : c.state = .uninitialized) (he : e.failureReason = none)
    (hl : WeightVersion.parseLabel e.observedEngineLabel = .ok ⟨INITIAL_VERSION⟩) :
    (initialise e).run c = .ok ()
      { c.advanced .ready .initialise s!"backend={e.backend}" none with
        currentTarget := some ⟨⟨INITIAL_VERSION⟩, e.weightIdentity⟩ } := by
  have hedge : edge .initialise = some (c.state, .ready) := by rw [hs]; rfl
  unfold initialise
  rw [bind_of_ok (requireLegal_apply hedge), he,
    bind_of_ok (show (checkEvidence none).run c = .ok () c from rfl)]
  simp only [hl]
  rw [bind_of_ok (show (taintIf _ _ none).run c = .ok () c from rfl),
    bind_of_ok (advance_apply hedge _ _)]
  rfl

theorem confirmResumed_apply {c : LifecycleController} {e : ResumeEvidence}
    (hs : c.state = .resuming) (hp : c.pendingTarget = some e.target)
    (he : e.failureReason = none) :
    (confirmResumed e).run c = .ok ()
      { c.advanced .ready .confirmResumed s!"published={e.target.describe}" (some e.target) with
        currentTarget := some e.target
        pendingTarget := none } := by
  have hedge : edge .confirmResumed = some (c.state, .ready) := by rw [hs]; rfl
  unfold confirmResumed
  rw [bind_of_ok (requireLegal_apply hedge), bind_of_ok run_get, hp, Option.isSome_some,
    bind_of_ok (show (require true _ _).run c = .ok () c from rfl),
    bind_of_ok (show (assertSome (some e.target)).run c = .ok e.target c from rfl),
    decide_eq_false (not_not.mpr rfl),
    bind_of_ok (show (taintIf false _ none).run c = .ok () c from rfl)]
  simp only [he]
  rw [bind_of_ok (advance_apply hedge _ _)]
  rfl

/-! ## The steps of a cycle, where they succeed -/

theorem beginDrain_apply {c : LifecycleController} {t : UpdateTarget} (hs : c.state = .ready)
    (ht : c.currentTarget = some t) :
    ∃ plan, beginDrain.run c = .ok plan (c.advanced .draining .beginDrain "" none) := by
  have hedge : edge .beginDrain = some (c.state, .draining) := by rw [hs]; rfl
  unfold beginDrain
  rw [bind_of_ok (requireLegal_apply hedge), bind_of_ok (advance_apply hedge _ _),
    bind_of_ok run_get,
    show (c.advanced .draining .beginDrain "" none).currentTarget = some t from ht]
  exact ⟨_, rfl⟩

theorem confirmDrained_apply {c : LifecycleController} {e : DrainEvidence}
    (hs : c.state = .draining) (ha : c.active.entries = []) (hd : e.engineDrainCompleted = true)
    (he : e.failureReason = none) :
    (confirmDrained e).run c = .ok () (c.advanced .quiesced .confirmDrained e.note none) := by
  have hedge : edge .confirmDrained = some (c.state, .quiesced) := by rw [hs]; rfl
  unfold confirmDrained
  rw [bind_of_ok (requireLegal_apply hedge), bind_of_ok run_get, hd, ha, he,
    bind_of_ok (show (raiseIf (!true) _).run c = .ok () c from rfl)]
  dsimp only
  rw [decide_eq_false (not_not.mpr rfl),
    bind_of_ok (show (taintIf false _ _).run c = .ok () c from rfl),
    bind_of_ok (show (checkEvidence none).run c = .ok () c from rfl), advance_apply hedge]

theorem beginUpdate_apply {c : LifecycleController} {t t₀ : UpdateTarget}
    (hs : c.state = .quiesced) (ht : c.currentTarget = some t₀) (hlt : t₀.version < t.version) :
    ∃ plan, (beginUpdate t).run c = .ok plan
      { c.advanced .updating .beginUpdate s!"target={t.describe}" (some t) with
        pendingTarget := some t } := by
  have hedge : edge .beginUpdate = some (c.state, .updating) := by rw [hs]; rfl
  unfold beginUpdate
  rw [bind_of_ok (requireLegal_apply hedge), bind_of_ok run_get, ht,
    bind_of_ok (show (require (some t₀).isSome _ _).run c = .ok () c from rfl),
    bind_of_ok (show (assertSome (some t₀)).run c = .ok t₀ c from rfl), decide_eq_true hlt,
    bind_of_ok (show (require true _ _).run c = .ok () c from rfl),
    bind_of_ok (advance_apply hedge _ _)]
  exact ⟨_, rfl⟩

theorem confirmUpdated_apply {c : LifecycleController} {e : UpdateEvidence}
    (hs : c.state = .updating) (hp : c.pendingTarget = some e.target)
    (he : e.failureReason = none) :
    ∃ plan detail, (confirmUpdated e).run c = .ok plan
      (c.advanced .invalidating .confirmUpdated detail (some e.target)) := by
  have hedge : edge .confirmUpdated = some (c.state, .invalidating) := by rw [hs]; rfl
  unfold confirmUpdated
  rw [bind_of_ok (requireLegal_apply hedge), bind_of_ok run_get, hp, he,
    bind_of_ok (show (require (some e.target).isSome _ _).run c = .ok () c from rfl),
    bind_of_ok (show (assertSome (some e.target)).run c = .ok e.target c from rfl),
    decide_eq_false (not_not.mpr rfl),
    bind_of_ok (show (taintIf false _ none).run c = .ok () c from rfl),
    bind_of_ok (show (checkEvidence none).run c = .ok () c from rfl),
    bind_of_ok (advance_apply hedge _ _)]
  exact ⟨_, _, rfl⟩

theorem confirmInvalidated_apply {c : LifecycleController} {e : InvalidateEvidence}
    {p : UpdateTarget} (hs : c.state = .invalidating) (hp : c.pendingTarget = some p)
    (he : e.failureReason = none) :
    ∃ plan, (confirmInvalidated e).run c = .ok plan
      (c.advanced .validating .confirmInvalidated "" (some p)) := by
  have hedge : edge .confirmInvalidated = some (c.state, .validating) := by rw [hs]; rfl
  unfold confirmInvalidated
  rw [bind_of_ok (requireLegal_apply hedge), bind_of_ok run_get, hp, he,
    bind_of_ok (show (require (some p).isSome _ _).run c = .ok () c from rfl),
    bind_of_ok (show (assertSome (some p)).run c = .ok p c from rfl),
    bind_of_ok (show (checkEvidence none).run c = .ok () c from rfl),
    bind_of_ok (advance_apply hedge _ _)]
  exact ⟨_, rfl⟩

theorem confirmValidated_apply {c : LifecycleController} {e : ValidateEvidence}
    (hs : c.state = .validating) (hp : c.pendingTarget = some e.target)
    (he : e.failureReason = none) :
    ∃ plan, (confirmValidated e).run c = .ok plan
      (c.advanced .resuming .confirmValidated s!"validated while paused: {e.target.describe}"
        (some e.target)) := by
  have hedge : edge .confirmValidated = some (c.state, .resuming) := by rw [hs]; rfl
  unfold confirmValidated
  rw [bind_of_ok (requireLegal_apply hedge), bind_of_ok run_get, hp,
    bind_of_ok (show (require (some e.target).isSome _ _).run c = .ok () c from rfl),
    bind_of_ok (show (assertSome (some e.target)).run c = .ok e.target c from rfl),
    decide_eq_false (not_not.mpr rfl),
    bind_of_ok (show (taintIf false _ none).run c = .ok () c from rfl)]
  simp only [he]
  rw [bind_of_ok (advance_apply hedge _ _)]
  exact ⟨_, rfl⟩

theorem nextTarget_apply {c : LifecycleController} {i : Option WeightIdentity} {t : UpdateTarget}
    (ht : c.currentTarget = some t) :
    (nextTarget i).run c = .ok ⟨t.version.next, i.getD t.identity⟩ c := by
  unfold nextTarget
  rw [bind_of_ok run_get, ht,
    bind_of_ok (show (require (some t).isSome _ _).run c = .ok () c from rfl),
    bind_of_ok (show (assertSome (some t)).run c = .ok t c from rfl)]
  rfl

theorem releaseRollout_apply {c : LifecycleController} {id : String} {b : RolloutBinding}
    {event : RecordEvent} (hs : c.state = .ready ∨ c.state = .draining)
    (hb : c.active.get? id = some b) :
    (releaseRollout id event).run c = .ok b (c.released id b event) := by
  have hmem : c.state ∈ ROLLOUT_COMPLETION_STATES := by
    rcases hs with hs | hs <;> simp [hs, ROLLOUT_COMPLETION_STATES]
  unfold releaseRollout
  rw [bind_of_ok run_get, decide_eq_false (not_not.mpr hmem),
    bind_of_ok (show (raiseIf false _).run c = .ok () c from rfl)]
  simp only [hb]
  rfl

end LifecycleController

/-! ## The effect of an accepted call -/

open LifecycleController

/-- `Accepted op c r c'`: at `c` the call `op` returns `r` and leaves `c'`. One constructor an
operation; a taint of a tainted controller has its own. -/
inductive Accepted :
    (op : Op) → LifecycleController → op.Ret → LifecycleController → Prop
  | initialise {c : LifecycleController} {e : BootstrapEvidence} (hs : c.state = .uninitialized)
      (he : e.failureReason = none)
      (hl : WeightVersion.parseLabel e.observedEngineLabel = .ok ⟨INITIAL_VERSION⟩) :
      Accepted (.initialise e) c ()
        { c.advanced .ready .initialise s!"backend={e.backend}" none with
          currentTarget := some ⟨⟨INITIAL_VERSION⟩, e.weightIdentity⟩ }
  | beginDrain {c : LifecycleController} {t : UpdateTarget} {plan : CyclePlan}
      (hs : c.state = .ready) (ht : c.currentTarget = some t) :
      Accepted .beginDrain c plan (c.advanced .draining .beginDrain "" none)
  | confirmDrained {c : LifecycleController} {e : DrainEvidence} (hs : c.state = .draining)
      (ha : c.active.entries = []) (he : e.failureReason = none) :
      Accepted (.confirmDrained e) c () (c.advanced .quiesced .confirmDrained e.note none)
  | beginUpdate {c : LifecycleController} {t t₀ : UpdateTarget} {plan : CyclePlan}
      (hs : c.state = .quiesced) (ht : c.currentTarget = some t₀) (hlt : t₀.version < t.version) :
      Accepted (.beginUpdate t) c plan
        { c.advanced .updating .beginUpdate s!"target={t.describe}" (some t) with
          pendingTarget := some t }
  | confirmUpdated {c : LifecycleController} {e : UpdateEvidence} {plan : CyclePlan}
      {detail : String} (hs : c.state = .updating) (hp : c.pendingTarget = some e.target)
      (he : e.failureReason = none) :
      Accepted (.confirmUpdated e) c plan
        (c.advanced .invalidating .confirmUpdated detail (some e.target))
  | confirmInvalidated {c : LifecycleController} {e : InvalidateEvidence} {p : UpdateTarget}
      {plan : CyclePlan} (hs : c.state = .invalidating) (hp : c.pendingTarget = some p)
      (he : e.failureReason = none) :
      Accepted (.confirmInvalidated e) c plan
        (c.advanced .validating .confirmInvalidated "" (some p))
  | confirmValidated {c : LifecycleController} {e : ValidateEvidence} {plan : CyclePlan}
      (hs : c.state = .validating) (hp : c.pendingTarget = some e.target)
      (he : e.failureReason = none) :
      Accepted (.confirmValidated e) c plan
        (c.advanced .resuming .confirmValidated s!"validated while paused: {e.target.describe}"
          (some e.target))
  | confirmResumed {c : LifecycleController} {e : ResumeEvidence} (hs : c.state = .resuming)
      (hp : c.pendingTarget = some e.target) (he : e.failureReason = none) :
      Accepted (.confirmResumed e) c ()
        { c.advanced .ready .confirmResumed s!"published={e.target.describe}" (some e.target) with
          currentTarget := some e.target
          pendingTarget := none }
  | taint {c : LifecycleController} {reason : String} (hs : c.state ≠ .tainted) :
      Accepted (.taint reason) c (.engineTainted c.state reason) (c.taintedWith reason)
  | taintAgain {c : LifecycleController} {reason : String} {e : RolloutCoreError}
      (hs : c.state = .tainted) : Accepted (.taint reason) c e c
  | nextTarget {c : LifecycleController} {i : Option WeightIdentity} {t : UpdateTarget}
      (ht : c.currentTarget = some t) :
      Accepted (.nextTarget i) c ⟨t.version.next, i.getD t.identity⟩ c
  | admitRollout {c : LifecycleController} {id : String} {t : UpdateTarget}
      (hs : c.state = .ready) (ht : c.currentTarget = some t) (hid : id ∉ c.active.keys) :
      Accepted (.admitRollout id) c (c.bindingOf id t) (c.admitted id t)
  | finishRollout {c : LifecycleController} {id : String} {b : RolloutBinding}
      (hs : c.state = .ready ∨ c.state = .draining) (hb : c.active.get? id = some b) :
      Accepted (.finishRollout id) c b (c.released id b .finishRollout)
  | abortRollout {c : LifecycleController} {id : String} {b : RolloutBinding}
      (hs : c.state = .ready ∨ c.state = .draining) (hb : c.active.get? id = some b) :
      Accepted (.abortRollout id) c b (c.released id b .abortRollout)

/-! ## The reasons of a rejected call -/

/-- `Rejects op c e`: at `c` the call `op` may raise `e`, leaving `c` as it is. -/
inductive Rejects : Op → LifecycleController → RolloutCoreError → Prop
  | illegal {c : LifecycleController} {op : Op} {event : RecordEvent} {detail : String} :
      Rejects op c (.illegalTransition c.state event detail)
  | notReady {c : LifecycleController} {e : DrainEvidence} {detail : String}
      (he : e.engineDrainCompleted = false) :
      Rejects (.confirmDrained e) c (.evidenceNotReady "I5-DRAIN" detail)
  | uncommitted {c : LifecycleController} {t : UpdateTarget} {detail : String}
      (hs : c.state = .quiesced) (ht : c.currentTarget = none) :
      Rejects (.beginUpdate t) c (.invariantViolation "I1-ATOMICITY" detail)
  | notAhead {c : LifecycleController} {t t₀ : UpdateTarget} {detail : String}
      (hs : c.state = .quiesced) (ht : c.currentTarget = some t₀)
      (hlt : ¬ t₀.version < t.version) :
      Rejects (.beginUpdate t) c (.invariantViolation "I1-MONOTONIC" detail)
  | notUpdating {c : LifecycleController} {e : UpdateEvidence} {detail : String}
      (hs : c.state = .updating) (hp : c.pendingTarget = none) :
      Rejects (.confirmUpdated e) c (.invariantViolation "I1-ATOMICITY" detail)
  | notInvalidating {c : LifecycleController} {e : InvalidateEvidence} {detail : String}
      (hs : c.state = .invalidating) (hp : c.pendingTarget = none) :
      Rejects (.confirmInvalidated e) c (.invariantViolation "I1-ATOMICITY" detail)
  | notValidating {c : LifecycleController} {e : ValidateEvidence} {detail : String}
      (hs : c.state = .validating) (hp : c.pendingTarget = none) :
      Rejects (.confirmValidated e) c (.invariantViolation "I1-ATOMICITY" detail)
  | notResuming {c : LifecycleController} {e : ResumeEvidence} {detail : String}
      (hs : c.state = .resuming) (hp : c.pendingTarget = none) :
      Rejects (.confirmResumed e) c (.invariantViolation "I1-ATOMICITY" detail)
  | noNext {c : LifecycleController} {i : Option WeightIdentity} {detail : String}
      (ht : c.currentTarget = none) :
      Rejects (.nextTarget i) c (.invariantViolation "I1-ATOMICITY" detail)
  | notServing {c : LifecycleController} {id : String} (hs : c.state ≠ .ready) :
      Rejects (.admitRollout id) c (.notServing c.state)
  | noTarget {c : LifecycleController} {id : String} (hs : c.state = .ready)
      (ht : c.currentTarget = none) :
      Rejects (.admitRollout id) c (.invariantViolation "I2-BINDING"
        "cannot admit a rollout before a target has been committed")
  | alreadyActive {c : LifecycleController} {id : String} (hid : id ∈ c.active.keys) :
      Rejects (.admitRollout id) c (.invariantViolation "I2-BINDING"
        s!"rollout {pyRepr id} is already active")
  | unknown {c : LifecycleController} {op : Op} {id : String} (hid : c.active.get? id = none) :
      Rejects op c (.unknownRollout id)

theorem Rejects.isInvariantViolation {op : Op} {c : LifecycleController} {e : RolloutCoreError}
    (h : Rejects op c e) : e.isInvariantViolation = true := by
  cases h <;> rfl

/-! ## One lemma an operation -/

section Outcomes

variable {c : LifecycleController}

/-- The call ends as `Accepted` says, or it is rejected as `Rejects` says, or it taints. -/
abbrev Decides (c : LifecycleController) (op : Op) : Prop :=
  Ends (Accepted op c) (c.FailsBy (Rejects op c)) (op.call.run c)

/-- The call ends as `Accepted` says, or it fails. -/
abbrev Outcome (c : LifecycleController) (op : Op) : Prop :=
  Ends (Accepted op c) c.Fails (op.call.run c)

theorem ne_tainted {s : LifecycleState} (h : c.state = s) (hs : s ≠ .tainted) :
    c.state ≠ .tainted := by
  rw [h]
  exact hs

theorem decides_initialise (e : BootstrapEvidence) : Decides c (.initialise e) := by
  show Ends _ _ ((LifecycleController.initialise e).run c)
  unfold LifecycleController.initialise
  refine (checks_requireLegal rfl .illegal).bind fun _ hs => ?_
  have ht := ne_tainted hs (by decide)
  refine (checks_checkEvidence ht).bind fun _ he => ?_
  cases hl : WeightVersion.parseLabel e.observedEngineLabel with
  | error exc => exact raiseTaint_fails ht (by simp)
  | ok observed =>
    refine (checks_taintIf ht (by simp)).bind fun _ ho => ?_
    obtain rfl : observed = ⟨INITIAL_VERSION⟩ := by simpa using ho
    rw [bind_of_ok (advance_apply (by rw [hs]; rfl) _ _)]
    exact Ends.modify (.initialise hs he hl)

theorem decides_beginDrain (hc : c.state = .ready → c.currentTarget ≠ none) :
    Decides c .beginDrain := by
  show Ends _ _ (LifecycleController.beginDrain.run c)
  unfold LifecycleController.beginDrain
  refine (checks_requireLegal rfl .illegal).bind fun _ hs => ?_
  obtain ⟨t, ht⟩ := Option.ne_none_iff_exists'.mp (hc hs)
  rw [bind_of_ok (advance_apply (by rw [hs]; rfl) _ _), bind_of_ok run_get,
    show (c.advanced .draining .beginDrain "" none).currentTarget = some t from ht]
  exact Ends.pure (.beginDrain hs ht)

theorem decides_confirmDrained (e : DrainEvidence) : Decides c (.confirmDrained e) := by
  show Ends _ _ ((LifecycleController.confirmDrained e).run c)
  unfold LifecycleController.confirmDrained
  refine (checks_requireLegal rfl .illegal).bind fun _ hs => checks_get.bind fun s hc => ?_
  subst hc
  have ht := ne_tainted hs (by decide)
  refine (checks_raiseIf fun hd => .notReady (by simpa using hd)).bind fun _ _ => ?_
  refine (checks_taintIf ht (by simp [RolloutCoreError.isEngineTainted])).bind fun _ ha => ?_
  refine (checks_checkEvidence ht).bind fun _ he => ?_
  rw [advance_apply (by rw [hs]; rfl)]
  exact .confirmDrained hs (by simpa using ha) he

theorem decides_beginUpdate (t : UpdateTarget) : Decides c (.beginUpdate t) := by
  show Ends _ _ ((LifecycleController.beginUpdate t).run c)
  unfold LifecycleController.beginUpdate
  refine (checks_requireLegal rfl .illegal).bind fun _ hs => checks_get.bind fun s hc => ?_
  subst hc
  refine checks_present (.uncommitted hs) fun t₀ ht => ?_
  refine (checks_require fun hlt => .notAhead hs ht (by simpa using hlt)).bind fun _ hlt => ?_
  rw [bind_of_ok (advance_apply (by rw [hs]; rfl) _ _)]
  exact .beginUpdate hs ht (by simpa using hlt)

theorem decides_confirmUpdated (e : UpdateEvidence) : Decides c (.confirmUpdated e) := by
  show Ends _ _ ((LifecycleController.confirmUpdated e).run c)
  unfold LifecycleController.confirmUpdated
  refine (checks_requireLegal rfl .illegal).bind fun _ hs => checks_get.bind fun s hc => ?_
  subst hc
  have ht := ne_tainted hs (by decide)
  refine checks_present (.notUpdating hs) fun p hp => ?_
  refine (checks_taintIf ht (by simp)).bind fun _ hpe => ?_
  obtain rfl : e.target = p := by simpa using hpe
  refine (checks_checkEvidence ht).bind fun _ he => ?_
  rw [bind_of_ok (advance_apply (by rw [hs]; rfl) _ _)]
  exact Ends.pure (.confirmUpdated hs hp he)

theorem decides_confirmInvalidated (e : InvalidateEvidence) :
    Decides c (.confirmInvalidated e) := by
  show Ends _ _ ((LifecycleController.confirmInvalidated e).run c)
  unfold LifecycleController.confirmInvalidated
  refine (checks_requireLegal rfl .illegal).bind fun _ hs => checks_get.bind fun s hc => ?_
  subst hc
  refine checks_present (.notInvalidating hs) fun p hp => ?_
  refine (checks_checkEvidence (ne_tainted hs (by decide))).bind fun _ he => ?_
  rw [bind_of_ok (advance_apply (by rw [hs]; rfl) _ _)]
  exact Ends.pure (.confirmInvalidated hs hp he)

theorem decides_confirmValidated (e : ValidateEvidence) : Decides c (.confirmValidated e) := by
  show Ends _ _ ((LifecycleController.confirmValidated e).run c)
  unfold LifecycleController.confirmValidated
  refine (checks_requireLegal rfl .illegal).bind fun _ hs => checks_get.bind fun s hc => ?_
  subst hc
  have ht := ne_tainted hs (by decide)
  refine checks_present (.notValidating hs) fun p hp => ?_
  refine (checks_taintIf ht (by simp)).bind fun _ hpe => ?_
  obtain rfl : e.target = p := by simpa using hpe
  cases he : e.failureReason with
  | some reason =>
    dsimp only
    split_ifs
    · exact raiseTaint_fails ht (by simp [RolloutCoreError.isEngineTainted])
    · exact raiseTaint_fails ht (by simp)
  | none =>
    rw [bind_of_ok (advance_apply (by rw [hs]; rfl) _ _)]
    exact Ends.pure (.confirmValidated hs hp he)

theorem decides_confirmResumed (e : ResumeEvidence) : Decides c (.confirmResumed e) := by
  show Ends _ _ ((LifecycleController.confirmResumed e).run c)
  unfold LifecycleController.confirmResumed
  refine (checks_requireLegal rfl .illegal).bind fun _ hs => checks_get.bind fun s hc => ?_
  subst hc
  have ht := ne_tainted hs (by decide)
  refine checks_present (.notResuming hs) fun p hp => ?_
  refine (checks_taintIf ht (by simp)).bind fun _ hpe => ?_
  obtain rfl : e.target = p := by simpa using hpe
  cases he : e.failureReason with
  | some reason =>
    cases e.observedEngineLabel with
    | none => exact raiseTaint_fails ht (by simp)
    | some label =>
      dsimp only
      split_ifs
      · exact raiseTaint_fails ht (by simp [RolloutCoreError.isEngineTainted])
      · exact raiseTaint_fails ht (by simp)
  | none =>
    rw [bind_of_ok (advance_apply (by rw [hs]; rfl) _ _)]
    exact Ends.modify (.confirmResumed hs hp he)

theorem decides_taint (reason : String) : Decides c (.taint reason) := by
  show Ends _ _ ((taintWith reason none).run c)
  by_cases hs : c.state = .tainted
  · rw [taintWith_tainted hs]
    exact .taintAgain hs
  · rw [taintWith_apply hs]
    exact .taint hs

theorem decides_nextTarget (i : Option WeightIdentity) : Decides c (.nextTarget i) := by
  show Ends _ _ ((LifecycleController.nextTarget i).run c)
  unfold LifecycleController.nextTarget
  refine checks_get.bind fun s hc => ?_
  subst hc
  exact checks_present .noNext fun t ht => Ends.pure (.nextTarget ht)

theorem decides_admitRollout (id : String) : Decides c (.admitRollout id) := by
  show Ends _ _ ((LifecycleController.admitRollout id).run c)
  unfold LifecycleController.admitRollout
  refine checks_get.bind fun s hc => ?_
  subst hc
  have hserving : s.state ∈ ADMITTING_STATES ↔ s.state = .ready := by simp [ADMITTING_STATES]
  refine (checks_raiseIf fun hs => .notServing (by simpa [hserving] using hs)).bind fun _ hs => ?_
  have hready : s.state = .ready := by simpa [hserving] using hs
  refine (checks_require fun ht => .noTarget hready (by simpa using ht)).bind fun _ hcur => ?_
  refine (checks_require fun hid => .alreadyActive (by simpa using hid)).bind fun _ hid => ?_
  refine (checks_assertSome (Option.isSome_iff_ne_none.mp hcur)).bind fun t ht => ?_
  exact Accepted.admitRollout hready ht (by simpa using hid)

/-- What a release does, whatever event it records. -/
theorem releaseRollout_ends (op : Op) (id : String) (event : RecordEvent) :
    Ends (fun b c' => (c.state = .ready ∨ c.state = .draining) ∧ c.active.get? id = some b ∧
      c' = c.released id b event) (c.FailsBy (Rejects op c)) ((releaseRollout id event).run c) := by
  unfold releaseRollout
  refine checks_get.bind fun s hc => ?_
  subst hc
  refine (checks_raiseIf fun _ => .illegal).bind fun _ hs => ?_
  cases hb : s.active.get? id with
  | none => exact Ends.throw ⟨_, rfl, .inl ⟨.unknown hb, rfl⟩⟩
  | some b => exact ⟨by simpa [ROLLOUT_COMPLETION_STATES, ← or_iff_not_imp_left] using hs, rfl, rfl⟩

theorem decides_finishRollout (id : String) : Decides c (.finishRollout id) :=
  (releaseRollout_ends _ id .finishRollout).mono fun _ _ ⟨hs, hb, hc⟩ => hc ▸ .finishRollout hs hb

theorem decides_abortRollout (id : String) : Decides c (.abortRollout id) :=
  (releaseRollout_ends _ id .abortRollout).mono fun _ _ ⟨hs, hb, hc⟩ => hc ▸ .abortRollout hs hb

/-- **What a call can do.** A READY controller has to have a committed target, as every reachable
one does: `begin_drain` asserts it. -/
theorem Op.decides (hc : c.state = .ready → c.currentTarget ≠ none) (op : Op) : Decides c op := by
  cases op with
  | initialise e => exact decides_initialise e
  | beginDrain => exact decides_beginDrain hc
  | confirmDrained e => exact decides_confirmDrained e
  | beginUpdate t => exact decides_beginUpdate t
  | confirmUpdated e => exact decides_confirmUpdated e
  | confirmInvalidated e => exact decides_confirmInvalidated e
  | confirmValidated e => exact decides_confirmValidated e
  | confirmResumed e => exact decides_confirmResumed e
  | taint r => exact decides_taint r
  | nextTarget i => exact decides_nextTarget i
  | admitRollout r => exact decides_admitRollout r
  | finishRollout r => exact decides_finishRollout r
  | abortRollout r => exact decides_abortRollout r

theorem Decides.outcome {op : Op} (h : Decides c op) : Outcome c op :=
  Ends.weaken h fun _ _ hf => hf.fails fun _ => Rejects.isInvariantViolation

/-- What a call can do, whatever a rejection says. -/
theorem Op.outcome (hc : c.state = .ready → c.currentTarget ≠ none) (op : Op) : Outcome c op :=
  (op.decides hc).outcome

end Outcomes

end RolloutCore
