import RolloutCore.FakeSystem

/-!
# Agreement of engine and controller

`Agree` relates the engine to the controller in each lifecycle state. `Joined` refines it to the
points of a cycle, and every step of the adapter and of the controller keeps it there.
-/

namespace RolloutCore

open LifecycleController

/-! ## The relation -/

/-- The target the last record of the journal names. After a taint it is the one that was pending,
or the committed one when none was. -/
def LifecycleController.lastRecorded (c : LifecycleController) : Option UpdateTarget :=
  c.journal.getLast?.bind fun r =>
    match r.version, r.identity with
    | some v, some i => some ⟨v, i⟩
    | _, _ => none

theorem LifecycleController.lastRecorded_taintedWith (c : LifecycleController) (reason : String) :
    (c.taintedWith reason).lastRecorded = c.effective none := by
  unfold lastRecorded
  rw [taintedWith_journal, recorded_journal, List.getLast?_concat]
  cases c.effective none <;> rfl

/-- The states of an update in which the engine must not generate. -/
def Halted (s : LifecycleState) : Prop :=
  s = .quiesced ∨ s = .updating ∨ s = .invalidating ∨ s = .validating

/-- What the engine is like under a controller. -/
structure Agree (c : LifecycleController) (k : EngineCore) : Prop where
  inv : Inv c
  fresh : c.state = .uninitialized → k.paused = false ∧ k.sessionOpen = false
  managed : c.currentTarget ≠ none → k.Managed
  ready : c.state = .ready → k.paused = false
  serving : c.state = .ready ∨ c.state = .draining → ∀ t ∈ c.currentTarget, k.Holds t
  halted : Halted c.state → k.paused = true
  resuming : c.state = .resuming → ∀ t ∈ c.pendingTarget, k.Holds t
  tainted : c.state = .tainted → c.currentTarget ≠ none → k.paused = false →
    ∃ t, k.Holds t ∧ (c.currentTarget = some t ∨ c.lastRecorded = some t)

namespace Agree

variable {c c' : LifecycleController} {k : EngineCore}

/-- Before the first commit little is required. -/
theorem of_uncommitted (hi : Inv c) (hcur : c.currentTarget = none)
    (hfresh : c.state = .uninitialized → k.paused = false ∧ k.sessionOpen = false) : Agree c k := by
  have hstate : c.state = .uninitialized ∨ c.state = .tainted := by
    by_contra hs
    rw [not_or] at hs
    exact hi.committed hs.1 hs.2 hcur
  constructor
  case inv => exact hi
  case fresh => exact hfresh
  all_goals rcases hstate with hs | hs <;> simp [hs, hcur, Halted]

/-- A READY controller over an engine that serves the committed target. -/
theorem of_ready (hi : Inv c) (hs : c.state = .ready) (hp : k.paused = false)
    (hk : ∀ t ∈ c.currentTarget, k.Holds t) : Agree c k := by
  constructor
  case inv => exact hi
  case managed =>
    intro hne
    obtain ⟨t, ht⟩ := Option.ne_none_iff_exists'.mp hne
    exact (hk t ht).managed
  case ready => exact fun _ => hp
  case serving => exact fun _ => hk
  all_goals simp [hs, Halted]

/-- An untainted controller with the same state and targets. -/
theorem congr (h : Agree c k) (hi : Inv c') (hstate : c'.state = c.state)
    (hcur : c'.currentTarget = c.currentTarget) (hpend : c'.pendingTarget = c.pendingTarget)
    (hs : c.state ≠ .tainted) : Agree c' k where
  inv := hi
  fresh := by rw [hstate]; exact h.fresh
  managed := by rw [hcur]; exact h.managed
  ready := by rw [hstate]; exact h.ready
  serving := by rw [hstate, hcur]; exact h.serving
  halted := by rw [hstate]; exact h.halted
  resuming := by rw [hstate, hpend]; exact h.resuming
  tainted ht := absurd (hstate.symm.trans ht) hs

/-- When the engine is not paused it holds the committed target, or the pending one. -/
theorem holds (h : Agree c k) (hp : k.paused = false) (hs : c.state ≠ .tainted)
    (hcur : c.currentTarget ≠ none) : ∃ t, k.Holds t ∧
      (c.currentTarget = some t ∧ (c.state = .ready ∨ c.state = .draining) ∨
        c.pendingTarget = some t ∧ c.state = .resuming) := by
  have hnot : ¬ Halted c.state := fun hh => by
    rw [h.halted hh] at hp
    cases hp
  obtain ⟨t₀, ht₀⟩ := Option.ne_none_iff_exists'.mp hcur
  by_cases hserve : c.state = .ready ∨ c.state = .draining
  · exact ⟨t₀, h.serving hserve t₀ ht₀, .inl ⟨ht₀, hserve⟩⟩
  · have hres : c.state = .resuming := by
      have hun : c.state ≠ .uninitialized := fun hu => hcur (h.inv.fresh hu).1
      revert hs hnot hserve hun
      cases c.state <;> simp [Halted]
    have hpend : c.pendingTarget ≠ none := h.inv.pending.mpr (.inr (.inr (.inr hres)))
    obtain ⟨p, hp⟩ := Option.ne_none_iff_exists'.mp hpend
    exact ⟨p, h.resuming hres p hp, .inr ⟨hp, hres⟩⟩

/-- An active rollout is bound to what the engine holds. -/
theorem bound (h : Agree c k) {b : RolloutBinding} (hb : b ∈ c.activeRollouts) :
    k.Holds b.target := by
  obtain ⟨id, hid⟩ := OrderedDict.mem_values.mp hb
  have hserve := h.inv.serving (List.ne_nil_of_mem hid)
  exact h.serving hserve _ (h.inv.bound id b hid).2.1

theorem taintedWith (h : Agree c k) (hs : c.state ≠ .tainted) (reason : String) :
    Agree (c.taintedWith reason) k where
  inv := inv_taintedWith reason
  fresh hu := by cases hu
  managed := h.managed
  ready hr := by cases hr
  serving hr := by rcases hr with hr | hr <;> cases hr
  halted hr := by rcases hr with hr | hr | hr | hr <;> cases hr
  resuming hr := by cases hr
  tainted _ hcur hp := by
    obtain ⟨t, ht, ⟨ht₀, -⟩ | ⟨htp, -⟩⟩ := h.holds hp hs hcur
    · exact ⟨t, ht, .inl ht₀⟩
    · refine ⟨t, ht, .inr ?_⟩
      rw [lastRecorded_taintedWith, effective, htp]
      rfl

theorem failed (h : Agree c k) {op : Op} {e : PyExc} (ha : op.Replies c (.error e) c') :
    Agree c' k := by
  obtain ⟨e, rfl, ⟨-, rfl⟩ | ⟨-, hs, reason, rfl⟩⟩ := ha.fails h.inv
  · exact h
  · exact h.taintedWith hs reason

/-- The calls of rollout owners and of the operator keep the agreement. -/
theorem owners (h : Agree c k) {op : Op} (hop : op.IsOwners) : Agree (op.after c) k := by
  obtain ⟨c', hc', he⟩ := op.effect h.inv
  have hi : Inv c' := by
    rw [← hc']
    exact inv_after h.inv op
  rw [hc']
  cases he with
  | rejected _ _ hc => rw [hc]; exact h
  | tainted _ _ hs hc => rw [hc]; exact h.taintedWith hs _
  | accepted _ ha =>
    cases ha with
    | taint hs => exact h.taintedWith hs _
    | taintAgain => exact h
    | admitRollout hs => exact h.congr hi rfl rfl rfl (ne_tainted hs (by decide))
    | finishRollout hs | abortRollout hs =>
      refine h.congr hi rfl rfl rfl ?_
      rcases hs with hs | hs <;> simp [hs]
    | _ => exact hop.elim

theorem env (h : Agree c k) (he : anyAdapter.env c c') : Agree c' k := by
  obtain ⟨op, hop, rfl⟩ := he
  exact h.owners hop

theorem taint (h : Agree c k) {reason : String} {reply : Except PyExc RolloutCoreError}
    (ha : (Op.taint reason).Replies c reply c') : Agree c' k := by
  rw [← ha.after]
  exact h.owners trivial

end Agree

/-! ## Joint assertions -/

/-- What holds of controller, engine core and drain flag together, among it the agreement; the
other callers of the controller keep it. -/
structure Joint where
  holds : LifecycleController → EngineCore → Bool → Prop
  stable : ∀ {c c' k d}, holds c k d → anyAdapter.env c c' → holds c' k d
  agree : ∀ {c k d}, holds c k d → Agree c k

namespace Joint

/-- The agreement alone. -/
def agreement : Joint := ⟨fun c k _ => Agree c k, Agree.env, id⟩

/-- The others do not change what the runner knows about the engine. -/
def given (R : Joint) (P : EngineCore → Bool → Prop) : Joint :=
  ⟨fun c k d => R.holds c k d ∧ P k d, fun h he => ⟨R.stable h.1 he, h.2⟩, fun h => R.agree h.1⟩

def assertion (R : Joint) : Assertion fakeWorld where
  holds _ s := R.holds s.controller s.engine.core s.drainCompleted
  stable := by
    rintro tr s s' h (⟨c', he, rfl⟩ | ⟨faults, active, p₀, p₁, p₂, p₃, rfl⟩)
    · exact R.stable h he
    · exact h

instance : Coe Joint (Assertion fakeWorld) := ⟨assertion⟩

theorem le_agreement (R : Joint) : R.assertion ≤ agreement := fun _ _ h => R.agree h

variable {R : Joint}

/-- A step with what it establishes. -/
theorem triple_op {call : FakeCall} {Q : call.Reply → Joint} {E : PyExc → Assertion fakeWorld}
    (h : ∀ s r s', R.holds s.controller s.engine.core s.drainCompleted → fakeAnswers call s r s' →
      (Q r).holds s'.controller s'.engine.core s'.drainCompleted) :
    Triple agreement.assertion R (Prog.op call) (fun r => (Q r).assertion) E :=
  Triple.op R.le_agreement fun _ s r s' hs ha =>
    ⟨(Q r).le_agreement _ _ (h s r s' hs ha), h s r s' hs ha⟩

/-- An assertion about a program over the engine: it raises only where `E` holds. -/
abbrev Under {α : Type} (R : Joint) (p : FakeProg α) (Q : α → Joint) (E : Joint) : Prop :=
  Triple agreement.assertion R p (fun r => (Q r).assertion) (fun _ => E.assertion)

theorem bind {α β : Type} {p : FakeProg α} {f : α → FakeProg β} {M : α → Joint} {Q : β → Joint}
    {E : Joint} (hp : R.Under p M E) (hf : ∀ a, (M a).Under (f a) Q E) : R.Under (p >>= f) Q E :=
  Triple.bind hp hf

theorem ret {α : Type} {a : α} {Q : α → Joint} {E : Joint}
    (h : ∀ c k d, R.holds c k d → (Q a).holds c k d) : R.Under (pure a) Q E :=
  Triple.pure R.le_agreement fun _ _ hs => h _ _ _ hs

theorem raise {α : Type} {e : PyExc} {Q : α → Joint} {E : Joint}
    (h : ∀ c k d, R.holds c k d → E.holds c k d) : R.Under (throw e) Q E :=
  Triple.throw R.le_agreement fun _ _ hs => h _ _ _ hs

theorem consequence {α : Type} {p : FakeProg α} {Q Q' : α → Joint} {E : Joint} (hp : R.Under p Q E)
    (h : ∀ a c k d, (Q a).holds c k d → (Q' a).holds c k d) : R.Under p Q' E :=
  fun tr s hs => (hp tr s hs).mono (fun a _ _ ha => h a _ _ _ ha) fun _ => Assertion.le_refl _

theorem tryEngine {call : EngineCall} {Q : Except PyExc call.Ret → Joint} {E : Joint}
    (hok : ∀ c k d r, R.holds c k d → call.Says r k → (Q (.ok r)).holds c (call.coreAfter k) d)
    (herr : ∀ c k k' d e, R.holds c k d → call.MayFail k k' → (Q (.error e)).holds c k' d) :
    R.Under (FakeVLLMAdapter.tryEngine call) Q E := by
  refine triple_op fun s r s' hs ha => ?_
  obtain ⟨g', hr, rfl⟩ := ha
  cases r with
  | ok r =>
    obtain ⟨hcore, hsays⟩ := hr.core_of_ok
    dsimp only
    rw [hcore]
    exact hok _ _ _ r hs hsays
  | error e => exact herr _ _ _ _ e hs hr.core_of_error

theorem engine {call : EngineCall} {Q : call.Ret → Joint} {E : Joint}
    (hok : ∀ c k d r, R.holds c k d → call.Says r k → (Q r).holds c (call.coreAfter k) d)
    (herr : ∀ c k k' d, R.holds c k d → call.MayFail k k' → E.holds c k' d) :
    R.Under (FakeVLLMAdapter.engine call) Q E := by
  unfold FakeVLLMAdapter.engine
  refine bind (M := fun r => match r with | .ok r => Q r | .error _ => E)
    (tryEngine hok fun c k k' d _ => herr c k k' d) fun r => ?_
  cases r with
  | ok r => exact ret fun _ _ _ h => h
  | error e => exact raise fun _ _ _ h => h

/-- An endpoint that leaves the core alone. -/
theorem engineView {call : EngineCall} {E : Joint} (hcall : ∀ k, call.coreAfter k = k)
    (hfail : ∀ k k', call.MayFail k k' → k' = k) (hE : ∀ c k d, R.holds c k d → E.holds c k d) :
    R.Under (FakeVLLMAdapter.engine call) (fun r => R.given fun k _ => call.Says r k) E := by
  refine engine (fun c k d r h hr => ?_) fun c k k' d h hk => ?_
  · rw [hcall]
    exact ⟨h, hr⟩
  · rw [hfail k k' hk]
    exact hE c k d h

theorem attributes {E : Joint} :
    R.Under FakeVLLMAdapter.attributes (fun g => R.given fun k _ => k = g.core) E :=
  triple_op fun s r s' hs ha => by
    obtain ⟨rfl, rfl⟩ := ha
    exact ⟨hs, rfl⟩

theorem drainCompleted {E : Joint} :
    R.Under FakeVLLMAdapter.drainCompleted (fun b => R.given fun _ d => d = b) E :=
  triple_op fun s r s' hs ha => by
    obtain ⟨rfl, rfl⟩ := ha
    exact ⟨hs, rfl⟩

theorem setDrainCompleted {b : Bool} {Q E : Joint}
    (h : ∀ c k d, R.holds c k d → Q.holds c k b) :
    R.Under (FakeVLLMAdapter.setDrainCompleted b) (fun _ => Q) E :=
  triple_op fun s r s' hs ha => by
    obtain rfl : s' = _ := ha
    exact h _ _ _ hs

theorem setWeightIdentity {i : WeightIdentity} {Q E : Joint}
    (h : ∀ c k d, R.holds c k d → Q.holds c { k with identity := some i } d) :
    R.Under (FakeVLLMAdapter.setWeightIdentity i) (fun _ => Q) E :=
  triple_op fun s r s' hs ha => by
    obtain rfl : s' = _ := ha
    exact h _ _ _ hs

end Joint

end RolloutCore
