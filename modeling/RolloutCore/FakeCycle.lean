import RolloutCore.FakeAgreement

/-!
# A cycle over the reference engine

`Joined` is the agreement at the points of a cycle: what each phase needs of the engine on top of
`Agree`. Every call of the cycle keeps it (`annotated`), the adapter methods one program at a time.
-/

namespace RolloutCore

open LifecycleController

/-! ## The engine in each phase -/

/-- What the engine is like in a phase of the cycle from `t₀` to `t`. -/
def PhaseCore (t : UpdateTarget) (t₀ : Option UpdateTarget) (k : EngineCore) :
    LifecycleState → Prop
  | .draining => ∀ u ∈ t₀, k.Holds u
  | .quiesced | .updating => k.paused = true ∧ (t₀ ≠ none → k.Managed)
  | .invalidating | .validating => k.paused = true ∧ k.Holds t
  | .resuming => k.Holds t
  | _ => True

namespace CyclePoint

/-- Controller and engine at a point of a cycle. -/
structure Joined (t : UpdateTarget) (t₀ : Option UpdateTarget) (pt : CyclePoint)
    (c : LifecycleController) (k : EngineCore) : Prop where
  ctrl : pt.At t t₀ c
  agree : Agree c k
  core : ∀ s, pt.phase = some s → PhaseCore t t₀ k s
  /-- A cycle tainted while it resumes keeps its target in the journal. -/
  recorded : pt.phase = some .resuming → c.state = .tainted → c.lastRecorded = some t

/-- What the last reply says about the engine. -/
def Answered : CyclePoint → EngineCore → Bool → Prop
  | .draining, k, d => d = true → k.paused = true
  | .polled e, k, d =>
    (d = true → k.paused = true) ∧ (e.engineDrainCompleted = true → k.paused = true)
  | .staged e, k, _ => e.failureReason = none → k.Holds e.target
  | .resumed e, k, _ => e.isPaused = false → k.paused = false
  | _, _, _ => True

variable {t : UpdateTarget} {t₀ : Option UpdateTarget} {pt pt' : CyclePoint}
  {c c' : LifecycleController} {k k' : EngineCore} {d : Bool}

theorem agree_of_phase (h : pt.At t t₀ c) {s : LifecycleState} (hphase : pt.phase = some s)
    (hk : PhaseCore t t₀ k s)
    (hrec : s = .resuming → c.state = .tainted → c.lastRecorded = some t) : Agree c k := by
  have hcur : c.currentTarget = t₀ := by
    rw [h.current]
    cases pt <;> first | rfl | cases hphase
  have hstate : c.state = .tainted ∨ c.state = s ∧ (InFlight s → c.pendingTarget = some t) :=
    h.phase s hphase
  have hs : s = .draining ∨ s = .quiesced ∨ s = .updating ∨ s = .invalidating ∨ s = .validating ∨
      s = .resuming := by
    revert hphase
    cases pt <;> rintro ⟨⟩ <;> simp
  have hmanaged : c.currentTarget ≠ none → k.Managed := by
    intro hne
    rw [hcur] at hne
    rcases hs with rfl | rfl | rfl | rfl | rfl | rfl
    · obtain ⟨u, hu⟩ := Option.ne_none_iff_exists'.mp hne
      exact (hk u hu).managed
    · exact hk.2 hne
    · exact hk.2 hne
    · exact hk.2.managed
    · exact hk.2.managed
    · exact EngineCore.Holds.managed hk
  refine ⟨h.inv, fun hu => ?_, hmanaged, fun hr => absurd hr (h.ne_ready hphase), fun hserve => ?_,
    fun hh => ?_, fun hr => ?_, fun ht hne hp => ?_⟩
  · rcases hstate with ht | ⟨hst, -⟩
    · rw [ht] at hu
      cases hu
    · rw [← hst, hu] at hs
      simp at hs
  · rcases hstate with ht | ⟨hst, -⟩
    · simp [ht] at hserve
    · obtain rfl : s = .draining := by
        rw [hst] at hserve
        rcases hserve with rfl | rfl
        · simp at hs
        · rfl
      rw [hcur]
      exact hk
  · rcases hstate with ht | ⟨hst, -⟩
    · simp [ht, Halted] at hh
    · rw [hst] at hh
      rcases hh with rfl | rfl | rfl | rfl <;> exact hk.1
  · rcases hstate with ht | ⟨hst, hp⟩
    · rw [ht] at hr
      cases hr
    · obtain rfl : s = .resuming := hst.symm.trans hr
      rw [hp (.inr (.inr (.inr rfl)))]
      rintro u ⟨⟩
      exact hk
  · rcases hs with rfl | rfl | rfl | rfl | rfl | rfl
    · obtain ⟨u, hu⟩ := Option.ne_none_iff_exists'.mp hne
      exact ⟨u, hk u (hcur ▸ hu), .inl hu⟩
    · exact absurd hk.1 (by simp [hp])
    · exact absurd hk.1 (by simp [hp])
    · exact absurd hk.1 (by simp [hp])
    · exact absurd hk.1 (by simp [hp])
    · exact ⟨t, hk, .inr (hrec rfl ht)⟩

namespace Joined

theorem of_core (h : pt.Joined t t₀ c k) {s : LifecycleState} (hphase : pt.phase = some s)
    (hk : PhaseCore t t₀ k' s) : pt.Joined t t₀ c k' where
  ctrl := h.ctrl
  agree := agree_of_phase h.ctrl hphase hk fun hs => h.recorded (hs ▸ hphase)
  core s' hs' := by
    obtain rfl : s = s' := Option.some.inj (hphase.symm.trans hs')
    exact hk
  recorded := h.recorded

theorem of_phase (h : pt.At t t₀ c) {s : LifecycleState} (hphase : pt.phase = some s)
    (hk : PhaseCore t t₀ k s) (hs : s = .resuming → c.state ≠ .tainted) : pt.Joined t t₀ c k where
  ctrl := h
  agree := agree_of_phase h hphase hk fun hr ht => absurd ht (hs hr)
  core s' hs' := by
    obtain rfl : s = s' := Option.some.inj (hphase.symm.trans hs')
    exact hk
  recorded hr ht := absurd ht (hs (Option.some.inj (hphase.symm.trans hr)))

theorem of_agree (h : pt.At t t₀ c) (ha : Agree c k) (hphase : pt.phase = none) :
    pt.Joined t t₀ c k where
  ctrl := h
  agree := ha
  core s hs := by rw [hphase] at hs; cases hs
  recorded hr := by rw [hphase] at hr; cases hr

theorem env (h : pt.Joined t t₀ c k) (he : anyAdapter.env c c') : pt.Joined t t₀ c' k where
  ctrl := h.ctrl.env he
  agree := h.agree.env he
  core := h.core
  recorded hr ht := by
    obtain ⟨op, hop, rfl⟩ := he
    by_cases hs : c.state = .tainted
    · rw [after_of_tainted h.ctrl.inv hs]
      exact h.recorded hr hs
    · obtain ⟨reason, hc⟩ := exists_taintedWith h.ctrl.inv hs ht
      have hp := h.ctrl.pending hr (.inr (.inr (.inr rfl))) hs
      rw [hc, lastRecorded_taintedWith, effective, hp]
      rfl

theorem ctrl_step (h : pt.Joined t t₀ c k) (hd : pt.Answered k d) {call : RunnerCall}
    {reply : call.Reply} (hcall : ∀ m, call ≠ .adapter m) (hstep : CycleStep t pt call reply pt')
    (ha : anyAdapter.answers call c reply c') : pt'.Joined t t₀ c' k ∧ pt'.Answered k d := by
  have hat := h.ctrl.step hstep ha
  cases hstep with
  | view hv =>
    rw [view_answers hv ha]
    exact ⟨h, hd⟩
  | beginDrain =>
    refine ⟨of_phase hat rfl ?_ (by simp), trivial⟩
    cases (ctrl_answers.mp ha).accepted h.ctrl.inv with
    | beginDrain hs =>
      intro u hu
      exact h.agree.serving (.inl hs) u (h.ctrl.current ▸ hu)
  | notYet => exact ⟨of_phase hat rfl (h.core .draining rfl) (by simp), hd.1⟩
  | drained =>
    cases (ctrl_answers.mp ha).accepted h.ctrl.inv with
    | confirmDrained hs _ he =>
      have hp := hd.2 (DrainEvidence.failureReason_eq_none.mp he).1
      refine ⟨of_phase hat rfl ⟨hp, fun hne => ?_⟩ (by simp), trivial⟩
      exact h.agree.managed (h.ctrl.current ▸ hne)
  | beginUpdate => exact ⟨of_phase hat rfl (h.core .quiesced rfl) (by simp), trivial⟩
  | updated =>
    cases (ctrl_answers.mp ha).accepted h.ctrl.inv with
    | confirmUpdated hs hp he =>
      refine ⟨of_phase hat rfl ⟨(h.core _ rfl).1, ?_⟩ (by simp), trivial⟩
      obtain rfl := Option.some.inj (hp.symm.trans (h.ctrl.pending rfl (.inl rfl) (by simp [hs])))
      exact hd he
  | invalidated => exact ⟨of_phase hat rfl (h.core .invalidating rfl) (by simp), trivial⟩
  | validated =>
    refine ⟨of_phase hat rfl (h.core _ rfl).2 fun _ => ?_, trivial⟩
    cases (ctrl_answers.mp ha).accepted h.ctrl.inv with
    | confirmValidated => simp
  | @resumed e =>
    cases (ctrl_answers.mp ha).accepted h.ctrl.inv with
    | confirmResumed hs hp he =>
      have hpend := h.ctrl.pending rfl (.inr (.inr (.inr rfl))) (by simp [hs])
      obtain rfl := Option.some.inj (hp.symm.trans hpend)
      have hholds : k.Holds e.target := h.core .resuming rfl
      refine ⟨of_agree hat (.of_ready hat.inv rfl (hd ?_) ?_) rfl, trivial⟩
      · exact (ResumeEvidence.failureReason_eq_none.mp he).2.1
      · rintro u ⟨⟩
        exact hholds
  | commit =>
    obtain ⟨-, rfl⟩ := ha
    exact ⟨of_agree hat h.agree rfl, trivial⟩
  | uncommitted =>
    obtain ⟨-, rfl⟩ := ha
    exact ⟨of_agree hat h.agree rfl, trivial⟩
  | refused => exact ⟨of_agree hat (h.agree.failed (ctrl_answers.mp ha)) rfl, trivial⟩
  | tainted => exact ⟨of_agree hat (h.agree.taint (ctrl_answers.mp ha)) rfl, trivial⟩
  | _ => exact absurd rfl (hcall _)

/-- A reply of the adapter leaves the controller alone. -/
theorem adapter_step (h : pt.Joined t t₀ c k) {m : AdapterCall} {reply : Except PyExc m.Ret}
    (hcall : pt.call? t = some (.adapter m)) (hstep : CycleStep t pt (.adapter m) reply pt') :
    pt'.Joined t t₀ c k := by
  have hat := h.ctrl.step hstep (show anyAdapter.answers (.adapter m) c reply c from rfl)
  have hphase : pt'.phase = pt.phase ∨ pt'.phase = none := by
    cases hstep <;> simp [phase]
  rcases hphase with hp | hp
  · exact ⟨hat, h.agree, hp ▸ h.core, hp ▸ h.recorded⟩
  · exact of_agree hat h.agree hp

end Joined

/-! ## The points as joint assertions -/

/-- The join at a point. -/
def joined (t : UpdateTarget) (t₀ : Option UpdateTarget) (pt : CyclePoint) : Joint :=
  ⟨fun c k _ => pt.Joined t t₀ c k, Joined.env, Joined.agree⟩

/-- The join at a point with what the last reply says. -/
def joint (t : UpdateTarget) (t₀ : Option UpdateTarget) (pt : CyclePoint) : Joint :=
  (pt.joined t t₀).given pt.Answered

end CyclePoint

/-! ## The methods of the adapter -/

section Methods

open CyclePoint FakeVLLMAdapter

variable {t : UpdateTarget} {t₀ : Option UpdateTarget} {pt : CyclePoint}

/-- A label to write wins over the old one. -/
theorem strOr_label (t : UpdateTarget) (old : String) : strOr (some t.label) old = t.label := by
  have hne : t.label ≠ "" := by
    intro h
    have hlist := congrArg String.toList h
    simp [UpdateTarget.label, WeightVersion.label, ENGINE_LABEL_PREFIX] at hlist
  show (if t.label = "" then old else t.label) = t.label
  rw [if_neg hne]

theorem tryEngine_under {s : LifecycleState} (hphase : pt.phase = some s) {call : EngineCall}
    {P : EngineCore → Bool → Prop} {Q : Except PyExc call.Ret → EngineCore → Bool → Prop}
    {E : Joint} (hcore : ∀ k, PhaseCore t t₀ k s → PhaseCore t t₀ (call.coreAfter k) s)
    (hfail : ∀ k k', PhaseCore t t₀ k s → call.MayFail k k' → PhaseCore t t₀ k' s)
    (hok : ∀ k d r, PhaseCore t t₀ k s → P k d → call.Says r k → Q (.ok r) (call.coreAfter k) d)
    (herr : ∀ k k' d e, P k d → call.MayFail k k' → Q (.error e) k' d) :
    ((pt.joined t t₀).given P).Under (tryEngine call)
      (fun r => (pt.joined t t₀).given (Q r)) E :=
  Joint.tryEngine
    (fun _ k d r h hr => ⟨h.1.of_core hphase (hcore k (h.1.core s hphase)),
      hok k d r (h.1.core s hphase) h.2 hr⟩)
    fun _ k k' d e h hk => ⟨h.1.of_core hphase (hfail k k' (h.1.core s hphase) hk),
      herr k k' d e h.2 hk⟩

/-- The drain flag is set only on a paused engine. -/
theorem tryPause_under (hphase : pt.phase = some .draining) :
    ((pt.joined t t₀).given fun k d => d = true → k.paused = true).Under tryPause
      (fun b => (pt.joined t t₀).given fun k d =>
        (d = true → k.paused = true) ∧ (b = true → k.paused = true)) (pt.joined t t₀) := by
  have hpause : ∀ k : EngineCore, PhaseCore t t₀ k .draining →
      PhaseCore t t₀ { k with paused := true } .draining :=
    fun k h u hu => ⟨(h u hu).label, (h u hu).identity, (h u hu).closed⟩
  unfold tryPause
  refine Joint.bind (M := fun r => (pt.joined t t₀).given fun k d =>
    (d = true → k.paused = true) ∧ (r.toBool = true → k.paused = true)) ?_ fun r => ?_
  · refine tryEngine_under hphase hpause ?_ (fun _ _ _ _ _ _ => ⟨fun _ => rfl, fun _ => rfl⟩) ?_
    · rintro k k' h (rfl | rfl)
      · exact h
      · exact hpause k h
    · rintro k k' d e h (rfl | rfl)
      · exact ⟨h, fun he => by cases he⟩
      · exact ⟨fun _ => rfl, fun _ => rfl⟩
  · cases r with
    | ok r =>
      refine Joint.bind (Joint.setDrainCompleted (Q := (pt.joined t t₀).given fun k _ =>
        k.paused = true) fun c k d h => ⟨h.1, h.2.2 rfl⟩) fun _ => Joint.ret ?_
      exact fun c k d h => ⟨h.1, fun _ => h.2, fun _ => h.2⟩
    | error e =>
      cases e with
      | fakeEngine m => exact Joint.ret fun c k d h => ⟨h.1, h.2.1, fun hf => by cases hf⟩
      | _ => exact Joint.raise fun c k d h => h.1

theorem beginDrain_under :
    (CyclePoint.begun.joint t t₀).Under FakeVLLMAdapter.beginDrain
      (fun _ => (CyclePoint.begun.joined t t₀).given fun k d => d = true → k.paused = true)
      (CyclePoint.begun.joined t t₀) := by
  unfold FakeVLLMAdapter.beginDrain
  refine Joint.bind (Joint.setDrainCompleted fun c k d h => ?_) fun _ =>
    Joint.bind (tryPause_under rfl) fun b => Joint.ret fun c k d h => ⟨h.1, h.2.1⟩
  exact ⟨h.1, fun hf => by cases hf⟩

theorem awaitDrain_under :
    (CyclePoint.draining.joint t t₀).Under awaitDrain
      (fun e => (CyclePoint.draining.joined t t₀).given fun k d =>
        (d = true → k.paused = true) ∧ (e.engineDrainCompleted = true → k.paused = true))
      (CyclePoint.draining.joined t t₀) := by
  have htail : ∀ completed : Bool, ((CyclePoint.draining.joined t t₀).given fun k d =>
      (d = true → k.paused = true) ∧ (completed = true → k.paused = true)).Under
      (do
        let active := (← attributes).activeRequests
        if completed then return ⟨true, some active, "pause(wait) returned"⟩
        else return ⟨false, some active, "drain still in flight"⟩)
      (fun e : DrainEvidence => (CyclePoint.draining.joined t t₀).given fun k d =>
        (d = true → k.paused = true) ∧ (e.engineDrainCompleted = true → k.paused = true))
      (CyclePoint.draining.joined t t₀) := by
    intro completed
    refine Joint.bind Joint.attributes fun g => ?_
    cases completed with
    | true => exact Joint.ret fun c k d h => ⟨h.1.1, h.1.2.1, h.1.2.2⟩
    | false => exact Joint.ret fun c k d h => ⟨h.1.1, h.1.2.1, fun hf => by cases hf⟩
  unfold awaitDrain
  refine Joint.bind Joint.drainCompleted fun b => ?_
  cases b with
  | true =>
    refine Joint.bind (Joint.ret fun c k d h => ?_) fun b => htail b
    exact ⟨h.1.1, h.1.2, fun _ => h.1.2 h.2⟩
  | false => exact Joint.bind ((tryPause_under rfl).weaken fun tr s h => h.1) htail

theorem startWeightUpdate_under :
    (CyclePoint.updating.joint t t₀).Under (engine .startWeightUpdate)
      (fun _ => CyclePoint.updating.joined t t₀) (CyclePoint.updating.joined t t₀) := by
  refine Joint.engine (fun c k d r h _ => ?_) fun c k k' d h hk => ?_
  · exact h.1.of_core (s := .updating) rfl (h.1.core .updating rfl)
  · obtain rfl : k' = k := hk
    exact h.1

/-- The transfer does not touch the core. -/
theorem transfer_under (left chunks : ℕ) :
    (pt.joined t t₀).Under (transfer left chunks) (fun _ => pt.joined t t₀) (pt.joined t t₀) := by
  induction left generalizing chunks with
  | zero => exact Joint.ret fun _ _ _ h => h
  | succ left ih =>
    unfold transfer
    refine Joint.bind (M := fun _ => pt.joined t t₀) (Joint.tryEngine (fun _ _ _ _ h _ => h) ?_)
      fun r => ?_
    · rintro c k k' d e h (rfl : k' = k)
      exact h
    · cases r with
      | ok r => exact ih (chunks + 1)
      | error e =>
        cases e with
        | fakeEngine m => exact Joint.ret fun _ _ _ h => h
        | _ => exact Joint.raise fun _ _ _ h => h

theorem completeWeightUpdate_under (a : FakeVLLMAdapter) :
    (CyclePoint.opened.joint t t₀).Under (a.completeWeightUpdate t)
      (fun e => (CyclePoint.opened.joined t t₀).given fun k _ =>
        e.target = t ∧ (e.failureReason = none → k.Holds t)) (CyclePoint.opened.joined t t₀) := by
  unfold completeWeightUpdate
  refine Joint.bind ((transfer_under _ _).weaken fun tr s h => h.1) fun loaded => ?_
  obtain ⟨loaded, chunks⟩ := loaded
  cases loaded with
  | false => exact Joint.ret fun c k d h => ⟨h, rfl, fun hf => by cases hf⟩
  | true =>
    refine Joint.bind (Joint.setWeightIdentity (Q := (CyclePoint.opened.joined t t₀).given
      fun k _ => k.identity = some t.identity) fun c k d h => ?_) fun _ => ?_
    · exact ⟨h.of_core (s := .updating) rfl (h.core .updating rfl), rfl⟩
    refine Joint.bind (tryEngine_under (s := .updating) rfl ?_ ?_
      (Q := fun r k _ => r.toBool = true → k.Holds t) ?_ ?_) fun r => ?_
    · exact fun k h => ⟨h.1, fun _ => ⟨t.version, strOr_label t k.label⟩⟩
    · rintro k k' h (rfl : k' = k)
      exact h
    · exact fun k d r h hk _ _ => ⟨strOr_label t k.label, hk, rfl⟩
    · exact fun k k' d e _ _ he => by cases he
    · cases r with
      | ok r =>
        exact Joint.bind Joint.attributes fun g => Joint.ret fun c k d h =>
          ⟨h.1.1, rfl, fun _ => h.1.2 rfl⟩
      | error e =>
        cases e with
        | fakeEngine m =>
          refine Joint.bind Joint.attributes fun g => Joint.ret fun c k d h => ⟨h.1.1, rfl, ?_⟩
          intro he
          cases (UpdateEvidence.failureReason_eq_none.mp he).2.2.1
        | _ => exact Joint.raise fun c k d h => h.1

theorem invalidateCaches_under :
    (CyclePoint.invalidating.joint t t₀).Under invalidateCaches
      (fun _ => CyclePoint.invalidating.joined t t₀) (CyclePoint.invalidating.joined t t₀) := by
  unfold invalidateCaches
  refine Joint.bind (Joint.engineView (fun _ => rfl) (fun _ _ h => h) fun _ _ _ h => h.1)
    fun prefixOk => ?_
  refine Joint.bind (Joint.engineView (fun _ => rfl) (fun _ _ h => h) fun _ _ _ h => h.1.1)
    fun _ => ?_
  refine Joint.bind (Joint.engineView (fun _ => rfl) (fun _ _ h => h) fun _ _ _ h => h.1.1.1)
    fun _ => ?_
  exact Joint.bind Joint.attributes fun _ => Joint.bind Joint.attributes fun _ =>
    Joint.ret fun _ _ _ h => h.1.1.1.1.1.1

theorem validatePreResume_under :
    (CyclePoint.validating.joint t t₀).Under (validatePreResume t)
      (fun _ => CyclePoint.validating.joined t t₀) (CyclePoint.validating.joined t t₀) := by
  unfold validatePreResume
  refine Joint.bind (Joint.engineView (fun _ => rfl) (fun _ _ h => h) fun _ _ _ h => h.1)
    fun observed => ?_
  refine Joint.bind (Joint.engineView (fun _ => rfl) (fun _ _ h => h) fun _ _ _ h => h.1.1)
    fun paused => ?_
  exact Joint.bind Joint.attributes fun _ => Joint.bind Joint.attributes fun _ =>
    Joint.bind Joint.attributes fun _ => Joint.ret fun _ _ _ h => h.1.1.1.1.1.1

theorem resume_under :
    (CyclePoint.resuming.joint t t₀).Under (FakeVLLMAdapter.resume t)
      (fun e => (CyclePoint.resuming.joined t t₀).given fun k _ =>
        e.isPaused = false → k.paused = false) (CyclePoint.resuming.joined t t₀) := by
  have htail : ∀ acknowledged : Bool, (CyclePoint.resuming.joined t t₀).Under
      (do
        let paused ← engine .isPaused
        let observed ← engine .getWeightInfo
        return ⟨t, acknowledged, paused, some observed⟩)
      (fun e : ResumeEvidence => (CyclePoint.resuming.joined t t₀).given fun k _ =>
        e.isPaused = false → k.paused = false) (CyclePoint.resuming.joined t t₀) := by
    intro acknowledged
    refine Joint.bind (Joint.engineView (fun _ => rfl) (fun _ _ h => h) fun _ _ _ h => h)
      fun paused => ?_
    refine Joint.bind (Joint.engineView (fun _ => rfl) (fun _ _ h => h) fun _ _ _ h => h.1)
      fun observed => Joint.ret fun c k d h => ⟨h.1.1, fun hp => ?_⟩
    exact (show paused = k.paused from h.1.2) ▸ hp
  unfold FakeVLLMAdapter.resume
  refine Joint.bind (tryEngine_under (s := .resuming) rfl ?_ ?_ (Q := fun _ _ _ => True) ?_ ?_)
    fun r => ?_
  · exact fun k h => ⟨h.label, h.identity, h.closed⟩
  · rintro k k' h (rfl : k' = k)
    exact h
  · exact fun _ _ _ _ _ _ => trivial
  · exact fun _ _ _ _ _ _ => trivial
  · cases r with
    | ok r => exact Joint.bind (Joint.ret fun _ _ _ h => h.1) htail
    | error e =>
      cases e with
      | fakeEngine m => exact Joint.bind (Joint.ret fun _ _ _ h => h.1) htail
      | _ => exact Joint.raise fun c k d h => h.1

end Methods

/-! ## The cycle -/

section Cycle

open CyclePoint

variable {t : UpdateTarget} {t₀ : Option UpdateTarget} {pt : CyclePoint}

/-- The method called at a point answers what the next point requires. -/
theorem method_under (a : FakeVLLMAdapter) {m : AdapterCall}
    (hcall : pt.call? t = some (.adapter m)) :
    (pt.joint t t₀).Under (a.method m)
      (fun r => (pt.joined t t₀).given fun k d => ∀ pt',
        CycleStep t pt (.adapter m) (Except.ok r) pt' → pt'.Answered k d) (pt.joined t t₀) := by
  cases pt <;> cases hcall
  case begun.refl =>
    refine Joint.consequence beginDrain_under fun _ c k d h => ⟨h.1, fun pt' hstep => ?_⟩
    cases hstep with
    | view hv => exact hv.elim
    | pause => exact h.2
  case draining.refl =>
    refine Joint.consequence awaitDrain_under fun e c k d h => ⟨h.1, fun pt' hstep => ?_⟩
    cases hstep with
    | view hv => exact hv.elim
    | poll => exact h.2
  case updating.refl =>
    refine Joint.consequence startWeightUpdate_under fun _ c k d h => ⟨h, fun pt' hstep => ?_⟩
    cases hstep with
    | view hv => exact hv.elim
    | startUpdate => trivial
  case opened.refl =>
    refine Joint.consequence (completeWeightUpdate_under a) fun e c k d h =>
      ⟨h.1, fun pt' hstep => ?_⟩
    cases hstep with
    | view hv => exact hv.elim
    | transfer => exact fun he => h.2.1 ▸ h.2.2 he
  case invalidating.refl =>
    refine Joint.consequence invalidateCaches_under fun _ c k d h => ⟨h, fun pt' hstep => ?_⟩
    cases hstep with
    | view hv => exact hv.elim
    | invalidate => trivial
  case validating.refl =>
    refine Joint.consequence validatePreResume_under fun _ c k d h => ⟨h, fun pt' hstep => ?_⟩
    cases hstep with
    | view hv => exact hv.elim
    | validate => trivial
  case resuming.refl =>
    refine Joint.consequence resume_under fun e c k d h => ⟨h.1, fun pt' hstep => ?_⟩
    cases hstep with
    | view hv => exact hv.elim
    | resume => exact h.2

theorem runnerCall_under {call : RunnerCall} (hcall : ∀ m, call ≠ .adapter m)
    (hreply : ∀ reply, ∃ pt', CycleStep t pt call reply pt') :
    Triple Joint.agreement.assertion (pt.joint t t₀) (Prog.op (FakeCall.runner call))
      (stepped t (fun pt => (pt.joint t t₀).assertion) pt call)
      (fun e : PyExc => ((CyclePoint.raised e).joint t t₀).assertion) := by
  refine Triple.op (Joint.le_agreement _) fun tr s reply s' h ha => ?_
  obtain ⟨c', hc', rfl⟩ := ha
  have hstep : ∀ pt', CycleStep t pt call reply pt' →
      pt'.Joined t t₀ c' s.engine.core ∧ pt'.Answered s.engine.core s.drainCompleted :=
    fun pt' hstep => h.1.ctrl_step h.2 hcall hstep hc'
  obtain ⟨pt', hpt'⟩ := hreply reply
  exact ⟨(hstep pt' hpt').1.agree, hstep⟩

theorem adapterCall_under (a : FakeVLLMAdapter) {m : AdapterCall}
    (hcall : pt.call? t = some (.adapter m)) :
    Triple Joint.agreement.assertion (pt.joint t t₀) (a.handle (.adapter m))
      (stepped t (fun pt => (pt.joint t t₀).assertion) pt (.adapter m))
      (fun e : PyExc => ((CyclePoint.raised e).joint t t₀).assertion) := by
  refine fun tr s h => Safe.attempt ((method_under a hcall tr s h).mono ?_ ?_)
  · exact fun r tr s h pt' hstep => ⟨h.1.adapter_step hcall hstep, h.2 pt' hstep⟩
  · intro e tr s h pt' hstep
    refine ⟨Joined.adapter_step h hcall hstep, ?_⟩
    cases hstep with
    | view hv => exact hv.elim
    | failed | ambiguous | unprinted => trivial

/-- **A cycle keeps the agreement**, carried out over the reference engine. -/
theorem annotated (r : LifecycleRunner) (a : FakeVLLMAdapter) (t : UpdateTarget)
    (t₀ : Option UpdateTarget) :
    Annotated r t a.handle Joint.agreement.assertion (fun pt => (pt.joint t t₀).assertion) where
  inv pt := Joint.le_agreement _
  view pt call hv := by
    cases call with
    | state | monotonic | sleep => exact runnerCall_under (by simp) fun _ => ⟨pt, .view hv⟩
    | _ => exact hv.elim
  call pt call hcall := by
    cases call with
    | adapter m => exact adapterCall_under a hcall
    | _ => exact runnerCall_under (by simp) (exists_cycleStep hcall)
  exhausted tr s h := by
    have hat := h.1.ctrl
    refine ⟨.of_agree ?_ h.1.agree rfl, trivial⟩
    exact hat.of_failure hat.inv rfl rfl rfl (hat.ne_ready rfl) (by simp)

end Cycle

end RolloutCore
