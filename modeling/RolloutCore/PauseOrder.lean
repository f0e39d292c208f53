import RolloutCore.CycleTranscript

/-!
# The runner and its pauses

A drain begun again while an attempt is out may take the verdict of the old attempt for that of the
new one. The runner begins a drain only from READY, and is back there only when the last drain has
been confirmed; so one attempt at most is ever out, whatever the order in which attempts go on, and
what a cycle does to the weights, the caches and the pause it does to an engine that is paused.
-/

namespace RolloutCore

open LifecycleController Prog

/-! ## One attempt at a time -/

namespace DrainSystem

/-- No attempt is out, and none is being started. -/
structure Quiet (s : DrainSystem) : Prop where
  count : s.opened = s.threads.length
  done : ∀ th ∈ s.threads, th.left = .pure ()

/-- The newest attempt is one of the latest drain and went through, and no attempt is out. -/
structure Paused (s : DrainSystem) : Prop extends Quiet s where
  newest : ∃ th, s.Newest th ∧ th.drain = s.drains ∧ th.Succeeded

end DrainSystem

/-- An attempt that is out is the newest, of the latest drain, and the drain is in flight. -/
structure OneOut (a : HttpVLLMAdapter) (s : DrainSystem) : Prop extends DrainInv a s where
  out : ∀ j th, s.threads[j]? = some th → th.left ≠ .pure () →
    j + 1 = s.opened ∧ th.drain = s.drains ∧ s.state = .inFlight

section Attempts

variable {a : HttpVLLMAdapter} {s s' : DrainSystem} {i : ℕ}

theorem oneOut_init (a : HttpVLLMAdapter) : OneOut a {} where
  toDrainInv := (drainInv_init a).1
  out _ _ hj := by cases hj

theorem not_step_of_done (h : ∀ th ∈ s.threads, th.left = .pure ()) : ¬ ThreadStep a i s s' := by
  rintro ⟨th, call, next, r, s₁, hth, hleft, -, -⟩
  cases hleft.symm.trans (h th (List.mem_of_getElem? hth))

/-- No verdict under a number that has become current again. -/
theorem OneOut.noStaleMatch (h : OneOut a s) (i : ℕ) : NoStaleMatch s i := by
  intro th n ok error next hth hleft hlt
  obtain ⟨-, hd, -⟩ := h.out i th hth (by simp [hleft])
  exact absurd hd hlt.ne

/-- A drain that is not in flight has no attempt out. -/
theorem OneOut.done (h : OneOut a s) (hs : s.state ≠ .inFlight) :
    ∀ th ∈ s.threads, th.left = .pure () := by
  intro th hth
  obtain ⟨j, hj⟩ := List.getElem?_of_mem hth
  by_contra hne
  exact hs (h.out j th hj hne).2.2

theorem oneOut_of_done (h : DrainInv a s) (hdone : ∀ th ∈ s.threads, th.left = .pure ()) :
    OneOut a s where
  toDrainInv := h
  out _ th hj hne := absurd (hdone th (List.mem_of_getElem? hj)) hne

/-- **Whatever attempt goes on**, it is the one that is out. -/
theorem oneOut_step (h : OneOut a s) (hstep : ThreadStep a i s s') : OneOut a s' := by
  refine ⟨drainInv_step h.toDrainInv (h.noStaleMatch i) hstep, ?_⟩
  have hcur : i + 1 = s.opened := by
    obtain ⟨th, call, next, r, s₁, hth, hleft, -, -⟩ := hstep
    exact (h.out i th hth (by simp [hleft])).1
  obtain ⟨th, hth, ⟨answer, hnone, rfl⟩ | ⟨answer, ok, error, -, -, hleft, rfl⟩⟩ :=
    threadStep_cases hstep h.stages
  · -- the attempt is answered, and stays out
    intro j th' hj hne
    rw [List.getElem?_set] at hj
    split_ifs at hj with hij
    · subst hij
      obtain rfl := Option.some.inj hj
      have hout : th.left ≠ .pure () := by
        cases h.stages th (List.mem_of_getElem? hth) with
        | waiting hl =>
          obtain ⟨limit, hpause⟩ := pauseAttempt_eq a th.number
          simp [hl, hpause]
        | answered _ _ hans => simp [hnone] at hans
        | done _ _ hans => simp [hnone] at hans
      exact h.out i th hth hout
    · exact h.out j th' hj hne
  · -- it records its verdict, and no other is out
    intro j th' hj hne
    change (s.threads.set i _)[j]? = some th' at hj
    rw [List.getElem?_set] at hj
    split_ifs at hj with hij
    · obtain rfl := Option.some.inj hj
      exact absurd rfl hne
    · have hj' := (h.out j th' hj hne).1
      omega

/-- A recorded success, between two calls. -/
theorem paused_of_completed (h : OneOut a s) (hset : Settled s) (hs : s.state = .completed) :
    s.Paused := by
  obtain ⟨th, hth, hsucc⟩ := h.completed hs
  exact ⟨⟨hset.count, h.done (by simp [hs])⟩, th, hth, hset.current th hth, hsucc⟩

end Attempts

/-! ## Facts about the drain -/

/-- A fact about the drain that the attempts do not disturb. -/
structure DrainFact (a : HttpVLLMAdapter) where
  holds : DrainSystem → Prop
  stable : ∀ {s s' i}, OneOut a s → ThreadStep a i s s' → holds s → holds s'

namespace DrainFact

variable {a : HttpVLLMAdapter}

/-- While no attempt is out nothing goes on. -/
def ofDone (a : HttpVLLMAdapter) (P : DrainSystem → Prop)
    (h : ∀ s, P s → ∀ th ∈ s.threads, th.left = .pure ()) : DrainFact a :=
  ⟨P, fun {s _ _} _ hstep hP => absurd hstep (not_step_of_done (h s hP))⟩

def any (a : HttpVLLMAdapter) : DrainFact a := ⟨fun _ => True, fun _ _ h => h⟩

def quiet (a : HttpVLLMAdapter) : DrainFact a := ofDone a DrainSystem.Quiet fun _ h => h.done

def paused (a : HttpVLLMAdapter) : DrainFact a := ofDone a DrainSystem.Paused fun _ h => h.done

/-- Attempt number `n` has been opened and its thread not yet started. -/
def opening (a : HttpVLLMAdapter) (n : ℕ) : DrainFact a :=
  ofDone a (fun s => s.opened = s.threads.length + 1 ∧ s.attempts = n ∧ s.state = .inFlight ∧
    ∀ th ∈ s.threads, th.left = .pure ()) fun _ h => h.2.2.2

def settled (a : HttpVLLMAdapter) : DrainFact a :=
  ⟨Settled, fun h hstep hs => settled_step h.toDrainInv hstep hs⟩

/-- Settled, and what has been reported is true. -/
def reported (a : HttpVLLMAdapter) (completed : Bool) : DrainFact a where
  holds s := Settled s ∧ (completed = true → s.Paused)
  stable h hstep hs :=
    ⟨(settled a).stable h hstep hs.1, fun hc => (paused a).stable h hstep (hs.2 hc)⟩

/-- What has been read of the drain. -/
def read (a : HttpVLLMAdapter) (state : DrainState) : DrainFact a where
  holds s := Settled s ∧ (state = .completed → s.Paused) ∧ (state = .failed → s.Quiet)
  stable h hstep hs :=
    ⟨(settled a).stable h hstep hs.1, fun hc => (paused a).stable h hstep (hs.2.1 hc),
      fun hf => (quiet a).stable h hstep (hs.2.2 hf)⟩

end DrainFact

/-! ## The controller along a cycle -/

namespace LifecycleController

/-- A controller from which a drain may yet be begun. -/
def Idle (c : LifecycleController) : Prop := c.state = .uninitialized ∨ c.state = .ready

variable {c c' : LifecycleController}

theorem not_idle {s : LifecycleState} (h : c.state = s) (hu : s ≠ .uninitialized)
    (hr : s ≠ .ready) : ¬ c.Idle := by
  rintro (hc | hc)
  · exact hu (h.symm.trans hc)
  · exact hr (h.symm.trans hc)

/-- The only way back is a confirmed resume. -/
theorem idle_after (hi : Inv c) {op : Op} (h : (op.after c).Idle) :
    c.Idle ∨ ∃ e, op = .confirmResumed e := by
  obtain ⟨c', hc, he⟩ := op.effect hi
  rw [hc] at h
  cases he with
  | rejected _ _ heq => exact .inl (heq ▸ h)
  | tainted _ _ _ heq => exact absurd h (not_idle (by rw [heq]) (by simp) (by simp))
  | accepted _ ha =>
    cases ha with
    | initialise hs => exact .inl (.inl hs)
    | confirmResumed => exact .inr ⟨_, rfl⟩
    | taintAgain | nextTarget | admitRollout | finishRollout | abortRollout => exact .inl h
    | _ => exact absurd h (not_idle rfl (by simp) (by simp))

theorem idle_env (hi : Inv c) (he : anyAdapter.env c c') (h : c'.Idle) : c.Idle := by
  obtain ⟨op, hop, rfl⟩ := he
  rcases idle_after hi h with h | ⟨e, rfl⟩
  · exact h
  · exact hop.elim

theorem idle_of_answers (hi : Inv c) {call : RunnerCall} {reply : call.Reply}
    (ha : anyAdapter.answers call c reply c') (h : c'.Idle) :
    c.Idle ∨ ∃ e, call = .ctrl (.confirmResumed e) := by
  cases call with
  | ctrl op =>
    have hr := ctrl_answers.mp ha
    rw [← hr.after] at h
    exact (idle_after hi h).imp_right fun ⟨e, he⟩ => ⟨e, congrArg _ he⟩
  | state | currentTarget =>
    obtain ⟨-, rfl⟩ := ha
    exact .inl h
  | adapter | monotonic | sleep =>
    obtain rfl : c' = c := ha
    exact .inl h

end LifecycleController

/-- The state of the controller at a point of a cycle that installs `t`, unless it is tainted. -/
def CyclePoint.Phased (t : UpdateTarget) (pt : CyclePoint) (c : LifecycleController) : Prop :=
  ∀ s, pt.phase = some s →
    c.state = .tainted ∨ c.state = s ∧ (InFlight s → c.pendingTarget = some t)

section Phases

variable {t : UpdateTarget} {pt pt' : CyclePoint} {c c' : LifecycleController}

theorem CyclePoint.Phased.not_idle (h : pt.Phased t c) {s : LifecycleState}
    (hphase : pt.phase = some s) : ¬ c.Idle := by
  have hs : s ≠ .uninitialized ∧ s ≠ .ready := by
    constructor <;> (rintro rfl; cases pt <;> cases hphase)
  rcases h s hphase with ht | ⟨hst, -⟩
  · exact LifecycleController.not_idle ht (by simp) (by simp)
  · exact LifecycleController.not_idle hst hs.1 hs.2

theorem CyclePoint.Phased.env (hi : Inv c) (h : pt.Phased t c) (he : anyAdapter.env c c') :
    pt.Phased t c' := by
  obtain ⟨op, hop, rfl⟩ := he
  intro s hs
  rcases (owners_after hi hop).2 with ht | ⟨hst, hpend⟩
  · exact .inl ht
  · rw [hst, hpend]
    exact h s hs

/-- A step into a phase comes from the beginning or from a phase. -/
theorem CycleStep.from_phase {call : RunnerCall} {reply : call.Reply}
    (hstep : CycleStep t pt call reply pt') {s : LifecycleState} (hs : pt'.phase = some s) :
    pt = .start ∨ ∃ s, pt.phase = some s := by
  cases hstep with
  | view => exact .inr ⟨s, hs⟩
  | beginDrain => exact .inl rfl
  | resumed | commit | uncommitted | refused | failed | ambiguous | unprinted | tainted => cases hs
  | _ => exact .inr ⟨_, rfl⟩

theorem CyclePoint.Phased.at (hi : Inv c) (h : pt.Phased t c)
    (hpt : pt = .start ∨ ∃ s, pt.phase = some s) : pt.At t c.currentTarget c := by
  rcases hpt with rfl | ⟨s, hs⟩
  · exact ⟨hi, rfl, h, False.elim, by simp⟩
  · refine ⟨hi, ?_, h, fun hf => ?_, ?_⟩
    · cases pt <;> cases hs <;> rfl
    · cases pt <;> first | exact hf.elim | cases hs
    · rintro t' rfl
      cases hs

theorem CyclePoint.Phased.step {call : RunnerCall} {reply : call.Reply} (hi : Inv c)
    (h : pt.Phased t c) (hstep : CycleStep t pt call reply pt')
    (ha : anyAdapter.answers call c reply c') : pt'.Phased t c' := by
  intro s hs
  exact ((h.at hi (hstep.from_phase hs)).step hstep ha).phase s hs

end Phases

/-! ## Assertions -/

/-- What a cycle does only to a paused engine. -/
def HttpCall.Installs : HttpCall → Prop
  | .driverTransfer _ => True
  | .request _ url _ _ =>
    url.path ∈ ["/reset_prefix_cache", "/reset_encoder_cache", "/reset_mm_cache", "/resume"]
  | _ => False

/-- The controller has `t` under way, unless it is tainted. -/
def LifecycleController.Updating (c : LifecycleController) (t : UpdateTarget) : Prop :=
  c.state = .tainted ∨ c.state = .updating ∧ c.pendingTarget = some t

/-- A call that installs found the engine paused and no rollout bound; a transfer was of the target
under way. -/
def HttpEvent.Clear : HttpEvent → Prop
  | .env _ _ => True
  | .call call _ s _ => (call.Installs → s.drain.Paused ∧ s.controller.bindings = []) ∧
    ∀ t, call = .driverTransfer t → s.controller.Updating t

/-- What holds throughout. -/
structure Sound (a : HttpVLLMAdapter) (tr : List HttpEvent) (s : HttpSystem) : Prop where
  clear : ∀ e ∈ tr, HttpEvent.Clear e
  inv : Inv s.controller
  oneOut : OneOut a s.drain
  idle : s.controller.Idle → s.drain.Quiet

/-- What holds at a point of a cycle that installs `t`, together with `P` of the drain. -/
structure Pausing (a : HttpVLLMAdapter) (t : UpdateTarget) (pt : CyclePoint)
    (P : DrainSystem → Prop) (tr : List HttpEvent) (s : HttpSystem) : Prop
    extends Sound a tr s where
  phased : pt.Phased t s.controller
  vacant : pt.Late → s.controller.Vacant
  drain : P s.drain

/-- The runner over HTTP, its attempts in any order. -/
abbrev freeWorld (a : HttpVLLMAdapter) : World HttpCall.Reply HttpSystem :=
  httpWorld a fun _ _ => True

section Assertions

variable {a : HttpVLLMAdapter} {t : UpdateTarget} {pt pt' : CyclePoint} {tr : List HttpEvent}
  {s s' : HttpSystem}

theorem clear_append {e : HttpEvent} (htr : ∀ e ∈ tr, HttpEvent.Clear e)
    (he : HttpEvent.Clear e) : ∀ x ∈ tr ++ [e], HttpEvent.Clear x := by
  intro x hx
  rcases List.mem_append.mp hx with hx | hx
  · exact htr x hx
  · rw [List.mem_singleton.mp hx]
    exact he

theorem clear_of_not_installs {call : HttpCall} {reply : call.Reply} (h : ¬ call.Installs) :
    HttpEvent.Clear (.call call reply s s') :=
  ⟨fun hi => absurd hi h, fun _ ht => by subst ht; exact absurd trivial h⟩

theorem Sound.env (h : Sound a tr s) (he : (freeWorld a).env s s') :
    Sound a (tr ++ [.env s s']) s' := by
  have hclear := clear_append h.clear (e := .env s s') trivial
  rcases he with ⟨c', hc, rfl⟩ | ⟨d, ⟨i, -, hstep⟩, rfl⟩
  · exact
      { clear := hclear
        inv := anyAdapter_env_inv h.inv hc
        oneOut := h.oneOut
        idle := fun hi => h.idle (idle_env h.inv hc hi) }
  · exact
      { clear := hclear
        inv := h.inv
        oneOut := oneOut_step h.oneOut hstep
        idle := fun hi => absurd hstep (not_step_of_done (h.idle hi).done) }

/-- The others leave a point of a cycle as it is. -/
theorem Pausing.env {P : DrainFact a} (h : Pausing a t pt P.holds tr s)
    (he : (freeWorld a).env s s') : Pausing a t pt P.holds (tr ++ [.env s s']) s' := by
  refine ⟨h.toSound.env he, ?_, ?_, ?_⟩
  all_goals rcases he with ⟨c', hc, rfl⟩ | ⟨d, ⟨i, -, hstep⟩, rfl⟩
  · exact h.phased.env h.inv hc
  · exact h.phased
  · exact fun hl => (h.vacant hl).env h.inv hc
  · exact h.vacant
  · exact h.drain
  · exact P.stable h.oneOut hstep h.drain

def sound (a : HttpVLLMAdapter) : Assertion (freeWorld a) := ⟨Sound a, fun h he => h.env he⟩

def pausing (t : UpdateTarget) (pt : CyclePoint) (P : DrainFact a) : Assertion (freeWorld a) :=
  ⟨Pausing a t pt P.holds, fun h he => h.env he⟩

theorem pausing_le_sound {P : DrainFact a} : pausing t pt P ≤ sound a := fun _ _ hs => hs.toSound

theorem pausing_le {P Q : DrainFact a} (h : ∀ s, P.holds s → Q.holds s) :
    pausing t pt P ≤ pausing t pt Q :=
  fun _ _ hs => { hs with drain := h _ hs.drain }

/-- At a point without a phase nothing is promised but what holds throughout. -/
theorem Sound.pausing (h : Sound a tr s) (hphase : pt.phase = none) :
    Pausing a t pt (fun _ => True) tr s where
  toSound := h
  phased s hs := by rw [hphase] at hs; cases hs
  vacant hl := by cases pt <;> first | exact hl.elim | cases hphase
  drain := trivial

/-- From one point to another of the same phase. -/
theorem Pausing.move {P : DrainSystem → Prop} (h : Pausing a t pt P tr s)
    (hphase : pt'.phase = pt.phase) (hlate : pt'.Late → pt.Late) : Pausing a t pt' P tr s :=
  { h with
    phased := fun s' hs' => h.phased s' (hphase ▸ hs')
    vacant := fun hl => h.vacant (hlate hl) }

/-- A call on the drain, which does not change the controller. -/
theorem drainStep_triple {call : HttpCall} {P : DrainFact a} {Q : call.Reply → DrainFact a}
    {E : PyExc → Assertion (freeWorld a)} {phase : LifecycleState} (hphase : pt.phase = some phase)
    (hcall : ¬ call.Installs)
    (hstep : ∀ s reply s', httpAnswers a call s reply s' →
      ∃ d, drainAnswers a call s.drain reply d ∧ s' = { s with drain := d })
    (h : ∀ d reply d', OneOut a d → P.holds d → drainAnswers a call d reply d' →
      OneOut a d' ∧ (Q reply).holds d') :
    Triple (sound a) (pausing t pt P) (Prog.op call) (fun r => pausing t pt (Q r)) E := by
  refine Triple.op pausing_le_sound fun tr s reply s' hs ha => ?_
  obtain ⟨d, hd, rfl⟩ := hstep s reply s' ha
  obtain ⟨hout, hq⟩ := h s.drain reply d hs.oneOut hs.drain hd
  have hpost : Pausing a t pt (Q reply).holds (tr ++ [.call call reply s { s with drain := d }])
      { s with drain := d } :=
    { clear := clear_append hs.clear (clear_of_not_installs hcall)
      inv := hs.inv
      oneOut := hout
      idle := fun hi => absurd hi (hs.phased.not_idle hphase)
      phased := hs.phased
      vacant := hs.vacant
      drain := hq }
  exact ⟨hpost.toSound, hpost⟩

end Assertions

/-! ## The methods of the adapter -/

/-- Calls that leave controller and drain alone. -/
def HttpCall.Spares : HttpCall → Prop
  | .runner _ | .resetAttempts | .openAttempt | .startThread _ | .closeAttempt .. => False
  | _ => True

section Methods

open HttpVLLMAdapter

variable {a : HttpVLLMAdapter} {t : UpdateTarget} {pt : CyclePoint} {phase : LifecycleState}
  {E : PyExc → Assertion (freeWorld a)} {tr : List HttpEvent} {s s' : HttpSystem}

theorem spared_of_answers {call : HttpCall} (hcall : call.Spares) {reply : call.Reply}
    (ha : httpAnswers a call s reply s') : s'.controller = s.controller ∧ s'.drain = s.drain := by
  cases call with
  | runner | resetAttempts | openAttempt | startThread | closeAttempt => exact hcall.elim
  | inflight => obtain ⟨-, rfl⟩ := ha; exact ⟨rfl, rfl⟩
  | setInflight => obtain rfl : s' = _ := ha; exact ⟨rfl, rfl⟩
  | drainStatus => obtain ⟨d, ⟨-, rfl⟩, rfl⟩ := ha; exact ⟨rfl, rfl⟩
  | request | driverInitialise | driverTransfer => obtain ⟨d, rfl, rfl⟩ := ha; exact ⟨rfl, rfl⟩

theorem Sound.spared {call : HttpCall} {reply : call.Reply} (h : Sound a tr s) (hcall : call.Spares)
    (ha : httpAnswers a call s reply s') (hclear : HttpEvent.Clear (.call call reply s s')) :
    Sound a (tr ++ [.call call reply s s']) s' := by
  obtain ⟨hc, hd⟩ := spared_of_answers hcall ha
  exact
    { clear := clear_append h.clear hclear
      inv := hc ▸ h.inv
      oneOut := hd ▸ h.oneOut
      idle := by
        rw [hc, hd]
        exact h.idle }

/-- A program of such calls that installs nothing. -/
theorem sound_performs {α : Type} {p : HttpProg α}
    (h : p.Performs fun call => call.Spares ∧ ¬ call.Installs) :
    Triple (sound a) (sound a) p (fun _ => sound a) (fun _ => sound a) :=
  h.triple (Assertion.le_refl _) fun _ hcall _ _ _ _ hs ha =>
    Sound.spared hs hcall.1 ha (clear_of_not_installs hcall.2)

/-- A program of such calls keeps a point of a cycle. -/
theorem pausing_performs {α : Type} {p : HttpProg α} {C : HttpCall → Prop} {P : DrainFact a}
    (h : p.Performs fun call => call.Spares ∧ C call)
    (hclear : ∀ call reply tr s s', C call → Pausing a t pt P.holds tr s →
      HttpEvent.Clear (.call call reply s s')) :
    Triple (sound a) (pausing t pt P) p (fun _ => pausing t pt P) (fun _ => pausing t pt P) := by
  refine h.triple pausing_le_sound fun call hcall tr s reply s' hs ha => ?_
  obtain ⟨hc, hd⟩ := spared_of_answers hcall.1 ha
  exact
    { toSound := hs.toSound.spared hcall.1 ha (hclear call reply tr s s' hcall.2 hs)
      phased := hc ▸ hs.phased
      vacant := hc ▸ hs.vacant
      drain := hd ▸ hs.drain }

/-- An attempt opened and started. -/
theorem startAttempt_pausing (hphase : pt.phase = some phase) :
    Triple (sound a) (pausing t pt (.quiet a)) startAttempt (fun _ => pausing t pt (.settled a))
      E := by
  unfold startAttempt
  refine Triple.bind (Q := fun n : ℕ => pausing t pt (.opening a n))
    (drainStep_triple hphase id (fun _ _ _ h => h) ?_) fun n =>
    drainStep_triple (Q := fun _ => .settled a) hphase id (fun _ _ _ h => h) ?_
  · rintro d n d' hout hq ⟨rfl, rfl⟩
    refine ⟨oneOut_of_done (openAttempt_inv hout.toDrainInv) hq.done, ?_⟩
    exact ⟨congrArg (· + 1) hq.count, rfl, rfl, hq.done⟩
  · rintro d - d' hout ⟨hc, rfl, hfly, hdone⟩ rfl
    refine ⟨⟨startThread_inv hout.toDrainInv hc, ?_⟩, startThread_settled hc d.attempts⟩
    -- the new thread is the one that is out
    intro j th hj hne
    rcases lt_or_ge j d.threads.length with hlt | hge
    · have hold := (List.getElem?_append_left hlt).symm.trans hj
      exact absurd (hdone th (List.mem_of_getElem? hold)) hne
    · have hle : j = d.threads.length := by
        have := (List.getElem?_eq_some_iff.mp hj).1
        simp at this
        omega
      subst hle
      obtain rfl := Option.some.inj (List.getElem?_concat_length.symm.trans hj)
      exact ⟨hc.symm, rfl, hfly⟩

theorem beginDrain_pausing (hphase : pt.phase = some phase) :
    Triple (sound a) (pausing t pt (.quiet a)) HttpVLLMAdapter.beginDrain
      (fun _ => pausing t pt (.settled a)) E := by
  unfold HttpVLLMAdapter.beginDrain
  refine Triple.bind (Q := fun _ => pausing t pt (.quiet a))
    (drainStep_triple (Q := fun _ => .quiet a) hphase id (fun _ _ _ h => h) ?_) fun _ =>
    startAttempt_pausing hphase
  rintro d - d' hout hq rfl
  exact ⟨oneOut_of_done (resetAttempts_inv hout.toDrainInv) hq.done, hq.count, hq.done⟩

/-- An attempt is opened only when the last one has recorded its failure. -/
theorem awaitDrain_pausing (hphase : pt.phase = some phase) :
    Triple (sound a) (pausing t pt (.settled a)) a.awaitDrain
      (fun e => pausing t pt (.reported a e.engineDrainCompleted)) fun _ => sound a := by
  unfold HttpVLLMAdapter.awaitDrain
  refine Triple.bind (Q := fun r : DrainState × Option String × ℕ => pausing t pt (.read a r.1))
    (@drainStep_triple a t pt .drainStatus (.settled a) (fun r => .read a r.1) _ _ hphase id
      (fun _ _ _ h => h) ?_) ?_
  · rintro d r d' hout hset ⟨rfl, rfl⟩
    exact ⟨hout, hset, paused_of_completed hout hset,
      fun hf => ⟨hset.count, hout.done (by simp [show d'.state = .failed from hf])⟩⟩
  · rintro ⟨state, error, attempts⟩
    have hnot : ∀ {state : DrainState},
        pausing t pt (.read a state) ≤ pausing t pt (.reported a false) :=
      pausing_le fun _ h => ⟨h.1, by simp⟩
    cases state with
    | completed =>
      exact Triple.pure pausing_le_sound (pausing_le fun _ h => ⟨h.1, fun _ => h.2.1 rfl⟩)
    | inFlight => exact Triple.pure pausing_le_sound hnot
    | idle => exact Triple.pure pausing_le_sound hnot
    | failed =>
      refine Triple.weaken (B := pausing t pt (.quiet a)) ?_ (pausing_le fun _ h => h.2.2 rfl)
      have habort : (a.abortAll a.abortRetries.toNat).Performs
          fun call => call.Spares ∧ ¬ call.Installs :=
        performs_abortAll ⟨trivial, by simp [HttpCall.Installs, url]⟩ _
      have hkeep : Triple (sound a) (pausing t pt (.quiet a)) (a.abortAll a.abortRetries.toNat)
          (fun _ => pausing t pt (.quiet a)) (fun _ => pausing t pt (.quiet a)) :=
        pausing_performs habort fun _ _ _ _ _ hcall _ => clear_of_not_installs hcall
      refine Triple.bind (Q := fun _ => pausing t pt (.quiet a)) (fun tr s h =>
        (hkeep tr s h).mono (fun _ => Assertion.le_refl _) fun _ => pausing_le_sound) fun _ => ?_
      dsimp only
      split_ifs
      · exact Triple.throw pausing_le_sound pausing_le_sound
      · refine Triple.bind (startAttempt_pausing hphase) fun _ => ?_
        exact Triple.pure pausing_le_sound (pausing_le fun _ h => ⟨h, by simp⟩)

/-- What the methods other than those of the drain may call. -/
def AdapterCall.Apart (m : AdapterCall) (call : HttpCall) : Prop :=
  (call.Installs → m ≠ .bootstrap) ∧ ∀ t, call = .driverTransfer t → m = .completeWeightUpdate t

theorem apart_of_makes {m : AdapterCall} {call : HttpCall} (h : a.Makes m call)
    (hbegin : m ≠ .beginDrain) (hawait : m ≠ .awaitDrain) : call.Spares ∧ m.Apart call := by
  cases h with
  | resetAttempts | openFirst | startFirst => exact absurd rfl hbegin
  | drainStatus | abort | openNext | startNext => exact absurd rfl hawait
  | label | initialise | seed | worldSize =>
    exact ⟨trivial, by simp [HttpCall.Installs, url], by simp⟩
  | transfer => exact ⟨trivial, by simp, by simp⟩
  | _ => exact ⟨trivial, by simp, by simp⟩

end Methods

/-! ## The points of a cycle -/

/-- What is known of the drain at a point of a cycle. -/
def CyclePoint.drainFact (a : HttpVLLMAdapter) : CyclePoint → DrainFact a
  | .begun => .quiet a
  | .draining => .settled a
  | .polled e => .reported a e.engineDrainCompleted
  | .quiesced | .updating | .opened | .staged _ | .invalidating | .reset _ | .validating
  | .validated _ | .resuming | .resumed _ => .paused a
  | _ => .any a

section Points

variable {a : HttpVLLMAdapter} {t : UpdateTarget} {pt pt' : CyclePoint} {tr : List HttpEvent}
  {s s' : HttpSystem}

/-- What holds at a point of a cycle that installs `t`. -/
abbrev pausingAt (a : HttpVLLMAdapter) (t : UpdateTarget) (pt : CyclePoint) :
    Assertion (freeWorld a) :=
  pausing t pt (pt.drainFact a)

theorem drainFact_step {call : RunnerCall} {reply : call.Reply} {c c' : LifecycleController}
    {d : DrainSystem} (hi : Inv c) (hd : (pt.drainFact a).holds d) (hidle : c.Idle → d.Quiet)
    (hstep : CycleStep t pt call reply pt') (ha : anyAdapter.answers call c reply c')
    (hcall : ∀ m, call ≠ .adapter m) : (pt'.drainFact a).holds d := by
  cases hstep with
  | view => exact hd
  | beginDrain =>
    have hacc := (ctrl_answers.mp ha).accepted hi
    cases hacc with
    | beginDrain hs => exact hidle (.inr hs)
  | notYet => exact hd.1
  | drained =>
    have hacc := (ctrl_answers.mp ha).accepted hi
    cases hacc with
    | confirmDrained _ _ he => exact hd.2 (DrainEvidence.failureReason_eq_none.mp he).1
  | beginUpdate | updated | invalidated | validated => exact hd
  | pause | poll | startUpdate | transfer | invalidate | validate | resume =>
    exact absurd rfl (hcall _)
  | _ => trivial

/-- A call of the runner on its controller. -/
theorem Sound.runner {call : RunnerCall} {reply : call.Reply} (h : Sound a tr s)
    (ha : (freeWorld a).answers (.runner call) s reply s')
    (hresumed : ∀ e, call = .ctrl (.confirmResumed e) → s.drain.Quiet) :
    Sound a (tr ++ [.call (.runner call) reply s s']) s' := by
  obtain ⟨c', hc, rfl⟩ := ha
  refine
    { clear := clear_append h.clear (clear_of_not_installs id)
      inv := anyAdapter_inv h.inv hc
      oneOut := h.oneOut
      idle := fun hi => ?_ }
  rcases idle_of_answers h.inv hc hi with hi | ⟨e, he⟩
  · exact h.idle hi
  · exact hresumed e he

theorem runner_pausing {call : RunnerCall} {E : PyExc → Assertion (freeWorld a)}
    (hcall : ∀ m, call ≠ .adapter m)
    (hresumed : ∀ e, call = .ctrl (.confirmResumed e) → ∃ e', pt = .resumed e') :
    Triple (sound a) (pausingAt a t pt) (Prog.op (HttpCall.runner call))
      (stepped t (pausingAt a t) pt call) E := by
  refine Triple.op pausing_le_sound fun tr s reply s' hs ha => ?_
  have hpost := hs.toSound.runner ha fun e he => by
    obtain ⟨e', rfl⟩ := hresumed e he
    exact hs.drain.toQuiet
  obtain ⟨c', hc, rfl⟩ := ha
  refine ⟨hpost, fun pt' hstep => ?_⟩
  exact
    { toSound := hpost
      phased := hs.phased.step hs.inv hstep hc
      vacant := vacant_step hs.inv hs.vacant hstep hc
      drain := drainFact_step hs.inv hs.drain hs.idle hstep hc hcall }

/-- What the methods after the pause call. -/
theorem clear_of_apart {m : AdapterCall} (hcall : pt.call? t = some (.adapter m)) (hl : pt.Late)
    {call : HttpCall} (hapart : m.Apart call) {reply : call.Reply}
    (h : Pausing a t pt DrainSystem.Paused tr s) : HttpEvent.Clear (.call call reply s s') := by
  refine ⟨fun _ => ⟨h.drain, (h.vacant hl).1⟩, ?_⟩
  rintro t' rfl
  obtain rfl := hapart.2 t' rfl
  cases pt with
  | opened =>
    cases hcall
    exact (h.phased .updating rfl).imp id fun hp => ⟨hp.1, hp.2 (.inl rfl)⟩
  | _ => cases hcall

/-- **Every method** leads from point to point. -/
theorem method_pausing (J : JsonModule) {m : AdapterCall} (hcall : pt.call? t = some (.adapter m)) :
    Triple (sound a) (pausingAt a t pt) (a.method J m).attempt
      (stepped t (pausingAt a t) pt (.adapter m)) fun e => pausingAt a t (.raised e) := by
  have herror : ∀ {e : PyExc},
      sound a ≤ stepped t (pausingAt a t) pt (.adapter m) (Except.error e) := by
    intro e tr s hs pt' hstep
    cases hstep with
    | view hv => exact hv.elim
    | failed | ambiguous | unprinted => exact Sound.pausing hs rfl
  suffices h : Triple (sound a) (pausingAt a t pt) (a.method J m)
      (fun r => stepped t (pausingAt a t) pt (.adapter m) (Except.ok r)) (fun _ => sound a) from
    fun tr s hs => Safe.attempt ((h tr s hs).mono (fun _ => Assertion.le_refl _) fun _ => herror)
  cases pt with
  | begun =>
    cases hcall
    have hmethod := beginDrain_pausing (a := a) (t := t) (E := fun _ => sound a)
      (show CyclePoint.begun.phase = some .draining from rfl)
    refine fun tr s hs => (hmethod tr s hs).mono ?_ fun _ => Assertion.le_refl _
    rintro ⟨⟩ tr s hs pt' hstep
    cases hstep with
    | view hv => exact hv.elim
    | pause => exact Pausing.move hs rfl False.elim
  | draining =>
    cases hcall
    have hmethod := awaitDrain_pausing (a := a) (t := t)
      (show CyclePoint.draining.phase = some .draining from rfl)
    refine fun tr s hs => (hmethod tr s hs).mono ?_ fun _ => Assertion.le_refl _
    intro e tr s hs pt' hstep
    cases hstep with
    | view hv => exact hv.elim
    | poll => exact Pausing.move hs rfl False.elim
  | updating | opened | invalidating | validating | resuming =>
    have hcall' := hcall
    cases hcall
    refine fun tr s hs => Safe.mono (pausing_performs ((a.performs_method J _).mono fun call hm =>
      apart_of_makes hm (by simp) (by simp)) (fun call reply tr s s' hapart hs =>
      clear_of_apart hcall' trivial hapart hs) tr s hs) ?_ fun _ => pausing_le_sound
    intro e tr s hs pt' hstep
    cases hstep with
    | view hv => exact hv.elim
    | _ => exact Pausing.move hs rfl fun _ => trivial
  | _ => cases hcall

theorem pausing_annotated (J : JsonModule) (r : LifecycleRunner) (t : UpdateTarget) :
    Annotated r t (a.handle J) (sound a) (pausingAt a t) where
  inv _ := pausing_le_sound
  view pt call hv := by
    cases call with
    | state | monotonic | sleep => exact runner_pausing (by simp) (by simp)
    | _ => exact hv.elim
  call pt call hcall := by
    cases call with
    | adapter m => exact method_pausing J hcall
    | ctrl op =>
      refine runner_pausing (by simp) fun e he => ?_
      cases he
      cases pt with
      | resumed e => exact ⟨e, rfl⟩
      | _ => cases hcall
    | _ => exact runner_pausing (by simp) (by simp)
  exhausted _ _ hs := Sound.pausing hs.toSound rfl

end Points

/-! ## Sessions -/

section Sessions

variable {a : HttpVLLMAdapter} {r : LifecycleRunner} {J : JsonModule} {s₀ s s' : HttpSystem}
  {tr : List HttpEvent} {past : List (RunnerRequest × List HttpEvent)}

/-- **Every request** keeps what holds throughout. -/
theorem serveHttp_sound (q : RunnerRequest) :
    Triple (sound a) (sound a) (r.serveHttp J a q) (fun _ => sound a) fun _ => sound a := by
  refine request_triple (fun call hcall => ?_) (fun t tr s hs => ?_) q
  · cases call with
    | ctrl op =>
      refine Triple.op (Assertion.le_refl _) fun tr s reply s' hs ha => ?_
      have hpost := Sound.runner hs ha fun e he => by
        cases he
        exact hcall.elim
      exact ⟨hpost, hpost⟩
    | adapter m =>
      cases m with
      | bootstrap =>
        have hboot := (a.performs_method J .bootstrap).mono fun call hm =>
          (apart_of_makes hm (by simp) (by simp)).imp_right fun h hi => h.1 hi rfl
        exact fun tr s hs => Safe.attempt (sound_performs hboot tr s hs)
      | _ => exact hcall.elim
    | _ => exact hcall.elim
  · refine ((pausing_annotated J r t).runCycle tr s (Sound.pausing hs rfl)).mono ?_ ?_
    · exact fun _ => pausing_le_sound
    · exact fun _ => pausing_le_sound

theorem Sound.fresh (h : Sound a tr s) : Sound a [] s := { h with clear := by simp }

theorem session_sound (h : Session (freeWorld a) (r.serveHttp J a) s₀ past s)
    (hs₀ : Sound a [] s₀) : Sound a (past.flatMap (·.2)) s := by
  induction h with
  | nil => exact hs₀
  | env h he ih => exact { ih.env he with clear := ih.clear }
  | @request past s s' q tr p h hr hp ih =>
    have hrun : Sound a tr s' := (serveHttp_sound q).always ih.fresh hr
    refine { hrun with clear := fun e he => ?_ }
    rw [List.flatMap_append, List.mem_append] at he
    rcases he with he | he
    · exact ih.clear e he
    · exact hrun.clear e (by simpa using he)

/-- A new adapter on any controller. -/
theorem sound_init {c : LifecycleController} (hc : Reachable c) (i : Option UpdateTarget) :
    Sound a [] ⟨c, i, {}⟩ where
  clear := by simp
  inv := hc.inv
  oneOut := oneOut_init a
  idle _ := ⟨rfl, by simp⟩

end Sessions

/-- **Nothing is installed before the pause.** Take a new adapter and any controller, and run
bootstraps and cycles to whatever point, whatever transport and driver answer, with rollout owners,
the operator and the pause attempts in between, in any order. Then
* every transfer by the driver, cache reset and resume was made after the newest pause attempt, one
  of the latest drain, had been answered below 400, with no attempt out and no rollout bound, active
  or orphaned, and every transfer was of the target under way;
* an attempt that is out is the newest, of the latest drain, whose state is IN_FLIGHT; so what a
  drain has recorded is the outcome of its own newest attempt, and no stale verdict can be recorded
  next. -/
theorem installs_paused (J : JsonModule) (a : HttpVLLMAdapter) (r : LifecycleRunner)
    {c : LifecycleController} {i : Option UpdateTarget} (hc : Reachable c)
    {past : List (RunnerRequest × List HttpEvent)} {s s' : HttpSystem} {q : RunnerRequest}
    {tr : List HttpEvent} {p : HttpProg Unit}
    (h : Session (freeWorld a) (r.serveHttp J a) ⟨c, i, {}⟩ past s)
    (hr : Run (freeWorld a) (r.serveHttp J a q) s tr p s') :
    (∀ e ∈ past.flatMap (·.2) ++ tr, HttpEvent.Clear e) ∧
      (∀ i th, s'.drain.threads[i]? = some th → th.left ≠ .pure () →
        i + 1 = s'.drain.opened ∧ th.drain = s'.drain.drains ∧ s'.drain.state = .inFlight) ∧
      Reflects s'.drain ∧ ∀ i, NoStaleMatch s'.drain i := by
  have hpast := session_sound h (sound_init hc i)
  have hrun : Sound a tr s' := (serveHttp_sound q).always hpast.fresh hr
  refine ⟨fun e he => ?_, hrun.oneOut.out, hrun.oneOut.toReflects, hrun.oneOut.noStaleMatch⟩
  rcases List.mem_append.mp he with he | he
  · exact hpast.clear e he
  · exact hrun.clear e he

/-- The event is a transfer by the driver. -/
def HttpEvent.transfers : HttpEvent → Bool
  | .call (.driverTransfer _) .. => true
  | _ => false

/-- The request of the cycle a delivering adapter carries out. -/
abbrev deliveredRequest : HttpProg Unit :=
  LifecycleRunner.serveHttp {} servedJson deliveringAdapter (.cycle (.runCycle ⟨⟨1⟩, identityB⟩))

/-- A cycle that commits, and its transfer. -/
theorem installs_paused_delivered : ∃ tr s' t reply s₁ s₂,
    Run (freeWorld deliveringAdapter) deliveredRequest ⟨bootstrapped, none, {}⟩ tr (.pure ()) s' ∧
    .call (.driverTransfer t) reply s₁ s₂ ∈ tr ∧ s₁.drain.Paused ∧ s₁.controller.Updating t := by
  have hrun := run_commitPlay deliveredRequest ⟨bootstrapped, none, {}⟩
  have hok : (commitPlay deliveredRequest ⟨bootstrapped, none, {}⟩).2.1.toBool = true := by
    decide +kernel
  have hsome : (commitPlay deliveredRequest ⟨bootstrapped, none, {}⟩).1.any
      HttpEvent.transfers = true := by
    decide +kernel
  generalize commitPlay deliveredRequest ⟨bootstrapped, none, {}⟩ = out at hrun hok hsome
  obtain ⟨tr, res | ⟨⟨⟩⟩, s'⟩ := out
  · cases hok
  · obtain ⟨hclear, -⟩ := installs_paused servedJson deliveringAdapter {} reachable_bootstrapped
      .nil hrun
    obtain ⟨e, he, ht⟩ := List.any_eq_true.mp hsome
    have hpaused := hclear e (List.mem_append_right _ he)
    cases e with
    | env => cases ht
    | call call reply s₁ s₂ =>
      cases call with
      | driverTransfer t =>
        exact ⟨tr, s', t, reply, s₁, s₂, hrun, he, (hpaused.1 trivial).1, hpaused.2 t rfl⟩
      | _ => cases ht

end RolloutCore
