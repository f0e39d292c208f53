import RolloutCore.CycleGuarantees

/-!
# An operator taint during a cycle

The runner asks the controller for a transition and then, in a separate step, calls the adapter
method the transition stands for. A taint that lands between the two does not stop the call. This
module says exactly which taints an effect can follow.
-/

namespace RolloutCore

open LifecycleController

/-! ## Windows -/

/-- The reply is that of a call that licenses an effect: a transition after which the runner acts
on the engine, or the opening of the session the transfer runs in. -/
def RunnerCall.licenses : (call : RunnerCall) → call.Reply → Bool
  | .ctrl .beginDrain, .ok _ | .ctrl (.beginUpdate _), .ok _ | .ctrl (.confirmUpdated _), .ok _ |
    .ctrl (.confirmValidated _), .ok _ | .adapter (.startWeightUpdate _), .ok _ => true
  | _, _ => false

instance : DecidablePred RunnerCall.IsView
  | .state | .monotonic | .sleep _ => isTrue trivial
  | .ctrl _ | .currentTarget | .adapter _ => isFalse not_false

/-- Whether a licensed effect is outstanding after an event. -/
def licenceStep (licensed : Bool) : CycleEvent → Bool
  | .env _ _ => licensed
  | .call call reply _ _ => if call.IsView then licensed else call.licenses reply

/-- A licensed effect is outstanding: the runner has its transition and has not acted on it. -/
def licensed (tr : List CycleEvent) : Bool := tr.foldl licenceStep false

/-- Another caller tainted the controller while a licensed effect was outstanding. -/
def TaintInWindow (tr : List CycleEvent) : Prop :=
  ∃ past c c' later, tr = past ++ .env c c' :: later ∧ licensed past = true ∧
    c.state ≠ .tainted ∧ c'.state = .tainted

/-- A mutating adapter method was called when the controller was TAINTED. -/
def EffectWhenTainted (tr : List CycleEvent) : Prop :=
  ∃ m reply c c', m.IsEffect ∧ adapterEvent m reply c c' ∈ tr ∧ c.state = .tainted

section Windows

variable {tr : List CycleEvent} {x : CycleEvent} {c c' : LifecycleController}

theorem licensed_append : licensed (tr ++ [x]) = licenceStep (licensed tr) x := by
  unfold licensed
  rw [List.foldl_append]
  rfl

theorem taintInWindow_append : TaintInWindow (tr ++ [x]) ↔ TaintInWindow tr ∨
    ∃ c c', x = .env c c' ∧ licensed tr = true ∧ c.state ≠ .tainted ∧ c'.state = .tainted := by
  constructor
  · rintro ⟨past, c, c', later, heq, h⟩
    rcases List.eq_nil_or_concat later with rfl | ⟨later, y, rfl⟩
    · obtain ⟨rfl, hx⟩ := List.append_inj' heq rfl
      exact .inr ⟨c, c', (List.cons.inj hx).1, h⟩
    · rw [List.concat_eq_append, ← List.cons_append, ← List.append_assoc] at heq
      exact .inl ⟨past, c, c', later, (List.append_inj' heq rfl).1, h⟩
  · rintro (⟨past, c, c', later, rfl, h⟩ | ⟨c, c', rfl, h⟩)
    · exact ⟨past, c, c', later ++ [x], by rw [List.append_assoc, List.cons_append], h⟩
    · exact ⟨tr, c, c', [], rfl, h⟩

theorem effectWhenTainted_append : EffectWhenTainted (tr ++ [x]) ↔ EffectWhenTainted tr ∨
    ∃ m reply c c', m.IsEffect ∧ adapterEvent m reply c c' = x ∧ c.state = .tainted := by
  constructor
  · rintro ⟨m, reply, c, c', hm, hmem, hs⟩
    rcases List.mem_append.mp hmem with hmem | hmem
    · exact .inl ⟨m, reply, c, c', hm, hmem, hs⟩
    · exact .inr ⟨m, reply, c, c', hm, List.mem_singleton.mp hmem, hs⟩
  · rintro (⟨m, reply, c, c', hm, hmem, hs⟩ | ⟨m, reply, c, c', hm, rfl, hs⟩)
    · exact ⟨m, reply, c, c', hm, List.mem_append_left _ hmem, hs⟩
    · exact ⟨m, reply, c, c', hm, List.mem_append_right _ (List.mem_singleton_self _), hs⟩

theorem taintInWindow_call {call : RunnerCall} {reply : call.Reply} :
    TaintInWindow (tr ++ [.call call reply c c']) ↔ TaintInWindow tr := by
  rw [taintInWindow_append]
  simp

theorem effectWhenTainted_call {call : RunnerCall} {reply : call.Reply} :
    EffectWhenTainted (tr ++ [.call call reply c c']) ↔ EffectWhenTainted tr ∨
      ∃ m, m.IsEffect ∧ call = .adapter m ∧ c.state = .tainted := by
  rw [effectWhenTainted_append]
  refine or_congr_right ⟨?_, ?_⟩
  · rintro ⟨m, reply', c₁, c₁', hm, heq, hs⟩
    cases heq
    exact ⟨m, hm, rfl, hs⟩
  · rintro ⟨m, hm, rfl, hs⟩
    exact ⟨m, reply, c, c', hm, rfl, hs⟩

theorem effectWhenTainted_env : EffectWhenTainted (tr ++ [.env c c']) ↔ EffectWhenTainted tr := by
  rw [effectWhenTainted_append]
  simp

end Windows

/-! ## Effects on a tainted controller -/

namespace CyclePoint

/-- The points between a licence and its effect. -/
def holdsLicence : CyclePoint → Bool
  | .begun | .updating | .opened | .invalidating | .resuming => true
  | _ => false

/-- The account of taints and effects along a cycle: an effect has found the controller TAINTED, or
is about to, exactly when a taint landed in a window. -/
structure TaintAccount (pt : CyclePoint) (tr : List CycleEvent) (c : LifecycleController) :
    Prop where
  licence : licensed tr = pt.holdsLicence
  account : EffectWhenTainted tr ∨ (pt.holdsLicence = true ∧ c.state = .tainted) ↔
    TaintInWindow tr

section Steps

variable {t : UpdateTarget} {t₀ : Option UpdateTarget} {pt pt' : CyclePoint}
  {tr : List CycleEvent} {c c' : LifecycleController}

theorem TaintAccount.env (h : pt.TaintAccount tr c) (hat : pt.At t t₀ c)
    (he : anyAdapter.env c c') : pt.TaintAccount (tr ++ [.env c c']) c' where
  licence := by rw [licensed_append]; exact h.licence
  account := by
    rw [taintInWindow_append, effectWhenTainted_env, ← h.account, h.licence]
    have hstays : c.state = .tainted → c'.state = .tainted := by
      intro hs
      obtain ⟨op, -, rfl⟩ := he
      rw [after_of_tainted hat.inv hs]
      exact hs
    constructor
    · rintro (heff | ⟨hl, hs'⟩)
      · exact .inl (.inl heff)
      · by_cases hs : c.state = .tainted
        · exact .inl (.inr ⟨hl, hs⟩)
        · exact .inr ⟨c, c', rfl, hl, hs, hs'⟩
    · rintro ((heff | ⟨hl, hs⟩) | ⟨_, _, heq, hl, -, hs'⟩)
      · exact .inl heff
      · exact .inr ⟨hl, hstays hs⟩
      · cases heq
        exact .inr ⟨hl, hs'⟩

/-- A call that is no effect, made while no licence is held. -/
theorem TaintAccount.of_quiet (h : pt.TaintAccount tr c) {call : RunnerCall} {reply : call.Reply}
    (hcall : ∀ m, call = .adapter m → ¬ m.IsEffect) (hpt : pt.holdsLicence = false)
    (hv : ¬ call.IsView) (hl : call.licenses reply = pt'.holdsLicence)
    (hs : pt'.holdsLicence = true → c'.state ≠ .tainted) :
    pt'.TaintAccount (tr ++ [.call call reply c c']) c' where
  licence := by rw [licensed_append, licenceStep, if_neg hv, hl]
  account := by
    rw [taintInWindow_call, effectWhenTainted_call, ← h.account, hpt]
    constructor
    · rintro ((heff | ⟨m, hm, hadapter, -⟩) | ⟨hl', hs'⟩)
      · exact .inl heff
      · exact absurd hm (hcall m hadapter)
      · exact absurd hs' (hs hl')
    · rintro (heff | ⟨hfalse, -⟩)
      · exact .inl (.inl heff)
      · cases hfalse

/-- The effect a licence was held for. -/
theorem TaintAccount.of_effect (h : pt.TaintAccount tr c) {m : AdapterCall}
    {reply : (RunnerCall.adapter m).Reply} (hm : m.IsEffect) (hpt : pt.holdsLicence = true)
    (hl : RunnerCall.licenses (.adapter m) reply = pt'.holdsLicence) :
    pt'.TaintAccount (tr ++ [.call (.adapter m) reply c c]) c where
  licence := by
    rw [licensed_append, ← hl]
    rfl
  account := by
    rw [taintInWindow_call, effectWhenTainted_call, ← h.account, hpt]
    constructor
    · rintro ((heff | ⟨_, -, -, hs⟩) | ⟨-, hs⟩)
      · exact .inl heff
      · exact .inr ⟨rfl, hs⟩
      · exact .inr ⟨rfl, hs⟩
    · rintro (heff | ⟨-, hs⟩)
      · exact .inl (.inl heff)
      · exact .inl (.inr ⟨m, hm, rfl, hs⟩)

theorem TaintAccount.of_view (h : pt.TaintAccount tr c) {call : RunnerCall} {reply : call.Reply}
    (hv : call.IsView) : pt.TaintAccount (tr ++ [.call call reply c c]) c where
  licence := by
    rw [licensed_append, licenceStep, if_pos hv]
    exact h.licence
  account := by
    rw [taintInWindow_call, effectWhenTainted_call, ← h.account]
    refine or_congr_left (or_iff_left ?_)
    rintro ⟨m, -, rfl, -⟩
    exact hv

/-- A point that calls the controller holds no licence. -/
theorem no_licence_of_ctrl {op : Op} (h : pt.call? t = some (.ctrl op)) :
    pt.holdsLicence = false := by
  cases pt <;> cases h <;> rfl

/-- A point that calls the adapter holds a licence if the call is an effect. -/
theorem licence_of_adapter {m : AdapterCall} (h : pt.call? t = some (.adapter m)) :
    (m.IsEffect → pt.holdsLicence = true) ∧ (¬ m.IsEffect → pt.holdsLicence = false) := by
  cases pt <;> cases h <;> simp [AdapterCall.IsEffect, holdsLicence]

theorem TaintAccount.step (h : pt.TaintAccount tr c) (hat : pt.At t t₀ c) {call : RunnerCall}
    {reply : call.Reply} (hstep : CycleStep t pt call reply pt')
    (ha : anyAdapter.answers call c reply c') :
    pt'.TaintAccount (tr ++ [.call call reply c c']) c' := by
  have hnot : ∀ op m, RunnerCall.ctrl op = .adapter m → ¬ m.IsEffect := by
    intro op m heq
    cases heq
  cases hstep with
  | view hv =>
    obtain rfl := view_answers hv ha
    exact h.of_view hv
  | beginDrain | beginUpdate | updated | validated =>
    refine h.of_quiet (hnot _) rfl not_false rfl fun _ => ?_
    cases (ctrl_answers.mp ha).accepted hat.inv
    simp
  | notYet | drained | invalidated | resumed | tainted =>
    exact h.of_quiet (hnot _) rfl not_false rfl (by simp [holdsLicence])
  | pause | startUpdate | transfer | invalidate | resume =>
    obtain rfl : c' = c := ha
    exact h.of_effect trivial rfl rfl
  | poll | validate =>
    refine h.of_quiet ?_ rfl not_false rfl (by simp [holdsLicence])
    rintro m heq
    cases heq
    exact not_false
  | commit | uncommitted =>
    exact h.of_quiet (by simp) rfl not_false rfl (by simp [holdsLicence])
  | refused hcall =>
    refine h.of_quiet (hnot _) (no_licence_of_ctrl hcall) not_false ?_ (by simp [holdsLicence])
    cases pt <;> cases hcall <;> rfl
  | @failed _ m _ hcall =>
    obtain rfl : c' = c := ha
    obtain ⟨hyes, hno⟩ := licence_of_adapter hcall
    by_cases hm : m.IsEffect
    · refine h.of_effect hm (hyes hm) ?_
      cases pt <;> cases hcall <;> rfl
    · refine h.of_quiet ?_ (hno hm) not_false ?_ (by simp [holdsLicence])
      · rintro m' heq
        cases heq
        exact hm
      · cases pt <;> cases hcall <;> rfl
  | ambiguous hcall hm | unprinted hcall hm =>
    obtain rfl : c' = c := ha
    refine h.of_effect hm ((licence_of_adapter hcall).1 hm) ?_
    cases pt <;> cases hcall <;> rfl

theorem TaintAccount.of_trace {r : LifecycleRunner} (hi : Inv c)
    (h : CycleFrom r anyAdapter t c pt tr c') : pt.TaintAccount tr c' := by
  induction h with
  | start h =>
    obtain ⟨rfl, rfl⟩ := h
    refine ⟨rfl, ?_⟩
    simp [EffectWhenTainted, TaintInWindow, holdsLicence]
  | env h he ih => exact ih.env (at_of_cycleFrom hi h) he
  | call h hstep ha ih => exact ih.step (at_of_cycleFrom hi h) hstep ha
  | exhausted h ih => exact ⟨ih.licence, ih.account⟩

end Steps

end CyclePoint

/-- **Effects after a taint.** In every run of a cycle in which no other caller taints the
controller between a transition and the effect that goes with it, no effect is called on a TAINTED
controller; a run that has ended has called one exactly when such a taint landed. -/
theorem effects_after_taint (r : LifecycleRunner) (t : UpdateTarget) (c : LifecycleController)
    (hc : Reachable c) {tr : List CycleEvent} {p : RunnerProg CycleResult}
    {c' : LifecycleController} (h : Run anyAdapter (r.runCycle t) c tr p c') :
    (¬ TaintInWindow tr → ¬ EffectWhenTainted tr) ∧
      (p.Ended → (¬ EffectWhenTainted tr ↔ ¬ TaintInWindow tr)) := by
  obtain ⟨pt, htrace, hret, hraise⟩ := cycleFrom_of_run h
  have haccount := (CyclePoint.TaintAccount.of_trace hc.inv htrace).account
  refine ⟨fun hno heff => hno (haccount.mp (.inl heff)), fun hend => ?_⟩
  have hlicence : pt.holdsLicence = false := by
    cases hend with
    | pure res => rw [hret res rfl]; rfl
    | throw e => rw [hraise e rfl]; rfl
  rw [← haccount, hlicence]
  simp

/-- The event resumes the engine on a TAINTED controller. -/
def resumesTainted : CycleEvent → Bool
  | .call (.adapter (.resume _)) _ c _ => c.state = .tainted
  | _ => false

theorem effectWhenTainted_of_resumes {tr : List CycleEvent} (h : tr.any resumesTainted = true) :
    EffectWhenTainted tr := by
  obtain ⟨x, hmem, hx⟩ := List.any_eq_true.mp h
  unfold resumesTainted at hx
  split at hx
  · exact ⟨.resume _, _, _, _, trivial, hmem, by simpa using hx⟩
  · cases hx

/-- A taint lands after the last transition of an otherwise uneventful cycle. -/
theorem resumes_of_late_taint :
    (goodPlay ⟨⟨1⟩, identityB⟩ (some 21) bootstrapped).1.any resumesTainted = true := by
  decide +kernel

/-- The engine is resumed all the same. -/
theorem resumed_after_taint :
    ¬ ∀ (r : LifecycleRunner) (t : UpdateTarget) (c : LifecycleController), Reachable c →
      c.state = .ready → ∀ tr p c', Run anyAdapter (r.runCycle t) c tr p c' →
        ¬ EffectWhenTainted tr := by
  intro hclaim
  exact hclaim {} ⟨⟨1⟩, identityB⟩ bootstrapped reachable_bootstrapped (by decide) _ _ _
    (run_goodPlay _ _ _) (effectWhenTainted_of_resumes resumes_of_late_taint)

/-- That taint landed in a window. -/
theorem effects_after_taint_late :
    TaintInWindow (goodPlay ⟨⟨1⟩, identityB⟩ (some 21) bootstrapped).1 := by
  by_contra hno
  exact (effects_after_taint {} _ _ reachable_bootstrapped (run_goodPlay _ _ _)).1 hno
    (effectWhenTainted_of_resumes resumes_of_late_taint)

end RolloutCore
