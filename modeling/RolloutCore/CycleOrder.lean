import RolloutCore.CycleGuarantees

/-!
# The order of the effects of a cycle

Which adapter methods a cycle calls, in which order, and what stands behind each `resume`: over
every session of requests to one runner, with any adapter and any other callers.
-/

namespace RolloutCore

open LifecycleController

/-! ## The calls and the evidence in a trace -/

/-- The adapter methods called, in order. -/
def adapterCalls (tr : List CycleEvent) : List AdapterCall :=
  tr.filterMap fun
    | .call (.adapter m) _ _ _ => some m
    | _ => none

/-- The methods of a cycle that installs `t` and polls the drain `n + 1` times. -/
def callPattern (t : UpdateTarget) (n : ℕ) : List AdapterCall :=
  .beginDrain :: (List.replicate (n + 1) .awaitDrain ++
    [.startWeightUpdate t, .completeWeightUpdate t, .invalidateCaches t, .validatePreResume t,
      .resume t])

/-- The calls are the first ones of a cycle that installs `t`. -/
def CallsInOrder (t : UpdateTarget) (calls : List AdapterCall) : Prop :=
  ∃ n, calls <+: callPattern t n

/-- A drain confirmed complete by the engine was accepted with no rollout active. -/
def DrainedIn (tr : List CycleEvent) : Prop :=
  ∃ e, (∃ c c', adapterEvent .awaitDrain (Except.ok e) c c' ∈ tr) ∧
    (∃ c c', ctrlEvent (.confirmDrained e) (Except.ok ()) c c' ∈ tr ∧ c.active.entries = []) ∧
    e.engineDrainCompleted = true

/-- The update of `t` was reported complete. -/
def UpdatedIn (t : UpdateTarget) (tr : List CycleEvent) : Prop :=
  ∃ e, (∃ c c', adapterEvent (.completeWeightUpdate t) (Except.ok e) c c' ∈ tr) ∧ e.target = t ∧
    e.failureReason = none

/-- All three caches were reported reset. -/
def InvalidatedIn (t : UpdateTarget) (tr : List CycleEvent) : Prop :=
  ∃ e, (∃ c c', adapterEvent (.invalidateCaches t) (Except.ok e) c c' ∈ tr) ∧
    e.prefixCacheReset = true ∧ e.encoderCacheReset = true ∧ e.mmCacheReset = true

/-- The paused engine was seen with the label of `t` and clean caches. -/
def ValidatedIn (t : UpdateTarget) (tr : List CycleEvent) : Prop :=
  ∃ e, (∃ c c', adapterEvent (.validatePreResume t) (Except.ok e) c c' ∈ tr) ∧ e.target = t ∧
    e.observedEngineLabel = t.label ∧ e.isPaused = true ∧ e.cachesStillClean = true

/-- What has to stand before an event: before a resume, everything else. -/
def Justifies (t : UpdateTarget) (past : List CycleEvent) (x : CycleEvent) : Prop :=
  ∀ t' reply c c', x = adapterEvent (.resume t') reply c c' →
    t' = t ∧ DrainedIn past ∧ UpdatedIn t past ∧ InvalidatedIn t past ∧ ValidatedIn t past

theorem adapterCalls_append (tr : List CycleEvent) (x : CycleEvent) :
    adapterCalls (tr ++ [x]) = adapterCalls tr ++ adapterCalls [x] :=
  List.filterMap_append

/-! ## What a point of the cycle knows -/

namespace CyclePoint

/-- The calls made since the drain was first confirmed. -/
def tail (t : UpdateTarget) : CyclePoint → List AdapterCall
  | .opened => [.startWeightUpdate t]
  | .staged _ | .invalidating => [.startWeightUpdate t, .completeWeightUpdate t]
  | .reset _ | .validating =>
    [.startWeightUpdate t, .completeWeightUpdate t, .invalidateCaches t]
  | .validated _ | .resuming =>
    [.startWeightUpdate t, .completeWeightUpdate t, .invalidateCaches t, .validatePreResume t]
  | .resumed _ | .committed | .returned _ =>
    [.startWeightUpdate t, .completeWeightUpdate t, .invalidateCaches t, .validatePreResume t,
      .resume t]
  | _ => []

/-- The calls made when a cycle is at a point. -/
def CallsAt (t : UpdateTarget) (calls : List AdapterCall) : CyclePoint → Prop
  | .start | .begun => calls = []
  | .draining => ∃ n, calls = .beginDrain :: List.replicate n .awaitDrain
  | .tainting _ | .raised _ => CallsInOrder t calls
  | pt => ∃ n, calls = .beginDrain :: (List.replicate (n + 1) .awaitDrain ++ pt.tail t)

/-- The evidence a cycle has when it is at a point. -/
def KnowsAt (t : UpdateTarget) (tr : List CycleEvent) : CyclePoint → Prop
  | .polled e => ∃ c c', adapterEvent .awaitDrain (Except.ok e) c c' ∈ tr
  | .quiesced | .updating | .opened => DrainedIn tr
  | .staged e => DrainedIn tr ∧
    ∃ c c', adapterEvent (.completeWeightUpdate t) (Except.ok e) c c' ∈ tr
  | .invalidating => DrainedIn tr ∧ UpdatedIn t tr
  | .reset e => DrainedIn tr ∧ UpdatedIn t tr ∧
    ∃ c c', adapterEvent (.invalidateCaches t) (Except.ok e) c c' ∈ tr
  | .validating => DrainedIn tr ∧ UpdatedIn t tr ∧ InvalidatedIn t tr
  | .validated e => DrainedIn tr ∧ UpdatedIn t tr ∧ InvalidatedIn t tr ∧
    ∃ c c', adapterEvent (.validatePreResume t) (Except.ok e) c c' ∈ tr
  | .resuming => DrainedIn tr ∧ UpdatedIn t tr ∧ InvalidatedIn t tr ∧ ValidatedIn t tr
  | _ => True

section Calls

variable {t : UpdateTarget} {calls : List AdapterCall} {pt : CyclePoint}

theorem callsInOrder_of_tail {n : ℕ} {rest : List AdapterCall}
    (h : rest <+: [.startWeightUpdate t, .completeWeightUpdate t, .invalidateCaches t,
      .validatePreResume t, .resume t]) :
    CallsInOrder t (.beginDrain :: (List.replicate (n + 1) .awaitDrain ++ rest)) :=
  ⟨n, List.cons_prefix_cons.mpr ⟨rfl, (List.prefix_append_right_inj _).mpr h⟩⟩

/-- The calls so far and the next one are in order. -/
theorem CallsAt.next (h : pt.CallsAt t calls) {m : AdapterCall}
    (hcall : pt.call? t = some (.adapter m)) : CallsInOrder t (calls ++ [m]) := by
  cases pt <;> cases hcall
  case begun.refl =>
    obtain rfl : calls = [] := h
    exact ⟨0, List.prefix_append [_] _⟩
  case draining.refl =>
    obtain ⟨n, rfl⟩ := h
    rw [List.cons_append, ← List.replicate_succ', ← List.append_nil (List.replicate _ _)]
    exact callsInOrder_of_tail List.nil_prefix
  all_goals
    obtain ⟨n, rfl⟩ := h
    rw [List.cons_append, List.append_assoc]
    exact callsInOrder_of_tail (by simp [tail])

/-- The calls at any point are in order. -/
theorem CallsAt.inOrder (h : pt.CallsAt t calls) : CallsInOrder t calls := by
  cases pt
  case start =>
    obtain rfl : calls = [] := h
    exact ⟨0, List.nil_prefix⟩
  case begun =>
    obtain rfl : calls = [] := h
    exact ⟨0, List.nil_prefix⟩
  case draining =>
    obtain ⟨n, rfl⟩ := h
    refine ⟨n, List.cons_prefix_cons.mpr ⟨rfl, ?_⟩⟩
    rw [List.replicate_succ', List.append_assoc]
    exact List.prefix_append _ _
  case tainting => exact h
  case raised => exact h
  all_goals
    obtain ⟨n, rfl⟩ := h
    exact callsInOrder_of_tail (by simp [tail])

end Calls

section Knowledge

variable {t : UpdateTarget} {tr tr' : List CycleEvent} {pt pt' : CyclePoint} {x : CycleEvent}

/-- A past event stays in the past. -/
theorem seen_mono {P : LifecycleController → LifecycleController → CycleEvent}
    (h : ∃ c c', P c c' ∈ tr) (hsub : tr ⊆ tr') : ∃ c c', P c c' ∈ tr' := by
  obtain ⟨c, c', hmem⟩ := h
  exact ⟨c, c', hsub hmem⟩

theorem drainedIn_mono (h : DrainedIn tr) (hsub : tr ⊆ tr') : DrainedIn tr' := by
  obtain ⟨e, hseen, ⟨c, c', hmem, hact⟩, he⟩ := h
  exact ⟨e, seen_mono hseen hsub, ⟨c, c', hsub hmem, hact⟩, he⟩

theorem updatedIn_mono (h : UpdatedIn t tr) (hsub : tr ⊆ tr') : UpdatedIn t tr' := by
  obtain ⟨e, hseen, he⟩ := h
  exact ⟨e, seen_mono hseen hsub, he⟩

theorem invalidatedIn_mono (h : InvalidatedIn t tr) (hsub : tr ⊆ tr') : InvalidatedIn t tr' := by
  obtain ⟨e, hseen, he⟩ := h
  exact ⟨e, seen_mono hseen hsub, he⟩

theorem validatedIn_mono (h : ValidatedIn t tr) (hsub : tr ⊆ tr') : ValidatedIn t tr' := by
  obtain ⟨e, hseen, he⟩ := h
  exact ⟨e, seen_mono hseen hsub, he⟩

theorem KnowsAt.mono (h : pt.KnowsAt t tr) (hsub : tr ⊆ tr') : pt.KnowsAt t tr' := by
  cases pt
  case polled e => exact seen_mono h hsub
  case quiesced => exact drainedIn_mono h hsub
  case updating => exact drainedIn_mono h hsub
  case opened => exact drainedIn_mono h hsub
  case staged e => exact ⟨drainedIn_mono h.1 hsub, seen_mono h.2 hsub⟩
  case invalidating => exact ⟨drainedIn_mono h.1 hsub, updatedIn_mono h.2 hsub⟩
  case reset e =>
    exact ⟨drainedIn_mono h.1 hsub, updatedIn_mono h.2.1 hsub, seen_mono h.2.2 hsub⟩
  case validating =>
    exact ⟨drainedIn_mono h.1 hsub, updatedIn_mono h.2.1 hsub, invalidatedIn_mono h.2.2 hsub⟩
  case validated e =>
    exact ⟨drainedIn_mono h.1 hsub, updatedIn_mono h.2.1 hsub, invalidatedIn_mono h.2.2.1 hsub,
      seen_mono h.2.2.2 hsub⟩
  case resuming =>
    exact ⟨drainedIn_mono h.1 hsub, updatedIn_mono h.2.1 hsub, invalidatedIn_mono h.2.2.1 hsub,
      validatedIn_mono h.2.2.2 hsub⟩
  all_goals trivial

/-- What a trace of a cycle satisfies at a point. -/
structure Ordered (t : UpdateTarget) (pt : CyclePoint) (tr : List CycleEvent) : Prop where
  calls : pt.CallsAt t (adapterCalls tr)
  knows : pt.KnowsAt t tr
  justified : Before (Justifies t) tr

/-- An event that calls no adapter method. -/
theorem Ordered.of_quiet (h : pt.Ordered t tr) (hx : adapterCalls [x] = [])
    (hcalls : pt.CallsAt t (adapterCalls tr) → pt'.CallsAt t (adapterCalls tr))
    (hknows : pt'.KnowsAt t (tr ++ [x])) : pt'.Ordered t (tr ++ [x]) where
  calls := by
    rw [adapterCalls_append, hx, List.append_nil]
    exact hcalls h.calls
  knows := hknows
  justified := by
    refine before_append.mpr ⟨h.justified, ?_⟩
    rintro t' reply c c' rfl
    cases hx

/-- An event that calls the adapter method of its point. -/
theorem Ordered.of_call (h : pt.Ordered t tr) {m : AdapterCall} {reply : Except PyExc m.Ret}
    {c c' : LifecycleController} (hcall : pt.call? t = some (.adapter m))
    (hcalls : pt'.CallsAt t (adapterCalls tr ++ [m]))
    (hknows : pt'.KnowsAt t (tr ++ [adapterEvent m reply c c'])) :
    pt'.Ordered t (tr ++ [adapterEvent m reply c c']) where
  calls := by
    rw [adapterCalls_append]
    exact hcalls
  knows := hknows
  justified := by
    refine before_append.mpr ⟨h.justified, ?_⟩
    rintro t' reply' c₁ c₁' heq
    cases heq
    cases pt <;> cases hcall
    exact ⟨rfl, h.knows⟩

end Knowledge

section Steps

variable {t : UpdateTarget} {t₀ : Option UpdateTarget} {pt pt' : CyclePoint}
  {tr : List CycleEvent} {c c' : LifecycleController}

theorem Ordered.env (h : pt.Ordered t tr) : pt.Ordered t (tr ++ [.env c c']) :=
  h.of_quiet rfl id (h.knows.mono (List.subset_append_left _ _))

/-- **Every call keeps the order.** -/
theorem Ordered.step (h : pt.Ordered t tr) (hat : pt.At t t₀ c) {call : RunnerCall}
    {reply : call.Reply}
    (hstep : CycleStep t pt call reply pt') (ha : anyAdapter.answers call c reply c') :
    pt'.Ordered t (tr ++ [.call call reply c c']) := by
  have hsub : tr ⊆ tr ++ [.call call reply c c'] := List.subset_append_left _ _
  have hlast : ∀ {x : CycleEvent}, x ∈ tr ++ [x] :=
    List.mem_append_right _ (List.mem_singleton_self _)
  cases hstep with
  | view hv =>
    refine h.of_quiet ?_ id (h.knows.mono hsub)
    cases call <;> first | rfl | exact hv.elim
  | beginDrain => exact h.of_quiet rfl id trivial
  | pause =>
    refine h.of_call rfl ?_ trivial
    rw [show adapterCalls tr = [] from h.calls]
    exact ⟨0, rfl⟩
  | poll =>
    refine h.of_call rfl ?_ ⟨_, _, hlast⟩
    obtain ⟨n, hn⟩ := h.calls
    refine ⟨n, ?_⟩
    rw [hn, List.replicate_succ']
    simp [tail]
  | notYet => exact h.of_quiet rfl (fun ⟨n, hn⟩ => ⟨n + 1, by simpa [tail] using hn⟩) trivial
  | drained =>
    cases (ctrl_answers.mp ha).accepted hat.inv with
    | confirmDrained hs hact he =>
      exact h.of_quiet rfl id ⟨_, seen_mono h.knows hsub, ⟨_, _, hlast, hact⟩,
        (DrainEvidence.failureReason_eq_none.mp he).1⟩
  | beginUpdate => exact h.of_quiet rfl id (drainedIn_mono h.knows hsub)
  | startUpdate =>
    refine h.of_call rfl ?_ (drainedIn_mono h.knows hsub)
    obtain ⟨n, hn⟩ := h.calls
    exact ⟨n, by rw [hn]; simp [tail]⟩
  | transfer =>
    refine h.of_call rfl ?_ ⟨drainedIn_mono h.knows hsub, _, _, hlast⟩
    obtain ⟨n, hn⟩ := h.calls
    exact ⟨n, by rw [hn]; simp [tail]⟩
  | updated =>
    cases (ctrl_answers.mp ha).accepted hat.inv with
    | confirmUpdated hs hpend he =>
      have ht := hat.pending rfl (.inl rfl) (by simp [hs])
      obtain ⟨hdrained, hseen⟩ := h.knows
      exact h.of_quiet rfl id ⟨drainedIn_mono hdrained hsub, _, seen_mono hseen hsub,
        Option.some.inj (hpend.symm.trans ht), he⟩
  | invalidate =>
    obtain ⟨hdrained, hupdated⟩ := h.knows
    refine h.of_call rfl ?_
      ⟨drainedIn_mono hdrained hsub, updatedIn_mono hupdated hsub, _, _, hlast⟩
    obtain ⟨n, hn⟩ := h.calls
    exact ⟨n, by rw [hn]; simp [tail]⟩
  | invalidated =>
    cases (ctrl_answers.mp ha).accepted hat.inv with
    | confirmInvalidated hs hpend he =>
      obtain ⟨hdrained, hupdated, hseen⟩ := h.knows
      exact h.of_quiet rfl id ⟨drainedIn_mono hdrained hsub, updatedIn_mono hupdated hsub, _,
        seen_mono hseen hsub, InvalidateEvidence.failureReason_eq_none.mp he⟩
  | validate =>
    obtain ⟨hdrained, hupdated, hreset⟩ := h.knows
    refine h.of_call rfl ?_ ⟨drainedIn_mono hdrained hsub, updatedIn_mono hupdated hsub,
      invalidatedIn_mono hreset hsub, _, _, hlast⟩
    obtain ⟨n, hn⟩ := h.calls
    exact ⟨n, by rw [hn]; simp [tail]⟩
  | validated =>
    cases (ctrl_answers.mp ha).accepted hat.inv with
    | confirmValidated hs hpend he =>
      have ht := hat.pending rfl (.inr (.inr (.inl rfl))) (by simp [hs])
      obtain rfl := Option.some.inj (hpend.symm.trans ht)
      obtain ⟨hdrained, hupdated, hreset, hseen⟩ := h.knows
      exact h.of_quiet rfl id ⟨drainedIn_mono hdrained hsub, updatedIn_mono hupdated hsub,
        invalidatedIn_mono hreset hsub, _, seen_mono hseen hsub, rfl,
        ValidateEvidence.failureReason_eq_none.mp he⟩
  | resume =>
    refine h.of_call rfl ?_ trivial
    obtain ⟨n, hn⟩ := h.calls
    exact ⟨n, by rw [hn]; simp [tail]⟩
  | resumed => exact h.of_quiet rfl id trivial
  | commit => exact h.of_quiet rfl id trivial
  | uncommitted => exact h.of_quiet rfl CallsAt.inOrder trivial
  | refused => exact h.of_quiet rfl CallsAt.inOrder trivial
  | failed hcall => exact h.of_call hcall (h.calls.next hcall) trivial
  | ambiguous hcall | unprinted hcall => exact h.of_call hcall (h.calls.next hcall) trivial
  | tainted => exact h.of_quiet rfl CallsAt.inOrder trivial

/-- The order along a trace, begun with no adapter call made. -/
theorem Ordered.of_trace {r : LifecycleRunner} {B : List CycleEvent → LifecycleController → Prop}
    (hB : ∀ tr c, B tr c → (Inv c ∧ c.currentTarget = t₀) ∧ adapterCalls tr = [])
    (h : CycleTrace r anyAdapter t B pt tr c) : pt.Ordered t tr := by
  induction h with
  | @start tr c h =>
    have hcalls := (hB tr c h).2
    refine ⟨hcalls, trivial, ?_⟩
    rintro pre x post rfl t' reply c c' rfl
    simp [adapterCalls] at hcalls
  | env _ _ ih => exact ih.env
  | call h hstep ha ih => exact ih.step (.of_trace (fun tr c hb => (hB tr c hb).1) h) hstep ha
  | exhausted _ ih => exact ⟨ih.calls.inOrder, trivial, ih.justified⟩

end Steps

end CyclePoint

/-! ## Sessions of one runner -/

/-- A request to a runner. -/
inductive CycleRequest
  | runCycle (target : UpdateTarget)
  | installNext (identity : Option WeightIdentity)

/-- The program that serves a request. -/
def LifecycleRunner.serve (r : LifecycleRunner) : CycleRequest → RunnerProg CycleResult
  | .runCycle t => r.runCycle t
  | .installNext i => r.installNext i

/-- The target of the cycle a request runs: the one asked for, or the one `next_target` gave. -/
def CycleRequest.Installs : CycleRequest → List CycleEvent → UpdateTarget → Prop
  | .runCycle t, _, t' => t' = t
  | .installNext i, tr, t' => ∃ c c', ctrlEvent (.nextTarget i) (Except.ok t') c c' ∈ tr

/-- The adapter calls of a request are those of a cycle in order, each resume with what has to
stand before it. -/
def Disciplined (q : CycleRequest) (tr : List CycleEvent) : Prop :=
  (∀ t, q.Installs tr t → CallsInOrder t (adapterCalls tr) ∧ Before (Justifies t) tr) ∧
    ((∀ t, ¬ q.Installs tr t) → adapterCalls tr = [])

section Requests

variable {r : LifecycleRunner} {i : Option WeightIdentity} {t : UpdateTarget}
  {t₀ : Option UpdateTarget} {pt : CyclePoint} {tr : List CycleEvent} {c c' : LifecycleController}

theorem disciplined_of_runCycle (hi : Inv c) {p : RunnerProg CycleResult}
    (h : Run anyAdapter (r.runCycle t) c tr p c') : Disciplined (.runCycle t) tr := by
  obtain ⟨pt, htrace, -⟩ := cycleFrom_of_run h
  have hstart : ∀ (tr : List CycleEvent) (s : LifecycleController), tr = [] ∧ s = c →
      (Inv s ∧ s.currentTarget = c.currentTarget) ∧ adapterCalls tr = [] := by
    rintro tr s ⟨rfl, rfl⟩
    exact ⟨⟨hi, rfl⟩, rfl⟩
  have hord : pt.Ordered t tr := .of_trace hstart htrace
  refine ⟨?_, fun hno => absurd rfl (hno t)⟩
  rintro t' rfl
  exact ⟨hord.calls.inOrder, hord.justified⟩

/-- What the start of a cycle of `install_next` is like: its target is known. -/
def Targeted (i : Option WeightIdentity) (t₀ : Option UpdateTarget) (t : UpdateTarget)
    (tr : List CycleEvent) (c : LifecycleController) : Prop :=
  ((Inv c ∧ c.currentTarget = t₀) ∧ adapterCalls tr = []) ∧
    (CycleRequest.installNext i).Installs tr t ∧
      ∀ t', (CycleRequest.installNext i).Installs tr t' → t' = t

/-- `next_target` has not answered, and nothing has been called on the adapter. -/
def untargeted (i : Option WeightIdentity) : Assertion anyAdapter where
  holds tr _ := adapterCalls tr = [] ∧ ∀ t, ¬ (CycleRequest.installNext i).Installs tr t
  stable := by
    rintro tr s s' ⟨hcalls, hno⟩ -
    refine ⟨by rw [adapterCalls_append, hcalls]; rfl, fun t ⟨c, c', hmem⟩ => hno t ⟨c, c', ?_⟩⟩
    simpa using hmem

/-- The same, at the controller the request found or one like it. -/
def unstarted (i : Option WeightIdentity) (t₀ : Option UpdateTarget) : Assertion anyAdapter where
  holds tr c := (Inv c ∧ c.currentTarget = t₀) ∧ untargeted i tr c
  stable := by
    rintro tr s s' ⟨⟨hi, hcur⟩, hun⟩ he
    refine ⟨⟨anyAdapter_env_inv hi he, ?_⟩, (untargeted i).stable hun he⟩
    obtain ⟨op, hop, rfl⟩ := he
    exact (owners_after hi hop).1.trans hcur

/-- The points of `install_next`. -/
def installing (r : LifecycleRunner) (i : Option WeightIdentity) (t₀ : Option UpdateTarget) :
    Assertion anyAdapter where
  holds tr c := untargeted i tr c ∨
    ∃ t, someCycleTrace r anyAdapter t (Targeted i t₀ t) tr c
  stable h he := h.imp ((untargeted i).stable · he) fun ⟨t, ht⟩ =>
    ⟨t, (someCycleTrace r anyAdapter t _).stable ht he⟩

/-- The cycle itself never asks for a target. -/
theorem targeted_of_trace (h : CycleTrace r anyAdapter t (Targeted i t₀ t) pt tr c) :
    (CycleRequest.installNext i).Installs tr t ∧
      ∀ t', (CycleRequest.installNext i).Installs tr t' → t' = t := by
  induction h with
  | start h => exact h.2
  | env _ _ ih =>
    obtain ⟨⟨c, c', hmem⟩, huniq⟩ := ih
    refine ⟨⟨c, c', List.mem_append_left _ hmem⟩, ?_⟩
    rintro t' ⟨c, c', hmem⟩
    exact huniq t' ⟨c, c', by simpa using hmem⟩
  | exhausted _ ih => exact ih
  | call h hstep ha ih =>
    obtain ⟨⟨c, c', hmem⟩, huniq⟩ := ih
    refine ⟨⟨c, c', List.mem_append_left _ hmem⟩, ?_⟩
    rintro t' ⟨c, c', hmem⟩
    rcases List.mem_append.mp hmem with hmem | hmem
    · exact huniq t' ⟨c, c', hmem⟩
    · cases List.mem_singleton.mp hmem
      cases hstep with
      | view hv => exact hv.elim

theorem triple_installNext : Triple (installing r i t₀) (unstarted i t₀) (r.installNext i)
    (fun _ => installing r i t₀) (fun _ => installing r i t₀) := by
  -- where the reply of `next_target` leads
  let mid : UpdateTarget → Assertion anyAdapter := fun t =>
    cycleAssertion r anyAdapter t (Targeted i t₀ t) .start
  have hcycle : ∀ t, Triple (installing r i t₀) (mid t) (r.runCycle t)
      (fun _ => installing r i t₀) (fun _ => installing r i t₀) := by
    intro t tr c h
    have hinv : someCycleTrace r anyAdapter t (Targeted i t₀ t) ≤ installing r i t₀ :=
      fun tr c h => .inr ⟨t, h⟩
    refine ((triple_runCycle tr c h).mono_inv hinv).mono ?_ ?_
    · exact fun res tr c h => .inr ⟨t, _, h⟩
    · exact fun e tr c h => .inr ⟨t, _, h⟩
  unfold LifecycleRunner.installNext LifecycleRunner.ctrl LifecycleRunner.tryCtrl
  refine Triple.bind ?_ hcycle
  let answered : Except PyExc UpdateTarget → Assertion anyAdapter
    | .ok t => mid t
    | .error _ => untargeted i
  refine Triple.bind (Q := answered) (Triple.op (fun tr c h => .inl h.2) ?_) ?_
  · rintro tr c reply c' ⟨hc, hcalls, hno⟩ ha
    have hcalls' : adapterCalls (tr ++ [.call (.ctrl (.nextTarget i)) reply c c']) = [] := by
      rw [adapterCalls_append, hcalls]
      rfl
    cases reply with
    | ok t =>
      have hstart : mid t (tr ++ [.call (.ctrl (.nextTarget i)) (Except.ok t) c c']) c' := by
        refine .start ⟨⟨?_, hcalls'⟩, ⟨c, c', ?_⟩, ?_⟩
        · cases (ctrl_answers.mp ha).accepted hc.1 with
          | nextTarget => exact hc
        · exact List.mem_append_right _ (List.mem_singleton_self _)
        · rintro t' ⟨c₁, c₁', hmem⟩
          rcases List.mem_append.mp hmem with hmem | hmem
          · exact absurd ⟨c₁, c₁', hmem⟩ (hno t')
          · cases List.mem_singleton.mp hmem
            rfl
      exact ⟨.inr ⟨t, _, hstart⟩, hstart⟩
    | error e =>
      have hun : untargeted i (tr ++ [.call (.ctrl (.nextTarget i)) (Except.error e) c c']) c' := by
        refine ⟨hcalls', ?_⟩
        rintro t ⟨c₁, c₁', hmem⟩
        rcases List.mem_append.mp hmem with hmem | hmem
        · exact hno t ⟨c₁, c₁', hmem⟩
        · cases List.mem_singleton.mp hmem
      exact ⟨.inl hun, hun⟩
  · rintro (e | t)
    · exact Triple.throw (fun tr c h => .inl h) fun tr c h => .inl h
    · exact Triple.pure (fun tr c h => .inr ⟨t, _, h⟩) (Assertion.le_refl _)

theorem disciplined_of_installNext (hi : Inv c) {p : RunnerProg CycleResult}
    (h : Run anyAdapter (r.installNext i) c tr p c') : Disciplined (.installNext i) tr := by
  have hstart : unstarted i c.currentTarget [] c := ⟨⟨hi, rfl⟩, rfl, by rintro t ⟨_, _, h⟩; cases h⟩
  rcases triple_installNext.always hstart h with hun | ⟨t, pt, htrace⟩
  · exact ⟨fun t ht => absurd ht (hun.2 t), fun _ => hun.1⟩
  · have hord : pt.Ordered t tr := .of_trace (fun tr c hb => hb.1) htrace
    obtain ⟨hinst, huniq⟩ := targeted_of_trace htrace
    refine ⟨fun t' ht' => ?_, fun hno => absurd hinst (hno t)⟩
    obtain rfl := huniq t' ht'
    exact ⟨hord.calls.inOrder, hord.justified⟩

theorem disciplined_of_serve (hi : Inv c) {q : CycleRequest} {p : RunnerProg CycleResult}
    (h : Run anyAdapter (r.serve q) c tr p c') : Disciplined q tr := by
  cases q with
  | runCycle t => exact disciplined_of_runCycle hi h
  | installNext i => exact disciplined_of_installNext hi h

end Requests

/-- **Nothing is resumed before it is validated.** In every session of `run_cycle` and
`install_next` requests to one runner, with any adapter and any other callers, the adapter calls of
each cycle so far are the first ones of `begin_drain`, `await_drain` once or more, then
`start_weight_update`, `complete_weight_update`, `invalidate_caches`, `validate_pre_resume` and
`resume` of its target; and before a resume stand, in the same cycle, an accepted drain with no
rollout active, a complete update, a full invalidation and a passed validation. -/
theorem resume_only_validated (r : LifecycleRunner) (c₀ : LifecycleController)
    (hc₀ : Reachable c₀) {past : List (CycleRequest × List CycleEvent)} {c : LifecycleController}
    (h : Session anyAdapter r.serve c₀ past c) :
    (∀ x ∈ past, Disciplined x.1 x.2) ∧
      ∀ q tr p c', Run anyAdapter (r.serve q) c tr p c' → Disciplined q tr := by
  have hrun : ∀ q c tr p c', c.Inv → Run anyAdapter (r.serve q) c tr p c' →
      c'.Inv ∧ Disciplined q tr := by
    intro q c tr p c' hi h
    exact ⟨h.invariant (fun _ _ _ _ => anyAdapter_inv) (fun _ _ => anyAdapter_env_inv) hi,
      disciplined_of_serve hi h⟩
  have henv : ∀ c c', c.Inv → anyAdapter.env c c' → c'.Inv := fun _ _ => anyAdapter_env_inv
  refine ⟨h.forall_past hrun henv hc₀.inv, fun q tr p c' hq => ?_⟩
  exact (hrun q c tr p c' (h.invariant (fun q c tr p c' hi h => (hrun q c tr p c' hi h).1) henv
    hc₀.inv) hq).2

/-- A session of one uneventful cycle, all seven methods called. -/
theorem resume_only_validated_uneventful :
    (adapterCalls (goodPlay ⟨⟨1⟩, identityB⟩ none bootstrapped).1).length = 7 ∧
      Disciplined (.runCycle ⟨⟨1⟩, identityB⟩)
        (goodPlay ⟨⟨1⟩, identityB⟩ none bootstrapped).1 := by
  have hserved : ∀ {tr p c'}, Run anyAdapter (LifecycleRunner.serve {} (.runCycle ⟨⟨1⟩, identityB⟩))
      bootstrapped tr p c' → p.Ended → Disciplined (.runCycle ⟨⟨1⟩, identityB⟩) tr := by
    intro tr p c' hrun hp
    exact (resume_only_validated {} _ reachable_bootstrapped (Session.nil.request hrun hp)).1 _
      (List.mem_singleton_self _)
  exact ⟨by decide +kernel, hserved (run_goodPlay _ _ _) (Prog.ended_ofExcept _)⟩

end RolloutCore
