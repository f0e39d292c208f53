import RolloutCore.LifecycleGuarantees
import Mathlib.Data.List.Chain
import Mathlib.Data.Finset.Basic
import Mathlib.Data.Finset.Lattice.Lemmas

/-!
# The journal

`Step` sorts what a call can do by the record it leaves. From it, over every run: the journal is a
chain of legal hops from UNINITIALIZED to the current state, and the admissions and releases in it
add up to the active requests.
-/

namespace RolloutCore

open CallOutcome LifecycleController

/-! ## What a call hands out and takes back -/

/-- What a call returned; `none` when it raised. -/
def returned {α : Type} : EStateM.Result PyExc LifecycleController α → Option α
  | .ok a _ => some a
  | .error _ _ => none

/-- The binding a successful admission returned. -/
def Op.admittedBinding (c : LifecycleController) : Op → Option RolloutBinding
  | .admitRollout id => returned ((LifecycleController.admitRollout id).run c)
  | _ => none

/-- The binding a successful release returned. -/
def Op.releasedBinding (c : LifecycleController) : Op → Option RolloutBinding
  | .finishRollout id => returned ((LifecycleController.finishRollout id).run c)
  | .abortRollout id => returned ((LifecycleController.abortRollout id).run c)
  | _ => none

/-- A target that may replace `t`: the same one, or one of a later generation. -/
def UpdateTarget.Precedes (t t' : UpdateTarget) : Prop := t = t' ∨ t.version < t'.version

/-- The call at `c` left `c'`, with the binding it admitted and the one it released. -/
inductive Step (c : LifecycleController) :
    Option RolloutBinding → Option RolloutBinding → LifecycleController → Prop
  | idle : Step c none none c
  | hop {event : Event} {next : LifecycleState} {detail : String}
      {target current pending : Option UpdateTarget} (he : edge event = some (c.state, next))
      (hcur : ∀ t ∈ c.currentTarget, ∃ t' ∈ current, t.Precedes t') :
      Step c none none { c.advanced next event detail target with
        currentTarget := current
        pendingTarget := pending }
  | taint {reason : String} (hs : c.state ≠ .tainted) : Step c none none (c.taintedWith reason)
  | admission {id : String} {t : UpdateTarget} (hs : c.state = .ready)
      (ht : c.currentTarget = some t) (hid : id ∉ c.active.keys) :
      Step c (some (c.bindingOf id t)) none (c.admitted id t)
  | release {id : String} {b : RolloutBinding} {event : RecordEvent}
      (hs : c.state = .ready ∨ c.state = .draining) (hb : c.active.get? id = some b)
      (he : event = .finishRollout ∨ event = .abortRollout) :
      Step c none (some b) (c.released id b event)

section Steps

variable {c : LifecycleController}

/-- A hop that keeps the committed target. -/
theorem Step.hop_same {event : Event} {next : LifecycleState} {detail : String}
    {target pending : Option UpdateTarget} (he : edge event = some (c.state, next)) :
    Step c none none { c.advanced next event detail target with pendingTarget := pending } :=
  .hop he fun t ht => ⟨t, ht, .inl rfl⟩

theorem step_accepted (h : Inv c) {op : Op} {r : op.Ret} {c' : LifecycleController}
    (hr : op.call.run c = .ok r c') (ha : Accepted op c r c') :
    Step c (op.admittedBinding c) (op.releasedBinding c) c' := by
  cases ha with
  | initialise hs he hl =>
    refine .hop (by rw [hs]; rfl) fun t ht => ?_
    rw [(h.fresh hs).1] at ht
    cases ht
  | beginDrain hs ht => exact .hop_same (by rw [hs]; rfl)
  | confirmDrained hs hact he => exact .hop_same (by rw [hs]; rfl)
  | beginUpdate hs ht hlt => exact .hop_same (by rw [hs]; rfl)
  | confirmUpdated hs hp he => exact .hop_same (by rw [hs]; rfl)
  | confirmInvalidated hs hp he => exact .hop_same (by rw [hs]; rfl)
  | confirmValidated hs hp he => exact .hop_same (by rw [hs]; rfl)
  | confirmResumed hs hp he =>
    exact .hop (by rw [hs]; rfl) fun t ht => ⟨_, rfl, .inr (h.ahead _ hp t ht)⟩
  | taint hs => exact .taint hs
  | taintAgain hs => exact .idle
  | nextTarget ht => exact .idle
  | @admitRollout _ id t hs ht hid =>
    rw [show (Op.admitRollout id).admittedBinding c = some (c.bindingOf id t) from
      congrArg returned hr]
    exact .admission hs ht hid
  | @finishRollout _ id b hs hb =>
    rw [show (Op.finishRollout id).releasedBinding c = some b from congrArg returned hr]
    exact .release hs hb (.inl rfl)
  | @abortRollout _ id b hs hb =>
    rw [show (Op.abortRollout id).releasedBinding c = some b from congrArg returned hr]
    exact .release hs hb (.inr rfl)

theorem no_bindings_of_error {op : Op} {e : PyExc} {c' : LifecycleController}
    (hr : op.call.run c = .error e c') :
    op.admittedBinding c = none ∧ op.releasedBinding c = none := by
  cases op with
  | admitRollout id => exact ⟨congrArg returned hr, rfl⟩
  | finishRollout id => exact ⟨rfl, congrArg returned hr⟩
  | abortRollout id => exact ⟨rfl, congrArg returned hr⟩
  | _ => exact ⟨rfl, rfl⟩

/-- **Every call is one of the five steps.** -/
theorem Op.step (h : Inv c) (op : Op) :
    Step c (op.admittedBinding c) (op.releasedBinding c) (op.after c) := by
  obtain ⟨c', hc', he⟩ := op.effect h
  rw [hc']
  cases he with
  | accepted hr ha => exact step_accepted h hr ha
  | rejected hr _ hc =>
    rw [(no_bindings_of_error hr).1, (no_bindings_of_error hr).2, hc]
    exact .idle
  | tainted hr _ hs hc =>
    rw [(no_bindings_of_error hr).1, (no_bindings_of_error hr).2, hc]
    exact .taint hs

end Steps

/-! ## The journal as an event log -/

/-- A record that changes the state names its edge of the table, or it is a taint. -/
def TransitionRecord.Legal (r : TransitionRecord) : Prop :=
  (∃ e, r.event = .event e ∧ LEGAL_TRANSITIONS r.fromState e = some r.toState) ∨
    r.event = .event .taint ∧ r.toState = .tainted

/-- The active requests after a record; `none` when it adds a present one or removes an absent
one. -/
def applyRecord (ids : Finset String) (r : TransitionRecord) : Option (Finset String) :=
  match r.event with
  | .admitRollout => if r.detail ∈ ids then none else some (insert r.detail ids)
  | .finishRollout | .abortRollout => if r.detail ∈ ids then some (ids.erase r.detail) else none
  | .event .taint => some ∅
  | .event _ => some ids

/-- The active requests the records add up to. -/
def foldJournal (journal : List TransitionRecord) : Option (Finset String) :=
  journal.foldlM applyRecord ∅

theorem foldJournal_append (journal : List TransitionRecord) (r : TransitionRecord) :
    foldJournal (journal ++ [r]) = (foldJournal journal).bind fun ids => applyRecord ids r := by
  unfold foldJournal
  rw [List.foldlM_append]
  simp

/-- What the journal says about the state and the active requests. -/
structure Faithful (c : LifecycleController) : Prop where
  leaves : ∀ r ∈ c.journal.head?, r.fromState = .uninitialized
  chained : c.journal.IsChain fun r r' => r.toState = r'.fromState
  arrives : c.state = (c.journal.getLast?.map (·.toState)).getD .uninitialized
  legal : ∀ r ∈ c.journal, r.fromState ≠ r.toState → r.Legal
  active : foldJournal c.journal = some c.active.keys.toFinset

theorem faithful_init : Faithful .init where
  leaves := by simp [init]
  chained := .nil
  arrives := rfl
  legal := by simp [init]
  active := rfl

section Journal

variable {c c' : LifecycleController}

theorem Faithful.append (h : Faithful c) {r : TransitionRecord}
    (hj : c'.journal = c.journal ++ [r]) (hfrom : r.fromState = c.state)
    (hto : c'.state = r.toState) (hlegal : r.fromState ≠ r.toState → r.Legal)
    (hact : applyRecord c.active.keys.toFinset r = some c'.active.keys.toFinset) :
    Faithful c' where
  leaves r' hr' := by
    rw [hj, List.head?_append] at hr'
    cases hh : c.journal.head? with
    | some r₀ =>
      rw [hh] at hr'
      exact h.leaves r' (hh.trans hr')
    | none =>
      -- the first record leaves the state of the empty journal
      rw [hh] at hr'
      obtain rfl : r = r' := Option.some.inj hr'
      rw [hfrom, h.arrives, List.head?_eq_none_iff.mp hh]
      rfl
  chained := by
    rw [hj, List.isChain_append]
    refine ⟨h.chained, .singleton _, fun last hlast r' hr' => ?_⟩
    obtain rfl : r = r' := Option.some.inj hr'
    rw [hfrom, h.arrives, Option.mem_def.mp hlast]
    rfl
  arrives := by rw [hj, List.getLast?_concat, hto]; rfl
  legal r' hr' hne := by
    rw [hj, List.mem_append, List.mem_singleton] at hr'
    rcases hr' with hr' | rfl
    · exact h.legal r' hr' hne
    · exact hlegal hne
  active := by
    rw [hj, foldJournal_append, h.active]
    exact hact

theorem Faithful.step (h : Faithful c) {a r : Option RolloutBinding} (hs : Step c a r c') :
    Faithful c' := by
  cases hs with
  | idle => exact h
  | @hop event next _ _ _ _ he _ =>
    refine h.append rfl rfl rfl (fun _ => .inl ⟨event, rfl, legal_iff.mpr he⟩) ?_
    cases event <;> first | rfl | cases he
  | taint => exact h.append rfl rfl rfl (fun _ => .inr ⟨rfl, rfl⟩) rfl
  | @admission id t hs ht hid =>
    refine h.append rfl rfl rfl (fun hne => absurd rfl hne) ?_
    rw [admitted_active, OrderedDict.keys_insert hid, List.toFinset_append]
    unfold applyRecord
    simp [hid]
  | @release id b event hs hb he =>
    have hid : id ∈ c.active.keys := OrderedDict.mem_keys.mpr ⟨b, OrderedDict.get?_eq_some.mp hb⟩
    refine h.append rfl rfl rfl (fun hne => absurd rfl hne) ?_
    rw [released_active, OrderedDict.keys_erase, List.toFinset_filter]
    unfold applyRecord
    rcases he with rfl | rfl <;> simp [hid, Finset.filter_ne']

end Journal

theorem faithful_runOps (ops : List Op) : Faithful (runOps ops) :=
  (Runs.run_invariant (I := fun c => Inv c ∧ Faithful c)
    (fun _ op h => ⟨inv_after h.1 op, h.2.step (op.step h.1)⟩) ops ⟨inv_init, faithful_init⟩).2

/-- **The journal is a faithful event log.** In every reachable controller the records chain from
UNINITIALIZED to the current state, each change of state is an edge of the table under its event
or a taint, and the admissions, releases and taints in it add up to the active requests without
adding a present one or removing an absent one. -/
theorem journal_faithful (ops : List Op) :
    (∀ r ∈ (runOps ops).journal.head?, r.fromState = .uninitialized) ∧
    (runOps ops).journal.IsChain (fun r r' => r.toState = r'.fromState) ∧
    (runOps ops).state = ((runOps ops).journal.getLast?.map (·.toState)).getD .uninitialized ∧
    (∀ r ∈ (runOps ops).journal, r.fromState ≠ r.toState →
      (∃ e, r.event = .event e ∧ LEGAL_TRANSITIONS r.fromState e = some r.toState) ∨
        r.event = .event .taint ∧ r.toState = .tainted) ∧
    foldJournal (runOps ops).journal =
      some ((runOps ops).activeRollouts.map (·.requestId)).toFinset := by
  have hf := faithful_runOps ops
  refine ⟨hf.leaves, hf.chained, hf.arrives, hf.legal, ?_⟩
  rw [(inv_runOps ops).activeIds]
  exact hf.active

/-! ## The record of a commit -/

/-- The latest record of a commit. -/
def latestCommit (journal : List TransitionRecord) : Option TransitionRecord :=
  (journal.filter fun r =>
    r.event = .event .initialise ∨ r.event = .event .confirmResumed).getLast?

/-- The latest commit record names the committed target. -/
def Attributable (c : LifecycleController) : Prop :=
  ∀ t ∈ c.currentTarget, ∃ r ∈ latestCommit c.journal,
    r.version = some t.version ∧ r.identity = some t.identity

/-- The call is a bootstrap that passes its checks. -/
def Bootstraps (m : Moment) : Prop :=
  ∃ e, m.2 = .initialise e ∧ m.1.state = .uninitialized ∧ e.failureReason = none ∧
    WeightVersion.parseLabel e.observedEngineLabel = .ok ⟨INITIAL_VERSION⟩

/-- The call is a resume that passes its checks. -/
def Publishes (m : Moment) : Prop :=
  ∃ e, m.2 = .confirmResumed e ∧ m.1.state = .resuming ∧ m.1.pendingTarget = some e.target ∧
    e.failureReason = none

theorem latestCommit_append_of_commit (journal : List TransitionRecord) {r : TransitionRecord}
    (h : r.event = .event .initialise ∨ r.event = .event .confirmResumed) :
    latestCommit (journal ++ [r]) = some r := by
  unfold latestCommit
  rw [List.filter_append, List.filter_singleton, decide_eq_true h]
  exact List.getLast?_concat

theorem latestCommit_append (journal : List TransitionRecord) {r : TransitionRecord}
    (h : ¬ (r.event = .event .initialise ∨ r.event = .event .confirmResumed)) :
    latestCommit (journal ++ [r]) = latestCommit journal := by
  unfold latestCommit
  rw [List.filter_append, List.filter_singleton, decide_eq_false h]
  simp

section Commits

variable {c : LifecycleController}

theorem initialise_after {e : BootstrapEvidence} (hs : c.state = .uninitialized)
    (he : e.failureReason = none)
    (hl : WeightVersion.parseLabel e.observedEngineLabel = .ok ⟨INITIAL_VERSION⟩) :
    (Op.initialise e).after c =
      { c.advanced .ready .initialise s!"backend={e.backend}" none with
        currentTarget := some ⟨⟨INITIAL_VERSION⟩, e.weightIdentity⟩ } :=
  @Op.after_of_ok c (.initialise e) () _ (initialise_apply hs he hl)

theorem confirmResumed_after {e : ResumeEvidence} (hs : c.state = .resuming)
    (hp : c.pendingTarget = some e.target) (he : e.failureReason = none) :
    (Op.confirmResumed e).after c =
      { c.advanced .ready .confirmResumed s!"published={e.target.describe}" (some e.target) with
        currentTarget := some e.target
        pendingTarget := none } :=
  @Op.after_of_ok c (.confirmResumed e) () _ (confirmResumed_apply hs hp he)

/-- A call that commits nothing keeps the committed target and the latest commit record. -/
theorem latestCommit_after (h : Inv c) {op : Op} (hb : ¬ Bootstraps (c, op))
    (hp : ¬ Publishes (c, op)) :
    (op.after c).currentTarget = c.currentTarget ∧
      latestCommit (op.after c).journal = latestCommit c.journal := by
  obtain ⟨c', hc', he⟩ := op.effect h
  rw [hc']
  cases he with
  | rejected _ _ hc => exact ⟨by rw [hc], by rw [hc]⟩
  | tainted _ _ _ hc =>
    rw [hc]
    exact ⟨rfl, latestCommit_append _ (by simp)⟩
  | accepted _ ha =>
    cases ha with
    | initialise hs he hl => exact absurd ⟨_, rfl, hs, he, hl⟩ hb
    | confirmResumed hs hpend he => exact absurd ⟨_, rfl, hs, hpend, he⟩ hp
    | taintAgain | nextTarget => exact ⟨rfl, rfl⟩
    | _ => exact ⟨rfl, latestCommit_append _ (by simp)⟩

/-- The three kinds of histories: nothing committed, only the bootstrap, or an update as well. -/
inductive Commits (tr : List Moment) (c : LifecycleController) : Prop
  | never (hb : ∀ m ∈ tr, ¬ Bootstraps m) (hp : ∀ m ∈ tr, ¬ Publishes m)
      (hc : c.currentTarget = none)
  | bootstrapped (hb : ∃ m ∈ tr, Bootstraps m) (hp : ∀ m ∈ tr, ¬ Publishes m)
      (hc : c.currentTarget ≠ none) (hr : ∃ r ∈ latestCommit c.journal, r.version = none)
  | published (hp : ∃ m ∈ tr, Publishes m) (hc : c.currentTarget ≠ none) (hr : Attributable c)

theorem Commits.next (h : Inv c) {tr : List Moment} (hc : Commits tr c) (op : Op) :
    Commits (tr ++ [(c, op)]) (op.after c) := by
  have hall {P : Moment → Prop} (ht : ∀ m ∈ tr, ¬ P m) (hm : ¬ P (c, op)) :
      ∀ m ∈ tr ++ [(c, op)], ¬ P m :=
    List.forall_mem_append.mpr ⟨ht, List.forall_mem_singleton.mpr hm⟩
  have hany {P : Moment → Prop} (ht : ∃ m ∈ tr, P m) : ∃ m ∈ tr ++ [(c, op)], P m :=
    ht.imp fun m hm => ⟨List.mem_append_left _ hm.1, hm.2⟩
  have hlast {P : Moment → Prop} (hm : P (c, op)) : ∃ m ∈ tr ++ [(c, op)], P m :=
    ⟨(c, op), by simp, hm⟩
  by_cases hb : Bootstraps (c, op)
  · obtain ⟨e, rfl, hs, he, hl⟩ := hb
    have hnp : ¬ Publishes (c, .initialise e) := fun ⟨_, hop, _⟩ => by cases hop
    cases hc with
    | bootstrapped _ _ hcur _ | published _ hcur _ => exact absurd (h.fresh hs).1 hcur
    | never _ hp _ =>
      refine .bootstrapped (hlast ⟨e, rfl, hs, he, hl⟩) (hall hp hnp) ?_ ?_
      · rw [initialise_after hs he hl]
        simp
      · -- the record is written before the target is committed
        rw [initialise_after hs he hl]
        refine ⟨_, latestCommit_append_of_commit _ (.inl rfl), ?_⟩
        have hpend : c.pendingTarget = none := h.not_inFlight_pending (by
          rw [show c.state = .uninitialized from hs]
          simp [InFlight])
        simp [effective, hpend, (h.fresh hs).1]
  · by_cases hp : Publishes (c, op)
    · obtain ⟨e, rfl, hs, hpend, he⟩ := hp
      refine .published (hlast ⟨e, rfl, hs, hpend, he⟩) ?_ ?_
      · rw [confirmResumed_after hs hpend he]
        simp
      · rw [confirmResumed_after hs hpend he]
        intro t ht
        obtain rfl : e.target = t := Option.some.inj ht
        exact ⟨_, latestCommit_append_of_commit _ (.inr rfl), rfl, rfl⟩
    · obtain ⟨hcur, hlatest⟩ := latestCommit_after h hb hp
      cases hc with
      | never hb' hp' hnone => exact .never (hall hb' hb) (hall hp' hp) (hcur.trans hnone)
      | bootstrapped hb' hp' hsome hr =>
        exact .bootstrapped (hany hb') (hall hp' hp) (by rwa [hcur]) (by rwa [hlatest])
      | published hp' hsome hr =>
        refine .published (hany hp') (by rwa [hcur]) fun t ht => ?_
        rw [hlatest]
        exact hr t (by rwa [hcur] at ht)

end Commits

theorem commits_runOps (ops : List Op) : Commits (traceOps ops .init) (runOps ops) :=
  (Runs.history_invariant (H := fun tr c => Inv c ∧ Commits tr c)
    ⟨inv_init, .never (by simp) (by simp) rfl⟩
    (fun _ _ op h => ⟨inv_after h.1 op, h.2.next h.1 op⟩) ops).2

/-- **What the latest commit record names.** After a run it names the committed target if and only
if no bootstrap has passed its checks yet or a later resume has: the record of the bootstrap
itself names no target. -/
theorem commit_attributable_iff (ops : List Op) :
    Attributable (runOps ops) ↔ (∀ m ∈ traceOps ops .init, ¬ Bootstraps m) ∨
      ∃ m ∈ traceOps ops .init, Publishes m := by
  cases commits_runOps ops with
  | never hb _ hc =>
    refine iff_of_true (fun t ht => ?_) (.inl hb)
    rw [hc] at ht
    cases ht
  | published hp _ hr => exact iff_of_true hr (.inr hp)
  | bootstrapped hb hp hc hr =>
    obtain ⟨m, hm, hboot⟩ := hb
    refine iff_of_false (fun h => ?_) ?_
    · obtain ⟨t, ht⟩ := Option.ne_none_iff_exists'.mp hc
      obtain ⟨r, hr, hnone⟩ := hr
      obtain ⟨r', hr', hv, -⟩ := h t ht
      rw [Option.mem_unique hr' hr, hnone] at hv
      cases hv
    · rintro (hnb | ⟨m', hm', hp'⟩)
      · exact hnb m hm hboot
      · exact hp m' hm' hp'

/-- The bootstrap of a fresh controller is not attributable from its record. -/
theorem bootstrap_not_attributable :
    ¬ ∀ ops t, (runOps ops).currentTarget = some t →
      ∃ r, latestCommit (runOps ops).journal = some r ∧ r.version = some t.version ∧
        r.identity = some t.identity := by
  intro h
  obtain ⟨r, hr, hv, -⟩ := h [.initialise (goodBootstrap identityA)] ⟨⟨0⟩, identityA⟩ (by decide)
  have hnone : ∀ r' ∈ latestCommit (runOps [.initialise (goodBootstrap identityA)]).journal,
      r'.version = none := by decide
  rw [hnone r hr] at hv
  cases hv

end RolloutCore
