import RolloutCore.LifecycleJournal

/-!
# The controller from its journal

A call does nothing, or what the record it appends says (`Op.writes`). The records of a journal,
played back on a new controller, therefore give the controller that wrote them. The record of a
bootstrap leaves out the identity that was committed; the next one has it, whichever it is.
-/

namespace RolloutCore

open CallOutcome LifecycleController

/-! ## Playing a journal back -/

/-- The target a record names. -/
def TransitionRecord.target (r : TransitionRecord) : Option UpdateTarget :=
  match r.version, r.identity with
  | some version, some identity => some ⟨version, identity⟩
  | _, _ => none

namespace LifecycleController

/-- The controller after what the record says; `identity` is what a bootstrap commits. -/
def replayed (identity : WeightIdentity) (c : LifecycleController) (r : TransitionRecord) :
    LifecycleController :=
  let c' := { c with state := r.toState, seq := r.seq, journal := c.journal ++ [r] }
  match r.event with
  | .event .initialise => { c' with currentTarget := some ⟨⟨INITIAL_VERSION⟩, identity⟩ }
  | .event .beginUpdate => { c' with pendingTarget := r.target }
  | .event .confirmResumed => { c' with currentTarget := r.target, pendingTarget := none }
  | .event .taint =>
    { c' with
      pendingTarget := none
      taintReason := some r.detail
      taintedInState := some r.fromState
      orphaned := c.orphaned ++ orphans r.fromState r.detail c.seq c.active.values
      active := .empty }
  | .event _ => c'
  | .admitRollout =>
    { c' with
      active := r.target.elim c.active fun t =>
        c.active.insert r.detail ⟨r.detail, t.version, t.identity, t.version.cacheSalt, r.seq⟩ }
  | .finishRollout | .abortRollout => { c' with active := c.active.erase r.detail }

/-- The controller a journal describes. -/
def rebuilt (identity : WeightIdentity) (journal : List TransitionRecord) : LifecycleController :=
  journal.foldl (replayed identity) .init

variable {c c' : LifecycleController} {i i' : WeightIdentity} {r : TransitionRecord}

theorem journal_replayed : (c.replayed i r).journal = c.journal ++ [r] := by
  unfold replayed
  split <;> rfl

theorem replayed_congr (h : r.event ≠ .event .initialise) : c.replayed i r = c.replayed i' r := by
  unfold replayed
  split <;> first | rfl | contradiction

/-- What a bootstrap leaves, but for the target it commits, does not either. -/
theorem replayed_initialise (h : r.event = .event .initialise) :
    c.replayed i' r = { c.replayed i r with currentTarget := (c.replayed i' r).currentTarget } := by
  unfold replayed
  rw [h]

theorem rebuilt_concat (journal : List TransitionRecord) :
    rebuilt i (journal ++ [r]) = (rebuilt i journal).replayed i r :=
  List.foldl_concat _ _ _ _

/-- At `c` the record `r` was appended, and what it says was done. -/
structure Writes (c : LifecycleController) (i : WeightIdentity) (r : TransitionRecord)
    (c' : LifecycleController) : Prop where
  replayed : c' = c.replayed i r
  bootstraps : r.event = .event .initialise → c.state = .uninitialized
  first : c.state = .uninitialized →
    r.event = .event .initialise ∧ r.toState = .ready ∨ r.toState = .tainted
  names : c.state = .ready → ∀ t ∈ c.currentTarget, r.identity = some t.identity

/-- The record of a transition. -/
def entry (c : LifecycleController) (toState : LifecycleState) (event : RecordEvent)
    (detail : String) (target : Option UpdateTarget) : TransitionRecord :=
  ⟨c.seq + 1, c.state, toState, event, target.map (·.version), target.map (·.identity), detail⟩

/-- In READY a record names the committed target, when it is not given another. -/
theorem Inv.effective_none (h : Inv c) (hs : c.state = .ready) :
    c.effective none = c.currentTarget := by
  unfold effective
  rw [h.not_inFlight_pending (by simp [InFlight, hs])]
  rfl

theorem writes_taintedWith (h : Inv c) (reason : String) :
    ∃ r, Writes c i r (c.taintedWith reason) := by
  refine ⟨{ c.entry .tainted (.event .taint) reason (c.effective none) with
    seq := c.seq + c.active.size + 1 }, rfl, by simp [entry], fun _ => .inr rfl, fun hs t ht => ?_⟩
  show (c.effective none).map (·.identity) = _
  rw [h.effective_none hs, ht]
  rfl

theorem writes_released (h : Inv c) {id : String} {b : RolloutBinding} {event : RecordEvent}
    (hs : c.state = .ready ∨ c.state = .draining) (hb : c.active.get? id = some b)
    (he : event = .finishRollout ∨ event = .abortRollout) :
    ∃ r, Writes c i r (c.released id b event) := by
  have hne : c.state ≠ .uninitialized := by rcases hs with hs | hs <;> simp [hs]
  refine ⟨c.entry c.state event id (some b.target), ?_, ?_, fun hu => absurd hu hne, ?_⟩
  · rcases he with rfl | rfl <;> rfl
  · rcases he with rfl | rfl <;> simp [entry]
  · -- a binding is of the committed target
    intro _ t ht
    have hbound := (h.bound id b (OrderedDict.get?_eq_some.mp hb)).2.1
    obtain rfl : b.target = t := Option.some.inj (hbound.symm.trans ht)
    rfl

theorem writes_accepted (h : Inv c) (i : WeightIdentity) {op : Op} {a : op.Ret}
    (ha : Accepted op c a c') : c' = c ∨ ∃ i r, Writes c i r c' := by
  cases ha with
  | @initialise _ e hs =>
    exact .inr ⟨e.weightIdentity, c.entry .ready (.event .initialise) _ (c.effective none), rfl,
      fun _ => hs, fun _ => .inl ⟨rfl, rfl⟩, by simp [hs]⟩
  | beginDrain hs ht =>
    refine .inr ⟨i, c.entry .draining (.event .beginDrain) "" (c.effective none), rfl,
      by simp [entry], by simp [hs], fun _ t ht' => ?_⟩
    show (c.effective none).map (·.identity) = _
    rw [h.effective_none hs, ht']
    rfl
  | confirmDrained hs =>
    exact .inr ⟨i, c.entry .quiesced (.event .confirmDrained) _ (c.effective none), rfl,
      by simp [entry], by simp [hs], by simp [hs]⟩
  | @beginUpdate _ t _ _ hs =>
    exact .inr ⟨i, c.entry .updating (.event .beginUpdate) _ (some t), rfl, by simp [entry],
      by simp [hs], by simp [hs]⟩
  | @confirmUpdated _ e _ _ hs =>
    exact .inr ⟨i, c.entry .invalidating (.event .confirmUpdated) _ (some e.target), rfl,
      by simp [entry], by simp [hs], by simp [hs]⟩
  | @confirmInvalidated _ _ p _ hs =>
    exact .inr ⟨i, c.entry .validating (.event .confirmInvalidated) _ (some p), rfl,
      by simp [entry], by simp [hs], by simp [hs]⟩
  | @confirmValidated _ e _ hs =>
    exact .inr ⟨i, c.entry .resuming (.event .confirmValidated) _ (some e.target), rfl,
      by simp [entry], by simp [hs], by simp [hs]⟩
  | @confirmResumed _ e hs =>
    exact .inr ⟨i, c.entry .ready (.event .confirmResumed) _ (some e.target), rfl,
      by simp [entry], by simp [hs], by simp [hs]⟩
  | taint => exact .inr ⟨i, writes_taintedWith h _⟩
  | taintAgain | nextTarget => exact .inl rfl
  | @admitRollout _ id t hs ht =>
    refine .inr ⟨i, c.entry c.state .admitRollout id (some t), rfl, by simp [entry],
      by simp [hs], fun _ t' ht' => ?_⟩
    obtain rfl : t = t' := Option.some.inj (ht.symm.trans ht')
    rfl
  | finishRollout hs hb => exact .inr ⟨i, writes_released h hs hb (.inl rfl)⟩
  | abortRollout hs hb => exact .inr ⟨i, writes_released h hs hb (.inr rfl)⟩

end LifecycleController

/-- **Every call does nothing, or what the record it appends says.** -/
theorem Op.writes {c : LifecycleController} (h : Inv c) (i : WeightIdentity) (op : Op) :
    op.after c = c ∨ ∃ i r, Writes c i r (op.after c) := by
  obtain ⟨c', hc', he⟩ := op.effect h
  rw [hc']
  cases he with
  | accepted _ ha => exact writes_accepted h i ha
  | rejected _ _ hc => exact .inl hc
  | tainted _ _ _ hc => exact .inr ⟨i, hc ▸ writes_taintedWith h _⟩

/-! ## Runs -/

/-- The journal describes the controller, when a bootstrap commits `i`; and its second record says
that it does. -/
structure Journalled (i : WeightIdentity) (c : LifecycleController) : Prop where
  rebuilt : rebuilt i c.journal = c
  first : c.journal.length = 1 →
    c.state = .ready ∧ c.currentTarget = some ⟨⟨INITIAL_VERSION⟩, i⟩ ∨ c.state = .tainted
  second : ∀ r ∈ c.journal[1]?, r.identity = some i

section Runs

variable {c c' : LifecycleController} {i : WeightIdentity}

theorem journalled_init : Journalled i .init where
  rebuilt := rfl
  first h := by cases h
  second := by simp [init]

/-- **Every call keeps the journal a description.** The first record fixes the identity, and the
second, made in READY, names it. -/
theorem Journalled.step (h : Journalled i c) (hi : Inv c) (op : Op) :
    ∃ i, Journalled i (op.after c) := by
  by_cases ht : c.state = .tainted
  · rw [after_of_tainted hi ht]
    exact ⟨i, h⟩
  rcases op.writes hi i with hc | ⟨i', r, hw⟩
  · rw [hc]
    exact ⟨i, h⟩
  generalize op.after c = c' at hw
  have hj : c'.journal = c.journal ++ [r] := by rw [hw.replayed, journal_replayed]
  by_cases hnil : c.journal = []
  · have hc : c = .init := by rw [← h.rebuilt, hnil]; rfl
    subst hc
    refine ⟨i', ⟨by rw [hj, hw.replayed]; rfl, fun _ => ?_, by simp [hj, hnil]⟩⟩
    have hs : (init.replayed i' r).state = r.toState := by
      unfold replayed
      split <;> rfl
    rw [hw.replayed, hs]
    refine (hw.first rfl).imp (fun ⟨hev, hto⟩ => ⟨hto, ?_⟩) id
    unfold replayed
    rw [hev]
  · have hu : c.state ≠ .uninitialized := fun hu => hnil (hi.fresh hu).2.1
    have hne : r.event ≠ .event .initialise := fun he => hu (hw.bootstraps he)
    have hc' : c' = c.replayed i r := hw.replayed.trans (replayed_congr hne)
    have hpos : 0 < c.journal.length := List.length_pos_iff.mpr hnil
    refine ⟨i, ⟨by rw [hj, rebuilt_concat, h.rebuilt, hc'], ?_, ?_⟩⟩
    · rw [hj, List.length_append, List.length_singleton]
      omega
    · intro r' hr'
      rw [hj] at hr'
      by_cases hlen : c.journal.length = 1
      · obtain ⟨hs, hcur⟩ := (h.first hlen).resolve_right ht
        rw [List.getElem?_append_right (by omega), hlen] at hr'
        obtain rfl : r = r' := Option.some.inj hr'
        exact hw.names hs _ hcur
      · rw [List.getElem?_append_left (by omega)] at hr'
        exact h.second r' hr'

theorem exists_journalled (h : Reachable c) : ∃ i, Journalled i c :=
  (Runs.Reachable.invariant (I := fun c => Inv c ∧ ∃ i, Journalled i c)
    (fun _ op ⟨hi, _, hj⟩ => ⟨inv_after hi op, hj.step hi op⟩)
    ⟨inv_init, identityA, journalled_init⟩ h).2

end Runs

/-- **The journal determines the controller.** From two records on the journal gives the controller
back, with the identity its second record names. Another controller with the same journal is the
same one, but for the identity just bootstrapped, which the only record does not have. -/
theorem journal_determines {c : LifecycleController} (h : Reachable c) :
    (∀ r ∈ c.journal[1]?, ∃ i, r.identity = some i ∧ rebuilt i c.journal = c) ∧
    ∀ c', Reachable c' → c'.journal = c.journal →
      c' = c ∨ ∃ r, c.journal = [r] ∧ r.event = .event .initialise ∧
        c' = { c with currentTarget := c'.currentTarget } := by
  obtain ⟨i, hj⟩ := exists_journalled h
  refine ⟨fun r hr => ⟨i, hj.second r hr, hj.rebuilt⟩, fun c' h' heq => ?_⟩
  obtain ⟨i', hj'⟩ := exists_journalled h'
  have hc := hj.rebuilt
  have hc' := heq ▸ hj'.rebuilt
  by_cases hlen : 2 ≤ c.journal.length
  · obtain ⟨r, hr⟩ : ∃ r, c.journal[1]? = some r := ⟨_, List.getElem?_eq_getElem hlen⟩
    have hii : some i = some i' := (hj.second r hr).symm.trans (hj'.second r (heq ▸ hr))
    left
    rw [← hc, ← hc', Option.some.inj hii]
  obtain hlist | ⟨r, hlist⟩ : c.journal = [] ∨ ∃ r, c.journal = [r] := by
    rw [← List.length_eq_zero_iff, ← List.length_eq_one_iff]
    omega
  · left
    rw [← hc, ← hc', hlist]
    rfl
  · rw [hlist] at hc hc'
    by_cases he : r.event = .event .initialise
    · refine .inr ⟨r, hlist, he, ?_⟩
      calc c' = rebuilt i' [r] := hc'.symm
        _ = { rebuilt i [r] with currentTarget := (rebuilt i' [r]).currentTarget } :=
          replayed_initialise he
        _ = { c with currentTarget := c'.currentTarget } := by rw [hc, hc']
    · left
      rw [← hc, ← hc']
      exact replayed_congr he

theorem journal_determines_refused :
    let plain := [.initialise (goodBootstrap identityA), .admitRollout "R1", .taint "stopped"]
    let refused := [.initialise (goodBootstrap identityA), .admitRollout "R1", .admitRollout "R1",
      .taint "stopped", .finishRollout "R1"]
    rebuilt identityA (runOps plain).journal = runOps plain ∧ runOps refused = runOps plain := by
  intro plain refused
  have hj : (runOps refused).journal = (runOps plain).journal := by decide +kernel
  obtain ⟨hrebuilt, hsame⟩ := journal_determines (c := runOps plain) ⟨plain, rfl⟩
  refine ⟨?_, (hsame _ ⟨refused, rfl⟩ hj).resolve_right ?_⟩
  · obtain ⟨r, hr⟩ : ∃ r, (runOps plain).journal[1]? = some r :=
      Option.isSome_iff_exists.mp (by decide +kernel)
    obtain ⟨i, hi, hb⟩ := hrebuilt r hr
    have hA : (runOps plain).journal[1]?.bind (·.identity) = some identityA := by decide +kernel
    rw [hr, Option.bind_some, hi] at hA
    rwa [Option.some.inj hA] at hb
  · rintro ⟨r, hr, -⟩
    have hlen : (runOps plain).journal.length = 3 := by decide +kernel
    rw [hr] at hlen
    cases hlen

end RolloutCore
