import RolloutCore.LifecycleInvariant

/-!
# Guarantees over whole runs of the controller

Statements about every sequence of calls on a new controller, with any arguments and evidence.
-/

namespace RolloutCore

open LifecycleController

/-- A call of a run, with the controller it found. -/
abbrev Moment := LifecycleController × Op

/-- The controller after `ops`, from a new one. -/
abbrev runOps (ops : List Op) : LifecycleController := Runs.run Op.after ops .init

/-- The calls of a run from `c`. -/
abbrev traceOps (ops : List Op) (c : LifecycleController) : List Moment :=
  Runs.trace Op.after ops c

theorem inv_runOps (ops : List Op) : Inv (runOps ops) := Reachable.inv ⟨ops, rfl⟩

/-! ## Passing evidence -/

/-- Evidence of an uneventful bootstrap. -/
def goodBootstrap (i : WeightIdentity) : BootstrapEvidence :=
  ⟨"rc-0", true, some "default", i, "nccl", .int 2, some "test-driver"⟩

def goodDrain : DrainEvidence := ⟨true, none, ""⟩

def goodUpdate (t : UpdateTarget) : UpdateEvidence :=
  ⟨t, true, true, some 12, true, some t.identity⟩

def goodInvalidate : InvalidateEvidence := ⟨true, true, true⟩

def goodValidate (t : UpdateTarget) : ValidateEvidence := ⟨t, t.label, true, true⟩

def goodResume (t : UpdateTarget) : ResumeEvidence := ⟨t, true, false, some t.label⟩

/-- The calls of one uneventful cycle. -/
def goodCycle (t : UpdateTarget) : List Op :=
  [.beginDrain, .confirmDrained goodDrain, .beginUpdate t, .confirmUpdated (goodUpdate t),
    .confirmInvalidated goodInvalidate, .confirmValidated (goodValidate t),
    .confirmResumed (goodResume t)]

/-- Two identities for the concrete runs. -/
def identityA : WeightIdentity := .uniform 'a' (digestOk_replicate (by decide))

def identityB : WeightIdentity := .uniform 'b' (digestOk_replicate (by decide))

/-! ## Version purity -/

/-- The five calls that carry an update from QUIESCED to its commit. -/
def Op.IsUpdateStep : Op → Prop
  | .beginUpdate _ | .confirmUpdated _ | .confirmInvalidated _ | .confirmValidated _ |
    .confirmResumed _ => True
  | _ => False

/-- The call released `b`: a finish or an abort of its request, or a taint. -/
def Releases (b : RolloutBinding) (m : Moment) : Prop :=
  (m.2 = .finishRollout b.requestId ∨ m.2 = .abortRollout b.requestId) ∧
      m.2.succeeds m.1 = true ∨
    m.1.state ≠ .tainted ∧ (m.2.after m.1).state = .tainted

section Purity

variable {c : LifecycleController} (h : Inv c)

include h

theorem no_active_of_update_step {op : Op} (hop : op.IsUpdateStep) (hs : op.succeeds c = true) :
    c.active.entries = [] := by
  obtain ⟨r, c', -, ha⟩ := op.accepted_of_succeeds h hs
  cases ha with
  | beginUpdate hs => exact h.no_active (by simp [hs]) (by simp [hs])
  | confirmUpdated hs => exact h.no_active (by simp [hs]) (by simp [hs])
  | confirmInvalidated hs => exact h.no_active (by simp [hs]) (by simp [hs])
  | confirmValidated hs => exact h.no_active (by simp [hs]) (by simp [hs])
  | confirmResumed hs => exact h.no_active (by simp [hs]) (by simp [hs])
  | _ => exact hop.elim

/-- A call that does not release an active binding keeps it active, under the same target. -/
theorem active_after {op : Op} {b : RolloutBinding} (hb : b ∈ c.active.values)
    (hr : ¬ Releases b (c, op)) :
    b ∈ (op.after c).active.values ∧ (op.after c).currentTarget = c.currentTarget := by
  have hne : c.active.entries ≠ [] := fun hn => by
    rw [OrderedDict.values_eq_nil.mpr hn] at hb
    cases hb
  obtain ⟨k, hk⟩ := OrderedDict.mem_values.mp hb
  obtain ⟨c', hc', he⟩ := op.effect h
  rw [hc']
  cases he with
  | rejected _ _ hc => rw [hc]; exact ⟨hb, rfl⟩
  | tainted _ _ hs hc => exact absurd (.inr ⟨hs, by rw [hc', hc]; rfl⟩) hr
  | accepted hok ha =>
    have hs' := Op.succeeds_of_ok hok
    -- a released entry has another key than `b`, or the call releases `b`
    have hkeep : ∀ {id : String}, id ≠ b.requestId → b ∈ (c.active.erase id).values :=
      fun hid => OrderedDict.mem_values.mpr ⟨k, OrderedDict.mem_entries_erase.mpr
        ⟨hk, fun hki => hid (hki ▸ (h.bound k b hk).1.symm)⟩⟩
    cases ha with
    | initialise hs => exact absurd (h.serving hne) (by simp [hs])
    | beginDrain hs => exact ⟨hb, rfl⟩
    | confirmDrained hs hact => exact absurd hact hne
    | beginUpdate hs => exact absurd (h.serving hne) (by simp [hs])
    | confirmUpdated hs => exact absurd (h.serving hne) (by simp [hs])
    | confirmInvalidated hs => exact absurd (h.serving hne) (by simp [hs])
    | confirmValidated hs => exact absurd (h.serving hne) (by simp [hs])
    | confirmResumed hs => exact absurd (h.serving hne) (by simp [hs])
    | taint hs => exact absurd (.inr ⟨hs, by rw [hc']; rfl⟩) hr
    | taintAgain hs => exact ⟨hb, rfl⟩
    | nextTarget => exact ⟨hb, rfl⟩
    | admitRollout hs ht hid =>
      refine ⟨?_, rfl⟩
      rw [admitted_active, OrderedDict.values_insert hid]
      exact List.mem_append_left _ hb
    | @finishRollout _ id =>
      refine ⟨hkeep fun hid => hr (.inl ⟨.inl ?_, hs'⟩), rfl⟩
      rw [hid]
    | @abortRollout _ id =>
      refine ⟨hkeep fun hid => hr (.inl ⟨.inr ?_, hs'⟩), rfl⟩
      rw [hid]

theorem active_of_admit {id : String} {b : RolloutBinding} {c₁ : LifecycleController}
    (ha : (admitRollout id).run c = .ok b c₁) :
    b ∈ c₁.active.values ∧ c₁.currentTarget = c.currentTarget ∧ Inv c₁ := by
  have ho := (Op.admitRollout id).outcome h.ready_committed
  rw [Outcome, show (Op.admitRollout id).call.run c = .ok b c₁ from ha] at ho
  have hi := inv_accepted h ho
  cases ho with
  | admitRollout hs ht hid =>
    refine ⟨?_, rfl, hi⟩
    rw [admitted_active, OrderedDict.values_insert hid]
    exact List.mem_append_right _ (List.mem_singleton_self _)

end Purity

/-- **Version-pure rollouts.** Whenever a rollout is active the controller is READY or DRAINING
with nothing pending, and every active binding is stored under its own id with the committed
version, its identity and its salt. From an admission to the release of its binding no update
step succeeds and the committed target does not change. -/
theorem version_pure_rollout (ops : List Op) :
    ((runOps ops).active.entries ≠ [] →
      ((runOps ops).state = .ready ∨ (runOps ops).state = .draining) ∧
      (runOps ops).pendingTarget = none ∧
      ∃ t, (runOps ops).currentTarget = some t ∧ ∀ k b, (k, b) ∈ (runOps ops).active.entries →
        b.requestId = k ∧ b.version = t.version ∧ b.weightIdentity = t.identity ∧
        b.cacheSalt = t.version.cacheSalt) ∧
    ∀ id b c₁ later, (admitRollout id).run (runOps ops) = .ok b c₁ →
      (∀ m ∈ traceOps later c₁, ¬ Releases b m) →
      ∀ m ∈ traceOps later c₁, (m.2.IsUpdateStep → m.2.succeeds m.1 = false) ∧
        (m.2.after m.1).currentTarget = (runOps ops).currentTarget := by
  have h := inv_runOps ops
  constructor
  · intro hne
    have hs := h.serving hne
    refine ⟨hs, h.not_inFlight_pending (by rcases hs with hs | hs <;> simp [hs, InFlight]), ?_⟩
    obtain ⟨t, ht⟩ := Option.ne_none_iff_exists'.mp
      (h.committed (by rcases hs with hs | hs <;> simp [hs])
        (by rcases hs with hs | hs <;> simp [hs]))
    refine ⟨t, ht, fun k b hb => ?_⟩
    obtain ⟨hid, hcur, hsalt⟩ := h.bound k b hb
    obtain rfl : b.target = t := Option.some.inj (hcur.symm.trans ht)
    exact ⟨hid, rfl, rfl, hsalt⟩
  · intro id b c₁ later ha hnr
    obtain ⟨hb, hcur, h₁⟩ := active_of_admit h ha
    have key := Runs.trace_invariant (P := fun m => ¬ Releases b m)
      (I := fun c => Inv c ∧ b ∈ c.active.values ∧ c.currentTarget = (runOps ops).currentTarget)
      (by
        rintro c op ⟨hi, hb, hcur⟩ hr
        obtain ⟨hkept, htarget⟩ := active_after hi hb hr
        exact ⟨inv_after hi op, hkept, htarget.trans hcur⟩) later ⟨h₁, hb, hcur⟩ hnr
    intro m hm
    obtain ⟨hi, hb, hcur⟩ := key m hm
    refine ⟨fun hop => ?_, (active_after hi hb (hnr m hm)).2.trans hcur⟩
    by_contra hs
    have hn := no_active_of_update_step hi hop (by simpa using hs)
    rw [OrderedDict.values_eq_nil.mpr hn] at hb
    cases hb

/-- A served rollout: admitted, then drained around. -/
theorem version_pure_rollout_served :
    (runOps [.initialise (goodBootstrap identityA), .admitRollout "R1", .beginDrain]).pendingTarget
        = none ∧
      ∀ m ∈ traceOps [.beginDrain] (runOps [.initialise (goodBootstrap identityA),
          .admitRollout "R1"]),
        (m.2.after m.1).currentTarget = some ⟨⟨0⟩, identityA⟩ := by
  refine ⟨((version_pure_rollout _).1 (by decide)).2.1, fun m hm => ?_⟩
  exact ((version_pure_rollout [.initialise (goodBootstrap identityA)]).2 "R1" _ _ [.beginDrain]
    rfl (by simp [Releases]; decide) m hm).2

/-! ## Commit soundness -/

/-- The nine calls that move the lifecycle state. -/
def Op.isTransition : Op → Bool
  | .nextTarget _ | .admitRollout _ | .finishRollout _ | .abortRollout _ => false
  | _ => true

/-- The calls since the controller was last READY: the list starts again at every call that finds
it READY. -/
def sinceReady (tr : List Moment) : List Moment :=
  tr.foldl (fun past m => if m.1.state = .ready then [m] else past ++ [m]) []

/-- The transition calls that succeeded. -/
def transitions (tr : List Moment) : List Moment :=
  tr.filter fun m => m.2.isTransition && m.2.succeeds m.1

/-- `CyclePath t₀ s p path`: `path` holds the successful transition calls of a cycle, begun with
`t₀` committed, that has got to the state `s` with `p` in flight. -/
inductive CyclePath (t₀ : UpdateTarget) :
    LifecycleState → Option UpdateTarget → List Moment → Prop
  | draining {c : LifecycleController} : CyclePath t₀ .draining none [(c, .beginDrain)]
  | quiesced {path : List Moment} {c : LifecycleController} {e : DrainEvidence}
      (h : CyclePath t₀ .draining none path) (ha : c.active.entries = [])
      (he : e.failureReason = none) :
      CyclePath t₀ .quiesced none (path ++ [(c, .confirmDrained e)])
  | updating {path : List Moment} {c : LifecycleController} {t : UpdateTarget}
      (h : CyclePath t₀ .quiesced none path) (hlt : t₀.version < t.version) :
      CyclePath t₀ .updating (some t) (path ++ [(c, .beginUpdate t)])
  | invalidating {path : List Moment} {c : LifecycleController} {e : UpdateEvidence}
      (h : CyclePath t₀ .updating (some e.target) path) (he : e.failureReason = none) :
      CyclePath t₀ .invalidating (some e.target) (path ++ [(c, .confirmUpdated e)])
  | validating {path : List Moment} {c : LifecycleController} {e : InvalidateEvidence}
      {t : UpdateTarget} (h : CyclePath t₀ .invalidating (some t) path)
      (he : e.failureReason = none) :
      CyclePath t₀ .validating (some t) (path ++ [(c, .confirmInvalidated e)])
  | resuming {path : List Moment} {c : LifecycleController} {e : ValidateEvidence}
      (h : CyclePath t₀ .validating (some e.target) path) (he : e.failureReason = none) :
      CyclePath t₀ .resuming (some e.target) (path ++ [(c, .confirmValidated e)])

/-- The states of a cycle. -/
def InCycle (s : LifecycleState) : Prop := s = .draining ∨ s = .quiesced ∨ InFlight s

theorem InCycle.ne_ready {s : LifecycleState} (h : InCycle s) : s ≠ .ready := by
  rintro rfl
  simp [InCycle, InFlight] at h

/-- The history of a controller in the middle of a cycle is the path to its state. -/
def OnPath (tr : List Moment) (c : LifecycleController) : Prop :=
  InCycle c.state → ∃ t₀, c.currentTarget = some t₀ ∧
    CyclePath t₀ c.state c.pendingTarget (transitions (sinceReady tr))

theorem sinceReady_append (tr : List Moment) (m : Moment) :
    sinceReady (tr ++ [m]) = if m.1.state = .ready then [m] else sinceReady tr ++ [m] := by
  unfold sinceReady
  rw [List.foldl_append]
  rfl

theorem transitions_append (tr : List Moment) (m : Moment) :
    transitions (tr ++ [m]) =
      transitions tr ++ if m.2.isTransition && m.2.succeeds m.1 then [m] else [] := by
  unfold transitions
  rw [List.filter_append, List.filter_singleton, Bool.cond_eq_ite]

theorem path_append {tr : List Moment} {m : Moment} (hs : m.1.state ≠ .ready) :
    transitions (sinceReady (tr ++ [m])) = transitions (sinceReady tr) ++
      if m.2.isTransition && m.2.succeeds m.1 then [m] else [] := by
  rw [sinceReady_append, if_neg hs, transitions_append]

theorem path_append_of_success {tr : List Moment} {m : Moment} (hs : m.1.state ≠ .ready)
    (ht : m.2.isTransition = true) (hok : m.2.succeeds m.1 = true) :
    transitions (sinceReady (tr ++ [m])) = transitions (sinceReady tr) ++ [m] := by
  rw [path_append hs, ht, hok]
  rfl

section History

variable {c c' : LifecycleController} {tr : List Moment} {op : Op}

theorem OnPath.of_idle (h : OnPath tr c) (hop : (op.isTransition && op.succeeds c) = false)
    (hs : c'.state = c.state) (hcur : c'.currentTarget = c.currentTarget)
    (hpend : c'.pendingTarget = c.pendingTarget) : OnPath (tr ++ [(c, op)]) c' := by
  intro hc
  rw [hs] at hc
  obtain ⟨t₀, ht₀, hp⟩ := h hc
  refine ⟨t₀, hcur.trans ht₀, ?_⟩
  rw [path_append hc.ne_ready, hs, hpend]
  simpa [hop] using hp

/-- A transition that succeeds in the middle of a cycle goes one step further on the path. -/
theorem OnPath.of_success (h : OnPath tr c) (hc : InCycle c.state) (ht : op.isTransition = true)
    (hok : op.succeeds c = true) (hcur : c'.currentTarget = c.currentTarget)
    (hstep : ∀ {t₀ path}, c.currentTarget = some t₀ → CyclePath t₀ c.state c.pendingTarget path →
      CyclePath t₀ c'.state c'.pendingTarget (path ++ [(c, op)])) :
    OnPath (tr ++ [(c, op)]) c' := by
  intro _
  obtain ⟨t₀, ht₀, hp⟩ := h hc
  refine ⟨t₀, hcur.trans ht₀, ?_⟩
  rw [path_append_of_success hc.ne_ready ht hok]
  exact hstep ht₀ hp

theorem OnPath.of_outside (hc : ¬ InCycle c'.state) : OnPath tr c' := fun h => absurd h hc

theorem onPath_accepted (hi : Inv c) (h : OnPath tr c) {r : op.Ret}
    (hok : op.succeeds c = true) (ha : Accepted op c r c') : OnPath (tr ++ [(c, op)]) c' := by
  cases ha with
  | initialise => exact .of_outside (by simp [InCycle, InFlight])
  | beginDrain hs ht =>
    intro _
    refine ⟨_, ht, ?_⟩
    rw [sinceReady_append, if_pos hs, show transitions [(c, Op.beginDrain)] = _ from
      transitions_append [] _, hok]
    have hp := hi.not_inFlight_pending (by simp [hs, InFlight])
    simpa [hp, Op.isTransition, transitions] using CyclePath.draining
  | confirmDrained hs hact he =>
    have hpend := hi.not_inFlight_pending (by simp [hs, InFlight])
    refine h.of_success (by simp [hs, InCycle]) rfl hok rfl fun _ hp => ?_
    rw [hs, hpend] at hp
    rw [advanced_pendingTarget, recorded_pendingTarget, hpend]
    exact hp.quiesced hact he
  | beginUpdate hs ht hlt =>
    refine h.of_success (by simp [hs, InCycle]) rfl hok rfl fun ht₀ hp => ?_
    rw [hs, hi.not_inFlight_pending (by simp [hs, InFlight])] at hp
    obtain rfl := Option.some.inj (ht₀.symm.trans ht)
    exact hp.updating hlt
  | confirmUpdated hs hpend he =>
    refine h.of_success (by simp [hs, InCycle, InFlight]) rfl hok rfl fun _ hp => ?_
    rw [hs, hpend] at hp
    rw [advanced_pendingTarget, recorded_pendingTarget, hpend]
    exact hp.invalidating he
  | confirmInvalidated hs hpend he =>
    refine h.of_success (by simp [hs, InCycle, InFlight]) rfl hok rfl fun _ hp => ?_
    rw [hs, hpend] at hp
    rw [advanced_pendingTarget, recorded_pendingTarget, hpend]
    exact hp.validating he
  | confirmValidated hs hpend he =>
    refine h.of_success (by simp [hs, InCycle, InFlight]) rfl hok rfl fun _ hp => ?_
    rw [hs, hpend] at hp
    rw [advanced_pendingTarget, recorded_pendingTarget, hpend]
    exact hp.resuming he
  | confirmResumed => exact .of_outside (by simp [InCycle, InFlight])
  | taint => exact .of_outside (by simp [InCycle, InFlight])
  | taintAgain hs => exact .of_outside (by simp [hs, InCycle, InFlight])
  | nextTarget => exact h.of_idle (by simp [Op.isTransition]) rfl rfl rfl
  | admitRollout => exact h.of_idle (by simp [Op.isTransition]) rfl rfl rfl
  | finishRollout => exact h.of_idle (by simp [Op.isTransition]) rfl rfl rfl
  | abortRollout => exact h.of_idle (by simp [Op.isTransition]) rfl rfl rfl

theorem onPath_after (hi : Inv c) (h : OnPath tr c) (op : Op) :
    OnPath (tr ++ [(c, op)]) (op.after c) := by
  obtain ⟨c', hc', he⟩ := op.effect hi
  rw [hc']
  cases he with
  | accepted hok ha => exact onPath_accepted hi h (Op.succeeds_of_ok hok) ha
  | rejected herr _ hc =>
    rw [hc]
    exact h.of_idle (by simp [Op.not_succeeds_of_error herr]) rfl rfl rfl
  | tainted _ _ _ hc =>
    rw [hc]
    exact .of_outside (by simp [InCycle, InFlight])

end History

theorem onPath_runOps (ops : List Op) : OnPath (traceOps ops .init) (runOps ops) :=
  (Runs.history_invariant (H := fun tr c => Inv c ∧ OnPath tr c)
    ⟨inv_init, .of_outside (by simp [init, InCycle, InFlight])⟩
    (fun _ _ op h => ⟨inv_after h.1 op, onPath_after h.1 h.2 op⟩) ops).2

theorem CyclePath.resuming_cases {t₀ t : UpdateTarget} {path : List Moment}
    (h : CyclePath t₀ .resuming (some t) path) :
    ∃ c₁ c₂ c₃ c₄ c₅ c₆ e₂ e₄ e₅ e₆,
      path = [(c₁, .beginDrain), (c₂, .confirmDrained e₂), (c₃, .beginUpdate t),
        (c₄, .confirmUpdated e₄), (c₅, .confirmInvalidated e₅), (c₆, .confirmValidated e₆)] ∧
      c₂.active.entries = [] ∧ e₂.failureReason = none ∧ t₀.version < t.version ∧
      e₄.target = t ∧ e₄.failureReason = none ∧ e₅.failureReason = none ∧
      e₆.target = t ∧ e₆.failureReason = none := by
  cases h with
  | resuming h he₆ =>
  cases h with
  | validating h he₅ =>
  generalize ht : (some _ : Option UpdateTarget) = p at h
  cases h with
  | @invalidating _ _ e₄ h he₄ =>
  cases h with
  | updating h hlt =>
  cases h with
  | quiesced h hact he₂ =>
  cases h with
  | draining =>
  have ht := Option.some.inj ht
  exact ⟨_, _, _, _, _, _, _, e₄, _, _, by rw [ht]; rfl, hact, he₂, ht ▸ hlt, ht.symm, he₄, he₅,
    rfl, he₆⟩

theorem commits_of_target_changes {c : LifecycleController} (h : Inv c) {op : Op}
    (hne : (op.after c).currentTarget ≠ c.currentTarget) :
    op.succeeds c = true ∧ ((∃ e, op = .initialise e) ∨ ∃ e, op = .confirmResumed e) := by
  obtain ⟨c', hc', he⟩ := op.effect h
  rw [hc'] at hne
  cases he with
  | rejected _ _ hc => exact absurd (by rw [hc]) hne
  | tainted _ _ _ hc => exact absurd (by rw [hc]; rfl) hne
  | accepted hok ha =>
    refine ⟨Op.succeeds_of_ok hok, ?_⟩
    cases ha with
    | initialise => exact .inl ⟨_, rfl⟩
    | confirmResumed => exact .inr ⟨_, rfl⟩
    | _ => exact absurd rfl hne

theorem confirmResumed_commits {c : LifecycleController} (h : Inv c) {e : ResumeEvidence}
    (hok : (Op.confirmResumed e).succeeds c = true) :
    c.state = .resuming ∧ c.pendingTarget = some e.target ∧ e.failureReason = none ∧
      ((Op.confirmResumed e).after c).currentTarget = some e.target := by
  obtain ⟨r, c', hc', ha⟩ := Op.accepted_of_succeeds h hok
  rw [hc']
  cases ha with
  | confirmResumed hs hp he => exact ⟨hs, hp, he, rfl⟩

/-- **Commit soundness.** The committed target changes only in a successful `initialize` or
`confirm_resumed`. When a `confirm_resumed` commits `t`, the transition calls that succeeded since
the controller was last READY are the seven of a cycle in order, each with evidence that meets its
postcondition for `t`. -/
theorem commit_soundness (ops : List Op) :
    (∀ op : Op, (op.after (runOps ops)).currentTarget ≠ (runOps ops).currentTarget →
      op.succeeds (runOps ops) = true ∧
        ((∃ e, op = .initialise e) ∨ ∃ e, op = .confirmResumed e)) ∧
    ∀ e, (Op.confirmResumed e).succeeds (runOps ops) = true →
      ∃ t₀ t c₁ c₂ c₃ c₄ c₅ c₆ e₂ e₄ e₅ e₆,
        (runOps ops).currentTarget = some t₀ ∧
        (runOps (ops ++ [.confirmResumed e])).currentTarget = some t ∧
        transitions (sinceReady (traceOps (ops ++ [.confirmResumed e]) .init)) =
          [(c₁, .beginDrain), (c₂, .confirmDrained e₂), (c₃, .beginUpdate t),
            (c₄, .confirmUpdated e₄), (c₅, .confirmInvalidated e₅), (c₆, .confirmValidated e₆),
            (runOps ops, .confirmResumed e)] ∧
        (e₂.engineDrainCompleted = true ∧
          (e₂.engineActiveRequests = none ∨ e₂.engineActiveRequests = some 0) ∧
          c₂.active.entries = []) ∧
        t₀.version < t.version ∧
        (e₄.target = t ∧ e₄.weightsLoaded = true ∧ e₄.dataPlaneComplete = true ∧
          e₄.finishAcknowledged = true ∧
          (e₄.observedIdentity = none ∨ e₄.observedIdentity = some t.identity)) ∧
        (e₅.prefixCacheReset = true ∧ e₅.encoderCacheReset = true ∧ e₅.mmCacheReset = true) ∧
        (e₆.target = t ∧ e₆.observedEngineLabel = t.label ∧ e₆.isPaused = true ∧
          e₆.cachesStillClean = true) ∧
        e.target = t ∧ e.resumeAcknowledged = true ∧ e.isPaused = false ∧
        (e.observedEngineLabel = none ∨ e.observedEngineLabel = some t.label) := by
  have hi := inv_runOps ops
  refine ⟨fun op => commits_of_target_changes hi, fun e hok => ?_⟩
  obtain ⟨hs, hpend, he, hcommit⟩ := confirmResumed_commits hi hok
  obtain ⟨t₀, ht₀, hpath⟩ := onPath_runOps ops (by simp [hs, InCycle, InFlight])
  rw [hs, hpend] at hpath
  obtain ⟨c₁, c₂, c₃, c₄, c₅, c₆, e₂, e₄, e₅, e₆, hp, hact, he₂, hlt, ht₄, he₄, he₅, ht₆, he₆⟩ :=
    hpath.resuming_cases
  have hupd := UpdateEvidence.failureReason_eq_none.mp he₄
  have hval := ValidateEvidence.failureReason_eq_none.mp he₆
  rw [ht₄] at hupd
  rw [ht₆] at hval
  have hdrain := DrainEvidence.failureReason_eq_none.mp he₂
  refine ⟨t₀, e.target, c₁, c₂, c₃, c₄, c₅, c₆, e₂, e₄, e₅, e₆, ht₀, ?_, ?_,
    ⟨hdrain.1, hdrain.2, hact⟩, hlt, ⟨ht₄, hupd⟩, InvalidateEvidence.failureReason_eq_none.mp he₅,
    ⟨ht₆, hval⟩, rfl, ResumeEvidence.failureReason_eq_none.mp he⟩
  · rw [runOps, Runs.run_append]
    exact hcommit
  · rw [traceOps, Runs.trace_append, Runs.trace_cons, Runs.trace_nil,
      path_append_of_success (by simp [hs]) rfl hok, hp]
    rfl

theorem commit_soundness_second_generation :
    ∃ t₀ t : UpdateTarget, t₀.version < t.version ∧
      (runOps (.initialise (goodBootstrap identityA) :: goodCycle ⟨⟨1⟩, identityB⟩)).currentTarget
        = some t := by
  obtain ⟨t₀, t, -, -, -, -, -, -, -, -, -, -, -, ht, -, -, hlt, -⟩ :=
    (commit_soundness (.initialise (goodBootstrap identityA) ::
      (goodCycle ⟨⟨1⟩, identityB⟩).dropLast)).2 (goodResume ⟨⟨1⟩, identityB⟩) (by decide)
  exact ⟨t₀, t, hlt, ht⟩

/-! ## Error atomicity and absorbing taint -/

theorem orphans_binding (s : LifecycleState) (reason : String) (n : ℕ)
    (bs : List RolloutBinding) : (orphans s reason n bs).map (·.binding) = bs := by
  induction bs generalizing n with
  | nil => rfl
  | cons b bs ih => rw [orphans, List.map_cons, ih]

/-- **Error atomicity and absorbing taint.** A call that raises anything but a taint error leaves
every field as it was. One that raises a taint error found the controller untainted, keeps the
committed target, turns the active bindings into orphans in admission order and adds one journal
record. No sequence of calls changes a tainted controller. -/
theorem error_atomicity (c : LifecycleController) (h : Reachable c) :
    (∀ (op : Op) (e : PyExc) (c' : LifecycleController), op.call.run c = .error e c' →
      (e.isTaint = false → c' = c) ∧
      (e.isTaint = true → c.state ≠ .tainted ∧ c'.state = .tainted ∧
        c'.currentTarget = c.currentTarget ∧ c'.pendingTarget = none ∧ c'.active.entries = [] ∧
        (∃ orphans, c'.orphaned = c.orphaned ++ orphans ∧
          orphans.map (·.binding) = c.activeRollouts) ∧
        c.activeRollouts.Pairwise (fun a b => a.admittedSeq < b.admittedSeq) ∧
        ∃ record, c'.journal = c.journal ++ [record])) ∧
    (c.state = .tainted → ∀ ops, Runs.run Op.after ops c = c) := by
  refine ⟨fun op e c' herr => ?_, fun hs => Runs.run_of_fixed (after_of_tainted h.inv hs)⟩
  have ho := op.outcome h.inv.ready_committed
  rw [Outcome, herr] at ho
  obtain ⟨e, rfl, ⟨he, hc⟩ | ⟨he, hs, reason, hc⟩⟩ := ho
  · refine ⟨fun _ => hc, fun ht => ?_⟩
    rw [PyExc.isTaint_core] at ht
    cases e <;> cases he <;> cases ht
  · refine ⟨fun ht => ?_, fun _ => ?_⟩
    · rw [PyExc.isTaint_core, he] at ht
      cases ht
    · subst hc
      exact ⟨hs, rfl, rfl, rfl, rfl, ⟨_, rfl, orphans_binding _ _ _ _⟩, h.inv.ordered, _, rfl⟩

/-- A refused admission, and calls after a taint. -/
theorem error_atomicity_refused :
    (Op.admitRollout "R1").after .init = .init ∧
      Runs.run Op.after [.beginDrain, .taint "again"] ((Op.taint "operator").after .init) =
        (Op.taint "operator").after .init :=
  ⟨((error_atomicity .init (.refl _)).1 (.admitRollout "R1") _ _ rfl).1 rfl,
    (error_atomicity _ ((Runs.Reachable.refl _).next (.taint "operator"))).2 rfl _⟩

end RolloutCore
