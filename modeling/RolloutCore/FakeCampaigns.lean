import RolloutCore.FakeProgress

/-!
# Unfaulted campaigns

A bootstrap and any number of cycles one after the other, with rollouts and requests in between.
Nothing is faulted, and every one of them commits.
-/

namespace RolloutCore

open LifecycleController CallOutcome

/-! ## Between the cycles -/

/-- The calls of rollout owners. -/
def Op.IsRollout : Op → Prop
  | .admitRollout _ | .finishRollout _ | .abortRollout _ => True
  | _ => False

/-- What happens between the calls of a runner that nothing disturbs: rollouts are admitted and
released, and the engine takes and finishes requests, which fill its caches. -/
inductive Between (s : FakeSystem) : FakeSystem → Prop
  | rollout (op : Op) (hop : op.IsRollout) :
    Between s { s with controller := op.after s.controller }
  | requests (active : ℤ) (p₁ p₂ p₃ : Bool) :
    Between s { s with
      engine := s.engine.disturbed s.engine.faults active s.engine.prefixResetSucceeds p₁ p₂ p₃ }

section Rollouts

variable {c : LifecycleController} {α : Type}

/-- The two controllers are at the same point of the lifecycle. -/
structure SamePlace (c c' : LifecycleController) : Prop where
  state : c'.state = c.state
  current : c'.currentTarget = c.currentTarget
  pending : c'.pendingTarget = c.pendingTarget

/-- The call leaves the controller where it is, whether it returns or raises. -/
abbrev StaysPut (x : Ctl α) (c : LifecycleController) : Prop :=
  Ends (fun _ c' => SamePlace c c') (fun _ c' => SamePlace c c') (x.run c)

/-- A check that raises or does nothing. -/
abbrev OnlyChecks (x : Ctl α) (c : LifecycleController) : Prop :=
  Ends (fun _ c' => c' = c) (fun _ c' => SamePlace c c') (x.run c)

theorem OnlyChecks.bind {β : Type} {x : Ctl α} {f : α → Ctl β} (hx : OnlyChecks x c)
    (hf : ∀ a, StaysPut (f a) c) : StaysPut (x >>= f) c :=
  Ends.bind hx fun a _ h => h ▸ hf a

theorem raiseIf_checks (b : Bool) (e : RolloutCoreError) : OnlyChecks (raiseIf b e) c := by
  cases b with
  | false => exact rfl
  | true => exact ⟨rfl, rfl, rfl⟩

theorem require_checks (b : Bool) (inv detail : String) : OnlyChecks (require b inv detail) c := by
  cases b with
  | false => exact ⟨rfl, rfl, rfl⟩
  | true => exact rfl

theorem assertSome_checks (o : Option α) : OnlyChecks (assertSome o) c := by
  cases o with
  | none => exact ⟨rfl, rfl, rfl⟩
  | some a => exact rfl

theorem admitRollout_stays (id : String) : StaysPut (admitRollout id) c := by
  unfold admitRollout
  rw [StaysPut, bind_of_ok run_get]
  exact (raiseIf_checks _ _).bind fun _ => (require_checks _ _ _).bind fun _ =>
    (require_checks _ _ _).bind fun _ => (assertSome_checks _).bind fun _ => ⟨rfl, rfl, rfl⟩

theorem releaseRollout_stays (id : String) (event : RecordEvent) :
    StaysPut (releaseRollout id event) c := by
  unfold releaseRollout
  rw [StaysPut, bind_of_ok run_get]
  refine (raiseIf_checks _ _).bind fun _ => ?_
  cases c.active.get? id with
  | none => exact ⟨rfl, rfl, rfl⟩
  | some b => exact ⟨rfl, rfl, rfl⟩

/-- **A rollout call** moves no transition. -/
theorem rollout_after {op : Op} (hop : op.IsRollout) : SamePlace c (op.after c) := by
  have hstay : StaysPut op.call c := by
    cases op with
    | admitRollout id => exact admitRollout_stays id
    | finishRollout id => exact releaseRollout_stays id _
    | abortRollout id => exact releaseRollout_stays id _
    | _ => exact hop.elim
  unfold Op.after
  rw [StaysPut] at hstay
  cases h : op.call.run c with
  | ok b c' => rw [h] at hstay; exact hstay
  | error e c' => rw [h] at hstay; exact hstay

end Rollouts

/-! ## Campaigns -/

/-- An `install_next` that has ended, with the system it left. -/
structure Installation where
  identity : WeightIdentity
  outcome : FakeProg CycleResult
  after : FakeSystem

/-- The system is at rest: no rollout and no request is active. -/
def FakeSystem.AtRest (s : FakeSystem) : Prop :=
  s.controller.activeRollouts = [] ∧ s.engine.activeRequests = 0

/-- A bootstrap that ended as `boot`, and then one `install_next` after the other, each from rest,
with rollouts and requests in between. -/
inductive Campaign (r : LifecycleRunner) (a : FakeVLLMAdapter) (s₀ : FakeSystem) :
    FakeProg Unit → List Installation → FakeSystem → Prop
  | bootstrapped {tr : List FakeEvent} {boot : FakeProg Unit} {s : FakeSystem}
      (hr : Run (World.undisturbed fakeAnswers) (LifecycleRunner.bootstrap.interp a.handle) s₀ tr
        boot s) (hp : boot.Ended) : Campaign r a s₀ boot [] s
  | between {boot : FakeProg Unit} {done : List Installation} {s s' : FakeSystem}
      (h : Campaign r a s₀ boot done s) (he : Between s s') : Campaign r a s₀ boot done s'
  | installed {boot : FakeProg Unit} {done : List Installation} {s s' : FakeSystem}
      {i : WeightIdentity} {tr : List FakeEvent} {p : FakeProg CycleResult}
      (h : Campaign r a s₀ boot done s) (hrest : s.AtRest)
      (hr : Run (World.undisturbed fakeAnswers) ((r.installNext (some i)).interp a.handle) s tr p
        s') (hp : p.Ended) : Campaign r a s₀ boot (done ++ [⟨i, p, s'⟩]) s'

/-- The target of the last call of the campaign. -/
def lastTarget (i₀ : WeightIdentity) (done : List Installation) : UpdateTarget :=
  ⟨⟨done.length⟩, (done.getLast?.map Installation.identity).getD i₀⟩

/-- Between the calls: the controller is READY at `t` and the engine holds it, free of faults. -/
structure InService (t : UpdateTarget) (s : FakeSystem) : Prop where
  state : s.controller.state = .ready
  current : s.controller.currentTarget = some t
  pending : s.controller.pendingTarget = none
  closed : s.engine.updateSessionOpen = false
  faults (name : String) : s.engine.faults.get? name = none
  resets : s.engine.prefixResetSucceeds = true

theorem InService.between {t : UpdateTarget} {s s' : FakeSystem} (h : InService t s)
    (he : Between s s') : InService t s' := by
  cases he with
  | rollout op hop =>
    have hsame := rollout_after (c := s.controller) hop
    exact ⟨hsame.state.trans h.state, hsame.current.trans h.current,
      hsame.pending.trans h.pending, h.closed, h.faults, h.resets⟩
  | requests => exact ⟨h.state, h.current, h.pending, h.closed, h.faults, h.resets⟩

section Campaigns

variable {r : LifecycleRunner} {a : FakeVLLMAdapter} {x y : Standing} {s s' : FakeSystem}

theorem Total.ended {α : Type} {p q : FakeProg α} {P : α → Prop} (h : Total x p y P)
    (hs : x.Holds s) {tr : List FakeEvent} (hr : Run (World.undisturbed fakeAnswers) p s tr q s')
    (hq : q.Ended) : ∃ b, q = .pure b ∧ y.Holds s' ∧ P b := by
  obtain ⟨b, rfl, hy, hb⟩ := (h s hs).ended hr hq
  exact ⟨b, rfl, hy, hb⟩

theorem Standing.Holds.atRest (h : x.Holds s) : s.AtRest :=
  ⟨List.map_eq_nil_iff.mpr h.controller.released, h.engine.unfaulted.idle⟩

theorem Standing.Holds.inService (h : x.Holds s) {t : UpdateTarget}
    (hx : x.controller = ⟨.ready, some t, none⟩) (hclosed : x.engine.core.sessionOpen = false) :
    InService t s where
  state := h.controller.state.trans (by rw [hx])
  current := h.controller.current.trans (by rw [hx])
  pending := h.controller.pending.trans (by rw [hx])
  closed := (congrArg EngineCore.sessionOpen h.engine.core).trans hclosed
  faults := h.engine.unfaulted.faults
  resets := h.engine.unfaulted.resets

/-- The system before a cycle that starts from rest. -/
theorem InService.standing {t : UpdateTarget} (h : InService t s) (hrest : s.AtRest) :
    Standing.Holds ⟨⟨.ready, some t, none⟩,
      ⟨s.engine.core, s.engine.caches, s.engine.weightTransferInitialised⟩,
      s.drainCompleted⟩ s where
  controller := ⟨h.state, h.current, h.pending, List.map_eq_nil_iff.mp hrest.1⟩
  engine := ⟨⟨h.faults, h.resets, hrest.2⟩, rfl, rfl, rfl⟩
  drained := rfl

/-- The `k`-th call has committed generation `k`, and the engine serves it. -/
structure Installation.Committed (m : Installation) (k : ℕ) : Prop where
  returned : ∃ res, m.outcome = .pure res ∧ res.committed = ⟨⟨k⟩, m.identity⟩
  current : m.after.controller.currentTarget = some ⟨⟨k⟩, m.identity⟩
  unpaused : m.after.engine.pauseState = .unpaused
  label : m.after.engine.weightVersion = (WeightVersion.mk k).label
  identity : m.after.engine.weightIdentity = some m.identity
  closed : m.after.engine.updateSessionOpen = false
  clean : m.after.engine.prefixCacheDirty = false ∧ m.after.engine.encoderCacheDirty = false ∧
    m.after.engine.mmCacheDirty = false

theorem installed_commits (hpolls : 1 ≤ r.drainPolls) {t : UpdateTarget} (h : InService t s)
    (hrest : s.AtRest) {i : WeightIdentity} {tr : List FakeEvent} {p : FakeProg CycleResult}
    (hr : Run (World.undisturbed fakeAnswers) ((r.installNext (some i)).interp a.handle) s tr p s')
    (hp : p.Ended) : s'.AtRest ∧ InService ⟨t.version.next, i⟩ s' ∧
      Installation.Committed ⟨i, p, s'⟩ t.version.next.value := by
  obtain ⟨res, rfl, hy, hres⟩ :=
    (installNext_total (a := a) hpolls i rfl h.closed).ended (h.standing hrest) hr hp
  have hcore := hy.engine.core
  have hcaches := hy.engine.caches
  refine ⟨hy.atRest, hy.inService rfl rfl, ⟨res, rfl, hres⟩, hy.controller.current, ?_,
    congrArg EngineCore.label hcore, congrArg EngineCore.identity hcore,
    congrArg EngineCore.sessionOpen hcore, congrArg CacheFlags.prefixDirty hcaches,
    congrArg CacheFlags.encoderDirty hcaches, congrArg CacheFlags.mmDirty hcaches⟩
  exact pauseState_eq.mpr (congrArg EngineCore.paused hcore)

theorem bootstrap_commits {g : FakeVLLMEngine} {i : WeightIdentity} {d : Bool}
    (hg : FakeVLLMEngine.Unfaulted g) (hclosed : g.updateSessionOpen = false) {tr : List FakeEvent}
    {p : FakeProg Unit} (hr : Run (World.undisturbed fakeAnswers)
      (LifecycleRunner.bootstrap.interp a.handle) ⟨.init, g.seedFreshWith i, d⟩ tr p s)
    (hp : p.Ended) : p = .pure () ∧ s.AtRest ∧ InService ⟨⟨INITIAL_VERSION⟩, i⟩ s := by
  have hx : Standing.Holds ⟨⟨.uninitialized, none, none⟩,
      ⟨(g.seedFreshWith i).core, (g.seedFreshWith i).caches, g.weightTransferInitialised⟩, d⟩
      ⟨.init, g.seedFreshWith i, d⟩ :=
    ⟨⟨rfl, rfl, rfl, rfl⟩, ⟨⟨hg.faults, hg.resets, hg.idle⟩, rfl, rfl, rfl⟩, rfl⟩
  obtain ⟨_, rfl, hy, -⟩ := (runnerBootstrap_total (a := a) rfl rfl rfl).ended hx hr hp
  exact ⟨rfl, hy.atRest, hy.inService rfl hclosed⟩

theorem Campaign.commits (hpolls : 1 ≤ r.drainPolls) {g : FakeVLLMEngine} {i₀ : WeightIdentity}
    {d : Bool} (hg : FakeVLLMEngine.Unfaulted g) (hclosed : g.updateSessionOpen = false)
    {boot : FakeProg Unit} {done : List Installation}
    (h : Campaign r a ⟨.init, g.seedFreshWith i₀, d⟩ boot done s) :
    boot = .pure () ∧ InService (lastTarget i₀ done) s ∧
      ∀ (k : ℕ) (m : Installation), done[k]? = some m → m.Committed (k + 1) := by
  induction h with
  | bootstrapped hr hp =>
    obtain ⟨hboot, -, hs⟩ := bootstrap_commits hg hclosed hr hp
    exact ⟨hboot, hs, by simp⟩
  | between _ he ih => exact ⟨ih.1, ih.2.1.between he, ih.2.2⟩
  | @installed boot done s s' i tr p _ hrest hr hp ih =>
    obtain ⟨-, hs, hcommit⟩ := installed_commits hpolls ih.2.1 hrest hr hp
    refine ⟨ih.1, ?_, fun k m hm => ?_⟩
    · rw [show lastTarget i₀ (done ++ [⟨i, p, s'⟩]) = ⟨(lastTarget i₀ done).version.next, i⟩ by
        simp [lastTarget, WeightVersion.next]]
      exact hs
    · rw [List.getElem?_append] at hm
      split_ifs at hm with hk
      · exact ih.2.2 k m hm
      · obtain ⟨hlt, rfl⟩ := List.getElem?_eq_some_iff.mp hm
        obtain rfl : k = done.length := by simp at hlt; omega
        simpa [lastTarget, WeightVersion.next] using hcommit

/-- Every list of identities can be installed one after the other. -/
theorem campaign_exists (hpolls : 1 ≤ r.drainPolls) {g : FakeVLLMEngine} {i₀ : WeightIdentity}
    {d : Bool} (hg : FakeVLLMEngine.Unfaulted g) (hclosed : g.updateSessionOpen = false)
    (identities : List WeightIdentity) : ∃ boot done s,
      Campaign r a ⟨.init, g.seedFreshWith i₀, d⟩ boot done s ∧
        done.map Installation.identity = identities ∧ s.AtRest := by
  have htotal : ∀ call s, ∃ reply s', (World.undisturbed fakeAnswers).answers call s reply s' :=
    fun call s => ⟨_, _, fakeAnswer_answers call s⟩
  induction identities using List.reverseRecOn with
  | nil =>
    obtain ⟨tr, p, s, hr, hp⟩ := Run.completes htotal (LifecycleRunner.bootstrap.interp a.handle)
      ⟨.init, g.seedFreshWith i₀, d⟩
    exact ⟨p, [], s, .bootstrapped hr hp, rfl, (bootstrap_commits hg hclosed hr hp).2.1⟩
  | append_singleton identities i ih =>
    obtain ⟨boot, done, s, h, hdone, hrest⟩ := ih
    obtain ⟨tr, p, s', hr, hp⟩ :=
      Run.completes htotal ((r.installNext (some i)).interp a.handle) s
    refine ⟨boot, done ++ [⟨i, p, s'⟩], s', h.installed hrest hr hp, by simp [hdone], ?_⟩
    exact (installed_commits hpolls (h.commits hpolls hg hclosed).2.1 hrest hr hp).1

end Campaigns

/-- **Unfaulted cycles always commit.** Start from a freshly seeded engine with an empty fault
table, a prefix reset that succeeds and no active request; let rollouts and requests come and go
between the calls, none active when a cycle starts. Bootstrap succeeds, the `k`-th `install_next`
commits exactly `rc-k` with the `k`-th identity, and leaves the engine unpaused, serving it, with no
open session and no dirty cache. Any list of identities can be installed so. -/
theorem unfaulted_cycles_commit (r : LifecycleRunner) (hpolls : 1 ≤ r.drainPolls)
    (a : FakeVLLMAdapter) (g : FakeVLLMEngine) (hfaults : g.faults = .empty)
    (hresets : g.prefixResetSucceeds = true) (hidle : g.activeRequests = 0)
    (hclosed : g.updateSessionOpen = false) (i₀ : WeightIdentity) (d : Bool) :
    (∀ boot done s, Campaign r a ⟨.init, g.seedFreshWith i₀, d⟩ boot done s →
      boot = .pure () ∧
        ∀ (k : ℕ) (m : Installation), done[k]? = some m → m.Committed (k + 1)) ∧
    ∀ identities : List WeightIdentity, ∃ boot done s,
      Campaign r a ⟨.init, g.seedFreshWith i₀, d⟩ boot done s ∧
        done.map Installation.identity = identities := by
  have hg : g.Unfaulted := ⟨fun name => by rw [hfaults]; rfl, hresets, hidle⟩
  constructor
  · intro boot done s h
    obtain ⟨hboot, -, hcommit⟩ := h.commits hpolls hg hclosed
    exact ⟨hboot, hcommit⟩
  · intro identities
    obtain ⟨boot, done, s, h, hdone, -⟩ := campaign_exists hpolls hg hclosed identities
    exact ⟨boot, done, s, h, hdone⟩

/-- Two generations after the seeded one, the second of them with the weights of the first. -/
theorem unfaulted_cycles_commit_two : ∃ boot done s,
    Campaign {} {} ⟨.init, FakeVLLMEngine.seedFreshWith {} identityA, false⟩ boot done s ∧
      done.map Installation.identity = [identityB, identityA] ∧ boot = .pure () ∧
      ∀ (k : ℕ) (m : Installation), done[k]? = some m → m.Committed (k + 1) := by
  obtain ⟨hall, hexists⟩ := unfaulted_cycles_commit {} (by decide) {} {} rfl rfl rfl rfl identityA
    false
  obtain ⟨boot, done, s, h, hdone⟩ := hexists [identityB, identityA]
  exact ⟨boot, done, s, h, hdone, hall boot done s h⟩

end RolloutCore
