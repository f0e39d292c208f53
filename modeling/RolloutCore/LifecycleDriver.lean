import RolloutCore.LifecycleJournal

/-!
# Controllers without a weight transfer driver

What a bootstrap without a driver means for the commits after it. The controller keeps nothing of
the driver, so nothing that follows takes the next commit away from it, a taint excepted.
-/

namespace RolloutCore

open LifecycleController

/-- `current_version`. -/
def LifecycleController.currentVersion (c : LifecycleController) : Option WeightVersion :=
  c.currentTarget.map (·.version)

/-! ## Runs to the next commit -/

/-- Some calls from `c` on raise its version. -/
def CanPublish (c : LifecycleController) : Prop :=
  ∃ ops v₀ v, c.currentVersion = some v₀ ∧
    (Runs.run Op.after ops c).currentVersion = some v ∧ v₀ < v

section Publication

variable {c : LifecycleController}

/-- An accepted call that keeps the version leaves it to the calls after it. -/
theorem canPublish_of_ok (op : Op) {r : op.Ret} {c' : LifecycleController} (h : Inv c)
    (hok : op.call.run c = .ok r c') (hcur : c'.currentTarget = c.currentTarget)
    (hnext : Inv c' → CanPublish c') : CanPublish c := by
  have hafter : op.after c = c' := Op.after_of_ok hok
  obtain ⟨ops, v₀, v, hv₀, hv, hlt⟩ := hnext (hafter ▸ inv_after h op)
  refine ⟨op :: ops, v₀, v, ?_, ?_, hlt⟩
  · rw [currentVersion, ← hcur]
    exact hv₀
  · rw [Runs.run_cons, hafter]
    exact hv

theorem canPublish_of_resuming {p : UpdateTarget} (h : Inv c) (hs : c.state = .resuming)
    (hp : c.pendingTarget = some p) : CanPublish c := by
  obtain ⟨t₀, ht₀⟩ := Option.ne_none_iff_exists'.mp (h.committed (by simp [hs]) (by simp [hs]))
  refine ⟨[.confirmResumed (goodResume p)], t₀.version, p.version, ?_, ?_, h.ahead p hp t₀ ht₀⟩
  · rw [currentVersion, ht₀]
    rfl
  · rw [Runs.run_cons, Runs.run_nil, confirmResumed_after hs hp
      (ResumeEvidence.failureReason_eq_none.mpr ⟨rfl, rfl, .inr rfl⟩)]
    rfl

theorem canPublish_of_validating {p : UpdateTarget} (h : Inv c) (hs : c.state = .validating)
    (hp : c.pendingTarget = some p) : CanPublish c := by
  obtain ⟨_, hok⟩ := confirmValidated_apply (e := goodValidate p) hs hp
    (ValidateEvidence.failureReason_eq_none.mpr ⟨rfl, rfl, rfl⟩)
  exact canPublish_of_ok (.confirmValidated _) h hok rfl
    fun h' => canPublish_of_resuming h' rfl hp

theorem canPublish_of_invalidating {p : UpdateTarget} (h : Inv c) (hs : c.state = .invalidating)
    (hp : c.pendingTarget = some p) : CanPublish c := by
  obtain ⟨_, hok⟩ := confirmInvalidated_apply (e := goodInvalidate) hs hp rfl
  exact canPublish_of_ok (.confirmInvalidated _) h hok rfl
    fun h' => canPublish_of_validating h' rfl hp

theorem canPublish_of_updating {p : UpdateTarget} (h : Inv c) (hs : c.state = .updating)
    (hp : c.pendingTarget = some p) : CanPublish c := by
  obtain ⟨_, _, hok⟩ := confirmUpdated_apply (e := goodUpdate p) hs hp
    (UpdateEvidence.failureReason_eq_none.mpr ⟨rfl, rfl, rfl, .inr rfl⟩)
  exact canPublish_of_ok (.confirmUpdated _) h hok rfl
    fun h' => canPublish_of_invalidating h' rfl hp

theorem canPublish_of_quiesced (h : Inv c) (hs : c.state = .quiesced) : CanPublish c := by
  obtain ⟨t₀, ht₀⟩ := Option.ne_none_iff_exists'.mp (h.committed (by simp [hs]) (by simp [hs]))
  have hlt : t₀.version < (⟨t₀.version.next, t₀.identity⟩ : UpdateTarget).version :=
    Nat.lt_succ_self _
  obtain ⟨_, hok⟩ := beginUpdate_apply hs ht₀ hlt
  exact canPublish_of_ok (.beginUpdate _) h hok rfl fun h' => canPublish_of_updating h' rfl rfl

/-- While DRAINING the active rollouts are aborted first, one by one. -/
theorem canPublish_of_draining (n : ℕ) (h : Inv c) (hs : c.state = .draining)
    (hn : c.active.size = n) : CanPublish c := by
  induction n generalizing c with
  | zero =>
    have hnone : c.active.entries = [] := List.length_eq_zero_iff.mp hn
    have hok := confirmDrained_apply (e := goodDrain) hs hnone rfl rfl
    exact canPublish_of_ok (.confirmDrained _) h hok rfl fun h' => canPublish_of_quiesced h' rfl
  | succ n ih =>
    obtain ⟨⟨id, b⟩, hmem⟩ := List.exists_mem_of_length_eq_add_one hn
    have hget := OrderedDict.get?_eq_some.mpr hmem
    have hok : (abortRollout id).run c = .ok b (c.released id b .abortRollout) :=
      releaseRollout_apply (.inr hs) hget
    refine canPublish_of_ok (.abortRollout id) h hok rfl fun h' => ih h' hs ?_
    have hsize := (OrderedDict.values_erase_perm hget).length_eq
    simp only [OrderedDict.size, OrderedDict.values, List.length_map, List.length_cons] at hsize hn
    rw [released_active, OrderedDict.size]
    omega

/-- **Every controller that serves or updates can still publish.** -/
theorem canPublish (h : Inv c) (hu : c.state ≠ .uninitialized) (ht : c.state ≠ .tainted) :
    CanPublish c := by
  have hpending : InFlight c.state → ∃ p, c.pendingTarget = some p := fun hf =>
    Option.ne_none_iff_exists'.mp (h.pending.mpr hf)
  cases hs : c.state with
  | uninitialized => exact absurd hs hu
  | tainted => exact absurd hs ht
  | ready =>
    obtain ⟨t, hcur⟩ := Option.ne_none_iff_exists'.mp (h.ready_committed hs)
    obtain ⟨_, hok⟩ := beginDrain_apply hs hcur
    exact canPublish_of_ok .beginDrain h hok rfl fun h' => canPublish_of_draining _ h' rfl rfl
  | draining => exact canPublish_of_draining _ h hs rfl
  | quiesced => exact canPublish_of_quiesced h hs
  | updating =>
    obtain ⟨p, hp⟩ := hpending (by simp [hs, InFlight])
    exact canPublish_of_updating h hs hp
  | invalidating =>
    obtain ⟨p, hp⟩ := hpending (by simp [hs, InFlight])
    exact canPublish_of_invalidating h hs hp
  | validating =>
    obtain ⟨p, hp⟩ := hpending (by simp [hs, InFlight])
    exact canPublish_of_validating h hs hp
  | resuming =>
    obtain ⟨p, hp⟩ := hpending (by simp [hs, InFlight])
    exact canPublish_of_resuming h hs hp

end Publication

/-! ## After a bootstrap without a driver -/

/-- `initialise` succeeds at `c`, with evidence that names no driver. -/
structure InitialisesDriverless (c : LifecycleController) (e : BootstrapEvidence) : Prop where
  driver : e.weightTransferDriver = none
  succeeds : (Op.initialise e).succeeds c = true

namespace InitialisesDriverless

variable {c : LifecycleController} {e : BootstrapEvidence}

theorem accepted (h : InitialisesDriverless c e) (hi : Inv c) :
    e.failureReason = none ∧ ((Op.initialise e).after c).state = .ready ∧
      ((Op.initialise e).after c).currentVersion = some ⟨INITIAL_VERSION⟩ := by
  obtain ⟨r, c', hc', ha⟩ := Op.accepted_of_succeeds hi h.succeeds
  rw [hc']
  cases ha with
  | initialise _ he => exact ⟨he, rfl, rfl⟩

/-- Such evidence says that the weight transfer of the engine is not initialised. -/
theorem not_initialised (h : InitialisesDriverless c e) (hi : Inv c) :
    e.weightTransferInitialised = false := by
  have he := (h.accepted hi).1
  cases hw : e.weightTransferInitialised with
  | false => rfl
  | true =>
    rw [BootstrapEvidence.failureReason, hw, h.driver] at he
    cases he

end InitialisesDriverless

/-- **A controller without a driver publishes like any other.** After every successful `initialise`
whose evidence names no driver, the evidence reports no initialised weight transfer and the version
is `rc-0`. Calls that raise it exist all the same, and unless something tainted the controller they
exist whatever was called in between. -/
theorem driverless_always_publishes (pre : List Op) (e : BootstrapEvidence)
    (h : InitialisesDriverless (runOps pre) e) :
    e.weightTransferInitialised = false ∧
    (runOps (pre ++ [.initialise e])).currentVersion = some ⟨INITIAL_VERSION⟩ ∧
    (¬ ∀ post, (runOps (pre ++ .initialise e :: post)).currentVersion =
      some ⟨INITIAL_VERSION⟩) ∧
    ∀ post, (runOps (pre ++ .initialise e :: post)).state ≠ .tainted →
      ∃ more v₀ v, (runOps (pre ++ .initialise e :: post)).currentVersion = some v₀ ∧
        (runOps (pre ++ .initialise e :: (post ++ more))).currentVersion = some v ∧ v₀ < v := by
  have hi := inv_runOps pre
  obtain ⟨-, hready, hversion⟩ := h.accepted hi
  have hrun (ops : List Op) : runOps (pre ++ .initialise e :: ops) =
      Runs.run Op.after ops ((Op.initialise e).after (runOps pre)) := by
    rw [runOps, Runs.run_append, Runs.run_cons]
  have hnext : ∀ post, (runOps (pre ++ .initialise e :: post)).state ≠ .tainted →
      ∃ more v₀ v, (runOps (pre ++ .initialise e :: post)).currentVersion = some v₀ ∧
        (runOps (pre ++ .initialise e :: (post ++ more))).currentVersion = some v ∧ v₀ < v := by
    intro post ht
    obtain ⟨hi', hu⟩ := Runs.run_invariant (I := fun c => Inv c ∧ c.state ≠ .uninitialized)
      (fun c op h => ⟨inv_after h.1 op, after_ne_uninitialized h.1 h.2 op⟩) post
      ⟨inv_after hi (.initialise e), by rw [hready]; decide⟩
    rw [← hrun] at hi' hu
    obtain ⟨more, v₀, v, hv₀, hv, hlt⟩ := canPublish hi' hu ht
    refine ⟨more, v₀, v, hv₀, ?_, hlt⟩
    rw [hrun, Runs.run_append, ← hrun]
    exact hv
  refine ⟨h.not_initialised hi, (congrArg currentVersion (hrun [])).trans hversion, fun hall => ?_,
    hnext⟩
  obtain ⟨more, v₀, v, hv₀, hv, hlt⟩ := hnext [] (by rw [hrun, Runs.run_nil, hready]; decide)
  rw [hall] at hv₀ hv
  cases hv₀
  cases hv
  exact Nat.lt_irrefl _ hlt

/-- Evidence of a bootstrap without a driver. -/
def driverlessBootstrap (i : WeightIdentity) : BootstrapEvidence :=
  ⟨"rc-0", false, some "default", i, "none", .null, none⟩

theorem driverless_always_publishes_new :
    InitialisesDriverless (runOps []) (driverlessBootstrap identityA) ∧
    ¬ ∀ post, (runOps (.initialise (driverlessBootstrap identityA) :: post)).currentVersion =
      some ⟨INITIAL_VERSION⟩ :=
  have h : InitialisesDriverless (runOps []) (driverlessBootstrap identityA) := ⟨rfl, by decide⟩
  ⟨h, (driverless_always_publishes [] _ h).2.2.1⟩

/-- After such a bootstrap one cycle publishes `rc-1`. -/
theorem driverless_publishes : ¬ ∀ (pre post : List Op) (e : BootstrapEvidence),
    InitialisesDriverless (runOps pre) e →
      (runOps (pre ++ .initialise e :: post)).currentVersion = some ⟨INITIAL_VERSION⟩ := by
  intro h
  have hkept := h [] (goodCycle ⟨⟨1⟩, identityB⟩) (driverlessBootstrap identityA)
    ⟨rfl, by decide⟩
  have hrun : (runOps ([] ++ .initialise (driverlessBootstrap identityA) ::
      goodCycle ⟨⟨1⟩, identityB⟩)).currentVersion = some ⟨1⟩ := by
    decide +kernel
  rw [hrun] at hkept
  cases hkept

end RolloutCore
