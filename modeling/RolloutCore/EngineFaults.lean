import RolloutCore.FakeProgress

/-!
# The reference engine under faults

What an endpoint answers under a given fault table, and what a controller answers to a call it has
to refuse.
-/

namespace RolloutCore

open LifecycleController CallOutcome

/-! ## Endpoints under faults -/

/-- The name an endpoint is faulted under. -/
def EngineCall.endpoint : EngineCall → String
  | .initWeightTransferEngine => "init_weight_transfer_engine"
  | .getWorldSize => "get_world_size"
  | .getWeightInfo => "get_weight_info"
  | .updateWeightVersion _ => "update_weight_version"
  | .isPaused => "is_paused"
  | .pause _ _ => "pause"
  | .resume => "resume"
  | .startWeightUpdate => "start_weight_update"
  | .updateWeights => "update_weights"
  | .finishWeightUpdate _ => "finish_weight_update"
  | .resetPrefixCache => "reset_prefix_cache"
  | .resetEncoderCache => "reset_encoder_cache"
  | .resetMmCache => "reset_mm_cache"

/-- What no endpoint of a cycle changes. -/
structure EngineSetup where
  faults : OrderedDict String String
  resets : Bool
  active : ℤ

def FakeVLLMEngine.setup (g : FakeVLLMEngine) : EngineSetup :=
  ⟨g.faults, g.prefixResetSucceeds, g.activeRequests⟩

def EngineSetup.faulted (u : EngineSetup) (name : String) : Bool := (u.faults.get? name).isSome

theorem EngineSetup.spared_iff {u : EngineSetup} {name : String} :
    u.faulted name = false ↔ u.faults.get? name = none := by
  simp [faulted]

theorem EngineSetup.faulted_iff {u : EngineSetup} {name : String} :
    u.faulted name = true ↔ ∃ message, u.faults.get? name = some message :=
  Option.isSome_iff_exists

namespace EngineSetup

variable (u : EngineSetup)

/-- An attempt to pause returns. -/
def drains : Bool := !u.faulted "pause" && decide (u.active ≤ 0)

/-- An invalidation raises, or does not reset every cache. -/
def keepsCaches : Bool := !u.resets || u.faulted "reset_prefix_cache" ||
  u.faulted "reset_encoder_cache" || u.faulted "reset_mm_cache"

/-- Label or pause state cannot be read. -/
def hidesState : Bool := u.faulted "get_weight_info" || u.faulted "is_paused"

end EngineSetup

namespace EngineCall

/-- What a spared endpoint needs in order to return. A pause that aborts is not among the calls of
an adapter. -/
def Possible : EngineCall → FakeVLLMEngine → Prop
  | .pause mode _, g => mode = .keep ∨ mode = .wait ∧ ¬ g.activeRequests > 0
  | .startWeightUpdate, g => g.updateSessionOpen = false
  | .updateWeights, g | .finishWeightUpdate _, g => g.updateSessionOpen = true
  | _, _ => True

/-- What it does to the caches. -/
def cachesUnder (resets : Bool) : EngineCall → CacheFlags → CacheFlags
  | .resetPrefixCache, f => if resets then { f with prefixDirty := false } else f
  | call, f => call.cachesAfter f

/-- What it says about the reset of the prefix cache. -/
def Reports (resets : Bool) : (call : EngineCall) → call.Ret → Prop
  | .resetPrefixCache, r => r = resets
  | _, _ => True

end EngineCall

section Endpoints

variable {g g' : FakeVLLMEngine} {call : EngineCall} {α : Type}

theorem call_faulted {name message : String} (h : g.faults.get? name = some message) :
    (FakeVLLMEngine.call name).run g =
      .error (.fakeEngine message) { g with calls := g.calls ++ [name] } := by
  have hlogged : (modify fun g : FakeVLLMEngine => { g with calls := g.calls ++ [name] } :
      Endpoint PUnit).run g = .ok ⟨⟩ { g with calls := g.calls ++ [name] } := rfl
  unfold FakeVLLMEngine.call
  rw [bind_of_ok hlogged, bind_of_ok run_get]
  dsimp only
  rw [h]
  rfl

theorem call_spared {name : String} (h : g.faults.get? name = none) :
    (FakeVLLMEngine.call name).run g = .ok () { g with calls := g.calls ++ [name] } := by
  have hlogged : (modify fun g : FakeVLLMEngine => { g with calls := g.calls ++ [name] } :
      Endpoint PUnit).run g = .ok ⟨⟩ { g with calls := g.calls ++ [name] } := rfl
  unfold FakeVLLMEngine.call
  rw [bind_of_ok hlogged, bind_of_ok run_get]
  dsimp only
  rw [h]
  rfl

/-- A faulted endpoint raises its message and does nothing. -/
theorem endpoint_faulted {message : String} (h : g.faults.get? call.endpoint = some message) :
    call.run.run g =
      .error (.fakeEngine message) { g with calls := g.calls ++ [call.endpoint] } := by
  cases call <;> exact bind_of_error (call_faulted h)

theorem serves_of_spared {x : Endpoint α} {P : α → FakeVLLMEngine → Prop} {name : String}
    (h : g.faults.get? name = none) (hx : Serves x { g with calls := g.calls ++ [name] } P) :
    Serves (FakeVLLMEngine.call name >>= fun _ => x) g P := by
  rw [Serves, bind_of_ok (call_spared h)]
  exact hx

/-- What a spared endpoint leaves. -/
structure EngineCall.Spared (call : EngineCall) (g : FakeVLLMEngine) (r : call.Ret)
    (g' : FakeVLLMEngine) : Prop where
  setup : g'.setup = g.setup
  caches : g'.caches = call.cachesUnder g.prefixResetSucceeds g.caches
  reports : call.Reports g.prefixResetSucceeds r

theorem endpoint_spared (h : g.faults.get? call.endpoint = none) (hk : call.Possible g) :
    Serves call.run g (call.Spared g) := by
  cases call with
  | pause mode clear =>
    refine serves_of_spared h (serves_of_modify ?_)
    obtain rfl | ⟨rfl, hidle⟩ := hk
    · exact ⟨rfl, rfl, trivial⟩
    · rw [if_neg (by decide)]
      refine serves_of_modify (serves_of_get ?_)
      dsimp only
      rw [if_neg (by decide), if_neg fun hw => hidle hw.2]
      cases clear <;> exact ⟨rfl, rfl, trivial⟩
  | startWeightUpdate =>
    refine serves_of_spared h (serves_of_get ?_)
    rw [if_neg (by simp [show g.updateSessionOpen = false from hk])]
    exact ⟨rfl, rfl, trivial⟩
  | updateWeights =>
    refine serves_of_spared h (serves_of_get ?_)
    rw [if_neg (by simp [show g.updateSessionOpen = true from hk])]
    exact ⟨rfl, rfl, trivial⟩
  | finishWeightUpdate v =>
    refine serves_of_spared h (serves_of_get ?_)
    rw [if_neg (by simp [show g.updateSessionOpen = true from hk])]
    exact ⟨rfl, rfl, trivial⟩
  | resetPrefixCache =>
    refine serves_of_spared h (serves_of_get ?_)
    by_cases hresets : g.prefixResetSucceeds = true
    · rw [if_neg (by simp [hresets])]
      refine ⟨rfl, ?_, hresets.symm⟩
      rw [hresets]
      rfl
    · rw [Bool.not_eq_true] at hresets
      rw [if_pos (by simp [hresets])]
      refine ⟨rfl, ?_, hresets.symm⟩
      rw [hresets]
      rfl
  | _ => exact serves_of_spared h ⟨rfl, rfl, trivial⟩

theorem EngineCall.Replies.of_faulted {message : String} {reply : Except PyExc call.Ret}
    (h : call.Replies g reply g') (hm : g.faults.get? call.endpoint = some message) :
    reply = .error (.fakeEngine message) ∧ g'.setup = g.setup ∧ g'.core = g.core ∧
      g'.caches = g.caches := by
  have hrun := endpoint_faulted hm
  cases reply with
  | ok r =>
    rw [show call.run.run g = .ok r g' from h] at hrun
    cases hrun
  | error e =>
    rw [show call.run.run g = .error e g' from h] at hrun
    cases hrun
    exact ⟨rfl, rfl, rfl, rfl⟩

theorem EngineCall.Replies.of_spared {reply : Except PyExc call.Ret} (h : call.Replies g reply g')
    (hm : g.faults.get? call.endpoint = none) (hk : call.Possible g) :
    ∃ r, reply = .ok r ∧ call.Spared g r g' ∧ g'.core = call.coreAfter g.core ∧
      call.Says r g.core := by
  have hs := endpoint_spared hm hk
  cases reply with
  | ok r =>
    rw [Serves, show call.run.run g = .ok r g' from h] at hs
    exact ⟨r, rfl, hs, h.core_of_ok⟩
  | error e =>
    rw [Serves, show call.run.run g = .error e g' from h] at hs
    exact hs.elim

theorem ends_of_modify {u : FakeVLLMEngine → FakeVLLMEngine} {x : Endpoint α}
    {acc : α → FakeVLLMEngine → Prop} {fail : PyExc → FakeVLLMEngine → Prop}
    (h : Ends acc fail (x.run (u g))) : Ends acc fail ((modify u >>= fun _ => x).run g) := h

/-- A pause that has to wait has paused the engine nonetheless. -/
theorem EngineCall.Replies.pause_waits {clear : Bool} {reply : Except PyExc Unit}
    (h : (EngineCall.pause .wait clear).Replies g reply g') (hm : g.faults.get? "pause" = none)
    (hbusy : g.activeRequests > 0) : (∃ message, reply = .error (.fakeEngine message)) ∧
      g'.setup = g.setup ∧ g'.core = { g.core with paused := true } ∧ g'.caches = g.caches := by
  have hrun : Ends (fun _ _ => False) (fun e g' => (∃ message, e = .fakeEngine message) ∧
      g'.setup = g.setup ∧ g'.core = { g.core with paused := true } ∧ g'.caches = g.caches)
      ((FakeVLLMEngine.pause .wait clear).run g) := by
    unfold FakeVLLMEngine.pause
    rw [bind_of_ok (call_spared hm)]
    refine ends_of_modify ?_
    rw [if_neg (by decide)]
    refine ends_of_modify ?_
    rw [bind_of_ok run_get]
    dsimp only
    rw [if_neg (by decide), if_pos ⟨rfl, hbusy⟩]
    exact ⟨⟨_, rfl⟩, rfl, rfl, rfl⟩
  cases reply with
  | ok r =>
    rw [show (FakeVLLMEngine.pause .wait clear).run g = .ok r g' from h] at hrun
    exact hrun.elim
  | error e =>
    rw [show (FakeVLLMEngine.pause .wait clear).run g = .error e g' from h] at hrun
    obtain ⟨⟨message, rfl⟩, hrest⟩ := hrun
    exact ⟨⟨message, rfl⟩, hrest⟩

/-- A session that is open already is refused. -/
theorem EngineCall.Replies.start_refused {reply : Except PyExc Unit}
    (h : EngineCall.startWeightUpdate.Replies g reply g')
    (hm : g.faults.get? "start_weight_update" = none) (ho : g.updateSessionOpen = true) :
    (∃ message, reply = .error (.fakeEngine message)) ∧ g'.setup = g.setup ∧ g'.core = g.core ∧
      g'.caches = g.caches := by
  have hrun : FakeVLLMEngine.startWeightUpdate.run g = .error
      (.fakeEngine "start_weight_update while a session is already open")
      { g with calls := g.calls ++ ["start_weight_update"] } := by
    unfold FakeVLLMEngine.startWeightUpdate
    rw [bind_of_ok (call_spared hm), bind_of_ok run_get]
    dsimp only
    rw [if_pos ho]
    rfl
  cases reply with
  | ok r =>
    rw [show FakeVLLMEngine.startWeightUpdate.run g = .ok r g' from h] at hrun
    cases hrun
  | error e =>
    rw [show FakeVLLMEngine.startWeightUpdate.run g = .error e g' from h] at hrun
    cases hrun
    exact ⟨⟨_, rfl⟩, rfl, rfl, rfl⟩

end Endpoints

/-! ## Refusals of the controller -/

section Refusals

variable {c : LifecycleController} {α : Type}

/-- The call taints and raises the error of the taint. -/
def EndsInTaint (x : Ctl α) (c : LifecycleController) : Prop :=
  ∃ e reason, x.run c = .error e (c.taintedWith reason) ∧ e.isTaint = true

theorem raiseTaint_taints (h : c.state ≠ .tainted) {reason : String}
    {error : Option RolloutCoreError} (he : ∀ e ∈ error, e.isEngineTainted = true) :
    EndsInTaint (raiseTaint reason error : Ctl α) c := by
  refine ⟨.core (error.getD (.engineTainted c.state reason)), reason, ?_, ?_⟩
  · unfold raiseTaint
    rw [bind_of_ok (taintWith_apply h reason error)]
    rfl
  · cases error with
    | none => rfl
    | some e => exact he e rfl

/-- Up to the tainting statement nothing has changed. -/
theorem EndsInTaint.bind {β : Type} {x : Ctl β} {f : β → Ctl α} (h : EndsInTaint x c) :
    EndsInTaint (x >>= f) c := by
  obtain ⟨e, reason, hrun, he⟩ := h
  exact ⟨e, reason, bind_of_error hrun, he⟩

theorem checkEvidence_taints (h : c.state ≠ .tainted) {failureReason : Option String}
    (he : failureReason ≠ none) : EndsInTaint (checkEvidence failureReason) c := by
  cases failureReason with
  | none => exact absurd rfl he
  | some reason => exact raiseTaint_taints h (by simp)

theorem confirmDrained_waits {e : DrainEvidence} (hs : c.state = .draining)
    (hd : e.engineDrainCompleted = false) : ∃ detail, (confirmDrained e).run c =
      .error (.core (.evidenceNotReady "I5-DRAIN" detail)) c := by
  have hedge : edge .confirmDrained = some (c.state, .quiesced) := by rw [hs]; rfl
  unfold confirmDrained
  rw [bind_of_ok (requireLegal_apply hedge), bind_of_ok run_get, hd]
  exact ⟨_, rfl⟩

theorem confirmDrained_taints {e : DrainEvidence} (hs : c.state = .draining)
    (hd : e.engineDrainCompleted = true)
    (h : c.active.entries ≠ [] ∨ e.failureReason ≠ none) : EndsInTaint (confirmDrained e) c := by
  have hedge : edge .confirmDrained = some (c.state, .quiesced) := by rw [hs]; rfl
  have ht := ne_tainted hs (by decide)
  unfold EndsInTaint confirmDrained
  rw [bind_of_ok (requireLegal_apply hedge), bind_of_ok run_get, hd,
    bind_of_ok (show (raiseIf (!true) _).run c = .ok () c from rfl)]
  dsimp only
  by_cases ha : c.active.entries = []
  · rw [decide_eq_false (not_not.mpr ha),
      bind_of_ok (show (taintIf false _ _).run c = .ok () c from rfl)]
    exact (checkEvidence_taints ht (h.resolve_left (not_not.mpr ha))).bind
  · rw [decide_eq_true ha]
    exact (raiseTaint_taints ht (by simp [RolloutCoreError.isEngineTainted])).bind

theorem beginUpdate_refused {t t₀ : UpdateTarget} (hs : c.state = .quiesced)
    (ht : c.currentTarget = some t₀) (hlt : ¬ t₀.version < t.version) :
    ∃ detail, (beginUpdate t).run c =
      .error (.core (.invariantViolation "I1-MONOTONIC" detail)) c := by
  have hedge : edge .beginUpdate = some (c.state, .updating) := by rw [hs]; rfl
  unfold beginUpdate
  rw [bind_of_ok (requireLegal_apply hedge), bind_of_ok run_get, ht,
    bind_of_ok (show (require (some t₀).isSome _ _).run c = .ok () c from rfl),
    bind_of_ok (show (assertSome (some t₀)).run c = .ok t₀ c from rfl), decide_eq_false hlt]
  exact ⟨_, rfl⟩

theorem confirmUpdated_taints {e : UpdateEvidence} (hs : c.state = .updating)
    (hp : c.pendingTarget = some e.target) (he : e.failureReason ≠ none) :
    EndsInTaint (confirmUpdated e) c := by
  have hedge : edge .confirmUpdated = some (c.state, .invalidating) := by rw [hs]; rfl
  unfold EndsInTaint confirmUpdated
  rw [bind_of_ok (requireLegal_apply hedge), bind_of_ok run_get, hp,
    bind_of_ok (show (require (some e.target).isSome _ _).run c = .ok () c from rfl),
    bind_of_ok (show (assertSome (some e.target)).run c = .ok e.target c from rfl),
    decide_eq_false (not_not.mpr rfl),
    bind_of_ok (show (taintIf false _ none).run c = .ok () c from rfl)]
  exact (checkEvidence_taints (ne_tainted hs (by decide)) he).bind

theorem confirmInvalidated_taints {e : InvalidateEvidence} {p : UpdateTarget}
    (hs : c.state = .invalidating) (hp : c.pendingTarget = some p) (he : e.failureReason ≠ none) :
    EndsInTaint (confirmInvalidated e) c := by
  have hedge : edge .confirmInvalidated = some (c.state, .validating) := by rw [hs]; rfl
  unfold EndsInTaint confirmInvalidated
  rw [bind_of_ok (requireLegal_apply hedge), bind_of_ok run_get, hp,
    bind_of_ok (show (require (some p).isSome _ _).run c = .ok () c from rfl),
    bind_of_ok (show (assertSome (some p)).run c = .ok p c from rfl)]
  exact (checkEvidence_taints (ne_tainted hs (by decide)) he).bind

theorem confirmResumed_taints {e : ResumeEvidence} (hs : c.state = .resuming)
    (hp : c.pendingTarget = some e.target) (he : e.failureReason ≠ none) :
    EndsInTaint (confirmResumed e) c := by
  have hedge : edge .confirmResumed = some (c.state, .ready) := by rw [hs]; rfl
  have ht := ne_tainted hs (by decide)
  obtain ⟨reason, hreason⟩ := Option.ne_none_iff_exists'.mp he
  unfold EndsInTaint confirmResumed
  rw [bind_of_ok (requireLegal_apply hedge), bind_of_ok run_get, hp,
    bind_of_ok (show (require (some e.target).isSome _ _).run c = .ok () c from rfl),
    bind_of_ok (show (assertSome (some e.target)).run c = .ok e.target c from rfl),
    decide_eq_false (not_not.mpr rfl),
    bind_of_ok (show (taintIf false _ none).run c = .ok () c from rfl), hreason]
  cases e.observedEngineLabel with
  | none => exact raiseTaint_taints ht (by simp)
  | some label =>
    dsimp only
    split_ifs
    · exact raiseTaint_taints ht (by simp [RolloutCoreError.isEngineTainted])
    · exact raiseTaint_taints ht (by simp)

end Refusals

end RolloutCore
