import RolloutCore.EngineFaults
import RolloutCore.Lib.Termination

/-!
# The adapter methods under faults

Each method of the reference adapter from a given spot of a cycle: what it returns or raises, and
where it leaves the system.
-/

namespace RolloutCore

open LifecycleController CallOutcome

/-! ## Spots -/

/-- Where the system stands in the course of a cycle; the rest is as at its start. -/
structure Spot where
  state : LifecycleState
  current : Option UpdateTarget
  pending : Option UpdateTarget
  core : EngineCore
  caches : CacheFlags
  drained : Bool

section Spots

variable (s₀ : FakeSystem)

structure Spot.Controls (x : Spot) (c : LifecycleController) : Prop where
  state : c.state = x.state
  current : c.currentTarget = x.current
  pending : c.pendingTarget = x.pending
  active : c.active = s₀.controller.active

structure Spot.Serves (x : Spot) (g : FakeVLLMEngine) : Prop where
  setup : g.setup = s₀.engine.setup
  core : g.core = x.core
  caches : g.caches = x.caches

structure Spot.Holds (x : Spot) (s : FakeSystem) : Prop where
  controller : x.Controls s₀ s.controller
  engine : x.Serves s₀ s.engine
  drained : s.drainCompleted = x.drained

def Spot.withCore (x : Spot) (k : EngineCore) : Spot := { x with core := k }

def Spot.withDrained (x : Spot) (b : Bool) : Spot := { x with drained := b }

/-- After a transition. -/
def Spot.moved (x : Spot) (state : LifecycleState) (pending : Option UpdateTarget) : Spot :=
  { x with state, pending }

/-- After an endpoint that is spared. -/
def Spot.after (x : Spot) (call : EngineCall) : Spot :=
  { x with
    core := call.coreAfter x.core
    caches := call.cachesUnder s₀.engine.prefixResetSucceeds x.caches }

variable {α β : Type} {x y : Spot}

/-- From `x` the program returns as `Q` allows or raises as `E` allows. -/
def Leads (x : Spot) (p : FakeProg α) (Q : α → FakeSystem → Prop) (E : PyExc → FakeSystem → Prop) :
    Prop :=
  ∀ s, x.Holds s₀ s → p.Settles fakeAnswers Q E s

/-- From `x` it returns to `y`. -/
abbrev Goes (x : Spot) (p : FakeProg α) (y : Spot) (P : α → Prop) : Prop :=
  Leads s₀ x p (fun a s => y.Holds s₀ s ∧ P a) fun _ _ => False

/-- From `x` it raises. -/
abbrev Stops (x : Spot) (p : FakeProg α) (E : PyExc → FakeSystem → Prop) : Prop :=
  Leads s₀ x p (fun _ _ => False) E

variable {s₀ : FakeSystem} {p : FakeProg α} {P : α → Prop} {f : α → FakeProg β}
  {Q : β → FakeSystem → Prop} {E : PyExc → FakeSystem → Prop}

theorem Goes.andThen (hp : Goes s₀ x p y P) (hf : ∀ a, P a → Leads s₀ y (f a) Q E) :
    Leads s₀ x (p >>= f) Q E := fun s hs =>
  ((hp s hs).mono (fun _ _ h => h) fun _ _ h => h.elim).bind fun a s' h => hf a h.2 s' h.1

theorem Stops.early (hp : Stops s₀ x p E) : Leads s₀ x (p >>= f) Q E := fun s hs =>
  Prog.Settles.bind (hp s hs) fun _ _ h => h.elim

theorem goes_pure {a : α} (h : P a) : Goes s₀ x (pure a : FakeProg α) x P := fun _ hs => ⟨hs, h⟩

theorem stops_throw {e : PyExc} (h : ∀ s, x.Holds s₀ s → E e s) :
    Stops s₀ x (.throw e : FakeProg α) E := h

theorem goes_attributes : Goes s₀ x FakeVLLMAdapter.attributes x (x.Serves s₀) := by
  rintro s hs g s' ⟨rfl, rfl⟩
  exact ⟨hs, hs.engine⟩

theorem goes_setWeightIdentity (i : WeightIdentity) : Goes s₀ x
    (FakeVLLMAdapter.setWeightIdentity i) (x.withCore { x.core with identity := some i })
    fun _ => True := by
  rintro s hs _ s' rfl
  obtain ⟨hc, ⟨hsetup, hcore, hcaches⟩, hd⟩ := hs
  have hcore' := congrArg (fun k : EngineCore => { k with identity := some i }) hcore
  exact ⟨⟨⟨hc.1, hc.2, hc.3, hc.4⟩, ⟨hsetup, hcore', hcaches⟩, hd⟩, trivial⟩

theorem goes_drainCompleted : Goes s₀ x FakeVLLMAdapter.drainCompleted x (· = x.drained) := by
  rintro s hs b s' ⟨rfl, rfl⟩
  exact ⟨hs, hs.drained⟩

theorem goes_setDrainCompleted (b : Bool) :
    Goes s₀ x (FakeVLLMAdapter.setDrainCompleted b) (x.withDrained b) fun _ => True := by
  rintro s ⟨⟨h₁, h₂, h₃, h₄⟩, ⟨h₅, h₆, h₇⟩, -⟩ _ s' rfl
  exact ⟨⟨⟨h₁, h₂, h₃, h₄⟩, ⟨h₅, h₆, h₇⟩, rfl⟩, trivial⟩

/-! ### Endpoints -/

theorem faults_of_setup {g : FakeVLLMEngine} (h : g.setup = s₀.engine.setup) (name : String) :
    g.faults.get? name = s₀.engine.faults.get? name :=
  congrArg (fun u : EngineSetup => u.faults.get? name) h

/-- An endpoint that is spared answers, as a value. -/
theorem goes_tryEngine (call : EngineCall) (hm : s₀.engine.setup.faulted call.endpoint = false)
    (hk : ∀ g, x.Serves s₀ g → call.Possible g) :
    Goes s₀ x (FakeVLLMAdapter.tryEngine call) (x.after s₀ call) fun reply =>
      ∃ r, reply = .ok r ∧ call.Says r x.core ∧ call.Reports s₀.engine.prefixResetSucceeds r := by
  rintro s hs reply s' ⟨g', hr, rfl⟩
  obtain ⟨hsetup, hcore, hcaches⟩ := hs.engine
  have hnone : s.engine.faults.get? call.endpoint = none :=
    (faults_of_setup hsetup _).trans (EngineSetup.spared_iff.mp hm)
  obtain ⟨r, rfl, hspared, hcore', hsays⟩ := hr.of_spared hnone (hk _ hs.engine)
  have hresets : s.engine.prefixResetSucceeds = s₀.engine.prefixResetSucceeds :=
    congrArg EngineSetup.resets hsetup
  have hcaches' := hspared.caches
  have hreports := hspared.reports
  rw [hresets] at hcaches' hreports
  rw [hcore] at hcore' hsays
  rw [hcaches] at hcaches'
  obtain ⟨h₁, h₂, h₃, h₄⟩ := hs.controller
  exact ⟨⟨⟨h₁, h₂, h₃, h₄⟩, ⟨hspared.setup.trans hsetup, hcore', hcaches'⟩, hs.drained⟩, r, rfl,
    hsays, hreports⟩

/-- The same, where its exceptions would propagate. -/
theorem goes_engine (call : EngineCall) (hm : s₀.engine.setup.faulted call.endpoint = false)
    (hk : ∀ g, x.Serves s₀ g → call.Possible g) :
    Goes s₀ x (FakeVLLMAdapter.engine call) (x.after s₀ call) fun r =>
      call.Says r x.core ∧ call.Reports s₀.engine.prefixResetSucceeds r := by
  refine (goes_tryEngine call hm hk).andThen ?_
  rintro _ ⟨r, rfl, hr⟩
  exact goes_pure hr

/-- An endpoint that is faulted raises its message, as a value. -/
theorem faulted_tryEngine (call : EngineCall) {message : String}
    (hm : s₀.engine.faults.get? call.endpoint = some message) :
    Goes s₀ x (FakeVLLMAdapter.tryEngine call) x (· = .error (.fakeEngine message)) := by
  rintro s hs reply s' ⟨g', hr, rfl⟩
  obtain ⟨hsetup, hcore, hcaches⟩ := hs.engine
  obtain ⟨rfl, hsetup', hcore', hcaches'⟩ :=
    hr.of_faulted ((faults_of_setup hsetup call.endpoint).trans hm)
  exact ⟨⟨hs.controller, ⟨hsetup'.trans hsetup, hcore'.trans hcore, hcaches'.trans hcaches⟩,
    hs.drained⟩, rfl⟩

theorem faulted_engine (call : EngineCall) {message : String}
    (hm : s₀.engine.faults.get? call.endpoint = some message) :
    Stops s₀ x (FakeVLLMAdapter.engine call) fun e s =>
      x.Holds s₀ s ∧ e = .fakeEngine message := by
  refine (faulted_tryEngine call hm).andThen ?_
  rintro _ rfl
  exact stops_throw fun s hs => ⟨hs, rfl⟩

/-- A session that is open already breaks the start like a fault. -/
theorem refused_start (hm : s₀.engine.setup.faulted "start_weight_update" = false)
    (ho : x.core.sessionOpen = true) :
    Stops s₀ x (FakeVLLMAdapter.engine .startWeightUpdate) fun e s =>
      x.Holds s₀ s ∧ ∃ message, e = .fakeEngine message := by
  have htry : Goes s₀ x (FakeVLLMAdapter.tryEngine .startWeightUpdate) x
      fun reply => ∃ message, reply = .error (.fakeEngine message) := by
    rintro s hs reply s' ⟨g', hr, rfl⟩
    obtain ⟨hsetup, hcore, hcaches⟩ := hs.engine
    have hopen : s.engine.updateSessionOpen = true :=
      (congrArg EngineCore.sessionOpen hcore).trans ho
    obtain ⟨hreply, hsetup', hcore', hcaches'⟩ := hr.start_refused
      ((faults_of_setup hsetup _).trans (EngineSetup.spared_iff.mp hm)) hopen
    exact ⟨⟨hs.controller, ⟨hsetup'.trans hsetup, hcore'.trans hcore, hcaches'.trans hcaches⟩,
      hs.drained⟩, hreply⟩
  refine htry.andThen ?_
  rintro _ ⟨message, rfl⟩
  exact stops_throw fun s hs => ⟨hs, message, rfl⟩

end Spots

/-! ## The adapter methods -/

section Methods

open FakeVLLMAdapter

variable {s₀ : FakeSystem} {x y : Spot}

/-- The engine is paused by an attempt, and the attempt returns. -/
def Spot.paused (s₀ : FakeSystem) (x : Spot) : Spot :=
  { x with
    core := { x.core with paused := x.core.paused || !s₀.engine.setup.faulted "pause" }
    drained := x.drained || s₀.engine.setup.drains }

/-- **One attempt to pause**, whatever becomes of it. -/
theorem tryPause_goes : Goes s₀ x tryPause (x.paused s₀)
    (· = s₀.engine.setup.drains) := by
  unfold tryPause
  cases hm : s₀.engine.setup.faulted "pause" with
  | true =>
    obtain ⟨message, hm'⟩ := EngineSetup.faulted_iff.mp hm
    have hdrains : s₀.engine.setup.drains = false := by simp [EngineSetup.drains, hm]
    have hx : x.paused s₀ = x := by simp [Spot.paused, hm, hdrains]
    rw [hx]
    refine Goes.andThen (faulted_tryEngine (.pause .wait false) hm') ?_
    rintro _ rfl
    exact goes_pure hdrains.symm
  | false =>
    by_cases hbusy : s₀.engine.activeRequests > 0
    · have hactive : ¬ s₀.engine.setup.active ≤ 0 := not_le.mpr hbusy
      have hdrains : s₀.engine.setup.drains = false := by simp [EngineSetup.drains, hactive]
      have htry : Goes s₀ x (tryEngine (.pause .wait false)) (x.paused s₀)
          fun reply => ∃ message, reply = .error (.fakeEngine message) := by
        rintro s hs reply s' ⟨g', hr, rfl⟩
        obtain ⟨hsetup, hcore, hcaches⟩ := hs.engine
        have hsame : s.engine.activeRequests = s₀.engine.activeRequests :=
          congrArg EngineSetup.active hsetup
        obtain ⟨hreply, hsetup', hcore', hcaches'⟩ := hr.pause_waits
          ((faults_of_setup hsetup _).trans (EngineSetup.spared_iff.mp hm)) (hsame ▸ hbusy)
        rw [hcore] at hcore'
        obtain ⟨h₁, h₂, h₃, h₄⟩ := hs.controller
        refine ⟨⟨⟨h₁, h₂, h₃, h₄⟩, ⟨hsetup'.trans hsetup, ?_, hcaches'.trans hcaches⟩, ?_⟩, hreply⟩
        · simp [Spot.paused, hm, hcore']
        · simp [Spot.paused, hdrains, hs.drained]
      refine htry.andThen ?_
      rintro _ ⟨message, rfl⟩
      exact goes_pure hdrains.symm
    · have hactive : s₀.engine.setup.active ≤ 0 := not_lt.mp hbusy
      have hdrains : s₀.engine.setup.drains = true := by simp [EngineSetup.drains, hm, hactive]
      refine Goes.andThen (goes_tryEngine (.pause .wait false) hm fun g hg => .inr ⟨rfl, ?_⟩)
        ?_
      · rwa [show g.activeRequests = _ from congrArg EngineSetup.active hg.setup]
      · rintro _ ⟨r, rfl, -⟩
        have hx : (x.after s₀ (.pause .wait false)).withDrained true = x.paused s₀ := by
          simp [Spot.paused, Spot.after, Spot.withDrained, EngineCall.coreAfter,
            EngineCall.cachesUnder, EngineCall.cachesAfter, hm, hdrains]
        rw [← hx]
        exact (goes_setDrainCompleted true).andThen fun _ _ => goes_pure hdrains.symm

theorem beginDrain_goes : Goes s₀ x FakeVLLMAdapter.beginDrain ((x.withDrained false).paused s₀)
    fun _ => True :=
  (goes_setDrainCompleted false).andThen fun _ _ =>
    tryPause_goes.andThen fun _ _ => goes_pure trivial

/-- After an attempt a poll reports whether it returned. -/
theorem awaitDrain_goes (hx : (x.withDrained false).paused s₀ = x) :
    Goes s₀ x awaitDrain x fun e =>
      e.engineDrainCompleted = s₀.engine.setup.drains ∧
      e.engineActiveRequests = some s₀.engine.activeRequests := by
  have hpaused : x.paused s₀ = x := by
    rw [← hx]
    simp [Spot.paused, Spot.withDrained]
  have hdrained : x.drained = s₀.engine.setup.drains :=
    (congrArg Spot.drained hx).symm
  have hreport : ∀ completed : Bool, completed = s₀.engine.setup.drains →
      Goes s₀ x (attributes >>= fun g =>
        if completed = true then pure ⟨true, some g.activeRequests, "pause(wait) returned"⟩
        else pure ⟨false, some g.activeRequests, "drain still in flight"⟩) x
        fun e : DrainEvidence => e.engineDrainCompleted = s₀.engine.setup.drains ∧
          e.engineActiveRequests = some s₀.engine.activeRequests := by
    refine fun completed hc => goes_attributes.andThen fun g hg => ?_
    rw [show g.activeRequests = _ from congrArg EngineSetup.active hg.setup]
    cases completed with
    | true => exact goes_pure ⟨hc, rfl⟩
    | false => exact goes_pure ⟨hc, rfl⟩
  unfold awaitDrain
  refine goes_drainCompleted.andThen fun b hb => ?_
  cases b with
  | true => exact hreport true (hb.trans hdrained)
  | false =>
    have htry : Goes s₀ x tryPause (x.paused s₀) (· = s₀.engine.setup.drains) := tryPause_goes
    rw [hpaused] at htry
    exact htry.andThen hreport

theorem transfer_goes (hm : s₀.engine.setup.faulted "update_weights" = false)
    (ho : x.core.sessionOpen = true) (left chunks : ℕ) :
    Goes s₀ x (transfer left chunks) x (·.1 = true) := by
  induction left generalizing chunks with
  | zero => exact goes_pure rfl
  | succ left ih =>
    refine Goes.andThen (goes_tryEngine .updateWeights hm fun g hg => ?_) ?_
    · exact (congrArg EngineCore.sessionOpen hg.core).trans ho
    rintro _ ⟨r, rfl, -⟩
    exact ih _

/-- The first chunk of a faulted transfer breaks it. -/
theorem transfer_breaks (hm : s₀.engine.setup.faulted "update_weights" = true) {left : ℕ}
    (hleft : 0 < left) (chunks : ℕ) : Goes s₀ x (transfer left chunks) x (·.1 = false) := by
  obtain ⟨message, hm'⟩ := EngineSetup.faulted_iff.mp hm
  obtain ⟨left, rfl⟩ : ∃ n, left = n + 1 := ⟨left - 1, by omega⟩
  refine Goes.andThen (faulted_tryEngine .updateWeights hm') ?_
  rintro _ rfl
  exact goes_pure rfl

section Complete

variable {a : FakeVLLMAdapter} {t : UpdateTarget}

theorem completeWeightUpdate_breaks (hm : s₀.engine.setup.faulted "update_weights" = true)
    (hchunks : 0 < a.chunks) : Goes s₀ x (a.completeWeightUpdate t) x
      fun e => e.target = t ∧ e.failureReason ≠ none := by
  unfold completeWeightUpdate
  refine (transfer_breaks hm (by omega) 0).andThen ?_
  rintro ⟨_, chunks⟩ rfl
  exact goes_pure ⟨rfl, by simp [UpdateEvidence.failureReason]⟩

/-- The chunks get through: none is faulted, or there is none. -/
theorem transfer_completes
    (h : (decide (0 < a.chunks) && s₀.engine.setup.faulted "update_weights") = false)
    (ho : x.core.sessionOpen = true) : Goes s₀ x (transfer a.chunks.toNat 0) x (·.1 = true) := by
  by_cases hchunks : 0 < a.chunks
  · exact transfer_goes (by simpa [hchunks] using h) ho _ _
  · rw [Int.toNat_of_nonpos (not_lt.mp hchunks)]
    exact goes_pure rfl

theorem finish_breaks
    (h : (decide (0 < a.chunks) && s₀.engine.setup.faulted "update_weights") = false)
    (hm : s₀.engine.setup.faulted "finish_weight_update" = true)
    (ho : x.core.sessionOpen = true) : Goes s₀ x (a.completeWeightUpdate t)
      (x.withCore { x.core with identity := some t.identity })
      fun e => e.target = t ∧ e.failureReason ≠ none := by
  obtain ⟨message, hm'⟩ := EngineSetup.faulted_iff.mp hm
  unfold completeWeightUpdate
  refine (transfer_completes h ho).andThen ?_
  rintro ⟨_, chunks⟩ rfl
  refine (goes_setWeightIdentity t.identity).andThen fun _ _ => ?_
  refine Goes.andThen (faulted_tryEngine (.finishWeightUpdate (some t.label)) hm') ?_
  rintro _ rfl
  refine goes_attributes.andThen fun g hg => goes_pure ⟨rfl, ?_⟩
  simp [UpdateEvidence.failureReason]

theorem completeWeightUpdate_goes
    (h : (decide (0 < a.chunks) && s₀.engine.setup.faulted "update_weights") = false)
    (hm : s₀.engine.setup.faulted "finish_weight_update" = false)
    (ho : x.core.sessionOpen = true) : Goes s₀ x (a.completeWeightUpdate t)
      (x.withCore ⟨t.label, some t.identity, x.core.paused, false⟩)
      fun e => e.target = t ∧ e.failureReason = none := by
  unfold completeWeightUpdate
  refine (transfer_completes h ho).andThen ?_
  rintro ⟨_, chunks⟩ rfl
  refine (goes_setWeightIdentity t.identity).andThen fun _ _ => ?_
  refine Goes.andThen (goes_tryEngine (.finishWeightUpdate (some t.label)) hm
    fun g hg => ?_) ?_
  · exact (congrArg EngineCore.sessionOpen hg.core).trans ho
  rintro _ ⟨r, rfl, -⟩
  have hafter : (x.withCore { x.core with identity := some t.identity }).after s₀
      (.finishWeightUpdate (some t.label)) =
        x.withCore ⟨t.label, some t.identity, x.core.paused, false⟩ := by
    simp [Spot.after, Spot.withCore, EngineCall.coreAfter, EngineCall.cachesUnder,
      EngineCall.cachesAfter, strOr_label]
  rw [hafter]
  refine goes_attributes.andThen fun g hg => goes_pure ⟨rfl, ?_⟩
  exact UpdateEvidence.failureReason_eq_none.mpr
    ⟨rfl, rfl, rfl, .inr (congrArg EngineCore.identity hg.core)⟩

end Complete

def Spot.withCaches (x : Spot) (f : CacheFlags) : Spot := { x with caches := f }

/-- A method raised an exception of the engine and changed no more than the caches. -/
def EngineRaises (s₀ : FakeSystem) (x : Spot) (e : PyExc) (s : FakeSystem) : Prop :=
  (∃ f, (x.withCaches f).Holds s₀ s) ∧ ∃ message, e = .fakeEngine message

theorem faulted_raises (call : EngineCall) (hm : s₀.engine.setup.faulted call.endpoint = true)
    (f : CacheFlags) : Stops s₀ (x.withCaches f) (engine call) (EngineRaises s₀ x) := by
  obtain ⟨message, hm'⟩ := EngineSetup.faulted_iff.mp hm
  intro s hs
  exact (faulted_engine call hm' s hs).mono (fun _ _ h => h) fun _ _ h => ⟨⟨f, h.1⟩, message, h.2⟩

/-- **Invalidation**: a fault raises, and a reset that is refused shows in the evidence. -/
theorem invalidateCaches_breaks (h : s₀.engine.setup.keepsCaches = true) :
    Leads s₀ x FakeVLLMAdapter.invalidateCaches
      (fun e s => (∃ f, (x.withCaches f).Holds s₀ s) ∧ e.failureReason ≠ none)
      (EngineRaises s₀ x) := by
  unfold FakeVLLMAdapter.invalidateCaches
  cases h₁ : s₀.engine.setup.faulted "reset_prefix_cache" with
  | true => exact (faulted_raises .resetPrefixCache h₁ x.caches).early
  | false =>
    refine Goes.andThen (goes_engine .resetPrefixCache h₁ fun _ _ => trivial)
      fun prefixOk hprefixOk => ?_
    cases h₂ : s₀.engine.setup.faulted "reset_encoder_cache" with
    | true => exact (faulted_raises .resetEncoderCache h₂ _).early
    | false =>
      refine Goes.andThen (goes_engine .resetEncoderCache h₂ fun _ _ => trivial)
        fun _ _ => ?_
      cases h₃ : s₀.engine.setup.faulted "reset_mm_cache" with
      | true => exact (faulted_raises .resetMmCache h₃ _).early
      | false =>
        have hrefused : s₀.engine.setup.resets = false := by
          unfold EngineSetup.keepsCaches at h
          rw [h₁, h₂, h₃] at h
          simpa using h
        refine Goes.andThen (goes_engine .resetMmCache h₃ fun _ _ => trivial)
          fun _ _ => goes_attributes.andThen fun g _ => goes_attributes.andThen fun g' _ => ?_
        refine fun s hs => ⟨⟨_, hs⟩, fun hnone => ?_⟩
        have hreset := (InvalidateEvidence.failureReason_eq_none.mp hnone).1
        rw [show prefixOk = s₀.engine.setup.resets from hprefixOk.2, hrefused] at hreset
        cases hreset

theorem invalidateCaches_goes (h : s₀.engine.setup.keepsCaches = false) :
    Goes s₀ x FakeVLLMAdapter.invalidateCaches (x.withCaches ⟨false, false, false⟩)
      fun e => e.failureReason = none := by
  obtain ⟨⟨⟨hsucceeds, h₁⟩, h₂⟩, h₃⟩ : ((s₀.engine.setup.resets = true ∧
      s₀.engine.setup.faulted "reset_prefix_cache" = false) ∧
      s₀.engine.setup.faulted "reset_encoder_cache" = false) ∧
      s₀.engine.setup.faulted "reset_mm_cache" = false := by
    simpa [EngineSetup.keepsCaches] using h
  have hresets : s₀.engine.prefixResetSucceeds = true := hsucceeds
  unfold FakeVLLMAdapter.invalidateCaches
  refine Goes.andThen (goes_engine .resetPrefixCache h₁ fun _ _ => trivial)
    fun prefixOk hprefixOk => ?_
  refine Goes.andThen (goes_engine .resetEncoderCache h₂ fun _ _ => trivial) fun _ _ => ?_
  refine Goes.andThen (goes_engine .resetMmCache h₃ fun _ _ => trivial) fun _ _ => ?_
  have hafter : ((x.after s₀ .resetPrefixCache).after s₀ .resetEncoderCache).after s₀
      .resetMmCache = x.withCaches ⟨false, false, false⟩ := by
    simp [Spot.after, Spot.withCaches, EngineCall.coreAfter, EngineCall.cachesUnder,
      EngineCall.cachesAfter, hresets]
  rw [hafter]
  refine goes_attributes.andThen fun g hg => goes_attributes.andThen fun g' hg' => goes_pure ?_
  refine InvalidateEvidence.failureReason_eq_none.mpr ⟨hprefixOk.2.trans hresets, ?_, ?_⟩
  · rw [show g.encoderCacheDirty = false from congrArg CacheFlags.encoderDirty hg.caches]
    rfl
  · rw [show g'.mmCacheDirty = false from congrArg CacheFlags.mmDirty hg'.caches]
    rfl

/-- **Validation** only reads: a fault raises its message. -/
theorem validatePreResume_breaks {t : UpdateTarget}
    (h : s₀.engine.setup.hidesState = true) :
    Stops s₀ x (validatePreResume t) fun e s => x.Holds s₀ s ∧
      ∃ name ∈ ["get_weight_info", "is_paused"], ∃ message,
        s₀.engine.faults.get? name = some message ∧ e = .fakeEngine message := by
  unfold validatePreResume
  cases h₁ : s₀.engine.setup.faulted "get_weight_info" with
  | true =>
    obtain ⟨message, hm⟩ := EngineSetup.faulted_iff.mp h₁
    refine Stops.early fun s hs => ?_
    exact (faulted_engine .getWeightInfo hm s hs).mono (fun _ _ h => h)
      fun _ _ he => ⟨he.1, _, by simp, message, hm, he.2⟩
  | false =>
    rw [EngineSetup.hidesState, h₁, Bool.false_or] at h
    obtain ⟨message, hm⟩ := EngineSetup.faulted_iff.mp h
    refine Goes.andThen (goes_engine .getWeightInfo h₁ fun _ _ => trivial) fun _ _ => ?_
    refine Stops.early fun s hs => ?_
    exact (faulted_engine .isPaused hm s hs).mono (fun _ _ h => h)
      fun _ _ he => ⟨he.1, _, by simp, message, hm, he.2⟩

theorem validatePreResume_goes {t : UpdateTarget}
    (h : s₀.engine.setup.hidesState = false)
    (hl : x.core.label = t.label) (hp : x.core.paused = true)
    (hc : x.caches = ⟨false, false, false⟩) :
    Goes s₀ x (validatePreResume t) x fun e => e.target = t ∧ e.failureReason = none := by
  obtain ⟨h₁, h₂⟩ := Bool.or_eq_false_iff.mp h
  unfold validatePreResume
  refine Goes.andThen (goes_engine .getWeightInfo h₁ fun _ _ => trivial)
    fun label hlabel => ?_
  refine Goes.andThen (goes_engine .isPaused h₂ fun _ _ => trivial)
    fun paused hpaused => ?_
  refine goes_attributes.andThen fun g₁ hg₁ => goes_attributes.andThen fun g₂ hg₂ =>
    goes_attributes.andThen fun g₃ hg₃ => ?_
  refine goes_pure ⟨rfl, ValidateEvidence.failureReason_eq_none.mpr
    ⟨hlabel.1.trans hl, hpaused.1.trans hp, ?_⟩⟩
  show (!(g₁.caches.prefixDirty || g₂.caches.encoderDirty || g₃.caches.mmDirty)) = true
  rw [hg₁.caches.trans hc, hg₂.caches.trans hc, hg₃.caches.trans hc]
  rfl

/-- The reads after the resume are spared, as the validation was. -/
theorem resume_breaks {t : UpdateTarget} (h : s₀.engine.setup.hidesState = false)
    (hm : s₀.engine.setup.faulted "resume" = true) :
    Goes s₀ x (FakeVLLMAdapter.resume t) x fun e => e.target = t ∧ e.failureReason ≠ none := by
  obtain ⟨h₁, h₂⟩ := Bool.or_eq_false_iff.mp h
  obtain ⟨message, hm'⟩ := EngineSetup.faulted_iff.mp hm
  unfold FakeVLLMAdapter.resume
  refine Goes.andThen (faulted_tryEngine .resume hm') ?_
  rintro _ rfl
  refine (goes_pure (P := (· = false)) rfl).andThen fun b hb => ?_
  refine Goes.andThen (goes_engine .isPaused h₂ fun _ _ => trivial) fun _ _ => ?_
  refine Goes.andThen (goes_engine .getWeightInfo h₁ fun _ _ => trivial) fun _ _ => ?_
  subst hb
  exact goes_pure ⟨rfl, by simp [ResumeEvidence.failureReason]⟩

theorem resume_goes {t : UpdateTarget} (h : s₀.engine.setup.hidesState = false)
    (hm : s₀.engine.setup.faulted "resume" = false) (hl : x.core.label = t.label) :
    Goes s₀ x (FakeVLLMAdapter.resume t) (x.withCore { x.core with paused := false })
      fun e => e.target = t ∧ e.failureReason = none := by
  obtain ⟨h₁, h₂⟩ := Bool.or_eq_false_iff.mp h
  unfold FakeVLLMAdapter.resume
  refine Goes.andThen (goes_tryEngine .resume hm fun _ _ => trivial) ?_
  rintro _ ⟨r, rfl, -⟩
  refine (goes_pure (P := (· = true)) rfl).andThen fun b hb => ?_
  refine Goes.andThen (goes_engine .isPaused h₂ fun _ _ => trivial)
    fun paused hpaused => ?_
  refine Goes.andThen (goes_engine .getWeightInfo h₁ fun _ _ => trivial)
    fun label hlabel => ?_
  exact goes_pure ⟨rfl, ResumeEvidence.failureReason_eq_none.mpr
    ⟨hb, hpaused.1, .inr (congrArg some (hlabel.1.trans hl))⟩⟩

end Methods

end RolloutCore
