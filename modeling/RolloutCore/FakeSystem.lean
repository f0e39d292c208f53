import RolloutCore.FakeEngine
import RolloutCore.CycleInvariant

/-!
# The runner over the reference engine

The system of controller, engine and adapter flag with its other actors, and what the endpoints of
the engine do to the part of it that the controller depends on.
-/

namespace RolloutCore

open LifecycleController CallOutcome

/-! ## The system -/

/-- The state shared by the runner and the others: the controller, the engine, and the drain flag
of the adapter. -/
structure FakeSystem where
  controller : LifecycleController
  engine : FakeVLLMEngine
  drainCompleted : Bool

/-- What the others may change about the engine: the fault table, the number of active requests,
whether the prefix reset succeeds, and the dirty flags. -/
def FakeVLLMEngine.disturbed (g : FakeVLLMEngine) (faults : OrderedDict String String) (active : ℤ)
    (prefixReset prefixDirty encoderDirty mmDirty : Bool) : FakeVLLMEngine :=
  { g with
    faults := faults
    activeRequests := active
    prefixResetSucceeds := prefixReset
    prefixCacheDirty := prefixDirty
    encoderCacheDirty := encoderDirty
    mmCacheDirty := mmDirty }

/-- The call answers `reply` and leaves `g'`. -/
def EngineCall.Replies (call : EngineCall) (g : FakeVLLMEngine) :
    Except PyExc call.Ret → FakeVLLMEngine → Prop
  | .ok r, g' => call.run.run g = .ok r g'
  | .error e, g' => call.run.run g = .error e g'

/-- What a step of the runner does to the system. The methods of the adapter are not among the
steps: `handle` makes them programs of endpoints and attribute accesses. -/
def fakeAnswers : (call : FakeCall) → FakeSystem → call.Reply → FakeSystem → Prop
  | .runner call, s, reply, s' =>
    ∃ c', runnerAnswers call s.controller reply c' ∧ s' = { s with controller := c' }
  | .engine call, s, reply, s' =>
    ∃ g', call.Replies s.engine reply g' ∧ s' = { s with engine := g' }
  | .attributes, s, reply, s' => reply = s.engine ∧ s' = s
  | .setWeightIdentity i, s, _, s' =>
    s' = { s with engine := { s.engine with weightIdentity := some i } }
  | .drainCompleted, s, reply, s' => reply = s.drainCompleted ∧ s' = s
  | .setDrainCompleted b, s, _, s' => s' = { s with drainCompleted := b }

/-- The runner over the reference engine, with rollout owners, the operator and faults. -/
def fakeWorld : World FakeCall.Reply FakeSystem where
  answers := fakeAnswers
  env s s' :=
    (∃ c', anyAdapter.env s.controller c' ∧ s' = { s with controller := c' }) ∨
      ∃ faults active p₀ p₁ p₂ p₃,
        s' = { s with engine := s.engine.disturbed faults active p₀ p₁ p₂ p₃ }

/-- A step of a run over the reference engine. -/
abbrev FakeEvent := TraceEvent FakeCall.Reply FakeSystem

/-! ## The part of the engine the controller depends on -/

/-- Label, weights, pause and session. -/
structure EngineCore where
  label : String
  identity : Option WeightIdentity
  paused : Bool
  sessionOpen : Bool

def FakeVLLMEngine.core (g : FakeVLLMEngine) : EngineCore :=
  ⟨g.weightVersion, g.weightIdentity, g.paused, g.updateSessionOpen⟩

/-- The engine serves, or would serve, exactly the generation `t`. -/
structure EngineCore.Holds (k : EngineCore) (t : UpdateTarget) : Prop where
  label : k.label = t.label
  identity : k.identity = some t.identity
  closed : k.sessionOpen = false

/-- The label is one RolloutCore writes. -/
def EngineCore.Managed (k : EngineCore) : Prop := ∃ v : WeightVersion, k.label = v.label

theorem EngineCore.Holds.managed {k : EngineCore} {t : UpdateTarget} (h : k.Holds t) : k.Managed :=
  ⟨t.version, h.label⟩

namespace EngineCall

/-- What a successful endpoint does to the core. -/
def coreAfter : EngineCall → EngineCore → EngineCore
  | .updateWeightVersion v, k => { k with label := v }
  | .pause _ _, k => { k with paused := true }
  | .resume, k => { k with paused := false }
  | .startWeightUpdate, k => { k with sessionOpen := true }
  | .finishWeightUpdate v, k => { k with label := strOr v k.label, sessionOpen := false }
  | _, k => k

/-- What a successful endpoint says about the core. -/
def Says : (call : EngineCall) → call.Ret → EngineCore → Prop
  | .isPaused, r, k => r = k.paused
  | .getWeightInfo, r, k => r = k.label
  | _, _, _ => True

/-- What an endpoint that raised may have done to the core: a pause that reports running work has
paused the engine nonetheless. -/
def MayFail : EngineCall → EngineCore → EngineCore → Prop
  | .pause _ _, k, k' => k' = k ∨ k' = { k with paused := true }
  | _, k, k' => k' = k

end EngineCall

section Endpoints

variable {g : FakeVLLMEngine} {k k' : EngineCore} {α : Type}

/-- The endpoint changes the core from `k` to `k'` and answers as `P` allows, or raises where
`F` allows. -/
abbrev EndpointEnds (x : Endpoint α) (g : FakeVLLMEngine) (k' : EngineCore) (P : α → Prop)
    (F : EngineCore → Prop) : Prop :=
  Ends (fun r g' => g'.core = k' ∧ P r) (fun _ g' => F g'.core) (x.run g)

section Rules

variable {P : α → Prop} {F : EngineCore → Prop}

/-- A statement that leaves the core as it is. -/
theorem EndpointEnds.bind {β : Type} {x : Endpoint β} {f : β → Endpoint α} {M : β → Prop}
    (hx : EndpointEnds x g k M F)
    (hf : ∀ b g', g'.core = k → M b → EndpointEnds (f b) g' k' P F) :
    EndpointEnds (x >>= f) g k' P F :=
  Ends.bind hx fun b g' h => hf b g' h.1 h.2

theorem endpointEnds_modify {f : FakeVLLMEngine → FakeVLLMEngine} {P : Unit → Prop}
    (h : (f g).core = k') (hs : P ()) : EndpointEnds (modify f) g k' P F :=
  Ends.modify ⟨h, hs⟩

theorem endpointEnds_get (h : g.core = k) : EndpointEnds get g k (·.core = k) F :=
  Ends.get ⟨h, h⟩

theorem call_ends (name : String) (hk : F g.core) :
    EndpointEnds (FakeVLLMEngine.call name) g g.core (fun _ => True) F := by
  unfold FakeVLLMEngine.call
  refine EndpointEnds.bind (k := g.core) (endpointEnds_modify (P := fun _ => True) rfl trivial)
    fun _ g₁ h₁ _ => ?_
  refine EndpointEnds.bind (endpointEnds_get h₁) fun a g₂ h₂ _ => ?_
  cases a.faults.get? name with
  | some message => exact Ends.throw (h₂ ▸ hk)
  | none => exact Ends.pure ⟨h₂, trivial⟩

/-- An endpoint that logs its call, may raise the fault, and then does `x`. -/
theorem endpoint_ends {name : String} {x : Endpoint α} (hk : F g.core)
    (hx : ∀ g', g'.core = g.core → EndpointEnds x g' k' P F) :
    EndpointEnds (FakeVLLMEngine.call name >>= fun _ => x) g k' P F :=
  EndpointEnds.bind (call_ends name hk) fun _ g' h _ => hx g' h

end Rules

theorem pause_ends (mode : PauseMode) (clear : Bool) :
    EndpointEnds (FakeVLLMEngine.pause mode clear) g { g.core with paused := true }
      (fun _ => True) ((EngineCall.pause mode clear).MayFail g.core) := by
  have hpaused : ∀ {g' : FakeVLLMEngine} {p : PauseState}, g'.core = g.core → p ≠ .unpaused →
      ({ g' with pauseState := p } : FakeVLLMEngine).core = { g.core with paused := true } := by
    intro g' p h hp
    rw [← h]
    simp [FakeVLLMEngine.core, FakeVLLMEngine.paused, hp]
  refine endpoint_ends (.inl rfl) fun g' h => ?_
  refine EndpointEnds.bind (k := g.core) (endpointEnds_modify (P := fun _ => True) h trivial)
    fun _ g₁ h₁ _ => ?_
  by_cases hm : mode = .keep
  · rw [if_pos hm]
    exact endpointEnds_modify (hpaused h₁ (by decide)) trivial
  · rw [if_neg hm]
    refine EndpointEnds.bind (k := { g.core with paused := true }) (M := fun _ => True)
      (endpointEnds_modify (hpaused h₁ (by decide)) trivial) fun _ g₂ h₂ _ => ?_
    refine EndpointEnds.bind (endpointEnds_get h₂) fun a g₃ h₃ _ => ?_
    have hclear : ∀ (g' : FakeVLLMEngine), g'.core = { g.core with paused := true } →
        EndpointEnds (if clear = true then modify fun g : FakeVLLMEngine =>
          { g with prefixCacheDirty := false, encoderCacheDirty := false, mmCacheDirty := false }
          else pure ()) g' { g.core with paused := true } (fun _ => True)
          ((EngineCall.pause mode clear).MayFail g.core) := by
      intro g' h
      by_cases hc : clear = true
      · rw [if_pos hc]
        exact endpointEnds_modify h trivial
      · rw [if_neg hc]
        exact Ends.pure ⟨h, trivial⟩
    dsimp only
    by_cases ha : mode = .abort
    · rw [if_pos ha]
      exact EndpointEnds.bind (M := fun _ => True) (endpointEnds_modify h₃ trivial)
        fun _ g₄ h₄ _ => hclear g₄ h₄
    · rw [if_neg ha]
      by_cases hw : mode = .wait ∧ a.activeRequests > 0
      · rw [if_pos hw]
        exact EndpointEnds.bind (k := g.core) (M := fun _ => False) (Ends.throw (.inr h₃))
          fun _ _ _ h => h.elim
      · rw [if_neg hw]
        exact hclear g₃ h₃

/-- **What the endpoints do to the core.** -/
theorem engineCall_ends (call : EngineCall) :
    EndpointEnds call.run g (call.coreAfter g.core) (call.Says · g.core) (call.MayFail g.core) := by
  cases call with
  | initWeightTransferEngine =>
    exact endpoint_ends rfl fun g' h => endpointEnds_modify h trivial
  | getWorldSize => exact endpoint_ends rfl fun g' h => ⟨h, trivial⟩
  | getWeightInfo => exact endpoint_ends rfl fun g' h => ⟨h, congrArg EngineCore.label h⟩
  | updateWeightVersion v =>
    refine endpoint_ends rfl fun g' h => endpointEnds_modify ?_ trivial
    exact congrArg (fun k : EngineCore => { k with label := v }) h
  | isPaused => exact endpoint_ends rfl fun g' h => ⟨h, congrArg EngineCore.paused h⟩
  | pause mode clear => exact pause_ends mode clear
  | resume =>
    refine endpoint_ends rfl fun g' h => endpointEnds_modify ?_ trivial
    exact congrArg (fun k : EngineCore => { k with paused := false }) h
  | startWeightUpdate =>
    refine endpoint_ends rfl fun g' h => EndpointEnds.bind (endpointEnds_get h) fun a g₁ h₁ _ => ?_
    split_ifs
    · exact Ends.throw h₁
    · exact endpointEnds_modify (congrArg (fun k : EngineCore => { k with sessionOpen := true }) h₁)
        trivial
  | updateWeights =>
    refine endpoint_ends rfl fun g' h => EndpointEnds.bind (endpointEnds_get h) fun a g₁ h₁ _ => ?_
    split_ifs
    · exact Ends.throw h₁
    · exact Ends.pure ⟨h₁, trivial⟩
  | finishWeightUpdate v =>
    refine endpoint_ends rfl fun g' h => EndpointEnds.bind (endpointEnds_get h) fun a g₁ h₁ _ => ?_
    split_ifs
    · exact Ends.throw h₁
    · exact endpointEnds_modify (congrArg (fun k : EngineCore =>
        { k with label := strOr v k.label, sessionOpen := false }) h₁) trivial
  | resetPrefixCache =>
    refine endpoint_ends rfl fun g' h => EndpointEnds.bind (endpointEnds_get h) fun a g₁ h₁ _ => ?_
    split_ifs
    · exact Ends.pure ⟨h₁, trivial⟩
    · exact EndpointEnds.bind (M := fun _ => True) (endpointEnds_modify h₁ trivial)
        fun _ _ h₂ _ => Ends.pure ⟨h₂, trivial⟩
  | resetEncoderCache => exact endpoint_ends rfl fun g' h => endpointEnds_modify h trivial
  | resetMmCache => exact endpoint_ends rfl fun g' h => endpointEnds_modify h trivial

theorem EngineCall.Replies.core_of_ok {call : EngineCall} {g g' : FakeVLLMEngine} {r : call.Ret}
    (h : call.Replies g (.ok r) g') : g'.core = call.coreAfter g.core ∧ call.Says r g.core := by
  have he := engineCall_ends (g := g) call
  rwa [EndpointEnds, show call.run.run g = _ from h] at he

theorem EngineCall.Replies.core_of_error {call : EngineCall} {g g' : FakeVLLMEngine} {e : PyExc}
    (h : call.Replies g (.error e) g') : call.MayFail g.core g'.core := by
  have he := engineCall_ends (g := g) call
  rwa [EndpointEnds, show call.run.run g = _ from h] at he

end Endpoints

end RolloutCore
