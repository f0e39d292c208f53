import RolloutCore.RolloutSpans
import RolloutCore.HttpDrain
import RolloutCore.Lib.Lowering

/-!
# The runner over HTTP

The system of controller, HTTP adapter and pause attempts, with rollout owners and the operator
among them. To the controller it is a runner with some adapter, as is the runner over the reference
engine: `adapters_refine` makes every session over either of them a session with an arbitrary
adapter, so what is proved of those holds of both.
-/

namespace RolloutCore

open LifecycleController Prog

/-! ## The system -/

/-- The controller, and what the adapter changes about itself. -/
structure HttpSystem where
  controller : LifecycleController
  /-- The target a transfer is expected for. -/
  inflight : Option UpdateTarget := none
  drain : DrainSystem := {}

/-- What a step does to the system. Transport and driver may answer anything. -/
def httpAnswers (a : HttpVLLMAdapter) :
    (call : HttpCall) → HttpSystem → call.Reply → HttpSystem → Prop
  | .runner call, s, reply, s' =>
    ∃ c', runnerAnswers call s.controller reply c' ∧ s' = { s with controller := c' }
  | .inflight, s, reply, s' => reply = s.inflight ∧ s' = s
  | .setInflight t, s, _, s' => s' = { s with inflight := t }
  | call, s, reply, s' => ∃ d, drainAnswers a call s.drain reply d ∧ s' = { s with drain := d }

/-- The runner over HTTP, with rollout owners and the operator; of its pause attempts those may go
on that `allowed` lets. -/
def httpWorld (a : HttpVLLMAdapter) (allowed : DrainSystem → ℕ → Prop) :
    World HttpCall.Reply HttpSystem where
  answers := httpAnswers a
  env s s' :=
    (∃ c', anyAdapter.env s.controller c' ∧ s' = { s with controller := c' }) ∨
      ∃ d, (drainWorld a allowed).env s.drain d ∧ s' = { s with drain := d }

/-- A step of a run over HTTP. -/
abbrev HttpEvent := TraceEvent HttpCall.Reply HttpSystem

/-- A request, as a program of the runner. -/
def LifecycleRunner.request (r : LifecycleRunner) : RunnerRequest → RunnerProg Unit
  | .bootstrap => LifecycleRunner.bootstrap
  | .cycle q => r.serve q >>= fun _ => return ()

/-- The program that serves a request over HTTP. -/
def LifecycleRunner.serveHttp (r : LifecycleRunner) (J : JsonModule) (a : HttpVLLMAdapter)
    (q : RunnerRequest) : HttpProg Unit :=
  (r.request q).interp (a.handle J)

/-- The calls of a runner outside its cycles. -/
def RunnerCall.OutsideCycle : RunnerCall → Prop
  | .ctrl (.initialise _) | .ctrl (.taint _) | .ctrl (.nextTarget _) | .adapter .bootstrap => True
  | _ => False

theorem bootstrap_outside : LifecycleRunner.bootstrap.Performs RunnerCall.OutsideCycle := by
  have hctrl : ∀ {op : Op}, RunnerCall.OutsideCycle (.ctrl op) →
      (LifecycleRunner.ctrl op).Performs RunnerCall.OutsideCycle :=
    fun h => (performs_op h).bind fun r => performs_ofExcept r
  refine Performs.bind (Performs.bind (performs_op trivial) fun reply => ?_) fun e =>
    @hctrl (.initialise e) trivial
  cases reply with
  | ok e => trivial
  | error e =>
    dsimp only
    split_ifs
    · trivial
    · exact (performs_ofExcept _).bind fun _ =>
        (@hctrl (.taint _) trivial).bind fun _ => trivial

section Requests

variable {κ σ : Type} {Reply : κ → Type} {W : World Reply σ} {I : Assertion W}
  {handle : (call : RunnerCall) → Prog Reply PyExc call.Reply} {r : LifecycleRunner}

/-- **What holds over every request**: what its cycle keeps, and every call outside one. -/
theorem request_triple
    (hcall : ∀ call : RunnerCall, call.OutsideCycle →
      Triple I I (handle call) (fun _ => I) (fun _ => I))
    (hcycle : ∀ t, Triple I I ((r.runCycle t).interp handle) (fun _ => I) (fun _ => I))
    (q : RunnerRequest) :
    Triple I I ((r.request q).interp handle) (fun _ => I) (fun _ => I) := by
  cases q with
  | bootstrap => exact bootstrap_outside.interp_triple hcall
  | cycle q =>
    show Triple I I (((r.serve q).bind _).interp handle) _ _
    rw [interp_bind]
    refine Triple.bind (Q := fun _ => I) ?_ fun _ => Triple.pure I.le_refl I.le_refl
    cases q with
    | runCycle t => exact hcycle t
    | installNext i =>
      show Triple I I (((LifecycleRunner.ctrl (.nextTarget i)).bind _).interp handle) _ _
      have hnext : (LifecycleRunner.ctrl (.nextTarget i)).Performs RunnerCall.OutsideCycle :=
        (performs_op trivial).bind fun r => performs_ofExcept r
      rw [interp_bind]
      exact Triple.bind (hnext.interp_triple hcall) hcycle

end Requests

/-! ## What the methods call -/

section Footprint

variable (a : HttpVLLMAdapter)

/-- The calls a method of the adapter may come to make. -/
inductive HttpVLLMAdapter.Makes : AdapterCall → HttpCall → Prop
  | label : Makes .bootstrap (.request "GET" (a.url "/weight_info" "") none a.timeout)
  | initialise : Makes .bootstrap .driverInitialise
  | seed : Makes .bootstrap (.request "POST" (a.url "/update_weight_version" "")
      (some (.obj [("new_version", .str (WeightVersion.mk INITIAL_VERSION).label)])) a.timeout)
  | worldSize :
    Makes .bootstrap (.request "GET" (a.url "/get_world_size" "?include_dp=true") none a.timeout)
  | resetAttempts : Makes .beginDrain .resetAttempts
  | openFirst : Makes .beginDrain .openAttempt
  | startFirst (n : ℕ) : Makes .beginDrain (.startThread n)
  | drainStatus : Makes .awaitDrain .drainStatus
  | abort :
    Makes .awaitDrain (.request "POST" (a.url "/abort_requests" "") (some (.obj [])) a.timeout)
  | openNext : Makes .awaitDrain .openAttempt
  | startNext (n : ℕ) : Makes .awaitDrain (.startThread n)
  | setInflight (t : UpdateTarget) (h : a.driver.movesTensors = true) :
    Makes (.startWeightUpdate t) (.setInflight (some t))
  | inflight (t : UpdateTarget) : Makes (.completeWeightUpdate t) .inflight
  | transfer (t : UpdateTarget) : Makes (.completeWeightUpdate t) (.driverTransfer t)
  | clearInflight (t : UpdateTarget) : Makes (.completeWeightUpdate t) (.setInflight none)
  | resetPrefix (t : UpdateTarget) : Makes (.invalidateCaches t) (.request "POST"
      (a.url "/reset_prefix_cache" "?reset_running_requests=true&reset_external=true") none
      a.timeout)
  | resetEncoder (t : UpdateTarget) : Makes (.invalidateCaches t)
      (.request "POST" (a.url "/reset_encoder_cache" "") none a.timeout)
  | resetMm (t : UpdateTarget) : Makes (.invalidateCaches t)
      (.request "POST" (a.url "/reset_mm_cache" "") none a.timeout)
  | validateLabel (t : UpdateTarget) : Makes (.validatePreResume t)
      (.request "GET" (a.url "/weight_info" "") none a.timeout)
  | validatePaused (t : UpdateTarget) : Makes (.validatePreResume t)
      (.request "GET" (a.url "/is_paused" "") none a.timeout)
  | resume (t : UpdateTarget) : Makes (.resume t)
      (.request "POST" (a.url "/resume" "") none a.timeout)
  | resumePaused (t : UpdateTarget) : Makes (.resume t)
      (.request "GET" (a.url "/is_paused" "") none a.timeout)
  | resumeLabel (t : UpdateTarget) : Makes (.resume t)
      (.request "GET" (a.url "/weight_info" "") none a.timeout)

namespace HttpVLLMAdapter

variable {a} {J : JsonModule} {C : HttpCall → Prop}

theorem performs_call {method path query : String} {body : Option Json}
    (h : C (.request method (a.url path query) body a.timeout)) :
    (a.call method path body query none).Performs C :=
  (performs_op h).bind fun _ => performs_ofExcept _

theorem performs_getJson {path query : String}
    (h : C (.request "GET" (a.url path query) none a.timeout)) :
    (a.getJson J path query).Performs C :=
  (performs_call h).bind fun _ => performs_ofExcept _

theorem performs_weightInfo (h : C (.request "GET" (a.url "/weight_info" "") none a.timeout)) :
    (a.weightInfo J).Performs C := by
  refine (performs_getJson h).bind fun body => (performs_ofExcept _).bind fun v => ?_
  cases v <;> trivial

theorem performs_isPaused (h : C (.request "GET" (a.url "/is_paused" "") none a.timeout)) :
    (a.isPaused J).Performs C :=
  (performs_getJson h).bind fun _ => (performs_ofExcept _).bind fun _ => trivial

theorem performs_succeeds {p : HttpProg Response} (h : p.Performs C) : (succeeds p).Performs C := by
  refine h.attempt.bind fun answer => ?_
  cases answer with
  | ok r => trivial
  | error e => cases e <;> trivial

theorem performs_startAttempt (hopen : C .openAttempt) (hstart : ∀ n, C (.startThread n)) :
    startAttempt.Performs C :=
  (performs_op hopen).bind fun n => performs_op (hstart n)

theorem performs_abortAll
    (h : C (.request "POST" (a.url "/abort_requests" "") (some (.obj [])) a.timeout)) (left : ℕ) :
    (a.abortAll left).Performs C := by
  induction left with
  | zero => trivial
  | succ left ih =>
    refine (performs_succeeds (performs_call h)).bind fun went => ?_
    cases went with
    | true => trivial
    | false => exact ih

theorem performs_bootstrap (hC : ∀ call, a.Makes .bootstrap call → C call) :
    (a.bootstrap J).Performs C := by
  unfold bootstrap
  cases a.weightIdentity with
  | none => trivial
  | some identity =>
    refine (performs_weightInfo (hC _ .label)).bind fun preSeed => ?_
    cases WeightVersion.parseLabel preSeed with
    | ok v => trivial
    | error e =>
      refine (performs_op (hC _ .initialise)).bind fun reply => (performs_ofExcept _).bind
        fun init => (performs_call (hC _ .seed)).bind fun _ =>
        (performs_weightInfo (hC _ .label)).bind fun observed => ?_
      exact (performs_getJson (hC _ .worldSize)).bind fun body => (performs_ofExcept _).bind
        fun worldSize => trivial

theorem performs_awaitDrain (hC : ∀ call, a.Makes .awaitDrain call → C call) :
    a.awaitDrain.Performs C := by
  refine (performs_op (hC _ .drainStatus)).bind fun status => ?_
  obtain ⟨state, error, attempts⟩ := status
  cases state with
  | failed =>
    refine (performs_abortAll (hC _ .abort) _).bind fun _ => ?_
    dsimp only
    split_ifs
    · trivial
    · exact (performs_startAttempt (hC _ .openNext) fun n => hC _ (.startNext n)).bind
        fun _ => trivial
  | _ => trivial

theorem performs_completeWeightUpdate {t : UpdateTarget}
    (hC : ∀ call, a.Makes (.completeWeightUpdate t) call → C call) :
    (completeWeightUpdate t).Performs C := by
  refine (performs_op (hC _ (.inflight t))).bind fun opened => ?_
  dsimp only
  split_ifs
  · trivial
  · exact (performs_op (hC _ (.transfer t))).bind fun reply => (performs_ofExcept _).bind
      fun report => (performs_op (hC _ (.clearInflight t))).bind fun _ => trivial

theorem performs_invalidateCaches {t : UpdateTarget}
    (hC : ∀ call, a.Makes (.invalidateCaches t) call → C call) :
    (a.invalidateCaches J).Performs C := by
  have hrest : ∀ prefixOk : Bool, Performs C (do
      let encoderOk ← succeeds (a.call "POST" "/reset_encoder_cache" none "" none)
      let mmOk ← succeeds (a.call "POST" "/reset_mm_cache" none "" none)
      return ⟨prefixOk, encoderOk, mmOk⟩ : HttpProg InvalidateEvidence) := fun prefixOk =>
    (performs_succeeds (performs_call (hC _ (.resetEncoder t)))).bind fun _ =>
      (performs_succeeds (performs_call (hC _ (.resetMm t)))).bind fun _ => trivial
  refine (performs_call (hC _ (.resetPrefix t))).bind fun r => (performs_ofExcept _).bind
    fun body => ?_
  dsimp only
  split_ifs
  · exact (performs_ofExcept _).bind fun v => hrest _
  · exact hrest _

/-- **What a method calls.** -/
theorem performs_method (J : JsonModule) (m : AdapterCall) :
    (a.method J m).Performs (a.Makes m) := by
  cases m with
  | bootstrap => exact performs_bootstrap fun _ => id
  | beginDrain =>
    exact (performs_op .resetAttempts).bind fun _ => performs_startAttempt .openFirst .startFirst
  | awaitDrain => exact performs_awaitDrain fun _ => id
  | startWeightUpdate t =>
    show (a.startWeightUpdate t).Performs _
    unfold startWeightUpdate
    cases hd : a.driver.movesTensors with
    | true => exact performs_op (.setInflight t hd)
    | false => trivial
  | completeWeightUpdate t => exact performs_completeWeightUpdate fun _ => id
  | invalidateCaches t => exact performs_invalidateCaches fun _ => id
  | validatePreResume t =>
    exact (performs_weightInfo (.validateLabel t)).bind fun _ =>
      (performs_isPaused (.validatePaused t)).bind fun _ => trivial
  | resume t =>
    exact (performs_succeeds (performs_call (.resume t))).bind fun _ =>
      (performs_isPaused (.resumePaused t)).bind fun _ =>
      (performs_weightInfo (.resumeLabel t)).bind fun _ => trivial

end HttpVLLMAdapter

end Footprint

/-! ## Runs over an adapter are runs with an adapter -/

theorem HttpVLLMAdapter.Makes.ne_runner {a : HttpVLLMAdapter} {m : AdapterCall} {call : HttpCall}
    (h : a.Makes m call) {rc : RunnerCall} : call ≠ .runner rc := by
  cases h <;> simp

/-- The calls of the adapter leave the controller alone. -/
theorem controller_of_httpAnswers {a : HttpVLLMAdapter} {call : HttpCall} {reply : call.Reply}
    {s s' : HttpSystem} (ha : httpAnswers a call s reply s') (hcall : ∀ rc, call ≠ .runner rc) :
    s'.controller = s.controller := by
  cases call with
  | runner rc => exact absurd rfl (hcall rc)
  | inflight => obtain ⟨-, rfl⟩ := ha; rfl
  | setInflight t => obtain rfl : s' = _ := ha; rfl
  | _ => obtain ⟨d, -, rfl⟩ := ha; rfl

theorem carriesOut_runner {a : HttpVLLMAdapter} {allowed : DrainSystem → ℕ → Prop}
    (rc : RunnerCall) : CarriesOut anyAdapter (httpWorld a allowed) HttpSystem.controller rc
      (Prog.op (HttpCall.runner rc) : HttpProg rc.Reply) := by
  refine @CarriesOut.step _ _ _ _ _ _ _ anyAdapter (httpWorld a allowed) _ rc (HttpCall.runner rc)
    (@id rc.Reply) ?_
  rintro s reply s' ⟨c', hc, rfl⟩
  exact hc

theorem http_lowers (J : JsonModule) (a : HttpVLLMAdapter) (allowed : DrainSystem → ℕ → Prop) :
    Lowers anyAdapter (httpWorld a allowed) HttpSystem.controller (a.handle J) where
  call op := by
    cases op with
    | adapter m =>
      refine .silent (Performs.unseen_attempt ((a.performs_method J m).mono ?_)) fun _ _ => rfl
      exact fun call hcall s reply s' ha => controller_of_httpAnswers ha fun _ => hcall.ne_runner
    | _ => exact carriesOut_runner _
  env s s' := by
    rintro (⟨c', he, rfl⟩ | ⟨d, -, rfl⟩)
    · exact .inr he
    · exact .inl rfl

theorem fake_lowers (a : FakeVLLMAdapter) :
    Lowers anyAdapter fakeWorld FakeSystem.controller a.handle where
  call op := by
    have hrunner : ∀ rc : RunnerCall, CarriesOut anyAdapter fakeWorld FakeSystem.controller rc
        (Prog.op (FakeCall.runner rc) : FakeProg rc.Reply) := by
      intro rc
      refine @CarriesOut.step _ _ _ _ _ _ _ anyAdapter fakeWorld _ rc (FakeCall.runner rc)
        (@id rc.Reply) ?_
      rintro s reply s' ⟨c', hc, rfl⟩
      exact hc
    cases op with
    | adapter m =>
      refine .silent (Performs.unseen_attempt ((allowed_method a m).mono ?_)) fun _ _ => rfl
      intro call hcall s reply s' ha
      cases call with
      | runner rc => exact absurd rfl (hcall.1 rc)
      | engine => obtain ⟨g', -, rfl⟩ := ha; rfl
      | attributes | drainCompleted => obtain ⟨-, rfl⟩ := ha; rfl
      | setWeightIdentity | setDrainCompleted => obtain rfl : s' = _ := ha; rfl
    | _ => exact hrunner _
  env s s' := by
    rintro (⟨c', he, rfl⟩ | ⟨_, _, _, _, _, _, rfl⟩)
    · exact .inr he
    · exact .inl rfl

section Refinement

variable {κ σ : Type} {Reply : κ → Type} {V : World Reply σ} {view : σ → LifecycleController}
  {handle : (call : RunnerCall) → Prog Reply PyExc call.Reply} {r : LifecycleRunner}

/-- Every session of requests carried out by `handle`, with whatever has been carried out of the
last one, is a session of the same requests with an arbitrary adapter: the same controllers, the
same ends, each call of the adapter answered by an execution of its method. -/
def RefinesAnyAdapter (V : World Reply σ) (view : σ → LifecycleController)
    (handle : (call : RunnerCall) → Prog Reply PyExc call.Reply) (r : LifecycleRunner) : Prop :=
  ∀ {s₀ s s' : σ} {past : List (RunnerRequest × List (TraceEvent Reply σ))} {q : RunnerRequest}
    {tr : List (TraceEvent Reply σ)} {p : Prog Reply PyExc Unit},
    Session V (fun q => (r.request q).interp handle) s₀ past s →
    Run V ((r.request q).interp handle) s tr p s' →
    ∃ past₀ tr₀ p₀ l part,
      Session anyAdapter r.request (view s₀) past₀ (view s) ∧
      List.Forall₂ (fun x y => x.1 = y.1 ∧ Covers handle (exchanges x.2) (exchanges y.2))
        past₀ past ∧
      Run anyAdapter (r.request q) (view s) tr₀ p₀ (view s') ∧
      Covers handle (exchanges tr₀) l ∧ exchanges tr = l ++ part ∧
      ∀ x, p = .ofExcept x → p₀ = .ofExcept x ∧ part = []

theorem refinesAnyAdapter (h : Lowers anyAdapter V view handle) :
    RefinesAnyAdapter V view handle r := by
  intro s₀ s s' past q tr p hs hr
  obtain ⟨past₀, hsess, hpast⟩ := hs.lower h
  obtain ⟨tr₀, p₀, l, part, hrun, hc, hl, hp⟩ := hr.lower h
  refine ⟨past₀, tr₀, p₀, l, part, hsess, hpast, hrun, hc, hl, ?_⟩
  rintro x rfl
  exact hp.of_ended

end Refinement

/-- **Both adapters are adapters.** Over the reference engine, endpoint by endpoint and with faults
in between, and over HTTP, request by request and with the pause attempts in between, whatever
transport and driver answer. -/
theorem adapters_refine (r : LifecycleRunner) :
    (∀ a : FakeVLLMAdapter, RefinesAnyAdapter fakeWorld FakeSystem.controller a.handle r) ∧
      ∀ J (a : HttpVLLMAdapter) allowed,
        RefinesAnyAdapter (httpWorld a allowed) HttpSystem.controller (a.handle J) r :=
  ⟨fun a => refinesAnyAdapter (fake_lowers a),
    fun J a allowed => refinesAnyAdapter (http_lowers J a allowed)⟩

end RolloutCore
