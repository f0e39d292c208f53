import RolloutCore.StagedIdentity
import RolloutCore.PauseOrder
import RolloutCore.Lib.Worlds

/-!
# A deployment

The runner over the HTTP adapter with the NCCL driver, and the trainer beside them, who asks for the
identity of its weights, declares where they come from, and changes them. Seen without the driver
this is the runner over HTTP (`projects_http`), so what is proved there holds of it; what the
driver adds is which weights go out.
-/

namespace RolloutCore

open LifecycleController Prog CallOutcome

/-! ## The system -/

structure Deployment where
  http : HttpSystem
  nccl : NcclSystem

/-- What a step does. The adapter's calls of its driver are calls of the NCCL driver, in which the
trainer engine may do anything. -/
def deploymentAnswers (H : Sha256) (a : HttpVLLMAdapter) :
    (call : HttpCall) → Deployment → call.Reply → Deployment → Prop
  | .driverInitialise, s, reply, s' => ∃ opened built,
    reply = (outcome ((NCCLWeightTransferDriver.initialise opened built).run s.nccl)).map some ∧
      s' = { s with nccl := (NcclStep.initialise opened built).apply H s.nccl }
  | .driverTransfer t, s, reply, s' => ∃ sent,
    reply = outcome ((NCCLWeightTransferDriver.transfer H t sent).run s.nccl) ∧
      s' = { s with nccl := (NcclStep.transfer t sent).apply H s.nccl }
  | call, s, reply, s' => ∃ h, httpAnswers a call s.http reply h ∧ s' = { s with http := h }

/-- What the trainer does beside the runner. -/
def NcclStep.Beside : NcclStep → Prop
  | .initialise .. | .transfer .. => False
  | _ => True

/-- The runner in a deployment. The trainer changes its weights only as the identity its driver has
kept survives it. -/
def deployment (H : Sha256) (a : HttpVLLMAdapter) : World HttpCall.Reply Deployment where
  answers := deploymentAnswers H a
  env s s' :=
    (∃ h, (freeWorld a).env s.http h ∧ s' = { s with http := h }) ∨
      ∃ step : NcclStep, step.Beside ∧ step.Harmless H s.nccl ∧
        s' = { s with nccl := step.apply H s.nccl }

abbrev DeploymentEvent := TraceEvent HttpCall.Reply Deployment

section Steps

variable {H : Sha256} {a : HttpVLLMAdapter} {s s' : Deployment}

theorem projects_http : Projects (freeWorld a) (deployment H a) Deployment.http where
  answers {op s r s'} ha := by
    cases op with
    | driverInitialise =>
      obtain ⟨opened, built, -, rfl⟩ := ha
      exact ⟨_, rfl, rfl⟩
    | driverTransfer t =>
      obtain ⟨sent, -, rfl⟩ := ha
      exact ⟨_, rfl, rfl⟩
    | _ =>
      obtain ⟨h, hh, rfl⟩ := ha
      exact hh
  env he := by
    rcases he with ⟨h, hh, rfl⟩ | ⟨step, -, -, rfl⟩
    · exact .inl hh
    · exact .inr rfl

theorem kept_answers {call : HttpCall} {reply : call.Reply} (hk : Kept H s.nccl)
    (ha : deploymentAnswers H a call s reply s') : Kept H s'.nccl := by
  cases call with
  | driverInitialise => obtain ⟨opened, built, -, rfl⟩ := ha; exact hk.step trivial
  | driverTransfer t => obtain ⟨sent, -, rfl⟩ := ha; exact hk.step trivial
  | _ => obtain ⟨h, -, rfl⟩ := ha; exact hk

theorem kept_env (hk : Kept H s.nccl) (he : (deployment H a).env s s') : Kept H s'.nccl := by
  rcases he with ⟨h, -, rfl⟩ | ⟨step, -, hstep, rfl⟩
  · exact hk
  · exact hk.step hstep

theorem broadcasts_step {step : NcclStep} {w : NcclSystem} (h : ∀ t sent, step ≠ .transfer t sent) :
    (step.apply H w).broadcasts = w.broadcasts := by
  have hact : ∀ (client : ℕ) (f : Foreign), Keeps NcclSystem.broadcasts (act client f) :=
    keeps_act fun _ _ => rfl
  cases step with
  | identity => exact keeps_identity (f := NcclSystem.broadcasts) (fun _ _ => rfl) w
  | declare provenance =>
    exact keeps_declare (f := NcclSystem.broadcasts) (fun _ _ => rfl) (fun _ _ => rfl) provenance w
  | initialise opened built =>
    suffices h : Keeps NcclSystem.broadcasts (NCCLWeightTransferDriver.initialise opened built) from
      h w
    refine Keeps.bind (keeps_modify fun _ => rfl) fun _ => ?_
    refine Keeps.bind (keeps_orRaise opened) fun _ => Keeps.bind keeps_get fun w => ?_
    refine Keeps.bind (keeps_modify fun _ => rfl) fun _ => ?_
    refine Keeps.bind (hact w.made built) fun _ => ?_
    exact Keeps.bind (keeps_modify fun _ => rfl) fun _ => keeps_pure _
  | transfer t sent => exact absurd rfl (h t sent)
  | shutdown closed =>
    suffices h : Keeps NcclSystem.broadcasts (NCCLWeightTransferDriver.shutdown closed) from h w
    refine Keeps.bind keeps_get fun w => ?_
    cases w.driver.engine with
    | none => exact keeps_pure ()
    | some engine => exact Keeps.bind (hact engine closed) fun _ => keeps_modify fun _ => rfl
  | changeSource | selectDevice => rfl

/-- **What a transfer sends**: nothing, or what the source holds now under the identity of the
target. -/
theorem transfer_cases {t : UpdateTarget} {sent : Foreign} {w : NcclSystem} (hk : Kept H w) :
    (afterTransfer H w t sent).broadcasts = w.broadcasts ∧
        (∃ e, outcome ((NCCLWeightTransferDriver.transfer H t sent).run w) = .error e) ∨
      (afterTransfer H w t sent).broadcasts = w.broadcasts + 1 ∧ w.staged H = .ok t.identity := by
  by_cases hready : w.Unready
  · obtain ⟨e, hrun, -⟩ := transfer_unready H t sent hready
    rw [afterTransfer, hrun]
    exact .inl ⟨rfl, e, rfl⟩
  cases hoffered : w.offered H with
  | error e =>
    rw [afterTransfer, transfer_unreadable hready hoffered]
    exact .inl ⟨rfl, e, rfl⟩
  | ok j =>
    by_cases hj : j = t.identity
    · subst hj
      refine .inr ⟨broadcasts_of_sends sent hready hoffered, ?_⟩
      cases hcached : w.driver.cachedIdentity with
      | none => exact (NcclSystem.offered_of_empty hcached).symm.trans hoffered
      | some i =>
        rw [NcclSystem.offered_of_cached hcached] at hoffered
        obtain rfl := Except.ok.inj hoffered
        exact hk _ hcached
    · rw [afterTransfer, transfer_mismatch hready hoffered hj]
      exact .inl ⟨rfl, _, rfl⟩

theorem broadcasts_env (he : (deployment H a).env s s') :
    s'.nccl.broadcasts = s.nccl.broadcasts := by
  rcases he with ⟨h, -, rfl⟩ | ⟨step, hbeside, -, rfl⟩
  · rfl
  · refine broadcasts_step ?_
    rintro t sent rfl
    exact hbeside

/-- A call of the adapter sends only as a transfer, which raises if it sends nothing. -/
theorem broadcasts_answers {call : HttpCall} {reply : call.Reply} (hk : Kept H s.nccl)
    (ha : deploymentAnswers H a call s reply s') :
    s'.nccl.broadcasts = s.nccl.broadcasts ∧
        (∀ t report, (⟨call, reply⟩ : HttpExchange) ≠ ⟨.driverTransfer t, .ok report⟩) ∨
      ∃ t, call = .driverTransfer t ∧ s'.nccl.broadcasts = s.nccl.broadcasts + 1 ∧
        s.nccl.staged H = .ok t.identity := by
  cases call with
  | driverTransfer t =>
    obtain ⟨sent, rfl, rfl⟩ := ha
    rcases @transfer_cases H t sent s.nccl hk with ⟨hb, e, he⟩ | ⟨hb, hstaged⟩
    · refine .inl ⟨hb, fun t' report heq => ?_⟩
      rw [he] at heq
      cases heq
    · exact .inr ⟨t, rfl, hb, hstaged⟩
  | driverInitialise =>
    obtain ⟨opened, built, -, rfl⟩ := ha
    refine .inl ⟨broadcasts_step (by simp), fun t report heq => ?_⟩
    cases heq
  | _ =>
    obtain ⟨h, -, rfl⟩ := ha
    refine .inl ⟨rfl, fun t report heq => ?_⟩
    cases heq

end Steps

/-! ## What is sent -/

/-- The step sends the weights of `t`: what the source holds has its identity, `t` is under way
unless the controller is tainted, the engine is paused and no rollout is bound. -/
structure Broadcast (H : Sha256) (t : UpdateTarget) (s s' : Deployment) : Prop where
  count : s'.nccl.broadcasts = s.nccl.broadcasts + 1
  staged : s.nccl.staged H = .ok t.identity
  updating : s.http.controller.Updating t
  paused : s.http.drain.Paused
  unbound : s.http.controller.bindings = []

/-- The event sends nothing, or is a transfer of the weights it is to send. -/
def DeploymentEvent.Attested (H : Sha256) : DeploymentEvent → Prop
  | .env s s' => s'.nccl.broadcasts = s.nccl.broadcasts
  | .call call _ s s' => s'.nccl.broadcasts = s.nccl.broadcasts ∨
    ∃ t, call = .driverTransfer t ∧ Broadcast H t s s'

/-- The exchange is a transfer. -/
def HttpExchange.attempts : HttpExchange → Bool
  | ⟨.driverTransfer _, _⟩ => true
  | _ => false

/-- The exchange is a transfer that was reported. -/
def HttpExchange.delivers : HttpExchange → Bool
  | ⟨.driverTransfer _, .ok _⟩ => true
  | _ => false

section Runs

variable {H : Sha256} {a : HttpVLLMAdapter} {s s' : Deployment} {tr : List DeploymentEvent}

theorem attested_of_seen {tr₀ : List HttpEvent} (hseen : Seen Deployment.http tr₀ tr)
    (hclear : ∀ e ∈ tr₀, HttpEvent.Clear e)
    (hsteps : ∀ e ∈ tr, ((deployment H a).restrict fun s => Kept H s.nccl).Admits e) :
    ∀ e ∈ tr, DeploymentEvent.Attested H e := by
  intro e he
  have hstep := hsteps e he
  cases e with
  | env s s' => exact broadcasts_env hstep.2.1
  | call call reply s s' =>
    rcases broadcasts_answers hstep.1 hstep.2.1 with ⟨hb, -⟩ | ⟨t, rfl, hb, hstaged⟩
    · exact .inl hb
    · obtain ⟨hinstalls, htarget⟩ := hclear _ (hseen.mem_call he)
      obtain ⟨hpaused, hunbound⟩ := hinstalls trivial
      exact .inr ⟨t, rfl, hb, hstaged, htarget t rfl, hpaused, hunbound⟩

theorem broadcasts_run {α : Type} {p q : HttpProg α} (hk : Kept H s.nccl)
    (h : Run (deployment H a) p s tr q s') :
    s.nccl.broadcasts + (exchanges tr).countP HttpExchange.delivers ≤ s'.nccl.broadcasts ∧
      s'.nccl.broadcasts ≤ s.nccl.broadcasts + (exchanges tr).countP HttpExchange.attempts := by
  induction h with
  | nil => exact ⟨le_rfl, le_rfl⟩
  | env _ he ih =>
    rw [exchanges_append, broadcasts_env he]
    simpa [exchanges] using ih
  | @call tr op next s₁ s₂ reply h ha ih =>
    have hkept := h.invariant (J := fun s => Kept H s.nccl) (fun _ _ _ _ => kept_answers)
      (fun _ _ => kept_env) hk
    rw [exchanges_concat, List.countP_append, List.countP_append]
    rcases broadcasts_answers hkept ha with ⟨hb, hraised⟩ | ⟨t, rfl, hb, -⟩
    · have hnone : HttpExchange.delivers ⟨op, reply⟩ = false := by
        cases op with
        | driverTransfer t =>
          cases reply with
          | ok report => exact absurd rfl (hraised t report)
          | error e => rfl
        | _ => rfl
      simp only [List.countP_singleton, hnone, hb]
      refine ⟨ih.1, ih.2.trans ?_⟩
      omega
    · have hone : HttpExchange.attempts ⟨.driverTransfer t, reply⟩ = true := rfl
      have hle : [(⟨.driverTransfer t, reply⟩ : HttpExchange)].countP HttpExchange.delivers ≤ 1 :=
        List.countP_le_length
      simp only [List.countP_singleton, hone, if_true, hb] at hle ⊢
      exact ⟨by omega, by omega⟩

/-- Of the exchanges of a committed cycle one is a transfer, and it was reported. -/
theorem transfers_of_commit {J : JsonModule} {t : UpdateTarget} {l : List HttpExchange}
    (h : CommittedOnWire J a t (wire l)) :
    l.countP HttpExchange.attempts = 1 ∧ l.countP HttpExchange.delivers = 1 ∧
      ∃ report, (⟨.driverTransfer t, .ok report⟩ : HttpExchange) ∈ l := by
  obtain ⟨aborts, report, reset, encoder, mm, label, paused, resumed, running, published, haborts,
    hwire, -⟩ := h
  -- a transfer leaves the process, and an abort is none
  have hcount : ∀ P : HttpExchange → Bool, (∀ x, P x = true → x.1.onWire = true) →
      (∀ x, IsAbort a x → P x = false) → l.countP P =
        (commitExchanges a t report reset encoder mm label paused resumed running
          published).countP P := by
    intro P hP habort
    have hfilter : (wire l).countP P = l.countP P := by
      rw [wire, List.countP_filter]
      refine List.countP_congr fun x _ => ?_
      simp only [Bool.and_eq_true]
      exact ⟨fun h => h.1, fun h => ⟨h, hP x h⟩⟩
    have hnone : aborts.countP P = 0 :=
      List.countP_eq_zero.mpr fun x hx => by simp [habort x (haborts x hx)]
    rw [← hfilter, hwire, List.countP_append, hnone, Nat.zero_add]
  refine ⟨(hcount _ ?_ ?_).trans rfl, (hcount _ ?_ ?_).trans rfl, report, ?_⟩
  · rintro ⟨call, reply⟩ h
    cases call <;> first | rfl | cases h
  · rintro x ⟨answer, rfl⟩
    rfl
  · rintro ⟨call, reply⟩ h
    cases call <;> first | rfl | cases h
  · rintro x ⟨answer, rfl⟩
    rfl
  · have hmem : (⟨.driverTransfer t, .ok report⟩ : HttpExchange) ∈ wire l := by
      rw [hwire]
      simp [commitExchanges]
    exact (List.mem_filter.mp hmem).1

end Runs

/-- **What goes out is what is committed.** Take a new adapter, any controller, and a driver whose
kept identity, if any, is current. Run bootstraps and cycles, whatever the server answers and
whatever the trainer engine does when it is called, with rollout owners, the operator, pause
attempts and the trainer in between; then begin one more cycle and stop it anywhere.
* Weights were sent only by transfers, each of which is one step here. Each time the engine was
  paused and no rollout was bound, and what the source held was the target under way, where a
  controller that was tainted meanwhile has none.
* If the cycle has returned, it sent weights exactly once, those of the target it committed. -/
theorem broadcasts_attested (H : Sha256) (J : JsonModule) (a : HttpVLLMAdapter)
    (r : LifecycleRunner) {c : LifecycleController} {i : Option UpdateTarget} (hc : Reachable c)
    {w : NcclSystem} (hw : Kept H w) {past : List (RunnerRequest × List DeploymentEvent)}
    {s s' : Deployment} {t : UpdateTarget} {tr : List DeploymentEvent} {p : HttpProg CycleResult}
    (h : Session (deployment H a) (r.serveHttp J a) ⟨⟨c, i, {}⟩, w⟩ past s)
    (hr : Run (deployment H a) ((r.runCycle t).interp (a.handle J)) s tr p s') :
    (∀ e ∈ past.flatMap (·.2) ++ tr, DeploymentEvent.Attested H e) ∧
      ∀ res, p = .pure res → s'.nccl.broadcasts = s.nccl.broadcasts + 1 ∧
        s'.http.controller.currentTarget = some t ∧
        ∃ reply s₁ s₂, .call (.driverTransfer t) reply s₁ s₂ ∈ tr ∧ Broadcast H t s₁ s₂ := by
  have hcall : ∀ op s r s', Kept H s.nccl → (deployment H a).answers op s r s' → Kept H s'.nccl :=
    fun _ _ _ _ => kept_answers
  have henv : ∀ s s', Kept H s.nccl → (deployment H a).env s s' → Kept H s'.nccl :=
    fun _ _ => kept_env
  obtain ⟨hsess, hk⟩ := h.within hcall henv hw
  obtain ⟨past₀, hsess₀, -, hpast⟩ := h.project projects_http
  obtain ⟨tr₀, hrun₀, hseen⟩ := hr.project projects_http
  have hsound := session_sound hsess₀ (sound_init hc i)
  have hsound' : Sound a tr₀ s'.http := by
    have hcycle := (pausing_annotated J r t).runCycle [] s.http (Sound.pausing hsound.fresh rfl)
    exact (hcycle.run hrun₀).inv
  have hattested := attested_of_seen hseen hsound'.clear (hr.within hcall henv hk).admits
  refine ⟨fun e he => ?_, ?_⟩
  · rcases List.mem_append.mp he with he | he
    · exact attested_of_seen hpast hsound.clear hsess.admits e he
    · exact hattested e he
  · rintro res rfl
    obtain ⟨-, hcur, hwire⟩ := transcript_of_commit hsound.inv hrun₀
    rw [hseen.exchanges] at hwire
    obtain ⟨hattempts, hdelivers, report, hmem⟩ := transfers_of_commit hwire
    obtain ⟨hle, hge⟩ := broadcasts_run hk hr
    rw [hattempts] at hge
    rw [hdelivers] at hle
    obtain ⟨s₁, s₂, hevent⟩ := mem_exchanges.mp hmem
    refine ⟨le_antisymm hge hle, hcur, _, s₁, s₂, hevent, ?_⟩
    rcases hattested _ hevent with hsame | ⟨t', heq, hsends⟩
    · rcases broadcasts_answers ((hr.within hcall henv hk).answered hevent).1
        (hr.answered hevent) with ⟨-, hraised⟩ | ⟨t', heq, hb, -⟩
      · exact absurd rfl (hraised t report)
      · exact absurd (hb.symm.trans hsame) (Nat.succ_ne_self _)
    · cases heq
      exact hsends

/-! ## A cycle that sends -/

section Commits

/-- A driver that has been initialized, over a source with one parameter. -/
def initialisedDriver : NcclSystem :=
  (NcclStep.initialise (.ok ()) ⟨[.initWeightTransferEngine .null], .ok ()⟩).apply sampleHash
    (.constructed none (.ok [soleParam]) none)

theorem kept_initialisedDriver : Kept sampleHash initialisedDriver :=
  (kept_constructed none (.ok [soleParam]) none).step trivial

/-- A trainer engine that delivers. -/
def delivery : Foreign :=
  ⟨[.startWeightUpdate, .updateWeights .null, .finishWeightUpdate none], .ok ()⟩

def deploymentReply : (call : HttpCall) → Deployment → call.Reply × Deployment
  | .driverInitialise, s =>
    ((outcome ((NCCLWeightTransferDriver.initialise (.ok ()) delivery).run s.nccl)).map some,
      { s with nccl := (NcclStep.initialise (.ok ()) delivery).apply sampleHash s.nccl })
  | .driverTransfer t, s =>
    (outcome ((NCCLWeightTransferDriver.transfer sampleHash t delivery).run s.nccl),
      { s with nccl := (NcclStep.transfer t delivery).apply sampleHash s.nccl })
  | call, s => ((commitReply deliveringAdapter call s.http).1,
      { s with http := (commitReply deliveringAdapter call s.http).2 })

theorem deploymentReply_answers (call : HttpCall) (s : Deployment) :
    deploymentAnswers sampleHash deliveringAdapter call s (deploymentReply call s).1
      (deploymentReply call s).2 := by
  cases call with
  | driverInitialise => exact ⟨_, _, rfl, rfl⟩
  | driverTransfer t => exact ⟨_, rfl, rfl⟩
  | _ => exact ⟨_, commitReply_answers deliveringAdapter _ s.http, rfl⟩

/-- The cycle that installs what the source holds, its pause going through just before it is
polled. -/
def deployedPlay : List DeploymentEvent × Except PyExc CycleResult × Deployment :=
  ((LifecycleRunner.runCycle {} ⟨⟨1⟩, soleIdentity⟩).interp
    (deliveringAdapter.handle servedJson)).play deploymentReply
    (fun n s => if n = 7 ∨ n = 8 then
      (threadNext deliveringAdapter 0 s.http.drain).map fun d =>
        { s with http := { s.http with drain := d } } else none) 0
    ⟨⟨bootstrapped, none, {}⟩, initialisedDriver⟩

theorem run_deployedPlay : Run (deployment sampleHash deliveringAdapter)
    ((LifecycleRunner.runCycle {} ⟨⟨1⟩, soleIdentity⟩).interp (deliveringAdapter.handle servedJson))
    ⟨⟨bootstrapped, none, {}⟩, initialisedDriver⟩ deployedPlay.1 (.ofExcept deployedPlay.2.1)
    deployedPlay.2.2 := by
  refine Run.of_play deploymentReply_answers (fun n s s' hs => ?_) _ 0 _
  rw [Option.mem_def] at hs
  split_ifs at hs
  obtain ⟨d, hd, rfl⟩ := Option.map_eq_some_iff.mp hs
  exact .inl ⟨_, .inr ⟨d, ⟨0, trivial, threadStep_threadNext hd⟩, rfl⟩, rfl⟩

/-- The cycle commits, and what it sent is what the source holds. -/
theorem broadcasts_attested_delivered : ∃ tr res s' reply s₁ s₂,
    Run (deployment sampleHash deliveringAdapter)
      ((LifecycleRunner.runCycle {} ⟨⟨1⟩, soleIdentity⟩).interp
        (deliveringAdapter.handle servedJson))
      ⟨⟨bootstrapped, none, {}⟩, initialisedDriver⟩ tr (.pure res) s' ∧ s'.nccl.broadcasts = 1 ∧
    .call (.driverTransfer ⟨⟨1⟩, soleIdentity⟩) reply s₁ s₂ ∈ tr ∧
    s₁.nccl.staged sampleHash = .ok soleIdentity := by
  have hrun := run_deployedPlay
  have hok : deployedPlay.2.1.toBool = true := by decide +kernel
  generalize deployedPlay = out at hrun hok
  obtain ⟨tr, res | res, s'⟩ := out
  · cases hok
  · obtain ⟨-, hcommitted⟩ := broadcasts_attested sampleHash servedJson deliveringAdapter {}
      reachable_bootstrapped kept_initialisedDriver .nil hrun
    obtain ⟨hcount, -, reply, s₁, s₂, hmem, hsends⟩ := hcommitted res rfl
    exact ⟨tr, res, s', reply, s₁, s₂, hrun, hcount, hmem, hsends.staged⟩

end Commits

end RolloutCore
