import RolloutCore.CycleTranscript
import RolloutCore.Lib.Exchanges

/-!
# The transcript of a failed cycle

A controller keeps the state it was tainted in, and that state, or the one it is in, tells how far a
cycle that raised has got: all of the phases before it have been carried out and answered as they
should, the calls of that phase have been begun, and nothing that comes later has been sent. With
any adapter this is said of the adapter's methods (`StoppedIn`), with the HTTP adapter of what went
out to engine and driver (`failed_transcript`).
-/

namespace RolloutCore

open LifecycleController Prog

/-! ## The last state -/

/-- The state the controller is in, or was in when it was tainted. -/
def LifecycleController.lastState (c : LifecycleController) : LifecycleState :=
  c.taintedInState.getD c.state

section LastState

variable {c c' : LifecycleController}

theorem LifecycleController.Inv.lastState (h : Inv c) (hs : c.state ≠ .tainted) :
    c.lastState = c.state := by
  have hnone : c.taintedInState = none := not_not.mp fun hne => hs (h.taintedIn.mp hne)
  unfold LifecycleController.lastState
  rw [hnone]
  rfl

theorem lastState_taintedWith (h : Inv c) (hs : c.state ≠ .tainted) (reason : String) :
    (c.taintedWith reason).lastState = c.lastState := (h.lastState hs).symm

theorem LifecycleController.Fails.lastState {e : PyExc} (h : Inv c) (hf : c.Fails e c') :
    c'.lastState = c.lastState := by
  obtain ⟨_, -, ⟨-, rfl⟩ | ⟨-, hs, reason, rfl⟩⟩ := hf
  · rfl
  · exact lastState_taintedWith h hs reason

theorem lastState_accepted_taint (h : Inv c) {reason : String} {e : RolloutCoreError}
    (ha : Accepted (.taint reason) c e c') : c'.lastState = c.lastState := by
  cases ha with
  | taint hs => exact lastState_taintedWith h hs reason
  | taintAgain => rfl

theorem lastState_env (h : Inv c) (he : anyAdapter.env c c') : c'.lastState = c.lastState := by
  obtain ⟨op, hop, rfl⟩ := he
  obtain ⟨c', hc', heff⟩ := op.effect h
  rw [hc']
  cases heff with
  | rejected _ _ hc => rw [hc]
  | tainted _ _ hs hc => rw [hc, lastState_taintedWith h hs]
  | accepted _ ha =>
    cases ha with
    | taint hs => exact lastState_taintedWith h hs _
    | taintAgain | admitRollout | finishRollout | abortRollout => rfl
    | _ => exact hop.elim

end LastState

/-! ## With any adapter -/

/-- After exchanges of `P` the method `m` was called. -/
def CalledAfter (P : List AdapterExchange → Prop) (m : AdapterCall)
    (l : List AdapterExchange) : Prop :=
  ∃ l' reply, P l' ∧ l = l' ++ [⟨m, reply⟩]

/-- What a cycle that installs `t` has exchanged when it raised, by the last state of the
controller. -/
def StoppedIn (t : UpdateTarget) : LifecycleState → List AdapterExchange → Prop
  | .ready, l => l = []
  | .draining, l => CalledAfter (· = []) .beginDrain l ∨ ∃ polls, l = drainExchanges polls ∨
      CalledAfter (· = drainExchanges polls) .awaitDrain l
  | .quiesced, l => Drained l
  | .updating, l =>
    CalledAfter Drained (.startWeightUpdate t) l ∨
      CalledAfter (Opened t) (.completeWeightUpdate t) l
  | .invalidating, l => CalledAfter (Updated t) (.invalidateCaches t) l
  | .validating, l => CalledAfter (Invalidated t) (.validatePreResume t) l
  | .resuming, l => CalledAfter (Validated t) (.resume t) l
  | .uninitialized, _ | .tainted, _ => False

/-- The last state at a point that has neither failed nor committed. -/
def CyclePoint.last : CyclePoint → Option LifecycleState
  | .start => some .ready
  | pt => pt.phase

/-- What is known of the controller and of the exchanges at a point. -/
structure CyclePoint.Told (t : UpdateTarget) (pt : CyclePoint) (l : List AdapterExchange)
    (c : LifecycleController) : Prop where
  last : ∀ s, pt.last = some s → c.lastState = s
  stopped : pt.Failing → StoppedIn t c.lastState l

section Told

variable {t : UpdateTarget} {t₀ : Option UpdateTarget} {pt pt' : CyclePoint}
  {c c' : LifecycleController} {l : List AdapterExchange}

/-- At a point that has not failed only the state matters. -/
theorem CyclePoint.Told.of_last {s : LifecycleState} (hf : ¬ pt.Failing) (hpt : pt.last = some s)
    (hs : c.lastState = s) : pt.Told t l c where
  last _ hs' := hs.trans (Option.some.inj (hpt.symm.trans hs'))
  stopped h := absurd h hf

/-- At a point without one only a failure matters. -/
theorem CyclePoint.Told.of_none (hpt : pt.last = none)
    (h : pt.Failing → StoppedIn t c.lastState l) : pt.Told t l c where
  last _ hs := by
    rw [hpt] at hs
    cases hs
  stopped := h

theorem CyclePoint.Told.of_accepted {s : LifecycleState} (hi : Inv c) (hf : ¬ pt.Failing)
    (hpt : pt.last = some s) (hs : c.state = s) (hne : s ≠ .tainted) : pt.Told t l c :=
  .of_last hf hpt ((hi.lastState (hs ▸ hne)).trans hs)

theorem stopped_of_adapter (h : pt.Told t l c) (hex : pt.ExchangedAt t l) {m : AdapterCall}
    (hcall : pt.call? t = some (.adapter m)) (reply : Except PyExc m.Ret) :
    StoppedIn t c.lastState (l ++ [⟨m, reply⟩]) := by
  cases pt <;> cases hcall <;> rw [h.last _ rfl]
  case begun.refl => exact .inl ⟨l, reply, hex, rfl⟩
  case draining.refl =>
    obtain ⟨polls, hl⟩ := hex
    exact .inr ⟨polls, .inr ⟨l, reply, hl, rfl⟩⟩
  case updating.refl => exact .inl ⟨l, reply, hex, rfl⟩
  case opened.refl => exact .inr ⟨l, reply, hex, rfl⟩
  all_goals exact ⟨l, reply, hex, rfl⟩

theorem stopped_of_ctrl (h : pt.Told t l c) (hex : pt.ExchangedAt t l) {op : Op}
    (hcall : pt.call? t = some (.ctrl op)) : StoppedIn t c.lastState l := by
  cases pt <;> cases hcall
  case tainting.refl => exact h.stopped trivial
  all_goals rw [h.last _ rfl]
  case start.refl => exact hex
  case polled.refl e =>
    obtain ⟨polls, rfl⟩ := hex
    exact .inr ⟨_, .inl rfl⟩
  case quiesced.refl => exact hex
  case staged.refl e =>
    obtain ⟨l', hl', rfl⟩ := hex
    exact .inr ⟨l', .ok e, hl', rfl⟩
  all_goals
    obtain ⟨l', hl', rfl⟩ := hex
    exact ⟨l', _, hl', rfl⟩

theorem CyclePoint.Told.env (h : pt.Told t l c) (hi : Inv c) (he : anyAdapter.env c c') :
    pt.Told t l c' where
  last s hs := (lastState_env hi he).trans (h.last s hs)
  stopped hf := by
    rw [lastState_env hi he]
    exact h.stopped hf

/-- **Every step of a cycle keeps it.** -/
theorem CyclePoint.Told.step (h : pt.Told t l c) (hat : pt.At t t₀ c) (hex : pt.ExchangedAt t l)
    {call : RunnerCall} {reply : call.Reply} (hstep : CycleStep t pt call reply pt')
    (ha : anyAdapter.answers call c reply c') :
    pt'.Told t (l ++ (adapterExchange? ⟨call, reply⟩).toList) c' := by
  cases hstep with
  | view hv =>
    obtain rfl := view_answers hv ha
    cases call with
    | state | monotonic | sleep => exact (List.append_nil l).symm ▸ h
    | _ => exact hv.elim
  | beginDrain | drained | beginUpdate | updated | invalidated | validated =>
    have hi := (ctrl_answers.mp ha).inv hat.inv
    cases (ctrl_answers.mp ha).accepted hat.inv
    exact .of_accepted hi not_false rfl rfl (by simp)
  | pause | poll | startUpdate | transfer | invalidate | validate | resume =>
    obtain rfl : c' = c := ha
    exact .of_last not_false rfl (h.last _ rfl)
  | notYet =>
    have hlast := ((ctrl_answers.mp ha).fails hat.inv).lastState hat.inv
    exact .of_last not_false rfl (hlast.trans (h.last _ rfl))
  | resumed | commit => exact .of_none rfl False.elim
  | uncommitted =>
    obtain ⟨hr, rfl⟩ := ha
    cases hr.trans hat.current
  | refused hcall =>
    have hlast := ((ctrl_answers.mp ha).fails hat.inv).lastState hat.inv
    refine .of_none rfl fun _ => ?_
    rw [hlast]
    show StoppedIn t _ (l ++ [])
    rw [List.append_nil]
    exact stopped_of_ctrl h hex hcall
  | failed hcall | ambiguous hcall | unprinted hcall =>
    obtain rfl : c' = c := ha
    exact .of_none rfl fun _ => stopped_of_adapter h hex hcall _
  | tainted =>
    have hlast := lastState_accepted_taint hat.inv ((ctrl_answers.mp ha).accepted hat.inv)
    refine .of_none rfl fun _ => ?_
    rw [hlast]
    show StoppedIn t _ (l ++ [])
    rw [List.append_nil]
    exact h.stopped trivial

theorem told_of_cycleFrom {r : LifecycleRunner} {tr : List CycleEvent} (hi : Inv c)
    (hs : c.state = .ready) (h : CycleFrom r anyAdapter t c pt tr c') :
    pt.Told t (adapterExchanges (exchanges tr)) c' := by
  induction h with
  | start h =>
    obtain ⟨rfl, rfl⟩ := h
    exact .of_accepted hi not_false rfl hs (by simp)
  | env h he ih =>
    rw [exchanges_append, show exchanges ([.env _ _] : List CycleEvent) = [] from rfl,
      List.append_nil]
    exact ih.env (at_of_cycleFrom hi h).inv he
  | call h hstep ha ih =>
    rw [exchanges_concat, adapterExchanges_concat]
    exact ih.step (at_of_cycleFrom hi h) (exchangedAt hi h) hstep ha
  | exhausted h ih =>
    obtain ⟨polls, hpolls⟩ := exchangedAt hi h
    refine .of_none rfl fun _ => ?_
    rw [ih.last _ rfl]
    exact .inr ⟨polls, .inl hpolls⟩

/-- **A cycle that raised** stopped in its last state, and committed nothing. -/
theorem stopped_of_run {r : LifecycleRunner} {tr : List CycleEvent} {e : PyExc} (hi : Inv c)
    (hs : c.state = .ready) (h : Run anyAdapter (r.runCycle t) c tr (.throw e) c') :
    c'.currentTarget = c.currentTarget ∧
      StoppedIn t c'.lastState (adapterExchanges (exchanges tr)) := by
  obtain ⟨pt, hpt, -, hraise⟩ := cycleFrom_of_run h
  obtain rfl := hraise e rfl
  exact ⟨(at_of_cycleFrom hi hpt).current, (told_of_cycleFrom hi hs hpt).stopped trivial⟩

end Told

/-! ## The scripts of the HTTP methods -/

section Scripts

namespace HttpVLLMAdapter

/-- A request without a body. -/
def request (a : HttpVLLMAdapter) (method path query : String) : HttpCall :=
  .request method (a.url path query) none a.timeout

variable {J : JsonModule} {a : HttpVLLMAdapter} {method path query : String}

theorem follows_call :
    (a.call method path none query none).Follows [a.request method path query] :=
  (follows_op _).bind fun _ => follows_ofExcept _

theorem follows_getJson : (a.getJson J path query).Follows [a.request "GET" path query] :=
  follows_call.bind fun _ => follows_ofExcept _

/-- Caught, a failed call is the end of the call and not of the method. -/
theorem follows_succeeds :
    (succeeds (a.call method path none query none)).Follows [a.request method path query] := by
  refine ⟨[], rfl, fun answer => ?_⟩
  show ((ofExcept (accept method path answer)).attempt.bind _).Follows []
  cases accept method path answer with
  | ok r => rfl
  | error e => cases e <;> trivial

theorem follows_weightInfo : (a.weightInfo J).Follows [a.request "GET" "/weight_info" ""] :=
  follows_getJson.bind fun body => (follows_ofExcept (body.get "weight_version")).bind fun v => by
    cases v <;> trivial

theorem follows_isPaused : (a.isPaused J).Follows [a.request "GET" "/is_paused" ""] :=
  follows_getJson.bind fun _ => (follows_ofExcept _).bind fun _ => rfl

theorem follows_completeWeightUpdate (t : UpdateTarget) : (completeWeightUpdate t).Follows
    [.inflight, .driverTransfer t, .setInflight none] := by
  refine (follows_op HttpCall.inflight).bind fun opened => ?_
  dsimp only
  split_ifs
  · trivial
  · refine (follows_op (HttpCall.driverTransfer t)).bind fun reply => ?_
    refine (follows_ofExcept reply).bind fun _ => ?_
    exact (follows_op (HttpCall.setInflight none)).bind fun _ => rfl

theorem follows_invalidateCaches : (a.invalidateCaches J).Follows
    [a.request "POST" "/reset_prefix_cache" prefixQuery, a.request "POST" "/reset_encoder_cache" "",
      a.request "POST" "/reset_mm_cache" ""] := by
  have hrest : ∀ prefixOk : Bool, (do
      let encoderOk ← succeeds (a.call "POST" "/reset_encoder_cache" none "" none)
      let mmOk ← succeeds (a.call "POST" "/reset_mm_cache" none "" none)
      return ⟨prefixOk, encoderOk, mmOk⟩ : HttpProg InvalidateEvidence).Follows
        [a.request "POST" "/reset_encoder_cache" "", a.request "POST" "/reset_mm_cache" ""] :=
    fun _ => follows_succeeds.bind fun _ => follows_succeeds.bind fun _ => rfl
  refine follows_call.bind fun r => (follows_ofExcept (r.json J)).bind fun body => ?_
  dsimp only
  split_ifs
  · exact (follows_ofExcept (body.get "success")).bind fun _ => hrest _
  · exact hrest _

theorem follows_validatePreResume (t : UpdateTarget) : (a.validatePreResume J t).Follows
    [a.request "GET" "/weight_info" "", a.request "GET" "/is_paused" ""] :=
  follows_weightInfo.bind fun _ => follows_isPaused.bind fun _ => rfl

theorem follows_resume (t : UpdateTarget) : (a.resume J t).Follows
    [a.request "POST" "/resume" "", a.request "GET" "/is_paused" "",
      a.request "GET" "/weight_info" ""] :=
  follows_succeeds.bind fun _ => follows_isPaused.bind fun _ => follows_weightInfo.bind fun _ => rfl

end HttpVLLMAdapter

end Scripts

/-! ## On the wire -/

/-- The calls a cycle makes on engine and driver in a state, in order. -/
def phaseCalls (a : HttpVLLMAdapter) (t : UpdateTarget) : LifecycleState → List HttpCall
  | .updating => [.driverTransfer t]
  | .invalidating => [a.request "POST" "/reset_prefix_cache" HttpVLLMAdapter.prefixQuery,
      a.request "POST" "/reset_encoder_cache" "", a.request "POST" "/reset_mm_cache" ""]
  | .validating => [a.request "GET" "/weight_info" "", a.request "GET" "/is_paused" ""]
  | .resuming => [a.request "POST" "/resume" "", a.request "GET" "/is_paused" "",
      a.request "GET" "/weight_info" ""]
  | _ => []

/-- What it has exchanged before them. -/
def DoneOnWire (J : JsonModule) (a : HttpVLLMAdapter) (t : UpdateTarget) :
    LifecycleState → List HttpExchange → Prop
  | .ready, l => l = []
  | .draining, l | .quiesced, l | .updating, l => ∀ x ∈ l, IsAbort a x
  | .invalidating, l => DeliveredOnWire a t l
  | .validating, l => ResetOnWire J a t l
  | .resuming, l => ValidatedOnWire J a t l
  | .uninitialized, _ | .tainted, _ => False

/-- What a cycle that raised has exchanged, by the last state of the controller: what comes before
the calls of that state, and the first ones of these, whatever was answered. Of these it has made
at least one, but in UPDATING it may not have come to the driver. -/
def StoppedOnWire (J : JsonModule) (a : HttpVLLMAdapter) (t : UpdateTarget) (s : LifecycleState)
    (l : List HttpExchange) : Prop :=
  ∃ done begun, DoneOnWire J a t s done ∧ l = done ++ begun ∧
    begun.map (·.1) <+: phaseCalls a t s ∧
    (begun = [] → s = .updating ∨ phaseCalls a t s = [])

section Wire

variable {J : JsonModule} {a : HttpVLLMAdapter} {t : UpdateTarget} {s : LifecycleState}
  {l : List HttpExchange} {l₀ : List AdapterExchange} {m : AdapterCall}

theorem OnWire.of_calledAfter {P : List AdapterExchange → Prop} (h : CalledAfter P m l₀)
    (hw : OnWire J a l₀ l) :
    ∃ l₁ l₂ l' reply, P l₁ ∧ OnWire J a l₁ l₂ ∧ (a.method J m).Yields l' reply ∧
      l = l₂ ++ wire l' := by
  obtain ⟨l₁, reply, hP, rfl⟩ := h
  obtain ⟨l₂, l', hw', hy, rfl⟩ := hw.of_concat
  exact ⟨l₁, l₂, l', reply, hP, hw', hy, rfl⟩

/-- Of a script, what leaves the process. -/
theorem wire_map_of_follows {α : Type} {p : HttpProg α} {script : List HttpCall}
    {x : Except PyExc α} (hf : p.Follows script) (hy : p.Yields l x) :
    (wire l).map (·.1) <+: script.filter HttpCall.onWire := by
  have hsub := (hf.isPrefix hy).filter HttpCall.onWire
  rwa [List.filter_map] at hsub

theorem wire_ne_nil {α : Type} {call : HttpCall} {next : call.Reply → HttpProg α}
    {x : Except PyExc α} (hcall : call.onWire = true)
    (hy : (Prog.perform call next : HttpProg α).Yields l x) : wire l ≠ [] := by
  cases hy
  simp [wire, hcall]

theorem StoppedOnWire.of_done (h : DoneOnWire J a t s l)
    (hs : s = .updating ∨ phaseCalls a t s = []) : StoppedOnWire J a t s l :=
  ⟨l, [], h, (List.append_nil l).symm, ⟨_, rfl⟩, fun _ => hs⟩

theorem StoppedOnWire.of_follows {script : List HttpCall} {l' : List HttpExchange}
    {reply : Except PyExc m.Ret} (h : DoneOnWire J a t s l) (hy : (a.method J m).Yields l' reply)
    (hf : (a.method J m).Follows script)
    (hscript : script.filter HttpCall.onWire = phaseCalls a t s)
    (hne : s = .updating ∨ wire l' ≠ []) :
    StoppedOnWire J a t s (l ++ wire l') :=
  ⟨l, wire l', h, rfl, hscript ▸ wire_map_of_follows hf hy, fun hnil =>
    .inl (hne.resolve_right fun h => h hnil)⟩

/-- **Stopped with its adapter, stopped on the wire.** -/
theorem OnWire.of_stopped (h : StoppedIn t s l₀) (hw : OnWire J a l₀ l) :
    StoppedOnWire J a t s l := by
  cases s with
  | ready =>
    obtain rfl : l₀ = [] := h
    exact .of_done hw.of_nil (.inr rfl)
  | draining =>
    refine .of_done (s := .draining) ?_ (.inr rfl)
    rcases h with hbegin | ⟨polls, rfl | hawait⟩
    · obtain ⟨_, l₁, l', reply, rfl, hnil, hy, rfl⟩ := hw.of_calledAfter hbegin
      rw [hnil.of_nil, wire_eq_nil hy fun call hcall => by cases hcall <;> rfl]
      simp [DoneOnWire]
    · exact hw.of_drain
    · obtain ⟨_, l₁, l', reply, rfl, hpolls, hy, rfl⟩ := hw.of_calledAfter hawait
      exact List.forall_mem_append.mpr ⟨hpolls.of_drain, fun _ => isAbort_of_awaitDrain hy⟩
  | quiesced => exact .of_done (hw.of_drained h) (.inr rfl)
  | updating =>
    rcases h with hstart | hcomplete
    · obtain ⟨l₁, l₂, l', reply, hdrained, hw', hy, rfl⟩ := hw.of_calledAfter hstart
      rw [wire_eq_nil hy fun call hcall => by cases hcall; rfl, List.append_nil]
      exact .of_done (hw'.of_drained hdrained) (.inl rfl)
    · obtain ⟨l₁, l₂, l', reply, hopened, hw', hy, rfl⟩ := hw.of_calledAfter hcomplete
      exact .of_follows (hw'.of_opened hopened) hy
        (HttpVLLMAdapter.follows_completeWeightUpdate t) rfl (.inl rfl)
  | invalidating =>
    obtain ⟨l₁, l₂, l', reply, hupdated, hw', hy, rfl⟩ := hw.of_calledAfter h
    exact .of_follows (hw'.of_updated hupdated) hy HttpVLLMAdapter.follows_invalidateCaches rfl
      (.inr (wire_ne_nil rfl hy))
  | validating =>
    obtain ⟨l₁, l₂, l', reply, hinvalidated, hw', hy, rfl⟩ := hw.of_calledAfter h
    exact .of_follows (hw'.of_invalidated hinvalidated) hy
      (HttpVLLMAdapter.follows_validatePreResume t) rfl (.inr (wire_ne_nil rfl hy))
  | resuming =>
    obtain ⟨l₁, l₂, l', reply, hvalidated, hw', hy, rfl⟩ := hw.of_calledAfter h
    exact .of_follows (hw'.of_validated hvalidated) hy (HttpVLLMAdapter.follows_resume t) rfl
      (.inr (wire_ne_nil rfl hy))
  | uninitialized | tainted => exact h.elim

end Wire

/-- **A failed cycle on the wire.** If `run_cycle` over HTTP raised, begun in READY, whatever
transport and driver answered and whoever came in between, it has committed nothing, and the state
its controller is in, or was tainted in, tells what its thread has sent: in the order of a committed
cycle, everything that comes before the calls of that state, answered as it should be, and the first
ones of these. -/
theorem failed_transcript (J : JsonModule) (a : HttpVLLMAdapter)
    (allowed : DrainSystem → ℕ → Prop) (r : LifecycleRunner) (t : UpdateTarget) {s s' : HttpSystem}
    {tr : List HttpEvent} {e : PyExc} (hc : Reachable s.controller)
    (hs : s.controller.state = .ready)
    (h : Run (httpWorld a allowed) ((r.runCycle t).interp (a.handle J)) s tr (.throw e) s') :
    s'.controller.currentTarget = s.controller.currentTarget ∧
      StoppedOnWire J a t s'.controller.lastState (wire (exchanges tr)) := by
  obtain ⟨tr₀, hrun, hcov⟩ := Run.lower_ended (x := .error e) (http_lowers J a allowed) h
  obtain ⟨hcur, hstopped⟩ := stopped_of_run hc.inv hs hrun
  exact ⟨hcur, (onWire_of_covers hcov).of_stopped hstopped⟩

/-- A cycle to `rc-2` over a server that goes on saying `rc-1`. -/
abbrev mislabelledCycle : HttpProg CycleResult :=
  (LifecycleRunner.runCycle {} ⟨⟨2⟩, identityB⟩).interp (deliveringAdapter.handle servedJson)

/-- It delivers, resets, reads the label and stops there. -/
theorem failed_transcript_mislabelled : ∃ tr e s',
    Run (httpWorld deliveringAdapter fun _ _ => True) mislabelledCycle ⟨bootstrapped, none, {}⟩ tr
      (.throw e) s' ∧
    s'.controller.currentTarget = bootstrapped.currentTarget ∧
    s'.controller.taintedInState = some .validating ∧ (wire (exchanges tr)).length = 6 ∧
    StoppedOnWire servedJson deliveringAdapter ⟨⟨2⟩, identityB⟩ .validating
      (wire (exchanges tr)) := by
  have hrun := run_commitPlay mislabelledCycle ⟨bootstrapped, none, {}⟩
  have hok : (commitPlay mislabelledCycle ⟨bootstrapped, none, {}⟩).2.1.toBool = false := by
    decide +kernel
  have htainted : (commitPlay mislabelledCycle
      ⟨bootstrapped, none, {}⟩).2.2.controller.taintedInState = some .validating := by
    decide +kernel
  have hlen :
      (wire (exchanges (commitPlay mislabelledCycle ⟨bootstrapped, none, {}⟩).1)).length = 6 := by
    decide +kernel
  generalize commitPlay mislabelledCycle ⟨bootstrapped, none, {}⟩ = out at hrun hok htainted hlen
  obtain ⟨tr, e | res, s'⟩ := out
  · obtain ⟨hcur, hstopped⟩ := failed_transcript servedJson deliveringAdapter _ {}
      ⟨⟨2⟩, identityB⟩ reachable_bootstrapped (by decide +kernel) hrun
    rw [show s'.controller.lastState = .validating from
      congrArg (fun s => Option.getD s s'.controller.state) htainted] at hstopped
    exact ⟨tr, e, s', hrun, hcur, htainted, hlen, hstopped⟩
  · cases hok

end RolloutCore
