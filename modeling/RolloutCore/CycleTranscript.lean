import RolloutCore.HttpEvidence
import RolloutCore.HttpSystem

/-!
# The transcript of a committed cycle

What a cycle that returns has exchanged with its adapter, whatever the adapter (`Resumed`), and what
it has therefore exchanged with the engine and the driver when the adapter is the HTTP one
(`committed_transcript`).
-/

namespace RolloutCore

open LifecycleController Prog

/-! ## With any adapter -/

/-- A call of the adapter with its outcome. -/
abbrev AdapterExchange := (m : AdapterCall) × Except PyExc m.Ret

def adapterExchange? : Exchange RunnerCall.Reply → Option AdapterExchange
  | ⟨.adapter m, reply⟩ => some ⟨m, reply⟩
  | _ => none

/-- The exchanges with the adapter, in order. -/
def adapterExchanges (l : List (Exchange RunnerCall.Reply)) : List AdapterExchange :=
  l.filterMap adapterExchange?

def pollExchange (e : DrainEvidence) : AdapterExchange := ⟨.awaitDrain, .ok e⟩

/-- A drain begun and polled. -/
def drainExchanges (polls : List DrainEvidence) : List AdapterExchange :=
  ⟨.beginDrain, .ok ()⟩ :: polls.map pollExchange

/-- The exchanges of a cycle up to a confirmed drain. -/
def Drained (l : List AdapterExchange) : Prop :=
  ∃ polls e, l = drainExchanges (polls ++ [e]) ∧ e.failureReason = none

/-- Up to an opened update of `t`. -/
def Opened (t : UpdateTarget) (l : List AdapterExchange) : Prop :=
  ∃ l', Drained l' ∧ l = l' ++ [⟨.startWeightUpdate t, .ok ()⟩]

/-- Up to a confirmed update. -/
def Updated (t : UpdateTarget) (l : List AdapterExchange) : Prop :=
  ∃ l' e, Opened t l' ∧ l = l' ++ [⟨.completeWeightUpdate t, .ok e⟩] ∧ e.failureReason = none ∧
    e.target = t

/-- Up to a confirmed invalidation. -/
def Invalidated (t : UpdateTarget) (l : List AdapterExchange) : Prop :=
  ∃ l' e, Updated t l' ∧ l = l' ++ [⟨.invalidateCaches t, .ok e⟩] ∧ e.failureReason = none

/-- Up to a confirmed validation. -/
def Validated (t : UpdateTarget) (l : List AdapterExchange) : Prop :=
  ∃ l' e, Invalidated t l' ∧ l = l' ++ [⟨.validatePreResume t, .ok e⟩] ∧ e.failureReason = none ∧
    e.target = t

/-- Up to the commit. -/
def Resumed (t : UpdateTarget) (l : List AdapterExchange) : Prop :=
  ∃ l' e, Validated t l' ∧ l = l' ++ [⟨.resume t, .ok e⟩] ∧ e.failureReason = none ∧ e.target = t

/-- The exchanges of a cycle that is at a point. -/
def CyclePoint.ExchangedAt (t : UpdateTarget) (l : List AdapterExchange) : CyclePoint → Prop
  | .start | .begun => l = []
  | .draining => ∃ polls, l = drainExchanges polls
  | .polled e => ∃ polls, l = drainExchanges (polls ++ [e])
  | .quiesced | .updating => Drained l
  | .opened => Opened t l
  | .staged e => ∃ l', Opened t l' ∧ l = l' ++ [⟨.completeWeightUpdate t, .ok e⟩]
  | .invalidating => Updated t l
  | .reset e => ∃ l', Updated t l' ∧ l = l' ++ [⟨.invalidateCaches t, .ok e⟩]
  | .validating => Invalidated t l
  | .validated e => ∃ l', Invalidated t l' ∧ l = l' ++ [⟨.validatePreResume t, .ok e⟩]
  | .resuming => Validated t l
  | .resumed e => ∃ l', Validated t l' ∧ l = l' ++ [⟨.resume t, .ok e⟩]
  | .committed | .returned _ => Resumed t l
  | .tainting _ | .raised _ => True

section Exchanged

variable {t : UpdateTarget} {t₀ : Option UpdateTarget} {pt pt' : CyclePoint}
  {c c' : LifecycleController} {l : List AdapterExchange}

theorem drainExchanges_concat (polls : List DrainEvidence) (e : DrainEvidence) :
    drainExchanges polls ++ [pollExchange e] = drainExchanges (polls ++ [e]) := by
  unfold drainExchanges
  rw [List.map_append]
  rfl

theorem adapterExchanges_concat (l : List (Exchange RunnerCall.Reply))
    (x : Exchange RunnerCall.Reply) :
    adapterExchanges (l ++ [x]) = adapterExchanges l ++ (adapterExchange? x).toList := by
  unfold adapterExchanges
  rw [List.filterMap_append]
  cases h : adapterExchange? x <;> simp [h]

/-- **Every step of a cycle adds what it exchanges**, and its evidence was accepted. -/
theorem CyclePoint.ExchangedAt.step {call : RunnerCall} {reply : call.Reply}
    (h : pt.ExchangedAt t l) (hat : pt.At t t₀ c) (hstep : CycleStep t pt call reply pt')
    (ha : anyAdapter.answers call c reply c') :
    pt'.ExchangedAt t (l ++ (adapterExchange? ⟨call, reply⟩).toList) := by
  -- an accepted piece of evidence is about the target of the cycle
  have hpend : ∀ {s : LifecycleState} {e : UpdateTarget}, pt.phase = some s → InFlight s →
      c.state = s → s ≠ .tainted → c.pendingTarget = some e → e = t := by
    intro s e hphase hs hst hne hp
    exact Option.some.inj (hp.symm.trans (hat.pending hphase hs (hst ▸ hne)))
  cases hstep with
  | view hv =>
    cases call with
    | state | monotonic | sleep => exact (List.append_nil l).symm ▸ h
    | _ => exact hv.elim
  | beginDrain => exact (List.append_nil l).trans h
  | pause =>
    obtain rfl : l = [] := h
    exact ⟨[], rfl⟩
  | @poll e =>
    obtain ⟨polls, rfl⟩ := h
    exact ⟨polls, drainExchanges_concat polls e⟩
  | @notYet e =>
    obtain ⟨polls, rfl⟩ := h
    exact ⟨polls ++ [e], List.append_nil _⟩
  | drained =>
    obtain ⟨polls, rfl⟩ := h
    cases (ctrl_answers.mp ha).accepted hat.inv with
    | confirmDrained _ _ he => exact ⟨polls, _, List.append_nil _, he⟩
  | beginUpdate => exact (List.append_nil l).symm ▸ h
  | startUpdate => exact ⟨l, h, rfl⟩
  | transfer => exact ⟨l, h, rfl⟩
  | updated =>
    obtain ⟨l', hl', rfl⟩ := h
    cases (ctrl_answers.mp ha).accepted hat.inv with
    | confirmUpdated hs hp he =>
      exact ⟨l', _, hl', List.append_nil _, he, hpend rfl (.inl rfl) hs (by simp) hp⟩
  | invalidate => exact ⟨l, h, rfl⟩
  | invalidated =>
    obtain ⟨l', hl', rfl⟩ := h
    cases (ctrl_answers.mp ha).accepted hat.inv with
    | confirmInvalidated _ _ he => exact ⟨l', _, hl', List.append_nil _, he⟩
  | validate => exact ⟨l, h, rfl⟩
  | validated =>
    obtain ⟨l', hl', rfl⟩ := h
    cases (ctrl_answers.mp ha).accepted hat.inv with
    | confirmValidated hs hp he =>
      exact ⟨l', _, hl', List.append_nil _, he,
        hpend rfl (.inr (.inr (.inl rfl))) hs (by simp) hp⟩
  | resume => exact ⟨l, h, rfl⟩
  | resumed =>
    obtain ⟨l', hl', rfl⟩ := h
    cases (ctrl_answers.mp ha).accepted hat.inv with
    | confirmResumed hs hp he =>
      exact ⟨l', _, hl', List.append_nil _, he,
        hpend rfl (.inr (.inr (.inr rfl))) hs (by simp) hp⟩
  | commit => exact (List.append_nil l).symm ▸ h
  | _ => trivial

/-- The exchanges of a cycle, wherever it has got. -/
theorem exchangedAt {r : LifecycleRunner} {tr : List CycleEvent} (hi : Inv c)
    (h : CycleFrom r anyAdapter t c pt tr c') :
    pt.ExchangedAt t (adapterExchanges (exchanges tr)) := by
  induction h with
  | start h => rw [h.1]; rfl
  | env h he ih =>
    rw [exchanges_append, show exchanges ([.env _ _] : List CycleEvent) = [] from rfl,
      List.append_nil]
    exact ih
  | call h hstep ha ih =>
    rw [exchanges_concat, adapterExchanges_concat]
    exact ih.step (at_of_cycleFrom hi h) hstep ha
  | exhausted => trivial

/-- **A cycle that returned** went through all of its exchanges, and committed its target. -/
theorem resumed_of_run {r : LifecycleRunner} {tr : List CycleEvent} {res : CycleResult}
    (hi : Inv c) (h : Run anyAdapter (r.runCycle t) c tr (.pure res) c') :
    Resumed t (adapterExchanges (exchanges tr)) ∧ res.committed = t ∧
      c'.currentTarget = some t := by
  obtain ⟨pt, hpt, hret, -⟩ := cycleFrom_of_run h
  obtain rfl := hret res rfl
  have hat := at_of_cycleFrom hi hpt
  exact ⟨exchangedAt hi hpt, hat.result _ rfl, hat.current⟩

end Exchanged

/-! ## On the wire -/

/-- What leaves the process: requests and calls of the driver. -/
def HttpCall.onWire : HttpCall → Bool
  | .request .. | .driverInitialise | .driverTransfer _ => true
  | _ => false

/-- What an execution exchanges with engine and driver. -/
def wire (l : List HttpExchange) : List HttpExchange := l.filter (·.1.onWire)

/-- The exchanges with the adapter, and what its methods exchanged for them on the wire. -/
inductive OnWire (J : JsonModule) (a : HttpVLLMAdapter) :
    List AdapterExchange → List HttpExchange → Prop
  | nil : OnWire J a [] []
  | snoc {l₀ : List AdapterExchange} {l l' : List HttpExchange} {m : AdapterCall}
      {reply : Except PyExc m.Ret} (h : OnWire J a l₀ l) (hy : (a.method J m).Yields l' reply) :
      OnWire J a (l₀ ++ [⟨m, reply⟩]) (l ++ wire l')

section Wire

variable {J : JsonModule} {a : HttpVLLMAdapter} {t : UpdateTarget} {l : List HttpExchange}
  {l₀ : List AdapterExchange}

theorem onWire_of_covers {l₀ : List (Exchange RunnerCall.Reply)}
    (h : Covers (a.handle J) l₀ l) : OnWire J a (adapterExchanges l₀) (wire l) := by
  induction h with
  | nil => exact .nil
  | @snoc l₀ l l' call reply _ hy ih =>
    rw [adapterExchanges_concat, wire, List.filter_append]
    cases call with
    | adapter m => exact ih.snoc (yields_attempt.mp hy)
    | _ =>
      cases hy with
      | perform hy =>
        cases hy
        show OnWire J a (adapterExchanges l₀ ++ []) (wire l ++ [])
        rw [List.append_nil, List.append_nil]
        exact ih

theorem OnWire.of_concat {m : AdapterCall} {reply : Except PyExc m.Ret}
    (h : OnWire J a (l₀ ++ [⟨m, reply⟩]) l) :
    ∃ l₁ l', OnWire J a l₀ l₁ ∧ (a.method J m).Yields l' reply ∧ l = l₁ ++ wire l' := by
  generalize hx : l₀ ++ [⟨m, reply⟩] = l₂ at h
  cases h with
  | nil => simp at hx
  | snoc h hy =>
    obtain ⟨rfl, heq⟩ := List.append_inj' hx rfl
    cases heq
    exact ⟨_, _, h, hy, rfl⟩

theorem OnWire.of_nil (h : OnWire J a [] l) : l = [] := by
  generalize hx : ([] : List AdapterExchange) = l₀ at h
  cases h with
  | nil => rfl
  | snoc => simp at hx

/-- The abort of the stragglers. -/
def IsAbort (a : HttpVLLMAdapter) (x : HttpExchange) : Prop :=
  ∃ answer, x = ⟨.request "POST" (a.url "/abort_requests" "") (some (.obj [])) a.timeout, answer⟩

/-- A method none of whose calls leave the process. -/
theorem wire_eq_nil {m : AdapterCall} {reply : Except PyExc m.Ret}
    (hy : (a.method J m).Yields l reply) (hm : ∀ call, a.Makes m call → call.onWire = false) :
    wire l = [] := by
  refine List.filter_eq_nil_iff.mpr fun x hx => ?_
  simp [hm _ ((a.performs_method J m).yields hy x hx)]

theorem isAbort_of_awaitDrain {reply : Except PyExc DrainEvidence} {x : HttpExchange}
    (hy : (a.method J .awaitDrain).Yields l reply) (hx : x ∈ wire l) : IsAbort a x := by
  obtain ⟨hx, hwire⟩ := List.mem_filter.mp hx
  obtain ⟨call, answer⟩ := x
  have hmakes := (a.performs_method J .awaitDrain).yields hy _ hx
  cases hmakes with
  | abort => exact ⟨answer, rfl⟩
  | _ => cases hwire

/-- A drain sends nothing but aborts; the pauses are on threads of their own. -/
theorem OnWire.of_drain {polls : List DrainEvidence} (h : OnWire J a (drainExchanges polls) l) :
    ∀ x ∈ l, IsAbort a x := by
  induction polls using List.reverseRecOn generalizing l with
  | nil =>
    replace h : OnWire J a ([] ++ [⟨.beginDrain, .ok ()⟩]) l := h
    obtain ⟨l₁, l', hnil, hy, rfl⟩ := h.of_concat
    rw [hnil.of_nil, wire_eq_nil hy fun call hcall => by cases hcall <;> rfl]
    simp
  | append_singleton polls e ih =>
    rw [← drainExchanges_concat] at h
    obtain ⟨l₁, l', hpolls, hy, rfl⟩ := h.of_concat
    exact List.forall_mem_append.mpr ⟨ih hpolls, fun _ => isAbort_of_awaitDrain hy⟩

theorem completeWeightUpdate_yields {ev : UpdateEvidence}
    (h : (HttpVLLMAdapter.completeWeightUpdate t).Yields l (.ok ev)) :
    ∃ report : WeightTransferReport, wire l = [⟨.driverTransfer t, .ok report⟩] ∧
      ev = ⟨t, report.dataPlaneComplete, report.finishAcknowledged, report.chunksTransferred,
        report.dataPlaneComplete, report.observedIdentity⟩ := by
  obtain ⟨opened, l₁, rfl, h₁⟩ := Yields.of_op h
  dsimp only at h₁
  split_ifs at h₁
  · cases h₁
  · obtain ⟨reply, l₂, rfl, h₂⟩ := Yields.of_op h₁
    obtain ⟨report, l₃, l₄, hreport, h₃, rfl⟩ := yields_bind.mp h₂
    obtain ⟨rfl, rfl⟩ := yields_ofExcept.mp hreport
    obtain ⟨_, l₅, rfl, h₄⟩ := Yields.of_op h₃
    cases h₄
    exact ⟨report, rfl, rfl⟩

/-- The answer is an object, with something `P` accepts under the key. -/
def Reads (J : JsonModule) (r : Response) (key : String) (P : Json → Prop) : Prop :=
  ∃ fields, r.json J = .ok (.obj fields) ∧ P (Json.lookup fields key)

/-- What a committed cycle reads off the answers of engine and driver. -/
structure CommitReadings (J : JsonModule) (t : UpdateTarget) (report : WeightTransferReport)
    (reset encoder mm label paused resumed running published : Response) : Prop where
  complete : report.dataPlaneComplete = true
  finished : report.finishAcknowledged = true
  staged : report.observedIdentity = none ∨ report.observedIdentity = some t.identity
  statuses : ∀ r ∈ [reset, encoder, mm, label, paused, resumed, running, published], r.status < 400
  reset : Reads J reset "success" (·.truthy = true)
  label : Reads J label "weight_version" (· = .str t.label)
  paused : Reads J paused "is_paused" (·.truthy = true)
  running : Reads J running "is_paused" (·.truthy = false)
  published : Reads J published "weight_version" (· = .str t.label)

/-- The exchanges of a committed cycle after its drain. -/
def commitExchanges (a : HttpVLLMAdapter) (t : UpdateTarget) (report : WeightTransferReport)
    (reset encoder mm label paused resumed running published : Response) : List HttpExchange :=
  [⟨.driverTransfer t, .ok report⟩,
    a.exchange "POST" "/reset_prefix_cache" HttpVLLMAdapter.prefixQuery (.ok reset),
    a.exchange "POST" "/reset_encoder_cache" "" (.ok encoder),
    a.exchange "POST" "/reset_mm_cache" "" (.ok mm),
    a.exchange "GET" "/weight_info" "" (.ok label),
    a.exchange "GET" "/is_paused" "" (.ok paused),
    a.exchange "POST" "/resume" "" (.ok resumed),
    a.exchange "GET" "/is_paused" "" (.ok running),
    a.exchange "GET" "/weight_info" "" (.ok published)]

/-- The exchanges of a committed cycle: aborts while it drained, and the rest. -/
def CommittedOnWire (J : JsonModule) (a : HttpVLLMAdapter) (t : UpdateTarget)
    (l : List HttpExchange) : Prop :=
  ∃ aborts report reset encoder mm label paused resumed running published,
    (∀ x ∈ aborts, IsAbort a x) ∧
    l = aborts ++ commitExchanges a t report reset encoder mm label paused resumed running
      published ∧
    CommitReadings J t report reset encoder mm label paused resumed running published

/-! ### Phase by phase -/

/-- Up to an opened update nothing but aborts. -/
theorem OnWire.of_drained (h : Drained l₀) (hw : OnWire J a l₀ l) : ∀ x ∈ l, IsAbort a x := by
  obtain ⟨polls, e, rfl, -⟩ := h
  exact hw.of_drain

theorem OnWire.of_opened (h : Opened t l₀) (hw : OnWire J a l₀ l) : ∀ x ∈ l, IsAbort a x := by
  obtain ⟨l₁, hdrained, rfl⟩ := h
  obtain ⟨l', l'', hw', hstart, rfl⟩ := hw.of_concat
  rw [wire_eq_nil hstart fun call hcall => by cases hcall; rfl, List.append_nil]
  exact hw'.of_drained hdrained

/-- Up to a confirmed update: the driver has delivered the target. -/
def DeliveredOnWire (a : HttpVLLMAdapter) (t : UpdateTarget) (l : List HttpExchange) : Prop :=
  ∃ aborts, ∃ report : WeightTransferReport, (∀ x ∈ aborts, IsAbort a x) ∧
    l = aborts ++ [⟨.driverTransfer t, .ok report⟩] ∧ report.dataPlaneComplete = true ∧
    report.finishAcknowledged = true ∧
    (report.observedIdentity = none ∨ report.observedIdentity = some t.identity)

/-- Up to a confirmed invalidation: and the caches have been reset. -/
def ResetOnWire (J : JsonModule) (a : HttpVLLMAdapter) (t : UpdateTarget) (l : List HttpExchange) :
    Prop :=
  ∃ l', ∃ reset encoder mm : Response, DeliveredOnWire a t l' ∧
    l = l' ++ [a.exchange "POST" "/reset_prefix_cache" HttpVLLMAdapter.prefixQuery (.ok reset),
      a.exchange "POST" "/reset_encoder_cache" "" (.ok encoder),
      a.exchange "POST" "/reset_mm_cache" "" (.ok mm)] ∧
    (∀ r ∈ [reset, encoder, mm], r.status < 400) ∧ Reads J reset "success" (·.truthy = true)

/-- Up to a confirmed validation: and the engine says it has the target, and is paused. -/
def ValidatedOnWire (J : JsonModule) (a : HttpVLLMAdapter) (t : UpdateTarget)
    (l : List HttpExchange) : Prop :=
  ∃ l', ∃ label paused : Response, ResetOnWire J a t l' ∧
    l = l' ++ [a.exchange "GET" "/weight_info" "" (.ok label),
      a.exchange "GET" "/is_paused" "" (.ok paused)] ∧
    (∀ r ∈ [label, paused], r.status < 400) ∧
    Reads J label "weight_version" (· = .str t.label) ∧ Reads J paused "is_paused" (·.truthy = true)

theorem OnWire.of_updated (h : Updated t l₀) (hw : OnWire J a l₀ l) : DeliveredOnWire a t l := by
  obtain ⟨l₁, e, hopened, rfl, he, het⟩ := h
  obtain ⟨aborts, l', hw', hcomplete, rfl⟩ := hw.of_concat
  obtain ⟨report, hwire, rfl⟩ := completeWeightUpdate_yields hcomplete
  obtain ⟨hdata, -, hfinish, hstaged⟩ := UpdateEvidence.failureReason_eq_none.mp he
  exact ⟨aborts, report, hw'.of_opened hopened, by rw [hwire], hdata, hfinish, hstaged⟩

theorem OnWire.of_invalidated (h : Invalidated t l₀) (hw : OnWire J a l₀ l) :
    ResetOnWire J a t l := by
  obtain ⟨l₁, e, hupdated, rfl, he⟩ := h
  obtain ⟨l₂, l', hw', hinvalidate, rfl⟩ := hw.of_concat
  obtain ⟨reset, v, answer₁, answer₂, rfl, hs, hjson, hprefix, hencoder, hmm⟩ :=
    HttpVLLMAdapter.invalidateCaches_yields hinvalidate
  obtain ⟨he₁, he₂, he₃⟩ := InvalidateEvidence.failureReason_eq_none.mp he
  obtain ⟨encoder, rfl, hs₁⟩ := hencoder.mp he₂
  obtain ⟨mm, rfl, hs₂⟩ := hmm.mp he₃
  obtain ⟨fields, rfl, hsuccess⟩ := hprefix.mp he₁
  exact ⟨l₂, reset, encoder, mm, hw'.of_updated hupdated, rfl, by simp [hs, hs₁, hs₂], fields,
    hjson, hsuccess⟩

theorem OnWire.of_validated (h : Validated t l₀) (hw : OnWire J a l₀ l) :
    ValidatedOnWire J a t l := by
  obtain ⟨l₁, e, hinvalidated, rfl, he, het⟩ := h
  obtain ⟨l₂, l', hw', hvalidate, rfl⟩ := hw.of_concat
  obtain ⟨label, f₁, paused, f₂, rfl, hs₁, hj₁, hs₂, hj₂, hlabel, hev⟩ :=
    HttpVLLMAdapter.validatePreResume_yields hvalidate
  obtain ⟨he₁, he₂, -⟩ := ValidateEvidence.failureReason_eq_none.mp he
  rw [hev] at he₂
  refine ⟨l₂, label, paused, hw'.of_invalidated hinvalidated, rfl, by simp [hs₁, hs₂],
    ⟨f₁, hj₁, ?_⟩, f₂, hj₂, he₂⟩
  rw [hlabel, he₁, het]

theorem OnWire.of_resumed (hres : Resumed t l₀) (h : OnWire J a l₀ l) :
    CommittedOnWire J a t l := by
  obtain ⟨l₁, e, hvalidated, rfl, he, het⟩ := hres
  obtain ⟨l₂, l', hw, hresume, rfl⟩ := h.of_concat
  obtain ⟨_, label, paused, ⟨_, reset, encoder, mm, ⟨aborts, report, haborts, rfl, hdata, hfinish,
    hstaged⟩, rfl, hs, hreset⟩, rfl, hs', hlabel, hpaused⟩ := hw.of_validated hvalidated
  obtain ⟨answer, running, f₃, published, f₄, observed, rfl, hs₃, hj₃, hs₄, hj₄, hpub, hack,
      hrev⟩ :=
    HttpVLLMAdapter.resume_yields hresume
  obtain ⟨he₁, he₂, he₃⟩ := ResumeEvidence.failureReason_eq_none.mp he
  obtain ⟨resumed, rfl, hresumed⟩ := hack.mp he₁
  rw [hrev] at he₂ he₃
  have hobs : observed = t.label := Option.some.inj (he₃.resolve_left (by simp))
  refine ⟨aborts, report, reset, encoder, mm, label, paused, resumed, running, published, haborts,
    by simp [wire, commitExchanges, HttpCall.onWire], hdata, hfinish, hstaged, ?_, hreset, hlabel,
    hpaused, ⟨f₃, hj₃, he₂⟩, f₄, hj₄, ?_⟩
  · simp only [List.forall_mem_cons] at hs hs' ⊢
    exact ⟨hs.1, hs.2.1, hs.2.2.1, hs'.1, hs'.2.1, hresumed, hs₃, hs₄, by simp⟩
  · rw [hpub, hobs]

end Wire

/-- What a cycle that returned has sent and read. -/
theorem transcript_of_commit {J : JsonModule} {a : HttpVLLMAdapter}
    {allowed : DrainSystem → ℕ → Prop} {r : LifecycleRunner} {t : UpdateTarget} {s s' : HttpSystem}
    {tr : List HttpEvent} {res : CycleResult} (hi : Inv s.controller)
    (h : Run (httpWorld a allowed) ((r.runCycle t).interp (a.handle J)) s tr (.pure res) s') :
    res.committed = t ∧ s'.controller.currentTarget = some t ∧
      CommittedOnWire J a t (wire (exchanges tr)) := by
  obtain ⟨tr₀, hrun, hcov⟩ := Run.lower_ended (x := .ok res) (http_lowers J a allowed) h
  obtain ⟨hres, hcommitted, hcur⟩ := resumed_of_run hi hrun
  exact ⟨hcommitted, hcur, (onWire_of_covers hcov).of_resumed hres⟩

/-- **A committed cycle on the wire.** A run of `run_cycle` over HTTP that returned, whatever
transport and driver answered and whoever came in between, sent aborts of stragglers while it
drained, whatever became of them, and then exactly this, each answered as it should be: one transfer
of the target by the driver, the three resets, the read-backs of label and pause, the resume, and
the read-backs again. -/
theorem committed_transcript (J : JsonModule) (a : HttpVLLMAdapter)
    (allowed : DrainSystem → ℕ → Prop) (r : LifecycleRunner) (t : UpdateTarget) {s s' : HttpSystem}
    {tr : List HttpEvent} {res : CycleResult} (hc : Reachable s.controller)
    (h : Run (httpWorld a allowed) ((r.runCycle t).interp (a.handle J)) s tr (.pure res) s') :
    res.committed = t ∧ s'.controller.currentTarget = some t ∧
      CommittedOnWire J a t (wire (exchanges tr)) := by
  exact transcript_of_commit hc.inv h

/-! ## A committed cycle -/

section Commits

/-- What the drain of `a` replies, when every pause goes through. -/
def drainReply (a : HttpVLLMAdapter) : (call : HttpCall) → DrainSystem → call.Reply × DrainSystem
  | .resetAttempts, s => ((), { s with attempts := 0, drains := s.drains + 1 })
  | .openAttempt, s => (s.attempts + 1,
      { s with attempts := s.attempts + 1, state := .inFlight, opened := s.opened + 1 })
  | .startThread n, s =>
    ((), { s with threads := s.threads ++ [⟨n, s.drains, none, a.pauseAttempt n⟩] })
  | .drainStatus, s => (s.record, s)
  | .closeAttempt n ok error, s => ((), s.closed n ok error)
  | .request .., s => (paused, s)
  | .runner call, s => ((goodAnswer call .init).1, s)
  | .driverInitialise, s => (.ok none, s)
  | .driverTransfer t, s => (.ok ⟨true, true, some 1, some t.identity⟩, s)
  | .inflight, s => (none, s)
  | .setInflight _, s => ((), s)

/-- A server at `rc-1` that is paused until it is resumed, and a driver that delivers. -/
def commitReply (a : HttpVLLMAdapter) : (call : HttpCall) → HttpSystem → call.Reply × HttpSystem
  | .runner call, s =>
    ((goodAnswer call s.controller).1, { s with controller := (goodAnswer call s.controller).2 })
  | .inflight, s => (s.inflight, s)
  | .setInflight t, s => ((), { s with inflight := t })
  | .request _ url _ _, s =>
    (.ok ⟨200, if url.path = "/reset_prefix_cache" then "\x7b\"success\": true\x7d" else
      bodiesAt (if s.controller.state = .resuming then "\x7b\x7d"
        else "\x7b\"is_paused\": true\x7d") url.path⟩, s)
  | call, s => ((drainReply a call s.drain).1, { s with drain := (drainReply a call s.drain).2 })

theorem commitReply_answers (a : HttpVLLMAdapter) (call : HttpCall) (s : HttpSystem) :
    httpAnswers a call s (commitReply a call s).1 (commitReply a call s).2 := by
  cases call with
  | runner call => exact ⟨_, goodAnswer_answers call s.controller, rfl⟩
  | inflight => exact ⟨rfl, rfl⟩
  | setInflight t => rfl
  | openAttempt => exact ⟨_, ⟨rfl, rfl⟩, rfl⟩
  | drainStatus => exact ⟨_, ⟨rfl, rfl⟩, rfl⟩
  | _ => exact ⟨_, rfl, rfl⟩

/-- Attempt `i` goes on. -/
def threadNext (a : HttpVLLMAdapter) (i : ℕ) (s : DrainSystem) : Option DrainSystem :=
  s.threads[i]?.bind fun th =>
    match th.left with
    | .perform call next =>
      let (r, s₁) := drainReply a call s
      some { s₁ with threads := s₁.threads.set i (th.advance call r (next r)) }
    | _ => none

theorem threadStep_threadNext {a : HttpVLLMAdapter} {i : ℕ} {s s' : DrainSystem}
    (h : s' ∈ threadNext a i s) : ThreadStep a i s s' := by
  obtain ⟨th, hth, h⟩ := Option.bind_eq_some_iff.mp h
  split at h
  next call next hleft =>
    refine ⟨th, call, next, _, _, hth, hleft, ?_, (Option.some.inj h).symm⟩
    cases call with
    | openAttempt => exact ⟨rfl, rfl⟩
    | drainStatus => exact ⟨rfl, rfl⟩
    | _ => rfl
  next => cases h

def deliveringAdapter : HttpVLLMAdapter := { driver := { name := "nccl", movesTensors := true } }

def servedJson : JsonModule :=
  knownTexts [("\x7b\"weight_version\": \"rc-1\"\x7d", .obj [("weight_version", .str "rc-1")]),
    ("\x7b\x7d", .obj []), ("\x7b\"is_paused\": true\x7d", .obj [("is_paused", .bool true)]),
    ("\x7b\"success\": true\x7d", .obj [("success", .bool true)])]

/-- The cycle a delivering adapter carries out. -/
abbrev deliveredCycle : HttpProg CycleResult :=
  (LifecycleRunner.runCycle {} ⟨⟨1⟩, identityB⟩).interp (deliveringAdapter.handle servedJson)

/-- A program with a cycle in it, whose pause goes through just before it is polled. -/
def commitPlay {α : Type} (p : HttpProg α) (s : HttpSystem) :
    List HttpEvent × Except PyExc α × HttpSystem :=
  p.play (commitReply deliveringAdapter)
    (fun n s => if n = 7 ∨ n = 8 then
      (threadNext deliveringAdapter 0 s.drain).map fun d => { s with drain := d } else none) 0 s

theorem run_commitPlay {α : Type} (p : HttpProg α) (s : HttpSystem) :
    Run (httpWorld deliveringAdapter fun _ _ => True) p s (commitPlay p s).1
      (.ofExcept (commitPlay p s).2.1) (commitPlay p s).2.2 := by
  refine Run.of_play (commitReply_answers deliveringAdapter) (fun n s s' hs => ?_) _ 0 s
  rw [Option.mem_def] at hs
  split_ifs at hs
  obtain ⟨d, hd, rfl⟩ := Option.map_eq_some_iff.mp hs
  exact .inr ⟨d, ⟨0, trivial, threadStep_threadNext hd⟩, rfl⟩

/-- A cycle over HTTP that commits. -/
theorem committed_transcript_delivered : ∃ tr res s',
    Run (httpWorld deliveringAdapter fun _ _ => True) deliveredCycle ⟨bootstrapped, none, {}⟩ tr
      (.pure res) s' ∧
    s'.controller.currentTarget = some ⟨⟨1⟩, identityB⟩ ∧ (wire (exchanges tr)).length = 9 := by
  have hrun := run_commitPlay deliveredCycle ⟨bootstrapped, none, {}⟩
  have hok : (commitPlay deliveredCycle ⟨bootstrapped, none, {}⟩).2.1.toBool = true := by
    decide +kernel
  have hlen :
      (wire (exchanges (commitPlay deliveredCycle ⟨bootstrapped, none, {}⟩).1)).length = 9 := by
    decide +kernel
  generalize commitPlay deliveredCycle ⟨bootstrapped, none, {}⟩ = out at hrun hok hlen
  obtain ⟨tr, res | res, s'⟩ := out
  · cases hok
  · obtain ⟨-, hcur, -⟩ := committed_transcript servedJson deliveringAdapter _ {} ⟨⟨1⟩, identityB⟩
      reachable_bootstrapped hrun
    exact ⟨tr, res, s', hrun, hcur, hlen⟩

end Commits

end RolloutCore
