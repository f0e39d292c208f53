import RolloutCore.HttpDrain
import RolloutCore.HttpSeeding

/-!
# The budget of a drain

How many pause attempts one drain may start. The count of the attempts, the recorded state and the
decision to reissue are three sections of `await_drain`; the attempts of this drain and of earlier
ones go on between them.
-/

namespace RolloutCore

open Prog

/-! ## The calls of a poll -/

namespace HttpExchange

/-- An attempt is numbered. -/
def isOpen : HttpExchange → Bool
  | ⟨.openAttempt, _⟩ => true
  | _ => false

/-- The thread of an attempt is started. -/
def isStart : HttpExchange → Bool
  | ⟨.startThread _, _⟩ => true
  | _ => false

def isRequest : HttpExchange → Bool
  | ⟨.request .., _⟩ => true
  | _ => false

def status (record : DrainState × Option String × ℕ) : HttpExchange := ⟨.drainStatus, record⟩

/-- The recorded state is read, and is FAILED. -/
def readsFailed : HttpExchange → Bool
  | ⟨.drainStatus, (state, _, _)⟩ => state = .failed
  | _ => false

/-- The transport raised `e`. -/
def raises (e : PyExc) (x : HttpExchange) : Prop :=
  ∃ method url body timeout, x = ⟨.request method url body timeout, .error e⟩

end HttpExchange

open HttpExchange

/-- The count of attempts after a call of the caller. -/
def counted (n : ℕ) : HttpExchange → ℕ
  | ⟨.resetAttempts, _⟩ => 0
  | ⟨.openAttempt, _⟩ => n + 1
  | _ => n

/-- The executions of `await_drain`. -/
inductive DrainPoll (a : HttpVLLMAdapter) : List HttpExchange → Except PyExc DrainEvidence → Prop
  | reported {state : DrainState} (hs : state ≠ .failed) (error : Option String) (n : ℕ)
      (e : DrainEvidence) : DrainPoll a [status (state, error, n)] (.ok e)
  | interrupted (error : Option String) (n : ℕ) {aborts : List HttpExchange} {e : PyExc}
      (ha : ∀ x ∈ aborts, x.isRequest = true) (he : ∃ x ∈ aborts, x.raises e) :
      DrainPoll a (status (.failed, error, n) :: aborts) (.error e)
  | exhausted (error : Option String) {n : ℕ} {aborts : List HttpExchange}
      (ha : ∀ x ∈ aborts, x.isRequest = true) (hn : a.drainReissues < n) :
      DrainPoll a (status (.failed, error, n) :: aborts) (.error (.core (.drainFailed n error)))
  | reissued (error : Option String) {n : ℕ} {aborts : List HttpExchange} (opened : ℕ)
      (e : DrainEvidence) (ha : ∀ x ∈ aborts, x.isRequest = true) (hn : n ≤ a.drainReissues) :
      DrainPoll a (status (.failed, error, n) :: (aborts ++
        [⟨.openAttempt, opened⟩, ⟨.startThread opened, ()⟩])) (.ok e)

section Executions

variable {a : HttpVLLMAdapter} {l : List HttpExchange}

theorem call_sends {method path query : String} {body : Option Json} {timeout : Option ℚ}
    {x : Except PyExc Response} (h : (a.call method path body query timeout).Yields l x) :
    ∃ limit answer, l = [⟨.request method (a.url path query) body limit, answer⟩] ∧
      HttpVLLMAdapter.accept method path answer = x := by
  obtain ⟨answer, l', rfl, hanswer⟩ := Yields.of_op h
  obtain ⟨rfl, rfl⟩ := yields_ofExcept.mp hanswer
  exact ⟨_, answer, rfl, rfl⟩

theorem accept_eq_error {method path : String} {answer : Except PyExc Response} {e : PyExc}
    (h : HttpVLLMAdapter.accept method path answer = .error e) :
    answer = .error e ∨ ∃ detail, e = .httpAdapter method path detail := by
  cases answer with
  | error e' =>
    cases h
    exact .inl rfl
  | ok r =>
    unfold HttpVLLMAdapter.accept at h
    dsimp only at h
    split_ifs at h
    cases h
    exact .inr ⟨_, rfl⟩

/-- Requests only; what is raised, the transport raised. -/
def Sends {α : Type} (l : List HttpExchange) (x : Except PyExc α) : Prop :=
  (∀ y ∈ l, y.isRequest = true) ∧ ∀ e, x = .error e → ∃ y ∈ l, y.raises e

theorem sends_ok {α : Type} {v : α} (h : ∀ y ∈ l, y.isRequest = true) : Sends l (.ok v) :=
  ⟨h, fun e he => by cases he⟩

/-- A call whose `HTTPAdapterError` is caught. -/
theorem succeeds_sends {method path query : String} {body : Option Json} {timeout : Option ℚ}
    {x : Except PyExc Bool}
    (h : (HttpVLLMAdapter.succeeds (a.call method path body query timeout)).Yields l x) :
    Sends l x := by
  rcases h.of_bind with ⟨e, rfl, he⟩ | ⟨y, l₁, l₂, hcall, hrest, rfl⟩
  · obtain ⟨y, hy, -⟩ := he.of_attempt
    cases hy
  · obtain ⟨limit, answer, rfl, hy⟩ := call_sends (yields_attempt.mp hcall)
    have hrequest : ∀ z ∈ ([⟨.request method (a.url path query) body limit, answer⟩] :
        List HttpExchange), z.isRequest = true := by simp [isRequest]
    cases y with
    | ok r =>
      cases hrest
      exact sends_ok hrequest
    | error e =>
      have hanswer := accept_eq_error hy
      cases e
      case httpAdapter =>
        cases hrest
        exact sends_ok hrequest
      all_goals
        cases hrest
        refine ⟨hrequest, fun e he => ⟨_, List.mem_singleton_self _, ?_⟩⟩
        cases he
        obtain rfl := hanswer.resolve_right (by simp)
        exact ⟨_, _, _, _, rfl⟩

theorem abortAll_sends {left : ℕ} {x : Except PyExc Unit} (h : (a.abortAll left).Yields l x) :
    Sends l x := by
  induction left generalizing l with
  | zero =>
    cases h
    exact sends_ok (by simp)
  | succ left ih =>
    rcases h.of_bind with ⟨e, rfl, he⟩ | ⟨went, l₁, l₂, hwent, hrest, rfl⟩
    · obtain ⟨hrequests, herror⟩ := succeeds_sends he
      exact ⟨hrequests, fun e' he' => herror e' (by cases he'; rfl)⟩
    · obtain ⟨hrequests, -⟩ := succeeds_sends hwent
      cases went with
      | true =>
        cases hrest
        exact sends_ok (by simpa using hrequests)
      | false =>
        obtain ⟨hmore, herror⟩ := ih hrest
        refine ⟨fun y hy => ?_, fun e he => ?_⟩
        · exact (List.mem_append.mp hy).elim (hrequests y) (hmore y)
        · obtain ⟨y, hy, hraises⟩ := herror e he
          exact ⟨y, List.mem_append_right _ hy, hraises⟩

/-- **`await_drain` does nothing else.** -/
theorem awaitDrain_poll {x : Except PyExc DrainEvidence} (h : a.awaitDrain.Yields l x) :
    DrainPoll a l x := by
  obtain ⟨⟨state, error, n⟩, l₁, rfl, h₁⟩ := Yields.of_op (i := HttpCall.drainStatus) h
  cases state with
  | completed =>
    cases h₁
    exact .reported (by decide) error n _
  | inFlight =>
    cases h₁
    exact .reported (by decide) error n _
  | idle =>
    cases h₁
    exact .reported (by decide) error n _
  | failed =>
    rcases h₁.of_bind with ⟨e, rfl, he⟩ | ⟨_, aborts, l₂, habort, hrest, rfl⟩
    · obtain ⟨hrequests, herror⟩ := abortAll_sends he
      exact .interrupted error n hrequests (herror e rfl)
    · obtain ⟨hrequests, -⟩ := abortAll_sends habort
      dsimp only at hrest
      split_ifs at hrest with hn
      · cases hrest
        rw [List.append_nil]
        exact .exhausted error hrequests hn
      · obtain ⟨opened, l₃, rfl, h₃⟩ := Yields.of_op (i := HttpCall.openAttempt) hrest
        obtain ⟨⟨⟩, l₄, rfl, h₄⟩ := Yields.of_op (i := HttpCall.startThread opened) h₃
        cases h₄
        exact .reissued error opened _ hrequests (not_lt.mp hn)

namespace DrainPoll

variable {x : Except PyExc DrainEvidence} {aborts : List HttpExchange}

theorem not_start {y : HttpExchange} (h : y.isRequest = true) : ¬ y.isStart = true := by
  obtain ⟨call, reply⟩ := y
  cases call <;> simp_all [isRequest, isStart]

theorem counted_request {y : HttpExchange} (h : y.isRequest = true) (n : ℕ) :
    counted n y = n := by
  obtain ⟨call, reply⟩ := y
  cases call <;> simp_all [isRequest, counted]

theorem starts_aborts (ha : ∀ y ∈ aborts, y.isRequest = true) : aborts.countP isStart = 0 :=
  List.countP_eq_zero.mpr fun y hy => not_start (ha y hy)

theorem counted_aborts (ha : ∀ y ∈ aborts, y.isRequest = true) (n : ℕ) :
    aborts.foldl counted n = n := by
  induction aborts with
  | nil => rfl
  | cons y aborts ih =>
    obtain ⟨hy, ha⟩ := List.forall_mem_cons.mp ha
    rw [List.foldl_cons, counted_request hy, ih ha]

theorem starts_eq (h : DrainPoll a l x) :
    l.countP isStart = if l.any readsFailed && x.isOk then 1 else 0 := by
  cases h with
  | reported hs error n e => simp [status, isStart, readsFailed, hs]
  | interrupted error n ha he =>
    rw [List.countP_cons, starts_aborts ha]
    simp [status, isStart, Except.isOk, Except.toBool]
  | exhausted error ha hn =>
    rw [List.countP_cons, starts_aborts ha]
    simp [status, isStart, Except.isOk, Except.toBool]
  | reissued error opened e ha hn =>
    rw [List.countP_cons, List.countP_append, starts_aborts ha]
    simp [status, isStart, readsFailed, Except.isOk, Except.toBool]

theorem counted_eq (h : DrainPoll a l x) (k : ℕ) :
    l.foldl counted k = k + l.countP isStart := by
  cases h with
  | reported hs error n e => rfl
  | interrupted error n ha he =>
    rw [List.countP_cons, starts_aborts ha]
    exact counted_aborts ha k
  | exhausted error ha hn =>
    rw [List.countP_cons, starts_aborts ha]
    exact counted_aborts ha k
  | reissued error opened e ha hn =>
    rw [List.countP_cons, List.countP_append, starts_aborts ha, List.foldl_cons, List.foldl_append]
    exact congrArg (· + 1) (counted_aborts ha k)

theorem starts_le (h : DrainPoll a l x) : l.countP isStart ≤ 1 := by
  rw [h.starts_eq]
  split_ifs <;> omega

/-- An attempt is started only after FAILED was read with a count within the budget. -/
theorem reads_of_starts (h : DrainPoll a l x) (hstart : 0 < l.countP isStart) :
    ∃ error n rest, l = status (.failed, error, n) :: rest ∧ (n : ℤ) ≤ a.drainReissues := by
  rw [h.starts_eq] at hstart
  cases h with
  | reported hs error n e => simp [readsFailed, status, hs] at hstart
  | interrupted error n ha he => simp [Except.isOk, Except.toBool] at hstart
  | exhausted error ha hn => simp [Except.isOk, Except.toBool] at hstart
  | reissued error opened e ha hn => exact ⟨error, _, _, rfl, hn⟩

theorem starts_begun {l' : List HttpExchange} (h : DrainPoll a (l ++ l') x)
    (hstart : 0 < l.countP isStart) : l.countP isStart = 1 ∧
      ∃ error n rest, l = status (.failed, error, n) :: rest ∧ (n : ℤ) ≤ a.drainReissues := by
  have hsplit : (l ++ l').countP isStart = l.countP isStart + l'.countP isStart :=
    List.countP_append
  have hle := h.starts_le
  obtain ⟨error, n, rest, hwhole, hn⟩ := h.reads_of_starts (by omega)
  obtain ⟨y, l, rfl⟩ : ∃ y rest, l = y :: rest :=
    List.exists_cons_of_ne_nil fun hnil => by simp [hnil] at hstart
  rw [List.cons_append] at hwhole
  obtain ⟨rfl, -⟩ := List.cons.inj hwhole
  exact ⟨by omega, error, n, l, rfl, hn⟩

/-- A poll that raises passes on what the transport raised, or has found the budget spent. -/
theorem raises_cases {e : PyExc} (h : DrainPoll a l (.error e)) : (∃ y ∈ l, y.raises e) ∨
    ∃ error n rest, l = status (.failed, error, n) :: rest ∧ a.drainReissues < n ∧
      e = .core (.drainFailed n error) := by
  cases h with
  | interrupted error n ha he =>
    obtain ⟨y, hy, hraises⟩ := he
    exact .inl ⟨y, List.mem_cons_of_mem _ hy, hraises⟩
  | exhausted error ha hn => exact .inr ⟨error, _, _, rfl, hn, rfl⟩

end DrainPoll

end Executions

/-! ## The count -/

/-- Every attempt is a pause and its verdict, as far as it has got. -/
def Staged (a : HttpVLLMAdapter) (s : DrainSystem) : Prop := ∀ th ∈ s.threads, th.Stage a

section Count

variable {a : HttpVLLMAdapter} {allowed : DrainSystem → ℕ → Prop} {s s' : DrainSystem}
  {tr : List (TraceEvent HttpCall.Reply DrainSystem)}

theorem staged_step {i : ℕ} (hs : Staged a s) (h : ThreadStep a i s s') : Staged a s' := by
  obtain ⟨-, -, -, th₀, th₁, -, hthreads, hstage, -⟩ := threads_step hs h
  intro th hth
  rw [hthreads] at hth
  obtain hth | rfl := List.mem_or_eq_of_mem_set hth
  · exact hs th hth
  · exact hstage

theorem counted_call {call : HttpCall} {r : call.Reply} (hs : Staged a s)
    (h : drainAnswers a call s r s') : Staged a s' ∧ s'.attempts = counted s.attempts ⟨call, r⟩ := by
  cases call with
  | startThread n =>
    obtain rfl := h
    refine ⟨fun th hth => ?_, rfl⟩
    obtain hth | hth := List.mem_append.mp hth
    · exact hs th hth
    · rw [List.mem_singleton.mp hth]
      exact .waiting rfl rfl
  | openAttempt =>
    obtain ⟨-, rfl⟩ := h
    exact ⟨hs, rfl⟩
  | drainStatus =>
    obtain ⟨-, rfl⟩ := h
    exact ⟨hs, rfl⟩
  | closeAttempt n ok error =>
    obtain rfl := h
    refine ⟨?_, s.closed_attempts n ok error⟩
    unfold Staged
    rw [s.closed_threads n ok error]
    exact hs
  | _ =>
    obtain rfl := h
    exact ⟨hs, rfl⟩

/-- **The count is the caller's own.** Whatever the attempts do in between, it is what the calls of
the caller make of it, and `await_drain` reads it as such. -/
theorem counted_run {ε α : Type} {p q : Prog HttpCall.Reply ε α}
    (h : Run (drainWorld a allowed) p s tr q s') (hs : Staged a s) :
    Staged a s' ∧ s'.attempts = (exchanges tr).foldl counted s.attempts ∧
      Before (fun past x => ∀ record, x = status record →
        record.2.2 = past.foldl counted s.attempts) (exchanges tr) := by
  induction h with
  | nil => exact ⟨hs, rfl, fun pre x post h => by simp [exchanges] at h⟩
  | @env _ _ s₁ s₂ _ he ih =>
    obtain ⟨hstaged, hcount, hreads⟩ := ih
    obtain ⟨i, -, hstep⟩ := he
    have hl : ∀ tr : List (TraceEvent HttpCall.Reply DrainSystem),
        exchanges (tr ++ [.env s₁ s₂]) = exchanges tr := by
      intro tr
      rw [exchanges_append]
      exact List.append_nil _
    rw [hl]
    obtain ⟨-, -, hattempts, -⟩ := threads_step hstaged hstep
    exact ⟨staged_step hstaged hstep, hattempts.trans hcount, hreads⟩
  | @call _ op _ s₁ s₂ r _ hc ih =>
    obtain ⟨hstaged, hcount, hreads⟩ := ih
    obtain ⟨hstaged', hattempts⟩ := counted_call hstaged hc
    rw [exchanges_append]
    refine ⟨hstaged', ?_, before_append.mpr ⟨hreads, ?_⟩⟩
    · rw [List.foldl_append, ← hcount, hattempts]
      rfl
    · intro record hrecord
      cases hrecord
      rw [← hcount, hc.1]
      rfl

theorem staged_session {past : List (DrainRequest × List (TraceEvent HttpCall.Reply DrainSystem))}
    (h : Session (drainWorld a allowed) a.serveDrain {} past s) : Staged a s := by
  refine h.invariant (J := Staged a) (fun k s tr p s' hs hr => (counted_run hr hs).1) ?_ ?_
  · rintro s s' hs ⟨i, -, hstep⟩
    exact staged_step hs hstep
  · rintro th ⟨⟩

end Count

/-! ## A drain and its polls -/

/-- The attempts may go on in any order. -/
abbrev anyOrder : DrainSystem → ℕ → Prop := fun _ _ => True

/-- A call of `await_drain` that has ended. -/
structure Poll where
  trace : List (TraceEvent HttpCall.Reply DrainSystem)
  outcome : Except PyExc DrainEvidence

/-- The recorded state was FAILED when the call read it. -/
def ObservesFailed (tr : List (TraceEvent HttpCall.Reply DrainSystem)) : Prop :=
  ∃ record s s', .call .drainStatus record s s' ∈ tr ∧ s.state = .failed

/-- After any calls of the same caller, a `begin_drain` and the polls that followed it, with the
attempts of every drain going on in between. -/
inductive Drain (a : HttpVLLMAdapter) (begun : List (TraceEvent HttpCall.Reply DrainSystem)) :
    List Poll → DrainSystem → Prop
  | begun {past : List (DrainRequest × List (TraceEvent HttpCall.Reply DrainSystem))}
      {s s' : DrainSystem} (h : Session (drainWorld a anyOrder) a.serveDrain {} past s)
      (hr : Run (drainWorld a anyOrder) HttpVLLMAdapter.beginDrain s begun (.pure ()) s') :
      Drain a begun [] s'
  | env {polls : List Poll} {s s' : DrainSystem} (h : Drain a begun polls s)
      (he : (drainWorld a anyOrder).env s s') : Drain a begun polls s'
  | poll {polls : List Poll} {s s' : DrainSystem} {q : Poll} (h : Drain a begun polls s)
      (hr : Run (drainWorld a anyOrder) a.awaitDrain s q.trace (.ofExcept q.outcome) s') :
      Drain a begun (polls ++ [q]) s'

/-- A request of the trace was answered with the exception `e`. -/
def TransportRaised (e : PyExc) (tr : List (TraceEvent HttpCall.Reply DrainSystem)) : Prop :=
  ∃ y ∈ exchanges tr, HttpExchange.raises e y

/-- How many attempts the calls of a trace started. -/
def startedIn (tr : List (TraceEvent HttpCall.Reply DrainSystem)) : ℕ :=
  (exchanges tr).countP isStart

theorem startedIn_append (tr tr' : List (TraceEvent HttpCall.Reply DrainSystem)) :
    startedIn (tr ++ tr') = startedIn tr + startedIn tr' := by
  unfold startedIn
  rw [exchanges_append, List.countP_append]

/-- A poll that read FAILED and returned. -/
def Poll.reissues (q : Poll) : Bool := (exchanges q.trace).any readsFailed && q.outcome.isOk

/-- What the count stands for between the polls. -/
structure Tally (a : HttpVLLMAdapter) (begun : List (TraceEvent HttpCall.Reply DrainSystem))
    (polls : List Poll) (s : DrainSystem) : Prop where
  staged : Staged a s
  count : s.attempts = startedIn (begun ++ polls.flatMap Poll.trace)
  reissued : startedIn (begun ++ polls.flatMap Poll.trace) = 1 + polls.countP Poll.reissues
  budget : (s.attempts : ℤ) ≤ a.drainReissues + 1
  observed : ∀ q ∈ polls, ObservesFailed q.trace → (exchanges q.trace).any readsFailed = true

section Tally

variable {a : HttpVLLMAdapter} {begun tr : List (TraceEvent HttpCall.Reply DrainSystem)}
  {polls : List Poll} {s s' : DrainSystem}

theorem observesFailed_iff {allowed : DrainSystem → ℕ → Prop} {p q : HttpProg DrainEvidence}
    (h : Run (drainWorld a allowed) p s tr q s') :
    ObservesFailed tr ↔ (exchanges tr).any readsFailed = true := by
  rw [List.any_eq_true]
  constructor
  · rintro ⟨record, s₁, s₂, hmem, hfailed⟩
    obtain ⟨rfl, -⟩ := h.answered hmem
    refine ⟨_, mem_exchanges.mpr ⟨s₁, s₂, hmem⟩, decide_eq_true hfailed⟩
  · rintro ⟨⟨call, record⟩, hmem, hfailed⟩
    obtain ⟨s₁, s₂, hmem⟩ := mem_exchanges.mp hmem
    cases call with
    | drainStatus =>
      obtain ⟨rfl, -⟩ := h.answered hmem
      exact ⟨_, s₁, s₂, hmem, of_decide_eq_true hfailed⟩
    | _ => cases hfailed

theorem begins_poll {allowed : DrainSystem → ℕ → Prop} {q : HttpProg DrainEvidence}
    (h : Run (drainWorld a allowed) a.awaitDrain s tr q s') :
    ∃ l x, DrainPoll a (exchanges tr ++ l) x := by
  obtain ⟨l, x, -, hall⟩ := h.begins HttpCall.reply_nonempty
  exact ⟨l, x, awaitDrain_poll hall⟩

theorem ends_poll {allowed : DrainSystem → ℕ → Prop} {x : Except PyExc DrainEvidence}
    (h : Run (drainWorld a allowed) a.awaitDrain s tr (.ofExcept x) s') :
    DrainPoll a (exchanges tr) x := by
  have hall := h.yields (yields_ofExcept.mpr ⟨rfl, rfl⟩)
  rw [List.append_nil] at hall
  exact awaitDrain_poll hall

theorem reads_count {allowed : DrainSystem → ℕ → Prop} {q : HttpProg DrainEvidence}
    (h : Run (drainWorld a allowed) a.awaitDrain s tr q s') (hs : Staged a s)
    {record : DrainState × Option String × ℕ} {rest : List HttpExchange}
    (hl : exchanges tr = status record :: rest) : record.2.2 = s.attempts :=
  (counted_run h hs).2.2 [] _ rest hl record rfl

theorem starts_within {allowed : DrainSystem → ℕ → Prop} {q : HttpProg DrainEvidence}
    (h : Run (drainWorld a allowed) a.awaitDrain s tr q s') (hs : Staged a s)
    (hbudget : (s.attempts : ℤ) ≤ a.drainReissues + 1) :
    (s.attempts + startedIn tr : ℤ) ≤ a.drainReissues + 1 := by
  obtain ⟨l, x, hpoll⟩ := begins_poll h
  rcases Nat.eq_zero_or_pos (startedIn tr) with hzero | hpos
  · omega
  · obtain ⟨hone, error, n, rest, hl, hn⟩ := hpoll.starts_begun hpos
    have hcount : n = s.attempts := reads_count h hs hl
    have hstarted : startedIn tr = 1 := hone
    omega

theorem begun_counts {allowed : DrainSystem → ℕ → Prop}
    (h : Run (drainWorld a allowed) HttpVLLMAdapter.beginDrain s tr (.pure ()) s')
    (hs : Staged a s) : Staged a s' ∧ s'.attempts = 1 ∧ startedIn tr = 1 := by
  obtain ⟨hstaged, hcount, -⟩ := counted_run h hs
  obtain ⟨⟨⟩, l₁, hl, h₁⟩ := Yields.of_op (i := HttpCall.resetAttempts) h.yields_pure
  obtain ⟨opened, l₂, rfl, h₂⟩ := Yields.of_op (i := HttpCall.openAttempt) h₁
  obtain ⟨⟨⟩, l₃, rfl, h₃⟩ := Yields.of_op (i := HttpCall.startThread opened) h₂
  cases h₃
  unfold startedIn
  rw [hl] at hcount ⊢
  exact ⟨hstaged, hcount, rfl⟩

/-- **Between the polls** the count is the number of attempts the drain has started. -/
theorem Drain.tally (hbudget : 0 ≤ a.drainReissues) (h : Drain a begun polls s) :
    Tally a begun polls s := by
  induction h with
  | begun h hr =>
    obtain ⟨hstaged, hcount, hstarted⟩ := begun_counts hr (staged_session h)
    refine ⟨hstaged, ?_, ?_, by omega, by simp⟩
    · simp [hcount, hstarted]
    · simp [hstarted]
  | env _ he ih =>
    obtain ⟨i, -, hstep⟩ := he
    obtain ⟨-, -, hattempts, -⟩ := threads_step ih.staged hstep
    exact ⟨staged_step ih.staged hstep, by rw [hattempts, ih.count], ih.reissued,
      by rw [hattempts]; exact ih.budget, ih.observed⟩
  | @poll polls s s' q h hr ih =>
    have hpoll := ends_poll hr
    obtain ⟨hstaged, hcount, -⟩ := counted_run hr ih.staged
    rw [hpoll.counted_eq] at hcount
    have hwithin := starts_within hr ih.staged ih.budget
    have hstarted : startedIn (begun ++ (polls ++ [q]).flatMap Poll.trace) =
        startedIn (begun ++ polls.flatMap Poll.trace) + startedIn q.trace := by
      rw [List.flatMap_append, ← List.append_assoc, startedIn_append]
      simp
    refine ⟨hstaged, ?_, ?_, ?_, ?_⟩
    · rw [hstarted, ← ih.count]
      exact hcount
    · rw [hstarted, ih.reissued, List.countP_append, Nat.add_assoc, Nat.add_left_cancel_iff,
        Nat.add_left_cancel_iff, List.countP_singleton]
      exact hpoll.starts_eq
    · rw [hcount]
      exact hwithin
    · intro q' hq'
      obtain hq' | hq' := List.mem_append.mp hq'
      · exact ih.observed q' hq'
      · rw [List.mem_singleton.mp hq']
        exact (observesFailed_iff hr).mp

end Tally

/-- **The retry budget is exact.** Take any calls of one caller, then a `begin_drain` and the polls
after it, the attempts of this drain and of earlier ones going on in any order. At every point of
the next poll
* this drain has started `drain_reissues + 1` attempts at most;
* the poll has started an attempt only if the recorded state was FAILED when it read it;
* if the poll has raised something the transport did not raise, it is `DrainFailedError`, the drain
  has started `drain_reissues + 1` attempts, and this is the number the error carries;
* of any `drain_reissues + 1` polls so far that read FAILED, one has raised. -/
theorem retry_budget (a : HttpVLLMAdapter) (hbudget : 0 ≤ a.drainReissues)
    {begun tr : List (TraceEvent HttpCall.Reply DrainSystem)} {polls : List Poll}
    {s s' : DrainSystem} {p : HttpProg DrainEvidence} (h : Drain a begun polls s)
    (hr : Run (drainWorld a anyOrder) a.awaitDrain s tr p s') :
    (startedIn (begun ++ polls.flatMap Poll.trace ++ tr) : ℤ) ≤ a.drainReissues + 1 ∧
    (0 < startedIn tr → ObservesFailed tr) ∧
    (∀ e, p = .throw e → TransportRaised e tr ∨
      (startedIn (begun ++ polls.flatMap Poll.trace ++ tr) : ℤ) = a.drainReissues + 1 ∧
        ∃ error, e = .core (.drainFailed
          (startedIn (begun ++ polls.flatMap Poll.trace ++ tr)) error)) ∧
    ∀ qs : List Poll, qs.Sublist polls → (∀ q ∈ qs, ObservesFailed q.trace) →
      (qs.length : ℤ) = a.drainReissues + 1 → ∃ q ∈ qs, ∃ e, q.outcome = .error e := by
  have htally := h.tally hbudget
  have hwithin := starts_within hr htally.staged htally.budget
  rw [startedIn_append, ← htally.count]
  refine ⟨by exact_mod_cast hwithin, fun hstart => ?_, ?_, fun qs hsub hfailed hlen => ?_⟩
  · obtain ⟨l, x, hpoll⟩ := begins_poll hr
    obtain ⟨-, error, n, rest, hl, -⟩ := hpoll.starts_begun hstart
    rw [observesFailed_iff hr, hl]
    rfl
  · rintro e rfl
    have hpoll := ends_poll (x := .error e) hr
    obtain hraises | ⟨error, n, rest, hl, hn, rfl⟩ := hpoll.raises_cases
    · exact .inl hraises
    · have hcount : n = s.attempts := reads_count hr htally.staged hl
      have hnone : startedIn tr = 0 := hpoll.starts_eq.trans (by simp [Except.isOk, Except.toBool])
      have hspent := htally.budget
      subst hcount
      rw [hnone]
      exact .inr ⟨by omega, error, rfl⟩
  · by_contra hnone
    push Not at hnone
    have hall : ∀ q ∈ qs, q.reissues = true := by
      intro q hq
      have hread := htally.observed q (hsub.subset hq) (hfailed q hq)
      unfold Poll.reissues
      rw [hread]
      cases hout : q.outcome with
      | ok e => rfl
      | error e => exact absurd hout (hnone q hq e)
    have hcount : qs.countP Poll.reissues ≤ polls.countP Poll.reissues := hsub.countP_le
    rw [List.countP_eq_length.mpr hall] at hcount
    have hreissued := htally.reissued
    rw [← htally.count] at hreissued
    have hspent := htally.budget
    omega

/-! ## A drain without reissues -/

/-- An adapter that gives up after the first attempt. -/
def noReissues : HttpVLLMAdapter := { drainReissues := 0 }

/-- The response of a pause that failed. -/
def unavailable : Except PyExc Response := .ok ⟨503, ""⟩

/-- The first attempt of `noReissues` has been answered 503, and has recorded it. -/
def failedOnce : DrainSystem where
  state := .failed
  error := some "POST /pause: HTTP 503: "
  attempts := 1
  threads := [⟨1, 1, some unavailable, .pure ()⟩]
  opened := 1
  drains := 1

/-- The answer has come in, and the attempt is about to record it. -/
def answeredOnce : DrainSystem where
  state := .inFlight
  attempts := 1
  threads := [⟨1, 1, some unavailable, closing 1 unavailable⟩]
  opened := 1
  drains := 1

theorem drain_failedOnce : ∃ begun, Drain noReissues begun [] failedOnce := by
  obtain ⟨limit, hpause⟩ := pauseAttempt_eq noReissues 1
  have hbegun := Drain.begun (a := noReissues) .nil
    (Run.perform (r := ()) rfl (Run.perform (r := (1 : ℕ)) ⟨rfl, rfl⟩
      (Run.perform (r := ()) rfl .nil)))
  have hanswered : Drain noReissues _ [] answeredOnce :=
    hbegun.env ⟨0, trivial, _, .request .., _, unavailable, _, rfl, hpause, rfl, rfl⟩
  exact ⟨_, hanswered.env ⟨0, trivial, _, .closeAttempt 1 false _, .pure, (), _, rfl, rfl, rfl,
    rfl⟩⟩

/-- The stragglers are aborted, and the poll gives up. -/
theorem run_givesUp : ∃ tr, Run (drainWorld noReissues anyOrder) noReissues.awaitDrain failedOnce
    tr (.throw (.core (.drainFailed 1 (some "POST /pause: HTTP 503: ")))) failedOnce ∧
      ¬ TransportRaised (.core (.drainFailed 1 (some "POST /pause: HTTP 503: "))) tr := by
  have hread : (drainWorld noReissues anyOrder).answers .drainStatus failedOnce
      failedOnce.record failedOnce := ⟨rfl, rfl⟩
  have habort : (drainWorld noReissues anyOrder).answers (.request "POST"
      (noReissues.url "/abort_requests" "") (some (.obj [])) noReissues.timeout) failedOnce
      (.ok ⟨200, ""⟩ : Except PyExc Response) failedOnce := rfl
  refine ⟨_, Run.perform hread (Run.perform habort .nil), ?_⟩
  rintro ⟨y, hy, method, url, body, timeout, rfl⟩
  rcases List.mem_cons.mp hy with hy | hy
  · cases hy
  · cases List.mem_singleton.mp hy

/-- The only attempt fails, and the poll after it raises with the number one. -/
theorem retry_budget_spent : ∃ begun tr, Drain noReissues begun [] failedOnce ∧
    Run (drainWorld noReissues anyOrder) noReissues.awaitDrain failedOnce tr
      (.throw (.core (.drainFailed 1 (some "POST /pause: HTTP 503: ")))) failedOnce ∧
    startedIn (begun ++ tr) = 1 := by
  obtain ⟨begun, hdrain⟩ := drain_failedOnce
  obtain ⟨tr, hrun, htransport⟩ := run_givesUp
  obtain ⟨-, -, hraised, -⟩ := retry_budget noReissues le_rfl hdrain hrun
  obtain ⟨hspent, -⟩ := (hraised _ rfl).resolve_left htransport
  refine ⟨begun, tr, hdrain, hrun, ?_⟩
  rw [List.flatMap_nil, List.append_nil] at hspent
  exact Int.ofNat_inj.mp hspent

end RolloutCore
