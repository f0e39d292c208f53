import RolloutCore.HttpAdapter

/-!
# The drain of the HTTP adapter

One caller of `begin_drain` and `await_drain`, and the pause attempts those calls started, each on
a thread of its own. A verdict is recorded when its attempt has the current number, and every drain
counts from one again: `NoStaleMatch` is the condition under which that number belongs to the newest
attempt, and `DrainInv` is what then holds throughout.
-/

namespace RolloutCore

/-! ## The system -/

/-- A pause attempt: its number, the drain that started it, what its request was answered, and what
its thread has left to do. -/
structure PauseThread where
  number : ℕ
  drain : ℕ
  answer : Option (Except PyExc Response)
  left : HttpProg Unit

/-- The thread after a call of its own. -/
def PauseThread.advance (th : PauseThread) : (call : HttpCall) → call.Reply → HttpProg Unit →
    PauseThread
  | .request .., r, left => { th with answer := some r, left := left }
  | _, _, left => { th with left := left }

/-- The drain attributes of the adapter and its attempts in the order they were started. The code
keeps no count of the attempts opened and the drains begun; they are here to speak about. -/
structure DrainSystem where
  state : DrainState := .idle
  error : Option String := none
  attempts : ℕ := 0
  threads : List PauseThread := []
  opened : ℕ := 0
  drains : ℕ := 0

namespace DrainSystem

/-- What the drain lock protects. -/
def record (s : DrainSystem) : DrainState × Option String × ℕ := (s.state, s.error, s.attempts)

/-- The last section of an attempt: a verdict that does not have the current number is dropped. -/
def closed (s : DrainSystem) (attempt : ℕ) (ok : Bool) (error : Option String) : DrainSystem :=
  if attempt ≠ s.attempts then s
  else { s with state := if ok then .completed else .failed, error := error }

section Closed

variable (s : DrainSystem) (attempt : ℕ) (ok : Bool) (error : Option String)

@[simp] theorem closed_attempts : (s.closed attempt ok error).attempts = s.attempts := by
  unfold closed
  split_ifs <;> rfl

@[simp] theorem closed_threads : (s.closed attempt ok error).threads = s.threads := by
  unfold closed
  split_ifs <;> rfl

@[simp] theorem closed_opened : (s.closed attempt ok error).opened = s.opened := by
  unfold closed
  split_ifs <;> rfl

@[simp] theorem closed_drains : (s.closed attempt ok error).drains = s.drains := by
  unfold closed
  split_ifs <;> rfl

end Closed

/-- The newest attempt, once its thread has been started. -/
def Newest (s : DrainSystem) (th : PauseThread) : Prop :=
  ∃ k, s.opened = k + 1 ∧ s.threads[k]? = some th

end DrainSystem

/-- What a step of the adapter does to the drain; a request may be answered anything. -/
def drainAnswers (a : HttpVLLMAdapter) :
    (call : HttpCall) → DrainSystem → call.Reply → DrainSystem → Prop
  | .resetAttempts, s, _, s' => s' = { s with attempts := 0, drains := s.drains + 1 }
  | .openAttempt, s, n, s' =>
    n = s.attempts + 1 ∧
      s' = { s with attempts := s.attempts + 1, state := .inFlight, opened := s.opened + 1 }
  | .startThread n, s, _, s' =>
    s' = { s with threads := s.threads ++ [⟨n, s.drains, none, a.pauseAttempt n⟩] }
  | .drainStatus, s, r, s' => r = s.record ∧ s' = s
  | .closeAttempt n ok error, s, _, s' => s' = s.closed n ok error
  | _, s, _, s' => s' = s

/-- The thread of attempt `i` makes its next call. -/
def ThreadStep (a : HttpVLLMAdapter) (i : ℕ) (s s' : DrainSystem) : Prop :=
  ∃ th call next r s₁, s.threads[i]? = some th ∧ th.left = .perform call next ∧
    drainAnswers a call s r s₁ ∧
    s' = { s₁ with threads := s₁.threads.set i (th.advance call r (next r)) }

/-- The caller among the attempts, of which attempt `i` may go on where `allowed`. -/
def drainWorld (a : HttpVLLMAdapter) (allowed : DrainSystem → ℕ → Prop) :
    World HttpCall.Reply DrainSystem where
  answers := drainAnswers a
  env s s' := ∃ i, allowed s i ∧ ThreadStep a i s s'

/-- Attempt `i` is not one of an earlier drain about to record its verdict under a number that has
become current again. -/
def NoStaleMatch (s : DrainSystem) (i : ℕ) : Prop :=
  ∀ th n ok error next, s.threads[i]? = some th →
    th.left = .perform (.closeAttempt n ok error) next → th.drain < s.drains → n ≠ s.attempts

/-! ## The threads -/

/-- What a thread does once its request is answered. -/
def closing (attempt : ℕ) (answer : Except PyExc Response) : HttpProg Unit :=
  match HttpVLLMAdapter.accept "POST" "/pause" answer with
  | .ok _ => Prog.op (HttpCall.closeAttempt attempt true none)
  | .error e => Prog.op (HttpCall.closeAttempt attempt false (some e.str))

/-- A thread makes one request and one entry. -/
theorem pauseAttempt_eq (a : HttpVLLMAdapter) (attempt : ℕ) : ∃ limit, a.pauseAttempt attempt =
    .perform (HttpCall.request "POST" (a.url "/pause" "?mode=wait&clear_cache=false") none limit)
      (closing attempt) := by
  refine ⟨_, congrArg (Prog.perform _) (funext fun answer => ?_)⟩
  show (Prog.ofExcept (HttpVLLMAdapter.accept "POST" "/pause" answer)).attempt.bind _ =
    closing attempt answer
  unfold closing
  cases HttpVLLMAdapter.accept "POST" "/pause" answer <;> rfl

/-- The request came back with a status below 400. -/
def Went (answer : Except PyExc Response) : Prop := ∃ r, answer = .ok r ∧ r.status < 400

namespace PauseThread

/-- The attempt's own request returned with a status below 400. -/
def Succeeded (th : PauseThread) : Prop := ∃ answer, th.answer = some answer ∧ Went answer

def Failed (th : PauseThread) : Prop := ∃ answer, th.answer = some answer ∧ ¬ Went answer

/-- How far a thread has got. -/
inductive Stage (a : HttpVLLMAdapter) (th : PauseThread) : Prop
  | waiting (hleft : th.left = a.pauseAttempt th.number) (hans : th.answer = none)
  | answered (answer : Except PyExc Response) (hleft : th.left = closing th.number answer)
      (hans : th.answer = some answer)
  | done (answer : Except PyExc Response) (hleft : th.left = .pure ())
      (hans : th.answer = some answer)

end PauseThread

theorem closing_eq (n : ℕ) (answer : Except PyExc Response) : ∃ ok error,
    closing n answer = .perform (HttpCall.closeAttempt n ok error) .pure ∧
      (ok = true ↔ Went answer) := by
  unfold closing
  cases h : HttpVLLMAdapter.accept "POST" "/pause" answer with
  | ok r => exact ⟨true, none, rfl, iff_of_true rfl ⟨r, HttpVLLMAdapter.accept_eq_ok.mp h⟩⟩
  | error e =>
    refine ⟨false, some e.str, rfl, iff_of_false (by simp) ?_⟩
    rintro ⟨r, hr⟩
    cases h.symm.trans (HttpVLLMAdapter.accept_eq_ok.mpr hr)

/-! ## Steps of the threads -/

section Steps

variable {a : HttpVLLMAdapter} {s s' : DrainSystem} {i : ℕ}

/-- What a step of an attempt can be: its request is answered, or it records its verdict. -/
theorem threadStep_cases (h : ThreadStep a i s s') (hs : ∀ th ∈ s.threads, th.Stage a) :
    ∃ th, s.threads[i]? = some th ∧
      ((∃ answer, th.answer = none ∧ s' = { s with
        threads := s.threads.set i
          { th with answer := some answer, left := closing th.number answer } }) ∨
      ∃ answer ok error, th.answer = some answer ∧ (ok = true ↔ Went answer) ∧
        th.left = .perform (.closeAttempt th.number ok error) .pure ∧
        s' = { s.closed th.number ok error with
          threads := s.threads.set i { th with left := .pure () } }) := by
  obtain ⟨th, call, next, r, s₁, hth, hleft, ha, rfl⟩ := h
  refine ⟨th, hth, ?_⟩
  cases hs th (List.mem_of_getElem? hth) with
  | waiting hl hans =>
    obtain ⟨limit, hpause⟩ := pauseAttempt_eq a th.number
    cases hleft.symm.trans (hl.trans hpause)
    obtain rfl : s₁ = s := ha
    exact .inl ⟨r, hans, rfl⟩
  | answered answer hl hans =>
    obtain ⟨ok, error, hclose, hok⟩ := closing_eq th.number answer
    cases hleft.symm.trans (hl.trans hclose)
    obtain rfl : s₁ = _ := ha
    refine .inr ⟨answer, ok, error, hans, hok, hl.trans hclose, ?_⟩
    rw [s.closed_threads]
    rfl
  | done answer hl hans => cases hleft.symm.trans hl

/-- The attempts of the latest drain are numbered in the order they were opened. -/
structure Numbered (a : HttpVLLMAdapter) (s : DrainSystem) : Prop where
  count : s.threads.length ≤ s.opened
  stages : ∀ th ∈ s.threads, th.Stage a
  drains : ∀ th ∈ s.threads, th.drain ≤ s.drains
  numbers : ∀ j th, s.threads[j]? = some th → th.drain = s.drains →
    th.number + s.opened = s.attempts + (j + 1)

/-- The recorded verdict is the newest attempt's own. -/
structure Reflects (s : DrainSystem) : Prop where
  completed : s.state = .completed → ∃ th, s.Newest th ∧ th.Succeeded
  failed : s.state = .failed → ∃ th, s.Newest th ∧ th.Failed

/-- What holds of the drain when no stale verdict is recorded. -/
structure DrainInv (a : HttpVLLMAdapter) (s : DrainSystem) : Prop extends Numbered a s, Reflects s

/-- The verdict of a superseded attempt is dropped: within its drain the count has gone past it. -/
theorem superseded_dropped (hn : Numbered a s) (hallowed : NoStaleMatch s i)
    (h : ThreadStep a i s s') (hold : i + 1 < s.opened) : s'.record = s.record := by
  obtain ⟨th, hth, ⟨answer, -, rfl⟩ | ⟨answer, ok, error, -, -, hleft, rfl⟩⟩ :=
    threadStep_cases h hn.stages
  · rfl
  · have hne : th.number ≠ s.attempts := by
      rcases (hn.drains th (List.mem_of_getElem? hth)).lt_or_eq with hlt | heq
      · exact hallowed th _ _ _ _ hth hleft hlt
      · have := hn.numbers i th hth heq
        omega
    show (s.closed th.number ok error).record = s.record
    rw [DrainSystem.closed, if_pos hne]

/-- A step of an attempt touches its own thread only, and there neither the number, the drain nor an
answer. -/
theorem threads_step (hs : ∀ th ∈ s.threads, th.Stage a) (h : ThreadStep a i s s') :
    s'.opened = s.opened ∧ s'.drains = s.drains ∧ s'.attempts = s.attempts ∧
      ∃ th th', s.threads[i]? = some th ∧ s'.threads = s.threads.set i th' ∧ th'.Stage a ∧
        th'.number = th.number ∧ th'.drain = th.drain ∧
        ∀ answer, th.answer = some answer → th'.answer = some answer := by
  obtain ⟨th, hth, ⟨answer, hnone, rfl⟩ | ⟨answer, ok, error, hans, -, -, rfl⟩⟩ :=
    threadStep_cases h hs
  · refine ⟨rfl, rfl, rfl, th, _, hth, rfl, .answered answer rfl rfl, rfl, rfl, ?_⟩
    intro answer' hans
    cases hnone.symm.trans hans
  · exact ⟨s.closed_opened .., s.closed_drains .., s.closed_attempts .., th, _, hth, rfl,
      .done answer rfl hans, rfl, rfl, fun _ h => h⟩

theorem numbered_step (hn : Numbered a s) (h : ThreadStep a i s s') : Numbered a s' := by
  obtain ⟨hopened, hdrains, hattempts, th₀, th₁, hth₀, hthreads, hstage, hnumber, hdrain, -⟩ :=
    threads_step hn.stages h
  -- every thread afterwards has the number and the drain of the one before it
  have hget : ∀ (j : ℕ) (th : PauseThread), s'.threads[j]? = some th → th.Stage a ∧
      ∃ old : PauseThread, s.threads[j]? = some old ∧ th.number = old.number ∧
        th.drain = old.drain := by
    intro j th hj
    rw [hthreads, List.getElem?_set] at hj
    split_ifs at hj with hij
    · subst hij
      obtain rfl := Option.some.inj hj
      exact ⟨hstage, th₀, hth₀, hnumber, hdrain⟩
    · exact ⟨hn.stages th (List.mem_of_getElem? hj), th, hj, rfl, rfl⟩
  refine ⟨?_, ?_, ?_, ?_⟩
  · rw [hthreads, List.length_set, hopened]
    exact hn.count
  · intro th hth
    obtain ⟨j, hj⟩ := List.getElem?_of_mem hth
    exact (hget j th hj).1
  · intro th hth
    obtain ⟨j, hj⟩ := List.getElem?_of_mem hth
    obtain ⟨-, old, hold, -, heq⟩ := hget j th hj
    rw [heq, hdrains]
    exact hn.drains old (List.mem_of_getElem? hold)
  · intro j th hj hd
    obtain ⟨-, old, hold, hnum, heq⟩ := hget j th hj
    rw [hnum, hopened, hattempts]
    exact hn.numbers j old hold (heq.symm.trans (hd.trans hdrains))

theorem newest_step (hs : ∀ th ∈ s.threads, th.Stage a) (h : ThreadStep a i s s')
    {th : PauseThread} (hth : s.Newest th) : ∃ th', s'.Newest th' ∧ th'.drain = th.drain ∧
      ∀ answer, th.answer = some answer → th'.answer = some answer := by
  obtain ⟨k, hk, hget⟩ := hth
  obtain ⟨hopened, -, -, th₀, th₁, hth₀, hthreads, -, -, hdrain, hans⟩ := threads_step hs h
  by_cases hik : i = k
  · subst hik
    obtain rfl : th₀ = th := Option.some.inj (hth₀.symm.trans hget)
    refine ⟨th₁, ⟨i, hopened.trans hk, ?_⟩, hdrain, hans⟩
    rw [hthreads, List.getElem?_set_self (List.getElem?_eq_some_iff.mp hget).1]
  · refine ⟨th, ⟨k, hopened.trans hk, ?_⟩, rfl, fun _ h => h⟩
    rw [hthreads, List.getElem?_set_ne hik]
    exact hget

theorem verdict_step {P : Except PyExc Response → Prop} (hs : ∀ th ∈ s.threads, th.Stage a)
    (h : ThreadStep a i s s')
    (hP : ∃ th, s.Newest th ∧ ∃ answer, th.answer = some answer ∧ P answer) :
    ∃ th, s'.Newest th ∧ ∃ answer, th.answer = some answer ∧ P answer := by
  obtain ⟨th, hth, answer, hans, hP⟩ := hP
  obtain ⟨th', hth', -, hans'⟩ := newest_step hs h hth
  exact ⟨th', hth', answer, hans' answer hans, hP⟩

/-- **A step of an attempt keeps the invariant**, unless it records a stale verdict. -/
theorem drainInv_step (hi : DrainInv a s) (hallowed : NoStaleMatch s i) (h : ThreadStep a i s s') :
    DrainInv a s' := by
  refine ⟨numbered_step hi.toNumbered h, ?_⟩
  have hsame : s'.state = s.state → Reflects s' := by
    intro hstate
    refine ⟨fun hc => verdict_step hi.stages h (hi.completed ?_),
      fun hf => verdict_step hi.stages h (hi.failed ?_)⟩
    · rw [← hstate]
      exact hc
    · rw [← hstate]
      exact hf
  by_cases hold : i + 1 < s.opened
  · exact hsame (congrArg Prod.fst (superseded_dropped hi.toNumbered hallowed h hold))
  obtain ⟨th, hth, ⟨answer, -, rfl⟩ | ⟨answer, ok, error, hans, hok, -, rfl⟩⟩ :=
    threadStep_cases h hi.stages
  · exact hsame rfl
  · by_cases hn : th.number ≠ s.attempts
    · rw [DrainSystem.closed, if_pos hn] at hsame ⊢
      exact hsame rfl
    · -- the newest attempt records its own verdict
      have hlt : i < s.threads.length := (List.getElem?_eq_some_iff.mp hth).1
      have hnew : s.opened = i + 1 := by
        have := hi.count
        omega
      rw [DrainSystem.closed, if_neg hn]
      refine ⟨fun hc => ⟨_, ⟨i, hnew, List.getElem?_set_self hlt⟩, answer, hans, ?_⟩,
        fun hf => ⟨_, ⟨i, hnew, List.getElem?_set_self hlt⟩, answer, hans, ?_⟩⟩
      · cases ok with
        | true => exact hok.mp rfl
        | false => cases hc
      · cases ok with
        | true => cases hf
        | false => exact fun hw => absurd (hok.mpr hw) (by simp)

end Steps

/-! ## The caller -/

/-- A call of the port. -/
inductive DrainRequest
  | begin
  | await

/-- The program that serves a call; what `await_drain` returns is kept. -/
def HttpVLLMAdapter.serveDrain (a : HttpVLLMAdapter) :
    DrainRequest → HttpProg (Option DrainEvidence)
  | .begin => HttpVLLMAdapter.beginDrain >>= fun _ => return none
  | .await => a.awaitDrain >>= fun e => return some e

section Caller

variable {a : HttpVLLMAdapter}

/-- No attempt is being started, and the newest belongs to the latest drain. -/
structure Settled (s : DrainSystem) : Prop where
  count : s.opened = s.threads.length
  current : ∀ th, s.Newest th → th.drain = s.drains

/-- The invariant with a fact about the drain that the attempts do not disturb. -/
def drainAssertion (a : HttpVLLMAdapter) (P : DrainSystem → Prop)
    (hP : ∀ s s' i, DrainInv a s → NoStaleMatch s i → ThreadStep a i s s' → P s → P s') :
    Assertion (drainWorld a NoStaleMatch) :=
  Assertion.ofState (fun s => DrainInv a s ∧ P s) fun s s' h he => by
    obtain ⟨i, hallowed, hstep⟩ := he
    exact ⟨drainInv_step h.1 hallowed hstep, hP s s' i h.1 hallowed hstep h.2⟩

theorem settled_step {s s' : DrainSystem} {i : ℕ} (hi : DrainInv a s) (h : ThreadStep a i s s')
    (hset : Settled s) : Settled s' := by
  obtain ⟨hopened, hdrains, -, th₀, th₁, hth₀, hthreads, -, -, hdrain, -⟩ :=
    threads_step hi.stages h
  refine ⟨by rw [hopened, hthreads, List.length_set, hset.count], ?_⟩
  rintro th ⟨k, hk, hget⟩
  rw [hopened] at hk
  rw [hthreads, List.getElem?_set] at hget
  split_ifs at hget with hik
  · subst hik
    obtain rfl := Option.some.inj hget
    rw [hdrain, hdrains]
    exact hset.current th₀ ⟨i, hk, hth₀⟩
  · rw [hdrains]
    exact hset.current th ⟨k, hk, hget⟩

/-- The newest attempt has succeeded. -/
def NewestSucceeded (s : DrainSystem) : Prop := ∃ th, s.Newest th ∧ th.Succeeded

theorem newestSucceeded_step {s s' : DrainSystem} {i : ℕ} (hi : DrainInv a s)
    (h : ThreadStep a i s s') (hn : NewestSucceeded s) : NewestSucceeded s' :=
  verdict_step hi.stages h hn

/-! ### Assertions -/

/-- The invariant. -/
def drainKept (a : HttpVLLMAdapter) : Assertion (drainWorld a NoStaleMatch) :=
  drainAssertion a (fun _ => True) fun _ _ _ _ _ _ h => h

/-- Between two calls. -/
def drainSettled (a : HttpVLLMAdapter) : Assertion (drainWorld a NoStaleMatch) :=
  drainAssertion a Settled fun _ _ _ hi _ h => settled_step hi h

/-- All attempts opened have been started. -/
def drainCounted (a : HttpVLLMAdapter) : Assertion (drainWorld a NoStaleMatch) :=
  drainAssertion a (fun s => s.opened = s.threads.length) fun s s' i hi _ h hc => by
    obtain ⟨hopened, -, -, th₀, th₁, -, hthreads, -⟩ := threads_step hi.stages h
    rw [hopened, hthreads, List.length_set, hc]

/-- Attempt number `n` has been opened and its thread not yet started. -/
def drainOpening (a : HttpVLLMAdapter) (n : ℕ) : Assertion (drainWorld a NoStaleMatch) :=
  drainAssertion a (fun s => s.opened = s.threads.length + 1 ∧ s.attempts = n)
    fun s s' i hi _ h hc => by
      obtain ⟨hopened, -, hattempts, th₀, th₁, -, hthreads, -⟩ := threads_step hi.stages h
      rw [hopened, hattempts, hthreads, List.length_set]
      exact hc

/-- Between two calls, and what the last one returned is true. -/
def drainReported (a : HttpVLLMAdapter) (completed : Bool) :
    Assertion (drainWorld a NoStaleMatch) :=
  drainAssertion a (fun s => Settled s ∧ (completed = true → NewestSucceeded s))
    fun _ _ _ hi _ h hP => ⟨settled_step hi h hP.1, fun hc => newestSucceeded_step hi h (hP.2 hc)⟩

theorem drainAssertion_le {P : DrainSystem → Prop} {hP} : drainAssertion a P hP ≤ drainKept a :=
  fun _ _ h => ⟨h.1, trivial⟩

theorem drainCall_triple {call : HttpCall} {P : DrainSystem → Prop} {hP}
    {Q : call.Reply → DrainSystem → Prop}
    {hQ : ∀ r s s' i, DrainInv a s → NoStaleMatch s i → ThreadStep a i s s' → Q r s → Q r s'}
    {E : PyExc → Assertion (drainWorld a NoStaleMatch)}
    (h : ∀ s r s', DrainInv a s → P s → drainAnswers a call s r s' → DrainInv a s' ∧ Q r s') :
    Triple (drainKept a) (drainAssertion a P hP) (Prog.op call)
      (fun r => drainAssertion a (Q r) (hQ r)) E := by
  refine Triple.op drainAssertion_le fun tr s r s' hs ha => ?_
  obtain ⟨hi, hq⟩ := h s r s' hs.1 hs.2 ha
  exact ⟨⟨hi, trivial⟩, hi, hq⟩

theorem resetAttempts_inv {s : DrainSystem} (hi : DrainInv a s) :
    DrainInv a { s with attempts := 0, drains := s.drains + 1 } where
  count := hi.count
  stages := hi.stages
  drains th hth := (hi.drains th hth).trans (Nat.le_succ _)
  numbers j th hj hd := by
    have := hi.drains th (List.mem_of_getElem? hj)
    have : th.drain = s.drains + 1 := hd
    omega
  completed := hi.completed
  failed := hi.failed

theorem openAttempt_inv {s : DrainSystem} (hi : DrainInv a s) :
    DrainInv a { s with
      attempts := s.attempts + 1
      state := .inFlight
      opened := s.opened + 1 } where
  count := hi.count.trans (Nat.le_succ _)
  stages := hi.stages
  drains := hi.drains
  numbers j th hj hd := by
    have := hi.numbers j th hj hd
    show th.number + (s.opened + 1) = s.attempts + 1 + (j + 1)
    omega
  completed h := by cases h
  failed h := by cases h

/-- Nothing has been recorded while the newest attempt has no thread yet. -/
theorem not_newest_of_opening {s : DrainSystem} (hc : s.opened = s.threads.length + 1)
    {th : PauseThread} : ¬ s.Newest th := by
  rintro ⟨k, hk, hget⟩
  have hlt := (List.getElem?_eq_some_iff.mp hget).1
  omega

theorem startThread_inv {s : DrainSystem} (hi : DrainInv a s)
    (hc : s.opened = s.threads.length + 1) :
    DrainInv a { s with
      threads := s.threads ++ [⟨s.attempts, s.drains, none, a.pauseAttempt s.attempts⟩] } where
  count := by simp [hc]
  stages th hth := by
    rcases List.mem_append.mp hth with hth | hth
    · exact hi.stages th hth
    · rw [List.mem_singleton.mp hth]
      exact .waiting rfl rfl
  drains th hth := by
    rcases List.mem_append.mp hth with hth | hth
    · exact hi.drains th hth
    · rw [List.mem_singleton.mp hth]
  numbers j th hj hd := by
    rcases lt_trichotomy j s.threads.length with hlt | rfl | hgt
    · exact hi.numbers j th ((List.getElem?_append_left hlt).symm.trans hj) hd
    · obtain rfl := Option.some.inj (List.getElem?_concat_length.symm.trans hj)
      exact congrArg (s.attempts + ·) hc
    · have hlt := (List.getElem?_eq_some_iff.mp hj).1
      simp at hlt
      omega
  completed h := by
    obtain ⟨th, hth, -⟩ := hi.completed h
    exact absurd hth (not_newest_of_opening hc)
  failed h := by
    obtain ⟨th, hth, -⟩ := hi.failed h
    exact absurd hth (not_newest_of_opening hc)

theorem startThread_settled {s : DrainSystem} (hc : s.opened = s.threads.length + 1) (n : ℕ) :
    Settled { s with threads := s.threads ++ [⟨n, s.drains, none, a.pauseAttempt n⟩] } where
  count := by simp [hc]
  current th hth := by
    obtain ⟨k, hk, hget⟩ := hth
    obtain rfl : k = s.threads.length := by
      have : s.opened = k + 1 := hk
      omega
    obtain rfl := Option.some.inj (List.getElem?_concat_length.symm.trans hget)
    rfl

section Programs

variable {E : PyExc → Assertion (drainWorld a NoStaleMatch)}

theorem startAttempt_triple : Triple (drainKept a) (drainCounted a) HttpVLLMAdapter.startAttempt
    (fun _ => drainSettled a) E := by
  unfold HttpVLLMAdapter.startAttempt
  refine Triple.bind (Q := drainOpening a) (drainCall_triple ?_) fun n => drainCall_triple ?_
  · rintro s n s' hi hc ⟨rfl, rfl⟩
    exact ⟨openAttempt_inv hi, congrArg (· + 1) hc, rfl⟩
  · rintro s - s' hi ⟨hc, rfl⟩ rfl
    exact ⟨startThread_inv hi hc, startThread_settled hc s.attempts⟩

theorem beginDrain_triple : Triple (drainKept a) (drainSettled a) HttpVLLMAdapter.beginDrain
    (fun _ => drainSettled a) E := by
  unfold HttpVLLMAdapter.beginDrain
  refine Triple.bind (Q := fun _ => drainCounted a) (drainCall_triple ?_) fun _ =>
    startAttempt_triple
  rintro s - s' hi hset rfl
  exact ⟨resetAttempts_inv hi, hset.count⟩

theorem call_triple (method path : String) (body : Option Json) (query : String)
    (timeout : Option ℚ) : Triple (drainKept a) (drainSettled a)
      (a.call method path body query timeout) (fun _ => drainSettled a)
      (fun _ => drainSettled a) := by
  unfold HttpVLLMAdapter.call
  refine Triple.bind (Q := fun _ => drainSettled a) (drainCall_triple ?_) fun answer => ?_
  · rintro s r s' hi hset rfl
    exact ⟨hi, hset⟩
  · cases HttpVLLMAdapter.accept method path answer with
    | ok r => exact Triple.pure drainAssertion_le (Assertion.le_refl _)
    | error e => exact Triple.throw drainAssertion_le (Assertion.le_refl _)

theorem succeeds_triple {p : HttpProg Response} {A : Assertion (drainWorld a NoStaleMatch)}
    (hA : A ≤ drainKept a) (hp : Triple (drainKept a) A p (fun _ => A) (fun _ => A)) :
    Triple (drainKept a) A (HttpVLLMAdapter.succeeds p) (fun _ => A) (fun _ => A) := by
  unfold HttpVLLMAdapter.succeeds
  refine Triple.bind (Q := fun _ => A) (fun tr s h => Safe.attempt (hp tr s h)) fun answer => ?_
  cases answer with
  | ok r => exact Triple.pure hA (Assertion.le_refl _)
  | error e =>
    cases e with
    | httpAdapter => exact Triple.pure hA (Assertion.le_refl _)
    | _ => exact Triple.throw hA (Assertion.le_refl _)

theorem abortAll_triple (left : ℕ) : Triple (drainKept a) (drainSettled a) (a.abortAll left)
    (fun _ => drainSettled a) (fun _ => drainSettled a) := by
  induction left with
  | zero => exact Triple.pure drainAssertion_le (Assertion.le_refl _)
  | succ left ih =>
    refine Triple.bind (Q := fun _ => drainSettled a)
      (succeeds_triple drainAssertion_le (call_triple _ _ _ _ _)) fun went => ?_
    cases went with
    | true => exact Triple.pure drainAssertion_le (Assertion.le_refl _)
    | false => exact ih

theorem drainSettled_le_counted : drainSettled a ≤ drainCounted a :=
  fun _ _ h => ⟨h.1, h.2.count⟩

theorem drainReported_le {completed : Bool} : drainReported a completed ≤ drainSettled a :=
  fun _ _ h => ⟨h.1, h.2.1⟩

/-- Reporting that the drain has not completed promises nothing. -/
theorem drainSettled_le_reported : drainSettled a ≤ drainReported a false :=
  fun _ _ h => ⟨h.1, h.2, by rintro ⟨⟩⟩

/-- **What `await_drain` reports.** -/
theorem awaitDrain_triple : Triple (drainKept a) (drainSettled a) a.awaitDrain
    (fun e => drainReported a e.engineDrainCompleted) (fun _ => drainSettled a) := by
  unfold HttpVLLMAdapter.awaitDrain
  refine Triple.bind (Q := fun r : DrainState × Option String × ℕ =>
    drainReported a (r.1 = .completed)) (drainCall_triple ?_) ?_
  · rintro s r s' hi hset ⟨rfl, rfl⟩
    refine ⟨hi, hset, fun hc => ?_⟩
    exact hi.completed (of_decide_eq_true hc)
  · rintro ⟨state, error, attempts⟩
    cases state with
    | completed => exact Triple.pure drainAssertion_le (Assertion.le_refl _)
    | inFlight => exact Triple.pure drainAssertion_le (Assertion.le_refl _)
    | idle => exact Triple.pure drainAssertion_le (Assertion.le_refl _)
    | failed =>
      refine Triple.weaken (B := drainSettled a) ?_ drainReported_le
      refine Triple.bind (Q := fun _ => drainSettled a) (abortAll_triple _) fun _ => ?_
      dsimp only
      split_ifs
      · exact Triple.throw drainAssertion_le (Assertion.le_refl _)
      · refine Triple.bind (Q := fun _ => drainSettled a)
          (startAttempt_triple.weaken drainSettled_le_counted) fun _ => ?_
        exact Triple.pure drainAssertion_le drainSettled_le_reported

/-- **Every call** ends settled, and reports a completed drain only when the newest attempt has
succeeded. -/
theorem serveDrain_triple (k : DrainRequest) : Triple (drainKept a) (drainSettled a)
    (a.serveDrain k) (fun ev => drainReported a (ev.elim false (·.engineDrainCompleted)))
    (fun _ => drainSettled a) := by
  cases k with
  | begin => exact Triple.bind beginDrain_triple fun _ =>
      Triple.pure drainAssertion_le drainSettled_le_reported
  | await => exact Triple.bind awaitDrain_triple fun _ =>
      Triple.pure drainAssertion_le (Assertion.le_refl _)

end Programs

end Caller

/-! ## No stale verdict -/

theorem drainInv_init (a : HttpVLLMAdapter) : DrainInv a {} ∧ Settled {} := by
  refine ⟨⟨⟨le_rfl, ?_, ?_, ?_⟩, ?_, ?_⟩, rfl, ?_⟩
  · rintro th ⟨⟩
  · rintro th ⟨⟩
  · rintro j th ⟨⟩
  · rintro ⟨⟩
  · rintro ⟨⟩
  · rintro th ⟨k, ⟨⟩, -⟩

/-- **No stale verdict.** Take any calls of `begin_drain` and `await_drain`, the attempts going on
in any order, but for an attempt of an earlier drain that would record its verdict just when the
count of the latest drain stands at its number. Then at every point
* a recorded COMPLETED or FAILED is the outcome of the newest attempt;
* `await_drain` has reported a completed drain only if the newest attempt, one of the latest drain,
  was answered below 400;
* the outcome of a superseded attempt is dropped. -/
theorem no_stale_verdict (a : HttpVLLMAdapter)
    {past : List (DrainRequest × List (TraceEvent HttpCall.Reply DrainSystem))}
    {s s' : DrainSystem} {k : DrainRequest} {tr : List (TraceEvent HttpCall.Reply DrainSystem)}
    {p : HttpProg (Option DrainEvidence)}
    (h : Session (drainWorld a NoStaleMatch) a.serveDrain {} past s)
    (hr : Run (drainWorld a NoStaleMatch) (a.serveDrain k) s tr p s') :
    Reflects s' ∧
      (∀ ev, p = .pure (some ev) → ev.engineDrainCompleted = true →
        ∃ th, s'.Newest th ∧ th.drain = s'.drains ∧ th.Succeeded) ∧
      ∀ i s'', ThreadStep a i s' s'' → NoStaleMatch s' i → i + 1 < s'.opened →
        s''.record = s'.record := by
  have hserve : ∀ k, Triple (drainKept a) (drainSettled a) (a.serveDrain k)
      (fun _ => drainSettled a) fun _ => drainSettled a := by
    intro k tr s hs
    apply (serveDrain_triple k tr s hs).mono
    · exact fun _ => drainReported_le
    · exact fun _ => Assertion.le_refl _
  have hs : DrainInv a s ∧ Settled s := h.between (I := drainKept a) _ hserve (drainInv_init a)
  have hsafe := (serveDrain_triple k [] s hs).run hr
  have hi : DrainInv a s' := hsafe.inv.1
  refine ⟨hi.toReflects, ?_, ?_⟩
  · rintro ev rfl hc
    obtain ⟨-, hset, hreported⟩ := hsafe.2
    obtain ⟨th, hth, hsucc⟩ := hreported hc
    exact ⟨th, hth, hset.current th hth, hsucc⟩
  · intro i s'' hstep hallowed hold
    exact superseded_dropped hi.toNumbered hallowed hstep hold

/-! ## A drain begun again -/

section Replays

variable (allowed : DrainSystem → ℕ → Prop) (a : HttpVLLMAdapter)

/-- The response of a pause that went through. -/
def paused : Except PyExc Response := .ok ⟨200, ""⟩

theorem run_begin (s : DrainSystem) : ∃ tr, Run (drainWorld a allowed) (a.serveDrain .begin) s tr
    (.pure none) { s with
      state := .inFlight
      attempts := 1
      threads := s.threads ++ [⟨1, s.drains + 1, none, a.pauseAttempt 1⟩]
      opened := s.opened + 1
      drains := s.drains + 1 } :=
  ⟨_, Run.perform (r := ()) rfl
    (Run.perform (r := (1 : ℕ)) ⟨rfl, rfl⟩ (Run.perform (r := ()) rfl .nil))⟩

variable {allowed a}

/-- The attempt that has the current number goes through and records it, and `await_drain` reports
it. -/
theorem session_completes
    {past : List (DrainRequest × List (TraceEvent HttpCall.Reply DrainSystem))}
    {s : DrainSystem} {i d : ℕ} (h : Session (drainWorld a allowed) a.serveDrain {} past s)
    (hth : s.threads[i]? = some ⟨s.attempts, d, none, a.pauseAttempt s.attempts⟩)
    (h₁ : allowed s i)
    (h₂ : allowed { s with
      threads := s.threads.set i ⟨s.attempts, d, some paused, closing s.attempts paused⟩ } i) :
    ∃ tr s', s' = { s with
        state := .completed
        error := none
        threads := s.threads.set i ⟨s.attempts, d, some paused, .pure ()⟩ } ∧
      Session (drainWorld a allowed) a.serveDrain {} past s' ∧
      Run (drainWorld a allowed) (a.serveDrain .await) s' tr
        (.pure (some ⟨true, none, "pause(mode=wait) returned"⟩)) s' := by
  have hlt : i < s.threads.length := (List.getElem?_eq_some_iff.mp hth).1
  obtain ⟨limit, hpause⟩ := pauseAttempt_eq a s.attempts
  have hanswer : ThreadStep a i s { s with
      threads := s.threads.set i ⟨s.attempts, d, some paused, closing s.attempts paused⟩ } :=
    ⟨_, .request .., _, paused, s, hth, hpause, rfl, rfl⟩
  have hclose : ThreadStep a i { s with
      threads := s.threads.set i ⟨s.attempts, d, some paused, closing s.attempts paused⟩ } { s with
      state := .completed
      error := none
      threads := s.threads.set i ⟨s.attempts, d, some paused, .pure ()⟩ } := by
    refine ⟨_, .closeAttempt s.attempts true none, .pure, (), _, List.getElem?_set_self hlt, rfl,
      rfl, ?_⟩
    simp only [DrainSystem.closed, ne_eq, not_true_eq_false, if_false, if_true, List.set_set]
    rfl
  exact ⟨_, _, rfl, (h.env ⟨i, h₁, hanswer⟩).env ⟨i, h₂, hclose⟩,
    Run.perform (r := (DrainState.completed, none, s.attempts)) ⟨rfl, rfl⟩ .nil⟩

/-- A drain that completes, and the call that reports it. -/
theorem no_stale_verdict_completed : ∃ past s tr s' th,
    Session (drainWorld {} NoStaleMatch) (HttpVLLMAdapter.serveDrain {}) {} past s ∧
    Run (drainWorld {} NoStaleMatch) (HttpVLLMAdapter.serveDrain {} .await) s tr
      (.pure (some ⟨true, none, "pause(mode=wait) returned"⟩)) s' ∧
    s'.Newest th ∧ th.drain = s'.drains ∧ th.Succeeded := by
  obtain ⟨tr₁, hbegin⟩ := run_begin NoStaleMatch {} {}
  have hopen := Session.nil.request hbegin (.pure none)
  have hallowed : ∀ th : PauseThread, th.drain = 1 → NoStaleMatch
      { state := .inFlight, attempts := 1, threads := [th], opened := 1, drains := 1 } 0 := by
    rintro th hd th' n ok error next ⟨⟩ - hlt
    rw [hd] at hlt
    cases Nat.lt_irrefl 1 hlt
  obtain ⟨tr₂, s', rfl, hdone, hawait⟩ :=
    session_completes (i := 0) hopen rfl (hallowed _ rfl) (hallowed _ rfl)
  obtain ⟨th, hth, hdrain, hsucc⟩ := (no_stale_verdict {} hdone hawait).2.1 _ rfl rfl
  exact ⟨_, _, _, _, th, hdone, hawait, hth, hdrain, hsucc⟩

/-- A drain begun again while its first attempt is out: the old attempt still has the current
number, its success is recorded, and `await_drain` reports it while the new one is unanswered. -/
theorem stale_verdict_recorded : ∃ past s tr s' th,
    Session (drainWorld {} fun _ _ => True) (HttpVLLMAdapter.serveDrain {}) {} past s ∧
    Run (drainWorld {} fun _ _ => True) (HttpVLLMAdapter.serveDrain {} .await) s tr
      (.pure (some ⟨true, none, "pause(mode=wait) returned"⟩)) s' ∧
    s'.state = .completed ∧ s'.Newest th ∧ th.answer = none := by
  obtain ⟨tr₁, hbegin⟩ := run_begin (fun _ _ => True) {} {}
  have hopen := Session.nil.request hbegin (.pure none)
  obtain ⟨tr₂, hagain⟩ := run_begin (fun _ _ => True) {} _
  have hreopen := hopen.request hagain (.pure none)
  obtain ⟨tr₃, s', rfl, hdone, hawait⟩ := session_completes (i := 0) hreopen rfl trivial trivial
  exact ⟨_, _, _, _, _, hdone, hawait, rfl, ⟨1, rfl, rfl⟩, rfl⟩

end Replays

end RolloutCore
