import RolloutCore.CycleGuarantees
import RolloutCore.Lib.Exchanges

/-!
# The deadline of a drain

The loop of `_drain_until_quiesced` compares the clock with its deadline to decide whether it
sleeps; how often it polls is decided by its budget of polls alone.
-/

namespace RolloutCore

open LifecycleController

/-- A call of the runner with its reply. -/
abbrev RunnerExchange := Exchange RunnerCall.Reply

namespace RunnerExchange

def poll (reply : Except PyExc DrainEvidence) : RunnerExchange := ⟨.adapter .awaitDrain, reply⟩

def confirm (evidence : DrainEvidence) (reply : Except PyExc Unit) : RunnerExchange :=
  ⟨.ctrl (.confirmDrained evidence), reply⟩

def reading (now : ℚ) : RunnerExchange := ⟨.monotonic, now⟩

def sleep (seconds : ℚ) : RunnerExchange := ⟨.sleep seconds, ()⟩

def isPoll : RunnerExchange → Bool
  | ⟨.adapter .awaitDrain, _⟩ => true
  | _ => false

@[simp] theorem isPoll_poll (reply : Except PyExc DrainEvidence) : isPoll (poll reply) = true := rfl

@[simp] theorem isPoll_confirm (evidence : DrainEvidence) (reply : Except PyExc Unit) :
    isPoll (confirm evidence reply) = false := rfl

@[simp] theorem isPoll_reading (now : ℚ) : isPoll (reading now) = false := rfl

@[simp] theorem isPoll_sleep (seconds : ℚ) : isPoll (sleep seconds) = false := rfl

end RunnerExchange

open RunnerExchange

/-! ## What the loop does -/

/-- The calls of a loop with `left` polls left, and its result. -/
inductive DrainLoop (r : LifecycleRunner) (deadline : ℚ) :
    ℕ → List RunnerExchange → Except PyExc ℕ → Prop
  | exhausted : DrainLoop r deadline 0 [] (.error (.core r.drainExhausted))
  | failed {left : ℕ} (e : PyExc) : DrainLoop r deadline (left + 1) [poll (.error e)] (.error e)
  | drained {left : ℕ} (evidence : DrainEvidence) (n : ℕ) :
    DrainLoop r deadline (left + 1) [poll (.ok evidence), confirm evidence (.ok ())] (.ok n)
  | refused {left : ℕ} (evidence : DrainEvidence) (e : PyExc)
      (he : ∀ i d, e ≠ .core (.evidenceNotReady i d)) :
    DrainLoop r deadline (left + 1) [poll (.ok evidence), confirm evidence (.error e)] (.error e)
  | last (evidence : DrainEvidence) (invariant detail : String) :
    DrainLoop r deadline 1
      [poll (.ok evidence), confirm evidence (.error (.core (.evidenceNotReady invariant detail)))]
      (.error (.core r.drainExhausted))
  | early {left : ℕ} (evidence : DrainEvidence) (invariant detail : String) {now : ℚ}
      {l : List RunnerExchange} {x : Except PyExc ℕ} (hnow : now < deadline)
      (h : DrainLoop r deadline (left + 1) l x) :
    DrainLoop r deadline (left + 2)
      (poll (.ok evidence) ::
        confirm evidence (.error (.core (.evidenceNotReady invariant detail))) ::
          reading now :: sleep r.drainInterval :: l) x
  | late {left : ℕ} (evidence : DrainEvidence) (invariant detail : String) {now : ℚ}
      {l : List RunnerExchange} {x : Except PyExc ℕ} (hnow : deadline ≤ now)
      (h : DrainLoop r deadline (left + 1) l x) :
    DrainLoop r deadline (left + 2)
      (poll (.ok evidence) ::
        confirm evidence (.error (.core (.evidenceNotReady invariant detail))) ::
          reading now :: l) x

variable {r : LifecycleRunner} {deadline : ℚ} {left : ℕ} {l : List RunnerExchange}
  {x : Except PyExc ℕ}

theorem observe_bind {m : AdapterCall} {β : Type} (f : m.Ret → RunnerProg β) :
    (LifecycleRunner.observe m >>= f) =
      (Prog.op (RunnerCall.adapter m)).bind fun reply => (Prog.ofExcept reply).bind f := rfl

/-- **The loop of the source does nothing else.** -/
theorem pollDrain_loop (hleft : left ≤ r.drainPolls.toNat)
    (h : (r.pollDrain deadline left).Yields l x) : DrainLoop r deadline left l x := by
  induction left generalizing l with
  | zero =>
    cases h
    exact .exhausted
  | succ left ih =>
    unfold LifecycleRunner.pollDrain at h
    dsimp only at h
    rw [observe_bind] at h
    obtain ⟨polled, l₁, rfl, h₁⟩ := h.of_op
    cases polled with
    | error e =>
      cases h₁
      exact .failed e
    | ok evidence =>
      obtain ⟨confirmed, l₂, rfl, h₂⟩ :=
        Prog.Yields.of_op (i := RunnerCall.ctrl (.confirmDrained evidence)) h₁
      cases confirmed with
      | ok _ =>
        cases h₂
        exact .drained evidence _
      | error e =>
        split at h₂
        · next heq => cases heq
        · next invariant detail heq =>
          cases heq
          split_ifs at h₂ with hpoll
          · obtain ⟨now, l₃, rfl, h₃⟩ := Prog.Yields.of_op (i := RunnerCall.monotonic) h₂
            obtain ⟨left, rfl⟩ : ∃ k, left = k + 1 := ⟨left - 1, by omega⟩
            have hrest : left + 1 ≤ r.drainPolls.toNat := by omega
            split_ifs at h₃ with hnow
            · obtain ⟨_, l₄, rfl, h₄⟩ :=
                Prog.Yields.of_op (i := RunnerCall.sleep r.drainInterval) h₃
              exact .early evidence invariant detail hnow (ih hrest h₄)
            · exact .late evidence invariant detail (not_lt.mp hnow) (ih hrest h₃)
          · -- the last poll of the budget
            obtain rfl : left = 0 := by omega
            cases h₂
            exact .last evidence invariant detail
        · next e' hne heq =>
          cases heq
          cases h₂
          exact .refused evidence e hne

/-! ## What follows a reading -/

theorem reading_inj {now now' : ℚ} : reading now = reading now' ↔ now = now' := by
  constructor
  · intro h
    cases h
    rfl
  · exact congrArg reading

section Suffixes

variable {now : ℚ} {after : List RunnerExchange}

/-- A part that begins with a reading begins at a reading. -/
theorem suffix_skip {e : RunnerExchange} (he : e.1 ≠ .monotonic) :
    (reading now :: after) <:+ (e :: l) ↔ (reading now :: after) <:+ l := by
  rw [List.suffix_cons_iff]
  refine or_iff_right fun h => he ?_
  rw [← (List.cons.inj h).1]
  rfl

@[simp] theorem suffix_poll (reply : Except PyExc DrainEvidence) :
    (reading now :: after) <:+ (poll reply :: l) ↔ (reading now :: after) <:+ l :=
  suffix_skip fun h => by cases h

@[simp] theorem suffix_confirm (evidence : DrainEvidence) (reply : Except PyExc Unit) :
    (reading now :: after) <:+ (confirm evidence reply :: l) ↔ (reading now :: after) <:+ l :=
  suffix_skip fun h => by cases h

@[simp] theorem suffix_sleep (seconds : ℚ) :
    (reading now :: after) <:+ (sleep seconds :: l) ↔ (reading now :: after) <:+ l :=
  suffix_skip fun h => by cases h

@[simp] theorem suffix_reading (now' : ℚ) : (reading now :: after) <:+ (reading now' :: l) ↔
    (now = now' ∧ after = l) ∨ (reading now :: after) <:+ l := by
  rw [List.suffix_cons_iff, List.cons.injEq, reading_inj]

end Suffixes

namespace DrainLoop

/-- With polls left the loop begins with a poll. -/
theorem begins (h : DrainLoop r deadline (left + 1) l x) : ∃ reply l', l = poll reply :: l' := by
  cases h <;> exact ⟨_, _, rfl⟩

/-- After a late reading the loop polls once more. -/
theorem poll_after_late (h : DrainLoop r deadline left l x) {now : ℚ} {after : List RunnerExchange}
    (hsuffix : (reading now :: after) <:+ l) (hlate : deadline ≤ now) :
    ∃ reply rest, after = poll reply :: rest := by
  induction h with
  | exhausted => simp at hsuffix
  | failed e => simp at hsuffix
  | drained evidence n => simp at hsuffix
  | refused evidence e he => simp at hsuffix
  | last evidence invariant detail => simp at hsuffix
  | early evidence invariant detail hnow h ih =>
    rw [suffix_poll, suffix_confirm, suffix_reading, suffix_sleep] at hsuffix
    obtain ⟨rfl, -⟩ | hrest := hsuffix
    · exact absurd hlate (not_le.mpr hnow)
    · exact ih hrest
  | late evidence invariant detail hnow h ih =>
    rw [suffix_poll, suffix_confirm, suffix_reading] at hsuffix
    obtain ⟨rfl, rfl⟩ | hrest := hsuffix
    · exact h.begins
    · exact ih hrest

/-- The budget bounds the polls. -/
theorem polls_le (h : DrainLoop r deadline left l x) : l.countP isPoll ≤ left := by
  induction h with
  | exhausted => simp
  | failed e => simp [List.countP_cons]
  | drained evidence n => simp [List.countP_cons]
  | refused evidence e he => simp [List.countP_cons]
  | last evidence invariant detail => simp [List.countP_cons]
  | early evidence invariant detail hnow h ih => simpa [List.countP_cons] using ih
  | late evidence invariant detail hnow h ih => simpa [List.countP_cons] using ih

/-- Whatever the clock says, an engine that is never ready is polled to the end of the budget. -/
theorem polls_of_never_ready (h : DrainLoop r deadline left l x)
    (hpoll : ∀ e, poll (.error e) ∉ l) (hconfirm : ∀ evidence reply, confirm evidence reply ∈ l →
      ∃ i d, reply = .error (.core (.evidenceNotReady i d))) :
    l.countP isPoll = left ∧ x = .error (.core r.drainExhausted) := by
  induction h with
  | exhausted => exact ⟨rfl, rfl⟩
  | failed e => exact absurd List.mem_cons_self (hpoll e)
  | drained evidence n =>
    obtain ⟨i, d, h⟩ := hconfirm evidence _ (List.mem_cons_of_mem _ List.mem_cons_self)
    cases h
  | refused evidence e he =>
    obtain ⟨i, d, h⟩ := hconfirm evidence _ (List.mem_cons_of_mem _ List.mem_cons_self)
    exact absurd (Except.error.inj h) (he i d)
  | last evidence invariant detail => exact ⟨by simp [List.countP_cons], rfl⟩
  | early evidence invariant detail hnow h ih =>
    obtain ⟨hcount, hx⟩ := ih (fun e he => hpoll e (by simp [he]))
      fun evidence reply he => hconfirm evidence reply (by simp [he])
    exact ⟨by simpa [List.countP_cons] using hcount, hx⟩
  | late evidence invariant detail hnow h ih =>
    obtain ⟨hcount, hx⟩ := ih (fun e he => hpoll e (by simp [he]))
      fun evidence reply he => hconfirm evidence reply (by simp [he])
    exact ⟨by simpa [List.countP_cons] using hcount, hx⟩

end DrainLoop

/-- A drain reads the clock once, and its loop has the whole budget. -/
theorem drain_loop (h : r.drainUntilQuiesced.Yields l x) : ∃ start rest, l = reading start :: rest ∧
    DrainLoop r (start + r.drainPolls * r.drainInterval) r.drainPolls.toNat rest x := by
  obtain ⟨start, rest, rfl, hrest⟩ := Prog.Yields.of_op (i := RunnerCall.monotonic) h
  exact ⟨start, rest, rfl, pollDrain_loop le_rfl hrest⟩

/-! ## The deadline -/

/-- From a reading after a poll at or past the deadline on, nothing is polled, and the drain ends as
one that did not complete. -/
def DeadlineKept (r : LifecycleRunner) (l : List RunnerExchange) (x : Except PyExc ℕ) : Prop :=
  ∀ start rest, l = reading start :: rest → ∀ now after, (reading now :: after) <:+ rest →
    start + r.drainPolls * r.drainInterval ≤ now →
      (∀ e ∈ after, isPoll e = false) ∧ x = .error (.core r.drainExhausted)

/-- No reading after a poll is at or past the deadline. -/
def PollsInTime (r : LifecycleRunner) (l : List RunnerExchange) : Prop :=
  ∀ start rest, l = reading start :: rest → ∀ now, reading now ∈ rest →
    now < start + r.drainPolls * r.drainInterval

/-- With any adapter, any controller and any clock, a drain keeps its deadline if and only if no
reading is late. -/
theorem drain_deadline_iff {σ : Type} {W : World RunnerCall.Reply σ} {s s' : σ}
    {tr : List (TraceEvent RunnerCall.Reply σ)} {x : Except PyExc ℕ}
    (h : Run W r.drainUntilQuiesced s tr (.ofExcept x) s') :
    DeadlineKept r (exchanges tr) x ↔ PollsInTime r (exchanges tr) := by
  have hyields : r.drainUntilQuiesced.Yields (exchanges tr) x := by
    have hall := h.yields (l := []) (x := x) (Prog.yields_ofExcept.mpr ⟨rfl, rfl⟩)
    rwa [List.append_nil] at hall
  obtain ⟨start, rest, hl, hloop⟩ := drain_loop hyields
  rw [hl]
  constructor
  · intro hkept start' rest' heq now hnow
    cases heq
    by_contra hlate
    obtain ⟨before, after, hsplit⟩ := List.append_of_mem hnow
    have hsuffix : (reading now :: after) <:+ rest := ⟨before, hsplit.symm⟩
    obtain ⟨reply, more, rfl⟩ := hloop.poll_after_late hsuffix (not_lt.mp hlate)
    have hnone := (hkept start rest rfl now _ hsuffix (not_lt.mp hlate)).1
    exact absurd (hnone (poll reply) List.mem_cons_self) (by simp)
  · intro hin start' rest' heq now after hsuffix hlate
    exact absurd (hin start' rest' heq now (hsuffix.subset List.mem_cons_self)) (not_lt.mpr hlate)

/-! ## A slow adapter -/

/-- A controller with the clock and the polls of a script. -/
structure Script where
  controller : LifecycleController
  readings : List ℚ
  polls : List DrainEvidence

def Script.answer : (call : RunnerCall) → Script → call.Reply × Script
  | .ctrl op, s => ((op.reply s.controller).1, { s with controller := (op.reply s.controller).2 })
  | .state, s => (s.controller.state, s)
  | .currentTarget, s => (s.controller.currentTarget, s)
  | .adapter .awaitDrain, s => (.ok (s.polls.headD goodDrain), { s with polls := s.polls.tail })
  | .adapter m, s => (goodReply m, s)
  | .monotonic, s => (s.readings.headD 0, { s with readings := s.readings.tail })
  | .sleep _, s => ((), s)

/-- An engine that has not drained. -/
def pendingDrain : DrainEvidence := ⟨false, some 1, ""⟩

/-- A runner with a budget of two polls, half a second apart. -/
def twoPolls : LifecycleRunner := { drainPolls := 2 }

/-- A draining controller, an engine that is ready at the second poll, and these readings. -/
def slowScript (readings : List ℚ) : Script :=
  ⟨runOps [.initialise (goodBootstrap identityA), .beginDrain], readings, [pendingDrain]⟩

/-- The drain, computed. -/
def scriptedDrain (readings : List ℚ) :
    List (TraceEvent RunnerCall.Reply Script) × Except PyExc ℕ × Script :=
  twoPolls.drainUntilQuiesced.play Script.answer (fun _ _ => none) 0 (slowScript readings)

theorem run_scriptedDrain (readings : List ℚ) :
    Run (World.solitary Script.answer) twoPolls.drainUntilQuiesced (slowScript readings)
      (scriptedDrain readings).1 (.ofExcept (scriptedDrain readings).2.1)
      (scriptedDrain readings).2.2 :=
  Run.solitary Script.answer _ _

theorem drain_deadline_iff_prompt :
    DeadlineKept twoPolls (exchanges (scriptedDrain [0, 1 / 4]).1) (scriptedDrain [0, 1 / 4]).2.1 ↔
      PollsInTime twoPolls (exchanges (scriptedDrain [0, 1 / 4]).1) :=
  drain_deadline_iff (run_scriptedDrain [0, 1 / 4])

/-- The first poll takes ten seconds, and the drain ends with a second one. -/
theorem late_drain_polls : ¬ DeadlineKept twoPolls (exchanges (scriptedDrain [0, 10]).1)
    (scriptedDrain [0, 10]).2.1 := by
  intro h
  have hlate : (0 : ℚ) + twoPolls.drainPolls * twoPolls.drainInterval ≤ 10 := by
    norm_num [twoPolls, DEFAULT_DRAIN_INTERVAL]
  obtain ⟨-, hexhausted⟩ :=
    h 0 _ rfl 10 _ ⟨[poll (.ok pendingDrain), confirm pendingDrain _], rfl⟩ hlate
  have hreturned : (scriptedDrain [0, 10]).2.1.toOption = some 2 := by decide +kernel
  rw [hexhausted] at hreturned
  cases hreturned

end RolloutCore
