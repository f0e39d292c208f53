import Mathlib.Data.Nat.Notation

/-!
# Programs under interference

A program performs operations, each answered by a reply, and ends by returning or by raising. A
`World` says what an operation may do to a shared state and what others may do to that state in
between. `Run` is the small-step execution with its trace; `Safe` proves what holds at every point
of every run, from assertions that the others cannot falsify.
-/

/-- A program over operations `op` with replies in `Reply op`. -/
inductive Prog {ι : Type} (Reply : ι → Type) (ε α : Type)
  | pure (a : α)
  | throw (e : ε)
  | perform (op : ι) (next : Reply op → Prog Reply ε α)

namespace Prog

variable {ι κ : Type} {Reply : ι → Type} {Reply' : κ → Type} {ε α β : Type}

def bind : Prog Reply ε α → (α → Prog Reply ε β) → Prog Reply ε β
  | .pure a, f => f a
  | .throw e, _ => .throw e
  | .perform op next, f => .perform op fun r => (next r).bind f

instance : Monad (Prog Reply ε) where
  pure := .pure
  bind := .bind

instance : MonadExceptOf ε (Prog Reply ε) where
  throw := .throw
  tryCatch p handle :=
    let rec go : Prog Reply ε _ → Prog Reply ε _
      | .pure a => .pure a
      | .throw e => handle e
      | .perform op next => .perform op fun r => go (next r)
    go p

/-- The operation, as a program that returns its reply. -/
def op (i : ι) : Prog Reply ε (Reply i) := .perform i .pure

/-- How the program ended, as a value. -/
def attempt : Prog Reply ε α → Prog Reply ε (Except ε α)
  | .pure a => .pure (.ok a)
  | .throw e => .pure (.error e)
  | .perform op next => .perform op fun r => (next r).attempt

/-- Return the value or raise the error. -/
def ofExcept : Except ε α → Prog Reply ε α
  | .ok a => .pure a
  | .error e => .throw e

/-- The program with every operation carried out by a program of `handle`. -/
def interp (handle : (op : ι) → Prog Reply' ε (Reply op)) : Prog Reply ε α → Prog Reply' ε α
  | .pure a => .pure a
  | .throw e => .throw e
  | .perform op next => (handle op).bind fun r => (next r).interp handle

theorem bind_assoc {γ : Type} (p : Prog Reply ε α) (f : α → Prog Reply ε β)
    (g : β → Prog Reply ε γ) : (p.bind f).bind g = p.bind fun a => (f a).bind g := by
  induction p with
  | pure a => rfl
  | throw e => rfl
  | perform op next ih => exact congrArg (Prog.perform op) (funext ih)

theorem interp_bind (handle : (op : ι) → Prog Reply' ε (Reply op)) (p : Prog Reply ε α)
    (f : α → Prog Reply ε β) :
    (p.bind f).interp handle = (p.interp handle).bind fun a => (f a).interp handle := by
  induction p with
  | pure a => rfl
  | throw e => rfl
  | perform op next ih =>
    show (handle op).bind (fun r => ((next r).bind f).interp handle) =
      ((handle op).bind fun r => (next r).interp handle).bind fun a => (f a).interp handle
    rw [bind_assoc]
    exact congrArg (handle op).bind (funext ih)

/-- Carrying out every operation by itself changes nothing. -/
theorem interp_op (p : Prog Reply ε α) : p.interp Prog.op = p := by
  induction p with
  | pure a => rfl
  | throw e => rfl
  | perform op next ih => exact congrArg (Prog.perform op) (funext ih)

/-- The program has returned or raised. -/
inductive Ended : Prog Reply ε α → Prop
  | pure (a : α) : Ended (.pure a)
  | throw (e : ε) : Ended (.throw e)

instance (p : Prog Reply ε α) : Decidable p.Ended :=
  match p with
  | .pure a => isTrue (.pure a)
  | .throw e => isTrue (.throw e)
  | .perform _ _ => isFalse fun h => by cases h

theorem ended_ofExcept (x : Except ε α) : (ofExcept x : Prog Reply ε α).Ended := by
  cases x with
  | ok a => exact .pure a
  | error e => exact .throw e

end Prog

/-! ## Runs -/

/-- What the operations may do, and what others may do between two of them. -/
structure World {ι : Type} (Reply : ι → Type) (σ : Type) where
  answers : (op : ι) → σ → Reply op → σ → Prop
  env : σ → σ → Prop

/-- One step of a run: a step of the others, or an operation with its reply. -/
inductive TraceEvent {ι : Type} (Reply : ι → Type) (σ : Type)
  | env (before after : σ)
  | call (op : ι) (reply : Reply op) (before after : σ)

/-- `Run W p s tr q s'`: from `s` the program `p` gets to `s'` with `q` left to do. -/
inductive Run {ι σ ε α : Type} {Reply : ι → Type} (W : World Reply σ) (p : Prog Reply ε α) (s : σ) :
    List (TraceEvent Reply σ) → Prog Reply ε α → σ → Prop
  | nil : Run W p s [] p s
  | env {tr : List (TraceEvent Reply σ)} {q : Prog Reply ε α} {s' s'' : σ} (h : Run W p s tr q s')
      (he : W.env s' s'') : Run W p s (tr ++ [.env s' s'']) q s''
  | call {tr : List (TraceEvent Reply σ)} {op : ι} {next : Reply op → Prog Reply ε α} {s' s'' : σ}
      {r : Reply op} (h : Run W p s tr (.perform op next) s') (hc : W.answers op s' r s'') :
      Run W p s (tr ++ [.call op r s' s'']) (next r) s''

/-- Every entry of a list stands after a beginning that `P` allows. -/
def Before {α : Type} (P : List α → α → Prop) (l : List α) : Prop :=
  ∀ pre x post, l = pre ++ x :: post → P pre x

theorem before_append {α : Type} {P : List α → α → Prop} {l : List α} {y : α} :
    Before P (l ++ [y]) ↔ Before P l ∧ P l y := by
  constructor
  · intro h
    refine ⟨fun pre x post hl => h pre x (post ++ [y]) ?_, h l y [] rfl⟩
    rw [hl, List.append_assoc, List.cons_append]
  · rintro ⟨hl, hy⟩ pre x post heq
    rcases List.eq_nil_or_concat post with rfl | ⟨post, z, rfl⟩
    · obtain ⟨rfl, hyx⟩ := List.append_inj' heq rfl
      rw [← List.cons.inj hyx |>.1]
      exact hy
    · rw [List.concat_eq_append, ← List.cons_append, ← List.append_assoc] at heq
      exact hl pre x post (List.append_inj' heq rfl).1

theorem Before.of_append {α : Type} {P : List α → α → Prop} {l l' : List α}
    (h : Before P (l ++ l')) : Before P l := by
  intro pre x post hl
  refine h pre x (post ++ l') ?_
  rw [hl, List.append_assoc, List.cons_append]

section Runs

variable {ι σ ε α : Type} {Reply : ι → Type} {W : World Reply σ}

theorem Run.trans {p q q' : Prog Reply ε α} {s s' s'' : σ} {tr tr' : List (TraceEvent Reply σ)}
    (h : Run W p s tr q s') (h' : Run W q s' tr' q' s'') : Run W p s (tr ++ tr') q' s'' := by
  induction h' with
  | nil => rw [List.append_nil]; exact h
  | env _ he ih => rw [← List.append_assoc]; exact ih.env he
  | call _ hc ih => rw [← List.append_assoc]; exact ih.call hc

/-- A run from its first operation on. -/
theorem Run.perform {op : ι} {next : Reply op → Prog Reply ε α} {q : Prog Reply ε α} {r : Reply op}
    {s s' s'' : σ} {tr : List (TraceEvent Reply σ)} (hc : W.answers op s r s')
    (h : Run W (next r) s' tr q s'') :
    Run W (.perform op next) s (.call op r s s' :: tr) q s'' :=
  (Run.nil.call hc).trans h

/-- When every operation is answered, a run can go on until the program has ended. -/
theorem Run.completes (hW : ∀ op s, ∃ r s', W.answers op s r s') (p : Prog Reply ε α) (s : σ) :
    ∃ tr q s', Run W p s tr q s' ∧ q.Ended := by
  induction p generalizing s with
  | pure a => exact ⟨[], _, s, .nil, .pure a⟩
  | throw e => exact ⟨[], _, s, .nil, .throw e⟩
  | perform op next ih =>
    obtain ⟨r, s', hr⟩ := hW op s
    obtain ⟨tr, q, s'', h, hq⟩ := ih r s'
    exact ⟨_, q, s'', (Run.nil.call hr).trans h, hq⟩

/-- What the operations and the others preserve is preserved by a run. -/
theorem Run.invariant {J : σ → Prop} (hcall : ∀ op s r s', J s → W.answers op s r s' → J s')
    (henv : ∀ s s', J s → W.env s s' → J s') {p q : Prog Reply ε α} {s s' : σ}
    {tr : List (TraceEvent Reply σ)} (h : Run W p s tr q s') (hs : J s) : J s' := by
  induction h with
  | nil => exact hs
  | env _ he ih => exact henv _ _ ih he
  | call _ hc ih => exact hcall _ _ _ _ ih hc

/-- Runs of several programs one after the other, each to its end, with the others in between;
the history keeps each request with its trace. -/
inductive Session {κ : Type} (W : World Reply σ) (serve : κ → Prog Reply ε α) (s₀ : σ) :
    List (κ × List (TraceEvent Reply σ)) → σ → Prop
  | nil : Session W serve s₀ [] s₀
  | env {past : List (κ × List (TraceEvent Reply σ))} {s s' : σ} (h : Session W serve s₀ past s)
      (he : W.env s s') : Session W serve s₀ past s'
  | request {past : List (κ × List (TraceEvent Reply σ))} {s s' : σ} {k : κ}
      {tr : List (TraceEvent Reply σ)} {p : Prog Reply ε α} (h : Session W serve s₀ past s)
      (hr : Run W (serve k) s tr p s') (hp : p.Ended) :
      Session W serve s₀ (past ++ [(k, tr)]) s'

theorem Session.invariant {κ : Type} {serve : κ → Prog Reply ε α} {s₀ s : σ} {J : σ → Prop}
    {past : List (κ × List (TraceEvent Reply σ))} (h : Session W serve s₀ past s)
    (hrun : ∀ k s tr p s', J s → Run W (serve k) s tr p s' → J s')
    (henv : ∀ s s', J s → W.env s s' → J s') (hs : J s₀) : J s := by
  induction h with
  | nil => exact hs
  | env _ he ih => exact henv _ _ ih he
  | request _ hr _ ih => exact hrun _ _ _ _ _ ih hr

/-- What every run from a state of `J` satisfies, every request of a session satisfies. -/
theorem Session.forall_past {κ : Type} {serve : κ → Prog Reply ε α} {s₀ s : σ} {J : σ → Prop}
    {P : κ → List (TraceEvent Reply σ) → Prop}
    {past : List (κ × List (TraceEvent Reply σ))} (h : Session W serve s₀ past s)
    (hrun : ∀ k s tr p s', J s → Run W (serve k) s tr p s' → J s' ∧ P k tr)
    (henv : ∀ s s', J s → W.env s s' → J s') (hs : J s₀) : ∀ x ∈ past, P x.1 x.2 := by
  induction h with
  | nil => intro x hx; cases hx
  | env _ _ ih => exact ih
  | request h hr _ ih =>
    have hJ := h.invariant (fun k s tr p s' hs hr => (hrun k s tr p s' hs hr).1) henv hs
    intro x hx
    rcases List.mem_append.mp hx with hx | hx
    · exact ih x hx
    · rw [List.mem_singleton.mp hx]
      exact (hrun _ _ _ _ _ hJ hr).2

/-- The steps of the others before a call, with the state they leave. -/
def interference (s : σ) : Option σ → List (TraceEvent Reply σ) × σ
  | none => ([], s)
  | some s' => ([.env s s'], s')

/-- One run to the end, computed: `answer` replies to the calls, and before call number `n` the
others take the step `others n`, if any. -/
def Prog.play (answer : (op : ι) → σ → Reply op × σ) (others : ℕ → σ → Option σ) :
    Prog Reply ε α → ℕ → σ → List (TraceEvent Reply σ) × Except ε α × σ
  | .pure a, _, s => ([], .ok a, s)
  | .throw e, _, s => ([], .error e, s)
  | .perform op next, n, s =>
    let first : List (TraceEvent Reply σ) × σ := interference s (others n s)
    let (r, s') := answer op first.2
    let rest := (next r).play answer others (n + 1) s'
    (first.1 ++ .call op r first.2 s' :: rest.1, rest.2)

/-- A computed run is a run. -/
theorem Run.of_play {answer : (op : ι) → σ → Reply op × σ} {others : ℕ → σ → Option σ}
    (hanswer : ∀ op s, W.answers op s (answer op s).1 (answer op s).2)
    (hothers : ∀ n s, ∀ s' ∈ others n s, W.env s s') (p : Prog Reply ε α) (n : ℕ) (s : σ) :
    Run W p s (p.play answer others n s).1 (.ofExcept (p.play answer others n s).2.1)
      (p.play answer others n s).2.2 := by
  induction p generalizing n s with
  | pure a => exact .nil
  | throw e => exact .nil
  | perform op next ih =>
    have hfirst : Run W (.perform op next) s (@interference ι σ Reply s (others n s)).1
        (.perform op next) (@interference ι σ Reply s (others n s)).2 := by
      cases ho : others n s with
      | none => exact .nil
      | some s' => exact Run.nil.env (hothers n s s' ho)
    have hcall := hfirst.call (hanswer op _)
    have hrest := hcall.trans (ih _ (n + 1) _)
    rw [List.append_assoc, List.singleton_append] at hrest
    exact hrest

/-- The world that computes its replies, and in which nobody else acts. -/
def World.solitary (answer : (op : ι) → σ → Reply op × σ) : World Reply σ where
  answers op s r s' := answer op s = (r, s')
  env _ _ := False

theorem Run.solitary (answer : (op : ι) → σ → Reply op × σ) (p : Prog Reply ε α) (s : σ) :
    Run (World.solitary answer) p s (p.play answer (fun _ _ => none) 0 s).1
      (.ofExcept (p.play answer (fun _ _ => none) 0 s).2.1)
      (p.play answer (fun _ _ => none) 0 s).2.2 :=
  Run.of_play (W := World.solitary answer) (fun _ _ => rfl) (fun _ _ _ h => by cases h) p 0 s

end Runs

/-! ## Safety -/

/-- A statement about the trace and the state that the others cannot falsify. -/
structure Assertion {ι σ : Type} {Reply : ι → Type} (W : World Reply σ) where
  holds : List (TraceEvent Reply σ) → σ → Prop
  stable : ∀ {tr s s'}, holds tr s → W.env s s' → holds (tr ++ [.env s s']) s'

namespace Assertion

variable {ι σ : Type} {Reply : ι → Type} {W : World Reply σ}

instance : CoeFun (Assertion W) fun _ => List (TraceEvent Reply σ) → σ → Prop := ⟨holds⟩

/-- The assertion that holds of a state, whatever the trace. -/
def ofState (P : σ → Prop) (hP : ∀ s s', P s → W.env s s' → P s') : Assertion W :=
  ⟨fun _ s => P s, fun h he => hP _ _ h he⟩

instance : LE (Assertion W) := ⟨fun A B => ∀ tr s, A tr s → B tr s⟩

theorem le_refl (A : Assertion W) : A ≤ A := fun _ _ h => h

end Assertion

section Safety

variable {ι κ σ ε α β : Type} {Reply : ι → Type} {Reply' : κ → Type} {W : World Reply σ}

/-- From the trace `tr` and the state `s` on, `I` holds at every point a run of the program
reaches, and `Q` or `E` holds when it has returned or raised. -/
def Safe (I : Assertion W) (Q : α → Assertion W) (E : ε → Assertion W) :
    Prog Reply ε α → List (TraceEvent Reply σ) → σ → Prop
  | .pure a, tr, s => I tr s ∧ Q a tr s
  | .throw e, tr, s => I tr s ∧ E e tr s
  | .perform op next, tr, s => ∃ A : Assertion W, A tr s ∧ A ≤ I ∧
      ∀ tr s r s', A tr s → W.answers op s r s' →
        Safe I Q E (next r) (tr ++ [.call op r s s']) s'

variable {I A B : Assertion W} {Q : α → Assertion W} {Q' : β → Assertion W} {E : ε → Assertion W}
  {p q : Prog Reply ε α} {tr tr' : List (TraceEvent Reply σ)} {s s' : σ}

theorem Safe.inv (h : Safe I Q E p tr s) : I tr s := by
  cases p with
  | pure a => exact h.1
  | throw e => exact h.1
  | perform op next =>
    obtain ⟨A, hA, hI, -⟩ := h
    exact hI _ _ hA

theorem Safe.env (h : Safe I Q E p tr s) (he : W.env s s') :
    Safe I Q E p (tr ++ [.env s s']) s' := by
  cases p with
  | pure a => exact ⟨I.stable h.1 he, (Q a).stable h.2 he⟩
  | throw e => exact ⟨I.stable h.1 he, (E e).stable h.2 he⟩
  | perform op next =>
    obtain ⟨A, hA, hI, hnext⟩ := h
    exact ⟨A, A.stable hA he, hI, hnext⟩

/-- **Soundness.** A safe program stays safe along every run. -/
theorem Safe.run (h : Safe I Q E p tr s) (hr : Run W p s tr' q s') :
    Safe I Q E q (tr ++ tr') s' := by
  induction hr with
  | nil => rw [List.append_nil]; exact h
  | env _ he ih => rw [← List.append_assoc]; exact ih.env he
  | call _ hc ih =>
    rw [← List.append_assoc]
    obtain ⟨A, hA, -, hnext⟩ := ih
    exact hnext _ _ _ _ hA hc

/-- Every run from states of `A` is safe. -/
def Triple (I A : Assertion W) (p : Prog Reply ε α) (Q : α → Assertion W) (E : ε → Assertion W) :
    Prop :=
  ∀ tr s, A tr s → Safe I Q E p tr s

theorem Safe.bind {f : α → Prog Reply ε β} (h : Safe I Q E p tr s)
    (hf : ∀ a, Triple I (Q a) (f a) Q' E) : Safe I Q' E (p.bind f) tr s := by
  induction p generalizing tr s with
  | pure a => exact hf a _ _ h.2
  | throw e => exact h
  | perform op next ih =>
    obtain ⟨A, hA, hI, hnext⟩ := h
    exact ⟨A, hA, hI, fun tr s r s' hA hr => ih r (hnext tr s r s' hA hr)⟩

theorem Safe.attempt {Q' : Except ε α → Assertion W} {E' : ε → Assertion W}
    (h : Safe I (fun a => Q' (.ok a)) (fun e => Q' (.error e)) p tr s) :
    Safe I Q' E' p.attempt tr s := by
  induction p generalizing tr s with
  | pure a => exact h
  | throw e => exact h
  | perform op next ih =>
    obtain ⟨A, hA, hI, hnext⟩ := h
    exact ⟨A, hA, hI, fun tr s r s' hA hr => ih r (hnext tr s r s' hA hr)⟩

theorem Triple.pure {a : α} (hI : A ≤ I) (hQ : A ≤ Q a) : Triple I A (.pure a) Q E :=
  fun tr s h => ⟨hI tr s h, hQ tr s h⟩

theorem Triple.throw {e : ε} (hI : A ≤ I) (hE : A ≤ E e) : Triple I A (.throw e) Q E :=
  fun tr s h => ⟨hI tr s h, hE tr s h⟩

theorem Triple.bind {f : α → Prog Reply ε β} (h : Triple I A p Q E)
    (hf : ∀ a, Triple I (Q a) (f a) Q' E) : Triple I A (p.bind f) Q' E :=
  fun tr s hA => (h tr s hA).bind hf

theorem Triple.op {i : ι} {Q : Reply i → Assertion W} (hI : A ≤ I)
    (h : ∀ tr s r s', A tr s → W.answers i s r s' →
      I (tr ++ [.call i r s s']) s' ∧ Q r (tr ++ [.call i r s s']) s') :
    Triple I A (Prog.op i) Q E :=
  fun _ _ hA => ⟨A, hA, hI, fun tr s r s' hA hr => h tr s r s' hA hr⟩

theorem Safe.mono_inv {J : Assertion W} (h : Safe I Q E p tr s) (hJ : I ≤ J) :
    Safe J Q E p tr s := by
  induction p generalizing tr s with
  | pure a => exact ⟨hJ _ _ h.1, h.2⟩
  | throw e => exact ⟨hJ _ _ h.1, h.2⟩
  | perform op next ih =>
    obtain ⟨A, hA, hI, hnext⟩ := h
    exact ⟨A, hA, fun tr s ha => hJ tr s (hI tr s ha),
      fun tr s r s' ha hr => ih r (hnext tr s r s' ha hr)⟩

/-- The ends of a program may be described more weakly. -/
theorem Safe.mono {R : α → Assertion W} {F : ε → Assertion W} (h : Safe I Q E p tr s)
    (hQ : ∀ a, Q a ≤ R a) (hE : ∀ e, E e ≤ F e) : Safe I R F p tr s := by
  induction p generalizing tr s with
  | pure a => exact ⟨h.1, hQ a _ _ h.2⟩
  | throw e => exact ⟨h.1, hE e _ _ h.2⟩
  | perform op next ih =>
    obtain ⟨A, hA, hI, hnext⟩ := h
    exact ⟨A, hA, hI, fun tr s r s' ha hr => ih r (hnext tr s r s' ha hr)⟩

theorem Triple.weaken (h : Triple I B p Q E) (hA : A ≤ B) : Triple I A p Q E :=
  fun tr s hs => h tr s (hA tr s hs)

/-- What a safe program keeps at every point of its runs. -/
theorem Triple.always (h : Triple I A p Q E) (hA : A [] s) (hr : Run W p s tr q s') : I tr s' :=
  ((h _ _ hA).run hr).inv

/-- What the others preserve and every request restores holds between the requests. -/
theorem Session.between {serve : κ → Prog Reply ε α} {P : σ → Prop} {s₀ : σ}
    (hP : ∀ s s', P s → W.env s s' → P s') {past : List (κ × List (TraceEvent Reply σ))}
    (hserve : ∀ k, Triple I (.ofState P hP) (serve k) (fun _ => .ofState P hP)
      (fun _ => .ofState P hP))
    (h : Session W serve s₀ past s) (hs : P s₀) : P s := by
  induction h with
  | nil => exact hs
  | env _ he ih => exact hP _ _ ih he
  | request _ hr hp ih =>
    have hsafe := (hserve _ [] _ ih).run hr
    cases hp with
    | pure a => exact hsafe.2
    | throw e => exact hsafe.2

end Safety
