import RolloutCore.Lib.Exchanges
import RolloutCore.Lib.Interleaving
import Mathlib.Data.List.Forall2

/-!
# Carrying programs out in a world below

A program over the operations of a world `W` is carried out by `handle` in a world `V`, of which
`W` sees a `view`. When every operation is carried out in one step, or in steps `W` does not see,
what `V` runs is what `W` runs (`Run.lower`, `Session.lower`), each operation covered by the steps
that carried it out.
-/

variable {ι κ σ τ ε α : Type} {Reply : ι → Type} {Reply' : κ → Type}

namespace Prog

/-- The program never raises, and the view does not see its steps. -/
def Unseen (V : World Reply' τ) (view : τ → σ) : Prog Reply' ε α → Prop
  | .pure _ => True
  | .throw _ => False
  | .perform i next => (∀ t r t', V.answers i t r t' → view t' = view t) ∧
    ∀ r, (next r).Unseen V view

theorem Performs.unseen_attempt {V : World Reply' τ} {view : τ → σ} {p : Prog Reply' ε α}
    (h : p.Performs fun i => ∀ t r t', V.answers i t r t' → view t' = view t) :
    p.attempt.Unseen V view := by
  induction p with
  | pure a => trivial
  | throw e => trivial
  | perform i next ih => exact ⟨h.1, fun r => ih r (h.2 r)⟩

theorem Performs.yields {C : ι → Prop} {p : Prog Reply ε α} {l : List (Exchange Reply)}
    {x : Except ε α} (h : p.Performs C) (hy : p.Yields l x) : ∀ y ∈ l, C y.1 := by
  induction hy with
  | pure a => simp
  | throw e => simp
  | perform hy ih =>
    intro y hmem
    rcases List.mem_cons.mp hmem with rfl | hmem
    · exact h.1
    · exact ih (h.2 _) y hmem

end Prog

/-- The program carries `op` out: in one step, or in steps nobody above sees. -/
inductive CarriesOut (W : World Reply σ) (V : World Reply' τ) (view : τ → σ) (op : ι) :
    Prog Reply' ε (Reply op) → Prop
  | step {i : κ} (f : Reply' i → Reply op)
      (hf : ∀ t r t', V.answers i t r t' → W.answers op (view t) (f r) (view t')) :
      CarriesOut W V view op (.perform i fun r => .pure (f r))
  | silent {p : Prog Reply' ε (Reply op)} (hp : p.Unseen V view)
      (hop : ∀ s r, W.answers op s r s) : CarriesOut W V view op p

/-- `handle` carries out the operations of `W` in `V`. -/
structure Lowers (W : World Reply σ) (V : World Reply' τ) (view : τ → σ)
    (handle : (op : ι) → Prog Reply' ε (Reply op)) : Prop where
  call : ∀ op, CarriesOut W V view op (handle op)
  env : ∀ t t', V.env t t' → view t' = view t ∨ W.env (view t) (view t')

/-- The second exchanges are those that carried out the first ones. -/
inductive Covers (handle : (op : ι) → Prog Reply' ε (Reply op)) :
    List (Exchange Reply) → List (Exchange Reply') → Prop
  | nil : Covers handle [] []
  | snoc {l₀ : List (Exchange Reply)} {l l' : List (Exchange Reply')} {op : ι} {r : Reply op}
      (h : Covers handle l₀ l) (hy : (handle op).Yields l' (.ok r)) :
      Covers handle (l₀ ++ [⟨op, r⟩]) (l ++ l')

/-- The program above and what is left of it below, in the midst of an operation of which `part`
has been carried out. -/
inductive Pending (W : World Reply σ) (V : World Reply' τ) (view : τ → σ)
    (handle : (op : ι) → Prog Reply' ε (Reply op)) :
    Prog Reply ε α → List (Exchange Reply') → Prog Reply' ε α → Prop
  | ended (x : Except ε α) : Pending W V view handle (.ofExcept x) [] (.ofExcept x)
  | step {op : ι} {next : Reply op → Prog Reply ε α} {i : κ} (f : Reply' i → Reply op)
      (hop : handle op = .perform i fun r => .pure (f r))
      (hf : ∀ t r t', V.answers i t r t' → W.answers op (view t) (f r) (view t')) :
      Pending W V view handle (.perform op next) []
        (.perform i fun r => (next (f r)).interp handle)
  | within {op : ι} {next : Reply op → Prog Reply ε α} {i : κ}
      {k : Reply' i → Prog Reply' ε (Reply op)} {part : List (Exchange Reply')}
      (hop : ∀ s r, W.answers op s r s) (hk : (Prog.perform i k).Unseen V view)
      (hy : ∀ l x, (Prog.perform i k).Yields l x → (handle op).Yields (part ++ l) x) :
      Pending W V view handle (.perform op next) part
        (.perform i fun r => (k r).bind fun r => (next r).interp handle)

section Lowering

variable {W : World Reply σ} {V : World Reply' τ} {view : τ → σ}
  {handle : (op : ι) → Prog Reply' ε (Reply op)} {p p₀ : Prog Reply ε α} {q : Prog Reply' ε α}
  {s₀ s : σ} {t t' : τ} {tr₀ : List (TraceEvent Reply σ)} {l part : List (Exchange Reply')}

/-- The program above is where the one below is, after the steps below that `part` ends. -/
def Keeps (W : World Reply σ) (V : World Reply' τ) (view : τ → σ)
    (handle : (op : ι) → Prog Reply' ε (Reply op)) (p : Prog Reply ε α) (s₀ s : σ)
    (l : List (Exchange Reply')) (q : Prog Reply' ε α) : Prop :=
  ∃ tr₀ p₀ l₁ part, Run W p s₀ tr₀ p₀ s ∧ Covers handle (exchanges tr₀) l₁ ∧ l = l₁ ++ part ∧
    Pending W V view handle p₀ part q

theorem Pending.of_ended {x : Except ε α} (h : Pending W V view handle p₀ part (.ofExcept x)) :
    p₀ = .ofExcept x ∧ part = [] := by
  generalize hq : Prog.ofExcept x = q at h
  cases h with
  | ended y =>
    refine ⟨?_, rfl⟩
    cases x <;> cases y <;> cases hq <;> rfl
  | step => cases x <;> cases hq
  | within => cases x <;> cases hq

theorem exchanges_concat (tr : List (TraceEvent Reply σ)) (op : ι) (r : Reply op) (s s' : σ) :
    exchanges (tr ++ [.call op r s s']) = exchanges tr ++ [⟨op, r⟩] :=
  exchanges_append _ _

/-- Before the next operation, whatever takes no step below has been done. -/
theorem Lowers.settle (h : Lowers W V view handle) (hr : Run W p s₀ tr₀ p₀ s)
    (hc : Covers handle (exchanges tr₀) l) : Keeps W V view handle p s₀ s l (p₀.interp handle) := by
  induction p₀ generalizing tr₀ l with
  | pure a => exact ⟨tr₀, _, l, [], hr, hc, (List.append_nil l).symm, .ended (.ok a)⟩
  | throw e => exact ⟨tr₀, _, l, [], hr, hc, (List.append_nil l).symm, .ended (.error e)⟩
  | perform op next ih =>
    show Keeps W V view handle p s₀ s l ((handle op).bind fun r => (next r).interp handle)
    have hcall := h.call op
    generalize hop : handle op = m at hcall
    cases hcall with
    | step f hf =>
      exact ⟨tr₀, _, l, [], hr, hc, (List.append_nil l).symm, .step f hop hf⟩
    | silent hm hans =>
      cases m with
      | pure r =>
        have hy : (handle op).Yields [] (.ok r) := hop ▸ .pure r
        have hc' := hc.snoc hy
        rw [List.append_nil] at hc'
        refine ih r (hr.call (hans s r)) ?_
        rw [exchanges_concat]
        exact hc'
      | throw e => exact hm.elim
      | perform i k =>
        exact ⟨tr₀, _, l, [], hr, hc, (List.append_nil l).symm,
          .within hans hm fun l x hy => hop ▸ hy⟩

/-- The same in the midst of an operation. -/
theorem Lowers.settle_within (h : Lowers W V view handle) {op : ι}
    {next : Reply op → Prog Reply ε α} (hr : Run W p s₀ tr₀ (.perform op next) s)
    (hc : Covers handle (exchanges tr₀) l) (hans : ∀ s r, W.answers op s r s)
    {m : Prog Reply' ε (Reply op)} (hm : m.Unseen V view)
    (hy : ∀ l x, m.Yields l x → (handle op).Yields (part ++ l) x) :
    Keeps W V view handle p s₀ s (l ++ part) (m.bind fun r => (next r).interp handle) := by
  cases m with
  | pure r =>
    have hc' := hc.snoc (hy [] (.ok r) (.pure r))
    rw [List.append_nil] at hc'
    refine h.settle (hr.call (hans s r)) ?_
    rw [exchanges_concat]
    exact hc'
  | throw e => exact hm.elim
  | perform i k => exact ⟨tr₀, _, l, part, hr, hc, rfl, .within hans hm hy⟩

/-- **What is carried out below is a run above.** -/
theorem Run.lower (h : Lowers W V view handle) {tr : List (TraceEvent Reply' τ)}
    (hr : Run V (p.interp handle) t tr q t') :
    Keeps W V view handle p (view t) (view t') (exchanges tr) q := by
  induction hr with
  | nil => exact h.settle .nil .nil
  | @env tr q t' t'' _ he ih =>
    obtain ⟨tr₀, p₀, l₁, part, hrun, hc, hl, hp⟩ := ih
    have hl' : exchanges (tr ++ [.env t' t'']) = l₁ ++ part := by
      have hnil : exchanges ([.env t' t''] : List (TraceEvent Reply' τ)) = [] := rfl
      rw [exchanges_append, hnil, List.append_nil, hl]
    rcases h.env t' t'' he with heq | henv
    · exact ⟨tr₀, p₀, l₁, part, heq ▸ hrun, hc, hl', hp⟩
    · refine ⟨_, p₀, l₁, part, hrun.env henv, ?_, hl', hp⟩
      rw [exchanges_append, show exchanges ([.env _ _] : List (TraceEvent Reply σ)) = [] from rfl,
        List.append_nil]
      exact hc
  | @call tr i k t' t'' r _ ha ih =>
    obtain ⟨tr₀, p₀, l₁, part, hrun, hc, hl, hp⟩ := ih
    rw [exchanges_concat, hl]
    generalize hq : Prog.perform i k = q at hp
    cases hp with
    | ended x => cases x <;> cases hq
    | @step op _ _ f hop hf =>
      cases hq
      have hy : (handle op).Yields [⟨i, r⟩] (.ok (f r)) := hop ▸ .perform (.pure (f r))
      have hc' := hc.snoc hy
      rw [List.append_nil]
      refine h.settle (hrun.call (hf t' r t'' ha)) ?_
      rw [exchanges_concat]
      exact hc'
    | within hans hk hy =>
      cases hq
      have hview := hk.1 t' r t'' ha
      rw [List.append_assoc]
      refine h.settle_within (hview ▸ hrun) hc hans (hk.2 r) fun l x hyl => ?_
      rw [List.append_assoc]
      exact hy _ x (.perform hyl)

theorem Run.lower_ended (h : Lowers W V view handle) {tr : List (TraceEvent Reply' τ)}
    {x : Except ε α} (hr : Run V (p.interp handle) t tr (.ofExcept x) t') :
    ∃ tr₀, Run W p (view t) tr₀ (.ofExcept x) (view t') ∧
      Covers handle (exchanges tr₀) (exchanges tr) := by
  obtain ⟨tr₀, p₀, l₁, part, hrun, hc, hl, hp⟩ := hr.lower h
  obtain ⟨rfl, rfl⟩ := hp.of_ended
  rw [hl, List.append_nil]
  exact ⟨tr₀, hrun, hc⟩

/-- **Sessions below are sessions above**, request by request. -/
theorem Session.lower {γ : Type} (h : Lowers W V view handle) {serve : γ → Prog Reply ε α}
    {past : List (γ × List (TraceEvent Reply' τ))}
    (hs : Session V (fun k => (serve k).interp handle) t past t') :
    ∃ past₀, Session W serve (view t) past₀ (view t') ∧
      List.Forall₂ (fun x y => x.1 = y.1 ∧ Covers handle (exchanges x.2) (exchanges y.2))
        past₀ past := by
  induction hs with
  | nil => exact ⟨[], .nil, .nil⟩
  | env _ he ih =>
    obtain ⟨past₀, hsess, hcov⟩ := ih
    rcases h.env _ _ he with heq | henv
    · exact ⟨past₀, heq ▸ hsess, hcov⟩
    · exact ⟨past₀, hsess.env henv, hcov⟩
  | @request past t' t'' k tr q _ hr hq ih =>
    obtain ⟨past₀, hsess, hcov⟩ := ih
    obtain ⟨x, rfl⟩ : ∃ x, q = .ofExcept x := by
      cases hq with
      | pure a => exact ⟨.ok a, rfl⟩
      | throw e => exact ⟨.error e, rfl⟩
    obtain ⟨tr₀, hrun, hc⟩ := hr.lower_ended h
    exact ⟨_, hsess.request hrun (Prog.ended_ofExcept x),
      List.rel_append hcov (.cons ⟨rfl, hc⟩ .nil)⟩

end Lowering
