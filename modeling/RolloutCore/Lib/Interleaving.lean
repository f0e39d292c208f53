import RolloutCore.Lib.Program
import Mathlib.Logic.Function.Basic

/-!
# Programs side by side

A family of programs on one shared state, one operation of one of them at a time. To each of them
the others are the environment (`Interleaving.run`), as far as the operations go that they perform
at all, so what is proved of a program under interference holds of it here. Programs that each rely
on what the others guarantee are proved one by one.
-/

namespace Prog

variable {ι κ : Type} {Reply : ι → Type} {Reply' : κ → Type} {ε α β : Type}

/-- Every operation the program may come to satisfies `C`. -/
def Performs (C : ι → Prop) : Prog Reply ε α → Prop
  | .pure _ => True
  | .throw _ => True
  | .perform op next => C op ∧ ∀ r, (next r).Performs C

variable {C : ι → Prop} {p : Prog Reply ε α}

theorem Performs.mono {D : ι → Prop} (h : p.Performs C) (hD : ∀ i, C i → D i) : p.Performs D := by
  induction p with
  | pure a => trivial
  | throw e => trivial
  | perform op next ih => exact ⟨hD op h.1, fun r => ih r (h.2 r)⟩

theorem performs_op {i : ι} (h : C i) : (op i : Prog Reply ε (Reply i)).Performs C :=
  ⟨h, fun _ => trivial⟩

theorem performs_ofExcept (x : Except ε α) : (ofExcept x : Prog Reply ε α).Performs C := by
  cases x <;> trivial

theorem Performs.bind {f : α → Prog Reply ε β} (h : p.Performs C) (hf : ∀ a, (f a).Performs C) :
    (p.bind f).Performs C := by
  induction p with
  | pure a => exact hf a
  | throw e => trivial
  | perform op next ih => exact ⟨h.1, fun r => ih r (h.2 r)⟩

theorem Performs.attempt (h : p.Performs C) : p.attempt.Performs C := by
  induction p with
  | pure a => trivial
  | throw e => trivial
  | perform op next ih => exact ⟨h.1, fun r => ih r (h.2 r)⟩

theorem Performs.interp {D : κ → Prop} {handle : (op : ι) → Prog Reply' ε (Reply op)}
    (h : p.Performs C) (hhandle : ∀ op, C op → (handle op).Performs D) :
    (p.interp handle).Performs D := by
  induction p with
  | pure a => trivial
  | throw e => trivial
  | perform op next ih => exact (hhandle op h.1).bind fun r => ih r (h.2 r)

/-- A program keeps what each of its operations keeps. -/
theorem Performs.triple {σ : Type} {W : World Reply σ} {I A : Assertion W} (h : p.Performs C)
    (hI : A ≤ I) (hA : ∀ op, C op → ∀ tr s r s', A tr s → W.answers op s r s' →
      A (tr ++ [.call op r s s']) s') : Triple I A p (fun _ => A) (fun _ => A) := by
  induction p with
  | pure a => exact Triple.pure hI A.le_refl
  | throw e => exact Triple.throw hI A.le_refl
  | perform op next ih =>
    refine fun tr s hs => ⟨A, hs, hI, fun tr s r s' hs hr => ?_⟩
    exact ih r (h.2 r) _ _ (hA op h.1 tr s r s' hs hr)

/-- A program keeps what carrying out each of its operations keeps. -/
theorem Performs.interp_triple {σ : Type} {W : World Reply' σ} {I : Assertion W}
    {handle : (op : ι) → Prog Reply' ε (Reply op)} (h : p.Performs C)
    (hhandle : ∀ op, C op → Triple I I (handle op) (fun _ => I) (fun _ => I)) :
    Triple I I (p.interp handle) (fun _ => I) (fun _ => I) := by
  induction p with
  | pure a => exact Triple.pure I.le_refl I.le_refl
  | throw e => exact Triple.throw I.le_refl I.le_refl
  | perform op next ih => exact Triple.bind (hhandle op h.1) fun r => ih r (h.2 r)

end Prog

section Interleavings

variable {κ ι σ ε α : Type} {Reply : ι → Type} [DecidableEq κ]
  {answers : κ → (op : ι) → σ → Reply op → σ → Prop} {p q : κ → Prog Reply ε α} {s s' : σ}

/-- `Interleaving answers p s q s'`: from `s` the programs `p` get to `s'` with `q` left to do. -/
inductive Interleaving (answers : κ → (op : ι) → σ → Reply op → σ → Prop) (p : κ → Prog Reply ε α)
    (s : σ) : (κ → Prog Reply ε α) → σ → Prop
  | nil : Interleaving answers p s p s
  | step {q : κ → Prog Reply ε α} {s' s'' : σ} {i : κ} {op : ι} {next : Reply op → Prog Reply ε α}
      {r : Reply op} (h : Interleaving answers p s q s') (hq : q i = .perform op next)
      (ha : answers i op s' r s'') :
      Interleaving answers p s (Function.update q i (next r)) s''

/-- Program `i` among others that perform the operations of `C`. -/
def World.among (answers : κ → (op : ι) → σ → Reply op → σ → Prop) (C : κ → ι → Prop) (i : κ) :
    World Reply σ where
  answers := answers i
  env s s' := ∃ j op r, j ≠ i ∧ C j op ∧ answers j op s r s'

theorem Interleaving.performs {C : κ → ι → Prop} (h : Interleaving answers p s q s')
    (hp : ∀ j, (p j).Performs (C j)) (j : κ) : (q j).Performs (C j) := by
  induction h with
  | nil => exact hp j
  | @step q _ _ i _ _ _ _ hq _ ih =>
    by_cases hj : j = i
    · subst hj
      rw [Function.update_self]
      rw [hq] at ih
      exact ih.2 _
    · rw [Function.update_of_ne hj]
      exact ih

/-- **What one program does in an interleaving is a run of it among the others.** -/
theorem Interleaving.run {C : κ → ι → Prop} (h : Interleaving answers p s q s')
    (hp : ∀ j, (p j).Performs (C j)) (i : κ) :
    ∃ tr, Run (World.among answers C i) (p i) s tr (q i) s' := by
  induction h with
  | nil => exact ⟨[], .nil⟩
  | @step q _ _ j op next r h hq ha ih =>
    obtain ⟨tr, ih⟩ := ih
    by_cases hj : i = j
    · subst hj
      rw [Function.update_self]
      rw [hq] at ih
      exact ⟨_, ih.call ha⟩
    · rw [Function.update_of_ne hj]
      have hC := h.performs hp j
      rw [hq] at hC
      exact ⟨_, ih.env ⟨j, op, r, Ne.symm hj, hC.1, ha⟩⟩

/-- The programs by a schedule, computed: who is next performs one operation, if any is left. -/
def interleave (answer : κ → (op : ι) → σ → Reply op × σ) :
    List κ → (κ → Prog Reply ε α) → σ → (κ → Prog Reply ε α) × σ
  | [], p, s => (p, s)
  | i :: schedule, p, s =>
    match p i with
    | .perform op next =>
      let (r, s') := answer i op s
      interleave answer schedule (Function.update p i (next r)) s'
    | _ => interleave answer schedule p s

/-- A computed interleaving is one. -/
theorem Interleaving.of_schedule {answer : κ → (op : ι) → σ → Reply op × σ}
    (hanswer : ∀ i op s, answers i op s (answer i op s).1 (answer i op s).2) (schedule : List κ)
    (h : Interleaving answers p s q s') :
    Interleaving answers p s (interleave answer schedule q s').1
      (interleave answer schedule q s').2 := by
  induction schedule generalizing q s' with
  | nil => exact h
  | cons i schedule ih =>
    unfold interleave
    cases hq : q i with
    | pure a => exact ih h
    | throw e => exact ih h
    | perform op next => exact ih (h.step hq (hanswer i op s'))

end Interleavings

/-! ## Rely and guarantee -/

section RelyGuarantee

variable {κ ι σ ε α : Type} {Reply : ι → Type}

/-- Program `i` among others whose steps are those of `rely i`. -/
def World.relying (answers : κ → (op : ι) → σ → Reply op → σ → Prop) (rely : κ → σ → σ → Prop)
    (i : κ) : World Reply σ where
  answers := answers i
  env := rely i

/-- The calls of a trace change the state as `G` allows. -/
def Guarantees (G : σ → σ → Prop) (tr : List (TraceEvent Reply σ)) : Prop :=
  ∀ op (r : Reply op) s s', TraceEvent.call op r s s' ∈ tr → G s s'

variable {G : σ → σ → Prop} {tr : List (TraceEvent Reply σ)} {s s' : σ}

theorem guarantees_nil : Guarantees G ([] : List (TraceEvent Reply σ)) := by
  intro op r s s' h
  cases h

theorem Guarantees.env (h : Guarantees G tr) : Guarantees G (tr ++ [.env s s']) := by
  intro op r s₁ s₂ hmem
  rcases List.mem_append.mp hmem with hmem | hmem
  · exact h op r s₁ s₂ hmem
  · cases List.mem_singleton.mp hmem

theorem guarantees_call {op : ι} {r : Reply op} :
    Guarantees G (tr ++ [.call op r s s']) ↔ Guarantees G tr ∧ G s s' := by
  constructor
  · intro h
    refine ⟨fun op r s s' hmem => h op r s s' (List.mem_append_left _ hmem), ?_⟩
    exact h op r s s' (List.mem_append_right _ (List.mem_singleton_self _))
  · rintro ⟨h, hG⟩ op' r' s₁ s₂ hmem
    rcases List.mem_append.mp hmem with hmem | hmem
    · exact h op' r' s₁ s₂ hmem
    · cases List.mem_singleton.mp hmem
      exact hG

variable [DecidableEq κ] {answers : κ → (op : ι) → σ → Reply op → σ → Prop}
  {rely guar : κ → σ → σ → Prop} {p q : κ → Prog Reply ε α}
  {I : (i : κ) → Assertion (World.relying answers rely i)}
  {Q : (i : κ) → α → Assertion (World.relying answers rely i)}
  {E : (i : κ) → ε → Assertion (World.relying answers rely i)}

/-- **Composition.** Programs that are safe when the others keep to what they rely on, and that
guarantee it to each other, are safe side by side. -/
theorem Interleaving.relying (hrely : ∀ i j, i ≠ j → ∀ s s', guar i s s' → rely j s s')
    (hguar : ∀ i tr s, I i tr s → Guarantees (guar i) tr)
    (hp : ∀ i, Safe (I i) (Q i) (E i) (p i) [] s) (h : Interleaving answers p s q s') (i : κ) :
    ∃ tr, Run (World.relying answers rely i) (p i) s tr (q i) s' := by
  induction h generalizing i with
  | nil => exact ⟨[], .nil⟩
  | @step q _ _ j op next r h hq ha ih =>
    -- the step of program `j` extends its own run, so it is one that `j` guarantees
    obtain ⟨tr, hj⟩ := ih j
    rw [hq] at hj
    have hrun := hj.call (W := World.relying answers rely j) ha
    have hsafe := ((hp j).run hrun).inv
    have hstep := (guarantees_call.mp (hguar j _ _ hsafe)).2
    by_cases hij : i = j
    · subst hij
      rw [Function.update_self]
      exact ⟨_, hrun⟩
    · rw [Function.update_of_ne hij]
      obtain ⟨tr', hi⟩ := ih i
      exact ⟨_, hi.env (hrely j i (Ne.symm hij) _ _ hstep)⟩

/-- What every program keeps, all of them keep together. -/
theorem Interleaving.keeps {K : σ → Prop}
    (hrely : ∀ i j, i ≠ j → ∀ s s', guar i s s' → rely j s s')
    (hguar : ∀ i tr s, I i tr s → Guarantees (guar i) tr) (hK : ∀ i tr s, I i tr s → K s)
    (hp : ∀ i, Safe (I i) (Q i) (E i) (p i) [] s) (h : Interleaving answers p s q s') (hs : K s) :
    K s' := by
  cases h with
  | nil => exact hs
  | @step _ _ _ j _ _ _ h hq ha =>
    obtain ⟨tr, hj⟩ := (h.step hq ha).relying hrely hguar hp j
    exact hK j _ _ ((hp j).run hj).inv

end RelyGuarantee
