import RolloutCore.Lib.Program

/-!
# Total correctness

A program that nobody interferes with ends, whatever the operations answer: by returning as `Q`
allows or by raising as `E` allows (`Prog.Settles`), or by returning only (`Prog.Returns`).
-/

/-- The world with these answers, in which nobody else acts. -/
def World.undisturbed {ι σ : Type} {Reply : ι → Type}
    (answers : (op : ι) → σ → Reply op → σ → Prop) : World Reply σ where
  answers := answers
  env _ _ := False

namespace Prog

variable {ι σ ε α β : Type} {Reply : ι → Type} {answers : (op : ι) → σ → Reply op → σ → Prop}

/-- From `s` on the program returns in a state and with a value of `Q`, or raises an exception in a
state of `E`. -/
def Settles (answers : (op : ι) → σ → Reply op → σ → Prop) (Q : α → σ → Prop) (E : ε → σ → Prop) :
    Prog Reply ε α → σ → Prop
  | .pure a, s => Q a s
  | .throw e, s => E e s
  | .perform op next, s => ∀ r s', answers op s r s' → (next r).Settles answers Q E s'

variable {p q : Prog Reply ε α} {f : α → Prog Reply ε β} {Q M : α → σ → Prop} {R : β → σ → Prop}
  {E F : ε → σ → Prop} {s s' : σ}

theorem Settles.bind (h : p.Settles answers M E s)
    (hf : ∀ a s, M a s → (f a).Settles answers R E s) : (p.bind f).Settles answers R E s := by
  induction p generalizing s with
  | pure a => exact hf a s h
  | throw e => exact h
  | perform op next ih => exact fun r s' hr => ih r (h r s' hr)

theorem Settles.mono (h : p.Settles answers M F s) (hQ : ∀ a s, M a s → Q a s)
    (hE : ∀ e s, F e s → E e s) : p.Settles answers Q E s := by
  induction p generalizing s with
  | pure a => exact hQ a s h
  | throw e => exact hE e s h
  | perform op next ih => exact fun r s' hr => ih r (h r s' hr)

/-- With its exceptions as values a program returns. -/
theorem Settles.attempt {Q : Except ε α → σ → Prop}
    (h : p.Settles answers (fun a => Q (.ok a)) (fun e => Q (.error e)) s) :
    p.attempt.Settles answers Q F s := by
  induction p generalizing s with
  | pure a => exact h
  | throw e => exact h
  | perform op next ih => exact fun r s' hr => ih r (h r s' hr)

/-- **Soundness.** It still settles from every point of every run. -/
theorem Settles.run {tr : List (TraceEvent Reply σ)} (h : p.Settles answers Q E s)
    (hr : Run (World.undisturbed answers) p s tr q s') : q.Settles answers Q E s' := by
  induction hr with
  | nil => exact h
  | env _ he _ => exact he.elim
  | call _ hc ih => exact ih _ _ hc

theorem Settles.ended {tr : List (TraceEvent Reply σ)} (h : p.Settles answers Q E s)
    (hr : Run (World.undisturbed answers) p s tr q s') (hq : q.Ended) :
    (∃ a, q = .pure a ∧ Q a s') ∨ ∃ e, q = .throw e ∧ E e s' := by
  have hsettles := h.run hr
  cases hq with
  | pure a => exact .inl ⟨a, rfl, hsettles⟩
  | throw e => exact .inr ⟨e, rfl, hsettles⟩

/-! ## Without exceptions -/

/-- From `s` on the program returns, in a state and with a value of `Q`. -/
abbrev Returns (answers : (op : ι) → σ → Reply op → σ → Prop) (Q : α → σ → Prop)
    (p : Prog Reply ε α) (s : σ) : Prop :=
  p.Settles answers Q (fun _ _ => False) s

theorem Returns.bind (h : p.Returns answers M s) (hf : ∀ a s, M a s → (f a).Returns answers R s) :
    (p.bind f).Returns answers R s := Settles.bind h hf

theorem Returns.mono (h : p.Returns answers M s) (hQ : ∀ a s, M a s → Q a s) :
    p.Returns answers Q s := Settles.mono h hQ fun _ _ he => he

theorem Returns.attempt {Q : Except ε α → σ → Prop}
    (h : p.Returns answers (fun a => Q (.ok a)) s) : p.attempt.Returns answers Q s :=
  Settles.attempt (Settles.mono h (fun _ _ hq => hq) fun _ _ he => he.elim)

theorem Returns.ended {tr : List (TraceEvent Reply σ)} (h : p.Returns answers Q s)
    (hr : Run (World.undisturbed answers) p s tr q s') (hq : q.Ended) :
    ∃ a, q = .pure a ∧ Q a s' :=
  (Settles.ended h hr hq).resolve_right fun ⟨_, _, he⟩ => he

end Prog
