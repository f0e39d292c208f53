import Mathlib.Data.List.Induction

/-!
# Machines

A deterministic machine is a state and a function that performs one call on it. A run performs a
list of calls from the left; its trace pairs each call with the state the call found. Invariants and
history-dependent invariants of runs follow from what one call preserves.

A step of a machine with visible events says a list of them, often none. `Behaves` collects what a
run says; a simulation answers every step of one machine by a run of the other that says the same,
so that what one machine can say the other can say too (`Simulates.behaves`).
-/

namespace Runs

variable {ι σ : Type*} (step : ι → σ → σ)

/-- The state after a list of calls. -/
def run (calls : List ι) (s : σ) : σ := calls.foldl (fun s i => step i s) s

/-- The calls of a run, each with the state it found. -/
def trace : List ι → σ → List (σ × ι)
  | [], _ => []
  | i :: is, s => (s, i) :: trace is (step i s)

/-- A state that some run from `s₀` ends in. -/
def Reachable (s₀ s : σ) : Prop := ∃ calls, run step calls s₀ = s

variable {step}

@[simp] theorem run_nil (s : σ) : run step [] s = s := rfl

@[simp] theorem run_cons (i : ι) (is : List ι) (s : σ) :
    run step (i :: is) s = run step is (step i s) := rfl

theorem run_append (is js : List ι) (s : σ) :
    run step (is ++ js) s = run step js (run step is s) := List.foldl_append

@[simp] theorem trace_nil (s : σ) : trace step [] s = [] := rfl

@[simp] theorem trace_cons (i : ι) (is : List ι) (s : σ) :
    trace step (i :: is) s = (s, i) :: trace step is (step i s) := rfl

theorem trace_append (is js : List ι) (s : σ) :
    trace step (is ++ js) s = trace step is s ++ trace step js (run step is s) := by
  induction is generalizing s with
  | nil => rfl
  | cons i is ih => rw [List.cons_append, trace_cons, trace_cons, ih, List.cons_append, run_cons]

/-- What every call preserves holds after a run. -/
theorem run_invariant {I : σ → Prop} (hI : ∀ s i, I s → I (step i s)) (is : List ι) {s : σ}
    (h : I s) : I (run step is s) := by
  induction is generalizing s with
  | nil => exact h
  | cons i is ih => exact ih (hI s i h)

/-- What every call allowed by `P` preserves holds of every state a run of such calls passes
through. -/
theorem trace_invariant {I : σ → Prop} {P : σ × ι → Prop}
    (hI : ∀ s i, I s → P (s, i) → I (step i s)) (is : List ι) {s : σ} (h : I s)
    (hP : ∀ m ∈ trace step is s, P m) : ∀ m ∈ trace step is s, I m.1 := by
  induction is generalizing s with
  | nil => intro m hm; cases hm
  | cons i is ih =>
    rw [trace_cons, List.forall_mem_cons] at hP ⊢
    exact ⟨h, ih (hI s i h hP.1) hP.2⟩

/-- A relation between the trace so far and the state, kept by every call, holds of every run. -/
theorem history_invariant {H : List (σ × ι) → σ → Prop} {s₀ : σ} (h₀ : H [] s₀)
    (hH : ∀ tr s i, H tr s → H (tr ++ [(s, i)]) (step i s)) (is : List ι) :
    H (trace step is s₀) (run step is s₀) := by
  induction is using List.reverseRecOn with
  | nil => exact h₀
  | append_singleton is i ih =>
    rw [trace_append, run_append]
    exact hH _ _ _ ih

theorem Reachable.refl (s₀ : σ) : Reachable step s₀ s₀ := ⟨[], rfl⟩

theorem Reachable.next {s₀ s : σ} (h : Reachable step s₀ s) (i : ι) :
    Reachable step s₀ (step i s) := by
  obtain ⟨is, rfl⟩ := h
  exact ⟨is ++ [i], run_append is [i] s₀⟩

theorem Reachable.invariant {I : σ → Prop} (hI : ∀ s i, I s → I (step i s)) {s₀ s : σ}
    (h₀ : I s₀) (h : Reachable step s₀ s) : I s := by
  obtain ⟨is, rfl⟩ := h
  exact run_invariant hI is h₀

/-- A state no call changes is not changed by a run. -/
theorem run_of_fixed {s : σ} (h : ∀ i, step i s = s) (is : List ι) : run step is s = s :=
  run_invariant (I := (· = s)) (fun s' i hs => by rw [hs, h]) is rfl

end Runs

/-! ## Machines with visible events -/

/-- `Behaves step s h s'`: some run from `s` to `s'` says `h`. -/
inductive Behaves {σ ε : Type} (step : σ → List ε → σ → Prop) (s : σ) : List ε → σ → Prop
  | nil : Behaves step s [] s
  | snoc {h e : List ε} {s' s'' : σ} (hb : Behaves step s h s') (hs : step s' e s'') :
      Behaves step s (h ++ e) s''

section

variable {σ τ ε : Type} {step : σ → List ε → σ → Prop} {step' : τ → List ε → τ → Prop}
  {s s' s'' : σ} {h h' e : List ε}

namespace Behaves

theorem single (hs : step s e s') : Behaves step s e s' := Behaves.nil.snoc hs

theorem trans (hb : Behaves step s h s') (hb' : Behaves step s' h' s'') :
    Behaves step s (h ++ h') s'' := by
  induction hb' with
  | nil => rwa [List.append_nil]
  | snoc _ hs ih =>
    rw [← List.append_assoc]
    exact ih.snoc hs

/-- A step that says nothing. -/
theorem silent (hb : Behaves step s h s') (hs : step s' [] s'') : Behaves step s h s'' := by
  have hb' := hb.snoc hs
  rwa [List.append_nil] at hb'

/-- A run, under another description of its end. -/
theorem cast (hb : Behaves step s h s') (he : s'' = s') : Behaves step s h s'' := by
  rwa [he]

/-- What every step keeps of the events so far and the state holds of every run. -/
theorem invariant {J : List ε → σ → Prop} (hstep : ∀ h s e s', J h s → step s e s' → J (h ++ e) s')
    (hb : Behaves step s h s') (hs : J [] s) : J h s' := by
  induction hb with
  | nil => exact hs
  | snoc _ he ih => exact hstep _ _ _ _ ih he

end Behaves

/-- The second machine answers every step of the first by a run that says the same. -/
def Simulates (step : σ → List ε → σ → Prop) (step' : τ → List ε → τ → Prop) (R : σ → τ → Prop) :
    Prop :=
  ∀ s t e s', R s t → step s e s' → ∃ t', Behaves step' t e t' ∧ R s' t'

/-- **Simulation.** What the first machine says, the second one can say. -/
theorem Simulates.behaves {R : σ → τ → Prop} (hR : Simulates step step' R) {t : τ}
    (hb : Behaves step s h s') (hs : R s t) : ∃ t', Behaves step' t h t' ∧ R s' t' := by
  induction hb with
  | nil => exact ⟨t, .nil, hs⟩
  | snoc _ he ih =>
    obtain ⟨t', ht, hR'⟩ := ih
    obtain ⟨t'', ht', hR''⟩ := hR _ _ _ _ hR' he
    exact ⟨t'', ht.trans ht', hR''⟩

end
