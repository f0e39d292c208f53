import RolloutCore.Lib.Exchanges

/-!
# Runs seen in other worlds

A run in one world is a run of the same program in a related one. Where `J` is known to hold at
every point, in the world whose steps lead from states of `J` to states of `J` (`Run.restrict`,
`Run.within`); and where only part of the state is looked at, in a world of that part
(`Run.project`), call for call.
-/

/-! ## Proving on top of what is proved -/

section Restriction

variable {ι κ σ ε α : Type} {Reply : ι → Type} {W : World Reply σ} {J : σ → Prop}
  {p q : Prog Reply ε α} {s s' : σ} {tr : List (TraceEvent Reply σ)}

/-- The event is a step of the world. -/
def World.Admits (W : World Reply σ) : TraceEvent Reply σ → Prop
  | .env s s' => W.env s s'
  | .call op r s s' => W.answers op s r s'

theorem Run.admits (h : Run W p s tr q s') : ∀ e ∈ tr, W.Admits e := by
  induction h with
  | nil => simp
  | env _ he ih | call _ he ih =>
    intro e hmem
    rcases List.mem_append.mp hmem with hmem | hmem
    · exact ih e hmem
    · rw [List.mem_singleton.mp hmem]
      exact he

theorem Session.admits {serve : κ → Prog Reply ε α} {past : List (κ × List (TraceEvent Reply σ))}
    (h : Session W serve s past s') : ∀ e ∈ past.flatMap (·.2), W.Admits e := by
  induction h with
  | nil => simp
  | env _ _ ih => exact ih
  | request _ hr _ ih =>
    intro e he
    rw [List.flatMap_append, List.mem_append] at he
    rcases he with he | he
    · exact ih e he
    · exact hr.admits e (by simpa using he)

/-- The world without the steps from or to states outside `J`. -/
def World.restrict (W : World Reply σ) (J : σ → Prop) : World Reply σ where
  answers op s r s' := J s ∧ W.answers op s r s' ∧ J s'
  env s s' := J s ∧ W.env s s' ∧ J s'

/-- A run that stays in `J`, as one of the restricted world. -/
theorem Run.restrict {I : Assertion W} {Q : α → Assertion W} {E : ε → Assertion W}
    (h : Run W p s tr q s') (hp : Safe I Q E p [] s) (hI : ∀ tr s, I tr s → J s) :
    Run (W.restrict J) p s tr q s' := by
  induction h with
  | nil => exact .nil
  | env h he ih => exact ih.env ⟨hI _ _ (hp.run h).inv, he, hI _ _ (hp.run (h.env he)).inv⟩
  | call h hc ih => exact ih.call ⟨hI _ _ (hp.run h).inv, hc, hI _ _ (hp.run (h.call hc)).inv⟩

section Preserved

variable (hcall : ∀ op s r s', J s → W.answers op s r s' → J s')
  (henv : ∀ s s', J s → W.env s s' → J s')

include hcall henv

/-- What every step preserves, every run stays in. -/
theorem Run.within (h : Run W p s tr q s') (hs : J s) : Run (W.restrict J) p s tr q s' := by
  induction h with
  | nil => exact .nil
  | env h he ih =>
    have hJ := h.invariant hcall henv hs
    exact ih.env ⟨hJ, he, henv _ _ hJ he⟩
  | call h hc ih =>
    have hJ := h.invariant hcall henv hs
    exact ih.call ⟨hJ, hc, hcall _ _ _ _ hJ hc⟩

theorem Session.within {serve : κ → Prog Reply ε α} {past : List (κ × List (TraceEvent Reply σ))}
    (h : Session W serve s past s') (hs : J s) : Session (W.restrict J) serve s past s' ∧ J s' := by
  induction h with
  | nil => exact ⟨.nil, hs⟩
  | env _ he ih => exact ⟨ih.1.env ⟨ih.2, he, henv _ _ ih.2 he⟩, henv _ _ ih.2 he⟩
  | request _ hr hp ih =>
    exact ⟨ih.1.request (hr.within hcall henv ih.2) hp, hr.invariant hcall henv ih.2⟩

end Preserved

end Restriction

/-! ## Looking at part of a state -/

section Projection

variable {ι κ σ τ ε α : Type} {Reply : ι → Type}

/-- Seen through `view`, the steps of `W` are steps of `V`. -/
structure Projects (V : World Reply σ) (W : World Reply τ) (view : τ → σ) : Prop where
  answers : ∀ {op s r s'}, W.answers op s r s' → V.answers op (view s) r (view s')
  env : ∀ {s s'}, W.env s s' → V.env (view s) (view s') ∨ view s' = view s

/-- `Seen view tr₀ tr`: the trace `tr₀` is `tr` seen through `view`. -/
inductive Seen (view : τ → σ) : List (TraceEvent Reply σ) → List (TraceEvent Reply τ) → Prop
  | nil : Seen view [] []
  | env {tr₀ tr} {s s' : τ} (h : Seen view tr₀ tr) :
      Seen view (tr₀ ++ [.env (view s) (view s')]) (tr ++ [.env s s'])
  | silent {tr₀ tr} {s s' : τ} (h : Seen view tr₀ tr) : Seen view tr₀ (tr ++ [.env s s'])
  | call {tr₀ tr op} {r : Reply op} {s s' : τ} (h : Seen view tr₀ tr) :
      Seen view (tr₀ ++ [.call op r (view s) (view s')]) (tr ++ [.call op r s s'])

variable {V : World Reply σ} {W : World Reply τ} {view : τ → σ} {s s' : τ}
  {tr₀ : List (TraceEvent Reply σ)} {tr : List (TraceEvent Reply τ)}

/-- No call goes unseen. -/
theorem Seen.mem_call (h : Seen view tr₀ tr) {op : ι} {r : Reply op} {s₁ s₂ : τ}
    (hmem : .call op r s₁ s₂ ∈ tr) : .call op r (view s₁) (view s₂) ∈ tr₀ := by
  induction h with
  | nil => cases hmem
  | env _ ih =>
    rcases List.mem_append.mp hmem with hmem | hmem
    · exact List.mem_append_left _ (ih hmem)
    · cases List.mem_singleton.mp hmem
  | silent _ ih =>
    rcases List.mem_append.mp hmem with hmem | hmem
    · exact ih hmem
    · cases List.mem_singleton.mp hmem
  | call _ ih =>
    rcases List.mem_append.mp hmem with hmem | hmem
    · exact List.mem_append_left _ (ih hmem)
    · cases List.mem_singleton.mp hmem
      exact List.mem_append_right _ (List.mem_singleton_self _)

theorem Seen.append {tr₁ : List (TraceEvent Reply σ)} {tr' : List (TraceEvent Reply τ)}
    (h : Seen view tr₀ tr) (h' : Seen view tr₁ tr') : Seen view (tr₀ ++ tr₁) (tr ++ tr') := by
  induction h' with
  | nil => simpa using h
  | env _ ih => rw [← List.append_assoc, ← List.append_assoc]; exact ih.env
  | silent _ ih => rw [← List.append_assoc]; exact ih.silent
  | call _ ih => rw [← List.append_assoc, ← List.append_assoc]; exact ih.call

theorem Seen.exchanges (h : Seen view tr₀ tr) : exchanges tr₀ = exchanges tr := by
  induction h with
  | nil => rfl
  | env _ ih | call _ ih =>
    rw [exchanges_append, exchanges_append, ih]
    rfl
  | silent _ ih =>
    rw [exchanges_append, ih]
    exact (List.append_nil _).symm

/-- **A run, seen through `view`.** -/
theorem Run.project {p q : Prog Reply ε α} (h : Projects V W view) (hr : Run W p s tr q s') :
    ∃ tr₀, Run V p (view s) tr₀ q (view s') ∧ Seen view tr₀ tr := by
  induction hr with
  | nil => exact ⟨[], .nil, .nil⟩
  | env _ he ih =>
    obtain ⟨tr₀, hrun, hseen⟩ := ih
    rcases h.env he with he | hsame
    · exact ⟨_, hrun.env he, hseen.env⟩
    · exact ⟨tr₀, hsame ▸ hrun, hseen.silent⟩
  | call _ ha ih =>
    obtain ⟨tr₀, hrun, hseen⟩ := ih
    exact ⟨_, hrun.call (h.answers ha), hseen.call⟩

/-- **A session, seen through `view`**: the same requests. -/
theorem Session.project {serve : κ → Prog Reply ε α} {past : List (κ × List (TraceEvent Reply τ))}
    (h : Projects V W view) (hs : Session W serve s past s') :
    ∃ past₀, Session V serve (view s) past₀ (view s') ∧ past₀.map (·.1) = past.map (·.1) ∧
      Seen view (past₀.flatMap (·.2)) (past.flatMap (·.2)) := by
  induction hs with
  | nil => exact ⟨[], .nil, rfl, .nil⟩
  | env _ he ih =>
    obtain ⟨past₀, hsess, hpast⟩ := ih
    rcases h.env he with he | hsame
    · exact ⟨past₀, hsess.env he, hpast⟩
    · exact ⟨past₀, hsame ▸ hsess, hpast⟩
  | request _ hr hp ih =>
    obtain ⟨past₀, hsess, hkeys, hpast⟩ := ih
    obtain ⟨tr₀, hrun, hseen⟩ := hr.project h
    refine ⟨_, hsess.request hrun hp, ?_, ?_⟩
    · rw [List.map_append, List.map_append, hkeys]
      rfl
    · rw [List.flatMap_append, List.flatMap_append]
      exact hpast.append (by simpa using hseen)

end Projection
