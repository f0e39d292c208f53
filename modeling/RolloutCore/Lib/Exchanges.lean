import RolloutCore.Lib.Program

/-!
# Completed executions

What a program returns is determined by the replies it got. `Yields p l x`: the operations of `l`,
answered as `l` says, are all that `p` performs, and it ends with `x`. A completed run yields the
exchanges of its trace (`Run.yields`). A program that follows a script performs the operations of
that list in order, whatever the replies, and so do its exchanges.
-/

/-- An operation with its reply. -/
abbrev Exchange {ι : Type} (Reply : ι → Type) := (op : ι) × Reply op

namespace Prog

variable {ι ε α β : Type} {Reply : ι → Type}

/-- The exchanges of a completed execution, and how it ended. -/
inductive Yields : Prog Reply ε α → List (Exchange Reply) → Except ε α → Prop
  | pure (a : α) : Yields (.pure a) [] (.ok a)
  | throw (e : ε) : Yields (.throw e) [] (.error e)
  | perform {op : ι} {next : Reply op → Prog Reply ε α} {r : Reply op} {l : List (Exchange Reply)}
      {x : Except ε α} (h : Yields (next r) l x) : Yields (.perform op next) (⟨op, r⟩ :: l) x

variable {p : Prog Reply ε α} {f : α → Prog Reply ε β} {l l₁ l₂ : List (Exchange Reply)}

theorem yields_ofExcept {x y : Except ε α} :
    (ofExcept x : Prog Reply ε α).Yields l y ↔ l = [] ∧ x = y := by
  constructor
  · intro h
    cases x <;> cases h <;> exact ⟨rfl, rfl⟩
  · rintro ⟨rfl, rfl⟩
    cases x
    · exact .throw _
    · exact .pure _

theorem Yields.bind {a : α} {x : Except ε β} (h : p.Yields l₁ (.ok a)) (hf : (f a).Yields l₂ x) :
    (p.bind f).Yields (l₁ ++ l₂) x := by
  generalize hy : (Except.ok a : Except ε α) = y at h
  induction h with
  | pure b => cases hy; exact hf
  | throw e => cases hy
  | perform _ ih => exact .perform (ih hy)

/-- After the exchanges of the first part, a sequence does what the second part does. -/
theorem Yields.bind_iff {a : α} {x : Except ε β} (h : p.Yields l₁ (.ok a)) :
    (p.bind f).Yields (l₁ ++ l₂) x ↔ (f a).Yields l₂ x := by
  refine ⟨fun hb => ?_, h.bind⟩
  generalize hy : (Except.ok a : Except ε α) = y at h
  induction h with
  | pure b => cases hy; exact hb
  | throw e => cases hy
  | perform _ ih =>
    cases hb with
    | perform hb => exact ih hb hy

theorem yields_bind {b : β} : (p.bind f).Yields l (.ok b) ↔
    ∃ a l₁ l₂, p.Yields l₁ (.ok a) ∧ (f a).Yields l₂ (.ok b) ∧ l = l₁ ++ l₂ := by
  constructor
  · intro h
    induction p generalizing l with
    | pure a => exact ⟨a, [], l, .pure a, h, rfl⟩
    | throw e => cases h
    | perform op next ih =>
      cases h with
      | perform h =>
        obtain ⟨a, l₁, l₂, h₁, h₂, rfl⟩ := ih _ h
        exact ⟨a, _ :: l₁, l₂, .perform h₁, h₂, rfl⟩
  · rintro ⟨a, l₁, l₂, h₁, h₂, rfl⟩
    exact h₁.bind h₂

/-- A sequence ends where its first part raises, or with its second part. -/
theorem Yields.of_bind {x : Except ε β} (h : (p.bind f).Yields l x) :
    (∃ e, x = .error e ∧ p.Yields l (.error e)) ∨
      ∃ a l₁ l₂, p.Yields l₁ (.ok a) ∧ (f a).Yields l₂ x ∧ l = l₁ ++ l₂ := by
  induction p generalizing l with
  | pure a => exact .inr ⟨a, [], l, .pure a, h, rfl⟩
  | throw e =>
    cases h
    exact .inl ⟨e, rfl, .throw e⟩
  | perform op next ih =>
    cases h with
    | perform h =>
      rcases ih _ h with ⟨e, rfl, he⟩ | ⟨a, l₁, l₂, h₁, h₂, rfl⟩
      · exact .inl ⟨e, rfl, .perform he⟩
      · exact .inr ⟨a, _ :: l₁, l₂, .perform h₁, h₂, rfl⟩

theorem Yields.of_op {i : ι} {f : Reply i → Prog Reply ε β} {x : Except ε β}
    (h : ((op i).bind f).Yields l x) :
    ∃ reply l', l = ⟨i, reply⟩ :: l' ∧ (f reply).Yields l' x := by
  cases h with
  | perform h => exact ⟨_, _, rfl, h⟩

/-- The exchanges are those of the first part when the second performs nothing. -/
theorem Yields.of_bind_ended {x : Except ε β} (h : (p.bind f).Yields l x)
    (hf : ∀ a, (f a).Ended) : ∃ y, p.Yields l y := by
  rcases h.of_bind with ⟨e, -, he⟩ | ⟨a, l₁, l₂, h₁, h₂, rfl⟩
  · exact ⟨_, he⟩
  · have hend := hf a
    generalize f a = q at hend h₂
    cases hend <;> cases h₂ <;> exact ⟨_, by rwa [List.append_nil]⟩

theorem exists_yields (hreply : ∀ i, Nonempty (Reply i)) (p : Prog Reply ε α) :
    ∃ l x, p.Yields l x := by
  induction p with
  | pure a => exact ⟨[], _, .pure a⟩
  | throw e => exact ⟨[], _, .throw e⟩
  | perform op next ih =>
    obtain ⟨r⟩ := hreply op
    obtain ⟨l, x, h⟩ := ih r
    exact ⟨_, x, .perform h⟩

theorem Yields.eq_ofExcept {x : Except ε α} (h : p.Yields [] x) : p = ofExcept x := by
  cases h <;> rfl

theorem yields_attempt {x : Except ε α} : p.attempt.Yields l (.ok x) ↔ p.Yields l x := by
  induction p generalizing l with
  | pure a =>
    constructor <;> (intro h; cases h; constructor)
  | throw e =>
    constructor <;> (intro h; cases h; constructor)
  | perform op next ih =>
    constructor <;> (intro h; cases h; rename_i h)
    · exact .perform ((ih _).mp h)
    · exact .perform ((ih _).mpr h)

theorem Yields.of_attempt {x : Except ε (Except ε α)} (h : p.attempt.Yields l x) :
    ∃ y, x = .ok y ∧ p.Yields l y := by
  induction p generalizing l with
  | pure a =>
    cases h
    exact ⟨.ok a, rfl, .pure a⟩
  | throw e =>
    cases h
    exact ⟨.error e, rfl, .throw e⟩
  | perform op next ih =>
    cases h with
    | perform h =>
      obtain ⟨y, rfl, hy⟩ := ih _ h
      exact ⟨y, rfl, .perform hy⟩

end Prog

section Runs

variable {ι σ ε α : Type} {Reply : ι → Type} {W : World Reply σ}

/-- The exchanges of a trace. -/
def exchanges (tr : List (TraceEvent Reply σ)) : List (Exchange Reply) :=
  tr.filterMap fun
    | .env _ _ => none
    | .call op r _ _ => some ⟨op, r⟩

theorem exchanges_append (tr tr' : List (TraceEvent Reply σ)) :
    exchanges (tr ++ tr') = exchanges tr ++ exchanges tr' := List.filterMap_append

theorem mem_exchanges {tr : List (TraceEvent Reply σ)} {op : ι} {r : Reply op} :
    (⟨op, r⟩ : Exchange Reply) ∈ exchanges tr ↔ ∃ s s', TraceEvent.call op r s s' ∈ tr := by
  unfold exchanges
  rw [List.mem_filterMap]
  constructor
  · rintro ⟨_ | ⟨op', r', s, s'⟩, hmem, h⟩
    · cases h
    · cases h
      exact ⟨s, s', hmem⟩
  · rintro ⟨s, s', hmem⟩
    exact ⟨_, hmem, rfl⟩

theorem Run.answered {p q : Prog Reply ε α} {s s' s₁ s₂ : σ} {tr : List (TraceEvent Reply σ)}
    (h : Run W p s tr q s') {op : ι} {r : Reply op} (hmem : TraceEvent.call op r s₁ s₂ ∈ tr) :
    W.answers op s₁ r s₂ := by
  induction h with
  | nil => cases hmem
  | env _ _ ih =>
    obtain hmem | hmem := List.mem_append.mp hmem
    · exact ih hmem
    · cases List.mem_singleton.mp hmem
  | call _ hc ih =>
    obtain hmem | hmem := List.mem_append.mp hmem
    · exact ih hmem
    · cases List.mem_singleton.mp hmem
      exact hc

/-- What is left to do yields, after the exchanges of a run, what the program does. -/
theorem Run.yields {p q : Prog Reply ε α} {s s' : σ} {tr : List (TraceEvent Reply σ)}
    {l : List (Exchange Reply)} {x : Except ε α} (h : Run W p s tr q s') (hq : q.Yields l x) :
    p.Yields (exchanges tr ++ l) x := by
  induction h generalizing l with
  | nil => exact hq
  | @env _ _ s' s'' _ _ ih =>
    rw [exchanges_append, show exchanges ([.env s' s''] : List (TraceEvent Reply σ)) = [] from rfl,
      List.append_nil]
    exact ih hq
  | call _ _ ih =>
    rw [exchanges_append, List.append_assoc]
    exact ih (.perform hq)

/-- The exchanges of a run are the first ones of an execution. -/
theorem Run.begins (hreply : ∀ i, Nonempty (Reply i)) {p q : Prog Reply ε α} {s s' : σ}
    {tr : List (TraceEvent Reply σ)} (h : Run W p s tr q s') :
    ∃ l x, q.Yields l x ∧ p.Yields (exchanges tr ++ l) x := by
  obtain ⟨l, x, hq⟩ := q.exists_yields hreply
  exact ⟨l, x, hq, h.yields hq⟩

theorem Run.yields_pure {p : Prog Reply ε α} {s s' : σ} {tr : List (TraceEvent Reply σ)} {a : α}
    (h : Run W p s tr (.pure a) s') : p.Yields (exchanges tr) (.ok a) := by
  have hy := h.yields (.pure a)
  rwa [List.append_nil] at hy

end Runs

/-! ## Programs that follow a script -/

namespace Prog

variable {ι ε α β : Type} {Reply : ι → Type}

/-- Whatever the replies, the program performs the operations of the script in order and returns
after the last one, unless it raises before. -/
def Follows : Prog Reply ε α → List ι → Prop
  | .pure _, script => script = []
  | .throw _, _ => True
  | .perform op next, script => ∃ rest, script = op :: rest ∧ ∀ r, (next r).Follows rest

variable {p : Prog Reply ε α} {f : α → Prog Reply ε β} {script script' : List ι}
  {l : List (Exchange Reply)} {x : Except ε α}

theorem follows_op (i : ι) : (op i : Prog Reply ε (Reply i)).Follows [i] :=
  ⟨[], rfl, fun _ => rfl⟩

theorem follows_ofExcept (x : Except ε α) : (ofExcept x : Prog Reply ε α).Follows [] := by
  cases x with
  | ok a => rfl
  | error e => trivial

theorem Follows.bind (h : p.Follows script) (hf : ∀ a, (f a).Follows script') :
    (p.bind f).Follows (script ++ script') := by
  induction p generalizing script with
  | pure a =>
    obtain rfl : script = [] := h
    exact hf a
  | throw e => trivial
  | perform op next ih =>
    obtain ⟨rest, rfl, hnext⟩ := h
    exact ⟨rest ++ script', rfl, fun r => ih r (hnext r)⟩

/-- **Whatever the replies and however it ends**, the operations are the first ones of the
script. -/
theorem Follows.isPrefix (h : p.Follows script) (hy : p.Yields l x) :
    l.map (·.1) <+: script := by
  induction hy generalizing script with
  | pure a => exact ⟨script, rfl⟩
  | throw e => exact ⟨script, rfl⟩
  | perform hy ih =>
    obtain ⟨rest, rfl, hnext⟩ := h
    exact List.cons_prefix_cons.mpr ⟨rfl, ih (hnext _)⟩

end Prog
