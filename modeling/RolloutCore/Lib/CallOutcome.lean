import Mathlib.Data.Nat.Notation

/-!
# Outcomes of calls that raise

Rules for state-passing programs with exceptions, where a raise keeps the state it happened in.
`Ends acc fail r` says how a call may end: it returned in a way `acc` allows, or raised in a way
`fail` allows. A call is verified by following its statements with `Ends.bind`.
-/

universe u

namespace CallOutcome

variable {ε σ α β : Type u}

/-- The call returned as `acc` allows or raised as `fail` allows. -/
def Ends (acc : α → σ → Prop) (fail : ε → σ → Prop) : EStateM.Result ε σ α → Prop
  | .ok a s => acc a s
  | .error e s => fail e s

/-- The state a call leaves behind, however it ended. -/
def left : EStateM.Result ε σ α → σ
  | .ok _ s => s
  | .error _ s => s

@[simp] theorem left_ok (a : α) (s : σ) : left (.ok a s : EStateM.Result ε σ α) = s := rfl

@[simp] theorem left_error (e : ε) (s : σ) : left (.error e s : EStateM.Result ε σ α) = s := rfl

/-- What a call returned or raised. -/
def outcome : EStateM.Result ε σ α → Except ε α
  | .ok a _ => .ok a
  | .error e _ => .error e

variable {acc : α → σ → Prop} {fail : ε → σ → Prop} {s : σ}

theorem run_bind (x : EStateM ε σ α) (f : α → EStateM ε σ β) (s : σ) :
    (x >>= f).run s = match x.run s with
      | .ok a s' => (f a).run s'
      | .error e s' => .error e s' := by
  show EStateM.bind x f s = _
  unfold EStateM.bind EStateM.run
  cases x s <;> rfl

theorem run_get : (get : EStateM ε σ σ).run s = .ok s s := rfl

theorem bind_of_ok {x : EStateM ε σ α} {f : α → EStateM ε σ β} {s' : σ} {a : α}
    (h : x.run s = .ok a s') : (x >>= f).run s = (f a).run s' := by
  rw [run_bind, h]

theorem bind_of_error {x : EStateM ε σ α} {f : α → EStateM ε σ β} {s' : σ} {e : ε}
    (h : x.run s = .error e s') : (x >>= f).run s = .error e s' := by
  rw [run_bind, h]

theorem Ends.bind {x : EStateM ε σ α} {f : α → EStateM ε σ β} {M : α → σ → Prop}
    {acc : β → σ → Prop} (hx : Ends M fail (x.run s))
    (hf : ∀ a s', M a s' → Ends acc fail ((f a).run s')) :
    Ends acc fail ((x >>= f).run s) := by
  cases h : x.run s with
  | ok a s' =>
    rw [h] at hx
    rw [bind_of_ok h]
    exact hf a s' hx
  | error e s' =>
    rw [h] at hx
    rw [bind_of_error h]
    exact hx

theorem Ends.pure {a : α} (h : acc a s) : Ends acc fail ((pure a : EStateM ε σ α).run s) := h

theorem Ends.throw {e : ε} (h : fail e s) : Ends acc fail ((throw e : EStateM ε σ α).run s) := h

theorem Ends.get {acc : σ → σ → Prop} (h : acc s s) :
    Ends acc fail ((get : EStateM ε σ σ).run s) := h

theorem Ends.modify {acc : PUnit → σ → Prop} {g : σ → σ} (h : acc ⟨⟩ (g s)) :
    Ends acc fail ((modify g : EStateM ε σ PUnit).run s) := h

/-- What holds however the call ends holds of the state it leaves. -/
theorem Ends.left_of {P : σ → Prop} {r : EStateM.Result ε σ α}
    (h : Ends (fun _ => P) (fun _ => P) r) : P (left r) := by
  cases r with
  | ok a s => exact h
  | error e s => exact h

theorem Ends.mono {acc' : α → σ → Prop} {r : EStateM.Result ε σ α} (h : Ends acc fail r)
    (hacc : ∀ a s, acc a s → acc' a s) : Ends acc' fail r := by
  cases r with
  | ok a s' => exact hacc a s' h
  | error e s' => exact h

theorem Ends.weaken {fail' : ε → σ → Prop} {r : EStateM.Result ε σ α} (h : Ends acc fail r)
    (hfail : ∀ e s, fail e s → fail' e s) : Ends acc fail' r := by
  cases r with
  | ok a s' => exact h
  | error e s' => exact hfail e s' h

/-! ## What a call keeps -/

section

universe v

variable {γ : Type v} {f : σ → γ}

/-- However it ends, the call leaves `f` of the state as it was. -/
def Keeps (f : σ → γ) (x : EStateM ε σ α) : Prop := ∀ s, f (left (x.run s)) = f s

theorem Keeps.bind {x : EStateM ε σ α} {g : α → EStateM ε σ β} (hx : Keeps f x)
    (hg : ∀ a, Keeps f (g a)) : Keeps f (x >>= g) := by
  intro s
  have hfirst := hx s
  cases h : x.run s with
  | ok a s' =>
    rw [h, left_ok] at hfirst
    rw [bind_of_ok h, hg a s', hfirst]
  | error e s' =>
    rw [h, left_error] at hfirst
    rw [bind_of_error h, left_error, hfirst]

theorem keeps_pure (a : α) : Keeps f (pure a : EStateM ε σ α) := fun _ => rfl

theorem keeps_throw (e : ε) : Keeps f (throw e : EStateM ε σ α) := fun _ => rfl

theorem keeps_get : Keeps f (get : EStateM ε σ σ) := fun _ => rfl

theorem keeps_modify {g : σ → σ} (hg : ∀ s, f (g s) = f s) :
    Keeps f (modify g : EStateM ε σ PUnit) := hg

end

end CallOutcome
