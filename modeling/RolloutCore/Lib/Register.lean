import RolloutCore.Lib.Machines
import RolloutCore.Lib.Program
import Mathlib.Data.List.Basic
import Mathlib.Logic.Function.Basic

/-!
# A register of generations

A register publishes one generation after the other. Readers enter under the generation in force
and leave; a new generation is published only after the register was closed and every reader has
left. What its history says about readers and publications is `Register.orderly`.
-/

/-- What a register does. -/
inductive RegisterEvent (ι τ : Type)
  | publish (g : τ)
  | enter (k : ι) (g : τ)
  | leave (k : ι) (g : τ)
  | close
  | fail

/-- The generation in force, whether readers are let in, whether the register has failed, and the
generation each reader entered under. -/
@[ext] structure Register (ι τ : Type) where
  current : Option τ
  admitting : Bool
  failed : Bool
  readers : ι → Option τ

namespace Register

variable {ι τ : Type} [DecidableEq ι]

/-- A register that has published nothing. -/
def empty : Register ι τ where
  current := none
  admitting := false
  failed := false
  readers _ := none

/-- The steps of a register whose first generation is one of `first`, each later one `ahead` of the
one before it. -/
inductive Step (first : τ → Prop) (ahead : τ → τ → Prop) :
    Register ι τ → List (RegisterEvent ι τ) → Register ι τ → Prop
  | first {r : Register ι τ} {g : τ} (hf : r.failed = false) (hc : r.current = none)
      (hg : first g) :
      Step first ahead r [.publish g] { r with current := some g, admitting := true }
  | publish {r : Register ι τ} {g₀ g : τ} (hf : r.failed = false) (hc : r.current = some g₀)
      (ha : r.admitting = false) (hr : ∀ k, r.readers k = none) (hg : ahead g₀ g) :
      Step first ahead r [.publish g] { r with current := some g, admitting := true }
  | close {r : Register ι τ} (ha : r.admitting = true) :
      Step first ahead r [.close] { r with admitting := false }
  | enter {r : Register ι τ} {k : ι} {g : τ} (ha : r.admitting = true) (hc : r.current = some g)
      (hk : r.readers k = none) :
      Step first ahead r [.enter k g] { r with readers := Function.update r.readers k (some g) }
  | leave {r : Register ι τ} {k : ι} {g : τ} (hf : r.failed = false) (hk : r.readers k = some g) :
      Step first ahead r [.leave k g] { r with readers := Function.update r.readers k none }
  | fail {r : Register ι τ} (hf : r.failed = false) :
      Step first ahead r [.fail] { r with failed := true, admitting := false }

/-! ## Histories -/

/-- The generation an event publishes. -/
def publication? : RegisterEvent ι τ → Option τ
  | .publish g => some g
  | _ => none

/-- The generations published, in order. -/
def publications (h : List (RegisterEvent ι τ)) : List τ := h.filterMap publication?

/-- What an event does to the visit of `k`. -/
def visit (k : ι) (v : Option τ) : RegisterEvent ι τ → Option τ
  | .enter k' g => if k' = k then some g else v
  | .leave k' _ => if k' = k then none else v
  | _ => v

/-- The generation `k` has entered under and not left. -/
def visiting (k : ι) (h : List (RegisterEvent ι τ)) : Option τ := h.foldl (visit k) none

/-- What has to be so when an event happens: a publication finds no reader inside and is ahead of
all earlier ones; a reader enters under the last publication, and leaves under the one it entered
under, which is still the last; and nothing happens after a failure. -/
def Orderly (ahead : τ → τ → Prop) (past : List (RegisterEvent ι τ)) :
    RegisterEvent ι τ → Prop
  | .publish g =>
    .fail ∉ past ∧ (∀ k, visiting k past = none) ∧ ∀ g' ∈ publications past, ahead g' g
  | .enter k g => .fail ∉ past ∧ visiting k past = none ∧ (publications past).getLast? = some g
  | .leave k g => .fail ∉ past ∧ visiting k past = some g ∧ (publications past).getLast? = some g
  | .close | .fail => .fail ∉ past

/-- What the history says about the register. -/
structure Accounts (ahead : τ → τ → Prop) (h : List (RegisterEvent ι τ)) (r : Register ι τ) :
    Prop where
  orderly : Before (Orderly ahead) h
  current : r.current = (publications h).getLast?
  ascending : ∀ g ∈ r.current, ∀ g' ∈ publications h, g' = g ∨ ahead g' g
  readers : ∀ k, r.readers k = visiting k h
  inForce : ∀ k g, r.readers k = some g → r.current = some g
  failed : r.failed = true ↔ .fail ∈ h
  closed : r.failed = true → r.admitting = false

section

variable {first : τ → Prop} {ahead : τ → τ → Prop} {h : List (RegisterEvent ι τ)}
  {r r' : Register ι τ} {e : RegisterEvent ι τ}

omit [DecidableEq ι] in
theorem publications_append :
    publications (h ++ [e]) = publications h ++ (publication? e).toList := by
  unfold publications
  rw [List.filterMap_append]
  cases he : publication? e <;> simp [he]

theorem visiting_append (k : ι) : visiting k (h ++ [e]) = visit k (visiting k h) e := by
  unfold visiting
  rw [List.foldl_append]
  rfl

theorem accounts_empty : Accounts ahead ([] : List (RegisterEvent ι τ)) empty where
  orderly pre x post hl := by simp at hl
  current := rfl
  ascending g hg := by cases hg
  readers _ := rfl
  inForce k g hk := by cases hk
  failed := by simp [empty]
  closed hf := by cases hf

theorem Accounts.not_failed (ha : Accounts ahead h r) (hf : r.failed = false) : .fail ∉ h := by
  intro hmem
  rw [ha.failed.mpr hmem] at hf
  cases hf

theorem Accounts.not_failed_of_admitting (ha : Accounts ahead h r) (hadm : r.admitting = true) :
    r.failed = false := by
  by_contra hf
  rw [ha.closed (by simpa using hf)] at hadm
  cases hadm

/-- A publication with nobody inside. -/
theorem Accounts.publish {g : τ} (ha : Accounts ahead h r) (hf : r.failed = false)
    (hr : ∀ k, r.readers k = none) (hg : ∀ g' ∈ publications h, ahead g' g) :
    Accounts ahead (h ++ [.publish g]) { r with current := some g, admitting := true } where
  orderly := before_append.mpr
    ⟨ha.orderly, ha.not_failed hf, fun k => (ha.readers k).symm.trans (hr k), hg⟩
  current := by simp [publications_append, publication?]
  ascending g₁ hg₁ g' hg' := by
    obtain rfl : g = g₁ := Option.some.inj hg₁
    rw [publications_append, List.mem_append] at hg'
    rcases hg' with hg' | hg'
    · exact .inr (hg g' hg')
    · exact .inl (by simpa [publication?, eq_comm] using hg')
  readers k := by
    rw [visiting_append]
    exact ha.readers k
  inForce k g₁ hk := by
    have hk' : r.readers k = some g₁ := hk
    rw [hr k] at hk'
    cases hk'
  failed := by simpa using ha.failed
  closed hf' := by rw [show r.failed = true from hf'] at hf; cases hf

/-- An event that publishes nothing and concerns no reader. -/
theorem Accounts.mark {a f : Bool} (ha : Accounts ahead h r) (he : publication? e = none)
    (hv : ∀ k v, visit k v e = v) (ho : Orderly ahead h e) (hf : f = true ↔ .fail ∈ h ++ [e])
    (hc : f = true → a = false) :
    Accounts ahead (h ++ [e]) { r with admitting := a, failed := f } where
  orderly := before_append.mpr ⟨ha.orderly, ho⟩
  current := by simp [publications_append, he, ha.current]
  ascending := by
    rw [publications_append, he, Option.toList_none, List.append_nil]
    exact ha.ascending
  readers k := by
    rw [visiting_append, hv]
    exact ha.readers k
  inForce := ha.inForce
  failed := hf
  closed := hc

/-- A reader comes or goes. -/
theorem Accounts.move {k : ι} {v : Option τ} (ha : Accounts ahead h r)
    (he : publication? e = none) (hfail : e ≠ .fail)
    (hv : ∀ k' v', visit k' v' e = if k' = k then v else v') (ho : Orderly ahead h e)
    (hcur : ∀ g, v = some g → r.current = some g) :
    Accounts ahead (h ++ [e]) { r with readers := Function.update r.readers k v } where
  orderly := before_append.mpr ⟨ha.orderly, ho⟩
  current := by simp [publications_append, he, ha.current]
  ascending := by
    rw [publications_append, he, Option.toList_none, List.append_nil]
    exact ha.ascending
  readers k' := by
    rw [visiting_append, hv]
    by_cases hk : k' = k
    · rw [hk, if_pos rfl]
      exact Function.update_self ..
    · rw [if_neg hk, ← ha.readers k']
      exact Function.update_of_ne hk ..
  inForce k' g hg := by
    have hg' : Function.update r.readers k v k' = some g := hg
    by_cases hk : k' = k
    · rw [hk, Function.update_self] at hg'
      exact hcur g hg'
    · rw [Function.update_of_ne hk] at hg'
      exact ha.inForce k' g hg'
  failed := by simpa [Ne.symm hfail] using ha.failed
  closed := ha.closed

/-- **Every step keeps the account.** -/
theorem Accounts.step (htrans : ∀ a b c, ahead a b → ahead b c → ahead a c)
    (ha : Accounts ahead h r) {es : List (RegisterEvent ι τ)} (hs : Step first ahead r es r') :
    Accounts ahead (h ++ es) r' := by
  cases hs with
  | first hf hc hg =>
    refine ha.publish hf (fun k => ?_) fun g' hg' => ?_
    · by_contra hk
      obtain ⟨g, hg⟩ := Option.ne_none_iff_exists'.mp hk
      rw [ha.inForce k g hg] at hc
      cases hc
    · rw [ha.current, List.getLast?_eq_none_iff] at hc
      rw [hc] at hg'
      cases hg'
  | publish hf hc hadm hr hg =>
    refine ha.publish hf hr fun g' hg' => ?_
    rcases ha.ascending _ hc g' hg' with rfl | h'
    · exact hg
    · exact htrans _ _ _ h' hg
  | close hadm =>
    have hf := ha.not_failed_of_admitting hadm
    have hno := ha.not_failed hf
    exact ha.mark (f := r.failed) rfl (fun _ _ => rfl) hno (by simp [hf, hno]) fun _ => rfl
  | fail hf =>
    exact ha.mark rfl (fun _ _ => rfl) (ha.not_failed hf) (by simp) fun _ => rfl
  | enter hadm hc hk =>
    have hno := ha.not_failed (ha.not_failed_of_admitting hadm)
    refine ha.move rfl (by simp) (fun k' v' => ?_) ⟨hno, ?_, ?_⟩ fun g hg => ?_
    · simp [visit, eq_comm]
    · rw [← ha.readers]
      exact hk
    · rw [← ha.current]
      exact hc
    · rw [hc, hg]
  | leave hf hk =>
    refine ha.move rfl (by simp) (fun k' v' => ?_) ⟨ha.not_failed hf, ?_, ?_⟩ fun g hg => ?_
    · simp [visit, eq_comm]
    · rw [← ha.readers]
      exact hk
    · rw [← ha.current]
      exact ha.inForce _ _ hk
    · cases hg

/-- **A register's history is orderly.** -/
theorem orderly (htrans : ∀ a b c, ahead a b → ahead b c → ahead a c)
    (hb : Behaves (Step first ahead) empty h r) : Before (Orderly ahead) h :=
  (hb.invariant (J := Accounts ahead) (fun _ _ _ _ ha hs => ha.step htrans hs)
    accounts_empty).orderly

end

end Register
