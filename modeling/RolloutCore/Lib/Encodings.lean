import Mathlib.Data.List.Basic

/-!
# Notations that can be read back

Two kinds of texts and what they determine. The decimal notation of a number is characterised as a
list of ASCII digits with no zero in front unless the number is zero, and reading it back and
writing it again gives the same list. A concatenation `xs ++ a :: ys` may be cut at more than one
occurrence of `a`; `cut_cases` is the only place that looks at how two cuts of one list lie, the
conditions under which they fall together are read off it, and joining pieces that are not empty
and free of the delimiter is injective.
-/

namespace Decimal

/-- The decimal notation of some number. -/
def Canonical (cs : List Char) : Prop :=
  cs ≠ [] ∧ (∀ c ∈ cs, c.isDigit = true) ∧ (cs.head? = some '0' → cs = ['0'])

instance (cs : List Char) : Decidable (Canonical cs) :=
  inferInstanceAs (Decidable (_ ∧ _ ∧ _))

theorem digitChar_sub {c : Char} (h : c.isDigit = true) :
    c.toNat - 48 < 10 ∧ Nat.digitChar (c.toNat - 48) = c := by
  obtain ⟨hlo, hhi⟩ := Char.isDigit_iff_toNat.mp h
  have hlo : 48 ≤ c.toNat := hlo
  have hhi : c.toNat ≤ 57 := hhi
  have hlt : c.toNat - 48 < 10 := by omega
  refine ⟨hlt, Char.toNat_inj.mp ?_⟩
  rw [Nat.toNat_digitChar_of_lt_ten hlt]
  omega

theorem toDigits_append {n : Nat} (hn : 0 < n) {cs : List Char}
    (h : ∀ c ∈ cs, c.isDigit = true) :
    Nat.toDigits 10 n ++ cs = Nat.toDigits 10 (Nat.ofDigitChars 10 cs n) := by
  induction cs generalizing n with
  | nil => simp
  | cons c cs ih =>
    rw [List.forall_mem_cons] at h
    obtain ⟨hlt, hc⟩ := digitChar_sub h.1
    have hone : Nat.toDigits 10 n ++ [c] = Nat.toDigits 10 (10 * n + (c.toNat - 48)) := by
      rw [← Nat.toDigits_append_toDigits (by decide) hn hlt, Nat.toDigits_of_lt_base hlt, hc]
    rw [Nat.ofDigitChars_cons, ← List.singleton_append, ← List.append_assoc, hone]
    exact ih (by omega) h.2

theorem toDigits_ofDigitChars {cs : List Char} (h : Canonical cs) :
    Nat.toDigits 10 (Nat.ofDigitChars 10 cs 0) = cs := by
  obtain ⟨hne, hdigits, hzero⟩ := h
  cases cs with
  | nil => exact absurd rfl hne
  | cons c cs =>
    rw [List.forall_mem_cons] at hdigits
    obtain ⟨hlt, hc⟩ := digitChar_sub hdigits.1
    by_cases h0 : c = '0'
    · rw [hzero (by rw [h0]; rfl)]
      decide
    · have hpos : 0 < c.toNat - 48 := by
        apply Nat.pos_of_ne_zero
        intro hz
        rw [hz] at hc
        exact h0 hc.symm
      have happend := toDigits_append hpos hdigits.2
      rw [Nat.toDigits_of_lt_base hlt, hc] at happend
      rw [Nat.ofDigitChars_cons, Nat.mul_zero, Nat.zero_add]
      exact happend.symm

theorem head_toDigits {n : Nat} (hn : 0 < n) : (Nat.toDigits 10 n).head? ≠ some '0' := by
  induction n using Nat.strongRecOn with
  | ind n ih =>
    by_cases hlt : n < 10
    · rw [Nat.toDigits_of_lt_base hlt]
      simp
      omega
    · rw [Nat.toDigits_of_base_le (by decide) (by omega), List.head?_append]
      have hdiv := ih (n / 10) (by omega) (by omega)
      cases hh : (Nat.toDigits 10 (n / 10)).head? with
      | none => exact absurd (List.head?_eq_none_iff.mp hh) Nat.toDigits_ne_nil
      | some d => rwa [hh] at hdiv

theorem canonical_toDigits (n : Nat) : Canonical (Nat.toDigits 10 n) := by
  refine ⟨Nat.toDigits_ne_nil,
    fun c hc => Nat.isDigit_of_mem_toDigits (by decide) (by decide) hc, fun hzero => ?_⟩
  rcases Nat.eq_zero_or_pos n with rfl | hn
  · exact Nat.toDigits_zero 10
  · exact absurd hzero (head_toDigits hn)

/-- **Canonical lists are the decimal notations.** -/
theorem canonical_iff {cs : List Char} : Canonical cs ↔ ∃ n, cs = Nat.toDigits 10 n := by
  constructor
  · intro h
    exact ⟨_, (toDigits_ofDigitChars h).symm⟩
  · rintro ⟨n, rfl⟩
    exact canonical_toDigits n

end Decimal

namespace Delimited

variable {α : Type*} {a b : α} {xs ys xs' ys' : List α}

/-- Two cuts of a list fall together, or the second comes later, or it comes earlier. -/
theorem cut_cases (h : xs ++ a :: ys = xs' ++ b :: ys') :
    (xs = xs' ∧ a = b ∧ ys = ys') ∨ (∃ m, xs' = xs ++ a :: m ∧ ys = m ++ b :: ys') ∨
      ∃ m, xs = xs' ++ b :: m ∧ ys' = m ++ a :: ys := by
  obtain ⟨m, hxs, hys⟩ | ⟨m, hxs, hys⟩ := List.append_eq_append_iff.mp h
  · cases m with
    | nil =>
      obtain ⟨hab, hrest⟩ := List.cons.inj hys
      exact .inl ⟨by rw [hxs, List.append_nil], hab, hrest⟩
    | cons c m =>
      obtain ⟨rfl, hrest⟩ := List.cons.inj hys
      exact .inr (.inl ⟨m, hxs, hrest⟩)
  · cases m with
    | nil =>
      obtain ⟨hab, hrest⟩ := List.cons.inj hys
      exact .inl ⟨by rw [hxs, List.append_nil], hab.symm, hrest.symm⟩
    | cons c m =>
      obtain ⟨rfl, hrest⟩ := List.cons.inj hys
      exact .inr (.inr ⟨m, hxs, hrest⟩)

theorem cut_first (h : xs ++ a :: ys = xs' ++ a :: ys') (hx : a ∉ xs) (hx' : a ∉ xs') :
    xs = xs' ∧ ys = ys' := by
  obtain ⟨hxs, -, hys⟩ | ⟨m, rfl, -⟩ | ⟨m, rfl, -⟩ := cut_cases h
  · exact ⟨hxs, hys⟩
  · exact absurd List.mem_append_cons_self hx'
  · exact absurd List.mem_append_cons_self hx

theorem cut_last (h : xs ++ a :: ys = xs' ++ a :: ys') (hy : a ∉ ys) (hy' : a ∉ ys') :
    xs = xs' ∧ ys = ys' := by
  obtain ⟨hxs, -, hys⟩ | ⟨m, -, rfl⟩ | ⟨m, -, rfl⟩ := cut_cases h
  · exact ⟨hxs, hys⟩
  · exact absurd List.mem_append_cons_self hy
  · exact absurd List.mem_append_cons_self hy'

/-- A list cannot end behind its last `a` without a `b`, and behind its last `b` without an `a`. -/
theorem cut_ne (hab : a ≠ b) (hy : b ∉ ys) (hy' : a ∉ ys') : xs ++ a :: ys ≠ xs' ++ b :: ys' := by
  intro h
  obtain ⟨-, heq, -⟩ | ⟨m, -, rfl⟩ | ⟨m, -, rfl⟩ := cut_cases h
  · exact hab heq
  · exact hy List.mem_append_cons_self
  · exact hy' List.mem_append_cons_self

/-- A list whose other delimiters are at its very ends has one cut into parts that are not empty. -/
theorem cut_only (h : xs ++ a :: ys = xs' ++ a :: ys') (hx : a ∉ xs.tail) (hy : a ∉ ys.dropLast)
    (hx' : xs' ≠ []) (hy' : ys' ≠ []) : xs = xs' ∧ ys = ys' := by
  obtain ⟨hxs, -, hys⟩ | ⟨m, -, rfl⟩ | ⟨m, rfl, -⟩ := cut_cases h
  · exact ⟨hxs, hys⟩
  · refine absurd ?_ hy
    rw [List.dropLast_append_cons, List.dropLast_cons_of_ne_nil hy']
    exact List.mem_append_cons_self
  · refine absurd ?_ hx
    rw [List.tail_append_of_ne_nil hx']
    exact List.mem_append_cons_self

theorem mem_intercalate {sep : List α} {l : List (List α)} (h : a ∈ sep.intercalate l) :
    a ∈ sep ∨ ∃ xs ∈ l, a ∈ xs := by
  induction l with
  | nil => simp at h
  | cons xs l ih =>
    cases l with
    | nil => exact .inr ⟨xs, List.mem_cons_self, by simpa using h⟩
    | cons ys l =>
      rw [List.intercalate_cons_cons, List.mem_append, List.mem_append] at h
      obtain (hxs | hsep) | hrest := h
      · exact .inr ⟨xs, List.mem_cons_self, hxs⟩
      · exact .inl hsep
      · obtain hsep | ⟨zs, hzs, ha⟩ := ih hrest
        · exact .inl hsep
        · exact .inr ⟨zs, List.mem_cons_of_mem xs hzs, ha⟩

theorem intercalate_injective {l l' : List (List α)} (h : ∀ xs ∈ l, xs ≠ [] ∧ a ∉ xs)
    (h' : ∀ xs ∈ l', xs ≠ [] ∧ a ∉ xs) (heq : [a].intercalate l = [a].intercalate l') : l = l' := by
  induction l generalizing l' with
  | nil =>
    cases l' with
    | nil => rfl
    | cons xs' l' =>
      obtain ⟨x, xs'', rfl⟩ := List.exists_cons_of_ne_nil (h' _ List.mem_cons_self).1
      cases l' <;> simp at heq
  | cons xs l ih =>
    obtain ⟨⟨hne, hnot⟩, hrest⟩ := List.forall_mem_cons.mp h
    cases l' with
    | nil =>
      obtain ⟨x, xs'', rfl⟩ := List.exists_cons_of_ne_nil hne
      cases l <;> simp at heq
    | cons xs' l' =>
      obtain ⟨⟨-, hnot'⟩, hrest'⟩ := List.forall_mem_cons.mp h'
      cases l with
      | nil =>
        cases l' with
        | nil => simpa using heq
        | cons ys' l' =>
          refine absurd ?_ hnot
          rw [List.intercalate_singleton, List.intercalate_cons_cons] at heq
          simp [heq]
      | cons ys l =>
        cases l' with
        | nil =>
          refine absurd ?_ hnot'
          rw [List.intercalate_singleton, List.intercalate_cons_cons] at heq
          simp [← heq]
        | cons ys' l' =>
          rw [List.intercalate_cons_cons, List.intercalate_cons_cons, List.append_assoc,
            List.append_assoc] at heq
          obtain ⟨hxs, htail⟩ := cut_first heq hnot hnot'
          rw [hxs, ih hrest hrest' htail]

end Delimited
