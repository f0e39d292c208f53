import RolloutCore.Versions
import RolloutCore.Lib.Encodings

/-!
# Engine labels

`parseLabel` against `label`: what is read back, what else is accepted, and with which error a
label is refused.
-/

namespace RolloutCore

namespace WeightVersion

theorem parseLabel_label (v : WeightVersion) : parseLabel v.label = .ok v := by
  unfold parseLabel label
  simp only [startsWith_append, dropLabel_append, isdigit_toString, intOfDigits_toString]
  rfl

theorem parseLabel_refused {s : String}
    (h : ¬ (startsWith ENGINE_LABEL_PREFIX s = true ∧
      isdigit (dropLabel ENGINE_LABEL_PREFIX s) = true)) :
    ∃ m, parseLabel s = .error (.version m) := by
  unfold parseLabel
  by_cases hp : startsWith ENGINE_LABEL_PREFIX s = true
  · have hd : isdigit (dropLabel ENGINE_LABEL_PREFIX s) = false := by
      simpa [hp] using h
    simp only [hp, hd]
    exact ⟨_, rfl⟩
  · rw [Bool.not_eq_true] at hp
    simp only [hp]
    exact ⟨_, rfl⟩

theorem parseLabel_digits {s : String} (hp : startsWith ENGINE_LABEL_PREFIX s = true)
    (hd : isdigit (dropLabel ENGINE_LABEL_PREFIX s) = true) :
    parseLabel s = match intOfDigits (dropLabel ENGINE_LABEL_PREFIX s) with
      | none => .error (.plain ("invalid literal for int() with base 10: " ++
          pyRepr (dropLabel ENGINE_LABEL_PREFIX s)))
      | some n => .ok ⟨n⟩ := by
  unfold parseLabel
  simp only [hp, hd]
  rfl

/-- What is accepted: the prefix, and decimal digits of any script behind it. -/
theorem parseLabel_ok_iff {s : String} {v : WeightVersion} :
    parseLabel s = .ok v ↔ (startsWith ENGINE_LABEL_PREFIX s = true ∧
      isdigit (dropLabel ENGINE_LABEL_PREFIX s) = true) ∧
      intOfDigits (dropLabel ENGINE_LABEL_PREFIX s) = some v.value := by
  by_cases h : startsWith ENGINE_LABEL_PREFIX s = true ∧
      isdigit (dropLabel ENGINE_LABEL_PREFIX s) = true
  · rw [parseLabel_digits h.1 h.2]
    cases intOfDigits (dropLabel ENGINE_LABEL_PREFIX s) with
    | none => simp
    | some n =>
      obtain ⟨m⟩ := v
      simp [h.1, h.2]
  · obtain ⟨m, hm⟩ := parseLabel_refused h
    rw [hm]
    exact iff_of_false (by simp) fun hok => h hok.1

/-- The suffix of a label is a decimal number as `str` writes it. -/
def CanonicalSuffix (s : String) : Prop :=
  Decimal.Canonical (dropLabel ENGINE_LABEL_PREFIX s).toList

instance (s : String) : Decidable (CanonicalSuffix s) :=
  inferInstanceAs (Decidable (Decimal.Canonical _))

theorem exists_label_iff {s : String} :
    (∃ v : WeightVersion, s = v.label) ↔
      startsWith ENGINE_LABEL_PREFIX s = true ∧ CanonicalSuffix s := by
  constructor
  · rintro ⟨v, rfl⟩
    refine ⟨startsWith_append _ _, ?_⟩
    unfold CanonicalSuffix label
    rw [dropLabel_append, Nat.toString_eq_repr, Nat.toList_repr]
    exact Decimal.canonical_toDigits _
  · rintro ⟨hp, hc⟩
    obtain ⟨n, hn⟩ := Decimal.canonical_iff.mp hc
    refine ⟨⟨n⟩, ?_⟩
    have hsuffix : toString n = dropLabel ENGINE_LABEL_PREFIX s := by
      rw [← String.toList_inj, hn, Nat.toString_eq_repr, Nat.toList_repr]
    unfold label
    rw [hsuffix, append_dropLabel hp]

/-- **The label codec.** `parse_label` takes `s` back to exactly the version it is the label of,
and refuses it with a `VersionError` if it is no label, unless `s` is the prefix followed by a
string of digits that is no canonical decimal. -/
theorem parseLabel_exact_iff (s : String) :
    ((∀ v : WeightVersion, parseLabel s = .ok v ↔ s = v.label) ∧
      ((∀ v : WeightVersion, s ≠ v.label) → ∃ m, parseLabel s = .error (.version m))) ↔
    ¬ (startsWith ENGINE_LABEL_PREFIX s = true ∧
      isdigit (dropLabel ENGINE_LABEL_PREFIX s) = true ∧ ¬ CanonicalSuffix s) := by
  constructor
  · rintro ⟨hexact, herror⟩ ⟨hp, hd, hc⟩
    have hno : ∀ v : WeightVersion, s ≠ v.label := fun v hv => hc (exists_label_iff.mp ⟨v, hv⟩).2
    obtain ⟨m, hm⟩ := herror hno
    -- digits are accepted or fail in `int`, never with a `VersionError`
    rw [parseLabel_digits hp hd] at hm
    cases hi : intOfDigits (dropLabel ENGINE_LABEL_PREFIX s) with
    | none => rw [hi] at hm; cases hm
    | some n => rw [hi] at hm; cases hm
  · intro h
    by_cases hl : ∃ v : WeightVersion, s = v.label
    · obtain ⟨w, rfl⟩ := hl
      refine ⟨fun v => ?_, fun hno => absurd rfl (hno w)⟩
      rw [parseLabel_label, Except.ok.injEq, label_injective.eq_iff]
    · have hno : ¬ (startsWith ENGINE_LABEL_PREFIX s = true ∧
          isdigit (dropLabel ENGINE_LABEL_PREFIX s) = true) := fun ⟨hp, hd⟩ =>
        h ⟨hp, hd, fun hc => hl (exists_label_iff.mpr ⟨hp, hc⟩)⟩
      refine ⟨fun v => iff_of_false (fun hok => ?_) fun hv => hl ⟨v, hv⟩, fun _ => ?_⟩
      · exact hno (parseLabel_ok_iff.mp hok).1
      · exact parseLabel_refused hno

/-- A leading zero is accepted, and a superscript digit fails with a plain `ValueError`. -/
theorem parseLabel_not_exact :
    ¬ ((∀ (s : String) (v : WeightVersion), parseLabel s = .ok v ↔ s = v.label) ∧
      ∀ s : String, (∀ v : WeightVersion, s ≠ v.label) → ∃ m, parseLabel s = .error (.version m)) := by
  rintro ⟨hexact, -⟩
  have hlabel : "rc-007" = label ⟨7⟩ := (hexact "rc-007" ⟨7⟩).mp (by decide)
  exact absurd hlabel (by decide)

example : parseLabel "rc-٣" = .ok ⟨3⟩ ∧
    parseLabel "rc-²" = .error (.plain "invalid literal for int() with base 10: '²'") := by decide

end WeightVersion

end RolloutCore
