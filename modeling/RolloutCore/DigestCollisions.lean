import RolloutCore.WeightDigest
import Mathlib

/-!
# When two weight identities share a digest

The texts hashed for a declared source, and from them and the texts of the manifests what a digest
determines, for a hash function without collisions among the texts in question.
-/

namespace RolloutCore

namespace WeightProvenance

/-! ## Sources without separators -/

theorem ne_of_head {s t : String} (h : s.toList.head? ≠ t.toList.head?) : s ≠ t := by
  rintro rfl
  exact h rfl

-- the labels of the three fields begin with different letters
theorem checkpoint_ne_runId (c r : String) : "checkpoint=" ++ c ≠ "run_id=" ++ r :=
  ne_of_head (by simp)

theorem checkpoint_ne_step (c r : String) : "checkpoint=" ++ c ≠ "step=" ++ r :=
  ne_of_head (by simp)

theorem runId_ne_step (c r : String) : "run_id=" ++ c ≠ "step=" ++ r :=
  ne_of_head (by simp)

theorem mem_parts {p : WeightProvenance} {s : String} : s ∈ p.parts ↔
    (∃ c, p.checkpoint = some c ∧ "checkpoint=" ++ c = s) ∨
      (∃ r, p.runId = some r ∧ "run_id=" ++ r = s) ∨
        ∃ n, p.step = some n ∧ "step=" ++ toString n = s := by
  unfold parts
  rw [List.mem_append, List.mem_append, or_assoc]
  simp only [Option.mem_toList, Option.map_eq_some_iff]

theorem mem_parts_checkpoint {p : WeightProvenance} {c : String} :
    "checkpoint=" ++ c ∈ p.parts ↔ p.checkpoint = some c := by
  rw [mem_parts]
  constructor
  · rintro (⟨c', hc, h⟩ | ⟨r, -, h⟩ | ⟨n, -, h⟩)
    · rw [← (String.append_right_inj _).mp h, hc]
    · exact absurd h.symm (checkpoint_ne_runId c r)
    · exact absurd h.symm (checkpoint_ne_step c _)
  · exact fun hc => .inl ⟨c, hc, rfl⟩

theorem mem_parts_runId {p : WeightProvenance} {r : String} :
    "run_id=" ++ r ∈ p.parts ↔ p.runId = some r := by
  rw [mem_parts]
  constructor
  · rintro (⟨c, -, h⟩ | ⟨r', hr, h⟩ | ⟨n, -, h⟩)
    · exact absurd h (checkpoint_ne_runId c r)
    · rw [← (String.append_right_inj _).mp h, hr]
    · exact absurd h.symm (runId_ne_step r _)
  · exact fun hr => .inr (.inl ⟨r, hr, rfl⟩)

theorem mem_parts_step {p : WeightProvenance} {n : ℕ} :
    "step=" ++ toString n ∈ p.parts ↔ p.step = some n := by
  rw [mem_parts]
  constructor
  · rintro (⟨c, -, h⟩ | ⟨r, -, h⟩ | ⟨m, hm, h⟩)
    · exact absurd h (checkpoint_ne_step c _)
    · exact absurd h (runId_ne_step r _)
    · rw [← toString_injective ((String.append_right_inj _).mp h), hm]
  · exact fun hn => .inr (.inr ⟨n, hn, rfl⟩)

/-- The parts of the encoding determine the source. -/
theorem parts_injective {p q : WeightProvenance} (h : p.parts = q.parts) : p = q := by
  apply WeightProvenance.ext
  · exact Option.ext fun c => by
      rw [← mem_parts_checkpoint, ← mem_parts_checkpoint, h]
  · exact Option.ext fun r => by rw [← mem_parts_runId, ← mem_parts_runId, h]
  · exact Option.ext fun n => by rw [← mem_parts_step, ← mem_parts_step, h]

/-- Neither the checkpoint nor the run id contains the separator. -/
def SeparatorFree (p : WeightProvenance) : Prop :=
  (∀ c ∈ p.checkpoint, SEP ∉ c.toList) ∧ ∀ r ∈ p.runId, SEP ∉ r.toList

theorem forall_parts {p : WeightProvenance} (h : p.SeparatorFree) :
    ∀ cs ∈ p.parts.map String.toList, cs ≠ [] ∧ SEP ∉ cs := by
  intro cs hcs
  obtain ⟨s, hs, rfl⟩ := List.mem_map.mp hcs
  have hlabel : ∀ {label value : String}, label ≠ "" → SEP ∉ label.toList → SEP ∉ value.toList →
      (label ++ value).toList ≠ [] ∧ SEP ∉ (label ++ value).toList := by
    intro label value hne hl hv
    rw [String.toList_append, List.mem_append, not_or]
    exact ⟨List.append_ne_nil_of_left_ne_nil (by simpa using hne) _, hl, hv⟩
  obtain ⟨c, hc, rfl⟩ | ⟨r, hr, rfl⟩ | ⟨n, -, rfl⟩ := mem_parts.mp hs
  · exact hlabel (by decide) (by decide) (h.1 c hc)
  · exact hlabel (by decide) (by decide) (h.2 r hr)
  · exact hlabel (by decide) (by decide) fun hn => absurd (isDigit_of_mem_toString hn) (by decide)

/-- Without separators in the fields the encoding determines the source. -/
theorem canonical_injective {p q : WeightProvenance} (hp : p.SeparatorFree) (hq : q.SeparatorFree)
    (h : p.canonical = q.canonical) : p = q := by
  have hlists : [SEP].intercalate (p.parts.map String.toList) =
      [SEP].intercalate (q.parts.map String.toList) := by
    have htext := congrArg String.toList h
    unfold canonical at htext
    rwa [String.toList_intercalate, String.toList_intercalate, String.toList_singleton] at htext
  have hparts := Delimited.intercalate_injective (forall_parts hp) (forall_parts hq) hlists
  exact parts_injective (List.map_injective_iff.mpr (fun s t => String.toList_inj.mp) hparts)

/-! ## Sources in general -/

/-- The value `s` goes on with the field `field` behind a separator. -/
def GoesOn (s field : String) : Prop :=
  ∃ head, head ≠ "" ∧ s = head ++ String.singleton SEP ++ field

/-- A source whose encoding is that of no other one: it declares one field, which does not go on
with a later one. -/
def Determined (p : WeightProvenance) : Prop :=
  match p.checkpoint, p.runId, p.step with
  | some c, none, none => (∀ r ≠ "", ¬ GoesOn c ("run_id=" ++ r)) ∧
      ∀ n : ℕ, ¬ GoesOn c ("step=" ++ toString n)
  | none, some r, none => ∀ n : ℕ, ¬ GoesOn r ("step=" ++ toString n)
  | none, none, some _ => True
  | _, _, _ => False

/-- The seven encodings. -/
theorem canonical_eq (p : WeightProvenance) : p.canonical =
    match p.checkpoint, p.runId, p.step with
    | some c, none, none => "checkpoint=" ++ c
    | some c, some r, none => "checkpoint=" ++ (c ++ String.singleton SEP ++ ("run_id=" ++ r))
    | some c, none, some n =>
      "checkpoint=" ++ (c ++ String.singleton SEP ++ ("step=" ++ toString n))
    | some c, some r, some n => "checkpoint=" ++ (c ++ String.singleton SEP ++ ("run_id=" ++
        (r ++ String.singleton SEP ++ ("step=" ++ toString n))))
    | none, some r, none => "run_id=" ++ r
    | none, some r, some n => "run_id=" ++ (r ++ String.singleton SEP ++ ("step=" ++ toString n))
    | none, none, some n => "step=" ++ toString n
    | none, none, none => "" := by
  unfold canonical parts
  rw [← String.toList_inj]
  cases p.checkpoint <;> cases p.runId <;> cases p.step <;> simp

/-- An encoding that begins with a checkpoint: this is all, or the value read goes on. -/
theorem of_canonical_checkpoint {q : WeightProvenance} {v : String}
    (h : q.canonical = "checkpoint=" ++ v) :
    (q.checkpoint = some v ∧ q.runId = none ∧ q.step = none) ∨
      (∃ r ≠ "", GoesOn v ("run_id=" ++ r)) ∨ ∃ n : ℕ, GoesOn v ("step=" ++ toString n) := by
  obtain ⟨_ | c, _ | r, _ | n, hc, hr, hdeclared⟩ := q <;> rw [canonical_eq] at h
  · simp at hdeclared
  · exact absurd h.symm (checkpoint_ne_step v _)
  · exact absurd h.symm (checkpoint_ne_runId v _)
  · exact absurd h.symm (checkpoint_ne_runId v _)
  · obtain rfl := (String.append_right_inj _).mp h
    exact .inl ⟨rfl, rfl, rfl⟩
  · exact .inr (.inr ⟨n, c, by simpa using hc, ((String.append_right_inj _).mp h).symm⟩)
  · exact .inr (.inl ⟨r, by simpa using hr, c, by simpa using hc,
      ((String.append_right_inj _).mp h).symm⟩)
  · exact .inr (.inl ⟨_, by simp, c, by simpa using hc, ((String.append_right_inj _).mp h).symm⟩)

theorem of_canonical_runId {q : WeightProvenance} {v : String} (h : q.canonical = "run_id=" ++ v) :
    (q.checkpoint = none ∧ q.runId = some v ∧ q.step = none) ∨
      ∃ n : ℕ, GoesOn v ("step=" ++ toString n) := by
  obtain ⟨_ | c, _ | r, _ | n, hc, hr, hdeclared⟩ := q <;> rw [canonical_eq] at h
  · simp at hdeclared
  · exact absurd h.symm (runId_ne_step v _)
  · obtain rfl := (String.append_right_inj _).mp h
    exact .inl ⟨rfl, rfl, rfl⟩
  · exact .inr ⟨n, r, by simpa using hr, ((String.append_right_inj _).mp h).symm⟩
  all_goals exact absurd h (checkpoint_ne_runId _ v)

theorem of_canonical_step {q : WeightProvenance} {m : ℕ}
    (h : q.canonical = "step=" ++ toString m) :
    q.checkpoint = none ∧ q.runId = none ∧ q.step = some m := by
  obtain ⟨_ | c, _ | r, _ | n, hc, hr, hdeclared⟩ := q <;> rw [canonical_eq] at h
  · simp at hdeclared
  · obtain rfl := toString_injective ((String.append_right_inj _).mp h)
    exact ⟨rfl, rfl, rfl⟩
  · exact absurd h (runId_ne_step _ _)
  · exact absurd h (runId_ne_step _ _)
  all_goals exact absurd h (checkpoint_ne_step _ _)

/-- The encoding of a source is not that of another one, if the source is determined. -/
theorem eq_of_canonical {p q : WeightProvenance} (h : p.Determined)
    (heq : p.canonical = q.canonical) : p = q := by
  have hp := p.canonical_eq
  rw [heq] at hp
  unfold Determined at h
  split at h
  case h_1 c hpc hpr hpn =>
    rw [hpc, hpr, hpn] at hp
    obtain ⟨hqc, hqr, hqn⟩ | ⟨r, hr, hon⟩ | ⟨n, hon⟩ := of_canonical_checkpoint hp
    · exact WeightProvenance.ext (by rw [hpc, hqc]) (by rw [hpr, hqr]) (by rw [hpn, hqn])
    · exact absurd hon (h.1 r hr)
    · exact absurd hon (h.2 n)
  case h_2 r hpc hpr hpn =>
    rw [hpc, hpr, hpn] at hp
    obtain ⟨hqc, hqr, hqn⟩ | ⟨n, hon⟩ := of_canonical_runId hp
    · exact WeightProvenance.ext (by rw [hpc, hqc]) (by rw [hpr, hqr]) (by rw [hpn, hqn])
    · exact absurd hon (h n)
  case h_3 n hpc hpr hpn =>
    rw [hpc, hpr, hpn] at hp
    obtain ⟨hqc, hqr, hqn⟩ := of_canonical_step hp
    exact WeightProvenance.ext (by rw [hpc, hqc]) (by rw [hpr, hqr]) (by rw [hpn, hqn])
  case h_4 => exact absurd h id

/-- Every other source shares its encoding with another source. -/
theorem exists_other_source {p : WeightProvenance} (h : ¬ p.Determined) :
    ∃ q : WeightProvenance, p.canonical = q.canonical ∧ p ≠ q := by
  obtain ⟨_ | c, _ | r, _ | n, hc, hr, hdeclared⟩ := p
  · simp at hdeclared
  · exact absurd trivial h
  · -- a run id alone that goes on with a step
    obtain ⟨n, r', hr', rfl⟩ := not_forall_not.mp h
    refine ⟨⟨none, some r', some n, by simp, by simpa using hr', by simp⟩, ?_, by simp⟩
    rw [canonical_eq, canonical_eq]
  · refine ⟨⟨none, some (r ++ String.singleton SEP ++ ("step=" ++ toString n)), none, by simp,
      by simp, by simp⟩, ?_, by simp⟩
    rw [canonical_eq, canonical_eq]
  · -- a checkpoint alone that goes on with a run id or a step
    obtain h | h := not_and_or.mp h
    · push Not at h
      obtain ⟨r, hr, c', hc', rfl⟩ := h
      refine ⟨⟨some c', some r, none, by simpa using hc', by simpa using hr, by simp⟩, ?_, by simp⟩
      rw [canonical_eq, canonical_eq]
    · obtain ⟨n, c', hc', rfl⟩ := not_forall_not.mp h
      refine ⟨⟨some c', none, some n, by simpa using hc', by simp, by simp⟩, ?_, by simp⟩
      rw [canonical_eq, canonical_eq]
  · refine ⟨⟨some (c ++ String.singleton SEP ++ ("step=" ++ toString n)), none, none,
      by simp, by simp, by simp⟩, ?_, by simp⟩
    rw [canonical_eq, canonical_eq]
  · refine ⟨⟨some (c ++ String.singleton SEP ++ ("run_id=" ++ r)), none, none,
      by simp, by simp, by simp⟩, ?_, by simp⟩
    rw [canonical_eq, canonical_eq]
  · refine ⟨⟨some (c ++ String.singleton SEP ++ ("run_id=" ++ r)), none, some n,
      by simp, by simp, by simp⟩, ?_, by simp⟩
    rw [canonical_eq, canonical_eq, ← String.toList_inj]
    simp

end WeightProvenance

/-! ## Manifests and sources are told apart -/

theorem mem_digest {d : String} (h : digestOk d = true) {c : Char} (hc : c ∈ d.toList) :
    c ∈ DIGEST_PREFIX.toList ∨ c ∈ "0123456789abcdef".toList := by
  unfold digestOk at h
  rw [Bool.and_eq_true, Bool.and_eq_true, List.all_eq_true] at h
  obtain ⟨⟨hstart, -⟩, hhex⟩ := h
  rw [← append_dropLabel hstart, String.toList_append, List.mem_append] at hc
  exact hc.imp_right fun hc => List.contains_iff_mem.mp (hhex c hc)

theorem SEP_notMem_digest {d : String} (h : digestOk d = true) : SEP ∉ d.toList := fun hc =>
  absurd (mem_digest h hc) (by decide)

theorem LINE_notMem_digest {d : String} (h : digestOk d = true) : LINE ∉ d.toList := fun hc =>
  absurd (mem_digest h hc) (by decide)

theorem toList_sourceText (p : WeightProvenance) (d : String) :
    (sourceText p d).toList = p.canonical.toList ++ LINE :: d.toList ++ [LINE] := by
  unfold sourceText
  simp

/-- No text is hashed both for a manifest and for a declared source. -/
theorem manifestText_ne_sourceText (l : List ParamSpec) (p : WeightProvenance) {d : String}
    (hd : digestOk d = true) : manifestText l ≠ sourceText p d := by
  intro h
  rw [← String.toList_inj, toList_sourceText] at h
  cases l with
  | nil => simp [manifestText] at h
  | cons s l =>
    obtain ⟨t, front, htext, -⟩ := manifestText_last s l
    rw [htext] at h
    -- behind the last separator of a manifest there is no line break but the last
    have hcuts : (front ++ SEP :: t.dtype.toList) ++ SEP :: t.dims.toList ++ [LINE] =
        p.canonical.toList ++ LINE :: d.toList ++ [LINE] := by
      simpa using h
    exact Delimited.cut_ne (by decide) (LINE_notMem_dims t) (SEP_notMem_digest hd)
      (List.append_cancel_right hcuts)

/-- The text of a declared source determines its two halves. -/
theorem sourceText_injective {p q : WeightProvenance} {d e : String} (hd : digestOk d = true)
    (he : digestOk e = true) (h : sourceText p d = sourceText q e) :
    p.canonical = q.canonical ∧ d = e := by
  rw [← String.toList_inj, toList_sourceText, toList_sourceText] at h
  obtain ⟨hcanonical, hdigest⟩ := Delimited.cut_last (List.append_cancel_right h)
    (LINE_notMem_digest hd) (LINE_notMem_digest he)
  exact ⟨String.toList_inj.mp hcanonical, String.toList_inj.mp hdigest⟩

/-! ## Digests -/

/-- What `from_param_specs` is called with. -/
structure DeclaredWeights where
  specs : List ParamSpec
  source : Option WeightProvenance

namespace DeclaredWeights

variable (H : Sha256) (x y : DeclaredWeights)

def identity : Except PyValueError WeightIdentity :=
  WeightIdentity.fromParamSpecs H x.specs x.source

/-- The same parameters, in whatever order, and the same declared source. -/
def Same : Prop := x.specs.Perm y.specs ∧ x.source = y.source

/-- The byte strings that are hashed. -/
def hashed : Set ByteArray :=
  { data | data = (manifestText (sortByName x.specs)).toUTF8 ∨
    ∃ p ∈ x.source, data = (sourceText p (H.manifestDigest x.specs)).toUTF8 }

/-- The hash function has no collision among what is hashed for the two. -/
def NoCollision : Prop := Set.InjOn H.hexdigest (x.hashed H ∪ y.hashed H)

/-- Two identities with one digest are of the same parameters and the same source. -/
def Distinguished : Prop := ∀ i j, x.identity H = .ok i → y.identity H = .ok j →
  i.digest = j.digest → x.Same y

/-- The digest of the identity, if there is one. -/
def digest : String :=
  match x.source with
  | none => H.manifestDigest x.specs
  | some p => H.sourceDigest x.specs p

variable {H x y}

theorem identity_digest {i : WeightIdentity} (h : x.identity H = .ok i) :
    i.digest = x.digest H := by
  unfold identity WeightIdentity.fromParamSpecs at h
  unfold digest
  split_ifs at h
  cases hsource : x.source <;> rw [hsource] at h <;> cases h <;> rfl

/-- An identity is computed unless two parameters have one name. -/
theorem exists_identity : (∃ i, x.identity H = .ok i) ↔ (x.specs.map (·.name)).Nodup := by
  have hperm : ((sortByName x.specs).map (·.name)).Nodup ↔ (x.specs.map (·.name)).Nodup :=
    ((List.perm_insertionSort _ _).map _).nodup_iff
  rw [← hperm]
  unfold identity WeightIdentity.fromParamSpecs
  by_cases hnodup : ((sortByName x.specs).map (·.name)).Nodup
  · rw [if_neg (not_not_intro hnodup)]
    cases x.source <;> simp [hnodup]
  · rw [if_pos hnodup]
    simp [hnodup]

theorem toUTF8_injective : Function.Injective String.toUTF8 := by
  intro s t h
  rw [String.toUTF8_eq_toByteArray, String.toUTF8_eq_toByteArray] at h
  exact String.toByteArray_inj.mp h

/-- One hash value, one text. -/
theorem text_of_hexdigest (hH : NoCollision H x y) {s t : String}
    (hs : s.toUTF8 ∈ x.hashed H) (ht : t.toUTF8 ∈ y.hashed H)
    (h : DIGEST_PREFIX ++ H.hexdigest s.toUTF8 = DIGEST_PREFIX ++ H.hexdigest t.toUTF8) : s = t :=
  toUTF8_injective (hH (.inl hs) (.inr ht) ((String.append_right_inj _).mp h))

theorem manifest_hashed (x : DeclaredWeights) :
    (manifestText (sortByName x.specs)).toUTF8 ∈ x.hashed H := .inl rfl

theorem source_hashed {p : WeightProvenance} (hp : x.source = some p) :
    (sourceText p (H.manifestDigest x.specs)).toUTF8 ∈ x.hashed H := .inr ⟨p, hp, rfl⟩

/-- Without a source there is one text only. -/
theorem noCollision_self (h : x.source = none) : NoCollision H x x := by
  have hhashed : x.hashed H = {(manifestText (sortByName x.specs)).toUTF8} := by
    unfold hashed
    simp [h]
  unfold NoCollision
  rw [Set.union_self, hhashed]
  exact Set.injOn_singleton _ _

/-- A digest determines the texts it was made from. -/
theorem texts_of_digest (hH : NoCollision H x y) (h : x.digest H = y.digest H) :
    manifestText (sortByName x.specs) = manifestText (sortByName y.specs) ∧
      x.source.map WeightProvenance.canonical = y.source.map WeightProvenance.canonical := by
  unfold digest at h
  cases hx : x.source with
  | none =>
    cases hy : y.source with
    | none =>
      rw [hx, hy] at h
      exact ⟨text_of_hexdigest hH (manifest_hashed x) (manifest_hashed y) h, rfl⟩
    | some q =>
      rw [hx, hy] at h
      exact absurd (text_of_hexdigest hH (manifest_hashed x) (source_hashed hy) h)
        (manifestText_ne_sourceText _ q (H.digest_ok _))
  | some p =>
    cases hy : y.source with
    | none =>
      rw [hx, hy] at h
      exact absurd (text_of_hexdigest hH (source_hashed hx) (manifest_hashed y) h).symm
        (manifestText_ne_sourceText _ p (H.digest_ok _))
    | some q =>
      rw [hx, hy] at h
      obtain ⟨hcanonical, hmanifest⟩ := sourceText_injective (H.digest_ok _) (H.digest_ok _)
        (text_of_hexdigest hH (source_hashed hx) (source_hashed hy) h)
      exact ⟨text_of_hexdigest hH (manifest_hashed x) (manifest_hashed y) hmanifest,
        congrArg some hcanonical⟩

theorem perm_of_sortByName {l l' : List ParamSpec} (h : sortByName l = sortByName l') :
    l.Perm l' := by
  have hperm : (sortByName l').Perm l' := List.perm_insertionSort _ l'
  rw [← h] at hperm
  exact (List.perm_insertionSort _ l).symm.trans hperm

/-- Two inputs are told apart, if their texts tell their manifests and their sources apart. -/
theorem distinguished_of_texts (hH : NoCollision H x y)
    (hmanifest : manifestText (sortByName x.specs) = manifestText (sortByName y.specs) →
      sortByName x.specs = sortByName y.specs)
    (hsource : ∀ p ∈ x.source, ∀ q ∈ y.source, p.canonical = q.canonical → p = q) :
    Distinguished H x y := by
  intro i j hi hj hij
  rw [identity_digest hi, identity_digest hj] at hij
  obtain ⟨htext, hcanonical⟩ := texts_of_digest hH hij
  refine ⟨perm_of_sortByName (hmanifest htext), ?_⟩
  cases hx : x.source with
  | none => cases hy : y.source with
    | none => rfl
    | some q => simp [hx, hy] at hcanonical
  | some p => cases hy : y.source with
    | none => simp [hx, hy] at hcanonical
    | some q =>
      rw [hx, hy] at hcanonical
      rw [hsource p hx q hy (Option.some.inj hcanonical)]

/-- No field of the parameters or of the source contains the separator. -/
def SeparatorFree (x : DeclaredWeights) : Prop :=
  (∀ s ∈ x.specs, s.SeparatorFree) ∧ ∀ p ∈ x.source, p.SeparatorFree

/-- Inputs whose digest is that of no other input. -/
def Determined (x : DeclaredWeights) : Prop :=
  ManifestDetermined x.specs ∧ ∀ p ∈ x.source, p.Determined

theorem distinguished_of_separatorFree (hH : NoCollision H x y) (hx : x.SeparatorFree)
    (hy : y.SeparatorFree) : Distinguished H x y := by
  refine distinguished_of_texts hH (manifestText_injective (fun s hs => hx.1 s ?_)
    fun s hs => hy.1 s ?_) fun p hp q hq => WeightProvenance.canonical_injective (hx.2 p hp)
      (hy.2 q hq)
  · exact (List.mem_insertionSort _).mp hs
  · exact (List.mem_insertionSort _).mp hs

theorem sortByName_determined {l : List ParamSpec} :
    ManifestDetermined (sortByName l) ↔ ManifestDetermined l := by
  have hperm : (sortByName l).Perm l := List.perm_insertionSort _ l
  unfold ManifestDetermined
  refine or_congr ?_ (exists_congr fun s => and_congr_left fun _ => ?_)
  · rw [← List.perm_nil, hperm.congr_left, List.perm_nil]
  · rw [← List.perm_singleton, hperm.congr_left, List.perm_singleton]

theorem distinguished_of_determined (hH : NoCollision H x y) (hx : x.Determined) :
    Distinguished H x y :=
  distinguished_of_texts hH (eq_of_manifestText (sortByName_determined.mpr hx.1))
    fun p hp _ _ => WeightProvenance.eq_of_canonical (hx.2 p hp)

/-- A second input with the same texts has the same digest, and nothing else is hashed for it. -/
theorem not_distinguished {i : WeightIdentity} (hi : x.identity H = .ok i)
    (hy : (y.specs.map (·.name)).Nodup) (hH : NoCollision H x x)
    (hhashed : y.hashed H = x.hashed H) (hdigest : x.digest H = y.digest H) (hne : ¬ x.Same y) :
    NoCollision H x y ∧ ¬ Distinguished H x y := by
  obtain ⟨j, hj⟩ := exists_identity.mpr hy
  refine ⟨?_, fun h => hne (h i j hi hj ?_)⟩
  · unfold NoCollision
    rwa [hhashed]
  · rw [identity_digest hi, identity_digest hj, hdigest]

/-- Every input that is not determined shares its digest with another one. -/
theorem exists_not_distinguished {i : WeightIdentity} (hi : x.identity H = .ok i)
    (hH : NoCollision H x x) (hx : ¬ x.Determined) :
    ∃ y, NoCollision H x y ∧ ¬ Distinguished H x y := by
  obtain hmanifest | hsource := not_and_or.mp hx
  · obtain ⟨t, htext, hne⟩ :=
      exists_other_manifest (l := sortByName x.specs) (sortByName_determined.not.mpr hmanifest)
    have hdigest : H.manifestDigest [t] = H.manifestDigest x.specs := by
      unfold Sha256.manifestDigest
      rw [htext]
      rfl
    refine ⟨⟨[t], x.source⟩, not_distinguished hi (List.nodup_singleton _) hH ?_ ?_ fun h =>
      hne ?_⟩
    · unfold hashed
      rw [hdigest, htext]
      rfl
    · unfold digest Sha256.sourceDigest
      simp only [hdigest]
    · exact List.perm_singleton.mp ((List.perm_insertionSort _ _).trans h.1)
  · push Not at hsource
    obtain ⟨p, hp, hnot⟩ := hsource
    obtain ⟨q, hcanonical, hne⟩ := WeightProvenance.exists_other_source hnot
    have htext : ∀ d, sourceText q d = sourceText p d := by
      intro d
      unfold sourceText
      rw [hcanonical]
    refine ⟨⟨x.specs, some q⟩, not_distinguished hi ((exists_identity (x := x)).mp ⟨i, hi⟩) hH
      ?_ ?_ fun h => hne ?_⟩
    · unfold hashed
      rw [Option.mem_def.mp hp]
      simp [htext]
    · unfold digest Sha256.sourceDigest
      rw [Option.mem_def.mp hp]
      simp [htext]
    · exact Option.some.inj ((Option.mem_def.mp hp).symm.trans h.2)

end DeclaredWeights

open DeclaredWeights

/-- **What a digest determines.** Among all inputs, the digest of `x` is that of the same
parameters and the same source only, if and only if `x` has one parameter at most, without a
separator at which its line could be cut otherwise, and a source, if any, that declares one field,
which does not go on with another one. Among the inputs without separators a digest always
determines the parameters and the source. -/
theorem digest_determines_iff (H : Sha256) (x : DeclaredWeights)
    (hx : ∃ i, x.identity H = .ok i) (hH : NoCollision H x x) :
    ((∀ y, NoCollision H x y → Distinguished H x y) ↔ x.Determined) ∧
      ∀ y, NoCollision H x y → x.SeparatorFree → y.SeparatorFree → Distinguished H x y := by
  obtain ⟨i, hi⟩ := hx
  refine ⟨⟨fun h => ?_, fun h y hy => distinguished_of_determined hy h⟩,
    fun y hy => distinguished_of_separatorFree hy⟩
  by_contra hnot
  obtain ⟨y, hy, hdist⟩ := exists_not_distinguished hi hH hnot
  exact hdist (h y hy)

/-- A hash function that agrees with SHA-256 on the texts of the manifests below. -/
def sampleHash : Sha256 where
  hexdigest data :=
    if data = "w\x1ffloat32\x1f2,3\n".toUTF8 then
      "81ab003bff53678b4f8bf4bfcced0fe0eefd76128f72708880fea0aac5511f96"
    else if data = "a\x1fb\x1ff32\x1f\n".toUTF8 then
      "5bb0e92d31d0afa72364f37c1e302c9f9f81d7d27634e8a7d99308d051dd6434"
    else String.ofList (List.replicate 64 '0')
  digest_ok data := by
    split_ifs
    · rw [digestOk_append]
      decide
    · rw [digestOk_append]
      decide
    · exact digestOk_replicate (by decide)

/-- The digest of one parameter determines that parameter. -/
theorem digest_determines_sample :
    (⟨[⟨"w", "float32", [2, 3], by decide, by decide⟩], none⟩ : DeclaredWeights).Determined ∧
      ∀ y, NoCollision sampleHash
        ⟨[⟨"w", "float32", [2, 3], by decide, by decide⟩], none⟩ y →
          Distinguished sampleHash ⟨[⟨"w", "float32", [2, 3], by decide, by decide⟩], none⟩ y := by
  have hdetermined : (⟨[⟨"w", "float32", [2, 3], by decide, by decide⟩], none⟩ :
      DeclaredWeights).Determined := ⟨.inr ⟨_, rfl, by decide, by decide⟩, nofun⟩
  refine ⟨hdetermined, (digest_determines_iff sampleHash _ ?_ ?_).1.mpr hdetermined⟩
  · exact exists_identity.mpr (List.nodup_singleton _)
  · exact noCollision_self rfl

/-- A name with the separator in it. -/
def separatorInName : DeclaredWeights :=
  ⟨[⟨"a\x1fb", "f32", [], by decide, by decide⟩], none⟩

/-- A dtype with the separator in it. -/
def separatorInDtype : DeclaredWeights :=
  ⟨[⟨"a", "b\x1ff32", [], by decide, by decide⟩], none⟩

theorem separators_text : manifestText (sortByName separatorInDtype.specs) =
    manifestText (sortByName separatorInName.specs) := by
  decide

/-- Two manifests with one digest: a name with a separator in it, and a dtype with one. -/
theorem separators_collide : NoCollision sampleHash separatorInName separatorInDtype ∧
    ¬ Distinguished sampleHash separatorInName separatorInDtype := by
  obtain ⟨i, hi⟩ := (exists_identity (H := sampleHash) (x := separatorInName)).mpr
    (List.nodup_singleton _)
  refine not_distinguished hi (List.nodup_singleton _) ?_ ?_ ?_ fun h => ?_
  · exact noCollision_self rfl
  · unfold hashed
    rw [separators_text]
    rfl
  · show DIGEST_PREFIX ++ sampleHash.hexdigest _ = DIGEST_PREFIX ++ sampleHash.hexdigest _
    rw [separators_text]
  · exact absurd h.1 (by decide)

end RolloutCore
