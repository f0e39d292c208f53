import RolloutCore.Lib.Encodings
import RolloutCore.Versions
import Mathlib.Data.Set.Function

/-!
# The digest of a weight identity

`ParamSpec` and `from_param_specs` of `versions.py`, over an arbitrary hash function in the place
of SHA-256. The texts that are hashed are concatenations of fields with separators in between, and
the fields may contain the separators. The texts here are strings of characters, which can be
encoded; `DigestTexts` has the functions on every text.
-/

namespace RolloutCore

/-- The line break of the canonical encodings. -/
def LINE : Char := '\n'

/-- One parameter's identity-relevant metadata. -/
@[ext]
structure ParamSpec where
  name : String
  dtype : String
  shape : List ℕ
  name_ne : name ≠ ""
  dtype_ne : dtype ≠ ""

instance : DecidableEq ParamSpec := fun _ _ => decidable_of_iff _ ParamSpec.ext_iff.symm

namespace ParamSpec

def dims (s : ParamSpec) : String := ",".intercalate (s.shape.map toString)

def canonical (s : ParamSpec) : String := s!"{s.name}{SEP}{s.dtype}{SEP}{s.dims}"

end ParamSpec

/-- `hashlib.sha256(data).hexdigest()`: 64 lower-case hexadecimal digits. -/
structure Sha256 where
  hexdigest : ByteArray → String
  digest_ok : ∀ data, digestOk (DIGEST_PREFIX ++ hexdigest data) = true

/-- `sorted(specs, key=lambda s: s.name)`. -/
def sortByName (specs : List ParamSpec) : List ParamSpec :=
  specs.insertionSort fun s t => s.name ≤ t.name

/-- What the hasher of a manifest is fed. -/
def manifestText (ordered : List ParamSpec) : String :=
  String.join (ordered.map fun s => s.canonical ++ String.singleton LINE)

/-- What the hasher of a declared source is fed. -/
def sourceText (source : WeightProvenance) (manifestDigest : String) : String :=
  source.canonical ++ String.singleton LINE ++ manifestDigest ++ String.singleton LINE

section

variable (H : Sha256)

def Sha256.manifestDigest (specs : List ParamSpec) : String :=
  DIGEST_PREFIX ++ H.hexdigest (manifestText (sortByName specs)).toUTF8

def Sha256.sourceDigest (specs : List ParamSpec) (source : WeightProvenance) : String :=
  DIGEST_PREFIX ++ H.hexdigest (sourceText source (H.manifestDigest specs)).toUTF8

/-- Compute an identity from a parameter manifest, plus an optional source. -/
def WeightIdentity.fromParamSpecs (specs : List ParamSpec) (source : Option WeightProvenance) :
    Except PyValueError WeightIdentity :=
  if ¬ ((sortByName specs).map (·.name)).Nodup then
    .error (.weightIdentity "duplicate parameter names in manifest")
  else
    let count := (sortByName specs).length
    let manifest := H.manifestDigest specs
    have manifest_ok : ∀ d ∈ some manifest, startsWith DIGEST_PREFIX d = true := by
      intro d hd
      rw [← Option.mem_some.mp hd]
      exact startsWith_append _ _
    match source with
    | none => .ok ⟨manifest, some count, some manifest, none, H.digest_ok _, manifest_ok⟩
    | some source => .ok ⟨H.sourceDigest specs source, some count, some manifest, some source,
        H.digest_ok _, manifest_ok⟩

end

/-! ## The fields of a line -/

theorem forall_dims {s : ParamSpec} :
    ∀ cs ∈ s.shape.map (fun n => (toString n).toList), cs ≠ [] ∧ ',' ∉ cs := by
  intro cs hcs
  obtain ⟨n, -, rfl⟩ := List.mem_map.mp hcs
  exact ⟨by simp, fun h => absurd (isDigit_of_mem_toString h) (by decide)⟩

theorem toList_dims (s : ParamSpec) :
    s.dims.toList = [','].intercalate (s.shape.map fun n => (toString n).toList) := by
  unfold ParamSpec.dims
  rw [String.toList_intercalate, List.map_map]
  rfl

theorem mem_dims {s : ParamSpec} {c : Char} (h : c ∈ s.dims.toList) :
    c.isDigit = true ∨ c = ',' := by
  rw [toList_dims] at h
  obtain hc | ⟨cs, hcs, hc⟩ := Delimited.mem_intercalate h
  · exact .inr (List.mem_singleton.mp hc)
  · obtain ⟨n, -, rfl⟩ := List.mem_map.mp hcs
    exact .inl (isDigit_of_mem_toString hc)

theorem SEP_notMem_dims (s : ParamSpec) : SEP ∉ s.dims.toList := by
  intro h
  obtain hc | hc := mem_dims h <;> exact absurd hc (by decide)

theorem LINE_notMem_dims (s : ParamSpec) : LINE ∉ s.dims.toList := by
  intro h
  obtain hc | hc := mem_dims h <;> exact absurd hc (by decide)

/-- Behind the last separator of a line are its dimensions. -/
theorem SEP_notMem_dims_line (s : ParamSpec) : SEP ∉ s.dims.toList ++ [LINE] := by
  intro h
  obtain hdims | hline := List.mem_append.mp h
  · exact SEP_notMem_dims s hdims
  · exact absurd hline (by decide)

theorem dims_injective {s t : ParamSpec} (h : s.dims.toList = t.dims.toList) :
    s.shape = t.shape := by
  rw [toList_dims, toList_dims] at h
  have hlists := Delimited.intercalate_injective forall_dims forall_dims h
  refine List.map_injective_iff.mpr (fun m n hmn => ?_) hlists
  exact toString_injective (String.toList_inj.mp hmn)

/-! ## The text of a manifest -/

theorem manifestText_cons (s : ParamSpec) (l : List ParamSpec) :
    (manifestText (s :: l)).toList = s.name.toList ++ SEP :: (s.dtype.toList ++
      SEP :: (s.dims.toList ++ LINE :: (manifestText l).toList)) := by
  have hline : manifestText (s :: l) = s.name ++ String.singleton SEP ++ s.dtype ++
      String.singleton SEP ++ s.dims ++ String.singleton LINE ++ manifestText l :=
    String.join_cons
  rw [hline]
  simp

theorem manifestText_singleton (s : ParamSpec) : (manifestText [s]).toList =
    s.name.toList ++ SEP :: (s.dtype.toList ++ SEP :: (s.dims.toList ++ [LINE])) :=
  manifestText_cons s []

/-- Neither the name nor the dtype contains the separator. -/
def ParamSpec.SeparatorFree (s : ParamSpec) : Prop :=
  SEP ∉ s.name.toList ∧ SEP ∉ s.dtype.toList

/-- Without separators in the fields the text determines the lines. -/
theorem manifestText_injective {l l' : List ParamSpec} (h : ∀ s ∈ l, s.SeparatorFree)
    (h' : ∀ s ∈ l', s.SeparatorFree) (heq : manifestText l = manifestText l') : l = l' := by
  rw [← String.toList_inj] at heq
  induction l generalizing l' with
  | nil =>
    cases l' with
    | nil => rfl
    | cons s' l' =>
      rw [manifestText_cons] at heq
      exact absurd heq.symm (by simp [manifestText])
  | cons s l ih =>
    cases l' with
    | nil =>
      rw [manifestText_cons] at heq
      exact absurd heq (by simp [manifestText])
    | cons s' l' =>
      obtain ⟨⟨hn, hd⟩, hl⟩ := List.forall_mem_cons.mp h
      obtain ⟨⟨hn', hd'⟩, hl'⟩ := List.forall_mem_cons.mp h'
      rw [manifestText_cons, manifestText_cons] at heq
      obtain ⟨hname, heq⟩ := Delimited.cut_first heq hn hn'
      obtain ⟨hdtype, heq⟩ := Delimited.cut_first heq hd hd'
      obtain ⟨hdims, heq⟩ :=
        Delimited.cut_first heq (LINE_notMem_dims s) (LINE_notMem_dims s')
      rw [ParamSpec.ext (String.toList_inj.mp hname) (String.toList_inj.mp hdtype)
        (dims_injective hdims), ih hl hl' heq]

/-- The end of the text of a manifest: the last dtype and dimensions. With more than one line there
is a separator in front that is not the first. -/
theorem manifestText_last (s : ParamSpec) (l : List ParamSpec) : ∃ t front,
    (manifestText (s :: l)).toList =
        front ++ SEP :: (t.dtype.toList ++ SEP :: (t.dims.toList ++ [LINE])) ∧
      (l = [] ∧ t = s ∧ front = s.name.toList ∨
        l ≠ [] ∧ ∃ rest, front = s.name.toList ++ SEP :: rest) := by
  induction l generalizing s with
  | nil => exact ⟨s, _, manifestText_singleton s, .inl ⟨rfl, rfl, rfl⟩⟩
  | cons s' l ih =>
    obtain ⟨t, front, htext, -⟩ := ih s'
    refine ⟨t, s.name.toList ++ SEP :: (s.dtype.toList ++ SEP :: (s.dims.toList ++ LINE :: front)),
      ?_, .inr ⟨List.cons_ne_nil _ _, _, rfl⟩⟩
    rw [manifestText_cons, htext]
    simp

/-- A manifest whose text is that of no other one: it has a line at most, and separators only where
cutting at them leaves an empty name or dtype. -/
def ManifestDetermined (l : List ParamSpec) : Prop :=
  l = [] ∨ ∃ s, l = [s] ∧ SEP ∉ s.name.toList.tail ∧ SEP ∉ s.dtype.toList.dropLast

theorem toList_ne_nil {s : String} (h : s ≠ "") : s.toList ≠ [] := by
  simpa using h

/-- A text that begins like `front`, and ends like the line `t`, cut at its last separators. -/
theorem cut_line {s t : ParamSpec} {front : List Char} (h : (manifestText [s]).toList =
      front ++ SEP :: (t.dtype.toList ++ SEP :: (t.dims.toList ++ [LINE]))) :
    s.name.toList ++ SEP :: s.dtype.toList = front ++ SEP :: t.dtype.toList ∧
      s.shape = t.shape := by
  rw [manifestText_singleton] at h
  have hcuts : (s.name.toList ++ SEP :: s.dtype.toList) ++ SEP :: (s.dims.toList ++ [LINE]) =
      (front ++ SEP :: t.dtype.toList) ++ SEP :: (t.dims.toList ++ [LINE]) := by
    simpa using h
  obtain ⟨hheads, hdims⟩ :=
    Delimited.cut_last hcuts (SEP_notMem_dims_line s) (SEP_notMem_dims_line t)
  exact ⟨hheads, dims_injective (List.append_cancel_right hdims)⟩

/-- The text of a manifest is not that of another one, if the manifest is determined. -/
theorem eq_of_manifestText {l l' : List ParamSpec} (h : ManifestDetermined l)
    (heq : manifestText l = manifestText l') : l = l' := by
  rw [← String.toList_inj] at heq
  cases l' with
  | nil =>
    obtain rfl | ⟨s, rfl, -⟩ := h
    · rfl
    · rw [manifestText_cons] at heq
      exact absurd heq (by simp [manifestText])
  | cons s' l' =>
    obtain rfl | ⟨s, rfl, hname, hdtype⟩ := h
    · rw [manifestText_cons] at heq
      exact absurd heq.symm (by simp [manifestText])
    · obtain ⟨t, front, htext, hcases⟩ := manifestText_last s' l'
      obtain ⟨hheads, hshape⟩ := cut_line (heq.trans htext)
      obtain ⟨rfl, rfl, rfl⟩ | ⟨-, rest, rfl⟩ := hcases
      · obtain ⟨hn, hd⟩ := Delimited.cut_only hheads hname hdtype (toList_ne_nil t.name_ne)
          (toList_ne_nil t.dtype_ne)
        rw [ParamSpec.ext (String.toList_inj.mp hn) (String.toList_inj.mp hd) hshape]
      · -- a second line would make a second cut of the only one
        obtain ⟨hfront, -⟩ := Delimited.cut_only hheads hname hdtype (by simp)
          (toList_ne_nil t.dtype_ne)
        have hsplit : s.name.toList ++ SEP :: s.dtype.toList =
            s'.name.toList ++ SEP :: (rest ++ SEP :: t.dtype.toList) := by
          simpa using hheads
        obtain ⟨hname', -⟩ := Delimited.cut_only hsplit hname hdtype (toList_ne_nil s'.name_ne)
          (by simp)
        rw [hfront] at hname'
        simp at hname'

theorem exists_line (name dtype : List Char) (hname : name ≠ []) (hdtype : dtype ≠ [])
    (shape : List ℕ) : ∃ t : ParamSpec, t.name.toList = name ∧ t.dtype.toList = dtype ∧
      t.shape = shape := by
  refine ⟨⟨String.ofList name, String.ofList dtype, shape, ?_, ?_⟩, ?_⟩
  · simpa using hname
  · simpa using hdtype
  · simp

theorem dims_congr {s t : ParamSpec} (h : t.shape = s.shape) : t.dims = s.dims := by
  unfold ParamSpec.dims
  rw [h]

/-- Another cut of the first two fields of a line makes another line with the same text. -/
theorem exists_other_line {s : ParamSpec} (name dtype : List Char)
    (h : s.name.toList ++ SEP :: s.dtype.toList = name ++ SEP :: dtype) (hname : name ≠ [])
    (hdtype : dtype ≠ []) (hne : name ≠ s.name.toList) :
    ∃ t : ParamSpec, manifestText [s] = manifestText [t] ∧ [s] ≠ [t] := by
  obtain ⟨t, hn, hd, hs⟩ := exists_line name dtype hname hdtype s.shape
  refine ⟨t, ?_, fun heq => hne ?_⟩
  · have hline := congrArg (· ++ SEP :: (s.dims.toList ++ [LINE])) h
    rw [← String.toList_inj, manifestText_singleton, manifestText_singleton, hn, hd, dims_congr hs]
    simpa using hline
  · rw [← hn, (List.cons.inj heq).1]

/-- Every other manifest shares its text with a manifest of one line. -/
theorem exists_other_manifest {l : List ParamSpec} (h : ¬ ManifestDetermined l) :
    ∃ t : ParamSpec, manifestText l = manifestText [t] ∧ l ≠ [t] := by
  cases l with
  | nil => exact absurd (.inl rfl) h
  | cons s l =>
    obtain ⟨last, front, htext, hcases⟩ := manifestText_last s l
    obtain ⟨rfl, rfl, rfl⟩ | ⟨hne, rest, rfl⟩ := hcases
    · by_cases hname : SEP ∈ last.name.toList.tail
      · -- the name may end at a separator in it
        obtain ⟨c, cs, hcs⟩ := List.exists_cons_of_ne_nil (toList_ne_nil last.name_ne)
        rw [hcs, List.tail_cons] at hname
        obtain ⟨u, v, huv⟩ := List.append_of_mem hname
        refine exists_other_line (c :: u) (v ++ SEP :: last.dtype.toList) ?_
          (List.cons_ne_nil _ _) (by simp) ?_
        · simp [hcs, huv]
        · simp [hcs, huv]
      · -- or the dtype may begin behind a separator in it
        have hdtype : SEP ∈ last.dtype.toList.dropLast := by
          by_contra hdtype
          exact h (.inr ⟨last, rfl, hname, hdtype⟩)
        obtain ⟨u, v, huv⟩ := List.append_of_mem hdtype
        obtain ⟨c, hc⟩ : ∃ c, last.dtype.toList = last.dtype.toList.dropLast ++ [c] :=
          ⟨_, (List.dropLast_append_getLast (toList_ne_nil last.dtype_ne)).symm⟩
        rw [huv] at hc
        refine exists_other_line (last.name.toList ++ SEP :: u) (v ++ [c]) ?_
          (by simp) (by simp) (by simp)
        simp [hc]
    · -- all but the first name and the last dimensions can be one dtype
      obtain ⟨t, hn, hd, hs⟩ := exists_line s.name.toList (rest ++ SEP :: last.dtype.toList)
        (toList_ne_nil s.name_ne) (by simp) last.shape
      refine ⟨t, ?_, fun heq => hne (List.cons.inj heq).2⟩
      rw [← String.toList_inj, htext, manifestText_singleton, hn, hd, dims_congr hs]
      simp

end RolloutCore
