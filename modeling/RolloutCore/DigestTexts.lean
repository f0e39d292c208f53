import RolloutCore.DigestTiers
import RolloutCore.Lib.CodePoints

/-!
# Weight identities of any texts

`ParamSpec`, `WeightProvenance` and `from_param_specs` on texts of any code points. The
constructors accept a lone surrogate and the encoding of a text does not, so `from_param_specs`
may raise where no name is shared. On the other texts it is the function of `WeightDigest`, of
which the results on digests are.
-/

namespace RolloutCore

namespace Unicode

open Text (ofString)

structure ParamSpec where
  name : Text
  dtype : Text
  shape : List ℕ
  name_ne : name ≠ []
  dtype_ne : dtype ≠ []

structure WeightProvenance where
  checkpoint : Option Text
  runId : Option Text
  step : Option ℕ
  checkpoint_ne : checkpoint ≠ some []
  runId_ne : runId ≠ some []
  declared : checkpoint ≠ none ∨ runId ≠ none ∨ step ≠ none

structure WeightIdentity where
  digest : String
  numTensors : Option ℕ
  manifestDigest : Option String
  source : Option WeightProvenance
  digest_ok : digestOk digest = true
  manifest_ok : ∀ d ∈ manifestDigest, startsWith DIGEST_PREFIX d = true

/-- What `from_param_specs` raises. -/
inductive DigestError
  | identity (e : PyValueError)
  | encode (e : UnicodeEncodeError)

def sep : Text := ofString (String.singleton SEP)

def line : Text := ofString (String.singleton LINE)

def ParamSpec.canonical (s : ParamSpec) : Text :=
  s.name ++ sep ++ s.dtype ++ sep ++ ofString (",".intercalate (s.shape.map toString))

def WeightProvenance.parts (p : WeightProvenance) : List Text :=
  (p.checkpoint.map (ofString "checkpoint=" ++ ·)).toList ++
    (p.runId.map (ofString "run_id=" ++ ·)).toList ++
      (p.step.map fun n => ofString ("step=" ++ toString n)).toList

def WeightProvenance.canonical (p : WeightProvenance) : Text := sep.intercalate p.parts

/-- `hasher.update(text.encode("utf-8"))`, with `data` what the hasher was fed before. -/
def update (data : ByteArray) (text : Text) : Except DigestError ByteArray :=
  match text.encode with
  | .ok bytes => .ok (data ++ bytes)
  | .error e => .error (.encode e)

/-- The updates for one parameter. -/
def updateLine (data : ByteArray) (spec : ParamSpec) : Except DigestError ByteArray := do
  let data ← update data spec.canonical
  update data line

/-- What the hasher of a manifest is fed. -/
def manifestBytes (ordered : List ParamSpec) : Except DigestError ByteArray :=
  ordered.foldlM updateLine .empty

/-- What the hasher of a declared source is fed. -/
def sourceBytes (source : WeightProvenance) (manifestDigest : String) :
    Except DigestError ByteArray := do
  let data ← update .empty source.canonical
  let data ← update data line
  let data ← update data (ofString manifestDigest)
  update data line

/-- `sorted(specs, key=lambda s: s.name)`. -/
def sortByName (specs : List ParamSpec) : List ParamSpec :=
  specs.insertionSort fun s t => s.name ≤ t.name

/-- Compute an identity from a parameter manifest, plus an optional source. -/
def WeightIdentity.fromParamSpecs (H : Sha256) (specs : List ParamSpec)
    (source : Option WeightProvenance) : Except DigestError WeightIdentity := do
  let ordered := sortByName specs
  if ¬ (ordered.map (·.name)).Nodup then
    throw (.identity (.weightIdentity "duplicate parameter names in manifest"))
  let data ← manifestBytes ordered
  let manifest := DIGEST_PREFIX ++ H.hexdigest data
  have manifest_ok : ∀ d ∈ some manifest, startsWith DIGEST_PREFIX d = true := by
    intro d hd
    rw [← Option.mem_some.mp hd]
    exact startsWith_append _ _
  match source with
  | none =>
    return ⟨manifest, some ordered.length, some manifest, none, H.digest_ok _, manifest_ok⟩
  | some p =>
    let combined ← sourceBytes p manifest
    return ⟨DIGEST_PREFIX ++ H.hexdigest combined, some ordered.length, some manifest, some p,
      H.digest_ok _, manifest_ok⟩

/-! ## Encodable texts -/

def ParamSpec.Encodable (s : ParamSpec) : Prop := s.name.Encodable ∧ s.dtype.Encodable

def WeightProvenance.Encodable (p : WeightProvenance) : Prop :=
  (∀ c ∈ p.checkpoint, c.Encodable) ∧ ∀ r ∈ p.runId, r.Encodable

/-- No text of the parameters or of the source has a surrogate. -/
def Encodable (specs : List ParamSpec) (source : Option WeightProvenance) : Prop :=
  (∀ s ∈ specs, s.Encodable) ∧ ∀ p ∈ source, p.Encodable

theorem ParamSpec.encodable_canonical {s : ParamSpec} : s.canonical.Encodable ↔ s.Encodable := by
  unfold canonical Encodable sep
  simp only [Text.encodable_append, Text.encodable_ofString, and_true]

theorem WeightProvenance.encodable_canonical {p : WeightProvenance} :
    p.canonical.Encodable ↔ p.Encodable := by
  unfold canonical parts Encodable sep
  cases p.checkpoint <;> cases p.runId <;> cases p.step <;>
    simp [List.intercalate, Text.encodable_append, Text.encodable_ofString, Text.encodable_nil]

/-! ## What the hashers are fed -/

theorem update_ofString (data : ByteArray) (s : String) :
    update data (ofString s) = .ok (data ++ s.toUTF8) := by
  unfold update
  rw [Text.encode_ofString]

theorem update_eq_ok (data : ByteArray) {t : Text} (h : t.Encodable) :
    ∃ data', update data t = .ok data' := by
  obtain ⟨bytes, hbytes⟩ := Text.encode_eq_ok h
  exact ⟨data ++ bytes, by rw [update, hbytes]⟩

theorem update_eq_error (data : ByteArray) {t : Text} (h : ¬ t.Encodable) :
    ∃ e, update data t = .error (.encode e) := by
  obtain ⟨e, he⟩ := Text.encode_eq_error h
  exact ⟨e, by rw [update, he]⟩

theorem updateLine_eq_ok (data : ByteArray) {s : ParamSpec} (h : s.Encodable) :
    ∃ data', updateLine data s = .ok data' := by
  obtain ⟨named, hnamed⟩ := update_eq_ok data (ParamSpec.encodable_canonical.mpr h)
  refine ⟨named ++ (String.singleton LINE).toUTF8, ?_⟩
  unfold updateLine
  rw [hnamed]
  exact update_ofString named (String.singleton LINE)

theorem updateLine_eq_error (data : ByteArray) {s : ParamSpec} (h : ¬ s.Encodable) :
    ∃ e, updateLine data s = .error (.encode e) := by
  obtain ⟨e, he⟩ := update_eq_error data (ParamSpec.encodable_canonical.not.mpr h)
  exact ⟨e, by rw [updateLine, he]; rfl⟩

/-- The lines of a manifest are hashed if their texts are encodable, and refused otherwise. -/
theorem manifestBytes_cases (l : List ParamSpec) :
    (∀ s ∈ l, s.Encodable) ∧ (∃ data, manifestBytes l = .ok data) ∨
      ¬ (∀ s ∈ l, s.Encodable) ∧ ∃ e, manifestBytes l = .error (.encode e) := by
  unfold manifestBytes
  generalize ByteArray.empty = data
  induction l generalizing data with
  | nil => exact .inl ⟨by simp, data, rfl⟩
  | cons s l ih =>
    rw [List.foldlM_cons, List.forall_mem_cons]
    by_cases hs : s.Encodable
    · obtain ⟨data', hdata⟩ := updateLine_eq_ok data hs
      rw [hdata]
      exact (ih data').imp (fun h => ⟨⟨hs, h.1⟩, h.2⟩) fun h => ⟨fun hall => h.1 hall.2, h.2⟩
    · obtain ⟨e, he⟩ := updateLine_eq_error data hs
      rw [he]
      exact .inr ⟨fun hall => hs hall.1, e, rfl⟩

theorem sourceBytes_cases (p : WeightProvenance) (d : String) :
    p.Encodable ∧ (∃ data, sourceBytes p d = .ok data) ∨
      ¬ p.Encodable ∧ ∃ e, sourceBytes p d = .error (.encode e) := by
  unfold sourceBytes
  by_cases hp : p.Encodable
  · obtain ⟨data, hdata⟩ := update_eq_ok .empty (WeightProvenance.encodable_canonical.mpr hp)
    refine .inl ⟨hp, ?_⟩
    simp only [line, hdata, update_ofString, bind, Except.bind]
    exact ⟨_, rfl⟩
  · obtain ⟨e, he⟩ := update_eq_error .empty (WeightProvenance.encodable_canonical.not.mpr hp)
    rw [he]
    exact .inr ⟨hp, e, rfl⟩

/-! ## What the function returns -/

/-- Two of the parameters have one name. -/
def SharesName (l : List ParamSpec) : Prop :=
  ∃ (i j : ℕ) (s t : ParamSpec), i < j ∧ l[i]? = some s ∧ l[j]? = some t ∧ s.name = t.name

theorem sharesName_iff {l : List ParamSpec} : SharesName l ↔ ¬ (l.map (·.name)).Nodup := by
  rw [List.nodup_iff_getElem?_ne_getElem?]
  push Not
  constructor
  · rintro ⟨i, j, s, t, hij, hs, ht, hname⟩
    refine ⟨i, j, hij, ?_, ?_⟩
    · rw [List.length_map]
      exact (List.getElem?_eq_some_iff.mp ht).1
    · rw [List.getElem?_map, List.getElem?_map, hs, ht, Option.map_some, Option.map_some, hname]
  · rintro ⟨i, j, hij, hj, hname⟩
    rw [List.length_map] at hj
    rw [List.getElem?_map, List.getElem?_map, List.getElem?_eq_getElem hj,
      List.getElem?_eq_getElem (hij.trans hj)] at hname
    exact ⟨i, j, _, _, hij, List.getElem?_eq_getElem _, List.getElem?_eq_getElem _,
      Option.some.inj hname⟩

theorem sortByName_perm (l : List ParamSpec) : (sortByName l).Perm l :=
  List.perm_insertionSort _ l

/-- What `from_param_specs` returns, and when it raises. -/
theorem fromParamSpecs_cases (H : Sha256) (l : List ParamSpec)
    (source : Option WeightProvenance) :
    (SharesName l ∧ WeightIdentity.fromParamSpecs H l source =
      .error (.identity (.weightIdentity "duplicate parameter names in manifest"))) ∨
    (¬ SharesName l ∧ ¬ Encodable l source ∧
      ∃ e, WeightIdentity.fromParamSpecs H l source = .error (.encode e)) ∨
    (¬ SharesName l ∧ Encodable l source ∧
      ∃ data i, manifestBytes (sortByName l) = .ok data ∧
        WeightIdentity.fromParamSpecs H l source = .ok i ∧
        i.manifestDigest = some (DIGEST_PREFIX ++ H.hexdigest data) ∧
        i.numTensors = some l.length ∧ i.source = source) := by
  have hsorted : ((sortByName l).map (·.name)).Nodup ↔ (l.map (·.name)).Nodup :=
    ((sortByName_perm l).map _).nodup_iff
  have hmem : (∀ s ∈ sortByName l, s.Encodable) ↔ ∀ s ∈ l, s.Encodable := by
    simp only [(sortByName_perm l).mem_iff]
  have hlength : (sortByName l).length = l.length := (sortByName_perm l).length_eq
  rw [sharesName_iff, not_not, ← hsorted]
  unfold WeightIdentity.fromParamSpecs Encodable
  by_cases hnodup : ((sortByName l).map (·.name)).Nodup
  · rw [if_neg (not_not_intro hnodup), ← hlength, ← hmem]
    obtain ⟨henc, data, hdata⟩ | ⟨hnot, e, he⟩ := manifestBytes_cases (sortByName l)
    · rw [hdata]
      cases source with
      | none => exact .inr (.inr ⟨hnodup, ⟨henc, by simp⟩, data, _, rfl, rfl, rfl, rfl, rfl⟩)
      | some p =>
        obtain ⟨hp, combined, hcombined⟩ | ⟨hp, e, he⟩ :=
          sourceBytes_cases p (DIGEST_PREFIX ++ H.hexdigest data)
        · refine .inr (.inr ⟨hnodup, ⟨henc, by simpa using hp⟩, data, ?_⟩)
          simp only [bind, Except.bind, hcombined]
          exact ⟨_, trivial, rfl, rfl, rfl, rfl⟩
        · refine .inr (.inl ⟨hnodup, fun h => hp (by simpa using h.2), e, ?_⟩)
          simp only [bind, Except.bind, he]
    · rw [he]
      exact .inr (.inl ⟨hnodup, fun h => hnot h.1, e, rfl⟩)
  · rw [if_pos hnodup]
    exact .inl ⟨hnodup, rfl⟩

theorem fromParamSpecs_of_sharesName (H : Sha256) {l : List ParamSpec} (h : SharesName l)
    (source : Option WeightProvenance) : WeightIdentity.fromParamSpecs H l source =
      .error (.identity (.weightIdentity "duplicate parameter names in manifest")) := by
  obtain ⟨-, herror⟩ | ⟨hnot, -⟩ | ⟨hnot, -⟩ := fromParamSpecs_cases H l source
  · exact herror
  · exact absurd h hnot
  · exact absurd h hnot

/-! ## The texts of strings -/

theorem ofString_ne_nil {s : String} (h : s ≠ "") : ofString s ≠ [] :=
  Text.ofString_eq_nil.not.mpr h

theorem map_ofString_ne {o : Option String} (h : o ≠ some "") : o.map ofString ≠ some [] := by
  intro ho
  obtain ⟨s, rfl, hs⟩ := Option.map_eq_some_iff.mp ho
  rw [Text.ofString_eq_nil.mp hs] at h
  exact h rfl

def ParamSpec.ofStrings (s : RolloutCore.ParamSpec) : ParamSpec :=
  ⟨ofString s.name, ofString s.dtype, s.shape, ofString_ne_nil s.name_ne,
    ofString_ne_nil s.dtype_ne⟩

def WeightProvenance.ofStrings (p : RolloutCore.WeightProvenance) : WeightProvenance :=
  ⟨p.checkpoint.map ofString, p.runId.map ofString, p.step, map_ofString_ne p.checkpoint_ne,
    map_ofString_ne p.runId_ne, by simpa using p.declared⟩

def WeightIdentity.ofStrings (i : RolloutCore.WeightIdentity) : WeightIdentity :=
  ⟨i.digest, i.numTensors, i.manifestDigest, i.source.map .ofStrings, i.digest_ok, i.manifest_ok⟩

theorem ParamSpec.canonical_ofStrings (s : RolloutCore.ParamSpec) :
    (ofStrings s).canonical = ofString s.canonical := by
  have hline : s.canonical = s.name ++ String.singleton SEP ++ s.dtype ++
    String.singleton SEP ++ s.dims := rfl
  rw [hline]
  simp only [Text.ofString_append]
  rfl

theorem WeightProvenance.canonical_ofStrings (p : RolloutCore.WeightProvenance) :
    (ofStrings p).canonical = ofString p.canonical := by
  have hparts : (ofStrings p).parts = p.parts.map ofString := by
    obtain ⟨c, r, n, _, _, _⟩ := p
    unfold parts ofStrings RolloutCore.WeightProvenance.parts
    cases c <;> cases r <;> cases n <;> simp [Text.ofString_append]
  rw [canonical, hparts, RolloutCore.WeightProvenance.canonical, Text.ofString_intercalate]
  rfl

theorem sortByName_ofStrings (l : List RolloutCore.ParamSpec) :
    sortByName (l.map .ofStrings) = (RolloutCore.sortByName l).map .ofStrings :=
  (List.map_insertionSort (fun s t : RolloutCore.ParamSpec => s.name ≤ t.name)
    (fun s t : ParamSpec => s.name ≤ t.name) ParamSpec.ofStrings l
    fun _ _ _ _ => Text.ofString_le.symm).symm

theorem updateLine_ofStrings (data : ByteArray) (s : RolloutCore.ParamSpec) :
    updateLine data (.ofStrings s) =
      .ok (data ++ s.canonical.toUTF8 ++ (String.singleton LINE).toUTF8) := by
  unfold updateLine
  rw [ParamSpec.canonical_ofStrings, update_ofString]
  exact update_ofString _ (String.singleton LINE)

theorem manifestBytes_ofStrings (l : List RolloutCore.ParamSpec) :
    manifestBytes (l.map .ofStrings) = .ok (manifestText l).toUTF8 := by
  have hfold : ∀ data, (l.map ParamSpec.ofStrings).foldlM updateLine data =
      .ok (data ++ (manifestText l).toUTF8) := by
    induction l with
    | nil => exact fun data => congrArg Except.ok ByteArray.append_empty.symm
    | cons s l ih =>
      intro data
      have htext : (manifestText (s :: l)).toUTF8 =
          s.canonical.toUTF8 ++ (String.singleton LINE).toUTF8 ++ (manifestText l).toUTF8 := by
        unfold manifestText
        rw [List.map_cons, String.join_cons]
        simp only [String.toUTF8_eq_toByteArray, String.toByteArray_append]
      rw [List.map_cons, List.foldlM_cons, updateLine_ofStrings]
      show List.foldlM updateLine _ _ = _
      rw [ih, htext, ByteArray.append_assoc, ByteArray.append_assoc, ByteArray.append_assoc]
  exact (hfold .empty).trans (by rw [ByteArray.empty_append])

theorem sourceBytes_ofStrings (p : RolloutCore.WeightProvenance) (d : String) :
    sourceBytes (.ofStrings p) d = .ok (sourceText p d).toUTF8 := by
  unfold sourceBytes sourceText line
  simp only [WeightProvenance.canonical_ofStrings, update_ofString, bind, Except.bind,
    String.toUTF8_eq_toByteArray, String.toByteArray_append, ByteArray.empty_append]

/-- On encodable texts the function is that of `WeightDigest`. -/
theorem fromParamSpecs_ofStrings (H : Sha256) (specs : List RolloutCore.ParamSpec)
    (source : Option RolloutCore.WeightProvenance) :
    WeightIdentity.fromParamSpecs H (specs.map .ofStrings) (source.map .ofStrings) =
      ((RolloutCore.WeightIdentity.fromParamSpecs H specs source).map .ofStrings).mapError
        .identity := by
  have hnames : ((sortByName (specs.map .ofStrings)).map (·.name)).Nodup ↔
      ((RolloutCore.sortByName specs).map (·.name)).Nodup := by
    rw [sortByName_ofStrings, ← List.nodup_map_iff Text.ofString_injective, List.map_map,
      List.map_map]
    rfl
  unfold WeightIdentity.fromParamSpecs RolloutCore.WeightIdentity.fromParamSpecs
  by_cases hnodup : ((RolloutCore.sortByName specs).map (·.name)).Nodup
  · rw [if_neg (not_not_intro (hnames.mpr hnodup)), if_neg (not_not_intro hnodup),
      sortByName_ofStrings, manifestBytes_ofStrings, ← List.length_map ParamSpec.ofStrings]
    cases source with
    | none => rfl
    | some p =>
      simp only [Option.map_some, bind, Except.bind]
      rw [sourceBytes_ofStrings]
      rfl
  · rw [if_pos (hnames.not.mpr hnodup), if_pos hnodup]
    rfl

theorem encodable_map_ofString (o : Option String) : ∀ t ∈ o.map ofString, t.Encodable := by
  intro t ht
  obtain ⟨s, -, rfl⟩ := Option.map_eq_some_iff.mp ht
  exact Text.encodable_ofString s

/-- Strings have no surrogates. -/
theorem encodable_ofStrings (specs : List RolloutCore.ParamSpec)
    (source : Option RolloutCore.WeightProvenance) :
    Encodable (specs.map .ofStrings) (source.map .ofStrings) := by
  constructor
  · intro s hs
    obtain ⟨s', -, rfl⟩ := List.mem_map.mp hs
    exact ⟨Text.encodable_ofString _, Text.encodable_ofString _⟩
  · intro p hp
    obtain ⟨p', -, rfl⟩ := Option.map_eq_some_iff.mp hp
    exact ⟨encodable_map_ofString _, encodable_map_ofString _⟩

theorem ParamSpec.exists_ofStrings {s : ParamSpec} (h : s.Encodable) : ∃ s', ofStrings s' = s := by
  obtain ⟨name, dtype, shape, hname, hdtype⟩ := s
  obtain ⟨n, rfl⟩ := Text.exists_ofString h.1
  obtain ⟨d, rfl⟩ := Text.exists_ofString h.2
  exact ⟨⟨n, d, shape, Text.ofString_eq_nil.not.mp hname, Text.ofString_eq_nil.not.mp hdtype⟩, rfl⟩

theorem exists_map_ofString {o : Option Text} (h : ∀ t ∈ o, t.Encodable) (hne : o ≠ some []) :
    ∃ o' : Option String, o'.map ofString = o ∧ o' ≠ some "" := by
  cases o with
  | none => exact ⟨none, rfl, by simp⟩
  | some t =>
    obtain ⟨s, rfl⟩ := Text.exists_ofString (h t rfl)
    exact ⟨some s, rfl, fun hs => hne (by simpa [Text.ofString_eq_nil] using hs)⟩

theorem WeightProvenance.exists_ofStrings {p : WeightProvenance} (h : p.Encodable) :
    ∃ p', ofStrings p' = p := by
  obtain ⟨checkpoint, runId, step, hcheckpoint, hrunId, hdeclared⟩ := p
  obtain ⟨c, rfl, hc⟩ := exists_map_ofString h.1 hcheckpoint
  obtain ⟨r, rfl, hr⟩ := exists_map_ofString h.2 hrunId
  exact ⟨⟨c, r, step, hc, hr, by simpa using hdeclared⟩, rfl⟩

/-- **Every identity is one of `WeightDigest`.** Where the function returns, its parameters and its
source are those of strings, and its identity is the one computed from them. -/
theorem identity_of_strings {H : Sha256} {l : List ParamSpec} {source : Option WeightProvenance}
    {i : WeightIdentity} (h : WeightIdentity.fromParamSpecs H l source = .ok i) :
    ∃ (x : DeclaredWeights) (j : RolloutCore.WeightIdentity), l = x.specs.map .ofStrings ∧
      source = x.source.map .ofStrings ∧ x.identity H = .ok j ∧ i = .ofStrings j := by
  obtain ⟨-, he⟩ | ⟨-, -, e, he⟩ | ⟨-, ⟨hspecs, hsource⟩, -⟩ := fromParamSpecs_cases H l source
  · rw [h] at he
    cases he
  · rw [h] at he
    cases he
  · have hl : l ∈ Set.range (List.map ParamSpec.ofStrings) := by
      rw [Set.range_list_map]
      exact fun s hs => ParamSpec.exists_ofStrings (hspecs s hs)
    have hp : ∃ p : Option RolloutCore.WeightProvenance, p.map .ofStrings = source := by
      cases source with
      | none => exact ⟨none, rfl⟩
      | some p =>
        obtain ⟨p', rfl⟩ := WeightProvenance.exists_ofStrings (hsource p rfl)
        exact ⟨some p', rfl⟩
    obtain ⟨specs, rfl⟩ := hl
    obtain ⟨p, rfl⟩ := hp
    rw [fromParamSpecs_ofStrings] at h
    cases hj : RolloutCore.WeightIdentity.fromParamSpecs H specs p with
    | error e =>
      rw [hj] at h
      cases h
    | ok j =>
      rw [hj] at h
      exact ⟨⟨specs, p⟩, j, rfl, rfl, hj, (Except.ok.inj h).symm⟩

/-! ## The order of the parameters -/

/-- Sorting by a key is a canonical form of the lists whose keys are distinct. -/
theorem insertionSort_key_eq {α β : Type*} [LinearOrder β] {key : α → β} {l l' : List α}
    (hperm : l.Perm l') (hnodup : (l.map key).Nodup) :
    l.insertionSort (fun a b => key a ≤ key b) = l'.insertionSort fun a b => key a ≤ key b := by
  have htotal : Std.Total fun a b : α => key a ≤ key b := ⟨fun a b => le_total (key a) (key b)⟩
  have htrans : IsTrans α fun a b : α => key a ≤ key b := ⟨fun a b c => le_trans⟩
  refine List.Perm.eq_of_pairwise (fun a b ha hb hab hba => ?_)
    (List.pairwise_insertionSort (fun a b => key a ≤ key b) l)
    (List.pairwise_insertionSort (fun a b => key a ≤ key b) l') ?_
  · have ha' : a ∈ l := (List.mem_insertionSort _).mp ha
    have hb' : b ∈ l := hperm.mem_iff.mpr ((List.mem_insertionSort _).mp hb)
    exact List.inj_on_of_nodup_map hnodup ha' hb' (le_antisymm hab hba)
  · exact (List.perm_insertionSort _ l).trans (hperm.trans (List.perm_insertionSort _ l').symm)

theorem sortByName_eq_of_perm {l l' : List ParamSpec} (hperm : l.Perm l')
    (hnodup : (l.map (·.name)).Nodup) : sortByName l = sortByName l' :=
  insertionSort_key_eq hperm hnodup

/-- A permutation of the parameters is called with the same result. -/
theorem fromParamSpecs_eq_of_perm (H : Sha256) {l l' : List ParamSpec} (hperm : l.Perm l')
    (source : Option WeightProvenance) :
    WeightIdentity.fromParamSpecs H l source = WeightIdentity.fromParamSpecs H l' source := by
  by_cases hnodup : (l.map (·.name)).Nodup
  · unfold WeightIdentity.fromParamSpecs
    rw [sortByName_eq_of_perm hperm hnodup]
  · have hnodup' : ¬ (l'.map (·.name)).Nodup := fun h => hnodup ((hperm.map _).nodup_iff.mpr h)
    rw [fromParamSpecs_of_sharesName H (sharesName_iff.mpr hnodup),
      fromParamSpecs_of_sharesName H (sharesName_iff.mpr hnodup')]

/-- **The order of enumeration is irrelevant.** A permutation of the parameters gives the same
identity or the same error. The error is one of the identity exactly if two parameters have one
name, and otherwise one of the encoding exactly if a text of the parameters or of the source has a
surrogate. An identity counts the parameters, names the source, and has the manifest digest that
any other source gives. -/
theorem enumeration_order_irrelevant (H : Sha256) (l l' : List ParamSpec) (hperm : l.Perm l')
    (source : Option WeightProvenance) :
    WeightIdentity.fromParamSpecs H l source = WeightIdentity.fromParamSpecs H l' source ∧
    ((∃ m, WeightIdentity.fromParamSpecs H l source =
      .error (.identity (.weightIdentity m))) ↔ SharesName l) ∧
    ((∃ e, WeightIdentity.fromParamSpecs H l source = .error (.encode e)) ↔
      ¬ SharesName l ∧ ¬ Encodable l source) ∧
    (¬ SharesName l → Encodable l source →
      ∃ i, WeightIdentity.fromParamSpecs H l source = .ok i ∧
        WeightIdentity.fromParamSpecs H l' source = .ok i ∧
        i.numTensors = some l.length ∧ i.source = source ∧
        ∀ other k, WeightIdentity.fromParamSpecs H l other = .ok k →
          k.manifestDigest = i.manifestDigest) := by
  rw [← fromParamSpecs_eq_of_perm H hperm source]
  refine ⟨rfl, ?_⟩
  obtain ⟨hshares, h⟩ | ⟨hnot, henc, e, h⟩ | ⟨hnot, henc, data, i, hdata, h, hmanifest, hcount,
      hsource⟩ := fromParamSpecs_cases H l source
  · rw [h]
    exact ⟨by simp [hshares], by simp [hshares], fun hnot => absurd hshares hnot⟩
  · rw [h]
    exact ⟨by simp [hnot], by simp [hnot, henc], fun _ h => absurd h henc⟩
  · rw [h]
    refine ⟨by simp [hnot], by simp [henc], fun _ _ => ⟨i, rfl, rfl, hcount, hsource, ?_⟩⟩
    intro other k hk
    obtain ⟨hshares, -⟩ | ⟨-, -, e, he⟩ | ⟨-, -, data', k', hdata', hk', hmanifest', -⟩ :=
      fromParamSpecs_cases H l other
    · exact absurd hshares hnot
    · rw [hk] at he
      cases he
    · obtain rfl := Except.ok.inj (hk.symm.trans hk')
      obtain rfl := Except.ok.inj (hdata.symm.trans hdata')
      rw [hmanifest, hmanifest']

/-- Two parameters in both orders. -/
theorem enumeration_order_irrelevant_two : ∃ i,
    WeightIdentity.fromParamSpecs tierHash ([sampleSpec, sampleBias].map .ofStrings)
      ((some sampleSource).map .ofStrings) = .ok i ∧
    WeightIdentity.fromParamSpecs tierHash ([sampleBias, sampleSpec].map .ofStrings)
      ((some sampleSource).map .ofStrings) = .ok i ∧
    i.numTensors = some 2 := by
  have hnot : ¬ SharesName ([sampleSpec, sampleBias].map .ofStrings) := by
    rw [sharesName_iff]
    decide
  obtain ⟨i, hi, hj, hcount, -⟩ :=
    (enumeration_order_irrelevant tierHash _ _ (.swap _ _ _) _).2.2.2 hnot
      (encodable_ofStrings [sampleSpec, sampleBias] (some sampleSource))
  exact ⟨i, hi, hj, hcount⟩

/-- A name with a lone surrogate in it. -/
def surrogateSpec : ParamSpec where
  name := ofString "layer" ++ [0xd800]
  dtype := ofString "f32"
  shape := []
  name_ne := by decide
  dtype_ne := by decide

/-- No name is shared, and there is no identity: the name cannot be encoded. -/
theorem surrogate_refused :
    (∀ H : Sha256, WeightIdentity.fromParamSpecs H [surrogateSpec] none =
      .error (.encode ⟨surrogateSpec.canonical, 5, 6⟩)) ∧
    ¬ ∀ (H : Sha256) (l l' : List ParamSpec), l.Perm l' → ∀ source, ¬ SharesName l →
      ∃ i j, WeightIdentity.fromParamSpecs H l source = .ok i ∧
        WeightIdentity.fromParamSpecs H l' source = .ok j ∧ i.digest = j.digest := by
  have hraises : ∀ H : Sha256, WeightIdentity.fromParamSpecs H [surrogateSpec] none =
      .error (.encode ⟨surrogateSpec.canonical, 5, 6⟩) := fun _ => rfl
  refine ⟨hraises, fun h => ?_⟩
  have hnot : ¬ SharesName [surrogateSpec] := by
    rw [sharesName_iff]
    exact not_not_intro (List.nodup_singleton _)
  obtain ⟨i, -, hi, -⟩ := h tierHash [surrogateSpec] [surrogateSpec] (.refl _) none hnot
  rw [hraises] at hi
  cases hi

end Unicode

end RolloutCore
