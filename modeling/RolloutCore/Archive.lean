import RolloutCore.LabelCodec
import RolloutCore.Trajectory

/-!
# The trajectory archive

`to_json` and `from_json`, and the JSONL files of `TrajectoryRecorder`. Decoding rebuilds the
identity with its provenance and passes every value through its constructor again.
-/

namespace RolloutCore

open Json

/-! ## Encoding -/

def provenanceToJson (p : WeightProvenance) : Json :=
  .obj [("checkpoint", ofOption .str p.checkpoint), ("run_id", ofOption .str p.runId),
    ("step", ofOption (fun n : ℕ => .int n) p.step)]

def identityToJson (i : WeightIdentity) : Json :=
  .obj [("digest", .str i.digest), ("manifest_digest", ofOption .str i.manifestDigest),
    ("num_tensors", ofOption (fun n : ℕ => .int n) i.numTensors),
    ("source", ofOption provenanceToJson i.source)]

def Trajectory.toJson (t : Trajectory) : Json :=
  .obj [("request_id", .str t.requestId), ("version", .str t.version),
    ("identity", identityToJson t.identity), ("exactness", .str t.exactness),
    ("replay_ready", .bool t.replayReady), ("cache_salt", .str t.cacheSalt),
    ("admitted_seq", .int t.binding.admittedSeq), ("prompt", .str t.prompt), ("text", .str t.text),
    ("token_ids", .arr (t.tokenIds.map .int)), ("logprobs", .arr (t.logprobs.map .float)),
    ("finish_reason", ofOption .str t.finishReason), ("seconds", ofOption .float t.seconds),
    ("engine_version_at_admission", ofOption .str t.engineVersionAtAdmission),
    ("engine_version_at_completion", ofOption .str t.engineVersionAtCompletion)]

/-! ## Decoding -/

section

variable (C : JsonCodec)

def weightIdentityError (message : String) : ArchiveError :=
  .raised (.valueError (.weightIdentity message))

/-- The check of `checkpoint` and `run_id`. -/
def declaredName (field : String) : Json → Except ArchiveError { o : Option String // o ≠ some "" }
  | .null => .ok ⟨none, nofun⟩
  | .str s =>
    if h : s = "" then
      .error (weightIdentityError s!"weight provenance {field} must be a non-empty string")
    else .ok ⟨some s, fun hs => h (Option.some.inj hs)⟩
  | _ => .error (weightIdentityError s!"weight provenance {field} must be a non-empty string")

/-- The check of `step`. -/
def declaredStep : Json → Except ArchiveError (Option ℕ)
  | .null => .ok none
  | .int n =>
    if n < 0 then .error (weightIdentityError "weight provenance step must be a non-negative int")
    else .ok (some n.toNat)
  | _ => .error (weightIdentityError "weight provenance step must be a non-negative int")

/-- `WeightProvenance(checkpoint=…, run_id=…, step=…)`. -/
def WeightProvenance.make (checkpoint runId step : Json) :
    Except ArchiveError WeightProvenance := do
  let checkpoint ← declaredName "checkpoint" checkpoint
  let runId ← declaredName "run_id" runId
  let step ← declaredStep step
  if h : checkpoint.1 ≠ none ∨ runId.1 ≠ none ∨ step ≠ none then
    return ⟨checkpoint.1, runId.1, step, checkpoint.2, runId.2, h⟩
  else
    throw (weightIdentityError ("weight provenance must declare at least one of checkpoint, " ++
      "run_id or step; an empty provenance is a manifest-only identity in disguise"))

/-- `WeightProvenance(**source)`. -/
def provenanceFromJson : Json → Except ArchiveError WeightProvenance
  | .obj fields =>
    match fields.find? fun p => p.1 ∉ ["checkpoint", "run_id", "step"] with
    | some p => .error (.raised (typeError
        s!"WeightProvenance.__init__() got an unexpected keyword argument '{p.1}'"))
    | none => WeightProvenance.make (lookup fields "checkpoint") (lookup fields "run_id")
        (lookup fields "step")
  | v => .error (.raised (typeError ("rolloutcore.versions.WeightProvenance() argument after ** " ++
      s!"must be a mapping, not {v.className}")))

def sourceFromJson : Json → Except ArchiveError (Option WeightProvenance)
  | .null => .ok none
  | v => some <$> provenanceFromJson v

/-- The check of `num_tensors`. -/
def tensorCount : Json → Except ArchiveError (Option ℕ)
  | .null => .ok none
  | .int n =>
    if n < 0 then .error (weightIdentityError "num_tensors must be >= 0") else .ok (some n.toNat)
  | .float x =>
    if x.lt (.fin 0) then .error (weightIdentityError "num_tensors must be >= 0")
    else .error (.untyped "num_tensors")
  | .bool _ => .error (.untyped "num_tensors")
  | v => .error (.raised (typeError
      s!"'<' not supported between instances of '{v.className}' and 'int'"))

/-- The check of `manifest_digest`. -/
def manifestDigestOf :
    Json → Except ArchiveError { o : Option String // ∀ d ∈ o, startsWith DIGEST_PREFIX d = true }
  | .null => .ok ⟨none, WeightIdentity.manifest_ok_none⟩
  | .str s =>
    if h : startsWith DIGEST_PREFIX s = true then .ok ⟨some s, by simpa using h⟩
    else .error (weightIdentityError "manifest_digest must start with the digest prefix")
  | v => .error (.raised (attributeError s!"'{v.className}' object has no attribute 'startswith'"))

/-- `WeightIdentity(…)`. -/
def WeightIdentity.make (digest : String) (numTensors manifestDigest : Json)
    (source : Option WeightProvenance) : Except ArchiveError WeightIdentity :=
  if hdigest : digestOk digest = true then do
    let numTensors ← tensorCount numTensors
    let manifestDigest ← manifestDigestOf manifestDigest
    return ⟨digest, numTensors, manifestDigest.1, source, hdigest, manifestDigest.2⟩
  else if !startsWith DIGEST_PREFIX digest then
    .error (weightIdentityError (s!"weight identity digest must start with " ++
      s!"{pyRepr DIGEST_PREFIX}, got {pyRepr digest}"))
  else
    .error (weightIdentityError (s!"weight identity digest must be 64 lowercase hex chars, " ++
      s!"got {pyRepr digest}"))

/-- Rebuild an identity with its provenance. -/
def identityFromJson (data : Json) : Except ArchiveError WeightIdentity := do
  let source ← data.getOr "source" .null
  let digest := strOf C (← data.item "digest")
  let manifestDigest ← data.getOr "manifest_digest" .null
  let numTensors ← data.getOr "num_tensors" .null
  WeightIdentity.make digest numTensors manifestDigest (← sourceFromJson source)

/-- A sequence number read back; `int` lets a negative one through, and the binding does too. -/
def admittedSeqOf (n : ℤ) : Except ArchiveError ℕ :=
  if n < 0 then .error (.untyped "admitted_seq") else .ok n.toNat

def bindingFromJson (data : Json) : Except ArchiveError RolloutBinding := do
  let requestId := strOf C (← data.item "request_id")
  let version ← (WeightVersion.parseLabel (strOf C (← data.item "version"))).mapError
    fun e => ArchiveError.raised (.valueError e)
  let identity ← identityFromJson C (← dictOf (← data.item "identity"))
  let cacheSalt := strOf C (← data.item "cache_salt")
  let admittedSeq ← admittedSeqOf (← intOf C (← data.item "admitted_seq"))
  return ⟨requestId, version, identity, cacheSalt, admittedSeq⟩

def Trajectory.fromJson (data : Json) : Except ArchiveError Trajectory := do
  let binding ← bindingFromJson C data
  let prompt := strOf C (← data.item "prompt")
  let text := strOf C (← data.item "text")
  let tokenIds ← (← data.getOr "token_ids" (.arr [])).tupleOf (intOf C)
  let logprobs ← (← data.getOr "logprobs" (.arr [])).tupleOf (floatOf C)
  let finishReason ← data.getOr "finish_reason" .null
  let seconds ← data.getOr "seconds" .null
  let admission ← data.getOr "engine_version_at_admission" .null
  let completion ← data.getOr "engine_version_at_completion" .null
  Trajectory.make binding prompt text tokenIds logprobs finishReason seconds admission completion

end

/-! ## Decoding what was encoded -/

theorem declaredName_ofOption (field : String) {o : Option String} (h : o ≠ some "") :
    declaredName field (ofOption .str o) = .ok ⟨o, h⟩ := by
  cases o with
  | none => rfl
  | some s =>
    have hs : s ≠ "" := fun hs => h (congrArg some hs)
    exact dif_neg hs

theorem declaredStep_ofOption (o : Option ℕ) :
    declaredStep (ofOption (fun n : ℕ => .int n) o) = .ok o := by
  cases o with
  | none => rfl
  | some n => simp [declaredStep, ofOption]

theorem tensorCount_ofOption (o : Option ℕ) :
    tensorCount (ofOption (fun n : ℕ => .int n) o) = .ok o := by
  cases o with
  | none => rfl
  | some n => simp [tensorCount, ofOption]

theorem manifestDigestOf_ofOption {o : Option String}
    (h : ∀ d ∈ o, startsWith DIGEST_PREFIX d = true) :
    manifestDigestOf (ofOption .str o) = .ok ⟨o, h⟩ := by
  cases o with
  | none => rfl
  | some s => exact dif_pos (h s rfl)

theorem admittedSeqOf_natCast (n : ℕ) : admittedSeqOf n = .ok n :=
  if_neg (Int.not_lt.mpr (Int.natCast_nonneg n))

theorem tupleOf_arr {α : Type} {f : Json → Except PyExc α} {g : α → Json}
    (h : ∀ a, f (g a) = .ok a) (xs : List α) : tupleOf f (.arr (xs.map g)) = .ok xs :=
  mapM_map_ok fun a _ => h a

theorem isFlat_ofOption {α : Type} {f : α → Json} (h : ∀ a, (f a).isFlat = true) (o : Option α) :
    (ofOption f o).isFlat = true := by
  cases o with
  | none => rfl
  | some a => exact h a

theorem isFlat_arr {α : Type} {f : α → Json} (h : ∀ a, (f a).isScalar = true) (xs : List α) :
    (Json.arr (xs.map f)).isFlat = true := by
  show (xs.map f).all isScalar = true
  rw [List.all_map, List.all_eq_true]
  exact fun a _ => h a

/-- A provenance comes back from any dictionary that is the same as its own. -/
theorem provenanceFromJson_same {v : Json} {p : WeightProvenance}
    (h : v.Same (provenanceToJson p)) : provenanceFromJson v = .ok p := by
  obtain ⟨fields, rfl, -⟩ := find?_same h
  have hkeys : fields.find? (fun q => q.1 ∉ ["checkpoint", "run_id", "step"]) = none := by
    rw [List.find?_eq_none]
    intro q hq
    have hmem : ¬ q.1 ∉ ["checkpoint", "run_id", "step"] := not_not_intro (mem_keys_same h hq)
    simpa only [decide_eq_true_eq] using hmem
  simp only [provenanceFromJson, hkeys]
  rw [lookup_flat h rfl (isFlat_ofOption (fun _ => rfl) p.checkpoint),
    lookup_flat h rfl (isFlat_ofOption (fun _ => rfl) p.runId),
    lookup_flat h rfl (isFlat_ofOption (fun _ => rfl) p.step)]
  unfold WeightProvenance.make
  rw [declaredName_ofOption _ p.checkpoint_ne, declaredName_ofOption _ p.runId_ne,
    declaredStep_ofOption]
  exact dif_pos p.declared

theorem WeightIdentity.make_fields (i : WeightIdentity) :
    WeightIdentity.make i.digest (ofOption (fun n : ℕ => .int n) i.numTensors)
      (ofOption .str i.manifestDigest) i.source = .ok i := by
  unfold WeightIdentity.make
  rw [dif_pos i.digest_ok, tensorCount_ofOption, manifestDigestOf_ofOption i.manifest_ok]
  rfl

theorem sourceFromJson_same {v : Json} {o : Option WeightProvenance}
    (h : v.Same (ofOption provenanceToJson o)) : sourceFromJson v = .ok o := by
  cases o with
  | none =>
    rw [same_flat h rfl]
    rfl
  | some p =>
    obtain ⟨fields, rfl, -⟩ := find?_same h
    show some <$> provenanceFromJson (.obj fields) = _
    rw [provenanceFromJson_same h]
    rfl

variable {C : JsonCodec}

/-- An identity comes back with its provenance. -/
theorem identityFromJson_same {v : Json} {i : WeightIdentity} (h : v.Same (identityToJson i)) :
    identityFromJson C v = .ok i := by
  obtain ⟨source, hsource, hsame⟩ := getOr_same "source" .null h rfl
  unfold identityFromJson
  rw [hsource, item_flat "digest" h rfl rfl,
    getOr_flat "manifest_digest" h rfl (isFlat_ofOption (fun _ => rfl) _),
    getOr_flat "num_tensors" h rfl (isFlat_ofOption (fun _ => rfl) _)]
  show ((sourceFromJson source).bind fun source => WeightIdentity.make i.digest
    (ofOption (fun n : ℕ => .int n) i.numTensors) (ofOption .str i.manifestDigest) source) = .ok i
  rw [sourceFromJson_same hsame]
  exact i.make_fields

theorem bindingFromJson_same {v : Json} {t : Trajectory} (h : v.Same t.toJson) :
    bindingFromJson C v = .ok t.binding := by
  obtain ⟨identity, hidentity, hsame⟩ := item_same "identity" h rfl
  obtain ⟨fields, rfl, -⟩ := find?_same hsame
  unfold bindingFromJson
  rw [hidentity, item_flat "request_id" h rfl rfl, item_flat "version" h rfl rfl,
    item_flat "cache_salt" h rfl rfl, item_flat "admitted_seq" h rfl rfl]
  show ((WeightVersion.parseLabel t.binding.version.label).mapError _).bind (fun version =>
    (identityFromJson C (.obj fields)).bind fun identity =>
      (admittedSeqOf t.binding.admittedSeq).bind fun admittedSeq =>
        .ok (RolloutBinding.mk t.requestId version identity t.cacheSalt admittedSeq)) = _
  rw [WeightVersion.parseLabel_label, identityFromJson_same hsame, admittedSeqOf_natCast]
  rfl

/-- A record comes back from any dictionary that is the same as its own. -/
theorem Trajectory.fromJson_same {v : Json} {t : Trajectory} (h : v.Same t.toJson) :
    Trajectory.fromJson C v = .ok t := by
  have htext : ∀ o : Option String, (ofOption .str o).isFlat = true :=
    isFlat_ofOption fun _ => rfl
  unfold Trajectory.fromJson
  rw [bindingFromJson_same h, item_flat "prompt" h rfl rfl,
    item_flat "text" h rfl rfl,
    getOr_flat "token_ids" h rfl (isFlat_arr (fun _ => rfl) _),
    getOr_flat "logprobs" h rfl (isFlat_arr (fun _ => rfl) _),
    getOr_flat "finish_reason" h rfl (htext _),
    getOr_flat "seconds" h rfl (isFlat_ofOption (fun _ => rfl) _),
    getOr_flat "engine_version_at_admission" h rfl (htext _),
    getOr_flat "engine_version_at_completion" h rfl (htext _)]
  show ((tupleOf (intOf C) (.arr (t.tokenIds.map .int))).mapError ArchiveError.raised).bind
    (fun tokenIds =>
      ((tupleOf (floatOf C) (.arr (t.logprobs.map .float))).mapError ArchiveError.raised).bind
        fun logprobs => Trajectory.make t.binding t.prompt t.text tokenIds logprobs _ _ _ _) = _
  rw [tupleOf_arr (f := intOf C) (fun _ => rfl), tupleOf_arr (f := floatOf C) (fun _ => rfl)]
  exact t.make_fields

/-! ## JSON lines -/

/-- Collects trajectories and writes them as JSONL. -/
structure TrajectoryRecorder where
  items : List Trajectory := []

namespace TrajectoryRecorder

def record (r : TrajectoryRecorder) (t : Trajectory) : TrajectoryRecorder := ⟨r.items ++ [t]⟩

/-- The text `write_jsonl` leaves in the file: one object per line, in record order. -/
def writeJsonl (C : JsonCodec) (r : TrajectoryRecorder) : String :=
  String.join (r.items.map fun t => C.dumps t.toJson ++ "\n")

def loadsLine (C : JsonCodec) (line : String) : Except ArchiveError Json :=
  match C.loads line with
  | .ok v => .ok v
  | .error (.decode m) => .error (.raised (.valueError (.plain m)))
  | .error (.raised e) => .error (.raised e)

/-- `read_jsonl` on the text of a file. -/
def readJsonl (C : JsonCodec) (text : String) : Except ArchiveError (List Trajectory) :=
  ((textLines text).filter fun line => !isBlank line).mapM fun line => do
    Trajectory.fromJson C (← loadsLine C line)

end TrajectoryRecorder

/-- `json.loads` inverts `json.dumps` on `v`, which is written on one line. -/
structure JsonCodec.Inverts (C : JsonCodec) (v : Json) : Prop where
  loads : ∃ w, C.loads (C.dumps v) = .ok w ∧ w.Same v
  /-- A line break behind the document makes no difference to `loads`. -/
  newline : C.loads (C.dumps v ++ "\n") = C.loads (C.dumps v)
  oneLine : '\n' ∉ (C.dumps v).toList ∧ '\r' ∉ (C.dumps v).toList
  notBlank : isBlank (C.dumps v) = false

open TrajectoryRecorder

/-- One line of the file is read back as the record it was written for. -/
theorem loadsLine_dumps {t : Trajectory} (h : C.Inverts t.toJson) :
    (loadsLine C (C.dumps t.toJson ++ "\n")).bind (Trajectory.fromJson C) = .ok t := by
  obtain ⟨w, hw, hsame⟩ := h.loads
  unfold loadsLine
  rw [h.newline, hw]
  exact Trajectory.fromJson_same hsame

theorem isBlank_append_of_not {s : String} (h : isBlank s = false) (u : String) :
    isBlank (s ++ u) = false := by
  unfold isBlank at h ⊢
  rw [String.toList_append, List.all_append, h, Bool.false_and]

/-- A recorder holds what was recorded, in order. -/
theorem items_foldl_record (r : TrajectoryRecorder) (ts : List Trajectory) :
    (ts.foldl record r).items = r.items ++ ts := by
  induction ts generalizing r with
  | nil => simp
  | cons t ts ih =>
    rw [List.foldl_cons, ih]
    simp [record]

/-- The lines a recorder writes are the lines that are read, and none of them is skipped. -/
theorem textLines_writeJsonl {r : TrajectoryRecorder} (h : ∀ t ∈ r.items, C.Inverts t.toJson) :
    (textLines (r.writeJsonl C)).filter (fun line => !isBlank line) =
      r.items.map fun t => C.dumps t.toJson ++ "\n" := by
  have htext : r.writeJsonl C =
      String.join ((r.items.map fun t => C.dumps t.toJson).map (· ++ "\n")) := by
    rw [List.map_map]
    rfl
  have hlines : textLines (r.writeJsonl C) = r.items.map fun t => C.dumps t.toJson ++ "\n" := by
    rw [htext, textLines_join, List.map_map]
    · rfl
    · intro line hline
      obtain ⟨t, ht, rfl⟩ := List.mem_map.mp hline
      exact (h t ht).oneLine
  rw [hlines, List.filter_eq_self]
  intro line hline
  obtain ⟨t, ht, rfl⟩ := List.mem_map.mp hline
  rw [isBlank_append_of_not (h t ht).notBlank]
  rfl

/-- **Round trip of the archive.** Reading the file that was written for some records returns the
same records in the same order, and decoding an encoded record returns that record. -/
theorem archive_round_trip (C : JsonCodec) (ts : List Trajectory)
    (h : ∀ t ∈ ts, C.Inverts t.toJson) :
    readJsonl C ((ts.foldl record {}).writeJsonl C) = .ok ts ∧
      ∀ t : Trajectory, Trajectory.fromJson C t.toJson = .ok t := by
  refine ⟨?_, fun t => Trajectory.fromJson_same (same_refl _)⟩
  have hitems : (ts.foldl record {}).items = ts := items_foldl_record {} ts
  unfold readJsonl
  rw [textLines_writeJsonl (by rwa [hitems]), hitems]
  exact mapM_map_ok fun t ht => loadsLine_dumps (h t ht)

theorem sampleDigest_ok : digestOk (DIGEST_PREFIX ++ String.ofList (List.replicate 64 'a')) = true :=
  digestOk_replicate (by decide)

/-- A record with a declared source. -/
def sampleTrajectory : Trajectory where
  binding := ⟨"R1", ⟨1⟩, ⟨DIGEST_PREFIX ++ String.ofList (List.replicate 64 'a'), some 1, none,
    some ⟨none, some "run", some 7, nofun, by decide, by decide⟩,
    sampleDigest_ok, WeightIdentity.manifest_ok_none⟩, "rc-1", 3⟩
  prompt := "2+2="
  text := "4"
  tokenIds := [19]
  logprobs := [.fin (-1 / 2)]
  finishReason := some "stop"
  seconds := none
  engineVersionAtAdmission := some "rc-1"
  engineVersionAtCompletion := none
  prompt_ne := by decide
  logprobs_length := by decide
  seconds_ok := Trajectory.seconds_ok_none

/-- What `json.dumps` makes of it, field by field. -/
def sampleFields : List String :=
  ["\x7b\"admitted_seq\": 3, ", "\"cache_salt\": \"rc-1\", ",
    "\"engine_version_at_admission\": \"rc-1\", ", "\"engine_version_at_completion\": null, ",
    "\"exactness\": \"declared-source\", ", "\"finish_reason\": \"stop\", ",
    "\"identity\": \x7b\"digest\": \"", sampleTrajectory.identity.digest,
    "\", \"manifest_digest\": null, \"num_tensors\": 1, ", "\"source\": \x7b\"checkpoint\": null, ",
    "\"run_id\": \"run\", \"step\": 7\x7d\x7d, ", "\"logprobs\": [-0.5], ", "\"prompt\": \"2+2=\", ",
    "\"replay_ready\": true, ", "\"request_id\": \"R1\", ", "\"seconds\": null, ",
    "\"text\": \"4\", ", "\"token_ids\": [19], ", "\"version\": \"rc-1\"\x7d"]

def sampleText : String := String.join sampleFields

/-- A codec that knows this one text. -/
def sampleCodec : JsonCodec where
  loads s := if s = sampleText ∨ s = sampleText ++ "\n" then .ok sampleTrajectory.toJson.sortKeys
    else .error (.decode "Expecting value: line 1 column 1 (char 0)")
  reprStr _ := ""
  dumps _ := sampleText
  intOfText _ := .error (.valueError (.plain "invalid literal for int() with base 10"))
  floatOfText _ := .error (.valueError (.plain "could not convert string to float"))

theorem sampleCodec_loads :
    sampleCodec.loads sampleText = .ok sampleTrajectory.toJson.sortKeys ∧
      sampleCodec.loads (sampleText ++ "\n") = .ok sampleTrajectory.toJson.sortKeys := by
  simp [sampleCodec]

theorem sampleText_oneLine : '\n' ∉ sampleText.toList ∧ '\r' ∉ sampleText.toList := by
  have hfields : ∀ s ∈ sampleFields, '\n' ∉ s.toList ∧ '\r' ∉ s.toList := by
    decide +kernel
  unfold sampleText
  rw [String.toList_join, List.mem_flatMap, List.mem_flatMap]
  exact ⟨fun ⟨s, hs, hc⟩ => (hfields s hs).1 hc, fun ⟨s, hs, hc⟩ => (hfields s hs).2 hc⟩

/-- The file of a recorder that holds one record. -/
theorem archive_round_trip_sample :
    readJsonl sampleCodec (([sampleTrajectory].foldl record {}).writeJsonl sampleCodec) =
      .ok [sampleTrajectory] := by
  refine (archive_round_trip sampleCodec [sampleTrajectory] fun t ht => ?_).1
  cases List.mem_singleton.mp ht
  exact {
    loads := ⟨_, sampleCodec_loads.1, same_sortKeys _⟩
    newline := sampleCodec_loads.2.trans sampleCodec_loads.1.symm
    oneLine := sampleText_oneLine
    notBlank := by
      show isBlank (String.join sampleFields) = false
      rw [sampleFields, String.join_cons]
      exact isBlank_append_of_not (by decide) _ }

end RolloutCore
