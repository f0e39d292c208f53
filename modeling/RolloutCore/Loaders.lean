import RolloutCore.Archive

/-!
# What the loaders do to values

`from_json` and `load_observations` of `scripts/validate_replay.py` pass tokens through `int` and
logprobs through `float`. What a loader makes of a value is compared with the value in the file.
-/

namespace RolloutCore

open Json

/-! ## The replay lines -/

/-- A `ReplayObservation` as the loader builds it; nothing checks its last values. -/
structure LoadedObservation where
  requestId : String
  version : String
  tokenIds : List ℤ
  logprobs : List PyFloat
  identityDigest : Json
  prompt : Json
  tokensWereForced : Bool

/-- `raise ValueError(message)`. -/
def valueError (message : String) : PyExc := .valueError (.plain message)

section

variable (C : JsonCodec)

/-- One logprob; a boolean is none. -/
def numberOf (place : String) : Json → Except PyExc PyFloat
  | .int n => floatOf C (.int n)
  | .float x => floatOf C (.float x)
  | v => .error (valueError s!"{place}: logprobs must be numbers, got {C.reprStr v}")

/-- `_numbers`: a JSON list as floats, or nothing for `null`. -/
def numbers (place : String) : Json → Except PyExc (List PyFloat)
  | .null => .ok []
  | .arr xs => xs.mapM (numberOf C place)
  | v => .error (valueError s!"{place}: expected a list, got {v.className}")

/-- The constructor call. -/
def observationOf (place : String) (data : Json) : Except PyExc LoadedObservation := do
  let requestId := strOf C (← data.item "request_id")
  let version := strOf C (← data.item "version")
  let tokenIds ← (← data.getOr "token_ids" (.arr [])).tupleOf (intOf C)
  let logprobs ← numbers C place (← data.get "logprobs")
  let identityDigest ← data.get "identity_digest"
  let prompt ← data.get "prompt"
  let tokensWereForced := (← data.getOr "tokens_were_forced" (.bool false)).truthy
  return { requestId, version, tokenIds, logprobs, identityDigest, prompt, tokensWereForced }

/-- The `except` clauses around it: a `KeyError`, a `TypeError` or a `ValueError` is raised again
with the line number. -/
def atPlace (place : String) : PyExc → PyExc
  | .valueError e => valueError s!"{place}: {e.message}"
  | .other text reprText =>
    if startsWith "KeyError(" reprText then
      valueError s!"{place}: missing required field {text}"
    else if startsWith "TypeError(" reprText then valueError s!"{place}: {text}"
    else .other text reprText
  | e => e

/-- One non-blank line. -/
def loadObservation (path : String) (number : ℕ) (line : String) :
    Except PyExc LoadedObservation :=
  match C.loads line with
  | .error (.decode m) => .error (valueError s!"{path}:{number}: not JSON: {m}")
  | .error (.raised e) => .error e
  | .ok (.obj fields) =>
    (observationOf C s!"{path}:{number}" (.obj fields)).mapError (atPlace s!"{path}:{number}")
  | .ok _ => .error (valueError s!"{path}:{number}: expected a JSON object")

/-- The lines that are not blank, with their numbers. -/
def numberedLines (text : String) : List (String × ℕ) :=
  ((splitLines text).zipIdx 1).filter fun p => !isBlank p.1

/-- `load_observations` on the text of the file. -/
def loadObservations (path text : String) : Except PyExc (List LoadedObservation) :=
  (numberedLines text).mapM fun p => loadObservation C path p.2 p.1

end

/-! ## Faithful values -/

namespace Json

/-- The value of a number; a boolean is none. -/
def number : Json → Option PyFloat
  | .int n => some (.fin n)
  | .float x => some x
  | _ => none

/-- The elements under a key, as a loader would run over them. -/
def elementsAt (v : Json) (key : String) : List Json :=
  match v.getOr key (.arr []) with
  | .ok w => w.elements.toOption.getD []
  | .error _ => []

/-- An integer. -/
def IsInt (v : Json) : Prop := ∃ n, v = .int n

/-- A number that a float holds as it is. -/
def IsExact (v : Json) : Prop := (∃ x, v = .float x) ∨ ∃ n, v = .int n ∧ PyFloat.Represents n

end Json

section Elements

variable {C : JsonCodec} {xs : List Json}

theorem forall₂_of_mapM {α β ε : Type} {f : α → Except ε β} {xs : List α} {ys : List β}
    (h : xs.mapM f = .ok ys) : List.Forall₂ (fun x y => f x = .ok y) xs ys := by
  induction xs generalizing ys with
  | nil => cases h; exact .nil
  | cons x xs ih =>
    rw [List.mapM_cons] at h
    cases hx : f x with
    | error e => rw [hx] at h; cases h
    | ok y =>
      cases hxs : xs.mapM f with
      | error e => rw [hx, hxs] at h; cases h
      | ok zs =>
        rw [hx, hxs] at h
        cases h
        exact .cons hx (ih hxs)

/-- Two lists that go along with each other agree under `g` exactly if each pair does. -/
theorem map_eq_iff_of_forall₂ {α β γ : Type} {R : α → β → Prop} {g : α → γ} {k : β → γ}
    {P : α → Prop} (hP : ∀ x y, R x y → (g x = k y ↔ P x)) {xs : List α} {ys : List β}
    (h : List.Forall₂ R xs ys) : xs.map g = ys.map k ↔ ∀ x ∈ xs, P x := by
  induction h with
  | nil => simp
  | cons hxy _ ih =>
    rw [List.map_cons, List.map_cons, List.cons.injEq, ih, hP _ _ hxy, List.forall_mem_cons]

theorem intOf_kept {x : Json} {n : ℤ} (h : intOf C x = .ok n) : x = .int n ↔ x.IsInt := by
  constructor
  · rintro rfl
    exact ⟨n, rfl⟩
  · rintro ⟨m, rfl⟩
    cases h
    rfl

theorem floatOf_int {n : ℤ} {y : PyFloat} (h : floatOf C (.int n) = .ok y) :
    PyFloat.ofInt n = some y := by
  unfold floatOf at h
  dsimp only at h
  -- the value of `float(n)` does not matter here, and is large
  generalize PyFloat.ofInt n = o at h ⊢
  cases o with
  | none => cases h
  | some x => exact congrArg some (Except.ok.inj h)

theorem floatOf_kept {x : Json} {y : PyFloat} (h : floatOf C x = .ok y) :
    x.number = some y ↔ x.IsExact := by
  unfold IsExact
  cases x with
  | float z => cases h; simp [number]
  | int n =>
    have hn : PyFloat.ofInt n = some y := floatOf_int h
    have hexact := PyFloat.ofInt_exact_iff n
    rw [hn] at hexact
    simp only [number, Option.some.injEq, reduceCtorEq, exists_false, false_or, Json.int.injEq,
      exists_eq_left', ← hexact]
    exact eq_comm
  | _ => simp [number]

theorem tokens_kept_iff {ns : List ℤ} (h : xs.mapM (intOf C) = .ok ns) :
    xs = ns.map Json.int ↔ ∀ x ∈ xs, x.IsInt := by
  have hmap := map_eq_iff_of_forall₂ (g := id) (k := Json.int) (fun _ _ => intOf_kept)
    (forall₂_of_mapM h)
  rwa [List.map_id] at hmap

theorem logprobs_kept_iff {ys : List PyFloat} (h : xs.mapM (floatOf C) = .ok ys) :
    xs.map Json.number = ys.map some ↔ ∀ x ∈ xs, x.IsExact :=
  map_eq_iff_of_forall₂ (R := fun x y => floatOf C x = .ok y) (fun _ _ => floatOf_kept)
    (forall₂_of_mapM h)

end Elements

/-! ## Records -/

/-- The part of a record that its constructor checks by class. -/
structure RecordContent where
  prompt : String
  text : String
  tokenIds : List ℤ
  logprobs : List PyFloat
  deriving DecidableEq

def Trajectory.content (t : Trajectory) : RecordContent :=
  ⟨t.prompt, t.text, t.tokenIds, t.logprobs⟩

/-- What `from_json` makes of it. -/
def contentFromJson (C : JsonCodec) (data : Json) : Except PyExc RecordContent := do
  let prompt := strOf C (← data.item "prompt")
  let text := strOf C (← data.item "text")
  let tokenIds ← (← data.getOr "token_ids" (.arr [])).tupleOf (intOf C)
  let logprobs ← (← data.getOr "logprobs" (.arr [])).tupleOf (floatOf C)
  return ⟨prompt, text, tokenIds, logprobs⟩

/-- The loaded values are those of the object, and of the classes the constructor asks for. -/
structure RecordContent.Kept (r : RecordContent) (v : Json) : Prop where
  prompt : v.item "prompt" = .ok (.str r.prompt)
  text : v.item "text" = .ok (.str r.text)
  tokenIds : v.elementsAt "token_ids" = r.tokenIds.map .int
  logprobs : (v.elementsAt "logprobs").map Json.number = r.logprobs.map some

/-- The object holds texts, integers and numbers that a float holds. -/
structure Json.PlainRecord (v : Json) : Prop where
  prompt : ∃ s, v.item "prompt" = .ok (.str s)
  text : ∃ s, v.item "text" = .ok (.str s)
  tokenIds : ∀ x ∈ v.elementsAt "token_ids", x.IsInt
  logprobs : ∀ x ∈ v.elementsAt "logprobs", x.IsExact

section Records

variable {C : JsonCodec} {v : Json}

theorem elementsAt_of_tupleOf {α : Type} {f : Json → Except PyExc α} {key : String} {w : Json}
    {ys : List α} (hw : v.getOr key (.arr []) = .ok w) (h : w.tupleOf f = .ok ys) :
    (v.elementsAt key).mapM f = .ok ys := by
  unfold tupleOf at h
  unfold elementsAt
  cases he : w.elements with
  | error e => rw [he] at h; cases h
  | ok xs =>
    rw [he] at h
    rw [hw]
    show (w.elements.toOption.getD []).mapM f = .ok ys
    rw [he]
    exact h

theorem bind_eq_ok {ε α β : Type} {x : Except ε α} {f : α → Except ε β} {b : β} :
    (x >>= f) = .ok b ↔ ∃ a, x = .ok a ∧ f a = .ok b := by
  cases x with
  | error e => exact iff_of_false (fun h => by cases h) (by simp)
  | ok a => exact ⟨fun h => ⟨a, rfl, h⟩, fun ⟨_, ha, h⟩ => by cases ha; exact h⟩

theorem lift_eq_ok {α : Type} {x : Except PyExc α} {a : α} :
    (liftM x : Except ArchiveError α) = .ok a ↔ x = .ok a := by
  cases x with
  | error e => exact iff_of_false (fun h => by cases h) (by simp)
  | ok b => exact ⟨fun h => by cases h; rfl, fun h => by cases h; rfl⟩

theorem make_content {b : RolloutBinding} {prompt text : String} {tokenIds : List ℤ}
    {logprobs : List PyFloat} {finish seconds admission completion : Json} {t : Trajectory}
    (h : Trajectory.make b prompt text tokenIds logprobs finish seconds admission completion =
      .ok t) : t.content = ⟨prompt, text, tokenIds, logprobs⟩ := by
  unfold Trajectory.make at h
  split_ifs at h
  simp only [bind_eq_ok] at h
  obtain ⟨_, -, _, -, _, -, _, -, ht⟩ := h
  cases ht
  rfl

theorem content_of_fromJson {t : Trajectory} (h : Trajectory.fromJson C v = .ok t) :
    contentFromJson C v = .ok t.content := by
  unfold Trajectory.fromJson at h
  simp only [bind_eq_ok, lift_eq_ok] at h
  obtain ⟨b, -, prompt, hprompt, text, htext, tokens, htokens, ids, hids, lps, hlps, lp, hlp,
    finish, -, seconds, -, admission, -, completion, -, hmake⟩ := h
  rw [make_content hmake, contentFromJson]
  simp only [bind_eq_ok]
  exact ⟨prompt, hprompt, text, htext, tokens, htokens, ids, hids, lps, hlps, lp, hlp, rfl⟩

theorem strOf_kept {w : Json} (C : JsonCodec) : w = .str (strOf C w) ↔ ∃ s, w = .str s := by
  constructor
  · exact fun h => ⟨_, h⟩
  · rintro ⟨s, rfl⟩
    rfl

/-- **A decoded record keeps its values** exactly if the object is a plain one. -/
theorem content_kept_iff {r : RecordContent} (h : contentFromJson C v = .ok r) :
    r.Kept v ↔ v.PlainRecord := by
  unfold contentFromJson at h
  simp only [bind_eq_ok] at h
  obtain ⟨prompt, hprompt, text, htext, tokens, htokens, ids, hids, lps, hlps, lp, hlp, hr⟩ := h
  cases hr
  have hp := strOf_kept (w := prompt) C
  have ht := strOf_kept (w := text) C
  have hi := tokens_kept_iff (elementsAt_of_tupleOf htokens hids)
  have hl := logprobs_kept_iff (elementsAt_of_tupleOf hlps hlp)
  constructor
  · rintro ⟨hp', ht', hi', hl'⟩
    exact ⟨⟨_, hp'⟩, ⟨_, ht'⟩, hi.mp hi', hl.mp hl'⟩
  · rintro ⟨⟨s, hs⟩, ⟨s', hs'⟩, hi', hl'⟩
    refine ⟨?_, ?_, hi.mpr hi', hl.mpr hl'⟩
    · rw [hprompt, ← hp.mpr ⟨s, Except.ok.inj (hprompt.symm.trans hs)⟩]
    · rw [htext, ← ht.mpr ⟨s', Except.ok.inj (htext.symm.trans hs')⟩]

end Records

/-! ## Replay lines -/

/-- The loaded tokens and logprobs are those of the line. -/
structure LoadedObservation.Kept (o : LoadedObservation) (v : Json) : Prop where
  tokenIds : v.elementsAt "token_ids" = o.tokenIds.map .int
  logprobs : (v.elementsAt "logprobs").map Json.number = o.logprobs.map some

/-- The line holds integers and numbers that a float holds. -/
structure Json.PlainLine (v : Json) : Prop where
  tokenIds : ∀ x ∈ v.elementsAt "token_ids", x.IsInt
  logprobs : ∀ x ∈ v.elementsAt "logprobs", x.IsExact

section Lines

variable {C : JsonCodec} {v : Json} {place : String}

theorem floatOf_of_numberOf {x : Json} {y : PyFloat} (h : numberOf C place x = .ok y) :
    floatOf C x = .ok y := by
  cases x with
  | int n => exact h
  | float z => exact h
  | _ => cases h

/-- A lane that is absent or `null` has no elements, and any other is a list. -/
theorem elementsAt_of_numbers {w : Json} {ys : List PyFloat} (hw : v.get "logprobs" = .ok w)
    (h : numbers C place w = .ok ys) :
    (v.elementsAt "logprobs").mapM (numberOf C place) = .ok ys := by
  have helements : v.elementsAt "logprobs" = w.elements.toOption.getD [] := by
    cases v with
    | obj fields =>
      obtain rfl : lookup fields "logprobs" = w := Except.ok.inj hw
      show ((fields.find? fun p => p.1 = "logprobs").elim (.arr []) (·.2)).elements.toOption.getD []
        = (lookup fields "logprobs").elements.toOption.getD []
      unfold lookup
      cases fields.find? fun p => p.1 = "logprobs" <;> rfl
    | _ => cases hw
  rw [helements]
  cases w with
  | null => exact h
  | arr xs => exact h
  | _ => cases h

theorem observation_kept_iff {o : LoadedObservation} (h : observationOf C place v = .ok o) :
    o.Kept v ↔ v.PlainLine := by
  unfold observationOf at h
  simp only [bind_eq_ok] at h
  obtain ⟨id, -, version, -, tokens, htokens, ids, hids, lps, hlps, lp, hlp, digest, -, prompt, -,
    forced, -, ho⟩ := h
  cases ho
  have hi := tokens_kept_iff (elementsAt_of_tupleOf htokens hids)
  have hl := map_eq_iff_of_forall₂ (g := Json.number) (k := some)
    (fun _ _ hxy => floatOf_kept (floatOf_of_numberOf hxy))
    (forall₂_of_mapM (elementsAt_of_numbers hlps hlp))
  exact ⟨fun ⟨hi', hl'⟩ => ⟨hi.mp hi', hl.mp hl'⟩, fun ⟨hi', hl'⟩ => ⟨hi.mpr hi', hl.mpr hl'⟩⟩

theorem observation_of_load {path line : String} {number : ℕ} {o : LoadedObservation}
    (h : loadObservation C path number line = .ok o) :
    ∃ v, C.loads line = .ok v ∧ observationOf C s!"{path}:{number}" v = .ok o := by
  unfold loadObservation at h
  split at h
  · cases h
  · cases h
  · next fields hv =>
    refine ⟨_, hv, ?_⟩
    cases ho : observationOf C s!"{path}:{number}" (.obj fields) with
    | error e => rw [ho] at h; cases h
    | ok o' => rw [ho] at h; exact h
  · cases h

end Lines

/-- **What the loaders keep.** A record keeps the values of the object it was decoded from exactly
if they are texts, integers and numbers that a float holds; so does every replay line. -/
theorem loaders_keep_iff (C : JsonCodec) :
    (∀ v t, Trajectory.fromJson C v = .ok t → contentFromJson C v = .ok t.content) ∧
    (∀ v r, contentFromJson C v = .ok r → (r.Kept v ↔ v.PlainRecord)) ∧
    ∀ path text os, loadObservations C path text = .ok os →
      List.Forall₂ (fun line o => ∃ v, C.loads line.1 = .ok v ∧ (o.Kept v ↔ v.PlainLine))
        (numberedLines text) os := by
  refine ⟨fun v t => content_of_fromJson, fun v r => content_kept_iff, fun path text os h => ?_⟩
  refine (forall₂_of_mapM h).imp fun line o ho => ?_
  obtain ⟨v, hv, hobs⟩ := observation_of_load ho
  exact ⟨v, hv, observation_kept_iff hobs⟩

/-- A record with a fraction for a token and a boolean for a logprob. -/
def fractionRecord : Json :=
  .obj [("request_id", .str "R1"), ("version", .str "rc-1"),
    ("identity", identityToJson sampleTrajectory.identity), ("cache_salt", .str "rc-1"),
    ("admitted_seq", .int 3), ("prompt", .str "2+2="), ("text", .str "4"),
    ("token_ids", .arr [.float (.fin (199 / 10))]), ("logprobs", .arr [.bool true])]

/-- A replay line with a fraction for a token. -/
def fractionLine : String :=
  "\x7b\"request_id\": \"R1\", \"version\": \"rc-1\", \"token_ids\": [19.9]\x7d"

/-- A codec that knows this one line. -/
def fractionCodec : JsonCodec where
  loads s := if s = fractionLine then
      .ok (.obj [("request_id", .str "R1"), ("version", .str "rc-1"),
        ("token_ids", .arr [.float (.fin (199 / 10))])])
    else .error (.decode "Expecting value: line 1 column 1 (char 0)")
  reprStr _ := ""
  dumps _ := ""
  intOfText _ := .error (.valueError (.plain "invalid literal for int() with base 10"))
  floatOfText _ := .error (.valueError (.plain "could not convert string to float"))

/-- Both loaders cut a token off. -/
theorem loaders_launder :
    (∃ v t, Trajectory.fromJson fractionCodec v = .ok t ∧ ¬ t.content.Kept v) ∧
    ∃ os, loadObservations fractionCodec "replays.jsonl" fractionLine = .ok os ∧
      ∃ o ∈ os, ∀ v, fractionCodec.loads fractionLine = .ok v → ¬ o.Kept v := by
  constructor
  · have hok : (Trajectory.fromJson fractionCodec fractionRecord).toOption.map (·.tokenIds) =
        some [19] := by
      decide +kernel
    cases h : Trajectory.fromJson fractionCodec fractionRecord with
    | error e => rw [h] at hok; cases hok
    | ok t =>
      rw [h] at hok
      have ht : t.tokenIds = [19] := Option.some.inj hok
      refine ⟨fractionRecord, t, h, fun hkept => ?_⟩
      have htokens : [.float (.fin (199 / 10))] = t.tokenIds.map Json.int := hkept.tokenIds
      rw [ht] at htokens
      cases htokens
  · have hok : (loadObservations fractionCodec "replays.jsonl" fractionLine).toOption.map
        (·.map (·.tokenIds)) = some [[19]] := by
      decide +kernel
    cases h : loadObservations fractionCodec "replays.jsonl" fractionLine with
    | error e => rw [h] at hok; cases hok
    | ok os =>
      rw [h] at hok
      obtain ⟨o, rfl, ho⟩ := List.map_eq_singleton_iff.mp (Option.some.inj hok)
      refine ⟨[o], rfl, o, List.mem_singleton_self o, fun v hv hkept => ?_⟩
      cases hv
      have htokens : [.float (.fin (199 / 10))] = o.tokenIds.map Json.int := hkept.tokenIds
      rw [ho] at htokens
      cases htokens

theorem loaders_keep_iff_sample : sampleTrajectory.content.Kept sampleTrajectory.toJson := by
  obtain ⟨hcontent, hkept, -⟩ := loaders_keep_iff sampleCodec
  refine (hkept _ _ (hcontent _ _ (Trajectory.fromJson_same (same_refl _)))).mpr ?_
  refine ⟨⟨_, rfl⟩, ⟨_, rfl⟩, ?_, ?_⟩
  · rintro x hx
    obtain rfl := List.mem_singleton.mp hx
    exact ⟨19, rfl⟩
  · rintro x hx
    obtain rfl := List.mem_singleton.mp hx
    exact .inl ⟨_, rfl⟩

end RolloutCore
