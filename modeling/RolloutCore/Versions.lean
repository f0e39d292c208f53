import RolloutCore.Python

/-!
# Versions, weight identities and update targets

The frozen value types of `versions.py`. What a constructor refuses is a field of the structure
here, so a value of the type is one the constructor accepts.
-/

namespace RolloutCore

def ENGINE_LABEL_PREFIX : String := "rc-"

def INITIAL_VERSION : ℕ := 0

def DIGEST_PREFIX : String := "sha256:"

/-- The separator of the canonical encodings. -/
def SEP : Char := '\x1f'

/-- The errors of this module and of `int`: all of them are `ValueError`s. -/
inductive PyValueError
  | version (message : String)
  | weightIdentity (message : String)
  | plain (message : String)
  deriving DecidableEq, Repr

/-- The `str` of a `ValueError`. -/
def PyValueError.message : PyValueError → String
  | .version m | .weightIdentity m | .plain m => m

/-! ## Generation numbers -/

/-- A generation number. The constructor accepts the non-negative integers. -/
structure WeightVersion where
  value : ℕ
  deriving DecidableEq, Repr

namespace WeightVersion

instance : LT WeightVersion := ⟨fun v w => v.value < w.value⟩

instance : DecidableRel ((· < ·) : WeightVersion → WeightVersion → Prop) :=
  fun v w => inferInstanceAs (Decidable (v.value < w.value))

instance : LE WeightVersion := ⟨fun v w => v.value ≤ w.value⟩

instance : DecidableRel ((· ≤ ·) : WeightVersion → WeightVersion → Prop) :=
  fun v w => inferInstanceAs (Decidable (v.value ≤ w.value))

theorem le_of_lt {v w : WeightVersion} (h : v < w) : v ≤ w := Nat.le_of_lt h

theorem lt_trans {u v w : WeightVersion} (huv : u < v) (hvw : v < w) : u < w :=
  Nat.lt_trans huv hvw

/-- The string written to the engine's `weight_version`. -/
def label (v : WeightVersion) : String := ENGINE_LABEL_PREFIX ++ toString v.value

/-- The prefix-cache isolation token of the generation. -/
def cacheSalt (v : WeightVersion) : String := v.label

def next (v : WeightVersion) : WeightVersion := ⟨v.value + 1⟩

theorem label_injective : Function.Injective label := by
  intro v w h
  have hval : v.value = w.value := toString_injective ((String.append_right_inj _).mp h)
  cases v
  cases w
  exact congrArg mk hval

/-- Parse an engine label back into a version. -/
def parseLabel (label : String) : Except PyValueError WeightVersion :=
  if !startsWith ENGINE_LABEL_PREFIX label then
    .error (.version (s!"engine label {pyRepr label} was not written by RolloutCore " ++
      s!"(expected prefix {pyRepr ENGINE_LABEL_PREFIX})"))
  else
    let suffix := dropLabel ENGINE_LABEL_PREFIX label
    if !isdigit suffix then
      .error (.version s!"engine label {pyRepr label} has a non-numeric version suffix")
    else
      match intOfDigits suffix with
      | none => .error (.plain s!"invalid literal for int() with base 10: {pyRepr suffix}")
      | some n => .ok ⟨n⟩

/-- A label no version parses from. -/
def Unmanaged (label : String) : Prop := ∀ v, parseLabel label ≠ .ok v

instance (label : String) : Decidable (Unmanaged label) :=
  match h : parseLabel label with
  | .ok v => isFalse fun hu => hu v h
  | .error _ => isTrue fun v hv => by rw [h] at hv; cases hv

theorem parseLabel_initial : parseLabel (label ⟨INITIAL_VERSION⟩) = .ok ⟨INITIAL_VERSION⟩ := by
  decide

example : Unmanaged "default" := by decide

end WeightVersion

/-! ## Weight identities -/

/-- The declared origin of a weight set; at least one of the three is declared. -/
@[ext]
structure WeightProvenance where
  checkpoint : Option String
  runId : Option String
  step : Option ℕ
  checkpoint_ne : checkpoint ≠ some ""
  runId_ne : runId ≠ some ""
  declared : checkpoint ≠ none ∨ runId ≠ none ∨ step ≠ none
  deriving DecidableEq, Repr

namespace WeightProvenance

/-- The parts of the stable encoding; absent fields are omitted. -/
def parts (p : WeightProvenance) : List String :=
  (p.checkpoint.map ("checkpoint=" ++ ·)).toList ++ (p.runId.map ("run_id=" ++ ·)).toList ++
    (p.step.map fun n => "step=" ++ toString n).toList

def canonical (p : WeightProvenance) : String := (String.singleton SEP).intercalate p.parts

def describe (p : WeightProvenance) : String :=
  String.ofList (p.canonical.toList.flatMap fun c => if c = SEP then [',', ' '] else [c])

end WeightProvenance

/-- The shape of a digest: the prefix and 64 lower-case hexadecimal digits. -/
def digestOk (digest : String) : Bool :=
  startsWith DIGEST_PREFIX digest &&
    (dropLabel DIGEST_PREFIX digest).toList.length == 64 &&
    (dropLabel DIGEST_PREFIX digest).toList.all fun c => "0123456789abcdef".toList.contains c

theorem digestOk_append (s : String) : digestOk (DIGEST_PREFIX ++ s) =
    (s.toList.length == 64 && s.toList.all fun c => "0123456789abcdef".toList.contains c) := by
  unfold digestOk
  rw [startsWith_append, dropLabel_append, Bool.true_and]

theorem digestOk_replicate {c : Char} (hc : "0123456789abcdef".toList.contains c = true) :
    digestOk (DIGEST_PREFIX ++ String.ofList (List.replicate 64 c)) = true := by
  rw [digestOk_append, String.toList_ofList, List.length_replicate, List.all_replicate, hc]
  rfl

/-- An immutable digest identifying the declared weight source. -/
structure WeightIdentity where
  digest : String
  numTensors : Option ℕ
  /-- The manifest-only digest, kept even when provenance is folded in. -/
  manifestDigest : Option String
  /-- Declared origin; `none` is manifest-only. -/
  source : Option WeightProvenance
  digest_ok : digestOk digest = true
  manifest_ok : ∀ d ∈ manifestDigest, startsWith DIGEST_PREFIX d = true
  deriving DecidableEq, Repr

namespace WeightIdentity

def short (i : WeightIdentity) : String :=
  String.ofList ((dropLabel DIGEST_PREFIX i.digest).toList.take 12)

def describe (i : WeightIdentity) : String :=
  match i.source with
  | none => s!"{i.short} (manifest-only)"
  | some p => s!"{i.short} (declared {p.describe})"

theorem manifest_ok_none : ∀ d ∈ (none : Option String), startsWith DIGEST_PREFIX d = true := by
  simp

/-- `WeightIdentity.parse`: an identity with only a digest. -/
def parse (digest : String) : Except PyValueError WeightIdentity :=
  if h : digestOk digest = true then .ok ⟨digest, none, none, none, h, by simp⟩
  else if !startsWith DIGEST_PREFIX digest then
    .error (.weightIdentity (s!"weight identity digest must start with {pyRepr DIGEST_PREFIX}, " ++
      s!"got {pyRepr digest}"))
  else
    .error (.weightIdentity (s!"weight identity digest must be 64 lowercase hex chars, " ++
      s!"got {pyRepr digest}"))

/-- A digest whose 64 digits are all `c`; the identities of the concrete runs are of this
form. -/
def uniform (c : Char)
    (h : digestOk (DIGEST_PREFIX ++ String.ofList (List.replicate 64 c)) = true) :
    WeightIdentity :=
  ⟨DIGEST_PREFIX ++ String.ofList (List.replicate 64 c), none, none, none, h, by simp⟩

end WeightIdentity

/-! ## Targets -/

/-- What an update installs: a generation number and a weight identity. -/
structure UpdateTarget where
  version : WeightVersion
  identity : WeightIdentity
  deriving DecidableEq, Repr

namespace UpdateTarget

def label (t : UpdateTarget) : String := t.version.label

def describe (t : UpdateTarget) : String := s!"{t.version.label} ({t.identity.describe})"

end UpdateTarget

end RolloutCore
