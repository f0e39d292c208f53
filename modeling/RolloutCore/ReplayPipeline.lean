import RolloutCore.Loaders
import RolloutCore.ReplayCli
import RolloutCore.ReplayVerdicts

/-!
# Replay jobs from their files

`run` and `main` of `scripts/validate_replay.py` on the texts of the archive and of the replays,
and what becomes of an archive whose rollouts are replayed exactly as they were recorded.
-/

namespace RolloutCore

open TrajectoryRecorder ReplayPlan

/-! ## The files -/

/-- The observation, when its last values are of the annotated types. -/
def LoadedObservation.observation (o : LoadedObservation) :
    Except ArchiveError ReplayObservation := do
  let identityDigest ← Trajectory.optionalText "identity_digest" o.identityDigest
  let prompt ← Trajectory.optionalText "prompt" o.prompt
  return {
    requestId := o.requestId
    version := o.version
    tokenIds := o.tokenIds
    logprobs := o.logprobs
    identityDigest
    prompt
    tokensWereForced := o.tokensWereForced }

section

variable (C : JsonCodec)

/-- The observations of the replay file. -/
def loadReplays (path text : String) : Except ArchiveError (List ReplayObservation) := do
  let loaded ← loadObservations C path text
  loaded.mapM LoadedObservation.observation

/-- `run`, on the texts of the files. -/
def runFiles (tolerance : PyFloat) (trajectories path replays : String) :
    Except ArchiveError ReplayReport := do
  let ts ← readJsonl C trajectories
  let os ← loadReplays C path replays
  return runReplay ts os tolerance

/-- `main`: the exit code, unless the files hold what it does not catch. -/
def mainFiles (tolerance : PyFloat) (trajectories path replays : String) : Except ArchiveError ℕ :=
  match runFiles C tolerance trajectories path replays with
  | .ok report => .ok report.exitCode
  | .error (.trajectory _) => .ok 2
  | .error (.raised (.valueError _)) => .ok 2
  | .error e => .error e

end

/-! ## Exact replays -/

/-- The replay of an engine that reproduces the record. -/
def Trajectory.exactReplay (t : Trajectory) (forced : Bool) : ReplayObservation where
  requestId := t.requestId
  version := t.version
  tokenIds := t.tokenIds
  logprobs := t.logprobs
  identityDigest := some t.identity.digest
  prompt := some t.prompt
  tokensWereForced := forced

/-- What a record has to hold in order to agree with itself: nothing to compare, or a first logprob
that is an ordinary number and a tolerance that is not negative. -/
def Trajectory.SelfConsistent (t : Trajectory) (tolerance : PyFloat) : Prop :=
  t.logprobs = [] ∨ (∃ q, t.logprobs[0]? = some (.fin q)) ∧ (PyFloat.fin 0).le tolerance = true

section Exact

variable {t : Trajectory} {plan : ReplayPlan} {tolerance : PyFloat} (forced : Bool)

theorem reproduced_exactReplay (h : fromTrajectory t = .ok plan) :
    plan.Reproduced (t.exactReplay forced) := by
  unfold fromTrajectory at h
  cases hready : t.replayReady with
  | false =>
    rw [hready] at h
    cases h
  | true =>
    rw [hready] at h
    cases h
    exact ⟨rfl, by simp [Trajectory.exactReplay], by simp [Trajectory.exactReplay], rfl⟩

/-- A logprob minus itself: zero, or no number. -/
theorem abs_sub_self (x : PyFloat) : (x.sub x).abs = .nan ∨ (x.sub x).abs = .fin 0 := by
  cases x <;> simp [PyFloat.sub, PyFloat.add, PyFloat.neg, PyFloat.abs]

theorem abs_sub_self_eq_zero {x : PyFloat} : (x.sub x).abs = .fin 0 ↔ ∃ q, x = .fin q := by
  cases x <;> simp [PyFloat.sub, PyFloat.add, PyFloat.neg, PyFloat.abs]

theorem deltaAt_exactReplay (h : fromTrajectory t = .ok plan) (i : ℕ) :
    plan.deltaAt (t.exactReplay forced) i = t.logprobs[i]?.map fun x => (x.sub x).abs := by
  unfold deltaAt
  have hobs : (t.exactReplay forced).logprobs = t.logprobs := rfl
  rw [(fromTrajectory_lists h).2, hobs]
  cases t.logprobs[i]? <;> rfl

/-- The lane of an exact replay is compared exactly if the record has logprobs. -/
theorem lane_exactReplay (h : fromTrajectory t = .ok plan) :
    plan.logprobLane (t.exactReplay forced) = .compared ↔ t.logprobs ≠ [] := by
  have hrep := reproduced_exactReplay forced h
  rw [← not_iff_not, ← Ne, ← hrep.uncompared_iff, not_not]
  unfold Uncompared
  rw [(fromTrajectory_lists h).2]
  show t.logprobs = [] ∨ t.logprobs.length < t.tokenIds.length ∨ t.logprobs = [] ∨
    t.logprobs.length < t.tokenIds.length ↔ t.logprobs = []
  rcases t.logprobs_length with hnil | hlen
  · simp [hnil]
  · simp [hlen]

/-- **A record agrees with its exact replay** exactly if it is consistent with itself. -/
theorem agrees_exactReplay (h : fromTrajectory t = .ok plan) :
    plan.agrees (t.exactReplay forced) tolerance = true ↔ t.SelfConsistent tolerance := by
  have hrep := reproduced_exactReplay forced h
  unfold Trajectory.SelfConsistent
  by_cases hnil : t.logprobs = []
  · have hlane := (lane_exactReplay forced h).not.mpr (not_not.mpr hnil)
    rw [agrees_iff]
    exact iff_of_true ⟨hrep, by simp [logprobsAgree, hlane]⟩ (.inl hnil)
  · have hlane := (lane_exactReplay forced h).mpr hnil
    have hpos := compared_pos h hrep hlane
    rw [agrees_iff_of_compared hlane, or_iff_right hnil]
    simp only [deltaAt_exactReplay forced h, Option.map_eq_some_iff]
    constructor
    · rintro ⟨-, -, ⟨d, ⟨x, hx, rfl⟩, hle⟩, -⟩
      rcases abs_sub_self x with hnan | hzero
      · rw [hnan] at hle
        cases tolerance <;> cases hle
      · obtain ⟨q, rfl⟩ := abs_sub_self_eq_zero.mp hzero
        exact ⟨⟨q, hx⟩, hzero ▸ hle⟩
    · rintro ⟨⟨q, hq⟩, hle⟩
      refine ⟨hrep, hpos, ⟨_, ⟨_, hq, rfl⟩, ?_⟩, fun i hi => ?_⟩
      · rwa [abs_sub_self_eq_zero.mpr ⟨q, rfl⟩]
      · have hlen : i < t.logprobs.length := by
          rw [hrep.compared_eq] at hi
          rw [t.logprobs_length.resolve_left hnil]
          exact hi
        refine ⟨_, ⟨_, List.getElem?_eq_getElem hlen, rfl⟩, ?_⟩
        refine (abs_sub_self _).imp_right fun hzero => ?_
        rwa [hzero]

end Exact

theorem replayAgrees_exactReplay {t : Trajectory} {tolerance : PyFloat} (forced : Bool) :
    ReplayAgrees t (t.exactReplay forced) tolerance ↔
      t.replayReady = true ∧ t.SelfConsistent tolerance := by
  rw [← fromTrajectory_isOk]
  constructor
  · rintro ⟨plan, hplan, hagrees⟩
    exact ⟨⟨plan, hplan⟩, (agrees_exactReplay forced hplan).mp hagrees⟩
  · rintro ⟨⟨plan, hplan⟩, hself⟩
    exact ⟨plan, hplan, (agrees_exactReplay forced hplan).mpr hself⟩

/-! ## Jobs of exact replays -/

section Jobs

variable {C : JsonCodec} {ts : List Trajectory} {os : List ReplayObservation} {tolerance : PyFloat}
  {forced : Trajectory → Bool}

theorem lastObservation_exactReplays (hids : (ts.map (·.requestId)).Nodup)
    (hexact : os.Perm (ts.map fun t => t.exactReplay (forced t))) {t : Trajectory} (ht : t ∈ ts) :
    lastObservation os t.requestId = some (t.exactReplay (forced t)) := by
  have hmem : t.exactReplay (forced t) ∈ os :=
    hexact.mem_iff.mpr (List.mem_map.mpr ⟨t, ht, rfl⟩)
  cases hlast : lastObservation os t.requestId with
  | none =>
    have hnone := List.find?_eq_none.mp hlast _ (List.mem_reverse.mpr hmem)
    exact absurd (decide_eq_true rfl) hnone
  | some o =>
    obtain ⟨ho, hid⟩ := lastObservation_mem hlast
    obtain ⟨t', ht', rfl⟩ := List.mem_map.mp (hexact.mem_iff.mp ho)
    rw [List.inj_on_of_nodup_map hids ht' ht hid]

theorem exitCode_exactReplays (hids : (ts.map (·.requestId)).Nodup)
    (hexact : os.Perm (ts.map fun t => t.exactReplay (forced t))) :
    (runReplay ts os tolerance).exitCode = 0 ↔
      ∀ t ∈ ts, t.replayReady = true ∧ t.SelfConsistent tolerance := by
  rw [exitCode_eq_zero, and_iff_left]
  · refine forall₂_congr fun t ht => ?_
    rw [lastObservation_exactReplays hids hexact ht, ← replayAgrees_exactReplay (forced t)]
    exact ⟨fun ⟨o, ho, hagrees⟩ => Option.some.inj ho ▸ hagrees, fun hagrees => ⟨_, rfl, hagrees⟩⟩
  · intro o ho
    obtain ⟨t, ht, rfl⟩ := List.mem_map.mp (hexact.mem_iff.mp ho)
    exact ⟨t, ht, rfl⟩

/-- On files that both loaders accept the exit code is that of the report. -/
theorem mainFiles_of_loaded {trajectories path replays : String}
    (hts : readJsonl C trajectories = .ok ts) (hos : loadReplays C path replays = .ok os) :
    mainFiles C tolerance trajectories path replays = .ok (runReplay ts os tolerance).exitCode := by
  unfold mainFiles runFiles
  rw [hts, hos]
  rfl

end Jobs

/-- **An archive replays itself.** Let records with different request ids be written to an archive,
and let the engine reproduce every one of them, in any order and forced or not. The command over
the two files returns 0 exactly if every record declares a source and is consistent with itself,
and 1 otherwise. -/
theorem archive_replays_itself {C : JsonCodec} {ts : List Trajectory}
    (hinverts : ∀ t ∈ ts, C.Inverts t.toJson) (hids : (ts.map (·.requestId)).Nodup)
    {path replays : String} {os : List ReplayObservation}
    (hos : loadReplays C path replays = .ok os) {forced : Trajectory → Bool}
    (hexact : os.Perm (ts.map fun t => t.exactReplay (forced t))) (tolerance : PyFloat) :
    (mainFiles C tolerance ((ts.foldl record {}).writeJsonl C) path replays = .ok 0 ↔
      ∀ t ∈ ts, t.replayReady = true ∧ t.SelfConsistent tolerance) ∧
    (mainFiles C tolerance ((ts.foldl record {}).writeJsonl C) path replays = .ok 1 ↔
      ¬ ∀ t ∈ ts, t.replayReady = true ∧ t.SelfConsistent tolerance) := by
  have hts := (archive_round_trip C ts hinverts).1
  rw [mainFiles_of_loaded hts hos, Except.ok.injEq, Except.ok.injEq,
    ← exitCode_exactReplays hids hexact]
  refine ⟨Iff.rfl, ?_⟩
  unfold runReplay
  simp only
  split_ifs <;> simp

/-- A line for the exact replay of the sample record. -/
def sampleReplayLine : String :=
  "\x7b\"request_id\": \"R1\", \"version\": \"rc-1\", \"token_ids\": [19], " ++
    "\"logprobs\": [-0.5], \"identity_digest\": \"" ++ sampleTrajectory.identity.digest ++
    "\", \"prompt\": \"2+2=\"\x7d"

def sampleReplayJson : Json :=
  .obj [("request_id", .str "R1"), ("version", .str "rc-1"), ("token_ids", .arr [.int 19]),
    ("logprobs", .arr [.float (.fin (-1 / 2))]),
    ("identity_digest", .str sampleTrajectory.identity.digest), ("prompt", .str "2+2=")]

/-- The sample codec, which knows that line as well. -/
def sampleReplayCodec : JsonCodec :=
  { sampleCodec with
    loads := fun s =>
      if s = sampleReplayLine then .ok sampleReplayJson else sampleCodec.loads s }

theorem sampleReplayLine_ne : sampleText ≠ sampleReplayLine ∧
    sampleText ++ "\n" ≠ sampleReplayLine := by
  decide +kernel

theorem splitFrom_line {cs : List Char} (h : cs.all (!isLineBreak ·) = true) (acc : List Char)
    (hne : acc.reverse ++ cs ≠ []) : splitFrom acc cs = [String.ofList (acc.reverse ++ cs)] := by
  induction cs generalizing acc with
  | nil => simpa [splitFrom] using hne
  | cons c cs ih =>
    rw [List.all_cons, Bool.and_eq_true, Bool.not_eq_true'] at h
    have hc : splitFrom acc (c :: cs) = splitFrom (c :: acc) cs := by
      rw [splitFrom]
      · rw [h.1]
        rfl
      · rintro _ rfl
        exact absurd h.1 (by decide)
    rw [hc, ih h.2 _ (by simp)]
    simp

theorem splitLines_line {s : String} (h : s.toList.all (!isLineBreak ·) = true) (hne : s ≠ "") :
    splitLines s = [s] := by
  have hcs : s.toList ≠ [] := fun hnil => hne (String.toList_eq_nil_iff.mp hnil)
  have hsplit := splitFrom_line h [] (by simpa using hcs)
  rwa [List.reverse_nil, List.nil_append, String.ofList_toList] at hsplit

theorem loadReplays_line {C : JsonCodec} {path s : String} {loaded : LoadedObservation}
    {o : ReplayObservation} (hbreaks : s.toList.all (!isLineBreak ·) = true)
    (hblank : isBlank s = false) (hload : loadObservation C path 1 s = .ok loaded)
    (ho : loaded.observation = .ok o) : loadReplays C path s = .ok [o] := by
  have hne : s ≠ "" := by
    rintro rfl
    cases hblank
  have hlines : numberedLines s = [(s, 1)] := by
    rw [numberedLines, splitLines_line hbreaks hne]
    simp [hblank]
  have hloaded : loadObservations C path s = .ok [loaded] := by
    rw [loadObservations, hlines, List.mapM_cons, List.mapM_nil, hload]
    rfl
  unfold loadReplays
  rw [hloaded]
  show [loaded].mapM LoadedObservation.observation = .ok [o]
  rw [List.mapM_cons, List.mapM_nil, ho]
  rfl

theorem sampleReplayCodec_loads :
    sampleReplayCodec.loads sampleReplayLine = .ok sampleReplayJson ∧
      sampleReplayCodec.loads sampleText = .ok sampleTrajectory.toJson.sortKeys ∧
      sampleReplayCodec.loads (sampleText ++ "\n") = .ok sampleTrajectory.toJson.sortKeys := by
  unfold sampleReplayCodec
  dsimp only
  rw [if_pos rfl, if_neg sampleReplayLine_ne.1, if_neg sampleReplayLine_ne.2]
  exact ⟨rfl, sampleCodec_loads⟩

theorem loadReplays_sample : loadReplays sampleReplayCodec "replays.jsonl" sampleReplayLine =
    .ok [sampleTrajectory.exactReplay false] := by
  have hload : loadObservation sampleReplayCodec "replays.jsonl" 1 sampleReplayLine =
      .ok ⟨"R1", "rc-1", [19], [.fin (-1 / 2)], .str sampleTrajectory.identity.digest,
        .str "2+2=", false⟩ := by
    unfold loadObservation
    rw [sampleReplayCodec_loads.1]
    rfl
  exact loadReplays_line (by decide +kernel) (by decide +kernel) hload rfl

theorem inverts_sampleReplayCodec : sampleReplayCodec.Inverts sampleTrajectory.toJson where
  loads := ⟨_, sampleReplayCodec_loads.2.1, Json.same_sortKeys _⟩
  newline := sampleReplayCodec_loads.2.2.trans sampleReplayCodec_loads.2.1.symm
  oneLine := sampleText_oneLine
  notBlank := by
    show isBlank (String.join sampleFields) = false
    rw [sampleFields, String.join_cons]
    exact isBlank_append_of_not (by decide) _

/-- The archive of the sample record and a file with its replay. -/
theorem archive_replays_itself_sample :
    mainFiles sampleReplayCodec DEFAULT_LOGPROB_TOLERANCE
      (([sampleTrajectory].foldl record {}).writeJsonl sampleReplayCodec) "replays.jsonl"
      sampleReplayLine = .ok 0 := by
  have hexact : [sampleTrajectory.exactReplay false].Perm
      ([sampleTrajectory].map fun t => t.exactReplay ((fun _ => false) t)) := .refl _
  refine (archive_replays_itself (fun t ht => ?_) (by decide) loadReplays_sample hexact
    DEFAULT_LOGPROB_TOLERANCE).1.mpr fun t ht => ?_
  · cases List.mem_singleton.mp ht
    exact inverts_sampleReplayCodec
  · cases List.mem_singleton.mp ht
    exact ⟨by decide +kernel, .inr ⟨⟨_, rfl⟩, by decide +kernel⟩⟩

end RolloutCore
