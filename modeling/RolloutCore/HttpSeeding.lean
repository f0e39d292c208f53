import RolloutCore.Refusals
import RolloutCore.HttpBootstrap

/-!
# How far an HTTP bootstrap gets

Every execution of `HttpVLLMAdapter.bootstrap`, whatever the transport and the driver do, stops at
the first read of the label, stops at the driver, or goes on to the one label write
(`bootstrap_outcome`). What it may have written by then follows by cases.
-/

namespace RolloutCore

open LifecycleController CallOutcome Prog

/-! ## The executions of a bootstrap -/

namespace HttpVLLMAdapter

variable (a : HttpVLLMAdapter)

/-- The read of the label. -/
abbrev labelRead (answer : Except PyExc Response) : HttpExchange :=
  a.exchange "GET" "/weight_info" "" answer

/-- The write of `rc-0`. -/
def seedWrite (answer : Except PyExc Response) : HttpExchange :=
  ⟨.request "POST" (a.url "/update_weight_version" "")
    (some (.obj [("new_version", .str (WeightVersion.mk INITIAL_VERSION).label)])) a.timeout,
    answer⟩

end HttpVLLMAdapter

/-- What the driver answered. -/
def driverInit (reply : Except PyExc (Option WeightTransferInit)) : HttpExchange :=
  ⟨.driverInitialise, reply⟩

/-- A request that writes a label. -/
def LabelWrite (x : HttpExchange) : Prop := pathOf x = some "/update_weight_version"

instance : DecidablePred LabelWrite := fun _ => inferInstanceAs (Decidable (_ = _))

/-- Evidence about an engine labelled `label` whose driver returned `init`. -/
structure Reports (ev : BootstrapEvidence) (label : String) (init : Option WeightTransferInit) :
    Prop where
  preSeedLabel : ev.preSeedLabel = some label
  initialised : ev.weightTransferInitialised = init.elim false (·.initialised)
  driver : ev.weightTransferDriver = init.map (·.driver)

/-- The executions of a bootstrap that has an identity to report. -/
inductive BootstrapOutcome (J : JsonModule) (a : HttpVLLMAdapter) :
    List HttpExchange → Except PyExc BootstrapEvidence → Prop
  | stopped (answer : Except PyExc Response) (e : PyExc) :
      BootstrapOutcome J a [a.labelRead answer] (.error e)
  | undriven {r : Response} {label : String} (hr : AnswersLabel J r label)
      (hu : WeightVersion.Unmanaged label) (e : PyExc) :
      BootstrapOutcome J a [a.labelRead (.ok r), driverInit (.error e)] (.error e)
  | wrote {r : Response} {label : String} {init : Option WeightTransferInit}
      {answer : Except PyExc Response} {rest : List HttpExchange}
      {x : Except PyExc BootstrapEvidence} (hr : AnswersLabel J r label)
      (hu : WeightVersion.Unmanaged label) (hrest : ∀ y ∈ rest, ¬ LabelWrite y)
      (hx : ∀ ev, x = .ok ev → Reports ev label init) :
      BootstrapOutcome J a
        (a.labelRead (.ok r) :: driverInit (.ok init) :: a.seedWrite answer :: rest) x

section Executions

variable {J : JsonModule} {a : HttpVLLMAdapter} {l : List HttpExchange}

namespace HttpVLLMAdapter

theorem getJson_sends {path query : String} {x : Except PyExc Json}
    (h : (a.getJson J path query).Yields l x) :
    ∃ answer, l = [a.exchange "GET" path query answer] := by
  obtain ⟨y, hy⟩ := h.of_bind_ended fun r => ended_ofExcept (r.json J)
  obtain ⟨answer, rfl, -⟩ := call_yields hy
  exact ⟨answer, rfl⟩

theorem weightInfo_sends {x : Except PyExc String} (h : (a.weightInfo J).Yields l x) :
    ∃ answer, l = [a.labelRead answer] := by
  obtain ⟨y, hy⟩ := h.of_bind_ended fun body => by
    cases body.get "weight_version" with
    | error e => exact .throw e
    | ok v => cases v <;> first | exact .pure _ | exact .throw _
  exact getJson_sends hy

theorem seed_sends {x : Except PyExc Response}
    (h : (a.call "POST" "/update_weight_version"
      (some (.obj [("new_version", .str (WeightVersion.mk INITIAL_VERSION).label)])) ""
      none).Yields l x) : ∃ answer, l = [a.seedWrite answer] := by
  cases h with
  | perform h =>
    obtain ⟨rfl, -⟩ := yields_ofExcept.mp h
    exact ⟨_, rfl⟩

/-- What comes after the write sends two reads at most, and reports what was found before it. -/
theorem afterSeed_yields {preSeed : String} {init : Option WeightTransferInit}
    {identity : WeightIdentity} {x : Except PyExc BootstrapEvidence}
    (h : (do
      let observed ← a.weightInfo J
      let worldSize ← Prog.ofExcept
        ((← a.getJson J "/get_world_size" "?include_dp=true").get "world_size")
      return {
        observedEngineLabel := observed
        weightTransferInitialised := init.elim false (·.initialised)
        preSeedLabel := some preSeed
        weightIdentity := identity
        backend := init.elim "none" (·.backend)
        worldSize := if init.isSome then worldSize else .null
        weightTransferDriver := init.map (·.driver) } : HttpProg BootstrapEvidence).Yields l x) :
    (∀ y ∈ l, ¬ LabelWrite y) ∧ ∀ ev, x = .ok ev → Reports ev preSeed init := by
  rcases h.of_bind with ⟨e, rfl, he⟩ | ⟨observed, l₁, l₂, hinfo, hrest, rfl⟩
  · obtain ⟨answer, rfl⟩ := weightInfo_sends he
    exact ⟨by simp [LabelWrite, pathOf, url], fun ev hev => by cases hev⟩
  · obtain ⟨answer, rfl⟩ := weightInfo_sends hinfo
    refine ⟨?_, ?_⟩
    · obtain ⟨y, hy⟩ := hrest.of_bind_ended fun body => by
        cases body.get "world_size" with
        | error e => exact .throw e
        | ok v => exact .pure _
      obtain ⟨answer', rfl⟩ := getJson_sends hy
      simp [LabelWrite, pathOf, url]
    · rintro ev rfl
      obtain ⟨body, l₃, l₄, -, hbody, rfl⟩ := yields_bind.mp hrest
      obtain ⟨v, l₅, l₆, -, hret, rfl⟩ := yields_bind.mp hbody
      cases hret
      exact ⟨rfl, rfl, rfl⟩

/-- **Every execution stops at the label, stops at the driver, or writes once.** -/
theorem bootstrap_outcome {identity : WeightIdentity} (hi : a.weightIdentity = some identity)
    {x : Except PyExc BootstrapEvidence} (h : (a.bootstrap J).Yields l x) :
    BootstrapOutcome J a l x := by
  unfold bootstrap at h
  rw [hi] at h
  rcases h.of_bind with ⟨e, rfl, he⟩ | ⟨preSeed, l₁, l₂, hinfo, hrest, rfl⟩
  · obtain ⟨answer, rfl⟩ := weightInfo_sends he
    exact .stopped answer e
  obtain ⟨r, fields, rfl, hr, hj, hlabel⟩ := weightInfo_yields hinfo
  have hread : AnswersLabel J r preSeed := ⟨hr, fields, hj, hlabel⟩
  cases hp : WeightVersion.parseLabel preSeed with
  | ok v =>
    rw [hp] at hrest
    cases hrest
    exact .stopped _ _
  | error exc =>
    have hu : WeightVersion.Unmanaged preSeed := by
      intro v hv
      cases hp.symm.trans hv
    rw [hp] at hrest
    cases hrest with
    | @perform _ _ reply l₂ _ hdriver =>
      replace hdriver : ((Prog.ofExcept reply : HttpProg _).bind _).Yields l₂ x := hdriver
      rcases hdriver.of_bind with ⟨e, rfl, he⟩ | ⟨init, l₃, l₄, hinit, hrest, rfl⟩
      · obtain ⟨rfl, rfl⟩ := yields_ofExcept.mp he
        exact .undriven hread hu e
      · obtain ⟨rfl, rfl⟩ := yields_ofExcept.mp hinit
        rcases hrest.of_bind with ⟨e, rfl, he⟩ | ⟨r', l₅, l₆, hwrite, htail, rfl⟩
        · obtain ⟨answer, rfl⟩ := seed_sends he
          exact .wrote hread hu (List.forall_mem_nil _) fun ev hev => by cases hev
        · obtain ⟨answer, rfl⟩ := seed_sends hwrite
          obtain ⟨hreads, hx⟩ := afterSeed_yields htail
          exact .wrote hread hu hreads hx

end HttpVLLMAdapter

end Executions

/-! ## What may have been written -/

/-- The first `/weight_info` was answered with `label`. -/
def FirstLabel (J : JsonModule) (l : List HttpExchange) (label : String) : Prop :=
  ∃ method url body timeout r, l.find? (pathOf · = some "/weight_info") =
      some ⟨.request method url body timeout, .ok r⟩ ∧ AnswersLabel J r label

/-- A label write and what stands before it. -/
structure SeedsUnmanaged (J : JsonModule) (a : HttpVLLMAdapter) (past : List HttpExchange)
    (x : HttpExchange) : Prop where
  seed : ∃ answer, x = a.seedWrite answer
  read : ∃ r label, a.labelRead (.ok r) ∈ past ∧ AnswersLabel J r label ∧
    WeightVersion.Unmanaged label
  driver : ∃ init, driverInit (.ok init) ∈ past

section Writes

variable {J : JsonModule} {a : HttpVLLMAdapter} {l rest : List HttpExchange} {label : String}
  {answer : Except PyExc Response} {x : Except PyExc BootstrapEvidence}

theorem not_labelWrite_read : ¬ LabelWrite (a.labelRead answer) := by
  simp [LabelWrite, pathOf, HttpVLLMAdapter.url]

theorem not_labelWrite_driver {reply : Except PyExc (Option WeightTransferInit)} :
    ¬ LabelWrite (driverInit reply) := by simp [LabelWrite, pathOf, driverInit]

/-- An execution begins by reading the label. -/
theorem BootstrapOutcome.begins (h : BootstrapOutcome J a l x) :
    ∃ answer rest, l = a.labelRead answer :: rest := by
  cases h with
  | stopped answer e => exact ⟨answer, [], rfl⟩
  | undriven hr hu e => exact ⟨_, _, rfl⟩
  | wrote hr hu hrest hx => exact ⟨_, _, rfl⟩

theorem firstLabel_cons : FirstLabel J (a.labelRead answer :: rest) label ↔
    ∃ r, answer = .ok r ∧ AnswersLabel J r label := by
  have hfind : (a.labelRead answer :: rest).find? (pathOf · = some "/weight_info") =
      some (a.labelRead answer) := List.find?_cons_of_pos (decide_eq_true rfl)
  unfold FirstLabel
  rw [hfind]
  constructor
  · rintro ⟨method, url, body, timeout, r, heq, hr⟩
    cases heq
    exact ⟨r, rfl, hr⟩
  · rintro ⟨r, rfl, hr⟩
    exact ⟨_, _, _, _, r, rfl, hr⟩

theorem FirstLabel.append {l' : List HttpExchange} (h : FirstLabel J l label) :
    FirstLabel J (l ++ l') label := by
  obtain ⟨method, url, body, timeout, r, heq, hr⟩ := h
  refine ⟨method, url, body, timeout, r, ?_, hr⟩
  rw [List.find?_append, heq]
  rfl

/-- Without an identity nothing is sent. -/
theorem bootstrap_unidentified (hi : a.weightIdentity = none) (h : (a.bootstrap J).Yields l x) :
    l = [] ∧ ∃ e, x = .error e := by
  unfold HttpVLLMAdapter.bootstrap at h
  rw [hi] at h
  cases h
  exact ⟨rfl, _, rfl⟩

/-- **A managed label ends the bootstrap.** -/
theorem bootstrap_refuses {v : WeightVersion} (hv : WeightVersion.parseLabel label = .ok v)
    (hl : FirstLabel J l label) (h : (a.bootstrap J).Yields l x) :
    (∃ r, l = [a.labelRead (.ok r)]) ∧ x = .error (.core (.alreadyManagedEngine label)) := by
  cases hi : a.weightIdentity with
  | none =>
    obtain ⟨rfl, -⟩ := bootstrap_unidentified hi h
    obtain ⟨_, _, _, _, _, hnone, -⟩ := hl
    cases hnone
  | some identity =>
    obtain ⟨answer, rest, rfl⟩ := (HttpVLLMAdapter.bootstrap_outcome hi h).begins
    obtain ⟨r, rfl, hr⟩ := firstLabel_cons.mp hl
    -- the label has been read: what is left of the program is the refusal
    have hrest := h
    unfold HttpVLLMAdapter.bootstrap at hrest
    rw [hi, ← List.singleton_append] at hrest
    replace hrest := (weightInfo_reads hr).bind_iff.mp hrest
    rw [hv] at hrest
    cases hrest
    exact ⟨⟨r, rfl⟩, rfl⟩

theorem BootstrapOutcome.writes_once (h : BootstrapOutcome J a l x) :
    l.countP LabelWrite ≤ 1 := by
  cases h with
  | stopped answer e =>
    rw [List.countP_cons_of_neg (by simpa using not_labelWrite_read)]
    exact Nat.zero_le 1
  | undriven hr hu e =>
    rw [List.countP_cons_of_neg (by simpa using not_labelWrite_read),
      List.countP_cons_of_neg (by simpa using not_labelWrite_driver)]
    exact Nat.zero_le 1
  | @wrote r label init answer rest x hr hu hrest hx =>
    have hnone : rest.countP LabelWrite = 0 := List.countP_eq_zero.mpr (by simpa using hrest)
    rw [List.countP_cons_of_neg (by simpa using not_labelWrite_read),
      List.countP_cons_of_neg (by simpa using not_labelWrite_driver), List.countP_cons, hnone]
    split <;> decide

theorem BootstrapOutcome.seeds_unmanaged (h : BootstrapOutcome J a l x) :
    Before (fun past y => LabelWrite y → SeedsUnmanaged J a past y) l := by
  intro past y post heq hy
  cases h with
  | stopped answer e =>
    have hmem : y ∈ [a.labelRead answer] := by simp [heq]
    rw [List.mem_singleton.mp hmem] at hy
    exact absurd hy not_labelWrite_read
  | @undriven r label hr hu e =>
    have hmem : y ∈ [a.labelRead (.ok r), driverInit (.error e)] := by simp [heq]
    rcases List.mem_pair.mp hmem with rfl | rfl
    · exact absurd hy not_labelWrite_read
    · exact absurd hy not_labelWrite_driver
  | @wrote r label init answer rest x hr hu hrest hx =>
    -- the write is the third exchange, and the only one
    match past with
    | [] =>
      cases heq
      exact absurd hy not_labelWrite_read
    | [_] =>
      cases heq
      exact absurd hy not_labelWrite_driver
    | [_, _] =>
      cases heq
      exact ⟨⟨answer, rfl⟩, ⟨r, label, by simp, hr, hu⟩, ⟨init, by simp⟩⟩
    | _ :: _ :: _ :: past =>
      have htail : rest = past ++ y :: post := by
        simp only [List.cons_append, List.cons.injEq] at heq
        exact heq.2.2.2
      exact absurd hy (hrest y (by simp [htail]))

/-- Evidence that passes is of a driver that reported an initialised engine, or had nothing to. -/
theorem Reports.accepted {ev : BootstrapEvidence} {init : Option WeightTransferInit}
    (h : Reports ev label init) (he : ev.failureReason = none) :
    ∀ i ∈ init, i.initialised = true ∧ ev.weightTransferDriver = some i.driver := by
  rintro i rfl
  have hd : ev.weightTransferDriver = some i.driver := h.driver
  have hi : ev.weightTransferInitialised = i.initialised := h.initialised
  refine ⟨?_, hd⟩
  cases hinit : i.initialised with
  | true => rfl
  | false =>
    unfold BootstrapEvidence.failureReason at he
    rw [hi, hd, hinit] at he
    cases he

end Writes

/-! ## Refusal before any write -/

theorem HttpCall.reply_nonempty (call : HttpCall) : Nonempty call.Reply :=
  ⟨(bodyOf (fun _ => "") call ()).1⟩

/-- An accepted bootstrap: the controller was new and the evidence passes. -/
theorem initialise_accepted {c c' : LifecycleController} {ev : BootstrapEvidence}
    (h : (initialise ev).run c = .ok () c') : ev.failureReason = none := by
  have hout := decides_initialise (c := c) ev
  unfold Decides Ends at hout
  rw [show (Op.initialise ev).call.run c = .ok () c' from h] at hout
  cases hout with
  | initialise hs he hl => exact he

/-- **Refuse before any write.** In every run of the bootstrap, however far it has come and
whatever the transport and the driver do: a first label that is a version's ends it with
`AlreadyManagedEngineError`, after that one request; without an identity there is no request; one
label write is sent at most, it writes `rc-0`, and before it stand a read of an unmanaged label and
the driver's return. Evidence that `initialise` accepts is of an engine whose label was unmanaged
and whose driver returned an initialised engine with its name, or `None`. -/
theorem refuses_before_writing (J : JsonModule) (a : HttpVLLMAdapter) {σ : Type}
    (W : World HttpCall.Reply σ) {s s' : σ} {tr : List (TraceEvent HttpCall.Reply σ)}
    {q : HttpProg BootstrapEvidence} (h : Run W (a.bootstrap J) s tr q s') :
    (∀ v : WeightVersion, FirstLabel J (exchanges tr) v.label →
      (∃ r, exchanges tr = [a.labelRead (.ok r)]) ∧
        q = .throw (.core (.alreadyManagedEngine v.label))) ∧
    (a.weightIdentity = none → exchanges tr = []) ∧
    (exchanges tr).countP LabelWrite ≤ 1 ∧
    Before (fun past x => LabelWrite x → SeedsUnmanaged J a past x) (exchanges tr) ∧
    (∀ ev c c', q = .pure ev → (initialise ev).run c = .ok () c' →
      ∃ label init, FirstLabel J (exchanges tr) label ∧ ev.preSeedLabel = some label ∧
        WeightVersion.Unmanaged label ∧ driverInit (.ok init) ∈ exchanges tr ∧
        ∀ i ∈ init, i.initialised = true ∧ ev.weightTransferDriver = some i.driver) := by
  obtain ⟨l, x, hq, hall⟩ := h.begins HttpCall.reply_nonempty
  refine ⟨fun v hv => ?_, ?_⟩
  · obtain ⟨⟨r, hone⟩, rfl⟩ :=
      bootstrap_refuses (WeightVersion.parseLabel_label v) hv.append hall
    -- the one exchange is the one that has happened
    have hne : exchanges tr ≠ [] := by
      rintro hnil
      obtain ⟨_, _, _, _, _, hnone, -⟩ := hv
      rw [hnil] at hnone
      cases hnone
    obtain ⟨y, rest, hcons⟩ := List.exists_cons_of_ne_nil hne
    rw [hcons, List.cons_append, List.cons.injEq, List.append_eq_nil_iff] at hone
    obtain ⟨rfl, rfl, rfl⟩ := hone
    exact ⟨⟨r, hcons⟩, hq.eq_ofExcept⟩
  · cases hi : a.weightIdentity with
    | none =>
      obtain ⟨hnone, e, rfl⟩ := bootstrap_unidentified hi hall
      rw [(List.append_eq_nil_iff.mp hnone).1]
      refine ⟨fun _ => rfl, Nat.zero_le 1, fun past y post heq => ?_, fun ev c c' hev => ?_⟩
      · cases past <;> cases heq
      · subst hev
        cases hq
    | some identity =>
      have hout := HttpVLLMAdapter.bootstrap_outcome hi hall
      refine ⟨fun hn => (by cases hn), ?_, hout.seeds_unmanaged.of_append, ?_⟩
      · have hcount := hout.writes_once
        rw [List.countP_append] at hcount
        omega
      · rintro ev c c' rfl hc
        cases hq
        rw [List.append_nil] at hout
        generalize exchanges tr = l at hout
        cases hout with
        | @wrote r label init answer rest x hr hu hrest hx =>
          have hrep := hx ev rfl
          exact ⟨label, init, firstLabel_cons.mpr ⟨r, rfl, hr⟩, hrep.preSeedLabel, hu, by simp,
            hrep.accepted (initialise_accepted hc)⟩

/-- What a bootstrap reports of an engine at `default`. -/
def seededEvidence : BootstrapEvidence where
  observedEngineLabel := "rc-0"
  weightTransferInitialised := false
  preSeedLabel := some "default"
  weightIdentity := identityA
  backend := "none"
  worldSize := .null
  weightTransferDriver := none

/-- An engine at `rc-7` is refused after one request. One at `default` is seeded by one write, and a
new controller accepts what is reported. -/
theorem refuses_before_writing_seven :
    (∃ tr q s, Run (World.solitary (sideAnswer ()))
        (HttpVLLMAdapter.bootstrap engineJson { weightIdentity := some identityA })
        { label := "rc-7" } tr q s ∧
      (∃ r, exchanges tr = [HttpVLLMAdapter.labelRead { weightIdentity := some identityA }
        (.ok r)]) ∧ q = .throw (.core (.alreadyManagedEngine "rc-7"))) ∧
    ∃ tr s, Run (World.solitary (sideAnswer ()))
        (HttpVLLMAdapter.bootstrap engineJson { weightIdentity := some identityA })
        { label := "default" } tr (.pure seededEvidence) s ∧
      ∃ label init, FirstLabel engineJson (exchanges tr) label ∧
        seededEvidence.preSeedLabel = some label ∧ WeightVersion.Unmanaged label ∧
        driverInit (.ok init) ∈ exchanges tr ∧
        ∀ i ∈ init, i.initialised = true ∧ seededEvidence.weightTransferDriver = some i.driver := by
  constructor
  · have hrun := Run.solitary (sideAnswer ())
      (HttpVLLMAdapter.bootstrap engineJson { weightIdentity := some identityA })
      { label := "rc-7" }
    have hlabel : (WeightVersion.mk 7).label = "rc-7" := by decide
    have hrefused := (refuses_before_writing _ _ _ hrun).1 ⟨7⟩
    rw [hlabel] at hrefused
    exact ⟨_, _, _, hrun, hrefused ⟨_, _, _, _, ⟨200, labelText "rc-7"⟩, rfl, by decide, _,
      json_labelText _, rfl⟩⟩
  · have hrun := Run.solitary (sideAnswer ())
      (HttpVLLMAdapter.bootstrap engineJson { weightIdentity := some identityA })
      { label := "default" }
    have hend : ((HttpVLLMAdapter.bootstrap engineJson { weightIdentity := some identityA }).play
        (sideAnswer ()) (fun _ _ => none) 0 { label := "default" }).2.1 = .ok seededEvidence := rfl
    rw [hend] at hrun
    have hinit := initialise_apply (c := .init) (e := seededEvidence) rfl (by decide) (by decide)
    exact ⟨_, _, hrun, (refuses_before_writing _ _ _ hrun).2.2.2.2 _ _ _ rfl hinit⟩

end RolloutCore
