import RolloutCore.FakeGuarantees
import RolloutCore.HttpEvidence
import RolloutCore.LabelCodec

/-!
# Who refuses a managed engine

The same question in three places: the reference adapter tests the prefix of the label, the HTTP
adapter and the evidence parse it. They agree on the labels whose suffix `int` reads, and on those
without the prefix.
-/

namespace RolloutCore

open CallOutcome Prog

/-- How a bootstrap of the reference adapter on the engine `g` ends when nobody interferes. -/
def fakeBootstrap (g : FakeVLLMEngine) : Except PyExc BootstrapEvidence :=
  (FakeVLLMAdapter.bootstrap.play fakeAnswer (fun _ _ => none) 0 ⟨.init, g, false⟩).2.1

/-- The HTTP adapter raises on reading the label, before it does anything else. -/
def HttpRefuses (J : JsonModule) (a : HttpVLLMAdapter) (r : Response) (l : String) : Prop :=
  (a.bootstrap J).Yields [a.exchange "GET" "/weight_info" "" (.ok r)]
    (.error (.core (.alreadyManagedEngine l)))

/-- `GET /weight_info` answered with the label `l`. -/
def AnswersLabel (J : JsonModule) (r : Response) (l : String) : Prop :=
  r.status < 400 ∧ ∃ fields, r.json J = .ok (.obj fields) ∧
    Json.lookup fields "weight_version" = .str l

/-- Behind the prefix the label has decimal digits and nothing else. -/
def DecimalSuffix (l : String) : Prop :=
  dropLabel ENGINE_LABEL_PREFIX l ≠ "" ∧
    ∀ c ∈ (dropLabel ENGINE_LABEL_PREFIX l).toList, (decimalValue c).isSome = true

theorem parses_iff {l : String} : (∃ v, WeightVersion.parseLabel l = .ok v) ↔
    startsWith ENGINE_LABEL_PREFIX l = true ∧ DecimalSuffix l := by
  unfold DecimalSuffix
  rw [← intOfDigits_isSome]
  constructor
  · rintro ⟨v, hv⟩
    obtain ⟨⟨hp, hd⟩, hi⟩ := WeightVersion.parseLabel_ok_iff.mp hv
    refine ⟨hp, fun he => ?_, by rw [hi]; rfl⟩
    rw [he] at hd
    exact absurd hd (by decide)
  · rintro ⟨hp, hne, hi⟩
    obtain ⟨n, hn⟩ := Option.isSome_iff_exists.mp hi
    refine ⟨⟨n⟩, WeightVersion.parseLabel_ok_iff.mpr ⟨⟨hp, ?_⟩, hn⟩⟩
    exact isdigit_of_decimal hne (intOfDigits_isSome.mp hi)

/-! ## The reference adapter -/

section Fake

variable {α : Type}

/-- The endpoint raises nothing but the error of the engine. -/
abbrev RaisesFake (x : Endpoint α) (g : FakeVLLMEngine) : Prop :=
  Ends (fun _ _ => True) (fun e _ => ∃ m, e = .fakeEngine m) (x.run g)

/-- An endpoint that raises only the fault injected for it. -/
theorem raisesFake_endpoint (name : String) {x : Endpoint α} (g : FakeVLLMEngine)
    (hx : ∀ g', RaisesFake x g') : RaisesFake (FakeVLLMEngine.call name >>= fun _ => x) g := by
  have hcall : RaisesFake (FakeVLLMEngine.call name) g := by
    unfold FakeVLLMEngine.call
    refine Ends.bind (M := fun _ _ => True) (Ends.modify trivial) fun _ _ _ =>
      Ends.bind (M := fun _ _ => True) (Ends.get trivial) fun s _ _ => ?_
    cases s.faults.get? name with
    | none => exact Ends.pure trivial
    | some m => exact Ends.throw ⟨m, rfl⟩
  exact Ends.bind hcall fun _ g' _ => hx g'

/-- However the program ends when nobody interferes, it does not refuse the engine. -/
def NeverRefuses (p : FakeProg α) : Prop :=
  ∀ n s l, (p.play fakeAnswer (fun _ _ => none) n s).2.1 ≠ .error (.core (.alreadyManagedEngine l))

theorem neverRefuses_pure (a : α) : NeverRefuses (.pure a : FakeProg α) := by
  intro n s l h
  cases h

theorem neverRefuses_attributes {f : FakeVLLMEngine → FakeProg α} (hf : ∀ g, NeverRefuses (f g)) :
    NeverRefuses (FakeVLLMAdapter.attributes.bind f) :=
  fun n s l => hf s.engine (n + 1) s l

theorem neverRefuses_engine {call : EngineCall} {f : call.Ret → FakeProg α}
    (hcall : ∀ g, RaisesFake call.run g) (hf : ∀ r, NeverRefuses (f r)) :
    NeverRefuses ((FakeVLLMAdapter.engine call).bind f) := by
  intro n s l
  have hraises := hcall s.engine
  show (((ofExcept (call.reply s.engine).1).bind f).play fakeAnswer (fun _ _ => none) (n + 1)
    { s with engine := (call.reply s.engine).2 }).2.1 ≠ _
  unfold EngineCall.reply
  cases hrun : call.run.run s.engine with
  | ok r g' => exact hf r (n + 1) _ l
  | error e g' =>
    unfold RaisesFake at hraises
    rw [hrun] at hraises
    obtain ⟨m, rfl⟩ := hraises
    intro h
    cases h

/-- Played from `s`, the program refuses an engine labelled `l`. -/
def Refuses (p : FakeProg α) (n : ℕ) (s : FakeSystem) (l : String) : Prop :=
  (p.play fakeAnswer (fun _ _ => none) n s).2.1 = .error (.core (.alreadyManagedEngine l))

theorem refuses_attributes {f : FakeVLLMEngine → FakeProg α} {n : ℕ} {s : FakeSystem} {l : String} :
    Refuses (FakeVLLMAdapter.attributes.bind f) n s l ↔ Refuses (f s.engine) (n + 1) s l := .rfl

theorem refuses_engine {call : EngineCall} {f : call.Ret → FakeProg α} {n : ℕ} {s : FakeSystem}
    {l : String} {r : call.Ret} {g : FakeVLLMEngine} (h : call.run.run s.engine = .ok r g) :
    Refuses ((FakeVLLMAdapter.engine call).bind f) n s l ↔
      Refuses (f r) (n + 1) { s with engine := g } l := by
  show (((ofExcept (call.reply s.engine).1).bind f).play fakeAnswer (fun _ _ => none) (n + 1)
    { s with engine := (call.reply s.engine).2 }).2.1 = _ ↔ _
  unfold EngineCall.reply
  rw [h]
  rfl

theorem refuses_engine_raised {call : EngineCall} {f : call.Ret → FakeProg α} {n : ℕ}
    {s : FakeSystem} {l : String} {e : PyExc} {g : FakeVLLMEngine}
    (h : call.run.run s.engine = .error e g) :
    Refuses ((FakeVLLMAdapter.engine call).bind f) n s l ↔ e = .core (.alreadyManagedEngine l) := by
  show (((ofExcept (call.reply s.engine).1).bind f).play fakeAnswer (fun _ _ => none) (n + 1)
    { s with engine := (call.reply s.engine).2 }).2.1 = _ ↔ _
  unfold EngineCall.reply
  rw [h]
  exact ⟨Except.error.inj, congrArg Except.error⟩

theorem call_run (name : String) (g : FakeVLLMEngine) : (FakeVLLMEngine.call name).run g =
    ((match g.faults.get? name with
      | some message => throw (.fakeEngine message)
      | none => pure ()) : Endpoint Unit).run { g with calls := g.calls ++ [name] } := rfl

theorem getWeightInfo_faulted {g : FakeVLLMEngine} {m : String}
    (hf : g.faults.get? "get_weight_info" = some m) :
    EngineCall.getWeightInfo.run.run g =
      .error (.fakeEngine m) { g with calls := g.calls ++ ["get_weight_info"] } := by
  show FakeVLLMEngine.getWeightInfo.run g = _
  unfold FakeVLLMEngine.getWeightInfo
  refine bind_of_error ?_
  rw [call_run, hf]
  rfl

theorem getWeightInfo_run {g : FakeVLLMEngine} (hf : g.faults.get? "get_weight_info" = none) :
    EngineCall.getWeightInfo.run.run g =
      .ok g.weightVersion { g with calls := g.calls ++ ["get_weight_info"] } := by
  show FakeVLLMEngine.getWeightInfo.run g = _
  have hcall : (FakeVLLMEngine.call "get_weight_info").run g =
      .ok () { g with calls := g.calls ++ ["get_weight_info"] } := by
    rw [call_run, hf]
    rfl
  unfold FakeVLLMEngine.getWeightInfo
  rw [bind_of_ok hcall]
  rfl

/-- The reference adapter refuses exactly the labels with the prefix, if it can read them. -/
theorem fakeBootstrap_refuses_iff {g : FakeVLLMEngine} {i : WeightIdentity}
    (hi : g.weightIdentity = some i) :
    fakeBootstrap g = .error (.core (.alreadyManagedEngine g.weightVersion)) ↔
      startsWith ENGINE_LABEL_PREFIX g.weightVersion = true ∧
        g.faults.get? "get_weight_info" = none := by
  refine refuses_attributes.trans ?_
  rw [hi]
  cases hf : g.faults.get? "get_weight_info" with
  | some m => exact (refuses_engine_raised (getWeightInfo_faulted hf)).trans (by simp)
  | none =>
    rw [and_iff_left rfl]
    refine (refuses_engine (getWeightInfo_run hf)).trans ?_
    refine refuses_attributes.trans ?_
    show Refuses (if startsWith ENGINE_LABEL_PREFIX g.weightVersion = true then _ else _) _ _ _ ↔ _
    by_cases hp : startsWith ENGINE_LABEL_PREFIX g.weightVersion = true
    · rw [if_pos hp]
      exact iff_of_true rfl hp
    · rw [if_neg hp]
      refine iff_of_false ((?_ : NeverRefuses _) _ _ _) hp
      refine neverRefuses_attributes fun _ => neverRefuses_engine ?_ fun _ =>
        neverRefuses_engine ?_ fun _ => neverRefuses_engine ?_ fun _ => neverRefuses_attributes
          fun _ => neverRefuses_attributes fun _ => neverRefuses_engine ?_ fun _ =>
            neverRefuses_pure _
      · exact fun g => raisesFake_endpoint _ g fun _ => Ends.modify trivial
      · exact fun g => raisesFake_endpoint _ g fun _ => Ends.modify trivial
      · exact fun g => raisesFake_endpoint _ g fun _ => trivial
      · exact fun g => raisesFake_endpoint _ g fun _ => trivial

end Fake

/-! ## The HTTP adapter and the evidence -/

theorem weightInfo_reads {J : JsonModule} {a : HttpVLLMAdapter} {r : Response} {l : String}
    (hr : AnswersLabel J r l) :
    (a.weightInfo J).Yields [a.exchange "GET" "/weight_info" "" (.ok r)] (.ok l) := by
  obtain ⟨hstatus, fields, hj, hl⟩ := hr
  have hcall : (a.call "GET" "/weight_info" none "" none).Yields
      [a.exchange "GET" "/weight_info" "" (.ok r)] (.ok r) :=
    .perform (yields_ofExcept.mpr ⟨rfl, HttpVLLMAdapter.accept_eq_ok.mpr ⟨rfl, hstatus⟩⟩)
  have hjson : (a.getJson J "/weight_info" "").Yields
      ([a.exchange "GET" "/weight_info" "" (.ok r)] ++ []) (.ok (.obj fields)) :=
    hcall.bind (yields_ofExcept.mpr ⟨rfl, hj⟩)
  have hfield : (Prog.ofExcept ((Json.obj fields).get "weight_version") : HttpProg Json).Yields []
      (.ok (.str l)) :=
    yields_ofExcept.mpr ⟨rfl, HttpVLLMAdapter.get_eq_ok.mpr ⟨fields, rfl, hl⟩⟩
  exact hjson.bind (hfield.bind (.pure l))

/-- The HTTP adapter refuses exactly the labels that parse. -/
theorem httpRefuses_iff {J : JsonModule} {a : HttpVLLMAdapter} {r : Response} {l : String}
    {i : WeightIdentity} (hi : a.weightIdentity = some i) (hr : AnswersLabel J r l) :
    HttpRefuses J a r l ↔ ∃ v, WeightVersion.parseLabel l = .ok v := by
  unfold HttpRefuses HttpVLLMAdapter.bootstrap
  rw [hi]
  have hread := weightInfo_reads (a := a) hr
  rw [← List.append_nil [_]]
  refine hread.bind_iff.trans ?_
  cases hp : WeightVersion.parseLabel l with
  | ok v => exact iff_of_true (.throw _) ⟨v, rfl⟩
  | error exc =>
    refine iff_of_false (fun h => ?_) (by simp)
    cases h

theorem failureReason_iff {e : BootstrapEvidence} {l : String} (hl : e.preSeedLabel = some l)
    (hw : e.weightTransferInitialised = e.weightTransferDriver.isSome) :
    e.failureReason ≠ none ↔ ∃ v, WeightVersion.parseLabel l = .ok v := by
  unfold BootstrapEvidence.failureReason
  rw [hl, hw]
  cases e.weightTransferDriver <;> cases hp : WeightVersion.parseLabel l <;> simp [hp]

/-! ## Agreement -/

/-- **When the three agree.** The reference adapter, the HTTP adapter and the evidence decide that
an engine labelled `l` is managed all alike, if and only if `l` does not start with the prefix or
has decimal digits and nothing else behind it; with a fault injected for reading the label, which
the reference adapter then raises, if and only if `l` is not of this form. The HTTP adapter and the
evidence always agree. -/
theorem refusals_agree_iff {J : JsonModule} {a : HttpVLLMAdapter} {r : Response}
    {g : FakeVLLMEngine} {e : BootstrapEvidence} {i i' : WeightIdentity} {l : String}
    (hg : g.weightVersion = l) (hi : g.weightIdentity = some i) (hi' : a.weightIdentity = some i')
    (hr : AnswersLabel J r l) (hl : e.preSeedLabel = some l)
    (hw : e.weightTransferInitialised = e.weightTransferDriver.isSome) :
    (HttpRefuses J a r l ↔ e.failureReason ≠ none) ∧
    (((fakeBootstrap g = .error (.core (.alreadyManagedEngine l)) ↔ HttpRefuses J a r l) ∧
        (HttpRefuses J a r l ↔ e.failureReason ≠ none)) ↔
      (startsWith ENGINE_LABEL_PREFIX l = true →
        (DecimalSuffix l ↔ g.faults.get? "get_weight_info" = none))) := by
  subst hg
  have hevidence := (httpRefuses_iff hi' hr).trans (failureReason_iff hl hw).symm
  refine ⟨hevidence, ?_⟩
  rw [and_iff_left hevidence, fakeBootstrap_refuses_iff hi, httpRefuses_iff hi' hr, parses_iff,
    and_congr_right_iff]
  exact forall_congr' fun _ => iff_comm

/-- A decoder that knows the answers of two engines. -/
def labelledJson : JsonModule :=
  knownTexts [("\x7b\"weight_version\": \"rc-7\"\x7d", .obj [("weight_version", .str "rc-7")]),
    ("\x7b\"weight_version\": \"rc-\"\x7d", .obj [("weight_version", .str "rc-")])]

/-- All three refuse an engine at `rc-7`. -/
theorem refusals_agree_on_seven :
    (fakeBootstrap { weightVersion := "rc-7", weightIdentity := some identityA } =
        .error (.core (.alreadyManagedEngine "rc-7")) ↔
      HttpRefuses labelledJson { weightIdentity := some identityA }
        ⟨200, "\x7b\"weight_version\": \"rc-7\"\x7d"⟩ "rc-7") ∧
    (HttpRefuses labelledJson { weightIdentity := some identityA }
        ⟨200, "\x7b\"weight_version\": \"rc-7\"\x7d"⟩ "rc-7" ↔
      { goodBootstrap identityA with preSeedLabel := some "rc-7" }.failureReason ≠ none) :=
  (refusals_agree_iff rfl rfl rfl ⟨by decide, _, rfl, rfl⟩ rfl rfl).2.mpr fun _ =>
    iff_of_true (parses_iff.mp ⟨⟨7⟩, by decide⟩).2 rfl

/-- The reference adapter refuses an engine at `rc-`; the HTTP adapter does not, and evidence with
that label passes. -/
theorem bare_prefix_refused_by_one :
    fakeBootstrap { weightVersion := "rc-", weightIdentity := some identityA } =
      .error (.core (.alreadyManagedEngine "rc-")) ∧
    ¬ HttpRefuses labelledJson { weightIdentity := some identityA }
      ⟨200, "\x7b\"weight_version\": \"rc-\"\x7d"⟩ "rc-" ∧
    { goodBootstrap identityA with preSeedLabel := some "rc-" }.failureReason = none := by
  refine ⟨(fakeBootstrap_refuses_iff rfl).mpr ⟨by decide, rfl⟩, ?_, by decide⟩
  rw [httpRefuses_iff (i := identityA) rfl ⟨by decide, _, rfl, rfl⟩, parses_iff]
  rintro ⟨-, hne, -⟩
  exact hne (by decide)

end RolloutCore
