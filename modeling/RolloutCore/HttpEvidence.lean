import RolloutCore.HttpAdapter
import RolloutCore.LifecycleGuarantees
import RolloutCore.Lib.Exchanges

/-!
# What HTTP evidence rests on

The replies behind a piece of evidence: for each of the three read-back methods, exactly the
requests of a run that returned, and the evidence as a function of their answers.
-/

namespace RolloutCore

open LifecycleController Prog

abbrev HttpExchange := Exchange HttpCall.Reply

/-! ## Answers -/

/-- The request, answered so. -/
abbrev HttpVLLMAdapter.exchange (a : HttpVLLMAdapter) (method path query : String)
    (answer : Except PyExc Response) : HttpExchange :=
  ⟨.request method (a.url path query) none a.timeout, answer⟩

/-- The transport answered with a status below 400. -/
def Answered (method : String) (url : Url) (l : List HttpExchange) (r : Response) : Prop :=
  r.status < 400 ∧
    ∃ body timeout, (⟨.request method url body timeout, .ok r⟩ : HttpExchange) ∈ l

/-- The request went through. -/
def WentThrough (method : String) (url : Url) (l : List HttpExchange) : Prop :=
  ∃ r, Answered method url l r

/-- The request was answered with an object that has `v` under `key`, `None` when it has nothing. -/
def Says (J : JsonModule) (method : String) (url : Url) (key : String) (l : List HttpExchange)
    (v : Json) : Prop :=
  ∃ r fields, Answered method url l r ∧ r.json J = .ok (.obj fields) ∧ Json.lookup fields key = v

/-- The path a request asks for. -/
def pathOf : HttpExchange → Option String
  | ⟨.request _ url _ _, _⟩ => some url.path
  | _ => none

section Unique

variable {J : JsonModule} {a : HttpVLLMAdapter} {method path query key : String}
  {l : List HttpExchange} {answer : Except PyExc Response} {r : Response} {v : Json}
  {fields : List (String × Json)}

/-- A request that is the only one for its path. -/
theorem answered_iff
    (hl : l.filter (pathOf · = some path) = [a.exchange method path query answer]) :
    Answered method (a.url path query) l r ↔ answer = .ok r ∧ r.status < 400 := by
  constructor
  · rintro ⟨hr, body, timeout, hmem⟩
    have hf : (⟨.request method (a.url path query) body timeout, .ok r⟩ : HttpExchange) ∈
        l.filter (pathOf · = some path) := List.mem_filter.mpr ⟨hmem, decide_eq_true rfl⟩
    rw [hl, List.mem_singleton] at hf
    cases hf
    exact ⟨rfl, hr⟩
  · rintro ⟨rfl, hr⟩
    have hmem : a.exchange method path query (.ok r) ∈ l :=
      (List.mem_filter.mp (hl ▸ List.mem_singleton_self _)).1
    exact ⟨hr, none, a.timeout, hmem⟩

theorem wentThrough_iff
    (hl : l.filter (pathOf · = some path) = [a.exchange method path query answer]) :
    WentThrough method (a.url path query) l ↔ ∃ r, answer = .ok r ∧ r.status < 400 :=
  exists_congr fun _ => answered_iff hl

theorem says_iff (hl : l.filter (pathOf · = some path) = [a.exchange method path query (.ok r)])
    (hr : r.status < 400) (hj : r.json J = .ok (.obj fields)) :
    Says J method (a.url path query) key l v ↔ Json.lookup fields key = v := by
  constructor
  · rintro ⟨r', fields', hr', hj', rfl⟩
    cases ((answered_iff hl).mp hr').1
    cases hj.symm.trans hj'
    rfl
  · rintro rfl
    exact ⟨r, fields, (answered_iff hl).mpr ⟨rfl, hr⟩, hj, rfl⟩

end Unique

section Programs

variable {J : JsonModule} {a : HttpVLLMAdapter} {l : List HttpExchange}

namespace HttpVLLMAdapter

/-- A call is one request. -/
theorem call_yields {method path query : String} {x : Except PyExc Response}
    (h : (a.call method path none query none).Yields l x) :
    ∃ answer, l = [a.exchange method path query answer] ∧ accept method path answer = x := by
  cases h with
  | perform h =>
    obtain ⟨rfl, hx⟩ := yields_ofExcept.mp h
    exact ⟨_, rfl, hx⟩

theorem getJson_yields {path query : String} {v : Json}
    (h : (a.getJson J path query).Yields l (.ok v)) :
    ∃ r, l = [a.exchange "GET" path query (.ok r)] ∧ r.status < 400 ∧ r.json J = .ok v := by
  obtain ⟨r, l₁, l₂, hcall, hjson, rfl⟩ := yields_bind.mp h
  obtain ⟨answer, rfl, hacc⟩ := call_yields hcall
  obtain ⟨rfl, hv⟩ := yields_ofExcept.mp hjson
  obtain ⟨rfl, hr⟩ := accept_eq_ok.mp hacc
  exact ⟨r, rfl, hr, hv⟩

/-- A field read with `.get`: the answer is an object. -/
theorem get_eq_ok {v w : Json} {key : String} :
    v.get key = .ok w ↔ ∃ fields, v = .obj fields ∧ Json.lookup fields key = w := by
  cases v <;> simp [Json.get]

theorem weightInfo_yields {label : String} (h : (a.weightInfo J).Yields l (.ok label)) :
    ∃ r fields, l = [a.exchange "GET" "/weight_info" "" (.ok r)] ∧ r.status < 400 ∧
      r.json J = .ok (.obj fields) ∧ Json.lookup fields "weight_version" = .str label := by
  obtain ⟨body, l₁, l₂, hbody, hrest, rfl⟩ := yields_bind.mp h
  obtain ⟨r, rfl, hr, hv⟩ := getJson_yields hbody
  obtain ⟨v, l₃, l₄, hget, hmatch, rfl⟩ := yields_bind.mp hrest
  obtain ⟨rfl, hobj⟩ := yields_ofExcept.mp hget
  obtain ⟨fields, rfl, hlookup⟩ := get_eq_ok.mp hobj
  cases v with
  | str s =>
    cases hmatch
    exact ⟨r, fields, rfl, hr, hv, hlookup⟩
  | _ => cases hmatch

theorem isPaused_yields {b : Bool} (h : (a.isPaused J).Yields l (.ok b)) :
    ∃ r fields, l = [a.exchange "GET" "/is_paused" "" (.ok r)] ∧ r.status < 400 ∧
      r.json J = .ok (.obj fields) ∧ (Json.lookup fields "is_paused").truthy = b := by
  obtain ⟨body, l₁, l₂, hbody, hrest, rfl⟩ := yields_bind.mp h
  obtain ⟨r, rfl, hr, hv⟩ := getJson_yields hbody
  obtain ⟨v, l₃, l₄, hget, hret, rfl⟩ := yields_bind.mp hrest
  obtain ⟨rfl, hobj⟩ := yields_ofExcept.mp hget
  obtain ⟨fields, rfl, rfl⟩ := get_eq_ok.mp hobj
  cases hret
  exact ⟨r, fields, rfl, hr, hv, rfl⟩

/-- A call whose `HTTPAdapterError` is caught tells whether it went through. -/
theorem succeeds_yields {method path query : String} {b : Bool}
    (h : (succeeds (a.call method path none query none)).Yields l (.ok b)) :
    ∃ answer, l = [a.exchange method path query answer] ∧
      (b = true ↔ ∃ r, answer = .ok r ∧ r.status < 400) := by
  obtain ⟨x, l₁, l₂, hcall, hmatch, rfl⟩ := yields_bind.mp h
  obtain ⟨answer, rfl, hacc⟩ := call_yields (yields_attempt.mp hcall)
  refine ⟨answer, ?_⟩
  cases x with
  | ok r =>
    cases hmatch
    exact ⟨rfl, iff_of_true rfl ⟨r, accept_eq_ok.mp hacc⟩⟩
  | error e =>
    have hno : ¬ ∃ r, answer = .ok r ∧ r.status < 400 := by
      rintro ⟨r, hr⟩
      cases hacc.symm.trans (accept_eq_ok.mpr hr)
    cases e with
    | httpAdapter m p d =>
      cases hmatch
      exact ⟨rfl, iff_of_false (by simp) hno⟩
    | _ => cases hmatch

/-! ## The three methods -/

theorem validatePreResume_yields {t : UpdateTarget} {ev : ValidateEvidence}
    (h : (a.validatePreResume J t).Yields l (.ok ev)) :
    ∃ r₁ f₁ r₂ f₂, l = [a.exchange "GET" "/weight_info" "" (.ok r₁),
        a.exchange "GET" "/is_paused" "" (.ok r₂)] ∧
      r₁.status < 400 ∧ r₁.json J = .ok (.obj f₁) ∧ r₂.status < 400 ∧ r₂.json J = .ok (.obj f₂) ∧
      Json.lookup f₁ "weight_version" = .str ev.observedEngineLabel ∧
      ev = ⟨t, ev.observedEngineLabel, (Json.lookup f₂ "is_paused").truthy, true⟩ := by
  obtain ⟨observed, l₁, l₂, hinfo, hrest, rfl⟩ := yields_bind.mp h
  obtain ⟨r₁, f₁, rfl, hr₁, hj₁, hlabel⟩ := weightInfo_yields hinfo
  obtain ⟨paused, l₃, l₄, hpaused, hret, rfl⟩ := yields_bind.mp hrest
  obtain ⟨r₂, f₂, rfl, hr₂, hj₂, rfl⟩ := isPaused_yields hpaused
  cases hret
  exact ⟨r₁, f₁, r₂, f₂, rfl, hr₁, hj₁, hr₂, hj₂, hlabel, rfl⟩

theorem resume_yields {t : UpdateTarget} {ev : ResumeEvidence}
    (h : (a.resume J t).Yields l (.ok ev)) :
    ∃ answer r₁ f₁ r₂ f₂ label, l = [a.exchange "POST" "/resume" "" answer,
        a.exchange "GET" "/is_paused" "" (.ok r₁), a.exchange "GET" "/weight_info" "" (.ok r₂)] ∧
      r₁.status < 400 ∧ r₁.json J = .ok (.obj f₁) ∧ r₂.status < 400 ∧ r₂.json J = .ok (.obj f₂) ∧
      Json.lookup f₂ "weight_version" = .str label ∧
      (ev.resumeAcknowledged = true ↔ ∃ r, answer = .ok r ∧ r.status < 400) ∧
      ev = ⟨t, ev.resumeAcknowledged, (Json.lookup f₁ "is_paused").truthy, some label⟩ := by
  obtain ⟨acknowledged, l₁, l₂, hresume, hrest, rfl⟩ := yields_bind.mp h
  obtain ⟨answer, rfl, hack⟩ := succeeds_yields hresume
  obtain ⟨paused, l₃, l₄, hpaused, hrest, rfl⟩ := yields_bind.mp hrest
  obtain ⟨r₁, f₁, rfl, hr₁, hj₁, rfl⟩ := isPaused_yields hpaused
  obtain ⟨label, l₅, l₆, hinfo, hret, rfl⟩ := yields_bind.mp hrest
  obtain ⟨r₂, f₂, rfl, hr₂, hj₂, hlabel⟩ := weightInfo_yields hinfo
  cases hret
  exact ⟨answer, r₁, f₁, r₂, f₂, label, rfl, hr₁, hj₁, hr₂, hj₂, hlabel, hack, rfl⟩

/-- The query of the prefix reset. -/
def prefixQuery : String := "?reset_running_requests=true&reset_external=true"

theorem invalidateCaches_yields {ev : InvalidateEvidence}
    (h : (a.invalidateCaches J).Yields l (.ok ev)) :
    ∃ r v answer₁ answer₂, l = [a.exchange "POST" "/reset_prefix_cache" prefixQuery (.ok r),
        a.exchange "POST" "/reset_encoder_cache" "" answer₁,
        a.exchange "POST" "/reset_mm_cache" "" answer₂] ∧
      r.status < 400 ∧ r.json J = .ok v ∧
      (ev.prefixCacheReset = true ↔
        ∃ fields, v = .obj fields ∧ (Json.lookup fields "success").truthy = true) ∧
      (ev.encoderCacheReset = true ↔ ∃ r, answer₁ = .ok r ∧ r.status < 400) ∧
      (ev.mmCacheReset = true ↔ ∃ r, answer₂ = .ok r ∧ r.status < 400) := by
  have htail : ∀ {prefixOk : Bool} {l : List HttpExchange},
      (do
        let encoderOk ← succeeds (a.call "POST" "/reset_encoder_cache" none "" none)
        let mmOk ← succeeds (a.call "POST" "/reset_mm_cache" none "" none)
        return ⟨prefixOk, encoderOk, mmOk⟩ : HttpProg InvalidateEvidence).Yields l (.ok ev) →
      ∃ answer₁ answer₂, l = [a.exchange "POST" "/reset_encoder_cache" "" answer₁,
          a.exchange "POST" "/reset_mm_cache" "" answer₂] ∧ ev.prefixCacheReset = prefixOk ∧
        (ev.encoderCacheReset = true ↔ ∃ r, answer₁ = .ok r ∧ r.status < 400) ∧
        (ev.mmCacheReset = true ↔ ∃ r, answer₂ = .ok r ∧ r.status < 400) := by
    intro prefixOk l h
    obtain ⟨encoderOk, l₁, l₂, hencoder, hrest, rfl⟩ := yields_bind.mp h
    obtain ⟨answer₁, rfl, h₁⟩ := succeeds_yields hencoder
    obtain ⟨mmOk, l₃, l₄, hmm, hret, rfl⟩ := yields_bind.mp hrest
    obtain ⟨answer₂, rfl, h₂⟩ := succeeds_yields hmm
    cases hret
    exact ⟨answer₁, answer₂, rfl, rfl, h₁, h₂⟩
  obtain ⟨r, l₁, l₂, hcall, hrest, rfl⟩ := yields_bind.mp h
  obtain ⟨answer, rfl, hacc⟩ := call_yields hcall
  obtain ⟨rfl, hr⟩ := accept_eq_ok.mp hacc
  obtain ⟨v, l₃, l₄, hjson, hbranch, rfl⟩ := yields_bind.mp hrest
  obtain ⟨rfl, hv⟩ := yields_ofExcept.mp hjson
  dsimp only at hbranch
  by_cases htruthy : v.truthy = true
  · rw [if_pos htruthy] at hbranch
    obtain ⟨w, l₅, l₆, hget, hlast, rfl⟩ := yields_bind.mp hbranch
    obtain ⟨rfl, hobj⟩ := yields_ofExcept.mp hget
    obtain ⟨fields, rfl, rfl⟩ := get_eq_ok.mp hobj
    obtain ⟨answer₁, answer₂, rfl, hpre, h₁, h₂⟩ := htail hlast
    refine ⟨r, _, answer₁, answer₂, rfl, hr, hv, ?_, h₁, h₂⟩
    rw [hpre]
    simp
  · rw [if_neg htruthy] at hbranch
    obtain ⟨answer₁, answer₂, rfl, hpre, h₁, h₂⟩ := htail hbranch
    refine ⟨r, v, answer₁, answer₂, rfl, hr, hv, ?_, h₁, h₂⟩
    rw [hpre]
    refine iff_of_false (by simp) ?_
    rintro ⟨fields, rfl, hs⟩
    -- a falsy object is empty, so nothing is under the key
    cases fields with
    | nil => cases hs
    | cons => simp [Json.truthy] at htruthy

end HttpVLLMAdapter

end Programs

/-! ## The guarantee -/

/-- The evidence passes, or lets some controller take the step. -/
def Passes (op : Op) (failureReason : Option String) : Prop :=
  failureReason = none ∨ ∃ c, Reachable c ∧ op.succeeds c = true

theorem passes_confirmValidated {ev : ValidateEvidence} :
    Passes (.confirmValidated ev) ev.failureReason ↔ ev.failureReason = none := by
  refine ⟨fun h => h.elim id ?_, .inl⟩
  rintro ⟨c, hc, hs⟩
  obtain ⟨r, c', -, ha⟩ := Op.accepted_of_succeeds hc.inv hs
  cases ha with
  | confirmValidated _ _ he => exact he

theorem passes_confirmResumed {ev : ResumeEvidence} :
    Passes (.confirmResumed ev) ev.failureReason ↔ ev.failureReason = none := by
  refine ⟨fun h => h.elim id ?_, .inl⟩
  rintro ⟨c, hc, hs⟩
  obtain ⟨r, c', -, ha⟩ := Op.accepted_of_succeeds hc.inv hs
  cases ha with
  | confirmResumed _ _ he => exact he

theorem passes_confirmInvalidated {ev : InvalidateEvidence} :
    Passes (.confirmInvalidated ev) ev.failureReason ↔ ev.failureReason = none := by
  refine ⟨fun h => h.elim id ?_, .inl⟩
  rintro ⟨c, hc, hs⟩
  obtain ⟨r, c', -, ha⟩ := Op.accepted_of_succeeds hc.inv hs
  cases ha with
  | confirmInvalidated _ _ he => exact he

section Guarantee

variable {J : JsonModule} {a : HttpVLLMAdapter} {t : UpdateTarget} {l : List HttpExchange}

/-- What validation should rest on. -/
def ValidationGrounds (J : JsonModule) (a : HttpVLLMAdapter) (t : UpdateTarget)
    (l : List HttpExchange) : Prop :=
  Says J "GET" (a.url "/weight_info" "") "weight_version" l (.str t.label) ∧
    Says J "GET" (a.url "/is_paused" "") "is_paused" l (.bool true)

/-- What a commit should rest on. -/
def ResumeGrounds (J : JsonModule) (a : HttpVLLMAdapter) (t : UpdateTarget)
    (l : List HttpExchange) : Prop :=
  WentThrough "POST" (a.url "/resume" "") l ∧
    Says J "GET" (a.url "/weight_info" "") "weight_version" l (.str t.label) ∧
    Says J "GET" (a.url "/is_paused" "") "is_paused" l (.bool false)

/-- What an invalidation should rest on. -/
def InvalidationGrounds (J : JsonModule) (a : HttpVLLMAdapter) (l : List HttpExchange) : Prop :=
  WentThrough "POST" (a.url "/reset_prefix_cache" HttpVLLMAdapter.prefixQuery) l ∧
    WentThrough "POST" (a.url "/reset_encoder_cache" "") l ∧
    WentThrough "POST" (a.url "/reset_mm_cache" "") l ∧
    Says J "POST" (a.url "/reset_prefix_cache" HttpVLLMAdapter.prefixQuery) "success" l (.bool true)

theorem validation_honest {ev : ValidateEvidence}
    (h : (a.validatePreResume J t).Yields l (.ok ev)) :
    (ev.failureReason = none → ValidationGrounds J a t l) ↔
      (Says J "GET" (a.url "/weight_info" "") "weight_version" l (.str t.label) →
        ∀ v, Says J "GET" (a.url "/is_paused" "") "is_paused" l v → v.truthy = true →
          v = .bool true) := by
  obtain ⟨r₁, f₁, r₂, f₂, hl, hr₁, hj₁, hr₂, hj₂, hlabel, hev⟩ :=
    HttpVLLMAdapter.validatePreResume_yields h
  have hinfo : l.filter (pathOf · = some "/weight_info") =
      [a.exchange "GET" "/weight_info" "" (.ok r₁)] := by rw [hl]; rfl
  have hpaused : l.filter (pathOf · = some "/is_paused") =
      [a.exchange "GET" "/is_paused" "" (.ok r₂)] := by rw [hl]; rfl
  unfold ValidationGrounds
  rw [ValidateEvidence.failureReason_eq_none, says_iff hinfo hr₁ hj₁, hlabel, hev]
  simp only [Json.str.injEq, says_iff hpaused hr₂ hj₂, forall_eq', and_true]
  constructor
  · intro hpass hlabel htruthy
    exact (hpass ⟨hlabel, htruthy⟩).2
  · rintro hpass ⟨hlabel, htruthy⟩
    exact ⟨hlabel, hpass hlabel htruthy⟩

theorem resume_honest {ev : ResumeEvidence} (h : (a.resume J t).Yields l (.ok ev)) :
    (ev.failureReason = none → ResumeGrounds J a t l) ↔
      (WentThrough "POST" (a.url "/resume" "") l →
        Says J "GET" (a.url "/weight_info" "") "weight_version" l (.str t.label) →
        ∀ v, Says J "GET" (a.url "/is_paused" "") "is_paused" l v → v.truthy = false →
          v = .bool false) := by
  obtain ⟨answer, r₁, f₁, r₂, f₂, label, hl, hr₁, hj₁, hr₂, hj₂, hlabel, hack, hev⟩ :=
    HttpVLLMAdapter.resume_yields h
  have hresume : l.filter (pathOf · = some "/resume") =
      [a.exchange "POST" "/resume" "" answer] := by rw [hl]; rfl
  have hpaused : l.filter (pathOf · = some "/is_paused") =
      [a.exchange "GET" "/is_paused" "" (.ok r₁)] := by rw [hl]; rfl
  have hinfo : l.filter (pathOf · = some "/weight_info") =
      [a.exchange "GET" "/weight_info" "" (.ok r₂)] := by rw [hl]; rfl
  unfold ResumeGrounds
  rw [ResumeEvidence.failureReason_eq_none, says_iff hinfo hr₂ hj₂, hlabel,
    wentThrough_iff hresume, ← hack, hev]
  simp only [Json.str.injEq, says_iff hpaused hr₁ hj₁, forall_eq', Option.some.injEq,
    reduceCtorEq, false_or]
  constructor
  · intro hpass hresumed hlabel htruthy
    exact (hpass ⟨hresumed, htruthy, hlabel⟩).2.2
  · rintro hpass ⟨hresumed, htruthy, hlabel⟩
    exact ⟨hresumed, hlabel, hpass hresumed hlabel htruthy⟩

theorem invalidation_honest {ev : InvalidateEvidence}
    (h : (a.invalidateCaches J).Yields l (.ok ev)) :
    (ev.failureReason = none → InvalidationGrounds J a l) ↔
      (WentThrough "POST" (a.url "/reset_encoder_cache" "") l →
        WentThrough "POST" (a.url "/reset_mm_cache" "") l →
        ∀ v, Says J "POST" (a.url "/reset_prefix_cache" HttpVLLMAdapter.prefixQuery) "success" l v →
          v.truthy = true → v = .bool true) := by
  obtain ⟨r, body, answer₁, answer₂, hl, hr, hj, hpre, hencoder, hmm⟩ :=
    HttpVLLMAdapter.invalidateCaches_yields h
  have hreset : l.filter (pathOf · = some "/reset_prefix_cache") =
      [a.exchange "POST" "/reset_prefix_cache" HttpVLLMAdapter.prefixQuery (.ok r)] := by
    rw [hl]; rfl
  have hreset₁ : l.filter (pathOf · = some "/reset_encoder_cache") =
      [a.exchange "POST" "/reset_encoder_cache" "" answer₁] := by rw [hl]; rfl
  have hreset₂ : l.filter (pathOf · = some "/reset_mm_cache") =
      [a.exchange "POST" "/reset_mm_cache" "" answer₂] := by rw [hl]; rfl
  have hwent : WentThrough "POST" (a.url "/reset_prefix_cache" HttpVLLMAdapter.prefixQuery) l :=
    (wentThrough_iff hreset).mpr ⟨r, rfl, hr⟩
  unfold InvalidationGrounds
  rw [InvalidateEvidence.failureReason_eq_none, wentThrough_iff hreset₁, wentThrough_iff hreset₂,
    ← hencoder, ← hmm]
  constructor
  · rintro hpass he hm v ⟨r', fields, hans, hj', rfl⟩ htruthy
    cases ((answered_iff hreset).mp hans).1
    obtain ⟨-, -, -, hsays⟩ := hpass ⟨hpre.mpr ⟨fields, Except.ok.inj (hj.symm.trans hj'),
      htruthy⟩, he, hm⟩
    exact (says_iff hreset hr hj').mp hsays
  · rintro hpass ⟨hp, he, hm⟩
    obtain ⟨fields, rfl, htruthy⟩ := hpre.mp hp
    have hv := hpass he hm _ ((says_iff hreset hr hj).mpr rfl) htruthy
    exact ⟨hwent, he, hm, (says_iff hreset hr hj).mpr hv⟩

end Guarantee

/-! ## Computed runs -/

/-- A decoder that knows some texts; it agrees with `json.loads` on those in use here. -/
def knownTexts (known : List (String × Json)) : JsonModule where
  loads s := (known.lookup s).elim
    (.error (.decode "Expecting value: line 1 column 1 (char 0)")) .ok
  reprStr _ := ""

/-- A transport that answers each path with 200 and a fixed body. -/
def bodyOf (bodies : String → String) : (call : HttpCall) → Unit → call.Reply × Unit
  | .request _ url _ _, s => (.ok ⟨200, bodies url.path⟩, s)
  | .runner (.ctrl _), s => (.error .assertion, s)
  | .runner .state, s => (LifecycleState.uninitialized, s)
  | .runner .currentTarget, s => (none, s)
  | .runner (.adapter _), s => (.error .assertion, s)
  | .runner .monotonic, s => ((0 : ℚ), s)
  | .runner (.sleep _), s => ((), s)
  | .driverInitialise, s => (.ok none, s)
  | .driverTransfer _, s => (.error .assertion, s)
  | .inflight, s => (none, s)
  | .openAttempt, s => ((1 : ℕ), s)
  | .drainStatus, s => ((DrainState.idle, none, (0 : ℕ)), s)
  | .setInflight _, s | .resetAttempts, s | .startThread _, s | .closeAttempt .., s => ((), s)

/-- The texts of the concrete runs. -/
def sampleJson : JsonModule :=
  knownTexts [("\x7b\"weight_version\": \"rc-1\"\x7d", .obj [("weight_version", .str "rc-1")]),
    ("\x7b\x7d", .obj []), ("\x7b\"is_paused\": true\x7d", .obj [("is_paused", .bool true)])]

/-- Bodies of an engine at `rc-1` that answers `/is_paused` with `paused`. -/
def bodiesAt (paused : String) (path : String) : String :=
  if path = "/weight_info" then "\x7b\"weight_version\": \"rc-1\"\x7d"
  else if path = "/is_paused" then paused
  else ""

/-- **What HTTP evidence may overstate.** In every run of the three read-back methods that returned,
over every transport: validation evidence that passes rests on the target's label and a boolean
`true` exactly if, once the label is right, nothing truthy other than `true` stands under
`is_paused`; resume evidence rests on a resume that went through, the label and a boolean `false`
exactly if nothing falsy other than `false`, and not nothing, stands there; invalidation evidence
rests on three resets and a boolean `true` exactly if nothing truthy other than `true` stands under
`success`. Evidence that lets a controller step is evidence that passes. -/
theorem http_evidence (J : JsonModule) (a : HttpVLLMAdapter) (t : UpdateTarget) {σ : Type}
    (W : World HttpCall.Reply σ) (s s' : σ) (tr : List (TraceEvent HttpCall.Reply σ)) :
    (∀ ev, Run W (a.validatePreResume J t) s tr (.pure ev) s' →
      ((Passes (.confirmValidated ev) ev.failureReason → ValidationGrounds J a t (exchanges tr)) ↔
        (Says J "GET" (a.url "/weight_info" "") "weight_version" (exchanges tr) (.str t.label) →
          ∀ v, Says J "GET" (a.url "/is_paused" "") "is_paused" (exchanges tr) v →
            v.truthy = true → v = .bool true))) ∧
    (∀ ev, Run W (a.resume J t) s tr (.pure ev) s' →
      ((Passes (.confirmResumed ev) ev.failureReason → ResumeGrounds J a t (exchanges tr)) ↔
        (WentThrough "POST" (a.url "/resume" "") (exchanges tr) →
          Says J "GET" (a.url "/weight_info" "") "weight_version" (exchanges tr) (.str t.label) →
          ∀ v, Says J "GET" (a.url "/is_paused" "") "is_paused" (exchanges tr) v →
            v.truthy = false → v = .bool false))) ∧
    (∀ ev, Run W (a.invalidateCaches J) s tr (.pure ev) s' →
      ((Passes (.confirmInvalidated ev) ev.failureReason →
          InvalidationGrounds J a (exchanges tr)) ↔
        (WentThrough "POST" (a.url "/reset_encoder_cache" "") (exchanges tr) →
          WentThrough "POST" (a.url "/reset_mm_cache" "") (exchanges tr) →
          ∀ v, Says J "POST" (a.url "/reset_prefix_cache" HttpVLLMAdapter.prefixQuery) "success"
            (exchanges tr) v → v.truthy = true → v = .bool true))) := by
  refine ⟨fun ev h => ?_, fun ev h => ?_, fun ev h => ?_⟩
  · rw [passes_confirmValidated]
    exact validation_honest h.yields_pure
  · rw [passes_confirmResumed]
    exact resume_honest h.yields_pure
  · rw [passes_confirmInvalidated]
    exact invalidation_honest h.yields_pure

/-- Validation of a paused engine at `rc-1`. -/
theorem http_evidence_validated : ∃ tr ev s,
    Run (World.solitary (bodyOf (bodiesAt "\x7b\"is_paused\": true\x7d")))
      (HttpVLLMAdapter.validatePreResume sampleJson {} ⟨⟨1⟩, identityB⟩) () tr (.pure ev) s ∧
    ev.failureReason = none ∧ ValidationGrounds sampleJson {} ⟨⟨1⟩, identityB⟩ (exchanges tr) := by
  have hrun := Run.solitary (bodyOf (bodiesAt "\x7b\"is_paused\": true\x7d"))
    (HttpVLLMAdapter.validatePreResume sampleJson {} ⟨⟨1⟩, identityB⟩) ()
  have hev : (⟨⟨⟨1⟩, identityB⟩, "rc-1", true, true⟩ : ValidateEvidence).failureReason = none := by
    decide
  refine ⟨_, ⟨⟨⟨1⟩, identityB⟩, "rc-1", true, true⟩, (), hrun, hev, ?_⟩
  refine ((http_evidence _ _ _ _ _ _ _).1 _ hrun).mpr (fun _ v hv _ => ?_) (.inl hev)
  exact ((says_iff (r := ⟨200, "\x7b\"is_paused\": true\x7d"⟩) (l := exchanges _) rfl (by decide)
    rfl).mp hv).symm

/-- An engine that answers `/is_paused` with an empty object after a resume: the evidence passes
and a controller commits, on nothing. -/
theorem committed_on_empty_answer : ∃ tr ev s,
    Run (World.solitary (bodyOf (bodiesAt "\x7b\x7d")))
      (HttpVLLMAdapter.resume sampleJson {} ⟨⟨1⟩, identityB⟩) () tr (.pure ev) s ∧
    ev.failureReason = none ∧
    (∃ c, Reachable c ∧ ((Op.confirmResumed ev).after c).state = .ready ∧
      ((Op.confirmResumed ev).after c).currentTarget = some ⟨⟨1⟩, identityB⟩) ∧
    ¬ ResumeGrounds sampleJson {} ⟨⟨1⟩, identityB⟩ (exchanges tr) := by
  have hrun := Run.solitary (bodyOf (bodiesAt "\x7b\x7d"))
    (HttpVLLMAdapter.resume sampleJson {} ⟨⟨1⟩, identityB⟩) ()
  refine ⟨_, ⟨⟨⟨1⟩, identityB⟩, true, false, some "rc-1"⟩, (), hrun, by decide, ?_, ?_⟩
  · let ops := Op.initialise (goodBootstrap identityA) :: (goodCycle ⟨⟨1⟩, identityB⟩).dropLast
    exact ⟨runOps ops, ⟨ops, rfl⟩, by decide +kernel, by decide +kernel⟩
  · rintro ⟨-, -, hpaused⟩
    have hsays := (says_iff (r := ⟨200, "\x7b\x7d"⟩) (l := exchanges _) rfl (by decide)
      rfl).mp hpaused
    cases hsays

end RolloutCore
