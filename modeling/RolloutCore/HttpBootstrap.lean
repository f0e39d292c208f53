import RolloutCore.HttpEvidence
import RolloutCore.CycleGuarantees
import RolloutCore.Lib.Interleaving

/-!
# Bootstraps side by side

Several runners, each with a controller and an HTTP adapter of its own, bootstrap against one
engine. The label is read and written by separate requests; `ReadFirst` is what a bootstrap relies
on when it takes the engine for unmanaged.
-/

namespace RolloutCore

open LifecycleController CallOutcome

/-! ## The engine and its controllers -/

/-- What a request did to the label of the engine. -/
inductive LabelAccess
  | read | write
  deriving DecidableEq

/-- The label of the engine, the accesses to it in order, and the controller of each side. -/
structure SharedEngine (κ : Type) where
  label : String
  accesses : List (κ × LabelAccess) := []
  controllers : κ → LifecycleController := fun _ => .init

/-- The label in the body of an `/update_weight_version`. -/
def newVersion : Option Json → Option String
  | some (.obj fields) =>
    match Json.lookup fields "new_version" with
    | .str l => some l
    | _ => none
  | _ => none

section Engine

variable {κ : Type} [DecidableEq κ]

/-- A request of side `i` that succeeds, with its response. -/
def EngineServes (J : JsonModule) (i : κ) (path : String) (body : Option Json) (s : SharedEngine κ)
    (r : Response) (s' : SharedEngine κ) : Prop :=
  if path = "/weight_info" then
    (∃ fields, r.json J = .ok (.obj fields) ∧
        Json.lookup fields "weight_version" = .str s.label) ∧
      s' = { s with accesses := s.accesses ++ [(i, .read)] }
  else if path = "/update_weight_version" then
    match newVersion body with
    | some l => s' = { s with label := l, accesses := s.accesses ++ [(i, .write)] }
    | none => s' = s
  else (path = "/get_world_size" → ∃ fields, r.json J = .ok (.obj fields)) ∧ s' = s

/-- What a step of side `i` does. Its requests succeed, and its driver initializes or has nothing to
initialize. -/
def sideAnswers (J : JsonModule) (i : κ) :
    (call : HttpCall) → SharedEngine κ → call.Reply → SharedEngine κ → Prop
  | .runner (.ctrl op), s, reply, s' => ∃ c', op.Replies (s.controllers i) reply c' ∧
    s' = { s with controllers := Function.update s.controllers i c' }
  | .request _ url body _, s, answer, s' =>
    ∃ r, answer = .ok r ∧ r.status < 400 ∧ EngineServes J i url.path body s r s'
  | .driverInitialise, s, reply, s' =>
    (∃ init, reply = .ok init ∧ ∀ x ∈ init, x.initialised = true) ∧ s' = s
  | _, s, _, s' => s' = s

/-- The bootstrap of a side. -/
def bootstrapOver (J : JsonModule) (a : HttpVLLMAdapter) : HttpProg Unit :=
  LifecycleRunner.bootstrap.interp (a.handle J)

/-- The label has been written. -/
def Written (l : List (κ × LabelAccess)) : Prop := ∃ x ∈ l, x.2 = .write

/-- Side `i` has read the label before it was written. -/
def ReadFirst (i : κ) (l : List (κ × LabelAccess)) : Prop :=
  ∃ before after, l = before ++ (i, .read) :: after ∧ ¬ Written before

end Engine

/-! ## What a bootstrap writes -/

/-- Only `rc-0` is written. -/
def SeedsOnly : HttpCall → Prop
  | .request _ url body _ => url.path = "/update_weight_version" →
    newVersion body = some (WeightVersion.mk INITIAL_VERSION).label
  | _ => True

section Performs

open Prog

variable {J : JsonModule} {a : HttpVLLMAdapter}

theorem call_performs (method path : String) (body : Option Json) (query : String)
    (timeout : Option ℚ) (h : path = "/update_weight_version" →
      newVersion body = some (WeightVersion.mk INITIAL_VERSION).label) :
    (a.call method path body query timeout).Performs SeedsOnly :=
  (performs_op h).bind fun _ => performs_ofExcept _

theorem getJson_performs (path query : String) (h : path ≠ "/update_weight_version") :
    (a.getJson J path query).Performs SeedsOnly :=
  (call_performs "GET" path none query none fun hp => absurd hp h).bind fun r =>
    performs_ofExcept (r.json J)

theorem weightInfo_performs : (a.weightInfo J).Performs SeedsOnly := by
  refine (getJson_performs "/weight_info" "" (by decide)).bind fun body =>
    (performs_ofExcept (body.get "weight_version")).bind fun v => ?_
  cases v <;> trivial

theorem bootstrap_performs : (a.bootstrap J).Performs SeedsOnly := by
  unfold HttpVLLMAdapter.bootstrap
  cases a.weightIdentity with
  | none => trivial
  | some i =>
    refine weightInfo_performs.bind fun preSeed => ?_
    cases WeightVersion.parseLabel preSeed with
    | ok v => trivial
    | error e =>
      refine (performs_op (i := HttpCall.driverInitialise) trivial).bind fun reply => ?_
      refine (performs_ofExcept reply).bind fun init => ?_
      refine (call_performs _ "/update_weight_version" _ _ _ fun _ => rfl).bind fun _ =>
        weightInfo_performs.bind fun observed => ?_
      exact (getJson_performs "/get_world_size" _ (by decide)).bind fun body =>
        (performs_ofExcept (body.get "world_size")).bind fun worldSize => trivial

/-- The calls of the runner's `bootstrap`. -/
def IsBootstrapCall : RunnerCall → Prop
  | .ctrl _ | .adapter .bootstrap => True
  | _ => False

theorem runnerBootstrap_performs : LifecycleRunner.bootstrap.Performs IsBootstrapCall := by
  refine Performs.bind (Performs.bind (performs_op trivial) fun reply => ?_) fun evidence =>
    (performs_op trivial).bind fun _ => performs_ofExcept _
  cases reply with
  | ok e => trivial
  | error e =>
    dsimp only
    split_ifs
    · trivial
    · refine (performs_ofExcept _).bind fun _ => ?_
      exact ((performs_op trivial).bind fun _ => performs_ofExcept _).bind fun _ => trivial

theorem bootstrapOver_performs : (bootstrapOver J a).Performs SeedsOnly := by
  refine runnerBootstrap_performs.interp fun call hcall => ?_
  cases call with
  | ctrl op => exact performs_op trivial
  | adapter m =>
    cases m with
    | bootstrap => exact bootstrap_performs.attempt
    | _ => exact hcall.elim
  | _ => exact hcall.elim

end Performs

/-! ## Steps of a side -/

section Sides

variable {κ : Type} {i j : κ} {l : List (κ × LabelAccess)} {x : κ × LabelAccess}

theorem written_append : Written (l ++ [x]) ↔ Written l ∨ x.2 = .write := by
  simp only [Written, List.mem_append, List.mem_singleton, or_and_right, exists_or, exists_eq_left]

/-- Only its own read makes a side one that has read first. -/
theorem readFirst_append :
    ReadFirst i (l ++ [x]) ↔ ReadFirst i l ∨ x = (i, .read) ∧ ¬ Written l := by
  constructor
  · rintro ⟨before, after, heq, hw⟩
    rcases List.eq_nil_or_concat after with rfl | ⟨after, y, rfl⟩
    · obtain ⟨rfl, hx⟩ := List.append_inj' heq rfl
      exact .inr ⟨(List.cons.inj hx).1, hw⟩
    · rw [List.concat_eq_append, ← List.cons_append, ← List.append_assoc] at heq
      exact .inl ⟨before, after, (List.append_inj' heq rfl).1, hw⟩
  · rintro (⟨before, after, rfl, hw⟩ | ⟨rfl, hw⟩)
    · exact ⟨before, after ++ [x], by simp, hw⟩
    · exact ⟨l, [], rfl, hw⟩

theorem readFirst_append_of_ne (h : j ≠ i) {a : LabelAccess} :
    ReadFirst i (l ++ [(j, a)]) ↔ ReadFirst i l := by
  rw [readFirst_append, or_iff_left]
  rintro ⟨hx, -⟩
  exact h (Prod.mk.inj hx).1

theorem readFirst_own {l : List (κ × LabelAccess)} (h : ∀ x ∈ l, x.1 ≠ i) :
    ReadFirst i (l ++ [(i, .read)]) ↔ ¬ Written l := by
  rw [readFirst_append, or_iff_right]
  · exact and_iff_right rfl
  · rintro ⟨before, after, rfl, -⟩
    exact h (i, .read) (by simp) rfl

/-- The label is `rc-0` from the first write on; nothing managed was there before. -/
structure LabelInv (s : SharedEngine κ) : Prop where
  fresh : ¬ Written s.accesses → WeightVersion.Unmanaged s.label
  written : Written s.accesses → s.label = (WeightVersion.mk INITIAL_VERSION).label

variable {s s' : SharedEngine κ}

/-- What a step of side `j` does to the others' view. -/
inductive SideStep (j : κ) (s s' : SharedEngine κ) : Prop
  | quiet (hl : s'.label = s.label) (ha : s'.accesses = s.accesses)
  | reads (hl : s'.label = s.label) (ha : s'.accesses = s.accesses ++ [(j, .read)])
  | seeds (hl : s'.label = (WeightVersion.mk INITIAL_VERSION).label)
    (ha : s'.accesses = s.accesses ++ [(j, .write)])

theorem labelInv_step (hi : LabelInv s) (h : SideStep j s s') : LabelInv s' := by
  cases h with
  | quiet hl ha =>
    refine ⟨fun hw => ?_, fun hw => ?_⟩ <;> rw [ha] at hw <;> rw [hl]
    · exact hi.fresh hw
    · exact hi.written hw
  | reads hl ha =>
    refine ⟨fun hw => ?_, fun hw => ?_⟩ <;> rw [ha, written_append] at hw <;> rw [hl]
    · exact hi.fresh fun h => hw (.inl h)
    · exact hi.written (hw.resolve_right (by simp))
  | seeds hl ha =>
    refine ⟨fun hw => absurd ?_ hw, fun _ => hl⟩
    rw [ha, written_append]
    exact .inr rfl

variable [DecidableEq κ] {J : JsonModule}

theorem sideStep_of_answers {call : HttpCall} {reply : call.Reply} (hcall : SeedsOnly call)
    (h : sideAnswers J j call s reply s') :
    SideStep j s s' ∧ ∀ k, k ≠ j → s'.controllers k = s.controllers k := by
  cases call with
  | runner call =>
    cases call with
    | ctrl op =>
      obtain ⟨c', -, rfl⟩ := h
      exact ⟨.quiet rfl rfl, fun k hk => Function.update_of_ne hk c' s.controllers⟩
    | _ => cases h; exact ⟨.quiet rfl rfl, fun _ _ => rfl⟩
  | request method url body timeout =>
    obtain ⟨r, -, -, h⟩ := h
    unfold EngineServes at h
    split_ifs at h with hinfo hupdate
    · obtain ⟨-, rfl⟩ := h
      exact ⟨.reads rfl rfl, fun _ _ => rfl⟩
    · rw [hcall hupdate] at h
      obtain rfl : s' = _ := h
      exact ⟨.seeds rfl rfl, fun _ _ => rfl⟩
    · obtain ⟨-, rfl⟩ := h
      exact ⟨.quiet rfl rfl, fun _ _ => rfl⟩
  | driverInitialise =>
    obtain ⟨-, rfl⟩ := h
    exact ⟨.quiet rfl rfl, fun _ _ => rfl⟩
  | _ => cases h; exact ⟨.quiet rfl rfl, fun _ _ => rfl⟩

/-- What a side knows of its controller and of the accesses to the label; nothing the other sides do
makes it false, and it does not hold of a READY controller whose side has not read first. -/
structure Phase (i : κ) where
  holds : LifecycleController → List (κ × LabelAccess) → Prop
  stable : ∀ {c l j a}, j ≠ i → holds c l → holds c (l ++ [(j, a)])
  ready : ∀ {c l}, holds c l → c.state = .ready → ReadFirst i l

/-- Side `i` among the others. -/
abbrev side (J : JsonModule) (i : κ) : World HttpCall.Reply (SharedEngine κ) :=
  World.among (sideAnswers J) (fun _ => SeedsOnly) i

namespace Phase

def assertion (J : JsonModule) (R : Phase i) : Assertion (side J i) :=
  .ofState (fun s => LabelInv s ∧ R.holds (s.controllers i) s.accesses) fun s s' h he => by
    obtain ⟨j, op, r, hj, hop, ha⟩ := he
    obtain ⟨hstep, hctrl⟩ := sideStep_of_answers hop ha
    refine ⟨labelInv_step h.1 hstep, ?_⟩
    rw [hctrl i (Ne.symm hj)]
    cases hstep with
    | quiet _ hacc => rw [hacc]; exact h.2
    | reads _ hacc => rw [hacc]; exact R.stable hj h.2
    | seeds _ hacc => rw [hacc]; exact R.stable hj h.2

/-- A READY controller's side has read first. -/
def kept (i : κ) : Phase i where
  holds c l := c.state = .ready → ReadFirst i l
  stable hj h hr := (readFirst_append_of_ne hj).mpr (h hr)
  ready h := h

theorem le_kept (R : Phase i) : R.assertion J ≤ (kept i).assertion J :=
  fun _ _ h => ⟨h.1, R.ready h.2⟩

/-- With a fact that does not depend on the state. -/
def given (R : Phase i) (P : Prop) : Phase i :=
  ⟨fun c l => R.holds c l ∧ P, fun hj h => ⟨R.stable hj h.1, h.2⟩, fun h => R.ready h.1⟩

/-- For some value with `P`. -/
def some {β : Type} (Q : β → Phase i) (P : β → Prop) : Phase i where
  holds c l := ∃ b, P b ∧ (Q b).holds c l
  stable hj h := by
    obtain ⟨b, hP, hb⟩ := h
    exact ⟨b, hP, (Q b).stable hj hb⟩
  ready h := by
    obtain ⟨b, -, hb⟩ := h
    exact (Q b).ready hb

/-- An assertion about a program of side `i`. -/
abbrev Under {α : Type} (J : JsonModule) (R : Phase i) (p : HttpProg α) (Q : α → Phase i)
    (E : PyExc → Phase i) : Prop :=
  Triple ((kept i).assertion J) (R.assertion J) p (fun a => (Q a).assertion J)
    (fun e => (E e).assertion J)

variable {α β : Type} {R : Phase i} {E : PyExc → Phase i}

theorem ret {a : α} {Q : α → Phase i} (h : ∀ c l, R.holds c l → (Q a).holds c l) :
    R.Under J (pure a) Q E :=
  Triple.pure R.le_kept fun _ _ hs => ⟨hs.1, h _ _ hs.2⟩

theorem raise {e : PyExc} {Q : α → Phase i} (h : ∀ c l, R.holds c l → (E e).holds c l) :
    R.Under J (throw e) Q E :=
  Triple.throw R.le_kept fun _ _ hs => ⟨hs.1, h _ _ hs.2⟩

theorem bind {p : HttpProg α} {f : α → HttpProg β} {M : α → Phase i} {Q : β → Phase i}
    (hp : R.Under J p M E) (hf : ∀ a, (M a).Under J (f a) Q E) : R.Under J (p >>= f) Q E :=
  Triple.bind hp hf

theorem some_elim {p : HttpProg α} {M : β → Phase i} {P : β → Prop} {Q : α → Phase i}
    (h : ∀ b, P b → (M b).Under J p Q E) : (Phase.some M P).Under J p Q E := by
  rintro tr s ⟨hi, b, hP, hb⟩
  exact h b hP tr s ⟨hi, hb⟩

theorem given_elim {p : HttpProg α} {P : Prop} {Q : α → Phase i} (h : P → R.Under J p Q E) :
    (R.given P).Under J p Q E := by
  rintro tr s ⟨hi, hs, hP⟩
  exact h hP tr s ⟨hi, hs⟩

/-- A step with what it establishes. -/
theorem step (call : HttpCall) {Q : call.Reply → Phase i} (hcall : SeedsOnly call)
    (h : ∀ s r s', LabelInv s → R.holds (s.controllers i) s.accesses →
      sideAnswers J i call s r s' → (Q r).holds (s'.controllers i) s'.accesses) :
    R.Under J (Prog.op call) Q E :=
  Triple.op R.le_kept fun _ s r s' hs ha =>
    have hi := labelInv_step hs.1 (sideStep_of_answers hcall ha).1
    have hq := h s r s' hs.1 hs.2 ha
    ⟨⟨hi, (Q r).ready hq⟩, hi, hq⟩

theorem ofExcept {x : Except PyExc β} {b : β} {f : β → HttpProg α} {Q : α → Phase i}
    (hx : x = .ok b) (h : R.Under J (f b) Q E) : R.Under J (Prog.ofExcept x >>= f) Q E := by
  subst hx
  exact h

/-- A request; it succeeds. -/
theorem request {a : HttpVLLMAdapter} {method path query : String} {body : Option Json}
    {timeout : Option ℚ} {Q : Response → Phase i} (hcall : path = "/update_weight_version" →
      newVersion body = Option.some (WeightVersion.mk INITIAL_VERSION).label)
    (h : ∀ s r s', LabelInv s → R.holds (s.controllers i) s.accesses →
      EngineServes J i path body s r s' → (Q r).holds (s'.controllers i) s'.accesses) :
    R.Under J (a.call method path body query timeout) Q E := by
  refine bind (M := fun answer : Except PyExc Response =>
    Phase.some Q fun r => answer = .ok r ∧ r.status < 400) (step _ hcall ?_) fun answer => ?_
  · rintro s answer s' hi hs ⟨r, rfl, hlt, hserve⟩
    exact ⟨r, ⟨rfl, hlt⟩, h s r s' hi hs hserve⟩
  · refine some_elim fun r hr => ?_
    rw [HttpVLLMAdapter.accept_eq_ok.mpr hr]
    exact ret fun _ _ h => h

/-- A request for an object. -/
theorem getObject {a : HttpVLLMAdapter} {path query : String}
    {Q : List (String × Json) → Phase i} (hpath : path ≠ "/update_weight_version")
    (h : ∀ s r s', LabelInv s → R.holds (s.controllers i) s.accesses →
      EngineServes J i path none s r s' → ∃ fields, r.json J = .ok (.obj fields) ∧
        (Q fields).holds (s'.controllers i) s'.accesses) :
    R.Under J (a.getJson J path query) (fun body => Phase.some Q fun fields => body = .obj fields)
      E := by
  refine bind (M := fun r => Phase.some Q fun fields => r.json J = .ok (.obj fields))
    (request (fun hp => absurd hp hpath) ?_) fun r => some_elim fun fields hr => ?_
  · intro s r s' hi hs hserve
    exact h s r s' hi hs hserve
  · rw [hr]
    exact ret fun _ _ h => ⟨fields, rfl, h⟩

/-- Reading the label. -/
theorem weightInfo {a : HttpVLLMAdapter} {Q : String → Phase i}
    (h : ∀ s : SharedEngine κ, LabelInv s → R.holds (s.controllers i) s.accesses →
      (Q s.label).holds (s.controllers i) (s.accesses ++ [(i, .read)])) :
    R.Under J (a.weightInfo J) Q E := by
  refine bind (getObject (Q := fun fields => Phase.some Q fun label =>
    Json.lookup fields "weight_version" = .str label) (by decide) ?_) fun body =>
    some_elim fun fields hbody => some_elim fun label hl => ?_
  · rintro s r s' hi hs ⟨⟨fields, hr, hl⟩, rfl⟩
    exact ⟨fields, hr, s.label, hl, h s hi hs⟩
  · subst hbody
    exact ofExcept (congrArg Except.ok hl) (ret fun _ _ h => h)

end Phase

/-! ## A bootstrap among others -/

/-- Before the first request. -/
def unread (i : κ) : Phase i where
  holds c l := c = .init ∧ ∀ x ∈ l, x.1 ≠ i
  stable hj h := by
    refine ⟨h.1, fun x hx => ?_⟩
    rcases List.mem_append.mp hx with hx | hx
    · exact h.2 x hx
    · rw [List.mem_singleton.mp hx]
      exact hj
  ready h hr := by
    rw [h.1] at hr
    cases hr

/-- A new controller, of a side that has read first exactly if `P`. -/
def sought (i : κ) (P : Prop) : Phase i where
  holds c l := c = .init ∧ (ReadFirst i l ↔ P)
  stable hj h := ⟨h.1, (readFirst_append_of_ne hj).trans h.2⟩
  ready h hr := by
    rw [h.1] at hr
    cases hr

/-- The side has read first and written the label. -/
def claimed (i : κ) : Phase i where
  holds c l := c = .init ∧ ReadFirst i l ∧ Written l
  stable hj h := ⟨h.1, (readFirst_append_of_ne hj).mpr h.2.1, written_append.mpr (.inl h.2.2)⟩
  ready h hr := by
    rw [h.1] at hr
    cases hr

/-- The bootstrap has ended: READY for a side that has read first, and for no other. -/
def settled (i : κ) : Phase i where
  holds c l := c.state = .ready ↔ ReadFirst i l
  stable hj h := h.trans (readFirst_append_of_ne hj).symm
  ready h := h.mp

/-- The evidence `initialise` accepts. -/
def Seeds (e : BootstrapEvidence) : Prop :=
  e.failureReason = none ∧
    WeightVersion.parseLabel e.observedEngineLabel = .ok ⟨INITIAL_VERSION⟩

section Steps

variable {a : HttpVLLMAdapter} {E : PyExc → Phase i}

/-- The first read finds an unmanaged label exactly if nobody has written it. -/
theorem firstRead_among : (unread i).Under J (a.weightInfo J)
    (fun preSeed => sought i (WeightVersion.Unmanaged preSeed)) E := by
  refine Phase.weightInfo ?_
  rintro s hi ⟨hc, hl⟩
  refine ⟨hc, (readFirst_own hl).trans ⟨hi.fresh, fun hu hw => ?_⟩⟩
  rw [hi.written hw] at hu
  exact hu _ WeightVersion.parseLabel_initial

theorem driver_among {P : Prop} (hP : P) :
    (sought i P).Under J (Prog.op HttpCall.driverInitialise)
      (fun reply : Except PyExc (Option WeightTransferInit) =>
        Phase.some (fun _ => sought i True) fun init =>
          reply = .ok init ∧ ∀ x ∈ init, x.initialised = true) E := by
  refine Phase.step _ trivial ?_
  rintro s reply s' - ⟨hc, hf⟩ ⟨⟨init, rfl, hinit⟩, rfl⟩
  exact ⟨init, ⟨rfl, hinit⟩, hc, hf.trans (iff_true_intro hP)⟩

theorem seed_among {body : Option Json} {query : String} {timeout : Option ℚ}
    (hbody : newVersion body = some (WeightVersion.mk INITIAL_VERSION).label) :
    (sought i True).Under J (a.call "POST" "/update_weight_version" body query timeout)
      (fun _ => claimed i) E := by
  refine Phase.request (fun _ => hbody) ?_
  intro s r s' _ hs hserve
  rw [EngineServes, if_neg (by decide), if_pos rfl, hbody] at hserve
  obtain rfl : s' = _ := hserve
  exact ⟨hs.1, readFirst_append.mpr (.inl (hs.2.mpr trivial)), written_append.mpr (.inr rfl)⟩

/-- What is read back is the constant that every side writes. -/
theorem readBack_among : (claimed i).Under J (a.weightInfo J) (fun observed =>
    (claimed i).given (observed = (WeightVersion.mk INITIAL_VERSION).label)) E := by
  refine Phase.weightInfo ?_
  rintro s hi ⟨hc, hf, hw⟩
  exact ⟨⟨hc, readFirst_append.mpr (.inl hf), written_append.mpr (.inl hw)⟩, hi.written hw⟩

theorem worldSize_among {query : String} : (claimed i).Under J
    (a.getJson J "/get_world_size" query)
    (fun body => Phase.some (fun _ => claimed i) fun fields => body = .obj fields) E := by
  refine Phase.getObject (by decide) ?_
  rintro s r s' - hs ⟨hr, rfl⟩
  obtain ⟨fields, hr⟩ := hr rfl
  exact ⟨fields, hr, hs⟩

end Steps

/-- **The adapter's bootstrap among others**: evidence for a side that has read first, a refusal
for the others. -/
theorem bootstrap_among (a : HttpVLLMAdapter) :
    (unread i).Under J (a.bootstrap J) (fun e => (claimed i).given (Seeds e))
      (fun e => (sought i False).given (e.isCore = true)) := by
  unfold HttpVLLMAdapter.bootstrap
  cases a.weightIdentity with
  | none =>
    refine Phase.raise fun c l h => ⟨⟨h.1, iff_of_false ?_ id⟩, rfl⟩
    rintro ⟨before, after, rfl, -⟩
    exact h.2 (i, .read) (by simp) rfl
  | some identity =>
    refine Phase.bind firstRead_among fun preSeed => ?_
    cases hparse : WeightVersion.parseLabel preSeed with
    | ok v =>
      have hmanaged : ¬ WeightVersion.Unmanaged preSeed := fun hu => hu v hparse
      exact Phase.raise fun c l h => ⟨⟨h.1, h.2.trans (iff_of_false hmanaged id)⟩, rfl⟩
    | error e =>
      have hu : WeightVersion.Unmanaged preSeed := by
        intro v hv
        cases hparse.symm.trans hv
      refine Phase.bind (driver_among hu) fun reply => Phase.some_elim fun init hinit =>
        Phase.ofExcept hinit.1 ?_
      refine Phase.bind (seed_among rfl) fun _ => Phase.bind readBack_among fun observed =>
        Phase.given_elim fun hobserved => Phase.bind worldSize_among fun body =>
        Phase.some_elim fun fields hbody => ?_
      subst hbody
      refine Phase.ofExcept rfl (Phase.ret fun _ _ h => ⟨h, ?_, ?_⟩)
      · cases init with
        | none => simp [BootstrapEvidence.failureReason, hparse]
        | some x => simp [BootstrapEvidence.failureReason, hparse, hinit.2 x rfl]
      · rw [hobserved]
        exact WeightVersion.parseLabel_initial

/-- **A bootstrap ends with a READY controller exactly if its side has read first.** -/
theorem bootstrapOver_among (a : HttpVLLMAdapter) :
    (unread i).Under J (bootstrapOver J a) (fun _ => settled i) (fun _ => settled i) := by
  show Triple _ _ ((a.bootstrap J).attempt.bind _) _ _
  refine Triple.bind (Q := fun reply : Except PyExc BootstrapEvidence =>
    (match reply with
      | .ok e => (claimed i).given (Seeds e)
      | .error e => (sought i False).given (e.isCore = true)).assertion J)
    (fun tr s h => Safe.attempt (bootstrap_among a tr s h)) fun reply => ?_
  cases reply with
  | ok e =>
    refine Phase.given_elim fun he => Phase.bind (M := fun reply : Except PyExc Unit =>
      (settled i).given (reply = .ok ()))
      (Phase.step (.runner (.ctrl (.initialise e))) trivial ?_) fun reply =>
      Phase.given_elim fun hreply => ?_
    · rintro s reply s' - ⟨hc, hf, -⟩ ⟨c', hreplies, rfl⟩
      have happly := initialise_apply (c := s.controllers i) (by rw [hc]; rfl) he.1 he.2
      cases reply with
      | ok r =>
        obtain ⟨-, rfl⟩ := EStateM.Result.ok.inj (hreplies.symm.trans happly)
        refine ⟨?_, rfl⟩
        show (Function.update s.controllers i _ i).state = .ready ↔ _
        rw [Function.update_self]
        exact iff_of_true rfl hf
      | error e => cases hreplies.symm.trans happly
    · subst hreply
      exact Phase.ret fun _ _ h => h
  | error e =>
    refine Phase.given_elim fun he => ?_
    show Triple _ _ (Prog.interp _ (Prog.bind (if e.isCore = true then throw e else _) _)) _ _
    rw [if_pos he]
    refine Phase.raise fun c l h => iff_of_false ?_ h.2.mp
    rw [h.1]
    decide

end Sides

/-! ## Computed interleavings -/

section Guarantee

variable {κ : Type}

/-- The text between `opening` and `closing`. -/
def between (opening closing text : String) : String :=
  let rest := (dropLabel opening text).toList
  String.ofList (rest.take (rest.length - closing.length))

theorem between_append (opening text closing : String) :
    between opening closing (opening ++ (text ++ closing)) = text := by
  unfold between
  rw [dropLabel_append, String.toList_append]
  dsimp only
  rw [List.length_append, ← String.length_toList, Nat.add_sub_cancel, List.take_left,
    String.ofList_toList]

def LABEL_OPENING : String := "\x7b\"weight_version\": \""

/-- The body of `/weight_info`. -/
def labelText (label : String) : String := LABEL_OPENING ++ (label ++ "\"\x7d")

/-- A decoder of such bodies, for labels that need no escapes, and of one `/get_world_size`. -/
def engineJson : JsonModule where
  loads text :=
    if startsWith LABEL_OPENING text then
      .ok (.obj [("weight_version", .str (between LABEL_OPENING "\"\x7d" text))])
    else if text = "\x7b\"world_size\": 1\x7d" then .ok (.obj [("world_size", .int 1)])
    else .error (.decode "Expecting value: line 1 column 1 (char 0)")
  reprStr _ := ""

theorem json_labelText (label : String) : Response.json engineJson ⟨200, labelText label⟩ =
    .ok (.obj [("weight_version", .str label)]) := by
  have hne : labelText label ≠ "" := by
    unfold labelText LABEL_OPENING
    intro h
    have := congrArg String.length h
    simp at this
  unfold Response.json engineJson
  simp only [if_neg hne]
  unfold labelText
  simp only [startsWith_append, between_append, if_true]

theorem json_worldSize : Response.json engineJson ⟨200, "\x7b\"world_size\": 1\x7d"⟩ =
    .ok (.obj [("world_size", .int 1)]) := by
  have hstart : startsWith LABEL_OPENING "\x7b\"world_size\": 1\x7d" = false := by decide +kernel
  simp [Response.json, engineJson, hstart]

/-- What the engine answers a request, and what it is then. -/
def served (i : κ) (path : String) (body : Option Json) (s : SharedEngine κ) :
    Response × SharedEngine κ :=
  if path = "/weight_info" then
    (⟨200, labelText s.label⟩, { s with accesses := s.accesses ++ [(i, .read)] })
  else if path = "/update_weight_version" then
    (⟨200, ""⟩, (newVersion body).elim s fun l =>
      { s with label := l, accesses := s.accesses ++ [(i, .write)] })
  else (⟨200, "\x7b\"world_size\": 1\x7d"⟩, s)

theorem engineServes_served (i : κ) (path : String) (body : Option Json) (s : SharedEngine κ) :
    (served i path body s).1.status < 400 ∧
      EngineServes engineJson i path body s (served i path body s).1 (served i path body s).2 := by
  unfold served EngineServes
  split_ifs with hinfo hupdate
  · exact ⟨by simp, ⟨_, json_labelText s.label, rfl⟩, rfl⟩
  · refine ⟨by simp, ?_⟩
    cases newVersion body <;> rfl
  · exact ⟨by simp, fun _ => ⟨_, json_worldSize⟩, rfl⟩

variable [DecidableEq κ]

/-- The reply of a step and the engine it leaves. -/
def sideAnswer (i : κ) : (call : HttpCall) → SharedEngine κ → call.Reply × SharedEngine κ
  | .runner (.ctrl op), s =>
    let (reply, c') := op.reply (s.controllers i)
    (reply, { s with controllers := Function.update s.controllers i c' })
  | .request _ url body _, s => (.ok (served i url.path body s).1, (served i url.path body s).2)
  | call, s => ((bodyOf (fun _ => "") call ()).1, s)

theorem sideAnswer_answers (i : κ) (call : HttpCall) (s : SharedEngine κ) :
    sideAnswers engineJson i call s (sideAnswer i call s).1 (sideAnswer i call s).2 := by
  cases call with
  | runner call =>
    cases call with
    | ctrl op => exact ⟨_, op.replies_reply _, rfl⟩
    | _ => rfl
  | request method url body timeout =>
    obtain ⟨hlt, hserve⟩ := engineServes_served i url.path body s
    exact ⟨_, rfl, hlt, hserve⟩
  | driverInitialise => exact ⟨⟨none, rfl, by simp⟩, rfl⟩
  | _ => rfl

/-- Two owners of one fresh engine, by a schedule of their steps. -/
def twoOwners (schedule : List Bool) : (Bool → HttpProg Unit) × SharedEngine Bool :=
  interleave sideAnswer schedule
    (fun _ => bootstrapOver engineJson { weightIdentity := some identityA }) { label := "default" }

theorem interleaving_twoOwners (schedule : List Bool) : Interleaving (sideAnswers engineJson)
    (fun _ => bootstrapOver engineJson { weightIdentity := some identityA })
    { label := "default" } (twoOwners schedule).1 (twoOwners schedule).2 :=
  Interleaving.nil.of_schedule sideAnswer_answers schedule

/-! ## Single ownership -/

/-- **Single-owner bootstrap.** Let any sides bootstrap against one engine with an unmanaged label,
in any interleaving of their requests. If at most one of them has read the label before it was
written, then at most one controller is READY; and once all bootstraps have ended, at most one
controller is READY only if that is so. -/
theorem single_owner (J : JsonModule) (a : κ → HttpVLLMAdapter) {label : String}
    (hlabel : WeightVersion.Unmanaged label) {q : κ → HttpProg Unit} {s : SharedEngine κ}
    (h : Interleaving (sideAnswers J) (fun i => bootstrapOver J (a i)) { label } q s) :
    ((∀ i j, ReadFirst i s.accesses → ReadFirst j s.accesses → i = j) →
      ∀ i j, (s.controllers i).state = .ready → (s.controllers j).state = .ready → i = j) ∧
    ((∀ i, (q i).Ended) →
      ((∀ i j, (s.controllers i).state = .ready → (s.controllers j).state = .ready → i = j) ↔
        ∀ i j, ReadFirst i s.accesses → ReadFirst j s.accesses → i = j)) := by
  have hsafe : ∀ i, ∃ tr, Safe ((Phase.kept i).assertion J) (fun _ => (settled i).assertion J)
      (fun _ => (settled i).assertion J) (q i) tr s := by
    intro i
    obtain ⟨tr, hr⟩ := h.run (C := fun _ => SeedsOnly) (fun j => bootstrapOver_performs) i
    have hstart : (unread i).assertion J [] { label } := by
      refine ⟨⟨fun _ => hlabel, ?_⟩, rfl, ?_⟩
      · rintro ⟨x, ⟨⟩, -⟩
      · rintro x ⟨⟩
    exact ⟨_, (bootstrapOver_among (a i) [] _ hstart).run hr⟩
  have hready : ∀ i, (s.controllers i).state = .ready → ReadFirst i s.accesses := by
    intro i
    obtain ⟨tr, hs⟩ := hsafe i
    exact hs.inv.2
  constructor
  · intro hone i j hi hj
    apply hone
    · exact hready i hi
    · exact hready j hj
  · intro hq
    -- a bootstrap that has ended is settled, whichever way it ended
    have hiff : ∀ i, (s.controllers i).state = .ready ↔ ReadFirst i s.accesses := by
      intro i
      obtain ⟨tr, hs⟩ := hsafe i
      have hend := hq i
      generalize q i = p at hs hend
      cases hend with
      | pure u => exact hs.2.2
      | throw e => exact hs.2.2
    simp only [hiff]

/-- One bootstrap after the other: one owner, and only its side has read first. -/
theorem single_owner_in_turn : ∃ q s,
    Interleaving (sideAnswers engineJson)
      (fun _ : Bool => bootstrapOver engineJson { weightIdentity := some identityA })
      { label := "default" } q s ∧
    (∀ i, (q i).Ended) ∧ (s.controllers true).state = .ready ∧
    ∀ i j, ReadFirst i s.accesses → ReadFirst j s.accesses → i = j := by
  have hrun := interleaving_twoOwners (List.replicate 6 true ++ [false])
  have hend : ∀ i, ((twoOwners (List.replicate 6 true ++ [false])).1 i).Ended := by decide +kernel
  have hready : ((twoOwners (List.replicate 6 true ++ [false])).2.controllers true).state = .ready ∧
      ((twoOwners (List.replicate 6 true ++ [false])).2.controllers false).state ≠ .ready := by
    decide +kernel
  have hiff := (single_owner engineJson (fun _ => { weightIdentity := some identityA })
    (by decide) hrun).2 hend
  refine ⟨_, _, hrun, hend, hready.1, hiff.mp fun i j hi hj => ?_⟩
  cases i with
  | false => exact absurd hi hready.2
  | true =>
    cases j with
    | false => exact absurd hj hready.2
    | true => rfl

/-- Both read the label before either has written it, both write `rc-0`, and both are READY. -/
theorem two_owners : ∃ q s,
    Interleaving (sideAnswers engineJson)
      (fun _ : Bool => bootstrapOver engineJson { weightIdentity := some identityA })
      { label := "default" } q s ∧
    (s.controllers true).state = .ready ∧ (s.controllers false).state = .ready := by
  have hready : ((twoOwners ([true, false] ++ List.replicate 5 true ++
        List.replicate 5 false)).2.controllers true).state = .ready ∧
      ((twoOwners ([true, false] ++ List.replicate 5 true ++
        List.replicate 5 false)).2.controllers false).state = .ready := by
    decide +kernel
  exact ⟨_, _, interleaving_twoOwners _, hready⟩

end Guarantee

end RolloutCore
