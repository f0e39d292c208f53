import RolloutCore.NcclDriver
import RolloutCore.DigestCollisions

/-!
# What a transfer checks

The identity `transfer` compares with its target is the one the driver has kept, if it has kept
one. It is that of what the source holds at the moment as long as the source has not changed in
between.
-/

namespace RolloutCore

open CallOutcome NCCLWeightTransferDriver

variable {H : Sha256} {w : NcclSystem} {target : UpdateTarget} {sent : Foreign}

/-! ## What a call of the driver does -/

namespace NcclSystem

/-- The driver has kept this identity. -/
def keeping (w : NcclSystem) (identity : WeightIdentity) : NcclSystem :=
  { w with driver := { w.driver with cachedIdentity := some identity } }

/-- What `identity()` answers. -/
def offered (H : Sha256) (w : NcclSystem) : Except PyExc WeightIdentity :=
  match w.driver.cachedIdentity with
  | some identity => .ok identity
  | none => w.staged H

/-- The trainer engine of the wrapper `client` has made these calls. -/
def served (w : NcclSystem) (client : ℕ) (calls : List SyncCall) : NcclSystem :=
  calls.foldl (receive client) w

/-- The wrapper `client` waits for the target to be finished, and the weights go out. -/
def opened (w : NcclSystem) (client : ℕ) (target : UpdateTarget) : NcclSystem :=
  { w with
    wrappers := Function.update w.wrappers client ((w.wrappers client).setTarget target)
    broadcasts := w.broadcasts + 1 }

/-- The driver has no open engine, or its thread is on another device. -/
def Unready (w : NcclSystem) : Prop :=
  w.driver.engine = none ∨ w.driver.sync = none ∨
    deviceMismatch w.driver.device w.currentDevice ≠ none

theorem keeping_self {j : WeightIdentity} (h : w.driver.cachedIdentity = some j) :
    w.keeping j = w := by
  unfold keeping
  rw [← h]

theorem offered_of_cached {j : WeightIdentity} (h : w.driver.cachedIdentity = some j) :
    w.offered H = .ok j := by
  unfold offered
  rw [h]

theorem offered_of_empty (h : w.driver.cachedIdentity = none) : w.offered H = w.staged H := by
  unfold offered
  rw [h]

/-- The engine changes nothing but what has been requested. -/
theorem served_frame (w : NcclSystem) (client : ℕ) (calls : List SyncCall) :
    ∃ requests, w.served client calls = { w with requests } := by
  induction calls generalizing w with
  | nil => exact ⟨w.requests, rfl⟩
  | cons call calls ih =>
    obtain ⟨requests, hrest⟩ := ih (receive client w call)
    refine ⟨requests, ?_⟩
    show NcclSystem.served (receive client w call) client calls = _
    rw [hrest]
    unfold receive
    split <;> rfl

end NcclSystem

open NcclSystem

theorem orRaise_ok {α : Type} {x : Except PyExc α} {a : α} (h : x = .ok a) :
    (orRaise x).run w = .ok a w := by
  rw [h]
  rfl

theorem orRaise_error {α : Type} {x : Except PyExc α} {e : PyExc} (h : x = .error e) :
    (orRaise x).run w = .error e w := by
  rw [h]
  rfl

/-- A call of the engine ends as the engine chose. -/
theorem act_run (client : ℕ) (f : Foreign) : (act client f).run w =
    match f.outcome with
    | .ok _ => .ok () (w.served client f.calls)
    | .error e => .error e (w.served client f.calls) := by
  unfold act
  rw [bind_of_ok (show (modify fun w => f.calls.foldl (receive client) w : DriverM PUnit).run w =
    .ok ⟨⟩ (w.served client f.calls) from rfl)]
  unfold orRaise
  cases f.outcome <;> rfl

theorem identity_ok {j : WeightIdentity} (h : w.offered H = .ok j) :
    (identity H).run w = .ok j (w.keeping j) := by
  unfold identity
  rw [bind_of_ok run_get]
  cases hcached : w.driver.cachedIdentity with
  | some i =>
    rw [offered_of_cached hcached] at h
    cases h
    rw [keeping_self hcached]
    rfl
  | none =>
    rw [offered_of_empty hcached] at h
    dsimp only
    rw [bind_of_ok run_get, bind_of_ok (orRaise_ok h)]
    rfl

theorem identity_error {e : PyExc} (h : w.offered H = .error e) :
    (identity H).run w = .error e w := by
  unfold identity
  rw [bind_of_ok run_get]
  cases hcached : w.driver.cachedIdentity with
  | some i =>
    rw [offered_of_cached hcached] at h
    cases h
  | none =>
    rw [offered_of_empty hcached] at h
    dsimp only
    rw [bind_of_ok run_get, bind_of_error (orRaise_error h)]

/-! ## What a transfer does -/

/-- The errors a transfer refuses with. -/
def Refusal : PyExc → Prop
  | .core (.weightIdentityMismatch _ _) => True
  | .core (.weightTransferNotConfigured _ _) => True
  | _ => False

theorem transfer_unready (H : Sha256) (target : UpdateTarget) (sent : Foreign) (h : w.Unready) :
    ∃ e, (transfer H target sent).run w = .error e w ∧ Refusal e := by
  unfold transfer
  rw [bind_of_ok run_get]
  cases hengine : w.driver.engine with
  | none => exact ⟨_, rfl, trivial⟩
  | some engine =>
    cases hsync : w.driver.sync with
    | none => exact ⟨_, rfl, trivial⟩
    | some sync =>
      cases hdevice : deviceMismatch w.driver.device w.currentDevice with
      | some mismatch => exact ⟨_, rfl, trivial⟩
      | none => simp [Unready, hengine, hsync, hdevice] at h

/-- From a ready driver on, what a transfer does depends on the identity it is offered. -/
theorem transfer_ready (H : Sha256) (target : UpdateTarget) (sent : Foreign) (h : ¬ w.Unready) :
    ∃ engine sync, w.driver.engine = some engine ∧ w.driver.sync = some sync ∧
      (transfer H target sent).run w =
        (do let computed ← identity H
            if computed ≠ target.identity then
              throw (.core (.weightIdentityMismatch target.identity computed))
            modify (NcclSystem.opened · sync target)
            act engine sent
            return ⟨true, true, none, some computed⟩ : DriverM WeightTransferReport).run w := by
  obtain ⟨hengine, hsync, hdevice⟩ : w.driver.engine ≠ none ∧ w.driver.sync ≠ none ∧
      deviceMismatch w.driver.device w.currentDevice = none := by
    simpa [Unready, not_or] using h
  obtain ⟨engine, hengine⟩ := Option.ne_none_iff_exists'.mp hengine
  obtain ⟨sync, hsync⟩ := Option.ne_none_iff_exists'.mp hsync
  refine ⟨engine, sync, hengine, hsync, ?_⟩
  unfold transfer
  rw [bind_of_ok run_get, hengine, hsync]
  dsimp only
  rw [hdevice]
  rfl

/-- Without an identity to compare, nothing is sent. -/
theorem transfer_unreadable {e : PyExc} (h : ¬ w.Unready) (he : w.offered H = .error e) :
    (transfer H target sent).run w = .error e w := by
  obtain ⟨engine, sync, -, -, hrun⟩ := transfer_ready H target sent h
  rw [hrun, bind_of_error (identity_error he)]

/-- With another identity than the target's nothing is sent. -/
theorem transfer_mismatch {j : WeightIdentity} (h : ¬ w.Unready) (hj : w.offered H = .ok j)
    (hne : j ≠ target.identity) : (transfer H target sent).run w =
      .error (.core (.weightIdentityMismatch target.identity j)) (w.keeping j) := by
  obtain ⟨engine, sync, -, -, hrun⟩ := transfer_ready H target sent h
  rw [hrun, bind_of_ok (identity_ok hj), if_pos hne]
  rfl

/-- With the identity of the target the weights are sent, and the report names that identity. -/
theorem transfer_sends (sent : Foreign) (h : ¬ w.Unready)
    (hj : w.offered H = .ok target.identity) : ∃ engine sync,
    w.driver.engine = some engine ∧ w.driver.sync = some sync ∧
      (transfer H target sent).run w =
        match sent.outcome with
        | .ok _ => .ok ⟨true, true, none, some target.identity⟩
          (((w.keeping target.identity).opened sync target).served engine sent.calls)
        | .error e =>
          .error e (((w.keeping target.identity).opened sync target).served engine sent.calls) := by
  obtain ⟨engine, sync, hengine, hsync, hrun⟩ :=
    transfer_ready H target sent h
  refine ⟨engine, sync, hengine, hsync, ?_⟩
  rw [hrun, bind_of_ok (identity_ok hj), if_neg (not_not.mpr rfl)]
  have hopen : (modify (NcclSystem.opened · sync target) : DriverM PUnit).run
      (w.keeping target.identity) = .ok ⟨⟩ ((w.keeping target.identity).opened sync target) := rfl
  dsimp only
  rw [bind_of_ok hopen, run_bind, act_run]
  cases sent.outcome <;> rfl

/-- What a transfer leaves. -/
abbrev afterTransfer (H : Sha256) (w : NcclSystem) (target : UpdateTarget) (sent : Foreign) :
    NcclSystem := left ((transfer H target sent).run w)

theorem afterTransfer_sends (sent : Foreign) (h : ¬ w.Unready)
    (hj : w.offered H = .ok target.identity) : ∃ engine sync,
    w.driver.engine = some engine ∧ w.driver.sync = some sync ∧
      afterTransfer H w target sent =
        ((w.keeping target.identity).opened sync target).served engine sent.calls := by
  obtain ⟨engine, sync, hengine, hsync, hrun⟩ := transfer_sends sent h hj
  refine ⟨engine, sync, hengine, hsync, ?_⟩
  unfold afterTransfer
  rw [hrun]
  cases sent.outcome <;> rfl

/-- **What a transfer leaves**: everything as it was, an identity kept, or that and the weights
sent. -/
theorem afterTransfer_cases (H : Sha256) (w : NcclSystem) (target : UpdateTarget) (sent : Foreign) :
    afterTransfer H w target sent = w ∨
      ∃ j, w.offered H = .ok j ∧ (afterTransfer H w target sent = w.keeping j ∨
        ∃ sync requests, afterTransfer H w target sent =
          { (w.keeping j).opened sync target with requests }) := by
  by_cases hready : w.Unready
  · obtain ⟨e, hrun, -⟩ := transfer_unready H target sent hready
    exact .inl (by rw [afterTransfer, hrun, left_error])
  · cases hoffered : w.offered H with
    | error e => exact .inl (by rw [afterTransfer, transfer_unreadable hready hoffered, left_error])
    | ok j =>
      refine .inr ⟨j, rfl, ?_⟩
      by_cases hj : j = target.identity
      · subst hj
        obtain ⟨engine, sync, -, -, hafter⟩ := afterTransfer_sends sent hready hoffered
        obtain ⟨requests, hserved⟩ :=
          served_frame ((w.keeping target.identity).opened sync target) engine sent.calls
        exact .inr ⟨sync, requests, hafter.trans hserved⟩
      · exact .inl (by rw [afterTransfer, transfer_mismatch hready hoffered hj, left_error])

/-! ## What is checked -/

section

variable (H w target sent)

/-- What a transfer is meant to check: the weights go out only if what the source holds now is what
the target names, and without that nothing is requested. -/
structure TransferChecked : Prop where
  sends : w.broadcasts < (afterTransfer H w target sent).broadcasts →
    w.staged H = .ok target.identity
  refuses : (afterTransfer H w target sent).broadcasts = w.broadcasts →
    (afterTransfer H w target sent).requests = w.requests ∧
      ∃ e, (transfer H target sent).run w = .error e (afterTransfer H w target sent) ∧ Refusal e

/-- The identity kept is not that of the target, or it is that of what the source holds now. With
none kept, what the source holds now has one. -/
def IdentityCurrent : Prop :=
  match w.driver.cachedIdentity with
  | some j => j = target.identity → w.staged H = .ok j
  | none => ∀ e, w.staged H = .error e → Refusal e

end

/-- A transfer that is refused checks. -/
theorem checked_of_error {e : PyExc} {w' : NcclSystem}
    (hrun : (transfer H target sent).run w = .error e w')
    (hbroadcasts : w'.broadcasts = w.broadcasts) (hrequests : w'.requests = w.requests) :
    TransferChecked H w target sent ↔ Refusal e := by
  have hafter : afterTransfer H w target sent = w' := by
    unfold afterTransfer
    rw [hrun, left_error]
  constructor
  · intro h
    obtain ⟨-, e', he', hrefusal⟩ := h.refuses (by rw [hafter, hbroadcasts])
    rw [hrun] at he'
    cases he'
    exact hrefusal
  · intro h
    refine ⟨fun hlt => ?_, fun _ => ⟨by rw [hafter, hrequests], e, by rw [hafter, hrun], h⟩⟩
    rw [hafter, hbroadcasts] at hlt
    exact absurd hlt (lt_irrefl _)

/-- A transfer that sends counts as one. -/
theorem broadcasts_of_sends (sent : Foreign) (h : ¬ w.Unready)
    (hj : w.offered H = .ok target.identity) :
    (afterTransfer H w target sent).broadcasts = w.broadcasts + 1 := by
  obtain ⟨engine, sync, -, -, hafter⟩ := afterTransfer_sends sent h hj
  obtain ⟨requests, hserved⟩ :=
    served_frame ((w.keeping target.identity).opened sync target) engine sent.calls
  rw [hafter, hserved]
  rfl

theorem checked_of_sends (h : ¬ w.Unready) (hj : w.offered H = .ok target.identity) :
    TransferChecked H w target sent ↔ w.staged H = .ok target.identity := by
  have hcount := broadcasts_of_sends sent h hj
  constructor
  · intro hchecked
    exact hchecked.sends (by rw [hcount]; exact Nat.lt_succ_self _)
  · intro hstaged
    refine ⟨fun _ => hstaged, fun heq => ?_⟩
    rw [hcount] at heq
    exact absurd heq (Nat.succ_ne_self _)

theorem transfer_checked_iff : TransferChecked H w target sent ↔
    w.Unready ∨ IdentityCurrent H w target := by
  by_cases hready : w.Unready
  · obtain ⟨e, hrun, hrefusal⟩ := transfer_unready H target sent hready
    exact iff_of_true ((checked_of_error hrun rfl rfl).mpr hrefusal) (.inl hready)
  · rw [or_iff_right hready]
    unfold IdentityCurrent
    cases hcached : w.driver.cachedIdentity with
    | none =>
      have hoffered : w.offered H = w.staged H := offered_of_empty hcached
      cases hstaged : w.staged H with
      | error e =>
        rw [checked_of_error (transfer_unreadable hready (hoffered.trans hstaged)) rfl rfl]
        simp
      | ok j =>
        refine iff_of_true ?_ (by simp)
        by_cases hj : j = target.identity
        · subst hj
          exact (checked_of_sends hready (hoffered.trans hstaged)).mpr hstaged
        · exact (checked_of_error (transfer_mismatch hready (hoffered.trans hstaged) hj)
            rfl rfl).mpr trivial
    | some j =>
      have hoffered : w.offered H = .ok j := offered_of_cached hcached
      by_cases hj : j = target.identity
      · subst hj
        rw [checked_of_sends hready hoffered]
        simp
      · exact iff_of_true ((checked_of_error (transfer_mismatch hready hoffered hj)
          rfl rfl).mpr trivial) (fun h => absurd h hj)

/-! ## Where the identity kept comes from -/

section Frames

variable {α β : Type} {f : NcclSystem → β}

theorem keeps_orRaise (x : Except PyExc α) : Keeps f (orRaise x) := by
  cases x with
  | ok a => exact keeps_pure a
  | error e => exact keeps_throw e

theorem keeps_act
    (hf : ∀ (w : NcclSystem) (requests : List SyncRequest), f { w with requests } = f w)
    (client : ℕ) (g : Foreign) : Keeps f (act client g) := by
  refine Keeps.bind (keeps_modify fun w => ?_) fun _ => keeps_orRaise g.outcome
  obtain ⟨requests, hserved⟩ := served_frame w client g.calls
  exact (congrArg f hserved).trans (hf w requests)

theorem keeps_identity (hf : ∀ w j, f (w.keeping j) = f w) : Keeps f (identity H) := by
  intro w
  cases hoffered : w.offered H with
  | ok j =>
    rw [identity_ok hoffered]
    exact hf w j
  | error e => rw [identity_error hoffered, left_error]

theorem keeps_declare (hf : ∀ w j, f (w.keeping j) = f w)
    (hdeclared : ∀ (w : NcclSystem) (p : Option WeightProvenance),
      f { w with driver := { w.driver with provenance := p, cachedIdentity := none } } = f w)
    (provenance : WeightProvenance) : Keeps f (declare H provenance) :=
  Keeps.bind (keeps_modify fun w => hdeclared w (some provenance)) fun _ => keeps_identity hf

theorem afterTransfer_keeps
    (hf : ∀ (w : NcclSystem) (requests : List SyncRequest), f { w with requests } = f w)
    (hkeeping : ∀ w j, f (w.keeping j) = f w) (hopened : ∀ w sync t, f (w.opened sync t) = f w) :
    f (afterTransfer H w target sent) = f w := by
  obtain h | ⟨j, -, h | ⟨sync, requests, h⟩⟩ := afterTransfer_cases H w target sent
  · rw [h]
  · rw [h, hkeeping]
  · rw [h, hf, hopened, hkeeping]

end Frames

/-- What `identity()` answers from. -/
def sources (w : NcclSystem) :
    Option WeightIdentity × Option WeightProvenance × Except PyExc (List ParamMeta) :=
  (w.driver.cachedIdentity, w.driver.provenance, w.metadata)

theorem keeps_initialise (opened : Except PyExc Unit) (built : Foreign) :
    Keeps sources (initialise opened built) := by
  refine Keeps.bind (keeps_modify fun _ => rfl) fun _ => ?_
  refine Keeps.bind (keeps_orRaise opened) fun _ => Keeps.bind keeps_get fun w => ?_
  refine Keeps.bind (keeps_modify fun _ => rfl) fun _ => ?_
  refine Keeps.bind (keeps_act (fun _ _ => rfl) w.made built) fun _ => ?_
  exact Keeps.bind (keeps_modify fun _ => rfl) fun _ => keeps_pure _

theorem keeps_shutdown (closed : Foreign) : Keeps sources (shutdown closed) := by
  refine Keeps.bind keeps_get fun w => ?_
  cases w.driver.engine with
  | none => exact keeps_pure ()
  | some engine =>
    exact Keeps.bind (keeps_act (fun _ _ => rfl) engine closed) fun _ => keeps_modify fun _ => rfl

/-- An identity that is kept afterwards was kept before, under the same provenance, or is that of
what the source held before, under the provenance declared now. -/
def Traces (H : Sha256) (w w' : NcclSystem) : Prop :=
  ∀ j, w'.driver.cachedIdentity = some j →
    (w.driver.cachedIdentity = some j ∧ w'.driver.provenance = w.driver.provenance) ∨
      manifestIdentity H w.metadata w'.driver.provenance = .ok j

theorem traces_of_sources {w' : NcclSystem} (h : sources w' = sources w) : Traces H w w' := by
  obtain ⟨hcached, hprovenance, -⟩ :
      w'.driver.cachedIdentity = w.driver.cachedIdentity ∧
        w'.driver.provenance = w.driver.provenance ∧ w'.metadata = w.metadata := by
    simpa [sources] using h
  exact fun j hj => .inl ⟨hcached ▸ hj, hprovenance⟩

/-- Keeping what is offered. -/
theorem traces_keeping {j : WeightIdentity} (h : w.offered H = .ok j) :
    Traces H w (w.keeping j) := by
  intro i hi
  cases hi
  cases hcached : w.driver.cachedIdentity with
  | none => exact .inr ((offered_of_empty hcached).symm.trans h)
  | some i =>
    rw [offered_of_cached hcached] at h
    cases h
    exact .inl ⟨rfl, rfl⟩

theorem traces_identity : Traces H w (left ((identity H).run w)) := by
  cases hoffered : w.offered H with
  | ok j =>
    rw [identity_ok hoffered]
    exact traces_keeping hoffered
  | error e =>
    rw [identity_error hoffered]
    exact traces_of_sources rfl

/-- Whatever was kept, a declaration reads the source anew. -/
theorem traces_declare (provenance : WeightProvenance) :
    Traces H w (left ((declare H provenance).run w)) := by
  intro j hj
  let fresh : NcclSystem := { w with
    driver := { w.driver with provenance := some provenance, cachedIdentity := none } }
  obtain ⟨hcached, -⟩ | hread := traces_identity (H := H) (w := fresh) j hj
  · cases hcached
  · exact .inr hread

theorem traces_transfer : Traces H w (afterTransfer H w target sent) := by
  obtain h | ⟨j, hj, h | ⟨sync, requests, h⟩⟩ := afterTransfer_cases H w target sent
  · rw [h]
    exact traces_of_sources rfl
  · rw [h]
    exact traces_keeping hj
  · rw [h]
    exact traces_keeping hj

/-- **One step.** -/
theorem step_traces (step : NcclStep) : Traces H w (step.apply H w) := by
  cases step with
  | identity => exact traces_identity
  | declare provenance => exact traces_declare provenance
  | initialise opened built => exact traces_of_sources (keeps_initialise opened built w)
  | transfer target sent => exact traces_transfer
  | shutdown closed => exact traces_of_sources (keeps_shutdown closed w)
  | changeSource metadata => exact fun j hj => .inl ⟨hj, rfl⟩
  | selectDevice device => exact traces_of_sources rfl

/-- **Every run.** The identity kept is that of what the source held at some moment of the run,
under the provenance declared now. -/
theorem kept_identity_was_staged (provenance : Option WeightProvenance)
    (metadata : Except PyExc (List ParamMeta)) (device : Option ℤ) (steps : List NcclStep)
    {j : WeightIdentity} :
    let start := NcclSystem.constructed provenance metadata device
    let w := Runs.run (NcclStep.apply H) steps start
    w.driver.cachedIdentity = some j → ∃ m ∈ Runs.trace (NcclStep.apply H) steps start,
      manifestIdentity H m.1.metadata w.driver.provenance = .ok j := by
  refine Runs.history_invariant (H := fun (tr : List (NcclSystem × NcclStep)) (w : NcclSystem) =>
    w.driver.cachedIdentity = some j → ∃ m ∈ tr,
      manifestIdentity H m.1.metadata w.driver.provenance = .ok j) (fun h => by cases h) ?_ steps
  intro tr w step ih hj
  obtain ⟨hcached, hprovenance⟩ | hread := step_traces step j hj
  · obtain ⟨m, hm, hmj⟩ := ih hcached
    exact ⟨m, List.mem_append_left _ hm, hprovenance ▸ hmj⟩
  · exact ⟨(w, step), List.mem_append_right _ (List.mem_singleton_self _), hread⟩

/-! ## Runs in which the identity kept stays current -/

/-- The identity kept is that of what the source holds. -/
def Kept (H : Sha256) (w : NcclSystem) : Prop :=
  ∀ j, w.driver.cachedIdentity = some j → w.staged H = .ok j

/-- A change of the source that the kept identity survives. -/
def NcclStep.Harmless (H : Sha256) (w : NcclSystem) : NcclStep → Prop
  | .changeSource metadata =>
    w.driver.cachedIdentity = none ∨ NcclSystem.staged H { w with metadata } = w.staged H
  | _ => True

/-- The source is changed by nobody but itself. -/
theorem step_metadata {step : NcclStep} (h : ∀ metadata, step ≠ .changeSource metadata) :
    (step.apply H w).metadata = w.metadata := by
  cases step with
  | identity => exact keeps_identity (f := NcclSystem.metadata) (fun _ _ => rfl) w
  | declare provenance =>
    exact keeps_declare (f := NcclSystem.metadata) (fun _ _ => rfl) (fun _ _ => rfl) provenance w
  | initialise opened built =>
    exact congrArg (fun s => s.2.2) (keeps_initialise opened built w)
  | transfer target sent =>
    exact afterTransfer_keeps (f := NcclSystem.metadata) (fun _ _ => rfl) (fun _ _ => rfl)
      fun _ _ _ => rfl
  | shutdown closed => exact congrArg (fun s => s.2.2) (keeps_shutdown closed w)
  | changeSource metadata => exact absurd rfl (h metadata)
  | selectDevice device => rfl

theorem Kept.step {step : NcclStep} (h : Kept H w) (hstep : step.Harmless H w) :
    Kept H (step.apply H w) := by
  intro j hj
  by_cases hsource : ∃ metadata, step = .changeSource metadata
  · obtain ⟨metadata, rfl⟩ := hsource
    obtain hnone | hsame := hstep
    · exact absurd (hj.symm.trans hnone) (Option.some_ne_none j)
    · exact hsame.trans (h j hj)
  · have hmetadata := step_metadata (H := H) (w := w) fun metadata h => hsource ⟨metadata, h⟩
    unfold NcclSystem.staged
    rw [hmetadata]
    obtain ⟨hcached, hprovenance⟩ | hread := step_traces step j hj
    · rw [hprovenance]
      exact h j hcached
    · exact hread

theorem kept_constructed (provenance : Option WeightProvenance)
    (metadata : Except PyExc (List ParamMeta)) (device : Option ℤ) :
    Kept H (.constructed provenance metadata device) := by
  intro j hj
  cases hj

/-- A current identity is all a transfer needs. -/
theorem Kept.transfer_checked (h : Kept H w) (hread : ∀ e, w.staged H = .error e → Refusal e) :
    TransferChecked H w target sent := by
  refine transfer_checked_iff.mpr (.inr ?_)
  unfold IdentityCurrent
  cases hcached : w.driver.cachedIdentity with
  | none => exact hread
  | some j => exact fun _ => h j hcached

/-- **Every run** in which the source changes only where the identity kept survives it: each
transfer checks, while the source can be read. -/
theorem transfers_checked_of_harmless {provenance : Option WeightProvenance}
    {metadata : Except PyExc (List ParamMeta)} {device : Option ℤ} {steps : List NcclStep}
    (hsteps : ∀ m ∈ Runs.trace (NcclStep.apply H) steps (.constructed provenance metadata device),
      m.2.Harmless H m.1) :
    ∀ m ∈ Runs.trace (NcclStep.apply H) steps (.constructed provenance metadata device),
      (∀ e, m.1.staged H = .error e → Refusal e) → TransferChecked H m.1 target sent := by
  intro m hm hread
  have hkept := Runs.trace_invariant (I := Kept H) (fun _ _ hkept hstep => hkept.step hstep) steps
    (kept_constructed provenance metadata device) hsteps m hm
  exact hkept.transfer_checked hread

/-! ## The version that is committed -/

/-- The request a call becomes while the target is pending. -/
def SyncCall.requestFor (target : UpdateTarget) : SyncCall → SyncRequest
  | .initWeightTransferEngine initInfo => .initWeightTransferEngine initInfo
  | .startWeightUpdate => .startWeightUpdate
  | .updateWeights updateInfo => .updateWeights updateInfo
  | .finishWeightUpdate weightVersion => .finishWeightUpdate (strOr weightVersion target.label)

theorem forward_setTarget (c : RolloutCoreWeightSyncClient) (call : SyncCall) :
    (c.setTarget target).forward call = .ok (call.requestFor target) := by
  cases call with
  | initWeightTransferEngine initInfo => rfl
  | startWeightUpdate => rfl
  | updateWeights updateInfo => rfl
  | finishWeightUpdate weightVersion =>
    cases weightVersion with
    | none => rfl
    | some version =>
      by_cases hversion : version = ""
      · simp [RolloutCoreWeightSyncClient.forward, RolloutCoreWeightSyncClient.commitLabel,
          RolloutCoreWeightSyncClient.setTarget, SyncCall.requestFor, strOr, hversion]
      · simp [RolloutCoreWeightSyncClient.forward, RolloutCoreWeightSyncClient.commitLabel,
          SyncCall.requestFor, strOr, hversion]

/-- Through a wrapper with a pending target every call reaches the client. -/
theorem served_requests {client : ℕ} {c : RolloutCoreWeightSyncClient}
    (h : w.wrappers client = c.setTarget target) (calls : List SyncCall) :
    (w.served client calls).requests = w.requests ++ calls.map (SyncCall.requestFor target) := by
  induction calls generalizing w with
  | nil => exact (List.append_nil _).symm
  | cons call calls ih =>
    have hreceive : receive client w call =
        { w with requests := w.requests ++ [call.requestFor target] } := by
      unfold receive
      rw [h, forward_setTarget]
    have hrest := ih (w := { w with requests := w.requests ++ [call.requestFor target] }) h
    show (NcclSystem.served (receive client w call) client calls).requests = _
    rw [hreceive, hrest]
    simp

/-- The wrappers of the engine and of the driver. -/
def endpoints (w : NcclSystem) : Option ℕ × Option ℕ := (w.driver.engine, w.driver.sync)

/-- The engine acts through the wrapper the driver sets its targets on. -/
def Paired (w : NcclSystem) : Prop := w.driver.engine = none ∨ w.driver.engine = w.driver.sync

theorem Paired.of_endpoints {w' : NcclSystem} (h : Paired w) (hsame : endpoints w' = endpoints w) :
    Paired w' := by
  obtain ⟨hengine, hsync⟩ :
      w'.driver.engine = w.driver.engine ∧ w'.driver.sync = w.driver.sync := by
    simpa [endpoints] using hsame
  unfold Paired
  rw [hengine, hsync]
  exact h

/-- A builder that succeeds leaves the engine with the wrapper it was given. -/
theorem Paired.initialise {opened : Except PyExc Unit} {built : Foreign} (h : Paired w)
    (hbuilt : built.outcome = .ok ()) : Paired (left ((initialise opened built).run w)) := by
  refine Ends.left_of ?_
  refine Ends.bind (M := fun _ s => endpoints s = endpoints w) rfl fun _ s₁ h₁ => ?_
  refine Ends.bind (M := fun _ s => endpoints s = endpoints w) ?_ fun _ s₂ _ => ?_
  · cases opened with
    | ok => exact h₁
    | error e => exact h.of_endpoints h₁
  refine Ends.bind (M := fun _ _ => True) trivial fun s _ _ => ?_
  refine Ends.bind (M := fun _ s' => s'.driver.sync = some s.made) (Ends.modify rfl)
    fun _ s₃ h₃ => ?_
  refine Ends.bind (M := fun _ s' => s'.driver.sync = some s.made) ?_ fun _ s₄ h₄ => ?_
  · obtain ⟨requests, hserved⟩ := served_frame s₃ s.made built.calls
    rw [act_run, hbuilt, hserved]
    exact h₃
  · exact .inr h₄.symm

/-- The builder of an initialization succeeds. -/
def NcclStep.Builds : NcclStep → Prop
  | .initialise _ built => built.outcome = .ok ()
  | _ => True

theorem Paired.shutdown {closed : Foreign} (h : Paired w) :
    Paired (left ((shutdown closed).run w)) := by
  unfold NCCLWeightTransferDriver.shutdown
  rw [bind_of_ok run_get]
  cases w.driver.engine with
  | none => exact h
  | some engine =>
    have hact := keeps_act (f := endpoints) (fun _ _ => rfl) engine closed w
    dsimp only
    cases hrun : (act engine closed).run w with
    | ok a s =>
      rw [bind_of_ok hrun]
      exact .inl rfl
    | error e s =>
      rw [hrun] at hact
      rw [bind_of_error hrun]
      exact h.of_endpoints hact

theorem Paired.step {step : NcclStep} (h : Paired w) (hstep : step.Builds) :
    Paired (step.apply H w) := by
  cases step with
  | identity => exact h.of_endpoints (keeps_identity (fun _ _ => rfl) w)
  | declare provenance =>
    exact h.of_endpoints (keeps_declare (fun _ _ => rfl) (fun _ _ => rfl) provenance w)
  | initialise opened built => exact h.initialise hstep
  | transfer target sent =>
    exact h.of_endpoints (afterTransfer_keeps (fun _ _ => rfl) (fun _ _ => rfl) fun _ _ _ => rfl)
  | shutdown closed => exact h.shutdown
  | selectDevice device => exact h
  | changeSource metadata => exact h

/-- After a run whose initializations succeed the engine acts through the driver's wrapper. -/
theorem paired_of_run {steps : List NcclStep} (h : Paired w) (hsteps : ∀ i ∈ steps, i.Builds) :
    Paired (Runs.run (NcclStep.apply H) steps w) := by
  induction steps generalizing w with
  | nil => exact h
  | cons i steps ih =>
    obtain ⟨hi, hrest⟩ := List.forall_mem_cons.mp hsteps
    exact ih (h.step hi) hrest

theorem Paired.transfer_commits (hpaired : Paired w) (h : ¬ w.Unready)
    (hj : w.offered H = .ok target.identity) :
    (afterTransfer H w target sent).requests =
      w.requests ++ sent.calls.map (SyncCall.requestFor target) := by
  obtain ⟨engine, sync, hengine, hsync, hafter⟩ := afterTransfer_sends sent h hj
  obtain hnone | heq := hpaired
  · rw [hengine] at hnone
    cases hnone
  · rw [hengine, hsync] at heq
    cases heq
    rw [hafter]
    exact served_requests (c := w.wrappers engine) (Function.update_self ..) sent.calls

/-- **Every run** whose initializations succeed: a transfer that sends commits the label of its
target, unless the engine names a version. -/
theorem transfers_commit_label {provenance : Option WeightProvenance}
    {metadata : Except PyExc (List ParamMeta)} {device : Option ℤ} {steps : List NcclStep}
    (hsteps : ∀ i ∈ steps, i.Builds) :
    let w := Runs.run (NcclStep.apply H) steps (.constructed provenance metadata device)
    ¬ w.Unready → w.offered H = .ok target.identity →
      (afterTransfer H w target sent).requests =
        w.requests ++ sent.calls.map (SyncCall.requestFor target) :=
  (paired_of_run (.inl rfl) hsteps).transfer_commits

/-! ## Every run -/

/-- After any calls of the driver and any changes of the source, a transfer checks what is staged
if and only if it is refused for its engine or its device, or the identity kept is current. -/
theorem staged_identity_checked_iff (H : Sha256) (provenance : Option WeightProvenance)
    (metadata : Except PyExc (List ParamMeta)) (device : Option ℤ) (steps : List NcclStep)
    (target : UpdateTarget) (sent : Foreign) :
    let w := Runs.run (NcclStep.apply H) steps (.constructed provenance metadata device)
    TransferChecked H w target sent ↔ w.Unready ∨ IdentityCurrent H w target :=
  transfer_checked_iff

def soleParam : ParamMeta := ⟨"w", "torch.float32", [2, 3]⟩

def addedParam : ParamMeta := ⟨"b", "torch.float32", [3]⟩

/-- The identity of the manifest with one parameter. -/
def soleIdentity : WeightIdentity where
  digest := "sha256:81ab003bff53678b4f8bf4bfcced0fe0eefd76128f72708880fea0aac5511f96"
  numTensors := some 1
  manifestDigest := some "sha256:81ab003bff53678b4f8bf4bfcced0fe0eefd76128f72708880fea0aac5511f96"
  source := none
  digest_ok := by decide
  manifest_ok := by decide

/-- The identity is asked for, the source gains a parameter, and the weights go out under the
identity without it. -/
theorem stale_identity_sent : ¬ TransferChecked sampleHash
    (Runs.run (NcclStep.apply sampleHash)
      [.initialise (.ok ()) ⟨[.initWeightTransferEngine .null], .ok ()⟩, .identity,
        .changeSource (.ok [soleParam, addedParam])]
      (.constructed none (.ok [soleParam]) none))
    ⟨⟨1⟩, soleIdentity⟩
    ⟨[.startWeightUpdate, .updateWeights .null, .finishWeightUpdate none], .ok ()⟩ := by
  intro h
  have hstaged := h.sends (by decide +kernel)
  exact absurd hstaged (by decide +kernel)

end RolloutCore
