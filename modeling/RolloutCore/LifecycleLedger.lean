import RolloutCore.LifecycleJournal
import Mathlib.Data.List.Perm.Basic
import Mathlib.Data.List.Range

/-!
# The ledger of rollouts

The bindings a run handed out, against the ones still active, handed back and orphaned. `Ledger`
is the history invariant; conservation, the numbering of records and orphans, and the cache salts
follow from it.
-/

namespace RolloutCore

open CallOutcome LifecycleController

/-! ## Histories -/

/-- The bindings the successful admissions of a history returned. -/
def admissions (tr : List Moment) : List RolloutBinding :=
  tr.filterMap fun m => m.2.admittedBinding m.1

/-- The bindings the successful releases of a history returned. -/
def releases (tr : List Moment) : List RolloutBinding :=
  tr.filterMap fun m => m.2.releasedBinding m.1

theorem admissions_append (tr : List Moment) (m : Moment) :
    admissions (tr ++ [m]) = admissions tr ++ (m.2.admittedBinding m.1).toList := by
  unfold admissions
  rw [List.filterMap_append]
  cases h : m.2.admittedBinding m.1 <;> simp [h]

theorem releases_append (tr : List Moment) (m : Moment) :
    releases (tr ++ [m]) = releases tr ++ (m.2.releasedBinding m.1).toList := by
  unfold releases
  rw [List.filterMap_append]
  cases h : m.2.releasedBinding m.1 <;> simp [h]

/-- The call taints the controller. -/
def Taints (m : Moment) : Prop := m.1.state ≠ .tainted ∧ (m.2.after m.1).state = .tainted

theorem UpdateTarget.Precedes.trans {t u v : UpdateTarget} (htu : t.Precedes u)
    (huv : u.Precedes v) : t.Precedes v := by
  rcases htu with rfl | htu
  · exact huv
  · rcases huv with rfl | huv
    · exact .inr htu
    · exact .inr (WeightVersion.lt_trans htu huv)

/-- The later binding has the larger number, and its target may replace the earlier one. -/
def RolloutBinding.Before (a b : RolloutBinding) : Prop :=
  a.admittedSeq < b.admittedSeq ∧ a.target.Precedes b.target

/-- What the journal keeps of an admission. -/
def admissionEntry (b : RolloutBinding) :
    ℕ × String × Option WeightVersion × Option WeightIdentity :=
  (b.admittedSeq, b.requestId, some b.version, some b.weightIdentity)

/-- The admission records of a journal. -/
def admissionEntries (journal : List TransitionRecord) :
    List (ℕ × String × Option WeightVersion × Option WeightIdentity) :=
  (journal.filter fun r => r.event = .admitRollout).map fun r =>
    (r.seq, r.detail, r.version, r.identity)

theorem admissionEntries_append (journal : List TransitionRecord) (r : TransitionRecord) :
    admissionEntries (journal ++ [r]) = admissionEntries journal ++
      if r.event = .admitRollout then [(r.seq, r.detail, r.version, r.identity)] else [] := by
  unfold admissionEntries
  rw [List.filter_append, List.map_append, List.filter_singleton]
  split_ifs with h <;> simp [h]

/-- The bindings handed out, accounted for. -/
structure Ledger (tr : List Moment) (c : LifecycleController) : Prop where
  conserved : (admissions tr).Perm
    (c.activeRollouts ++ releases tr ++ c.orphaned.map (·.binding))
  ordered : (admissions tr).Pairwise RolloutBinding.Before
  numbered : ∀ b ∈ admissions tr, b.admittedSeq ≤ c.seq
  current : ∀ b ∈ admissions tr, ∃ t ∈ c.currentTarget, b.target.Precedes t
  salted : ∀ b ∈ admissions tr, b.cacheSalt = b.version.cacheSalt
  recorded : admissionEntries c.journal = (admissions tr).map admissionEntry

theorem ledger_init : Ledger [] .init where
  conserved := .refl _
  ordered := .nil
  numbered := by simp [admissions]
  current := by simp [admissions]
  salted := by simp [admissions]
  recorded := rfl

section Steps

variable {tr tr' : List Moment} {c c' : LifecycleController}

/-- A step that hands out nothing and moves bindings between the three places keeps the ledger. -/
theorem Ledger.move (h : Ledger tr c) (hadm : admissions tr' = admissions tr)
    (hperm : (c.activeRollouts ++ releases tr ++ c.orphaned.map (·.binding)).Perm
      (c'.activeRollouts ++ releases tr' ++ c'.orphaned.map (·.binding)))
    (hseq : c.seq ≤ c'.seq)
    (hcur : ∀ t ∈ c.currentTarget, ∃ t' ∈ c'.currentTarget, t.Precedes t')
    (hrec : admissionEntries c'.journal = admissionEntries c.journal) : Ledger tr' c' where
  conserved := hadm ▸ h.conserved.trans hperm
  ordered := hadm ▸ h.ordered
  numbered b hb := (h.numbered b (hadm ▸ hb)).trans hseq
  current b hb := by
    obtain ⟨t, ht, hbt⟩ := h.current b (hadm ▸ hb)
    obtain ⟨t', ht', htt⟩ := hcur t ht
    exact ⟨t', ht', hbt.trans htt⟩
  salted b hb := h.salted b (hadm ▸ hb)
  recorded := by rw [hrec, hadm, h.recorded]

open scoped List in
theorem Ledger.step (h : Ledger tr c) {a r : Option RolloutBinding} (hs : Step c a r c')
    (ha : admissions tr' = admissions tr ++ a.toList)
    (hr : releases tr' = releases tr ++ r.toList) : Ledger tr' c' := by
  have hsame (t : UpdateTarget) (ht : t ∈ c.currentTarget) :
      ∃ t' ∈ c.currentTarget, t.Precedes t' := ⟨t, ht, .inl rfl⟩
  cases hs with
  | idle =>
    refine h.move (by simpa using ha) ?_ le_rfl hsame rfl
    rw [hr]
    simp
  | hop he hcur =>
    refine h.move (by simpa using ha) ?_ (Nat.le_succ _) hcur ?_
    · rw [hr]
      simp [activeRollouts]
    · simp [admissionEntries_append]
  | taint hs =>
    refine h.move (by simpa using ha) ?_ ?_ hsame ?_
    · rw [hr]
      simp only [activeRollouts, taintedWith_active, taintedWith_orphaned, List.map_append,
        orphans_binding, OrderedDict.values_empty, List.nil_append, Option.toList_none,
        List.append_nil]
      rw [List.append_assoc, ← List.append_assoc (releases tr)]
      exact List.perm_append_comm
    · exact (Nat.le_add_right _ _).trans (Nat.le_succ _)
    · simp [admissionEntries_append]
  | @release id b event hs hb he =>
    refine h.move (by simpa using ha) ?_ (Nat.le_succ _) hsame ?_
    · rw [hr]
      refine List.Perm.append_right _ ?_
      calc c.active.values ++ releases tr
        _ ~ b :: ((c.active.erase id).values ++ releases tr) :=
          (OrderedDict.values_erase_perm hb).append_right _
        _ ~ (c.active.erase id).values ++ (releases tr ++ [b]) := by
          rw [← List.append_assoc]
          exact (List.perm_append_singleton b _).symm
    · rcases he with rfl | rfl <;> simp [admissionEntries_append]
  | @admission id t hs ht hid =>
    rw [Option.toList_some] at ha
    rw [Option.toList_none, List.append_nil] at hr
    have hlast {P : RolloutBinding → Prop} (hold : ∀ b ∈ admissions tr, P b)
        (hnew : P (c.bindingOf id t)) : ∀ b ∈ admissions tr', P b := by
      rw [ha]
      exact List.forall_mem_append.mpr ⟨hold, List.forall_mem_singleton.mpr hnew⟩
    exact {
      conserved := by
        rw [ha, hr]
        calc admissions tr ++ [c.bindingOf id t]
          _ ~ c.bindingOf id t :: (c.activeRollouts ++ releases tr ++
              c.orphaned.map (·.binding)) :=
            (List.perm_append_singleton _ _).trans (h.conserved.cons _)
          _ ~ (c.admitted id t).activeRollouts ++ releases tr ++ c.orphaned.map (·.binding) := by
            rw [activeRollouts, activeRollouts, admitted_active, OrderedDict.values_insert hid]
            exact ((List.perm_append_singleton _ _).symm.append_right _).append_right _
      ordered := by
        rw [ha, List.pairwise_append]
        refine ⟨h.ordered, List.pairwise_singleton _ _, fun a ha' b hb => ?_⟩
        obtain rfl := List.mem_singleton.mp hb
        obtain ⟨t', ht', hp⟩ := h.current a ha'
        obtain rfl : t = t' := Option.some.inj (ht.symm.trans ht')
        exact ⟨Nat.lt_succ_of_le (h.numbered a ha'), hp⟩
      numbered := hlast (fun b hb => (h.numbered b hb).trans (Nat.le_succ _)) le_rfl
      current := hlast h.current ⟨t, ht, .inl rfl⟩
      salted := hlast h.salted rfl
      recorded := by
        rw [ha, List.map_append, ← h.recorded]
        simp [admissionEntries_append, admissionEntry] }

end Steps

theorem ledger_runOps (ops : List Op) : Ledger (traceOps ops .init) (runOps ops) :=
  (Runs.history_invariant (H := fun tr c => Inv c ∧ Ledger tr c) ⟨inv_init, ledger_init⟩
    (fun _ _ op h => ⟨inv_after h.1 op, h.2.step (op.step h.1) (admissions_append _ _)
      (releases_append _ _)⟩) ops).2

/-! ## The taint of a run -/

/-- A tainted controller is what its one taint left. -/
structure TaintHistory (tr : List Moment) (c : LifecycleController) : Prop where
  found : c.state = .tainted → ∃ m ∈ tr, Taints m
  left : ∀ m ∈ tr, Taints m → c = m.2.after m.1

theorem taintHistory_init : TaintHistory [] .init where
  found h := by cases h
  left m hm := by cases hm

theorem TaintHistory.next {tr : List Moment} {c : LifecycleController} (h : TaintHistory tr c)
    (hi : Inv c) (op : Op) : TaintHistory (tr ++ [(c, op)]) (op.after c) where
  found ht := by
    by_cases hs : c.state = .tainted
    · obtain ⟨m, hm, hmt⟩ := h.found hs
      exact ⟨m, List.mem_append_left _ hm, hmt⟩
    · exact ⟨(c, op), by simp, hs, ht⟩
  left m hm hmt := by
    rcases List.mem_append.mp hm with hm | hm
    · -- nothing changes after the taint
      have hc := h.left m hm hmt
      have hs : c.state = .tainted := hc ▸ hmt.2
      rw [after_of_tainted hi hs, hc]
    · obtain rfl := List.mem_singleton.mp hm
      rfl

theorem taintHistory_runOps (ops : List Op) : TaintHistory (traceOps ops .init) (runOps ops) :=
  (Runs.history_invariant (H := fun tr c => Inv c ∧ TaintHistory tr c)
    ⟨inv_init, taintHistory_init⟩
    (fun _ _ op h => ⟨inv_after h.1 op, h.2.next h.1 op⟩) ops).2

/-- Every call of a run found a controller that satisfies the invariant. -/
theorem inv_moment (ops : List Op) : ∀ m ∈ traceOps ops .init, Inv m.1 :=
  Runs.trace_invariant (I := Inv) (P := fun _ => True) (fun _ op h _ => inv_after h op) ops inv_init
    fun _ _ => trivial

theorem mem_orphans {s : LifecycleState} {reason : String} {n : ℕ} {bs : List RolloutBinding}
    {o : OrphanedRollout} (h : o ∈ orphans s reason n bs) :
    o.orphanedInState = s ∧ o.reason = reason := by
  induction bs generalizing n with
  | nil => cases h
  | cons b bs ih =>
    rcases List.mem_cons.mp h with rfl | h
    · exact ⟨rfl, rfl⟩
    · exact ih h

/-- What a taint leaves of the active bindings. -/
theorem orphaned_of_taints {m : Moment} (hi : Inv m.1) (ht : Taints m) :
    (m.2.after m.1).orphaned.map (·.binding) = m.1.activeRollouts ∧
    ∀ o ∈ (m.2.after m.1).orphaned, o.orphanedInState = m.1.state ∧
      (m.2.after m.1).taintReason = some o.reason ∧ ∀ reason, m.2 = .taint reason →
        o.reason = reason := by
  obtain ⟨reason, hr⟩ := exists_taintedWith hi ht.1 ht.2
  rw [hr, taintedWith_orphaned, hi.no_orphans ht.1, List.nil_append]
  refine ⟨orphans_binding _ _ _ _, fun o ho => ?_⟩
  obtain ⟨hstate, hreason⟩ := mem_orphans ho
  refine ⟨hstate, by rw [hreason]; rfl, fun r hop => ?_⟩
  -- an explicit taint is made with the caller's reason
  have hafter : m.2.after m.1 = m.1.taintedWith r := by
    rw [hop]
    exact @Op.after_of_ok m.1 (.taint r) _ _ (taintWith_apply ht.1 r none)
  have heq : some reason = some r := congrArg taintReason (hr.symm.trans hafter)
  exact hreason.trans (Option.some.inj heq)

/-- READY admits every request that is not active. -/
theorem admitRollout_succeeds {c : LifecycleController} {id : String} (h : Inv c)
    (hs : c.state = .ready) (hid : id ∉ c.active.keys) :
    (Op.admitRollout id).succeeds c = true := by
  obtain ⟨t, ht⟩ := Option.ne_none_iff_exists'.mp (h.ready_committed hs)
  refine @Op.succeeds_of_ok c (.admitRollout id) (c.bindingOf id t) (c.admitted id t) ?_
  show (LifecycleController.admitRollout id).run c = _
  unfold LifecycleController.admitRollout
  have hadmit : decide (c.state ∉ ADMITTING_STATES) = false := by simp [hs, ADMITTING_STATES]
  rw [bind_of_ok run_get, hadmit,
    bind_of_ok (show (raiseIf false _).run c = .ok () c from rfl), ht, Option.isSome_some,
    bind_of_ok (show (require true _ _).run c = .ok () c from rfl), decide_eq_true hid,
    bind_of_ok (show (require true _ _).run c = .ok () c from rfl),
    bind_of_ok (show (assertSome (some t)).run c = .ok t c from rfl), ← ht]
  rfl

/-- **Rollout conservation.** After any run the bindings that successful admissions returned are
the active ones, those a successful release returned, and the orphaned ones, each once. A free
request id can be admitted again in READY; the active bindings have distinct request ids; active
and orphaned bindings stand in admission order; and every orphan carries the state and the reason
of the one taint of the run. -/
theorem rollout_conservation (ops : List Op) :
    (admissions (traceOps ops .init)).Nodup ∧
    (admissions (traceOps ops .init)).Perm ((runOps ops).activeRollouts ++
      releases (traceOps ops .init) ++ (runOps ops).orphaned.map (·.binding)) ∧
    (∀ id, (runOps ops).state = .ready → id ∉ (runOps ops).activeRollouts.map (·.requestId) →
      (Op.admitRollout id).succeeds (runOps ops) = true) ∧
    ((runOps ops).activeRollouts.map (·.requestId)).Nodup ∧
    (runOps ops).activeRollouts.Pairwise (fun a b => a.admittedSeq < b.admittedSeq) ∧
    ((runOps ops).orphaned.map (·.binding)).Pairwise (fun a b => a.admittedSeq < b.admittedSeq) ∧
    ((runOps ops).orphaned ≠ [] → ∃ m ∈ traceOps ops .init, Taints m) ∧
    ∀ m ∈ traceOps ops .init, Taints m →
      (runOps ops).orphaned.map (·.binding) = m.1.activeRollouts ∧
      ∀ o ∈ (runOps ops).orphaned, o.orphanedInState = m.1.state ∧
        (m.2.after m.1).taintReason = some o.reason ∧
        ∀ reason, m.2 = .taint reason → o.reason = reason := by
  have hi := inv_runOps ops
  have hl := ledger_runOps ops
  have ht := taintHistory_runOps ops
  have hnodup : ((runOps ops).activeRollouts.map (·.requestId)).Nodup := by
    rw [hi.activeIds]
    exact (runOps ops).active.nodup
  have horphans : ∀ m ∈ traceOps ops .init, Taints m →
      (runOps ops).orphaned.map (·.binding) = m.1.activeRollouts ∧
      ∀ o ∈ (runOps ops).orphaned, o.orphanedInState = m.1.state ∧
        (m.2.after m.1).taintReason = some o.reason ∧
        ∀ reason, m.2 = .taint reason → o.reason = reason := by
    intro m hm hmt
    rw [ht.left m hm hmt]
    exact orphaned_of_taints (inv_moment ops m hm) hmt
  refine ⟨hl.ordered.imp fun hab hne => ?_, hl.conserved, fun id hs hid => ?_, hnodup, hi.ordered,
    ?_, fun ho => ht.found (hi.orphansTainted ho), horphans⟩
  · rw [hne] at hab
    exact lt_irrefl _ hab.1
  · rw [hi.activeIds] at hid
    exact admitRollout_succeeds hi hs hid
  · by_cases ho : (runOps ops).orphaned = []
    · rw [ho]
      exact .nil
    · obtain ⟨m, hm, hmt⟩ := ht.found (hi.orphansTainted ho)
      rw [(horphans m hm hmt).1]
      exact (inv_moment ops m hm).ordered

/-! ## Sequence numbers -/

/-- The records number `1, …, n` before a taint. A taint numbers its orphans from the next number
on and then its own record. -/
structure GapFree (c : LifecycleController) : Prop where
  running : c.state ≠ .tainted → c.journal.map (·.seq) = List.range' 1 c.seq
  tainted : c.state = .tainted → ∃ before taint, c.journal = before ++ [taint] ∧
    taint.event = .event .taint ∧ before.map (·.seq) = List.range' 1 before.length ∧
    c.orphaned.map (·.seq) = List.range' (before.length + 1) c.orphaned.length ∧
    taint.seq = before.length + c.orphaned.length + 1 ∧ c.seq = taint.seq ∧
    (c.orphaned ≠ [] → before ≠ [])

theorem orphans_seq (s : LifecycleState) (reason : String) (n : ℕ) (bs : List RolloutBinding) :
    (orphans s reason n bs).map (·.seq) = List.range' (n + 1) bs.length := by
  induction bs generalizing n with
  | nil => rfl
  | cons b bs ih => rw [orphans, List.map_cons, ih, List.length_cons, List.range'_succ]

section Numbering

variable {c c' : LifecycleController}

/-- One more record of an untainted controller takes the next number. -/
theorem GapFree.append (h : GapFree c) {r : TransitionRecord} (hs : c.state ≠ .tainted)
    (hs' : c'.state ≠ .tainted) (hj : c'.journal = c.journal ++ [r]) (hr : r.seq = c.seq + 1)
    (hseq : c'.seq = c.seq + 1) : GapFree c' where
  running _ := by
    rw [hj, List.map_append, h.running hs, List.map_singleton, hr, hseq, List.range'_1_concat,
      Nat.add_comm 1]
  tainted ht := absurd ht hs'

theorem GapFree.step (h : GapFree c) (hi : Inv c) (hf : Faithful c)
    {a r : Option RolloutBinding} (hs : Step c a r c') : GapFree c' := by
  cases hs with
  | idle => exact h
  | @hop event next _ _ _ _ he _ =>
    obtain ⟨hne, hne'⟩ := edge_ne_tainted he
    exact h.append hne hne' rfl rfl rfl
  | @admission id t hs ht hid =>
    have hne : c.state ≠ .tainted := by simp [hs]
    exact h.append hne hne rfl rfl rfl
  | @release id b event hs hb he =>
    have hne : c.state ≠ .tainted := by rcases hs with hs | hs <;> simp [hs]
    exact h.append hne hne rfl rfl rfl
  | @taint reason hs =>
    have hnone := hi.no_orphans hs
    have hlen : c.journal.length = c.seq := by
      simpa using congrArg List.length (h.running hs)
    have hsize : (orphans c.state reason c.seq c.active.values).length = c.active.size := by
      simpa [OrderedDict.values, OrderedDict.size] using
        congrArg List.length (orphans_seq c.state reason c.seq c.active.values)
    refine ⟨fun hne => absurd rfl hne, fun _ => ⟨c.journal, _, rfl, rfl, ?_, ?_, ?_, rfl, ?_⟩⟩
    · rw [hlen, h.running hs]
    · rw [taintedWith_orphaned, hnone, List.nil_append, orphans_seq, hsize, hlen]
      simp [OrderedDict.values, OrderedDict.size]
    · rw [taintedWith_orphaned, hnone, List.nil_append, hsize, hlen]
    · -- a binding is active only after the bootstrap, so there is a record before the taint
      rw [taintedWith_orphaned, hnone, List.nil_append]
      intro ho hj
      have huninit : c.state = .uninitialized := by rw [hf.arrives, hj]; rfl
      have hact : c.active.values = [] :=
        OrderedDict.values_eq_nil.mpr (hi.no_active (by simp [huninit]) (by simp [huninit]))
      rw [hact] at ho
      exact ho rfl

end Numbering

theorem gapFree_runOps (ops : List Op) : GapFree (runOps ops) :=
  (Runs.run_invariant (I := fun c => Inv c ∧ Faithful c ∧ GapFree c)
    (fun _ op h => ⟨inv_after h.1 op, h.2.1.step (op.step h.1), h.2.2.step h.1 h.2.1 (op.step h.1)⟩)
    ops ⟨inv_init, faithful_init, fun _ => rfl, fun h => by cases h⟩).2.2

/-- **Sequence numbers form one gap-free order.** After any run, records and orphans are numbered
in increasing order, no number is used twice, and the numbers are `1, …, n`. The admission records
are those of the admitted bindings, number by number. An orphan's number lies between those of
the last record before the taint and of the taint. -/
theorem sequence_numbers (ops : List Op) :
    ((runOps ops).journal.map (·.seq)).Pairwise (· < ·) ∧
    ((runOps ops).orphaned.map (·.seq)).Pairwise (· < ·) ∧
    (∀ n, n ∈ (runOps ops).journal.map (·.seq) → n ∉ (runOps ops).orphaned.map (·.seq)) ∧
    (∀ n, n ∈ (runOps ops).journal.map (·.seq) ∨ n ∈ (runOps ops).orphaned.map (·.seq) ↔
      1 ≤ n ∧ n ≤ (runOps ops).seq) ∧
    (((runOps ops).journal.filter fun r => r.event = .admitRollout).map fun r =>
        (r.seq, r.detail, r.version, r.identity)) =
      (admissions (traceOps ops .init)).map (fun b =>
        (b.admittedSeq, b.requestId, some b.version, some b.weightIdentity)) ∧
    ∀ o ∈ (runOps ops).orphaned, ∃ before last taint,
      (runOps ops).journal = before ++ [last, taint] ∧ taint.event = .event .taint ∧
        last.seq < o.seq ∧ o.seq < taint.seq := by
  have hi := inv_runOps ops
  have hn := gapFree_runOps ops
  have hrec := (ledger_runOps ops).recorded
  generalize runOps ops = c at hi hn hrec ⊢
  by_cases hs : c.state = .tainted
  · obtain ⟨before, taint, hj, hev, hbefore, horph, htaint, hseq, hne⟩ := hn.tainted hs
    have hjournal : c.journal.map (·.seq) =
        List.range' 1 before.length ++ [before.length + c.orphaned.length + 1] := by
      rw [hj, List.map_append, hbefore, List.map_singleton, htaint]
    refine ⟨?_, horph ▸ List.pairwise_lt_range', ?_, ?_, hrec, fun o ho => ?_⟩
    · rw [hjournal, List.pairwise_append]
      refine ⟨List.pairwise_lt_range', List.pairwise_singleton _ _, fun a ha b hb => ?_⟩
      rw [List.mem_range'_1] at ha
      rw [List.mem_singleton] at hb
      omega
    · rw [hjournal, horph]
      intro n hnj hno
      rw [List.mem_append, List.mem_range'_1, List.mem_singleton] at hnj
      rw [List.mem_range'_1] at hno
      omega
    · rw [hjournal, horph, hseq, htaint]
      intro n
      rw [List.mem_append, List.mem_range'_1, List.mem_singleton, List.mem_range'_1]
      omega
    · obtain ⟨init, last, rfl⟩ := (List.eq_nil_or_concat' before).resolve_left
        (hne (List.ne_nil_of_mem ho))
      have hlast : last.seq ∈ (init ++ [last]).map (·.seq) := List.mem_map_of_mem (by simp)
      have horphan : o.seq ∈ c.orphaned.map (·.seq) := List.mem_map_of_mem ho
      rw [hbefore, List.mem_range'_1] at hlast
      rw [horph, List.mem_range'_1] at horphan
      exact ⟨init, last, taint, by simpa using hj, hev, by omega, by omega⟩
  · have hjournal := hn.running hs
    rw [hjournal, hi.no_orphans hs]
    refine ⟨List.pairwise_lt_range', .nil, by simp, fun n => ?_, hrec, by simp⟩
    rw [List.map_nil, List.mem_range'_1]
    simp only [List.not_mem_nil, or_false]
    omega

/-! ## Cache salts -/

/-- Two bindings of one run are the same, or one was admitted before the other. -/
theorem before_or_after {tr : List Moment} {c : LifecycleController} (h : Ledger tr c)
    {a b : RolloutBinding} (ha : a ∈ admissions tr) (hb : b ∈ admissions tr) :
    a = b ∨ a.Before b ∨ b.Before a := by
  refine List.Pairwise.forall_of_forall_of_flip
    (R := fun a b => a = b ∨ a.Before b ∨ b.Before a) (fun _ _ => .inl rfl) ?_ ?_ ha hb
  · exact h.ordered.imp fun hab => .inr (.inl hab)
  · exact h.ordered.imp fun hab => .inr (.inr hab)

/-- Bindings of one version, one before the other, carry one identity. -/
theorem RolloutBinding.Before.identity_eq {a b : RolloutBinding} (h : a.Before b)
    (hv : a.version = b.version) : a.weightIdentity = b.weightIdentity := by
  rcases h.2 with ht | hlt
  · exact congrArg UpdateTarget.identity ht
  · exact absurd (show a.version < b.version from hlt) (hv ▸ Nat.lt_irrefl _)

theorem RolloutBinding.Before.version_le {a b : RolloutBinding} (h : a.Before b) :
    a.version ≤ b.version := by
  rcases h.2 with ht | hlt
  · rw [show a.version = b.version from congrArg UpdateTarget.version ht]
    exact Nat.le_refl _
  · exact WeightVersion.le_of_lt hlt

/-- **A cache salt names one weight set.** Two bindings of one run carry the same salt if and only
if they carry the same version, and then the same weight identity; a later binding never carries
an earlier version. -/
theorem cache_salt_names_weights (ops : List Op) (b₁ b₂ : RolloutBinding)
    (h₁ : b₁ ∈ admissions (traceOps ops .init)) (h₂ : b₂ ∈ admissions (traceOps ops .init)) :
    (b₁.cacheSalt = b₂.cacheSalt ↔ b₁.version = b₂.version) ∧
    (b₁.cacheSalt = b₂.cacheSalt → b₁.weightIdentity = b₂.weightIdentity) ∧
    (b₁.admittedSeq < b₂.admittedSeq → b₁.version ≤ b₂.version) := by
  have hl := ledger_runOps ops
  have hsalt : b₁.cacheSalt = b₂.cacheSalt ↔ b₁.version = b₂.version := by
    rw [hl.salted b₁ h₁, hl.salted b₂ h₂]
    exact WeightVersion.label_injective.eq_iff
  refine ⟨hsalt, fun heq => ?_, fun hseq => ?_⟩
  · rcases before_or_after hl h₁ h₂ with rfl | hb | hb
    · rfl
    · exact hb.identity_eq (hsalt.mp heq)
    · exact (hb.identity_eq (hsalt.mp heq).symm).symm
  · rcases before_or_after hl h₁ h₂ with rfl | hb | hb
    · exact absurd hseq (lt_irrefl _)
    · exact hb.version_le
    · exact absurd hseq hb.1.asymm

/-- Two admissions of one run, a generation apart. -/
def acrossGenerations : List Op :=
  .initialise (goodBootstrap identityA) :: .admitRollout "R1" :: .finishRollout "R1" ::
    goodCycle ⟨⟨1⟩, identityB⟩ ++ [.admitRollout "R1"]

theorem cache_salt_across_generations :
    ∃ b₁ ∈ admissions (traceOps acrossGenerations .init),
      ∃ b₂ ∈ admissions (traceOps acrossGenerations .init),
        b₁.requestId = b₂.requestId ∧ b₁.weightIdentity ≠ b₂.weightIdentity ∧
          b₁.cacheSalt ≠ b₂.cacheSalt ∧ b₁.version ≤ b₂.version := by
  have h₁ : (⟨"R1", ⟨0⟩, identityA, "rc-0", 2⟩ : RolloutBinding) ∈
      admissions (traceOps acrossGenerations .init) := by decide +kernel
  have h₂ : (⟨"R1", ⟨1⟩, identityB, "rc-1", 11⟩ : RolloutBinding) ∈
      admissions (traceOps acrossGenerations .init) := by decide +kernel
  obtain ⟨-, hid, hle⟩ := cache_salt_names_weights acrossGenerations _ _ h₁ h₂
  have hne : identityA ≠ identityB := by decide
  exact ⟨_, h₁, _, h₂, rfl, hne, fun heq => hne (hid heq), hle (by decide)⟩

end RolloutCore
