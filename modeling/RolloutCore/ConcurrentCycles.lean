import RolloutCore.CycleOrder
import RolloutCore.Lib.Interleaving
import RolloutCore.Lib.Exchanges

/-!
# Concurrent cycles

Any number of clients on one controller and one adapter, each asking its runners for bootstraps and
cycles and making the calls of rollout owners in between, one call of one client at a time. The
controller's state is the only lock: `cycles_serialize` proves that it is enough to keep the cycles
apart.
-/

namespace RolloutCore

open LifecycleController

/-! ## Clients -/

/-- Calls a client makes itself: those of owners and of the operator, and the ones that only
read. -/
def RunnerCall.IsClients : RunnerCall → Prop
  | .ctrl (.nextTarget _) | .state | .currentTarget | .monotonic | .sleep _ => True
  | .ctrl op => op.IsOwners
  | .adapter _ => False

/-- A program of bootstraps, cycles and calls of its own, each chosen by what it has seen. -/
inductive Client {α : Type} : RunnerProg α → Prop
  | returns (a : α) : Client (.pure a)
  | raises (e : PyExc) : Client (.throw e)
  | call {call : RunnerCall} {next : call.Reply → RunnerProg α} (hcall : call.IsClients)
      (h : ∀ reply, Client (next reply)) : Client (.perform call next)
  | bootstrap {next : Except PyExc Unit → RunnerProg α} (h : ∀ x, Client (next x)) :
      Client (LifecycleRunner.bootstrap.attempt.bind next)
  | cycle (r : LifecycleRunner) (q : CycleRequest) {next : Except PyExc CycleResult → RunnerProg α}
      (h : ∀ x, Client (next x)) : Client ((r.serve q).attempt.bind next)

/-- An answered call, with the client that made it. -/
abbrev LogEntry (κ : Type) := κ × Exchange RunnerCall.Reply

/-- The controller, with a log of the calls made so far. -/
structure Shared (κ : Type) where
  controller : LifecycleController
  log : List (LogEntry κ)

/-- What a call of client `i` does; the adapter may answer anything. -/
def clientAnswers {κ : Type} (i : κ) (call : RunnerCall) (s : Shared κ) (reply : call.Reply)
    (s' : Shared κ) : Prop :=
  runnerAnswers call s.controller reply s'.controller ∧ s'.log = s.log ++ [(i, ⟨call, reply⟩)]

/-! ## What the log says -/

section Log

variable {κ : Type}

/-- The operations of a cycle after `begin_drain`. -/
def Op.IsCycles : Op → Prop
  | .confirmDrained _ | .beginUpdate _ | .confirmUpdated _ | .confirmInvalidated _ |
    .confirmValidated _ | .confirmResumed _ => True
  | _ => False

/-- A transition that leads into a cycle, or before one: an accepted `begin_drain` or
`initialise`. -/
def Begins : Exchange RunnerCall.Reply → Prop
  | ⟨.ctrl .beginDrain, .ok _⟩ | ⟨.ctrl (.initialise _), .ok _⟩ => True
  | _ => False

/-- A call that only the client in a cycle makes: a method of the adapter other than `bootstrap`,
or a transition of the cycle that the controller accepted. -/
def WithinCycle : Exchange RunnerCall.Reply → Prop
  | ⟨.adapter .bootstrap, _⟩ => False
  | ⟨.adapter _, _⟩ => True
  | ⟨.ctrl op, .ok _⟩ => op.IsCycles
  | _ => False

/-- The client in a cycle after an entry, when `held` was in one before it. -/
def handOver (held : Option κ) : LogEntry κ → Option κ
  | (i, ⟨.ctrl .beginDrain, .ok _⟩) => some i
  | (_, ⟨.ctrl (.confirmResumed _), .ok _⟩) => none
  | _ => held

/-- The client whose accepted `begin_drain` has not been followed by a commit. -/
def cycling (log : List (LogEntry κ)) : Option κ := log.foldl handOver none

/-- The method of the engine an entry calls, bootstraps aside. -/
def engineCall? : LogEntry κ → Option AdapterCall
  | (_, ⟨.adapter .bootstrap, _⟩) => none
  | (_, ⟨.adapter m, _⟩) => some m
  | _ => none

/-- The methods the engine saw, bootstraps aside. -/
def engineCalls (log : List (LogEntry κ)) : List AdapterCall := log.filterMap engineCall?

/-- The target an entry commits. -/
def commit? : LogEntry κ → Option UpdateTarget
  | (_, ⟨.ctrl (.confirmResumed e), .ok _⟩) => some e.target
  | _ => none

/-- The targets committed by cycles, in order. -/
def commits (log : List (LogEntry κ)) : List UpdateTarget := log.filterMap commit?

/-- A cycle begins when nobody is in one, so does a bootstrap, and only who is in a cycle works on
it. -/
def Exclusive (past : List (LogEntry κ)) (x : LogEntry κ) : Prop :=
  (Begins x.2 → cycling past = none) ∧ (WithinCycle x.2 → cycling past = some x.1)

/-- The engine saw whole cycles, one for each commit and in that order, and then `rest`. -/
def Served (log : List (LogEntry κ)) (rest : List AdapterCall) : Prop :=
  ∃ cycles : List (UpdateTarget × ℕ),
    engineCalls log = (cycles.flatMap fun c => callPattern c.1 c.2) ++ rest ∧
      commits log = cycles.map Prod.fst

variable {log : List (LogEntry κ)} {x : LogEntry κ} {rest : List AdapterCall}

theorem cycling_append : cycling (log ++ [x]) = handOver (cycling log) x := by
  unfold cycling
  rw [List.foldl_append]
  rfl

theorem engineCalls_append :
    engineCalls (log ++ [x]) = engineCalls log ++ (engineCall? x).toList := by
  unfold engineCalls
  rw [List.filterMap_append]
  cases h : engineCall? x <;> simp [h]

theorem commits_append : commits (log ++ [x]) = commits log ++ (commit? x).toList := by
  unfold commits
  rw [List.filterMap_append]
  cases h : commit? x <;> simp [h]

/-- An entry that commits nothing leaves the whole cycles as they are. -/
theorem Served.append (h : Served log rest) (hx : commit? x = none) :
    Served (log ++ [x]) (rest ++ (engineCall? x).toList) := by
  obtain ⟨cycles, hcalls, hcommits⟩ := h
  refine ⟨cycles, ?_, ?_⟩
  · rw [engineCalls_append, hcalls, List.append_assoc]
  · rw [commits_append, hx, hcommits]
    exact List.append_nil _

theorem Served.commit {t : UpdateTarget} {n : ℕ} (h : Served log (callPattern t n))
    (hx : commit? x = some t) (hcall : engineCall? x = none) : Served (log ++ [x]) [] := by
  obtain ⟨cycles, hcalls, hcommits⟩ := h
  refine ⟨cycles ++ [(t, n)], ?_, ?_⟩
  · rw [engineCalls_append, hcall, hcalls, List.flatMap_append, List.flatMap_singleton]
    rfl
  · rw [commits_append, hx, hcommits, List.map_append]
    rfl

end Log

/-! ## Quiet calls -/

/-- A call that neither begins a cycle nor belongs to one. -/
def Quiet : Exchange RunnerCall.Reply → Prop
  | ⟨.adapter m, _⟩ => m = .bootstrap
  | ⟨.ctrl .beginDrain, .ok _⟩ => False
  | ⟨.ctrl op, .ok _⟩ => ¬ op.IsCycles
  | _ => True

/-- The state and the pending target are kept, or the controller is tainted. -/
def KeepsPhase (c c' : LifecycleController) : Prop :=
  c'.state = .tainted ∨ c'.state = c.state ∧ c'.pendingTarget = c.pendingTarget

section Quiet

variable {κ : Type} {x : LogEntry κ}

theorem Quiet.handOver (hx : Quiet x.2) (held : Option κ) : handOver held x = held := by
  obtain ⟨i, ⟨call, reply⟩⟩ := x
  cases call with
  | ctrl op =>
    cases op <;> cases reply <;> first | rfl | exact (hx trivial).elim | exact hx.elim
  | _ => rfl

theorem Quiet.engineCall? (hx : Quiet x.2) : RolloutCore.engineCall? x = none := by
  obtain ⟨i, ⟨call, reply⟩⟩ := x
  cases call with
  | adapter m =>
    obtain rfl : m = .bootstrap := hx
    rfl
  | _ => rfl

theorem Quiet.commit? (hx : Quiet x.2) : RolloutCore.commit? x = none := by
  obtain ⟨i, ⟨call, reply⟩⟩ := x
  cases call with
  | ctrl op => cases op <;> cases reply <;> first | rfl | exact (hx trivial).elim
  | _ => rfl

theorem Quiet.not_withinCycle (hx : Quiet x.2) : ¬ WithinCycle x.2 := by
  obtain ⟨i, ⟨call, reply⟩⟩ := x
  intro hw
  cases call with
  | ctrl op =>
    cases op <;> cases reply <;> first | exact hw.elim | exact (hx hw).elim
  | adapter m =>
    obtain rfl : m = .bootstrap := hx
    exact hw.elim
  | _ => exact hw.elim

end Quiet

/-! ## What every step keeps -/

section Steps

variable {κ : Type} {i : κ} {t : UpdateTarget} {pt pt' : CyclePoint} {s s' : Shared κ}
  {call : RunnerCall} {reply : call.Reply}

/-- What holds between any two calls. -/
structure Shared.Good (s : Shared κ) : Prop where
  inv : Inv s.controller
  exclusive : Before Exclusive s.log
  serial : ∃ t rest, Served s.log rest ∧ CallsInOrder t rest ∧ (cycling s.log = none → rest = [])
  closed : cycling s.log ≠ none → s.controller.state ≠ .uninitialized ∧ s.controller.state ≠ .ready

/-- What the others leave to the client that is in a cycle. -/
structure Shared.Spares (s s' : Shared κ) : Prop where
  cycling : cycling s'.log = cycling s.log
  served : ∀ rest, Served s.log rest → Served s'.log rest
  phase : KeepsPhase s.controller s'.controller

/-- What client `i` guarantees: it spares the cycle of anybody else. -/
def guar (i : κ) (s s' : Shared κ) : Prop :=
  s.Good → s'.Good ∧ ∀ j, j ≠ i → cycling s.log = some j → s.Spares s'

/-- What client `i` relies on: the others spare its cycle. -/
def rely (i : κ) (s s' : Shared κ) : Prop :=
  s.Good → s'.Good ∧ (cycling s.log = some i → s.Spares s')

theorem rely_of_guar {i j : κ} (hij : i ≠ j) (h : guar i s s') : rely j s s' :=
  fun hg => ⟨(h hg).1, (h hg).2 j (Ne.symm hij)⟩

theorem keepsPhase_of_quiet (hg : s.Good) (ha : clientAnswers i call s reply s')
    (hx : Quiet ⟨call, reply⟩) (hcyc : cycling s.log ≠ none) :
    KeepsPhase s.controller s'.controller := by
  obtain ⟨ha, -⟩ := ha
  cases call with
  | state => exact .inr (by rw [ha.2]; exact ⟨rfl, rfl⟩)
  | currentTarget => exact .inr (by rw [ha.2]; exact ⟨rfl, rfl⟩)
  | adapter | monotonic | sleep =>
    exact .inr (by rw [show s'.controller = s.controller from ha]; exact ⟨rfl, rfl⟩)
  | ctrl op =>
    have ha : op.Replies s.controller reply s'.controller := ha
    cases reply with
    | error e =>
      obtain ⟨-, -, hc | hs⟩ := (ha.fails hg.inv).cases
      · exact .inr (by rw [hc]; exact ⟨rfl, rfl⟩)
      · exact .inl hs
    | ok r =>
      have hacc := ha.accepted hg.inv
      generalize s'.controller = c' at hacc ⊢
      cases hacc with
      | initialise hs => exact absurd hs (hg.closed hcyc).1
      | beginDrain => exact hx.elim
      | taint => exact .inl rfl
      | taintAgain | nextTarget | admitRollout | finishRollout | abortRollout =>
        exact .inr ⟨rfl, rfl⟩
      | _ => exact absurd trivial hx

/-- A quiet transition finds nobody in a cycle: it is an `initialise`. -/
theorem free_of_quiet_begins (hg : s.Good) (ha : clientAnswers i call s reply s')
    (hx : Quiet ⟨call, reply⟩) (hb : Begins ⟨call, reply⟩) : cycling s.log = none := by
  cases call with
  | ctrl op =>
    cases reply with
    | error e => cases op <;> exact hb.elim
    | ok r =>
      have hreply : op.Replies s.controller (.ok r) s'.controller := ha.1
      have hacc := hreply.accepted hg.inv
      generalize s'.controller = c' at hacc
      cases hacc with
      | initialise hs =>
        by_contra hne
        exact (hg.closed hne).1 hs
      | beginDrain => exact hx.elim
      | _ => exact hb.elim
  | _ => exact hb.elim

/-- A quiet call keeps everything, and spares the cycle that is on. -/
theorem Shared.Good.quiet (hg : s.Good) (ha : clientAnswers i call s reply s')
    (hx : Quiet ⟨call, reply⟩) : s'.Good ∧ (cycling s.log ≠ none → s.Spares s') := by
  have hphase := keepsPhase_of_quiet hg ha hx
  have hinv : Inv s'.controller := anyAdapter_inv hg.inv ha.1
  have hx' : Quiet (i, (⟨call, reply⟩ : Exchange RunnerCall.Reply)).2 := hx
  have hcyc : cycling s'.log = cycling s.log := by
    rw [ha.2, cycling_append, hx'.handOver]
  have hserved : ∀ rest, Served s.log rest → Served s'.log rest := by
    intro rest h
    have hs := h.append hx'.commit?
    rwa [hx'.engineCall?, Option.toList_none, List.append_nil, ← ha.2] at hs
  refine ⟨⟨hinv, ?_, ?_, fun hne => ?_⟩, fun hne => ⟨hcyc, hserved, hphase hne⟩⟩
  · rw [ha.2]
    exact before_append.mpr ⟨hg.exclusive, free_of_quiet_begins hg ha hx,
      fun hw => absurd hw hx'.not_withinCycle⟩
  · obtain ⟨t, rest, hs, hcalls, hfree⟩ := hg.serial
    exact ⟨t, rest, hserved rest hs, hcalls, fun h => hfree (hcyc ▸ h)⟩
  · rw [hcyc] at hne
    rcases hphase hne with hs | ⟨hs, -⟩
    · rw [hs]
      decide
    · rw [hs]
      exact hg.closed hne

theorem guar_of_quiet (ha : clientAnswers i call s reply s') (hx : Quiet ⟨call, reply⟩) :
    guar i s s' := by
  intro hg
  obtain ⟨hg', hspares⟩ := hg.quiet ha hx
  exact ⟨hg', fun j _ hj => hspares (by simp [hj])⟩

/-! ## Inside a cycle -/

/-- Client `i` is in a cycle that has come to a point. -/
structure Inside (i : κ) (t : UpdateTarget) (pt : CyclePoint) (s : Shared κ) : Prop where
  mine : cycling s.log = some i
  served : ∃ rest, Served s.log rest ∧ pt.CallsAt t rest
  phase : ∀ st, pt.phase = some st → s.controller.state = .tainted ∨
    s.controller.state = st ∧ (InFlight st → s.controller.pendingTarget = some t)

theorem Inside.spared (h : Inside i t pt s) (hs : s.Spares s') : Inside i t pt s' := by
  obtain ⟨rest, hrest, hcalls⟩ := h.served
  refine ⟨hs.cycling.trans h.mine, ⟨rest, hs.served rest hrest, hcalls⟩, fun st hst => ?_⟩
  rcases hs.phase with ht | ⟨hstate, hpend⟩
  · exact .inl ht
  · rw [hstate, hpend]
    exact h.phase st hst

/-- The adapter method a call is. -/
def RunnerCall.method? : RunnerCall → Option AdapterCall
  | .adapter m => some m
  | _ => none

/-- A step of a cycle adds its call to the calls made. -/
theorem CyclePoint.CallsAt.step {calls : List AdapterCall} (h : pt.CallsAt t calls)
    (hstep : CycleStep t pt call reply pt') : pt'.CallsAt t (calls ++ call.method?.toList) := by
  have hquiet : ∀ {pt : CyclePoint}, pt.CallsAt t calls → pt.CallsAt t (calls ++ []) := by
    intro pt h
    rwa [List.append_nil]
  cases hstep with
  | view hv => cases call <;> first | exact hquiet h | exact hv.elim
  | pause =>
    obtain rfl : calls = [] := h
    exact ⟨0, rfl⟩
  | poll =>
    obtain ⟨n, rfl⟩ := h
    exact ⟨n, by simp [RunnerCall.method?, List.replicate_succ', CyclePoint.tail]⟩
  | notYet =>
    obtain ⟨n, rfl⟩ := h
    exact ⟨n + 1, by simp [RunnerCall.method?, CyclePoint.tail]⟩
  | startUpdate | transfer | invalidate | validate | resume =>
    obtain ⟨n, rfl⟩ := h
    exact ⟨n, by simp [RunnerCall.method?, CyclePoint.tail]⟩
  | failed hcall | ambiguous hcall | unprinted hcall => exact h.next hcall
  | uncommitted | refused | tainted => exact hquiet (CyclePoint.CallsAt.inOrder h)
  | beginDrain | drained | beginUpdate | updated | invalidated | validated | resumed | commit =>
    exact hquiet h

theorem engineCall?_of_step (hstep : CycleStep t pt call reply pt') :
    engineCall? (i, (⟨call, reply⟩ : Exchange RunnerCall.Reply)) = call.method? := by
  cases hstep with
  | view hv => cases call <;> first | rfl | exact hv.elim
  | failed hcall | ambiguous hcall | unprinted hcall => cases pt <;> cases hcall <;> rfl
  | _ => rfl

/-- Where a step of a cycle leads that is on: further, to its failure, or to its commit. -/
theorem phase_of_step {st : LifecycleState} (hphase : pt.phase = some st)
    (hstep : CycleStep t pt call reply pt') :
    pt'.phase ≠ none ∨ pt'.Failing ∨
      commit? (i, (⟨call, reply⟩ : Exchange RunnerCall.Reply)) ≠ none := by
  cases hstep with
  | view => exact .inl (by simp [hphase])
  | beginDrain | commit | uncommitted | tainted => cases hphase
  | refused | failed | ambiguous | unprinted => exact .inr (.inl trivial)
  | resumed => exact .inr (.inr (by simp [commit?]))
  | _ => exact .inl (by simp [CyclePoint.phase])

/-- A cycle that is on is handed over by its commit alone. -/
theorem handOver_of_step {st : LifecycleState} (hphase : pt.phase = some st)
    (hstep : CycleStep t pt call reply pt') {held : Option κ}
    (hc : commit? (i, (⟨call, reply⟩ : Exchange RunnerCall.Reply)) = none) :
    handOver held (i, ⟨call, reply⟩) = held := by
  cases hstep with
  | view hv => cases call <;> first | rfl | exact hv.elim
  | beginDrain => cases hphase
  | resumed => cases hc
  | @refused _ op => cases op <;> rfl
  | _ => rfl

/-- The controller of a cycle that is on, or about to begin. -/
theorem Shared.Good.at (hg : s.Good) (hpt : pt = .start ∨ ∃ st, pt.phase = some st)
    (hin : ∀ st, pt.phase = some st → Inside i t pt s) :
    pt.At t s.controller.currentTarget s.controller where
  inv := hg.inv
  current := by
    rcases hpt with rfl | ⟨st, hst⟩
    · rfl
    · cases pt <;> first | rfl | cases hst
  phase st hst := (hin st hst).phase st hst
  failing hf := by
    rcases hpt with rfl | ⟨st, hst⟩
    · exact hf.elim
    · cases pt <;> first | exact hf.elim | cases hst
  result t' ht' := by
    subst ht'
    rcases hpt with hpt | ⟨st, hst⟩
    · cases hpt
    · cases hst

theorem ne_uninitialized_of_answers {c c' : LifecycleController} (hi : Inv c)
    (hs : c.state ≠ .uninitialized) (ha : anyAdapter.answers call c reply c') :
    c'.state ≠ .uninitialized := by
  cases call with
  | state | currentTarget => rw [ha.2]; exact hs
  | adapter | monotonic | sleep => rw [show c' = c from ha]; exact hs
  | ctrl op =>
    rw [← (ctrl_answers.mp ha).after]
    exact after_ne_uninitialized hi hs op

/-- A step of a cycle that is on, up to its commit. -/
theorem Inside.work {st : LifecycleState} (h : Inside i t pt s) (hg : s.Good)
    (hphase : pt.phase = some st) (hstep : CycleStep t pt call reply pt')
    (ha : clientAnswers i call s reply s')
    (hc : commit? (i, (⟨call, reply⟩ : Exchange RunnerCall.Reply)) = none) :
    s'.Good ∧ ∀ st, pt'.phase = some st → Inside i t pt' s' := by
  have hat := (hg.at (.inr ⟨st, hphase⟩) fun _ _ => h).step hstep ha.1
  have hmine : cycling s'.log = some i := by
    rw [ha.2, cycling_append, handOver_of_step hphase hstep hc, h.mine]
  have hserved : ∃ rest, Served s'.log rest ∧ pt'.CallsAt t rest := by
    obtain ⟨rest, hrest, hcalls⟩ := h.served
    have hs := hrest.append hc
    rw [engineCall?_of_step hstep, ← ha.2] at hs
    exact ⟨_, hs, hcalls.step hstep⟩
  refine ⟨⟨hat.inv, ?_, ?_, fun hne => ⟨?_, ?_⟩⟩, fun st hst => ⟨hmine, hserved, hat.phase⟩⟩
  · rw [ha.2]
    refine before_append.mpr ⟨hg.exclusive, fun hb => ?_, fun _ => h.mine⟩
    cases hstep with
    | view hv => cases call <;> first | exact hv.elim | exact hb.elim
    | beginDrain => cases hphase
    | @refused _ op => cases op <;> exact hb.elim
    | _ => exact hb.elim
  · obtain ⟨rest, hrest, hcalls⟩ := hserved
    exact ⟨t, rest, hrest, hcalls.inOrder, fun hn => by rw [hmine] at hn; cases hn⟩
  · exact ne_uninitialized_of_answers hg.inv (hg.closed (by simp [h.mine])).1 ha.1
  · rcases phase_of_step (i := i) hphase hstep with hp | hf | hcommit
    · obtain ⟨st', hst'⟩ := Option.ne_none_iff_exists'.mp hp
      exact hat.ne_ready hst'
    · exact hat.failing hf
    · exact absurd hc hcommit

theorem Inside.commit {e : ResumeEvidence} (h : Inside i t (.resumed e) s) (hg : s.Good)
    (ha : clientAnswers i (.ctrl (.confirmResumed e)) s (.ok ()) s') : s'.Good := by
  have hat := (hg.at (.inr ⟨_, rfl⟩) fun _ _ => h).step .resumed ha.1
  have htarget : e.target = t := by
    have hreply : (Op.confirmResumed e).Replies s.controller (.ok ()) s'.controller := ha.1
    have hacc := hreply.accepted hg.inv
    generalize s'.controller = c' at hacc
    cases hacc with
    | confirmResumed hs hp =>
      rcases h.phase _ rfl with ht | ⟨hst, hpend⟩
      · rw [hs] at ht
        cases ht
      · rw [hpend (by simp [InFlight])] at hp
        exact (Option.some.inj hp).symm
  have hserved : Served s'.log [] := by
    obtain ⟨rest, hrest, n, rfl⟩ := h.served
    rw [ha.2]
    exact hrest.commit (congrArg some htarget) rfl
  refine ⟨hat.inv, ?_, ⟨t, [], hserved, ⟨0, List.nil_prefix⟩, fun _ => rfl⟩, fun hne => ?_⟩
  · rw [ha.2]
    exact before_append.mpr ⟨hg.exclusive, False.elim, fun _ => h.mine⟩
  · rw [ha.2, cycling_append] at hne
    exact absurd rfl hne

/-- An accepted `begin_drain`: nobody was in a cycle. -/
theorem Shared.Good.begin {plan : CyclePlan} (hg : s.Good)
    (ha : clientAnswers i (.ctrl .beginDrain) s (.ok plan) s') :
    cycling s.log = none ∧ s'.Good ∧ Inside i t .begun s' := by
  have hreply : Op.beginDrain.Replies s.controller (.ok plan) s'.controller := ha.1
  have hstate : s.controller.state = .ready := by
    have hacc := hreply.accepted hg.inv
    generalize s'.controller = c' at hacc
    cases hacc with
    | beginDrain hs => exact hs
  have hfree : cycling s.log = none := by
    by_contra hne
    exact (hg.closed hne).2 hstate
  have hans : anyAdapter.answers (.ctrl .beginDrain) s.controller (Except.ok plan) s'.controller :=
    ha.1
  have hstart : CyclePoint.start.At t s.controller.currentTarget s.controller :=
    hg.at (i := i) (.inl rfl) fun st hst => by cases hst
  have hat := hstart.step .beginDrain hans
  have hmine : cycling s'.log = some i := by
    rw [ha.2, cycling_append]
    rfl
  have hserved : Served s'.log [] := by
    obtain ⟨t', rest, hs, -, hrest⟩ := hg.serial
    obtain rfl := hrest hfree
    rw [ha.2]
    exact hs.append rfl
  refine ⟨hfree, ⟨hat.inv, ?_, ⟨t, [], hserved, ⟨0, List.nil_prefix⟩, fun _ => rfl⟩,
    fun _ => ⟨?_, hat.ne_ready rfl⟩⟩, hmine, ⟨[], hserved, rfl⟩, hat.phase⟩
  · rw [ha.2]
    exact before_append.mpr ⟨hg.exclusive, fun _ => hfree, False.elim⟩
  · exact ne_uninitialized_of_answers hg.inv (by simp [hstate]) hans

/-- **Every step of a cycle** is one the client guarantees, and keeps what the client knows. -/
theorem Shared.Good.step (hg : s.Good) (hin : ∀ st, pt.phase = some st → Inside i t pt s)
    (hstep : CycleStep t pt call reply pt') (ha : clientAnswers i call s reply s') :
    guar i s s' ∧ s'.Good ∧ ∀ st, pt'.phase = some st → Inside i t pt' s' := by
  by_cases hphase : ∃ st, pt.phase = some st
  · obtain ⟨st, hst⟩ := hphase
    have hi := hin st hst
    suffices h : s'.Good ∧ ∀ st, pt'.phase = some st → Inside i t pt' s' by
      refine ⟨fun _ => ⟨h.1, fun j hj hcyc => ?_⟩, h⟩
      exact absurd (Option.some.inj (hi.mine.symm.trans hcyc)).symm hj
    by_cases hc : commit? (i, (⟨call, reply⟩ : Exchange RunnerCall.Reply)) = none
    · exact hi.work hg hst hstep ha hc
    · cases hstep with
      | resumed => exact ⟨hi.commit hg ha, fun st hst => by cases hst⟩
      | view hv => cases call <;> first | exact hv.elim | exact absurd rfl hc
      | @refused _ op => cases op <;> exact absurd rfl hc
      | @failed _ m | @ambiguous _ m | @unprinted _ m => cases m <;> exact absurd rfl hc
      | _ => exact absurd rfl hc
  · -- outside a cycle only `begin_drain` can have an effect
    have hquiet : ∀ {pt' : CyclePoint}, Quiet ⟨call, reply⟩ → pt'.phase = none →
        guar i s s' ∧ s'.Good ∧ ∀ st, pt'.phase = some st → Inside i t pt' s' :=
      fun hx hn => ⟨guar_of_quiet ha hx, (hg.quiet ha hx).1, fun st hst => by
        rw [hn] at hst; cases hst⟩
    cases hstep with
    | beginDrain =>
      obtain ⟨hfree, hg', hi⟩ := hg.begin ha
      exact ⟨fun _ => ⟨hg', fun j _ hj => by rw [hfree] at hj; cases hj⟩, hg', fun _ _ => hi⟩
    | view hv =>
      refine hquiet ?_ (Option.eq_none_iff_forall_ne_some.mpr fun st hst => hphase ⟨st, hst⟩)
      cases call <;> trivial
    | commit | uncommitted => exact hquiet trivial rfl
    | tainted => exact hquiet not_false rfl
    | @refused _ op => exact hquiet (by cases op <;> trivial) rfl
    | failed hcall | ambiguous hcall | unprinted hcall =>
      obtain ⟨st, hst⟩ := CyclePoint.phase_of_adapter hcall
      exact absurd ⟨st, hst⟩ hphase
    | _ => exact absurd ⟨_, rfl⟩ hphase

end Steps

/-! ## Programs of clients -/

section Programs

variable {κ : Type} {i : κ} {α : Type}

/-- The client has kept its guarantee, and nothing is broken. -/
def keeping (i : κ) : Assertion (World.relying clientAnswers rely i) where
  holds tr s := Guarantees (guar i) tr ∧ s.Good
  stable h he := ⟨h.1.env, (he h.2).1⟩

/-- And its cycle has come to a point. -/
def keepingAt (i : κ) (t : UpdateTarget) (pt : CyclePoint) :
    Assertion (World.relying clientAnswers rely i) where
  holds tr s := keeping i tr s ∧ ∀ st, pt.phase = some st → Inside i t pt s
  stable h he := ⟨(keeping i).stable h.1 he, fun st hst =>
    (h.2 st hst).spared ((he h.1.2).2 (h.2 st hst).mine)⟩

theorem triple_step {t : UpdateTarget} (pt : CyclePoint) (call : RunnerCall)
    (hreply : ∀ reply, ∃ pt', CycleStep t pt call reply pt') :
    Triple (keeping i) (keepingAt i t pt) (Prog.op call) (stepped t (keepingAt i t) pt call)
      (fun e : PyExc => keepingAt i t (.raised e)) := by
  refine Triple.op (fun tr s h => h.1) fun tr s reply s' h ha => ?_
  have hkeep : ∀ pt', CycleStep t pt call reply pt' →
      keepingAt i t pt' (tr ++ [.call call reply s s']) s' := by
    intro pt' hstep
    obtain ⟨hguar, hgood, hin⟩ := h.1.2.step h.2 hstep ha
    exact ⟨⟨guarantees_call.mpr ⟨h.1.1, hguar⟩, hgood⟩, hin⟩
  obtain ⟨pt', hstep⟩ := hreply reply
  exact ⟨(hkeep pt' hstep).1, hkeep⟩

theorem annotated_client (r : LifecycleRunner) (t : UpdateTarget) :
    Annotated r t Prog.op (keeping i) (keepingAt i t) where
  inv _ _ _ h := h.1
  view pt call hcall := triple_step pt call fun _ => ⟨pt, .view hcall⟩
  call pt call hcall := triple_step pt call (exists_cycleStep hcall)
  exhausted _ _ h := ⟨h.1, fun _ hst => by cases hst⟩

/-- A program that leaves its client where it was, however it ends. -/
abbrev KeepsTurn (i : κ) (p : RunnerProg α) : Prop :=
  Triple (keeping i) (keeping i) p (fun _ => keeping i) (fun _ => keeping i)

theorem keepsTurn_runCycle (r : LifecycleRunner) (t : UpdateTarget) :
    KeepsTurn i (r.runCycle t) := by
  intro tr s h
  have hrun := (annotated_client (i := i) r t).runCycle tr s ⟨h, fun _ hst => by cases hst⟩
  rw [Prog.interp_op] at hrun
  exact hrun.mono (fun _ _ _ h => h.1) fun _ _ _ h => h.1

theorem KeepsTurn.bind {β : Type} {p : RunnerProg α} {f : α → RunnerProg β} (hp : KeepsTurn i p)
    (hf : ∀ a, KeepsTurn i (f a)) : KeepsTurn i (p.bind f) := Triple.bind hp hf

theorem KeepsTurn.attempt {p : RunnerProg α} (hp : KeepsTurn i p) : KeepsTurn i p.attempt :=
  fun tr s h => (hp tr s h).attempt

theorem keepsTurn_of_quiet {p : RunnerProg α}
    (hp : p.Performs fun call => ∀ reply, Quiet ⟨call, reply⟩) : KeepsTurn i p := by
  induction p with
  | pure a => exact Triple.pure (Assertion.le_refl _) (Assertion.le_refl _)
  | throw e => exact Triple.throw (Assertion.le_refl _) (Assertion.le_refl _)
  | perform call next ih =>
    intro tr s h
    refine ⟨keeping i, h, Assertion.le_refl _, fun tr s reply s' h ha => ?_⟩
    have hguar := guar_of_quiet ha (hp.1 reply)
    exact ih reply (hp.2 reply) _ _ ⟨guarantees_call.mpr ⟨h.1, hguar⟩, (hguar h.2).1⟩

theorem keepsTurn_bootstrap : KeepsTurn i LifecycleRunner.bootstrap := by
  have hctrl : ∀ op : Op, (∀ reply, Quiet ⟨.ctrl op, reply⟩) →
      (LifecycleRunner.ctrl op).Performs fun call => ∀ reply, Quiet ⟨call, reply⟩ :=
    fun op h => (Prog.performs_op h).bind fun x => Prog.performs_ofExcept x
  refine keepsTurn_of_quiet (Prog.Performs.bind ?_ fun e => hctrl _ fun reply => ?_)
  · refine (Prog.performs_op fun reply => rfl).bind fun reply => ?_
    cases reply with
    | ok e => trivial
    | error e =>
      dsimp only
      split_ifs
      · trivial
      · refine (Prog.performs_ofExcept _).bind fun _ => ?_
        refine (hctrl _ fun reply => ?_).bind fun _ => trivial
        cases reply <;> first | trivial | exact not_false
  · cases reply <;> first | trivial | exact not_false

theorem keepsTurn_serve (r : LifecycleRunner) (q : CycleRequest) : KeepsTurn i (r.serve q) := by
  cases q with
  | runCycle t => exact keepsTurn_runCycle r t
  | installNext identity =>
    refine KeepsTurn.bind (keepsTurn_of_quiet ?_) fun t => keepsTurn_runCycle r t
    refine (Prog.performs_op fun reply => ?_).bind fun x => Prog.performs_ofExcept x
    cases reply <;> first | trivial | exact not_false

theorem quiet_of_isClients {call : RunnerCall} (h : call.IsClients) (reply : call.Reply) :
    Quiet ⟨call, reply⟩ := by
  cases call with
  | ctrl op => cases op <;> cases reply <;> first | trivial | exact not_false
  | adapter => exact h.elim
  | _ => trivial

/-- **Every client keeps to the discipline**, whatever it asks for. -/
theorem Client.keepsTurn {p : RunnerProg α} (h : Client p) : KeepsTurn i p := by
  induction h with
  | returns a => exact Triple.pure (Assertion.le_refl _) (Assertion.le_refl _)
  | raises e => exact Triple.throw (Assertion.le_refl _) (Assertion.le_refl _)
  | call hcall _ ih =>
    intro tr s h
    refine ⟨keeping i, h, Assertion.le_refl _, fun tr s reply s' h ha => ?_⟩
    have hguar := guar_of_quiet ha (quiet_of_isClients hcall reply)
    exact ih reply _ _ ⟨guarantees_call.mpr ⟨h.1, hguar⟩, (hguar h.2).1⟩
  | bootstrap _ ih => exact KeepsTurn.bind (KeepsTurn.attempt keepsTurn_bootstrap) ih
  | cycle r q _ ih => exact KeepsTurn.bind (KeepsTurn.attempt (keepsTurn_serve r q)) ih

end Programs

/-- **Cycles serialize.** Any number of clients share a controller and an adapter that may answer
anything, each asking any runners for bootstraps and cycles and making the calls of owners, one
call of one of them at a time. A cycle begins only when no other is on; while it is on no other
client calls a method of the adapter but `bootstrap`, nor gets a transition accepted other than a
taint; and the adapter sees whole cycles, one after the other and as many as were committed, each
installing the target of its commit, and then the first calls of at most one more. -/
theorem cycles_serialize {κ α : Type} [DecidableEq κ] {p q : κ → RunnerProg α}
    (hp : ∀ i, Client (p i)) {c₀ : LifecycleController} (hc₀ : Reachable c₀) {s : Shared κ}
    (h : Interleaving clientAnswers p ⟨c₀, []⟩ q s) :
    Before Exclusive s.log ∧
      ∃ t rest, Served s.log rest ∧ CallsInOrder t rest ∧ (cycling s.log = none → rest = []) := by
  have hstart : Shared.Good (⟨c₀, []⟩ : Shared κ) :=
    ⟨hc₀.inv, fun pre x post h => by simp at h,
      ⟨⟨⟨0⟩, identityA⟩, [], ⟨[], rfl, rfl⟩, ⟨0, List.nil_prefix⟩, fun _ => rfl⟩,
      fun h => absurd rfl h⟩
  have hgood : s.Good := h.keeps (I := keeping) (Q := fun i _ => keeping i)
    (E := fun i _ => keeping i) (K := Shared.Good) (fun i j hij s s' => rely_of_guar hij)
    (fun i tr s h => h.1) (fun i tr s h => h.2)
    (fun i => (hp i).keepsTurn [] _ ⟨guarantees_nil, hstart⟩) hstart
  exact ⟨hgood.exclusive, hgood.serial⟩

/-- A client that asks for a cycle `n` times, whatever comes of it. -/
def insistent (t : UpdateTarget) : (n : ℕ) → RunnerProg Unit
  | 0 => .pure ()
  | n + 1 => (LifecycleRunner.serve {} (.runCycle t)).attempt.bind fun _ => insistent t n

theorem client_insistent (t : UpdateTarget) (n : ℕ) : Client (insistent t n) := by
  induction n with
  | zero => exact .returns ()
  | succ n ih => exact .cycle {} (.runCycle t) fun _ => ih

/-- Two clients on an engine on which nothing goes wrong: the second asks while the first is in
its cycle, is refused, and asks again later. -/
def contended : Shared Bool :=
  (interleave (fun i call s => ((goodAnswer call s.controller).1,
      ⟨(goodAnswer call s.controller).2, s.log ++ [(i, ⟨call, (goodAnswer call s.controller).1⟩)]⟩))
    (List.replicate 6 false ++ List.replicate 3 true ++ List.replicate 30 false ++
      List.replicate 40 true)
    (fun i => if i then insistent ⟨⟨2⟩, identityA⟩ 2 else insistent ⟨⟨1⟩, identityB⟩ 1)
    ⟨bootstrapped, []⟩).2

/-- Both commit, one after the other. -/
theorem cycles_serialize_contended :
    commits contended.log = [⟨⟨1⟩, identityB⟩, ⟨⟨2⟩, identityA⟩] ∧
      (engineCalls contended.log).length = 14 ∧ Before Exclusive contended.log := by
  refine ⟨by decide +kernel, by decide +kernel, ?_⟩
  refine (cycles_serialize (fun i => ?_) reachable_bootstrapped
    (Interleaving.of_schedule ?_ _ .nil)).1
  · split_ifs <;> exact client_insistent _ _
  · exact fun i call s => ⟨goodAnswer_answers call s.controller, rfl⟩

end RolloutCore
