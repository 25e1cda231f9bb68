import OpenIntentRouter.Core.LTS
import OpenIntentRouter.DelegatedRuns.MemorySerial

/-!
# In-memory calls that raise

A call that raises after its first writes runs its rollback. In a state the
repositories can reach, the only write that can fail is the update of the turn,
and only in `complete` and `timeout`, which do not look at the turn's status
before they write. The rollback of `complete` then leaves the saved plan in
place, that of `timeout` leaves the plan's execution claim dropped.

* `reachable_wellFormed`: what every reachable state satisfies;
* `raise_unchanged_iff`: a raising call leaves the state as it was exactly when
  it is none of these two (`Leaks`).
-/
namespace OpenIntentRouter.DelegatedRuns.Memory

open Core Core.Except Schemas Repositories

/-! ## Reachable states -/

def OutboxKeyed (outbox : MemoryTurnOutboxRepository) : Prop :=
  ∀ key id, outbox.idempotencyKeys.get? key = some id →
    id ≠ "" ∧ ∃ entry, outbox.events.get? id = some entry

variable {entry : TurnOutboxEvent} {outbox : MemoryTurnOutboxRepository} {s t s' : MemoryStores}
  {plan updatedPlan : Option Plan} {command : DelegatedRunEventCommand} {e : StoreError}
  {stamp : Instant} {turn updatedTurn : CanonicalTurn} {event : AgentEvent}
  {runs : Table AgentRun.runId} {p : PreparedTerminal} {gen : Generated} {run : AgentRun}
  {runId delegationKey : String}

theorem addIdempotent_keyed (h : OutboxKeyed outbox) (he : entry.outboxId ≠ "") :
    ∃ out, outbox.addIdempotent entry = .ok out ∧ OutboxKeyed out := by
  unfold MemoryTurnOutboxRepository.addIdempotent
  cases hk : outbox.idempotencyKeys.get? entry.idempotencyKey with
  | some id =>
    obtain ⟨hne, stored, hs⟩ := h _ _ hk
    refine ⟨outbox, ?_, h⟩
    simp [truthy, hne, hs]
  | none =>
    refine ⟨_, rfl, ?_⟩
    intro key id hid
    dsimp only at hid
    rw [Dict.get?_set] at hid
    split at hid
    · cases hid
      exact ⟨he, entry, Table.get?_put_self _ _⟩
    · obtain ⟨hne, stored, hs⟩ := h key id hid
      refine ⟨hne, ?_⟩
      rw [Table.get?_put]
      split
      · exact ⟨_, rfl⟩
      · exact ⟨stored, hs⟩

theorem turnOutbox_outboxId_ne (hex eventType turnId : String) (payload : JsonDict)
    (time : Instant) : (turnOutbox hex eventType turnId payload time).outboxId ≠ "" := by
  intro h
  have hl := congrArg String.length h
  rw [turnOutbox, String.length_append] at hl
  have h7 : "outbox_".length = 7 := by decide
  have h0 : "".length = 0 := by decide
  omega

/-- A stored delegated run passes its constructor unchanged and has a session. -/
structure WellFormed (s : MemoryStores) : Prop where
  run : ∀ runId run, s.runs.get? runId = some run → run.delegated = true →
    run.validate = .ok run ∧ run.sessionId ≠ ""
  outbox : OutboxKeyed s.outbox

/-- What other services do between two calls: any turns, plans, results and
events, one run that is not delegated, one outbox entry. -/
structure Elsewhere (s s' : MemoryStores) : Prop where
  runs : s'.runs = s.runs ∨ ∃ run, run.delegated = false ∧ addRun s.runs run = .ok s'.runs
  outbox : s'.outbox = s.outbox ∨
    ∃ entry, entry.outboxId ≠ "" ∧ s.outbox.addIdempotent entry = .ok s'.outbox

/-- The in-memory stores: a label is a call with what it generates, or a step
of another service. Initially there are no runs and no outbox entries. -/
def system : LTS MemoryStores (Option (Generated × Command)) where
  init s := s.runs = .empty ∧ s.outbox = ⟨.empty, .empty⟩
  step s l s' :=
    match l with
    | some (gen, command) => s' = (exec s gen command).2
    | none => Elsewhere s s'

/-! ## Writes that cannot fail -/

inductive SamePlan (s : MemoryStores) : Option Plan → Option Plan → Prop where
  | absent : SamePlan s none none
  | replaced {old new : Plan} : s.plans.plans.get? old.planId = some old → new.planId = old.planId →
      new.tenantId = old.tenantId → new.userId = old.userId → SamePlan s (some old) (some new)

theorem SamePlan.write {s : MemoryStores} {old new : Option Plan} (h : SamePlan s old new)
    (runs : Table AgentRun.runId) (results : List AgentResult) :
    writePlan new { s with runs, results } =
      .ok { s with runs, results, plans := s.plans.storeOption new } := by
  cases h with
  | absent => rfl
  | replaced hg hid ht hu => exact writePlan_of (s := { s with runs, results }) hg hid ht hu

theorem SamePlan.cases (h : SamePlan s plan updatedPlan) :
    (plan = none ∧ updatedPlan = none) ∨
      ∃ old new, plan = some old ∧ updatedPlan = some new ∧
        s.plans.plans.get? old.planId = some old ∧ new.planId = old.planId := by
  cases h with
  | absent => exact .inl ⟨rfl, rfl⟩
  | replaced hg hid => exact .inr ⟨_, _, rfl, rfl, hg, hid⟩

theorem planFound_get {plan : Plan} (h : PlanFound command s (some plan)) :
    s.plans.plans.get? plan.planId = some plan := by
  cases h with
  | some _ _ hg => rwa [Table.key_of_get? hg]

theorem samePlan_concluded {old new : Option Plan} (h : PlanFound command s old)
    {status : PlanStatus} {requires unmatched : String} {time : Instant}
    (hm : old.mapM (fun plan => concludePlan status requires unmatched plan command time) =
      .ok new) : SamePlan s old new := by
  cases old with
  | none => cases hm; exact .absent
  | some plan =>
    obtain ⟨new, hn, hm⟩ := map_eq_ok.1 hm
    cases hm
    obtain ⟨stepId, -, rfl⟩ := concludePlan_ok.1 hn
    exact .replaced (planFound_get h) rfl rfl rfl

structure Current (s : MemoryStores) (run updatedRun : AgentRun) (turn updatedTurn : CanonicalTurn)
    (plan updatedPlan : Option Plan) : Prop where
  getRun : s.runs.get? run.runId = some run
  sameRun : SameRun run updatedRun
  getTurn : s.turns.get? turn.turnId = some turn
  nextTurn : NextTurn turn updatedTurn
  samePlan : SamePlan s plan updatedPlan

theorem Prepared.current {command : DelegatedRunEventCommand} {s : MemoryStores}
    {p : PreparedTerminal} (h : Prepared command s p) {status : RunStatus} {time : Instant}
    {error : Option JsonDict} {turnStatus : TurnStatus} {response : Option TurnSemanticResponse}
    {planStatus : PlanStatus} {requires unmatched : String} {planTime : Instant}
    (hrun : p.updatedRun = { concludeRun status command time p.run with error })
    (hturn : p.updatedTurn =
      { concludeTurn turnStatus time p.turn with finalResponse := response })
    (hplan : p.plan.mapM
      (fun plan => concludePlan planStatus requires unmatched plan command planTime) =
        .ok p.updatedPlan) :
    Current s p.run p.updatedRun p.turn p.updatedTurn p.plan p.updatedPlan where
  getRun := by rw [h.fresh.runId]; exact h.fresh.get
  sameRun := by rw [hrun]; exact ⟨rfl, rfl, rfl, rfl, rfl, rfl, rfl, rfl⟩
  getTurn := by rw [h.turn.turnId]; exact h.turn.get
  nextTurn := by rw [hturn]; exact ⟨rfl, rfl, rfl, rfl, rfl, rfl, rfl⟩
  samePlan := samePlan_concluded h.plan hplan

/-- The writes that follow the run and the result stop at a terminal turn only. -/
theorem lastWrites_stop {message : String} (results : List AgentResult)
    (hp : SamePlan s plan updatedPlan) (hg : s.turns.get? turn.turnId = some turn)
    (hn : NextTurn turn updatedTurn) (ho : OutboxKeyed s.outbox) (hid : entry.outboxId ≠ "")
    (h : attempt [writePlan updatedPlan, writeTurn updatedTurn turn.stateVersion message,
      writeEvent stamp event, writeOutbox entry] { s with runs, results } = (some e, t)) :
    turn.status.isTerminal = true ∧
      t = { s with runs, results, plans := s.plans.storeOption updatedPlan } := by
  have hplan := hp.write runs results
  have hturn := writeTurn_of message
    (s := { s with runs, results, plans := s.plans.storeOption updatedPlan }) hg hn
  rcases attempt_cons_some.1 h with ⟨h1, -⟩ | ⟨s1, h1, h⟩
  · rw [hplan] at h1
    cases h1
  rw [hplan] at h1
  cases h1
  rcases attempt_cons_some.1 h with ⟨h2, rfl⟩ | ⟨s2, h2, h⟩
  · rw [hturn] at h2
    split at h2
    · next ht => exact ⟨ht, rfl⟩
    · cases h2
  rw [hturn] at h2
  split at h2
  · cases h2
  cases h2
  rcases attempt_cons_some.1 h with ⟨h3, -⟩ | ⟨s3, h3, h⟩
  · cases h3
  cases h3
  rcases attempt_cons_some.1 h with ⟨h4, -⟩ | ⟨s4, h4, h⟩
  · obtain ⟨out, hout, -⟩ := addIdempotent_keyed ho hid
    simp only [writeOutbox, hout] at h4
    cases h4
  · exact absurd h attempt_nil_some

theorem lastWrites_late {rest : List (Write MemoryStores StoreError)} (results : List AgentResult)
    (message : String) (hp : SamePlan s plan updatedPlan)
    (hg : s.turns.get? turn.turnId = some turn) (hn : NextTurn turn updatedTurn)
    (ht : turn.status.isTerminal = true) :
    attempt (writePlan updatedPlan :: writeTurn updatedTurn turn.stateVersion message :: rest)
        { s with runs, results } =
      (some (.turnTerminalStateError "terminal turn cannot be updated"),
        { s with runs, results, plans := s.plans.storeOption updatedPlan }) := by
  refine attempt_cons_some.2 (.inr ⟨_, hp.write runs results, attempt_cons_some.2 (.inl ⟨?_, rfl⟩)⟩)
  have hturn := writeTurn_of message
    (s := { s with runs, results, plans := s.plans.storeOption updatedPlan }) hg hn
  rw [hturn, if_pos ht]

/-! ## What a raising call leaves -/

/-- The state with the execution claims that saving `plan` leaves. -/
def dropClaim (s : MemoryStores) (plan : Option Plan) : MemoryStores :=
  { s with plans :=
    { s.plans with executionClaims := (s.plans.storeOption plan).executionClaims } }

theorem terminalRollback_start (keys : Bool)
    (hc : Current s p.run p.updatedRun p.turn p.updatedTurn p.plan p.updatedPlan) :
    terminalRollback keys s p s = s := by
  have hruns : s.runs.put p.run = s.runs := Table.put_get?_self hc.getRun
  have hturns : s.turns.put p.turn = s.turns := Table.put_get?_self hc.getTurn
  rcases hc.samePlan.cases with ⟨hp, -⟩ | ⟨old, new, hp, -, hg, -⟩
  · simp [terminalRollback, hp, hruns, hturns]
  · simp [terminalRollback, hp, hruns, hturns, Table.put_get?_self hg]

theorem terminalRollback_late {stored : AgentRun} (keys : Bool)
    (hc : Current s p.run p.updatedRun p.turn p.updatedTurn p.plan p.updatedPlan)
    (hid : stored.runId = p.run.runId) :
    terminalRollback keys s p
        { s with runs := s.runs.put stored, plans := s.plans.storeOption p.updatedPlan } =
      dropClaim s p.updatedPlan := by
  have hturns : s.turns.put p.turn = s.turns := Table.put_get?_self hc.getTurn
  have hback : (s.runs.put stored).put p.run = s.runs := by
    rw [Table.put_put _ hid, Table.put_get?_self hc.getRun]
  rcases hc.samePlan.cases with ⟨hp, hu⟩ | ⟨old, new, hp, hu, hg, hid⟩
  · simp [terminalRollback, dropClaim, hp, hu, hback, hturns, MemoryPlanRepository.storeOption]
  · have hold : (s.plans.plans.put new).put old = s.plans.plans := by
      rw [Table.put_put _ hid, Table.put_get?_self hg]
    simp [terminalRollback, dropClaim, hp, hu, hback, hturns, MemoryPlanRepository.storeOption,
      hold, MemoryPlanRepository.store]

/-- A raising `fail`, `cancel` or `timeout` leaves the state before it, but for
an execution claim when the turn is terminal. -/
theorem terminal_raise {message : String} (keys : Bool)
    (hc : Current s p.run p.updatedRun p.turn p.updatedTurn p.plan p.updatedPlan)
    (ho : OutboxKeyed s.outbox) (hid : p.outbox.outboxId ≠ "")
    (h : attempt (terminalWrites message stamp p) s = (some e, t)) :
    terminalRollback keys s p t = s ∨
      p.turn.status.isTerminal = true ∧ terminalRollback keys s p t = dropClaim s p.updatedPlan := by
  rcases attempt_cons_some.1 h with ⟨-, rfl⟩ | ⟨s1, h1, h⟩
  · exact .inl (terminalRollback_start keys hc)
  obtain ⟨stored, hv, rfl⟩ := writeRun_ok h1
  obtain ⟨ht, rfl⟩ := lastWrites_stop s.results hc.samePlan hc.getTurn hc.nextTurn ho
    hid h
  have hsid : stored.runId = p.run.runId := by
    rw [← AgentRun.runId_of_validate hv, hc.sameRun.1]
  exact .inr ⟨ht, terminalRollback_late keys hc hsid⟩

theorem outboxId_ne {hex eventType turnId : String} {body : JsonDict} {time : Instant}
    (h : p.outbox = turnOutbox hex eventType turnId body time) : p.outbox.outboxId ≠ "" := by
  rw [h]
  exact turnOutbox_outboxId_ne _ _ _ _ _

theorem decideFail_current {command : DelegatedRunFailCommand}
    (h : decideFail s command gen = .ok (.inr p)) :
    Current s p.run p.updatedRun p.turn p.updatedTurn p.plan p.updatedPlan := by
  obtain ⟨hp, -, hrun, hturn, hplan, -, -⟩ := decideFail_inr h
  exact hp.current hrun hturn hplan

theorem decideCancel_current {command : DelegatedRunCancelCommand}
    (h : decideCancel s command gen = .ok (.inr p)) :
    Current s p.run p.updatedRun p.turn p.updatedTurn p.plan p.updatedPlan := by
  obtain ⟨hp, -, hrun, hturn, hplan, -, -⟩ := decideCancel_inr h
  exact hp.current hrun hturn hplan

theorem decideTimeout_current {command : DelegatedRunTimeoutCommand}
    (h : decideTimeout s command gen = .ok (.inr p)) :
    Current s p.run p.updatedRun p.turn p.updatedTurn p.plan p.updatedPlan := by
  obtain ⟨hp, -, hrun, hturn, hplan, -, -⟩ := decideTimeout_inr h
  exact hp.current hrun hturn hplan

theorem completePlan_found {command : DelegatedRunCompleteCommand} {plan : Plan} :
    completePlan s command = some plan ↔
      PlanFound command s (some plan) := by
  simp only [completePlan, Option.bind_eq_some_iff, Option.filter_eq_some_iff,
    MemoryPlanRepository.get_eq_some, decide_eq_true_eq]
  constructor
  · rintro ⟨planId, ⟨hp, he⟩, hg, ht, hu⟩
    exact .some hp he hg ht hu
  · rintro (_ | ⟨hp, he, hg, ht, hu⟩)
    exact ⟨_, ⟨hp, he⟩, hg, ht, hu⟩

theorem decideComplete_current {command : DelegatedRunCompleteCommand} {p : PreparedCompletion}
    (h : decideComplete s command gen = .ok (.inr p)) :
    Current s p.run p.bundle.run p.turn p.bundle.turn (completePlan s command) p.bundle.plan := by
  obtain ⟨hfresh, hturn, plan, rfl, hb⟩ := decideComplete_inr h
  refine ⟨?_, ?_, ?_, ?_, ?_⟩
  · rw [hfresh.runId]
    exact hfresh.get
  · rw [hb.run_eq]
    exact ⟨rfl, rfl, rfl, rfl, rfl, rfl, rfl, rfl⟩
  · rw [hturn.turnId]
    exact hturn.get
  · rw [hb.turn_eq]
    exact ⟨rfl, rfl, rfl, rfl, rfl, rfl, rfl⟩
  · have hplan := hb.plan_ok
    cases hc : completePlan s command with
    | none =>
      rw [hc] at hplan
      have hb : p.bundle.plan = none := (Except.ok.inj hplan).symm
      rw [hb]
      exact .absent
    | some old =>
      rw [hc] at hplan
      obtain ⟨new, hn, hplan⟩ := map_eq_ok.1 hplan
      rw [← hplan]
      obtain ⟨stepId, next, -, -, rfl⟩ := completePlanStep_ok.1 hn
      exact .replaced (planFound_get (completePlan_found.1 hc)) rfl rfl rfl

/-- A raising `complete` leaves the state before it, but for the plan when the
turn is terminal. -/
theorem completion_raise {p : PreparedCompletion}
    (hc : Current s p.run p.bundle.run p.turn p.bundle.turn plan p.bundle.plan)
    (ho : OutboxKeyed s.outbox) (hid : p.bundle.outbox.outboxId ≠ "")
    (h : attempt (completionWrites stamp p) s = (some e, t)) :
    completionRollback s p t = s ∨ p.turn.status.isTerminal = true ∧
      completionRollback s p t = { s with plans := s.plans.storeOption p.bundle.plan } := by
  have hruns : s.runs.put p.run = s.runs := Table.put_get?_self hc.getRun
  have hturns : s.turns.put p.turn = s.turns := Table.put_get?_self hc.getTurn
  rcases attempt_cons_some.1 h with ⟨-, rfl⟩ | ⟨s1, h1, h⟩
  · exact .inl (by simp [completionRollback, hruns, hturns])
  obtain ⟨stored, hv, rfl⟩ := writeRun_ok h1
  rcases attempt_cons_some.1 h with ⟨h2, -⟩ | ⟨s2, h2, h⟩
  · cases h2
  cases h2
  obtain ⟨ht, rfl⟩ := lastWrites_stop _ hc.samePlan hc.getTurn hc.nextTurn ho hid h
  have hsid : stored.runId = p.run.runId := by
    rw [← AgentRun.runId_of_validate hv, hc.sameRun.1]
  have hback : (s.runs.put stored).put p.run = s.runs := by rw [Table.put_put _ hsid, hruns]
  exact .inr ⟨ht, by simp [completionRollback, hback, hturns]⟩

theorem progress_raise {command : DelegatedRunProgressCommand} {p : PreparedProgress}
    (hp : ProgressPrepared command s p) (h : attempt (progressWrites stamp p) s = (some e, t)) :
    progressRollback s p t = s := by
  have hplan : SamePlan s (p.plans.map Prod.fst) (p.plans.map Prod.snd) := by
    cases hpl : p.plans with
    | none => exact .absent
    | some pair =>
      have hcl := hp.plans
      rw [hpl] at hcl
      cases hcl with
      | some _ _ _ _ _ hg =>
        exact .replaced (by rwa [Table.key_of_get? hg]) rfl rfl rfl
  have hget : s.runs.get? p.run.runId = some p.run := by rw [hp.fresh.runId]; exact hp.fresh.get
  rcases attempt_cons_some.1 h with ⟨-, rfl⟩ | ⟨s1, h1, h⟩
  · rcases hplan.cases with ⟨ho, -⟩ | ⟨old, new, ho, -, hg, -⟩
    · simp only [Option.map_eq_none_iff] at ho
      simp [progressRollback, ho, Table.put_get?_self hget]
    · obtain ⟨pair, hpair, rfl⟩ := Option.map_eq_some_iff.1 ho
      simp [progressRollback, hpair, Table.put_get?_self hget, Table.put_get?_self hg]
  obtain ⟨stored, -, rfl⟩ := writeRun_ok h1
  have hw := hplan.write (s.runs.put stored) s.results
  rcases attempt_cons_some.1 h with ⟨h2, -⟩ | ⟨s2, h2, h⟩
  · rw [hw] at h2
    cases h2
  rcases attempt_cons_some.1 h with ⟨h3, -⟩ | ⟨s3, h3, h⟩
  · cases h3
  · exact absurd h attempt_nil_some

theorem attachRun_next {updated : CanonicalTurn} {now : Instant}
    (h : attachRun turn run now = .ok updated) : NextTurn turn updated := by
  unfold attachRun at h
  dsimp only at h
  split at h
  · split at h
    · cases h
    · cases h
      exact ⟨rfl, rfl, rfl, rfl, rfl, rfl, rfl⟩
  · cases h
    exact ⟨rfl, rfl, rfl, rfl, rfl, rfl, rfl⟩

theorem start_raise {command : DelegatedRunStartCommand}
    (h : start s command runId delegationKey gen = (.error e, s')) : s' = s := by
  unfold start at h
  dsimp only at h
  split at h
  · cases h
  split at h
  · cases h
    rfl
  next turn run updated hprep =>
  obtain ⟨u, hstep, hprep⟩ := bind_eq_ok.1 hprep
  obtain ⟨turn', hturn, hprep⟩ := bind_eq_ok.1 hprep
  obtain ⟨run', hrun, hprep⟩ := bind_eq_ok.1 hprep
  obtain ⟨updated', hupdated, hprep⟩ := bind_eq_ok.1 hprep
  cases hprep
  obtain ⟨hget, -, -, -, -, hopen⟩ := validateStartTurn_ok.1 hturn
  have hg := (getTurn_eq_some.1 hget).1
  split at h
  · cases h
    rfl
  next runs hadd =>
  split at h
  · next e' s1 htx =>
    obtain ⟨t, ha, -⟩ := transact_error.1 htx
    have hw := writeTurn_of "Turn changed concurrently" (s := { s with runs })
      (by rwa [Table.key_of_get? hg]) (attachRun_next hupdated)
    rcases attempt_cons_some.1 ha with ⟨h1, -⟩ | ⟨s2, -, ha⟩
    · rw [hw, hopen] at h1
      cases h1
    · exact absurd ha attempt_nil_some
  · cases h

theorem exec_raise {command : Command} (ho : OutboxKeyed s.outbox)
    (h : exec s gen command = (.error e, s')) :
    s' = s ∨
      (∃ complete p, command = .complete complete ∧
        decideComplete s complete gen = .ok (.inr p) ∧ p.turn.status.isTerminal = true ∧
        s' = { s with plans := s.plans.storeOption p.bundle.plan }) ∨
      (∃ timeout p, command = .timeout timeout ∧ decideTimeout s timeout gen = .ok (.inr p) ∧
        p.turn.status.isTerminal = true ∧ s' = dropClaim s p.updatedPlan) := by
  cases command with
  | start command runHex key => exact .inl (start_raise h)
  | progress command =>
    rcases perform_error h with ⟨-, rfl⟩ | ⟨p, t, hp, ha, rfl⟩
    · exact .inl rfl
    · exact .inl (progress_raise (decideProgress_inr hp) ha)
  | complete command =>
    rcases perform_error h with ⟨-, rfl⟩ | ⟨p, t, hp, ha, rfl⟩
    · exact .inl rfl
    · obtain ⟨-, -, plan, -, hb⟩ := decideComplete_inr hp
      have hid : p.bundle.outbox.outboxId ≠ "" := by
        rw [hb.outbox_eq]
        exact turnOutbox_outboxId_ne _ _ _ _ _
      rcases completion_raise (decideComplete_current hp) ho hid ha with hs | ⟨ht, hs⟩
      · exact .inl hs
      · exact .inr (.inl ⟨command, p, rfl, hp, ht, hs⟩)
  | fail command =>
    rcases perform_error h with ⟨-, rfl⟩ | ⟨p, t, hp, ha, rfl⟩
    · exact .inl rfl
    · obtain ⟨-, hopen, -, -, -, -, hout⟩ := decideFail_inr hp
      rcases terminal_raise false (decideFail_current hp) ho (outboxId_ne hout) ha with hs | ⟨ht, -⟩
      · exact .inl hs
      · rw [hopen] at ht
        cases ht
  | cancel command =>
    rcases perform_error h with ⟨-, rfl⟩ | ⟨p, t, hp, ha, rfl⟩
    · exact .inl rfl
    · obtain ⟨-, hopen, -, -, -, -, hout⟩ := decideCancel_inr hp
      rcases terminal_raise true (decideCancel_current hp) ho (outboxId_ne hout) ha with hs | ⟨ht, -⟩
      · exact .inl hs
      · rw [hopen] at ht
        cases ht
  | timeout command =>
    rcases perform_error h with ⟨-, rfl⟩ | ⟨p, t, hp, ha, rfl⟩
    · exact .inl rfl
    · obtain ⟨-, -, -, -, -, -, hout⟩ := decideTimeout_inr hp
      rcases terminal_raise true (decideTimeout_current hp) ho (outboxId_ne hout) ha with
        hs | ⟨ht, hs⟩
      · exact .inl hs
      · exact .inr (.inr ⟨command, p, rfl, hp, ht, hs⟩)

/-- Whatever a raising call leaves of the plan, it restores all the rest. -/
theorem exec_raise_frame {command : Command} (ho : OutboxKeyed s.outbox)
    (h : exec s gen command = (.error e, s')) : s' = { s with plans := s'.plans } := by
  rcases exec_raise ho h with rfl | ⟨_, _, -, -, -, rfl⟩ | ⟨_, _, -, -, -, rfl⟩ <;> rfl

/-! ## The invariant -/

theorem WellFormed.put (h : WellFormed s) {stored : AgentRun}
    (hs : stored.delegated = true → stored.validate = .ok stored ∧ stored.sessionId ≠ "")
    (hr : (s.runs.put stored).get? runId = some run) (hd : run.delegated = true) :
    run.validate = .ok run ∧ run.sessionId ≠ "" := by
  rw [Table.get?_put] at hr
  split at hr
  · cases hr
    exact hs hd
  · exact h.run _ _ hr hd

theorem addIdempotent_ok {out : MemoryTurnOutboxRepository} (h : OutboxKeyed outbox)
    (he : entry.outboxId ≠ "") (ha : outbox.addIdempotent entry = .ok out) : OutboxKeyed out := by
  obtain ⟨out', ho, hk⟩ := addIdempotent_keyed h he
  rw [ha] at ho
  cases ho
  exact hk

theorem Written.outboxKeyed {updated : AgentRun} (h : Written command stamp s s' run updated event)
    (ho : OutboxKeyed s.outbox) : OutboxKeyed s'.outbox := by
  rcases h.outbox with hs | ⟨hex, eventType, turnId, payload, time, hs⟩
  · rw [hs]
    exact ho
  · exact addIdempotent_ok ho (turnOutbox_outboxId_ne _ _ _ _ _) hs

theorem Written.wellFormed {updated : AgentRun} (h : Written command stamp s s' run updated event)
    (hw : WellFormed s) : WellFormed s' := by
  obtain ⟨stored, hv, hruns⟩ := h.runs
  refine ⟨fun runId other hg hd => ?_, h.outboxKeyed hw.outbox⟩
  rw [hruns] at hg
  refine hw.put (fun _ => ⟨AgentRun.validate_idem hv, ?_⟩) hg hd
  have hsess : stored.sessionId = run.sessionId := by
    rw [AgentRun.validate_eq hv]
    exact h.same.2.2.1
  rw [hsess]
  exact (hw.run _ _ h.fresh.get h.fresh.accepts.delegated).2

theorem newRun_eq {command : DelegatedRunStartCommand} {now : Instant}
    (h : newRun command runId delegationKey now = .ok run) :
    run.runId = runId ∧ run.sessionId = command.sessionId ∧ run.delegated = true ∧
      run.stateVersion = 1 ∧ run.eventSequence = 0 ∧ run.status = .pending := by
  rw [AgentRun.validate_eq h]
  exact ⟨rfl, rfl, rfl, rfl, rfl, rfl⟩

theorem Started.wellFormed {command : DelegatedRunStartCommand}
    (h : Started command runId delegationKey gen s s') (hw : WellFormed s) : WellFormed s' := by
  obtain ⟨turn, run, stored, updated, -, -, -, -, hrun, hv, -, rfl⟩ := h.started
  refine ⟨fun runId other hg hd => ?_, hw.outbox⟩
  refine hw.put (fun _ => ⟨AgentRun.validate_idem hv, ?_⟩) hg hd
  rw [AgentRun.validate_eq hv]
  dsimp only
  rw [(newRun_eq hrun).2.1]
  exact command.sessionId_ne

theorem exec_wellFormed (hw : WellFormed s) (gen : Generated) (command : Command) :
    WellFormed (exec s gen command).2 := by
  rcases hx : exec s gen command with ⟨e | r, s'⟩
  · rw [exec_raise_frame hw.outbox hx]
    exact ⟨hw.run, hw.outbox⟩
  · rcases exec_ok hx with ⟨-, rfl⟩ | ⟨_, _, _, -, hs⟩ | ⟨_, _, _, _, -, hwr⟩
    · exact hw
    · exact hs.wellFormed hw
    · exact hwr.wellFormed hw

theorem reachable_wellFormed (h : system.Reachable s) : WellFormed s := by
  refine LTS.Inductive.reachable (T := system) ⟨?_, ?_⟩ h
  · rintro s ⟨hr, ho⟩
    refine ⟨fun runId run hg _ => ?_, fun key id hk => ?_⟩
    · rw [hr] at hg
      cases hg
    · rw [ho] at hk
      cases hk
  · rintro s (_ | ⟨gen, command⟩) s' hw hst
    · refine ⟨fun runId run hg hd => ?_, ?_⟩
      · rcases hst.runs with hr | ⟨other, hno, hadd⟩
        · rw [hr] at hg
          exact hw.run _ _ hg hd
        · obtain ⟨stored, hv, hadd⟩ := bind_eq_ok.1 hadd
          have hput : s'.runs = s.runs.put stored := (Except.ok.inj hadd).symm
          rw [hput] at hg
          refine hw.put (fun hyes => ?_) hg hd
          have hsame : stored.delegated = other.delegated := by rw [AgentRun.validate_eq hv]
          rw [hsame, hno] at hyes
          cases hyes
      · rcases hst.outbox with ho | ⟨entry, he, ho⟩
        · rw [ho]
          exact hw.outbox
        · exact addIdempotent_ok hw.outbox he ho
    · cases hst
      exact exec_wellFormed hw gen command

/-! ## The calls that leave traces -/

/-- A new command for a run that is still active, on a turn that is terminal. -/
structure Late (command : DelegatedRunEventCommand) (s : MemoryStores) (run : AgentRun)
    (turn : CanonicalTurn) : Prop where
  fresh : Fresh command s run
  owned : TurnOwned command s turn
  closed : turn.status.isTerminal = true

/-- A late `complete` whose plan could be completed. -/
def CompleteLeaks (s : MemoryStores) (command : DelegatedRunCompleteCommand) : Prop :=
  ∃ run turn plan stepId next output, Late command s run turn ∧
    PlanFound command s (some plan) ∧
    NamesStep command plan stepId ∧
    planStateAfterCompletion (markStep .completed stepId command.agentId plan.steps) = .ok next ∧
    sanitizeBody command.output = .ok output

/-- A late `timeout` whose plan holds an execution claim. -/
def TimeoutLeaks (s : MemoryStores) (command : DelegatedRunTimeoutCommand) : Prop :=
  ∃ run turn plan stepId claim, Late command s run turn ∧
    DeadlinePassed command run ∧ PlanFound command s (some plan) ∧
    NamesStep command plan stepId ∧
    s.plans.executionClaims.get? plan.planId = some claim

def Leaks (s : MemoryStores) : Command → Prop
  | .complete command => CompleteLeaks s command
  | .timeout command => TimeoutLeaks s command
  | .start _ _ _ | .progress _ | .fail _ | .cancel _ => False

theorem decideComplete_leaks {command : DelegatedRunCompleteCommand} {p : PreparedCompletion}
    {plan : Plan} (h : decideComplete s command gen = .ok (.inr p))
    (ht : p.turn.status.isTerminal = true) (hp : p.bundle.plan = some plan) :
    CompleteLeaks s command := by
  obtain ⟨hfresh, hturn, found, hfound, hb⟩ := decideComplete_inr h
  have hm := hb.plan_ok
  rw [hp] at hm
  cases found with
  | none => cases hm
  | some old =>
    obtain ⟨new, hn, -⟩ := map_eq_ok.1 hm
    obtain ⟨stepId, next, hnames, hnext, -⟩ := completePlanStep_ok.1 hn
    obtain ⟨-, output, -, ho, -⟩ := AgentResult.validate_ok.1 hb.result_ok
    exact ⟨p.run, p.turn, old, stepId, next, output, ⟨hfresh, hturn, ht⟩,
      completePlan_found.1 hfound, hnames, hnext, ho⟩

theorem decideTimeout_leaks {command : DelegatedRunTimeoutCommand}
    (h : decideTimeout s command gen = .ok (.inr p)) (ht : p.turn.status.isTerminal = true)
    (hd : dropClaim s p.updatedPlan ≠ s) : TimeoutLeaks s command := by
  obtain ⟨hprep, hdue, -, -, hm, -, -⟩ := decideTimeout_inr h
  have hplan := hprep.plan
  cases hp : p.plan with
  | none =>
    rw [hp] at hm
    have hu : p.updatedPlan = none := (Except.ok.inj hm).symm
    rw [hu] at hd
    exact absurd rfl hd
  | some old =>
    rw [hp] at hm hplan
    obtain ⟨new, hn, hm⟩ := map_eq_ok.1 hm
    obtain ⟨stepId, hnames, rfl⟩ := concludePlan_ok.1 hn
    cases hc : s.plans.executionClaims.get? old.planId with
    | some claim =>
      exact ⟨p.run, p.turn, old, stepId, claim, ⟨hprep.fresh, hprep.turn, ht⟩, hdue, hplan, hnames,
        hc⟩
    | none =>
      refine absurd ?_ hd
      rw [← hm]
      simp [dropClaim, MemoryPlanRepository.storeOption, MemoryPlanRepository.store,
        concludedPlan, hc, Dict.erase_of_none hc]

theorem findPlan_of {plan : Plan} (h : PlanFound command s (some plan)) (message : String) :
    findPlan s command message = .ok (some plan) := by
  cases h with
  | some hp he hg ht hu =>
    simp only [findPlan, hp, if_neg he, MemoryPlanRepository.get_eq_some.2 ⟨hg, ht, hu⟩]

theorem terminalEvent_validate (runId : String) (eventType : AgentEventType) (status : RunStatus)
    (payload : JsonDict) (time : Instant) (ha : Accepts run command) (hs : run.sessionId ≠ "")
    (hp : sanitizeFields payload = .ok payload) :
    (terminalEvent run command runId eventType status payload time).validate =
      .ok (terminalEvent run command runId eventType status payload time) := by
  refine AgentEvent.validate_ok.2 ⟨⟨command.eventId_ne, hs, ?_⟩, ⟨?_, ?_⟩, payload, hp, rfl⟩
  · rw [terminalEvent, ha.agent]
    exact command.agentId_ne
  · intro n hn
    cases hn
    omega
  · intro n hn
    cases hn
    omega

/-- A late `timeout` with an execution claim raises and drops the claim. -/
theorem timeout_leaks (hw : WellFormed s) {command : DelegatedRunTimeoutCommand} (gen : Generated)
    (h : TimeoutLeaks s command) : ∃ e s', timeout s command gen = (.error e, s') ∧ s' ≠ s := by
  obtain ⟨run, turn, plan, stepId, claim, ⟨hfresh, hturn, ht⟩, hdue, hplan, hnames, hclaim⟩ := h
  obtain ⟨hvalid, hsess⟩ := hw.run _ _ hfresh.get hfresh.accepts.delegated
  have hd : ∃ p, decideTimeout s command gen = .ok (.inr p) ∧ p.turn = turn ∧ ∃ time,
      p.updatedPlan = some (concludedPlan .failed stepId command time
        plan) := by
    rw [decideTimeout, hfresh.event]
    have hr := validateTimeoutRun_ok.2 ⟨rfl, hfresh.accepts, hdue⟩
    rw [← hfresh.get] at hr
    have hg := getTurn_eq_some.2 ⟨hturn.get, hturn.tenant, hturn.user⟩
    have hm : timedOutPlan plan command
        (concludedAt command turn) = .ok _ :=
      concludePlan_ok.2 ⟨stepId, hnames, rfl⟩
    have he := terminalEvent_validate command.runId .agentError .timedOut
      [("reason", .str command.reason)] (concludedAt command turn)
      hfresh.accepts hsess rfl
    simp only [hr, hg, findPlan_of hplan, ok_bind, Option.mapM_some, hm, he]
    exact ⟨_, rfl, rfl, _, rfl⟩
  obtain ⟨p, hp, rfl, time, hu⟩ := hd
  have hc := decideTimeout_current hp
  obtain ⟨hprep, -, hrun, -⟩ := decideTimeout_inr hp
  have hpr : p.run = run := Option.some.inj (hprep.fresh.get.symm.trans hfresh.get)
  have hv : p.updatedRun.validate = .ok p.updatedRun := by
    obtain ⟨-, hi, ho, he⟩ := AgentRun.validate_self.1 hvalid
    rw [hrun, hpr]
    exact AgentRun.validate_self.2 ⟨by simp [concludeRun], hi, ho, he⟩
  have hwr := writeRun_of (s := s) hc.getRun hc.sameRun hv
  have hstop : attempt (terminalWrites "Timeout Turn changed concurrently" gen.stamp p) s =
      (some _, _) :=
    attempt_cons_some.2 (.inr ⟨_, hwr,
      lastWrites_late s.results _ hc.samePlan hc.getTurn hc.nextTurn ht⟩)
  refine ⟨_, _, perform_raise hp hstop, ?_⟩
  rw [terminalRollback_late true hc hc.sameRun.1, hu]
  intro heq
  have hk := congrArg (fun t => t.plans.executionClaims.get? plan.planId) heq
  simp [dropClaim, MemoryPlanRepository.storeOption, MemoryPlanRepository.store, concludedPlan,
    hclaim, Dict.get?_erase] at hk

/-- A late `complete` with a plan raises and keeps the new plan. -/
theorem complete_leaks (hw : WellFormed s) {command : DelegatedRunCompleteCommand} (gen : Generated)
    (h : CompleteLeaks s command) : ∃ e s', complete s command gen = (.error e, s') ∧ s' ≠ s := by
  obtain ⟨run, turn, plan, stepId, next, output, ⟨hfresh, hturn, ht⟩, hplan, hnames, hnext, hout⟩ := h
  obtain ⟨hvalid, hsess⟩ := hw.run _ _ hfresh.get hfresh.accepts.delegated
  have hd : ∃ p, decideComplete s command gen = .ok (.inr p) ∧ p.turn = turn ∧
      p.bundle.plan = some (completedPlan command stepId next plan) := by
    rw [decideComplete, hfresh.event]
    have hr : validateFinalRun (s.runs.get? command.runId) command = .ok run :=
      validateRun_ok.2 ⟨hfresh.get, hfresh.accepts, rfl⟩
    have hg := getTurn_eq_some.2 ⟨hturn.get, hturn.tenant, hturn.user⟩
    have hm := completePlanStep_ok.2 ⟨stepId, next, hnames, hnext, rfl⟩
    have he := terminalEvent_validate run.runId .agentResult .completed
      [("result_id", .str command.resultId)] command.occurredAt hfresh.accepts hsess rfl
    have hres : (completionResult command run).validate =
        .ok { completionResult command run with output := output, error := none } := by
      refine AgentResult.validate_ok.2 ⟨?_, output, none, hout, rfl, rfl⟩
      intro n hn
      cases hn
      omega
    simp only [hr, hg, completePlan_found.2 hplan, completionBundle, hres, completionEvent, he,
      hm, ok_bind, Option.mapM_some]
    exact ⟨_, rfl, rfl, rfl⟩
  obtain ⟨p, hp, rfl, hu⟩ := hd
  have hc := decideComplete_current hp
  obtain ⟨hfresh', -, _, -, hb⟩ := decideComplete_inr hp
  have hpr : p.run = run := Option.some.inj (hfresh'.get.symm.trans hfresh.get)
  have hv : ∃ stored, p.bundle.run.validate = .ok stored := by
    obtain ⟨-, hi, -, he⟩ := AgentRun.validate_self.1 hvalid
    rw [hb.run_eq, hpr]
    exact ⟨_, AgentRun.validate_ok.2 ⟨by simp [completedRun, concludeRun], _, _, _, hi, hout, he,
      rfl⟩⟩
  obtain ⟨stored, hv⟩ := hv
  have hwr := writeRun_of (s := s) hc.getRun hc.sameRun hv
  have hstop : attempt (completionWrites gen.stamp p) s = (some _, _) :=
    attempt_cons_some.2 (.inr ⟨_, hwr, attempt_cons_some.2 (.inr ⟨_, rfl,
      lastWrites_late (s := s) _ "Turn changed concurrently" hc.samePlan hc.getTurn hc.nextTurn ht⟩)⟩)
  refine ⟨_, _, perform_raise hp hstop, ?_⟩
  intro heq
  have hk := congrArg (fun t => t.plans.plans.get? plan.planId) heq
  have hid : (completedPlan command stepId next plan).planId = plan.planId := rfl
  simp only [completionRollback, hu, MemoryPlanRepository.storeOption,
    MemoryPlanRepository.store_plans, Table.get?_put, hid, if_true, planFound_get hplan,
    Option.some.injEq] at hk
  have hver := congrArg Plan.stateVersion hk
  simp [completedPlan] at hver

/-- **All or nothing.** In every reachable state a raising call leaves the
state as it was, exactly when it is neither a late `complete` whose plan could
be completed nor a late `timeout` whose plan holds an execution claim. -/
theorem raise_unchanged_iff {s : MemoryStores} (h : system.Reachable s) (gen : Generated)
    (command : Command) :
    (∀ e s', exec s gen command = (.error e, s') → s' = s) ↔ ¬Leaks s command := by
  have hw := reachable_wellFormed h
  constructor
  · intro hall hleak
    cases command with
    | complete command =>
      obtain ⟨e, s', he, hne⟩ := complete_leaks hw gen hleak
      exact hne (hall e s' he)
    | timeout command =>
      obtain ⟨e, s', he, hne⟩ := timeout_leaks hw gen hleak
      exact hne (hall e s' he)
    | start _ _ _ => exact hleak
    | progress _ => exact hleak
    | fail _ => exact hleak
    | cancel _ => exact hleak
  · intro hno e s' hx
    rcases exec_raise hw.outbox hx with hs | ⟨complete, p, rfl, hp, ht, rfl⟩ |
      ⟨timeout, p, rfl, hp, ht, rfl⟩
    · exact hs
    · cases hplan : p.bundle.plan with
      | none => rfl
      | some plan => exact absurd (decideComplete_leaks hp ht hplan) hno
    · by_contra hne
      exact hno (decideTimeout_leaks hp ht hne)

theorem execAll_reachable (h : system.Reachable s) (calls : List (Generated × Command)) :
    system.Reachable (execAll s calls) := by
  induction calls generalizing s with
  | nil => exact h
  | cons call calls ih => exact ih (.step (l := some call) h rfl)

def lateStores : MemoryStores :=
  execAll sampleStores
    [(sampleGenerated "1", .start (sampleStart (some "one")) "1" "key1"),
      (sampleGenerated "2", .start (sampleStart (some "two")) "2" "key2"),
      (sampleGenerated "3", .fail (sampleFail (sampleEvent "event1" "run_1" (some "one") 1)))]

theorem lateStores_reachable : system.Reachable lateStores :=
  execAll_reachable (.init ⟨rfl, rfl⟩) _

/-- The late `complete` of the second run. -/
def lateComplete : Command :=
  .complete (sampleComplete (sampleEvent "event2" "run_2" (some "two") 2) "result")

theorem raise_unchanged_iff_lateStores :
    system.Reachable lateStores ∧
      ((∀ e s', exec lateStores (sampleGenerated "4") lateComplete = (.error e, s') →
        s' = lateStores) ↔ ¬Leaks lateStores lateComplete) :=
  ⟨lateStores_reachable, raise_unchanged_iff lateStores_reachable _ _⟩

/-- The late `complete` raises, and the plan it saved stays saved. -/
theorem late_complete_not_atomic :
    system.Reachable lateStores ∧
      (exec lateStores (sampleGenerated "4") lateComplete).1 =
        .error (.turnTerminalStateError "terminal turn cannot be updated") ∧
      (exec lateStores (sampleGenerated "4") lateComplete).2 ≠ lateStores := by
  refine ⟨lateStores_reachable, ?_, ?_⟩
  · decide
  · decide

end OpenIntentRouter.DelegatedRuns.Memory
