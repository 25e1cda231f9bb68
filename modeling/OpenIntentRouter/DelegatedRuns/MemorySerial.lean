import OpenIntentRouter.DelegatedRuns.MemoryStores

/-!
# What an in-memory call does

One inversion lemma per write and per store: what an accepted call found and
what it left. Everything the results say about the in-memory stores is derived
from these.

* `fail_ok`, `cancel_ok`, `timeout_ok`, `complete_ok`, `progress_ok`, `start_ok`;
* `exec_ok`: what all of them do to runs and events.
-/
namespace OpenIntentRouter.DelegatedRuns.Memory

open Core Core.Except Schemas Repositories

/-! ## The writes -/

variable {s s' : MemoryStores} {run : AgentRun} {message : String} {p : PreparedTerminal}
  {stamp : Instant} {gen : Generated} {command : DelegatedRunTimeoutCommand} {r : Reply}

theorem writeRun_ok (h : writeRun run s = .ok s') :
    ∃ stored, run.validate = .ok stored ∧ s' = { s with runs := s.runs.put stored } := by
  obtain ⟨runs, hr, h⟩ := bind_eq_ok.1 h
  cases h
  obtain ⟨existing, stored, -, hv, rfl⟩ := updateRun_ok hr
  exact ⟨stored, hv, rfl⟩

theorem writePlan_ok {plan : Option Plan} (h : writePlan plan s = .ok s') :
    s' = { s with plans := s.plans.storeOption plan } := by
  cases plan with
  | none => cases h; rfl
  | some plan =>
    obtain ⟨plans, hp, h⟩ := bind_eq_ok.1 h
    cases h
    rw [MemoryPlanRepository.save_ok hp]
    rfl

theorem writeTurn_ok {turn : CanonicalTurn} {version : Nat}
    (h : writeTurn turn version message s = .ok s') :
    (∃ existing, s.turns.get? turn.turnId = some existing ∧
      existing.status.isTerminal = false) ∧ s' = { s with turns := s.turns.put turn } := by
  obtain ⟨o, ho, h⟩ := bind_eq_ok.1 h
  cases o with
  | none => cases h
  | some turns =>
    cases h
    obtain ⟨existing, hg, -, ht, -, rfl⟩ := updateIfVersion_ok ho
    exact ⟨⟨existing, hg, ht⟩, rfl⟩

theorem writeOutbox_ok {entry : TurnOutboxEvent} (h : writeOutbox entry s = .ok s') :
    ∃ outbox, s.outbox.addIdempotent entry = .ok outbox ∧ s' = { s with outbox } := by
  obtain ⟨outbox, ho, h⟩ := bind_eq_ok.1 h
  cases h
  exact ⟨outbox, ho, rfl⟩

def SameRun (old new : AgentRun) : Prop :=
  new.runId = old.runId ∧ new.requestId = old.requestId ∧ new.sessionId = old.sessionId ∧
  new.agentId = old.agentId ∧ new.userId = old.userId ∧ new.tenantId = old.tenantId ∧
  new.planId = old.planId ∧ new.stepId = old.stepId

theorem writeRun_of {old new stored : AgentRun} (hg : s.runs.get? old.runId = some old)
    (hs : SameRun old new) (hv : new.validate = .ok stored) :
    writeRun new s = .ok { s with runs := s.runs.put stored } := by
  obtain ⟨h0, h1, h2, h3, h4, h5, h6, h7⟩ := hs
  have hid : validateRunIdentity old new = .ok () := by
    simp [validateRunIdentity, Except.ensure, h1, h2, h3, h4, h5, h6, h7]
  rw [writeRun, updateRun, h0, hg]
  simp only [hid, hv]
  rfl

def NextTurn (old new : CanonicalTurn) : Prop :=
  new.turnId = old.turnId ∧ new.tenantId = old.tenantId ∧ new.userId = old.userId ∧
  new.sessionId = old.sessionId ∧ new.requestId = old.requestId ∧ new.source = old.source ∧
  new.stateVersion = old.stateVersion + 1

/-- Writing the next version of the stored turn fails on a terminal turn only. -/
theorem writeTurn_of {old new : CanonicalTurn} (message : String)
    (hg : s.turns.get? old.turnId = some old) (hn : NextTurn old new) :
    writeTurn new old.stateVersion message s =
      if old.status.isTerminal then
        .error (.turnTerminalStateError "terminal turn cannot be updated")
      else .ok { s with turns := s.turns.put new } := by
  obtain ⟨h0, h1, h2, h3, h4, h5, h6⟩ := hn
  rw [writeTurn, updateIfVersion, h0, hg]
  cases ht : old.status.isTerminal with
  | true => simp [validateUpdate, Except.ensure, h0, h1, h2, h3, h4, h5, ht]
  | false =>
    simp only [validateUpdate, Except.ensure, h0, h1, h2, h3, h4, h5, h6, ht, decide_true,
      Bool.and_self, ne_eq, not_true_eq_false, if_false, if_true, Bool.not_false]
    rfl

theorem writePlan_of {old new : Plan} (hg : s.plans.plans.get? old.planId = some old)
    (hid : new.planId = old.planId) (ht : new.tenantId = old.tenantId)
    (hu : new.userId = old.userId) :
    writePlan (some new) s = .ok { s with plans := s.plans.store new } := by
  simp only [writePlan, MemoryPlanRepository.save, hid, hg, ht, hu]
  simp only [ne_eq, not_true_eq_false, decide_false, Bool.or_self, Bool.false_eq_true, if_false]
  rfl

/-- The writes of `fail`, `cancel` and `timeout` all succeeded. -/
structure TerminalApplied (stamp : Instant) (p : PreparedTerminal) (s s' : MemoryStores) : Prop where
  run : ∃ stored, p.updatedRun.validate = .ok stored ∧ s'.runs = s.runs.put stored
  plans : s'.plans = s.plans.storeOption p.updatedPlan
  open_ : ∃ existing, s.turns.get? p.updatedTurn.turnId = some existing ∧
    existing.status.isTerminal = false
  turns : s'.turns = s.turns.put p.updatedTurn
  events : s'.agentEvents = addAgentEvent s.agentEvents stamp p.event
  outbox : s.outbox.addIdempotent p.outbox = .ok s'.outbox
  results : s'.results = s.results
  keys : s'.delegationKeys = s.delegationKeys

theorem terminalWrites_applied (h : Applied (terminalWrites message stamp p) s s') :
    TerminalApplied stamp p s s' := by
  obtain ⟨s1, h1, h⟩ := applied_cons.1 h
  obtain ⟨s2, h2, h⟩ := applied_cons.1 h
  obtain ⟨s3, h3, h⟩ := applied_cons.1 h
  obtain ⟨s4, h4, h⟩ := applied_cons.1 h
  obtain ⟨s5, h5, h⟩ := applied_cons.1 h
  obtain rfl := applied_nil.1 h
  obtain ⟨stored, hv, rfl⟩ := writeRun_ok h1
  obtain rfl := writePlan_ok h2
  obtain ⟨ht, rfl⟩ := writeTurn_ok h3
  cases h4
  obtain ⟨outbox, ho, rfl⟩ := writeOutbox_ok h5
  exact ⟨⟨stored, hv, rfl⟩, rfl, ht, rfl, rfl, ho, rfl, rfl⟩

/-! ## What a call finds -/

/-- A stored run the command is accepted for, and no event of its owner under its id. -/
structure Fresh (command : DelegatedRunEventCommand) (s : MemoryStores) (run : AgentRun) :
    Prop where
  event : getEvent s.agentEvents command.eventId command.tenantId command.userId = none
  get : s.runs.get? command.runId = some run
  accepts : Accepts run command

theorem Fresh.runId {command : DelegatedRunEventCommand} (h : Fresh command s run) :
    run.runId = command.runId := Table.key_of_get? h.get

structure TurnOwned (command : DelegatedRunEventCommand) (s : MemoryStores)
    (turn : CanonicalTurn) : Prop where
  get : s.turns.get? command.turnId = some turn
  tenant : turn.tenantId = command.tenantId
  user : turn.userId = command.userId

theorem TurnOwned.turnId {command : DelegatedRunEventCommand} {turn : CanonicalTurn}
    (h : TurnOwned command s turn) : turn.turnId = command.turnId :=
  Table.key_of_get? h.get

inductive PlanFound (command : DelegatedRunEventCommand) (s : MemoryStores) :
    Option Plan → Prop where
  | none : truthy command.planId = false → PlanFound command s none
  | some {planId : String} {plan : Plan} :
      command.planId = some planId → planId ≠ "" → s.plans.plans.get? planId = some plan →
      plan.tenantId = command.tenantId → plan.userId = command.userId →
      PlanFound command s (some plan)

theorem findPlan_ok {command : DelegatedRunEventCommand} {plan : Option Plan}
    (h : findPlan s command message = .ok plan) : PlanFound command s plan := by
  unfold findPlan at h
  split at h
  · next hp => cases h; exact .none (by simp [hp])
  · next planId hp =>
    split at h
    · next he => cases h; exact .none (by simp [hp, truthy, he])
    · next he =>
      split at h
      · cases h
      · next plan hplan =>
        cases h
        obtain ⟨hg, ht, hu⟩ := MemoryPlanRepository.get_eq_some.1 hplan
        exact .some hp he hg ht hu

structure Prepared (command : DelegatedRunEventCommand) (s : MemoryStores)
    (p : PreparedTerminal) : Prop where
  fresh : Fresh command s p.run
  turn : TurnOwned command s p.turn
  plan : PlanFound command s p.plan

theorem decideFail_inr {command : DelegatedRunFailCommand}
    (h : decideFail s command gen = .ok (.inr p)) :
    Prepared command s p ∧ p.turn.status.isTerminal = false ∧
    (let failedAt := concludedAt command p.turn
    p.updatedRun = failedRun command failedAt p.run ∧
    p.updatedTurn = failedTurn command failedAt p.turn ∧
    p.plan.mapM (fun plan => failedPlan plan command failedAt) = .ok p.updatedPlan ∧
    (terminalEvent p.run command p.run.runId .agentError .failed
      [("error", .obj command.error)] failedAt).validate = .ok p.event ∧
    p.outbox = turnOutbox gen.hex "turn.failed" p.turn.turnId
      [("turn_id", .str p.turn.turnId), ("run_id", .str p.run.runId),
        ("state_version", .num (failedTurn command failedAt p.turn).stateVersion)] failedAt) := by
  unfold decideFail at h
  dsimp only at h
  split at h
  · obtain ⟨u, -, h⟩ := bind_eq_ok.1 h
    split at h <;> cases h
  · next hev =>
    obtain ⟨run, hrun, h⟩ := bind_eq_ok.1 h
    obtain ⟨turn, hturn, h⟩ := bind_eq_ok.1 h
    obtain ⟨plan, hplan, h⟩ := bind_eq_ok.1 h
    obtain ⟨plan', hplan', h⟩ := bind_eq_ok.1 h
    obtain ⟨event, hevent, h⟩ := bind_eq_ok.1 h
    cases h
    obtain ⟨hget, hacc, -⟩ := validateRun_ok.1 hrun
    obtain ⟨ht, -, -, hopen⟩ := validateTurn_ok.1 hturn
    obtain ⟨hg, hten, huser⟩ := getTurn_eq_some.1 ht
    exact ⟨⟨⟨hev, hget, hacc⟩, ⟨hg, hten, huser⟩, findPlan_ok hplan⟩, hopen, rfl, rfl, hplan', hevent,
      rfl⟩

theorem decideCancel_inr {command : DelegatedRunCancelCommand}
    (h : decideCancel s command gen = .ok (.inr p)) :
    Prepared command s p ∧ p.turn.status.isTerminal = false ∧
    (let cancelledAt := concludedAt command p.turn
    p.updatedRun = concludeRun .cancelled command cancelledAt p.run ∧
    p.updatedTurn = concludeTurn .cancelled cancelledAt p.turn ∧
    p.plan.mapM (fun plan => cancelledPlan plan command cancelledAt) = .ok p.updatedPlan ∧
    (terminalEvent p.run command p.run.runId .agentCancelled .cancelled
      [("reason", .str command.reason)] cancelledAt).validate = .ok p.event ∧
    p.outbox = turnOutbox gen.hex "turn.cancelled" command.turnId
      [("turn_id", .str command.turnId), ("run_id", .str command.runId),
        ("reason", .str command.reason)] cancelledAt) := by
  unfold decideCancel at h
  dsimp only at h
  split at h
  · obtain ⟨u, -, h⟩ := bind_eq_ok.1 h
    obtain ⟨rt, -, h⟩ := bind_eq_ok.1 h
    cases h
  · next hev =>
    obtain ⟨run, hrun, h⟩ := bind_eq_ok.1 h
    obtain ⟨turn, hturn, h⟩ := bind_eq_ok.1 h
    obtain ⟨plan, hplan, h⟩ := bind_eq_ok.1 h
    obtain ⟨plan', hplan', h⟩ := bind_eq_ok.1 h
    obtain ⟨event, hevent, h⟩ := bind_eq_ok.1 h
    cases h
    obtain ⟨hget, hacc, -⟩ := validateRun_ok.1 hrun
    obtain ⟨ht, -, -, hopen⟩ := validateTurn_ok.1 hturn
    obtain ⟨hg, hten, huser⟩ := getTurn_eq_some.1 ht
    exact ⟨⟨⟨hev, hget, hacc⟩, ⟨hg, hten, huser⟩, findPlan_ok hplan⟩, hopen, rfl, rfl, hplan', hevent,
      rfl⟩

def DeadlinePassed (command : DelegatedRunTimeoutCommand) (run : AgentRun) : Prop :=
  ∃ deadline, run.deadlineAt = some deadline ∧ deadline ≤ command.occurredAt

theorem validateTimeoutRun_ok {o : Option AgentRun} :
    validateTimeoutRun o command = .ok run ↔
      o = some run ∧ Accepts run command ∧
        DeadlinePassed command run := by
  rw [validateTimeoutRun, validateRun_ok]
  cases hd : run.deadlineAt with
  | none => simp [DeadlinePassed, hd]
  | some deadline => simp [DeadlinePassed, hd]

theorem decideTimeout_inr (h : decideTimeout s command gen = .ok (.inr p)) :
    Prepared command s p ∧ DeadlinePassed command p.run ∧
    (let timedOutAt := concludedAt command p.turn
    p.updatedRun = concludeRun .timedOut command timedOutAt p.run ∧
    p.updatedTurn = concludeTurn .timedOut timedOutAt p.turn ∧
    p.plan.mapM (fun plan => timedOutPlan plan command timedOutAt) = .ok p.updatedPlan ∧
    (terminalEvent p.run command command.runId .agentError .timedOut
      [("reason", .str command.reason)] timedOutAt).validate = .ok p.event ∧
    p.outbox = turnOutbox gen.hex "turn.timed_out" command.turnId
      [("turn_id", .str command.turnId), ("run_id", .str command.runId)] timedOutAt) := by
  unfold decideTimeout at h
  split at h
  · obtain ⟨run, -, h⟩ := bind_eq_ok.1 h
    cases h
  · next hev =>
    obtain ⟨run, hrun, h⟩ := bind_eq_ok.1 h
    split at h
    · cases h
    · next turn ht =>
      obtain ⟨plan, hplan, h⟩ := bind_eq_ok.1 h
      obtain ⟨plan', hplan', h⟩ := bind_eq_ok.1 h
      obtain ⟨event, hevent, h⟩ := bind_eq_ok.1 h
      cases h
      obtain ⟨hget, hacc, hdue⟩ := validateTimeoutRun_ok.1 hrun
      obtain ⟨hg, hten, huser⟩ := getTurn_eq_some.1 ht
      exact ⟨⟨⟨hev, hget, hacc⟩, ⟨hg, hten, huser⟩, findPlan_ok hplan⟩, hdue, rfl, rfl, hplan',
        hevent, rfl⟩

theorem decideComplete_inr {command : DelegatedRunCompleteCommand} {p : PreparedCompletion}
    (h : decideComplete s command gen = .ok (.inr p)) :
    Fresh command s p.run ∧
    TurnOwned command s p.turn ∧
    ∃ plan, completePlan s command = plan ∧
      BundleOf command p.run p.turn plan gen.hex p.bundle := by
  unfold decideComplete at h
  split at h
  · obtain ⟨u, -, h⟩ := bind_eq_ok.1 h
    dsimp only at h
    split at h
    · cases h
    · obtain ⟨u, -, h⟩ := bind_eq_ok.1 h
      cases h
  · next hev =>
    obtain ⟨run, hrun, h⟩ := bind_eq_ok.1 h
    split at h
    · cases h
    · next turn ht =>
      obtain ⟨bundle, hb, h⟩ := bind_eq_ok.1 h
      cases h
      obtain ⟨hget, hacc, -⟩ := validateRun_ok.1 hrun
      obtain ⟨hg, hten, huser⟩ := getTurn_eq_some.1 ht
      exact ⟨⟨hev, hget, hacc⟩, ⟨hg, hten, huser⟩, _, rfl, bundleOf hb⟩

/-- The writes of `complete` all succeeded. -/
structure CompletionApplied (stamp : Instant) (p : PreparedCompletion) (s s' : MemoryStores) :
    Prop where
  run : ∃ stored, p.bundle.run.validate = .ok stored ∧ s'.runs = s.runs.put stored
  results : s'.results = s.results ++ [p.bundle.result]
  plans : s'.plans = s.plans.storeOption p.bundle.plan
  open_ : ∃ existing, s.turns.get? p.bundle.turn.turnId = some existing ∧
    existing.status.isTerminal = false
  turns : s'.turns = s.turns.put p.bundle.turn
  events : s'.agentEvents = addAgentEvent s.agentEvents stamp p.bundle.event
  outbox : s.outbox.addIdempotent p.bundle.outbox = .ok s'.outbox
  keys : s'.delegationKeys = s.delegationKeys

theorem completionWrites_applied {p : PreparedCompletion}
    (h : Applied (completionWrites stamp p) s s') : CompletionApplied stamp p s s' := by
  obtain ⟨s1, h1, h⟩ := applied_cons.1 h
  obtain ⟨s2, h2, h⟩ := applied_cons.1 h
  obtain ⟨s3, h3, h⟩ := applied_cons.1 h
  obtain ⟨s4, h4, h⟩ := applied_cons.1 h
  obtain ⟨s5, h5, h⟩ := applied_cons.1 h
  obtain ⟨s6, h6, h⟩ := applied_cons.1 h
  obtain rfl := applied_nil.1 h
  obtain ⟨stored, hv, rfl⟩ := writeRun_ok h1
  cases h2
  obtain rfl := writePlan_ok h3
  obtain ⟨ht, rfl⟩ := writeTurn_ok h4
  cases h5
  obtain ⟨outbox, ho, rfl⟩ := writeOutbox_ok h6
  exact ⟨⟨stored, hv, rfl⟩, rfl, rfl, ht, rfl, rfl, ho, rfl⟩

inductive Clarified (command : DelegatedRunProgressCommand) (s : MemoryStores) :
    Option (Plan × Plan) → Prop where
  | none : command.eventType ≠ .agentClarify → Clarified command s none
  | some {planId stepId : String} {plan : Plan} :
      command.eventType = .agentClarify → command.planId = some planId → planId ≠ "" →
      command.stepId = some stepId → stepId ≠ "" → s.plans.plans.get? planId = some plan →
      plan.tenantId = command.tenantId → plan.userId = command.userId →
      plan.status.isActive = true → plan.steps.any (isStep stepId command.agentId) = true →
      (∀ step ∈ plan.steps, isStep stepId command.agentId step = true →
        step.status.isActive = true) →
      Clarified command s (some (plan, clarifiedPlan command stepId plan))

theorem memoryClarificationTransition_ok {command : DelegatedRunProgressCommand}
    {plans : Option (Plan × Plan)} (h : memoryClarificationTransition s.plans command = .ok plans) :
    Clarified command s plans := by
  unfold memoryClarificationTransition at h
  split at h
  · next ht => cases h; exact .none ht
  · next ht =>
    split at h
    · next planId stepId hp hs =>
      split at h
      · cases h
      · next he =>
        simp only [Bool.or_eq_true, decide_eq_true_eq, not_or] at he
        split at h
        · cases h
        · next plan hplan =>
          split at h
          · next hc =>
            cases h
            simp only [Bool.and_eq_true, List.all_eq_true, Bool.or_eq_true, Bool.not_eq_true'] at hc
            obtain ⟨hg, hten, huser⟩ := MemoryPlanRepository.get_eq_some.1 hplan
            refine .some (by simpa using ht) hp he.1 hs he.2 hg hten huser hc.1.1 hc.1.2 ?_
            intro step hm hst
            exact (hc.2 step hm).resolve_left (by simp [hst])
          · cases h
    · cases h

/-- A fresh progress command: the run, its order and the plan of a clarification. -/
structure ProgressPrepared (command : DelegatedRunProgressCommand) (s : MemoryStores)
    (p : PreparedProgress) : Prop where
  fresh : Fresh command s p.run
  sequence : p.run.eventSequence < command.sequence
  plans : Clarified command s p.plans
  updated : p.updated = progressRun command p.run
  event : (progressEvent p.run command).validate = .ok p.event

theorem decideProgress_inr {command : DelegatedRunProgressCommand} {p : PreparedProgress}
    (h : decideProgress s command = .ok (.inr p)) : ProgressPrepared command s p := by
  obtain ⟨u, -, h⟩ := bind_eq_ok.1 h
  split at h
  · obtain ⟨u, -, h⟩ := bind_eq_ok.1 h
    cases h
  · next hev =>
    obtain ⟨run, hrun, h⟩ := bind_eq_ok.1 h
    obtain ⟨plans, hplans, h⟩ := bind_eq_ok.1 h
    obtain ⟨event, hevent, h⟩ := bind_eq_ok.1 h
    cases h
    obtain ⟨hget, hacc, hseq⟩ := validateRun_ok.1 hrun
    exact ⟨⟨hev, hget, hacc⟩, by simpa using hseq, memoryClarificationTransition_ok hplans, rfl,
      hevent⟩

/-- The writes of `progress` all succeeded. -/
structure ProgressApplied (stamp : Instant) (p : PreparedProgress) (s s' : MemoryStores) :
    Prop where
  run : ∃ stored, p.updated.validate = .ok stored ∧ s'.runs = s.runs.put stored
  plans : s'.plans = s.plans.storeOption (p.plans.map Prod.snd)
  events : s'.agentEvents = addAgentEvent s.agentEvents stamp p.event
  turns : s'.turns = s.turns
  results : s'.results = s.results
  outbox : s'.outbox = s.outbox
  keys : s'.delegationKeys = s.delegationKeys

theorem progressWrites_applied {p : PreparedProgress} (h : Applied (progressWrites stamp p) s s') :
    ProgressApplied stamp p s s' := by
  obtain ⟨s1, h1, h⟩ := applied_cons.1 h
  obtain ⟨s2, h2, h⟩ := applied_cons.1 h
  obtain ⟨s3, h3, h⟩ := applied_cons.1 h
  obtain rfl := applied_nil.1 h
  obtain ⟨stored, hv, rfl⟩ := writeRun_ok h1
  obtain rfl := writePlan_ok h2
  cases h3
  exact ⟨⟨stored, hv, rfl⟩, rfl, rfl, rfl, rfl, rfl, rfl⟩

/-! ## Accepted calls -/

theorem fail_ok {command : DelegatedRunFailCommand} (h : fail s command gen = (.ok r, s')) :
    (decideFail s command gen = .ok (.inl r) ∧ s' = s) ∨
      ∃ p, decideFail s command gen = .ok (.inr p) ∧ r = terminalReply p ∧
        TerminalApplied gen.stamp p s s' := by
  rcases perform_ok h with hd | ⟨p, hp, hr, ha⟩
  · exact .inl hd
  · exact .inr ⟨p, hp, hr, terminalWrites_applied ha⟩

theorem cancel_ok {command : DelegatedRunCancelCommand} (h : cancel s command gen = (.ok r, s')) :
    (decideCancel s command gen = .ok (.inl r) ∧ s' = s) ∨
      ∃ p, decideCancel s command gen = .ok (.inr p) ∧ r = terminalReply p ∧
        TerminalApplied gen.stamp p s s' := by
  rcases perform_ok h with hd | ⟨p, hp, hr, ha⟩
  · exact .inl hd
  · exact .inr ⟨p, hp, hr, terminalWrites_applied ha⟩

theorem timeout_ok (h : timeout s command gen = (.ok r, s')) :
    (decideTimeout s command gen = .ok (.inl r) ∧ s' = s) ∨
      ∃ p, decideTimeout s command gen = .ok (.inr p) ∧ r.duplicate = false ∧
        TerminalApplied gen.stamp p s s' := by
  rcases perform_ok h with hd | ⟨p, hp, hr, ha⟩
  · exact .inl hd
  · exact .inr ⟨p, hp, by rw [hr], terminalWrites_applied ha⟩

theorem complete_ok {command : DelegatedRunCompleteCommand}
    (h : complete s command gen = (.ok r, s')) :
    (decideComplete s command gen = .ok (.inl r) ∧ s' = s) ∨
      ∃ p, decideComplete s command gen = .ok (.inr p) ∧ r.duplicate = false ∧
        CompletionApplied gen.stamp p s s' := by
  rcases perform_ok h with hd | ⟨p, hp, hr, ha⟩
  · exact .inl hd
  · exact .inr ⟨p, hp, by rw [hr], completionWrites_applied ha⟩

theorem progress_ok {command : DelegatedRunProgressCommand}
    (h : progress s command gen = (.ok r, s')) :
    (decideProgress s command = .ok (.inl r) ∧ s' = s) ∨
      ∃ p, decideProgress s command = .ok (.inr p) ∧ r.duplicate = false ∧
        ProgressApplied gen.stamp p s s' := by
  rcases perform_ok h with hd | ⟨p, hp, hr, ha⟩
  · exact .inl hd
  · exact .inr ⟨p, hp, by rw [hr], progressWrites_applied ha⟩

inductive StepActive (command : DelegatedRunStartCommand) (s : MemoryStores) : Prop where
  | none : command.planId = none → command.stepId = none → StepActive command s
  | some {planId stepId : String} {plan : Plan} {step : PlanStep} :
      command.planId = some planId → planId ≠ "" → command.stepId = some stepId → stepId ≠ "" →
      s.plans.plans.get? planId = some plan → plan.tenantId = command.tenantId →
      plan.userId = command.userId → plan.status.isActive = true →
      plan.steps.find? (isStep stepId command.agentId) = some step → step.status.isActive = true →
      StepActive command s

theorem validateMemoryPlanStep_ok {command : DelegatedRunStartCommand} {u : Unit}
    (h : validateMemoryPlanStep s.plans command = .ok u) : StepActive command s := by
  unfold validateMemoryPlanStep at h
  split at h
  · next hp hs => exact .none hp hs
  · next planId stepId hp hs =>
    split at h
    · cases h
    · next he =>
      simp only [Bool.or_eq_true, decide_eq_true_eq, not_or] at he
      split at h
      · cases h
      · next plan hplan =>
        obtain ⟨hg, hten, huser⟩ := MemoryPlanRepository.get_eq_some.1 hplan
        split at h
        · cases h
        · next step hstep =>
          split at h
          · next ha =>
            rw [Bool.and_eq_true] at ha
            exact .some hp he.1 hs he.2 hg hten huser ha.1 hstep ha.2
          · cases h
  · cases h

structure Started (command : DelegatedRunStartCommand) (runId delegationKey : String)
    (gen : Generated) (s s' : MemoryStores) : Prop where
  unused : truthy (s.delegationKeys.get? delegationKey) = false
  step : StepActive command s
  started : ∃ turn run stored updated, s.turns.get? command.turnId = some turn ∧
    turn.tenantId = command.tenantId ∧ turn.userId = command.userId ∧
    turn.status.isTerminal = false ∧ newRun command runId delegationKey gen.now = .ok run ∧
    run.validate = .ok stored ∧ attachRun turn run gen.attachedAt = .ok updated ∧
    s' = { s with
      runs := s.runs.put stored
      turns := s.turns.put updated
      delegationKeys := s.delegationKeys.set delegationKey run.runId }

theorem start_ok {command : DelegatedRunStartCommand} {runId delegationKey : String}
    (h : start s command runId delegationKey gen = (.ok r, s')) :
    (truthy (s.delegationKeys.get? delegationKey) = true ∧ r.duplicate = true ∧ s' = s) ∨
      (r.duplicate = false ∧ Started command runId delegationKey gen s s') := by
  unfold start at h
  dsimp only at h
  split at h
  · next hkey =>
    cases h
    exact .inl ⟨hkey, rfl, rfl⟩
  · next hkey =>
    split at h
    · cases h
    · next turn run updated hprep =>
      obtain ⟨u, hstep, hprep⟩ := bind_eq_ok.1 hprep
      obtain ⟨turn', hturn, hprep⟩ := bind_eq_ok.1 hprep
      obtain ⟨run', hrun, hprep⟩ := bind_eq_ok.1 hprep
      obtain ⟨updated', hupdated, hprep⟩ := bind_eq_ok.1 hprep
      cases hprep
      obtain ⟨hget, hten, huser, -, -, hopen⟩ := validateStartTurn_ok.1 hturn
      split at h
      · cases h
      · next runs hadd =>
        obtain ⟨stored, hstored, hadd⟩ := bind_eq_ok.1 hadd
        cases hadd
        split at h
        · cases h
        · next s1 htx =>
          cases h
          obtain ⟨s2, hw, ha⟩ := applied_cons.1 (transact_ok.1 htx)
          obtain rfl := applied_nil.1 ha
          obtain ⟨-, rfl⟩ := writeTurn_ok hw
          exact .inr ⟨rfl, by simpa using hkey, validateMemoryPlanStep_ok hstep, turn, run, stored,
            updated, (getTurn_eq_some.1 hget).1, hten, huser, hopen, hrun, hstored, hupdated, rfl⟩

/-! ## Redelivered calls -/

def Redelivered (command : DelegatedRunEventCommand) (s : MemoryStores) (event : AgentEvent) :
    Prop :=
  getEvent s.agentEvents command.eventId command.tenantId command.userId = some event

theorem decideProgress_duplicate {c : DelegatedRunProgressCommand} :
    decideProgress s c = .ok (.inl r) ↔
      ∃ event, Redelivered c s event ∧
        validateProgressEventNamespace c = .ok () ∧ validateDuplicateEvent event c = .ok () ∧
        r = { run := s.runs.get? c.runId, turn := none, result := none, duplicate := true } := by
  constructor
  · intro h
    obtain ⟨u, hns, h⟩ := bind_eq_ok.1 h
    split at h
    · next event hev =>
      obtain ⟨u, hm, h⟩ := bind_eq_ok.1 h
      cases h
      exact ⟨event, hev, hns, hm, rfl⟩
    · obtain ⟨run, -, h⟩ := bind_eq_ok.1 h
      obtain ⟨plans, -, h⟩ := bind_eq_ok.1 h
      obtain ⟨event, -, h⟩ := bind_eq_ok.1 h
      cases h
  · rintro ⟨event, hev, hns, hm, rfl⟩
    have hev' : getEvent s.agentEvents c.eventId c.tenantId c.userId = some event := hev
    simp only [decideProgress, hns, hev', hm]
    rfl

theorem decideProgress_inl {command : DelegatedRunProgressCommand}
    (h : decideProgress s command = .ok (.inl r)) :
    r.duplicate = true ∧ ∃ event, Redelivered command s event := by
  obtain ⟨event, hev, -, -, rfl⟩ := decideProgress_duplicate.1 h
  exact ⟨rfl, event, hev⟩

theorem decideComplete_inl {command : DelegatedRunCompleteCommand}
    (h : decideComplete s command gen = .ok (.inl r)) :
    r.duplicate = true ∧ ∃ event, Redelivered command s event := by
  unfold decideComplete at h
  split at h
  · next event hev =>
    obtain ⟨u, -, h⟩ := bind_eq_ok.1 h
    dsimp only at h
    split at h
    · cases h
    · obtain ⟨u, -, h⟩ := bind_eq_ok.1 h
      cases h
      exact ⟨rfl, event, hev⟩
  · obtain ⟨run, -, h⟩ := bind_eq_ok.1 h
    split at h
    · cases h
    · obtain ⟨bundle, -, h⟩ := bind_eq_ok.1 h
      cases h

theorem decideFail_duplicate {c : DelegatedRunFailCommand} :
    decideFail s c gen = .ok (.inl r) ↔
      ∃ event turn, Redelivered c s event ∧
        validateFailureEventIdentity event c = .ok () ∧
        getTurn s.turns c.turnId c.tenantId c.userId = some turn ∧
        r = { run := s.runs.get? c.runId, turn := some turn, result := none, duplicate := true } := by
  constructor
  · intro h
    unfold decideFail at h
    dsimp only at h
    split at h
    · next event hev =>
      obtain ⟨u, hm, h⟩ := bind_eq_ok.1 h
      split at h
      · cases h
      · next turn ht =>
        cases h
        exact ⟨event, turn, hev, hm, ht, rfl⟩
    · obtain ⟨run, -, h⟩ := bind_eq_ok.1 h
      obtain ⟨turn, -, h⟩ := bind_eq_ok.1 h
      obtain ⟨plan, -, h⟩ := bind_eq_ok.1 h
      obtain ⟨plan', -, h⟩ := bind_eq_ok.1 h
      obtain ⟨event, -, h⟩ := bind_eq_ok.1 h
      cases h
  · rintro ⟨event, turn, hev, hm, ht, rfl⟩
    have hev' : getEvent s.agentEvents c.eventId c.tenantId c.userId = some event := hev
    simp only [decideFail, hev', hm, ht]
    rfl

theorem decideFail_inl {command : DelegatedRunFailCommand}
    (h : decideFail s command gen = .ok (.inl r)) :
    r.duplicate = true ∧ ∃ event, Redelivered command s event := by
  obtain ⟨event, turn, hev, -, -, rfl⟩ := decideFail_duplicate.1 h
  exact ⟨rfl, event, hev⟩

theorem decideCancel_duplicate {c : DelegatedRunCancelCommand} :
    decideCancel s c gen = .ok (.inl r) ↔
      ∃ event run turn, Redelivered c s event ∧
        validateCancelEvent event c = .ok () ∧
        validateCancelledState (s.runs.get? c.runId)
          (getTurn s.turns c.turnId c.tenantId c.userId) c = .ok (run, turn) ∧
        r = { run := some run, turn := some turn, result := none, duplicate := true } := by
  constructor
  · intro h
    unfold decideCancel at h
    dsimp only at h
    split at h
    · next event hev =>
      obtain ⟨u, hm, h⟩ := bind_eq_ok.1 h
      obtain ⟨⟨run, turn⟩, hst, h⟩ := bind_eq_ok.1 h
      cases h
      exact ⟨event, run, turn, hev, hm, hst, rfl⟩
    · obtain ⟨run, -, h⟩ := bind_eq_ok.1 h
      obtain ⟨turn, -, h⟩ := bind_eq_ok.1 h
      obtain ⟨plan, -, h⟩ := bind_eq_ok.1 h
      obtain ⟨plan', -, h⟩ := bind_eq_ok.1 h
      obtain ⟨event, -, h⟩ := bind_eq_ok.1 h
      cases h
  · rintro ⟨event, run, turn, hev, hm, hst, rfl⟩
    have hev' : getEvent s.agentEvents c.eventId c.tenantId c.userId = some event := hev
    simp only [decideCancel, hev', hm, hst]
    rfl

theorem decideCancel_inl {command : DelegatedRunCancelCommand}
    (h : decideCancel s command gen = .ok (.inl r)) :
    r.duplicate = true ∧ ∃ event, Redelivered command s event := by
  obtain ⟨event, run, turn, hev, -, -, rfl⟩ := decideCancel_duplicate.1 h
  exact ⟨rfl, event, hev⟩

theorem decideTimeout_inl (h : decideTimeout s command gen = .ok (.inl r)) :
    r.duplicate = true ∧ ∃ event, Redelivered command s event := by
  unfold decideTimeout at h
  split at h
  · next event hev =>
    obtain ⟨run, -, h⟩ := bind_eq_ok.1 h
    cases h
    exact ⟨rfl, event, hev⟩
  · obtain ⟨run, -, h⟩ := bind_eq_ok.1 h
    split at h
    · cases h
    · obtain ⟨plan, -, h⟩ := bind_eq_ok.1 h
      obtain ⟨plan', -, h⟩ := bind_eq_ok.1 h
      obtain ⟨event, -, h⟩ := bind_eq_ok.1 h
      cases h

/-! ## Runs and events after a call -/

/-- What every accepted command on an existing run does to runs and events. -/
structure Written (command : DelegatedRunEventCommand) (stamp : Instant) (s s' : MemoryStores)
    (run updated : AgentRun) (event : AgentEvent) : Prop where
  fresh : Fresh command s run
  runs : ∃ stored, updated.validate = .ok stored ∧ s'.runs = s.runs.put stored
  same : SameRun run updated
  delegated : updated.delegated = run.delegated
  version : updated.stateVersion = run.stateVersion + 1
  sequence : run.eventSequence < updated.eventSequence
  terminal : updated.status.isTerminal = true → updated.terminalEventId = some command.eventId
  events : s'.agentEvents = addAgentEvent s.agentEvents stamp event
  eventId : event.eventId = command.eventId
  eventRun : event.runId = some run.runId
  eventOwner : event.tenantId = some command.tenantId ∧ event.userId = some command.userId
  eventVersion : event.runStateVersion = some updated.stateVersion
  eventSequence : event.sequence = some updated.eventSequence
  outbox : s'.outbox = s.outbox ∨
    ∃ hex eventType turnId payload time, s.outbox.addIdempotent
      (turnOutbox hex eventType turnId payload time) = .ok s'.outbox

theorem TerminalApplied.written {command : DelegatedRunEventCommand} {stamp : Instant}
    {s s' : MemoryStores} {p : PreparedTerminal} (ha : TerminalApplied stamp p s s')
    (hp : Prepared command s p) {status : RunStatus} {time : Instant} {runId : String}
    {error : Option JsonDict} {eventType : AgentEventType} {payload : JsonDict}
    (hrun : p.updatedRun = { concludeRun status command time p.run with error })
    (hid : runId = p.run.runId)
    (hevent : (terminalEvent p.run command runId eventType status payload time).validate =
      .ok p.event)
    {hex outboxType turnId : String} {body : JsonDict}
    (houtbox : p.outbox = turnOutbox hex outboxType turnId body time) :
    Written command stamp s s' p.run p.updatedRun p.event where
  fresh := hp.fresh
  runs := ha.run
  same := by rw [hrun]; exact ⟨rfl, rfl, rfl, rfl, rfl, rfl, rfl, rfl⟩
  delegated := by rw [hrun]; rfl
  version := by rw [hrun]; rfl
  sequence := by rw [hrun]; exact Nat.lt_succ_self _
  terminal := by rw [hrun]; exact fun _ => rfl
  events := ha.events
  eventId := by rw [AgentEvent.validate_eq hevent]; rfl
  eventRun := by rw [AgentEvent.validate_eq hevent, hid]; rfl
  eventOwner := by
    rw [AgentEvent.validate_eq hevent]
    exact ⟨hp.fresh.accepts.tenant, hp.fresh.accepts.user⟩
  eventVersion := by rw [AgentEvent.validate_eq hevent, hrun]; rfl
  eventSequence := by rw [AgentEvent.validate_eq hevent, hrun]; rfl
  outbox := .inr ⟨hex, outboxType, turnId, body, time, houtbox ▸ ha.outbox⟩

theorem CompletionApplied.written {command : DelegatedRunCompleteCommand} {gen : Generated}
    {s s' : MemoryStores} {p : PreparedCompletion} (ha : CompletionApplied gen.stamp p s s')
    (hfresh : Fresh command s p.run) {plan : Option Plan}
    (hb : BundleOf command p.run p.turn plan gen.hex p.bundle) :
    Written command gen.stamp s s' p.run p.bundle.run
      p.bundle.event where
  fresh := hfresh
  runs := ha.run
  same := by rw [hb.run_eq]; exact ⟨rfl, rfl, rfl, rfl, rfl, rfl, rfl, rfl⟩
  delegated := by rw [hb.run_eq]; rfl
  version := by rw [hb.run_eq]; rfl
  sequence := by rw [hb.run_eq]; exact Nat.lt_succ_self _
  terminal := by rw [hb.run_eq]; exact fun _ => rfl
  events := ha.events
  eventId := by rw [hb.event_eq]; rfl
  eventRun := by rw [hb.event_eq]; rfl
  eventOwner := by rw [hb.event_eq]; exact ⟨hfresh.accepts.tenant, hfresh.accepts.user⟩
  eventVersion := by rw [hb.event_eq, hb.run_eq]; rfl
  eventSequence := by rw [hb.event_eq, hb.run_eq]; rfl
  outbox := .inr ⟨_, _, _, _, _, hb.outbox_eq ▸ ha.outbox⟩

theorem ProgressApplied.written {command : DelegatedRunProgressCommand} {stamp : Instant}
    {s s' : MemoryStores} {p : PreparedProgress} (ha : ProgressApplied stamp p s s')
    (hp : ProgressPrepared command s p) :
    Written command stamp s s' p.run p.updated p.event where
  fresh := hp.fresh
  runs := ha.run
  same := by rw [hp.updated]; exact ⟨rfl, rfl, rfl, rfl, rfl, rfl, rfl, rfl⟩
  delegated := by rw [hp.updated]; rfl
  version := by rw [hp.updated]; rfl
  sequence := by rw [hp.updated]; exact hp.sequence
  terminal := by
    rw [hp.updated]
    intro ht
    have hs := command.eventStatus
    simp only [progressRun] at ht
    rw [hs] at ht
    split at ht <;> cases ht
  events := ha.events
  eventId := by rw [AgentEvent.validate_eq hp.event]; rfl
  eventRun := by rw [AgentEvent.validate_eq hp.event, hp.fresh.runId]; rfl
  eventOwner := by rw [AgentEvent.validate_eq hp.event]; exact ⟨rfl, rfl⟩
  eventVersion := by rw [AgentEvent.validate_eq hp.event, hp.updated]; rfl
  eventSequence := by rw [AgentEvent.validate_eq hp.event, hp.updated]; rfl
  outbox := .inl ha.outbox

/-- Every accepted call is a redelivery, a start, or a command on a run. -/
theorem exec_ok {command : Command} (h : exec s gen command = (.ok r, s')) :
    (r.duplicate = true ∧ s' = s) ∨
      (∃ start runHex key, command = .start start runHex key ∧
        Started start (startRunId runHex) key gen s s') ∨
      ∃ event run updated agentEvent, command.event? = some event ∧
        Written event gen.stamp s s' run updated agentEvent := by
  cases command with
  | start command runHex key =>
    rcases start_ok h with ⟨-, hd⟩ | ⟨-, hs⟩
    · exact .inl hd
    · exact .inr (.inl ⟨command, runHex, key, rfl, hs⟩)
  | progress command =>
    rcases progress_ok h with ⟨hd, rfl⟩ | ⟨p, hp, -, ha⟩
    · exact .inl ⟨(decideProgress_inl hd).1, rfl⟩
    · exact .inr (.inr ⟨_, _, _, _, rfl, ha.written (decideProgress_inr hp)⟩)
  | complete command =>
    rcases complete_ok h with ⟨hd, rfl⟩ | ⟨p, hp, -, ha⟩
    · exact .inl ⟨(decideComplete_inl hd).1, rfl⟩
    · obtain ⟨hfresh, -, plan, -, hb⟩ := decideComplete_inr hp
      exact .inr (.inr ⟨_, _, _, _, rfl, ha.written hfresh hb⟩)
  | fail command =>
    rcases fail_ok h with ⟨hd, rfl⟩ | ⟨p, hp, -, ha⟩
    · exact .inl ⟨(decideFail_inl hd).1, rfl⟩
    · obtain ⟨hprep, -, hrun, -, -, hevent, houtbox⟩ := decideFail_inr hp
      exact .inr (.inr ⟨_, _, _, _, rfl, ha.written hprep hrun rfl hevent houtbox⟩)
  | cancel command =>
    rcases cancel_ok h with ⟨hd, rfl⟩ | ⟨p, hp, -, ha⟩
    · exact .inl ⟨(decideCancel_inl hd).1, rfl⟩
    · obtain ⟨hprep, -, hrun, -, -, hevent, houtbox⟩ := decideCancel_inr hp
      exact .inr (.inr ⟨_, _, _, _, rfl, ha.written hprep hrun rfl hevent houtbox⟩)
  | timeout command =>
    rcases timeout_ok h with ⟨hd, rfl⟩ | ⟨p, hp, -, ha⟩
    · exact .inl ⟨(decideTimeout_inl hd).1, rfl⟩
    · obtain ⟨hprep, -, hrun, -, -, hevent, houtbox⟩ := decideTimeout_inr hp
      exact .inr (.inr ⟨_, _, _, _, rfl, ha.written hprep hrun hprep.fresh.runId.symm hevent houtbox⟩)

end OpenIntentRouter.DelegatedRuns.Memory
