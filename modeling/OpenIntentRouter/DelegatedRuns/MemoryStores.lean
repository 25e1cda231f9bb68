import OpenIntentRouter.DelegatedRuns.Transitions
import OpenIntentRouter.Repositories.Memory

/-!
# The in-memory delegated-run stores

A call first looks for a redelivered event and validates, all without a write;
then it tries its writes in order, each store with its own list of writes and
its own hand-written rollback (`Core.transact`). Calls are serialized by the
stores' locks and never suspend in between, so a call is one function of the
state.

* `perform_ok`, `perform_error`: what an accepted and a raising call did.
-/
namespace OpenIntentRouter.DelegatedRuns.Memory

open Core Schemas Repositories

/-! ## The writes -/

def writeRun (run : AgentRun) : Write MemoryStores StoreError := fun s => do
  let runs ← updateRun s.runs run
  return { s with runs }

def writeResult (result : AgentResult) : Write MemoryStores StoreError := fun s =>
  .ok { s with results := s.results ++ [result] }

/-- `if updated_plan is not None: await self.plan_repository.save(updated_plan)`. -/
def writePlan (plan : Option Plan) : Write MemoryStores StoreError := fun s =>
  match plan with
  | none => .ok s
  | some plan => do
    let plans ← s.plans.save plan
    return { s with plans }

/-- `update_if_version`, with the message raised when it returns `None`. -/
def writeTurn (turn : CanonicalTurn) (expectedVersion : Nat) (message : String) :
    Write MemoryStores StoreError := fun s => do
  match ← updateIfVersion s.turns turn expectedVersion with
  | none => conflict message
  | some turns => return { s with turns }

def writeEvent (stamp : Instant) (event : AgentEvent) : Write MemoryStores StoreError := fun s =>
  .ok { s with agentEvents := addAgentEvent s.agentEvents stamp event }

def writeOutbox (event : TurnOutboxEvent) : Write MemoryStores StoreError := fun s => do
  let outbox ← s.outbox.addIdempotent event
  return { s with outbox }

/-! ## The shape of a call -/

/-- A call: raise, reply to a redelivery, or write what the decision prepared. -/
def perform {π : Type} (s : MemoryStores) (decision : Except StoreError (Reply ⊕ π))
    (writes : π → List (Write MemoryStores StoreError))
    (rollback : π → MemoryStores → MemoryStores) (reply : π → Reply) :
    Except StoreError Reply × MemoryStores :=
  match decision with
  | .error e => (.error e, s)
  | .ok (.inl duplicate) => (.ok duplicate, s)
  | .ok (.inr p) =>
    match transact (writes p) (rollback p) s with
    | (.ok _, s') => (.ok (reply p), s')
    | (.error e, s') => (.error e, s')

theorem perform_ok {π : Type} {s s' : MemoryStores} {decision : Except StoreError (Reply ⊕ π)}
    {writes : π → List (Write MemoryStores StoreError)} {rollback : π → MemoryStores → MemoryStores}
    {reply : π → Reply} {r : Reply} (h : perform s decision writes rollback reply = (.ok r, s')) :
    (decision = .ok (.inl r) ∧ s' = s) ∨
      ∃ p, decision = .ok (.inr p) ∧ r = reply p ∧ Applied (writes p) s s' := by
  rcases decision with e | duplicate | p
  · cases h
  · cases h
    exact .inl ⟨rfl, rfl⟩
  · simp only [perform] at h
    split at h
    · next t ht =>
      cases h
      exact .inr ⟨p, rfl, rfl, transact_ok.1 ht⟩
    · cases h

theorem perform_error {π : Type} {s s' : MemoryStores} {decision : Except StoreError (Reply ⊕ π)}
    {writes : π → List (Write MemoryStores StoreError)}
    {rollback : π → MemoryStores → MemoryStores} {reply : π → Reply} {e : StoreError}
    (h : perform s decision writes rollback reply = (.error e, s')) :
    (decision = .error e ∧ s' = s) ∨
      ∃ p t, decision = .ok (.inr p) ∧ attempt (writes p) s = (some e, t) ∧ s' = rollback p t := by
  rcases decision with e' | duplicate | p
  · cases h
    exact .inl ⟨rfl, rfl⟩
  · cases h
  · simp only [perform] at h
    split at h
    · cases h
    · next e' t ht =>
      cases h
      obtain ⟨t, he, hr⟩ := transact_error.1 ht
      exact .inr ⟨p, t, rfl, he, hr⟩

theorem perform_raise {π : Type} {s t : MemoryStores} {decision : Except StoreError (Reply ⊕ π)}
    {writes : π → List (Write MemoryStores StoreError)}
    {rollback : π → MemoryStores → MemoryStores} {reply : π → Reply} {p : π} {e : StoreError}
    (hd : decision = .ok (.inr p)) (ha : attempt (writes p) s = (some e, t)) :
    perform s decision writes rollback reply = (.error e, rollback p t) := by
  simp only [perform, hd, transact, ha]

/-! ## Start -/

/-- mirrors app/repositories/delegated_runs.py:1236-1269 -/
def validateMemoryPlanStep (plans : MemoryPlanRepository) (command : DelegatedRunStartCommand) :
    Except StoreError Unit :=
  match command.planId, command.stepId with
  | none, none => .ok ()
  | some planId, some stepId =>
    if planId = "" || stepId = "" then conflict "Plan and Step must be supplied together"
    else
      match plans.get planId command.tenantId command.userId with
      | none => conflict "Plan Step ownership conflict"
      | some plan =>
        match plan.steps.find? (isStep stepId command.agentId) with
        | none => conflict "Plan Step ownership conflict"
        | some step =>
          if plan.status.isActive && step.status.isActive then .ok ()
          else conflict "Plan Step ownership conflict"
  | _, _ => conflict "Plan and Step must be supplied together"

def prepareStart (s : MemoryStores) (command : DelegatedRunStartCommand)
    (runId delegationKey : String) (gen : Generated) :
    Except StoreError (CanonicalTurn × AgentRun × CanonicalTurn) := do
  validateMemoryPlanStep s.plans command
  let turn ← validateStartTurn (getTurn s.turns command.turnId command.tenantId command.userId)
    command
  let run ← newRun command runId delegationKey gen.now
  let updatedTurn ← attachRun turn run gen.attachedAt
  return (turn, run, updatedTurn)

/-- mirrors app/repositories/delegated_runs.py:143-183 -/
def start (s : MemoryStores) (command : DelegatedRunStartCommand) (runId delegationKey : String)
    (gen : Generated) : Except StoreError Reply × MemoryStores :=
  let existingId := s.delegationKeys.get? delegationKey
  if truthy existingId then
    (.ok { run := existingId.bind s.runs.get?
           turn := getTurn s.turns command.turnId command.tenantId command.userId
           result := none
           duplicate := true }, s)
  else
    match prepareStart s command runId delegationKey gen with
    | .error e => (.error e, s)
    | .ok (turn, run, updatedTurn) =>
      match addRun s.runs run with
      | .error e => (.error e, s)
      | .ok runs =>
        match transact [writeTurn updatedTurn turn.stateVersion "Turn changed concurrently"]
            (fun t => { t with
              runs := t.runs.erase run.runId
              turns := t.turns.put turn }) { s with runs } with
        | (.error e, s') => (.error e, s')
        | (.ok _, s') =>
          (.ok { run := some run, turn := some updatedTurn, result := none, duplicate := false },
            { s' with delegationKeys := s'.delegationKeys.set delegationKey run.runId })

/-! ## Progress -/

/-- `updated` of a clarification. -/
def clarifiedPlan (command : DelegatedRunProgressCommand) (stepId : String) (plan : Plan) : Plan :=
  { plan with
    status := .blocked
    currentStepId := some stepId
    steps := markStep .blocked stepId command.agentId plan.steps
    stateVersion := plan.stateVersion + 1
    lastEventId := some command.eventId
    updatedAt := command.occurredAt
    formationEventType := "update" }

/-- The plan before and after a clarification.
mirrors app/repositories/delegated_runs.py:1389-1429 -/
def memoryClarificationTransition (plans : MemoryPlanRepository)
    (command : DelegatedRunProgressCommand) : Except StoreError (Option (Plan × Plan)) :=
  if command.eventType ≠ .agentClarify then .ok none
  else
    match command.planId, command.stepId with
    | some planId, some stepId =>
      if planId = "" || stepId = "" then conflict "Clarification requires Plan and Step"
      else
        match plans.get planId command.tenantId command.userId with
        | none => conflict "Clarification Plan Step association conflict"
        | some plan =>
          if plan.status.isActive && plan.steps.any (isStep stepId command.agentId) &&
              plan.steps.all fun step => !isStep stepId command.agentId step || step.status.isActive
          then
            .ok (some (plan, clarifiedPlan command stepId plan))
          else conflict "Clarification Plan Step association conflict"
    | _, _ => conflict "Clarification requires Plan and Step"

structure PreparedProgress where
  run : AgentRun
  plans : Option (Plan × Plan)
  updated : AgentRun
  event : AgentEvent

def progressWrites (stamp : Instant) (p : PreparedProgress) :
    List (Write MemoryStores StoreError) :=
  [writeRun p.updated, writePlan (p.plans.map Prod.snd), writeEvent stamp p.event]

def decideProgress (s : MemoryStores) (command : DelegatedRunProgressCommand) :
    Except StoreError (Reply ⊕ PreparedProgress) := do
  validateProgressEventNamespace command
  match getEvent s.agentEvents command.eventId command.tenantId command.userId with
  | some existing =>
    validateDuplicateEvent existing command
    return .inl { run := s.runs.get? command.runId, turn := none, result := none, duplicate := true }
  | none =>
    let run ← validateProgressRun (s.runs.get? command.runId) command
    let plans ← memoryClarificationTransition s.plans command
    let event ← (progressEvent run command).validate
    return .inr { run, plans, updated := progressRun command run, event }

def progressRollback (s : MemoryStores) (p : PreparedProgress) (t : MemoryStores) : MemoryStores :=
  { t with
    runs := t.runs.put p.run
    plans := match p.plans with
      | some (oldPlan, _) => { t.plans with plans := t.plans.plans.put oldPlan }
      | none => t.plans
    agentEvents := s.agentEvents }

/-- mirrors app/repositories/delegated_runs.py:230-292 -/
def progress (s : MemoryStores) (command : DelegatedRunProgressCommand) (gen : Generated) :
    Except StoreError Reply × MemoryStores :=
  perform s (decideProgress s command) (progressWrites gen.stamp) (progressRollback s)
    (fun p => { run := some p.updated, turn := none, result := none, duplicate := false })

/-! ## Complete -/

structure PreparedCompletion where
  run : AgentRun
  turn : CanonicalTurn
  bundle : TurnCompletionBundle

def completionWrites (stamp : Instant) (p : PreparedCompletion) :
    List (Write MemoryStores StoreError) :=
  [writeRun p.bundle.run, writeResult p.bundle.result, writePlan p.bundle.plan,
    writeTurn p.bundle.turn p.turn.stateVersion "Turn changed concurrently",
    writeEvent stamp p.bundle.event, writeOutbox p.bundle.outbox]

/-- The plan a completion finds. One that is not found is completed without,
where `fail`, `cancel` and `timeout` raise. -/
def completePlan (s : MemoryStores) (command : DelegatedRunCompleteCommand) : Option Plan :=
  (command.planId.filter (· ≠ "")).bind fun planId =>
    s.plans.get planId command.tenantId command.userId

def decideComplete (s : MemoryStores) (command : DelegatedRunCompleteCommand) (gen : Generated) :
    Except StoreError (Reply ⊕ PreparedCompletion) := do
  match getEvent s.agentEvents command.eventId command.tenantId command.userId with
  | some existing =>
    validateCompletionEventIdentity existing command
    let resultId := Json.field existing.payload "result_id"
    match s.results.find? fun item => some (.str item.resultId) = resultId with
    | none => .error .stopIteration
    | some result =>
      validateCompletionResultIdentity result command
      return .inl
        { run := s.runs.get? command.runId
          turn := getTurn s.turns command.turnId command.tenantId command.userId
          result := some result
          duplicate := true }
  | none =>
    let run ← validateFinalRun (s.runs.get? command.runId) command
    match getTurn s.turns command.turnId command.tenantId command.userId with
    | none => conflict "Canonical Turn not found"
    | some turn =>
      let bundle ← completionBundle command run turn (completePlan s command) gen.hex
      return .inr { run, turn, bundle }

def completionRollback (s : MemoryStores) (p : PreparedCompletion) (t : MemoryStores) :
    MemoryStores :=
  { t with
    runs := t.runs.put p.run
    turns := t.turns.put p.turn
    results := s.results
    agentEvents := s.agentEvents
    outbox := { t.outbox with events := s.outbox.events } }

/-- mirrors app/repositories/delegated_runs.py:482-549 -/
def complete (s : MemoryStores) (command : DelegatedRunCompleteCommand) (gen : Generated) :
    Except StoreError Reply × MemoryStores :=
  perform s (decideComplete s command gen) (completionWrites gen.stamp) (completionRollback s)
    (fun p =>
      { run := some p.bundle.run, turn := some p.bundle.turn, result := some p.bundle.result
        duplicate := false })

/-! ## Fail, cancel, time out -/

/-- What `fail`, `cancel` and `timeout` read and what they are about to write. -/
structure PreparedTerminal where
  run : AgentRun
  turn : CanonicalTurn
  plan : Option Plan
  updatedRun : AgentRun
  updatedTurn : CanonicalTurn
  updatedPlan : Option Plan
  event : AgentEvent
  outbox : TurnOutboxEvent

/-- `get` the plan a command names; `message` is raised when there is none. -/
def findPlan (s : MemoryStores) (command : DelegatedRunEventCommand) (message : String) :
    Except StoreError (Option Plan) :=
  match command.planId with
  | none => .ok none
  | some planId =>
    if planId = "" then .ok none
    else
      match s.plans.get planId command.tenantId command.userId with
      | none => conflict message
      | some plan => .ok (some plan)

def terminalWrites (message : String) (stamp : Instant) (p : PreparedTerminal) :
    List (Write MemoryStores StoreError) :=
  [writeRun p.updatedRun, writePlan p.updatedPlan,
    writeTurn p.updatedTurn p.turn.stateVersion message, writeEvent stamp p.event,
    writeOutbox p.outbox]

/-- The rollback of the three stores; `fail` does not restore the idempotency keys,
none restores an execution claim. -/
def terminalRollback (keys : Bool) (s : MemoryStores) (p : PreparedTerminal) (t : MemoryStores) :
    MemoryStores :=
  { t with
    runs := t.runs.put p.run
    turns := t.turns.put p.turn
    plans := match p.plan with
      | some oldPlan => { t.plans with plans := t.plans.plans.put oldPlan }
      | none => t.plans
    agentEvents := s.agentEvents
    outbox :=
      { events := s.outbox.events
        idempotencyKeys := if keys then s.outbox.idempotencyKeys else t.outbox.idempotencyKeys } }

def terminalReply (p : PreparedTerminal) : Reply :=
  { run := some p.updatedRun, turn := some p.updatedTurn, result := none, duplicate := false }

def decideFail (s : MemoryStores) (command : DelegatedRunFailCommand) (gen : Generated) :
    Except StoreError (Reply ⊕ PreparedTerminal) := do
  let stored := getTurn s.turns command.turnId command.tenantId command.userId
  match getEvent s.agentEvents command.eventId command.tenantId command.userId with
  | some existing =>
    validateFailureEventIdentity existing command
    match stored with
    | none => conflict "Failure Event has incomplete canonical state"
    | some turn =>
      return .inl
        { run := s.runs.get? command.runId, turn := some turn, result := none, duplicate := true }
  | none =>
    let run ← validateFailureRun (s.runs.get? command.runId) command
    let turn ← validateFailureTurn stored command
    let plan ← findPlan s command "Plan not found"
    let failedAt := concludedAt command turn
    let updatedRun := failedRun command failedAt run
    let updatedTurn := failedTurn command failedAt turn
    let updatedPlan ← plan.mapM fun plan => failedPlan plan command failedAt
    let event ← (terminalEvent run command run.runId .agentError .failed
      [("error", .obj command.error)] failedAt).validate
    let outbox := turnOutbox gen.hex "turn.failed" turn.turnId
      [("turn_id", .str turn.turnId), ("run_id", .str run.runId),
        ("state_version", .num updatedTurn.stateVersion)] failedAt
    return .inr { run, turn, plan, updatedRun, updatedTurn, updatedPlan, event, outbox }

/-- mirrors app/repositories/delegated_runs.py:569-693 -/
def fail (s : MemoryStores) (command : DelegatedRunFailCommand) (gen : Generated) :
    Except StoreError Reply × MemoryStores :=
  perform s (decideFail s command gen) (terminalWrites "Turn changed concurrently" gen.stamp)
    (terminalRollback false s) terminalReply

def decideCancel (s : MemoryStores) (command : DelegatedRunCancelCommand) (gen : Generated) :
    Except StoreError (Reply ⊕ PreparedTerminal) := do
  let stored := getTurn s.turns command.turnId command.tenantId command.userId
  match getEvent s.agentEvents command.eventId command.tenantId command.userId with
  | some existing =>
    validateCancelEvent existing command
    let (run, turn) ← validateCancelledState (s.runs.get? command.runId) stored command
    return .inl { run := some run, turn := some turn, result := none, duplicate := true }
  | none =>
    let run ← validateCancelRun (s.runs.get? command.runId) command
    let turn ← validateCancelTurn stored command
    let plan ← findPlan s command "Cancel Plan not found"
    let cancelledAt := concludedAt command turn
    let updatedRun := concludeRun .cancelled command cancelledAt run
    let updatedTurn := concludeTurn .cancelled cancelledAt turn
    let updatedPlan ← plan.mapM fun plan => cancelledPlan plan command cancelledAt
    let event ← (terminalEvent run command run.runId .agentCancelled
      .cancelled [("reason", .str command.reason)] cancelledAt).validate
    let outbox := turnOutbox gen.hex "turn.cancelled" command.turnId
      [("turn_id", .str command.turnId), ("run_id", .str command.runId),
        ("reason", .str command.reason)] cancelledAt
    return .inr { run, turn, plan, updatedRun, updatedTurn, updatedPlan, event, outbox }

/-- mirrors app/repositories/delegated_runs.py:790-915 -/
def cancel (s : MemoryStores) (command : DelegatedRunCancelCommand) (gen : Generated) :
    Except StoreError Reply × MemoryStores :=
  perform s (decideCancel s command gen)
    (terminalWrites "Cancel Turn changed concurrently" gen.stamp) (terminalRollback true s)
    terminalReply

def decideTimeout (s : MemoryStores) (command : DelegatedRunTimeoutCommand) (gen : Generated) :
    Except StoreError (Reply ⊕ PreparedTerminal) := do
  match getEvent s.agentEvents command.eventId command.tenantId command.userId with
  | some existing =>
    let run ← validateMaintenanceEvent existing command (s.runs.get? command.runId)
    return .inl { run := some run, turn := none, result := none, duplicate := true }
  | none =>
    let run ← validateTimeoutRun (s.runs.get? command.runId) command
    match getTurn s.turns command.turnId command.tenantId command.userId with
    | none => conflict "Timeout Turn ownership conflict"
    | some turn =>
      let plan ← findPlan s command "Timeout Plan not found"
      let timedOutAt := concludedAt command turn
      let updatedRun := concludeRun .timedOut command timedOutAt run
      let updatedTurn := concludeTurn .timedOut timedOutAt turn
      let updatedPlan ← plan.mapM fun plan => timedOutPlan plan command timedOutAt
      let event ← (terminalEvent run command command.runId .agentError
        .timedOut [("reason", .str command.reason)] timedOutAt).validate
      let outbox := turnOutbox gen.hex "turn.timed_out" command.turnId
        [("turn_id", .str command.turnId), ("run_id", .str command.runId)] timedOutAt
      return .inr { run, turn, plan, updatedRun, updatedTurn, updatedPlan, event, outbox }

/-- mirrors app/repositories/delegated_runs.py:1076-1186 -/
def timeout (s : MemoryStores) (command : DelegatedRunTimeoutCommand) (gen : Generated) :
    Except StoreError Reply × MemoryStores :=
  perform s (decideTimeout s command gen)
    (terminalWrites "Timeout Turn changed concurrently" gen.stamp) (terminalRollback true s)
    (fun p => { run := some p.updatedRun, turn := none, result := none, duplicate := false })

def exec (s : MemoryStores) (gen : Generated) : Command → Except StoreError Reply × MemoryStores
  | .start command runHex delegationKey => start s command (startRunId runHex) delegationKey gen
  | .progress command => progress s command gen
  | .complete command => complete s command gen
  | .fail command => fail s command gen
  | .cancel command => cancel s command gen
  | .timeout command => timeout s command gen

def execAll (s : MemoryStores) (calls : List (Generated × Command)) : MemoryStores :=
  calls.foldl (fun s call => (exec s call.1 call.2).2) s

def sampleStores : MemoryStores :=
  { runs := .empty
    turns := Table.empty.put sampleTurn
    plans :=
      { plans := Table.empty.put samplePlan, executionClaims := .empty, executionAttempts := .empty }
    results := []
    agentEvents := .empty
    outbox := { events := .empty, idempotencyKeys := .empty }
    delegationKeys := .empty }

end OpenIntentRouter.DelegatedRuns.Memory
