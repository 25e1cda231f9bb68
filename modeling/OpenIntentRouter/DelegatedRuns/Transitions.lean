import OpenIntentRouter.Schemas.DelegatedRuns
import OpenIntentRouter.Schemas.Plans
import OpenIntentRouter.Schemas.Runs
import OpenIntentRouter.Schemas.Turns

/-!
# What both delegated-run stores share

The module-level functions of `app/repositories/delegated_runs.py`: the checks
of run, turn, plan step and redelivered event, and the records a command
writes. The five run checks are one test with their own messages and extra
conditions; so are the three terminal plan updates and the four terminal
events.

* `validateRun_ok`: what an accepted run is;
* `concludePlan_ok`, `completePlanStep_ok`: what an accepted plan update is.
-/
namespace OpenIntentRouter.DelegatedRuns

open Core Core.Except Schemas

/-- `raise DelegatedRunStartConflict(message)`. -/
def conflict {α : Type} (message : String) : Except StoreError α :=
  .error (.delegatedRunStartConflict message)

/-- What a call generates or reads from the clock: `uuid4().hex` of the outbox
entry, the two `datetime.now` of a start, and the time an in-memory event is
stored. -/
structure Generated where
  hex : String
  now : Instant
  attachedAt : Instant
  stamp : Instant
  deriving DecidableEq

structure Reply where
  run : Option AgentRun
  turn : Option CanonicalTurn
  result : Option AgentResult
  duplicate : Bool
  deriving DecidableEq

theorem ok_of_isOk {σ : Type} {x : Except StoreError Reply × σ} (h : x.1.isOk = true) :
    ∃ r, x = (.ok r, x.2) := by
  rcases x with ⟨e | r, s⟩
  · cases h
  · exact ⟨r, rfl⟩

/-! ## Starting a run -/

/-- mirrors app/repositories/delegated_runs.py:1189-1204 -/
def validateStartTurn (turn : Option CanonicalTurn) (command : DelegatedRunStartCommand) :
    Except StoreError CanonicalTurn :=
  match turn with
  | none => conflict "Canonical Turn not found"
  | some turn =>
    if turn.tenantId ≠ command.tenantId || turn.userId ≠ command.userId ||
        turn.sessionId ≠ command.sessionId || turn.requestId ≠ command.requestId ||
        turn.status.isTerminal then
      conflict "Canonical Turn ownership or state conflict"
    else .ok turn

variable {turn : CanonicalTurn} {o : Option CanonicalTurn} {command : DelegatedRunEventCommand}
  {run : AgentRun}

theorem validateStartTurn_ok {command : DelegatedRunStartCommand} :
    validateStartTurn o command = .ok turn ↔
      o = some turn ∧ turn.tenantId = command.tenantId ∧ turn.userId = command.userId ∧
        turn.sessionId = command.sessionId ∧ turn.requestId = command.requestId ∧
        turn.status.isTerminal = false := by
  cases o with
  | none => simp [validateStartTurn, conflict]
  | some t =>
    simp only [validateStartTurn, Option.some.injEq]
    split
    · next h =>
      simp only [conflict, reduceCtorEq, false_iff, not_and]
      rintro rfl ht hu hs hr
      simpa [ht, hu, hs, hr] using h
    · next h =>
      simp only [Except.ok.injEq]
      constructor
      · rintro rfl
        simpa [and_assoc] using h
      · exact fun h => h.1

/-- mirrors app/repositories/delegated_runs.py:1272-1293 -/
def newRun (command : DelegatedRunStartCommand) (runId delegationKey : String) (now : Instant) :
    Except StoreError AgentRun :=
  AgentRun.validate
    { runId
      requestId := some command.requestId
      sessionId := command.sessionId
      agentId := command.agentId
      userId := some command.userId
      tenantId := some command.tenantId
      turnId := some command.turnId
      planId := command.planId
      stepId := command.stepId
      status := .pending
      invokerType := "delegated"
      delegated := true
      delegationKey := some delegationKey
      stateVersion := 1
      eventSequence := 0
      deadlineAt := some command.deadlineAt
      heartbeatAt := none
      terminalEventId := none
      input := command.input
      output := none
      error := none
      formationSuppressed := false
      createdAt := some now
      updatedAt := some now }

/-- mirrors app/repositories/delegated_runs.py:1296-1310 -/
def attachRun (turn : CanonicalTurn) (run : AgentRun) (now : Instant) :
    Except StoreError CanonicalTurn :=
  let runIds := turn.references.runIds ++ [run.runId]
  let attached (planId : Option String) : CanonicalTurn :=
    { turn with
      status := .running
      stateVersion := turn.stateVersion + 1
      references := { turn.references with runIds, planId }
      updatedAt := now }
  if truthy run.planId then
    if truthy turn.references.planId && turn.references.planId ≠ run.planId then
      conflict "Turn Plan reference conflict"
    else .ok (attached run.planId)
  else .ok (attached turn.references.planId)

/-! ## The run of a command -/

/-- The test that all `_validate_*_run` share. -/
def runConflict (run : AgentRun) (command : DelegatedRunEventCommand) : Bool :=
  !run.delegated || run.status.isTerminal || run.turnId ≠ some command.turnId ||
  run.tenantId ≠ some command.tenantId || run.userId ≠ some command.userId ||
  run.agentId ≠ command.agentId || run.planId ≠ command.planId ||
  run.stepId ≠ command.stepId || run.stateVersion ≠ command.expectedStateVersion

/-- A run check with its message and the conditions it adds to `runConflict`. -/
def validateRun (message : String) (extra : AgentRun → Bool) (run : Option AgentRun)
    (command : DelegatedRunEventCommand) : Except StoreError AgentRun :=
  match run with
  | none => conflict "Delegated Run not found"
  | some run => if runConflict run command || extra run then conflict message else .ok run

/-- mirrors app/repositories/delegated_runs.py:1320-1340 -/
def validateProgressRun (run : Option AgentRun) (command : DelegatedRunProgressCommand) :
    Except StoreError AgentRun :=
  validateRun "Delegated Run progress identity/order conflict"
    (fun run => command.sequence ≤ run.eventSequence) run command

/-- mirrors app/repositories/delegated_runs.py:1498-1517 -/
def validateFinalRun (run : Option AgentRun) (command : DelegatedRunCompleteCommand) :
    Except StoreError AgentRun :=
  validateRun "Delegated Run final identity/state conflict" (fun _ => false) run
    command

/-- mirrors app/repositories/delegated_runs.py:1520-1539 -/
def validateFailureRun (run : Option AgentRun) (command : DelegatedRunFailCommand) :
    Except StoreError AgentRun :=
  validateRun "Delegated Run failure identity/state conflict" (fun _ => false) run
    command

/-- mirrors app/repositories/delegated_runs.py:1780-1799 -/
def validateCancelRun (run : Option AgentRun) (command : DelegatedRunCancelCommand) :
    Except StoreError AgentRun :=
  validateRun "Delegated Run cancel identity/state conflict" (fun _ => false) run
    command

/-- mirrors app/repositories/delegated_runs.py:1850-1871 -/
def validateTimeoutRun (run : Option AgentRun) (command : DelegatedRunTimeoutCommand) :
    Except StoreError AgentRun :=
  validateRun "Delegated Run timeout identity/deadline conflict"
    (fun run => match run.deadlineAt with
      | none => true
      | some deadline => command.occurredAt < deadline) run command

structure Accepts (run : AgentRun) (command : DelegatedRunEventCommand) : Prop where
  delegated : run.delegated = true
  active : run.status.isTerminal = false
  turn : run.turnId = some command.turnId
  tenant : run.tenantId = some command.tenantId
  user : run.userId = some command.userId
  agent : run.agentId = command.agentId
  plan : run.planId = command.planId
  step : run.stepId = command.stepId
  version : run.stateVersion = command.expectedStateVersion

theorem runConflict_iff (run : AgentRun) (command : DelegatedRunEventCommand) :
    runConflict run command = false ↔ Accepts run command := by
  simp only [runConflict, Bool.or_eq_false_iff, Bool.not_eq_false', decide_eq_false_iff_not,
    not_not, ne_eq]
  constructor
  · rintro ⟨⟨⟨⟨⟨⟨⟨⟨h1, h2⟩, h3⟩, h4⟩, h5⟩, h6⟩, h7⟩, h8⟩, h9⟩
    exact ⟨h1, h2, h3, h4, h5, h6, h7, h8, h9⟩
  · rintro ⟨h1, h2, h3, h4, h5, h6, h7, h8, h9⟩
    exact ⟨⟨⟨⟨⟨⟨⟨⟨h1, h2⟩, h3⟩, h4⟩, h5⟩, h6⟩, h7⟩, h8⟩, h9⟩

theorem validateRun_ok {message : String} {extra : AgentRun → Bool} {o : Option AgentRun} :
    validateRun message extra o command = .ok run ↔
      o = some run ∧ Accepts run command ∧ extra run = false := by
  cases o with
  | none => simp [validateRun, conflict]
  | some r =>
    simp only [validateRun, Option.some.injEq]
    split
    · next h =>
      simp only [conflict, reduceCtorEq, false_iff, not_and]
      rintro rfl ha
      rw [(runConflict_iff _ _).2 ha, Bool.false_or] at h
      simp [h]
    · next h =>
      simp only [Bool.not_eq_true, Bool.or_eq_false_iff] at h
      simp only [Except.ok.injEq]
      constructor
      · rintro rfl
        exact ⟨rfl, (runConflict_iff _ _).1 h.1, h.2⟩
      · exact fun h => h.1

/-! ## The turn of a command -/

/-- The turn check of `fail` and `cancel`, with its message. -/
def validateTurn (message : String) (turn : Option CanonicalTurn)
    (command : DelegatedRunEventCommand) : Except StoreError CanonicalTurn :=
  match turn with
  | none => conflict "Canonical Turn not found"
  | some turn =>
    if turn.tenantId ≠ command.tenantId || turn.userId ≠ command.userId ||
        turn.status.isTerminal then
      conflict message
    else .ok turn

/-- mirrors app/repositories/delegated_runs.py:1542-1555 -/
def validateFailureTurn (turn : Option CanonicalTurn) (command : DelegatedRunFailCommand) :
    Except StoreError CanonicalTurn :=
  validateTurn "Canonical Turn failure ownership/state conflict" turn
    command

/-- mirrors app/repositories/delegated_runs.py:1802-1815 -/
def validateCancelTurn (turn : Option CanonicalTurn) (command : DelegatedRunCancelCommand) :
    Except StoreError CanonicalTurn :=
  validateTurn "Canonical Turn cancel ownership/state conflict" turn
    command

theorem validateTurn_ok {message : String} :
    validateTurn message o command = .ok turn ↔
      o = some turn ∧ turn.tenantId = command.tenantId ∧ turn.userId = command.userId ∧
        turn.status.isTerminal = false := by
  cases o with
  | none => simp [validateTurn, conflict]
  | some t =>
    simp only [validateTurn, Option.some.injEq]
    split
    · next h =>
      simp only [conflict, reduceCtorEq, false_iff, not_and]
      rintro rfl ht hu
      simpa [ht, hu] using h
    · next h =>
      simp only [Except.ok.injEq]
      constructor
      · rintro rfl
        simpa [and_assoc] using h
      · exact fun h => h.1

/-! ## The records a terminal command writes -/

def concludeRun (status : RunStatus) (command : DelegatedRunEventCommand) (time : Instant)
    (run : AgentRun) : AgentRun :=
  { run with
    status
    stateVersion := run.stateVersion + 1
    eventSequence := run.eventSequence + 1
    terminalEventId := some command.eventId
    heartbeatAt := some time
    updatedAt := some time }

def concludeTurn (status : TurnStatus) (time : Instant) (turn : CanonicalTurn) : CanonicalTurn :=
  { turn with
    status
    stateVersion := turn.stateVersion + 1
    updatedAt := time
    completedAt := some time }

/-- The event of a terminal command, numbered after the run as it was read. -/
def terminalEvent (run : AgentRun) (command : DelegatedRunEventCommand) (runId : String)
    (eventType : AgentEventType) (status : RunStatus) (payload : JsonDict) (time : Instant) :
    AgentEvent :=
  { eventId := command.eventId
    runId := some runId
    requestId := run.requestId
    sessionId := run.sessionId
    agentId := run.agentId
    userId := run.userId
    tenantId := run.tenantId
    turnId := run.turnId
    eventType
    status := some status
    planId := run.planId
    stepId := run.stepId
    sequence := some (run.eventSequence + 1)
    runStateVersion := some (run.stateVersion + 1)
    payload
    createdAt := some time }

/-- The event of a progress command.
mirrors app/repositories/delegated_runs.py:1432-1455 (`_progress_event_values`)
and :254-271 -/
def progressEvent (run : AgentRun) (command : DelegatedRunProgressCommand) : AgentEvent :=
  { eventId := command.eventId
    runId := some command.runId
    requestId := run.requestId
    sessionId := run.sessionId
    agentId := command.agentId
    userId := some command.userId
    tenantId := some command.tenantId
    turnId := some command.turnId
    eventType := command.eventType
    status := some command.status
    planId := command.planId
    stepId := command.stepId
    sequence := some command.sequence
    runStateVersion := some (run.stateVersion + 1)
    payload := command.payload
    createdAt := some command.occurredAt }

def progressRun (command : DelegatedRunProgressCommand) (run : AgentRun) : AgentRun :=
  { run with
    status := command.status
    stateVersion := run.stateVersion + 1
    eventSequence := command.sequence
    heartbeatAt := some command.occurredAt
    updatedAt := some command.occurredAt }

/-- A `turn.*` outbox entry, pending, with the key `<event_type>:<turn_id>`. -/
def turnOutbox (hex eventType turnId : String) (payload : JsonDict) (availableAt : Instant) :
    TurnOutboxEvent :=
  { outboxId := "outbox_" ++ hex
    turnId
    eventType
    idempotencyKey := eventType ++ ":" ++ turnId
    payload
    status := .pending
    attemptCount := 0
    maxAttempts := 5
    availableAt }

/-- `TurnSemanticResponse` of a failed turn. -/
def failureResponse (error : JsonDict) : TurnSemanticResponse :=
  { kind := .error, text := "Delegated agent execution failed", output := none, error := some error }

def optionalJson : Option String → Json
  | some s => .str s
  | none => .null

/-! ## Plan steps -/

def isStep (stepId agentId : String) (step : PlanStep) : Bool :=
  step.stepId = stepId && step.agentId = agentId

def markStep (status : PlanStepStatus) (stepId agentId : String) (steps : List PlanStep) :
    List PlanStep :=
  steps.map fun step => if isStep stepId agentId step then { step with status } else step

/-- Set the status of the first step with this id and agent, the row a
`select(PlanStepModel)` returns. -/
def markFirst (status : PlanStepStatus) (stepId agentId : String) : List PlanStep → List PlanStep
  | [] => []
  | step :: rest =>
    if isStep stepId agentId step then { step with status } :: rest
    else step :: markFirst status stepId agentId rest

/-- A plan with a terminal update: the step of the command and the plan get `status`. -/
def concludedPlan (status : PlanStatus) (stepId : String) (command : DelegatedRunEventCommand)
    (time : Instant) (plan : Plan) : Plan :=
  { plan with
    steps := markStep status stepId command.agentId plan.steps
    status
    currentStepId := none
    nextAction := none
    stateVersion := plan.stateVersion + 1
    lastEventId := some command.eventId
    updatedAt := time
    formationEventType := "update" }

/-- A terminal plan update; `requires` and `unmatched` are the messages of its
two conflicts. -/
def concludePlan (status : PlanStatus) (requires unmatched : String) (plan : Plan)
    (command : DelegatedRunEventCommand) (time : Instant) : Except StoreError Plan :=
  match command.stepId with
  | none => conflict requires
  | some stepId =>
    if stepId = "" then conflict requires
    else if plan.steps.any (isStep stepId command.agentId) then
      .ok (concludedPlan status stepId command time plan)
    else conflict unmatched

structure NamesStep (command : DelegatedRunEventCommand) (plan : Plan) (stepId : String) :
    Prop where
  step : command.stepId = some stepId
  nonempty : stepId ≠ ""
  mem : plan.steps.any (isStep stepId command.agentId) = true

theorem concludePlan_ok {status : PlanStatus} {requires unmatched : String} {plan new : Plan}
    {time : Instant} :
    concludePlan status requires unmatched plan command time = .ok new ↔
      ∃ stepId, NamesStep command plan stepId ∧
        new = concludedPlan status stepId command time plan := by
  constructor
  · intro h
    unfold concludePlan at h
    split at h
    · cases h
    · next stepId hs =>
      split at h
      · cases h
      · next he =>
        split at h
        · next hm =>
          cases h
          exact ⟨stepId, ⟨hs, he, hm⟩, rfl⟩
        · cases h
  · rintro ⟨stepId, ⟨hs, he, hm⟩, rfl⟩
    simp only [concludePlan, hs, if_neg he, if_pos hm]

/-- mirrors app/repositories/delegated_runs.py:1952-1981 -/
def cancelledPlan (plan : Plan) (command : DelegatedRunCancelCommand) (cancelledAt : Instant) :
    Except StoreError Plan :=
  concludePlan .cancelled "Plan cancellation requires Step" "Cancel Plan Step association conflict"
    plan command cancelledAt

/-- mirrors app/repositories/delegated_runs.py:1984-2013 -/
def timedOutPlan (plan : Plan) (command : DelegatedRunTimeoutCommand) (timedOutAt : Instant) :
    Except StoreError Plan :=
  concludePlan .failed "Plan timeout requires Step" "Timeout Plan Step association conflict"
    plan command timedOutAt

/-- mirrors app/repositories/delegated_runs.py:2016-2044 -/
def failedPlan (plan : Plan) (command : DelegatedRunFailCommand) (failedAt : Instant) :
    Except StoreError Plan :=
  concludePlan .failed "Plan failure requires Step" "Plan Step association conflict"
    plan command failedAt

/-- mirrors app/repositories/delegated_runs.py:1688-1712 -/
def planStateAfterCompletion (steps : List PlanStep) :
    Except StoreError (PlanStatus × Option String) :=
  if steps.all (·.status = .completed) then .ok (.completed, none)
  else if steps.any (·.status = .failed) then .ok (.failed, none)
  else
    match steps.find? (·.status = .blocked), steps.find? (·.status = .running), readyStep steps with
    | some blocked, _, _ => .ok (.blocked, some blocked.stepId)
    | none, some running, _ => .ok (.running, some running.stepId)
    | none, none, some ready => .ok (.running, some ready.stepId)
    | none, none, none => conflict "Plan has incomplete Steps but no ready Step"

/-- A plan with the step of the command completed; `next` is its new status and
current step. -/
def completedPlan (command : DelegatedRunCompleteCommand) (stepId : String)
    (next : PlanStatus × Option String) (plan : Plan) : Plan :=
  { plan with
    steps := markStep .completed stepId command.agentId plan.steps
    status := next.1
    currentStepId := next.2
    nextAction := plan.nextAction.filter fun action =>
      next.1 = .blocked && (action.stepId = none || action.stepId = next.2)
    stateVersion := plan.stateVersion + 1
    lastEventId := some command.eventId
    updatedAt := command.occurredAt
    formationEventType := "update" }

/-- mirrors app/repositories/delegated_runs.py:1653-1685 -/
def completePlanStep (plan : Plan) (command : DelegatedRunCompleteCommand) :
    Except StoreError Plan :=
  match command.stepId with
  | none => conflict "Plan completion requires Step"
  | some stepId =>
    if stepId = "" then conflict "Plan completion requires Step"
    else if plan.steps.any (isStep stepId command.agentId) then do
      let next ← planStateAfterCompletion (markStep .completed stepId command.agentId plan.steps)
      return completedPlan command stepId next plan
    else conflict "Plan Step association conflict"

theorem completePlanStep_ok {plan new : Plan} {command : DelegatedRunCompleteCommand} :
    completePlanStep plan command = .ok new ↔
      ∃ stepId next, NamesStep command plan stepId ∧
        planStateAfterCompletion (markStep .completed stepId command.agentId plan.steps) =
          .ok next ∧ new = completedPlan command stepId next plan := by
  constructor
  · intro h
    unfold completePlanStep at h
    split at h
    · cases h
    · next stepId hs =>
      split at h
      · cases h
      · next he =>
        split at h
        · next hm =>
          obtain ⟨next, hn, h⟩ := bind_eq_ok.1 h
          cases h
          exact ⟨stepId, next, ⟨hs, he, hm⟩, hn, rfl⟩
        · cases h
  · rintro ⟨stepId, next, ⟨hs, he, hm⟩, hn, rfl⟩
    simp only [completePlanStep, hs, if_neg he, if_pos hm, hn]
    rfl

/-! ## Completion -/

/-- mirrors app/repositories/turn_transactions.py:26-33 -/
structure TurnCompletionBundle where
  run : AgentRun
  result : AgentResult
  turn : CanonicalTurn
  outbox : TurnOutboxEvent
  plan : Option Plan
  event : AgentEvent

/-- `updated_run` of `_completion_bundle`. -/
def completedRun (command : DelegatedRunCompleteCommand) (run : AgentRun) : AgentRun :=
  { concludeRun .completed command command.occurredAt run with
    output := command.output }

/-- `result` of `_completion_bundle`, before its validators. -/
def completionResult (command : DelegatedRunCompleteCommand) (run : AgentRun) : AgentResult :=
  { resultId := command.resultId
    runId := run.runId
    sessionId := run.sessionId
    agentId := run.agentId
    userId := run.userId
    tenantId := run.tenantId
    turnId := run.turnId
    planId := run.planId
    stepId := run.stepId
    status := .completed
    runStateVersion := some (run.stateVersion + 1)
    message := command.responseText
    formationSuppressed := false
    output := command.output
    artifactRefs := command.artifactRefs
    error := none
    createdAt := some command.occurredAt }

/-- `completed_turn` of `_completion_bundle`: its time is `occurred_at`, not clamped. -/
def completedTurn (command : DelegatedRunCompleteCommand) (turn : CanonicalTurn) : CanonicalTurn :=
  { concludeTurn .completed command.occurredAt turn with
    references := { turn.references with
      resultIds := addNew turn.references.resultIds command.resultId }
    finalResponse := some
      { kind := .agentResult, text := command.responseText, output := command.output,
        error := none } }

/-- `event` of `_completion_bundle`. -/
def completionEvent (command : DelegatedRunCompleteCommand) (run : AgentRun) : AgentEvent :=
  terminalEvent run command run.runId .agentResult .completed
    [("result_id", .str command.resultId)] command.occurredAt

/-- `outbox` of `_completion_bundle`. -/
def completionOutbox (command : DelegatedRunCompleteCommand) (run : AgentRun)
    (turn : CanonicalTurn) (hex : String) : TurnOutboxEvent :=
  turnOutbox hex "turn.completed" turn.turnId
    [("turn_id", .str turn.turnId), ("run_id", .str run.runId),
      ("result_id", .str command.resultId), ("plan_id", optionalJson run.planId)]
    command.occurredAt

/-- mirrors app/repositories/delegated_runs.py:1558-1650 -/
def completionBundle (command : DelegatedRunCompleteCommand) (run : AgentRun)
    (turn : CanonicalTurn) (plan : Option Plan) (hex : String) :
    Except StoreError TurnCompletionBundle := do
  let result ← (completionResult command run).validate
  let updatedPlan ← plan.mapM fun plan => completePlanStep plan command
  let event ← (completionEvent command run).validate
  return {
    run := completedRun command run
    result
    turn := completedTurn command turn
    outbox := completionOutbox command run turn hex
    plan := updatedPlan
    event }

structure BundleOf (command : DelegatedRunCompleteCommand) (run : AgentRun) (turn : CanonicalTurn)
    (plan : Option Plan) (hex : String) (bundle : TurnCompletionBundle) : Prop where
  run_eq : bundle.run = completedRun command run
  turn_eq : bundle.turn = completedTurn command turn
  result_ok : (completionResult command run).validate = .ok bundle.result
  event_eq : bundle.event = completionEvent command run
  outbox_eq : bundle.outbox = completionOutbox command run turn hex
  plan_ok : plan.mapM (fun plan => completePlanStep plan command) = .ok bundle.plan

theorem completionEvent_validate {command : DelegatedRunCompleteCommand} {event : AgentEvent}
    (h : (completionEvent command run).validate = .ok event) :
    event = completionEvent command run := by
  obtain ⟨-, -, h⟩ := bind_eq_ok.1 h
  obtain ⟨-, -, h⟩ := bind_eq_ok.1 h
  obtain ⟨payload, hp, h⟩ := bind_eq_ok.1 h
  cases h
  cases hp
  rfl

theorem bundleOf {command : DelegatedRunCompleteCommand} {plan : Option Plan} {hex : String}
    {bundle : TurnCompletionBundle} (h : completionBundle command run turn plan hex = .ok bundle) :
    BundleOf command run turn plan hex bundle := by
  obtain ⟨result, hr, h⟩ := bind_eq_ok.1 h
  obtain ⟨plan', hp, h⟩ := bind_eq_ok.1 h
  obtain ⟨event, he, h⟩ := bind_eq_ok.1 h
  cases h
  exact ⟨rfl, rfl, hr, completionEvent_validate he, rfl, hp⟩

/-- The time a `fail`, `cancel` or `timeout` writes: no earlier than the turn. -/
def concludedAt (command : DelegatedRunEventCommand) (turn : CanonicalTurn) : Instant :=
  max command.occurredAt turn.createdAt

/-- The run of a `fail`. -/
def failedRun (command : DelegatedRunFailCommand) (time : Instant) (run : AgentRun) : AgentRun :=
  { concludeRun .failed command time run with error := some command.error }

/-- The turn of a `fail`. -/
def failedTurn (command : DelegatedRunFailCommand) (time : Instant) (turn : CanonicalTurn) :
    CanonicalTurn :=
  { concludeTurn .failed time turn with finalResponse := some (failureResponse command.error) }

/-- The commands of the six stores; a start comes with its generated run id and
the key its service computed. -/
inductive Command where
  | start (command : DelegatedRunStartCommand) (runHex delegationKey : String)
  | progress (command : DelegatedRunProgressCommand)
  | complete (command : DelegatedRunCompleteCommand)
  | fail (command : DelegatedRunFailCommand)
  | cancel (command : DelegatedRunCancelCommand)
  | timeout (command : DelegatedRunTimeoutCommand)

def Command.event? : Command → Option DelegatedRunEventCommand
  | .start _ _ _ => none
  | .progress command => some command
  | .complete command => some command
  | .fail command => some command
  | .cancel command => some command
  | .timeout command => some command

/-- `run_id` of a start.
mirrors app/services/delegated_run_service.py:114 -/
def startRunId (runHex : String) : String := "run_" ++ runHex

/-! ## Redelivered events -/

/-- mirrors app/repositories/delegated_runs.py:1458-1490 -/
def validateDuplicateEvent (event : AgentEvent) (command : DelegatedRunProgressCommand) :
    Except StoreError Unit :=
  if event.runId = some command.runId && event.turnId = some command.turnId &&
      event.tenantId = some command.tenantId && event.userId = some command.userId &&
      event.agentId = command.agentId && event.planId = command.planId &&
      event.stepId = command.stepId && event.eventType = command.eventType &&
      event.status = some command.status && event.sequence = some command.sequence &&
      JsonDict.pyEq event.payload command.payload then .ok ()
  else conflict "Event idempotency identity conflict"

/-- mirrors app/repositories/delegated_runs.py:1493-1495 -/
def validateProgressEventNamespace (command : DelegatedRunProgressCommand) :
    Except StoreError Unit :=
  if delegatedRunMaintenanceEventPrefix.toList.isPrefixOf command.eventId.toList then
    conflict "Event id is reserved for maintenance"
  else .ok ()

/-- The test of `_validate_final_event_identity`. -/
def sameIdentity (event : AgentEvent) (command : DelegatedRunEventCommand) : Bool :=
  event.runId = some command.runId && event.turnId = some command.turnId &&
  event.tenantId = some command.tenantId && event.userId = some command.userId &&
  event.agentId = command.agentId && event.planId = command.planId &&
  event.stepId = command.stepId

/-- A terminal event check: identity, type, status and payload, with its message.
mirrors app/repositories/delegated_runs.py:1715-1728 (`_validate_final_event_identity`) -/
def validateTerminalEvent (message : String) (eventType : AgentEventType) (status : RunStatus)
    (payload : JsonDict) (event : AgentEvent) (command : DelegatedRunEventCommand) :
    Except StoreError Unit :=
  if !sameIdentity event command then conflict "Final Event idempotency identity conflict"
  else if event.eventType ≠ eventType || event.status ≠ some status ||
      !JsonDict.pyEq event.payload payload then
    conflict message
  else .ok ()

/-- mirrors app/repositories/delegated_runs.py:1731-1742 -/
def validateCompletionEventIdentity (event : AgentEvent) (command : DelegatedRunCompleteCommand) :
    Except StoreError Unit :=
  validateTerminalEvent "Final Event idempotency identity conflict" .agentResult .completed
    [("result_id", .str command.resultId)] event command

/-- mirrors app/repositories/delegated_runs.py:1766-1777 -/
def validateFailureEventIdentity (event : AgentEvent) (command : DelegatedRunFailCommand) :
    Except StoreError Unit :=
  validateTerminalEvent "Failure Event idempotency identity conflict" .agentError .failed
    [("error", .obj command.error)] event command

/-- mirrors app/repositories/delegated_runs.py:1818-1829 -/
def validateCancelEvent (event : AgentEvent) (command : DelegatedRunCancelCommand) :
    Except StoreError Unit :=
  validateTerminalEvent "Cancel Event idempotency identity conflict" .agentCancelled .cancelled
    [("reason", .str command.reason)] event command

/-- mirrors app/repositories/delegated_runs.py:1745-1763 -/
def validateCompletionResultIdentity (result : AgentResult)
    (command : DelegatedRunCompleteCommand) : Except StoreError Unit :=
  if result.resultId = command.resultId && result.runId = command.runId &&
      result.turnId = some command.turnId && result.tenantId = some command.tenantId &&
      result.userId = some command.userId && result.agentId = command.agentId &&
      result.planId = command.planId && result.stepId = command.stepId &&
      result.status = .completed && result.message = command.responseText &&
      JsonDict.pyEqOption result.output command.output &&
      Json.pyEq (.arr (result.artifactRefs.map .obj)) (.arr (command.artifactRefs.map .obj)) then
    .ok ()
  else conflict "Final Result idempotency identity conflict"

/-- mirrors app/repositories/delegated_runs.py:1832-1847 -/
def validateCancelledState (run : Option AgentRun) (turn : Option CanonicalTurn)
    (command : DelegatedRunCancelCommand) : Except StoreError (AgentRun × CanonicalTurn) :=
  match run, turn with
  | some run, some turn =>
    if run.status ≠ .cancelled || run.terminalEventId ≠ some command.eventId ||
        turn.status ≠ .cancelled then
      conflict "Cancellation has conflicting canonical state"
    else .ok (run, turn)
  | _, _ => conflict "Cancellation has incomplete canonical state"

/-- mirrors app/repositories/delegated_runs.py:2122-2149 -/
def validateMaintenanceEvent (event : AgentEvent) (command : DelegatedRunTimeoutCommand)
    (run : Option AgentRun) : Except StoreError AgentRun :=
  match run with
  | none => conflict "Maintenance Event idempotency conflict"
  | some run =>
    if sameIdentity event command &&
        event.eventType = .agentError && event.status = some .timedOut &&
        JsonDict.pyEq event.payload [("reason", .str command.reason)] &&
        event.runStateVersion = some (command.expectedStateVersion + 1) &&
        run.status = .timedOut && run.terminalEventId = some command.eventId &&
        some run.stateVersion = event.runStateVersion &&
        some run.eventSequence = event.sequence && run.deadlineAt = some command.deadlineAt then
      .ok run
    else conflict "Maintenance Event idempotency conflict"

/-! ## A sample session

One owner, one running turn and one plan of two steps, for the examples and
counterexamples of the modules that follow. -/

def sampleTurn : CanonicalTurn :=
  { turnId := "turn"
    tenantId := "tenant"
    userId := "user"
    sessionId := "session"
    requestId := "request"
    source := "chat"
    status := .running
    stateVersion := 1
    userInput := { text := "hello", metadata := [] }
    references :=
      { routeDecisionId := none, runIds := [], resultIds := [], planId := none, eventIds := [] }
    finalResponse := none
    createdAt := 0
    updatedAt := 0
    completedAt := none }

def sampleStep (stepId : String) (status : PlanStepStatus) : PlanStep :=
  { stepId, agentId := "agent", description := "step", status, dependsOn := [], artifactRefs := [] }

def samplePlan : Plan :=
  { planId := "plan"
    userId := "user"
    tenantId := "tenant"
    status := .running
    currentStepId := some "one"
    executionPolicy := none
    nextAction := none
    lastEventId := none
    stateVersion := 1
    updatedAt := 0
    formationEventType := "create"
    steps := [sampleStep "one" .running, sampleStep "two" .pending] }

def sampleStart (step : Option String)
    (optionals : [step.map fun _ => "plan", step].all isOptionalIdentifier = true
      := by exact Eq.refl true) :
    DelegatedRunStartCommand :=
  { tenantId := "tenant"
    userId := "user"
    sessionId := "session"
    requestId := "request"
    turnId := "turn"
    agentId := "agent"
    planId := step.map fun _ => "plan"
    stepId := step
    deadlineAt := 0
    input := []
    optionals }

def sampleEvent (eventId runId : String) (step : Option String) (occurredAt : Instant)
    (identifiers : [eventId, runId, "turn", "tenant", "user", "agent"].all isIdentifier = true
      := by exact Eq.refl true)
    (optionals : [step.map fun _ => "plan", step].all isOptionalIdentifier = true
      := by exact Eq.refl true) :
    DelegatedRunEventCommand :=
  { eventId
    runId
    turnId := "turn"
    tenantId := "tenant"
    userId := "user"
    agentId := "agent"
    planId := step.map fun _ => "plan"
    stepId := step
    expectedStateVersion := 1
    occurredAt
    identifiers
    optionals }

def sampleFail (event : DelegatedRunEventCommand) : DelegatedRunFailCommand :=
  { toDelegatedRunEventCommand := event, error := [] }

def sampleCancel (event : DelegatedRunEventCommand) : DelegatedRunCancelCommand :=
  { toDelegatedRunEventCommand := event, reason := "stop" }

def sampleTimeout (event : DelegatedRunEventCommand) : DelegatedRunTimeoutCommand :=
  { toDelegatedRunEventCommand := event, deadlineAt := 0, reason := "late" }

def sampleProgress (event : DelegatedRunEventCommand) : DelegatedRunProgressCommand :=
  { toDelegatedRunEventCommand := event
    eventType := .agentProgress
    sequence := 1
    status := .running
    payload := [] }

def sampleComplete (event : DelegatedRunEventCommand) (resultId : String)
    (resultIdentifier : isIdentifier resultId = true := by exact Eq.refl true) :
    DelegatedRunCompleteCommand :=
  { toDelegatedRunEventCommand := event
    resultId
    responseText := "done"
    output := none
    artifactRefs := []
    resultIdentifier }

def sampleGenerated (hex : String) : Generated := { hex, now := 0, attachedAt := 0, stamp := 0 }

end OpenIntentRouter.DelegatedRuns
