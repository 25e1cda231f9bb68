import OpenIntentRouter.DelegatedRuns.Transitions
import OpenIntentRouter.Repositories.Database

/-!
# The database delegated-run stores

Each call as a `Core.Prog`: its reads, its `FOR UPDATE` reads in the order the
code takes them, and one commit. `fail`, `cancel`, `timeout`, `progress` and
`start` are one transaction each. `complete` reads run, turn and plan without a
lock and hands a bundle to `DatabaseTurnTransactionCoordinator.complete`, which
locks turn, run and plan and compares versions of turn and plan only.
-/
namespace OpenIntentRouter.DelegatedRuns.Db

open Core Schemas Repositories

/-- The statement a worker stands at: `completeReadsTurn` carries the run row
`complete` has read, `completeLocksRun` its bundle and the turn row it has locked. -/
inductive Site where
  | statement
  | completeReadsTurn (command : DelegatedRunCompleteCommand) (run : Option AgentRun)
  | completeLocksRun (bundle : TurnCompletionBundle) (turn : Option CanonicalTurn)

abbrev DbProg := Prog Database Row Site (Except StoreError Reply)

def attempt {β : Type} (x : Except StoreError β) (k : β → DbProg) : DbProg :=
  match x with
  | .error e => .ret (.error e)
  | .ok b => k b

def raise (message : String) : DbProg := .ret (conflict message)

def read (f : Database → DbProg) : DbProg := .select .statement f

def lock (row : Row) (f : Database → DbProg) : DbProg := .lock .statement row f

/-! ## Start -/

/-- mirrors app/repositories/delegated_runs.py:88-93 and :119-124 -/
def startDuplicate (existing : AgentRun) : DbProg :=
  read fun db =>
  attempt (runFromRow existing) fun run =>
  match existing.turnId.bind db.turns.get? with
  | none => .ret noRow
  | some row =>
    attempt (turnFromRow row) fun turn =>
    .ret (.ok { run := some run, turn := some turn, result := none, duplicate := true })

/-- mirrors app/repositories/delegated_runs.py:1207-1233 -/
def validatePlanStep (command : DelegatedRunStartCommand) (k : DbProg) : DbProg :=
  match command.planId, command.stepId with
  | none, none => k
  | some planId, some stepId =>
    if planId = "" || stepId = "" then raise "Plan and Step must be supplied together"
    else
      lock (.plan planId) fun db =>
      let plan := (db.plans.get? planId).filter fun plan =>
        plan.tenantId = command.tenantId && plan.userId = command.userId
      lock (.step planId stepId) fun db =>
      let step := (db.plans.get? planId).bind fun plan =>
        plan.steps.find? (isStep stepId command.agentId)
      match plan, step with
      | some plan, some step =>
        if plan.status.isActive && step.status.isActive then k
        else raise "Plan Step ownership conflict"
      | _, _ => raise "Plan Step ownership conflict"
  | _, _ => raise "Plan and Step must be supplied together"

/-- mirrors app/repositories/delegated_runs.py:76-124 -/
def start (command : DelegatedRunStartCommand) (runId delegationKey : String) (gen : Generated) :
    DbProg :=
  read fun db =>
  match db.runOfDelegationKey delegationKey with
  | some existing => startDuplicate existing
  | none =>
    lock (.turn command.turnId) fun db =>
    let turnRow := db.turns.get? command.turnId
    attempt (turnRow.mapM turnFromRow) fun turn =>
    attempt (validateStartTurn turn command) fun turn =>
    validatePlanStep command <|
    attempt (newRun command runId delegationKey gen.now) fun run =>
    attempt run.validate fun values =>
    attempt (attachRun turn run gen.attachedAt) fun updatedTurn =>
    .commit
      (Database.commit
        { newRun := values, turn := some (applyTurnRow (turnRow.getD turn) updatedTurn) })
      (.ret (.ok
        { run := some run, turn := some updatedTurn, result := none, duplicate := false }))
      (read fun db =>
        match db.runOfDelegationKey delegationKey with
        | none => .ret (.error .integrityError)
        | some existing => startDuplicate existing)

/-! ## Progress -/

/-- The plan row of a clarification.
mirrors app/repositories/delegated_runs.py:1343-1386 (`_project_database_clarification`) -/
def clarifiedRow (command : DelegatedRunProgressCommand) (stepId : String) (row : PlanModel) :
    PlanModel :=
  { row with
    steps := markFirst .blocked stepId command.agentId row.steps
    status := .blocked
    currentStepId := some stepId
    stateVersion := row.stateVersion + 1
    originalQuery := { row.originalQuery with
      lastEventId := some command.eventId
      stateVersion := some (row.stateVersion + 1)
      formationEventType := some "update" }
    updatedAt := command.occurredAt }

def projectClarification (command : DelegatedRunProgressCommand) (k : Option PlanModel → DbProg) :
    DbProg :=
  if command.eventType ≠ .agentClarify then k none
  else
    match command.planId, command.stepId with
    | some planId, some stepId =>
      if planId = "" || stepId = "" then raise "Clarification requires Plan and Step"
      else
        lock (.plan planId) fun db =>
        let plan := (db.plans.get? planId).filter fun plan =>
          plan.tenantId = command.tenantId && plan.userId = command.userId
        lock (.step planId stepId) fun db =>
        let step := (db.plans.get? planId).bind fun plan =>
          plan.steps.find? (isStep stepId command.agentId)
        match plan, step with
        | some plan, some step =>
          if plan.status.isActive && step.status.isActive then
            k (some (clarifiedRow command stepId plan))
          else raise "Clarification Plan Step association conflict"
        | _, _ => raise "Clarification Plan Step association conflict"
    | _, _ => raise "Clarification requires Plan and Step"

/-- mirrors app/repositories/delegated_runs.py:190-212 -/
def progress (command : DelegatedRunProgressCommand) : DbProg :=
  attempt (validateProgressEventNamespace command) fun _ =>
  read fun db =>
  match db.events.get? command.eventId with
  | some existing =>
    attempt (validateDuplicateEvent existing command) fun _ =>
    read fun db =>
    match db.runs.get? command.runId with
    | none => .ret noRow
    | some row =>
      attempt (runFromRow row) fun run =>
      .ret (.ok { run := some run, turn := none, result := none, duplicate := true })
  | none =>
    lock (.run command.runId) fun db =>
    let runRow := db.runs.get? command.runId
    attempt (runRow.mapM runFromRow) fun run =>
    attempt (validateProgressRun run command) fun run =>
    projectClarification command fun planRow =>
    let updated := progressRun command (runRow.getD run)
    attempt (runFromRow updated) fun reply =>
    .commit
      (Database.commit { run := updated, plan := planRow, event := progressEvent run command })
      (.ret (.ok { run := some reply, turn := none, result := none, duplicate := false }))
      (.ret (.error .integrityError))

/-! ## Complete -/

/-- mirrors app/repositories/delegated_runs.py:335-356
(`DatabaseDelegatedRunCompletionStore._duplicate`); `absent` is what follows `None` -/
def completeDuplicate (command : DelegatedRunCompleteCommand) (absent : DbProg) : DbProg :=
  read fun db =>
  match db.events.get? command.eventId with
  | none => absent
  | some event =>
    attempt (validateCompletionEventIdentity event command) fun _ =>
    read fun db =>
    let run := db.runs.get? command.runId
    read fun db =>
    let result := match Json.field event.payload "result_id" with
      | some (.str resultId) => if resultId = "" then none else db.results.get? resultId
      | _ => none
    read fun db =>
    match run, result, db.turns.get? command.turnId with
    | some run, some result, some turn =>
      attempt (resultFromRow result) fun result =>
      attempt (validateCompletionResultIdentity result command) fun _ =>
      attempt (runFromRow run) fun run =>
      attempt (turnFromRow turn) fun turn =>
      .ret (.ok { run := some run, turn := some turn, result := some result, duplicate := true })
    | _, _, _ => raise "Final Event has incomplete canonical state"

/-- `DatabasePlanRepository.get` of the plan the command names.
mirrors app/repositories/delegated_runs.py:309-317 and app/repositories/database.py:594-616 -/
def readPlan (command : DelegatedRunCompleteCommand) (k : Option Plan → DbProg) : DbProg :=
  match command.planId with
  | none => k none
  | some planId =>
    if planId = "" then k none
    else
      read fun db =>
      match (db.plans.get? planId).filter fun row =>
          row.tenantId = command.tenantId && row.userId = command.userId with
      | none => raise "Plan not found"
      | some row =>
        read fun db =>
        let steps := ((db.plans.get? planId).map (·.steps)).getD []
        attempt (planFromRows row steps) fun plan => k (some plan)

/-- mirrors app/repositories/turn_transactions.py:74-97 -/
def validateBundle (bundle : TurnCompletionBundle) : Except StoreError Unit := do
  let refuse (message : String) (c : Bool) : Except StoreError Unit :=
    Except.ensure (!c) (.turnTransactionConflict message)
  refuse "Result does not belong to Run" (bundle.result.runId ≠ bundle.run.runId)
  refuse "Outbox does not belong to Turn" (bundle.outbox.turnId ≠ bundle.turn.turnId)
  refuse "Turn does not reference Run" (bundle.run.runId ∉ bundle.turn.references.runIds)
  refuse "Turn does not reference Result"
    (bundle.result.resultId ∉ bundle.turn.references.resultIds)
  match bundle.plan with
  | none => pure ()
  | some plan =>
    refuse "Turn does not reference Plan" (bundle.turn.references.planId ≠ some plan.planId)
    refuse "Run/Result Plan association conflicts"
      (bundle.run.planId ≠ some plan.planId || bundle.result.planId ≠ some plan.planId)
  refuse "Event association conflicts"
    (bundle.event.runId ≠ some bundle.run.runId || bundle.event.turnId ≠ some bundle.turn.turnId ||
      bundle.event.tenantId ≠ some bundle.turn.tenantId ||
      bundle.event.userId ≠ some bundle.turn.userId)

/-- The row checks of the coordinator.
mirrors app/repositories/turn_transactions.py:53-62 -/
def coordinatorCheck (bundle : TurnCompletionBundle) (turnRow : Option CanonicalTurn)
    (runRow : Option AgentRun) : Except StoreError (CanonicalTurn × AgentRun) :=
  match turnRow, runRow with
  | some turnRow, some runRow =>
    if turnRow.tenantId ≠ bundle.turn.tenantId || turnRow.userId ≠ bundle.turn.userId ||
        turnRow.stateVersion + 1 ≠ bundle.turn.stateVersion ||
        runRow.tenantId ≠ some bundle.turn.tenantId || runRow.userId ≠ some bundle.turn.userId then
      .error (.turnTransactionConflict "Turn or Run ownership/version conflict")
    else .ok (turnRow, runRow)
  | _, _ => .error (.turnTransactionConflict "Turn or Run does not exist")

/-- mirrors app/repositories/turn_transactions.py:165-171 (the checks of `_apply_plan`) -/
def lockPlan (plan : Option Plan) (k : Option PlanModel → DbProg) : DbProg :=
  match plan with
  | none => k none
  | some plan =>
    lock (.plan plan.planId) fun db =>
    match db.plans.get? plan.planId with
    | none => .ret (.error (.turnTransactionConflict "Plan ownership conflict"))
    | some row =>
      if row.tenantId ≠ plan.tenantId || row.userId ≠ plan.userId then
        .ret (.error (.turnTransactionConflict "Plan ownership conflict"))
      else if plan.stateVersion ≠ row.stateVersion + 1 then
        .ret (.error (.turnTransactionConflict "Plan version conflict"))
      else k (some (applyPlan row plan))

def bundleChanges (bundle : TurnCompletionBundle) (turnRow : CanonicalTurn) (runRow : AgentRun)
    (planRow : Option PlanModel) : Changes :=
  { run := applyRun runRow bundle.run
    turn := applyTurn turnRow bundle.turn
    plan := planRow
    result := bundle.result
    event := bundle.event
    outbox := bundle.outbox }

def completeReply (bundle : TurnCompletionBundle) : Reply :=
  { run := some bundle.run, turn := some bundle.turn, result := some bundle.result
    duplicate := false }

/-- The write transaction; `conflicted` follows its `IntegrityError`.
mirrors app/repositories/turn_transactions.py:40-71
(`DatabaseTurnTransactionCoordinator.complete`) -/
def coordinate (bundle : TurnCompletionBundle) (conflicted : DbProg) : DbProg :=
  attempt (validateBundle bundle) fun _ =>
  lock (.turn bundle.turn.turnId) fun db =>
  let turnRow := db.turns.get? bundle.turn.turnId
  .lock (.completeLocksRun bundle turnRow) (.run bundle.run.runId) fun db =>
  attempt (coordinatorCheck bundle turnRow (db.runs.get? bundle.run.runId)) fun (turnRow, runRow) =>
  lockPlan bundle.plan fun planRow =>
  .commit (Database.commit (bundleChanges bundle turnRow runRow planRow))
    (.ret (.ok (completeReply bundle))) conflicted

def completeFresh (command : DelegatedRunCompleteCommand) (gen : Generated) : DbProg :=
  read fun db =>
  let runRow := db.runs.get? command.runId
  .select (.completeReadsTurn command runRow) fun db =>
  let turnRow := db.turns.get? command.turnId
  attempt (runRow.mapM runFromRow) fun run =>
  attempt (validateFinalRun run command) fun run =>
  match turnRow with
  | none => raise "Canonical Turn not found"
  | some turnRow =>
    attempt (turnFromRow turnRow) fun turn =>
    readPlan command fun plan =>
    attempt (completionBundle command run turn plan gen.hex) fun bundle =>
    coordinate bundle (completeDuplicate command (.ret (.error .integrityError)))

/-- mirrors app/repositories/delegated_runs.py:300-333 -/
def complete (command : DelegatedRunCompleteCommand) (gen : Generated) : DbProg :=
  completeDuplicate command (completeFresh command gen)

/-! ## Fail, cancel, time out -/

/-- The plan row of a failed, timed-out or cancelled step.
mirrors app/repositories/delegated_runs.py:1896-1911 and :1933-1949 -/
def concludedRow (status : PlanStatus) (stepId agentId eventId : String) (time : Instant)
    (row : PlanModel) : PlanModel :=
  { row with
    steps := markFirst status stepId agentId row.steps
    status
    currentStepId := none
    stateVersion := row.stateVersion + 1
    originalQuery := { row.originalQuery with
      nextAction := none
      lastEventId := some eventId
      stateVersion := some (row.stateVersion + 1)
      formationEventType := some "update" }
    updatedAt := time }

/-- The lock and checks that `_fail_plan_step` and `_cancel_plan_step` share;
the plan row to write, if the run has a plan and a step. -/
def concludePlanStep (status : PlanStatus) (message : String) (run : AgentRun)
    (eventId : String) (time : Instant) (k : Option PlanModel → DbProg) : DbProg :=
  match run.planId, run.stepId with
  | some planId, some stepId =>
    if planId = "" || stepId = "" then k none
    else
      lock (.plan planId) fun db =>
      let plan := db.plans.get? planId
      read fun db =>
      let step := (db.plans.get? planId).bind fun plan => plan.steps.find? (isStep stepId run.agentId)
      match plan, step with
      | some plan, some _ => k (some (concludedRow status stepId run.agentId eventId time plan))
      | _, _ => raise message
  | _, _ => k none

/-- mirrors app/repositories/delegated_runs.py:1878-1911 -/
def failPlanStep (run : AgentRun) (command : DelegatedRunEventCommand) :
    (Option PlanModel → DbProg) → DbProg :=
  concludePlanStep .failed "Timeout Plan Step association conflict" run command.eventId
    command.occurredAt

/-- mirrors app/repositories/delegated_runs.py:1914-1949 -/
def cancelPlanStep (run : AgentRun) (command : DelegatedRunCancelCommand) (cancelledAt : Instant) :
    (Option PlanModel → DbProg) → DbProg :=
  concludePlanStep .cancelled "Cancel Plan Step association conflict" run command.eventId cancelledAt

/-- What `fail`, `cancel` and `timeout` write on the locked rows. -/
def terminalChanges (runRow : AgentRun) (turnRow : CanonicalTurn) (planRow : Option PlanModel)
    (event : AgentEvent) (outbox : TurnOutboxEvent) : Changes :=
  { run := runRow, turn := turnRow, plan := planRow, event, outbox }

/-- mirrors app/repositories/delegated_runs.py:445-460
(`DatabaseDelegatedRunFailureStore._duplicate`) -/
def failDuplicate (event : AgentEvent) (command : DelegatedRunFailCommand) : DbProg :=
  attempt (validateFailureEventIdentity event command) fun _ =>
  read fun db =>
  let run := db.runs.get? command.runId
  read fun db =>
  match run, db.turns.get? command.turnId with
  | some run, some turn =>
    attempt (runFromRow run) fun run =>
    attempt (turnFromRow turn) fun turn =>
    .ret (.ok { run := some run, turn := some turn, result := none, duplicate := true })
  | _, _ => raise "Failure Event has incomplete canonical state"

/-- mirrors app/repositories/delegated_runs.py:363-443 -/
def fail (command : DelegatedRunFailCommand) (gen : Generated) : DbProg :=
  read fun db =>
  match db.events.get? command.eventId with
  | some existing => failDuplicate existing command
  | none =>
    lock (.run command.runId) fun db =>
    let runRow := db.runs.get? command.runId
    attempt (runRow.mapM runFromRow) fun run =>
    attempt (validateFailureRun run command) fun run =>
    lock (.turn command.turnId) fun db =>
    let turnRow := db.turns.get? command.turnId
    attempt (turnRow.mapM turnFromRow) fun turn =>
    attempt (validateFailureTurn turn command) fun turn =>
    let failedAt := concludedAt command turn
    let runRow := failedRun command failedAt (runRow.getD run)
    let turnRow := failedTurn command failedAt (turnRow.getD turn)
    failPlanStep run command fun planRow =>
    attempt (runFromRow runRow) fun replyRun =>
    attempt (turnFromRow turnRow) fun replyTurn =>
    .commit
      (Database.commit <| terminalChanges runRow turnRow planRow
        (terminalEvent run command command.runId .agentError .failed
          [("error", .obj command.error)] failedAt)
        (turnOutbox gen.hex "turn.failed" command.turnId
          [("turn_id", .str command.turnId), ("run_id", .str command.runId),
            ("state_version", .num turnRow.stateVersion)] failedAt))
      (.ret (.ok
        { run := some replyRun, turn := some replyTurn, result := none, duplicate := false }))
      (read fun db =>
        match db.events.get? command.eventId with
        | none => .ret (.error .integrityError)
        | some existing => failDuplicate existing command)

/-- mirrors app/repositories/delegated_runs.py:700-770 -/
def cancel (command : DelegatedRunCancelCommand) (gen : Generated) : DbProg :=
  read fun db =>
  match db.events.get? command.eventId with
  | some existing =>
    attempt (validateCancelEvent existing command) fun _ =>
    read fun db =>
    let runRow := db.runs.get? command.runId
    read fun db =>
    match runRow, db.turns.get? command.turnId with
    | some runRow, some turnRow =>
      attempt (runFromRow runRow) fun run =>
      attempt (turnFromRow turnRow) fun turn =>
      attempt (validateCancelledState (some run) (some turn) command) fun (run, turn) =>
      .ret (.ok { run := some run, turn := some turn, result := none, duplicate := true })
    | _, _ => raise "Cancellation has incomplete canonical state"
  | none =>
    lock (.run command.runId) fun db =>
    let runRow := db.runs.get? command.runId
    attempt (runRow.mapM runFromRow) fun run =>
    attempt (validateCancelRun run command) fun run =>
    lock (.turn command.turnId) fun db =>
    let turnRow := db.turns.get? command.turnId
    attempt (turnRow.mapM turnFromRow) fun turn =>
    attempt (validateCancelTurn turn command) fun turn =>
    let cancelledAt := concludedAt command turn
    let updatedTurn := concludeTurn .cancelled cancelledAt turn
    let runRow :=
      concludeRun .cancelled command cancelledAt (runRow.getD run)
    let turnRow := concludeTurn .cancelled cancelledAt (turnRow.getD turn)
    cancelPlanStep run command cancelledAt fun planRow =>
    attempt (runFromRow runRow) fun replyRun =>
    .commit
      (Database.commit <| terminalChanges runRow turnRow planRow
        (terminalEvent run command command.runId .agentCancelled
          .cancelled [("reason", .str command.reason)] cancelledAt)
        (turnOutbox gen.hex "turn.cancelled" command.turnId
          [("turn_id", .str command.turnId), ("run_id", .str command.runId),
            ("reason", .str command.reason)] cancelledAt))
      (.ret (.ok
        { run := some replyRun, turn := some updatedTurn, result := none, duplicate := false }))
      (.ret (.error .integrityError))

/-- The turn row is not built into a `CanonicalTurn`, and its status is not looked at.
mirrors app/repositories/delegated_runs.py:976-1030
(`DatabaseDelegatedRunMaintenanceStore.timeout`) -/
def timeout (command : DelegatedRunTimeoutCommand) (gen : Generated) : DbProg :=
  read fun db =>
  match db.events.get? command.eventId with
  | some existing =>
    read fun db =>
    attempt ((db.runs.get? command.runId).mapM runFromRow) fun run =>
    attempt (validateMaintenanceEvent existing command run) fun run =>
    .ret (.ok { run := some run, turn := none, result := none, duplicate := true })
  | none =>
    lock (.run command.runId) fun db =>
    let runRow := db.runs.get? command.runId
    attempt (runRow.mapM runFromRow) fun run =>
    attempt (validateTimeoutRun run command) fun run =>
    lock (.turn command.turnId) fun db =>
    match (db.turns.get? command.turnId).filter fun row =>
        row.tenantId = command.tenantId && row.userId = command.userId with
    | none => raise "Timeout Turn ownership conflict"
    | some turnRow =>
      let timeoutAt := concludedAt command turnRow
      let runRow :=
        concludeRun .timedOut command timeoutAt (runRow.getD run)
      let turnRow := concludeTurn .timedOut timeoutAt turnRow
      failPlanStep run command fun planRow =>
      attempt (runFromRow runRow) fun replyRun =>
      .commit
        (Database.commit <| terminalChanges runRow turnRow planRow
          (terminalEvent run command command.runId .agentError .timedOut
            [("reason", .str command.reason)] command.occurredAt)
          (turnOutbox gen.hex "turn.timed_out" command.turnId
            [("turn_id", .str command.turnId), ("run_id", .str command.runId)] command.occurredAt))
        (.ret (.ok { run := some replyRun, turn := none, result := none, duplicate := false }))
        (.ret (.error .integrityError))

def prog (gen : Generated) : Command → DbProg
  | .start command runHex delegationKey => start command (startRunId runHex) delegationKey gen
  | .progress command => progress command
  | .complete command => complete command gen
  | .fail command => fail command gen
  | .cancel command => cancel command gen
  | .timeout command => timeout command gen

def exec (db : Database) (gen : Generated) (command : Command) :
    Except StoreError Reply × Database :=
  (prog gen command).run db

def execAll (db : Database) (calls : List (Generated × Command)) : Database :=
  calls.foldl (fun db call => (exec db call.1 call.2).2) db

def planRow (plan : Plan) : PlanModel :=
  { planId := plan.planId
    userId := plan.userId
    tenantId := plan.tenantId
    status := plan.status
    currentStepId := plan.currentStepId
    stateVersion := plan.stateVersion
    executionClaimId := none
    executionClaimStepId := none
    executionClaimStateVersion := none
    executionClaimKey := none
    executionAttempt := 0
    executionClaimExpiresAt := none
    originalQuery :=
      { executionPolicy := plan.executionPolicy
        nextAction := plan.nextAction
        lastEventId := plan.lastEventId
        stateVersion := some plan.stateVersion
        formationEventType := some plan.formationEventType }
    updatedAt := plan.updatedAt
    steps := plan.steps }

def sampleDatabase : Database :=
  { runs := .empty
    turns := Table.empty.put sampleTurn
    plans := Table.empty.put (planRow samplePlan)
    results := .empty
    events := .empty
    outbox := .empty }

end OpenIntentRouter.DelegatedRuns.Db
