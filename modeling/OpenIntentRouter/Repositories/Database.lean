import OpenIntentRouter.Core.Dict
import OpenIntentRouter.Core.Txn
import OpenIntentRouter.Schemas.Plans
import OpenIntentRouter.Schemas.Runs
import OpenIntentRouter.Schemas.Turns

/-!
# The database tables

One `Table` each, keyed by its primary key. A row has the columns of the
record it stores; JSON columns hold the value (`json_utils.dumps` and `loads`
are inverse on it). Reading a row builds the record, so it validates:
`runFromRow`, `turnFromRow`, `planFromRows`. The steps of a plan, in the order
of their ids, are kept with the plan row.

* `Database.commit`: the rows a session writes, all at once;
* `Database.commit_eq_some`: it succeeds on fresh keys only.
-/
namespace OpenIntentRouter.Repositories

open Core Schemas

/-- What `_apply_plan` and `_fail_plan_step` keep as JSON in `original_query`. -/
structure PlanMetadata where
  executionPolicy : Option ExecutionPolicy
  nextAction : Option NextAction
  lastEventId : Option String
  stateVersion : Option Nat
  formationEventType : Option String
  deriving DecidableEq

/-- mirrors app/db/models.py:389-414 (`PlanModel`) and :417-434 (`PlanStepModel`) -/
structure PlanModel where
  planId : String
  userId : String
  tenantId : String
  sessionId : String := ""
  status : PlanStatus
  currentStepId : Option String
  stateVersion : Nat
  executionClaimId : Option String
  executionClaimStepId : Option String
  executionClaimStateVersion : Option Nat
  executionClaimKey : Option String
  executionAttempt : Nat
  executionClaimExpiresAt : Option Instant
  originalQuery : PlanMetadata
  updatedAt : Instant
  steps : List PlanStep
  deriving DecidableEq

structure Database where
  runs : Table AgentRun.runId
  turns : Table CanonicalTurn.turnId
  plans : Table PlanModel.planId
  results : Table AgentResult.resultId
  events : Table AgentEvent.eventId
  outbox : Table TurnOutboxEvent.outboxId
  deriving DecidableEq

inductive Row where
  | run (runId : String)
  | turn (turnId : String)
  | plan (planId : String)
  | step (planId stepId : String)
  deriving DecidableEq

/-! ## Reading rows -/

/-- mirrors app/repositories/database.py:1231-1262 -/
def runFromRow (row : AgentRun) : Except StoreError AgentRun := row.validate

/-- mirrors app/repositories/turns.py:214-232 -/
def turnFromRow (row : CanonicalTurn) : Except StoreError CanonicalTurn := row.validate

/-- mirrors app/repositories/database.py:1302-1323 -/
def resultFromRow (row : AgentResult) : Except StoreError AgentResult := row.validate

/-- mirrors app/repositories/database.py:1169-1195 -/
def planFromRows (row : PlanModel) (steps : List PlanStep) : Except StoreError Plan :=
  Plan.validate
    { planId := row.planId
      userId := row.userId
      tenantId := row.tenantId
      sessionId := some row.sessionId
      status := row.status
      currentStepId := row.currentStepId
      executionPolicy := row.originalQuery.executionPolicy
      nextAction := row.originalQuery.nextAction
      lastEventId := row.originalQuery.lastEventId
      stateVersion := row.stateVersion
      updatedAt := row.updatedAt
      formationEventType := row.originalQuery.formationEventType.getD "update"
      steps }

/-- Reading a column of a row that is `None`. -/
def noRow {α : Type} : Except StoreError α :=
  .error (.attributeError "'NoneType' object has no attribute")

/-! ## Writing rows -/

/-- What a session writes at its commit: the rows it inserts and the rows it
has loaded under a lock and changed. -/
structure Changes where
  newRun : Option AgentRun := none
  run : Option AgentRun := none
  turn : Option CanonicalTurn := none
  plan : Option PlanModel := none
  result : Option AgentResult := none
  event : Option AgentEvent := none
  outbox : Option TurnOutboxEvent := none

namespace Database

def runOfDelegationKey (db : Database) (key : String) : Option AgentRun :=
  db.runs.values.find? fun run => run.delegationKey = some key

/-- The inserted rows violate no primary key, nor the unique keys
`agent_runs.delegation_key` and `turn_outbox.idempotency_key`. -/
structure Fresh (db : Database) (c : Changes) : Prop where
  run : ∀ run, c.newRun = some run → db.runs.get? run.runId = none ∧
    ∀ other ∈ db.runs.values, run.delegationKey = none ∨ other.delegationKey ≠ run.delegationKey
  result : ∀ result, c.result = some result → db.results.get? result.resultId = none
  event : ∀ event, c.event = some event → db.events.get? event.eventId = none
  outbox : ∀ entry, c.outbox = some entry → db.outbox.get? entry.outboxId = none ∧
    ∀ other ∈ db.outbox.values, other.idempotencyKey ≠ entry.idempotencyKey

def fresh (db : Database) (c : Changes) : Bool :=
  (c.newRun.all fun run => !db.runs.contains run.runId && db.runs.values.all fun other =>
    run.delegationKey = none || other.delegationKey ≠ run.delegationKey) &&
  (c.result.all fun result => !db.results.contains result.resultId) &&
  (c.event.all fun event => !db.events.contains event.eventId) &&
  (c.outbox.all fun entry => !db.outbox.contains entry.outboxId && db.outbox.values.all fun other =>
    other.idempotencyKey ≠ entry.idempotencyKey)

theorem fresh_iff (db : Database) (c : Changes) : db.fresh c = true ↔ db.Fresh c := by
  simp only [fresh, Bool.and_eq_true, Option.all_eq_true, Bool.not_eq_true', List.all_eq_true,
    Bool.or_eq_true, decide_eq_true_eq, Table.contains_eq_false]
  constructor
  · rintro ⟨⟨⟨h1, h2⟩, h3⟩, h4⟩
    exact ⟨h1, h2, h3, h4⟩
  · rintro ⟨h1, h2, h3, h4⟩
    exact ⟨⟨⟨h1, h2⟩, h3⟩, h4⟩

def apply (db : Database) (c : Changes) : Database where
  runs := (db.runs.putOption c.newRun).putOption c.run
  turns := db.turns.putOption c.turn
  plans := db.plans.putOption c.plan
  results := db.results.putOption c.result
  events := db.events.putOption c.event
  outbox := db.outbox.putOption c.outbox

/-- The flush and commit of a session; `none` is the `IntegrityError` of a
violated key. -/
def commit (c : Changes) (db : Database) : Option Database :=
  if db.fresh c then some (db.apply c) else none

theorem commit_eq_some {c : Changes} {db db' : Database} :
    commit c db = some db' ↔ db.Fresh c ∧ db' = db.apply c := by
  rw [← fresh_iff]
  unfold commit
  split
  · next h => simp [h, eq_comm]
  · next h => simp [h]

end Database

/-- mirrors app/repositories/turn_transactions.py:100-116 -/
def applyRun (row run : AgentRun) : AgentRun :=
  { row with
    status := run.status
    turnId := run.turnId
    delegated := run.delegated
    delegationKey := run.delegationKey
    stateVersion := run.stateVersion
    eventSequence := run.eventSequence
    deadlineAt := run.deadlineAt
    heartbeatAt := run.heartbeatAt
    terminalEventId := run.terminalEventId
    output := run.output
    error := run.error
    updatedAt := run.updatedAt }

/-- mirrors app/repositories/turn_transactions.py:203-211 -/
def applyTurn (row turn : CanonicalTurn) : CanonicalTurn :=
  { row with
    status := turn.status
    stateVersion := turn.stateVersion
    references := turn.references
    finalResponse := turn.finalResponse
    updatedAt := turn.updatedAt
    completedAt := turn.completedAt }

/-- mirrors app/repositories/delegated_runs.py:1313-1317 -/
def applyTurnRow (row turn : CanonicalTurn) : CanonicalTurn :=
  { row with
    status := turn.status
    stateVersion := turn.stateVersion
    references := turn.references
    updatedAt := turn.updatedAt }

/-- mirrors app/repositories/turn_transactions.py:172-200 (`_apply_plan`, after its checks) -/
def applyPlan (row : PlanModel) (plan : Plan) : PlanModel :=
  { row with
    status := plan.status
    currentStepId := plan.currentStepId
    stateVersion := plan.stateVersion
    originalQuery :=
      { executionPolicy := plan.executionPolicy
        nextAction := plan.nextAction
        lastEventId := plan.lastEventId
        stateVersion := some plan.stateVersion
        formationEventType := some plan.formationEventType }
    updatedAt := plan.updatedAt
    steps := plan.steps }

end OpenIntentRouter.Repositories
