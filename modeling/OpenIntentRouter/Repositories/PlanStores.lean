import OpenIntentRouter.Repositories.DatabasePlans

/-!
# The two plan repositories as stores

All calls on plans, one after the other, on the in-memory and on the database
repository. The claims and the step updates are those of `MemoryPlans` and
`DatabasePlans`; here are `save`, `get_execution_claim_key` and
`mark_formation_published`, and what a suppressed formation notes.
`published` is the dictionary, and the column, `formation_published_version`.
-/
namespace OpenIntentRouter.Repositories.PlanStores

open Core Schemas

/-! ## Calls -/

/-- `formationSuppressed` of a save notes its version as published. -/
inductive Call where
  | save (plan : Plan) (formationSuppressed : Bool)
  | saveIfVersion (plan : Plan) (expectedVersion : Nat) (formationSuppressed : Bool)
  | claimStep (request : ClaimRequest)
  | renewStepClaim (planId tenantId userId claimId : String) (leaseExpiresAt now : Instant)
  | saveClaimedStep (plan : Plan) (stepId claimId : String) (formationSuppressed : Bool)
  | cancelUnstarted (planId tenantId userId : String) (activeRun : Bool)
  | getExecutionClaimKey (planId claimId : String)
  | markFormationPublished (planId : String) (stateVersion : Nat)

inductive Reply where
  | plan (plan : Option Plan)
  | renewed (renewed : Bool)
  | cancel (transition : Option (Plan × PlanCancelOutcome))
  | key (key : Option String)
  | marked
  deriving DecidableEq

/-- `max(state_version, published.get(plan_id, 0))` of `mark_formation_published`, for a plan
that is there. -/
def markPublished (published : Dict String Nat) (planId : String) (stateVersion : Nat) :
    Dict String Nat :=
  published.set planId (max stateVersion ((published.get? planId).getD 0))

def noteSuppressed (formationSuppressed : Bool) (plan : Plan) (published : Dict String Nat) :
    Dict String Nat :=
  if formationSuppressed then published.set plan.planId plan.stateVersion else published

/-! ## In memory -/

structure MemoryPlanStore extends MemoryPlanRepository where
  published : Dict String Nat
  deriving DecidableEq

/-- mirrors app/repositories/memory.py:558-560 (`get_execution_claim_key`) -/
def memoryClaimKey (repo : MemoryPlanRepository) (planId claimId : String) : Option String :=
  ((repo.executionClaims.get? planId).filter (·.claimId = claimId)).map (·.executionKey)

/-- A call on the in-memory repository; `clock` is what it reads for `datetime.now`.
mirrors app/repositories/memory.py:305-592 -/
def memoryStep (digest : String → String) (s : MemoryPlanStore) :
    Instant × Call → Except StoreError Reply × MemoryPlanStore
  | (_, .save plan formationSuppressed) =>
    match s.toMemoryPlanRepository.save plan with
    | .error e => (.error e, s)
    | .ok repo =>
      (.ok (.plan (some plan)),
        { toMemoryPlanRepository := repo
          published := noteSuppressed formationSuppressed plan s.published })
  | (_, .saveIfVersion plan expectedVersion formationSuppressed) =>
    match s.toMemoryPlanRepository.saveIfVersion plan expectedVersion with
    | none => (.ok (.plan none), s)
    | some repo =>
      (.ok (.plan (some plan)),
        { toMemoryPlanRepository := repo
          published := noteSuppressed formationSuppressed plan s.published })
  | (_, .claimStep request) =>
    match s.toMemoryPlanRepository.claimStep digest request with
    | none => (.ok (.plan none), s)
    | some (repo, plan) =>
      (.ok (.plan (some plan)), { s with toMemoryPlanRepository := repo })
  | (_, .renewStepClaim planId tenantId userId claimId leaseExpiresAt now) =>
    match s.toMemoryPlanRepository.renewStepClaim planId tenantId userId claimId leaseExpiresAt
        now with
    | none => (.ok (.renewed false), s)
    | some repo => (.ok (.renewed true), { s with toMemoryPlanRepository := repo })
  | (clock, .saveClaimedStep plan stepId claimId formationSuppressed) =>
    match s.toMemoryPlanRepository.saveClaimedStep plan stepId claimId clock with
    | none => (.ok (.plan none), s)
    | some (repo, stored) =>
      (.ok (.plan (some stored)),
        { toMemoryPlanRepository := repo
          published := noteSuppressed formationSuppressed plan s.published })
  | (clock, .cancelUnstarted planId tenantId userId activeRun) =>
    let (reply, repo) :=
      s.toMemoryPlanRepository.cancelUnstarted planId tenantId userId activeRun clock
    (.ok (.cancel reply), { s with toMemoryPlanRepository := repo })
  | (_, .getExecutionClaimKey planId claimId) =>
    (.ok (.key (memoryClaimKey s.toMemoryPlanRepository planId claimId)), s)
  | (_, .markFormationPublished planId stateVersion) =>
    (.ok .marked,
      if s.plans.contains planId then
        { s with published := markPublished s.published planId stateVersion }
      else s)

/-! ## In the database -/

structure PlanDatabase extends PlanDb.PlanTables where
  published : Dict String Nat

/-- The row `save` inserts. -/
def newRow (plan : Plan) : PlanModel :=
  { planId := plan.planId
    userId := plan.userId
    tenantId := plan.tenantId
    sessionId := plan.sessionId.getD ""
    status := plan.status
    currentStepId := plan.currentStepId
    stateVersion := plan.stateVersion
    executionClaimId := none
    executionClaimStepId := none
    executionClaimStateVersion := none
    executionClaimKey := none
    executionAttempt := 0
    executionClaimExpiresAt := none
    originalQuery := PlanDb.savedMetadata plan
    updatedAt := plan.updatedAt
    steps := plan.steps }

/-- The row `save` changes: only a terminal plan loses its claim columns, which
otherwise stay as they are. -/
def overwrittenRow (plan : Plan) (row : PlanModel) : PlanModel :=
  if plan.status = .completed || plan.status = .failed || plan.status = .cancelled then
    PlanDb.finishedRow plan row
  else
    { PlanDb.finishedRow plan row with
      executionClaimId := row.executionClaimId
      executionClaimStepId := row.executionClaimStepId
      executionClaimStateVersion := row.executionClaimStateVersion
      executionClaimKey := row.executionClaimKey
      executionClaimExpiresAt := row.executionClaimExpiresAt }

/-- mirrors app/repositories/database.py:461-514 (`save`) -/
def databaseSave (d : PlanDb.PlanTables) (plan : Plan) : Except StoreError PlanDb.PlanTables :=
  match d.plans.get? plan.planId with
  | none => .ok { d with plans := d.plans.put (newRow plan) }
  | some row =>
    if row.tenantId ≠ plan.tenantId || row.userId ≠ plan.userId then
      .error (.valueError "Plan ownership cannot be changed")
    else .ok { d with plans := d.plans.put (overwrittenRow plan row) }

/-- mirrors app/repositories/database.py:918-925 (`get_execution_claim_key`) -/
def databaseClaimKey (d : PlanDb.PlanTables) (planId claimId : String) : Option String :=
  ((d.plans.get? planId).filter (·.executionClaimId = some claimId)).bind (·.executionClaimKey)

/-- The row is restamped: `updated_at` has `onupdate=func.now()`.
mirrors app/repositories/database.py:906-916 (`mark_formation_published`) -/
def databaseMark (s : PlanDatabase) (planId : String) (stateVersion : Nat) (clock : Instant) :
    PlanDatabase :=
  match s.plans.get? planId with
  | none => s
  | some row =>
    if (s.published.get? planId).getD 0 < stateVersion then
      { s with
        plans := s.plans.put { row with updatedAt := clock }
        published := s.published.set planId stateVersion }
    else s

def replyOf : PlanDb.Reply → Reply
  | .plan plan => .plan plan
  | .renewed renewed => .renewed renewed
  | .cancel transition => .cancel transition

/-- A call of `PlanDb` alone. -/
def runAlone (digest : String → String) (s : PlanDatabase) (call : PlanDb.Call) :
    Except StoreError Reply × PlanDatabase :=
  let (reply, tables) := (PlanDb.prog digest call).run s.toPlanTables
  (reply.map replyOf, { s with toPlanTables := tables })

/-- A save whose row passes `guard` notes what it suppresses. -/
def noted (guard : PlanModel → Bool) (formationSuppressed : Bool) (plan : Plan) (s : PlanDatabase) :
    Dict String Nat :=
  if (s.plans.get? plan.planId).any guard then noteSuppressed formationSuppressed plan s.published
  else s.published

/-- A call on the database repository; `clock` is what it reads for `datetime.now` and
`func.now`.
mirrors app/repositories/database.py:457-951 -/
def databaseStep (digest : String → String) (s : PlanDatabase) :
    Instant × Call → Except StoreError Reply × PlanDatabase
  | (_, .save plan formationSuppressed) =>
    match databaseSave s.toPlanTables plan with
    | .error e => (.error e, s)
    | .ok tables =>
      (.ok (.plan (some plan)),
        { toPlanTables := tables
          published := noteSuppressed formationSuppressed plan s.published })
  | (_, .saveIfVersion plan expectedVersion formationSuppressed) =>
    let published := noted (PlanDb.atVersion plan expectedVersion) formationSuppressed plan s
    runAlone digest { s with published } (.saveIfVersion plan expectedVersion)
  | (_, .claimStep request) => runAlone digest s (.claimStep request)
  | (clock, .renewStepClaim planId tenantId userId claimId leaseExpiresAt now) =>
    runAlone digest s (.renewStepClaim planId tenantId userId claimId leaseExpiresAt now clock)
  | (_, .saveClaimedStep plan stepId claimId formationSuppressed) =>
    let published := noted (PlanDb.claimedBy plan stepId claimId) formationSuppressed plan s
    runAlone digest { s with published } (.saveClaimedStep plan stepId claimId)
  | (clock, .cancelUnstarted planId tenantId userId activeRun) =>
    runAlone digest s (.cancelUnstarted planId tenantId userId activeRun clock)
  | (_, .getExecutionClaimKey planId claimId) =>
    (.ok (.key (databaseClaimKey s.toPlanTables planId claimId)), s)
  | (clock, .markFormationPublished planId stateVersion) =>
    (.ok .marked, databaseMark s planId stateVersion clock)

/-! ## What a store shows -/

def claimColumns (row : PlanModel) : Option ExecutionClaim :=
  match row.executionClaimStepId, row.executionClaimId, row.executionClaimExpiresAt,
    row.executionClaimStateVersion, row.executionClaimKey with
  | some stepId, some claimId, some leaseExpiresAt, some stateVersion, some executionKey =>
    some { stepId, claimId, leaseExpiresAt, stateVersion, executionKey
           attempt := row.executionAttempt }
  | _, _, _, _, _ => none

/-- The execution claim of a plan: step, holder, lease, claimed version, key and attempt. -/
def databaseClaim (d : PlanDb.PlanTables) (planId : String) : Option ExecutionClaim :=
  (d.plans.get? planId).bind claimColumns

/-- `get` of the database repository. -/
def databaseGet (d : PlanDb.PlanTables) (planId tenantId userId : String) :
    Except StoreError Reply := (((PlanDb.get planId tenantId userId).run d).1).map replyOf

def unstamped (plan : Plan) : Plan := { plan with updatedAt := 0 }

def Reply.unstamped : Reply → Reply
  | .plan found => .plan (found.map PlanStores.unstamped)
  | .cancel transition =>
    .cancel (transition.map fun (stored, outcome) => (PlanStores.unstamped stored, outcome))
  | reply => reply

/-- The same reply, as far as `exact` with the time of the last update. -/
def SameReply (exact : Prop) (a b : Except StoreError Reply) : Prop :=
  a.map Reply.unstamped = b.map Reply.unstamped ∧ (exact → a = b)

theorem SameReply.refl (exact : Prop) (a : Except StoreError Reply) : SameReply exact a a :=
  ⟨rfl, fun _ => rfl⟩

structure ShowSame (exact : Prop) (s : MemoryPlanStore) (t : PlanDatabase) : Prop where
  plans : ∀ planId tenantId userId, SameReply exact (.ok (.plan (s.get planId tenantId userId)))
    (databaseGet t.toPlanTables planId tenantId userId)
  claims : ∀ planId, databaseClaim t.toPlanTables planId = s.executionClaims.get? planId

end OpenIntentRouter.Repositories.PlanStores
