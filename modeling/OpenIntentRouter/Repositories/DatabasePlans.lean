import OpenIntentRouter.Repositories.Database
import OpenIntentRouter.Repositories.MemoryPlans

/-!
# Execution claims of the database plan repository

`claim_step`, `save_claimed_step`, `save_if_version`, `renew_step_claim` and
`cancel_unstarted` as `Core.Prog`. An `UPDATE ... WHERE` is a lock of the row, the test of its
condition on the row as it then is, and a write at the commit; an `UPDATE` that
matches no row rolls back. `claim_step` computes attempt and key from its first
`SELECT` and tests only that the row has no live claim.

`grants` is a ghost: what `claim_step` has granted, last first.
-/
namespace OpenIntentRouter.Repositories.PlanDb

open Core Schemas

/-- A committed `claim_step`. `reclaims`: the row it overwrites holds an expired
claim of the same step with the same key. -/
structure Grant where
  planId : String
  stepId : String
  attempt : Nat
  key : String
  reclaims : Bool
  deriving DecidableEq

structure PlanTables where
  plans : Table PlanModel.planId
  grants : List Grant

/-- What `claim_step` computes from the row it has selected. -/
structure Decision where
  allowed : List PlanStepStatus
  recovering : Bool
  readAttempt : Nat
  attempt : Nat
  key : String
  metadata : PlanMetadata
  deriving DecidableEq

/-- The statement a worker stands at: `claimUpdates` is the `UPDATE` of `claim_step`. -/
inductive Site where
  | statement
  | claimUpdates (request : ClaimRequest) (decision : Decision)

inductive Reply where
  | plan (plan : Option Plan)
  | renewed (renewed : Bool)
  | cancel (transition : Option (Plan × PlanCancelOutcome))

def Reply.success : Reply → Bool
  | .plan found => found.isSome
  | .renewed done => done
  | .cancel outcome => outcome.any (·.2 = .cancelled)

abbrev PlanProg := Prog PlanTables Row Site (Except StoreError Reply)

def read (f : PlanTables → PlanProg) : PlanProg := .select .statement f

def ownedRow (d : PlanTables) (planId tenantId userId : String) : Option PlanModel :=
  (d.plans.get? planId).filter fun row => row.tenantId = tenantId && row.userId = userId

/-- mirrors app/repositories/database.py:594-616 -/
def get (planId tenantId userId : String) : PlanProg :=
  read fun d =>
  match ownedRow d planId tenantId userId with
  | none => .ret (.ok (.plan none))
  | some row =>
    read fun d =>
    match planFromRows row (((d.plans.get? planId).map (·.steps)).getD []) with
    | .ok plan => .ret (.ok (.plan (some plan)))
    | .error e => .ret (.error e)

/-- `expired` of a selected row. -/
def expired (row : PlanModel) (now : Instant) : Bool :=
  truthy row.executionClaimId && row.executionClaimExpiresAt.all (· ≤ now)

/-- mirrors app/repositories/database.py:737-760 (of `claim_step`) -/
def decideClaim (digest : String → String) (request : ClaimRequest) (row : PlanModel) : Decision :=
  let own := expired row request.now && row.executionClaimStepId = some request.stepId
  let recovering := own && truthy row.executionClaimKey
  let attempt := if recovering then row.executionAttempt else row.executionAttempt + 1
  { allowed := if own then [.pending, .blocked, .running] else [.pending, .blocked]
    recovering
    readAttempt := row.executionAttempt
    attempt
    key := if recovering then row.executionClaimKey.getD ""
      else executionKey digest request.planId request.stepId attempt
    metadata := { row.originalQuery with
      nextAction := none
      formationEventType := some "update" } }

/-- The `WHERE` of the `UPDATE` of the plan. -/
def unclaimed (request : ClaimRequest) (row : PlanModel) : Bool :=
  row.tenantId = request.tenantId && row.userId = request.userId && row.status.isActive &&
  (row.executionClaimId = none || row.executionClaimExpiresAt = none ||
    row.executionClaimExpiresAt.any (· ≤ request.now))

/-- The steps the `UPDATE` of the step matches. -/
def claimedSteps (request : ClaimRequest) (allowed : List PlanStepStatus) (steps : List PlanStep) :
    List PlanStep :=
  steps.filter fun step => step.stepId = request.stepId && step.status ∈ allowed

def claimedRow (request : ClaimRequest) (decision : Decision) (row : PlanModel) : PlanModel :=
  { row with
    status := .running
    currentStepId := some request.stepId
    stateVersion := row.stateVersion + 1
    originalQuery := decision.metadata
    updatedAt := request.now
    executionClaimId := some request.claimId
    executionClaimStepId := some request.stepId
    executionClaimStateVersion := some (row.stateVersion + 1)
    executionClaimKey := some decision.key
    executionAttempt := decision.attempt
    executionClaimExpiresAt := some request.leaseExpiresAt
    steps := row.steps.map fun step =>
      if step.stepId = request.stepId && step.status ∈ decision.allowed then
        { step with status := .running }
      else step }

def grantOf (request : ClaimRequest) (decision : Decision) (row : PlanModel) : Grant :=
  { planId := request.planId
    stepId := request.stepId
    attempt := decision.attempt
    key := decision.key
    reclaims := row.executionClaimId.isSome && row.executionClaimExpiresAt.all (· ≤ request.now) &&
      row.executionClaimStepId = some request.stepId && row.executionClaimKey = some decision.key }

/-- mirrors app/repositories/database.py:714-810 -/
def claimStep (digest : String → String) (request : ClaimRequest) : PlanProg :=
  let refused : PlanProg := .ret (.ok (.plan none))
  read fun d =>
  match (ownedRow d request.planId request.tenantId request.userId).filter (·.status.isActive) with
  | none => refused
  | some selected =>
    let decision := decideClaim digest request selected
    read fun d =>
    if claimedSteps request decision.allowed
        (((d.plans.get? request.planId).map (·.steps)).getD []) = [] then refused
    else
      .lock (.claimUpdates request decision) (.plan request.planId) fun d =>
      match (d.plans.get? request.planId).filter (unclaimed request) with
      | none => refused
      | some row =>
        .lock .statement (.step request.planId request.stepId) fun _ =>
        if (claimedSteps request decision.allowed row.steps).length ≠ 1 then refused
        else
          .commit
            (fun d => some
              { plans := d.plans.put (claimedRow request decision row)
                grants := grantOf request decision row :: d.grants })
            (get request.planId request.tenantId request.userId) refused

/-- The `UPDATE` of a plan row where `guard` holds, to `change` of it. -/
def updateRow (planId : String) (guard : PlanModel → Bool) (change : PlanModel → PlanModel)
    (done refused : PlanProg) : PlanProg :=
  .lock .statement (.plan planId) fun d =>
  match (d.plans.get? planId).filter guard with
  | none => refused
  | some row => .commit (fun d => some { d with plans := d.plans.put (change row) }) done refused

def savedMetadata (plan : Plan) : PlanMetadata :=
  { executionPolicy := plan.executionPolicy
    nextAction := plan.nextAction
    lastEventId := plan.lastEventId
    stateVersion := some plan.stateVersion
    formationEventType := some plan.formationEventType }

/-- mirrors app/repositories/database.py:843-860 (the values of `save_claimed_step`) -/
def finishedRow (plan : Plan) (row : PlanModel) : PlanModel :=
  { row with
    sessionId := plan.sessionId.getD ""
    status := plan.status
    currentStepId := plan.currentStepId
    stateVersion := plan.stateVersion
    originalQuery := savedMetadata plan
    updatedAt := plan.updatedAt
    executionClaimId := none
    executionClaimStepId := none
    executionClaimStateVersion := none
    executionClaimKey := none
    executionClaimExpiresAt := none
    steps := plan.steps }

/-- mirrors app/repositories/database.py:541-573 (the values of `save_if_version`) -/
def savedRow (plan : Plan) (row : PlanModel) : PlanModel :=
  if plan.status = .running then
    { finishedRow plan row with
      executionClaimId := row.executionClaimId
      executionClaimStepId := row.executionClaimStepId
      executionClaimStateVersion :=
        if row.executionClaimId.isSome then some plan.stateVersion else none
      executionClaimKey := row.executionClaimKey
      executionClaimExpiresAt := row.executionClaimExpiresAt }
  else finishedRow plan row

/-- mirrors app/repositories/database.py:672-694 (the values of `cancel_unstarted`) -/
def cancelledRow (now : Instant) (row : PlanModel) : PlanModel :=
  { row with
    status := .cancelled
    currentStepId := none
    stateVersion := row.stateVersion + 1
    originalQuery := { row.originalQuery with
      nextAction := none
      stateVersion := some (row.stateVersion + 1)
      formationEventType := some "cancel" }
    updatedAt := now
    executionClaimId := none
    executionClaimStepId := none
    executionClaimStateVersion := none
    executionClaimKey := none
    executionClaimExpiresAt := none
    steps := row.steps.map fun step =>
      if step.status = .pending || step.status = .blocked then { step with status := .cancelled }
      else step }

/-- The `WHERE` of `save_claimed_step`. -/
def claimedBy (plan : Plan) (stepId claimId : String) (row : PlanModel) : Bool :=
  row.tenantId = plan.tenantId && row.userId = plan.userId &&
  row.executionClaimId = some claimId && row.executionClaimStepId = some stepId &&
  row.executionClaimStateVersion.any (· + 1 = plan.stateVersion) &&
  row.stateVersion + 1 = plan.stateVersion

/-- The `WHERE` of `save_if_version`. -/
def atVersion (plan : Plan) (expectedVersion : Nat) (row : PlanModel) : Bool :=
  row.tenantId = plan.tenantId && row.userId = plan.userId && row.stateVersion = expectedVersion

/-- The `WHERE` of `renew_step_claim`. -/
def renewable (tenantId userId claimId : String) (now : Instant) (row : PlanModel) : Bool :=
  row.tenantId = tenantId && row.userId = userId &&
  row.executionClaimId = some claimId && row.executionClaimExpiresAt.any (now < ·)

/-- mirrors app/repositories/database.py:812-883 -/
def saveClaimedStep (plan : Plan) (stepId claimId : String) : PlanProg :=
  updateRow plan.planId (claimedBy plan stepId claimId) (finishedRow plan)
    (get plan.planId plan.tenantId plan.userId) (.ret (.ok (.plan none)))

/-- mirrors app/repositories/database.py:516-592 -/
def saveIfVersion (plan : Plan) (expectedVersion : Nat) : PlanProg :=
  updateRow plan.planId (atVersion plan expectedVersion) (savedRow plan)
    (.ret (.ok (.plan (some plan)))) (.ret (.ok (.plan none)))

/-- The row of a renewed claim; `stamp` is the `onupdate=func.now()` of `updated_at`, a
column the statement does not set.
mirrors app/repositories/database.py:948 and app/db/models.py:410-414 -/
def renewedRow (leaseExpiresAt stamp : Instant) (row : PlanModel) : PlanModel :=
  { row with
    executionClaimExpiresAt := some leaseExpiresAt
    updatedAt := stamp }

/-- mirrors app/repositories/database.py:927-951 -/
def renewStepClaim (planId tenantId userId claimId : String)
    (leaseExpiresAt now stamp : Instant) : PlanProg :=
  updateRow planId (renewable tenantId userId claimId now) (renewedRow leaseExpiresAt stamp)
    (.ret (.ok (.renewed true))) (.ret (.ok (.renewed false)))

/-- `activeRun`: one of the two queries finds an active delegated run of the plan.
mirrors app/repositories/database.py:618-695 (`cancel_unstarted`) -/
def cancelUnstarted (planId tenantId userId : String) (activeRun : Bool) (now : Instant) :
    PlanProg :=
  .lock .statement (.plan planId) fun d =>
  match ownedRow d planId tenantId userId with
  | none => .ret (.ok (.cancel none))
  | some row =>
    match planFromRows row row.steps with
    | .error e => .ret (.error e)
    | .ok plan =>
      if plan.status = .cancelled then .ret (.ok (.cancel (some (plan, .alreadyCancelled))))
      else if plan.status = .completed || plan.status = .failed then
        .ret (.ok (.cancel (some (plan, .terminalConflict))))
      else if activeRun || plan.steps.any (·.status = .running) then
        .ret (.ok (.cancel (some (plan, .controlUnsupported))))
      else
        match planFromRows (cancelledRow now row) (cancelledRow now row).steps with
        | .error e => .ret (.error e)
        | .ok cancelled =>
          .commit (fun d => some { d with plans := d.plans.put (cancelledRow now row) })
            (.ret (.ok (.cancel (some (cancelled, .cancelled))))) (.ret (.error .integrityError))

inductive Call where
  | claimStep (request : ClaimRequest)
  | saveClaimedStep (plan : Plan) (stepId claimId : String)
  | saveIfVersion (plan : Plan) (expectedVersion : Nat)
  | renewStepClaim (planId tenantId userId claimId : String) (leaseExpiresAt now stamp : Instant)
  | cancelUnstarted (planId tenantId userId : String) (activeRun : Bool) (now : Instant)

def prog (digest : String → String) : Call → PlanProg
  | .claimStep request => claimStep digest request
  | .saveClaimedStep plan stepId claimId => saveClaimedStep plan stepId claimId
  | .saveIfVersion plan expectedVersion => saveIfVersion plan expectedVersion
  | .renewStepClaim planId tenantId userId claimId leaseExpiresAt now stamp =>
    renewStepClaim planId tenantId userId claimId leaseExpiresAt now stamp
  | .cancelUnstarted planId tenantId userId activeRun now =>
    cancelUnstarted planId tenantId userId activeRun now

/-! ## Calls that run alone -/

section Alone

variable {digest : String → String} {d : PlanTables} {row : PlanModel}

theorem updateRow_run {planId : String} {guard : PlanModel → Bool}
    {change : PlanModel → PlanModel} {done refused : PlanProg} :
    (updateRow planId guard change done refused).run d =
      match (d.plans.get? planId).filter guard with
      | none => refused.run d
      | some row => done.run { d with plans := d.plans.put (change row) } := by
  simp only [updateRow, Prog.run_lock]
  cases (d.plans.get? planId).filter guard with
  | none => rfl
  | some row => simp only [Prog.run_commit]

/-- The claim tests its row and its step, and then reads back what it has written. -/
theorem claimStep_run {request : ClaimRequest} (hget : d.plans.get? request.planId = some row) :
    (claimStep digest request).run d =
      if unclaimed request row = true ∧
          (claimedSteps request (decideClaim digest request row).allowed row.steps).length = 1 then
        (get request.planId request.tenantId request.userId).run
          { plans := d.plans.put (claimedRow request (decideClaim digest request row) row)
            grants := grantOf request (decideClaim digest request row) row :: d.grants }
      else (.ok (.plan none), d) := by
  have hread : ((d.plans.get? request.planId).map (·.steps)).getD [] = row.steps := by
    rw [hget]
    rfl
  by_cases hselect : (row.tenantId = request.tenantId ∧ row.userId = request.userId) ∧
      row.status.isActive = true
  · have hselected : (ownedRow d request.planId request.tenantId request.userId).filter
        (·.status.isActive) = some row := by
      simp [ownedRow, hget, hselect]
    simp only [claimStep, read, Prog.run_select, hselected, hread]
    by_cases hnil : claimedSteps request (decideClaim digest request row).allowed row.steps = []
    · simp only [hnil, if_true, List.length_nil, Nat.zero_ne_one, and_false, if_false, Prog.run_ret]
    · simp only [hnil, if_false, Prog.run_lock]
      by_cases hfree : unclaimed request row = true
      · have hfound : (d.plans.get? request.planId).filter (unclaimed request) = some row := by
          rw [hget, Option.filter_some, if_pos hfree]
        simp only [hfound, Prog.run_lock, hfree, true_and]
        by_cases hone : (claimedSteps request (decideClaim digest request row).allowed
            row.steps).length = 1
        · simp only [hone, ne_eq, not_true_eq_false, if_false, if_true, Prog.run_commit]
        · simp only [hone, ne_eq, not_false_eq_true, if_true, if_false, Prog.run_ret]
      · have hfound : (d.plans.get? request.planId).filter (unclaimed request) = none := by
          rw [hget, Option.filter_some, if_neg hfree]
        simp only [hfound, hfree, Bool.false_eq_true, false_and, if_false, Prog.run_ret]
  · have hselected : (ownedRow d request.planId request.tenantId request.userId).filter
        (·.status.isActive) = none := by
      simpa [ownedRow, hget, Option.filter_filter, and_comm, and_assoc] using hselect
    have hfree : unclaimed request row ≠ true := by
      intro hfree
      simp only [unclaimed, Bool.and_eq_true, decide_eq_true_eq] at hfree
      exact hselect hfree.1
    simp only [claimStep, read, Prog.run_select, hselected, Prog.run_ret, hfree, Bool.false_eq_true,
      false_and, if_false]

end Alone

end OpenIntentRouter.Repositories.PlanDb
