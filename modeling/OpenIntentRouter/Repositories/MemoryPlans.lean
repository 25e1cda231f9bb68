import OpenIntentRouter.Repositories.Memory

/-!
# Execution claims of the in-memory plan repository

A claim names the step it was granted for, its holder and its lease; it lives
beside the plan and is dropped by every save of a plan that does not run.

* `claimStep_eq_some`: what a granted claim found and what it writes;
* `saveClaimedStep_eq_some`, `renewStepClaim_eq_some`, `cancelUnstarted_snd`.
-/
namespace OpenIntentRouter.Repositories

open Core Schemas

/-- `next(item for item in plan.steps if item.step_id == step_id)`. -/
def findStep (steps : List PlanStep) (stepId : String) : Option PlanStep :=
  steps.find? (·.stepId = stepId)

/-- `"\x1f".join((plan_id, step_id, str(attempt)))`. -/
def executionIdentity (planId stepId : String) (attempt : Nat) : String :=
  planId ++ "\x1f" ++ stepId ++ "\x1f" ++ toString attempt

/-- `digest` is `hashlib.sha256(...).hexdigest()`.
mirrors app/repositories/memory.py:613-615 and app/repositories/database.py:1334-1336
(`_execution_key`) -/
def executionKey (digest : String → String) (planId stepId : String) (attempt : Nat) : String :=
  "plan_exec_" ++ String.ofList ((digest (executionIdentity planId stepId attempt)).toList.take 32)

def sampleDigest (identity : String) : String :=
  if identity = executionIdentity "plan" "one" 1 then
    "bf49d2c403d90bdba4c7300c668ec63e5ae654ff87191ceff53b65fc60f7c59f"
  else if identity = executionIdentity "plan" "two" 2 then
    "85d2f11fb43c2f67172e3f199c82cb16efe2118b73f603099f8305644bcb196c"
  else if identity = executionIdentity "plan" "two" 1 then
    "6d93d822860d5c2fbf45a0f205d25a534491298ff08f9df880a51e96a9920157"
  else ""

/-- The arguments of `claim_step`. -/
structure ClaimRequest where
  planId : String
  stepId : String
  tenantId : String
  userId : String
  claimId : String
  leaseExpiresAt : Instant
  now : Instant
  deriving DecidableEq

def setStatus (status : PlanStepStatus) (stepId : String) (steps : List PlanStep) : List PlanStep :=
  steps.map fun step => if step.stepId = stepId then { step with status } else step

def claimedPlan (request : ClaimRequest) (plan : Plan) : Plan :=
  { plan with
    steps := setStatus .running request.stepId plan.steps
    currentStepId := some request.stepId
    status := .running
    nextAction := none
    stateVersion := plan.stateVersion + 1
    updatedAt := request.now
    formationEventType := "update" }

/-- `plan` is there and belongs to the caller. -/
def ownedBy (tenantId userId : String) (plan : Plan) : Bool :=
  plan.tenantId = tenantId && plan.userId = userId

/-- mirrors app/repositories/interfaces.py:25-32 (`PlanCancelTransition.outcome`) -/
inductive PlanCancelOutcome where
  | alreadyCancelled | terminalConflict | controlUnsupported | cancelled
  deriving DecidableEq

namespace MemoryPlanRepository

/-- mirrors app/repositories/memory.py:398-427 -/
def saveIfVersion (repo : MemoryPlanRepository) (plan : Plan) (expectedVersion : Nat) :
    Option MemoryPlanRepository :=
  match repo.plans.get? plan.planId with
  | none => none
  | some existing =>
    if !ownedBy plan.tenantId plan.userId existing || existing.stateVersion ≠ expectedVersion then
      none
    else some (repo.store plan)

def ownExpired (repo : MemoryPlanRepository) (request : ClaimRequest) : Option ExecutionClaim :=
  (repo.executionClaims.get? request.planId).filter fun claim =>
    claim.leaseExpiresAt ≤ request.now && claim.stepId = request.stepId

/-- The claim a granted request stores: it keeps key and attempt of an expired
claim of the same step. -/
def newClaim (digest : String → String) (repo : MemoryPlanRepository) (request : ClaimRequest)
    (plan : Plan) : ExecutionClaim :=
  let recovering := (repo.ownExpired request).filter (·.executionKey ≠ "")
  let attempt := match recovering with
    | some claim => claim.attempt
    | none => (repo.executionAttempts.get? request.planId).getD 0 + 1
  { stepId := request.stepId
    claimId := request.claimId
    leaseExpiresAt := request.leaseExpiresAt
    stateVersion := plan.stateVersion + 1
    executionKey := match recovering with
      | some claim => claim.executionKey
      | none => executionKey digest request.planId request.stepId attempt
    attempt }

/-- The repository and plan of a granted request.
mirrors app/repositories/memory.py:443-515 -/
def claimStep (digest : String → String) (repo : MemoryPlanRepository) (request : ClaimRequest) :
    Option (MemoryPlanRepository × Plan) :=
  match repo.plans.get? request.planId with
  | none => none
  | some plan =>
    if !ownedBy request.tenantId request.userId plan || !plan.status.isActive then none
    else if (repo.executionClaims.get? request.planId).any (request.now < ·.leaseExpiresAt) then
      none
    else
      match findStep plan.steps request.stepId with
      | none => none
      | some step =>
        if step.status = .pending || step.status = .blocked ||
            ((repo.ownExpired request).isSome && step.status = .running) then
          let claimed := claimedPlan request plan
          let claim := newClaim digest repo request plan
          some
            ({ plans := repo.plans.put claimed
               executionClaims := repo.executionClaims.set request.planId claim
               executionAttempts := repo.executionAttempts.set request.planId claim.attempt },
              claimed)
        else none

/-- mirrors app/repositories/memory.py:517-541 -/
def saveClaimedStep (repo : MemoryPlanRepository) (plan : Plan) (stepId claimId : String)
    (now : Instant) : Option (MemoryPlanRepository × Plan) :=
  match repo.executionClaims.get? plan.planId with
  | none => none
  | some claim =>
    if claim.stepId ≠ stepId || claim.claimId ≠ claimId then none
    else
      match repo.plans.get? plan.planId with
      | none => none
      | some existing =>
        if !ownedBy plan.tenantId plan.userId existing ||
            existing.stateVersion ≠ claim.stateVersion ||
            plan.stateVersion ≠ claim.stateVersion + 1 then
          none
        else
          let stored := { plan with updatedAt := now }
          some
            ({ repo with
               plans := repo.plans.put stored
               executionClaims := repo.executionClaims.erase plan.planId }, stored)

/-- `none` is the refusal `False`.
mirrors app/repositories/memory.py:562-592 (`renew_step_claim`) -/
def renewStepClaim (repo : MemoryPlanRepository)
    (planId tenantId userId claimId : String) (leaseExpiresAt now : Instant) :
    Option MemoryPlanRepository :=
  match repo.plans.get? planId, repo.executionClaims.get? planId with
  | some plan, some claim =>
    if !ownedBy tenantId userId plan || claim.claimId ≠ claimId || claim.leaseExpiresAt ≤ now then
      none
    else
      some { repo with
        executionClaims := repo.executionClaims.set planId { claim with leaseExpiresAt } }
  | _, _ => none

def cancelledUnstarted (now : Instant) (plan : Plan) : Plan :=
  { plan with
    status := .cancelled
    steps := plan.steps.map fun step =>
      if step.status = .pending || step.status = .blocked then { step with status := .cancelled }
      else step
    currentStepId := none
    nextAction := none
    stateVersion := plan.stateVersion + 1
    updatedAt := now
    formationEventType := "cancel" }

/-- `activeRun`: the run repository finds an active delegated run of the plan.
mirrors app/repositories/memory.py:347-396 (`cancel_unstarted`) -/
def cancelUnstarted (repo : MemoryPlanRepository) (planId tenantId userId : String)
    (activeRun : Bool) (now : Instant) :
    Option (Plan × PlanCancelOutcome) × MemoryPlanRepository :=
  match repo.plans.get? planId with
  | none => (none, repo)
  | some plan =>
    if !ownedBy tenantId userId plan then (none, repo)
    else if plan.status = .cancelled then (some (plan, .alreadyCancelled), repo)
    else if plan.status = .completed || plan.status = .failed then
      (some (plan, .terminalConflict), repo)
    else if activeRun || plan.steps.any (·.status = .running) then
      (some (plan, .controlUnsupported), repo)
    else
      let updated := cancelledUnstarted now plan
      (some (updated, .cancelled),
        { repo with
          plans := repo.plans.put updated
          executionClaims := repo.executionClaims.erase planId })

/-! ## What the calls do -/

structure Claimable (repo : MemoryPlanRepository) (request : ClaimRequest) (plan : Plan)
    (step : PlanStep) : Prop where
  get : repo.plans.get? request.planId = some plan
  owned : ownedBy request.tenantId request.userId plan = true
  active : plan.status.isActive = true
  expired : ∀ claim, repo.executionClaims.get? request.planId = some claim →
    claim.leaseExpiresAt ≤ request.now
  find : findStep plan.steps request.stepId = some step
  status : step.status = .pending ∨ step.status = .blocked ∨
    ((repo.ownExpired request).isSome = true ∧ step.status = .running)

theorem claimStep_eq_some {digest : String → String} {repo : MemoryPlanRepository}
    {request : ClaimRequest} {out : MemoryPlanRepository × Plan} :
    repo.claimStep digest request = some out ↔ ∃ plan step, Claimable repo request plan step ∧
      out = ({ plans := repo.plans.put (claimedPlan request plan)
               executionClaims :=
                 repo.executionClaims.set request.planId (newClaim digest repo request plan)
               executionAttempts := repo.executionAttempts.set request.planId
                 (newClaim digest repo request plan).attempt }, claimedPlan request plan) := by
  constructor
  · intro h
    unfold claimStep at h
    split at h
    · cases h
    · next plan hp =>
      split at h
      · cases h
      · next ho =>
        split at h
        · cases h
        · next he =>
          split at h
          · cases h
          · next step hf =>
            split at h
            · next hs =>
              simp only [Bool.or_eq_true, Bool.not_eq_true', not_or, Bool.not_eq_false] at ho
              simp only [Option.any_eq_true, decide_eq_true_eq, not_exists, not_and,
                Int.not_lt] at he
              cases h
              refine ⟨plan, step, ⟨hp, ho.1, ho.2, he, hf, ?_⟩, rfl⟩
              simpa [or_assoc] using hs
            · cases h
  · rintro ⟨plan, step, ⟨hp, ho, ha, he, hf, hs⟩, rfl⟩
    have hany : (repo.executionClaims.get? request.planId).any (request.now < ·.leaseExpiresAt) =
        false := by
      rw [Option.any_eq_false]
      intro claim hc
      simpa using he claim hc
    have hstatus : (step.status = .pending || step.status = .blocked ||
        ((repo.ownExpired request).isSome && step.status = .running)) = true := by
      simpa [or_assoc] using hs
    simp only [claimStep, hp, ho, ha, hany, hf, hstatus, Bool.not_true, Bool.or_self,
      Bool.false_eq_true, if_false, if_true]

structure Savable (repo : MemoryPlanRepository) (plan : Plan) (stepId claimId : String)
    (claim : ExecutionClaim) (existing : Plan) : Prop where
  held : repo.executionClaims.get? plan.planId = some claim
  step : claim.stepId = stepId
  holder : claim.claimId = claimId
  get : repo.plans.get? plan.planId = some existing
  owned : ownedBy plan.tenantId plan.userId existing = true
  current : existing.stateVersion = claim.stateVersion
  version : plan.stateVersion = claim.stateVersion + 1

theorem saveClaimedStep_eq_some {repo : MemoryPlanRepository} {plan : Plan}
    {stepId claimId : String} {now : Instant} {out : MemoryPlanRepository × Plan} :
    repo.saveClaimedStep plan stepId claimId now = some out ↔
      ∃ claim existing, Savable repo plan stepId claimId claim existing ∧
        out = ({ repo with
          plans := repo.plans.put { plan with updatedAt := now }
          executionClaims := repo.executionClaims.erase plan.planId },
          { plan with updatedAt := now }) := by
  constructor
  · intro h
    unfold saveClaimedStep at h
    split at h
    · cases h
    · next claim hc =>
      split at h
      · cases h
      · next hs =>
        split at h
        · cases h
        · next existing hp =>
          split at h
          · cases h
          · next hv =>
            simp only [ne_eq, Bool.or_eq_true, Bool.not_eq_true', decide_eq_true_eq, not_or,
              not_not, Bool.not_eq_false] at hs hv
            cases h
            exact ⟨claim, existing, ⟨hc, hs.1, hs.2, hp, hv.1.1, hv.1.2, hv.2⟩, rfl⟩
  · rintro ⟨claim, existing, ⟨hc, hs, hh, hp, ho, he, hv⟩, rfl⟩
    simp [saveClaimedStep, hc, hs, hh, hp, ho, he, hv]

theorem renewStepClaim_eq_some {repo out : MemoryPlanRepository}
    {planId tenantId userId claimId : String} {leaseExpiresAt now : Instant}
    (h : repo.renewStepClaim planId tenantId userId claimId leaseExpiresAt now = some out) :
    ∃ claim, repo.executionClaims.get? planId = some claim ∧
      out = { repo with
        executionClaims := repo.executionClaims.set planId { claim with leaseExpiresAt } } := by
  unfold renewStepClaim at h
  split at h
  · next plan claim hp hc =>
    split at h
    · cases h
    · cases h
      exact ⟨claim, hc, rfl⟩
  · cases h

/-- A cancellation that changes the repository finds no running step. -/
theorem cancelUnstarted_snd {repo : MemoryPlanRepository} {planId tenantId userId : String}
    {activeRun : Bool} {now : Instant} :
    (repo.cancelUnstarted planId tenantId userId activeRun now).2 = repo ∨
      ∃ plan, repo.plans.get? planId = some plan ∧
        plan.steps.any (·.status = .running) = false ∧
        (repo.cancelUnstarted planId tenantId userId activeRun now).2 =
          { repo with
            plans := repo.plans.put (cancelledUnstarted now plan)
            executionClaims := repo.executionClaims.erase planId } := by
  unfold cancelUnstarted
  split
  · exact .inl rfl
  · next plan hp =>
    split
    · exact .inl rfl
    · split
      · exact .inl rfl
      · split
        · exact .inl rfl
        · split
          · exact .inl rfl
          · next hr =>
            simp only [Bool.or_eq_true, not_or, Bool.not_eq_true] at hr
            exact .inr ⟨plan, hp, hr.2, rfl⟩

theorem saveIfVersion_eq_some {repo out : MemoryPlanRepository} {plan : Plan} {version : Nat}
    (h : repo.saveIfVersion plan version = some out) : out = repo.store plan := by
  unfold saveIfVersion at h
  split at h
  · cases h
  · split at h
    · cases h
    · cases h
      rfl

end MemoryPlanRepository

end OpenIntentRouter.Repositories
