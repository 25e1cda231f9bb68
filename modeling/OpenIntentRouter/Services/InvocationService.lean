import OpenIntentRouter.Repositories.PlanStores
import OpenIntentRouter.Services.PlanService

/-!
# Invocations of plan steps

The plan part of `InvocationService._with_agent_context`: an invocation that
names a plan reads it, takes the plan's current step, and claims that step; what
else happens to the plan in between is not locked out. Then the whole of
`_invoke_definition` for such an invocation. What it awaits besides the plans is
what its collaborators do (`Collaborators`); publishing and the capture of the turn
raise nothing. Every call of the plan repository is a step of its own (`Point.next`), those
of the three attempts of `finish_claimed_step` included.

* `selectStep_ok`, `claimSelected_ok`: what an invocation has read, and what its
  claim has found.
-/
namespace OpenIntentRouter.Services.InvocationService

open Core Core.Except Schemas Repositories

/-- What is read of an invocation whose context names a plan; `agentId` is that of the
definition. -/
structure PlanInvocation where
  planId : String
  tenantId : Option String
  userId : String
  agentId : String
  deriving DecidableEq

structure SelectedStep where
  planId : String
  stepId : String
  tenantId : String
  userId : String
  deriving DecidableEq

structure PlanContext where
  planId : String
  stepId : String
  planStatus : PlanStatus
  planExecutionClaimId : String
  planExecutionIdempotencyKey : String
  deriving DecidableEq

/-- mirrors app/services/invocation_service.py:629-632 -/
def currentPlanStep (plan : Plan) : Option PlanStep :=
  if truthy plan.currentStepId then
    plan.steps.find? fun step => some step.stepId = plan.currentStepId
  else none

/-- mirrors app/services/invocation_service.py:410-422 (`_with_agent_context`) -/
def selectStep (repo : MemoryPlanRepository) (invocation : PlanInvocation) :
    Except StoreError SelectedStep :=
  if !truthy invocation.tenantId then
    .error (.invocationError "Plan execution requires trusted ownership")
  else
    match (repo.get invocation.planId (invocation.tenantId.getD "") invocation.userId).filter
        (·.status.isActive) with
    | none => .error (.invocationError "Plan is not active")
    | some candidate =>
      match (currentPlanStep candidate).filter (·.agentId = invocation.agentId) with
      | none => .error (.invocationError "Agent does not match the canonical Plan step")
      | some step => .ok ⟨candidate.planId, step.stepId, candidate.tenantId, candidate.userId⟩

/-- The request of `PlanService.claim_step`; the claim id is a fresh one and the lease is counted
from `now`.
mirrors app/services/plan_service.py:95-118 -/
def claimRequest (selected : SelectedStep) (claimId : String) (leaseExpiresAt now : Instant) :
    ClaimRequest :=
  { planId := selected.planId
    stepId := selected.stepId
    tenantId := selected.tenantId
    userId := selected.userId
    claimId, leaseExpiresAt, now }

/-- mirrors app/services/invocation_service.py:423-450 (`_with_agent_context`) -/
def claimSelected (digest : String → String) (repo : MemoryPlanRepository) (selected : SelectedStep)
    (claimId : String) (leaseExpiresAt now : Instant) :
    Except StoreError (MemoryPlanRepository × PlanContext) :=
  match repo.claimStep digest (claimRequest selected claimId leaseExpiresAt now) with
  | none => .error (.invocationError "Plan step is already executing")
  | some (repo, activePlan) =>
    match PlanStores.memoryClaimKey repo activePlan.planId claimId with
    | none => .error (.invocationError "Plan execution claim is unavailable")
    | some executionKey =>
      .ok (repo, ⟨activePlan.planId, selected.stepId, activePlan.status, claimId, executionKey⟩)

/-! ## The invocation -/

/-- mirrors app/services/invocation_service.py:621-626 -/
def resultStepStatus : RunStatus → PlanStepStatus
  | .completed => .completed
  | .blocked | .clarify => .blocked
  | .pending | .running | .failed | .cancelled | .timedOut | .invalidOutput | .timeout => .failed

/-- How `start_run` of the canonical store ends: with a new run, with one that is under
way, or with the stored result of one that is done. -/
inductive Started where
  | run
  | inProgress
  | replayed (status : RunStatus)
  deriving DecidableEq

/-- What an invocation gets from the collaborators it awaits, in their order; `ε` is what
they raise. A record is built and stored in one; `invoked` is the status of the validated
result. -/
structure Collaborators (ε : Type) where
  assembled : Except ε Unit
  canonicalManaged : Bool
  canonicalStore : Bool
  started : Except ε Started
  added : Except ε Unit
  linked : Except ε Unit
  invoker : Except ε Unit
  invoked : Except ε RunStatus
  stored : Except ε Unit

inductive Raised (ε : Type) where
  | collaborator (error : ε)
  | store (error : StoreError)
  deriving DecidableEq

namespace Collaborators

variable {ε : Type} (o : Collaborators ε)

/-- The status of a replayed result, if there is one.
mirrors app/services/invocation_service.py:186-188 and :213-221 -/
def startRun : Except (Raised ε) (Option RunStatus) :=
  if o.canonicalManaged then
    if !o.canonicalStore then
      .error (.store (.invocationError "Canonical invocation persistence is not configured"))
    else
      match o.started with
      | .error e => .error (.collaborator e)
      | .ok .run => .ok none
      | .ok .inProgress =>
        .error (.store (.invocationError "Canonical invocation is already in progress"))
      | .ok (.replayed status) => .ok (some status)
  else
    match o.added with
    | .error e => .error (.collaborator e)
    | .ok () => .ok none

/-- From the claim up to `_finish_plan_step`: the status of the result, and whether the
invocation comes to finish its step. What the invoker raises becomes a failed result.
mirrors app/services/invocation_service.py:184-290 -/
def execute : Except (Raised ε) (RunStatus × Bool) := do
  o.assembled.mapError .collaborator
  match ← o.startRun with
  | some replayed => return (replayed, false)
  | none =>
    o.linked.mapError .collaborator
    o.invoker.mapError .collaborator
    o.stored.mapError .collaborator
    match o.invoked with
    | .ok status => return (status, true)
    | .error _ => return (.failed, true)

/-- The start of the run comes to the agent: it neither raises nor finds a run or a result. -/
def startsRun : Bool :=
  if o.canonicalManaged then
    o.canonicalStore && match o.started with
      | .ok .run => true
      | _ => false
  else o.added.isOk

def letFinish : Bool :=
  o.assembled.isOk && o.startsRun && o.linked.isOk && o.invoker.isOk && o.stored.isOk

theorem startRun_eq_none : o.startRun = .ok none ↔ o.startsRun = true := by
  unfold startRun startsRun
  cases o.canonicalManaged with
  | false => cases o.added <;> simp [Except.isOk, Except.toBool]
  | true =>
    cases o.canonicalStore with
    | false => simp
    | true =>
      cases o.started with
      | error e => simp
      | ok started => cases started <;> simp

/-- The invocation comes to finish its step exactly when its collaborators let it. -/
theorem execute_finishes_iff : (∃ status, o.execute = .ok (status, true)) ↔ o.letFinish = true := by
  have hok : ∀ x : Except ε Unit, x.isOk = true ↔ x = .ok () := by
    intro x
    cases x <;> simp [Except.isOk, Except.toBool]
  simp only [letFinish, Bool.and_eq_true, hok]
  constructor
  · rintro ⟨status, h⟩
    obtain ⟨_, ha, h⟩ := bind_eq_ok.1 h
    obtain ⟨replayed, hs, h⟩ := bind_eq_ok.1 h
    cases replayed with
    | some replayed => cases h
    | none =>
      obtain ⟨_, hl, h⟩ := bind_eq_ok.1 h
      obtain ⟨_, hi, h⟩ := bind_eq_ok.1 h
      obtain ⟨_, ht, -⟩ := bind_eq_ok.1 h
      exact ⟨⟨⟨⟨Except.mapError_eq_ok.1 ha, o.startRun_eq_none.1 hs⟩, Except.mapError_eq_ok.1 hl⟩,
        Except.mapError_eq_ok.1 hi⟩, Except.mapError_eq_ok.1 ht⟩
  · rintro ⟨⟨⟨⟨ha, hs⟩, hl⟩, hi⟩, ht⟩
    have hstart := o.startRun_eq_none.2 hs
    simp only [execute, ha, hstart, hl, hi, ht]
    cases o.invoked with
    | ok status => exact ⟨status, rfl⟩
    | error e => exact ⟨.failed, rfl⟩

end Collaborators

/-- The id that `claim_step` draws, its lease, and the readings of the clock. -/
structure ClaimReadings where
  claimId : String
  leaseExpiresAt : Instant
  claimedAt : Instant
  finishedAt : Instant

/-- `PlanService.claim_step`. -/
def claimPlanStep (digest : String → String) (selected : SelectedStep) (readings : ClaimReadings)
    (s : PlanStores.MemoryPlanStore) : Option Plan × PlanStores.MemoryPlanStore :=
  match s.toMemoryPlanRepository.claimStep digest
      (claimRequest selected readings.claimId readings.leaseExpiresAt readings.claimedAt) with
  | none => (none, s)
  | some (repo, activePlan) => (some activePlan, { s with toMemoryPlanRepository := repo })

/-- The call of the plan repository that an invocation awaits next. `attempts` is what is left of
`range(3)` in `finish_claimed_step`, `read` the plan that `updated` was made from. -/
inductive Point (ε : Type) where
  | selecting
  | claiming (selected : SelectedStep)
  | keying (selected : SelectedStep)
  | reading (selected : SelectedStep) (status : RunStatus) (attempts : Nat)
  | saving (selected : SelectedStep) (status : RunStatus) (attempts : Nat) (read updated : Plan)
  | done (reply : Except (Raised ε) RunStatus)

/-- After the key is read: the agent runs, up to the first read of `finish_claimed_step`. -/
def Point.run {ε : Type} (o : Collaborators ε) (selected : SelectedStep) : Point ε :=
  match o.execute with
  | .error e => .done (.error e)
  | .ok (status, false) => .done (.ok status)
  | .ok (status, true) => .reading selected status 3

/-- What `finish_claimed_step` does with the plan that it reads: it returns, or saves a copy in
which the step is advanced, or raises.
mirrors app/services/plan_service.py:189-226 (`finish_claimed_step`) -/
def Point.read {ε : Type} (readings : ClaimReadings) (selected : SelectedStep) (status : RunStatus)
    (attempts : Nat) : Option Plan → Point ε
  | none => .done (.ok status)
  | some plan =>
    if PlanService.settled plan.status then .done (.ok status)
    else
      match attempts with
      | 0 =>
        .done (.error (.store (.planStateConflict "Plan claim completion conflicted repeatedly")))
      | attempts + 1 =>
        match advanceSteps (some selected.stepId) (resultStepStatus status) plan.steps with
        | .error e => .done (.error (.store e))
        | .ok steps =>
          if plan.steps.any (·.stepId = selected.stepId) then
            .saving selected status attempts plan
              (PlanService.finishedPlan plan steps readings.finishedAt)
          else .done (.ok status)

/-- mirrors app/services/invocation_service.py:179-306 (`_invoke_definition`), :403-450
(`_with_agent_context`) and :534-553 (`_finish_plan_step`) -/
def Point.next {ε : Type} (digest : String → String) (invocation : PlanInvocation)
    (readings : ClaimReadings) (o : Collaborators ε) (s : PlanStores.MemoryPlanStore) :
    Point ε → Option (PlanStores.MemoryPlanStore × Point ε)
  | .selecting =>
    match selectStep s.toMemoryPlanRepository invocation with
    | .error e => some (s, .done (.error (.store e)))
    | .ok selected => some (s, .claiming selected)
  | .claiming selected =>
    match claimPlanStep digest selected readings s with
    | (none, s) =>
      some (s, .done (.error (.store (.invocationError "Plan step is already executing"))))
    | (some _, s) => some (s, .keying selected)
  | .keying selected =>
    match PlanStores.memoryClaimKey s.toMemoryPlanRepository selected.planId readings.claimId with
    | none =>
      some (s, .done (.error (.store (.invocationError "Plan execution claim is unavailable"))))
    | some _ => some (s, .run o selected)
  | .reading selected status attempts =>
    some (s, .read readings selected status attempts
      (s.get selected.planId selected.tenantId selected.userId))
  | .saving selected status attempts _ updated =>
    match s.saveClaimedStep updated selected.stepId readings.claimId readings.finishedAt with
    | none => some (s, .reading selected status attempts)
    | some (repo, _) => some ({ s with toMemoryPlanRepository := repo }, .done (.ok status))
  | .done _ => none

/-! ## What an invocation has found -/

theorem currentPlanStep_eq_some {plan : Plan} {step : PlanStep} :
    currentPlanStep plan = some step ↔
      plan.currentStepId = some step.stepId ∧ step.stepId ≠ "" ∧
      findStep plan.steps step.stepId = some step := by
  unfold currentPlanStep findStep
  constructor
  · intro h
    split at h
    · next htruthy =>
      have hid : some step.stepId = plan.currentStepId := by simpa using List.find?_some h
      rw [← hid] at h htruthy
      exact ⟨hid.symm, by simpa [truthy] using htruthy, by simpa using h⟩
    · cases h
  · rintro ⟨hid, hne, hfind⟩
    simp only [hid, truthy, hne, ne_eq, not_false_eq_true, decide_true, if_true, Option.some.injEq]
    exact hfind

theorem selectStep_ok {repo : MemoryPlanRepository} {invocation : PlanInvocation}
    {selected : SelectedStep} (h : selectStep repo invocation = .ok selected) :
    ∃ plan step, repo.plans.get? selected.planId = some plan ∧ plan.status.isActive = true ∧
      currentPlanStep plan = some step ∧ step.stepId = selected.stepId ∧
      step.agentId = invocation.agentId := by
  unfold selectStep at h
  split at h
  · cases h
  · split at h
    · cases h
    · next candidate hget =>
      obtain ⟨hget, hactive⟩ := Option.filter_eq_some_iff.1 hget
      have hplan := (MemoryPlanRepository.get_eq_some.1 hget).1
      have hid : candidate.planId = invocation.planId := Table.key_of_get? hplan
      split at h
      · cases h
      · next step hstep =>
        obtain ⟨hcurrent, hagent⟩ := Option.filter_eq_some_iff.1 hstep
        cases h
        exact ⟨candidate, step, hid ▸ hplan, hactive, hcurrent, rfl, by simpa using hagent⟩

/-- A claim that goes through is one `claim_step` has granted. -/
theorem claimSelected_ok {digest : String → String} {repo : MemoryPlanRepository}
    {selected : SelectedStep} {claimId : String} {leaseExpiresAt now : Instant}
    {out : MemoryPlanRepository × PlanContext}
    (h : claimSelected digest repo selected claimId leaseExpiresAt now = .ok out) :
    ∃ activePlan,
      repo.claimStep digest (claimRequest selected claimId leaseExpiresAt now) =
        some (out.1, activePlan) := by
  unfold claimSelected at h
  split at h
  · cases h
  · next repo' activePlan hclaim =>
    split at h
    · cases h
    · cases h
      exact ⟨activePlan, hclaim⟩

end OpenIntentRouter.Services.InvocationService
