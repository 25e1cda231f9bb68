import OpenIntentRouter.Services.MemoryIntegration

/-!
# Reconciliation of formation

`FormationReconciler.run_once` takes a page of the plans, the runs and the results
that are formation-pending, publishes each and marks what is published. An entry
that fails is skipped; nothing is recorded of the attempt.

* `pendingPlans`, `pendingRuns`, `pendingResults`: the pages;
* `reconcilePlan`, `reconcileRun`, `reconcileResult`: the bodies of the loops.
-/
namespace OpenIntentRouter.Services

open Core Schemas

/-- What the publisher and the turn capture do with an entry; an error is any exception.
mirrors app/services/memory_integration.py:57-62 (`StructuredFormationSink`) -/
structure FormationPublisher where
  publishPlan (plan : Plan) (eventType : String) (eventId : Option String) (sourceVersion : String)
    (sourceOrder : Nat) (occurredAt : Instant) : Except StoreError Unit
  publishRun (run : AgentRun) (eventType : RunProjectionEvent) : Except StoreError Unit
  publishResult (result : AgentResult) (run : AgentRun) : Except StoreError Unit
  captureRecords (run : AgentRun) (result : AgentResult) : Except StoreError Unit

/-- The plans, runs and results, in the order of their insertion, and what of them is published.
mirrors app/repositories/memory.py:182-592 (`MemoryRunRepository`, `MemoryResultRepository`,
`MemoryPlanRepository`); result ids are primary keys in app/db/models.py -/
structure FormationRepositories where
  plans : Table Plan.planId
  formationPublishedVersion : Dict String Nat
  runs : Table AgentRun.runId
  formationPublishedOrder : Dict String Nat
  results : Table AgentResult.resultId
  formationPublished : List String
  turnCaptured : List String

namespace FormationRepositories

variable (s : FormationRepositories)

def publishedVersion (planId : String) : Nat := (s.formationPublishedVersion.get? planId).getD 0

/-- mirrors app/repositories/memory.py:244-245 (`get_formation_published_order`) -/
def publishedOrder (runId : String) : Nat := (s.formationPublishedOrder.get? runId).getD 0

def planPending (plan : Plan) : Bool := s.publishedVersion plan.planId < plan.stateVersion

def runPending (run : AgentRun) : Bool :=
  !run.formationSuppressed && s.publishedOrder run.runId < runSourceOrder run.status

def resultPending (result : AgentResult) : Bool :=
  (!result.formationSuppressed && !decide (result.resultId ∈ s.formationPublished)) ||
    !decide (result.resultId ∈ s.turnCaptured)

/-- mirrors app/repositories/memory.py:543-549 (`list_formation_pending`) -/
def pendingPlans (limit : Nat) : List Plan := (s.plans.values.filter s.planPending).take limit

/-- mirrors app/repositories/memory.py:228-235 (`list_formation_pending`) -/
def pendingRuns (limit : Nat) : List AgentRun := (s.runs.values.filter s.runPending).take limit

/-- mirrors app/repositories/memory.py:273-282 (`list_formation_pending`) -/
def pendingResults (limit : Nat) : List AgentResult :=
  (s.results.values.filter s.resultPending).take limit

/-- mirrors app/repositories/memory.py:551-556 (`mark_formation_published`) -/
def markPlan (planId : String) (stateVersion : Nat) : FormationRepositories :=
  if s.plans.contains planId then
    { s with
      formationPublishedVersion :=
        s.formationPublishedVersion.set planId (max stateVersion (s.publishedVersion planId)) }
  else s

/-- mirrors app/repositories/memory.py:237-242 (`mark_formation_published`) -/
def markRun (runId : String) (sourceOrder : Nat) : FormationRepositories :=
  if s.runs.contains runId then
    { s with
      formationPublishedOrder :=
        s.formationPublishedOrder.set runId (max sourceOrder (s.publishedOrder runId)) }
  else s

/-- mirrors app/repositories/memory.py:284-285 (`mark_formation_published`) -/
def markResult (resultId : String) : FormationRepositories :=
  { s with formationPublished := resultId :: s.formationPublished }

/-- mirrors app/repositories/memory.py:287-288 -/
def markTurnCaptured (resultId : String) : FormationRepositories :=
  { s with turnCaptured := resultId :: s.turnCaptured }

end FormationRepositories

/-- mirrors app/services/memory_integration.py:692-703 -/
def resultMatchesRunOwner (result : AgentResult) (run : AgentRun) : Bool :=
  result.tenantId.any (· ≠ "") && result.userId.any (· ≠ "") && result.runId = run.runId &&
    result.sessionId = run.sessionId && result.agentId = run.agentId &&
    result.tenantId = run.tenantId && result.userId = run.userId && result.planId = run.planId &&
    result.stepId = run.stepId

structure ReconcilerPass where
  plans : Nat
  runs : Nat
  results : Nat
  turns : Nat
  repositories : FormationRepositories

namespace FormationReconciler

variable (publisher : FormationPublisher)

/-- `publish_plan` with the arguments that the reconciler takes from the plan. -/
def publishStoredPlan (plan : Plan) : Except StoreError Unit :=
  publisher.publishPlan plan plan.formationEventType plan.lastEventId
    ((plan.lastEventId.filter (· ≠ "")).getD ("plan-state-" ++ toString plan.stateVersion))
    plan.stateVersion plan.updatedAt

/-- mirrors app/services/memory_integration.py:236-252 -/
def reconcilePlan (pass : ReconcilerPass) (plan : Plan) : ReconcilerPass :=
  match publishStoredPlan publisher plan with
  | .error _ => pass
  | .ok () =>
    { pass with
      plans := pass.plans + 1
      repositories := pass.repositories.markPlan plan.planId plan.stateVersion }

/-- mirrors app/services/memory_integration.py:721-725 -/
def publishTarget (run : AgentRun) (publishedOrder : Nat) (s : FormationRepositories) :
    Except StoreError Unit × FormationRepositories :=
  let targetOrder := runSourceOrder run.status
  if targetOrder ≤ publishedOrder then (.ok (), s)
  else
    match publisher.publishRun run (runEventType run.status) with
    | .error e => (.error e, s)
    | .ok () => (.ok (), s.markRun run.runId targetOrder)

/-- What is published of the run, also if publishing ends with an error.
mirrors app/services/memory_integration.py:706-725 -/
def publishRunTransitions (run : AgentRun) (s : FormationRepositories) :
    Except StoreError Unit × FormationRepositories :=
  if s.publishedOrder run.runId < 1 then
    match publisher.publishRun (runningCopy run) .create with
    | .error e => (.error e, s)
    | .ok () => publishTarget publisher run 1 (s.markRun run.runId 1)
  else publishTarget publisher run (s.publishedOrder run.runId) s

/-- mirrors app/services/memory_integration.py:253-262 -/
def reconcileRun (pass : ReconcilerPass) (run : AgentRun) : ReconcilerPass :=
  let (published, repositories) := publishRunTransitions publisher run pass.repositories
  match published with
  | .error _ => { pass with repositories := repositories }
  | .ok () => { pass with runs := pass.runs + 1, repositories := repositories }

/-- mirrors app/services/memory_integration.py:263-286 -/
def reconcileResult (pass : ReconcilerPass) (result : AgentResult) : ReconcilerPass :=
  match pass.repositories.runs.get? result.runId with
  | none => pass
  | some run =>
    if !resultMatchesRunOwner result run then
      { pass with
        repositories :=
          (pass.repositories.markResult result.resultId).markTurnCaptured result.resultId }
    else
      let published :=
        if run.formationSuppressed then pass
        else
          match publisher.publishResult result run with
          | .error _ => pass
          | .ok () =>
            { pass with
              results := pass.results + 1
              repositories := pass.repositories.markResult result.resultId }
      match publisher.captureRecords run result with
      | .error _ => published
      | .ok () =>
        { published with
          turns := published.turns + 1
          repositories := published.repositories.markTurnCaptured result.resultId }

/-- mirrors app/services/memory_integration.py:234-287 -/
def runOnce (limit : Nat) (s : FormationRepositories) : ReconcilerPass :=
  let plans := (s.pendingPlans limit).foldl (reconcilePlan publisher) ⟨0, 0, 0, 0, s⟩
  let runs := (plans.repositories.pendingRuns limit).foldl (reconcileRun publisher) plans
  (runs.repositories.pendingResults limit).foldl (reconcileResult publisher) runs

/-- The repositories after `n` calls. -/
def after (limit : Nat) (s : FormationRepositories) : Nat → FormationRepositories
  | 0 => s
  | n + 1 => (runOnce publisher limit (after limit s n)).repositories

end FormationReconciler

end OpenIntentRouter.Services
