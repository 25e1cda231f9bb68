import OpenIntentRouter.Repositories.MemoryPlans

/-!
# The plan service

`PlanService` over the in-memory repository: what an agent event, a finished
claim and a confirmation make of a plan. Every service call reads the plan and
saves the copy it changed; publishing to the formation pipeline is not
modelled, its errors are swallowed by `_publish`.

* `savePlan_ok`, `applyAgentEvent_ok`, `finishClaimedStep_ok`, `confirm_ok`:
  what a call that does not raise has stored.
-/
namespace OpenIntentRouter.Services

open Core Core.Except Schemas Repositories

/-! ## Statuses -/

def statusText : PlanStatus → String
  | .pending => "pending"
  | .running => "running"
  | .blocked => "blocked"
  | .completed => "completed"
  | .failed => "failed"
  | .cancelled => "cancelled"

def runStatusText : RunStatus → String
  | .pending => "pending"
  | .running => "running"
  | .blocked => "blocked"
  | .completed => "completed"
  | .failed => "failed"
  | .cancelled => "cancelled"
  | .timedOut => "timed_out"
  | .clarify => "clarify"
  | .invalidOutput => "invalid_output"
  | .timeout => "timeout"

def eventTypeText : AgentEventType → String
  | .agentStarted => "agent_started"
  | .agentProgress => "agent_progress"
  | .agentResult => "agent_result"
  | .agentError => "agent_error"
  | .agentClarify => "agent_clarify"
  | .agentCancelled => "agent_cancelled"

/-- The status of an event is compared by its text.
mirrors app/services/plan_service.py:457-470 -/
def eventStatusToStepStatus (status : Option RunStatus) (eventType : AgentEventType) :
    Except StoreError PlanStepStatus :=
  let expected : PlanStepStatus := match eventType with
    | .agentStarted | .agentProgress => .running
    | .agentResult => .completed
    | .agentError => .failed
    | .agentClarify => .blocked
    | .agentCancelled => .cancelled
  match status with
  | none => .ok expected
  | some status =>
    if runStatusText status = statusText expected then .ok expected
    else .error (.valueError ("Agent event status=" ++ runStatusText status ++
      " conflicts with event_type=" ++ eventTypeText eventType))

/-- mirrors app/services/plan_service.py:477-491 -/
def advanceStepStatus (current proposed : PlanStepStatus) : Except StoreError PlanStepStatus :=
  if current = .completed || current = .failed || current = .cancelled then .ok current
  else if current = .blocked && proposed = .running then .ok current
  else if proposed = .pending && current ≠ .pending then .ok current
  else
    let allowed : List PlanStepStatus := match current with
      | .pending => [.pending, .running, .blocked, .completed, .failed, .cancelled]
      | .running => [.running, .blocked, .completed, .failed, .cancelled]
      | .blocked => [.running, .blocked, .completed, .failed, .cancelled]
      | .completed | .failed | .cancelled => []
    if proposed ∈ allowed then .ok proposed
    else .error (.valueError
      ("Illegal Plan step transition: " ++ statusText current ++ " -> " ++ statusText proposed))

/-- The loop over the steps of `finish_claimed_step` and `_apply_agent_event_once`. -/
def advanceSteps (stepId : Option String) (status : PlanStepStatus) (steps : List PlanStep) :
    Except StoreError (List PlanStep) :=
  steps.mapM fun step =>
    if some step.stepId ≠ stepId then .ok step
    else do
      let status ← advanceStepStatus step.status status
      return { step with status }

/-- mirrors app/services/plan_service.py:494-501 -/
def nextStepId (steps : List PlanStep) : Option String :=
  (steps.find? fun step =>
    (step.status = .pending && step.dependsOn.all fun parent =>
      steps.any fun other => other.status = .completed && other.stepId = parent) ||
    step.status = .running || step.status = .blocked || step.status = .failed).map (·.stepId)

/-- mirrors app/services/plan_service.py:504-515 -/
def planStatus (steps : List PlanStep) (currentStepId : Option String) : PlanStatus :=
  if steps.any (·.status = .cancelled) then .cancelled
  else if steps.any (·.status = .failed) then .failed
  else if steps.any (·.status = .blocked) then .blocked
  else if steps.all (·.status = .completed) then .completed
  else if truthy currentStepId then .running
  else .pending

/-! ## Calls -/

variable {repo : MemoryPlanRepository} {now : Instant} {tenantId userId : String}
  {out : MemoryPlanRepository × Option Plan}

namespace PlanService

/-- mirrors app/services/plan_service.py:34-81 -/
def savePlan (repo : MemoryPlanRepository) (plan : Plan) (eventType eventId : Option String)
    (occurredAt : Option Instant) (now : Instant) :
    Except StoreError (MemoryPlanRepository × Plan) :=
  match repo.get plan.planId plan.tenantId plan.userId with
  | none => do
    let new := { plan with
      lastEventId := eventId
      stateVersion := 1
      updatedAt := occurredAt.getD now
      formationEventType := if truthy eventType then eventType.getD "" else "create" }
    let repo ← repo.save new
    return (repo, new)
  | some existing =>
    if plan.stateVersion ≠ existing.stateVersion then
      .error (.planStateConflict "Plan input is stale")
    else
      let new := { plan with
        lastEventId := if eventId.isSome then eventId else existing.lastEventId
        stateVersion := existing.stateVersion + 1
        updatedAt := occurredAt.getD now
        formationEventType := if truthy eventType then eventType.getD "" else "update" }
      match repo.saveIfVersion new existing.stateVersion with
      | none => .error (.planStateConflict "Plan changed concurrently")
      | some repo => .ok (repo, new)

def settled (status : PlanStatus) : Bool :=
  status = .completed || status = .failed || status = .cancelled || status = .blocked

def finishedPlan (plan : Plan) (steps : List PlanStep) (now : Instant) : Plan :=
  { plan with
    steps
    currentStepId := nextStepId steps
    status := planStatus steps (nextStepId steps)
    nextAction := none
    stateVersion := plan.stateVersion + 1
    updatedAt := now
    formationEventType := "update" }

/-- The arguments of `finish_claimed_step`. -/
structure FinishRequest where
  planId : String
  stepId : String
  tenantId : String
  userId : String
  claimId : String
  status : PlanStepStatus
  now : Instant

/-- `attempts` is what is left of `range(3)`.
mirrors app/services/plan_service.py:178-226 (`finish_claimed_step`) and :151-176
(`save_claimed_step`) -/
def finishClaimedStep (repo : MemoryPlanRepository) (request : FinishRequest) :
    Nat → Except StoreError (MemoryPlanRepository × Option Plan)
  | 0 =>
    match repo.get request.planId request.tenantId request.userId with
    | none => .ok (repo, none)
    | some canonical =>
      if settled canonical.status then .ok (repo, some canonical)
      else .error (.planStateConflict "Plan claim completion conflicted repeatedly")
  | attempts + 1 =>
    match repo.get request.planId request.tenantId request.userId with
    | none => .ok (repo, none)
    | some plan =>
      if settled plan.status then .ok (repo, some plan)
      else do
        let steps ← advanceSteps (some request.stepId) request.status plan.steps
        if plan.steps.any (·.stepId = request.stepId) then
          match repo.saveClaimedStep (finishedPlan plan steps request.now) request.stepId
            request.claimId request.now with
          | some (repo, stored) => return (repo, some stored)
          | none => finishClaimedStep repo request attempts
        else return (repo, none)

/-- mirrors app/schemas/plans.py:92-100 -/
structure PlanActionResponse where
  planId : String
  status : PlanStatus
  currentStepId : Option String
  nextAction : Option NextAction
  stateVersion : Nat
  accepted : Bool
  transitioned : Bool
  reasonCode : Option String
  deriving DecidableEq

def respond (planId : String) (plan : Plan) (transitioned : Bool) : PlanActionResponse :=
  { planId
    status := plan.status
    currentStepId := plan.currentStepId
    nextAction := plan.nextAction
    stateVersion := plan.stateVersion
    accepted := true
    transitioned
    reasonCode := none }

/-- mirrors app/services/plan_service.py:228-295 -/
def confirm (repo : MemoryPlanRepository) (planId tenantId userId : String)
    (requestId : Option String) (expectedStateVersion : Option Nat) (now : Instant) :
    Except StoreError (MemoryPlanRepository × PlanActionResponse) :=
  match repo.get planId tenantId userId with
  | none => .error (.valueError "Plan not found")
  | some plan =>
    if requestId.isSome && plan.lastEventId = requestId then .ok (repo, respond planId plan true)
    else if expectedStateVersion.any (plan.stateVersion ≠ ·) then
      .ok (repo, respond planId plan false)
    else if plan.status ≠ .pending then .ok (repo, respond planId plan false)
    else
      match savePlan repo { plan with status := .running } (some "confirm") requestId none now with
      | .ok (repo, stored) => .ok (repo, respond planId stored true)
      | .error (.planStateConflict message) =>
        match repo.get planId tenantId userId with
        | none => .error (.planStateConflict message)
        | some canonical => .ok (repo, respond planId canonical false)
      | .error e => .error e

/-- The plan an event saves, before `save_plan` numbers it. -/
def eventPlan (plan : Plan) (steps : List PlanStep) (status : PlanStepStatus) (eventId : String) :
    Plan :=
  { plan with
    steps
    currentStepId := nextStepId steps
    status := planStatus steps (nextStepId steps)
    lastEventId := some eventId
    nextAction := if status = .completed || status = .failed then none else plan.nextAction }

/-- mirrors app/services/plan_service.py:369-423 -/
def applyAgentEventOnce (repo : MemoryPlanRepository) (event : AgentEvent)
    (tenantId userId : String) (now : Instant) :
    Except StoreError (MemoryPlanRepository × Option Plan) :=
  if !truthy event.planId then .ok (repo, none)
  else
    match repo.get (event.planId.getD "") tenantId userId with
    | none => .ok (repo, none)
    | some plan =>
      if plan.lastEventId = some event.eventId then .ok (repo, some plan)
      else if !plan.status.isActive then .ok (repo, some plan)
      else do
        let status ← eventStatusToStepStatus event.status event.eventType
        let steps ← advanceSteps event.stepId status plan.steps
        if steps = plan.steps then return (repo, some plan)
        else
          let (repo, stored) ← savePlan repo (eventPlan plan steps status event.eventId)
            (some "update") (some event.eventId) event.createdAt now
          return (repo, some stored)

/-- `attempts` is what is left of `range(3)`.
mirrors app/services/plan_service.py:349-367 (`apply_agent_event`) -/
def applyAgentEvent (repo : MemoryPlanRepository) (event : AgentEvent)
    (tenantId userId : String) (now : Instant) :
    Nat → Except StoreError (MemoryPlanRepository × Option Plan)
  | 0 => .error (.planStateConflict "Plan event update conflicted repeatedly")
  | attempts + 1 =>
    match applyAgentEventOnce repo event tenantId userId now with
    | .error (.planStateConflict _) => applyAgentEvent repo event tenantId userId now attempts
    | result => result

/-! ## What the calls store -/

theorem savePlan_ok {plan : Plan} {eventType eventId : Option String} {occurredAt : Option Instant}
    {out : MemoryPlanRepository × Plan}
    (h : savePlan repo plan eventType eventId occurredAt now = .ok out) :
    out.1 = repo.store out.2 ∧ out.2.planId = plan.planId ∧ out.2.status = plan.status ∧
      out.2.steps = plan.steps ∧ out.2.currentStepId = plan.currentStepId := by
  unfold savePlan at h
  split at h
  · obtain ⟨saved, hs, h⟩ := bind_eq_ok.1 h
    cases h
    exact ⟨MemoryPlanRepository.save_ok hs, rfl, rfl, rfl, rfl⟩
  · split at h
    · cases h
    · dsimp only at h
      split at h
      · cases h
      · next saved hs =>
        cases h
        exact ⟨MemoryPlanRepository.saveIfVersion_eq_some hs, rfl, rfl, rfl, rfl⟩

structure Applies (repo : MemoryPlanRepository) (event : AgentEvent) (tenantId userId : String)
    (plan : Plan) (steps : List PlanStep) : Prop where
  get : repo.get (event.planId.getD "") tenantId userId = some plan
  fresh : plan.lastEventId ≠ some event.eventId
  active : plan.status.isActive = true
  advances : ∃ status, eventStatusToStepStatus event.status event.eventType = .ok status ∧
    advanceSteps event.stepId status plan.steps = .ok steps
  changes : steps ≠ plan.steps

theorem applyAgentEventOnce_ok {event : AgentEvent}
    (h : applyAgentEventOnce repo event tenantId userId now = .ok out) :
    out.1 = repo ∨ ∃ plan steps stored, Applies repo event tenantId userId plan steps ∧
      out.1 = repo.store stored ∧ stored.planId = plan.planId ∧ stored.steps = steps ∧
      stored.status = planStatus steps (nextStepId steps) ∧
      stored.currentStepId = nextStepId steps := by
  unfold applyAgentEventOnce at h
  split at h
  · cases h
    exact .inl rfl
  · split at h
    · cases h
      exact .inl rfl
    · next plan hget =>
      split at h
      · cases h
        exact .inl rfl
      · next hfresh =>
        split at h
        · cases h
          exact .inl rfl
        · next hactive =>
          obtain ⟨status, hstatus, h⟩ := bind_eq_ok.1 h
          obtain ⟨steps, hsteps, h⟩ := bind_eq_ok.1 h
          split at h
          · cases h
            exact .inl rfl
          · next hne =>
            obtain ⟨⟨repo', stored⟩, hsave, h⟩ := bind_eq_ok.1 h
            cases h
            obtain ⟨h1, h2, h3, h4, h5⟩ := savePlan_ok hsave
            exact .inr ⟨plan, steps, stored,
              ⟨hget, hfresh, by simpa using hactive, ⟨status, hstatus, hsteps⟩, hne⟩, h1, h2, h4, h3,
              h5⟩

theorem applyAgentEvent_ok {event : AgentEvent} {attempts : Nat}
    (h : applyAgentEvent repo event tenantId userId now attempts = .ok out) :
    out.1 = repo ∨ ∃ plan steps stored, Applies repo event tenantId userId plan steps ∧
      out.1 = repo.store stored ∧ stored.planId = plan.planId ∧ stored.steps = steps ∧
      stored.status = planStatus steps (nextStepId steps) ∧
      stored.currentStepId = nextStepId steps := by
  induction attempts with
  | zero => cases h
  | succ attempts ih =>
    simp only [applyAgentEvent] at h
    split at h
    · exact ih h
    · exact applyAgentEventOnce_ok h

structure Finishes (repo : MemoryPlanRepository) (request : FinishRequest) (plan : Plan)
    (steps : List PlanStep) (out : MemoryPlanRepository × Plan) : Prop where
  get : repo.get request.planId request.tenantId request.userId = some plan
  advances : advanceSteps (some request.stepId) request.status plan.steps = .ok steps
  saved : repo.saveClaimedStep (finishedPlan plan steps request.now) request.stepId
    request.claimId request.now = some out

theorem finishClaimedStep_ok {request : FinishRequest} {attempts : Nat}
    (h : finishClaimedStep repo request attempts = .ok out) :
    out.1 = repo ∨ ∃ plan steps saved, Finishes repo request plan steps saved ∧
      out.1 = saved.1 := by
  induction attempts with
  | zero =>
    simp only [finishClaimedStep] at h
    split at h
    · cases h
      exact .inl rfl
    · split at h
      · cases h
        exact .inl rfl
      · cases h
  | succ attempts ih =>
    simp only [finishClaimedStep] at h
    split at h
    · cases h
      exact .inl rfl
    · next plan hget =>
      split at h
      · cases h
        exact .inl rfl
      · obtain ⟨steps, hsteps, h⟩ := bind_eq_ok.1 h
        split at h
        · split at h
          · next repo' stored hsave =>
            cases h
            exact .inr ⟨plan, steps, (repo', stored), ⟨hget, hsteps, hsave⟩, rfl⟩
          · exact ih h
        · cases h
          exact .inl rfl

theorem confirm_ok {planId : String} {requestId : Option String} {expectedStateVersion : Option Nat}
    {out : MemoryPlanRepository × PlanActionResponse}
    (h : confirm repo planId tenantId userId requestId expectedStateVersion now = .ok out) :
    out.1 = repo ∨ ∃ plan stored, repo.plans.get? planId = some plan ∧ plan.status = .pending ∧
      out.1 = repo.store stored ∧ stored.planId = plan.planId ∧ stored.status = .running ∧
      stored.steps = plan.steps ∧ stored.currentStepId = plan.currentStepId := by
  unfold confirm at h
  split at h
  · cases h
  · next plan hget =>
    split at h
    · cases h
      exact .inl rfl
    · split at h
      · cases h
        exact .inl rfl
      · split at h
        · cases h
          exact .inl rfl
        · next hpending =>
          split at h
          · next repo' stored hsave =>
            cases h
            obtain ⟨h1, h2, h3, h4, h5⟩ := savePlan_ok hsave
            exact .inr ⟨plan, stored, (MemoryPlanRepository.get_eq_some.1 hget).1,
              by simpa using hpending, h1, h2, h3, h4, h5⟩
          · split at h
            · cases h
            · cases h
              exact .inl rfl
          · cases h

end PlanService

end OpenIntentRouter.Services
