import OpenIntentRouter.Core.Except
import OpenIntentRouter.Schemas.Common

/-!
# Plans

`Plan.validate` is the constructor with `validate_steps`: unique step ids,
known and acyclic dependencies, and a current step that is filled in or cleared
to fit the status.

* `checkSteps_update`: the check of the steps looks at no status;
* `Plan.validate_eq_ok`: what is accepted, and what comes out.
-/
namespace OpenIntentRouter.Schemas

open Core Core.Except

/-- mirrors app/schemas/plans.py:17-23 -/
structure PlanStep where
  stepId : String
  agentId : String
  description : String
  status : PlanStepStatus
  dependsOn : List String
  artifactRefs : List JsonDict
  deriving DecidableEq

/-- mirrors app/schemas/plans.py:26-34 -/
structure NextAction where
  type : NextActionType
  message : String
  agentId : Option String
  planId : Option String
  stepId : Option String
  route : Option String
  params : JsonDict
  metadata : JsonDict
  deriving DecidableEq

/-- mirrors app/schemas/plans.py:37-49 -/
structure Plan where
  planId : String
  userId : String
  tenantId : String
  sessionId : Option String := none
  status : PlanStatus
  currentStepId : Option String
  executionPolicy : Option ExecutionPolicy
  nextAction : Option NextAction
  lastEventId : Option String
  stateVersion : Nat
  updatedAt : Instant
  formationEventType : String
  steps : List PlanStep
  deriving DecidableEq

def parents : List (String × List String) → String → List String
  | [], _ => []
  | (k, ps) :: graph, node => if k = node then ps else parents graph node

/-- `visit` of the depth-first search; the result is `visited`. The fuel bounds
the depth: a path of distinct nodes is no longer than the graph.
mirrors app/schemas/plans.py:120-129 -/
def visit (graph : List (String × List String)) :
    Nat → List String → List String → String → Except StoreError (List String)
  | 0, _, _, _ => .error (.validationError "plan dependencies must not contain cycles")
  | fuel + 1, visiting, visited, node =>
    if node ∈ visited then .ok visited
    else if node ∈ visiting then
      .error (.validationError "plan dependencies must not contain cycles")
    else do
      let visited ← (parents graph node).foldlM (visit graph fuel (node :: visiting)) visited
      return node :: visited

/-- mirrors app/schemas/plans.py:116-132 -/
def validateNoCycles (graph : List (String × List String)) : Except StoreError Unit := do
  let _ ← (graph.map Prod.fst).foldlM (visit graph (graph.length + 1) []) []
  return ()

/-- What `validate_steps` and the `Field` constraints ask of the steps. -/
def checkSteps (steps : List PlanStep) : Except StoreError Unit := do
  let ids := steps.map (·.stepId)
  Except.ensure (steps ≠ [] && steps.all fun s =>
      s.stepId ≠ "" && s.agentId ≠ "" && s.description ≠ "")
    (.validationError "Plan.steps field constraints")
  Except.ensure (decide ids.Nodup) (.validationError "plan step_id values must be unique")
  Except.ensure (steps.all fun s => s.dependsOn.all (· ∈ ids))
    (.validationError "step depends on unknown steps")
  validateNoCycles (steps.map fun s => (s.stepId, s.dependsOn))

def readyStep (steps : List PlanStep) : Option PlanStep :=
  steps.find? fun s => s.status = .pending &&
    s.dependsOn.all fun d => steps.any fun t => t.stepId = d && t.status = .completed

/-- The current step after validation: filled in for an active plan without
one, none for a terminal plan.
mirrors app/schemas/plans.py:67-83 -/
def Plan.validatedCurrent (plan : Plan) : Option String :=
  if plan.status.isActive then
    if truthy plan.currentStepId then plan.currentStepId
    else
      match readyStep plan.steps, plan.steps.find? fun s => s.status = .running || s.status = .blocked with
      | some ready, _ => some ready.stepId
      | none, some active => some active.stepId
      | none, none => none
  else none

/-- mirrors app/schemas/plans.py:51-84 (`validate_steps`) and :37-49 -/
def Plan.validate (plan : Plan) : Except StoreError Plan := do
  Except.ensure (plan.planId ≠ "" && plan.userId ≠ "" && plan.tenantId ≠ "" &&
      plan.formationEventType.length ≤ 32)
    (.validationError "Plan field constraints")
  checkSteps plan.steps
  Except.ensure (!truthy plan.currentStepId || plan.steps.any (some ·.stepId = plan.currentStepId))
    (.validationError "current_step_id must reference a step_id in steps")
  return { plan with currentStepId := plan.validatedCurrent }

theorem checkSteps_update {steps : List PlanStep} {f : PlanStep → PlanStep}
    (hf : ∀ s, (f s).stepId = s.stepId ∧ (f s).agentId = s.agentId ∧
      (f s).description = s.description ∧ (f s).dependsOn = s.dependsOn) :
    checkSteps (steps.map f) = checkSteps steps := by
  have hid : (steps.map f).map (·.stepId) = steps.map (·.stepId) := by simp [hf]
  have hgraph : (steps.map f).map (fun s => (s.stepId, s.dependsOn)) =
      steps.map fun s => (s.stepId, s.dependsOn) := by simp [hf]
  have hnil : decide (steps.map f ≠ []) = decide (steps ≠ []) := by simp
  simp only [checkSteps, hid, hgraph, hnil, List.all_map, Function.comp_def, hf]

theorem Plan.validate_eq_ok {plan out : Plan} : plan.validate = .ok out ↔
    (plan.planId ≠ "" ∧ plan.userId ≠ "" ∧ plan.tenantId ≠ "" ∧
      plan.formationEventType.length ≤ 32) ∧ checkSteps plan.steps = .ok () ∧
    (truthy plan.currentStepId = true → ∃ step ∈ plan.steps, some step.stepId = plan.currentStepId) ∧
    out = { plan with currentStepId := plan.validatedCurrent } := by
  unfold Plan.validate
  constructor
  · intro h
    obtain ⟨_, hfields, h⟩ := bind_eq_ok.1 h
    obtain ⟨_, hsteps, h⟩ := bind_eq_ok.1 h
    obtain ⟨_, hcurrent, h⟩ := bind_eq_ok.1 h
    cases h
    rw [ensure_eq_ok] at hfields hcurrent
    simp only [ne_eq, Bool.and_eq_true, decide_eq_true_eq] at hfields
    refine ⟨⟨hfields.1.1.1, hfields.1.1.2, hfields.1.2, hfields.2⟩, hsteps, fun ht => ?_, rfl⟩
    simpa [ht, List.any_eq_true] using hcurrent
  · rintro ⟨⟨hp, hu, ht, hf⟩, hsteps, hcurrent, rfl⟩
    have hany : (!truthy plan.currentStepId ||
        plan.steps.any (some ·.stepId = plan.currentStepId)) = true := by
      cases htr : truthy plan.currentStepId with
      | false => rfl
      | true => simpa [List.any_eq_true] using hcurrent htr
    simp only [Except.ensure, hp, hu, ht, hf, hsteps, hany, ne_eq, not_false_eq_true, decide_true,
      Bool.and_self, if_true, ok_bind]
    rfl

/-- Accepted steps have distinct ids, none of them empty. -/
theorem checkSteps_ids {steps : List PlanStep} (h : checkSteps steps = .ok ()) :
    (steps.map (·.stepId)).Nodup ∧ ∀ step ∈ steps, step.stepId ≠ "" := by
  unfold checkSteps at h
  obtain ⟨_, hfields, h⟩ := bind_eq_ok.1 h
  obtain ⟨_, hnodup, _⟩ := bind_eq_ok.1 h
  rw [ensure_eq_ok] at hfields hnodup
  simp only [Bool.and_eq_true, List.all_eq_true, decide_eq_true_eq] at hfields
  exact ⟨of_decide_eq_true hnodup, fun step hs => by simpa using (hfields.2 step hs).1.1⟩

end OpenIntentRouter.Schemas
