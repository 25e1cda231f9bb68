import OpenIntentRouter.Schemas.Plans

/-!
# Agents, route requests and route responses

The fields that the router reads or writes. `model_copy` does not validate, so
a `RouteResponse` is a plain record; `RouteResponse.validate` is what
`model_validate` makes of one. A probability is a rational number.
-/
namespace OpenIntentRouter.Schemas

open Core Core.Except

/-! ## Enumerations -/

/-- mirrors app/schemas/common.py:20 -/
inductive RouteStatus where
  | ok | clarify | unsupported | error
  deriving DecidableEq

/-- mirrors app/schemas/common.py:21-30 -/
inductive RouteAction where
  | reply | clarify | openAgent | continueAgent | exitAgent | showPlan | unsupported | silent
  deriving DecidableEq

/-- mirrors app/schemas/common.py:31-38 -/
inductive ContextRelation where
  | newTask | continueCurrent | switchAgent | exitAgent | multiTask | unsupported
  deriving DecidableEq

/-- mirrors app/schemas/common.py:39 -/
inductive MessageSource where
  | hostChat | agentChat | agentEvent | planControl | system
  deriving DecidableEq

/-- The `mode` of a preview. -/
inductive InvocationMode where
  | deferred | invoke | uiHandoff
  deriving DecidableEq

def ExecutionPolicy.value : ExecutionPolicy → String
  | .returnPlanOnly => "return_plan_only"
  | .requireConfirmation => "require_confirmation"
  | .autoExecute => "auto_execute"
  | .hostManaged => "host_managed"

def ExecutionPolicy.ofText (text : String) : Option ExecutionPolicy :=
  [ExecutionPolicy.returnPlanOnly, .requireConfirmation, .autoExecute, .hostManaged].find?
    (·.value = text)

/-! ## Agents -/

/-- mirrors app/schemas/agents.py:17-20 -/
structure TriggerSpec where
  keywords : List String
  positiveExamples : List String
  deriving DecidableEq

/-- mirrors app/schemas/common.py:146-149 -/
structure SchemaContract where
  required : List String
  properties : JsonDict
  deriving DecidableEq

/-- mirrors app/schemas/agents.py:75-98 -/
structure AgentDefinition where
  agentId : String
  name : String
  description : String
  capabilities : List String
  trigger : TriggerSpec
  inputSchema : SchemaContract
  metadata : JsonDict
  deriving DecidableEq

/-! ## Requests -/

/-- mirrors app/schemas/routing.py:28-31 -/
structure CurrentAgentContext where
  agentId : String
  agentSessionId : Option String
  deriving DecidableEq

/-- mirrors app/schemas/routing.py:34-46 -/
structure RouteRequest where
  requestId : String
  sessionId : String
  source : MessageSource
  userId : String
  tenantId : Option String
  inputText : String
  currentAgent : Option CurrentAgentContext
  planId : Option String
  frontendContext : JsonDict
  deriving DecidableEq

/-! ## Responses -/

/-- mirrors app/schemas/routing.py:59-65 -/
structure RouteDecision where
  status : RouteStatus
  action : RouteAction
  targetAgentId : Option String
  confidence : Option Rat
  reason : String
  message : String
  deriving DecidableEq

/-- mirrors app/schemas/routing.py:78-85 -/
structure RouteContext where
  relation : ContextRelation
  currentAgentId : Option String
  candidateAgentIds : List String
  intentHint : Option String
  evidence : List JsonDict
  metadata : JsonDict
  deriving DecidableEq

/-- mirrors app/schemas/routing.py:96-100 -/
structure InvocationPreview where
  mode : InvocationMode
  agentId : String
  input : JsonDict
  metadata : JsonDict
  deriving DecidableEq

/-- mirrors app/schemas/routing.py:103-115 -/
structure RouteResponse where
  requestId : String
  sessionId : String
  assistantMessage : Option String
  decision : RouteDecision
  context : RouteContext
  executionPolicy : Option ExecutionPolicy
  nextAction : Option NextAction
  plan : Option Plan
  invocation : Option InvocationPreview
  deriving DecidableEq

/-- `action in {"open_agent", "continue_agent"}` -/
def RouteAction.opens (action : RouteAction) : Bool :=
  action = .openAgent || action = .continueAgent

/-- mirrors app/schemas/routing.py:64-75 (`confidence`, `validate_target`) -/
def RouteDecision.valid (decision : RouteDecision) : Bool :=
  decision.confidence.all (fun c => 0 ≤ c && c ≤ 1) &&
  (!decision.action.opens || truthy decision.targetAgentId) &&
  match decision.action with
  | .reply | .clarify | .unsupported | .silent => decision.targetAgentId = none
  | .openAgent | .continueAgent | .exitAgent | .showPlan => true

/-- mirrors app/schemas/routing.py:144-154 (`validate_route_response`) -/
def RouteResponse.consistent (response : RouteResponse) : Bool :=
  let decision := response.decision
  (decision.action ≠ .showPlan || response.plan.isSome) &&
  (!decision.action.opens ||
    decision.targetAgentId.any (· ∈ response.context.candidateAgentIds)) &&
  (decision.action ≠ .continueAgent ||
    response.context.currentAgentId = decision.targetAgentId)

/-- `RouteResponse.model_validate(response.model_dump())` -/
def RouteResponse.validate (response : RouteResponse) : Except StoreError RouteResponse := do
  let plan ← response.plan.mapM Plan.validate
  Except.ensure (response.decision.valid && { response with plan }.consistent)
    (.validationError "RouteResponse")
  return { response with plan }

theorem RouteResponse.validate_eq_ok {response out : RouteResponse} :
    response.validate = .ok out ↔
      ∃ plan, response.plan.mapM Plan.validate = .ok plan ∧ response.decision.valid = true ∧
        { response with plan }.consistent = true ∧ out = { response with plan } := by
  unfold RouteResponse.validate
  constructor
  · intro h
    obtain ⟨plan, hplan, h⟩ := bind_eq_ok.1 h
    obtain ⟨_, hvalid, h⟩ := bind_eq_ok.1 h
    rw [ensure_eq_ok, Bool.and_eq_true] at hvalid
    cases h
    exact ⟨plan, hplan, hvalid.1, hvalid.2, rfl⟩
  · rintro ⟨plan, hplan, hdecision, hconsistent, rfl⟩
    refine bind_eq_ok.2 ⟨plan, hplan, bind_eq_ok.2 ⟨(), ?_, rfl⟩⟩
    rw [ensure_eq_ok, hdecision, hconsistent]
    rfl

end OpenIntentRouter.Schemas
