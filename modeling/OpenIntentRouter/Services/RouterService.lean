import Mathlib.Data.List.Sort
import Mathlib.Data.Prod.Lex
import OpenIntentRouter.Core.Stateful
import OpenIntentRouter.Schemas.Routing
import OpenIntentRouter.Services.PlanService

/-!
# The router

What `RouterService.route` makes of an answer of the LLM: the rewriting of the
answer, its validation, the preview of the invocation, and the plan that is
stored. What was read before (the available agents, the active plan, the
assembled context) and the answer itself are given.

The turn service, the chat history and the route log are called for what they
write; they may raise, and change of the response only the trace of a failed
log. The service that assembles the context of an agent is any function, as are
`str.lower`, `str.strip` and the regular expressions of a continued task.
-/
namespace OpenIntentRouter.Services

open Core Schemas Repositories

inductive RouteError where
  | routingError (message : String)
  | store (error : StoreError)
  | runtime (message : String)
  deriving DecidableEq

structure RouterService.AgentRuntimeContext where
  memoryStatus : String
  knowledgeStatus : String
  memoryItemCount : Nat
  knowledgeItemCount : Nat
  deriving DecidableEq

/-- The settings and services of the router. `planService`, `agentContextService`: whether there
is one, and the function. `logFailure`: the type of the exception of the route log. -/
structure RouterService where
  appEnv : String
  defaultPlanExecutionPolicy : ExecutionPolicy
  allowLocalAutoExecutePlans : Bool
  lowConfidenceThreshold : Rat
  lower : String → String
  strip : String → String
  requestsPlanContinuation : String → Bool
  planService : Bool
  agentContextService : Option (AgentDefinition → RouteRequest → JsonDict → Option Plan →
    Except RouteError RouterService.AgentRuntimeContext)
  record : RouteRequest → RouteResponse → Except RouteError Unit
  logFailure : RouteResponse → Option String

/-! ## Plans from the text -/

/-- mirrors app/services/plan_builder.py:7-19 -/
def orderingMarkers : List String :=
  ["first", "then", "after", "after that", "and then", "next", "先", "再", "然后", "之后", "接着"]

/-- `text.find(token)`, without -1. -/
def strFind (text token : String) : Option Nat :=
  (List.range (text.length + 1)).find? fun i => token.toList.isPrefixOf (text.toList.drop i)

/-- The characters `[0-9a-zA-Z\u4e00-\u9fff]`. -/
def isTokenChar (c : Char) : Bool := c.isAlphanum || (0x4e00 ≤ c.toNat && c.toNat ≤ 0x9fff)

/-- `re.sub(r"[^0-9a-zA-Z_]+", "_", text)`; `gap`: the character before was replaced. -/
def wordChars : Bool → List Char → List Char
  | _, [] => []
  | gap, c :: rest =>
    if c.isAlphanum || c = '_' then c :: wordChars false rest
    else if gap then wordChars true rest
    else '_' :: wordChars true rest

/-- mirrors app/services/plan_builder.py:97-98 -/
def safeStepSuffix (agentId : String) : String :=
  let stripped := (((wordChars false agentId.toList).dropWhile (· = '_')).reverse.dropWhile
    (· = '_')).reverse
  if stripped = [] then "agent" else String.ofList stripped

namespace RouterService

variable (router : RouterService)

/-- Only the least position of the tokens is asked for, so they are not sorted.
mirrors app/services/plan_builder.py:77-94 -/
def agentTokens (agent : AgentDefinition) : List String :=
  let raw := [agent.agentId, agent.name, agent.description] ++ agent.capabilities ++
    agent.trigger.keywords ++ agent.trigger.positiveExamples
  raw.flatMap fun raw =>
    let value := (router.lower (router.strip raw)).toList.map fun c => if c = '_' then ' ' else c
    let pieces := (value.splitOnP (!isTokenChar ·)).filter (3 ≤ ·.length)
    ((if 2 ≤ value.length then [value] else []) ++ pieces).map String.ofList

/-- mirrors app/services/plan_builder.py:70-74 -/
def firstMatchPosition (text : String) (agent : AgentDefinition) : Option Nat :=
  ((router.agentTokens agent).filterMap (strFind text)).min?

def orderedAgents (text : String) (candidates : List AgentDefinition) : List AgentDefinition :=
  let found := candidates.zipIdx.filterMap fun (agent, index) =>
    (router.firstMatchPosition text agent).map fun position => (toLex (position, index), agent)
  (found.insertionSort fun a b => a.1 ≤ b.1).map (·.2)

def orderedSteps : Nat → Option String → List AgentDefinition → List PlanStep
  | _, _, [] => []
  | index, previous, agent :: rest =>
    let stepId := "step_" ++ toString index ++ "_" ++ safeStepSuffix agent.agentId
    { stepId
      agentId := agent.agentId
      description := agent.name ++ ": " ++ agent.description
      status := .pending
      dependsOn := previous.toList
      artifactRefs := [] } :: orderedSteps (index + 1) (some stepId) rest

/-- mirrors app/services/plan_builder.py:22-67 (`build_ordered_plan_from_text`); `planId` is the
new id -/
def buildOrderedPlanFromText (text sessionId userId tenantId : String)
    (candidates : List AgentDefinition) (planId : String) (now : Instant) :
    Except StoreError (Option Plan) :=
  let lowered := router.lower text
  if !orderingMarkers.any fun marker => (strFind lowered marker).isSome then .ok none
  else
    let agents := router.orderedAgents lowered candidates
    if agents.length < 2 then .ok none
    else
      some <$> Plan.validate
        { planId, userId, tenantId
          sessionId := some sessionId
          status := .pending
          currentStepId := none
          executionPolicy := none
          nextAction := none
          lastEventId := none
          stateVersion := 0
          updatedAt := now
          formationEventType := "update"
          steps := orderedSteps 1 none agents }

end RouterService

/-! ## Inputs of an invocation -/

def hasKey (values : JsonDict) (key : String) : Bool := (Json.field values key).isSome

/-- mirrors app/services/invocation_service.py:585-593 (`build_invocation_input`) -/
def invocationInput (agent : AgentDefinition) (text : String) (values : JsonDict) : JsonDict :=
  let withText :=
    if text ≠ "" && agent.inputSchema.required.contains "text" &&
        !((Json.field values "text").any Json.truthy) then
      JsonDict.set values "text" (.str text)
    else values
  if text ≠ "" then
    agent.inputSchema.properties.foldl (fun values property =>
      if !hasKey values property.1 && (property.1 = "query" || property.1 = "title") then
        JsonDict.set values property.1 (.str text)
      else values) withText
  else withText

/-- mirrors app/services/router_service.py:1398-1411 -/
def buildInvocationInput (agent : AgentDefinition) (request : RouteRequest) : JsonDict :=
  let available (name : String) : Bool :=
    agent.inputSchema.required.contains name || hasKey agent.inputSchema.properties name
  let query : JsonDict :=
    if available "user_query" then [("user_query", .str request.inputText)] else []
  let history : Json :=
    match (Json.field request.frontendContext "conversation_history").filter Json.truthy with
    | some history => history
    | none => .arr [.obj [("role", .str "user"), ("content", .str request.inputText)]]
  let values :=
    if available "conversation_context" then JsonDict.set query "conversation_context" history
    else query
  invocationInput agent request.inputText values

/-- mirrors app/services/invocation_service.py:596-597 -/
def missingRequiredInputs (agent : AgentDefinition) (input : JsonDict) : List String :=
  agent.inputSchema.required.filter fun item => !((Json.field input item).any Json.truthy)

/-- `dict.get` of the definitions by id: of two with an id the later one. -/
def selectedDefinition (agents : List AgentDefinition) (agentId : String) :
    Option AgentDefinition :=
  agents.reverse.find? (·.agentId = agentId)

def agentIds (agents : List AgentDefinition) : List String := agents.map (·.agentId)

/-! ## The rewriting of the answer -/

def RouteRequest.currentAgentId (request : RouteRequest) : Option String :=
  request.currentAgent.map (·.agentId)

def callersPlan (request : RouteRequest) (plan : Plan) : Plan :=
  { plan with
    userId := request.userId
    tenantId := request.tenantId.getD ""
    lastEventId := none
    stateVersion := 0 }

/-- mirrors app/services/router_service.py:1073-1094 -/
def bindPlanOwnership (output : RouteResponse) (request : RouteRequest) :
    Except RouteError RouteResponse :=
  match output.plan with
  | none => .ok output
  | some plan =>
    if !truthy request.tenantId then
      .error (.routingError "Trusted tenant identity is required to create a Plan")
    else .ok { output with plan := some (callersPlan request plan) }

/-- mirrors app/services/router_service.py:430-445 -/
def normalizeCandidateContext (output : RouteResponse) (baseContext : RouteContext)
    (candidateAgentIds : List String) : RouteResponse :=
  { output with
    context :=
      { output.context with
        candidateAgentIds
        evidence := baseContext.evidence
        intentHint :=
          if truthy output.context.intentHint then output.context.intentHint
          else baseContext.intentHint
        metadata := JsonDict.merge baseContext.metadata output.context.metadata } }

def normalizationNote (toAction reason : String) : Json :=
  .obj [("from_action", .str "continue_agent"), ("to_action", .str toAction),
    ("reason", .str reason)]

/-- A response that offers nothing: no plan, no next action and no invocation. -/
def withdrawn (output : RouteResponse) (assistantMessage : Option String)
    (decision : RouteDecision) (context : RouteContext) : RouteResponse :=
  { output with
    assistantMessage, decision, context
    executionPolicy := none
    nextAction := none
    plan := none
    invocation := none }

/-- mirrors app/services/router_service.py:458-525 -/
def normalizeAgentContinuation (output : RouteResponse) (request : RouteRequest) :
    RouteResponse :=
  if output.decision.action ≠ .continueAgent then output
  else
    let target := output.decision.targetAgentId
    let current := RouteRequest.currentAgentId request
    let session := request.currentAgent.bind (·.agentSessionId)
    if target = current && truthy session then output
    else if !target.any (· ∈ output.context.candidateAgentIds) then
      let message := "当前账号无法继续使用该能力，请调整任务或联系管理员开通权限。"
      let metadata :=
        JsonDict.set (JsonDict.set output.context.metadata "permission_denied" (.bool true))
          "route_normalization" (normalizationNote "unsupported" "target_not_available")
      withdrawn output (some message)
        { status := .unsupported
          action := .unsupported
          targetAgentId := none
          confidence := output.decision.confidence
          reason := "The continuation target is not available to the current Principal."
          message }
        { output.context with relation := .unsupported, currentAgentId := none, metadata }
    else
      let reason :=
        if target = current then "agent_session_missing" else "target_differs_from_prior_agent"
      { output with
        decision := { output.decision with action := .openAgent }
        context :=
          { output.context with
            relation :=
              if truthy current && target ≠ current then .switchAgent else .newTask
            currentAgentId := none
            metadata :=
              JsonDict.set output.context.metadata "route_normalization"
                (normalizationNote "open_agent" reason) } }

/-- mirrors app/services/router_service.py:447-456 -/
def bindExitTarget (output : RouteResponse) (request : RouteRequest) : RouteResponse :=
  match request.currentAgent with
  | some current =>
    if output.decision.action = .exitAgent then
      { output with decision := { output.decision with targetAgentId := some current.agentId } }
    else output
  | none => output

/-- `value or default` of a text. -/
def orText (value fallback : String) : String := if value ≠ "" then value else fallback

/-- mirrors app/services/router_service.py:1034-1071 -/
def RouterService.ensurePlanForMultiTask (router : RouterService) (output : RouteResponse)
    (request : RouteRequest) (agents : List AgentDefinition) (planId : String) (now : Instant) :
    Except RouteError RouteResponse :=
  if output.plan.isSome || output.context.relation ≠ .multiTask then .ok output
  else
    match router.buildOrderedPlanFromText request.inputText request.sessionId request.userId
        (request.tenantId.getD "") agents planId now with
    | .error error => .error (.store error)
    | .ok none => .ok output
    | .ok (some plan) =>
      let decision := output.decision
      .ok
        { output with
          decision :=
            { status := decision.status
              action := if decision.action.opens then .reply else decision.action
              targetAgentId := none
              confidence := decision.confidence
              reason := orText decision.reason "Detected an ordered multi-agent task."
              message := orText decision.message "已生成多步骤执行计划。" }
          context := { output.context with relation := .multiTask }
          plan := some plan
          invocation := none }

/-- mirrors app/services/router_service.py:1131-1157 -/
def denyUnavailablePlanAgents (output : RouteResponse) : RouteResponse :=
  match output.plan with
  | none => output
  | some plan =>
    let unavailable := (((plan.steps.map (·.agentId)).filter
      (· ∉ output.context.candidateAgentIds)).dedup).insertionSort (· ≤ ·)
    if unavailable = [] then output
    else
      let message := "当前账号无法使用计划中的部分能力，请调整任务或联系管理员开通权限。"
      let metadata :=
        JsonDict.set (JsonDict.set output.context.metadata "permission_denied" (.bool true))
          "unavailable_plan_agent_ids" (.arr (unavailable.map .str))
      withdrawn output (some message)
        { status := .unsupported
          action := .unsupported
          targetAgentId := none
          confidence := output.decision.confidence
          reason := "Generated Plan contains an unavailable Agent."
          message }
        { output.context with relation := .unsupported, metadata }

/-- mirrors app/services/router_service.py:1096-1129 -/
def collapseSingleStepPlan (output : RouteResponse) (request : RouteRequest) : RouteResponse :=
  match output.plan.map (·.steps) with
  | some [step] =>
    if step.agentId ∉ output.context.candidateAgentIds then output
    else
      let continues : Bool := RouteRequest.currentAgentId request = some step.agentId
      withdrawn output output.assistantMessage
        { status := output.decision.status
          action := if continues then .continueAgent else .openAgent
          targetAgentId := some step.agentId
          confidence := output.decision.confidence
          reason := orText output.decision.reason "Collapsed single-step plan."
          message := "Routing to " ++ step.agentId ++ "." }
        { output.context with relation := if continues then .continueCurrent else .newTask }
  | _ => output

/-- The policy that a value of the metadata names; `some none`: its text is none of them. -/
def policyOf (value : Option Json) : Option (Option ExecutionPolicy) :=
  (value.filter Json.truthy).map fun
    | .str text => ExecutionPolicy.ofText text
    | _ => none

/-- mirrors app/services/router_service.py:1203-1217 -/
def metadataPolicyForPlan (plan : Plan) (agents : List AgentDefinition) :
    Option (Option ExecutionPolicy) :=
  plan.steps.findSome? fun step =>
    (selectedDefinition agents step.agentId).bind fun agent =>
      let execution :=
        match Json.field agent.metadata "execution" with
        | some (.obj execution) => policyOf (Json.field execution "policy")
        | _ => none
      execution.or (policyOf (Json.field agent.metadata "execution_policy"))

def policyAction (policy : Option ExecutionPolicy) (planId : String) : Option NextAction :=
  let action (type : NextActionType) (message : String) : NextAction :=
    { type, message
      agentId := none
      planId := some planId
      stepId := none
      route := none
      params := []
      metadata := [] }
  match policy with
  | some .requireConfirmation => some (action .confirmPlan "请确认是否执行该计划。")
  | some .hostManaged => some (action .waitForAgentEvent "该计划由宿主应用继续执行。")
  | _ => none

/-- The execution policy of a plan; `none`: a text that is none of the policies. -/
def RouterService.planPolicy (router : RouterService) (output : RouteResponse) (plan : Plan)
    (agents : List AgentDefinition) : Option ExecutionPolicy :=
  let named :=
    ((output.executionPolicy.or plan.executionPolicy).map some).or
      (metadataPolicyForPlan plan agents)
  let policy := named.getD (some router.defaultPlanExecutionPolicy)
  if policy = some .autoExecute &&
      (router.appEnv ≠ "local" || !router.allowLocalAutoExecutePlans) then
    some .requireConfirmation
  else policy

/-- The second value is false if the policy is a text that is none of the policies.
mirrors app/services/router_service.py:1159-1201 -/
def RouterService.applyPlanPolicy (router : RouterService) (output : RouteResponse)
    (agents : List AgentDefinition) : RouteResponse × Bool :=
  match output.plan with
  | none => (output, true)
  | some plan =>
    let policy := router.planPolicy output plan agents
    let nextAction :=
      (output.nextAction.or plan.nextAction).or (policyAction policy plan.planId)
    ({ output with
        executionPolicy := policy
        nextAction
        plan := some { plan with executionPolicy := policy, nextAction } }, policy.isSome)

/-! ## Validation -/

/-- mirrors app/services/router_service.py:419-428 -/
def validatePlanAgents (plan : Plan) (candidateIds : List String) : Except RouteError Unit :=
  Except.ensure (plan.steps.all (·.agentId ∈ candidateIds))
    (.routingError "Plan contains an Agent outside the candidate set")

/-- `policyValid`: the execution policy is one of the policies.
mirrors app/services/router_service.py:400-417 (`_post_validate`) -/
def postValidate (output : RouteResponse) (request : RouteRequest) (policyValid : Bool) :
    Except RouteError RouteResponse := do
  let candidateIds := output.context.candidateAgentIds
  let target := output.decision.targetAgentId
  Except.ensure (!truthy target || target.any (· ∈ candidateIds))
    (.routingError "Router selected an Agent outside the candidate set")
  Except.ensure (output.decision.action ≠ .continueAgent ||
      target = RouteRequest.currentAgentId request)
    (.routingError "continue_agent target must match current Agent")
  let checked : Except RouteError Unit :=
    match output.plan with
    | some plan => validatePlanAgents plan candidateIds
    | none => .ok ()
  checked
  match output.validate with
  | .ok validated =>
    Except.ensure policyValid (.routingError "Router output validation failed")
    return validated
  | .error _ => .error (.routingError "Router output validation failed")

def RouteAction.keepsLowConfidence (action : RouteAction) : Bool :=
  action = .clarify || action = .unsupported || action = .silent || action = .exitAgent

/-- mirrors app/services/router_service.py:527-563 -/
def RouterService.clarifyOnLowConfidence (router : RouterService) (output : RouteResponse) :
    RouteResponse :=
  let threshold := router.lowConfidenceThreshold
  match output.decision.confidence with
  | none => output
  | some confidence =>
    if threshold ≤ 0 || threshold ≤ confidence ||
        RouteAction.keepsLowConfidence output.decision.action then
      output
    else
      let reason := "Route confidence is below the clarification threshold."
      let metadata :=
        JsonDict.set output.context.metadata "low_confidence"
          (.obj [("confidence", .num confidence), ("threshold", .num threshold),
            ("reason", .str reason)])
      withdrawn output output.assistantMessage
        { status := .clarify
          action := .clarify
          targetAgentId := none
          confidence := some confidence
          reason
          message := "我还不确定该交给哪个 Agent 处理，请补充一下目标或关键信息。" }
        { output.context with metadata }

/-! ## The invocation -/

def askForInputs (output : RouteResponse) (agent : AgentDefinition) (missing : List String) :
    RouteResponse :=
  let fields := String.intercalate ", " missing
  let message := "请补充以下信息后再继续：" ++ fields ++ "。"
  let names : Json := .arr (missing.map .str)
  { output with
    decision :=
      { status := .clarify
        action := .clarify
        targetAgentId := none
        confidence := output.decision.confidence
        reason := "Missing required inputs: " ++ fields
        message }
    context :=
      { output.context with
        metadata :=
          JsonDict.set output.context.metadata "missing_required_inputs"
            (.obj [("agent_id", .str agent.agentId), ("fields", names)]) }
    nextAction :=
      some
        { type := .collectInput
          message
          agentId := some agent.agentId
          planId := none
          stepId := none
          route := none
          params := [("missing_inputs", names)]
          metadata := [("missing_inputs", names), ("target_agent_id", .str agent.agentId)] }
    invocation := none }

def previewInvocation (output : RouteResponse) (context : RouteContext) (agent : AgentDefinition)
    (input metadata : JsonDict) : RouteResponse :=
  { output with
    context
    invocation := some { mode := .deferred, agentId := agent.agentId, input, metadata } }

/-- What the assembled context of the agent adds to the metadata of the route. -/
def agentContextNote (agent : AgentDefinition) (runtime : RouterService.AgentRuntimeContext) : Json :=
  .obj [("agent_id", .str agent.agentId), ("memory_context_status", .str runtime.memoryStatus),
    ("knowledge_context_status", .str runtime.knowledgeStatus),
    ("memory_item_count", .num runtime.memoryItemCount),
    ("knowledge_item_count", .num runtime.knowledgeItemCount)]

/-- mirrors app/services/router_service.py:565-657 -/
def RouterService.clarifyOrAttachInvocation (router : RouterService) (output : RouteResponse)
    (request : RouteRequest) (activePlan : Option Plan) (agents : List AgentDefinition) :
    Except RouteError RouteResponse :=
  match output.decision.targetAgentId.filter (· ≠ "") with
  | none => .ok output
  | some target =>
    if !output.decision.action.opens then .ok output
    else
      match selectedDefinition agents target with
      | none => .error (.routingError "Selected Agent is outside the Candidate Set")
      | some agent =>
        let input := buildInvocationInput agent request
        let missing := missingRequiredInputs agent input
        if missing ≠ [] then .ok (askForInputs output agent missing)
        else
          let executionPlan := activePlan.filter fun _ =>
            truthy request.planId || router.requestsPlanContinuation request.inputText
          match router.agentContextService with
          | none => .ok (previewInvocation output output.context agent input [])
          | some assemble => do
            let runtime ← assemble agent request input executionPlan
            let metadata : JsonDict :=
              [("memory_context_status", .str runtime.memoryStatus),
                ("knowledge_context_status", .str runtime.knowledgeStatus)] ++
              match executionPlan with
              | some plan => [("plan_id", .str plan.planId)]
              | none => []
            let context :=
              { output.context with
                metadata := JsonDict.set output.context.metadata "agent_context"
                  (agentContextNote agent runtime) }
            return previewInvocation output context agent input metadata

/-! ## The response -/

/-- mirrors app/services/router_service.py:1390-1391 -/
def RouterService.cleanUserText (router : RouterService) (value : Option String) : String :=
  (value.map router.strip).getD ""

/-- mirrors app/services/router_service.py:1365-1387 -/
def RouterService.assistantMessageFromRoute (router : RouterService) (response : RouteResponse) :
    String :=
  let decisionMessage := router.cleanUserText (some response.decision.message)
  let target := orText (response.decision.targetAgentId.getD "")
  if decisionMessage ≠ "" then decisionMessage
  else if response.decision.action = .clarify then "请补充必要信息后再继续。"
  else if response.plan.isSome then
    "已生成多步骤执行计划，请在计划面板中确认下一步。"
  else
    match response.decision.action with
    | .openAgent => "已为你路由到 " ++ target "目标 Agent" ++ "。"
    | .continueAgent => "继续由 " ++ target "当前 Agent" ++ " 处理。"
    | .exitAgent => "已退出当前 Agent。"
    | .unsupported => "当前没有可用 Agent 可以处理这个请求。"
    | .reply => "已收到。"
    | .silent => ""
    | .clarify | .showPlan => "路由完成。"

/-- mirrors app/services/router_service.py:659-671 -/
def RouterService.finalizeAssistantMessage (router : RouterService) (response : RouteResponse) :
    RouteResponse :=
  let assistantMessage :=
    orText (router.cleanUserText response.assistantMessage)
      (router.assistantMessageFromRoute response)
  let decision := response.decision
  { response with
    assistantMessage := some assistantMessage
    decision :=
      if router.cleanUserText (some decision.message) = "" && assistantMessage ≠ "" then
        { decision with message := assistantMessage }
      else decision }

/-- Store the plan of a route; `none`: the very plan is stored.
mirrors app/services/router_service.py:917-935 -/
def storeRoutePlan (repo : MemoryPlanRepository) (plan : Plan) (now : Instant) :
    Except StoreError (MemoryPlanRepository × Option Plan) :=
  let existing := repo.get plan.planId plan.tenantId plan.userId
  if existing = some plan then .ok (repo, none)
  else
    match PlanService.savePlan repo plan none none none now with
    | .ok (repo, stored) => .ok (repo, some stored)
    | .error (.planStateConflict message) =>
      match existing with
      | some stored => .ok (repo, some stored)
      | none => .error (.planStateConflict message)
    | .error error => .error error

def logFailed (response : RouteResponse) (errorType : String) : RouteResponse :=
  let trace :=
    match Json.field response.context.metadata "context_trace" with
    | some (.obj trace) => trace
    | _ => []
  let persistence : Json :=
    .obj [("status", .str "error"), ("error_code", .str "route_log_persistence_failed"),
      ("error_type", .str errorType)]
  { response with
    context :=
      { response.context with
        metadata :=
          JsonDict.set response.context.metadata "context_trace"
            (.obj (JsonDict.set trace "persistence" persistence)) } }

/-- mirrors app/services/router_service.py:917-938 -/
def RouterService.storePlan (router : RouterService) (response : RouteResponse) (now : Instant) :
    Stateful RouteError MemoryPlanRepository RouteResponse :=
  match response.plan with
  | some plan =>
    if router.planService then do
      let stored ← Stateful.lift .store fun repo =>
        match storeRoutePlan repo plan now with
        | .ok (repo, stored) => (.ok stored, repo)
        | .error error => (.error error, repo)
      match stored with
      | some plan => return { response with plan := some plan, nextAction := plan.nextAction }
      | none => return response
    else pure response
  | none => pure response

/-- mirrors app/services/router_service.py:916-1032 -/
def RouterService.afterRoute (router : RouterService) (request : RouteRequest)
    (response : RouteResponse) (now : Instant) :
    Stateful RouteError MemoryPlanRepository RouteResponse := do
  let response ← router.storePlan response now
  Stateful.ofExcept id (router.record request response)
  match router.logFailure response with
  | some errorType => return logFailed response errorType
  | none => return response

/-! ## The route of an answer -/

/-- What was read before the LLM was called: the candidates, the plan that is active and the
assembled context. -/
structure RouteInput where
  request : RouteRequest
  agents : List AgentDefinition
  activePlan : Option Plan
  baseContext : RouteContext

/-- The answer with its plan owned by the caller, bound to the candidates and completed.
mirrors app/services/router_service.py:208-215 -/
def RouterService.rewriteAnswer (router : RouterService) (input : RouteInput)
    (answer : RouteResponse) (planId : String) (now : Instant) :
    Except RouteError RouteResponse := do
  let request := input.request
  let output ← bindPlanOwnership answer request
  let output := normalizeCandidateContext output input.baseContext (agentIds input.agents)
  let output := normalizeAgentContinuation output request
  let output := bindExitTarget output request
  let output ← router.ensurePlanForMultiTask output request input.agents planId now
  let output := denyUnavailablePlanAgents output
  let output := collapseSingleStepPlan output request
  return normalizeAgentContinuation output request

/-- The response before it is stored.
mirrors app/services/router_service.py:208-227 -/
def RouterService.respond (router : RouterService) (input : RouteInput)
    (answer : RouteResponse) (planId : String) (now : Instant) :
    Except RouteError RouteResponse := do
  let request := input.request
  let output ← router.rewriteAnswer input answer planId now
  let (output, policyValid) := router.applyPlanPolicy output input.agents
  let output := { output with requestId := request.requestId }
  let output ← postValidate output request policyValid
  let output := router.clarifyOnLowConfidence output
  let output ← router.clarifyOrAttachInvocation output request input.activePlan input.agents
  return router.finalizeAssistantMessage output

/-- `planId` is the id of a plan that is built of the text.
mirrors app/services/router_service.py:208-229 (`route`) -/
def RouterService.routeAnswer (router : RouterService) (input : RouteInput)
    (answer : RouteResponse) (planId : String) (now : Instant) :
    Stateful RouteError MemoryPlanRepository RouteResponse := do
  let response ← Stateful.ofExcept id (router.respond input answer planId now)
  router.afterRoute input.request response now

end OpenIntentRouter.Services
