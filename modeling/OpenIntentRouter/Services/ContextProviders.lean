import OpenIntentRouter.Core.Memo
import OpenIntentRouter.Schemas.AgentContext
import OpenIntentRouter.Services.ContextPipelineService

/-!
# Context providers

`app/services/context_providers.py`: what each provider makes of a request and of the sources
of the call, the key under which its candidates are cached, and what a cached candidate is
bound to again. A value that is not JSON is its `model_dump(mode="json")`.

* `ContextProviderContext`: what a provider is called with;
* one definition for each provider, `ContextProvider.collect` for all of them;
* `ContextProvider.cacheKey`, `ContextProvider.bindCached`.
-/
namespace OpenIntentRouter.Services

open Core Core.Text Schemas

/-- mirrors app/services/context_providers.py:23-30 -/
structure ContextProviderContext where
  request : ProviderRequest
  purpose : ContextPurpose
  consumer : ContextConsumer
  agent : Option ContextAgent
  sources : JsonDict

/-- mirrors app/schemas/context.py:34 -/
inductive ProviderStatus where
  | ok | empty | timeout | error | denied | skipped
  deriving DecidableEq

/-- mirrors app/services/context_providers.py:47-52 -/
structure ProviderCollection where
  candidates : List ContextCandidate
  status : ProviderStatus
  errorCode : Option String
  metadata : JsonDict
  deriving DecidableEq

/-- Why nothing is collected: the time is up, or an exception of this name. -/
inductive CollectError where
  | timeout
  | raised (name : String)
  deriving DecidableEq

/-- What the providers take from Python and from the validation of schemas: `float(value)`, with
what it raises, the datetime that a value is validated to, and the text of one. -/
structure ProviderTools where
  py : Python
  float : Json → Except CollectError Rat
  datetime : Json → Option Instant
  isoformat : Instant → String

def purposeValue : ContextPurpose → String
  | .routeDecision => "route_decision"
  | .agentExecution => "agent_execution"

/-- `["router"] if consumer == "router" else ["agent"]` -/
def visibilityFor (consumer : ContextConsumer) : List String :=
  if consumer.name = "router" then ["router"] else ["agent"]

/-- `consumer.startswith("agent:")` -/
def isAgentConsumer (consumer : ContextConsumer) : Bool :=
  "agent:".toList.isPrefixOf consumer.name.toList

def candidateFor (context : ContextProviderContext) (candidateId source scope content : String)
    (authority : ContextAuthority) : ContextCandidate where
  candidateId := candidateId
  source := source
  scope := scope
  role := none
  content := content
  structuredValue := none
  purpose := context.purpose
  consumers := [context.consumer.name]
  authority := authority
  visibility := visibilityFor context.consumer
  sourceRef := none
  dedupeKey := none
  conflictKey := none
  factType := none
  factValue := none
  confidence := 1
  priority := 50
  relevance := 1 / 2
  mustInclude := false
  permissionGranted := true
  enabled := true
  deleted := false
  expiresAt := none
  createdAt := none
  allowedAgentIds := []
  metadata := []

/-- mirrors app/services/context_providers.py:813-828 -/
def bindCandidate (context : ContextProviderContext) (candidate : ContextCandidate) :
    ContextCandidate :=
  { candidate with
    purpose := context.purpose
    consumers := [context.consumer.name]
    visibility := visibilityFor context.consumer
    allowedAgentIds :=
      match context.agent with
      | some agent => if isAgentConsumer context.consumer then [agent.agentId] else []
      | none => [] }

/-- mirrors app/services/context_providers.py:904-905 -/
def providerStatus : ContextStatus → ProviderStatus
  | .disabled => .skipped
  | .ok => .ok
  | .empty => .empty
  | .timeout => .timeout
  | .error => .error
  | .denied => .denied

/-! ## Reading JSON -/

/-- `value.get(key)`, where only a truthy value is of interest. -/
def truthyField (value : JsonDict) (key : String) : Option Json :=
  (Json.field value key).filter Json.truthy

/-- `value.get(key)` -/
def getField (value : JsonDict) (key : String) : Json := (Json.field value key).getD .null

/-- The objects of a list, each with its index; of anything else there are none. -/
def indexedObjects : Option Json → List (JsonDict × Nat)
  | some (.arr values) =>
    values.zipIdx.filterMap fun (value, index) =>
      match value with
      | .obj fields => some (fields, index)
      | _ => none
  | _ => []

/-- `active_plan` as a `dict`. -/
def objectField (sources : JsonDict) (key : String) : Option JsonDict :=
  match Json.field sources key with
  | some (.obj value) => some value
  | _ => none

def listField (value : JsonDict) (key : String) : List Json :=
  match Json.field value key with
  | some (.arr items) => items
  | _ => []

namespace ProviderTools

variable (tools : ProviderTools)

/-- `str(value.get(key) or fallback)` -/
def textOr (value : JsonDict) (key fallback : String) : String :=
  ((truthyField value key).map tools.py.str).getD fallback

/-- `f"{value.get(key)}"` -/
def shown (value : JsonDict) (key : String) : String := tools.py.str (getField value key)

/-- The validation of a `datetime | None`. -/
def createdAt (value : JsonDict) : Except CollectError (Option Instant) :=
  match getField value "created_at" with
  | .null => .ok none
  | other =>
    match tools.datetime other with
    | some instant => .ok (some instant)
    | none => .error (.raised "ValidationError")

/-! ## Summaries -/

/-- mirrors app/services/context_providers.py:702-704 -/
def boundedJson (value : JsonDict) : String :=
  let rendered := dumps tools.py (Json.sortKeys (.obj value))
  prefixText rendered 2000 ++ if 2000 < rendered.length then "..." else ""

def frontendKeys : List String :=
  ["page", "route", "selection", "locale", "timezone", "interaction", "ui_state"]

/-- `{key: value[key] for key in keys if key in value}` -/
def pickFields (keys : List String) (value : JsonDict) : JsonDict :=
  keys.filterMap fun key => (Json.field value key).map fun item => (key, item)

/-- mirrors app/services/context_providers.py:707-718 -/
def frontendSummary (value : JsonDict) : String := tools.boundedJson (pickFields frontendKeys value)

def plainText : Option Json → Option String
  | some (.str s) => if strip s = "" then none else some s
  | _ => none

def firstText (value : JsonDict) (keys : List String) : Option String :=
  keys.findSome? fun key => plainText (Json.field value key)

/-- mirrors app/services/context_providers.py:721-728 -/
def resultSummary (value : JsonDict) : String :=
  match (objectField value "output").bind fun output =>
      firstText output ["summary", "message", "text", "title"] with
  | some text => prefixText text 1000
  | none =>
    "Result " ++ tools.textOr value "result_id" "-" ++ " status: " ++
      tools.textOr value "status" "unknown"

/-- mirrors app/services/context_providers.py:731-735 -/
def eventSummary (value : JsonDict) : String :=
  "Event " ++ tools.textOr value "event_id" "-" ++ ": " ++
    tools.textOr value "event_type" "unknown" ++ " status=" ++
    tools.textOr value "status" "unknown"

/-- mirrors app/services/context_providers.py:738-742 -/
def eventDedupeKey (value : JsonDict) (eventId : String) : String :=
  match (objectField value "payload").bind (truthyField · "result_id") with
  | some resultId => "result:" ++ tools.py.str resultId
  | none => "event:" ++ eventId

/-- The line of a step that is not finished; a status that cannot be hashed raises. -/
def unfinishedStep (step : Json) : Except CollectError (Option String) :=
  match step with
  | .obj fields =>
    match inTexts (Json.field fields "status") ["pending", "running", "blocked"] with
    | .ok true => .ok (some (tools.shown fields "step_id" ++ ": " ++ tools.shown fields "description"))
    | .ok false => .ok none
    | .error _ => .error (.raised "TypeError")
  | _ => .ok none

/-- mirrors app/services/context_providers.py:745-758 -/
def planSummary (value : JsonDict) : Except CollectError String := do
  let lines ← (listField value "steps").mapM tools.unfinishedStep
  match lines.filterMap id with
  | [] =>
    return "Plan " ++ tools.textOr value "plan_id" "-" ++ " status: " ++
      tools.textOr value "status" "unknown"
  | unfinished => return "Active plan unfinished steps:\n" ++ "\n".intercalate (unfinished.take 10)

/-- mirrors app/services/context_providers.py:761-766 -/
def evidenceContent (value : JsonDict) : String :=
  (firstText value ["content", "text", "snippet", "question"]).getD (tools.boundedJson value)

/-- mirrors app/services/context_providers.py:769-773 -/
def boundedScore (value : Json) : Except CollectError Rat :=
  match tools.float value with
  | .ok q => .ok (min 1 (max 0 q))
  | .error (.raised name) =>
    if name = "TypeError" || name = "ValueError" then .ok (65 / 100) else .error (.raised name)
  | .error .timeout => .error .timeout

/-- mirrors app/services/context_providers.py:776-779 -/
def sourceItemKey (value : JsonDict) (fallback : String) : String :=
  match truthyField value "source_id",
      ((truthyField value "chunk_id").or (truthyField value "item_id")).or
        (truthyField value "id") with
  | some sourceId, some itemId =>
    "source:" ++ tools.py.str sourceId ++ ":" ++ tools.py.str itemId
  | _, _ => "evidence:" ++ fallback

/-- mirrors app/services/context_providers.py:782-793 -/
def artifactRef (value : Json) (index : Nat) : String × JsonDict :=
  let numbered := "artifact:" ++ toString index
  match value with
  | .str s => (s, [("artifact_id", .str s), ("type", .str "unknown"), ("uri", .str s)])
  | .obj fields =>
    let artifactId := tools.textOr fields "artifact_id" (tools.textOr fields "uri" numbered)
    (artifactId,
      [("artifact_id", .str artifactId), ("type", .str (tools.textOr fields "type" "unknown")),
        ("uri", .str (tools.textOr fields "uri" artifactId)), ("title", getField fields "title")])
  | _ =>
    (numbered, [("artifact_id", .str numbered), ("type", .str "unknown"), ("uri", .str numbered)])

/-! ## What the request and the sources state -/

variable (context : ContextProviderContext)

/-- `request.request_id or request.session_id` -/
def requestRef (request : ProviderRequest) : String :=
  (request.requestId.filter (· ≠ "")).getD request.sessionId

/-- mirrors app/services/context_providers.py:109-132 (`CurrentInputProvider.collect`) -/
def currentInput : List ContextCandidate :=
  let request := context.request
  [{ candidateFor context "current_input" "current_input" "request" request.text .authoritative with
      role := some "user"
      sourceRef := some ("request:" ++ requestRef request ++ ":input")
      priority := 100
      relevance := 1
      mustInclude := true
      metadata :=
        [("request_source", .str request.source.value),
          ("attachments_count", .num request.attachments.length), ("current_turn", .bool true)] }]

/-- mirrors app/services/context_providers.py:141-166 (`CurrentAgentProvider.collect`) -/
def currentAgent : List ContextCandidate :=
  context.request.currentAgent.toList.map fun current =>
    { candidateFor context ("current_agent:" ++ current.agentId) "current_agent" "agent"
        ("Current agent: " ++ current.agentId) .authoritative with
      structuredValue := some current.dump
      sourceRef := some ("agent:" ++ current.agentId)
      priority := 95
      relevance := 1
      mustInclude := true
      metadata :=
        [("agent_id", .str current.agentId), ("agent_session_id", textJson current.agentSessionId),
          ("run_id", textJson current.runId)] }

/-- mirrors app/services/context_providers.py:175-193 (`FrontendContextProvider.collect`) -/
def frontendContext : List ContextCandidate :=
  let value := context.request.frontendContext
  [{ candidateFor context "frontend_context" "frontend_context" "request"
        (tools.frontendSummary value) .hostAsserted with
      structuredValue := some value
      sourceRef := some ("request:" ++ requestRef context.request ++ ":frontend")
      priority := 55
      relevance := 6 / 10
      metadata := [("permission_evidence", .bool false)] }]

/-- mirrors app/services/context_providers.py:209-248 -/
def historyCandidate (source : String) (value : JsonDict) (index : Nat) :
    Except CollectError ContextCandidate := do
  let messageId := tools.textOr value "message_id" (source ++ ":" ++ toString index)
  let role := tools.textOr value "role" ""
  let created ← tools.createdAt value
  return {
    candidateFor context (source ++ ":" ++ messageId) source
      (if source = "agent_history" then "agent" else "session") (tools.textOr value "content" "")
      (if role = "user" then .authoritative
        else if role = "agent" || role = "assistant" then .modelGenerated
        else .derived) with
    role := if role = "" then none else some role
    sourceRef := some ("message:" ++ messageId)
    dedupeKey := some ("message:" ++ messageId)
    priority := if source = "agent_history" then 48 else 40
    relevance := 6 / 10
    createdAt := created
    allowedAgentIds :=
      match truthyField value "agent_id" with
      | some agentId => if source = "agent_history" then [tools.py.str agentId] else []
      | none => []
    metadata :=
      [("message_id", .str messageId), ("agent_id", getField value "agent_id"),
        ("agent_session_id", getField value "agent_session_id"),
        ("request_id", getField value "request_id"), ("event_id", getField value "event_id")] }

/-- mirrors app/services/context_providers.py:202-249 (`HistoryProvider.collect`) -/
def history : Except CollectError (List ContextCandidate) := do
  let candidates := fun source =>
    (indexedObjects (Json.field context.sources source)).mapM fun (value, index) =>
      tools.historyCandidate context source value index
  return (← candidates "host_history") ++ (← candidates "agent_history")

/-- mirrors app/services/context_providers.py:261-297 -/
def resultCandidate (value : JsonDict) (index : Nat) : Except CollectError ContextCandidate := do
  let resultId := tools.textOr value "result_id" ("result:" ++ toString index)
  let created ← tools.createdAt value
  return {
    candidateFor context ("recent_result:" ++ resultId) "recent_result" "session"
      (tools.resultSummary value) .authoritative with
    structuredValue := some
      [("result_id", .str resultId), ("run_id", getField value "run_id"),
        ("agent_id", getField value "agent_id"), ("plan_id", getField value "plan_id"),
        ("step_id", getField value "step_id"), ("status", getField value "status"),
        ("artifact_refs", (truthyField value "artifact_refs").getD (.arr [])),
        ("summary", .str (tools.resultSummary value))]
    sourceRef := some ("result:" ++ resultId)
    dedupeKey := some ("result:" ++ resultId)
    priority := 72
    relevance := 3 / 4
    createdAt := created
    metadata :=
      [("result_id", .str resultId), ("run_id", getField value "run_id"),
        ("agent_id", getField value "agent_id"), ("status", getField value "status")] }

/-- mirrors app/services/context_providers.py:258-298 (`ResultProvider.collect`) -/
def results : Except CollectError (List ContextCandidate) :=
  (indexedObjects (Json.field context.sources "recent_results")).mapM fun (value, index) =>
    tools.resultCandidate context value index

/-- mirrors app/services/context_providers.py:310-337 -/
def eventCandidate (value : JsonDict) (index : Nat) : Except CollectError ContextCandidate := do
  let eventId := tools.textOr value "event_id" ("event:" ++ toString index)
  let referenced := (truthyField value "referenced").isSome
  let created ← tools.createdAt value
  return {
    candidateFor context ("recent_event:" ++ eventId) "recent_event" "session"
      (tools.eventSummary value) .authoritative with
    structuredValue := some value
    sourceRef := some ("event:" ++ eventId)
    dedupeKey := some (tools.eventDedupeKey value eventId)
    priority := if referenced then 74 else 56
    relevance := if referenced then 8 / 10 else 55 / 100
    createdAt := created
    metadata :=
      [("event_id", .str eventId), ("event_type", getField value "event_type"),
        ("agent_id", getField value "agent_id"), ("referenced", .bool referenced)] }

/-- mirrors app/services/context_providers.py:307-338 (`EventProvider.collect`) -/
def events : Except CollectError (List ContextCandidate) :=
  (indexedObjects (Json.field context.sources "recent_events")).mapM fun (value, index) =>
    tools.eventCandidate context value index

/-- mirrors app/services/context_providers.py:347-372 (`PlanProvider.collect`) -/
def plan : Except CollectError (List ContextCandidate) :=
  match objectField context.sources "active_plan" with
  | none => .ok []
  | some value => do
    let planId := tools.textOr value "plan_id" "active"
    let summary ← tools.planSummary value
    return [{
      candidateFor context ("current_plan:" ++ planId) "current_plan" "plan" summary
        .authoritative with
      structuredValue := some value
      sourceRef := some ("plan:" ++ planId)
      dedupeKey := some ("plan:" ++ planId)
      priority := 90
      relevance := 95 / 100
      mustInclude := true
      metadata := [("plan_id", .str planId), ("status", getField value "status")] }]

/-- mirrors app/services/context_providers.py:384-413 -/
def evidenceCandidate (value : JsonDict) (index : Nat) : Except CollectError ContextCandidate := do
  let evidenceId :=
    tools.textOr value "id" (tools.textOr value "evidence_id" ("evidence:" ++ toString index))
  let score ← tools.boundedScore
    (((truthyField value "score").or (truthyField value "confidence")).getD
      (getField value "relevance"))
  return {
    candidateFor context ("evidence:" ++ evidenceId) "evidence" "request"
      (tools.evidenceContent value) .derived with
    structuredValue := some value
    visibility := ["router"]
    sourceRef := some ("evidence:" ++ evidenceId)
    dedupeKey := some (tools.sourceItemKey value evidenceId)
    priority := 58
    relevance := score
    confidence := score
    metadata :=
      [("evidence_id", .str evidenceId), ("source_id", getField value "source_id"),
        ("score", .num score)] }

/-- mirrors app/services/context_providers.py:381-414 (`EvidenceContextProvider.collect`) -/
def evidence : Except CollectError (List ContextCandidate) :=
  (indexedObjects (Json.field context.sources "evidence")).mapM fun (value, index) =>
    tools.evidenceCandidate context value index

/-- mirrors app/services/context_providers.py:433-459 -/
def artifactCandidate (resultId : String) (ref : String × JsonDict) : ContextCandidate :=
  let (artifactId, fields) := ref
  { candidateFor context ("artifact:" ++ artifactId) "artifact" "session"
      ("Artifact " ++ artifactId ++ ": " ++
        ((truthyField fields "title").map tools.py.str).getD (tools.shown fields "type"))
      .authoritative with
    structuredValue := some (fields ++ [("result_id", .str resultId)])
    sourceRef := some ("artifact:" ++ artifactId)
    dedupeKey := some ("artifact:" ++ artifactId)
    priority := 70
    relevance := 72 / 100
    metadata := [("artifact_id", .str artifactId), ("result_id", .str resultId)] }

def artifactRefs (result : JsonDict) : List (String × String × JsonDict) :=
  (listField result "artifact_refs").zipIdx.map fun (ref, index) =>
    (tools.textOr result "result_id" "unknown", tools.artifactRef ref index)

def addArtifact (candidates : List ContextCandidate) (found : String × String × JsonDict) :
    List ContextCandidate :=
  let candidate := tools.artifactCandidate context found.1 found.2
  if candidates.any (·.candidateId = candidate.candidateId) then candidates
  else candidates ++ [candidate]

/-- mirrors app/services/context_providers.py:426-460 (`ArtifactProvider.collect`) -/
def artifacts : List ContextCandidate :=
  let results := (indexedObjects (Json.field context.sources "recent_results")).map Prod.fst
  (results.flatMap tools.artifactRefs).foldl (tools.addArtifact context) []

end ProviderTools

/-! ## The active plan -/

/-- mirrors app/services/context_providers.py:836-848 -/
def activePlanValue (context : ContextProviderContext) : Except CollectError (Option JsonDict) :=
  match objectField context.sources "active_plan" with
  | none => .ok none
  | some value =>
    match inTexts (Json.field value "status") ["pending", "running", "blocked"] with
    | .error _ => .error (.raised "TypeError")
    | .ok active =>
      if active && Json.pyEq (getField value "tenant_id") (textJson context.request.tenantId) &&
          Json.pyEq (getField value "user_id") (.str context.request.userId) then .ok (some value)
      else .ok none

def currentStep (plan : JsonDict) : Json :=
  ((listField plan "steps").find? fun step =>
    match step with
    | .obj fields => Json.pyEq (getField fields "step_id") (getField plan "current_step_id")
    | _ => false).getD .null

def completedSteps (plan : JsonDict) : Except CollectError (List Json) :=
  ((listField plan "steps").filterMap fun step =>
    match step with
    | .obj fields =>
      if Json.pyEq (getField fields "status") (.str "completed") then some (getField fields "step_id")
      else none
    | _ => none).mapM fun stepId =>
      if hashable stepId then .ok stepId else .error (.raised "TypeError")

/-- All parents of a step are completed; parents that cannot be iterated or hashed raise. -/
def dependenciesMet (completed : List Json) (fields : JsonDict) : Except CollectError Bool :=
  match (Json.field fields "depends_on").getD (.arr []) with
  | .arr parents => meets parents
  | .obj entries => meets (entries.map fun entry => .str entry.1)
  | .str s => meets (s.toList.map fun c => .str (String.ofList [c]))
  | .null | .bool _ | .num _ => .error (.raised "TypeError")
where
  /-- `all(parent in completed for parent in parents)` -/
  meets : List Json → Except CollectError Bool
    | [] => .ok true
    | parent :: rest =>
      if !hashable parent then .error (.raised "TypeError")
      else if completed.any (Json.pyEq parent ·) then meets rest
      else .ok false

def nextStep (completed : List Json) : List Json → Except CollectError Json
  | [] => .ok .null
  | .obj fields :: rest => do
    if !Json.pyEq (getField fields "status") (.str "pending") then nextStep completed rest
    else if ← dependenciesMet completed fields then return .obj fields
    else nextStep completed rest
  | _ :: rest => nextStep completed rest

/-! ## Retrieval -/

structure ProviderSettings where
  contextPolicyVersion : String
  memoryDefaultMaxItems : Int
  knowledgeDefaultMaxItems : Int
  knowledgeTimeout : Rat

inductive RetrievalStage where
  | route | agent
  deriving DecidableEq

def RetrievalStage.value : RetrievalStage → String
  | .route => "route"
  | .agent => "agent"

/-- The provider, with what the service of memories answers and `requests_plan_continuation`.
mirrors app/services/context_providers.py:463-478 (`MemoryRetrievalProvider`) -/
structure MemoryRetrievalProvider where
  settings : ProviderSettings
  stage : RetrievalStage
  routeMemoryScopes : List String
  governedContextMemoryEnabled : Bool
  recallEnabled : Bool
  continues : String → Bool
  «recall» : Option (MemoryRecallRequest → Except CollectError MemoryRecallResponse)

/-- mirrors app/services/context_providers.py:591-598 -/
structure KnowledgeRetrievalProvider where
  settings : ProviderSettings
  retrieve : KnowledgeProviderRequest → Except CollectError KnowledgeProviderResult

namespace MemoryRetrievalProvider

variable (provider : MemoryRetrievalProvider) (tools : ProviderTools)
  (context : ContextProviderContext)

/-- mirrors app/services/context_providers.py:585-588 -/
def scopes : List String :=
  match provider.stage, context.agent with
  | .agent, some agent => agent.memory.scopes
  | _, _ => provider.routeMemoryScopes

/-- mirrors app/services/context_providers.py:480-491 -/
def applies : Bool :=
  provider.recall.isSome &&
    match provider.stage with
    | .route => provider.governedContextMemoryEnabled
    | .agent =>
      provider.recallEnabled &&
        context.agent.any fun agent => agent.memory.mode = .prefetch && agent.memory.scopes ≠ []

def maxItems : Int :=
  match provider.stage, context.agent with
  | .agent, some agent => agent.memory.maxItems
  | _, _ => provider.settings.memoryDefaultMaxItems

/-- mirrors app/services/context_providers.py:523-531 -/
def recallRequest : Except CollectError MemoryRecallRequest :=
  let maxItems := provider.maxItems context
  if 0 ≤ maxItems ∧ maxItems ≤ 50 then
    .ok {
      query := context.request.text
      user := context.request.user
      scopes := provider.scopes context
      agentId := context.agent.map (·.agentId)
      subjectId := context.request.userId
      maxItems := maxItems.toNat
      metadataFilters := [("defer_usage_event", .bool true)] }
  else .error (.raised "ValidationError")

/-- mirrors app/services/context_providers.py:851-866 -/
def matchesActivePlanPointer (item : MemoryContextItem) : Except CollectError (Option JsonDict) := do
  match ← activePlanValue context with
  | none => return none
  | some plan =>
    if context.purpose = .routeDecision && !provider.continues context.request.text then return none
    let own := fun key => (Json.field item.structuredValue key).getD (getField plan key)
    if Json.pyEq (getField item.structuredValue "object_type") (.str "plan") &&
        Json.pyEq (getField item.structuredValue "plan_id") (getField plan "plan_id") &&
        Json.pyEq (own "tenant_id") (getField plan "tenant_id") &&
        Json.pyEq (own "user_id") (getField plan "user_id") then return some plan
    return none

/-- mirrors app/services/context_providers.py:869-901 -/
def canonicalizeTaskPointer (plan : JsonDict) (item : MemoryContextItem) :
    Except CollectError MemoryContextItem := do
  let completed ← completedSteps plan
  let next ← nextStep completed (listField plan "steps")
  return {
    item with
    content := "Canonical active Plan " ++ tools.shown plan "plan_id" ++ " is " ++
      tools.shown plan "status" ++ "; current step: " ++
      tools.textOr plan "current_step_id" "none" ++ "."
    structuredValue :=
      [("object_type", .str "plan"), ("plan_id", getField plan "plan_id"),
        ("tenant_id", getField plan "tenant_id"), ("user_id", getField plan "user_id"),
        ("session_id", getField plan "session_id"), ("status", getField plan "status"),
        ("current_step_id", getField plan "current_step_id"), ("current_step", currentStep plan),
        ("next_step", next)]
    metadata := JsonDict.merge item.metadata
      [("plan_id", getField plan "plan_id"), ("canonical_status", getField plan "status"),
        ("canonical_current_step_id", getField plan "current_step_id")] }

/-- The memory as the agent sees it, if it does.
mirrors app/services/context_providers.py:535-545 -/
def runtimeItem (item : MemoryContextItem) : Except CollectError (Option MemoryContextItem) := do
  if item.scope ≠ "task_memory" then return some item
  match ← provider.matchesActivePlanPointer context item with
  | none => return none
  | some plan =>
    if provider.stage = .route then return none
    return some (← canonicalizeTaskPointer tools plan item)

/-- The validation of a `str | int | float | bool | None`. -/
def factValueOf : Json → Except CollectError (Option FactValue)
  | .null => .ok none
  | .bool b => .ok (some (.flag b))
  | .num q => .ok (some (.number q))
  | .str s => .ok (some (.text s))
  | .arr _ | .obj _ => .error (.raised "ValidationError")

/-- mirrors app/services/context_providers.py:547-573 -/
def candidate (status : ContextStatus) (item : MemoryContextItem) :
    Except CollectError ContextCandidate := do
  let factValue ← factValueOf (getField item.metadata "fact_value")
  return {
    candidateFor context ("memory:" ++ item.memoryId) "memory" "user" item.content .derived with
    structuredValue := some (item.dump tools.isoformat)
    sourceRef := some ("memory:" ++ item.memoryId)
    dedupeKey := some ("memory:" ++ item.memoryId)
    conflictKey := (truthyField item.metadata "conflict_key").map tools.py.str
    factType := some item.scope
    factValue := factValue
    confidence := item.confidence
    priority := 64
    relevance := item.relevance
    expiresAt := item.ttlExpiresAt
    allowedAgentIds := context.agent.toList.map (·.agentId)
    metadata := JsonDict.merge item.metadata
      [("memory_id", .str item.memoryId), ("scope", .str item.scope),
        ("status", .str status.value)] }

/-- mirrors app/services/context_providers.py:514-583 -/
def collect (recalls : MemoryRecallRequest → Except CollectError MemoryRecallResponse) :
    Except CollectError ProviderCollection := do
  let response ← recalls (← provider.recallRequest context)
  let runtime := response.context
  let items ← runtime.items.mapM (provider.runtimeItem tools context)
  let candidates ← (items.filterMap id).mapM (candidate tools context runtime.status)
  return {
    candidates := candidates
    status := providerStatus runtime.status
    errorCode := runtime.errors.head?
    metadata :=
      [("expired_count", .num response.expiredCount), ("denied_count", .num response.deniedCount)] }

end MemoryRetrievalProvider

namespace KnowledgeRetrievalProvider

variable (provider : KnowledgeRetrievalProvider) (tools : ProviderTools)
  (context : ContextProviderContext)

/-- mirrors app/services/context_providers.py:691-694 -/
def sourceIds : List String := context.agent.elim [] (·.knowledge.sourceIds)

/-- mirrors app/services/context_providers.py:696-699 -/
def sourceTags : List String := context.agent.elim [] (·.knowledge.sourceTags)

/-- mirrors app/services/context_providers.py:600-601 -/
def applies : Bool := context.agent.any fun agent => agent.knowledge.mode = .prefetch

/-- mirrors app/services/context_providers.py:629-650 -/
def knowledgeRequest : Except CollectError KnowledgeProviderRequest :=
  let maxItems : Int :=
    context.agent.elim provider.settings.knowledgeDefaultMaxItems (·.knowledge.maxItems)
  if 0 ≤ maxItems ∧ maxItems ≤ 50 then
    .ok {
      query := context.request.text
      principal := context.request.user
      purpose := context.purpose
      consumer := context.consumer.name
      sourceIds := sourceIds context
      sourceTags := sourceTags context
      maxItems := maxItems.toNat
      timeoutSeconds := provider.settings.knowledgeTimeout
      requestId := context.request.requestId
      sessionId := context.request.sessionId }
  else .error (.raised "ValidationError")

/-- mirrors app/services/context_providers.py:653-678 -/
def candidate (status : ContextStatus) (item : KnowledgeContextItem) : ContextCandidate :=
  let ref := "source:" ++ item.sourceId ++ ":" ++ item.itemId
  { candidateFor context ("knowledge:" ++ item.sourceId ++ ":" ++ item.itemId) "knowledge" "global"
      item.content .derived with
    structuredValue := some (item.dump tools.isoformat)
    sourceRef := some ref
    dedupeKey := some ref
    confidence := item.score
    priority := 68
    relevance := item.score
    allowedAgentIds := context.agent.toList.map (·.agentId)
    metadata :=
      [("item_id", .str item.itemId), ("source_id", .str item.sourceId), ("score", .num item.score),
        ("citation", item.citationJson), ("status", .str status.value)] }

/-- mirrors app/services/context_providers.py:626-689 -/
def collect : Except CollectError ProviderCollection := do
  let response ← provider.retrieve (← provider.knowledgeRequest context)
  return {
    candidates := response.items.map (candidate tools context response.status)
    status := providerStatus response.status
    errorCode := response.errorCode
    metadata := JsonDict.merge response.metadata
      [("trace_id", textJson response.traceId),
        ("warnings", .arr (response.warnings.map .str))] }

end KnowledgeRetrievalProvider

/-! ## The providers -/

/-- The classes that are a `ContextProvider`. -/
inductive ContextProvider where
  | static (name : String) (candidates : List ContextCandidate) (status : ContextStatus)
      (errorCode : Option String)
  | currentInput | currentAgent | frontendContext | history | results | events | plan | evidence
  | artifacts
  | memory (provider : MemoryRetrievalProvider)
  | knowledge (provider : KnowledgeRetrievalProvider)

namespace ContextProvider

variable (tools : ProviderTools) (context : ContextProviderContext)

def name : ContextProvider → String
  | .static name _ _ _ => name
  | .currentInput => "current_input"
  | .currentAgent => "current_agent"
  | .frontendContext => "frontend_context"
  | .history => "history"
  | .results => "results"
  | .events => "events"
  | .plan => "plan"
  | .evidence => "evidence"
  | .artifacts => "artifacts"
  | .memory provider => provider.stage.value ++ "_memory"
  | .knowledge _ => "agent_knowledge"

/-- The `applies` of each class. -/
def applies : ContextProvider → Bool
  | .static .. | .currentInput => true
  | .currentAgent => context.request.currentAgent.isSome
  | .frontendContext => context.request.frontendContext ≠ []
  | .history =>
    (truthyField context.sources "host_history").isSome ||
      (truthyField context.sources "agent_history").isSome
  | .results => (truthyField context.sources "recent_results").isSome
  | .events => (truthyField context.sources "recent_events").isSome
  | .plan => (truthyField context.sources "active_plan").isSome
  | .evidence => (truthyField context.sources "evidence").isSome
  | .artifacts =>
    (indexedObjects (Json.field context.sources "recent_results")).any fun (result, _) =>
      (truthyField result "artifact_refs").isSome
  | .memory provider => provider.applies context
  | .knowledge _ => KnowledgeRetrievalProvider.applies context

def cacheable : ContextProvider → Bool
  | .static .. => false
  | _ => true

/-- `sha256(json.dumps(signature, sort_keys=True, ensure_ascii=False))` -/
def digest (signature : JsonDict) : String :=
  tools.py.sha256 (dumps tools.py (Json.sortKeys (.obj signature)))

/-- mirrors app/services/context_providers.py:63-78 (`BaseContextProvider.cache_key`) -/
def baseKey (name : String) : String :=
  name ++ ":" ++ digest tools
    [("provider", .str name), ("request_id", textJson context.request.requestId),
      ("user_id", .str context.request.userId), ("tenant_id", textJson context.request.tenantId),
      ("query", .str context.request.text), ("purpose", .str (purposeValue context.purpose)),
      ("consumer", .str context.consumer.name),
      ("agent_id", textJson (context.agent.map (·.agentId)))]

/-- mirrors app/services/context_providers.py:493-507 (`MemoryRetrievalProvider.cache_key`) -/
def memoryKey (provider : MemoryRetrievalProvider) : Except CollectError String := do
  let plan ← activePlanValue context
  return "retrieval:" ++ digest tools
    [("provider", .str "memory_retrieval"), ("stage", .str provider.stage.value),
      ("agent_id", textJson (context.agent.map (·.agentId))),
      ("user_id", .str context.request.userId), ("tenant_id", textJson context.request.tenantId),
      ("query", .str context.request.text),
      ("scopes", .arr ((provider.scopes context).map .str)),
      ("active_plan_id", plan.elim .null (getField · "plan_id")),
      ("active_plan_status", plan.elim .null (getField · "status")),
      ("policy_version", .str provider.settings.contextPolicyVersion)]

/-- mirrors app/services/context_providers.py:603-613 (`KnowledgeRetrievalProvider.cache_key`) -/
def knowledgeKey (provider : KnowledgeRetrievalProvider) : String :=
  "retrieval:" ++ digest tools
    [("provider", .str "knowledge_retrieval"), ("user_id", .str context.request.userId),
      ("tenant_id", textJson context.request.tenantId), ("query", .str context.request.text),
      ("source_ids", .arr ((KnowledgeRetrievalProvider.sourceIds context).map .str)),
      ("source_tags", .arr ((KnowledgeRetrievalProvider.sourceTags context).map .str)),
      ("policy_version", .str provider.settings.contextPolicyVersion)]

/-- The key of a call; that of the memories raises for a plan whose status cannot be hashed. -/
def cacheKey (provider : ContextProvider) : Except CollectError String :=
  match provider with
  | .memory retrieval => memoryKey tools context retrieval
  | .knowledge retrieval => .ok (knowledgeKey tools context retrieval)
  | other => .ok (baseKey tools context other.name)

/-- mirrors app/services/context_providers.py:509-512 and :615-624, which the
other classes lack -/
def bindCached (provider : ContextProvider) (candidates : List ContextCandidate) :
    List ContextCandidate :=
  match provider with
  | .memory _ => candidates.map (bindCandidate context)
  | .knowledge _ =>
    let allowed := KnowledgeRetrievalProvider.sourceIds context
    (candidates.map (bindCandidate context)).filter fun item =>
      allowed = [] || allowed.contains (tools.shown item.metadata "source_id")
  | _ => candidates

def listed (candidates : List ContextCandidate) : ProviderCollection where
  candidates := candidates
  status := if candidates = [] then .empty else .ok
  errorCode := none
  metadata := []

/-- The `collect` of each class. -/
def collect (provider : ContextProvider) : Except CollectError ProviderCollection :=
  match provider with
  | .static _ candidates status errorCode =>
    .ok ⟨candidates.map (bindCandidate context), providerStatus status, errorCode, []⟩
  | .currentInput => .ok (listed (ProviderTools.currentInput context))
  | .currentAgent => .ok (listed (ProviderTools.currentAgent context))
  | .frontendContext => .ok (listed (tools.frontendContext context))
  | .history => (tools.history context).map listed
  | .results => (tools.results context).map listed
  | .events => (tools.events context).map listed
  | .plan => (tools.plan context).map listed
  | .evidence => (tools.evidence context).map listed
  | .artifacts => .ok (listed (tools.artifacts context))
  | .memory retrieval =>
    match retrieval.recall with
    | some recalls => retrieval.collect tools context recalls
    | none => .error (.raised "AttributeError")
  | .knowledge retrieval => retrieval.collect tools context

end ContextProvider

/-! ## Collecting through the session -/

/-- mirrors app/schemas/context.py:233-239, without the cache -/
structure ContextAssemblySession where
  requestId : String
  userId : String
  tenantId : Option String
  deriving DecidableEq

/-- mirrors app/services/context_pipeline_service.py:922-930 -/
def assemblyMatches (session : Option ContextAssemblySession) (request : ProviderRequest) : Bool :=
  session.any fun session =>
    session.userId = request.userId && session.tenantId = request.tenantId &&
      session.requestId = (request.requestId.filter (· ≠ "")).getD session.requestId

/-- mirrors app/schemas/context.py:174-183 -/
structure ProviderOutcome where
  provider : String
  status : ProviderStatus
  candidateCount : Nat
  cacheHit : Bool
  errorCode : Option String
  metadata : JsonDict
  deriving DecidableEq

/-- What a provider is asked in a call of `assemble`. -/
structure ProviderCall where
  provider : ContextProvider
  purpose : ContextPurpose
  consumer : ContextConsumer
  agent : Option ContextAgent
  sources : JsonDict

/-- The candidates and the outcome of a call; an error where the call raises. -/
abbrev ProviderAnswer := Except CollectError (List ContextCandidate × ProviderOutcome)

namespace ProviderCall

variable (tools : ProviderTools) (request : ProviderRequest)
  (session : Option ContextAssemblySession) (call : ProviderCall)

def context : ContextProviderContext where
  request := request
  purpose := call.purpose
  consumer := call.consumer
  agent := call.agent
  sources := call.sources

/-- The key that is looked up, if the call comes to the cache.
mirrors app/services/context_pipeline_service.py:105-109 -/
def cacheKey : Option String :=
  let context := call.context request
  if call.provider.applies context && assemblyMatches session request then
    (call.provider.cacheKey tools context).toOption
  else none

/-- mirrors app/services/context_pipeline_service.py:109-120 -/
def hit (cached : List ContextCandidate) : ProviderAnswer :=
  let candidates := call.provider.bindCached tools (call.context request) cached
  .ok (candidates,
    ⟨call.provider.name, if candidates = [] then .empty else .ok, candidates.length, true, none, []⟩)

/-- The answer that does not come from the cache; the message of an exception is left out.
mirrors app/services/context_pipeline_service.py:105-107 and :121-160 -/
def miss : ProviderAnswer :=
  let context := call.context request
  let name := call.provider.name
  if !call.provider.applies context then .ok ([], ⟨name, .skipped, 0, false, none, []⟩)
  else
    match call.provider.cacheKey tools context with
    | .error e => .error e
    | .ok _ =>
      match call.provider.collect tools context with
      | .ok collected =>
        .ok (collected.candidates,
          ⟨name, collected.status, collected.candidates.length, false, collected.errorCode,
            collected.metadata⟩)
      | .error .timeout => .ok ([], ⟨name, .timeout, 0, false, some "provider_timeout", []⟩)
      | .error (.raised error) => .ok ([], ⟨name, .error, 0, false, some error, []⟩)

/-- What is cached of a call. The candidates are stored as their dumps, from which they are
validated to themselves.
mirrors app/services/context_pipeline_service.py:138-141 -/
def stored : Option (List ContextCandidate) :=
  if call.provider.cacheable then
    (call.provider.collect tools (call.context request)).toOption.map (·.candidates)
  else none

/-- mirrors app/services/context_pipeline_service.py:85-160, for calls that
share a session -/
def collectProvider : Memo ProviderCall String (List ContextCandidate) ProviderAnswer where
  key := cacheKey tools request session
  compute := miss tools request
  kept := stored tools request
  reply := hit tools request

end ProviderCall

end OpenIntentRouter.Services
