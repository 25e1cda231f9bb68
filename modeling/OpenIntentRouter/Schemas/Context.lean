import OpenIntentRouter.Core.Dict
import OpenIntentRouter.Schemas.Routing

/-!
# Context schemas

Budgets, candidates and items of the context pipeline. The bounds of the schema that
the pipeline relies on are fields; sources, scopes and roles are texts, since the schema
takes any. Floating-point values are rational numbers.
-/
namespace OpenIntentRouter.Schemas

open Core

/-- mirrors app/schemas/context.py:26 -/
inductive ContextPurpose where
  | routeDecision | agentExecution
  deriving DecidableEq

/-- mirrors app/schemas/context.py:27-32 -/
inductive ContextAuthority where
  | authoritative | derived | hostAsserted | modelGenerated
  deriving DecidableEq

def ContextAuthority.value : ContextAuthority → String
  | .authoritative => "authoritative"
  | .derived => "derived"
  | .hostAsserted => "host_asserted"
  | .modelGenerated => "model_generated"

/-- mirrors app/schemas/context.py:24 -/
inductive ContextSelectionStatus where
  | included | dropped | truncated | summaryPlaceholder
  deriving DecidableEq

/-- mirrors app/schemas/context.py:35-50 -/
inductive ContextDecisionOutcome where
  | included | truncated | referenced | budgetDropped | permissionDenied | visibilityDenied
  | purposeDenied | expired | disabled | duplicateDropped | overriddenForTurn | superseded
  | unresolvedConflict
  deriving DecidableEq

/-- mirrors app/schemas/context.py:53-59 -/
structure ContextBudget where
  maxTokens : Nat
  sourceBudgets : Dict String Int
  perItemTokenLimit : Option Nat
  perItemCharLimit : Option Nat
  charsPerToken : Rat
  allowSummaryPlaceholder : Bool
  maxTokens_pos : 0 < maxTokens
  perItemTokenLimit_pos : ∀ limit ∈ perItemTokenLimit, 0 < limit
  perItemCharLimit_pos : ∀ limit ∈ perItemCharLimit, 0 < limit
  charsPerToken_pos : 0 < charsPerToken

/-- What a candidate states, if not its content: `str | int | float | bool`. An `int` and a `float`
are one type here, equal values are one fact value. -/
inductive FactValue where
  | text (s : String)
  | number (q : Rat)
  | flag (b : Bool)
  deriving DecidableEq

def FactValue.json : FactValue → Json
  | .text s => .str s
  | .number q => .num q
  | .flag b => .bool b

/-- mirrors app/schemas/context.py:140-171 -/
structure ContextCandidate where
  candidateId : String
  source : String
  scope : String
  role : Option String
  content : String
  structuredValue : Option JsonDict
  purpose : ContextPurpose
  consumers : List String
  authority : ContextAuthority
  visibility : List String
  sourceRef : Option String
  dedupeKey : Option String
  conflictKey : Option String
  factType : Option String
  factValue : Option FactValue
  confidence : Rat
  priority : Nat
  relevance : Rat
  mustInclude : Bool
  permissionGranted : Bool
  enabled : Bool
  deleted : Bool
  expiresAt : Option Instant
  createdAt : Option Instant
  allowedAgentIds : List String
  metadata : JsonDict
  deriving DecidableEq

/-- mirrors app/schemas/context.py:62-87 -/
structure ContextItem where
  itemId : String
  source : String
  scope : String
  role : Option String
  content : String
  structuredValue : Option JsonDict
  priority : Nat
  relevance : Rat
  createdAt : Option Instant
  tokenEstimate : Nat
  charCount : Nat
  included : Bool
  status : ContextSelectionStatus
  dropReason : Option String
  truncated : Bool
  summaryPlaceholder : Bool
  mustInclude : Bool
  purpose : ContextPurpose
  consumer : String
  authority : ContextAuthority
  visibility : List String
  sourceRef : Option String
  dedupeKey : Option String
  conflictKey : Option String
  metadata : JsonDict
  deriving DecidableEq

/-- mirrors app/schemas/context.py:90-107 -/
structure ContextSelectionSummary where
  itemId : String
  source : String
  scope : String
  role : Option String
  priority : Nat
  relevance : Rat
  tokenEstimate : Nat
  charCount : Nat
  included : Bool
  status : ContextSelectionStatus
  dropReason : Option String
  truncated : Bool
  summaryPlaceholder : Bool
  agentId : Option String
  agentSessionId : Option String
  createdAt : Option Instant
  metadata : JsonDict
  deriving DecidableEq

/-- mirrors app/schemas/context.py:110-119 -/
structure ContextUsage where
  budgetTokens : Nat
  usedTokens : Nat
  includedCount : Nat
  droppedCount : Nat
  truncatedCount : Nat
  summaryPlaceholderCount : Nat
  sourceDistribution : Dict String Nat
  dropReasons : Dict String Nat

/-- mirrors app/schemas/context.py:185-195 -/
structure ContextTraceDecision where
  candidateId : String
  source : String
  sourceRef : Option String
  authority : ContextAuthority
  outcome : ContextDecisionOutcome
  reason : Option String
  conflictKey : Option String
  relatedRefs : List String
  tokenEstimate : Nat
  deriving DecidableEq

def MessageSource.value : MessageSource → String
  | .hostChat => "host_chat"
  | .agentChat => "agent_chat"
  | .agentEvent => "agent_event"
  | .planControl => "plan_control"
  | .system => "system"

/-- What the pipeline reads of a request; the owner is that of its user.
mirrors app/schemas/routing.py:35-46 (`RouteRequest`) -/
structure ContextRequest where
  requestId : Option String
  sessionId : String
  source : MessageSource
  userId : String
  roles : List String
  groups : List String
  tenantId : Option String
  eventId : Option String
  planId : Option String
  stepId : Option String
  contextBudget : Option ContextBudget
  frontendContext : JsonDict
  sessionId_ne : sessionId ≠ ""
  userId_ne : userId ≠ ""
  eventId_of_source : source = .agentEvent → ∃ id, eventId = some id ∧ id ≠ ""
  planId_of_source : source = .planControl → ∃ id, planId = some id ∧ id ≠ ""

end OpenIntentRouter.Schemas
