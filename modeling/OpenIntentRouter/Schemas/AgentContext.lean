import OpenIntentRouter.Schemas.Context

/-!
# Agent context schemas

What an agent declares about its memory and its knowledge, and the memories and the
knowledge that it is given. `dump` is `model_dump(mode="json")`; the text of a datetime is
a parameter of it.
-/
namespace OpenIntentRouter.Schemas

open Core

def textJson (o : Option String) : Json := o.elim .null .str

/-- mirrors app/schemas/agent_context.py:8 -/
inductive ContextRetrievalMode where
  | disabled | prefetch | controlledRetrieval
  deriving DecidableEq

/-- mirrors app/schemas/agent_context.py:17-24 -/
inductive ContextStatus where
  | disabled | ok | empty | timeout | error | denied
  deriving DecidableEq

def ContextStatus.value : ContextStatus → String
  | .disabled => "disabled"
  | .ok => "ok"
  | .empty => "empty"
  | .timeout => "timeout"
  | .error => "error"
  | .denied => "denied"

/-- mirrors app/schemas/agent_context.py:34-39 -/
structure AgentMemoryContextSpec where
  mode : ContextRetrievalMode
  scopes : List String
  maxItems : Nat
  maxItems_le : maxItems ≤ 50
  deriving DecidableEq

/-- mirrors app/schemas/agent_context.py:52-59 -/
structure AgentKnowledgeContextSpec where
  mode : ContextRetrievalMode
  sourceIds : List String
  sourceTags : List String
  maxItems : Nat
  maxItems_le : maxItems ≤ 50
  deriving DecidableEq

/-- What the context of an agent reads of its definition.
mirrors app/schemas/agents.py:75-98 (`AgentDefinition`) and
app/schemas/agent_context.py:81-84 (`AgentContextSpec`) -/
structure ContextAgent where
  agentId : String
  memory : AgentMemoryContextSpec
  knowledge : AgentKnowledgeContextSpec
  agentId_ne : agentId ≠ ""
  deriving DecidableEq

/-! ## Memories -/

/-- mirrors app/schemas/agent_context.py:87-102 -/
structure MemoryContextItem where
  memoryId : String
  scope : String
  content : String
  relevance : Rat
  confidence : Rat
  importance : Rat
  source : String
  subjectType : Option String
  subjectId : Option String
  ttlExpiresAt : Option Instant
  structuredValue : JsonDict
  currentRevisionId : Option String
  currentRevisionNo : Option Nat
  canonicalRefs : List String
  metadata : JsonDict
  deriving DecidableEq

def MemoryContextItem.dump (isoformat : Instant → String) (item : MemoryContextItem) : JsonDict :=
  [("memory_id", .str item.memoryId), ("scope", .str item.scope), ("content", .str item.content),
    ("relevance", .num item.relevance), ("confidence", .num item.confidence),
    ("importance", .num item.importance), ("source", .str item.source),
    ("subject_type", textJson item.subjectType), ("subject_id", textJson item.subjectId),
    ("ttl_expires_at", textJson (item.ttlExpiresAt.map isoformat)),
    ("structured_value", .obj item.structuredValue),
    ("current_revision_id", textJson item.currentRevisionId),
    ("current_revision_no", item.currentRevisionNo.elim .null fun n => .num n),
    ("canonical_refs", .arr (item.canonicalRefs.map .str)), ("metadata", .obj item.metadata)]

/-- mirrors app/schemas/agent_context.py:105-111 -/
structure MemoryContext where
  summary : String
  items : List MemoryContextItem
  status : ContextStatus
  truncated : Bool
  errors : List String
  metadata : JsonDict
  deriving DecidableEq

def MemoryContext.dump (isoformat : Instant → String) (context : MemoryContext) : JsonDict :=
  [("summary", .str context.summary),
    ("items", .arr (context.items.map fun item => .obj (item.dump isoformat))),
    ("status", .str context.status.value), ("truncated", .bool context.truncated),
    ("errors", .arr (context.errors.map .str)), ("metadata", .obj context.metadata)]

/-! ## Knowledge -/

/-- mirrors app/schemas/agent_context.py:114-119 -/
structure KnowledgeCitation where
  sourceId : String
  chunkId : Option String
  title : Option String
  uri : Option String
  metadata : JsonDict
  deriving DecidableEq

def KnowledgeCitation.dump (citation : KnowledgeCitation) : JsonDict :=
  [("source_id", .str citation.sourceId), ("chunk_id", textJson citation.chunkId),
    ("title", textJson citation.title), ("uri", textJson citation.uri),
    ("metadata", .obj citation.metadata)]

/-- mirrors app/schemas/agent_context.py:122-131 -/
structure KnowledgeContextItem where
  itemId : String
  sourceId : String
  content : String
  score : Rat
  title : Option String
  uri : Option String
  updatedAt : Option Instant
  citation : Option KnowledgeCitation
  metadata : JsonDict
  deriving DecidableEq

/-- `item.citation.model_dump(mode="json") if item.citation else None` -/
def KnowledgeContextItem.citationJson (item : KnowledgeContextItem) : Json :=
  item.citation.elim .null fun citation => .obj citation.dump

def KnowledgeContextItem.dump (isoformat : Instant → String) (item : KnowledgeContextItem) :
    JsonDict :=
  [("item_id", .str item.itemId), ("source_id", .str item.sourceId),
    ("content", .str item.content), ("score", .num item.score), ("title", textJson item.title),
    ("uri", textJson item.uri), ("updated_at", textJson (item.updatedAt.map isoformat)),
    ("citation", item.citationJson), ("metadata", .obj item.metadata)]

/-- mirrors app/schemas/agent_context.py:134-142 -/
structure KnowledgeContext where
  summary : String
  items : List KnowledgeContextItem
  citations : List KnowledgeCitation
  sourceIds : List String
  status : ContextStatus
  truncated : Bool
  errors : List String
  metadata : JsonDict
  deriving DecidableEq

def KnowledgeContext.dump (isoformat : Instant → String) (context : KnowledgeContext) : JsonDict :=
  [("summary", .str context.summary),
    ("items", .arr (context.items.map fun item => .obj (item.dump isoformat))),
    ("citations", .arr (context.citations.map fun citation => .obj citation.dump)),
    ("source_ids", .arr (context.sourceIds.map .str)), ("status", .str context.status.value),
    ("truncated", .bool context.truncated), ("errors", .arr (context.errors.map .str)),
    ("metadata", .obj context.metadata)]

/-! ## Requests -/

/-- mirrors app/schemas/common.py:85-100 -/
structure UserContext where
  id : String
  tenantId : Option String
  roles : List String
  groups : List String
  entitlements : List String
  attributes : JsonDict
  deriving DecidableEq

/-- mirrors app/schemas/routing.py:28-31 (`CurrentAgentContext`), with the run -/
structure CurrentAgent extends CurrentAgentContext where
  runId : Option String
  deriving DecidableEq

def CurrentAgent.dump (current : CurrentAgent) : JsonDict :=
  [("agent_id", .str current.agentId), ("run_id", textJson current.runId),
    ("agent_session_id", textJson current.agentSessionId)]

/-- What the providers of context read of a request.
mirrors app/schemas/routing.py:34-46 (`RouteRequest`) -/
structure ProviderRequest extends ContextRequest where
  text : String
  attachments : List Json
  entitlements : List String
  attributes : JsonDict
  currentAgent : Option CurrentAgent

instance : Coe ProviderRequest ContextRequest := ⟨(·.1)⟩

/-- `request.user` -/
def ProviderRequest.user (request : ProviderRequest) : UserContext where
  id := request.userId
  tenantId := request.tenantId
  roles := request.roles
  groups := request.groups
  entitlements := request.entitlements
  attributes := request.attributes

/-- mirrors app/schemas/memory.py:498-506, for the memories of the user -/
structure MemoryRecallRequest where
  query : String
  user : UserContext
  scopes : List String
  agentId : Option String
  subjectId : String
  maxItems : Nat
  metadataFilters : JsonDict
  deriving DecidableEq

/-- mirrors app/schemas/memory.py:509-513 -/
structure MemoryRecallResponse where
  context : MemoryContext
  deniedCount : Nat
  expiredCount : Nat
  deriving DecidableEq

/-- mirrors app/schemas/knowledge_provider.py:17-25 -/
structure KnowledgeProviderRequest where
  query : String
  principal : UserContext
  purpose : ContextPurpose
  consumer : String
  sourceIds : List String
  sourceTags : List String
  maxItems : Nat
  timeoutSeconds : Rat
  requestId : Option String
  sessionId : String
  deriving DecidableEq

/-- mirrors app/schemas/knowledge_provider.py:28-36 -/
structure KnowledgeProviderResult where
  status : ContextStatus
  items : List KnowledgeContextItem
  traceId : Option String
  warnings : List String
  errorCode : Option String
  metadata : JsonDict
  deriving DecidableEq

end OpenIntentRouter.Schemas
