import OpenIntentRouter.Services.ContextProviders

/-!
# The last cut of an agent's context (`services/agent_context_service.py`)

`_fit_runtime_context` pops items of the two contexts of an agent, knowledge before memories,
until the whole input is estimated within the budget or no item is left; the citations and the
sources of the knowledge are made anew from what is left, everything else of the contexts stays.
`popItems` is its loop with the estimate as an argument, `inputTokens` that estimate, in the
arithmetic of the tools.

The text of a datetime and how a number is written are parameters (`ProviderTools`). What comes
before the cut, retrieving the contexts and passing them through the pipeline as candidates, is
not modelled: the cut is about any two contexts.
-/
namespace OpenIntentRouter.Services

open Core Schemas

/-- `[item.citation for item in items if item.citation]` -/
def citationsOf (items : List KnowledgeContextItem) : List KnowledgeCitation :=
  items.filterMap (·.citation)

/-- `list(dict.fromkeys(item.source_id for item in items))` -/
def sourceIdsOf (items : List KnowledgeContextItem) : List String :=
  (items.map (·.sourceId)).eraseDups

/-- `max_tokens` and `chars_per_token` of the cut. -/
structure AgentContextBudget where
  maxTokens : Int
  charsPerToken : Rat

/-- The estimate of the input with these items of the contexts.
mirrors app/services/agent_context_service.py:853-867 (`estimate`) -/
def inputTokens (tools : ProviderTools) (charsPerToken : Rat) (baseInput : JsonDict)
    (memory : MemoryContext) (knowledge : KnowledgeContext) (memoryItems : List MemoryContextItem)
    (knowledgeItems : List KnowledgeContextItem) : Nat :=
  let memory := { memory with items := memoryItems }
  let knowledge :=
    { knowledge with
      items := knowledgeItems
      citations := citationsOf knowledgeItems
      sourceIds := sourceIdsOf knowledgeItems }
  tokenEstimate tools.py.arithmetic
    (stableJson tools.py
      (.obj (JsonDict.merge baseInput
        [("memory_context", .obj (memory.dump tools.isoformat)),
          ("knowledge_context", .obj (knowledge.dump tools.isoformat))]))) charsPerToken

structure FittedItems where
  memory : List MemoryContextItem
  knowledge : List KnowledgeContextItem
  truncatedMemory : Bool
  truncatedKnowledge : Bool

/-- mirrors app/services/agent_context_service.py:869-877 -/
def popItems (exceeds : List MemoryContextItem → List KnowledgeContextItem → Bool)
    (items : FittedItems) : FittedItems :=
  if exceeds items.memory items.knowledge then
    if items.knowledge ≠ [] then
      popItems exceeds
        { items with knowledge := items.knowledge.dropLast, truncatedKnowledge := true }
    else if items.memory ≠ [] then
      popItems exceeds { items with memory := items.memory.dropLast, truncatedMemory := true }
    else items
  else items
termination_by items.memory.length + items.knowledge.length
decreasing_by
  · have := List.length_pos_of_ne_nil ‹items.knowledge ≠ []›
    simp only [List.length_dropLast]
    omega
  · have := List.length_pos_of_ne_nil ‹items.memory ≠ []›
    simp only [List.length_dropLast]
    omega

structure AgentRuntimeContext where
  memoryContext : MemoryContext
  knowledgeContext : KnowledgeContext
  deriving DecidableEq

/-- mirrors app/services/agent_context_service.py:842-887 -/
def fitRuntimeContext (tools : ProviderTools) (budget : AgentContextBudget)
    (baseInput : JsonDict) (memory : MemoryContext) (knowledge : KnowledgeContext) :
    AgentRuntimeContext :=
  let fitted := popItems
    (fun memoryItems knowledgeItems =>
      budget.maxTokens < (inputTokens tools budget.charsPerToken baseInput memory knowledge
        memoryItems knowledgeItems : Int))
    ⟨memory.items, knowledge.items, memory.truncated, knowledge.truncated⟩
  { memoryContext := { memory with items := fitted.memory, truncated := fitted.truncatedMemory }
    knowledgeContext :=
      { knowledge with
        items := fitted.knowledge
        citations := citationsOf fitted.knowledge
        sourceIds := sourceIdsOf fitted.knowledge
        truncated := fitted.truncatedKnowledge } }

end OpenIntentRouter.Services
