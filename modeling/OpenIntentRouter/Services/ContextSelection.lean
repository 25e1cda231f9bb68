import OpenIntentRouter.Services.ContextPipelineService

/-!
# Selecting context items

`ContextService.select_items`: the items are sorted, cut to the limits of an item, and taken while
there is room; those that must be included are taken anyway. What is decided of an item is kept
under its id.
-/
namespace OpenIntentRouter.Services.ContextSelection

open Core Schemas ContextPipelineService

variable (budget : ContextBudget)

/-- mirrors app/services/context_service.py:901-904, with the rate as an exact number -/
def tokenEstimateForText (value : String) (charsPerToken : Rat) : Nat :=
  tokenEstimate .exact value charsPerToken

/-- mirrors app/services/context_service.py:842-845 -/
def withEstimates (item : ContextItem) : ContextItem :=
  { item with
    charCount := item.content.length
    tokenEstimate := tokenEstimateForText item.content budget.charsPerToken }

def truncationMarker : String := "\n[context truncated]"

/-- The content within the limits of an item, without the marker, and the limit that cut it.
mirrors app/services/context_service.py:851-862 -/
def cutContent (content : String) : String × Option String :=
  let byChars :=
    match budget.perItemCharLimit with
    | some limit =>
      if limit < content.length then (cutText content limit, some "per_item_char_limit")
      else (content, none)
    | none => (content, none)
  match budget.perItemTokenLimit with
  | some limit =>
    if limit < tokenEstimateForText byChars.1 budget.charsPerToken then
      (cutText byChars.1 (max 1 ⌊(limit : Rat) * budget.charsPerToken⌋₊),
        some "per_item_token_limit")
    else byChars
  | none => byChars

/-- mirrors app/services/context_service.py:847-885 -/
def applyPerItemLimit (item : ContextItem) : ContextItem :=
  match cutContent budget item.content with
  | (_, none) => item
  | (cut, some limitReason) =>
    let content := cut ++ truncationMarker
    { item with
      content
      charCount := content.length
      tokenEstimate := tokenEstimateForText content budget.charsPerToken
      status := if budget.allowSummaryPlaceholder then .summaryPlaceholder else .truncated
      truncated := true
      summaryPlaceholder := budget.allowSummaryPlaceholder
      dropReason := some limitReason
      metadata := JsonDict.merge item.metadata
        [("truncation_reason", .str limitReason), ("original_char_count", .num item.charCount),
          ("summary_placeholder", .bool budget.allowSummaryPlaceholder)] }

/-! ## Order -/

def sourceRank : String → Nat
  | "current_input" => 0
  | "current_agent" => 1
  | "current_plan" => 2
  | "recent_result" => 3
  | "evidence" => 4
  | "memory" => 5
  | "agent_history" => 6
  | "host_history" => 7
  | "recent_event" => 8
  | "frontend_context" => 9
  | _ => 20

/-- mirrors app/services/context_service.py:907-921 -/
def itemSortKey (item : ContextItem) : Int ×ₗ Rat ×ₗ Int ×ₗ Nat ×ₗ String :=
  toLex (-(item.priority : Int), toLex (-item.relevance, toLex (-item.createdAt.getD 0,
    toLex (sourceRank item.source, item.itemId))))

/-- `sorted(prepared, key=_item_sort_key)` -/
def sortItems (items : List ContextItem) : List ContextItem :=
  items.insertionSort fun a b => itemSortKey a ≤ itemSortKey b

/-! ## Selection -/

structure ItemSelection where
  usedTotal : Nat
  usedBySource : Dict String Nat
  selectedById : Dict String ContextItem

def ItemSelection.start : ItemSelection := ⟨0, .empty, .empty⟩

/-- The item is taken; the status is that of `_included_status`. -/
def included (item : ContextItem) : ContextItem :=
  { item with included := true, status := if item.status = .dropped then .included else item.status }

def excluded (item : ContextItem) (reason : String) : ContextItem :=
  { item with included := false, status := .dropped, dropReason := some reason }

/-- What is decided of an item that is within its limits.
mirrors app/services/context_service.py:500-529 -/
def decideItem (state : ItemSelection) (item : ContextItem) : ContextItem :=
  if item.mustInclude then included item
  else if sourceOver budget state.usedBySource item.source item.tokenEstimate then
    excluded item "source_budget_exceeded"
  else if budget.maxTokens < state.usedTotal + item.tokenEstimate then
    excluded item "total_budget_exceeded"
  else included item

/-- mirrors app/services/context_service.py:498-531 -/
def selectItem (state : ItemSelection) (item : ContextItem) : ItemSelection :=
  let item := decideItem budget state (applyPerItemLimit budget item)
  { usedTotal := if item.included then state.usedTotal + item.tokenEstimate else state.usedTotal
    usedBySource :=
      if item.included then countUp state.usedBySource item.source item.tokenEstimate
      else state.usedBySource
    selectedById := state.selectedById.set item.itemId item }

/-- The entry of each item, by its id; every id has one.
mirrors app/services/context_service.py:489-533 -/
def selectItems (candidates : List ContextItem) : List ContextItem :=
  let prepared := candidates.map (withEstimates budget)
  let state := (sortItems prepared).foldl (selectItem budget) .start
  prepared.filterMap fun item => state.selectedById.get? item.itemId

end OpenIntentRouter.Services.ContextSelection
