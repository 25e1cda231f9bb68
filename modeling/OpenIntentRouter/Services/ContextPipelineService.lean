import Mathlib.Algebra.Order.Floor.Semiring
import Mathlib.Data.Rat.Floor
import Mathlib.Order.Lattice
import OpenIntentRouter.Schemas.Context
import OpenIntentRouter.Services.MemoryCandidateHardRules

/-!
# The context pipeline

`ContextPipelineService`: candidates are governed, duplicates and conflicts are
resolved, and what is left is selected in order of importance and projected within the
budget. Providers, the clock and generated ids are left out: the candidates and the time
are arguments.

* `defaultBudget`, `effectiveBudget`: the budgets of the settings and of the model's window;
* `govern`, `dedupe`, `resolveGroup`, `dedupeAndResolveConflicts`;
* `renderCandidate`, `selectCandidate`, `selectAndProject`: the selection, which raises
  `ContextBudgetExhausted` if a candidate that must be included does not fit;
* `assembleCandidates`: all of them in sequence.
-/
namespace OpenIntentRouter.Services

open Core Core.Text Schemas

/-- mirrors app/services/context_pipeline_service.py:34-38 -/
inductive ContextBudgetExhausted where
  | wrapper | candidate
  deriving DecidableEq

/-- Why no context is assembled: a budget that the schema refuses, or one that is exhausted. -/
inductive ContextError where
  | validation
  | exhausted (e : ContextBudgetExhausted)
  deriving DecidableEq

/-- Who the context is for: `"router"` or `"agent:<id>"`. -/
structure ContextConsumer where
  name : String
  not_blank : strip name ≠ ""

def ContextConsumer.router : ContextConsumer := ⟨"router", by decide⟩

/-- mirrors app/core/config.py:86-103 -/
structure ContextSettings where
  defaultTokenBudget : Int
  maxTokenBudget : Int
  defaultSourceBudgets : String
  charsPerToken : Rat
  perItemTokenLimit : Int
  perItemCharLimit : Int
  allowRequestBudgetOverride : Bool
  allowSummaryPlaceholder : Bool
  modelWindowTokens : Int
  systemReserveTokens : Int
  schemaReserveTokens : Int
  rulesReserveTokens : Int
  outputReserveTokens : Int

/-- The settings, and what the service takes from Python and from the redaction of values. -/
structure ContextPipelineService where
  settings : ContextSettings
  py : Python
  int : String → Option Int
  redaction : Redaction

/-! ## Estimates -/

/-- mirrors app/services/context_pipeline_service.py:886-889 (`_token_estimate`) -/
def tokenEstimate (arithmetic : Arithmetic) (value : String) (charsPerToken : Rat) : Nat :=
  if value = "" then 0
  else max 1 (arithmetic.ceilDiv value.length (max charsPerToken (arithmetic.number (1 / 10))))

/-- mirrors app/services/context_pipeline_service.py:892-893 -/
def stableJson (py : Python) (value : Json) : String := compactDumps py value

/-- mirrors app/services/context_pipeline_service.py:882-883 -/
def payloadTokens (py : Python) (payload : JsonDict) (budget : ContextBudget) : Nat :=
  tokenEstimate py.arithmetic (stableJson py (.obj payload)) budget.charsPerToken

/-! ## Budgets -/

def contextBudget (maxTokens : Int) (sourceBudgets : Dict String Int)
    (perItemTokenLimit perItemCharLimit : Option Int) (charsPerToken : Rat)
    (allowSummaryPlaceholder : Bool) : Except ContextError ContextBudget :=
  if h : 0 < maxTokens ∧ (∀ limit ∈ perItemTokenLimit, 0 < limit) ∧
      (∀ limit ∈ perItemCharLimit, 0 < limit) ∧ 0 < charsPerToken then
    .ok {
      maxTokens := maxTokens.toNat
      sourceBudgets := sourceBudgets
      perItemTokenLimit := perItemTokenLimit.map Int.toNat
      perItemCharLimit := perItemCharLimit.map Int.toNat
      charsPerToken := charsPerToken
      allowSummaryPlaceholder := allowSummaryPlaceholder
      maxTokens_pos := by omega
      perItemTokenLimit_pos := by
        obtain ⟨-, hlimit, -⟩ := h
        cases perItemTokenLimit <;> simp_all
      perItemCharLimit_pos := by
        obtain ⟨-, -, hlimit, -⟩ := h
        cases perItemCharLimit <;> simp_all
      charsPerToken_pos := h.2.2.2 }
  else .error .validation

/-- mirrors app/services/context_pipeline_service.py:903-915 -/
def parseSourceBudgets (int : String → Option Int) (raw : String) : Dict String Int :=
  (raw.toList.splitOn ',').foldl (fun result item =>
    if !item.contains ':' then result
    else
      let key := strip (String.ofList (item.takeWhile (· ≠ ':')))
      match int (strip (String.ofList ((item.dropWhile (· ≠ ':')).drop 1))) with
      | none => result
      | some parsed => if key ≠ "" ∧ 0 < parsed then result.set key parsed else result) .empty

/-- mirrors app/services/context_pipeline_service.py:259-267 -/
def defaultBudget (settings : ContextSettings) (int : String → Option Int) :
    Except ContextError ContextBudget :=
  contextBudget settings.defaultTokenBudget (parseSourceBudgets int settings.defaultSourceBudgets)
    (some settings.perItemTokenLimit) (some settings.perItemCharLimit) settings.charsPerToken
    settings.allowSummaryPlaceholder

/-- The tokens that the model's window leaves beside the reserves and the candidate agents.
mirrors app/services/context_pipeline_service.py:274-285 -/
def modelAvailable (settings : ContextSettings) (py : Python) (charsPerToken : Rat)
    (candidateAgents : List Json) : Int :=
  let candidateTokens :=
    tokenEstimate py.arithmetic (stableJson py (.arr candidateAgents)) charsPerToken
  max 1 (settings.modelWindowTokens - (settings.systemReserveTokens + settings.schemaReserveTokens +
    settings.rulesReserveTokens + settings.outputReserveTokens + candidateTokens))

/-- mirrors app/services/context_pipeline_service.py:269-288 -/
def effectiveBudget (settings : ContextSettings) (py : Python) (requested : ContextBudget)
    (candidateAgents : List Json) : ContextBudget :=
  let available := modelAvailable settings py requested.charsPerToken candidateAgents
  { requested with
    maxTokens := (min (requested.maxTokens : Int) available).toNat
    maxTokens_pos := by
      have hrequested := requested.maxTokens_pos
      have havailable : 1 ≤ available := le_max_left _ _
      omega }

/-! ## Order -/

/-- mirrors app/services/context_pipeline_service.py:785-791 -/
def authorityRank : ContextAuthority → Nat
  | .authoritative => 0
  | .derived => 1
  | .hostAsserted => 2
  | .modelGenerated => 3

/-- `candidate.created_at.timestamp() / 10**10`, with 0 for a candidate without a time. -/
def freshness (candidate : ContextCandidate) : Rat :=
  candidate.createdAt.elim 0 fun created => (created : Rat) / 10 ^ 16

/-- mirrors app/services/context_pipeline_service.py:774-782 -/
def candidateSortKey (candidate : ContextCandidate) :
    Int ×ₗ Nat ×ₗ Int ×ₗ Rat ×ₗ String :=
  toLex (-(if candidate.mustInclude then 1 else 0), toLex (authorityRank candidate.authority,
    toLex (-(candidate.priority : Int),
      toLex (-max candidate.relevance (freshness candidate), candidate.candidateId))))

/-- `sorted(candidates, key=_candidate_sort_key)` -/
def sortCandidates (candidates : List ContextCandidate) : List ContextCandidate :=
  candidates.insertionSort fun a b => candidateSortKey a ≤ candidateSortKey b

/-! ## Decisions -/

/-- mirrors app/services/context_pipeline_service.py:799-800 -/
def candidateRef (candidate : ContextCandidate) : String :=
  (candidate.sourceRef.filter (· ≠ "")).getD candidate.candidateId

/-- mirrors app/services/context_pipeline_service.py:820-840 (`_decision`) -/
def contextDecision (candidate : ContextCandidate) (outcome : ContextDecisionOutcome)
    (reason : Option String) (conflictKey : Option String) (relatedRefs : List String)
    (tokenEstimate : Nat) : ContextTraceDecision where
  candidateId := candidate.candidateId
  source := candidate.source
  sourceRef := candidate.sourceRef
  authority := candidate.authority
  outcome := outcome
  reason := reason
  conflictKey := (conflictKey.filter (· ≠ "")).or candidate.conflictKey
  relatedRefs := relatedRefs
  tokenEstimate := tokenEstimate

/-! ## Governance -/

/-- mirrors app/services/context_pipeline_service.py:754-771 -/
def consumerAllowed (candidate : ContextCandidate) (consumer : String) : Bool :=
  let agent := "agent:".toList.isPrefixOf consumer.toList
  let allowed := candidate.consumers.contains consumer || candidate.consumers.contains "*" ||
    (agent && candidate.consumers.contains "agent:*")
  let hidden := fun viewer => candidate.visibility ≠ [] && !candidate.visibility.contains viewer
  if !allowed then false
  else if consumer = "router" && hidden "router" then false
  else if agent then
    let agentId := String.ofList (consumer.toList.drop 6)
    !hidden "agent" &&
      (candidate.allowedAgentIds = [] || candidate.allowedAgentIds.contains agentId)
  else true

/-- `value[:limit]` -/
def prefixText (value : String) (limit : Nat) : String := String.ofList (value.toList.take limit)

/-- The value down to a depth.
mirrors app/services/context_pipeline_service.py:717-734 (`_bounded_value`), `depth` of them left -/
def boundedValue (redaction : Redaction) : Nat → Json → Json
  | 0, _ => .str "[bounded]"
  | depth + 1, value =>
    match value with
    | .obj fields =>
      .obj ((fields.take 20).map fun (key, item) =>
        if Redaction.sensitiveKeys.contains (redaction.lower key) then
          (key, .str "***REDACTED***")
        else (key, boundedValue redaction depth item))
    | .arr items => .arr ((items.take 10).map (boundedValue redaction depth))
    | .str s => .str (prefixText s 500 ++ if 500 < s.length then "..." else "")
    | value => value

/-- `redact_value(_bounded_value(value))` of a `dict`. -/
def boundedFields (redaction : Redaction) (fields : JsonDict) : JsonDict :=
  match redaction.redactValue (boundedValue redaction 4 (.obj fields)) with
  | .obj fields => fields
  | _ => []

def allowedFields : String → List String
  | "current_agent" => ["agent_id", "run_id", "agent_session_id"]
  | "current_plan" =>
    ["plan_id", "session_id", "status", "current_step_id", "execution_policy", "steps"]
  | "recent_result" =>
    ["result_id", "run_id", "agent_id", "plan_id", "step_id", "status", "artifact_refs", "summary"]
  | "recent_event" =>
    ["event_id", "run_id", "request_id", "agent_id", "event_type", "status", "plan_id", "step_id",
      "payload"]
  | "artifact" => ["artifact_id", "type", "uri", "title", "result_id"]
  | "evidence" =>
    ["id", "evidence_id", "type", "source_id", "score", "confidence", "title", "uri",
      "matched_agent_ids"]
  | "memory" =>
    ["memory_id", "scope", "subject_type", "subject_id", "confidence", "importance", "source",
      "ttl_expires_at", "structured_value", "current_revision_id", "current_revision_no",
      "canonical_refs"]
  | "knowledge" => ["item_id", "source_id", "score", "title", "uri", "citation"]
  | "frontend_context" =>
    ["page", "route", "selection", "locale", "timezone", "interaction", "ui_state"]
  | _ => []

/-- mirrors app/services/context_pipeline_service.py:633-714; the order of
the fields, that of a set, does not reach the projection, which is written with sorted keys -/
def boundedProjection (redaction : Redaction) (value : Option JsonDict) (source : String) :
    Option JsonDict :=
  match value with
  | none | some [] => none
  | some value =>
    match allowedFields source with
    | [] => none
    | allowed =>
      some (boundedFields redaction
        (allowed.filterMap fun key => (Json.field value key).map fun item => (key, item)))

namespace ContextPipelineService

variable (service : ContextPipelineService)

def denial (now : Instant) (purpose : ContextPurpose) (consumer : ContextConsumer)
    (candidate : ContextCandidate) : Option (ContextDecisionOutcome × String) :=
  if candidate.purpose ≠ purpose then some (.purposeDenied, "purpose_mismatch")
  else if !consumerAllowed candidate consumer.name then
    some (.visibilityDenied, "consumer_not_allowed")
  else if !candidate.permissionGranted then some (.permissionDenied, "permission_denied")
  else if !candidate.enabled || candidate.deleted then
    some (.disabled, "source_disabled_or_deleted")
  else if candidate.expiresAt.any (· ≤ now) then some (.expired, "expired")
  else none

def governed (candidate : ContextCandidate) : ContextCandidate :=
  { candidate with
    structuredValue := boundedProjection service.redaction candidate.structuredValue candidate.source
    metadata := boundedFields service.redaction candidate.metadata }

/-- mirrors app/services/context_pipeline_service.py:290-327 -/
def govern (now : Instant) (purpose : ContextPurpose) (consumer : ContextConsumer)
    (candidates : List ContextCandidate) : List ContextCandidate × List ContextTraceDecision :=
  ((candidates.filter fun candidate => (denial now purpose consumer candidate).isNone).map
      service.governed,
    candidates.filterMap fun candidate =>
      (denial now purpose consumer candidate).map fun (outcome, reason) =>
        contextDecision candidate outcome (some reason) none [] 0)

/-! ## Duplicates -/

/-- `candidate.dedupe_key or candidate.source_ref`, if it is not empty. -/
def stableKey (candidate : ContextCandidate) : Option String :=
  (candidate.dedupeKey.filter (· ≠ "")).or (candidate.sourceRef.filter (· ≠ ""))

/-- mirrors app/services/context_pipeline_service.py:803-807 -/
def normalizedContentHash (content : String) : Option String :=
  let words := ((service.py.lower content).toList.splitOnP isSpace).filter (· ≠ [])
  let normalized := " ".intercalate (words.map String.ofList)
  if normalized = "" then none else some (service.py.sha256 normalized)

/-- mirrors app/services/context_pipeline_service.py:810-817 -/
def contentDedupeFamily : String → Option String
  | "evidence" | "knowledge" => some "retrieval_evidence"
  | "current_input" | "memory" => some "current_user_fact"
  | "host_history" | "agent_history" => some "history"
  | _ => none

def contentKey (candidate : ContextCandidate) : Option (String × String) :=
  match contentDedupeFamily candidate.source, service.normalizedContentHash candidate.content with
  | some family, some hash => some (family, hash)
  | _, _ => none

structure Deduplication where
  canonical : List ContextCandidate
  decisions : List ContextTraceDecision
  seenKeys : Dict String ContextCandidate
  seenContent : Dict (String × String) ContextCandidate

/-- mirrors app/services/context_pipeline_service.py:341-365 -/
def dedupe (seen : Deduplication) (candidate : ContextCandidate) : Deduplication :=
  let duplicate :=
    ((stableKey candidate).bind seen.seenKeys.get?).or
      ((service.contentKey candidate).bind seen.seenContent.get?)
  match duplicate with
  | some duplicate =>
    { seen with
      decisions := seen.decisions ++
        [contextDecision candidate .duplicateDropped (some "duplicate_candidate") none
          [candidateRef duplicate] 0] }
  | none =>
    { seen with
      canonical := seen.canonical ++ [candidate]
      seenKeys := (stableKey candidate).elim seen.seenKeys fun key => seen.seenKeys.set key candidate
      seenContent := (service.contentKey candidate).elim seen.seenContent fun key =>
        seen.seenContent.set key candidate }

/-! ## Conflicts -/

/-- mirrors app/services/context_pipeline_service.py:794-796 -/
def factValue (candidate : ContextCandidate) : String :=
  let value := candidate.factValue.elim candidate.content fun value => service.py.str value.json
  service.py.lower (strip value)

/-- The candidates of each conflict key, in the order of the first of them. -/
def conflictGroups (canonical : List ContextCandidate) : List (String × List ContextCandidate) :=
  let key := fun candidate : ContextCandidate => candidate.conflictKey.filter (· ≠ "")
  (canonical.filterMap key).eraseDups.map fun conflictKey =>
    (conflictKey, canonical.filter fun candidate => key candidate = some conflictKey)

structure Resolution where
  removed : List String
  decisions : List ContextTraceDecision
  synthetic : List ContextCandidate

/-- Python's `==` of two candidates. -/
def candidateEq (a b : ContextCandidate) : Bool :=
  JsonDict.pyEqOption a.structuredValue b.structuredValue && JsonDict.pyEq a.metadata b.metadata &&
    (match a.factValue, b.factValue with
      | none, none => true
      | some x, some y => Json.pyEq x.json y.json
      | _, _ => false) &&
    { a with structuredValue := none, metadata := [], factValue := none } =
      { b with structuredValue := none, metadata := [], factValue := none }

def conflictCandidate (purpose : ContextPurpose) (consumer : ContextConsumer)
    (conflictKey : String) : ContextCandidate where
  candidateId := "conflict:" ++ prefixText (service.py.sha256 conflictKey) 12
  source := "system"
  scope := "request"
  role := none
  content := "Conflicting authoritative context requires clarification."
  structuredValue := none
  purpose := purpose
  consumers := [consumer.name]
  authority := .authoritative
  visibility := if consumer.name = "router" then ["router"] else ["agent"]
  sourceRef := none
  dedupeKey := none
  conflictKey := some conflictKey
  factType := none
  factValue := none
  confidence := 1
  priority := 98
  relevance := 1 / 2
  mustInclude := true
  permissionGranted := true
  enabled := true
  deleted := false
  expiresAt := none
  createdAt := none
  allowedAgentIds := []
  metadata := [("conflict_outcome", .str "unresolved_conflict")]

def disputed (group : List ContextCandidate) : Bool :=
  2 ≤ group.length && 2 ≤ (group.map service.factValue).eraseDups.length

/-- The peers of the winner, by authority, state different values, and one of the group is of
high risk. -/
def unresolvable (group : List ContextCandidate) (winner : ContextCandidate) : Bool :=
  let peers := group.filter fun item =>
    authorityRank item.authority = authorityRank winner.authority
  (group.any fun item => Json.field item.metadata "risk" = some (.str "high")) &&
    1 < (peers.map service.factValue).eraseDups.length

/-- mirrors app/services/context_pipeline_service.py:373-436 -/
def resolveGroup (purpose : ContextPurpose) (consumer : ContextConsumer)
    (conflictKey : String) (group : List ContextCandidate) : Resolution :=
  if !service.disputed group then ⟨[], [], []⟩
  else
    let memories := group.filter (·.source = "memory")
    match group.find? (·.source = "current_input"), memories with
    | some current, memory :: rest =>
      { removed := (memory :: rest).map (·.candidateId)
        decisions := (memory :: rest).map fun memory =>
          contextDecision memory .overriddenForTurn (some "current_input_override") none
            [candidateRef current] 0
        synthetic := [] }
    | _, _ =>
      match sortCandidates group with
      | [] => ⟨[], [], []⟩
      | winner :: _ =>
        if service.unresolvable group winner then
          { removed := group.map (·.candidateId)
            decisions := group.map fun item =>
              contextDecision item .unresolvedConflict (some "authoritative_high_risk_conflict")
                (some conflictKey) ((group.filter fun peer => !candidateEq peer item).map candidateRef)
                0
            synthetic := [service.conflictCandidate purpose consumer conflictKey] }
        else
          let losers := group.filter (·.candidateId ≠ winner.candidateId)
          { removed := losers.map (·.candidateId)
            decisions := losers.map fun item =>
              contextDecision item .superseded (some "higher_authority_or_fresher_candidate")
                (some conflictKey) [candidateRef winner] 0
            synthetic := [] }

/-- mirrors app/services/context_pipeline_service.py:329-439 -/
def dedupeAndResolveConflicts (purpose : ContextPurpose) (consumer : ContextConsumer)
    (candidates : List ContextCandidate) : List ContextCandidate × List ContextTraceDecision :=
  let seen := (sortCandidates candidates).foldl service.dedupe ⟨[], [], .empty, .empty⟩
  let resolutions := (conflictGroups seen.canonical).map fun (conflictKey, group) =>
    service.resolveGroup purpose consumer conflictKey group
  let removed := resolutions.flatMap (·.removed)
  (seen.canonical.filter (fun item => !removed.contains item.candidateId) ++
      resolutions.flatMap (·.synthetic),
    seen.decisions ++ resolutions.flatMap (·.decisions))

/-! ## Rendering -/

/-- `value[:limit].rstrip()` -/
def cutText (value : String) (limit : Nat) : String :=
  String.ofList ((value.toList.take limit).reverse.dropWhile isSpace).reverse

/-- The content within the limits of an item, and the limit that cut it.
mirrors app/services/context_pipeline_service.py:578-592 -/
def boundedContent (candidate : ContextCandidate) (budget : ContextBudget) :
    String × Option String :=
  let byChars :=
    match budget.perItemCharLimit with
    | some limit =>
      if limit < candidate.content.length then
        (cutText candidate.content limit, some "per_item_char_limit")
      else (candidate.content, none)
    | none => (candidate.content, none)
  let byTokens :=
    match budget.perItemTokenLimit with
    | some limit =>
      let limitChars := max 1 (service.py.arithmetic.floorMul limit budget.charsPerToken)
      if limitChars < byChars.1.length then
        (cutText byChars.1 limitChars, some "per_item_token_limit")
      else byChars
    | none => byChars
  if byTokens.2.isSome && budget.allowSummaryPlaceholder then
    (byTokens.1 ++ "\n[context truncated]", byTokens.2)
  else byTokens

/-- mirrors app/services/context_pipeline_service.py:572-630 -/
def renderCandidate (candidate : ContextCandidate) (purpose : ContextPurpose)
    (consumer : ContextConsumer) (budget : ContextBudget) : JsonDict × ContextItem :=
  let (content, reason) := service.boundedContent candidate budget
  let rendered : JsonDict :=
    [("item_id", .str candidate.candidateId), ("source", .str candidate.source),
      ("scope", .str candidate.scope), ("authority", .str candidate.authority.value)] ++
    (candidate.role.filter (· ≠ "")).toList.map (fun role => ("role", Json.str role)) ++
    (if content = "" then [] else [("content", .str content)]) ++
    (candidate.structuredValue.filter (· ≠ [])).toList.map
      (fun value => ("structured_value", Json.obj value)) ++
    (candidate.sourceRef.filter (· ≠ "")).toList.map (fun ref => ("source_ref", Json.str ref))
  (rendered,
    { itemId := candidate.candidateId
      source := candidate.source
      scope := candidate.scope
      role := candidate.role
      content := content
      structuredValue := candidate.structuredValue
      priority := candidate.priority
      relevance := candidate.relevance
      createdAt := candidate.createdAt
      tokenEstimate := 0
      charCount := 0
      included := false
      status := .dropped
      dropReason := reason
      truncated := reason.isSome
      summaryPlaceholder := reason.isSome && budget.allowSummaryPlaceholder
      mustInclude := candidate.mustInclude
      purpose := purpose
      consumer := consumer.name
      authority := candidate.authority
      visibility := candidate.visibility
      sourceRef := candidate.sourceRef
      dedupeKey := candidate.dedupeKey
      conflictKey := candidate.conflictKey
      metadata := candidate.metadata })

/-- mirrors app/services/context_pipeline_service.py:842-847 -/
def minimalRendered (candidate : ContextCandidate) : JsonDict :=
  [("item_id", .str candidate.candidateId), ("source", .str candidate.source),
    ("source_ref", .str (candidateRef candidate))]

/-- mirrors app/services/context_pipeline_service.py:876-879 -/
def withProjectedItem (payload : JsonDict) (item : JsonDict) : JsonDict :=
  let context :=
    match Json.field payload "context" with
    | some (.obj context) => context
    | _ => []
  let items :=
    match Json.field context "items" with
    | some (.arr items) => items
    | _ => []
  JsonDict.merge payload
    [("context", .obj (JsonDict.merge context [("items", .arr (items ++ [.obj item]))]))]

/-- mirrors app/services/context_pipeline_service.py:737-751 -/
def requestControlProjection (request : ContextRequest) : JsonDict :=
  [("request_id", optionJson request.requestId), ("session_id", .str request.sessionId),
    ("source", .str request.source.value), ("event_id", optionJson request.eventId),
    ("plan_id", optionJson request.planId), ("step_id", optionJson request.stepId),
    ("user", .obj
      [("id", .str request.userId), ("roles", .arr (request.roles.map .str)),
        ("groups", .arr (request.groups.map .str)), ("tenant_id", optionJson request.tenantId)])]

/-! ## Selection -/

/-- mirrors app/services/context_pipeline_service.py:850-873 -/
def selectionSummary (item : ContextItem) : ContextSelectionSummary where
  itemId := item.itemId
  source := item.source
  scope := item.scope
  role := item.role.filter (· ≠ "")
  priority := item.priority
  relevance := item.relevance
  tokenEstimate := item.tokenEstimate
  charCount := item.charCount
  included := item.included
  status := item.status
  dropReason := item.dropReason
  truncated := item.truncated
  summaryPlaceholder := item.summaryPlaceholder
  agentId := ((Json.field item.metadata "agent_id").filter Json.truthy).map service.py.str
  agentSessionId :=
    ((Json.field item.metadata "agent_session_id").filter Json.truthy).map service.py.str
  createdAt := item.createdAt
  metadata := boundedFields service.redaction item.metadata

structure Selection where
  payload : JsonDict
  included : List ContextItem
  selection : List ContextSelectionSummary
  decisions : List ContextTraceDecision
  sourceUsed : Dict String Nat
  dropReasons : Dict String Nat
  truncatedCount : Nat

/-- `counts[key] = counts.get(key, 0) + n` -/
def countUp (counts : Dict String Nat) (key : String) (n : Nat) : Dict String Nat :=
  counts.set key ((counts.get? key).getD 0 + n)

def sourceOver (budget : ContextBudget) (sourceUsed : Dict String Nat) (source : String)
    (tokens : Nat) : Bool :=
  (budget.sourceBudgets.get? source).any fun limit =>
    limit < (((sourceUsed.get? source).getD 0 + tokens : Nat) : Int)

def minimalItem (item : ContextItem) : ContextItem :=
  { item with
    content := ""
    structuredValue := none
    truncated := true
    summaryPlaceholder := true
    status := .summaryPlaceholder
    dropReason := some "hard_budget_minimum_representation" }

/-- The candidate is projected.
mirrors app/services/context_pipeline_service.py:505-535 -/
def accept (state : Selection) (candidate : ContextCandidate) (item : ContextItem)
    (rendered : JsonDict) (tokens : Nat) : Selection :=
  let item :=
    { item with
      included := true
      tokenEstimate := tokens
      charCount := (stableJson service.py (.obj rendered)).length
      status :=
        if item.summaryPlaceholder then .summaryPlaceholder
        else if item.truncated then .truncated
        else .included }
  { state with
    payload := withProjectedItem state.payload rendered
    included := state.included ++ [item]
    sourceUsed := countUp state.sourceUsed candidate.source tokens
    truncatedCount := state.truncatedCount + if item.truncated then 1 else 0
    decisions := state.decisions ++
      [contextDecision candidate
        (if item.summaryPlaceholder then .referenced
          else if item.truncated then .truncated
          else .included) none none [] tokens]
    selection := state.selection ++ [service.selectionSummary item] }

/-- The candidate is dropped.
mirrors app/services/context_pipeline_service.py:536-555 -/
def drop (state : Selection) (candidate : ContextCandidate) (item : ContextItem)
    (rendered : JsonDict) (tokens : Nat) (reason : String) : Selection :=
  { state with
    dropReasons := countUp state.dropReasons reason 1
    selection := state.selection ++
      [service.selectionSummary
        { item with
          included := false
          status := .dropped
          dropReason := some reason
          tokenEstimate := tokens
          charCount := (stableJson service.py (.obj rendered)).length }]
    decisions := state.decisions ++
      [contextDecision candidate .budgetDropped (some reason) none [] tokens] }

/-- mirrors app/services/context_pipeline_service.py:469-555 -/
def selectCandidate (purpose : ContextPurpose) (consumer : ContextConsumer) (budget : ContextBudget)
    (state : Selection) (candidate : ContextCandidate) : Except ContextBudgetExhausted Selection :=
  let (rendered, item) := service.renderCandidate candidate purpose consumer budget
  let tokens := fun value => payloadTokens service.py value budget
  let exceeded := sourceOver budget state.sourceUsed candidate.source (tokens rendered)
  let tooLong := fun value =>
    budget.maxTokens < payloadTokens service.py (withProjectedItem state.payload value) budget
  if !exceeded && !tooLong rendered then
    .ok (service.accept state candidate item rendered (tokens rendered))
  else if candidate.mustInclude then
    let minimal := minimalRendered candidate
    if tooLong minimal || sourceOver budget state.sourceUsed candidate.source (tokens minimal) then
      .error .candidate
    else .ok (service.accept state candidate (minimalItem item) minimal (tokens minimal))
  else
    .ok (service.drop state candidate item rendered (tokens rendered)
      (if exceeded then "source_budget_exceeded" else "total_budget_exceeded"))

/-- What `_select_and_project` returns. -/
structure SelectionResult where
  items : List ContextItem
  selection : List ContextSelectionSummary
  usage : ContextUsage
  payload : JsonDict
  decisions : List ContextTraceDecision

/-- mirrors app/services/context_pipeline_service.py:441-569 -/
def selectAndProject (request : ContextRequest) (purpose : ContextPurpose)
    (consumer : ContextConsumer) (candidates : List ContextCandidate) (budget : ContextBudget) :
    Except ContextBudgetExhausted SelectionResult :=
  let payload : JsonDict :=
    [("request", .obj (requestControlProjection request)), ("context", .obj [("items", .arr [])])]
  if budget.maxTokens < payloadTokens service.py payload budget then .error .wrapper
  else do
    let state ← (sortCandidates candidates).foldlM (service.selectCandidate purpose consumer budget)
      ⟨payload, [], [], [], .empty, .empty, 0⟩
    return {
      items := state.included
      selection := state.selection
      usage :=
        { budgetTokens := budget.maxTokens
          usedTokens := payloadTokens service.py state.payload budget
          includedCount := state.included.length
          droppedCount := state.selection.length - state.included.length
          truncatedCount := state.truncatedCount
          summaryPlaceholderCount := (state.included.filter (·.summaryPlaceholder)).length
          sourceDistribution := state.included.foldl
            (fun counts item => countUp counts item.source 1) .empty
          dropReasons := state.dropReasons }
      payload := state.payload
      decisions := state.decisions }

/-- The projection and the decisions of the trace.
mirrors app/services/context_pipeline_service.py:167-206 -/
def assembleCandidates (now : Instant) (request : ContextRequest) (purpose : ContextPurpose)
    (consumer : ContextConsumer) (candidates : List ContextCandidate)
    (budget : Option ContextBudget) (candidateAgents : List Json) :
    Except ContextError (SelectionResult × List ContextTraceDecision) := do
  let requested ← budget.elim (defaultBudget service.settings service.int) .ok
  let (eligible, denied) := service.govern now purpose consumer candidates
  let (resolved, conflicts) := service.dedupeAndResolveConflicts purpose consumer eligible
  let result ← (service.selectAndProject request purpose consumer resolved
    (effectiveBudget service.settings service.py requested candidateAgents)).mapError .exhausted
  return (result, denied ++ conflicts ++ result.decisions)

end ContextPipelineService

end OpenIntentRouter.Services
