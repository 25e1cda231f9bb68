import OpenIntentRouter.Core.Double
import OpenIntentRouter.Services.ContextProviders

/-!
# The context of the router

`ContextService` (app/services/context_service.py:54-128, 337-377, 928-981): the budget
that a request is granted, be it typed or in its frontend context, and the governed
context that is assembled for the router with it, of given candidates or of those of the
providers. The schema of a budget is app/schemas/context.py:53-59, whose base class
(app/schemas/common.py:75-76) forbids other fields.

Parameters besides those of the pipeline:
* `Pydantic`: what the validation of a field makes of a JSON value that is to be an
  `int`, a `float` or a `bool` (a `"12"` is an `int` to it, `12.5` is not), which is
  code of that package;
* `isInt`: whether a number of the JSON is an `int` of Python (`100`) or a `float`
  (`100.0`), which `isinstance` tells apart and `Json` does not.

`float(value)` is computed (`Core.Double`). An infinite rate, which the schema takes,
stands for a number that is larger than every text is long.
-/
namespace OpenIntentRouter.Services

open Core Schemas

/-- What the validation of a field reads a value as, if it accepts it. -/
structure Pydantic where
  int : Json → Option Int
  float : Json → Option Rat
  bool : Json → Option Bool

structure ContextService extends ContextPipelineService where
  isInt : Rat → Bool
  pydantic : Pydantic

/-! ## The schema of a budget -/

def budgetFields : List String :=
  ["max_tokens", "source_budgets", "per_item_token_limit", "per_item_char_limit", "chars_per_token",
    "allow_summary_placeholder"]

namespace Pydantic

variable (pydantic : Pydantic)

/-- A field that has a default. -/
def fieldOr {α : Type} (data : JsonDict) (name : String) (default : α) (read : Json → Option α) :
    Option α :=
  match Json.field data name with
  | some value => read value
  | none => some default

/-- `int | None` -/
def optionalInt : Json → Option (Option Int)
  | .null => some none
  | value => (pydantic.int value).map some

/-- `dict[str, int]` -/
def intDict : Json → Option (Dict String Int)
  | .obj fields => fields.foldlM (fun d p => (pydantic.int p.2).map (d.set p.1)) .empty
  | _ => none

/-- `ContextBudget.model_validate(data)`, or `ValidationError`. `tokens` is a `max_tokens` that is
an `int` of Python already.
mirrors app/schemas/context.py:53-59 and app/schemas/common.py:75-76 -/
def validateBudget (tokens : Option Int) (data : JsonDict) : Option ContextBudget :=
  if data.all fun p => p.1 ∈ budgetFields then do
    let maxTokens ← tokens.or ((Json.field data "max_tokens").bind pydantic.int)
    let sourceBudgets ← fieldOr data "source_budgets" .empty pydantic.intDict
    let perItemTokenLimit ← fieldOr data "per_item_token_limit" none pydantic.optionalInt
    let perItemCharLimit ← fieldOr data "per_item_char_limit" none pydantic.optionalInt
    let charsPerToken ← fieldOr data "chars_per_token" 4 pydantic.float
    let allowSummaryPlaceholder ← fieldOr data "allow_summary_placeholder" true pydantic.bool
    (contextBudget maxTokens sourceBudgets perItemTokenLimit perItemCharLimit charsPerToken
      allowSummaryPlaceholder).toOption
  else none

end Pydantic

/-! ## The budget of a request -/

/-- mirrors app/services/context_service.py:979-981 -/
def minOptionalPositive (requested configured : Option Int) : Option Int :=
  match requested.filter (0 < ·), configured.filter (0 < ·) with
  | some r, some c => some (min r c)
  | some r, none => some r
  | none, c => c

namespace ContextService

variable (service : ContextService)

/-- The `int` that a value is an instance of; `True` and `False` are some. -/
def integer : Json → Option Int
  | .bool b => some (if b then 1 else 0)
  | .num q => if q.den = 1 ∧ service.isInt q then some q.num else none
  | .null | .str _ | .arr _ | .obj _ => none

/-- `float(value)`, or `OverflowError`, `TypeError` or `ValueError` -/
def float : Json → Option Double
  | .bool b => some (.finite (if b then 1 else 0))
  | .num q => Double.ofRat q
  | .str s => Double.ofText service.py.toUnicode s
  | .null | .arr _ | .obj _ => none

/-- `float(a or b or 4.0)` of fields that may be missing. -/
def charsPerTokenOf (values : List (Option Json)) : Except ContextError Double :=
  match values.findSome? (·.filter Json.truthy) with
  | none => .ok (.finite 4)
  | some value =>
    match service.float value with
    | some q => .ok q
    | none => .error .validation

/-- `max(1, ceil(chars / chars_per_token))` -/
def tokensOfChars (chars : Int) (charsPerToken : Double) : Except ContextError Int :=
  match Double.ceilDiv chars charsPerToken with
  | some tokens => .ok (max 1 tokens)
  | none => .error .validation

/-- The value of the field under the first of two spellings that is truthy. -/
def spelled (context : JsonDict) (snake camel : String) : Option Json :=
  ((Json.field context snake).filter Json.truthy).or (Json.field context camel)

/-- `data[snake] = data[camel]`, if only the latter is there -/
def copyField (data : JsonDict) (p : String × String) : JsonDict :=
  match Json.field data p.2, Json.field data p.1 with
  | some value, none => JsonDict.set data p.1 value
  | _, _ => data

/-- The budget of the frontend context, under the field of either spelling, or by its limit of
characters.
mirrors app/services/context_service.py:928-961 -/
def frontendBudget (context : JsonDict) : Except ContextError (Option ContextBudget) :=
  let mapping := fun name =>
    match Json.field context name with
    | some (.obj data) => some data
    | _ => none
  match (mapping "context_budget").or (mapping "contextBudget") with
  | none =>
    match (spelled context "context_char_limit" "contextCharLimit").bind service.integer with
    | none => .ok none
    | some limit =>
      if 0 < limit then do
        let charsPerToken ← service.charsPerTokenOf
          [Json.field context "chars_per_token", Json.field context "charsPerToken"]
        let tokens ← tokensOfChars limit charsPerToken
        return some (← contextBudget tokens .empty none none 4 true)
      else .ok none
  | some data => do
    let (data, tokens) ←
      match Json.field data "max_chars", Json.field data "max_tokens" with
      | some maxChars, none => do
        let charsPerToken ← service.charsPerTokenOf [Json.field data "chars_per_token"]
        match service.integer maxChars with
        | some chars =>
          if 0 < chars then do
            let tokens ← tokensOfChars chars charsPerToken
            pure (JsonDict.set data "max_tokens" (.num tokens), some tokens)
          else pure (data, none)
        | none => pure (data, none)
      | _, _ => pure (data, none)
    let data := [("max_tokens", "maxTokens"), ("source_budgets", "sourceBudgets"),
      ("per_item_token_limit", "perItemTokenLimit"), ("per_item_char_limit", "perItemCharLimit"),
      ("chars_per_token", "charsPerToken")].foldl copyField (data.filter (·.1 ≠ "max_chars"))
    match service.pydantic.validateBudget tokens data with
    | some budget => return some budget
    | none => .error .validation

/-- `request.context_budget or _frontend_budget(request.frontend_context)` -/
def requestedBudget (request : ContextRequest) : Except ContextError (Option ContextBudget) :=
  match request.contextBudget with
  | some budget => .ok (some budget)
  | none => service.frontendBudget request.frontendContext

/-- The source budgets of the settings and of the request, each at most the maximum. -/
def grantedSources (configured requested : Dict String Int) (maximum : Int) : Dict String Int :=
  let merged := requested.entries.foldl (fun all p => all.set p.1 p.2) configured
  merged.entries.foldl
    (fun granted p => if 0 < p.2 then granted.set p.1 (min p.2 maximum) else granted) .empty

/-- mirrors app/services/context_service.py:337-377 -/
def contextBudgetForRequest (request : ContextRequest) : Except ContextError ContextBudget := do
  let settings := service.settings
  let budget ← defaultBudget settings service.int
  match ← service.requestedBudget request with
  | none => return budget
  | some requested =>
    if !settings.allowRequestBudgetOverride then return budget
    else
      contextBudget (min requested.maxTokens settings.maxTokenBudget)
        (grantedSources (parseSourceBudgets service.int settings.defaultSourceBudgets)
          requested.sourceBudgets settings.maxTokenBudget)
        (minOptionalPositive (requested.perItemTokenLimit.map Int.ofNat)
          (some settings.perItemTokenLimit))
        (minOptionalPositive (requested.perItemCharLimit.map Int.ofNat)
          (some settings.perItemCharLimit))
        requested.charsPerToken
        (requested.allowSummaryPlaceholder && settings.allowSummaryPlaceholder)

end ContextService

/-! ## The providers of a route -/

/-- What the context of a route is made of. Histories, results, events and evidence are empty and
the plan is `None` if they are not given. -/
structure RouteContextInput where
  request : ProviderRequest
  hostHistory : List Json
  agentHistory : List Json
  recentResults : List Json
  recentEvents : List Json
  evidence : List Json
  activePlan : Json

/-- mirrors app/services/context_service.py:91-98 -/
def RouteContextInput.sources (input : RouteContextInput) : JsonDict :=
  [("host_history", .arr input.hostHistory), ("agent_history", .arr input.agentHistory),
    ("recent_results", .arr input.recentResults), ("recent_events", .arr input.recentEvents),
    ("evidence", .arr input.evidence), ("active_plan", input.activePlan)]

/-- mirrors app/services/context_service.py:99-118 -/
def routeProviders (memory : Option MemoryRetrievalProvider) : List ContextProvider :=
  [.currentInput, .currentAgent, .plan, .history, .events, .results, .artifacts, .evidence,
    .frontendContext] ++ memory.toList.map fun provider => .memory { provider with stage := .route }

def RouteContextInput.call (input : RouteContextInput) (provider : ContextProvider) :
    ProviderCall where
  provider := provider
  purpose := .routeDecision
  consumer := .router
  agent := none
  sources := input.sources

inductive RouteContextError where
  | context (e : ContextError)
  | raised (e : CollectError)
  deriving DecidableEq

def RouteContextInput.candidates (tools : ProviderTools) (memory : Option MemoryRetrievalProvider)
    (input : RouteContextInput) : Except CollectError (List ContextCandidate) := do
  let answers ← (routeProviders memory).mapM fun provider =>
    (input.call provider).miss tools input.request
  return answers.flatMap (·.1)

/-- The projection for the router of what the providers collect, and the decisions of its trace.
mirrors app/services/context_service.py:54-128 -/
def ContextService.assembleRouteContext (service : ContextService) (tools : ProviderTools)
    (memory : Option MemoryRetrievalProvider) (now : Instant) (input : RouteContextInput)
    (candidateAgents : List Json) :
    Except RouteContextError
      (ContextPipelineService.SelectionResult × List ContextTraceDecision) := do
  let request := input.request
  let budget ← (service.contextBudgetForRequest request).mapError .context
  let candidates ← (input.candidates tools memory).mapError .raised
  (service.assembleCandidates now request .routeDecision .router candidates (some budget)
    candidateAgents).mapError .context

end OpenIntentRouter.Services
