import OpenIntentRouter.Context.RedactedCandidates
import OpenIntentRouter.Context.TotalBudgets

/-!
# Secrets and the projection

The projection that `assemble_route_context` (app/services/context_service.py:54-128) sends to
the model, for two inputs that differ only in what is stored under sensitive keys of the
frontend context, the results, the events, the evidence and the plan. What the providers print
as it is must hold no such key: the content of the frontend context quotes its fields as JSON.
Nor may the budget be read from one: `chars_per_token` is a sensitive key by its ending.

The settings, the memories and the candidate agents are arbitrary. Hypotheses on the parameters:
the redaction lower-cases as Python does, and neither the validation of a number, a flag or a
datetime nor `float` takes a list or an object (`ScalarFields`, `ScalarTools`).

Results:
* `BudgetOpen`, `ProvidersOpen`: what is read for the budget and what is printed has no
  sensitive key; `InputOpen.mask_iff`: inputs that differ only under such keys are alike in it;
* `frontendBudget_mask`, `candidates_mask`: the budget and the candidates of such inputs;
* `secrets_stay_out`: then the projections are equal;
* `entered_password_shown`: a password in a field of the frontend context that is quoted.
-/
namespace OpenIntentRouter.Context

open Core Core.Except Core.Json Schemas Services ContextPipelineService

variable {R : Redaction}

/-! ## Masked inputs -/

/-- The input with a `null` under every hidden key of the frontend context, the results, the
events, the evidence and the plan. -/
def maskInput (hidden : String → Bool) (input : RouteContextInput) : RouteContextInput :=
  { input with
    request :=
      { input.request with frontendContext := maskFields hidden input.request.frontendContext }
    recentResults := maskItems hidden input.recentResults
    recentEvents := maskItems hidden input.recentEvents
    evidence := maskItems hidden input.evidence
    activePlan := mask hidden input.activePlan }

/-! ## Openness -/

/-- The objects of a list. -/
def objects (values : List Json) : List JsonDict :=
  (indexedObjects (some (.arr values))).map Prod.fst

/-- What the providers print of the input has no sensitive key. A provider that raises for one of
the values prints none of them. -/
structure ProvidersOpen (tools : ProviderTools) (R : Redaction) (input : RouteContextInput) :
    Prop where
  frontend : TextOpen tools R
    (ProviderTools.pickFields ProviderTools.frontendKeys input.request.frontendContext)
  results : (∀ value, .obj value ∈ input.recentResults →
      ∃ created, tools.createdAt value = .ok created) →
    ∀ value, .obj value ∈ input.recentResults → ResultOpen R value
  artifacts : ArtifactsOpen tools R (objects input.recentResults)
  events : (∀ value, .obj value ∈ input.recentEvents →
      ∃ created, tools.createdAt value = .ok created) →
    ∀ value, .obj value ∈ input.recentEvents → EventOpen R value
  evidence : (∀ value, .obj value ∈ input.evidence → ∃ score, scoreOf tools value = .ok score) →
    ∀ value, .obj value ∈ input.evidence → EvidenceOpen tools R value
  plan : ∀ value, input.activePlan = .obj value → StatusesHashable value → PlanOpen R value

/-- What of a budget mapping is not sensitive is accepted by the schema. -/
structure Budgeted (service : ContextService) (data : JsonDict) : Prop where
  known : data.map Prod.fst ⊆ "max_chars" :: budgetFields
  itemTokens : LimitField service.pydantic data "per_item_token_limit"
  itemChars : LimitField service.pydantic data "per_item_char_limit"
  placeholder : ∀ value, field data "allow_summary_placeholder" = some value →
    (service.pydantic.bool value).isSome
  tokens : match field data "max_tokens" with
    | some value => ∃ n, service.pydantic.int value = some n ∧ 0 < n
    | none => ∃ maxChars chars, field data "max_chars" = some maxChars ∧
        service.integer maxChars = some chars ∧ 0 < chars

/-- The budget of a request reads no sensitive key: it is typed, or it is a mapping without a rate
and with plain sources, or one that is refused anyway, or there is no mapping and no limit of
characters or no rate. -/
def BudgetOpen (service : ContextService) (request : ContextRequest) : Prop :=
  request.contextBudget = none →
    match budgetMapping request.frontendContext with
    | some data => Budgeted service data → field data "chars_per_token" = none ∧
        ∀ fields, field data "source_budgets" = some (.obj fields) →
          ∀ p ∈ fields, service.redaction.isSensitiveKey p.1 = false
    | none => characterLimit service request.frontendContext = none ∨
        field request.frontendContext "chars_per_token" = none

/-- Nothing sensitive is read for the budget, nor printed if there is one. -/
structure InputOpen (service : ContextService) (tools : ProviderTools) (input : RouteContextInput) :
    Prop where
  budget : BudgetOpen service input.request
  providers : (∃ budget, service.contextBudgetForRequest input.request = .ok budget) →
    ProvidersOpen tools service.redaction input

/-- What the validation of a field makes of a list or an object that is to be a number or a flag. -/
structure ScalarFields (pydantic : Pydantic) : Prop where
  int_arr : ∀ items, pydantic.int (.arr items) = none
  int_obj : ∀ fields, pydantic.int (.obj fields) = none
  float_arr : ∀ items, pydantic.float (.arr items) = none
  float_obj : ∀ fields, pydantic.float (.obj fields) = none
  bool_arr : ∀ items, pydantic.bool (.arr items) = none
  bool_obj : ∀ fields, pydantic.bool (.obj fields) = none

/-! ## Providers -/

variable {candidates others : List ContextCandidate} {provider : ContextProvider}
  {memory : Option MemoryRetrievalProvider} {pydantic : Pydantic} {a b : JsonDict}
  {request : ContextRequest}

section

variable {service : ContextPipelineService} {tools : ProviderTools} {input : RouteContextInput}

def governedCandidates (service : ContextPipelineService) (tools : ProviderTools)
    (call : ProviderCall) (request : ProviderRequest) :
    Except CollectError (List ContextCandidate) :=
  (call.provider.collect tools (call.context request)).map fun collected =>
    collected.candidates.map service.governed

theorem listed_governed (candidates : Except CollectError (List ContextCandidate)) :
    (candidates.map ContextProvider.listed).map
        (fun collected => collected.candidates.map service.governed) =
      candidates.map (List.map service.governed) := by
  cases candidates <;> rfl

theorem sources_results (input : RouteContextInput) :
    field input.sources "recent_results" = some (.arr input.recentResults) := rfl

theorem sources_events (input : RouteContextInput) :
    field input.sources "recent_events" = some (.arr input.recentEvents) := rfl

theorem sources_evidence (input : RouteContextInput) :
    field input.sources "evidence" = some (.arr input.evidence) := rfl

theorem sources_plan (input : RouteContextInput) :
    field input.sources "active_plan" = some input.activePlan := rfl

def CollectsAlike (service : ContextPipelineService) (tools : ProviderTools) (input : RouteContextInput)
    (provider : ContextProvider) : Prop :=
  let masked := maskInput service.redaction.isSensitiveKey input
  governedCandidates service tools (masked.call provider) masked.request =
    governedCandidates service tools (input.call provider) input.request

theorem resultCandidate_reads (context : ContextProviderContext) (fields : JsonDict) (index : Nat) :
    (tools.resultCandidate context fields index).map (fun _ => ()) =
      (tools.createdAt fields).map fun _ => () := by
  unfold ProviderTools.resultCandidate
  cases tools.createdAt fields <;> rfl

theorem eventCandidate_reads (context : ContextProviderContext) (fields : JsonDict) (index : Nat) :
    (tools.eventCandidate context fields index).map (fun _ => ()) =
      (tools.createdAt fields).map fun _ => () := by
  unfold ProviderTools.eventCandidate
  cases tools.createdAt fields <;> rfl

theorem evidenceCandidate_reads (context : ContextProviderContext) (fields : JsonDict) (index : Nat) :
    (tools.evidenceCandidate context fields index).map (fun _ => ()) =
      (scoreOf tools fields).map fun _ => () := by
  unfold ProviderTools.evidenceCandidate scoreOf
  cases tools.boundedScore (((truthyField fields "score").or (truthyField fields "confidence")).getD
    (getField fields "relevance")) <;> rfl

theorem results_mask (hplain : Plain service.redaction) (hscalar : ScalarTools tools)
    (hopen : ProvidersOpen tools service.redaction input) :
    CollectsAlike service tools input .results := by
  unfold CollectsAlike governedCandidates
  dsimp only [ContextProvider.collect, RouteContextInput.call, ProviderTools.results,
    ProviderCall.context]
  rw [listed_governed, listed_governed, sources_results, sources_results]
  exact mapM_indexedObjects_mask (resultCandidate_reads _) (createdAt_mask hplain hscalar)
    fun hread fields index hfields =>
      resultCandidate_open hplain hscalar (hopen.results hread fields hfields) index

theorem events_mask (hplain : Plain service.redaction) (hscalar : ScalarTools tools)
    (hopen : ProvidersOpen tools service.redaction input) :
    CollectsAlike service tools input .events := by
  unfold CollectsAlike governedCandidates
  dsimp only [ContextProvider.collect, RouteContextInput.call, ProviderTools.events,
    ProviderCall.context]
  rw [listed_governed, listed_governed, sources_events, sources_events]
  exact mapM_indexedObjects_mask (eventCandidate_reads _) (createdAt_mask hplain hscalar)
    fun hread fields index hfields =>
      eventCandidate_open hplain hscalar (hopen.events hread fields hfields) index

theorem evidence_mask (hplain : Plain service.redaction) (hscalar : ScalarTools tools)
    (hopen : ProvidersOpen tools service.redaction input) :
    CollectsAlike service tools input .evidence := by
  unfold CollectsAlike governedCandidates
  dsimp only [ContextProvider.collect, RouteContextInput.call, ProviderTools.evidence,
    ProviderCall.context]
  rw [listed_governed, listed_governed, sources_evidence, sources_evidence]
  exact mapM_indexedObjects_mask (evidenceCandidate_reads _) (fun _ => scoreOf_mask hplain hscalar)
    fun hread fields index hfields =>
      evidenceCandidate_open hplain hscalar (hopen.evidence hread fields hfields) index

theorem objects_mask (values : List Json) :
    objects (maskItems R.isSensitiveKey values) =
      (objects values).map (maskFields R.isSensitiveKey) := by
  unfold objects
  rw [indexedObjects_mask, List.map_map, List.map_map]
  rfl

theorem artifacts_mask (hplain : Plain service.redaction)
    (hopen : ProvidersOpen tools service.redaction input) :
    CollectsAlike service tools input .artifacts := by
  have hcollected : ∀ context, ((objects (maskItems service.redaction.isSensitiveKey
        input.recentResults)).flatMap tools.artifactRefs).foldl (tools.addArtifact context) [] =
      ((objects input.recentResults).flatMap tools.artifactRefs).foldl
        (tools.addArtifact context) [] := by
    intro context
    rw [objects_mask]
    exact artifacts_open hplain hopen.artifacts
  exact congrArg (fun candidates => (Except.ok (candidates.map service.governed) :
    Except CollectError (List ContextCandidate))) (hcollected _)

theorem plan_mask (hplain : Plain service.redaction)
    (hopen : ProvidersOpen tools service.redaction input) :
    CollectsAlike service tools input .plan := by
  unfold CollectsAlike governedCandidates
  dsimp only [ContextProvider.collect, RouteContextInput.call, ProviderTools.plan, ProviderCall.context]
  rw [listed_governed, listed_governed]
  unfold objectField
  rw [sources_plan, sources_plan]
  simp only [maskInput]
  cases hplan : input.activePlan with
  | obj value =>
    have hvalue := hopen.plan value hplan
    simp only [mask, planSummary_open hplain hvalue]
    by_cases hstatuses : StatusesHashable value
    · simp only [textOr_open (hplain _ (by decide)) (hvalue hstatuses).id]
      cases tools.planSummary value with
      | error e => rfl
      | ok summary =>
        have hget := hplain.gets ["plan_id", "status"] (by decide) value
        simp only [List.mem_cons, List.not_mem_nil, or_false, forall_eq_or_imp, forall_eq] at hget
        refine congrArg (fun c => Except.ok [c]) (governed_mask rfl rfl ?_)
        simp only [maskFields, mask, hget, Bool.false_eq_true, if_false]
    · rw [planSummary_raises hstatuses]
      rfl
  | _ => rfl

theorem frontend_mask (hplain : Plain service.redaction)
    (hopen : ProvidersOpen tools service.redaction input) :
    CollectsAlike service tools input .frontendContext := by
  refine congrArg Except.ok ?_
  exact frontendContext_open hplain hopen.frontend (input.call .frontendContext)

/-- The plan at hand, with a `null` under every sensitive key. -/
theorem activePlanValue_mask (hplain : Plain R) {c d : ContextProviderContext}
    (hplan : objectField d.sources "active_plan" =
      (objectField c.sources "active_plan").map (maskFields R.isSensitiveKey))
    (htenant : d.request.tenantId = c.request.tenantId)
    (huser : d.request.userId = c.request.userId) :
    activePlanValue d = (activePlanValue c).map (Option.map (maskFields R.isSensitiveKey)) := by
  have huserEq : ∀ (item : Json) (s : String),
      pyEq (mask R.isSensitiveKey item) (.str s) = pyEq item (.str s) := by
    intro item s
    cases item <;> rfl
  have htenantEq : ∀ (item : Json) (o : Option String),
      pyEq (mask R.isSensitiveKey item) (textJson o) = pyEq item (textJson o) := by
    intro item o
    cases o <;> cases item <;> rfl
  unfold activePlanValue
  rw [hplan, htenant, huser]
  cases objectField c.sources "active_plan" with
  | none => rfl
  | some value =>
    simp only [Option.map_some, field_maskFields_of (hplain "status" (by decide)), inTexts_mask,
      getField_mask (hplain "tenant_id" (by decide)), getField_mask (hplain "user_id" (by decide)),
      huserEq, htenantEq]
    cases inTexts (field value "status") ["pending", "running", "blocked"] with
    | error e => rfl
    | ok active =>
      dsimp only
      split <;> rfl

theorem objectField_plan (input : RouteContextInput) :
    objectField (maskInput R.isSensitiveKey input).sources "active_plan" =
      (objectField input.sources "active_plan").map (maskFields R.isSensitiveKey) := by
  unfold objectField
  rw [sources_plan, sources_plan]
  simp only [maskInput]
  cases input.activePlan <;> rfl

variable (input) in
theorem plan_at_hand_mask (hplain : Plain R) (provider : ContextProvider) :
    activePlanValue (((maskInput R.isSensitiveKey input).call provider).context
        (maskInput R.isSensitiveKey input).request) =
      (activePlanValue ((input.call provider).context input.request)).map
        (Option.map (maskFields R.isSensitiveKey)) :=
  activePlanValue_mask hplain (objectField_plan input) rfl rfl

/-- The memories of a route do not depend on the plan but for whether its status is a text. -/
theorem memory_mask (hplain : Plain service.redaction) (p : MemoryRetrievalProvider)
    (hroute : p.stage = .route)
    (hplan : ∃ plan, activePlanValue ((input.call (.memory p)).context input.request) = .ok plan) :
    CollectsAlike service tools input (.memory p) := by
  have hmasked := plan_at_hand_mask input hplain (.memory p)
  obtain ⟨plan, hplan⟩ := hplan
  have hitems : p.runtimeItem tools (((maskInput service.redaction.isSensitiveKey input).call
        (.memory p)).context (maskInput service.redaction.isSensitiveKey input).request) =
      p.runtimeItem tools ((input.call (.memory p)).context input.request) := by
    refine funext fun item => runtimeItem_congr rfl ⟨_, hmasked.trans (by rw [hplan]; rfl)⟩
      ⟨plan, hplan⟩ fun _ hagent => ?_
    rw [hroute] at hagent
    cases hagent
  have hcollect : ∀ call : ProviderCall, ∀ request : ProviderRequest,
      call.provider = .memory p → governedCandidates service tools call request =
        (((ContextProvider.memory p).collect tools (call.context request)).map
          (·.candidates)).map (List.map service.governed) := by
    intro call request hcall
    unfold governedCandidates
    rw [hcall]
    cases (ContextProvider.memory p).collect tools (call.context request) <;> rfl
  unfold CollectsAlike
  dsimp only
  rw [hcollect _ _ rfl, hcollect _ _ rfl, collect_memory_eq, collect_memory_eq, hitems]
  rfl

/-! ## Answers -/

def governedAnswer (service : ContextPipelineService) (tools : ProviderTools)
    (call : ProviderCall) (request : ProviderRequest) :
    Except CollectError (List ContextCandidate) :=
  (call.miss tools request).map fun answer => answer.1.map service.governed

theorem governedAnswer_eq (call : ProviderCall) (request : ProviderRequest) :
    governedAnswer service tools call request =
      if call.provider.applies (call.context request) then
        (call.provider.cacheKey tools (call.context request)).map fun _ =>
          (governedCandidates service tools call request).toOption.getD []
      else .ok [] := by
  unfold governedAnswer ProviderCall.miss governedCandidates
  dsimp only
  cases call.provider.applies (call.context request) with
  | false => rfl
  | true =>
    cases call.provider.cacheKey tools (call.context request) with
    | error e => rfl
    | ok key =>
      cases call.provider.collect tools (call.context request) with
      | ok collected => rfl
      | error e => cases e <;> rfl

/-- A provider that applies to the masked input as to the input, and collects alike. -/
theorem answer_mask (hcollects : CollectsAlike service tools input provider)
    (happlies : provider.applies (((maskInput service.redaction.isSensitiveKey input).call
        provider).context (maskInput service.redaction.isSensitiveKey input).request) =
      provider.applies ((input.call provider).context input.request))
    (hkey : (provider.cacheKey tools (((maskInput service.redaction.isSensitiveKey input).call
        provider).context (maskInput service.redaction.isSensitiveKey input).request)).map
          (fun _ => ()) =
      (provider.cacheKey tools ((input.call provider).context input.request)).map fun _ => ()) :
    governedAnswer service tools ((maskInput service.redaction.isSensitiveKey input).call provider)
        (maskInput service.redaction.isSensitiveKey input).request =
      governedAnswer service tools (input.call provider) input.request := by
  rw [governedAnswer_eq, governedAnswer_eq]
  unfold CollectsAlike at hcollects
  dsimp only at hcollects
  rw [hcollects]
  change (if provider.applies _ then (provider.cacheKey tools _).map _ else _) =
    if provider.applies _ then (provider.cacheKey tools _).map _ else _
  rw [happlies]
  split
  · cases hmasked : provider.cacheKey tools (((maskInput service.redaction.isSensitiveKey
        input).call provider).context
          (maskInput service.redaction.isSensitiveKey input).request) with
    | error e =>
      cases hown : provider.cacheKey tools ((input.call provider).context input.request) with
      | error e' =>
        rw [hmasked, hown] at hkey
        cases hkey
        rfl
      | ok key =>
        rw [hmasked, hown] at hkey
        cases hkey
    | ok key =>
      cases hown : provider.cacheKey tools ((input.call provider).context input.request) with
      | error e' =>
        rw [hmasked, hown] at hkey
        cases hkey
      | ok key' => rfl
  · rfl

theorem isSome_truthyField {fields : JsonDict} {key : String} {item : Json}
    (h : field fields key = some item) : (truthyField fields key).isSome = item.truthy := by
  unfold truthyField
  rw [h, Option.filter_some]
  cases item.truthy <;> rfl

theorem sources_hostHistory (input : RouteContextInput) :
    field input.sources "host_history" = some (.arr input.hostHistory) := by
  simp [RouteContextInput.sources, field]

theorem sources_agentHistory (input : RouteContextInput) :
    field input.sources "agent_history" = some (.arr input.agentHistory) := by
  simp [RouteContextInput.sources, field]

theorem history_mask : CollectsAlike service tools input .history := by
  unfold CollectsAlike governedCandidates
  dsimp only [ContextProvider.collect, RouteContextInput.call, ProviderTools.history,
    ProviderCall.context]
  simp only [sources_hostHistory, sources_agentHistory]
  rfl

variable (input) in
/-- Each provider applies to the masked input as to the input. -/
theorem applies_mask (hplain : Plain service.redaction) {memory : Option MemoryRetrievalProvider}
    {provider : ContextProvider} (hprovider : provider ∈ routeProviders memory) :
    provider.applies (((maskInput service.redaction.isSensitiveKey input).call provider).context
        (maskInput service.redaction.isSensitiveKey input).request) =
      provider.applies ((input.call provider).context input.request) := by
  cases provider with
  | frontendContext =>
    change decide (maskFields _ input.request.frontendContext ≠ []) =
      decide (input.request.frontendContext ≠ [])
    cases input.request.frontendContext <;> rfl
  | history =>
    change ((truthyField (maskInput _ input).sources _).isSome ||
        (truthyField (maskInput _ input).sources _).isSome) =
      ((truthyField input.sources _).isSome || (truthyField input.sources _).isSome)
    rw [isSome_truthyField (sources_hostHistory _), isSome_truthyField (sources_hostHistory _),
      isSome_truthyField (sources_agentHistory _), isSome_truthyField (sources_agentHistory _)]
    rfl
  | results =>
    change (truthyField (maskInput _ input).sources _).isSome = (truthyField input.sources _).isSome
    rw [isSome_truthyField (sources_results _), isSome_truthyField (sources_results _)]
    exact truthy_mask (.arr input.recentResults)
  | events =>
    change (truthyField (maskInput _ input).sources _).isSome = (truthyField input.sources _).isSome
    rw [isSome_truthyField (sources_events _), isSome_truthyField (sources_events _)]
    exact truthy_mask (.arr input.recentEvents)
  | evidence =>
    change (truthyField (maskInput _ input).sources _).isSome = (truthyField input.sources _).isSome
    rw [isSome_truthyField (sources_evidence _), isSome_truthyField (sources_evidence _)]
    exact truthy_mask (.arr input.evidence)
  | plan =>
    change (truthyField (maskInput _ input).sources _).isSome = (truthyField input.sources _).isSome
    rw [isSome_truthyField (sources_plan _), isSome_truthyField (sources_plan _)]
    exact truthy_mask input.activePlan
  | artifacts =>
    change (indexedObjects (field (maskInput _ input).sources _)).any _ =
      (indexedObjects (field input.sources _)).any _
    rw [sources_results, sources_results]
    simp only [maskInput]
    rw [indexedObjects_mask, List.any_map]
    refine congrArg (List.any _) (funext fun p => ?_)
    simp only [Function.comp_apply, truthyField_mask (hplain "artifact_refs" (by decide)),
      Option.isSome_map]
  | knowledge p => simp [routeProviders] at hprovider
  | _ => rfl

variable (tools) in
/-- The key of the memories is there if the plan at hand is. -/
theorem memoryKey_map (context : ContextProviderContext) (p : MemoryRetrievalProvider) :
    (ContextProvider.memoryKey tools context p).map (fun _ => ()) =
      (activePlanValue context).map fun _ => () := by
  unfold ContextProvider.memoryKey
  cases activePlanValue context with
  | error e => rfl
  | ok plan =>
    rw [ok_bind]
    exact (rfl : Except.ok () = Except.ok ())

variable (tools input) in
theorem key_mask (hplain : Plain service.redaction) (provider : ContextProvider) :
    (provider.cacheKey tools (((maskInput service.redaction.isSensitiveKey input).call
        provider).context (maskInput service.redaction.isSensitiveKey input).request)).map
          (fun _ => ()) =
      (provider.cacheKey tools ((input.call provider).context input.request)).map fun _ => () := by
  cases provider with
  | memory p =>
    have hmasked := memoryKey_map tools (((maskInput service.redaction.isSensitiveKey
      input).call (.memory p)).context (maskInput service.redaction.isSensitiveKey input).request) p
    have hown := memoryKey_map tools ((input.call (.memory p)).context input.request) p
    refine hmasked.trans (Eq.trans ?_ hown.symm)
    rw [plan_at_hand_mask _ hplain]
    cases activePlanValue ((input.call (.memory p)).context input.request) <;> rfl
  | knowledge p => exact (rfl : Except.ok () = Except.ok ())
  | _ => exact (rfl : Except.ok () = Except.ok ())

theorem governedAnswer_mask (hplain : Plain service.redaction) (hscalar : ScalarTools tools)
    (hopen : ProvidersOpen tools service.redaction input)
    (hprovider : provider ∈ routeProviders memory) :
    governedAnswer service tools ((maskInput service.redaction.isSensitiveKey input).call provider)
        (maskInput service.redaction.isSensitiveKey input).request =
      governedAnswer service tools (input.call provider) input.request := by
  have happlies := applies_mask input hplain hprovider
  have hkey := key_mask tools input hplain provider
  cases provider with
  | memory p =>
    have hroute : p.stage = .route := by
      simp only [routeProviders, List.mem_append, List.mem_cons, List.not_mem_nil, or_false,
        reduceCtorEq, false_or, List.mem_map, ContextProvider.memory.injEq] at hprovider
      obtain ⟨q, -, rfl⟩ := hprovider
      rfl
    cases hplan : activePlanValue ((input.call (.memory p)).context input.request) with
    | ok plan => exact answer_mask (memory_mask hplain p hroute ⟨plan, hplan⟩) happlies hkey
    | error e =>
      have hmasked := plan_at_hand_mask input hplain (.memory p)
      rw [governedAnswer_eq, governedAnswer_eq]
      change (if ContextProvider.applies _ (.memory p) then
          (ContextProvider.memoryKey tools _ p).map _ else _) =
        if ContextProvider.applies _ (.memory p) then
          (ContextProvider.memoryKey tools _ p).map _ else _
      rw [happlies]
      unfold ContextProvider.memoryKey
      rw [hmasked, hplan]
      rfl
  | static name candidates status errorCode => simp [routeProviders] at hprovider
  | knowledge p => simp [routeProviders] at hprovider
  | currentInput => exact answer_mask rfl happlies hkey
  | currentAgent => exact answer_mask rfl happlies hkey
  | frontendContext => exact answer_mask (frontend_mask hplain hopen) happlies hkey
  | history => exact answer_mask history_mask happlies hkey
  | results => exact answer_mask (results_mask hplain hscalar hopen) happlies hkey
  | events => exact answer_mask (events_mask hplain hscalar hopen) happlies hkey
  | plan => exact answer_mask (plan_mask hplain hopen) happlies hkey
  | evidence => exact answer_mask (evidence_mask hplain hscalar hopen) happlies hkey
  | artifacts => exact answer_mask (artifacts_mask hplain hopen) happlies hkey

/-- The candidates as the projection sees them, provider by provider. -/
theorem candidates_governed (memory : Option MemoryRetrievalProvider) (input : RouteContextInput) :
    (input.candidates tools memory).map (List.map service.governed) =
      ((routeProviders memory).mapM fun provider =>
        governedAnswer service tools (input.call provider) input.request).map List.flatten := by
  have hanswers : ((routeProviders memory).mapM fun provider =>
      governedAnswer service tools (input.call provider) input.request) =
        ((routeProviders memory).mapM fun provider =>
          (input.call provider).miss tools input.request).map
            (List.map fun answer => answer.1.map service.governed) :=
    mapM_map fun provider _ => rfl
  rw [hanswers]
  unfold RouteContextInput.candidates
  cases (routeProviders memory).mapM fun provider =>
      (input.call provider).miss tools input.request with
  | error e => rfl
  | ok answers =>
    refine congrArg Except.ok ?_
    rw [List.map_flatMap, List.flatMap_def]

theorem candidates_mask (hplain : Plain service.redaction) (hscalar : ScalarTools tools)
    (hopen : ProvidersOpen tools service.redaction input) (memory : Option MemoryRetrievalProvider) :
    ((maskInput service.redaction.isSensitiveKey input).candidates tools memory).map
        (List.map service.governed) =
      (input.candidates tools memory).map (List.map service.governed) := by
  rw [candidates_governed, candidates_governed]
  refine congrArg (Except.map List.flatten) (mapM_congr fun provider hprovider => ?_)
  exact governedAnswer_mask hplain hscalar hopen hprovider

theorem govern_congr (h : others.map service.governed = candidates.map service.governed)
    (now : Instant) (purpose : ContextPurpose) (consumer : ContextConsumer) :
    service.govern now purpose consumer others = service.govern now purpose consumer candidates := by
  have hgoverned : ∀ values : List ContextCandidate,
      service.govern now purpose consumer values =
        ((values.map service.governed).filter fun candidate =>
            (denial now purpose consumer candidate).isNone,
          (values.map service.governed).filterMap fun candidate =>
            (denial now purpose consumer candidate).map fun denied =>
              contextDecision candidate denied.1 (some denied.2) none [] 0) := by
    intro values
    rw [List.filter_map, List.filterMap_map]
    rfl
  rw [hgoverned, hgoverned, h]

theorem assembleCandidates_congr (h : others.map service.governed = candidates.map service.governed)
    (now : Instant) (request : ContextRequest) (purpose : ContextPurpose)
    (consumer : ContextConsumer) (budget : Option ContextBudget) (candidateAgents : List Json) :
    service.assembleCandidates now request purpose consumer others budget candidateAgents =
      service.assembleCandidates now request purpose consumer candidates budget
        candidateAgents := by
  unfold assembleCandidates
  rw [govern_congr h]

end

/-! ## The budget -/

section

variable {service : ContextService} {data : JsonDict}

theorem int_mask (hscalar : ScalarFields pydantic) (value : Json) :
    pydantic.int (mask R.isSensitiveKey value) = pydantic.int value := by
  cases value with
  | arr items => rw [mask, hscalar.int_arr, hscalar.int_arr]
  | obj fields => rw [mask, hscalar.int_obj, hscalar.int_obj]
  | null | bool b | num q | str s => rfl

theorem float_mask (hscalar : ScalarFields pydantic) (value : Json) :
    pydantic.float (mask R.isSensitiveKey value) = pydantic.float value := by
  cases value with
  | arr items => rw [mask, hscalar.float_arr, hscalar.float_arr]
  | obj fields => rw [mask, hscalar.float_obj, hscalar.float_obj]
  | null | bool b | num q | str s => rfl

theorem bool_mask (hscalar : ScalarFields pydantic) (value : Json) :
    pydantic.bool (mask R.isSensitiveKey value) = pydantic.bool value := by
  cases value with
  | arr items => rw [mask, hscalar.bool_arr, hscalar.bool_arr]
  | obj fields => rw [mask, hscalar.bool_obj, hscalar.bool_obj]
  | null | bool b | num q | str s => rfl

theorem integer_mask (value : Json) :
    service.integer (mask R.isSensitiveKey value) = service.integer value := by
  cases value <;> rfl

theorem pythonFloat_mask (value : Json) :
    service.float (mask R.isSensitiveKey value) = service.float value := by
  cases value <;> rfl

theorem optionalInt_mask (hscalar : ScalarFields pydantic) (value : Json) :
    pydantic.optionalInt (mask R.isSensitiveKey value) = pydantic.optionalInt value := by
  have hint := int_mask (R := R) hscalar value
  cases value with
  | arr items => exact congrArg (Option.map some) hint
  | obj fields => exact congrArg (Option.map some) hint
  | null | bool b | num q | str s => rfl

theorem intDict_mask (hscalar : ScalarFields pydantic) {value : Json}
    (hplain : ∀ fields, value = .obj fields → ∀ p ∈ fields, R.isSensitiveKey p.1 = false) :
    pydantic.intDict (mask R.isSensitiveKey value) = pydantic.intDict value := by
  cases value with
  | obj fields =>
    have hsteps : ∀ fields : JsonDict, (∀ p ∈ fields, R.isSensitiveKey p.1 = false) →
        ∀ d : Dict String Int,
          (maskFields R.isSensitiveKey fields).foldlM
              (fun d p => (pydantic.int p.2).map (d.set p.1)) d =
            fields.foldlM (fun d p => (pydantic.int p.2).map (d.set p.1)) d := by
      intro fields
      induction fields with
      | nil => exact fun _ _ => rfl
      | cons p rest ih =>
        obtain ⟨name, value⟩ := p
        intro hnames d
        rw [List.forall_mem_cons] at hnames
        rw [maskFields, List.foldlM_cons, List.foldlM_cons, hnames.1, if_neg Bool.false_ne_true,
          int_mask hscalar]
        exact congrArg _ (funext fun d => ih hnames.2 d)
    exact hsteps fields (hplain fields rfl) .empty
  | null | bool b | num q | str s | arr items => rfl

/-- Fields of two mappings of which the one is the mask of the other. -/
def FieldsMasked (R : Redaction) (a b : JsonDict) : Prop :=
  ∀ name ∈ budgetFields, field a name = (field b name).map (mask R.isSensitiveKey)

theorem FieldsMasked.fieldOr {α : Type} (h : FieldsMasked R a b) (name : String)
    (hname : name ∈ budgetFields) {default : α} {read : Json → Option α}
    (hread : ∀ value, field b name = some value → read (mask R.isSensitiveKey value) = read value) :
    Pydantic.fieldOr a name default read = Pydantic.fieldOr b name default read := by
  unfold Pydantic.fieldOr
  rw [h name hname]
  cases hvalue : field b name with
  | none => rfl
  | some value => exact hread value hvalue

theorem validateBudget_masked (hscalar : ScalarFields pydantic) {tokens : Option Int}
    (hkeys : a.map Prod.fst = b.map Prod.fst) (h : FieldsMasked R a b)
    (hsources : ∀ fields, field b "source_budgets" = some (.obj fields) →
      ∀ p ∈ fields, R.isSensitiveKey p.1 = false) :
    pydantic.validateBudget tokens a = pydantic.validateBudget tokens b := by
  have hknown : (a.all fun p => p.1 ∈ budgetFields) = b.all fun p => p.1 ∈ budgetFields := by
    have hall : ∀ fields : JsonDict, (fields.all fun p => decide (p.1 ∈ budgetFields)) =
        (fields.map Prod.fst).all fun name => decide (name ∈ budgetFields) :=
      fun fields => by rw [List.all_map]; rfl
    rw [hall, hall, hkeys]
  have htokens : (field a "max_tokens").bind pydantic.int = (field b "max_tokens").bind pydantic.int := by
    rw [h _ (by decide)]
    cases field b "max_tokens" with
    | none => rfl
    | some value => exact int_mask hscalar value
  unfold Pydantic.validateBudget
  rw [hknown, htokens,
    h.fieldOr "source_budgets" (by decide) fun value hvalue => intDict_mask hscalar fun fields heq =>
      hsources fields (heq ▸ hvalue),
    h.fieldOr "per_item_token_limit" (by decide) fun value _ =>
      optionalInt_mask hscalar value,
    h.fieldOr "per_item_char_limit" (by decide) fun value _ =>
      optionalInt_mask hscalar value,
    h.fieldOr "chars_per_token" (by decide) fun value _ => float_mask hscalar value,
    h.fieldOr "allow_summary_placeholder" (by decide) fun value _ => bool_mask hscalar value]

theorem keys_maskFields (fields : JsonDict) :
    (maskFields R.isSensitiveKey fields).map Prod.fst = fields.map Prod.fst := by
  rw [maskFields_eq, List.map_map]
  rfl

theorem validatedBudget_masked (hscalar : ScalarFields service.pydantic) {tokens : Option Int}
    (hknown : b.map Prod.fst ⊆ "max_chars" :: budgetFields)
    (hkeys : a.map Prod.fst = b.map Prod.fst) (h : FieldsMasked R a b)
    (hsources : ∀ fields, field b "source_budgets" = some (.obj fields) →
      ∀ p ∈ fields, R.isSensitiveKey p.1 = false) :
    validatedBudget service tokens a = validatedBudget service tokens b := by
  have hnames : ∀ name ∈ budgetFields, name ≠ "max_chars" := by decide
  unfold validatedBudget
  rw [validateBudget_masked (b := renamed b) hscalar]
  · rw [renamed_of_known hknown, renamed_of_known (hkeys ▸ hknown), keys_filter, keys_filter, hkeys]
  · intro name hname
    rw [field_renamed hknown (hnames name hname),
      field_renamed (hkeys ▸ hknown) (hnames name hname)]
    exact h name hname
  · rw [field_renamed hknown (by decide)]
    exact hsources

theorem fieldsMasked (hplain : Plain R) (hrate : field data "chars_per_token" = none) :
    FieldsMasked R (maskFields R.isSensitiveKey data) data := by
  intro name hname
  by_cases hname' : name = "chars_per_token"
  · subst hname'
    rw [field_maskFields, hrate]
    rfl
  · have hread : ∀ name ∈ budgetFields, name ≠ "chars_per_token" → name ∈ readKeys := by decide
    exact field_maskFields_of (hplain name (hread name hname hname')) data

theorem FieldsMasked.set (h : FieldsMasked R a b) (tokens : Int) :
    FieldsMasked R (JsonDict.set a "max_tokens" (.num tokens))
      (JsonDict.set b "max_tokens" (.num tokens)) := by
  intro name hname
  by_cases hname' : name = "max_tokens"
  · subst hname'
    rw [JsonDict.field_set_self, JsonDict.field_set_self]
    rfl
  · rw [JsonDict.field_set_ne _ _ (Ne.symm hname'), JsonDict.field_set_ne _ _ (Ne.symm hname')]
    exact h name hname

/-- A mapping without a rate, whose sources have no sensitive name. -/
theorem mappedBudget_masked (hplain : Plain R) (hscalar : ScalarFields service.pydantic)
    (hknown : data.map Prod.fst ⊆ "max_chars" :: budgetFields)
    (hrate : field data "chars_per_token" = none)
    (hsources : ∀ fields, field data "source_budgets" = some (.obj fields) →
      ∀ p ∈ fields, R.isSensitiveKey p.1 = false) :
    mappedBudget service (maskFields R.isSensitiveKey data) = mappedBudget service data := by
  have hmasked := fieldsMasked hplain hrate
  have hunset : validatedBudget service none (maskFields R.isSensitiveKey data) =
      validatedBudget service none data :=
    validatedBudget_masked hscalar hknown (keys_maskFields data) hmasked hsources
  have hset : ∀ tokens : Int, validatedBudget service (some tokens)
        (JsonDict.set (maskFields R.isSensitiveKey data) "max_tokens" (.num tokens)) =
      validatedBudget service (some tokens) (JsonDict.set data "max_tokens" (.num tokens)) := by
    intro tokens
    refine validatedBudget_masked hscalar (keys_setTokens_iff.2 hknown) ?_ (hmasked.set tokens) ?_
    · rw [JsonDict.set_keys, JsonDict.set_keys, keys_maskFields]
    · rw [JsonDict.field_set_ne _ _ (by decide)]
      exact hsources
  unfold mappedBudget
  rw [field_maskFields_of (hplain "max_chars" (by decide)),
    field_maskFields_of (hplain "max_tokens" (by decide)), hmasked _ (by decide), hrate]
  cases field data "max_chars" with
  | none => exact hunset
  | some maxChars =>
    cases field data "max_tokens" with
    | some tokens => exact hunset
    | none =>
      simp only [Option.map_some, Option.map_none, integer_mask, hunset, hset]

theorem mappedBudget_raises {e : ContextError} (h : mappedBudget service data = .error e) :
    e = .validation := by
  have hvalidated : ∀ {tokens : Option Int} {fields : JsonDict},
      validatedBudget service tokens fields = .error e → e = .validation := by
    intro tokens fields h
    unfold validatedBudget at h
    split at h
    · cases h
    · exact (Except.error.inj h).symm
  unfold mappedBudget at h
  split at h
  · rcases bind_eq_error.1 h with h | ⟨rate, -, h⟩
    · unfold ContextService.charsPerTokenOf at h
      split at h
      · cases h
      · split at h
        · cases h
        · exact (Except.error.inj h).symm
    · split at h
      · rcases bind_eq_error.1 h with h | ⟨tokens, -, h⟩
        · unfold ContextService.tokensOfChars at h
          split at h
          · cases h
          · exact (Except.error.inj h).symm
        · exact hvalidated h
      · exact hvalidated h
  · exact hvalidated h

theorem mappedBudget_unreadable (h : ¬ReadableBudget service data) :
    mappedBudget service data = .error .validation := by
  cases hmapped : mappedBudget service data with
  | ok requested => exact absurd (mappedBudget_ok_iff.1 ⟨requested, hmapped⟩) h
  | error e => rw [mappedBudget_raises hmapped]

theorem ReadableBudget.budgeted (h : ReadableBudget service data) : Budgeted service data where
  known := h.known
  itemTokens := h.typed.itemTokens
  itemChars := h.typed.itemChars
  placeholder := h.typed.placeholder
  tokens := by
    have htokens := h.tokens
    cases hfield : field data "max_tokens" with
    | some value =>
      rw [hfield] at htokens
      exact htokens
    | none =>
      rw [hfield] at htokens
      obtain ⟨maxChars, chars, -, hmax, hchars, hpos, -⟩ := htokens
      exact ⟨maxChars, chars, hmax, hchars, hpos⟩

theorem mask_eq_null {value : Json} : mask R.isSensitiveKey value = .null ↔ value = .null := by
  cases value <;> simp [mask]

theorem LimitField.mask_iff (hscalar : ScalarFields pydantic) (data : JsonDict) {name : String}
    (hname : R.isSensitiveKey name = false) :
    LimitField pydantic (maskFields R.isSensitiveKey data) name ↔ LimitField pydantic data name := by
  unfold LimitField
  rw [field_maskFields_of hname]
  cases field data name with
  | none => simp
  | some value => simp [mask_eq_null, int_mask hscalar]

theorem Budgeted.mask_iff (hplain : Plain R) (hscalar : ScalarFields service.pydantic) :
    Budgeted service (maskFields R.isSensitiveKey data) ↔ Budgeted service data := by
  have hitem := LimitField.mask_iff hscalar data
    (hplain "per_item_token_limit" (by decide))
  have hchars := LimitField.mask_iff hscalar data
    (hplain "per_item_char_limit" (by decide))
  have hplaceholder : (∀ value, field (maskFields R.isSensitiveKey data)
        "allow_summary_placeholder" = some value → (service.pydantic.bool value).isSome) ↔
      ∀ value, field data "allow_summary_placeholder" = some value →
        (service.pydantic.bool value).isSome := by
    rw [field_maskFields_of (hplain _ (by decide))]
    cases field data "allow_summary_placeholder" <;> simp [bool_mask hscalar]
  have htokens : (match field (maskFields R.isSensitiveKey data) "max_tokens" with
      | some value => ∃ n, service.pydantic.int value = some n ∧ 0 < n
      | none => ∃ maxChars chars, field (maskFields R.isSensitiveKey data) "max_chars" =
          some maxChars ∧ service.integer maxChars = some chars ∧ 0 < chars) ↔
      match field data "max_tokens" with
      | some value => ∃ n, service.pydantic.int value = some n ∧ 0 < n
      | none => ∃ maxChars chars, field data "max_chars" = some maxChars ∧
          service.integer maxChars = some chars ∧ 0 < chars := by
    rw [field_maskFields_of (hplain _ (by decide)), field_maskFields_of (hplain _ (by decide))]
    cases field data "max_tokens" with
    | some value => simp only [Option.map_some, int_mask hscalar]
    | none => cases field data "max_chars" <;> simp [integer_mask]
  constructor
  · intro h
    exact ⟨keys_maskFields (R := R) data ▸ h.known, hitem.1 h.itemTokens, hchars.1 h.itemChars,
      hplaceholder.1 h.placeholder, htokens.1 h.tokens⟩
  · intro h
    exact ⟨(keys_maskFields (R := R) data).symm ▸ h.known, hitem.2 h.itemTokens,
      hchars.2 h.itemChars, hplaceholder.2 h.placeholder, htokens.2 h.tokens⟩

theorem budgetMapping_mask (hplain : Plain R) (context : JsonDict) :
    budgetMapping (maskFields R.isSensitiveKey context) =
      (budgetMapping context).map (maskFields R.isSensitiveKey) := by
  change (objectField _ "context_budget").or (objectField _ "contextBudget") =
    ((objectField context "context_budget").or (objectField context "contextBudget")).map _
  rw [objectField_mask (hplain "context_budget" (by decide)),
    objectField_mask (hplain "contextBudget" (by decide)), Option.map_or]

theorem characterLimit_mask (hplain : Plain R) (context : JsonDict) :
    characterLimit service (maskFields R.isSensitiveKey context) =
      characterLimit service context := by
  have hspelled : ContextService.spelled (maskFields R.isSensitiveKey context) "context_char_limit"
        "contextCharLimit" =
      (ContextService.spelled context "context_char_limit" "contextCharLimit").map (mask R.isSensitiveKey) := by
    unfold ContextService.spelled
    have htruthy := truthyField_mask (hplain "context_char_limit" (by decide)) context
    unfold truthyField at htruthy
    rw [htruthy, field_maskFields_of (hplain "contextCharLimit" (by decide)), Option.map_or]
  unfold characterLimit
  rw [hspelled]
  cases ContextService.spelled context "context_char_limit" "contextCharLimit" with
  | none => rfl
  | some value => simp [integer_mask]

theorem charsPerTokenOf_mask (values : List (Option Json)) :
    service.charsPerTokenOf (values.map (Option.map (mask R.isSensitiveKey))) =
      service.charsPerTokenOf values := by
  have hfirst : (values.map (Option.map (mask R.isSensitiveKey))).findSome?
        (·.filter Json.truthy) =
      (values.findSome? (·.filter Json.truthy)).map (mask R.isSensitiveKey) := by
    induction values with
    | nil => rfl
    | cons value rest ih =>
      rw [List.map_cons, List.findSome?_cons, List.findSome?_cons, ih]
      cases value with
      | none => rfl
      | some item =>
        by_cases hitem : item.truthy = true <;> simp [Option.filter_some, truthy_mask, hitem]
  unfold ContextService.charsPerTokenOf
  rw [hfirst]
  cases values.findSome? (·.filter Json.truthy) with
  | none => rfl
  | some value => simp only [Option.map_some, pythonFloat_mask]

theorem limitBudget_mask (hplain : Plain R) {context : JsonDict}
    (hopen : characterLimit service context = none ∨ field context "chars_per_token" = none) :
    limitBudget service (maskFields R.isSensitiveKey context) = limitBudget service context := by
  unfold limitBudget
  rw [characterLimit_mask hplain]
  rcases hopen with hlimit | hrate
  · rw [hlimit]
  · have hrates : service.charsPerTokenOf [field (maskFields R.isSensitiveKey context)
          "chars_per_token", field (maskFields R.isSensitiveKey context) "charsPerToken"] =
        service.charsPerTokenOf [field context "chars_per_token", field context "charsPerToken"] := by
      rw [field_maskFields, hrate, field_maskFields_of (hplain "charsPerToken" (by decide))]
      exact charsPerTokenOf_mask [none, field context "charsPerToken"]
    rw [hrates]

/-- The mapping of which nothing sensitive is read, or its mask. -/
theorem mappingOpen_mask_iff (hplain : Plain service.redaction)
    (hscalar : ScalarFields service.pydantic) :
    (Budgeted service (maskFields service.redaction.isSensitiveKey data) →
      field (maskFields service.redaction.isSensitiveKey data) "chars_per_token" = none ∧
        ∀ fields, field (maskFields service.redaction.isSensitiveKey data) "source_budgets" =
          some (.obj fields) → ∀ p ∈ fields, service.redaction.isSensitiveKey p.1 = false) ↔
    (Budgeted service data → field data "chars_per_token" = none ∧
      ∀ fields, field data "source_budgets" = some (.obj fields) →
        ∀ p ∈ fields, service.redaction.isSensitiveKey p.1 = false) := by
  have hnames : ∀ fields : JsonDict,
      (∀ p ∈ maskFields service.redaction.isSensitiveKey fields,
        service.redaction.isSensitiveKey p.1 = false) ↔
      ∀ p ∈ fields, service.redaction.isSensitiveKey p.1 = false := by
    intro fields
    rw [maskFields_eq, List.forall_mem_map]
    rfl
  rw [Budgeted.mask_iff hplain hscalar, field_maskFields, Option.map_eq_none_iff,
    field_maskFields_of (hplain "source_budgets" (by decide))]
  refine imp_congr_right fun _ => and_congr_right fun _ => ?_
  cases field data "source_budgets" with
  | none => simp
  | some value =>
    cases value with
    | obj fields => simpa [mask] using hnames fields
    | null | bool b | num q | str s | arr items => simp [mask]

theorem BudgetOpen.mask_iff (hplain : Plain service.redaction)
    (hscalar : ScalarFields service.pydantic) :
    BudgetOpen service { request with
        frontendContext := maskFields service.redaction.isSensitiveKey request.frontendContext } ↔
      BudgetOpen service request := by
  refine imp_congr_right fun _ => ?_
  dsimp only
  rw [budgetMapping_mask hplain]
  cases budgetMapping request.frontendContext with
  | some data => exact mappingOpen_mask_iff hplain hscalar
  | none =>
    dsimp only [Option.map_none]
    rw [characterLimit_mask hplain, field_maskFields, Option.map_eq_none_iff]

theorem frontendBudget_mask (hplain : Plain service.redaction)
    (hscalar : ScalarFields service.pydantic) (hopen : BudgetOpen service request)
    (htyped : request.contextBudget = none) :
    service.frontendBudget (maskFields service.redaction.isSensitiveKey request.frontendContext) =
      service.frontendBudget request.frontendContext := by
  have hopen := hopen htyped
  rw [frontendBudget_eq, frontendBudget_eq, budgetMapping_mask hplain]
  cases hmapping : budgetMapping request.frontendContext with
  | none =>
    rw [hmapping] at hopen
    exact limitBudget_mask hplain hopen
  | some data =>
    rw [hmapping] at hopen
    dsimp only [Option.map_some]
    by_cases hbudgeted : Budgeted service data
    · obtain ⟨hrate, hsources⟩ := hopen hbudgeted
      exact mappedBudget_masked hplain hscalar hbudgeted.known hrate hsources
    · rw [mappedBudget_unreadable fun h => hbudgeted h.budgeted, mappedBudget_unreadable fun h =>
        hbudgeted ((Budgeted.mask_iff hplain hscalar).1 h.budgeted)]

end

/-! ## The projection of a route -/

section

variable {service : ContextService} {tools : ProviderTools} {input other : RouteContextInput}

theorem budget_mask (hplain : Plain service.redaction) (hscalar : ScalarFields service.pydantic)
    (hopen : BudgetOpen service request) :
    service.contextBudgetForRequest
        { request with
          frontendContext :=
            maskFields service.redaction.isSensitiveKey request.frontendContext } =
      service.contextBudgetForRequest request := by
  have hrequested : service.requestedBudget
        { request with
          frontendContext :=
            maskFields service.redaction.isSensitiveKey request.frontendContext } =
      service.requestedBudget request := by
    unfold ContextService.requestedBudget
    dsimp only
    cases htyped : request.contextBudget with
    | some budget => rfl
    | none => exact frontendBudget_mask hplain hscalar hopen htyped
  unfold ContextService.contextBudgetForRequest
  rw [hrequested]

/-- The frontend context of a request does not reach the projection of given candidates. -/
theorem assembleCandidates_frontend (service : ContextPipelineService) (now : Instant)
    (request : ContextRequest) (frontend : JsonDict) (purpose : ContextPurpose)
    (consumer : ContextConsumer) (candidates : List ContextCandidate)
    (budget : Option ContextBudget) (candidateAgents : List Json) :
    service.assembleCandidates now { request with frontendContext := frontend } purpose consumer
        candidates budget candidateAgents =
      service.assembleCandidates now request purpose consumer candidates budget
        candidateAgents := by
  unfold assembleCandidates selectAndProject requestControlProjection
  rfl

theorem assembleRouteContext_eq (service : ContextService) (tools : ProviderTools)
    (memory : Option MemoryRetrievalProvider) (now : Instant) (input : RouteContextInput)
    (candidateAgents : List Json) :
    service.assembleRouteContext tools memory now input candidateAgents =
      match service.contextBudgetForRequest input.request with
      | .error e => .error (.context e)
      | .ok budget =>
        match input.candidates tools memory with
        | .error e => .error (.raised e)
        | .ok candidates =>
          (service.assembleCandidates now input.request .routeDecision .router
            candidates (some budget) candidateAgents).mapError .context := by
  unfold ContextService.assembleRouteContext
  dsimp only
  cases service.contextBudgetForRequest input.request with
  | error e => rfl
  | ok budget =>
    simp only [Except.mapError_ok, ok_bind]
    cases input.candidates tools memory <;> rfl

theorem assembleRouteContext_mask (hplain : Plain service.redaction)
    (hpydantic : ScalarFields service.pydantic) (htools : ScalarTools tools)
    (hopen : InputOpen service tools input) (memory : Option MemoryRetrievalProvider)
    (now : Instant) (candidateAgents : List Json) :
    service.assembleRouteContext tools memory now
        (maskInput service.redaction.isSensitiveKey input) candidateAgents =
      service.assembleRouteContext tools memory now input candidateAgents := by
  have hbudget : service.contextBudgetForRequest
        (maskInput service.redaction.isSensitiveKey input).request.toContextRequest =
      service.contextBudgetForRequest input.request :=
    budget_mask hplain hpydantic hopen.budget
  rw [assembleRouteContext_eq, assembleRouteContext_eq, hbudget]
  cases hgranted : service.contextBudgetForRequest input.request with
  | error e => rfl
  | ok budget =>
    have hcandidates := candidates_mask hplain htools (hopen.providers ⟨budget, hgranted⟩) memory
    dsimp only
    cases hown : input.candidates tools memory with
    | error e =>
      rw [hown] at hcandidates
      cases hmasked : (maskInput service.redaction.isSensitiveKey input).candidates tools memory with
      | error e' =>
        rw [hmasked] at hcandidates
        cases hcandidates
        rfl
      | ok others =>
        rw [hmasked] at hcandidates
        cases hcandidates
    | ok candidates =>
      rw [hown] at hcandidates
      cases hmasked : (maskInput service.redaction.isSensitiveKey input).candidates tools memory with
      | error e' =>
        rw [hmasked] at hcandidates
        cases hcandidates
      | ok others =>
        rw [hmasked] at hcandidates
        have hgoverned := Except.ok.inj hcandidates
        dsimp only
        rw [assembleCandidates_congr hgoverned]
        unfold maskInput
        dsimp only
        rw [assembleCandidates_frontend]

/-! ## Inputs with one mask -/

theorem forall_obj_mask_iff {P Q : JsonDict → Prop} (values : List Json)
    (h : ∀ fields, P (maskFields R.isSensitiveKey fields) ↔ Q fields) :
    (∀ fields, .obj fields ∈ maskItems R.isSensitiveKey values → P fields) ↔
      ∀ fields, .obj fields ∈ values → Q fields := by
  rw [maskItems_eq]
  constructor
  · intro hmasked fields hfields
    exact (h fields).1 (hmasked _ (List.mem_map.2 ⟨_, hfields, rfl⟩))
  · intro hown fields hfields
    obtain ⟨value, hvalue, hmask⟩ := List.mem_map.1 hfields
    obtain ⟨own, rfl, rfl⟩ := obj_of_mask hmask
    exact (h own).2 (hown own hvalue)

theorem ProvidersOpen.mask_iff (hplain : Plain R) (htools : ScalarTools tools) :
    ProvidersOpen tools R (maskInput R.isSensitiveKey input) ↔ ProvidersOpen tools R input := by
  have hfrontend : TextOpen tools R (ProviderTools.pickFields ProviderTools.frontendKeys
        (maskFields R.isSensitiveKey input.request.frontendContext)) ↔
      TextOpen tools R
        (ProviderTools.pickFields ProviderTools.frontendKeys input.request.frontendContext) := by
    refine (Iff.of_eq (congrArg _ ?_)).trans TextOpen.mask_iff
    exact (maskFields_pick _ _).symm
  have hcreated : ∀ values : List Json, _ := fun values =>
    forall_obj_mask_iff (R := R) values
      (P := fun value => ∃ created, tools.createdAt value = .ok created)
      (Q := fun value => ∃ created, tools.createdAt value = .ok created)
      fun fields => by rw [createdAt_mask hplain htools]
  have hresults := imp_congr (hcreated input.recentResults)
    (forall_obj_mask_iff input.recentResults fun _ => ResultOpen.mask_iff hplain)
  have hevents := imp_congr (hcreated input.recentEvents)
    (forall_obj_mask_iff input.recentEvents fun _ => EventOpen.mask_iff hplain)
  have hevidence := imp_congr
    (forall_obj_mask_iff (R := R) input.evidence
      (P := fun value => ∃ score, scoreOf tools value = .ok score)
      (Q := fun value => ∃ score, scoreOf tools value = .ok score)
      fun fields => by rw [scoreOf_mask hplain htools])
    (forall_obj_mask_iff (P := EvidenceOpen tools R) input.evidence fun _ =>
      EvidenceOpen.mask_iff hplain)
  have hartifacts : ArtifactsOpen tools R (objects (maskItems R.isSensitiveKey
      input.recentResults)) ↔ ArtifactsOpen tools R (objects input.recentResults) := by
    rw [objects_mask, ArtifactsOpen.mask_iff hplain]
  have hplan : (∀ value, mask R.isSensitiveKey input.activePlan = .obj value →
        StatusesHashable value → PlanOpen R value) ↔
      ∀ value, input.activePlan = .obj value → StatusesHashable value → PlanOpen R value := by
    have hvalue : ∀ value, (StatusesHashable (maskFields R.isSensitiveKey value) →
        PlanOpen R (maskFields R.isSensitiveKey value)) ↔
          (StatusesHashable value → PlanOpen R value) :=
      fun _ => imp_congr (statusesHashable_mask hplain) (PlanOpen.mask_iff hplain)
    constructor
    · intro h value hown
      exact (hvalue value).1 (h _ (by rw [hown]; rfl))
    · intro h value hmasked
      obtain ⟨own, hown, rfl⟩ := obj_of_mask hmasked
      exact (hvalue own).2 (h own hown)
  constructor
  · intro h
    exact ⟨hfrontend.1 h.frontend, hresults.1 h.results, hartifacts.1 h.artifacts,
      hevents.1 h.events, hevidence.1 h.evidence, hplan.1 h.plan⟩
  · intro h
    exact ⟨hfrontend.2 h.frontend, hresults.2 h.results, hartifacts.2 h.artifacts,
      hevents.2 h.events, hevidence.2 h.evidence, hplan.2 h.plan⟩

/-- Inputs that differ only under sensitive keys print the same fields. -/
theorem InputOpen.mask_iff (hplain : Plain service.redaction)
    (hpydantic : ScalarFields service.pydantic) (htools : ScalarTools tools) :
    InputOpen service tools (maskInput service.redaction.isSensitiveKey input) ↔
      InputOpen service tools input := by
  have hbudget : BudgetOpen service
        (maskInput service.redaction.isSensitiveKey input).request.toContextRequest ↔
      BudgetOpen service input.request := BudgetOpen.mask_iff hplain hpydantic
  have hgranted (hopen : BudgetOpen service input.request) :
      service.contextBudgetForRequest
        (maskInput service.redaction.isSensitiveKey input).request.toContextRequest =
      service.contextBudgetForRequest input.request :=
    budget_mask hplain hpydantic hopen
  constructor
  · intro h
    have hopen := hbudget.1 h.budget
    exact ⟨hopen, fun hok => (ProvidersOpen.mask_iff hplain htools).1
      (h.providers (by rwa [hgranted hopen]))⟩
  · intro h
    exact ⟨hbudget.2 h.budget, fun hok => (ProvidersOpen.mask_iff hplain htools).2
      (h.providers (by rwa [hgranted h.budget] at hok))⟩

def routePayload (service : ContextService) (tools : ProviderTools)
    (memory : Option MemoryRetrievalProvider) (now : Instant) (input : RouteContextInput)
    (candidateAgents : List Json) : Except RouteContextError JsonDict :=
  (service.assembleRouteContext tools memory now input candidateAgents).map fun result =>
    result.1.payload

def resolvedCandidates (service : ContextPipelineService) (now : Instant)
    (candidates : List ContextCandidate) : List ContextCandidate :=
  (service.dedupeAndResolveConflicts .routeDecision .router
    (service.govern now .routeDecision .router candidates).1).1

/-- Without source budgets and with room for all candidates, the payload shows each of them. -/
theorem routePayload_all {budget effective : ContextBudget} {candidateAgents : List Json}
    {now : Instant}
    (hbudget : service.contextBudgetForRequest input.request = .ok budget)
    (heffective : effectiveBudget service.settings service.py budget candidateAgents = effective)
    (hcandidates : input.candidates tools memory = .ok candidates)
    (hsources : ∀ source, effective.sourceBudgets.get? source = none)
    (hroom : ((write { item := ",", key := ":", number := service.py.number }
        (.obj (projection input.request
          (shownInFull service.toContextPipelineService .routeDecision .router effective
            (sortCandidates (resolvedCandidates service.toContextPipelineService now
              candidates)))))).length : Rat) ≤
      effective.maxTokens * effective.charsPerToken)
    (hlength : (write { item := ",", key := ":", number := service.py.number }
        (.obj (projection input.request
          (shownInFull service.toContextPipelineService .routeDecision .router effective
            (sortCandidates (resolvedCandidates service.toContextPipelineService now
              candidates)))))).length < 2 ^ 53) (htokens : effective.maxTokens < 2 ^ 53) :
    routePayload service tools memory now input candidateAgents =
      .ok (projection input.request
        (shownInFull service.toContextPipelineService .routeDecision .router effective
          (sortCandidates (resolvedCandidates service.toContextPipelineService now
            candidates)))) := by
  obtain ⟨result, hresult, hpayload, -⟩ := selectAndProject_all
    (fun source limit hlimit => by rw [hsources] at hlimit; cases hlimit) hroom hlength htokens
  unfold resolvedCandidates at hresult
  unfold routePayload
  rw [assembleRouteContext_eq, hbudget, hcandidates]
  dsimp only
  unfold assembleCandidates
  simp only [Option.elim_some, ok_bind, heffective, hresult, Except.mapError_ok]
  rw [← hpayload]
  rfl

/-- What is stored under sensitive keys does not reach the projection, if none is where the
providers print values as they are and the budget of the request is read from none. -/
theorem secrets_stay_out (service : ContextService) (tools : ProviderTools)
    (memory : Option MemoryRetrievalProvider) (now : Instant) (candidateAgents : List Json)
    (input other : RouteContextInput) (hlower : service.redaction.lower = service.py.lower)
    (hpydantic : ScalarFields service.pydantic) (htools : ScalarTools tools)
    (hopen : InputOpen service tools input)
    (h : maskInput service.redaction.isSensitiveKey other =
      maskInput service.redaction.isSensitiveKey input) :
    routePayload service tools memory now other candidateAgents =
      routePayload service tools memory now input candidateAgents := by
  have hplain : Plain service.redaction := fun key hkey => isSensitiveKey_readKeys hlower hkey
  have hother : InputOpen service tools other := by
    rw [← InputOpen.mask_iff hplain hpydantic htools, h,
      InputOpen.mask_iff hplain hpydantic htools]
    exact hopen
  unfold routePayload
  rw [← assembleRouteContext_mask hplain hpydantic htools hopen memory now candidateAgents,
    ← assembleRouteContext_mask hplain hpydantic htools hother memory now candidateAgents, h]

end

def lowerService : ContextService where
  toContextPipelineService :=
    { sampleService with redaction := ⟨Candidates.asciiPython.lower, fun text _ => text, id⟩ }
  isInt := fun q => q.den = 1
  pydantic := plainPydantic

def tokenResult (token : String) : JsonDict :=
  [("result_id", .str "r1"), ("status", .str "completed"),
    ("metadata", .obj [("session_token", .str token)])]

def tokenInput (token : String) : RouteContextInput where
  request := { sampleProviderRequest with
    frontendContext := [("page", .str "home"), ("session_token", .str token)] }
  hostHistory := []
  agentHistory := []
  recentResults := [.obj (tokenResult token)]
  recentEvents := []
  evidence := []
  activePlan := .null

theorem plainPydantic_scalar : ScalarFields plainPydantic where
  int_arr _ := rfl
  int_obj _ := rfl
  float_arr _ := rfl
  float_obj _ := rfl
  bool_arr _ := rfl
  bool_obj _ := rfl

theorem sampleTools_scalar : ScalarTools sampleTools where
  datetime_arr _ := rfl
  datetime_obj _ := rfl
  float_arr _ := rfl
  float_obj _ := rfl

/-- What is read of the input has no sensitive key, and the tokens are masked. -/
theorem tokenInput_computed :
    TextOpen sampleTools lowerService.redaction
      (ProviderTools.pickFields ProviderTools.frontendKeys
        (tokenInput "a").request.frontendContext) ∧
    Open lowerService.redaction ["result_id", "status"] (tokenResult "a") ∧
    maskFields lowerService.redaction.isSensitiveKey (tokenInput "b").request.frontendContext =
      maskFields lowerService.redaction.isSensitiveKey (tokenInput "a").request.frontendContext ∧
    maskItems lowerService.redaction.isSensitiveKey (tokenInput "b").recentResults =
      maskItems lowerService.redaction.isSensitiveKey (tokenInput "a").recentResults := by
  decide

theorem tokenInput_open : InputOpen lowerService sampleTools (tokenInput "a") where
  budget _ := .inl rfl
  providers _ :=
    { frontend := tokenInput_computed.1
      results := fun _ value hvalue => by
        obtain rfl := Json.obj.inj (List.mem_singleton.1 hvalue)
        have hopen := tokenInput_computed.2.1
        exact ⟨hopen.chosen "result_id" (by simp), fun _ => hopen.chosen "status" (by simp)⟩
      artifacts := ⟨fun found hfound => absurd hfound List.not_mem_nil,
        fun before found after hsplit => absurd (List.append_eq_nil_iff.1 hsplit.symm).2
          (List.cons_ne_nil _ _)⟩
      events := fun _ value hvalue => absurd hvalue List.not_mem_nil
      evidence := fun _ value hvalue => absurd hvalue List.not_mem_nil
      plan := fun value hvalue => by cases hvalue }

theorem secrets_stay_out_of_token :
    routePayload lowerService sampleTools none 0 (tokenInput "b") [] =
      routePayload lowerService sampleTools none 0 (tokenInput "a") [] := by
  obtain ⟨-, -, hfrontend, hresults⟩ := tokenInput_computed
  refine secrets_stay_out lowerService sampleTools none 0 [] (tokenInput "a") (tokenInput "b") rfl
    plainPydantic_scalar sampleTools_scalar tokenInput_open ?_
  unfold maskInput
  rw [hfrontend, hresults]
  rfl

/-! ## What is printed as it is -/

def enteredInput (password : String) : RouteContextInput where
  request := { sampleProviderRequest with
    frontendContext := [("interaction", .obj [("password", .str password)])] }
  hostHistory := []
  agentHistory := []
  recentResults := []
  recentEvents := []
  evidence := []
  activePlan := .null

theorem defaultTokenLimit_pos : ∀ limit ∈ some 512, 0 < limit := by simp

theorem defaultCharLimit_pos : ∀ limit ∈ some 2000, 0 < limit := by simp

theorem default_chars_pos : (0 : Rat) < 4 := by norm_num

def defaultContextBudget : ContextBudget where
  maxTokens := 2000
  sourceBudgets := .empty
  perItemTokenLimit := some 512
  perItemCharLimit := some 2000
  charsPerToken := 4
  allowSummaryPlaceholder := true
  maxTokens_pos := by decide
  perItemTokenLimit_pos := defaultTokenLimit_pos
  perItemCharLimit_pos := defaultCharLimit_pos
  charsPerToken_pos := default_chars_pos

def enteredCandidates (password : String) : List ContextCandidate :=
  match (enteredInput password).candidates sampleTools none with
  | .ok candidates => candidates
  | .error _ => []

def enteredItems (password : String) : List JsonDict :=
  shownInFull lowerService.toContextPipelineService .routeDecision .router defaultContextBudget
    (sortCandidates (resolvedCandidates lowerService.toContextPipelineService 0
      (enteredCandidates password)))

theorem enteredPayload (password : String)
    (hcandidates : ((enteredInput password).candidates sampleTools none).isOk = true)
    (hroom : (write { item := ",", key := ":", number := Candidates.asciiPython.number }
      (.obj (projection (enteredInput password).request
        (enteredItems password)))).length ≤ 8000) :
    routePayload lowerService sampleTools none 0 (enteredInput password) [] =
      .ok (projection (enteredInput password).request
        (enteredItems password)) := by
  have hbudget : lowerService.contextBudgetForRequest
      (enteredInput password).request = .ok defaultContextBudget := rfl
  have heffective : effectiveBudget lowerService.settings lowerService.py defaultContextBudget [] =
      defaultContextBudget := by
    simp only [effectiveBudget, defaultContextBudget, ContextBudget.mk.injEq, and_true]
    decide +kernel
  have hcollected : (enteredInput password).candidates sampleTools none =
      .ok (enteredCandidates password) := by
    unfold enteredCandidates
    cases h : (enteredInput password).candidates sampleTools none with
    | ok candidates => rfl
    | error e =>
      rw [h] at hcandidates
      cases hcandidates
  refine routePayload_all hbudget heffective hcollected (fun _ => rfl) ?_
    (hroom.trans_lt (by norm_num)) (by decide)
  refine le_trans (Nat.cast_le.2 hroom) ?_
  show ((8000 : Nat) : Rat) ≤ ((2000 : Nat) : Rat) * 4
  norm_num

/-- The password is redacted in the structured value of the frontend context, and its content
shows it. -/
theorem entered_password_shown :
    ¬∀ (service : ContextService) (tools : ProviderTools)
      (memory : Option MemoryRetrievalProvider) (now : Instant) (candidateAgents : List Json)
      (input other : RouteContextInput), service.redaction.lower = service.py.lower →
      maskInput service.redaction.isSensitiveKey other =
        maskInput service.redaction.isSensitiveKey input →
      routePayload service tools memory now other candidateAgents =
        routePayload service tools memory now input candidateAgents := by
  intro hclaim
  have hcomputed : (∀ password ∈ ["a", "b"],
      ((enteredInput password).candidates sampleTools none).isOk = true ∧
        (write { item := ",", key := ":", number := Candidates.asciiPython.number }
          (.obj (projection (enteredInput password).request
            (enteredItems password)))).length ≤ 8000) ∧
      maskFields lowerService.redaction.isSensitiveKey (enteredInput "b").request.frontendContext =
        maskFields lowerService.redaction.isSensitiveKey
          (enteredInput "a").request.frontendContext ∧
      enteredItems "b" ≠ enteredItems "a" := by
    decide +kernel
  obtain ⟨hpasswords, hmasks, hitems⟩ := hcomputed
  obtain ⟨hcandidatesA, hroomA⟩ := hpasswords "a" (by simp)
  obtain ⟨hcandidatesB, hroomB⟩ := hpasswords "b" (by simp)
  have hmasked : maskInput lowerService.redaction.isSensitiveKey (enteredInput "b") =
      maskInput lowerService.redaction.isSensitiveKey (enteredInput "a") := by
    unfold maskInput
    rw [hmasks]
    rfl
  have hpayload := hclaim lowerService sampleTools none 0 [] (enteredInput "a") (enteredInput "b")
    rfl hmasked
  rw [enteredPayload "a" hcandidatesA hroomA, enteredPayload "b" hcandidatesB hroomB] at hpayload
  have hshown := congrArg projectedItems (Except.ok.inj hpayload)
  rw [projectedItems_projection, projectedItems_projection] at hshown
  exact hitems hshown

end OpenIntentRouter.Context
