import OpenIntentRouter.Routing.Answers

/-!
# The agents of a route

An answer of the LLM may name any agent. `Confined` asks that a response names
available agents only and that its invocation is the one the decision asks for.
The validation looks at the target and at the plan only, so `Harmless` says what
an answer that is kept must not carry.

Any router, input, answer of the LLM, id of a new plan and repository. The one hypothesis is
that `route` responds (app/services/router_service.py:208-229).

* `respond_emptied`, `respond_kept`: the response before it is stored;
* `confined_iff`: the condition.
-/
namespace OpenIntentRouter.Routing

open Core Schemas Repositories Services

/-! ## Confinement -/

def Offers (ids : List String) (action : Option NextAction) : Prop :=
  ∀ next ∈ action, ∀ id ∈ next.agentId, id ∈ ids

/-- A response names available agents only, and invokes the target of its decision with the input
that is built of the request. An empty text is no target. -/
structure Confined (input : RouteInput) (response : RouteResponse) : Prop where
  target : truthy response.decision.targetAgentId = true →
    ∃ id ∈ response.decision.targetAgentId, id ∈ agentIds input.agents
  steps : ∀ plan ∈ response.plan, ∀ step ∈ plan.steps, step.agentId ∈ agentIds input.agents
  next : Offers (agentIds input.agents) response.nextAction
  invocation : ∀ invocation ∈ response.invocation,
    response.decision.action.opens = true ∧
      response.decision.targetAgentId = some invocation.agentId ∧
      ∃ agent ∈ input.agents, agent.agentId = invocation.agentId ∧
        invocation.input = buildInvocationInput agent input.request

/-! ## Answers that do no harm -/

section
variable (router : RouterService) (input : RouteInput) (answer : RouteResponse) (planId : String)
  (now : Instant)

def policyPlan (plan : Plan) : Plan :=
  let policy := router.planPolicy answer plan input.agents
  { plan with
    currentStepId := plan.validatedCurrent
    executionPolicy := policy
    nextAction := (answer.nextAction.or plan.nextAction).or (policyAction policy plan.planId) }

def offered : Option NextAction :=
  match routePlan router input answer planId now with
  | some plan => (policyPlan router input answer plan).nextAction
  | none => answer.nextAction

def Asks : Prop :=
  answer.decision.action.opens = true ∧ builtPlan router input answer planId now = none ∧
    ∃ agent, answer.decision.targetAgentId.bind (selectedDefinition input.agents) = some agent ∧
      missingRequiredInputs agent (buildInvocationInput agent input.request) ≠ []

def canonicalPlan (repo : MemoryPlanRepository) : Option Plan :=
  if router.planService then
    ((routePlan router input answer planId now).map (policyPlan router input answer)).bind
      (storedPlan repo)
  else none

/-- An answer that is kept names available agents where nothing is validated: it has an invocation
only if an agent is opened or a plan is built, and its next action, or that of the stored plan,
offers available agents; so does the stored plan. -/
structure Harmless (repo : MemoryPlanRepository) : Prop where
  invocation : answer.invocation = none ∨ answer.decision.action.opens = true ∨
    (builtPlan router input answer planId now).isSome = true
  steps : ∀ plan ∈ canonicalPlan router input answer planId now repo,
    ∀ step ∈ plan.steps, step.agentId ∈ agentIds input.agents
  next : match canonicalPlan router input answer planId now repo with
    | some plan => Offers (agentIds input.agents) plan.nextAction
    | none => Asks router input answer planId now ∨
      Offers (agentIds input.agents) (offered router input answer planId now)

end

/-! ## The response -/

variable {router : RouterService} {input : RouteInput} {answer output response : RouteResponse}
  {planId : String} {now : Instant} {repo repo' : MemoryPlanRepository}

theorem Confined.congr {response out : RouteResponse} (h : Confined input response)
    (hs : SameOffer response out) : Confined input out where
  target := by
    rw [hs.target]
    exact h.target
  steps := by
    rw [hs.plan]
    exact h.steps
  next := by
    rw [hs.next]
    exact h.next
  invocation := by
    rw [hs.invocation, hs.action, hs.target]
    exact h.invocation

/-- The target of a response is available, and there is one if an agent is opened. -/
structure Targets (ids : List String) (output : RouteResponse) : Prop where
  available : truthy output.decision.targetAgentId = true →
    ∃ id ∈ output.decision.targetAgentId, id ∈ ids
  opens : output.decision.action.opens = true → truthy output.decision.targetAgentId = true

variable {out : RouteResponse} {activePlan : Option Plan}

/-- An invocation that is attached is the one the decision asks for. -/
theorem attached_ok (ht : Targets (agentIds input.agents) output)
    (h : router.clarifyOrAttachInvocation output input.request activePlan input.agents = .ok out)
    (ho : output.decision.action.opens = true) :
    (truthy out.decision.targetAgentId = true →
        ∃ id ∈ out.decision.targetAgentId, id ∈ agentIds input.agents) ∧
      out.plan = output.plan ∧
      (∀ invocation ∈ out.invocation, out.decision.action.opens = true ∧
        out.decision.targetAgentId = some invocation.agentId ∧
        ∃ agent ∈ input.agents, agent.agentId = invocation.agentId ∧
          invocation.input = buildInvocationInput agent input.request) ∧
      ∃ agent, output.decision.targetAgentId.bind (selectedDefinition input.agents) = some agent ∧
        ((missingRequiredInputs agent (buildInvocationInput agent input.request) ≠ [] ∧
            Offers (agentIds input.agents) out.nextAction) ∨
          (missingRequiredInputs agent (buildInvocationInput agent input.request) = [] ∧
            out.nextAction = output.nextAction)) := by
  obtain ⟨hno, -⟩ | ⟨-, agent, hmem, hid, hfound, hout⟩ := clarifyOrAttachInvocation_ok ht.opens h
  · rw [ho] at hno
    cases hno
  · have hin : agent.agentId ∈ agentIds input.agents := List.mem_map.2 ⟨agent, hmem, rfl⟩
    obtain ⟨hmissing, rfl⟩ | ⟨hmissing, context, metadata, rfl⟩ := hout
    · refine ⟨fun h => ?_, rfl, fun _ hi => ?_, agent, hfound, .inl ⟨hmissing, ?_⟩⟩
      · cases h
      · cases hi
      intro next hn id hi
      cases hn
      cases hi
      exact hin
    · refine ⟨ht.available, rfl, fun invocation hi => ?_, agent, hfound, .inr ⟨hmissing, rfl⟩⟩
      cases hi
      exact ⟨ho, hid, agent, hmem, rfl, rfl⟩

/-- What was emptied is filled with the agent of the decision at most. -/
theorem emptied_confined (he : Emptied output) (ht : Targets (agentIds input.agents) output)
    (h : router.clarifyOrAttachInvocation output input.request activePlan input.agents =
      .ok out) : Confined input out ∧ out.plan = none := by
  obtain ⟨hno, rfl⟩ | ⟨ho, -⟩ := clarifyOrAttachInvocation_ok ht.opens h
  · refine ⟨⟨ht.available, ?_, ?_, ?_⟩, he.plan⟩
    · rw [he.plan]
      exact fun _ hp => by cases hp
    · rw [he.next]
      exact fun _ hn => by cases hn
    · rw [he.invocation]
      exact fun _ hi => by cases hi
  · obtain ⟨htarget, hplan, hinvocation, agent, -, hnext⟩ := attached_ok ht h ho
    have hnone : out.plan = none := hplan.trans he.plan
    refine ⟨⟨htarget, ?_, ?_, hinvocation⟩, hnone⟩
    · rw [hnone]
      exact fun _ hp => by cases hp
    · obtain ⟨-, hoffers⟩ | ⟨-, hsame⟩ := hnext
      · exact hoffers
      · rw [hsame, he.next]
        exact fun _ hn => by cases hn

theorem respond_emptied (h : router.respond input answer planId now = .ok response)
    (hc : Dropped router input answer planId now ∨ Unsure router answer) :
    Confined input response ∧ response.plan = none := by
  obtain ⟨rewritten, validated, attached, hrewrite, hvalidate, hattach, rfl⟩ := respond_eq h
  obtain ⟨hids, hconfidence⟩ := rewriteAnswer_context hrewrite
  have hoffer : SameOffer attached (router.finalizeAssistantMessage attached) :=
    finalizeAssistantMessage_offer attached
  have hpolicy : (router.applyPlanPolicy rewritten input.agents).1.decision = rewritten.decision ∧
      (router.applyPlanPolicy rewritten input.agents).1.context = rewritten.context := by
    unfold RouterService.applyPlanPolicy
    split
    · exact ⟨rfl, rfl⟩
    · exact ⟨rfl, rfl⟩
  obtain ⟨htarget, -, hopens, hvalidated⟩ := postValidate_ok hvalidate
  dsimp only at htarget hopens
  rw [hpolicy.1, hpolicy.2, hids] at htarget
  rw [hpolicy.1] at hopens
  have hdecision : validated.decision = rewritten.decision := by
    rw [hvalidated]
    exact hpolicy.1
  have htargets : Targets (agentIds input.agents) validated := by
    constructor
    · rw [hdecision]
      exact htarget
    · rw [hdecision]
      exact hopens
  suffices hem : Emptied (router.clarifyOnLowConfidence validated) ∧
      Targets (agentIds input.agents) (router.clarifyOnLowConfidence validated) by
    obtain ⟨hconfined, hnone⟩ := emptied_confined hem.1 hem.2 hattach
    exact ⟨hconfined.congr hoffer, hoffer.plan.trans hnone⟩
  by_cases hunsure : Unsure router validated
  · obtain ⟨hem, haction, hnone⟩ := clarifyOnLowConfidence_unsure hunsure
    refine ⟨hem, fun ht => ?_, fun ho => ?_⟩
    · rw [hnone] at ht
      cases ht
    · rw [haction] at ho
      cases ho
  · rw [clarifyOnLowConfidence_sure hunsure]
    obtain ⟨-, hem⟩ | ⟨hkeep, hkept⟩ := rewriteAnswer_ok hrewrite
    · have happly : router.applyPlanPolicy rewritten input.agents = (rewritten, true) := by
        simp [RouterService.applyPlanPolicy, hem.plan]
      rw [happly] at hvalidated
      rw [hvalidated]
      refine ⟨⟨by simp [hem.plan], hem.next, hem.invocation⟩, ?_⟩
      exact ⟨htarget, hopens⟩
    · refine absurd ?_ hunsure
      obtain hdrop | ⟨hkeeps, hpos, hlow⟩ := hc
      · exact absurd hdrop hkeep
      · refine ⟨?_, hpos, ?_⟩
        · rw [hdecision, hkept.keeps, hkeeps]
        · rw [hdecision, hconfidence]
          exact hlow

/-! ## The condition -/

structure Answered (router : RouterService) (input : RouteInput) (answer : RouteResponse)
    (planId : String) (now : Instant) (response : RouteResponse) : Prop where
  target : truthy response.decision.targetAgentId = true →
    ∃ id ∈ response.decision.targetAgentId, id ∈ agentIds input.agents
  plan : response.plan =
    (routePlan router input answer planId now).map (policyPlan router input answer)
  steps : ∀ plan ∈ response.plan, ∀ step ∈ plan.steps, step.agentId ∈ agentIds input.agents
  next : (Asks router input answer planId now ∧
      Offers (agentIds input.agents) response.nextAction) ∨
    (¬Asks router input answer planId now ∧
      response.nextAction = offered router input answer planId now)
  invocation : (∀ invocation ∈ response.invocation, response.decision.action.opens = true ∧
      response.decision.targetAgentId = some invocation.agentId ∧
      ∃ agent ∈ input.agents, agent.agentId = invocation.agentId ∧
        invocation.input = buildInvocationInput agent input.request) ↔
    answer.invocation = none ∨ answer.decision.action.opens = true ∨
      (builtPlan router input answer planId now).isSome = true

theorem Answered.congr (h : Answered router input answer planId now response)
    (hs : SameOffer response out) : Answered router input answer planId now out := by
  obtain ⟨htarget, hplan, hsteps, hnext, hinvocation⟩ := h
  rw [← hs.target] at htarget hinvocation
  rw [← hs.plan] at hplan hsteps
  rw [← hs.next] at hnext
  rw [← hs.invocation, ← hs.action] at hinvocation
  exact ⟨htarget, hplan, hsteps, hnext, hinvocation⟩

theorem applyPlanPolicy_kept (hkept : Kept router input answer planId now output) :
    let applied := (router.applyPlanPolicy output input.agents).1
    applied.decision = output.decision ∧ applied.context = output.context ∧
      applied.invocation = output.invocation ∧
      applied.nextAction = offered router input answer planId now ∧
      (applied.plan.map fun plan => { plan with currentStepId := plan.validatedCurrent }) =
        (routePlan router input answer planId now).map (policyPlan router input answer) := by
  unfold RouterService.applyPlanPolicy
  unfold offered
  rw [← hkept.plan]
  cases hp : output.plan with
  | none => exact ⟨rfl, rfl, rfl, hkept.next, by rw [hp]; rfl⟩
  | some plan =>
    have hpolicy : router.planPolicy output plan input.agents =
        router.planPolicy answer plan input.agents := by
      unfold RouterService.planPolicy
      rw [hkept.policy]
    dsimp only
    rw [hpolicy, hkept.next]
    exact ⟨rfl, rfl, rfl, rfl, rfl⟩

theorem respond_kept (h : router.respond input answer planId now = .ok response)
    (hdrop : ¬Dropped router input answer planId now) (hsure : ¬Unsure router answer) :
    Answered router input answer planId now response := by
  obtain ⟨rewritten, validated, attached, hrewrite, hvalidate, hattach, rfl⟩ := respond_eq h
  refine Answered.congr ?_ (finalizeAssistantMessage_offer attached)
  obtain ⟨hids, hconfidence⟩ := rewriteAnswer_context hrewrite
  obtain ⟨hdropped, -⟩ | ⟨-, hkept⟩ := rewriteAnswer_ok hrewrite
  · exact absurd hdropped hdrop
  obtain ⟨hdecision, hcontext, hinvocation, hnext, hplan⟩ := applyPlanPolicy_kept hkept
  obtain ⟨htarget, hsteps, hopens, hvalidated⟩ := postValidate_ok hvalidate
  dsimp only at htarget hsteps hopens hvalidated
  rw [hdecision, hcontext, hids] at htarget
  rw [hcontext, hids] at hsteps
  rw [hdecision] at hopens
  have hvalidatedSteps : ∀ plan ∈ validated.plan, ∀ step ∈ plan.steps,
      step.agentId ∈ agentIds input.agents := by
    rw [hvalidated]
    intro plan hp
    obtain ⟨old, hold, rfl⟩ := Option.map_eq_some_iff.1 hp
    exact hsteps old hold
  have hvdecision : validated.decision = rewritten.decision := by
    rw [hvalidated]
    exact hdecision
  have hvplan : validated.plan =
      (routePlan router input answer planId now).map (policyPlan router input answer) := by
    rw [hvalidated]
    exact hplan
  have hvnext : validated.nextAction = offered router input answer planId now := by
    rw [hvalidated]
    exact hnext
  have hvinvocation : validated.invocation = rewritten.invocation := by
    rw [hvalidated]
    exact hinvocation
  have htargets : Targets (agentIds input.agents) validated := by
    constructor
    · rw [hvdecision]
      exact htarget
    · rw [hvdecision]
      exact hopens
  have hunsure : ¬Unsure router validated := by
    rintro ⟨hkeeps, hpos, hlow⟩
    rw [hvdecision, hkept.keeps] at hkeeps
    rw [hvdecision, hconfidence] at hlow
    exact hsure ⟨hkeeps, hpos, hlow⟩
  rw [clarifyOnLowConfidence_sure hunsure] at hattach
  have hopensEq := hkept.opens
  rw [← hvdecision] at hopensEq
  obtain ⟨hno, rfl⟩ | ⟨ho, -⟩ := clarifyOrAttachInvocation_ok htargets.opens hattach
  · rw [hno] at hopensEq
    refine ⟨htargets.available, hvplan, hvalidatedSteps, .inr ⟨?_, hvnext⟩, ?_⟩
    · rintro ⟨hopened, hnone, -⟩
      simp [hopened, hnone] at hopensEq
    · rw [hvinvocation, hkept.invocation]
      cases hb : builtPlan router input answer planId now with
      | some built =>
        simp
      | none =>
        have hclosed : answer.decision.action.opens = false := by
          simpa [hb] using hopensEq.symm
        simp [hno, hclosed, Option.eq_none_iff_forall_not_mem]
  · obtain ⟨htarget', hplan', hgood, agent, hfound, hnext'⟩ := attached_ok htargets hattach ho
    rw [ho] at hopensEq
    obtain ⟨hopened, hnone⟩ : answer.decision.action.opens = true ∧
        builtPlan router input answer planId now = none := by
      simpa using hopensEq.symm
    have hanswerTarget : validated.decision.targetAgentId = answer.decision.targetAgentId := by
      rw [hvdecision]
      exact hkept.target (hvdecision ▸ ho)
    rw [hanswerTarget] at hfound
    refine ⟨htarget', hplan'.trans hvplan, hplan' ▸ hvalidatedSteps, ?_,
      fun _ => .inr (.inl hopened), fun _ => hgood⟩
    obtain ⟨hmissing, hoffers⟩ | ⟨hmissing, hsame⟩ := hnext'
    · exact .inl ⟨⟨hopened, hnone, agent, hfound, hmissing⟩, hoffers⟩
    · refine .inr ⟨?_, hsame.trans hvnext⟩
      rintro ⟨-, -, agent', hfound', hmissing'⟩
      rw [hfound] at hfound'
      cases hfound'
      exact hmissing' hmissing

/-- The stored plan decides what steps and what next action the response has. -/
theorem stored_offers (ha : Answered router input answer planId now response)
    (hs : Stored router repo response out) :
    ((∀ plan ∈ out.plan, ∀ step ∈ plan.steps, step.agentId ∈ agentIds input.agents) ∧
        Offers (agentIds input.agents) out.nextAction) ↔
      (∀ plan ∈ canonicalPlan router input answer planId now repo,
        ∀ step ∈ plan.steps, step.agentId ∈ agentIds input.agents) ∧
      match canonicalPlan router input answer planId now repo with
      | some plan => Offers (agentIds input.agents) plan.nextAction
      | none => Asks router input answer planId now ∨
        Offers (agentIds input.agents) (offered router input answer planId now) := by
  have hplan := hs.plan
  rw [ha.plan] at hplan
  have hcanonical : (if router.planService then
      ((routePlan router input answer planId now).map (policyPlan router input answer)).bind
        (storedPlan repo) else none) = canonicalPlan router input answer planId now repo := rfl
  rw [hcanonical] at hplan
  cases hk : canonicalPlan router input answer planId now repo with
  | none =>
    rw [hk] at hplan
    rw [hplan.1, hplan.2, ha.plan.symm]
    obtain ⟨hasks, hoffers⟩ | ⟨hasks, hsame⟩ := ha.next
    · exact ⟨fun _ => ⟨fun _ hp => (by cases hp), .inl hasks⟩, fun _ => ⟨ha.steps, hoffers⟩⟩
    · rw [hsame]
      exact ⟨fun h => ⟨fun _ hp => (by cases hp), .inr h.2⟩,
        fun h => ⟨ha.steps, h.2.resolve_left hasks⟩⟩
  | some plan =>
    rw [hk] at hplan
    obtain ⟨stored, hstored, hsteps, hnext⟩ := hplan
    rw [hstored, hnext]
    simp [hsteps]

/-- A response is confined if and only if its answer is dropped, unsure or harmless. -/
theorem confined_iff (h : (router.routeAnswer input answer planId now).run repo =
    (.ok response, repo')) :
    Confined input response ↔ Dropped router input answer planId now ∨ Unsure router answer ∨
      Harmless router input answer planId now repo := by
  obtain ⟨before, repo1, hrespond, hafter⟩ := Stateful.run_bind_ok.1 h
  obtain ⟨hresponded, rfl⟩ := Stateful.run_ofExcept_ok.1 hrespond
  have hs := afterRoute_ok hafter
  by_cases hcleared : Dropped router input answer planId now ∨ Unsure router answer
  · obtain ⟨hconfined, hnone⟩ := respond_emptied hresponded hcleared
    have hplan := hs.plan
    rw [hnone, Option.bind_none, ite_self] at hplan
    have hconfined : Confined input response := hconfined.congr
      ⟨by rw [hs.decision], by rw [hs.decision], hplan.1.trans hnone.symm, hplan.2, hs.invocation⟩
    exact ⟨fun _ => hcleared.elim .inl fun hu => .inr (.inl hu), fun _ => hconfined⟩
  · obtain ⟨hdrop, hsure⟩ := not_or.1 hcleared
    have ha := respond_kept hresponded hdrop hsure
    have hoffers := stored_offers ha hs
    have hgood := ha.invocation
    have htarget := ha.target
    rw [← hs.invocation, ← hs.decision] at hgood
    rw [← hs.decision] at htarget
    constructor
    · intro hc
      obtain ⟨hsteps, hnext⟩ := hoffers.1 ⟨hc.steps, hc.next⟩
      exact .inr (.inr ⟨hgood.1 hc.invocation, hsteps, hnext⟩)
    · intro hc
      have hh := (hc.resolve_left hdrop).resolve_left hsure
      obtain ⟨hsteps, hnext⟩ := hoffers.2 ⟨hh.steps, hh.next⟩
      exact ⟨htarget, hsteps, hnext, hgood.2 hh.invocation⟩

/-! ## Two answers -/

def sampleRouter : RouterService where
  appEnv := "local"
  defaultPlanExecutionPolicy := .requireConfirmation
  allowLocalAutoExecutePlans := false
  lowConfidenceThreshold := 1 / 5
  lower := id
  strip := id
  requestsPlanContinuation := fun _ => false
  planService := true
  agentContextService := none
  record := fun _ _ => .ok ()
  logFailure := fun _ => none

def sampleAgent : AgentDefinition where
  agentId := "writer"
  name := "Writer"
  description := "Writes a report"
  capabilities := []
  trigger := { keywords := [], positiveExamples := [] }
  inputSchema := { required := ["text"], properties := [("text", .obj [])] }
  metadata := []

def sampleContext : RouteContext where
  relation := .newTask
  currentAgentId := none
  candidateAgentIds := ["writer"]
  intentHint := none
  evidence := []
  metadata := []

def sampleInput : RouteInput where
  request :=
    { requestId := "request"
      sessionId := "session"
      source := .hostChat
      userId := "user"
      tenantId := some "tenant"
      inputText := "Write a report"
      currentAgent := none
      planId := none
      frontendContext := [] }
  agents := [sampleAgent]
  activePlan := none
  baseContext := sampleContext

def sampleAnswer (action : RouteAction) (targetAgentId : Option String)
    (invocation : Option InvocationPreview) : RouteResponse where
  requestId := "request"
  sessionId := "session"
  assistantMessage := none
  decision :=
    { status := .ok
      action
      targetAgentId
      confidence := none
      reason := ""
      message := "Done." }
  context := sampleContext
  executionPolicy := none
  nextAction := none
  plan := none
  invocation

def noPlans : MemoryPlanRepository :=
  { plans := .empty, executionClaims := .empty, executionAttempts := .empty }

theorem confined_iff_opened : ∃ response repo',
    (sampleRouter.routeAnswer sampleInput (sampleAnswer .openAgent (some "writer") none) "plan"
      0).run noPlans = (.ok response, repo') ∧ Confined sampleInput response := by
  have hrun : (sampleRouter.routeAnswer sampleInput
      (sampleAnswer .openAgent (some "writer") none) "plan" 0).run noPlans = (.ok _, _) := rfl
  have hnone : canonicalPlan sampleRouter sampleInput
      (sampleAnswer .openAgent (some "writer") none) "plan" 0 noPlans = none := rfl
  refine ⟨_, _, hrun, (confined_iff hrun).2 (.inr (.inr ⟨.inl rfl, ?_, ?_⟩))⟩
  · rw [hnone]
    exact fun _ hp => by cases hp
  · rw [hnone]
    exact .inr fun _ hn => by cases hn

def strayInvocation : InvocationPreview where
  mode := .invoke
  agentId := "payroll"
  input := []
  metadata := []

/-- A reply keeps the invocation it came with. -/
theorem reply_not_confined : ∃ response repo',
    (sampleAnswer .reply none (some strayInvocation)).validate =
        .ok (sampleAnswer .reply none (some strayInvocation)) ∧
      (sampleRouter.routeAnswer sampleInput (sampleAnswer .reply none (some strayInvocation)) "plan"
        0).run noPlans = (.ok response, repo') ∧
      response.invocation = some strayInvocation ∧ ¬Confined sampleInput response := by
  refine ⟨_, _, rfl, rfl, rfl, fun h => ?_⟩
  have hopens := (h.invocation strayInvocation rfl).1
  cases hopens

end OpenIntentRouter.Routing
