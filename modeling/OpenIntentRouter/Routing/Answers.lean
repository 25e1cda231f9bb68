import Mathlib.Data.List.Dedup
import OpenIntentRouter.Services.RouterService

/-!
# What becomes of an answer

The rewriting of an answer either drops what the answer offers (`Dropped`) or
keeps its plan, its next action and, where the action opens no agent, its
invocation (`Kept`). Of what is left, an answer of low confidence (`Unsure`)
loses everything too, and an agent that is opened is asked for its inputs or
invoked. The plan of the response gives way to a stored one of another version
(`storedPlan`).

* `rewriteAnswer_ok`: an answer is emptied or kept;
* `postValidate_ok`, `clarifyOnLowConfidence_unsure`, `clarifyOrAttachInvocation_ok`;
* `afterRoute_ok`: what the response takes of the stored plan.
-/
namespace OpenIntentRouter.Routing

open Core Core.Except Schemas Repositories Services

/-! ## What is dropped -/

section
variable (router : RouterService) (input : RouteInput) (answer : RouteResponse) (planId : String)
  (now : Instant)

def Resumes (request : RouteRequest) (answer : RouteResponse) : Prop :=
  answer.decision.targetAgentId = RouteRequest.currentAgentId request ∧
    truthy (request.currentAgent.bind (·.agentSessionId)) = true

instance (request : RouteRequest) (answer : RouteResponse) : Decidable (Resumes request answer) :=
  inferInstanceAs (Decidable (_ ∧ _))

def Denied : Prop :=
  answer.decision.action = .continueAgent ∧ ¬Resumes input.request answer ∧
    answer.decision.targetAgentId.any (· ∈ agentIds input.agents) = false

def builtPlan : Option Plan :=
  if answer.plan = none ∧ answer.context.relation = .multiTask ∧
      (answer.decision.action = .continueAgent → Resumes input.request answer) then
    (router.buildOrderedPlanFromText input.request.inputText input.request.sessionId
      input.request.userId (input.request.tenantId.getD "") input.agents planId now).toOption.join
  else none

def routePlan : Option Plan :=
  (answer.plan.map (callersPlan input.request)).or (builtPlan router input answer planId now)

/-- What the answer offers is dropped: a continuation is denied, or the plan has an agent that is
not available or a single step. -/
def Dropped : Prop :=
  Denied input answer ∨ ∃ plan ∈ routePlan router input answer planId now,
    (∃ step ∈ plan.steps, step.agentId ∉ agentIds input.agents) ∨ plan.steps.length = 1

def Unsure : Prop :=
  RouteAction.keepsLowConfidence answer.decision.action = false ∧ 0 < router.lowConfidenceThreshold ∧
    ∃ confidence ∈ answer.decision.confidence, confidence < router.lowConfidenceThreshold

structure Emptied (output : RouteResponse) : Prop where
  plan : output.plan = none
  next : output.nextAction = none
  invocation : output.invocation = none

structure Kept (output : RouteResponse) : Prop where
  plan : output.plan = routePlan router input answer planId now
  policy : output.executionPolicy = answer.executionPolicy
  next : output.nextAction = answer.nextAction
  keeps : RouteAction.keepsLowConfidence output.decision.action =
    RouteAction.keepsLowConfidence answer.decision.action
  opens : output.decision.action.opens =
    (answer.decision.action.opens && (builtPlan router input answer planId now).isNone)
  target : output.decision.action.opens = true →
    output.decision.targetAgentId = answer.decision.targetAgentId
  invocation : output.invocation =
    if (builtPlan router input answer planId now).isSome then none else answer.invocation

end

/-- The plan under which a plan is stored; `none`: it is the stored one. Of another version than
the stored one, it gives way. -/
def storedPlan (repo : MemoryPlanRepository) (plan : Plan) : Option Plan :=
  match repo.get plan.planId plan.tenantId plan.userId with
  | some existing =>
    if existing = plan then none
    else if existing.stateVersion = plan.stateVersion then some plan
    else some existing
  | none => some plan

/-! ## The rewriting -/

variable {router : RouterService} {input : RouteInput} {answer output : RouteResponse}
  {planId : String} {now : Instant}

structure Carried (request : RouteRequest) (output out : RouteResponse) : Prop where
  plan : out.plan = output.plan
  policy : out.executionPolicy = output.executionPolicy
  next : out.nextAction = output.nextAction
  invocation : out.invocation = output.invocation
  keeps : RouteAction.keepsLowConfidence out.decision.action =
    RouteAction.keepsLowConfidence output.decision.action
  opens : out.decision.action.opens = output.decision.action.opens
  target : out.decision.targetAgentId = output.decision.targetAgentId
  relation : out.context.relation = .multiTask ↔ output.context.relation = .multiTask ∧
    (output.decision.action = .continueAgent → Resumes request output)
  resumes : out.decision.action = .continueAgent → Resumes request out

theorem normalizeAgentContinuation_context (output : RouteResponse) (request : RouteRequest) :
    (normalizeAgentContinuation output request).context.candidateAgentIds =
        output.context.candidateAgentIds ∧
      (normalizeAgentContinuation output request).decision.confidence =
        output.decision.confidence := by
  unfold normalizeAgentContinuation
  split
  · exact ⟨rfl, rfl⟩
  · dsimp only
    split
    · exact ⟨rfl, rfl⟩
    · split
      · exact ⟨rfl, rfl⟩
      · exact ⟨rfl, rfl⟩

variable {request : RouteRequest} {out planned : RouteResponse} {agents : List AgentDefinition}

theorem normalizeAgentContinuation_resumes
    (h : output.decision.action = .continueAgent → Resumes request output) :
    normalizeAgentContinuation output request = output := by
  unfold normalizeAgentContinuation
  split
  · rfl
  · next hc =>
    have hr := h (by simpa using hc)
    dsimp only
    rw [if_pos]
    simpa [Resumes] using hr

theorem normalizeAgentContinuation_denied (hc : output.decision.action = .continueAgent)
    (hr : ¬Resumes request output)
    (ht : output.decision.targetAgentId.any (· ∈ output.context.candidateAgentIds) = false) :
    Emptied (normalizeAgentContinuation output request) ∧
      (normalizeAgentContinuation output request).decision.action = .unsupported ∧
      (normalizeAgentContinuation output request).context.relation = .unsupported := by
  have hn : ¬((output.decision.targetAgentId = RouteRequest.currentAgentId request &&
      truthy (request.currentAgent.bind (·.agentSessionId))) = true) := by
    simpa [Resumes] using hr
  unfold normalizeAgentContinuation
  dsimp only
  rw [if_neg (by simp [hc]), if_neg hn, if_pos (by simp [ht])]
  exact ⟨⟨rfl, rfl, rfl⟩, rfl, rfl⟩

theorem normalizeAgentContinuation_carried
    (h : ¬(output.decision.action = .continueAgent ∧ ¬Resumes request output ∧
      output.decision.targetAgentId.any (· ∈ output.context.candidateAgentIds) = false)) :
    Carried request output (normalizeAgentContinuation output request) := by
  by_cases hres : output.decision.action = .continueAgent → Resumes request output
  · rw [normalizeAgentContinuation_resumes hres]
    exact ⟨rfl, rfl, rfl, rfl, rfl, rfl, rfl, ⟨fun hm => ⟨hm, hres⟩, fun hm => hm.1⟩, hres⟩
  · obtain ⟨hc, hr⟩ := Classical.not_imp.1 hres
    have ht : output.decision.targetAgentId.any (· ∈ output.context.candidateAgentIds) = true :=
      Bool.eq_true_of_not_eq_false fun ht => h ⟨hc, hr, ht⟩
    have hn : ¬((output.decision.targetAgentId = RouteRequest.currentAgentId request &&
        truthy (request.currentAgent.bind (·.agentSessionId))) = true) := by
      simpa [Resumes] using hr
    unfold normalizeAgentContinuation
    dsimp only
    rw [if_neg (by simp [hc]), if_neg hn, if_neg (by simp [ht])]
    refine ⟨rfl, rfl, rfl, rfl, by rw [hc]; rfl, by rw [hc]; rfl, rfl, ⟨fun hm => ?_, fun hm => ?_⟩,
      fun hm => by cases hm⟩
    · dsimp only at hm
      split at hm
      · cases hm
      · cases hm
    · exact absurd (hm.2 hc) hr

theorem normalizeAgentContinuation_emptied (h : Emptied output) :
    Emptied (normalizeAgentContinuation output request) := by
  unfold normalizeAgentContinuation
  split
  · exact h
  · dsimp only
    split
    · exact h
    · split
      · exact ⟨rfl, rfl, rfl⟩
      · exact ⟨h.plan, h.next, h.invocation⟩

theorem bindPlanOwnership_ok (h : bindPlanOwnership answer request = .ok output) :
    output = { answer with plan := answer.plan.map (callersPlan request) } := by
  unfold bindPlanOwnership at h
  split at h
  · next hp =>
    cases h
    have hnone : answer.plan.map (callersPlan request) = answer.plan := by rw [hp]; rfl
    rw [hnone]
  · next plan hp =>
    split at h
    · cases h
    · cases h
      rw [hp]
      rfl

theorem bindExitTarget_eq (output : RouteResponse) (request : RouteRequest) :
    ∃ target, bindExitTarget output request =
        { output with decision := { output.decision with targetAgentId := target } } ∧
      (output.decision.action ≠ .exitAgent → target = output.decision.targetAgentId) := by
  unfold bindExitTarget
  split
  · next current _ =>
    split
    · next he => exact ⟨some current.agentId, rfl, fun hne => absurd he hne⟩
    · exact ⟨_, rfl, fun _ => rfl⟩
  · exact ⟨_, rfl, fun _ => rfl⟩

structure Planned (output out : RouteResponse) (plan : Plan) : Prop where
  plan : out.plan = some plan
  policy : out.executionPolicy = output.executionPolicy
  next : out.nextAction = output.nextAction
  invocation : out.invocation = none
  keeps : RouteAction.keepsLowConfidence out.decision.action =
    RouteAction.keepsLowConfidence output.decision.action
  opens : out.decision.action.opens = false
  candidates : out.context.candidateAgentIds = output.context.candidateAgentIds
  confidence : out.decision.confidence = output.decision.confidence

theorem ensurePlanForMultiTask_ok
    (h : router.ensurePlanForMultiTask output request agents planId now = .ok out) :
    let built := router.buildOrderedPlanFromText request.inputText request.sessionId
      request.userId (request.tenantId.getD "") agents planId now
    (out = output ∧
        ¬(output.plan = none ∧ output.context.relation = .multiTask ∧
          built.toOption.join.isSome = true)) ∨
      ∃ plan, Planned output out plan ∧ output.plan = none ∧
        output.context.relation = .multiTask ∧ built.toOption.join = some plan := by
  unfold RouterService.ensurePlanForMultiTask at h
  split at h
  · next hc =>
    cases h
    refine .inl ⟨rfl, fun hp => ?_⟩
    simp [hp.1, hp.2.1] at hc
  · next hc =>
    simp only [ne_eq, Bool.or_eq_true, decide_eq_true_eq, not_or, Bool.not_eq_true,
      Option.isSome_eq_false_iff, Option.isNone_iff_eq_none, not_not] at hc
    split at h
    · cases h
    · next hb =>
      cases h
      exact .inl ⟨rfl, fun hp => by simp [hb, Except.toOption] at hp⟩
    · next plan hb =>
      cases h
      refine .inr ⟨plan, ⟨rfl, rfl, rfl, rfl, ?_, ?_, rfl, rfl⟩, hc.1, hc.2, by rw [hb]; rfl⟩
      · cases ha : output.decision.action <;> rfl
      · cases ha : output.decision.action <;> rfl

theorem collapseSingleStepPlan_context (output : RouteResponse) (request : RouteRequest) :
    (collapseSingleStepPlan output request).context.candidateAgentIds =
        output.context.candidateAgentIds ∧
      (collapseSingleStepPlan output request).decision.confidence =
        output.decision.confidence := by
  unfold collapseSingleStepPlan
  split
  · split
    · exact ⟨rfl, rfl⟩
    · exact ⟨rfl, rfl⟩
  · exact ⟨rfl, rfl⟩

theorem denyUnavailablePlanAgents_context (output : RouteResponse) :
    (denyUnavailablePlanAgents output).context.candidateAgentIds =
        output.context.candidateAgentIds ∧
      (denyUnavailablePlanAgents output).decision.confidence = output.decision.confidence := by
  unfold denyUnavailablePlanAgents
  split
  · exact ⟨rfl, rfl⟩
  · dsimp only
    split
    · exact ⟨rfl, rfl⟩
    · exact ⟨rfl, rfl⟩

theorem collapseSingleStepPlan_none (h : output.plan = none) :
    collapseSingleStepPlan output request = output := by
  simp [collapseSingleStepPlan, h]

theorem unavailable_eq_nil {steps : List PlanStep} {ids : List String} :
    (((steps.map (·.agentId)).filter (· ∉ ids)).dedup).insertionSort (· ≤ ·) = [] ↔
      ∀ step ∈ steps, step.agentId ∈ ids := by
  rw [← List.length_eq_zero_iff, List.length_insertionSort, List.length_eq_zero_iff,
    List.dedup_eq_nil, List.filter_eq_nil_iff]
  simp

/-- What has an agent that is not available, or a single step, is dropped. -/
theorem collapse_deny (request : RouteRequest) {plan : Plan} (hp : output.plan = some plan) :
    let out := collapseSingleStepPlan (denyUnavailablePlanAgents output) request
    (((∃ step ∈ plan.steps, step.agentId ∉ output.context.candidateAgentIds) ∨
        plan.steps.length = 1) ∧ Emptied out) ∨
      (¬((∃ step ∈ plan.steps, step.agentId ∉ output.context.candidateAgentIds) ∨
        plan.steps.length = 1) ∧ out = output) := by
  by_cases hall : ∀ step ∈ plan.steps, step.agentId ∈ output.context.candidateAgentIds
  · have hd : denyUnavailablePlanAgents output = output := by
      simp only [denyUnavailablePlanAgents, hp]
      rw [if_pos (unavailable_eq_nil.2 hall)]
    have hno : ¬∃ step ∈ plan.steps, step.agentId ∉ output.context.candidateAgentIds := by
      simpa using hall
    rw [hd]
    dsimp only
    by_cases hone : plan.steps.length = 1
    · obtain ⟨step, hstep⟩ := List.length_eq_one_iff.1 hone
      refine .inl ⟨.inr hone, ?_⟩
      have hin : step.agentId ∈ output.context.candidateAgentIds := hall step (by simp [hstep])
      simp only [collapseSingleStepPlan, hp, Option.map_some, hstep, hin, not_true_eq_false,
        if_false]
      exact ⟨rfl, rfl, rfl⟩
    · refine .inr ⟨fun h => h.elim hno hone, ?_⟩
      unfold collapseSingleStepPlan
      split
      · next step hs =>
        simp only [hp, Option.map_some, Option.some.injEq] at hs
        exact absurd (by rw [hs]; rfl) hone
      · rfl
  · have hsome : ∃ step ∈ plan.steps, step.agentId ∉ output.context.candidateAgentIds := by
      simpa using hall
    refine .inl ⟨.inl hsome, ?_⟩
    have hd : Emptied (denyUnavailablePlanAgents output) := by
      simp only [denyUnavailablePlanAgents, hp]
      rw [if_neg fun h => hall (unavailable_eq_nil.1 h)]
      exact ⟨rfl, rfl, rfl⟩
    rw [collapseSingleStepPlan_none hd.plan]
    exact hd

theorem denyUnavailablePlanAgents_none (h : output.plan = none) :
    denyUnavailablePlanAgents output = output := by
  simp [denyUnavailablePlanAgents, h]

def boundAnswer (input : RouteInput) (answer : RouteResponse) : RouteResponse :=
  normalizeCandidateContext { answer with plan := answer.plan.map (callersPlan input.request) }
    input.baseContext (agentIds input.agents)

/-- The part of the rewriting before the plan is checked. -/
theorem continued_ok {carried : RouteResponse}
    (hc : Carried input.request (boundAnswer input answer) carried)
    (h : router.ensurePlanForMultiTask (bindExitTarget carried input.request) input.request
      input.agents planId now = .ok planned) :
    Kept router input answer planId now planned ∧
      (planned.decision.action = .continueAgent → Resumes input.request planned) := by
  obtain ⟨target, hexit, htarget⟩ := bindExitTarget_eq carried input.request
  rw [hexit] at h
  have hplan : (boundAnswer input answer).plan = none ↔ answer.plan = none := by
    simp [boundAnswer, normalizeCandidateContext]
  obtain ⟨rfl, hno⟩ | ⟨plan, hp, hnone, hmulti, hbuilt⟩ := ensurePlanForMultiTask_ok h
  · have hb : builtPlan router input answer planId now = none := by
      unfold builtPlan
      split
      · next hcond =>
        have hbuilt := fun hs => hno ⟨hc.plan.trans (hplan.2 hcond.1),
          hc.relation.2 ⟨hcond.2.1, hcond.2.2⟩, hs⟩
        simpa using hbuilt
      · rfl
    have hkept : ∀ {action : RouteAction}, carried.decision.action = action →
        action ≠ .exitAgent → target = answer.decision.targetAgentId := by
      intro action ha hne
      rw [htarget (ha ▸ hne), hc.target]
      rfl
    refine ⟨⟨?_, hc.policy, hc.next, hc.keeps, ?_, fun ho => ?_, ?_⟩, fun ha => ?_⟩
    · rw [routePlan, hb, Option.or_none]
      exact hc.plan
    · rw [hb, Option.isNone_none, Bool.and_true]
      exact hc.opens
    · refine hkept rfl fun he => ?_
      dsimp only at ho
      rw [he] at ho
      cases ho
    · rw [hb]
      exact hc.invocation
    · have hr := hc.resumes ha
      exact ⟨(hkept ha (by simp)).trans (hc.target.symm.trans hr.1), hr.2⟩
  · have hcond := hc.relation.1 hmulti
    have hanswer : answer.plan = none := hplan.1 (hc.plan ▸ hnone)
    have hb : builtPlan router input answer planId now = some plan := by
      unfold builtPlan
      rw [if_pos ⟨hanswer, hcond.1, hcond.2⟩]
      exact hbuilt
    refine ⟨⟨?_, hp.policy.trans hc.policy, hp.next.trans hc.next, hp.keeps.trans hc.keeps, ?_,
      fun ho => ?_, ?_⟩, fun ha => ?_⟩
    · rw [hp.plan, routePlan, hb, hanswer]
      rfl
    · rw [hp.opens, hb]
      simp
    · rw [hp.opens] at ho
      cases ho
    · rw [hp.invocation, hb]
      rfl
    · have ho := hp.opens
      rw [ha] at ho
      cases ho

theorem rewriteAnswer_eq (h : router.rewriteAnswer input answer planId now = .ok output) :
    ∃ planned, router.ensurePlanForMultiTask (bindExitTarget
        (normalizeAgentContinuation (boundAnswer input answer) input.request) input.request)
        input.request input.agents planId now = .ok planned ∧
      output = normalizeAgentContinuation (collapseSingleStepPlan
        (denyUnavailablePlanAgents planned) input.request) input.request := by
  obtain ⟨owned, howned, h⟩ := bind_eq_ok.1 h
  rw [bindPlanOwnership_ok howned] at h
  obtain ⟨planned, hplanned, h⟩ := bind_eq_ok.1 h
  cases h
  exact ⟨planned, hplanned, rfl⟩

theorem rewriteAnswer_context (h : router.rewriteAnswer input answer planId now = .ok output) :
    output.context.candidateAgentIds = agentIds input.agents ∧
      output.decision.confidence = answer.decision.confidence := by
  obtain ⟨planned, hplanned, rfl⟩ := rewriteAnswer_eq h
  have hcontext : planned.context.candidateAgentIds = agentIds input.agents ∧
      planned.decision.confidence = answer.decision.confidence := by
    obtain ⟨target, hexit, -⟩ := bindExitTarget_eq
      (normalizeAgentContinuation (boundAnswer input answer) input.request) input.request
    have hnorm := normalizeAgentContinuation_context (boundAnswer input answer) input.request
    rw [hexit] at hplanned
    obtain ⟨rfl, -⟩ | ⟨plan, hp, -⟩ := ensurePlanForMultiTask_ok hplanned
    · exact hnorm
    · exact ⟨hp.candidates.trans hnorm.1, hp.confidence.trans hnorm.2⟩
  have h1 := denyUnavailablePlanAgents_context planned
  have h2 := collapseSingleStepPlan_context (denyUnavailablePlanAgents planned) input.request
  have h3 := normalizeAgentContinuation_context
    (collapseSingleStepPlan (denyUnavailablePlanAgents planned) input.request) input.request
  exact ⟨h3.1.trans (h2.1.trans (h1.1.trans hcontext.1)),
    h3.2.trans (h2.2.trans (h1.2.trans hcontext.2))⟩

/-- A denied continuation stays empty: its relation asks for no plan. -/
theorem denied_ok (hd : Denied input answer) (h : router.ensurePlanForMultiTask (bindExitTarget
      (normalizeAgentContinuation (boundAnswer input answer) input.request) input.request)
      input.request input.agents planId now = .ok planned) : Emptied planned := by
  obtain ⟨hem, -, hrel⟩ : Emptied (normalizeAgentContinuation (boundAnswer input answer) _) ∧ _ :=
    normalizeAgentContinuation_denied hd.1 hd.2.1 hd.2.2
  obtain ⟨target, hexit, -⟩ := bindExitTarget_eq
    (normalizeAgentContinuation (boundAnswer input answer) input.request) input.request
  rw [hexit] at h
  obtain ⟨rfl, -⟩ | ⟨plan, -, -, hmulti, -⟩ := ensurePlanForMultiTask_ok h
  · exact ⟨hem.plan, hem.next, hem.invocation⟩
  · exact absurd (hrel.symm.trans hmulti) (by simp)

theorem rewriteAnswer_ok (h : router.rewriteAnswer input answer planId now = .ok output) :
    (Dropped router input answer planId now ∧ Emptied output) ∨
      (¬Dropped router input answer planId now ∧ Kept router input answer planId now output) := by
  have hids := (rewriteAnswer_context h).1
  obtain ⟨planned, hplanned, rfl⟩ := rewriteAnswer_eq h
  have hcands : planned.context.candidateAgentIds = agentIds input.agents := by
    rw [← hids, (normalizeAgentContinuation_context _ _).1, (collapseSingleStepPlan_context _ _).1,
      (denyUnavailablePlanAgents_context _).1]
  by_cases hd : Denied input answer
  · have hem := denied_ok hd hplanned
    refine .inl ⟨.inl hd, normalizeAgentContinuation_emptied ?_⟩
    rw [denyUnavailablePlanAgents_none hem.plan, collapseSingleStepPlan_none hem.plan]
    exact hem
  · obtain ⟨hkept, hres⟩ := continued_ok (normalizeAgentContinuation_carried hd) hplanned
    cases hp : planned.plan with
    | none =>
      have hroute : routePlan router input answer planId now = none := by rw [← hkept.plan, hp]
      refine .inr ⟨fun hdrop => ?_, ?_⟩
      · obtain hd' | ⟨plan, hplan, -⟩ := hdrop
        · exact hd hd'
        · rw [hroute] at hplan
          cases hplan
      · rw [denyUnavailablePlanAgents_none hp, collapseSingleStepPlan_none hp,
          normalizeAgentContinuation_resumes hres]
        exact hkept
    | some plan =>
      have hroute : routePlan router input answer planId now = some plan := by
        rw [← hkept.plan, hp]
      obtain ⟨hdrop, hem⟩ | ⟨hdrop, heq⟩ := collapse_deny input.request hp
      · rw [hcands] at hdrop
        exact .inl ⟨.inr ⟨plan, hroute, hdrop⟩, normalizeAgentContinuation_emptied hem⟩
      · rw [hcands] at hdrop
        refine .inr ⟨fun hd' => ?_, ?_⟩
        · obtain hd' | ⟨plan', hplan', hbad⟩ := hd'
          · exact hd hd'
          · rw [hroute] at hplan'
            cases hplan'
            exact hdrop hbad
        · rw [heq, normalizeAgentContinuation_resumes hres]
          exact hkept

/-! ## The response -/

theorem postValidate_ok {policyValid : Bool} (h : postValidate output request policyValid = .ok out) :
    (truthy output.decision.targetAgentId = true →
        ∃ id ∈ output.decision.targetAgentId, id ∈ output.context.candidateAgentIds) ∧
      (∀ plan ∈ output.plan, ∀ step ∈ plan.steps,
        step.agentId ∈ output.context.candidateAgentIds) ∧
      (output.decision.action.opens = true → truthy output.decision.targetAgentId = true) ∧
      out = { output with
        plan := output.plan.map fun plan => { plan with currentStepId := plan.validatedCurrent } } := by
  unfold postValidate at h
  obtain ⟨_, htarget, h⟩ := bind_eq_ok.1 h
  obtain ⟨_, -, h⟩ := bind_eq_ok.1 h
  obtain ⟨_, hplan, h⟩ := bind_eq_ok.1 h
  rw [ensure_eq_ok] at htarget
  have hsteps : ∀ plan ∈ output.plan, ∀ step ∈ plan.steps,
      step.agentId ∈ output.context.candidateAgentIds := by
    intro plan hp
    split at hplan
    · next plan' hp' =>
      rw [hp'] at hp
      cases hp
      rw [validatePlanAgents, ensure_eq_ok, List.all_eq_true] at hplan
      simpa using hplan
    · next hp' =>
      rw [hp'] at hp
      cases hp
  split at h
  · next validated hvalid =>
    obtain ⟨_, -, h⟩ := bind_eq_ok.1 h
    cases h
    obtain ⟨plan, hmap, hdecision, -, rfl⟩ := RouteResponse.validate_eq_ok.1 hvalid
    refine ⟨fun ht => ?_, hsteps, fun ho => ?_, ?_⟩
    · simpa [ht, Option.any_eq_true] using htarget
    · simp only [RouteDecision.valid, ho, Bool.and_eq_true, Bool.not_true, Bool.false_or] at hdecision
      exact hdecision.1.2
    · have hplan : plan = output.plan.map fun plan =>
          { plan with currentStepId := plan.validatedCurrent } := by
        cases ho : output.plan with
        | none =>
          rw [ho] at hmap
          cases hmap
          rfl
        | some old =>
          rw [ho] at hmap
          obtain ⟨new, hnew, hmap⟩ := map_eq_ok.1 hmap
          rw [(Plan.validate_eq_ok.1 hnew).2.2.2] at hmap
          exact hmap.symm
      rw [hplan]
  · cases h

theorem selectedDefinition_eq_some {id : String} {agent : AgentDefinition}
    (h : selectedDefinition agents id = some agent) : agent ∈ agents ∧ agent.agentId = id := by
  have hmem := List.mem_of_find?_eq_some h
  have hid := List.find?_some h
  exact ⟨List.mem_reverse.1 hmem, by simpa using hid⟩

theorem clarifyOrAttachInvocation_ok {activePlan : Option Plan}
    (ht : output.decision.action.opens = true → truthy output.decision.targetAgentId = true)
    (h : router.clarifyOrAttachInvocation output request activePlan agents = .ok out) :
    (output.decision.action.opens = false ∧ out = output) ∨
      (output.decision.action.opens = true ∧ ∃ agent ∈ agents,
        output.decision.targetAgentId = some agent.agentId ∧
        output.decision.targetAgentId.bind (selectedDefinition agents) = some agent ∧
        let values := buildInvocationInput agent request
        let missing := missingRequiredInputs agent values
        ((missing ≠ [] ∧ out = askForInputs output agent missing) ∨
          (missing = [] ∧ ∃ context metadata,
            out = previewInvocation output context agent values metadata))) := by
  unfold RouterService.clarifyOrAttachInvocation at h
  split at h
  · next hnone =>
    cases h
    refine .inl ⟨Bool.eq_false_iff.2 fun ho => ?_, rfl⟩
    obtain ⟨id, hid, hne⟩ := (truthy_iff _).1 (ht ho)
    simp [hid, hne] at hnone
  · next target hsome =>
    obtain ⟨hid, -⟩ := Option.filter_eq_some_iff.1 hsome
    split at h
    · next ho =>
      cases h
      exact .inl ⟨by simpa using ho, rfl⟩
    · next ho =>
      split at h
      · cases h
      · next agent hagent =>
        obtain ⟨hmem, hagentId⟩ := selectedDefinition_eq_some hagent
        refine .inr ⟨by simpa using ho, agent, hmem, by rw [hid, hagentId], by rw [hid]; exact hagent,
          ?_⟩
        dsimp only at h ⊢
        split at h
        · next hmissing =>
          cases h
          exact .inl ⟨hmissing, rfl⟩
        · next hmissing =>
          refine .inr ⟨not_not.1 hmissing, ?_⟩
          split at h
          · cases h
            exact ⟨_, _, rfl⟩
          · obtain ⟨runtime, -, h⟩ := bind_eq_ok.1 h
            cases h
            exact ⟨_, _, rfl⟩

structure SameOffer (response out : RouteResponse) : Prop where
  action : out.decision.action = response.decision.action
  target : out.decision.targetAgentId = response.decision.targetAgentId
  plan : out.plan = response.plan
  next : out.nextAction = response.nextAction
  invocation : out.invocation = response.invocation

theorem finalizeAssistantMessage_offer (response : RouteResponse) :
    SameOffer response (router.finalizeAssistantMessage response) := by
  unfold RouterService.finalizeAssistantMessage
  dsimp only
  split
  · exact ⟨rfl, rfl, rfl, rfl, rfl⟩
  · exact ⟨rfl, rfl, rfl, rfl, rfl⟩

theorem clarifyOnLowConfidence_unsure (h : Unsure router output) :
    Emptied (router.clarifyOnLowConfidence output) ∧
      (router.clarifyOnLowConfidence output).decision.action = .clarify ∧
      (router.clarifyOnLowConfidence output).decision.targetAgentId = none := by
  obtain ⟨hkeeps, hpos, confidence, hc, hlow⟩ := h
  unfold RouterService.clarifyOnLowConfidence
  rw [Option.mem_def.1 hc]
  dsimp only
  rw [if_neg (by simp [hkeeps, Rat.not_le.2 hpos, Rat.not_le.2 hlow])]
  exact ⟨⟨rfl, rfl, rfl⟩, rfl, rfl⟩

theorem clarifyOnLowConfidence_sure (h : ¬Unsure router output) :
    router.clarifyOnLowConfidence output = output := by
  unfold RouterService.clarifyOnLowConfidence
  split
  · rfl
  · next confidence hc =>
    dsimp only
    rw [if_pos]
    by_contra hn
    simp only [Bool.or_eq_true, decide_eq_true_eq, not_or, Rat.not_le, Bool.not_eq_true] at hn
    exact h ⟨hn.2, hn.1.1, confidence, hc, hn.1.2⟩

theorem respond_eq {response : RouteResponse}
    (h : router.respond input answer planId now = .ok response) :
    ∃ rewritten validated attached, router.rewriteAnswer input answer planId now = .ok rewritten ∧
      postValidate { (router.applyPlanPolicy rewritten input.agents).1 with
        requestId := input.request.requestId } input.request
        (router.applyPlanPolicy rewritten input.agents).2 = .ok validated ∧
      router.clarifyOrAttachInvocation (router.clarifyOnLowConfidence validated) input.request
        input.activePlan input.agents = .ok attached ∧
      response = router.finalizeAssistantMessage attached := by
  obtain ⟨rewritten, hrewritten, h⟩ := bind_eq_ok.1 h
  obtain ⟨validated, hvalidated, h⟩ := bind_eq_ok.1 h
  obtain ⟨attached, hattached, h⟩ := bind_eq_ok.1 h
  cases h
  exact ⟨rewritten, validated, attached, hrewritten, hvalidated, hattached, rfl⟩

/-! ## The stored plan -/

variable {repo repo' : MemoryPlanRepository} {response : RouteResponse}

/-- A stored plan takes steps and next action of the canonical one. -/
theorem storeRoutePlan_ok {plan : Plan} {out : MemoryPlanRepository × Option Plan}
    (h : storeRoutePlan repo plan now = .ok out) :
    (storedPlan repo plan = none ∧ out.2 = none) ∨
      ∃ canonical stored, storedPlan repo plan = some canonical ∧ out.2 = some stored ∧
        stored.steps = canonical.steps ∧ stored.nextAction = canonical.nextAction := by
  unfold storeRoutePlan at h
  dsimp only at h
  cases hget : repo.get plan.planId plan.tenantId plan.userId with
  | none =>
    refine .inr ⟨plan, ?_⟩
    simp only [hget, reduceCtorEq, if_false, PlanService.savePlan] at h
    simp only [storedPlan, hget, true_and]
    cases hsave : repo.save { plan with
        lastEventId := none
        stateVersion := 1
        updatedAt := now
        formationEventType := "create" } with
    | ok saved =>
      simp only [truthy_none, Bool.false_eq_true, if_false, Option.getD_none, hsave,
        ok_bind] at h
      cases h
      exact ⟨_, rfl, rfl, rfl⟩
    | error e =>
      simp only [truthy_none, Bool.false_eq_true, if_false, Option.getD_none, hsave,
        Except.error_bind] at h
      split at h
      · next heq => cases heq
      · cases h
      · cases h
  | some existing =>
    simp only [hget, Option.some.injEq] at h
    split at h
    · next heq =>
      cases h
      exact .inl ⟨by simp [storedPlan, hget, heq], rfl⟩
    · next hne =>
      obtain ⟨hfound, ht, hu⟩ := MemoryPlanRepository.get_eq_some.1 hget
      simp only [PlanService.savePlan, hget] at h
      by_cases hv : existing.stateVersion = plan.stateVersion
      · refine .inr ⟨plan, ?_⟩
        simp only [storedPlan, hget, hne, if_false, hv, if_true, true_and]
        rw [if_neg (by simp [hv])] at h
        simp only [MemoryPlanRepository.saveIfVersion, hfound, ownedBy, ht, hu, decide_true,
          Bool.and_self, Bool.not_true, ne_eq, not_true_eq_false, decide_false, Bool.or_self,
          Bool.false_eq_true, if_false] at h
        cases h
        exact ⟨_, rfl, rfl, rfl⟩
      · refine .inr ⟨existing, existing, ?_⟩
        rw [if_pos (Ne.symm hv)] at h
        cases h
        simp [storedPlan, hget, hne, hv]

structure Stored (router : RouterService) (repo : MemoryPlanRepository)
    (response out : RouteResponse) : Prop where
  decision : out.decision = response.decision
  invocation : out.invocation = response.invocation
  plan :
    match if router.planService then response.plan.bind (storedPlan repo) else none with
    | none => out.plan = response.plan ∧ out.nextAction = response.nextAction
    | some plan => ∃ stored, out.plan = some stored ∧ stored.steps = plan.steps ∧
      out.nextAction = plan.nextAction

theorem storePlan_ok (h : (router.storePlan response now).run repo = (.ok out, repo')) :
    Stored router repo response out := by
  unfold RouterService.storePlan at h
  split at h
  · next plan hp =>
    split at h
    · next hs =>
      obtain ⟨stored, repo1, hstore, h⟩ := Stateful.run_bind_ok.1 h
      rw [Stateful.run_lift_ok] at hstore
      split at hstore
      · next repo2 stored' hok =>
        cases hstore
        obtain ⟨hnone, hout⟩ | ⟨canonical, kept, hcanonical, hout, hsteps, hnext⟩ :=
          storeRoutePlan_ok hok
        · cases hout
          cases h
          refine ⟨rfl, rfl, ?_⟩
          rw [if_pos hs, hp, Option.bind_some, hnone]
          exact ⟨rfl, rfl⟩
        · cases hout
          cases h
          refine ⟨rfl, rfl, ?_⟩
          rw [if_pos hs, hp, Option.bind_some, hcanonical]
          exact ⟨kept, rfl, hsteps, hnext⟩
      · cases hstore
    · next hs =>
      cases h
      refine ⟨rfl, rfl, ?_⟩
      rw [if_neg hs]
      exact ⟨rfl, rfl⟩
  · next hp =>
    cases h
    refine ⟨rfl, rfl, ?_⟩
    rw [hp, Option.bind_none, ite_self]
    exact ⟨rfl, rfl⟩

theorem afterRoute_ok (h : (router.afterRoute request response now).run repo = (.ok out, repo')) :
    Stored router repo response out := by
  obtain ⟨stored, repo1, hstore, h⟩ := Stateful.run_bind_ok.1 h
  obtain ⟨_, repo2, -, h⟩ := Stateful.run_bind_ok.1 h
  have hs := storePlan_ok hstore
  split at h
  · cases h
    exact ⟨hs.decision, hs.invocation, hs.plan⟩
  · cases h
    exact hs

end OpenIntentRouter.Routing
