import OpenIntentRouter.Context.Budget
import OpenIntentRouter.Services.ContextProviders

/-!
# The cache of an assembly session

The providers of the calls of one session share a cache. The key of a provider covers the
request, the purpose, the consumer and the agent, but not the sources of the call, the bounds
on what is retrieved or the steps of the active plan.

* `SameReads`: what a call reads besides its key is what the call that was cached read;
* `hit_transparent`: then the cached candidates, bound to the call, are those that it would
  collect;
* `provider_cache_transparent`: in a run whose calls read the same under one key every call is
  answered as with an empty cache;
* `left_out_transparent`: for a sha256 without collisions it is enough that they agree in the
  fields that the key leaves out (`SameLeftOut`);
* `stale_results`: two calls that were given different results are not.
-/
namespace OpenIntentRouter.Context

open Core Core.Except Schemas Services

variable {tools : ProviderTools} {request : ProviderRequest}
  {session : Option ContextAssemblySession}

/-! ## What a call reads -/

def recalled (provider : MemoryRetrievalProvider) (context : ContextProviderContext) :
    Except CollectError MemoryRecallResponse := do
  match provider.recall with
  | some recalls => recalls (← provider.recallRequest context)
  | none => .error (.raised "AttributeError")

def pointedPlan (provider : MemoryRetrievalProvider) (context : ContextProviderContext) :
    Except CollectError (Option JsonDict) :=
  if context.purpose = .routeDecision && !provider.continues context.request.text then
    (activePlanValue context).map fun _ => none
  else activePlanValue context

def retrieved (provider : KnowledgeRetrievalProvider) (context : ContextProviderContext) :
    Except CollectError KnowledgeProviderResult := do
  provider.retrieve (← provider.knowledgeRequest context)

def BoundAgent (call : ProviderCall) : Prop :=
  call.agent.isSome = true → isAgentConsumer call.consumer = true

/-- The memories answered are the same, and if a task is among them for an agent, the plan is the
same that it may point to. -/
structure SameMemories (request : ProviderRequest) (earlier call : ProviderCall)
    (p q : MemoryRetrievalProvider) : Prop where
  stage : p.stage = q.stage
  recalled : recalled p (earlier.context request) = recalled q (call.context request)
  plan : ∀ response, Context.recalled q (call.context request) = .ok response →
    ∀ item ∈ response.context.items, item.scope = "task_memory" → p.stage = .agent →
      pointedPlan p (earlier.context request) = pointedPlan q (call.context request)
  bound : BoundAgent call

/-- The knowledge retrieved comes from the sources of the agent. -/
structure OwnKnowledge (request : ProviderRequest) (call : ProviderCall)
    (q : KnowledgeRetrievalProvider) : Prop where
  sources : ∀ result, retrieved q (call.context request) = .ok result → ∀ item ∈ result.items,
    KnowledgeRetrievalProvider.sourceIds (call.context request) = [] ∨
      item.sourceId ∈ KnowledgeRetrievalProvider.sourceIds (call.context request)
  bound : BoundAgent call

structure SameKnowledge (request : ProviderRequest) (earlier call : ProviderCall)
    (p q : KnowledgeRetrievalProvider) : Prop extends OwnKnowledge request call q where
  retrieved : retrieved p (earlier.context request) = retrieved q (call.context request)

/-- The call reads these sources as the earlier one did, and is made for the same, as equal keys
say only of a hash without collisions. -/
structure SameSources (keys : List String) (earlier call : ProviderCall) : Prop where
  purpose : earlier.purpose = call.purpose
  consumer : earlier.consumer = call.consumer
  sources : ∀ key ∈ keys, Json.field earlier.sources key = Json.field call.sources key

/-- Both providers are of one class, and what the class reads is the same. -/
def SameClass (sources : List String → Prop)
    (memories : MemoryRetrievalProvider → MemoryRetrievalProvider → Prop)
    (knowledge : KnowledgeRetrievalProvider → KnowledgeRetrievalProvider → Prop)
    (earlier call : ProviderCall) : Prop :=
  match earlier.provider, call.provider with
  | .currentInput, .currentInput | .currentAgent, .currentAgent
  | .frontendContext, .frontendContext => sources []
  | .history, .history => sources ["host_history", "agent_history"]
  | .results, .results | .artifacts, .artifacts => sources ["recent_results"]
  | .events, .events => sources ["recent_events"]
  | .plan, .plan => sources ["active_plan"]
  | .evidence, .evidence => sources ["evidence"]
  | .memory p, .memory q => memories p q
  | .knowledge p, .knowledge q => knowledge p q
  | _, _ => False

def SameReads (request : ProviderRequest) (earlier call : ProviderCall) : Prop :=
  SameClass (SameSources · earlier call) (SameMemories request earlier call)
    (SameKnowledge request earlier call) earlier call

/-! ## The sources -/

variable {call earlier : ProviderCall} {p q : MemoryRetrievalProvider} {key : String}
  {cached : List ContextCandidate}

theorem SameSources.context_eq {keys : List String} (h : SameSources keys earlier call) :
    earlier.context request =
      ⟨request, call.purpose, call.consumer, earlier.agent, earlier.sources⟩ := by
  unfold ProviderCall.context
  rw [h.purpose, h.consumer]

def FromSources : ContextProvider → Prop
  | .static .. | .memory _ | .knowledge _ => False
  | _ => True

/-- A provider of sources collects the same from the sources that it reads. -/
theorem collect_sources (h : SameReads request earlier call) (hsources : FromSources call.provider) :
    call.provider.collect tools (call.context request) =
      earlier.provider.collect tools (earlier.context request) := by
  unfold SameReads SameClass at h
  split at h
  case h_10 p q _ hq => rw [hq] at hsources; exact hsources.elim
  case h_11 p q _ hq => rw [hq] at hsources; exact hsources.elim
  case h_12 => exact h.elim
  all_goals
    rw [h.context_eq, ‹earlier.provider = _›, ‹call.provider = _›]
    have hread := h.sources
    simp only [List.mem_cons, List.not_mem_nil, or_false, forall_eq_or_imp, forall_eq,
      IsEmpty.forall_iff, implies_true] at hread
  case h_4 =>
    simp only [ContextProvider.collect, ProviderTools.history, hread]
    rfl
  case h_5 =>
    simp only [ContextProvider.collect, ProviderTools.results, hread]
    rfl
  case h_6 =>
    simp only [ContextProvider.collect, ProviderTools.artifacts, hread]
    rfl
  case h_7 =>
    simp only [ContextProvider.collect, ProviderTools.events, hread]
    rfl
  case h_8 =>
    simp only [ContextProvider.collect, ProviderTools.plan, objectField, hread]
    rfl
  case h_9 =>
    simp only [ContextProvider.collect, ProviderTools.evidence, hread]
    rfl
  all_goals rfl

theorem bindCached_sources {provider : ContextProvider} (h : FromSources provider)
    (context : ContextProviderContext) (cached : List ContextCandidate) :
    provider.bindCached tools context cached = cached := by
  cases provider <;> first | rfl | exact h.elim

/-! ## The memories -/

def pointsTo (item : MemoryContextItem) (plan : JsonDict) : Option JsonDict :=
  let own := fun key => (Json.field item.structuredValue key).getD (getField plan key)
  if Json.pyEq (getField item.structuredValue "object_type") (.str "plan") &&
      Json.pyEq (getField item.structuredValue "plan_id") (getField plan "plan_id") &&
      Json.pyEq (own "tenant_id") (getField plan "tenant_id") &&
      Json.pyEq (own "user_id") (getField plan "user_id") then some plan
  else none

theorem matchesActivePlanPointer_eq (p : MemoryRetrievalProvider)
    (context : ContextProviderContext) (item : MemoryContextItem) :
    p.matchesActivePlanPointer context item =
      (pointedPlan p context).map fun plan => plan.bind (pointsTo item) := by
  unfold MemoryRetrievalProvider.matchesActivePlanPointer pointedPlan
  cases hplan : activePlanValue context with
  | error e => split <;> rfl
  | ok plan =>
    cases plan with
    | none => split <;> rfl
    | some plan =>
      by_cases hpurpose : (context.purpose = .routeDecision &&
          !p.continues context.request.text) = true
      · simp only [ok_bind, if_pos hpurpose]
        rfl
      · simp only [ok_bind, if_neg hpurpose]
        unfold pointsTo Except.map
        dsimp only [Option.bind_some]
        split <;> rfl

/-- The plan at hand is read only for the memory of a task, and not for a route. -/
theorem runtimeItem_congr {c d : ContextProviderContext} (hstage : p.stage = q.stage)
    (hc : ∃ plan, activePlanValue c = .ok plan) (hd : ∃ plan, activePlanValue d = .ok plan)
    {item : MemoryContextItem}
    (hplan : item.scope = "task_memory" → p.stage = .agent → pointedPlan p c = pointedPlan q d) :
    p.runtimeItem tools c item = q.runtimeItem tools d item := by
  have hpointed : ∀ (r : MemoryRetrievalProvider) (e : ContextProviderContext),
      (∃ plan, activePlanValue e = .ok plan) → ∃ plan, pointedPlan r e = .ok plan := by
    rintro r e ⟨plan, hplan⟩
    unfold pointedPlan
    rw [hplan]
    split
    · exact ⟨none, rfl⟩
    · exact ⟨plan, rfl⟩
  unfold MemoryRetrievalProvider.runtimeItem
  rw [matchesActivePlanPointer_eq, matchesActivePlanPointer_eq]
  split
  · rfl
  · next hscope =>
    cases hroute : p.stage with
    | route =>
      obtain ⟨first, hfirst⟩ := hpointed p c hc
      obtain ⟨second, hsecond⟩ := hpointed q d hd
      rw [hfirst, hsecond, ← hstage, hroute]
      simp only [Except.map, ok_bind, if_pos]
      cases first.bind (pointsTo item) <;> cases second.bind (pointsTo item) <;> rfl
    | agent => rw [hplan (not_not.1 hscope) hroute, ← hstage, hroute]

/-- A candidate of an earlier call, bound to the call, is that of the call. -/
theorem candidate_bound (hbound : BoundAgent call) (status : ContextStatus)
    (item : MemoryContextItem) :
    MemoryRetrievalProvider.candidate tools (call.context request) status item =
      (MemoryRetrievalProvider.candidate tools (earlier.context request) status item).map
        (bindCandidate (call.context request)) := by
  unfold MemoryRetrievalProvider.candidate
  cases MemoryRetrievalProvider.factValueOf (getField item.metadata "fact_value") with
  | error e => rfl
  | ok value =>
    refine congrArg Except.ok ?_
    unfold bindCandidate candidateFor ProviderCall.context
    cases hagent : call.agent with
    | none => rfl
    | some agent =>
      have hconsumer : isAgentConsumer call.consumer = true := hbound (by rw [hagent]; rfl)
      simp only [hconsumer, if_true]
      rfl

theorem collect_memory_eq (p : MemoryRetrievalProvider) (context : ContextProviderContext) :
    ((ContextProvider.memory p).collect tools context).map (·.candidates) =
      (recalled p context >>= fun response =>
        response.context.items.mapM (p.runtimeItem tools context) >>= fun items =>
          (items.filterMap id).mapM
            (MemoryRetrievalProvider.candidate tools context response.context.status)) := by
  unfold recalled
  dsimp only [ContextProvider.collect]
  cases p.recall with
  | none => rfl
  | some recalls =>
    dsimp only
    unfold MemoryRetrievalProvider.collect
    cases p.recallRequest context with
    | error e => rfl
    | ok asked =>
      simp only [ok_bind]
      cases recalls asked with
      | error e => rfl
      | ok response =>
        simp only [ok_bind]
        cases response.context.items.mapM (p.runtimeItem tools context) with
        | error e => rfl
        | ok items =>
          simp only [ok_bind]
          cases (items.filterMap id).mapM
            (MemoryRetrievalProvider.candidate tools context response.context.status) <;> rfl

theorem collect_memory (h : SameMemories request earlier call p q)
    (hearlier : ∃ plan, activePlanValue (earlier.context request) = .ok plan)
    (hcall : ∃ plan, activePlanValue (call.context request) = .ok plan) :
    ((ContextProvider.memory q).collect tools (call.context request)).map (·.candidates) =
      (((ContextProvider.memory p).collect tools (earlier.context request)).map
        (·.candidates)).map (List.map (bindCandidate (call.context request))) := by
  rw [collect_memory_eq, collect_memory_eq, h.recalled]
  cases hresponse : recalled q (call.context request) with
  | error e => rfl
  | ok response =>
    have hitems : response.context.items.mapM (p.runtimeItem tools (earlier.context request)) =
        response.context.items.mapM (q.runtimeItem tools (call.context request)) :=
      mapM_congr fun item hitem =>
        runtimeItem_congr h.stage hearlier hcall (h.plan response hresponse item hitem)
    simp only [ok_bind, hitems]
    cases response.context.items.mapM (q.runtimeItem tools (call.context request)) with
    | error e => rfl
    | ok items => exact mapM_map fun item _ => candidate_bound h.bound _ item

/-! ## The knowledge -/

theorem collect_knowledge_eq (p : KnowledgeRetrievalProvider) (context : ContextProviderContext) :
    ((ContextProvider.knowledge p).collect tools context).map (·.candidates) =
      (retrieved p context).map fun result =>
        result.items.map (KnowledgeRetrievalProvider.candidate tools context result.status) := by
  change (p.collect tools context).map _ = _
  unfold retrieved KnowledgeRetrievalProvider.collect
  cases p.knowledgeRequest context with
  | error e => rfl
  | ok asked =>
    simp only [ok_bind]
    cases p.retrieve asked <;> rfl

theorem knowledge_bound (hbound : BoundAgent call) (status : ContextStatus)
    (item : KnowledgeContextItem) :
    KnowledgeRetrievalProvider.candidate tools (call.context request) status item =
      bindCandidate (call.context request)
        (KnowledgeRetrievalProvider.candidate tools (earlier.context request) status item) := by
  unfold KnowledgeRetrievalProvider.candidate bindCandidate candidateFor ProviderCall.context
  cases hagent : call.agent with
  | none => rfl
  | some agent =>
    have hconsumer : isAgentConsumer call.consumer = true := hbound (by rw [hagent]; rfl)
    simp only [hconsumer, if_true]
    rfl

theorem shown_sourceId (context : ContextProviderContext) (status : ContextStatus)
    (item : KnowledgeContextItem) :
    tools.shown (KnowledgeRetrievalProvider.candidate tools context status item).metadata
      "source_id" = item.sourceId := by
  exact tools.py.str_str item.sourceId

theorem bound_knowledge {p q : KnowledgeRetrievalProvider}
    (h : SameKnowledge request earlier call p q) {result : KnowledgeProviderResult}
    (hresult : retrieved q (call.context request) = .ok result) :
    (ContextProvider.knowledge q).bindCached tools (call.context request)
        (result.items.map
          (KnowledgeRetrievalProvider.candidate tools (earlier.context request) result.status)) =
      result.items.map
        (KnowledgeRetrievalProvider.candidate tools (call.context request) result.status) := by
  unfold ContextProvider.bindCached
  dsimp only
  rw [List.map_map, show (bindCandidate (call.context request) ∘
    KnowledgeRetrievalProvider.candidate tools (earlier.context request) result.status) =
      KnowledgeRetrievalProvider.candidate tools (call.context request) result.status from
    funext fun item => (knowledge_bound h.bound result.status item).symm]
  refine List.filter_eq_self.2 fun candidate hc => ?_
  obtain ⟨item, hitem, rfl⟩ := List.mem_map.1 hc
  rw [shown_sourceId]
  rcases h.sources result hresult item hitem with hnone | hmem
  · simp [hnone]
  · simp [hmem]

/-! ## Calls -/

/-- A key is looked up where the provider applies and its key does not raise. -/
theorem cacheKey_eq_some (h : call.cacheKey tools request session = some key) :
    call.provider.applies (call.context request) = true ∧
      call.provider.cacheKey tools (call.context request) = .ok key := by
  unfold ProviderCall.cacheKey at h
  dsimp only at h
  split at h
  · next happlies =>
    rw [Bool.and_eq_true] at happlies
    refine ⟨happlies.1, ?_⟩
    cases hkey : call.provider.cacheKey tools (call.context request) with
    | error e =>
      rw [hkey] at h
      cases h
    | ok other =>
      rw [hkey] at h
      cases h
      rfl
  · cases h

theorem activePlanValue_of_cacheKey (hp : call.provider = .memory p)
    (h : call.cacheKey tools request session = some key) :
    ∃ plan, activePlanValue (call.context request) = .ok plan := by
  have hkey := (cacheKey_eq_some h).2
  rw [hp] at hkey
  obtain ⟨plan, hplan, -⟩ := bind_eq_ok.1 hkey
  exact ⟨plan, hplan⟩

/-- The answer has the candidates that the call would be given with an empty cache. -/
def Transparent (tools : ProviderTools) (request : ProviderRequest) (call : ProviderCall)
    (answer : ProviderAnswer) : Prop :=
  answer.map Prod.fst = (call.miss tools request).map Prod.fst

theorem transparent_miss (call : ProviderCall) :
    Transparent tools request call (call.miss tools request) := by
  rfl

/-- Candidates that are collected for the call answer it. -/
theorem transparent_of_collect (hkey : call.cacheKey tools request session = some key)
    (h : (call.provider.collect tools (call.context request)).map (·.candidates) =
      .ok (call.provider.bindCached tools (call.context request) cached)) :
    Transparent tools request call (call.hit tools request cached) := by
  obtain ⟨happlies, hkey⟩ := cacheKey_eq_some hkey
  unfold Transparent ProviderCall.miss ProviderCall.hit
  dsimp only
  rw [happlies, hkey]
  cases hcollect : call.provider.collect tools (call.context request) with
  | error e =>
    rw [hcollect] at h
    cases h
  | ok collected =>
    rw [hcollect] at h
    exact h.symm

theorem collect_of_stored (h : call.stored tools request = some cached) :
    (call.provider.collect tools (call.context request)).map (·.candidates) = .ok cached := by
  unfold ProviderCall.stored at h
  split at h
  · cases hcollect : call.provider.collect tools (call.context request) with
    | error e =>
      rw [hcollect] at h
      cases h
    | ok collected =>
      rw [hcollect] at h
      cases h
      rfl
  · cases h

/-- A call that reads what the cached one read is answered as with an empty cache. -/
theorem hit_transparent (hearlier : earlier.cacheKey tools request session = some key)
    (hcall : call.cacheKey tools request session = some key)
    (hstored : earlier.stored tools request = some cached) (h : SameReads request earlier call) :
    Transparent tools request call (call.hit tools request cached) := by
  have hcached := collect_of_stored hstored
  refine transparent_of_collect hcall ?_
  by_cases hsources : FromSources call.provider
  · rw [collect_sources h hsources, hcached, bindCached_sources hsources]
  · unfold SameReads SameClass at h
    split at h
    case h_10 p q hp hq =>
      rw [hp] at hcached
      rw [hq, collect_memory h (activePlanValue_of_cacheKey hp hearlier)
        (activePlanValue_of_cacheKey hq hcall), hcached]
      rfl
    case h_11 p q hp hq =>
      rw [hp, collect_knowledge_eq, h.retrieved] at hcached
      rw [hq, collect_knowledge_eq]
      cases hresult : retrieved q (call.context request) with
      | error e =>
        rw [hresult] at hcached
        cases hcached
      | ok result =>
        rw [hresult] at hcached
        cases hcached
        rw [bound_knowledge h hresult]
        rfl
    case h_12 => exact h.elim
    all_goals
      rw [‹call.provider = _›] at hsources
      exact absurd trivial hsources

/-! ## What the keys cover -/

/-- The key leaves out what is retrieved, how much of it, and the steps of the plan that a memory
may point to. -/
structure MemoriesLeftOut (request : ProviderRequest) (earlier call : ProviderCall)
    (p q : MemoryRetrievalProvider) : Prop where
  «recall» : p.recall = q.recall
  maxItems : p.maxItems (earlier.context request) = q.maxItems (call.context request)
  plan : p.stage = .agent →
    pointedPlan p (earlier.context request) = pointedPlan q (call.context request)
  bound : BoundAgent call

/-- The key leaves out what is retrieved, how much of it, for how long and for whom. -/
structure KnowledgeLeftOut (request : ProviderRequest) (earlier call : ProviderCall)
    (p q : KnowledgeRetrievalProvider) : Prop extends OwnKnowledge request call q where
  retrieve : p.retrieve = q.retrieve
  timeout : p.settings.knowledgeTimeout = q.settings.knowledgeTimeout
  maxItems : earlier.agent.elim p.settings.knowledgeDefaultMaxItems (·.knowledge.maxItems) =
    call.agent.elim q.settings.knowledgeDefaultMaxItems (·.knowledge.maxItems)
  purpose : earlier.purpose = call.purpose
  consumer : earlier.consumer = call.consumer

/-- What the key of a call leaves out is the same as for the earlier one. -/
def SameLeftOut (request : ProviderRequest) (earlier call : ProviderCall) : Prop :=
  SameClass (fun keys => ∀ key ∈ keys, Json.field earlier.sources key = Json.field call.sources key)
    (MemoriesLeftOut request earlier call) (KnowledgeLeftOut request earlier call) earlier call

theorem texts_of_sortItems {l m : List String}
    (h : Json.sortItems (l.map .str) = Json.sortItems (m.map .str)) : l = m := by
  have hsorted : ∀ texts : List String, Json.sortItems (texts.map .str) = texts.map .str := by
    intro texts
    induction texts with
    | nil => rfl
    | cons text rest ih => rw [List.map_cons, Json.sortItems, ih, Json.sortKeys]
  rw [hsorted, hsorted] at h
  exact List.map_injective_iff.2 (fun _ _ => Json.str.inj) h

section Keys

variable {c d : ContextProviderContext} (hnumerals : Json.Numerals tools.py.number)
  (hsha : Function.Injective tools.py.sha256)
include hnumerals hsha

/-- Digests that do not collide determine the fields of what is digested. -/
theorem field_of_digest {s t : JsonDict} (hs : (s.map Prod.fst).Nodup)
    (ht : (t.map Prod.fst).Nodup) (key : String)
    (h : ContextProvider.digest tools s = ContextProvider.digest tools t) :
    (Json.field s key).map Json.sortKeys = (Json.field t key).map Json.sortKeys := by
  have hreadable : Json.Style.Readable { number := tools.py.number } :=
    ⟨rfl, show ", ".toList.head? = _ by decide, show ": ".toList.head? = _ by decide, hnumerals⟩
  exact Json.field_of_sortKeys hs ht (Json.dumps_inj hreadable (hsha h)) key

theorem baseKey_covers {name : String}
    (h : ContextProvider.baseKey tools c name = ContextProvider.baseKey tools d name) :
    c.purpose = d.purpose ∧ c.consumer = d.consumer := by
  have hfield := fun key => field_of_digest hnumerals hsha (by simp) (by simp) key
    ((String.append_right_inj _).1 h)
  have hpurpose : purposeValue c.purpose = purposeValue d.purpose := by
    simpa [Json.field, Json.sortKeys] using hfield "purpose"
  have hconsumer : c.consumer.name = d.consumer.name := by
    simpa [Json.field, Json.sortKeys] using hfield "consumer"
  constructor
  · revert hpurpose
    cases c.purpose <;> cases d.purpose <;> simp [purposeValue]
  · revert hconsumer
    cases c.consumer
    cases d.consumer
    simp

theorem memoryKey_covers {p q : MemoryRetrievalProvider}
    (hc : ContextProvider.memoryKey tools c p = .ok key)
    (hd : ContextProvider.memoryKey tools d q = .ok key) :
    p.stage = q.stage ∧ p.scopes c = q.scopes d ∧
      c.agent.map (·.agentId) = d.agent.map (·.agentId) := by
  obtain ⟨_, -, hc⟩ := bind_eq_ok.1 hc
  obtain ⟨_, -, hd⟩ := bind_eq_ok.1 hd
  have hfield := fun key => field_of_digest hnumerals hsha (by simp) (by simp) key
    ((String.append_right_inj _).1 ((Except.ok.inj hc).trans (Except.ok.inj hd).symm))
  have hstage : p.stage.value = q.stage.value := by
    simpa [Json.field, Json.sortKeys] using hfield "stage"
  have hagent : (textJson (c.agent.map (·.agentId))).sortKeys =
      (textJson (d.agent.map (·.agentId))).sortKeys := by
    simpa [Json.field] using hfield "agent_id"
  refine ⟨?_, texts_of_sortItems (by simpa [Json.field, Json.sortKeys] using hfield "scopes"), ?_⟩
  · revert hstage
    cases p.stage <;> cases q.stage <;> simp [RetrievalStage.value]
  · revert hagent
    cases c.agent.map (·.agentId) <;> cases d.agent.map (·.agentId) <;>
      simp [textJson, Json.sortKeys]

theorem knowledgeKey_covers {p q : KnowledgeRetrievalProvider}
    (h : ContextProvider.knowledgeKey tools c p = ContextProvider.knowledgeKey tools d q) :
    KnowledgeRetrievalProvider.sourceIds c = KnowledgeRetrievalProvider.sourceIds d ∧
      KnowledgeRetrievalProvider.sourceTags c = KnowledgeRetrievalProvider.sourceTags d := by
  have hfield := fun key => field_of_digest hnumerals hsha (by simp) (by simp) key
    ((String.append_right_inj _).1 h)
  exact ⟨texts_of_sortItems (by simpa [Json.field, Json.sortKeys] using hfield "source_ids"),
    texts_of_sortItems (by simpa [Json.field, Json.sortKeys] using hfield "source_tags")⟩

/-- Under one key, calls for which the rest is the same read the same. -/
theorem sameReads_of_key (hearlier : earlier.cacheKey tools request session = some key)
    (hcall : call.cacheKey tools request session = some key)
    (h : SameLeftOut request earlier call) : SameReads request earlier call := by
  have hkeys := (cacheKey_eq_some hearlier).2
  have hkey := (cacheKey_eq_some hcall).2
  unfold SameLeftOut SameClass at h
  unfold SameReads SameClass
  split at h
  case h_12 => exact h.elim
  all_goals
    rw [‹earlier.provider = _›] at hkeys
    rw [‹call.provider = _›] at hkey
  case h_10 p q _ _ =>
    obtain ⟨hstage, hscopes, hagent⟩ := memoryKey_covers hnumerals hsha hkeys hkey
    refine ⟨hstage, ?_, fun _ _ _ _ _ hagent => h.plan hagent, h.bound⟩
    unfold recalled MemoryRetrievalProvider.recallRequest
    rw [h.recall, h.maxItems, hscopes, hagent]
    rfl
  case h_11 p q _ _ =>
    obtain ⟨hids, htags⟩ :=
      knowledgeKey_covers hnumerals hsha ((Except.ok.inj hkeys).trans (Except.ok.inj hkey).symm)
    refine ⟨h.toOwnKnowledge, ?_⟩
    unfold retrieved KnowledgeRetrievalProvider.knowledgeRequest
    rw [h.retrieve, h.timeout, hids, htags]
    simp only [ProviderCall.context, h.maxItems, h.purpose, h.consumer]
    rfl
  all_goals
    obtain ⟨hpurpose, hconsumer⟩ :=
      baseKey_covers hnumerals hsha ((Except.ok.inj hkeys).trans (Except.ok.inj hkey).symm)
    exact ⟨hpurpose, hconsumer, h⟩

end Keys

/-! ## Runs -/

/-- In a run whose calls read, under one key, what the cached call read, every call is given the
candidates of an empty cache. -/
theorem provider_cache_transparent (tools : ProviderTools) (request : ProviderRequest)
    (session : Option ContextAssemblySession)
    (s : Memo.State ProviderCall String (List ContextCandidate) ProviderAnswer)
    (h : ((ProviderCall.collectProvider tools request session).lts.guarded
      ((ProviderCall.collectProvider tools request session).Related
        (SameReads request))).Reachable s) :
    ∀ p ∈ s.answers, Transparent tools request p.1 p.2 := by
  exact Memo.answers_reachable (P := Transparent tools request) transparent_miss
    (fun k earlier r v hearlier hr hkept hreads => hit_transparent hearlier hr hkept hreads) h

/-- Where the hash has no collisions, it is enough that what the keys leave out is the same. -/
theorem left_out_transparent (hnumerals : Json.Numerals tools.py.number)
    (hsha : Function.Injective tools.py.sha256)
    {s : Memo.State ProviderCall String (List ContextCandidate) ProviderAnswer}
    (h : ((ProviderCall.collectProvider tools request session).lts.guarded
      ((ProviderCall.collectProvider tools request session).Related
        (SameLeftOut request))).Reachable s) :
    ∀ p ∈ s.answers, Transparent tools request p.1 p.2 :=
  Memo.answers_reachable (P := Transparent tools request) transparent_miss
    (fun _ _ _ _ hearlier hcall hstored hsame => hit_transparent hearlier hcall hstored
      (sameReads_of_key hnumerals hsha hearlier hcall hsame)) h

/-- A run of a call that is cached and of one that is answered from the cache. -/
theorem exists_hit {R : ProviderCall → ProviderCall → Prop}
    (hearlier : earlier.cacheKey tools request session = some key)
    (hcall : call.cacheKey tools request session = some key)
    (hstored : earlier.stored tools request = some cached) (hrelated : R earlier call) :
    ∃ s, ((ProviderCall.collectProvider tools request session).lts.guarded
        ((ProviderCall.collectProvider tools request session).Related R)).Reachable s ∧
      (call, call.hit tools request cached) ∈ s.answers :=
  Memo.exists_recall hearlier hcall hstored hrelated

def sampleTools : ProviderTools where
  py := Candidates.asciiPython
  float := fun _ => .error (.raised "TypeError")
  datetime := fun _ => none
  isoformat := fun _ => ""

def sampleProviderRequest : ProviderRequest where
  toContextRequest := sampleRequest
  text := "hello"
  attachments := []
  entitlements := []
  attributes := []
  currentAgent := none

def sampleSession : ContextAssemblySession := ⟨"req", "ada", none⟩

def resultsCall (results : List Json) : ProviderCall where
  provider := .results
  purpose := .routeDecision
  consumer := .router
  agent := none
  sources := [("recent_results", .arr results)]

def sampleResult (id : String) : Json := .obj [("result_id", .str id)]

theorem resultsCall_key (results others : List Json) (h : results ≠ []) (ho : others ≠ []) :
    (resultsCall results).cacheKey sampleTools sampleProviderRequest (some sampleSession) =
      (resultsCall others).cacheKey sampleTools sampleProviderRequest (some sampleSession) := by
  have happlies : ∀ values : List Json, values ≠ [] →
      ContextProvider.applies ((resultsCall values).context sampleProviderRequest) .results = true := by
    intro values hvalues
    simp [ContextProvider.applies, resultsCall, ProviderCall.context, truthyField, Json.field,
      Json.truthy, hvalues]
  unfold ProviderCall.cacheKey
  dsimp only
  rw [show (resultsCall results).provider = .results from rfl,
    show (resultsCall others).provider = .results from rfl, happlies results h, happlies others ho]
  rfl

/-- A result that came after the first call is not given to the second. -/
theorem stale_results :
    ¬∀ (tools : ProviderTools) (request : ProviderRequest)
      (session : Option ContextAssemblySession)
      (s : Memo.State ProviderCall String (List ContextCandidate) ProviderAnswer),
      (ProviderCall.collectProvider tools request session).lts.Reachable s →
      ∀ p ∈ s.answers, Transparent tools request p.1 p.2 := by
  intro hclaim
  let earlier := resultsCall [sampleResult "a"]
  let call := resultsCall [sampleResult "a", sampleResult "b"]
  have hcomputed : (earlier.stored sampleTools sampleProviderRequest).map List.length = some 1 ∧
      (call.miss sampleTools sampleProviderRequest).map (fun answer => answer.1.length) = .ok 2 ∧
      (earlier.cacheKey sampleTools sampleProviderRequest (some sampleSession)).isSome = true := by
    decide
  obtain ⟨hstored, hmiss, hkey⟩ := hcomputed
  obtain ⟨cached, hcached, hlength⟩ := Option.map_eq_some_iff.1 hstored
  obtain ⟨key, hkey⟩ := Option.isSome_iff_exists.1 hkey
  have hsame := resultsCall_key [sampleResult "a", sampleResult "b"] [sampleResult "a"] (by simp)
    (by simp)
  obtain ⟨s, hs, hanswer⟩ := exists_hit (R := fun _ _ => True) hkey (hsame.trans hkey) hcached
    trivial
  have htransparent := hclaim _ _ _ s hs.of_guarded _ hanswer
  cases hother : call.miss sampleTools sampleProviderRequest with
  | error e =>
    rw [hother] at hmiss
    cases hmiss
  | ok answer =>
    rw [hother] at hmiss
    have htwo : answer.1.length = 2 := Except.ok.inj hmiss
    unfold Transparent at htransparent
    rw [hother] at htransparent
    have hsame : cached = answer.1 := Except.ok.inj htransparent
    rw [hsame, htwo] at hlength
    cases hlength

/-- A call that is given the same results twice is answered from the cache the second time. -/
theorem provider_cache_transparent_same_results :
    ∃ s : Memo.State ProviderCall String (List ContextCandidate) ProviderAnswer,
      (∃ cached, (resultsCall [sampleResult "a"],
        (resultsCall [sampleResult "a"]).hit sampleTools sampleProviderRequest cached) ∈ s.answers) ∧
      ∀ p ∈ s.answers, Transparent sampleTools sampleProviderRequest p.1 p.2 := by
  let call := resultsCall [sampleResult "a"]
  have hcomputed : (call.stored sampleTools sampleProviderRequest).isSome = true ∧
      (call.cacheKey sampleTools sampleProviderRequest (some sampleSession)).isSome = true := by
    decide
  obtain ⟨hstored, hkey⟩ := hcomputed
  obtain ⟨cached, hcached⟩ := Option.isSome_iff_exists.1 hstored
  obtain ⟨key, hkey⟩ := Option.isSome_iff_exists.1 hkey
  have hsame : SameReads sampleProviderRequest call call := ⟨rfl, rfl, fun _ _ => rfl⟩
  obtain ⟨s, hs, hanswer⟩ := exists_hit hkey hkey hcached hsame
  exact ⟨s, ⟨cached, hanswer⟩, provider_cache_transparent _ _ _ s hs⟩

end OpenIntentRouter.Context
