import OpenIntentRouter.Core.DumpLengths
import OpenIntentRouter.Core.Trimmed
import OpenIntentRouter.Context.ProviderCache
import OpenIntentRouter.Services.AgentContextService

/-!
# Inputs within the budget of an agent

`_fit_runtime_context` (`services/agent_context_service.py:842-887`) pops items while the
estimate of the input is over the budget. The theorem is about every base input, every two
contexts, every budget and rate, and either arithmetic of the estimate: all that is used of it
is that a longer text is not estimated at fewer tokens (`tokenEstimate_mono`).

* `popItems_trimmed`: the loop leaves the longest beginning of the items that is within the
  budget, or no item.
* `fitRuntimeContext_fitted_iff`: the input is within its budget afterwards if and only if it is
  without any item (summaries, errors and metadata outlive the items), and the cut goes no item
  too far unless a flag decides. The loop measures the contexts under the flags that they come
  with, although a context that has lost an item is returned as truncated, and `true` is a
  character shorter than `false`.
* `summary_outlives_items`: a summary without items that takes the input over its budget.
-/
namespace OpenIntentRouter.Context

open Core Schemas Services

/-! ## The items of both contexts -/

def tagged (memory : List MemoryContextItem) (knowledge : List KnowledgeContextItem) :
    List (MemoryContextItem ⊕ KnowledgeContextItem) :=
  memory.map .inl ++ knowledge.map .inr

theorem memory_tagged (memory : List MemoryContextItem) (knowledge : List KnowledgeContextItem) :
    (tagged memory knowledge).filterMap Sum.getLeft? = memory := by
  simp [tagged, List.filterMap_map, Function.comp_def]

theorem knowledge_tagged (memory : List MemoryContextItem) (knowledge : List KnowledgeContextItem) :
    (tagged memory knowledge).filterMap Sum.getRight? = knowledge := by
  simp [tagged, List.filterMap_map, Function.comp_def]

theorem tagged_inj {memory other : List MemoryContextItem}
    {knowledge others : List KnowledgeContextItem}
    (h : tagged memory knowledge = tagged other others) : memory = other ∧ knowledge = others := by
  constructor
  · rw [← memory_tagged memory knowledge, h, memory_tagged]
  · rw [← knowledge_tagged memory knowledge, h, knowledge_tagged]

def exceedsTagged (exceeds : List MemoryContextItem → List KnowledgeContextItem → Bool)
    (items : List (MemoryContextItem ⊕ KnowledgeContextItem)) : Bool :=
  exceeds (items.filterMap Sum.getLeft?) (items.filterMap Sum.getRight?)

theorem exceedsTagged_tagged (exceeds : List MemoryContextItem → List KnowledgeContextItem → Bool)
    (memory : List MemoryContextItem) (knowledge : List KnowledgeContextItem) :
    exceedsTagged exceeds (tagged memory knowledge) = exceeds memory knowledge := by
  unfold exceedsTagged
  rw [memory_tagged, knowledge_tagged]

/-- The loop pops from the end of all items, knowledge first. -/
theorem popItems_trimmed (exceeds : List MemoryContextItem → List KnowledgeContextItem → Bool)
    (items : FittedItems) :
    Trimmed (exceedsTagged exceeds) (tagged items.memory items.knowledge)
      (tagged (popItems exceeds items).memory (popItems exceeds items).knowledge) := by
  fun_induction popItems exceeds items with
  | case1 items hover hknowledge ih =>
    refine Trimmed.pop ((exceedsTagged_tagged _ _ _).trans hover) ?_
    have hpop : (tagged items.memory items.knowledge).dropLast =
        tagged items.memory items.knowledge.dropLast := by
      unfold tagged
      rw [List.dropLast_append_of_ne_nil (by simpa using hknowledge), List.map_dropLast]
    rw [hpop]
    exact ih
  | case2 items hover hknowledge hmemory ih =>
    refine Trimmed.pop ((exceedsTagged_tagged _ _ _).trans hover) ?_
    have hnil : items.knowledge = [] := not_not.1 hknowledge
    have hpop : (tagged items.memory items.knowledge).dropLast =
        tagged items.memory.dropLast items.knowledge := by
      unfold tagged
      rw [hnil, List.map_nil, List.append_nil, List.append_nil, List.map_dropLast]
    rw [hpop]
    exact ih
  | case3 items hover hknowledge hmemory =>
    refine Trimmed.refl (.inl ?_)
    rw [not_not.1 hknowledge, not_not.1 hmemory]
    rfl
  | case4 items hover =>
    exact Trimmed.refl (.inr ((exceedsTagged_tagged _ _ _).trans (by simpa using hover)))

def AgentRuntimeContext.tagged (contexts : AgentRuntimeContext) :
    List (MemoryContextItem ⊕ KnowledgeContextItem) :=
  Context.tagged contexts.memoryContext.items contexts.knowledgeContext.items

variable (tools : ProviderTools) (budget : AgentContextBudget) (baseInput : JsonDict)

/-! ## Contexts and their items -/

def withItems (contexts : AgentRuntimeContext) (memory : List MemoryContextItem)
    (knowledge : List KnowledgeContextItem) (memoryFlag knowledgeFlag : Bool) :
    AgentRuntimeContext where
  memoryContext := { contexts.memoryContext with items := memory, truncated := memoryFlag }
  knowledgeContext :=
    { contexts.knowledgeContext with
      items := knowledge
      citations := citationsOf knowledge
      sourceIds := sourceIdsOf knowledge
      truncated := knowledgeFlag }

/-- The contexts cut to these items: one that has lost an item is truncated. -/
def cutTo (contexts : AgentRuntimeContext) (memory : List MemoryContextItem)
    (knowledge : List KnowledgeContextItem) : AgentRuntimeContext :=
  withItems contexts memory knowledge
    (contexts.memoryContext.truncated || memory ≠ contexts.memoryContext.items)
    (contexts.knowledgeContext.truncated || knowledge ≠ contexts.knowledgeContext.items)

def unflagged (contexts : AgentRuntimeContext) (memory : List MemoryContextItem)
    (knowledge : List KnowledgeContextItem) : AgentRuntimeContext :=
  withItems contexts memory knowledge contexts.memoryContext.truncated
    contexts.knowledgeContext.truncated

/-- `MemoryContext()` and `KnowledgeContext()` -/
def emptyContexts : AgentRuntimeContext where
  memoryContext := ⟨"", [], .empty, false, [], []⟩
  knowledgeContext := ⟨"", [], [], [], .disabled, false, [], []⟩

def inputWith (contexts : AgentRuntimeContext) : JsonDict :=
  JsonDict.merge baseInput
    [("memory_context", .obj (contexts.memoryContext.dump tools.isoformat)),
      ("knowledge_context", .obj (contexts.knowledgeContext.dump tools.isoformat))]

def Fits (contexts : AgentRuntimeContext) : Prop :=
  (tokenEstimate tools.py.arithmetic (stableJson tools.py (.obj (inputWith tools baseInput contexts)))
    budget.charsPerToken : Int) ≤ budget.maxTokens

instance (contexts : AgentRuntimeContext) : Decidable (Fits tools budget baseInput contexts) :=
  inferInstanceAs (Decidable (_ ≤ _))

/-! ## Fewer items are shorter -/

theorem prefix_sourceIdsOf {items others : List KnowledgeContextItem} (h : items <+: others) :
    sourceIdsOf items <+: sourceIdsOf others := by
  obtain ⟨more, rfl⟩ := h
  unfold sourceIdsOf
  rw [List.map_append, List.eraseDups_append]
  exact List.prefix_append _ _

theorem prefix_citationsOf {items others : List KnowledgeContextItem} (h : items <+: others) :
    citationsOf items <+: citationsOf others :=
  h.filterMap _

/-- Contexts with fewer items and more flags make no longer an input. -/
theorem Fits.mono {contexts : AgentRuntimeContext} {memory more : List MemoryContextItem}
    {knowledge others : List KnowledgeContextItem} {a b c d : Bool}
    (h : Fits tools budget baseInput (withItems contexts more others c d))
    (hmemory : memory <+: more) (hknowledge : knowledge <+: others) (hc : c = true → a = true)
    (hd : d = true → b = true) :
    Fits tools budget baseInput (withItems contexts memory knowledge a b) := by
  unfold Fits at h ⊢
  refine le_trans (Int.ofNat_le.2 (tokenEstimate_mono _ _ ?_)) h
  rw [length_stableJson, length_stableJson]
  refine JsonDict.NoLonger.length_le ((JsonDict.NoLonger.refl _ baseInput).merge ?_)
  refine .cons ⟨rfl, JsonDict.NoLonger.length_le ?_⟩
    (.cons ⟨rfl, JsonDict.NoLonger.length_le ?_⟩ .nil)
  · exact .cons ⟨rfl, Nat.le_refl _⟩
      (.cons ⟨rfl, Json.length_write_arr_prefix_le _ (hmemory.map _)⟩
      (.cons ⟨rfl, Nat.le_refl _⟩ (.cons ⟨rfl, Json.length_write_bool_le _ hc⟩
      (.cons ⟨rfl, Nat.le_refl _⟩ (.cons ⟨rfl, Nat.le_refl _⟩ .nil)))))
  · exact .cons ⟨rfl, Nat.le_refl _⟩
      (.cons ⟨rfl, Json.length_write_arr_prefix_le _ (hknowledge.map _)⟩
      (.cons ⟨rfl, Json.length_write_arr_prefix_le _ ((prefix_citationsOf hknowledge).map _)⟩
      (.cons ⟨rfl, Json.length_write_arr_prefix_le _ ((prefix_sourceIdsOf hknowledge).map _)⟩
      (.cons ⟨rfl, Nat.le_refl _⟩ (.cons ⟨rfl, Json.length_write_bool_le _ hd⟩
      (.cons ⟨rfl, Nat.le_refl _⟩ (.cons ⟨rfl, Nat.le_refl _⟩ .nil)))))))

/-! ## What is popped -/

theorem prefix_of_tagged {memory more : List MemoryContextItem}
    {knowledge others : List KnowledgeContextItem}
    (h : tagged memory knowledge <+: tagged more others) :
    memory <+: more ∧ knowledge <+: others := by
  have hmemory := h.filterMap Sum.getLeft?
  have hknowledge := h.filterMap Sum.getRight?
  rw [memory_tagged, memory_tagged] at hmemory
  rw [knowledge_tagged, knowledge_tagged] at hknowledge
  exact ⟨hmemory, hknowledge⟩

theorem prefix_tagged {memory : List MemoryContextItem} {knowledge : List KnowledgeContextItem}
    {l : List (MemoryContextItem ⊕ KnowledgeContextItem)} (h : l <+: tagged memory knowledge) :
    ∃ fewer less, l = tagged fewer less := by
  refine ⟨memory.take l.length, knowledge.take (l.length - memory.length), ?_⟩
  have htake := List.prefix_iff_eq_take.1 h
  unfold tagged at htake
  rw [List.take_append, List.length_map, ← List.map_take, ← List.map_take] at htake
  exact htake

theorem ne_of_prefix_dropLast {α : Type} {l kept : List α} (h : l ≠ [])
    (hkept : kept <+: l.dropLast) : kept ≠ l := by
  rintro rfl
  have hlength := hkept.length_le
  have hpos := List.length_pos_of_ne_nil h
  rw [List.length_dropLast] at hlength
  omega

theorem prefix_popItems (exceeds : List MemoryContextItem → List KnowledgeContextItem → Bool)
    (items : FittedItems) :
    (popItems exceeds items).memory <+: items.memory ∧
      (popItems exceeds items).knowledge <+: items.knowledge :=
  prefix_of_tagged (popItems_trimmed exceeds items).isPrefix

theorem popItems_flags (exceeds : List MemoryContextItem → List KnowledgeContextItem → Bool)
    (items : FittedItems) :
    (popItems exceeds items).truncatedMemory =
        (items.truncatedMemory || decide ((popItems exceeds items).memory ≠ items.memory)) ∧
      (popItems exceeds items).truncatedKnowledge =
        (items.truncatedKnowledge ||
          decide ((popItems exceeds items).knowledge ≠ items.knowledge)) := by
  fun_induction popItems exceeds items with
  | case1 items hover hknowledge ih =>
    have hlost := ne_of_prefix_dropLast hknowledge (prefix_popItems exceeds
      { items with knowledge := items.knowledge.dropLast, truncatedKnowledge := true }).2
    refine ⟨ih.1, ?_⟩
    rw [ih.2, decide_eq_true hlost, Bool.or_true, Bool.true_or]
  | case2 items hover hknowledge hmemory ih =>
    have hlost := ne_of_prefix_dropLast hmemory (prefix_popItems exceeds
      { items with memory := items.memory.dropLast, truncatedMemory := true }).1
    refine ⟨?_, ih.2⟩
    rw [ih.1, decide_eq_true hlost, Bool.or_true, Bool.true_or]
  | case3 items => simp
  | case4 items => simp

variable {tools budget baseInput}

/-- The bound of the loop, on the contexts under the flags that they come with. -/
theorem exceeds_iff (given : AgentRuntimeContext) (memory : List MemoryContextItem)
    (knowledge : List KnowledgeContextItem) :
    decide (budget.maxTokens < (inputTokens tools budget.charsPerToken baseInput
        given.memoryContext given.knowledgeContext memory knowledge : Int)) = true ↔
      ¬Fits tools budget baseInput (unflagged given memory knowledge) := by
  rw [decide_eq_true_iff, ← Int.not_le]
  rfl

variable (tools budget baseInput) in
theorem fitRuntimeContext_eq (given : AgentRuntimeContext) :
    fitRuntimeContext tools budget baseInput given.memoryContext given.knowledgeContext =
      cutTo given
        (fitRuntimeContext tools budget baseInput given.memoryContext
          given.knowledgeContext).memoryContext.items
        (fitRuntimeContext tools budget baseInput given.memoryContext
          given.knowledgeContext).knowledgeContext.items := by
  simp only [fitRuntimeContext, cutTo, withItems, popItems_flags]

variable (tools budget baseInput) in
/-- The loop leaves the longest list that is within the budget under the flags that the contexts
come with. -/
theorem fitRuntimeContext_trimmed (given : AgentRuntimeContext) :
    Trimmed (fun items => !decide (Fits tools budget baseInput
        (unflagged given (items.filterMap Sum.getLeft?) (items.filterMap Sum.getRight?))))
      (AgentRuntimeContext.tagged given)
      (AgentRuntimeContext.tagged (fitRuntimeContext tools budget baseInput given.memoryContext
        given.knowledgeContext)) := by
  have htrimmed := popItems_trimmed
    (fun memory knowledge => decide (budget.maxTokens <
      (inputTokens tools budget.charsPerToken baseInput given.memoryContext
        given.knowledgeContext memory knowledge : Int)))
    ⟨given.memoryContext.items, given.knowledgeContext.items, given.memoryContext.truncated,
      given.knowledgeContext.truncated⟩
  have hover : exceedsTagged (fun memory knowledge => decide (budget.maxTokens <
      (inputTokens tools budget.charsPerToken baseInput given.memoryContext
        given.knowledgeContext memory knowledge : Int))) =
      fun items => !decide (Fits tools budget baseInput
        (unflagged given (items.filterMap Sum.getLeft?) (items.filterMap Sum.getRight?))) := by
    funext items
    rw [Bool.eq_iff_iff, exceedsTagged, exceeds_iff]
    simp
  rw [← hover]
  exact htrimmed

/-! ## The cut -/

/-- What the last cut is for: the input is within the budget if it is with empty contexts, the
items are the first of those given, a context is truncated if and only if it was or has lost an
item, and with the item that was popped last the input would be over the budget. -/
structure FittedTo (tools : ProviderTools) (budget : AgentContextBudget)
    (baseInput : JsonDict) (given fitted : AgentRuntimeContext) : Prop where
  fits : Fits tools budget baseInput emptyContexts → Fits tools budget baseInput fitted
  memory_first : fitted.memoryContext.items <+: given.memoryContext.items
  knowledge_first : fitted.knowledgeContext.items <+: given.knowledgeContext.items
  memory_flag : fitted.memoryContext.truncated = true ↔
    given.memoryContext.truncated = true ∨ fitted.memoryContext.items ≠ given.memoryContext.items
  knowledge_flag : fitted.knowledgeContext.truncated = true ↔
    given.knowledgeContext.truncated = true ∨
      fitted.knowledgeContext.items ≠ given.knowledgeContext.items
  maximal : ∀ memory knowledge item,
    tagged memory knowledge = AgentRuntimeContext.tagged fitted ++ [item] →
    tagged memory knowledge <+: AgentRuntimeContext.tagged given →
    ¬Fits tools budget baseInput (cutTo given memory knowledge)

/-- Some of the items, at least one, are within the budget only because a context that has lost an
item is marked as truncated. -/
def FlagDecides (tools : ProviderTools) (budget : AgentContextBudget) (baseInput : JsonDict)
    (given : AgentRuntimeContext) : Prop :=
  ∃ memory knowledge, tagged memory knowledge <+: AgentRuntimeContext.tagged given ∧
    tagged memory knowledge ≠ [] ∧ Fits tools budget baseInput (cutTo given memory knowledge) ∧
    ¬Fits tools budget baseInput (unflagged given memory knowledge)

theorem flag_mono {α : Type} [DecidableEq α] {l kept fewer : List α} {flag : Bool}
    (hkept : kept <+: l) (hfewer : fewer <+: kept) (h : (flag || decide (kept ≠ l)) = true) :
    (flag || decide (fewer ≠ l)) = true := by
  rw [Bool.or_eq_true, decide_eq_true_iff] at h ⊢
  refine h.imp_right fun hne hsame => hne ?_
  subst hsame
  exact hkept.eq_of_length_le hfewer.length_le

theorem Fits.cutTo_mono {given : AgentRuntimeContext} {memory fewer : List MemoryContextItem}
    {knowledge less : List KnowledgeContextItem}
    (h : Fits tools budget baseInput (cutTo given memory knowledge))
    (hgiven : tagged memory knowledge <+: AgentRuntimeContext.tagged given)
    (hfewer : tagged fewer less <+: tagged memory knowledge) :
    Fits tools budget baseInput (cutTo given fewer less) := by
  obtain ⟨hmemory, hknowledge⟩ := prefix_of_tagged hgiven
  obtain ⟨hfewer, hless⟩ := prefix_of_tagged hfewer
  exact Fits.mono _ _ _ h hfewer hless (flag_mono hmemory hfewer) (flag_mono hknowledge hless)

theorem Fits.unflagged_mono {given : AgentRuntimeContext} {memory fewer : List MemoryContextItem}
    {knowledge less : List KnowledgeContextItem}
    (h : Fits tools budget baseInput (unflagged given memory knowledge))
    (hfewer : tagged fewer less <+: tagged memory knowledge) :
    Fits tools budget baseInput (unflagged given fewer less) := by
  obtain ⟨hfewer, hless⟩ := prefix_of_tagged hfewer
  exact Fits.mono _ _ _ h hfewer hless id id

theorem Fits.cutTo {given : AgentRuntimeContext} {memory : List MemoryContextItem}
    {knowledge : List KnowledgeContextItem}
    (h : Fits tools budget baseInput (unflagged given memory knowledge)) :
    Fits tools budget baseInput (cutTo given memory knowledge) :=
  Fits.mono _ _ _ h List.prefix_rfl List.prefix_rfl (by simp +contextual) (by simp +contextual)

variable {given : AgentRuntimeContext} {memory : List MemoryContextItem}
  {knowledge : List KnowledgeContextItem}

structure Left (tools : ProviderTools) (budget : AgentContextBudget) (baseInput : JsonDict)
    (given : AgentRuntimeContext) (memory : List MemoryContextItem)
    (knowledge : List KnowledgeContextItem) : Prop where
  isPrefix : tagged memory knowledge <+: AgentRuntimeContext.tagged given
  fits : tagged memory knowledge = [] ∨
    Fits tools budget baseInput (unflagged given memory knowledge)
  longest : ∀ more others, tagged more others <+: AgentRuntimeContext.tagged given →
    (tagged memory knowledge).length < (tagged more others).length →
    ¬Fits tools budget baseInput (unflagged given more others)

variable (tools budget baseInput) in
theorem fitRuntimeContext_left (given : AgentRuntimeContext) :
    Left tools budget baseInput given
      (fitRuntimeContext tools budget baseInput given.memoryContext
        given.knowledgeContext).memoryContext.items
      (fitRuntimeContext tools budget baseInput given.memoryContext
        given.knowledgeContext).knowledgeContext.items := by
  have htrimmed := fitRuntimeContext_trimmed tools budget baseInput given
  refine ⟨htrimmed.isPrefix, htrimmed.fits.imp_right fun h => ?_, fun more others hmore hlength => ?_⟩
  · have h' := h
    unfold AgentRuntimeContext.tagged at h'
    rw [memory_tagged, knowledge_tagged, Bool.not_eq_false', decide_eq_true_iff] at h'
    exact h'
  · have h := htrimmed.longest _ hmore hlength
    rw [memory_tagged, knowledge_tagged, Bool.not_eq_true', decide_eq_false_iff_not] at h
    exact h

theorem Left.fits_iff (h : Left tools budget baseInput given memory knowledge) :
    Fits tools budget baseInput (Context.cutTo given memory knowledge) ↔
      Fits tools budget baseInput (Context.cutTo given [] []) := by
  constructor
  · intro hfits
    exact hfits.cutTo_mono h.isPrefix List.nil_prefix
  · intro hnone
    rcases h.fits with hempty | hfits
    · have hnil : tagged memory knowledge = tagged [] [] := hempty
      obtain ⟨rfl, rfl⟩ := tagged_inj hnil
      exact hnone
    · exact hfits.cutTo

theorem Left.maximal_iff (h : Left tools budget baseInput given memory knowledge) :
    (∀ more others item, tagged more others = tagged memory knowledge ++ [item] →
      tagged more others <+: AgentRuntimeContext.tagged given →
      ¬Fits tools budget baseInput (Context.cutTo given more others)) ↔
      ¬FlagDecides tools budget baseInput given := by
  constructor
  · rintro hmaximal ⟨more, others, hgiven, hne, hfits, hover⟩
    have hshorter : (tagged memory knowledge).length < (tagged more others).length := by
      by_contra hlonger
      have hprefix := List.prefix_of_prefix_length_le hgiven h.isPrefix (Nat.le_of_not_lt hlonger)
      rcases h.fits with hempty | hleft
      · rw [hempty] at hprefix
        exact hne (List.prefix_nil.1 hprefix)
      · exact hover (hleft.unflagged_mono hprefix)
    -- one item more than what is left is still among these items
    obtain ⟨rest, hrest⟩ := List.prefix_of_prefix_length_le h.isPrefix hgiven hshorter.le
    obtain ⟨item, rest, rfl⟩ : ∃ item tail, rest = item :: tail := by
      cases rest with
      | nil =>
        rw [← hrest, List.append_nil] at hshorter
        exact absurd hshorter (Nat.lt_irrefl _)
      | cons item tail => exact ⟨item, tail, rfl⟩
    have hnext : tagged memory knowledge ++ [item] <+: tagged more others :=
      ⟨rest, by rw [← hrest, List.append_assoc, List.singleton_append]⟩
    obtain ⟨fewer, less, hsame⟩ := prefix_tagged hnext
    rw [hsame] at hnext
    exact hmaximal fewer less item hsame.symm (hnext.trans hgiven)
      (hfits.cutTo_mono hgiven hnext)
  · intro hflags more others item hsame hgiven hfits
    have hlength := congrArg List.length hsame
    rw [List.length_append, List.length_singleton] at hlength
    refine hflags ⟨more, others, hgiven, ?_, hfits, h.longest more others hgiven (by omega)⟩
    intro hempty
    rw [hempty] at hsame
    simp at hsame

/-- The last cut does what it is for if and only if the input without any item is within the
budget, where it is with empty contexts, and no flag decides what fits. -/
theorem fitRuntimeContext_fitted_iff (tools : ProviderTools) (budget : AgentContextBudget)
    (baseInput : JsonDict) (given : AgentRuntimeContext) :
    FittedTo tools budget baseInput given
        (fitRuntimeContext tools budget baseInput given.memoryContext given.knowledgeContext) ↔
      (Fits tools budget baseInput emptyContexts →
        Fits tools budget baseInput (cutTo given [] [])) ∧
      ¬FlagDecides tools budget baseInput given := by
  have hleft := fitRuntimeContext_left tools budget baseInput given
  have hsame := fitRuntimeContext_eq tools budget baseInput given
  generalize fitRuntimeContext tools budget baseInput given.memoryContext
    given.knowledgeContext = fitted at hleft hsame ⊢
  have hfits := hleft.fits_iff
  rw [← hsame] at hfits
  constructor
  · intro h
    exact ⟨fun hempty => hfits.1 (h.fits hempty), hleft.maximal_iff.1 h.maximal⟩
  · rintro ⟨hnone, hflags⟩
    obtain ⟨hmemory, hknowledge⟩ := prefix_of_tagged hleft.isPrefix
    refine ⟨fun hempty => hfits.2 (hnone hempty), hmemory, hknowledge, ?_, ?_,
      hleft.maximal_iff.2 hflags⟩
    · conv_lhs => rw [hsame]
      simp [Context.cutTo, withItems]
    · conv_lhs => rw [hsame]
      simp [Context.cutTo, withItems]

/-! ## A summary without items -/

def summaryOnly : AgentRuntimeContext where
  memoryContext := ⟨"The user prefers short answers in French and has asked twice for invoices " ++
    "of the last quarter.", [], .ok, false, [], []⟩
  knowledgeContext := emptyContexts.knowledgeContext

theorem fits_iff_length {maxTokens : Nat} (hpos : 0 < maxTokens) (hsmall : maxTokens < 2 ^ 50)
    (contexts : AgentRuntimeContext) :
    Fits tools ⟨maxTokens, 4⟩ baseInput contexts ↔
      (Json.write { item := ",", key := ":", number := tools.py.number }
        (.obj (inputWith tools baseInput contexts))).length ≤ maxTokens * 4 := by
  unfold Fits
  rw [Int.ofNat_le, ← length_stableJson]
  exact tokenEstimate_four_le_iff _ hpos hsmall

/-- The summary alone takes the input over its budget, where empty contexts do not. -/
theorem summary_outlives_items :
    ¬FittedTo sampleTools ⟨70, 4⟩ [] summaryOnly
      (fitRuntimeContext sampleTools ⟨70, 4⟩ [] summaryOnly.memoryContext
        summaryOnly.knowledgeContext) := by
  intro h
  have hempty : Fits sampleTools ⟨70, 4⟩ [] emptyContexts :=
    (fits_iff_length (by decide) (by decide) _).2 (by decide +kernel)
  have hover : ¬Fits sampleTools ⟨70, 4⟩ [] (cutTo summaryOnly [] []) := by
    rw [show (70 : Int) = ((70 : Nat) : Int) from rfl, fits_iff_length (by decide) (by decide)]
    decide +kernel
  have hfits := h.fits hempty
  rw [fitRuntimeContext_eq] at hfits
  exact hover ((fitRuntimeContext_left _ _ _ summaryOnly).fits_iff.1 hfits)

end OpenIntentRouter.Context
