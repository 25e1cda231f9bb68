import OpenIntentRouter.Core.DumpLengths
import OpenIntentRouter.Core.Placement
import OpenIntentRouter.Context.Budget

/-!
# Exhausted budgets

A request is refused when a candidate that must be included fits neither in full nor as a
reference. Those candidates come first, and each is placed in full where that fits: an early one
can take the room in which the references of the later ones would have fit. That is the only way
in which a request is refused although the wrapper and all references fit
(`refusesRightly_iff`).

No hypotheses: any candidates, budget, request, purpose and consumer. The rate of the budget
is taken as an exact rational, as in the bounds this is about.
-/
namespace OpenIntentRouter.Context

open Core Core.Placement Schemas Services Services.ContextPipelineService

variable (service : ContextPipelineService) (request : ContextRequest) (purpose : ContextPurpose)
  (consumer : ContextConsumer) (budget : ContextBudget)

/-! ## Items that fit together -/

/-- The projection with these items is within the budget, and so is every source that has one. -/
def FitsTogether (items : List JsonDict) : Prop :=
  payloadTokens service.py (projection request items) budget ≤ budget.maxTokens ∧
  ∀ source limit, budget.sourceBudgets.get? source = some limit →
    (∃ item ∈ items, Json.field item "source" = some (.str source)) →
    (sourceTokens service.py budget.charsPerToken items source : Int) ≤ limit

def NoLongerItem (item other : JsonDict) : Prop :=
  Json.field item "source" = Json.field other "source" ∧
    (stableJson service.py (.obj item)).length ≤ (stableJson service.py (.obj other)).length

variable {service request purpose consumer budget} {items others : List JsonDict}

theorem payloadTokens_mono
    (h : (Json.write { item := ",", key := ":", number := service.py.number }
        (.arr (items.map .obj))).length ≤
      (Json.write { item := ",", key := ":", number := service.py.number }
        (.arr (others.map .obj))).length) :
    payloadTokens service.py (projection request items) budget ≤
      payloadTokens service.py (projection request others) budget := by
  refine tokenEstimate_mono _ _ ?_
  rw [length_stableJson, length_stableJson]
  refine JsonDict.NoLonger.length_le (.cons ⟨rfl, Nat.le_refl _⟩ (.cons ⟨rfl, ?_⟩ .nil))
  exact JsonDict.NoLonger.length_le (.cons ⟨rfl, h⟩ .nil)

theorem sourceTokens_mono (h : List.Forall₂ (NoLongerItem service) items others)
    (charsPerToken : Rat) (source : String) :
    sourceTokens service.py charsPerToken items source ≤
      sourceTokens service.py charsPerToken others source := by
  unfold sourceTokens
  induction h with
  | nil => exact Nat.le_refl _
  | cons hitem _ ih =>
    rw [List.filter_cons, List.filter_cons, hitem.1]
    split_ifs
    · rw [List.map_cons, List.map_cons, List.sum_cons, List.sum_cons]
      exact Nat.add_le_add (tokenEstimate_mono _ _ hitem.2) ih
    · exact ih

theorem FitsTogether.mono (h : FitsTogether service request budget others)
    (hitems : List.Forall₂ (NoLongerItem service) items others) :
    FitsTogether service request budget items := by
  refine ⟨(payloadTokens_mono (Json.length_write_arr_le _ ?_)).trans h.1,
    fun source limit hlimit ⟨item, hitem, hsource⟩ => ?_⟩
  · refine List.forall₂_map_left_iff.2 (List.forall₂_map_right_iff.2 (hitems.imp ?_))
    intro item other hlonger
    rw [← length_stableJson, ← length_stableJson]
    exact hlonger.2
  · have hother : ∃ other ∈ others, Json.field other "source" = some (.str source) := by
      obtain ⟨n, hn, hget⟩ := List.getElem_of_mem hitem
      have hpair := (List.forall₂_iff_get.1 hitems).2 n hn (hitems.length_eq ▸ hn)
      simp only [List.get_eq_getElem, hget] at hpair
      exact ⟨_, List.getElem_mem _, hpair.1 ▸ hsource⟩
    have hsum := sourceTokens_mono hitems budget.charsPerToken source
    have := h.2 source limit hlimit hother
    omega

theorem FitsTogether.initial (h : FitsTogether service request budget others)
    (hitems : items <+: others) : FitsTogether service request budget items := by
  obtain ⟨more, rfl⟩ := hitems
  refine ⟨(payloadTokens_mono ?_).trans h.1, fun source limit hlimit ⟨item, hitem, hsource⟩ => ?_⟩
  · exact Json.length_write_arr_prefix_le _ ⟨more.map .obj, (List.map_append ..).symm⟩
  · have hwhole := h.2 source limit hlimit ⟨item, List.mem_append_left _ hitem, hsource⟩
    have hsum : sourceTokens service.py budget.charsPerToken (items ++ more) source =
        sourceTokens service.py budget.charsPerToken items source +
          sourceTokens service.py budget.charsPerToken more source := by simp [sourceTokens]
    omega

variable (service request purpose consumer budget)

def fullForm (candidate : ContextCandidate) : JsonDict :=
  (service.renderCandidate candidate purpose consumer budget).1

def shorterForm (candidate : ContextCandidate) : JsonDict :=
  if (stableJson service.py (.obj (fullForm service purpose consumer budget candidate))).length ≤
      (stableJson service.py (.obj (minimalRendered candidate))).length then
    fullForm service purpose consumer budget candidate
  else minimalRendered candidate

theorem sameSource (candidate : ContextCandidate) :
    Json.field (fullForm service purpose consumer budget candidate) "source" =
      Json.field (minimalRendered candidate) "source" :=
  (Renders.source (.inl rfl : Renders service purpose consumer budget candidate _)).trans
    (Renders.source (.inr rfl : Renders service purpose consumer budget candidate _)).symm

theorem shorterForm_full (candidate : ContextCandidate) :
    NoLongerItem service (shorterForm service purpose consumer budget candidate)
      (fullForm service purpose consumer budget candidate) := by
  unfold shorterForm
  split_ifs with h
  · exact ⟨rfl, Nat.le_refl _⟩
  · exact ⟨(sameSource service purpose consumer budget candidate).symm, (Nat.lt_of_not_le h).le⟩

theorem shorterForm_brief (candidate : ContextCandidate) :
    NoLongerItem service (shorterForm service purpose consumer budget candidate)
      (minimalRendered candidate) := by
  unfold shorterForm
  split_ifs with h
  · exact ⟨sameSource service purpose consumer budget candidate, h⟩
  · exact ⟨rfl, Nat.le_refl _⟩

noncomputable def candidateForms : Forms ContextCandidate JsonDict where
  full := fullForm service purpose consumer budget
  brief := minimalRendered
  Fits := FitsTogether service request budget
  decFits := Classical.decPred _
  shorter := shorterForm service purpose consumer budget
  shorter_eq := fun candidate => by
    unfold shorterForm
    split_ifs
    · exact .inl rfl
    · exact .inr rfl
  NoLonger := NoLongerItem service
  refl := fun _ => ⟨rfl, Nat.le_refl _⟩
  shorter_full := shorterForm_full service purpose consumer budget
  shorter_brief := shorterForm_brief service purpose consumer budget
  fits_mono := fun hitems h => h.mono hitems
  fits_initial := fun hitems h => h.initial hitems

theorem candidateForms_fits (items : List JsonDict) :
    (candidateForms service request purpose consumer budget).Fits items ↔
      FitsTogether service request budget items := Iff.rfl

theorem candidateForms_shorter :
    (candidateForms service request purpose consumer budget).shorter =
      shorterForm service purpose consumer budget := by
  simp only [candidateForms]

/-- The candidates are all placed exactly when they fit in their shorter forms and none crowds
out the others. -/
theorem placed_iff {l : List ContextCandidate} (h : FitsTogether service request budget []) :
    (∃ placed, l.foldlM (candidateForms service request purpose consumer budget).place [] =
      some placed) ↔
      FitsTogether service request budget
        (l.map (shorterForm service purpose consumer budget)) ∧
      ¬(candidateForms service request purpose consumer budget).Crowds [] l := by
  rw [Forms.isSome_iff ((candidateForms_fits service request purpose consumer budget []).2 h),
    candidateForms_fits, List.nil_append, candidateForms_shorter]

/-! ## Candidates that must be included -/

variable {service request purpose consumer budget} {state : Selection}
  {shown : List (ContextCandidate × JsonDict)} {candidate : ContextCandidate}

theorem Within.fitsTogether (h : Within service request purpose consumer budget state shown) :
    FitsTogether service request budget (shown.map (·.2)) := by
  refine ⟨h.payload ▸ h.fits, fun source limit hlimit ⟨item, hitem, hsource⟩ => ?_⟩
  obtain ⟨p, hp, rfl⟩ := List.mem_map.1 hitem
  rw [(h.renders p hp).source, Option.some.injEq, Json.str.injEq] at hsource
  exact h.sources source limit hlimit ⟨p, hp, hsource⟩

/-- One more item fits if the projection is within its budget and the item within its source's. -/
theorem Within.fits_iff (h : Within service request purpose consumer budget state shown)
    {rendered : JsonDict} (hrenders : Renders service purpose consumer budget candidate rendered) :
    FitsTogether service request budget (shown.map (·.2) ++ [rendered]) ↔
      sourceOver budget state.sourceUsed candidate.source
        (payloadTokens service.py rendered budget) = false ∧
      payloadTokens service.py (withProjectedItem state.payload rendered) budget ≤
        budget.maxTokens := by
  rw [h.payload, withProjectedItem_projection]
  constructor
  · rintro ⟨hfits, hsources⟩
    refine ⟨?_, hfits⟩
    unfold sourceOver
    cases hlimit : budget.sourceBudgets.get? candidate.source with
    | none => rfl
    | some limit =>
      have hsource := hsources _ limit hlimit ⟨rendered, by simp, hrenders.source⟩
      rw [sourceTokens_append, hrenders.source, if_pos rfl] at hsource
      rw [Option.any_some, decide_eq_false_iff_not, Int.not_lt, h.used]
      exact hsource
  · rintro ⟨hsource, hfits⟩
    have haccepted : Within service request purpose consumer budget
        (service.accept state candidate
          (service.renderCandidate candidate purpose consumer budget).2 rendered
          _) _ :=
      h.accept hrenders hsource (by rw [h.payload, withProjectedItem_projection]; exact hfits)
    have htogether := haccepted.fitsTogether
    rw [List.map_append] at htogether
    exact htogether

/-- A candidate that must be included is placed, or the request is refused. -/
theorem selectCandidate_place (h : Within service request purpose consumer budget state shown)
    (hmust : candidate.mustInclude = true) :
    match (candidateForms service request purpose consumer budget).place (shown.map (·.2)) candidate
    with
    | some placed => ∃ state' rendered,
        service.selectCandidate purpose consumer budget state candidate = .ok state' ∧
        Within service request purpose consumer budget state' (shown ++ [(candidate, rendered)]) ∧
        placed = (shown ++ [(candidate, rendered)]).map (·.2)
    | none => ∃ exhausted,
        service.selectCandidate purpose consumer budget state candidate = .error exhausted := by
  have hfull := h.fits_iff (.inl rfl : Renders service purpose consumer budget candidate _)
  have hbrief := h.fits_iff (.inr rfl : Renders service purpose consumer budget candidate _)
  by_cases hfits : FitsTogether service request budget
      (shown.map (·.2) ++ [(service.renderCandidate candidate purpose consumer budget).1])
  · obtain ⟨hsource, htokens⟩ := hfull.1 hfits
    have hplace : (candidateForms service request purpose consumer budget).place (shown.map (·.2))
        candidate = _ := Forms.place_full hfits
    rw [hplace]
    unfold selectCandidate
    dsimp only
    rw [hsource, if_pos (by simpa using htokens)]
    exact ⟨_, _, rfl, h.accept (.inl rfl) hsource htokens, by rw [List.map_append]; rfl⟩
  · by_cases hminimal : FitsTogether service request budget
        (shown.map (·.2) ++ [minimalRendered candidate])
    · obtain ⟨hsource, htokens⟩ := hbrief.1 hminimal
      have hplace : (candidateForms service request purpose consumer budget).place
          (shown.map (·.2)) candidate = _ := Forms.place_brief hfits hminimal
      rw [hplace]
      unfold selectCandidate
      dsimp only
      rw [if_neg fun hroom => hfits (hfull.2 (by simpa using hroom)), if_pos hmust, hsource,
        if_neg (by simpa using htokens)]
      exact ⟨_, _, rfl, h.accept (.inr rfl) hsource htokens, by rw [List.map_append]; rfl⟩
    · have hplace : (candidateForms service request purpose consumer budget).place
          (shown.map (·.2)) candidate = _ := Forms.place_none hfits hminimal
      rw [hplace]
      unfold selectCandidate
      dsimp only
      rw [if_neg fun hroom => hfits (hfull.2 (by simpa using hroom)), if_pos hmust, if_pos]
      · exact ⟨_, rfl⟩
      · by_contra hroom
        exact hminimal (hbrief.2 (by simpa [and_comm] using hroom))

theorem foldlM_place {l : List ContextCandidate}
    (h : Within service request purpose consumer budget state shown)
    (hmust : ∀ candidate ∈ l, candidate.mustInclude = true) :
    match l.foldlM (candidateForms service request purpose consumer budget).place
        (shown.map (·.2)) with
    | some _ => ∃ state',
        l.foldlM (service.selectCandidate purpose consumer budget) state = .ok state'
    | none => ∃ exhausted,
        l.foldlM (service.selectCandidate purpose consumer budget) state = .error exhausted := by
  induction l generalizing state shown with
  | nil => exact ⟨state, rfl⟩
  | cons candidate rest ih =>
    have hplace := selectCandidate_place h (hmust candidate List.mem_cons_self)
    rw [List.foldlM_cons, List.foldlM_cons]
    cases hnext : (candidateForms service request purpose consumer budget).place (shown.map (·.2))
        candidate with
    | none =>
      rw [hnext] at hplace
      obtain ⟨exhausted, hrefused⟩ := hplace
      exact ⟨exhausted, by rw [hrefused]; rfl⟩
    | some placed =>
      rw [hnext] at hplace
      obtain ⟨state', rendered, hok, hwithin, rfl⟩ := hplace
      rw [hok]
      exact ih hwithin fun c hc => hmust c (List.mem_cons_of_mem _ hc)

variable (service purpose consumer budget) in
theorem foldlM_optional {l : List ContextCandidate} (state : Selection)
    (hmust : ∀ candidate ∈ l, candidate.mustInclude = false) :
    ∃ state', l.foldlM (service.selectCandidate purpose consumer budget) state = .ok state' := by
  induction l generalizing state with
  | nil => exact ⟨state, rfl⟩
  | cons candidate rest ih =>
    have hoptional := hmust candidate List.mem_cons_self
    obtain ⟨state', hok⟩ : ∃ state',
        service.selectCandidate purpose consumer budget state candidate = .ok state' := by
      unfold selectCandidate
      dsimp only
      split_ifs with hfits hmust
      · exact ⟨_, rfl⟩
      · rw [hoptional] at hmust
        cases hmust
      · rw [hoptional] at hmust
        cases hmust
      · exact ⟨_, rfl⟩
      · exact ⟨_, rfl⟩
    rw [List.foldlM_cons, hok]
    exact ih state' fun c hc => hmust c (List.mem_cons_of_mem _ hc)

/-! ## Refusals -/

/-- The candidates that must be included, in the order in which they are placed. -/
def mandatory (candidates : List ContextCandidate) : List ContextCandidate :=
  (sortCandidates candidates).filter (·.mustInclude)

theorem filter_first {α : Type} {p : α → Bool} {l : List α}
    (h : l.Pairwise fun a b => p b = true → p a = true) : l = l.filter p ++ l.filter (!p ·) := by
  induction l with
  | nil => rfl
  | cons a rest ih =>
    obtain ⟨hfirst, hrest⟩ := List.pairwise_cons.1 h
    by_cases ha : p a = true
    · rw [List.filter_cons_of_pos ha, List.filter_cons_of_neg (by simpa using ha), List.cons_append,
        ← ih hrest]
    · have hnone : rest.filter p = [] :=
        List.filter_eq_nil_iff.2 fun b hb hpb => ha (hfirst b hb hpb)
      have hall : rest.filter (!p ·) = rest :=
        List.filter_eq_self.2 fun b hb => by
          simpa using fun hpb => ha (hfirst b hb hpb)
      rw [List.filter_cons_of_neg ha, hnone, List.filter_cons_of_pos (by simpa using ha), hall,
        List.nil_append]

theorem sortCandidates_eq (candidates : List ContextCandidate) :
    sortCandidates candidates =
      mandatory candidates ++ (sortCandidates candidates).filter (!·.mustInclude) := by
  refine filter_first (List.Pairwise.imp ?_ (List.pairwise_insertionSort
    (fun a b => candidateSortKey a ≤ candidateSortKey b) candidates))
  intro a b hle hb
  by_contra ha
  rw [Bool.not_eq_true] at ha
  have hfirst := (Prod.Lex.le_iff.1 hle)
  simp [candidateSortKey, ha, hb] at hfirst

def startState (request : ContextRequest) : Selection :=
  ⟨projection request [], [], [], [], .empty, .empty, 0⟩

variable (purpose consumer) in
theorem Within.start
    (h : payloadTokens service.py (projection request []) budget ≤ budget.maxTokens) :
    Within service request purpose consumer budget (startState request) [] := by
  refine ⟨rfl, h, (fun p hp => by cases hp), fun source => rfl, ?_⟩
  rintro source limit - ⟨p, hp, -⟩
  cases hp

variable {candidates : List ContextCandidate}

theorem selectAndProject_ok_of {last : Selection}
    (h : payloadTokens service.py (projection request []) budget ≤ budget.maxTokens)
    (hlast : (sortCandidates candidates).foldlM (service.selectCandidate purpose consumer budget)
      (startState request) = .ok last) :
    ∃ result, service.selectAndProject request purpose consumer candidates budget = .ok result := by
  unfold selectAndProject
  dsimp only
  rw [if_neg (by exact Nat.not_lt.2 h)]
  exact ⟨_, Except.bind_eq_ok.2 ⟨last, hlast, rfl⟩⟩

theorem selectAndProject_error_of {exhausted : ContextBudgetExhausted}
    (hrefused : (sortCandidates candidates).foldlM (service.selectCandidate purpose consumer budget)
      (startState request) = .error exhausted) :
    ∃ reason, service.selectAndProject request purpose consumer candidates budget =
      .error reason := by
  unfold selectAndProject
  dsimp only
  split_ifs
  · exact ⟨_, rfl⟩
  · exact ⟨exhausted, Except.bind_eq_error.2 (.inl hrefused)⟩

/-- A request is refused when the wrapper is too long, or when not all candidates that must be
included are placed. -/
theorem selectAndProject_error_iff (service : ContextPipelineService) (request : ContextRequest)
    (purpose : ContextPurpose) (consumer : ContextConsumer) (candidates : List ContextCandidate)
    (budget : ContextBudget) :
    (∃ exhausted, service.selectAndProject request purpose consumer candidates budget =
      .error exhausted) ↔
    budget.maxTokens < payloadTokens service.py (projection request []) budget ∨
      ¬∃ placed, (mandatory candidates).foldlM
        (candidateForms service request purpose consumer budget).place [] = some placed := by
  by_cases hlong : budget.maxTokens < payloadTokens service.py (projection request []) budget
  · refine iff_of_true ⟨.wrapper, ?_⟩ (.inl hlong)
    unfold selectAndProject
    dsimp only
    exact if_pos hlong
  · have hplace := foldlM_place (l := mandatory candidates)
      (Within.start purpose consumer (Nat.not_lt.1 hlong)) fun c hc => (List.mem_filter.1 hc).2
    rw [List.map_nil] at hplace
    cases hplaced : (mandatory candidates).foldlM
        (candidateForms service request purpose consumer budget).place [] with
    | none =>
      rw [hplaced] at hplace
      obtain ⟨exhausted, hrefused⟩ := hplace
      have hfold : (sortCandidates candidates).foldlM
          (service.selectCandidate purpose consumer budget) (startState request) =
            .error exhausted := by
        rw [sortCandidates_eq, List.foldlM_append, hrefused]
        rfl
      exact iff_of_true (selectAndProject_error_of hfold) (.inr (by simp))
    | some placed =>
      rw [hplaced] at hplace
      obtain ⟨state', hok⟩ := hplace
      have hoptional : ∀ c ∈ (sortCandidates candidates).filter (!·.mustInclude),
          c.mustInclude = false := fun c hc => by simpa using (List.mem_filter.1 hc).2
      obtain ⟨last, hlast⟩ := foldlM_optional service purpose consumer budget state' hoptional
      have hfold : (sortCandidates candidates).foldlM
          (service.selectCandidate purpose consumer budget) (startState request) = .ok last := by
        rw [sortCandidates_eq, List.foldlM_append, hok]
        exact hlast
      obtain ⟨result, hresult⟩ := selectAndProject_ok_of (Nat.not_lt.1 hlong) hfold
      refine iff_of_false ?_ (by rintro (h | h); exacts [hlong h, h ⟨placed, rfl⟩])
      rintro ⟨exhausted, hrefused⟩
      rw [hresult] at hrefused
      cases hrefused

/-- The references of the candidates that must be included do not fit: with the wrapper they are
over the budget, or those of a source are over its budget. -/
def ReferencesTooLong (service : ContextPipelineService) (request : ContextRequest)
    (candidates : List ContextCandidate) (budget : ContextBudget) : Prop :=
  budget.maxTokens < payloadTokens service.py
    (projection request ((mandatory candidates).map minimalRendered)) budget ∨
  ∃ source limit, budget.sourceBudgets.get? source = some limit ∧
    limit < (sourceTokens service.py budget.charsPerToken
      ((mandatory candidates).map minimalRendered) source : Int)

/-- Requests are refused only for a wrapper or for references that do not fit. -/
def RefusesRightly (service : ContextPipelineService) (request : ContextRequest)
    (purpose : ContextPurpose) (consumer : ContextConsumer) (candidates : List ContextCandidate)
    (budget : ContextBudget) : Prop :=
  ∀ exhausted, service.selectAndProject request purpose consumer candidates budget =
      .error exhausted →
    budget.maxTokens < payloadTokens service.py (projection request []) budget ∨
      ReferencesTooLong service request candidates budget

/-- A candidate that must be included is rendered in full, beside what is placed before it,
although those after it do not fit there, not even in the shorter of their forms. -/
def CrowdsOut (service : ContextPipelineService) (request : ContextRequest)
    (purpose : ContextPurpose) (consumer : ContextConsumer) (candidates : List ContextCandidate)
    (budget : ContextBudget) : Prop :=
  (candidateForms service request purpose consumer budget).Crowds [] (mandatory candidates)

/-- A request is refused rightly if and only if the wrapper or the references do not fit, or no
candidate that must be included crowds out others. -/
theorem refusesRightly_iff (service : ContextPipelineService) (request : ContextRequest)
    (purpose : ContextPurpose) (consumer : ContextConsumer) (candidates : List ContextCandidate)
    (budget : ContextBudget) :
    RefusesRightly service request purpose consumer candidates budget ↔
      (budget.maxTokens < payloadTokens service.py (projection request []) budget ∨
        ReferencesTooLong service request candidates budget) ∨
      ¬CrowdsOut service request purpose consumer candidates budget := by
  have herror := selectAndProject_error_iff service request purpose consumer candidates budget
  unfold CrowdsOut
  by_cases hrefuse : budget.maxTokens < payloadTokens service.py (projection request []) budget ∨
      ReferencesTooLong service request candidates budget
  · exact iff_of_true (fun _ _ => hrefuse) (.inl hrefuse)
  · have hroom := not_or.1 hrefuse
    obtain ⟨hbudget, hsources⟩ := not_or.1 hroom.2
    have hreferences : FitsTogether service request budget
        ((mandatory candidates).map minimalRendered) := by
      refine ⟨Nat.not_lt.1 hbudget, fun source limit hlimit _ => Int.not_lt.1 fun hover => ?_⟩
      exact hsources ⟨source, limit, hlimit, hover⟩
    have hshorter : FitsTogether service request budget
        ((mandatory candidates).map (shorterForm service purpose consumer budget)) := by
      refine hreferences.mono (List.forall₂_map_left_iff.2 (List.forall₂_map_right_iff.2 ?_))
      exact List.forall₂_same.2 fun candidate _ =>
        shorterForm_brief service purpose consumer budget candidate
    have hplaced := placed_iff service request purpose consumer budget
      (l := mandatory candidates) (hreferences.initial List.nil_prefix)
    constructor
    · intro hrightly
      refine .inr (hplaced.1 ?_).2
      by_contra hnone
      obtain ⟨exhausted, hrefused⟩ := herror.2 (.inr hnone)
      exact hrefuse (hrightly exhausted hrefused)
    · rintro (h | hcrowds) exhausted hrefused
      · exact absurd h hrefuse
      · rcases herror.1 ⟨exhausted, hrefused⟩ with hlong | hnone
        · exact .inl hlong
        · exact absurd (hplaced.2 ⟨hshorter, hcrowds⟩) hnone

/-! ## A plan that crowds out a goal -/

def mandatoryCandidate (candidateId content : String) (priority : Nat) : ContextCandidate :=
  { document candidateId with
    source := "current_plan", scope := "plan", content, consumers := [], priority, relevance := 1
    mustInclude := true }

def planCandidate : ContextCandidate :=
  mandatoryCandidate "plan" "Book the flight, then the hotel, then tell Ada about both of them." 90

def goalCandidate : ContextCandidate := mandatoryCandidate "goal" "" 50

def planBudget : ContextBudget :=
  { negativeBudget with
    maxTokens := 100
    sourceBudgets := .empty
    maxTokens_pos := Nat.succ_pos 99 }

theorem plan_fits_iff (items : List JsonDict) :
    FitsTogether sampleService sampleRequest planBudget items ↔
      (Json.write { item := ",", key := ":", number := sampleService.py.number }
        (.obj (projection sampleRequest items))).length ≤ 400 := by
  have htokens : payloadTokens sampleService.py (projection sampleRequest items) planBudget ≤ 100 ↔
      (Json.write { item := ",", key := ":", number := sampleService.py.number }
        (.obj (projection sampleRequest items))).length ≤ 400 := by
    rw [← length_stableJson]
    exact tokenEstimate_four_le_iff _ (by decide) (by decide)
  refine ⟨fun h => htokens.1 h.1, fun h => ⟨htokens.2 h, fun source limit hlimit => ?_⟩⟩
  exact absurd hlimit (by simp [planBudget])

/-- The wrapper and both references fit, but the plan is placed in full and the goal refused. -/
theorem plan_crowds_out_goal :
    ¬RefusesRightly sampleService sampleRequest .routeDecision .router
      [planCandidate, goalCandidate] planBudget := by
  intro hrightly
  have hmandatory : mandatory [planCandidate, goalCandidate] = [planCandidate, goalCandidate] := by
    decide
  have hreferences : FitsTogether sampleService sampleRequest planBudget
      ([planCandidate, goalCandidate].map minimalRendered) :=
    (plan_fits_iff _).2 (by decide +kernel)
  have hplan : FitsTogether sampleService sampleRequest planBudget
      [fullForm sampleService .routeDecision .router planBudget planCandidate] :=
    (plan_fits_iff _).2 (by decide +kernel)
  have hgoal : ¬FitsTogether sampleService sampleRequest planBudget
      [fullForm sampleService .routeDecision .router planBudget planCandidate,
        shorterForm sampleService .routeDecision .router planBudget goalCandidate] := by
    unfold shorterForm
    split_ifs
    · exact fun h => absurd ((plan_fits_iff _).1 h) (by decide +kernel)
    · exact fun h => absurd ((plan_fits_iff _).1 h) (by decide +kernel)
  have hcrowds : (candidateForms sampleService sampleRequest .routeDecision .router
      planBudget).Crowds [] [planCandidate, goalCandidate] :=
    ⟨[], planCandidate, [goalCandidate], [], rfl, rfl, hplan, hgoal⟩
  have hnone := fun hplaced => ((placed_iff sampleService sampleRequest .routeDecision .router
    planBudget (hreferences.initial List.nil_prefix)).1 hplaced).2 hcrowds
  obtain ⟨exhausted, hrefused⟩ := (selectAndProject_error_iff sampleService sampleRequest
    .routeDecision .router [planCandidate, goalCandidate] planBudget).2
      (.inr (hmandatory.symm ▸ hnone))
  rcases hrightly exhausted hrefused with hwrapper | hbudget | ⟨source, limit, hlimit, -⟩
  · exact Nat.not_lt.2 (hreferences.initial List.nil_prefix).1 hwrapper
  · rw [hmandatory] at hbudget
    exact Nat.not_lt.2 hreferences.1 hbudget
  · exact absurd hlimit (by simp [planBudget])

end OpenIntentRouter.Context
