import OpenIntentRouter.Candidates.Soundness
import OpenIntentRouter.Services.ContextPipelineService

/-!
# The budget of the projection

The selection takes the candidates in order. Each is rendered, and if that does not
fit and it must be included, its reference is; `shown` are the candidates projected so
far with what is projected of them.

No hypotheses: any settings, budget, candidates, purpose and consumer, and any function that
prints JSON.

* `selectCandidate_ok`: what one candidate does;
* `Within`: the projection is that of what is shown, within the budget of the whole and
  of each source;
* `selectAndProject_within`: the projection that is returned;
* `selectAndProject_all`: where there is room, it shows every candidate.
-/
namespace OpenIntentRouter.Context

open Core Core.Except Schemas Services Services.ContextPipelineService

/-! ## Texts within a budget -/

theorem rate_pos (arithmetic : Arithmetic) (charsPerToken : Rat) :
    0 < max charsPerToken (arithmetic.number (1 / 10)) := by
  refine lt_max_of_lt_right ?_
  cases arithmetic with
  | exact => exact by norm_num [Arithmetic.number]
  | double => exact by decide +kernel

theorem tokenEstimate_mono (arithmetic : Arithmetic) {v w : String} (charsPerToken : Rat)
    (h : v.length ≤ w.length) :
    tokenEstimate arithmetic v charsPerToken ≤ tokenEstimate arithmetic w charsPerToken := by
  unfold tokenEstimate
  split_ifs with hv hw hw
  · exact Nat.le_refl _
  · exact Nat.zero_le _
  · rw [hw, String.length_empty, Nat.le_zero, String.length_eq_zero_iff] at h
    exact absurd h hv
  · exact max_le_max (Nat.le_refl 1)
      (arithmetic.ceilDiv_mono (rate_pos arithmetic charsPerToken).le h)

variable {value : String} {tokens : Nat} {shown : List (ContextCandidate × JsonDict)}

/-- A text of no more characters than the tokens count for is estimated at no more tokens. -/
theorem tokenEstimate_le (arithmetic : Arithmetic) {charsPerToken : Rat} (hpos : 0 < tokens)
    (hlength : value.length < 2 ^ 53) (htokens : tokens < 2 ^ 53)
    (h : (value.length : Rat) ≤ tokens * charsPerToken) :
    tokenEstimate arithmetic value charsPerToken ≤ tokens := by
  unfold tokenEstimate
  split_ifs
  · exact Nat.zero_le _
  · refine max_le hpos (arithmetic.ceilDiv_le (rate_pos arithmetic charsPerToken) hlength htokens ?_)
    exact h.trans (mul_le_mul_of_nonneg_left (le_max_left _ _) (Nat.cast_nonneg tokens))

theorem max_four (arithmetic : Arithmetic) : max 4 (arithmetic.number (1 / 10)) = 4 := by
  refine max_eq_left ?_
  calc arithmetic.number (1 / 10) ≤ arithmetic.number (4 : Nat) :=
        arithmetic.number_mono (by norm_num) (by norm_num)
    _ = 4 := arithmetic.number_natCast (by norm_num)

/-- Four characters for a token, the rate of the settings, is exact in either arithmetic. -/
theorem tokenEstimate_four_le_iff (arithmetic : Arithmetic) (hpos : 0 < tokens)
    (hsmall : tokens < 2 ^ 50) :
    tokenEstimate arithmetic value 4 ≤ tokens ↔ value.length ≤ tokens * 4 := by
  constructor
  · intro h
    by_contra hlong
    have hne : value ≠ "" := by
      rintro rfl
      exact hlong (Nat.zero_le _)
    unfold tokenEstimate at h
    rw [if_neg hne, max_four] at h
    have hceil : tokens < arithmetic.ceilDiv (tokens * 4 + 1) 4 := by
      rw [show (4 : Rat) = 2 ^ 2 by norm_num, arithmetic.ceilDiv_two_pow (by omega) (by norm_num),
        Nat.lt_ceil, lt_div_iff₀ (by norm_num)]
      push_cast
      linarith
    have hmono : arithmetic.ceilDiv (tokens * 4 + 1) 4 ≤ arithmetic.ceilDiv value.length 4 :=
      arithmetic.ceilDiv_mono (by norm_num) (by omega)
    have := (le_max_right _ _).trans h
    omega
  · intro h
    refine tokenEstimate_le arithmetic hpos (by omega) (by omega) ?_
    exact_mod_cast h

theorem tokenEstimate_exact_le_iff {charsPerToken : Rat} (h : 0 < tokens) :
    tokenEstimate .exact value charsPerToken ≤ tokens ↔
      (value.length : Rat) ≤ tokens * max charsPerToken (1 / 10) := by
  have hpos : (0 : Rat) < max charsPerToken (1 / 10) := lt_max_of_lt_right (by norm_num)
  unfold tokenEstimate
  split
  · next hvalue =>
    subst hvalue
    simp only [Nat.zero_le, true_iff]
    show ((0 : Nat) : Rat) ≤ _
    rw [Nat.cast_zero]
    exact mul_nonneg (Nat.cast_nonneg tokens) hpos.le
  · rw [max_le_iff]
    refine (and_iff_right h).trans ?_
    unfold Arithmetic.ceilDiv
    rw [Nat.ceil_le]
    exact div_le_iff₀ hpos

theorem length_stableJson (py : Python) (value : Json) :
    (stableJson py value).length =
      (Json.write { item := ",", key := ":", number := py.number } value).length := by
  unfold stableJson compactDumps Json.dumps
  rw [String.length_ofList, Json.length_write_sortKeys]

/-! ## Projections -/

def projection (request : ContextRequest) (items : List JsonDict) : JsonDict :=
  [("request", .obj (requestControlProjection request)),
    ("context", .obj [("items", .arr (items.map .obj))])]

theorem withProjectedItem_projection (request : ContextRequest) (items : List JsonDict)
    (item : JsonDict) :
    withProjectedItem (projection request items) item = projection request (items ++ [item]) := by
  simp [withProjectedItem, projection, Json.field, JsonDict.merge, JsonDict.set]

def projectedItems (payload : JsonDict) : List JsonDict :=
  match Json.field payload "context" with
  | some (.obj context) =>
    match Json.field context "items" with
    | some (.arr items) =>
      items.filterMap fun item =>
        match item with
        | .obj fields => some fields
        | _ => none
    | _ => []
  | _ => []

theorem projectedItems_projection (request : ContextRequest) (items : List JsonDict) :
    projectedItems (projection request items) = items := by
  simp [projectedItems, projection, Json.field]

def sourceTokens (py : Python) (charsPerToken : Rat) (items : List JsonDict) (source : String) :
    Nat :=
  ((items.filter fun item => Json.field item "source" = some (.str source)).map fun item =>
    tokenEstimate py.arithmetic (stableJson py (.obj item)) charsPerToken).sum

theorem sourceTokens_append (py : Python) (charsPerToken : Rat) (items : List JsonDict)
    (item : JsonDict) (source : String) :
    sourceTokens py charsPerToken (items ++ [item]) source =
      sourceTokens py charsPerToken items source +
        if Json.field item "source" = some (.str source) then
          tokenEstimate py.arithmetic (stableJson py (.obj item)) charsPerToken
        else 0 := by
  unfold sourceTokens
  rw [List.filter_append, List.map_append, List.sum_append]
  by_cases h : Json.field item "source" = some (.str source)
  · simp [h]
  · simp [h]

/-! ## One candidate -/

variable {service : ContextPipelineService} {request : ContextRequest} {purpose : ContextPurpose}
  {consumer : ContextConsumer} {budget : ContextBudget} {state state' : Selection}
  {candidate : ContextCandidate} {candidates : List ContextCandidate}

/-- What the projection may show of a candidate: it, in full or cut, or its reference. -/
def Renders (service : ContextPipelineService) (purpose : ContextPurpose)
    (consumer : ContextConsumer) (budget : ContextBudget) (candidate : ContextCandidate)
    (rendered : JsonDict) : Prop :=
  rendered = (service.renderCandidate candidate purpose consumer budget).1 ∨
    rendered = minimalRendered candidate

theorem Renders.source {rendered : JsonDict}
    (h : Renders service purpose consumer budget candidate rendered) :
    Json.field rendered "source" = some (.str candidate.source) := by
  rcases h with rfl | rfl
  · simp [renderCandidate, Json.field]
  · simp [minimalRendered, Json.field]

def ItemOf (item : ContextItem) (candidate : ContextCandidate) : Prop :=
  item.itemId = candidate.candidateId ∧ item.source = candidate.source ∧
    item.authority = candidate.authority ∧ item.sourceRef = candidate.sourceRef

/-- A candidate is projected within both budgets, or dropped. -/
theorem selectCandidate_ok
    (h : service.selectCandidate purpose consumer budget state candidate = .ok state') :
    (∃ item rendered, ItemOf item candidate ∧
      Renders service purpose consumer budget candidate rendered ∧
      let tokens := payloadTokens service.py rendered budget
      sourceOver budget state.sourceUsed candidate.source tokens = false ∧
      payloadTokens service.py (withProjectedItem state.payload rendered) budget ≤ budget.maxTokens ∧
      state' = service.accept state candidate item rendered tokens) ∨
    candidate.mustInclude = false ∧ ∃ item rendered tokens reason,
      state' = service.drop state candidate item rendered tokens reason := by
  unfold selectCandidate at h
  dsimp only at h
  split_ifs at h with hfits hmust hminimal
  · simp only [Bool.and_eq_true, Bool.not_eq_true', decide_eq_false_iff_not, Nat.not_lt] at hfits
    cases h
    exact .inl ⟨_, _, ⟨rfl, rfl, rfl, rfl⟩, .inl rfl, hfits.1, hfits.2, rfl⟩
  · simp only [Bool.or_eq_true, decide_eq_true_eq, not_or, Nat.not_lt, Bool.not_eq_true] at hminimal
    cases h
    exact .inl ⟨_, _, ⟨rfl, rfl, rfl, rfl⟩, .inr rfl, hminimal.2, hminimal.1, rfl⟩
  all_goals
    cases h
    exact .inr ⟨Bool.not_eq_true _ ▸ hmust, _, _, _, _, rfl⟩

/-! ## The loop -/

/-- The projection is that of what is shown, within the budget of the whole and of each source. -/
structure Within (service : ContextPipelineService) (request : ContextRequest)
    (purpose : ContextPurpose) (consumer : ContextConsumer) (budget : ContextBudget)
    (state : Selection) (shown : List (ContextCandidate × JsonDict)) : Prop where
  payload : state.payload = projection request (shown.map (·.2))
  fits : payloadTokens service.py state.payload budget ≤ budget.maxTokens
  renders : ∀ p ∈ shown, Renders service purpose consumer budget p.1 p.2
  used : ∀ source, (state.sourceUsed.get? source).getD 0 =
    sourceTokens service.py budget.charsPerToken (shown.map (·.2)) source
  sources : ∀ source limit, budget.sourceBudgets.get? source = some limit →
    (∃ p ∈ shown, p.1.source = source) →
    (sourceTokens service.py budget.charsPerToken (shown.map (·.2)) source : Int) ≤ limit

theorem Within.accept {item : ContextItem} {rendered : JsonDict}
    (h : Within service request purpose consumer budget state shown)
    (hrenders : Renders service purpose consumer budget candidate rendered)
    (hsource : sourceOver budget state.sourceUsed candidate.source
      (payloadTokens service.py rendered budget) = false)
    (hfits : payloadTokens service.py (withProjectedItem state.payload rendered) budget ≤
      budget.maxTokens) :
    Within service request purpose consumer budget
      (service.accept state candidate item rendered
        (payloadTokens service.py rendered budget))
      (shown ++ [(candidate, rendered)]) := by
  have hsum : ∀ source, sourceTokens service.py budget.charsPerToken
      ((shown ++ [(candidate, rendered)]).map (·.2)) source =
      sourceTokens service.py budget.charsPerToken (shown.map (·.2)) source +
        if candidate.source = source then
          payloadTokens service.py rendered budget
        else 0 := by
    intro source
    rw [List.map_append, List.map_singleton, sourceTokens_append, hrenders.source]
    simp only [Option.some.injEq, Json.str.injEq]
    rfl
  refine ⟨?_, hfits, ?_, fun source => ?_, fun source limit hlimit hshown => ?_⟩
  · show withProjectedItem state.payload rendered = _
    rw [h.payload, withProjectedItem_projection, List.map_append, List.map_singleton]
  · intro p hp
    rcases List.mem_append.1 hp with hp | hp
    · exact h.renders p hp
    · rw [List.mem_singleton.1 hp]
      exact hrenders
  · rw [hsum, ← h.used]
    show ((countUp state.sourceUsed candidate.source _).get? source).getD 0 = _
    unfold countUp
    rw [Dict.get?_set]
    split
    · next heq =>
      subst heq
      rfl
    · rfl
  · rw [hsum]
    split
    · next heq =>
      subst heq
      simp only [sourceOver, hlimit, Option.any_some, decide_eq_false_iff_not, Int.not_lt, h.used]
        at hsource
      exact hsource
    · next hne =>
      obtain ⟨p, hp, hpsource⟩ := hshown
      rcases List.mem_append.1 hp with hp | hp
      · exact h.sources source limit hlimit ⟨p, hp, hpsource⟩
      · rw [List.mem_singleton.1 hp] at hpsource
        exact absurd hpsource hne

theorem Within.drop (h : Within service request purpose consumer budget state shown)
    (item : ContextItem) (rendered : JsonDict) (tokens : Nat) (reason : String) :
    Within service request purpose consumer budget
      (service.drop state candidate item rendered tokens reason) shown :=
  ⟨h.payload, h.fits, h.renders, h.used, h.sources⟩

/-- The candidates that are taken in order, of which those that must be included are shown. -/
theorem Within.select {l : List ContextCandidate}
    (h : Within service request purpose consumer budget state shown)
    (hl : l.foldlM (service.selectCandidate purpose consumer budget) state = .ok state') :
    ∃ more, Within service request purpose consumer budget state' (shown ++ more) ∧
      (more.map (·.1)).filter (·.mustInclude) = l.filter (·.mustInclude) := by
  induction l generalizing state shown with
  | nil =>
    cases hl
    exact ⟨[], by rw [List.append_nil]; exact h, rfl⟩
  | cons candidate l ih =>
    obtain ⟨next, hnext, hl⟩ := bind_eq_ok.1 hl
    rcases selectCandidate_ok hnext with
      ⟨item, rendered, -, hrenders, hsource, hfits, rfl⟩ | ⟨hmust, item, rendered, tokens, reason, rfl⟩
    · obtain ⟨more, hmore, hfilter⟩ := ih (h.accept hrenders hsource hfits) hl
      refine ⟨(candidate, rendered) :: more, ?_, ?_⟩
      · rw [List.append_assoc, List.singleton_append] at hmore
        exact hmore
      · rw [List.map_cons, List.filter_cons, List.filter_cons, hfilter]
    · obtain ⟨more, hmore, hfilter⟩ :=
        ih (h.drop item rendered tokens reason) hl
      refine ⟨more, hmore, ?_⟩
      rw [hfilter, List.filter_cons, if_neg (by rw [hmust]; exact Bool.false_ne_true)]

/-! ## The projection -/

theorem selectAndProject_shown {result : SelectionResult}
    (h : service.selectAndProject request purpose consumer candidates budget = .ok result) :
    ∃ (state : Selection) (shown : List (ContextCandidate × JsonDict)),
      Within service request purpose consumer budget state shown ∧
      result.payload = state.payload ∧
      (shown.map (·.1)).filter (·.mustInclude) =
        (sortCandidates candidates).filter (·.mustInclude) := by
  unfold selectAndProject at h
  dsimp only at h
  split_ifs at h with hlong
  obtain ⟨state, hstate, h⟩ := bind_eq_ok.1 h
  cases h
  have hempty : Within service request purpose consumer budget
      ⟨projection request [], [], [], [], .empty, .empty, 0⟩ [] := by
    refine ⟨rfl, Nat.not_lt.1 hlong, (fun p hp => by cases hp), fun source => rfl, ?_⟩
    rintro source limit - ⟨p, hp, -⟩
    cases hp
  obtain ⟨shown, hshown, hfilter⟩ := hempty.select hstate
  exact ⟨state, shown, hshown, rfl, hfilter⟩

/-- The projection that is returned is within the budget; the items of a source are within that
of the source, or there are none and its budget is negative; and every candidate that must be
included is there. -/
theorem selectAndProject_within (service : ContextPipelineService) (request : ContextRequest)
    (purpose : ContextPurpose) (consumer : ContextConsumer) (candidates : List ContextCandidate)
    (budget : ContextBudget) :
    (∃ exhausted, service.selectAndProject request purpose consumer candidates budget =
      .error exhausted) ∨
    ∃ (result : SelectionResult) (shown : List (ContextCandidate × JsonDict)),
      service.selectAndProject request purpose consumer candidates budget = .ok result ∧
      payloadTokens service.py result.payload budget ≤ budget.maxTokens ∧
      (∀ source limit, budget.sourceBudgets.get? source = some limit →
        (sourceTokens service.py budget.charsPerToken (projectedItems result.payload) source : Int)
          ≤ limit ∨
        limit < 0 ∧ ∀ item ∈ projectedItems result.payload,
          Json.field item "source" ≠ some (.str source)) ∧
      projectedItems result.payload = shown.map Prod.snd ∧
      (∀ p ∈ shown, Renders service purpose consumer budget p.1 p.2) ∧
      (shown.map Prod.fst).filter (·.mustInclude) =
        (sortCandidates candidates).filter (·.mustInclude) := by
  cases h : service.selectAndProject request purpose consumer candidates budget with
  | error exhausted => exact .inl ⟨exhausted, rfl⟩
  | ok result =>
    obtain ⟨state, shown, hwithin, hpayload, hmust⟩ := selectAndProject_shown h
    have hitems : projectedItems result.payload = shown.map Prod.snd := by
      rw [hpayload, hwithin.payload, projectedItems_projection]
    refine .inr ⟨result, shown, rfl, hpayload ▸ hwithin.fits, fun source limit hlimit => ?_, hitems,
      hwithin.renders, hmust⟩
    rw [hitems]
    by_cases hshown : ∃ p ∈ shown, p.1.source = source
    · exact .inl (hwithin.sources source limit hlimit hshown)
    · have hnone : ∀ item ∈ shown.map Prod.snd, Json.field item "source" ≠ some (.str source) := by
        intro item hitem hsource
        obtain ⟨p, hp, rfl⟩ := List.mem_map.1 hitem
        rw [(hwithin.renders p hp).source, Option.some.injEq, Json.str.injEq] at hsource
        exact hshown ⟨p, hp, hsource⟩
      have hzero : sourceTokens service.py budget.charsPerToken (shown.map Prod.snd) source = 0 := by
        unfold sourceTokens
        rw [List.filter_eq_nil_iff.2 fun item hitem => by simpa using hnone item hitem]
        rfl
      by_cases hneg : limit < 0
      · exact .inr ⟨hneg, hnone⟩
      · rw [hzero]
        exact .inl (Int.not_lt.1 hneg)

theorem selectAndProject_nil
    (h : ¬budget.maxTokens < payloadTokens service.py (projection request []) budget) :
    ∃ result, service.selectAndProject request purpose consumer [] budget = .ok result ∧
      result.payload = projection request [] := by
  unfold selectAndProject
  dsimp only
  rw [if_neg (by exact h)]
  exact ⟨_, rfl, rfl⟩

def shownInFull (service : ContextPipelineService) (purpose : ContextPurpose)
    (consumer : ContextConsumer) (budget : ContextBudget) (candidates : List ContextCandidate) :
    List JsonDict :=
  candidates.map fun candidate => (service.renderCandidate candidate purpose consumer budget).1

def itemInFull (service : ContextPipelineService) (purpose : ContextPurpose)
    (consumer : ContextConsumer) (budget : ContextBudget) (candidate : ContextCandidate) :
    ContextItem :=
  let (rendered, item) := service.renderCandidate candidate purpose consumer budget
  let text := stableJson service.py (.obj rendered)
  { item with
    included := true
    tokenEstimate := tokenEstimate service.py.arithmetic text budget.charsPerToken
    charCount := text.length
    status :=
      if item.summaryPlaceholder then .summaryPlaceholder
      else if item.truncated then .truncated
      else .included }

def costInFull (service : ContextPipelineService) (purpose : ContextPurpose)
    (consumer : ContextConsumer) (budget : ContextBudget) (candidate : ContextCandidate) : Nat :=
  payloadTokens service.py (service.renderCandidate candidate purpose consumer budget).1 budget

theorem selectCandidate_fits
    (hsource : ∀ limit, budget.sourceBudgets.get? candidate.source = some limit →
      (((state.sourceUsed.get? candidate.source).getD 0 +
        costInFull service purpose consumer budget candidate : Nat) : Int) ≤ limit)
    (hfits : payloadTokens service.py (withProjectedItem state.payload
      (service.renderCandidate candidate purpose consumer budget).1) budget ≤ budget.maxTokens) :
    ∃ accepted, service.selectCandidate purpose consumer budget state candidate = .ok accepted ∧
      accepted.payload = withProjectedItem state.payload
        (service.renderCandidate candidate purpose consumer budget).1 ∧
      accepted.included = state.included ++ [itemInFull service purpose consumer budget candidate] ∧
      accepted.sourceUsed = countUp state.sourceUsed candidate.source
        (costInFull service purpose consumer budget candidate) := by
  have hover : sourceOver budget state.sourceUsed candidate.source
      (costInFull service purpose consumer budget candidate) = false := by
    unfold sourceOver
    cases hlimit : budget.sourceBudgets.get? candidate.source with
    | none => rfl
    | some limit => exact decide_eq_false (not_lt.2 (hsource limit hlimit))
  unfold costInFull at hover
  unfold selectCandidate
  dsimp only
  rw [hover, if_pos (by simpa using hfits)]
  exact ⟨_, rfl, rfl, rfl, rfl⟩

theorem foldlM_fits (items : List JsonDict)
    (hsources : ∀ source limit, budget.sourceBudgets.get? source = some limit →
      (((state.sourceUsed.get? source).getD 0 +
        (candidates.map (costInFull service purpose consumer budget)).sum : Nat) : Int) ≤ limit)
    (hpayload : state.payload = projection request items)
    (hfits : ∀ more, more <+: shownInFull service purpose consumer budget candidates →
      payloadTokens service.py (projection request (items ++ more)) budget ≤ budget.maxTokens) :
    ∃ last, candidates.foldlM (service.selectCandidate purpose consumer budget) state = .ok last ∧
      last.payload =
        projection request (items ++ shownInFull service purpose consumer budget candidates) ∧
      last.included =
        state.included ++ candidates.map (itemInFull service purpose consumer budget) := by
  induction candidates generalizing state items with
  | nil =>
    refine ⟨state, rfl, ?_, (List.append_nil _).symm⟩
    rw [hpayload, shownInFull, List.map_nil, List.append_nil]
  | cons candidate rest ih =>
    have hshown : shownInFull service purpose consumer budget (candidate :: rest) =
        [(service.renderCandidate candidate purpose consumer budget).1] ++
          shownInFull service purpose consumer budget rest := rfl
    rw [hshown] at hfits
    simp only [List.map_cons, List.sum_cons] at hsources
    have hfirst := hfits _ (List.prefix_append _ _)
    rw [← withProjectedItem_projection, ← hpayload] at hfirst
    obtain ⟨accepted, haccepted, hnext, hincluded, hused⟩ := selectCandidate_fits
      (fun limit hlimit => by have := hsources _ limit hlimit; omega) hfirst
    rw [hpayload, withProjectedItem_projection] at hnext
    have hleft : ∀ source limit, budget.sourceBudgets.get? source = some limit →
        (((accepted.sourceUsed.get? source).getD 0 +
          (rest.map (costInFull service purpose consumer budget)).sum : Nat) : Int) ≤ limit := by
      intro source limit hlimit
      have := hsources source limit hlimit
      rw [hused, countUp, Dict.get?_set]
      split_ifs with hsame
      · subst hsame
        simp only [Option.getD_some]
        omega
      · omega
    obtain ⟨last, hlast, hfinal, hitems⟩ := ih _ hleft hnext fun more hmore => by
      rw [List.append_assoc]
      exact hfits _ ((List.prefix_append_right_inj _).2 hmore)
    refine ⟨last, ?_, by rw [hfinal, hshown, List.append_assoc], ?_⟩
    · rw [List.foldlM_cons]
      exact bind_eq_ok.2 ⟨accepted, haccepted, hlast⟩
    · rw [hitems, hincluded, List.append_assoc]
      rfl

/-- With room for all candidates in the budget, and in that of each source, each is shown. -/
theorem selectAndProject_all
    (hsources : ∀ source limit, budget.sourceBudgets.get? source = some limit →
      (((sortCandidates candidates).map (costInFull service purpose consumer budget)).sum : Int) ≤
        limit)
    (hroom : ((Json.write { item := ",", key := ":", number := service.py.number }
        (.obj (projection request
          (shownInFull service purpose consumer budget (sortCandidates candidates))))).length : Rat) ≤
      budget.maxTokens * budget.charsPerToken)
    (hlength : (Json.write { item := ",", key := ":", number := service.py.number }
        (.obj (projection request
          (shownInFull service purpose consumer budget (sortCandidates candidates))))).length <
      2 ^ 53)
    (htokens : budget.maxTokens < 2 ^ 53) :
    ∃ result, service.selectAndProject request purpose consumer candidates budget = .ok result ∧
      result.payload =
        projection request (shownInFull service purpose consumer budget (sortCandidates candidates)) ∧
      result.items = (sortCandidates candidates).map (itemInFull service purpose consumer budget) := by
  have hfits : ∀ items, items <+: shownInFull service purpose consumer budget (sortCandidates candidates) →
      payloadTokens service.py (projection request items) budget ≤ budget.maxTokens := by
    rintro items ⟨more, hmore⟩
    have hshorter : (stableJson service.py (.obj (projection request items))).length ≤
        (Json.write { item := ",", key := ":", number := service.py.number } (.obj (projection
          request (shownInFull service purpose consumer budget (sortCandidates candidates))))).length := by
      rw [length_stableJson, ← hmore]
      have hitems := Json.length_write_arr_append_le
        { item := ",", key := ":", number := service.py.number } (items.map .obj) (more.map .obj)
      simp only [Json.write, List.length_cons, List.length_append] at hitems
      simp only [projection, Json.write, Json.writeFields, List.map_append, List.length_cons,
        List.length_append]
      omega
    exact tokenEstimate_le _ budget.maxTokens_pos (hshorter.trans_lt hlength) htokens
      (le_trans (Nat.cast_le.2 hshorter) hroom)
  have hfold : ∃ last, (sortCandidates candidates).foldlM
      (service.selectCandidate purpose consumer budget)
      ⟨projection request [], [], [], [], .empty, .empty, 0⟩ = .ok last ∧
      last.payload = projection request
        ([] ++ shownInFull service purpose consumer budget (sortCandidates candidates)) ∧
      last.included =
        [] ++ (sortCandidates candidates).map (itemInFull service purpose consumer budget) :=
    foldlM_fits [] (fun source limit hlimit => by simpa using hsources source limit hlimit) rfl
      fun more hmore => hfits more hmore
  obtain ⟨last, hlast, hpayload, hitems⟩ := hfold
  unfold selectAndProject
  dsimp only
  rw [if_neg (by exact Nat.not_lt.2 (hfits [] List.nil_prefix))]
  exact ⟨_, bind_eq_ok.2 ⟨last, hlast, rfl⟩, hpayload, hitems⟩

def sampleSettings : ContextSettings where
  defaultTokenBudget := 2000
  maxTokenBudget := 8000
  defaultSourceBudgets := ""
  charsPerToken := 4
  perItemTokenLimit := 512
  perItemCharLimit := 2000
  allowRequestBudgetOverride := true
  allowSummaryPlaceholder := true
  modelWindowTokens := 16000
  systemReserveTokens := 1200
  schemaReserveTokens := 1400
  rulesReserveTokens := 600
  outputReserveTokens := 1200

def sampleService : ContextPipelineService where
  settings := sampleSettings
  py := Candidates.asciiPython
  int := String.toInt?
  redaction := ⟨id, fun text _ => text, id⟩

def document (candidateId : String) : ContextCandidate where
  candidateId := candidateId
  source := "artifact"
  scope := "session"
  role := none
  content := candidateId
  structuredValue := none
  purpose := .routeDecision
  consumers := ["router"]
  authority := .authoritative
  visibility := []
  sourceRef := none
  dedupeKey := none
  conflictKey := none
  factType := none
  factValue := none
  confidence := 1
  priority := 50
  relevance := 1 / 2
  mustInclude := false
  permissionGranted := true
  enabled := true
  deleted := false
  expiresAt := none
  createdAt := none
  allowedAgentIds := []
  metadata := []

def sampleRequest : ContextRequest where
  requestId := none
  sessionId := "chat"
  source := .hostChat
  userId := "ada"
  roles := []
  groups := []
  tenantId := none
  eventId := none
  planId := none
  stepId := none
  contextBudget := none
  frontendContext := []
  sessionId_ne := by decide
  userId_ne := by decide
  eventId_of_source := by simp
  planId_of_source := by simp

theorem one_char_pos : (0 : Rat) < 1 := by norm_num

theorem noLimit_pos : ∀ limit ∈ (none : Option Nat), 0 < limit := by simp

def negativeBudget : ContextBudget where
  maxTokens := 1000
  sourceBudgets := Dict.empty.set "memory" (-1)
  perItemTokenLimit := none
  perItemCharLimit := none
  charsPerToken := 4
  allowSummaryPlaceholder := true
  maxTokens_pos := by decide
  perItemTokenLimit_pos := noLimit_pos
  perItemCharLimit_pos := noLimit_pos
  charsPerToken_pos := by norm_num

/-- No memory is shown, and that is more than the budget of the memories. -/
theorem negative_source_budget_exceeded :
    ¬∀ (service : ContextPipelineService) (request : ContextRequest) (purpose : ContextPurpose)
      (consumer : ContextConsumer) (candidates : List ContextCandidate) (budget : ContextBudget),
      (∃ exhausted, service.selectAndProject request purpose consumer candidates budget =
        .error exhausted) ∨
      ∃ result, service.selectAndProject request purpose consumer candidates budget = .ok result ∧
        payloadTokens service.py result.payload budget ≤ budget.maxTokens ∧
        (∀ source limit, budget.sourceBudgets.get? source = some limit →
          (sourceTokens service.py budget.charsPerToken (projectedItems result.payload) source : Int)
            ≤ limit) ∧
        ∀ candidate ∈ candidates, candidate.mustInclude = true →
          ∃ item ∈ projectedItems result.payload,
            Renders service purpose consumer budget candidate item := by
  intro hclaim
  have hfits : ¬negativeBudget.maxTokens < payloadTokens sampleService.py
      (projection sampleRequest []) negativeBudget := by
    refine Nat.not_lt.2 (tokenEstimate_le _ negativeBudget.maxTokens_pos ?_ (by decide) ?_)
    · rw [length_stableJson]
      decide +kernel
    · rw [length_stableJson]
      decide +kernel
  have hrun : ∃ result, sampleService.selectAndProject sampleRequest .routeDecision .router []
      negativeBudget = .ok result ∧ result.payload = projection sampleRequest [] := by
    exact selectAndProject_nil hfits
  obtain ⟨result, hresult, hpayload⟩ := hrun
  rcases hclaim sampleService sampleRequest .routeDecision .router [] negativeBudget with
    ⟨exhausted, herror⟩ | ⟨other, hother, -, hsources, -⟩
  · rw [hresult] at herror
    cases herror
  · obtain rfl : result = other := Except.ok.inj (hresult.symm.trans hother)
    have hmemory := hsources "memory" (-1) (by decide)
    rw [hpayload, projectedItems_projection] at hmemory
    exact absurd hmemory (by decide)

end OpenIntentRouter.Context
