import OpenIntentRouter.Context.Budget
import OpenIntentRouter.Services.ContextSelection

/-!
# Selected context items

What `select_items` is for: an entry for each candidate with its own content, totals within the
budgets, and cut contents within the limits. It keeps the entries under the ids of the items, so
that candidates of one id share the entry of the last of them (`selectItems_own_iff`). With
distinct ids the totals are kept unless an item that must be included comes after others that
have taken its room, and a cut content is within its limits if there is room for the marker
(`selectItems_iff`).

Any budget and any items, also with repeated ids; the rate is an exact rational.
-/
namespace OpenIntentRouter.Context

open Core Schemas Services ContextSelection ContextPipelineService

variable {budget : ContextBudget} {state : ItemSelection} {item : ContextItem}
  {items candidates : List ContextItem}

/-! ## One item -/

def limitedContent (budget : ContextBudget) (content : String) : String :=
  match cutContent budget content with
  | (_, none) => content
  | (cut, some _) => cut ++ truncationMarker

/-- Of the fields by which items are told apart and sorted, an entry has those of its item. -/
structure EntryOf (item entry : ContextItem) : Prop where
  itemId : entry.itemId = item.itemId
  source : entry.source = item.source
  mustInclude : entry.mustInclude = item.mustInclude
  key : itemSortKey entry = itemSortKey item

theorem applyPerItemLimit_entry (budget : ContextBudget) (item : ContextItem) :
    EntryOf item (applyPerItemLimit budget item) := by
  unfold applyPerItemLimit
  split
  · exact ⟨rfl, rfl, rfl, rfl⟩
  · exact ⟨rfl, rfl, rfl, rfl⟩

theorem applyPerItemLimit_content (budget : ContextBudget) (item : ContextItem) :
    (applyPerItemLimit budget item).content = limitedContent budget item.content := by
  unfold applyPerItemLimit limitedContent
  obtain ⟨cut, reason⟩ := cutContent budget item.content
  cases reason <;> rfl

def hasRoom (budget : ContextBudget) (state : ItemSelection) (item : ContextItem) : Prop :=
  sourceOver budget state.usedBySource item.source item.tokenEstimate = false ∧
    state.usedTotal + item.tokenEstimate ≤ budget.maxTokens

structure Decided (budget : ContextBudget) (state : ItemSelection) (item entry : ContextItem) :
    Prop where
  entryOf : EntryOf item entry
  content : entry.content = item.content
  tokenEstimate : entry.tokenEstimate = item.tokenEstimate
  included_iff : entry.included = true ↔ item.mustInclude = true ∨ hasRoom budget state item

theorem decideItem_spec (budget : ContextBudget) (state : ItemSelection) (item : ContextItem) :
    Decided budget state item (decideItem budget state item) := by
  unfold decideItem
  split
  · next hmust => exact ⟨⟨rfl, rfl, rfl, rfl⟩, rfl, rfl, by simp [included, hmust]⟩
  · next hmust =>
    split
    · next hover =>
      exact ⟨⟨rfl, rfl, rfl, rfl⟩, rfl, rfl, by simp [excluded, hmust, hasRoom, hover]⟩
    · next hover =>
      split
      · next htotal =>
        refine ⟨⟨rfl, rfl, rfl, rfl⟩, rfl, rfl, ?_⟩
        simp only [excluded, hmust, hasRoom, Bool.false_eq_true, false_or, false_iff, not_and,
          not_le]
        exact fun _ => htotal
      · next htotal =>
        refine ⟨⟨rfl, rfl, rfl, rfl⟩, rfl, rfl, ?_⟩
        simp only [included, hmust, hasRoom, Bool.false_eq_true, false_or, true_iff]
        exact ⟨by simpa using hover, Nat.le_of_not_lt htotal⟩

def entryOf (budget : ContextBudget) (state : ItemSelection) (item : ContextItem) : ContextItem :=
  decideItem budget state (applyPerItemLimit budget item)

/-! ## The loop -/

def entries (budget : ContextBudget) : ItemSelection → List ContextItem → List ContextItem
  | _, [] => []
  | state, item :: rest => entryOf budget state item :: entries budget (selectItem budget state item) rest

theorem entries_append (budget : ContextBudget) (state : ItemSelection) (l more : List ContextItem) :
    entries budget state (l ++ more) =
      entries budget state l ++ entries budget (l.foldl (selectItem budget) state) more := by
  induction l generalizing state with
  | nil => rfl
  | cons item rest ih => simp [entries, ih]

def tokensOf (test : ContextItem → Bool) (l : List ContextItem) : Nat :=
  ((l.filter fun entry => entry.included && test entry).map (·.tokenEstimate)).sum

theorem tokensOf_append (test : ContextItem → Bool) (l more : List ContextItem) :
    tokensOf test (l ++ more) = tokensOf test l + tokensOf test more := by
  simp [tokensOf]

theorem tokensOf_singleton (test : ContextItem → Bool) (entry : ContextItem) :
    tokensOf test [entry] =
      if entry.included = true ∧ test entry = true then entry.tokenEstimate else 0 := by
  unfold tokensOf
  by_cases h : entry.included = true ∧ test entry = true
  · simp [h]
  · rw [if_neg h]
    have hfalse : (entry.included && test entry) = false := by
      rw [← Bool.not_eq_true, Bool.and_eq_true]
      exact h
    simp [hfalse]

variable {l before after : List ContextItem} {test : ContextItem → Bool}
  {entry candidate : ContextItem} {α β : Type}

theorem tokensOf_perm {l' : List ContextItem} (h : l.Perm l') :
    tokensOf test l = tokensOf test l' :=
  ((h.filter _).map _).sum_eq

theorem tokensOf_mono {other : ContextItem → Bool}
    (h : ∀ entry ∈ l, entry.included = true → test entry = true → other entry = true) :
    tokensOf test l ≤ tokensOf other l := by
  induction l with
  | nil => exact Nat.le_refl _
  | cons entry rest ih =>
    have hrest := ih fun e he => h e (List.mem_cons_of_mem _ he)
    have hentry := h entry List.mem_cons_self
    rw [← List.singleton_append, tokensOf_append, tokensOf_append, tokensOf_singleton,
      tokensOf_singleton]
    split_ifs with hfirst hsecond hsecond
    · omega
    · exact absurd ⟨hfirst.1, hentry hfirst.1 hfirst.2⟩ hsecond
    · omega
    · omega

theorem selectItem_usedTotal (budget : ContextBudget) (state : ItemSelection) (item : ContextItem) :
    (selectItem budget state item).usedTotal =
      state.usedTotal + tokensOf (fun _ => true) [entryOf budget state item] := by
  rw [tokensOf_singleton]
  show (if (entryOf budget state item).included then _ else _) = _
  by_cases h : (entryOf budget state item).included = true
  · simp only [h, if_true, and_self]
    rfl
  · simp [h]

theorem selectItem_usedBySource (budget : ContextBudget) (state : ItemSelection)
    (item : ContextItem) (source : String) :
    ((selectItem budget state item).usedBySource.get? source).getD 0 =
      (state.usedBySource.get? source).getD 0 +
        tokensOf (fun entry => entry.source = source) [entryOf budget state item] := by
  rw [tokensOf_singleton]
  have hset : (selectItem budget state item).usedBySource =
      if (entryOf budget state item).included then
        countUp state.usedBySource (entryOf budget state item).source
          (entryOf budget state item).tokenEstimate
      else state.usedBySource := rfl
  rw [hset]
  by_cases h : (entryOf budget state item).included = true
  · by_cases hsource : (entryOf budget state item).source = source
    · simp [h, hsource, countUp]
    · simp [h, hsource, countUp, Dict.get?_set]
  · simp [h]

theorem selectItem_selectedById (budget : ContextBudget) (state : ItemSelection)
    (item : ContextItem) (id : String) :
    (selectItem budget state item).selectedById.get? id =
      if (entryOf budget state item).itemId = id then some (entryOf budget state item)
      else state.selectedById.get? id :=
  Dict.get?_set _ _ _ _

def reached (budget : ContextBudget) (l : List ContextItem) : ItemSelection :=
  l.foldl (selectItem budget) .start

theorem reached_snoc (budget : ContextBudget) (l : List ContextItem) (item : ContextItem) :
    reached budget (l ++ [item]) = selectItem budget (reached budget l) item := by
  simp [reached]

theorem entries_snoc (budget : ContextBudget) (l : List ContextItem) (item : ContextItem) :
    entries budget .start (l ++ [item]) =
      entries budget .start l ++ [entryOf budget (reached budget l) item] := by
  rw [entries_append]
  rfl

theorem usedTotal_reached (budget : ContextBudget) (l : List ContextItem) :
    (reached budget l).usedTotal = tokensOf (fun _ => true) (entries budget .start l) := by
  induction l using List.reverseRecOn with
  | nil => rfl
  | append_singleton l item ih =>
    rw [reached_snoc, entries_snoc, tokensOf_append, selectItem_usedTotal, ih]

theorem usedBySource_reached (budget : ContextBudget) (l : List ContextItem) (source : String) :
    ((reached budget l).usedBySource.get? source).getD 0 =
      tokensOf (fun entry => entry.source = source) (entries budget .start l) := by
  induction l using List.reverseRecOn with
  | nil => rfl
  | append_singleton l item ih =>
    rw [reached_snoc, entries_snoc, tokensOf_append, selectItem_usedBySource, ih]

theorem selectedById_reached (budget : ContextBudget) (l : List ContextItem) (id : String) :
    (reached budget l).selectedById.get? id =
      (entries budget .start l).reverse.find? (·.itemId = id) := by
  induction l using List.reverseRecOn with
  | nil => rfl
  | append_singleton l item ih =>
    rw [reached_snoc, entries_snoc, selectItem_selectedById, ih, List.reverse_append,
      List.reverse_singleton, List.singleton_append, List.find?_cons]
    by_cases h : (entryOf budget (reached budget l) item).itemId = id
    · simp [h]
    · simp [h]

theorem entryOf_decided (budget : ContextBudget) (state : ItemSelection) (item : ContextItem) :
    Decided budget state (applyPerItemLimit budget item) (entryOf budget state item) :=
  decideItem_spec budget state _

theorem entryOf_entry (budget : ContextBudget) (state : ItemSelection) (item : ContextItem) :
    EntryOf item (entryOf budget state item) := by
  have hlimited := applyPerItemLimit_entry budget item
  have hdecided := (entryOf_decided budget state item).entryOf
  exact ⟨hdecided.itemId.trans hlimited.itemId, hdecided.source.trans hlimited.source,
    hdecided.mustInclude.trans hlimited.mustInclude, hdecided.key.trans hlimited.key⟩

/-- The entries are those of the items, with their limited contents. -/
theorem entries_forall (budget : ContextBudget) (state : ItemSelection) (l : List ContextItem) :
    List.Forall₂ (fun item entry => EntryOf item entry ∧
      entry.content = limitedContent budget item.content) l (entries budget state l) := by
  induction l generalizing state with
  | nil => exact .nil
  | cons item rest ih =>
    refine .cons ⟨entryOf_entry budget state item, ?_⟩ (ih _)
    rw [(entryOf_decided budget state item).content, applyPerItemLimit_content]

/-! ## Totals -/

/-- An item that must be included takes the total over the budget, after others have taken room.
-/
def OvertakenIn (budget : ContextBudget) (l : List ContextItem) : Prop :=
  ∃ before item after, l = before ++ item :: after ∧ item.mustInclude = true ∧
    0 < tokensOf (!·.mustInclude) (entries budget .start before) ∧
    budget.maxTokens <
      (reached budget before).usedTotal + (applyPerItemLimit budget item).tokenEstimate

theorem overtakenIn_snoc (budget : ContextBudget) (l : List ContextItem) (item : ContextItem) :
    OvertakenIn budget (l ++ [item]) ↔ OvertakenIn budget l ∨
      (item.mustInclude = true ∧ 0 < tokensOf (!·.mustInclude) (entries budget .start l) ∧
        budget.maxTokens <
          (reached budget l).usedTotal + (applyPerItemLimit budget item).tokenEstimate) := by
  constructor
  · rintro ⟨before, other, after, hl, hmust, htaken, hover⟩
    rcases List.eq_nil_or_concat after with rfl | ⟨front, last, rfl⟩
    · obtain ⟨rfl, hlast⟩ := List.append_inj' hl rfl
      obtain rfl := List.singleton_inj.1 hlast
      exact .inr ⟨hmust, htaken, hover⟩
    · rw [List.concat_eq_append, ← List.cons_append, ← List.append_assoc] at hl
      exact .inl ⟨before, other, front, (List.append_inj' hl rfl).1, hmust, htaken, hover⟩
  · rintro (⟨before, other, after, rfl, hmust, htaken, hover⟩ | ⟨hmust, htaken, hover⟩)
    · exact ⟨before, other, after ++ [item], by simp, hmust, htaken, hover⟩
    · exact ⟨l, item, [], rfl, hmust, htaken, hover⟩

theorem tokensOf_split (l : List ContextItem) :
    tokensOf (fun _ => true) l = tokensOf (·.mustInclude) l + tokensOf (!·.mustInclude) l := by
  induction l with
  | nil => rfl
  | cons entry rest ih =>
    rw [← List.singleton_append, tokensOf_append, tokensOf_append, tokensOf_append, ih]
    simp only [tokensOf_singleton]
    cases entry.included <;> cases entry.mustInclude <;> simp <;> omega

/-- The total is within the budget, or all of it must be included, exactly as long as no item that
must be included overtakes others. -/
theorem total_iff (budget : ContextBudget) (l : List ContextItem) :
    (tokensOf (fun _ => true) (entries budget .start l) ≤ budget.maxTokens ∨
      tokensOf (!·.mustInclude) (entries budget .start l) = 0) ↔ ¬OvertakenIn budget l := by
  induction l using List.reverseRecOn with
  | nil =>
    have hnone : ¬OvertakenIn budget [] := by
      rintro ⟨before, item, after, hl, -⟩
      simp at hl
    exact iff_of_true (.inr rfl) hnone
  | append_singleton l item ih =>
    have hentry := entryOf_entry budget (reached budget l) item
    have hdecided := entryOf_decided budget (reached budget l) item
    have hlimited := applyPerItemLimit_entry budget item
    rw [overtakenIn_snoc, entries_snoc, tokensOf_append, tokensOf_append, tokensOf_singleton,
      tokensOf_singleton, not_or, ← ih, usedTotal_reached]
    rw [hentry.mustInclude, hdecided.tokenEstimate]
    generalize hused : tokensOf (fun _ => true) (entries budget .start l) = used
    generalize tokensOf (!·.mustInclude) (entries budget .start l) = others
    generalize htokens : (applyPerItemLimit budget item).tokenEstimate = tokens
    by_cases hmust : item.mustInclude = true
    · have hincluded := hdecided.included_iff.2 (.inl (hlimited.mustInclude.trans hmust))
      simp only [hincluded, hmust, Bool.not_true, Bool.false_eq_true, and_true, if_true, and_false,
        if_false, true_and]
      omega
    · by_cases hincluded : (entryOf budget (reached budget l) item).included = true
      · have hroom := (hdecided.included_iff.1 hincluded).resolve_left
          (by rw [hlimited.mustInclude]; exact hmust)
        have htotal := hroom.2
        rw [usedTotal_reached, hused, htokens] at htotal
        simp only [hincluded, hmust, Bool.not_false, and_true, if_true]
        omega
      · simp [hincluded, hmust]

/-! ## Sources -/

theorem mem_entries_start (h : entry ∈ entries budget .start l) :
    ∃ before item after, l = before ++ item :: after ∧
      entry = entryOf budget (reached budget before) item := by
  induction l using List.reverseRecOn with
  | nil => simp [entries] at h
  | append_singleton l item ih =>
    rw [entries_snoc, List.mem_append, List.mem_singleton] at h
    rcases h with h | rfl
    · obtain ⟨before, other, after, rfl, rfl⟩ := ih h
      exact ⟨before, other, after ++ [item], by simp, rfl⟩
    · exact ⟨l, item, [], rfl, rfl⟩

/-- An item that need not be included is not taken over the budget of its source. -/
theorem source_within (hincluded : (entryOf budget (reached budget before) item).included = true)
    (hmust : item.mustInclude = false) {limit : Int}
    (hlimit : budget.sourceBudgets.get? item.source = some limit) :
    (tokensOf (fun entry => entry.source = item.source)
      (entries budget .start (before ++ [item])) : Int) ≤ limit := by
  have hentry := entryOf_entry budget (reached budget before) item
  have hdecided := entryOf_decided budget (reached budget before) item
  have hlimited := applyPerItemLimit_entry budget item
  have hroom := (hdecided.included_iff.1 hincluded).resolve_left
    (by rw [hlimited.mustInclude, hmust]; exact Bool.false_ne_true)
  have hsource := hroom.1
  rw [hlimited.source] at hsource
  simp only [sourceOver, hlimit, Option.any_some, decide_eq_false_iff_not, not_lt,
    usedBySource_reached] at hsource
  rw [entries_snoc, tokensOf_append, tokensOf_singleton, hentry.source, hdecided.tokenEstimate]
  simpa [hincluded] using hsource

/-! ## What the entries are for -/

/-- The entry has the id and the content of the candidate, or its content within the limits. -/
structure Carries (budget : ContextBudget) (candidate entry : ContextItem) : Prop where
  itemId : entry.itemId = candidate.itemId
  content : entry.content = candidate.content ∨
    entry.content = limitedContent budget candidate.content

/-- If the content is over a limit, it is no longer than before and within the limits. -/
def KeepsLimits (budget : ContextBudget) (candidate entry : ContextItem) : Prop :=
  (cutContent budget candidate.content).2.isSome = true →
    entry.content.length ≤ candidate.content.length ∧
    (∀ limit ∈ budget.perItemCharLimit, entry.content.length ≤ limit) ∧
    ∀ limit ∈ budget.perItemTokenLimit, tokenEstimateForText entry.content budget.charsPerToken ≤ limit

structure Selects (budget : ContextBudget) (candidates selected : List ContextItem) : Prop where
  own : List.Forall₂ (Carries budget) candidates selected
  total : tokensOf (fun _ => true) selected ≤
    max budget.maxTokens (tokensOf (·.mustInclude) selected)
  bySource : ∀ entry ∈ selected, entry.included = true → entry.mustInclude = false →
    ∀ limit, budget.sourceBudgets.get? entry.source = some limit →
      (tokensOf (fun other => other.source = entry.source &&
        decide (itemSortKey other ≤ itemSortKey entry)) selected : Int) ≤ limit
  limits : List.Forall₂ (KeepsLimits budget) candidates selected

def ordered (budget : ContextBudget) (candidates : List ContextItem) : List ContextItem :=
  sortItems (candidates.map (withEstimates budget))

theorem ordered_perm (budget : ContextBudget) (candidates : List ContextItem) :
    (ordered budget candidates).Perm (candidates.map (withEstimates budget)) :=
  List.perm_insertionSort _ _

theorem filterMap_of_forall₂ {f : α → Option β} {l : List α} {l' : List β}
    (h : List.Forall₂ (fun a b => f a = some b) l l') : l.filterMap f = l' := by
  induction h with
  | nil => rfl
  | cons hab _ ih => rw [List.filterMap_cons, hab, ih]

theorem forall₂_filterMap {f : α → Option β} {l : List α} (h : ∀ a ∈ l, ∃ b, f a = some b) :
    List.Forall₂ (fun a b => f a = some b) l (l.filterMap f) := by
  induction l with
  | nil => exact .nil
  | cons a rest ih =>
    obtain ⟨b, hb⟩ := h a List.mem_cons_self
    rw [List.filterMap_cons, hb]
    exact .cons hb (ih fun a' ha' => h a' (List.mem_cons_of_mem _ ha'))

def shownFor (budget : ContextBudget) (candidates : List ContextItem) (id : String) :
    Option ContextItem :=
  (entries budget .start (ordered budget candidates)).reverse.find? (·.itemId = id)

theorem selectItems_eq (budget : ContextBudget) (candidates : List ContextItem) :
    selectItems budget candidates =
      (candidates.map (withEstimates budget)).filterMap fun item =>
        shownFor budget candidates item.itemId := by
  unfold selectItems
  refine List.filterMap_congr fun item _ => ?_
  exact selectedById_reached budget _ item.itemId

theorem entry_mem (h : l = before ++ item :: after) :
    entryOf budget (reached budget before) item ∈ entries budget .start l := by
  rw [h, entries_append]
  exact List.mem_append_right _ List.mem_cons_self

theorem exists_shown (h : candidate ∈ candidates) :
    ∃ entry, shownFor budget candidates candidate.itemId = some entry := by
  have hmem := (ordered_perm budget candidates).mem_iff.2 (List.mem_map_of_mem h)
  obtain ⟨before, after, hl⟩ := List.append_of_mem hmem
  refine Option.isSome_iff_exists.1 (List.find?_isSome.2 ⟨_, List.mem_reverse.2 (entry_mem hl), ?_⟩)
  exact decide_eq_true (entryOf_entry budget (reached budget before) _).itemId

theorem selectItems_shown (budget : ContextBudget) (candidates : List ContextItem) :
    List.Forall₂ (fun candidate entry => shownFor budget candidates candidate.itemId = some entry)
      candidates (selectItems budget candidates) := by
  rw [selectItems_eq, List.filterMap_map]
  exact forall₂_filterMap fun candidate h => exists_shown h

def lastNamed (budget : ContextBudget) (candidates : List ContextItem) (id : String) :
    Option ContextItem :=
  (ordered budget candidates).reverse.find? (·.itemId = id)

theorem forall₂_find? {R : α → β → Prop} {p : α → Bool} {q : β → Bool} {l : List α} {l' : List β}
    (h : List.Forall₂ R l l') (hpq : ∀ a b, R a b → p a = q b) {b : β} (hb : l'.find? q = some b) :
    ∃ a, l.find? p = some a ∧ R a b := by
  induction h with
  | nil => simp at hb
  | @cons x y l l' hxy _ ih =>
    rw [List.find?_cons, ← hpq x y hxy] at hb
    rw [List.find?_cons]
    cases hx : p x with
    | true =>
      simp only [hx, Option.some.injEq] at hb
      exact ⟨x, rfl, hb ▸ hxy⟩
    | false =>
      simp only [hx] at hb
      exact ih hb

/-- The entry that is shown for an id has the content of the last candidate with it. -/
theorem shownFor_last {id : String} (h : shownFor budget candidates id = some entry) :
    ∃ last, lastNamed budget candidates id = some last ∧ entry.itemId = id ∧
      entry.content = limitedContent budget last.content := by
  have hall := List.forall₂_reverse_iff.2 (entries_forall budget .start (ordered budget candidates))
  obtain ⟨last, hlast, -, hcontent⟩ := forall₂_find? hall
    (p := fun item => decide (item.itemId = id)) (fun item entry h => by rw [h.1.itemId]) h
  exact ⟨last, hlast, by simpa using List.find?_some h, hcontent⟩

theorem lastNamed_mem {id : String} {last : ContextItem}
    (h : lastNamed budget candidates id = some last) :
    ∃ candidate ∈ candidates, candidate.itemId = id ∧ last.content = candidate.content := by
  have hid : last.itemId = id := by simpa using List.find?_some h
  have hmem := List.mem_reverse.1 (List.mem_of_find?_eq_some h)
  obtain ⟨candidate, hcandidate, rfl⟩ := List.mem_map.1 ((ordered_perm _ _).mem_iff.1 hmem)
  exact ⟨candidate, hcandidate, hid, rfl⟩

/-- The candidates that share an id with a candidate that is decided after them have its content,
or are limited to it. -/
def SharedAlike (budget : ContextBudget) (candidates : List ContextItem) : Prop :=
  ∀ candidate ∈ candidates, ∀ last, lastNamed budget candidates candidate.itemId = some last →
    limitedContent budget last.content = candidate.content ∨
      limitedContent budget last.content = limitedContent budget candidate.content

/-- The entries carry the contents of their candidates exactly when those that share an id do. -/
theorem selectItems_own_iff (budget : ContextBudget) (candidates : List ContextItem) :
    List.Forall₂ (Carries budget) candidates (selectItems budget candidates) ↔
      SharedAlike budget candidates := by
  have hall := selectItems_shown budget candidates
  constructor
  · intro hown candidate hmem last hlast
    obtain ⟨n, hn, hget⟩ := List.getElem_of_mem hmem
    obtain ⟨hlength, hshown⟩ := List.forall₂_iff_get.1 hall
    have hcarries := (List.forall₂_iff_get.1 hown).2 n hn (hlength ▸ hn)
    obtain ⟨other, hother, -, hcontent⟩ := shownFor_last (hshown n hn (hlength ▸ hn))
    simp only [List.get_eq_getElem, hget] at hcarries hother hcontent
    obtain rfl := Option.some.inj (hlast.symm.trans hother)
    rw [← hcontent]
    exact hcarries.content
  · intro halike
    refine List.forall₂_iff_zip.2 ⟨hall.length_eq, fun {candidate entry} hmem => ?_⟩
    obtain ⟨last, hlast, hid, hcontent⟩ := shownFor_last (List.forall₂_zip hall hmem)
    refine ⟨hid, ?_⟩
    rw [hcontent]
    exact halike candidate (List.of_mem_zip hmem).1 last hlast

/-! ## Distinct ids -/

theorem find?_key [DecidableEq β] {f : α → β} {l : List α} (h : (l.map f).Nodup) {a : α}
    (ha : a ∈ l) : l.find? (fun b => decide (f b = f a)) = some a := by
  have hsome : (l.find? fun b => decide (f b = f a)).isSome = true :=
    List.find?_isSome.2 ⟨a, ha, by simp⟩
  obtain ⟨b, hb⟩ := Option.isSome_iff_exists.1 hsome
  have hkey : f b = f a := by simpa using List.find?_some hb
  rw [hb, List.inj_on_of_nodup_map h (List.mem_of_find?_eq_some hb) ha hkey]

variable (hids : (candidates.map (·.itemId)).Nodup)

include hids

variable (budget) in
theorem ordered_ids : ((ordered budget candidates).map (·.itemId)).Nodup := by
  refine (((ordered_perm budget candidates).map (·.itemId)).nodup_iff).2 ?_
  rw [List.map_map]
  exact hids

variable (budget) in
theorem entries_ids : ((entries budget .start (ordered budget candidates)).map (·.itemId)).Nodup := by
  have hsame : (entries budget .start (ordered budget candidates)).map (·.itemId) =
      (ordered budget candidates).map (·.itemId) := by
    refine (List.forall₂_eq_eq_eq ▸ List.forall₂_map_left_iff.2 (List.forall₂_map_right_iff.2 ?_) :
      _ = _)
    exact ((entries_forall budget .start _).imp fun _ _ h => h.1.itemId).flip
  rw [hsame]
  exact ordered_ids budget hids

theorem shownFor_self (h : entry ∈ entries budget .start (ordered budget candidates)) :
    shownFor budget candidates entry.itemId = some entry := by
  refine find?_key ?_ (List.mem_reverse.2 h)
  rw [List.map_reverse, List.nodup_reverse]
  exact entries_ids budget hids

variable (budget) in
/-- The entries that are shown are those that the loop decides. -/
theorem selectItems_perm :
    (selectItems budget candidates).Perm (entries budget .start (ordered budget candidates)) := by
  have hentries : (ordered budget candidates).filterMap (fun item =>
      shownFor budget candidates item.itemId) = entries budget .start (ordered budget candidates) := by
    have hall := entries_forall budget .start (ordered budget candidates)
    refine filterMap_of_forall₂ (List.forall₂_iff_zip.2 ⟨hall.length_eq, fun {item entry} hmem => ?_⟩)
    rw [← (List.forall₂_zip hall hmem).1.itemId]
    exact shownFor_self hids (List.of_mem_zip hmem).2
  rw [selectItems_eq, ← hentries]
  exact (ordered_perm budget candidates).symm.filterMap _

variable (budget) in
theorem selectItems_contents :
    List.Forall₂ (fun candidate entry => entry.itemId = candidate.itemId ∧
      entry.content = limitedContent budget candidate.content)
      candidates (selectItems budget candidates) := by
  have hall := selectItems_shown budget candidates
  refine List.forall₂_iff_zip.2 ⟨hall.length_eq, fun {candidate entry} hmem => ?_⟩
  obtain ⟨last, hlast, hid, hcontent⟩ := shownFor_last (List.forall₂_zip hall hmem)
  obtain ⟨other, hother, hsame, hlike⟩ := lastNamed_mem hlast
  obtain rfl := List.inj_on_of_nodup_map hids hother (List.of_mem_zip hmem).1 hsame
  exact ⟨hid, by rw [hcontent, hlike]⟩

/-- Items that come later in the order do not sort before it. -/
theorem later_key {later : ContextItem} (h : ordered budget candidates = before ++ item :: after)
    (hlater : later ∈ after) : ¬itemSortKey later ≤ itemSortKey item := by
  intro hle
  have hsorted : (ordered budget candidates).Pairwise fun a b => itemSortKey a ≤ itemSortKey b :=
    List.pairwise_insertionSort _ _
  have hnodup := ordered_ids budget hids
  rw [h] at hsorted hnodup
  have hge := (List.pairwise_cons.1 (List.pairwise_append.1 hsorted).2.1).1 later hlater
  have hkey : itemSortKey later = itemSortKey item := le_antisymm hle hge
  have hid : later.itemId = item.itemId := by
    have := congrArg (fun key : Int ×ₗ Rat ×ₗ Int ×ₗ Nat ×ₗ String =>
      (ofLex (ofLex (ofLex (ofLex key).2).2).2).2) hkey
    exact this
  rw [List.map_append, List.map_cons, List.nodup_append] at hnodup
  have hnew := (List.nodup_cons.1 hnodup.2.1).1
  exact hnew (hid ▸ List.mem_map_of_mem hlater)

theorem selectItems_bySource (h : entry ∈ selectItems budget candidates)
    (hincluded : entry.included = true) (hmust : entry.mustInclude = false) {limit : Int}
    (hlimit : budget.sourceBudgets.get? entry.source = some limit) :
    (tokensOf (fun other => other.source = entry.source &&
      decide (itemSortKey other ≤ itemSortKey entry)) (selectItems budget candidates) : Int) ≤
        limit := by
  have hperm := selectItems_perm budget hids
  obtain ⟨before, item, after, hl, rfl⟩ := mem_entries_start (hperm.mem_iff.1 h)
  have hentry := entryOf_entry budget (reached budget before) item
  rw [hentry.source] at hlimit ⊢
  rw [hentry.mustInclude] at hmust
  rw [hentry.key, tokensOf_perm hperm, hl, ← List.singleton_append, ← List.append_assoc,
    entries_append, tokensOf_append]
  -- what comes later sorts after the item
  have hlater : tokensOf (fun other => decide (other.source = item.source) &&
      decide (itemSortKey other ≤ itemSortKey item))
      (entries budget (reached budget (before ++ [item])) after) = 0 := by
    have hnone : tokensOf (fun _ => false)
        (entries budget (reached budget (before ++ [item])) after) = 0 := by simp [tokensOf]
    refine Nat.le_zero.1 (hnone ▸ tokensOf_mono fun other hother _ htest => ?_)
    have hall := entries_forall budget (reached budget (before ++ [item])) after
    obtain ⟨n, hn, hget⟩ := List.getElem_of_mem hother
    have hpair := (List.forall₂_iff_get.1 hall).2 n (hall.length_eq ▸ hn) hn
    simp only [List.get_eq_getElem, hget] at hpair
    simp only [hpair.1.key, Bool.and_eq_true, decide_eq_true_eq] at htest
    exact absurd htest.2 (later_key hids hl (List.getElem_mem _))
  have hsource := source_within hincluded hmust hlimit
  have hearlier : tokensOf (fun other => decide (other.source = item.source) &&
      decide (itemSortKey other ≤ itemSortKey item)) (entries budget .start (before ++ [item])) ≤
      tokensOf (fun other => other.source = item.source)
        (entries budget .start (before ++ [item])) :=
    tokensOf_mono fun other _ _ htest => (Bool.and_eq_true _ _ ▸ htest).1
  rw [show (before ++ [item]).foldl (selectItem budget) .start = reached budget (before ++ [item])
    from rfl, hlater]
  omega

omit hids

/-! ## Limits -/

/-- If the content is cut, there is room for the marker: the text is no longer than before and
within the limits. -/
def MarkerFits (budget : ContextBudget) (content : String) : Prop :=
  match cutContent budget content with
  | (_, none) => True
  | (cut, some _) =>
    cut.length + 20 ≤ content.length ∧
    (∀ limit ∈ budget.perItemCharLimit, cut.length + 20 ≤ limit) ∧
    ∀ limit ∈ budget.perItemTokenLimit,
      ((cut.length + 20 : Nat) : Rat) ≤ limit * max budget.charsPerToken (1 / 10)

theorem keepsLimits_iff (h : entry.content = limitedContent budget candidate.content) :
    KeepsLimits budget candidate entry ↔ MarkerFits budget candidate.content := by
  have hmarker : truncationMarker.length = 20 := by decide
  unfold KeepsLimits MarkerFits
  rw [h]
  unfold limitedContent
  split
  · next hcut => simp [hcut]
  · next cut limit hcut =>
    simp only [hcut, Option.isSome_some, true_imp_iff, String.length_append, hmarker]
    refine and_congr_right fun _ => and_congr_right fun _ => forall₂_congr fun limit hlimit => ?_
    refine (tokenEstimate_exact_le_iff (budget.perItemTokenLimit_pos limit hlimit)).trans ?_
    rw [String.length_append, hmarker]

def Overtaken (budget : ContextBudget) (candidates : List ContextItem) : Prop :=
  OvertakenIn budget (ordered budget candidates)

/-- The contents are their candidates' own if and only if those that share an id are alike. With
distinct ids, the selection does all that it is for if and only if no item that must be included
overtakes others and every cut content leaves room for the marker. -/
theorem selectItems_iff (budget : ContextBudget) (candidates : List ContextItem) :
    (List.Forall₂ (Carries budget) candidates (selectItems budget candidates) ↔
      SharedAlike budget candidates) ∧
    ((candidates.map (·.itemId)).Nodup →
      (Selects budget candidates (selectItems budget candidates) ↔
        ¬Overtaken budget candidates ∧
          ∀ candidate ∈ candidates, MarkerFits budget candidate.content)) := by
  refine ⟨selectItems_own_iff budget candidates, fun hids => ?_⟩
  have hperm := selectItems_perm budget hids
  have hcontents := selectItems_contents budget hids
  have htotal := total_iff budget (ordered budget candidates)
  have hsplit := tokensOf_split (entries budget .start (ordered budget candidates))
  have hlimits : List.Forall₂ (KeepsLimits budget) candidates (selectItems budget candidates) ↔
      ∀ candidate ∈ candidates, MarkerFits budget candidate.content := by
    constructor
    · intro h candidate hmem
      obtain ⟨n, hn, hget⟩ := List.getElem_of_mem hmem
      have hkeeps := (List.forall₂_iff_get.1 h).2 n hn (h.length_eq ▸ hn)
      have hcontent := (List.forall₂_iff_get.1 hcontents).2 n hn (h.length_eq ▸ hn)
      simp only [List.get_eq_getElem, hget] at hkeeps hcontent
      exact (keepsLimits_iff hcontent.2).1 hkeeps
    · intro h
      refine List.forall₂_iff_zip.2 ⟨hcontents.length_eq, fun {candidate entry} hmem => ?_⟩
      exact (keepsLimits_iff (List.forall₂_zip hcontents hmem).2).2
        (h candidate (List.of_mem_zip hmem).1)
  constructor
  · intro h
    refine ⟨htotal.1 ?_, hlimits.1 h.limits⟩
    have hbound := h.total
    rw [tokensOf_perm hperm, tokensOf_perm hperm, le_max_iff] at hbound
    omega
  · rintro ⟨hnone, hfits⟩
    refine ⟨hcontents.imp fun _ _ h => ⟨h.1, .inr h.2⟩, ?_, ?_, hlimits.2 hfits⟩
    · rw [tokensOf_perm hperm, tokensOf_perm hperm, le_max_iff]
      have hbound := htotal.2 hnone
      omega
    · intro entry hentry hincluded hmust limit hlimit
      exact selectItems_bySource hids hentry hincluded hmust hlimit

/-! ## Sample items -/

def sampleItem (itemId content : String) (priority : Nat) (mustInclude : Bool) : ContextItem where
  itemId
  source := "host_history"
  scope := "session"
  role := none
  content
  structuredValue := none
  priority
  relevance := 1 / 2
  createdAt := none
  tokenEstimate := 0
  charCount := 0
  included := false
  status := .dropped
  dropReason := none
  truncated := false
  summaryPlaceholder := false
  mustInclude
  purpose := .routeDecision
  consumer := "router"
  authority := .derived
  visibility := []
  sourceRef := none
  dedupeKey := none
  conflictKey := none
  metadata := []

def itemBudget (maxTokens : Nat) (hpos : 0 < maxTokens) : ContextBudget where
  maxTokens
  sourceBudgets := .empty
  perItemTokenLimit := none
  perItemCharLimit := some 12
  charsPerToken := 1
  allowSummaryPlaceholder := false
  maxTokens_pos := hpos
  perItemTokenLimit_pos := noLimit_pos
  perItemCharLimit_pos := by simp
  charsPerToken_pos := one_char_pos

def sameId : List ContextItem := [sampleItem "m" "hello" 60 false, sampleItem "m" "bye" 50 false]

/-- An item that must be included, after another that takes the whole budget. -/
def lateMust : List ContextItem :=
  [sampleItem "a" "0123456789" 60 false, sampleItem "b" "needed" 50 true]

def overLimit : List ContextItem := [sampleItem "a" "0123456789abc" 60 false]

/-- Shared ids, a late item that must be included and the marker each break what the selection is
for. -/
theorem selection_breaks :
    ¬Selects (itemBudget 100 (by decide)) sameId (selectItems (itemBudget 100 (by decide)) sameId) ∧
    ¬Selects (itemBudget 10 (by decide)) lateMust
      (selectItems (itemBudget 10 (by decide)) lateMust) ∧
    ¬Selects (itemBudget 100 (by decide)) overLimit
      (selectItems (itemBudget 100 (by decide)) overLimit) := by
  refine ⟨fun h => ?_, fun h => ?_, fun h => ?_⟩
  · have hcontents : (selectItems (itemBudget 100 (by decide)) sameId).map (·.content) =
        ["bye", "bye"] := by decide +kernel
    have hown := h.own
    generalize selectItems (itemBudget 100 (by decide)) sameId = selected at hcontents hown
    cases hown with
    | cons hfirst _ =>
      have hbye := (List.cons.inj hcontents).1
      rcases hfirst.content with hcontent | hcontent
      · exact absurd (hbye.symm.trans hcontent) (by decide)
      · exact absurd (hbye.symm.trans hcontent) (by decide)
  · have htotals : ¬tokensOf (fun _ => true) (selectItems (itemBudget 10 (by decide)) lateMust) ≤
        max 10 (tokensOf (·.mustInclude) (selectItems (itemBudget 10 (by decide)) lateMust)) := by
      decide +kernel
    exact htotals h.total
  · have hcontents : (selectItems (itemBudget 100 (by decide)) overLimit).map (·.content.length) =
        [32] := by decide +kernel
    have hlimits := h.limits
    generalize selectItems (itemBudget 100 (by decide)) overLimit = selected at hcontents hlimits
    cases hlimits with
    | cons hfirst _ =>
      have hlength := (hfirst (by decide)).1
      have hlong := (List.cons.inj hcontents).1
      have hshort : (sampleItem "a" "0123456789abc" 60 false).content.length = 13 := by decide
      simp only at hlong
      omega

end OpenIntentRouter.Context
