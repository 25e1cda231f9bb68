import OpenIntentRouter.Context.Budget
import OpenIntentRouter.Core.Groups

/-!
# Duplicates and conflicts

`_dedupe_and_resolve_conflicts` (app/services/context_pipeline_service.py:329-439) walks over the
eligible candidates in the order of `_candidate_sort_key` (774-782), which puts what must be
included before what has more authority, drops duplicates of what it has kept, and then resolves
the conflicts of what is kept, group by group; it removes candidates by their ids. The candidates
are arbitrary, and so are the hash, `lower` and `str` that the keys and the values are made with.

Results:
* `Deduplicated`: the duplicates that are dropped, each for one that is kept before it;
* `resolveGroup_spec`: what the conflict of a group decides about those who lose it;
* `dedupeAndResolveConflicts_eq`: every candidate is a duplicate, loses a conflict, is lost with
  one of its id, or reaches the selection;
* `Respected`, `Fair`, `conflicts_respected_iff`: every candidate is decided once, and displaced
  only by one that reaches the selection and has no lower authority, if and only if none must be
  included against its authority, none is kept for a duplicate and loses its conflict, and no two
  share an id of which one loses;
* `displaced_by_lower_authority`: three inputs that are not fair.
-/
namespace OpenIntentRouter.Context

open Core Core.Except Schemas Services Services.ContextPipelineService

variable {service : ContextPipelineService} {request : ContextRequest} {purpose : ContextPurpose}
  {consumer : ContextConsumer} {budget : ContextBudget}

/-! ## The order -/

/-- The candidate must be included and the other not, or its authority is no lower. -/
def Precedes (winner candidate : ContextCandidate) : Prop :=
  winner.mustInclude = true ∧ candidate.mustInclude = false ∨
    winner.mustInclude = candidate.mustInclude ∧
      authorityRank winner.authority ≤ authorityRank candidate.authority

variable {winner duplicate : ContextCandidate} {done group rest kept : List ContextCandidate}
  {outcome : ContextDecisionOutcome} {selected : List (ContextCandidate × ContextTraceDecision)}

theorem precedes_of_le {candidate : ContextCandidate}
    (h : candidateSortKey winner ≤ candidateSortKey candidate) : Precedes winner candidate := by
  unfold candidateSortKey at h
  rw [Prod.Lex.toLex_le_toLex] at h
  rcases h with h | ⟨heq, h⟩
  · left
    cases hw : winner.mustInclude <;> cases hc : candidate.mustInclude <;> simp [hw, hc] at h ⊢
  · right
    constructor
    · cases hw : winner.mustInclude <;> cases hc : candidate.mustInclude <;> simp [hw, hc] at heq ⊢
    · rw [Prod.Lex.toLex_le_toLex] at h
      rcases h with h | ⟨heq, -⟩
      · exact h.le
      · exact heq.le

/-- A candidate that must be included, against one of higher authority that need not be. -/
def Outranked (winner candidate : ContextCandidate) : Prop :=
  winner.mustInclude = true ∧ candidate.mustInclude = false ∧
    authorityRank candidate.authority < authorityRank winner.authority

theorem Precedes.rank_le_iff {candidate : ContextCandidate} (h : Precedes winner candidate) :
    authorityRank winner.authority ≤ authorityRank candidate.authority ↔
      ¬Outranked winner candidate := by
  rcases h with ⟨hw, hc⟩ | ⟨-, hle⟩
  · simp [Outranked, hw, hc]
  · exact iff_of_true hle fun ⟨_, _, hlt⟩ => absurd hle (not_le.2 hlt)

theorem sortCandidates_perm (candidates : List ContextCandidate) :
    (sortCandidates candidates).Perm candidates :=
  List.perm_insertionSort _ candidates

theorem sortCandidates_pairwise (candidates : List ContextCandidate) :
    (sortCandidates candidates).Pairwise fun a b => candidateSortKey a ≤ candidateSortKey b := by
  have : Std.Total fun a b : ContextCandidate => candidateSortKey a ≤ candidateSortKey b :=
    ⟨fun a b => le_total _ _⟩
  have : IsTrans ContextCandidate fun a b => candidateSortKey a ≤ candidateSortKey b :=
    ⟨fun a b c => le_trans⟩
  exact List.pairwise_insertionSort _ candidates

/-! ## Duplicates -/

def duplicateDecision (candidate duplicate : ContextCandidate) : ContextTraceDecision :=
  contextDecision candidate .duplicateDropped (some "duplicate_candidate") none
    [candidateRef duplicate] 0

def Shares {κ : Type} (key : ContextCandidate → Option κ) (a b : ContextCandidate) : Prop :=
  ∃ k, key a = some k ∧ key b = some k

/-- A candidate that is kept has the stable key of the other, or, if none has it, its content. -/
def Represents (service : ContextPipelineService) (kept : List ContextCandidate)
    (duplicate candidate : ContextCandidate) : Prop :=
  duplicate ∈ kept ∧ (Shares stableKey duplicate candidate ∨
    (∀ other ∈ kept, ¬Shares stableKey other candidate) ∧
      Shares service.contentKey duplicate candidate)

def seenAfter (service : ContextPipelineService) (done : List ContextCandidate) : Deduplication :=
  done.foldl service.dedupe ⟨[], [], .empty, .empty⟩

def distinct (service : ContextPipelineService) (done : List ContextCandidate) :
    List ContextCandidate :=
  (seenAfter service done).canonical

/-- mirrors app/services/context_pipeline_service.py:345-352 -/
def duplicateOf (service : ContextPipelineService) (seen : Deduplication)
    (candidate : ContextCandidate) : Option ContextCandidate :=
  ((stableKey candidate).bind seen.seenKeys.get?).or
    ((service.contentKey candidate).bind seen.seenContent.get?)

theorem dedupe_of_some {seen : Deduplication} {candidate : ContextCandidate}
    (h : duplicateOf service seen candidate = some duplicate) :
    service.dedupe seen candidate =
      { seen with decisions := seen.decisions ++ [duplicateDecision candidate duplicate] } := by
  unfold duplicateOf at h
  unfold ContextPipelineService.dedupe
  dsimp only
  rw [h]
  rfl

theorem dedupe_of_none {seen : Deduplication} {candidate : ContextCandidate}
    (h : duplicateOf service seen candidate = none) :
    service.dedupe seen candidate =
      { seen with
        canonical := seen.canonical ++ [candidate]
        seenKeys := (stableKey candidate).elim seen.seenKeys fun key => seen.seenKeys.set key candidate
        seenContent := (service.contentKey candidate).elim seen.seenContent fun key =>
          seen.seenContent.set key candidate } := by
  unfold duplicateOf at h
  unfold ContextPipelineService.dedupe
  dsimp only
  rw [h]

/-- The dictionary finds what is kept, by its key. -/
def Indexes {κ : Type} [DecidableEq κ] (key : ContextCandidate → Option κ)
    (d : Dict κ ContextCandidate) (kept : List ContextCandidate) : Prop :=
  ∀ k c, d.get? k = some c ↔ c ∈ kept ∧ key c = some k

section Indexes

variable {κ : Type} [DecidableEq κ] {key : ContextCandidate → Option κ}
  {d : Dict κ ContextCandidate} {kept : List ContextCandidate} {candidate : ContextCandidate}

theorem Indexes.bind_iff (h : Indexes key d kept) :
    (key candidate).bind d.get? = some duplicate ↔
      duplicate ∈ kept ∧ Shares key duplicate candidate := by
  rw [Option.bind_eq_some_iff]
  constructor
  · rintro ⟨k, hk, hget⟩
    obtain ⟨hmem, hkey⟩ := (h k duplicate).1 hget
    exact ⟨hmem, k, hkey, hk⟩
  · rintro ⟨hmem, k, hkey, hk⟩
    exact ⟨k, hk, (h k duplicate).2 ⟨hmem, hkey⟩⟩

theorem Indexes.snoc (h : Indexes key d kept) (hnone : (key candidate).bind d.get? = none) :
    Indexes key ((key candidate).elim d fun k => d.set k candidate) (kept ++ [candidate]) := by
  intro k c
  rw [List.mem_append, List.mem_singleton, or_and_right, ← h k c]
  cases hslot : key candidate with
  | none =>
    refine (or_iff_left ?_).symm
    rintro ⟨rfl, hk⟩
    rw [hslot] at hk
    cases hk
  | some slot =>
    rw [hslot, Option.bind_some] at hnone
    rw [Option.elim_some, Dict.get?_set]
    split_ifs with heq
    · subst heq
      rw [hnone]
      constructor
      · intro hc
        cases hc
        exact .inr ⟨rfl, hslot⟩
      · rintro (hc | ⟨rfl, -⟩)
        · cases hc
        · rfl
    · refine (or_iff_left ?_).symm
      rintro ⟨rfl, hk⟩
      exact heq (Option.some.inj (hslot.symm.trans hk))

end Indexes

/-- The candidates so far are kept or dropped, each for one that was kept before it. -/
structure Deduplicated (service : ContextPipelineService) (done : List ContextCandidate)
    (dropped : List (ContextCandidate × ContextTraceDecision)) : Prop where
  accounted : (dropped.map Prod.fst ++ distinct service done).Perm done
  decisions : (seenAfter service done).decisions = dropped.map Prod.snd
  duplicate : ∀ p ∈ dropped, ∃ before after duplicate, done = before ++ p.1 :: after ∧
    duplicateOf service (seenAfter service before) p.1 = some duplicate ∧
    p.2 = duplicateDecision p.1 duplicate
  keys : Indexes stableKey (seenAfter service done).seenKeys (distinct service done)
  contents : Indexes service.contentKey (seenAfter service done).seenContent (distinct service done)

theorem Deduplicated.duplicateOf_iff {dropped : List (ContextCandidate × ContextTraceDecision)}
    {candidate : ContextCandidate} (h : Deduplicated service done dropped) :
    duplicateOf service (seenAfter service done) candidate = some duplicate ↔
      Represents service (distinct service done) duplicate candidate := by
  have hnone : (stableKey candidate).bind (seenAfter service done).seenKeys.get? = none ↔
      ∀ other ∈ distinct service done, ¬Shares stableKey other candidate := by
    rw [Option.eq_none_iff_forall_not_mem]
    exact forall_congr' fun other => (not_congr h.keys.bind_iff).trans not_and
  rw [duplicateOf, Option.or_eq_some_iff, h.keys.bind_iff, h.contents.bind_iff, hnone, Represents,
    and_or_left, and_left_comm]

theorem seenAfter_snoc (done : List ContextCandidate) (candidate : ContextCandidate) :
    seenAfter service (done ++ [candidate]) = service.dedupe (seenAfter service done) candidate :=
  List.foldl_concat ..

theorem Deduplicated.snoc {done : List ContextCandidate}
    {dropped : List (ContextCandidate × ContextTraceDecision)} (candidate : ContextCandidate)
    (h : Deduplicated service done dropped) :
    ∃ dropped', Deduplicated service (done ++ [candidate]) dropped' := by
  have hold : ∀ p ∈ dropped, ∃ before after duplicate, done ++ [candidate] = before ++ p.1 :: after ∧
      duplicateOf service (seenAfter service before) p.1 = some duplicate ∧
      p.2 = duplicateDecision p.1 duplicate := by
    intro p hp
    obtain ⟨before, after, duplicate, rfl, hrest⟩ := h.duplicate p hp
    exact ⟨before, after ++ [candidate], duplicate, by simp, hrest⟩
  cases hfound : duplicateOf service (seenAfter service done) candidate with
  | some duplicate =>
    have hseen := (seenAfter_snoc done candidate).trans (dedupe_of_some hfound)
    have hkept : distinct service (done ++ [candidate]) = distinct service done := by
      rw [distinct, hseen]
      rfl
    refine ⟨dropped ++ [(candidate, duplicateDecision candidate duplicate)], ?_, ?_, ?_, ?_, ?_⟩
    · rw [hkept, List.map_append, List.append_assoc]
      refine List.Perm.trans ?_ (h.accounted.append_right [candidate])
      rw [List.append_assoc]
      exact List.perm_append_comm.append_left _
    · rw [hseen, List.map_append, ← h.decisions]
      rfl
    · intro p hp
      rcases List.mem_append.1 hp with hp | hp
      · exact hold p hp
      · rw [List.mem_singleton.1 hp]
        exact ⟨done, [], duplicate, rfl, hfound, rfl⟩
    · rw [hkept, hseen]
      exact h.keys
    · rw [hkept, hseen]
      exact h.contents
  | none =>
    have hseen := (seenAfter_snoc done candidate).trans (dedupe_of_none hfound)
    have hkept : distinct service (done ++ [candidate]) = distinct service done ++ [candidate] := by
      rw [distinct, hseen]
      rfl
    obtain ⟨hkeys, hcontents⟩ := Option.or_eq_none_iff.1 hfound
    refine ⟨dropped, ?_, ?_, hold, ?_, ?_⟩
    · rw [hkept, ← List.append_assoc]
      exact h.accounted.append_right _
    · rw [hseen]
      exact h.decisions
    · rw [hkept, hseen]
      exact h.keys.snoc hkeys
    · rw [hkept, hseen]
      exact h.contents.snoc hcontents

theorem deduplicated (service : ContextPipelineService) (done : List ContextCandidate) :
    ∃ dropped, Deduplicated service done dropped := by
  induction done using List.reverseRecOn with
  | nil =>
    exact ⟨[], List.Perm.refl _, rfl, fun _ hp => absurd hp List.not_mem_nil,
      fun _ _ => iff_of_false (by simp [seenAfter]) (by simp [distinct, seenAfter]),
      fun _ _ => iff_of_false (by simp [seenAfter]) (by simp [distinct, seenAfter])⟩
  | append_singleton done candidate ih =>
    obtain ⟨_, h⟩ := ih
    exact h.snoc candidate

theorem distinct_subset (done : List ContextCandidate) : distinct service done ⊆ done := by
  obtain ⟨_, h⟩ := deduplicated service done
  exact fun _ hc => h.accounted.subset (List.mem_append_right _ hc)

/-- What is kept stays. -/
theorem distinct_subset_append (done rest : List ContextCandidate) :
    distinct service done ⊆ distinct service (done ++ rest) := by
  induction rest using List.reverseRecOn with
  | nil =>
    rw [List.append_nil]
    exact List.Subset.refl _
  | append_singleton rest candidate ih =>
    refine fun c hc => ?_
    rw [← List.append_assoc, distinct, seenAfter_snoc]
    cases hfound : duplicateOf service (seenAfter service (done ++ rest)) candidate with
    | some duplicate =>
      rw [dedupe_of_some hfound]
      exact ih hc
    | none =>
      rw [dedupe_of_none hfound]
      exact List.mem_append_left _ (ih hc)

theorem duplicateOf_iff {candidate : ContextCandidate} :
    duplicateOf service (seenAfter service done) candidate = some duplicate ↔
      Represents service (distinct service done) duplicate candidate := by
  obtain ⟨_, h⟩ := deduplicated service done
  exact h.duplicateOf_iff

/-! ## The conflict of a group -/

def conflictKeyOf (candidate : ContextCandidate) : Option String :=
  candidate.conflictKey.filter (· ≠ "")

def conflictOf (kept : List ContextCandidate) (conflictKey : String) : List ContextCandidate :=
  kept.filter fun candidate => conflictKeyOf candidate = some conflictKey

/-- The current input and a memory are in conflict. -/
def overridesMemory (group : List ContextCandidate) : Bool :=
  group.any (·.source = "current_input") && group.any (·.source = "memory")

/-- The candidate is removed by the conflict of its group: it is a memory that the current input
overrides, or the group is put to the user, or another has won. -/
def loses (service : ContextPipelineService) (group : List ContextCandidate)
    (candidate : ContextCandidate) : Bool :=
  service.disputed group &&
    if overridesMemory group then candidate.source = "memory"
    else match sortCandidates group with
      | [] => false
      | winner :: _ =>
        service.unresolvable group winner || candidate.candidateId ≠ winner.candidateId

section Loses

variable {group rest : List ContextCandidate} {winner candidate : ContextCandidate}

theorem loses_of_overridesMemory (h : overridesMemory group = true) :
    loses service group candidate =
      (service.disputed group && decide (candidate.source = "memory")) := by
  rw [loses, if_pos h]

theorem loses_of_winner (h : overridesMemory group = false) (hsorted : sortCandidates group = winner :: rest) :
    loses service group candidate = (service.disputed group && (service.unresolvable group winner ||
      decide (candidate.candidateId ≠ winner.candidateId))) := by
  rw [loses, if_neg (by rw [h]; decide), hsorted]

end Loses

/-- Who displaces a candidate of the group, and how. -/
inductive DisplacedBy (service : ContextPipelineService) (group : List ContextCandidate)
    (candidate : ContextCandidate) : ContextDecisionOutcome → ContextCandidate → Prop
  | overridden {current : ContextCandidate} : service.disputed group = true →
    candidate.source = "memory" → group.find? (·.source = "current_input") = some current →
    DisplacedBy service group candidate .overriddenForTurn current
  | superseded {winner : ContextCandidate} {rest : List ContextCandidate} :
    service.disputed group = true → overridesMemory group = false →
    sortCandidates group = winner :: rest → service.unresolvable group winner = false →
    candidate.candidateId ≠ winner.candidateId →
    DisplacedBy service group candidate .superseded winner

/-- The decision about a candidate that its group removes. -/
def DecidedBy (service : ContextPipelineService) (group : List ContextCandidate)
    (candidate : ContextCandidate) (decision : ContextTraceDecision) : Prop :=
  ∃ outcome reason key refs,
    decision = contextDecision candidate outcome reason key refs 0 ∧
      (outcome = .unresolvedConflict ∨
        ∃ displacer, DisplacedBy service group candidate outcome displacer ∧
          refs = [candidateRef displacer])

structure Resolves (service : ContextPipelineService) (group : List ContextCandidate)
    (resolution : Resolution) (decision : ContextCandidate → ContextTraceDecision) : Prop where
  removed : resolution.removed = (group.filter (loses service group)).map (·.candidateId)
  decisions : resolution.decisions = (group.filter (loses service group)).map decision
  decided : ∀ c ∈ group.filter (loses service group), DecidedBy service group c (decision c)

theorem Resolves.none (h : ∀ c ∈ group, loses service group c = false) :
    Resolves service group ⟨[], [], []⟩ fun c => duplicateDecision c c := by
  have hfilter : group.filter (loses service group) = [] :=
    List.filter_eq_nil_iff.2 fun c hc => by simp [h c hc]
  constructor <;> simp [hfilter]

theorem overridesMemory_of_find {current memory : ContextCandidate}
    (hcurrent : group.find? (·.source = "current_input") = some current)
    (hmemories : group.filter (·.source = "memory") = memory :: rest) :
    overridesMemory group = true := by
  have hmem : memory ∈ group.filter (·.source = "memory") := by
    rw [hmemories]
    exact List.mem_cons_self
  obtain ⟨hmemory, hsource⟩ := List.mem_filter.1 hmem
  have hfound := List.find?_some hcurrent
  exact Bool.and_eq_true_iff.2 ⟨List.any_eq_true.2 ⟨current, List.mem_of_find?_eq_some hcurrent,
    hfound⟩, List.any_eq_true.2 ⟨memory, hmemory, hsource⟩⟩

theorem not_overridesMemory
    (h : ∀ current memory rest, group.find? (·.source = "current_input") = some current →
      group.filter (·.source = "memory") = memory :: rest → False) :
    overridesMemory group = false := by
  refine Bool.eq_false_iff.2 fun hover => ?_
  obtain ⟨hcurrent, hmemory⟩ := Bool.and_eq_true_iff.1 hover
  obtain ⟨c, hc, hsource⟩ := List.any_eq_true.1 hcurrent
  obtain ⟨m, hm, hmsource⟩ := List.any_eq_true.1 hmemory
  cases hfind : group.find? (·.source = "current_input") with
  | none => exact List.find?_eq_none.1 hfind c hc hsource
  | some current =>
    cases hfilter : group.filter (·.source = "memory") with
    | nil => exact List.filter_eq_nil_iff.1 hfilter m hm hmsource
    | cons memory rest => exact h current memory rest hfind hfilter

theorem resolveGroup_spec (service : ContextPipelineService) (purpose : ContextPurpose)
    (consumer : ContextConsumer) (conflictKey : String) (group : List ContextCandidate) :
    ∃ decision, Resolves service group (service.resolveGroup purpose consumer conflictKey group)
      decision := by
  unfold resolveGroup
  split_ifs with hdisputed
  · refine ⟨_, .none fun c _ => ?_⟩
    have : service.disputed group = false := by simpa using hdisputed
    simp [loses, this]
  have hdisputed : service.disputed group = true := by simpa using hdisputed
  dsimp only
  split
  · next current memory rest hcurrent hmemories =>
    have hover := overridesMemory_of_find hcurrent hmemories
    have hfilter : group.filter (loses service group) = memory :: rest := by
      rw [← hmemories]
      exact List.filter_congr fun c _ => by rw [loses_of_overridesMemory hover, hdisputed, Bool.true_and]
    rw [← hfilter]
    refine ⟨_, rfl, rfl, fun c hc => ?_⟩
    have hsource : c.source = "memory" := by
      rw [hfilter, ← hmemories] at hc
      exact of_decide_eq_true (List.mem_filter.1 hc).2
    exact ⟨_, _, _, _, rfl, .inr ⟨current, .overridden hdisputed hsource hcurrent, rfl⟩⟩
  · next hnone =>
    have hover := not_overridesMemory fun current memory rest hc hm => hnone current memory rest hc hm
    split
    · next hsorted => exact ⟨_, .none fun c _ => by simp [loses, hover, hsorted]⟩
    · next winner rest hsorted =>
      split_ifs with hunresolvable
      · have hall : group.filter (loses service group) = group :=
          List.filter_eq_self.2 fun c _ => by
            rw [loses_of_winner hover hsorted, hdisputed, hunresolvable]
            rfl
        rw [show group.map (·.candidateId) = (group.filter (loses service group)).map (·.candidateId) by
          rw [hall]]
        refine ⟨_, rfl, by rw [hall], fun c hc => ⟨_, _, _, _, rfl, .inl rfl⟩⟩
      · have hunresolvable : service.unresolvable group winner = false := by
          simpa using hunresolvable
        have hfilter : group.filter (loses service group) =
            group.filter (·.candidateId ≠ winner.candidateId) :=
          List.filter_congr fun c _ => by
            rw [loses_of_winner hover hsorted, hdisputed, hunresolvable, Bool.true_and,
              Bool.false_or]
        rw [← hfilter]
        refine ⟨_, rfl, rfl, fun c hc => ?_⟩
        have hid : c.candidateId ≠ winner.candidateId := by
          rw [hfilter] at hc
          exact of_decide_eq_true (List.mem_filter.1 hc).2
        exact ⟨_, _, _, _, rfl, .inr ⟨winner,
          .superseded hdisputed hover hsorted hunresolvable hid, rfl⟩⟩

/-! ## Both stages -/

section Stages

variable (service : ContextPipelineService) (kept : List ContextCandidate)

def losesConflict (candidate : ContextCandidate) : Bool :=
  (conflictKeyOf candidate).any fun key => loses service (conflictOf kept key) candidate

def losers : List ContextCandidate := kept.filter (losesConflict service kept)

/-- The id of the candidate is removed. -/
def removed (candidate : ContextCandidate) : Bool :=
  (losers service kept).any (·.candidateId = candidate.candidateId)

def reaching : List ContextCandidate := kept.filter fun c => !removed service kept c

/-- What is removed though it loses no conflict. -/
def lost : List ContextCandidate :=
  kept.filter fun c => removed service kept c && !losesConflict service kept c

def conflictSignals (purpose : ContextPurpose) (consumer : ContextConsumer) :
    List ContextCandidate :=
  ((conflictGroups kept).map fun (conflictKey, group) =>
    service.resolveGroup purpose consumer conflictKey group).flatMap (·.synthetic)

end Stages

section Removed

variable {kept : List ContextCandidate} {candidate : ContextCandidate}

theorem removed_iff : removed service kept candidate = true ↔
    ∃ p ∈ kept, losesConflict service kept p = true ∧ p.candidateId = candidate.candidateId := by
  simp [removed, losers]

theorem mem_reaching : candidate ∈ reaching service kept ↔ candidate ∈ kept ∧
    ∀ p ∈ kept, losesConflict service kept p = true → p.candidateId ≠ candidate.candidateId := by
  rw [reaching, List.mem_filter, Bool.not_eq_true', ← Bool.not_eq_true, removed_iff]
  push Not
  rfl

theorem lost_eq_nil_iff : lost service kept = [] ↔
    ∀ c ∈ kept, ∀ p ∈ kept, losesConflict service kept p = true → p.candidateId = c.candidateId →
      losesConflict service kept c = true := by
  rw [lost, List.filter_eq_nil_iff]
  refine forall₂_congr fun c _ => ?_
  rw [Bool.and_eq_true, removed_iff, Bool.not_eq_true', ← Bool.not_eq_true, not_and_not_right]
  exact ⟨fun h p hp hloses hid => h ⟨p, hp, hloses, hid⟩,
    fun h ⟨p, hp, hloses, hid⟩ => h p hp hloses hid⟩

end Removed

/-- What was dropped for which candidate: for the duplicate that is kept before it, or for the one
that displaces it in its conflict. -/
inductive DroppedFor (service : ContextPipelineService) (eligible : List ContextCandidate) :
    ContextDecisionOutcome → ContextCandidate → ContextCandidate → Prop
  | duplicate {before after : List ContextCandidate} {candidate duplicate : ContextCandidate} :
    sortCandidates eligible = before ++ candidate :: after →
    duplicateOf service (seenAfter service before) candidate = some duplicate →
    DroppedFor service eligible .duplicateDropped candidate duplicate
  | displaced {conflictKey : String} {outcome : ContextDecisionOutcome}
      {candidate displacer : ContextCandidate} :
    candidate ∈ distinct service (sortCandidates eligible) →
    conflictKeyOf candidate = some conflictKey →
    DisplacedBy service (conflictOf (distinct service (sortCandidates eligible)) conflictKey)
      candidate outcome displacer →
    DroppedFor service eligible outcome candidate displacer

def droppedOutcomes : List ContextDecisionOutcome :=
  [.duplicateDropped, .overriddenForTurn, .superseded]

/-- The decision is about the candidate, and names the one that it is dropped for. -/
def Decides (service : ContextPipelineService) (eligible : List ContextCandidate)
    (candidate : ContextCandidate) (decision : ContextTraceDecision) : Prop :=
  ∃ outcome reason key refs tokens,
    decision = contextDecision candidate outcome reason key refs tokens ∧
      (outcome ∈ droppedOutcomes → ∃ displacer,
        DroppedFor service eligible outcome candidate displacer ∧ refs = [candidateRef displacer])

theorem DroppedFor.outcome_mem {eligible : List ContextCandidate}
    {candidate displacer : ContextCandidate}
    (h : DroppedFor service eligible outcome candidate displacer) : outcome ∈ droppedOutcomes := by
  cases h with
  | duplicate => decide
  | displaced _ _ hby => cases hby <;> decide

/-- The groups of the candidates that are kept, and what is removed of each. -/
theorem conflictGroups_settled (service : ContextPipelineService) (purpose : ContextPurpose)
    (consumer : ContextConsumer) (kept : List ContextCandidate) :
    ∃ displaced : List (ContextCandidate × ContextTraceDecision),
      let resolutions := (conflictGroups kept).map fun (conflictKey, group) =>
        service.resolveGroup purpose consumer conflictKey group
      (displaced.map Prod.fst).Perm (losers service kept) ∧
      resolutions.flatMap (·.removed) = (displaced.map Prod.fst).map (·.candidateId) ∧
      resolutions.flatMap (·.decisions) = displaced.map Prod.snd ∧
      ∀ p ∈ displaced, p.1 ∈ kept ∧ ∃ key, conflictKeyOf p.1 = some key ∧
        DecidedBy service (conflictOf kept key) p.1 p.2 := by
  let keys := (kept.filterMap conflictKeyOf).eraseDups
  choose decision hspec using fun conflictKey =>
    resolveGroup_spec service purpose consumer conflictKey (conflictOf kept conflictKey)
  let displaced := keys.flatMap fun key =>
    ((conflictOf kept key).filter (loses service (conflictOf kept key))).map fun c =>
      (c, decision key c)
  refine ⟨displaced, ?_, ?_, ?_, fun p hp => ?_⟩
  · have : displaced.map Prod.fst = keys.flatMap fun key =>
        (conflictOf kept key).filter (loses service (conflictOf kept key)) := by
      simp [displaced, List.map_flatMap, Function.comp_def]
    rw [this]
    exact Groups.flatMap_groups_perm conflictKeyOf (fun key => loses service (conflictOf kept key)) kept
  · simp only [conflictGroups, displaced, List.flatMap_map, List.map_flatMap, List.map_map]
    exact List.flatMap_congr fun key _ => (hspec key).removed
  · simp only [conflictGroups, displaced, List.flatMap_map, List.map_flatMap, List.map_map]
    exact List.flatMap_congr fun key _ => (hspec key).decisions
  · obtain ⟨key, -, hp⟩ := List.mem_flatMap.1 hp
    obtain ⟨c, hc, rfl⟩ := List.mem_map.1 hp
    obtain ⟨hkept, hkey⟩ := List.mem_filter.1 (List.mem_filter.1 hc).1
    exact ⟨hkept, key, of_decide_eq_true hkey, (hspec key).decided c hc⟩

/-- Every candidate is a duplicate, displaced, lost or reaches the selection. -/
theorem dedupeAndResolveConflicts_eq (service : ContextPipelineService) (purpose : ContextPurpose)
    (consumer : ContextConsumer) (eligible : List ContextCandidate) :
    let kept := distinct service (sortCandidates eligible)
    ∃ settled : List (ContextCandidate × ContextTraceDecision),
      service.dedupeAndResolveConflicts purpose consumer eligible =
        (reaching service kept ++ conflictSignals service kept purpose consumer,
          settled.map Prod.snd) ∧
      (settled.map Prod.fst ++ (lost service kept ++ reaching service kept)).Perm eligible ∧
      ∀ p ∈ settled, Decides service eligible p.1 p.2 ∧
        p.2.outcome ∈ .unresolvedConflict :: droppedOutcomes := by
  intro kept
  obtain ⟨duplicates, hseen⟩ := deduplicated service (sortCandidates eligible)
  obtain ⟨displaced, hperm, hremoved, hdecisions, hdecided⟩ :=
    conflictGroups_settled service purpose consumer kept
  refine ⟨duplicates ++ displaced, ?_, ?_, fun p hp => ?_⟩
  · have hreaching : (kept.filter fun item =>
        !((displaced.map Prod.fst).map (·.candidateId)).contains item.candidateId) =
        reaching service kept := by
      refine List.filter_congr fun c _ => congrArg _ (Bool.eq_iff_iff.2 ?_)
      rw [List.contains_iff_mem, removed, List.any_eq_true, (hperm.map _).mem_iff, List.mem_map]
      simp only [decide_eq_true_eq]
    rw [List.map_append, ← hseen.decisions, ← hdecisions, ← hreaching, ← hremoved]
    rfl
  · have hsplit : (losers service kept ++ (lost service kept ++ reaching service kept)).Perm kept :=
      Groups.filter_split_perm fun c hc hloses => removed_iff.2 ⟨c, hc, hloses, rfl⟩
    rw [List.map_append, List.append_assoc]
    refine ((((hperm.append_right _).trans hsplit).append_left _).trans hseen.accounted).trans ?_
    exact sortCandidates_perm eligible
  · rcases List.mem_append.1 hp with hp | hp
    · obtain ⟨before, after, duplicate, hdone, hfound, hdecision⟩ := hseen.duplicate p hp
      have hdropped : DroppedFor service eligible .duplicateDropped p.1 duplicate :=
        .duplicate hdone hfound
      rw [hdecision]
      exact ⟨⟨_, _, _, _, _, rfl, fun _ => ⟨duplicate, hdropped, rfl⟩⟩,
        List.mem_cons_of_mem _ hdropped.outcome_mem⟩
    · obtain ⟨hkept, key, hkey, outcome, reason, conflictKey, refs, hdecision, hby⟩ := hdecided p hp
      rw [hdecision]
      rcases hby with rfl | ⟨displacer, hby, rfl⟩
      · exact ⟨⟨_, _, _, _, _, rfl, fun h => absurd h (by decide)⟩, List.mem_cons_self⟩
      · have hdropped : DroppedFor service eligible outcome p.1 displacer :=
          .displaced hkept hkey hby
        exact ⟨⟨_, _, _, _, _, rfl, fun _ => ⟨displacer, hdropped, rfl⟩⟩,
          List.mem_cons_of_mem _ hdropped.outcome_mem⟩

/-! ## The selection -/

def shownOutcomes : List ContextDecisionOutcome := [.included, .truncated, .referenced]

theorem shown_not_dropped (h : outcome ∈ shownOutcomes) : outcome ∉ droppedOutcomes := by
  revert h
  cases outcome <;> decide

def statusOutcome : ContextSelectionStatus → ContextDecisionOutcome
  | .included => .included
  | .truncated => .truncated
  | .summaryPlaceholder => .referenced
  | .dropped => .budgetDropped

def Shows (item : ContextItem) (p : ContextCandidate × ContextTraceDecision) : Prop :=
  ItemOf item p.1 ∧
    p.2 = contextDecision p.1 (statusOutcome item.status) none none [] item.tokenEstimate

/-- The candidates so far are decided, and the items are those of the ones that are shown. -/
structure Selected (items : List ContextItem) (decisions : List ContextTraceDecision)
    (selected : List (ContextCandidate × ContextTraceDecision)) : Prop where
  decisions : decisions = selected.map Prod.snd
  items : List.Forall₂ Shows items (selected.filter fun p => p.2.outcome ∈ shownOutcomes)
  decided : ∀ p ∈ selected, ∃ outcome reason tokens,
    p.2 = contextDecision p.1 outcome reason none [] tokens ∧ outcome ∉ droppedOutcomes

theorem Selected.candidate {state state' : Selection} {candidate : ContextCandidate}
    (h : Selected state.included state.decisions selected)
    (hstep : service.selectCandidate purpose consumer budget state candidate = .ok state') :
    ∃ decision, Selected state'.included state'.decisions (selected ++ [(candidate, decision)]) := by
  rcases selectCandidate_ok hstep with
    ⟨item, rendered, hitem, -, -, -, rfl⟩ | ⟨hmust, item, rendered, tokens, reason, rfl⟩
  · let decision := contextDecision candidate
      (if item.summaryPlaceholder then .referenced
        else if item.truncated then .truncated
        else .included) none none []
      (payloadTokens service.py rendered budget)
    have hshown : decision.outcome ∈ shownOutcomes := by
      show (if item.summaryPlaceholder then _ else _) ∈ shownOutcomes
      split_ifs <;> decide
    refine ⟨decision, ?_, ?_, fun p hp => ?_⟩
    · rw [List.map_append, ← h.decisions]
      rfl
    · rw [List.filter_append, List.filter_cons_of_pos (by simpa using hshown), List.filter_nil]
      refine List.rel_append h.items (.cons ⟨hitem, ?_⟩ .nil)
      show decision = contextDecision candidate (statusOutcome (if item.summaryPlaceholder then _
        else _)) none none [] _
      split_ifs <;> simp [decision, statusOutcome, *]
    · rcases List.mem_append.1 hp with hp | hp
      · exact h.decided p hp
      · rw [List.mem_singleton.1 hp]
        exact ⟨_, _, _, rfl, shown_not_dropped hshown⟩
  · refine ⟨contextDecision candidate .budgetDropped (some reason) none [] tokens, ?_, ?_,
      fun p hp => ?_⟩
    · rw [List.map_append, ← h.decisions]
      rfl
    · rw [List.filter_append, List.filter_cons_of_neg (by simp [contextDecision, shownOutcomes]),
        List.filter_nil, List.append_nil]
      exact h.items
    · rcases List.mem_append.1 hp with hp | hp
      · exact h.decided p hp
      · rw [List.mem_singleton.1 hp]
        exact ⟨_, _, _, rfl, by decide⟩

theorem Selected.run {state state' : Selection} {l : List ContextCandidate}
    (h : Selected state.included state.decisions selected)
    (hl : l.foldlM (service.selectCandidate purpose consumer budget) state = .ok state') :
    ∃ more, Selected state'.included state'.decisions (selected ++ more) ∧ more.map Prod.fst = l := by
  induction l generalizing state selected with
  | nil =>
    cases hl
    exact ⟨[], by rw [List.append_nil]; exact h, rfl⟩
  | cons candidate l ih =>
    obtain ⟨next, hnext, hl⟩ := bind_eq_ok.1 hl
    obtain ⟨decision, hdecision⟩ := h.candidate hnext
    obtain ⟨more, hmore, hmap⟩ := ih hdecision hl
    rw [List.append_assoc, List.singleton_append] at hmore
    exact ⟨(candidate, decision) :: more, hmore, by rw [List.map_cons, hmap]⟩

theorem selectAndProject_selected {candidates : List ContextCandidate} {result : SelectionResult}
    (h : service.selectAndProject request purpose consumer candidates budget = .ok result) :
    ∃ selected, Selected result.items result.decisions selected ∧
      (selected.map Prod.fst).Perm candidates := by
  unfold selectAndProject at h
  dsimp only at h
  split_ifs at h
  obtain ⟨state, hstate, h⟩ := bind_eq_ok.1 h
  cases h
  have hempty : Selected [] [] [] := ⟨rfl, .nil, fun p hp => by cases hp⟩
  obtain ⟨selected, hselected, hmap⟩ := Selected.run hempty hstate
  exact ⟨selected, hselected, hmap ▸ sortCandidates_perm candidates⟩

/-! ## The trace -/

/-- Every candidate that passes governance has one decision in the trace, and the items are those
of the candidates that are decided to be shown. What a candidate is dropped for reaches the
selection and has no lower authority, unless the current input overrides a memory. -/
structure Respected (service : ContextPipelineService) (purpose : ContextPurpose)
    (consumer : ContextConsumer) (eligible : List ContextCandidate)
    (denied trace : List ContextTraceDecision) (items : List ContextItem) : Prop where
  decided : ∃ settled : List (ContextCandidate × ContextTraceDecision),
    trace = denied ++ settled.map Prod.snd ∧
    (settled.map Prod.fst).Perm (eligible ++
      conflictSignals service (distinct service (sortCandidates eligible)) purpose consumer) ∧
    (∀ p ∈ settled, Decides service eligible p.1 p.2) ∧
    List.Forall₂ Shows items (settled.filter fun p => p.2.outcome ∈ shownOutcomes)
  reaches : ∀ outcome candidate displacer, DroppedFor service eligible outcome candidate displacer →
    displacer ∈ reaching service (distinct service (sortCandidates eligible))
  authority : ∀ outcome candidate displacer,
    DroppedFor service eligible outcome candidate displacer → outcome ≠ .overriddenForTurn →
    authorityRank displacer.authority ≤ authorityRank candidate.authority

/-- No candidate must be included before one of higher authority that it is kept for or that it
wins over; none that is kept for a duplicate loses its conflict; and none that loses shares its id
with one that does not. -/
structure Fair (service : ContextPipelineService) (eligible : List ContextCandidate) : Prop where
  duplicates : ∀ before candidate after duplicate,
    sortCandidates eligible = before ++ candidate :: after →
    Represents service (distinct service before) duplicate candidate →
    ¬Outranked duplicate candidate ∧
      losesConflict service (distinct service (sortCandidates eligible)) duplicate = false
  conflicts : ∀ conflictKey winner rest,
    let group := conflictOf (distinct service (sortCandidates eligible)) conflictKey
    service.disputed group = true → overridesMemory group = false →
    sortCandidates group = winner :: rest → service.unresolvable group winner = false →
    ∀ candidate ∈ group, candidate.candidateId ≠ winner.candidateId → ¬Outranked winner candidate
  ids : let kept := distinct service (sortCandidates eligible)
    ∀ c ∈ kept, ∀ p ∈ kept, losesConflict service kept p = true → p.candidateId = c.candidateId →
      losesConflict service kept c = true

section Trace

variable {eligible : List ContextCandidate} {conflictKey : String}
  {candidate displacer winner duplicate : ContextCandidate}

theorem precedes_of_represents {before after : List ContextCandidate}
    (hsorted : sortCandidates eligible = before ++ candidate :: after)
    (h : Represents service (distinct service before) duplicate candidate) :
    Precedes duplicate candidate := by
  have hpairwise := sortCandidates_pairwise eligible
  rw [hsorted] at hpairwise
  exact precedes_of_le ((List.pairwise_append.1 hpairwise).2.2 duplicate (distinct_subset _ h.1)
    candidate List.mem_cons_self)

theorem precedes_of_sorted (hsorted : sortCandidates group = winner :: rest)
    (hmem : candidate ∈ group) (hid : candidate.candidateId ≠ winner.candidateId) :
    Precedes winner candidate := by
  have hpairwise := sortCandidates_pairwise group
  have hmem := (sortCandidates_perm group).symm.subset hmem
  rw [hsorted] at hpairwise hmem
  rcases List.mem_cons.1 hmem with rfl | hrest
  · exact absurd rfl hid
  · exact precedes_of_le ((List.pairwise_cons.1 hpairwise).1 candidate hrest)

theorem losesConflict_of_mem (hmem : candidate ∈ conflictOf kept conflictKey) :
    losesConflict service kept candidate = loses service (conflictOf kept conflictKey) candidate := by
  have hkey : conflictKeyOf candidate = some conflictKey := of_decide_eq_true (List.mem_filter.1 hmem).2
  rw [losesConflict, hkey, Option.any_some]

/-- Who wins a conflict is in its group and does not lose it. -/
theorem DisplacedBy.stays (hmem : candidate ∈ conflictOf kept conflictKey)
    (h : DisplacedBy service (conflictOf kept conflictKey) candidate outcome displacer) :
    displacer ∈ kept ∧ losesConflict service kept displacer = false := by
  suffices hgroup : displacer ∈ conflictOf kept conflictKey ∧
      loses service (conflictOf kept conflictKey) displacer = false from
    ⟨(List.mem_filter.1 hgroup.1).1, (losesConflict_of_mem hgroup.1).trans hgroup.2⟩
  cases h with
  | overridden hdisputed hsource hfind =>
    have hcurrent := List.mem_of_find?_eq_some hfind
    have hfound := List.find?_some hfind
    have hover : overridesMemory (conflictOf kept conflictKey) = true :=
      Bool.and_eq_true_iff.2 ⟨List.any_eq_true.2 ⟨displacer, hcurrent, hfound⟩,
        List.any_eq_true.2 ⟨candidate, hmem, decide_eq_true hsource⟩⟩
    have hmemory : displacer.source ≠ "memory" := by
      rw [of_decide_eq_true hfound]
      decide
    exact ⟨hcurrent, by rw [loses_of_overridesMemory hover, decide_eq_false hmemory, Bool.and_false]⟩
  | superseded hdisputed hover hsorted hunresolvable hid =>
    refine ⟨(sortCandidates_perm _).subset (by rw [hsorted]; exact List.mem_cons_self), ?_⟩
    rw [loses_of_winner hover hsorted, hunresolvable, decide_eq_false (not_not.2 rfl),
      Bool.or_false, Bool.and_false]

theorem Fair.reaches (h : Fair service eligible)
    (hmem : displacer ∈ distinct service (sortCandidates eligible))
    (hstays : losesConflict service (distinct service (sortCandidates eligible)) displacer = false) :
    displacer ∈ reaching service (distinct service (sortCandidates eligible)) := by
  refine mem_reaching.2 ⟨hmem, fun p hp hloses hid => ?_⟩
  exact absurd (hstays.symm.trans (h.ids displacer hmem p hp hloses hid)) (by decide)

theorem Fair.dropped (h : Fair service eligible)
    (hdropped : DroppedFor service eligible outcome candidate displacer) :
    displacer ∈ reaching service (distinct service (sortCandidates eligible)) ∧
      (outcome ≠ .overriddenForTurn →
        authorityRank displacer.authority ≤ authorityRank candidate.authority) := by
  cases hdropped with
  | @duplicate before after _ _ hsorted hfound =>
    have hrep := duplicateOf_iff.1 hfound
    obtain ⟨hranked, hstays⟩ := h.duplicates _ _ _ _ hsorted hrep
    have hkept : displacer ∈ distinct service (sortCandidates eligible) := by
      rw [hsorted]
      exact distinct_subset_append before _ hrep.1
    exact ⟨h.reaches hkept hstays, fun _ => (precedes_of_represents hsorted hrep).rank_le_iff.2 hranked⟩
  | displaced hkept hkey hby =>
    have hmem : candidate ∈ conflictOf (distinct service (sortCandidates eligible)) _ :=
      List.mem_filter.2 ⟨hkept, decide_eq_true hkey⟩
    obtain ⟨hdisplacer, hstays⟩ := hby.stays hmem
    refine ⟨h.reaches hdisplacer hstays, fun houtcome => ?_⟩
    cases hby with
    | overridden => exact absurd rfl houtcome
    | superseded hdisputed hover hsorted hunresolvable hid =>
      exact (precedes_of_sorted hsorted hmem hid).rank_le_iff.2
        (h.conflicts _ _ _ hdisputed hover hsorted hunresolvable candidate hmem hid)

/-- The trace of a run: what was denied, what is settled before the selection, and what it
decides. -/
structure Traced (service : ContextPipelineService) (purpose : ContextPurpose)
    (consumer : ContextConsumer) (eligible : List ContextCandidate)
    (denied trace : List ContextTraceDecision) (items : List ContextItem)
    (settled selected : List (ContextCandidate × ContextTraceDecision)) : Prop where
  trace : trace = denied ++ (settled ++ selected).map Prod.snd
  perm : let kept := distinct service (sortCandidates eligible)
    (settled.map Prod.fst ++ (lost service kept ++ reaching service kept)).Perm eligible
  settled : ∀ p ∈ settled, Decides service eligible p.1 p.2 ∧
    p.2.outcome ∈ .unresolvedConflict :: droppedOutcomes
  chosen : let kept := distinct service (sortCandidates eligible)
    (selected.map Prod.fst).Perm
      (reaching service kept ++ conflictSignals service kept purpose consumer)
  selected : Selected items (selected.map Prod.snd) selected

variable {consumer : ContextConsumer} {denied trace : List ContextTraceDecision}
  {items : List ContextItem} {settled selected : List (ContextCandidate × ContextTraceDecision)}

theorem assembleCandidates_traced {now : Instant} {candidates : List ContextCandidate}
    {budget : Option ContextBudget} {candidateAgents : List Json} {result : SelectionResult}
    (h : service.assembleCandidates now request purpose consumer candidates budget candidateAgents =
      .ok (result, trace)) :
    ∃ settled selected, Traced service purpose consumer
      (service.govern now purpose consumer candidates).1
      (service.govern now purpose consumer candidates).2 trace result.items settled selected := by
  obtain ⟨settled, hresolved, hperm, hsettled⟩ := dedupeAndResolveConflicts_eq service purpose
    consumer (service.govern now purpose consumer candidates).1
  unfold assembleCandidates at h
  obtain ⟨requested, -, h⟩ := bind_eq_ok.1 h
  dsimp only at h
  rw [hresolved] at h
  obtain ⟨result, hresult, h⟩ := bind_eq_ok.1 h
  cases h
  obtain ⟨selected, hselected, hchosen⟩ :=
    selectAndProject_selected (Except.mapError_eq_ok.1 hresult)
  refine ⟨settled, selected, ?_, hperm, hsettled, hchosen, hselected.decisions ▸ hselected⟩
  rw [hselected.decisions, List.map_append, List.append_assoc]

/-- As many decisions as candidates leave none that is lost. -/
theorem Traced.lost_eq_nil
    (h : Traced service purpose consumer eligible denied trace items settled selected)
    (hrespected : Respected service purpose consumer eligible denied trace items) :
    lost service (distinct service (sortCandidates eligible)) = [] := by
  obtain ⟨all, hall, hmap, -, -⟩ := hrespected.decided
  have hlength := congrArg List.length (hall.symm.trans h.trace)
  have hdecided := hmap.length_eq
  have hperm := h.perm.length_eq
  have hchosen := h.chosen.length_eq
  simp only [List.length_append, List.length_map] at hlength hdecided hperm hchosen
  exact List.eq_nil_of_length_eq_zero (by omega)

theorem Traced.fair
    (h : Traced service purpose consumer eligible denied trace items settled selected)
    (hrespected : Respected service purpose consumer eligible denied trace items) :
    Fair service eligible := by
  refine ⟨?_, ?_, lost_eq_nil_iff.1 (h.lost_eq_nil hrespected)⟩
  · intro before candidate after duplicate hsorted hrep
    have hdropped : DroppedFor service eligible .duplicateDropped candidate duplicate :=
      .duplicate hsorted (duplicateOf_iff.2 hrep)
    obtain ⟨hkept, hstays⟩ := mem_reaching.1 (hrespected.reaches _ _ _ hdropped)
    refine ⟨(precedes_of_represents hsorted hrep).rank_le_iff.1
      (hrespected.authority _ _ _ hdropped (by decide)), Bool.eq_false_iff.2 fun hloses => ?_⟩
    exact hstays duplicate hkept hloses rfl
  · intro conflictKey winner rest group hdisputed hover hsorted hunresolvable candidate hmem hid
    obtain ⟨hkept, hkey⟩ := List.mem_filter.1 hmem
    have hdropped : DroppedFor service eligible .superseded candidate winner :=
      .displaced hkept (of_decide_eq_true hkey)
        (.superseded hdisputed hover hsorted hunresolvable hid)
    exact (precedes_of_sorted hsorted hmem hid).rank_le_iff.1
      (hrespected.authority _ _ _ hdropped (by decide))

theorem Traced.respected
    (h : Traced service purpose consumer eligible denied trace items settled selected)
    (hfair : Fair service eligible) :
    Respected service purpose consumer eligible denied trace items := by
  refine ⟨⟨settled ++ selected, h.trace, ?_, fun p hp => ?_, ?_⟩,
    fun _ _ _ hdropped => (hfair.dropped hdropped).1,
    fun _ _ _ hdropped => (hfair.dropped hdropped).2⟩
  · have hperm := h.perm
    dsimp only at hperm
    rw [lost_eq_nil_iff.2 hfair.ids, List.nil_append] at hperm
    rw [List.map_append]
    refine (h.chosen.append_left _).trans ?_
    rw [← List.append_assoc]
    exact hperm.append_right _
  · rcases List.mem_append.1 hp with hp | hp
    · exact (h.settled p hp).1
    · obtain ⟨outcome, reason, tokens, hdecision, hnot⟩ := h.selected.decided p hp
      exact ⟨outcome, reason, none, [], tokens, hdecision, fun hmem => absurd hmem hnot⟩
  · have hnone : settled.filter (fun p => p.2.outcome ∈ shownOutcomes) = [] := by
      refine List.filter_eq_nil_iff.2 fun p hp hshown => ?_
      rcases List.mem_cons.1 (h.settled p hp).2 with hout | hout
      · rw [hout] at hshown
        exact absurd hshown (by decide)
      · exact shown_not_dropped (of_decide_eq_true hshown) hout
    rw [List.filter_append, hnone, List.nil_append]
    exact h.selected.items

end Trace

/-- For every input, conflicts are resolved by authority and every candidate is accounted for if
and only if the eligible candidates are fair. -/
theorem conflicts_respected_iff (service : ContextPipelineService) (now : Instant)
    (request : ContextRequest) (purpose : ContextPurpose) (consumer : ContextConsumer)
    (candidates : List ContextCandidate) (budget : Option ContextBudget)
    (candidateAgents : List Json) :
    (∀ result trace, service.assembleCandidates now request purpose consumer candidates budget
        candidateAgents = .ok (result, trace) →
      Respected service purpose consumer (service.govern now purpose consumer candidates).1
        (service.govern now purpose consumer candidates).2 trace result.items) ↔
    (∃ e, service.assembleCandidates now request purpose consumer candidates budget candidateAgents =
      .error e) ∨ Fair service (service.govern now purpose consumer candidates).1 := by
  constructor
  · intro hrespected
    cases h : service.assembleCandidates now request purpose consumer candidates budget
        candidateAgents with
    | error e => exact .inl ⟨e, rfl⟩
    | ok value =>
      obtain ⟨settled, selected, htraced⟩ := assembleCandidates_traced h
      exact .inr (htraced.fair (hrespected _ _ h))
  · rintro (⟨e, he⟩ | hfair) result trace h
    · rw [he] at h
      cases h
    · obtain ⟨settled, selected, htraced⟩ := assembleCandidates_traced h
      exact htraced.respected hfair

/-! ## Candidates that go otherwise -/

def noteOfRecord : List ContextCandidate :=
  [{ document "note" with authority := .derived, mustInclude := true, dedupeKey := some "record" },
    { document "record" with dedupeKey := some "record" }]

def copyOfOld : List ContextCandidate :=
  [{ document "new" with priority := 60, conflictKey := some "address" },
    { document "old" with dedupeKey := some "old", conflictKey := some "address" },
    { document "copy" with priority := 40, dedupeKey := some "old" }]

def sharedId : List ContextCandidate :=
  [{ document "new" with priority := 60, conflictKey := some "address" },
    { document "old" with conflictKey := some "address" },
    { document "old" with source := "evidence", content := "" }]

/-- A candidate is dropped for one of lower authority; one is dropped for one that does not reach
the selection; and one is dropped without a decision. -/
theorem displaced_by_lower_authority :
    (¬∀ (service : ContextPipelineService) (purpose : ContextPurpose) (consumer : ContextConsumer)
      (candidates : List ContextCandidate),
      ∀ d ∈ (service.dedupeAndResolveConflicts purpose consumer candidates).2,
      ∀ c ∈ candidates, ∀ other ∈ candidates,
        d.outcome = .duplicateDropped → d.candidateId = c.candidateId →
        d.relatedRefs = [candidateRef other] →
        authorityRank other.authority ≤ authorityRank c.authority) ∧
    (¬∀ (service : ContextPipelineService) (purpose : ContextPurpose) (consumer : ContextConsumer)
      (candidates : List ContextCandidate),
      ∀ d ∈ (service.dedupeAndResolveConflicts purpose consumer candidates).2,
        d.outcome = .duplicateDropped →
        ∃ other ∈ (service.dedupeAndResolveConflicts purpose consumer candidates).1,
          d.relatedRefs = [candidateRef other]) ∧
    ¬∀ (service : ContextPipelineService) (purpose : ContextPurpose) (consumer : ContextConsumer)
      (candidates : List ContextCandidate), ∀ c ∈ candidates,
      c ∈ (service.dedupeAndResolveConflicts purpose consumer candidates).1 ∨
        ∃ d ∈ (service.dedupeAndResolveConflicts purpose consumer candidates).2,
          d.candidateId = c.candidateId ∧ d.source = c.source := by
  refine ⟨fun h => ?_, fun h => ?_, fun h => ?_⟩
  · exact absurd (h sampleService .routeDecision .router noteOfRecord) (by decide)
  · exact absurd (h sampleService .routeDecision .router copyOfOld) (by decide)
  · exact absurd (h sampleService .routeDecision .router sharedId) (by decide +kernel)

end OpenIntentRouter.Context
