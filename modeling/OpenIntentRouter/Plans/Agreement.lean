import OpenIntentRouter.Core.Agreement
import OpenIntentRouter.Repositories.PlanStores

/-!
# The two plan repositories agree

Serial runs of all plan calls on both. The claim columns of a row are the claim
kept in memory, all of them or none, and reading a row gives the plan in
memory. Saves of claimed plans and plans the validators change take the two
apart (`Alike`), and so do the times of three calls (`OnTime`), which only
`updated_at` shows.

The digest of the keys is arbitrary and `exact` says whether `updated_at` counts; the runs
start from stores that correspond, as empty ones do.

* `simulates`: a call that is `Alike` answers the same and keeps the relation;
* `plan_stores_agree`: so does a run of such calls.
-/
namespace OpenIntentRouter.Plans.Stores

open Core Schemas Repositories PlanStores
open PlanDb (PlanTables ownedRow finishedRow savedRow cancelledRow claimedRow claimedSteps
  decideClaim savedMetadata updateRow_run claimStep_run)

/-! ## The relation -/

def rowPlan (row : PlanModel) : Plan :=
  { planId := row.planId
    userId := row.userId
    tenantId := row.tenantId
    sessionId := some row.sessionId
    status := row.status
    currentStepId := row.currentStepId
    executionPolicy := row.originalQuery.executionPolicy
    nextAction := row.originalQuery.nextAction
    lastEventId := row.originalQuery.lastEventId
    stateVersion := row.stateVersion
    updatedAt := row.updatedAt
    formationEventType := row.originalQuery.formationEventType.getD "update"
    steps := row.steps }

def Storable (plan : Plan) : Prop := plan.validate = .ok plan ∧ plan.sessionId.isSome = true

instance (plan : Plan) : Decidable (Storable plan) := inferInstanceAs (Decidable (_ ∧ _))

/-- The row shows the plan: exactly, or but for the time of the last update. -/
def Shows (exact : Prop) (row : PlanModel) (plan : Plan) : Prop :=
  rowPlan row = { plan with updatedAt := row.updatedAt } ∧ (exact → row.updatedAt = plan.updatedAt)

structure RowFor (exact : Prop) (plan : Plan) (claim : Option ExecutionClaim) (attempt : Nat)
    (row : PlanModel) : Prop where
  storable : Storable plan
  shows : Shows exact row plan
  claimId : row.executionClaimId = claim.map (·.claimId)
  claimStepId : row.executionClaimStepId = claim.map (·.stepId)
  claimVersion : row.executionClaimStateVersion = claim.map (·.stateVersion)
  claimKey : row.executionClaimKey = claim.map (·.executionKey)
  claimExpiresAt : row.executionClaimExpiresAt = claim.map (·.leaseExpiresAt)
  attempt_eq : row.executionAttempt = attempt
  claimAttempt : ∀ c, claim = some c → c.attempt = attempt ∧ c.claimId ≠ ""

inductive Matches (exact : Prop) :
    Option Plan → Option ExecutionClaim → Nat → Option PlanModel → Prop where
  | absent : Matches exact none none 0 none
  | stored {plan : Plan} {claim : Option ExecutionClaim} {attempt : Nat} {row : PlanModel} :
    RowFor exact plan claim attempt row → Matches exact (some plan) claim attempt (some row)

structure Corresponds (exact : Prop) (s : MemoryPlanStore) (t : PlanDatabase) : Prop where
  row : ∀ planId, Matches exact (s.plans.get? planId) (s.executionClaims.get? planId)
    ((s.executionAttempts.get? planId).getD 0) (t.plans.get? planId)
  published : ∀ planId, (s.published.get? planId).getD 0 = (t.published.get? planId).getD 0
  unpublished : ∀ planId, s.plans.get? planId = none → (s.published.get? planId).getD 0 = 0

variable {clock now : Instant} {plan old : Plan} {row : PlanModel} {attempt : Nat}
  {claim : Option ExecutionClaim} {formationSuppressed : Bool} {claimId : String}
  {request : ClaimRequest} {step : PlanStep} {allowed : List PlanStepStatus}

section Fields

variable {exact : Prop} {plan : Plan} {claim : Option ExecutionClaim} {attempt : Nat}
  {row : PlanModel}

theorem Shows.of_eq (h : rowPlan row = plan) : Shows exact row plan := by
  subst h
  exact ⟨rfl, fun _ => rfl⟩

/-- A plan that is restamped shows the same but for its stamp. -/
theorem Shows.restamp (h : Shows exact row plan) (hstamp : exact → plan.updatedAt = clock) :
    Shows exact { row with updatedAt := clock } plan :=
  ⟨congrArg (fun plan : Plan => { plan with updatedAt := clock }) h.1, fun he => (hstamp he).symm⟩

theorem planFromRows_rowPlan (row : PlanModel) :
    planFromRows row row.steps = (rowPlan row).validate := rfl

/-- The validators do not look at the time of the last update. -/
theorem Storable.restamp (h : Storable plan) (clock : Instant) :
    Storable { plan with updatedAt := clock } := by
  obtain ⟨hfields, hsteps, hcurrent, hout⟩ := Plan.validate_eq_ok.1 h.1
  exact ⟨Plan.validate_eq_ok.2 ⟨hfields, hsteps, hcurrent,
    congrArg (fun plan : Plan => { plan with updatedAt := clock }) hout⟩, h.2⟩

theorem RowFor.reads (h : RowFor exact plan claim attempt row) :
    planFromRows row row.steps = .ok { plan with updatedAt := row.updatedAt } := by
  rw [planFromRows_rowPlan, h.shows.1]
  exact (h.storable.restamp row.updatedAt).1

theorem RowFor.tenantId (h : RowFor exact plan claim attempt row) : row.tenantId = plan.tenantId :=
  congrArg Plan.tenantId h.shows.1

theorem RowFor.userId (h : RowFor exact plan claim attempt row) : row.userId = plan.userId :=
  congrArg Plan.userId h.shows.1

theorem RowFor.status (h : RowFor exact plan claim attempt row) : row.status = plan.status :=
  congrArg Plan.status h.shows.1

theorem RowFor.stateVersion (h : RowFor exact plan claim attempt row) :
    row.stateVersion = plan.stateVersion := congrArg Plan.stateVersion h.shows.1

theorem RowFor.steps (h : RowFor exact plan claim attempt row) : row.steps = plan.steps :=
  congrArg Plan.steps h.shows.1

theorem RowFor.planId (h : RowFor exact plan claim attempt row) : row.planId = plan.planId :=
  congrArg Plan.planId h.shows.1

/-- The plan that is read and the plan in memory make the same reply. -/
theorem RowFor.same (h : RowFor exact plan claim attempt row) (f : Plan → Reply)
    (hf : ∀ plan, (f plan).unstamped = f (unstamped plan)) :
    SameReply exact (.ok (f plan)) (.ok (f { plan with updatedAt := row.updatedAt })) := by
  refine ⟨?_, fun he => ?_⟩
  · simp only [Except.map, hf]
    rfl
  · rw [h.shows.2 he]

end Fields

section Relation

variable {exact : Prop}

theorem Corresponds.cases {s : MemoryPlanStore} {t : PlanDatabase} (h : Corresponds exact s t)
    (planId : String) :
    (s.plans.get? planId = none ∧ s.executionClaims.get? planId = none ∧
      (s.executionAttempts.get? planId).getD 0 = 0 ∧ t.plans.get? planId = none) ∨
    ∃ plan row, s.plans.get? planId = some plan ∧ t.plans.get? planId = some row ∧
      RowFor exact plan (s.executionClaims.get? planId) ((s.executionAttempts.get? planId).getD 0) row := by
  have hm := h.row planId
  generalize s.plans.get? planId = plan, s.executionClaims.get? planId = claim,
    (s.executionAttempts.get? planId).getD 0 = attempt, t.plans.get? planId = row at hm
  cases hm with
  | absent => exact .inl ⟨rfl, rfl, rfl, rfl⟩
  | stored hrow => exact .inr ⟨_, _, rfl, rfl, hrow⟩

/-- The relation after both have written a plan and its claim, and nothing else. -/
theorem Corresponds.write {s s' : MemoryPlanStore} {t t' : PlanDatabase} (h : Corresponds exact s t)
    (plan : Plan) {row : PlanModel}
    (hplans : s'.plans = s.plans.put plan) (hrows : t'.plans = t.plans.put row)
    (hrow : RowFor exact plan (s'.executionClaims.get? plan.planId)
      ((s'.executionAttempts.get? plan.planId).getD 0) row)
    (hclaims : ∀ other, other ≠ plan.planId →
      s'.executionClaims.get? other = s.executionClaims.get? other)
    (hattempts : ∀ other, other ≠ plan.planId →
      s'.executionAttempts.get? other = s.executionAttempts.get? other)
    (hpub : ∀ other, (s'.published.get? other).getD 0 = (t'.published.get? other).getD 0)
    (hun : ∀ other, other ≠ plan.planId → (s'.published.get? other).getD 0 =
      (s.published.get? other).getD 0) : Corresponds exact s' t' := by
  have hid : row.planId = plan.planId := hrow.planId
  refine ⟨fun other => ?_, hpub, fun other hnone => ?_⟩
  · by_cases heq : other = plan.planId
    · subst heq
      have hput : (t.plans.put row).get? plan.planId = some row := by
        rw [← hid]
        exact Table.get?_put_self ..
      rw [hplans, hrows, Table.get?_put_self, hput]
      exact .stored hrow
    · rw [hplans, hrows, hclaims other heq, hattempts other heq,
        Table.get?_put_ne _ (Ne.symm heq), Table.get?_put_ne _ (hid ▸ Ne.symm heq)]
      exact h.row other
  · by_cases heq : other = plan.planId
    · rw [heq, hplans, Table.get?_put_self] at hnone
      cases hnone
    · rw [hplans, Table.get?_put_ne _ (Ne.symm heq)] at hnone
      rw [hun other heq]
      exact h.unpublished other hnone

/-! ## Reading a row -/

theorem get_stored {d : PlanTables} {planId tenantId userId : String}
    (hget : d.plans.get? planId = some row) (hrow : RowFor exact plan claim attempt row)
    (ht : plan.tenantId = tenantId) (hu : plan.userId = userId) :
    (PlanDb.get planId tenantId userId).run d =
      (.ok (.plan (some { plan with updatedAt := row.updatedAt })), d) := by
  have howned : ownedRow d planId tenantId userId = some row := by
    simp [ownedRow, hget, hrow.tenantId, hrow.userId, ht, hu]
  simp only [PlanDb.get, PlanDb.read, Prog.run_select, howned, hget, Option.map_some,
    Option.getD_some, hrow.reads, Prog.run_ret]

theorem get_unowned {d : PlanTables} {planId tenantId userId : String}
    (hnone : ownedRow d planId tenantId userId = none) :
    (PlanDb.get planId tenantId userId).run d = (.ok (.plan none), d) := by
  simp only [PlanDb.get, PlanDb.read, Prog.run_select, hnone, Prog.run_ret]

theorem RowFor.claim_eq (h : RowFor exact plan claim attempt row) : claimColumns row = claim := by
  simp only [claimColumns, h.claimId, h.claimStepId, h.claimVersion, h.claimKey, h.claimExpiresAt,
    h.attempt_eq]
  cases claim with
  | none => rfl
  | some c => simp only [Option.map_some, ← (h.claimAttempt c rfl).1]

theorem Corresponds.showSame {s : MemoryPlanStore} {t : PlanDatabase} (h : Corresponds exact s t) :
    ShowSame exact s t := by
  constructor
  · intro planId tenantId userId
    rcases h.cases planId with ⟨hp, -, -, hr⟩ | ⟨plan, row, hp, hr, hrow⟩
    · have hnone : ownedRow t.toPlanTables planId tenantId userId = none := by
        simp [ownedRow, hr]
      simp only [databaseGet, get_unowned hnone, MemoryPlanRepository.get, hp, Option.filter_none]
      exact .refl ..
    · by_cases howned : plan.tenantId = tenantId ∧ plan.userId = userId
      · have hsome : s.get planId tenantId userId = some plan :=
          MemoryPlanRepository.get_eq_some.2 ⟨hp, howned⟩
        simp only [databaseGet, get_stored hr hrow howned.1 howned.2, hsome]
        exact hrow.same (fun plan => .plan (some plan)) fun _ => rfl
      · have hnone : ownedRow t.toPlanTables planId tenantId userId = none := by
          simp [ownedRow, hr, hrow.tenantId, hrow.userId]
          simpa using howned
        have hsome : s.get planId tenantId userId = none := by
          simp [MemoryPlanRepository.get, hp]
          simpa using howned
        simp only [databaseGet, get_unowned hnone, hsome]
        exact .refl ..
  · intro planId
    rcases h.cases planId with ⟨-, hc, -, hr⟩ | ⟨plan, row, hp, hr, hrow⟩
    · rw [hc, databaseClaim, hr]
      rfl
    · rw [databaseClaim, hr, Option.bind_some]
      exact hrow.claim_eq

/-! ## Rows that are written -/

/-- The claim columns are empty, and the plan is this one. -/
theorem rowFor_unclaimed (hs : Storable plan) (hshows : Shows exact row plan)
    (hattempt : row.executionAttempt = attempt)
    (hnone : row.executionClaimId = none ∧ row.executionClaimStepId = none ∧
      row.executionClaimStateVersion = none ∧ row.executionClaimKey = none ∧
      row.executionClaimExpiresAt = none) : RowFor exact plan none attempt row :=
  ⟨hs, hshows, hnone.1, hnone.2.1, hnone.2.2.1, hnone.2.2.2.1, hnone.2.2.2.2, hattempt,
    fun _ h => by cases h⟩

/-- Columns that are written from a storable plan show it. -/
theorem rowPlan_finishedRow (h : RowFor exact old claim attempt row) (hs : Storable plan)
    (hid : plan.planId = old.planId) (ht : plan.tenantId = old.tenantId)
    (hu : plan.userId = old.userId) : rowPlan (finishedRow plan row) = plan := by
  obtain ⟨session, hsession⟩ := Option.isSome_iff_exists.1 hs.2
  obtain ⟨planId, userId, tenantId, sessionId, _, _, _, _, _, _, _, _, _⟩ := plan
  dsimp only at hsession hid ht hu
  subst hsession hid ht hu
  simp [rowPlan, finishedRow, savedMetadata, h.planId, h.tenantId, h.userId]

theorem rowPlan_savedRow (plan : Plan) (row : PlanModel) :
    rowPlan (savedRow plan row) = rowPlan (finishedRow plan row) := by
  unfold savedRow
  split <;> rfl

theorem rowPlan_overwrittenRow (plan : Plan) (row : PlanModel) :
    rowPlan (overwrittenRow plan row) = rowPlan (finishedRow plan row) := by
  unfold overwrittenRow
  split <;> rfl

theorem rowPlan_newRow (hs : Storable plan) : rowPlan (newRow plan) = plan := by
  obtain ⟨session, hsession⟩ := Option.isSome_iff_exists.1 hs.2
  obtain ⟨_, _, _, sessionId, _, _, _, _, _, _, _, _, _⟩ := plan
  dsimp only at hsession
  subst hsession
  rfl

/-! ## The calls on which they agree -/

/-- What a call must not do, in the state it finds in memory: store a plan that its
validators would change or that has no session; save a claimed plan as active in
any way but running at its claimed version; and claim under an empty id. -/
def Alike (s : MemoryPlanStore) : Call → Prop
  | .save plan _ =>
    (∀ existing ∈ s.plans.get? plan.planId, ownedBy plan.tenantId plan.userId existing = true) →
      Storable plan ∧ ∀ claim ∈ s.executionClaims.get? plan.planId, plan.status.isActive = true →
        plan.status = .running ∧ claim.stateVersion = plan.stateVersion
  | .saveIfVersion plan expectedVersion _ =>
    ∀ existing ∈ s.plans.get? plan.planId, ownedBy plan.tenantId plan.userId existing = true →
      existing.stateVersion = expectedVersion → Storable plan
  | .claimStep request => request.claimId ≠ ""
  | .saveClaimedStep plan stepId claimId _ =>
    ∀ existing ∈ s.plans.get? plan.planId, ∀ claim ∈ s.executionClaims.get? plan.planId,
      ownedBy plan.tenantId plan.userId existing = true → claim.stepId = stepId →
      claim.claimId = claimId → existing.stateVersion = claim.stateVersion →
      plan.stateVersion = claim.stateVersion + 1 → Storable plan
  | .renewStepClaim .. | .cancelUnstarted .. | .getExecutionClaimKey .. |
    .markFormationPublished .. => True

instance (s : MemoryPlanStore) : ∀ call, Decidable (Alike s call)
  | .save _ _ =>
    inferInstanceAs (Decidable ((∀ _ ∈ _, _ = _) → Storable _ ∧ ∀ _ ∈ _, _ → _ ∧ _))
  | .saveIfVersion _ _ _ => inferInstanceAs (Decidable (∀ _ ∈ _, _ → _ → Storable _))
  | .claimStep _ => inferInstanceAs (Decidable (_ ≠ _))
  | .saveClaimedStep _ _ _ _ =>
    inferInstanceAs (Decidable (∀ _ ∈ _, ∀ _ ∈ _, _ → _ → _ → _ → _ → Storable _))
  | .renewStepClaim _ _ _ _ _ _ => .isTrue trivial
  | .cancelUnstarted _ _ _ _ => .isTrue trivial
  | .getExecutionClaimKey _ _ => .isTrue trivial
  | .markFormationPublished _ _ => .isTrue trivial

/-- The database restamps the row of a renewed claim and of a published formation,
and memory stamps a claimed step that is saved: neither moves `updated_at`. -/
def OnTime (s : MemoryPlanStore) (clock : Instant) : Call → Prop
  | .renewStepClaim planId tenantId userId claimId _ now =>
    ∀ plan ∈ s.plans.get? planId, ∀ claim ∈ s.executionClaims.get? planId,
      ownedBy tenantId userId plan = true → claim.claimId = claimId → now < claim.leaseExpiresAt →
      plan.updatedAt = clock
  | .saveClaimedStep plan stepId claimId _ =>
    ∀ existing ∈ s.plans.get? plan.planId, ∀ claim ∈ s.executionClaims.get? plan.planId,
      ownedBy plan.tenantId plan.userId existing = true → claim.stepId = stepId →
      claim.claimId = claimId → existing.stateVersion = claim.stateVersion →
      plan.stateVersion = claim.stateVersion + 1 → plan.updatedAt = clock
  | .markFormationPublished planId stateVersion =>
    ∀ plan ∈ s.plans.get? planId, (s.published.get? planId).getD 0 < stateVersion →
      plan.updatedAt = clock
  | .save .. | .saveIfVersion .. | .claimStep .. | .cancelUnstarted .. |
    .getExecutionClaimKey .. => True

instance (s : MemoryPlanStore) (clock : Instant) : ∀ call, Decidable (OnTime s clock call)
  | .renewStepClaim _ _ _ _ _ _ => inferInstanceAs (Decidable (∀ _ ∈ _, ∀ _ ∈ _, _ → _ → _ → _))
  | .saveClaimedStep _ _ _ _ =>
    inferInstanceAs (Decidable (∀ _ ∈ _, ∀ _ ∈ _, _ → _ → _ → _ → _ → _))
  | .markFormationPublished _ _ => inferInstanceAs (Decidable (∀ _ ∈ _, _ → _))
  | .save _ _ => .isTrue trivial
  | .saveIfVersion _ _ _ => .isTrue trivial
  | .claimStep _ => .isTrue trivial
  | .cancelUnstarted _ _ _ _ => .isTrue trivial
  | .getExecutionClaimKey _ _ => .isTrue trivial

/-! ## One call -/

section Step

variable {digest : String → String} {s : MemoryPlanStore} {t : PlanDatabase}

def Answers (exact : Prop) (digest : String → String) (s : MemoryPlanStore) (t : PlanDatabase)
    (call : Instant × Call) : Prop :=
  SameReply exact (memoryStep digest s call).1 (databaseStep digest t call).1 ∧
    Corresponds exact (memoryStep digest s call).2 (databaseStep digest t call).2

theorem owned_iff {tenantId userId : String} :
    ownedBy tenantId userId plan = true ↔ plan.tenantId = tenantId ∧ plan.userId = userId := by
  simp [ownedBy]

theorem noteSuppressed_same (h : Corresponds exact s t) (formationSuppressed : Bool) (plan : Plan)
    (other : String) :
    ((noteSuppressed formationSuppressed plan s.published).get? other).getD 0 =
      ((noteSuppressed formationSuppressed plan t.published).get? other).getD 0 := by
  unfold noteSuppressed
  split
  · rw [Dict.get?_set, Dict.get?_set]
    split
    · rfl
    · exact h.published other
  · exact h.published other

theorem noteSuppressed_ne {published : Dict String Nat} {other : String} (hne : other ≠ plan.planId) :
    (noteSuppressed formationSuppressed plan published).get? other = published.get? other := by
  unfold noteSuppressed
  split
  · exact Dict.get?_set_ne _ _ (Ne.symm hne)
  · rfl

/-- The claim after `store`. -/
theorem store_claim (repo : MemoryPlanRepository) (plan : Plan) :
    (repo.store plan).executionClaims.get? plan.planId =
      if plan.status = .running then
        (repo.executionClaims.get? plan.planId).map
          fun claim => { claim with stateVersion := plan.stateVersion }
      else none := by
  unfold MemoryPlanRepository.store
  cases repo.executionClaims.get? plan.planId with
  | none =>
    simp only [Dict.get?_erase, if_true, Option.map_none, ite_self]
  | some claim =>
    dsimp only
    split
    · simp only [Dict.get?_set_self, Option.map_some]
    · simp only [Dict.get?_erase, if_true]

theorem store_claim_ne (repo : MemoryPlanRepository) {other : String} (hne : other ≠ plan.planId) :
    (repo.store plan).executionClaims.get? other = repo.executionClaims.get? other := by
  unfold MemoryPlanRepository.store
  dsimp only
  split
  · split
    · exact Dict.get?_set_ne _ _ (Ne.symm hne)
    · rw [Dict.get?_erase, if_neg (Ne.symm hne)]
  · rw [Dict.get?_erase, if_neg (Ne.symm hne)]

/-- Both have saved a plan: in memory by `store`, in the database in this row. -/
theorem Corresponds.store (h : Corresponds exact s t)
    (hrow : RowFor exact plan ((s.store plan).executionClaims.get? plan.planId)
      ((s.executionAttempts.get? plan.planId).getD 0) row) :
    Corresponds exact
      { toMemoryPlanRepository := s.store plan
        published := noteSuppressed formationSuppressed plan s.published }
      { plans := t.plans.put row
        grants := t.grants
        published := noteSuppressed formationSuppressed plan t.published } :=
  h.write plan rfl rfl hrow (fun _ hne => store_claim_ne _ hne) (fun _ _ => rfl)
    (noteSuppressed_same h formationSuppressed plan)
    fun _ hne => congrArg (·.getD 0) (noteSuppressed_ne hne)

/-- A row whose claim columns are kept holds the claim it held. -/
theorem RowFor.kept {old plan : Plan} {claim : Option ExecutionClaim} {attempt : Nat}
    {row new : PlanModel} (h : RowFor exact old claim attempt row) (hs : Storable plan)
    (hshows : Shows exact new plan)
    (hcolumns : new.executionClaimId = row.executionClaimId ∧
      new.executionClaimStepId = row.executionClaimStepId ∧
      new.executionClaimStateVersion = row.executionClaimStateVersion ∧
      new.executionClaimKey = row.executionClaimKey ∧
      new.executionClaimExpiresAt = row.executionClaimExpiresAt ∧
      new.executionAttempt = row.executionAttempt) : RowFor exact plan claim attempt new := by
  obtain ⟨h1, h2, h3, h4, h5, h6⟩ := hcolumns
  exact ⟨hs, hshows, h1.trans h.claimId, h2.trans h.claimStepId, h3.trans h.claimVersion,
    h4.trans h.claimKey, h5.trans h.claimExpiresAt, h6.trans h.attempt_eq, h.claimAttempt⟩

theorem answers_save (h : Corresponds exact s t) (ha : Alike s (.save plan formationSuppressed)) :
    Answers exact digest s t (clock, .save plan formationSuppressed) := by
  simp only [Alike, Option.mem_def] at ha
  rcases h.cases plan.planId with ⟨hp, hc, hattempt, hr⟩ | ⟨old, row, hp, hr, hrow⟩
  · obtain ⟨hs, -⟩ := ha (by simp [hp])
    simp only [Answers, memoryStep, databaseStep, MemoryPlanRepository.save, databaseSave, hp, hr]
    refine ⟨.refl .., h.store ?_⟩
    rw [store_claim, hc, Option.map_none, ite_self]
    exact rowFor_unclaimed hs (.of_eq (rowPlan_newRow hs)) hattempt.symm ⟨rfl, rfl, rfl, rfl, rfl⟩
  · have hold : old.planId = plan.planId := Table.key_of_get? hp
    by_cases howned : old.tenantId = plan.tenantId ∧ old.userId = plan.userId
    · obtain ⟨hs, hclaim⟩ := ha fun existing he => by
        cases hp.symm.trans he
        exact owned_iff.2 howned
      have hshows : rowPlan (overwrittenRow plan row) = plan := by
        rw [rowPlan_overwrittenRow]
        exact rowPlan_finishedRow hrow hs hold.symm howned.1.symm howned.2.symm
      simp only [Answers, memoryStep, databaseStep, MemoryPlanRepository.save, databaseSave, hp, hr,
        hrow.tenantId, hrow.userId, howned, ne_eq, not_true_eq_false, decide_false, Bool.or_self,
        Bool.false_eq_true, if_false]
      refine ⟨.refl .., h.store ?_⟩
      rw [store_claim]
      cases hactive : plan.status.isActive with
      | false =>
        have hterminal : overwrittenRow plan row = finishedRow plan row := by
          unfold overwrittenRow
          cases hst : plan.status <;> simp_all [PlanStatus.isActive]
        rw [if_neg (by intro hst; rw [hst] at hactive; cases hactive)]
        rw [hterminal] at hshows ⊢
        exact rowFor_unclaimed hs (.of_eq hshows) hrow.attempt_eq ⟨rfl, rfl, rfl, rfl, rfl⟩
      | true =>
        have hkept : RowFor exact plan (s.executionClaims.get? plan.planId)
            ((s.executionAttempts.get? plan.planId).getD 0) (overwrittenRow plan row) := by
          refine hrow.kept hs (.of_eq hshows) ?_
          unfold overwrittenRow
          cases hst : plan.status <;> simp_all [PlanStatus.isActive, finishedRow]
        cases hcl : s.executionClaims.get? plan.planId with
        | none =>
          rw [hcl] at hkept
          simpa using hkept
        | some claim =>
          obtain ⟨hrun, hversion⟩ := hclaim claim hcl hactive
          rw [hcl] at hkept
          rw [if_pos hrun, Option.map_some, ← hversion]
          exact hkept
    · have hguard : (decide (old.tenantId ≠ plan.tenantId) || decide (old.userId ≠ plan.userId)) =
          true := by
        by_cases ht : old.tenantId = plan.tenantId
        · have hu : old.userId ≠ plan.userId := fun hu => howned ⟨ht, hu⟩
          simp [hu]
        · simp [ht]
      simp only [Answers, memoryStep, databaseStep, MemoryPlanRepository.save, databaseSave, hp, hr,
        hrow.tenantId, hrow.userId, hguard, if_true]
      exact ⟨.refl .., h⟩

/-- The `WHERE` of `save_if_version` is the test made in memory. -/
theorem atVersion_iff {version : Nat} (hrow : RowFor exact old claim attempt row) :
    PlanDb.atVersion plan version row = true ↔
      ownedBy plan.tenantId plan.userId old = true ∧ old.stateVersion = version := by
  simp [PlanDb.atVersion, ownedBy, hrow.tenantId, hrow.userId, hrow.stateVersion]

theorem answers_saveIfVersion (h : Corresponds exact s t) {version : Nat}
    (ha : Alike s (.saveIfVersion plan version formationSuppressed)) :
    Answers exact digest s t (clock, .saveIfVersion plan version formationSuppressed) := by
  simp only [Alike, Option.mem_def] at ha
  rcases h.cases plan.planId with ⟨hp, -, -, hr⟩ | ⟨old, row, hp, hr, hrow⟩
  · simp only [Answers, memoryStep, databaseStep, MemoryPlanRepository.saveIfVersion, hp, noted, hr,
      runAlone, PlanDb.prog, PlanDb.saveIfVersion, updateRow_run, Option.any_none, Option.filter_none,
      Bool.false_eq_true, if_false]
    exact ⟨.refl .., h⟩
  · have hold : old.planId = plan.planId := Table.key_of_get? hp
    by_cases hguard : PlanDb.atVersion plan version row = true
    · obtain ⟨howned, hversion⟩ := (atVersion_iff hrow).1 hguard
      have hs := ha old hp howned hversion
      obtain ⟨ht, hu⟩ := owned_iff.1 howned
      have hmemory : s.saveIfVersion plan version = some (s.store plan) := by
        simp [MemoryPlanRepository.saveIfVersion, hp, howned, hversion]
      have hfound : (t.plans.get? plan.planId).filter (PlanDb.atVersion plan version) = some row := by
        rw [hr, Option.filter_some, if_pos hguard]
      have hnoted : noted (PlanDb.atVersion plan version) formationSuppressed plan t =
          noteSuppressed formationSuppressed plan t.published := by
        simp [noted, hr, hguard]
      simp only [Answers, memoryStep, databaseStep, hmemory, hnoted, runAlone, PlanDb.prog,
        PlanDb.saveIfVersion, updateRow_run, hfound, Prog.run_ret]
      refine ⟨.refl .., h.store ?_⟩
      rw [store_claim]
      have hshows : rowPlan (finishedRow plan row) = plan :=
        rowPlan_finishedRow hrow hs hold.symm ht.symm hu.symm
      have hshows' : rowPlan (savedRow plan row) = plan := (rowPlan_savedRow plan row).trans hshows
      unfold savedRow at hshows' ⊢
      split
      · next hrun =>
        rw [if_pos hrun] at hshows'
        refine ⟨hs, .of_eq hshows', ?_, ?_, ?_, ?_, ?_, hrow.attempt_eq, fun c hc => ?_⟩
        · simp [hrow.claimId, Function.comp_def]
        · simp [hrow.claimStepId, Function.comp_def]
        · cases hcl : s.executionClaims.get? plan.planId <;> simp [hrow.claimId, hcl]
        · simp [hrow.claimKey, Function.comp_def]
        · simp [hrow.claimExpiresAt, Function.comp_def]
        · obtain ⟨old, hcl, rfl⟩ := Option.map_eq_some_iff.1 hc
          exact hrow.claimAttempt old hcl
      · exact rowFor_unclaimed hs (.of_eq hshows) hrow.attempt_eq ⟨rfl, rfl, rfl, rfl, rfl⟩
    · have hmemory : s.saveIfVersion plan version = none := by
        rw [atVersion_iff hrow] at hguard
        simp only [MemoryPlanRepository.saveIfVersion, hp]
        by_cases howned : ownedBy plan.tenantId plan.userId old = true
        · have hv : old.stateVersion ≠ version := fun hv => hguard ⟨howned, hv⟩
          simp [hv]
        · simp [howned]
      have hfound : (t.plans.get? plan.planId).filter (PlanDb.atVersion plan version) = none := by
        rw [hr, Option.filter_some, if_neg hguard]
      have hnoted : noted (PlanDb.atVersion plan version) formationSuppressed plan t =
          t.published := by
        simp [noted, hr, hguard]
      simp only [Answers, memoryStep, databaseStep, hmemory, hnoted, runAlone, PlanDb.prog,
        PlanDb.saveIfVersion, updateRow_run, hfound, Prog.run_ret]
      exact ⟨.refl .., h⟩

/-- Where ids are distinct the steps the `UPDATE` matches are the one found by id, if its status
is allowed. -/
theorem claimedSteps_eq {steps : List PlanStep} (hn : (steps.map (·.stepId)).Nodup) :
    claimedSteps request allowed steps =
      ((findStep steps request.stepId).filter (·.status ∈ allowed)).toList := by
  induction steps with
  | nil => rfl
  | cons step steps ih =>
    simp only [List.map_cons, List.nodup_cons, List.mem_map, not_exists, not_and] at hn
    simp only [claimedSteps, findStep, List.filter_cons, List.find?_cons]
    by_cases hid : step.stepId = request.stepId
    · have hrest : steps.filter
          (fun step => step.stepId = request.stepId && decide (step.status ∈ allowed)) = [] := by
        rw [List.filter_eq_nil_iff]
        intro other hmem
        have hne : other.stepId ≠ request.stepId := fun he => hn.1 other hmem (he.trans hid.symm)
        simp [hne]
      simp only [hrest, hid, decide_true, Bool.true_and, Option.filter_some]
      split <;> rfl
    · simp only [hid, decide_false, Bool.false_and, Bool.false_eq_true, if_false]
      exact ih hn.2

/-- Where ids are distinct an `UPDATE` that matches a step sets it running, and no other. -/
theorem setRunning_eq {steps : List PlanStep} (hn : (steps.map (·.stepId)).Nodup)
    (hfind : findStep steps request.stepId = some step) (hallowed : step.status ∈ allowed) :
    (steps.map fun step =>
        if step.stepId = request.stepId && step.status ∈ allowed then
          { step with status := PlanStatus.running }
        else step) = setStatus .running request.stepId steps := by
  refine List.map_congr_left fun other hmem => ?_
  by_cases hid : other.stepId = request.stepId
  · have hsame : other = step := by
      have hmem' := List.mem_of_find?_eq_some hfind
      have hid' : step.stepId = request.stepId := by simpa using List.find?_some hfind
      exact List.inj_on_of_nodup_map hn hmem hmem' (hid.trans hid'.symm)
    rw [hsame] at hid ⊢
    simp [hid, hallowed]
  · simp [hid]

section Claim

variable {request : ClaimRequest} {old : Plan} {row : PlanModel}

/-- The `WHERE` of the `UPDATE` of `claim_step` is the test made in memory. -/
theorem unclaimed_iff (hrow : RowFor exact old claim attempt row) :
    PlanDb.unclaimed request row = true ↔
      ownedBy request.tenantId request.userId old = true ∧ old.status.isActive = true ∧
      ∀ c, claim = some c → c.leaseExpiresAt ≤ request.now := by
  simp only [PlanDb.unclaimed, ownedBy, hrow.tenantId, hrow.userId, hrow.status, hrow.claimId,
    hrow.claimExpiresAt, and_assoc, Bool.and_eq_true, decide_eq_true_eq]
  cases claim <;> simp

/-- Both find the same claim to recover, and count the same attempt. -/
theorem decideClaim_eq (digest : String → String)
    (hrow : RowFor exact old (s.executionClaims.get? request.planId)
      ((s.executionAttempts.get? request.planId).getD 0) row) :
    (decideClaim digest request row).allowed =
      (if (s.ownExpired request).isSome then [.pending, .blocked, .running]
        else [.pending, .blocked]) ∧
    (decideClaim digest request row).attempt = (s.newClaim digest request old).attempt ∧
    (decideClaim digest request row).key = (s.newClaim digest request old).executionKey := by
  have hown : (PlanDb.expired row request.now &&
      row.executionClaimStepId = some request.stepId) = (s.ownExpired request).isSome := by
    simp only [PlanDb.expired, MemoryPlanRepository.ownExpired, hrow.claimId, hrow.claimStepId,
      hrow.claimExpiresAt]
    cases hc : s.executionClaims.get? request.planId with
    | none => rfl
    | some claim =>
      have hid : claim.claimId ≠ "" := (hrow.claimAttempt claim hc).2
      simp only [Option.map_some, truthy, hid, ne_eq, not_false_eq_true, decide_true, Bool.true_and,
        Option.all_some, Option.some.injEq, Option.filter_some]
      cases decide (claim.leaseExpiresAt ≤ request.now) <;>
        cases decide (claim.stepId = request.stepId) <;> rfl
  simp only [decideClaim, hown, MemoryPlanRepository.newClaim, hrow.attempt_eq, hrow.claimKey]
  cases hx : s.ownExpired request with
  | none => simp
  | some claim =>
    have hc := (Option.filter_eq_some_iff.1 hx).1
    have hattempt := (hrow.claimAttempt claim hc).1
    by_cases hkey : claim.executionKey = ""
    · simp [hc, hkey, truthy, Option.filter_some]
    · simp [hc, hkey, truthy, hattempt, Option.filter_some]

theorem storable_claimedPlan (hs : Storable old)
    (hfind : findStep old.steps request.stepId = some step) :
    Storable (claimedPlan request old) := by
  obtain ⟨⟨hp, hu, ht, -⟩, hsteps, -⟩ := Plan.validate_eq_ok.1 hs.1
  have hmem : step ∈ old.steps := List.mem_of_find?_eq_some hfind
  have hid : step.stepId = request.stepId := by simpa using List.find?_some hfind
  have hne : request.stepId ≠ "" := hid ▸ (checkSteps_ids hsteps).2 step hmem
  have hcheck : checkSteps (setStatus .running request.stepId old.steps) = .ok () := by
    rw [← hsteps]
    refine checkSteps_update fun other => ?_
    split <;> exact ⟨rfl, rfl, rfl, rfl⟩
  have hcurrent : ∃ other ∈ setStatus .running request.stepId old.steps,
      some other.stepId = some request.stepId := by
    refine ⟨_, List.mem_map_of_mem hmem, ?_⟩
    simp [hid]
  have hvalid : (claimedPlan request old).validatedCurrent = some request.stepId := by
    simp [Plan.validatedCurrent, claimedPlan, PlanStatus.isActive, truthy, hne]
  refine ⟨Plan.validate_eq_ok.2 ⟨⟨hp, hu, ht, (by decide : "update".length ≤ 32)⟩, hcheck,
    fun _ => hcurrent, ?_⟩, hs.2⟩
  rw [hvalid]
  rfl

theorem rowPlan_claimedRow (hrow : RowFor exact old claim attempt row)
    (hnodup : (old.steps.map (·.stepId)).Nodup)
    (hfind : findStep old.steps request.stepId = some step)
    (hin : step.status ∈ (decideClaim digest request row).allowed) :
    rowPlan (claimedRow request (decideClaim digest request row) row) = claimedPlan request old := by
  have hsteps := setRunning_eq hnodup hfind hin
  rw [← hrow.steps] at hsteps
  have hclaimed : claimedPlan request old = claimedPlan request (rowPlan row) := by
    rw [hrow.shows.1]
    rfl
  rw [hclaimed]
  simp only [rowPlan, claimedRow, claimedPlan, hsteps]
  rfl

theorem answers_claimStep (h : Corresponds exact s t) (ha : Alike s (.claimStep request)) :
    Answers exact digest s t (clock, .claimStep request) := by
  simp only [Alike] at ha
  simp only [Answers, memoryStep, databaseStep, runAlone, PlanDb.prog]
  rcases h.cases request.planId with ⟨hp, -, -, hr⟩ | ⟨old, row, hp, hr, hrow⟩
  · have hmemory : s.claimStep digest request = none := by
      simp [MemoryPlanRepository.claimStep, hp]
    have hnone : ownedRow t.toPlanTables request.planId request.tenantId request.userId = none := by
      simp [ownedRow, hr]
    simp only [hmemory, PlanDb.claimStep, PlanDb.read, Prog.run_select, hnone, Option.filter_none,
      Prog.run_ret]
    exact ⟨.refl .., h⟩
  · obtain ⟨hallowed, hattempt, hkey⟩ := decideClaim_eq digest hrow
    obtain ⟨hnodup, -⟩ := checkSteps_ids (Plan.validate_eq_ok.1 hrow.storable.1).2.1
    have hone : (claimedSteps request (decideClaim digest request row).allowed row.steps).length = 1 ↔
        ∃ step, findStep old.steps request.stepId = some step ∧
          step.status ∈ (decideClaim digest request row).allowed := by
      rw [hrow.steps, claimedSteps_eq hnodup]
      cases findStep old.steps request.stepId with
      | none => simp
      | some step => by_cases hs : step.status ∈ (decideClaim digest request row).allowed <;>
          simp [hs, Option.filter_some]
    have hstatus : ∀ step : PlanStep, step.status ∈ (decideClaim digest request row).allowed ↔
        step.status = .pending ∨ step.status = .blocked ∨
          ((s.ownExpired request).isSome = true ∧ step.status = .running) := by
      intro step
      rw [hallowed]
      cases (s.ownExpired request).isSome <;> simp
    rw [claimStep_run hr]
    by_cases hgrant : PlanDb.unclaimed request row = true ∧
        (claimedSteps request (decideClaim digest request row).allowed row.steps).length = 1
    · rw [if_pos hgrant]
      obtain ⟨howned, hactive, hexpired⟩ := (unclaimed_iff hrow).1 hgrant.1
      obtain ⟨step, hfind, hin⟩ := hone.1 hgrant.2
      have hmemory : s.claimStep digest request = some _ := MemoryPlanRepository.claimStep_eq_some.2
        ⟨old, step, ⟨hp, howned, hactive, hexpired, hfind, (hstatus step).1 hin⟩, rfl⟩
      have hs : Storable (claimedPlan request old) := storable_claimedPlan hrow.storable hfind
      have hclaimed : RowFor exact (claimedPlan request old)
          (some (s.newClaim digest request old)) (s.newClaim digest request old).attempt
          (claimedRow request (decideClaim digest request row) row) := by
        refine ⟨hs, ?_, rfl, rfl, ?_, congrArg some hkey, rfl, hattempt, fun c hc => ?_⟩
        · exact .of_eq (rowPlan_claimedRow hrow hnodup hfind hin)
        · exact congrArg (fun version => some (version + 1)) hrow.stateVersion
        · cases hc
          exact ⟨rfl, ha⟩
      have hid : row.planId = request.planId := Table.key_of_get? hr
      have hput : (t.plans.put (claimedRow request (decideClaim digest request row) row)).get?
          request.planId = some (claimedRow request (decideClaim digest request row) row) := by
        rw [← hid]
        exact Table.get?_put_self ..
      have hget := get_stored (d := ⟨t.plans.put (claimedRow request (decideClaim digest request row)
        row), PlanDb.grantOf request (decideClaim digest request row) row :: t.grants⟩) hput hclaimed
        (owned_iff.1 howned).1 (owned_iff.1 howned).2
      have hplanId : (claimedPlan request old).planId = request.planId :=
        (Table.key_of_get? hp : old.planId = request.planId)
      simp only [hmemory, hget]
      refine ⟨.refl .., h.write _ rfl rfl ?_ ?_ ?_ h.published fun _ _ => rfl⟩
      · simpa [hplanId, Dict.get?_set_self] using hclaimed
      · exact fun other hne => Dict.get?_set_ne _ _ (hplanId ▸ Ne.symm hne)
      · exact fun other hne => Dict.get?_set_ne _ _ (hplanId ▸ Ne.symm hne)
    · rw [if_neg hgrant]
      have hmemory : s.claimStep digest request = none := by
        rw [Option.eq_none_iff_forall_not_mem]
        intro out hout
        obtain ⟨plan, step, hc, -⟩ := MemoryPlanRepository.claimStep_eq_some.1 hout
        cases hp.symm.trans hc.get
        exact hgrant ⟨(unclaimed_iff hrow).2 ⟨hc.owned, hc.active, hc.expired⟩,
          hone.2 ⟨step, hc.find, (hstatus step).2 hc.status⟩⟩
      simp only [hmemory]
      exact ⟨.refl .., h⟩

end Claim

/-- The `WHERE` of `renew_step_claim` is the test made in memory. -/
theorem renewable_iff {tenantId userId : String} (hrow : RowFor exact old claim attempt row) :
    PlanDb.renewable tenantId userId claimId now row = true ↔
      ownedBy tenantId userId old = true ∧
      ∃ c, claim = some c ∧ c.claimId = claimId ∧ now < c.leaseExpiresAt := by
  simp only [PlanDb.renewable, ownedBy, hrow.tenantId, hrow.userId, hrow.claimId,
    hrow.claimExpiresAt, and_assoc, Bool.and_eq_true, decide_eq_true_eq]
  cases claim <;> simp

theorem answers_renewStepClaim (h : Corresponds exact s t) {planId tenantId userId : String}
    {leaseExpiresAt : Instant} (hon : exact → OnTime s clock
      (.renewStepClaim planId tenantId userId claimId leaseExpiresAt now)) :
    Answers exact digest s t
      (clock, .renewStepClaim planId tenantId userId claimId leaseExpiresAt now) := by
  simp only [Answers, memoryStep, databaseStep, runAlone, PlanDb.prog, PlanDb.renewStepClaim,
    updateRow_run]
  rcases h.cases planId with ⟨hp, -, -, hr⟩ | ⟨old, row, hp, hr, hrow⟩
  · simp only [MemoryPlanRepository.renewStepClaim, hp, hr, Option.filter_none, Prog.run_ret]
    exact ⟨.refl .., h⟩
  · by_cases hguard : PlanDb.renewable tenantId userId claimId now row = true
    · obtain ⟨howned, claim, hc, hholder, hlive⟩ := (renewable_iff hrow).1 hguard
      have hstamp : exact → old.updatedAt = clock := fun he =>
        hon he old hp claim hc howned hholder hlive
      have hmemory : s.renewStepClaim planId tenantId userId claimId leaseExpiresAt now =
          some { s.toMemoryPlanRepository with
            executionClaims := s.executionClaims.set planId { claim with leaseExpiresAt } } := by
        simp [MemoryPlanRepository.renewStepClaim, hp, hc, howned, hholder, hlive]
      have hfound : (t.plans.get? planId).filter (PlanDb.renewable tenantId userId claimId now) =
          some row := by
        rw [hr, Option.filter_some, if_pos hguard]
      have hplanId : old.planId = planId := Table.key_of_get? hp
      simp only [hmemory, hfound, Prog.run_ret]
      refine ⟨.refl .., h.write old ?_ rfl ?_ ?_ (fun _ _ => rfl) h.published fun _ _ => rfl⟩
      · exact (Table.put_get?_self hp).symm
      · rw [hplanId, Dict.get?_set_self]
        rw [hc] at hrow
        refine ⟨hrow.storable, ?_, hrow.claimId, hrow.claimStepId, hrow.claimVersion, hrow.claimKey,
          rfl, hrow.attempt_eq, fun c hsome => ?_⟩
        · exact hrow.shows.restamp hstamp
        · cases hsome
          exact hrow.claimAttempt claim rfl
      · exact fun other hne => Dict.get?_set_ne _ _ (hplanId ▸ Ne.symm hne)
    · have hmemory : s.renewStepClaim planId tenantId userId claimId leaseExpiresAt now = none := by
        rw [Option.eq_none_iff_forall_not_mem]
        intro out hout
        simp only [MemoryPlanRepository.renewStepClaim, hp, Option.mem_def] at hout
        cases hc : s.executionClaims.get? planId with
        | none => simp [hc] at hout
        | some claim =>
          refine hguard ((renewable_iff hrow).2 ?_)
          simp only [hc] at hout
          split at hout
          · cases hout
          · next hok =>
            simp only [ne_eq, Bool.or_eq_true, Bool.not_eq_true', decide_eq_true_eq, not_or,
              not_not, Bool.not_eq_false, Int.not_le] at hok
            exact ⟨hok.1.1, claim, hc, hok.1.2, hok.2⟩
      have hfound : (t.plans.get? planId).filter (PlanDb.renewable tenantId userId claimId now) =
          none := by
        rw [hr, Option.filter_some, if_neg hguard]
      simp only [hmemory, hfound, Prog.run_ret]
      exact ⟨.refl .., h⟩

/-- The `WHERE` of `save_claimed_step` is the test made in memory. -/
theorem claimedBy_iff {stepId : String} (hp : s.plans.get? plan.planId = some old)
    (hrow : RowFor exact old (s.executionClaims.get? plan.planId)
      ((s.executionAttempts.get? plan.planId).getD 0) row) :
    PlanDb.claimedBy plan stepId claimId row = true ↔
      ∃ claim, s.Savable plan stepId claimId claim old := by
  simp only [PlanDb.claimedBy, hrow.tenantId, hrow.userId, hrow.claimId, hrow.claimStepId,
    hrow.claimVersion, hrow.stateVersion, Bool.and_eq_true, decide_eq_true_eq]
  constructor
  · rintro ⟨⟨⟨⟨⟨ht, hu⟩, hid⟩, hstep⟩, hversion⟩, hcurrent⟩
    cases hc : s.executionClaims.get? plan.planId with
    | none => simp [hc] at hid
    | some claim =>
      simp only [hc, Option.map_some, Option.some.injEq, Option.any_some, decide_eq_true_eq]
        at hid hstep hversion
      exact ⟨claim, hc, hstep, hid, hp, owned_iff.2 ⟨ht, hu⟩, by omega, hversion.symm⟩
  · rintro ⟨claim, hs⟩
    obtain ⟨ht, hu⟩ := owned_iff.1 hs.owned
    have hcurrent := hs.current
    have hversion := hs.version
    simp only [hs.held, Option.map_some, hs.holder, hs.step, Option.any_some, decide_eq_true_eq]
    exact ⟨⟨⟨⟨⟨ht, hu⟩, trivial⟩, trivial⟩, by omega⟩, by omega⟩

theorem answers_saveClaimedStep (h : Corresponds exact s t) {stepId : String}
    (ha : Alike s (.saveClaimedStep plan stepId claimId formationSuppressed))
    (hon : exact → OnTime s clock (.saveClaimedStep plan stepId claimId formationSuppressed)) :
    Answers exact digest s t (clock, .saveClaimedStep plan stepId claimId formationSuppressed) := by
  simp only [Alike, Option.mem_def] at ha
  rcases h.cases plan.planId with ⟨hp, hc, -, hr⟩ | ⟨old, row, hp, hr, hrow⟩
  · simp only [Answers, memoryStep, databaseStep, MemoryPlanRepository.saveClaimedStep, hc, noted, hr,
      runAlone, PlanDb.prog, PlanDb.saveClaimedStep, updateRow_run, Option.any_none,
      Option.filter_none, Bool.false_eq_true, if_false]
    exact ⟨.refl .., h⟩
  · have hold : old.planId = plan.planId := Table.key_of_get? hp
    by_cases hguard : PlanDb.claimedBy plan stepId claimId row = true
    · obtain ⟨claim, hsave⟩ := (claimedBy_iff hp hrow).1 hguard
      have hs : Storable plan := ha old hp claim hsave.held hsave.owned hsave.step hsave.holder
        hsave.current hsave.version
      have hstamp : exact → plan.updatedAt = clock := fun he => hon he old hp claim hsave.held
        hsave.owned hsave.step hsave.holder hsave.current hsave.version
      obtain ⟨ht, hu⟩ := owned_iff.1 hsave.owned
      have hmemory : s.saveClaimedStep plan stepId claimId clock = some _ :=
        MemoryPlanRepository.saveClaimedStep_eq_some.2 ⟨claim, old, hsave, rfl⟩
      have hfound : (t.plans.get? plan.planId).filter (PlanDb.claimedBy plan stepId claimId) =
          some row := by
        rw [hr, Option.filter_some, if_pos hguard]
      have hnoted : noted (PlanDb.claimedBy plan stepId claimId) formationSuppressed plan t =
          noteSuppressed formationSuppressed plan t.published := by
        simp [noted, hr, hguard]
      have hshows : rowPlan (finishedRow plan row) = plan :=
        rowPlan_finishedRow hrow hs hold.symm ht.symm hu.symm
      have hclaim : RowFor exact { plan with updatedAt := clock } none
          ((s.executionAttempts.get? plan.planId).getD 0) (finishedRow plan row) :=
        rowFor_unclaimed (hs.restamp clock) ⟨hshows, hstamp⟩ hrow.attempt_eq
          ⟨rfl, rfl, rfl, rfl, rfl⟩
      have hput : (t.plans.put (finishedRow plan row)).get? plan.planId =
          some (finishedRow plan row) := by
        exact (Table.get?_put ..).trans (if_pos hclaim.planId)
      have hget := get_stored (d := { t.toPlanTables with
        plans := t.plans.put (finishedRow plan row) }) hput hclaim rfl rfl
      simp only [Answers, memoryStep, databaseStep, hmemory, hnoted, runAlone, PlanDb.prog,
        PlanDb.saveClaimedStep, updateRow_run, hfound, hget]
      refine ⟨hclaim.same (fun plan => .plan (some plan)) fun _ => rfl,
        h.write _ rfl rfl ?_ (fun other hne => ?_) (fun _ _ => rfl)
          (noteSuppressed_same h formationSuppressed plan)
        fun other hne => congrArg (·.getD 0) (noteSuppressed_ne hne)⟩
      · rw [Dict.get?_erase, if_pos rfl]
        exact hclaim
      · rw [Dict.get?_erase, if_neg (Ne.symm hne)]
    · have hmemory : s.saveClaimedStep plan stepId claimId clock = none := by
        rw [Option.eq_none_iff_forall_not_mem]
        intro out hout
        obtain ⟨claim, existing, hsave, -⟩ := MemoryPlanRepository.saveClaimedStep_eq_some.1 hout
        cases hp.symm.trans hsave.get
        exact hguard ((claimedBy_iff hp hrow).2 ⟨claim, hsave⟩)
      have hfound : (t.plans.get? plan.planId).filter (PlanDb.claimedBy plan stepId claimId) =
          none := by
        rw [hr, Option.filter_some, if_neg hguard]
      have hnoted : noted (PlanDb.claimedBy plan stepId claimId) formationSuppressed plan t =
          t.published := by
        simp [noted, hr, hguard]
      simp only [Answers, memoryStep, databaseStep, hmemory, hnoted, runAlone, PlanDb.prog,
        PlanDb.saveClaimedStep, updateRow_run, hfound, Prog.run_ret]
      exact ⟨.refl .., h⟩

theorem storable_cancelled (hs : Storable plan) :
    Storable (MemoryPlanRepository.cancelledUnstarted now plan) := by
  obtain ⟨⟨hp, hu, ht, -⟩, hsteps, -⟩ := Plan.validate_eq_ok.1 hs.1
  have hcheck : checkSteps (MemoryPlanRepository.cancelledUnstarted now plan).steps = .ok () := by
    rw [← hsteps]
    refine checkSteps_update fun step => ?_
    split <;> exact ⟨rfl, rfl, rfl, rfl⟩
  exact ⟨Plan.validate_eq_ok.2 ⟨⟨hp, hu, ht, (by decide : "cancel".length ≤ 32)⟩, hcheck,
    fun hcurrent => (by cases hcurrent), rfl⟩, hs.2⟩

theorem rowFor_cancelledRow (now : Instant) (hrow : RowFor exact old claim attempt row) :
    RowFor exact (MemoryPlanRepository.cancelledUnstarted now old) none attempt (cancelledRow now row) := by
  refine rowFor_unclaimed (storable_cancelled hrow.storable) ?_ hrow.attempt_eq
    ⟨rfl, rfl, rfl, rfl, rfl⟩
  have hcancelled : MemoryPlanRepository.cancelledUnstarted now old =
      MemoryPlanRepository.cancelledUnstarted now (rowPlan row) := by
    rw [hrow.shows.1]
    rfl
  rw [hcancelled]
  exact .of_eq rfl

theorem answers_cancelUnstarted (h : Corresponds exact s t) {planId tenantId userId : String}
    {activeRun : Bool} :
    Answers exact digest s t (clock, .cancelUnstarted planId tenantId userId activeRun) := by
  simp only [Answers, memoryStep, databaseStep, runAlone, PlanDb.prog, PlanDb.cancelUnstarted,
    Prog.run_lock]
  rcases h.cases planId with ⟨hp, -, -, hr⟩ | ⟨old, row, hp, hr, hrow⟩
  · have hnone : ownedRow t.toPlanTables planId tenantId userId = none := by
      simp [ownedRow, hr]
    simp only [MemoryPlanRepository.cancelUnstarted, hp, hnone, Prog.run_ret]
    exact ⟨.refl .., h⟩
  · by_cases howned : ownedBy tenantId userId old = true
    · obtain ⟨ht, hu⟩ := owned_iff.1 howned
      have hselected : ownedRow t.toPlanTables planId tenantId userId = some row := by
        simp [ownedRow, hr, hrow.tenantId, hrow.userId, ht, hu]
      simp only [MemoryPlanRepository.cancelUnstarted, hp, howned, hselected, hrow.reads, Bool.not_true,
        Bool.false_eq_true, if_false]
      have hsame : ∀ outcome, SameReply exact (.ok (.cancel (some (old, outcome))))
          (.ok (.cancel (some ({ old with updatedAt := row.updatedAt }, outcome)))) :=
        fun outcome => hrow.same (fun plan => .cancel (some (plan, outcome))) fun _ => rfl
      by_cases hcancelled : old.status = .cancelled
      · simp only [if_pos hcancelled, Prog.run_ret]
        exact ⟨hsame _, h⟩
      · simp only [if_neg hcancelled]
        by_cases hended : (old.status = .completed || old.status = .failed) = true
        · simp only [if_pos hended, Prog.run_ret]
          exact ⟨hsame _, h⟩
        · simp only [if_neg hended]
          by_cases hrunning : (activeRun || old.steps.any (·.status = .running)) = true
          · simp only [if_pos hrunning, Prog.run_ret]
            exact ⟨hsame _, h⟩
          · have hclaim := rowFor_cancelledRow clock hrow
            have hid : old.planId = planId := Table.key_of_get? hp
            simp only [if_neg hrunning, hclaim.reads, Prog.run_commit, Prog.run_ret]
            refine ⟨hclaim.same (fun plan => .cancel (some (plan, .cancelled))) fun _ => rfl,
              h.write _ rfl rfl ?_ (fun other hne => ?_) (fun _ _ => rfl) h.published
              fun _ _ => rfl⟩
            · have hkey : (MemoryPlanRepository.cancelledUnstarted clock old).planId = planId := hid
              rw [hkey, Dict.get?_erase, if_pos rfl]
              exact hclaim
            · rw [Dict.get?_erase, if_neg fun he => hne (he.symm.trans hid.symm)]
    · have hnone : ownedRow t.toPlanTables planId tenantId userId = none := by
        rw [owned_iff] at howned
        simp [ownedRow, hr, hrow.tenantId, hrow.userId]
        simpa using howned
      simp only [MemoryPlanRepository.cancelUnstarted, hp, howned, hnone, Bool.not_false, if_true,
        Prog.run_ret]
      exact ⟨.refl .., h⟩

theorem answers_getExecutionClaimKey (h : Corresponds exact s t) {planId : String} :
    Answers exact digest s t (clock, .getExecutionClaimKey planId claimId) := by
  refine ⟨?_, h⟩
  simp only [memoryStep, databaseStep, memoryClaimKey, databaseClaimKey]
  rcases h.cases planId with ⟨-, hc, -, hr⟩ | ⟨old, row, -, hr, hrow⟩
  · rw [hc, hr]
    exact .refl ..
  · rw [hr, Option.filter_some, hrow.claimId]
    cases hc : s.executionClaims.get? planId with
    | none => exact .refl ..
    | some claim =>
      have hkey := hrow.claimKey
      rw [hc] at hkey
      by_cases hid : claim.claimId = claimId
      · simp [hid, hkey, Option.filter_some, SameReply]
      · simp [hid, Option.filter_some, SameReply]

theorem answers_markFormationPublished (h : Corresponds exact s t) {planId : String}
    {stateVersion : Nat}
    (hon : exact → OnTime s clock (.markFormationPublished planId stateVersion)) :
    Answers exact digest s t (clock, .markFormationPublished planId stateVersion) := by
  simp only [Answers, memoryStep, databaseStep, databaseMark, Table.contains]
  rcases h.cases planId with ⟨hp, -, -, hr⟩ | ⟨old, row, hp, hr, hrow⟩
  · simp only [hp, hr, Option.isSome_none, Bool.false_eq_true, if_false]
    exact ⟨.refl .., h⟩
  · have hid : old.planId = planId := Table.key_of_get? hp
    simp only [hp, hr, Option.isSome_some, if_true, ← h.published planId]
    refine ⟨.refl .., ?_⟩
    have hothers : ∀ other, other ≠ old.planId →
        ((markPublished s.published planId stateVersion).get? other).getD 0 =
          (s.published.get? other).getD 0 := by
      intro other hne
      rw [markPublished, Dict.get?_set_ne _ _ (hid ▸ Ne.symm hne)]
    split
    · next hlater =>
      have hstamp : exact → old.updatedAt = clock := fun he => hon he old hp hlater
      refine h.write old (Table.put_get?_self hp).symm rfl ?_ (fun _ _ => rfl)
        (fun _ _ => rfl) (fun other => ?_) hothers
      · rw [hid]
        exact hrow.kept hrow.storable (hrow.shows.restamp hstamp) ⟨rfl, rfl, rfl, rfl, rfl, rfl⟩
      · simp only [markPublished, Dict.get?_set]
        split
        · next heq =>
          subst heq
          simp only [Option.getD_some]
          omega
        · exact h.published other
    · next hlater =>
      refine h.write old (Table.put_get?_self hp).symm (Table.put_get?_self hr).symm ?_
        (fun _ _ => rfl) (fun _ _ => rfl) (fun other => ?_) hothers
      · rw [hid]
        exact hrow
      · simp only [markPublished, Dict.get?_set]
        split
        · next heq =>
          subst heq
          rw [← h.published, Option.getD_some]
          omega
        · exact h.published other

end Step

/-- A call on which the two agree: as far as `exact` with the time of the last update. -/
def Agreed (exact : Prop) (s : MemoryPlanStore) : Instant × Call → Prop
  | (clock, call) => Alike s call ∧ (exact → OnTime s clock call)

instance [Decidable exact] (s : MemoryPlanStore) (call : Instant × Call) :
    Decidable (Agreed exact s call) :=
  inferInstanceAs (Decidable (Alike s call.2 ∧ (exact → OnTime s call.1 call.2)))

/-- A call on which they agree keeps the two repositories related. -/
theorem simulates (digest : String → String) :
    Simulates (memoryStep digest) (databaseStep digest) (Agreed exact) (Corresponds exact)
      (SameReply exact)
  | _, _, (_, .save ..), h, ha => answers_save h ha.1
  | _, _, (_, .saveIfVersion ..), h, ha => answers_saveIfVersion h ha.1
  | _, _, (_, .claimStep _), h, ha => answers_claimStep h ha.1
  | _, _, (_, .renewStepClaim ..), h, ha => answers_renewStepClaim h ha.2
  | _, _, (_, .saveClaimedStep ..), h, ha => answers_saveClaimedStep h ha.1 ha.2
  | _, _, (_, .cancelUnstarted ..), h, _ => answers_cancelUnstarted h
  | _, _, (_, .getExecutionClaimKey ..), h, _ => answers_getExecutionClaimKey h
  | _, _, (_, .markFormationPublished ..), h, ha => answers_markFormationPublished h ha.2

/-- From related repositories a run of such calls gets the same replies, and leaves the same
plans and the same claims. -/
theorem plan_stores_agree {digest : String → String} {s : MemoryPlanStore} {t : PlanDatabase}
    (h : Corresponds exact s t) {calls : List (Instant × Call)}
    (hcalls : AllAlong (memoryStep digest) (Agreed exact) s calls) :
    List.Forall₂ (SameReply exact) (replies (memoryStep digest) s calls).1
      (replies (databaseStep digest) t calls).1 ∧
    ShowSame exact (replies (memoryStep digest) s calls).2
      (replies (databaseStep digest) t calls).2 := by
  obtain ⟨hreplies, hlast⟩ := (simulates digest).agree h hcalls
  exact ⟨hreplies, hlast.showSame⟩

end Relation

/-! ## Runs from empty repositories -/

def noPlans : MemoryPlanStore :=
  { plans := .empty, executionClaims := .empty, executionAttempts := .empty, published := .empty }

def noRows : PlanDatabase := { plans := .empty, grants := [], published := .empty }

theorem corresponds_empty (exact : Prop) : Corresponds exact noPlans noRows :=
  ⟨fun _ => .absent, fun _ => rfl, fun _ _ => rfl⟩

def twoSteps : Plan :=
  { planId := "plan"
    userId := "user"
    tenantId := "tenant"
    sessionId := some "session"
    status := .pending
    currentStepId := some "one"
    executionPolicy := none
    nextAction := none
    lastEventId := none
    stateVersion := 1
    updatedAt := 5
    formationEventType := "create"
    steps :=
      [{ stepId := "one", agentId := "agent", description := "first", status := .pending,
         dependsOn := [], artifactRefs := [] },
       { stepId := "two", agentId := "agent", description := "second", status := .pending,
         dependsOn := ["one"], artifactRefs := [] }] }

def claimOne (claimId : String) (now : Instant) : ClaimRequest :=
  { planId := "plan", stepId := "one", tenantId := "tenant", userId := "user", claimId
    leaseExpiresAt := 100, now }

def finishedOne : Plan :=
  { twoSteps with
    status := .pending
    currentStepId := some "two"
    stateVersion := 3
    updatedAt := 8
    steps := setStatus .completed "one" twoSteps.steps }

def ordinaryCalls : List (Instant × Call) :=
  [(5, .save twoSteps false), (6, .claimStep (claimOne "worker" 6)),
   (6, .renewStepClaim "plan" "tenant" "user" "worker" 200 7),
   (7, .getExecutionClaimKey "plan" "worker"), (8, .saveClaimedStep finishedOne "one" "worker" false),
   (8, .markFormationPublished "plan" 3), (9, .cancelUnstarted "plan" "tenant" "user" false)]

theorem plan_stores_agree_ordinary :
    List.Forall₂ (SameReply True) (replies (memoryStep sampleDigest) noPlans ordinaryCalls).1
      (replies (databaseStep sampleDigest) noRows ordinaryCalls).1 ∧
    ShowSame True (replies (memoryStep sampleDigest) noPlans ordinaryCalls).2
      (replies (databaseStep sampleDigest) noRows ordinaryCalls).2 :=
  plan_stores_agree (corresponds_empty True) (by decide)

/-- A claimed plan that is saved as blocked, and claimed again before the lease is over. -/
def blockedSave : List (Instant × Call) :=
  [(5, .save twoSteps false), (6, .claimStep (claimOne "worker" 6)),
   (7, .save { twoSteps with status := .blocked, stateVersion := 3 } false)]

/-- In memory the save drops the claim and the step can be claimed again, in the database not. -/
theorem blocked_save_keeps_row_claim :
    ¬ ShowSame False (replies (memoryStep sampleDigest) noPlans blockedSave).2
      (replies (databaseStep sampleDigest) noRows blockedSave).2 ∧
    ∃ plan, (memoryStep sampleDigest (replies (memoryStep sampleDigest) noPlans blockedSave).2
        (8, .claimStep (claimOne "other" 8))).1 = .ok (.plan (some plan)) ∧
      (databaseStep sampleDigest (replies (databaseStep sampleDigest) noRows blockedSave).2
        (8, .claimStep (claimOne "other" 8))).1 = .ok (.plan none) := by
  refine ⟨fun h => absurd (h.claims "plan") (by decide), _, rfl, ?_⟩
  decide

end OpenIntentRouter.Plans.Stores
