import OpenIntentRouter.Core.LTS
import OpenIntentRouter.Services.PlanService

/-!
# Steps in the hands of a claim

Serial calls on the plans of the in-memory repository. A ghost records the
steps a claim has put into running and that run since; each should be the step
its plan's claim names, for only that step can be claimed again when the lease
is over. Three calls break this: a claim for another step replaces an expired
one, a claimed step is saved as running, and an event of another step takes
the plan out of running, which drops the claim.

* `Covers`: the calls that do not;
* `no_stranded_step`: then every such step is named by the claim, and claimable
  after the lease.
-/
namespace OpenIntentRouter.Plans

open Core Core.Except Schemas Repositories Services

inductive PlanCall where
  | claimStep (request : ClaimRequest)
  | renewStepClaim (planId tenantId userId claimId : String) (leaseExpiresAt now : Instant)
  | saveClaimedStep (plan : Plan) (stepId claimId : String) (now : Instant)
    (named : ∀ step ∈ plan.steps, step.stepId ≠ "")
  | finishClaimedStep (request : PlanService.FinishRequest)
  | applyAgentEvent (event : AgentEvent) (tenantId userId : String) (now : Instant)
  | confirm (planId tenantId userId : String) (requestId : Option String)
    (expectedStateVersion : Option Nat) (now : Instant)
  | cancelUnstarted (planId tenantId userId : String) (activeRun : Bool) (now : Instant)

def orElse {α : Type} (repo : MemoryPlanRepository) :
    Except StoreError (MemoryPlanRepository × α) → MemoryPlanRepository
  | .ok out => out.1
  | .error _ => repo

def perform (digest : String → String) (repo : MemoryPlanRepository) :
    PlanCall → MemoryPlanRepository
  | .claimStep request => ((repo.claimStep digest request).map Prod.fst).getD repo
  | .renewStepClaim planId tenantId userId claimId leaseExpiresAt now =>
    (repo.renewStepClaim planId tenantId userId claimId leaseExpiresAt now).getD repo
  | .saveClaimedStep plan stepId claimId now _ =>
    ((repo.saveClaimedStep plan stepId claimId now).map Prod.fst).getD repo
  | .finishClaimedStep request => orElse repo (PlanService.finishClaimedStep repo request 3)
  | .applyAgentEvent event tenantId userId now =>
    orElse repo (PlanService.applyAgentEvent repo event tenantId userId now 3)
  | .confirm planId tenantId userId requestId expectedStateVersion now =>
    orElse repo (PlanService.confirm repo planId tenantId userId requestId expectedStateVersion now)
  | .cancelUnstarted planId tenantId userId activeRun now =>
    (repo.cancelUnstarted planId tenantId userId activeRun now).2

/-! ## The ghost -/

def runningIn (steps : List PlanStep) (stepId : String) : Bool :=
  (findStep steps stepId).any (·.status = .running)

def isRunning (repo : MemoryPlanRepository) (planId stepId : String) : Bool :=
  (repo.plans.get? planId).any fun plan => runningIn plan.steps stepId

/-- `granted`: the steps, by plan, that `claim_step` has put into running and
that have been running since. -/
structure Session where
  repo : MemoryPlanRepository
  granted : List (String × String)

def granting (digest : String → String) (repo : MemoryPlanRepository) :
    PlanCall → List (String × String)
  | .claimStep request =>
    if (repo.claimStep digest request).isSome then [(request.planId, request.stepId)] else []
  | _ => []

def next (digest : String → String) (s : Session) (call : PlanCall) : Session :=
  { repo := perform digest s.repo call
    granted := (granting digest s.repo call ++ s.granted).filter fun step =>
      isRunning (perform digest s.repo call) step.1 step.2 }

def Named (repo : MemoryPlanRepository) : Prop :=
  ∀ planId plan, repo.plans.get? planId = some plan → ∀ step ∈ plan.steps, step.stepId ≠ ""

structure Unclaimed (s : Session) : Prop where
  named : Named s.repo
  claims : ∀ planId, s.repo.executionClaims.get? planId = none
  granted : s.granted = []

def system (digest : String → String) : LTS Session PlanCall where
  init := Unclaimed
  step s call s' := s' = next digest s call

/-- The call does not take the claim away from a running step: a granted claim
is for the step of the expired one, if that step runs; a claimed step that runs
is saved in another status, and finished with another; and an event that leaves
it running leaves no step blocked, failed or cancelled. -/
def Covers (s : Session) : PlanCall → Prop
  | .claimStep request => (∃ plan step, s.repo.Claimable request plan step) →
      ∀ claim ∈ s.repo.executionClaims.get? request.planId,
        isRunning s.repo request.planId claim.stepId = true → claim.stepId = request.stepId
  | .saveClaimedStep plan stepId claimId _ _ =>
      (∃ claim existing, s.repo.Savable plan stepId claimId claim existing) →
      isRunning s.repo plan.planId stepId = true → runningIn plan.steps stepId = false
  | .finishClaimedStep request =>
      (s.repo.get request.planId request.tenantId request.userId).isSome = true →
      ∀ claim ∈ s.repo.executionClaims.get? request.planId,
        claim.stepId = request.stepId → claim.claimId = request.claimId →
        isRunning s.repo request.planId request.stepId = true →
        request.status ≠ .running ∧ request.status ≠ .pending
  | .applyAgentEvent event tenantId userId _ =>
      ∀ plan steps, PlanService.Applies s.repo event tenantId userId plan steps →
      ∀ claim ∈ s.repo.executionClaims.get? (event.planId.getD ""),
        runningIn plan.steps claim.stepId = true → runningIn steps claim.stepId = true →
        ∀ step ∈ steps, step.status ≠ .blocked ∧ step.status ≠ .failed ∧ step.status ≠ .cancelled
  | .renewStepClaim .. | .confirm .. | .cancelUnstarted .. => True

/-! ## Advancing steps -/

theorem findStep_cons (step : PlanStep) (steps : List PlanStep) (stepId : String) :
    findStep (step :: steps) stepId =
      if step.stepId = stepId then some step else findStep steps stepId := by
  simp only [findStep, List.find?_cons]
  by_cases h : step.stepId = stepId <;> simp [h]

variable {status : PlanStepStatus} {steps : List PlanStep} {stepId : String} {s : Session}
  {digest : String → String}

theorem advanceSteps_find {stepId : Option String} {out : List PlanStep}
    (h : advanceSteps stepId status steps = .ok out) (id : String) :
    (findStep steps id = none ∧ findStep out id = none) ∨ ∃ old new, findStep steps id = some old ∧
      findStep out id = some new ∧ (some id ≠ stepId → new = old) ∧
      (some id = stepId → advanceStepStatus old.status status = .ok new.status) := by
  induction steps generalizing out with
  | nil =>
    cases h
    exact .inl ⟨rfl, rfl⟩
  | cons step steps ih =>
    simp only [advanceSteps, List.mapM_cons] at h
    obtain ⟨step', hstep, h⟩ := bind_eq_ok.1 h
    obtain ⟨rest, hrest, h⟩ := bind_eq_ok.1 h
    cases h
    simp only [findStep_cons]
    split at hstep
    · next hne =>
      cases hstep
      split
      · next hid =>
        subst hid
        exact .inr ⟨step, step, rfl, rfl, fun _ => rfl, fun he => absurd he hne⟩
      · exact ih hrest
    · next heq =>
      obtain ⟨status', hstatus, hstep⟩ := bind_eq_ok.1 hstep
      cases hstep
      split
      · next hid =>
        subst hid
        exact .inr ⟨step, _, rfl, rfl, fun hne => absurd hne heq, fun _ => hstatus⟩
      · exact ih hrest

theorem advanceSteps_named {stepId : Option String} {out : List PlanStep}
    (h : advanceSteps stepId status steps = .ok out) (hn : ∀ step ∈ steps, step.stepId ≠ "") :
    ∀ step ∈ out, step.stepId ≠ "" := by
  induction steps generalizing out with
  | nil =>
    cases h
    exact hn
  | cons step steps ih =>
    simp only [advanceSteps, List.mapM_cons] at h
    obtain ⟨step', hstep, h⟩ := bind_eq_ok.1 h
    obtain ⟨rest, hrest, h⟩ := bind_eq_ok.1 h
    cases h
    have hid : step'.stepId = step.stepId := by
      split at hstep
      · cases hstep
        rfl
      · obtain ⟨status', -, hstep⟩ := bind_eq_ok.1 hstep
        cases hstep
        rfl
    intro other hmem
    rcases List.mem_cons.1 hmem with rfl | hmem
    · rw [hid]
      exact hn step List.mem_cons_self
    · exact ih hrest (fun s hs => hn s (List.mem_cons_of_mem _ hs)) other hmem

theorem advance_running {out : PlanStepStatus} (h : advanceStepStatus .running status = .ok out)
    (h1 : status ≠ .running) (h2 : status ≠ .pending) : out ≠ .running := by
  cases status <;> simp_all [advanceStepStatus]

/-- A step that runs beside no blocked, failed or cancelled one keeps its plan running. -/
theorem planStatus_running (hn : ∀ step ∈ steps, step.stepId ≠ "")
    (hr : runningIn steps stepId = true)
    (hs : ∀ step ∈ steps, step.status ≠ .blocked ∧ step.status ≠ .failed ∧
      step.status ≠ .cancelled) : planStatus steps (nextStepId steps) = .running := by
  simp only [runningIn, Option.any_eq_true, decide_eq_true_eq] at hr
  obtain ⟨step, hfind, hstatus⟩ := hr
  have hmem : step ∈ steps := List.mem_of_find?_eq_some hfind
  have hnone : ∀ status : PlanStatus, status = .blocked ∨ status = .failed ∨ status = .cancelled →
      steps.any (·.status = status) = false := by
    intro status hstatus
    rw [List.any_eq_false]
    intro other hother
    have := hs other hother
    rcases hstatus with rfl | rfl | rfl <;> simp [this]
  have hall : steps.all (·.status = .completed) = false := by
    rw [List.all_eq_false]
    exact ⟨step, hmem, by simp [hstatus]⟩
  have htruthy : truthy (nextStepId steps) = true := by
    unfold nextStepId
    cases hf : steps.find? _ with
    | none =>
      have := List.find?_eq_none.1 hf step hmem
      simp [hstatus] at this
    | some other => simpa [truthy] using hn other (List.mem_of_find?_eq_some hf)
  simp only [planStatus, hnone _ (.inr (.inr rfl)), hnone _ (.inr (.inl rfl)),
    hnone _ (.inl rfl), hall, htruthy, Bool.false_eq_true, if_false, if_true]

/-! ## The invariant -/

structure Inv (s : Session) : Prop where
  named : Named s.repo
  /-- A claimed plan runs. -/
  runs : ∀ planId claim, s.repo.executionClaims.get? planId = some claim →
    ∃ plan, s.repo.plans.get? planId = some plan ∧ plan.status = .running
  running : ∀ step ∈ s.granted, isRunning s.repo step.1 step.2 = true
  covered : ∀ step ∈ s.granted, ∃ claim,
    s.repo.executionClaims.get? step.1 = some claim ∧ claim.stepId = step.2

theorem inv_init {s : Session} (h : Unclaimed s) : Inv s where
  named := h.named
  runs := fun planId claim hc => by rw [h.claims] at hc; cases hc
  running := fun step hs => by rw [h.granted] at hs; cases hs
  covered := fun step hs => by rw [h.granted] at hs; cases hs

/-- What a call does to the plan it is about, and that it leaves the others. -/
structure Touches (s : Session) (granting : List (String × String)) (planId : String)
    (repo : MemoryPlanRepository) : Prop where
  others : ∀ other, other ≠ planId → repo.plans.get? other = s.repo.plans.get? other ∧
    repo.executionClaims.get? other = s.repo.executionClaims.get? other
  named : ∀ plan, repo.plans.get? planId = some plan → ∀ step ∈ plan.steps, step.stepId ≠ ""
  runs : ∀ claim, repo.executionClaims.get? planId = some claim →
    ∃ plan, repo.plans.get? planId = some plan ∧ plan.status = .running
  own : ∀ step ∈ granting, step.1 = planId
  covered : ∀ stepId, (planId, stepId) ∈ granting ++ s.granted → isRunning repo planId stepId = true →
    ∃ claim, repo.executionClaims.get? planId = some claim ∧ claim.stepId = stepId

theorem Touches.inv {s : Session} {granting : List (String × String)} {planId : String}
    {repo : MemoryPlanRepository} (ht : Touches s granting planId repo) (hi : Inv s) :
    Inv { repo, granted := (granting ++ s.granted).filter fun step =>
      isRunning repo step.1 step.2 } where
  named := by
    intro other plan hp
    by_cases h : other = planId
    · subst h
      exact ht.named plan hp
    · exact hi.named other plan ((ht.others other h).1 ▸ hp)
  runs := by
    intro other claim hc
    by_cases h : other = planId
    · subst h
      exact ht.runs claim hc
    · obtain ⟨hp, hc'⟩ := ht.others other h
      rw [hp]
      exact hi.runs other claim (hc' ▸ hc)
  running := fun step hs => (List.mem_filter.1 hs).2
  covered := by
    rintro ⟨other, stepId⟩ hs
    obtain ⟨hmem, hrun⟩ := List.mem_filter.1 hs
    by_cases h : other = planId
    · subst h
      exact ht.covered stepId hmem hrun
    · rw [(ht.others other h).2]
      rcases List.mem_append.1 hmem with hg | hg
      · exact absurd (ht.own _ hg) h
      · exact hi.covered _ hg

theorem touches_same {s : Session} (hi : Inv s) (planId : String) : Touches s [] planId s.repo where
  others := fun _ _ => ⟨rfl, rfl⟩
  named := hi.named planId
  runs := hi.runs planId
  own := by simp
  covered := fun stepId hmem _ => hi.covered (planId, stepId) hmem

theorem Inv.claimed {s : Session} (hi : Inv s) {planId stepId : String}
    (hg : (planId, stepId) ∈ s.granted) : ∃ claim,
      s.repo.executionClaims.get? planId = some claim ∧ claim.stepId = stepId ∧
      isRunning s.repo planId claim.stepId = true := by
  obtain ⟨claim, hc, hs⟩ := hi.covered _ hg
  exact ⟨claim, hc, hs, hs ▸ hi.running _ hg⟩

theorem setStatus_named (hn : ∀ step ∈ steps, step.stepId ≠ "") :
    ∀ step ∈ setStatus status stepId steps,
      step.stepId ≠ "" := by
  intro step hs
  obtain ⟨old, hmem, rfl⟩ := List.mem_map.1 hs
  split
  · exact hn old hmem
  · exact hn old hmem

theorem touches_claimStep (hi : Inv s) {request : ClaimRequest} (hc : Covers s (.claimStep request)) :
    Touches s (granting digest s.repo (.claimStep request)) request.planId
      (perform digest s.repo (.claimStep request)) := by
  cases hcase : s.repo.claimStep digest request with
  | none => simpa [granting, perform, hcase] using touches_same hi request.planId
  | some out =>
    obtain ⟨plan, step, hclaimable, rfl⟩ := MemoryPlanRepository.claimStep_eq_some.1 hcase
    have hkey : plan.planId = request.planId := Table.key_of_get? hclaimable.get
    have hid : (claimedPlan request plan).planId = request.planId := hkey
    simp only [granting, perform, hcase, Option.isSome_some, if_true, Option.map_some,
      Option.getD_some]
    refine ⟨fun other hne => ⟨?_, Dict.get?_set_ne _ _ (Ne.symm hne)⟩, ?_, ?_, by simp, ?_⟩
    · rw [Table.get?_put_ne]
      rw [hid]
      exact Ne.symm hne
    · intro plan' hp
      rw [← hid, Table.get?_put_self] at hp
      cases hp
      exact setStatus_named (hi.named _ _ hclaimable.get)
    · intro claim _
      refine ⟨claimedPlan request plan, ?_, rfl⟩
      rw [← hid, Table.get?_put_self]
    · intro stepId hmem _
      refine ⟨_, Dict.get?_set_self .., ?_⟩
      rcases List.mem_append.1 hmem with hg | hg
      · have := List.mem_singleton.1 hg
        exact (Prod.mk.inj this).2.symm
      · -- the claim that is replaced names a running step
        obtain ⟨claim, hclaim, hs, hrun⟩ := hi.claimed hg
        have hsame := hc ⟨plan, step, hclaimable⟩ claim hclaim hrun
        exact hsame.symm.trans hs

/-- A save that drops the claim: no granted step of the plan may still run. -/
theorem touches_drop {s : Session} {plan : Plan} {planId : String} (hid : plan.planId = planId)
    (hn : ∀ step ∈ plan.steps, step.stepId ≠ "")
    (hr : ∀ stepId, (planId, stepId) ∈ s.granted → runningIn plan.steps stepId = false) :
    Touches s [] planId { s.repo with
      plans := s.repo.plans.put plan
      executionClaims := s.repo.executionClaims.erase planId } := by
  subst hid
  refine ⟨fun other hne => ⟨Table.get?_put_ne _ (Ne.symm hne), ?_⟩, ?_, ?_, by simp, ?_⟩
  · rw [Dict.get?_erase, if_neg (Ne.symm hne)]
  · intro plan' hp
    rw [Table.get?_put_self] at hp
    cases hp
    exact hn
  · intro claim hc
    rw [Dict.get?_erase, if_pos rfl] at hc
    cases hc
  · intro stepId hmem hrun
    simp only [isRunning, Table.get?_put_self, Option.any_some, hr stepId hmem] at hrun
    cases hrun

/-- A stored plan: if it does not run, no granted step of it may. -/
theorem touches_store (hi : Inv s) {plan : Plan} (hn : ∀ step ∈ plan.steps, step.stepId ≠ "")
    (hr : plan.status ≠ .running → ∀ stepId, (plan.planId, stepId) ∈ s.granted →
      runningIn plan.steps stepId = false) : Touches s [] plan.planId (s.repo.store plan) := by
  cases hclaim : s.repo.executionClaims.get? plan.planId with
  | none =>
    have hdrop : s.repo.store plan = { s.repo with
        plans := s.repo.plans.put plan
        executionClaims := s.repo.executionClaims.erase plan.planId } := by
      simp only [MemoryPlanRepository.store, hclaim]
    rw [hdrop]
    refine touches_drop rfl hn fun stepId hg => ?_
    obtain ⟨claim, hc, -⟩ := hi.covered _ hg
    rw [hclaim] at hc
    cases hc
  | some claim =>
    by_cases hrun : plan.status = .running
    · have hkeep : s.repo.store plan = { s.repo with
          plans := s.repo.plans.put plan
          executionClaims := s.repo.executionClaims.set plan.planId
            { claim with stateVersion := plan.stateVersion } } := by
        simp only [MemoryPlanRepository.store, hclaim, if_pos hrun]
      rw [hkeep]
      refine ⟨fun other hne => ⟨Table.get?_put_ne _ (Ne.symm hne),
        Dict.get?_set_ne _ _ (Ne.symm hne)⟩, ?_, ?_, by simp, ?_⟩
      · intro plan' hp
        rw [Table.get?_put_self] at hp
        cases hp
        exact hn
      · exact fun _ _ => ⟨plan, Table.get?_put_self .., hrun⟩
      · intro stepId hmem _
        obtain ⟨claim', hc, hs⟩ := hi.covered _ hmem
        cases hclaim.symm.trans hc
        exact ⟨_, Dict.get?_set_self .., hs⟩
    · have hdrop : s.repo.store plan = { s.repo with
          plans := s.repo.plans.put plan
          executionClaims := s.repo.executionClaims.erase plan.planId } := by
        simp only [MemoryPlanRepository.store, hclaim, if_neg hrun]
      rw [hdrop]
      exact touches_drop rfl hn (hr hrun)

theorem isRunning_of_get {repo : MemoryPlanRepository} {planId stepId : String} {plan : Plan}
    (hp : repo.plans.get? planId = some plan) :
    isRunning repo planId stepId = runningIn plan.steps stepId := by
  simp only [isRunning, hp, Option.any_some]

theorem touches_renew (hi : Inv s) (planId tenantId userId claimId : String)
    (leaseExpiresAt now : Instant) :
    Touches s [] planId
      ((s.repo.renewStepClaim planId tenantId userId claimId leaseExpiresAt now).getD s.repo) := by
  cases hcase : s.repo.renewStepClaim planId tenantId userId claimId leaseExpiresAt now with
  | none => exact touches_same hi planId
  | some out =>
    obtain ⟨claim, hc, rfl⟩ := MemoryPlanRepository.renewStepClaim_eq_some hcase
    refine ⟨fun other hne => ⟨rfl, Dict.get?_set_ne _ _ (Ne.symm hne)⟩, hi.named planId, ?_,
      by simp, ?_⟩
    · exact fun _ _ => hi.runs planId claim hc
    · intro stepId hmem _
      obtain ⟨claim', hc', hs⟩ := hi.covered _ hmem
      cases hc.symm.trans hc'
      exact ⟨_, Dict.get?_set_self .., hs⟩

/-- A claimed step that is saved in a status other than running, if it ran. -/
theorem touches_saved {s : Session} (hi : Inv s) {plan : Plan} {stepId claimId : String}
    {now : Instant} {out : MemoryPlanRepository × Plan}
    (hsave : s.repo.saveClaimedStep plan stepId claimId now = some out)
    (hn : ∀ step ∈ plan.steps, step.stepId ≠ "")
    (hr : isRunning s.repo plan.planId stepId = true → runningIn plan.steps stepId = false) :
    Touches s [] plan.planId out.1 := by
  obtain ⟨claim, existing, hsavable, rfl⟩ := MemoryPlanRepository.saveClaimedStep_eq_some.1 hsave
  refine @touches_drop _ { plan with updatedAt := now } _ rfl hn fun stepId' hg => ?_
  obtain ⟨claim', hc, hs, hrun⟩ := hi.claimed hg
  cases hsavable.held.symm.trans hc
  rw [← hs, hsavable.step]
  rw [hsavable.step] at hrun
  exact hr hrun

theorem touches_save (hi : Inv s) {plan : Plan} {claimId : String} {now : Instant}
    {named : ∀ step ∈ plan.steps, step.stepId ≠ ""}
    (hc : Covers s (.saveClaimedStep plan stepId claimId now named)) :
    Touches s [] plan.planId
      (perform digest s.repo (.saveClaimedStep plan stepId claimId now named)) := by
  simp only [perform]
  cases hcase : s.repo.saveClaimedStep plan stepId claimId now with
  | none => exact touches_same hi plan.planId
  | some out =>
    obtain ⟨claim, existing, hsavable, -⟩ := MemoryPlanRepository.saveClaimedStep_eq_some.1 hcase
    exact touches_saved hi hcase named (hc ⟨claim, existing, hsavable⟩)

theorem touches_finish (hi : Inv s) {request : PlanService.FinishRequest}
    (hc : Covers s (.finishClaimedStep request)) :
    Touches s [] request.planId (perform digest s.repo (.finishClaimedStep request)) := by
  simp only [perform]
  cases hcase : PlanService.finishClaimedStep s.repo request 3 with
  | error e => exact touches_same hi request.planId
  | ok out =>
    rcases PlanService.finishClaimedStep_ok hcase with hsame | ⟨plan, steps, saved, hf, hout⟩
    · simpa [orElse, hsame] using touches_same hi request.planId
    · have hget := MemoryPlanRepository.get_eq_some.1 hf.get
      have hid : plan.planId = request.planId := Table.key_of_get? hget.1
      simp only [orElse, hout]
      rw [← hid]
      refine @touches_saved _ hi (PlanService.finishedPlan plan steps request.now) _ _ _ _ hf.saved
        (advanceSteps_named hf.advances (hi.named _ _ hget.1)) fun hrun => ?_
      have hrun : isRunning s.repo request.planId request.stepId = true := hid ▸ hrun
      obtain ⟨claim, existing, hsavable, -⟩ :=
        MemoryPlanRepository.saveClaimedStep_eq_some.1 hf.saved
      have hclaim : s.repo.executionClaims.get? request.planId = some claim := hid ▸ hsavable.held
      obtain ⟨h1, h2⟩ := hc (by rw [hf.get]; rfl) claim hclaim hsavable.step hsavable.holder hrun
      rw [isRunning_of_get hget.1] at hrun
      -- the step of the claim leaves running
      simp only [PlanService.finishedPlan, runningIn, Option.any_eq_true,
        decide_eq_true_eq] at hrun ⊢
      obtain ⟨old, hold, hstatus⟩ := hrun
      rcases advanceSteps_find hf.advances request.stepId with ⟨hnone, -⟩ | ⟨o, n, ho, hn, -, hadv⟩
      · rw [hnone] at hold
        cases hold
      · cases ho.symm.trans hold
        have hne := advance_running (hstatus ▸ hadv rfl) h1 h2
        simp [hn, hne]

theorem touches_event (hi : Inv s) {event : AgentEvent} {tenantId userId : String} {now : Instant}
    (hc : Covers s (.applyAgentEvent event tenantId userId now)) :
    Touches s [] (event.planId.getD "")
      (perform digest s.repo (.applyAgentEvent event tenantId userId now)) := by
  simp only [perform]
  cases hcase : PlanService.applyAgentEvent s.repo event tenantId userId now 3 with
  | error e => exact touches_same hi _
  | ok out =>
    rcases PlanService.applyAgentEvent_ok hcase with hsame |
      ⟨plan, steps, stored, happlies, hout, hid, hsteps, hstatus, -⟩
    · simpa [orElse, hsame] using touches_same hi _
    · have hget := (MemoryPlanRepository.get_eq_some.1 happlies.get).1
      have hkey : stored.planId = event.planId.getD "" := hid.trans (Table.key_of_get? hget)
      obtain ⟨status, -, hadvances⟩ := happlies.advances
      have hnamed := advanceSteps_named hadvances (hi.named _ _ hget)
      simp only [orElse, hout]
      rw [← hkey]
      refine touches_store hi (hsteps ▸ hnamed) fun hne stepId hg => ?_
      by_contra hrun
      rw [hsteps, Bool.not_eq_false] at hrun
      rw [hkey] at hg
      obtain ⟨claim, hclaim, hs, hold⟩ := hi.claimed hg
      rw [isRunning_of_get hget] at hold
      refine hne (hstatus.trans (planStatus_running hnamed hrun ?_))
      exact hc plan steps happlies claim hclaim hold (hs ▸ hrun)

/-- A confirmed plan was pending, so it was not claimed. -/
theorem touches_confirm (hi : Inv s) (planId tenantId userId : String) (requestId : Option String)
    (expectedStateVersion : Option Nat) (now : Instant) :
    Touches s [] planId (perform digest s.repo
      (.confirm planId tenantId userId requestId expectedStateVersion now)) := by
  simp only [perform]
  cases hcase : PlanService.confirm s.repo planId tenantId userId requestId expectedStateVersion
      now with
  | error e => exact touches_same hi _
  | ok out =>
    rcases PlanService.confirm_ok hcase with hsame |
      ⟨plan, stored, hget, hpending, hout, hid, hstatus, hsteps, -⟩
    · simpa [orElse, hsame] using touches_same hi _
    · have hkey : stored.planId = planId := hid.trans (Table.key_of_get? hget)
      simp only [orElse, hout]
      rw [← hkey]
      refine touches_store hi (hsteps ▸ hi.named _ _ hget) fun hne => ?_
      exact absurd hstatus hne

theorem touches_cancel (hi : Inv s) (planId tenantId userId : String) (activeRun : Bool)
    (now : Instant) :
    Touches s [] planId (s.repo.cancelUnstarted planId tenantId userId activeRun now).2 := by
  rcases @MemoryPlanRepository.cancelUnstarted_snd s.repo planId tenantId userId activeRun now with
    hsame | ⟨plan, hget, hnone, hout⟩
  · rw [hsame]
    exact touches_same hi planId
  · have hid : plan.planId = planId := Table.key_of_get? hget
    rw [hout]
    refine @touches_drop _ (MemoryPlanRepository.cancelledUnstarted now plan) _ hid ?_
      fun stepId hg => ?_
    · intro step hs
      obtain ⟨old, hmem, rfl⟩ := List.mem_map.1 hs
      split
      · exact hi.named _ _ hget old hmem
      · exact hi.named _ _ hget old hmem
    · have hrun := hi.running _ hg
      rw [isRunning_of_get hget] at hrun
      simp only [runningIn, Option.any_eq_true, decide_eq_true_eq] at hrun
      obtain ⟨step, hfind, hstatus⟩ := hrun
      rw [List.any_eq_false] at hnone
      exact absurd hstatus (by simpa using hnone step (List.mem_of_find?_eq_some hfind))

theorem inv_next {call : PlanCall} (hi : Inv s) (hc : Covers s call) :
    Inv (next digest s call) := by
  cases call with
  | claimStep request => exact (touches_claimStep hi hc).inv hi
  | renewStepClaim planId tenantId userId claimId lease now =>
    exact (touches_renew hi planId tenantId userId claimId lease now).inv hi
  | saveClaimedStep plan stepId claimId now named => exact (touches_save hi hc).inv hi
  | finishClaimedStep request => exact (touches_finish hi hc).inv hi
  | applyAgentEvent event tenantId userId now => exact (touches_event hi hc).inv hi
  | confirm planId tenantId userId requestId version now =>
    exact (touches_confirm hi planId tenantId userId requestId version now).inv hi
  | cancelUnstarted planId tenantId userId activeRun now =>
    exact (touches_cancel hi planId tenantId userId activeRun now).inv hi

theorem inv_reachable (h : ((system digest).guarded Covers).Reachable s) : Inv s := by
  induction h with
  | init h0 => exact inv_init h0
  | step _ hst hi =>
    obtain ⟨hc, rfl⟩ := hst
    exact inv_next hi hc

/-- **No stranded step.** In every run of calls that cover, a step that
`claim_step` has put into running and that still runs is the step of its plan's
claim, and its owner can claim it again once the lease is over. -/
theorem no_stranded_step {digest : String → String} {s : Session}
    (h : ((system digest).guarded Covers).Reachable s) {planId stepId : String}
    (hg : (planId, stepId) ∈ s.granted) :
    ∃ plan claim, s.repo.plans.get? planId = some plan ∧ runningIn plan.steps stepId = true ∧
      s.repo.executionClaims.get? planId = some claim ∧ claim.stepId = stepId ∧
      ∀ claimId leaseExpiresAt now, claim.leaseExpiresAt ≤ now →
        (s.repo.claimStep digest ⟨planId, stepId, plan.tenantId, plan.userId, claimId,
          leaseExpiresAt, now⟩).isSome = true := by
  have hi := inv_reachable h
  obtain ⟨claim, hclaim, hs, hrun⟩ := hi.claimed hg
  obtain ⟨plan, hget, hstatus⟩ := hi.runs planId claim hclaim
  rw [isRunning_of_get hget, hs] at hrun
  refine ⟨plan, claim, hget, hrun, hclaim, hs, fun claimId leaseExpiresAt now hle => ?_⟩
  simp only [runningIn, Option.any_eq_true, decide_eq_true_eq] at hrun
  obtain ⟨step, hfind, hstep⟩ := hrun
  rw [Option.isSome_iff_exists]
  refine ⟨_, MemoryPlanRepository.claimStep_eq_some.2 ⟨plan, step,
    ⟨hget, by simp [ownedBy], by rw [hstatus]; rfl, ?_, hfind, .inr (.inr ⟨?_, hstep⟩)⟩, rfl⟩⟩
  · intro claim' hc
    cases hclaim.symm.trans hc
    exact hle
  · simp [MemoryPlanRepository.ownExpired, hclaim, hs, hle]

/-! ## A stranded step -/

def pendingStep (stepId : String) : PlanStep :=
  { stepId, agentId := "agent", description := "step", status := .pending, dependsOn := [],
    artifactRefs := [] }

def pendingPlan : Plan :=
  { planId := "plan"
    userId := "user"
    tenantId := "tenant"
    status := .pending
    currentStepId := some "one"
    executionPolicy := none
    nextAction := none
    lastEventId := none
    stateVersion := 1
    updatedAt := 0
    formationEventType := "create"
    steps := [pendingStep "one", pendingStep "two"] }

def twoSteps : Session :=
  { repo :=
      { plans := Table.empty.put pendingPlan
        executionClaims := .empty
        executionAttempts := .empty }
    granted := [] }

def claimFor (stepId claimId : String) (now : Instant) : PlanCall :=
  .claimStep
    { planId := "plan", stepId, tenantId := "tenant", userId := "user", claimId
      leaseExpiresAt := now + 10, now }

theorem twoSteps_unclaimed : Unclaimed twoSteps where
  named := by
    intro planId plan hp step hs
    rw [twoSteps, pendingPlan, Table.get?_put] at hp
    split at hp
    · cases hp
      simp only [List.mem_cons, List.not_mem_nil, or_false] at hs
      rcases hs with rfl | rfl <;> decide
    · cases hp
  claims := fun _ => rfl
  granted := rfl

/-- Step one runs with a lease until 10; at 20 step two is claimed, and no claim
names step one. -/
theorem claim_strands_other_step :
    ∃ s, (system sampleDigest).Reachable s ∧ ("plan", "one") ∈ s.granted ∧
      isRunning s.repo "plan" "one" = true ∧
      (s.repo.executionClaims.get? "plan").map (·.stepId) = some "two" :=
  ⟨next sampleDigest (next sampleDigest twoSteps (claimFor "one" "claim_1" 0))
      (claimFor "two" "claim_2" 20),
    .step (.step (.init twoSteps_unclaimed) rfl) rfl, by decide, by decide,
    by decide⟩

def finishOne : PlanCall :=
  .finishClaimedStep
    { planId := "plan", stepId := "one", tenantId := "tenant", userId := "user"
      claimId := "claim_1", status := .completed, now := 5 }

def inOrder : Session :=
  next sampleDigest (next sampleDigest (next sampleDigest twoSteps (claimFor "one" "claim_1" 0))
    finishOne) (claimFor "two" "claim_2" 20)

theorem no_stranded_step_inOrder :
    ∃ plan claim, inOrder.repo.plans.get? "plan" = some plan ∧
      runningIn plan.steps "two" = true ∧
      inOrder.repo.executionClaims.get? "plan" = some claim ∧ claim.stepId = "two" ∧
      ∀ claimId leaseExpiresAt now, claim.leaseExpiresAt ≤ now →
        (inOrder.repo.claimStep sampleDigest ⟨"plan", "two", plan.tenantId, plan.userId, claimId,
          leaseExpiresAt, now⟩).isSome = true := by
  have h1 : ((system sampleDigest).guarded Covers).Reachable
      (next sampleDigest twoSteps (claimFor "one" "claim_1" 0)) :=
    .step (l := claimFor "one" "claim_1" 0) (.init twoSteps_unclaimed)
      ⟨fun _ => by decide, rfl⟩
  have h2 : ((system sampleDigest).guarded Covers).Reachable
      (next sampleDigest (next sampleDigest twoSteps (claimFor "one" "claim_1" 0)) finishOne) :=
    .step (l := finishOne) h1 ⟨fun _ _ _ _ _ _ => by decide, rfl⟩
  have h3 : ((system sampleDigest).guarded Covers).Reachable inOrder :=
    .step (l := claimFor "two" "claim_2" 20) h2 ⟨fun _ => by decide, rfl⟩
  exact no_stranded_step h3 (by decide)

end OpenIntentRouter.Plans
