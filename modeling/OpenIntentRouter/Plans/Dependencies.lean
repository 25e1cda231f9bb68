import OpenIntentRouter.Plans.Replays
import OpenIntentRouter.Services.InvocationService

/-!
# Dependencies of claimed steps

The calls on plans, `save_plan`, and invocations that read the current step of
a plan and later claim it. Neither the invocation nor `claim_step` looks at
`depends_on`; an invocation claims a step whose dependencies are completed
because every write leaves the current step so. A plan saved with another
current step, a claim for another step, and an event that starts or blocks a
step ahead of its dependencies do not (`Orderly` leaves them out).

* `Progressed.stepReady`: statuses that advance keep the dependencies of a step
  completed;
* `invoked_steps_ready`: the step an invocation claims has completed
  dependencies.
-/
namespace OpenIntentRouter.Plans.Dependencies

open Core Schemas Repositories Services InvocationService
open PlanService (savePlan eventPlan finishedPlan)

/-! ## Ready steps -/

def Ready (steps : List PlanStep) (step : PlanStep) : Prop :=
  ∀ parent ∈ step.dependsOn, ∃ other ∈ steps, other.stepId = parent ∧ other.status = .completed

instance (steps : List PlanStep) (step : PlanStep) : Decidable (Ready steps step) :=
  inferInstanceAs (Decidable (∀ _ ∈ _, ∃ _ ∈ _, _ ∧ _))

def StepReady (steps : List PlanStep) (stepId : String) : Prop :=
  ∀ step ∈ findStep steps stepId, step.status.isActive = true → Ready steps step

instance (steps : List PlanStep) (stepId : String) : Decidable (StepReady steps stepId) :=
  inferInstanceAs (Decidable (∀ _ ∈ _, _ → _))

def CurrentReady (plan : Plan) : Prop :=
  plan.status.isActive = true → ∀ step ∈ currentPlanStep plan, StepReady plan.steps step.stepId

instance (plan : Plan) : Decidable (CurrentReady plan) :=
  inferInstanceAs (Decidable (_ → ∀ _ ∈ _, _))

/-- The step `_next_step_id` goes to is ready where it has been started or blocked; a pending
one it takes only when it is. -/
def NextReady (steps : List PlanStep) : Prop :=
  (planStatus steps (nextStepId steps)).isActive = true →
    ∀ step ∈ steps, some step.stepId = nextStepId steps →
      step.status = .running ∨ step.status = .blocked → Ready steps step

instance (steps : List PlanStep) : Decidable (NextReady steps) :=
  inferInstanceAs (Decidable (_ → ∀ _ ∈ _, _ → _ ∨ _ → _))

def Progressed : List PlanStep → List PlanStep → Prop :=
  List.Forall₂ fun old new => new = { old with status := new.status } ∧
    Advanced old.status new.status

theorem Progressed.refl (steps : List PlanStep) : Progressed steps steps :=
  List.forall₂_same.2 fun step _ => ⟨rfl, .refl step.status⟩

variable {old new steps : List PlanStep} {step : PlanStep} {stepId : String} {plan : Plan}
  {repo : MemoryPlanRepository} {now : Instant} {out : MemoryPlanRepository × Plan}

theorem Progressed.advanced (h : Progressed old new) : StepsAdvanced old new := by
  refine h.imp ?_
  rintro old new ⟨hnew, hadvanced⟩
  exact ⟨by rw [hnew], hadvanced⟩

theorem Progressed.ids (h : Progressed old new) (hn : (old.map (·.stepId)).Nodup) :
    (new.map (·.stepId)).Nodup := by
  rw [h.advanced.ids]
  exact hn

theorem Progressed.completed (h : Progressed old new) (hs : step ∈ old)
    (hc : step.status = .completed) :
    ∃ other ∈ new, other.stepId = step.stepId ∧ other.status = .completed := by
  induction h with
  | nil => cases hs
  | @cons first first' _ _ hfirst _ ih =>
    rcases List.mem_cons.1 hs with rfl | hs
    · refine ⟨first', List.mem_cons_self, by rw [hfirst.1], ?_⟩
      rw [hfirst.2.terminal (by rw [hc]; rfl), hc]
    · obtain ⟨other, hother, hsame⟩ := ih hs
      exact ⟨other, List.mem_cons_of_mem _ hother, hsame⟩

theorem Progressed.ready (h : Progressed old new) {step' : PlanStep}
    (hdeps : step'.dependsOn = step.dependsOn) (hr : Ready old step) : Ready new step' := by
  intro parent hp
  obtain ⟨other, hother, hid, hc⟩ := hr parent (hdeps ▸ hp)
  obtain ⟨other', hmem, hid', hc'⟩ := h.completed hother hc
  exact ⟨other', hmem, hid'.trans hid, hc'⟩

theorem Progressed.find (h : Progressed old new) (hf : findStep new stepId = some step) : ∃ before,
      findStep old stepId = some before ∧ step = { before with status := step.status } ∧
      Advanced before.status step.status := by
  induction h with
  | nil => cases hf
  | @cons first first' _ _ hfirst _ ih =>
    have hid : first'.stepId = first.stepId := by rw [hfirst.1]
    rw [findStep_cons, hid] at hf
    rw [findStep_cons]
    split at hf
    · next heq =>
      cases hf
      rw [if_pos heq]
      exact ⟨first, rfl, hfirst⟩
    · next hne =>
      rw [if_neg hne]
      exact ih hf

/-- A step that was ready stays ready: completed steps stay completed. -/
theorem Progressed.stepReady (h : Progressed old new) (hr : StepReady old stepId) :
    StepReady new stepId := by
  intro step hf hactive
  obtain ⟨before, hbefore, hsame, hadvanced⟩ := h.find hf
  have hopen : before.status.isActive = true := by
    by_contra hclosed
    rw [Bool.not_eq_true] at hclosed
    rw [hadvanced.terminal hclosed, hclosed] at hactive
    cases hactive
  exact h.ready (by rw [hsame]) (hr before hbefore hopen)

theorem advanceSteps_progressed {stepId : Option String} {proposed : PlanStepStatus}
    {out : List PlanStep} (h : advanceSteps stepId proposed steps = .ok out) :
    Progressed steps out := by
  refine (advanceSteps_forall h).imp ?_
  rintro old new ⟨hnew, hif⟩
  refine ⟨hnew, ?_⟩
  split at hif
  · exact advanced_of hif
  · rw [hif]
    exact .refl old.status

theorem setRunning_progressed (hn : (steps.map (·.stepId)).Nodup)
    (hf : findStep steps stepId = some step) (ha : step.status.isActive = true) :
    Progressed steps (setStatus .running stepId steps) := by
  have hadvanced := List.forall₂_same.1 (List.forall₂_map_right_iff.1 (setStatus_advanced hn hf ha))
  refine List.forall₂_map_right_iff.2 (List.forall₂_same.2 fun other hmem => ?_)
  exact ⟨by split <;> rfl, (hadvanced other hmem).2⟩

theorem cancelled_progressed (now : Instant) (plan : Plan) :
    Progressed plan.steps (MemoryPlanRepository.cancelledUnstarted now plan).steps := by
  refine List.forall₂_map_right_iff.2 (List.forall₂_same.2 fun step _ => ?_)
  split
  · next hopen =>
    refine ⟨rfl, fun hclosed => ?_, fun _ hp => by cases hp⟩
    cases hs : step.status <;> simp_all [PlanStatus.isActive]
  · exact ⟨rfl, .refl step.status⟩

/-! ## The system -/

/-- The repository, and the steps invocations have read and not yet claimed. -/
structure State where
  repo : MemoryPlanRepository
  selected : List SelectedStep

inductive Action where
  | call (call : PlanCall)
  | savePlan (plan : Plan) (eventType eventId : Option String) (occurredAt : Option Instant)
    (now : Instant)
  | select (invocation : PlanInvocation)
  | claim (selected : SelectedStep) (claimId : String) (leaseExpiresAt now : Instant)

def next (digest : String → String) (s : State) : Action → State
  | .call call => { s with repo := perform digest s.repo call }
  | .savePlan plan eventType eventId occurredAt now =>
    { s with repo := orElse s.repo (savePlan s.repo plan eventType eventId occurredAt now) }
  | .select invocation =>
    match selectStep s.repo invocation with
    | .ok selected => { s with selected := selected :: s.selected }
    | .error _ => s
  | .claim selected claimId leaseExpiresAt now =>
    { s with repo := orElse s.repo (claimSelected digest s.repo selected claimId leaseExpiresAt now) }

/-- Stored plans that the validator accepts, with a ready current step, and no invocation yet. -/
structure Initial (s : State) : Prop where
  valid : ∀ planId plan, s.repo.plans.get? planId = some plan →
    (∃ out, plan.validate = .ok out) ∧ CurrentReady plan
  selected : s.selected = []

def Enabled (s : State) : Action → Prop
  | .claim selected _ _ _ => selected ∈ s.selected
  | .call _ | .savePlan .. | .select _ => True

def system (digest : String → String) : LTS State Action where
  init := Initial
  step s action s' := Enabled s action ∧ s' = next digest s action

/-- A plan that is stored from outside: valid, with a ready current step, and the steps that
invocations have read are ready in it. -/
structure Startable (s : State) (plan : Plan) : Prop where
  valid : ∃ out, plan.validate = .ok out
  current : CurrentReady plan
  selected : ∀ step ∈ s.selected, step.planId = plan.planId → StepReady plan.steps step.stepId

/-- A plan is saved with a ready current step, a step that is claimed by itself is ready, and an
event or a finished claim leaves no step in front that was started or blocked ahead of its
dependencies. -/
def Orderly (s : State) : Action → Prop
  | .savePlan plan eventType eventId occurredAt now =>
      (∃ out, savePlan s.repo plan eventType eventId occurredAt now = .ok out) → Startable s plan
  | .call (.saveClaimedStep plan stepId claimId _ _) =>
      (∃ claim existing, s.repo.Savable plan stepId claimId claim existing) → Startable s plan
  | .call (.claimStep request) => ∀ plan step, s.repo.Claimable request plan step →
      Ready plan.steps step
  | .call (.applyAgentEvent event tenantId userId _) => ∀ plan steps,
      PlanService.Applies s.repo event tenantId userId plan steps → NextReady steps
  | .call (.finishClaimedStep request) => ∀ plan steps out,
      PlanService.Finishes s.repo request plan steps out → NextReady steps
  | .call (.renewStepClaim ..) | .call (.confirm ..) | .call (.cancelUnstarted ..) | .select _
  | .claim .. => True

/-! ## The invariant -/

structure Inv (s : State) : Prop where
  ids : ∀ planId plan, s.repo.plans.get? planId = some plan → (plan.steps.map (·.stepId)).Nodup
  current : ∀ planId plan, s.repo.plans.get? planId = some plan → CurrentReady plan
  selected : ∀ step ∈ s.selected, ∀ plan, s.repo.plans.get? step.planId = some plan →
    StepReady plan.steps step.stepId

theorem valid_ids (h : ∃ out, plan.validate = .ok out) : (plan.steps.map (·.stepId)).Nodup := by
  obtain ⟨out, hout⟩ := h
  exact (checkSteps_ids (Plan.validate_eq_ok.1 hout).2.1).1

theorem inv_init {s : State} (h : Initial s) : Inv s where
  ids := fun planId plan hp => valid_ids (h.valid planId plan hp).1
  current := fun planId plan hp => (h.valid planId plan hp).2
  selected := by simp [h.selected]

variable {s : State}

theorem Inv.put (hi : Inv s) (plan : Plan) (hplans : repo.plans = s.repo.plans.put plan)
    (hids : (plan.steps.map (·.stepId)).Nodup) (hcurrent : CurrentReady plan)
    (hselected : ∀ step ∈ s.selected, step.planId = plan.planId →
      StepReady plan.steps step.stepId) : Inv { s with repo } := by
  have hget : ∀ planId other, repo.plans.get? planId = some other →
      (planId = plan.planId ∧ other = plan) ∨ s.repo.plans.get? planId = some other := by
    intro planId other hp
    rw [hplans, Table.get?_put] at hp
    split at hp
    · next hid =>
      cases hp
      exact .inl ⟨hid.symm, rfl⟩
    · exact .inr hp
  refine ⟨fun planId other hp => ?_, fun planId other hp => ?_, fun step hs other hp => ?_⟩
  · rcases hget planId other hp with ⟨-, rfl⟩ | hp
    · exact hids
    · exact hi.ids planId other hp
  · rcases hget planId other hp with ⟨-, rfl⟩ | hp
    · exact hcurrent
    · exact hi.current planId other hp
  · rcases hget step.planId other hp with ⟨hid, rfl⟩ | hp
    · exact hselected step hs hid
    · exact hi.selected step hs other hp

/-- The plan is one that is stored, with statuses that have advanced. -/
theorem Inv.advance (hi : Inv s) (plan : Plan) {old : Plan}
    (hold : s.repo.plans.get? plan.planId = some old) (hp : Progressed old.steps plan.steps)
    (hplans : repo.plans = s.repo.plans.put plan) (hcurrent : CurrentReady plan) :
    Inv { s with repo } := by
  refine hi.put plan hplans (hp.ids (hi.ids _ _ hold)) hcurrent fun step hs hid => ?_
  exact hp.stepReady (hi.selected step hs old (hid ▸ hold))

/-- The current step is the one `_next_step_id` goes to. -/
theorem currentReady_next (hsteps : plan.steps = steps)
    (hcurrent : plan.currentStepId = nextStepId steps)
    (hstatus : plan.status = planStatus steps (nextStepId steps))
    (hn : (steps.map (·.stepId)).Nodup) (hnext : NextReady steps) : CurrentReady plan := by
  intro hactive step hstep other hother hopen
  obtain ⟨hid, -, hfind⟩ := currentPlanStep_eq_some.1 hstep
  subst hsteps
  cases hother.symm.trans hfind
  have hmem : step ∈ plan.steps := List.mem_of_find?_eq_some hfind
  rw [hcurrent] at hid
  -- the step found is the step of this id
  have hsame : ∃ found, plan.steps.find? (fun step =>
      (step.status = .pending && step.dependsOn.all fun parent =>
        plan.steps.any fun other => other.status = .completed && other.stepId = parent) ||
      step.status = .running || step.status = .blocked || step.status = .failed) = some found ∧
      found = step := by
    obtain ⟨found, hfound, heq⟩ := Option.map_eq_some_iff.1 hid
    exact ⟨found, hfound,
      List.inj_on_of_nodup_map hn (List.mem_of_find?_eq_some hfound) hmem heq⟩
  obtain ⟨found, hfound, rfl⟩ := hsame
  have htaken := List.find?_some hfound
  cases hs : found.status with
  | pending =>
    simp only [hs, decide_true, Bool.true_and, reduceCtorEq, decide_false, Bool.or_false,
      List.all_eq_true, List.any_eq_true, Bool.and_eq_true, decide_eq_true_eq] at htaken
    intro parent hp
    obtain ⟨other, hother, hdone, hparent⟩ := htaken parent hp
    exact ⟨other, hother, hparent, hdone⟩
  | running => exact hnext (hstatus ▸ hactive) found hmem hid.symm (.inl hs)
  | blocked => exact hnext (hstatus ▸ hactive) found hmem hid.symm (.inr hs)
  | completed => simp [hs, PlanStatus.isActive] at hopen
  | failed => simp [hs, PlanStatus.isActive] at hopen
  | cancelled => simp [hs, PlanStatus.isActive] at hopen

/-! ## One action -/

section Step

variable {digest : String → String} {s : State}

theorem inv_claimStep (hi : Inv s) {request : ClaimRequest}
    (hclaim : s.repo.claimStep digest request = some out)
    (hready : ∀ plan step, s.repo.Claimable request plan step → Ready plan.steps step) :
    Inv { s with repo := out.1 } := by
  obtain ⟨plan, step, hc, rfl⟩ := MemoryPlanRepository.claimStep_eq_some.1 hclaim
  have hid : (claimedPlan request plan).planId = request.planId :=
    (Table.key_of_get? hc.get : plan.planId = request.planId)
  have hopen : step.status.isActive = true := by
    rcases hc.status with hs | hs | ⟨-, hs⟩ <;> rw [hs] <;> rfl
  have hp : Progressed plan.steps (claimedPlan request plan).steps :=
    setRunning_progressed (hi.ids _ _ hc.get) hc.find hopen
  refine hi.advance (claimedPlan request plan) (hid ▸ hc.get) hp rfl fun _ current hcurrent => ?_
  obtain ⟨hcurrentId, -, -⟩ := currentPlanStep_eq_some.1 hcurrent
  have hstepId : current.stepId = request.stepId := (Option.some.inj hcurrentId).symm
  rw [hstepId]
  refine hp.stepReady fun found hfound _ => ?_
  cases hc.find.symm.trans hfound
  exact hready plan step hc

theorem inv_saved (hi : Inv s) {claimId : String}
    (hsave : s.repo.saveClaimedStep plan stepId claimId now = some out)
    (hids : (plan.steps.map (·.stepId)).Nodup) (hcurrent : CurrentReady plan)
    (hselected : ∀ step ∈ s.selected, step.planId = plan.planId →
      StepReady plan.steps step.stepId) : Inv { s with repo := out.1 } := by
  obtain ⟨claim, existing, -, rfl⟩ := MemoryPlanRepository.saveClaimedStep_eq_some.1 hsave
  exact hi.put { plan with updatedAt := now } rfl hids hcurrent hselected

theorem inv_finish (hi : Inv s) {request : PlanService.FinishRequest}
    (ho : Orderly s (.call (.finishClaimedStep request))) :
    Inv (next digest s (.call (.finishClaimedStep request))) := by
  simp only [next, perform]
  cases hcase : PlanService.finishClaimedStep s.repo request 3 with
  | error e => exact hi
  | ok out =>
    rcases PlanService.finishClaimedStep_ok hcase with hsame | ⟨plan, steps, saved, hf, hout⟩
    · simpa only [orElse, hsame] using hi
    · have hget := (MemoryPlanRepository.get_eq_some.1 hf.get).1
      have hid : plan.planId = request.planId := Table.key_of_get? hget
      have hp : Progressed plan.steps steps := advanceSteps_progressed hf.advances
      have hids : (steps.map (·.stepId)).Nodup := hp.ids (hi.ids _ _ hget)
      simp only [orElse, hout]
      refine inv_saved hi hf.saved hids ?_ fun step hs hsid => ?_
      · exact currentReady_next rfl rfl rfl hids (ho plan steps saved hf)
      · have hsid : step.planId = request.planId := hsid.trans hid
        exact hp.stepReady (hi.selected step hs plan (hsid ▸ hget))

theorem inv_event (hi : Inv s) {event : AgentEvent} {tenantId userId : String}
    (ho : Orderly s (.call (.applyAgentEvent event tenantId userId now))) :
    Inv (next digest s (.call (.applyAgentEvent event tenantId userId now))) := by
  simp only [next, perform]
  cases hcase : PlanService.applyAgentEvent s.repo event tenantId userId now 3 with
  | error e => exact hi
  | ok out =>
    rcases PlanService.applyAgentEvent_ok hcase with hsame |
      ⟨plan, steps, stored, happlies, hout, hid, hsteps, hstatus, hcurrent⟩
    · simpa only [orElse, hsame] using hi
    · have hget := (MemoryPlanRepository.get_eq_some.1 happlies.get).1
      obtain ⟨status, -, hadvances⟩ := happlies.advances
      have hp : Progressed plan.steps steps := advanceSteps_progressed hadvances
      have hkey : stored.planId = event.planId.getD "" := hid.trans (Table.key_of_get? hget)
      simp only [orElse, hout]
      refine hi.advance stored (hkey ▸ hget) (hsteps ▸ hp) (MemoryPlanRepository.store_plans ..) ?_
      exact currentReady_next hsteps hcurrent hstatus (hp.ids (hi.ids _ _ hget))
        (ho plan steps happlies)

theorem inv_confirm (hi : Inv s) (planId tenantId userId : String) (requestId : Option String)
    (expectedStateVersion : Option Nat) (now : Instant) :
    Inv (next digest s
      (.call (.confirm planId tenantId userId requestId expectedStateVersion now))) := by
  simp only [next, perform]
  cases hcase : PlanService.confirm s.repo planId tenantId userId requestId expectedStateVersion
      now with
  | error e => exact hi
  | ok out =>
    rcases PlanService.confirm_ok hcase with hsame |
      ⟨plan, stored, hget, hpending, hout, hid, -, hsteps, hcurrent⟩
    · simpa only [orElse, hsame] using hi
    · have hkey : stored.planId = planId := hid.trans (Table.key_of_get? hget)
      simp only [orElse, hout]
      refine hi.advance stored (hkey ▸ hget) (hsteps ▸ .refl _) (MemoryPlanRepository.store_plans ..) ?_
      intro _ step hstep
      have hbefore : currentPlanStep plan = some step := by
        rw [← hstep, currentPlanStep, currentPlanStep, hsteps, hcurrent]
      rw [hsteps]
      exact hi.current planId plan hget (by rw [hpending]; rfl) step hbefore

theorem inv_cancel (hi : Inv s) (planId tenantId userId : String) (activeRun : Bool) (now : Instant) :
    Inv (next digest s (.call (.cancelUnstarted planId tenantId userId activeRun now))) := by
  simp only [next, perform]
  rcases @MemoryPlanRepository.cancelUnstarted_snd s.repo planId tenantId userId activeRun now with
    hsame | ⟨plan, hget, -, hout⟩
  · rw [hsame]
    exact hi
  · have hid : plan.planId = planId := Table.key_of_get? hget
    rw [hout]
    refine hi.advance (MemoryPlanRepository.cancelledUnstarted now plan) ?_
      (cancelled_progressed now plan) rfl fun hactive => by cases hactive
    exact hid ▸ hget

theorem inv_savePlan (hi : Inv s) {eventType eventId : Option String} {occurredAt : Option Instant}
    (ho : Orderly s (.savePlan plan eventType eventId occurredAt now)) :
    Inv (next digest s (.savePlan plan eventType eventId occurredAt now)) := by
  simp only [next]
  cases hcase : savePlan s.repo plan eventType eventId occurredAt now with
  | error e => exact hi
  | ok out =>
    obtain ⟨hout, hid, hstatus, hsteps, hcurrent⟩ := PlanService.savePlan_ok hcase
    have hs : Startable s plan := ho ⟨out, hcase⟩
    simp only [orElse]
    refine hi.put out.2 (hout ▸ MemoryPlanRepository.store_plans ..) (hsteps ▸ valid_ids hs.valid) ?_ ?_
    · intro hactive step hstep
      have hbefore : currentPlanStep plan = some step := by
        rw [← hstep, currentPlanStep, currentPlanStep, hsteps, hcurrent]
      rw [hsteps]
      exact hs.current (hstatus ▸ hactive) step hbefore
    · intro step hmem hsid
      rw [hsteps]
      exact hs.selected step hmem (hsid.trans hid)

/-- An invocation reads the current step of an active plan. -/
theorem inv_select (hi : Inv s) (invocation : PlanInvocation) :
    Inv (next digest s (.select invocation)) := by
  simp only [next]
  split
  · next selected hselect =>
    obtain ⟨plan, current, hget, hactive, hcurrent, hid, -⟩ := selectStep_ok hselect
    refine ⟨hi.ids, hi.current, fun step hs other hother => ?_⟩
    rcases List.mem_cons.1 hs with rfl | hs
    · cases hget.symm.trans hother
      rw [← hid]
      exact hi.current _ plan hget hactive current hcurrent
    · exact hi.selected step hs other hother
  · exact hi

/-- The step an invocation has read is ready when its claim finds it. -/
theorem Inv.claims (hi : Inv s) {selected : SelectedStep} (hs : selected ∈ s.selected)
    {claimId : String} {leaseExpiresAt : Instant}
    (hc : s.repo.Claimable (claimRequest selected claimId leaseExpiresAt now) plan step) :
    Ready plan.steps step := by
  refine hi.selected selected hs plan hc.get step hc.find ?_
  rcases hc.status with hs | hs | ⟨-, hs⟩ <;> rw [hs] <;> rfl

theorem inv_next (hi : Inv s) {action : Action} (he : Enabled s action) (ho : Orderly s action) :
    Inv (next digest s action) := by
  cases action with
  | call call =>
    cases call with
    | claimStep request =>
      simp only [next, perform]
      cases hcase : s.repo.claimStep digest request with
      | none => exact hi
      | some out => exact inv_claimStep hi hcase ho
    | renewStepClaim planId tenantId userId claimId leaseExpiresAt now =>
      simp only [next, perform]
      cases hcase : s.repo.renewStepClaim planId tenantId userId claimId leaseExpiresAt now with
      | none => exact hi
      | some out =>
        obtain ⟨claim, -, rfl⟩ := MemoryPlanRepository.renewStepClaim_eq_some hcase
        exact ⟨hi.ids, hi.current, hi.selected⟩
    | saveClaimedStep plan stepId claimId now named =>
      simp only [next, perform]
      cases hcase : s.repo.saveClaimedStep plan stepId claimId now with
      | none => exact hi
      | some out =>
        obtain ⟨claim, existing, hsavable, -⟩ :=
          MemoryPlanRepository.saveClaimedStep_eq_some.1 hcase
        have hs : Startable s plan := ho ⟨claim, existing, hsavable⟩
        exact inv_saved hi hcase (valid_ids hs.valid) hs.current hs.selected
    | finishClaimedStep request => exact inv_finish hi ho
    | applyAgentEvent event tenantId userId now => exact inv_event hi ho
    | confirm planId tenantId userId requestId version now => exact inv_confirm hi ..
    | cancelUnstarted planId tenantId userId activeRun now => exact inv_cancel hi ..
  | savePlan plan eventType eventId occurredAt now => exact inv_savePlan hi ho
  | select invocation => exact inv_select hi invocation
  | claim selected claimId leaseExpiresAt now =>
    simp only [next]
    cases hcase : claimSelected digest s.repo selected claimId leaseExpiresAt now with
    | error e => exact hi
    | ok out =>
      obtain ⟨activePlan, hclaim⟩ := claimSelected_ok hcase
      exact inv_claimStep hi hclaim fun plan step hc => hi.claims he hc

end Step

theorem inv_reachable {digest : String → String} (h : ((system digest).guarded Orderly).Reachable s) :
    Inv s := by
  induction h with
  | init h0 => exact inv_init h0
  | step _ hst hi =>
    obtain ⟨ho, he, rfl⟩ := hst
    exact inv_next hi he ho

/-- In every orderly run, a step that an invocation claims is there, and all steps it depends on
are completed. -/
theorem invoked_steps_ready {digest : String → String} {s : State}
    (h : ((system digest).guarded Orderly).Reachable s) {selected : SelectedStep}
    (hs : selected ∈ s.selected) {claimId : String} {leaseExpiresAt now : Instant}
    {out : MemoryPlanRepository × PlanContext}
    (hclaim : claimSelected digest s.repo selected claimId leaseExpiresAt now = .ok out) :
    ∃ plan step, s.repo.plans.get? selected.planId = some plan ∧
      findStep plan.steps selected.stepId = some step ∧ Ready plan.steps step := by
  obtain ⟨activePlan, hgrant⟩ := claimSelected_ok hclaim
  obtain ⟨plan, step, hc, -⟩ := MemoryPlanRepository.claimStep_eq_some.1 hgrant
  exact ⟨plan, step, hc.get, hc.find, (inv_reachable h).claims hs hc⟩

def empty : State :=
  { repo := { plans := .empty, executionClaims := .empty, executionAttempts := .empty }
    selected := [] }

theorem empty_initial : Initial empty := ⟨fun _ _ hp => (by cases hp), rfl⟩

def stepOf (stepId agentId : String) (dependsOn : List String) : PlanStep :=
  { stepId, agentId, description := "step", status := .pending, dependsOn, artifactRefs := [] }

def dependentPlan (currentStepId : String) : Plan :=
  { pendingPlan with
    currentStepId := some currentStepId
    steps := [stepOf "one" "first" [], stepOf "two" "second" ["one"]] }

def invocationOf (agentId : String) : PlanInvocation :=
  { planId := "plan", tenantId := some "tenant", userId := "user", agentId }

def selectedStep (stepId : String) : SelectedStep :=
  { planId := "plan", stepId, tenantId := "tenant", userId := "user" }

def after (s : State) (actions : List Action) : State := actions.foldl (next sampleDigest) s

/-- The validator accepts a plan whose current step depends on a pending one, and an invocation
claims that step. -/
theorem explicit_current_step_claimed :
    (dependentPlan "two").validate = .ok (dependentPlan "two") ∧
    ∃ s out plan step, (system sampleDigest).Reachable s ∧ selectedStep "two" ∈ s.selected ∧
      claimSelected sampleDigest s.repo (selectedStep "two") "claim" 100 7 = .ok out ∧
      s.repo.plans.get? "plan" = some plan ∧ findStep plan.steps "two" = some step ∧
      ¬ Ready plan.steps step :=
  ⟨by decide,
    after empty [.savePlan (dependentPlan "two") none none none 5, .select (invocationOf "second")],
    _, _, _, .step (l := .select (invocationOf "second"))
      (.step (l := .savePlan (dependentPlan "two") none none none 5) (.init empty_initial)
        ⟨trivial, rfl⟩) ⟨trivial, rfl⟩,
    by decide, rfl, rfl, rfl, by decide⟩

def finishOf (stepId : String) : PlanCall :=
  .finishClaimedStep
    { planId := "plan", stepId, tenantId := "tenant", userId := "user"
      claimId := "claim", status := .completed, now := 8 }

def inTurn : List Action :=
  [.savePlan (dependentPlan "one") none none none 5, .select (invocationOf "first"),
   .claim (selectedStep "one") "claim" 100 6, .call (finishOf "one"),
   .select (invocationOf "second")]

theorem reachable_inTurn :
    ((system sampleDigest).guarded Orderly).Reachable (after empty inTurn) := by
  have h1 : ((system sampleDigest).guarded Orderly).Reachable (after empty (inTurn.take 1)) :=
    .step (l := .savePlan (dependentPlan "one") none none none 5) (.init empty_initial)
      ⟨fun _ => ⟨⟨dependentPlan "one", by decide⟩, by decide,
        fun _ hs => by cases hs⟩, trivial, rfl⟩
  have h3 : ((system sampleDigest).guarded Orderly).Reachable (after empty (inTurn.take 3)) :=
    .step (l := .claim (selectedStep "one") "claim" 100 6)
      (.step (l := .select (invocationOf "first")) h1 ⟨trivial, trivial, rfl⟩)
      ⟨trivial, (by decide : selectedStep "one" ∈ (after empty (inTurn.take 2)).selected),
        rfl⟩
  have hnext : ∀ plan ∈ (after empty (inTurn.take 3)).repo.get "plan" "tenant" "user",
      ∀ steps ∈ (advanceSteps (some "one") .completed plan.steps).toOption, NextReady steps := by
    decide
  have h4 : ((system sampleDigest).guarded Orderly).Reachable (after empty (inTurn.take 4)) :=
    .step (l := .call (finishOf "one")) h3
      ⟨fun plan steps _ hf => hnext plan hf.get steps (by rw [hf.advances]; rfl), trivial, rfl⟩
  exact .step (l := .select (invocationOf "second")) h4 ⟨trivial, trivial, rfl⟩

theorem invoked_steps_ready_inTurn :
    ∃ plan step, (after empty inTurn).repo.plans.get? "plan" = some plan ∧
      findStep plan.steps "two" = some step ∧ Ready plan.steps step := by
  have hs : selectedStep "two" ∈ (after empty inTurn).selected := by decide
  obtain ⟨out, hclaim⟩ : ∃ out,
      claimSelected sampleDigest (after empty inTurn).repo (selectedStep "two") "claim" 100 9 =
        .ok out := ⟨_, rfl⟩
  exact invoked_steps_ready reachable_inTurn hs hclaim

end OpenIntentRouter.Plans.Dependencies
