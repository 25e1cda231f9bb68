import OpenIntentRouter.Plans.StepClaims

/-!
# Events applied again

A plan remembers the id of its last event only. An event that was applied before
is harmless all the same as long as its step has not moved back: a step never
leaves a terminal status, and never becomes pending again. It does move back
from blocked to running, when it is claimed again, and then a clarification
applied before blocks it a second time.

Every history of events and claims, rejected ones too, from plans with distinct steps to
which none was applied (`Unapplied`).

* `Past.advanced`: no call undoes what an event has done, but for that;
* `replay_idempotent_iff`: which replays change nothing.
-/
namespace OpenIntentRouter.Plans

open Core Core.Except Schemas Repositories Services
open PlanService (eventPlan applyAgentEvent applyAgentEventOnce savePlan finishClaimedStep)

/-! ## What an event does -/

def taken (repo : MemoryPlanRepository) (event : AgentEvent) (tenantId userId : String) :
    Option (Plan × PlanStepStatus × List PlanStep) :=
  if !truthy event.planId then none
  else
    (repo.get (event.planId.getD "") tenantId userId).bind fun plan =>
    if plan.lastEventId = some event.eventId || !plan.status.isActive then none
    else
      match eventStatusToStepStatus event.status event.eventType with
      | .error _ => none
      | .ok status =>
        match advanceSteps event.stepId status plan.steps with
        | .error _ => none
        | .ok steps => some (plan, status, steps)

def eventSaved (plan : Plan) (steps : List PlanStep) (status : PlanStepStatus) (event : AgentEvent)
    (now : Instant) : Plan :=
  { eventPlan plan steps status event.eventId with
    stateVersion := plan.stateVersion + 1
    updatedAt := event.createdAt.getD now
    formationEventType := "update" }

variable {repo repo' : MemoryPlanRepository} {tenantId userId : String} {plan : Plan}
  {now : Instant} {out : MemoryPlanRepository × Option Plan}
  {old proposed new status : PlanStepStatus} {steps : List PlanStep} {stepId : Option String}
  {digest : String → String}

/-- No other call comes in between, so the plan is saved at the version it was read. -/
theorem savePlan_event {planId : String} (hget : repo.get planId tenantId userId = some plan)
    (steps : List PlanStep) (status : PlanStepStatus) (event : AgentEvent) (now : Instant) :
    savePlan repo (eventPlan plan steps status event.eventId) (some "update")
        (some event.eventId) event.createdAt now =
      .ok (repo.store (eventSaved plan steps status event now),
        eventSaved plan steps status event now) := by
  obtain ⟨hp, ht, hu⟩ := MemoryPlanRepository.get_eq_some.1 hget
  have hid : plan.planId = planId := Table.key_of_get? hp
  have hget' : repo.get (eventPlan plan steps status event.eventId).planId
      (eventPlan plan steps status event.eventId).tenantId
      (eventPlan plan steps status event.eventId).userId = some plan := by
    simp only [eventPlan, hid, ht, hu]
    exact hget
  have hstored : repo.plans.get? plan.planId = some plan := by rw [hid]; exact hp
  unfold savePlan
  simp only [hget']
  simp [eventPlan, eventSaved, MemoryPlanRepository.saveIfVersion, hstored, ownedBy, truthy]

theorem applyAgentEvent_of_ok {event : AgentEvent}
    (h : applyAgentEventOnce repo event tenantId userId now = .ok out) (attempts : Nat) :
    applyAgentEvent repo event tenantId userId now (attempts + 1) = .ok out := by
  simp only [applyAgentEvent, h]

theorem orElse_of_error {event : AgentEvent} {e : StoreError}
    (h : applyAgentEventOnce repo event tenantId userId now = .error e) (attempts : Nat) :
    orElse repo (applyAgentEvent repo event tenantId userId now attempts) = repo := by
  induction attempts with
  | zero => rfl
  | succ attempts ih =>
    simp only [applyAgentEvent, h]
    cases e with
    | planStateConflict message => exact ih
    | _ => rfl

theorem perform_event (digest : String → String) (repo : MemoryPlanRepository)
    (event : AgentEvent) (tenantId userId : String) (now : Instant) :
    perform digest repo (.applyAgentEvent event tenantId userId now) =
      match taken repo event tenantId userId with
      | none => repo
      | some (plan, status, steps) =>
        if steps = plan.steps then repo else repo.store (eventSaved plan steps status event now) := by
  have hok : ∀ out, applyAgentEventOnce repo event tenantId userId now = .ok out →
      perform digest repo (.applyAgentEvent event tenantId userId now) = out.1 := by
    intro out h
    simp only [perform, applyAgentEvent_of_ok h, orElse]
  have herror : ∀ e, applyAgentEventOnce repo event tenantId userId now = .error e →
      perform digest repo (.applyAgentEvent event tenantId userId now) = repo := fun e h =>
    orElse_of_error h 3
  unfold taken
  cases hid : truthy event.planId with
  | false => exact hok (repo, none) (by simp [applyAgentEventOnce, hid])
  | true =>
    cases hget : repo.get (event.planId.getD "") tenantId userId with
    | none => exact hok (repo, none) (by simp [applyAgentEventOnce, hid, hget])
    | some plan =>
      simp only [Bool.not_true, Bool.false_eq_true, if_false, Option.bind_some]
      by_cases hlast : plan.lastEventId = some event.eventId
      · simp only [hlast, decide_true, Bool.true_or, if_true]
        exact hok (repo, some plan) (by simp [applyAgentEventOnce, hid, hget, hlast])
      cases hact : plan.status.isActive with
      | false =>
        simp only [Bool.not_false, Bool.or_true, if_true]
        exact hok (repo, some plan) (by simp [applyAgentEventOnce, hid, hget, hlast, hact])
      | true =>
        simp only [hlast, decide_false, Bool.not_true, Bool.or_self, Bool.false_eq_true, if_false]
        cases hst : eventStatusToStepStatus event.status event.eventType with
        | error e =>
          exact herror e (by simp [applyAgentEventOnce, hid, hget, hlast, hact, hst])
        | ok status =>
          cases hadv : advanceSteps event.stepId status plan.steps with
          | error e =>
            simp only [hadv]
            exact herror e (by simp [applyAgentEventOnce, hid, hget, hlast, hact, hst, hadv])
          | ok steps =>
            simp only [hadv]
            split
            · next hsame =>
              refine hok (repo, some plan) ?_
              simp only [applyAgentEventOnce, hid, hget, hlast, hact, hst, hadv, hsame, if_true,
                Bool.not_true, Bool.false_eq_true, if_false, ok_bind]
              rfl
            · next hne =>
              refine hok (repo.store (eventSaved plan steps status event now),
                some (eventSaved plan steps status event now)) ?_
              simp only [applyAgentEventOnce, hid, hget, hlast, hact, hst, hadv, hne,
                Bool.not_true, Bool.false_eq_true, if_false, ok_bind,
                savePlan_event hget steps status event now]
              rfl

/-! ## How steps move -/

/-- What any call may do to a step: not undo a terminal status, not make it pending. -/
structure Advanced (old new : PlanStepStatus) : Prop where
  terminal : old.isActive = false → new = old
  started : old ≠ .pending → new ≠ .pending

theorem Advanced.refl (status : PlanStepStatus) : Advanced status status :=
  ⟨fun _ => rfl, fun h => h⟩

theorem advanced_running (h : old.isActive = true) : Advanced old .running := by
  refine ⟨fun ht => ?_, fun _ hp => by cases hp⟩
  rw [h] at ht
  cases ht

theorem advanced_of (h : advanceStepStatus old proposed = .ok new) : Advanced old new := by
  cases old <;> cases proposed <;> simp_all [advanceStepStatus] <;> subst h <;>
    exact ⟨by simp [PlanStatus.isActive], by simp⟩

theorem forall₂_before {α β : Type} {R : α → β → Prop} {l : List α} {l' : List β}
    (h : List.Forall₂ R l l') {b : β} (hb : b ∈ l') : ∃ a ∈ l, R a b := by
  induction h with
  | nil => cases hb
  | @cons first _ _ _ hfirst _ ih =>
    rcases List.mem_cons.1 hb with rfl | hb
    · exact ⟨first, List.mem_cons_self, hfirst⟩
    · obtain ⟨a, ha, hr⟩ := ih hb
      exact ⟨a, List.mem_cons_of_mem _ ha, hr⟩

/-- What an event or a finished claim does to each step. -/
theorem advanceSteps_forall {out : List PlanStep} (h : advanceSteps stepId proposed steps = .ok out) :
    List.Forall₂ (fun old new => new = { old with status := new.status } ∧
      (if some old.stepId = stepId then advanceStepStatus old.status proposed = .ok new.status
        else new = old)) steps out := by
  induction steps generalizing out with
  | nil =>
    cases h
    exact .nil
  | cons step steps ih =>
    simp only [advanceSteps, List.mapM_cons] at h
    obtain ⟨step', hstep, h⟩ := bind_eq_ok.1 h
    obtain ⟨rest, hrest, h⟩ := bind_eq_ok.1 h
    cases h
    refine .cons ?_ (ih hrest)
    split at hstep
    · next hne =>
      cases hstep
      exact ⟨rfl, by rw [if_neg hne]⟩
    · next heq =>
      obtain ⟨status', hstatus, hstep⟩ := bind_eq_ok.1 hstep
      cases hstep
      exact ⟨rfl, by rw [if_pos (not_not.1 heq)]; exact hstatus⟩

theorem advanceSteps_total (hp : proposed ≠ .pending) (steps : List PlanStep) :
    ∃ out, advanceSteps stepId proposed steps = .ok out := by
  induction steps with
  | nil => exact ⟨[], rfl⟩
  | cons step steps ih =>
    obtain ⟨rest, hrest⟩ := ih
    have hstatus : ∃ new, advanceStepStatus step.status proposed = .ok new := by
      cases hs : step.status <;> cases hq : proposed <;> simp_all [advanceStepStatus]
    obtain ⟨new, hnew⟩ := hstatus
    unfold advanceSteps at hrest
    simp only [advanceSteps, List.mapM_cons, hrest, hnew]
    split
    · exact ⟨_, rfl⟩
    · exact ⟨_, rfl⟩

theorem eq_of_statuses {old new : List PlanStep}
    (h : List.Forall₂ (fun old new : PlanStep => new = { old with status := new.status }) old new)
    (hs : new.map (·.status) = old.map (·.status)) : new = old := by
  induction h with
  | nil => rfl
  | cons hstep _ ih =>
    simp only [List.map_cons, List.cons.injEq] at hs
    rw [ih hs.2, hstep, hs.1]

def StepsAdvanced : List PlanStep → List PlanStep → Prop :=
  List.Forall₂ fun old new => new.stepId = old.stepId ∧ Advanced old.status new.status

theorem stepsAdvanced_refl (steps : List PlanStep) : StepsAdvanced steps steps :=
  List.forall₂_same.2 fun step _ => ⟨rfl, .refl step.status⟩

theorem advanceSteps_advanced {out : List PlanStep}
    (h : advanceSteps stepId proposed steps = .ok out) : StepsAdvanced steps out := by
  refine (advanceSteps_forall h).imp ?_
  rintro old new ⟨hnew, hif⟩
  refine ⟨by rw [hnew], ?_⟩
  split at hif
  · exact advanced_of hif
  · rw [hif]
    exact .refl old.status

theorem setStatus_advanced {stepId : String} {step : PlanStep} (hn : (steps.map (·.stepId)).Nodup)
    (hf : findStep steps stepId = some step) (ha : step.status.isActive = true) :
    StepsAdvanced steps (setStatus .running stepId steps) := by
  refine List.forall₂_map_right_iff.2 (List.forall₂_same.2 fun other hmem => ?_)
  split
  · next hid =>
    have hstep : step.stepId = stepId := by simpa using List.find?_some hf
    have heq : other = step :=
      List.inj_on_of_nodup_map hn hmem (List.mem_of_find?_eq_some hf) (hid.trans hstep.symm)
    exact ⟨rfl, advanced_running (heq ▸ ha)⟩
  · exact ⟨rfl, .refl _⟩

theorem StepsAdvanced.ids {old new : List PlanStep} (h : StepsAdvanced old new) :
    new.map (·.stepId) = old.map (·.stepId) := by
  induction h with
  | nil => rfl
  | cons hstep _ ih => simp only [List.map_cons, hstep.1, ih]

/-! ## How plans move -/

structure Follows (old new : Plan) : Prop where
  tenantId : new.tenantId = old.tenantId
  userId : new.userId = old.userId
  steps : StepsAdvanced old.steps new.steps
  concluded : old.status.isActive = false → new.status.isActive = false

theorem Follows.refl (plan : Plan) : Follows plan plan :=
  ⟨rfl, rfl, stepsAdvanced_refl _, fun h => h⟩

def PlansFollow (repo repo' : MemoryPlanRepository) : Prop :=
  ∀ planId new, repo'.plans.get? planId = some new →
    ∃ old, repo.plans.get? planId = some old ∧ Follows old new

theorem plansFollow_same (h : repo'.plans = repo.plans) : PlansFollow repo repo' := by
  intro planId new hn
  rw [h] at hn
  exact ⟨new, hn, .refl new⟩

theorem plansFollow_put {repo repo' : MemoryPlanRepository} {old new : Plan}
    (hg : repo.plans.get? old.planId = some old) (hid : new.planId = old.planId)
    (hf : Follows old new) (h : repo'.plans = repo.plans.put new) : PlansFollow repo repo' := by
  intro planId plan hn
  rw [h, Table.get?_put] at hn
  split at hn
  · next heq =>
    cases hn
    refine ⟨old, ?_, hf⟩
    rw [← heq, hid]
    exact hg
  · exact ⟨plan, hn, .refl plan⟩

theorem Follows.event {event : AgentEvent}
    (hadv : advanceSteps event.stepId status plan.steps = .ok steps)
    (hact : plan.status.isActive = true) : Follows plan (eventSaved plan steps status event now) :=
  ⟨rfl, rfl, advanceSteps_advanced hadv, fun h => absurd hact (by simp [h])⟩

theorem taken_eq_some {event : AgentEvent} :
    taken repo event tenantId userId = some (plan, status, steps) ↔
      truthy event.planId = true ∧ repo.get (event.planId.getD "") tenantId userId = some plan ∧
      plan.lastEventId ≠ some event.eventId ∧ plan.status.isActive = true ∧
      eventStatusToStepStatus event.status event.eventType = .ok status ∧
      advanceSteps event.stepId status plan.steps = .ok steps := by
  unfold taken
  constructor
  · intro h
    split at h
    · cases h
    · next hid =>
      obtain ⟨plan', hget, h⟩ := Option.bind_eq_some_iff.1 h
      split at h
      · cases h
      · next hl =>
        split at h
        · cases h
        · next status' hst =>
          split at h
          · cases h
          · next steps' hadv =>
            cases h
            simp only [Bool.or_eq_true, decide_eq_true_eq, Bool.not_eq_true', not_or,
              Bool.not_eq_false] at hl hid
            exact ⟨hid, hget, hl.1, hl.2, hst, hadv⟩
  · rintro ⟨hid, hget, hl, hact, hst, hadv⟩
    simp only [hid, hget, hl, hact, hst, hadv, Bool.not_true, Bool.false_eq_true, if_false,
      Option.bind_some, decide_false, Bool.or_self]

/-! ## The history -/

structure AppliedEvent where
  event : AgentEvent
  tenantId : String
  userId : String
  deriving DecidableEq

/-- `applied`: the events that `apply_agent_event` has returned on, but those it
took for the plan's last one. -/
structure History where
  repo : MemoryPlanRepository
  applied : List AppliedEvent

def isLast (repo : MemoryPlanRepository) (a : AppliedEvent) : Bool :=
  (repo.get (a.event.planId.getD "") a.tenantId a.userId).any
    (·.lastEventId = some a.event.eventId)

def appliedBy (repo : MemoryPlanRepository) : PlanCall → List AppliedEvent
  | .applyAgentEvent event tenantId userId now =>
    if (applyAgentEvent repo event tenantId userId now 3).isOk &&
        !isLast repo ⟨event, tenantId, userId⟩ then [⟨event, tenantId, userId⟩]
    else []
  | _ => []

def record (digest : String → String) (h : History) (call : PlanCall) : History :=
  { repo := perform digest h.repo call
    applied := appliedBy h.repo call ++ h.applied }

def isEventOrClaim : PlanCall → Bool
  | .claimStep _ | .renewStepClaim .. | .finishClaimedStep _ | .applyAgentEvent .. => true
  | .saveClaimedStep .. | .confirm .. | .cancelUnstarted .. => false

/-- The stored plans have distinct steps, and nothing has been applied yet. -/
structure Unapplied (h : History) : Prop where
  distinct : ∀ planId plan, h.repo.plans.get? planId = some plan →
    (plan.steps.map (·.stepId)).Nodup
  applied : h.applied = []

def histories (digest : String → String) : LTS History PlanCall where
  init := Unapplied
  step h call h' := isEventOrClaim call = true ∧ h' = record digest h call

structure Past (proposed status : PlanStepStatus) : Prop where
  started : status ≠ .pending
  concluded : proposed.isActive = false → status.isActive = false

theorem Past.advanced (h : Past proposed old) (ha : Advanced old new) : Past proposed new :=
  ⟨ha.started h.started, fun hp => by rw [ha.terminal (h.concluded hp)]; exact h.concluded hp⟩

theorem past_of_advance (h : advanceStepStatus old proposed = .ok new) (hp : proposed ≠ .pending) :
    Past proposed new := by
  cases old <;> cases proposed <;> simp_all [advanceStepStatus] <;> subst h <;>
    exact ⟨by simp, by simp [PlanStatus.isActive]⟩

/-- Proposing again what has been proposed moves a step only from running back to blocked. -/
theorem advance_past (h : Past proposed status) (hp : proposed ≠ .pending)
    (ha : advanceStepStatus status proposed = .ok new) :
    if status = .running ∧ proposed = .blocked then new = .blocked else new = status := by
  obtain ⟨hs, hc⟩ := h
  cases status <;> cases proposed <;> simp [advanceStepStatus] at ha <;> subst ha <;>
    simp_all [PlanStatus.isActive]

theorem eventStatus_ok {status : Option RunStatus} {eventType : AgentEventType}
    (h : eventStatusToStepStatus status eventType = .ok proposed) :
    proposed ≠ .pending ∧ (proposed = .blocked ↔ eventType = .agentClarify) := by
  cases eventType <;>
  · simp only [eventStatusToStepStatus] at h
    split at h
    · cases h
      simp
    · split at h
      · cases h
        simp
      · cases h

def EventPast (repo : MemoryPlanRepository) (a : AppliedEvent) : Prop :=
  truthy a.event.planId = true → ∀ plan,
    repo.get (a.event.planId.getD "") a.tenantId a.userId = some plan →
    plan.status.isActive = true → ∃ proposed,
      eventStatusToStepStatus a.event.status a.event.eventType = .ok proposed ∧
      ∀ step ∈ plan.steps, some step.stepId = a.event.stepId → Past proposed step.status

structure HistoryInv (h : History) : Prop where
  distinct : ∀ planId plan, h.repo.plans.get? planId = some plan →
    (plan.steps.map (·.stepId)).Nodup
  past : ∀ a ∈ h.applied, EventPast h.repo a

theorem EventPast.follow {a : AppliedEvent} (h : EventPast repo a) (hf : PlansFollow repo repo') :
    EventPast repo' a := by
  intro hid new hget hact
  obtain ⟨hn, ht, hu⟩ := MemoryPlanRepository.get_eq_some.1 hget
  obtain ⟨old, ho, hfo⟩ := hf _ _ hn
  have hold : repo.get (a.event.planId.getD "") a.tenantId a.userId = some old :=
    MemoryPlanRepository.get_eq_some.2 ⟨ho, hfo.tenantId ▸ ht, hfo.userId ▸ hu⟩
  have hactive : old.status.isActive = true := by
    cases hs : old.status.isActive with
    | true => rfl
    | false => rw [hfo.concluded hs] at hact; cases hact
  obtain ⟨proposed, hst, hpast⟩ := h hid old hold hactive
  refine ⟨proposed, hst, fun step hmem hstep => ?_⟩
  obtain ⟨before, hb, hid', hadv⟩ := forall₂_before hfo.steps hmem
  exact (hpast before hb (hid' ▸ hstep)).advanced hadv

/-! ## What a call does to a history -/

theorem finishClaimedStep_open {request : PlanService.FinishRequest} {attempts : Nat}
    (hget : repo.get request.planId request.tenantId request.userId = some plan)
    (h : finishClaimedStep repo request attempts = .ok out) :
    out.1 = repo ∨ plan.status.isActive = true := by
  cases hs : plan.status.isActive with
  | true => exact .inr rfl
  | false =>
    have hsettled : PlanService.settled plan.status = true := by
      cases hp : plan.status <;> simp_all [PlanService.settled, PlanStatus.isActive]
    cases attempts with
    | zero =>
      simp only [finishClaimedStep, hget, hsettled, if_true] at h
      cases h
      exact .inl rfl
    | succ attempts =>
      simp only [finishClaimedStep, hget, hsettled, if_true] at h
      cases h
      exact .inl rfl

theorem follows_claimStep
    (hn : ∀ planId plan, repo.plans.get? planId = some plan → (plan.steps.map (·.stepId)).Nodup)
    (request : ClaimRequest) : PlansFollow repo (perform digest repo (.claimStep request)) := by
  simp only [perform]
  cases hc : repo.claimStep digest request with
  | none => exact plansFollow_same rfl
  | some out =>
    obtain ⟨plan, step, hclaim, rfl⟩ := MemoryPlanRepository.claimStep_eq_some.1 hc
    have hid : plan.planId = request.planId := Table.key_of_get? hclaim.get
    have hactive : step.status.isActive = true := by
      rcases hclaim.status with h | h | ⟨-, h⟩ <;> rw [h] <;> rfl
    refine @plansFollow_put repo _ plan (claimedPlan request plan) ?_ rfl ?_ rfl
    · rw [hid]
      exact hclaim.get
    · refine ⟨rfl, rfl, setStatus_advanced (hn _ _ hclaim.get) hclaim.find hactive, fun h => ?_⟩
      rw [hclaim.active] at h
      cases h

theorem follows_finish (request : PlanService.FinishRequest) :
    PlansFollow repo (perform digest repo (.finishClaimedStep request)) := by
  simp only [perform]
  cases hf : finishClaimedStep repo request 3 with
  | error e => exact plansFollow_same rfl
  | ok out =>
    rcases PlanService.finishClaimedStep_ok hf with hsame | ⟨plan, steps, saved, hfin, hout⟩
    · simp only [orElse, hsame]
      exact plansFollow_same rfl
    · rcases finishClaimedStep_open hfin.get hf with hsame | hactive
      · simp only [orElse, hsame]
        exact plansFollow_same rfl
      obtain ⟨claim, existing, hsavable, hsaved⟩ :=
        MemoryPlanRepository.saveClaimedStep_eq_some.1 hfin.saved
      obtain ⟨hp, -, -⟩ := MemoryPlanRepository.get_eq_some.1 hfin.get
      have hid : plan.planId = request.planId := Table.key_of_get? hp
      refine @plansFollow_put repo _ plan
        { PlanService.finishedPlan plan steps request.now with updatedAt := request.now }
        ?_ rfl ?_ ?_
      · rw [hid]
        exact hp
      · refine ⟨rfl, rfl, advanceSteps_advanced hfin.advances, fun h => ?_⟩
        rw [hactive] at h
        cases h
      · rw [orElse, hout, hsaved]

theorem follows_event (event : AgentEvent) (tenantId userId : String) (now : Instant) :
    PlansFollow repo (perform digest repo (.applyAgentEvent event tenantId userId now)) := by
  rw [perform_event]
  cases ht : taken repo event tenantId userId with
  | none => exact plansFollow_same rfl
  | some t =>
    obtain ⟨plan, status, steps⟩ := t
    dsimp only
    split
    · exact plansFollow_same rfl
    · obtain ⟨-, hget, -, hact, -, hadv⟩ := taken_eq_some.1 ht
      obtain ⟨hp, -, -⟩ := MemoryPlanRepository.get_eq_some.1 hget
      have hid : plan.planId = event.planId.getD "" := Table.key_of_get? hp
      refine @plansFollow_put repo _ plan (eventSaved plan steps status event now) ?_ rfl
        (.event hadv hact) rfl
      rw [hid]
      exact hp

theorem follows_perform {call : PlanCall}
    (hn : ∀ planId plan, repo.plans.get? planId = some plan → (plan.steps.map (·.stepId)).Nodup)
    (hcall : isEventOrClaim call = true) : PlansFollow repo (perform digest repo call) := by
  cases call with
  | claimStep request => exact follows_claimStep hn request
  | renewStepClaim planId tenantId userId claimId lease now =>
    simp only [perform]
    cases hr : repo.renewStepClaim planId tenantId userId claimId lease now with
    | none => exact plansFollow_same rfl
    | some out =>
      obtain ⟨claim, -, rfl⟩ := MemoryPlanRepository.renewStepClaim_eq_some hr
      exact plansFollow_same rfl
  | finishClaimedStep request => exact follows_finish request
  | applyAgentEvent event tenantId userId now => exact follows_event event tenantId userId now
  | saveClaimedStep | confirm | cancelUnstarted => cases hcall

/-- A call that returns has read and followed the contract of its event. -/
theorem event_contract {event : AgentEvent}
    (hok : (applyAgentEvent repo event tenantId userId now 3).isOk = true)
    (hid : truthy event.planId = true)
    (hget : repo.get (event.planId.getD "") tenantId userId = some plan)
    (hlast : plan.lastEventId ≠ some event.eventId) (hact : plan.status.isActive = true) :
    ∃ status steps, eventStatusToStepStatus event.status event.eventType = .ok status ∧
      advanceSteps event.stepId status plan.steps = .ok steps := by
  cases hst : eventStatusToStepStatus event.status event.eventType with
  | ok status =>
    obtain ⟨steps, hadv⟩ : ∃ steps, advanceSteps event.stepId status plan.steps = .ok steps :=
      advanceSteps_total (eventStatus_ok hst).1 plan.steps
    exact ⟨status, steps, rfl, hadv⟩
  | error e =>
    have honce : applyAgentEventOnce repo event tenantId userId now = .error e := by
      simp [applyAgentEventOnce, hid, hget, hlast, hact, hst]
    have hraise : ∀ attempts, (applyAgentEvent repo event tenantId userId now attempts).isOk =
        false := by
      intro attempts
      induction attempts with
      | zero => rfl
      | succ attempts ih =>
        simp only [applyAgentEvent, honce]
        cases e with
        | planStateConflict message => exact ih
        | _ => rfl
    rw [hraise] at hok
    cases hok

theorem eventPast_applied {event : AgentEvent}
    (hok : (applyAgentEvent repo event tenantId userId now 3).isOk = true)
    (hlast : isLast repo ⟨event, tenantId, userId⟩ = false) :
    EventPast (perform digest repo (.applyAgentEvent event tenantId userId now))
      ⟨event, tenantId, userId⟩ := by
  intro hid new hnew hact
  obtain ⟨hn, htenant, huser⟩ := MemoryPlanRepository.get_eq_some.1 hnew
  obtain ⟨plan, hp, hf⟩ := follows_event event tenantId userId now _ _ hn
  have hget : repo.get (event.planId.getD "") tenantId userId = some plan :=
    MemoryPlanRepository.get_eq_some.2 ⟨hp, hf.tenantId ▸ htenant, hf.userId ▸ huser⟩
  have hactive : plan.status.isActive = true := by
    cases hs : plan.status.isActive with
    | true => rfl
    | false => rw [hf.concluded hs] at hact; cases hact
  have hne : plan.lastEventId ≠ some event.eventId := by
    intro h
    simp [isLast, hget, h] at hlast
  obtain ⟨status, steps, hst, hadv⟩ := event_contract hok hid hget hne hactive
  have htaken : taken repo event tenantId userId = some (plan, status, steps) :=
    taken_eq_some.2 ⟨hid, hget, hne, hactive, hst, hadv⟩
  have hsteps : new.steps = steps := by
    rw [perform_event, htaken] at hn
    dsimp only at hn
    split at hn
    · next hsame =>
      cases hp.symm.trans hn
      exact hsame.symm
    · have hkey : plan.planId = event.planId.getD "" := Table.key_of_get? hp
      have hkey : (eventSaved plan steps status event now).planId = event.planId.getD "" := hkey
      rw [MemoryPlanRepository.store_plans, ← hkey, Table.get?_put_self] at hn
      cases hn
      rfl
  refine ⟨status, hst, fun step hmem hstep => ?_⟩
  rw [hsteps] at hmem
  obtain ⟨before, -, hnew, hif⟩ := forall₂_before (advanceSteps_forall hadv) hmem
  have hid' : before.stepId = step.stepId := by rw [hnew]
  rw [if_pos (by rw [hid']; exact hstep)] at hif
  exact past_of_advance hif (eventStatus_ok hst).1

theorem inv_record {h : History} {call : PlanCall} (hi : HistoryInv h)
    (hcall : isEventOrClaim call = true) : HistoryInv (record digest h call) := by
  have hf : PlansFollow h.repo (perform digest h.repo call) := follows_perform hi.distinct hcall
  refine ⟨fun planId new hn => ?_, fun a ha => ?_⟩
  · obtain ⟨old, ho, hfo⟩ := hf planId new hn
    rw [hfo.steps.ids]
    exact hi.distinct planId old ho
  · rcases List.mem_append.1 ha with ha | ha
    · cases call with
      | applyAgentEvent event tenantId userId now =>
        simp only [appliedBy] at ha
        split at ha
        · next hc =>
          cases List.mem_singleton.1 ha
          simp only [Bool.and_eq_true, Bool.not_eq_true'] at hc
          exact (eventPast_applied hc.1 hc.2 : EventPast (perform digest h.repo _) _)
        · cases ha
      | _ => cases ha
    · exact (hi.past a ha).follow hf

theorem historyInv_reachable {h : History} (hr : (histories digest).Reachable h) :
    HistoryInv h := by
  refine LTS.Inductive.reachable (T := histories digest) ⟨?_, ?_⟩ hr
  · rintro h ⟨hd, ha⟩
    refine ⟨hd, fun a hmem => ?_⟩
    rw [ha] at hmem
    cases hmem
  · rintro h call h' hi ⟨hcall, rfl⟩
    exact inv_record hi hcall

/-! ## Replays -/

def planView (repo : MemoryPlanRepository) (planId : String) :
    Option (List PlanStepStatus × PlanStatus) × Option ExecutionClaim :=
  ((repo.plans.get? planId).map fun plan => (plan.steps.map (·.status), plan.status),
    repo.executionClaims.get? planId)

/-- A clarification of a step that runs, on an active plan whose last event is another. -/
def reblocks (repo : MemoryPlanRepository) (a : AppliedEvent) : Bool :=
  truthy a.event.planId && a.event.eventType = .agentClarify &&
  (repo.get (a.event.planId.getD "") a.tenantId a.userId).any fun plan =>
    plan.lastEventId ≠ some a.event.eventId && plan.status.isActive &&
    plan.steps.any fun step => some step.stepId = a.event.stepId && step.status = .running

/-- Past steps are moved only by a clarification of one that runs. -/
theorem steps_eq_iff {event : AgentEvent} {old new : List PlanStep}
    (hadv : advanceSteps event.stepId status old = .ok new) (hp : status ≠ .pending)
    (hpast : ∀ step ∈ old, some step.stepId = event.stepId → Past status step.status) :
    new = old ↔ ¬ (status = .blocked ∧
      ∃ step ∈ old, some step.stepId = event.stepId ∧ step.status = .running) := by
  have hforall := advanceSteps_forall hadv
  constructor
  · rintro rfl ⟨rfl, step, hmem, hid, hrun⟩
    obtain ⟨-, hif⟩ := List.forall₂_same.1 hforall step hmem
    rw [if_pos hid, hrun] at hif
    cases hif
  · intro hno
    have hstay : ∀ step ∈ old, some step.stepId = event.stepId →
        Past status step.status ∧ ¬ (step.status = .running ∧ status = .blocked) :=
      fun step hmem hid => ⟨hpast step hmem hid, fun h => hno ⟨h.2, step, hmem, hid, h.1⟩⟩
    have heq : List.Forall₂ (· = ·) old new := by
      refine ((List.forall₂_and_left _ _).2 ⟨hstay, hforall⟩).imp ?_
      rintro before after ⟨hstay, hafter, hif⟩
      split at hif
      · next hid =>
        obtain ⟨hpast, hnot⟩ := hstay hid
        have hsame := advance_past hpast hp hif
        rw [if_neg hnot] at hsame
        rw [hafter, hsame]
      · exact hif.symm
    rw [List.forall₂_eq_eq_eq] at heq
    exact heq.symm

/-- For every history of events and claims, applying an event again that was applied before changes
neither step statuses, plan status nor claim, unless it is a clarification whose
step has been claimed again and runs. -/
theorem replay_idempotent_iff {digest : String → String} {h : History}
    (hr : (histories digest).Reachable h) {a : AppliedEvent} (ha : a ∈ h.applied) (now : Instant) :
    (∀ planId, planView (perform digest h.repo
        (.applyAgentEvent a.event a.tenantId a.userId now)) planId = planView h.repo planId) ↔
      reblocks h.repo a = false := by
  rw [perform_event]
  cases ht : taken h.repo a.event a.tenantId a.userId with
  | none =>
    refine iff_of_true (fun _ => rfl) (Bool.eq_false_iff.2 fun hre => ?_)
    simp only [reblocks, Bool.and_eq_true, Option.any_eq_true, decide_eq_true_eq] at hre
    obtain ⟨⟨hid, -⟩, plan, hget, ⟨hlast, hact⟩, -⟩ := hre
    obtain ⟨status, hst, -⟩ := (historyInv_reachable hr).past a ha hid plan hget hact
    obtain ⟨steps, hadv⟩ := advanceSteps_total (eventStatus_ok hst).1 plan.steps
    rw [taken_eq_some.2 ⟨hid, hget, hlast, hact, hst, hadv⟩] at ht
    cases ht
  | some t =>
    obtain ⟨plan, status, steps⟩ := t
    obtain ⟨hid, hget, hlast, hact, hst, hadv⟩ := taken_eq_some.1 ht
    obtain ⟨proposed, hst', hpast⟩ := (historyInv_reachable hr).past a ha hid plan hget hact
    cases hst.symm.trans hst'
    have hiff := steps_eq_iff hadv (eventStatus_ok hst).1 hpast
    have hre : reblocks h.repo a = true ↔ status = .blocked ∧
        ∃ step ∈ plan.steps, some step.stepId = a.event.stepId ∧ step.status = .running := by
      simp [reblocks, hid, hget, hlast, hact, (eventStatus_ok hst).2]
    dsimp only
    split
    · next hsame =>
      refine iff_of_true (fun _ => rfl) ?_
      rw [Bool.eq_false_iff, ne_eq, hre]
      exact hiff.1 hsame
    · next hne =>
      refine iff_of_false (fun hview => hne ?_) ?_
      · obtain ⟨hp, -, -⟩ := MemoryPlanRepository.get_eq_some.1 hget
        have hkey : plan.planId = a.event.planId.getD "" := Table.key_of_get? hp
        have hput : (h.repo.plans.put (eventSaved plan steps status a.event now)).get?
            plan.planId = some (eventSaved plan steps status a.event now) :=
          Table.get?_put_self ..
        have hsteps := congrArg Prod.fst (hview plan.planId)
        simp only [planView, MemoryPlanRepository.store_plans, hput, hkey ▸ hp, Option.map_some,
          Option.some.injEq, Prod.mk.injEq] at hsteps
        exact eq_of_statuses ((advanceSteps_forall hadv).imp fun _ _ h => h.1) hsteps.1
      · rw [Bool.eq_false_iff, ne_eq, not_not, hre]
        exact not_not.1 fun h => hne (hiff.2 h)

/-! ## A step that is clarified and resumed -/

def stepEvent (eventId stepId : String) (eventType : AgentEventType) : AppliedEvent :=
  { event :=
      { eventId
        runId := some "run"
        requestId := none
        sessionId := "session"
        agentId := "agent"
        userId := some "user"
        tenantId := some "tenant"
        turnId := none
        eventType
        status := none
        planId := some "plan"
        stepId := some stepId
        sequence := none
        runStateVersion := none
        payload := []
        createdAt := some 0 }
    tenantId := "tenant"
    userId := "user" }

def applyStepEvent (a : AppliedEvent) : PlanCall :=
  .applyAgentEvent a.event a.tenantId a.userId 0

def twoStepsHistory : History := { repo := twoSteps.repo, applied := [] }

theorem twoStepsHistory_unapplied : Unapplied twoStepsHistory where
  distinct := by
    intro planId plan hp
    rw [twoStepsHistory, twoSteps, Table.get?_put] at hp
    split at hp
    · cases hp
      decide
    · cases hp
  applied := rfl

def clarifiedHistory : History :=
  record sampleDigest
    (record sampleDigest twoStepsHistory (applyStepEvent (stepEvent "ask" "one" .agentClarify)))
    (applyStepEvent (stepEvent "start" "two" .agentStarted))

def resumedHistory : History := record sampleDigest clarifiedHistory (claimFor "one" "claim" 0)

theorem clarifiedHistory_reachable : (histories sampleDigest).Reachable clarifiedHistory :=
  .step (l := applyStepEvent (stepEvent "start" "two" .agentStarted))
    (.step (l := applyStepEvent (stepEvent "ask" "one" .agentClarify))
      (.init twoStepsHistory_unapplied) ⟨rfl, rfl⟩) ⟨rfl, rfl⟩

/-- Before the claim the clarification can be applied again. -/
theorem replay_idempotent_iff_clarified :
    (∀ planId, planView (perform sampleDigest clarifiedHistory.repo
        (applyStepEvent (stepEvent "ask" "one" .agentClarify))) planId =
      planView clarifiedHistory.repo planId) ↔
    reblocks clarifiedHistory.repo (stepEvent "ask" "one" .agentClarify) = false :=
  replay_idempotent_iff clarifiedHistory_reachable (.tail _ (.head _)) 0

/-- After it the step is blocked a second time and loses its claim. -/
theorem replayed_clarification_drops_claim :
    (histories sampleDigest).Reachable resumedHistory ∧
    stepEvent "ask" "one" .agentClarify ∈ resumedHistory.applied ∧
    planView resumedHistory.repo "plan" =
      (some ([.running, .running], .running),
        some ⟨"one", "claim", 10, 4, executionKey sampleDigest "plan" "one" 1, 1⟩) ∧
    planView (perform sampleDigest resumedHistory.repo
        (applyStepEvent (stepEvent "ask" "one" .agentClarify))) "plan" =
      (some ([.blocked, .running], .blocked), none) :=
  ⟨.step (l := claimFor "one" "claim" 0) clarifiedHistory_reachable ⟨rfl, rfl⟩,
    .tail _ (.head _), by decide, by decide⟩

end OpenIntentRouter.Plans
