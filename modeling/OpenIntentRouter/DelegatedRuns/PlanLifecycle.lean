import Mathlib.Data.List.Forall2
import OpenIntentRouter.DelegatedRuns.DatabaseSerial
import OpenIntentRouter.DelegatedRuns.Atomicity

/-!
# Plans under delegated-run commands

A terminal command looks at the status of its run only. It overwrites the
status of its step, whatever that was, and sets or recomputes the status of the
plan from the steps, whatever that was. Both stores do the same to the status
vector of a plan, so the argument is made on that vector.

* `StatusVector.Kept`: no terminal status of plan or step has changed;
* `Command.allowed`: the vectors a command leaves so;
* `terminal_plan_absorbing`: in both stores, accepted commands that find only
  allowed vectors keep every terminal status.
-/
namespace OpenIntentRouter.DelegatedRuns

open Core Core.Except Schemas Repositories

/-! ## Status vectors -/

structure StatusVector where
  status : PlanStatus
  steps : List PlanStep

structure StepKept (a b : PlanStep) : Prop where
  stepId : b.stepId = a.stepId
  agentId : b.agentId = a.agentId
  status : a.status.isActive = false → b.status = a.status

theorem StepKept.refl (a : PlanStep) : StepKept a a := ⟨rfl, rfl, fun _ => rfl⟩

theorem StepKept.trans {a b c : PlanStep} (h1 : StepKept a b) (h2 : StepKept b c) :
    StepKept a c where
  stepId := h2.stepId.trans h1.stepId
  agentId := h2.agentId.trans h1.agentId
  status ht := by
    have hb := h1.status ht
    rw [h2.status (by rw [hb]; exact ht), hb]

structure StatusVector.Kept (v w : StatusVector) : Prop where
  status : v.status.isActive = false → w.status = v.status
  steps : List.Forall₂ StepKept v.steps w.steps

theorem stepsKept_refl (steps : List PlanStep) : List.Forall₂ StepKept steps steps :=
  List.forall₂_same.2 fun step _ => .refl step

theorem stepsKept_trans {a b c : List PlanStep} (h1 : List.Forall₂ StepKept a b)
    (h2 : List.Forall₂ StepKept b c) : List.Forall₂ StepKept a c := by
  induction h1 generalizing c with
  | nil => exact h2
  | cons hab _ ih =>
    cases h2 with
    | cons hbc hrest => exact .cons (hab.trans hbc) (ih hrest)

theorem StatusVector.Kept.refl (v : StatusVector) : v.Kept v :=
  ⟨fun _ => rfl, stepsKept_refl _⟩

theorem StatusVector.Kept.trans {u v w : StatusVector} (h1 : u.Kept v) (h2 : v.Kept w) :
    u.Kept w where
  status ht := by
    have hv := h1.status ht
    rw [h2.status (by rw [hv]; exact ht), hv]
  steps := stepsKept_trans h1.steps h2.steps

def stepsAllow (status : PlanStepStatus) (stepId agentId : String) (steps : List PlanStep) : Bool :=
  steps.all fun step => !isStep stepId agentId step || step.status.isActive || step.status = status

variable {stepId agentId planId : String} {steps : List PlanStep} {status : PlanStepStatus}
  {v : StatusVector} {event : DelegatedRunEventCommand} {s s' : MemoryStores} {command : Command}
  {gen : Generated} {db : Database} {planRow : Option PlanModel}

theorem markStep_kept (h : stepsAllow status stepId agentId steps = true) :
    List.Forall₂ StepKept steps (markStep status stepId agentId steps) := by
  induction steps with
  | nil => exact .nil
  | cons step steps ih =>
    simp only [stepsAllow, List.all_cons, Bool.and_eq_true] at h
    refine .cons ?_ (ih h.2)
    dsimp only
    split
    · next hs =>
      refine ⟨rfl, rfl, fun ht => ?_⟩
      simpa [hs, ht, eq_comm] using h.1
    · exact .refl step

theorem markFirst_kept (h : stepsAllow status stepId agentId steps = true) :
    List.Forall₂ StepKept steps (markFirst status stepId agentId steps) := by
  induction steps with
  | nil => exact .nil
  | cons step steps ih =>
    simp only [stepsAllow, List.all_cons, Bool.and_eq_true] at h
    rw [markFirst]
    split
    · next hs =>
      refine .cons ⟨rfl, rfl, fun ht => ?_⟩ (stepsKept_refl _)
      simpa [hs, ht, eq_comm] using h.1
    · exact .cons (.refl step) (ih h.2)

theorem markFirst_kept_of_find {step : PlanStep}
    (hf : steps.find? (isStep stepId agentId) = some step) (ha : step.status.isActive = true) :
    List.Forall₂ StepKept steps (markFirst status stepId agentId steps) := by
  induction steps with
  | nil => exact .nil
  | cons first steps ih =>
    rw [List.find?_cons] at hf
    rw [markFirst]
    split
    · next hs =>
      rw [hs] at hf
      cases hf
      refine .cons ⟨rfl, rfl, fun ht => ?_⟩ (stepsKept_refl _)
      rw [ha] at ht
      cases ht
    · next hs =>
      rw [Bool.not_eq_true] at hs
      rw [hs] at hf
      exact .cons (.refl first) (ih hf)

/-- The vectors a `fail`, `cancel` or `timeout` that sets `status` leaves as they
are where they are terminal. -/
def concludeAllows (status : PlanStatus) (stepId agentId : String) (v : StatusVector) : Bool :=
  (v.status.isActive || v.status = status) && stepsAllow status stepId agentId v.steps

/-- The vectors a `complete` leaves as they are where they are terminal: the
status recomputed from the steps must be the one the plan has. -/
def completeAllows (stepId agentId : String) (v : StatusVector) : Bool :=
  stepsAllow .completed stepId agentId v.steps &&
  match v.status with
  | .pending | .running | .blocked => true
  | .completed => v.steps.all fun step => isStep stepId agentId step || step.status = .completed
  | .failed => v.steps.any fun step => !isStep stepId agentId step && step.status = .failed
  | .cancelled => false

theorem concluded_kept {status : PlanStatus} (h : concludeAllows status stepId agentId v = true)
    (hs : steps = markStep status stepId agentId v.steps ∨
      steps = markFirst status stepId agentId v.steps) : v.Kept ⟨status, steps⟩ := by
  simp only [concludeAllows, Bool.and_eq_true, Bool.or_eq_true, decide_eq_true_eq] at h
  refine ⟨fun ht => ?_, ?_⟩
  · rcases h.1 with ha | he
    · rw [ht] at ha
      cases ha
    · exact he.symm
  · rcases hs with rfl | rfl
    · exact markStep_kept h.2
    · exact markFirst_kept h.2

theorem all_completed_markStep
    (h : (steps.all fun step => isStep stepId agentId step || step.status = .completed) = true) :
    (markStep .completed stepId agentId steps).all (·.status = .completed) = true := by
  simp only [markStep, List.all_map, List.all_eq_true, Function.comp_def, decide_eq_true_eq] at h ⊢
  intro step hm
  split
  · rfl
  · next hs =>
    have hor := h step hm
    simpa [hs] using hor

theorem any_failed_markStep
    (h : (steps.any fun step => !isStep stepId agentId step && step.status = .failed) = true) :
    (markStep .completed stepId agentId steps).any (·.status = .failed) = true := by
  simp only [List.any_eq_true, Bool.and_eq_true, Bool.not_eq_true', decide_eq_true_eq] at h
  obtain ⟨step, hm, hs, hf⟩ := h
  simp only [markStep, List.any_map, List.any_eq_true, Function.comp_def, decide_eq_true_eq]
  exact ⟨step, hm, by simp [hs, hf]⟩

theorem completed_kept {next : PlanStatus × Option String}
    (h : completeAllows stepId agentId v = true)
    (hn : planStateAfterCompletion (markStep .completed stepId agentId v.steps) = .ok next) :
    v.Kept ⟨next.1, markStep .completed stepId agentId v.steps⟩ := by
  simp only [completeAllows, Bool.and_eq_true] at h
  refine ⟨fun ht => ?_, markStep_kept h.1⟩
  have hv := h.2
  unfold planStateAfterCompletion at hn
  cases hst : v.status with
  | pending => rw [hst] at ht; cases ht
  | running => rw [hst] at ht; cases ht
  | blocked => rw [hst] at ht; cases ht
  | cancelled => rw [hst] at hv; cases hv
  | completed =>
    rw [hst] at hv
    rw [if_pos (all_completed_markStep hv)] at hn
    cases hn
    rfl
  | failed =>
    rw [hst] at hv
    have hany := any_failed_markStep hv
    have hall : ¬(markStep .completed stepId agentId v.steps).all (·.status = .completed) = true := by
      intro hall
      simp only [List.all_eq_true, List.any_eq_true, decide_eq_true_eq] at hall hany
      obtain ⟨step, hm, hf⟩ := hany
      rw [hall step hm] at hf
      cases hf
    rw [if_neg hall, if_pos hany] at hn
    cases hn
    rfl

/-! ## All plans of a store -/

abbrev PlanView := String → Option StatusVector

def PlansKept (view view' : PlanView) : Prop :=
  ∀ planId v, view planId = some v → ∃ w, view' planId = some w ∧ v.Kept w

theorem PlansKept.refl (view : PlanView) : PlansKept view view :=
  fun _ v hv => ⟨v, hv, .refl v⟩

theorem PlansKept.trans {a b c : PlanView} (h1 : PlansKept a b) (h2 : PlansKept b c) :
    PlansKept a c := by
  intro planId u hu
  obtain ⟨v, hv, huv⟩ := h1 planId u hu
  obtain ⟨w, hw, hvw⟩ := h2 planId v hv
  exact ⟨w, hw, huv.trans hvw⟩

theorem PlansKept.put {view view' : PlanView} (planId : String) {w : StatusVector}
    (hv : view planId = some v) (hk : v.Kept w)
    (hview : ∀ id, view' id = if planId = id then some w else view id) : PlansKept view view' := by
  intro id u hu
  rw [hview]
  split
  · next heq =>
    subst heq
    rw [hv] at hu
    cases hu
    exact ⟨w, rfl, hk⟩
  · exact ⟨u, hu, .refl u⟩

def Command.allowed (view : PlanView) (command : Command) : Bool :=
  let plan (event : DelegatedRunEventCommand) (allows : String → String → StatusVector → Bool) :
      Bool :=
    match event.planId.bind view, event.stepId with
    | some v, some stepId => allows stepId event.agentId v
    | _, _ => true
  match command with
  | .complete command => plan command completeAllows
  | .fail command => plan command (concludeAllows .failed)
  | .cancel command => plan command (concludeAllows .cancelled)
  | .timeout command => plan command (concludeAllows .failed)
  | .start _ _ _ | .progress _ => true

theorem allowed_plan {view : PlanView} {allows : String → String → StatusVector → Bool}
    (hp : event.planId = some planId) (hs : event.stepId = some stepId) (hv : view planId = some v)
    (h : (match event.planId.bind view, event.stepId with
      | some v, some stepId => allows stepId event.agentId v
      | _, _ => true) = true) : allows stepId event.agentId v = true := by
  simpa only [hp, hs, Option.bind_some, hv] using h

/-! ## The in-memory stores -/

namespace Memory

def planView (s : MemoryStores) : PlanView := fun planId =>
  (s.plans.plans.get? planId).map fun plan => ⟨plan.status, plan.steps⟩

def overwritesPlan (s : MemoryStores) (command : Command) : Bool :=
  (match command.event? with
    | none => false
    | some event => (getEvent s.agentEvents event.eventId event.tenantId event.userId).isNone) &&
  !command.allowed (planView s)

theorem allowed_of (h : overwritesPlan s command = false) (he : command.event? = some event)
    (hn : getEvent s.agentEvents event.eventId event.tenantId event.userId = none) :
    command.allowed (planView s) = true := by
  simpa [overwritesPlan, he, hn] using h

theorem plansKept_store {old : Plan} (new : Plan) (hg : s.plans.plans.get? planId = some old)
    (hid : new.planId = old.planId)
    (hk : StatusVector.Kept ⟨old.status, old.steps⟩ ⟨new.status, new.steps⟩)
    (hp : s'.plans = s.plans.storeOption (some new)) : PlansKept (planView s) (planView s') := by
  refine .put planId (v := ⟨old.status, old.steps⟩) ?_ hk ?_
  · simp only [planView, hg, Option.map_some]
  · intro id
    simp only [planView, hp, MemoryPlanRepository.storeOption, MemoryPlanRepository.store_plans,
      Table.get?_put, hid, Table.key_of_get? hg]
    split
    · rfl
    · rfl

theorem plansKept_same (h : s'.plans = s.plans) : PlansKept (planView s) (planView s') := by
  have hv : planView s' = planView s := by
    funext planId
    simp only [planView, h]
  rw [hv]
  exact .refl _

theorem concluded_plansKept {plan updatedPlan : Option Plan} {status : PlanStatus}
    {requires unmatched : String} {time : Instant} (hf : PlanFound event s plan)
    (hm : plan.mapM (fun plan => concludePlan status requires unmatched plan event time) =
      .ok updatedPlan) (ha : (match event.planId.bind (planView s), event.stepId with
      | some v, some stepId => concludeAllows status stepId event.agentId v
      | _, _ => true) = true) (hp : s'.plans = s.plans.storeOption updatedPlan) :
    PlansKept (planView s) (planView s') := by
  cases hf with
  | none =>
    cases hm
    exact plansKept_same hp
  | @some planId old hpid he hg =>
    obtain ⟨new, hn, hm⟩ := map_eq_ok.1 hm
    cases hm
    obtain ⟨stepId, hnames, rfl⟩ := concludePlan_ok.1 hn
    refine plansKept_store (concludedPlan status stepId event time old) hg rfl
      (concluded_kept ?_ (.inl rfl)) hp
    exact allowed_plan hpid hnames.step (by simp only [planView, hg, Option.map_some]) ha

theorem step_plansKept {r : Reply} (hc : overwritesPlan s command = false)
    (h : exec s gen command = (.ok r, s')) : PlansKept (planView s) (planView s') := by
  cases command with
  | start command runHex key =>
    rcases start_ok h with ⟨-, -, rfl⟩ | ⟨-, hs⟩
    · exact .refl _
    · obtain ⟨turn, run, stored, updated, -, -, -, -, -, -, -, rfl⟩ := hs.started
      exact .refl _
  | progress command =>
    rcases progress_ok h with ⟨-, rfl⟩ | ⟨p, hp, -, ha⟩
    · exact .refl _
    · have hprep := decideProgress_inr hp
      have hplans := hprep.plans
      cases hpl : p.plans with
      | none => exact plansKept_same (by rw [ha.plans, hpl]; rfl)
      | some pair =>
        rw [hpl] at hplans
        cases hplans with
        | @some planId stepId plan _ hpid _ hsid _ hg _ _ hact _ hall =>
          refine plansKept_store (clarifiedPlan command stepId plan) hg rfl
            ⟨fun ht => ?_, markStep_kept ?_⟩ (by rw [ha.plans, hpl]; rfl)
          · rw [hact] at ht
            cases ht
          · simp only [stepsAllow, List.all_eq_true, Bool.or_eq_true, Bool.not_eq_true']
            intro step hm
            cases hs : isStep stepId command.agentId step with
            | false => exact .inl (.inl rfl)
            | true => exact .inl (.inr (hall step hm hs))
  | complete command =>
    rcases complete_ok h with ⟨-, rfl⟩ | ⟨p, hp, -, ha⟩
    · exact .refl _
    · obtain ⟨hfresh, -, plan, hfound, hb⟩ := decideComplete_inr hp
      have hallow := allowed_of hc rfl hfresh.event
      have hm := hb.plan_ok
      cases plan with
      | none =>
        have hnone : p.bundle.plan = none := (Except.ok.inj hm).symm
        exact plansKept_same (by rw [ha.plans, hnone]; rfl)
      | some old =>
        obtain ⟨new, hn, hm⟩ := map_eq_ok.1 hm
        obtain ⟨stepId, next, hnames, hnext, rfl⟩ := completePlanStep_ok.1 hn
        have hplan := completePlan_found.1 hfound
        cases hplan with
        | some hpid _ hg =>
          refine plansKept_store (completedPlan command stepId next old) hg rfl (completed_kept ?_ hnext)
            (by rw [ha.plans, ← hm])
          exact allowed_plan hpid hnames.step (by simp only [planView, hg, Option.map_some]) hallow
  | fail command =>
    rcases fail_ok h with ⟨-, rfl⟩ | ⟨p, hp, -, ha⟩
    · exact .refl _
    · obtain ⟨hprep, -, -, -, hm, -⟩ := decideFail_inr hp
      exact concluded_plansKept hprep.plan hm (allowed_of hc rfl hprep.fresh.event) ha.plans
  | cancel command =>
    rcases cancel_ok h with ⟨-, rfl⟩ | ⟨p, hp, -, ha⟩
    · exact .refl _
    · obtain ⟨hprep, -, -, -, hm, -⟩ := decideCancel_inr hp
      exact concluded_plansKept hprep.plan hm (allowed_of hc rfl hprep.fresh.event) ha.plans
  | timeout command =>
    rcases timeout_ok h with ⟨-, rfl⟩ | ⟨p, hp, -, ha⟩
    · exact .refl _
    · obtain ⟨hprep, -, -, -, hm, -⟩ := decideTimeout_inr hp
      exact concluded_plansKept hprep.plan hm (allowed_of hc rfl hprep.fresh.event) ha.plans

def accepted : LTS MemoryStores (Generated × Command) where
  init _ := True
  step s call s' := overwritesPlan s call.2 = false ∧ ∃ r, exec s call.1 call.2 = (.ok r, s')

end Memory

/-! ## The database stores -/

namespace Db

def planView (db : Database) : PlanView := fun planId =>
  (db.plans.get? planId).map fun row => ⟨row.status, row.steps⟩

def overwritesPlan (db : Database) (command : Command) : Bool :=
  (match command.event? with
    | none => false
    | some event => !db.events.contains event.eventId) &&
  !command.allowed (planView db)

theorem allowed_of (h : overwritesPlan db command = false) (he : command.event? = some event)
    (hn : db.events.get? event.eventId = none) : command.allowed (planView db) = true := by
  simpa [overwritesPlan, he, (Table.contains_eq_false _ _).2 hn] using h

theorem plansKept_put {db' : Database} {old : PlanModel} (new : PlanModel)
    (hg : db.plans.get? planId = some old) (hid : new.planId = old.planId)
    (hk : StatusVector.Kept ⟨old.status, old.steps⟩ ⟨new.status, new.steps⟩)
    (hp : db'.plans = db.plans.put new) : PlansKept (planView db) (planView db') := by
  refine .put planId (v := ⟨old.status, old.steps⟩) ?_ hk ?_
  · simp only [planView, hg, Option.map_some]
  · intro id
    simp only [planView, hp, Table.get?_put, hid, Table.key_of_get? hg]
    split
    · rfl
    · rfl

theorem concluded_plansKept {row run updated : AgentRun} {turn : CanonicalTurn}
    {status : PlanStatus} {time : Instant} {agentEvent : AgentEvent} {entry : TurnOutboxEvent}
    (hf : RunFound event db row run) (hp : PlanConcluded status run event.eventId time db planRow)
    (ha : (match event.planId.bind (planView db), event.stepId with
      | some v, some stepId => concludeAllows status stepId event.agentId v
      | _, _ => true) = true) :
    PlansKept (planView db)
      (planView (db.apply (terminalChanges updated turn planRow agentEvent entry))) := by
  cases hp with
  | none => exact .refl _
  | @some planId stepId old _ hpid _ hsid _ hg hfind =>
    refine plansKept_put (concludedRow status stepId run.agentId event.eventId time old) hg rfl
      (concluded_kept ?_ (.inr rfl)) rfl
    rw [hf.accepts.plan] at hpid
    rw [hf.accepts.step] at hsid
    rw [hf.accepts.agent]
    exact allowed_plan hpid hsid (by simp only [planView, hg, Option.map_some]) ha

theorem planFromRows_eq {row : PlanModel} {plan : Plan} (h : planFromRows row row.steps = .ok plan) :
    plan.planId = row.planId ∧ plan.status = row.status ∧ plan.steps = row.steps := by
  obtain ⟨-, -, h⟩ := bind_eq_ok.1 h
  obtain ⟨-, -, h⟩ := bind_eq_ok.1 h
  obtain ⟨-, -, h⟩ := bind_eq_ok.1 h
  cases h
  exact ⟨rfl, rfl, rfl⟩

theorem complete_plansKept {command : DelegatedRunCompleteCommand} {row run : AgentRun}
    {turn : CanonicalTurn} {plan : Option Plan} {bundle : TurnCompletionBundle}
    (hp : PlanRead command db plan) (hb : BundleOf command run turn plan gen.hex bundle)
    (hpa : PlanApplied db bundle.plan planRow)
    (ha : Command.allowed (planView db) (.complete command) = true) :
    PlansKept (planView db) (planView (db.apply (bundleChanges bundle turn row planRow))) := by
  have hm := hb.plan_ok
  cases hp with
  | none =>
    have hnone : bundle.plan = none := (Except.ok.inj hm).symm
    rw [hnone] at hpa
    cases hpa
    exact .refl _
  | @some planId old plan hpid _ hg _ _ hread =>
    obtain ⟨new, hn, hm⟩ := map_eq_ok.1 hm
    obtain ⟨stepId, next, hnames, hnext, rfl⟩ := completePlanStep_ok.1 hn
    rw [← hm] at hpa
    obtain ⟨hid, hstatus, hsteps⟩ := planFromRows_eq hread
    cases hpa with
    | @some _ old' hg' =>
      have hsame : old' = old := by
        have hkey : (completedPlan command stepId next plan).planId = planId := by
          rw [← Table.key_of_get? hg]
          exact hid
        rw [hkey, hg] at hg'
        exact (Option.some.inj hg').symm
      subst hsame
      rw [hsteps] at hnext
      refine plansKept_put (applyPlan old' (completedPlan command stepId next plan)) hg rfl ?_ rfl
      have hk := completed_kept (v := ⟨old'.status, old'.steps⟩)
        (allowed_plan hpid hnames.step (by simp only [planView, hg, Option.map_some]) ha) hnext
      rw [← hsteps] at hk ⊢
      exact hk

theorem step_plansKept {db' : Database} {r : Reply} (hc : overwritesPlan db command = false)
    (h : exec db gen command = (.ok r, db')) : PlansKept (planView db) (planView db') := by
  cases command with
  | start command runHex key =>
    rcases start_ok h with ⟨-, rfl⟩ | ⟨-, turn, run, values, updated, -, -, -, -, -, -, -, rfl⟩
    · exact .refl _
    · exact .refl _
  | progress command =>
    rcases progress_ok h with ⟨-, rfl⟩ | ⟨-, row, run, planRow, -, -, hcl, -, rfl⟩
    · exact .refl _
    · cases hcl with
      | none => exact .refl _
      | @some planId stepId old step _ hpid _ hsid _ hg _ _ hact hfind hsact =>
        refine plansKept_put (clarifiedRow command stepId old) hg rfl ⟨fun ht => ?_, ?_⟩ rfl
        · rw [hact] at ht
          cases ht
        · exact markFirst_kept_of_find hfind hsact
  | complete command =>
    rcases complete_ok h with ⟨-, rfl⟩ | ⟨-, row, run, turn, plan, bundle, planRow, -, -, -, hp, hb, -,
      hpa, hfresh, rfl⟩
    · exact .refl _
    · refine complete_plansKept hp hb hpa (allowed_of hc rfl ?_)
      have he := hfresh.event bundle.event rfl
      rw [hb.event_eq] at he
      exact he
  | fail command =>
    rcases fail_ok h with ⟨-, rfl⟩ | ⟨-, row, run, turn, planRow, hf, -, hp, hfresh, rfl⟩
    · exact .refl _
    · exact concluded_plansKept hf hp (allowed_of hc rfl (hfresh.event _ rfl))
  | cancel command =>
    rcases cancel_ok h with ⟨-, rfl⟩ | ⟨-, row, run, turn, planRow, hf, -, hp, hfresh, rfl⟩
    · exact .refl _
    · exact concluded_plansKept hf hp (allowed_of hc rfl (hfresh.event _ rfl))
  | timeout command =>
    rcases timeout_ok h with ⟨-, rfl⟩ | ⟨-, row, run, turn, planRow, hf, -, hp, hfresh, rfl⟩
    · exact .refl _
    · exact concluded_plansKept hf hp (allowed_of hc rfl (hfresh.event _ rfl))

def accepted : LTS Database (Generated × Command) where
  init _ := True
  step db call db' := overwritesPlan db call.2 = false ∧ ∃ r, exec db call.1 call.2 = (.ok r, db')

end Db

/-- **Terminal plans and steps are absorbing.** In either store, from any state,
accepted commands that find only allowed status vectors keep the status of every
terminal plan and of every terminal step. -/
theorem terminal_plan_absorbing (s s' : MemoryStores) (db db' : Database) :
    (Memory.accepted.Steps s s' → PlansKept (Memory.planView s) (Memory.planView s')) ∧
      (Db.accepted.Steps db db' → PlansKept (Db.planView db) (Db.planView db')) := by
  constructor
  · intro hs
    refine LTS.Steps.keeps (R := fun s s' => PlansKept (Memory.planView s) (Memory.planView s'))
      (fun s => .refl _) (fun _ _ _ => .trans) ?_ (.init trivial) hs
    rintro s call s' - ⟨hc, r, h⟩
    exact Memory.step_plansKept hc h
  · intro hs
    refine LTS.Steps.keeps (R := fun db db' => PlansKept (Db.planView db) (Db.planView db'))
      (fun db => .refl _) (fun _ _ _ => .trans) ?_ (.init trivial) hs
    rintro db call db' - ⟨hc, r, h⟩
    exact Db.step_plansKept hc h

def startBoth : List (Generated × Command) :=
  [(sampleGenerated "1", .start (sampleStart (some "one")) "1" "key1"),
    (sampleGenerated "2", .start (sampleStart (some "two")) "2" "key2")]

def failOne : Generated × Command :=
  (sampleGenerated "3", .fail (sampleFail (sampleEvent "event1" "run_1" (some "one") 1)))

def cancelOne : Generated × Command :=
  (sampleGenerated "3", .cancel (sampleCancel (sampleEvent "event1" "run_1" (some "one") 1)))

def completeTwo : Generated × Command :=
  (sampleGenerated "4",
    .complete (sampleComplete (sampleEvent "event2" "run_2" (some "two") 2) "result"))

def timeoutTwo : Generated × Command :=
  (sampleGenerated "4", .timeout (sampleTimeout (sampleEvent "event2" "run_2" (some "two") 2)))

/-- The first run fails; in the database the second one completes after it. -/
theorem terminal_plan_absorbing_sample :
    PlansKept (Memory.planView (Memory.execAll Memory.sampleStores startBoth))
        (Memory.planView (Memory.execAll Memory.sampleStores (startBoth ++ [failOne]))) ∧
      PlansKept (Db.planView (Db.execAll Db.sampleDatabase (startBoth ++ [failOne])))
        (Db.planView (Db.execAll Db.sampleDatabase (startBoth ++ [failOne, completeTwo]))) := by
  have hkept := terminal_plan_absorbing (Memory.execAll Memory.sampleStores startBoth)
    (Memory.execAll Memory.sampleStores (startBoth ++ [failOne]))
    (Db.execAll Db.sampleDatabase (startBoth ++ [failOne]))
    (Db.execAll Db.sampleDatabase (startBoth ++ [failOne, completeTwo]))
  refine ⟨hkept.1 (.single ⟨failOne, ?_, ok_of_isOk ?_⟩),
    hkept.2 (.single ⟨completeTwo, ?_, ok_of_isOk ?_⟩)⟩
  · decide
  · decide
  · decide
  · decide

/-- The first run is cancelled, and the plan with it; the timeout of the second
run is accepted and makes the plan failed. -/
theorem timeout_fails_cancelled_plan :
    let db := Db.execAll Db.sampleDatabase startBoth
    let db1 := Db.execAll db [cancelOne]
    let db2 := Db.execAll db1 [timeoutTwo]
    (∃ r, Db.exec db cancelOne.1 cancelOne.2 = (.ok r, db1)) ∧
      (∃ r, Db.exec db1 timeoutTwo.1 timeoutTwo.2 = (.ok r, db2)) ∧
      (Db.planView db1 "plan").map (·.status) = some .cancelled ∧
      (Db.planView db2 "plan").map (·.status) = some .failed := by
  refine ⟨ok_of_isOk ?_, ok_of_isOk ?_, ?_, ?_⟩
  · decide
  · decide
  · decide
  · decide

end OpenIntentRouter.DelegatedRuns
