import OpenIntentRouter.Candidates.Projections
import OpenIntentRouter.Core.Sweeps
import OpenIntentRouter.Services.FormationReconciler

/-!
# Reconciliation and entries that always fail

The plans, the runs and the results are each a queue that `run_once` serves in pages.
An entry whose visit leaves it pending stands in the way of those behind it.

* `planQueue`, `runQueue`, `resultQueue`: the queues, and that `run_once` serves them;
* `published_iff`: a pending entry that publishes well is published after finitely many
  calls exactly if fewer than `limit` entries before it stay pending;
* `oversized_session_starves`: a run that can never be published keeps the one behind it
  from being published.
-/
namespace OpenIntentRouter.Formation.Reconciliation

open Core Schemas Services Services.FormationReconciler

variable (publisher : FormationPublisher) {limit : Nat} {s : FormationRepositories}

/-! ## What a loop leaves alone -/

theorem reconcilePlan_keeps (pass : ReconcilerPass) (plan : Plan) :
    ∃ versions, (reconcilePlan publisher pass plan).repositories =
      { pass.repositories with formationPublishedVersion := versions } := by
  unfold reconcilePlan
  split
  · exact ⟨_, rfl⟩
  · dsimp only [FormationRepositories.markPlan]
    split
    · exact ⟨_, rfl⟩
    · exact ⟨_, rfl⟩

theorem markRun_keeps (s : FormationRepositories) (runId : String) (order : Nat) :
    ∃ orders, s.markRun runId order = { s with formationPublishedOrder := orders } := by
  unfold FormationRepositories.markRun
  split
  · exact ⟨_, rfl⟩
  · exact ⟨_, rfl⟩

theorem publishTarget_keeps (run : AgentRun) (order : Nat) (s : FormationRepositories) :
    ∃ orders, (publishTarget publisher run order s).2 =
      { s with formationPublishedOrder := orders } := by
  unfold publishTarget
  dsimp only
  split
  · exact ⟨_, rfl⟩
  · split
    · exact ⟨_, rfl⟩
    · exact markRun_keeps s run.runId (runSourceOrder run.status)

theorem publishRunTransitions_keeps (run : AgentRun) (s : FormationRepositories) :
    ∃ orders, (publishRunTransitions publisher run s).2 =
      { s with formationPublishedOrder := orders } := by
  unfold publishRunTransitions
  split
  · split
    · exact ⟨_, rfl⟩
    · obtain ⟨created, hcreated⟩ := markRun_keeps s run.runId 1
      rw [hcreated]
      obtain ⟨orders, horders⟩ :=
        publishTarget_keeps publisher run 1 { s with formationPublishedOrder := created }
      exact ⟨orders, horders⟩
  · exact publishTarget_keeps publisher run _ s

theorem reconcileRun_repositories (pass : ReconcilerPass) (run : AgentRun) :
    (reconcileRun publisher pass run).repositories =
      (publishRunTransitions publisher run pass.repositories).2 := by
  unfold reconcileRun
  dsimp only
  split <;> rfl

theorem reconcileRun_keeps (pass : ReconcilerPass) (run : AgentRun) :
    ∃ orders, (reconcileRun publisher pass run).repositories =
      { pass.repositories with formationPublishedOrder := orders } := by
  rw [reconcileRun_repositories publisher]
  exact publishRunTransitions_keeps publisher run pass.repositories

theorem reconcileResult_keeps (pass : ReconcilerPass) (result : AgentResult) :
    ∃ published captured, (reconcileResult publisher pass result).repositories =
      { pass.repositories with formationPublished := published, turnCaptured := captured } := by
  unfold reconcileResult
  dsimp only [FormationRepositories.markResult, FormationRepositories.markTurnCaptured]
  split
  · exact ⟨_, _, rfl⟩
  · split
    · exact ⟨_, _, rfl⟩
    · split
      · split
        · exact ⟨_, _, rfl⟩
        · split <;> exact ⟨_, _, rfl⟩
      · split
        · exact ⟨_, _, rfl⟩
        · split <;> exact ⟨_, _, rfl⟩

/-! ## The queues -/

theorem planVersion_again (publisher : FormationPublisher) (plan : Plan) (version : Nat) :
    let visit := fun version =>
      match publishStoredPlan publisher plan with
      | .error _ => version
      | .ok () => max plan.stateVersion version
    visit (visit version) = visit version := by
  cases publishStoredPlan publisher plan with
  | error e => rfl
  | ok _ => exact sup_left_idem plan.stateVersion version

def planQueue (publisher : FormationPublisher) : Sweeps.Queue Plan Nat where
  pending plan version := version < plan.stateVersion
  visit plan version :=
    match publishStoredPlan publisher plan with
    | .error _ => version
    | .ok () => max plan.stateVersion version
  visit_visit := planVersion_again publisher

def tried (publisher : FormationPublisher) (run : AgentRun) (order : Nat) : Nat :=
  if runSourceOrder run.status ≤ order then order
  else
    match publisher.publishRun run (runEventType run.status) with
    | .error _ => order
    | .ok () => max (runSourceOrder run.status) order

theorem le_tried (run : AgentRun) (order : Nat) : order ≤ tried publisher run order := by
  unfold tried
  split
  · exact le_rfl
  · split <;> omega

theorem tried_tried (run : AgentRun) (order : Nat) :
    tried publisher run (tried publisher run order) = tried publisher run order := by
  by_cases hle : runSourceOrder run.status ≤ order
  · simp only [tried, if_pos hle]
  · cases hpublish : publisher.publishRun run (runEventType run.status) with
    | error e => simp only [tried, if_neg hle, hpublish]
    | ok _ =>
      have hmax : tried publisher run order = max (runSourceOrder run.status) order := by
        simp only [tried, if_neg hle, hpublish]
      rw [hmax]
      exact if_pos (Nat.le_max_left _ _)

def runQueue (publisher : FormationPublisher) : Sweeps.Queue AgentRun Nat where
  pending run order := !run.formationSuppressed && order < runSourceOrder run.status
  visit run order :=
    if order < 1 then
      match publisher.publishRun (runningCopy run) .create with
      | .error _ => order
      | .ok () => tried publisher run 1
    else tried publisher run order
  visit_visit run order := by
    by_cases hlt : order < 1
    · rw [if_pos hlt]
      cases hcreate : publisher.publishRun (runningCopy run) .create with
      | error e => simp only [if_pos hlt]
      | ok _ =>
        have hle : 1 ≤ tried publisher run 1 := le_tried publisher run 1
        dsimp only
        rw [if_neg (Nat.not_lt.2 hle), tried_tried]
    · have hle := le_tried publisher run order
      rw [if_neg hlt, if_neg (by omega), tried_tried]

/-- A result with whether it is published and whether its turn is captured. -/
def resultQueue (publisher : FormationPublisher) (runs : Table AgentRun.runId) :
    Sweeps.Queue AgentResult (Bool × Bool) where
  pending result marks := (!result.formationSuppressed && !marks.1) || !marks.2
  visit result marks :=
    match runs.get? result.runId with
    | none => marks
    | some run =>
      if !resultMatchesRunOwner result run then (true, true)
      else
        (marks.1 || (!run.formationSuppressed && (publisher.publishResult result run).isOk),
          marks.2 || (publisher.captureRecords run result).isOk)
  visit_visit result marks := by
    split
    · rfl
    · split
      · rfl
      · next h => simp only [if_neg h, Bool.or_assoc, Bool.or_self]

def planView (s : FormationRepositories) (plan : Plan) : Nat := s.publishedVersion plan.planId

def runView (s : FormationRepositories) (run : AgentRun) : Nat := s.publishedOrder run.runId

def resultView (s : FormationRepositories) (result : AgentResult) : Bool × Bool :=
  (decide (result.resultId ∈ s.formationPublished), decide (result.resultId ∈ s.turnCaptured))

/-! ## A call serves the queues -/

variable {plan : Plan} {run other : AgentRun} {result : AgentResult}

theorem planView_reconcilePlan (pass : ReconcilerPass) {other : Plan}
    (hplan : plan ∈ pass.repositories.plans.values)
    (hother : other ∈ pass.repositories.plans.values) :
    planView (reconcilePlan publisher pass plan).repositories other =
      if other = plan then (planQueue publisher).visit plan (planView pass.repositories plan)
      else planView pass.repositories other := by
  have hknown : pass.repositories.plans.contains plan.planId = true := by
    rw [Table.contains, (Table.mem_values _ _).1 hplan]
    rfl
  unfold reconcilePlan planQueue
  dsimp only
  cases publishStoredPlan publisher plan with
  | error e =>
    dsimp only
    split
    · next heq => rw [heq]
    · rfl
  | ok _ =>
    simp only [planView, FormationRepositories.markPlan, hknown, if_true,
      FormationRepositories.publishedVersion, Dict.get?_set]
    by_cases heq : other = plan
    · rw [heq, if_pos rfl, if_pos rfl]
      rfl
    · rw [if_neg heq, if_neg fun hid => heq (Table.eq_of_key hother hplan hid.symm)]

theorem runView_markRun {order : Nat} (hrun : run ∈ s.runs.values) (hother : other ∈ s.runs.values) :
    runView (s.markRun run.runId order) other =
      if other = run then max order (runView s run) else runView s other := by
  have hknown : s.runs.contains run.runId = true := by
    rw [Table.contains, (Table.mem_values _ _).1 hrun]
    rfl
  simp only [runView, FormationRepositories.markRun, hknown, if_true,
    FormationRepositories.publishedOrder, Dict.get?_set]
  by_cases heq : other = run
  · rw [heq, if_pos rfl, if_pos rfl]
    rfl
  · rw [if_neg heq, if_neg fun hid => heq (Table.eq_of_key hother hrun hid.symm)]

theorem runView_publishTarget (hrun : run ∈ s.runs.values) (hother : other ∈ s.runs.values) :
    runView (publishTarget publisher run (runView s run) s).2 other =
      if other = run then tried publisher run (runView s run) else runView s other := by
  have hself : runView s other = if other = run then runView s run else runView s other := by
    split
    · next heq => rw [heq]
    · rfl
  unfold publishTarget tried
  dsimp only
  by_cases hle : runSourceOrder run.status ≤ runView s run
  · rw [if_pos hle, if_pos hle]
    exact hself
  · rw [if_neg hle, if_neg hle]
    cases publisher.publishRun run (runEventType run.status) with
    | error e => exact hself
    | ok _ => exact runView_markRun hrun hother

theorem runView_reconcileRun (pass : ReconcilerPass) (hrun : run ∈ pass.repositories.runs.values)
    (hother : other ∈ pass.repositories.runs.values) :
    runView (reconcileRun publisher pass run).repositories other =
      if other = run then (runQueue publisher).visit run (runView pass.repositories run)
      else runView pass.repositories other := by
  rw [reconcileRun_repositories publisher]
  unfold publishRunTransitions runQueue
  dsimp only
  rw [show pass.repositories.publishedOrder run.runId = runView pass.repositories run from rfl]
  by_cases hlt : runView pass.repositories run < 1
  · rw [if_pos hlt, if_pos hlt]
    cases publisher.publishRun (runningCopy run) .create with
    | error e =>
      dsimp only
      split
      · next heq => rw [heq]
      · rfl
    | ok _ =>
      have hcreated : runView (pass.repositories.markRun run.runId 1) run = 1 := by
        rw [runView_markRun hrun hrun, if_pos rfl]
        omega
      obtain ⟨orders, horders⟩ := markRun_keeps pass.repositories run.runId 1
      have hruns : (pass.repositories.markRun run.runId 1).runs = pass.repositories.runs := by
        rw [horders]
      have htarget := runView_publishTarget publisher (hruns ▸ hrun) (hruns ▸ hother)
      rw [hcreated] at htarget
      dsimp only
      rw [htarget]
      split
      · rfl
      · next hne => rw [runView_markRun hrun hother, if_neg hne]
  · rw [if_neg hlt, if_neg hlt]
    exact runView_publishTarget publisher hrun hother

theorem resultView_reconcileResult (pass : ReconcilerPass) {other : AgentResult}
    (hresult : result ∈ pass.repositories.results.values)
    (hother : other ∈ pass.repositories.results.values) :
    resultView (reconcileResult publisher pass result).repositories other =
      if other = result then
        (resultQueue publisher pass.repositories.runs).visit result
          (resultView pass.repositories result)
      else resultView pass.repositories other := by
  by_cases heq : other = result
  · subst heq
    rw [if_pos rfl]
    unfold reconcileResult resultQueue
    dsimp only
    cases pass.repositories.runs.get? other.runId with
    | none => rfl
    | some run =>
      dsimp only
      cases resultMatchesRunOwner other run with
      | false =>
        simp [resultView, FormationRepositories.markResult, FormationRepositories.markTurnCaptured]
      | true =>
        cases run.formationSuppressed <;> cases publisher.publishResult other run <;>
          cases publisher.captureRecords run other <;>
            simp [resultView, FormationRepositories.markResult,
              FormationRepositories.markTurnCaptured, Except.isOk, Except.toBool]
  · have hid : other.resultId ≠ result.resultId :=
      fun hid => heq (Table.eq_of_key hother hresult hid)
    rw [if_neg heq]
    unfold reconcileResult
    cases pass.repositories.runs.get? result.runId with
    | none => rfl
    | some run =>
      dsimp only
      cases resultMatchesRunOwner result run with
      | false =>
        simp [resultView, FormationRepositories.markResult, FormationRepositories.markTurnCaptured, hid]
      | true =>
        cases run.formationSuppressed <;> cases publisher.publishResult result run <;>
          cases publisher.captureRecords run result <;>
            simp [resultView, FormationRepositories.markResult,
              FormationRepositories.markTurnCaptured, hid]

theorem plans_loop (l : List Plan) (pass : ReconcilerPass) :
    ∃ versions, (l.foldl (reconcilePlan publisher) pass).repositories =
      { pass.repositories with formationPublishedVersion := versions } := by
  induction l generalizing pass with
  | nil => exact ⟨_, rfl⟩
  | cons plan l ih =>
    obtain ⟨versions, hstep⟩ := reconcilePlan_keeps publisher pass plan
    obtain ⟨versions', hloop⟩ := ih (reconcilePlan publisher pass plan)
    exact ⟨versions', by rw [List.foldl_cons, hloop, hstep]⟩

theorem runs_loop (l : List AgentRun) (pass : ReconcilerPass) :
    ∃ orders, (l.foldl (reconcileRun publisher) pass).repositories =
      { pass.repositories with formationPublishedOrder := orders } := by
  induction l generalizing pass with
  | nil => exact ⟨_, rfl⟩
  | cons run l ih =>
    obtain ⟨orders, hstep⟩ := reconcileRun_keeps publisher pass run
    obtain ⟨orders', hloop⟩ := ih (reconcileRun publisher pass run)
    exact ⟨orders', by rw [List.foldl_cons, hloop, hstep]⟩

theorem results_loop (l : List AgentResult) (pass : ReconcilerPass) :
    ∃ published captured, (l.foldl (reconcileResult publisher) pass).repositories =
      { pass.repositories with formationPublished := published, turnCaptured := captured } := by
  induction l generalizing pass with
  | nil => exact ⟨_, _, rfl⟩
  | cons result l ih =>
    obtain ⟨published, captured, hstep⟩ := reconcileResult_keeps publisher pass result
    obtain ⟨published', captured', hloop⟩ := ih (reconcileResult publisher pass result)
    exact ⟨published', captured', by rw [List.foldl_cons, hloop, hstep]⟩

theorem plans_visited (pass : ReconcilerPass) {l : List Plan} (hnodup : l.Nodup)
    (hsub : ∀ plan ∈ l, plan ∈ pass.repositories.plans.values) {other : Plan}
    (hother : other ∈ pass.repositories.plans.values) :
    planView (l.foldl (reconcilePlan publisher) pass).repositories other =
      if other ∈ l then (planQueue publisher).visit other (planView pass.repositories other)
      else planView pass.repositories other := by
  refine @Sweeps.foldl_visit _ _ _ _ (planQueue publisher) (reconcilePlan publisher)
    (fun next => planView next.repositories)
    (fun next => next.repositories.plans = pass.repositories.plans) _ (fun next plan hnext => ?_)
    (fun next hnext plan hplan other hother => ?_) _ hnodup hsub _ rfl _ hother
  · obtain ⟨_, hstep⟩ := reconcilePlan_keeps publisher next plan
    rw [hstep, ← hnext]
  · exact planView_reconcilePlan publisher next (hnext ▸ hplan) (hnext ▸ hother)

theorem runs_visited (pass : ReconcilerPass) {l : List AgentRun} (hnodup : l.Nodup)
    (hsub : ∀ run ∈ l, run ∈ pass.repositories.runs.values)
    (hother : other ∈ pass.repositories.runs.values) :
    runView (l.foldl (reconcileRun publisher) pass).repositories other =
      if other ∈ l then (runQueue publisher).visit other (runView pass.repositories other)
      else runView pass.repositories other := by
  refine @Sweeps.foldl_visit _ _ _ _ (runQueue publisher) (reconcileRun publisher)
    (fun next => runView next.repositories)
    (fun next => next.repositories.runs = pass.repositories.runs) _ (fun next run hnext => ?_)
    (fun next hnext run hrun other hother => ?_) _ hnodup hsub _ rfl _ hother
  · obtain ⟨_, hstep⟩ := reconcileRun_keeps publisher next run
    rw [hstep, ← hnext]
  · exact runView_reconcileRun publisher next (hnext ▸ hrun) (hnext ▸ hother)

theorem results_visited (pass : ReconcilerPass) {l : List AgentResult} (hnodup : l.Nodup)
    (hsub : ∀ result ∈ l, result ∈ pass.repositories.results.values) {other : AgentResult}
    (hother : other ∈ pass.repositories.results.values) :
    resultView (l.foldl (reconcileResult publisher) pass).repositories other =
      if other ∈ l then
        (resultQueue publisher pass.repositories.runs).visit other
          (resultView pass.repositories other)
      else resultView pass.repositories other := by
  refine @Sweeps.foldl_visit _ _ _ _ (resultQueue publisher pass.repositories.runs)
    (reconcileResult publisher) (fun next => resultView next.repositories)
    (fun next => next.repositories.runs = pass.repositories.runs ∧
      next.repositories.results = pass.repositories.results) _ (fun next result hnext => ?_)
    (fun next hnext result hresult other hother => ?_) _ hnodup hsub _ ⟨rfl, rfl⟩ _ hother
  · obtain ⟨_, _, hstep⟩ := reconcileResult_keeps publisher next result
    rw [hstep, ← hnext.1, ← hnext.2]
    exact ⟨rfl, rfl⟩
  · rw [← hnext.1]
    exact resultView_reconcileResult publisher next (hnext.2 ▸ hresult) (hnext.2 ▸ hother)

/-- A call visits the plans of its page, the runs of its page and the results of its page. -/
structure Served (publisher : FormationPublisher) (limit : Nat) (s s' : FormationRepositories) :
    Prop where
  plans : s'.plans = s.plans
  runs : s'.runs = s.runs
  results : s'.results = s.results
  plan : ∀ plan ∈ s.plans.values, planView s' plan =
    if plan ∈ (planQueue publisher).page limit s.plans.values (planView s) then
      (planQueue publisher).visit plan (planView s plan)
    else planView s plan
  run : ∀ run ∈ s.runs.values, runView s' run =
    if run ∈ (runQueue publisher).page limit s.runs.values (runView s) then
      (runQueue publisher).visit run (runView s run)
    else runView s run
  result : ∀ result ∈ s.results.values, resultView s' result =
    if result ∈ (resultQueue publisher s.runs).page limit s.results.values (resultView s) then
      (resultQueue publisher s.runs).visit result (resultView s result)
    else resultView s result

/-- The entries of a page are entries of the queue, each once. -/
theorem page_entries {ι β : Type} (q : Sweeps.Queue ι β) (limit : Nat) {entries : List ι}
    (state : ι → β) (h : entries.Nodup) :
    (q.page limit entries state).Nodup ∧ ∀ e ∈ q.page limit entries state, e ∈ entries :=
  ⟨(h.filter _).sublist (List.take_sublist _ _),
    fun _ he => (List.mem_filter.1 (List.mem_of_mem_take he)).1⟩

theorem served (publisher : FormationPublisher) (limit : Nat) (s : FormationRepositories) :
    Served publisher limit s (runOnce publisher limit s).repositories := by
  -- the repositories after each of the three loops
  obtain ⟨versions, hplans⟩ := plans_loop publisher (s.pendingPlans limit)
    ⟨0, 0, 0, 0, s⟩
  generalize hpass : (s.pendingPlans limit).foldl (reconcilePlan publisher) ⟨0, 0, 0, 0, s⟩ = pass
    at hplans
  obtain ⟨orders, hruns⟩ := runs_loop publisher (s.pendingRuns limit) pass
  generalize hpass' : (s.pendingRuns limit).foldl (reconcileRun publisher) pass = pass' at hruns
  obtain ⟨published, captured, hresults⟩ :=
    results_loop publisher (s.pendingResults limit) pass'
  have hcall : runOnce publisher limit s =
      (s.pendingResults limit).foldl (reconcileResult publisher) pass' := by
    unfold runOnce
    dsimp only
    rw [hpass, show pass.repositories.pendingRuns limit = s.pendingRuns limit by rw [hplans]; rfl,
      hpass', show pass'.repositories.pendingResults limit = s.pendingResults limit by
        rw [hruns, hplans]; rfl]
  obtain ⟨hplanNodup, hplanSub⟩ :=
    page_entries (planQueue publisher) limit (planView s) s.plans.values_nodup
  obtain ⟨hrunNodup, hrunSub⟩ :=
    page_entries (runQueue publisher) limit (runView s) s.runs.values_nodup
  obtain ⟨hresultNodup, hresultSub⟩ :=
    page_entries (resultQueue publisher s.runs) limit (resultView s) s.results.values_nodup
  rw [hcall]
  refine ⟨?_, ?_, ?_, fun plan hplan => ?_, fun run hrun => ?_, fun result hresult => ?_⟩
  · rw [hresults, hruns, hplans]
  · rw [hresults, hruns, hplans]
  · rw [hresults, hruns, hplans]
  · rw [hresults, hruns]
    show planView pass.repositories plan = _
    rw [← hpass]
    exact plans_visited publisher ⟨0, 0, 0, 0, s⟩ hplanNodup hplanSub hplan
  · rw [hresults]
    show runView pass'.repositories run = _
    have hmem : run ∈ pass.repositories.runs.values := by
      rw [hplans]
      exact hrun
    rw [← hpass']
    refine (runs_visited publisher pass hrunNodup (by rw [hplans]; exact hrunSub) hmem).trans ?_
    rw [hplans]
    rfl
  · have hmem : result ∈ pass'.repositories.results.values := by
      rw [hruns, hplans]
      exact hresult
    refine (results_visited publisher pass' hresultNodup (by rw [hruns, hplans]; exact hresultSub)
      hmem).trans ?_
    rw [hruns, hplans]
    rfl

/-! ## Runs of calls -/

theorem after_tables (limit : Nat) (s : FormationRepositories) (n : Nat) :
    (after publisher limit s n).plans = s.plans ∧ (after publisher limit s n).runs = s.runs ∧
      (after publisher limit s n).results = s.results := by
  induction n with
  | zero => exact ⟨rfl, rfl, rfl⟩
  | succ n ih =>
    obtain ⟨hplans, hruns, hresults⟩ := ih
    have hserved := served publisher limit (after publisher limit s n)
    exact ⟨hserved.plans.trans hplans, hserved.runs.trans hruns, hserved.results.trans hresults⟩

theorem plans_run (limit : Nat) (s : FormationRepositories) :
    Sweeps.Run (planQueue publisher) limit s.plans.values
      fun n => planView (after publisher limit s n) := by
  refine ⟨fun n plan hplan => ?_⟩
  have hserved := served publisher limit (after publisher limit s n)
  have htables := after_tables publisher limit s n
  have hstep := hserved.plan plan (htables.1 ▸ hplan)
  rw [htables.1] at hstep
  exact hstep

theorem runs_run (limit : Nat) (s : FormationRepositories) :
    Sweeps.Run (runQueue publisher) limit s.runs.values
      fun n => runView (after publisher limit s n) := by
  refine ⟨fun n run hrun => ?_⟩
  have hserved := served publisher limit (after publisher limit s n)
  have htables := after_tables publisher limit s n
  have hstep := hserved.run run (htables.2.1 ▸ hrun)
  rw [htables.2.1] at hstep
  exact hstep

theorem results_run (limit : Nat) (s : FormationRepositories) :
    Sweeps.Run (resultQueue publisher s.runs) limit s.results.values
      fun n => resultView (after publisher limit s n) := by
  refine ⟨fun n result hresult => ?_⟩
  have hserved := served publisher limit (after publisher limit s n)
  have htables := after_tables publisher limit s n
  have hstep := hserved.result result (htables.2.2 ▸ hresult)
  rw [htables.2.1, htables.2.2] at hstep
  exact hstep

/-! ## Entries that are published -/

def visitPlan (s : FormationRepositories) (plan : Plan) : FormationRepositories :=
  (reconcilePlan publisher ⟨0, 0, 0, 0, s⟩ plan).repositories

def visitRun (s : FormationRepositories) (run : AgentRun) : FormationRepositories :=
  (reconcileRun publisher ⟨0, 0, 0, 0, s⟩ run).repositories

def visitResult (s : FormationRepositories) (result : AgentResult) : FormationRepositories :=
  (reconcileResult publisher ⟨0, 0, 0, 0, s⟩ result).repositories

theorem planView_visitPlan (h : plan ∈ s.plans.values) :
    planView (visitPlan publisher s plan) plan = (planQueue publisher).visit plan (planView s plan) :=
  (planView_reconcilePlan publisher ⟨0, 0, 0, 0, s⟩ h h).trans (if_pos rfl)

theorem runView_visitRun (h : run ∈ s.runs.values) :
    runView (visitRun publisher s run) run = (runQueue publisher).visit run (runView s run) :=
  (runView_reconcileRun publisher ⟨0, 0, 0, 0, s⟩ h h).trans (if_pos rfl)

theorem resultView_visitResult (h : result ∈ s.results.values) :
    resultView (visitResult publisher s result) result =
      (resultQueue publisher s.runs).visit result (resultView s result) :=
  (resultView_reconcileResult publisher ⟨0, 0, 0, 0, s⟩ h h).trans (if_pos rfl)

def planStays (s : FormationRepositories) (plan : Plan) : Bool :=
  s.planPending plan && (visitPlan publisher s plan).planPending plan

def runStays (s : FormationRepositories) (run : AgentRun) : Bool :=
  s.runPending run && (visitRun publisher s run).runPending run

def resultStays (s : FormationRepositories) (result : AgentResult) : Bool :=
  s.resultPending result && (visitResult publisher s result).resultPending result

theorem plan_published_iff (limit : Nat) {before rest : List Plan}
    (hplans : s.plans.values = before ++ plan :: rest) (hpending : s.planPending plan = true)
    (hvisit : (visitPlan publisher s plan).planPending plan = false) :
    (∃ n, (after publisher limit s n).planPending plan = false) ↔
      (before.filter (planStays publisher s)).length < limit := by
  have hrun := plans_run publisher limit s
  have hnodup := s.plans.values_nodup
  have hmem : plan ∈ s.plans.values := by
    rw [hplans]
    exact List.mem_append_right _ List.mem_cons_self
  have hstays : before.filter (planStays publisher s) =
      before.filter ((planQueue publisher).stuck (planView s)) := by
    refine List.filter_congr fun other hother => ?_
    have hbefore : other ∈ s.plans.values := by
      rw [hplans]
      exact List.mem_append_left _ hother
    unfold Sweeps.Queue.stuck
    rw [← planView_visitPlan publisher hbefore]
    rfl
  rw [hplans] at hrun hnodup
  rw [hstays]
  refine hrun.changes_iff hnodup hpending (P := fun version => (planQueue publisher).pending plan version = false)
    ?_ ?_
  · exact fun hnot => Bool.false_ne_true (hnot.symm.trans hpending)
  · show (planQueue publisher).pending plan ((planQueue publisher).visit plan (planView s plan)) = false
    rw [← planView_visitPlan publisher hmem]
    exact hvisit

theorem run_published_iff (limit : Nat) {before rest : List AgentRun}
    (hruns : s.runs.values = before ++ run :: rest) (hpending : s.runPending run = true)
    (hvisit : (visitRun publisher s run).runPending run = false) :
    (∃ n, (after publisher limit s n).runPending run = false) ↔
      (before.filter (runStays publisher s)).length < limit := by
  have hrun := runs_run publisher limit s
  have hnodup := s.runs.values_nodup
  have hmem : run ∈ s.runs.values := by
    rw [hruns]
    exact List.mem_append_right _ List.mem_cons_self
  have hstays : before.filter (runStays publisher s) =
      before.filter ((runQueue publisher).stuck (runView s)) := by
    refine List.filter_congr fun other hother => ?_
    have hbefore : other ∈ s.runs.values := by
      rw [hruns]
      exact List.mem_append_left _ hother
    unfold Sweeps.Queue.stuck
    rw [← runView_visitRun publisher hbefore]
    rfl
  rw [hruns] at hrun hnodup
  rw [hstays]
  refine hrun.changes_iff hnodup hpending (P := fun order => (runQueue publisher).pending run order = false)
    ?_ ?_
  · exact fun hnot => Bool.false_ne_true (hnot.symm.trans hpending)
  · show (runQueue publisher).pending run ((runQueue publisher).visit run (runView s run)) = false
    rw [← runView_visitRun publisher hmem]
    exact hvisit

theorem result_published_iff (limit : Nat) {before rest : List AgentResult}
    (hresults : s.results.values = before ++ result :: rest)
    (hpending : s.resultPending result = true) (hnew : result.resultId ∉ s.formationPublished)
    (hvisit : result.resultId ∈ (visitResult publisher s result).formationPublished) :
    (∃ n, result.resultId ∈ (after publisher limit s n).formationPublished) ↔
      (before.filter (resultStays publisher s)).length < limit := by
  have hrun := results_run publisher limit s
  have hnodup := s.results.values_nodup
  have hmem : result ∈ s.results.values := by
    rw [hresults]
    exact List.mem_append_right _ List.mem_cons_self
  have hstays : before.filter (resultStays publisher s) =
      before.filter ((resultQueue publisher s.runs).stuck (resultView s)) := by
    refine List.filter_congr fun other hother => ?_
    have hbefore : other ∈ s.results.values := by
      rw [hresults]
      exact List.mem_append_left _ hother
    unfold Sweeps.Queue.stuck
    rw [← resultView_visitResult publisher hbefore]
    rfl
  have hpublished : ∀ s' : FormationRepositories, result.resultId ∈ s'.formationPublished ↔
      (resultView s' result).1 = true := fun s' => by simp [resultView]
  rw [hresults] at hrun hnodup
  rw [hstays]
  simp only [hpublished]
  refine hrun.changes_iff hnodup hpending (P := fun marks => marks.1 = true) ?_ ?_
  · rw [← hpublished]
    exact hnew
  · show ((resultQueue publisher s.runs).visit result (resultView s result)).1 = true
    rw [← resultView_visitResult publisher hmem, ← hpublished]
    exact hvisit

/-- A pending entry that publishes well is published after finitely many calls exactly if fewer
than `limit` of the entries before it stay pending when they are visited. -/
theorem published_iff (limit : Nat) (s : FormationRepositories) :
    (∀ before plan rest, s.plans.values = before ++ plan :: rest → s.planPending plan = true →
      (visitPlan publisher s plan).planPending plan = false →
      ((∃ n, (after publisher limit s n).planPending plan = false) ↔
        (before.filter (planStays publisher s)).length < limit)) ∧
    (∀ before run rest, s.runs.values = before ++ run :: rest → s.runPending run = true →
      (visitRun publisher s run).runPending run = false →
      ((∃ n, (after publisher limit s n).runPending run = false) ↔
        (before.filter (runStays publisher s)).length < limit)) ∧
    (∀ before result rest, s.results.values = before ++ result :: rest →
      s.resultPending result = true → result.resultId ∉ s.formationPublished →
      result.resultId ∈ (visitResult publisher s result).formationPublished →
      ((∃ n, result.resultId ∈ (after publisher limit s n).formationPublished) ↔
        (before.filter (resultStays publisher s)).length < limit)) :=
  ⟨fun _ _ _ h hpending hvisit => plan_published_iff publisher limit h hpending hvisit,
    fun _ _ _ h hpending hvisit => run_published_iff publisher limit h hpending hvisit,
    fun _ _ _ h hpending hnew hvisit => result_published_iff publisher limit h hpending hnew hvisit⟩

/-! ## A run that can never be published -/

def identifierPublisher : FormationPublisher where
  publishPlan plan _ _ _ _ _ := StructuredEventProjector.validatePlanIdentifiers plan
  publishRun run _ := StructuredEventProjector.validateRunIdentifiers run
  publishResult _ run := StructuredEventProjector.validateRunIdentifiers run
  captureRecords _ _ := .ok ()

/-- A run whose session id has more than the 128 characters that the projector allows. -/
def oversizedRun : AgentRun :=
  { Candidates.digitRun with
    runId := "run_oversized"
    sessionId := String.ofList (List.replicate 129 's') }

def twoRuns : FormationRepositories where
  plans := .empty
  formationPublishedVersion := .empty
  runs := (Table.empty.put oversizedRun).put Candidates.digitRun
  formationPublishedOrder := .empty
  results := .empty
  formationPublished := []
  turnCaptured := []

def storedPlan : Plan where
  planId := "plan_report"
  userId := "ada"
  tenantId := "acme"
  status := .running
  currentStepId := none
  executionPolicy := none
  nextAction := none
  lastEventId := none
  stateVersion := 2
  updatedAt := 0
  formationEventType := "update"
  steps := []

def storedResult : AgentResult where
  resultId := "res_report"
  runId := Candidates.digitRun.runId
  sessionId := "chat"
  agentId := "writer"
  userId := some "ada"
  tenantId := some "acme"
  turnId := none
  planId := none
  stepId := none
  status := .completed
  runStateVersion := none
  message := ""
  formationSuppressed := false
  output := none
  artifactRefs := []
  error := none
  createdAt := none

def storedEntries : FormationRepositories :=
  { twoRuns with plans := Table.empty.put storedPlan, results := Table.empty.put storedResult }

theorem published_iff_storedEntries :
    ((∃ n, (after identifierPublisher 1 storedEntries n).planPending storedPlan = false) ↔ 0 < 1) ∧
    ((∃ n, (after identifierPublisher 1 storedEntries n).runPending Candidates.digitRun = false) ↔
      (List.filter (runStays identifierPublisher storedEntries) [oversizedRun]).length < 1) ∧
    ((∃ n, storedResult.resultId ∈
      (after identifierPublisher 1 storedEntries n).formationPublished) ↔ 0 < 1) := by
  obtain ⟨hplan, hrun, hresult⟩ := published_iff identifierPublisher 1 storedEntries
  exact ⟨hplan [] storedPlan [] (by decide) (by decide) (by decide),
    hrun [oversizedRun] Candidates.digitRun [] (by decide +kernel) (by decide +kernel)
      (by decide),
    hresult [] storedResult [] (by decide) (by decide) (by decide)
      (by decide)⟩

/-- The run that is first in the queue can never be published, and the next one never is. -/
theorem oversized_session_starves :
    ¬∀ (publisher : FormationPublisher) (limit : Nat) (s : FormationRepositories), 0 < limit →
      (∀ plan ∈ s.plans.values, s.planPending plan = true →
        (visitPlan publisher s plan).planPending plan = false →
        ∃ n, (after publisher limit s n).planPending plan = false) ∧
      (∀ run ∈ s.runs.values, s.runPending run = true →
        (visitRun publisher s run).runPending run = false →
        ∃ n, (after publisher limit s n).runPending run = false) ∧
      ∀ result ∈ s.results.values, s.resultPending result = true →
        result.resultId ∉ s.formationPublished →
        result.resultId ∈ (visitResult publisher s result).formationPublished →
        ∃ n, result.resultId ∈ (after publisher limit s n).formationPublished := by
  intro hclaim
  obtain ⟨-, hruns, -⟩ := hclaim identifierPublisher 1 twoRuns (by decide)
  have hvalues : twoRuns.runs.values = [oversizedRun] ++ Candidates.digitRun :: [] := by
    decide +kernel
  have hpending : twoRuns.runPending Candidates.digitRun = true := by decide
  have hvisit : (visitRun identifierPublisher twoRuns Candidates.digitRun).runPending
      Candidates.digitRun = false := by decide
  have hmem : Candidates.digitRun ∈ twoRuns.runs.values := by
    rw [hvalues]
    exact List.mem_append_right _ List.mem_cons_self
  have hfew := (run_published_iff identifierPublisher 1 hvalues hpending hvisit).1
    (hruns _ hmem hpending hvisit)
  exact absurd hfew (by decide +kernel)

end OpenIntentRouter.Formation.Reconciliation
