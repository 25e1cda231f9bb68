import OpenIntentRouter.DelegatedRuns.DatabaseStores

/-!
# Database calls without interleaving

One inversion lemma per command: what an accepted call found in the tables and
which rows it committed. Everything the serial results say about the database
stores is derived from these.

* `fail_ok`, `cancel_ok`, `timeout_ok`, `complete_ok`, `progress_ok`, `start_ok`;
* `exec_error`: a call that raises leaves the tables as they are.
-/
namespace OpenIntentRouter.DelegatedRuns.Db

open Core Schemas Repositories

/-! ## Steps of a program -/

variable {β : Type} {db db' : Database} {r : Reply} {q : DbProg}
  {command : DelegatedRunCompleteCommand} {k : Option PlanModel → DbProg} {run : AgentRun}
  {message : String} {gen : Generated}

theorem run_attempt (x : Except StoreError β) (k : β → DbProg) (db : Database) :
    (attempt x k).run db = match x with
      | .error e => (.error e, db)
      | .ok b => (k b).run db := by
  cases x <;> rfl

variable {x : Except StoreError β} {e : StoreError} {absent : DbProg} {status : PlanStatus}
  {eventId : String} {time : Instant} {plan : Option Plan} {row : AgentRun} {turn : CanonicalTurn}

theorem attempt_ok {k : β → DbProg} (h : (attempt x k).run db = (.ok r, db')) :
    ∃ b, x = .ok b ∧ (k b).run db = (.ok r, db') := by
  rw [run_attempt] at h
  cases x with
  | error e => cases h
  | ok b => exact ⟨b, rfl, h⟩

@[simp] theorem run_read (f : Database → DbProg) (db : Database) :
    (read f).run db = (f db).run db := rfl

@[simp] theorem run_lockRow (row : Row) (f : Database → DbProg) (db : Database) :
    (lock row f).run db = (f db).run db := rfl

theorem raise_not_ok {m : String} : (raise m).run db ≠ (.ok r, db') := by
  simp [raise, conflict]

theorem commit_ok {w : Database → Option Database} {a : Reply} {conflicted : DbProg}
    (h : (Prog.commit w (.ret (.ok a)) conflicted : DbProg).run db = (.ok r, db')) :
    (w db = some db' ∧ r = a) ∨ (w db = none ∧ conflicted.run db = (.ok r, db')) := by
  rw [Prog.run_commit] at h
  cases hw : w db with
  | none => rw [hw] at h; exact .inr ⟨rfl, h⟩
  | some d =>
    rw [hw] at h
    cases h
    exact .inl ⟨rfl, rfl⟩

/-! ## Calls that raise -/

def ReadOnly : DbProg → Prop
  | .ret _ => True
  | .select _ f => ∀ db, ReadOnly (f db)
  | .lock _ _ f => ∀ db, ReadOnly (f db)
  | .commit _ _ _ => False

def OneCommit : DbProg → Prop
  | .ret _ => True
  | .select _ f => ∀ db, OneCommit (f db)
  | .lock _ _ f => ∀ db, OneCommit (f db)
  | .commit _ done conflicted => (∃ r, done = .ret (.ok r)) ∧ ReadOnly conflicted

theorem ReadOnly.oneCommit (h : ReadOnly q) : OneCommit q := by
  induction q with
  | ret a => trivial
  | select n f ih => exact fun db => ih db (h db)
  | lock n k f ih => exact fun db => ih db (h db)
  | commit w done conflicted => cases h

theorem ReadOnly.run_snd (h : ReadOnly q) (db : Database) : (q.run db).2 = db := by
  induction q with
  | ret a => rfl
  | select n f ih => exact ih db (h db)
  | lock n k f ih => exact ih db (h db)
  | commit w done conflicted => cases h

theorem OneCommit.run_error (h : OneCommit q) (hr : q.run db = (.error e, db')) : db' = db := by
  induction q with
  | ret a => cases hr; rfl
  | select n f ih => exact ih db (h db) hr
  | lock n k f ih => exact ih db (h db) hr
  | commit w done conflicted =>
    obtain ⟨⟨r, rfl⟩, hc⟩ := h
    rw [Prog.run_commit] at hr
    cases hw : w db with
    | some d => rw [hw] at hr; cases hr
    | none =>
      rw [hw] at hr
      have hs := hc.run_snd db
      exact (congrArg Prod.snd hr).symm.trans hs

theorem ReadOnly.attempt {k : β → DbProg} (h : ∀ b, ReadOnly (k b)) : ReadOnly (attempt x k) := by
  cases x with
  | error e => trivial
  | ok b => exact h b

theorem OneCommit.attempt {k : β → DbProg} (h : ∀ b, OneCommit (k b)) :
    OneCommit (attempt x k) := by
  cases x with
  | error e => trivial
  | ok b => exact h b

theorem readOnly_startDuplicate (run : AgentRun) : ReadOnly (startDuplicate run) := by
  intro db
  refine .attempt fun run => ?_
  split
  · trivial
  · exact .attempt fun turn => trivial

theorem readOnly_completeDuplicate (h : ReadOnly absent) :
    ReadOnly (completeDuplicate command absent) := by
  intro db
  dsimp only
  split
  · exact h
  · refine .attempt fun _ => ?_
    intro db1 db2 db3
    dsimp only
    split
    · exact .attempt fun _ => .attempt fun _ => .attempt fun _ => .attempt fun _ => trivial
    · trivial

theorem readOnly_failDuplicate (event : AgentEvent) (command : DelegatedRunFailCommand) :
    ReadOnly (failDuplicate event command) := by
  refine .attempt fun _ => ?_
  intro db1 db2
  dsimp only
  split
  · exact .attempt fun _ => .attempt fun _ => trivial
  · trivial

theorem oneCommit_concludePlanStep (h : ∀ row, OneCommit (k row)) :
    OneCommit (concludePlanStep status message run eventId time k) := by
  unfold concludePlanStep
  split
  · split
    · exact h none
    · intro db1 db2
      dsimp only
      split
      · exact h _
      · trivial
  · exact h none

theorem oneCommit_validatePlanStep {command : DelegatedRunStartCommand} {k : DbProg}
    (h : OneCommit k) : OneCommit (validatePlanStep command k) := by
  unfold validatePlanStep
  split
  · exact h
  · split
    · trivial
    · intro db1 db2
      dsimp only
      split
      · split
        · exact h
        · trivial
      · trivial
  · trivial

theorem oneCommit_projectClarification {command : DelegatedRunProgressCommand}
    (h : ∀ row, OneCommit (k row)) : OneCommit (projectClarification command k) := by
  unfold projectClarification
  split
  · exact h none
  · split
    · split
      · trivial
      · intro db1 db2
        dsimp only
        split
        · split
          · exact h _
          · trivial
        · trivial
    · trivial

theorem oneCommit_readPlan {k : Option Plan → DbProg} (h : ∀ plan, OneCommit (k plan)) :
    OneCommit (readPlan command k) := by
  unfold readPlan
  split
  · exact h none
  · split
    · exact h none
    · intro db
      dsimp only
      split
      · trivial
      · exact fun db2 => .attempt fun plan => h _

theorem oneCommit_lockPlan (h : ∀ row, OneCommit (k row)) : OneCommit (lockPlan plan k) := by
  unfold lockPlan
  split
  · exact h none
  · intro db
    dsimp only
    split
    · trivial
    · split
      · trivial
      · split
        · trivial
        · exact h _

theorem oneCommit_start (command : DelegatedRunStartCommand) (runId delegationKey : String)
    (gen : Generated) : OneCommit (start command runId delegationKey gen) := by
  intro db
  dsimp only
  split
  · exact (readOnly_startDuplicate _).oneCommit
  · intro db1
    refine .attempt fun turn? => .attempt fun turn => oneCommit_validatePlanStep ?_
    refine .attempt fun run => .attempt fun values => .attempt fun updated => ?_
    refine ⟨⟨_, rfl⟩, fun db2 => ?_⟩
    dsimp only
    split
    · trivial
    · exact readOnly_startDuplicate _

theorem oneCommit_progress (command : DelegatedRunProgressCommand) :
    OneCommit (progress command) := by
  refine .attempt fun _ => ?_
  intro db
  dsimp only
  split
  · refine .attempt fun _ => ?_
    intro db1
    dsimp only
    split
    · trivial
    · exact .attempt fun _ => trivial
  · intro db1
    refine .attempt fun _ => .attempt fun run => oneCommit_projectClarification fun row => ?_
    exact .attempt fun reply => ⟨⟨_, rfl⟩, trivial⟩

theorem oneCommit_complete (command : DelegatedRunCompleteCommand) (gen : Generated) :
    OneCommit (complete command gen) := by
  have hfresh : OneCommit (completeFresh command gen) := by
    intro db1 db2
    refine .attempt fun _ => .attempt fun run => ?_
    split
    · trivial
    · refine .attempt fun turn => oneCommit_readPlan fun plan => .attempt fun bundle => ?_
      refine .attempt fun _ => ?_
      intro db3 db4
      refine .attempt fun rows => oneCommit_lockPlan fun planRow => ⟨⟨_, rfl⟩, ?_⟩
      exact readOnly_completeDuplicate trivial
  intro db
  dsimp only
  split
  · exact hfresh
  · refine .attempt fun _ => ?_
    intro db1 db2 db3
    dsimp only
    split
    · exact .attempt fun _ => .attempt fun _ => .attempt fun _ => .attempt fun _ => trivial
    · trivial

theorem oneCommit_fail (command : DelegatedRunFailCommand) (gen : Generated) :
    OneCommit (fail command gen) := by
  intro db
  dsimp only
  split
  · exact (readOnly_failDuplicate _ _).oneCommit
  · intro db1
    refine .attempt fun _ => .attempt fun run => ?_
    intro db2
    refine .attempt fun _ => .attempt fun turn => oneCommit_concludePlanStep fun planRow => ?_
    refine .attempt fun _ => .attempt fun _ => ⟨⟨_, rfl⟩, fun db3 => ?_⟩
    dsimp only
    split
    · trivial
    · exact readOnly_failDuplicate _ _

theorem oneCommit_cancel (command : DelegatedRunCancelCommand) (gen : Generated) :
    OneCommit (cancel command gen) := by
  intro db
  dsimp only
  split
  · refine .attempt fun _ => ?_
    intro db1 db2
    dsimp only
    split
    · exact .attempt fun _ => .attempt fun _ => .attempt fun _ => trivial
    · trivial
  · intro db1
    refine .attempt fun _ => .attempt fun run => ?_
    intro db2
    refine .attempt fun _ => .attempt fun turn => oneCommit_concludePlanStep fun planRow => ?_
    exact .attempt fun _ => ⟨⟨_, rfl⟩, trivial⟩

theorem oneCommit_timeout (command : DelegatedRunTimeoutCommand) (gen : Generated) :
    OneCommit (timeout command gen) := by
  intro db
  dsimp only
  split
  · intro db1
    exact .attempt fun _ => .attempt fun _ => trivial
  · intro db1
    refine .attempt fun _ => .attempt fun run => ?_
    intro db2
    dsimp only
    split
    · trivial
    · refine oneCommit_concludePlanStep fun planRow => ?_
      exact .attempt fun _ => ⟨⟨_, rfl⟩, trivial⟩

theorem exec_error {command : Command} (h : exec db gen command = (.error e, db')) : db' = db := by
  cases command with
  | start command runHex key => exact (oneCommit_start _ _ _ _).run_error h
  | progress command => exact (oneCommit_progress _).run_error h
  | complete command => exact (oneCommit_complete _ _).run_error h
  | fail command => exact (oneCommit_fail _ _).run_error h
  | cancel command => exact (oneCommit_cancel _ _).run_error h
  | timeout command => exact (oneCommit_timeout _ _).run_error h

/-! ## The plan of a call -/

/-- The plan row a `fail`, `cancel` or `timeout` writes. -/
inductive PlanConcluded (status : PlanStatus) (run : AgentRun) (eventId : String)
    (time : Instant) (db : Database) : Option PlanModel → Prop where
  | none : ¬(truthy run.planId = true ∧ truthy run.stepId = true) →
      PlanConcluded status run eventId time db none
  | some {planId stepId : String} {row : PlanModel} {step : PlanStep} :
      run.planId = some planId → planId ≠ "" → run.stepId = some stepId → stepId ≠ "" →
      db.plans.get? planId = some row → row.steps.find? (isStep stepId run.agentId) = some step →
      PlanConcluded status run eventId time db
        (some (concludedRow status stepId run.agentId eventId time row))

theorem concludePlanStep_ok
    (h : (concludePlanStep status message run eventId time k).run db = (.ok r, db')) :
    ∃ row, PlanConcluded status run eventId time db row ∧ (k row).run db = (.ok r, db') := by
  unfold concludePlanStep at h
  split at h
  · next planId stepId hp hs =>
    split at h
    · next he =>
      refine ⟨none, .none ?_, h⟩
      simpa [hp, hs, truthy, or_iff_not_imp_left] using he
    · next he =>
      simp only [Bool.or_eq_true, decide_eq_true_eq, not_or] at he
      simp only [run_lockRow, run_read] at h
      split at h
      · next plan step hplan hstep =>
        simp only [hplan, Option.bind_some] at hstep
        exact ⟨_, .some hp he.1 hs he.2 hplan hstep, h⟩
      · exact absurd h raise_not_ok
  · next hno =>
    refine ⟨none, .none ?_, h⟩
    rintro ⟨h1, h2⟩
    obtain ⟨p, hp, -⟩ := (truthy_iff _).1 h1
    obtain ⟨q, hq, -⟩ := (truthy_iff _).1 h2
    exact hno p q hp hq

inductive Clarified (command : DelegatedRunProgressCommand) (db : Database) :
    Option PlanModel → Prop where
  | none : command.eventType ≠ .agentClarify → Clarified command db none
  | some {planId stepId : String} {row : PlanModel} {step : PlanStep} :
      command.eventType = .agentClarify → command.planId = some planId → planId ≠ "" →
      command.stepId = some stepId → stepId ≠ "" → db.plans.get? planId = some row →
      row.tenantId = command.tenantId → row.userId = command.userId → row.status.isActive = true →
      row.steps.find? (isStep stepId command.agentId) = some step → step.status.isActive = true →
      Clarified command db (some (clarifiedRow command stepId row))

theorem projectClarification_ok {command : DelegatedRunProgressCommand}
    (h : (projectClarification command k).run db = (.ok r, db')) :
    ∃ row, Clarified command db row ∧ (k row).run db = (.ok r, db') := by
  unfold projectClarification at h
  split at h
  · next ht => exact ⟨none, .none ht, h⟩
  · next ht =>
    split at h
    · next planId stepId hp hs =>
      split at h
      · exact absurd h raise_not_ok
      · next he =>
        simp only [Bool.or_eq_true, decide_eq_true_eq, not_or] at he
        simp only [run_lockRow] at h
        split at h
        · next plan step hplan hstep =>
          simp only [Option.filter_eq_some_iff, Bool.and_eq_true, decide_eq_true_eq] at hplan
          simp only [hplan.1, Option.bind_some] at hstep
          split at h
          · next ha =>
            rw [Bool.and_eq_true] at ha
            exact ⟨_, .some (by simpa using ht) hp he.1 hs he.2 hplan.1 hplan.2.1 hplan.2.2 ha.1
              hstep ha.2, h⟩
          · exact absurd h raise_not_ok
        · exact absurd h raise_not_ok
    · exact absurd h raise_not_ok

/-- The plan `complete` reads: none, or the validated plan of the owner. -/
inductive PlanRead (command : DelegatedRunCompleteCommand) (db : Database) :
    Option Plan → Prop where
  | none : truthy command.planId = false → PlanRead command db none
  | some {planId : String} {row : PlanModel} {plan : Plan} :
      command.planId = some planId → planId ≠ "" → db.plans.get? planId = some row →
      row.tenantId = command.tenantId → row.userId = command.userId →
      planFromRows row row.steps = .ok plan → PlanRead command db (some plan)

theorem readPlan_ok {k : Option Plan → DbProg} (h : (readPlan command k).run db = (.ok r, db')) :
    ∃ plan, PlanRead command db plan ∧ (k plan).run db = (.ok r, db') := by
  unfold readPlan at h
  split at h
  · next hp => exact ⟨none, .none (by simp [hp]), h⟩
  · next planId hp =>
    split at h
    · next he => exact ⟨none, .none (by simp [hp, truthy, he]), h⟩
    · next he =>
      simp only [run_read] at h
      split at h
      · exact absurd h raise_not_ok
      · next row hrow =>
        simp only [Option.filter_eq_some_iff, Bool.and_eq_true, decide_eq_true_eq] at hrow
        simp only [run_read, hrow.1, Option.map_some, Option.getD_some] at h
        obtain ⟨plan, hplan, h⟩ := attempt_ok h
        exact ⟨_, .some hp he hrow.1 hrow.2.1 hrow.2.2 hplan, h⟩

inductive PlanApplied (db : Database) : Option Plan → Option PlanModel → Prop where
  | none : PlanApplied db none none
  | some {plan : Plan} {row : PlanModel} :
      db.plans.get? plan.planId = some row → row.tenantId = plan.tenantId →
      row.userId = plan.userId → plan.stateVersion = row.stateVersion + 1 →
      PlanApplied db (some plan) (some (applyPlan row plan))

theorem lockPlan_ok (h : (lockPlan plan k).run db = (.ok r, db')) :
    ∃ row, PlanApplied db plan row ∧ (k row).run db = (.ok r, db') := by
  unfold lockPlan at h
  split at h
  · exact ⟨none, .none, h⟩
  · next plan =>
    simp only [run_lockRow] at h
    split at h
    · cases h
    · next row hrow =>
      split at h
      · cases h
      · next ho =>
        split at h
        · cases h
        · next hv =>
          simp only [ne_eq, Bool.or_eq_true, decide_eq_true_eq, not_or, not_not] at ho hv
          exact ⟨_, .some hrow ho.1 ho.2 hv, h⟩

inductive StepActive (command : DelegatedRunStartCommand) (db : Database) : Prop where
  | none : command.planId = none → command.stepId = none → StepActive command db
  | some {planId stepId : String} {row : PlanModel} {step : PlanStep} :
      command.planId = some planId → planId ≠ "" → command.stepId = some stepId → stepId ≠ "" →
      db.plans.get? planId = some row → row.tenantId = command.tenantId →
      row.userId = command.userId → row.status.isActive = true →
      row.steps.find? (isStep stepId command.agentId) = some step → step.status.isActive = true →
      StepActive command db

theorem validatePlanStep_ok {command : DelegatedRunStartCommand} {k : DbProg}
    (h : (validatePlanStep command k).run db = (.ok r, db')) :
    StepActive command db ∧ k.run db = (.ok r, db') := by
  unfold validatePlanStep at h
  split at h
  · next hp hs => exact ⟨.none hp hs, h⟩
  · next planId stepId hp hs =>
    split at h
    · exact absurd h raise_not_ok
    · next he =>
      simp only [Bool.or_eq_true, decide_eq_true_eq, not_or] at he
      simp only [run_lockRow] at h
      split at h
      · next plan step hplan hstep =>
        simp only [Option.filter_eq_some_iff, Bool.and_eq_true, decide_eq_true_eq] at hplan
        simp only [hplan.1, Option.bind_some] at hstep
        split at h
        · next ha =>
          rw [Bool.and_eq_true] at ha
          exact ⟨.some hp he.1 hs he.2 hplan.1 hplan.2.1 hplan.2.2 ha.1 hstep ha.2, h⟩
        · exact absurd h raise_not_ok
      · exact absurd h raise_not_ok
  · exact absurd h raise_not_ok

/-! ## Redelivered calls -/

theorem ReadOnly.run_ok (hq : ReadOnly q) (h : q.run db = (.ok r, db')) : db' = db := by
  have hs := hq.run_snd db
  rw [h] at hs
  exact hs

theorem startDuplicate_ok {existing : AgentRun}
    (h : (startDuplicate existing).run db = (.ok r, db')) : r.duplicate = true := by
  simp only [startDuplicate, run_read] at h
  obtain ⟨run, -, h⟩ := attempt_ok h
  split at h
  · cases h
  · obtain ⟨turn, -, h⟩ := attempt_ok h
    cases h
    rfl

theorem failDuplicate_ok {event : AgentEvent} {command : DelegatedRunFailCommand}
    (h : (failDuplicate event command).run db = (.ok r, db')) : r.duplicate = true := by
  obtain ⟨u, -, h⟩ := attempt_ok h
  simp only [run_read] at h
  split at h
  · obtain ⟨run, -, h⟩ := attempt_ok h
    obtain ⟨turn, -, h⟩ := attempt_ok h
    cases h
    rfl
  · exact absurd h raise_not_ok

theorem completeDuplicate_ok (h : (completeDuplicate command absent).run db = (.ok r, db')) :
    (db.events.get? command.eventId = none ∧ absent.run db = (.ok r, db')) ∨
      (r.duplicate = true ∧ db' = db) := by
  simp only [completeDuplicate, run_read] at h
  split at h
  · next he => exact .inl ⟨he, h⟩
  · obtain ⟨u, -, h⟩ := attempt_ok h
    simp only [run_read] at h
    split at h
    · obtain ⟨_, -, h⟩ := attempt_ok h
      obtain ⟨_, -, h⟩ := attempt_ok h
      obtain ⟨_, -, h⟩ := attempt_ok h
      obtain ⟨_, -, h⟩ := attempt_ok h
      cases h
      exact .inr ⟨rfl, rfl⟩
    · exact absurd h raise_not_ok

/-! ## Accepted calls -/

structure RunFound (command : DelegatedRunEventCommand) (db : Database) (row run : AgentRun) :
    Prop where
  get : db.runs.get? command.runId = some row
  reads : runFromRow row = .ok run
  accepts : Accepts run command

theorem RunFound.rowId {command : DelegatedRunEventCommand} (h : RunFound command db row run) :
    row.runId = command.runId := Table.key_of_get? h.get

theorem RunFound.runId {command : DelegatedRunEventCommand} (h : RunFound command db row run) :
    run.runId = command.runId := by
  rw [← AgentRun.runId_of_validate h.reads, h.rowId]

theorem runFound_of {extra : AgentRun → Bool} {command : DelegatedRunEventCommand}
    {o : Option AgentRun} (hread : (db.runs.get? command.runId).mapM runFromRow = .ok o)
    (hval : validateRun message extra o command = .ok run) :
    ∃ row, RunFound command db row run ∧ extra run = false := by
  obtain ⟨rfl, ha, he⟩ := validateRun_ok.1 hval
  cases hg : db.runs.get? command.runId with
  | none => rw [hg] at hread; cases hread
  | some row =>
    rw [hg] at hread
    obtain ⟨run', hr, hread⟩ := Except.map_eq_ok.1 hread
    cases hread
    exact ⟨row, ⟨hg, hr, ha⟩, he⟩

theorem turn_of_mapM {turnId : String}
    (hread : (db.turns.get? turnId).mapM turnFromRow = .ok (some turn)) :
    db.turns.get? turnId = some turn ∧ turn.Valid := by
  cases hg : db.turns.get? turnId with
  | none => rw [hg] at hread; cases hread
  | some row =>
    rw [hg] at hread
    obtain ⟨turn', hr, hread⟩ := Except.map_eq_ok.1 hread
    cases hread
    have hrow := CanonicalTurn.validate_eq hr
    subst hrow
    exact ⟨rfl, CanonicalTurn.valid_of_validate hr⟩

/-- A turn row that reads as a turn `fail` or `cancel` is accepted for. -/
structure TurnFound (command : DelegatedRunEventCommand) (db : Database) (turn : CanonicalTurn) :
    Prop where
  get : db.turns.get? command.turnId = some turn
  valid : turn.Valid
  tenant : turn.tenantId = command.tenantId
  user : turn.userId = command.userId
  open_ : turn.status.isTerminal = false

theorem turnFound_of {command : DelegatedRunEventCommand} {o : Option CanonicalTurn}
    (hread : (db.turns.get? command.turnId).mapM turnFromRow = .ok o)
    (hval : validateTurn message o command = .ok turn) : TurnFound command db turn := by
  obtain ⟨rfl, ht, hu, ho⟩ := validateTurn_ok.1 hval
  obtain ⟨hg, hv⟩ := turn_of_mapM hread
  exact ⟨hg, hv, ht, hu, ho⟩

/-- What an accepted `fail` commits. -/
def failChanges (command : DelegatedRunFailCommand) (gen : Generated) (row run : AgentRun)
    (turn : CanonicalTurn) (planRow : Option PlanModel) : Changes :=
  let failedAt := concludedAt command turn
  terminalChanges (failedRun command failedAt row) (failedTurn command failedAt turn) planRow
    (terminalEvent run command command.runId .agentError .failed
      [("error", .obj command.error)] failedAt)
    (turnOutbox gen.hex "turn.failed" command.turnId
      [("turn_id", .str command.turnId), ("run_id", .str command.runId),
        ("state_version", .num (failedTurn command failedAt turn).stateVersion)] failedAt)

/-- A `fail` whose event is not there. -/
theorem fail_fresh {command : DelegatedRunFailCommand} (hev : db.events.get? command.eventId = none)
    (h : (fail command gen).run db = (.ok r, db')) :
    r.duplicate = false ∧ ∃ row run turn planRow,
      RunFound command db row run ∧
      TurnFound command db turn ∧
      PlanConcluded .failed run command.eventId command.occurredAt db planRow ∧
      (∃ reply, runFromRow
          (failedRun command (concludedAt command turn) row) = .ok reply ∧
        r.run = some reply) ∧
      r.turn = some (failedTurn command (concludedAt command turn) turn) ∧
      db.Fresh (failChanges command gen row run turn planRow) ∧
      db' = db.apply (failChanges command gen row run turn planRow) := by
  simp only [fail, run_read, hev, run_lockRow] at h
  obtain ⟨run?, hrow, h⟩ := attempt_ok h
  obtain ⟨run, hrun, h⟩ := attempt_ok h
  obtain ⟨row, hfound, -⟩ := runFound_of hrow hrun
  simp only [run_lockRow] at h
  obtain ⟨turn?, hturnRow, h⟩ := attempt_ok h
  obtain ⟨turn, hturn, h⟩ := attempt_ok h
  have ht := turnFound_of hturnRow hturn
  rw [hfound.get, ht.get] at h
  obtain ⟨planRow, hplan, h⟩ := concludePlanStep_ok h
  obtain ⟨replyRun, hreply, h⟩ := attempt_ok h
  obtain ⟨replyTurn, hreplyTurn, h⟩ := attempt_ok h
  rcases commit_ok h with ⟨hc, rfl⟩ | ⟨hc, h⟩
  · obtain ⟨hfresh, rfl⟩ := Database.commit_eq_some.1 hc
    exact ⟨rfl, row, run, turn, planRow, hfound, ht, hplan,
      ⟨replyRun, hreply, rfl⟩, congrArg some (CanonicalTurn.validate_eq hreplyTurn), hfresh, rfl⟩
  · simp only [run_read, hev] at h
    cases h

theorem fail_ok {command : DelegatedRunFailCommand} (h : (fail command gen).run db = (.ok r, db')) :
    (r.duplicate = true ∧ db' = db) ∨
      (r.duplicate = false ∧ ∃ row run turn planRow,
        RunFound command db row run ∧
        TurnFound command db turn ∧
        PlanConcluded .failed run command.eventId command.occurredAt db planRow ∧
        db.Fresh (failChanges command gen row run turn planRow) ∧
        db' = db.apply (failChanges command gen row run turn planRow)) := by
  cases hev : db.events.get? command.eventId with
  | none =>
    obtain ⟨hd, row, run, turn, planRow, hfound, ht, hplan, -, -, hfresh, hdb⟩ := fail_fresh hev h
    exact .inr ⟨hd, row, run, turn, planRow, hfound, ht, hplan, hfresh, hdb⟩
  | some existing =>
    simp only [fail, run_read, hev] at h
    exact .inl ⟨failDuplicate_ok h, (readOnly_failDuplicate _ _).run_ok h⟩

/-- What an accepted `cancel` commits. -/
def cancelChanges (command : DelegatedRunCancelCommand) (gen : Generated) (row run : AgentRun)
    (turn : CanonicalTurn) (planRow : Option PlanModel) : Changes :=
  let cancelledAt := concludedAt command turn
  terminalChanges (concludeRun .cancelled command cancelledAt row)
    (concludeTurn .cancelled cancelledAt turn) planRow
    (terminalEvent run command command.runId .agentCancelled .cancelled
      [("reason", .str command.reason)] cancelledAt)
    (turnOutbox gen.hex "turn.cancelled" command.turnId
      [("turn_id", .str command.turnId), ("run_id", .str command.runId),
        ("reason", .str command.reason)] cancelledAt)

/-- A `cancel` whose event is not there. -/
theorem cancel_fresh {command : DelegatedRunCancelCommand}
    (hev : db.events.get? command.eventId = none) (h : (cancel command gen).run db = (.ok r, db')) :
    r.duplicate = false ∧ ∃ row run turn planRow,
      RunFound command db row run ∧
      TurnFound command db turn ∧
      PlanConcluded .cancelled run command.eventId
        (concludedAt command turn) db planRow ∧
      (∃ reply, runFromRow (concludeRun .cancelled command
          (concludedAt command turn) row) = .ok reply ∧
        r.run = some reply) ∧
      r.turn = some (concludeTurn .cancelled
        (concludedAt command turn) turn) ∧
      db.Fresh (cancelChanges command gen row run turn planRow) ∧
      db' = db.apply (cancelChanges command gen row run turn planRow) := by
  simp only [cancel, run_read, hev, run_lockRow] at h
  obtain ⟨run?, hrow, h⟩ := attempt_ok h
  obtain ⟨run, hrun, h⟩ := attempt_ok h
  obtain ⟨row, hfound, -⟩ := runFound_of hrow hrun
  simp only [run_lockRow] at h
  obtain ⟨turn?, hturnRow, h⟩ := attempt_ok h
  obtain ⟨turn, hturn, h⟩ := attempt_ok h
  have ht := turnFound_of hturnRow hturn
  rw [hfound.get, ht.get] at h
  obtain ⟨planRow, hplan, h⟩ := concludePlanStep_ok h
  obtain ⟨replyRun, hreply, h⟩ := attempt_ok h
  rcases commit_ok h with ⟨hc, rfl⟩ | ⟨-, h⟩
  · obtain ⟨hfresh, rfl⟩ := Database.commit_eq_some.1 hc
    exact ⟨rfl, row, run, turn, planRow, hfound, ht, hplan, ⟨replyRun, hreply, rfl⟩, rfl,
      hfresh, rfl⟩
  · cases h

theorem cancel_ok {command : DelegatedRunCancelCommand}
    (h : (cancel command gen).run db = (.ok r, db')) :
    (r.duplicate = true ∧ db' = db) ∨
      (r.duplicate = false ∧ ∃ row run turn planRow,
        RunFound command db row run ∧
        TurnFound command db turn ∧
        PlanConcluded .cancelled run command.eventId
          (concludedAt command turn) db planRow ∧
        db.Fresh (cancelChanges command gen row run turn planRow) ∧
        db' = db.apply (cancelChanges command gen row run turn planRow)) := by
  cases hev : db.events.get? command.eventId with
  | none =>
    obtain ⟨hd, row, run, turn, planRow, hfound, ht, hplan, -, -, hfresh, hdb⟩ := cancel_fresh hev h
    exact .inr ⟨hd, row, run, turn, planRow, hfound, ht, hplan, hfresh, hdb⟩
  | some existing =>
    simp only [cancel, run_read, hev] at h
    obtain ⟨u, -, h⟩ := attempt_ok h
    simp only [run_read] at h
    split at h
    · obtain ⟨_, -, h⟩ := attempt_ok h
      obtain ⟨_, -, h⟩ := attempt_ok h
      obtain ⟨_, -, h⟩ := attempt_ok h
      cases h
      exact .inl ⟨rfl, rfl⟩
    · exact absurd h raise_not_ok

/-- What an accepted `timeout` commits. -/
def timeoutChanges (command : DelegatedRunTimeoutCommand) (gen : Generated) (row run : AgentRun)
    (turn : CanonicalTurn) (planRow : Option PlanModel) : Changes :=
  let timeoutAt := concludedAt command turn
  terminalChanges (concludeRun .timedOut command timeoutAt row)
    (concludeTurn .timedOut timeoutAt turn) planRow
    (terminalEvent run command command.runId .agentError .timedOut
      [("reason", .str command.reason)] command.occurredAt)
    (turnOutbox gen.hex "turn.timed_out" command.turnId
      [("turn_id", .str command.turnId), ("run_id", .str command.runId)] command.occurredAt)

/-- The turn of an accepted `timeout` is looked up, and its owner compared. -/
structure TurnOwned (command : DelegatedRunEventCommand) (db : Database) (turn : CanonicalTurn) :
    Prop where
  get : db.turns.get? command.turnId = some turn
  tenant : turn.tenantId = command.tenantId
  user : turn.userId = command.userId

theorem timeout_ok {command : DelegatedRunTimeoutCommand}
    (h : (timeout command gen).run db = (.ok r, db')) :
    (r.duplicate = true ∧ db' = db) ∨
      (r.duplicate = false ∧ ∃ row run turn planRow,
        RunFound command db row run ∧
        TurnOwned command db turn ∧
        PlanConcluded .failed run command.eventId command.occurredAt db planRow ∧
        db.Fresh (timeoutChanges command gen row run turn planRow) ∧
        db' = db.apply (timeoutChanges command gen row run turn planRow)) := by
  simp only [timeout, run_read] at h
  split at h
  · simp only [run_read] at h
    obtain ⟨_, -, h⟩ := attempt_ok h
    obtain ⟨_, -, h⟩ := attempt_ok h
    cases h
    exact .inl ⟨rfl, rfl⟩
  · simp only [run_lockRow] at h
    obtain ⟨run?, hrow, h⟩ := attempt_ok h
    obtain ⟨run, hrun, h⟩ := attempt_ok h
    obtain ⟨row, hfound, -⟩ := runFound_of hrow hrun
    simp only [run_lockRow] at h
    split at h
    · exact absurd h raise_not_ok
    · next turn ht =>
      simp only [Option.filter_eq_some_iff, Bool.and_eq_true, decide_eq_true_eq] at ht
      rw [hfound.get] at h
      obtain ⟨planRow, hplan, h⟩ := concludePlanStep_ok h
      obtain ⟨replyRun, -, h⟩ := attempt_ok h
      rcases commit_ok h with ⟨hc, rfl⟩ | ⟨-, h⟩
      · obtain ⟨hfresh, rfl⟩ := Database.commit_eq_some.1 hc
        exact .inr ⟨rfl, row, run, turn, planRow, hfound, ⟨ht.1, ht.2.1, ht.2.2⟩, hplan, hfresh, rfl⟩
      · cases h

/-- What an accepted `progress` commits. -/
def progressChanges (command : DelegatedRunProgressCommand) (row run : AgentRun)
    (planRow : Option PlanModel) : Changes :=
  { run := progressRun command row, plan := planRow, event := progressEvent run command }

/-- A `progress` whose event is not there. -/
theorem progress_fresh {command : DelegatedRunProgressCommand}
    (hev : db.events.get? command.eventId = none) (h : (progress command).run db = (.ok r, db')) :
    r.duplicate = false ∧ ∃ row run planRow,
      RunFound command db row run ∧
      run.eventSequence < command.sequence ∧ Clarified command db planRow ∧
      (∃ reply, runFromRow (progressRun command row) = .ok reply ∧ r.run = some reply) ∧
      db.Fresh (progressChanges command row run planRow) ∧
      db' = db.apply (progressChanges command row run planRow) := by
  obtain ⟨u, -, h⟩ := attempt_ok h
  simp only [run_read, hev, run_lockRow] at h
  obtain ⟨run?, hrow, h⟩ := attempt_ok h
  obtain ⟨run, hrun, h⟩ := attempt_ok h
  obtain ⟨row, hfound, hseq⟩ := runFound_of hrow hrun
  rw [hfound.get] at h
  obtain ⟨planRow, hplan, h⟩ := projectClarification_ok h
  obtain ⟨reply, hreply, h⟩ := attempt_ok h
  rcases commit_ok h with ⟨hc, rfl⟩ | ⟨-, h⟩
  · obtain ⟨hfresh, rfl⟩ := Database.commit_eq_some.1 hc
    refine ⟨rfl, row, run, planRow, hfound, ?_, hplan, ⟨reply, hreply, rfl⟩, hfresh, rfl⟩
    simpa using hseq
  · cases h

theorem progress_ok {command : DelegatedRunProgressCommand}
    (h : (progress command).run db = (.ok r, db')) :
    (r.duplicate = true ∧ db' = db) ∨
      (r.duplicate = false ∧ ∃ row run planRow,
        RunFound command db row run ∧
        run.eventSequence < command.sequence ∧ Clarified command db planRow ∧
        db.Fresh (progressChanges command row run planRow) ∧
        db' = db.apply (progressChanges command row run planRow)) := by
  cases hev : db.events.get? command.eventId with
  | none =>
    obtain ⟨hd, row, run, planRow, hfound, hseq, hplan, -, hfresh, hdb⟩ := progress_fresh hev h
    exact .inr ⟨hd, row, run, planRow, hfound, hseq, hplan, hfresh, hdb⟩
  | some existing =>
    obtain ⟨u, -, h⟩ := attempt_ok h
    simp only [run_read, hev] at h
    obtain ⟨u, -, h⟩ := attempt_ok h
    simp only [run_read] at h
    split at h
    · cases h
    · obtain ⟨_, -, h⟩ := attempt_ok h
      cases h
      exact .inl ⟨rfl, rfl⟩

/-- A `complete` whose event is not there. -/
theorem complete_fresh (hev : db.events.get? command.eventId = none)
    (h : (complete command gen).run db = (.ok r, db')) :
    r.duplicate = false ∧ ∃ row run turn plan bundle planRow, r = completeReply bundle ∧
      RunFound command db row run ∧
      db.turns.get? command.turnId = some turn ∧ turn.Valid ∧
      PlanRead command db plan ∧ BundleOf command run turn plan gen.hex bundle ∧
      validateBundle bundle = .ok () ∧ PlanApplied db bundle.plan planRow ∧
      db.Fresh (bundleChanges bundle turn row planRow) ∧
      db' = db.apply (bundleChanges bundle turn row planRow) := by
  simp only [complete, completeDuplicate, run_read, hev, completeFresh, Prog.run_select] at h
  obtain ⟨run?, hrow, h⟩ := attempt_ok h
  obtain ⟨run, hrun, h⟩ := attempt_ok h
  obtain ⟨row, hfound, -⟩ := runFound_of hrow hrun
  split at h
  · exact absurd h raise_not_ok
  · next turn ht =>
    obtain ⟨turn', hturn, h⟩ := attempt_ok h
    rw [CanonicalTurn.validate_eq hturn] at h hturn
    obtain ⟨plan, hplan, h⟩ := readPlan_ok h
    obtain ⟨bundle, hb, h⟩ := attempt_ok h
    have hbundle := bundleOf hb
    obtain ⟨u, hval, h⟩ := attempt_ok h
    simp only [run_lockRow, Prog.run_lock] at h
    obtain ⟨rows, hcheck, h⟩ := attempt_ok h
    have hrunId : bundle.run.runId = command.runId := by
      rw [hbundle.run_eq]
      exact hfound.runId
    have hturnId : bundle.turn.turnId = command.turnId := by
      have hkey : turn.turnId = command.turnId := Table.key_of_get? ht
      rw [hbundle.turn_eq]
      exact hkey
    rw [hrunId, hturnId, hfound.get, ht] at hcheck
    simp only [coordinatorCheck] at hcheck
    split at hcheck
    · cases hcheck
    · cases hcheck
      obtain ⟨planRow, hpl, h⟩ := lockPlan_ok h
      rcases commit_ok h with ⟨hc, rfl⟩ | ⟨-, h⟩
      · obtain ⟨hfresh, rfl⟩ := Database.commit_eq_some.1 hc
        exact ⟨rfl, row, run, turn, plan, bundle, planRow, rfl, hfound, ht,
          CanonicalTurn.valid_of_validate hturn, hplan, hbundle, hval, hpl, hfresh, rfl⟩
      · simp only [run_read, hev] at h
        cases h

theorem complete_ok (h : (complete command gen).run db = (.ok r, db')) :
    (r.duplicate = true ∧ db' = db) ∨
      (r.duplicate = false ∧ ∃ row run turn plan bundle planRow,
        RunFound command db row run ∧
        db.turns.get? command.turnId = some turn ∧ turn.Valid ∧
        PlanRead command db plan ∧ BundleOf command run turn plan gen.hex bundle ∧
        validateBundle bundle = .ok () ∧ PlanApplied db bundle.plan planRow ∧
        db.Fresh (bundleChanges bundle turn row planRow) ∧
        db' = db.apply (bundleChanges bundle turn row planRow)) := by
  rcases completeDuplicate_ok h with ⟨hev, -⟩ | hdup
  · obtain ⟨hd, row, run, turn, plan, bundle, planRow, -, hrest⟩ := complete_fresh hev h
    exact .inr ⟨hd, row, run, turn, plan, bundle, planRow, hrest⟩
  · exact .inl hdup

/-- What an accepted `start` commits. -/
def startChanges (values : AgentRun) (turn updated : CanonicalTurn) : Changes :=
  { newRun := values, turn := applyTurnRow turn updated }

structure TurnStartable (command : DelegatedRunStartCommand) (db : Database)
    (turn : CanonicalTurn) : Prop where
  get : db.turns.get? command.turnId = some turn
  valid : turn.Valid
  tenant : turn.tenantId = command.tenantId
  user : turn.userId = command.userId
  open_ : turn.status.isTerminal = false

theorem start_ok {command : DelegatedRunStartCommand} {runId delegationKey : String}
    (h : (start command runId delegationKey gen).run db = (.ok r, db')) :
    (r.duplicate = true ∧ db' = db) ∨
      (r.duplicate = false ∧ ∃ turn run values updated,
        TurnStartable command db turn ∧ StepActive command db ∧
        newRun command runId delegationKey gen.now = .ok run ∧ run.validate = .ok values ∧
        attachRun turn run gen.attachedAt = .ok updated ∧
        db.runOfDelegationKey delegationKey = none ∧
        db.Fresh (startChanges values turn updated) ∧
        db' = db.apply (startChanges values turn updated)) := by
  simp only [start, run_read] at h
  split at h
  · exact .inl ⟨startDuplicate_ok h, (readOnly_startDuplicate _).run_ok h⟩
  · next hkey =>
    simp only [run_lockRow] at h
    obtain ⟨turn?, hturnRow, h⟩ := attempt_ok h
    obtain ⟨turn, hturn, h⟩ := attempt_ok h
    obtain ⟨hsome, ht, hu, ho⟩ := validateStartTurn_ok.1 hturn
    rw [hsome] at hturnRow
    obtain ⟨hget, hvalid⟩ := turn_of_mapM hturnRow
    rw [hget] at h
    obtain ⟨hstep, h⟩ := validatePlanStep_ok h
    obtain ⟨run, hrun, h⟩ := attempt_ok h
    obtain ⟨values, hvalues, h⟩ := attempt_ok h
    obtain ⟨updated, hupdated, h⟩ := attempt_ok h
    rcases commit_ok h with ⟨hc, rfl⟩ | ⟨-, h⟩
    · obtain ⟨hfresh, rfl⟩ := Database.commit_eq_some.1 hc
      exact .inr ⟨rfl, turn, run, values, updated, ⟨hget, hvalid, ht, hu, ho.2.2⟩, hstep, hrun,
        hvalues, hupdated, hkey, hfresh, rfl⟩
    · simp only [run_read, hkey] at h
      cases h

end OpenIntentRouter.DelegatedRuns.Db
