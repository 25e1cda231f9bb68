import OpenIntentRouter.Plans.ExecutionKeys

/-!
# The order of plan writes

`claim_step`, `save_if_version`, `save_claimed_step`, `cancel_unstarted` and
`renew_step_claim` calls, one statement at a time, against the same calls one
after another. The saves compare a version or a claim and a cancellation locks
the row, so each writes what it would write alone. `claim_step` writes the JSON
metadata and tests the step statuses of its first `SELECT`
(`claim_reverts_last_event`).

* `UpToDate`: what it has selected still fits the row it overwrites;
* `Writes.replay`: then a commit does what the call does alone;
* `plan_writes_serializable`: the calls in the order of their commits give the
  same plans.
-/
namespace OpenIntentRouter.Plans.WriteOrder

open Core Schemas Repositories Repositories.PlanDb

/-! ## The calls as updates of one row -/

structure RowUpdate where
  planId : String
  guard : PlanModel → Bool
  change : PlanModel → PlanModel

def cancellable (tenantId userId : String) (activeRun : Bool) (now : Instant) (row : PlanModel) :
    Bool :=
  row.tenantId = tenantId && row.userId = userId && !activeRun &&
  (planFromRows row row.steps).toOption.any
    (fun plan => plan.status.isActive && !plan.steps.any (·.status = .running)) &&
  (planFromRows (cancelledRow now row) (cancelledRow now row).steps).toOption.isSome

/-- What a call other than `claim_step` does to its row. -/
def update? : PlanDb.Call → Option RowUpdate
  | .claimStep _ => none
  | .saveClaimedStep plan stepId claimId =>
    some ⟨plan.planId, claimedBy plan stepId claimId, finishedRow plan⟩
  | .saveIfVersion plan expectedVersion =>
    some ⟨plan.planId, atVersion plan expectedVersion, savedRow plan⟩
  | .renewStepClaim planId tenantId userId claimId leaseExpiresAt now stamp =>
    some ⟨planId, renewable tenantId userId claimId now, renewedRow leaseExpiresAt stamp⟩
  | .cancelUnstarted planId tenantId userId activeRun now =>
    some ⟨planId, cancellable tenantId userId activeRun now, cancelledRow now⟩

variable {call : PlanDb.Call} {u : RowUpdate} {d ds : PlanTables} {planId tenantId userId : String}
  {old : PlanModel} {request : ClaimRequest} {done refused : PlanProg} {activeRun : Bool}
  {now : Instant} {guard : PlanModel → Bool} {change : PlanModel → PlanModel}

theorem update_keeps (hu : update? call = some u) (row : PlanModel) :
    (u.change row).planId = row.planId ∧
      (u.change row).tenantId = row.tenantId ∧ (u.change row).userId = row.userId := by
  cases call <;> simp only [update?, reduceCtorEq, Option.some.injEq] at hu <;> subst hu
  · exact ⟨rfl, rfl, rfl⟩
  · dsimp only
    unfold savedRow
    split <;> exact ⟨rfl, rfl, rfl⟩
  · exact ⟨rfl, rfl, rfl⟩
  · exact ⟨rfl, rfl, rfl⟩

/-! ## Rows that show the same plan -/

/-- The row without what no plan shows and no call but the next claim's key
depends on: attempt, key and the version noted in the metadata. -/
def shown (row : PlanModel) : PlanModel :=
  { row with
    executionAttempt := 0
    executionClaimKey := none
    originalQuery := { row.originalQuery with stateVersion := none } }

theorem update_shown (hu : update? call = some u) (row : PlanModel) :
    u.guard (shown row) = u.guard row ∧ shown (u.change (shown row)) = shown (u.change row) := by
  cases call <;> simp only [update?, reduceCtorEq, Option.some.injEq] at hu <;> subst hu
  · exact ⟨rfl, rfl⟩
  · refine ⟨rfl, ?_⟩
    dsimp only
    unfold savedRow
    split <;> rfl
  · exact ⟨rfl, rfl⟩
  · exact ⟨rfl, rfl⟩

def readPlan (d : PlanTables) (planId : String) : Option (Except StoreError Plan) :=
  (d.plans.get? planId).map fun row => planFromRows row row.steps

def Alike (d ds : PlanTables) : Prop :=
  ∀ planId, (d.plans.get? planId).map shown = (ds.plans.get? planId).map shown

theorem Alike.readPlan (h : Alike d ds) (planId : String) :
    readPlan d planId = readPlan ds planId := by
  have hshown : ∀ d : PlanTables, WriteOrder.readPlan d planId =
      ((d.plans.get? planId).map shown).map fun row => planFromRows row row.steps := by
    intro d
    rw [Option.map_map]
    rfl
  rw [hshown, hshown, h]

theorem Alike.get (h : Alike d ds) {row : PlanModel} (hget : d.plans.get? planId = some row) :
    ∃ old, ds.plans.get? planId = some old ∧ shown old = shown row := by
  have hmap := h planId
  rw [hget] at hmap
  exact Option.map_eq_some_iff.1 hmap.symm

theorem Alike.put (h : Alike d ds) {new : PlanModel} (hrow : shown new = shown old)
    {grants grants' : List Grant} :
    Alike ⟨d.plans.put new, grants⟩ ⟨ds.plans.put old, grants'⟩ := by
  intro planId
  have hid : (shown new).planId = (shown old).planId := by rw [hrow]
  have hid : new.planId = old.planId := hid
  simp only [Table.get?_put, hid]
  split
  · exact congrArg some hrow
  · exact h planId

/-! ## What a call commits -/

/-- What `claim_step` has selected still fits the row: the metadata that it
keeps, and the steps it may set running. -/
def UpToDate (digest : String → String) (request : ClaimRequest) (decision : Decision)
    (row : PlanModel) : Prop :=
  row.originalQuery.executionPolicy = decision.metadata.executionPolicy ∧
  row.originalQuery.lastEventId = decision.metadata.lastEventId ∧
  claimedSteps request decision.allowed row.steps =
    claimedSteps request (decideClaim digest request row).allowed row.steps

instance (digest : String → String) (request : ClaimRequest) (decision : Decision)
    (row : PlanModel) : Decidable (UpToDate digest request decision row) :=
  inferInstanceAs (Decidable (_ ∧ _ ∧ _))

/-- When the two `UPDATE`s of a `claim_step` match, what it has selected is up
to date. -/
def NotStale (digest : String → String) : Site → PlanTables → Prop
  | .statement, _ => True
  | .claimUpdates request decision, d => ∀ row ∈ d.plans.get? request.planId,
      unclaimed request row = true →
      (claimedSteps request decision.allowed row.steps).length = 1 →
      UpToDate digest request decision row

instance (digest : String → String) (site : Site) (d : PlanTables) :
    Decidable (NotStale digest site d) :=
  match site with
  | .statement => .isTrue trivial
  | .claimUpdates request decision => inferInstanceAs (Decidable (∀ row ∈ d.plans.get? request.planId,
      unclaimed request row = true →
      (claimedSteps request decision.allowed row.steps).length = 1 →
      UpToDate digest request decision row))

/-- What a commit of a call that holds the locks `h` writes. -/
inductive Writes (digest : String → String) :
    PlanDb.Call → Set Row → PlanTables → PlanTables → Prop where
  | granted {request : ClaimRequest} {decision : Decision} {row : PlanModel} {h : Set Row}
      {d : PlanTables} :
    Row.plan request.planId ∈ h → d.plans.get? request.planId = some row →
    unclaimed request row = true → UpToDate digest request decision row →
    (claimedSteps request decision.allowed row.steps).length = 1 →
    decision.metadata.nextAction = none → decision.metadata.formationEventType = some "update" →
    Writes digest (.claimStep request) h d
      { plans := d.plans.put (claimedRow request decision row)
        grants := grantOf request decision row :: d.grants }
  | updated {call : PlanDb.Call} {u : RowUpdate} {row : PlanModel} {h : Set Row}
      {d : PlanTables} :
    update? call = some u → Row.plan u.planId ∈ h → d.plans.get? u.planId = some row →
    u.guard row = true →
    Writes digest call h d { d with plans := d.plans.put (u.change row) }

/-! ## The calls alone -/

section Alone

variable {digest : String → String} {d : PlanTables} {row : PlanModel}

theorem get_alone (planId tenantId userId : String) :
    ((PlanDb.get planId tenantId userId).run d).2 = d := by
  simp only [PlanDb.get, PlanDb.read, Prog.run_select]
  split
  · rfl
  · simp only [Prog.run_select]
    split <;> rfl

theorem claimStep_alone (hget : d.plans.get? request.planId = some row)
    (hfree : unclaimed request row = true)
    (hone : (claimedSteps request (decideClaim digest request row).allowed row.steps).length = 1) :
    (PlanDb.claimStep digest request).commits d = true ∧
    ((PlanDb.claimStep digest request).run d).2 =
      { plans := d.plans.put (claimedRow request (decideClaim digest request row) row)
        grants := grantOf request (decideClaim digest request row) row :: d.grants } := by
  have hfree' := hfree
  simp only [unclaimed, Bool.and_eq_true, decide_eq_true_eq] at hfree'
  have hselected : (ownedRow d request.planId request.tenantId request.userId).filter
      (·.status.isActive) = some row := by
    simp [ownedRow, hget, hfree'.1.1.1, hfree'.1.1.2, hfree'.1.2]
  have hread : ((d.plans.get? request.planId).map (·.steps)).getD [] = row.steps := by
    rw [hget]
    rfl
  have hfound : (d.plans.get? request.planId).filter (unclaimed request) = some row := by
    rw [hget, Option.filter_some, if_pos hfree]
  have hsteps : claimedSteps request (decideClaim digest request row).allowed row.steps ≠ [] := by
    intro hnil
    rw [hnil] at hone
    cases hone
  constructor
  · simp only [PlanDb.claimStep, PlanDb.read, Prog.commits, hselected, hread, hsteps, if_false,
      hfound, hone, ne_eq, not_true_eq_false, Option.isSome_some, Bool.true_or]
  · rw [claimStep_run hget, if_pos ⟨hfree, hone⟩]
    exact get_alone ..

theorem updateRow_alone (hget : d.plans.get? planId = some row) (hguard : guard row = true)
    (hdone : ∀ d, (done.run d).2 = d) :
    (updateRow planId guard change done refused).commits d = true ∧
    ((updateRow planId guard change done refused).run d).2 =
      { d with plans := d.plans.put (change row) } := by
  have hfound : (d.plans.get? planId).filter guard = some row := by
    rw [hget, Option.filter_some, if_pos hguard]
  constructor
  · simp only [updateRow, Prog.commits, hfound, Option.isSome_some, Bool.true_or]
  · simp only [updateRow_run, hfound]
    exact hdone _

/-- What a cancellation that is carried out has checked. -/
theorem cancellable_iff :
    cancellable tenantId userId activeRun now row = true ↔
      (row.tenantId = tenantId ∧ row.userId = userId) ∧ activeRun = false ∧
      (∃ plan, planFromRows row row.steps = .ok plan ∧ plan.status.isActive = true ∧
        plan.steps.any (·.status = .running) = false) ∧
      ∃ cancelled, planFromRows (cancelledRow now row) (cancelledRow now row).steps =
        .ok cancelled := by
  simp only [cancellable, Bool.and_eq_true, decide_eq_true_eq, Bool.not_eq_true']
  cases planFromRows row row.steps <;>
    cases planFromRows (cancelledRow now row) (cancelledRow now row).steps <;>
    simp [Except.toOption, and_assoc]

theorem cancelUnstarted_alone (hget : d.plans.get? planId = some row)
    (hguard : cancellable tenantId userId activeRun now row = true) :
    (PlanDb.cancelUnstarted planId tenantId userId activeRun now).commits d = true ∧
    ((PlanDb.cancelUnstarted planId tenantId userId activeRun now).run d).2 =
      { d with plans := d.plans.put (cancelledRow now row) } := by
  obtain ⟨⟨htenant, huser⟩, hrun, ⟨plan, hplan, hactive, hsteps⟩, cancelled, hcancelled⟩ :=
    cancellable_iff.1 hguard
  have howned : ownedRow d planId tenantId userId = some row := by
    simp [ownedRow, hget, htenant, huser]
  have hopen : plan.status ≠ .cancelled ∧ plan.status ≠ .completed ∧ plan.status ≠ .failed := by
    cases hs : plan.status <;> simp_all [PlanStatus.isActive]
  constructor <;>
    simp only [PlanDb.cancelUnstarted, Prog.commits, Prog.run_lock, howned, hplan, hopen, hrun, hsteps,
      hcancelled, if_false, decide_false, Bool.or_self, Bool.false_eq_true, Prog.run_commit,
      Prog.run_ret, Option.isSome_some, Bool.true_or]

theorem update_alone (hu : update? call = some u) (hget : d.plans.get? u.planId = some row)
    (hguard : u.guard row = true) :
    (PlanDb.prog digest call).commits d = true ∧
    ((PlanDb.prog digest call).run d).2 = { d with plans := d.plans.put (u.change row) } := by
  cases call with
  | claimStep request => cases hu
  | saveClaimedStep plan stepId claimId =>
    cases hu
    exact updateRow_alone hget hguard fun _ => get_alone ..
  | saveIfVersion plan version =>
    cases hu
    exact updateRow_alone hget hguard fun _ => rfl
  | renewStepClaim planId tenantId userId claimId lease now stamp =>
    cases hu
    exact updateRow_alone hget hguard fun _ => rfl
  | cancelUnstarted planId tenantId userId activeRun now =>
    cases hu
    exact cancelUnstarted_alone hget hguard

end Alone

/-! ## A commit does what the call does alone -/

section Replay

variable {digest : String → String}

theorem mem_claimedSteps {allowed : List PlanStepStatus} {steps : List PlanStep} {step : PlanStep}
    (hs : step ∈ steps) :
    step ∈ claimedSteps request allowed steps ↔
      (step.stepId = request.stepId && step.status ∈ allowed) = true := by
  simp [claimedSteps, hs]

/-- Two decisions that keep the same metadata and match the same steps write the
same row, as far as it shows. -/
theorem shown_claimedRow {a b : Decision} {row : PlanModel} (hrow : shown old = shown row)
    (hsteps : claimedSteps request a.allowed row.steps = claimedSteps request b.allowed row.steps)
    (hmeta : { a.metadata with stateVersion := none } =
      ({ b.metadata with stateVersion := none } : PlanMetadata)) :
    shown (claimedRow request a row) = shown (claimedRow request b old) := by
  have hmap : (row.steps.map fun step =>
      if step.stepId = request.stepId && step.status ∈ a.allowed then
        { step with status := PlanStatus.running } else step) =
      row.steps.map fun step =>
        if step.stepId = request.stepId && step.status ∈ b.allowed then
          { step with status := PlanStatus.running } else step := by
    refine List.map_congr_left fun step hs => ?_
    have hsame : (step.stepId = request.stepId && step.status ∈ a.allowed) =
        (step.stepId = request.stepId && step.status ∈ b.allowed) := by
      rw [Bool.eq_iff_iff, ← mem_claimedSteps hs, ← mem_claimedSteps hs, hsteps]
    rw [hsame]
  have hold : shown (claimedRow request b old) = shown (claimedRow request b row) := by
    have hblind : ∀ row, shown (claimedRow request b row) =
        { claimedRow request b (shown row) with
          executionAttempt := 0
          executionClaimKey := none
          originalQuery := { b.metadata with stateVersion := none } } := fun _ => rfl
    rw [hblind, hblind, hrow]
  rw [hold]
  simp only [shown, claimedRow, hmap, hmeta]

/-- The decision of a request looks at nothing hidden but the key. -/
theorem decideClaim_shown {request : ClaimRequest} {row old : PlanModel}
    (hrow : shown old = shown row) :
    (decideClaim digest request old).allowed = (decideClaim digest request row).allowed ∧
    ({ (decideClaim digest request old).metadata with stateVersion := none } : PlanMetadata) =
      { (decideClaim digest request row).metadata with stateVersion := none } := by
  have hallowed : ∀ row, (decideClaim digest request row).allowed =
      (decideClaim digest request (shown row)).allowed := fun _ => rfl
  have hmeta : ∀ row,
      ({ (decideClaim digest request row).metadata with stateVersion := none } : PlanMetadata) =
        (decideClaim digest request (shown row)).metadata := fun _ => rfl
  rw [hallowed, hallowed row, hmeta, hmeta row, hrow]
  exact ⟨rfl, rfl⟩

theorem unclaimed_shown {row : PlanModel} (hrow : shown old = shown row) :
    unclaimed request old = unclaimed request row := by
  have hblind : ∀ row, unclaimed request row = unclaimed request (shown row) := fun _ => rfl
  rw [hblind, hblind row, hrow]

/-- **Replay.** What a call commits on `d` it commits alone on tables that show
the same plans. -/
theorem Writes.replay {h : Set Row} {d' : PlanTables} (hw : Writes digest call h d d')
    (ha : Alike d ds) :
    (PlanDb.prog digest call).commits ds = true ∧
      Alike d' ((PlanDb.prog digest call).run ds).2 := by
  cases hw with
  | @updated _ u row _ _ hu _ hget hguard =>
    obtain ⟨old, hold, hrow⟩ := ha.get hget
    have hguard' : u.guard old = true := by
      rw [← (update_shown hu old).1, hrow, (update_shown hu row).1]
      exact hguard
    obtain ⟨hcommits, hrun⟩ :
        (PlanDb.prog digest call).commits ds = true ∧ _ := update_alone hu hold hguard'
    refine ⟨hcommits, ?_⟩
    rw [hrun]
    refine ha.put ?_
    rw [← (update_shown hu row).2, ← hrow, (update_shown hu old).2]
  | @granted request decision row _ _ _ hget hfree hfit hone hnext htype =>
    obtain ⟨old, hold, hrow⟩ := ha.get hget
    obtain ⟨hpolicy, hlast, hsteps⟩ := hfit
    have holdSteps : (shown old).steps = (shown row).steps := by rw [hrow]
    have holdSteps : old.steps = row.steps := holdSteps
    obtain ⟨hallowed, hmeta⟩ := @decideClaim_shown digest request _ _ hrow
    have hone' : (claimedSteps request (decideClaim digest request old).allowed old.steps).length =
        1 := by
      rw [holdSteps, hallowed, ← hsteps]
      exact hone
    obtain ⟨hcommits, hrun⟩ := claimStep_alone hold ((unclaimed_shown hrow).trans hfree) hone'
    refine ⟨hcommits, ?_⟩
    simp only [PlanDb.prog]
    rw [hrun]
    refine ha.put (shown_claimedRow hrow ?_ ?_)
    · rw [hallowed]
      exact hsteps
    · rw [hmeta]
      simp only [decideClaim, hpolicy, hlast, PlanMetadata.mk.injEq, true_and]
      exact ⟨hnext, htype⟩

end Replay

/-! ## The calls keep it -/

section Interleaving

variable {ι : Type} [DecidableEq ι] {digest : String → String} {calls : ι → PlanDb.Call} {i : ι}
  {h : Set Row} {d d' : PlanTables}

theorem Writes.row (hw : Writes digest call h d d') :
    ∃ row new, Row.plan row.planId ∈ h ∧ d.plans.get? row.planId = some row ∧
      d'.plans = d.plans.put new ∧ new.planId = row.planId ∧ new.tenantId = row.tenantId ∧
      new.userId = row.userId := by
  cases hw with
  | @granted request decision row _ _ hlock hget _ _ _ _ _ =>
    have hid : row.planId = request.planId := Table.key_of_get? hget
    exact ⟨row, _, hid ▸ hlock, hid ▸ hget, rfl, rfl, rfl, rfl⟩
  | @updated _ u row _ _ hu hlock hget _ =>
    have hid : row.planId = u.planId := Table.key_of_get? hget
    obtain ⟨hplan, htenant, huser⟩ := update_keeps hu row
    exact ⟨row, _, hid ▸ hlock, hid ▸ hget, rfl, hplan, htenant, huser⟩

theorem relies_plan (hk : Row.plan planId ∈ h)
    (hr : Relies (fun i => Writes digest (calls i)) i h d d') :
    d'.plans.get? planId = d.plans.get? planId := by
  refine hr.keeps (P := fun d' => d'.plans.get? planId = d.plans.get? planId) ?_ rfl
  intro j _ h' hdis d1 d2 hd hw
  obtain ⟨row, new, hlock, hget, hput, hid, -⟩ := hw.row
  rw [hput, Table.get?_put_ne, hd]
  rintro rfl
  exact Set.disjoint_left.1 hdis hk (hid ▸ hlock)

def Owned (planId tenantId userId : String) (d : PlanTables) : Prop :=
  ∃ row, d.plans.get? planId = some row ∧ row.tenantId = tenantId ∧ row.userId = userId

theorem Owned.ownedRow (ho : Owned planId tenantId userId d) :
    ∃ row, ownedRow d planId tenantId userId = some row := by
  obtain ⟨row, hget, htenant, huser⟩ := ho
  exact ⟨row, by simp [PlanDb.ownedRow, hget, htenant, huser]⟩

theorem relies_owned (ho : Owned planId tenantId userId d)
    (hr : Relies (fun i => Writes digest (calls i)) i h d d') :
    Owned planId tenantId userId d' := by
  refine hr.keeps (P := Owned planId tenantId userId) ?_ ho
  rintro j _ h' _ d1 d2 ⟨old, hold, htenant, huser⟩ hw
  obtain ⟨row, new, -, hget, hput, hid, ht, hu⟩ := hw.row
  unfold Owned
  rw [hput, Table.get?_put]
  split
  · next heq =>
    have hplan : row.planId = planId := hid.symm.trans heq
    rw [hplan] at hget
    cases hget.symm.trans hold
    exact ⟨new, rfl, ht.trans htenant, hu.trans huser⟩
  · exact ⟨old, hold, htenant, huser⟩

def Reports (com : Bool) (r : Except StoreError PlanDb.Reply) : Prop :=
  ∀ reply, r = .ok reply → reply.success = com

variable (digest calls) in
abbrev Keeps (i : ι) : Bool → Set Row → PlanProg → PlanTables → Prop :=
  Safe (fun i => Writes digest (calls i)) (NotStale digest) i fun com r _ => Reports com r

omit [DecidableEq ι] in
theorem keeps_ok {com : Bool} {reply : PlanDb.Reply} (hs : reply.success = com) :
    Keeps digest calls i com h (.ret (.ok reply)) d := by
  rintro _ _ _ ⟨⟩
  exact hs

omit [DecidableEq ι] in
theorem keeps_error {com : Bool} (e : StoreError) : Keeps digest calls i com h (.ret (.error e)) d := by
  rintro _ _ _ ⟨⟩

/-- The `get` after a commit. -/
theorem keeps_get (ho : Owned planId tenantId userId d) :
    Keeps digest calls i true h (PlanDb.get planId tenantId userId) d := by
  intro d1 hr1 _
  obtain ⟨row, hrow⟩ := (relies_owned ho hr1).ownedRow
  simp only [hrow]
  intro d2 _ _
  dsimp only
  split
  · exact keeps_ok rfl
  · exact keeps_error _

theorem keeps_updateRow (hu : update? (calls i) = some u)
    (hdone : ∀ (d : PlanTables) row, d.plans.get? u.planId = some row → u.guard row = true →
      Keeps digest calls i true ∅ done { d with plans := d.plans.put (u.change row) })
    (hrefused : ∀ d h, Keeps digest calls i false h refused d) :
    Keeps digest calls i false ∅ (updateRow u.planId u.guard u.change done refused) d := by
  intro d1 _ _
  dsimp only
  split
  · exact hrefused _ _
  · next row hrow =>
    obtain ⟨hget, hguard⟩ := Option.filter_eq_some_iff.1 hrow
    intro d2 hr2
    have hget2 := (relies_plan (.inl rfl) hr2).trans hget
    exact ⟨.updated hu (.inl rfl) hget2 hguard, hdone d2 row hget2 hguard⟩

theorem keeps_claimStep (hi : calls i = .claimStep request) :
    Keeps digest calls i false ∅ (PlanDb.claimStep digest request) d := by
  intro d1 _ _
  dsimp only
  split
  · exact keeps_ok rfl
  · next selected _ =>
    intro d2 _ _
    dsimp only
    split
    · exact keeps_ok rfl
    · intro d3 _ hsite
      dsimp only
      split
      · exact keeps_ok rfl
      · next row hrow =>
        obtain ⟨hget, hfree⟩ := Option.filter_eq_some_iff.1 hrow
        intro d4 hr4 _
        dsimp only
        split
        · exact keeps_ok rfl
        · next hone =>
          have hone : (claimedSteps request (decideClaim digest request selected).allowed
              row.steps).length = 1 := by simpa using hone
          intro d5 hr5
          have hheld := (relies_plan (.inl rfl) hr4).trans hget
          have hget5 := (relies_plan (.inr (.inl rfl)) hr5).trans hheld
          have hid : row.planId = request.planId := Table.key_of_get? hget
          constructor
          · dsimp only
            rw [hi]
            exact .granted (.inr (.inl rfl)) hget5 hfree (hsite row hget hfree hone) hone rfl rfl
          · refine keeps_get ⟨claimedRow request (decideClaim digest request selected) row, ?_, ?_⟩
            · rw [← hid]
              exact Table.get?_put_self _ (claimedRow request _ row)
            · simp only [unclaimed, Bool.and_eq_true, decide_eq_true_eq] at hfree
              exact hfree.1.1

theorem keeps_cancelUnstarted (hi : calls i = .cancelUnstarted planId tenantId userId activeRun now) :
    Keeps digest calls i false ∅ (PlanDb.cancelUnstarted planId tenantId userId activeRun now) d := by
  intro d1 _ _
  dsimp only
  split
  · exact keeps_ok rfl
  next row hrow =>
  obtain ⟨hget, howner⟩ := Option.filter_eq_some_iff.1 hrow
  simp only [Bool.and_eq_true, decide_eq_true_eq] at howner
  split
  · exact keeps_error _
  next plan hplan =>
  split
  · exact keeps_ok rfl
  next hopen =>
  split
  · exact keeps_ok rfl
  next hended =>
  split
  · exact keeps_ok rfl
  next hidle =>
  split
  · exact keeps_error _
  next cancelled hcancelled =>
  intro d2 hr2
  refine ⟨?_, keeps_ok rfl⟩
  have hget2 := (relies_plan (.inl rfl) hr2).trans hget
  have hu : update? (calls i) = some
      ⟨planId, cancellable tenantId userId activeRun now, cancelledRow now⟩ := by
    rw [hi]
    rfl
  refine .updated hu (.inl rfl) hget2 (cancellable_iff.2 ⟨howner, ?_, ⟨plan, hplan, ?_, ?_⟩,
    cancelled, hcancelled⟩)
  · cases activeRun <;> simp_all
  · cases hs : plan.status <;> simp_all [PlanStatus.isActive]
  · simp only [Bool.or_eq_true, not_or, Bool.not_eq_true] at hidle
    exact hidle.2

theorem keeps_prog (i : ι) (d : PlanTables) :
    Keeps digest calls i false ∅ (PlanDb.prog digest (calls i)) d := by
  cases hi : calls i with
  | claimStep request => exact keeps_claimStep hi
  | cancelUnstarted planId tenantId userId activeRun now => exact keeps_cancelUnstarted hi
  | saveClaimedStep plan stepId claimId =>
    refine keeps_updateRow (u := ⟨plan.planId, claimedBy plan stepId claimId, finishedRow plan⟩)
      (by rw [hi]; rfl) (fun d row hget hguard => ?_) fun _ _ => keeps_ok rfl
    have hid : row.planId = plan.planId := Table.key_of_get? hget
    refine keeps_get ⟨finishedRow plan row, ?_, ?_⟩
    · rw [← hid]
      exact Table.get?_put_self _ (finishedRow plan row)
    · simp only [claimedBy, Bool.and_eq_true, decide_eq_true_eq] at hguard
      exact hguard.1.1.1.1
  | saveIfVersion plan version =>
    exact keeps_updateRow (u := ⟨plan.planId, atVersion plan version, savedRow plan⟩)
      (by rw [hi]; rfl) (fun _ _ _ _ => keeps_ok rfl) fun _ _ => keeps_ok rfl
  | renewStepClaim planId tenantId userId claimId lease now stamp =>
    exact keeps_updateRow (u := ⟨planId, renewable tenantId userId claimId now,
        renewedRow lease stamp⟩)
      (by rw [hi]; rfl) (fun _ _ _ _ => keeps_ok rfl) fun _ _ => keeps_ok rfl

end Interleaving

/-! ## Runs -/

section Runs

variable {ι : Type} [DecidableEq ι] (digest : String → String) (calls : ι → PlanDb.Call)

/-- The calls from `db`, in any order of their statements. -/
def workers (db : PlanTables) :
    LTS (Pool ι PlanTables Row Site (Except StoreError PlanDb.Reply)) (Pool.Label ι) :=
  Pool.system (.error .operationalError) db fun i => PlanDb.prog digest (calls i)

variable {digest calls}

theorem silent_get (planId tenantId userId : String) :
    (PlanDb.get planId tenantId userId).Silent := by
  intro d
  dsimp only
  split
  · trivial
  · intro d'
    dsimp only
    split <;> trivial

theorem once_updateRow (hdone : done.Silent) (hrefused : refused.Once) :
    (updateRow planId guard change done refused).Once := by
  intro d
  dsimp only
  split
  · exact hrefused
  · exact ⟨hdone, hrefused⟩

theorem once_prog (call : PlanDb.Call) : (PlanDb.prog digest call).Once := by
  cases call with
  | claimStep request =>
    intro d1
    dsimp only
    split
    · trivial
    intro d2
    dsimp only
    split
    · trivial
    intro d3
    dsimp only
    split
    · trivial
    intro d4
    dsimp only
    split
    · trivial
    exact ⟨silent_get _ _ _, trivial⟩
  | saveClaimedStep plan stepId claimId => exact once_updateRow (silent_get _ _ _) trivial
  | saveIfVersion plan version => exact once_updateRow trivial trivial
  | renewStepClaim planId tenantId userId claimId lease now stamp =>
    exact once_updateRow trivial trivial
  | cancelUnstarted planId tenantId userId activeRun now =>
    intro d
    dsimp only
    split
    · trivial
    split
    · trivial
    split
    · trivial
    split
    · trivial
    split
    · trivial
    split
    · trivial
    exact ⟨trivial, trivial⟩

variable {db : PlanTables} {p : Pool ι PlanTables Row Site (Except StoreError PlanDb.Reply)}

/-- **Plan writes are serializable.** If every granted `claim_step` is up to
date, the calls that commit, each once and each alone in the order of their
commits, commit too and lead to the same plans; and a call reports success
exactly if it has committed. -/
theorem plan_writes_serializable
    (hp : ((workers digest calls db).guarded (Pool.Meets (NotStale digest))).Reachable p) :
    p.commits.Nodup ∧
    (∃ d, serial (fun i => PlanDb.prog digest (calls i)) db p.commits = some d ∧
      ∀ planId, readPlan p.db planId = readPlan d planId) ∧
    ∀ i reply, p.proc i = .ret (.ok reply) → (reply.success = true ↔ i ∈ p.commits) := by
  have hab : ∀ (i : ι) com (d : PlanTables),
      Reports com (.error .operationalError : Except StoreError PlanDb.Reply) := by
    rintro _ _ _ _ ⟨⟩
  refine ⟨(Pool.reachable_once (fun i => once_prog (calls i)) hp.of_guarded).nodup, ?_, ?_⟩
  · have hserial : ∃ d, serial (fun i => PlanDb.prog digest (calls i)) db p.commits = some d ∧
        Alike p.db d := by
      refine Pool.reachable_keeps (G := fun i => Writes digest (calls i))
        (Q := fun _ com r _ => Reports com r)
        (P := fun d commits => ∃ ds,
          serial (fun i => PlanDb.prog digest (calls i)) db commits = some ds ∧ Alike d ds)
        hab (fun i => keeps_prog i db) ?_ ?_ hp
      · exact ⟨db, rfl, fun _ => rfl⟩
      · rintro i h d d' commits ⟨ds, hs, ha⟩ hw
        obtain ⟨hcommits, halike⟩ := hw.replay ha
        refine ⟨_, ?_, halike⟩
        simp only [serial, hs, Option.bind_some, hcommits, if_true]
    obtain ⟨d, hs, ha⟩ := hserial
    exact ⟨d, hs, ha.readPlan⟩
  · intro i reply hi
    have hq := Pool.reachable_reply (Q := fun _ com r _ => Reports com r) hab
      (fun i => keeps_prog i db) hp hi
    rw [hq reply rfl]
    exact decide_eq_true_iff

end Runs

/-! ## A stale claim -/

def eventPlan : Plan :=
  { pendingPlan with
    lastEventId := some "event"
    stateVersion := 2
    updatedAt := 1
    formationEventType := "update" }

def claimAndEvent : Bool → PlanDb.Call
  | true => .claimStep (Db.sampleRequest "one" "claim_1" 2)
  | false => .saveIfVersion eventPlan 1

def claimAndEventProgs (i : Bool) : PlanProg := PlanDb.prog sampleDigest (claimAndEvent i)

def succeeded : PlanProg → Bool
  | .ret (.ok reply) => reply.success
  | _ => false

def lastEvent (d : PlanTables) : Option (Option String) :=
  (readPlan d "plan").bind fun plan => plan.toOption.map (·.lastEventId)

/-- The claim has selected the plan; the event is saved; the claim is granted
and the event is gone. One after another, in whichever order both are granted,
it stays. -/
theorem claim_reverts_last_event :
    ∃ p, (workers sampleDigest claimAndEvent Db.twoStepTables).Reachable p ∧
      (∀ i, succeeded (p.proc i) = true) ∧ lastEvent p.db = some none ∧
      ∀ i d, serial claimAndEventProgs Db.twoStepTables [i, !i] = some d →
        lastEvent d = some (some "event") := by
  have hrun : (LTS.exec (Pool.next (.error .operationalError))
      (Pool.start Db.twoStepTables claimAndEventProgs)
      (List.replicate 2 (.stmt true) ++ List.replicate 2 (.stmt false) ++
        List.replicate 5 (.stmt true))).map
          (fun p => (decide (∀ i, succeeded (p.proc i) = true), lastEvent p.db)) =
      some (true, some none) := by
    decide
  have horders : ∀ i, (serial claimAndEventProgs Db.twoStepTables [i, !i]).all
      (fun d => lastEvent d = some (some "event")) = true := by
    decide
  simp only [Option.map_eq_some_iff, Prod.mk.injEq, decide_eq_true_eq] at hrun
  obtain ⟨p, hp, hsucceeded, hlast⟩ := hrun
  refine ⟨p, LTS.Reachable.exec (.init rfl) hp, hsucceeded, hlast, fun i d hd => ?_⟩
  have hall := horders i
  rw [hd, Option.all_some, decide_eq_true_eq] at hall
  exact hall

/-- The event is saved before the claim selects the plan. -/
theorem plan_writes_serializable_eventFirst :
    ∃ p, ((workers sampleDigest claimAndEvent Db.twoStepTables).guarded
        (Pool.Meets (NotStale sampleDigest))).Reachable p ∧
      p.commits = [true, false] ∧ lastEvent p.db = some (some "event") ∧
      ∃ d, serial (fun i => PlanDb.prog sampleDigest (claimAndEvent i)) Db.twoStepTables p.commits =
        some d ∧ ∀ planId, readPlan p.db planId = readPlan d planId := by
  have hrun : (LTS.execGuarded (Pool.next (.error .operationalError))
      (fun p l => decide (Pool.Meets (NotStale sampleDigest) p l))
      (Pool.start Db.twoStepTables claimAndEventProgs)
      (List.replicate 2 (.stmt false) ++ List.replicate 5 (.stmt true))).map
        (fun p => (p.commits, lastEvent p.db)) = some ([true, false], some (some "event")) := by
    decide
  simp only [Option.map_eq_some_iff, Prod.mk.injEq] at hrun
  obtain ⟨p, hp, hcommits, hlast⟩ := hrun
  have hreach : ((workers sampleDigest claimAndEvent Db.twoStepTables).guarded
      (Pool.Meets (NotStale sampleDigest))).Reachable p :=
    LTS.Reachable.execGuarded (fun _ _ => of_decide_eq_true) (.init rfl) hp
  exact ⟨p, hreach, hcommits, hlast, (plan_writes_serializable hreach).2.1⟩

end OpenIntentRouter.Plans.WriteOrder
