import OpenIntentRouter.Plans.StepClaims
import OpenIntentRouter.Repositories.DatabasePlans

/-!
# Execution keys

Any number of `claim_step`, `save_claimed_step`, `save_if_version` and
`renew_step_claim` calls, one statement at a time. A grant's key is made of
plan, step and attempt; attempts should grow with every grant that is not a
re-claim. `claim_step` takes the attempt from its first `SELECT`, and its
`UPDATE` does not ask whether the attempt is still that one, so a whole cycle of
another worker may fit between (`claim_cycle_reuses_key`).

* `executionIdentity_inj`: the text that is hashed determines step and attempt;
* `Unraced`: no cycle fits between;
* `keys_not_reused`: then attempts grow, and a key comes twice only to a re-claim.
-/
namespace OpenIntentRouter.Plans.Db

open Core Schemas Repositories Repositories.PlanDb

/-! ## The hashed text -/

theorem append_sep_inj {α : Type} {c : α} {xs ys zs ws : List α} (h : xs ++ c :: ys = zs ++ c :: ws)
    (hx : c ∉ xs) (hz : c ∉ zs) : xs = zs ∧ ys = ws := by
  induction xs generalizing zs with
  | nil =>
    cases zs with
    | nil => exact ⟨rfl, (List.cons.inj h).2⟩
    | cons z zs => exact absurd (List.cons.inj h).1 fun e => hz (e ▸ List.mem_cons_self)
  | cons x xs ih =>
    cases zs with
    | nil => exact absurd (List.cons.inj h).1.symm fun e => hx (e ▸ List.mem_cons_self)
    | cons z zs =>
      simp only [List.cons_append, List.cons.injEq] at h
      obtain ⟨rfl, h⟩ := h
      obtain ⟨rfl, rfl⟩ := ih h (fun hm => hx (List.mem_cons_of_mem _ hm))
        (fun hm => hz (List.mem_cons_of_mem _ hm))
      exact ⟨rfl, rfl⟩

theorem separator_notMem (n : Nat) : '\x1f' ∉ (toString n).toList := by
  intro hmem
  have hdigit : ('\x1f').isDigit = true := by
    refine Nat.isDigit_of_mem_toDigits (b := 10) (n := n) (by decide) (by decide) ?_
    simpa using hmem
  cases hdigit

/-- Plan and hashed text determine step and attempt, whatever the step id. -/
theorem executionIdentity_inj {planId stepId stepId' : String} {attempt attempt' : Nat}
    (h : executionIdentity planId stepId attempt = executionIdentity planId stepId' attempt') :
    stepId = stepId' ∧ attempt = attempt' := by
  have hlist := congrArg String.toList h
  simp only [executionIdentity, String.toList_append, List.append_assoc,
    List.append_cancel_left_eq] at hlist
  have hrev : (toString attempt).toList.reverse ++ '\x1f' :: stepId.toList.reverse =
      (toString attempt').toList.reverse ++ '\x1f' :: stepId'.toList.reverse := by
    simpa using congrArg List.reverse hlist
  obtain ⟨hattempt, hstep⟩ := append_sep_inj hrev (by simpa using separator_notMem attempt)
    (by simpa using separator_notMem attempt')
  refine ⟨String.toList_inj.1 (List.reverse_injective hstep), ?_⟩
  have hdigits : Nat.toDigits 10 attempt = Nat.toDigits 10 attempt' := by
    simpa using List.reverse_injective hattempt
  have hvalue := congrArg (Nat.ofDigitChars 10 · 0) hdigits
  simpa only [Nat.ofDigitChars_toDigits (by decide : 1 < 10) (by decide : 10 ≤ 10)] using hvalue

def CollisionFree (digest : String → String) (identities : List String) : Prop :=
  ∀ a ∈ identities, ∀ b ∈ identities,
    (digest a).toList.take 32 = (digest b).toList.take 32 → a = b

def grantIdentity (grant : Grant) : String :=
  executionIdentity grant.planId grant.stepId grant.attempt

/-! ## What a call commits -/

/-- What `claim_step` decided is what it would decide on the row it overwrites. -/
structure Fits (digest : String → String) (request : ClaimRequest) (decision : Decision)
    (row : PlanModel) : Prop where
  free : unclaimed request row = true
  again : decision.recovering = true → decision.attempt = row.executionAttempt ∧
    row.executionClaimStepId = some request.stepId ∧ row.executionClaimKey = some decision.key
  fresh : decision.recovering = false → decision.attempt = row.executionAttempt + 1 ∧
    decision.key = executionKey digest request.planId request.stepId decision.attempt

/-- A commit that holds the locks `h`. -/
inductive Commits (digest : String → String) (h : Set Row) (d : PlanTables) : PlanTables → Prop where
  | kept {planId : String} {row new : PlanModel} :
    Row.plan planId ∈ h → d.plans.get? planId = some row → new.planId = planId →
    new.executionAttempt = row.executionAttempt →
    (∀ key, new.executionClaimKey = some key → row.executionClaimKey = some key ∧
      new.executionClaimStepId = row.executionClaimStepId ∧
      new.executionClaimId.isSome = row.executionClaimId.isSome) →
    Commits digest h d { d with plans := d.plans.put new }
  | granted {request : ClaimRequest} {decision : Decision} {row : PlanModel} :
    Row.plan request.planId ∈ h → d.plans.get? request.planId = some row →
    Fits digest request decision row →
    Commits digest h d
      { plans := d.plans.put (claimedRow request decision row)
        grants := grantOf request decision row :: d.grants }

/-- When the two `UPDATE`s of a `claim_step` match, the row's attempt is the one
it has read, and, if it takes over an expired claim, that claim's step and key
are still in the row. -/
def Unraced : Site → PlanTables → Prop
  | .statement, _ => True
  | .claimUpdates request decision, d => ∀ row ∈ d.plans.get? request.planId,
      unclaimed request row = true →
      (claimedSteps request decision.allowed row.steps).length = 1 →
      row.executionAttempt = decision.readAttempt ∧
        (decision.recovering = true → row.executionClaimStepId = some request.stepId ∧
          row.executionClaimKey = some decision.key)

instance (site : Site) (d : PlanTables) : Decidable (Unraced site d) :=
  match site with
  | .statement => .isTrue trivial
  | .claimUpdates request decision => inferInstanceAs (Decidable (∀ row ∈ d.plans.get? request.planId,
      unclaimed request row = true →
      (claimedSteps request decision.allowed row.steps).length = 1 →
      row.executionAttempt = decision.readAttempt ∧
        (decision.recovering = true → row.executionClaimStepId = some request.stepId ∧
          row.executionClaimKey = some decision.key)))

theorem fits_decideClaim {digest : String → String} {request : ClaimRequest} {selected row : PlanModel}
    (hfree : unclaimed request row = true)
    (hattempt : row.executionAttempt = (decideClaim digest request selected).readAttempt)
    (hkey : (decideClaim digest request selected).recovering = true →
      row.executionClaimStepId = some request.stepId ∧
        row.executionClaimKey = some (decideClaim digest request selected).key) :
    Fits digest request (decideClaim digest request selected) row where
  free := hfree
  again := by
    intro hr
    refine ⟨?_, hkey hr⟩
    rw [hattempt]
    simp only [decideClaim] at hr ⊢
    rw [if_pos hr]
  fresh := by
    intro hr
    rw [hattempt]
    simp only [decideClaim] at hr ⊢
    simp [hr]

section Interleaving

variable {ι : Type} [DecidableEq ι] {digest : String → String} {i : ι} {h : Set Row}
  {d d' : PlanTables}

theorem relies_plan {planId : String} (hk : Row.plan planId ∈ h)
    (hr : Relies (fun (_ : ι) => Commits digest) i h d d') :
    d'.plans.get? planId = d.plans.get? planId := by
  refine hr.keeps (P := fun d' => d'.plans.get? planId = d.plans.get? planId) ?_ rfl
  intro j _ h' hdis d1 d2 hd hc
  rw [← hd]
  cases hc with
  | kept hlock _ hid _ _ =>
    rw [Table.get?_put_ne]
    rintro rfl
    exact Set.disjoint_left.1 hdis hk (hid ▸ hlock)
  | @granted request decision row hlock hget _ =>
    have hid : row.planId = request.planId := Table.key_of_get? hget
    rw [Table.get?_put_ne]
    rintro rfl
    have hsame : Row.plan row.planId ∈ h := hk
    rw [hid] at hsame
    exact Set.disjoint_left.1 hdis hsame hlock

/-! ## The calls keep it -/

variable (digest) in
abbrev Keeps (i : ι) : Bool → Set Row → PlanProg → PlanTables → Prop :=
  Safe (fun (_ : ι) => Commits digest) Unraced i fun _ _ _ => True

omit [DecidableEq ι] in
theorem keeps_ret {com : Bool} (r : Except StoreError PlanDb.Reply) :
    Keeps digest i com h (.ret r) d :=
  fun _ _ => trivial

omit [DecidableEq ι] in
theorem keeps_get {com : Bool} (planId tenantId userId : String) :
    Keeps digest i com h (PlanDb.get planId tenantId userId) d := by
  intro d1 _ _
  dsimp only
  split
  · exact keeps_ret _
  · intro d2 _ _
    dsimp only
    split
    · exact keeps_ret _
    · exact keeps_ret _

theorem keeps_updateRow {com : Bool} {planId : String} {guard : PlanModel → Bool}
    {change : PlanModel → PlanModel} {done refused : PlanProg}
    (hid : ∀ row, (change row).planId = row.planId)
    (hattempt : ∀ row, (change row).executionAttempt = row.executionAttempt)
    (hkey : ∀ row key, (change row).executionClaimKey = some key →
      row.executionClaimKey = some key ∧
      (change row).executionClaimStepId = row.executionClaimStepId ∧
      (change row).executionClaimId.isSome = row.executionClaimId.isSome)
    (hdone : ∀ d, Keeps digest i true ∅ done d) (hrefused : ∀ d h, Keeps digest i com h refused d) :
    Keeps digest i com ∅ (updateRow planId guard change done refused) d := by
  intro d1 _ _
  dsimp only
  split
  · exact hrefused _ _
  · next row hrow =>
    have hget := (Option.filter_eq_some_iff.1 hrow).1
    intro d2 hr2
    refine ⟨?_, hdone _⟩
    have hget2 := (relies_plan (.inl rfl) hr2).trans hget
    exact .kept (.inl rfl) hget2 ((hid row).trans (Table.key_of_get? hget)) (hattempt row) (hkey row)

theorem keeps_claimStep {com : Bool} {request : ClaimRequest} :
    Keeps digest i com ∅ (PlanDb.claimStep digest request) d := by
  intro d1 _ _
  dsimp only
  split
  · exact keeps_ret _
  · next selected _ =>
    intro d2 _ _
    dsimp only
    split
    · exact keeps_ret _
    · intro d3 _ hsite
      dsimp only
      split
      · exact keeps_ret _
      · next row hrow =>
        obtain ⟨hget, hfree⟩ := Option.filter_eq_some_iff.1 hrow
        intro d4 hr4 _
        dsimp only
        split
        · exact keeps_ret _
        · next hone =>
          have hone : (claimedSteps request (decideClaim digest request selected).allowed
              row.steps).length = 1 := by simpa using hone
          obtain ⟨hattempt, hkey⟩ := hsite row hget hfree hone
          intro d5 hr5
          refine ⟨?_, keeps_get request.planId request.tenantId request.userId⟩
          have hheld := (relies_plan (.inl rfl) hr4).trans hget
          have hget5 := (relies_plan (.inr (.inl rfl)) hr5).trans hheld
          exact .granted (.inr (.inl rfl)) hget5 (fits_decideClaim hfree hattempt hkey)

theorem keeps_cancelUnstarted {com activeRun : Bool} {planId tenantId userId : String} {now : Instant} :
    Keeps digest i com ∅ (PlanDb.cancelUnstarted planId tenantId userId activeRun now) d := by
  intro d1 _ _
  dsimp only
  split
  · exact keeps_ret _
  · next row hrow =>
    have hget := (Option.filter_eq_some_iff.1 hrow).1
    split
    · exact keeps_ret _
    split
    · exact keeps_ret _
    split
    · exact keeps_ret _
    split
    · exact keeps_ret _
    split
    · exact keeps_ret _
    intro d2 hr2
    refine ⟨?_, keeps_ret _⟩
    have hget2 := (relies_plan (.inl rfl) hr2).trans hget
    have hid : row.planId = planId := Table.key_of_get? hget
    refine .kept (.inl rfl) hget2 hid rfl fun _ hk => ?_
    cases hk

theorem keeps_prog (call : PlanDb.Call) : Keeps digest i false ∅ (PlanDb.prog digest call) d := by
  cases call with
  | claimStep request => exact keeps_claimStep
  | saveClaimedStep plan stepId claimId =>
    refine keeps_updateRow (fun _ => rfl) (fun _ => rfl) ?_ (fun _ => keeps_get plan.planId plan.tenantId plan.userId)
      fun _ _ => keeps_ret _
    intro row key hk
    cases hk
  | saveIfVersion plan version =>
    refine keeps_updateRow ?_ ?_ ?_ (fun _ => keeps_ret _) fun _ _ => keeps_ret _
    · intro row
      unfold savedRow
      split <;> rfl
    · intro row
      unfold savedRow
      split <;> rfl
    · intro row key hk
      unfold savedRow at hk ⊢
      split at hk
      · next hrun =>
        rw [if_pos hrun]
        exact ⟨hk, rfl, rfl⟩
      · cases hk
  | renewStepClaim planId tenantId userId claimId lease now stamp =>
    exact keeps_updateRow (fun _ => rfl) (fun _ => rfl) (fun _ _ hk => ⟨hk, rfl, rfl⟩)
      (fun _ => keeps_ret _) fun _ _ => keeps_ret _
  | cancelUnstarted planId tenantId userId activeRun now => exact keeps_cancelUnstarted

end Interleaving

/-! ## The grants of a run -/

/-- The key in a row is the key of a claimed step and of the row's attempt. -/
def Current (digest : String → String) (row : PlanModel) : Prop :=
  ∀ key, row.executionClaimKey = some key → row.executionClaimId.isSome = true ∧
    ∃ stepId, row.executionClaimStepId = some stepId ∧
      key = executionKey digest row.planId stepId row.executionAttempt

def Ordered (later earlier : Grant) : Prop :=
  later.planId = earlier.planId → later.reclaims = true ∨ earlier.attempt < later.attempt

instance (later earlier : Grant) : Decidable (Ordered later earlier) :=
  inferInstanceAs (Decidable (_ → _))

structure Inv (digest : String → String) (d : PlanTables) : Prop where
  rows : ∀ planId row, d.plans.get? planId = some row → Current digest row
  grants : ∀ grant ∈ d.grants,
    grant.key = executionKey digest grant.planId grant.stepId grant.attempt ∧
    ∃ row, d.plans.get? grant.planId = some row ∧ grant.attempt ≤ row.executionAttempt
  ordered : d.grants.Pairwise Ordered

section Grants

variable {digest : String → String} {request : ClaimRequest} {decision : Decision}
  {row : PlanModel}

theorem Fits.attempt (hf : Fits digest request decision row) (hc : Current digest row) :
    ((grantOf request decision row).reclaims = true ∧ decision.attempt = row.executionAttempt) ∨
      decision.attempt = row.executionAttempt + 1 := by
  cases hr : decision.recovering with
  | false => exact .inr (hf.fresh hr).1
  | true =>
    obtain ⟨hattempt, hstep, hkey⟩ := hf.again hr
    obtain ⟨hclaimed, -⟩ := hc _ hkey
    refine .inl ⟨?_, hattempt⟩
    have hfree := hf.free
    simp only [unclaimed, Bool.and_eq_true, Bool.or_eq_true, decide_eq_true_eq] at hfree
    have hexpired : row.executionClaimExpiresAt.all (· ≤ request.now) = true := by
      rcases hfree.2 with (hnone | hnone) | hle
      · rw [hnone] at hclaimed
        cases hclaimed
      · rw [hnone]
        rfl
      · cases hlease : row.executionClaimExpiresAt with
        | none => rfl
        | some lease => simpa [hlease] using hle
    simp [grantOf, hclaimed, hexpired, hstep, hkey]

/-- The key written is the key of the step and the attempt written. -/
theorem Fits.key (hf : Fits digest request decision row) (hc : Current digest row)
    (hid : row.planId = request.planId) :
    decision.key = executionKey digest request.planId request.stepId decision.attempt := by
  cases hr : decision.recovering with
  | false => exact (hf.fresh hr).2
  | true =>
    obtain ⟨hattempt, hstep, hkey⟩ := hf.again hr
    obtain ⟨-, stepId, hstep', hcurrent⟩ := hc _ hkey
    cases hstep.symm.trans hstep'
    rw [hcurrent, hid, hattempt]

theorem Inv.commits {h : Set Row} {d d' : PlanTables} (hi : Inv digest d)
    (hc : Commits digest h d d') : Inv digest d' := by
  cases hc with
  | @kept planId row new hlock hget hid hattempt hkey =>
    subst hid
    have hrowId : row.planId = new.planId := Table.key_of_get? hget
    refine ⟨fun planId' row' hrow' => ?_, fun grant hg => ?_, hi.ordered⟩
    · rw [Table.get?_put] at hrow'
      split at hrow'
      · cases hrow'
        intro key hk
        obtain ⟨hk', hstep, hclaim⟩ := hkey key hk
        obtain ⟨hclaimed, stepId, hs, he⟩ := hi.rows _ row hget key hk'
        exact ⟨hclaim.trans hclaimed, stepId, hstep.trans hs, by rw [he, hrowId, hattempt]⟩
      · exact hi.rows _ _ hrow'
    · obtain ⟨hgkey, old, hold, hle⟩ := hi.grants grant hg
      refine ⟨hgkey, ?_⟩
      rw [Table.get?_put]
      split
      · next heq =>
        rw [← heq] at hold
        cases hget.symm.trans hold
        exact ⟨new, rfl, hattempt ▸ hle⟩
      · exact ⟨old, hold, hle⟩
  | @granted request decision row hlock hget hfits =>
    have hrowId : row.planId = request.planId := Table.key_of_get? hget
    have hcurrent := hi.rows _ row hget
    have hkey := hfits.key hcurrent hrowId
    have hgrow : row.executionAttempt ≤ decision.attempt := by
      rcases hfits.attempt hcurrent with ⟨-, he⟩ | he <;> omega
    have hput : ∀ planId, (d.plans.put (claimedRow request decision row)).get? planId =
        if request.planId = planId then some (claimedRow request decision row)
        else d.plans.get? planId := by
      intro planId
      rw [Table.get?_put, show (claimedRow request decision row).planId = request.planId from hrowId]
    refine ⟨fun planId' row' hrow' => ?_, fun grant hg => ?_, List.pairwise_cons.2 ⟨?_, hi.ordered⟩⟩
    · simp only [hput] at hrow'
      split at hrow'
      · cases hrow'
        intro key hk
        cases hk
        exact ⟨rfl, request.stepId, rfl, hkey.trans (by rw [← hrowId]; rfl)⟩
      · exact hi.rows _ _ hrow'
    · simp only [hput]
      rcases List.mem_cons.1 hg with rfl | hg
      · exact ⟨hkey, _, if_pos rfl, le_refl _⟩
      · obtain ⟨hgkey, old, hold, hle⟩ := hi.grants grant hg
        refine ⟨hgkey, ?_⟩
        split
        · next heq =>
          rw [← heq] at hold
          cases hget.symm.trans hold
          exact ⟨_, rfl, hle.trans hgrow⟩
        · exact ⟨old, hold, hle⟩
    · intro earlier hearlier hplan
      obtain ⟨-, old, hold, hle⟩ := hi.grants earlier hearlier
      rw [← show request.planId = earlier.planId from hplan] at hold
      cases hget.symm.trans hold
      rcases hfits.attempt hcurrent with ⟨hagain, -⟩ | hfresh
      · exact .inl hagain
      · exact .inr (hle.trans_lt (by rw [grantOf, hfresh]; exact Nat.lt_succ_self _))

/-- Two grants of a plan with one key: the later one re-claims the same step. -/
theorem Ordered.same_key {later earlier : Grant} {identities : List String}
    (ho : Ordered later earlier) (hplan : later.planId = earlier.planId)
    (hl : later.key = executionKey digest later.planId later.stepId later.attempt)
    (he : earlier.key = executionKey digest earlier.planId earlier.stepId earlier.attempt)
    (hfree : CollisionFree digest identities) (hlm : grantIdentity later ∈ identities)
    (hem : grantIdentity earlier ∈ identities) (hkey : later.key = earlier.key) :
    later.reclaims = true ∧ later.stepId = earlier.stepId := by
  rw [hl, he] at hkey
  simp only [executionKey, String.append_right_inj, String.ofList_inj] at hkey
  have hid : grantIdentity later = grantIdentity earlier := hfree _ hlm _ hem hkey
  simp only [grantIdentity, hplan] at hid
  obtain ⟨hstep, hattempt⟩ := executionIdentity_inj hid
  exact ⟨(ho hplan).resolve_right (by omega), hstep⟩

end Grants

/-! ## Runs -/

section Runs

variable {ι : Type} [DecidableEq ι] (digest : String → String) (calls : ι → PlanDb.Call)

/-- The calls from `db`, in any order of their statements. -/
def workers (db : PlanTables) :
    LTS (Pool ι PlanTables Row Site (Except StoreError PlanDb.Reply)) (Pool.Label ι) :=
  Pool.system (.error .operationalError) db fun i => PlanDb.prog digest (calls i)

variable {digest calls} {db : PlanTables}
  {p : Pool ι PlanTables Row Site (Except StoreError PlanDb.Reply)}

theorem inv_reachable_unraced (hdb : Inv digest db)
    (hp : ((workers digest calls db).guarded (Pool.Meets Unraced)).Reachable p) :
    Inv digest p.db := by
  refine Pool.reachable_keeps (G := fun _ => Commits digest) (Q := fun _ _ _ _ => True)
    (P := fun d _ => Inv digest d) ?_ ?_ hdb ?_ hp
  · exact fun _ _ _ => trivial
  · exact fun i => keeps_prog (calls i)
  · exact fun _ _ _ _ _ hi hc => hi.commits hc

/-- **Keys are not reused.** If no cycle fits between what a `claim_step` reads
and what it overwrites, a later grant of a plan that is no re-claim has a larger
attempt, and a key comes again only when its step is re-claimed, the lease being
over and the key still attached. -/
theorem keys_not_reused (hrows : ∀ planId row, db.plans.get? planId = some row → Current digest row)
    (hgrants : db.grants = [])
    (hp : ((workers digest calls db).guarded (Pool.Meets Unraced)).Reachable p) :
    p.db.grants.Pairwise fun later earlier => later.planId = earlier.planId →
      (later.reclaims = true ∨ earlier.attempt < later.attempt) ∧
      (CollisionFree digest (p.db.grants.map grantIdentity) → later.key = earlier.key →
        later.reclaims = true ∧ later.stepId = earlier.stepId) := by
  have hdb : Inv digest db := by
    refine ⟨hrows, ?_, ?_⟩ <;> simp [hgrants]
  have hi := inv_reachable_unraced hdb hp
  refine hi.ordered.imp_of_mem fun {later earlier} hl he ho hplan => ⟨ho hplan, fun hfree hkey => ?_⟩
  exact ho.same_key hplan (hi.grants later hl).1 (hi.grants earlier he).1 hfree
    (List.mem_map_of_mem hl) (List.mem_map_of_mem he) hkey

end Runs

/-! ## A cycle in between -/

def twoStepTables : PlanTables :=
  { plans := Table.empty.put
      { planId := "plan"
        userId := "user"
        tenantId := "tenant"
        status := .pending
        currentStepId := some "one"
        stateVersion := 1
        executionClaimId := none
        executionClaimStepId := none
        executionClaimStateVersion := none
        executionClaimKey := none
        executionAttempt := 0
        executionClaimExpiresAt := none
        originalQuery := ⟨none, none, none, some 1, some "create"⟩
        updatedAt := 0
        steps := [pendingStep "one", pendingStep "two"] }
    grants := [] }

def sampleRequest (stepId claimId : String) (now : Instant) : ClaimRequest :=
  { planId := "plan", stepId, tenantId := "tenant", userId := "user", claimId
    leaseExpiresAt := now + 10, now }

/-- Step one is blocked by the holder of `claim_1`. -/
def blockedOne : Plan :=
  { pendingPlan with
    status := .blocked
    stateVersion := 3
    updatedAt := 1
    formationEventType := "update"
    steps := [{ pendingStep "one" with status := .blocked }, pendingStep "two"] }

def cycle : Fin 3 → PlanDb.Call
  | 0 => .claimStep (sampleRequest "one" "claim_2" 2)
  | 1 => .claimStep (sampleRequest "one" "claim_1" 0)
  | 2 => .saveClaimedStep blockedOne "one" "claim_1"

/-- Worker 0 has read attempt 0; step one is claimed with attempt 1, blocked and
released; worker 0 is granted attempt 1 again, with the same key. -/
theorem claim_cycle_reuses_key :
    ∃ p, (workers sampleDigest cycle twoStepTables).Reachable p ∧
      p.db.grants.map (fun g => (g.stepId, g.attempt, g.reclaims)) =
        [("one", 1, false), ("one", 1, false)] ∧
      p.db.grants.Pairwise fun later earlier => later.key = earlier.key := by
  have hrun : (LTS.exec (Pool.next (.error .operationalError))
      (Pool.start twoStepTables fun i => PlanDb.prog sampleDigest (cycle i))
      (List.replicate 2 (.stmt 0) ++ List.replicate 5 (.stmt 1) ++ List.replicate 2 (.stmt 2) ++
        List.replicate 3 (.stmt 0))).map (fun p =>
          (p.db.grants.map (fun g => (g.stepId, g.attempt, g.reclaims)),
            decide (p.db.grants.Pairwise fun later earlier => later.key = earlier.key))) =
      some ([("one", 1, false), ("one", 1, false)], true) := by
    decide
  simp only [Option.map_eq_some_iff, Prod.mk.injEq, decide_eq_true_eq] at hrun
  obtain ⟨p, hp, hgrants, hkeys⟩ := hrun
  exact ⟨p, LTS.Reachable.exec (.init rfl) hp, hgrants, hkeys⟩

def inTurn : Fin 3 → PlanDb.Call
  | 0 => .claimStep (sampleRequest "two" "claim_2" 2)
  | i => cycle i

theorem keys_not_reused_inTurn :
    ∃ p, ((workers sampleDigest inTurn twoStepTables).guarded (Pool.Meets Unraced)).Reachable p ∧
      p.db.grants.map (fun g => (g.stepId, g.attempt)) = [("two", 2), ("one", 1)] ∧
      p.db.grants.Pairwise fun later earlier => later.planId = earlier.planId →
        (later.reclaims = true ∨ earlier.attempt < later.attempt) ∧
        (CollisionFree sampleDigest (p.db.grants.map grantIdentity) → later.key = earlier.key →
          later.reclaims = true ∧ later.stepId = earlier.stepId) := by
  have hrun : (LTS.execGuarded (Pool.next (.error .operationalError))
      (fun p l => decide (Pool.Meets Unraced p l))
      (Pool.start twoStepTables fun i => PlanDb.prog sampleDigest (inTurn i))
      (List.replicate 5 (.stmt 1) ++ List.replicate 2 (.stmt 2) ++ List.replicate 5 (.stmt 0))).map
        (fun p => p.db.grants.map (fun g => (g.stepId, g.attempt))) =
      some [("two", 2), ("one", 1)] := by
    decide
  simp only [Option.map_eq_some_iff] at hrun
  obtain ⟨p, hp, hgrants⟩ := hrun
  have hreach : ((workers sampleDigest inTurn twoStepTables).guarded
      (Pool.Meets Unraced)).Reachable p :=
    LTS.Reachable.execGuarded (fun _ _ => of_decide_eq_true) (.init rfl) hp
  refine ⟨p, hreach, hgrants, keys_not_reused (fun planId row hrow => ?_) rfl hreach⟩
  rw [twoStepTables, Table.get?_put] at hrow
  split at hrow
  · cases hrow
    intro key hk
    cases hk
  · cases hrow

end OpenIntentRouter.Plans.Db
