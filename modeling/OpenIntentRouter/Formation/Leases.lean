import OpenIntentRouter.Formation.Serial

/-!
# Leases of formation jobs

The workers on the formation jobs of the database, one statement at a time, with
any clock readings. `claim_job` locks the exhausted rows and the row it claims
and passes over those that others have locked; `complete_job` and `fail_job`
test the row in the `UPDATE` that changes it.

* `Writes`: what a commit does; `Writes.row` is its effect on one job;
* `Leased`: attempts are bounded, a claimed row carries its latest grant;
* `leases_exclusive`: a lease is its latest holder's alone, ended jobs stay as
  they are, and an exhausted job whose lease is over leaves its lock ended.
-/
namespace OpenIntentRouter.Formation.Leases

open Core Schemas Repositories.Formation

inductive WorkerCall where
  | claimJob (owner leaseToken : String) (now : Instant) (lease : Int)
  | completeJob (jobId owner leaseToken : String) (now : Instant) (traceSummary : Option JsonDict)
  | failJob (jobId owner leaseToken : String) (now : Instant) (errorCode : String)
      (nextAttemptAt : Instant)

def prog : WorkerCall → FormationTransaction
  | .claimJob owner leaseToken now lease => Db.claimJob owner leaseToken now lease
  | .completeJob jobId owner leaseToken now traceSummary =>
    Db.completeJob jobId owner leaseToken now traceSummary
  | .failJob jobId owner leaseToken now errorCode nextAttemptAt =>
    Db.failJob jobId owner leaseToken now errorCode nextAttemptAt

def WorkerCall.token? : WorkerCall → Option String
  | .claimJob _ leaseToken _ _ => some leaseToken
  | _ => none

def WorkerCall.Presents (jobId owner leaseToken : String) (now : Instant) : WorkerCall → Prop
  | .claimJob .. => False
  | .completeJob jobId' owner' leaseToken' now' _ | .failJob jobId' owner' leaseToken' now' _ _ =>
    jobId' = jobId ∧ owner' = owner ∧ leaseToken' = leaseToken ∧ now' = now

def Ended (job : FormationJob) : Prop := job.status = .completed ∨ job.status = .deadLetter

def latestGrant (grants : List Grant) (jobId : String) : Option Grant :=
  grants.find? (·.jobId = jobId)

/-- At the clock reading `now` the claim is in force. -/
def Holds (d : FormationTables) (grant : Grant) (now : Instant) : Prop :=
  grant ∈ d.grants ∧ ∃ job, d.jobs.get? grant.jobId = some job ∧
    heldBy grant.owner grant.leaseToken now job = true

/-! ## What a call commits -/

def Locked (test : FormationJob → Bool) (h : Set String) (d : FormationTables)
    (rows : List FormationJob) : Prop :=
  ∀ row ∈ rows, row.jobId ∈ h ∧ d.jobs.get? row.jobId = some row ∧ test row = true

/-- A commit of a call that holds the locks `h`. -/
inductive Writes (call : WorkerCall) (h : Set String) (d : FormationTables) :
    FormationTables → Prop where
  | swept {owner token : String} {now : Instant} {lease : Int} {dead : List FormationJob} :
    call = .claimJob owner token now lease → Locked (exhausted now) h d dead →
    Writes call h d { d with jobs := Db.writeJobs d.jobs (dead.map (deadLettered now)) }
  | granted {owner token : String} {now : Instant} {lease : Int} {dead : List FormationJob}
      {row : FormationJob} :
    call = .claimJob owner token now lease → Locked (exhausted now) h d dead →
    Locked (eligible now) h d [row] → (∀ grant ∈ d.grants, grant.leaseToken ≠ token) →
    Writes call h d
      { d with
        jobs := (Db.writeJobs d.jobs (dead.map (deadLettered now))).put
          (claimed owner token now lease row)
        grants := ⟨row.jobId, owner, token, now, now + lease⟩ :: d.grants }
  | settled {owner token : String} {now : Instant} {row new : FormationJob} {turns : Turns} :
    call.Presents row.jobId owner token now → Locked (heldBy owner token now) h d [row] →
    new.jobId = row.jobId → new.status = .completed ∨ new.status = .retry ∨
      new.status = .deadLetter → new.attemptCount = row.attemptCount →
    new.maxAttempts = row.maxAttempts →
    Writes call h d { d with jobs := d.jobs.put new, turns := turns }

inductive Change (call : WorkerCall) (job : FormationJob) : FormationJob → Prop where
  | same : Change call job job
  | dead {owner token : String} {now : Instant} {lease : Int} :
    call = .claimJob owner token now lease → exhausted now job = true →
    Change call job (deadLettered now job)
  | granted {owner token : String} {now : Instant} {lease : Int} :
    call = .claimJob owner token now lease → eligible now job = true →
    Change call job (claimed owner token now lease job)
  | settled {owner token : String} {now : Instant} {new : FormationJob} :
    call.Presents job.jobId owner token now → heldBy owner token now job = true →
    new.status = .completed ∨ new.status = .retry ∨ new.status = .deadLetter →
    new.attemptCount = job.attemptCount → new.maxAttempts = job.maxAttempts →
    Change call job new

variable {now : Instant} {dead rows : List FormationJob} {call : WorkerCall} {job : FormationJob}
  {ids : List String} {test : FormationJob → Bool} {d : FormationTables}

section Commit

variable {call : WorkerCall} {h : Set String} {d d' : FormationTables} {id : String}
  {job : FormationJob}

/-- The dead rows are the locked rows of their ids, dead-lettered; no other row changes. -/
theorem Locked.get?_writeJobs (hdead : Locked (exhausted now) h d dead)
    (hget : d.jobs.get? id = some job) :
    (Db.writeJobs d.jobs (dead.map (deadLettered now))).get? id = some job ∨
      id ∈ h ∧ exhausted now job = true ∧
        (Db.writeJobs d.jobs (dead.map (deadLettered now))).get? id =
          some (deadLettered now job) := by
  rcases Db.get?_writeJobs d.jobs (dead.map (deadLettered now)) id with hsame | ⟨r, hr, hid, hw⟩
  · exact .inl (hsame.trans hget)
  · obtain ⟨row, hrow, rfl⟩ := List.mem_map.1 hr
    obtain ⟨hlock, hstored, hexh⟩ := hdead row hrow
    have hrid : row.jobId = id := hid
    subst hrid
    rw [hget] at hstored
    cases hstored
    exact .inr ⟨hlock, hexh, hw⟩

/-- The effect of a commit on one job: only a locked row changes. -/
theorem Writes.row (hw : Writes call h d d') (hget : d.jobs.get? id = some job) :
    ∃ job', d'.jobs.get? id = some job' ∧ Change call job job' ∧ (id ∉ h → job' = job) := by
  cases hw with
  | @swept owner token now lease dead hcall hdead =>
    rcases hdead.get?_writeJobs hget with hsame | ⟨hlock, hexh, hnew⟩
    · exact ⟨job, hsame, .same, fun _ => rfl⟩
    · exact ⟨_, hnew, .dead hcall hexh, fun hnot => absurd hlock hnot⟩
  | @granted owner token now lease dead row hcall hdead hrow hfresh =>
    obtain ⟨hlock, hstored, helig⟩ := hrow row List.mem_cons_self
    have hid : (claimed owner token now lease row).jobId = row.jobId := rfl
    by_cases heq : row.jobId = id
    · subst heq
      rw [hget] at hstored
      cases hstored
      refine ⟨_, ?_, .granted hcall helig, fun hnot => absurd hlock hnot⟩
      exact Table.get?_put_self _ _
    · dsimp only
      rw [Table.get?_put_ne _ (by rw [hid]; exact heq)]
      rcases hdead.get?_writeJobs hget with hsame | ⟨hlock', hexh, hnew⟩
      · exact ⟨job, hsame, .same, fun _ => rfl⟩
      · exact ⟨_, hnew, .dead hcall hexh, fun hnot => absurd hlock' hnot⟩
  | @settled owner token now row new turns hp hrow hid hstatus hatt hmax =>
    obtain ⟨hlock, hstored, hheld⟩ := hrow row List.mem_cons_self
    dsimp only
    by_cases heq : row.jobId = id
    · subst heq
      rw [hget] at hstored
      cases hstored
      refine ⟨new, ?_, .settled hp hheld hstatus hatt hmax, fun hnot => absurd hlock hnot⟩
      rw [← hid]
      exact Table.get?_put_self _ _
    · rw [Table.get?_put_ne _ (by rw [hid]; exact heq)]
      exact ⟨job, hget, .same, fun _ => rfl⟩

theorem Writes.absent (hw : Writes call h d d') (hget : d.jobs.get? id = none) :
    d'.jobs.get? id = none := by
  have hne : ∀ row : FormationJob, d.jobs.get? row.jobId = some row → row.jobId ≠ id := by
    rintro row hrow rfl
    rw [hget] at hrow
    cases hrow
  have hwrite : ∀ {now : Instant} {dead : List FormationJob}, Locked (exhausted now) h d dead →
      (Db.writeJobs d.jobs (dead.map (deadLettered now))).get? id = none := by
    intro now dead hdead
    rcases Db.get?_writeJobs d.jobs (dead.map (deadLettered now)) id with
      hsame | ⟨r, hr, hid, hw⟩
    · exact hsame.trans hget
    · obtain ⟨row, hrow, rfl⟩ := List.mem_map.1 hr
      exact absurd hid (hne row (hdead row hrow).2.1)
  cases hw with
  | swept hcall hdead => exact hwrite hdead
  | @granted owner token now lease dead row hcall hdead hrow hfresh =>
    dsimp only
    rw [Table.get?_put_ne _ (by exact hne row (hrow row List.mem_cons_self).2.1)]
    exact hwrite hdead
  | @settled owner token now row new turns hp hrow hid hstatus hatt hmax =>
    dsimp only
    rw [Table.get?_put_ne _ (by rw [hid]; exact hne row (hrow row List.mem_cons_self).2.1)]
    exact hget

theorem Writes.frame (hw : Writes call h d d') (hid : id ∉ h) : d'.jobs.get? id = d.jobs.get? id := by
  cases hget : d.jobs.get? id with
  | none => exact hw.absent hget
  | some job =>
    obtain ⟨job', hget', -, hsame⟩ := hw.row hget
    rw [hget', hsame hid]

end Commit

/-! ## What the commits keep -/

/-- Attempts are bounded, no token was granted twice, and a claimed row carries
the lease of its latest claim. -/
structure Leased (d : FormationTables) : Prop where
  attempts : ∀ id job, d.jobs.get? id = some job → job.attemptCount ≤ job.maxAttempts
  tokens : (d.grants.map (·.leaseToken)).Nodup
  claims : ∀ id job, d.jobs.get? id = some job → job.status = .claimed →
    ∃ grant, latestGrant d.grants id = some grant ∧ job.leaseOwner = some grant.owner ∧
      job.leaseToken = some grant.leaseToken ∧ job.leaseExpiresAt = some grant.expiresAt

section Keep

variable {call : WorkerCall} {h : Set String} {d d' : FormationTables} {id : String}
  {job : FormationJob}

theorem latestGrant_cons (grant : Grant) (grants : List Grant) (id : String) :
    latestGrant (grant :: grants) id =
      if grant.jobId = id then some grant else latestGrant grants id := by
  simp only [latestGrant, List.find?_cons]
  by_cases heq : grant.jobId = id <;> simp [heq]

/-- The claims before a commit, and the one it adds for the job it claims. -/
theorem Writes.grants (hw : Writes call h d d') :
    d'.grants = d.grants ∨
    ∃ owner token now lease job, call = .claimJob owner token now lease ∧
      d.jobs.get? job.jobId = some job ∧ eligible now job = true ∧
      d'.jobs.get? job.jobId = some (claimed owner token now lease job) ∧
      d'.grants = ⟨job.jobId, owner, token, now, now + lease⟩ :: d.grants ∧
      ∀ grant ∈ d.grants, grant.leaseToken ≠ token := by
  cases hw with
  | swept => exact .inl rfl
  | settled => exact .inl rfl
  | @granted owner token now lease dead row hcall hdead hrow hfresh =>
    obtain ⟨-, hstored, helig⟩ := hrow row List.mem_cons_self
    refine .inr ⟨owner, token, now, lease, row, hcall, hstored, helig, ?_, rfl, hfresh⟩
    exact Table.get?_put_self _ _

theorem attempts_change {job' : FormationJob} (hc : Change call job job')
    (hle : job.attemptCount ≤ job.maxAttempts) : job'.attemptCount ≤ job'.maxAttempts := by
  cases hc with
  | same => exact hle
  | dead => exact hle
  | granted _ helig =>
    simp only [eligible, Bool.and_eq_true, decide_eq_true_eq] at helig
    exact helig.1
  | settled _ _ _ hatt hmax =>
    rw [hatt, hmax]
    exact hle

/-- The dead rows are no longer claimed; the claimed ones are as they were. -/
theorem claimed_of_writeJobs
    (hget : (Db.writeJobs d.jobs (dead.map (deadLettered now))).get? id = some job)
    (hs : job.status = .claimed) : d.jobs.get? id = some job := by
  rcases Db.get?_writeJobs d.jobs (dead.map (deadLettered now)) id with hsame | ⟨r, hr, -, hw⟩
  · rw [← hsame]
    exact hget
  · obtain ⟨row, -, rfl⟩ := List.mem_map.1 hr
    rw [hget] at hw
    cases hw
    cases hs

theorem Leased.writes (hd : Leased d) (hw : Writes call h d d') : Leased d' := by
  refine ⟨fun id job' hget' => ?_, ?_, fun id job' hget' hs => ?_⟩
  · cases hget : d.jobs.get? id with
    | none =>
      rw [hw.absent hget] at hget'
      cases hget'
    | some job =>
      obtain ⟨j, hj, hc, -⟩ := hw.row hget
      rw [hget'] at hj
      cases hj
      exact attempts_change hc (hd.attempts id job hget)
  · rcases hw.grants with hg | ⟨owner, token, now, lease, job, -, -, -, -, hg, hfresh⟩
    · rw [hg]
      exact hd.tokens
    · rw [hg, List.map_cons, List.nodup_cons]
      refine ⟨?_, hd.tokens⟩
      intro hmem
      obtain ⟨grant, hmem, heq⟩ := List.mem_map.1 hmem
      exact hfresh grant hmem heq
  · cases hw with
    | swept => exact hd.claims id job' (claimed_of_writeJobs hget' hs) hs
    | @granted owner token now lease dead row _ _ _ _ =>
      dsimp only at hget' ⊢
      rw [latestGrant_cons]
      rw [Table.get?_put] at hget'
      have hid : (claimed owner token now lease row).jobId = row.jobId := rfl
      by_cases heq : row.jobId = id
      · rw [if_pos (by rw [hid]; exact heq)] at hget'
        cases hget'
        exact ⟨_, if_pos heq, rfl, rfl, rfl⟩
      · rw [if_neg (by rw [hid]; exact heq)] at hget'
        rw [if_neg heq]
        exact hd.claims id job' (claimed_of_writeJobs hget' hs) hs
    | @settled owner token now row new turns _ _ _ hstatus _ _ =>
      dsimp only at hget' ⊢
      rw [Table.get?_put] at hget'
      split at hget'
      · cases hget'
        rw [hs] at hstatus
        simp at hstatus
      · exact hd.claims id job' hget' hs

end Keep

/-! ## The programs -/

section Programs

variable {ι : Type} [DecidableEq ι] {calls : ι → WorkerCall} {i : ι} {h : Set String}
  {d d' : FormationTables}

abbrev Allowed (calls : ι → WorkerCall) (i : ι) : Set String → FormationTables → FormationTables → Prop :=
  Writes (calls i)

theorem relies_row {id : String} (hid : id ∈ h) (hget : d.jobs.get? id = some job)
    (hr : Relies (Allowed calls) i h d d') : d'.jobs.get? id = some job := by
  refine hr.keeps (P := fun d' => d'.jobs.get? id = some job) ?_ hget
  intro j _ h' hdis d1 d2 hd hw
  rw [hw.frame (Set.disjoint_left.1 hdis hid)]
  exact hd

theorem relies_locked {h' : Set String} (hl : Locked test h d rows) (hsub : h ⊆ h')
    (hr : Relies (Allowed calls) i h d d') : Locked test h' d' rows := by
  intro row hrow
  obtain ⟨hid, hget, htest⟩ := hl row hrow
  exact ⟨hsub hid, relies_row hid hget hr, htest⟩

theorem locked_rows (hsub : ids.Sublist (Db.selected d test)) :
    Locked test (h ∪ {k | k ∈ ids}) d (Db.rows d ids) := by
  intro row hrow
  obtain ⟨id, hid, hget⟩ := List.mem_filterMap.1 hrow
  have hkey : row.jobId = id := jobId_of_get? hget
  subst hkey
  refine ⟨.inr hid, hget, ?_⟩
  obtain ⟨row', hmem, heq⟩ := List.mem_map.1 (hsub.subset hid)
  rw [byClaimKey, List.mem_insertionSort, List.mem_filter] at hmem
  have hget' := (Table.mem_values _ _).1 hmem.1
  rw [show row'.jobId = row.jobId from heq, hget] at hget'
  cases hget'
  exact hmem.2

omit [DecidableEq ι] in
theorem safe_refresh (jobId : String) : (Db.refresh jobId).Safe (Allowed calls) i h d := by
  intro d1 _
  dsimp only
  split <;> trivial

theorem safe_claim {owner token : String} {lease : Int}
    (hi : calls i = .claimJob owner token now lease)
    (hfresh : ∀ j, j ≠ i → (calls j).token? ≠ some token)
    (hd : ∀ grant ∈ d.grants, grant.leaseToken ≠ token) :
    (Db.claimJob owner token now lease).Safe (Allowed calls) i ∅ d := by
  -- no one else is granted the token this call has drawn
  have hunused : ∀ {h : Set String} {d1 d2 : FormationTables}, Relies (Allowed calls) i h d1 d2 →
      (∀ grant ∈ d1.grants, grant.leaseToken ≠ token) →
      ∀ grant ∈ d2.grants, grant.leaseToken ≠ token := by
    intro h d1 d2 hr hd1
    refine hr.keeps (P := fun d => ∀ grant ∈ d.grants, grant.leaseToken ≠ token) ?_ hd1
    intro j hj h' _ d3 d4 hd3 hw
    rcases hw.grants with hg | ⟨owner', token', now', lease', job, hcall, -, -, -, hg, -⟩
    · rw [hg]
      exact hd3
    · rw [hg]
      intro grant hmem
      rcases List.mem_cons.1 hmem with rfl | hmem
      · intro heq
        have htok : token' = token := heq
        exact hfresh j hj (by rw [hcall, ← htok]; rfl)
      · exact hd3 grant hmem
  intro d1 hr1 ids hids
  have hdead1 := locked_rows (h := ∅) hids
  intro d2 hr2 ids2 hids2
  have hdead2 := relies_locked hdead1 (Set.subset_union_left (t := {k | k ∈ ids2})) hr2
  have hdue := locked_rows (h := ∅ ∪ {k | k ∈ ids}) hids2
  have hd2 := hunused hr2 (hunused hr1 hd)
  dsimp only
  cases hrows : Db.rows d2 ids2 with
  | nil =>
    intro d3 hr3
    exact ⟨.swept hi (relies_locked hdead2 subset_rfl hr3), trivial⟩
  | cons row rest =>
    have hrow2 : Locked (eligible now) (∅ ∪ {k | k ∈ ids} ∪ {k | k ∈ ids2}) d2 [row] := by
      intro r hr
      rw [List.mem_singleton.1 hr]
      exact hdue row (hrows ▸ List.mem_cons_self)
    intro d3 hr3
    have hdead3 := relies_locked hdead2 (Set.subset_union_left (t := {k | k ∈ [row.jobId]})) hr3
    have hrow3 := relies_locked hrow2 (Set.subset_union_left (t := {k | k ∈ [row.jobId]})) hr3
    have hstored := (hrow3 row List.mem_cons_self).2.1
    have hd3 := hunused hr3 hd2
    dsimp only
    rw [hstored]
    cases hsame : Option.filter (fun current : FormationJob =>
        decide (current.status = row.status) && decide (current.attemptCount = row.attemptCount))
        (some row) with
    | none => trivial
    | some current =>
      have hcur := (Option.filter_eq_some_iff.1 hsame).1
      cases hcur
      intro d4 hr4
      refine ⟨?_, safe_refresh _⟩
      exact .granted hi (relies_locked hdead3 subset_rfl hr4) (relies_locked hrow3 subset_rfl hr4)
        (hunused hr4 hd3)

theorem safe_update {jobId owner token : String} (hi : (calls i).Presents jobId owner token now)
    {write : FormationJob → FormationTables → FormationTables} {next : FormationTransaction}
    (hnext : ∀ d, next.Safe (Allowed calls) i ∅ d)
    (hwrite : ∀ current d, ∃ new turns, write current d = { d with jobs := d.jobs.put new, turns := turns } ∧
      new.jobId = current.jobId ∧
      (new.status = .completed ∨ new.status = .retry ∨ new.status = .deadLetter) ∧
      new.attemptCount = current.attemptCount ∧ new.maxAttempts = current.maxAttempts) :
    (Transaction.lock jobId fun d =>
      match (d.jobs.get? jobId).filter (heldBy owner token now) with
      | none => Db.raise (.valueError "Formation job claim transition lost")
      | some current => .commit (write current) next).Safe (Allowed calls) i ∅ d := by
  intro d1 _
  dsimp only
  split
  · trivial
  · next current hcur =>
    obtain ⟨hget, hheld⟩ := Option.filter_eq_some_iff.1 hcur
    have hid := jobId_of_get? hget
    subst hid
    intro d2 hr2
    have hlocked : Locked (heldBy owner token now) (∅ ∪ {k | k ∈ [current.jobId]}) d2 [current] := by
      intro row hrow
      rw [List.mem_singleton.1 hrow]
      have hmem : current.jobId ∈ ∅ ∪ {k | k ∈ [current.jobId]} := .inr List.mem_cons_self
      exact ⟨hmem, relies_row hmem hget hr2, hheld⟩
    obtain ⟨new, turns, hw, hid, hstatus, hatt, hmax⟩ := hwrite current d2
    rw [hw]
    exact ⟨.settled hi hlocked hid hstatus hatt hmax, hnext _⟩

theorem failureStatus_cases (job : FormationJob) :
    failureStatus job = .completed ∨ failureStatus job = .retry ∨ failureStatus job = .deadLetter := by
  unfold failureStatus
  split
  · exact .inr (.inr rfl)
  · exact .inr (.inl rfl)

theorem safe_prog (hfresh : ∀ i j, i ≠ j → ∀ token ∈ (calls i).token?,
    (calls j).token? ≠ some token) (hd : d.grants = []) (i : ι) :
    (prog (calls i)).Safe (Allowed calls) i ∅ d := by
  cases hi : calls i with
  | claimJob owner token now lease =>
    refine safe_claim hi (fun j hj => hfresh i j (Ne.symm hj) token (by rw [hi]; rfl)) ?_
    rw [hd]
    exact fun _ hmem => absurd hmem List.not_mem_nil
  | completeJob jobId owner token now trace =>
    intro d1 _
    dsimp only
    split
    · trivial
    · next row _ =>
      refine safe_update (by rw [hi]; exact ⟨rfl, rfl, rfl, rfl⟩) (fun _ => safe_refresh _)
        fun current d => ⟨_, _, rfl, rfl, .inl rfl, rfl, rfl⟩
  | failJob jobId owner token now code next =>
    intro d1 _
    dsimp only
    split
    · trivial
    · next row _ =>
      refine safe_update (by rw [hi]; exact ⟨rfl, rfl, rfl, rfl⟩) (fun _ => safe_refresh _)
        fun current d => ⟨_, d.turns, rfl, rfl, failureStatus_cases row, rfl, rfl⟩

/-! ## Exhausted jobs -/

def Due (id : String) (d : FormationTables) : Prop :=
  ∃ job, d.jobs.get? id = some job ∧ job.status = .claimed ∧ job.maxAttempts ≤ job.attemptCount

def Final (id : String) (d : FormationTables) : Prop :=
  ∃ job, d.jobs.get? id = some job ∧ job.status ≠ .claimed ∧ job.maxAttempts ≤ job.attemptCount

theorem due_same {id : String} (hw : Writes call h d d') (hid : id ∉ h) : Due id d' ↔ Due id d := by
  simp only [Due, hw.frame hid]

/-- No commit changes a row that is neither claimed nor has an attempt left. -/
theorem final_writes {id : String} (hw : Writes call h d d') (hf : Final id d) : Final id d' := by
  obtain ⟨job, hget, hs, hmax⟩ := hf
  obtain ⟨job', hget', hc, -⟩ := hw.row hget
  cases hc with
  | same => exact ⟨job, hget', hs, hmax⟩
  | dead _ hexh => exact absurd (exhausted_iff.1 hexh).1 hs
  | granted _ helig =>
    simp only [eligible, Bool.and_eq_true, decide_eq_true_eq] at helig
    omega
  | settled _ hheld _ _ _ => exact absurd (heldBy_iff.1 hheld).1 hs

/-- A due row among the dead ones is final when they are written. -/
theorem final_dead {id : String} (now : Instant) (jobs : Jobs) (hid : id ∈ ids) (hdue : Due id d) :
    ∃ job, (Db.writeJobs jobs ((Db.rows d ids).map (deadLettered now))).get? id = some job ∧
      job.status ≠ .claimed ∧ job.maxAttempts ≤ job.attemptCount := by
  obtain ⟨job, hget, -, hmax⟩ := hdue
  have hkey := jobId_of_get? hget
  have hmem : deadLettered now job ∈ (Db.rows d ids).map (deadLettered now) :=
    List.mem_map_of_mem (List.mem_filterMap.2 ⟨id, hid, hget⟩)
  obtain ⟨r, hr, hrid, hw⟩ := Db.get?_writeJobs_of_mem hmem jobs
  obtain ⟨row, hrow, rfl⟩ := List.mem_map.1 hr
  obtain ⟨id', -, hget'⟩ := List.mem_filterMap.1 hrow
  have hid' : id' = id := by
    rw [← jobId_of_get? hget', ← hkey]
    exact hrid
  subst hid'
  rw [hget] at hget'
  cases hget'
  subst hkey
  exact ⟨_, hw, by simp [deadLettered], hmax⟩

theorem not_due_of_locked {row : FormationJob} (hl : Locked (eligible now) h d rows)
    (hrow : row ∈ rows) : ¬Due row.jobId d := by
  rintro ⟨job, hget, -, hmax⟩
  obtain ⟨-, hstored, helig⟩ := hl row hrow
  rw [hget] at hstored
  cases hstored
  simp only [eligible, Bool.and_eq_true, decide_eq_true_eq] at helig
  omega

theorem not_due_of_selected {id : String} (hsub : ids.Sublist (Db.selected d (eligible now)))
    (hid : id ∈ ids) : ¬Due id d := by
  intro hdue
  have hstored := hdue
  obtain ⟨job, hget, -⟩ := hstored
  have hkey := jobId_of_get? hget
  subst hkey
  exact not_due_of_locked (locked_rows (h := ∅) hsub)
    (List.mem_filterMap.2 ⟨job.jobId, hid, hget⟩) hdue

abbrev KeepsLocks (calls : ι → WorkerCall) (i : ι) :
    Set String → FormationTransaction → FormationTables → Prop :=
  Transaction.Keeps (Allowed calls) Due Final i

omit [DecidableEq ι] in
theorem keeps_refresh (jobId : String) : KeepsLocks calls i h (Db.refresh jobId) d := by
  intro d1 _
  dsimp only
  split <;> trivial

theorem keeps_claim (owner token : String) (now : Instant) (lease : Int) :
    KeepsLocks calls i ∅ (Db.claimJob owner token now lease) d := by
  intro d1 _ ids hids
  refine ⟨fun d2 hr2 ids2 hids2 => ⟨?_, ?_⟩, fun _ id hid hdue d2 hr2 ids2 hids2 => ?_⟩
  · have hdue := locked_rows (h := ∅ ∪ {k | k ∈ ids}) hids2
    dsimp only
    cases hrows : Db.rows d2 ids2 with
    | nil => exact fun _ _ => trivial
    | cons row rest =>
      have hrow : Locked (eligible now) (∅ ∪ {k | k ∈ ids} ∪ {k | k ∈ ids2}) d2 [row] := by
        intro r hr
        rw [List.mem_singleton.1 hr]
        exact hdue row (hrows ▸ List.mem_cons_self)
      intro d3 hr3
      refine ⟨?_, fun _ id hid hdue => ?_⟩
      · dsimp only
        split
        · trivial
        · exact fun _ _ => keeps_refresh _
      · rw [List.mem_singleton.1 hid] at hdue
        exact absurd hdue (not_due_of_locked (relies_locked hrow subset_rfl hr3) List.mem_cons_self)
  · exact fun _ id hid hdue => absurd hdue (not_due_of_selected hids2 hid)
  · -- the swept row is dead-lettered by the commit, with or without a claim
    have hlocked : id ∈ (∅ ∪ {k | k ∈ ids} : Set String) := .inr hid
    have hdue2 : Due id d2 := by
      obtain ⟨job, hget, hs, hmax⟩ := hdue
      exact ⟨job, relies_row hlocked hget hr2, hs, hmax⟩
    have hrows2 := locked_rows (h := ∅ ∪ {k | k ∈ ids}) hids2
    dsimp only
    cases hrows : Db.rows d2 ids2 with
    | nil => exact fun d3 _ => final_dead now d3.jobs hid hdue
    | cons row rest =>
      have hrow : Locked (eligible now) (∅ ∪ {k | k ∈ ids} ∪ {k | k ∈ ids2}) d2 [row] := by
        intro r hr
        rw [List.mem_singleton.1 hr]
        exact hrows2 row (hrows ▸ List.mem_cons_self)
      have hne : row.jobId ≠ id := by
        rintro rfl
        exact not_due_of_locked hrow List.mem_cons_self hdue2
      intro d3 hr3
      have hstored := (relies_locked hrow subset_rfl hr3 row List.mem_cons_self).2.1
      dsimp only
      rw [hstored]
      have hsame : Option.filter (fun current : FormationJob =>
          decide (current.status = row.status) && decide (current.attemptCount = row.attemptCount))
          (some row) = some row := by simp [Option.filter]
      rw [hsame]
      intro d4 _
      obtain ⟨job, hget, hs, hmax⟩ := final_dead now d4.jobs hid hdue
      refine ⟨job, ?_, hs, hmax⟩
      dsimp only
      rw [Table.get?_put_ne _ (by exact hne)]
      exact hget

omit [DecidableEq ι] in
theorem keeps_update {jobId owner token : String} {now : Instant}
    {write : FormationJob → FormationTables → FormationTables} {next : FormationTransaction}
    (hnext : ∀ d, KeepsLocks calls i ∅ next d)
    (hwrite : ∀ current d, ∃ new, (write current d).jobs = d.jobs.put new ∧
      new.jobId = current.jobId ∧ new.status ≠ .claimed ∧
      new.attemptCount = current.attemptCount ∧ new.maxAttempts = current.maxAttempts) :
    KeepsLocks calls i ∅ (Transaction.lock jobId fun d =>
      match (d.jobs.get? jobId).filter (heldBy owner token now) with
      | none => Db.raise (.valueError "Formation job claim transition lost")
      | some current => .commit (write current) next) d := by
  intro d1 _
  dsimp only
  refine ⟨?_, fun hret id hid hdue => ?_⟩
  · split
    · trivial
    · exact fun _ _ => hnext _
  · rw [List.mem_singleton.1 hid] at hdue ⊢
    obtain ⟨job, hget, hs, hmax⟩ := hdue
    rw [hget] at hret ⊢
    cases hheld : Option.filter (heldBy owner token now) (some job) with
    | none =>
      rw [hheld] at hret
      cases hret
    | some current =>
      have hcur := (Option.filter_eq_some_iff.1 hheld).1
      cases hcur
      have hkey := jobId_of_get? hget
      subst hkey
      intro d2 _
      obtain ⟨new, hw, hid, hstatus, hatt, hnmax⟩ := hwrite job d2
      refine ⟨new, ?_, hstatus, by rw [hatt, hnmax]; exact hmax⟩
      rw [hw, ← hid]
      exact Table.get?_put_self _ _

theorem failureStatus_ne (job : FormationJob) : failureStatus job ≠ .claimed := by
  unfold failureStatus
  split <;> simp

theorem keeps_prog (i : ι) : KeepsLocks calls i ∅ (prog (calls i)) d := by
  cases calls i with
  | claimJob owner token now lease => exact keeps_claim owner token now lease
  | completeJob jobId owner token now trace =>
    intro d1 _
    dsimp only
    split
    · trivial
    · next row _ =>
      refine keeps_update (fun _ => keeps_refresh _) fun current d => ⟨_, rfl, rfl, ?_, rfl, rfl⟩
      simp [completed]
  | failJob jobId owner token now code next =>
    intro d1 _
    dsimp only
    split
    · trivial
    · next row _ =>
      exact keeps_update (fun _ => keeps_refresh _) fun current d =>
        ⟨_, rfl, rfl, failureStatus_ne row, rfl, rfl⟩

end Programs

/-! ## Runs -/

section Runs

variable {ι : Type} [DecidableEq ι] (calls : ι → WorkerCall) (db : FormationTables)

abbrev FormationWorkers (ι : Type) := Workers ι FormationTables String (Except FormationError Reply)

/-- The workers from `db`, in any order of their statements. -/
def workers : LTS (FormationWorkers ι) (Pool.Label ι) :=
  Workers.system (.error .operationalError) db fun i => prog (calls i)

def unaborted : LTS (FormationWorkers ι) (Pool.Label ι) :=
  Workers.uninterrupted (.error .operationalError) db fun i => prog (calls i)

def Unleased : Prop :=
  db.grants = [] ∧ ∀ id job, db.jobs.get? id = some job →
    job.status ≠ .claimed ∧ job.attemptCount ≤ job.maxAttempts

variable {calls db} {p p' : FormationWorkers ι} {l : Pool.Label ι}

theorem Unleased.leased (h : Unleased db) : Leased db where
  attempts id job hget := (h.2 id job hget).2
  tokens := by simp [h.1]
  claims id job hget hs := absurd hs (h.2 id job hget).1

/-- The holder of a row is the one its latest claim names. -/
theorem Leased.latest {grant : Grant} (hd : Leased d) (h : Holds d grant now) :
    latestGrant d.grants grant.jobId = some grant := by
  obtain ⟨hmem, job, hget, hheld⟩ := h
  obtain ⟨hs, -, htoken, -⟩ := heldBy_iff.1 hheld
  obtain ⟨last, hlast, -, htoken', -⟩ := hd.claims _ job hget hs
  have heq : last.leaseToken = grant.leaseToken :=
    Option.some.inj (htoken'.symm.trans htoken)
  rw [hlast, List.inj_on_of_nodup_map hd.tokens (List.mem_of_find?_eq_some hlast) hmem heq]

theorem Writes.ended {h : Set String} {d' : FormationTables} {id : String} (hw : Writes call h d d')
    (hget : d.jobs.get? id = some job) (he : Ended job) : d'.jobs.get? id = some job := by
  have hs : job.status ≠ .claimed := by
    rcases he with he | he <;> simp [he]
  obtain ⟨job', hget', hc, -⟩ := hw.row hget
  cases hc with
  | same => exact hget'
  | dead _ hexh => exact absurd (exhausted_iff.1 hexh).1 hs
  | granted _ helig =>
    rcases he with he | he <;> simp [eligible, he] at helig
  | settled _ hheld _ _ _ => exact absurd (heldBy_iff.1 hheld).1 hs

/-- Who may change a job: the holder of its latest claim while the lease runs,
or a claim by whose clock no lease runs. -/
theorem Leased.changed {h : Set String} {d' : FormationTables} {id : String} (hd : Leased d)
    (hw : Writes call h d d') (hget : d.jobs.get? id = some job) (hne : d'.jobs.get? id ≠ some job) :
    (∃ grant now, latestGrant d.grants id = some grant ∧
      call.Presents id grant.owner grant.leaseToken now ∧ now < grant.expiresAt) ∨
    ∃ owner token now lease, call = .claimJob owner token now lease ∧
      (job.status = .claimed → job.leaseExpiresAt.any (· ≤ now) = true) := by
  obtain ⟨job', hget', hc, -⟩ := hw.row hget
  cases hc with
  | same => exact absurd hget' hne
  | dead hcall hexh => exact .inr ⟨_, _, _, _, hcall, fun _ => (exhausted_iff.1 hexh).2.1⟩
  | granted hcall helig =>
    refine .inr ⟨_, _, _, _, hcall, fun hs => ?_⟩
    simpa [eligible, hs] using (Bool.and_eq_true_iff.1 helig).2
  | @settled owner token now _ hp hheld _ _ _ =>
    obtain ⟨hs, howner, htoken, hlease⟩ := heldBy_iff.1 hheld
    obtain ⟨grant, hlast, howner', htoken', hexpires⟩ := hd.claims id job hget hs
    rw [howner] at howner'
    rw [htoken] at htoken'
    cases howner'
    cases htoken'
    refine .inl ⟨grant, now, hlast, ?_, ?_⟩
    · rw [← jobId_of_get? hget]
      exact hp
    · rw [hexpires] at hlease
      simpa using hlease

/-- **Leases of formation jobs.** The tokens of different claims are different.
At most one claim of a job is in force, by any clocks; attempts are bounded;
ended jobs never change; a job changes only by its latest claim while that lease
runs, or by a claim after it; and once `claim_job` has looked at an exhausted
job whose lease is over, the job is out of `claimed` for good when its row is
unlocked. -/
theorem leases_exclusive
    (hfresh : ∀ i j, i ≠ j → ∀ token ∈ (calls i).token?, (calls j).token? ≠ some token)
    (hdb : Unleased db) (hp : (workers calls db).Reachable p) :
    (∀ grant grant' now now', Holds p.db grant now → Holds p.db grant' now' →
      grant.jobId = grant'.jobId → grant = grant') ∧
    (∀ id job, p.db.jobs.get? id = some job → job.attemptCount ≤ job.maxAttempts) ∧
    (∀ p', (workers calls db).Steps p p' → ∀ id job, p.db.jobs.get? id = some job → Ended job →
      p'.db.jobs.get? id = some job) ∧
    (∀ l p', (workers calls db).step p l p' → ∀ id job, p.db.jobs.get? id = some job →
      p'.db.jobs.get? id ≠ some job → ∃ i, l = .stmt i ∧
      ((∃ grant now, latestGrant p.db.grants id = some grant ∧
        (calls i).Presents id grant.owner grant.leaseToken now ∧ now < grant.expiresAt) ∨
      ∃ owner token now lease, calls i = .claimJob owner token now lease ∧
        (job.status = .claimed → job.leaseExpiresAt.any (· ≤ now) = true))) ∧
    (∀ i owner token now lease p' q, calls i = .claimJob owner token now lease →
      p.proc i = prog (calls i) → (workers calls db).step p (.stmt i) p' →
      (unaborted calls db).Steps p' q → ∀ id job, p.db.jobs.get? id = some job →
      exhausted now job = true → q.owner id = none →
      ∃ job', q.db.jobs.get? id = some job' ∧ job'.status ≠ .claimed ∧
        job'.maxAttempts ≤ job'.attemptCount) := by
  have hsafe : ∀ i, (prog (calls i)).Safe (Allowed calls) i ∅ db := safe_prog hfresh hdb.1
  have hleased : ∀ {p : FormationWorkers ι}, (workers calls db).Reachable p → Leased p.db :=
    fun hp => Workers.reachable_keeps hsafe hdb.leased (fun _ _ _ _ hd hw => hd.writes hw) hp
  refine ⟨?_, (hleased hp).attempts, ?_, ?_, ?_⟩
  · intro grant grant' now now' h h' heq
    have hlast := (hleased hp).latest h
    have hlast' := (hleased hp).latest h'
    rw [heq, hlast'] at hlast
    exact (Option.some.inj hlast).symm
  · intro p' hs id job hget he
    refine LTS.Steps.keeps (R := fun p p' : FormationWorkers ι => p.db.jobs.get? id = some job →
      p'.db.jobs.get? id = some job) (fun _ h => h) (fun _ _ _ h h' hg => h' (h hg)) ?_ hp hs hget
    intro a l b ha hab hg
    rcases Workers.reachable_step hsafe ha hab with hd | ⟨i, -, hw⟩
    · rw [hd]
      exact hg
    · exact hw.ended hg he
  · intro l p' hst id job hget hne
    rcases Workers.reachable_step hsafe hp hst with hd | ⟨i, hl, hw⟩
    · rw [hd] at hne
      exact absurd hget hne
    · exact ⟨i, hl, (hleased hp).changed hw hget hne⟩
  · intro i owner token now lease p' q hi hproc hst hs id job hget hexh hfree
    have hdue : Due id p.db := ⟨job, hget, (exhausted_iff.1 hexh).1, (exhausted_iff.1 hexh).2.2⟩
    have hhand : Workers.InHand Due Final id p' := by
      have hsel : id ∈ Db.selected p.db (exhausted now) := by
        refine List.mem_map.2 ⟨job, ?_, jobId_of_get? hget⟩
        rw [byClaimKey, List.mem_insertionSort, List.mem_filter]
        refine ⟨(Table.mem_values _ _).2 ?_, hexh⟩
        show p.db.jobs.get? job.jobId = some job
        rw [jobId_of_get? hget]
        exact hget
      rw [hi] at hproc
      have hn : Workers.next (.error .operationalError) p (.stmt i) = some p' := hst
      simp only [Workers.next, hproc, prog, Db.claimJob, Option.some.injEq] at hn
      subst hn
      have howned : ∀ k, p.owner id = some k →
          (p.take i (p.unlocked i (Db.selected p.db (exhausted now)))).owner id = some k ∨
          (p.take i (p.unlocked i (Db.selected p.db (exhausted now)))).owner id = some i := by
        intro k hk
        simp only [Workers.take]
        split
        · exact .inr rfl
        · exact .inl hk
      cases hown : p.owner id with
      | none =>
        refine .inr ⟨i, Workers.goto_owner.2 ⟨?_, fun _ => rfl⟩, hdue⟩
        have hmem : id ∈ p.unlocked i (Db.selected p.db (exhausted now)) :=
          Workers.mem_unlocked.2 ⟨hsel, .inl hown⟩
        exact if_pos hmem
      | some k =>
        rcases howned k hown with h | h
        · exact .inr ⟨k, Workers.goto_owner.2 ⟨h, fun _ => rfl⟩, hdue⟩
        · exact .inr ⟨i, Workers.goto_owner.2 ⟨h, fun _ => rfl⟩, hdue⟩
    have hsame : ∀ i h d d' id, Allowed calls i h d d' → id ∉ h → (Due id d' ↔ Due id d) :=
      fun _ _ _ _ _ hw => due_same hw
    have hfinal : ∀ i h d d', Allowed calls i h d d' → Final id d → Final id d' :=
      fun _ _ _ _ hw => final_writes hw
    have hend := Workers.inHand_steps hsame hfinal hsafe (fun i => keeps_prog i)
      (.step hp hst) hs hhand
    rcases hend with hfinal | ⟨j, hown, -⟩
    · exact hfinal
    · rw [hfree] at hown
      cases hown

end Runs

/-! ## A job with one attempt -/

def soleAttempt : FormationJob where
  jobId := "mfjob"
  trigger := .turnWindow
  status := .pending
  mode := .enforced
  tenantId := "tenant"
  userId := "user"
  sessionId := some "session"
  firstTurnId := some "turn"
  lastTurnId := some "turn"
  sourceRefs := ["turn"]
  idempotencyKey := "formation-range:turn"
  modelVersion := "formation-model-v1"
  promptVersion := "formation-prompt-v1"
  policyVersion := "formation-policy-v1"
  attemptCount := 0
  maxAttempts := 1
  leaseOwner := none
  leaseToken := none
  leaseExpiresAt := none
  nextAttemptAt := none
  lastErrorCode := none
  traceSummary := []
  createdAt := 0
  updatedAt := 0

def turnover : Fin 2 → WorkerCall
  | 0 => .claimJob "worker_a" "lease_a" 1 10
  | 1 => .claimJob "worker_b" "lease_b" 20 10

def turnoverTables : FormationTables := ⟨.empty, Table.empty.put soleAttempt, []⟩

theorem turnover_unleased : Unleased turnoverTables := by
  refine ⟨rfl, fun id job hget => ?_⟩
  change (Table.put Table.empty soleAttempt).get? id = some job at hget
  rw [Table.get?_put] at hget
  split at hget
  · cases hget
    decide
  · cases hget

/-- The first worker's lease runs out; the second one's claim ends the job. -/
theorem leases_exclusive_turnover :
    ∃ p p' q, (workers turnover turnoverTables).Reachable p ∧
      (workers turnover turnoverTables).step p (.stmt 1) p' ∧
      (unaborted turnover turnoverTables).Steps p' q ∧
      ∃ job', q.db.jobs.get? "mfjob" = some job' ∧ job'.status ≠ .claimed ∧
        job'.maxAttempts ≤ job'.attemptCount := by
  have hrun : ((LTS.exec (Workers.next (.error .operationalError))
      (Workers.start turnoverTables fun i => prog (turnover i)) (List.replicate 5 (.stmt 0))).bind
      fun p => (Workers.next (.error .operationalError) p (.stmt 1)).bind fun p' =>
        (LTS.execGuarded (Workers.next (.error .operationalError))
          (fun _ l => l ≠ .abort 0 && l ≠ .abort 1) p' (List.replicate 2 (.stmt 1))).map fun q =>
            (decide (q.owner "mfjob" = none), (p.db.jobs.get? "mfjob").map (exhausted 20))) =
      some (true, some true) := by
    decide
  simp only [Option.bind_eq_some_iff, Option.map_eq_some_iff, Prod.mk.injEq,
    decide_eq_true_eq] at hrun
  obtain ⟨p, hp, p', hp', q, hq, hfree, job, hget, hexh⟩ := hrun
  have hreach : (workers turnover turnoverTables).Reachable p := LTS.Reachable.exec (.init rfl) hp
  have hproc : p.proc 1 = prog (turnover 1) := Workers.exec_proc_ne hp (by decide)
  have hs : (unaborted turnover turnoverTables).Steps p' q := by
    refine LTS.Steps.execGuarded (fun _ l hl => ?_) hq
    cases l with
    | stmt i => exact ⟨i, rfl⟩
    | abort i => revert hl; revert i; decide
  refine ⟨p, p', q, hreach, hp', hs, ?_⟩
  exact (leases_exclusive (by decide) turnover_unleased hreach).2.2.2.2 1 _ _ _ _ p' q rfl hproc hp' hs
    "mfjob" job hget hexh hfree

end OpenIntentRouter.Formation.Leases
