import OpenIntentRouter.Repositories.MemoryFormation

/-!
# The database repository alone

What the transactions of the workers do when nobody else is at work: the same
tables as the calls on the repository in memory.
-/
namespace OpenIntentRouter.Formation

open Core Schemas Repositories.Formation

theorem turnId_of_get? {turns : Turns} {id : String} {turn : FormationTurn}
    (h : turns.get? id = some turn) : turn.turnId = id :=
  Table.key_of_get? (t := turns) h

variable {job : FormationJob} {jobs : Jobs}

theorem jobId_of_get? {id : String} (h : jobs.get? id = some job) : job.jobId = id :=
  Table.key_of_get? (t := jobs) h

theorem mem_jobs : job ∈ jobs.values ↔ jobs.get? job.jobId = some job := Table.mem_values jobs job

theorem mem_turns {turns : Turns} {turn : FormationTurn} :
    turn ∈ turns.values ↔ turns.get? turn.turnId = some turn := Table.mem_values turns turn

theorem exhausted_iff {now : Instant} : exhausted now job = true ↔
    job.status = .claimed ∧ job.leaseExpiresAt.any (· ≤ now) = true ∧
      job.maxAttempts ≤ job.attemptCount := by
  simp [exhausted, and_assoc]

theorem heldBy_iff {owner leaseToken : String} {now : Instant} :
    heldBy owner leaseToken now job = true ↔ job.status = .claimed ∧ job.leaseOwner = some owner ∧
      job.leaseToken = some leaseToken ∧ job.leaseExpiresAt.any (now < ·) = true := by
  simp [heldBy, and_assoc]

/-! ## The workers' transactions -/

namespace Db

open Repositories.Formation.Db

variable (d : FormationTables) (owner leaseToken : String) (now : Instant)

theorem mem_selected {test : FormationJob → Bool} {id : String} :
    id ∈ selected d test ↔ ∃ job, d.jobs.get? id = some job ∧ test job = true := by
  simp only [selected, List.mem_map, byClaimKey, List.mem_insertionSort, List.mem_filter]
  constructor
  · rintro ⟨job, ⟨hmem, htest⟩, rfl⟩
    exact ⟨job, mem_jobs.1 hmem, htest⟩
  · rintro ⟨job, hget, htest⟩
    have hid := jobId_of_get? hget
    subst hid
    exact ⟨job, ⟨mem_jobs.2 hget, htest⟩, rfl⟩

theorem rows_map {jobs : List FormationJob} (h : ∀ job ∈ jobs, d.jobs.get? job.jobId = some job) :
    rows d (jobs.map (·.jobId)) = jobs := by
  unfold rows
  rw [List.filterMap_map]
  conv_rhs => rw [← List.filterMap_some (l := jobs)]
  exact List.filterMap_congr h

theorem keys_writeJobs {rows : List FormationJob}
    (h : ∀ row ∈ rows, (jobs.get? row.jobId).isSome = true) :
    (writeJobs jobs rows).entries.map Prod.fst = jobs.entries.map Prod.fst := by
  induction rows generalizing jobs with
  | nil => rfl
  | cons row rows ih =>
    obtain ⟨job, hget⟩ := Option.isSome_iff_exists.1 (h row List.mem_cons_self)
    show (writeJobs (jobs.put row) rows).entries.map Prod.fst = _
    rw [ih, Table.keys_put hget]
    intro row' hrow'
    rw [Table.get?_put]
    split
    · rfl
    · exact h row' (List.mem_cons_of_mem _ hrow')

/-- Writing the exhausted rows back dead-lettered is the sweep. -/
theorem writeJobs_dead :
    writeJobs d.jobs ((rows d (selected d (exhausted now))).map (deadLettered now)) =
      sweep now d.jobs := by
  have hdead : ∀ row, row ∈ rows d (selected d (exhausted now)) ↔
      d.jobs.get? row.jobId = some row ∧ exhausted now row = true := by
    intro row
    simp only [rows, List.mem_filterMap, mem_selected]
    constructor
    · rintro ⟨id, ⟨job, hget, hexh⟩, hrow⟩
      have hid := jobId_of_get? hrow
      subst hid
      rw [hget] at hrow
      cases hrow
      exact ⟨hget, hexh⟩
    · rintro ⟨hget, hexh⟩
      exact ⟨row.jobId, ⟨row, hget, hexh⟩, hget⟩
  refine Table.ext_get? ?_ fun id => ?_
  · rw [sweep, Table.keys_mapValues]
    refine keys_writeJobs fun row hrow => ?_
    obtain ⟨job, hjob, rfl⟩ := List.mem_map.1 hrow
    exact Option.isSome_iff_exists.2 ⟨job, ((hdead job).1 hjob).1⟩
  · rw [sweep, Table.get?_mapValues]
    cases hget : d.jobs.get? id with
    | none =>
      rcases get?_writeJobs d.jobs ((rows d (selected d (exhausted now))).map (deadLettered now)) id
        with hsame | ⟨r, hr, hid, -⟩
      · rw [hsame, hget]
        rfl
      · obtain ⟨job, hjob, rfl⟩ := List.mem_map.1 hr
        have hstored := ((hdead job).1 hjob).1
        rw [show job.jobId = id from hid, hget] at hstored
        cases hstored
    | some job =>
      have hid := jobId_of_get? hget
      subst hid
      simp only [Option.map_some]
      split
      · next hexh =>
        obtain ⟨r, hr, hrid, hw⟩ := get?_writeJobs_of_mem
          (List.mem_map_of_mem (f := deadLettered now) ((hdead job).2 ⟨hget, hexh⟩)) d.jobs
        obtain ⟨row, hrow, rfl⟩ := List.mem_map.1 hr
        have hstored := ((hdead row).1 hrow).1
        rw [show row.jobId = job.jobId from hrid, hget] at hstored
        cases hstored
        exact hw
      · next hexh =>
        rcases get?_writeJobs d.jobs ((rows d (selected d (exhausted now))).map (deadLettered now))
          job.jobId with hsame | ⟨r, hr, hrid, -⟩
        · exact hsame.trans hget
        · obtain ⟨row, hrow, rfl⟩ := List.mem_map.1 hr
          obtain ⟨hstored, hexh'⟩ := (hdead row).1 hrow
          rw [show row.jobId = job.jobId from hrid, hget] at hstored
          cases hstored
          exact absurd hexh' hexh

theorem eligible_sweep (jobs : Jobs) :
    (sweep now jobs).values.filter (eligible now) = jobs.values.filter (eligible now) := by
  rw [sweep, Table.values_mapValues, List.filter_map]
  have hself : ∀ job, eligible now (if exhausted now job then deadLettered now job else job) =
      eligible now job := by
    intro job
    split
    · next hexh =>
      obtain ⟨-, -, hmax⟩ := exhausted_iff.1 hexh
      have hnot : ¬job.attemptCount < job.maxAttempts := by omega
      simp [eligible, deadLettered, hnot]
    · rfl
  have hcomp : (eligible now ∘ fun job => if exhausted now job then deadLettered now job else job) =
      eligible now := funext hself
  rw [hcomp]
  conv_rhs => rw [← List.map_id (jobs.values.filter (eligible now))]
  refine List.map_congr_left fun job hjob => ?_
  have helig := (List.mem_filter.1 hjob).2
  split
  · next hexh =>
    obtain ⟨-, -, hmax⟩ := exhausted_iff.1 hexh
    simp only [eligible, Bool.and_eq_true, decide_eq_true_eq] at helig
    omega
  · rfl

/-- `claim_job` alone. -/
theorem run_claimJob (lease : Int) : (claimJob owner leaseToken now lease).run d =
    match (byClaimKey ((sweep now d.jobs).values.filter (eligible now))).head? with
    | none => (.ok (.job none), { d with jobs := sweep now d.jobs })
    | some job =>
      (.ok (.job (some (claimed owner leaseToken now lease job))),
        { d with
          jobs := (sweep now d.jobs).put (claimed owner leaseToken now lease job)
          grants := ⟨job.jobId, owner, leaseToken, now, now + lease⟩ :: d.grants }) := by
  have hrows : rows d (Transaction.upTo (some 1) (selected d (eligible now))) =
      (byClaimKey (d.jobs.values.filter (eligible now))).take 1 := by
    have hcut : Transaction.upTo (some 1) (selected d (eligible now)) =
        ((byClaimKey (d.jobs.values.filter (eligible now))).take 1).map (·.jobId) := by
      rw [List.map_take]
      rfl
    rw [hcut]
    refine rows_map d fun job hjob => ?_
    have hmem := List.mem_of_mem_take hjob
    rw [byClaimKey, List.mem_insertionSort, List.mem_filter] at hmem
    exact mem_jobs.1 hmem.1
  rw [eligible_sweep]
  simp only [claimJob, Transaction.run]
  have hall : Transaction.upTo none (selected d (exhausted now)) = selected d (exhausted now) := rfl
  rw [hrows, hall]
  cases hsort : byClaimKey (d.jobs.values.filter (eligible now)) with
  | nil => simp [Transaction.run, writeJobs_dead]
  | cons job rest =>
    have hmem : job ∈ byClaimKey (d.jobs.values.filter (eligible now)) :=
      hsort ▸ List.mem_cons_self
    rw [byClaimKey, List.mem_insertionSort, List.mem_filter] at hmem
    have hget := mem_jobs.1 hmem.1
    have hput : ((sweep now d.jobs).put (claimed owner leaseToken now lease job)).get? job.jobId =
        some (claimed owner leaseToken now lease job) := Table.get?_put_self _ _
    simp [Transaction.run, hget, Option.filter, writeJobs_dead, refresh, hput]

/-- The row after an `UPDATE` with the lease of the worker. -/
theorem run_update (jobId : String) (write : FormationJob → FormationJob → FormationJob)
    (turns : FormationJob → FormationTables → Turns)
    (hid : ∀ row current, (write row current).jobId = current.jobId) :
    (Transaction.read fun d =>
      match d.jobs.get? jobId with
      | none => raise (.valueError "Formation job not found")
      | some row => .lock jobId fun d =>
        match (d.jobs.get? jobId).filter (heldBy owner leaseToken now) with
        | none => raise (.valueError "Formation job claim transition lost")
        | some current =>
          .commit (fun d => { d with jobs := d.jobs.put (write row current), turns := turns row d })
            (refresh jobId)).run d =
      match d.jobs.get? jobId with
      | none => (.error (.valueError "Formation job not found"), d)
      | some job =>
        if heldBy owner leaseToken now job then
          (.ok (.job (some (write job job))),
            { d with jobs := d.jobs.put (write job job), turns := turns job d })
        else (.error (.valueError "Formation job claim transition lost"), d) := by
  simp only [Transaction.run]
  cases hget : d.jobs.get? jobId with
  | none => rfl
  | some job =>
    have hkey : (write job job).jobId = jobId := (hid job job).trans (jobId_of_get? hget)
    have hput : (d.jobs.put (write job job)).get? jobId = some (write job job) := by
      rw [← hkey]
      exact Table.get?_put_self _ _
    cases hheld : heldBy owner leaseToken now job with
    | true => simp [Transaction.run, hget, Option.filter, hheld, refresh, hput]
    | false => simp [Transaction.run, hget, Option.filter, hheld, raise]

/-- `complete_job` alone. -/
theorem run_completeJob (jobId : String) (traceSummary : Option JsonDict) :
    (completeJob jobId owner leaseToken now traceSummary).run d =
      match d.jobs.get? jobId with
      | none => (.error (.valueError "Formation job not found"), d)
      | some job =>
        if heldBy owner leaseToken now job then
          let completed :=
            completed now (JsonDict.merge job.traceSummary (traceSummary.getD [])) job
          (.ok (.job (some completed)),
            { d with jobs := d.jobs.put completed, turns := formTurns d.turns job.sourceRefs })
        else (.error (.valueError "Formation job claim transition lost"), d) :=
  run_update d owner leaseToken now jobId
    (fun row => completed now (JsonDict.merge row.traceSummary (traceSummary.getD [])))
    (fun row d => formTurns d.turns row.sourceRefs) fun _ _ => rfl

/-- `fail_job` alone. -/
theorem run_failJob (jobId errorCode : String) (nextAttemptAt : Instant) :
    (failJob jobId owner leaseToken now errorCode nextAttemptAt).run d =
      match d.jobs.get? jobId with
      | none => (.error (.valueError "Formation job not found"), d)
      | some job =>
        if heldBy owner leaseToken now job then
          let failed := failed (failureStatus job) now nextAttemptAt errorCode job
          (.ok (.job (some failed)), { d with jobs := d.jobs.put failed })
        else (.error (.valueError "Formation job claim transition lost"), d) :=
  run_update d owner leaseToken now jobId
    (fun row => failed (failureStatus row) now nextAttemptAt errorCode) (fun _ d => d.turns)
    fun _ _ => rfl

end Db
end OpenIntentRouter.Formation
