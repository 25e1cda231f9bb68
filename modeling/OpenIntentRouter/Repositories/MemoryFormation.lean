import Mathlib.Data.List.Sort
import Mathlib.Data.Prod.Lex
import Mathlib.Data.String.Basic
import OpenIntentRouter.Core.Dict
import OpenIntentRouter.Core.RowLocks
import OpenIntentRouter.Schemas.MemoryFormation

/-!
# Formation turns and their jobs

Captured turns wait until a window of them is full or their session is idle;
then a range job lists them and claims them, and they are formed when that job
completes. Structured jobs are added as they are. A worker claims the oldest
job that is due, for a lease; with owner and token it completes or fails it.

`MemoryFormationTurnJobRepository` does each call under one lock. Of
`DatabaseMemoryFormationTurnJobRepository` the calls that create jobs hold the
lock of their session and are given alone; those of the workers are
`Core.Transaction`. `digest` is the hex digest of SHA-256; instants and leases
are in microseconds.
-/
namespace OpenIntentRouter.Repositories.Formation

open Core Schemas

abbrev Turns := Table fun turn : FormationTurn => turn.turnId

abbrev Jobs := Table fun job : FormationJob => job.jobId

inductive FormationError where
  | valueError (message : String)
  | validationError
  | indexError
  | keyError (key : String)
  | integrityError
  | invalidRequest
  | operationalError
  deriving DecidableEq

/-- What a range job is given beside its turns; `jobId` and `now` are drawn by
its defaults. -/
structure RangeParameters where
  mode : MemoryFormationMode
  modelVersion : String
  promptVersion : String
  policyVersion : String
  maxAttempts : Nat
  jobId : String
  now : Instant
  deriving DecidableEq

/-! ## What both repositories compute -/

def orderKey (turn : FormationTurn) : Int ×ₗ String := toLex (turn.completedAt, turn.turnId)

def waits (session : SessionIdentity) (turn : FormationTurn) : Bool :=
  turn.session = session && turn.status = .pending && turn.claimedJobId.isNone

def ordered (turns : List FormationTurn) : List FormationTurn :=
  turns.insertionSort fun a b => orderKey a ≤ orderKey b

/-- mirrors app/repositories/memory_formation.py:174-189 and :721-745 -/
def listPendingTurns (turns : Turns) (session : SessionIdentity) : List FormationTurn :=
  ordered (turns.values.filter (waits session))

def updateTurns (turns : Turns) (test : FormationTurn → Bool) (f : FormationTurn → FormationTurn)
    (hf : ∀ turn, (f turn).turnId = turn.turnId) : Turns :=
  turns.mapValues (fun turn => if test turn then f turn else turn) fun turn => by
    split
    · exact hf turn
    · rfl

def setDeadline (turns : Turns) (session : SessionIdentity) (deadline : Option Instant) : Turns :=
  updateTurns turns (waits session) (fun turn => { turn with idleDeadlineAt := deadline })
    fun _ => rfl

def claimTurns (turns : Turns) (ids : List String) (jobId : String) : Turns :=
  updateTurns turns (fun turn => turn.turnId ∈ ids)
    (fun turn => { turn with status := .claimed, claimedJobId := some jobId }) fun _ => rfl

def formTurns (turns : Turns) (ids : List String) : Turns :=
  updateTurns turns (fun turn => turn.turnId ∈ ids) (fun turn => { turn with status := .formed })
    fun _ => rfl

def rangeText (session : SessionIdentity) (firstTurnId lastTurnId policyVersion : String) : String :=
  "\x1f".intercalate
    [session.tenantId, session.userId, session.sessionId, firstTurnId, lastTurnId, policyVersion]

/-- mirrors app/repositories/memory_formation.py:441-453 -/
def formationRangeIdempotencyKey (digest : String → String) (session : SessionIdentity)
    (firstTurnId lastTurnId policyVersion : String) : String :=
  "formation-range:" ++ digest (rangeText session firstTurnId lastTurnId policyVersion)

/-- The constraints of the fields of a job.
mirrors app/schemas/memory.py:231-255 (`MemoryFormationJob`) -/
def validates (job : FormationJob) : Bool :=
  job.tenantId ≠ "" && job.userId ≠ "" && job.sourceRefs.length ≤ 100 &&
  job.sourceRefs.all (fun id => 1 ≤ id.length && id.length ≤ 128) && job.idempotencyKey ≠ "" &&
  job.modelVersion ≠ "" && job.promptVersion ≠ "" && job.policyVersion ≠ "" && 1 ≤ job.maxAttempts

/-- The job of the range `first :: rest`, before its fields are checked. -/
def rangeJob (digest : String → String) (first : FormationTurn) (rest : List FormationTurn)
    (trigger : MemoryFormationTrigger) (p : RangeParameters) : FormationJob where
  jobId := p.jobId
  trigger := trigger
  status := .pending
  mode := p.mode
  tenantId := first.tenantId
  userId := first.userId
  sessionId := some first.sessionId
  firstTurnId := some first.turnId
  lastTurnId := some ((first :: rest).getLast (List.cons_ne_nil _ _)).turnId
  sourceRefs := (first :: rest).map (·.turnId)
  idempotencyKey := formationRangeIdempotencyKey digest first.session first.turnId
    ((first :: rest).getLast (List.cons_ne_nil _ _)).turnId p.policyVersion
  modelVersion := p.modelVersion
  promptVersion := p.promptVersion
  policyVersion := p.policyVersion
  attemptCount := 0
  maxAttempts := p.maxAttempts
  leaseOwner := none
  leaseToken := none
  leaseExpiresAt := none
  nextAttemptAt := none
  lastErrorCode := none
  traceSummary := []
  createdAt := p.now
  updatedAt := p.now

/-- mirrors app/repositories/memory_formation.py:1113-1145 -/
def buildRangeJob (digest : String → String) (turns : List FormationTurn)
    (trigger : MemoryFormationTrigger) (p : RangeParameters) : Except FormationError FormationJob :=
  match turns with
  | [] => .error .indexError
  | first :: rest =>
    let job := rangeJob digest first rest trigger p
    if validates job then .ok job else .error .validationError

/-- mirrors app/repositories/memory_formation.py:1285-1295 -/
def validateTurnIdentity (row turn : FormationTurn) : Except FormationError Unit :=
  if row.turnId ≠ turn.turnId || row.requestId ≠ turn.requestId || row.session ≠ turn.session then
    .error (.valueError "Formation turn identity conflict")
  else .ok ()

/-- mirrors app/repositories/memory_formation.py:1298-1313 -/
def validateJobIdentity (existing incoming : FormationJob) : Except FormationError Unit :=
  if existing.trigger ≠ incoming.trigger || existing.tenantId ≠ incoming.tenantId ||
      existing.userId ≠ incoming.userId || existing.sessionId ≠ incoming.sessionId ||
      existing.sourceRefs ≠ incoming.sourceRefs ||
      existing.idempotencyKey ≠ incoming.idempotencyKey ||
      existing.modelVersion ≠ incoming.modelVersion ||
      existing.promptVersion ≠ incoming.promptVersion ||
      existing.policyVersion ≠ incoming.policyVersion then
    .error (.valueError "Formation job identity conflict")
  else if !sameCommand (Json.field existing.traceSummary "command")
      (Json.field incoming.traceSummary "command") then
    .error (.valueError "Formation job command conflict")
  else .ok ()
where
  sameCommand : Option Json → Option Json → Bool
    | none, none => true
    | none, some j | some j, none => j = .null
    | some a, some b => Json.pyEq a b

/-- The turn has the id of an incoming one, or is the same request of the session. -/
def sameRequest (turn value : FormationTurn) : Bool :=
  value.requestId = turn.requestId && value.session = turn.session

def notDue (idleDueAt : Instant) (turn : FormationTurn) : Bool :=
  turn.idleDeadlineAt.all (idleDueAt < ·)

/-- `pending[:max_turns]` -/
def limited (maxTurns : Option Nat) (pending : List FormationTurn) : List FormationTurn :=
  match maxTurns with
  | none => pending
  | some n => pending.take n

def exhausted (now : Instant) (job : FormationJob) : Bool :=
  job.status = .claimed && job.leaseExpiresAt.any (· ≤ now) && job.maxAttempts ≤ job.attemptCount

def eligible (now : Instant) (job : FormationJob) : Bool :=
  job.attemptCount < job.maxAttempts &&
  (job.status = .pending ||
    (job.status = .retry && job.nextAttemptAt.all (· ≤ now)) ||
    (job.status = .claimed && job.leaseExpiresAt.any (· ≤ now)))

def deadLettered (now : Instant) (job : FormationJob) : FormationJob :=
  { job with
    status := .deadLetter
    leaseOwner := none
    leaseToken := none
    leaseExpiresAt := none
    lastErrorCode := some "lease_expired_attempts_exhausted"
    updatedAt := now }

def sweep (now : Instant) (jobs : Jobs) : Jobs :=
  jobs.mapValues (fun job => if exhausted now job then deadLettered now job else job) fun job => by
    split <;> rfl

def claimed (owner leaseToken : String) (now : Instant) (lease : Int) (job : FormationJob) :
    FormationJob :=
  { job with
    status := .claimed
    leaseOwner := some owner
    leaseToken := some leaseToken
    leaseExpiresAt := some (now + lease)
    attemptCount := job.attemptCount + 1
    updatedAt := now }

def completed (now : Instant) (traceSummary : JsonDict) (job : FormationJob) : FormationJob :=
  { job with
    status := .completed
    leaseOwner := none
    leaseToken := none
    leaseExpiresAt := none
    traceSummary := traceSummary
    updatedAt := now }

def failed (status : MemoryFormationJobStatus) (now nextAttemptAt : Instant) (errorCode : String)
    (job : FormationJob) : FormationJob :=
  { job with
    status := status
    leaseOwner := none
    leaseToken := none
    leaseExpiresAt := none
    nextAttemptAt := some nextAttemptAt
    lastErrorCode := some errorCode
    updatedAt := now }

def failureStatus (job : FormationJob) : MemoryFormationJobStatus :=
  if job.maxAttempts ≤ job.attemptCount then .deadLetter else .retry

def claimKey (job : FormationJob) : Int ×ₗ String := toLex (job.createdAt, job.jobId)

def byClaimKey (jobs : List FormationJob) : List FormationJob :=
  jobs.insertionSort fun a b => claimKey a ≤ claimKey b

def heldBy (owner leaseToken : String) (now : Instant) (job : FormationJob) : Bool :=
  job.status = .claimed && job.leaseOwner = some owner && job.leaseToken = some leaseToken &&
  job.leaseExpiresAt.any (now < ·)

def handled (turn : FormationTurn) : Bool := turn.status = .formed || turn.status = .skipped

/-- The last turn before the first one of the session that is not dealt with.
mirrors app/repositories/memory_formation.py:419-438 (`_advance_contiguous_watermark`)
and :1055-1082 (`successful_watermark`) -/
def contiguousLast (turns : Turns) (session : SessionIdentity) : Option String :=
  ((ordered (turns.values.filter (·.session = session))).takeWhile handled).getLast?.map (·.turnId)

/-! ## The calls -/

inductive Call where
  | appendTurn (turn : FormationTurn) (windowTurns : Nat) (p : RangeParameters)
  | createJobForPending (session : SessionIdentity) (trigger : MemoryFormationTrigger)
      (maxTurns : Option Nat) (idleDueAt : Option Instant) (p : RangeParameters)
  | addJob (job : FormationJob)
  | claimJob (owner leaseToken : String) (now : Instant) (lease : Int)
  | completeJob (jobId owner leaseToken : String) (now : Instant) (traceSummary : Option JsonDict)
  | failJob (jobId owner leaseToken : String) (now : Instant) (errorCode : String)
      (nextAttemptAt : Instant)

inductive Reply where
  | turn (turn : FormationTurn) (job : Option FormationJob)
  | job (job : Option FormationJob)
  deriving DecidableEq

/-! ## The repository in memory -/

structure MemoryFormationTurnJobRepository where
  turns : Turns
  jobs : Jobs
  jobsByIdempotency : Dict String String
  watermarks : Dict SessionIdentity String

namespace MemoryFormationTurnJobRepository

variable (repo : MemoryFormationTurnJobRepository)

def empty : MemoryFormationTurnJobRepository := ⟨.empty, .empty, .empty, .empty⟩

def existingTurn (turn : FormationTurn) : Option FormationTurn :=
  (repo.turns.get? turn.turnId).or (repo.turns.values.find? (sameRequest turn))

/-- mirrors app/repositories/memory_formation.py:55-70 -/
def addJob (job : FormationJob) : Except FormationError Reply × MemoryFormationTurnJobRepository :=
  match repo.jobsByIdempotency.get? job.idempotencyKey with
  | some existingId =>
    match repo.jobs.get? existingId with
    | none => (.error (.keyError existingId), repo)
    | some existing => ((validateJobIdentity existing job).map fun _ => .job (some existing), repo)
  | none =>
    match repo.jobs.get? job.jobId with
    | some existing => ((validateJobIdentity existing job).map fun _ => .job (some existing), repo)
    | none =>
      (.ok (.job (some job)),
        { repo with
          jobs := repo.jobs.put job
          jobsByIdempotency := repo.jobsByIdempotency.set job.idempotencyKey job.jobId })

/-- The turns and the job after the job claimed its range; a job that is stored
under the key stands in for it. -/
def storeRange (turns : Turns) (range : List FormationTurn) (job : FormationJob) :
    Except FormationError FormationJob × MemoryFormationTurnJobRepository :=
  let ids := range.map (·.turnId)
  match repo.jobsByIdempotency.get? job.idempotencyKey with
  | some existingId =>
    match repo.jobs.get? existingId with
    | none => (.error (.keyError existingId), { repo with turns := turns })
    | some existing => (.ok existing, { repo with turns := claimTurns turns ids existing.jobId })
  | none =>
    (.ok job,
      { repo with
        turns := claimTurns turns ids job.jobId
        jobs := repo.jobs.put job
        jobsByIdempotency := repo.jobsByIdempotency.set job.idempotencyKey job.jobId })

/-- mirrors app/repositories/memory_formation.py:86-172 -/
def appendTurnAndMaybeCreateWindowJob (digest : String → String) (turn : FormationTurn)
    (windowTurns : Nat) (p : RangeParameters) :
    Except FormationError Reply × MemoryFormationTurnJobRepository :=
  match repo.existingTurn turn with
  | some existing => ((validateTurnIdentity existing turn).map fun _ => .turn existing none, repo)
  | none =>
    let stored := repo.turns.put turn
    let effectiveDeadline :=
      ((stored.values.filter (waits turn.session)).filterMap (·.idleDeadlineAt)).max?.or
        turn.idleDeadlineAt
    let turns := setDeadline stored turn.session effectiveDeadline
    let pending := listPendingTurns turns turn.session
    if windowTurns ≤ pending.length then
      match buildRangeJob digest (pending.take windowTurns) .turnWindow p with
      | .error e => (.error e, { repo with turns := turns })
      | .ok job =>
        let (stored, repo) := repo.storeRange turns (pending.take windowTurns) job
        (stored.map fun job => .turn turn (some job), repo)
    else (.ok (.turn turn none), { repo with turns := turns })

/-- mirrors app/repositories/memory_formation.py:191-253 -/
def createJobForPending (digest : String → String) (session : SessionIdentity)
    (trigger : MemoryFormationTrigger) (maxTurns : Option Nat) (idleDueAt : Option Instant)
    (p : RangeParameters) : Except FormationError Reply × MemoryFormationTurnJobRepository :=
  match limited maxTurns (listPendingTurns repo.turns session) with
  | [] => (.ok (.job none), repo)
  | first :: rest =>
    if idleDueAt.any fun due => (first :: rest).any (notDue due) then (.ok (.job none), repo)
    else
      let job := rangeJob digest first rest trigger p
      match repo.jobsByIdempotency.get? job.idempotencyKey with
      | some existingId =>
        match repo.jobs.get? existingId with
        | none => (.error (.keyError existingId), repo)
        | some existing => (.ok (.job (some existing)), repo)
      | none =>
        if validates job then
          (.ok (.job (some job)),
            { repo with
              turns := claimTurns repo.turns job.sourceRefs job.jobId
              jobs := repo.jobs.put job
              jobsByIdempotency := repo.jobsByIdempotency.set job.idempotencyKey job.jobId })
        else (.error .validationError, repo)

/-- mirrors app/repositories/memory_formation.py:255-307 -/
def claimJob (owner leaseToken : String) (now : Instant) (lease : Int) :
    Except FormationError Reply × MemoryFormationTurnJobRepository :=
  let jobs := sweep now repo.jobs
  match (byClaimKey (jobs.values.filter (eligible now))).head? with
  | none => (.ok (.job none), { repo with jobs := jobs })
  | some job =>
    let claimed := claimed owner leaseToken now lease job
    (.ok (.job (some claimed)), { repo with jobs := jobs.put claimed })

/-- mirrors app/repositories/memory_formation.py:404-417 (`_required_job`, `_validate_claim`) -/
def claimedJob (jobId owner leaseToken : String) (now : Instant) :
    Except FormationError FormationJob :=
  match repo.jobs.get? jobId with
  | none => .error (.valueError "Formation job not found")
  | some job =>
    if job.status ≠ .claimed then .error (.valueError "Formation job is not claimed")
    else if job.leaseOwner ≠ some owner || job.leaseToken ≠ some leaseToken then
      .error (.valueError "Formation job lease ownership changed")
    else if job.leaseExpiresAt.all (· ≤ now) then
      .error (.valueError "Formation job lease expired")
    else .ok job

/-- mirrors app/repositories/memory_formation.py:419-438 -/
def advanceContiguousWatermark (session : SessionIdentity) : MemoryFormationTurnJobRepository :=
  match contiguousLast repo.turns session with
  | none => repo
  | some last => { repo with watermarks := repo.watermarks.set session last }

/-- mirrors app/repositories/memory_formation.py:309-346 -/
def completeJob (jobId owner leaseToken : String) (now : Instant)
    (traceSummary : Option JsonDict) :
    Except FormationError Reply × MemoryFormationTurnJobRepository :=
  match repo.claimedJob jobId owner leaseToken now with
  | .error e => (.error e, repo)
  | .ok job =>
    let completed := completed now (JsonDict.merge job.traceSummary (traceSummary.getD [])) job
    let repo :=
      { repo with
        jobs := repo.jobs.put completed
        turns := formTurns repo.turns job.sourceRefs }
    (.ok (.job (some completed)),
      match job.sessionId.filter (· ≠ "") with
      | none => repo
      | some sessionId => repo.advanceContiguousWatermark ⟨job.tenantId, job.userId, sessionId⟩)

/-- mirrors app/repositories/memory_formation.py:348-378 -/
def failJob (jobId owner leaseToken : String) (now : Instant) (errorCode : String)
    (nextAttemptAt : Instant) : Except FormationError Reply × MemoryFormationTurnJobRepository :=
  match repo.claimedJob jobId owner leaseToken now with
  | .error e => (.error e, repo)
  | .ok job =>
    let failed := failed (failureStatus job) now nextAttemptAt errorCode job
    (.ok (.job (some failed)), { repo with jobs := repo.jobs.put failed })

/-- mirrors app/repositories/memory_formation.py:380-383 -/
def successfulWatermark (session : SessionIdentity) : Option String := repo.watermarks.get? session

def call (digest : String → String) :
    Call → Except FormationError Reply × MemoryFormationTurnJobRepository
  | .appendTurn turn windowTurns p =>
    repo.appendTurnAndMaybeCreateWindowJob digest turn windowTurns p
  | .createJobForPending session trigger maxTurns idleDueAt p =>
    repo.createJobForPending digest session trigger maxTurns idleDueAt p
  | .addJob job => repo.addJob job
  | .claimJob owner leaseToken now lease => repo.claimJob owner leaseToken now lease
  | .completeJob jobId owner leaseToken now traceSummary =>
    repo.completeJob jobId owner leaseToken now traceSummary
  | .failJob jobId owner leaseToken now errorCode nextAttemptAt =>
    repo.failJob jobId owner leaseToken now errorCode nextAttemptAt

end MemoryFormationTurnJobRepository

/-! ## The repository in the database -/

structure Grant where
  jobId : String
  owner : String
  leaseToken : String
  claimedAt : Instant
  expiresAt : Instant
  deriving DecidableEq

/-- The rows. `grants` is a ghost: the claims, last first. -/
structure FormationTables where
  turns : Turns
  jobs : Jobs
  grants : List Grant

abbrev FormationTransaction :=
  Transaction FormationTables String (Except FormationError Reply)

namespace Db

variable (d : FormationTables)

def raise (e : FormationError) : FormationTransaction := .ret (.error e)

/-- `session.refresh(row)` and the reply. -/
def refresh (jobId : String) : FormationTransaction :=
  .read fun d =>
  match d.jobs.get? jobId with
  | none => raise .invalidRequest
  | some row => .ret (.ok (.job (some row)))

/-- mirrors app/repositories/memory_formation.py:499-530 -/
def addJob (job : FormationJob) : Except FormationError Reply × FormationTables :=
  match d.jobs.values.find? (·.idempotencyKey = job.idempotencyKey) with
  | some existing => ((validateJobIdentity existing job).map fun _ => .job (some existing), d)
  | none =>
    match d.jobs.get? job.jobId with
    | some existing => ((validateJobIdentity existing job).map fun _ => .job (some existing), d)
    | none => (.ok (.job (some job)), { d with jobs := d.jobs.put job })

def insertJob (job : FormationJob) (turns : Turns) : Except FormationError FormationTables :=
  if d.jobs.contains job.jobId then .error .integrityError
  else .ok { d with turns := turns, jobs := d.jobs.put job }

/-- The session lock keeps every other insert out, so that the flush of the new
row meets no duplicate.
mirrors app/repositories/memory_formation.py:584-719 -/
def appendTurnAndMaybeCreateWindowJob (digest : String → String) (turn : FormationTurn)
    (windowTurns : Nat) (p : RangeParameters) : Except FormationError Reply × FormationTables :=
  match d.turns.values.find? fun value => value.turnId = turn.turnId || sameRequest turn value with
  | some existing => ((validateTurnIdentity existing turn).map fun _ => .turn existing none, d)
  | none =>
    let flushed := d.turns.put turn
    let latestDeadline :=
      ((flushed.values.filter (waits turn.session)).filterMap (·.idleDeadlineAt)).max?
    match ([latestDeadline, turn.idleDeadlineAt].filterMap id).max? with
    | none => (.error (.valueError "max() iterable argument is empty"), d)
    | some effectiveDeadline =>
      let turns := setDeadline flushed turn.session (some effectiveDeadline)
      let pending := listPendingTurns turns turn.session
      if windowTurns ≤ pending.length then
        let frozen := pending.take windowTurns
        match buildRangeJob digest frozen .turnWindow p with
        | .error e => (.error e, d)
        | .ok job =>
          match d.jobs.values.find? (·.idempotencyKey = job.idempotencyKey) with
          | some existing =>
            let turns := claimTurns turns (frozen.map (·.turnId)) existing.jobId
            (.ok (.turn ((turns.get? turn.turnId).getD turn) (some existing)),
              { d with turns := turns })
          | none =>
            let turns := claimTurns turns (frozen.map (·.turnId)) job.jobId
            match insertJob d job turns with
            | .error e => (.error e, d)
            | .ok d' => (.ok (.turn ((turns.get? turn.turnId).getD turn) (some job)), d')
      else (.ok (.turn ((turns.get? turn.turnId).getD turn) none), { d with turns := turns })

/-- mirrors app/repositories/memory_formation.py:781-874 -/
def createJobForPending (digest : String → String) (session : SessionIdentity)
    (trigger : MemoryFormationTrigger) (maxTurns : Option Nat) (idleDueAt : Option Instant)
    (p : RangeParameters) : Except FormationError Reply × FormationTables :=
  match limited maxTurns (listPendingTurns d.turns session) with
  | [] => (.ok (.job none), d)
  | first :: rest =>
    if idleDueAt.any fun due => (first :: rest).any (notDue due) then (.ok (.job none), d)
    else
      let job := rangeJob digest first rest trigger p
      match d.jobs.values.find? (·.idempotencyKey = job.idempotencyKey) with
      | some existing => (.ok (.job (some existing)), d)
      | none =>
        if validates job then
          match insertJob d job (claimTurns d.turns job.sourceRefs job.jobId) with
          | .error e => (.error e, d)
          | .ok d' => (.ok (.job (some job)), d')
        else (.error .validationError, d)

def selected (test : FormationJob → Bool) : List String :=
  (byClaimKey (d.jobs.values.filter test)).map (·.jobId)

def rows (ids : List String) : List FormationJob := ids.filterMap d.jobs.get?

def writeJobs (jobs : Jobs) (rows : List FormationJob) : Jobs := rows.foldl Table.put jobs

/-- The rows the session holds are written at the second query (autoflush).
mirrors app/repositories/memory_formation.py:882-961 -/
def claimJob (owner leaseToken : String) (now : Instant) (lease : Int) : FormationTransaction :=
  .skipLocked (fun d => selected d (exhausted now)) none fun d ids =>
  let dead := (rows d ids).map (deadLettered now)
  .skipLocked (fun d => selected d (eligible now)) (some 1) fun d ids =>
  match rows d ids with
  | [] =>
    .commit (fun d => { d with jobs := writeJobs d.jobs dead }) (.ret (.ok (.job none)))
  | row :: _ =>
    .lock row.jobId fun d =>
    match (d.jobs.get? row.jobId).filter fun current =>
        current.status = row.status && current.attemptCount = row.attemptCount with
    | none => .ret (.ok (.job none))
    | some current =>
      let claimed := claimed owner leaseToken now lease current
      .commit
        (fun d =>
          { d with
            jobs := (writeJobs d.jobs dead).put claimed
            grants := ⟨row.jobId, owner, leaseToken, now, now + lease⟩ :: d.grants })
        (refresh row.jobId)

/-- mirrors app/repositories/memory_formation.py:963-1011 -/
def completeJob (jobId owner leaseToken : String) (now : Instant)
    (traceSummary : Option JsonDict) : FormationTransaction :=
  .read fun d =>
  match d.jobs.get? jobId with
  | none => raise (.valueError "Formation job not found")
  | some row =>
    .lock jobId fun d =>
    match (d.jobs.get? jobId).filter (heldBy owner leaseToken now) with
    | none => raise (.valueError "Formation job claim transition lost")
    | some current =>
      let completed := completed now (JsonDict.merge row.traceSummary (traceSummary.getD [])) current
      .commit
        (fun d =>
          { d with jobs := d.jobs.put completed, turns := formTurns d.turns row.sourceRefs })
        (refresh jobId)

/-- mirrors app/repositories/memory_formation.py:1013-1053 -/
def failJob (jobId owner leaseToken : String) (now : Instant) (errorCode : String)
    (nextAttemptAt : Instant) : FormationTransaction :=
  .read fun d =>
  match d.jobs.get? jobId with
  | none => raise (.valueError "Formation job not found")
  | some row =>
    .lock jobId fun d =>
    match (d.jobs.get? jobId).filter (heldBy owner leaseToken now) with
    | none => raise (.valueError "Formation job claim transition lost")
    | some current =>
      .commit
        (fun d =>
          { d with
            jobs := d.jobs.put (failed (failureStatus row) now nextAttemptAt errorCode current) })
        (refresh jobId)

/-- mirrors app/repositories/memory_formation.py:1055-1082 -/
def successfulWatermark (session : SessionIdentity) : Option String := contiguousLast d.turns session

def call (digest : String → String) : Call → Except FormationError Reply × FormationTables
  | .appendTurn turn windowTurns p =>
    appendTurnAndMaybeCreateWindowJob d digest turn windowTurns p
  | .createJobForPending session trigger maxTurns idleDueAt p =>
    createJobForPending d digest session trigger maxTurns idleDueAt p
  | .addJob job => addJob d job
  | .claimJob owner leaseToken now lease => (claimJob owner leaseToken now lease).run d
  | .completeJob jobId owner leaseToken now traceSummary =>
    (completeJob jobId owner leaseToken now traceSummary).run d
  | .failJob jobId owner leaseToken now errorCode nextAttemptAt =>
    (failJob jobId owner leaseToken now errorCode nextAttemptAt).run d

/-! ## Rows written back -/

theorem get?_writeJobs (jobs : Jobs) (rows : List FormationJob) (id : String) :
    (writeJobs jobs rows).get? id = jobs.get? id ∨
      ∃ row ∈ rows, row.jobId = id ∧ (writeJobs jobs rows).get? id = some row := by
  induction rows generalizing jobs with
  | nil => exact .inl rfl
  | cons row rows ih =>
    show (writeJobs (jobs.put row) rows).get? id = _ ∨
      ∃ r ∈ row :: rows, _ ∧ (writeJobs (jobs.put row) rows).get? id = _
    rcases ih (jobs.put row) with hsame | ⟨r, hmem, hid, hget⟩
    · rw [hsame, Table.get?_put]
      split
      · next hid => exact .inr ⟨row, List.mem_cons_self, hid, rfl⟩
      · exact .inl rfl
    · exact .inr ⟨r, List.mem_cons_of_mem _ hmem, hid, hget⟩

theorem get?_writeJobs_of_mem {rows : List FormationJob} {row : FormationJob} (hmem : row ∈ rows)
    (jobs : Jobs) :
    ∃ r ∈ rows, r.jobId = row.jobId ∧ (writeJobs jobs rows).get? row.jobId = some r := by
  induction rows generalizing jobs with
  | nil => cases hmem
  | cons head rows ih =>
    show ∃ r ∈ head :: rows, _ ∧ (writeJobs (jobs.put head) rows).get? row.jobId = _
    rcases List.mem_cons.1 hmem with rfl | hmem
    · rcases get?_writeJobs (jobs.put row) rows row.jobId with hsame | ⟨r, hr, hid, hget⟩
      · exact ⟨row, List.mem_cons_self, rfl, by rw [hsame, Table.get?_put_self]⟩
      · exact ⟨r, List.mem_cons_of_mem _ hr, hid, hget⟩
    · obtain ⟨r, hr, hid, hget⟩ := ih hmem (jobs.put head)
      exact ⟨r, List.mem_cons_of_mem _ hr, hid, hget⟩

end Db
end OpenIntentRouter.Repositories.Formation
