import OpenIntentRouter.Repositories.MemoryItems
import OpenIntentRouter.Services.StructuredEventProjector

/-!
# Structured formation

`StructuredFormationPublisher` makes jobs of plans, runs and results (`publishRun`);
`MemoryFormationProcessor` evaluates the candidates of a job, holds back what is
not newer than the memory, and hands the decision to the lifecycle service. The
publisher is off when the mode is.

A job keeps its command as records: `trace_summary` holds what `model_dump` makes
of them, which `model_validate` reads back. What a record dumps to, for the
version of an event, is a parameter.
-/
namespace OpenIntentRouter.Services

open Core Core.Except Schemas Repositories.MemoryIndex

/-- mirrors app/services/memory_integration.py:71-72 -/
structure FormationSourceUnavailable where
  message : String
  deriving DecidableEq

structure StructuredCommand where
  sourceType : String
  sourceId : String
  sourceVersion : String
  eventId : String
  sourceOrder : Nat
  canonicalRefs : List String
  candidates : List FormationCandidate

structure StructuredJob extends FormationJob where
  command : StructuredCommand

/-! ## Publishing -/

/-- The settings of the publisher; `runDump` is what a run dumps to. -/
structure StructuredFormationPublisher where
  projector : StructuredEventProjector
  mode : MemoryFormationMode
  modelVersion : String
  promptVersion : String
  policyVersion : String
  maxAttempts : Nat
  runDump : AgentRun → JsonDict

/-- mirrors app/services/memory_integration.py:655-659 -/
def sourceVersion (py : Python) (value : JsonDict) : String :=
  "v_" ++ py.sha256 (compactDumps py (.obj value))

/-- mirrors app/services/memory_integration.py:662-664 (`_event_id`) -/
def structuredEventId (py : Python) (sourceType sourceId sourceVersion : String) : String :=
  "mfevt_" ++ String.ofList
    ((py.sha256 (String.intercalate "\x1f" [sourceType, sourceId, sourceVersion])).toList.take 32)

/-- mirrors app/services/memory_integration.py:667-674 -/
def uniqueRefs (values : List String) : List String :=
  (values.filter (· ≠ "")).eraseDups.take 100

namespace StructuredFormationPublisher

variable (publisher : StructuredFormationPublisher)

/-- mirrors app/services/memory_integration.py:179-213 (`_publish`), up to `add_job` -/
def publish (now : Instant) (projection : StructuredProjection) (sessionId : Option String)
    (sourceOrder : Nat) : StructuredJob where
  jobId := "mfjob_struct_" ++
    String.ofList ((publisher.projector.py.sha256 projection.idempotencyKey).toList.take 32)
  status := .pending
  tenantId := projection.tenantId
  userId := projection.userId
  sourceRefs := uniqueRefs (projection.eventId :: projection.canonicalRefs)
  traceSummary := []
  trigger := .structuredEvent
  mode := publisher.mode
  sessionId := sessionId
  firstTurnId := none
  lastTurnId := none
  idempotencyKey := projection.idempotencyKey
  modelVersion := publisher.modelVersion
  promptVersion := publisher.promptVersion
  policyVersion := publisher.policyVersion
  attemptCount := 0
  maxAttempts := publisher.maxAttempts
  leaseOwner := none
  leaseToken := none
  leaseExpiresAt := none
  nextAttemptAt := none
  lastErrorCode := none
  createdAt := now
  updatedAt := now
  command :=
    { sourceType := projection.sourceType
      sourceId := projection.sourceId
      sourceVersion := projection.sourceVersion
      eventId := projection.eventId
      sourceOrder := sourceOrder
      canonicalRefs := projection.canonicalRefs
      candidates := projection.candidates }

/-- `value or default` -/
def orElse (value : Option String) (default : String) : String :=
  (value.filter (· ≠ "")).getD default

def runEventOrder : RunProjectionEvent → Nat
  | .create => 1
  | .update => 2
  | .complete => 3
  | .fail => 3

def runVersion (run : AgentRun) (eventType : RunProjectionEvent) : String :=
  sourceVersion publisher.projector.py
    [("event_type", .str eventType.value), ("run", .obj (publisher.runDump run))]

/-- mirrors app/services/memory_integration.py:123-145 -/
def publishRun (now : Instant) (run : AgentRun) (eventType : RunProjectionEvent)
    (eventId version : Option String) : Except StoreError (Option StructuredJob) :=
  if publisher.mode = .off then .ok none
  else do
    let version := orElse version (publisher.runVersion run eventType)
    let projection ← publisher.projector.projectRun run eventType
      (orElse eventId (structuredEventId publisher.projector.py "run" run.runId version)) version none
    return some (publisher.publish now projection (some run.sessionId) (runEventOrder eventType))

end StructuredFormationPublisher

/-! ## Transitions of runs -/

/-- mirrors app/services/memory_integration.py:676-681 -/
def runEventType : RunStatus → RunProjectionEvent
  | .completed => .complete
  | .failed | .invalidOutput => .fail
  | .blocked | .clarify => .update
  | .pending | .running | .cancelled | .timedOut | .timeout => .create

/-- mirrors app/services/memory_integration.py:684-689 and
app/repositories/memory.py:605-610 -/
def runSourceOrder : RunStatus → Nat
  | .running => 1
  | .blocked | .clarify => 2
  | .completed | .failed | .invalidOutput | .pending | .cancelled | .timedOut | .timeout => 3

def runningCopy (run : AgentRun) : AgentRun :=
  { run with status := .running, output := none, error := none, updatedAt := run.createdAt }

instance : DecidableEq MemoryFormationCandidate
  | ⟨s, c, v, q, i, e, _, _, _, _⟩, ⟨s', c', v', q', i', e', _, _, _, _⟩ =>
    decidable_of_iff (s = s' ∧ c = c' ∧ v = v' ∧ q = q' ∧ i = i' ∧ e = e') (by simp)
deriving instance DecidableEq for FormationCandidate
deriving instance DecidableEq for StructuredCommand

/-- The commands are compared as the records that they are dumps of.
mirrors app/repositories/memory_formation.py:1298-1313 (`_validate_job_identity`) -/
def validateStructuredJob (existing incoming : StructuredJob) : Except StoreError Unit := do
  Except.ensure
    (existing.trigger = incoming.trigger && existing.tenantId = incoming.tenantId &&
      existing.userId = incoming.userId && existing.sessionId = incoming.sessionId &&
      existing.sourceRefs = incoming.sourceRefs &&
      existing.idempotencyKey = incoming.idempotencyKey &&
      existing.modelVersion = incoming.modelVersion &&
      existing.promptVersion = incoming.promptVersion &&
      existing.policyVersion = incoming.policyVersion)
    (.valueError "Formation job identity conflict")
  Except.ensure (existing.command = incoming.command)
    (.valueError "Formation job command conflict")

/-- mirrors app/repositories/memory_formation.py:55-69 (`add_job`) -/
def addStructuredJob (jobs : List StructuredJob) (job : StructuredJob) :
    Except StoreError (List StructuredJob) :=
  match (jobs.find? (·.idempotencyKey = job.idempotencyKey)).or
      (jobs.find? (·.jobId = job.jobId)) with
  | some existing => (fun _ => jobs) <$> validateStructuredJob existing job
  | none => .ok (jobs ++ [job])

/-- The job is new, or one with the same command is there. -/
theorem addStructuredJob_ok {jobs jobs' : List StructuredJob} {job : StructuredJob}
    (h : addStructuredJob jobs job = .ok jobs') :
    jobs' = jobs ∧ (∃ existing ∈ jobs, existing.command = job.command) ∨
      jobs' = jobs ++ [job] ∧ ∀ other ∈ jobs, other.jobId ≠ job.jobId := by
  unfold addStructuredJob at h
  split at h
  · next existing hfound =>
    obtain ⟨_, hvalid, rfl⟩ := map_eq_ok.1 h
    obtain ⟨_, -, hcommand⟩ := bind_eq_ok.1 hvalid
    have hmem : existing ∈ jobs := by
      rcases Option.or_eq_some_iff.1 hfound with hkey | ⟨-, hid⟩
      · exact List.mem_of_find?_eq_some hkey
      · exact List.mem_of_find?_eq_some hid
    exact .inl ⟨rfl, existing, hmem, of_decide_eq_true (ensure_eq_ok.1 hcommand)⟩
  · next hnone =>
    cases h
    have hfree := List.find?_eq_none.1 (Option.or_eq_none_iff.1 hnone).2
    exact .inr ⟨rfl, fun other hmem => by simpa using hfree other hmem⟩

/-! ## Processing -/

/-- mirrors app/services/memory_integration.py:646-651 -/
def structuredSourceOrder (job : StructuredJob) : Except FormationSourceUnavailable Nat :=
  if job.command.sourceOrder < 1 then .error ⟨"Structured formation source order is missing"⟩
  else .ok job.command.sourceOrder

def sourceFields (job : StructuredJob) (order : Nat) : JsonDict :=
  [("_formation_source_type", .str job.command.sourceType),
    ("_formation_source_id", .str job.command.sourceId),
    ("_formation_source_version", .str job.command.sourceVersion),
    ("_formation_source_order", .num order)]

theorem distinctKeys_source {d : JsonDict} (h : (Json.obj d).distinctKeys = true)
    (job : StructuredJob) (order : Nat) :
    (Json.obj (JsonDict.merge d (sourceFields job order))).distinctKeys = true :=
  JsonDict.distinctKeys_merge h (by simp [sourceFields])

def sourced (candidate : FormationCandidate) (job : StructuredJob) (order : Nat) :
    FormationCandidate :=
  { candidate with
    structuredValue := JsonDict.merge candidate.structuredValue (sourceFields job order)
    structuredValue_keys := distinctKeys_source candidate.structuredValue_keys job order }

/-- mirrors app/services/memory_integration.py:627-643 -/
def withStructuredSource (candidate : FormationCandidate) (job : StructuredJob) :
    Except FormationSourceUnavailable FormationCandidate :=
  (structuredSourceOrder job).map (sourced candidate job)

def storeReads (store : MemoryStore) (now : Instant) : Reads where
  currentByKey := store.getCurrentByKey
  activeByIds := store.getActiveByIds now

/-- The order of the event that a memory shows, if `isinstance(applied_order, int)`. -/
def appliedOrder (item : MemoryItem) : Option Int :=
  match Json.field item.structuredValue "_formation_source_order" with
  | some (.num q) => if q.den = 1 then some q.num else none
  | some (.bool b) => some (if b then 1 else 0)
  | _ => none

/-- A decision that is not applied since the memory shows an event at least as new. -/
def staleDecision (decision : CandidatePolicyResult) (current : MemoryItem) (incoming : Nat)
    (applied : Int) : CandidatePolicyResult :=
  { decision with
    operation :=
      { decision.operation with
        operation := .noop
        decisionStatus := .noop
        reasonCode := .duplicateCandidate
        memoryId := some current.memoryId
        revisionId := current.currentRevisionId }
    redactedTrace := JsonDict.merge decision.redactedTrace
      [("operation", .str "noop"), ("decision_status", .str "noop"),
        ("reason_code", .str "duplicate_candidate"), ("stale_source_order", .num incoming),
        ("applied_source_order", .num applied)] }

/-- mirrors app/services/memory_integration.py:573-615 -/
def suppressStaleStructuredDecision (reads : Reads) (job : StructuredJob)
    (decision : CandidatePolicyResult) : Except FormationSourceUnavailable CandidatePolicyResult :=
  let operation := decision.operation
  match reads.currentByKey operation.tenantId operation.userId decision.candidate.scope
      operation.memoryKey with
  | none => .ok decision
  | some current => do
    let incoming ← structuredSourceOrder job
    match appliedOrder current with
    | none => return decision
    | some applied =>
      if applied < incoming then return decision
      else return staleDecision decision current incoming applied

/-! ## Applying a decision -/

/-- mirrors app/services/memory_lifecycle.py:35-41 -/
structure MemoryLifecycleResult where
  operation : MemoryLifecycleOperation
  item : Option MemoryItem
  revision : Option MemoryRevision
  event : Option MemoryEvent
  indexOperation : Option MemoryIndexOperation
  idempotentReplay : Bool

/-- What `_add` and `_update` make of a commit. -/
def MemoryLifecycleResult.ofCommit (operation : MemoryLifecycleOperation) (commit : Commit) :
    MemoryLifecycleResult :=
  ⟨operation, some commit.item, some commit.revision, some commit.event, some commit.indexOperation,
    commit.replay⟩

namespace MemoryLifecycleService

variable (service : MemoryLifecycleService)

/-- mirrors app/services/memory_lifecycle.py:727-739 -/
def pendingCandidateSnapshot (candidate : FormationCandidate) : JsonDict :=
  let value := candidateJson candidate
  let value := JsonDict.set value "content" (.str (service.redaction.text candidate.content (some 2000)))
  let value := JsonDict.set value "structured_value"
    (service.redaction.redactValue (.obj candidate.structuredValue))
  let value := JsonDict.set value "evidence_refs"
    (.arr ((candidate.evidenceRefs.take 20).map fun ref =>
      .obj (evidenceJson { ref with quote := none })))
  JsonDict.set value "reason" (.str (service.redaction.text candidate.reason (some 500)))

/-- The event of a decision that is not committed: a pending one keeps its candidate.
mirrors app/services/memory_lifecycle.py:678-724 (`_decision_event`) -/
def recordedEvent (operation : MemoryLifecycleOperation) (candidate : FormationCandidate)
    (now : Instant) : MemoryEvent :=
  let event := service.decisionEvent operation candidate.toMemoryFormationCandidate now
  if operation.decisionStatus = .pending && operation.reasonCode ≠ .sensitiveContent then
    { event with
      payload := JsonDict.set event.payload "pending_candidate"
        (.obj (service.pendingCandidateSnapshot candidate)) }
  else event

/-- mirrors app/services/memory_lifecycle.py:219-232 -/
def recordDecision (operation : MemoryLifecycleOperation) (candidate : FormationCandidate)
    (now : Instant) (store : MemoryStore) : Except StoreError (MemoryLifecycleResult × MemoryStore) := do
  let ((event, replay), store) ← store.recordDecision (service.recordedEvent operation candidate now)
  return (⟨operation, none, none, some event, none, replay⟩, store)

/-- mirrors app/services/memory_lifecycle.py:58-67 -/
def apply (decision : CandidatePolicyResult) (now : Instant) (store : MemoryStore) :
    Except StoreError (MemoryLifecycleResult × MemoryStore) :=
  let operation := decision.operation
  let candidate := decision.candidate.toMemoryFormationCandidate
  match operation.operation with
  | .add => do
    let (commit, store) ← service.add operation candidate now store
    let applied := { operation with
      memoryId := some (service.addedMemoryId operation)
      revisionId := some (service.addedRevisionId operation) }
    return (.ofCommit applied commit, store)
  | .update | .consolidate => do
    let (commit, store) ← service.update operation candidate now store
    return (.ofCommit { operation with revisionId := some (service.updatedRevisionId operation) }
      commit, store)
  | .delete => do
    let (request, store) ← service.requestDelete operation now store
    return (⟨operation, request.item, none, some request.event, some request.indexOperation,
      request.replay⟩, store)
  | .noop | .reject | .pending | .ignore =>
    service.recordDecision operation decision.candidate now store

/-! ## What applying does -/

section Apply

variable {service} {decision : CandidatePolicyResult} {now : Instant} {store store' : MemoryStore}
  {result : MemoryLifecycleResult}

theorem apply_add (hadd : decision.operation.operation = .add)
    (h : service.apply decision now store = .ok (result, store')) :
    ∃ commit, service.add decision.operation decision.candidate.toMemoryFormationCandidate now store =
      .ok (commit, store') := by
  unfold apply at h
  simp only [hadd] at h
  obtain ⟨⟨commit, made⟩, hcommit, h⟩ := bind_eq_ok.1 h
  cases h
  exact ⟨commit, hcommit⟩

theorem apply_update (hupdate : decision.operation.operation = .update)
    (h : service.apply decision now store = .ok (result, store')) :
    ∃ commit, service.update decision.operation decision.candidate.toMemoryFormationCandidate now
      store = .ok (commit, store') := by
  unfold apply at h
  simp only [hupdate] at h
  obtain ⟨⟨commit, made⟩, hcommit, h⟩ := bind_eq_ok.1 h
  cases h
  exact ⟨commit, hcommit⟩

/-- A decision that changes no memory is recorded as an event. -/
theorem apply_recorded
    (hleave : decision.operation.operation = .noop ∨ decision.operation.operation = .reject)
    (h : service.apply decision now store = .ok (result, store')) :
    ∃ events, store' = { store with events := events } := by
  have hrecord : service.recordDecision decision.operation decision.candidate now store =
      .ok (result, store') := by
    unfold apply at h
    rcases hleave with hop | hop <;> simpa only [hop] using h
  obtain ⟨⟨⟨event, replay⟩, made⟩, hevent, h⟩ := bind_eq_ok.1 hrecord
  cases h
  unfold MemoryStore.recordDecision at hevent
  split at hevent
  · obtain ⟨_, -, hevent⟩ := bind_eq_ok.1 hevent
    cases hevent
    exact ⟨store.events, rfl⟩
  · cases hevent
    exact ⟨_, rfl⟩

end Apply

end MemoryLifecycleService
end OpenIntentRouter.Services
