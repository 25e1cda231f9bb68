import OpenIntentRouter.Repositories.DatabaseMemoryIndex

/-!
# The lifecycle service of memories

`MemoryLifecycleService` turns an operation that a policy has decided into the
records of a commit: the ids are digests of the operation id, so that the same
operation gives the same records but for the time. `now` is the reading of the
clock. `decisionEvent` is the event of a commit; a pending decision, which is not
committed, adds the snapshot of its candidate (`recordedEvent`).

* `add_ok`, `update_ok`, `requestDelete_ok`: an accepted operation is the call
  of the store with its records.
-/
namespace OpenIntentRouter.Services

open Core Core.Except Schemas Repositories.MemoryIndex

structure MemoryLifecycleService where
  policyVersion : String
  maxAttempts : Nat
  taskTtlDays : Int
  sessionSummaryTtlDays : Int
  artifactReferenceTtlDays : Int
  sha256 : String → String
  redaction : Redaction

/-- `timedelta(days=n)`. -/
def days (n : Int) : Int := n * 86400000000

/-- A value of type `str | None`. -/
def optionJson : Option String → Json
  | some s => .str s
  | none => .null

/-- mirrors app/services/memory_lifecycle.py:820-823 (`_required_memory_id`) -/
def lifecycleMemoryId (operation : MemoryLifecycleOperation) : Except StoreError String :=
  match operation.memoryId with
  | some memoryId =>
    if memoryId ≠ "" then .ok memoryId
    else .error (.valueError "Lifecycle operation requires memory_id")
  | none => .error (.valueError "Lifecycle operation requires memory_id")

/-- mirrors app/services/memory_lifecycle.py:826-833 (`_require_accepted`); `label` is
`expected.value.upper()` -/
def requireAccepted (operation : MemoryLifecycleOperation) (expected : MemoryOperation)
    (label : String) : Except StoreError Unit :=
  Except.ensure (operation.operation = expected && operation.decisionStatus = .accepted)
    (.valueError ("Lifecycle " ++ label ++ " requires an accepted decision"))

/-- `operation.model_dump(mode="json")`. -/
def operationJson (operation : MemoryLifecycleOperation) (memoryKey : String)
    (metadata : JsonDict) : JsonDict :=
  [("operation_id", .str operation.operationId), ("operation", .str operation.operation.value),
    ("decision_status", .str operation.decisionStatus.value),
    ("reason_code", .str operation.reasonCode.value), ("tenant_id", .str operation.tenantId),
    ("user_id", .str operation.userId), ("subject_type", .str operation.subjectType),
    ("subject_id", .str operation.subjectId), ("agent_id", optionJson operation.agentId),
    ("source", optionJson operation.source), ("metadata", .obj metadata),
    ("memory_key", .str memoryKey), ("candidate_hash", .str operation.candidateHash),
    ("memory_id", optionJson operation.memoryId),
    ("revision_id", optionJson operation.revisionId),
    ("formation_job_id", optionJson operation.formationJobId),
    ("canonical_refs", .arr (operation.canonicalRefs.map .str))]

namespace MemoryLifecycleService

variable (service : MemoryLifecycleService)

/-- mirrors app/services/memory_lifecycle.py:796-797 -/
def eventId (operationId suffix : String) : String :=
  stableId service.sha256 "mevt" (operationId ++ ":" ++ suffix)

/-- mirrors app/services/memory_lifecycle.py:800-813 -/
def operationTargetHash (operation : MemoryLifecycleOperation) (memoryKey : String) : String :=
  "sha256:" ++ service.sha256 (String.intercalate "\x1f"
    [operation.tenantId, operation.userId, operation.subjectType, operation.subjectId, memoryKey,
      operation.candidateHash, operation.memoryId.getD "", operation.revisionId.getD ""])

/-- mirrors app/services/memory_lifecycle.py:746-770 (`_lifecycle_event`); `memoryKey` is the
key of the operation, which a sensitive decision replaces -/
def lifecycleEvent (operation : MemoryLifecycleOperation) (memoryKey eventType eventId : String)
    (now : Instant) (payload : JsonDict) (scope : Option String) (includeMemoryKey : Bool) :
    MemoryEvent where
  eventId := eventId
  eventType := eventType
  memoryId := operation.memoryId
  userId := some operation.userId
  tenantId := some operation.tenantId
  agentId := operation.agentId
  formationJobId := operation.formationJobId
  memoryKey := if includeMemoryKey then some memoryKey else none
  decisionStatus := some operation.decisionStatus
  scope := scope
  payload :=
    JsonDict.set payload "target_hash" (.str (service.operationTargetHash operation memoryKey))
  createdAt := now

/-- mirrors app/services/memory_lifecycle.py:678-724 -/
def decisionEvent (operation : MemoryLifecycleOperation) (candidate : MemoryFormationCandidate)
    (now : Instant) : MemoryEvent :=
  let sensitive := decide (operation.reasonCode = .sensitiveContent)
  let memoryKey :=
    if sensitive then "redacted:sha256:" ++ service.sha256 operation.memoryKey
    else operation.memoryKey
  let metadata : JsonDict :=
    if sensitive then [("scope", .str candidate.scope), ("content_redacted", .bool true)]
    else
      [("scope", .str candidate.scope),
        ("content_preview", .str (service.redaction.text candidate.content (some 300))),
        ("content_redacted", .bool false)]
  let payload : JsonDict :=
    [("reason_code", .str operation.reasonCode.value),
      ("candidate_hash", .str operation.candidateHash), ("confidence", .num candidate.confidence),
      ("importance", .num candidate.importance),
      ("operation", service.redaction.redactValue (.obj (operationJson operation memoryKey metadata))),
      ("content_redacted", .bool sensitive),
      ("semantic_contract_version",
        (Json.field operation.metadata "semantic_contract_version").getD .null),
      ("semantic_validation", (Json.field operation.metadata "semantic_validation").getD .null),
      ("semantic_verifier", (Json.field operation.metadata "semantic_verifier").getD .null)]
  service.lifecycleEvent operation memoryKey ("memory_decision_" ++ operation.operation.value)
    (service.eventId operation.operationId "decision") now payload (some candidate.scope) true

/-- mirrors app/services/memory_lifecycle.py:773-793 -/
def indexOperation (operation : MemoryLifecycleOperation) (memoryId : String)
    (operationType : MemoryIndexOperationType) (revisionId : Option String) (now : Instant) :
    MemoryIndexOperation :=
  let identity := operation.operationId ++ ":" ++ operationType.value ++ ":" ++
    ((revisionId.filter (· ≠ "")).getD "none")
  { indexOperationId := stableId service.sha256 "midxop" identity
    idempotencyKey := "lifecycle:" ++ service.sha256 identity
    operation := operationType
    memoryId := memoryId
    revisionId := revisionId
    tenantId := operation.tenantId
    externalMemoryId := none
    status := .pending
    attemptCount := 0
    maxAttempts := service.maxAttempts
    leaseOwner := none
    leaseToken := none
    leaseExpiresAt := none
    nextAttemptAt := none
    lastErrorCode := none
    lastErrorMetadata := []
    createdAt := now
    updatedAt := now }

/-- mirrors app/services/memory_lifecycle.py:652-675 -/
def revision (operation : MemoryLifecycleOperation) (candidate : MemoryFormationCandidate)
    (memoryId revisionId : String) (revisionOperation : MemoryRevisionOperation) (now : Instant) :
    MemoryRevision where
  revisionId := revisionId
  memoryId := memoryId
  revisionNo := 1
  memoryKey := operation.memoryKey
  operation := revisionOperation
  content := candidate.content
  structuredValue := candidate.structuredValue
  evidenceRefs := candidate.evidenceRefs
  confidence := candidate.confidence
  policyVersion := service.policyVersion
  supersedesRevisionId := none
  formationJobId := operation.formationJobId
  createdAt := now

/-- mirrors app/schemas/memory.py:768-783 (`default_expiration_for_scope`) -/
def expiration (scope : String) (now : Instant) : Option Instant :=
  if scope = "task_memory" then some (now + days service.taskTtlDays)
  else if scope = "session_summary" then some (now + days service.sessionSummaryTtlDays)
  else if scope = "artifact_reference" then some (now + days service.artifactReferenceTtlDays)
  else none

def newItem (operation : MemoryLifecycleOperation) (candidate : MemoryFormationCandidate)
    (memoryId : String) (now : Instant) : MemoryItem where
  memoryId := memoryId
  scope := candidate.scope
  subjectType := operation.subjectType
  subjectId := operation.subjectId
  userId := some operation.userId
  tenantId := some operation.tenantId
  agentId := operation.agentId
  content := candidate.content
  structuredValue := candidate.structuredValue
  source := if truthy operation.source then operation.source.getD "" else "formation"
  confidence := candidate.confidence
  importance := candidate.importance
  visibility := .user
  ttlExpiresAt := service.expiration candidate.scope now
  metadata := operation.metadata
  memoryKey := some operation.memoryKey
  candidateHash := some operation.candidateHash
  currentRevisionId := none
  currentRevisionNo := none
  formationJobId := operation.formationJobId
  lifecycleStatus := .active
  indexStatus := some .pending
  canonicalRefs := operation.canonicalRefs
  createdAt := now
  updatedAt := now

def addedMemoryId (operation : MemoryLifecycleOperation) : String :=
  stableId service.sha256 "mem" operation.operationId

def addedRevisionId (operation : MemoryLifecycleOperation) : String :=
  stableId service.sha256 "mrev" (operation.operationId ++ ":revision:1")

def updatedRevisionId (operation : MemoryLifecycleOperation) : String :=
  stableId service.sha256 "mrev" (operation.operationId ++ ":revision")

structure Records where
  revision : MemoryRevision
  event : MemoryEvent
  indexOperation : MemoryIndexOperation

def addRecords (operation : MemoryLifecycleOperation) (candidate : MemoryFormationCandidate)
    (now : Instant) : Records :=
  let memoryId := service.addedMemoryId operation
  let revisionId := service.addedRevisionId operation
  let applied := { operation with memoryId := some memoryId, revisionId := some revisionId }
  { revision := service.revision operation candidate memoryId revisionId .add now
    event := service.decisionEvent applied candidate now
    indexOperation := service.indexOperation applied memoryId .add (some revisionId) now }

def updateRecords (operation : MemoryLifecycleOperation) (candidate : MemoryFormationCandidate)
    (memoryId : String) (now : Instant) : Records :=
  let revisionId := service.updatedRevisionId operation
  let revisionOperation : MemoryRevisionOperation :=
    if operation.operation = .consolidate then .consolidate else .update
  let applied := { operation with revisionId := some revisionId }
  { revision := service.revision operation candidate memoryId revisionId revisionOperation now
    event := service.decisionEvent applied candidate now
    indexOperation := service.indexOperation applied memoryId .update (some revisionId) now }

def updateValues (operation : MemoryLifecycleOperation) (candidate : MemoryFormationCandidate) :
    UpdateValues :=
  ⟨operation.candidateHash, candidate.confidence, candidate.importance, operation.canonicalRefs⟩

/-- mirrors app/services/memory_lifecycle.py:88-161 -/
def add (operation : MemoryLifecycleOperation) (candidate : MemoryFormationCandidate)
    (now : Instant) (store : MemoryStore) : Except StoreError (Commit × MemoryStore) := do
  requireAccepted operation .add "ADD"
  let records := service.addRecords operation candidate now
  store.commitAdd (service.newItem operation candidate (service.addedMemoryId operation) now)
    records.revision records.event records.indexOperation

/-- mirrors app/services/memory_lifecycle.py:163-217 -/
def update (operation : MemoryLifecycleOperation) (candidate : MemoryFormationCandidate)
    (now : Instant) (store : MemoryStore) : Except StoreError (Commit × MemoryStore) := do
  Except.ensure (operation.decisionStatus = .accepted)
    (.valueError "Lifecycle UPDATE requires an accepted decision")
  let memoryId ← lifecycleMemoryId operation
  let records := service.updateRecords operation candidate memoryId now
  store.commitUpdate operation records.revision records.event records.indexOperation
    (updateValues operation candidate)

def deletionEvent (operation : MemoryLifecycleOperation) (now : Instant) : MemoryEvent :=
  service.lifecycleEvent operation operation.memoryKey "memory_deletion_requested"
    (service.eventId operation.operationId "delete-requested") now
    [("reason_code", .str operation.reasonCode.value), ("provider_status", .str "pending")] none true

/-- mirrors app/services/memory_lifecycle.py:234-262 -/
def requestDelete (operation : MemoryLifecycleOperation) (now : Instant) (store : MemoryStore) :
    Except StoreError (DeleteRequest × MemoryStore) := do
  requireAccepted operation .delete "DELETE"
  let memoryId ← lifecycleMemoryId operation
  store.requestDelete service.redaction operation (service.deletionEvent operation now)
    (service.indexOperation operation memoryId .delete operation.revisionId now)

/-- mirrors app/services/memory_lifecycle.py:264-292 -/
def completeDelete (operation : MemoryLifecycleOperation) (now : Instant) (store : MemoryStore) :
    Except StoreError ((MemoryEvent × Bool) × MemoryStore) := do
  requireAccepted operation .delete "DELETE"
  let memoryId ← lifecycleMemoryId operation
  let tombstone := service.lifecycleEvent operation operation.memoryKey "memory_deleted_tombstone"
    (service.eventId operation.operationId "delete-completed") now
    [("reason_code", .str operation.reasonCode.value), ("operation", .str "delete"),
      ("provider_status", .str "completed")] none false
  store.completeDelete operation tombstone
    (service.indexOperation operation memoryId .delete operation.revisionId now).indexOperationId

/-- The error code that an event may show; `isalnum` is a test of `str`. -/
def safeError (isalnum : String → Bool) (errorCode : String) : String :=
  if errorCode ≠ "" && errorCode.length ≤ 128 &&
      isalnum (String.ofList (errorCode.toList.filter (· ≠ '_'))) then errorCode
  else "provider_delete_error"

/-- mirrors app/services/memory_lifecycle.py:294-329 -/
def recordDeleteFailure (isalnum : String → Bool) (operation : MemoryLifecycleOperation)
    (errorCode : String) (deadLetter : Bool) (now : Instant) (store : MemoryStore) :
    Except StoreError ((MemoryEvent × Bool) × MemoryStore) := do
  requireAccepted operation .delete "DELETE"
  let safe := safeError isalnum errorCode
  let kind := if deadLetter then "dead-letter" else "retry"
  let event := service.lifecycleEvent operation operation.memoryKey
    (if deadLetter then "memory_deletion_dead_letter" else "memory_deletion_retry")
    (service.eventId operation.operationId ("delete-" ++ kind ++ ":" ++ safe)) now
    [("reason_code", .str MemoryFormationReasonCode.providerError.value),
      ("provider_status", .str (if deadLetter then "dead_letter" else "retry")),
      ("error_code", .str safe)] none true
  store.recordDeleteFailure operation event deadLetter

/-! ## On the database -/

section Database

open Repositories.MemoryDatabase

/-- `_add` with the store of the database. -/
def databaseAdd (operation : MemoryLifecycleOperation) (candidate : MemoryFormationCandidate)
    (now : Instant) (tables : MemoryTables) : Except StoreError (Commit × MemoryTables) := do
  requireAccepted operation .add "ADD"
  let records := service.addRecords operation candidate now
  tables.commitAdd (service.newItem operation candidate (service.addedMemoryId operation) now)
    records.revision records.event records.indexOperation

/-- `_update` with the store of the database. -/
def databaseUpdate (operation : MemoryLifecycleOperation) (candidate : MemoryFormationCandidate)
    (now : Instant) (tables : MemoryTables) : Except StoreError (Commit × MemoryTables) := do
  Except.ensure (operation.decisionStatus = .accepted)
    (.valueError "Lifecycle UPDATE requires an accepted decision")
  let memoryId ← lifecycleMemoryId operation
  let records := service.updateRecords operation candidate memoryId now
  tables.commitUpdate operation records.revision records.event records.indexOperation
    (updateValues operation candidate)

/-- `request_delete` with the store of the database. -/
def databaseRequestDelete (operation : MemoryLifecycleOperation) (now : Instant)
    (tables : MemoryTables) : Except StoreError (DeleteRequest × MemoryTables) := do
  requireAccepted operation .delete "DELETE"
  let memoryId ← lifecycleMemoryId operation
  tables.requestDelete service.redaction operation (service.deletionEvent operation now)
    (service.indexOperation operation memoryId .delete operation.revisionId now)

/-- `complete_delete` with the store of the database. -/
def databaseCompleteDelete (operation : MemoryLifecycleOperation) (now : Instant)
    (tables : MemoryTables) : Except StoreError ((MemoryEvent × Bool) × MemoryTables) := do
  requireAccepted operation .delete "DELETE"
  let memoryId ← lifecycleMemoryId operation
  let tombstone := service.lifecycleEvent operation operation.memoryKey "memory_deleted_tombstone"
    (service.eventId operation.operationId "delete-completed") now
    [("reason_code", .str operation.reasonCode.value), ("operation", .str "delete"),
      ("provider_status", .str "completed")] none false
  tables.completeDelete operation tombstone
    (service.indexOperation operation memoryId .delete operation.revisionId now).indexOperationId

/-- `record_delete_failure` with the store of the database. -/
def databaseRecordDeleteFailure (isalnum : String → Bool) (operation : MemoryLifecycleOperation)
    (errorCode : String) (deadLetter : Bool) (now : Instant) (tables : MemoryTables) :
    Except StoreError ((MemoryEvent × Bool) × MemoryTables) := do
  requireAccepted operation .delete "DELETE"
  let safe := safeError isalnum errorCode
  let kind := if deadLetter then "dead-letter" else "retry"
  let event := service.lifecycleEvent operation operation.memoryKey
    (if deadLetter then "memory_deletion_dead_letter" else "memory_deletion_retry")
    (service.eventId operation.operationId ("delete-" ++ kind ++ ":" ++ safe)) now
    [("reason_code", .str MemoryFormationReasonCode.providerError.value),
      ("provider_status", .str (if deadLetter then "dead_letter" else "retry")),
      ("error_code", .str safe)] none true
  tables.recordDeleteFailure operation event deadLetter

end Database

/-! ## The payload of a decision -/

theorem distinctKeys_optionJson (value : Option String) :
    (optionJson value).distinctKeys = true := by
  cases value <;> rfl

theorem distinctKeys_strings (values : List String) :
    (Json.arr (values.map .str)).distinctKeys = true := by
  rw [Json.distinctKeys, Json.distinctKeysItems_iff]
  intro item hmem
  obtain ⟨s, -, rfl⟩ := List.mem_map.1 hmem
  rfl

theorem distinctKeys_operationJson (operation : MemoryLifecycleOperation) (memoryKey : String)
    {metadata : JsonDict} (h : (Json.obj metadata).distinctKeys = true) :
    (Json.obj (operationJson operation memoryKey metadata)).distinctKeys = true := by
  refine Json.distinctKeys_obj.2 ⟨by simp [operationJson], ?_⟩
  simp [operationJson, h, distinctKeys_optionJson, distinctKeys_strings]

theorem distinctKeys_field {metadata : JsonDict} (h : (Json.obj metadata).distinctKeys = true)
    (key : String) : ((Json.field metadata key).getD .null).distinctKeys = true := by
  cases hfield : Json.field metadata key with
  | none => rfl
  | some value => exact (Json.distinctKeys_obj.1 h).2 _ (Json.mem_of_field hfield)

/-- No object in the payload of a decision has a key twice. -/
theorem distinctKeys_decisionEvent (operation : MemoryLifecycleOperation)
    (candidate : MemoryFormationCandidate) (now : Instant) :
    (Json.obj (service.decisionEvent operation candidate now).payload).distinctKeys = true := by
  have hfield := distinctKeys_field operation.metadata_keys
  refine Json.distinctKeys_obj.2 ⟨?_, ?_⟩
  · simp [decisionEvent, lifecycleEvent, JsonDict.set]
  · simp [decisionEvent, lifecycleEvent, JsonDict.set, hfield]
    refine service.redaction.distinctKeys_redactValue (distinctKeys_operationJson _ _ ?_)
    split <;> simp [Json.distinctKeys_obj]

/-! ## What the operations do -/

section Operations

variable {service} {operation : MemoryLifecycleOperation} {candidate : MemoryFormationCandidate}
  {now : Instant} {store store' : MemoryStore} {commit : Commit} {request : DeleteRequest}

theorem lifecycleMemoryId_ok {memoryId : String} (h : lifecycleMemoryId operation = .ok memoryId) :
    operation.memoryId = some memoryId ∧ memoryId ≠ "" := by
  unfold lifecycleMemoryId at h
  split at h
  · next hid =>
    split_ifs at h with hempty
    cases h
    exact ⟨hid, hempty⟩
  · cases h

theorem add_ok (h : service.add operation candidate now store = .ok (commit, store')) :
    let records := service.addRecords operation candidate now
    store.commitAdd (service.newItem operation candidate (service.addedMemoryId operation) now)
      records.revision records.event records.indexOperation = .ok (commit, store') := by
  obtain ⟨_, -, h⟩ := bind_eq_ok.1 h
  exact h

theorem update_ok (h : service.update operation candidate now store = .ok (commit, store')) :
    ∃ memoryId, (operation.memoryId = some memoryId ∧ memoryId ≠ "") ∧
      let records := service.updateRecords operation candidate memoryId now
      store.commitUpdate operation records.revision records.event records.indexOperation
        (updateValues operation candidate) = .ok (commit, store') := by
  obtain ⟨_, -, h⟩ := bind_eq_ok.1 h
  obtain ⟨memoryId, hid, h⟩ := bind_eq_ok.1 h
  exact ⟨memoryId, lifecycleMemoryId_ok hid, h⟩

theorem requestDelete_ok (h : service.requestDelete operation now store = .ok (request, store')) :
    ∃ memoryId, (operation.memoryId = some memoryId ∧ memoryId ≠ "") ∧
      store.requestDelete service.redaction operation (service.deletionEvent operation now)
        (service.indexOperation operation memoryId .delete operation.revisionId now) =
          .ok (request, store') := by
  obtain ⟨_, -, h⟩ := bind_eq_ok.1 h
  obtain ⟨memoryId, hid, h⟩ := bind_eq_ok.1 h
  exact ⟨memoryId, lifecycleMemoryId_ok hid, h⟩

end Operations

end MemoryLifecycleService
end OpenIntentRouter.Services
