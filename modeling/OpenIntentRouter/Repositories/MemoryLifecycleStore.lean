import OpenIntentRouter.Repositories.MemoryIndexOperations
import OpenIntentRouter.Schemas.Redaction

/-!
# The lifecycle store of memories

`MemoryLifecycleStore` commits an item, its revision, its event and its index
operation under one lock; a commit whose event is already there is a replay,
which is checked and changes nothing. The tables are those of the repositories
the store shares them with: `MemoryItemRepository`, `MemoryRevisionLedgerRepository`
(`append_revision_and_set_current`) and `MemoryIndexOutboxRepository` (`add`).
A request to delete scrubs what the formation repository still holds of the
memory; without one its two tables are empty. `sha256` is the hexadecimal digest.

Each call has its lemma `…_ok`: what an accepted call found, and what it wrote.
-/
namespace OpenIntentRouter.Repositories.MemoryIndex

open Core Core.Except Schemas

structure MemoryStore where
  items : Table MemoryItem.memoryId
  revisions : Dict String (List MemoryRevision)
  events : List MemoryEvent
  operations : IndexOperations
  byIdempotency : Dict String String
  turns : Table MemoryFormationTurn.turnId
  jobs : Table MemoryFormationJob.jobId

namespace MemoryStore

def empty : MemoryStore := ⟨.empty, .empty, [], .empty, .empty, .empty, .empty⟩

end MemoryStore

structure Commit where
  item : MemoryItem
  revision : MemoryRevision
  event : MemoryEvent
  indexOperation : MemoryIndexOperation
  replay : Bool
  deriving DecidableEq

abbrev Checked := Except StoreError Unit

/-! ## The checks -/

def replayConflict : StoreError := .valueError "Memory lifecycle replay identity conflict"

/-- mirrors app/repositories/memory_lifecycle_store.py:1247-1271 -/
def validateItemReplay (existing incoming : MemoryItem) : Checked :=
  Except.ensure
    (existing.memoryId = incoming.memoryId && existing.tenantId = incoming.tenantId &&
      existing.userId = incoming.userId && existing.subjectType = incoming.subjectType &&
      existing.subjectId = incoming.subjectId && existing.agentId = incoming.agentId &&
      existing.scope = incoming.scope && existing.memoryKey = incoming.memoryKey &&
      existing.source = incoming.source && JsonDict.pyEq existing.metadata incoming.metadata)
    replayConflict

/-- mirrors app/repositories/memory_lifecycle_store.py:1274-1300 -/
def validateEventReplay (existing incoming : MemoryEvent) : Checked :=
  Except.ensure
    (existing.eventId = incoming.eventId && existing.eventType = incoming.eventType &&
      existing.memoryId = incoming.memoryId && existing.tenantId = incoming.tenantId &&
      existing.userId = incoming.userId && existing.agentId = incoming.agentId &&
      existing.formationJobId = incoming.formationJobId && existing.memoryKey = incoming.memoryKey &&
      existing.decisionStatus = incoming.decisionStatus && existing.scope = incoming.scope &&
      JsonDict.pyEq existing.payload incoming.payload)
    replayConflict

/-- mirrors app/repositories/memory_lifecycle_store.py:1303-1327 -/
def validateRevisionReplay (existing incoming : MemoryRevision) : Checked :=
  Except.ensure
    (existing.revisionId = incoming.revisionId && existing.memoryId = incoming.memoryId &&
      existing.memoryKey = incoming.memoryKey && existing.operation = incoming.operation &&
      existing.content = incoming.content &&
      JsonDict.pyEq existing.structuredValue incoming.structuredValue &&
      existing.evidenceRefs = incoming.evidenceRefs && existing.confidence = incoming.confidence &&
      existing.policyVersion = incoming.policyVersion &&
      existing.formationJobId = incoming.formationJobId)
    replayConflict

/-- mirrors app/repositories/memory_lifecycle_store.py:1330-1346 -/
def validateIndexReplay (existing incoming : MemoryIndexOperation) : Checked :=
  Except.ensure
    (existing.indexOperationId = incoming.indexOperationId &&
      existing.idempotencyKey = incoming.idempotencyKey && existing.operation = incoming.operation &&
      existing.memoryId = incoming.memoryId && existing.revisionId = incoming.revisionId &&
      existing.tenantId = incoming.tenantId)
    replayConflict

/-- mirrors app/repositories/memory_lifecycle_store.py:1468-1469 -/
def memoryKeyMatches (stored : Option String) (expected : String) : Bool :=
  stored = some expected || (stored = none && expected.startsWith "legacy-memory:")

/-- mirrors app/repositories/memory_lifecycle_store.py:1442-1459 -/
def validateOperationTarget (item : Option MemoryItem) (operation : MemoryLifecycleOperation)
    (requireActive : Bool) : Except StoreError MemoryItem := do
  let notFound : StoreError := .valueError "Memory lifecycle target not found"
  match item with
  | none => .error notFound
  | some item =>
    Except.ensure
      (item.tenantId = some operation.tenantId && item.userId = some operation.userId &&
        item.subjectType = operation.subjectType && item.subjectId = operation.subjectId &&
        memoryKeyMatches item.memoryKey operation.memoryKey) notFound
    Except.ensure (!requireActive || item.lifecycleStatus = .active)
      (.valueError "Memory lifecycle target is not active")
    return item

/-- mirrors app/repositories/memory_lifecycle_store.py:1215-1225 -/
def validateActiveKeyAvailable (items : List MemoryItem) (incoming : MemoryItem) : Checked :=
  Except.ensure
    (!items.any fun item =>
      item.lifecycleStatus = .active && item.tenantId = incoming.tenantId &&
      item.subjectType = incoming.subjectType && item.subjectId = incoming.subjectId &&
      item.scope = incoming.scope && item.memoryKey = incoming.memoryKey)
    (.valueError "Active memory key already exists")

/-- mirrors app/repositories/memory_lifecycle_store.py:1228-1244 -/
def validateIndexIdentity (store : MemoryStore) (incoming : MemoryIndexOperation) : Checked :=
  match store.byIdempotency.get? incoming.idempotencyKey with
  | none => .ok ()
  | some existingId =>
    match store.operations.get? existingId with
    | none => .error (.keyError existingId)
    | some existing =>
      Except.ensure
        (existing.memoryId = incoming.memoryId && existing.revisionId = incoming.revisionId &&
          existing.operation = incoming.operation && existing.tenantId = incoming.tenantId)
        (.valueError "Index operation identity conflict")

/-- mirrors app/repositories/memory_lifecycle_store.py:1462-1465 -/
def requiredMemoryId (operation : MemoryLifecycleOperation) : Except StoreError String :=
  match operation.memoryId with
  | some memoryId =>
    if memoryId ≠ "" then .ok memoryId
    else .error (.valueError "Memory lifecycle operation requires memory_id")
  | none => .error (.valueError "Memory lifecycle operation requires memory_id")

namespace MemoryStore

/-- The commit with the same event, if there is one; `validateItem` is the check of its item.
mirrors app/repositories/memory_lifecycle_store.py:438-485 (`_load_replay`) -/
def loadReplay (store : MemoryStore) (event : MemoryEvent) (revision : MemoryRevision)
    (index : MemoryIndexOperation) (validateItem : MemoryItem → Checked) :
    Except StoreError (Option Commit) :=
  match store.events.find? (·.eventId = event.eventId) with
  | none => .ok none
  | some storedEvent =>
    let item := store.items.get? revision.memoryId
    let revisions := (store.revisions.get? revision.memoryId).getD []
    let storedRevision := revisions.find? (·.revisionId = revision.revisionId)
    let storedIndex := store.operations.values.find? fun operation =>
      operation.memoryId = revision.memoryId && operation.revisionId = some revision.revisionId
    match item, storedRevision, storedIndex with
    | some item, some storedRevision, some storedIndex => do
      validateEventReplay storedEvent event
      validateRevisionReplay storedRevision revision
      validateIndexReplay storedIndex index
      validateItem item
      return some ⟨item, storedRevision, storedEvent, storedIndex, true⟩
    | _, _, _ => .error (.valueError "Incomplete lifecycle replay state")

def putOperation (store : MemoryStore) (index : MemoryIndexOperation) : MemoryStore :=
  { store with
    operations := store.operations.put index
    byIdempotency := store.byIdempotency.set index.idempotencyKey index.indexOperationId }

def write (store : MemoryStore) (item : MemoryItem) (revisions : List MemoryRevision)
    (event : MemoryEvent) (index : MemoryIndexOperation) : MemoryStore :=
  { store.putOperation index with
    items := store.items.put item
    revisions := store.revisions.set item.memoryId revisions
    events := store.events ++ [event] }

end MemoryStore

def addedItem (item : MemoryItem) (revision : MemoryRevision) : MemoryItem :=
  { item with
    currentRevisionId := some revision.revisionId
    currentRevisionNo := some 1
    indexStatus := some .pending }

structure UpdateValues where
  candidateHash : String
  confidence : Rat
  importance : Rat
  canonicalRefs : List String
  deriving DecidableEq

def updatedItem (item : MemoryItem) (operation : MemoryLifecycleOperation)
    (revision : MemoryRevision) (values : UpdateValues) : MemoryItem :=
  { item with
    content := revision.content
    structuredValue := revision.structuredValue
    candidateHash := some values.candidateHash
    confidence := values.confidence
    importance := values.importance
    currentRevisionId := some revision.revisionId
    currentRevisionNo := some revision.revisionNo
    formationJobId := operation.formationJobId
    indexStatus := some .pending
    canonicalRefs := values.canonicalRefs
    updatedAt := revision.createdAt }

namespace MemoryStore

/-- mirrors app/repositories/memory_lifecycle_store.py:58-99 -/
def commitAdd (store : MemoryStore) (item : MemoryItem) (revision : MemoryRevision)
    (event : MemoryEvent) (index : MemoryIndexOperation) :
    Except StoreError (Commit × MemoryStore) := do
  match ← store.loadReplay event revision index (validateItemReplay · item) with
  | some replay => return (replay, store)
  | none =>
    Except.ensure (!store.items.contains item.memoryId)
      (.valueError "Memory lifecycle ADD identity already exists")
    validateActiveKeyAvailable store.items.values item
    validateIndexIdentity store index
    let storedRevision := { revision with revisionNo := 1, supersedesRevisionId := none }
    let storedItem := addedItem item storedRevision
    return (⟨storedItem, storedRevision, event, index, false⟩,
      store.write storedItem [storedRevision] event index)

/-- mirrors app/repositories/memory_lifecycle_store.py:101-161 -/
def commitUpdate (store : MemoryStore) (operation : MemoryLifecycleOperation)
    (revision : MemoryRevision) (event : MemoryEvent) (index : MemoryIndexOperation)
    (values : UpdateValues) : Except StoreError (Commit × MemoryStore) := do
  let memoryId ← requiredMemoryId operation
  let validateItem item := (fun _ => ()) <$> validateOperationTarget (some item) operation false
  match ← store.loadReplay event revision index validateItem with
  | some replay => return (replay, store)
  | none =>
    let item ← validateOperationTarget (store.items.get? memoryId) operation true
    Except.ensure (item.currentRevisionId = operation.revisionId)
      (.valueError "Memory lifecycle precondition changed")
    validateIndexIdentity store index
    let existing := (store.revisions.get? memoryId).getD []
    let storedRevision :=
      { revision with
        revisionNo := existing.length + 1
        supersedesRevisionId := item.currentRevisionId }
    let updated := updatedItem item operation storedRevision values
    return (⟨updated, storedRevision, event, index, false⟩,
      store.write updated (existing ++ [storedRevision]) event index)

/-- mirrors app/repositories/memory_lifecycle_store.py:163-178 -/
def recordDecision (store : MemoryStore) (event : MemoryEvent) :
    Except StoreError ((MemoryEvent × Bool) × MemoryStore) := do
  match store.events.find? (·.eventId = event.eventId) with
  | some existing => do
    validateEventReplay existing event
    return ((existing, true), store)
  | none => return ((event, false), { store with events := store.events ++ [event] })

end MemoryStore

/-! ## Deletions -/

/-- `metadata.get("mem0_memory_id")`, if it is a string. -/
def mem0MemoryId (metadata : JsonDict) : Option String :=
  match Json.field metadata "mem0_memory_id" with
  | some (.str external) => some external
  | _ => none

/-- What `request_delete` returns. -/
structure DeleteRequest where
  item : Option MemoryItem
  event : MemoryEvent
  indexOperation : MemoryIndexOperation
  replay : Bool
  deriving DecidableEq

def deletingItem (item : MemoryItem) (event : MemoryEvent) : MemoryItem :=
  { item with
    lifecycleStatus := .deletionPending
    indexStatus := some .deletionPending
    updatedAt := event.createdAt }

def deleteOperation (index : MemoryIndexOperation) (item : MemoryItem) : MemoryIndexOperation :=
  { index with externalMemoryId := mem0MemoryId item.metadata }

/-- mirrors app/repositories/memory_lifecycle_store.py:1478-1487 (`_scrubbed_item_values`) -/
def scrubbedItem (item : MemoryItem) : MemoryItem :=
  { item with
    content := ""
    structuredValue := []
    metadata :=
      match mem0MemoryId item.metadata with
      | some external => [("mem0_memory_id", .str external)]
      | none => []
    candidateHash := none
    canonicalRefs := []
    formationJobId := none }

/-- mirrors app/repositories/memory_lifecycle_store.py:1490-1493 -/
def scrubRevision (revision : MemoryRevision) : MemoryRevision :=
  { revision with content := "", structuredValue := [], evidenceRefs := [] }

/-- mirrors app/repositories/memory_lifecycle_store.py:1349-1361 -/
def validateDeleteIndexCompletion (stored : Option MemoryIndexOperation)
    (incoming : MemoryIndexOperation) : Checked :=
  Except.ensure
    (stored.any fun stored =>
      stored.indexOperationId = incoming.indexOperationId && stored.operation = .delete &&
      stored.status = .completed && stored.memoryId = incoming.memoryId &&
      stored.tenantId = incoming.tenantId && stored.revisionId = incoming.revisionId)
    (.valueError "Completed delete index operation required")

/-- mirrors app/repositories/memory_lifecycle_store.py:1364-1374 -/
def validateDeleteIndexItem (item : Option MemoryItem) (index : MemoryIndexOperation) :
    Except StoreError MemoryItem :=
  match item with
  | none => .error (.valueError "Memory deletion is not pending")
  | some item =>
    if item.memoryId = index.memoryId && item.tenantId = some index.tenantId &&
        item.lifecycleStatus = .deletionPending && item.currentRevisionId = index.revisionId then
      .ok item
    else .error (.valueError "Memory deletion is not pending")

/-- mirrors app/repositories/memory_lifecycle_store.py:1530-1541 -/
def validateCompletedDeleteIndex (index : Option MemoryIndexOperation)
    (operation : MemoryLifecycleOperation) : Checked :=
  Except.ensure
    (index.any fun index =>
      index.operation = .delete && index.status = .completed &&
      some index.memoryId = operation.memoryId && index.revisionId = operation.revisionId &&
      index.tenantId = operation.tenantId)
    (.valueError "Provider delete operation is not completed")

/-- `f"mevt_{sha256(value)[:32]}"` and the like. -/
def stableId (sha256 : String → String) (kind value : String) : String :=
  kind ++ "_" ++ String.ofList ((sha256 value).toList.take 32)

/-- mirrors app/repositories/memory_lifecycle_store.py:1377-1379 -/
def indexEventId (sha256 : String → String) (index : MemoryIndexOperation) (suffix : String) :
    String :=
  stableId sha256 "mevt" (index.indexOperationId ++ ":" ++ suffix)

def failureEventId (sha256 : String → String) (index : MemoryIndexOperation) (deadLetter : Bool) :
    String :=
  indexEventId sha256 index ("delete-" ++ (if deadLetter then "dead-letter" else "retry") ++ ":" ++
    toString index.attemptCount)

/-- mirrors app/repositories/memory_lifecycle_store.py:1382-1390 -/
def deleteProviderStatus (index : MemoryIndexOperation) (explicitStatus : Option String) : String :=
  match explicitStatus.filter (· ≠ "") with
  | some status => status
  | none =>
    match Json.field index.lastErrorMetadata "provider_status" with
    | some (.str stored) => if stored = "success" || stored = "not_found" then stored else "completed"
    | _ => "completed"

/-- mirrors app/repositories/memory_lifecycle_store.py:1393-1401 -/
def deleteRequestEvent (events : List MemoryEvent) (memoryId : String) : Option MemoryEvent :=
  events.reverse.find? fun event =>
    event.memoryId = some memoryId && event.eventType = "memory_deletion_requested"

/-- mirrors app/repositories/memory_lifecycle_store.py:1404-1440 -/
def deleteIndexEvent (sha256 : String → String) (index : MemoryIndexOperation) (item : MemoryItem)
    (request : Option MemoryEvent) (eventId eventType providerStatus : String) (now : Instant)
    (errorCode : Option String) : MemoryEvent :=
  let requestPayload := (request.map (·.payload)).getD []
  let targetHash : Json := .str ("sha256:" ++ sha256 index.memoryId)
  { eventId, eventType
    memoryId := some index.memoryId
    userId := item.userId
    tenantId := some index.tenantId
    agentId := item.agentId
    formationJobId := item.formationJobId
    memoryKey := none
    decisionStatus := request.bind (·.decisionStatus)
    scope := some item.scope
    payload :=
      [("operation", .str "delete"), ("provider_status", .str providerStatus),
        ("reason_code", (Json.field requestPayload "reason_code").getD (.str "provider_error")),
        ("target_hash", (Json.field requestPayload "target_hash").getD targetHash)] ++
      match errorCode.filter (· ≠ "") with
      | some errorCode => [("error_code", .str (String.ofList (errorCode.toList.take 128)))]
      | none => []
    createdAt := now }

/-- A turn that waits for its formation and refers to the memory or is a source of its deletion. -/
def matchedTurn (memoryId : String) (operation : MemoryLifecycleOperation)
    (turn : MemoryFormationTurn) : Bool :=
  turn.tenantId = operation.tenantId && turn.userId = operation.userId &&
    (turn.status = .pending || turn.status = .claimed) &&
    (operation.canonicalRefs.contains turn.turnId || turn.usedMemoryIds.contains memoryId)

def scrubTurn (memoryId : String) (operation : MemoryLifecycleOperation)
    (turn : MemoryFormationTurn) : MemoryFormationTurn :=
  let matched := matchedTurn memoryId operation turn
  { turn with
    userText := if matched then "" else turn.userText
    assistantText := if matched then "" else turn.assistantText
    usedMemoryIds :=
      if matched then turn.usedMemoryIds.filter (· ≠ memoryId) else turn.usedMemoryIds }

theorem scrubTurn_turnId (memoryId : String) (operation : MemoryLifecycleOperation)
    (turn : MemoryFormationTurn) : (scrubTurn memoryId operation turn).turnId = turn.turnId := rfl

def scrubJob (R : Redaction) (memoryId : String) (operation : MemoryLifecycleOperation)
    (matchedTurns : List String) (job : MemoryFormationJob) : MemoryFormationJob :=
  let touched :=
    job.tenantId = operation.tenantId && job.userId = operation.userId &&
      (job.status = .pending || job.status = .claimed || job.status = .retry) &&
      (job.sourceRefs.any matchedTurns.contains ||
        payloadContains memoryId (.obj job.traceSummary))
  { job with
    traceSummary := if touched then R.scrubFields job.traceSummary else job.traceSummary }

def scrubEvent (R : Redaction) (memoryId : String) (operation : MemoryLifecycleOperation)
    (event : MemoryEvent) : MemoryEvent :=
  { event with
    payload :=
      if event.memoryId = some memoryId && event.tenantId = some operation.tenantId &&
          event.userId = some operation.userId then R.scrubFields event.payload
      else event.payload }

namespace MemoryStore

/-- mirrors app/repositories/memory_lifecycle_store.py:494-526 (`_scrub_pending_payloads_locked`) -/
def scrubPendingPayloads (R : Redaction) (store : MemoryStore) (memoryId : String)
    (operation : MemoryLifecycleOperation) : MemoryStore :=
  let matchedTurns :=
    (store.turns.values.filter (matchedTurn memoryId operation)).map (·.turnId)
  { store with
    turns := store.turns.mapValues (scrubTurn memoryId operation) fun _ => rfl
    jobs := store.jobs.mapValues (scrubJob R memoryId operation matchedTurns) fun _ => rfl }

/-- mirrors app/repositories/memory_lifecycle_store.py:528-539 -/
def scrubMemoryEvents (R : Redaction) (store : MemoryStore) (memoryId : String)
    (operation : MemoryLifecycleOperation) : MemoryStore :=
  { store with events := store.events.map (scrubEvent R memoryId operation) }

/-- mirrors app/repositories/memory_lifecycle_store.py:180-252 -/
def requestDelete (R : Redaction) (store : MemoryStore) (operation : MemoryLifecycleOperation)
    (event : MemoryEvent) (index : MemoryIndexOperation) :
    Except StoreError (DeleteRequest × MemoryStore) := do
  let memoryId ← requiredMemoryId operation
  let item := store.items.get? memoryId
  match store.events.find? (·.eventId = event.eventId) with
  | some existingEvent =>
    match store.operations.get? ((store.byIdempotency.get? index.idempotencyKey).getD "") with
    | none => .error (.valueError "Incomplete deletion replay state")
    | some existingIndex => do
      validateEventReplay existingEvent event
      validateIndexReplay existingIndex index
      match item with
      | some item => do
        let _ ← validateOperationTarget (some item) operation false
        Except.ensure (item.currentRevisionId = operation.revisionId) replayConflict
      | none =>
        Except.ensure (existingIndex.status = .completed)
          (.valueError "Incomplete deletion replay state")
      return (⟨item, existingEvent, existingIndex, true⟩, store)
  | none =>
    let item ← validateOperationTarget item operation true
    Except.ensure (item.currentRevisionId = operation.revisionId)
      (.valueError "Memory lifecycle precondition changed")
    validateIndexIdentity store index
    let storedIndex := deleteOperation index item
    let deleting := deletingItem item event
    let written :=
      { store.putOperation storedIndex with
        items := store.items.put deleting
        events := store.events ++ [event] }
    return (⟨some deleting, event, storedIndex, false⟩,
      (written.scrubPendingPayloads R memoryId operation).scrubMemoryEvents R memoryId operation)

def remove (store : MemoryStore) (memoryId : String) (tombstone : MemoryEvent) : MemoryStore :=
  { store with
    items := store.items.erase memoryId
    revisions := store.revisions.erase memoryId
    events := store.events ++ [tombstone] }

/-- mirrors app/repositories/memory_lifecycle_store.py:254-285 -/
def completeDelete (store : MemoryStore) (operation : MemoryLifecycleOperation)
    (tombstone : MemoryEvent) (indexOperationId : String) :
    Except StoreError ((MemoryEvent × Bool) × MemoryStore) := do
  match store.events.find? (·.eventId = tombstone.eventId) with
  | some existing => do
    validateEventReplay existing tombstone
    return ((existing, true), store)
  | none =>
    let memoryId ← requiredMemoryId operation
    validateCompletedDeleteIndex (store.operations.get? indexOperationId) operation
    let item ← validateOperationTarget (store.items.get? memoryId) operation false
    Except.ensure (item.lifecycleStatus = .deletionPending)
      (.valueError "Memory deletion is not pending")
    return ((tombstone, false), store.remove memoryId tombstone)

/-- An item whose deletion failed, with its revisions; given up, both are scrubbed. -/
def writeFailure (store : MemoryStore) (memoryId : String) (item : MemoryItem) (event : MemoryEvent)
    (deadLetter : Bool) : MemoryStore :=
  let failed :=
    { item with
      indexStatus := some (if deadLetter then .deadLetter else .deletionPending)
      updatedAt := event.createdAt }
  { store with
    items := store.items.put (if deadLetter then scrubbedItem failed else failed)
    revisions :=
      if deadLetter then
        store.revisions.set memoryId (((store.revisions.get? memoryId).getD []).map scrubRevision)
      else store.revisions
    events := store.events ++ [event] }

/-- mirrors app/repositories/memory_lifecycle_store.py:287-329 -/
def recordDeleteFailure (store : MemoryStore) (operation : MemoryLifecycleOperation)
    (event : MemoryEvent) (deadLetter : Bool) :
    Except StoreError ((MemoryEvent × Bool) × MemoryStore) := do
  let memoryId ← requiredMemoryId operation
  let item ← validateOperationTarget (store.items.get? memoryId) operation false
  Except.ensure (item.lifecycleStatus = .deletionPending)
    (.valueError "Memory deletion is not pending")
  match store.events.find? (·.eventId = event.eventId) with
  | some existing => return ((existing, true), store)
  | none => return ((event, false), store.writeFailure memoryId item event deadLetter)

/-- mirrors app/repositories/memory_lifecycle_store.py:351-383 -/
def completeDeleteFromIndex (sha256 : String → String) (store : MemoryStore)
    (index : MemoryIndexOperation) (now : Instant) (providerStatus : Option String) :
    Except StoreError ((MemoryEvent × Bool) × MemoryStore) := do
  validateDeleteIndexCompletion (store.operations.get? index.indexOperationId) index
  let eventId := indexEventId sha256 index "delete-completed"
  match store.events.find? (·.eventId = eventId) with
  | some existing => return ((existing, true), store)
  | none =>
    let item ← validateDeleteIndexItem (store.items.get? index.memoryId) index
    let request := deleteRequestEvent store.events index.memoryId
    let tombstone := deleteIndexEvent sha256 index item request eventId "memory_deleted_tombstone"
      (deleteProviderStatus index providerStatus) now none
    return ((tombstone, false), store.remove index.memoryId tombstone)

/-- mirrors app/repositories/memory_lifecycle_store.py:385-436 -/
def recordDeleteIndexFailure (sha256 : String → String) (store : MemoryStore)
    (index : MemoryIndexOperation) (errorCode : String) (deadLetter : Bool) (now : Instant) :
    Except StoreError ((MemoryEvent × Bool) × MemoryStore) := do
  let item ← validateDeleteIndexItem (store.items.get? index.memoryId) index
  let eventId := failureEventId sha256 index deadLetter
  match store.events.find? (·.eventId = eventId) with
  | some existing => return ((existing, true), store)
  | none =>
    let request := deleteRequestEvent store.events index.memoryId
    let event := deleteIndexEvent sha256 index item request eventId
      (if deadLetter then "memory_deletion_dead_letter" else "memory_deletion_retry")
      (if deadLetter then "dead_letter" else "retry") now (some errorCode)
    return ((event, false), store.writeFailure index.memoryId item event deadLetter)

/-! ## The item, revision and index repositories -/

/-- mirrors app/repositories/context_stores.py:176-180 -/
def getById (store : MemoryStore) (memoryId tenantId : String) : Option MemoryItem :=
  (store.items.get? memoryId).filter (·.tenantId = some tenantId)

/-- mirrors app/repositories/memory_index_operations.py:22-32 (`add`) -/
def addOperation (store : MemoryStore) (operation : MemoryIndexOperation) :
    Except StoreError (MemoryIndexOperation × MemoryStore) :=
  match store.byIdempotency.get? operation.idempotencyKey with
  | none => .ok (operation, store.putOperation operation)
  | some existingId =>
    match store.operations.get? existingId with
    | none => .error (.keyError existingId)
    | some existing => do
      Except.ensure
        (existing.tenantId = operation.tenantId && existing.memoryId = operation.memoryId &&
          existing.revisionId = operation.revisionId && existing.operation = operation.operation)
        (.valueError "Index operation identity conflict")
      return (existing, store)

end MemoryStore

/-- The item after `set_index_state`. -/
def indexStateItem (status : MemoryIndexStatus) (externalMemoryId : Option String)
    (updatedAt : Instant) (item : MemoryItem) : MemoryItem :=
  { item with
    indexStatus := some status
    metadata :=
      match externalMemoryId.filter (· ≠ "") with
      | some external => JsonDict.set item.metadata "mem0_memory_id" (.str external)
      | none => item.metadata
    updatedAt }

namespace MemoryStore

/-- mirrors app/repositories/context_stores.py:202-233 -/
def setIndexState (store : MemoryStore) (memoryId tenantId : String)
    (expectedRevisionId : Option String) (status : MemoryIndexStatus)
    (externalMemoryId : Option String) (updatedAt : Instant) :
    Option MemoryItem × MemoryStore :=
  match store.items.get? memoryId with
  | none => (none, store)
  | some item =>
    if item.tenantId ≠ some tenantId || item.lifecycleStatus ≠ .active ||
        item.currentRevisionId ≠ expectedRevisionId then (none, store)
    else
      let stored := indexStateItem status externalMemoryId updatedAt item
      (some stored, { store with items := store.items.put stored })

/-- mirrors app/repositories/context_stores.py:909-917 -/
def memoryActive (now : Instant) (item : MemoryItem) : Bool :=
  item.lifecycleStatus = .active && item.ttlExpiresAt.all (now < ·)

/-- mirrors app/repositories/context_stores.py:182-200 (`list_indexable`); the only caller
leaves `offset` at 0 -/
def listIndexable (store : MemoryStore) (tenantId : String) (now : Instant) (limit : Nat)
    (afterMemoryId : Option String) : List MemoryItem :=
  ((store.items.values.filter fun item =>
    item.tenantId = some tenantId && memoryActive now item &&
      afterMemoryId.all (· < item.memoryId)).insertionSort
        fun a b => a.memoryId ≤ b.memoryId).take limit

def expiryKey (item : MemoryItem) : Instant ×ₗ String :=
  toLex (item.ttlExpiresAt.getD 0, item.memoryId)

/-- mirrors app/repositories/memory_lifecycle_store.py:331-345 -/
def listExpired (store : MemoryStore) (now : Instant) (limit : Nat) : List MemoryItem :=
  ((store.items.values.filter fun item =>
    item.lifecycleStatus = .active && item.ttlExpiresAt.any (· ≤ now)).insertionSort
      fun a b => expiryKey a ≤ expiryKey b).take limit

/-- mirrors app/repositories/context_stores.py:929-948 -/
def validateMemoryEventIdentity (existing incoming : MemoryEvent) : Checked :=
  Except.ensure
    (existing.eventType = incoming.eventType && existing.memoryId = incoming.memoryId &&
      existing.userId = incoming.userId && existing.tenantId = incoming.tenantId &&
      existing.agentId = incoming.agentId && existing.formationJobId = incoming.formationJobId &&
      existing.memoryKey = incoming.memoryKey &&
      existing.decisionStatus = incoming.decisionStatus && existing.scope = incoming.scope &&
      JsonDict.pyEq existing.payload incoming.payload)
    (.valueError "Memory event identity cannot be changed")

/-- mirrors app/repositories/context_stores.py:257-267 -/
def addEvent (store : MemoryStore) (event : MemoryEvent) : Except StoreError MemoryStore :=
  match store.events.find? (·.eventId = event.eventId) with
  | some existing => do
    validateMemoryEventIdentity existing event
    return store
  | none => .ok { store with events := store.events ++ [event] }

end MemoryStore

structure MemoryOwner where
  tenantId : String
  userId : String
  subjectType : String
  subjectId : String
  deriving DecidableEq

/-- mirrors app/repositories/memory_revisions.py:221-256 (`_validate_revision_target`,
`_matches_owner`) -/
def validateRevisionTarget (item : Option MemoryItem) (revision : MemoryRevision)
    (owner : MemoryOwner) (expectedCurrentRevisionId : Option String) :
    Except StoreError MemoryItem := do
  match item with
  | none => .error (.valueError "Memory revision target not found")
  | some item =>
    Except.ensure
      (item.tenantId = some owner.tenantId && item.userId = some owner.userId &&
        item.subjectType = owner.subjectType && item.subjectId = owner.subjectId)
      (.valueError "Memory revision target not found")
    Except.ensure (item.lifecycleStatus = .active)
      (.valueError "Memory revision target is not active")
    Except.ensure (item.memoryKey = some revision.memoryKey)
      (.valueError "Memory revision key mismatch")
    Except.ensure (item.currentRevisionId = expectedCurrentRevisionId)
      (.valueError "Memory current revision changed")
    return item

def revisedItem (item : MemoryItem) (revision : MemoryRevision) : MemoryItem :=
  { item with
    content := revision.content
    structuredValue := revision.structuredValue
    currentRevisionId := some revision.revisionId
    currentRevisionNo := some revision.revisionNo
    formationJobId := revision.formationJobId
    indexStatus := some .pending
    updatedAt := revision.createdAt }

/-- mirrors app/repositories/memory_revisions.py:44-89 -/
def MemoryStore.appendRevisionAndSetCurrent (store : MemoryStore) (revision : MemoryRevision)
    (owner : MemoryOwner) (expectedCurrentRevisionId : Option String) :
    Except StoreError ((MemoryRevision × MemoryItem) × MemoryStore) := do
  let item ← validateRevisionTarget (store.items.get? revision.memoryId) revision owner
    expectedCurrentRevisionId
  let existing := (store.revisions.get? revision.memoryId).getD []
  let stored :=
    { revision with
      revisionNo := existing.length + 1
      supersedesRevisionId := item.currentRevisionId }
  Except.ensure (!existing.any (·.revisionId = stored.revisionId))
    (.valueError "Memory revision already exists")
  let updated := revisedItem item stored
  return ((stored, updated),
    { store with
      items := store.items.put updated
      revisions := store.revisions.set revision.memoryId (existing ++ [stored]) })

/-! ## What the calls do -/

section Calls

variable {store store' : MemoryStore} {item updated : MemoryItem} {revision stored : MemoryRevision}
  {event : MemoryEvent} {index : MemoryIndexOperation} {operation : MemoryLifecycleOperation}
  {commit : Commit} {values : UpdateValues} {request : DeleteRequest} {R : Redaction}
  {result : MemoryEvent × Bool} {sha256 : String → String} {now : Instant} {deadLetter : Bool}

theorem memoryId_of_get? {id : String} (h : store.items.get? id = some item) : item.memoryId = id :=
  Table.key_of_get? (t := store.items) h

theorem requiredMemoryId_ok {id : String} (h : requiredMemoryId operation = .ok id) :
    operation.memoryId = some id ∧ id ≠ "" := by
  unfold requiredMemoryId at h
  split at h
  · next memoryId hid =>
    split_ifs at h with hne
    cases h
    exact ⟨hid, hne⟩
  · cases h

structure IsTarget (operation : MemoryLifecycleOperation) (item : MemoryItem) : Prop where
  tenant : item.tenantId = some operation.tenantId
  user : item.userId = some operation.userId
  subjectType : item.subjectType = operation.subjectType
  subjectId : item.subjectId = operation.subjectId
  key : memoryKeyMatches item.memoryKey operation.memoryKey = true

theorem validateOperationTarget_iff {stored : Option MemoryItem} {requireActive : Bool} :
    validateOperationTarget stored operation requireActive = .ok item ↔
      stored = some item ∧ IsTarget operation item ∧
        (requireActive = true → item.lifecycleStatus = .active) := by
  cases stored with
  | none => simp [validateOperationTarget]
  | some found =>
    constructor
    · intro h
      obtain ⟨_, howner, h⟩ := bind_eq_ok.1 h
      obtain ⟨_, hactive, h⟩ := bind_eq_ok.1 h
      cases h
      rw [ensure_eq_ok] at howner hactive
      simp only [Bool.and_eq_true, decide_eq_true_eq] at howner
      obtain ⟨⟨⟨⟨htenant, huser⟩, htype⟩, hsubject⟩, hkey⟩ := howner
      exact ⟨rfl, ⟨htenant, huser, htype, hsubject, hkey⟩, fun hr => by simpa [hr] using hactive⟩
    · rintro ⟨⟨⟩, htarget, hactive⟩
      refine bind_eq_ok.2 ⟨(), ensure_eq_ok.2 ?_, ?_⟩
      · simp [htarget.tenant, htarget.user, htarget.subjectType, htarget.subjectId, htarget.key]
      · refine bind_eq_ok.2 ⟨(), ensure_eq_ok.2 ?_, rfl⟩
        cases requireActive with
        | false => rfl
        | true => simp [hactive rfl]

theorem validateOperationTarget_ok {stored : Option MemoryItem} {requireActive : Bool}
    (h : validateOperationTarget stored operation requireActive = .ok item) :
    stored = some item ∧ item.tenantId = some operation.tenantId ∧
      item.userId = some operation.userId ∧ (requireActive = true → item.lifecycleStatus = .active) := by
  obtain ⟨hstored, htarget, hactive⟩ := validateOperationTarget_iff.1 h
  exact ⟨hstored, htarget.tenant, htarget.user, hactive⟩

theorem validateDeleteIndexItem_ok {stored : Option MemoryItem}
    (h : validateDeleteIndexItem stored index = .ok item) :
    stored = some item ∧ item.memoryId = index.memoryId ∧ item.tenantId = some index.tenantId ∧
      item.lifecycleStatus = .deletionPending ∧ item.currentRevisionId = index.revisionId := by
  cases stored with
  | none => cases h
  | some found =>
    rw [validateDeleteIndexItem] at h
    split at h
    · next hpending =>
      cases h
      simp only [Bool.and_eq_true, decide_eq_true_eq] at hpending
      exact ⟨rfl, hpending.1.1.1, hpending.1.1.2, hpending.1.2, hpending.2⟩
    · cases h

theorem validateRevisionTarget_ok {stored : Option MemoryItem} {owner : MemoryOwner}
    {expected : Option String}
    (h : validateRevisionTarget stored revision owner expected = .ok item) :
    stored = some item ∧ item.lifecycleStatus = .active ∧ item.currentRevisionId = expected := by
  cases stored with
  | none => cases h
  | some found =>
    obtain ⟨_, -, h⟩ := bind_eq_ok.1 h
    obtain ⟨_, hactive, h⟩ := bind_eq_ok.1 h
    obtain ⟨_, -, h⟩ := bind_eq_ok.1 h
    obtain ⟨_, hcurrent, h⟩ := bind_eq_ok.1 h
    cases h
    rw [ensure_eq_ok, decide_eq_true_eq] at hactive hcurrent
    exact ⟨rfl, hactive, hcurrent⟩

theorem loadReplay_none {validateItem : MemoryItem → Checked} :
    store.loadReplay event revision index validateItem = .ok none ↔
      store.events.find? (·.eventId = event.eventId) = none := by
  unfold MemoryStore.loadReplay
  split
  · next hnone => simp [hnone]
  · next found hfound =>
    rw [hfound]
    dsimp only
    split <;> simp [bind_eq_ok, pure, Except.pure]

/-- A commit is a replay if its four records are there and pass their checks. -/
theorem loadReplay_some {validateItem : MemoryItem → Checked} :
    store.loadReplay event revision index validateItem = .ok (some commit) ↔
      store.events.find? (·.eventId = event.eventId) = some commit.event ∧
      store.items.get? revision.memoryId = some commit.item ∧
      ((store.revisions.get? revision.memoryId).getD []).find?
        (·.revisionId = revision.revisionId) = some commit.revision ∧
      (store.operations.values.find? fun operation =>
        operation.memoryId = revision.memoryId && operation.revisionId = some revision.revisionId) =
          some commit.indexOperation ∧
      validateEventReplay commit.event event = .ok () ∧
      validateRevisionReplay commit.revision revision = .ok () ∧
      validateIndexReplay commit.indexOperation index = .ok () ∧
      validateItem commit.item = .ok () ∧ commit.replay = true := by
  unfold MemoryStore.loadReplay
  split
  · next hnone => simp [hnone]
  · next found hfound =>
    rw [hfound]
    dsimp only
    split
    · next item stored existing hitem hstored hexisting =>
      rw [hitem, hstored, hexisting]
      obtain ⟨commitItem, commitRevision, commitEvent, commitIndex, replay⟩ := commit
      constructor
      · intro h
        obtain ⟨_, hevent, h⟩ := bind_eq_ok.1 h
        obtain ⟨_, hrevision, h⟩ := bind_eq_ok.1 h
        obtain ⟨_, hindex, h⟩ := bind_eq_ok.1 h
        obtain ⟨_, hvalid, h⟩ := bind_eq_ok.1 h
        cases h
        exact ⟨rfl, rfl, rfl, rfl, hevent, hrevision, hindex, hvalid, rfl⟩
      · rintro ⟨⟨⟩, ⟨⟩, ⟨⟩, ⟨⟩, hevent, hrevision, hindex, hvalid, hreplay⟩
        cases hreplay
        simp [hevent, hrevision, hindex, hvalid, pure, Except.pure]
    · next hmissing =>
      constructor
      · intro h
        cases h
      · rintro ⟨-, hitem, hstored, hexisting, -⟩
        exact (hmissing _ _ _ hitem hstored hexisting).elim

def addedRevision (revision : MemoryRevision) : MemoryRevision :=
  { revision with revisionNo := 1, supersedesRevisionId := none }

def nextRevision (revision : MemoryRevision) (existing : List MemoryRevision) (item : MemoryItem) :
    MemoryRevision :=
  { revision with
    revisionNo := existing.length + 1
    supersedesRevisionId := item.currentRevisionId }

structure AddAccepted (store : MemoryStore) (item : MemoryItem) (event : MemoryEvent)
    (index : MemoryIndexOperation) : Prop where
  newEvent : store.events.find? (·.eventId = event.eventId) = none
  newItem : store.items.get? item.memoryId = none
  keyFree : ∀ other ∈ store.items.values, other.lifecycleStatus = .active →
    other.tenantId = item.tenantId → other.subjectType = item.subjectType →
    other.subjectId = item.subjectId → other.scope = item.scope → other.memoryKey ≠ item.memoryKey
  index : validateIndexIdentity store index = .ok ()

theorem commitAdd_ok (h : store.commitAdd item revision event index = .ok (commit, store')) :
    commit.replay = true ∧ store' = store ∨
      AddAccepted store item event index ∧
        commit = ⟨addedItem item (addedRevision revision), addedRevision revision, event, index,
          false⟩ ∧
        store' = store.write (addedItem item (addedRevision revision)) [addedRevision revision]
          event index := by
  obtain ⟨replay, hreplay, h⟩ := bind_eq_ok.1 h
  cases replay with
  | some replay =>
    cases h
    exact .inl ⟨(loadReplay_some.1 hreplay).2.2.2.2.2.2.2.2, rfl⟩
  | none =>
    obtain ⟨_, hnew, h⟩ := bind_eq_ok.1 h
    obtain ⟨_, hkey, h⟩ := bind_eq_ok.1 h
    obtain ⟨_, hindex, h⟩ := bind_eq_ok.1 h
    cases h
    refine .inr ⟨⟨loadReplay_none.1 hreplay, ?_, ?_, hindex⟩, rfl, rfl⟩
    · simpa [ensure_eq_ok, Table.contains] using hnew
    · intro other hmem hactive htenant htype hsubject hscope hkeys
      have hfree := ensure_eq_ok.1 hkey
      simp only [Bool.not_eq_true', List.any_eq_false, Bool.and_eq_true, decide_eq_true_eq] at hfree
      exact hfree other hmem ⟨⟨⟨⟨⟨hactive, htenant⟩, htype⟩, hsubject⟩, hscope⟩, hkeys⟩

theorem commitAdd_replay (h : store.commitAdd item revision event index = .ok (commit, store'))
    (hreplay : commit.replay = true) :
    store.loadReplay event revision index (validateItemReplay · item) = .ok (some commit) := by
  obtain ⟨replay, hload, h⟩ := bind_eq_ok.1 h
  cases replay with
  | some replay =>
    cases h
    exact hload
  | none =>
    obtain ⟨_, -, h⟩ := bind_eq_ok.1 h
    obtain ⟨_, -, h⟩ := bind_eq_ok.1 h
    obtain ⟨_, -, h⟩ := bind_eq_ok.1 h
    cases h
    cases hreplay

structure UpdateAccepted (store : MemoryStore) (operation : MemoryLifecycleOperation)
    (event : MemoryEvent) (index : MemoryIndexOperation) (item : MemoryItem) : Prop where
  newEvent : store.events.find? (·.eventId = event.eventId) = none
  named : operation.memoryId = some item.memoryId
  stored : store.items.get? item.memoryId = some item
  target : IsTarget operation item
  active : item.lifecycleStatus = .active
  current : item.currentRevisionId = operation.revisionId
  index : validateIndexIdentity store index = .ok ()

def MemoryStore.history (store : MemoryStore) (memoryId : String) : List MemoryRevision :=
  (store.revisions.get? memoryId).getD []

theorem commitUpdate_ok
    (h : store.commitUpdate operation revision event index values = .ok (commit, store')) :
    commit.replay = true ∧ store' = store ∨
      ∃ item, UpdateAccepted store operation event index item ∧
        let stored := nextRevision revision (store.history item.memoryId) item
        commit = ⟨updatedItem item operation stored values, stored, event, index, false⟩ ∧
        store' = store.write (updatedItem item operation stored values)
          (store.history item.memoryId ++ [stored]) event index := by
  obtain ⟨memoryId, hid, h⟩ := bind_eq_ok.1 h
  obtain ⟨replay, hreplay, h⟩ := bind_eq_ok.1 h
  cases replay with
  | some replay =>
    cases h
    exact .inl ⟨(loadReplay_some.1 hreplay).2.2.2.2.2.2.2.2, rfl⟩
  | none =>
    obtain ⟨item, hitem, h⟩ := bind_eq_ok.1 h
    obtain ⟨_, hcurrent, h⟩ := bind_eq_ok.1 h
    obtain ⟨_, hindex, h⟩ := bind_eq_ok.1 h
    cases h
    obtain ⟨hget, htarget, hactive⟩ := validateOperationTarget_iff.1 hitem
    obtain rfl : item.memoryId = memoryId := memoryId_of_get? hget
    refine .inr ⟨item, ⟨loadReplay_none.1 hreplay, (requiredMemoryId_ok hid).1, hget, htarget,
      hactive rfl, ?_, hindex⟩, rfl, rfl⟩
    simpa [ensure_eq_ok] using hcurrent

theorem commitUpdate_replay
    (h : store.commitUpdate operation revision event index values = .ok (commit, store'))
    (hreplay : commit.replay = true) :
    store.loadReplay event revision index
      (fun item => (fun _ => ()) <$> validateOperationTarget (some item) operation false) =
        .ok (some commit) := by
  obtain ⟨_, -, h⟩ := bind_eq_ok.1 h
  obtain ⟨replay, hload, h⟩ := bind_eq_ok.1 h
  cases replay with
  | some replay =>
    cases h
    exact hload
  | none =>
    obtain ⟨_, -, h⟩ := bind_eq_ok.1 h
    obtain ⟨_, -, h⟩ := bind_eq_ok.1 h
    obtain ⟨_, -, h⟩ := bind_eq_ok.1 h
    cases h
    cases hreplay

structure DeleteAccepted (store : MemoryStore) (operation : MemoryLifecycleOperation)
    (event : MemoryEvent) (index : MemoryIndexOperation) (item : MemoryItem) : Prop where
  newEvent : store.events.find? (·.eventId = event.eventId) = none
  named : operation.memoryId = some item.memoryId
  stored : store.items.get? item.memoryId = some item
  active : item.lifecycleStatus = .active
  current : item.currentRevisionId = operation.revisionId
  index : validateIndexIdentity store index = .ok ()

def MemoryStore.writeDelete (store : MemoryStore) (item : MemoryItem) (event : MemoryEvent)
    (index : MemoryIndexOperation) : MemoryStore :=
  { store.putOperation (deleteOperation index item) with
    items := store.items.put (deletingItem item event)
    events := store.events ++ [event] }

def MemoryStore.scrub (R : Redaction) (store : MemoryStore) (memoryId : String)
    (operation : MemoryLifecycleOperation) : MemoryStore :=
  (store.scrubPendingPayloads R memoryId operation).scrubMemoryEvents R memoryId operation

theorem requestDelete_ok (h : store.requestDelete R operation event index = .ok (request, store')) :
    request.replay = true ∧ store' = store ∨
      ∃ item, DeleteAccepted store operation event index item ∧
        request = ⟨some (deletingItem item event), event, deleteOperation index item, false⟩ ∧
        store' = (store.writeDelete item event index).scrub R item.memoryId operation := by
  obtain ⟨memoryId, hid, h⟩ := bind_eq_ok.1 h
  dsimp only at h
  split at h
  · left
    split at h
    · cases h
    · obtain ⟨_, -, h⟩ := bind_eq_ok.1 h
      obtain ⟨_, -, h⟩ := bind_eq_ok.1 h
      split at h
      · obtain ⟨_, -, h⟩ := bind_eq_ok.1 h
        obtain ⟨_, -, h⟩ := bind_eq_ok.1 h
        cases h
        exact ⟨rfl, rfl⟩
      · obtain ⟨_, -, h⟩ := bind_eq_ok.1 h
        cases h
        exact ⟨rfl, rfl⟩
  · next hnew =>
    obtain ⟨item, hitem, h⟩ := bind_eq_ok.1 h
    obtain ⟨_, hcurrent, h⟩ := bind_eq_ok.1 h
    obtain ⟨_, hindex, h⟩ := bind_eq_ok.1 h
    cases h
    obtain ⟨hget, -, -, hactive⟩ := validateOperationTarget_ok hitem
    obtain rfl : item.memoryId = memoryId := memoryId_of_get? hget
    refine .inr ⟨item, ⟨hnew, (requiredMemoryId_ok hid).1, hget, hactive rfl, ?_, hindex⟩, rfl, rfl⟩
    simpa [ensure_eq_ok] using hcurrent

theorem completeDelete_ok {tombstone : MemoryEvent} {id : String}
    (h : store.completeDelete operation tombstone id = .ok (result, store')) :
    result.2 = true ∧ store' = store ∨
      ∃ item, store.items.get? item.memoryId = some item ∧
        operation.memoryId = some item.memoryId ∧ item.lifecycleStatus = .deletionPending ∧
        validateCompletedDeleteIndex (store.operations.get? id) operation = .ok () ∧
        result = (tombstone, false) ∧ store' = store.remove item.memoryId tombstone := by
  unfold MemoryStore.completeDelete at h
  split at h
  · obtain ⟨_, -, h⟩ := bind_eq_ok.1 h
    cases h
    exact .inl ⟨rfl, rfl⟩
  · obtain ⟨memoryId, hid, h⟩ := bind_eq_ok.1 h
    obtain ⟨_, hindex, h⟩ := bind_eq_ok.1 h
    obtain ⟨item, hitem, h⟩ := bind_eq_ok.1 h
    obtain ⟨_, hpending, h⟩ := bind_eq_ok.1 h
    cases h
    have hget := (validateOperationTarget_ok hitem).1
    obtain rfl : item.memoryId = memoryId := memoryId_of_get? hget
    refine .inr ⟨item, hget, (requiredMemoryId_ok hid).1, ?_, hindex, rfl, rfl⟩
    simpa [ensure_eq_ok] using hpending

theorem recordDeleteFailure_ok
    (h : store.recordDeleteFailure operation event deadLetter = .ok (result, store')) :
    result.2 = true ∧ store' = store ∨
      ∃ item, store.items.get? item.memoryId = some item ∧
        operation.memoryId = some item.memoryId ∧ item.lifecycleStatus = .deletionPending ∧
        store.events.find? (·.eventId = event.eventId) = none ∧ result = (event, false) ∧
        store' = store.writeFailure item.memoryId item event deadLetter := by
  obtain ⟨memoryId, hid, h⟩ := bind_eq_ok.1 h
  obtain ⟨item, hitem, h⟩ := bind_eq_ok.1 h
  obtain ⟨_, hpending, h⟩ := bind_eq_ok.1 h
  have hget := (validateOperationTarget_ok hitem).1
  obtain rfl : item.memoryId = memoryId := memoryId_of_get? hget
  split at h
  · cases h
    exact .inl ⟨rfl, rfl⟩
  · next hnew =>
    cases h
    refine .inr ⟨item, hget, (requiredMemoryId_ok hid).1, ?_, hnew, rfl, rfl⟩
    simpa [ensure_eq_ok] using hpending

def tombstoneOf (sha256 : String → String) (store : MemoryStore) (index : MemoryIndexOperation)
    (item : MemoryItem) (now : Instant) (providerStatus : Option String) : MemoryEvent :=
  deleteIndexEvent sha256 index item (deleteRequestEvent store.events index.memoryId)
    (indexEventId sha256 index "delete-completed") "memory_deleted_tombstone"
    (deleteProviderStatus index providerStatus) now none

theorem completeDeleteFromIndex_ok {providerStatus : Option String}
    (h : store.completeDeleteFromIndex sha256 index now providerStatus = .ok (result, store')) :
    validateDeleteIndexCompletion (store.operations.get? index.indexOperationId) index = .ok () ∧
      (result.2 = true ∧ store' = store ∧
          (store.events.find? (·.eventId = indexEventId sha256 index "delete-completed")).isSome ∨
        ∃ item, store.items.get? index.memoryId = some item ∧
          item.tenantId = some index.tenantId ∧ item.lifecycleStatus = .deletionPending ∧
          item.currentRevisionId = index.revisionId ∧
          result = (tombstoneOf sha256 store index item now providerStatus, false) ∧
          store' = store.remove index.memoryId
            (tombstoneOf sha256 store index item now providerStatus)) := by
  obtain ⟨_, hcompleted, h⟩ := bind_eq_ok.1 h
  refine ⟨hcompleted, ?_⟩
  dsimp only at h
  split at h
  · next hfound =>
    cases h
    exact .inl ⟨rfl, rfl, by simp [hfound]⟩
  · obtain ⟨item, hitem, h⟩ := bind_eq_ok.1 h
    cases h
    obtain ⟨hget, -, htenant, hpending, hcurrent⟩ := validateDeleteIndexItem_ok hitem
    exact .inr ⟨item, hget, htenant, hpending, hcurrent, rfl, rfl⟩

theorem recordDeleteIndexFailure_ok {errorCode : String}
    (h : store.recordDeleteIndexFailure sha256 index errorCode deadLetter now =
      .ok (result, store')) :
    ∃ item, store.items.get? index.memoryId = some item ∧ item.tenantId = some index.tenantId ∧
      item.lifecycleStatus = .deletionPending ∧ item.currentRevisionId = index.revisionId ∧
      ((result.2 = true ∧ store' = store ∧
          (store.events.find? (·.eventId = failureEventId sha256 index deadLetter)).isSome) ∨
        ∃ event : MemoryEvent, event.eventId = failureEventId sha256 index deadLetter ∧
          store.events.find? (·.eventId = event.eventId) = none ∧ result = (event, false) ∧
          store' = store.writeFailure index.memoryId item event deadLetter) := by
  obtain ⟨item, hitem, h⟩ := bind_eq_ok.1 h
  obtain ⟨hget, -, htenant, hpending, hcurrent⟩ := validateDeleteIndexItem_ok hitem
  refine ⟨item, hget, htenant, hpending, hcurrent, ?_⟩
  dsimp only at h
  split at h
  · next hfound =>
    cases h
    exact .inl ⟨rfl, rfl, by rw [hfound]; rfl⟩
  · next hnew =>
    cases h
    exact .inr ⟨_, rfl, hnew, rfl, rfl⟩

theorem appendRevision_ok {owner : MemoryOwner} {expected : Option String}
    (h : store.appendRevisionAndSetCurrent revision owner expected =
      .ok ((stored, updated), store')) :
    ∃ item, store.items.get? revision.memoryId = some item ∧ item.lifecycleStatus = .active ∧
      stored = nextRevision revision (store.history revision.memoryId) item ∧
      updated = revisedItem item stored ∧
      store' =
        { store with
          items := store.items.put updated
          revisions := store.revisions.set revision.memoryId
            (store.history revision.memoryId ++ [stored]) } := by
  obtain ⟨item, hitem, h⟩ := bind_eq_ok.1 h
  obtain ⟨_, -, h⟩ := bind_eq_ok.1 h
  cases h
  obtain ⟨hget, hactive, -⟩ := validateRevisionTarget_ok hitem
  exact ⟨item, hget, hactive, rfl, rfl, rfl⟩

end Calls

end OpenIntentRouter.Repositories.MemoryIndex
