import OpenIntentRouter.Repositories.MemoryLifecycleStore

/-!
# The lifecycle store of memories, on the database

`DatabaseMemoryLifecycleStore`, one transaction a call. A row has the columns
of the record it stores: `confidence` and `importance` in hundredths, JSON
columns as the value they hold. `none` of an insert or an update is the
`IntegrityError` of a violated key. A call that waits for the replay of another
one reads again what it has read: nobody else writes in the meantime.

* `commitAdd_ok`, `commitUpdate_ok`: what an accepted commit found and wrote;
* `writeDelete_eq_some`: when a request to delete is written.
-/
namespace OpenIntentRouter.Repositories.MemoryDatabase

open Core Core.Except Schemas MemoryIndex

/-! ## Rows -/

/-- mirrors app/db/models.py:455-501 -/
structure MemoryItemModel where
  memoryId : String
  scope : String
  subjectType : String
  subjectId : String
  userId : Option String
  tenantId : Option String
  agentId : Option String
  content : String
  structuredValue : JsonDict
  source : String
  confidence : Int
  importance : Int
  visibility : MemoryVisibility
  ttlExpiresAt : Option Instant
  metadata : JsonDict
  memoryKey : Option String
  candidateHash : Option String
  currentRevisionId : Option String
  formationJobId : Option String
  lifecycleStatus : Option MemoryLifecycleStatus
  indexStatus : Option MemoryIndexStatus
  canonicalRefs : List String
  createdAt : Instant
  updatedAt : Instant
  deriving DecidableEq

/-- mirrors app/db/models.py:526-545 -/
structure MemoryRevisionModel where
  revisionId : String
  memoryId : String
  revisionNo : Nat
  memoryKey : String
  operation : MemoryRevisionOperation
  content : String
  structuredValue : JsonDict
  evidenceRefs : List MemoryEvidenceRef
  confidence : Int
  policyVersion : String
  supersedesRevisionId : Option String
  formationJobId : Option String
  createdAt : Instant
  deriving DecidableEq

/-- `int(value * 100)`, which cuts off the decimals. -/
def hundredths (value : Rat) : Int := (value * 100).num.tdiv (value * 100).den

/-- mirrors app/repositories/context_stores.py:807-833 -/
def memoryValues (item : MemoryItem) : MemoryItemModel where
  memoryId := item.memoryId
  scope := item.scope
  subjectType := item.subjectType
  subjectId := item.subjectId
  userId := item.userId
  tenantId := item.tenantId
  agentId := item.agentId
  content := item.content
  structuredValue := item.structuredValue
  source := item.source
  confidence := hundredths item.confidence
  importance := hundredths item.importance
  visibility := item.visibility
  ttlExpiresAt := item.ttlExpiresAt
  metadata := item.metadata
  memoryKey := item.memoryKey
  candidateHash := item.candidateHash
  currentRevisionId := item.currentRevisionId
  formationJobId := item.formationJobId
  lifecycleStatus := some item.lifecycleStatus
  indexStatus := item.indexStatus
  canonicalRefs := item.canonicalRefs
  createdAt := item.createdAt
  updatedAt := item.updatedAt

/-- mirrors app/repositories/context_stores.py:836-862 -/
def memoryFromRow (row : MemoryItemModel) : MemoryItem where
  memoryId := row.memoryId
  scope := row.scope
  subjectType := row.subjectType
  subjectId := row.subjectId
  userId := row.userId
  tenantId := row.tenantId
  agentId := row.agentId
  content := row.content
  structuredValue := row.structuredValue
  source := row.source
  confidence := row.confidence / 100
  importance := row.importance / 100
  visibility := row.visibility
  ttlExpiresAt := row.ttlExpiresAt
  metadata := row.metadata
  memoryKey := row.memoryKey
  candidateHash := row.candidateHash
  currentRevisionId := row.currentRevisionId
  currentRevisionNo := none
  formationJobId := row.formationJobId
  lifecycleStatus := row.lifecycleStatus.getD .active
  indexStatus := row.indexStatus
  canonicalRefs := row.canonicalRefs
  createdAt := row.createdAt
  updatedAt := row.updatedAt

/-- mirrors app/repositories/memory_revisions.py:259-276 -/
def revisionValues (revision : MemoryRevision) : MemoryRevisionModel where
  revisionId := revision.revisionId
  memoryId := revision.memoryId
  revisionNo := revision.revisionNo
  memoryKey := revision.memoryKey
  operation := revision.operation
  content := revision.content
  structuredValue := revision.structuredValue
  evidenceRefs := revision.evidenceRefs
  confidence := hundredths revision.confidence
  policyVersion := revision.policyVersion
  supersedesRevisionId := revision.supersedesRevisionId
  formationJobId := revision.formationJobId
  createdAt := revision.createdAt

/-- mirrors app/repositories/memory_revisions.py:279-294 -/
def revisionFromRow (row : MemoryRevisionModel) : MemoryRevision where
  revisionId := row.revisionId
  memoryId := row.memoryId
  revisionNo := row.revisionNo
  memoryKey := row.memoryKey
  operation := row.operation
  content := row.content
  structuredValue := row.structuredValue
  evidenceRefs := row.evidenceRefs
  confidence := row.confidence / 100
  policyVersion := row.policyVersion
  supersedesRevisionId := row.supersedesRevisionId
  formationJobId := row.formationJobId
  createdAt := row.createdAt

/-! ## Tables -/

structure MemoryTables where
  items : Table MemoryItemModel.memoryId
  revisions : Table MemoryRevisionModel.revisionId
  events : Table MemoryEvent.eventId
  operations : IndexOperations
  turns : Table MemoryFormationTurn.turnId
  jobs : Table MemoryFormationJob.jobId

/-- The columns of `uq_memory_items_current_key_lifecycle` but the last are set and equal. -/
def sameKey (row other : MemoryItemModel) : Bool :=
  row.tenantId.isSome && row.memoryKey.isSome && row.tenantId = other.tenantId &&
  row.subjectType = other.subjectType && row.subjectId = other.subjectId &&
  row.scope = other.scope && row.memoryKey = other.memoryKey

/-- The unique constraint `uq_memory_items_current_key_lifecycle` forbids the two rows; a `NULL`
equals nothing. mirrors app/db/models.py:461-470 -/
def clashes (row other : MemoryItemModel) : Bool :=
  sameKey row other && row.lifecycleStatus.isSome && row.lifecycleStatus = other.lifecycleStatus

variable {operation : MemoryLifecycleOperation} {revision : MemoryRevision}
  {validateItem : MemoryItem → Checked}

namespace MemoryTables

def empty : MemoryTables := ⟨.empty, .empty, .empty, .empty, .empty, .empty⟩

def keyFree (tables : MemoryTables) (row : MemoryItemModel) : Bool :=
  tables.items.values.all fun other => other.memoryId = row.memoryId || !clashes row other

def insertItem (row : MemoryItemModel) (tables : MemoryTables) : Option MemoryTables :=
  if !tables.items.contains row.memoryId && tables.keyFree row then
    some { tables with items := tables.items.put row }
  else none

def updateItem (row : MemoryItemModel) (tables : MemoryTables) : Option MemoryTables :=
  if tables.keyFree row then some { tables with items := tables.items.put row } else none

/-- `uq_memory_revisions_number`: a memory has one revision of a number. -/
def insertRevision (row : MemoryRevisionModel) (tables : MemoryTables) : Option MemoryTables :=
  if !tables.revisions.contains row.revisionId &&
      tables.revisions.values.all fun other =>
        other.memoryId ≠ row.memoryId || other.revisionNo ≠ row.revisionNo then
    some { tables with revisions := tables.revisions.put row }
  else none

def insertEvent (event : MemoryEvent) (tables : MemoryTables) : Option MemoryTables :=
  if !tables.events.contains event.eventId then
    some { tables with events := tables.events.put event }
  else none

/-- `uq_memory_index_operations_idempotency`: a key occurs once. -/
def insertOperation (operation : MemoryIndexOperation) (tables : MemoryTables) :
    Option MemoryTables :=
  if !tables.operations.contains operation.indexOperationId &&
      tables.operations.values.all fun other =>
        other.idempotencyKey ≠ operation.idempotencyKey then
    some { tables with operations := tables.operations.put operation }
  else none

/-! ## Commits -/

/-- mirrors app/repositories/memory_lifecycle_store.py:1101-1141 -/
def loadReplay (tables : MemoryTables) (event : MemoryEvent) (revision : MemoryRevision)
    (index : MemoryIndexOperation) (validateItem : MemoryItem → Checked) :
    Except StoreError (Option Commit) :=
  match tables.events.get? event.eventId with
  | none => .ok none
  | some storedEvent =>
    let item := tables.items.get? revision.memoryId
    let storedRevision := tables.revisions.get? revision.revisionId
    let storedIndex := tables.operations.values.find? fun operation =>
      operation.memoryId = revision.memoryId && operation.revisionId = some revision.revisionId
    match item, storedRevision, storedIndex with
    | some item, some storedRevision, some storedIndex => do
      validateEventReplay storedEvent event
      validateRevisionReplay (revisionFromRow storedRevision) revision
      validateIndexReplay storedIndex index
      validateItem (memoryFromRow item)
      return some
        ⟨{ memoryFromRow item with currentRevisionNo := some storedRevision.revisionNo },
          revisionFromRow storedRevision, storedEvent, storedIndex, true⟩
    | _, _, _ => .error (.valueError "Incomplete lifecycle replay state")

def insertCommit (tables : MemoryTables) (item : MemoryItem) (revision : MemoryRevision)
    (event : MemoryEvent) (index : MemoryIndexOperation) : Option MemoryTables := do
  let tables ← tables.insertItem (memoryValues item)
  let tables ← tables.insertRevision (revisionValues revision)
  let tables ← tables.insertEvent event
  tables.insertOperation index

/-- mirrors app/repositories/memory_lifecycle_store.py:546-590 -/
def commitAdd (tables : MemoryTables) (item : MemoryItem) (revision : MemoryRevision)
    (event : MemoryEvent) (index : MemoryIndexOperation) :
    Except StoreError (Commit × MemoryTables) := do
  let replayed := tables.loadReplay event revision index (validateItemReplay · item)
  match ← replayed with
  | some replay => return (replay, tables)
  | none =>
    let storedRevision := addedRevision revision
    let storedItem := addedItem item storedRevision
    match tables.insertCommit storedItem storedRevision event index with
    | some tables' => return (⟨storedItem, storedRevision, event, index, false⟩, tables')
    | none =>
      match ← replayed with
      | some replay => return (replay, tables)
      | none => .error (.valueError "Memory lifecycle ADD conflict")

/-- mirrors app/repositories/memory_lifecycle_store.py:1472-1475 -/
def databaseMemoryKeyCondition (operation : MemoryLifecycleOperation) (row : MemoryItemModel) :
    Bool :=
  if operation.memoryKey.startsWith "legacy-memory:" then row.memoryKey = none
  else row.memoryKey = some operation.memoryKey

/-- The condition of the `UPDATE` of an active item. -/
def isTarget (operation : MemoryLifecycleOperation) (row : MemoryItemModel) : Bool :=
  row.tenantId = some operation.tenantId && row.userId = some operation.userId &&
  row.subjectType = operation.subjectType && row.subjectId = operation.subjectId &&
  databaseMemoryKeyCondition operation row && row.lifecycleStatus = some .active &&
  row.currentRevisionId = operation.revisionId

/-- `max(revision_no)` of the revisions of a memory, 0 without one. -/
def latestNo (tables : MemoryTables) (memoryId : String) : Nat :=
  ((tables.revisions.values.filter (·.memoryId = memoryId)).map (·.revisionNo)).foldl max 0

def updatedRow (row : MemoryItemModel) (operation : MemoryLifecycleOperation)
    (revision : MemoryRevision) (values : UpdateValues) : MemoryItemModel :=
  { row with
    content := revision.content
    structuredValue := revision.structuredValue
    candidateHash := some values.candidateHash
    confidence := hundredths values.confidence
    importance := hundredths values.importance
    currentRevisionId := some revision.revisionId
    formationJobId := operation.formationJobId
    indexStatus := some .pending
    canonicalRefs := values.canonicalRefs
    updatedAt := revision.createdAt }

def writeUpdate (tables : MemoryTables) (row : MemoryItemModel) (revision : MemoryRevision)
    (event : MemoryEvent) (index : MemoryIndexOperation) : Option MemoryTables := do
  let tables ← ({ tables with items := tables.items.put row }).insertRevision
    (revisionValues revision)
  let tables ← tables.insertEvent event
  tables.insertOperation index

/-- mirrors app/repositories/memory_lifecycle_store.py:592-692 -/
def commitUpdate (tables : MemoryTables) (operation : MemoryLifecycleOperation)
    (revision : MemoryRevision) (event : MemoryEvent) (index : MemoryIndexOperation)
    (values : UpdateValues) : Except StoreError (Commit × MemoryTables) := do
  let memoryId ← requiredMemoryId operation
  let validateItem item := (fun _ => ()) <$> validateOperationTarget (some item) operation false
  let replayed := tables.loadReplay event revision index validateItem
  match ← replayed with
  | some replay => return (replay, tables)
  | none =>
    let row := tables.items.get? memoryId
    let item ← validateOperationTarget (row.map memoryFromRow) operation true
    Except.ensure (item.currentRevisionId = operation.revisionId)
      (.valueError "Memory lifecycle precondition changed")
    let storedRevision :=
      { revision with
        revisionNo := tables.latestNo memoryId + 1
        supersedesRevisionId := item.currentRevisionId }
    match row.filter (isTarget operation) with
    | none => .error (.valueError "Memory lifecycle precondition changed")
    | some row =>
      match tables.writeUpdate (updatedRow row operation storedRevision values) storedRevision event
          index with
      | some tables' =>
        return (⟨updatedItem item operation storedRevision values, storedRevision, event, index,
          false⟩, tables')
      | none =>
        match ← replayed with
        | some replay => return (replay, tables)
        | none => .error (.valueError "Memory lifecycle UPDATE conflict")

/-! ## Deletions -/

/-- mirrors app/repositories/memory_lifecycle_store.py:1143-1202 -/
def scrubPendingPayloads (R : Redaction) (tables : MemoryTables) (memoryId : String)
    (operation : MemoryLifecycleOperation) : MemoryTables :=
  let matchedTurns :=
    (tables.turns.values.filter (matchedTurn memoryId operation)).map (·.turnId)
  { tables with
    turns := tables.turns.mapValues (scrubTurn memoryId operation) (scrubTurn_turnId memoryId operation)
    jobs := tables.jobs.mapValues (scrubJob R memoryId operation matchedTurns) fun _ => rfl
    events := tables.events.mapValues (scrubEvent R memoryId operation) fun _ => rfl }

def deletingRow (row : MemoryItemModel) (event : MemoryEvent) : MemoryItemModel :=
  { row with
    lifecycleStatus := some .deletionPending
    indexStatus := some .deletionPending
    updatedAt := event.createdAt }

def writeDelete (R : Redaction) (tables : MemoryTables) (memoryId : String)
    (operation : MemoryLifecycleOperation) (event : MemoryEvent) (index : MemoryIndexOperation) :
    Option (DeleteRequest × MemoryTables) := do
  let row ← (tables.items.get? memoryId).filter (isTarget operation)
  let tables ← tables.updateItem (deletingRow row event)
  let item := memoryFromRow (deletingRow row event)
  let storedIndex := deleteOperation index item
  let tables ← tables.insertEvent event
  let tables ← tables.insertOperation storedIndex
  return (⟨some item, event, storedIndex, false⟩, tables.scrubPendingPayloads R memoryId operation)

/-- mirrors app/repositories/memory_lifecycle_store.py:1034-1064 -/
def loadDeleteReplay (tables : MemoryTables) (memoryId : String)
    (operation : MemoryLifecycleOperation) (event : MemoryEvent) (index : MemoryIndexOperation) :
    Except StoreError (Option DeleteRequest) :=
  match tables.events.get? event.eventId with
  | none => .ok none
  | some storedEvent =>
    match tables.operations.values.find? (·.idempotencyKey = index.idempotencyKey) with
    | none => .error (.valueError "Incomplete deletion replay state")
    | some storedIndex => do
      validateEventReplay storedEvent event
      validateIndexReplay storedIndex index
      let item := (tables.items.get? memoryId).map memoryFromRow
      match item with
      | some item => do
        let _ ← validateOperationTarget (some item) operation false
        Except.ensure (item.currentRevisionId = operation.revisionId) replayConflict
      | none =>
        Except.ensure (storedIndex.status = .completed)
          (.valueError "Incomplete deletion replay state")
      return some ⟨item, storedEvent, storedIndex, true⟩

/-- mirrors app/repositories/memory_lifecycle_store.py:712-778 -/
def requestDelete (R : Redaction) (tables : MemoryTables) (operation : MemoryLifecycleOperation)
    (event : MemoryEvent) (index : MemoryIndexOperation) :
    Except StoreError (DeleteRequest × MemoryTables) := do
  let memoryId ← requiredMemoryId operation
  match tables.writeDelete R memoryId operation event index with
  | some written => return written
  | none =>
    match ← tables.loadDeleteReplay memoryId operation event index with
    | some replay => return (replay, tables)
    | none => .error (.valueError "Memory lifecycle target is not active")

/-! ## What is written -/

section Writes

variable {tables tables' : MemoryTables} {row : MemoryItemModel} {event : MemoryEvent}
  {index : MemoryIndexOperation}

theorem keyFree_iff : tables.keyFree row = true ↔
    ∀ other ∈ tables.items.values, other.memoryId ≠ row.memoryId → clashes row other = false := by
  simp only [keyFree, List.all_eq_true, Bool.or_eq_true, decide_eq_true_eq, Bool.not_eq_true']
  grind

theorem written_iff {α : Type} {free : Bool} {written result : α} :
    (if free then some written else none) = some result ↔ free = true ∧ result = written := by
  rw [Option.ite_none_right_eq_some, Option.some.injEq, eq_comm (a := written)]

theorem insertItem_eq_some : tables.insertItem row = some tables' ↔
    tables.items.get? row.memoryId = none ∧ tables.keyFree row = true ∧
      tables' = { tables with items := tables.items.put row } := by
  rw [insertItem, written_iff, Bool.and_eq_true, Bool.not_eq_true', Table.contains_eq_false,
    and_assoc]

theorem updateItem_eq_some : tables.updateItem row = some tables' ↔
    tables.keyFree row = true ∧ tables' = { tables with items := tables.items.put row } :=
  written_iff

theorem insertRevision_eq_some {row : MemoryRevisionModel} :
    tables.insertRevision row = some tables' ↔
      tables.revisions.get? row.revisionId = none ∧
      (∀ other ∈ tables.revisions.values, other.memoryId = row.memoryId →
        other.revisionNo ≠ row.revisionNo) ∧
      tables' = { tables with revisions := tables.revisions.put row } := by
  rw [insertRevision, written_iff, Bool.and_eq_true, Bool.not_eq_true', Table.contains_eq_false,
    and_assoc]
  simp only [List.all_eq_true, Bool.or_eq_true, decide_eq_true_eq, imp_iff_not_or, ne_eq]

theorem insertEvent_eq_some : tables.insertEvent event = some tables' ↔
    tables.events.get? event.eventId = none ∧
      tables' = { tables with events := tables.events.put event } := by
  rw [insertEvent, written_iff, Bool.not_eq_true', Table.contains_eq_false]

theorem insertOperation_eq_some : tables.insertOperation index = some tables' ↔
    tables.operations.get? index.indexOperationId = none ∧
      (∀ other ∈ tables.operations.values, other.idempotencyKey ≠ index.idempotencyKey) ∧
      tables' = { tables with operations := tables.operations.put index } := by
  rw [insertOperation, written_iff, Bool.and_eq_true, Bool.not_eq_true', Table.contains_eq_false,
    and_assoc]
  simp only [List.all_eq_true, decide_eq_true_eq]

structure Fresh (tables : MemoryTables) (event : MemoryEvent) (index : MemoryIndexOperation) :
    Prop where
  event : tables.events.get? event.eventId = none
  operation : tables.operations.get? index.indexOperationId = none
  idempotency : ∀ other ∈ tables.operations.values, other.idempotencyKey ≠ index.idempotencyKey

def deleteRequested (R : Redaction) (tables : MemoryTables) (row : MemoryItemModel)
    (operation : MemoryLifecycleOperation) (event : MemoryEvent) (index : MemoryIndexOperation) :
    MemoryTables :=
  ({ tables with
    items := tables.items.put (deletingRow row event)
    events := tables.events.put event
    operations := tables.operations.put (deleteOperation index (memoryFromRow row)) } :
      MemoryTables).scrubPendingPayloads R row.memoryId operation

theorem deleteRequested_eventIds {R : Redaction} :
    (deleteRequested R tables row operation event index).events.values.map (·.eventId) =
      (tables.events.put event).values.map (·.eventId) := by
  have hvalues := (tables.events.put event).values_mapValues
    (scrubEvent R row.memoryId operation) fun _ => rfl
  exact (congrArg (List.map (·.eventId)) hvalues).trans (List.map_map ..)

/-- A request to delete is written if the row is its target and the key is free among the
items whose deletion is pending. -/
theorem writeDelete_eq_some {R : Redaction} {request : DeleteRequest}
    (hget : tables.items.get? row.memoryId = some row) :
    tables.writeDelete R row.memoryId operation event index = some (request, tables') ↔
      isTarget operation row = true ∧ tables.keyFree (deletingRow row event) = true ∧
      Fresh tables event index ∧
      request = ⟨some (memoryFromRow (deletingRow row event)), event,
        deleteOperation index (memoryFromRow row), false⟩ ∧
      tables' = deleteRequested R tables row operation event index := by
  unfold writeDelete
  rw [hget]
  constructor
  · intro h
    obtain ⟨found, hfound, h⟩ := Option.bind_eq_some_iff.1 h
    obtain ⟨hsome, htarget⟩ := Option.filter_eq_some_iff.1 hfound
    cases hsome
    obtain ⟨_, hupdate, h⟩ := Option.bind_eq_some_iff.1 h
    obtain ⟨hfree, rfl⟩ := updateItem_eq_some.1 hupdate
    obtain ⟨_, hevent, h⟩ := Option.bind_eq_some_iff.1 h
    obtain ⟨hnew, rfl⟩ := insertEvent_eq_some.1 hevent
    obtain ⟨_, hoperation, h⟩ := Option.bind_eq_some_iff.1 h
    obtain ⟨hid, hkey, rfl⟩ := insertOperation_eq_some.1 hoperation
    cases h
    exact ⟨htarget, hfree, ⟨hnew, hid, hkey⟩, rfl, rfl⟩
  · rintro ⟨htarget, hfree, ⟨hnew, hid, hkey⟩, rfl, rfl⟩
    refine Option.bind_eq_some_iff.2 ⟨row, Option.filter_eq_some_iff.2 ⟨rfl, htarget⟩, ?_⟩
    refine Option.bind_eq_some_iff.2 ⟨_, updateItem_eq_some.2 ⟨hfree, rfl⟩, ?_⟩
    refine Option.bind_eq_some_iff.2 ⟨_, insertEvent_eq_some.2 ⟨hnew, rfl⟩, ?_⟩
    exact Option.bind_eq_some_iff.2 ⟨_, insertOperation_eq_some.2 ⟨hid, hkey, rfl⟩, rfl⟩

def inserted (tables : MemoryTables) (item : MemoryItem) (revision : MemoryRevision)
    (event : MemoryEvent) (index : MemoryIndexOperation) : MemoryTables :=
  { tables with
    items := tables.items.put (memoryValues item)
    revisions := tables.revisions.put (revisionValues revision)
    events := tables.events.put event
    operations := tables.operations.put index }

theorem insertCommit_ok {item : MemoryItem}
    (h : tables.insertCommit item revision event index = some tables') :
    tables.items.get? item.memoryId = none ∧
      tables.revisions.get? revision.revisionId = none ∧ Fresh tables event index ∧
      tables' = tables.inserted item revision event index := by
  obtain ⟨_, hitem, h⟩ := Option.bind_eq_some_iff.1 h
  obtain ⟨hid, -, rfl⟩ := insertItem_eq_some.1 hitem
  obtain ⟨_, hrevision, h⟩ := Option.bind_eq_some_iff.1 h
  obtain ⟨hrevisionId, -, rfl⟩ := insertRevision_eq_some.1 hrevision
  obtain ⟨_, hevent, h⟩ := Option.bind_eq_some_iff.1 h
  obtain ⟨hnew, rfl⟩ := insertEvent_eq_some.1 hevent
  obtain ⟨hoperation, hkey, rfl⟩ := insertOperation_eq_some.1 h
  exact ⟨hid, hrevisionId, ⟨hnew, hoperation, hkey⟩, rfl⟩

theorem writeUpdate_ok (h : tables.writeUpdate row revision event index = some tables') :
    tables.revisions.get? revision.revisionId = none ∧ Fresh tables event index ∧
      tables' =
        { tables with
          items := tables.items.put row
          revisions := tables.revisions.put (revisionValues revision)
          events := tables.events.put event
          operations := tables.operations.put index } := by
  obtain ⟨_, hrevision, h⟩ := Option.bind_eq_some_iff.1 h
  obtain ⟨hrevisionId, -, rfl⟩ := insertRevision_eq_some.1 hrevision
  obtain ⟨_, hevent, h⟩ := Option.bind_eq_some_iff.1 h
  obtain ⟨hnew, rfl⟩ := insertEvent_eq_some.1 hevent
  obtain ⟨hoperation, hkey, rfl⟩ := insertOperation_eq_some.1 h
  exact ⟨hrevisionId, ⟨hnew, hoperation, hkey⟩, rfl⟩

end Writes

/-! ## What an accepted commit found and wrote -/

section Commits

variable {tables tables' : MemoryTables} {item : MemoryItem} {revision : MemoryRevision}
  {event : MemoryEvent} {index : MemoryIndexOperation} {commit : Commit}

/-- A commit is a replay if its four rows are there and pass their checks. -/
theorem loadReplay_some :
    tables.loadReplay event revision index validateItem = .ok (some commit) ↔
      ∃ item stored, tables.events.get? event.eventId = some commit.event ∧
        tables.items.get? revision.memoryId = some item ∧
        tables.revisions.get? revision.revisionId = some stored ∧
        (tables.operations.values.find? fun operation =>
          operation.memoryId = revision.memoryId &&
            operation.revisionId = some revision.revisionId) = some commit.indexOperation ∧
        validateEventReplay commit.event event = .ok () ∧
        validateRevisionReplay (revisionFromRow stored) revision = .ok () ∧
        validateIndexReplay commit.indexOperation index = .ok () ∧
        validateItem (memoryFromRow item) = .ok () ∧
        commit.item = { memoryFromRow item with currentRevisionNo := some stored.revisionNo } ∧
        commit.revision = revisionFromRow stored ∧ commit.replay = true := by
  unfold loadReplay
  split
  · next hnone => simp [hnone]
  · next found hfound =>
    rw [hfound]
    dsimp only
    split
    · next item stored existing hitem hstored hexisting =>
      rw [hitem, hstored, hexisting]
      constructor
      · intro h
        obtain ⟨_, hevent, h⟩ := bind_eq_ok.1 h
        obtain ⟨_, hrevision, h⟩ := bind_eq_ok.1 h
        obtain ⟨_, hindex, h⟩ := bind_eq_ok.1 h
        obtain ⟨_, hvalid, h⟩ := bind_eq_ok.1 h
        cases h
        exact ⟨item, stored, rfl, rfl, rfl, rfl, hevent, hrevision, hindex, hvalid, rfl, rfl, rfl⟩
      · obtain ⟨commitItem, commitRevision, commitEvent, commitIndex, replay⟩ := commit
        rintro ⟨_, _, ⟨⟩, ⟨⟩, ⟨⟩, ⟨⟩, hevent, hrevision, hindex, hvalid, hcommit, hstored, hreplay⟩
        cases hcommit
        cases hstored
        cases hreplay
        refine bind_eq_ok.2 ⟨(), hevent, bind_eq_ok.2 ⟨(), hrevision, ?_⟩⟩
        exact bind_eq_ok.2 ⟨(), hindex, bind_eq_ok.2 ⟨(), hvalid, rfl⟩⟩
    · next hmissing =>
      constructor
      · intro h
        cases h
      · rintro ⟨item, stored, -, hitem, hstored, hexisting, -⟩
        exact (hmissing _ _ _ hitem hstored hexisting).elim

theorem loadReplay_none :
    tables.loadReplay event revision index validateItem = .ok none ↔
      tables.events.get? event.eventId = none := by
  unfold loadReplay
  split
  · next hnone => simp [hnone]
  · next found hfound =>
    rw [hfound]
    dsimp only
    split <;> simp [bind_eq_ok, pure, Except.pure]

theorem commitAdd_ok (h : tables.commitAdd item revision event index = .ok (commit, tables')) :
    commit.replay = true ∧ tables' = tables ∨
      commit.replay = false ∧
        tables.insertCommit (addedItem item (addedRevision revision)) (addedRevision revision) event
          index = some tables' := by
  obtain ⟨replay, hreplay, h⟩ := bind_eq_ok.1 h
  cases replay with
  | some replay =>
    cases h
    obtain ⟨_, _, -, -, -, -, -, -, -, -, -, -, hcommit⟩ := loadReplay_some.1 hreplay
    exact .inl ⟨hcommit, rfl⟩
  | none =>
    dsimp only at h
    split at h
    · next hwritten =>
      cases h
      exact .inr ⟨rfl, hwritten⟩
    · rw [hreplay] at h
      cases h

theorem commitUpdate_ok {values : UpdateValues}
    (h : tables.commitUpdate operation revision event index values = .ok (commit, tables')) :
    commit.replay = true ∧ tables' = tables ∨
      commit.replay = false ∧
        ∃ row, tables.items.get? row.memoryId = some row ∧
          operation.memoryId = some row.memoryId ∧ IsTarget operation (memoryFromRow row) ∧
          row.lifecycleStatus = some .active ∧
          ∃ revisionNo supersedesRevisionId,
            let stored := { revision with revisionNo, supersedesRevisionId }
            tables.writeUpdate (updatedRow row operation stored values) stored event index =
              some tables' := by
  obtain ⟨memoryId, hid, h⟩ := bind_eq_ok.1 h
  obtain ⟨replay, hreplay, h⟩ := bind_eq_ok.1 h
  cases replay with
  | some replay =>
    cases h
    obtain ⟨_, _, -, -, -, -, -, -, -, -, -, -, hcommit⟩ := loadReplay_some.1 hreplay
    exact .inl ⟨hcommit, rfl⟩
  | none =>
    obtain ⟨item, hitem, h⟩ := bind_eq_ok.1 h
    obtain ⟨_, -, h⟩ := bind_eq_ok.1 h
    dsimp only at h
    split at h
    · cases h
    · next row hrow =>
      obtain ⟨hget, hwhere⟩ := Option.filter_eq_some_iff.1 hrow
      obtain ⟨hstored, htarget, -⟩ := validateOperationTarget_iff.1 hitem
      rw [hget, Option.map_some, Option.some.injEq] at hstored
      subst hstored
      obtain rfl : row.memoryId = memoryId := Table.key_of_get? hget
      simp only [isTarget, Bool.and_eq_true, decide_eq_true_eq] at hwhere
      split at h
      · next hwritten =>
        cases h
        exact .inr ⟨rfl, row, hget, (requiredMemoryId_ok hid).1, htarget, hwhere.1.2, _, _, hwritten⟩
      · rw [hreplay] at h
        cases h

end Commits

end MemoryTables

end OpenIntentRouter.Repositories.MemoryDatabase
