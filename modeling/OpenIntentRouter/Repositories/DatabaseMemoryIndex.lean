import OpenIntentRouter.Repositories.DatabaseMemoryLifecycle

/-!
# The index repositories, on the database

`DatabaseMemoryIndexOutboxRepository`, the index state of
`DatabaseMemoryItemRepository`, and the ways in which a deletion ends in
`DatabaseMemoryLifecycleStore`. Without a concurrent transaction `claim` selects
and leases as in memory.
-/
namespace OpenIntentRouter.Repositories.MemoryDatabase

open Core Core.Except Schemas MemoryIndex

variable {values : MemoryIndexOperation → MemoryIndexOperation} {tables tables' : MemoryTables}
  {operation : MemoryIndexOperation}

namespace MemoryTables

/-! ## The outbox -/

/-- mirrors app/repositories/memory_index_operations.py:435-516 -/
def claim (owner leaseToken : String) (now : Instant) (lease : Int) (tenantId : Option String)
    (tables : MemoryTables) : Option MemoryIndexOperation × MemoryTables :=
  let (operation, operations) :=
    MemoryIndex.claim owner leaseToken now lease tenantId tables.operations
  (operation, { tables with operations })

/-- The columns that `_terminal_update` sets besides its values. -/
def released (now : Instant) (row : MemoryIndexOperation) : MemoryIndexOperation :=
  { row with leaseOwner := none, leaseToken := none, leaseExpiresAt := none, updatedAt := now }

/-- mirrors app/repositories/memory_index_operations.py:589-621 -/
def terminalUpdate (indexOperationId owner leaseToken : String) (now : Instant)
    (values : MemoryIndexOperation → MemoryIndexOperation) (tables : MemoryTables) :
    Except StoreError (MemoryIndexOperation × MemoryTables) :=
  let owned (row : MemoryIndexOperation) : Bool :=
    row.status = .claimed && row.leaseOwner = some owner && row.leaseToken = some leaseToken &&
      row.leaseExpiresAt.any (now < ·)
  match (tables.operations.get? indexOperationId).filter owned with
  | none => .error (.valueError "Index operation claim transition lost")
  | some row =>
    let row := released now (values row)
    .ok (row, { tables with operations := tables.operations.put row })

/-- mirrors app/repositories/memory_index_operations.py:518-539 -/
def complete (indexOperationId owner leaseToken : String) (now : Instant)
    (externalMemoryId : Option String) (resultMetadata : Option JsonDict) (tables : MemoryTables) :
    Except StoreError (MemoryIndexOperation × MemoryTables) :=
  tables.terminalUpdate indexOperationId owner leaseToken now fun row =>
    { row with
      status := .completed
      externalMemoryId := externalMemoryId.or row.externalMemoryId
      lastErrorMetadata := resultMetadata.getD row.lastErrorMetadata }

/-- mirrors app/repositories/memory_index_operations.py:541-566 -/
def fail (indexOperationId owner leaseToken : String) (now : Instant) (errorCode : String)
    (nextAttemptAt : Instant) (tables : MemoryTables) :
    Except StoreError (MemoryIndexOperation × MemoryTables) :=
  match tables.operations.get? indexOperationId with
  | none => .error (.valueError "Index operation not found")
  | some row =>
    let status : MemoryIndexOperationStatus :=
      if row.maxAttempts ≤ row.attemptCount then .deadLetter else .retry
    tables.terminalUpdate indexOperationId owner leaseToken now fun row =>
      { row with
        status
        nextAttemptAt := some nextAttemptAt
        lastErrorCode := some errorCode }

/-- mirrors app/repositories/memory_index_operations.py:287-313 (`add`) -/
def addOperation (operation : MemoryIndexOperation) (tables : MemoryTables) :
    Except StoreError (MemoryIndexOperation × MemoryTables) :=
  match tables.operations.values.find? (·.idempotencyKey = operation.idempotencyKey) with
  | some existing => do
    Except.ensure
      (existing.tenantId = operation.tenantId && existing.memoryId = operation.memoryId &&
        existing.revisionId = operation.revisionId && existing.operation = operation.operation)
      (.valueError "Index operation identity conflict")
    return (existing, tables)
  | none =>
    match tables.insertOperation operation with
    | none => .error .integrityError
    | some tables => .ok (operation, tables)

/-- mirrors app/repositories/memory_index_operations.py:568-587 -/
def listRepairCandidates (tenantId : String) (statuses : List MemoryIndexOperationStatus)
    (limit : Nat) (tables : MemoryTables) : List MemoryIndexOperation :=
  MemoryIndex.listRepairCandidates tenantId statuses limit tables.operations

theorem terminalUpdate_ok {id owner token : String} {now : Instant}
    (h : tables.terminalUpdate id owner token now values = .ok (operation, tables')) :
    ∃ row, tables.operations.get? id = some row ∧ row.status = .claimed ∧
      operation = released now (values row) ∧
      tables' = { tables with operations := tables.operations.put operation } := by
  unfold terminalUpdate at h
  dsimp only at h
  split at h
  · cases h
  · next row hrow =>
    cases h
    obtain ⟨hget, howned⟩ := Option.filter_eq_some_iff.1 hrow
    simp only [Bool.and_eq_true, decide_eq_true_eq] at howned
    exact ⟨row, hget, howned.1.1.1, rfl, rfl⟩

theorem terminalUpdate_same {id owner token : String} {now : Instant}
    (hvalues : ∀ row, SameOperation (values row) row)
    (h : tables.terminalUpdate id owner token now values = .ok (operation, tables')) :
    ∃ operations, SameOperations tables.operations operations ∧
      tables' = { tables with operations } := by
  obtain ⟨row, hget, -, rfl, rfl⟩ := terminalUpdate_ok h
  have hreleased : SameOperation (released now (values row)) (values row) :=
    ⟨rfl, rfl, rfl, rfl, rfl, rfl⟩
  exact ⟨_, (SameOperations.refl tables.operations).put hget (hreleased.trans (hvalues row)), rfl⟩

/-! ## The index state of an item -/

/-- mirrors app/repositories/context_stores.py:553-561 -/
def getById (memoryId tenantId : String) (tables : MemoryTables) : Option MemoryItem :=
  ((tables.items.get? memoryId).filter (·.tenantId = some tenantId)).map memoryFromRow

/-- mirrors app/repositories/context_stores.py:563-592 -/
def listIndexable (tenantId : String) (now : Instant) (limit : Nat) (afterMemoryId : Option String)
    (tables : MemoryTables) : List MemoryItem :=
  (((tables.items.values.filter fun row =>
    row.tenantId = some tenantId && row.lifecycleStatus = some .active &&
      row.ttlExpiresAt.all (now < ·) && afterMemoryId.all (· < row.memoryId)).insertionSort
        fun a b => a.memoryId ≤ b.memoryId).take limit).map memoryFromRow

/-- mirrors app/repositories/memory_lifecycle_store.py:880-898 -/
def listExpired (now : Instant) (limit : Nat) (tables : MemoryTables) : List MemoryItem :=
  (((tables.items.values.filter fun row =>
    row.lifecycleStatus = some .active && row.ttlExpiresAt.any (· ≤ now)).map
      memoryFromRow).insertionSort fun a b =>
        MemoryIndex.MemoryStore.expiryKey a ≤ MemoryIndex.MemoryStore.expiryKey b).take limit

/-- The row after `set_index_state`. -/
def indexStateRow (status : MemoryIndexStatus) (externalMemoryId : Option String)
    (updatedAt : Instant) (row : MemoryItemModel) : MemoryItemModel :=
  { row with
    indexStatus := some status
    metadata :=
      match externalMemoryId.filter (· ≠ "") with
      | some external => JsonDict.set row.metadata "mem0_memory_id" (.str external)
      | none => row.metadata
    updatedAt }

/-- mirrors app/repositories/context_stores.py:594-630 -/
def setIndexState (tables : MemoryTables) (memoryId tenantId : String)
    (expectedRevisionId : Option String) (status : MemoryIndexStatus)
    (externalMemoryId : Option String) (updatedAt : Instant) :
    Option MemoryItem × MemoryTables :=
  let current (row : MemoryItemModel) : Bool :=
    row.tenantId = some tenantId && row.lifecycleStatus = some .active &&
      row.currentRevisionId = expectedRevisionId
  match (tables.items.get? memoryId).filter current with
  | none => (none, tables)
  | some row =>
    let row := indexStateRow status externalMemoryId updatedAt row
    (some (memoryFromRow row), { tables with items := tables.items.put row })

/-- mirrors app/repositories/context_stores.py:664-684 -/
def addEvent (tables : MemoryTables) (event : MemoryEvent) : Except StoreError MemoryTables :=
  match tables.events.get? event.eventId with
  | some existing => do
    MemoryStore.validateMemoryEventIdentity existing event
    return tables
  | none => .ok { tables with events := tables.events.put event }

/-! ## The end of a deletion -/

/-- mirrors app/repositories/memory_lifecycle_store.py:694-711 -/
def recordDecision (tables : MemoryTables) (event : MemoryEvent) :
    Except StoreError ((MemoryEvent × Bool) × MemoryTables) := do
  match tables.events.get? event.eventId with
  | some existing => do
    validateEventReplay existing event
    return ((existing, true), tables)
  | none => return ((event, false), { tables with events := tables.events.put event })

def deleteRequest (tables : MemoryTables) (memoryId : String) : Option MemoryEvent :=
  (tables.events.values.filter fun event =>
    event.memoryId = some memoryId && event.eventType = "memory_deletion_requested").argmax
      (·.createdAt)

def remove (tables : MemoryTables) (memoryId : String) (tombstone : MemoryEvent) : MemoryTables :=
  { tables with
    items := tables.items.erase memoryId
    revisions := tables.revisions.filter (·.memoryId ≠ memoryId)
    events := tables.events.put tombstone }

/-- The condition of the `DELETE` of an item. -/
def isDeleted (operation : MemoryLifecycleOperation) (row : MemoryItemModel) : Bool :=
  row.tenantId = some operation.tenantId && row.userId = some operation.userId &&
  row.subjectType = operation.subjectType && row.subjectId = operation.subjectId &&
  databaseMemoryKeyCondition operation row && row.lifecycleStatus = some .deletionPending &&
  row.currentRevisionId = operation.revisionId

/-- mirrors app/repositories/memory_lifecycle_store.py:780-826 -/
def completeDelete (tables : MemoryTables) (operation : MemoryLifecycleOperation)
    (tombstone : MemoryEvent) (indexOperationId : String) :
    Except StoreError ((MemoryEvent × Bool) × MemoryTables) := do
  let memoryId ← requiredMemoryId operation
  validateCompletedDeleteIndex (tables.operations.get? indexOperationId) operation
  let row := (tables.items.get? memoryId).filter (isDeleted operation)
  match tables.events.get? tombstone.eventId with
  | none =>
    Except.ensure row.isSome (.valueError "Memory deletion is not pending")
    return ((tombstone, false), tables.remove memoryId tombstone)
  | some existing => do
    validateEventReplay existing tombstone
    return ((existing, true), tables)

/-- mirrors app/repositories/memory_lifecycle_store.py:905-954 -/
def completeDeleteFromIndex (sha256 : String → String) (tables : MemoryTables)
    (index : MemoryIndexOperation) (now : Instant) (providerStatus : Option String) :
    Except StoreError ((MemoryEvent × Bool) × MemoryTables) := do
  let eventId := indexEventId sha256 index "delete-completed"
  match tables.events.get? eventId with
  | some existing => return ((existing, true), tables)
  | none =>
    validateDeleteIndexCompletion (tables.operations.get? index.indexOperationId) index
    let row := tables.items.get? index.memoryId
    let item ← validateDeleteIndexItem (row.map memoryFromRow) index
    let tombstone := deleteIndexEvent sha256 index item (tables.deleteRequest index.memoryId)
      eventId "memory_deleted_tombstone" (deleteProviderStatus index providerStatus) now none
    return ((tombstone, false), tables.remove index.memoryId tombstone)

def scrubbedRow (row : MemoryItemModel) : MemoryItemModel :=
  let item := scrubbedItem (memoryFromRow row)
  { row with
    content := item.content
    structuredValue := item.structuredValue
    metadata := item.metadata
    candidateHash := item.candidateHash
    canonicalRefs := item.canonicalRefs
    formationJobId := item.formationJobId }

def scrubbedRevision (memoryId : String) (row : MemoryRevisionModel) : MemoryRevisionModel :=
  { row with
    content := if row.memoryId = memoryId then "" else row.content
    structuredValue := if row.memoryId = memoryId then [] else row.structuredValue
    evidenceRefs := if row.memoryId = memoryId then [] else row.evidenceRefs }

/-- An item whose deletion failed, with its revisions; given up, both are scrubbed. -/
def writeFailure (tables : MemoryTables) (row : MemoryItemModel) (event : MemoryEvent)
    (deadLetter : Bool) : MemoryTables :=
  let failed :=
    { row with
      indexStatus := some (if deadLetter then .deadLetter else .deletionPending)
      updatedAt := event.createdAt }
  { tables with
    items := tables.items.put (if deadLetter then scrubbedRow failed else failed)
    revisions :=
      if deadLetter then tables.revisions.mapValues (scrubbedRevision row.memoryId) fun _ => rfl
      else tables.revisions
    events := tables.events.put event }

/-- mirrors app/repositories/memory_lifecycle_store.py:828-879 -/
def recordDeleteFailure (tables : MemoryTables) (operation : MemoryLifecycleOperation)
    (event : MemoryEvent) (deadLetter : Bool) :
    Except StoreError ((MemoryEvent × Bool) × MemoryTables) := do
  let memoryId ← requiredMemoryId operation
  match tables.items.get? memoryId with
  | none => .error (.valueError "Memory lifecycle target not found")
  | some row =>
    let item ← validateOperationTarget (some (memoryFromRow row)) operation false
    Except.ensure (item.lifecycleStatus = .deletionPending)
      (.valueError "Memory deletion is not pending")
    match tables.events.get? event.eventId with
    | some existing => return ((existing, true), tables)
    | none => return ((event, false), tables.writeFailure row event deadLetter)

/-- mirrors app/repositories/memory_lifecycle_store.py:956-1032 -/
def recordDeleteIndexFailure (sha256 : String → String) (tables : MemoryTables)
    (index : MemoryIndexOperation) (errorCode : String) (deadLetter : Bool) (now : Instant) :
    Except StoreError ((MemoryEvent × Bool) × MemoryTables) := do
  let eventId := failureEventId sha256 index deadLetter
  match (tables.items.get? index.memoryId).filter (·.tenantId = some index.tenantId) with
  | none => .error (.valueError "Memory deletion is not pending")
  | some row =>
    let item ← validateDeleteIndexItem (some (memoryFromRow row)) index
    match tables.events.get? eventId with
    | some existing => return ((existing, true), tables)
    | none =>
      let event := deleteIndexEvent sha256 index item (tables.deleteRequest index.memoryId) eventId
        (if deadLetter then "memory_deletion_dead_letter" else "memory_deletion_retry")
        (if deadLetter then "dead_letter" else "retry") now (some errorCode)
      return ((event, false), tables.writeFailure row event deadLetter)

/-! ## What an accepted call found and wrote -/

section Calls

variable {tables tables' : MemoryTables} {operation : MemoryLifecycleOperation}
  {index : MemoryIndexOperation} {event tombstone : MemoryEvent} {result : MemoryEvent × Bool}
  {sha256 : String → String} {now : Instant} {deadLetter : Bool}

theorem recordDecision_ok (h : tables.recordDecision event = .ok (result, tables')) :
    tables' = tables ∨ tables' = { tables with events := tables.events.put event } := by
  unfold recordDecision at h
  split at h
  · obtain ⟨_, -, h⟩ := bind_eq_ok.1 h
    cases h
    exact .inl rfl
  · cases h
    exact .inr rfl

theorem requestDelete_ok {R : Redaction} {request : DeleteRequest}
    (h : tables.requestDelete R operation event index = .ok (request, tables')) :
    tables' = tables ∨
      ∃ row, tables.items.get? row.memoryId = some row ∧ operation.memoryId = some row.memoryId ∧
        isTarget operation row = true ∧ Fresh tables event index ∧
        tables' = deleteRequested R tables row operation event index := by
  obtain ⟨memoryId, hid, h⟩ := bind_eq_ok.1 h
  split at h
  · next written hwritten =>
    cases h
    obtain ⟨row, hrow, -⟩ := Option.bind_eq_some_iff.1 hwritten
    obtain ⟨hget, -⟩ := Option.filter_eq_some_iff.1 hrow
    obtain rfl : row.memoryId = memoryId := Table.key_of_get? hget
    obtain ⟨htarget, -, hfresh, -, rfl⟩ := (writeDelete_eq_some hget).1 hwritten
    exact .inr ⟨row, hget, (requiredMemoryId_ok hid).1, htarget, hfresh, rfl⟩
  · obtain ⟨replay, -, h⟩ := bind_eq_ok.1 h
    cases replay with
    | none => cases h
    | some replay =>
      cases h
      exact .inl rfl

theorem completeDelete_ok {id : String}
    (h : tables.completeDelete operation tombstone id = .ok (result, tables')) :
    tables' = tables ∨
      tables.events.get? tombstone.eventId = none ∧
        ∃ memoryId, tables' = tables.remove memoryId tombstone := by
  obtain ⟨memoryId, -, h⟩ := bind_eq_ok.1 h
  obtain ⟨_, -, h⟩ := bind_eq_ok.1 h
  dsimp only at h
  split at h
  · next hnew =>
    obtain ⟨_, -, h⟩ := bind_eq_ok.1 h
    cases h
    exact .inr ⟨hnew, memoryId, rfl⟩
  · obtain ⟨_, -, h⟩ := bind_eq_ok.1 h
    cases h
    exact .inl rfl

theorem recordDeleteFailure_ok
    (h : tables.recordDeleteFailure operation event deadLetter = .ok (result, tables')) :
    tables' = tables ∨ ∃ row, tables.items.get? row.memoryId = some row ∧
      operation.memoryId = some row.memoryId ∧ tables.events.get? event.eventId = none ∧
      tables' = tables.writeFailure row event deadLetter := by
  obtain ⟨memoryId, hid, h⟩ := bind_eq_ok.1 h
  split at h
  · cases h
  · next row hget =>
    obtain rfl : row.memoryId = memoryId := Table.key_of_get? hget
    obtain ⟨_, -, h⟩ := bind_eq_ok.1 h
    obtain ⟨_, -, h⟩ := bind_eq_ok.1 h
    split at h
    · cases h
      exact .inl rfl
    · next hnew =>
      cases h
      exact .inr ⟨row, hget, (requiredMemoryId_ok hid).1, hnew, rfl⟩

theorem completeDeleteFromIndex_ok {providerStatus : Option String}
    (h : tables.completeDeleteFromIndex sha256 index now providerStatus = .ok (result, tables')) :
    tables' = tables ∨
      ∃ row, tables.items.get? index.memoryId = some row ∧
        (memoryFromRow row).lifecycleStatus = .deletionPending ∧
        ∃ tombstone : MemoryEvent, tables.events.get? tombstone.eventId = none ∧
          tables' = tables.remove index.memoryId tombstone := by
  unfold completeDeleteFromIndex at h
  dsimp only at h
  split at h
  · cases h
    exact .inl rfl
  · next hnew =>
    obtain ⟨_, -, h⟩ := bind_eq_ok.1 h
    obtain ⟨pending, hpending, h⟩ := bind_eq_ok.1 h
    cases h
    obtain ⟨hrow, -, -, hstatus, -⟩ := validateDeleteIndexItem_ok hpending
    obtain ⟨row, hget, rfl⟩ := Option.map_eq_some_iff.1 hrow
    exact .inr ⟨row, hget, hstatus, _, hnew, rfl⟩

theorem recordDeleteIndexFailure_ok {errorCode : String}
    (h : tables.recordDeleteIndexFailure sha256 index errorCode deadLetter now =
      .ok (result, tables')) :
    ∃ row, tables.items.get? row.memoryId = some row ∧ row.memoryId = index.memoryId ∧
      (memoryFromRow row).lifecycleStatus = .deletionPending ∧
      (tables' = tables ∧
          (tables.events.get? (failureEventId sha256 index deadLetter)).isSome = true ∨
        ∃ event : MemoryEvent, event.eventId = failureEventId sha256 index deadLetter ∧
          tables.events.get? event.eventId = none ∧
          tables' = tables.writeFailure row event deadLetter) := by
  unfold recordDeleteIndexFailure at h
  dsimp only at h
  split at h
  · cases h
  · next row hrow =>
    obtain ⟨hget, -⟩ := Option.filter_eq_some_iff.1 hrow
    obtain ⟨pending, hpending, h⟩ := bind_eq_ok.1 h
    obtain ⟨hsome, -, -, hstatus, -⟩ := validateDeleteIndexItem_ok hpending
    cases hsome
    have hid : row.memoryId = index.memoryId := Table.key_of_get? hget
    refine ⟨row, hid ▸ hget, hid, hstatus, ?_⟩
    split at h
    · next hfound =>
      cases h
      exact .inl ⟨rfl, by rw [hfound]; rfl⟩
    · next hnew =>
      cases h
      exact .inr ⟨_, rfl, hnew, rfl⟩

end Calls

end MemoryTables

end OpenIntentRouter.Repositories.MemoryDatabase
