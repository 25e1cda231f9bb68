import OpenIntentRouter.Services.MemoryIndexing

/-!
# The repair of the index

`MemoryIndexRepairService.run_tenant` ends the deletions that the provider has
done, lists the canonical items and the records of the provider, brings every
item to one record and deletes the others.
-/
namespace OpenIntentRouter.Services

open Core Schemas Repositories.MemoryIndex

/-- mirrors app/services/memory_indexing.py:32-45 -/
structure MemoryIndexRepairResult where
  tenantId : String
  status : String
  canonicalCount : Nat
  addedCount : Nat
  updatedCount : Nat
  adoptedCount : Nat
  duplicateDeletedCount : Nat
  orphanDeletedCount : Nat
  deleteFinalizedCount : Nat
  compensationRetryCount : Nat
  failedCount : Nat
  errorCode : Option String
  deriving DecidableEq

structure RepairRun where
  added : Nat
  updated : Nat
  adopted : Nat
  duplicateDeleted : Nat
  orphanDeleted : Nat
  compensationRetries : Nat
  failures : Nat
  retainedExternalIds : List String
  deriving DecidableEq

def RepairRun.start : RepairRun := ⟨0, 0, 0, 0, 0, 0, 0, []⟩

/-! ## The operations of a repair -/

/-- `f"{value}"` of a value of type `str | None`. -/
def formatted (value : Option String) : String := value.getD "None"

/-- mirrors app/services/memory_indexing.py:624-642 -/
def repairOperation (sha256 : String → String) (item : MemoryItem)
    (operationType : MemoryIndexOperationType) (external : Option String) (now : Instant) :
    MemoryIndexOperation :=
  let digest := sha256 ("repair:" ++ formatted item.tenantId ++ ":" ++ item.memoryId ++ ":" ++
    formatted item.currentRevisionId ++ ":" ++ operationType.value)
  { indexOperationId := "midxop_" ++ String.ofList (digest.toList.take 32)
    idempotencyKey := "repair:" ++ digest
    operation := operationType
    memoryId := item.memoryId
    revisionId := item.currentRevisionId
    tenantId := item.tenantId.getD ""
    externalMemoryId := external
    status := .pending
    attemptCount := 0
    maxAttempts := 5
    leaseOwner := none
    leaseToken := none
    leaseExpiresAt := none
    nextAttemptAt := none
    lastErrorCode := none
    lastErrorMetadata := []
    createdAt := now
    updatedAt := now }

/-- mirrors app/services/memory_indexing.py:645-665 -/
def repairCompensationOperation (sha256 : String → String) (item : MemoryItem)
    (tenantId external : String) (now : Instant) : MemoryIndexOperation :=
  let digest := sha256 ("repair-compensation:" ++ tenantId ++ ":" ++ item.memoryId ++ ":" ++
    formatted item.currentRevisionId ++ ":" ++ external)
  { indexOperationId := "midxop_" ++ String.ofList (digest.toList.take 32)
    idempotencyKey := "repair-compensation:" ++ digest
    operation := .delete
    memoryId := item.memoryId
    revisionId := item.currentRevisionId
    tenantId
    externalMemoryId := some external
    status := .pending
    attemptCount := 0
    maxAttempts := 5
    leaseOwner := none
    leaseToken := none
    leaseExpiresAt := none
    nextAttemptAt := none
    lastErrorCode := none
    lastErrorMetadata := [("repair_compensation", .bool true)]
    createdAt := now
    updatedAt := now }

/-- mirrors app/services/memory_indexing.py:668-681 -/
def repairKeeper (records : List MemoryProviderRecord) (item : MemoryItem) :
    Option MemoryProviderRecord :=
  let mapped := Json.field item.metadata "mem0_memory_id"
  leastRecord (fun record => mapped ≠ some (.str record.externalMemoryId))
    (fun record => record.revisionId ≠ item.currentRevisionId) records

/-- The service. `isoformat` writes a time, `pages` bounds the loops over pages. -/
structure MemoryIndexRepairService (σ P : Type) where
  stores : IndexStores σ
  adapter : MemoryStrategyAdapter P
  sha256 : String → String
  isoformat : Instant → String
  pages : Nat

namespace MemoryIndexRepairService

variable {σ P : Type} (service : MemoryIndexRepairService σ P) (tenantId : String)

/-! ## Deletions that the provider has done -/

def finalizeOperations : List MemoryIndexOperation → IndexProgram σ P Nat
  | [] => return 0
  | operation :: rest => do
    if operation.operation ≠ .delete || isRepairCompensation operation then
      finalizeOperations rest
    else
      let now ← clock
      match ← storeAttempt .step (service.stores.completeDeleteFromIndex operation now none) with
      | .ok (_, replay) =>
        let count ← finalizeOperations rest
        return if replay then count else count + 1
      | .error (.store (.valueError _)) => finalizeOperations rest
      | .error error => throw error

/-- mirrors app/services/memory_indexing.py:602-621 -/
def finalizeCompletedDeletes (limit : Nat) : IndexProgram σ P Nat := do
  let operations ← storeLook (service.stores.listRepairCandidates tenantId [.completed] limit)
  service.finalizeOperations operations

/-! ## The lists -/

def pageSizeError : IndexError := .store (.valueError "Repair page size must be positive")

def canonicalPages (pageSize : Nat) :
    Nat → Option String → List MemoryItem → IndexProgram σ P (List MemoryItem)
  | 0, _, _ => throw .unfinished
  | pages + 1, cursor, values => do
    let now ← clock
    let page ← storeLook (service.stores.listIndexable tenantId now pageSize cursor)
    if page.head?.any fun first => cursor.any (first.memoryId ≤ ·) then
      throw (.runtimeError "Canonical repair pagination did not advance")
    else if page.length < pageSize then return values ++ page
    else canonicalPages pageSize pages (page.getLast?.map (·.memoryId)) (values ++ page)

/-- mirrors app/services/memory_indexing.py:563-580 -/
def allCanonical (pageSize : Nat) : IndexProgram σ P (List MemoryItem) := do
  if pageSize < 1 then throw pageSizeError
  else service.canonicalPages tenantId pageSize service.pages none []

def providerPages (pageSize : Nat) : Nat → Nat → List MemoryProviderRecord →
    IndexProgram σ P (Except String (List MemoryProviderRecord))
  | 0, _, _ => throw .unfinished
  | pages + 1, offset, values => do
    let scan ← providerCall .step (service.adapter.scanProviderRecords tenantId pageSize offset)
    if scan.status ≠ .success then
      return .error ((optionalString scan.errorCode).getD "provider_scan_failed")
    else
      let values := values ++ scan.records.filter (·.tenantId = some tenantId)
      if scan.records.length < pageSize then return .ok values
      else providerPages pageSize pages (offset + scan.records.length) values

/-- mirrors app/services/memory_indexing.py:582-600 -/
def allProviderRecords (pageSize : Nat) :
    IndexProgram σ P (Except String (List MemoryProviderRecord)) := do
  if pageSize < 1 then throw pageSizeError
  else service.providerPages tenantId pageSize service.pages 0 []

/-! ## Records that go -/

/-- One call of `delete_provider_record`. -/
def deleteRecord (memoryId external : String) : IndexProgram σ P MemoryIndexOperationResult :=
  providerCall (.deleteRecord memoryId external)
    (service.adapter.deleteProviderRecord memoryId external)

def deleteAll : List MemoryProviderRecord → RepairRun → IndexProgram σ P RepairRun
  | [], run => return run
  | record :: rest, run => do
    let deleted ← service.deleteRecord (record.memoryId.getD "orphan") record.externalMemoryId
    deleteAll rest
      (if deleted.completed then { run with orphanDeleted := run.orphanDeleted + 1 }
      else { run with failures := run.failures + 1 })

def deleteDuplicates (memoryId : String) :
    List MemoryProviderRecord → RepairRun → IndexProgram σ P RepairRun
  | [], run => return run
  | duplicate :: rest, run => do
    let deleted ← service.deleteRecord memoryId duplicate.externalMemoryId
    deleteDuplicates memoryId rest
      (if deleted.completed then { run with duplicateDeleted := run.duplicateDeleted + 1 }
      else { run with failures := run.failures + 1 })

def recordIndexable (record : MemoryProviderRecord) : IndexProgram σ P Bool :=
  match record.memoryId with
  | none => return false
  | some memoryId => do
    let latest ← storeLook (service.stores.getById memoryId tenantId)
    let now ← clock
    return latest.any (itemIndexable · now)

def deleteOrphans : List MemoryProviderRecord → RepairRun → IndexProgram σ P RepairRun
  | [], run => return run
  | record :: rest, run => do
    if run.retainedExternalIds.contains record.externalMemoryId then deleteOrphans rest run
    else
      let indexable ← service.recordIndexable tenantId record
      if indexable then deleteOrphans rest run
      else
        let deleted ← service.deleteRecord (record.memoryId.getD "orphan") record.externalMemoryId
        deleteOrphans rest
          (if deleted.completed then { run with orphanDeleted := run.orphanDeleted + 1 }
          else { run with failures := run.failures + 1 })

/-! ## Items -/

/-- mirrors app/services/memory_indexing.py:535-561 -/
def compensateLostCas (snapshot : MemoryItem) (external : String) : IndexProgram σ P Bool := do
  let now ← clock
  let _ ← storePerform .step (service.stores.addOperation
    (repairCompensationOperation service.sha256 snapshot tenantId external now))
  let deleted ← service.deleteRecord snapshot.memoryId external
  let latest ← storeLook (service.stores.getById snapshot.memoryId tenantId)
  let now ← clock
  match latest.filter (itemIndexable · now) with
  | some latest =>
    let _ ← storeCall .step (service.stores.setIndexState latest.memoryId tenantId
      latest.currentRevisionId .outOfSync none now)
    return deleted.completed
  | none => return deleted.completed

def writeItem (item : MemoryItem) (keeper : Option MemoryProviderRecord) (run : RepairRun) :
    IndexProgram σ P RepairRun := do
  let now ← clock
  let operationType : MemoryIndexOperationType := if keeper.isSome then .update else .add
  let operation :=
    repairOperation service.sha256 item operationType (keeper.map (·.externalMemoryId)) now
  let result ← providerCall (.provider operation (some item))
    (service.adapter.executeIndexOperation operation (some item))
  let now ← clock
  match result.externalMemoryId.filter fun _ => result.completed with
  | none =>
    let _ ← storeCall .step (service.stores.setIndexState item.memoryId tenantId
      item.currentRevisionId .outOfSync none now)
    return { run with failures := run.failures + 1 }
  | some external =>
    let stored ← storeCall .step (service.stores.setIndexState item.memoryId tenantId
      item.currentRevisionId .ready (some external) now)
    match stored with
    | none =>
      let compensated ← service.compensateLostCas tenantId item external
      return { run with
        failures := run.failures + 1
        compensationRetries := run.compensationRetries + if compensated then 0 else 1 }
    | some _ =>
      let retained := { run with retainedExternalIds := external :: run.retainedExternalIds }
      if keeper.isNone then return { retained with added := run.added + 1 }
      else
        let mapped := Json.field item.metadata "mem0_memory_id"
        return { retained with
          updated := run.updated + 1
          adopted := run.adopted + if mapped = some (.str external) then 0 else 1 }

def repairItem (records : List MemoryProviderRecord) (snapshot : MemoryItem) (run : RepairRun) :
    IndexProgram σ P RepairRun := do
  let item ← storeLook (service.stores.getById snapshot.memoryId tenantId)
  let now ← clock
  match item.filter (sameIndexableRevision · snapshot now) with
  | none => return { run with failures := run.failures + 1 }
  | some item =>
    let found := records.filter (·.memoryId = some item.memoryId)
    match repairKeeper found item with
    | none => service.writeItem tenantId item none run
    | some keeper =>
      let run ← service.deleteDuplicates item.memoryId
        (found.filter (·.externalMemoryId ≠ keeper.externalMemoryId)) run
      service.writeItem tenantId item (some keeper) run

def repairItems (records : List MemoryProviderRecord) :
    List MemoryItem → RepairRun → IndexProgram σ P RepairRun
  | [], run => return run
  | snapshot :: rest, run => do
    let run ← service.repairItem tenantId records snapshot run
    repairItems records rest run

/-! ## A run -/

def repairResult (status : String) (canonicalCount finalized : Nat) (run : RepairRun)
    (errorCode : Option String) : MemoryIndexRepairResult where
  tenantId := tenantId
  status := status
  canonicalCount := canonicalCount
  addedCount := run.added
  updatedCount := run.updated
  adoptedCount := run.adopted
  duplicateDeletedCount := run.duplicateDeleted
  orphanDeletedCount := run.orphanDeleted
  deleteFinalizedCount := finalized
  compensationRetryCount := run.compensationRetries
  failedCount := run.failures
  errorCode := errorCode

def repairRecords (records : List MemoryProviderRecord) (canonical : List MemoryItem)
    (finalized : Nat) (run : RepairRun) : IndexProgram σ P MemoryIndexRepairResult := do
  let run ← service.repairItems tenantId records canonical run
  let run ← service.deleteOrphans tenantId records run
  return repairResult tenantId (if run.failures = 0 then "ok" else "error") canonical.length
    finalized run
    (if run.compensationRetries ≠ 0 then some "compensation_delete_retry"
    else if run.failures ≠ 0 then some "repair_operation_failed" else none)

def repairTenant (rebuild : Bool) (limit finalized : Nat) :
    IndexProgram σ P MemoryIndexRepairResult := do
  let canonical ← service.allCanonical tenantId limit
  match ← service.allProviderRecords tenantId limit with
  | .error code =>
    return repairResult tenantId "degraded" canonical.length finalized
      { RepairRun.start with failures := 1 } (some code)
  | .ok records =>
    if rebuild then
      let run ← service.deleteAll records .start
      if run.failures ≠ 0 then
        return repairResult tenantId "error" canonical.length finalized run
          (some "rebuild_delete_failed")
      else
        let canonical ← service.allCanonical tenantId limit
        service.repairRecords tenantId [] canonical finalized run
    else service.repairRecords tenantId records canonical finalized .start

/-- mirrors app/services/memory_indexing.py:395-533 (`_run_tenant`) -/
def runTenantOnce (rebuild : Bool) (limit : Nat) : IndexProgram σ P MemoryIndexRepairResult := do
  let finalized ← service.finalizeCompletedDeletes tenantId limit
  service.repairTenant tenantId rebuild limit finalized

def repairEvent (rebuild : Bool) (result : MemoryIndexRepairResult) (latencyMs : Nat)
    (now : Instant) : MemoryEvent where
  eventId := stableId service.sha256 "mevt" (tenantId ++ ":" ++ service.isoformat now ++ ":" ++
    if rebuild then "True" else "False")
  eventType := "memory_index_repair"
  memoryId := none
  userId := none
  tenantId := some tenantId
  agentId := none
  formationJobId := none
  memoryKey := none
  decisionStatus := none
  scope := none
  payload :=
    [("status", .str result.status), ("rebuild", .bool rebuild), ("latency_ms", .num latencyMs),
      ("canonical_count", .num result.canonicalCount), ("added_count", .num result.addedCount),
      ("updated_count", .num result.updatedCount), ("adopted_count", .num result.adoptedCount),
      ("duplicate_deleted_count", .num result.duplicateDeletedCount),
      ("orphan_deleted_count", .num result.orphanDeletedCount),
      ("delete_finalized_count", .num result.deleteFinalizedCount),
      ("compensation_retry_count", .num result.compensationRetryCount),
      ("failed_count", .num result.failedCount), ("error_code", optionJson result.errorCode)]
  createdAt := now

/-- mirrors app/services/memory_indexing.py:360-393 -/
def runTenant (rebuild : Bool) (limit latencyMs : Nat) :
    IndexProgram σ P MemoryIndexRepairResult := do
  let result ← service.runTenantOnce tenantId rebuild limit
  let occurredAt ← clock
  storePerform .step
    (service.stores.addEvent (service.repairEvent tenantId rebuild result latencyMs occurredAt))
  return result

end MemoryIndexRepairService
end OpenIntentRouter.Services
