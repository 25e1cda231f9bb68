import OpenIntentRouter.Core.Batches
import OpenIntentRouter.Services.MemoryLifecycle

/-!
# The sweep of expired memories

`MemoryTtlSweeper` requests the deletion of the items whose time is over, one
after another; the request of an item is an operation made of its own fields.
The loop has no handler: what the schema of an operation or the store refuses
ends it. `clock` gives the readings of the lifecycle service.
-/
namespace OpenIntentRouter.Services

open Core Schemas Repositories.MemoryIndex Repositories.MemoryDatabase

/-- `value or default` -/
def orDefault (value : Option String) (default : String) : String :=
  (value.filter (· ≠ "")).getD default

namespace MemoryTtlSweeper

variable (service : MemoryLifecycleService)

def identity (item : MemoryItem) : String :=
  String.intercalate "\x1f" [orDefault item.tenantId "", item.memoryId, "ttl_expired"]

def ttlOperation (item : MemoryItem) : MemoryLifecycleOperation where
  operationId := stableId service.sha256 "mfop" (identity item)
  operation := .delete
  decisionStatus := .accepted
  reasonCode := .ttlExpired
  tenantId := orDefault item.tenantId ""
  userId := orDefault item.userId item.subjectId
  subjectType := item.subjectType
  subjectId := item.subjectId
  agentId := none
  source := none
  metadata := []
  memoryKey := orDefault item.memoryKey ("legacy-memory:" ++ item.memoryId)
  candidateHash := orDefault item.candidateHash ("sha256:" ++ service.sha256 (identity item))
  memoryId := some item.memoryId
  revisionId := item.currentRevisionId
  formationJobId := none
  canonicalRefs := item.canonicalRefs
  metadata_keys := rfl

/-- The texts that the schema of an operation requires are not empty.
mirrors app/schemas/memory.py:297-314 (`MemoryLifecycleOperation`) -/
def validateOperation (operation : MemoryLifecycleOperation) :
    Except StoreError MemoryLifecycleOperation := do
  Except.ensure
    (operation.tenantId ≠ "" && operation.userId ≠ "" && operation.subjectType ≠ "" &&
      operation.subjectId ≠ "" && operation.memoryKey ≠ "" && operation.candidateHash ≠ "")
    (.validationError "MemoryLifecycleOperation")
  return operation

/-- The request of one item, which reads the clock for the `k`-th time. -/
def requestItem (clock : Nat → Instant) (k : Nat) (item : MemoryItem) (store : MemoryStore) :
    Except StoreError (DeleteRequest × MemoryStore) := do
  let operation ← validateOperation (ttlOperation service item)
  service.requestDelete operation (clock k) store

/-- mirrors app/services/memory_lifecycle.py:348-371 -/
def runOnce (clock : Nat → Instant) (now : Instant) (limit : Nat) (store : MemoryStore) :
    Except StoreError (List DeleteRequest) × MemoryStore :=
  Batches.run (requestItem service clock) 0 (store.listExpired now limit) store

/-! ## The store of the database -/

/-- `requestItem` with the store of the database. -/
def databaseRequestItem (clock : Nat → Instant) (k : Nat) (item : MemoryItem)
    (tables : MemoryTables) : Except StoreError (DeleteRequest × MemoryTables) := do
  let operation ← validateOperation (ttlOperation service item)
  service.databaseRequestDelete operation (clock k) tables

/-- `run_once` with the store of the database. -/
def databaseRunOnce (clock : Nat → Instant) (now : Instant) (limit : Nat) (tables : MemoryTables) :
    Except StoreError (List DeleteRequest) × MemoryTables :=
  Batches.run (databaseRequestItem service clock) 0 (tables.listExpired now limit) tables

end MemoryTtlSweeper
end OpenIntentRouter.Services
