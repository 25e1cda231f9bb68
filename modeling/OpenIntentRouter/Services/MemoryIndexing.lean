import Mathlib.Algebra.Group.Int.Defs
import OpenIntentRouter.Core.Threads
import OpenIntentRouter.Services.MemoryAdapter
import OpenIntentRouter.Services.MemoryLifecycle

/-!
# The index worker and its repair

`MemoryIndexOperationWorker` and `MemoryIndexRepairService` as `Core.Program`s: a
call of a store, a call of the adapter and a reading of the clock is one atomic
operation each, and others may come between. The stores are those of the memory
or of the database (`IndexStores`), the adapter is any (`MemoryStrategyAdapter`).
A loop over pages is given their number. The execution traces that a run
projects on the side are left out.
-/
namespace OpenIntentRouter.Services

open Core Schemas Repositories Repositories.MemoryIndex

structure IndexStores (σ : Type) where
  claim : String → String → Instant → Int → Option String → σ → Option MemoryIndexOperation × σ
  complete : String → String → Option String → Instant → Option String → Option JsonDict → σ →
    Except StoreError (MemoryIndexOperation × σ)
  fail : String → String → Option String → Instant → String → Instant → σ →
    Except StoreError (MemoryIndexOperation × σ)
  listRepairCandidates : String → List MemoryIndexOperationStatus → Nat → σ →
    List MemoryIndexOperation
  addOperation : MemoryIndexOperation → σ → Except StoreError (MemoryIndexOperation × σ)
  getById : String → String → σ → Option MemoryItem
  listIndexable : String → Instant → Nat → Option String → σ → List MemoryItem
  setIndexState : String → String → Option String → MemoryIndexStatus → Option String → Instant →
    σ → Option MemoryItem × σ
  addEvent : MemoryEvent → σ → Except StoreError (Unit × σ)
  completeDeleteFromIndex : MemoryIndexOperation → Instant → Option String → σ →
    Except StoreError ((MemoryEvent × Bool) × σ)
  recordDeleteIndexFailure : MemoryIndexOperation → String → Bool → Instant → σ →
    Except StoreError ((MemoryEvent × Bool) × σ)

inductive IndexNote where
  | step
  | claim (tenantId : Option String) (now : Instant)
  | provider (operation : MemoryIndexOperation) (item : Option MemoryItem)
  | deleteRecord (memoryId externalMemoryId : String)
  | fail (operation : MemoryIndexOperation) (item : Option MemoryItem)
  | recordFailure (operation : MemoryIndexOperation)
  deriving DecidableEq

structure IndexWorld (σ P : Type) where
  store : σ
  provider : P
  now : Instant
  deriving DecidableEq

/-- What a run raises; `unfinished`: a loop over pages did not come to its end. -/
inductive IndexError where
  | store (error : StoreError)
  | runtimeError (message : String)
  | unfinished
  deriving DecidableEq

abbrev IndexProgram (σ P α : Type) := Program IndexNote (IndexWorld σ P) IndexError α

/-- mirrors app/services/memory_adapter.py:73-110 -/
structure MemoryStrategyAdapter (P : Type) where
  executeIndexOperation : MemoryIndexOperation → Option MemoryItem → P →
    MemoryIndexOperationResult × P
  scanProviderRecords : String → Nat → Nat → P → MemoryProviderScanResult × P
  deleteProviderRecord : String → String → P → MemoryIndexOperationResult × P

def Mem0MemoryAdapter.caught {P α : Type} (fallback : ProviderError → α)
    (call : Stateful ProviderError P α) (provider : P) : α × P :=
  match call.run provider with
  | (.ok a, provider) => (a, provider)
  | (.error error, provider) => (fallback error, provider)

def Mem0MemoryAdapter.strategy {P : Type} (adapter : Mem0MemoryAdapter P) :
    MemoryStrategyAdapter P where
  executeIndexOperation operation item :=
    caught (providerErrorResult operation ·.code) (adapter.executeIndexOperation operation item)
  scanProviderRecords tenantId limit offset :=
    caught (fun error => ⟨.retryableError, [], some error.code⟩)
      (adapter.scanProviderRecords tenantId none none limit offset)
  deleteProviderRecord memoryId external :=
    caught
      (fun error =>
        { operation := .delete, status := .retryableError, memoryId
          externalMemoryId := some external, adopted := false, duplicateExternalIds := []
          errorCode := some error.code })
      (adapter.deleteProviderRecord memoryId external)

/-- The adapter without a provider.
mirrors app/services/memory_adapter.py:145-182 (`RepositoryMemoryAdapter`) -/
def repositoryAdapter : MemoryStrategyAdapter Unit where
  executeIndexOperation operation _ provider :=
    ({ operation := operation.operation
       status := .degraded
       memoryId := operation.memoryId
       externalMemoryId := operation.externalMemoryId
       adopted := false
       duplicateExternalIds := []
       errorCode := some "repository_fallback" }, provider)
  scanProviderRecords _ _ _ provider := (⟨.degraded, [], some "repository_fallback"⟩, provider)
  deleteProviderRecord memoryId external provider :=
    ({ operation := .delete
       status := .degraded
       memoryId
       externalMemoryId := some external
       adopted := false
       duplicateExternalIds := []
       errorCode := some "repository_fallback" }, provider)

/-! ## The stores -/

def memoryIndexStores (sha256 : String → String) : IndexStores MemoryStore where
  claim owner token now lease tenantId store :=
    let (operation, operations) := claim owner token now lease tenantId store.operations
    (operation, { store with operations })
  complete id owner token now external metadata store := do
    let (operation, operations) ←
      complete id owner token now external (metadata.getD []) store.operations
    return (operation, { store with operations })
  fail id owner token now errorCode nextAttemptAt store := do
    let (operation, operations) ←
      fail id owner token now errorCode nextAttemptAt store.operations
    return (operation, { store with operations })
  listRepairCandidates tenantId statuses limit store :=
    listRepairCandidates tenantId statuses limit store.operations
  addOperation operation store := store.addOperation operation
  getById memoryId tenantId store := store.getById memoryId tenantId
  listIndexable tenantId now limit after store := store.listIndexable tenantId now limit after
  setIndexState memoryId tenantId expected status external updatedAt store :=
    store.setIndexState memoryId tenantId expected status external updatedAt
  addEvent event store := (fun store => ((), store)) <$> store.addEvent event
  completeDeleteFromIndex index now providerStatus store :=
    store.completeDeleteFromIndex sha256 index now providerStatus
  recordDeleteIndexFailure index errorCode deadLetter now store :=
    store.recordDeleteIndexFailure sha256 index errorCode deadLetter now

def databaseIndexStores (sha256 : String → String) : IndexStores MemoryDatabase.MemoryTables where
  claim owner token now lease tenantId tables := tables.claim owner token now lease tenantId
  complete id owner token now external metadata tables :=
    tables.complete id owner (token.getD "") now external metadata
  fail id owner token now errorCode nextAttemptAt tables :=
    tables.fail id owner (token.getD "") now errorCode nextAttemptAt
  listRepairCandidates tenantId statuses limit tables :=
    tables.listRepairCandidates tenantId statuses limit
  addOperation operation tables := tables.addOperation operation
  getById memoryId tenantId tables := tables.getById memoryId tenantId
  listIndexable tenantId now limit after tables := tables.listIndexable tenantId now limit after
  setIndexState memoryId tenantId expected status external updatedAt tables :=
    tables.setIndexState memoryId tenantId expected status external updatedAt
  addEvent event tables := (fun tables => ((), tables)) <$> tables.addEvent event
  completeDeleteFromIndex index now providerStatus tables :=
    tables.completeDeleteFromIndex sha256 index now providerStatus
  recordDeleteIndexFailure index errorCode deadLetter now tables :=
    tables.recordDeleteIndexFailure sha256 index errorCode deadLetter now

/-! ## Operations of a program -/

section Operations

variable {σ P α : Type}

/-- `self.clock()` -/
def clock : IndexProgram σ P Instant := .look .step (·.now)

def storeLook (f : σ → α) : IndexProgram σ P α := .look .step fun world => f world.store

def storeCall (note : IndexNote) (f : σ → α × σ) : IndexProgram σ P α :=
  .op note fun world =>
    let (a, store) := f world.store
    (a, { world with store })

def raising (f : σ → Except StoreError (α × σ)) (world : IndexWorld σ P) :
    Except IndexError (α × IndexWorld σ P) :=
  match f world.store with
  | .ok (a, store) => .ok (a, { world with store })
  | .error error => .error (.store error)

def storeAttempt (note : IndexNote) (f : σ → Except StoreError (α × σ)) :
    IndexProgram σ P (Except IndexError α) :=
  .attempt note (raising f)

def storePerform (note : IndexNote) (f : σ → Except StoreError (α × σ)) : IndexProgram σ P α :=
  .perform note (raising f)

def providerCall (note : IndexNote) (f : P → α × P) : IndexProgram σ P α :=
  .op note fun world =>
    let (a, provider) := f world.provider
    (a, { world with provider })

theorem run_clock (world : IndexWorld σ P) :
    (clock : IndexProgram σ P Instant).run world = (.ok world.now, world) := rfl

theorem run_storeLook (f : σ → α) (world : IndexWorld σ P) :
    (storeLook f : IndexProgram σ P α).run world = (.ok (f world.store), world) := rfl

theorem run_storeAttempt (note : IndexNote) (f : σ → Except StoreError (α × σ))
    (world : IndexWorld σ P) :
    (storeAttempt note f : IndexProgram σ P (Except IndexError α)).run world =
      match f world.store with
      | .ok (a, store) => (.ok (.ok a), { world with store })
      | .error error => (.ok (.error (.store error)), world) := by
  unfold storeAttempt Program.attempt raising
  rw [Program.run_op]
  cases f world.store <;> rfl

end Operations

/-! ## What the operations do to the store -/

section Does

variable {σ P α : Type} {R : σ → σ → Prop}

theorem raising_ok {f : σ → Except StoreError (α × σ)} {world world' : IndexWorld σ P} {a : α}
    (h : raising f world = .ok (a, world')) :
    ∃ store, f world.store = .ok (a, store) ∧ world' = { world with store } := by
  unfold raising at h
  split at h
  · next hf =>
    cases h
    exact ⟨_, hf, rfl⟩
  · cases h

def OnStore (R : σ → σ → Prop) (world world' : IndexWorld σ P) : Prop := R world.store world'.store

variable (hrefl : ∀ store, R store store)
include hrefl

theorem does_clock : (clock : IndexProgram σ P Instant).Does (OnStore R) :=
  Program.does_op fun world => hrefl world.store

theorem does_storeLook (f : σ → α) : (storeLook f : IndexProgram σ P α).Does (OnStore R) :=
  Program.does_op fun world => hrefl world.store

theorem does_providerCall (note : IndexNote) (f : P → α × P) :
    (providerCall note f : IndexProgram σ P α).Does (OnStore R) :=
  Program.does_op fun world => hrefl world.store

theorem does_storePerform {note : IndexNote} {f : σ → Except StoreError (α × σ)}
    (h : ∀ store a store', f store = .ok (a, store') → R store store') :
    (storePerform note f : IndexProgram σ P α).Does (OnStore R) := by
  refine Program.does_perform (fun world => hrefl world.store) fun world a world' hf => ?_
  obtain ⟨store, hstore, rfl⟩ := raising_ok hf
  exact h _ _ _ hstore

omit hrefl in
theorem does_storeCall {note : IndexNote} {f : σ → α × σ} (h : ∀ store, R store (f store).2) :
    (storeCall note f : IndexProgram σ P α).Does (OnStore R) :=
  Program.does_op fun world => h world.store

end Does

/-! ## What is read of items and operations -/

/-- mirrors app/services/memory_indexing.py:708-714 -/
def expired (item : MemoryItem) (now : Instant) : Bool := item.ttlExpiresAt.any (· ≤ now)

/-- mirrors app/services/memory_indexing.py:704-705 -/
def itemIndexable (item : MemoryItem) (now : Instant) : Bool :=
  item.lifecycleStatus = .active && !expired item now

/-- mirrors app/services/memory_indexing.py:694-701 -/
def sameIndexableRevision (current snapshot : MemoryItem) (now : Instant) : Bool :=
  itemIndexable current now && current.memoryId = snapshot.memoryId &&
    current.currentRevisionId = snapshot.currentRevisionId

/-- mirrors app/services/memory_indexing.py:690-691 -/
def isRepairCompensation (operation : MemoryIndexOperation) : Bool :=
  Json.field operation.lastErrorMetadata "repair_compensation" = some (.bool true)

/-- mirrors app/services/memory_indexing.py:717-751 -/
def indexEvent (sha256 : String → String) (operation : MemoryIndexOperation)
    (item : Option MemoryItem) (providerStatus : String) (now : Instant) (adopted : Bool)
    (duplicateCount : Nat) (errorCode : Option String) : MemoryEvent where
  eventId := stableId sha256 "mevt" (operation.indexOperationId ++ ":" ++ operation.status.value ++
    ":" ++ toString operation.attemptCount)
  eventType := "memory_index_" ++ operation.operation.value
  memoryId := some operation.memoryId
  userId := item.bind (·.userId)
  tenantId := some operation.tenantId
  agentId := item.bind (·.agentId)
  formationJobId := item.bind (·.formationJobId)
  memoryKey := item.bind (·.memoryKey)
  decisionStatus := none
  scope := item.map (·.scope)
  payload :=
    [("operation", .str operation.operation.value), ("provider_status", .str providerStatus),
      ("external_memory_id", optionJson operation.externalMemoryId),
      ("revision_id", optionJson operation.revisionId), ("adopted", .bool adopted),
      ("duplicate_count", .num duplicateCount),
      ("provider_latency_ms",
        (Json.field operation.lastErrorMetadata "provider_latency_ms").getD .null)] ++
    match optionalString errorCode with
    | some code => [("error_code", .str (String.ofList (code.toList.take 128)))]
    | none => []
  createdAt := now

/-! ## The worker -/

/-- mirrors app/services/memory_indexing.py:25-29 -/
structure MemoryIndexWorkerResult where
  operation : MemoryIndexOperation
  providerResult : MemoryIndexOperationResult
  completed : Bool
  deriving DecidableEq

structure MemoryIndexOperationWorker (σ P : Type) where
  stores : IndexStores σ
  adapter : MemoryStrategyAdapter P
  sha256 : String → String
  leaseSeconds : Int
  retryBaseSeconds : Int
  retryMaxSeconds : Int
  claimTenantId : Option String

/-- `timedelta(seconds=n)`. -/
def indexSeconds (n : Int) : Int := n * 1000000

namespace MemoryIndexOperationWorker

variable {σ P : Type} (worker : MemoryIndexOperationWorker σ P) (owner : String)

/-- mirrors app/services/memory_indexing.py:108-137 -/
def completeSuperseded (operation : MemoryIndexOperation) (item : Option MemoryItem) :
    IndexProgram σ P MemoryIndexWorkerResult := do
  let now ← clock
  let completed ← storePerform .step
    (worker.stores.complete operation.indexOperationId owner operation.leaseToken now none none)
  storePerform .step (worker.stores.addEvent (indexEvent worker.sha256 completed item
    MemoryProviderOperationStatus.superseded.value now false 0 (some "canonical_not_indexable")))
  return {
    operation := completed
    providerResult :=
      { operation := operation.operation
        status := .superseded
        memoryId := operation.memoryId
        externalMemoryId := none
        adopted := false
        duplicateExternalIds := []
        errorCode := some "canonical_not_indexable" }
    completed := true }

def retryDelay (attemptCount : Nat) : Int :=
  min (worker.retryBaseSeconds * 2 ^ (attemptCount - 1)) worker.retryMaxSeconds

/-- What `_fail` does once the operation is given back or given up. -/
def recordFailed (operation failed : MemoryIndexOperation) (item : Option MemoryItem)
    (errorCode : String) (now : Instant) : IndexProgram σ P Unit :=
  let deadLetter := decide (failed.status = .deadLetter)
  match item with
  | none => return ()
  | some item =>
    if operation.operation = .delete then do
      let _ ← storePerform (.recordFailure failed)
        (worker.stores.recordDeleteIndexFailure failed errorCode deadLetter now)
      return ()
    else if item.lifecycleStatus = .active then do
      let _ ← storeCall .step (worker.stores.setIndexState operation.memoryId operation.tenantId
        item.currentRevisionId (if deadLetter then .deadLetter else .outOfSync) none now)
      storePerform .step (worker.stores.addEvent (indexEvent worker.sha256 failed (some item)
        (if deadLetter then "dead_letter" else "retry") now false 0 (some errorCode)))
    else return ()

/-- mirrors app/services/memory_indexing.py:283-336 -/
def fail (operation : MemoryIndexOperation) (item : Option MemoryItem)
    (providerResult : MemoryIndexOperationResult) : IndexProgram σ P MemoryIndexWorkerResult := do
  let now ← clock
  let errorCode := (optionalString providerResult.errorCode).getD "provider_operation_failed"
  let failed ← storePerform (.fail operation item)
    (worker.stores.fail operation.indexOperationId owner operation.leaseToken now
      (String.ofList (errorCode.toList.take 128))
      (now + indexSeconds (worker.retryDelay operation.attemptCount)))
  worker.recordFailed operation failed item errorCode now
  return { operation := failed, providerResult, completed := false }

def retryableResult (operation : MemoryIndexOperation) (external : Option String)
    (errorCode : String) : MemoryIndexOperationResult where
  operation := operation.operation
  status := .retryableError
  memoryId := operation.memoryId
  externalMemoryId := external
  adopted := false
  duplicateExternalIds := []
  errorCode := some errorCode

/-- What `_complete` records of a completed operation. -/
def recordCompleted (operation completed : MemoryIndexOperation) (item : Option MemoryItem)
    (providerResult : MemoryIndexOperationResult) (now : Instant) : IndexProgram σ P Unit :=
  if operation.operation = .delete && !isRepairCompensation operation then do
    let _ ← storePerform .step (worker.stores.completeDeleteFromIndex completed now
      (some providerResult.status.value))
    return ()
  else if operation.operation = .delete then
    storePerform .step (worker.stores.addEvent (indexEvent worker.sha256 completed item
      providerResult.status.value now false 0 none))
  else
    storePerform .step (worker.stores.addEvent (indexEvent worker.sha256 completed item
      providerResult.status.value now providerResult.adopted
      providerResult.duplicateExternalIds.length none))

/-- What `_complete` does once the item is marked, or needs no mark. -/
def finish (operation : MemoryIndexOperation) (item : Option MemoryItem)
    (providerResult : MemoryIndexOperationResult) (now : Instant) :
    IndexProgram σ P MemoryIndexWorkerResult := do
  let completed ← storePerform .step
    (worker.stores.complete operation.indexOperationId owner operation.leaseToken now
      providerResult.externalMemoryId
      (some (JsonDict.set operation.lastErrorMetadata "provider_status"
        (.str providerResult.status.value))))
  worker.recordCompleted operation completed item providerResult now
  return { operation := completed, providerResult, completed := true }

/-- mirrors app/services/memory_indexing.py:139-225 -/
def complete (operation : MemoryIndexOperation) (item : Option MemoryItem)
    (providerResult : MemoryIndexOperationResult) : IndexProgram σ P MemoryIndexWorkerResult := do
  let now ← clock
  if operation.operation = .delete then worker.finish owner operation item providerResult now
  else
    match item, providerResult.externalMemoryId with
    | some snapshot, some external =>
      let updated ← storeCall .step
        (worker.stores.setIndexState operation.memoryId operation.tenantId
          snapshot.currentRevisionId .ready (some external) now)
      match updated with
      | none =>
        worker.fail owner operation item
          (retryableResult operation (some external) "canonical_revision_changed")
      | some _ => worker.finish owner operation item providerResult now
    | _, _ =>
      worker.fail owner operation item (retryableResult operation none "provider_mapping_missing")

/-- An operation that brings an item to the provider is for its current revision. -/
def upToDate (operation : MemoryIndexOperation) (item : Option MemoryItem) (now : Instant) : Bool :=
  operation.operation = .delete ||
    item.any fun item => itemIndexable item now && item.currentRevisionId = operation.revisionId

/-- mirrors app/services/memory_indexing.py:74-106 (`run_once`); `leaseToken` is what the claim
draws, `latencyMs` the measured latency -/
def runOnce (leaseToken : String) (latencyMs : Nat) :
    IndexProgram σ P (Option MemoryIndexWorkerResult) := do
  let now ← clock
  let claimed ← storeCall (.claim worker.claimTenantId now)
    (worker.stores.claim owner leaseToken now (indexSeconds worker.leaseSeconds)
      worker.claimTenantId)
  match claimed with
  | none => return none
  | some operation =>
    let item ← storeLook (worker.stores.getById operation.memoryId operation.tenantId)
    if upToDate operation item now then
      let providerResult ← providerCall (.provider operation item)
        (worker.adapter.executeIndexOperation operation item)
      let operation :=
        { operation with
          lastErrorMetadata :=
            JsonDict.set operation.lastErrorMetadata "provider_latency_ms" (.num latencyMs) }
      if providerResult.completed then
        some <$> worker.complete owner operation item providerResult
      else some <$> worker.fail owner operation item providerResult
    else some <$> worker.completeSuperseded owner operation item

end MemoryIndexOperationWorker
end OpenIntentRouter.Services
