import OpenIntentRouter.Core.Stateful
import OpenIntentRouter.Repositories.MemoryLifecycleStore

/-!
# The provider of memories

`Mem0MemoryAdapter` brings an item to the mem0 client that it is given. Of the
metadata of a record only what is read back is kept, and the history events
that the adapter writes on the side are left out. `IndexFakeMem0` is the client
of the tests: it never fails, but for an update or a deletion of what is not
there.
-/
namespace OpenIntentRouter.Services

open Core Schemas Repositories.MemoryIndex

/-- mirrors app/services/memory_adapter.py:29-34 -/
inductive MemoryProviderOperationStatus where
  | success | notFound | superseded | retryableError | degraded
  deriving DecidableEq

def MemoryProviderOperationStatus.value : MemoryProviderOperationStatus → String
  | .success => "success"
  | .notFound => "not_found"
  | .superseded => "superseded"
  | .retryableError => "retryable_error"
  | .degraded => "degraded"

/-- mirrors app/services/memory_adapter.py:37-44 -/
structure MemoryProviderRecord where
  externalMemoryId : String
  memoryId : Option String
  revisionId : Option String
  tenantId : Option String
  content : String
  deriving DecidableEq

/-- mirrors app/services/memory_adapter.py:47-51 -/
structure MemoryProviderScanResult where
  status : MemoryProviderOperationStatus
  records : List MemoryProviderRecord
  errorCode : Option String
  deriving DecidableEq

/-- mirrors app/services/memory_adapter.py:54-62 -/
structure MemoryIndexOperationResult where
  operation : MemoryIndexOperationType
  status : MemoryProviderOperationStatus
  memoryId : String
  externalMemoryId : Option String
  adopted : Bool
  duplicateExternalIds : List String
  errorCode : Option String
  deriving DecidableEq

def MemoryIndexOperationResult.completed (result : MemoryIndexOperationResult) : Bool :=
  result.status = .success || result.status = .notFound || result.status = .superseded

/-! ## The client -/

structure ProviderMetadata where
  memoryId : Option String
  revisionId : Option String
  tenantId : Option String
  userId : Option String
  deriving DecidableEq

/-- One result of `get_all`; `id` is empty if it has none. -/
structure Mem0Result where
  id : String
  memory : String
  metadata : ProviderMetadata
  deriving DecidableEq

structure Mem0Filters where
  tenantId : String
  userId : Option String
  memoryId : Option String
  deriving DecidableEq

/-- An exception of the client: `_safe_error_code` and `_is_not_found_error` of it. -/
structure ProviderError where
  code : String
  notFound : Bool
  deriving DecidableEq

/-- A mem0 client with the state `P`; `add` returns the id in its answer. -/
structure Mem0Client (P : Type) where
  getAll : Mem0Filters → Nat → Stateful ProviderError P (List Mem0Result)
  add : String → String → ProviderMetadata → Stateful ProviderError P (Option String)
  update : String → String → ProviderMetadata → Stateful ProviderError P Unit
  delete : String → Stateful ProviderError P Unit

/-- The adapter; `str` is `str(value)` of a value that is not a string. -/
structure Mem0MemoryAdapter (P : Type) where
  client : Mem0Client P
  str : Json → String

/-! ## What is read of records and items -/

/-- mirrors app/services/memory_adapter.py:1128-1129 -/
def optionalString (value : Option String) : Option String := value.filter (· ≠ "")

/-- mirrors app/services/memory_adapter.py:954-975 -/
def providerRecordsFromRaw (raw : List Mem0Result) : List MemoryProviderRecord :=
  (raw.filter (·.id ≠ "")).map fun result =>
    { externalMemoryId := result.id
      memoryId := optionalString result.metadata.memoryId
      revisionId := optionalString result.metadata.revisionId
      tenantId := optionalString result.metadata.tenantId
      content := result.memory }

/-- mirrors app/services/memory_adapter.py:902-928 -/
def mem0MetadataForItem (item : MemoryItem) : ProviderMetadata :=
  ⟨some item.memoryId, item.currentRevisionId, item.tenantId, item.userId⟩

/-- mirrors app/services/memory_adapter.py:1049-1056 -/
def matchingProviderRecords (records : List MemoryProviderRecord) (item : MemoryItem) :
    List MemoryProviderRecord :=
  records.filter fun record =>
    record.memoryId = some item.memoryId && record.tenantId = item.tenantId

/-- `item.user_id or item.subject_id` -/
def providerUserId (item : MemoryItem) : String :=
  if truthy item.userId then item.userId.getD "" else item.subjectId

/-- mirrors app/services/memory_adapter.py:1095-1104 -/
def providerErrorResult (operation : MemoryIndexOperation) (errorCode : String) :
    MemoryIndexOperationResult where
  operation := operation.operation
  status := .retryableError
  memoryId := operation.memoryId
  externalMemoryId := operation.externalMemoryId
  adopted := false
  duplicateExternalIds := []
  errorCode := some (String.ofList (errorCode.toList.take 128))

/-- The first of the records in the order of a key of two tests and the id. -/
def leastRecord (first second : MemoryProviderRecord → Bool) (records : List MemoryProviderRecord) :
    Option MemoryProviderRecord :=
  records.argmin fun record =>
    toLex (first record, toLex (second record, record.externalMemoryId))

namespace Mem0MemoryAdapter

variable {P : Type} (adapter : Mem0MemoryAdapter P)

/-- mirrors app/services/memory_adapter.py:1043-1046 -/
def mappedExternalId (item : MemoryItem) : Option String :=
  match Json.field item.metadata "mem0_memory_id" with
  | none | some .null => none
  | some (.str external) => optionalString (some external)
  | some value => optionalString (some (adapter.str value))

/-- mirrors app/services/memory_adapter.py:1059-1070 -/
def preferredProviderRecord (records : List MemoryProviderRecord) (item : MemoryItem) :
    Option MemoryProviderRecord :=
  leastRecord (fun record => some record.externalMemoryId ≠ adapter.mappedExternalId item)
    (fun record => record.revisionId ≠ item.currentRevisionId) records

/-! ## The calls -/

/-- A client without a vector store of its own is asked by `get_all`.
mirrors app/services/memory_adapter.py:809-838 (`_call_mem0_get_all`) -/
def callMem0GetAll (filters : Mem0Filters) (limit offset : Nat) :
    Stateful ProviderError P (List Mem0Result) := do
  let raw ← adapter.client.getAll filters (limit + offset)
  return if offset = 0 then raw else (raw.drop offset).take limit

/-- mirrors app/services/memory_adapter.py:408-435 -/
def scanProviderRecords (tenantId : String) (userId memoryId : Option String) (limit offset : Nat) :
    Stateful ProviderError P MemoryProviderScanResult :=
  let filters : Mem0Filters := ⟨tenantId, optionalString userId, optionalString memoryId⟩
  tryCatch
    (do
      let raw ← adapter.callMem0GetAll filters limit offset
      return ⟨.success, providerRecordsFromRaw raw, none⟩)
    fun error => return ⟨.retryableError, [], some error.code⟩

/-- mirrors app/services/memory_adapter.py:437-463 -/
def deleteProviderRecord (memoryId externalMemoryId : String) :
    Stateful ProviderError P MemoryIndexOperationResult :=
  let result : MemoryIndexOperationResult :=
    { operation := .delete, status := .success, memoryId, externalMemoryId := some externalMemoryId
      adopted := false, duplicateExternalIds := [], errorCode := none }
  tryCatch
    (do
      adapter.client.delete externalMemoryId
      return result)
    fun error =>
      if error.notFound then return { result with status := .notFound }
      else return { result with status := .retryableError, errorCode := some error.code }

/-- The loop that deletes records until one fails, with the code of the failure; else whether one
of them was still there. -/
def deleteRecords (memoryId failure : String) :
    List String → Stateful ProviderError P (Except String Bool)
  | [] => return .ok false
  | external :: rest => do
    let deleted ← adapter.deleteProviderRecord memoryId external
    if !deleted.completed then return .error (deleted.errorCode.getD failure)
    match ← deleteRecords memoryId failure rest with
    | .ok sawSuccess => return .ok (deleted.status = .success || sawSuccess)
    | .error code => return .error code

def scanLimit : Nat := 1000

/-- mirrors app/services/memory_adapter.py:465-520 -/
def executeAdd (operation : MemoryIndexOperation) (item : MemoryItem) :
    Stateful ProviderError P MemoryIndexOperationResult := do
  let scan ← adapter.scanProviderRecords operation.tenantId (some (providerUserId item))
    (some operation.memoryId) scanLimit 0
  if scan.status ≠ .success then
    return providerErrorResult operation (scan.errorCode.getD "provider_scan_failed")
  let records := matchingProviderRecords scan.records item
  match adapter.preferredProviderRecord records item with
  | some keeper =>
    let duplicates :=
      (records.filter (·.externalMemoryId ≠ keeper.externalMemoryId)).map (·.externalMemoryId)
    match ← adapter.deleteRecords item.memoryId "duplicate_delete_failed" duplicates with
    | .error code => return providerErrorResult operation code
    | .ok _ =>
      if keeper.revisionId ≠ item.currentRevisionId || keeper.content ≠ item.content then
        adapter.client.update keeper.externalMemoryId item.content (mem0MetadataForItem item)
      return {
        operation := operation.operation
        status := .success
        memoryId := operation.memoryId
        externalMemoryId := some keeper.externalMemoryId
        adopted := true
        duplicateExternalIds := duplicates
        errorCode := none }
  | none =>
    let added ← adapter.client.add item.content (providerUserId item) (mem0MetadataForItem item)
    match optionalString added with
    | none => return providerErrorResult operation "provider_id_missing"
    | some external =>
      return {
        operation := operation.operation
        status := .success
        memoryId := operation.memoryId
        externalMemoryId := some external
        adopted := false
        duplicateExternalIds := []
        errorCode := none }

/-- The record that an update without a provider id adopts, or the code of a failure. -/
def adoptRecord (operation : MemoryIndexOperation) (item : MemoryItem) :
    Stateful ProviderError P (Except String String) := do
  let scan ← adapter.scanProviderRecords operation.tenantId (some (providerUserId item))
    (some operation.memoryId) scanLimit 0
  if scan.status ≠ .success then return .error (scan.errorCode.getD "provider_scan_failed")
  let records := matchingProviderRecords scan.records item
  match adapter.preferredProviderRecord records item with
  | none => return .error "external_mapping_missing"
  | some keeper =>
    let duplicates :=
      (records.filter (·.externalMemoryId ≠ keeper.externalMemoryId)).map (·.externalMemoryId)
    match ← adapter.deleteRecords item.memoryId "duplicate_delete_failed" duplicates with
    | .error code => return .error code
    | .ok _ => return .ok keeper.externalMemoryId

/-- mirrors app/services/memory_adapter.py:522-564 -/
def executeUpdate (operation : MemoryIndexOperation) (item : MemoryItem) :
    Stateful ProviderError P MemoryIndexOperationResult := do
  let known := (optionalString operation.externalMemoryId).or (adapter.mappedExternalId item)
  let target ← match known with
    | some external => pure (.ok external)
    | none => adapter.adoptRecord operation item
  match target with
  | .error code => return providerErrorResult operation code
  | .ok external =>
    adapter.client.update external item.content (mem0MetadataForItem item)
    return {
      operation := operation.operation
      status := .success
      memoryId := operation.memoryId
      externalMemoryId := some external
      adopted := known.isNone
      duplicateExternalIds := []
      errorCode := none }

/-- mirrors app/services/memory_adapter.py:566-608 -/
def executeDelete (operation : MemoryIndexOperation) (item : Option MemoryItem) :
    Stateful ProviderError P MemoryIndexOperationResult := do
  let mapped := (optionalString operation.externalMemoryId).or
    (item.bind adapter.mappedExternalId)
  let scan ← adapter.scanProviderRecords operation.tenantId (item.map providerUserId)
    (some operation.memoryId) scanLimit 0
  if scan.status ≠ .success then
    return providerErrorResult operation (scan.errorCode.getD "provider_scan_failed")
  let externalIds := (mapped.toList ++ scan.records.map (·.externalMemoryId)).eraseDups
  let result : MemoryIndexOperationResult :=
    { operation := operation.operation
      status := .notFound
      memoryId := operation.memoryId
      externalMemoryId := externalIds.head?
      adopted := false
      duplicateExternalIds := externalIds.tail
      errorCode := none }
  if externalIds.isEmpty then return result
  match ← adapter.deleteRecords operation.memoryId "provider_delete_failed" externalIds with
  | .error code => return providerErrorResult operation code
  | .ok sawSuccess => return if sawSuccess then { result with status := .success } else result

/-- mirrors app/services/memory_adapter.py:390-406 -/
def executeIndexOperation (operation : MemoryIndexOperation) (item : Option MemoryItem) :
    Stateful ProviderError P MemoryIndexOperationResult :=
  tryCatch
    (match operation.operation, item with
    | .delete, item => adapter.executeDelete operation item
    | _, none => return providerErrorResult operation "canonical_memory_not_found"
    | .add, some item => adapter.executeAdd operation item
    | .update, some item => adapter.executeUpdate operation item)
    fun error => return providerErrorResult operation error.code

end Mem0MemoryAdapter

/-! ## The client of the tests -/

structure Mem0Record where
  memory : String
  metadata : ProviderMetadata
  deriving DecidableEq

/-- mirrors tests/test_memory_indexing.py:1179-1256 -/
structure IndexFakeMem0 where
  records : Dict String Mem0Record
  nextId : Nat

namespace IndexFakeMem0

def empty : IndexFakeMem0 := ⟨.empty, 1⟩

def notFound : ProviderError := ⟨"provider_runtimeerror", true⟩

/-- `all(record["metadata"].get(key) == value for key, value in filters.items())` -/
def selects (filters : Mem0Filters) (metadata : ProviderMetadata) : Bool :=
  metadata.tenantId = some filters.tenantId && filters.userId.all (metadata.userId = some ·) &&
    filters.memoryId.all (metadata.memoryId = some ·)

/-- A record as `get_all` lists it. -/
def result (entry : String × Mem0Record) : Mem0Result :=
  ⟨entry.1, entry.2.memory, entry.2.metadata⟩

def getAll (provider : IndexFakeMem0) (filters : Mem0Filters) (topK : Nat) : List Mem0Result :=
  ((provider.records.entries.filter fun entry => selects filters entry.2.metadata).map result).take
    topK

/-- mirrors tests/test_memory_indexing.py:1179-1256 (`IndexFakeMem0`); `newId` names the records -/
def client (newId : Nat → String) : Mem0Client IndexFakeMem0 where
  getAll filters topK := .lift id fun provider => (.ok (provider.getAll filters topK), provider)
  add payload _ metadata := .lift id fun provider =>
    let external := newId provider.nextId
    (.ok (some external),
      { records := provider.records.set external ⟨payload, metadata⟩
        nextId := provider.nextId + 1 })
  update memoryId data metadata := .lift id fun provider =>
    if provider.records.contains memoryId then
      (.ok (), { provider with records := provider.records.set memoryId ⟨data, metadata⟩ })
    else (.error notFound, provider)
  delete memoryId := .lift id fun provider =>
    if provider.records.contains memoryId then
      (.ok (), { provider with records := provider.records.erase memoryId })
    else (.error notFound, provider)

end IndexFakeMem0
end OpenIntentRouter.Services
