import Mathlib.Data.List.MinMax
import Mathlib.Data.List.Sort
import Mathlib.Data.Prod.Lex
import Mathlib.Data.String.Basic
import OpenIntentRouter.Core.Dict
import OpenIntentRouter.Core.Except
import OpenIntentRouter.Schemas.Memory

/-!
# The outbox of index operations

`MemoryIndexOutboxRepository` does each call under one lock. A claim first gives
up the operations whose last lease ran out, then leases the oldest eligible one;
`complete` and `fail` need owner and token of a lease that has not run out.

* `complete_ok`, `fail_ok`: what an accepted call found and wrote;
* `claim_same`, `complete_same`, `fail_same`: no call changes what an operation is about.
-/
namespace OpenIntentRouter.Repositories.MemoryIndex

open Core Schemas

abbrev IndexOperations := Table fun operation : MemoryIndexOperation => operation.indexOperationId

/-! ## The tests -/

/-- The test `tenant_id is None or operation.tenant_id == tenant_id`. -/
def inTenant (tenantId : Option String) (operation : MemoryIndexOperation) : Bool :=
  tenantId.all (operation.tenantId = ·)

def leaseExpired (now : Instant) (operation : MemoryIndexOperation) : Bool :=
  operation.status = .claimed && operation.leaseExpiresAt.any (· ≤ now)

/-- mirrors app/repositories/memory_index_operations.py:137-143 -/
def exhausted (tenantId : Option String) (now : Instant) (operation : MemoryIndexOperation) : Bool :=
  inTenant tenantId operation && leaseExpired now operation &&
  operation.maxAttempts ≤ operation.attemptCount

/-- mirrors app/repositories/memory_index_operations.py:156-169 -/
def eligible (tenantId : Option String) (now : Instant) (operation : MemoryIndexOperation) : Bool :=
  inTenant tenantId operation && operation.attemptCount < operation.maxAttempts &&
  (operation.status = .pending ||
    (operation.status = .retry && operation.nextAttemptAt.all (· ≤ now)) ||
    leaseExpired now operation)

/-! ## What the calls write -/

def deadLetterOperation (now : Instant) (operation : MemoryIndexOperation) : MemoryIndexOperation :=
  { operation with
    status := .deadLetter
    leaseOwner := none
    leaseToken := none
    leaseExpiresAt := none
    lastErrorCode := some "lease_expired_attempts_exhausted"
    updatedAt := now }

def claimedOperation (owner leaseToken : String) (now : Instant) (lease : Int)
    (operation : MemoryIndexOperation) : MemoryIndexOperation :=
  { operation with
    status := .claimed
    attemptCount := operation.attemptCount + 1
    leaseOwner := some owner
    leaseToken := some leaseToken
    leaseExpiresAt := some (now + lease)
    updatedAt := now }

def completedOperation (now : Instant) (externalMemoryId : Option String)
    (resultMetadata : JsonDict) (operation : MemoryIndexOperation) : MemoryIndexOperation :=
  { operation with
    status := .completed
    externalMemoryId :=
      if truthy externalMemoryId then externalMemoryId else operation.externalMemoryId
    lastErrorMetadata := JsonDict.merge operation.lastErrorMetadata resultMetadata
    leaseOwner := none
    leaseToken := none
    leaseExpiresAt := none
    updatedAt := now }

def failedOperation (now nextAttemptAt : Instant) (errorCode : String)
    (operation : MemoryIndexOperation) : MemoryIndexOperation :=
  { operation with
    status := if operation.maxAttempts ≤ operation.attemptCount then .deadLetter else .retry
    leaseOwner := none
    leaseToken := none
    leaseExpiresAt := none
    nextAttemptAt := some nextAttemptAt
    lastErrorCode := some errorCode
    updatedAt := now }

/-- What the first loop of `claim` makes of an operation. -/
def retired (tenantId : Option String) (now : Instant) (operation : MemoryIndexOperation) :
    MemoryIndexOperation :=
  if exhausted tenantId now operation then deadLetterOperation now operation else operation

theorem retired_id (tenantId : Option String) (now : Instant) (operation : MemoryIndexOperation) :
    (retired tenantId now operation).indexOperationId = operation.indexOperationId := by
  unfold retired
  split <;> rfl

/-! ## The calls -/

/-- The table after the first loop of `claim`. -/
def retireExhausted (tenantId : Option String) (now : Instant) (operations : IndexOperations) :
    IndexOperations :=
  operations.mapValues (retired tenantId now) (retired_id tenantId now)

/-- The eligible operation with the least `(created_at, index_operation_id)`. -/
def firstEligible (tenantId : Option String) (now : Instant) (operations : IndexOperations) :
    Option MemoryIndexOperation :=
  (operations.values.filter (eligible tenantId now)).argmin fun operation =>
    toLex (operation.createdAt, operation.indexOperationId)

/-- mirrors app/repositories/memory_index_operations.py:127-188 -/
def claim (owner leaseToken : String) (now : Instant) (lease : Int) (tenantId : Option String)
    (operations : IndexOperations) : Option MemoryIndexOperation × IndexOperations :=
  let operations := retireExhausted tenantId now operations
  match firstEligible tenantId now operations with
  | none => (none, operations)
  | some operation =>
    let claimed := claimedOperation owner leaseToken now lease operation
    (some claimed, operations.put claimed)

/-- mirrors app/repositories/memory_index_operations.py:268-281 -/
def claimed (indexOperationId owner : String) (leaseToken : Option String) (now : Instant)
    (operations : IndexOperations) : Except StoreError MemoryIndexOperation :=
  match operations.get? indexOperationId with
  | none => .error (.valueError "Index operation not found")
  | some operation =>
    if operation.status ≠ .claimed then .error (.valueError "Index operation is not claimed")
    else if operation.leaseOwner ≠ some owner || operation.leaseToken ≠ leaseToken then
      .error (.valueError "Index operation lease ownership changed")
    else if operation.leaseExpiresAt.all (· ≤ now) then
      .error (.valueError "Index operation lease expired")
    else .ok operation

/-- mirrors app/repositories/memory_index_operations.py:190-219 -/
def complete (indexOperationId owner : String) (leaseToken : Option String) (now : Instant)
    (externalMemoryId : Option String) (resultMetadata : JsonDict) (operations : IndexOperations) :
    Except StoreError (MemoryIndexOperation × IndexOperations) := do
  let operation ← claimed indexOperationId owner leaseToken now operations
  let completed := completedOperation now externalMemoryId resultMetadata operation
  return (completed, operations.put completed)

/-- mirrors app/repositories/memory_index_operations.py:221-252 -/
def fail (indexOperationId owner : String) (leaseToken : Option String) (now : Instant)
    (errorCode : String) (nextAttemptAt : Instant) (operations : IndexOperations) :
    Except StoreError (MemoryIndexOperation × IndexOperations) := do
  let operation ← claimed indexOperationId owner leaseToken now operations
  let failed := failedOperation now nextAttemptAt errorCode operation
  return (failed, operations.put failed)

/-- mirrors app/repositories/memory_index_operations.py:254-266 -/
def listRepairCandidates (tenantId : String) (statuses : List MemoryIndexOperationStatus)
    (limit : Nat) (operations : IndexOperations) : List MemoryIndexOperation :=
  ((operations.values.filter fun operation =>
    operation.tenantId = tenantId && statuses.contains operation.status).insertionSort
      fun a b => a.updatedAt ≤ b.updatedAt).take limit

/-! ## What the calls do -/

section Calls

variable {operations operations' : IndexOperations} {operation : MemoryIndexOperation}
  {owner token id errorCode : String} {leaseToken tenantId external : Option String}
  {now nextAttemptAt : Instant} {lease : Int} {metadata : JsonDict}

theorem operation_of_get? (h : operations.get? id = some operation) :
    operation.indexOperationId = id :=
  Table.key_of_get? (t := operations) h

theorem get?_retireExhausted (id : String) :
    (retireExhausted tenantId now operations).get? id =
      (operations.get? id).map (retired tenantId now) :=
  operations.get?_mapValues _ _ id

theorem firstEligible_mem (h : firstEligible tenantId now operations = some operation) :
    operations.get? operation.indexOperationId = some operation ∧
      eligible tenantId now operation = true := by
  have hmem := List.argmin_mem h
  rw [List.mem_filter] at hmem
  exact ⟨(Table.mem_values _ _).1 hmem.1, hmem.2⟩

theorem claimed_ok (h : claimed id owner leaseToken now operations = .ok operation) :
    operations.get? id = some operation ∧ operation.status = .claimed := by
  unfold claimed at h
  split at h
  · cases h
  · next stored hget =>
    split_ifs at h with hstatus
    cases h
    exact ⟨hget, not_not.1 hstatus⟩

theorem complete_ok
    (h : complete id owner leaseToken now external metadata operations =
      .ok (operation, operations')) :
    ∃ stored, operations.get? id = some stored ∧ stored.status = .claimed ∧
      operation = completedOperation now external metadata stored ∧
      operations' = operations.put operation := by
  obtain ⟨stored, hclaimed, hreturn⟩ := Except.bind_eq_ok.1 h
  obtain ⟨hget, hstatus⟩ := claimed_ok hclaimed
  cases hreturn
  exact ⟨stored, hget, hstatus, rfl, rfl⟩

theorem fail_ok (h : fail id owner leaseToken now errorCode nextAttemptAt operations =
      .ok (operation, operations')) :
    ∃ stored, operations.get? id = some stored ∧ stored.status = .claimed ∧
      operation = failedOperation now nextAttemptAt errorCode stored ∧
      operations' = operations.put operation := by
  obtain ⟨stored, hclaimed, hreturn⟩ := Except.bind_eq_ok.1 h
  obtain ⟨hget, hstatus⟩ := claimed_ok hclaimed
  cases hreturn
  exact ⟨stored, hget, hstatus, rfl, rfl⟩

end Calls

/-! ## What stays of an operation -/

structure SameOperation (a b : MemoryIndexOperation) : Prop where
  id : a.indexOperationId = b.indexOperationId
  idempotencyKey : a.idempotencyKey = b.idempotencyKey
  operation : a.operation = b.operation
  memoryId : a.memoryId = b.memoryId
  revisionId : a.revisionId = b.revisionId
  tenantId : a.tenantId = b.tenantId

theorem SameOperation.refl (a : MemoryIndexOperation) : SameOperation a a :=
  ⟨rfl, rfl, rfl, rfl, rfl, rfl⟩

theorem SameOperation.trans {a b c : MemoryIndexOperation} (h : SameOperation a b)
    (h' : SameOperation b c) : SameOperation a c where
  id := h.id.trans h'.id
  idempotencyKey := h.idempotencyKey.trans h'.idempotencyKey
  operation := h.operation.trans h'.operation
  memoryId := h.memoryId.trans h'.memoryId
  revisionId := h.revisionId.trans h'.revisionId
  tenantId := h.tenantId.trans h'.tenantId

def SameOperations (operations operations' : IndexOperations) : Prop :=
  ∀ id, Option.Rel SameOperation (operations'.get? id) (operations.get? id)

section Same

variable {operations operations' : IndexOperations} {operation stored : MemoryIndexOperation}

theorem SameOperations.refl (operations : IndexOperations) :
    SameOperations operations operations := by
  intro id
  cases operations.get? id with
  | none => exact .none
  | some operation => exact .some (.refl operation)

theorem SameOperations.put (h : SameOperations operations operations') {id : String}
    (hget : operations'.get? id = some stored) (hsame : SameOperation operation stored) :
    SameOperations operations (operations'.put operation) := by
  have hid : operation.indexOperationId = id := hsame.id.trans (operation_of_get? hget)
  intro other
  rw [Table.get?_put]
  split
  · next hother =>
    have hrel := h other
    rw [← hother, hid, hget] at hrel
    rw [← hother, hid]
    generalize operations.get? id = before at hrel
    cases hrel with
    | some hstored => exact .some (hsame.trans hstored)
  · exact h other

theorem SameOperations.get? (h : SameOperations operations operations') {id : String}
    (hget : operations.get? id = some stored) :
    ∃ operation, operations'.get? id = some operation ∧ SameOperation operation stored := by
  have hrel := h id
  rw [hget] at hrel
  cases hoperation : operations'.get? id with
  | none => rw [hoperation] at hrel; cases hrel
  | some operation =>
    rw [hoperation] at hrel
    cases hrel with
    | some hsame => exact ⟨operation, rfl, hsame⟩

theorem SameOperations.mem_values (h : SameOperations operations operations')
    (hmem : operation ∈ operations'.values) :
    ∃ stored ∈ operations.values, SameOperation operation stored := by
  have hget := (Table.mem_values _ _).1 hmem
  have hrel := h operation.indexOperationId
  rw [hget] at hrel
  cases hstored : operations.get? operation.indexOperationId with
  | none => rw [hstored] at hrel; cases hrel
  | some stored =>
    rw [hstored] at hrel
    cases hrel with
    | some hsame =>
      exact ⟨stored, (Table.mem_values _ _).2 (by rw [← hsame.id]; exact hstored), hsame⟩

theorem retireExhausted_same (tenantId : Option String) (now : Instant) :
    SameOperations operations (retireExhausted tenantId now operations) := by
  intro id
  rw [get?_retireExhausted]
  cases operations.get? id with
  | none => exact .none
  | some operation =>
    refine .some ?_
    unfold retired
    split
    · exact ⟨rfl, rfl, rfl, rfl, rfl, rfl⟩
    · exact .refl operation

theorem claim_same (owner token : String) (now : Instant) (lease : Int) (tenantId : Option String)
    (operations : IndexOperations) :
    SameOperations operations (claim owner token now lease tenantId operations).2 := by
  have hretired : SameOperations operations _ := retireExhausted_same tenantId now
  simp only [claim]
  split
  · exact hretired
  · next operation hfirst =>
    exact hretired.put (firstEligible_mem hfirst).1 ⟨rfl, rfl, rfl, rfl, rfl, rfl⟩

theorem complete_same {id owner : String} {leaseToken external : Option String} {now : Instant}
    {metadata : JsonDict}
    (h : complete id owner leaseToken now external metadata operations =
      .ok (operation, operations')) : SameOperations operations operations' := by
  obtain ⟨stored, hget, -, rfl, rfl⟩ := complete_ok h
  exact (SameOperations.refl operations).put hget ⟨rfl, rfl, rfl, rfl, rfl, rfl⟩

theorem fail_same {id owner errorCode : String} {leaseToken : Option String}
    {now nextAttemptAt : Instant}
    (h : fail id owner leaseToken now errorCode nextAttemptAt operations =
      .ok (operation, operations')) : SameOperations operations operations' := by
  obtain ⟨stored, hget, -, rfl, rfl⟩ := fail_ok h
  exact (SameOperations.refl operations).put hget ⟨rfl, rfl, rfl, rfl, rfl, rfl⟩

end Same

end OpenIntentRouter.Repositories.MemoryIndex
