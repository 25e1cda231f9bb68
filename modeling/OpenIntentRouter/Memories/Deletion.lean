import OpenIntentRouter.Memories.Ledger

/-!
# Requests to delete a memory, on the database

A request to delete an active item that names it exactly and was not made
before should be written. The unique key of `memory_items` includes the
lifecycle status, so two items of one key cannot both await their deletion:
while the deletion of a memory is unfinished, a memory that was added under the
same key since cannot be deleted, and the violated key is reported as
"Memory lifecycle target is not active".

* `request_delete_iff`: a new request is written if and only if the item is
  active, no other item of the key awaits its deletion, and the key is none that
  stands for an item without one;
* `second_deletion_refused`: add, delete, add again, delete again.
-/
namespace OpenIntentRouter.Memories.Deletion

open Core Schemas Services Repositories.MemoryIndex Repositories.MemoryDatabase Ledger

/-- An operation names an item: its id, owner, subject and key, and its current revision. -/
structure Names (operation : MemoryLifecycleOperation) (item : MemoryItem) : Prop where
  memory : operation.memoryId = some item.memoryId
  nonempty : item.memoryId ≠ ""
  tenant : item.tenantId = some operation.tenantId
  user : item.userId = some operation.userId
  subjectType : item.subjectType = operation.subjectType
  subjectId : item.subjectId = operation.subjectId
  key : memoryKeyMatches item.memoryKey operation.memoryKey = true
  revision : item.currentRevisionId = operation.revisionId

def deleteIndex (service : MemoryLifecycleService) (operation : MemoryLifecycleOperation)
    (memoryId : String) (now : Instant) : MemoryIndexOperation :=
  service.indexOperation operation memoryId .delete operation.revisionId now

/-- The request succeeds: the item awaits its deletion, with one new event and one new index
operation. -/
def Deletes (service : MemoryLifecycleService) (operation : MemoryLifecycleOperation)
    (now : Instant) (tables : MemoryTables) (memoryId : String) : Prop :=
  ∃ request tables', service.databaseRequestDelete operation now tables = .ok (request, tables') ∧
    request.replay = false ∧
    (tables'.items.get? memoryId).map (·.lifecycleStatus) = some (some .deletionPending) ∧
    tables'.events.values.map (·.eventId) =
      tables.events.values.map (·.eventId) ++ [request.event.eventId] ∧
    tables'.operations.values = tables.operations.values ++ [request.indexOperation] ∧
    request.indexOperation.operation = .delete ∧ request.indexOperation.memoryId = memoryId

/-- No other item of the key awaits its deletion, and the item can be addressed. -/
structure Deletable (tables : MemoryTables) (row : MemoryItemModel) : Prop where
  status : row.lifecycleStatus = some .active
  key : ∀ key, row.memoryKey = some key → key.startsWith "legacy-memory:" = false
  free : ∀ other ∈ tables.items.values, other.lifecycleStatus = some .deletionPending →
    sameKey row other = false

section Requests

variable {service : MemoryLifecycleService} {operation : MemoryLifecycleOperation} {now : Instant}
  {tables : MemoryTables} {row : MemoryItemModel} {event : MemoryEvent}
  {index : MemoryIndexOperation}

/-- A row that an operation names is its target if it is active and its key is not special. -/
theorem isTarget_iff (hnames : Names operation (memoryFromRow row)) :
    MemoryTables.isTarget operation row = true ↔
      row.lifecycleStatus = some .active ∧
        ∀ key, row.memoryKey = some key → key.startsWith "legacy-memory:" = false := by
  have htenant : row.tenantId = some operation.tenantId := hnames.tenant
  have huser : row.userId = some operation.userId := hnames.user
  have htype : row.subjectType = operation.subjectType := hnames.subjectType
  have hsubject : row.subjectId = operation.subjectId := hnames.subjectId
  have hrevision : row.currentRevisionId = operation.revisionId := hnames.revision
  have hkey : row.memoryKey = some operation.memoryKey ∨
      row.memoryKey = none ∧ operation.memoryKey.startsWith "legacy-memory:" = true := by
    have hmatch : memoryKeyMatches row.memoryKey operation.memoryKey = true := hnames.key
    simpa only [memoryKeyMatches, Bool.or_eq_true, Bool.and_eq_true, decide_eq_true_eq] using hmatch
  have hcondition : MemoryTables.databaseMemoryKeyCondition operation row = true ↔
      ∀ key, row.memoryKey = some key → key.startsWith "legacy-memory:" = false := by
    unfold MemoryTables.databaseMemoryKeyCondition
    rcases hkey with hkey | ⟨hnone, hlegacy⟩
    · rw [hkey]
      constructor
      · intro h key hk
        cases hk
        by_contra hlegacy
        rw [Bool.not_eq_false] at hlegacy
        rw [if_pos hlegacy, decide_eq_true_eq] at h
        cases h
      · intro h
        rw [if_neg (by rw [h _ rfl]; exact Bool.false_ne_true), decide_eq_true_eq]
    · rw [hnone, if_pos hlegacy]
      simp
  simp only [MemoryTables.isTarget, htenant, huser, htype, hsubject, hrevision, decide_true,
    Bool.true_and, Bool.and_true, Bool.and_eq_true, decide_eq_true_eq, hcondition]
  exact and_comm

/-- The key of a row that is to be deleted is free if no other item awaits its deletion. -/
theorem keyFree_deletingRow (hget : tables.items.get? row.memoryId = some row)
    (hstatus : row.lifecycleStatus = some .active) :
    tables.keyFree (MemoryTables.deletingRow row event) = true ↔
      ∀ other ∈ tables.items.values, other.lifecycleStatus = some .deletionPending →
        sameKey row other = false := by
  rw [MemoryTables.keyFree_iff]
  have hclash (other : MemoryItemModel) : clashes (MemoryTables.deletingRow row event) other = false ↔
      (other.lifecycleStatus = some .deletionPending → sameKey row other = false) := by
    show (sameKey row other && true && decide (some .deletionPending = other.lifecycleStatus)) =
      false ↔ _
    by_cases hpending : other.lifecycleStatus = some .deletionPending
    · simp [hpending]
    · simp [hpending, Ne.symm hpending]
  constructor
  · intro h other hmem hpending
    refine (hclash other).1 (h other hmem ?_) hpending
    intro hid
    have hid : other.memoryId = row.memoryId := hid
    rw [Table.mem_values, hid, hget, Option.some.injEq] at hmem
    rw [← hmem, hstatus] at hpending
    cases hpending
  · intro h other hmem _
    exact (hclash other).2 (h other hmem)

theorem requestDelete_eq (hmemory : operation.memoryId = some row.memoryId)
    (hnonempty : row.memoryId ≠ "")
    (haccepted : operation.operation = .delete ∧ operation.decisionStatus = .accepted) :
    service.databaseRequestDelete operation now tables =
      tables.requestDelete service.redaction operation (service.deletionEvent operation now)
        (deleteIndex service operation row.memoryId now) := by
  simp [MemoryLifecycleService.databaseRequestDelete, requireAccepted, lifecycleMemoryId,
    Except.ensure, hmemory, hnonempty, haccepted, deleteIndex]

theorem requestDelete_written {R : Redaction} (hmemory : operation.memoryId = some row.memoryId)
    (hnonempty : row.memoryId ≠ "") {written : DeleteRequest × MemoryTables}
    (h : tables.writeDelete R row.memoryId operation event index = some written) :
    tables.requestDelete R operation event index = .ok written := by
  simp [MemoryTables.requestDelete, requiredMemoryId, hmemory, hnonempty, h, pure, Except.pure]

theorem requestDelete_refused {R : Redaction} (hmemory : operation.memoryId = some row.memoryId)
    (hnonempty : row.memoryId ≠ "") (hnew : tables.events.get? event.eventId = none)
    (h : tables.writeDelete R row.memoryId operation event index = none) :
    tables.requestDelete R operation event index =
      .error (.valueError "Memory lifecycle target is not active") := by
  simp [MemoryTables.requestDelete, requiredMemoryId, hmemory, hnonempty, h,
    MemoryTables.loadDeleteReplay, hnew]

/-- A new request to delete an item under its exact name is written if and only if the item is
active, its key can be addressed, and no other item of the key awaits its deletion. -/
theorem request_delete_iff (hget : tables.items.get? row.memoryId = some row)
    (hnames : Names operation (memoryFromRow row))
    (haccepted : operation.operation = .delete ∧ operation.decisionStatus = .accepted)
    (hfresh : tables.Fresh (service.deletionEvent operation now)
      (deleteIndex service operation row.memoryId now)) :
    Deletes service operation now tables row.memoryId ↔ Deletable tables row := by
  have hmemory : operation.memoryId = some row.memoryId := hnames.memory
  have hnonempty : row.memoryId ≠ "" := hnames.nonempty
  unfold Deletes
  rw [requestDelete_eq hmemory hnonempty haccepted]
  constructor
  · rintro ⟨request, tables', hcall, -⟩
    cases hwrite : tables.writeDelete service.redaction row.memoryId operation
        (service.deletionEvent operation now) (deleteIndex service operation row.memoryId now) with
    | none =>
      rw [requestDelete_refused hmemory hnonempty hfresh.event hwrite] at hcall
      cases hcall
    | some written =>
      obtain ⟨htarget, hfree, -⟩ := (MemoryTables.writeDelete_eq_some hget).1 hwrite
      obtain ⟨hstatus, hkey⟩ := (isTarget_iff hnames).1 htarget
      exact ⟨hstatus, hkey, (keyFree_deletingRow hget hstatus).1 hfree⟩
  · rintro ⟨hstatus, hkey, hfree⟩
    have hwrite := (MemoryTables.writeDelete_eq_some (R := service.redaction) hget).2
      ⟨(isTarget_iff hnames).2 ⟨hstatus, hkey⟩, (keyFree_deletingRow hget hstatus).2 hfree, hfresh,
        rfl, rfl⟩
    refine ⟨_, _, requestDelete_written hmemory hnonempty hwrite, rfl, ?_, ?_, ?_, rfl, rfl⟩
    · have hput := Table.get?_put_self tables.items
        (MemoryTables.deletingRow row (service.deletionEvent operation now))
      exact congrArg (Option.map (·.lifecycleStatus)) hput
    · rw [MemoryTables.deleteRequested_eventIds, Table.values_put_of_none hfresh.event,
        List.map_append]
      rfl
    · exact Table.values_put_of_none hfresh.operation

end Requests

/-! ## Runs -/

def sampleDelete (operationId memoryId : String) : MemoryLifecycleOperation :=
  sampleOperation operationId .delete (some memoryId)
    (some ("mrev_" ++ (memoryId.drop 4).toString ++ ":revision:1"))

def sampleAdded : Except StoreError MemoryTables := do
  let vegan := sampleCandidate "vegan" vegan_ne
  let (_, tables) ← sampleService.databaseAdd (sampleOperation "a" .add none none) vegan 1 .empty
  return tables

theorem request_delete_iff_sampleAdded :
    ∃ tables row, sampleAdded = .ok tables ∧ tables.items.get? "mem_a" = some row ∧
      (Deletes sampleService (sampleDelete "c" "mem_a") 2 tables row.memoryId ↔
        Deletable tables row) ∧
      Deletable tables row := by
  refine ⟨_, _, rfl, rfl, request_delete_iff rfl ?_ ⟨rfl, rfl⟩ ?_, ?_⟩
  · exact ⟨rfl, by decide, rfl, rfl, rfl, rfl, rfl, rfl⟩
  · exact ⟨rfl, rfl, by decide⟩
  · refine ⟨rfl, ?_, by decide⟩
    intro key hk
    cases hk
    rfl

/-- A memory is added, its deletion requested and not finished, and its key added again. -/
def samplePending : Except StoreError MemoryTables := do
  let vegan := sampleCandidate "vegan" vegan_ne
  let tables ← sampleAdded
  let (_, tables) ← sampleService.databaseRequestDelete (sampleDelete "c" "mem_a") 2 tables
  let (_, tables) ← sampleService.databaseAdd (sampleOperation "b" .add none none) vegan 3 tables
  return tables

theorem second_deletion_refused :
    ∃ tables row, samplePending = .ok tables ∧ tables.items.get? "mem_b" = some row ∧
      (memoryFromRow row).lifecycleStatus = .active ∧
      Names (sampleDelete "d" "mem_b") (memoryFromRow row) ∧
      tables.Fresh (sampleService.deletionEvent (sampleDelete "d" "mem_b") 4)
        (deleteIndex sampleService (sampleDelete "d" "mem_b") "mem_b" 4) ∧
      sampleService.databaseRequestDelete (sampleDelete "d" "mem_b") 4 tables =
        .error (.valueError "Memory lifecycle target is not active") ∧
      ¬Deletes sampleService (sampleDelete "d" "mem_b") 4 tables "mem_b" := by
  refine ⟨_, _, rfl, rfl, rfl, ⟨rfl, by decide, rfl, rfl, rfl, rfl, rfl, rfl⟩,
    ⟨rfl, rfl, by decide⟩, rfl, ?_⟩
  rintro ⟨request, tables', hcall, -⟩
  cases hcall

end OpenIntentRouter.Memories.Deletion
