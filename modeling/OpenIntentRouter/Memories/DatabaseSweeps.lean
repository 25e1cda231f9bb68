import OpenIntentRouter.Memories.Deletion
import OpenIntentRouter.Services.MemoryTtlSweeper

/-!
# The requests of a sweep, on the database

What the request of an expired item needs: an operation that its schema
accepts, a row that the operation names, a key that no other deletion holds,
and ids that no row has. A request that is written takes the key and the ids
away from the others and changes nothing else they need.

* `databaseRequest_iff`: a request is written, or answered from what an earlier
  one left;
* `requests`: the requests of a sweep are requests of a batch.
-/
namespace OpenIntentRouter.Memories.DatabaseSweeps

open Core Core.Except Schemas Services Repositories.MemoryIndex Repositories.MemoryDatabase MemoryTtlSweeper

structure Valid (item : MemoryItem) : Prop where
  memory : item.memoryId ≠ ""
  tenant : truthy item.tenantId = true
  user : orDefault item.userId item.subjectId ≠ ""
  subjectType : item.subjectType ≠ ""
  subjectId : item.subjectId ≠ ""

section Ids

variable (service : MemoryLifecycleService) (item : MemoryItem)

def deletionEvent (now : Instant) : MemoryEvent :=
  service.deletionEvent (ttlOperation service item) now

def deletionIndex (now : Instant) : MemoryIndexOperation :=
  service.indexOperation (ttlOperation service item) item.memoryId .delete item.currentRevisionId now

def eventId : String := (deletionEvent service item 0).eventId

def indexOperationId : String := (deletionIndex service item 0).indexOperationId

def idempotencyKey : String := (deletionIndex service item 0).idempotencyKey

end Ids

variable {value : Option String} {operation validated : MemoryLifecycleOperation}
  {result : DeleteRequest × MemoryTables} {index : MemoryIndexOperation} {tables : MemoryTables}

theorem orDefault_ne_empty {default : String} (h : default ≠ "") :
    orDefault value default ≠ "" := by
  unfold orDefault
  cases hvalue : value.filter (· ≠ "") with
  | none => exact h
  | some text => simpa using (Option.filter_eq_some_iff.1 hvalue).2

theorem orDefault_empty_ne : orDefault value "" ≠ "" ↔ truthy value = true := by
  cases value with
  | none => simp [orDefault, truthy]
  | some text => by_cases h : text = "" <;> simp [orDefault, truthy, h, Option.filter]

section Operations

variable {service : MemoryLifecycleService} {item : MemoryItem}

theorem validateOperation_ok :
    validateOperation operation = .ok validated ↔ (operation.tenantId ≠ "" ∧ operation.userId ≠ "" ∧
      operation.subjectType ≠ "" ∧ operation.subjectId ≠ "" ∧ operation.memoryKey ≠ "" ∧
      operation.candidateHash ≠ "") ∧ validated = operation := by
  simp only [validateOperation, bind_eq_ok, ensure_eq_ok, Bool.and_eq_true,
    decide_eq_true_eq, pure, Except.pure, Except.ok.injEq, exists_const, ne_eq]
  grind

/-- The key and the hash of an operation have a default that is not empty. -/
theorem validate_ttlOperation :
    validateOperation (ttlOperation service item) = .ok validated ↔
      (truthy item.tenantId = true ∧ orDefault item.userId item.subjectId ≠ "" ∧
        item.subjectType ≠ "" ∧ item.subjectId ≠ "") ∧ validated = ttlOperation service item := by
  have hkey : (ttlOperation service item).memoryKey ≠ "" :=
    orDefault_ne_empty (by simp)
  have hhash : (ttlOperation service item).candidateHash ≠ "" :=
    orDefault_ne_empty (by simp)
  rw [validateOperation_ok, ← orDefault_empty_ne]
  simp only [hkey, hhash, ne_eq, not_false_eq_true, and_true]
  rfl

end Operations

/-! ## The order of a sweep -/

open MemoryStore in
/-- A sweep of a set of items that its limit does not cut isolates them exactly if each request
that is accepted alone writes, and so do those of the items that expire before it, and leave it
what it needs. -/
theorem isolates_iff {σ : Type} (q : Batches.Requests MemoryItem DeleteRequest σ StoreError String)
    (hkey : q.key = MemoryItem.memoryId) {items : List MemoryItem} {limit : Nat} {s : σ}
    (hids : (items.map MemoryItem.memoryId).Nodup) (hnot : ∀ item ∈ items, ¬q.Moved item s)
    (hlimit : items.length ≤ limit) :
    (∀ item ∈ items, q.Accepted item s → q.Moved item (Batches.run q.request 0
        ((items.insertionSort fun a b => expiryKey a ≤ expiryKey b).take limit) s).2) ↔
      (∀ item ∈ items, q.Accepted item s → q.Writes item s) ∧
        ∀ x ∈ items, ∀ y ∈ items, expiryKey x < expiryKey y → q.Writes y s →
          q.Writes x s ∧ q.Apart x y s := by
  have hperm := List.perm_insertionSort (fun a b => expiryKey a ≤ expiryKey b) items
  have hnodup := (hperm.map q.key).nodup_iff.2 (hkey ▸ hids)
  have hsorted : (items.insertionSort fun a b => expiryKey a ≤ expiryKey b).Pairwise
      fun a b => expiryKey a < expiryKey b := by
    have hle := List.pairwise_insertionSort (fun a b => expiryKey a ≤ expiryKey b) items
    refine (hle.and (List.pairwise_map.1 hnodup)).imp fun {a b} hab => lt_of_le_of_ne hab.1 ?_
    intro heq
    have hsecond : a.memoryId = b.memoryId := congrArg (fun p => (ofLex p).2) heq
    exact hab.2 (by rw [hkey]; exact hsecond)
  have hbatch := q.isolates_iff (k := 0) hnodup fun item hitem => hnot item (hperm.mem_iff.1 hitem)
  rw [Batches.pairwise_iff_of_key hsorted] at hbatch
  simp only [hperm.mem_iff] at hbatch
  rw [List.take_of_length_le (by rw [List.length_insertionSort]; exact hlimit)]
  exact hbatch

/-! ## The request of one item -/

section Requests

variable {service : MemoryLifecycleService} {clock : Nat → Instant} {k : Nat} {item : MemoryItem}
  {tables : MemoryTables}

theorem requestDelete_iff {R : Redaction} {event : MemoryEvent} {memoryId : String}
    (hmemory : operation.memoryId = some memoryId) (hnonempty : memoryId ≠ "") :
    tables.requestDelete R operation event index = .ok result ↔
      tables.writeDelete R memoryId operation event index = some result ∨
      tables.writeDelete R memoryId operation event index = none ∧ ∃ replay,
        tables.loadDeleteReplay memoryId operation event index = .ok (some replay) ∧
          result = (replay, tables) := by
  have hrequired : requiredMemoryId operation = .ok memoryId := by
    simp [requiredMemoryId, hmemory, hnonempty]
  rw [MemoryTables.requestDelete, hrequired, ok_bind]
  cases hwrite : tables.writeDelete R memoryId operation event index with
  | some written => simp [pure, Except.pure, eq_comm]
  | none =>
    simp only [reduceCtorEq, false_or, true_and]
    rw [bind_eq_ok]
    constructor
    · rintro ⟨replay, hload, h⟩
      cases replay with
      | none => cases h
      | some replay =>
        cases h
        exact ⟨replay, hload, rfl⟩
    · rintro ⟨replay, hload, rfl⟩
      exact ⟨some replay, hload, rfl⟩

/-- A request whose operation is valid is what the store makes of it. -/
theorem request_ok {α : Type} {result : α}
    (write : MemoryLifecycleOperation → String → Except StoreError α) :
    (do
      let operation ← validateOperation (ttlOperation service item)
      requireAccepted operation .delete "DELETE"
      let memoryId ← lifecycleMemoryId operation
      write operation memoryId) = .ok result ↔
      Valid item ∧ write (ttlOperation service item) item.memoryId = .ok result := by
  rw [bind_eq_ok]
  constructor
  · rintro ⟨operation, hvalid, h⟩
    obtain ⟨⟨htenant, huser, htype, hsubject⟩, rfl⟩ := validate_ttlOperation.1 hvalid
    obtain ⟨_, -, h⟩ := bind_eq_ok.1 h
    obtain ⟨memoryId, hid, h⟩ := bind_eq_ok.1 h
    obtain ⟨hid, hnonempty⟩ := MemoryLifecycleService.lifecycleMemoryId_ok hid
    cases hid
    exact ⟨⟨hnonempty, htenant, huser, htype, hsubject⟩, h⟩
  · rintro ⟨⟨hnonempty, htenant, huser, htype, hsubject⟩, h⟩
    refine ⟨_, validate_ttlOperation.2 ⟨⟨htenant, huser, htype, hsubject⟩, rfl⟩, ?_⟩
    refine bind_eq_ok.2 ⟨(), by simp [requireAccepted, Except.ensure, ttlOperation], ?_⟩
    refine bind_eq_ok.2 ⟨item.memoryId, by simp [lifecycleMemoryId, ttlOperation, hnonempty], ?_⟩
    exact h

theorem databaseRequestItem_ok :
    databaseRequestItem service clock k item tables = .ok result ↔ Valid item ∧
      tables.requestDelete service.redaction (ttlOperation service item)
        (deletionEvent service item (clock k)) (deletionIndex service item (clock k)) =
          .ok result :=
  request_ok fun operation memoryId => tables.requestDelete service.redaction operation
    (service.deletionEvent operation (clock k))
    (service.indexOperation operation memoryId .delete operation.revisionId (clock k))

end Requests

/-! ## What is written -/

structure Target (service : MemoryLifecycleService) (item : MemoryItem) (tables : MemoryTables)
    (row : MemoryItemModel) : Prop where
  get : tables.items.get? item.memoryId = some row
  named : MemoryTables.isTarget (ttlOperation service item) row = true
  free : ∀ other ∈ tables.items.values, other.lifecycleStatus = some .deletionPending →
    sameKey row other = false
  event : tables.events.get? (eventId service item) = none
  operation : tables.operations.get? (indexOperationId service item) = none
  idempotency : ∀ other ∈ tables.operations.values,
    other.idempotencyKey ≠ idempotencyKey service item

def Writes (service : MemoryLifecycleService) (item : MemoryItem) (tables : MemoryTables) : Prop :=
  Valid item ∧ ∃ row, Target service item tables row

/-- The tables after the `k`-th request is written. -/
def next (service : MemoryLifecycleService) (clock : Nat → Instant) (k : Nat) (item : MemoryItem)
    (tables : MemoryTables) : MemoryTables :=
  match tables.items.get? item.memoryId with
  | some row =>
    MemoryTables.deleteRequested service.redaction tables row (ttlOperation service item)
      (deletionEvent service item (clock k)) (deletionIndex service item (clock k))
  | none => tables

def Moved (item : MemoryItem) (tables : MemoryTables) : Prop :=
  (tables.items.get? item.memoryId).map (·.lifecycleStatus) = some (some .deletionPending)

/-- What a request writes for the first item is nothing that the second one needs. -/
structure Apart (service : MemoryLifecycleService) (x y : MemoryItem) (tables : MemoryTables) :
    Prop where
  key : ∀ row other, tables.items.get? y.memoryId = some row →
    tables.items.get? x.memoryId = some other → sameKey row other = false
  event : eventId service x ≠ eventId service y
  operation : indexOperationId service x ≠ indexOperationId service y
  idempotency : idempotencyKey service x ≠ idempotencyKey service y

section Writes

variable {service : MemoryLifecycleService} {clock : Nat → Instant} {k : Nat}
  {item x y z : MemoryItem} {tables : MemoryTables} {row other : MemoryItemModel}

theorem Target.id (h : Target service item tables row) : row.memoryId = item.memoryId :=
  Table.key_of_get? h.get

theorem Target.active (h : Target service item tables row) :
    row.lifecycleStatus = some .active := by
  have hnamed := h.named
  simp only [MemoryTables.isTarget, Bool.and_eq_true, decide_eq_true_eq] at hnamed
  exact hnamed.1.2

theorem writeDelete_iff :
    tables.writeDelete service.redaction item.memoryId (ttlOperation service item)
        (deletionEvent service item (clock k)) (deletionIndex service item (clock k)) =
          some result ↔
      ∃ row, Target service item tables row ∧
        result = (⟨some (memoryFromRow (MemoryTables.deletingRow row
            (deletionEvent service item (clock k)))), deletionEvent service item (clock k),
            deleteOperation (deletionIndex service item (clock k)) (memoryFromRow row), false⟩,
          next service clock k item tables) := by
  constructor
  · intro h
    obtain ⟨row, hrow, -⟩ := Option.bind_eq_some_iff.1 h
    obtain ⟨hget, -⟩ := Option.filter_eq_some_iff.1 hrow
    have hid : row.memoryId = item.memoryId := Table.key_of_get? hget
    rw [← hid] at h hget
    have hwritten : _ = some (result.1, result.2) := h
    obtain ⟨hnamed, hfree, hfresh, hrequest, htables⟩ :=
      (MemoryTables.writeDelete_eq_some hget).1 hwritten
    have htarget : Target service item tables row := by
      refine ⟨hid ▸ hget, hnamed, ?_, hfresh.event, hfresh.operation, hfresh.idempotency⟩
      refine (Deletion.keyFree_deletingRow hget ?_).1 hfree
      simp only [MemoryTables.isTarget, Bool.and_eq_true, decide_eq_true_eq] at hnamed
      exact hnamed.1.2
    refine ⟨row, htarget, Prod.ext hrequest (htables.trans ?_)⟩
    rw [next, htarget.get]
  · rintro ⟨row, htarget, rfl⟩
    have hget := htarget.get
    rw [← htarget.id] at hget ⊢
    refine (MemoryTables.writeDelete_eq_some hget).2 ⟨htarget.named, ?_,
      ⟨htarget.event, htarget.operation, htarget.idempotency⟩, rfl, ?_⟩
    · exact (Deletion.keyFree_deletingRow hget htarget.active).2 htarget.free
    · rw [next, htarget.get]

/-! The rows of other items -/

section Next

variable (htarget : Target service x tables row)
include htarget

theorem next_eq : next service clock k x tables =
    MemoryTables.deleteRequested service.redaction tables row (ttlOperation service x)
      (deletionEvent service x (clock k)) (deletionIndex service x (clock k)) := by
  rw [next, htarget.get]

theorem next_items : (next service clock k x tables).items =
    tables.items.put (MemoryTables.deletingRow row (deletionEvent service x (clock k))) := by
  rw [next_eq htarget]
  rfl

theorem next_operations : (next service clock k x tables).operations =
    tables.operations.put (deleteOperation (deletionIndex service x (clock k)) (memoryFromRow row)) := by
  rw [next_eq htarget]
  rfl

theorem get?_next_self : (next service clock k x tables).items.get? x.memoryId =
    some (MemoryTables.deletingRow row (deletionEvent service x (clock k))) := by
  rw [next_items htarget, ← htarget.id]
  exact Table.get?_put_self _ _

theorem get?_next (hne : x.memoryId ≠ y.memoryId) :
    (next service clock k x tables).items.get? y.memoryId = tables.items.get? y.memoryId := by
  rw [next_items htarget]
  refine Table.get?_put_ne _ ?_
  show row.memoryId ≠ y.memoryId
  rw [htarget.id]
  exact hne

/-- The event of a request is the only new one; the payloads of the events of the item are
scrubbed. -/
theorem get?_next_events (id : String) : (next service clock k x tables).events.get? id =
    ((tables.events.put (deletionEvent service x (clock k))).get? id).map
      (scrubEvent service.redaction row.memoryId (ttlOperation service x)) := by
  rw [next_eq htarget]
  exact (tables.events.put (deletionEvent service x (clock k))).get?_mapValues
    (scrubEvent service.redaction row.memoryId (ttlOperation service x)) (fun _ => rfl) id

theorem next_events_none (id : String) : (next service clock k x tables).events.get? id = none ↔
    tables.events.get? id = none ∧ eventId service x ≠ id := by
  rw [get?_next_events htarget, Option.map_eq_none_iff, Table.get?_put]
  show (if eventId service x = id then _ else _) = none ↔ _
  split
  · next h => simp [h]
  · next h => simp [h]

theorem values_next_operations : (next service clock k x tables).operations.values =
    tables.operations.values ++
      [deleteOperation (deletionIndex service x (clock k)) (memoryFromRow row)] := by
  rw [next_operations htarget]
  exact Table.values_put_of_none htarget.operation

theorem mem_values_next : other ∈ (next service clock k x tables).items.values ↔
    other = MemoryTables.deletingRow row (deletionEvent service x (clock k)) ∨
      other ∈ tables.items.values ∧ other.memoryId ≠ x.memoryId := by
  rw [Table.mem_values, Table.mem_values, next_items htarget, Table.get?_put]
  show (if row.memoryId = other.memoryId then _ else _) = some other ↔ _
  rw [htarget.id]
  split
  · next h =>
    simp only [Option.some.injEq, h, ne_eq, not_true_eq_false, and_false, or_false]
    exact eq_comm
  · next h =>
    constructor
    · exact fun hget => .inr ⟨hget, fun hid => h hid.symm⟩
    · rintro (rfl | ⟨hget, -⟩)
      · exact absurd htarget.id.symm h
      · exact hget

/-- A key is taken by the row of the request, and by the rows that held it before. -/
theorem free_next : (∀ z ∈ (next service clock k x tables).items.values,
      z.lifecycleStatus = some .deletionPending → sameKey other z = false) ↔
    (∀ z ∈ tables.items.values, z.lifecycleStatus = some .deletionPending →
      sameKey other z = false) ∧ sameKey other row = false := by
  constructor
  · intro h
    have hself : sameKey other (MemoryTables.deletingRow row
        (deletionEvent service x (clock k))) = false :=
      h _ ((mem_values_next htarget).2 (.inl rfl)) rfl
    refine ⟨fun z hmem hpending => h z ((mem_values_next htarget).2 (.inr ⟨hmem, ?_⟩)) hpending,
      hself⟩
    -- the row of the request is active, so it is none of those
    intro hid
    rw [Table.mem_values, hid, htarget.get, Option.some.injEq] at hmem
    rw [← hmem, htarget.active] at hpending
    cases hpending
  · rintro ⟨hold, hrow⟩ z hmem hpending
    rcases (mem_values_next htarget).1 hmem with rfl | ⟨hmem, -⟩
    · exact hrow
    · exact hold z hmem hpending

theorem target_next (hne : x.memoryId ≠ y.memoryId) :
    Target service y (next service clock k x tables) other ↔
      Target service y tables other ∧ Apart service x y tables := by
  constructor
  · rintro ⟨hget, hnamed, hfree, hevent, hoperation, hidempotency⟩
    rw [get?_next htarget hne] at hget
    obtain ⟨hfree, hkey⟩ := (free_next htarget).1 hfree
    obtain ⟨hevent, hevents⟩ := (next_events_none htarget _).1 hevent
    rw [next_operations htarget, Table.get?_put] at hoperation
    rw [values_next_operations htarget, List.forall_mem_append] at hidempotency
    obtain ⟨hidempotency, hlast⟩ := hidempotency
    have hidempotencies : idempotencyKey service x ≠ idempotencyKey service y :=
      hlast (deleteOperation (deletionIndex service x (clock k)) (memoryFromRow row))
        List.mem_cons_self
    split at hoperation
    · cases hoperation
    · next hids =>
      refine ⟨⟨hget, hnamed, hfree, hevent, hoperation, hidempotency⟩, ?_, hevents, hids,
        hidempotencies⟩
      intro second first hsecond hfirst
      rw [hget, Option.some.injEq] at hsecond
      rw [htarget.get, Option.some.injEq] at hfirst
      exact hsecond ▸ hfirst ▸ hkey
  · rintro ⟨⟨hget, hnamed, hfree, hevent, hoperation, hidempotency⟩, hapart⟩
    refine ⟨(get?_next htarget hne).trans hget, hnamed, ?_, ?_, ?_, ?_⟩
    · exact (free_next htarget).2 ⟨hfree, hapart.key _ _ hget htarget.get⟩
    · exact (next_events_none htarget _).2 ⟨hevent, hapart.event⟩
    · rw [next_operations htarget, Table.get?_put]
      exact (if_neg hapart.operation).trans hoperation
    · rw [values_next_operations htarget, List.forall_mem_append]
      exact ⟨hidempotency, fun z hz => List.mem_singleton.1 hz ▸ hapart.idempotency⟩

/-- A request that is answered from what an earlier one left was so before another item was
written: what is new names the other item. -/
theorem replay_next {event : MemoryEvent} {replay : DeleteRequest} (hne : x.memoryId ≠ y.memoryId)
    (hevent : event.memoryId = some y.memoryId) (hindex : index.memoryId = y.memoryId)
    (h : (next service clock k x tables).loadDeleteReplay y.memoryId (ttlOperation service y) event
      index = .ok (some replay)) :
    tables.loadDeleteReplay y.memoryId (ttlOperation service y) event index =
      .ok (some replay) := by
  unfold MemoryTables.loadDeleteReplay at h ⊢
  rw [get?_next htarget hne, get?_next_events htarget, values_next_operations htarget] at h
  split at h
  · cases h
  · next stored hstored =>
    split at h
    · cases h
    · next found hfound =>
      obtain ⟨_, hreplay, hrest⟩ := bind_eq_ok.1 h
      obtain ⟨_, hreplayed, -⟩ := bind_eq_ok.1 hrest
      simp only [validateEventReplay, validateIndexReplay, ensure_eq_ok, Bool.and_eq_true,
        decide_eq_true_eq] at hreplay hreplayed
      -- the stored event is one of the item, so it is neither new nor scrubbed
      obtain ⟨before, hbefore, rfl⟩ := Option.map_eq_some_iff.1 hstored
      have hmemory : before.memoryId = some y.memoryId :=
        hreplay.1.1.1.1.1.1.1.1.2.trans hevent
      have hold : tables.events.get? event.eventId = some before := by
        rw [Table.get?_put] at hbefore
        split at hbefore
        · cases hbefore
          exact absurd (Option.some.inj hmemory) hne
        · exact hbefore
      have hscrub : scrubEvent service.redaction row.memoryId (ttlOperation service x) before =
          before := by
        have hother : before.memoryId ≠ some row.memoryId := by
          rw [hmemory, htarget.id]
          exact fun hid => hne (Option.some.inj hid).symm
        simp [scrubEvent, hother]
      have hfirst : tables.operations.values.find? (·.idempotencyKey = index.idempotencyKey) =
          some found := by
        rw [List.find?_append] at hfound
        rcases Option.or_eq_some_iff.1 hfound with hfound | ⟨-, hfound⟩
        · exact hfound
        · have hlast := List.mem_singleton.1 (List.mem_of_find?_eq_some hfound)
          rw [hlast, hindex] at hreplayed
          exact absurd hreplayed.1.1.2 hne
      rw [hold]
      simp only [hfirst]
      rw [hscrub] at h
      exact h

end Next

end Writes

/-! ## A batch -/

section Batch

variable (service : MemoryLifecycleService) (clock : Nat → Instant)

theorem databaseRequest_iff {k : Nat} {item : MemoryItem} :
    databaseRequestItem service clock k item tables = .ok result ↔
      Writes service item tables ∧ (∃ request, result = (request, next service clock k item tables) ∧
        tables.writeDelete service.redaction item.memoryId (ttlOperation service item)
          (deletionEvent service item (clock k)) (deletionIndex service item (clock k)) =
            some result) ∨
      Valid item ∧ ¬Writes service item tables ∧ ∃ replay,
        tables.loadDeleteReplay item.memoryId (ttlOperation service item)
          (deletionEvent service item (clock k)) (deletionIndex service item (clock k)) =
            .ok (some replay) ∧ result = (replay, tables) := by
  rw [databaseRequestItem_ok]
  constructor
  · rintro ⟨hvalid, h⟩
    rcases (requestDelete_iff rfl hvalid.memory).1 h with h | ⟨hnone, replay, hload, rfl⟩
    · obtain ⟨row, htarget, rfl⟩ := writeDelete_iff.1 h
      exact .inl ⟨⟨hvalid, row, htarget⟩, _, rfl, h⟩
    · refine .inr ⟨hvalid, ?_, replay, hload, rfl⟩
      rintro ⟨-, row, htarget⟩
      rw [writeDelete_iff.2 ⟨row, htarget, rfl⟩] at hnone
      cases hnone
  · rintro (⟨⟨hvalid, -⟩, -, -, h⟩ | ⟨hvalid, hnot, replay, hload, rfl⟩)
    · exact ⟨hvalid, (requestDelete_iff rfl hvalid.memory).2 (.inl h)⟩
    · refine ⟨hvalid, (requestDelete_iff rfl hvalid.memory).2 (.inr ⟨?_, replay, hload, rfl⟩)⟩
      refine Option.eq_none_iff_forall_ne_some.2 fun written hwritten => hnot ?_
      obtain ⟨row, htarget, -⟩ := writeDelete_iff.1 hwritten
      exact ⟨hvalid, row, htarget⟩

theorem request_written {k : Nat} {item : MemoryItem} (h : Writes service item tables) : ∃ request,
      databaseRequestItem service clock k item tables =
        .ok (request, next service clock k item tables) := by
  obtain ⟨hvalid, row, htarget⟩ := h
  exact ⟨_, (databaseRequest_iff service clock).2
    (.inl ⟨⟨hvalid, row, htarget⟩, _, rfl, writeDelete_iff.2 ⟨row, htarget, rfl⟩⟩)⟩

def requests : Batches.Requests MemoryItem DeleteRequest MemoryTables StoreError String where
  key := MemoryItem.memoryId
  request := databaseRequestItem service clock
  Writes := Writes service
  next := next service clock
  Moved := Moved
  Apart := Apart service
  accepted_at := by
    intro k k' item tables result h
    rcases (databaseRequest_iff service clock).1 h with
      ⟨hwrites, -⟩ | ⟨hvalid, hnot, replay, hload, -⟩
    · obtain ⟨request, h⟩ := request_written service clock (k := k') hwrites
      exact ⟨_, h⟩
    · exact ⟨_, (databaseRequest_iff service clock).2 (.inr ⟨hvalid, hnot, replay, hload, rfl⟩)⟩
  ok := by
    intro k item tables request tables' h
    rcases (databaseRequest_iff service clock).1 h with
      ⟨hwrites, _, heq, -⟩ | ⟨-, hnot, replay, -, heq⟩
    · cases heq
      exact .inl ⟨hwrites, rfl⟩
    · cases heq
      exact .inr ⟨hnot, rfl⟩
  written := fun k item tables h => request_written service clock h
  moved_next := by
    rintro k item tables ⟨-, row, htarget⟩
    rw [Moved, get?_next_self htarget]
    rfl
  moved_other := by
    rintro k x y tables hne ⟨-, row, htarget⟩
    rw [Moved, Moved, get?_next htarget hne]
  writes_next := by
    rintro k x y tables hne ⟨-, row, htarget⟩
    unfold Writes
    simp only [target_next htarget hne, exists_and_right, and_assoc]
  apart_next := by
    rintro k x y z tables hy hz ⟨-, row, htarget⟩ - -
    constructor
    · rintro ⟨hkey, hevent, hoperation, hidempotency⟩
      rw [get?_next htarget hy, get?_next htarget hz] at hkey
      exact ⟨hkey, hevent, hoperation, hidempotency⟩
    · rintro ⟨hkey, hevent, hoperation, hidempotency⟩
      refine ⟨?_, hevent, hoperation, hidempotency⟩
      rw [get?_next htarget hy, get?_next htarget hz]
      exact hkey
  repeats_next := by
    rintro k k' x y tables result hne ⟨-, row, htarget⟩ hnot h
    rcases (databaseRequest_iff service clock).1 h with ⟨hwrites, -⟩ | ⟨hvalid, -, replay, hload, -⟩
    · exact absurd hwrites hnot
    by_cases hwrites : Writes service y tables
    · obtain ⟨request, h⟩ := request_written service clock (k := k') hwrites
      exact ⟨_, h⟩
    · exact ⟨_, (databaseRequest_iff service clock).2
        (.inr ⟨hvalid, hwrites, replay, replay_next htarget hne rfl rfl hload, rfl⟩)⟩

end Batch

/-! ## Sweeps -/

def expired (now : Instant) (tables : MemoryTables) : List MemoryItem :=
  (tables.items.values.filter fun row =>
    row.lifecycleStatus = some .active && row.ttlExpiresAt.any (· ≤ now)).map memoryFromRow

/-- An item has an owner, a subject and no empty key, so that its operation names it. -/
structure Owned (item : MemoryItem) : Prop where
  memory : item.memoryId ≠ ""
  tenant : truthy item.tenantId = true
  user : truthy item.userId = true
  subjectType : item.subjectType ≠ ""
  subjectId : item.subjectId ≠ ""
  key : item.memoryKey ≠ some ""

/-- The request of an expired item alone is written: its operation names it, no other item of
its key awaits a deletion, and the ids of the request are new. -/
structure Removable (service : MemoryLifecycleService) (tables : MemoryTables) (item : MemoryItem) :
    Prop where
  owned : Owned item
  key : ∀ key, item.memoryKey = some key → key.startsWith "legacy-memory:" = false
  free : ∀ row, tables.items.get? item.memoryId = some row → ∀ other ∈ tables.items.values,
    other.lifecycleStatus = some .deletionPending → sameKey row other = false
  event : tables.events.get? (eventId service item) = none
  operation : tables.operations.get? (indexOperationId service item) = none
  idempotency : ∀ other ∈ tables.operations.values,
    other.idempotencyKey ≠ idempotencyKey service item

/-- Every expired item whose own request is accepted awaits its deletion after a sweep. -/
def Isolates (service : MemoryLifecycleService) (clock : Nat → Instant) (now : Instant)
    (limit : Nat) (tables : MemoryTables) : Prop :=
  ∀ item ∈ expired now tables,
    (∃ k result, databaseRequestItem service clock k item tables = .ok result) →
      Moved item (databaseRunOnce service clock now limit tables).2

/-- No expired item whose request would be refused expires before one whose request would be
written, no request takes what the request of another item needs, and none is answered from an
earlier one. -/
structure InOrder (service : MemoryLifecycleService) (now : Instant) (tables : MemoryTables) :
    Prop where
  fresh : ∀ item ∈ expired now tables, Valid item → ∀ replay,
    tables.loadDeleteReplay item.memoryId (ttlOperation service item) (deletionEvent service item 0)
      (deletionIndex service item 0) ≠ .ok (some replay)
  order : ∀ x ∈ expired now tables, ∀ y ∈ expired now tables,
    MemoryStore.expiryKey x < MemoryStore.expiryKey y → Removable service tables y →
      Removable service tables x ∧ Apart service x y tables

section Sweeps

variable {service : MemoryLifecycleService} {clock : Nat → Instant} {now : Instant} {limit : Nat}
  {tables : MemoryTables} {item : MemoryItem}

theorem mem_expired : item ∈ expired now tables ↔
    ∃ row, tables.items.get? row.memoryId = some row ∧ row.lifecycleStatus = some .active ∧
      row.ttlExpiresAt.any (· ≤ now) = true ∧ memoryFromRow row = item := by
  simp only [expired, List.mem_map, List.mem_filter, Table.mem_values, Bool.and_eq_true,
    decide_eq_true_eq, and_assoc]

theorem nodup_expired : ((expired now tables).map MemoryItem.memoryId).Nodup := by
  rw [expired, List.map_map]
  refine List.Nodup.map_on ?_ (tables.items.values_nodup.filter _)
  exact fun x hx y hy => Table.eq_of_key (List.mem_of_mem_filter hx) (List.mem_of_mem_filter hy)

variable (service) in
/-- The owner and the key of an operation are those of an item that has them. -/
theorem owned_iff : Owned item ↔ Valid item ∧ IsTarget (ttlOperation service item) item := by
  have htenant : item.tenantId = some (orDefault item.tenantId "") ↔ item.tenantId ≠ none := by
    cases item.tenantId with
    | none => simp
    | some tenant => by_cases h : tenant = "" <;> simp [orDefault, Option.filter, h]
  have huser (hsubject : item.subjectId ≠ "") :
      item.userId = some (orDefault item.userId item.subjectId) ↔ truthy item.userId = true := by
    cases item.userId with
    | none => simp [truthy]
    | some user =>
      by_cases h : user = ""
      · simp [orDefault, Option.filter, truthy, h, Ne.symm hsubject]
      · simp [orDefault, Option.filter, truthy, h]
  have hkey : memoryKeyMatches item.memoryKey
      (orDefault item.memoryKey ("legacy-memory:" ++ item.memoryId)) = true ↔
        item.memoryKey ≠ some "" := by
    cases item.memoryKey with
    | none => simp [memoryKeyMatches, orDefault]
    | some key =>
      by_cases h : key = ""
      · simp [memoryKeyMatches, orDefault, Option.filter, h]
      · simp [memoryKeyMatches, orDefault, Option.filter, h]
  constructor
  · rintro ⟨hmemory, htruthy, howner, htype, hsubject, hnonempty⟩
    have hsome : item.tenantId ≠ none := by
      intro hnone
      rw [hnone] at htruthy
      cases htruthy
    refine ⟨⟨hmemory, htruthy, ?_, htype, hsubject⟩, htenant.2 hsome, (huser hsubject).2 howner,
      rfl, rfl, hkey.2 hnonempty⟩
    exact orDefault_ne_empty hsubject
  · rintro ⟨⟨hmemory, htruthy, -, htype, hsubject⟩, -, howner, -, -, hmatches⟩
    exact ⟨hmemory, htruthy, (huser hsubject).1 howner, htype, hsubject, hkey.1 hmatches⟩

/-- The request of a row is written exactly if the row is removable. -/
theorem writes_iff {row : MemoryItemModel} (hget : tables.items.get? row.memoryId = some row)
    (hactive : row.lifecycleStatus = some .active) :
    Writes service (memoryFromRow row) tables ↔ Removable service tables (memoryFromRow row) := by
  have hnames (howned : Owned (memoryFromRow row)) :
      Deletion.Names (ttlOperation service (memoryFromRow row)) (memoryFromRow row) := by
    obtain ⟨-, htarget⟩ := (owned_iff service).1 howned
    exact ⟨rfl, howned.memory, htarget.tenant, htarget.user, rfl, rfl, htarget.key, rfl⟩
  constructor
  · rintro ⟨hvalid, found, htarget⟩
    obtain rfl : row = found := Option.some.inj (hget.symm.trans htarget.get)
    have hnamed := htarget.named
    simp only [MemoryTables.isTarget, Bool.and_eq_true, decide_eq_true_eq] at hnamed
    obtain ⟨⟨⟨⟨⟨⟨htenant, huser⟩, -⟩, -⟩, hkey⟩, -⟩, -⟩ := hnamed
    have hmatches : memoryKeyMatches row.memoryKey
        (ttlOperation service (memoryFromRow row)).memoryKey = true := by
      unfold MemoryTables.databaseMemoryKeyCondition at hkey
      split at hkey
      · next hlegacy => simp [memoryKeyMatches, of_decide_eq_true hkey, hlegacy]
      · simp [memoryKeyMatches, of_decide_eq_true hkey]
    have howned : Owned (memoryFromRow row) :=
      (owned_iff service).2 ⟨hvalid, htenant, huser, rfl, rfl, hmatches⟩
    have hlegacy := ((Deletion.isTarget_iff (hnames howned)).1 htarget.named).2
    refine ⟨howned, hlegacy, ?_, htarget.event, htarget.operation, htarget.idempotency⟩
    intro other hother
    obtain rfl : row = other := Option.some.inj (hget.symm.trans hother)
    exact htarget.free
  · rintro ⟨howned, hkey, hfree, hevent, hoperation, hidempotency⟩
    obtain ⟨hvalid, -⟩ := (owned_iff service).1 howned
    refine ⟨hvalid, row, hget, ?_, hfree row hget, hevent, hoperation, hidempotency⟩
    exact (Deletion.isTarget_iff (hnames howned)).2 ⟨hactive, hkey⟩

theorem sweep_isolates_iff (hlimit : (expired now tables).length ≤ limit) :
    Isolates service clock now limit tables ↔ InOrder service now tables := by
  have hwrites : ∀ item ∈ expired now tables,
      (Writes service item tables ↔ Removable service tables item) := by
    intro item hitem
    obtain ⟨row, hget, hactive, -, rfl⟩ := mem_expired.1 hitem
    exact writes_iff hget hactive
  have hnot : ∀ item ∈ expired now tables, ¬(requests service clock).Moved item tables := by
    intro item hitem
    obtain ⟨row, hget, hactive, -, rfl⟩ := mem_expired.1 hitem
    show ¬(tables.items.get? row.memoryId).map (·.lifecycleStatus) = some (some .deletionPending)
    rw [hget, Option.map_some, hactive]
    simp
  refine (isolates_iff (requests service clock) rfl nodup_expired hnot hlimit).trans ?_
  constructor
  · rintro ⟨haccepted, horder⟩
    refine ⟨fun item hitem hvalid replay hload => ?_, fun x hx y hy hlt hy' => ?_⟩
    · have hnew : ¬Writes service item tables := by
        rintro ⟨-, row, htarget⟩
        have hnone : tables.events.get? (deletionEvent service item 0).eventId = none :=
          htarget.event
        simp [MemoryTables.loadDeleteReplay, hnone] at hload
      refine hnew (haccepted item hitem ⟨0, (replay, tables), ?_⟩)
      exact (databaseRequest_iff service clock).2 (.inr ⟨hvalid, hnew, replay, hload, rfl⟩)
    · obtain ⟨hx', hapart⟩ := horder x hx y hy hlt ((hwrites y hy).2 hy')
      exact ⟨(hwrites x hx).1 hx', hapart⟩
  · rintro ⟨hfresh, horder⟩
    refine ⟨?_, fun x hx y hy hlt hy' => ?_⟩
    · rintro item hitem ⟨k, result, h⟩
      rcases (databaseRequest_iff service clock).1 h with ⟨hw, -⟩ | ⟨hvalid, -, replay, hload, -⟩
      · exact hw
      · exact absurd hload (hfresh item hitem hvalid replay)
    · obtain ⟨hx', hapart⟩ := horder x hx y hy hlt ((hwrites y hy).1 hy')
      exact ⟨(hwrites x hx).2 hx', hapart⟩

end Sweeps

end OpenIntentRouter.Memories.DatabaseSweeps
