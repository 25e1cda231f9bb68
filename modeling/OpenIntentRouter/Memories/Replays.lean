import OpenIntentRouter.Memories.Deletion

/-!
# Replays of a lifecycle commit, in memory

An ADD, UPDATE or CONSOLIDATE that is applied a second time should return the
records of the first time and change nothing, whatever the index worker and
later updates did in between. Here for the store in memory.

* `Kept`: what a replay compares is there; `kept_apply`: after the first time;
  `kept_next`, `kept_foldl`: after what the worker and other updates do;
* `apply_replays`: the operation is replayed if, for an ADD, the metadata of the
  item is still what it carries. The index worker writes the provider id there.
-/
namespace OpenIntentRouter.Memories.Replays

open Core Core.Except Schemas Services Repositories.MemoryIndex Repositories.MemoryDatabase
open MemoryLifecycleService (Records)

/-! ## The checks of a replay -/

def SameEvent (a b : MemoryEvent) : Prop := a = { b with createdAt := a.createdAt }

/-- The same revision, but for its place in the history, its time and its confidence. -/
def SameRevision (a b : MemoryRevision) : Prop :=
  a =
    { b with
      revisionNo := a.revisionNo
      confidence := a.confidence
      supersedesRevisionId := a.supersedesRevisionId
      createdAt := a.createdAt }

/-- The fields of an item that neither an update nor the index worker changes. -/
structure SameItem (a b : MemoryItem) : Prop where
  memoryId : a.memoryId = b.memoryId
  tenantId : a.tenantId = b.tenantId
  userId : a.userId = b.userId
  subjectType : a.subjectType = b.subjectType
  subjectId : a.subjectId = b.subjectId
  agentId : a.agentId = b.agentId
  scope : a.scope = b.scope
  memoryKey : a.memoryKey = b.memoryKey
  source : a.source = b.source
  lifecycleStatus : a.lifecycleStatus = b.lifecycleStatus

theorem SameItem.refl (a : MemoryItem) : SameItem a a :=
  ⟨rfl, rfl, rfl, rfl, rfl, rfl, rfl, rfl, rfl, rfl⟩

theorem SameItem.trans {a b c : MemoryItem} (h : SameItem a b) (h' : SameItem b c) :
    SameItem a c where
  memoryId := h.memoryId.trans h'.memoryId
  tenantId := h.tenantId.trans h'.tenantId
  userId := h.userId.trans h'.userId
  subjectType := h.subjectType.trans h'.subjectType
  subjectId := h.subjectId.trans h'.subjectId
  agentId := h.agentId.trans h'.agentId
  scope := h.scope.trans h'.scope
  memoryKey := h.memoryKey.trans h'.memoryKey
  source := h.source.trans h'.source
  lifecycleStatus := h.lifecycleStatus.trans h'.lifecycleStatus

section Checks

theorem validateEventReplay_same {a b : MemoryEvent} (h : SameEvent a b)
    (hkeys : (Json.obj b.payload).distinctKeys = true) : validateEventReplay a b = .ok () := by
  rw [validateEventReplay, ensure_eq_ok, h]
  simp [JsonDict.pyEq_refl hkeys]

theorem validateRevisionReplay_same {a b : MemoryRevision} (h : SameRevision a b)
    (hkeys : (Json.obj b.structuredValue).distinctKeys = true) :
    validateRevisionReplay a b = .ok () ↔ a.confidence = b.confidence := by
  rw [validateRevisionReplay, ensure_eq_ok, h]
  simp [JsonDict.pyEq_refl hkeys]

theorem validateIndexReplay_same {a b : MemoryIndexOperation} (h : SameOperation a b) :
    validateIndexReplay a b = .ok () := by
  rw [validateIndexReplay, ensure_eq_ok]
  simp [h.id, h.idempotencyKey, h.operation, h.memoryId, h.revisionId, h.tenantId]

theorem validateItemReplay_same {a b : MemoryItem} (h : SameItem a b) :
    validateItemReplay a b = .ok () ↔ JsonDict.pyEq a.metadata b.metadata = true := by
  rw [validateItemReplay, ensure_eq_ok]
  simp [h.memoryId, h.tenantId, h.userId, h.subjectType, h.subjectId, h.agentId, h.scope,
    h.memoryKey, h.source]

end Checks

/-! ## Operations that commit -/

section Operations

variable (service : MemoryLifecycleService) (operation : MemoryLifecycleOperation)
  (candidate : MemoryFormationCandidate) (now : Instant)

/-- `apply`; the operations that commit nothing are left out.
mirrors app/services/memory_lifecycle.py:62-71 (`apply`) -/
def apply (store : MemoryStore) : Except StoreError (Commit × MemoryStore) :=
  match operation.operation with
  | .add => service.add operation candidate now store
  | .update | .consolidate => service.update operation candidate now store
  | _ => .error (.valueError "Unsupported lifecycle decision")

/-- `apply` with the store of the database. -/
def databaseApply (tables : MemoryTables) : Except StoreError (Commit × MemoryTables) :=
  match operation.operation with
  | .add => service.databaseAdd operation candidate now tables
  | .update | .consolidate => service.databaseUpdate operation candidate now tables
  | _ => .error (.valueError "Unsupported lifecycle decision")

def recordsOf : Records :=
  if operation.operation = .add then service.addRecords operation candidate now
  else service.updateRecords operation candidate (operation.memoryId.getD "") now

end Operations

/-! ## A history -/

/-- What the index worker does to the stores, call by call, and the update of an operation. -/
inductive Work where
  | claim (owner leaseToken : String) (now : Instant) (lease : Int) (tenantId : Option String)
  | complete (indexOperationId owner leaseToken : String) (now : Instant)
      (externalMemoryId : Option String) (resultMetadata : Option JsonDict)
  | fail (indexOperationId owner leaseToken : String) (now : Instant) (errorCode : String)
      (nextAttemptAt : Instant)
  | setIndexState (memoryId tenantId : String) (expectedRevisionId : Option String)
      (status : MemoryIndexStatus) (externalMemoryId : Option String) (updatedAt : Instant)
  | addEvent (event : MemoryEvent)
  | completeDeleteFromIndex (index : MemoryIndexOperation) (now : Instant)
      (providerStatus : Option String)
  | recordDeleteIndexFailure (index : MemoryIndexOperation) (errorCode : String)
      (deadLetter : Bool) (now : Instant)
  | update (operation : MemoryLifecycleOperation) (candidate : MemoryFormationCandidate)
      (now : Instant)

/-- The state after a call that returns, and the same state after one that raises. -/
def settled {σ α : Type} (before : σ) : Except StoreError (α × σ) → σ
  | .ok (_, after) => after
  | .error _ => before

theorem settled_keeps {σ α : Type} {P : σ → Prop} {before : σ} {call : Except StoreError (α × σ)}
    (hbefore : P before) (hcall : ∀ result after, call = .ok (result, after) → P after) :
    P (settled before call) := by
  match call, hcall with
  | .ok (result, after), hcall => exact hcall result after rfl
  | .error _, _ => exact hbefore

def next (service : MemoryLifecycleService) (store : MemoryStore) : Work → MemoryStore
  | .claim owner leaseToken now lease tenantId =>
    { store with operations := (claim owner leaseToken now lease tenantId store.operations).2 }
  | .complete id owner leaseToken now external metadata =>
    { store with
      operations := settled store.operations
        (complete id owner (some leaseToken) now external (metadata.getD []) store.operations) }
  | .fail id owner leaseToken now errorCode nextAttemptAt =>
    { store with
      operations := settled store.operations
        (fail id owner (some leaseToken) now errorCode nextAttemptAt store.operations) }
  | .setIndexState memoryId tenantId expected status external updatedAt =>
    (store.setIndexState memoryId tenantId expected status external updatedAt).2
  | .addEvent event => settled store ((fun store => ((), store)) <$> store.addEvent event)
  | .completeDeleteFromIndex index now providerStatus =>
    settled store (store.completeDeleteFromIndex service.sha256 index now providerStatus)
  | .recordDeleteIndexFailure index errorCode deadLetter now =>
    settled store (store.recordDeleteIndexFailure service.sha256 index errorCode deadLetter now)
  | .update operation candidate now => settled store (service.update operation candidate now store)

def databaseNext (service : MemoryLifecycleService) (tables : MemoryTables) : Work → MemoryTables
  | .claim owner leaseToken now lease tenantId =>
    (tables.claim owner leaseToken now lease tenantId).2
  | .complete id owner leaseToken now external metadata =>
    settled tables (tables.complete id owner leaseToken now external metadata)
  | .fail id owner leaseToken now errorCode nextAttemptAt =>
    settled tables (tables.fail id owner leaseToken now errorCode nextAttemptAt)
  | .setIndexState memoryId tenantId expected status external updatedAt =>
    (tables.setIndexState memoryId tenantId expected status external updatedAt).2
  | .addEvent event => settled tables ((fun tables => ((), tables)) <$> tables.addEvent event)
  | .completeDeleteFromIndex index now providerStatus =>
    settled tables (tables.completeDeleteFromIndex service.sha256 index now providerStatus)
  | .recordDeleteIndexFailure index errorCode deadLetter now =>
    settled tables (tables.recordDeleteIndexFailure service.sha256 index errorCode deadLetter now)
  | .update operation candidate now =>
    settled tables (service.databaseUpdate operation candidate now tables)

def Other (service : MemoryLifecycleService) (records : Records) : Work → Prop
  | .update operation candidate now =>
    let others := service.updateRecords operation candidate (operation.memoryId.getD "") now
    others.revision.revisionId ≠ records.revision.revisionId ∧
      others.indexOperation.indexOperationId ≠ records.indexOperation.indexOperationId
  | _ => True

/-! ## In memory -/

structure Kept (records : Records) (item : MemoryItem) (store : MemoryStore) : Prop where
  event : ∃ stored, store.events.find? (·.eventId = records.event.eventId) = some stored ∧
    SameEvent stored records.event
  item : ∃ stored, store.items.get? records.revision.memoryId = some stored ∧
    SameItem stored item
  revision : ∃ stored,
    (store.history records.revision.memoryId).find?
      (·.revisionId = records.revision.revisionId) = some stored ∧
    SameRevision stored records.revision ∧ stored.confidence = records.revision.confidence
  index : ∃ stored,
    store.operations.get? records.indexOperation.indexOperationId = some stored ∧
    SameOperation stored records.indexOperation
  only : ∀ stored ∈ store.operations.values, stored.memoryId = records.revision.memoryId →
    stored.revisionId = some records.revision.revisionId →
    stored.indexOperationId = records.indexOperation.indexOperationId

theorem get?_put_same {items : Table MemoryItem.memoryId} {found updated stored : MemoryItem}
    {id : String} (hfound : items.get? found.memoryId = some found) (hsame : SameItem updated found)
    (hget : items.get? id = some stored) :
    ∃ stored', (items.put updated).get? id = some stored' ∧ SameItem stored' stored := by
  rw [Table.get?_put, hsame.memoryId]
  split
  · next hid =>
    rw [hid, hget, Option.some.injEq] at hfound
    exact ⟨updated, rfl, hfound ▸ hsame⟩
  · exact ⟨stored, hget, .refl stored⟩

theorem history_write (store : MemoryStore) (item : MemoryItem) (revisions : List MemoryRevision)
    (event : MemoryEvent) (index : MemoryIndexOperation) (memoryId : String) :
    (store.write item revisions event index).history memoryId =
      if item.memoryId = memoryId then revisions else store.history memoryId :=
  Ledger.history_set ..

variable {memoryId : String} {event : MemoryEvent} {revision : MemoryRevision}
  {index : MemoryIndexOperation}

section Memory

variable {service : MemoryLifecycleService} {records : Records} {item : MemoryItem}
  {store store' : MemoryStore}

/-- What a step may do: append events and revisions, replace the item by one that is the same,
move operations on, and add operations of other revisions. -/
theorem Kept.of (hk : Kept records item store)
    (hevents : ∃ more, store'.events = store.events ++ more)
    (hitem : ∀ stored, store.items.get? records.revision.memoryId = some stored →
      ∃ stored', store'.items.get? records.revision.memoryId = some stored' ∧
        SameItem stored' stored)
    (hhistory : ∃ more, store'.history records.revision.memoryId =
      store.history records.revision.memoryId ++ more)
    (hindex : ∀ stored,
      store.operations.get? records.indexOperation.indexOperationId = some stored →
      ∃ stored', store'.operations.get? records.indexOperation.indexOperationId = some stored' ∧
        SameOperation stored' stored)
    (honly : ∀ stored' ∈ store'.operations.values,
      (∃ stored ∈ store.operations.values, SameOperation stored' stored) ∨
        stored'.revisionId ≠ some records.revision.revisionId) :
    Kept records item store' where
  event := by
    obtain ⟨stored, hfind, hsame⟩ := hk.event
    obtain ⟨more, hmore⟩ := hevents
    exact ⟨stored, by rw [hmore, List.find?_append, hfind]; rfl, hsame⟩
  item := by
    obtain ⟨stored, hget, hsame⟩ := hk.item
    obtain ⟨stored', hget', hsame'⟩ := hitem stored hget
    exact ⟨stored', hget', hsame'.trans hsame⟩
  revision := by
    obtain ⟨stored, hfind, hsame⟩ := hk.revision
    obtain ⟨more, hmore⟩ := hhistory
    exact ⟨stored, by rw [hmore, List.find?_append, hfind]; rfl, hsame⟩
  index := by
    obtain ⟨stored, hget, hsame⟩ := hk.index
    obtain ⟨stored', hget', hsame'⟩ := hindex stored hget
    exact ⟨stored', hget', hsame'.trans hsame⟩
  only := by
    intro stored' hmem hmemory hrevision
    obtain ⟨stored, hstored, hsame⟩ | hother := honly stored' hmem
    · rw [hsame.id]
      exact hk.only stored hstored (hsame.memoryId ▸ hmemory) (hsame.revisionId ▸ hrevision)
    · exact (hother hrevision).elim

theorem Kept.operations (hk : Kept records item store) {operations : IndexOperations}
    (h : SameOperations store.operations operations) :
    Kept records item { store with operations } :=
  hk.of ⟨[], (List.append_nil _).symm⟩ (fun stored hget => ⟨stored, hget, .refl stored⟩)
    ⟨[], (List.append_nil _).symm⟩ (fun _ hget => h.get? hget) fun _ hmem => .inl (h.mem_values hmem)

/-- The tables of items, revisions and events change, the outbox stays. -/
theorem Kept.of_operations (hk : Kept records item store)
    (hevents : ∃ more, store'.events = store.events ++ more)
    (hitem : ∀ stored, store.items.get? records.revision.memoryId = some stored →
      ∃ stored', store'.items.get? records.revision.memoryId = some stored' ∧
        SameItem stored' stored)
    (hhistory : store'.history records.revision.memoryId =
      store.history records.revision.memoryId)
    (hoperations : store'.operations = store.operations) : Kept records item store' :=
  hk.of hevents hitem ⟨[], by rw [hhistory, List.append_nil]⟩
    (fun stored hget => ⟨stored, by rw [hoperations]; exact hget, .refl stored⟩)
    fun stored hmem => .inl ⟨stored, by rw [← hoperations]; exact hmem, .refl stored⟩

theorem kept_setIndexState (hk : Kept records item store) {tenantId : String}
    {expected external : Option String} {status : MemoryIndexStatus} {updatedAt : Instant} :
    Kept records item (store.setIndexState memoryId tenantId expected status external updatedAt).2 := by
  unfold MemoryStore.setIndexState
  split
  · exact hk
  · next found hfound =>
    split
    · exact hk
    · obtain rfl : found.memoryId = memoryId := memoryId_of_get? hfound
      refine hk.of_operations ⟨[], (List.append_nil _).symm⟩ ?_ rfl rfl
      exact fun stored hget =>
        get?_put_same hfound ⟨rfl, rfl, rfl, rfl, rfl, rfl, rfl, rfl, rfl, rfl⟩ hget

theorem kept_addEvent (hk : Kept records item store) (h : store.addEvent event = .ok store') :
    Kept records item store' := by
  unfold MemoryStore.addEvent at h
  split at h
  · obtain ⟨_, -, h⟩ := bind_eq_ok.1 h
    cases h
    exact hk
  · cases h
    exact hk.of_operations ⟨_, rfl⟩ (fun stored hget => ⟨stored, hget, .refl stored⟩) rfl rfl

/-- A deletion ends for a memory that awaits it, not for the active one. -/
theorem Kept.pending_ne (hk : Kept records item store) (hactive : item.lifecycleStatus = .active)
    {pending : MemoryItem} (hget : store.items.get? memoryId = some pending)
    (hpending : pending.lifecycleStatus = .deletionPending) :
    memoryId ≠ records.revision.memoryId := by
  rintro rfl
  obtain ⟨stored, hstored, hsame⟩ := hk.item
  rw [hget, Option.some.injEq] at hstored
  subst hstored
  rw [hsame.lifecycleStatus, hactive] at hpending
  cases hpending

theorem kept_remove (hk : Kept records item store) {tombstone : MemoryEvent}
    (hne : memoryId ≠ records.revision.memoryId) :
    Kept records item (store.remove memoryId tombstone) := by
  refine hk.of_operations ⟨_, rfl⟩ (fun stored hget => ⟨stored, ?_, .refl stored⟩) ?_ rfl
  · exact (Dict.get?_erase ..).trans ((if_neg hne).trans hget)
  · show ((store.revisions.erase memoryId).get? _).getD [] = _
    rw [Dict.get?_erase, if_neg hne]
    rfl

theorem kept_writeFailure (hk : Kept records item store) {pending : MemoryItem} {deadLetter : Bool}
    (hget : store.items.get? memoryId = some pending) (hne : memoryId ≠ records.revision.memoryId) :
    Kept records item (store.writeFailure memoryId pending event deadLetter) := by
  obtain rfl : pending.memoryId = memoryId := memoryId_of_get? hget
  refine hk.of_operations ⟨_, rfl⟩ (fun stored hstored => ⟨stored, ?_, .refl stored⟩) ?_ rfl
  · refine (Table.get?_put_ne _ ?_).trans hstored
    cases deadLetter <;> exact hne
  · cases deadLetter with
    | false => rfl
    | true =>
      show ((store.revisions.set _ _).get? _).getD [] = _
      rw [Dict.get?_set_ne _ _ hne]
      rfl

/-- An update of another operation, of this memory or another one. -/
theorem kept_update (hk : Kept records item store) {operation : MemoryLifecycleOperation}
    {candidate : MemoryFormationCandidate} {now : Instant} {commit : Commit}
    (hother : Other service records (.update operation candidate now))
    (h : service.update operation candidate now store = .ok (commit, store')) :
    Kept records item store' := by
  obtain ⟨memoryId, ⟨hid, -⟩, hcall⟩ := MemoryLifecycleService.update_ok h
  obtain ⟨-, rfl⟩ | ⟨found, haccepted, -, rfl⟩ := commitUpdate_ok hcall
  · exact hk
  obtain ⟨hrevision, hindexId⟩ := hother
  have hnamed := haccepted.named
  rw [hid, Option.some.injEq] at hnamed
  subst hnamed
  simp only [hid, Option.getD_some] at hrevision hindexId
  refine hk.of ⟨_, rfl⟩ ?_ ?_ ?_ ?_
  · exact fun stored hget =>
      get?_put_same haccepted.stored ⟨rfl, rfl, rfl, rfl, rfl, rfl, rfl, rfl, rfl, rfl⟩ hget
  · rw [history_write]
    split
    · next hm =>
      have hm : found.memoryId = records.revision.memoryId := hm
      exact ⟨_, by rw [hm]⟩
    · exact ⟨[], (List.append_nil _).symm⟩
  · intro stored hget
    exact ⟨stored, (Table.get?_put_ne _ hindexId).trans hget, .refl stored⟩
  · intro stored hmem
    obtain rfl | hmem := Table.mem_values_put hmem
    · right
      intro hsame
      exact hrevision (Option.some.inj hsame)
    · exact .inl ⟨stored, hmem, .refl stored⟩

theorem kept_next (hk : Kept records item store) (hactive : item.lifecycleStatus = .active)
    {work : Work} (hother : Other service records work) :
    Kept records item (next service store work) := by
  cases work with
  | claim owner leaseToken now lease tenantId =>
    exact hk.operations (claim_same owner leaseToken now lease tenantId store.operations)
  | complete id owner leaseToken now external metadata =>
    exact hk.operations (settled_keeps (.refl _) fun _ _ hcall => complete_same hcall)
  | fail id owner leaseToken now errorCode nextAttemptAt =>
    exact hk.operations (settled_keeps (.refl _) fun _ _ hcall => fail_same hcall)
  | setIndexState memoryId tenantId expected status external updatedAt => exact kept_setIndexState hk
  | addEvent event =>
    refine settled_keeps hk fun _ after hcall => ?_
    obtain ⟨_, hcall, ⟨⟩⟩ := map_eq_ok.1 hcall
    exact kept_addEvent hk hcall
  | completeDeleteFromIndex index now providerStatus =>
    refine settled_keeps hk fun _ after hcall => ?_
    obtain ⟨-, ⟨-, rfl, -⟩ | ⟨pending, hget, -, hpending, -, -, rfl⟩⟩ :=
      completeDeleteFromIndex_ok hcall
    · exact hk
    · exact kept_remove hk (hk.pending_ne hactive hget hpending)
  | recordDeleteIndexFailure index errorCode deadLetter now =>
    refine settled_keeps hk fun _ after hcall => ?_
    obtain ⟨pending, hget, -, hpending, -, ⟨-, rfl, -⟩ | ⟨event, -, -, -, rfl⟩⟩ :=
      recordDeleteIndexFailure_ok hcall
    · exact hk
    · exact kept_writeFailure hk hget (hk.pending_ne hactive hget hpending)
  | update operation candidate now =>
    exact settled_keeps hk fun _ after hcall => kept_update hk hother hcall

theorem kept_foldl (hactive : item.lifecycleStatus = .active) {works : List Work}
    (hother : ∀ work ∈ works, Other service records work) (hk : Kept records item store) :
    Kept records item (works.foldl (next service) store) := by
  induction works generalizing store with
  | nil => exact hk
  | cons work rest ih =>
    exact ih (fun w hw => hother w (List.mem_cons_of_mem _ hw))
      (kept_next hk hactive (hother work List.mem_cons_self))

end Memory

/-! ## The first time and the second time -/

structure New (records : Records) (store : MemoryStore) : Prop where
  revision : ∀ stored ∈ store.history records.revision.memoryId,
    stored.revisionId ≠ records.revision.revisionId
  index : ∀ stored ∈ store.operations.values, stored.memoryId = records.revision.memoryId →
    stored.revisionId ≠ some records.revision.revisionId

/-- The item is the one that the operation added, or the one that it names. -/
structure Owned (service : MemoryLifecycleService) (operation : MemoryLifecycleOperation)
    (candidate : MemoryFormationCandidate) (item : MemoryItem) : Prop where
  accepted : operation.decisionStatus = .accepted
  active : item.lifecycleStatus = .active
  added : operation.operation = .add → ∀ now,
    SameItem item (service.newItem operation candidate (service.addedMemoryId operation) now)
  named : operation.operation ≠ .add →
    operation.memoryId = some item.memoryId ∧ item.memoryId ≠ "" ∧ IsTarget operation item

theorem SameItem.isTarget {a b : MemoryItem} {operation : MemoryLifecycleOperation}
    (h : SameItem a b) (ht : IsTarget operation b) : IsTarget operation a where
  tenant := h.tenantId.trans ht.tenant
  user := h.userId.trans ht.user
  subjectType := h.subjectType.trans ht.subjectType
  subjectId := h.subjectId.trans ht.subjectId
  key := by rw [h.memoryKey]; exact ht.key

section Memory

variable {service : MemoryLifecycleService} {operation : MemoryLifecycleOperation}
  {candidate : MemoryFormationCandidate} {now later : Instant} {records : Records}
  {item : MemoryItem} {store store' : MemoryStore} {commit : Commit}

theorem kept_write (revisions : List MemoryRevision) {revision : MemoryRevision}
    (hevent : store.events.find? (·.eventId = records.event.eventId) = none)
    (hmemory : item.memoryId = records.revision.memoryId)
    (hrevision : SameRevision revision records.revision ∧
      revision.confidence = records.revision.confidence)
    (hnew : New records store)
    (hrevisions : ∀ stored ∈ revisions, stored.revisionId ≠ records.revision.revisionId) :
    Kept records item (store.write item (revisions ++ [revision]) records.event
      records.indexOperation) where
  event := by
    refine ⟨records.event, ?_, rfl⟩
    show (store.events ++ [records.event]).find? _ = _
    rw [List.find?_append, hevent, Option.none_or]
    simp
  item := ⟨item, (Table.get?_put ..).trans (if_pos hmemory), .refl item⟩
  revision := by
    have hid : revision.revisionId = records.revision.revisionId := by rw [hrevision.1]
    refine ⟨revision, ?_, hrevision⟩
    rw [history_write, if_pos hmemory, List.find?_append, List.find?_eq_none.2, Option.none_or]
    · simp [hid]
    · intro stored hmem
      simpa using hrevisions stored hmem
  index := ⟨_, Table.get?_put_self .., .refl _⟩
  only := by
    intro stored hmem hmemory hid
    obtain rfl | hmem := Table.mem_values_put hmem
    · rfl
    · exact (hnew.index stored hmem hmemory hid).elim

theorem accepted_of_add (h : service.add operation candidate now store = .ok (commit, store')) :
    operation.decisionStatus = .accepted := by
  obtain ⟨_, haccepted, -⟩ := bind_eq_ok.1 h
  rw [requireAccepted, ensure_eq_ok, Bool.and_eq_true] at haccepted
  exact of_decide_eq_true haccepted.2

theorem accepted_of_update (h : service.update operation candidate now store = .ok (commit, store')) :
    operation.decisionStatus = .accepted := by
  obtain ⟨_, haccepted, -⟩ := bind_eq_ok.1 h
  exact of_decide_eq_true (ensure_eq_ok.1 haccepted)

theorem kept_add (hadd : operation.operation = .add)
    (hnew : New (recordsOf service operation candidate now) store)
    (h : service.add operation candidate now store = .ok (commit, store'))
    (hfirst : commit.replay = false) :
    ∃ item, Kept (recordsOf service operation candidate now) item store' ∧
      Owned service operation candidate item := by
  rw [recordsOf, if_pos hadd] at hnew ⊢
  obtain ⟨hreplay, -⟩ | ⟨haccepted, -, rfl⟩ := commitAdd_ok (MemoryLifecycleService.add_ok h)
  · rw [hfirst] at hreplay
    cases hreplay
  · refine ⟨_, kept_write [] haccepted.newEvent rfl ⟨rfl, rfl⟩ hnew (by simp),
      accepted_of_add h, rfl, fun _ _ => ⟨rfl, rfl, rfl, rfl, rfl, rfl, rfl, rfl, rfl, rfl⟩, fun hne => (hne hadd).elim⟩

theorem kept_firstUpdate (hadd : operation.operation ≠ .add)
    (hnew : New (recordsOf service operation candidate now) store)
    (h : service.update operation candidate now store = .ok (commit, store'))
    (hfirst : commit.replay = false) :
    ∃ item, Kept (recordsOf service operation candidate now) item store' ∧
      Owned service operation candidate item := by
  obtain ⟨memoryId, ⟨hid, hnonempty⟩, hcall⟩ := MemoryLifecycleService.update_ok h
  rw [recordsOf, if_neg hadd, hid, Option.getD_some] at hnew ⊢
  obtain ⟨hreplay, -⟩ | ⟨found, haccepted, -, rfl⟩ := commitUpdate_ok hcall
  · rw [hfirst] at hreplay
    cases hreplay
  · have hnamed := haccepted.named
    rw [hid, Option.some.injEq] at hnamed
    subst hnamed
    refine ⟨_, kept_write _ haccepted.newEvent rfl ⟨rfl, rfl⟩ hnew hnew.revision,
      accepted_of_update h, haccepted.active,
      fun ha => (hadd ha).elim, fun _ => ⟨hid, hnonempty, ?_⟩⟩
    exact SameItem.isTarget (b := found) ⟨rfl, rfl, rfl, rfl, rfl, rfl, rfl, rfl, rfl, rfl⟩
      haccepted.target

/-- The first application of an operation leaves its records. -/
theorem kept_apply (hnew : New (recordsOf service operation candidate now) store)
    (h : apply service operation candidate now store = .ok (commit, store'))
    (hfirst : commit.replay = false) :
    ∃ item, Kept (recordsOf service operation candidate now) item store' ∧
      Owned service operation candidate item := by
  unfold apply at h
  split at h
  · next hadd => exact kept_add hadd hnew h hfirst
  · next hupdate => exact kept_firstUpdate (by rw [hupdate]; decide) hnew h hfirst
  · next hconsolidate => exact kept_firstUpdate (by rw [hconsolidate]; decide) hnew h hfirst
  · cases h

theorem SameOperations.find_only {operations : IndexOperations} {revisionId : String}
    {stored : MemoryIndexOperation} (hget : operations.get? stored.indexOperationId = some stored)
    (hmatches : stored.memoryId = memoryId ∧ stored.revisionId = some revisionId)
    (honly : ∀ other ∈ operations.values, other.memoryId = memoryId →
      other.revisionId = some revisionId → other.indexOperationId = stored.indexOperationId) :
    (operations.values.find? fun other =>
      other.memoryId = memoryId && other.revisionId = some revisionId) = some stored := by
  have hmem := (Table.mem_values _ _).2 hget
  obtain ⟨found, hfound⟩ : ∃ found, (operations.values.find? fun other =>
      other.memoryId = memoryId && other.revisionId = some revisionId) = some found := by
    rw [← Option.isSome_iff_exists, List.find?_isSome]
    exact ⟨stored, hmem, by simp [hmatches]⟩
  have htest := List.find?_some hfound
  rw [Bool.and_eq_true, decide_eq_true_eq, decide_eq_true_eq] at htest
  have hfoundMem := List.mem_of_find?_eq_some hfound
  have hid := honly found hfoundMem htest.1 htest.2
  rw [Table.mem_values, hid, hget, Option.some.injEq] at hfoundMem
  rw [hfound, hfoundMem]

/-- What `_load_replay` finds of a commit that is kept passes all checks but that of the item. -/
theorem loadReplay_kept (hk : Kept records item store)
    (hindex : records.indexOperation.memoryId = records.revision.memoryId ∧
      records.indexOperation.revisionId = some records.revision.revisionId)
    (hpayload : (Json.obj records.event.payload).distinctKeys = true)
    (hvalue : (Json.obj records.revision.structuredValue).distinctKeys = true)
    (validateItem : MemoryItem → Checked) :
    (∃ replay, store.loadReplay records.event records.revision records.indexOperation validateItem =
        .ok (some replay)) ↔
      ∃ stored, store.items.get? records.revision.memoryId = some stored ∧
        validateItem stored = .ok () := by
  obtain ⟨event, hevent, hsameEvent⟩ := hk.event
  obtain ⟨stored, hitem, -⟩ := hk.item
  obtain ⟨revision, hrevision, hsameRevision, hconfidence⟩ := hk.revision
  obtain ⟨index, hget, hsameIndex⟩ := hk.index
  have hfind := SameOperations.find_only (by rw [hsameIndex.id]; exact hget)
    ⟨hsameIndex.memoryId.trans hindex.1, hsameIndex.revisionId.trans hindex.2⟩
    (by rw [hsameIndex.id]; exact hk.only)
  constructor
  · rintro ⟨replay, hreplay⟩
    obtain ⟨-, hstored, -, -, -, -, -, hvalid, -⟩ := loadReplay_some.1 hreplay
    exact ⟨replay.item, hstored, hvalid⟩
  · rintro ⟨stored, hstored, hvalid⟩
    refine ⟨⟨stored, revision, event, index, true⟩, loadReplay_some.2 ⟨hevent, hstored, hrevision,
      hfind, validateEventReplay_same hsameEvent hpayload, ?_, validateIndexReplay_same hsameIndex,
      hvalid, rfl⟩⟩
    exact (validateRevisionReplay_same hsameRevision hvalue).2 hconfidence

theorem Kept.at_later (hk : Kept (recordsOf service operation candidate now) item store) :
    Kept (recordsOf service operation candidate later) item store := by
  obtain ⟨index, hget, hsame⟩ := hk.index
  unfold recordsOf at hk hget hsame ⊢
  split
  · next hadd =>
    rw [if_pos hadd] at hk hget hsame
    exact ⟨hk.event, hk.item, hk.revision,
      ⟨index, hget, hsame.trans ⟨rfl, rfl, rfl, rfl, rfl, rfl⟩⟩, hk.only⟩
  · next hadd =>
    rw [if_neg hadd] at hk hget hsame
    exact ⟨hk.event, hk.item, hk.revision,
      ⟨index, hget, hsame.trans ⟨rfl, rfl, rfl, rfl, rfl, rfl⟩⟩, hk.only⟩

theorem recordsOf_index :
    (recordsOf service operation candidate now).indexOperation.memoryId =
        (recordsOf service operation candidate now).revision.memoryId ∧
      (recordsOf service operation candidate now).indexOperation.revisionId =
        some (recordsOf service operation candidate now).revision.revisionId := by
  unfold recordsOf
  split <;> exact ⟨rfl, rfl⟩

theorem recordsOf_keys :
    (Json.obj (recordsOf service operation candidate now).event.payload).distinctKeys = true ∧
      (Json.obj (recordsOf service operation candidate now).revision.structuredValue).distinctKeys =
        true := by
  unfold recordsOf
  split
  · exact ⟨service.distinctKeys_decisionEvent _ _ _, candidate.structuredValue_keys⟩
  · exact ⟨service.distinctKeys_decisionEvent _ _ _, candidate.structuredValue_keys⟩

def IsReplay {σ : Type} (call : Except StoreError (Commit × σ)) (state : σ) : Prop :=
  ∃ commit, call = .ok (commit, state) ∧ commit.replay = true

theorem commitAdd_replays (hevent : store.events.find? (·.eventId = event.eventId) ≠ none) :
    IsReplay (store.commitAdd item revision event index) store ↔
      ∃ replay, store.loadReplay event revision index (validateItemReplay · item) =
        .ok (some replay) := by
  constructor
  · rintro ⟨commit, h, -⟩
    obtain ⟨replay, hreplay, -⟩ := bind_eq_ok.1 h
    cases replay with
    | none => exact (hevent (loadReplay_none.1 hreplay)).elim
    | some replay => exact ⟨replay, hreplay⟩
  · rintro ⟨replay, hreplay⟩
    exact ⟨replay, bind_eq_ok.2 ⟨_, hreplay, rfl⟩,
      (loadReplay_some.1 hreplay).2.2.2.2.2.2.2.2⟩

theorem commitUpdate_replays {values : UpdateValues}
    (hevent : store.events.find? (·.eventId = event.eventId) ≠ none)
    (hid : requiredMemoryId operation = .ok memoryId) :
    IsReplay (store.commitUpdate operation revision event index values) store ↔
      ∃ replay, store.loadReplay event revision index
        (fun item => (fun _ => ()) <$> validateOperationTarget (some item) operation false) =
          .ok (some replay) := by
  unfold MemoryStore.commitUpdate
  rw [hid, ok_bind]
  constructor
  · rintro ⟨commit, h, -⟩
    obtain ⟨replay, hreplay, -⟩ := bind_eq_ok.1 h
    cases replay with
    | none => exact (hevent (loadReplay_none.1 hreplay)).elim
    | some replay => exact ⟨replay, hreplay⟩
  · rintro ⟨replay, hreplay⟩
    exact ⟨replay, bind_eq_ok.2 ⟨_, hreplay, rfl⟩,
      (loadReplay_some.1 hreplay).2.2.2.2.2.2.2.2⟩

def MetadataKept (operation : MemoryLifecycleOperation) (item : Option MemoryItem) : Prop :=
  operation.operation = .add → ∀ stored, item = some stored →
    JsonDict.pyEq stored.metadata operation.metadata = true

theorem add_replays (hk : Kept (recordsOf service operation candidate now) item store)
    (howned : Owned service operation candidate item) (hadd : operation.operation = .add) :
    IsReplay (service.add operation candidate now store) store ↔
      MetadataKept operation (store.items.get? (service.addedMemoryId operation)) := by
  have hcall : service.add operation candidate now store =
      store.commitAdd (service.newItem operation candidate (service.addedMemoryId operation) now)
        (service.addRecords operation candidate now).revision
        (service.addRecords operation candidate now).event
        (service.addRecords operation candidate now).indexOperation := by
    simp [MemoryLifecycleService.add, requireAccepted, Except.ensure, hadd, howned.accepted]
  have hrecords : recordsOf service operation candidate now =
      service.addRecords operation candidate now := if_pos hadd
  have hload := loadReplay_kept hk recordsOf_index recordsOf_keys.1 recordsOf_keys.2
    (validateItemReplay · (service.newItem operation candidate (service.addedMemoryId operation) now))
  obtain ⟨event, hevent, -⟩ := hk.event
  obtain ⟨stored, hstored, hsame⟩ := hk.item
  rw [hrecords] at hload hevent hstored
  rw [hcall, commitAdd_replays (by rw [hevent]; exact Option.some_ne_none _), hload, MetadataKept]
  have hget : store.items.get? (service.addedMemoryId operation) = some stored := hstored
  have hitem := validateItemReplay_same (hsame.trans (howned.added hadd now))
  rw [hget]
  constructor
  · rintro ⟨found, hfound, hvalid⟩ - _ ⟨⟩
    rw [hstored, Option.some.injEq] at hfound
    subst hfound
    exact hitem.1 hvalid
  · intro h
    exact ⟨stored, hstored, hitem.2 (h hadd stored rfl)⟩

theorem update_replays (hk : Kept (recordsOf service operation candidate now) item store)
    (howned : Owned service operation candidate item) (hadd : operation.operation ≠ .add) :
    IsReplay (service.update operation candidate now store) store := by
  obtain ⟨hid, hnonempty, htarget⟩ := howned.named hadd
  have hcall : service.update operation candidate now store =
      store.commitUpdate operation
        (service.updateRecords operation candidate item.memoryId now).revision
        (service.updateRecords operation candidate item.memoryId now).event
        (service.updateRecords operation candidate item.memoryId now).indexOperation
        (MemoryLifecycleService.updateValues operation candidate) := by
    simp [MemoryLifecycleService.update, Except.ensure, howned.accepted, lifecycleMemoryId, hid,
      hnonempty]
  have hrecords : recordsOf service operation candidate now =
      service.updateRecords operation candidate item.memoryId now := by
    rw [recordsOf, if_neg hadd, hid, Option.getD_some]
  have hload := loadReplay_kept hk recordsOf_index recordsOf_keys.1 recordsOf_keys.2 fun item =>
    (fun _ => ()) <$> validateOperationTarget (some item) operation false
  obtain ⟨event, hevent, -⟩ := hk.event
  obtain ⟨stored, hstored, hsame⟩ := hk.item
  rw [hrecords] at hload hevent hstored
  have hrequired : requiredMemoryId operation = .ok item.memoryId := by
    rw [requiredMemoryId, hid]
    exact if_pos hnonempty
  rw [hcall, commitUpdate_replays (by rw [hevent]; exact Option.some_ne_none _) hrequired, hload]
  refine ⟨stored, hstored, map_eq_ok.2 ⟨stored, ?_, rfl⟩⟩
  exact validateOperationTarget_iff.2 ⟨rfl, hsame.isTarget htarget, fun h => by cases h⟩

theorem apply_replays (hk : Kept (recordsOf service operation candidate now) item store)
    (howned : Owned service operation candidate item)
    (hcommits : operation.operation = .add ∨ operation.operation = .update ∨
      operation.operation = .consolidate) :
    IsReplay (apply service operation candidate now store) store ↔
      MetadataKept operation (store.items.get? (service.addedMemoryId operation)) := by
  rcases hcommits with hkind | hkind | hkind
  all_goals unfold apply; rw [hkind]
  · exact add_replays hk howned hkind
  all_goals
    refine iff_of_true (update_replays hk howned (by rw [hkind]; decide)) ?_
    intro hadd
    rw [hkind] at hadd
    cases hadd

end Memory

end OpenIntentRouter.Memories.Replays
