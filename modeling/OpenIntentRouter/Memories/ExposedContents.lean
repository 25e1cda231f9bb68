import OpenIntentRouter.Memories.Replays
import OpenIntentRouter.Services.MemoryIndexing

/-!
# What is left of a memory that is being deleted

The content of an item whose deletion is pending is exposed until the item and
its revisions are scrubbed or gone. A call is quiet if it exposes no content and
gives no index operation up; but for a request to delete, a claim and a failure
all calls are. `StoreLaws` is what the store in memory and the database have in
common.
-/
namespace OpenIntentRouter.Memories

open Core Core.Except Schemas Repositories Repositories.MemoryIndex Services Replays

/-- The deletion of an item is pending, and the operation is the one that does it. -/
structure Deleting (item : MemoryItem) (index : MemoryIndexOperation) : Prop where
  memoryId : item.memoryId = index.memoryId
  tenantId : item.tenantId = some index.tenantId
  pending : item.lifecycleStatus = .deletionPending
  revisionId : item.currentRevisionId = index.revisionId

structure Scrubbed (item : MemoryItem) (history : List MemoryRevision) : Prop where
  content : item.content = ""
  structuredValue : item.structuredValue = []
  canonicalRefs : item.canonicalRefs = []
  revisions : ∀ revision ∈ history,
    revision.content = "" ∧ revision.structuredValue = [] ∧ revision.evidenceRefs = []

structure MemoryView where
  item : String → Option MemoryItem
  history : String → List MemoryRevision
  operations : IndexOperations

/-- The deletion that the operation does is pending, and the content is still there. -/
def MemoryView.Exposed (view : MemoryView) (index : MemoryIndexOperation) : Prop :=
  ∃ item, view.item index.memoryId = some item ∧ Deleting item index ∧
    ¬Scrubbed item (view.history index.memoryId)

structure MemoryView.Neglected (view : MemoryView) (index : MemoryIndexOperation) : Prop where
  delete : index.operation = .delete
  status : index.status = .deadLetter
  stored : view.operations.get? index.indexOperationId = some index
  exposed : view.Exposed index

structure Quiet (view view' : MemoryView) : Prop where
  stored : ∀ index, index.status = .deadLetter →
    view'.operations.get? index.indexOperationId = some index →
    view.operations.get? index.indexOperationId = some index
  exposed : ∀ index, view'.Exposed index → view.Exposed index

variable {operation index pending : MemoryIndexOperation} {history : List MemoryRevision}
  {event : MemoryEvent} {revision : MemoryRevisionModel}

section Quiet

variable {view view' : MemoryView} {index : MemoryIndexOperation}

theorem Quiet.refl (view : MemoryView) : Quiet view view := ⟨fun _ _ h => h, fun _ h => h⟩

theorem Quiet.neglected (h : Quiet view view') (hindex : view'.Neglected index) :
    view.Neglected index where
  delete := hindex.delete
  status := hindex.status
  stored := h.stored index hindex.status hindex.stored
  exposed := h.exposed index hindex.exposed

theorem settled_neglects {σ α : Type} (view : σ → MemoryView) {before : σ}
    {reply : Except StoreError (α × σ)}
    (hok : ∀ result after, reply = .ok (result, after) →
      (view after).Neglected index → (view before).Neglected index)
    (h : (view (settled before reply)).Neglected index) : (view before).Neglected index := by
  match reply, hok, h with
  | .ok (result, after), hok, h => exact hok result after rfl h
  | .error _, _, h => exact h

theorem stored_put {operations : IndexOperations} (hstatus : operation.status ≠ .deadLetter)
    (hindex : index.status = .deadLetter)
    (h : (operations.put operation).get? index.indexOperationId = some index) :
    operations.get? index.indexOperationId = some index := by
  rw [Table.get?_put] at h
  split at h
  · cases h
    exact absurd hindex hstatus
  · exact h

/-- An operation that is not given up is put into the outbox. -/
theorem Quiet.put (h : ∀ index, view'.Exposed index → view.Exposed index)
    (hstatus : operation.status ≠ .deadLetter)
    (hput : view'.operations = view.operations.put operation) : Quiet view view' :=
  ⟨fun _ hindex hget => stored_put hstatus hindex (hput ▸ hget), h⟩

theorem Quiet.of_exposed (h : ∀ index, view'.Exposed index → view.Exposed index)
    (hsame : view'.operations = view.operations) : Quiet view view' :=
  ⟨fun _ _ hget => hsame ▸ hget, h⟩

theorem Scrubbed.of_subset {item : MemoryItem} {history' : List MemoryRevision}
    (h : Scrubbed item history) (hsub : history' ⊆ history) : Scrubbed item history' :=
  ⟨h.1, h.2, h.3, fun revision hmem => h.4 revision (hsub hmem)⟩

/-- One memory is written, and what is written is not exposed unless it was. -/
theorem exposed_write {memoryId : String} {written : Option MemoryItem}
    (hitem : ∀ id, view'.item id = if memoryId = id then written else view.item id)
    (hhistory : ∀ id, id ≠ memoryId → view'.history id ⊆ view.history id)
    (hself : ∀ item ∈ written, item.lifecycleStatus = .deletionPending →
      ∃ before, view.item memoryId = some before ∧
        (∀ index, Deleting item index → Deleting before index) ∧
        (Scrubbed before (view.history memoryId) → Scrubbed item (view'.history memoryId)))
    (index : MemoryIndexOperation) (h : view'.Exposed index) : view.Exposed index := by
  obtain ⟨item, hget, hdeleting, hcontent⟩ := h
  rw [hitem] at hget
  split at hget
  · next hid =>
    obtain ⟨before, hbefore, hsame, hscrubbed⟩ := hself item hget hdeleting.pending
    refine ⟨before, hid ▸ hbefore, hsame index hdeleting, fun hclean => hcontent ?_⟩
    rw [← hid] at hclean ⊢
    exact hscrubbed hclean
  · next hid =>
    exact ⟨item, hget, hdeleting,
      fun hclean => hcontent (hclean.of_subset (hhistory _ (Ne.symm hid)))⟩

theorem exposed_writeActive {memoryId : String} {item : MemoryItem}
    (hactive : item.lifecycleStatus = .active)
    (hitem : ∀ id, view'.item id = if memoryId = id then some item else view.item id)
    (hhistory : ∀ id, id ≠ memoryId → view'.history id ⊆ view.history id)
    (index : MemoryIndexOperation) (h : view'.Exposed index) : view.Exposed index := by
  refine exposed_write hitem hhistory (fun written hwritten hpending => ?_) index h
  cases hwritten
  exact nomatch hactive.symm.trans hpending

end Quiet

/-! ## Calls -/

inductive LifecycleCall where
  | add (operation : MemoryLifecycleOperation) (candidate : MemoryFormationCandidate)
      (now : Instant)
  | update (operation : MemoryLifecycleOperation) (candidate : MemoryFormationCandidate)
      (now : Instant)
  | recordDecision (event : MemoryEvent)
  | requestDelete (operation : MemoryLifecycleOperation) (now : Instant)
  | completeDelete (operation : MemoryLifecycleOperation) (now : Instant)
  | recordDeleteFailure (operation : MemoryLifecycleOperation) (errorCode : String)
      (deadLetter : Bool) (now : Instant)

/-- The service, and the test of `str` it uses. -/
structure Lifecycle where
  service : MemoryLifecycleService
  isalnum : String → Bool

def Lifecycle.memory (lifecycle : Lifecycle) (call : LifecycleCall) (store : MemoryStore) :
    MemoryStore :=
  let service := lifecycle.service
  match call with
  | .add operation candidate now => settled store (service.add operation candidate now store)
  | .update operation candidate now => settled store (service.update operation candidate now store)
  | .recordDecision event => settled store (store.recordDecision event)
  | .requestDelete operation now => settled store (service.requestDelete operation now store)
  | .completeDelete operation now => settled store (service.completeDelete operation now store)
  | .recordDeleteFailure operation errorCode deadLetter now =>
    settled store
      (service.recordDeleteFailure lifecycle.isalnum operation errorCode deadLetter now store)

def Lifecycle.database (lifecycle : Lifecycle) (call : LifecycleCall)
    (tables : MemoryDatabase.MemoryTables) : MemoryDatabase.MemoryTables :=
  let service := lifecycle.service
  match call with
  | .add operation candidate now =>
    settled tables (service.databaseAdd operation candidate now tables)
  | .update operation candidate now =>
    settled tables (service.databaseUpdate operation candidate now tables)
  | .recordDecision event => settled tables (tables.recordDecision event)
  | .requestDelete operation now =>
    settled tables (service.databaseRequestDelete operation now tables)
  | .completeDelete operation now =>
    settled tables (service.databaseCompleteDelete operation now tables)
  | .recordDeleteFailure operation errorCode deadLetter now =>
    settled tables (service.databaseRecordDeleteFailure lifecycle.isalnum operation errorCode
      deadLetter now tables)

/-- A call that asks for a deletion is a repetition of one that did, or no deletion of the
memory at that revision was given up before. -/
def NotGivenUp (service : MemoryLifecycleService) (view : MemoryView) (recorded : String → Bool) :
    LifecycleCall → Prop
  | .requestDelete operation _ =>
    recorded (service.eventId operation.operationId "delete-requested") = false →
      ∀ index ∈ view.operations.values, index.operation = .delete → index.status = .deadLetter →
        operation.memoryId = some index.memoryId → operation.revisionId ≠ index.revisionId
  | _ => True

/-- What the calls do to the view. `recorded`: an event with that id is there. -/
structure StoreLaws {σ : Type} (lifecycle : Lifecycle) (stores : IndexStores σ)
    (next : LifecycleCall → σ → σ) (view : σ → MemoryView) (recorded : σ → String → Bool) :
    Prop where
  claim : ∀ owner token now lease tenantId store,
    let claimed := MemoryIndex.claim owner token now lease tenantId (view store).operations
    (stores.claim owner token now lease tenantId store).1 = claimed.1 ∧
      view (stores.claim owner token now lease tenantId store).2 =
        { view store with operations := claimed.2 }
  complete : ∀ id owner token now external metadata store operation store',
    stores.complete id owner token now external metadata store = .ok (operation, store') →
      Quiet (view store) (view store')
  fail : ∀ id owner token now errorCode nextAttemptAt store operation store',
    stores.fail id owner token now errorCode nextAttemptAt store = .ok (operation, store') →
      ∃ stored, (view store).operations.get? id = some stored ∧ SameOperation operation stored ∧
        (operation.status = .deadLetter → stored.maxAttempts ≤ stored.attemptCount) ∧
        view store' = { view store with operations := (view store).operations.put operation }
  setIndexState : ∀ memoryId tenantId expected status external updatedAt store,
    Quiet (view store)
      (view (stores.setIndexState memoryId tenantId expected status external updatedAt store).2)
  addEvent : ∀ event store store', stores.addEvent event store = .ok ((), store') →
    Quiet (view store) (view store')
  completeDeleteFromIndex : ∀ index now providerStatus store result store',
    stores.completeDeleteFromIndex index now providerStatus store = .ok (result, store') →
      Quiet (view store) (view store')
  recordDeleteIndexFailure : ∀ index errorCode deadLetter now store result store',
    stores.recordDeleteIndexFailure index errorCode deadLetter now store = .ok (result, store') →
      Quiet (view store) (view store') ∧
        (deadLetter = true →
          recorded store (failureEventId lifecycle.service.sha256 index true) = false →
            ¬(view store').Exposed index)
  recordDeleteIndexFailure_ok : ∀ index errorCode deadLetter now store, (view store).Exposed index →
    ∃ result store',
      stores.recordDeleteIndexFailure index errorCode deadLetter now store = .ok (result, store')
  next : ∀ call store, NotGivenUp lifecycle.service (view store) (recorded store) call →
    ∀ index, (view (next call store)).Neglected index → (view store).Neglected index

/-! ## The store in memory -/

section Memory

variable {store store' : MemoryStore} {item : MemoryItem} {memoryId : String}

def memoryView (store : MemoryStore) : MemoryView where
  item memoryId := store.items.get? memoryId
  history := store.history
  operations := store.operations

def memoryRecorded (store : MemoryStore) (eventId : String) : Bool :=
  (store.events.find? (·.eventId = eventId)).isSome

theorem history_set_ne {id : String} (hid : id ≠ memoryId)
    (hrevisions : store'.revisions = store.revisions.set memoryId history) :
    store'.history id ⊆ store.history id := by
  rw [MemoryStore.history, hrevisions, Dict.get?_set_ne _ _ hid.symm]
  exact List.Subset.refl _

theorem quiet_write {revisions : List MemoryRevision} (hactive : item.lifecycleStatus = .active)
    (hstatus : operation.status = .pending) :
    Quiet (memoryView store) (memoryView (store.write item revisions event operation)) :=
  .put (exposed_writeActive hactive (Table.get?_put _ _) fun _ hid => history_set_ne hid rfl)
    (hstatus.trans_ne (by decide)) rfl

theorem quiet_remove (tombstone : MemoryEvent) :
    Quiet (memoryView store) (memoryView (store.remove memoryId tombstone)) := by
  refine .of_exposed (exposed_write (Table.get?_erase _ _) (fun id hid => ?_)
    fun item hitem => by cases hitem) rfl
  show ((store.revisions.erase memoryId).get? id).getD [] ⊆ store.history id
  rw [Dict.get?_erase, if_neg hid.symm]
  exact List.Subset.refl _

/-- What a failure writes of an item, and of its revisions. -/
theorem scrubbed_writeFailure (store : MemoryStore) (hid : item.memoryId = memoryId)
    (event : MemoryEvent) (deadLetter : Bool) :
    ∃ failed, failed.memoryId = memoryId ∧
      (store.writeFailure memoryId item event deadLetter).items = store.items.put failed ∧
      (∀ index, Deleting failed index → Deleting item index) ∧
      (deadLetter = true ∨ Scrubbed item (store.history memoryId) →
        Scrubbed failed ((store.writeFailure memoryId item event deadLetter).history memoryId)) := by
  cases deadLetter with
  | false =>
    refine ⟨_, ?_, rfl, ?_, ?_⟩
    · exact hid
    · exact fun index h => ⟨h.1, h.2, h.3, h.4⟩
    · rintro (h | h)
      · cases h
      · exact ⟨h.1, h.2, h.3, h.4⟩
  | true =>
    refine ⟨_, ?_, rfl, ?_, fun _ => ⟨?_, ?_, ?_, ?_⟩⟩
    · exact hid
    · exact fun index h => ⟨h.1, h.2, h.3, h.4⟩
    · rfl
    · rfl
    · rfl
    · show ∀ revision ∈ ((store.revisions.set memoryId
        ((store.history memoryId).map scrubRevision)).get? memoryId).getD [], _
      rw [Dict.get?_set_self, Option.getD_some]
      intro revision hmem
      obtain ⟨before, -, rfl⟩ := List.mem_map.1 hmem
      exact ⟨rfl, rfl, rfl⟩

theorem quiet_writeFailure (hget : store.items.get? memoryId = some item) (event : MemoryEvent)
    (deadLetter : Bool) :
    Quiet (memoryView store) (memoryView (store.writeFailure memoryId item event deadLetter)) := by
  obtain ⟨failed, hid, hitems, hdeleting, hscrubbed⟩ :=
    scrubbed_writeFailure store (memoryId_of_get? hget) event deadLetter
  have hitem : ∀ id, (store.writeFailure memoryId item event deadLetter).items.get? id =
      if memoryId = id then some failed else store.items.get? id := by
    intro id
    rw [hitems, Table.get?_put, hid]
  refine .of_exposed (exposed_write hitem (fun id hne => ?_) fun written hwritten _ => ?_) rfl
  · cases deadLetter with
    | false => exact List.Subset.refl _
    | true => exact history_set_ne hne rfl
  · cases hwritten
    exact ⟨item, hget, hdeleting, fun h => hscrubbed (.inr h)⟩

theorem not_exposed_writeFailure (hid : item.memoryId = index.memoryId) (event : MemoryEvent) :
    ¬(memoryView (store.writeFailure index.memoryId item event true)).Exposed index := by
  obtain ⟨failed, hfailed, hitems, -, hscrubbed⟩ :=
    scrubbed_writeFailure store hid event true
  rintro ⟨written, hget, -, hcontent⟩
  have hput : (store.items.put failed).get? index.memoryId = some written := hitems ▸ hget
  rw [Table.get?_put, if_pos hfailed] at hput
  cases hput
  exact hcontent (hscrubbed (.inl rfl))

theorem validateDeleteIndexItem_iff {found : MemoryItem} :
    validateDeleteIndexItem (some item) index = .ok found ↔ found = item ∧ Deleting item index := by
  constructor
  · intro h
    obtain ⟨hsame, hid, htenant, hpending, hrevision⟩ := validateDeleteIndexItem_ok h
    cases hsame
    exact ⟨rfl, hid, htenant, hpending, hrevision⟩
  · rintro ⟨rfl, h⟩
    simp [validateDeleteIndexItem, h.memoryId, h.tenantId, h.pending, h.revisionId]

/-- A request to delete exposes no content of a deletion that was given up. -/
theorem neglected_writeDelete {R : Redaction} {operation : MemoryLifecycleOperation}
    (hitem : DeleteAccepted store operation event pending item)
    (hstatus : pending.status = .pending)
    (hfirst : ∀ index ∈ store.operations.values, index.operation = .delete →
      index.status = .deadLetter → operation.memoryId = some index.memoryId →
        operation.revisionId ≠ index.revisionId)
    (h : (memoryView ((store.writeDelete item event pending).scrub R item.memoryId
      operation)).Neglected index) : (memoryView store).Neglected index := by
  have hdelete : (deleteOperation pending item).status ≠ .deadLetter :=
    hstatus.trans_ne (by decide)
  have hstored : store.operations.get? index.indexOperationId = some index :=
    stored_put hdelete h.status h.stored
  refine ⟨h.delete, h.status, hstored, ?_⟩
  obtain ⟨written, hget, hdeleting, hcontent⟩ := h.exposed
  have hput : (store.items.put (deletingItem item event)).get? index.memoryId = some written := hget
  rw [Table.get?_put] at hput
  split at hput
  · next hid =>
    cases hput
    have hrevision : item.currentRevisionId = index.revisionId := hdeleting.revisionId
    refine absurd (hitem.current.symm.trans hrevision)
      (hfirst index ((Table.mem_values _ _).2 hstored) h.delete h.status ?_)
    rw [hitem.named]
    exact congrArg some hid
  · exact ⟨written, hput, hdeleting, hcontent⟩

theorem quiet_setIndexState (memoryId tenantId : String) (expected : Option String)
    (status : MemoryIndexStatus) (external : Option String) (updatedAt : Instant) :
    Quiet (memoryView store)
      (memoryView (store.setIndexState memoryId tenantId expected status external updatedAt).2) := by
  unfold MemoryStore.setIndexState
  split
  · exact .refl _
  · next item hget =>
    split
    · exact .refl _
    · next hcurrent =>
      simp only [Bool.or_eq_true, decide_eq_true_eq, not_or, not_not] at hcurrent
      obtain ⟨⟨-, hactive⟩, -⟩ := hcurrent
      have hid : item.memoryId = memoryId := memoryId_of_get? hget
      subst hid
      have hwritten : (indexStateItem status external updatedAt item).lifecycleStatus = .active :=
        hactive
      exact .of_exposed (exposed_writeActive hwritten (Table.get?_put _ _)
        fun _ _ => List.Subset.refl _) rfl

theorem quiet_addEvent (h : store.addEvent event = .ok store') :
    Quiet (memoryView store) (memoryView store') := by
  unfold MemoryStore.addEvent at h
  split at h
  · obtain ⟨_, -, h⟩ := bind_eq_ok.1 h
    cases h
    exact .refl _
  · cases h
    exact .refl _

theorem quiet_recordDecision {result : MemoryEvent × Bool}
    (h : store.recordDecision event = .ok (result, store')) :
    Quiet (memoryView store) (memoryView store') := by
  unfold MemoryStore.recordDecision at h
  split at h
  · obtain ⟨_, -, h⟩ := bind_eq_ok.1 h
    cases h
    exact .refl _
  · cases h
    exact .refl _

theorem memory_next (lifecycle : Lifecycle) (call : LifecycleCall) (store : MemoryStore)
    (hcall : NotGivenUp lifecycle.service (memoryView store) (memoryRecorded store) call)
    (index : MemoryIndexOperation) (h : (memoryView (lifecycle.memory call store)).Neglected index) :
    (memoryView store).Neglected index := by
  cases call with
  | add operation candidate now =>
    refine settled_neglects memoryView (fun commit store' hreply => ?_) h
    rcases commitAdd_ok (MemoryLifecycleService.add_ok hreply) with ⟨-, rfl⟩ | ⟨-, -, rfl⟩
    · exact id
    · exact (quiet_write rfl rfl).neglected
  | update operation candidate now =>
    refine settled_neglects memoryView (fun commit store' hreply => ?_) h
    obtain ⟨memoryId, -, hcommit⟩ := MemoryLifecycleService.update_ok hreply
    rcases commitUpdate_ok hcommit with ⟨-, rfl⟩ | ⟨item, haccepted, -, rfl⟩
    · exact id
    · refine Quiet.neglected (quiet_write ?_ ?_)
      · exact haccepted.active
      · rfl
  | recordDecision event =>
    exact settled_neglects memoryView
      (fun result store' hreply => (quiet_recordDecision hreply).neglected) h
  | requestDelete operation now =>
    refine settled_neglects memoryView (fun request store' hreply => ?_) h
    obtain ⟨memoryId, -, hrequest⟩ := MemoryLifecycleService.requestDelete_ok hreply
    rcases requestDelete_ok hrequest with ⟨-, rfl⟩ | ⟨item, haccepted, -, rfl⟩
    · exact id
    · have hnew : memoryRecorded store
          (lifecycle.service.eventId operation.operationId "delete-requested") = false :=
        Option.isSome_eq_false_iff.2 (Option.isNone_iff_eq_none.2 haccepted.newEvent)
      exact neglected_writeDelete haccepted rfl (hcall hnew)
  | completeDelete operation now =>
    refine settled_neglects memoryView (fun result store' hreply => ?_) h
    obtain ⟨_, -, hreply⟩ := bind_eq_ok.1 hreply
    obtain ⟨memoryId, -, hreply⟩ := bind_eq_ok.1 hreply
    rcases completeDelete_ok hreply with ⟨-, rfl⟩ | ⟨item, -, -, -, -, -, rfl⟩
    · exact id
    · exact (quiet_remove _).neglected
  | recordDeleteFailure operation errorCode deadLetter now =>
    refine settled_neglects memoryView (fun result store' hreply => ?_) h
    obtain ⟨_, -, hreply⟩ := bind_eq_ok.1 hreply
    rcases recordDeleteFailure_ok hreply with ⟨-, rfl⟩ | ⟨item, hget, -, -, -, -, rfl⟩
    · exact id
    · exact (quiet_writeFailure hget _ deadLetter).neglected

theorem memory_laws (lifecycle : Lifecycle) :
    StoreLaws lifecycle (memoryIndexStores lifecycle.service.sha256) lifecycle.memory memoryView
      memoryRecorded where
  claim owner token now lease tenantId store := ⟨rfl, rfl⟩
  complete id owner token now external metadata store operation store' h := by
    obtain ⟨⟨completed, operations⟩, hcomplete, hreturn⟩ := bind_eq_ok.1 h
    cases hreturn
    obtain ⟨stored, -, -, rfl, rfl⟩ := complete_ok hcomplete
    exact .put (fun _ h => h) (by simp [completedOperation]) rfl
  fail id owner token now errorCode nextAttemptAt store operation store' h := by
    obtain ⟨⟨failed, operations⟩, hfail, hreturn⟩ := bind_eq_ok.1 h
    cases hreturn
    obtain ⟨stored, hget, -, rfl, rfl⟩ := fail_ok hfail
    refine ⟨stored, hget, ⟨rfl, rfl, rfl, rfl, rfl, rfl⟩, fun hstatus => ?_, rfl⟩
    by_contra hattempts
    simp [failedOperation, hattempts] at hstatus
  setIndexState _ _ _ _ _ _ _ := quiet_setIndexState ..
  addEvent event store store' h := by
    obtain ⟨added, hadded, hpair⟩ := map_eq_ok.1 h
    cases hpair
    exact quiet_addEvent hadded
  completeDeleteFromIndex index now providerStatus store result store' h := by
    obtain ⟨-, ⟨-, rfl, -⟩ | ⟨item, -, -, -, -, -, rfl⟩⟩ := completeDeleteFromIndex_ok h
    · exact .refl _
    · exact quiet_remove _
  recordDeleteIndexFailure index errorCode deadLetter now store result store' h := by
    obtain ⟨item, hget, -, -, -, ⟨-, rfl, hfound⟩ | ⟨event, -, -, -, rfl⟩⟩ :=
      recordDeleteIndexFailure_ok h
    · refine ⟨.refl _, fun hdead hnew => ?_⟩
      rw [hdead] at hfound
      cases hnew.symm.trans hfound
    · refine ⟨quiet_writeFailure hget event deadLetter, fun hdead _ => ?_⟩
      rw [hdead]
      exact not_exposed_writeFailure (memoryId_of_get? hget) event
  recordDeleteIndexFailure_ok index errorCode deadLetter now store h := by
    obtain ⟨item, hget, hdeleting, -⟩ := h
    have hfound : store.items.get? index.memoryId = some item := hget
    dsimp only [memoryIndexStores]
    unfold MemoryStore.recordDeleteIndexFailure
    rw [hfound, validateDeleteIndexItem_iff.2 ⟨rfl, hdeleting⟩, ok_bind]
    dsimp only
    split
    · exact ⟨_, _, rfl⟩
    · exact ⟨_, _, rfl⟩
  next := memory_next lifecycle

end Memory

/-! ## The database -/

section Database

open MemoryDatabase

variable {tables tables' : MemoryTables} {row : MemoryItemModel} {memoryId : String}

def databaseView (tables : MemoryTables) : MemoryView where
  item memoryId := (tables.items.get? memoryId).map memoryFromRow
  history memoryId := (tables.revisions.values.filter (·.memoryId = memoryId)).map revisionFromRow
  operations := tables.operations

def databaseRecorded (tables : MemoryTables) (eventId : String) : Bool :=
  (tables.events.get? eventId).isSome

theorem databaseItem_put (hitems : tables'.items = tables.items.put row) (id : String) :
    (databaseView tables').item id =
      if row.memoryId = id then some (memoryFromRow row) else (databaseView tables).item id := by
  show (tables'.items.get? id).map memoryFromRow = _
  rw [hitems, Table.get?_put]
  split <;> rfl

theorem databaseHistory_subset
    (h : ∀ row ∈ tables'.revisions.values, row.memoryId = memoryId → row ∈ tables.revisions.values) :
    (databaseView tables').history memoryId ⊆ (databaseView tables).history memoryId := by
  refine List.map_subset _ fun row hmem => ?_
  obtain ⟨hrow, hid⟩ := List.mem_filter.1 hmem
  exact List.mem_filter.2 ⟨h row hrow (of_decide_eq_true hid), hid⟩

theorem databaseHistory_put (hne : memoryId ≠ revision.memoryId)
    (hrevisions : tables'.revisions = tables.revisions.put revision) :
    (databaseView tables').history memoryId ⊆ (databaseView tables).history memoryId := by
  refine databaseHistory_subset fun row hmem hid => ?_
  rcases Table.mem_values_put (hrevisions ▸ hmem) with rfl | hrow
  · exact absurd hid.symm hne
  · exact hrow

theorem databaseQuiet_write (hactive : row.lifecycleStatus = some .active)
    (hid : revision.memoryId = row.memoryId) (hstatus : operation.status = .pending)
    (hitems : tables'.items = tables.items.put row)
    (hrevisions : tables'.revisions = tables.revisions.put revision)
    (hoperations : tables'.operations = tables.operations.put operation) :
    Quiet (databaseView tables) (databaseView tables') := by
  have hitem : (memoryFromRow row).lifecycleStatus = .active := by simp [memoryFromRow, hactive]
  exact .put (exposed_writeActive hitem (databaseItem_put hitems)
    fun id hne => databaseHistory_put (hid ▸ hne) hrevisions) (hstatus.trans_ne (by decide))
    hoperations

theorem databaseQuiet_remove (tombstone : MemoryEvent) :
    Quiet (databaseView tables) (databaseView (tables.remove memoryId tombstone)) := by
  have hitem : ∀ id, (databaseView (tables.remove memoryId tombstone)).item id =
      if memoryId = id then none else (databaseView tables).item id := by
    intro id
    show ((tables.items.erase memoryId).get? id).map memoryFromRow = _
    rw [Table.get?_erase]
    split <;> rfl
  refine .of_exposed (exposed_write hitem (fun id _ => ?_) fun item hitem => by cases hitem) rfl
  refine databaseHistory_subset fun row hmem _ => ?_
  rw [Table.mem_values] at hmem ⊢
  have hfiltered := (Table.get?_filter ..).symm.trans hmem
  exact (Option.filter_eq_some_iff.1 hfiltered).1

theorem mem_writeFailure {written : MemoryRevisionModel}
    (h : written ∈ (tables.writeFailure row event true).revisions.values) :
    ∃ before ∈ tables.revisions.values,
      MemoryTables.scrubbedRevision row.memoryId before = written := by
  have hvalues := Table.values_mapValues tables.revisions
    (MemoryTables.scrubbedRevision row.memoryId) fun _ => rfl
  exact List.mem_map.1 (hvalues ▸ h)

/-- What a failure writes of a row, and of the revisions. -/
theorem databaseScrubbed_writeFailure (tables : MemoryTables) (row : MemoryItemModel)
    (event : MemoryEvent) (deadLetter : Bool) :
    let written := tables.writeFailure row event deadLetter
    ∃ failed : MemoryItemModel, failed.memoryId = row.memoryId ∧
      written.items = tables.items.put failed ∧
      (∀ index, Deleting (memoryFromRow failed) index → Deleting (memoryFromRow row) index) ∧
      (deadLetter = true ∨
          Scrubbed (memoryFromRow row) ((databaseView tables).history row.memoryId) →
        Scrubbed (memoryFromRow failed) ((databaseView written).history row.memoryId)) := by
  cases deadLetter with
  | false =>
    refine ⟨_, ?_, rfl, ?_, ?_⟩
    · rfl
    · exact fun index h => ⟨h.1, h.2, h.3, h.4⟩
    · rintro (h | h)
      · cases h
      · exact ⟨h.1, h.2, h.3, h.4⟩
  | true =>
    refine ⟨_, ?_, rfl, ?_, fun _ => ⟨?_, ?_, ?_, ?_⟩⟩
    · rfl
    · exact fun index h => ⟨h.1, h.2, h.3, h.4⟩
    · rfl
    · rfl
    · rfl
    · intro revision hmem
      obtain ⟨written, hwritten, rfl⟩ := List.mem_map.1 hmem
      obtain ⟨hrow, hid⟩ := List.mem_filter.1 hwritten
      obtain ⟨before, -, rfl⟩ := mem_writeFailure hrow
      have hbefore : before.memoryId = row.memoryId := of_decide_eq_true hid
      simp [revisionFromRow, MemoryTables.scrubbedRevision, hbefore]

theorem databaseQuiet_writeFailure (hget : tables.items.get? row.memoryId = some row)
    (event : MemoryEvent) (deadLetter : Bool) :
    Quiet (databaseView tables) (databaseView (tables.writeFailure row event deadLetter)) := by
  obtain ⟨failed, hid, hitems, hdeleting, hscrubbed⟩ :=
    databaseScrubbed_writeFailure tables row event deadLetter
  refine .of_exposed (exposed_write (databaseItem_put hitems) (fun id hne => ?_)
    fun written hwritten _ => ?_) rfl
  · refine databaseHistory_subset fun written hmem hrevision => ?_
    cases deadLetter with
    | false => exact hmem
    | true =>
      obtain ⟨before, hbefore, rfl⟩ := mem_writeFailure hmem
      have hother : before.memoryId ≠ row.memoryId :=
        fun h => hne (hrevision.symm.trans (h.trans hid.symm))
      simpa [MemoryTables.scrubbedRevision, hother] using hbefore
  · cases hwritten
    refine ⟨memoryFromRow row, ?_, hdeleting, fun h => ?_⟩
    · show (tables.items.get? failed.memoryId).map memoryFromRow = _
      rw [hid, hget]
      rfl
    · rw [hid] at h ⊢
      exact hscrubbed (.inr h)

theorem databaseNot_exposed_writeFailure (hid : row.memoryId = index.memoryId) (event : MemoryEvent) :
    ¬(databaseView (tables.writeFailure row event true)).Exposed index := by
  obtain ⟨failed, hfailed, hitems, -, hscrubbed⟩ := databaseScrubbed_writeFailure tables row event true
  rintro ⟨item, hget, -, hcontent⟩
  rw [databaseItem_put hitems, if_pos (hfailed.trans hid)] at hget
  cases hget
  rw [← hid] at hcontent
  exact hcontent (hscrubbed (.inl rfl))

/-- A request to delete exposes no content of a deletion that was given up. -/
theorem databaseNeglected_writeDelete {R : Redaction} {operation : MemoryLifecycleOperation}
    (hnamed : operation.memoryId = some row.memoryId)
    (htarget : MemoryTables.isTarget operation row = true) (hstatus : pending.status = .pending)
    (hfirst : ∀ index ∈ tables.operations.values, index.operation = .delete →
      index.status = .deadLetter → operation.memoryId = some index.memoryId →
        operation.revisionId ≠ index.revisionId) (h : (databaseView
      (MemoryTables.deleteRequested R tables row operation event pending)).Neglected index) :
    (databaseView tables).Neglected index := by
  have hdelete : (deleteOperation pending (memoryFromRow row)).status ≠ .deadLetter :=
    hstatus.trans_ne (by decide)
  have hstored : tables.operations.get? index.indexOperationId = some index :=
    stored_put hdelete h.status h.stored
  refine ⟨h.delete, h.status, hstored, ?_⟩
  obtain ⟨item, hget, hdeleting, hcontent⟩ := h.exposed
  rw [databaseItem_put rfl] at hget
  split at hget
  · next hid =>
    cases hget
    have hrevision : row.currentRevisionId = index.revisionId := hdeleting.revisionId
    simp only [MemoryTables.isTarget, Bool.and_eq_true, decide_eq_true_eq] at htarget
    refine absurd (htarget.2.symm.trans hrevision)
      (hfirst index ((Table.mem_values _ _).2 hstored) h.delete h.status ?_)
    rw [hnamed]
    exact congrArg some hid
  · exact ⟨item, hget, hdeleting, hcontent⟩

theorem databaseQuiet_setIndexState (memoryId tenantId : String) (expected : Option String)
    (status : MemoryIndexStatus) (external : Option String) (updatedAt : Instant) :
    Quiet (databaseView tables)
      (databaseView
        (tables.setIndexState memoryId tenantId expected status external updatedAt).2) := by
  unfold MemoryTables.setIndexState
  dsimp only
  split
  · exact .refl _
  · next row hrow =>
    obtain ⟨-, hcurrent⟩ := Option.filter_eq_some_iff.1 hrow
    simp only [Bool.and_eq_true, decide_eq_true_eq] at hcurrent
    have hactive : (memoryFromRow
        (MemoryTables.indexStateRow status external updatedAt row)).lifecycleStatus = .active := by
      simp [memoryFromRow, MemoryTables.indexStateRow, hcurrent.1.2]
    exact .of_exposed (exposed_writeActive hactive (databaseItem_put rfl)
      fun _ _ => List.Subset.refl _) rfl

theorem databaseQuiet_addEvent (h : tables.addEvent event = .ok tables') :
    Quiet (databaseView tables) (databaseView tables') := by
  unfold MemoryTables.addEvent at h
  split at h
  · obtain ⟨_, -, h⟩ := bind_eq_ok.1 h
    cases h
    exact .refl _
  · cases h
    exact .refl _

theorem database_next (lifecycle : Lifecycle) (call : LifecycleCall) (tables : MemoryTables)
    (hcall : NotGivenUp lifecycle.service (databaseView tables) (databaseRecorded tables) call)
    (index : MemoryIndexOperation)
    (h : (databaseView (lifecycle.database call tables)).Neglected index) :
    (databaseView tables).Neglected index := by
  cases call with
  | add operation candidate now =>
    refine settled_neglects databaseView (fun commit tables' hreply => ?_) h
    obtain ⟨_, -, hreply⟩ := bind_eq_ok.1 hreply
    rcases MemoryTables.commitAdd_ok hreply with ⟨-, rfl⟩ | ⟨-, hinsert⟩
    · exact id
    · obtain ⟨-, -, -, rfl⟩ := MemoryTables.insertCommit_ok hinsert
      refine Quiet.neglected (databaseQuiet_write ?_ ?_ ?_ rfl rfl rfl)
      · rfl
      · rfl
      · rfl
  | update operation candidate now =>
    refine settled_neglects databaseView (fun commit tables' hreply => ?_) h
    obtain ⟨_, -, hreply⟩ := bind_eq_ok.1 hreply
    obtain ⟨memoryId, hid, hreply⟩ := bind_eq_ok.1 hreply
    obtain ⟨-, rfl⟩ | ⟨-, row, -, hnamed, -, hactive, number, supersedes, hwrite⟩ :=
      MemoryTables.commitUpdate_ok hreply
    · exact id
    · obtain ⟨-, -, rfl⟩ := MemoryTables.writeUpdate_ok hwrite
      have hsame : memoryId = row.memoryId :=
        Option.some.inj ((MemoryLifecycleService.lifecycleMemoryId_ok hid).1.symm.trans hnamed)
      refine Quiet.neglected (databaseQuiet_write ?_ ?_ ?_ rfl rfl rfl)
      · exact hactive
      · exact hsame
      · rfl
  | recordDecision event =>
    refine settled_neglects databaseView (fun result tables' hreply => ?_) h
    obtain rfl | rfl := MemoryTables.recordDecision_ok hreply
    · exact id
    · exact (Quiet.refl (databaseView tables)).neglected
  | requestDelete operation now =>
    refine settled_neglects databaseView (fun request tables' hreply => ?_) h
    obtain ⟨_, -, hreply⟩ := bind_eq_ok.1 hreply
    obtain ⟨memoryId, -, hreply⟩ := bind_eq_ok.1 hreply
    obtain rfl | ⟨row, -, hnamed, htarget, hfresh, rfl⟩ := MemoryTables.requestDelete_ok hreply
    · exact id
    · have hnew : databaseRecorded tables
          (lifecycle.service.eventId operation.operationId "delete-requested") = false :=
        Option.isSome_eq_false_iff.2 (Option.isNone_iff_eq_none.2 hfresh.event)
      exact databaseNeglected_writeDelete hnamed htarget rfl (hcall hnew)
  | completeDelete operation now =>
    refine settled_neglects databaseView (fun result tables' hreply => ?_) h
    obtain ⟨_, -, hreply⟩ := bind_eq_ok.1 hreply
    obtain ⟨_, -, hreply⟩ := bind_eq_ok.1 hreply
    obtain rfl | ⟨-, memoryId, rfl⟩ := MemoryTables.completeDelete_ok hreply
    · exact id
    · exact (databaseQuiet_remove _).neglected
  | recordDeleteFailure operation errorCode deadLetter now =>
    refine settled_neglects databaseView (fun result tables' hreply => ?_) h
    obtain ⟨_, -, hreply⟩ := bind_eq_ok.1 hreply
    obtain rfl | ⟨row, hget, -, -, rfl⟩ := MemoryTables.recordDeleteFailure_ok hreply
    · exact id
    · exact (databaseQuiet_writeFailure hget _ deadLetter).neglected

theorem database_laws (lifecycle : Lifecycle) :
    StoreLaws lifecycle (databaseIndexStores lifecycle.service.sha256) lifecycle.database
      databaseView databaseRecorded where
  claim owner token now lease tenantId tables := ⟨rfl, rfl⟩
  complete id owner token now external metadata tables operation tables' h := by
    obtain ⟨row, -, -, rfl, rfl⟩ := MemoryTables.terminalUpdate_ok h
    exact .put (fun _ h => h) (by simp [MemoryTables.released]) rfl
  fail id owner token now errorCode nextAttemptAt tables operation tables' h := by
    dsimp only [databaseIndexStores] at h
    unfold MemoryTables.fail at h
    split at h
    · cases h
    · next row hget =>
      obtain ⟨stored, hstored, -, rfl, rfl⟩ := MemoryTables.terminalUpdate_ok h
      cases hget.symm.trans hstored
      refine ⟨row, hget, ⟨rfl, rfl, rfl, rfl, rfl, rfl⟩, fun hstatus => ?_, rfl⟩
      by_contra hattempts
      simp [MemoryTables.released, hattempts] at hstatus
  setIndexState _ _ _ _ _ _ _ := databaseQuiet_setIndexState ..
  addEvent event tables tables' h := by
    obtain ⟨added, hadded, hpair⟩ := map_eq_ok.1 h
    cases hpair
    exact databaseQuiet_addEvent hadded
  completeDeleteFromIndex index now providerStatus tables result tables' h := by
    obtain rfl | ⟨row, -, -, tombstone, -, rfl⟩ := MemoryTables.completeDeleteFromIndex_ok h
    · exact .refl _
    · exact databaseQuiet_remove _
  recordDeleteIndexFailure index errorCode deadLetter now tables result tables' h := by
    obtain ⟨row, hget, hid, -, ⟨rfl, hfound⟩ | ⟨event, -, -, rfl⟩⟩ :=
      MemoryTables.recordDeleteIndexFailure_ok h
    · refine ⟨.refl _, fun hdead hnew => ?_⟩
      rw [hdead] at hfound
      cases hnew.symm.trans hfound
    · refine ⟨databaseQuiet_writeFailure hget event deadLetter, fun hdead _ => ?_⟩
      rw [hdead]
      exact databaseNot_exposed_writeFailure hid event
  recordDeleteIndexFailure_ok index errorCode deadLetter now tables h := by
    obtain ⟨item, hitem, hdeleting, -⟩ := h
    obtain ⟨row, hget, rfl⟩ := Option.map_eq_some_iff.1 hitem
    have hrow : (tables.items.get? index.memoryId).filter
        (·.tenantId = some index.tenantId) = some row := by
      rw [hget, Option.filter_eq_some_iff]
      exact ⟨rfl, decide_eq_true hdeleting.tenantId⟩
    dsimp only [databaseIndexStores]
    unfold MemoryTables.recordDeleteIndexFailure
    dsimp only
    rw [hrow]
    dsimp only
    rw [validateDeleteIndexItem_iff.2 ⟨rfl, hdeleting⟩, ok_bind]
    split
    · exact ⟨_, _, rfl⟩
    · exact ⟨_, _, rfl⟩
  next := database_next lifecycle

end Database

end OpenIntentRouter.Memories
