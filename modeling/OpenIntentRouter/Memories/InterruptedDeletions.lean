import OpenIntentRouter.Services.MemoryIndexRepair

/-!
# Deletions that the repair ends

A deletion is interrupted when its index operation is completed and the item is
still there. `run_tenant` asks for one page of completed operations of any
kind, the ones that were touched longest ago first, and no operation is ever
taken out of the outbox: what is behind the page is not ended.

* `foldl_finalizes_iff`: what a list of candidates ends;
* `spares_repairRecords` and the lemmas before it: the rest of the run touches no
  memory whose deletion is pending, and none that is gone;
* `run_tenant_finalizes_iff`: `run_tenant` ends an interrupted deletion exactly
  if its operation is on the page.
-/
namespace OpenIntentRouter.Memories.InterruptedDeletions

open Core Core.Except Schemas Repositories.MemoryIndex Services

/-! ## What it is about -/

structure IsDeletionOf (item : MemoryItem) (operation : MemoryIndexOperation) : Prop where
  delete : operation.operation = .delete
  ordinary : isRepairCompensation operation = false
  status : operation.status = .completed
  memoryId : operation.memoryId = item.memoryId
  tenantId : item.tenantId = some operation.tenantId
  revisionId : operation.revisionId = item.currentRevisionId

structure Interrupted (store : MemoryStore) (tenantId : String) (item : MemoryItem) : Prop where
  stored : store.items.get? item.memoryId = some item
  tenantId : item.tenantId = some tenantId
  pending : item.lifecycleStatus = .deletionPending
  completed : ∃ operation ∈ store.operations.values, IsDeletionOf item operation

def recorded (sha256 : String → String) (store : MemoryStore) (operation : MemoryIndexOperation) :
    Bool :=
  (store.events.find? (·.eventId = indexEventId sha256 operation "delete-completed")).isSome

/-- The page that the repair asks for has a deletion of the item whose tombstone is not recorded. -/
def OnPage (sha256 : String → String) (store : MemoryStore) (tenantId : String) (limit : Nat)
    (item : MemoryItem) : Prop :=
  ∃ operation ∈ listRepairCandidates tenantId [.completed] limit store.operations,
    IsDeletionOf item operation ∧ recorded sha256 store operation = false

def tombstones (memoryId : String) (store : MemoryStore) : List MemoryEvent :=
  store.events.filter fun event =>
    event.memoryId = some memoryId && event.eventType = "memory_deleted_tombstone"

structure Finalizes (memoryId : String) (store store' : MemoryStore) : Prop where
  item : store'.items.get? memoryId = none
  revisions : store'.revisions.get? memoryId = none
  tombstone : ∃ tombstone, tombstones memoryId store' = tombstones memoryId store ++ [tombstone]

def Apart (sha256 : String → String) (operations : IndexOperations) : Prop :=
  ∀ a ∈ operations.values, ∀ b ∈ operations.values,
    indexEventId sha256 a "delete-completed" = indexEventId sha256 b "delete-completed" → a = b

/-! ## One candidate -/

def finalize (sha256 : String → String) (now : Instant) (store : MemoryStore)
    (operation : MemoryIndexOperation) : MemoryStore :=
  if operation.operation ≠ .delete || isRepairCompensation operation then store
  else
    match store.completeDeleteFromIndex sha256 operation now none with
    | .ok (_, store') => store'
    | .error _ => store

section Finalize

variable {sha256 : String → String} {now : Instant} {store : MemoryStore}
  {operation : MemoryIndexOperation} {item : MemoryItem} {memoryId : String}

theorem completeDeleteFromIndex_error {error : StoreError} {providerStatus : Option String}
    (h : store.completeDeleteFromIndex sha256 operation now providerStatus = .error error) :
    ∃ message, error = .valueError message := by
  unfold MemoryStore.completeDeleteFromIndex at h
  rcases bind_eq_error.1 h with hcheck | ⟨_, -, h⟩
  · exact ⟨_, (Except.ensure_eq_error.1 hcheck).2.symm⟩
  · dsimp only at h
    split at h
    · cases h
    · rcases bind_eq_error.1 h with hitem | ⟨_, -, h⟩
      · unfold validateDeleteIndexItem at hitem
        split at hitem
        · cases hitem
          exact ⟨_, rfl⟩
        · split_ifs at hitem
          cases hitem
          exact ⟨_, rfl⟩
      · cases h

variable (now) in
/-- A candidate that deletes an item and is not recorded removes the item. -/
theorem finalize_removes (hstored : store.items.get? item.memoryId = some item)
    (hpending : item.lifecycleStatus = .deletionPending)
    (hget : store.operations.get? operation.indexOperationId = some operation)
    (hdeletion : IsDeletionOf item operation) (hnew : recorded sha256 store operation = false) :
    ∃ tombstone : MemoryEvent,
      tombstone.eventId = indexEventId sha256 operation "delete-completed" ∧
      tombstone.memoryId = some operation.memoryId ∧
      tombstone.eventType = "memory_deleted_tombstone" ∧
      finalize sha256 now store operation = store.remove operation.memoryId tombstone := by
  have hfind : store.events.find?
      (·.eventId = indexEventId sha256 operation "delete-completed") = none := by
    simpa [recorded] using hnew
  have hcompletion : validateDeleteIndexCompletion
      (store.operations.get? operation.indexOperationId) operation = .ok () := by
    rw [hget, validateDeleteIndexCompletion, ensure_eq_ok]
    simp [hdeletion.delete, hdeletion.status]
  have hitem : validateDeleteIndexItem (store.items.get? operation.memoryId) operation =
      .ok item := by
    rw [hdeletion.memoryId, hstored]
    simp [validateDeleteIndexItem, hdeletion.memoryId, hdeletion.tenantId, hpending,
      hdeletion.revisionId]
  refine ⟨tombstoneOf sha256 store operation item now none, rfl, rfl, rfl, ?_⟩
  unfold finalize
  rw [if_neg (by simp [hdeletion.delete, hdeletion.ordinary])]
  unfold MemoryStore.completeDeleteFromIndex
  rw [hcompletion, ok_bind]
  dsimp only
  rw [hfind, hitem]
  rfl

/-- A candidate leaves the store, or removes the item it deletes. -/
theorem finalize_cases (sha256 : String → String) (now : Instant)
    (hget : store.operations.get? operation.indexOperationId = some operation) :
    finalize sha256 now store operation = store ∨
      ∃ item, ∃ tombstone : MemoryEvent, store.items.get? operation.memoryId = some item ∧
        item.memoryId = operation.memoryId ∧
        item.lifecycleStatus = .deletionPending ∧ IsDeletionOf item operation ∧
        recorded sha256 store operation = false ∧
        tombstone.eventId = indexEventId sha256 operation "delete-completed" ∧
        tombstone.memoryId = some operation.memoryId ∧
        finalize sha256 now store operation = store.remove operation.memoryId tombstone := by
  unfold finalize
  split
  · exact .inl rfl
  · next hordinary =>
    simp only [Bool.or_eq_true, decide_eq_true_eq, not_or, not_not, Bool.not_eq_true] at hordinary
    split
    · next result store' hcall =>
      have hfound := hcall
      unfold MemoryStore.completeDeleteFromIndex at hcall
      obtain ⟨_, hcompletion, hcall⟩ := bind_eq_ok.1 hcall
      dsimp only at hcall
      split at hcall
      · cases hcall
        exact .inl rfl
      · next hnew =>
        obtain ⟨item, hitem, hcall⟩ := bind_eq_ok.1 hcall
        cases hcall
        obtain ⟨hstored, hid, htenant, hpending, hcurrent⟩ := validateDeleteIndexItem_ok hitem
        rw [hget, validateDeleteIndexCompletion, ensure_eq_ok] at hcompletion
        have hstatus : operation.status = .completed := by simp_all
        exact .inr ⟨item, _, hstored, hid, hpending, ⟨hordinary.1, hordinary.2, hstatus, hid.symm,
          htenant, hcurrent.symm⟩, by simp [recorded, hnew], rfl, rfl, rfl⟩
    · exact .inl rfl

theorem finalize_operations (sha256 : String → String) (now : Instant) (store : MemoryStore)
    (operation : MemoryIndexOperation) :
    (finalize sha256 now store operation).operations = store.operations := by
  unfold finalize
  split
  · rfl
  · split
    · next result store' hcall =>
      obtain ⟨-, ⟨-, rfl, -⟩ | ⟨_, -, -, -, -, -, rfl⟩⟩ := completeDeleteFromIndex_ok hcall
      · rfl
      · rfl
    · rfl

end Finalize

/-! ## The loop -/

/-- A memory keeps what it has, if it is not active, and the tombstones stay the same. -/
structure Quiet (memoryId : String) (store store' : MemoryStore) : Prop where
  item : (∀ item ∈ store.items.get? memoryId, item.lifecycleStatus ≠ .active) →
    store'.items.get? memoryId = store.items.get? memoryId
  revisions : store'.revisions.get? memoryId = store.revisions.get? memoryId
  tombstones : tombstones memoryId store' = tombstones memoryId store

theorem Quiet.refl (memoryId : String) (store : MemoryStore) : Quiet memoryId store store :=
  ⟨fun _ => rfl, rfl, rfl⟩

theorem Quiet.trans {memoryId : String} {a b c : MemoryStore} (h : Quiet memoryId a b)
    (h' : Quiet memoryId b c) : Quiet memoryId a c where
  item hinactive := by
    have hb := h.item hinactive
    rw [← hb] at hinactive ⊢
    exact h'.item hinactive
  revisions := h'.revisions.trans h.revisions
  tombstones := h'.tombstones.trans h.tombstones

theorem Quiet.finalizes {memoryId : String} {a b c : MemoryStore} (h : Quiet memoryId a b)
    (h' : Finalizes memoryId b c) : Finalizes memoryId a c where
  item := h'.item
  revisions := h'.revisions
  tombstone := by
    obtain ⟨tombstone, htombstone⟩ := h'.tombstone
    exact ⟨tombstone, by rw [htombstone, h.tombstones]⟩

theorem Finalizes.quiet {memoryId : String} {a b c : MemoryStore} (h : Finalizes memoryId a b)
    (h' : Quiet memoryId b c) : Finalizes memoryId a c where
  item := by
    rw [h'.item (by simp [h.item]), h.item]
  revisions := h'.revisions.trans h.revisions
  tombstone := by
    obtain ⟨tombstone, htombstone⟩ := h.tombstone
    exact ⟨tombstone, h'.tombstones.trans htombstone⟩

section Loop

variable {sha256 : String → String} {now : Instant} {store : MemoryStore}
  {operation : MemoryIndexOperation} {item : MemoryItem} {memoryId : String}

theorem quiet_remove {tombstone : MemoryEvent} {other : String} (hne : other ≠ memoryId)
    (htombstone : tombstone.memoryId = some other) :
    Quiet memoryId store (store.remove other tombstone) where
  item _ := by
    show (store.items.erase other).get? memoryId = _
    rw [Table.get?_erase, if_neg hne]
  revisions := by
    show (store.revisions.erase other).get? memoryId = _
    rw [Dict.get?_erase, if_neg hne]
  tombstones := by
    simp [tombstones, MemoryStore.remove, htombstone, hne]

theorem finalizes_remove {tombstone : MemoryEvent} (htombstone : tombstone.memoryId = some memoryId)
    (htype : tombstone.eventType = "memory_deleted_tombstone") :
    Finalizes memoryId store (store.remove memoryId tombstone) where
  item := by
    show (store.items.erase memoryId).get? memoryId = none
    rw [Table.get?_erase, if_pos rfl]
  revisions := by
    show (store.revisions.erase memoryId).get? memoryId = none
    rw [Dict.get?_erase, if_pos rfl]
  tombstone := ⟨tombstone, by simp [tombstones, MemoryStore.remove, htombstone, htype]⟩

/-- A candidate that does not end the deletion of a memory keeps it quiet. -/
theorem quiet_finalize (hget : store.operations.get? operation.indexOperationId = some operation)
    (hother : ∀ item ∈ store.items.get? memoryId, item.memoryId = memoryId →
      IsDeletionOf item operation → recorded sha256 store operation = true) :
    Quiet memoryId store (finalize sha256 now store operation) := by
  rcases finalize_cases sha256 now hget with
    hsame | ⟨item, tombstone, hstored, hid, -, hdeletion, hnew, -, htombstone, hremove⟩
  · rw [hsame]
    exact .refl memoryId store
  · rw [hremove]
    refine quiet_remove ?_ htombstone
    intro hmemory
    rw [hmemory] at hstored hid
    have hrecorded := hother item hstored hid hdeletion
    rw [hnew] at hrecorded
    cases hrecorded

theorem recorded_finalize {other : MemoryIndexOperation}
    (hget : store.operations.get? operation.indexOperationId = some operation)
    (hapart : indexEventId sha256 operation "delete-completed" =
      indexEventId sha256 other "delete-completed" → recorded sha256 store other = true) :
    recorded sha256 (finalize sha256 now store operation) other = recorded sha256 store other := by
  rcases finalize_cases sha256 now hget with
    hsame | ⟨item, tombstone, -, -, -, -, -, heventId, -, hremove⟩
  · rw [hsame]
  · rw [hremove]
    unfold recorded MemoryStore.remove
    dsimp only
    rw [List.find?_append, Option.isSome_or]
    by_cases hevent : tombstone.eventId = indexEventId sha256 other "delete-completed"
    · have hrecorded := hapart (heventId ▸ hevent)
      unfold recorded at hrecorded
      rw [hrecorded, Bool.true_or]
    · simp [hevent]

def Candidates (store : MemoryStore) (operations : List MemoryIndexOperation) : Prop :=
  ∀ operation ∈ operations, store.operations.get? operation.indexOperationId = some operation

theorem Candidates.finalize {operations : List MemoryIndexOperation}
    (h : Candidates store operations) (sha256 : String → String) (now : Instant)
    (operation : MemoryIndexOperation) :
    Candidates (InterruptedDeletions.finalize sha256 now store operation) operations := by
  unfold Candidates
  rw [finalize_operations]
  exact h

/-- A memory that is gone stays gone, and gets no tombstone again. -/
theorem quiet_foldl (sha256 : String → String) (now : Instant)
    (operations : List MemoryIndexOperation) :
    ∀ {store : MemoryStore}, store.items.get? memoryId = none → Candidates store operations →
      Quiet memoryId store (operations.foldl (finalize sha256 now) store) := by
  induction operations with
  | nil => exact fun _ _ => .refl memoryId _
  | cons operation rest ih =>
    intro store hgone hget
    have hquiet : Quiet memoryId store (finalize sha256 now store operation) :=
      quiet_finalize (hget operation List.mem_cons_self) (by simp [hgone])
    have hgone' := (hquiet.item (by simp [hgone])).trans hgone
    have hrest : Candidates store rest := fun other hmem => hget other (List.mem_cons_of_mem _ hmem)
    exact hquiet.trans (ih hgone' (hrest.finalize sha256 now operation))

/-- Some of the operations is a deletion of the item whose tombstone is not recorded. -/
def Ends (sha256 : String → String) (store : MemoryStore) (item : MemoryItem)
    (operations : List MemoryIndexOperation) : Prop :=
  ∃ operation ∈ operations, IsDeletionOf item operation ∧ recorded sha256 store operation = false

variable (now) in
theorem foldl_finalizes_iff (hpending : item.lifecycleStatus = .deletionPending)
    (operations : List MemoryIndexOperation) :
    ∀ {store : MemoryStore}, store.items.get? item.memoryId = some item →
      Candidates store operations → Apart sha256 store.operations →
      let after := operations.foldl (finalize sha256 now) store
      (Ends sha256 store item operations → Finalizes item.memoryId store after) ∧
        (¬Ends sha256 store item operations → Quiet item.memoryId store after) := by
  induction operations with
  | nil =>
    intro store _ _ _ after
    exact ⟨fun ⟨_, hmem, _⟩ => (nomatch hmem), fun _ => .refl _ _⟩
  | cons operation rest ih =>
    intro store hstored hget hapart
    have hoperation := hget operation List.mem_cons_self
    have hrest : Candidates store rest := fun other hmem => hget other (List.mem_cons_of_mem _ hmem)
    by_cases hends : IsDeletionOf item operation ∧ recorded sha256 store operation = false
    · -- this candidate ends the deletion, and no later one touches the memory
      obtain ⟨tombstone, -, htombstone, htype, hremove⟩ :=
        finalize_removes now hstored hpending hoperation hends.1 hends.2
      rw [hends.1.memoryId] at htombstone hremove
      have hfinal : Finalizes item.memoryId store (finalize sha256 now store operation) :=
        hremove ▸ finalizes_remove htombstone htype
      have hquiet := quiet_foldl sha256 now rest hfinal.item (hrest.finalize sha256 now operation)
      refine ⟨fun _ => hfinal.quiet hquiet, fun hnone => ?_⟩
      exact absurd ⟨operation, List.mem_cons_self, hends⟩ hnone
    · have hrecorded : IsDeletionOf item operation → recorded sha256 store operation = true := by
        intro hdeletion
        simpa [hdeletion] using hends
      have hquiet : Quiet item.memoryId store (finalize sha256 now store operation) := by
        refine quiet_finalize hoperation fun other hother _ hdeletion => ?_
        rw [hstored] at hother
        cases hother
        exact hrecorded hdeletion
      have hstored' := (hquiet.item (by simp [hstored, hpending])).trans hstored
      have hsame : Ends sha256 (finalize sha256 now store operation) item rest ↔
          Ends sha256 store item (operation :: rest) := by
        have hkept : ∀ other ∈ rest, IsDeletionOf item other →
            recorded sha256 (finalize sha256 now store operation) other =
              recorded sha256 store other := by
          intro other hmem hdeletion
          refine recorded_finalize hoperation fun hid => ?_
          obtain rfl := hapart operation ((Table.mem_values _ _).2 hoperation) other
            ((Table.mem_values _ _).2 (hrest other hmem)) hid
          exact hrecorded hdeletion
        constructor
        · rintro ⟨other, hmem, hdeletion, hnew⟩
          exact ⟨other, List.mem_cons_of_mem _ hmem, hdeletion, hkept other hmem hdeletion ▸ hnew⟩
        · rintro ⟨other, hmem, hdeletion, hnew⟩
          rcases List.mem_cons.1 hmem with rfl | hmem
          · exact absurd ⟨hdeletion, hnew⟩ hends
          · exact ⟨other, hmem, hdeletion, (hkept other hmem hdeletion).trans hnew⟩
      obtain ⟨hin, hout⟩ := ih hstored' (hrest.finalize sha256 now operation)
        (by rw [finalize_operations]; exact hapart)
      refine ⟨fun h => hquiet.finalizes (hin (hsame.2 h)), fun h => hquiet.trans (hout ?_)⟩
      exact fun h' => h (hsame.1 h')

theorem candidates_page (store : MemoryStore) (tenantId : String) (limit : Nat) :
    Candidates store (listRepairCandidates tenantId [.completed] limit store.operations) := by
  intro operation hmem
  have hfilter := (List.mem_insertionSort _).1 (List.mem_of_mem_take hmem)
  exact (Table.mem_values _ _).1 (List.mem_of_mem_filter hfilter)

end Loop

/-! ## The program -/

section Run

variable {P : Type} {adapter : MemoryStrategyAdapter P} {sha256 : String → String}
  {isoformat : Instant → String} {pages : Nat}

def repairService (adapter : MemoryStrategyAdapter P) (sha256 : String → String)
    (isoformat : Instant → String) (pages : Nat) : MemoryIndexRepairService MemoryStore P :=
  ⟨memoryIndexStores sha256, adapter, sha256, isoformat, pages⟩

theorem run_finalizeOperations (operations : List MemoryIndexOperation) :
    ∀ world : IndexWorld MemoryStore P, ∃ count,
      ((repairService adapter sha256 isoformat pages).finalizeOperations operations).run world =
        (.ok count,
          { world with
            store := operations.foldl (finalize sha256 world.now) world.store }) := by
  induction operations with
  | nil => exact fun world => ⟨0, rfl⟩
  | cons operation rest ih =>
    intro world
    unfold MemoryIndexRepairService.finalizeOperations
    split
    · next hskip =>
      obtain ⟨count, hcount⟩ := ih world
      refine ⟨count, ?_⟩
      rw [hcount, List.foldl_cons, finalize, if_pos hskip]
    · next hordinary =>
      rw [Program.run_bind, run_clock]
      dsimp only
      rw [Program.run_bind, run_storeAttempt, List.foldl_cons, finalize, if_neg hordinary]
      dsimp only [repairService, memoryIndexStores]
      cases hcall : world.store.completeDeleteFromIndex sha256 operation world.now none with
      | ok result =>
        obtain ⟨⟨event, replay⟩, store⟩ := result
        obtain ⟨count, hcount⟩ := ih { world with store }
        refine ⟨if replay then count else count + 1, ?_⟩
        dsimp only
        rw [Program.run_bind]
        dsimp only [repairService, memoryIndexStores] at hcount
        rw [hcount]
        rfl
      | error error =>
        obtain ⟨message, rfl⟩ := completeDeleteFromIndex_error hcall
        exact ih world

end Run

/-! ## The rest of a run -/

section Rest

variable {P : Type} {adapter : MemoryStrategyAdapter P} {sha256 : String → String}
  {isoformat : Instant → String} {pages limit : Nat} {memoryId tenantId : String}

theorem quiet_setIndexState (store : MemoryStore) (other otherTenant : String)
    (expected : Option String) (status : MemoryIndexStatus) (external : Option String)
    (updatedAt : Instant) :
    Quiet memoryId store (store.setIndexState other otherTenant expected status external
      updatedAt).2 := by
  unfold MemoryStore.setIndexState
  split
  · exact .refl memoryId store
  · next item hget =>
    split
    · exact .refl memoryId store
    · next hcurrent =>
      simp only [Bool.or_eq_true, decide_eq_true_eq, not_or, not_not] at hcurrent
      refine ⟨fun hinactive => ?_, rfl, rfl⟩
      refine Table.get?_put_ne _ fun hid => ?_
      have hother : other = memoryId := (memoryId_of_get? hget).symm.trans hid
      exact hinactive item (hother ▸ hget) hcurrent.1.2

theorem quiet_addOperation {store store' : MemoryStore} {operation added : MemoryIndexOperation}
    (h : store.addOperation operation = .ok (added, store')) : Quiet memoryId store store' := by
  unfold MemoryStore.addOperation at h
  split at h
  · cases h
    exact ⟨fun _ => rfl, rfl, rfl⟩
  · split at h
    · cases h
    · obtain ⟨_, -, h⟩ := bind_eq_ok.1 h
      cases h
      exact .refl memoryId store

theorem quiet_addEvent {store store' : MemoryStore} {event : MemoryEvent}
    (hevent : event.eventType ≠ "memory_deleted_tombstone") (h : store.addEvent event = .ok store') :
    Quiet memoryId store store' := by
  unfold MemoryStore.addEvent at h
  split at h
  · obtain ⟨_, -, h⟩ := bind_eq_ok.1 h
    cases h
    exact .refl memoryId store
  · cases h
    exact ⟨fun _ => rfl, rfl, by simp [tombstones, hevent]⟩

abbrev Spares (memoryId : String) {α : Type} (x : IndexProgram MemoryStore P α) : Prop :=
  x.Does (OnStore (Quiet memoryId))

open Program MemoryIndexRepairService

theorem spares_canonicalPages (pageSize pages : Nat) :
    ∀ cursor values, Spares memoryId
      ((repairService adapter sha256 isoformat limit).canonicalPages tenantId pageSize pages cursor
        values) := by
  induction pages with
  | zero => exact fun _ _ => does_throw _
  | succ pages ih =>
    intro cursor values
    refine does_bind (does_clock (Quiet.refl memoryId)) fun now => ?_
    refine does_bind (does_storeLook (Quiet.refl memoryId) _) fun page => ?_
    split
    · exact does_throw _
    · split
      · exact does_pure _
      · exact ih _ _

theorem spares_allCanonical (pageSize : Nat) : Spares memoryId
    ((repairService adapter sha256 isoformat pages).allCanonical tenantId pageSize) := by
  unfold allCanonical
  split
  · exact does_throw _
  · exact spares_canonicalPages pageSize pages none []

theorem spares_providerPages (pageSize pages : Nat) :
    ∀ offset values, Spares memoryId
      ((repairService adapter sha256 isoformat limit).providerPages tenantId pageSize pages offset
        values) := by
  induction pages with
  | zero => exact fun _ _ => does_throw _
  | succ pages ih =>
    intro offset values
    refine does_bind (does_providerCall (Quiet.refl memoryId) _ _) fun scan => ?_
    split
    · exact does_pure _
    · split
      · exact does_pure _
      · exact ih _ _

theorem spares_allProviderRecords (pageSize : Nat) : Spares memoryId
    ((repairService adapter sha256 isoformat pages).allProviderRecords tenantId pageSize) := by
  unfold allProviderRecords
  split
  · exact does_throw _
  · exact spares_providerPages pageSize pages 0 []

theorem spares_deleteRecord (other external : String) : Spares memoryId
    ((repairService adapter sha256 isoformat pages).deleteRecord other external) :=
  does_providerCall (Quiet.refl memoryId) _ _

theorem spares_deleteAll (records : List MemoryProviderRecord) :
    ∀ run, Spares memoryId
      ((repairService adapter sha256 isoformat pages).deleteAll records run) := by
  induction records with
  | nil => exact fun run => does_pure run
  | cons record rest ih => exact fun run => does_bind (spares_deleteRecord _ _) fun _ => ih _

theorem spares_deleteDuplicates (other : String) (records : List MemoryProviderRecord) :
    ∀ run, Spares memoryId
      ((repairService adapter sha256 isoformat pages).deleteDuplicates other records run) := by
  induction records with
  | nil => exact fun run => does_pure run
  | cons record rest ih => exact fun run => does_bind (spares_deleteRecord _ _) fun _ => ih _

theorem spares_recordIndexable (record : MemoryProviderRecord) : Spares memoryId
    ((repairService adapter sha256 isoformat pages).recordIndexable tenantId record) := by
  unfold recordIndexable
  split
  · exact does_pure false
  · refine does_bind (does_storeLook (Quiet.refl memoryId) _) fun latest => ?_
    exact does_bind (does_clock (Quiet.refl memoryId)) fun now => does_pure _

theorem spares_deleteOrphans (records : List MemoryProviderRecord) :
    ∀ run, Spares memoryId
      ((repairService adapter sha256 isoformat pages).deleteOrphans tenantId records run) := by
  induction records with
  | nil => exact fun run => does_pure run
  | cons record rest ih =>
    intro run
    unfold deleteOrphans
    split
    · exact ih run
    · refine does_bind (spares_recordIndexable record) fun indexable => ?_
      split
      · exact ih run
      · exact does_bind (spares_deleteRecord _ _) fun _ => ih _

theorem spares_compensateLostCas (snapshot : MemoryItem) (external : String) : Spares memoryId
    ((repairService adapter sha256 isoformat pages).compensateLostCas tenantId snapshot external) := by
  refine does_bind (does_clock (Quiet.refl memoryId)) fun now => ?_
  refine does_bind (does_storePerform (Quiet.refl memoryId) fun _ _ _ h => quiet_addOperation h)
    fun _ => ?_
  refine does_bind (spares_deleteRecord _ _) fun deleted => ?_
  refine does_bind (does_storeLook (Quiet.refl memoryId) _) fun latest => ?_
  refine does_bind (does_clock (Quiet.refl memoryId)) fun now => ?_
  split
  · exact does_bind (does_storeCall fun store => quiet_setIndexState store ..) fun _ => does_pure _
  · exact does_pure _

theorem spares_writeItem (item : MemoryItem) (keeper : Option MemoryProviderRecord)
    (run : RepairRun) : Spares memoryId
    ((repairService adapter sha256 isoformat pages).writeItem tenantId item keeper run) := by
  refine does_bind (does_clock (Quiet.refl memoryId)) fun now => ?_
  refine does_bind (does_providerCall (Quiet.refl memoryId) _ _) fun result => ?_
  refine does_bind (does_clock (Quiet.refl memoryId)) fun now => ?_
  split
  · exact does_bind (does_storeCall fun store => quiet_setIndexState store ..) fun _ => does_pure _
  · refine does_bind (does_storeCall fun store => quiet_setIndexState store ..) fun stored => ?_
    split
    · exact does_bind (spares_compensateLostCas item _) fun _ => does_pure _
    · split
      · exact does_pure _
      · exact does_pure _

theorem spares_repairItem (records : List MemoryProviderRecord) (snapshot : MemoryItem)
    (run : RepairRun) : Spares memoryId
    ((repairService adapter sha256 isoformat pages).repairItem tenantId records snapshot run) := by
  refine does_bind (does_storeLook (Quiet.refl memoryId) _) fun item => ?_
  refine does_bind (does_clock (Quiet.refl memoryId)) fun now => ?_
  split
  · exact does_pure _
  · dsimp only
    split
    · exact spares_writeItem _ _ _
    · exact does_bind (spares_deleteDuplicates _ _ _) fun run => spares_writeItem _ _ run

theorem spares_repairItems (records : List MemoryProviderRecord) (snapshots : List MemoryItem) :
    ∀ run, Spares memoryId
      ((repairService adapter sha256 isoformat pages).repairItems tenantId records snapshots
        run) := by
  induction snapshots with
  | nil => exact fun run => does_pure run
  | cons snapshot rest ih => exact fun run => does_bind (spares_repairItem _ _ run) ih

theorem spares_repairRecords (records : List MemoryProviderRecord) (canonical : List MemoryItem)
    (finalized : Nat) (run : RepairRun) : Spares memoryId
    ((repairService adapter sha256 isoformat pages).repairRecords tenantId records canonical
      finalized run) := by
  refine does_bind (spares_repairItems records canonical run) fun run => ?_
  exact does_bind (spares_deleteOrphans records run) fun run => does_pure _

theorem spares_repairTenant (rebuild : Bool) (limit finalized : Nat) : Spares memoryId
    ((repairService adapter sha256 isoformat pages).repairTenant tenantId rebuild limit
      finalized) := by
  refine does_bind (spares_allCanonical limit) fun canonical => ?_
  refine does_bind (spares_allProviderRecords limit) fun scanned => ?_
  cases scanned with
  | error code => exact does_pure _
  | ok records =>
    dsimp only
    split
    · refine does_bind (spares_deleteAll records _) fun run => ?_
      split
      · exact does_pure _
      · exact does_bind (spares_allCanonical limit) fun canonical => spares_repairRecords _ _ _ _
    · exact spares_repairRecords _ _ _ _

theorem spares_recordRun (rebuild : Bool) (latencyMs : Nat) (result : MemoryIndexRepairResult) :
    Spares memoryId
      (do
        let service := repairService adapter sha256 isoformat pages
        let occurredAt ← clock
        storePerform .step (service.stores.addEvent
          (service.repairEvent tenantId rebuild result latencyMs occurredAt))
        return result : IndexProgram MemoryStore P MemoryIndexRepairResult) := by
  refine does_bind (does_clock (Quiet.refl memoryId)) fun now => ?_
  refine does_bind (does_storePerform (Quiet.refl memoryId) fun store _ store' h => ?_)
    fun _ => does_pure result
  obtain ⟨added, hadded, hpair⟩ := map_eq_ok.1 h
  cases hpair
  exact quiet_addEvent (by simp [MemoryIndexRepairService.repairEvent]) hadded

end Rest

/-! ## Whole runs -/

section Runs

variable {P : Type} {adapter : MemoryStrategyAdapter P} {sha256 : String → String}
  {isoformat : Instant → String} {pages : Nat}

/-- A run leaves the store after its candidates, but for what a memory that is not active
does not notice. -/
theorem run_tenant_quiet (memoryId tenantId : String) (rebuild : Bool) (limit latencyMs : Nat)
    (world : IndexWorld MemoryStore P) :
    Quiet memoryId
      ((listRepairCandidates tenantId [.completed] limit world.store.operations).foldl
        (finalize sha256 world.now) world.store)
      (((repairService adapter sha256 isoformat pages).runTenant tenantId rebuild limit
        latencyMs).run world).2.store := by
  let service := repairService adapter sha256 isoformat pages
  have hfinalized : ((service.finalizeCompletedDeletes tenantId limit).run world).2.store =
      (listRepairCandidates tenantId [.completed] limit world.store.operations).foldl
        (finalize sha256 world.now) world.store := by
    unfold MemoryIndexRepairService.finalizeCompletedDeletes
    rw [Program.run_bind, run_storeLook]
    obtain ⟨count, hcount⟩ := run_finalizeOperations
      (listRepairCandidates tenantId [.completed] limit world.store.operations) world
    exact congrArg (fun result => result.2.store) hcount
  have honce : OnStore (Quiet memoryId) ((service.finalizeCompletedDeletes tenantId limit).run world).2
      ((service.runTenantOnce tenantId rebuild limit).run world).2 :=
    Program.Does.after (fun count => spares_repairTenant rebuild limit count)
      (fun _ => .refl memoryId _) (fun h h' => h.trans h') world
  have hrun : OnStore (Quiet memoryId) ((service.runTenantOnce tenantId rebuild limit).run world).2
      ((service.runTenant tenantId rebuild limit latencyMs).run world).2 :=
    Program.Does.after (fun result => spares_recordRun rebuild latencyMs result)
      (fun _ => .refl memoryId _) (fun h h' => h.trans h') world
  rw [← hfinalized]
  exact honce.trans hrun

/-- `run_tenant` ends the interrupted deletion of a memory exactly if a deletion of it is on the
page of `limit` completed operations. -/
theorem run_tenant_finalizes_iff (adapter : MemoryStrategyAdapter P) (sha256 : String → String)
    (isoformat : Instant → String) (pages : Nat) (tenantId : String) (rebuild : Bool)
    (limit latencyMs : Nat) (world : IndexWorld MemoryStore P) (item : MemoryItem)
    (hinterrupted : Interrupted world.store tenantId item)
    (hapart : Apart sha256 world.store.operations) : let after :=
      (((repairService adapter sha256 isoformat pages).runTenant tenantId rebuild limit
        latencyMs).run world).2
    Finalizes item.memoryId world.store after.store ↔
      OnPage sha256 world.store tenantId limit item := by
  intro after
  have hquiet : Quiet item.memoryId _ after.store :=
    run_tenant_quiet item.memoryId tenantId rebuild limit latencyMs world
  obtain ⟨hin, hout⟩ := foldl_finalizes_iff world.now hinterrupted.pending _
    hinterrupted.stored (candidates_page world.store tenantId limit) hapart
  constructor
  · intro hfinal
    by_contra hpage
    have hkept := ((hout hpage).trans hquiet).item (by
      simp [hinterrupted.stored, hinterrupted.pending])
    rw [hfinal.item, hinterrupted.stored] at hkept
    cases hkept
  · exact fun hpage => (hin hpage).quiet hquiet

def sampleItem : MemoryItem where
  memoryId := "mem"
  scope := "user_profile"
  subjectType := "user"
  subjectId := "u"
  userId := some "u"
  tenantId := some "t"
  agentId := none
  content := "vegetarian"
  structuredValue := []
  source := "formation"
  confidence := 1
  importance := 1
  visibility := .user
  ttlExpiresAt := none
  metadata := []
  memoryKey := some "diet"
  candidateHash := none
  currentRevisionId := some "rev"
  currentRevisionNo := some 1
  formationJobId := none
  lifecycleStatus := .deletionPending
  indexStatus := some .deletionPending
  canonicalRefs := []
  createdAt := 1
  updatedAt := 3

def sampleOperation (id memoryId : String) (operation : MemoryIndexOperationType)
    (updatedAt : Instant) : MemoryIndexOperation where
  indexOperationId := id
  idempotencyKey := id
  operation := operation
  memoryId := memoryId
  revisionId := some "rev"
  tenantId := "t"
  externalMemoryId := none
  status := .completed
  attemptCount := 1
  maxAttempts := 5
  leaseOwner := none
  leaseToken := none
  leaseExpiresAt := none
  nextAttemptAt := none
  lastErrorCode := none
  lastErrorMetadata := []
  createdAt := 1
  updatedAt := updatedAt

/-- The ADD of the memory and its deletion are completed, and the item is still there. -/
def sampleStore : MemoryStore :=
  let store := MemoryStore.empty.putOperation (sampleOperation "a" "mem" .add 2)
  { store.putOperation (sampleOperation "b" "mem" .delete 4) with
    items := Table.empty.put sampleItem }

def sampleRun (limit : Nat) : Except IndexError MemoryIndexRepairResult × IndexWorld MemoryStore Unit :=
  ((repairService repositoryAdapter id (fun _ => "") 5).runTenant "t" false limit 0).run
    ⟨sampleStore, (), 9⟩

theorem interrupted_sampleStore : Interrupted sampleStore "t" sampleItem where
  stored := rfl
  tenantId := rfl
  pending := rfl
  completed := ⟨sampleOperation "b" "mem" .delete 4, by decide, rfl, rfl, rfl, rfl, rfl, rfl⟩

theorem apart_sampleStore : Apart id sampleStore.operations := by
  unfold Apart
  decide

theorem run_tenant_finalizes_iff_sampleStore :
    (Finalizes "mem" sampleStore (sampleRun 2).2.store ↔ OnPage id sampleStore "t" 2 sampleItem) ∧
      OnPage id sampleStore "t" 2 sampleItem := by
  refine ⟨run_tenant_finalizes_iff repositoryAdapter id (fun _ => "") 5 "t" false 2 0
    ⟨sampleStore, (), 9⟩ sampleItem interrupted_sampleStore apart_sampleStore, ?_⟩
  exact ⟨sampleOperation "b" "mem" .delete 4, by decide, ⟨rfl, rfl, rfl, rfl, rfl, rfl⟩,
    by decide⟩

/-- On a page of one operation the repair sees the ADD only. -/
theorem run_tenant_misses_deletion :
    Interrupted sampleStore "t" sampleItem ∧
      (sampleRun 1).1.toOption.isSome = true ∧
      (sampleRun 1).2.store.items.get? "mem" = some sampleItem ∧
      ¬Finalizes "mem" sampleStore (sampleRun 1).2.store := by
  have hkept : (sampleRun 1).2.store.items.get? "mem" = some sampleItem := by decide
  refine ⟨interrupted_sampleStore, by decide, hkept, fun h => ?_⟩
  rw [h.item] at hkept
  cases hkept

end Runs

end OpenIntentRouter.Memories.InterruptedDeletions
