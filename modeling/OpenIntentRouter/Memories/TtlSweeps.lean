import OpenIntentRouter.Memories.DatabaseSweeps

/-!
# Sweeps of expired memories

A sweep should request the deletion of every expired item whose own request
would be accepted, whatever the other items are. Its loop ends with the first
request that raises: an item without an owner or with an empty key, listed
first, keeps every later one from being deleted.

Any service, both stores, a clock that reads any time at each request, and a limit that cuts
nothing off.

* `Removable`: an item whose own request would be written;
* `InOrder`: no item expires before such a one but others like it, which leave it so;
* `run_once_isolates_iff`: a sweep isolates exactly the stores in order;
* `ownerless_item_ends_sweep`: the one that is not.
-/
namespace OpenIntentRouter.Memories.TtlSweeps

open Core Core.Except Schemas Services Repositories.MemoryIndex MemoryTtlSweeper DatabaseSweeps

/-! ## The requests of a sweep, in memory -/

structure Target (service : MemoryLifecycleService) (item : MemoryItem) (store : MemoryStore)
    (stored : MemoryItem) : Prop where
  get : store.items.get? item.memoryId = some stored
  named : IsTarget (ttlOperation service item) stored
  active : stored.lifecycleStatus = .active
  current : stored.currentRevisionId = item.currentRevisionId
  event : ∀ event ∈ store.events, event.eventId ≠ eventId service item
  index : validateIndexIdentity store (deletionIndex service item 0) = .ok ()

def Writes (service : MemoryLifecycleService) (item : MemoryItem) (store : MemoryStore) : Prop :=
  Valid item ∧ ∃ stored, Target service item store stored

structure Replayed (service : MemoryLifecycleService) (item : MemoryItem) (store : MemoryStore)
    (request : DeleteRequest) : Prop where
  event : store.events.find? (·.eventId = eventId service item) = some request.event
  operation : store.operations.get?
    ((store.byIdempotency.get? (idempotencyKey service item)).getD "") = some request.indexOperation
  sameEvent : validateEventReplay request.event (deletionEvent service item 0) = .ok ()
  sameIndex : validateIndexReplay request.indexOperation (deletionIndex service item 0) = .ok ()
  found : request.item = store.items.get? item.memoryId
  named : ∀ stored, store.items.get? item.memoryId = some stored →
    IsTarget (ttlOperation service item) stored ∧
      stored.currentRevisionId = item.currentRevisionId
  gone : store.items.get? item.memoryId = none → request.indexOperation.status = .completed
  replay : request.replay = true

/-- The store after the `k`-th request is written. -/
def next (service : MemoryLifecycleService) (clock : Nat → Instant) (k : Nat) (item : MemoryItem)
    (store : MemoryStore) : MemoryStore :=
  match store.items.get? item.memoryId with
  | some stored =>
    (store.writeDelete stored (deletionEvent service item (clock k))
      (deletionIndex service item (clock k))).scrub service.redaction item.memoryId
        (ttlOperation service item)
  | none => store

def Moved (item : MemoryItem) (store : MemoryStore) : Prop :=
  (store.items.get? item.memoryId).map (·.lifecycleStatus) = some .deletionPending

/-- What a request writes for the first item is nothing that the second one needs. -/
structure Apart (service : MemoryLifecycleService) (x y : MemoryItem) (store : MemoryStore) :
    Prop where
  event : eventId service x ≠ eventId service y
  idempotency : idempotencyKey service x ≠ idempotencyKey service y
  operation : store.byIdempotency.get? (idempotencyKey service y) ≠
    some (indexOperationId service x)

variable {result : DeleteRequest × MemoryStore} {request : DeleteRequest}

section Requests

variable {service : MemoryLifecycleService} {clock : Nat → Instant} {k : Nat}
  {item x y : MemoryItem} {store : MemoryStore} {stored : MemoryItem}

theorem Target.id (h : Target service item store stored) : stored.memoryId = item.memoryId :=
  Table.key_of_get? h.get

theorem requestItem_ok :
    requestItem service clock k item store = .ok result ↔ Valid item ∧
      store.requestDelete service.redaction (ttlOperation service item)
        (deletionEvent service item (clock k)) (deletionIndex service item (clock k)) =
          .ok result :=
  request_ok fun operation memoryId => store.requestDelete service.redaction operation
    (service.deletionEvent operation (clock k))
    (service.indexOperation operation memoryId .delete operation.revisionId (clock k))

theorem requestDelete_eq (hvalid : Valid item) :
    store.requestDelete service.redaction (ttlOperation service item)
        (deletionEvent service item (clock k)) (deletionIndex service item (clock k)) =
      match store.events.find? (·.eventId = eventId service item) with
      | some existing =>
        match store.operations.get?
            ((store.byIdempotency.get? (idempotencyKey service item)).getD "") with
        | none => .error (.valueError "Incomplete deletion replay state")
        | some index => do
          validateEventReplay existing (deletionEvent service item 0)
          validateIndexReplay index (deletionIndex service item 0)
          match store.items.get? item.memoryId with
          | some stored => do
            let _ ← validateOperationTarget (some stored) (ttlOperation service item) false
            Except.ensure (stored.currentRevisionId = item.currentRevisionId) replayConflict
          | none =>
            Except.ensure (index.status = .completed)
              (.valueError "Incomplete deletion replay state")
          return (⟨store.items.get? item.memoryId, existing, index, true⟩, store)
      | none => do
        let stored ← validateOperationTarget (store.items.get? item.memoryId)
          (ttlOperation service item) true
        Except.ensure (stored.currentRevisionId = item.currentRevisionId)
          (.valueError "Memory lifecycle precondition changed")
        validateIndexIdentity store (deletionIndex service item 0)
        return (⟨some (deletingItem stored (deletionEvent service item (clock k))),
            deletionEvent service item (clock k),
            deleteOperation (deletionIndex service item (clock k)) stored, false⟩,
          (store.writeDelete stored (deletionEvent service item (clock k))
            (deletionIndex service item (clock k))).scrub service.redaction item.memoryId
              (ttlOperation service item)) := by
  have hrequired : requiredMemoryId (ttlOperation service item) = .ok item.memoryId := by
    simp [requiredMemoryId, ttlOperation, hvalid.memory]
  rw [MemoryStore.requestDelete, hrequired, ok_bind]
  rfl

theorem replayed_iff {existing : MemoryEvent} (hvalid : Valid item)
    (hfind : store.events.find? (·.eventId = eventId service item) = some existing) :
    store.requestDelete service.redaction (ttlOperation service item)
        (deletionEvent service item (clock k)) (deletionIndex service item (clock k)) = .ok result ↔
      Replayed service item store result.1 ∧ result.2 = store := by
  obtain ⟨request, store'⟩ := result
  rw [requestDelete_eq hvalid, hfind]
  dsimp only
  constructor
  · intro h
    split at h
    · cases h
    · next index hindex =>
      obtain ⟨_, hsameEvent, h⟩ := bind_eq_ok.1 h
      obtain ⟨_, hsameIndex, h⟩ := bind_eq_ok.1 h
      cases hget : store.items.get? item.memoryId with
      | none =>
        rw [hget] at h
        obtain ⟨_, hgone, h⟩ := bind_eq_ok.1 h
        cases h
        rw [ensure_eq_ok, decide_eq_true_eq] at hgone
        exact ⟨⟨hfind, hindex, hsameEvent, hsameIndex, hget.symm,
          fun stored h => absurd (hget.symm.trans h) (by simp), fun _ => hgone, rfl⟩, rfl⟩
      | some stored =>
        rw [hget] at h
        obtain ⟨_, hnamed, h⟩ := bind_eq_ok.1 h
        obtain ⟨_, hcurrent, h⟩ := bind_eq_ok.1 h
        cases h
        obtain ⟨heq, hnamed, -⟩ := validateOperationTarget_iff.1 hnamed
        cases heq
        rw [ensure_eq_ok, decide_eq_true_eq] at hcurrent
        refine ⟨⟨hfind, hindex, hsameEvent, hsameIndex, hget.symm, ?_,
          fun h => absurd (hget.symm.trans h) (by simp), rfl⟩, rfl⟩
        intro other hother
        cases hget.symm.trans hother
        exact ⟨hnamed, hcurrent⟩
  · rintro ⟨⟨hevent, hindex, hsameEvent, hsameIndex, hfound, hnamed, hgone, hreplay⟩, hstore⟩
    obtain ⟨found, event, index, replay⟩ := request
    obtain rfl : existing = event := Option.some.inj (hfind.symm.trans hevent)
    obtain rfl : replay = true := hreplay
    obtain rfl : store = store' := hstore.symm
    obtain rfl : found = store.items.get? item.memoryId := hfound
    rw [hindex]
    refine bind_eq_ok.2 ⟨(), hsameEvent, bind_eq_ok.2 ⟨(), hsameIndex, ?_⟩⟩
    cases hget : store.items.get? item.memoryId with
    | none =>
      exact bind_eq_ok.2 ⟨(), ensure_eq_ok.2 (decide_eq_true (hgone hget)), rfl⟩
    | some stored =>
      obtain ⟨hnamed, hcurrent⟩ := hnamed stored hget
      refine bind_eq_ok.2 ⟨stored, validateOperationTarget_iff.2 ⟨rfl, hnamed, by simp⟩, ?_⟩
      exact bind_eq_ok.2 ⟨(), ensure_eq_ok.2 (decide_eq_true hcurrent), rfl⟩

theorem written_iff (hvalid : Valid item)
    (hfind : store.events.find? (·.eventId = eventId service item) = none) :
    store.requestDelete service.redaction (ttlOperation service item)
        (deletionEvent service item (clock k)) (deletionIndex service item (clock k)) = .ok result ↔
      ∃ stored, Target service item store stored ∧
        result = (⟨some (deletingItem stored (deletionEvent service item (clock k))),
          deletionEvent service item (clock k),
          deleteOperation (deletionIndex service item (clock k)) stored, false⟩,
          next service clock k item store) := by
  have hnew : ∀ event ∈ store.events, event.eventId ≠ eventId service item := by
    simpa using List.find?_eq_none.1 hfind
  rw [requestDelete_eq hvalid, hfind]
  dsimp only
  constructor
  · intro h
    obtain ⟨stored, htarget, h⟩ := bind_eq_ok.1 h
    obtain ⟨_, hcurrent, h⟩ := bind_eq_ok.1 h
    obtain ⟨_, hindex, h⟩ := bind_eq_ok.1 h
    obtain ⟨hget, hnamed, hactive⟩ := validateOperationTarget_iff.1 htarget
    rw [ensure_eq_ok, decide_eq_true_eq] at hcurrent
    cases h
    refine ⟨stored, ⟨hget, hnamed, hactive rfl, hcurrent, hnew, hindex⟩, ?_⟩
    rw [next, hget]
  · rintro ⟨stored, htarget, rfl⟩
    refine bind_eq_ok.2 ⟨stored, validateOperationTarget_iff.2
      ⟨htarget.get, htarget.named, fun _ => htarget.active⟩, ?_⟩
    refine bind_eq_ok.2 ⟨(), ensure_eq_ok.2 (decide_eq_true htarget.current), ?_⟩
    refine bind_eq_ok.2 ⟨(), htarget.index, ?_⟩
    rw [next, htarget.get]
    rfl

/-- A request is written, or answered from what an earlier one left. -/
theorem request_iff {store' : MemoryStore} :
    requestItem service clock k item store = .ok (request, store') ↔
      Writes service item store ∧ store' = next service clock k item store ∧
        (∃ stored, Target service item store stored ∧
          request = ⟨some (deletingItem stored (deletionEvent service item (clock k))),
            deletionEvent service item (clock k),
            deleteOperation (deletionIndex service item (clock k)) stored, false⟩) ∨
      Valid item ∧ ¬Writes service item store ∧ Replayed service item store request ∧
        store' = store := by
  rw [requestItem_ok]
  cases hfind : store.events.find? (·.eventId = eventId service item) with
  | none =>
    have hnot : ¬Replayed service item store request :=
      fun h => absurd (hfind.symm.trans h.event) (by simp)
    constructor
    · rintro ⟨hvalid, h⟩
      obtain ⟨stored, htarget, heq⟩ := (written_iff hvalid hfind).1 h
      cases heq
      exact .inl ⟨⟨hvalid, stored, htarget⟩, rfl, stored, htarget, rfl⟩
    · rintro (⟨⟨hvalid, -⟩, rfl, stored, htarget, rfl⟩ | ⟨-, -, hreplayed, -⟩)
      · exact ⟨hvalid, (written_iff hvalid hfind).2 ⟨stored, htarget, rfl⟩⟩
      · exact absurd hreplayed hnot
  | some existing =>
    have hnot : ∀ stored, ¬Target service item store stored := fun stored h =>
      h.event existing (List.mem_of_find?_eq_some hfind)
        (by simpa using List.find?_some hfind)
    constructor
    · rintro ⟨hvalid, h⟩
      obtain ⟨hreplayed, hstore⟩ := (replayed_iff hvalid hfind).1 h
      exact .inr ⟨hvalid, fun hwrites => hwrites.2.elim hnot, hreplayed, hstore⟩
    · rintro (⟨-, -, stored, htarget, -⟩ | ⟨hvalid, -, hreplayed, hstore⟩)
      · exact absurd htarget (hnot stored)
      · exact ⟨hvalid, (replayed_iff hvalid hfind).2 ⟨hreplayed, hstore⟩⟩

/-! ## What a request leaves to the other items -/

section Next

variable (htarget : Target service x store stored)
include htarget

theorem next_eq : next service clock k x store =
    (store.writeDelete stored (deletionEvent service x (clock k))
      (deletionIndex service x (clock k))).scrub service.redaction x.memoryId
        (ttlOperation service x) := by
  rw [next, htarget.get]

theorem next_items : (next service clock k x store).items =
    store.items.put (deletingItem stored (deletionEvent service x (clock k))) := by
  rw [next_eq htarget]
  rfl

theorem next_events : (next service clock k x store).events =
    (store.events ++ [deletionEvent service x (clock k)]).map
      (scrubEvent service.redaction x.memoryId (ttlOperation service x)) := by
  rw [next_eq htarget]
  rfl

theorem get?_next (hne : x.memoryId ≠ y.memoryId) :
    (next service clock k x store).items.get? y.memoryId = store.items.get? y.memoryId := by
  rw [next_items htarget]
  refine Table.get?_put_ne _ ?_
  show stored.memoryId ≠ y.memoryId
  rw [htarget.id]
  exact hne

theorem get?_next_self : (next service clock k x store).items.get? x.memoryId =
    some (deletingItem stored (deletionEvent service x (clock k))) := by
  rw [next_items htarget, ← htarget.id]
  exact Table.get?_put_self _ _

theorem get?_next_operations (id : String) : (next service clock k x store).operations.get? id =
    if indexOperationId service x = id then
      some (deleteOperation (deletionIndex service x (clock k)) stored)
    else store.operations.get? id := by
  rw [next_eq htarget]
  exact Table.get?_put ..

theorem get?_next_byIdempotency (key : String) :
    (next service clock k x store).byIdempotency.get? key =
      if idempotencyKey service x = key then some (indexOperationId service x)
      else store.byIdempotency.get? key := by
  rw [next_eq htarget]
  exact Dict.get?_set ..

theorem new_next_events (id : String) :
    (∀ event ∈ (next service clock k x store).events, event.eventId ≠ id) ↔
      (∀ event ∈ store.events, event.eventId ≠ id) ∧ eventId service x ≠ id := by
  rw [next_events htarget, List.forall_mem_map, List.forall_mem_append, List.forall_mem_singleton]
  rfl

/-- The index operation of another item passes its check if it did, and its key and the operation
under its key are none that were written. -/
theorem index_next (hne : x.memoryId ≠ y.memoryId) :
    validateIndexIdentity (next service clock k x store) (deletionIndex service y 0) = .ok () ↔
      validateIndexIdentity store (deletionIndex service y 0) = .ok () ∧
        idempotencyKey service x ≠ idempotencyKey service y ∧
        store.byIdempotency.get? (idempotencyKey service y) ≠ some (indexOperationId service x) := by
  -- an operation of the item is none of the other one
  have hother (id : String) (hid : indexOperationId service x = id) :
      (next service clock k x store).operations.get? id =
        some (deleteOperation (deletionIndex service x (clock k)) stored) := by
    rw [get?_next_operations htarget, if_pos hid]
  have hmemory : ¬(deleteOperation (deletionIndex service x (clock k)) stored).memoryId =
      (deletionIndex service y 0).memoryId := hne
  have hnamed : (deletionIndex service y 0).idempotencyKey = idempotencyKey service y := rfl
  unfold validateIndexIdentity
  rw [hnamed, get?_next_byIdempotency htarget]
  by_cases hkey : idempotencyKey service x = idempotencyKey service y
  · simp only [hkey, if_pos, ne_eq, not_true_eq_false, false_and, and_false, iff_false]
    rw [hother _ rfl]
    simp [Except.ensure, hmemory]
  · rw [if_neg hkey]
    cases hget : store.byIdempotency.get? (idempotencyKey service y) with
    | none => simp [hkey]
    | some id =>
      by_cases hid : indexOperationId service x = id
      · simp only [hother id hid, hid, not_true_eq_false, and_false, iff_false, ne_eq]
        simp [Except.ensure, hmemory]
      · have hne : some id ≠ some (indexOperationId service x) :=
          fun h => hid (Option.some.inj h).symm
        simp only [get?_next_operations htarget, if_neg hid, hkey, hne, ne_eq, not_false_eq_true,
          and_true]

theorem target_next (hne : x.memoryId ≠ y.memoryId) {other : MemoryItem} :
    Target service y (next service clock k x store) other ↔
      Target service y store other ∧ Apart service x y store := by
  constructor
  · rintro ⟨hget, hnamed, hactive, hcurrent, hevent, hindex⟩
    rw [get?_next htarget hne] at hget
    obtain ⟨hevent, hevents⟩ := (new_next_events htarget _).1 hevent
    obtain ⟨hindex, hkeys, hoperations⟩ := (index_next htarget hne).1 hindex
    exact ⟨⟨hget, hnamed, hactive, hcurrent, hevent, hindex⟩, hevents, hkeys, hoperations⟩
  · rintro ⟨⟨hget, hnamed, hactive, hcurrent, hevent, hindex⟩, hevents, hkeys, hoperations⟩
    exact ⟨(get?_next htarget hne).trans hget, hnamed, hactive, hcurrent,
      (new_next_events htarget _).2 ⟨hevent, hevents⟩,
      (index_next htarget hne).2 ⟨hindex, hkeys, hoperations⟩⟩

/-- What is answered from an earlier request was so before another item was written. -/
theorem replayed_next (hne : x.memoryId ≠ y.memoryId)
    (h : Replayed service y (next service clock k x store) request) :
    Replayed service y store request := by
  obtain ⟨hevent, hindex, hsameEvent, hsameIndex, hfound, hnamed, hgone, hreplay⟩ := h
  rw [get?_next htarget hne] at hfound hnamed hgone
  have hreplayed := hsameEvent
  have hindexed := hsameIndex
  simp only [validateEventReplay, validateIndexReplay, ensure_eq_ok, Bool.and_eq_true,
    decide_eq_true_eq] at hreplayed hindexed
  refine ⟨?_, ?_, hsameEvent, hsameIndex, hfound, hnamed, hgone, hreplay⟩
  · -- the stored event is one of the item, so it is neither new nor scrubbed
    rw [next_events htarget, List.find?_map, Option.map_eq_some_iff] at hevent
    obtain ⟨before, hbefore, heq⟩ := hevent
    have hmemory : before.memoryId = some y.memoryId := by
      rw [← heq] at hreplayed
      exact hreplayed.1.1.1.1.1.1.1.1.2
    have hscrub : scrubEvent service.redaction x.memoryId (ttlOperation service x) before =
        before := by
      have hother : before.memoryId ≠ some x.memoryId := by
        rw [hmemory]
        exact fun hid => hne (Option.some.inj hid).symm
      simp [scrubEvent, hother]
    rw [hscrub] at heq
    rw [← heq]
    change (store.events ++ [_]).find? (·.eventId = eventId service y) = some before at hbefore
    rw [List.find?_append] at hbefore
    rcases Option.or_eq_some_iff.1 hbefore with hold | ⟨-, hnew⟩
    · exact hold
    · rw [List.mem_singleton.1 (List.mem_of_find?_eq_some hnew)] at hmemory
      exact absurd (Option.some.inj hmemory) hne
  · have hmemory : request.indexOperation.memoryId = y.memoryId := hindexed.1.1.2
    have hold (id : String)
        (hid : (next service clock k x store).operations.get? id = some request.indexOperation) :
        store.operations.get? id = some request.indexOperation := by
      rw [get?_next_operations htarget] at hid
      split at hid
      · rw [← Option.some.inj hid] at hmemory
        exact absurd hmemory hne
      · exact hid
    have hthere := hold _ hindex
    rw [get?_next_byIdempotency htarget] at hthere hindex
    split at hthere
    · next hkey =>
      rw [if_pos hkey, get?_next_operations htarget, Option.getD_some, if_pos rfl,
        Option.some.injEq] at hindex
      rw [← hindex] at hmemory
      exact absurd hmemory hne
    · exact hthere

end Next

def requests (service : MemoryLifecycleService) (clock : Nat → Instant) :
    Batches.Requests MemoryItem DeleteRequest MemoryStore StoreError String where
  key := MemoryItem.memoryId
  request := requestItem service clock
  Writes := Writes service
  next := next service clock
  Moved := Moved
  Apart := Apart service
  accepted_at := by
    rintro k k' item store ⟨request, store'⟩ h
    rcases request_iff.1 h with ⟨hwrites, -, stored, htarget, -⟩ | ⟨hvalid, hnot, hreplayed, -⟩
    · exact ⟨_, request_iff.2 (.inl ⟨hwrites, rfl, stored, htarget, rfl⟩)⟩
    · exact ⟨_, request_iff.2 (.inr ⟨hvalid, hnot, hreplayed, rfl⟩)⟩
  ok := by
    intro k item store request store' h
    rcases request_iff.1 h with ⟨hwrites, hnext, -⟩ | ⟨-, hnot, -, hstore⟩
    · exact .inl ⟨hwrites, hnext⟩
    · exact .inr ⟨hnot, hstore⟩
  written := by
    rintro k item store ⟨hvalid, stored, htarget⟩
    exact ⟨_, request_iff.2 (.inl ⟨⟨hvalid, stored, htarget⟩, rfl, stored, htarget, rfl⟩)⟩
  moved_next := by
    rintro k item store ⟨-, stored, htarget⟩
    rw [Moved, get?_next_self htarget]
    rfl
  moved_other := by
    rintro k x y store hne ⟨-, stored, htarget⟩
    rw [Moved, Moved, get?_next htarget hne]
  writes_next := by
    rintro k x y store hne ⟨-, stored, htarget⟩
    unfold Writes
    simp only [target_next htarget hne, exists_and_right, and_assoc]
  apart_next := by
    rintro k x y z store - - ⟨-, stored, htarget⟩ - hapart
    constructor
    · rintro ⟨hevent, hkey, hoperation⟩
      rw [get?_next_byIdempotency htarget, if_neg hapart.idempotency] at hoperation
      exact ⟨hevent, hkey, hoperation⟩
    · rintro ⟨hevent, hkey, hoperation⟩
      refine ⟨hevent, hkey, ?_⟩
      rw [get?_next_byIdempotency htarget, if_neg hapart.idempotency]
      exact hoperation
  repeats_next := by
    rintro k k' x y store ⟨request, store'⟩ hne ⟨-, stored, htarget⟩ hnot h
    rcases request_iff.1 h with ⟨hwrites, -⟩ | ⟨hvalid, -, hreplayed, -⟩
    · exact absurd hwrites hnot
    by_cases hwrites : Writes service y store
    · obtain ⟨-, other, hother⟩ := id hwrites
      exact ⟨_, request_iff.2 (.inl ⟨hwrites, rfl, other, hother, rfl⟩)⟩
    · exact ⟨_, request_iff.2 (.inr ⟨hvalid, hwrites, replayed_next htarget hne hreplayed, rfl⟩)⟩

end Requests

/-! ## Sweeps in memory -/

def expired (now : Instant) (store : MemoryStore) : List MemoryItem :=
  store.items.values.filter fun item =>
    item.lifecycleStatus = .active && item.ttlExpiresAt.any (· ≤ now)

/-- The request of an expired item alone is written: its operation names it and the ids of the
request are new. -/
structure Removable (service : MemoryLifecycleService) (store : MemoryStore) (item : MemoryItem) :
    Prop where
  owned : Owned item
  event : ∀ event ∈ store.events, event.eventId ≠ eventId service item
  index : validateIndexIdentity store (deletionIndex service item 0) = .ok ()

/-- Every expired item whose own request is accepted awaits its deletion after a sweep. -/
def Isolates (service : MemoryLifecycleService) (clock : Nat → Instant) (now : Instant)
    (limit : Nat) (store : MemoryStore) : Prop :=
  ∀ item ∈ expired now store,
    (∃ k result, requestItem service clock k item store = .ok result) →
      Moved item (runOnce service clock now limit store).2

/-- No expired item whose request would be refused expires before one whose request would be
written, no request takes what the request of another item needs, and none is answered from an
earlier one. -/
structure InOrder (service : MemoryLifecycleService) (now : Instant) (store : MemoryStore) :
    Prop where
  fresh : ∀ item ∈ expired now store, Valid item → ∀ request,
    ¬Replayed service item store request
  order : ∀ x ∈ expired now store, ∀ y ∈ expired now store,
    MemoryStore.expiryKey x < MemoryStore.expiryKey y → Removable service store y →
      Removable service store x ∧ Apart service x y store

section Sweeps

variable {service : MemoryLifecycleService} {clock : Nat → Instant} {now : Instant} {limit : Nat}
  {store : MemoryStore} {item : MemoryItem}

theorem mem_expired : item ∈ expired now store ↔ store.items.get? item.memoryId = some item ∧
    item.lifecycleStatus = .active ∧ item.ttlExpiresAt.any (· ≤ now) = true := by
  simp only [expired, List.mem_filter, Table.mem_values, Bool.and_eq_true, decide_eq_true_eq]

theorem nodup_expired : ((expired now store).map MemoryItem.memoryId).Nodup := by
  refine List.Nodup.map_on ?_ (store.items.values_nodup.filter _)
  exact fun x hx y hy => Table.eq_of_key (List.mem_of_mem_filter hx) (List.mem_of_mem_filter hy)

/-- The request of an active item is written exactly if the item is removable. -/
theorem writes_iff (hget : store.items.get? item.memoryId = some item)
    (hactive : item.lifecycleStatus = .active) :
    Writes service item store ↔ Removable service store item := by
  constructor
  · rintro ⟨hvalid, stored, htarget⟩
    obtain rfl : item = stored := Option.some.inj (hget.symm.trans htarget.get)
    exact ⟨(owned_iff service).2 ⟨hvalid, htarget.named⟩, htarget.event, htarget.index⟩
  · rintro ⟨howned, hevent, hindex⟩
    obtain ⟨hvalid, hnamed⟩ := (owned_iff service).1 howned
    exact ⟨hvalid, item, hget, hnamed, hactive, rfl, hevent, hindex⟩

theorem memory_isolates_iff (hlimit : (expired now store).length ≤ limit) :
    Isolates service clock now limit store ↔ InOrder service now store := by
  have hwrites : ∀ item ∈ expired now store,
      (Writes service item store ↔ Removable service store item) := by
    intro item hitem
    obtain ⟨hget, hactive, -⟩ := mem_expired.1 hitem
    exact writes_iff hget hactive
  have hnot : ∀ item ∈ expired now store, ¬(requests service clock).Moved item store := by
    intro item hitem
    obtain ⟨hget, hactive, -⟩ := mem_expired.1 hitem
    show ¬(store.items.get? item.memoryId).map (·.lifecycleStatus) = some .deletionPending
    rw [hget, Option.map_some, hactive]
    simp
  refine (isolates_iff (requests service clock) rfl nodup_expired hnot hlimit).trans ?_
  constructor
  · rintro ⟨haccepted, horder⟩
    refine ⟨fun item hitem hvalid request hreplayed => ?_, fun x hx y hy hlt hy' => ?_⟩
    · have hnew : ¬Writes service item store := by
        rintro ⟨-, stored, htarget⟩
        exact htarget.event request.event (List.mem_of_find?_eq_some hreplayed.event)
          (by simpa using List.find?_some hreplayed.event)
      refine hnew (haccepted item hitem ⟨0, (request, store), ?_⟩)
      exact request_iff.2 (.inr ⟨hvalid, hnew, hreplayed, rfl⟩)
    · obtain ⟨hx', hapart⟩ := horder x hx y hy hlt ((hwrites y hy).2 hy')
      exact ⟨(hwrites x hx).1 hx', hapart⟩
  · rintro ⟨hfresh, horder⟩
    refine ⟨?_, fun x hx y hy hlt hy' => ?_⟩
    · rintro item hitem ⟨k, ⟨request, store'⟩, h⟩
      rcases request_iff.1 h with ⟨hw, -⟩ | ⟨hvalid, -, hreplayed, -⟩
      · exact hw
      · exact absurd hreplayed (hfresh item hitem hvalid request)
    · obtain ⟨hx', hapart⟩ := horder x hx y hy hlt ((hwrites y hy).1 hy')
      exact ⟨(hwrites x hx).2 hx', hapart⟩

end Sweeps

/-! ## Both stores -/

/-- A sweep whose limit does not cut the expired items isolates them exactly if none whose request
would be refused comes before one whose request would be written. -/
theorem run_once_isolates_iff (service : MemoryLifecycleService) (clock : Nat → Instant)
    (now : Instant) (limit : Nat) :
    (∀ store, (expired now store).length ≤ limit →
      (Isolates service clock now limit store ↔ InOrder service now store)) ∧
    ∀ tables, (DatabaseSweeps.expired now tables).length ≤ limit →
      (DatabaseSweeps.Isolates service clock now limit tables ↔
        DatabaseSweeps.InOrder service now tables) :=
  ⟨fun _ => memory_isolates_iff, fun _ => DatabaseSweeps.sweep_isolates_iff⟩

def sampleItem (memoryId : String) (userId : Option String) (expiresAt : Instant) : MemoryItem :=
  { Ledger.sampleService.newItem (Ledger.sampleOperation memoryId .add none none)
      (Ledger.sampleCandidate "vegan" Ledger.vegan_ne) memoryId 1 with
    userId := userId
    memoryKey := some memoryId
    ttlExpiresAt := some expiresAt }

/-- Two expired items, the first one with or without a user. -/
def sampleStore (userId : Option String) : MemoryStore :=
  { MemoryStore.empty with
    items := (Table.empty.put (sampleItem "mem_a" userId 2)).put
      (sampleItem "mem_b" (some "u1") 3) }

open Repositories.MemoryDatabase in
def sampleTables : MemoryTables :=
  { MemoryTables.empty with
    items := (Table.empty.put (memoryValues (sampleItem "mem_a" none 2))).put
      (memoryValues (sampleItem "mem_b" (some "u1") 3)) }

theorem inOrder_sampleStore : InOrder Ledger.sampleService 10 (sampleStore (some "u1")) where
  fresh _ _ _ _ h := by cases h.event
  order x hx y hy hlt _ := by
    have hexpired : expired 10 (sampleStore (some "u1")) =
        [sampleItem "mem_a" (some "u1") 2, sampleItem "mem_b" (some "u1") 3] := rfl
    simp only [hexpired, List.mem_cons, List.not_mem_nil, or_false] at hx hy
    obtain rfl | rfl := hx <;> obtain rfl | rfl := hy
    · exact absurd hlt (lt_irrefl _)
    · refine ⟨⟨?_, fun _ h => absurd h List.not_mem_nil, rfl⟩, by decide, by decide, by decide⟩
      exact ⟨by decide, rfl, rfl, by decide, by decide, by decide⟩
    · exact absurd hlt (by decide)
    · exact absurd hlt (lt_irrefl _)

theorem run_once_isolates_iff_sample :
    let sweep := runOnce Ledger.sampleService (fun _ => 20) 10 100 (sampleStore (some "u1"))
    Moved (sampleItem "mem_a" (some "u1") 2) sweep.2 ∧
    Moved (sampleItem "mem_b" (some "u1") 3) sweep.2 ∧
    (DatabaseSweeps.Isolates Ledger.sampleService (fun _ => 20) 10 100 sampleTables ↔
      DatabaseSweeps.InOrder Ledger.sampleService 10 sampleTables) := by
  obtain ⟨hmemory, hdatabase⟩ := run_once_isolates_iff Ledger.sampleService (fun _ => 20) 10 100
  have hisolates := (hmemory (sampleStore (some "u1")) (by decide)).2 inOrder_sampleStore
  exact ⟨hisolates _ (mem_expired.2 ⟨rfl, rfl, rfl⟩) ⟨0, _, rfl⟩,
    hisolates _ (mem_expired.2 ⟨rfl, rfl, rfl⟩) ⟨0, _, rfl⟩, hdatabase sampleTables (by decide)⟩

/-- The item without a user ends the sweep, and the other one, whose request alone is accepted,
stays active. -/
theorem ownerless_item_ends_sweep :
    (expired 10 (sampleStore none)).length ≤ 100 ∧
    ¬Isolates Ledger.sampleService (fun _ => 20) 10 100 (sampleStore none) ∧
    (DatabaseSweeps.expired 10 sampleTables).length ≤ 100 ∧
    ¬DatabaseSweeps.Isolates Ledger.sampleService (fun _ => 20) 10 100 sampleTables := by
  refine ⟨by decide, fun h => ?_, by decide, fun h => ?_⟩
  · have hmoved := h (sampleItem "mem_b" (some "u1") 3) (mem_expired.2 ⟨rfl, rfl, rfl⟩) ⟨0, _, rfl⟩
    exact absurd hmoved (by unfold Moved; decide)
  · have hmoved := h (Repositories.MemoryDatabase.memoryFromRow
      (Repositories.MemoryDatabase.memoryValues (sampleItem "mem_b" (some "u1") 3)))
      (DatabaseSweeps.mem_expired.2 ⟨_, rfl, rfl, rfl, rfl⟩) ⟨0, _, rfl⟩
    exact absurd hmoved (by unfold DatabaseSweeps.Moved; decide)

end OpenIntentRouter.Memories.TtlSweeps
