import OpenIntentRouter.Core.LTS
import OpenIntentRouter.Services.MemoryLifecycle

/-!
# The revisions of a memory

The eight calls of `app/repositories/memory_lifecycle_store.py:58-436` and
`app/repositories/memory_revisions.py:44-89` that touch items and revisions, in
any order, for any owners and with any arguments, between arbitrary changes of
the tables that belong to others (the index outbox, the events, the formation
repository) and of the index state of an item.

`commit_add` takes an item and its first revision apart and compares their ids
only, so the two may disagree until the item is revised. `_add`
(`app/services/memory_lifecycle.py:88-161`), its one caller, builds both from one
candidate (`AddedByService`). `Inv` takes the assumption that it made every
`commit_add` as a parameter; nothing else is assumed.

Results:

* `chained_append`, `chained_scrub`: the two things that happen to a history;
* `Inv.put`: an item may be replaced if its new history fits it and its key
  stays free;
* `revision_ledger`: what holds in every reachable state, and what holds beyond
  that when the service made every `commit_add`;
* `added_apart`: a `commit_add` of an item and a revision of two contents.
-/
namespace OpenIntentRouter.Memories.Ledger

open Core Core.Except Schemas Repositories.MemoryIndex Services

/-! ## Histories -/

/-- Revisions numbered on from `n`, the first superseding `previous` and each
later one its predecessor. -/
def Chained : Option String → Nat → List MemoryRevision → Prop
  | _, _, [] => True
  | previous, n, revision :: rest =>
    revision.revisionNo = n ∧ revision.supersedesRevisionId = previous ∧
      Chained (some revision.revisionId) (n + 1) rest

def lastId (history : List MemoryRevision) : Option String := history.getLast?.map (·.revisionId)

variable {revision : MemoryRevision} {history : List MemoryRevision} {event : MemoryEvent}
  {updated : MemoryItem} {index : MemoryIndexOperation} {operation : MemoryLifecycleOperation}
  {expected : Option String}

theorem chained_append :
    ∀ {previous : Option String} {n : Nat}, Chained previous n (history ++ [revision]) ↔
      Chained previous n history ∧ revision.revisionNo = n + history.length ∧
        revision.supersedesRevisionId = (lastId history).or previous := by
  induction history with
  | nil => simp [Chained, lastId]
  | cons first rest ih =>
    intro previous n
    have hlast : (lastId (first :: rest)).or previous =
        (lastId rest).or (some first.revisionId) := by
      cases hrest : rest.getLast? with
      | none => simp [lastId, List.getLast?_cons, hrest]
      | some last => simp [lastId, List.getLast?_cons, hrest]
    rw [List.cons_append, Chained, Chained, ih, hlast, List.length_cons, and_assoc, and_assoc,
      Nat.add_right_comm, Nat.add_assoc]

theorem chained_scrub :
    ∀ {previous : Option String} {n : Nat},
      Chained previous n (history.map scrubRevision) ↔ Chained previous n history := by
  induction history with
  | nil => simp [Chained]
  | cons first rest ih =>
    intro previous n
    rw [List.map_cons, Chained, Chained, ih]
    rfl

theorem lastId_scrub (history : List MemoryRevision) :
    lastId (history.map scrubRevision) = lastId history := by
  simp only [lastId, List.getLast?_map, Option.map_map]
  rfl

theorem lastId_append (history : List MemoryRevision) (revision : MemoryRevision) :
    lastId (history ++ [revision]) = some revision.revisionId := by
  simp [lastId]

/-- An active item agrees with its last revision from the second on, and with
its first if it was `built` from the candidate of the item. -/
structure Fits (built : Prop) (item : MemoryItem) (history : List MemoryRevision) : Prop where
  numbered : Chained none 1 history
  current : item.currentRevisionId = lastId history
  nonempty : history ≠ []
  content : item.lifecycleStatus = .active → built ∨ 1 < history.length →
    ∀ revision, history.getLast? = some revision →
      item.content = revision.content ∧ item.structuredValue = revision.structuredValue

variable {built : Prop}

theorem fits_next {item updated : MemoryItem} {history : List MemoryRevision}
    {revision : MemoryRevision} (h : Fits built item history)
    (hcurrent : updated.currentRevisionId = some revision.revisionId)
    (hcontent : updated.content = revision.content ∧
      updated.structuredValue = revision.structuredValue) :
    Fits built updated (history ++ [nextRevision revision history item]) where
  numbered := by
    refine chained_append.2 ⟨h.numbered, Nat.add_comm .., ?_⟩
    rw [Option.or_none, ← h.current]
    rfl
  current := by rw [lastId_append, hcurrent]; rfl
  nonempty := by simp
  content := by
    intro _ _ last hlast
    rw [List.getLast?_concat, Option.some.injEq] at hlast
    exact hlast ▸ hcontent

/-! ## The system -/

inductive Call where
  | commitAdd (item : MemoryItem) (revision : MemoryRevision) (event : MemoryEvent)
      (index : MemoryIndexOperation)
  | commitUpdate (operation : MemoryLifecycleOperation) (revision : MemoryRevision)
      (event : MemoryEvent) (index : MemoryIndexOperation) (values : UpdateValues)
  | appendRevisionAndSetCurrent (revision : MemoryRevision) (owner : MemoryOwner)
      (expectedCurrentRevisionId : Option String)
  | requestDelete (R : Redaction) (operation : MemoryLifecycleOperation) (event : MemoryEvent)
      (index : MemoryIndexOperation)
  | completeDelete (operation : MemoryLifecycleOperation) (tombstone : MemoryEvent)
      (indexOperationId : String)
  | recordDeleteFailure (operation : MemoryLifecycleOperation) (event : MemoryEvent)
      (deadLetter : Bool)
  | completeDeleteFromIndex (sha256 : String → String) (index : MemoryIndexOperation)
      (now : Instant) (providerStatus : Option String)
  | recordDeleteIndexFailure (sha256 : String → String) (index : MemoryIndexOperation)
      (errorCode : String) (deadLetter : Bool) (now : Instant)

def Call.perform (store : MemoryStore) : Call → Except StoreError MemoryStore
  | .commitAdd item revision event index => (·.2) <$> store.commitAdd item revision event index
  | .commitUpdate operation revision event index values =>
    (·.2) <$> store.commitUpdate operation revision event index values
  | .appendRevisionAndSetCurrent revision owner expected =>
    (·.2) <$> store.appendRevisionAndSetCurrent revision owner expected
  | .requestDelete R operation event index => (·.2) <$> store.requestDelete R operation event index
  | .completeDelete operation tombstone id => (·.2) <$> store.completeDelete operation tombstone id
  | .recordDeleteFailure operation event deadLetter =>
    (·.2) <$> store.recordDeleteFailure operation event deadLetter
  | .completeDeleteFromIndex sha256 index now providerStatus =>
    (·.2) <$> store.completeDeleteFromIndex sha256 index now providerStatus
  | .recordDeleteIndexFailure sha256 index errorCode deadLetter now =>
    (·.2) <$> store.recordDeleteIndexFailure sha256 index errorCode deadLetter now

inductive Label where
  | call (call : Call)
  /-- `set_index_state` -/
  | indexState (memoryId tenantId : String) (expectedRevisionId : Option String)
      (status : MemoryIndexStatus) (externalMemoryId : Option String) (updatedAt : Instant)
  /-- What the index worker and the formation service do to their own tables. -/
  | others (events : List MemoryEvent) (operations : IndexOperations)
      (byIdempotency : Dict String String) (turns : Table MemoryFormationTurn.turnId)
      (jobs : Table MemoryFormationJob.jobId)

def next (store : MemoryStore) : Label → MemoryStore
  | .call call =>
    match call.perform store with
    | .ok store' => store'
    | .error _ => store
  | .indexState memoryId tenantId expected status external updatedAt =>
    (store.setIndexState memoryId tenantId expected status external updatedAt).2
  | .others events operations byIdempotency turns jobs =>
    { store with events, operations, byIdempotency, turns, jobs }

def system : LTS MemoryStore Label := .ofFn (· = .empty) fun store label => some (next store label)

/-- A `commit_add` with the item and the revision that `_add` builds of one
candidate. -/
def AddedByService : Label → Prop
  | .call (.commitAdd item revision _ _) =>
    ∃ (service : MemoryLifecycleService) (operation : MemoryLifecycleOperation)
      (candidate : MemoryFormationCandidate) (now : Instant),
      item = service.newItem operation candidate (service.addedMemoryId operation) now ∧
        revision = (service.addRecords operation candidate now).revision
  | _ => True

/-! ## The invariant -/

structure SameKey (a b : MemoryItem) : Prop where
  tenantId : a.tenantId = b.tenantId
  subjectType : a.subjectType = b.subjectType
  subjectId : a.subjectId = b.subjectId
  scope : a.scope = b.scope
  memoryKey : a.memoryKey = b.memoryKey

structure Inv (built : Prop) (store : MemoryStore) : Prop where
  fits : ∀ id item, store.items.get? id = some item → Fits built item (store.history id)
  oneActive : ∀ id id' item item', store.items.get? id = some item →
    store.items.get? id' = some item' → item.lifecycleStatus = .active →
    item'.lifecycleStatus = .active → SameKey item item' → id = id'

section Steps

variable {store store' : MemoryStore} {item : MemoryItem}

/-- An item put into the table keeps the invariant if it fits its history and no
other active item has its key. -/
theorem Inv.put {history : List MemoryRevision} (hi : Inv built store) (item : MemoryItem)
    (hitems : store'.items = store.items.put item)
    (hhistory : ∀ id, store'.history id = if item.memoryId = id then history else store.history id)
    (hfits : Fits built item history)
    (hkey : item.lifecycleStatus = .active → ∀ id other, id ≠ item.memoryId →
      store.items.get? id = some other → other.lifecycleStatus = .active → ¬SameKey item other) :
    Inv built store' where
  fits := by
    intro id found hget
    rw [hitems, Table.get?_put] at hget
    split at hget
    · next hid =>
      cases hget
      rwa [hhistory, if_pos hid]
    · next hid =>
      rw [hhistory, if_neg hid]
      exact hi.fits id found hget
  oneActive := by
    intro id id' found found' hget hget' hactive hactive' hsame
    rw [hitems, Table.get?_put] at hget hget'
    split at hget <;> split at hget'
    · next hid hid' => exact hid.symm.trans hid'
    · next hid hid' =>
      cases hget
      exact absurd hsame (hkey hactive id' found' (Ne.symm hid') hget' hactive')
    · next hid hid' =>
      cases hget'
      exact absurd ⟨hsame.tenantId.symm, hsame.subjectType.symm, hsame.subjectId.symm,
        hsame.scope.symm, hsame.memoryKey.symm⟩ (hkey hactive' id found (Ne.symm hid) hget hactive)
    · exact hi.oneActive id id' found found' hget hget' hactive hactive' hsame

theorem Inv.putItem (hi : Inv built store) (item : MemoryItem)
    (hitems : store'.items = store.items.put item)
    (hrevisions : store'.revisions = store.revisions)
    (hfits : Fits built item (store.history item.memoryId))
    (hkey : item.lifecycleStatus = .active → ∀ id other, id ≠ item.memoryId →
      store.items.get? id = some other → other.lifecycleStatus = .active → ¬SameKey item other) :
    Inv built store' := by
  refine hi.put item hitems (fun id => ?_) hfits hkey
  rw [MemoryStore.history, hrevisions]
  split
  · next hid => rw [← hid]; rfl
  · rfl

/-- An item replaced by one with its key keeps that key free. -/
theorem Inv.keyFree (hi : Inv built store) (hget : store.items.get? item.memoryId = some item)
    (hid : updated.memoryId = item.memoryId) (hkey : SameKey updated item)
    (hactive : updated.lifecycleStatus = .active → item.lifecycleStatus = .active) :
    updated.lifecycleStatus = .active → ∀ id other, id ≠ updated.memoryId →
      store.items.get? id = some other → other.lifecycleStatus = .active →
      ¬SameKey updated other := by
  intro hupdated id other hne hother hotherActive hsame
  have hsame' : SameKey item other :=
    ⟨hkey.tenantId.symm.trans hsame.tenantId, hkey.subjectType.symm.trans hsame.subjectType,
      hkey.subjectId.symm.trans hsame.subjectId, hkey.scope.symm.trans hsame.scope,
      hkey.memoryKey.symm.trans hsame.memoryKey⟩
  exact hne (hid ▸ (hi.oneActive _ _ _ _ hget hother (hactive hupdated) hotherActive hsame').symm)

theorem Inv.others (hi : Inv built store) (hitems : store'.items = store.items)
    (hrevisions : store'.revisions = store.revisions) : Inv built store' where
  fits id item hget := by
    have := hi.fits id item (hitems ▸ hget)
    rwa [MemoryStore.history, hrevisions]
  oneActive id id' item item' hget hget' := hi.oneActive id id' item item' (hitems ▸ hget) (hitems ▸ hget')

theorem history_set (store : MemoryStore) (memoryId : String) (history : List MemoryRevision)
    (id : String) :
    ((store.revisions.set memoryId history).get? id).getD [] =
      if memoryId = id then history else store.history id := by
  rw [Dict.get?_set]
  split <;> rfl

theorem inv_commitAdd {commit : Commit} (hi : Inv built store)
    (hcontent : built → item.content = revision.content ∧
      item.structuredValue = revision.structuredValue)
    (h : store.commitAdd item revision event index = .ok (commit, store')) : Inv built store' := by
  obtain ⟨-, rfl⟩ | ⟨haccepted, -, rfl⟩ := commitAdd_ok h
  · exact hi
  refine hi.put (addedItem item (addedRevision revision)) rfl (history_set store _ _) ?_
    fun _ id other _ hother hactive hsame => ?_
  · refine ⟨⟨rfl, rfl, trivial⟩, rfl, by simp, fun _ hbuilt last hlast => ?_⟩
    cases hlast
    exact hcontent (hbuilt.resolve_right (by simp))
  · have hmem : other ∈ store.items.values := by
      rw [Table.mem_values, memoryId_of_get? hother]
      exact hother
    exact haccepted.keyFree other hmem hactive hsame.tenantId.symm hsame.subjectType.symm
      hsame.subjectId.symm hsame.scope.symm hsame.memoryKey.symm

theorem inv_commitUpdate {values : UpdateValues} {commit : Commit} (hi : Inv built store)
    (h : store.commitUpdate operation revision event index values = .ok (commit, store')) :
    Inv built store' := by
  obtain ⟨-, rfl⟩ | ⟨item, haccepted, -, rfl⟩ := commitUpdate_ok h
  · exact hi
  set stored := nextRevision revision (store.history item.memoryId) item
  exact hi.put (updatedItem item operation stored values) rfl (history_set store _ _)
    (fits_next (hi.fits _ _ haccepted.stored) rfl ⟨rfl, rfl⟩)
    (hi.keyFree haccepted.stored rfl ⟨rfl, rfl, rfl, rfl, rfl⟩ fun _ => haccepted.active)

theorem inv_appendRevision {stored : MemoryRevision} {owner : MemoryOwner} (hi : Inv built store)
    (h : store.appendRevisionAndSetCurrent revision owner expected =
      .ok ((stored, updated), store')) : Inv built store' := by
  obtain ⟨item, hget, hactive, rfl, rfl, rfl⟩ := appendRevision_ok h
  obtain hid : item.memoryId = revision.memoryId := memoryId_of_get? hget
  rw [← hid] at hget ⊢
  set stored := nextRevision revision (store.history item.memoryId) item
  exact hi.put (revisedItem item stored) rfl (history_set store _ _)
    (fits_next (hi.fits _ _ hget) rfl ⟨rfl, rfl⟩)
    (hi.keyFree hget rfl ⟨rfl, rfl, rfl, rfl, rfl⟩ fun _ => hactive)

/-- An item that is not active and keeps its current revision fits its history. -/
theorem Fits.inactive (h : Fits built item history)
    (hcurrent : updated.currentRevisionId = item.currentRevisionId)
    (hinactive : updated.lifecycleStatus ≠ .active) : Fits built updated history :=
  ⟨h.numbered, hcurrent.trans h.current, h.nonempty, fun hactive => absurd hactive hinactive⟩

theorem inv_writeDelete {R : Redaction} (hi : Inv built store)
    (hget : store.items.get? item.memoryId = some item) :
    Inv built ((store.writeDelete item event index).scrub R item.memoryId operation) := by
  have hinactive : (deletingItem item event).lifecycleStatus ≠ .active := by simp [deletingItem]
  exact hi.putItem (deletingItem item event) rfl rfl
    ((hi.fits _ _ hget).inactive rfl hinactive) fun hactive => absurd hactive hinactive

theorem inv_remove {memoryId : String} {tombstone : MemoryEvent} (hi : Inv built store) :
    Inv built (store.remove memoryId tombstone) where
  fits id item hget := by
    rw [show (store.remove memoryId tombstone).items.get? id = _ from
      Dict.get?_erase ..] at hget
    split at hget
    · cases hget
    · next hne =>
      rw [MemoryStore.history, show (store.remove memoryId tombstone).revisions.get? id = _ from
        Dict.get?_erase .., if_neg hne]
      exact hi.fits id item hget
  oneActive id id' item item' hget hget' := by
    rw [show (store.remove memoryId tombstone).items.get? id = _ from Dict.get?_erase ..] at hget
    rw [show (store.remove memoryId tombstone).items.get? id' = _ from Dict.get?_erase ..] at hget'
    split at hget
    · cases hget
    split at hget'
    · cases hget'
    exact hi.oneActive id id' item item' hget hget'

theorem inv_writeFailure {memoryId : String} {deadLetter : Bool} (hi : Inv built store)
    (hget : store.items.get? memoryId = some item)
    (hpending : item.lifecycleStatus = .deletionPending) :
    Inv built (store.writeFailure memoryId item event deadLetter) := by
  obtain rfl : item.memoryId = memoryId := memoryId_of_get? hget
  have hfits := hi.fits _ _ hget
  have hinactive : item.lifecycleStatus ≠ .active := by simp [hpending]
  cases deadLetter with
  | false =>
    exact hi.putItem _ rfl rfl (hfits.inactive rfl hinactive)
      fun hactive => absurd hactive hinactive
  | true =>
    exact hi.put _ rfl (history_set store _ _)
      ⟨chained_scrub.2 hfits.numbered, hfits.current.trans (lastId_scrub _).symm,
        fun hnil => hfits.nonempty (List.map_eq_nil_iff.1 hnil),
        fun hactive => absurd hactive hinactive⟩
      fun hactive => absurd hactive hinactive

theorem inv_indexState {memoryId tenantId : String} {external : Option String}
    {status : MemoryIndexStatus} {updatedAt : Instant} (hi : Inv built store) :
    Inv built (store.setIndexState memoryId tenantId expected status external updatedAt).2 := by
  unfold MemoryStore.setIndexState
  split
  · exact hi
  · next item hget =>
    split
    · exact hi
    · obtain rfl : item.memoryId = memoryId := memoryId_of_get? hget
      have hfits := hi.fits _ _ hget
      exact hi.putItem (indexStateItem status external updatedAt item) rfl rfl
        ⟨hfits.numbered, hfits.current, hfits.nonempty, hfits.content⟩
        (hi.keyFree hget rfl ⟨rfl, rfl, rfl, rfl, rfl⟩ id)

theorem inv_perform {call : Call} (hi : Inv built store) (hone : built → AddedByService (.call call))
    (h : call.perform store = .ok store') : Inv built store' := by
  cases call with
  | commitAdd item revision event index =>
    obtain ⟨⟨_, _⟩, hcall, rfl⟩ := map_eq_ok.1 h
    refine inv_commitAdd hi (fun hbuilt => ?_) hcall
    obtain ⟨service, operation, candidate, now, rfl, rfl⟩ := hone hbuilt
    exact ⟨rfl, rfl⟩
  | commitUpdate operation revision event index values =>
    obtain ⟨⟨_, _⟩, hcall, rfl⟩ := map_eq_ok.1 h
    exact inv_commitUpdate hi hcall
  | appendRevisionAndSetCurrent revision owner expected =>
    obtain ⟨⟨_, _⟩, hcall, rfl⟩ := map_eq_ok.1 h
    exact inv_appendRevision hi hcall
  | requestDelete R operation event index =>
    obtain ⟨⟨_, _⟩, hcall, rfl⟩ := map_eq_ok.1 h
    obtain ⟨-, rfl⟩ | ⟨item, haccepted, -, rfl⟩ := requestDelete_ok hcall
    · exact hi
    · exact inv_writeDelete hi haccepted.stored
  | completeDelete operation tombstone id =>
    obtain ⟨⟨_, _⟩, hcall, rfl⟩ := map_eq_ok.1 h
    obtain ⟨-, rfl⟩ | ⟨item, -, -, -, -, -, rfl⟩ := completeDelete_ok hcall
    · exact hi
    · exact inv_remove hi
  | recordDeleteFailure operation event deadLetter =>
    obtain ⟨⟨_, _⟩, hcall, rfl⟩ := map_eq_ok.1 h
    obtain ⟨-, rfl⟩ | ⟨item, hget, -, hpending, -, -, rfl⟩ := recordDeleteFailure_ok hcall
    · exact hi
    · exact inv_writeFailure hi hget hpending
  | completeDeleteFromIndex sha256 index now providerStatus =>
    obtain ⟨⟨_, _⟩, hcall, rfl⟩ := map_eq_ok.1 h
    obtain ⟨-, ⟨-, rfl, -⟩ | ⟨item, -, -, -, -, -, rfl⟩⟩ := completeDeleteFromIndex_ok hcall
    · exact hi
    · exact inv_remove hi
  | recordDeleteIndexFailure sha256 index errorCode deadLetter now =>
    obtain ⟨⟨_, _⟩, hcall, rfl⟩ := map_eq_ok.1 h
    obtain ⟨item, hget, -, hpending, -, ⟨-, rfl, -⟩ | ⟨event, -, -, -, rfl⟩⟩ :=
      recordDeleteIndexFailure_ok hcall
    · exact hi
    · exact inv_writeFailure hi hget hpending

theorem inv_next {label : Label} (hi : Inv built store) (hone : built → AddedByService label) :
    Inv built (next store label) := by
  cases label with
  | call call =>
    rw [next]
    split
    · next hcall => exact inv_perform hi hone hcall
    · exact hi
  | indexState memoryId tenantId expected status external updatedAt => exact inv_indexState hi
  | others events operations byIdempotency turns jobs => exact hi.others rfl rfl

end Steps

/-- In every reachable state the revisions of every item are numbered from 1 and
each supersedes its predecessor, the item is at the last one, which an active
item agrees with once it is revised, and no two active items have one key. If
the service made every `commit_add`, an active item always agrees with it. -/
theorem revision_ledger {store : MemoryStore} :
    (system.Reachable store → Inv False store) ∧
      ((system.guarded fun _ label => AddedByService label).Reachable store → Inv True store) := by
  have hempty (built : Prop) : Inv built .empty :=
    ⟨fun id item hget => by simp [MemoryStore.empty] at hget,
      fun id id' item item' hget => by simp [MemoryStore.empty] at hget⟩
  constructor <;> intro h
  · refine LTS.Inductive.reachable ⟨?_, ?_⟩ h
    · rintro _ rfl
      exact hempty False
    · rintro store label _ hi hstep
      cases hstep
      exact inv_next hi False.elim
  · refine LTS.Inductive.reachable ⟨?_, ?_⟩ h
    · rintro _ rfl
      exact hempty True
    · rintro store label _ hi ⟨hone, hstep⟩
      cases hstep
      exact inv_next hi fun _ => hone

/-! ## A run -/

def sampleService : MemoryLifecycleService where
  policyVersion := "v1"
  maxAttempts := 5
  taskTtlDays := 30
  sessionSummaryTtlDays := 30
  artifactReferenceTtlDays := 30
  sha256 := id
  redaction := ⟨id, fun text _ => text, id⟩

def sampleOperation (operationId : String) (operation : MemoryOperation)
    (memoryId revisionId : Option String) : MemoryLifecycleOperation where
  operationId := operationId
  operation := operation
  decisionStatus := .accepted
  reasonCode := .acceptedNew
  tenantId := "t1"
  userId := "u1"
  subjectType := "user"
  subjectId := "u1"
  agentId := none
  source := none
  metadata := []
  memoryKey := "diet"
  candidateHash := "hash"
  memoryId := memoryId
  revisionId := revisionId
  formationJobId := none
  canonicalRefs := []
  metadata_keys := by decide

theorem vegan_ne : "vegan" ≠ "" := by decide

def sampleCandidate (content : String) (h : content ≠ "") : MemoryFormationCandidate where
  scope := "user_preference"
  content := content
  structuredValue := []
  confidence := 1
  importance := 1
  evidenceRefs := []
  content_not_blank := h
  structuredValue_keys := by decide
  confidence_unit := by decide
  importance_unit := by decide

def addCall (operation : MemoryLifecycleOperation) (candidate : MemoryFormationCandidate)
    (now : Instant) : Call :=
  let records := sampleService.addRecords operation candidate now
  .commitAdd (sampleService.newItem operation candidate (sampleService.addedMemoryId operation) now)
    records.revision records.event records.indexOperation

def updateCall (operation : MemoryLifecycleOperation) (candidate : MemoryFormationCandidate)
    (memoryId : String) (now : Instant) : Call :=
  let records := sampleService.updateRecords operation candidate memoryId now
  .commitUpdate operation records.revision records.event records.indexOperation
    (MemoryLifecycleService.updateValues operation candidate)

def sampleRun : List Label :=
  let revised := sampleService.revision (sampleOperation "c" .update none none)
    (sampleCandidate "omnivore" (by decide)) "mem_a" "mrev_c" .update 3
  [.call (addCall (sampleOperation "a" .add none none) (sampleCandidate "vegan" vegan_ne) 1),
    .call (updateCall (sampleOperation "b" .update (some "mem_a") (some "mrev_a:revision:1"))
      (sampleCandidate "vegetarian" (by decide)) "mem_a" 2),
    .call (.appendRevisionAndSetCurrent revised ⟨"t1", "u1", "user", "u1"⟩
      (some "mrev_b:revision"))]

theorem reachable_run {labels : List Label} (h : ∀ label ∈ labels, AddedByService label)
    {store : MemoryStore} (hs : (system.guarded fun _ label => AddedByService label).Reachable store) :
    (system.guarded fun _ label => AddedByService label).Reachable (labels.foldl next store) := by
  induction labels generalizing store with
  | nil => exact hs
  | cons label rest ih =>
    exact ih (fun l hl => h l (List.mem_cons_of_mem _ hl))
      (.step (l := label) hs ⟨h label List.mem_cons_self, rfl⟩)

theorem sampleRun_added : ∀ label ∈ sampleRun, AddedByService label := by
  simp only [sampleRun, List.forall_mem_cons, List.not_mem_nil, false_implies, implies_true,
    and_true]
  exact ⟨⟨sampleService, _, _, _, rfl, rfl⟩, trivial, trivial⟩

theorem revision_ledger_sampleRun :
    let store := sampleRun.foldl next .empty
    (store.items.get? "mem_a").map (·.currentRevisionId) = some (some "mrev_c") ∧
      (store.history "mem_a").length = 3 ∧ Inv True store :=
  ⟨by rfl, by rfl, revision_ledger.2 (reachable_run sampleRun_added (.init rfl))⟩

/-- The item of one candidate, committed with the revision of another. -/
def apartCall : Call :=
  let operation := sampleOperation "a" .add none none
  let records := sampleService.addRecords operation (sampleCandidate "omnivore" (by decide)) 1
  .commitAdd (sampleService.newItem operation (sampleCandidate "vegan" vegan_ne)
    (sampleService.addedMemoryId operation) 1) records.revision records.event records.indexOperation

/-- `commit_add` accepts it, and the active item differs from its one revision. -/
theorem added_apart :
    ∃ store, system.Reachable store ∧
      (store.items.get? "mem_a").map (fun item => (item.lifecycleStatus, item.content)) =
        some (.active, "vegan") ∧
      (store.history "mem_a").map (·.content) = ["omnivore"] ∧ ¬Inv True store := by
  refine ⟨next .empty (.call apartCall), .step (l := .call apartCall) (.init rfl) rfl, by rfl,
    by rfl, fun hi => ?_⟩
  have hagree := ((hi.fits "mem_a" _ rfl).content rfl (.inl trivial) _ rfl).1
  exact absurd hagree (by decide)

end OpenIntentRouter.Memories.Ledger
