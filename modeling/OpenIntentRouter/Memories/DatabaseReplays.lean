import OpenIntentRouter.Memories.Replays

/-!
# Replays of a lifecycle commit, on the database

The rows keep what a replay compares as the store in memory does, but for the
confidence of a revision, which is cut off to hundredths when it is written and
compared with the whole value when it is replayed.

Any service, operation and candidate, committed first where its ids are new (`New`,
`NewIndex`); in between any works but updates under the ids that it wrote (`Other`).

* `KeptRows`, `keptRows_apply`, `keptRows_next`: as in memory;
* `replay_iff`: when an operation is replayed, in memory and on the database.
-/
namespace OpenIntentRouter.Memories.Replays

open Core Core.Except Schemas Services Repositories.MemoryIndex Repositories.MemoryDatabase Ledger
open MemoryLifecycleService (Records)

/-! ## Rows -/

structure KeptRows (records : Records) (item : MemoryItem) (tables : MemoryTables) : Prop where
  event : ∃ stored, tables.events.get? records.event.eventId = some stored ∧
    SameEvent stored records.event
  item : ∃ row, tables.items.get? records.revision.memoryId = some row ∧
    row.lifecycleStatus = some .active ∧ SameItem (memoryFromRow row) item
  revision : ∃ row, tables.revisions.get? records.revision.revisionId = some row ∧
    SameRevision (revisionFromRow row) records.revision ∧
    row.confidence = hundredths records.revision.confidence
  index : ∃ stored,
    tables.operations.get? records.indexOperation.indexOperationId = some stored ∧
    SameOperation stored records.indexOperation
  only : ∀ stored ∈ tables.operations.values, stored.memoryId = records.revision.memoryId →
    stored.revisionId = some records.revision.revisionId →
    stored.indexOperationId = records.indexOperation.indexOperationId

variable {event : MemoryEvent} {index : MemoryIndexOperation} {row : MemoryItemModel}
  {memoryId : String} {sha256 : String → String} {result : MemoryEvent × Bool}
  {revision : MemoryRevision} {service : MemoryLifecycleService}
  {operation : MemoryLifecycleOperation} {candidate : MemoryFormationCandidate}

section Database

variable {service : MemoryLifecycleService} {operation : MemoryLifecycleOperation}
  {candidate : MemoryFormationCandidate} {now later : Instant} {records : Records}
  {item : MemoryItem} {tables tables' : MemoryTables} {commit : Commit}

theorem KeptRows.of (hk : KeptRows records item tables)
    (hevents : ∀ stored, tables.events.get? records.event.eventId = some stored →
      tables'.events.get? records.event.eventId = some stored)
    (hitem : ∀ row, tables.items.get? records.revision.memoryId = some row →
      row.lifecycleStatus = some .active →
      ∃ row', tables'.items.get? records.revision.memoryId = some row' ∧
        row'.lifecycleStatus = some .active ∧ SameItem (memoryFromRow row') (memoryFromRow row))
    (hrevisions : ∀ row, tables.revisions.get? records.revision.revisionId = some row →
      row.memoryId = records.revision.memoryId →
      tables'.revisions.get? records.revision.revisionId = some row)
    (hindex : ∀ stored,
      tables.operations.get? records.indexOperation.indexOperationId = some stored →
      ∃ stored', tables'.operations.get? records.indexOperation.indexOperationId = some stored' ∧
        SameOperation stored' stored)
    (honly : ∀ stored' ∈ tables'.operations.values,
      (∃ stored ∈ tables.operations.values, SameOperation stored' stored) ∨
        stored'.revisionId ≠ some records.revision.revisionId) :
    KeptRows records item tables' where
  event := by
    obtain ⟨stored, hget, hsame⟩ := hk.event
    exact ⟨stored, hevents stored hget, hsame⟩
  item := by
    obtain ⟨row, hget, hactive, hsame⟩ := hk.item
    obtain ⟨row', hget', hactive', hsame'⟩ := hitem row hget hactive
    exact ⟨row', hget', hactive', hsame'.trans hsame⟩
  revision := by
    obtain ⟨row, hget, hsame, hconfidence⟩ := hk.revision
    have hmemory := congrArg MemoryRevision.memoryId hsame
    exact ⟨row, hrevisions row hget hmemory, hsame, hconfidence⟩
  index := by
    obtain ⟨stored, hget, hsame⟩ := hk.index
    obtain ⟨stored', hget', hsame'⟩ := hindex stored hget
    exact ⟨stored', hget', hsame'.trans hsame⟩
  only := by
    intro stored' hmem hmemory hrevision
    obtain ⟨stored, hstored, hsame⟩ | hother := honly stored' hmem
    · rw [hsame.id]
      exact hk.only stored hstored (hsame.memoryId ▸ hmemory) (hsame.revisionId ▸ hrevision)
    · exact (hother hrevision).elim

theorem KeptRows.operations (hk : KeptRows records item tables) {operations : IndexOperations}
    (h : SameOperations tables.operations operations) :
    KeptRows records item { tables with operations } :=
  hk.of (fun _ hget => hget) (fun row hget hactive => ⟨row, hget, hactive, .refl _⟩)
    (fun _ hget _ => hget) (fun _ hget => h.get? hget) fun _ hmem => .inl (h.mem_values hmem)

/-- The tables of items, revisions and events change, the outbox stays. -/
theorem KeptRows.of_operations (hk : KeptRows records item tables)
    (hevents : ∀ stored, tables.events.get? records.event.eventId = some stored →
      tables'.events.get? records.event.eventId = some stored)
    (hitem : ∀ row, tables.items.get? records.revision.memoryId = some row →
      row.lifecycleStatus = some .active →
      ∃ row', tables'.items.get? records.revision.memoryId = some row' ∧
        row'.lifecycleStatus = some .active ∧ SameItem (memoryFromRow row') (memoryFromRow row))
    (hrevisions : ∀ row, tables.revisions.get? records.revision.revisionId = some row →
      row.memoryId = records.revision.memoryId →
      tables'.revisions.get? records.revision.revisionId = some row)
    (hoperations : tables'.operations = tables.operations) : KeptRows records item tables' :=
  hk.of hevents hitem hrevisions
    (fun stored hget => ⟨stored, by rw [hoperations]; exact hget, .refl stored⟩)
    fun stored hmem => .inl ⟨stored, by rw [← hoperations]; exact hmem, .refl stored⟩

theorem get?_put_new {β : Type} {key : β → String} {table : Table key} {value stored : β}
    {id : String} (hnew : table.get? (key value) = none) (hget : table.get? id = some stored) :
    (table.put value).get? id = some stored := by
  rw [Table.get?_put_ne _ ?_, hget]
  rintro rfl
  rw [hnew] at hget
  cases hget

theorem get?_put_sameRow {items : Table MemoryItemModel.memoryId} {found updated : MemoryItemModel}
    {id : String} (hfound : items.get? found.memoryId = some found)
    (hstatus : updated.lifecycleStatus = found.lifecycleStatus)
    (hsame : SameItem (memoryFromRow updated) (memoryFromRow found))
    (hget : items.get? id = some row) (hactive : row.lifecycleStatus = some .active) :
    ∃ row', (items.put updated).get? id = some row' ∧ row'.lifecycleStatus = some .active ∧
      SameItem (memoryFromRow row') (memoryFromRow row) := by
  have hid : updated.memoryId = found.memoryId := hsame.memoryId
  rw [Table.get?_put, hid]
  split
  · next hid =>
    rw [hid, hget, Option.some.injEq] at hfound
    subst hfound
    exact ⟨updated, rfl, hstatus.trans hactive, hsame⟩
  · exact ⟨row, hget, hactive, .refl _⟩

theorem keptRows_setIndexState (hk : KeptRows records item tables) {tenantId : String}
    {expected external : Option String} {status : MemoryIndexStatus} {updatedAt : Instant} :
    KeptRows records item
      (tables.setIndexState memoryId tenantId expected status external updatedAt).2 := by
  unfold MemoryTables.setIndexState
  dsimp only
  split
  · exact hk
  · next found hfound =>
    obtain ⟨hget, -⟩ := Option.filter_eq_some_iff.1 hfound
    obtain rfl : found.memoryId = memoryId := Table.key_of_get? hget
    refine hk.of_operations (fun _ hget => hget) ?_ (fun _ hget _ => hget) rfl
    exact fun row hrow hactive => get?_put_sameRow hget rfl
      ⟨rfl, rfl, rfl, rfl, rfl, rfl, rfl, rfl, rfl, rfl⟩ hrow hactive

theorem keptRows_addEvent (hk : KeptRows records item tables)
    (h : tables.addEvent event = .ok tables') : KeptRows records item tables' := by
  unfold MemoryTables.addEvent at h
  split at h
  · obtain ⟨_, -, h⟩ := bind_eq_ok.1 h
    cases h
    exact hk
  · next hnew =>
    cases h
    exact hk.of_operations (fun _ hget => get?_put_new hnew hget)
      (fun row hget hactive => ⟨row, hget, hactive, .refl _⟩) (fun _ hget _ => hget) rfl

/-- A deletion ends for a memory that awaits it, not for the active one. -/
theorem KeptRows.pending_ne (hk : KeptRows records item tables)
    (hget : tables.items.get? memoryId = some row)
    (hpending : (memoryFromRow row).lifecycleStatus = .deletionPending) :
    memoryId ≠ records.revision.memoryId := by
  rintro rfl
  obtain ⟨stored, hstored, hactive, -⟩ := hk.item
  rw [hget, Option.some.injEq] at hstored
  subst hstored
  rw [memoryFromRow, hactive] at hpending
  cases hpending

theorem keptRows_completeDelete (hk : KeptRows records item tables) {providerStatus : Option String}
    (h : tables.completeDeleteFromIndex sha256 index now providerStatus = .ok (result, tables')) :
    KeptRows records item tables' := by
  obtain rfl | ⟨row, hget, hstatus, tombstone, hnew, rfl⟩ :=
    MemoryTables.completeDeleteFromIndex_ok h
  · exact hk
  have hne := hk.pending_ne hget hstatus
  refine hk.of_operations (fun _ hstored => get?_put_new hnew hstored) ?_ ?_ rfl
  · exact fun row hstored hactive =>
      ⟨row, (Dict.get?_erase ..).trans ((if_neg hne).trans hstored), hactive, .refl _⟩
  · intro row hstored hmemory
    refine (Table.get?_filter ..).trans ?_
    rw [hstored, Option.filter_eq_some_iff]
    exact ⟨rfl, by simpa [hmemory] using hne.symm⟩

theorem keptRows_writeFailure (hk : KeptRows records item tables) {deadLetter : Bool}
    (hne : row.memoryId ≠ records.revision.memoryId)
    (hnew : tables.events.get? event.eventId = none) :
    KeptRows records item (tables.writeFailure row event deadLetter) := by
  refine hk.of_operations (fun _ hstored => get?_put_new hnew hstored) ?_ ?_ rfl
  · intro stored hstored hactive
    refine ⟨stored, (Table.get?_put_ne _ ?_).trans hstored, hactive, .refl _⟩
    cases deadLetter <;> exact hne
  · intro revision hstored hmemory
    cases deadLetter with
    | false => exact hstored
    | true =>
      have hmap := tables.revisions.get?_mapValues
        (MemoryTables.scrubbedRevision row.memoryId) (fun _ => rfl) records.revision.revisionId
      refine hmap.trans ?_
      have hother : revision.memoryId ≠ row.memoryId := fun h => hne (h.symm.trans hmemory)
      simp [hstored, MemoryTables.scrubbedRevision, hother]

theorem keptRows_recordDeleteFailure (hk : KeptRows records item tables) {errorCode : String}
    {deadLetter : Bool} (h : tables.recordDeleteIndexFailure sha256 index errorCode deadLetter now =
      .ok (result, tables')) : KeptRows records item tables' := by
  obtain ⟨row, hget, -, hstatus, ⟨rfl, -⟩ | ⟨event, -, hnew, rfl⟩⟩ :=
    MemoryTables.recordDeleteIndexFailure_ok h
  · exact hk
  · exact keptRows_writeFailure hk (hk.pending_ne hget hstatus) hnew

/-- An update of another operation, of this memory or another one. -/
theorem keptRows_update (hk : KeptRows records item tables)
    {others : MemoryLifecycleOperation} {other : MemoryFormationCandidate}
    (h : service.databaseUpdate others other now tables = .ok (commit, tables')) :
    KeptRows records item tables' := by
  obtain ⟨_, -, h⟩ := bind_eq_ok.1 h
  obtain ⟨memoryId, hid, h⟩ := bind_eq_ok.1 h
  obtain ⟨-, rfl⟩ | ⟨-, found, hfound, -, -, -, revisionNo, supersedes, hwrite⟩ :=
    MemoryTables.commitUpdate_ok h
  · exact hk
  obtain ⟨hrevision, hfresh, rfl⟩ := MemoryTables.writeUpdate_ok hwrite
  refine hk.of (fun _ hget => get?_put_new hfresh.event hget) ?_
    (fun _ hget _ => get?_put_new hrevision hget)
    (fun stored hget => ⟨stored, get?_put_new hfresh.operation hget, .refl stored⟩) ?_
  · exact fun row hrow hactive => get?_put_sameRow hfound rfl
      ⟨rfl, rfl, rfl, rfl, rfl, rfl, rfl, rfl, rfl, rfl⟩ hrow hactive
  · intro stored hmem
    obtain rfl | hmem := Table.mem_values_put hmem
    · right
      intro hsame
      -- the revision of the other operation is inserted, so it is not the one that is there
      obtain ⟨row, hrow, -⟩ := hk.revision
      rw [← Option.some.inj hsame] at hrow
      cases hrow.symm.trans hrevision
    · exact .inl ⟨stored, hmem, .refl stored⟩

theorem keptRows_terminalUpdate (hk : KeptRows records item tables) {id owner token : String}
    {values : MemoryIndexOperation → MemoryIndexOperation} {result : MemoryIndexOperation}
    (h : tables.terminalUpdate id owner token now values = .ok (result, tables'))
    (hvalues : ∀ row, SameOperation (values row) row) : KeptRows records item tables' := by
  obtain ⟨operations, hsame, rfl⟩ := MemoryTables.terminalUpdate_same hvalues h
  exact hk.operations hsame

theorem keptRows_next (hk : KeptRows records item tables) (work : Work) :
    KeptRows records item (databaseNext service tables work) := by
  cases work with
  | claim owner leaseToken now lease tenantId =>
    exact hk.operations (claim_same owner leaseToken now lease tenantId tables.operations)
  | complete id owner leaseToken now external metadata =>
    exact settled_keeps hk fun _ _ hcall =>
      keptRows_terminalUpdate hk hcall fun _ => ⟨rfl, rfl, rfl, rfl, rfl, rfl⟩
  | fail id owner leaseToken now errorCode nextAttemptAt =>
    refine settled_keeps hk fun _ after hcall => ?_
    unfold MemoryTables.fail at hcall
    split at hcall
    · cases hcall
    · exact keptRows_terminalUpdate hk hcall fun _ => ⟨rfl, rfl, rfl, rfl, rfl, rfl⟩
  | setIndexState memoryId tenantId expected status external updatedAt =>
    exact keptRows_setIndexState hk
  | addEvent event =>
    refine settled_keeps hk fun _ after hcall => ?_
    obtain ⟨_, hcall, ⟨⟩⟩ := map_eq_ok.1 hcall
    exact keptRows_addEvent hk hcall
  | completeDeleteFromIndex index now providerStatus =>
    exact settled_keeps hk fun _ _ hcall => keptRows_completeDelete hk hcall
  | recordDeleteIndexFailure index errorCode deadLetter now =>
    exact settled_keeps hk fun _ _ hcall => keptRows_recordDeleteFailure hk hcall
  | update operation candidate now =>
    exact settled_keeps hk fun _ _ hcall => keptRows_update hk hcall

theorem keptRows_foldl {works : List Work} (hk : KeptRows records item tables) :
    KeptRows records item (works.foldl (databaseNext service) tables) := by
  induction works generalizing tables with
  | nil => exact hk
  | cons work rest ih => exact ih (keptRows_next hk work)

/-! ### The first time -/

def NewIndex (records : Records) (tables : MemoryTables) : Prop :=
  ∀ stored ∈ tables.operations.values, stored.memoryId = records.revision.memoryId →
    stored.revisionId ≠ some records.revision.revisionId

theorem keptRows_written {row : MemoryItemModel} {revision : MemoryRevision}
    (hnew : NewIndex records tables) (hmemory : row.memoryId = records.revision.memoryId)
    (hactive : row.lifecycleStatus = some .active)
    (hrevision : SameRevision revision records.revision ∧
      revision.confidence = records.revision.confidence) :
    KeptRows records (memoryFromRow row)
      { tables with
        items := tables.items.put row
        revisions := tables.revisions.put (revisionValues revision)
        events := tables.events.put records.event
        operations := tables.operations.put records.indexOperation } where
  event := ⟨_, Table.get?_put_self .., rfl⟩
  item := ⟨row, (Table.get?_put ..).trans (if_pos hmemory), hactive, .refl _⟩
  revision := by
    obtain ⟨hsame, hconfidence⟩ := hrevision
    have hid : revision.revisionId = records.revision.revisionId := by rw [hsame]
    refine ⟨_, (Table.get?_put ..).trans (if_pos hid), ?_, congrArg hundredths hconfidence⟩
    rw [hsame]
    rfl
  index := ⟨_, Table.get?_put_self .., .refl _⟩
  only := by
    intro stored hmem hmemory hid
    obtain rfl | hmem := Table.mem_values_put hmem
    · rfl
    · exact (hnew stored hmem hmemory hid).elim

theorem keptRows_add (hadd : operation.operation = .add)
    (hnew : NewIndex (recordsOf service operation candidate now) tables)
    (h : service.databaseAdd operation candidate now tables = .ok (commit, tables'))
    (hfirst : commit.replay = false) :
    ∃ item, KeptRows (recordsOf service operation candidate now) item tables' ∧
      Owned service operation candidate item := by
  rw [recordsOf, if_pos hadd] at hnew ⊢
  obtain ⟨_, haccepted, h⟩ := bind_eq_ok.1 h
  rw [requireAccepted, ensure_eq_ok, Bool.and_eq_true] at haccepted
  obtain ⟨hreplay, -⟩ | ⟨-, hwrite⟩ := MemoryTables.commitAdd_ok h
  · rw [hfirst] at hreplay
    cases hreplay
  · obtain ⟨-, -, -, rfl⟩ := MemoryTables.insertCommit_ok hwrite
    exact ⟨_, keptRows_written hnew rfl rfl ⟨rfl, rfl⟩, of_decide_eq_true haccepted.2, rfl,
      fun _ _ => ⟨rfl, rfl, rfl, rfl, rfl, rfl, rfl, rfl, rfl, rfl⟩, fun hne => (hne hadd).elim⟩

theorem keptRows_firstUpdate (hadd : operation.operation ≠ .add)
    (hnew : NewIndex (recordsOf service operation candidate now) tables)
    (h : service.databaseUpdate operation candidate now tables = .ok (commit, tables'))
    (hfirst : commit.replay = false) :
    ∃ item, KeptRows (recordsOf service operation candidate now) item tables' ∧
      Owned service operation candidate item := by
  obtain ⟨_, haccepted, h⟩ := bind_eq_ok.1 h
  obtain ⟨memoryId, hmemory, h⟩ := bind_eq_ok.1 h
  obtain ⟨hid, hnonempty⟩ := MemoryLifecycleService.lifecycleMemoryId_ok hmemory
  rw [recordsOf, if_neg hadd, hid, Option.getD_some] at hnew ⊢
  obtain ⟨hreplay, -⟩ | ⟨-, row, hget, hnamed, htarget, hactive, _, _, hwrite⟩ :=
    MemoryTables.commitUpdate_ok h
  · rw [hfirst] at hreplay
    cases hreplay
  · rw [hid, Option.some.injEq] at hnamed
    subst hnamed
    obtain ⟨-, -, rfl⟩ := MemoryTables.writeUpdate_ok hwrite
    refine ⟨_, keptRows_written hnew rfl hactive ⟨rfl, rfl⟩,
      of_decide_eq_true (ensure_eq_ok.1 haccepted), ?_, fun ha => (hadd ha).elim,
      fun _ => ⟨hid, hnonempty, htarget.tenant, htarget.user, htarget.subjectType,
        htarget.subjectId, htarget.key⟩⟩
    show row.lifecycleStatus.getD .active = .active
    rw [hactive]
    rfl

theorem keptRows_apply (hnew : NewIndex (recordsOf service operation candidate now) tables)
    (h : databaseApply service operation candidate now tables = .ok (commit, tables'))
    (hfirst : commit.replay = false) :
    ∃ item, KeptRows (recordsOf service operation candidate now) item tables' ∧
      Owned service operation candidate item := by
  unfold databaseApply at h
  split at h
  · next hadd => exact keptRows_add hadd hnew h hfirst
  · next hupdate => exact keptRows_firstUpdate (by rw [hupdate]; decide) hnew h hfirst
  · next hconsolidate => exact keptRows_firstUpdate (by rw [hconsolidate]; decide) hnew h hfirst
  · cases h

/-! ### The second time -/

def InHundredths (value : Rat) : Prop := (hundredths value : Rat) / 100 = value

/-- What `_load_replay` finds of a commit that is kept passes the checks of the event and of the
index operation; that of the revision compares the confidence. -/
theorem loadReplay_keptRows (hk : KeptRows records item tables)
    (hindex : records.indexOperation.memoryId = records.revision.memoryId ∧
      records.indexOperation.revisionId = some records.revision.revisionId)
    (hpayload : (Json.obj records.event.payload).distinctKeys = true)
    (hvalue : (Json.obj records.revision.structuredValue).distinctKeys = true)
    (validateItem : MemoryItem → Checked) :
    (∃ replay, tables.loadReplay records.event records.revision records.indexOperation
        validateItem = .ok (some replay)) ↔
      InHundredths records.revision.confidence ∧
      ∃ row, tables.items.get? records.revision.memoryId = some row ∧
        validateItem (memoryFromRow row) = .ok () := by
  obtain ⟨event, hevent, hsameEvent⟩ := hk.event
  obtain ⟨revision, hrevision, hsameRevision, hconfidence⟩ := hk.revision
  obtain ⟨index, hget, hsameIndex⟩ := hk.index
  have hfind := SameOperations.find_only (by rw [hsameIndex.id]; exact hget)
    ⟨hsameIndex.memoryId.trans hindex.1, hsameIndex.revisionId.trans hindex.2⟩
    (by rw [hsameIndex.id]; exact hk.only)
  have hvalid : validateRevisionReplay (revisionFromRow revision) records.revision = .ok () ↔
      InHundredths records.revision.confidence := by
    rw [validateRevisionReplay_same hsameRevision hvalue, InHundredths, ← hconfidence]
    rfl
  constructor
  · rintro ⟨replay, hreplay⟩
    obtain ⟨row, stored, -, hrow, hstored, -, -, hchecked, -, hitem, -⟩ :=
      MemoryTables.loadReplay_some.1 hreplay
    rw [hrevision, Option.some.injEq] at hstored
    subst hstored
    exact ⟨hvalid.1 hchecked, row, hrow, hitem⟩
  · rintro ⟨hexact, row, hrow, hitem⟩
    refine ⟨⟨_, _, event, index, true⟩, MemoryTables.loadReplay_some.2 ⟨row, revision, hevent, hrow,
      hrevision, hfind, validateEventReplay_same hsameEvent hpayload, hvalid.2 hexact,
      validateIndexReplay_same hsameIndex, hitem, rfl, rfl, rfl⟩⟩

theorem KeptRows.at_later (hk : KeptRows (recordsOf service operation candidate now) item tables) :
    KeptRows (recordsOf service operation candidate later) item tables := by
  obtain ⟨index, hget, hsame⟩ := hk.index
  unfold recordsOf at hk hget hsame ⊢
  split
  · next hadd =>
    rw [if_pos hadd] at hk hget hsame
    exact ⟨hk.event, hk.item, hk.revision,
      ⟨index, hget, hsame.trans ⟨rfl, rfl, rfl, rfl, rfl, rfl⟩⟩, hk.only⟩
  · next hadd =>
    rw [if_neg hadd] at hk hget hsame
    exact ⟨hk.event, hk.item, hk.revision,
      ⟨index, hget, hsame.trans ⟨rfl, rfl, rfl, rfl, rfl, rfl⟩⟩, hk.only⟩

theorem recordsOf_confidence :
    (recordsOf service operation candidate now).revision.confidence = candidate.confidence := by
  unfold recordsOf
  split <;> rfl

theorem databaseCommitAdd_replays (hevent : tables.events.get? event.eventId ≠ none) :
    IsReplay (tables.commitAdd item revision event index) tables ↔
      ∃ replay, tables.loadReplay event revision index (validateItemReplay · item) =
        .ok (some replay) := by
  constructor
  · rintro ⟨commit, h, -⟩
    obtain ⟨replay, hreplay, -⟩ := bind_eq_ok.1 h
    cases replay with
    | none => exact (hevent (MemoryTables.loadReplay_none.1 hreplay)).elim
    | some replay => exact ⟨replay, hreplay⟩
  · rintro ⟨replay, hreplay⟩
    obtain ⟨_, _, -, -, -, -, -, -, -, -, -, -, htrue⟩ := MemoryTables.loadReplay_some.1 hreplay
    exact ⟨replay, bind_eq_ok.2 ⟨_, hreplay, rfl⟩, htrue⟩

theorem databaseCommitUpdate_replays {values : UpdateValues}
    (hevent : tables.events.get? event.eventId ≠ none)
    (hid : requiredMemoryId operation = .ok memoryId) :
    IsReplay (tables.commitUpdate operation revision event index values) tables ↔
      ∃ replay, tables.loadReplay event revision index
        (fun item => (fun _ => ()) <$> validateOperationTarget (some item) operation false) =
          .ok (some replay) := by
  unfold MemoryTables.commitUpdate
  rw [hid, ok_bind]
  constructor
  · rintro ⟨commit, h, -⟩
    obtain ⟨replay, hreplay, -⟩ := bind_eq_ok.1 h
    cases replay with
    | none => exact (hevent (MemoryTables.loadReplay_none.1 hreplay)).elim
    | some replay => exact ⟨replay, hreplay⟩
  · rintro ⟨replay, hreplay⟩
    obtain ⟨_, _, -, -, -, -, -, -, -, -, -, -, htrue⟩ := MemoryTables.loadReplay_some.1 hreplay
    exact ⟨replay, bind_eq_ok.2 ⟨_, hreplay, rfl⟩, htrue⟩

theorem databaseAdd_replays (hk : KeptRows (recordsOf service operation candidate now) item tables)
    (howned : Owned service operation candidate item) (hadd : operation.operation = .add) :
    IsReplay (service.databaseAdd operation candidate now tables) tables ↔
      InHundredths candidate.confidence ∧
      MetadataKept operation
        ((tables.items.get? (service.addedMemoryId operation)).map memoryFromRow) := by
  have hcall : service.databaseAdd operation candidate now tables =
      tables.commitAdd (service.newItem operation candidate (service.addedMemoryId operation) now)
        (service.addRecords operation candidate now).revision
        (service.addRecords operation candidate now).event
        (service.addRecords operation candidate now).indexOperation := by
    simp [MemoryLifecycleService.databaseAdd, requireAccepted, Except.ensure, hadd,
      howned.accepted]
  have hrecords : recordsOf service operation candidate now =
      service.addRecords operation candidate now := if_pos hadd
  have hload := loadReplay_keptRows hk recordsOf_index recordsOf_keys.1 recordsOf_keys.2
    (validateItemReplay · (service.newItem operation candidate (service.addedMemoryId operation) now))
  obtain ⟨event, hevent, -⟩ := hk.event
  obtain ⟨row, hrow, -, hsame⟩ := hk.item
  rw [recordsOf_confidence, hrecords] at hload
  rw [hrecords] at hevent hrow
  rw [hcall, databaseCommitAdd_replays (by rw [hevent]; exact Option.some_ne_none _), hload,
    MetadataKept]
  have hget : tables.items.get? (service.addedMemoryId operation) = some row := hrow
  have hitem := validateItemReplay_same (hsame.trans (howned.added hadd now))
  rw [hget]
  refine and_congr_right fun _ => ?_
  constructor
  · rintro ⟨found, hfound, hvalid⟩ - _ ⟨⟩
    rw [hrow, Option.some.injEq] at hfound
    subst hfound
    exact hitem.1 hvalid
  · intro h
    exact ⟨row, hrow, hitem.2 (h hadd _ rfl)⟩

theorem databaseUpdate_replays
    (hk : KeptRows (recordsOf service operation candidate now) item tables)
    (howned : Owned service operation candidate item) (hadd : operation.operation ≠ .add) :
    IsReplay (service.databaseUpdate operation candidate now tables) tables ↔
      InHundredths candidate.confidence := by
  obtain ⟨hid, hnonempty, htarget⟩ := howned.named hadd
  have hcall : service.databaseUpdate operation candidate now tables =
      tables.commitUpdate operation
        (service.updateRecords operation candidate item.memoryId now).revision
        (service.updateRecords operation candidate item.memoryId now).event
        (service.updateRecords operation candidate item.memoryId now).indexOperation
        (MemoryLifecycleService.updateValues operation candidate) := by
    simp [MemoryLifecycleService.databaseUpdate, Except.ensure, howned.accepted, lifecycleMemoryId,
      hid, hnonempty]
  have hrecords : recordsOf service operation candidate now =
      service.updateRecords operation candidate item.memoryId now := by
    rw [recordsOf, if_neg hadd, hid, Option.getD_some]
  have hload := loadReplay_keptRows hk recordsOf_index recordsOf_keys.1 recordsOf_keys.2 fun item =>
    (fun _ => ()) <$> validateOperationTarget (some item) operation false
  obtain ⟨event, hevent, -⟩ := hk.event
  obtain ⟨row, hrow, -, hsame⟩ := hk.item
  rw [recordsOf_confidence, hrecords] at hload
  rw [hrecords] at hevent hrow
  have hrequired : requiredMemoryId operation = .ok item.memoryId := by
    rw [requiredMemoryId, hid]
    exact if_pos hnonempty
  rw [hcall, databaseCommitUpdate_replays (by rw [hevent]; exact Option.some_ne_none _) hrequired,
    hload]
  refine and_iff_left ⟨row, hrow, map_eq_ok.2 ⟨memoryFromRow row, ?_, rfl⟩⟩
  exact validateOperationTarget_iff.2 ⟨rfl, hsame.isTarget htarget, fun h => by cases h⟩

theorem databaseApply_replays
    (hk : KeptRows (recordsOf service operation candidate now) item tables)
    (howned : Owned service operation candidate item)
    (hcommits : operation.operation = .add ∨ operation.operation = .update ∨
      operation.operation = .consolidate) :
    IsReplay (databaseApply service operation candidate now tables) tables ↔
      InHundredths candidate.confidence ∧
      MetadataKept operation
        ((tables.items.get? (service.addedMemoryId operation)).map memoryFromRow) := by
  rcases hcommits with hkind | hkind | hkind
  all_goals unfold databaseApply; rw [hkind]
  · exact databaseAdd_replays hk howned hkind
  all_goals
    refine (databaseUpdate_replays hk howned (by rw [hkind]; decide)).trans
      (and_iff_left ?_).symm
    intro hadd
    rw [hkind] at hadd
    cases hadd

end Database

/-! ## Both stores -/

theorem commits_of_apply {now : Instant} {store : MemoryStore} {result : Commit × MemoryStore}
    (h : apply service operation candidate now store = .ok result) :
    operation.operation = .add ∨ operation.operation = .update ∨
      operation.operation = .consolidate := by
  unfold apply at h
  split at h <;> simp_all

theorem commits_of_databaseApply {now : Instant} {tables : MemoryTables}
    {result : Commit × MemoryTables}
    (h : databaseApply service operation candidate now tables = .ok result) :
    operation.operation = .add ∨ operation.operation = .update ∨
      operation.operation = .consolidate := by
  unfold databaseApply at h
  split at h <;> simp_all

/-- An operation that was accepted before is replayed if and only if, for an ADD, the metadata of
the item is still what the operation carries, and, on the database, the confidence is a whole
number of hundredths. In between, the index worker and other updates may have done anything. -/
theorem replay_iff (service : MemoryLifecycleService) (operation : MemoryLifecycleOperation)
    (candidate : MemoryFormationCandidate) (now later : Instant) (works : List Work) :
    (∀ store commit store', New (recordsOf service operation candidate now) store →
      apply service operation candidate now store = .ok (commit, store') → commit.replay = false →
      (∀ work ∈ works, Other service (recordsOf service operation candidate now) work) →
      let after := works.foldl (next service) store'
      (IsReplay (apply service operation candidate later after) after ↔
        MetadataKept operation (after.items.get? (service.addedMemoryId operation)))) ∧
    (∀ tables commit tables', NewIndex (recordsOf service operation candidate now) tables →
      databaseApply service operation candidate now tables = .ok (commit, tables') →
      commit.replay = false →
      let after := works.foldl (databaseNext service) tables'
      (IsReplay (databaseApply service operation candidate later after) after ↔
        InHundredths candidate.confidence ∧
        MetadataKept operation
          ((after.items.get? (service.addedMemoryId operation)).map memoryFromRow))) := by
  constructor
  · intro store commit store' hnew h hfirst hother
    obtain ⟨item, hkept, howned⟩ := kept_apply hnew h hfirst
    have hafter := kept_foldl howned.active hother hkept
    exact apply_replays hafter.at_later howned (commits_of_apply h)
  · intro tables commit tables' hnew h hfirst
    obtain ⟨item, hkept, howned⟩ := keptRows_apply hnew h hfirst
    have hafter : KeptRows _ _ (works.foldl (databaseNext service) tables') := keptRows_foldl hkept
    exact databaseApply_replays hafter.at_later howned (commits_of_databaseApply h)

/-! ## Runs -/

/-- The index worker brings the first memory of the samples to the provider. -/
def sampleIndexRun : List Work :=
  [.claim "worker" "lease" 2 60 none,
    .setIndexState "mem_a" "t1" (some "mrev_a:revision:1") .ready (some "p1") 3,
    .complete "midxop_a:add:mrev_a:revision:1" "worker" "lease" 3 (some "p1") none]

def sampleEighth : MemoryFormationCandidate where
  scope := "user_preference"
  content := "vegan"
  structuredValue := []
  confidence := 1 / 8
  importance := 1
  evidenceRefs := []
  content_not_blank := vegan_ne
  structuredValue_keys := Eq.refl true
  confidence_unit := by decide +kernel
  importance_unit := unit_one

def sampleVegan : MemoryFormationCandidate := sampleCandidate "vegan" vegan_ne

def sampleIndexed : MemoryStore :=
  sampleIndexRun.foldl (next sampleService)
    (settled .empty (apply sampleService (sampleOperation "a" .add none none) sampleVegan 1 .empty))

def sampleTables : MemoryTables :=
  settled .empty
    (databaseApply sampleService (sampleOperation "a" .add none none) sampleEighth 1 .empty)

theorem replay_iff_samples :
    (IsReplay (apply sampleService (sampleOperation "a" .add none none) sampleVegan 4 sampleIndexed)
        sampleIndexed ↔
      MetadataKept (sampleOperation "a" .add none none)
        (sampleIndexed.items.get? (sampleService.addedMemoryId (sampleOperation "a" .add none none)))) ∧
    (IsReplay
        (databaseApply sampleService (sampleOperation "a" .add none none) sampleEighth 4 sampleTables)
        sampleTables ↔
      InHundredths sampleEighth.confidence ∧
      MetadataKept (sampleOperation "a" .add none none)
        ((sampleTables.items.get?
          (sampleService.addedMemoryId (sampleOperation "a" .add none none))).map memoryFromRow)) := by
  constructor
  · refine (replay_iff sampleService _ sampleVegan 1 4 sampleIndexRun).1 .empty _ _ ?_ rfl rfl ?_
    · exact ⟨by decide, by decide⟩
    · simp [sampleIndexRun, Other]
  · exact (replay_iff sampleService _ sampleEighth 1 4 []).2 .empty _ _ (fun _ hmem => nomatch hmem)
      rfl rfl

/-- An index run writes the provider id into the metadata, and the database cuts the confidence
off: neither operation is replayed. -/
theorem replays_refused :
    apply sampleService (sampleOperation "a" .add none none) sampleVegan 4 sampleIndexed =
        .error replayConflict ∧
      ¬IsReplay
        (databaseApply sampleService (sampleOperation "a" .add none none) sampleEighth 4 sampleTables)
        sampleTables := by
  refine ⟨rfl, fun h => ?_⟩
  have hnew : NewIndex (recordsOf sampleService (sampleOperation "a" .add none none) sampleEighth 1)
      .empty := fun _ hmem => nomatch hmem
  obtain ⟨item, hkept, howned⟩ := keptRows_apply hnew rfl rfl
  have hexact := ((databaseApply_replays hkept.at_later howned (.inl rfl)).1 h).1
  exact absurd hexact (by unfold InHundredths; decide +kernel)

end OpenIntentRouter.Memories.Replays
