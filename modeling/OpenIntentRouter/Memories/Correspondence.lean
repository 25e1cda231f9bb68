import OpenIntentRouter.Memories.RepairSteps

/-!
# What a repair establishes

A run of `MemoryIndexRepairService` that is alone with its stores and returns `ok`.
The ids that are kept, with their memories, are carried along.

Any provider whose calls, when they succeed, do what the fake of the tests does (`Keeps`;
failures are arbitrary), a tenant with a name, rows with a status (`Backfilled`, the migration
of the repository), and a clock that goes on between the reads (`ticking`).

* `Repairs.repair`: one item of the loop keeps `Repairs`;
* `Sweeps.skip`, `Sweeps.delete`: one record of the loop keeps `Sweeps`;
* `repair_corresponds`: at the end the records of the tenant and its items
  correspond, but for items that expired while the run went on
  (`expired_record_remains`).
-/
namespace OpenIntentRouter.Memories.Correspondence

open Core Core.Program Schemas Repositories.MemoryIndex Services Catalogs ProviderRecords
  RepairSteps

variable {σ P : Type}

section Loops

variable {stores : IndexStores σ} {items : σ → String → Option MemoryItem} {valid : σ → Prop}
  {adapter : Mem0MemoryAdapter P} {entries : P → List Entry} {issued : P → Prop}
  {sha256 : String → String} {isoformat : Instant → String} {pages : Nat}
  {ticks : Nat → Nat} {w w' : IndexWorld σ P} {tenantId : String}

/-! ## The loop over the items -/

structure Matches (tenantId external : String) (item : MemoryItem) (record : Mem0Record) : Prop where
  mapped : Json.field item.metadata "mem0_memory_id" = some (.str external)
  tenantId : record.metadata.tenantId = some tenantId
  memoryId : record.metadata.memoryId = some item.memoryId
  revisionId : record.metadata.revisionId = item.currentRevisionId

def Holds (items : σ → String → Option MemoryItem) (entries : P → List Entry) (tenantId : String)
    (started : Instant) (w : IndexWorld σ P) (memoryId external : String) : Prop :=
  ∃ item record, items w.store memoryId = some item ∧ Indexable tenantId started item ∧
    (external, record) ∈ entries w.provider ∧ Matches tenantId external item record

structure Distinct (records : List MemoryProviderRecord) : Prop where
  named : ∀ record ∈ records, record.externalMemoryId ≠ ""
  apart : ∀ a ∈ records, ∀ b ∈ records, a.externalMemoryId = b.externalMemoryId → a = b

/-- Between two items: `kept` has the memories that are done with the ids of their records, and
`pending` the items to come. -/
structure Repairs (items : σ → String → Option MemoryItem) (valid : σ → Prop)
    (entries : P → List Entry) (issued : P → Prop) (tenantId : String) (started : Instant)
    (records : List MemoryProviderRecord) (pending : List MemoryItem)
    (kept : List (String × String)) (w : IndexWorld σ P) : Prop where
  valid : valid w.store
  issued : issued w.provider
  since : started ≤ w.now
  unique : (kept.map Prod.fst ++ pending.map MemoryItem.memoryId).Nodup
  holds : ∀ k ∈ kept, Holds items entries tenantId started w k.1 k.2
  covers : ∀ e ∈ entries w.provider, OfTenant tenantId e → e.1 ∈ kept.map Prod.snd ∨
    recordOf e ∈ records ∧ ∀ k ∈ kept, (recordOf e).memoryId ≠ some k.1
  present : ∀ record ∈ records, (∀ k ∈ kept, record.memoryId ≠ some k.1) →
    ∃ e ∈ entries w.provider, e.1 = record.externalMemoryId
  apart : ∀ k ∈ kept, ∀ record ∈ records, record.externalMemoryId = k.2 →
    ∃ k' ∈ kept, record.memoryId = some k'.1
  reached : ∀ memoryId item, items w.store memoryId = some item → Indexable tenantId w.now item →
    memoryId ∈ kept.map Prod.fst ∨ memoryId ∈ pending.map MemoryItem.memoryId

section Step

variable {started : Instant} {records duplicates : List MemoryProviderRecord}
  {pending : List MemoryItem} {kept : List (String × String)} {snapshot item : MemoryItem}
  {keeper : Option MemoryProviderRecord} {external : String} {wd : IndexWorld σ P}

structure Chosen (records : List MemoryProviderRecord) (item : MemoryItem)
    (keeper : Option MemoryProviderRecord) (duplicates : List MemoryProviderRecord) : Prop where
  chosen : ∀ record, keeper = some record → record ∈ records ∧ record.memoryId = some item.memoryId
  nothing : keeper = none → ∀ record ∈ records, record.memoryId ≠ some item.memoryId
  others : ∀ record, record ∈ duplicates ↔
    record ∈ records ∧ record.memoryId = some item.memoryId ∧
      ∀ other, keeper = some other → record.externalMemoryId ≠ other.externalMemoryId

theorem mem_after (hd : Deleted entries issued duplicates w wd)
    (hw : Written items valid entries issued item keeper external wd w') (e : Entry) :
    e ∈ entries w'.provider ↔ e = (external, ⟨item.content, mem0MetadataForItem item⟩) ∨
      (e ∈ entries w.provider ∧ ∀ record ∈ duplicates, e.1 ≠ record.externalMemoryId) ∧
        e.1 ≠ external := by
  rw [hw.mem, hd.mem]

theorem Repairs.untouched
    (h : Repairs items valid entries issued tenantId started records (snapshot :: pending) kept w)
    (hid : item.memoryId = snapshot.memoryId) (hch : Chosen records item keeper duplicates)
    (hd : Deleted entries issued duplicates w wd)
    (hw : Written items valid entries issued item keeper external wd w') :
    ∀ k ∈ kept, k.2 ≠ external ∧ ∀ record ∈ duplicates, k.2 ≠ record.externalMemoryId := by
  intro k hmem
  have hnew : ∀ k' ∈ kept, some item.memoryId ≠ some k'.1 := by
    intro k' hk' heq
    have hdisjoint := (List.nodup_append.1 h.unique).2.2 k'.1 (List.mem_map_of_mem hk')
      snapshot.memoryId (by simp)
    exact hdisjoint ((Option.some.inj heq).symm.trans hid)
  have hfound : ∀ record ∈ records, record.memoryId = some item.memoryId →
      k.2 ≠ record.externalMemoryId := by
    intro record hrecord hmemory heq
    obtain ⟨k', hk', hk''⟩ := h.apart k hmem record hrecord heq.symm
    exact hnew k' hk' (hmemory.symm.trans hk'')
  refine ⟨?_, fun record hrecord => ?_⟩
  · cases hkeeper : keeper with
    | some record =>
      rw [hw.kept record hkeeper]
      obtain ⟨hrecord, hmemory⟩ := hch.chosen record hkeeper
      exact hfound record hrecord hmemory
    | none =>
      obtain ⟨_, record, -, -, hthere, -⟩ := h.holds k hmem
      refine hw.fresh hkeeper (k.2, record) ((hd.mem _).2 ⟨hthere, fun other hother => ?_⟩)
      obtain ⟨hrecord, hmemory, -⟩ := (hch.others other).1 hother
      exact hfound other hrecord hmemory
  · obtain ⟨hrecord, hmemory, -⟩ := (hch.others record).1 hrecord
    exact hfound record hrecord hmemory

theorem mapped_indexStateItem (hne : external ≠ "") (updatedAt : Instant) (item : MemoryItem) :
    Json.field (indexStateItem .ready (some external) updatedAt item).metadata "mem0_memory_id" =
      some (.str external) := by
  unfold indexStateItem
  rw [Option.filter_some, if_pos (decide_eq_true hne)]
  exact JsonDict.field_set_self _ _ _

theorem Repairs.write
    (h : Repairs items valid entries issued tenantId started records (snapshot :: pending) kept w)
    (hdistinct : Distinct records) (hid : item.memoryId = snapshot.memoryId)
    (hindexable : Indexable tenantId started item)
    (hch : Chosen records item keeper duplicates) (hd : Deleted entries issued duplicates w wd)
    (hw : Written items valid entries issued item keeper external wd w') :
    Repairs items valid entries issued tenantId started records pending
      ((item.memoryId, external) :: kept) w' := by
  have hmem := mem_after hd hw
  have huntouched := h.untouched hid hch hd hw
  obtain ⟨updatedAt, hstored⟩ := hw.stored
  rw [hd.store] at hstored
  have hothers : ∀ k ∈ kept, k.1 ≠ item.memoryId := by
    intro k hk heq
    exact (List.nodup_append.1 h.unique).2.2 k.1 (List.mem_map_of_mem hk) snapshot.memoryId
      (by simp) (heq.trans hid)
  have hgone : ∀ record ∈ records, record.memoryId = some item.memoryId →
      record.externalMemoryId = external ∨ record ∈ duplicates := by
    intro record hrecord hmemory
    by_cases heq : record.externalMemoryId = external
    · exact .inl heq
    · refine .inr ((hch.others record).2 ⟨hrecord, hmemory, fun other hother hsame => ?_⟩)
      exact heq (hsame.trans (hw.kept other hother).symm)
  constructor
  · exact hw.valid
  · exact hw.issued
  · exact h.since.trans (hd.now.trans hw.now)
  · have hunique := h.unique
    rw [List.map_cons, ← hid] at hunique
    exact (List.nodup_middle.1 hunique)
  · intro k hk
    rcases List.mem_cons.1 hk with rfl | hk
    · refine ⟨indexStateItem .ready (some external) updatedAt item,
        ⟨item.content, mem0MetadataForItem item⟩, ?_, hindexable, (hmem _).2 (.inl rfl), ?_⟩
      · rw [hstored, Function.update_self]
      · exact ⟨mapped_indexStateItem hw.named updatedAt item, hindexable.1, rfl, rfl⟩
    · obtain ⟨current, record, hcurrent, hstarted, hthere, hmatches⟩ := h.holds k hk
      refine ⟨current, record, ?_, hstarted, (hmem _).2 (.inr ⟨⟨hthere, ?_⟩, ?_⟩), hmatches⟩
      · rw [hstored, Function.update_of_ne (hothers k hk), hcurrent]
      · exact (huntouched k hk).2
      · exact (huntouched k hk).1
  · intro e he hof
    rcases (hmem e).1 he with rfl | ⟨⟨he, hdup⟩, hne⟩
    · exact .inl List.mem_cons_self
    · rcases h.covers e he hof with hkept | ⟨hrecord, hnew⟩
      · exact .inl (List.mem_cons_of_mem _ hkept)
      · refine .inr ⟨hrecord, List.forall_mem_cons.2 ⟨fun hmemory => ?_, hnew⟩⟩
        rcases hgone _ hrecord hmemory with heq | hduplicate
        · exact hne heq
        · exact hdup _ hduplicate rfl
  · intro record hrecord hnew
    obtain ⟨hitemId, hnew⟩ := List.forall_mem_cons.1 hnew
    obtain ⟨e, he, heq⟩ := h.present record hrecord hnew
    by_cases hexternal : e.1 = external
    · exact ⟨_, (hmem _).2 (.inl rfl), hexternal.symm.trans heq⟩
    · refine ⟨e, (hmem e).2 (.inr ⟨⟨he, fun other hother hsame => ?_⟩, hexternal⟩), heq⟩
      obtain ⟨hotherRecord, hmemory, -⟩ := (hch.others other).1 hother
      obtain rfl := hdistinct.apart record hrecord other hotherRecord (heq.symm.trans hsame)
      exact hitemId hmemory
  · intro k hk record hrecord heq
    rcases List.mem_cons.1 hk with rfl | hk
    · -- a record with the id is the one of the item, or gone before
      by_contra hnone
      have hnew : ∀ k ∈ kept, record.memoryId ≠ some k.1 :=
        fun k hk hmemory => hnone ⟨k, List.mem_cons_of_mem _ hk, hmemory⟩
      have hitemId : record.memoryId ≠ some item.memoryId :=
        fun hmemory => hnone ⟨_, List.mem_cons_self, hmemory⟩
      cases hkeeper : keeper with
      | some other =>
        obtain ⟨hother, hmemory⟩ := hch.chosen other hkeeper
        obtain rfl := hdistinct.apart record hrecord other hother
          (heq.trans (hw.kept other hkeeper))
        exact hitemId hmemory
      | none =>
        obtain ⟨e, he, hsame⟩ := h.present record hrecord hnew
        refine hw.fresh hkeeper e ((hd.mem e).2 ⟨he, fun other hother hsame' => ?_⟩)
          (hsame.trans heq)
        obtain ⟨hotherRecord, hmemory, -⟩ := (hch.others other).1 hother
        exact hch.nothing hkeeper other hotherRecord hmemory
    · obtain ⟨k', hk', hmemory⟩ := h.apart k hk record hrecord heq
      exact ⟨k', List.mem_cons_of_mem _ hk', hmemory⟩
  · intro memoryId current hcurrent hnow
    by_cases hsame : memoryId = item.memoryId
    · exact .inl (hsame ▸ List.mem_cons_self)
    · rw [hstored, Function.update_of_ne hsame] at hcurrent
      rcases h.reached memoryId current hcurrent
        (hnow.of_le (hd.now.trans hw.now)) with hkept | hpending
      · exact .inl (List.mem_cons_of_mem _ hkept)
      · rcases List.mem_cons.1 hpending with heq | hpending
        · exact absurd (heq.trans hid.symm) hsame
        · exact .inr hpending

theorem Repairs.later
    (h : Repairs items valid entries issued tenantId started records pending kept w) {now : Instant}
    (hnow : w.now ≤ now) :
    Repairs items valid entries issued tenantId started records pending kept { w with now } where
  valid := h.valid
  issued := h.issued
  since := h.since.trans hnow
  unique := h.unique
  holds := h.holds
  covers := h.covers
  present := h.present
  apart := h.apart
  reached memoryId item hitem hindexable := h.reached memoryId item hitem (hindexable.of_le hnow)

/-- What `_repair_keeper` and the loop over the duplicates choose. -/
theorem chosen_none
    (h : repairKeeper (records.filter (·.memoryId = some item.memoryId)) item = none) :
    Chosen records item none [] := by
  have hnone : ∀ record ∈ records, record.memoryId ≠ some item.memoryId := by
    intro record hrecord hmemory
    have hnil := List.argmin_eq_none.1 h
    rw [List.filter_eq_nil_iff] at hnil
    exact hnil record hrecord (decide_eq_true hmemory)
  refine ⟨fun _ hkeeper => (nomatch hkeeper), fun _ => hnone, fun record => ?_⟩
  exact ⟨fun hmem => (nomatch hmem), fun h => absurd h.2.1 (hnone record h.1)⟩

theorem chosen_some {record : MemoryProviderRecord}
    (h : repairKeeper (records.filter (·.memoryId = some item.memoryId)) item = some record) :
    Chosen records item (some record)
      ((records.filter (·.memoryId = some item.memoryId)).filter
        (·.externalMemoryId ≠ record.externalMemoryId)) := by
  obtain ⟨hrecord, hmemory⟩ := List.mem_filter.1 (List.argmin_mem h)
  refine ⟨fun other hkeeper => ?_, fun hkeeper => (nomatch hkeeper), fun other => ?_⟩
  · cases hkeeper
    exact ⟨hrecord, of_decide_eq_true hmemory⟩
  · rw [List.mem_filter, List.mem_filter]
    simp [and_assoc]

/-- An entry whose id is kept is the record of the memory it is kept for. -/
theorem eq_of_kept (hk : Keeps adapter.client entries issued) (hp : issued w.provider)
    (holds : ∀ k ∈ kept, Holds items entries tenantId started w k.1 k.2) {e : Entry}
    (he : e ∈ entries w.provider) (hkept : e.1 ∈ kept.map Prod.snd) :
    ∃ k ∈ kept, k.2 = e.1 ∧ ∃ item, items w.store k.1 = some item ∧
      Indexable tenantId started item ∧ Matches tenantId e.1 item e.2 := by
  obtain ⟨k, hmem, heq⟩ := List.mem_map.1 hkept
  obtain ⟨item, record, hitem, hindexable, hthere, hmatches⟩ := holds k hmem
  have hsame : (k.2, record) = e := List.inj_on_of_nodup_map (hk.nodup hp) hthere he heq
  subst hsame
  exact ⟨k, hmem, rfl, item, hitem, hindexable, hmatches⟩

/-- The deletions and the write of an item, between two items. -/
theorem Repairs.repair (hc : Catalog stores items valid) (hk : Keeps adapter.client entries issued)
    (hdistinct : Distinct records)
    (h : Repairs items valid entries issued tenantId started records (snapshot :: pending) kept w)
    (hid : item.memoryId = snapshot.memoryId) (hitem : items w.store item.memoryId = some item)
    (hindexable : Indexable tenantId w.now item) (hch : Chosen records item keeper duplicates)
    (hd : Deleted entries issued duplicates w wd)
    (hwrite : valid wd.store → issued wd.provider → items wd.store item.memoryId = some item →
      item.tenantId = some tenantId →
      (∀ record, keeper = some record → record.externalMemoryId ≠ "") →
      (keeper = none → ∀ e ∈ entries wd.provider, OfTenant tenantId e →
        (recordOf e).memoryId ≠ some item.memoryId) →
      Written items valid entries issued item keeper external wd w') :
    Repairs items valid entries issued tenantId started records pending
      ((snapshot.memoryId, external) :: kept) w' := by
  rw [← hid]
  refine h.write hdistinct hid (hindexable.of_le h.since) hch hd
    (hwrite (hd.store.symm ▸ h.valid) hd.issued (hd.store.symm ▸ hitem) hindexable.1
      (fun record hkeeper => hdistinct.named record (hch.chosen record hkeeper).1) ?_)
  intro hkeeper e he hof hmemory
  have he := ((hd.mem e).1 he).1
  rcases h.covers e he hof with hkept | ⟨hrecord, -⟩
  · obtain ⟨k, hmem, -, other, hother, -, hmatches⟩ := eq_of_kept hk h.issued h.holds he hkept
    have hentry := (optionalString_eq_some hmemory).1.symm.trans hmatches.memoryId
    rw [hc.key hother, Option.some.injEq] at hentry
    refine (List.nodup_append.1 h.unique).2.2 k.1 (List.mem_map_of_mem hmem) snapshot.memoryId
      (by simp) (hentry.symm.trans hid)
  · exact hch.nothing hkeeper _ hrecord hmemory

theorem repairItem_ends (hc : Catalog stores items valid) (hk : Keeps adapter.client entries issued)
    (hdistinct : Distinct records) {run run' : RepairRun}
    (h : Ends (ticking ticks) ((repairer stores adapter sha256 isoformat pages).repairItem tenantId
      records snapshot run) w run' w') (hok : run'.failures = 0) :
    run.failures = 0 ∧ ∃ external,
      run'.retainedExternalIds = external :: run.retainedExternalIds ∧ ∀ kept,
        Repairs items valid entries issued tenantId started records (snapshot :: pending) kept w →
        Repairs items valid entries issued tenantId started records pending
          ((snapshot.memoryId, external) :: kept) w' := by
  unfold MemoryIndexRepairService.repairItem at h
  obtain ⟨found, w1, hlook, h⟩ := ends_bind h
  obtain ⟨now1, hnow1, hfound, rfl⟩ := ends_storeLook hlook
  obtain ⟨now, w2, hclock, h⟩ := ends_bind h
  obtain ⟨hnow, rfl⟩ := ends_clock hclock
  split at h
  · obtain ⟨rfl, -⟩ := ends_pure h
    exact absurd hok (Nat.succ_ne_zero _)
  · next item hitem =>
    obtain ⟨hitem, hsame⟩ := Option.filter_eq_some_iff.1 hitem
    rw [hfound, hc.getById] at hitem
    obtain ⟨hitem, htenant⟩ := Option.filter_eq_some_iff.1 hitem
    simp only [sameIndexableRevision, Bool.and_eq_true, decide_eq_true_eq] at hsame
    obtain ⟨⟨hindexable, hid⟩, -⟩ := hsame
    have htenant := of_decide_eq_true htenant
    rw [← hid] at hitem
    have hlater : w.now ≤ now := hnow1.trans hnow
    dsimp only at h
    split at h
    · next hkeeper =>
      obtain ⟨hzero, external, hretained, hwrite⟩ := writeItem_ends hc hk h hok
      refine ⟨hzero, external, hretained, fun kept hrepairs => ?_⟩
      have hrepairs := hrepairs.later hlater
      exact hrepairs.repair hc hk hdistinct hid hitem ⟨htenant, hindexable⟩ (chosen_none hkeeper)
        ⟨rfl, le_refl _, hrepairs.issued, fun e => by simp⟩ hwrite
    · next record hkeeper =>
      obtain ⟨run1, w3, hduplicates, h⟩ := ends_bind h
      obtain ⟨hzero1, external, hretained, hwrite⟩ := writeItem_ends hc hk h hok
      obtain ⟨hzero, hretained1, hdeleted⟩ := deleteDuplicates_ends hk hduplicates hzero1
      refine ⟨hzero, external, hretained1 ▸ hretained, fun kept hrepairs => ?_⟩
      have hrepairs := hrepairs.later hlater
      exact hrepairs.repair hc hk hdistinct hid hitem ⟨htenant, hindexable⟩ (chosen_some hkeeper)
        (hdeleted hrepairs.issued) hwrite

theorem repairItems_ends (hc : Catalog stores items valid) (hk : Keeps adapter.client entries issued)
    (hdistinct : Distinct records) :
    ∀ {canonical : List MemoryItem} {run run' : RepairRun} {w : IndexWorld σ P},
      Ends (ticking ticks) ((repairer stores adapter sha256 isoformat pages).repairItems tenantId
        records canonical run) w run' w' → run'.failures = 0 →
      run.failures = 0 ∧ ∀ kept, run.retainedExternalIds = kept.map Prod.snd →
        Repairs items valid entries issued tenantId started records canonical kept w →
        ∃ kept', run'.retainedExternalIds = kept'.map Prod.snd ∧
          Repairs items valid entries issued tenantId started records [] kept' w' := by
  intro canonical
  induction canonical with
  | nil =>
    intro run run' w h hok
    obtain ⟨rfl, rfl⟩ := ends_pure h
    exact ⟨hok, fun kept hretained hrepairs => ⟨kept, hretained, hrepairs⟩⟩
  | cons snapshot rest ih =>
    intro run run' w h hok
    unfold MemoryIndexRepairService.repairItems at h
    obtain ⟨run1, w1, hitem, h⟩ := ends_bind h
    obtain ⟨hzero1, hrest⟩ := ih h hok
    obtain ⟨hzero, external, hretained1, hstep⟩ := repairItem_ends hc hk hdistinct hitem hzero1
    refine ⟨hzero, fun kept hretained hrepairs => hrest _ ?_ (hstep kept hrepairs)⟩
    rw [hretained1, hretained, List.map_cons]

/-! ## The loop over the records -/

/-- Between two records: `rest` has the records to come. -/
structure Sweeps (items : σ → String → Option MemoryItem) (entries : P → List Entry)
    (issued : P → Prop) (tenantId : String) (started : Instant) (rest : List MemoryProviderRecord)
    (kept : List (String × String)) (w : IndexWorld σ P) : Prop where
  issued : issued w.provider
  unique : (kept.map Prod.fst).Nodup
  holds : ∀ k ∈ kept, Holds items entries tenantId started w k.1 k.2
  covers : ∀ e ∈ entries w.provider, OfTenant tenantId e → e.1 ∈ kept.map Prod.snd ∨
    recordOf e ∈ rest ∧ ∀ k ∈ kept, (recordOf e).memoryId ≠ some k.1
  reached : ∀ memoryId item, items w.store memoryId = some item → Indexable tenantId w.now item →
    memoryId ∈ kept.map Prod.fst

theorem Repairs.sweeps
    (h : Repairs items valid entries issued tenantId started records [] kept w) :
    Sweeps items entries issued tenantId started records kept w where
  issued := h.issued
  unique := by simpa using h.unique
  holds := h.holds
  covers := h.covers
  reached memoryId item hitem hindexable := by
    rcases h.reached memoryId item hitem hindexable with hkept | hpending
    · exact hkept
    · cases hpending

theorem recordIndexable_ends (hc : Catalog stores items valid) {record : MemoryProviderRecord}
    {indexable : Bool}
    (h : Ends (ticking ticks) ((repairer stores adapter sha256 isoformat pages).recordIndexable
      tenantId record) w indexable w') :
    ∃ now, w.now ≤ now ∧ w' = { w with now } ∧ (indexable = true → ∃ memoryId item,
      record.memoryId = some memoryId ∧ items w.store memoryId = some item ∧
        Indexable tenantId now item) := by
  unfold MemoryIndexRepairService.recordIndexable at h
  split at h
  · obtain ⟨rfl, rfl⟩ := ends_pure h
    exact ⟨_, le_refl _, rfl, fun hfalse => (nomatch hfalse)⟩
  · next memoryId hmemory =>
    obtain ⟨latest, w1, hlook, h⟩ := ends_bind h
    obtain ⟨now1, hnow1, hlatest, rfl⟩ := ends_storeLook hlook
    obtain ⟨now, w2, hclock, h⟩ := ends_bind h
    obtain ⟨hnow, rfl⟩ := ends_clock hclock
    obtain ⟨rfl, rfl⟩ := ends_pure h
    refine ⟨now, hnow1.trans hnow, rfl, fun hindexable => ?_⟩
    obtain ⟨item, hitem, hindexable⟩ := (Option.any_eq_true _ _).1 hindexable
    rw [hlatest, hc.getById] at hitem
    obtain ⟨hitem, htenant⟩ := Option.filter_eq_some_iff.1 hitem
    exact ⟨memoryId, item, hmemory, hitem, of_decide_eq_true htenant, hindexable⟩

/-- A record that no entry of the tenant has any more is passed over. -/
theorem Sweeps.skip {record : MemoryProviderRecord} {rest : List MemoryProviderRecord}
    (h : Sweeps items entries issued tenantId started (record :: rest) kept w) {now : Instant}
    (hnow : w.now ≤ now)
    (hskip : record.externalMemoryId ∈ kept.map Prod.snd ∨ ∃ k ∈ kept, record.memoryId = some k.1) :
    Sweeps items entries issued tenantId started rest kept { w with now } where
  issued := h.issued
  unique := h.unique
  holds := h.holds
  covers e he hof := by
    rcases h.covers e he hof with hkept | ⟨hrecord, hnew⟩
    · exact .inl hkept
    · rcases List.mem_cons.1 hrecord with heq | hrest
      · rcases hskip with hkept | ⟨k, hk, hmemory⟩
        · rw [← heq] at hkept
          exact .inl hkept
        · rw [← heq] at hmemory
          exact absurd hmemory (hnew k hk)
      · exact .inr ⟨hrest, hnew⟩
  reached memoryId item hitem hindexable := h.reached memoryId item hitem (hindexable.of_le hnow)

theorem Sweeps.delete {record : MemoryProviderRecord} {rest : List MemoryProviderRecord}
    (h : Sweeps items entries issued tenantId started (record :: rest) kept w)
    (hnot : record.externalMemoryId ∉ kept.map Prod.snd)
    (hd : Deleted entries issued [record] w w') :
    Sweeps items entries issued tenantId started rest kept w' where
  issued := hd.issued
  unique := h.unique
  holds k hk := by
    obtain ⟨item, stored, hitem, hindexable, hthere, hmatches⟩ := h.holds k hk
    refine ⟨item, stored, hd.store.symm ▸ hitem, hindexable, (hd.mem _).2 ⟨hthere, ?_⟩, hmatches⟩
    rw [List.forall_mem_singleton]
    intro heq
    exact hnot (heq ▸ List.mem_map_of_mem hk)
  covers e he hof := by
    obtain ⟨he, hne⟩ := (hd.mem e).1 he
    rw [List.forall_mem_singleton] at hne
    rcases h.covers e he hof with hkept | ⟨hrecord, hnew⟩
    · exact .inl hkept
    · rcases List.mem_cons.1 hrecord with heq | hrest
      · exact absurd (congrArg MemoryProviderRecord.externalMemoryId heq) hne
      · exact .inr ⟨hrest, hnew⟩
  reached memoryId item hitem hindexable := by
    rw [hd.store] at hitem
    exact h.reached memoryId item hitem (hindexable.of_le hd.now)

theorem deleteOrphans_ends (hc : Catalog stores items valid)
    (hk : Keeps adapter.client entries issued) :
    ∀ {rest : List MemoryProviderRecord} {run run' : RepairRun} {w : IndexWorld σ P},
      Ends (ticking ticks) ((repairer stores adapter sha256 isoformat pages).deleteOrphans tenantId
        rest run) w run' w' → run'.failures = 0 →
      run.failures = 0 ∧ ∀ kept, run.retainedExternalIds = kept.map Prod.snd →
        Sweeps items entries issued tenantId started rest kept w →
        Sweeps items entries issued tenantId started [] kept w' := by
  intro rest
  induction rest with
  | nil =>
    intro run run' w h hok
    obtain ⟨rfl, rfl⟩ := ends_pure h
    exact ⟨hok, fun _ _ hsweeps => hsweeps⟩
  | cons record rest ih =>
    intro run run' w h hok
    unfold MemoryIndexRepairService.deleteOrphans at h
    split at h
    · next hcontains =>
      obtain ⟨hzero, hrest⟩ := ih h hok
      refine ⟨hzero, fun kept hretained hsweeps => hrest kept hretained ?_⟩
      rw [hretained] at hcontains
      exact hsweeps.skip (le_refl _) (.inl (List.contains_iff_mem.1 hcontains))
    · next hcontains =>
      obtain ⟨indexable, w1, hindexable, h⟩ := ends_bind h
      obtain ⟨now, hnow, rfl, hitem⟩ := recordIndexable_ends hc hindexable
      split at h
      · next htrue =>
        obtain ⟨memoryId, item, hmemory, hget, hitem⟩ := hitem htrue
        obtain ⟨hzero, hrest⟩ := ih h hok
        refine ⟨hzero, fun kept hretained hsweeps => hrest kept hretained ?_⟩
        obtain ⟨k, hk, rfl⟩ := List.mem_map.1 (hsweeps.reached memoryId item hget (hitem.of_le hnow))
        exact hsweeps.skip hnow (.inr ⟨k, hk, hmemory⟩)
      · obtain ⟨deleted, w2, hdelete, h⟩ := ends_bind h
        obtain ⟨hzero, hrest⟩ := ih h hok
        by_cases hdeleted : deleted.completed = true
        · rw [if_pos hdeleted] at hzero hrest
          refine ⟨hzero, fun kept hretained hsweeps => hrest kept hretained ?_⟩
          obtain ⟨hstore, hlater, hp2, hone⟩ :=
            deleteRecord_ends (w := { w with now }) hk hsweeps.issued hdelete hdeleted
          rw [hretained] at hcontains
          exact hsweeps.delete (fun hmem => hcontains (List.contains_iff_mem.2 hmem))
            ⟨hstore, hnow.trans hlater, hp2, fun e => by simpa using hone e⟩
        · rw [if_neg hdeleted] at hzero
          exact absurd hzero (Nat.succ_ne_zero _)

end Step

/-! ## The whole run -/

def recordsFor (entries : P → List Entry) (tenantId memoryId : String) (p : P) : List Entry :=
  (entries p).filter fun e =>
    e.2.metadata.tenantId = some tenantId && e.2.metadata.memoryId = some memoryId

/-- Every item of the tenant that may be indexed has one record, and every record of the tenant is
the one of an item that was to be indexed when the run began. -/
structure Corresponds (getById : String → String → σ → Option MemoryItem)
    (entries : P → List Entry) (tenantId : String) (started : Instant) (w : IndexWorld σ P) :
    Prop where
  items : ∀ memoryId item, getById memoryId tenantId w.store = some item →
    itemIndexable item w.now = true → ∃ external record,
      recordsFor entries tenantId memoryId w.provider = [(external, record)] ∧
        Matches tenantId external item record
  records : ∀ e ∈ entries w.provider, e.2.metadata.tenantId = some tenantId →
    ∃ memoryId item, getById memoryId tenantId w.store = some item ∧
      itemIndexable item started = true ∧
      recordsFor entries tenantId memoryId w.provider = [e] ∧ Matches tenantId e.1 item e.2

section Final

variable {started : Instant} {records : List MemoryProviderRecord} {kept : List (String × String)}

theorem eq_singleton_of_mem {α : Type} {l : List α} {a : α} (hnodup : l.Nodup) (hmem : a ∈ l)
    (hall : ∀ b ∈ l, b = a) : l = [a] := by
  match l, hnodup, hmem, hall with
  | [b], _, _, hall => rw [hall b List.mem_cons_self]
  | b :: c :: rest, hnodup, _, hall =>
    have hb := hall b List.mem_cons_self
    have hc := hall c (List.mem_cons_of_mem _ List.mem_cons_self)
    exact absurd (hb.trans hc.symm) (List.ne_of_not_mem_cons (List.nodup_cons.1 hnodup).1)

theorem Sweeps.record (hc : Catalog stores items valid) (hk : Keeps adapter.client entries issued)
    (h : Sweeps items entries issued tenantId started [] kept w) {e : Entry}
    (he : e ∈ entries w.provider) (hof : OfTenant tenantId e) :
    ∃ k ∈ kept, ∃ item, items w.store k.1 = some item ∧ Indexable tenantId started item ∧
      recordsFor entries tenantId k.1 w.provider = [e] ∧ Matches tenantId e.1 item e.2 := by
  have hkept : ∀ e ∈ entries w.provider, OfTenant tenantId e → e.1 ∈ kept.map Prod.snd := by
    intro e he hof
    rcases h.covers e he hof with hkept | ⟨hnone, -⟩
    · exact hkept
    · cases hnone
  obtain ⟨k, hmem, hid, item, hitem, hindexable, hmatches⟩ :=
    eq_of_kept hk h.issued h.holds he (hkept e he hof)
  refine ⟨k, hmem, item, hitem, hindexable, ?_, hmatches⟩
  have hmemory := hmatches.memoryId
  rw [hc.key hitem] at hmemory
  refine eq_singleton_of_mem ((hk.nodup h.issued).of_map _ |>.filter _) ?_ fun other hother => ?_
  · refine List.mem_filter.2 ⟨he, ?_⟩
    simp [hmatches.tenantId, hmemory]
  · obtain ⟨hthere, hfor⟩ := List.mem_filter.1 hother
    obtain ⟨htenant, hmemory'⟩ := Bool.and_eq_true_iff.1 hfor
    have hof' : other.2.metadata.tenantId = some tenantId := of_decide_eq_true htenant
    obtain ⟨k', hmem', hid', item', hitem', -, hmatches'⟩ :=
      eq_of_kept hk h.issued h.holds hthere (hkept other hthere hof')
    -- both are kept for the same memory
    have hsame : k'.1 = k.1 := by
      have hboth := hmatches'.memoryId.symm.trans (of_decide_eq_true hmemory')
      rw [hc.key hitem'] at hboth
      exact Option.some.inj hboth
    obtain rfl : k' = k := List.inj_on_of_nodup_map h.unique hmem' hmem hsame
    exact List.inj_on_of_nodup_map (hk.nodup h.issued) hthere he (hid'.symm.trans hid)

theorem Sweeps.corresponds (hc : Catalog stores items valid)
    (hk : Keeps adapter.client entries issued)
    (h : Sweeps items entries issued tenantId started [] kept w) :
    Corresponds stores.getById entries tenantId started w where
  items memoryId item hget hindexable := by
    rw [hc.getById] at hget
    obtain ⟨hitem, htenant⟩ := Option.filter_eq_some_iff.1 hget
    obtain ⟨k, hmem, rfl⟩ :=
      List.mem_map.1 (h.reached memoryId item hitem ⟨of_decide_eq_true htenant, hindexable⟩)
    obtain ⟨current, record, hcurrent, -, hthere, hmatches⟩ := h.holds k hmem
    obtain rfl : item = current := Option.some.inj (hitem.symm.trans hcurrent)
    obtain ⟨k', -, other, hother, -, hrecords, hmatches'⟩ := h.record hc hk hthere hmatches.tenantId
    have hsame : k'.1 = k.1 := by
      have hboth := hmatches'.memoryId.symm.trans hmatches.memoryId
      rw [hc.key hother, hc.key hitem] at hboth
      exact Option.some.inj hboth
    exact ⟨k.2, record, hsame ▸ hrecords, hmatches⟩
  records e he hof := by
    obtain ⟨k, -, item, hitem, hindexable, hrecords, hmatches⟩ := h.record hc hk he hof
    refine ⟨k.1, item, ?_, hindexable.2, hrecords, hmatches⟩
    rw [hc.getById, hitem, Option.filter_some, if_pos (decide_eq_true hindexable.1)]

theorem repairRecords_ends (hc : Catalog stores items valid)
    (hk : Keeps adapter.client entries issued) (hdistinct : Distinct records)
    {canonical : List MemoryItem} {finalized : Nat} {run : RepairRun}
    {result : MemoryIndexRepairResult}
    (h : Ends (ticking ticks) ((repairer stores adapter sha256 isoformat pages).repairRecords tenantId
      records canonical finalized run) w result w') (hok : result.status = "ok")
    (hretained : run.retainedExternalIds = [])
    (hrepairs : Repairs items valid entries issued tenantId started records canonical [] w) :
    ∃ kept, Sweeps items entries issued tenantId started [] kept w' := by
  unfold MemoryIndexRepairService.repairRecords at h
  obtain ⟨run1, w1, hitems, h⟩ := ends_bind h
  obtain ⟨run2, w2, horphans, h⟩ := ends_bind h
  obtain ⟨rfl, rfl⟩ := ends_pure h
  have hzero : run2.failures = 0 := by
    by_contra hne
    simp [MemoryIndexRepairService.repairResult, hne] at hok
  obtain ⟨hzero1, hsweep⟩ := deleteOrphans_ends hc hk horphans hzero
  obtain ⟨-, hloop⟩ := repairItems_ends hc hk hdistinct hitems hzero1
  obtain ⟨kept, hkept, hlast⟩ := hloop [] hretained hrepairs
  exact ⟨kept, hsweep kept hkept hlast.sweeps⟩

theorem finalizeOperations_ends (hc : Catalog stores items valid) :
    ∀ {operations : List MemoryIndexOperation} {count : Nat} {w : IndexWorld σ P}, valid w.store →
      Ends (ticking ticks)
        ((repairer stores adapter sha256 isoformat pages).finalizeOperations operations) w count w' →
      valid w'.store ∧ w'.provider = w.provider ∧ w.now ≤ w'.now := by
  intro operations
  induction operations with
  | nil =>
    intro count w hv h
    obtain ⟨-, rfl⟩ := ends_pure h
    exact ⟨hv, rfl, le_refl _⟩
  | cons operation rest ih =>
    intro count w hv h
    unfold MemoryIndexRepairService.finalizeOperations at h
    split at h
    · exact ih hv h
    · obtain ⟨now, w1, hclock, h⟩ := ends_bind h
      obtain ⟨hnow, rfl⟩ := ends_clock hclock
      obtain ⟨result, w2, hattempt, h⟩ := ends_bind h
      have hstep : valid w2.store ∧ w2.provider = w.provider ∧ w.now ≤ w2.now := by
        obtain ⟨later, hlater, ⟨a, store, hcall, rfl⟩ | rfl⟩ := ends_storeAttempt hattempt
        · exact ⟨hc.completeDeleteFromIndex hv hcall, rfl, hnow.trans hlater⟩
        · exact ⟨hv, rfl, hnow.trans hlater⟩
      obtain ⟨hv2, hprovider, hlater⟩ := hstep
      split at h
      · obtain ⟨rest', w3, hrest, h⟩ := ends_bind h
        obtain ⟨-, rfl⟩ := ends_pure h
        obtain ⟨hv3, hprovider3, hlast⟩ := ih hv2 hrest
        exact ⟨hv3, hprovider3.trans hprovider, hlater.trans hlast⟩
      · obtain ⟨hv3, hprovider3, hlast⟩ := ih hv2 h
        exact ⟨hv3, hprovider3.trans hprovider, hlater.trans hlast⟩
      · exact absurd h not_ends_throw

theorem distinct_scanned (hk : Keeps adapter.client entries issued) (htenant : tenantId ≠ "") {p : P}
    (hp : issued p) : Distinct (scanned entries tenantId p) where
  named record hrecord := by
    obtain ⟨e, he, -, rfl⟩ := (mem_scanned htenant).1 hrecord
    exact hk.named hp e he
  apart a ha b hb heq := by
    obtain ⟨e, he, -, rfl⟩ := (mem_scanned htenant).1 ha
    obtain ⟨e', he', -, rfl⟩ := (mem_scanned htenant).1 hb
    rw [show e = e' from List.inj_on_of_nodup_map (hk.nodup hp) he he' heq]

theorem distinct_nil : Distinct [] := ⟨by simp, by simp⟩

/-- What does not touch the items leaves a sweep as it was. -/
theorem Sweeps.frame {rest : List MemoryProviderRecord}
    (h : Sweeps items entries issued tenantId started rest kept w) {store : σ} {now : Instant}
    (hitems : items store = items w.store) (hnow : w.now ≤ now) :
    Sweeps items entries issued tenantId started rest kept { w with store, now } where
  issued := h.issued
  unique := h.unique
  holds k hk := by
    obtain ⟨item, record, hitem, hrest⟩ := h.holds k hk
    exact ⟨item, record, hitems.symm ▸ hitem, hrest⟩
  covers := h.covers
  reached memoryId item hitem hindexable :=
    h.reached memoryId item (hitems ▸ hitem) (hindexable.of_le hnow)

theorem repairTenant_ends (hc : Catalog stores items valid)
    (hk : Keeps adapter.client entries issued) (htenant : tenantId ≠ "") (hv : valid w.store)
    (hp : issued w.provider) (hstarted : started ≤ w.now) {rebuild : Bool} {limit finalized : Nat}
    {result : MemoryIndexRepairResult}
    (h : Ends (ticking ticks) ((repairer stores adapter sha256 isoformat pages).repairTenant tenantId
      rebuild limit finalized) w result w') (hok : result.status = "ok") :
    ∃ kept, Sweeps items entries issued tenantId started [] kept w' := by
  unfold MemoryIndexRepairService.repairTenant at h
  obtain ⟨canonical, w1, hcanonical, h⟩ := ends_bind h
  obtain ⟨now, hnow, rfl, hcomplete⟩ := allCanonical_ends hc hv hcanonical
  obtain ⟨scan, w2, hscan, h⟩ := ends_bind h
  split at h
  · obtain ⟨rfl, -⟩ := ends_pure h
    simp [MemoryIndexRepairService.repairResult] at hok
  · next records =>
    obtain ⟨rfl, hp2, hsame, hstore, hlater⟩ :=
      allProviderRecords_ends (w := { w with now }) hk hp hscan
    have hstore : w2.store = w.store := hstore
    have hsince : started ≤ w2.now := (hstarted.trans hnow).trans hlater
    have hdistinct := distinct_scanned hk htenant hp
    split at h
    · -- rebuilt: all records go first
      obtain ⟨run, w3, hdelete, h⟩ := ends_bind h
      split at h
      · obtain ⟨rfl, -⟩ := ends_pure h
        simp [MemoryIndexRepairService.repairResult] at hok
      · next hzero =>
        obtain ⟨-, hretained, hdeleted⟩ := deleteAll_ends hk hdelete (not_not.1 hzero)
        have hdeleted := hdeleted hp2
        obtain ⟨canonical', w4, hcanonical', h⟩ := ends_bind h
        have hv3 : valid w3.store := by
          rw [hdeleted.store, hstore]
          exact hv
        obtain ⟨now', hnow', rfl, hcomplete'⟩ := allCanonical_ends hc hv3 hcanonical'
        refine repairRecords_ends hc hk distinct_nil h hok hretained ?_
        refine ⟨hv3, hdeleted.issued, (hsince.trans hdeleted.now).trans hnow', hcomplete'.nodup,
          fun _ hmem => (nomatch hmem), fun e he hof => ?_, fun _ hmem => (nomatch hmem),
          fun _ hmem => (nomatch hmem), fun memoryId item hitem hindexable =>
            .inr (hcomplete'.complete memoryId item hitem hindexable)⟩
        obtain ⟨he, hgone⟩ := (hdeleted.mem e).1 he
        rw [hsame] at he
        exact absurd rfl (hgone (recordOf e) ((mem_scanned htenant).2 ⟨e, he, hof, rfl⟩))
    · refine repairRecords_ends hc hk hdistinct h hok rfl ?_
      refine ⟨hstore ▸ hv, hp2, hsince, hcomplete.nodup, fun _ hmem => (nomatch hmem),
        fun e he hof => ?_, fun record hrecord _ => ?_, fun _ hmem => (nomatch hmem),
        fun memoryId item hitem hindexable => ?_⟩
      · rw [hsame] at he
        exact .inr ⟨(mem_scanned htenant).2 ⟨e, he, hof, rfl⟩, fun _ hmem => (nomatch hmem)⟩
      · obtain ⟨e, he, -, rfl⟩ := (mem_scanned htenant).1 hrecord
        exact ⟨e, hsame.symm ▸ he, rfl⟩
      · rw [hstore] at hitem
        exact .inr (hcomplete.complete memoryId item hitem (hindexable.of_le hlater))

/-- What a run leaves that returns `ok`. -/
theorem corresponds_of_ends (hc : Catalog stores items valid)
    (hk : Keeps adapter.client entries issued) (htenant : tenantId ≠ "") (hv : valid w.store)
    (hp : issued w.provider) {rebuild : Bool} {limit latencyMs : Nat}
    {result : MemoryIndexRepairResult}
    (h : Ends (ticking ticks) ((repairer stores adapter sha256 isoformat pages).runTenant tenantId
      rebuild limit latencyMs) w result w') (hok : result.status = "ok") :
    Corresponds stores.getById entries tenantId w.now w' := by
  unfold MemoryIndexRepairService.runTenant at h
  obtain ⟨result', w1, hrun, h⟩ := ends_bind h
  obtain ⟨now, w2, hclock, h⟩ := ends_bind h
  obtain ⟨hnow, rfl⟩ := ends_clock hclock
  obtain ⟨_, w3, hevent, h⟩ := ends_bind h
  obtain ⟨later, hlater, store, hadd, rfl⟩ := ends_storePerform hevent
  obtain ⟨rfl, rfl⟩ := ends_pure h
  unfold MemoryIndexRepairService.runTenantOnce at hrun
  obtain ⟨finalized, w4, hfinalize, hrun⟩ := ends_bind hrun
  unfold MemoryIndexRepairService.finalizeCompletedDeletes at hfinalize
  obtain ⟨operations, w5, hlook, hfinalize⟩ := ends_bind hfinalize
  obtain ⟨now5, hnow5, -, rfl⟩ := ends_storeLook hlook
  obtain ⟨hv4, hprovider, hnow4⟩ := finalizeOperations_ends (w := { w with now := now5 }) hc hv hfinalize
  have hprovider : w4.provider = w.provider := hprovider
  obtain ⟨kept, hsweeps⟩ := repairTenant_ends hc hk htenant hv4 (hprovider.symm ▸ hp)
    (hnow5.trans hnow4) hrun hok
  exact (hsweeps.frame (hc.addEvent hadd) (hnow.trans hlater)).corresponds hc hk

end Final
end Loops

open Repositories.MemoryDatabase (MemoryTables)

/-- A run of the repair that returns `ok`, alone with its stores and a provider whose calls do what
they say, leaves exactly one record for each item of the tenant that may be indexed, with the
revision of the item and under the id that the item names, and no other record of the tenant but
those of items that have expired since the run began. -/
theorem repair_corresponds (adapter : Mem0MemoryAdapter P) (entries : P → List Entry)
    (issued : P → Prop) (hk : Keeps adapter.client entries issued) (sha256 : String → String)
    (isoformat : Instant → String) (pages : Nat) (tenantId : String) (htenant : tenantId ≠ "")
    (rebuild : Bool) (limit latencyMs : Nat) (ticks : Nat → Nat) :
    (∀ (world : IndexWorld MemoryStore P) (result : MemoryIndexRepairResult) (n : Nat)
      (world' : IndexWorld MemoryStore P), issued world.provider →
      ((repairer (memoryIndexStores sha256) adapter sha256 isoformat pages).runTenant tenantId
        rebuild limit latencyMs).runAmid (ticking ticks) 0 world = (.ok result, n, world') →
      result.status = "ok" →
      Corresponds (memoryIndexStores sha256).getById entries tenantId world.now world') ∧
    (∀ (world : IndexWorld MemoryTables P) (result : MemoryIndexRepairResult) (n : Nat)
      (world' : IndexWorld MemoryTables P), Backfilled world.store → issued world.provider →
      ((repairer (databaseIndexStores sha256) adapter sha256 isoformat pages).runTenant tenantId
        rebuild limit latencyMs).runAmid (ticking ticks) 0 world = (.ok result, n, world') →
      result.status = "ok" →
      Corresponds (databaseIndexStores sha256).getById entries tenantId world.now world') := by
  constructor
  · intro world result n world' hp hrun hok
    exact corresponds_of_ends catalog_memory hk htenant trivial hp ⟨0, n, hrun⟩ hok
  · intro world result n world' hv hp hrun hok
    exact corresponds_of_ends catalog_database hk htenant hv hp ⟨0, n, hrun⟩ hok

/-! ### Sample runs -/

section Samples

def sampleId (n : Nat) : String := String.ofList (List.replicate (n + 1) 'm')

theorem sampleId_injective : sampleId.Injective := by
  intro a b h
  have hlength := congrArg (fun s : String => s.toList.length) h
  simpa [sampleId] using hlength

theorem sampleId_ne (n : Nat) : sampleId n ≠ "" := by
  intro h
  have hlength := congrArg (fun s : String => s.toList.length) h
  simp [sampleId] at hlength

def sampleAdapter : Mem0MemoryAdapter IndexFakeMem0 := ⟨IndexFakeMem0.client sampleId, fun _ => ""⟩

def sampleItem (tenantId : String) (ttlExpiresAt : Option Instant) : MemoryItem where
  memoryId := "mem"
  scope := "user_preference"
  subjectType := "user"
  subjectId := "u"
  userId := some "u"
  tenantId := some tenantId
  agentId := none
  content := "blue"
  structuredValue := []
  source := "formation"
  confidence := 1
  importance := 1
  visibility := .user
  ttlExpiresAt := ttlExpiresAt
  metadata := []
  memoryKey := none
  candidateHash := none
  currentRevisionId := some "rev"
  currentRevisionNo := none
  formationJobId := none
  lifecycleStatus := .active
  indexStatus := none
  canonicalRefs := []
  createdAt := 0
  updatedAt := 0

def sampleRecord (tenantId : String) (memoryId revisionId : Option String) : Mem0Record :=
  ⟨"blue", memoryId, revisionId, some tenantId, some "u"⟩

def sampleProvider (records : List Mem0Record) : IndexFakeMem0 :=
  records.foldl (fun provider record =>
    ⟨provider.records.set (sampleId provider.nextId) record, provider.nextId + 1⟩) .empty

def sampleRun (item : MemoryItem) (tenantId : String) (records : List Mem0Record) :
    Except IndexError MemoryIndexRepairResult × Nat × IndexWorld MemoryStore IndexFakeMem0 :=
  ((repairer (memoryIndexStores id) sampleAdapter id (fun _ => "now") 9).runTenant tenantId false 2
    0).runAmid (ticking fun _ => 1) 0
      ⟨{ MemoryStore.empty with items := Table.empty.put item }, sampleProvider records, 0⟩

def sampleEntries (provider : IndexFakeMem0) : List Entry := provider.records.entries

theorem issued_sampleProvider (records : List Mem0Record) :
    Issued sampleId (sampleProvider records) := by
  have hfold : ∀ (records : List Mem0Record) (provider : IndexFakeMem0), Issued sampleId provider →
      Issued sampleId (records.foldl (fun provider record =>
        ⟨provider.records.set (sampleId provider.nextId) record, provider.nextId + 1⟩) provider) := by
    intro records
    induction records with
    | nil => exact fun _ h => h
    | cons record rest ih =>
      intro provider h
      refine ih _ (h.set (sampleId_ne _) (Nat.le_succ _) (fun n hn heq => ?_) record)
      have := sampleId_injective heq
      omega
  exact hfold records .empty fun e he => (nomatch he)

/-- A duplicate, a stale revision, an orphan and a record of a memory that is gone. -/
def sampleRecords : List Mem0Record :=
  [sampleRecord "t" (some "mem") (some "old"), sampleRecord "t" (some "mem") (some "rev"),
    sampleRecord "t" none none, sampleRecord "t" (some "gone") (some "r")]

theorem repair_corresponds_sampleRecords :
    Corresponds (memoryIndexStores id).getById sampleEntries "t" 0
        (sampleRun (sampleItem "t" none) "t" sampleRecords).2.2 ∧
      (sampleEntries (sampleRun (sampleItem "t" none) "t" sampleRecords).2.2.provider).length = 1 := by
  have hok : (sampleRun (sampleItem "t" none) "t" sampleRecords).1.map (·.status) = .ok "ok" := by
    decide
  obtain ⟨result, hresult, hstatus⟩ := Except.map_eq_ok.1 hok
  refine ⟨?_, by decide⟩
  exact (repair_corresponds sampleAdapter sampleEntries (Issued sampleId)
    (keeps_indexFakeMem0 sampleId_injective sampleId_ne) id (fun _ => "now") 9 "t" (by decide) false 2
    0 fun _ => 1).1 _ result _ _ (issued_sampleProvider sampleRecords)
      (Prod.ext hresult rfl) hstatus

/-- The record of an item that expires while the run goes on remains, and with an empty tenant id
an item that has a record gets another one. -/
theorem expired_record_remains :
    ((sampleRun (sampleItem "t" (some 12)) "t" []).1.map (·.status) = .ok "ok" ∧
      ¬Corresponds (memoryIndexStores id).getById sampleEntries "t"
        (sampleRun (sampleItem "t" (some 12)) "t" []).2.2.now
        (sampleRun (sampleItem "t" (some 12)) "t" []).2.2) ∧
    ((sampleRun (sampleItem "" none) "" [sampleRecord "" (some "mem") (some "rev")]).1.map
        (·.status) = .ok "ok" ∧
      ¬Corresponds (memoryIndexStores id).getById sampleEntries ""
        (sampleRun (sampleItem "" none) "" [sampleRecord "" (some "mem") (some "rev")]).2.2.now
        (sampleRun (sampleItem "" none) "" [sampleRecord "" (some "mem") (some "rev")]).2.2) := by
  refine ⟨⟨by decide, fun h => ?_⟩, by decide, fun h => ?_⟩
  · have hentries : sampleEntries (sampleRun (sampleItem "t" (some 12)) "t" []).2.2.provider =
        [("mm", sampleRecord "t" (some "mem") (some "rev"))] := by decide
    have hexpired : ((memoryIndexStores id).getById "mem" "t"
        (sampleRun (sampleItem "t" (some 12)) "t" []).2.2.store).any
          (itemIndexable · (sampleRun (sampleItem "t" (some 12)) "t" []).2.2.now) = false := by
      decide
    obtain ⟨memoryId, item, hget, hindexable, -, hmatches⟩ :=
      h.records _ (hentries ▸ List.mem_singleton_self _) rfl
    have hkey : item.memoryId = memoryId :=
      Table.key_of_get? (Option.filter_eq_some_iff.1 hget).1
    have hmemory : "mem" = item.memoryId := Option.some.inj hmatches.memoryId
    rw [hmemory, hkey, hget, Option.any_some, hindexable] at hexpired
    cases hexpired
  · have hstored : ((memoryIndexStores id).getById "mem" ""
        (sampleRun (sampleItem "" none) "" [sampleRecord "" (some "mem") (some "rev")]).2.2.store).any
          (itemIndexable · (sampleRun (sampleItem "" none) ""
            [sampleRecord "" (some "mem") (some "rev")]).2.2.now) = true := by
      decide
    have hlength : (recordsFor sampleEntries "" "mem" (sampleRun (sampleItem "" none) ""
        [sampleRecord "" (some "mem") (some "rev")]).2.2.provider).length = 2 := by
      decide
    obtain ⟨item, hget, hindexable⟩ := (Option.any_eq_true _ _).1 hstored
    obtain ⟨external, record, hrecords, -⟩ := h.items "mem" item hget hindexable
    rw [hrecords] at hlength
    cases hlength

end Samples
end OpenIntentRouter.Memories.Correspondence
