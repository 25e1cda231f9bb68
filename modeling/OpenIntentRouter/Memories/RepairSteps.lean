import OpenIntentRouter.Memories.Catalogs
import OpenIntentRouter.Memories.ProviderRecords
import OpenIntentRouter.Services.MemoryIndexRepair

/-!
# The steps of a repair

What `MemoryIndexRepairService` does to the items and to the records of the
provider, when it runs alone and the clock moves on between its operations
(`ticking`).

* `allCanonical_ends`: the pages of items list all that may be indexed when the
  last one is read;
* `allProviderRecords_ends`: the pages of records list all of the tenant;
* `loop_ends`: the loops that delete records, if no failure is counted;
* `writeItem_ends`: the write of an item, if no failure is counted.
-/
namespace OpenIntentRouter.Memories.RepairSteps

open Core Core.Program Schemas Repositories.MemoryIndex Services Catalogs ProviderRecords

variable {σ P : Type}

/-! ## The clock -/

def ticking (ticks : Nat → Nat) (n : Nat) (world : IndexWorld σ P) : IndexWorld σ P :=
  { world with now := world.now + ticks n }

variable {note : IndexNote} {pageSize : Nat} {records : List MemoryProviderRecord}
  {run run' : RepairRun} {canonical : List MemoryItem}

section Operations

variable {α : Type} {ticks : Nat → Nat} {w w' : IndexWorld σ P}

theorem le_ticking (ticks : Nat → Nat) (n : Nat) (w : IndexWorld σ P) :
    w.now ≤ (ticking ticks n w).now :=
  Int.le_add_of_nonneg_right (Int.natCast_nonneg (ticks n))

theorem ends_clock {t : Instant} (h : Ends (ticking ticks) clock w t w') :
    w.now ≤ t ∧ w' = { w with now := t } := by
  obtain ⟨n, rfl, rfl⟩ := ends_op h
  exact ⟨le_ticking ticks n w, rfl⟩

variable {a : α} {f : σ → Except StoreError (α × σ)}

theorem ends_storeLook {f : σ → α} (h : Ends (ticking ticks) (storeLook f) w a w') :
    ∃ now, w.now ≤ now ∧ a = f w.store ∧ w' = { w with now } := by
  obtain ⟨n, rfl, rfl⟩ := ends_op h
  exact ⟨_, le_ticking ticks n w, rfl, rfl⟩

theorem ends_storeCall {f : σ → α × σ} (h : Ends (ticking ticks) (storeCall note f) w a w') :
    ∃ now, w.now ≤ now ∧ ∃ store, f w.store = (a, store) ∧ w' = { w with store, now } := by
  obtain ⟨n, rfl, rfl⟩ := ends_op h
  exact ⟨_, le_ticking ticks n w, _, rfl, rfl⟩

theorem ends_providerCall {f : P → α × P} (h : Ends (ticking ticks) (providerCall note f) w a w') :
    ∃ now, w.now ≤ now ∧ ∃ provider, f w.provider = (a, provider) ∧
      w' = { w with provider, now } := by
  obtain ⟨n, rfl, rfl⟩ := ends_op h
  exact ⟨_, le_ticking ticks n w, _, rfl, rfl⟩

theorem ends_storePerform (h : Ends (ticking ticks) (storePerform note f) w a w') :
    ∃ now, w.now ≤ now ∧ ∃ store, f w.store = .ok (a, store) ∧ w' = { w with store, now } := by
  obtain ⟨n, hf⟩ := ends_perform h
  obtain ⟨store, hstore, rfl⟩ := raising_ok hf
  exact ⟨_, le_ticking ticks n w, store, hstore, rfl⟩

theorem ends_storeAttempt {r : Except IndexError α}
    (h : Ends (ticking ticks) (storeAttempt note f) w r w') :
    ∃ now, w.now ≤ now ∧
      ((∃ a store, f w.store = .ok (a, store) ∧ w' = { w with store, now }) ∨
        w' = { w with now }) := by
  obtain ⟨n, rfl, rfl⟩ := ends_op h
  refine ⟨_, le_ticking ticks n w, ?_⟩
  cases hf : raising f (ticking ticks n w) with
  | error error => exact .inr rfl
  | ok result =>
    obtain ⟨store, hstore, hresult⟩ := raising_ok hf
    exact .inl ⟨result.1, store, hstore, hresult⟩

end Operations

/-! ## The lists -/

abbrev repairer (stores : IndexStores σ) (adapter : Mem0MemoryAdapter P) (sha256 : String → String)
    (isoformat : Instant → String) (pages : Nat) : MemoryIndexRepairService σ P :=
  ⟨stores, adapter.strategy, sha256, isoformat, pages⟩

def Indexable (tenantId : String) (now : Instant) (item : MemoryItem) : Prop :=
  item.tenantId = some tenantId ∧ itemIndexable item now = true

theorem Indexable.of_le {tenantId : String} {now later : Instant} {item : MemoryItem}
    (h : Indexable tenantId later item) (hle : now ≤ later) : Indexable tenantId now item := by
  refine ⟨h.1, ?_⟩
  have hindexable := h.2
  simp only [itemIndexable, not_expired, Bool.and_eq_true] at hindexable ⊢
  refine ⟨hindexable.1, ?_⟩
  cases hexpiry : item.ttlExpiresAt with
  | none => rfl
  | some expiry =>
    have hlater := hindexable.2
    rw [hexpiry] at hlater
    exact decide_eq_true (lt_of_le_of_lt hle (of_decide_eq_true hlater))

section Lists

variable {stores : IndexStores σ} {items : σ → String → Option MemoryItem} {valid : σ → Prop}
  {adapter : Mem0MemoryAdapter P} {entries : P → List Entry} {issued : P → Prop}
  {sha256 : String → String} {isoformat : Instant → String} {pages : Nat}
  {ticks : Nat → Nat} {w w' : IndexWorld σ P} {tenantId : String}

structure Listed (items : σ → String → Option MemoryItem) (tenantId : String) (w : IndexWorld σ P)
    (cursor : Option String) (values : List MemoryItem) : Prop where
  ascending : values.Pairwise fun a b => a.memoryId < b.memoryId
  below : ∀ value ∈ values, cursor.any (value.memoryId ≤ ·) = true
  complete : ∀ memoryId item, items w.store memoryId = some item →
    Indexable tenantId w.now item → cursor.any (memoryId ≤ ·) = true →
      memoryId ∈ values.map MemoryItem.memoryId

structure Complete (items : σ → String → Option MemoryItem) (tenantId : String)
    (w : IndexWorld σ P) (values : List MemoryItem) : Prop where
  ascending : values.Pairwise fun a b => a.memoryId < b.memoryId
  complete : ∀ memoryId item, items w.store memoryId = some item →
    Indexable tenantId w.now item → memoryId ∈ values.map MemoryItem.memoryId

theorem Complete.nodup (h : Complete items tenantId w canonical) :
    (canonical.map MemoryItem.memoryId).Nodup :=
  List.pairwise_map.2 (h.ascending.imp fun hlt => ne_of_lt hlt)

theorem any_or_all (cursor : Option String) (memoryId : String) :
    cursor.any (memoryId ≤ ·) = true ∨ cursor.all (· < memoryId) = true := by
  cases cursor with
  | none => exact .inr rfl
  | some c =>
    rcases le_or_gt memoryId c with h | h
    · exact .inl (decide_eq_true h)
    · exact .inr (decide_eq_true h)

theorem any_le_trans {cursor : Option String} {a b : String} (h : cursor.any (a ≤ ·) = true)
    (h' : cursor.all (· < b) = true) : a < b := by
  cases cursor with
  | none => cases h
  | some c => exact lt_of_le_of_lt (of_decide_eq_true h) (of_decide_eq_true h')

theorem Listed.append {cursor : Option String} {values all : List MemoryItem}
    (hl : Listed items tenantId w cursor values) {now later : Instant} (hnow : w.now ≤ now)
    (hlater : now ≤ later)
    (hasc : all.Pairwise fun a b => a.memoryId < b.memoryId)
    (hall : ∀ item, item ∈ all ↔ items w.store item.memoryId = some item ∧
      item.tenantId = some tenantId ∧ itemIndexable item now = true ∧
        cursor.all (· < item.memoryId) = true)
    (hkey : ∀ memoryId item, items w.store memoryId = some item → item.memoryId = memoryId) :
    Complete items tenantId { w with now := later } (values ++ all) where
  ascending := by
    refine List.pairwise_append.2 ⟨hl.ascending, hasc, fun a ha b hb => ?_⟩
    exact any_le_trans (hl.below a ha) ((hall b).1 hb).2.2.2
  complete := by
    intro memoryId item hitem hindexable
    rw [List.map_append, List.mem_append]
    rcases any_or_all cursor memoryId with hbelow | habove
    · exact .inl (hl.complete memoryId item hitem (hindexable.of_le (hnow.trans hlater)) hbelow)
    · obtain rfl := hkey memoryId item hitem
      have hnow' := hindexable.of_le hlater
      exact .inr (List.mem_map_of_mem ((hall item).2 ⟨hitem, hnow'.1, hnow'.2, habove⟩))

theorem Complete.upTo {values page rest : List MemoryItem} {last : MemoryItem}
    (hc : Complete items tenantId w (values ++ (page ++ rest))) (hlast : page.getLast? = some last) :
    Listed items tenantId w (some last.memoryId) (values ++ page) where
  ascending := by
    have hasc := hc.ascending
    rw [← List.append_assoc] at hasc
    exact (List.pairwise_append.1 hasc).1
  below := by
    obtain ⟨front, rfl⟩ := List.getLast?_eq_some_iff.1 hlast
    have hasc := hc.ascending
    rw [← List.append_assoc, ← List.append_assoc] at hasc
    have hfront := (List.pairwise_append.1 (List.pairwise_append.1 hasc).1).2.2
    intro value hvalue
    refine decide_eq_true ?_
    rw [← List.append_assoc, List.mem_append] at hvalue
    rcases hvalue with hvalue | hvalue
    · exact le_of_lt (hfront value hvalue last (List.mem_singleton_self last))
    · rw [List.mem_singleton.1 hvalue]
  complete := by
    intro memoryId item hitem hindexable hbelow
    have hmem := hc.complete memoryId item hitem hindexable
    rw [← List.append_assoc, List.map_append, List.mem_append] at hmem
    rcases hmem with hmem | hmem
    · exact hmem
    · -- what is behind the page is above its last item
      obtain ⟨front, rfl⟩ := List.getLast?_eq_some_iff.1 hlast
      obtain ⟨later, hlater, rfl⟩ := List.mem_map.1 hmem
      have hasc := hc.ascending
      rw [← List.append_assoc] at hasc
      have habove := (List.pairwise_append.1 hasc).2.2 last (by simp) later hlater
      exact absurd (of_decide_eq_true hbelow) (not_le_of_gt habove)

/-- The pages list all items that may be indexed when the last one is read. -/
theorem canonicalPages_ends (hc : Catalog stores items valid) (hpage : 1 ≤ pageSize) :
    ∀ {pagesLeft : Nat} {cursor : Option String} {values canonical : List MemoryItem}
      {w : IndexWorld σ P}, valid w.store → Listed items tenantId w cursor values →
      Ends (ticking ticks) ((repairer stores adapter sha256 isoformat pages).canonicalPages tenantId
        pageSize pagesLeft cursor values) w canonical w' →
      ∃ now, w.now ≤ now ∧ w' = { w with now } ∧ Complete items tenantId w' canonical := by
  intro pagesLeft
  induction pagesLeft with
  | zero => exact fun _ _ h => absurd h not_ends_throw
  | succ pagesLeft ih =>
    intro cursor values canonical w hv hl h
    unfold MemoryIndexRepairService.canonicalPages at h
    obtain ⟨now, w1, hclock, h⟩ := ends_bind h
    obtain ⟨hnow, rfl⟩ := ends_clock hclock
    obtain ⟨page, w2, hlook, h⟩ := ends_bind h
    obtain ⟨later, hlater, hpages, rfl⟩ := ends_storeLook hlook
    obtain ⟨all, heq, hasc, hall⟩ := hc.listIndexable tenantId now pageSize cursor hv
    obtain rfl := hpages.trans heq
    have hcomplete := hl.append hnow hlater hasc hall fun _ _ => hc.key
    split at h
    · exact absurd h not_ends_throw
    · split at h
      · next hlast =>
        obtain ⟨rfl, rfl⟩ := ends_pure h
        refine ⟨later, hnow.trans hlater, rfl, ?_⟩
        have hshort : all.length ≤ pageSize := by
          rw [List.length_take] at hlast
          omega
        rw [List.take_of_length_le hshort]
        exact hcomplete
      · next hfull =>
        have hne : all.take pageSize ≠ [] := by
          intro hnil
          rw [hnil] at hfull
          exact hfull hpage
        obtain ⟨last, hlast⟩ := Option.isSome_iff_exists.1 (List.getLast?_isSome.2 hne)
        rw [hlast] at h
        rw [← List.take_append_drop pageSize all] at hcomplete
        obtain ⟨final, hend, rfl, hfinal⟩ :=
          ih (w := { w with now := later }) hv (hcomplete.upTo hlast) h
        exact ⟨final, (hnow.trans hlater).trans hend, rfl, hfinal⟩

theorem allCanonical_ends (hc : Catalog stores items valid) (hv : valid w.store)
    (h : Ends (ticking ticks)
      ((repairer stores adapter sha256 isoformat pages).allCanonical tenantId pageSize) w canonical w') :
    ∃ now, w.now ≤ now ∧ w' = { w with now } ∧ Complete items tenantId w' canonical := by
  unfold MemoryIndexRepairService.allCanonical at h
  split at h
  · exact absurd h not_ends_throw
  · next hpage =>
    refine canonicalPages_ends hc (by omega) hv ?_ h
    exact ⟨.nil, fun _ hmem => (nomatch hmem), fun _ _ _ _ hcursor => (nomatch hcursor)⟩

def scanned (entries : P → List Entry) (tenantId : String) (p : P) : List MemoryProviderRecord :=
  ((selected entries ⟨tenantId, none, none⟩ p).map recordOf).filter (·.tenantId = some tenantId)

theorem providerPages_ends (hk : Keeps adapter.client entries issued) :
    ∀ {pagesLeft offset : Nat} {values records : List MemoryProviderRecord} {w : IndexWorld σ P},
      issued w.provider →
      values = (((selected entries ⟨tenantId, none, none⟩ w.provider).map recordOf).take offset).filter
        (·.tenantId = some tenantId) →
      Ends (ticking ticks) ((repairer stores adapter sha256 isoformat pages).providerPages tenantId
        pageSize pagesLeft offset values) w (.ok records) w' →
      records = scanned entries tenantId w.provider ∧ issued w'.provider ∧
        entries w'.provider = entries w.provider ∧ w'.store = w.store ∧ w.now ≤ w'.now := by
  intro pagesLeft
  induction pagesLeft with
  | zero => exact fun _ _ h => absurd h not_ends_throw
  | succ pagesLeft ih =>
    intro offset values records w hp hvalues h
    unfold MemoryIndexRepairService.providerPages at h
    obtain ⟨scan, w1, hcall, h⟩ := ends_bind h
    obtain ⟨now, hnow, p1, hscan, rfl⟩ := ends_providerCall hcall
    split at h
    · cases (ends_pure h).1
    · next hsuccess =>
      obtain ⟨hp1, hsame, hpage⟩ := scan_ok hk hp hscan (not_not.1 hsuccess)
      set all := (selected entries ⟨tenantId, none, none⟩ w.provider).map recordOf with hall
      have hread : values ++ scan.records.filter (·.tenantId = some tenantId) =
          (all.take (offset + pageSize)).filter (·.tenantId = some tenantId) := by
        rw [hvalues, hpage, List.take_add, List.filter_append]
      dsimp only at h
      rw [hread] at h
      split at h
      · next hlast =>
        obtain ⟨hrecords, rfl⟩ := ends_pure h
        cases hrecords
        have hshort : all.length ≤ offset + pageSize := by
          rw [hpage, List.length_take, List.length_drop] at hlast
          omega
        exact ⟨by rw [List.take_of_length_le hshort, scanned], hp1, hsame, rfl, hnow⟩
      · next hfull =>
        have hlength : scan.records.length = pageSize := by
          rw [hpage, List.length_take] at hfull ⊢
          omega
        rw [hlength] at h
        have hselected : selected entries ⟨tenantId, none, none⟩ p1 =
            selected entries ⟨tenantId, none, none⟩ w.provider := by
          unfold selected
          rw [hsame]
        obtain ⟨hrecords, hp', hentries, hstore, hlater⟩ :=
          ih (w := { w with provider := p1, now }) hp1 (by rw [hselected]) h
        refine ⟨?_, hp', hentries.trans hsame, hstore, hnow.trans hlater⟩
        rw [hrecords, scanned, scanned, hselected]

theorem allProviderRecords_ends (hk : Keeps adapter.client entries issued) (hp : issued w.provider)
    (h : Ends (ticking ticks)
      ((repairer stores adapter sha256 isoformat pages).allProviderRecords tenantId pageSize) w
        (.ok records) w') :
    records = scanned entries tenantId w.provider ∧ issued w'.provider ∧
      entries w'.provider = entries w.provider ∧ w'.store = w.store ∧ w.now ≤ w'.now := by
  unfold MemoryIndexRepairService.allProviderRecords at h
  split at h
  · exact absurd h not_ends_throw
  · exact providerPages_ends hk hp rfl h

def OfTenant (tenantId : String) (e : Entry) : Prop := e.2.metadata.tenantId = some tenantId

theorem mem_scanned (htenant : tenantId ≠ "") {p : P} {record : MemoryProviderRecord} :
    record ∈ scanned entries tenantId p ↔
      ∃ e ∈ entries p, OfTenant tenantId e ∧ recordOf e = record := by
  unfold scanned selected
  rw [List.mem_filter, List.mem_map]
  constructor
  · rintro ⟨⟨e, he, rfl⟩, hrecord⟩
    exact ⟨e, List.mem_of_mem_filter he, (optionalString_eq_some (of_decide_eq_true hrecord)).1, rfl⟩
  · rintro ⟨e, he, hof, rfl⟩
    have hselects : IndexFakeMem0.selects ⟨tenantId, none, none⟩ e.2.metadata = true := by
      unfold IndexFakeMem0.selects
      rw [hof]
      simp
    refine ⟨⟨e, List.mem_filter.2 ⟨he, hselects⟩, rfl⟩, decide_eq_true ?_⟩
    show optionalString e.2.metadata.tenantId = some tenantId
    rw [hof]
    exact optionalString_of_ne htenant

/-! ## Records that go -/

/-- One deletion: either it is completed or a failure is counted. -/
theorem deleteRecord_ends (hk : Keeps adapter.client entries issued) (hp : issued w.provider)
    {memoryId external : String} {deleted : MemoryIndexOperationResult}
    (h : Ends (ticking ticks)
      ((repairer stores adapter sha256 isoformat pages).deleteRecord memoryId external) w deleted w')
    (hdeleted : deleted.completed = true) :
    w'.store = w.store ∧ w.now ≤ w'.now ∧ issued w'.provider ∧
      ∀ e, e ∈ entries w'.provider ↔ e ∈ entries w.provider ∧ e.1 ≠ external := by
  obtain ⟨now, hnow, p1, hcall, rfl⟩ := ends_providerCall h
  obtain ⟨hp1, hentries⟩ := delete_ok hk hp hcall hdeleted
  exact ⟨rfl, hnow, hp1, hentries⟩

structure Deleted (entries : P → List Entry) (issued : P → Prop)
    (records : List MemoryProviderRecord) (w w' : IndexWorld σ P) : Prop where
  store : w'.store = w.store
  now : w.now ≤ w'.now
  issued : issued w'.provider
  mem : ∀ e, e ∈ entries w'.provider ↔
    e ∈ entries w.provider ∧ ∀ record ∈ records, e.1 ≠ record.externalMemoryId

theorem Deleted.cons {w1 : IndexWorld σ P} {record : MemoryProviderRecord}
    {rest : List MemoryProviderRecord} (hstore : w1.store = w.store) (hnow : w.now ≤ w1.now)
    (hone : ∀ e, e ∈ entries w1.provider ↔
      e ∈ entries w.provider ∧ e.1 ≠ record.externalMemoryId)
    (h : Deleted entries issued rest w1 w') : Deleted entries issued (record :: rest) w w' where
  store := h.store.trans hstore
  now := hnow.trans h.now
  issued := h.issued
  mem e := by
    rw [h.mem, hone, List.forall_mem_cons]
    tauto

/-- A loop that deletes the records of a list and counts. -/
theorem loop_ends (hk : Keeps adapter.client entries issued)
    (loop : List MemoryProviderRecord → RepairRun → IndexProgram σ P RepairRun)
    (memoryId : MemoryProviderRecord → String) (counted : RepairRun → RepairRun)
    (hnil : ∀ run, loop [] run = pure run)
    (hcons : ∀ record rest run, loop (record :: rest) run =
      (repairer stores adapter sha256 isoformat pages).deleteRecord (memoryId record)
        record.externalMemoryId >>= fun deleted =>
          loop rest (if deleted.completed then counted run
            else { run with failures := run.failures + 1 }))
    (hfailures : ∀ run, (counted run).failures = run.failures)
    (hcounted : ∀ run, (counted run).retainedExternalIds = run.retainedExternalIds) :
    ∀ {records : List MemoryProviderRecord} {run run' : RepairRun} {w : IndexWorld σ P},
      Ends (ticking ticks) (loop records run) w run' w' → run'.failures = 0 →
      run.failures = 0 ∧ run'.retainedExternalIds = run.retainedExternalIds ∧
        (issued w.provider → Deleted entries issued records w w') := by
  intro records
  induction records with
  | nil =>
    intro run run' w h hok
    rw [hnil] at h
    obtain ⟨rfl, rfl⟩ := ends_pure h
    exact ⟨hok, rfl, fun hp => ⟨rfl, le_refl _, hp, fun e => by simp⟩⟩
  | cons record rest ih =>
    intro run run' w h hok
    rw [hcons] at h
    obtain ⟨deleted, w1, hdelete, h⟩ := ends_bind h
    obtain ⟨hzero, hretained, hrest⟩ := ih h hok
    by_cases hdeleted : deleted.completed = true
    · rw [if_pos hdeleted] at hzero hretained
      refine ⟨(hfailures run).symm.trans hzero, hretained.trans (hcounted run), fun hp => ?_⟩
      obtain ⟨hstore, hnow, hp1, hone⟩ := deleteRecord_ends hk hp hdelete hdeleted
      exact (hrest hp1).cons hstore hnow hone
    · rw [if_neg hdeleted] at hzero
      exact absurd hzero (Nat.succ_ne_zero _)

theorem deleteAll_ends (hk : Keeps adapter.client entries issued) (h : Ends (ticking ticks)
      ((repairer stores adapter sha256 isoformat pages).deleteAll records run) w run' w')
    (hok : run'.failures = 0) :
    run.failures = 0 ∧ run'.retainedExternalIds = run.retainedExternalIds ∧
      (issued w.provider → Deleted entries issued records w w') :=
  loop_ends hk _ (·.memoryId.getD "orphan")
    (fun run => { run with orphanDeleted := run.orphanDeleted + 1 })
    (fun _ => rfl) (fun _ _ _ => rfl) (fun _ => rfl) (fun _ => rfl) h hok

theorem deleteDuplicates_ends (hk : Keeps adapter.client entries issued) {memoryId : String}
    (h : Ends (ticking ticks)
      ((repairer stores adapter sha256 isoformat pages).deleteDuplicates memoryId records run) w
        run' w') (hok : run'.failures = 0) :
    run.failures = 0 ∧ run'.retainedExternalIds = run.retainedExternalIds ∧
      (issued w.provider → Deleted entries issued records w w') :=
  loop_ends hk _ (fun _ => memoryId)
    (fun run => { run with duplicateDeleted := run.duplicateDeleted + 1 })
    (fun _ => rfl) (fun _ _ _ => rfl) (fun _ => rfl) (fun _ => rfl) h hok

/-! ## One item -/

structure Written (items : σ → String → Option MemoryItem) (valid : σ → Prop)
    (entries : P → List Entry) (issued : P → Prop) (item : MemoryItem)
    (keeper : Option MemoryProviderRecord) (external : String) (w w' : IndexWorld σ P) : Prop where
  named : external ≠ ""
  kept : ∀ record, keeper = some record → external = record.externalMemoryId
  fresh : keeper = none → ∀ e ∈ entries w.provider, e.1 ≠ external
  now : w.now ≤ w'.now
  valid : valid w'.store
  issued : issued w'.provider
  stored : ∃ updatedAt, items w'.store = Function.update (items w.store) item.memoryId
    (some (indexStateItem .ready (some external) updatedAt item))
  mem : ∀ e, e ∈ entries w'.provider ↔
    e = (external, ⟨item.content, mem0MetadataForItem item⟩) ∨
      e ∈ entries w.provider ∧ e.1 ≠ external

theorem writeItem_ends (hc : Catalog stores items valid) (hk : Keeps adapter.client entries issued)
    {item : MemoryItem} {keeper : Option MemoryProviderRecord}
    (h : Ends (ticking ticks) ((repairer stores adapter sha256 isoformat pages).writeItem tenantId
      item keeper run) w run' w') (hok : run'.failures = 0) :
    run.failures = 0 ∧ ∃ external,
      run'.retainedExternalIds = external :: run.retainedExternalIds ∧
      (valid w.store → issued w.provider → items w.store item.memoryId = some item →
        item.tenantId = some tenantId →
        (∀ record, keeper = some record → record.externalMemoryId ≠ "") →
        (keeper = none → ∀ e ∈ entries w.provider, OfTenant tenantId e →
          (recordOf e).memoryId ≠ some item.memoryId) →
        Written items valid entries issued item keeper external w w') := by
  unfold MemoryIndexRepairService.writeItem at h
  obtain ⟨now, w1, hclock, h⟩ := ends_bind h
  obtain ⟨hnow, rfl⟩ := ends_clock hclock
  dsimp only at h
  obtain ⟨result, w2, hcall, h⟩ := ends_bind h
  obtain ⟨now2, hnow2, p2, hresult, rfl⟩ := ends_providerCall hcall
  obtain ⟨now3, w3, hclock3, h⟩ := ends_bind h
  obtain ⟨hnow3, rfl⟩ := ends_clock hclock3
  split at h
  · -- the provider has not done it
    obtain ⟨_, w4, -, h⟩ := ends_bind h
    obtain ⟨rfl, -⟩ := ends_pure h
    exact absurd hok (Nat.succ_ne_zero _)
  · next external hexternal =>
    obtain ⟨hexternal, hcompleted⟩ := Option.filter_eq_some_iff.1 hexternal
    obtain ⟨stored, w4, hstore, h⟩ := ends_bind h
    obtain ⟨now4, hnow4, store4, hset, rfl⟩ := ends_storeCall hstore
    split at h
    · obtain ⟨_, w5, -, h⟩ := ends_bind h
      obtain ⟨rfl, -⟩ := ends_pure h
      exact absurd hok (Nat.succ_ne_zero _)
    · have hrun : run'.failures = run.failures ∧
          run'.retainedExternalIds = external :: run.retainedExternalIds ∧
            w' = { w with store := store4, provider := p2, now := now4 } := by
        split at h
        · obtain ⟨rfl, rfl⟩ := ends_pure h
          exact ⟨rfl, rfl, rfl⟩
        · obtain ⟨rfl, rfl⟩ := ends_pure h
          exact ⟨rfl, rfl, rfl⟩
      obtain ⟨hfailures, hretained, rfl⟩ := hrun
      refine ⟨hfailures.symm.trans hok, external, hretained, ?_⟩
      intro hv hp hitem htenant hnamed hnone
      obtain ⟨hv4, current, hcurrent, -, hitems⟩ := hc.setIndexState hv hset
      obtain rfl : item = current := Option.some.inj (hitem.symm.trans hcurrent)
      have hlast : w.now ≤ now4 := ((hnow.trans hnow2).trans hnow3).trans hnow4
      cases keeper with
      | none =>
        have htenantId : item.tenantId = some (item.tenantId.getD "") := by rw [htenant]; rfl
        obtain ⟨hp2, hne, hfresh, hmem⟩ := add_ok hk hp rfl htenantId
          (fun e he hof => hnone rfl e he (hof.trans htenant)) hresult hcompleted hexternal
        refine ⟨hne, fun _ hkeeper => (nomatch hkeeper), fun _ => hfresh, hlast, hv4, hp2,
          ⟨_, hitems⟩, fun e => (hmem e).trans ?_⟩
        exact or_congr_right ⟨fun he => ⟨he, hfresh e he⟩, And.left⟩
      | some record =>
        obtain ⟨hp2, rfl, -, hmem⟩ := update_ok hk hp rfl (hnamed record rfl) rfl hresult
          hcompleted hexternal
        exact ⟨hnamed record rfl, fun _ hkeeper => Option.some.inj hkeeper ▸ rfl,
          fun hkeeper => (nomatch hkeeper), hlast, hv4, hp2, ⟨_, hitems⟩, hmem⟩

end Lists
end OpenIntentRouter.Memories.RepairSteps
