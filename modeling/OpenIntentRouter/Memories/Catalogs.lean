import OpenIntentRouter.Core.Cursor
import OpenIntentRouter.Services.MemoryIndexing

/-!
# The items of a store

What a repair reads of the items of a store and writes to them (`Catalog`), for
the stores of the memory and of the database. A row of the database without a
lifecycle status is read as an active item but not listed as one; the start of
the service fills the status of such rows (`Backfilled`).
-/
namespace OpenIntentRouter.Memories.Catalogs

open Core Core.Except Schemas Repositories.MemoryIndex Services
open Repositories.MemoryDatabase (MemoryTables MemoryItemModel memoryFromRow)

structure Catalog {σ : Type} (stores : IndexStores σ) (items : σ → String → Option MemoryItem)
    (valid : σ → Prop) : Prop where
  key {s : σ} {memoryId : String} {item : MemoryItem} :
    items s memoryId = some item → item.memoryId = memoryId
  getById (memoryId tenantId : String) (s : σ) :
    stores.getById memoryId tenantId s = (items s memoryId).filter (·.tenantId = some tenantId)
  listIndexable {s : σ} (tenantId : String) (now : Instant) (limit : Nat) (after : Option String) :
    valid s → ∃ all : List MemoryItem,
      stores.listIndexable tenantId now limit after s = all.take limit ∧
      (all.Pairwise fun a b => a.memoryId < b.memoryId) ∧
      ∀ item, item ∈ all ↔ items s item.memoryId = some item ∧ item.tenantId = some tenantId ∧
        itemIndexable item now = true ∧ after.all (· < item.memoryId) = true
  setIndexState {s s' : σ} {memoryId tenantId : String} {expected external : Option String}
    {status : MemoryIndexStatus} {updatedAt : Instant} {stored : MemoryItem} :
    valid s →
    stores.setIndexState memoryId tenantId expected status external updatedAt s =
      (some stored, s') →
    valid s' ∧ ∃ item, items s memoryId = some item ∧ item.tenantId = some tenantId ∧
      items s' = Function.update (items s) memoryId
        (some (indexStateItem status external updatedAt item))
  completeDeleteFromIndex {s s' : σ} {operation : MemoryIndexOperation} {now : Instant}
    {providerStatus : Option String} {result : MemoryEvent × Bool} :
    valid s →
    stores.completeDeleteFromIndex operation now providerStatus s = .ok (result, s') → valid s'
  addEvent {s s' : σ} {event : MemoryEvent} :
    stores.addEvent event s = .ok ((), s') → items s' = items s

theorem not_expired (item : MemoryItem) (now : Instant) :
    (!expired item now) = item.ttlExpiresAt.all (now < ·) := by
  unfold expired
  cases item.ttlExpiresAt with
  | none => rfl
  | some expiry => simp only [Option.any_some, Option.all_some, ← not_le, decide_not]

theorem get?_put_eq_update {κ β : Type} [DecidableEq κ] {key : β → κ} (t : Table key) (v : β) :
    (t.put v).get? = Function.update t.get? (key v) (some v) := by
  funext k
  rw [Table.get?_put]
  by_cases hk : key v = k
  · rw [if_pos hk, hk, Function.update_self]
  · rw [if_neg hk, Function.update_of_ne (Ne.symm hk)]

section Memory

variable {sha256 : String → String}

def memoryItems (store : MemoryStore) : String → Option MemoryItem := store.items.get?

theorem catalog_memory : Catalog (memoryIndexStores sha256) memoryItems fun _ => True where
  key h := Table.key_of_get? h
  getById memoryId tenantId s := rfl
  listIndexable {s} tenantId now limit after _ := by
    refine ⟨_, rfl, ?_, fun item => ?_⟩
    · exact Cursor.pairwise_lt_insertionSort MemoryItem.memoryId
        (s.items.keys_nodup.sublist (List.filter_sublist.map _))
    · rw [List.mem_insertionSort, List.mem_filter, Table.mem_values]
      simp only [MemoryStore.memoryActive, itemIndexable, not_expired, Bool.and_eq_true,
        decide_eq_true_eq, memoryItems]
      tauto
  setIndexState {s s' memoryId tenantId expected external status updatedAt stored} _ h := by
    refine ⟨trivial, ?_⟩
    simp only [memoryIndexStores, MemoryStore.setIndexState] at h
    split at h
    · cases h
    · next item hitem =>
      split at h
      · cases h
      · next hcurrent =>
        simp only [Bool.or_eq_true, decide_eq_true_eq, not_or, not_not] at hcurrent
        cases h
        obtain rfl := Table.key_of_get? hitem
        exact ⟨item, hitem, hcurrent.1.1, get?_put_eq_update _ _⟩
  completeDeleteFromIndex _ _ := trivial
  addEvent {s s' event} h := by
    obtain ⟨store, hstore, heq⟩ := map_eq_ok.1 h
    cases heq
    unfold MemoryStore.addEvent at hstore
    split at hstore
    · obtain ⟨_, -, hreturn⟩ := bind_eq_ok.1 hstore
      cases hreturn
      rfl
    · cases hstore
      rfl

end Memory

section Database

variable {sha256 : String → String}

def databaseItems (tables : MemoryTables) (memoryId : String) : Option MemoryItem :=
  (tables.items.get? memoryId).map memoryFromRow

/-- mirrors app/db/session.py:340-354: no row is without a lifecycle status -/
def Backfilled (tables : MemoryTables) : Prop :=
  ∀ row ∈ tables.items.values, row.lifecycleStatus.isSome

theorem Backfilled.put {tables : MemoryTables} (h : Backfilled tables) {row : MemoryItemModel}
    (hrow : row.lifecycleStatus.isSome) :
    Backfilled { tables with items := tables.items.put row } := by
  intro other hother
  rcases Table.mem_values_put hother with rfl | hmem
  · exact hrow
  · exact h other hmem

theorem Backfilled.remove {tables : MemoryTables} (h : Backfilled tables) (memoryId : String)
    (tombstone : MemoryEvent) : Backfilled (tables.remove memoryId tombstone) := by
  intro row hrow
  refine h row ?_
  rw [Table.mem_values] at hrow ⊢
  change (tables.items.erase memoryId).get? _ = _ at hrow
  rw [Table.get?_erase] at hrow
  split at hrow
  · cases hrow
  · exact hrow

theorem databaseItems_put (tables : MemoryTables) (row : MemoryItemModel) :
    databaseItems { tables with items := tables.items.put row } =
      Function.update (databaseItems tables) row.memoryId (some (memoryFromRow row)) := by
  funext memoryId
  show ((tables.items.put row).get? memoryId).map memoryFromRow = _
  rw [get?_put_eq_update]
  by_cases hrow : memoryId = row.memoryId
  · subst hrow
    simp only [Function.update_self, Option.map_some]
  · simp only [Function.update_of_ne hrow]
    rfl

theorem catalog_database : Catalog (databaseIndexStores sha256) databaseItems Backfilled where
  key {s memoryId item} h := by
    obtain ⟨row, hrow, rfl⟩ := Option.map_eq_some_iff.1 h
    have hkey : row.memoryId = memoryId := Table.key_of_get? hrow
    exact hkey
  getById memoryId tenantId s := by
    show ((s.items.get? memoryId).filter _).map memoryFromRow = _
    unfold databaseItems
    rw [Option.filter_map]
    rfl
  listIndexable {s} tenantId now limit after hs := by
    refine ⟨_, List.map_take, ?_, fun item => ?_⟩
    · rw [List.pairwise_map]
      exact Cursor.pairwise_lt_insertionSort MemoryItemModel.memoryId
        (s.items.keys_nodup.sublist (List.filter_sublist.map _))
    · rw [List.mem_map]
      constructor
      · rintro ⟨row, hrow, rfl⟩
        rw [List.mem_insertionSort, List.mem_filter, Table.mem_values] at hrow
        obtain ⟨hget, hlisted⟩ := hrow
        simp only [Bool.and_eq_true, decide_eq_true_eq] at hlisted
        obtain ⟨⟨⟨htenant, hstatus⟩, hexpiry⟩, hafter⟩ := hlisted
        refine ⟨Option.map_eq_some_iff.2 ⟨row, hget, rfl⟩, htenant, ?_, hafter⟩
        simp only [itemIndexable, not_expired, Bool.and_eq_true, decide_eq_true_eq]
        exact ⟨by simp [memoryFromRow, hstatus], hexpiry⟩
      · rintro ⟨hget, htenant, hindexable, hafter⟩
        obtain ⟨row, hrow, rfl⟩ := Option.map_eq_some_iff.1 hget
        simp only [itemIndexable, not_expired, Bool.and_eq_true, decide_eq_true_eq] at hindexable
        obtain ⟨status, hstatus⟩ :=
          Option.isSome_iff_exists.1 (hs row ((Table.mem_values _ _).2 hrow))
        have hactive : row.lifecycleStatus = some .active := by
          rw [hstatus, ← hindexable.1]
          simp [memoryFromRow, hstatus]
        refine ⟨row, ?_, rfl⟩
        rw [List.mem_insertionSort, List.mem_filter, Table.mem_values]
        refine ⟨hrow, ?_⟩
        simp only [Bool.and_eq_true, decide_eq_true_eq]
        exact ⟨⟨⟨htenant, hactive⟩, hindexable.2⟩, hafter⟩
  setIndexState {s s' memoryId tenantId expected external status updatedAt stored} hs h := by
    simp only [databaseIndexStores, MemoryTables.setIndexState] at h
    split at h
    · cases h
    · next row hrow =>
      cases h
      obtain ⟨hget, hcurrent⟩ := Option.filter_eq_some_iff.1 hrow
      simp only [Bool.and_eq_true, decide_eq_true_eq] at hcurrent
      obtain rfl := Table.key_of_get? hget
      refine ⟨hs.put ?_, memoryFromRow row, Option.map_eq_some_iff.2 ⟨row, hget, rfl⟩,
        hcurrent.1.1, databaseItems_put _ _⟩
      show row.lifecycleStatus.isSome
      rw [hcurrent.1.2]
      rfl
  completeDeleteFromIndex {s s' operation now providerStatus result} hs h := by
    rcases Repositories.MemoryDatabase.MemoryTables.completeDeleteFromIndex_ok h with
      rfl | ⟨row, -, -, tombstone, -, rfl⟩
    · exact hs
    · exact hs.remove _ tombstone
  addEvent {s s' event} h := by
    obtain ⟨tables, htables, heq⟩ := map_eq_ok.1 h
    cases heq
    unfold MemoryTables.addEvent at htables
    split at htables
    · obtain ⟨_, -, hreturn⟩ := bind_eq_ok.1 htables
      cases hreturn
      rfl
    · cases htables
      rfl

end Database
end OpenIntentRouter.Memories.Catalogs
