import OpenIntentRouter.Repositories.MemoryLifecycleStore

/-!
# Reading the memories of a user

The two lookups of `MemoryItemRepository` that the candidate policy makes; its
callers ask for the memories whose subject is the user, expired ones included.
-/
namespace OpenIntentRouter.Repositories.MemoryIndex

open Core Schemas

def ownedBy (tenantId userId : String) (item : MemoryItem) : Bool :=
  item.tenantId = some tenantId && item.subjectType = "user" && item.subjectId = userId &&
    item.userId = some userId

namespace MemoryStore

/-- mirrors app/repositories/context_stores.py:123-152 -/
def getCurrentByKey (store : MemoryStore) (tenantId userId scope memoryKey : String) :
    Option MemoryItem :=
  store.items.values.find? fun item =>
    ownedBy tenantId userId item && item.scope = scope && item.memoryKey = some memoryKey &&
      item.lifecycleStatus = .active

/-- mirrors app/repositories/context_stores.py:154-176 -/
def getActiveByIds (store : MemoryStore) (now : Instant) (memoryIds : List String)
    (tenantId userId : String) (scopes : List String) : List MemoryItem :=
  (memoryIds.filterMap store.items.get?).filter fun item =>
    ownedBy tenantId userId item && (scopes = [] || scopes.contains item.scope) &&
      memoryActive now item

end MemoryStore

variable {store : MemoryStore} {tenantId userId scope memoryKey : String} {item : MemoryItem}

theorem getCurrentByKey_some (h : store.getCurrentByKey tenantId userId scope memoryKey = some item) :
    item ∈ store.items.values ∧ ownedBy tenantId userId item = true ∧ item.scope = scope ∧
      item.memoryKey = some memoryKey ∧ item.lifecycleStatus = .active := by
  have hfound := List.find?_some h
  simp only [Bool.and_eq_true, decide_eq_true_eq] at hfound
  obtain ⟨⟨⟨howned, hscope⟩, hkey⟩, hactive⟩ := hfound
  exact ⟨List.mem_of_find?_eq_some h, howned, hscope, hkey, hactive⟩

theorem getCurrentByKey_none :
    store.getCurrentByKey tenantId userId scope memoryKey = none ↔
      ∀ item ∈ store.items.values, ownedBy tenantId userId item = true → item.scope = scope →
        item.memoryKey = some memoryKey → item.lifecycleStatus ≠ .active := by
  unfold MemoryStore.getCurrentByKey
  rw [List.find?_eq_none]
  simp only [Bool.and_eq_true, decide_eq_true_eq, not_and, and_imp]

end OpenIntentRouter.Repositories.MemoryIndex
