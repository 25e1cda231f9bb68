import OpenIntentRouter.Services.MemoryIndexing

/-!
# The records of the provider

What the calls of the adapter do to the records that a provider has, if the calls
of the client that succeed do what they say (`Keeps`).

* `scan_ok`: a page of a scan is a page of the records that the filters select;
* `delete_ok`, `add_ok`, `update_ok`: what is there after a call that succeeds;
* `keeps_indexFakeMem0`: the client of the tests is one of this kind.
-/
namespace OpenIntentRouter.Memories.ProviderRecords

open Core Schemas Repositories.MemoryIndex Services

abbrev Entry := String × Mem0Record

variable {P : Type}

/-- The calls of the client that succeed: `get_all` lists what is there, `add` takes an id of no
other record, `update` writes a record that is there and `delete` leaves none of the id, also if
it says that there was none. -/
structure Keeps (client : Mem0Client P) (entries : P → List Entry) (valid : P → Prop) : Prop where
  nodup {p : P} : valid p → ((entries p).map Prod.fst).Nodup
  named {p : P} : valid p → ∀ e ∈ entries p, e.1 ≠ ""
  getAll {filters : Mem0Filters} {limit : Nat} {p p' : P} {results : List Mem0Result} :
    valid p → (client.getAll filters limit).run p = (.ok results, p') →
    valid p' ∧ entries p' = entries p ∧
      results = (((entries p).filter fun e => IndexFakeMem0.selects filters e.2.metadata).map
        IndexFakeMem0.result).take limit
  add {content user : String} {metadata : ProviderMetadata} {p p' : P} {id : String} :
    valid p → (client.add content user metadata).run p = (.ok (some id), p') →
    valid p' ∧ (∀ e ∈ entries p, e.1 ≠ id) ∧
      ∀ e, e ∈ entries p' ↔ e = (id, ⟨content, metadata⟩) ∨ e ∈ entries p
  update {id content : String} {metadata : ProviderMetadata} {p p' : P} :
    valid p → (client.update id content metadata).run p = (.ok (), p') →
    valid p' ∧ (∃ e ∈ entries p, e.1 = id) ∧
      ∀ e, e ∈ entries p' ↔ e = (id, ⟨content, metadata⟩) ∨ e ∈ entries p ∧ e.1 ≠ id
  delete {id : String} {result : Except ProviderError Unit} {p p' : P} :
    valid p → (client.delete id).run p = (result, p') → (∀ error, result = .error error → error.notFound) →
    valid p' ∧ ∀ e, e ∈ entries p' ↔ e ∈ entries p ∧ e.1 ≠ id

def recordOf (e : Entry) : MemoryProviderRecord where
  externalMemoryId := e.1
  memoryId := optionalString e.2.metadata.memoryId
  revisionId := optionalString e.2.metadata.revisionId
  tenantId := optionalString e.2.metadata.tenantId
  content := e.2.memory

theorem providerRecordsFromRaw_entries {l : List Entry} (h : ∀ e ∈ l, e.1 ≠ "") :
    providerRecordsFromRaw (l.map IndexFakeMem0.result) = l.map recordOf := by
  have hnamed : (l.map IndexFakeMem0.result).filter (·.id ≠ "") = l.map IndexFakeMem0.result := by
    rw [List.filter_eq_self]
    intro result hresult
    obtain ⟨e, he, rfl⟩ := List.mem_map.1 hresult
    exact decide_eq_true (h e he)
  unfold providerRecordsFromRaw
  rw [hnamed, List.map_map]
  rfl

theorem optionalString_of_ne {s : String} (h : s ≠ "") : optionalString (some s) = some s := by
  unfold optionalString
  rw [Option.filter_some, if_pos (decide_eq_true h)]

theorem optionalString_eq_some {value : Option String} {s : String}
    (h : optionalString value = some s) : value = some s ∧ s ≠ "" := by
  unfold optionalString at h
  obtain ⟨hvalue, hne⟩ := Option.filter_eq_some_iff.1 h
  exact ⟨hvalue, of_decide_eq_true hne⟩

theorem page_eq {α : Type} (l : List α) (limit offset : Nat) :
    (if offset = 0 then l.take (limit + offset)
      else ((l.take (limit + offset)).drop offset).take limit) = (l.drop offset).take limit := by
  split
  · next hzero => simp [hzero]
  · rw [List.drop_take, Nat.add_sub_cancel, List.take_take, Nat.min_self]

section Calls

variable {adapter : Mem0MemoryAdapter P} {entries : P → List Entry} {valid : P → Prop} {p p' : P}

def selected (entries : P → List Entry) (filters : Mem0Filters) (p : P) : List Entry :=
  (entries p).filter fun e => IndexFakeMem0.selects filters e.2.metadata

theorem caught_eq {α : Type} {fallback : ProviderError → α} {call : Stateful ProviderError P α}
    {a : α} (h : Mem0MemoryAdapter.caught fallback call p = (a, p')) :
    call.run p = (.ok a, p') ∨ ∃ error, call.run p = (.error error, p') ∧ a = fallback error := by
  unfold Mem0MemoryAdapter.caught at h
  split at h
  · next hcall =>
    cases h
    exact .inl hcall
  · next hcall =>
    cases h
    exact .inr ⟨_, hcall, rfl⟩

/-- What `scan_provider_records` returns when the client succeeds. -/
theorem scanProviderRecords_ok (hk : Keeps adapter.client entries valid) (hp : valid p)
    {tenantId : String} {userId memoryId : Option String} {limit offset : Nat}
    {scan : MemoryProviderScanResult}
    (h : (adapter.scanProviderRecords tenantId userId memoryId limit offset).run p = (.ok scan, p'))
    (hscan : scan.status = .success) :
    valid p' ∧ entries p' = entries p ∧
      scan.records = (((selected entries ⟨tenantId, optionalString userId, optionalString memoryId⟩
        p).map recordOf).drop offset).take limit := by
  unfold Mem0MemoryAdapter.scanProviderRecords at h
  dsimp only at h
  rcases Stateful.run_tryCatch_ok.1 h with h | ⟨error, p1, -, h⟩
  · obtain ⟨raw, p1, hraw, hreturn⟩ := Stateful.run_bind_ok.1 h
    obtain ⟨results, p2, hresults, hpage⟩ := Stateful.run_bind_ok.1 hraw
    cases hreturn
    obtain ⟨hp2, hsame, rfl⟩ := hk.getAll hp hresults
    rw [Stateful.run_pure] at hpage
    simp only [Prod.mk.injEq, Except.ok.injEq] at hpage
    obtain ⟨rfl, rfl⟩ := hpage
    refine ⟨hp2, hsame, ?_⟩
    show providerRecordsFromRaw _ = _
    rw [page_eq, ← List.map_drop, ← List.map_take, ← List.map_drop, ← List.map_take]
    refine providerRecordsFromRaw_entries fun e he => hk.named hp e ?_
    exact List.mem_of_mem_filter (List.mem_of_mem_drop (List.mem_of_mem_take he))
  · rw [Stateful.run_pure] at h
    cases h
    cases hscan

theorem scan_ok (hk : Keeps adapter.client entries valid) (hp : valid p) {tenantId : String}
    {limit offset : Nat} {scan : MemoryProviderScanResult}
    (h : adapter.strategy.scanProviderRecords tenantId limit offset p = (scan, p'))
    (hscan : scan.status = .success) :
    valid p' ∧ entries p' = entries p ∧
      scan.records =
        (((selected entries ⟨tenantId, none, none⟩ p).map recordOf).drop offset).take limit := by
  rcases caught_eq h with h | ⟨error, -, rfl⟩
  · exact scanProviderRecords_ok hk hp h hscan
  · cases hscan

/-- A deletion that is completed leaves no record of the id. -/
theorem delete_ok (hk : Keeps adapter.client entries valid) (hp : valid p)
    {memoryId external : String} {deleted : MemoryIndexOperationResult}
    (h : adapter.strategy.deleteProviderRecord memoryId external p = (deleted, p'))
    (hdeleted : deleted.completed) :
    valid p' ∧ ∀ e, e ∈ entries p' ↔ e ∈ entries p ∧ e.1 ≠ external := by
  rcases caught_eq h with h | ⟨error, -, rfl⟩
  · unfold Mem0MemoryAdapter.deleteProviderRecord at h
    rcases Stateful.run_tryCatch_ok.1 h with h | ⟨error, p1, hdelete, h⟩
    · obtain ⟨_, p1, hdelete, hreturn⟩ := Stateful.run_bind_ok.1 h
      cases hreturn
      refine hk.delete hp hdelete fun error herror => ?_
      cases herror
    · have hclient : (adapter.client.delete external).run p = (.error error, p1) := by
        rcases Stateful.run_bind_error.1 hdelete with hclient | ⟨_, _, -, hreturn⟩
        · exact hclient
        · cases hreturn
      split at h
      · next hnotFound =>
        cases h
        exact hk.delete hp hclient fun _ hr => Except.error.inj hr ▸ hnotFound
      · cases h
        cases hdeleted
  · cases hdeleted

variable {operation : MemoryIndexOperation} {item : MemoryItem}
  {result : MemoryIndexOperationResult} {external : String}

theorem executeIndexOperation_ok
    (h : adapter.strategy.executeIndexOperation operation (some item) p = (result, p'))
    (hresult : result.completed) :
    (operation.operation = .add → (adapter.executeAdd operation item).run p = (.ok result, p')) ∧
      (operation.operation = .update →
        (adapter.executeUpdate operation item).run p = (.ok result, p')) := by
  rcases caught_eq h with h | ⟨error, -, rfl⟩
  · unfold Mem0MemoryAdapter.executeIndexOperation at h
    rcases Stateful.run_tryCatch_ok.1 h with h | ⟨error, p1, -, h⟩
    · constructor
      · intro hadd
        rw [hadd] at h
        exact h
      · intro hupdate
        rw [hupdate] at h
        exact h
    · cases h
      cases hresult
  · cases hresult

theorem add_ok (hk : Keeps adapter.client entries valid) (hp : valid p)
    (hadd : operation.operation = .add) (htenant : item.tenantId = some operation.tenantId)
    (hnew : ∀ e ∈ entries p, e.2.metadata.tenantId = item.tenantId →
      optionalString e.2.metadata.memoryId ≠ some item.memoryId)
    (h : adapter.strategy.executeIndexOperation operation (some item) p = (result, p'))
    (hresult : result.completed) (hexternal : result.externalMemoryId = some external) :
    valid p' ∧ external ≠ "" ∧ (∀ e ∈ entries p, e.1 ≠ external) ∧
      ∀ e, e ∈ entries p' ↔
        e = (external, ⟨item.content, mem0MetadataForItem item⟩) ∨ e ∈ entries p := by
  have h := (executeIndexOperation_ok h hresult).1 hadd
  unfold Mem0MemoryAdapter.executeAdd at h
  obtain ⟨scan, p1, hscan, h⟩ := Stateful.run_bind_ok.1 h
  split at h
  · cases h
    cases hresult
  · next hstatus =>
    obtain ⟨hp1, hsame, hrecords⟩ := scanProviderRecords_ok hk hp hscan (not_not.1 hstatus)
    have hnone : matchingProviderRecords scan.records item = [] := by
      unfold matchingProviderRecords
      rw [List.filter_eq_nil_iff, hrecords]
      intro record hrecord hmatch
      obtain ⟨e, he, rfl⟩ :=
        List.mem_map.1 (List.mem_of_mem_drop (List.mem_of_mem_take hrecord))
      obtain ⟨hmemory, htenantId⟩ := Bool.and_eq_true_iff.1 hmatch
      obtain ⟨htenantId, -⟩ := optionalString_eq_some ((of_decide_eq_true htenantId).trans htenant)
      exact hnew e (List.mem_of_mem_filter he) (htenantId.trans htenant.symm)
        (of_decide_eq_true hmemory)
    rw [hnone] at h
    obtain ⟨added, p2, hadded, h⟩ := Stateful.run_bind_ok.1 h
    split at h
    · cases h
      cases hresult
    · next id hid =>
      cases h
      cases hexternal
      obtain ⟨rfl, hne⟩ := optionalString_eq_some hid
      obtain ⟨hp', hfresh, hentries⟩ := hk.add hp1 hadded
      rw [hsame] at hfresh hentries
      exact ⟨hp', hne, hfresh, hentries⟩

/-- The record that an update names has what the item has. -/
theorem update_ok (hk : Keeps adapter.client entries valid) (hp : valid p)
    (hupdate : operation.operation = .update) {known : String} (hne : known ≠ "")
    (hknown : operation.externalMemoryId = some known)
    (h : adapter.strategy.executeIndexOperation operation (some item) p = (result, p'))
    (hresult : result.completed) (hexternal : result.externalMemoryId = some external) :
    valid p' ∧ external = known ∧ (∃ e ∈ entries p, e.1 = known) ∧
      ∀ e, e ∈ entries p' ↔
        e = (known, ⟨item.content, mem0MetadataForItem item⟩) ∨ e ∈ entries p ∧ e.1 ≠ known := by
  have h := (executeIndexOperation_ok h hresult).2 hupdate
  unfold Mem0MemoryAdapter.executeUpdate at h
  rw [hknown, optionalString_of_ne hne, Option.some_or] at h
  obtain ⟨target, p1, htarget, h⟩ := Stateful.run_bind_ok.1 h
  cases htarget
  obtain ⟨_, p2, hupdated, h⟩ := Stateful.run_bind_ok.1 h
  cases h
  cases hexternal
  obtain ⟨hp', hthere, hentries⟩ := hk.update hp hupdated
  exact ⟨hp', rfl, hthere, hentries⟩

end Calls

/-! ## The client of the tests -/

section FakeMem0

def Issued (newId : Nat → String) (provider : IndexFakeMem0) : Prop :=
  ∀ e ∈ provider.records.entries, e.1 ≠ "" ∧ ∀ n, provider.nextId ≤ n → e.1 ≠ newId n

variable {newId : Nat → String} {provider : IndexFakeMem0}

theorem mem_entries_set {κ β : Type} [DecidableEq κ] (d : Dict κ β) (k : κ) (v : β) (e : κ × β) :
    e ∈ (d.set k v).entries ↔ e = (k, v) ∨ e ∈ d.entries ∧ e.1 ≠ k := by
  obtain ⟨k', v'⟩ := e
  rw [Dict.mem_entries, Dict.mem_entries, Dict.get?_set]
  by_cases hk : k = k'
  · subst hk
    simp [eq_comm]
  · have hk' : k' ≠ k := Ne.symm hk
    simp [hk, hk']

theorem mem_entries_erase {κ β : Type} [DecidableEq κ] (d : Dict κ β) (k : κ) (e : κ × β) :
    e ∈ (d.erase k).entries ↔ e ∈ d.entries ∧ e.1 ≠ k := by
  obtain ⟨k', v'⟩ := e
  rw [Dict.mem_entries, Dict.mem_entries, Dict.get?_erase]
  by_cases hk : k = k'
  · subst hk
    simp
  · have hk' : k' ≠ k := Ne.symm hk
    simp [hk, hk']

/-- A record is written under an id that is there or was just issued. -/
theorem Issued.set (h : Issued newId provider) {id : String} (hid : id ≠ "") {next : Nat}
    (hnext : provider.nextId ≤ next) (hissued : ∀ n, next ≤ n → id ≠ newId n) (record : Mem0Record) :
    Issued newId ⟨provider.records.set id record, next⟩ := by
  intro e he
  rcases (mem_entries_set _ _ _ _).1 he with rfl | ⟨he, -⟩
  · exact ⟨hid, hissued⟩
  · exact ⟨(h e he).1, fun n hn => (h e he).2 n (hnext.trans hn)⟩

theorem mem_of_contains {κ β : Type} [DecidableEq κ] {d : Dict κ β} {k : κ}
    (h : d.contains k = true) : ∃ e ∈ d.entries, e.1 = k := by
  obtain ⟨v, hv⟩ := (Dict.contains_iff d k).1 h
  exact ⟨(k, v), (Dict.mem_entries d k v).2 hv, rfl⟩

theorem not_mem_of_not_contains {κ β : Type} [DecidableEq κ] {d : Dict κ β} {k : κ}
    (h : ¬d.contains k = true) {e : κ × β} (he : e ∈ d.entries) : e.1 ≠ k := by
  rintro rfl
  exact h ((Dict.contains_iff d e.1).2 ⟨e.2, (Dict.mem_entries d e.1 e.2).1 he⟩)

theorem keeps_indexFakeMem0 (hinj : newId.Injective) (hne : ∀ n, newId n ≠ "") :
    Keeps (IndexFakeMem0.client newId) (fun provider => provider.records.entries)
      (Issued newId) where
  nodup := fun {p} _ => p.records.nodup
  named h e he := (h e he).1
  getAll h hcall := by
    cases hcall
    exact ⟨h, rfl, rfl⟩
  add {content user metadata p p' id} h hcall := by
    cases hcall
    have hfresh : ∀ e ∈ p.records.entries, e.1 ≠ newId p.nextId :=
      fun e he => (h e he).2 _ (le_refl _)
    refine ⟨?_, hfresh, fun e => ?_⟩
    · refine h.set (hne _) (Nat.le_succ _) (fun n hn heq => ?_) _
      have := hinj heq
      omega
    · rw [mem_entries_set]
      constructor
      · rintro (he | ⟨he, -⟩)
        · exact .inl he
        · exact .inr he
      · rintro (he | he)
        · exact .inl he
        · exact .inr ⟨he, hfresh e he⟩
  update {id content metadata p p'} h hcall := by
    simp only [IndexFakeMem0.client, Stateful.run_lift] at hcall
    by_cases hthere : p.records.contains id = true
    · rw [if_pos hthere] at hcall
      cases hcall
      obtain ⟨e, he, rfl⟩ := mem_of_contains hthere
      exact ⟨h.set (h e he).1 (le_refl _) (h e he).2 _, ⟨e, he, rfl⟩, mem_entries_set _ _ _⟩
    · rw [if_neg hthere] at hcall
      cases hcall
  delete {id result p p'} h hcall hresult := by
    simp only [IndexFakeMem0.client, Stateful.run_lift] at hcall
    by_cases hthere : p.records.contains id = true
    · rw [if_pos hthere] at hcall
      cases hcall
      exact ⟨fun e he => h e ((mem_entries_erase _ _ _).1 he).1, mem_entries_erase _ _⟩
    · rw [if_neg hthere] at hcall
      cases hcall
      exact ⟨h, fun e => ⟨fun he => ⟨he, not_mem_of_not_contains hthere he⟩, And.left⟩⟩

end FakeMem0
end OpenIntentRouter.Memories.ProviderRecords
