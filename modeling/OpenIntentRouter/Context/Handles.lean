import Mathlib.Data.List.Dedup
import Mathlib.Data.List.Perm.Basic
import Mathlib.Data.List.Sort
import OpenIntentRouter.Core.LTS
import OpenIntentRouter.Schemas.AgentContext

/-!
# Handles of knowledge contexts

`KnowledgeContextHandleService` with its threads: callers of `issue`, `consume` and
`close`, and the scheduler, which drops the records that have expired. A critical section is
one step; `issue` draws its handle before it, and `consume` compares after it.

Any number of calls in any interleaving, for any time to live. The handles that are drawn are
arbitrary, repeated ones too, and the clock may be set back.

* `Kept`: every record has its entry in the heap, and a closed service has neither;
* `Ledger`: a handle is live, popped or answered no more often than it was issued;
* `handles_are_one_time`: what is returned, and what the scheduler and `close` leave.
-/
namespace OpenIntentRouter.Context.Handles

open Core Schemas

/-- The keyword arguments of `issue` and `consume`. -/
structure Binding where
  tenantId : String
  principalId : String
  agentId : String
  sourceIds : List String
  sourceTags : List String
  traceId : String
  deriving DecidableEq

/-- mirrors app/services/knowledge_context_handle.py:18-27; the scopes are normalized -/
structure HandleRecord extends Binding where
  context : KnowledgeContext
  expiresAt : Instant

/-- mirrors app/services/knowledge_context_handle.py:48-52. The heap is listed in its order. -/
structure HandleService where
  records : Dict String HandleRecord
  expirations : List (Instant × String)
  closed : Bool

/-- mirrors app/services/knowledge_context_handle.py:168-169 -/
def normalizedScope (values : List String) : List String := values.dedup.insertionSort (· ≤ ·)

theorem mem_normalizedScope {values : List String} {value : String} :
    value ∈ normalizedScope values ↔ value ∈ values := by
  rw [normalizedScope, List.mem_insertionSort, List.mem_dedup]

def Binding.normalized (binding : Binding) : Binding :=
  { binding with
    sourceIds := normalizedScope binding.sourceIds
    sourceTags := normalizedScope binding.sourceTags }

/-- `heappush`, of a pair of a date and a handle. -/
def heappush (entry : Instant × String) : List (Instant × String) → List (Instant × String)
  | [] => [entry]
  | first :: rest =>
    if entry.1 < first.1 ∨ entry.1 = first.1 ∧ entry.2 ≤ first.2 then entry :: first :: rest
    else first :: heappush entry rest

theorem mem_heappush {entry other : Instant × String} {heap : List (Instant × String)} :
    other ∈ heappush entry heap ↔ other = entry ∨ other ∈ heap := by
  induction heap with
  | nil => simp [heappush]
  | cons first rest ih =>
    unfold heappush
    split
    · simp
    · rw [List.mem_cons, ih, List.mem_cons]
      tauto

theorem heappush_pairwise {entry : Instant × String} {heap : List (Instant × String)}
    (h : heap.Pairwise (·.1 ≤ ·.1)) : (heappush entry heap).Pairwise (·.1 ≤ ·.1) := by
  induction heap with
  | nil => simp [heappush]
  | cons first rest ih =>
    obtain ⟨hfirst, hrest⟩ := List.pairwise_cons.1 h
    unfold heappush
    split
    · next hle =>
      have hbefore : entry.1 ≤ first.1 := hle.elim le_of_lt fun heq => heq.1.le
      refine List.pairwise_cons.2 ⟨fun other hother => ?_, h⟩
      rcases List.mem_cons.1 hother with rfl | hother
      · exact hbefore
      · exact hbefore.trans (hfirst other hother)
    · next hnot =>
      have hafter : first.1 ≤ entry.1 := not_lt.1 fun hlt => hnot (.inl hlt)
      refine List.pairwise_cons.2 ⟨fun other hother => ?_, ih hrest⟩
      rcases mem_heappush.1 hother with rfl | hother
      · exact hafter
      · exact hfirst other hother

namespace HandleService

/-- The critical section of `issue`.
mirrors app/services/knowledge_context_handle.py:86-91 -/
def add (service : HandleService) (handle : String) (record : HandleRecord) :
    Option HandleService :=
  if service.closed then none
  else some
    { service with
      records := service.records.set handle record
      expirations := heappush (record.expiresAt, handle) service.expirations }

/-- The critical section of `consume`.
mirrors app/services/knowledge_context_handle.py:107-109 -/
def pop (service : HandleService) (handle : String) : HandleService :=
  { service with records := service.records.erase handle }

/-- mirrors app/services/knowledge_context_handle.py:137-144 -/
def close (service : HandleService) : HandleService :=
  if service.closed then service else ⟨.empty, [], true⟩

/-- One turn of the scheduler; it waits where nothing is due.
mirrors app/services/knowledge_context_handle.py:148-165 -/
def expire (service : HandleService) (now : Instant) : HandleService :=
  if service.closed then service
  else
    match service.expirations with
    | [] => service
    | (expiresAt, handle) :: rest =>
      if 0 < expiresAt - now then service
      else
        { service with
          records :=
            if (service.records.get? handle).any (·.expiresAt = expiresAt) then
              service.records.erase handle
            else service.records
          expirations := rest }

structure Kept (service : HandleService) : Prop where
  covered : ∀ handle record, service.records.get? handle = some record →
    (record.expiresAt, handle) ∈ service.expirations
  ordered : service.expirations.Pairwise (·.1 ≤ ·.1)
  erased : service.closed = true → service.records = .empty

variable {service service' : HandleService} {handle : String} {record : HandleRecord}

theorem get?_add (hadd : service.add handle record = some service') (other : String) :
    service'.records.get? other =
      if handle = other then some record else service.records.get? other := by
  unfold HandleService.add at hadd
  split at hadd
  · cases hadd
  · cases hadd
    exact Dict.get?_set ..

theorem Kept.add (h : Kept service) (hadd : service.add handle record = some service') :
    Kept service' := by
  unfold HandleService.add at hadd
  split at hadd
  · cases hadd
  · next hopen =>
    cases hadd
    refine ⟨fun other found hget => ?_, heappush_pairwise h.ordered, fun hc => absurd hc hopen⟩
    rw [mem_heappush]
    rw [Dict.get?_set] at hget
    split at hget
    · next hsame =>
      cases hget
      exact .inl (by rw [hsame])
    · exact .inr (h.covered other found hget)

theorem get?_pop {other : String} (hget : (service.pop handle).records.get? other = some record) :
    handle ≠ other ∧ service.records.get? other = some record := by
  rw [pop, Dict.get?_erase] at hget
  split at hget
  · cases hget
  · next hne => exact ⟨hne, hget⟩

theorem Kept.pop (h : Kept service) : Kept (service.pop handle) := by
  refine ⟨fun other found hget => h.covered other found (get?_pop hget).2, h.ordered, fun hc => ?_⟩
  have hempty := h.erased hc
  rw [HandleService.pop, hempty]
  rfl

theorem Kept.close (h : Kept service) : Kept service.close := by
  unfold HandleService.close
  split
  · exact h
  · exact ⟨fun other found hget => (by cases hget), List.Pairwise.nil, fun _ => rfl⟩

/-- The scheduler waits, or it takes the first entry. -/
theorem expire_cases (service : HandleService) (now : Instant) :
    service.expire now = service ∨ ∃ expiresAt handle rest, service.closed = false ∧
      service.expirations = (expiresAt, handle) :: rest ∧
      service.expire now =
        ⟨if (service.records.get? handle).any (·.expiresAt = expiresAt) then
            service.records.erase handle
          else service.records, rest, service.closed⟩ := by
  unfold expire
  cases hclosed : service.closed with
  | true => exact .inl rfl
  | false =>
    cases hheap : service.expirations with
    | nil => exact .inl rfl
    | cons first rest =>
      by_cases hdue : 0 < first.1 - now
      · exact .inl (if_pos hdue)
      · exact .inr ⟨first.1, first.2, rest, rfl, rfl, if_neg hdue⟩

theorem get?_expire {now : Instant} {other : String}
    (hget : (service.expire now).records.get? other = some record) :
    service.records.get? other = some record := by
  rcases service.expire_cases now with heq | ⟨expiresAt, handle, rest, -, -, heq⟩
  · rwa [heq] at hget
  · rw [heq] at hget
    dsimp only at hget
    split at hget
    · exact (get?_pop hget).2
    · exact hget

theorem Kept.expire (h : Kept service) (now : Instant) : Kept (service.expire now) := by
  rcases service.expire_cases now with heq | ⟨expiresAt, handle, rest, hopen, hheap, heq⟩
  · rwa [heq]
  · rw [heq]
    refine ⟨fun other found hget => ?_, ?_, fun hc => absurd (hopen.symm.trans hc) (by decide)⟩
    · have hcovered := h.covered other found
      rw [hheap] at hcovered
      dsimp only at hget ⊢
      split at hget
      · obtain ⟨hne, hget⟩ := get?_pop hget
        exact (List.mem_cons.1 (hcovered hget)).resolve_left fun hfirst =>
          hne (Prod.ext_iff.1 hfirst).2.symm
      · next hkept =>
        refine (List.mem_cons.1 (hcovered hget)).resolve_left fun hfirst => hkept ?_
        cases hfirst
        simp [hget]
    · have hordered := h.ordered
      rw [hheap] at hordered
      exact (List.pairwise_cons.1 hordered).2

end HandleService

/-! ## The threads -/

/-- What `issue` was given, the handle that it drew and when. -/
structure Issue where
  handle : String
  context : KnowledgeContext
  binding : Binding
  issuedAt : Instant

/-- mirrors app/services/knowledge_context_handle.py:76-85 -/
def Issue.record (ttl : Int) (issue : Issue) : HandleRecord where
  toBinding := issue.binding.normalized
  context := issue.context
  expiresAt := issue.issuedAt + ttl

/-- A call of `issue` before its critical section, or of `consume` after it. -/
inductive Call where
  | issuing (issue : Issue)
  | comparing (handle : String) (record : HandleRecord) (binding : Binding)

/-- A context that `consume` has returned, to whom and when. -/
structure Answer where
  handle : String
  context : KnowledgeContext
  binding : Binding
  returnedAt : Instant

structure State where
  now : Instant
  service : HandleService
  calls : List Call
  issued : List Issue
  answers : List Answer

inductive Label where
  | clock (now : Instant)
  | issue (handle : String) (context : KnowledgeContext) (binding : Binding)
  | enter (call : Nat)
  | consume (handle : String) (binding : Binding)
  | compare (call : Nat)
  | close
  | schedule

/-- mirrors app/services/knowledge_context_handle.py:112-131 -/
def consumable (record : HandleRecord) (binding : Binding) (now : Instant) : Bool :=
  now < record.expiresAt && binding.normalized = record.toBinding

/-- mirrors app/services/knowledge_context_handle.py:60-165. A call that raises goes no further;
the clock may be set back. -/
def next (ttl : Int) (s : State) : Label → Option State
  | .clock now => some { s with now }
  | .issue handle context binding =>
    if binding.tenantId = "" || binding.principalId = "" || binding.agentId = "" ||
        binding.traceId = "" then some s
    else some { s with calls := .issuing ⟨handle, context, binding, s.now⟩ :: s.calls }
  | .enter call =>
    match s.calls[call]? with
    | some (.issuing issue) =>
      match s.service.add issue.handle (issue.record ttl) with
      | none => some { s with calls := s.calls.eraseIdx call }
      | some service =>
        some { s with service, calls := s.calls.eraseIdx call, issued := issue :: s.issued }
    | _ => none
  | .consume handle binding =>
    match s.service.records.get? handle with
    | none => some s
    | some record =>
      some { s with
        service := s.service.pop handle
        calls := .comparing handle record binding :: s.calls }
  | .compare call =>
    match s.calls[call]? with
    | some (.comparing handle record binding) =>
      let calls := s.calls.eraseIdx call
      if consumable record binding s.now then
        some { s with calls, answers := ⟨handle, record.context, binding, s.now⟩ :: s.answers }
      else some { s with calls }
    | _ => none
  | .close => some { s with service := s.service.close }
  | .schedule => some { s with service := s.service.expire s.now }

def initial (now : Instant) : State := ⟨now, ⟨.empty, [], false⟩, [], [], []⟩

def system (ttl : Int) : LTS State Label := .ofFn (fun s => ∃ now, s = initial now) (next ttl)

/-! ## Runs -/

def Call.holds (handle : String) : Call → Bool
  | .issuing _ => false
  | .comparing other _ _ => other = handle

@[simp] theorem holds_issuing (handle : String) (issue : Issue) :
    (Call.issuing issue).holds handle = false := rfl

@[simp] theorem holds_comparing (handle other : String) (record : HandleRecord)
    (binding : Binding) : (Call.comparing other record binding).holds handle = (other = handle) := by
  simp [Call.holds]

def live (service : HandleService) (handle : String) : Nat :=
  if (service.records.get? handle).isSome then 1 else 0

theorem countP_eraseIdx {calls : List Call} {i : Nat} {call : Call} (h : calls[i]? = some call)
    (test : Call → Bool) :
    calls.countP test = (calls.eraseIdx i).countP test + if test call then 1 else 0 := by
  obtain ⟨hi, rfl⟩ := List.getElem?_eq_some_iff.1 h
  rw [← List.Perm.countP_eq test (List.getElem_cons_eraseIdx_perm hi), List.countP_cons]

/-- A handle is live, popped or answered no more often than it was issued, and with what it was
issued with. -/
structure Ledger (ttl : Int) (s : State) : Prop where
  kept : s.service.Kept
  recorded : ∀ handle record, s.service.records.get? handle = some record →
    ∃ issue ∈ s.issued, issue.handle = handle ∧ issue.record ttl = record
  popped : ∀ handle record binding, .comparing handle record binding ∈ s.calls →
    ∃ issue ∈ s.issued, issue.handle = handle ∧ issue.record ttl = record
  answered : ∀ answer ∈ s.answers, ∃ issue ∈ s.issued, issue.handle = answer.handle ∧
    answer.context = issue.context ∧
    consumable (issue.record ttl) answer.binding answer.returnedAt = true
  counted : ∀ handle, s.answers.countP (·.handle = handle) + s.calls.countP (·.holds handle) +
    live s.service handle ≤ s.issued.countP (·.handle = handle)

theorem live_le {service service' : HandleService} {handle : String}
    (h : ∀ record, service'.records.get? handle = some record →
      service.records.get? handle = some record) : live service' handle ≤ live service handle := by
  unfold live
  cases hget : service'.records.get? handle with
  | none => simp
  | some record => simp [h record hget]

theorem Ledger.drop {ttl : Int} {s : State} (h : Ledger ttl s) {service : HandleService}
    (hkept : service.Kept) (hget : ∀ handle record, service.records.get? handle = some record →
      s.service.records.get? handle = some record) : Ledger ttl { s with service := service } :=
  ⟨hkept, fun handle record hr => h.recorded handle record (hget handle record hr), h.popped,
    h.answered, fun handle =>
      (Nat.add_le_add_left (live_le (hget handle)) _).trans (h.counted handle)⟩

theorem Ledger.next {ttl : Int} {s s' : State} {l : Label} (h : Ledger ttl s)
    (hst : next ttl s l = some s') : Ledger ttl s' := by
  cases l with
  | clock now =>
    cases hst
    exact ⟨h.kept, h.recorded, h.popped, h.answered, h.counted⟩
  | issue handle context binding =>
    dsimp only [Handles.next] at hst
    split at hst
    · cases hst
      exact h
    · cases hst
      refine ⟨h.kept, h.recorded, fun other record b hmem => ?_, h.answered, fun other => ?_⟩
      · exact h.popped other record b ((List.mem_cons.1 hmem).resolve_left (by simp))
      · simpa using h.counted other
  | enter call =>
    dsimp only [Handles.next] at hst
    split at hst
    · next issue hcall =>
      have hcounted := h.counted
      simp only [countP_eraseIdx hcall, holds_issuing, Bool.false_eq_true, if_false] at hcounted
      split at hst
      · cases hst
        exact ⟨h.kept, h.recorded, fun other record b hmem =>
          h.popped other record b (List.mem_of_mem_eraseIdx hmem), h.answered, hcounted⟩
      · next service hadd =>
        cases hst
        refine ⟨h.kept.add hadd, fun other record hget => ?_, fun other record b hmem => ?_,
          fun answer hmem => ?_, fun other => ?_⟩
        · rw [HandleService.get?_add hadd] at hget
          split at hget
          · next hsame => exact ⟨issue, List.mem_cons_self, hsame, Option.some.inj hget⟩
          · obtain ⟨other, hother, hrest⟩ := h.recorded other record hget
            exact ⟨other, List.mem_cons_of_mem _ hother, hrest⟩
        · obtain ⟨other, hother, hrest⟩ :=
            h.popped other record b (List.mem_of_mem_eraseIdx hmem)
          exact ⟨other, List.mem_cons_of_mem _ hother, hrest⟩
        · obtain ⟨other, hother, hrest⟩ := h.answered answer hmem
          exact ⟨other, List.mem_cons_of_mem _ hother, hrest⟩
        · -- only the handle of the new record has one more, and it was issued once more
          have hother := hcounted other
          simp only [live, HandleService.get?_add hadd, List.countP_cons] at hother ⊢
          by_cases hsame : issue.handle = other
          · simp only [hsame, if_true, decide_true, Option.isSome_some]
            omega
          · simpa [hsame] using hother
    · cases hst
  | consume handle binding =>
    dsimp only [Handles.next] at hst
    split at hst
    · cases hst
      exact h
    · next record hget =>
      cases hst
      refine ⟨h.kept.pop, fun other found hfound => ?_, fun other found b hmem => ?_, h.answered,
        fun other => ?_⟩
      · exact h.recorded other found (HandleService.get?_pop hfound).2
      · rcases List.mem_cons.1 hmem with heq | hmem
        · cases heq
          exact h.recorded handle record hget
        · exact h.popped other found b hmem
      · have hother := h.counted other
        simp only [live, HandleService.pop, Dict.get?_erase, List.countP_cons, holds_comparing] at hother ⊢
        by_cases hsame : handle = other
        · subst hsame
          simp only [hget, Option.isSome_some, if_true, Option.isSome_none, Bool.false_eq_true,
            if_false] at hother ⊢
          omega
        · simpa [hsame] using hother
  | compare call =>
    dsimp only [Handles.next] at hst
    split at hst
    · next handle record binding hcall =>
      have hcounted := h.counted
      simp only [countP_eraseIdx hcall, holds_comparing] at hcounted
      have hpopped : ∀ other found b, .comparing other found b ∈ s.calls.eraseIdx call →
          ∃ issue ∈ s.issued, issue.handle = other ∧ issue.record ttl = found :=
        fun other found b hmem => h.popped other found b (List.mem_of_mem_eraseIdx hmem)
      split at hst
      · next hconsumable =>
        cases hst
        refine ⟨h.kept, h.recorded, hpopped, List.forall_mem_cons.2 ⟨?_, h.answered⟩,
          fun other => ?_⟩
        · obtain ⟨issue, hissue, hhandle, hrecord⟩ :=
            h.popped handle record binding (List.mem_of_getElem? hcall)
          subst hrecord
          exact ⟨issue, hissue, hhandle, rfl, hconsumable⟩
        · have hother := hcounted other
          simp only [List.countP_cons, decide_eq_true_eq]
          omega
      · cases hst
        exact ⟨h.kept, h.recorded, hpopped, h.answered, fun other =>
          (by have hother := hcounted other; dsimp only; omega)⟩
    · cases hst
  | close =>
    cases hst
    refine h.drop h.kept.close fun handle record hget => ?_
    unfold HandleService.close at hget
    split at hget
    · exact hget
    · cases hget
  | schedule =>
    cases hst
    exact h.drop (h.kept.expire s.now) fun handle record hget => HandleService.get?_expire hget

theorem ledger_reachable {ttl : Int} {s : State} (h : (system ttl).Reachable s) : Ledger ttl s := by
  refine LTS.Inductive.reachable ⟨?_, fun s l s' => Ledger.next⟩ h
  rintro s ⟨now, rfl⟩
  exact ⟨⟨fun _ _ hget => (by cases hget), .nil, fun _ => rfl⟩, fun _ _ hget => (by cases hget),
    fun _ _ _ hmem => (by cases hmem), fun _ hmem => (by cases hmem), fun _ => Nat.le_refl 0⟩

theorem closed_next {ttl : Int} {s s' : State} {l : Label} (hst : next ttl s l = some s')
    (hc : s.service.closed = true) : s'.service.closed = true := by
  cases l with
  | schedule =>
    cases hst
    rcases s.service.expire_cases s.now with heq | ⟨expiresAt, handle, rest, -, -, heq⟩
    · rwa [heq]
    · rwa [heq]
  | close =>
    cases hst
    rwa [HandleService.close, if_pos hc]
  | enter call =>
    dsimp only [next] at hst
    split at hst
    · rw [HandleService.add, if_pos hc] at hst
      cases hst
      exact hc
    · cases hst
  | _ =>
    dsimp only [next] at hst
    repeat' split at hst
    all_goals cases hst
    all_goals exact hc

/-- The principal, the agent and the trace are the same, and the scopes as sets. -/
structure Binding.Same (binding other : Binding) : Prop where
  tenantId : binding.tenantId = other.tenantId
  principalId : binding.principalId = other.principalId
  agentId : binding.agentId = other.agentId
  traceId : binding.traceId = other.traceId
  sourceIds : ∀ source, source ∈ binding.sourceIds ↔ source ∈ other.sourceIds
  sourceTags : ∀ tag, tag ∈ binding.sourceTags ↔ tag ∈ other.sourceTags

theorem Binding.same_of_normalized {binding other : Binding}
    (h : binding.normalized = other.normalized) : binding.Same other := by
  rw [Binding.normalized, Binding.normalized, Binding.mk.injEq] at h
  obtain ⟨htenant, hprincipal, hagent, hids, htags, htrace⟩ := h
  refine ⟨htenant, hprincipal, hagent, htrace, fun source => ?_, fun tag => ?_⟩
  · rw [← mem_normalizedScope, hids, mem_normalizedScope]
  · rw [← mem_normalizedScope, htags, mem_normalizedScope]

theorem handles_are_one_time {ttl : Int} {s : State} (h : (system ttl).Reachable s) :
    (∀ handle, s.answers.countP (·.handle = handle) ≤ s.issued.countP (·.handle = handle)) ∧
    (∀ answer ∈ s.answers, ∃ issue ∈ s.issued, issue.handle = answer.handle ∧
      answer.context = issue.context ∧ answer.binding.Same issue.binding ∧
      answer.returnedAt < issue.issuedAt + ttl) ∧
    -- where the scheduler finds nothing due, nothing has expired
    ((∀ first ∈ s.service.expirations.head?, s.now < first.1) →
      ∀ handle record, s.service.records.get? handle = some record → s.now < record.expiresAt) ∧
    (s.service.closed = true → ∀ s', (system ttl).Steps s s' →
      s'.service.closed = true ∧ s'.service.records = .empty) := by
  have hledger := ledger_reachable h
  refine ⟨fun handle => ?_, fun answer hmem => ?_, fun hdue handle record hget => ?_,
    fun hc s' hsteps => ?_⟩
  · have hcounted := hledger.counted handle
    omega
  · obtain ⟨issue, hissue, hhandle, hcontext, hconsumable⟩ := hledger.answered answer hmem
    obtain ⟨hbefore, hbinding⟩ := Bool.and_eq_true_iff.1 hconsumable
    exact ⟨issue, hissue, hhandle, hcontext,
      Binding.same_of_normalized (of_decide_eq_true hbinding), of_decide_eq_true hbefore⟩
  · have hcovered := hledger.kept.covered handle record hget
    have hordered := hledger.kept.ordered
    cases hheap : s.service.expirations with
    | nil =>
      rw [hheap] at hcovered
      cases hcovered
    | cons first rest =>
      rw [hheap] at hcovered hdue hordered
      have hfirst : s.now < first.1 := hdue first rfl
      rcases List.mem_cons.1 hcovered with rfl | hrest
      · exact hfirst
      · exact hfirst.trans_le ((List.pairwise_cons.1 hordered).1 _ hrest)
  · have hclosed : s'.service.closed = true := by
      clear h hledger
      induction hsteps with
      | refl => exact hc
      | tail _ hst ih =>
        obtain ⟨l, hl⟩ := hst
        exact closed_next hl ih
    exact ⟨hclosed, (ledger_reachable (h.steps hsteps)).kept.erased hclosed⟩

def sampleBinding : Binding := ⟨"tenant", "principal", "agent", ["wiki"], ["public"], "trace"⟩

def sampleRun : List Label :=
  [.issue "kh_1" ⟨"", [], [], [], .ok, false, [], []⟩ sampleBinding, .enter 0, .clock 59,
    .consume "kh_1" sampleBinding, .compare 0, .consume "kh_1" sampleBinding]

theorem sample_is_one_time :
    ∃ s, LTS.exec (next 60) (initial 0) sampleRun = some s ∧ s.answers.length = 1 ∧
      ∀ handle, s.answers.countP (·.handle = handle) ≤ s.issued.countP (·.handle = handle) := by
  obtain ⟨s, hrun, hlength⟩ : ∃ s, LTS.exec (next 60) (initial 0) sampleRun = some s ∧
      s.answers.length = 1 := ⟨_, rfl, rfl⟩
  exact ⟨s, hrun, hlength, (handles_are_one_time (.exec (.init ⟨0, rfl⟩) hrun)).1⟩

end OpenIntentRouter.Context.Handles
