import OpenIntentRouter.Candidates.Soundness
import OpenIntentRouter.Services.MemoryIntegration

/-!
# The keys of conversations and of structured events

The two builders of keys are told apart by the number of colons: no segment of a
key contains one, since ids are percent-encoded or digests. A candidate of a
conversation has a key with five of them, or three if the owner is a digest; the
key of a projected object has six (`colons_buildMemoryKey`, `colons_memoryKey`).
`structured_keys_tell_apart`: which projections share a key, one that the rules make too.

Any ids and any projector whose keys are built (`memoryKey` returns); a digest tells two ids
apart only as far as the hash does (`SameSegment`).
-/
namespace OpenIntentRouter.Candidates

open Core Core.Except Core.Text Schemas Services
open Repositories.MemoryIndex (MemoryStore ownedBy getCurrentByKey_some)

/-! ## Colons -/

def colons (s : String) : Nat := s.toList.count ':'

@[simp] theorem colons_append (s t : String) : colons (s ++ t) = colons s + colons t := by
  simp [colons]

theorem colons_eq_zero {s : String} (h : ':' ∉ s.toList) : colons s = 0 :=
  List.count_eq_zero.2 h

section Segments

variable (py : Python)

theorem colons_sha256 (s : String) : colons (py.sha256 s) = 0 := by
  apply colons_eq_zero
  intro hmem
  have h := py.sha256_hex s ':' hmem
  revert h
  decide

theorem colons_quote (value : String) : colons (quote ['-', '_', '.', '~'] value) = 0 :=
  colons_eq_zero (not_mem_quote (by unfold Quoted; decide))

theorem colons_keySegment (kind : String) (h : colons kind = 0) (value : String) :
    colons (keySegment py kind value) = 0 := by
  unfold keySegment
  simp only
  split
  · exact colons_quote value
  · rw [colons_append, colons_append, h, colons_sha256]
    rfl

theorem colons_scopeKind (scope : String) : colons (scopeKind scope) = 0 := by
  unfold scopeKind
  split_ifs <;> decide

theorem colons_keySlot (raw : String) : colons (keySlot py raw) = 0 := by
  unfold keySlot
  simp only
  split
  · next h =>
    simp only [Bool.and_eq_true, List.all_eq_true] at h
    apply colons_eq_zero
    intro hmem
    have hslot := h.1.1 ':' hmem
    revert hslot
    decide
  · rw [colons_append, colons_sha256]
    rfl

theorem colons_ownerPrefix (tenantId userId : String) :
    colons (ownerPrefix py tenantId userId) = 4 := by
  unfold ownerPrefix
  simp only [colons_append]
  rw [colons_keySegment py "tenant" (by decide), colons_keySegment py "user" (by decide)]
  rfl

end Segments

/-! ## The two builders -/

/-- The key of a candidate that no canonical source stands behind. -/
theorem colons_buildMemoryKey {py : Python} {tenantId userId scope key : String}
    {hint : Option String} {structured : JsonDict}
    (h : buildMemoryKey py tenantId userId scope hint structured false = .ok key) :
    colons key = 5 ∨ colons key = 3 := by
  unfold buildMemoryKey at h
  obtain ⟨canonical, -, h⟩ := bind_eq_ok.1 h
  have hnone : canonical.filter (fun _ => false) = none := by
    cases canonical <;> rfl
  rw [hnone] at h
  dsimp only at h
  have hslot := colons_keySlot py (rawSlot py hint structured)
  have hkind := colons_scopeKind scope
  split at h
  · cases h
    right
    simp only [colons_append, colons_sha256, hkind, hslot]
    decide
  · cases h
    left
    simp only [colons_append, colons_ownerPrefix, hkind, hslot]
    decide

def projectedObjects : List (String × String) :=
  [("plan", "task_status"), ("run", "execution_status"), ("result", "result_status"),
    ("artifact", "reference")]

def ProjectedKey (key : String) : Prop :=
  ∃ (projector : StructuredEventProjector) (tenantId userId objectType objectId slot : String),
    (objectType, slot) ∈ projectedObjects ∧
    projector.memoryKey tenantId userId objectType objectId slot = .ok key

theorem colons_memoryKey {key : String} (h : ProjectedKey key) : colons key = 6 := by
  obtain ⟨projector, tenantId, userId, objectType, objectId, slot, hmem, h⟩ := h
  have hparts : colons objectType = 0 ∧ colons slot = 0 := by
    have hall : ∀ p ∈ projectedObjects, colons p.1 = 0 ∧ colons p.2 = 0 := by decide
    exact hall _ hmem
  unfold StructuredEventProjector.memoryKey at h
  simp only at h
  split at h
  · cases h
  · cases h
    have htenant := colons_keySegment projector.py "tenant" (by decide) tenantId
    have huser := colons_keySegment projector.py "user" (by decide) userId
    have hobject := colons_keySegment projector.py objectType hparts.1 objectId
    simp only [String.intercalate_cons_cons, String.intercalate_singleton, colons_append, htenant,
      huser, hobject, hparts.1, hparts.2]
    decide

/-! ## Structured keys -/

/-- The key of the projector is the one that the rules rebuild. -/
theorem memoryKey_eq {projector : StructuredEventProjector}
    {tenantId userId objectType objectId slot key : String}
    (h : projector.memoryKey tenantId userId objectType objectId slot = .ok key) :
    key = ownerPrefix projector.py tenantId userId ++ objectType ++ ":" ++
      keySegment projector.py objectType objectId ++ ":" ++ slot := by
  unfold StructuredEventProjector.memoryKey at h
  dsimp only at h
  split_ifs at h
  cases h
  apply String.toList_inj.1
  simp [ownerPrefix, String.intercalate_cons_cons, String.intercalate_singleton]

/-- An id whose segment is a digest. -/
def Abbreviated (value : String) : Prop := 128 < (quote ['-', '_', '.', '~'] value).length

/-- The ids are equal, or their digests are, or one spells out the other's digest. -/
def SameSegment (py : Python) (kind value other : String) : Prop :=
  value = other ∨
    Abbreviated value ∧ Abbreviated other ∧ py.sha256 value = py.sha256 other ∨
    Abbreviated value ∧ ¬Abbreviated other ∧
      kind ++ "-sha256-" ++ py.sha256 value = quote ['-', '_', '.', '~'] other ∨
    ¬Abbreviated value ∧ Abbreviated other ∧
      quote ['-', '_', '.', '~'] value = kind ++ "-sha256-" ++ py.sha256 other

theorem keySegment_eq_iff (py : Python) (kind value other : String) :
    keySegment py kind value = keySegment py kind other ↔ SameSegment py kind value other := by
  have hlong {value} (h : Abbreviated value) :
      keySegment py kind value = kind ++ "-sha256-" ++ py.sha256 value := if_neg (Nat.not_le.2 h)
  have hshort {value} (h : ¬Abbreviated value) :
      keySegment py kind value = quote ['-', '_', '.', '~'] value := if_pos (Nat.not_lt.1 h)
  unfold SameSegment
  by_cases hvalue : Abbreviated value <;> by_cases hother : Abbreviated other
  · have hid : value = other → py.sha256 value = py.sha256 other := congrArg _
    rw [hlong hvalue, hlong hother, ← String.toList_inj]
    simp [hvalue, hother, String.toList_inj, or_iff_right_of_imp hid]
  · have hne : value ≠ other := fun h => hother (h ▸ hvalue)
    simp [hlong hvalue, hshort hother, hvalue, hother, hne]
  · have hne : value ≠ other := fun h => hvalue (h ▸ hother)
    simp [hshort hvalue, hlong hother, hvalue, hother, hne]
  · rw [hshort hvalue, hshort hother]
    simp only [hvalue, hother, false_and, and_false, or_false]
    exact ⟨quote_inj (by decide), congrArg _⟩

theorem no_colon (projector : StructuredEventProjector) (tenantId userId objectId : String)
    {objectType slot : String} (h : (objectType, slot) ∈ projectedObjects) :
    ∀ s ∈ ["tenant", keySegment projector.py "tenant" tenantId, "user",
      keySegment projector.py "user" userId, objectType,
      keySegment projector.py objectType objectId, slot], ':' ∉ s.toList := by
  have hall : ∀ p ∈ projectedObjects, colons p.1 = 0 ∧ colons p.2 = 0 := by decide
  obtain ⟨htype, hslot⟩ := hall _ h
  have hsegment (kind : String) (hkind : colons kind = 0) (value : String) :
      ':' ∉ (keySegment projector.py kind value).toList :=
    List.count_eq_zero.1 (colons_keySegment _ kind hkind value)
  simp only [List.forall_mem_cons]
  exact ⟨by decide, hsegment _ (by decide) _, by decide, hsegment _ (by decide) _,
    List.count_eq_zero.1 htype, hsegment _ htype _, List.count_eq_zero.1 hslot, List.forall_mem_nil _⟩

/-- The rules build the key of the projector again, and it tells the owners and the objects apart. -/
theorem structured_keys_tell_apart (projector : StructuredEventProjector)
    (tenantId userId objectType objectId slot key : String)
    (hkey : projector.memoryKey tenantId userId objectType objectId slot = .ok key) :
    (∀ scope idField structured hint,
      canonicalContract scope (some (.str objectType)) = some (objectType, idField, slot) →
      Json.field structured "object_type" = some (.str objectType) →
      Json.field structured idField = some (.str objectId) →
      strip objectId ≠ "" → objectId.length ≤ 128 →
      buildMemoryKey projector.py tenantId userId scope hint structured true = .ok key) ∧
    ((objectType, slot) ∈ projectedObjects →
      ∀ tenantId' userId' objectId', ∀ p ∈ projectedObjects,
        (projector.memoryKey tenantId' userId' p.1 objectId' p.2 = .ok key ↔
          SameSegment projector.py "tenant" tenantId tenantId' ∧
          SameSegment projector.py "user" userId userId' ∧ objectType = p.1 ∧
          SameSegment projector.py objectType objectId objectId')) := by
  refine ⟨fun scope idField structured hint hcontract htype hid hne hlength => ?_,
    fun hmem tenantId' userId' objectId' p hp => ?_⟩
  · have hcanonical : canonicalMemoryKey projector.py (ownerPrefix projector.py tenantId userId)
        scope structured = .ok (some key) := by
      rw [memoryKey_eq hkey]
      unfold canonicalMemoryKey
      simp only [htype, hcontract, hid, hashable, Option.all_some, Bool.not_true,
        Bool.false_eq_true, if_false, hne, Nat.not_lt.2 hlength, decide_false, Bool.or_self]
    unfold buildMemoryKey
    simp only [hcanonical]
    rfl
  · have hslot : ∀ p ∈ projectedObjects, ∀ q ∈ projectedObjects, p.1 = q.1 → p.2 = q.2 := by decide
    simp only [← keySegment_eq_iff]
    unfold StructuredEventProjector.memoryKey at hkey ⊢
    dsimp only at hkey ⊢
    split_ifs at hkey with hlong
    cases hkey
    constructor
    · intro h
      split_ifs at h
      have hsegments := intercalate_inj (no_colon projector tenantId' userId' objectId' hp)
        (no_colon projector tenantId userId objectId hmem) (by simp) (by simp) (Except.ok.inj h)
      simp only [List.cons.injEq, and_true, true_and] at hsegments
      obtain ⟨ht, hu, hobject, ho, -⟩ := hsegments
      exact ⟨ht.symm, hu.symm, hobject.symm, by rw [← ho, hobject]⟩
    · rintro ⟨ht, hu, hobject, ho⟩
      rw [← ht, ← hu, ← hobject, ← ho, ← hslot _ hmem _ hp hobject, if_neg hlong]

def asciiProjector : StructuredEventProjector where
  py := asciiPython
  isoformat _ := ""
  urlsplit _ := .error (.valueError "Invalid URL")
  urlunsplit _ _ path := path

theorem structured_keys_tell_apart_ada :
    asciiProjector.memoryKey "acme" "ada:1" "plan" "2" "task_status" =
        .ok "tenant:acme:user:ada%3A1:plan:2:task_status" ∧
      asciiProjector.memoryKey "acme" "ada" "plan" "1:2" "task_status" ≠
        .ok "tenant:acme:user:ada%3A1:plan:2:task_status" := by
  have hkey : asciiProjector.memoryKey "acme" "ada:1" "plan" "2" "task_status" =
      .ok "tenant:acme:user:ada%3A1:plan:2:task_status" := by decide +kernel
  refine ⟨hkey, fun h => ?_⟩
  obtain ⟨-, hapart⟩ := structured_keys_tell_apart _ _ _ _ _ _ _ hkey
  obtain ⟨-, huser, -⟩ := (hapart (by decide) _ _ _ ("plan", "task_status") (by decide)).1 h
  have hsegment := (keySegment_eq_iff asciiPython "user" "ada:1" "ada").2 huser
  revert hsegment
  decide +kernel

/-! ## The hard rules -/

section Conversation

variable {py : Python} {now now' : Instant} {reads reads' : Reads} {job : FormationJob}
  {candidate : FormationCandidate} {turns : List FormationTurn}

/-- Whether it refuses or not, the candidate keeps the key that was built for it. -/
theorem refusal_key {key : String} {reason : Option MemoryFormationReasonCode}
    (h : refusal py reads job candidate turns = .ok (key, reason)) :
    ∃ hint, buildMemoryKey py job.tenantId job.userId candidate.scope hint candidate.structuredValue
      (trustedCanonical job.trigger) = .ok key := by
  unfold refusal at h
  obtain ⟨built, hbuilt, h⟩ := bind_eq_ok.1 h
  obtain ⟨structured, -, h⟩ := bind_eq_ok.1 h
  suffices built = key by
    rw [← this]
    exact ⟨_, hbuilt⟩
  cases structured with
  | some reason =>
    cases h
    rfl
  | none =>
    obtain ⟨mismatch, -, h⟩ := bind_eq_ok.1 h
    split at h
    · cases h
      rfl
    · split at h
      · cases h
        rfl
      · split at h
        · cases h
          rfl
        · split at h
          · cases h
            rfl
          · split at h <;> cases h <;> rfl

/-- A conversation names no memory but the one with its own key. -/
theorem targetKey_conversation (hjob : conversation job) (memoryKey : String) :
    targetKey reads job candidate memoryKey = .ok (some memoryKey) := by
  have htrigger : job.trigger ≠ .consolidation := by
    rcases hjob with h | h <;> rw [h] <;> decide
  simp [targetKey, isConsolidationTarget, htrigger]
  rfl

structure Looks (reads : Reads) (job : FormationJob) (candidate : FormationCandidate)
    (hard : HardRuleEvaluation) : Prop where
  colons : colons hard.memoryKey = 5 ∨ colons hard.memoryKey = 3
  current : ∀ item, hard.current = some item →
    reads.currentByKey job.tenantId job.userId candidate.scope hard.memoryKey = some item

theorem evaluateHardRules_looks (hjob : conversation job) {hard : HardRuleEvaluation}
    (h : evaluateHardRules py now reads job candidate turns = .ok hard) :
    Looks reads job candidate hard := by
  unfold evaluateHardRules at h
  obtain ⟨⟨built, refused⟩, hrefusal, h⟩ := bind_eq_ok.1 h
  obtain ⟨hint, hbuilt⟩ := refusal_key hrefusal
  rw [hjob.untrusted] at hbuilt
  have hcolons := colons_buildMemoryKey hbuilt
  cases refused with
  | some reason =>
    cases h
    exact ⟨hcolons, fun item hitem => by cases hitem⟩
  | none =>
    simp only [targetKey_conversation hjob, ok_bind] at h
    have habout := aboutCurrent_about h
    refine ⟨habout.key ▸ hcolons, fun item hitem => ?_⟩
    rw [habout.key, ← habout.found]
    exact hitem

/-! ## The policy -/

variable {policy : MemoryCandidatePolicy} {reply : VerifierReply} {decision : CandidatePolicyResult}

/-- A decision is about what one of the two evaluations of the hard rules looked at. -/
theorem evaluate_looks (hjob : conversation job)
    (h : policy.evaluate now now' reads reads' reply job candidate turns = .ok decision) :
    ∃ hard, (Looks reads job candidate hard ∨ Looks reads' job candidate hard) ∧
      decision.operation.memoryKey = hard.memoryKey ∧
      decision.operation.memoryId = hard.current.map (·.memoryId) := by
  unfold MemoryCandidatePolicy.evaluate at h
  simp only [adaptStructuredCandidate_conversation hjob] at h
  obtain ⟨hard, hhard, h⟩ := bind_eq_ok.1 h
  have hlooks := evaluateHardRules_looks hjob hhard
  have hended : ∀ {hard' : HardRuleEvaluation} {outcome : Option String},
      policy.ended job hard' outcome = some decision →
        decision.operation.memoryKey = hard'.memoryKey ∧
        decision.operation.memoryId = hard'.current.map (·.memoryId) := by
    intro hard' outcome he
    obtain ⟨terminal, -, rfl⟩ := Option.map_eq_some_iff.1 he
    exact ⟨rfl, rfl⟩
  have hconclude : ∀ (hard' : HardRuleEvaluation) (outcome : Option String),
      (policy.conclude job candidate hard' outcome).operation.memoryKey = hard'.memoryKey ∧
      (policy.conclude job candidate hard' outcome).operation.memoryId =
        hard'.current.map (·.memoryId) := by
    intro hard' outcome
    unfold MemoryCandidatePolicy.conclude
    simp only
    split_ifs <;> exact ⟨rfl, rfl⟩
  split at h
  · next ended he =>
    cases h
    exact ⟨hard, .inl hlooks, hended he⟩
  · split at h
    · cases h
      exact ⟨hard, .inl hlooks, rfl, rfl⟩
    · split at h
      · cases h
        exact ⟨hard, .inl hlooks, rfl, rfl⟩
      · split at h
        · cases h
          exact ⟨hard, .inl hlooks, rfl, rfl⟩
        · split at h
          · obtain ⟨⟨hard', semantic⟩, hverify, h⟩ := bind_eq_ok.1 h
            have hlooks' : Looks reads job candidate hard' ∨ Looks reads' job candidate hard' := by
              unfold MemoryCandidatePolicy.verifyPending at hverify
              rw [(evaluateHardRules_open hhard).1] at hverify
              split at hverify
              · obtain ⟨rerun, hrerun, hverify⟩ := bind_eq_ok.1 hverify
                cases hverify
                exact .inr (evaluateHardRules_looks hjob hrerun)
              · cases hverify
                exact .inl hlooks
            split at h
            · next ended he =>
              cases h
              exact ⟨hard', hlooks', hended he⟩
            · split at h
              · cases h
                exact ⟨hard', hlooks', hconclude hard' _⟩
              · cases h
                exact ⟨hard', hlooks', rfl, rfl⟩
          · cases h
            exact ⟨hard, .inl hlooks, hconclude hard none⟩

end Conversation

/-! ## Conversations and structured events -/

/-- A conversation never uses the key of a projected object, and the memory that a decision
is about has the key of the decision and belongs to the user of the job. -/
theorem conversation_apart {job : FormationJob} {candidate : FormationCandidate}
    {turns : List FormationTurn} (hjob : conversation job) :
    (∀ (py : Python) (now : Instant) (reads : Reads) (hard : HardRuleEvaluation),
      evaluateHardRules py now reads job candidate turns = .ok hard →
        ¬ProjectedKey hard.memoryKey) ∧
    ∀ (policy : MemoryCandidatePolicy) (now now' : Instant) (store store' : MemoryStore)
      (reply : VerifierReply) (decision : CandidatePolicyResult),
      policy.evaluate now now' (storeReads store now) (storeReads store' now') reply job candidate
        turns = .ok decision →
      ¬ProjectedKey decision.operation.memoryKey ∧
      ∀ memoryId, decision.operation.memoryId = some memoryId →
        ∃ item, (item ∈ store.items.values ∨ item ∈ store'.items.values) ∧
          item.memoryId = memoryId ∧ ownedBy job.tenantId job.userId item = true ∧
          item.memoryKey = some decision.operation.memoryKey := by
  have hapart : ∀ {key : String}, colons key = 5 ∨ colons key = 3 → ¬ProjectedKey key := by
    intro key hcolons hprojected
    have hsix := colons_memoryKey hprojected
    omega
  refine ⟨fun py now reads hard h => hapart (evaluateHardRules_looks hjob h).colons, ?_⟩
  intro policy now now' store store' reply decision h
  obtain ⟨hard, hlooks, hkey, hid⟩ := evaluate_looks hjob h
  rw [hkey]
  refine ⟨hapart (hlooks.elim Looks.colons Looks.colons), fun memoryId hmemory => ?_⟩
  rw [hid] at hmemory
  obtain ⟨item, hcurrent, rfl⟩ := Option.map_eq_some_iff.1 hmemory
  rcases hlooks with hlooks | hlooks
  · obtain ⟨hmem, howned, -, hitem, -⟩ := getCurrentByKey_some (hlooks.current item hcurrent)
    exact ⟨item, .inl hmem, rfl, howned, hitem⟩
  · obtain ⟨hmem, howned, -, hitem, -⟩ := getCurrentByKey_some (hlooks.current item hcurrent)
    exact ⟨item, .inr hmem, rfl, howned, hitem⟩

theorem conversation_apart_forget :
    ¬ProjectedKey "tenant:acme:user:ada:fact:social_security_number" := by
  have hrun : (evaluateHardRules asciiPython 20 numberReads chatJob forgetCandidate
      [chatTurn "Forget my number 123-45-6789."]).map (·.memoryKey) =
        .ok "tenant:acme:user:ada:fact:social_security_number" := by
    decide +kernel
  obtain ⟨hard, hhard, hkey⟩ := map_eq_ok.1 hrun
  rw [← hkey]
  exact (conversation_apart (.inl rfl)).1 _ _ _ hard hhard

end OpenIntentRouter.Candidates
