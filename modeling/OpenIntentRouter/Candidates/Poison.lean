import OpenIntentRouter.Candidates.Keys
import OpenIntentRouter.Llm.ConversationFormation

/-!
# Candidates on which the policy raises

The hard rules look up values that the model chose in a `dict` and in `set`s, and
Python cannot hash a list or an object. `object_type` is looked up for every
candidate before anything has refused it, `tenant_id` and `user_id` once the
identity of the candidate is checked. The validation of the response lets such
values through, and nothing between the policy and the worker catches the
`TypeError`: the job fails with all its candidates.

* `evaluateHardRules_decides`: for a conversation the hard rules raise on a
  `Poisonous` candidate and on no other, whatever the repository holds;
* `conversation_decided_iff`: the policy decides all the candidates of a
  response if and only if none of them is poisonous;
* `unhashable_object_type_raises`: a response that is valid and not decided.
-/
namespace OpenIntentRouter.Candidates

open Core Core.Except Core.Text Schemas Services Llm

def unhashable (structured : JsonDict) (key : String) : Bool :=
  (Json.field structured key).any (!hashable ·)

def namesOwner (structured : JsonDict) (key owner : String) : Bool :=
  match Json.field structured key with
  | none | some .null => true
  | some value => value = .str owner

/-- The structured value names a canonical object of the scope.
mirrors app/services/memory_candidate_hard_rules.py:574-589 (`_canonical_memory_key`) -/
def namesCanonical (scope : String) (structured : JsonDict) : Bool :=
  (canonicalContract scope (Json.field structured "object_type")).any fun contract =>
    match Json.field structured contract.2.1 with
    | some (.str objectId) => strip objectId ≠ "" && objectId.length ≤ 128
    | _ => false

def untrustedKey (py : Python) (tenantId userId scope : String) (hint : Option String)
    (structured : JsonDict) : String :=
  let slot := keySlot py (rawSlot py hint structured)
  let value := ownerPrefix py tenantId userId ++ scopeKind scope ++ ":" ++ slot
  if 512 < value.length then
    "owner-sha256:" ++ py.sha256 (tenantId ++ "\x1f" ++ userId) ++ ":" ++ scopeKind scope ++ ":" ++ slot
  else value

def conversationKey (py : Python) (job : FormationJob) (candidate : FormationCandidate) : String :=
  untrustedKey py job.tenantId job.userId candidate.scope
    (match candidate.semantic with
      | some semantic => some semantic.slot
      | none => candidate.memoryKeyHint)
    candidate.structuredValue

def hintsOther (job : FormationJob) (candidate : FormationCandidate) : Bool :=
  (candidate.tenantIdHint.any fun hint => hint ≠ "" && hint ≠ job.tenantId) ||
  (candidate.subjectIdHint.any fun hint => hint ≠ "" && hint ≠ job.userId) ||
  candidate.subjectType ≠ "user"

/-- The lookups of the owner meet a list or an object; the second is made if the first finds
the tenant. -/
def unhashableOwner (job : FormationJob) (structured : JsonDict) : Bool :=
  unhashable structured "tenant_id" ||
  namesOwner structured "tenant_id" job.tenantId && unhashable structured "user_id"

def withoutKey (py : Python) (job : FormationJob) (candidate : FormationCandidate) : Bool :=
  namesCanonical candidate.scope candidate.structuredValue &&
  candidate.memoryKeyHint ≠ some (conversationKey py job candidate)

def Poisonous (py : Python) (job : FormationJob) (candidate : FormationCandidate) : Bool :=
  unhashable candidate.structuredValue "object_type" ||
  !withoutKey py job candidate && !hintsOther job candidate &&
    unhashableOwner job candidate.structuredValue

/-! ## The lookups -/

section Lookups

variable {py : Python} {job : FormationJob} {candidate : FormationCandidate}
  {structured : JsonDict} {scope : String}

theorem canonicalContract_scope {objectType : Option Json} {contract : String × String × String}
    (h : canonicalContract scope objectType = some contract) :
    scope = "task_memory" ∨ scope = "artifact_reference" := by
  unfold canonicalContract at h
  split at h <;> first | cases h | (split at h <;> simp_all)

theorem namesCanonical_scope (h : namesCanonical scope structured = true) :
    scope = "task_memory" ∨ scope = "artifact_reference" := by
  obtain ⟨contract, hcontract, -⟩ := (Option.any_eq_true _ _).1 h
  exact canonicalContract_scope hcontract

theorem canonicalMemoryKey_raises {owner : String} (h : unhashable structured "object_type" = true) :
    canonicalMemoryKey py owner scope structured = .error (.typeError "unhashable type") := by
  obtain ⟨value, hvalue, hhash⟩ := (Option.any_eq_true _ _).1 h
  simp only [Bool.not_eq_true'] at hhash
  simp [canonicalMemoryKey, hvalue, hhash]

theorem canonicalMemoryKey_decides {owner : String}
    (h : unhashable structured "object_type" = false) :
    ∃ key, canonicalMemoryKey py owner scope structured = .ok key ∧
      key.isSome = namesCanonical scope structured := by
  have hall : (Json.field structured "object_type").all hashable = true := by
    unfold unhashable at h
    cases hvalue : Json.field structured "object_type" with
    | none => rfl
    | some value => simpa [hvalue] using h
  unfold canonicalMemoryKey namesCanonical
  simp only [hall, Bool.not_true, Bool.false_eq_true, if_false]
  cases canonicalContract scope (Json.field structured "object_type") with
  | none => exact ⟨none, rfl, rfl⟩
  | some contract =>
    obtain ⟨objectType, idField, slot⟩ := contract
    simp only [Option.any_some]
    cases Json.field structured idField with
    | none => exact ⟨none, rfl, rfl⟩
    | some value =>
      cases value with
      | str objectId =>
        by_cases hbad : strip objectId = "" ∨ 128 < objectId.length
        · refine ⟨none, by simp [hbad], ?_⟩
          rcases hbad with hblank | hlong
          · simp [hblank]
          · simp [Nat.not_le.2 hlong]
        · rw [not_or] at hbad
          refine ⟨_, by simp [hbad.1, hbad.2]; rfl, ?_⟩
          simp [hbad.1, Nat.not_lt.1 hbad.2]
      | null | bool _ | num _ | arr _ | obj _ => exact ⟨none, rfl, rfl⟩

theorem buildMemoryKey_untrusted {tenantId userId : String} {hint : Option String}
    (h : unhashable structured "object_type" = false) :
    buildMemoryKey py tenantId userId scope hint structured false =
      .ok (untrustedKey py tenantId userId scope hint structured) := by
  obtain ⟨key, hkey, -⟩ := @canonicalMemoryKey_decides py structured scope
    (ownerPrefix py tenantId userId) h
  have hfilter : (key.filter fun _ => false) = none := by cases key <;> rfl
  unfold buildMemoryKey untrustedKey
  simp only [hkey, ok_bind, hfilter]
  split <;> rfl

theorem named_decides {key owner : String} :
    identityMismatch.named candidate key owner =
      if unhashable candidate.structuredValue key then .error (.typeError "unhashable type")
      else .ok (namesOwner candidate.structuredValue key owner) := by
  unfold identityMismatch.named unhashable namesOwner inTexts
  cases hvalue : Json.field candidate.structuredValue key with
  | none => rfl
  | some value => cases value <;> simp [hashable]

end Lookups

/-! ## The hard rules -/

section Rules

variable {py : Python} {now : Instant} {reads : Reads} {job : FormationJob}
  {candidate : FormationCandidate} {turns : List FormationTurn}

/-- A structured value that names a canonical object needs the key of the candidate. -/
theorem validateStructuredCandidate_conversation (hjob : conversation job) (key : String)
    (h : unhashable candidate.structuredValue "object_type" = false) :
    ∃ refused, validateStructuredCandidate py job candidate key = .ok refused ∧
      (refused.isSome = true ↔ namesCanonical candidate.scope candidate.structuredValue = true ∧
        candidate.memoryKeyHint ≠ some key) := by
  have htrigger : job.trigger ≠ .structuredEvent := by
    rcases hjob with h | h <;> rw [h] <;> decide
  obtain ⟨contract, hcontract, hnames⟩ := @canonicalMemoryKey_decides py candidate.structuredValue
    candidate.scope "" h
  unfold validateStructuredCandidate
  rw [hcontract, ok_bind, ← hnames]
  cases contract with
  | none => exact ⟨none, by simp [htrigger]; rfl, by simp⟩
  | some value =>
    have hscope := namesCanonical_scope hnames.symm
    by_cases hhint : candidate.memoryKeyHint = some key
    · exact ⟨none, by rcases hscope with h | h <;> simp [h, hhint] <;> rfl, by simp [hhint]⟩
    · refine ⟨some .identityMismatch, ?_, by simp [hhint]⟩
      rcases hscope with h | h <;> simp [h, hhint] <;> rfl

theorem identityMismatch_eq :
    identityMismatch job candidate =
      if hintsOther job candidate then .ok true
      else if unhashableOwner job candidate.structuredValue then .error (.typeError "unhashable type")
      else .ok (!(namesOwner candidate.structuredValue "tenant_id" job.tenantId &&
        namesOwner candidate.structuredValue "user_id" job.userId)) := by
  unfold identityMismatch hintsOther unhashableOwner
  by_cases htenant : (candidate.tenantIdHint.any fun hint => hint ≠ "" && hint ≠ job.tenantId) = true
  · rw [if_pos htenant, htenant]
    rfl
  by_cases hsubject : (candidate.subjectIdHint.any fun hint => hint ≠ "" && hint ≠ job.userId) = true
  · rw [if_neg htenant, if_pos hsubject, hsubject, Bool.or_true]
    rfl
  by_cases htype : candidate.subjectType = "user"
  · rw [if_neg htenant, if_neg hsubject, if_neg (not_not.2 htype), named_decides, named_decides,
      Bool.eq_false_of_not_eq_true htenant, Bool.eq_false_of_not_eq_true hsubject]
    cases unhashable candidate.structuredValue "tenant_id" with
    | true => simp [htype]
    | false =>
      cases namesOwner candidate.structuredValue "tenant_id" job.tenantId with
      | false => simp [htype]; rfl
      | true =>
        cases unhashable candidate.structuredValue "user_id" with
        | true => simp [htype]
        | false => simp [htype]
  · rw [if_neg htenant, if_neg hsubject, if_pos htype]
    simp [htype]

theorem refusal_rest (key : String) (mismatch : Bool) :
    ∃ refused, (if mismatch then pure (key, some .identityMismatch)
      else if !allowedScopes.contains candidate.scope then pure (key, some .invalidScope)
      else
        match validateEvidence job candidate turns with
        | some reason => pure (key, some reason)
        | none =>
          if isRecalledMemoryRepetition py reads job candidate turns then
            pure (key, some .recalledMemoryRepetition)
          else if candidate.proposedOperation ≠ .delete && containsSensitiveData py candidate then
            pure (key, some .sensitiveContent)
          else pure (key, none) :
        Except StoreError (String × Option MemoryFormationReasonCode)) = .ok refused := by
  cases mismatch with
  | true => exact ⟨_, rfl⟩
  | false =>
    simp only [Bool.false_eq_true, if_false]
    split
    · exact ⟨_, rfl⟩
    · split
      · exact ⟨_, rfl⟩
      · split_ifs <;> exact ⟨_, rfl⟩

/-- For a conversation the hard rules raise on a poisonous candidate and on no other. -/
theorem refusal_decides (hjob : conversation job) :
    (∃ refused, refusal py reads job candidate turns = .ok refused) ↔
      Poisonous py job candidate = false := by
  unfold refusal
  rw [hjob.untrusted]
  by_cases hobject : unhashable candidate.structuredValue "object_type" = true
  · simp only [Poisonous, hobject, Bool.true_or, Bool.true_eq_false, iff_false]
    rintro ⟨refused, h⟩
    obtain ⟨key, hkey, -⟩ := bind_eq_ok.1 h
    obtain ⟨canonical, hcanonical, -⟩ := bind_eq_ok.1 hkey
    rw [canonicalMemoryKey_raises hobject] at hcanonical
    cases hcanonical
  rw [Bool.not_eq_true] at hobject
  obtain ⟨refused, hrefused, hnames⟩ := @validateStructuredCandidate_conversation py job candidate hjob
    (conversationKey py job candidate) hobject
  rw [buildMemoryKey_untrusted hobject, ok_bind]
  change (∃ r, (validateStructuredCandidate py job candidate (conversationKey py job candidate) >>= _) =
    .ok r) ↔ _
  rw [hrefused, ok_bind]
  have hwithout : withoutKey py job candidate = refused.isSome := by
    rw [Bool.eq_iff_iff, hnames]
    simp [withoutKey]
  simp only [Poisonous, hobject, hwithout, Bool.false_or]
  cases refused with
  | some reason => exact iff_of_true ⟨_, rfl⟩ (by simp)
  | none =>
    simp only [identityMismatch_eq]
    cases hintsOther job candidate with
    | true => exact iff_of_true ⟨_, rfl⟩ (by simp)
    | false =>
      cases unhashableOwner job candidate.structuredValue with
      | true => simp
      | false => exact iff_of_true (refusal_rest _ _) (by simp)

/-- A conversation deletes no duplicate and nothing that has expired. -/
theorem canonicalDelete_conversation (hjob : conversation job) (current : Option MemoryItem) :
    canonicalDelete now job candidate current = .ok none := by
  have htrigger : job.trigger ≠ .consolidation ∧ job.trigger ≠ .sweeper := by
    rcases hjob with h | h <;> rw [h] <;> decide
  unfold canonicalDelete
  cases current with
  | none => rfl
  | some item =>
    simp [deletesDuplicate, htrigger.1, htrigger.2]
    intro
    rfl

theorem aboutCurrent_decides (hjob : conversation job) (key hash : String)
    (current : Option MemoryItem) :
    ∃ hard, aboutCurrent py now job candidate key hash current = .ok hard := by
  unfold aboutCurrent
  simp only [canonicalDelete_conversation hjob, ok_bind]
  split_ifs <;> exact ⟨_, rfl⟩

theorem evaluateHardRules_decides (hjob : conversation job) :
    (∃ hard, evaluateHardRules py now reads job candidate turns = .ok hard) ↔
      Poisonous py job candidate = false := by
  rw [← @refusal_decides py reads job candidate turns hjob]
  unfold evaluateHardRules
  constructor
  · rintro ⟨hard, h⟩
    obtain ⟨refused, hrefused, -⟩ := bind_eq_ok.1 h
    exact ⟨refused, hrefused⟩
  · rintro ⟨⟨key, reason⟩, hrefused⟩
    rw [hrefused, ok_bind]
    cases reason with
    | some reason => exact ⟨_, rfl⟩
    | none =>
      simp only [targetKey_conversation hjob, ok_bind]
      exact aboutCurrent_decides hjob _ _ _

end Rules

/-! ## The policy -/

section Policy

variable {policy : MemoryCandidatePolicy} {now now' : Instant} {reads reads' : Reads}
  {reply : VerifierReply} {job : FormationJob} {candidate : FormationCandidate}
  {turns : List FormationTurn}

/-- The verifier's confirmation runs the same rules on the same candidate once more. -/
theorem evaluate_decides (hjob : conversation job) :
    (∃ decision, policy.evaluate now now' reads reads' reply job candidate turns = .ok decision) ↔
      Poisonous policy.py job candidate = false := by
  unfold MemoryCandidatePolicy.evaluate
  simp only [adaptStructuredCandidate_conversation hjob]
  constructor
  · rintro ⟨decision, h⟩
    obtain ⟨hard, hhard, -⟩ := bind_eq_ok.1 h
    exact (evaluateHardRules_decides hjob).1 ⟨hard, hhard⟩
  · intro hpoison
    obtain ⟨hard, hhard⟩ := (evaluateHardRules_decides hjob).2 hpoison
    have hcandidate := (evaluateHardRules_open hhard).1
    obtain ⟨verified, hverified⟩ :
        ∃ verified, policy.verifyPending now' reads' reply job hard turns = .ok verified := by
      unfold MemoryCandidatePolicy.verifyPending
      split
      · rw [hcandidate]
        obtain ⟨rerun, hrerun⟩ := (evaluateHardRules_decides hjob).2 hpoison
        exact ⟨_, by rw [hrerun]; rfl⟩
      · exact ⟨_, rfl⟩
    obtain ⟨hard', semantic⟩ := verified
    rw [hhard, ok_bind]
    split
    · exact ⟨_, rfl⟩
    · split
      · exact ⟨_, rfl⟩
      · split
        · exact ⟨_, rfl⟩
        · split
          · exact ⟨_, rfl⟩
          · split
            · rw [hverified, ok_bind]
              dsimp only
              cases policy.ended job hard' (some reply.value) with
              | some ended => exact ⟨_, rfl⟩
              | none => split_ifs <;> exact ⟨_, rfl⟩
            · exact ⟨_, rfl⟩

/-- A response is decided, whatever the repository and the verifier answer for each of its
candidates, if and only if none of them is poisonous. -/
theorem conversation_decided_iff (hjob : conversation job) (candidates : List FormationCandidate)
    (clock clock' : Nat → Instant) (stored stored' : Nat → Reads) (replies : Nat → VerifierReply) :
    (∀ i candidate, candidates[i]? = some candidate →
      ∃ decision, policy.evaluate (clock i) (clock' i) (stored i) (stored' i) (replies i) job candidate
        turns = .ok decision) ↔
    ∀ candidate ∈ candidates, Poisonous policy.py job candidate = false := by
  constructor
  · intro h candidate hmem
    obtain ⟨i, hi⟩ := List.mem_iff_getElem?.1 hmem
    exact (evaluate_decides hjob).1 (h i candidate hi)
  · intro h i candidate hi
    exact (evaluate_decides hjob).2 (h candidate (List.mem_of_getElem? hi))

end Policy

/-! ## A list for a type -/

/-- The user asks for short answers, and the model gives the type as a list. -/
def listedCandidate (structured : JsonDict) (hkeys : (Json.obj structured).distinctKeys = true) :
    FormationCandidate where
  scope := "user_preference"
  content := "Answers are short."
  structuredValue := structured
  confidence := 9 / 10
  importance := 1 / 2
  evidenceRefs := [⟨some "turn-1", none, .user, some "short answers", none⟩]
  content_not_blank := by decide
  structuredValue_keys := hkeys
  confidence_unit := unit_nine_tenths
  importance_unit := unit_half
  candidateId := "mfc_1"
  proposedOperation := .add
  semantic := some ⟨.assistantResponse, "answer_length", .str "short", .longTerm, .affirmed, .certain,
    .set⟩
  subjectType := "user"
  subjectIdHint := none
  tenantIdHint := none
  memoryKeyHint := none
  targetMemoryId := none
  sensitivity := "normal"
  reason := ""

def typedCandidate : FormationCandidate :=
  listedCandidate [("object_type", .str "plan"), ("value", .str "short")] (by decide)

def untypedCandidate : FormationCandidate :=
  listedCandidate [("object_type", .arr [.str "plan"]), ("value", .str "short")] (by decide)

theorem conversation_decided_typed :
    ∃ decision, defaultPolicy.evaluate 20 20 numberReads numberReads .notConfigured chatJob
      typedCandidate [chatTurn "I like short answers."] = .ok decision := by
  have hdecided := (@conversation_decided_iff defaultPolicy chatJob [chatTurn "I like short answers."]
    (.inl rfl) [typedCandidate] (fun _ => 20) (fun _ => 20) (fun _ => numberReads)
    (fun _ => numberReads) (fun _ => .notConfigured)).2
  refine hdecided (fun candidate hmem => ?_) 0 typedCandidate rfl
  rw [List.mem_singleton.1 hmem]
  decide

/-- What the checks compute on the candidate; its text in the response is short. -/
theorem untyped_computed :
    candidateValid asciiPython untypedCandidate = true ∧
      (Json.write { item := ",", key := ":", number := asciiPython.number }
        (.obj [("candidates", .arr [.obj (candidateJson untypedCandidate)])])).length ≤ 60000 ∧
      Poisonous asciiPython chatJob untypedCandidate = true := by
  decide +kernel

theorem untyped_valid : responseValid asciiPython [untypedCandidate] = true := by
  have htext : (responseText asciiPython [untypedCandidate]).length ≤ 60000 := by
    unfold responseText Json.dumps
    rw [String.length_ofList]
    exact untyped_computed.2.1
  have hbytes := length_utf8_le (responseText asciiPython [untypedCandidate])
  unfold responseValid maxFormationResponseBytes
  rw [Bool.and_eq_true, Bool.and_eq_true, decide_eq_true_iff, decide_eq_true_iff]
  refine ⟨⟨by decide, ?_⟩, by omega⟩
  rw [List.all_cons, List.all_nil, Bool.and_true, untyped_computed.1, Bool.and_true]
  rfl

/-- The response is valid, and the policy raises on its only candidate. -/
theorem unhashable_object_type_raises :
    ¬∀ (policy : MemoryCandidatePolicy) (now now' : Instant) (reads reads' : Reads)
      (reply : VerifierReply) (job : FormationJob) (turns : List FormationTurn)
      (answered candidates : List FormationCandidate), conversation job →
      validateConversationCandidates policy.py answered = .ok candidates →
      ∀ candidate ∈ candidates, ∃ decision,
        policy.evaluate now now' reads reads' reply job candidate turns = .ok decision := by
  intro hclaim
  have hvalid : validateConversationCandidates asciiPython [untypedCandidate] =
      .ok [untypedCandidate] :=
    validateConversationCandidates_eq_ok.2 ⟨untyped_valid, rfl⟩
  have hdecided := hclaim defaultPolicy 20 20 numberReads numberReads .notConfigured chatJob
    [chatTurn "I like short answers."] _ _ (.inl rfl) hvalid untypedCandidate (by simp)
  have hpoison := untyped_computed.2.2
  exact absurd ((evaluate_decides (.inl rfl)).1 hdecided) (by simp [defaultPolicy, hpoison])

end OpenIntentRouter.Candidates
