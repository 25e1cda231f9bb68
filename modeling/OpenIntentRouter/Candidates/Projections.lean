import OpenIntentRouter.Candidates.Keys

/-!
# Decisions about projected candidates

A candidate that the projector made passes every rule but one: the search for
sensitive data, which reads the ids of the object too. `evaluate_canonical` says
what the policy decides about it, given the memory with its key; `canonical_of_valid`
that the candidates of a projection are of this kind.

* `projection_accepted`: it is accepted exactly if no sensitive pattern occurs in
  it, unless the memory already shows the same.
* `generated_id_rejected`: a mobile number occurs in a generated id.

Any answer of the verifier and any reads at the two evaluations. The hypotheses:

* `Thresholds`: both thresholds of the policy are at most 1;
* `Json.Numerals`: numbers are printed as numerals;
* `WrittenFor`, `DigestsApart`: what the memory holds was written for an earlier order, and
  its digest is another one if its texts are.
-/
namespace OpenIntentRouter.Candidates

open Core Core.Except Core.Text Schemas Services StructuredEventProjector

/-! ## The policy on canonical candidates -/

/-- A candidate of a structured job that names its object, its owner and its event. -/
structure Canonical (py : Python) (job : FormationJob) (candidate : FormationCandidate)
    (memoryKey : String) : Prop where
  trigger : job.trigger = .structuredEvent
  key : canonicalMemoryKey py (ownerPrefix py job.tenantId job.userId) candidate.scope
    candidate.structuredValue = .ok (some memoryKey)
  contract : ∃ key, canonicalMemoryKey py "" candidate.scope candidate.structuredValue = .ok (some key)
  scope : candidate.scope = "task_memory" ∨ candidate.scope = "artifact_reference"
  hint : candidate.memoryKeyHint = some memoryKey
  tenantHint : candidate.tenantIdHint = some job.tenantId
  subjectHint : candidate.subjectIdHint = some job.userId
  subject : candidate.subjectType = "user"
  tenant : Json.field candidate.structuredValue "tenant_id" = some (.str job.tenantId)
  user : Json.field candidate.structuredValue "user_id" = some (.str job.userId)
  evidence : ∃ eventId ∈ job.sourceRefs,
    candidate.evidenceRefs = [⟨none, some eventId, .canonical, none, none⟩]
  operation : candidate.proposedOperation = .add ∨ candidate.proposedOperation = .update
  target : candidate.targetMemoryId = none
  confidence : candidate.confidence = 1
  semantic : ∃ semantic, candidate.semantic = some semantic ∧ semantic.temporalScope = .canonical ∧
    ∀ current, semanticsConfirmed candidate semantic current = true
  scanned : containsSensitiveData py candidate =
    matchesSensitive py.toTables (scannedText py candidate)

def shows (py : Python) (candidate : FormationCandidate) (item : MemoryItem) : Bool :=
  item.candidateHash = some (buildCandidateHash py candidate) || sameValue py item candidate

def openEvaluation (py : Python) (candidate : FormationCandidate) (memoryKey : String)
    (current : Option MemoryItem) : HardRuleEvaluation where
  candidate := candidate
  memoryKey := memoryKey
  candidateHash := buildCandidateHash py candidate
  current := current
  terminal := none
  deleteAuthorized := authorizedUserDelete candidate current
  redacted := containsSensitiveData py candidate

/-- What the policy decides about a canonical candidate, given the memory with its key. -/
def canonicalDecision (py : Python) (job : FormationJob) (candidate : FormationCandidate)
    (memoryKey : String) (current : Option MemoryItem) : CandidatePolicyResult :=
  let ends := fun current (terminal : HardRuleTerminal) =>
    result py job
      (terminalEvaluation py candidate memoryKey (buildCandidateHash py candidate) current terminal)
      terminal.operation terminal.status terminal.reason "not_evaluated" none
  let hard := openEvaluation py candidate memoryKey current
  if containsSensitiveData py candidate then ends none (rejected .sensitiveContent)
  else if current.any (shows py candidate) then ends current (unchanged .sameValue)
  else if current.isNone then result py job hard .add .accepted .acceptedNew "confirmed" none
  else result py job hard .update .accepted .acceptedUpdate "confirmed" none

section Policy

variable {py : Python} {now now' : Instant} {reads reads' : Reads} {job : FormationJob}
  {candidate : FormationCandidate} {memoryKey : String}

theorem Canonical.trusted (h : Canonical py job candidate memoryKey) :
    trustedCanonical job.trigger = true := by
  rw [h.trigger]
  rfl

theorem buildMemoryKey_canonical (h : Canonical py job candidate memoryKey) (hint : Option String) :
    buildMemoryKey py job.tenantId job.userId candidate.scope hint candidate.structuredValue
      (trustedCanonical job.trigger) = .ok memoryKey := by
  unfold buildMemoryKey
  simp only [h.key, h.trusted, ok_bind]
  rfl

theorem validateStructuredCandidate_canonical (h : Canonical py job candidate memoryKey) :
    validateStructuredCandidate py job candidate memoryKey = .ok none := by
  obtain ⟨key, hkey⟩ := h.contract
  unfold validateStructuredCandidate
  rw [hkey]
  rcases h.scope with hs | hs <;> simp [h.trigger, h.hint, hs] <;> rfl

theorem identityMismatch_canonical (h : Canonical py job candidate memoryKey) :
    identityMismatch job candidate = .ok false := by
  simp [identityMismatch, identityMismatch.named, inTexts, hashable, h.tenantHint, h.subjectHint,
    h.subject, h.tenant, h.user]

theorem validateEvidence_canonical (h : Canonical py job candidate memoryKey) :
    validateEvidence job candidate [] = none := by
  obtain ⟨eventId, hsource, hrefs⟩ := h.evidence
  have hholds : evidenceHolds job [] ⟨none, some eventId, .canonical, none, none⟩ = true := by
    simp [evidenceHolds, h.trusted, hsource]
  simp [validateEvidence, hrefs, hholds, h.trigger]

/-- Nothing but the search for sensitive data can refuse it. -/
theorem refusal_canonical (h : Canonical py job candidate memoryKey) :
    refusal py reads job candidate [] =
      .ok (memoryKey,
        if containsSensitiveData py candidate then some .sensitiveContent else none) := by
  have hscope : allowedScopes.contains candidate.scope = true := by
    rcases h.scope with hs | hs <;> rw [hs] <;> decide
  have hdelete : candidate.proposedOperation ≠ .delete := by
    rcases h.operation with ho | ho <;> rw [ho] <;> decide
  have hrecalled : isRecalledMemoryRepetition py reads job candidate [] = false := rfl
  unfold refusal
  rw [buildMemoryKey_canonical h, ok_bind, validateStructuredCandidate_canonical h,
    ok_bind]
  dsimp only
  rw [identityMismatch_canonical h, ok_bind, validateEvidence_canonical h, hrecalled]
  simp only [hscope, hdelete, ne_eq, not_false_eq_true, decide_true, Bool.true_and,
    Bool.false_eq_true, if_false, Bool.not_true]
  split <;> rfl

theorem targetKey_canonical (h : Canonical py job candidate memoryKey) :
    targetKey reads job candidate memoryKey = .ok (some memoryKey) := by
  simp [targetKey, isConsolidationTarget, h.trigger]
  rfl

theorem aboutCurrent_canonical (h : Canonical py job candidate memoryKey)
    (current : Option MemoryItem) :
    aboutCurrent py now job candidate memoryKey (buildCandidateHash py candidate) current =
      .ok (if current.any (shows py candidate) then
          terminalEvaluation py candidate memoryKey (buildCandidateHash py candidate) current
            (unchanged .sameValue)
        else openEvaluation py candidate memoryKey current) := by
  have hdelete : candidate.proposedOperation ≠ .delete := by
    rcases h.operation with ho | ho <;> rw [ho] <;> decide
  have hignore : candidate.proposedOperation ≠ .ignore := by
    rcases h.operation with ho | ho <;> rw [ho] <;> decide
  have hcanonical : canonicalDelete now job candidate current = .ok none := by
    cases current <;> simp [canonicalDelete, hdelete]
  unfold aboutCurrent
  simp only [h.target, truthy, Bool.false_and, Bool.false_eq_true, if_false, hdelete,
    hignore, ne_eq, not_false_eq_true, decide_true, Bool.true_and, hcanonical, ok_bind]
  show (if current.any (shows py candidate) = true then _ else _) = _
  split
  · rfl
  · rfl

/-- An evaluation of the hard rules on a canonical candidate. -/
theorem evaluateHardRules_canonical (h : Canonical py job candidate memoryKey) :
    evaluateHardRules py now reads job candidate [] = .ok
      (let current := reads.currentByKey job.tenantId job.userId candidate.scope memoryKey
      if containsSensitiveData py candidate then
        terminalEvaluation py candidate memoryKey (buildCandidateHash py candidate) none
          (rejected .sensitiveContent)
      else if current.any (shows py candidate) then
        terminalEvaluation py candidate memoryKey (buildCandidateHash py candidate) current
          (unchanged .sameValue)
      else openEvaluation py candidate memoryKey current) := by
  unfold evaluateHardRules
  rw [refusal_canonical h, ok_bind]
  by_cases hsensitive : containsSensitiveData py candidate = true
  · simp only [hsensitive, if_true]
    rfl
  · simp only [hsensitive, if_false, Bool.false_eq_true]
    rw [targetKey_canonical h, ok_bind]
    exact aboutCurrent_canonical h _

variable {policy : MemoryCandidatePolicy} {reply : VerifierReply}

/-- mirrors app/core/config.py:117-118 (`le=1`) -/
structure Thresholds (policy : MemoryCandidatePolicy) : Prop where
  pending : policy.pendingThreshold ≤ 1
  auto : policy.autoThreshold ≤ 1

theorem validateSemantics_canonical (h : Canonical py job candidate memoryKey)
    (current : Option MemoryItem) : validateSemantics candidate current = .confirmed := by
  obtain ⟨semantic, hsemantic, htemporal, hconfirmed⟩ := h.semantic
  simp [validateSemantics, hsemantic, htemporal, hconfirmed]

theorem downgrades_canonical (h : Canonical py job candidate memoryKey) :
    policy.downgrades candidate = false := by
  obtain ⟨semantic, hsemantic, -⟩ := h.semantic
  have hscope : candidate.scope ≠ "user_preference" := by
    rcases h.scope with hs | hs <;> rw [hs] <;> decide
  simp [MemoryCandidatePolicy.downgrades, hsemantic, hscope]

theorem conclude_canonical (h : Canonical policy.py job candidate memoryKey)
    (ht : Thresholds policy) (hard : HardRuleEvaluation) :
    policy.conclude job candidate hard none =
      if hard.current.isNone then
        result policy.py job hard .add .accepted .acceptedNew "confirmed" none
      else result policy.py job hard .update .accepted .acceptedUpdate "confirmed" none := by
  have hconfidence : ¬candidate.confidence < policy.autoThreshold := by
    rw [h.confidence]
    exact Rat.not_lt.2 ht.auto
  have hdelete : candidate.proposedOperation ≠ .delete := by
    rcases h.operation with ho | ho <;> rw [ho] <;> decide
  simp only [MemoryCandidatePolicy.conclude, hconfidence, if_false, hdelete]

/-- The decision of the policy: it depends on the repository through the memory with the
key only. -/
theorem evaluate_canonical (h : Canonical policy.py job candidate memoryKey)
    (ht : Thresholds policy) :
    policy.evaluate now now' reads reads' reply job candidate [] =
      .ok (canonicalDecision policy.py job candidate memoryKey
        (reads.currentByKey job.tenantId job.userId candidate.scope memoryKey)) := by
  obtain ⟨semantic, hsemantic, -⟩ := h.semantic
  have hadapt : adaptStructuredCandidate policy.py job.trigger candidate = candidate := by
    simp [adaptStructuredCandidate, hsemantic]
  have hconfidence : ¬candidate.confidence < policy.pendingThreshold := by
    rw [h.confidence]
    exact Rat.not_lt.2 ht.pending
  unfold MemoryCandidatePolicy.evaluate canonicalDecision
  simp only [hadapt]
  rw [evaluateHardRules_canonical h, ok_bind]
  by_cases hsensitive : containsSensitiveData policy.py candidate = true
  · simp only [hsensitive, if_true]
    rfl
  · simp only [hsensitive, if_false, Bool.false_eq_true]
    by_cases hshows : (reads.currentByKey job.tenantId job.userId candidate.scope memoryKey).any
        (shows policy.py candidate) = true
    · simp only [hshows, if_true]
      rfl
    · simp only [hshows, if_false, Bool.false_eq_true]
      have hopen : ∀ current, policy.ended job
          (openEvaluation policy.py candidate memoryKey current) none = none := fun _ => rfl
      rw [hopen]
      simp only [validateSemantics_canonical h, hconfidence, downgrades_canonical h, if_false,
        Bool.false_eq_true, reduceCtorEq]
      rw [conclude_canonical h ht]
      rfl

end Policy

/-! ## Projections are canonical -/

variable {idField objectId : String} {projector : StructuredEventProjector}
  {candidate : FormationCandidate} {eventType : RunProjectionEvent}

section Projections

variable {projector : StructuredEventProjector} {arguments : CandidateArguments}
  {projection : StructuredProjection} {candidate : FormationCandidate}

theorem canonicalContract_cases {scope objectType type slot : String}
    (h : canonicalContract scope (some (.str objectType)) = some (type, idField, slot)) :
    scope = "task_memory" ∧ objectType ≠ "artifact" ∧
        (idField = "plan_id" ∨ idField = "run_id" ∨ idField = "result_id") ∨
      scope = "artifact_reference" ∧ objectType = "artifact" ∧ idField = "artifact_id" := by
  unfold canonicalContract at h
  split at h
  · next heq =>
    cases heq
    split_ifs at h with hscope
    cases h
    exact .inl ⟨hscope, by decide, .inl rfl⟩
  · next heq =>
    cases heq
    split_ifs at h with hscope
    cases h
    exact .inl ⟨hscope, by decide, .inr (.inl rfl)⟩
  · next heq =>
    cases heq
    split_ifs at h with hscope
    cases h
    exact .inl ⟨hscope, by decide, .inr (.inr rfl)⟩
  · next heq =>
    cases heq
    split_ifs at h with hscope
    cases h
    exact .inr ⟨hscope, rfl, rfl⟩
  · cases h

/-- What the source of a job adds hides no field of the candidate. -/
theorem field_sourced (job : StructuredJob) (order : Nat) {d : JsonDict} (key : String)
    (h : key ∉ ["_formation_source_type", "_formation_source_id", "_formation_source_version",
      "_formation_source_order"]) :
    Json.field (JsonDict.merge d (sourceFields job order)) key = Json.field d key :=
  JsonDict.field_merge_ne (by simpa [sourceFields] using h)

theorem canonicalMemoryKey_sourced (h : NamesObject projector arguments idField objectId)
    (job : StructuredJob) (order : Nat) (front : String) :
    canonicalMemoryKey projector.py front arguments.scope
      (JsonDict.merge arguments.structuredValue (sourceFields job order)) =
      .ok (some (front ++ arguments.sourceType ++ ":" ++
        keySegment projector.py arguments.sourceType objectId ++ ":" ++ arguments.slot)) := by
  have hid : idField ∉ ["_formation_source_type", "_formation_source_id",
      "_formation_source_version", "_formation_source_order"] := by
    rcases canonicalContract_cases h.contract with ⟨-, -, rfl | rfl | rfl⟩ | ⟨-, -, rfl⟩ <;> decide
  have hlength : ¬128 < objectId.length := Nat.not_lt.2 h.identifier.2
  unfold canonicalMemoryKey
  simp only [field_sourced job order "object_type" (by decide), h.type, h.contract, field_sourced job order idField hid,
    h.id, hashable, Option.all_some, Bool.not_true, Bool.false_eq_true, if_false, h.identifier.1,
    hlength, decide_false, Bool.or_self]

theorem valueAgrees_sourced (h : NamesObject projector arguments idField objectId)
    (hcandidate : projector.candidate arguments = .ok candidate) (job : StructuredJob) (order : Nat) :
    valueAgrees (sourced candidate job order) (projectedSemantics arguments) = true := by
  have hfield : ∀ key, ((Json.field arguments.structuredValue key).getD .null).distinctKeys = true :=
    MemoryLifecycleService.distinctKeys_field arguments.structuredValue_keys
  unfold StructuredEventProjector.candidate StructuredEventProjector.madeCandidate at hcandidate
  dsimp only at hcandidate
  split_ifs at hcandidate
  cases hcandidate
  rcases canonicalContract_cases h.contract with ⟨hscope, htype, -⟩ | ⟨hscope, htype, -⟩
  · simp only [valueAgrees, sourced, hscope, projectedSemantics, semanticProjectionValue, htype,
      if_false, field_sourced job order "status" (by decide)]
    exact Json.pyEq_refl (hfield "status")
  · simp only [valueAgrees, sourced, hscope, projectedSemantics, semanticProjectionValue, htype,
      if_true, artifactValue, field_sourced job order "artifact_id" (by decide),
      field_sourced job order "uri" (by decide)]
    refine Json.pyEq_refl (Json.distinctKeys_obj.2 ⟨by simp, ?_⟩)
    simp [hfield]

theorem semanticsConfirmed_sourced (h : NamesObject projector arguments idField objectId)
    (hvalid : ValidArguments projector arguments)
    (hcandidate : projector.candidate arguments = .ok candidate) (job : StructuredJob) (order : Nat)
    (current : Option MemoryItem) :
    semanticsConfirmed (sourced candidate job order) (projectedSemantics arguments) current = true := by
  have hvalue := valueAgrees_sourced h hcandidate job order
  unfold StructuredEventProjector.candidate StructuredEventProjector.madeCandidate at hcandidate
  dsimp only at hcandidate
  split_ifs at hcandidate
  cases hcandidate
  have hslot : Json.field (JsonDict.merge arguments.structuredValue (sourceFields job order))
      "slot" = none := by
    rw [field_sourced job order "slot" (by decide), hvalid.slot]
  have htarget : (allowedTargets arguments.scope).contains (projectedSemantics arguments).target =
      true ∧ (allowedTemporal arguments.scope).contains .canonical = true := by
    rcases canonicalContract_cases h.contract with ⟨hscope, htype, -⟩ | ⟨hscope, htype, -⟩ <;>
      simp [projectedSemantics, hscope, htype, allowedTargets, allowedTemporal]
  have hintent : (projectedSemantics arguments).changeIntent = expectedIntent arguments.operation ∧
      arguments.operation ≠ .delete := by
    rcases hvalid.operation with ho | ho <;> simp [projectedSemantics, ho, expectedIntent]
  have hunknown : (projectedSemantics arguments).target ≠ .unknown ∧
      (projectedSemantics arguments).changeIntent ≠ .unknown := by
    unfold projectedSemantics
    dsimp only
    constructor <;> split <;> decide
  have htemporal : (projectedSemantics arguments).temporalScope = .canonical := rfl
  have hpolarity : (projectedSemantics arguments).polarity = .affirmed := rfl
  have hcertainty : (projectedSemantics arguments).certainty = .certain := rfl
  have hother : otherSlot (JsonDict.merge arguments.structuredValue (sourceFields job order))
      (projectedSemantics arguments) = false := by
    simp [otherSlot, hslot]
  unfold semanticsConfirmed
  rw [hvalue]
  simp only [sourced, hother, htemporal, hpolarity, hcertainty, htarget.1, htarget.2, hintent.1]
  have hexpected := hintent.1 ▸ hunknown.2
  simp [hexpected, hunknown.1]

theorem mem_uniqueRefs {eventId : String} (h : eventId ≠ "") (refs : List String) :
    eventId ∈ uniqueRefs (eventId :: refs) := by
  simp [uniqueRefs, h, List.eraseDups_cons]

/-- The candidates of a job that was published for a projection are canonical. -/
theorem canonical_of_valid {publisher : StructuredFormationPublisher} (now : Instant)
    (sessionId : Option String) (order : Nat)
    (hvalid : ValidProjection publisher.projector projection)
    (hmem : candidate ∈ projection.candidates) :
    let job := publisher.publish now projection sessionId order
    ∃ memoryKey, Canonical publisher.projector.py job.toFormationJob (sourced candidate job order)
        memoryKey ∧ candidate.memoryKeyHint = some memoryKey := by
  intro job
  obtain ⟨arguments, hcandidate, harguments, htenant, huser, hevent⟩ :=
    hvalid.candidates candidate hmem
  obtain ⟨idField, objectId, hobject⟩ := harguments.object
  have hsemantic := semanticsConfirmed_sourced hobject harguments hcandidate job order
  have hkey := canonicalMemoryKey_sourced hobject job order
  have hscope := canonicalContract_cases hobject.contract
  have hsource : arguments.eventId ∈ job.sourceRefs := by
    rw [hevent]
    exact mem_uniqueRefs hvalid.event _
  unfold StructuredEventProjector.candidate StructuredEventProjector.madeCandidate at hcandidate
  dsimp only at hcandidate
  split_ifs at hcandidate
  cases hcandidate
  refine ⟨arguments.memoryKey, ?_, rfl⟩
  exact
    { trigger := rfl
      key := by
        rw [memoryKey_eq hobject.memoryKey, htenant, huser]
        exact hkey _
      contract := ⟨_, hkey ""⟩
      scope := hscope.imp And.left And.left
      hint := rfl
      tenantHint := congrArg some htenant
      subjectHint := congrArg some huser
      subject := rfl
      tenant := (field_sourced job order _ (by decide)).trans (harguments.tenant.trans (by rw [htenant]; rfl))
      user := (field_sourced job order _ (by decide)).trans (harguments.user.trans (by rw [huser]; rfl))
      evidence := ⟨arguments.eventId, hsource, rfl⟩
      operation := harguments.operation
      target := rfl
      confidence := rfl
      semantic := ⟨_, rfl, rfl, hsemantic⟩
      scanned := by
        have hlower : publisher.projector.py.lower "normal" = "normal" := by
          rw [publisher.projector.py.lower_ascii "normal" (by simp)]
          decide
        have hprivacy := (field_sourced job order "privacy_subject" (by decide)).trans
          harguments.privacy
        simp [containsSensitiveData, sourced, hlower, hprivacy] }

end Projections

/-! ## The order of a candidate -/

section Order

variable {py : Python} {candidate earlier : FormationCandidate} {item : MemoryItem}

structure WrittenFor (py : Python) (earlier : FormationCandidate) (item : MemoryItem) : Prop where
  value : item.structuredValue = earlier.structuredValue
  hash : item.candidateHash = some (buildCandidateHash py earlier)

def DigestsApart (py : Python) (c d : FormationCandidate) : Prop :=
  py.sha256 (compactDumps py (hashPayload py c)) = py.sha256 (compactDumps py (hashPayload py d)) →
    compactDumps py (hashPayload py c) = compactDumps py (hashPayload py d)

theorem structuredValue_of_hash {c d : FormationCandidate} (hn : Json.Numerals py.number)
    (hd : DigestsApart py c d) (h : buildCandidateHash py c = buildCandidateHash py d) :
    Json.sortKeys (.obj c.structuredValue) = Json.sortKeys (.obj d.structuredValue) := by
  have hdigest : py.sha256 (compactDumps py (hashPayload py c)) =
      py.sha256 (compactDumps py (hashPayload py d)) := by
    have htext := congrArg String.toList h
    simp only [buildCandidateHash, String.toList_append] at htext
    exact String.toList_inj.1 (List.append_cancel_left htext)
  have hreadable : Json.Style.Readable { item := ",", key := ":", number := py.number } := by
    refine ⟨rfl, ?_, ?_, hn⟩
    · show ",".toList.head? = some ','
      decide
    · show ":".toList.head? = some ':'
      decide
  have hpayload : Json.sortKeys (hashPayload py c) = Json.sortKeys (hashPayload py d) :=
    Json.dumps_inj hreadable (hd hdigest)
  have hvalue := Json.field_of_sortKeys (by simp) (by simp) hpayload "structured_value"
  simpa [Json.field] using hvalue

theorem field_semanticStructuredValue (d : JsonDict) :
    Json.field (semanticStructuredValue d) "_formation_source_order" =
      Json.field d "_formation_source_order" :=
  Json.field_filter (f := fun key => !(["change_intent", "delete_intent", "lifecycle_reason",
    "privacy_subject", "temporal_scope", "consolidation_kind", "duplicate_of",
    "potential_duplicate_id", "compacted_into", "source_memory_ids"].contains key)) (by decide) d

theorem appliedOrder_some {n : Int} (h : appliedOrder item = some n) :
    ∃ value, Json.field item.structuredValue "_formation_source_order" = some value ∧
      ∀ order : Nat, Json.pyEq value (.num order) = true → n = order := by
  unfold appliedOrder at h
  split at h
  · next q hq =>
    split_ifs at h with hden
    cases h
    refine ⟨_, hq, fun order heq => ?_⟩
    simp only [Json.pyEq, decide_eq_true_eq] at heq
    rw [heq]
    rfl
  · next b hb =>
    cases h
    refine ⟨_, hb, fun order heq => ?_⟩
    have hnum : Json.boolNum b = order := of_decide_eq_true heq
    cases b with
    | false =>
      have hzero : (0 : Rat) = order := hnum
      show (0 : Int) = order
      exact_mod_cast hzero
    | true =>
      have hone : (1 : Rat) = order := hnum
      show (1 : Int) = order
      exact_mod_cast hone
  · cases h

theorem order_of_shows (hn : Json.Numerals py.number) (hw : WrittenFor py earlier item)
    (hd : DigestsApart py earlier candidate) {order : Nat} {n : Int}
    (horder : Json.field candidate.structuredValue "_formation_source_order" = some (.num order))
    (hitem : appliedOrder item = some n) (h : shows py candidate item = true) : n = order := by
  obtain ⟨value, hvalue, heq⟩ := appliedOrder_some hitem
  rw [shows, Bool.or_eq_true, decide_eq_true_eq] at h
  rcases h with hhash | hsame
  · rw [hw.hash, Option.some.injEq] at hhash
    have hsorted := structuredValue_of_hash hn hd hhash
    have hfield := Json.field_of_sortKeys (Json.distinctKeys_obj.1 earlier.structuredValue_keys).1
      (Json.distinctKeys_obj.1 candidate.structuredValue_keys).1 hsorted "_formation_source_order"
    rw [← hw.value, hvalue, horder, Option.map_some, Option.map_some, Option.some.injEq] at hfield
    refine heq order ?_
    cases value <;> simp_all [Json.sortKeys, Json.pyEq]
  · rw [sameValue, Bool.and_eq_true] at hsame
    rw [← field_semanticStructuredValue] at hvalue horder
    obtain ⟨other, hother, hpy⟩ := JsonDict.field_of_pyEq hsame.2 hvalue
    rw [horder, Option.some.injEq] at hother
    subst hother
    exact heq order hpy

end Order

/-! ## Authoritative projections -/

inductive Projects (projector : StructuredEventProjector) (projection : StructuredProjection) : Prop where
  | plan (plan : Plan) (eventType : PlanProjectionEvent) (eventId version : String)
      (lastActivityAt : Instant) (modelSummary : Option Json) :
      projector.projectPlan plan eventType eventId version lastActivityAt modelSummary =
        .ok projection → Projects projector projection
  | run (run : AgentRun) (eventType : RunProjectionEvent) (eventId version : String)
      (modelSummary : Option Json) :
      projector.projectRun run eventType eventId version modelSummary = .ok projection →
        Projects projector projection
  | result (result : AgentResult) (run : AgentRun) (eventId version : String)
      (modelSummary : Option Json) :
      projector.projectResult result run eventId version modelSummary = .ok projection →
        Projects projector projection

theorem Projects.valid {projection : StructuredProjection} (h : Projects projector projection) :
    ValidProjection projector projection := by
  cases h with
  | plan plan eventType eventId version lastActivityAt modelSummary h => exact projectPlan_ok h
  | run run eventType eventId version modelSummary h => exact projectRun_ok h
  | result result run eventId version modelSummary h => exact projectResult_ok h

theorem withStructuredSource_ok {sent : FormationCandidate} {job : StructuredJob}
    (h : withStructuredSource candidate job = .ok sent) :
    sent = sourced candidate job job.command.sourceOrder ∧ 1 ≤ job.command.sourceOrder := by
  obtain ⟨order, horder, rfl⟩ := map_eq_ok.1 h
  unfold structuredSourceOrder at horder
  split_ifs at horder with hlt
  cases horder
  exact ⟨rfl, Nat.not_lt.1 hlt⟩

theorem field_sourceOrder (candidate : FormationCandidate) (job : StructuredJob) (order : Nat) :
    Json.field (sourced candidate job order).structuredValue "_formation_source_order" =
      some (.num order) :=
  JsonDict.field_set_self _ _ _

def Accepts (decision : CandidatePolicyResult) : Prop :=
  decision.operation.decisionStatus = .accepted ∧
    (decision.operation.operation = .add ∨ decision.operation.operation = .update)

theorem canonicalDecision_accepts {py : Python} {job : FormationJob} {memoryKey : String}
    {current : Option MemoryItem} :
    Accepts (canonicalDecision py job candidate memoryKey current) ↔
      containsSensitiveData py candidate = false ∧ current.any (shows py candidate) = false := by
  unfold canonicalDecision
  dsimp only
  by_cases hsensitive : containsSensitiveData py candidate = true
  · simp [hsensitive, Accepts, result, rejected]
  · by_cases hshows : current.any (shows py candidate) = true
    · simp [hsensitive, hshows, Accepts, result, unchanged]
    · cases current <;> simp_all [Accepts, result]

/-- A projected candidate is accepted exactly if no sensitive pattern occurs in it. -/
theorem projection_accepted {publisher : StructuredFormationPublisher}
    {policy : MemoryCandidatePolicy} {now now' sentAt : Instant} {reads reads' : Reads}
    {reply : VerifierReply} {projection : StructuredProjection} {sessionId : Option String}
    {order : Nat} {candidate sent : FormationCandidate}
    (hpy : publisher.projector.py = policy.py) (ht : Thresholds policy)
    (hn : Json.Numerals policy.py.number) (hprojects : Projects publisher.projector projection)
    (hmem : candidate ∈ projection.candidates)
    (hsent : withStructuredSource candidate (publisher.publish sentAt projection sessionId order) =
      .ok sent)
    (hstate : ∀ memoryKey item, candidate.memoryKeyHint = some memoryKey →
      reads.currentByKey projection.tenantId projection.userId candidate.scope memoryKey = some item →
      ∃ earlier, WrittenFor policy.py earlier item ∧ DigestsApart policy.py earlier sent ∧
        ∃ applied, appliedOrder item = some applied ∧ applied < order) :
    (∃ decision, policy.evaluate now now' reads reads' reply
        (publisher.publish sentAt projection sessionId order).toFormationJob sent [] = .ok decision ∧
      Accepts decision) ↔
    matchesSensitive policy.py.toTables (scannedText policy.py sent) = false := by
  have hsame : sent = sourced candidate (publisher.publish sentAt projection sessionId order) order :=
    (withStructuredSource_ok hsent).1
  subst hsame
  obtain ⟨memoryKey, hcanonical, hhint⟩ :=
    canonical_of_valid sentAt sessionId order hprojects.valid hmem
  rw [hpy] at hcanonical
  have hshows : (reads.currentByKey projection.tenantId projection.userId candidate.scope
      memoryKey).any (shows policy.py (sourced candidate
        (publisher.publish sentAt projection sessionId order) order)) = false := by
    rw [Option.any_eq_false]
    intro item hitem
    obtain ⟨earlier, hwritten, hapart, applied, happlied, hlt⟩ := hstate memoryKey item hhint hitem
    rw [Bool.eq_false_iff]
    intro hshows
    have heq := order_of_shows hn hwritten hapart (field_sourceOrder _ _ _) happlied hshows
    omega
  rw [evaluate_canonical hcanonical ht, ← hcanonical.scanned]
  constructor
  · rintro ⟨decision, hdecision, haccepts⟩
    cases hdecision
    exact (canonicalDecision_accepts.1 haccepts).1
  · intro hclean
    exact ⟨_, rfl, canonicalDecision_accepts.2 ⟨hclean, hshows⟩⟩

/-! ## A run with a number in its id -/

def numeralParts (q : Rat) : List String :=
  if 0 ≤ q.num ∧ q.den = 1 then [q.num.natAbs.repr]
  else [q.num.natAbs.repr, if 0 ≤ q.num then "+" else "-", q.den.repr]

def numeralText (q : Rat) : String := (String.singleton '.').intercalate (numeralParts q)

theorem repr_digits {n : Nat} {c : Char} (h : c ∈ n.repr.toList) : c.isDigit = true := by
  rw [Nat.toList_repr] at h
  exact Nat.isDigit_of_mem_toDigits (by decide) (by decide) h

theorem repr_injective {m n : Nat} (h : m.repr = n.repr) : m = n := by
  have hdigits := congrArg (fun s => Nat.ofDigitChars 10 s.toList 0) h
  simpa only [Nat.toList_repr, Nat.ofDigitChars_ten_toDigits] using hdigits

theorem numeralParts_chars {q : Rat} {s : String} (hs : s ∈ numeralParts q) {c : Char}
    (hc : c ∈ s.toList) : c.isDigit = true ∨ c = '+' ∨ c = '-' := by
  unfold numeralParts at hs
  split at hs
  · rw [List.mem_singleton] at hs
    subst hs
    exact .inl (repr_digits hc)
  · rcases List.mem_cons.1 hs with rfl | hs
    · exact .inl (repr_digits hc)
    · rcases List.mem_cons.1 hs with rfl | hs
      · right
        split at hc
        · exact .inl (List.mem_singleton.1 hc)
        · exact .inr (List.mem_singleton.1 hc)
      · rw [List.mem_singleton] at hs
        subst hs
        exact .inl (repr_digits hc)

theorem numeralParts_injective {p q : Rat} (h : numeralParts p = numeralParts q) : p = q := by
  unfold numeralParts at h
  by_cases hp : 0 ≤ p.num ∧ p.den = 1
  · by_cases hq : 0 ≤ q.num ∧ q.den = 1
    · rw [if_pos hp, if_pos hq, List.singleton_inj] at h
      have hnum := repr_injective h
      exact Rat.ext (by omega) (by omega)
    · rw [if_pos hp, if_neg hq] at h
      simp at h
  · by_cases hq : 0 ≤ q.num ∧ q.den = 1
    · rw [if_neg hp, if_pos hq] at h
      simp at h
    · rw [if_neg hp, if_neg hq] at h
      simp only [List.cons.injEq, and_true] at h
      obtain ⟨hnum, hsign, hden⟩ := h
      have habs := repr_injective hnum
      refine Rat.ext ?_ (repr_injective hden)
      split at hsign <;> split at hsign
      · omega
      · exact absurd hsign (by decide)
      · exact absurd hsign (by decide)
      · omega

theorem numeralText_numerals : Json.Numerals numeralText := by
  have hdot : ∀ q, ∀ s ∈ numeralParts q, '.' ∉ s.toList := by
    intro q s hs hc
    have hchar := numeralParts_chars hs hc
    revert hchar
    decide
  have hne : ∀ q, numeralParts q ≠ [] := by
    intro q
    unfold numeralParts
    split <;> exact List.cons_ne_nil _ _
  refine ⟨fun q => ⟨fun hempty => ?_, fun c hc => ?_⟩, fun p q h => ?_⟩
  · have htext : numeralText q = (String.singleton '.').intercalate [""] := String.toList_inj.1 hempty
    have hparts : numeralParts q = [""] :=
      intercalate_inj (hdot q) (by simp) (hne q) (by simp) htext
    unfold numeralParts at hparts
    split at hparts
    · have hrepr := congrArg String.toList (List.singleton_inj.1 hparts)
      rw [Nat.toList_repr] at hrepr
      exact Nat.toDigits_ne_nil hrepr
    · simp at hparts
  · rcases mem_intercalate hc with hc | ⟨s, hs, hc⟩
    · rw [List.mem_singleton.1 hc]
      decide
    · rcases numeralParts_chars hs hc with h | rfl | rfl
      · simp [Json.numeralChar, h]
      · decide
      · decide
  · exact numeralParts_injective (intercalate_inj (hdot p) (hdot q) (hne p) (hne q) h)

def plainPython : Python := { asciiPython with number := numeralText }

def plainProjector : StructuredEventProjector where
  py := plainPython
  isoformat _ := "2026-07-01T00:00:00+00:00"
  urlsplit _ := .error (.valueError "Invalid URL")
  urlunsplit _ _ path := path

def plainPublisher : StructuredFormationPublisher where
  projector := plainProjector
  mode := .enforced
  modelVersion := "formation-model-v1"
  promptVersion := "formation-prompt-v1"
  policyVersion := "formation-policy-v1"
  maxAttempts := 5
  runDump _ := []

def plainPolicy : MemoryCandidatePolicy := { defaultPolicy with py := plainPython }

/-- `uuid4().hex` after a prefix. -/
def Generated (front id : String) : Prop :=
  ∃ hex : String, id = front ++ hex ∧ hex.length = 32 ∧
    (∀ c ∈ hex.toList, c ∈ "0123456789abcdef".toList) ∧ hex.toList[12]? = some '4' ∧
    ∃ c ∈ "89ab".toList, hex.toList[16]? = some c

def digitRun : AgentRun where
  runId := "run_abcdefabcdef4abca13912345678abcd"
  requestId := none
  sessionId := "chat"
  agentId := "writer"
  userId := some "ada"
  tenantId := some "acme"
  turnId := none
  planId := none
  stepId := none
  status := .running
  invokerType := "http"
  delegated := false
  delegationKey := none
  stateVersion := 1
  eventSequence := 0
  deadlineAt := none
  heartbeatAt := none
  terminalEventId := none
  input := []
  output := none
  error := none
  formationSuppressed := false
  createdAt := none
  updatedAt := none

def noReads : Reads where
  currentByKey _ _ _ _ := none
  activeByIds _ _ _ _ := []

theorem plainPolicy_thresholds : Thresholds plainPolicy := by
  constructor <;> decide +kernel

theorem digitRun_generated : Generated "run_" digitRun.runId := by
  refine ⟨"abcdefabcdef4abca13912345678abcd", rfl, rfl, ?_, rfl, 'a', by decide, rfl⟩
  have hhex : ("abcdefabcdef4abca13912345678abcd".toList.all fun c =>
    "0123456789abcdef".toList.contains c) = true := by rfl
  simpa only [List.all_eq_true, List.contains_iff_mem] using hhex

/-- The checks of a candidate, with the size of its structured value as a list. -/
theorem candidate_made {arguments : CandidateArguments}
    (hevent : (arguments.eventId = "" || 128 < arguments.eventId.length) = false)
    (hcontent : strip arguments.content ≠ "")
    (hsize : ((Json.write { item := ",", key := ":", number := projector.py.number }
      (Json.sortKeys (.obj arguments.structuredValue))).flatMap String.utf8EncodeChar).length ≤ 8192) :
    projector.candidate arguments = .ok (projector.madeCandidate arguments hcontent) := by
  have hbytes : ¬8192 < (utf8 (compactDumps projector.py (.obj arguments.structuredValue))).length := by
    rw [utf8, compactDumps, Json.dumps, String.toList_ofList]
    omega
  unfold StructuredEventProjector.candidate
  simp only [hevent, Bool.false_eq_true, if_false, hbytes, dif_neg hcontent]

def runArguments (run : AgentRun) (eventType : RunProjectionEvent) (eventId version : String) :
    CandidateArguments where
  sourceType := "run"
  sourceId := run.runId
  sourceVersion := version
  slot := "execution_status"
  operation := projectedOperation (eventType = .create)
  scope := "task_memory"
  memoryKey := "tenant:acme:user:ada:run:" ++ run.runId ++ ":execution_status"
  tenantId := "acme"
  userId := "ada"
  content := statusContent "Run" run.runId run.status ""
  structuredValue := runValue run "acme" "ada" eventType ""
  eventId := eventId
  structuredValue_keys := distinctKeys_runValue run "acme" "ada" eventType ""

def runProjection (run : AgentRun) (eventType : RunProjectionEvent) (eventId version : String)
    (h : strip (runArguments run eventType eventId version).content ≠ "") : StructuredProjection where
  sourceType := "run"
  sourceId := run.runId
  sourceVersion := version
  eventId := eventId
  tenantId := "acme"
  userId := "ada"
  idempotencyKey := structuredEventIdempotencyKey plainPython "acme" "ada" "run" run.runId version
  canonicalRefs := plainProjector.boundedRefs (plainProjector.canonicalRefs
    [some run.runId, run.requestId, some run.sessionId, run.planId, run.stepId])
  candidates := [plainProjector.madeCandidate (runArguments run eventType eventId version) h]

theorem projectRun_plain {run : AgentRun} {eventId version : String}
    (hrun : requireOwner run.tenantId run.userId "Run" = .ok ("acme", "ada") ∧
      validateRunIdentifiers run = .ok () ∧ validateRunEvent run eventType = .ok () ∧
      plainProjector.memoryKey "acme" "ada" "run" run.runId "execution_status" =
        .ok (runArguments run eventType eventId version).memoryKey ∧
      requireIdentifier run.runId "source_id" = .ok ())
    (hevent : (eventId = "" || 128 < eventId.length) = false ∧
      requireIdentifier eventId "event_id" = .ok () ∧
      requireIdentifier version "source_version" = .ok ())
    (hcontent : strip (runArguments run eventType eventId version).content ≠ "")
    (hsize : ((Json.write { item := ",", key := ":", number := plainPython.number }
      (Json.sortKeys (.obj (runArguments run eventType eventId version).structuredValue))).flatMap
        String.utf8EncodeChar).length ≤ 8192) :
    plainProjector.projectRun run eventType eventId version none =
      .ok (runProjection run eventType eventId version hcontent) := by
  obtain ⟨howner, hidentifiers, hvalid, hkey, hid⟩ := hrun
  obtain ⟨hnonempty, heventId, hversion⟩ := hevent
  refine bind_eq_ok.2 ⟨_, howner, ?_⟩
  refine bind_eq_ok.2 ⟨_, hidentifiers, ?_⟩
  refine bind_eq_ok.2 ⟨(), hvalid, ?_⟩
  refine bind_eq_ok.2 ⟨_, hkey, ?_⟩
  refine bind_eq_ok.2 ⟨_, candidate_made hnonempty hcontent hsize, ?_⟩
  refine bind_eq_ok.2 ⟨_, heventId, ?_⟩
  refine bind_eq_ok.2 ⟨_, hid, ?_⟩
  exact bind_eq_ok.2 ⟨_, hversion, rfl⟩

def digitArguments : CandidateArguments := runArguments digitRun .create "mfevt_1" "v_1"

theorem digitRun_projects : ∃ projection candidate,
    plainProjector.projectRun digitRun .create "mfevt_1" "v_1" none = .ok projection ∧
    projection.candidates = [candidate] ∧
    candidate.content = "Run run_abcdefabcdef4abca13912345678abcd status=running" :=
  ⟨_, _, projectRun_plain (by decide) (by decide) (by decide) (by decide +kernel), rfl, by
    show digitArguments.content = _
    decide⟩

theorem scannedText_toList (py : Python) (candidate : FormationCandidate) :
    (scannedText py candidate).toList = ['\n'].intercalate
      ([candidate.content.toList, candidate.candidateId.toList, candidate.reason.toList,
        (candidate.memoryKeyHint.getD "").toList, (candidate.targetMemoryId.getD "").toList,
        Json.write { item := ", ", key := ": ", number := py.number }
          (.obj candidate.structuredValue),
        Json.write { item := ", ", key := ": ", number := py.number }
          (.obj ((candidate.semantic.map semanticJson).getD []))] ++
        candidate.evidenceRefs.map fun ref => (ref.quote.getD "").toList) := by
  simp [scannedText, dumps, Json.dumps, String.toList_intercalate, Function.comp_def]

theorem digitRun_sensitive
    (h : candidate.content = "Run run_abcdefabcdef4abca13912345678abcd status=running") :
    matchesSensitive plainPython.toTables (scannedText plainPython candidate) = true := by
  refine List.any_eq_true.2 ⟨phoneNumber plainPython.toTables, by simp [sensitivePatterns], ?_⟩
  have hcontent : candidate.content.toList =
      "Run run_abcdefabcdef4abca".toList ++ "13912345678abcd status=running".toList := by
    rw [h]
    simp
  exact search_content hcontent fun rest => ⟨_, List.mem_of_mem_head? rfl⟩

def digitJob (projection : StructuredProjection) : StructuredJob :=
  plainPublisher.publish 0 projection (some "chat") 1

/-! ### A run without one -/

def cleanRun : AgentRun :=
  { digitRun with runId := "run_abcdefabcdef4abcabcdefabcdefabcd", status := .completed }

def cleanSnapshot : RunProjectionEvent → AgentRun
  | .create => runningCopy cleanRun
  | _ => cleanRun

def cleanVersion (eventType : RunProjectionEvent) : String :=
  plainPublisher.runVersion (cleanSnapshot eventType) eventType

def cleanEventId (eventType : RunProjectionEvent) : String :=
  structuredEventId plainPython "run" cleanRun.runId (cleanVersion eventType)

theorem cleanSnapshot_content (eventType : RunProjectionEvent) :
    strip (runArguments (cleanSnapshot eventType) eventType (cleanEventId eventType)
      (cleanVersion eventType)).content ≠ "" := by
  cases eventType <;> decide +kernel

def cleanProjection (eventType : RunProjectionEvent) : StructuredProjection :=
  runProjection (cleanSnapshot eventType) eventType (cleanEventId eventType)
    (cleanVersion eventType) (cleanSnapshot_content eventType)

theorem cleanSnapshot_projects (h : eventType = .create ∨ eventType = .complete) :
    plainProjector.projectRun (cleanSnapshot eventType) eventType (cleanEventId eventType)
      (cleanVersion eventType) none = .ok (cleanProjection eventType) := by
  rcases h with rfl | rfl <;>
    exact projectRun_plain (by decide +kernel) (by decide +kernel) _ (by decide +kernel)

def cleanJob (eventType : RunProjectionEvent) : StructuredJob :=
  plainPublisher.publish 0 (cleanProjection eventType) (some "chat")
    (StructuredFormationPublisher.runEventOrder eventType)

def rawCandidate (eventType : RunProjectionEvent) : FormationCandidate :=
  plainProjector.madeCandidate (runArguments (cleanSnapshot eventType) eventType
    (cleanEventId eventType) (cleanVersion eventType)) (cleanSnapshot_content eventType)

def cleanCandidate (eventType : RunProjectionEvent) : FormationCandidate :=
  sourced (rawCandidate eventType) (cleanJob eventType)
    (StructuredFormationPublisher.runEventOrder eventType)

theorem cleanCandidate_clean (h : eventType = .create ∨ eventType = .complete) :
    matchesSensitive plainPython.toTables (scannedText plainPython (cleanCandidate eventType)) =
      false := by
  unfold matchesSensitive Regex.search
  rw [scannedText_toList]
  rcases h with rfl | rfl <;> decide +kernel

theorem cleanCandidate_apart :
    DigestsApart plainPython (cleanCandidate .create) (cleanCandidate .complete) :=
  fun h => absurd h (by
    show hexText (compactDumps _ _) ≠ hexText (compactDumps _ _)
    simp only [hexText, compactDumps, Json.dumps, String.toList_ofList]
    decide +kernel)

def plainLifecycle : MemoryLifecycleService where
  policyVersion := "memory-policy-v1"
  maxAttempts := 5
  taskTtlDays := 90
  sessionSummaryTtlDays := 30
  artifactReferenceTtlDays := 180
  sha256 := plainPython.sha256
  redaction := ⟨plainPython.lower, fun text _ => text, id⟩

/-- The memory that the run's first event leaves. -/
def createdItem : MemoryItem :=
  let decision := result plainPython (cleanJob .create).toFormationJob
    (openEvaluation plainPython (cleanCandidate .create) (runArguments cleanRun .create "" "").memoryKey
      none) .add .accepted .acceptedNew "confirmed" none
  plainLifecycle.newItem decision.operation decision.candidate.toMemoryFormationCandidate "mem_1" 0

def createdReads : Reads where
  currentByKey _ _ _ _ := some createdItem
  activeByIds _ _ _ _ := []

/-- The end of the clean run is accepted over its first event; the run with the number is
refused. -/
theorem projection_accepted_digits :
    (∃ decision, plainPolicy.evaluate 0 0 createdReads noReads .notConfigured
        (cleanJob .complete).toFormationJob (cleanCandidate .complete) [] = .ok decision ∧
      Accepts decision) ∧
    ∃ projection candidate, candidate ∈ projection.candidates ∧
      ¬∃ decision, plainPolicy.evaluate 0 0 noReads noReads .notConfigured
          (digitJob projection).toFormationJob (sourced candidate (digitJob projection) 1) [] =
        .ok decision ∧ Accepts decision := by
  constructor
  · refine (@projection_accepted plainPublisher plainPolicy 0 0 0 createdReads noReads
      .notConfigured (cleanProjection .complete) (some "chat") 3 (rawCandidate .complete)
      (cleanCandidate .complete) rfl plainPolicy_thresholds numeralText_numerals
      (.run _ _ _ _ none (cleanSnapshot_projects (.inr rfl))) List.mem_cons_self rfl ?_).2
      (cleanCandidate_clean (.inr rfl))
    rintro memoryKey item - ⟨⟩
    exact ⟨cleanCandidate .create, ⟨rfl, rfl⟩, cleanCandidate_apart, 1, by decide +kernel, by decide⟩
  · obtain ⟨projection, candidate, hprojection, hcandidates, hcontent⟩ := digitRun_projects
    have hmem : candidate ∈ projection.candidates := by
      rw [hcandidates]
      exact List.mem_cons_self
    refine ⟨projection, candidate, hmem, ?_⟩
    have hiff := @projection_accepted plainPublisher plainPolicy 0 0 0 noReads noReads
      .notConfigured projection (some "chat") 1 candidate
      (sourced candidate (digitJob projection) 1) rfl plainPolicy_thresholds numeralText_numerals
      (.run digitRun .create "mfevt_1" "v_1" none hprojection) hmem rfl (fun _ _ _ h => by cases h)
    intro haccepted
    have hclean := hiff.1 haccepted
    exact absurd (hclean.symm.trans (digitRun_sensitive hcontent)) (by decide)

/-- The run with a generated id is not accepted, though no text of it is sensitive. -/
theorem generated_id_rejected :
    ¬∀ (publisher : StructuredFormationPublisher) (policy : MemoryCandidatePolicy)
      (now now' sentAt : Instant) (reads reads' : Reads) (reply : VerifierReply) (run : AgentRun)
      (eventType : RunProjectionEvent) (eventId version : String)
      (projection : StructuredProjection) (order : Nat) (candidate sent : FormationCandidate),
      publisher.projector.py = policy.py → Thresholds policy → Generated "run_" run.runId →
      (∀ text ∈ [run.sessionId, run.agentId], matchesSensitive policy.py.toTables text = false) →
      publisher.projector.projectRun run eventType eventId version none = .ok projection →
      candidate ∈ projection.candidates →
      withStructuredSource candidate
        (publisher.publish sentAt projection (some run.sessionId) order) = .ok sent →
      (∀ tenantId userId scope memoryKey,
        reads.currentByKey tenantId userId scope memoryKey = none) →
      ∃ decision, policy.evaluate now now' reads reads' reply
          (publisher.publish sentAt projection (some run.sessionId) order).toFormationJob sent [] =
        .ok decision ∧ Accepts decision := by
  intro hclaim
  obtain ⟨projection, candidate, hprojection, hcandidates, hcontent⟩ := digitRun_projects
  have hmem : candidate ∈ projection.candidates := by
    rw [hcandidates]
    exact List.mem_cons_self
  have htexts : ∀ text ∈ [digitRun.sessionId, digitRun.agentId],
      matchesSensitive plainPolicy.py.toTables text = false := by
    decide
  obtain ⟨decision, hdecision, haccepts⟩ := hclaim plainPublisher plainPolicy 0 0 0 noReads noReads
    .notConfigured digitRun .create "mfevt_1" "v_1" projection 1 candidate
    (sourced candidate (digitJob projection) 1) rfl plainPolicy_thresholds digitRun_generated htexts
    hprojection hmem rfl (fun _ _ _ _ => rfl)
  have hvalid : ValidProjection plainPublisher.projector projection := projectRun_ok hprojection
  obtain ⟨memoryKey, hcanonical, -⟩ :=
    canonical_of_valid 0 (some digitRun.sessionId) 1 hvalid hmem
  have hevaluate := @evaluate_canonical 0 0 noReads noReads _ _ memoryKey plainPolicy .notConfigured
    hcanonical plainPolicy_thresholds
  cases hevaluate.symm.trans hdecision
  have hclean := hcanonical.scanned.symm.trans (canonicalDecision_accepts.1 haccepts).1
  exact absurd (hclean.symm.trans (digitRun_sensitive hcontent)) (by decide)

end OpenIntentRouter.Candidates
