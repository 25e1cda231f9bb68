import Mathlib.Data.List.Infix
import OpenIntentRouter.Core.Double
import OpenIntentRouter.Core.Dumps
import OpenIntentRouter.Schemas.MemoryFormation
import OpenIntentRouter.Services.MemoryLifecycle
import OpenIntentRouter.Services.SensitivePatterns

/-!
# The hard rules for memory candidates

`MemoryCandidateHardRules` rebuilds the key of a candidate, refuses what no
semantics can justify, and finds the memory that the candidate is about. What the
repository holds is given as `Reads`, the clock as `now`; a lookup with a value
that Python cannot hash raises `TypeError`.
-/
namespace OpenIntentRouter.Services

open Core Core.Text Schemas
open Repositories.MemoryIndex (stableId)

/-- What the services take from Python: the Unicode tables, the hexadecimal digest,
`str()` of a value, how `json.dumps` writes a number and how a `float` is divided. -/
structure Python extends Tables where
  sha256 : String → String
  str : Json → String
  number : Rat → String
  arithmetic : Arithmetic
  sha256_hex : ∀ s, ∀ c ∈ (sha256 s).toList, c.isDigit = true ∨ 'a' ≤ c ∧ c ≤ 'f'
  str_str : ∀ s, str (.str s) = s

structure Reads where
  currentByKey : (tenantId userId scope memoryKey : String) → Option MemoryItem
  activeByIds : (ids : List String) → (tenantId userId : String) → (scopes : List String) →
    List MemoryItem

def hashable : Json → Bool
  | .arr _ | .obj _ => false
  | .null | .bool _ | .num _ | .str _ => true

/-- `value in {...}` for a set of texts; a key that is missing is `None`. -/
def inTexts (value : Option Json) (texts : List String) : Except StoreError Bool :=
  match value with
  | some j =>
    if hashable j then .ok (texts.any fun s => j = .str s)
    else .error (.typeError "unhashable type")
  | none => .ok false

/-- `trigger in _TRUSTED_CANONICAL_TRIGGERS` -/
def trustedCanonical : MemoryFormationTrigger → Bool
  | .structuredEvent | .sweeper | .consolidation | .manual => true
  | .turnWindow | .idle => false

/-! ## Keys -/

/-- mirrors app/services/memory_candidate_hard_rules.py:635-639 and
app/services/structured_event_projector.py:590-594 -/
def keySegment (py : Python) (kind value : String) : String :=
  let encoded := quote ['-', '_', '.', '~'] value
  if encoded.length ≤ 128 then encoded else kind ++ "-sha256-" ++ py.sha256 value

def ownerPrefix (py : Python) (tenantId userId : String) : String :=
  "tenant:" ++ keySegment py "tenant" tenantId ++ ":user:" ++ keySegment py "user" userId ++ ":"

def canonicalContract (scope : String) (objectType : Option Json) : Option (String × String × String) :=
  match objectType with
  | some (.str "plan") => if scope = "task_memory" then some ("plan", "plan_id", "task_status") else none
  | some (.str "run") =>
    if scope = "task_memory" then some ("run", "run_id", "execution_status") else none
  | some (.str "result") =>
    if scope = "task_memory" then some ("result", "result_id", "result_status") else none
  | some (.str "artifact") =>
    if scope = "artifact_reference" then some ("artifact", "artifact_id", "reference") else none
  | _ => none

/-- mirrors app/services/memory_candidate_hard_rules.py:574-589 -/
def canonicalMemoryKey (py : Python) (ownerPrefix scope : String) (structured : JsonDict) :
    Except StoreError (Option String) :=
  let objectType := Json.field structured "object_type"
  if !(objectType.all hashable) then .error (.typeError "unhashable type")
  else
    match canonicalContract scope objectType with
    | none => .ok none
    | some (objectType, idField, slot) =>
      match Json.field structured idField with
      | some (.str objectId) =>
        if strip objectId = "" || 128 < objectId.length then .ok none
        else .ok (some (ownerPrefix ++ objectType ++ ":" ++ keySegment py objectType objectId ++ ":" ++ slot))
      | _ => .ok none

def scopeKind (scope : String) : String :=
  if scope = "user_preference" then "preference"
  else if scope = "stable_fact" then "fact"
  else if scope = "task_memory" then "task"
  else if scope = "artifact_reference" then "artifact"
  else if scope = "session_summary" then "session_summary"
  else "invalid"

/-- `structured.get("slot") or hint or structured.get("object_type") or "general"` -/
def rawSlot (py : Python) (hint : Option String) (structured : JsonDict) : String :=
  match (Json.field structured "slot").filter Json.truthy with
  | some slot => py.str slot
  | none =>
    match hint.filter (· ≠ "") with
    | some hint => hint
    | none =>
      match (Json.field structured "object_type").filter Json.truthy with
      | some objectType => py.str objectType
      | none => "general"

/-- `s.rsplit(sep, 1)[-1]` -/
def afterLast (sep : Char) (s : String) : String :=
  String.ofList ((s.toList.reverse.takeWhile (· ≠ sep)).reverse)

/-- `[a-z0-9_.~-]` -/
def slotChar (c : Char) : Bool :=
  Regex.range 'a' 'z' c || Regex.range '0' '9' c || Regex.chars "_.~-" c

def keySlot (py : Python) (raw : String) : String :=
  let slot := py.lower (strip (afterLast ':' raw))
  if slot.toList.all slotChar && 1 ≤ slot.length && slot.length ≤ 128 then slot
  else "sha256-" ++ py.sha256 raw

/-- mirrors app/services/memory_candidate_hard_rules.py:343-375 -/
def buildMemoryKey (py : Python) (tenantId userId scope : String) (hint : Option String)
    (structured : JsonDict) (allowCanonicalHint : Bool) : Except StoreError String := do
  let owner := ownerPrefix py tenantId userId
  let canonicalKey ← canonicalMemoryKey py owner scope structured
  match canonicalKey.filter fun _ => allowCanonicalHint with
  | some key => return key
  | none =>
    let slot := keySlot py (rawSlot py hint structured)
    let value := owner ++ scopeKind scope ++ ":" ++ slot
    if 512 < value.length then
      return "owner-sha256:" ++ py.sha256 (tenantId ++ "\x1f" ++ userId) ++ ":" ++ scopeKind scope ++
        ":" ++ slot
    else return value

/-! ## Texts -/

/-- `" ".join(value.split()).casefold()` -/
def normalizedContent (py : Python) (value : String) : String :=
  py.casefold (" ".intercalate (((value.toList.splitOnP isSpace).filter (· ≠ [])).map String.ofList))

/-- `semantic.model_dump(mode="json")` -/
def semanticJson (semantic : MemoryCandidateSemantics) : JsonDict :=
  [("target", .str semantic.target.value), ("slot", .str semantic.slot), ("value", semantic.value),
    ("temporal_scope", .str semantic.temporalScope.value),
    ("polarity", .str semantic.polarity.value), ("certainty", .str semantic.certainty.value),
    ("change_intent", .str semantic.changeIntent.value)]

/-- `ref.model_dump(mode="json")` -/
def evidenceJson (ref : MemoryEvidenceRef) : JsonDict :=
  [("turn_id", optionJson ref.turnId), ("event_id", optionJson ref.eventId),
    ("role", .str ref.role.value), ("quote", optionJson ref.quote),
    ("content_hash", optionJson ref.contentHash)]

/-- `candidate.model_dump(mode="json")` -/
def candidateJson (candidate : FormationCandidate) : JsonDict :=
  [("candidate_id", .str candidate.candidateId),
    ("proposed_operation", .str candidate.proposedOperation.value), ("scope", .str candidate.scope),
    ("content", .str candidate.content), ("structured_value", .obj candidate.structuredValue),
    ("semantic", (candidate.semantic.map fun semantic => Json.obj (semanticJson semantic)).getD .null),
    ("subject_type", .str candidate.subjectType),
    ("subject_id_hint", optionJson candidate.subjectIdHint),
    ("tenant_id_hint", optionJson candidate.tenantIdHint),
    ("memory_key_hint", optionJson candidate.memoryKeyHint),
    ("target_memory_id", optionJson candidate.targetMemoryId),
    ("confidence", .num candidate.confidence), ("importance", .num candidate.importance),
    ("sensitivity", .str candidate.sensitivity),
    ("evidence_refs", .arr (candidate.evidenceRefs.map fun ref => .obj (evidenceJson ref))),
    ("reason", .str candidate.reason)]

/-- `json.dumps(value, ensure_ascii=False)` -/
def dumps (py : Python) (j : Json) : String := Json.dumps { number := py.number } j

/-- `json.dumps(value, ensure_ascii=False, sort_keys=True, separators=(",", ":"))` -/
def compactDumps (py : Python) (j : Json) : String :=
  Json.dumps { item := ",", key := ":", number := py.number } (Json.sortKeys j)

/-- `json.dumps(value, sort_keys=True)`, by which evidence is ordered. -/
def evidenceText (py : Python) (ref : JsonDict) : String :=
  Json.dumps { ensureAscii := true, number := py.number } (Json.sortKeys (.obj ref))

def hashPayload (py : Python) (candidate : FormationCandidate) : Json :=
  .obj
    [("operation", .str candidate.proposedOperation.value), ("scope", .str candidate.scope),
      ("content", .str (normalizedContent py candidate.content)),
      ("structured_value", .obj candidate.structuredValue),
      ("semantic", (candidate.semantic.map fun s => Json.obj (semanticJson s)).getD .null),
      ("evidence_refs", .arr (((candidate.evidenceRefs.map evidenceJson).insertionSort
        fun a b => evidenceText py a ≤ evidenceText py b).map .obj))]

/-- mirrors app/services/memory_candidate_hard_rules.py:378-391 -/
def buildCandidateHash (py : Python) (candidate : FormationCandidate) : String :=
  "sha256:" ++ py.sha256 (compactDumps py (hashPayload py candidate))

/-- mirrors app/services/memory_candidate_hard_rules.py:608-621 -/
def semanticStructuredValue (value : JsonDict) : JsonDict :=
  value.filter fun p => !(["change_intent", "delete_intent", "lifecycle_reason", "privacy_subject",
    "temporal_scope", "consolidation_kind", "duplicate_of", "potential_duplicate_id",
    "compacted_into", "source_memory_ids"].contains p.1)

/-- mirrors app/services/memory_candidate_hard_rules.py:394-398 -/
def sameValue (py : Python) (current : MemoryItem) (candidate : FormationCandidate) : Bool :=
  normalizedContent py current.content = normalizedContent py candidate.content &&
  JsonDict.pyEq (semanticStructuredValue current.structuredValue)
    (semanticStructuredValue candidate.structuredValue)

def scannedText (py : Python) (candidate : FormationCandidate) : String :=
  "\n".intercalate
    ([candidate.content, candidate.candidateId, candidate.reason, candidate.memoryKeyHint.getD "",
      candidate.targetMemoryId.getD "", dumps py (.obj candidate.structuredValue),
      dumps py (.obj ((candidate.semantic.map semanticJson).getD []))] ++
      candidate.evidenceRefs.map fun ref => ref.quote.getD "")

/-- mirrors app/services/memory_candidate_hard_rules.py:531-552 -/
def containsSensitiveData (py : Python) (candidate : FormationCandidate) : Bool :=
  !(["normal", "low", "none"].contains (py.lower candidate.sensitivity)) ||
  Json.field candidate.structuredValue "privacy_subject" = some (.str "third_party") ||
  matchesSensitive py.toTables (scannedText py candidate)

/-- mirrors app/services/memory_candidate_hard_rules.py:652-653 -/
def redactedRef (py : Python) (value : String) : String := "redacted:sha256:" ++ py.sha256 value

/-- mirrors app/services/memory_candidate_hard_rules.py:656-659 -/
def safeSourceRef (py : Python) (value : String) : String :=
  if matchesSensitive py.toTables value then redactedRef py value
  else if value.length ≤ 128 then value
  else "sha256:" ++ py.sha256 value

/-- mirrors app/services/memory_candidate_hard_rules.py:624-632 -/
def boundedSourceRefs (py : Python) (refs : List String) : List String :=
  let values := refs.map (safeSourceRef py)
  if values.length ≤ 20 then values
  else
    let omitted := values.drop 20
    let text := Json.dumps { item := ",", key := ":", number := py.number } (.arr (omitted.map .str))
    values.take 20 ++ ["omitted:" ++ toString omitted.length ++ ":sha256:" ++ py.sha256 text]

/-! ## The rules -/

/-- mirrors app/services/memory_candidate_hard_rules.py:64-68 -/
structure HardRuleTerminal where
  operation : MemoryOperation
  status : MemoryDecisionStatus
  reason : MemoryFormationReasonCode
  deriving DecidableEq

/-- mirrors app/services/memory_candidate_hard_rules.py:71-79 -/
structure HardRuleEvaluation where
  candidate : FormationCandidate
  memoryKey : String
  candidateHash : String
  current : Option MemoryItem
  terminal : Option HardRuleTerminal
  deleteAuthorized : Bool
  redacted : Bool

/-- mirrors app/services/memory_candidate_hard_rules.py:401-419 (`_terminal`); `redacted` of a
sensitive candidate is what the scan says anyway -/
def terminalEvaluation (py : Python) (candidate : FormationCandidate) (memoryKey hash : String)
    (current : Option MemoryItem) (terminal : HardRuleTerminal) : HardRuleEvaluation where
  candidate := candidate
  memoryKey := memoryKey
  candidateHash := hash
  current := current
  terminal := some terminal
  deleteAuthorized := false
  redacted := containsSensitiveData py candidate

def rejected (reason : MemoryFormationReasonCode) : HardRuleTerminal := ⟨.reject, .rejected, reason⟩

def unchanged (reason : MemoryFormationReasonCode) : HardRuleTerminal := ⟨.noop, .noop, reason⟩

/-- mirrors app/services/memory_candidate_hard_rules.py:555-571 -/
def validateStructuredCandidate (py : Python) (job : FormationJob) (candidate : FormationCandidate)
    (rebuiltKey : String) : Except StoreError (Option MemoryFormationReasonCode) := do
  let contract ← canonicalMemoryKey py "" candidate.scope candidate.structuredValue
  if job.trigger ≠ .structuredEvent && contract.isNone then return none
  else if candidate.scope ≠ "task_memory" && candidate.scope ≠ "artifact_reference" then
    return some .invalidScope
  else if contract.isNone then return some .invalidEvidence
  else if candidate.memoryKeyHint ≠ some rebuiltKey then return some .identityMismatch
  else return none

/-- mirrors app/services/memory_candidate_hard_rules.py:422-429 -/
def identityMismatch (job : FormationJob) (candidate : FormationCandidate) : Except StoreError Bool :=
  if candidate.tenantIdHint.any fun hint => hint ≠ "" && hint ≠ job.tenantId then .ok true
  else if candidate.subjectIdHint.any fun hint => hint ≠ "" && hint ≠ job.userId then .ok true
  else if candidate.subjectType ≠ "user" then .ok true
  else do
    if !(← named "tenant_id" job.tenantId) then return true
    else return !(← named "user_id" job.userId)
where
  /-- `structured_value.get(key) in {None, owner}` -/
  named (key owner : String) : Except StoreError Bool :=
    match Json.field candidate.structuredValue key with
    | none | some .null => .ok true
    | value => inTexts value [owner]

/-- `_ALLOWED_SCOPES` -/
def allowedScopes : List String :=
  ["user_preference", "stable_fact", "task_memory", "artifact_reference", "session_summary"]

/-- `{turn.turn_id: turn for turn in turns}.get(turn_id)` -/
def turnById (turns : List FormationTurn) (turnId : Option String) : Option FormationTurn :=
  turns.reverse.find? fun turn => some turn.turnId = turnId

/-- `quote in text` -/
def within (quote text : String) : Bool := decide (quote.toList <:+: text.toList)

def evidenceHolds (job : FormationJob) (turns : List FormationTurn) (evidence : MemoryEvidenceRef) :
    Bool :=
  if evidence.role = .canonical then
    trustedCanonical job.trigger && evidence.eventId.any job.sourceRefs.contains
  else
    match turnById turns evidence.turnId with
    | none => false
    | some turn =>
      job.sourceRefs.contains turn.turnId &&
      if evidence.role = .user then
        evidence.quote.any fun quote => quote ≠ "" && within quote turn.userText
      else
        evidence.quote.all fun quote => quote = "" || within quote turn.assistantText

/-- mirrors app/services/memory_candidate_hard_rules.py:432-482 -/
def validateEvidence (job : FormationJob) (candidate : FormationCandidate)
    (turns : List FormationTurn) : Option MemoryFormationReasonCode :=
  let hasUser := candidate.evidenceRefs.any (·.role = .user)
  let hasCanonical := candidate.evidenceRefs.any (·.role = .canonical)
  if turns.any fun turn => turn.tenantId ≠ job.tenantId || turn.userId ≠ job.userId ||
      job.sessionId.any (turn.sessionId ≠ ·) then some .identityMismatch
  else if !candidate.evidenceRefs.all (evidenceHolds job turns) then some .invalidEvidence
  else if !hasUser && !hasCanonical && turns.any (·.usedMemoryIds ≠ []) then
    some .recalledMemoryRepetition
  else if !hasUser && !hasCanonical then some .assistantOnlyEvidence
  else if job.trigger = .consolidation &&
      ["user_preference", "stable_fact"].contains candidate.scope && !hasUser then
    let kind := Json.field candidate.structuredValue "consolidation_kind"
    if truthy candidate.targetMemoryId &&
        (kind = some (.str "exact_duplicate") && candidate.proposedOperation = .delete ||
          kind = some (.str "semantic_duplicate") && candidate.proposedOperation = .update) then none
    else some .invalidEvidence
  else none

/-- mirrors app/services/memory_candidate_hard_rules.py:485-511 -/
def isRecalledMemoryRepetition (py : Python) (reads : Reads) (job : FormationJob)
    (candidate : FormationCandidate) (turns : List FormationTurn) : Bool :=
  let usedIds := (turns.flatMap (·.usedMemoryIds)).eraseDups
  if usedIds = [] then false
  else if candidate.evidenceRefs.any (·.role = .user) then false
  else (reads.activeByIds usedIds job.tenantId job.userId []).any fun item =>
    normalizedContent py item.content = normalizedContent py candidate.content

/-- mirrors app/services/memory_candidate_hard_rules.py:514-528 -/
def authorizedUserDelete (candidate : FormationCandidate) (current : Option MemoryItem) : Bool :=
  (current.any fun item => candidate.targetMemoryId = some item.memoryId) &&
  (candidate.evidenceRefs.any fun ref => ref.role = .user && truthy ref.quote) &&
  candidate.semantic.any fun semantic =>
    semantic.changeIntent = .delete && semantic.temporalScope = .longTerm &&
    semantic.polarity = .affirmed && semantic.certainty = .certain

/-- mirrors app/services/memory_candidate_hard_rules.py:592-601 -/
def isConsolidationTarget (candidate : FormationCandidate) (job : FormationJob) :
    Except StoreError Bool :=
  if job.trigger = .consolidation && truthy candidate.targetMemoryId then
    inTexts (Json.field candidate.structuredValue "consolidation_kind")
      ["exact_duplicate", "semantic_duplicate", "session_summary"]
  else .ok false

def deletesDuplicate (job : FormationJob) (candidate : FormationCandidate) :
    Except StoreError Bool :=
  if job.trigger = .consolidation && candidate.evidenceRefs.any (·.role = .canonical) then
    inTexts (Json.field candidate.structuredValue "lifecycle_reason")
      ["exact_duplicate", "session_compacted"]
  else .ok false

/-- mirrors app/services/memory_candidate_hard_rules.py:237-273 -/
def canonicalDelete (now : Instant) (job : FormationJob) (candidate : FormationCandidate)
    (current : Option MemoryItem) : Except StoreError (Option HardRuleTerminal) :=
  match current with
  | none => .ok none
  | some current =>
    if candidate.proposedOperation ≠ .delete then .ok none
    else do
      if ← deletesDuplicate job candidate then return some ⟨.delete, .accepted, .duplicateCandidate⟩
      else if job.trigger = .sweeper &&
          Json.field candidate.structuredValue "lifecycle_reason" = some (.str "ttl_expired") then
        if current.ttlExpiresAt.all (now < ·) then return some (rejected .invalidEvidence)
        else return some ⟨.delete, .accepted, .ttlExpired⟩
      else return none

/-- The rules that look at the job, the candidate and the turns, and at what the turns
recalled, with the key of the candidate.
mirrors app/services/memory_candidate_hard_rules.py:106-150 -/
def refusal (py : Python) (reads : Reads) (job : FormationJob) (candidate : FormationCandidate)
    (turns : List FormationTurn) :
    Except StoreError (String × Option MemoryFormationReasonCode) := do
  let memoryKey ← buildMemoryKey py job.tenantId job.userId candidate.scope
    (match candidate.semantic with
      | some semantic => some semantic.slot
      | none => candidate.memoryKeyHint)
    candidate.structuredValue (trustedCanonical job.trigger)
  match ← validateStructuredCandidate py job candidate memoryKey with
  | some reason => return (memoryKey, some reason)
  | none =>
    if ← identityMismatch job candidate then return (memoryKey, some .identityMismatch)
    else if !allowedScopes.contains candidate.scope then return (memoryKey, some .invalidScope)
    else
      match validateEvidence job candidate turns with
      | some reason => return (memoryKey, some reason)
      | none =>
        if isRecalledMemoryRepetition py reads job candidate turns then
          return (memoryKey, some .recalledMemoryRepetition)
        else if candidate.proposedOperation ≠ .delete && containsSensitiveData py candidate then
          return (memoryKey, some .sensitiveContent)
        else return (memoryKey, none)

/-- The key of the memory that a consolidation is about; `none` if it names none.
mirrors app/services/memory_candidate_hard_rules.py:152-174 -/
def targetKey (reads : Reads) (job : FormationJob) (candidate : FormationCandidate)
    (memoryKey : String) : Except StoreError (Option String) := do
  if ← isConsolidationTarget candidate job then
    match reads.activeByIds [candidate.targetMemoryId.getD ""] job.tenantId job.userId
        [candidate.scope] with
    | [target] =>
      if truthy target.memoryKey && candidate.memoryKeyHint = target.memoryKey then
        return target.memoryKey
      else return none
    | _ => return none
  else return some memoryKey

/-- The rules about the memory with the key.
mirrors app/services/memory_candidate_hard_rules.py:176-235 -/
def aboutCurrent (py : Python) (now : Instant) (job : FormationJob) (candidate : FormationCandidate)
    (memoryKey hash : String) (current : Option MemoryItem) : Except StoreError HardRuleEvaluation :=
  let ends := terminalEvaluation py candidate memoryKey hash current
  if truthy candidate.targetMemoryId &&
      current.all (some ·.memoryId ≠ candidate.targetMemoryId) then
    .ok (ends (rejected .identityMismatch))
  else if candidate.proposedOperation ≠ .delete && current.any (fun item =>
      item.candidateHash = some hash || sameValue py item candidate) then
    .ok (ends (unchanged .sameValue))
  else if candidate.proposedOperation = .ignore then .ok (ends (unchanged .duplicateCandidate))
  else do
    match ← canonicalDelete now job candidate current with
    | some terminal => return ends terminal
    | none =>
      return {
        candidate := candidate
        memoryKey := memoryKey
        candidateHash := hash
        current := current
        terminal := none
        deleteAuthorized := authorizedUserDelete candidate current
        redacted := containsSensitiveData py candidate }

/-- mirrors app/services/memory_candidate_hard_rules.py:99-235
(`MemoryCandidateHardRules.evaluate`) -/
def evaluateHardRules (py : Python) (now : Instant) (reads : Reads) (job : FormationJob)
    (candidate : FormationCandidate) (turns : List FormationTurn) :
    Except StoreError HardRuleEvaluation := do
  let hash := buildCandidateHash py candidate
  match ← refusal py reads job candidate turns with
  | (memoryKey, some reason) =>
    return terminalEvaluation py candidate memoryKey hash none (rejected reason)
  | (memoryKey, none) =>
    match ← targetKey reads job candidate memoryKey with
    | none =>
      return terminalEvaluation py candidate memoryKey hash none (rejected .identityMismatch)
    | some memoryKey =>
      aboutCurrent py now job candidate memoryKey hash
        (reads.currentByKey job.tenantId job.userId candidate.scope memoryKey)

/-! ## The result -/

/-- mirrors app/services/memory_candidate_hard_rules.py:82-86 -/
structure CandidatePolicyResult where
  candidate : FormationCandidate
  operation : MemoryLifecycleOperation
  redactedTrace : JsonDict

def decisionMetadata (semanticOutcome : String) (verifierOutcome : Option String) : JsonDict :=
  [("semantic_contract_version", .str "v1"), ("semantic_validation", .str semanticOutcome)] ++
    (verifierOutcome.map fun outcome => ("semantic_verifier", Json.str outcome)).toList

theorem decisionMetadata_keys (semanticOutcome : String) (verifierOutcome : Option String) :
    (Json.obj (decisionMetadata semanticOutcome verifierOutcome)).distinctKeys = true := by
  rw [Json.distinctKeys_obj]
  cases verifierOutcome <;> simp [decisionMetadata]

/-- mirrors app/services/memory_candidate_hard_rules.py:275-340 -/
def result (py : Python) (job : FormationJob) (evaluation : HardRuleEvaluation)
    (operation : MemoryOperation) (status : MemoryDecisionStatus)
    (reason : MemoryFormationReasonCode) (semanticOutcome : String)
    (verifierOutcome : Option String) : CandidatePolicyResult :=
  let candidate := evaluation.candidate
  let redacted := evaluation.redacted || containsSensitiveData py candidate
  let identity := "\x1f".intercalate
    [job.jobId, evaluation.memoryKey, evaluation.candidateHash, operation.value, status.value,
      reason.value]
  { candidate := candidate
    operation :=
      { operationId := stableId py.sha256 "mfop" identity
        operation := operation
        decisionStatus := status
        reasonCode := reason
        tenantId := job.tenantId
        userId := job.userId
        subjectType := "user"
        subjectId := job.userId
        agentId := none
        source := none
        metadata := decisionMetadata semanticOutcome verifierOutcome
        memoryKey := evaluation.memoryKey
        candidateHash := evaluation.candidateHash
        memoryId := evaluation.current.map (·.memoryId)
        revisionId := evaluation.current.bind (·.currentRevisionId)
        formationJobId := some job.jobId
        canonicalRefs := boundedSourceRefs py job.sourceRefs
        metadata_keys := decisionMetadata_keys semanticOutcome verifierOutcome }
    redactedTrace :=
      [("candidate_id",
          .str (if redacted then redactedRef py candidate.candidateId else candidate.candidateId)),
        ("candidate_hash", .str evaluation.candidateHash), ("operation", .str operation.value),
        ("decision_status", .str status.value), ("reason_code", .str reason.value),
        ("scope", .str candidate.scope),
        ("memory_key",
          .str (if redacted then redactedRef py evaluation.memoryKey else evaluation.memoryKey)),
        ("memory_id", optionJson (evaluation.current.map (·.memoryId))),
        ("source_refs", .arr ((boundedSourceRefs py job.sourceRefs).map .str)),
        ("content_redacted", .bool redacted), ("semantic_contract_version", .str "v1"),
        ("semantic_validation", .str semanticOutcome)] ++
        (verifierOutcome.map fun outcome => ("semantic_verifier", Json.str outcome)).toList }

end OpenIntentRouter.Services
