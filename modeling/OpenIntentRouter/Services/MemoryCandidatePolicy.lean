import OpenIntentRouter.Services.MemoryCandidateHardRules

/-!
# The policy for memory candidates

`MemoryCandidatePolicy` decides what a candidate does to the memories: the hard
rules, the semantics that the candidate declares, a filter for known incidents,
for doubtful semantics a verifier and the hard rules once more, the thresholds.
What the repository holds and the clock may differ between the two evaluations
of the hard rules. The two texts that the filter compares are parameters: it can
only downgrade.
-/
namespace OpenIntentRouter.Services

open Core Core.Text Schemas

/-! ## Semantics -/

/-- mirrors app/services/memory_candidate_semantics.py:17-20 -/
inductive SemanticValidationStatus where
  | confirmed | pending | currentTurn
  deriving DecidableEq

def SemanticValidationStatus.value : SemanticValidationStatus → String
  | .confirmed => "confirmed"
  | .pending => "pending"
  | .currentTurn => "current_turn"

/-- mirrors app/services/memory_candidate_semantics.py:53-63 -/
def allowedTargets (scope : String) : List MemorySemanticTarget :=
  if scope = "user_preference" then [.assistantResponse, .userProfile]
  else if scope = "stable_fact" then [.userProfile]
  else if scope = "task_memory" then [.task]
  else if scope = "artifact_reference" then [.artifact]
  else if scope = "session_summary" then [.session]
  else []

/-- mirrors app/services/memory_candidate_semantics.py:70-79 -/
def allowedTemporal (scope : String) : List MemoryTemporalScope :=
  if scope = "user_preference" then [.longTerm]
  else if scope = "stable_fact" then [.longTerm]
  else if scope = "task_memory" then [.canonical]
  else if scope = "artifact_reference" then [.canonical]
  else if scope = "session_summary" then [.session, .canonical]
  else []

def expectedIntent : MemoryCandidateOperation → MemoryChangeIntent
  | .add => .set
  | .update => .replace
  | .delete => .delete
  | .ignore => .none

def artifactValue (structured : JsonDict) : Json :=
  .obj [("artifact_id", (Json.field structured "artifact_id").getD .null),
    ("uri", (Json.field structured "uri").getD .null)]

/-- The value that the semantics declare is the one of the structured value.
mirrors app/services/memory_candidate_semantics.py:94-115 -/
def valueAgrees (candidate : FormationCandidate) (semantic : MemoryCandidateSemantics) : Bool :=
  let structured := candidate.structuredValue
  if candidate.scope = "user_preference" || candidate.scope = "stable_fact" then
    (Json.field structured "value").all fun value => Json.pyEq value semantic.value
  else if candidate.scope = "task_memory" then
    Json.pyEq ((Json.field structured "status").getD .null) semantic.value
  else if candidate.scope = "artifact_reference" then
    Json.pyEq semantic.value (artifactValue structured)
  else if candidate.scope = "session_summary" then
    Json.pyEq semantic.value ((Json.field structured "value").getD (.str candidate.content))
  else true

/-- `isinstance(slot, str) and slot != semantic.slot` -/
def otherSlot (structured : JsonDict) (semantic : MemoryCandidateSemantics) : Bool :=
  match Json.field structured "slot" with
  | some (.str slot) => slot ≠ semantic.slot
  | _ => false

/-- The semantics leave nothing open.
mirrors app/services/memory_candidate_semantics.py:44-130 -/
def semanticsConfirmed (candidate : FormationCandidate) (semantic : MemoryCandidateSemantics)
    (current : Option MemoryItem) : Bool :=
  semantic.target ≠ .unknown && semantic.temporalScope ≠ .unknown && semantic.polarity ≠ .unknown &&
  semantic.certainty ≠ .uncertain && semantic.changeIntent ≠ .unknown &&
  ((allowedTargets candidate.scope).contains semantic.target ||
    (candidate.proposedOperation = .delete && semantic.target = .memory)) &&
  (allowedTemporal candidate.scope).contains semantic.temporalScope &&
  semantic.polarity = .affirmed &&
  semantic.changeIntent = expectedIntent candidate.proposedOperation &&
  !otherSlot candidate.structuredValue semantic && valueAgrees candidate semantic &&
  !(candidate.proposedOperation = .update && current.isNone && semantic.temporalScope ≠ .canonical) &&
  !(candidate.proposedOperation = .add && current.isSome && semantic.temporalScope ≠ .canonical)

/-- Every result that is pending has the reason `AMBIGUOUS_CONFLICT`.
mirrors app/services/memory_candidate_semantics.py:29-131 (`validate`) -/
def validateSemantics (candidate : FormationCandidate) (current : Option MemoryItem) :
    SemanticValidationStatus :=
  match candidate.semantic with
  | none => .pending
  | some semantic =>
    if semantic.temporalScope = .currentTurn then .currentTurn
    else if semanticsConfirmed candidate semantic current then .confirmed
    else .pending

/-! ## Candidates of legacy sources -/

/-- `[a-z][a-z0-9_.~-]{0,127}` -/
def legacySlot (s : String) : Bool :=
  match s.toList with
  | [] => false
  | c :: cs => Regex.range 'a' 'z' c && cs.all slotChar && cs.length ≤ 127

/-- `sep in text` -/
def containsText (sep s : String) : Bool := decide (sep.toList <:+: s.toList)

/-- mirrors app/services/memory_candidate_compatibility.py:25-88 -/
def adaptStructuredCandidate (py : Python) (trigger : MemoryFormationTrigger)
    (candidate : FormationCandidate) : FormationCandidate :=
  if candidate.semantic.isSome || !trustedCanonical trigger then candidate
  else
    let structured := candidate.structuredValue
    let hint := (if containsText ":explicit:" (candidate.memoryKeyHint.getD "") then
      some "explicit_memory" else candidate.memoryKeyHint).filter (· ≠ "")
    let slotText :=
      match (Json.field structured "slot").filter Json.truthy with
      | some slot => py.str slot
      | none =>
        match (Json.field structured "object_type").filter Json.truthy with
        | some objectType => py.str objectType
        | none => hint.getD "general"
    let rawSlot := afterLast ':' slotText
    let target : MemorySemanticTarget :=
      if candidate.scope = "user_preference" || candidate.scope = "stable_fact" then .userProfile
      else if candidate.scope = "task_memory" then .task
      else if candidate.scope = "artifact_reference" then .artifact
      else if candidate.scope = "session_summary" then .session
      else .unknown
    let temporalScope : MemoryTemporalScope :=
      if candidate.scope = "task_memory" || candidate.scope = "artifact_reference" then .canonical
      else if candidate.scope = "session_summary" then .session
      else .longTerm
    let value :=
      if candidate.scope = "task_memory" then (Json.field structured "status").getD .null
      else if candidate.scope = "artifact_reference" then artifactValue structured
      else (Json.field structured "value").getD (.str candidate.content)
    { candidate with
      semantic := some
        { target := target
          slot :=
            if legacySlot rawSlot then rawSlot
            else "field_" ++ String.ofList ((py.sha256 rawSlot).toList.take 32)
          value := value
          temporalScope := temporalScope
          polarity := .affirmed
          certainty := .certain
          changeIntent := expectedIntent candidate.proposedOperation } }

/-! ## The policy -/

/-- The thresholds of the settings, and the texts that the language filter compares:
`_normalized_language` and `_instruction_target_language`. -/
structure MemoryCandidatePolicy where
  py : Python
  pendingThreshold : Rat
  autoThreshold : Rat
  normalizedLanguage : Json → Option String
  instructionTargetLanguage : String → Option String

inductive VerifierReply where
  | notConfigured
  | error
  | answered (verdict : MemorySemanticVerifierVerdict)
  deriving DecidableEq

def VerifierReply.value : VerifierReply → String
  | .notConfigured => "not_configured"
  | .error => "error"
  | .answered verdict => verdict.value

/-- mirrors app/services/memory_candidate_policy.py:246-254 -/
def confirmedCopy (candidate : FormationCandidate) : FormationCandidate :=
  { candidate with
    semantic := candidate.semantic.map fun semantic => { semantic with certainty := .certain } }

namespace MemoryCandidatePolicy

variable (policy : MemoryCandidatePolicy)

/-- A candidate that says in which language to answer is downgraded unless the quotes of
the user ask for that language and no other.
mirrors app/services/memory_candidate_safety_filter.py:113-131
(`TemporaryLanguageSafetyFilter.evaluate`) -/
def downgrades (candidate : FormationCandidate) : Bool :=
  match candidate.semantic with
  | none => false
  | some semantic =>
    if candidate.scope ≠ "user_preference" || semantic.slot ≠ "response_language" ||
        (candidate.proposedOperation ≠ .add && candidate.proposedOperation ≠ .update) then false
    else
      let quotes := (candidate.evidenceRefs.filter (·.role = .user)).filterMap fun ref =>
        ref.quote.filter (· ≠ "")
      let actual := (quotes.filterMap policy.instructionTargetLanguage).dedup
      match policy.normalizedLanguage semantic.value with
      | none => true
      | some expected => actual ≠ [expected]

def ended (job : FormationJob) (hard : HardRuleEvaluation) (verifierOutcome : Option String) :
    Option CandidatePolicyResult :=
  hard.terminal.map fun terminal =>
    result policy.py job hard terminal.operation terminal.status terminal.reason "not_evaluated"
      verifierOutcome

/-- mirrors app/services/memory_candidate_policy.py:166-204 -/
def verifyPending (now : Instant) (reads : Reads) (reply : VerifierReply) (job : FormationJob)
    (hard : HardRuleEvaluation) (turns : List FormationTurn) :
    Except StoreError (HardRuleEvaluation × SemanticValidationStatus) :=
  if reply = .answered .confirmed then do
    let rerun ← evaluateHardRules policy.py now reads job hard.candidate turns
    return (rerun, validateSemantics (confirmedCopy rerun.candidate) rerun.current)
  else return (hard, validateSemantics hard.candidate hard.current)

/-- The decision once the semantics are confirmed.
mirrors app/services/memory_candidate_policy.py:121-164 -/
def conclude (job : FormationJob) (candidate : FormationCandidate) (hard : HardRuleEvaluation)
    (verifierOutcome : Option String) : CandidatePolicyResult :=
  let decided := fun operation status reason =>
    result policy.py job hard operation status reason "confirmed" verifierOutcome
  if candidate.confidence < policy.autoThreshold then decided .pending .pending .confidencePending
  else if candidate.proposedOperation = .delete then
    if hard.deleteAuthorized then decided .delete .accepted .authorizedDelete
    else decided .pending .pending .ambiguousDelete
  else if hard.current.isNone then decided .add .accepted .acceptedNew
  else decided .update .accepted .acceptedUpdate

/-- mirrors app/services/memory_candidate_policy.py:53-164; the second clock and
the second reads are those of the evaluation after the verifier's confirmation -/
def evaluate (now now' : Instant) (reads reads' : Reads) (reply : VerifierReply) (job : FormationJob)
    (candidate : FormationCandidate) (turns : List FormationTurn) :
    Except StoreError CandidatePolicyResult := do
  let candidate := adaptStructuredCandidate policy.py job.trigger candidate
  let hard ← evaluateHardRules policy.py now reads job candidate turns
  match policy.ended job hard none with
  | some ended => return ended
  | none =>
    let semantic := validateSemantics candidate hard.current
    let decided := fun operation status reason verifierOutcome =>
      result policy.py job hard operation status reason semantic.value verifierOutcome
    if semantic = .currentTurn then return decided .noop .noop .currentTurnOverride none
    else if candidate.confidence < policy.pendingThreshold then
      return decided .reject .rejected .confidenceLow none
    else if policy.downgrades candidate then
      return decided .pending .pending .ambiguousConflict (some "temporary_response_language_guard")
    else if semantic = .pending then do
      let (hard, semantic) ← policy.verifyPending now' reads' reply job hard turns
      match policy.ended job hard (some reply.value) with
      | some ended => return ended
      | none =>
        if semantic = .confirmed then
          return policy.conclude job candidate hard (some reply.value)
        else
          return result policy.py job hard .pending .pending
            (if candidate.proposedOperation = .delete then .ambiguousDelete else .ambiguousConflict)
            semantic.value (some reply.value)
    else return policy.conclude job candidate hard none

end MemoryCandidatePolicy
end OpenIntentRouter.Services
