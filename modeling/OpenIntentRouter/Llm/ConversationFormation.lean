import OpenIntentRouter.Services.MemoryCandidatePolicy

/-!
# The candidates of a conversation

What a formation model answers about a range of turns is validated before the
policy sees it: `ConversationFormationResponse` bounds the number of the
candidates, each of their fields, and the text of all of them. Nothing is said
about the values inside `structured_value` but that they are strict JSON of at
most 8192 bytes.
-/
namespace OpenIntentRouter.Llm

open Core Core.Text Schemas Services

/-- mirrors app/llm/conversation_formation.py:58-59 -/
structure FormationModelInvalidResponse where
  message : String
  deriving DecidableEq

/-- `len(json.dumps(value, ..., separators=(",", ":")).encode())` -/
def encodedBytes (py : Python) (value : Json) : Nat := (utf8 (compactDumps py value)).length

/-- `_MAX_FORMATION_RESPONSE_BYTES` -/
def maxFormationResponseBytes : Nat := 256 * 1024

/-- mirrors app/schemas/memory.py:168-173 (`MemoryEvidenceRef`) -/
def evidenceRefValid (ref : MemoryEvidenceRef) : Bool :=
  ref.turnId.all formationIdentifier && ref.eventId.all formationIdentifier &&
  ref.quote.all (·.length ≤ 500) && ref.contentHash.all (·.length ≤ 128)

/-- mirrors app/schemas/memory.py:176-199 (`MemoryCandidateSemantics`) -/
def semanticsValid (py : Python) (semantic : MemoryCandidateSemantics) : Bool :=
  legacySlot semantic.slot && encodedBytes py semantic.value ≤ 8192

/-- mirrors app/schemas/memory.py:258-294 (`MemoryFormationCandidate`) -/
def candidateValid (py : Python) (candidate : FormationCandidate) : Bool :=
  1 ≤ candidate.candidateId.length && candidate.candidateId.length ≤ 128 &&
  1 ≤ candidate.scope.length && candidate.scope.length ≤ 64 &&
  candidate.content.length ≤ 2000 && candidate.structuredValue.length ≤ 50 &&
  candidate.semantic.all (semanticsValid py) &&
  1 ≤ candidate.subjectType.length && candidate.subjectType.length ≤ 64 &&
  candidate.subjectIdHint.all (·.length ≤ 128) && candidate.tenantIdHint.all (·.length ≤ 128) &&
  candidate.memoryKeyHint.all (·.length ≤ 512) && candidate.targetMemoryId.all (·.length ≤ 128) &&
  1 ≤ candidate.sensitivity.length && candidate.sensitivity.length ≤ 64 &&
  1 ≤ candidate.evidenceRefs.length && candidate.evidenceRefs.length ≤ 20 &&
  candidate.evidenceRefs.all evidenceRefValid && candidate.reason.length ≤ 500 &&
  strip candidate.content ≠ "" && encodedBytes py (.obj candidate.structuredValue) ≤ 8192

/-- `self.model_dump_json()` -/
def responseText (py : Python) (candidates : List FormationCandidate) : String :=
  Json.dumps { item := ",", key := ":", number := py.number }
    (.obj [("candidates", .arr (candidates.map fun candidate => .obj (candidateJson candidate)))])

/-- mirrors app/llm/conversation_formation.py:26-45 (`ConversationFormationResponse`) -/
def responseValid (py : Python) (candidates : List FormationCandidate) : Bool :=
  candidates.length ≤ 20 &&
  candidates.all (fun candidate => candidate.semantic.isSome && candidateValid py candidate) &&
  (utf8 (responseText py candidates)).length ≤ maxFormationResponseBytes

/-- mirrors app/llm/conversation_formation.py:70-80 -/
def validateConversationCandidates (py : Python) (candidates : List FormationCandidate) :
    Except FormationModelInvalidResponse (List FormationCandidate) :=
  if responseValid py candidates then .ok candidates
  else .error ⟨"Conversation formation candidates do not match the strict response schema"⟩

theorem validateConversationCandidates_eq_ok {py : Python}
    {candidates validated : List FormationCandidate} :
    validateConversationCandidates py candidates = .ok validated ↔
      responseValid py candidates = true ∧ candidates = validated := by
  unfold validateConversationCandidates
  split <;> simp [*]

end OpenIntentRouter.Llm
