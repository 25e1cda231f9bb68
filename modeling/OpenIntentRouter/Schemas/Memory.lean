import OpenIntentRouter.Schemas.Common

/-!
# Memories

The records of `app/schemas/memory.py`: an item is the current state of a
memory, its revisions are the history, an index operation is an outbox entry
that brings one revision to the provider. `value` is the string of a `StrEnum`.
-/
namespace OpenIntentRouter.Schemas

open Core

/-- mirrors app/schemas/memory.py:41-49 -/
inductive MemoryOperation where
  | add | update | delete | noop | reject | pending | ignore | consolidate
  deriving DecidableEq

def MemoryOperation.value : MemoryOperation → String
  | .add => "add"
  | .update => "update"
  | .delete => "delete"
  | .noop => "noop"
  | .reject => "reject"
  | .pending => "pending"
  | .ignore => "ignore"
  | .consolidate => "consolidate"

/-- mirrors app/schemas/memory.py:102-105 -/
inductive MemoryRevisionOperation where
  | add | update | consolidate
  deriving DecidableEq

/-- mirrors app/schemas/memory.py:108-111 -/
inductive MemoryIndexOperationType where
  | add | update | delete
  deriving DecidableEq

def MemoryIndexOperationType.value : MemoryIndexOperationType → String
  | .add => "add"
  | .update => "update"
  | .delete => "delete"

/-- mirrors app/schemas/memory.py:114-120 -/
inductive MemoryDecisionStatus where
  | accepted | rejected | pending | noop | observed | resolved
  deriving DecidableEq

def MemoryDecisionStatus.value : MemoryDecisionStatus → String
  | .accepted => "accepted"
  | .rejected => "rejected"
  | .pending => "pending"
  | .noop => "noop"
  | .observed => "observed"
  | .resolved => "resolved"

/-- mirrors app/schemas/memory.py:123-126 -/
inductive MemoryLifecycleStatus where
  | active | deletionPending | deleted
  deriving DecidableEq

/-- mirrors app/schemas/memory.py:129-135 -/
inductive MemoryIndexStatus where
  | pending | ready | outOfSync | deletionPending | deleted | deadLetter
  deriving DecidableEq

/-- mirrors app/schemas/memory.py:138-143 -/
inductive MemoryIndexOperationStatus where
  | pending | claimed | retry | completed | deadLetter
  deriving DecidableEq

def MemoryIndexOperationStatus.value : MemoryIndexOperationStatus → String
  | .pending => "pending"
  | .claimed => "claimed"
  | .retry => "retry"
  | .completed => "completed"
  | .deadLetter => "dead_letter"

/-- mirrors app/schemas/memory.py:13 -/
inductive MemoryVisibility where
  | user | agent | tenant | system
  deriving DecidableEq

/-- mirrors app/schemas/memory.py:146-165 -/
inductive MemoryFormationReasonCode where
  | acceptedNew | acceptedUpdate | authorizedDelete | sameValue | duplicateCandidate
  | confidencePending | confidenceLow | ambiguousConflict | ambiguousDelete | currentTurnOverride
  | assistantOnlyEvidence | recalledMemoryRepetition | sensitiveContent | invalidEvidence
  | invalidScope | identityMismatch | temporaryRequest | ttlExpired | providerError
  deriving DecidableEq

def MemoryFormationReasonCode.value : MemoryFormationReasonCode → String
  | .acceptedNew => "accepted_new"
  | .acceptedUpdate => "accepted_update"
  | .authorizedDelete => "authorized_delete"
  | .sameValue => "same_value"
  | .duplicateCandidate => "duplicate_candidate"
  | .confidencePending => "confidence_pending"
  | .confidenceLow => "confidence_low"
  | .ambiguousConflict => "ambiguous_conflict"
  | .ambiguousDelete => "ambiguous_delete"
  | .currentTurnOverride => "current_turn_override"
  | .assistantOnlyEvidence => "assistant_only_evidence"
  | .recalledMemoryRepetition => "recalled_memory_repetition"
  | .sensitiveContent => "sensitive_content"
  | .invalidEvidence => "invalid_evidence"
  | .invalidScope => "invalid_scope"
  | .identityMismatch => "identity_mismatch"
  | .temporaryRequest => "temporary_request"
  | .ttlExpired => "ttl_expired"
  | .providerError => "provider_error"

/-- The `role` of an evidence reference. -/
inductive MemoryEvidenceRole where
  | user | assistant | agent | system | canonical
  deriving DecidableEq

/-- mirrors app/schemas/memory.py:168-173 -/
structure MemoryEvidenceRef where
  turnId : Option String
  eventId : Option String
  role : MemoryEvidenceRole
  quote : Option String
  contentHash : Option String
  deriving DecidableEq

/-- What an accepted candidate brings to an item. A key of a Python `dict` occurs once.
mirrors app/schemas/memory.py:258-294 (`MemoryFormationCandidate`) -/
structure MemoryFormationCandidate where
  scope : String
  content : String
  structuredValue : JsonDict
  confidence : Rat
  importance : Rat
  evidenceRefs : List MemoryEvidenceRef
  content_not_blank : content ≠ ""
  structuredValue_keys : (Json.obj structuredValue).distinctKeys = true
  confidence_unit : 0 ≤ confidence ∧ confidence ≤ 1
  importance_unit : 0 ≤ importance ∧ importance ≤ 1

theorem unit_one : (0 : Rat) ≤ 1 ∧ (1 : Rat) ≤ 1 := by decide

theorem unit_half : (0 : Rat) ≤ 1 / 2 ∧ (1 / 2 : Rat) ≤ 1 := by decide +kernel

theorem unit_nine_tenths : (0 : Rat) ≤ 9 / 10 ∧ (9 / 10 : Rat) ≤ 1 := by decide +kernel

/-- mirrors app/schemas/memory.py:297-314 -/
structure MemoryLifecycleOperation where
  operationId : String
  operation : MemoryOperation
  decisionStatus : MemoryDecisionStatus
  reasonCode : MemoryFormationReasonCode
  tenantId : String
  userId : String
  subjectType : String
  subjectId : String
  agentId : Option String
  source : Option String
  metadata : JsonDict
  memoryKey : String
  candidateHash : String
  memoryId : Option String
  revisionId : Option String
  formationJobId : Option String
  canonicalRefs : List String
  metadata_keys : (Json.obj metadata).distinctKeys = true
  deriving DecidableEq

/-- mirrors app/schemas/memory.py:414-427 -/
structure MemoryRevision where
  revisionId : String
  memoryId : String
  revisionNo : Nat
  memoryKey : String
  operation : MemoryRevisionOperation
  content : String
  structuredValue : JsonDict
  evidenceRefs : List MemoryEvidenceRef
  confidence : Rat
  policyVersion : String
  supersedesRevisionId : Option String
  formationJobId : Option String
  createdAt : Instant
  deriving DecidableEq

/-- mirrors app/schemas/memory.py:430-448 -/
structure MemoryIndexOperation where
  indexOperationId : String
  idempotencyKey : String
  operation : MemoryIndexOperationType
  memoryId : String
  revisionId : Option String
  tenantId : String
  externalMemoryId : Option String
  status : MemoryIndexOperationStatus
  attemptCount : Nat
  maxAttempts : Nat
  leaseOwner : Option String
  leaseToken : Option String
  leaseExpiresAt : Option Instant
  nextAttemptAt : Option Instant
  lastErrorCode : Option String
  lastErrorMetadata : JsonDict
  createdAt : Instant
  updatedAt : Instant
  deriving DecidableEq

/-- mirrors app/schemas/memory.py:451-475 -/
structure MemoryItem where
  memoryId : String
  scope : String
  subjectType : String
  subjectId : String
  userId : Option String
  tenantId : Option String
  agentId : Option String
  content : String
  structuredValue : JsonDict
  source : String
  confidence : Rat
  importance : Rat
  visibility : MemoryVisibility
  ttlExpiresAt : Option Instant
  metadata : JsonDict
  memoryKey : Option String
  candidateHash : Option String
  currentRevisionId : Option String
  currentRevisionNo : Option Nat
  formationJobId : Option String
  lifecycleStatus : MemoryLifecycleStatus
  indexStatus : Option MemoryIndexStatus
  canonicalRefs : List String
  createdAt : Instant
  updatedAt : Instant
  deriving DecidableEq

/-- mirrors app/schemas/memory.py:544-561 -/
structure MemoryEvent where
  eventId : String
  eventType : String
  memoryId : Option String
  userId : Option String
  tenantId : Option String
  agentId : Option String
  formationJobId : Option String
  memoryKey : Option String
  decisionStatus : Option MemoryDecisionStatus
  scope : Option String
  payload : JsonDict
  createdAt : Instant
  deriving DecidableEq

/-- The `status` of a formation turn. -/
inductive MemoryFormationTurnStatus where
  | pending | claimed | formed | skipped
  deriving DecidableEq

/-- What a deletion reads and scrubs of a turn.
mirrors app/schemas/memory.py:209-228 -/
structure MemoryFormationTurn where
  turnId : String
  userId : String
  tenantId : String
  userText : String
  assistantText : String
  usedMemoryIds : List String
  status : MemoryFormationTurnStatus
  deriving DecidableEq

/-- mirrors app/schemas/memory.py:32-38 -/
inductive MemoryFormationJobStatus where
  | pending | claimed | retry | completed | deadLetter | skipped
  deriving DecidableEq

/-- What a deletion reads and scrubs of a job.
mirrors app/schemas/memory.py:231-255 -/
structure MemoryFormationJob where
  jobId : String
  status : MemoryFormationJobStatus
  tenantId : String
  userId : String
  sourceRefs : List String
  traceSummary : JsonDict
  deriving DecidableEq

end OpenIntentRouter.Schemas
