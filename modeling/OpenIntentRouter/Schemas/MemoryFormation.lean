import OpenIntentRouter.Core.Except
import OpenIntentRouter.Schemas.Memory

/-!
# Formation turns and jobs

The records of `app/schemas/memory.py` that formation works on. They extend
what a deletion reads of them. `MemoryTurn` and `MemoryJob` are the tables they
are stored in, each record under its own id.
-/
namespace OpenIntentRouter.Schemas

open Core

/-- mirrors app/schemas/memory.py:17-23 -/
inductive MemoryFormationTrigger where
  | turnWindow | idle | structuredEvent | manual | sweeper | consolidation
  deriving DecidableEq

/-- mirrors app/schemas/memory.py:26-29 -/
inductive MemoryFormationMode where
  | off | observe | enforced
  deriving DecidableEq

structure SessionIdentity where
  tenantId : String
  userId : String
  sessionId : String
  deriving DecidableEq

/-- mirrors app/schemas/memory.py:209-228 (`MemoryFormationTurn`) -/
structure FormationTurn extends MemoryFormationTurn where
  requestId : String
  sessionId : String
  runId : Option String
  agentId : Option String
  resultStatus : String
  resultRefs : List String
  planRefs : List String
  artifactRefs : List String
  idleDeadlineAt : Option Instant
  claimedJobId : Option String
  completedAt : Instant
  createdAt : Instant
  deriving DecidableEq

/-- mirrors app/schemas/memory.py:14 (`FormationIdentifier`) -/
def formationIdentifier (id : String) : Bool := 1 ≤ id.length && id.length ≤ 128

/-- The `Field` constraints of a turn. -/
def FormationTurn.fieldsValid (turn : FormationTurn) : Bool :=
  let refsValid := fun refs : List String => refs.length ≤ 50 && refs.all formationIdentifier
  formationIdentifier turn.turnId && formationIdentifier turn.requestId &&
    formationIdentifier turn.sessionId && turn.runId.all formationIdentifier &&
    formationIdentifier turn.userId && formationIdentifier turn.tenantId &&
    turn.agentId.all formationIdentifier && turn.userText.length ≤ 20000 &&
    turn.assistantText.length ≤ 20000 && 1 ≤ turn.resultStatus.length &&
    turn.resultStatus.length ≤ 32 && refsValid turn.resultRefs && refsValid turn.planRefs &&
    refsValid turn.artifactRefs && refsValid turn.usedMemoryIds

def FormationTurn.validate (turn : FormationTurn) : Except StoreError FormationTurn := do
  Except.ensure turn.fieldsValid (.validationError "MemoryFormationTurn field constraints")
  return turn

/-- mirrors app/schemas/memory.py:231-255 (`MemoryFormationJob`) -/
structure FormationJob extends MemoryFormationJob where
  trigger : MemoryFormationTrigger
  mode : MemoryFormationMode
  sessionId : Option String
  firstTurnId : Option String
  lastTurnId : Option String
  idempotencyKey : String
  modelVersion : String
  promptVersion : String
  policyVersion : String
  attemptCount : Nat
  maxAttempts : Nat
  leaseOwner : Option String
  leaseToken : Option String
  leaseExpiresAt : Option Instant
  nextAttemptAt : Option Instant
  lastErrorCode : Option String
  createdAt : Instant
  updatedAt : Instant
  deriving DecidableEq

def FormationTurn.session (turn : FormationTurn) : SessionIdentity :=
  ⟨turn.tenantId, turn.userId, turn.sessionId⟩

/-! ## Candidates -/

/-- mirrors app/schemas/memory.py:52-56 -/
inductive MemoryCandidateOperation where
  | add | update | delete | ignore
  deriving DecidableEq

def MemoryCandidateOperation.value : MemoryCandidateOperation → String
  | .add => "add"
  | .update => "update"
  | .delete => "delete"
  | .ignore => "ignore"

/-- mirrors app/schemas/memory.py:59-66 -/
inductive MemorySemanticTarget where
  | userProfile | assistantResponse | task | artifact | session | memory | unknown
  deriving DecidableEq

def MemorySemanticTarget.value : MemorySemanticTarget → String
  | .userProfile => "user_profile"
  | .assistantResponse => "assistant_response"
  | .task => "task"
  | .artifact => "artifact"
  | .session => "session"
  | .memory => "memory"
  | .unknown => "unknown"

/-- mirrors app/schemas/memory.py:69-74 -/
inductive MemoryTemporalScope where
  | currentTurn | session | longTerm | canonical | unknown
  deriving DecidableEq

def MemoryTemporalScope.value : MemoryTemporalScope → String
  | .currentTurn => "current_turn"
  | .session => "session"
  | .longTerm => "long_term"
  | .canonical => "canonical"
  | .unknown => "unknown"

/-- mirrors app/schemas/memory.py:77-80 -/
inductive MemoryPolarity where
  | affirmed | negated | unknown
  deriving DecidableEq

def MemoryPolarity.value : MemoryPolarity → String
  | .affirmed => "affirmed"
  | .negated => "negated"
  | .unknown => "unknown"

/-- mirrors app/schemas/memory.py:83-85 -/
inductive MemorySemanticCertainty where
  | certain | uncertain
  deriving DecidableEq

def MemorySemanticCertainty.value : MemorySemanticCertainty → String
  | .certain => "certain"
  | .uncertain => "uncertain"

/-- mirrors app/schemas/memory.py:88-91 -/
inductive MemorySemanticVerifierVerdict where
  | confirmed | contradicted | uncertain
  deriving DecidableEq

def MemorySemanticVerifierVerdict.value : MemorySemanticVerifierVerdict → String
  | .confirmed => "confirmed"
  | .contradicted => "contradicted"
  | .uncertain => "uncertain"

/-- mirrors app/schemas/memory.py:94-99 -/
inductive MemoryChangeIntent where
  | set | replace | delete | none | unknown
  deriving DecidableEq

def MemoryChangeIntent.value : MemoryChangeIntent → String
  | .set => "set"
  | .replace => "replace"
  | .delete => "delete"
  | .none => "none"
  | .unknown => "unknown"

def MemoryEvidenceRole.value : MemoryEvidenceRole → String
  | .user => "user"
  | .assistant => "assistant"
  | .agent => "agent"
  | .system => "system"
  | .canonical => "canonical"

/-- mirrors app/schemas/memory.py:176-183 -/
structure MemoryCandidateSemantics where
  target : MemorySemanticTarget
  slot : String
  value : Json
  temporalScope : MemoryTemporalScope
  polarity : MemoryPolarity
  certainty : MemorySemanticCertainty
  changeIntent : MemoryChangeIntent
  deriving DecidableEq

/-- mirrors app/schemas/memory.py:258-294 (`MemoryFormationCandidate`) -/
structure FormationCandidate extends MemoryFormationCandidate where
  candidateId : String
  proposedOperation : MemoryCandidateOperation
  semantic : Option MemoryCandidateSemantics
  subjectType : String
  subjectIdHint : Option String
  tenantIdHint : Option String
  memoryKeyHint : Option String
  targetMemoryId : Option String
  sensitivity : String
  reason : String

end OpenIntentRouter.Schemas
