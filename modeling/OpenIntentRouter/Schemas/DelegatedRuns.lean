import OpenIntentRouter.Schemas.Common

/-!
# Delegated-run commands

The commands of `app/schemas/delegated_runs.py`. A command object has passed its
`Field` constraints and validators when a store sees it; the constraints are
proof fields here, found by `decide` for a concrete command.
-/
namespace OpenIntentRouter.Schemas

open Core

/-- mirrors app/schemas/delegated_runs.py:9 -/
def delegatedRunMaintenanceEventPrefix : String := "event_timeout_"

/-- `Field(min_length=1, max_length=128)`. -/
def isIdentifier (s : String) : Bool := 1 ≤ s.length && s.length ≤ 128

/-- `str | None` with `Field(max_length=128)`. -/
def isOptionalIdentifier (s : Option String) : Bool := s.all (·.length ≤ 128)

/-- mirrors app/schemas/delegated_runs.py:26-37 (`DelegatedRunStartCommand`);
`metadata` is read by no store -/
structure DelegatedRunStartCommand where
  tenantId : String
  userId : String
  sessionId : String
  requestId : String
  turnId : String
  agentId : String
  planId : Option String
  stepId : Option String
  deadlineAt : Instant
  input : JsonDict
  identifiers : [tenantId, userId, sessionId, requestId, turnId, agentId].all isIdentifier = true
    := by decide
  optionals : [planId, stepId].all isOptionalIdentifier = true := by decide

/-- mirrors app/schemas/delegated_runs.py:40-50 -/
structure DelegatedRunEventCommand where
  eventId : String
  runId : String
  turnId : String
  tenantId : String
  userId : String
  agentId : String
  planId : Option String
  stepId : Option String
  expectedStateVersion : Nat
  occurredAt : Instant
  identifiers : [eventId, runId, turnId, tenantId, userId, agentId].all isIdentifier = true
    := by decide
  optionals : [planId, stepId].all isOptionalIdentifier = true := by decide
  version : 1 ≤ expectedStateVersion := by decide

/-- mirrors app/schemas/delegated_runs.py:53-64 -/
structure DelegatedRunProgressCommand extends DelegatedRunEventCommand where
  eventType : AgentEventType
  sequence : Nat
  status : RunStatus
  payload : JsonDict
  progressType : eventType = .agentStarted ∨ eventType = .agentProgress ∨ eventType = .agentClarify
    := by decide
  sequencePos : 1 ≤ sequence := by decide
  eventStatus : status = if eventType = .agentClarify then .blocked else .running := by decide

theorem agentProgress_progress : AgentEventType.agentProgress = .agentStarted ∨
    AgentEventType.agentProgress = .agentProgress ∨
    AgentEventType.agentProgress = .agentClarify := .inr (.inl rfl)

/-- mirrors app/schemas/delegated_runs.py:67-71 -/
structure DelegatedRunCompleteCommand extends DelegatedRunEventCommand where
  resultId : String
  responseText : String
  output : Option JsonDict
  artifactRefs : List JsonDict
  resultIdentifier : isIdentifier resultId = true := by decide
  responseLength : responseText.length ≤ 20000 := by decide
  artifactCount : artifactRefs.length ≤ 50 := by decide

/-- mirrors app/schemas/delegated_runs.py:74-75 -/
structure DelegatedRunFailCommand extends DelegatedRunEventCommand where
  error : JsonDict

/-- mirrors app/schemas/delegated_runs.py:78-79 -/
structure DelegatedRunCancelCommand extends DelegatedRunEventCommand where
  reason : String
  reasonLength : (1 ≤ reason.length && reason.length ≤ 500) = true := by decide

/-- mirrors app/schemas/delegated_runs.py:82-84 -/
structure DelegatedRunTimeoutCommand extends DelegatedRunEventCommand where
  deadlineAt : Instant
  reason : String
  reasonLength : (1 ≤ reason.length && reason.length ≤ 500) = true := by decide

instance : Coe DelegatedRunProgressCommand DelegatedRunEventCommand := ⟨(·.1)⟩

instance : Coe DelegatedRunCompleteCommand DelegatedRunEventCommand := ⟨(·.1)⟩

instance : Coe DelegatedRunFailCommand DelegatedRunEventCommand := ⟨(·.1)⟩

instance : Coe DelegatedRunCancelCommand DelegatedRunEventCommand := ⟨(·.1)⟩

instance : Coe DelegatedRunTimeoutCommand DelegatedRunEventCommand := ⟨(·.1)⟩

theorem ne_empty_of_isIdentifier {s : String} (h : isIdentifier s = true) : s ≠ "" := by
  rintro rfl
  cases h

theorem DelegatedRunEventCommand.eventId_ne (command : DelegatedRunEventCommand) :
    command.eventId ≠ "" :=
  ne_empty_of_isIdentifier (List.all_eq_true.1 command.identifiers _ (by simp))

theorem DelegatedRunEventCommand.agentId_ne (command : DelegatedRunEventCommand) :
    command.agentId ≠ "" :=
  ne_empty_of_isIdentifier (List.all_eq_true.1 command.identifiers _ (by simp))

theorem DelegatedRunStartCommand.sessionId_ne (command : DelegatedRunStartCommand) :
    command.sessionId ≠ "" :=
  ne_empty_of_isIdentifier (List.all_eq_true.1 command.identifiers _ (by simp))

end OpenIntentRouter.Schemas
