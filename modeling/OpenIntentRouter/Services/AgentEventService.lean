import OpenIntentRouter.Core.Stateful
import OpenIntentRouter.Services.DelegatedRunService
import OpenIntentRouter.Services.ExecutionTicketService
import OpenIntentRouter.Services.PlanService

/-!
# Agent events of delegated runs

`NativeAgentEventService.record`: the bearer of an execution ticket reports on
its run. The ticket is resolved and claimed, the event becomes a command on the
run, and the ticket is consumed or moves its cursor. Each submission is taken
alone; its clock readings and the lease token it draws are its `Readings`.
-/
namespace OpenIntentRouter.Services.AgentEvents

open Core Schemas Repositories OpenIntentRouter.DelegatedRuns
open Repositories.Tickets Services.Tickets Services.DelegatedRuns

/-- mirrors app/services/agent_event_service.py:19-24 (`AgentEventRejectionCategory`) -/
inductive RejectionCategory where
  | unauthorized | conflict | invalid | notFound
  deriving DecidableEq

/-- What `record` raises: `AgentEventRejected`, or an exception of a store or of
the tickets that it does not catch. -/
inductive Raised where
  | rejected (category : RejectionCategory) (detail : String)
  | store (error : StoreError)
  | ticket (error : TicketError)
  deriving DecidableEq

/-- mirrors app/schemas/events.py:50-54 -/
structure AgentEventResponse where
  eventId : String
  accepted : Bool
  duplicate : Bool
  message : String
  deriving DecidableEq

/-- The arguments of `record`. -/
structure Submission where
  payload : AgentEvent
  executionTicket : Option String
  pathRunId : Option String

/-- What one call reads from the clock and draws: the `now` of `resolve_bound`,
of `claim`, of `_resolve_event_occurrence`, of the call that settles the claim
and of the one that releases a rejected claim; the lease token; what the stores
generate. -/
structure Readings where
  resolvedAt : Instant
  claimedAt : Instant
  now : Instant
  settledAt : Instant
  releasedAt : Instant
  leaseToken : String
  generated : Generated
  leaseToken_ne : leaseToken ≠ "" := by decide

structure State where
  stores : Stores
  tickets : TicketStore

/-- `str` is Python's `str(value)` of a JSON value that is no string. -/
structure Config where
  tickets : Tickets.Config
  leaseSeconds : Int
  str : Json → String

abbrev Service := Stateful Raised State

def reject {α : Type} (category : RejectionCategory) (detail : String) : Except Raised α :=
  .error (.rejected category detail)

/-- A ticket call; `raised` is what its exception becomes. -/
def onTickets (raised : TicketError → Raised) (q : TicketProg) : Service TicketReply :=
  .lift raised fun s => ((q.run s.tickets).1, { s with tickets := (q.run s.tickets).2 })

def onRuns (generated : Generated) (command : AgentCommand) : Service DelegatedRunCommandResult :=
  .lift .store fun s => ((serve generated command s.stores).1,
    { s with stores := (serve generated command s.stores).2 })

/-! ## The checks of the payload -/

/-- mirrors app/services/agent_event_service.py:14 -/
def executionTicketPurpose : String := "agent_event"

/-- mirrors app/services/agent_event_service.py:305-326 -/
def validateTicketCorrelation (payload : AgentEvent) (pathRunId : Option String)
    (claims : ExecutionTicketClaims) : Except Raised Unit :=
  let supplied (value claim : Option String) : Bool := value = none || value = claim
  let runId := if truthy pathRunId then pathRunId else payload.runId
  if truthy pathRunId && truthy payload.runId && pathRunId ≠ payload.runId then
    reject .conflict "agent_event_identity_conflict"
  else if supplied runId claims.runId && supplied payload.requestId claims.requestId &&
      supplied payload.turnId claims.turnId && supplied payload.tenantId claims.tenantId &&
      supplied payload.userId claims.userId && supplied payload.agentId claims.agentId &&
      supplied payload.planId claims.planId && supplied payload.stepId claims.stepId then
    .ok ()
  else reject .conflict "agent_event_identity_conflict"

def isCanonicalRun (payload : AgentEvent) (claims : ExecutionTicketClaims) (run : AgentRun) : Bool :=
  run.delegated && run.requestId = some claims.requestId && run.turnId = some claims.turnId &&
  run.tenantId = some claims.tenantId && run.userId = some claims.userId &&
  run.agentId = claims.agentId && run.planId = claims.planId && run.stepId = claims.stepId &&
  run.sessionId = payload.sessionId

/-- mirrors app/services/agent_event_service.py:329-349 -/
def validateCanonicalRun (payload : AgentEvent) (record : ExecutionTicketRecord) (stores : Stores) :
    Except Raised AgentRun :=
  match stores.getRun record.claims.runId with
  | .error e => .error (.store e)
  | .ok none => reject .conflict "agent_event_identity_conflict"
  | .ok (some run) =>
    if isCanonicalRun payload record.claims run then .ok run
    else reject .conflict "agent_event_identity_conflict"

/-- mirrors app/services/plan_service.py:473-474 -/
def validateAgentEventContract (payload : AgentEvent) : Except StoreError PlanStepStatus :=
  eventStatusToStepStatus payload.status payload.eventType

/-- The test `event_type in {"agent_result", "agent_error", "agent_cancelled"}`. -/
def isTerminalType : AgentEventType → Bool
  | .agentResult | .agentError | .agentCancelled => true
  | .agentStarted | .agentProgress | .agentClarify => false

/-- `_as_utc` of a column that may be `None`. -/
def asUtc (time : Option Instant) : Except Raised Instant :=
  match time with
  | some time => .ok time
  | none => .error (.store (.attributeError "'NoneType' object has no attribute 'tzinfo'"))

def replayOccurrence (payload : AgentEvent) (record : ExecutionTicketRecord) (run : AgentRun) :
    Except Raised Instant :=
  if payload.runStateVersion ≠ none && payload.runStateVersion ≠ some record.runStateVersion then
    reject .conflict "agent_event_conflict"
  else if payload.sequence ≠ none && payload.sequence ≠ some run.eventSequence then
    reject .conflict "agent_event_conflict"
  else do
    let canonical ← asUtc run.updatedAt
    match payload.createdAt with
    | none => return canonical
    | some created =>
      let started ← asUtc run.createdAt
      if max created started ≠ canonical then reject .conflict "agent_event_conflict"
      else return canonical

def expectedClientVersion (payload : AgentEvent) (record : ExecutionTicketRecord) :
    Except Raised Nat :=
  match payload.sequence with
  | none => .ok record.runStateVersion
  | some sequence =>
    if sequence = record.eventSequence then .ok (record.runStateVersion - 1)
    else if sequence = record.eventSequence + 1 then .ok record.runStateVersion
    else reject .conflict "agent_event_conflict"

/-- mirrors app/services/agent_event_service.py:352-395 -/
def resolveEventOccurrence (payload : AgentEvent) (record : ExecutionTicketRecord) (run : AgentRun)
    (now : Instant) : Except Raised Instant :=
  if isTerminalType payload.eventType && run.terminalEventId = some payload.eventId then
    replayOccurrence payload record run
  else do
    let expected ← expectedClientVersion payload record
    if payload.runStateVersion ≠ none && payload.runStateVersion ≠ some expected then
      reject .conflict "agent_event_conflict"
    else
      let started ← asUtc run.createdAt
      return max (payload.createdAt.getD now) started

/-! ## The command of an event -/

/-- `payload.sequence or record.event_sequence + 1`. -/
def eventSequence (payload : AgentEvent) (record : ExecutionTicketRecord) : Nat :=
  (payload.sequence.filter (· ≠ 0)).getD (record.eventSequence + 1)

/-- `common`, as the fields of the command that is built from it. -/
def eventCommand (payload : AgentEvent) (record : ExecutionTicketRecord) (occurredAt : Instant) :
    Except StoreError DelegatedRunEventCommand :=
  let claims := record.claims
  if h : ([payload.eventId, claims.runId, claims.turnId, claims.tenantId, claims.userId,
        claims.agentId].all isIdentifier = true ∧
      [claims.planId, claims.stepId].all isOptionalIdentifier = true) ∧
      1 ≤ record.runStateVersion then
    .ok
      { eventId := payload.eventId
        runId := claims.runId
        turnId := claims.turnId
        tenantId := claims.tenantId
        userId := claims.userId
        agentId := claims.agentId
        planId := claims.planId
        stepId := claims.stepId
        expectedStateVersion := record.runStateVersion
        occurredAt
        identifiers := h.1.1
        optionals := h.1.2
        version := h.2 }
  else .error (.validationError "DelegatedRunEventCommand")

def progressCommand (payload : AgentEvent) (record : ExecutionTicketRecord) (occurredAt : Instant) :
    Except StoreError DelegatedRunProgressCommand := do
  let common ← eventCommand payload record occurredAt
  if h : (payload.eventType = .agentStarted ∨ payload.eventType = .agentProgress ∨
      payload.eventType = .agentClarify) ∧ 1 ≤ eventSequence payload record then
    .ok
      { toDelegatedRunEventCommand := common
        eventType := payload.eventType
        sequence := eventSequence payload record
        status := if payload.eventType = .agentClarify then .blocked else .running
        payload := payload.payload
        progressType := h.1
        sequencePos := h.2
        eventStatus := rfl }
  else .error (.validationError "DelegatedRunProgressCommand")

/-- `str(value)`. -/
def Config.text (cfg : Config) : Json → String
  | .str s => s
  | value => cfg.str value

/-- `payload.get(key)` unless it is false. -/
def truthyField (payload : JsonDict) (key : String) : Option Json :=
  (Json.field payload key).filter Json.truthy

/-- `str(payload.get("result_id") or f"result_{event_id}")`. -/
def resultId (cfg : Config) (payload : AgentEvent) : String :=
  match truthyField payload.payload "result_id" with
  | some value => cfg.text value
  | none => "result_" ++ payload.eventId

/-- `str(payload.get("message") or payload.get("response_text") or "")`. -/
def responseText (cfg : Config) (payload : AgentEvent) : String :=
  match truthyField payload.payload "message", truthyField payload.payload "response_text" with
  | some value, _ => cfg.text value
  | none, some value => cfg.text value
  | none, none => ""

/-- `value if isinstance(value, dict) else payload` of a field. -/
def objectField (payload : JsonDict) (key : String) : JsonDict :=
  match Json.field payload key with
  | some (.obj fields) => fields
  | _ => payload

/-- The objects among `payload.get("artifact_refs", [])`. -/
def artifactRefs (payload : JsonDict) : List JsonDict :=
  match Json.field payload "artifact_refs" with
  | some (.arr items) => items.filterMap fun
    | .obj fields => some fields
    | _ => none
  | _ => []

/-- `str(payload.get("reason") or "execution_cancelled")`. -/
def cancelReason (cfg : Config) (payload : AgentEvent) : String :=
  match truthyField payload.payload "reason" with
  | some value => cfg.text value
  | none => "execution_cancelled"

def completeCommand (cfg : Config) (payload : AgentEvent) (record : ExecutionTicketRecord)
    (occurredAt : Instant) : Except StoreError DelegatedRunCompleteCommand := do
  let common ← eventCommand payload record occurredAt
  if h : (isIdentifier (resultId cfg payload) = true ∧ (responseText cfg payload).length ≤ 20000) ∧
      (artifactRefs payload.payload).length ≤ 50 then
    .ok
      { toDelegatedRunEventCommand := common
        resultId := resultId cfg payload
        responseText := responseText cfg payload
        output := some (objectField payload.payload "output")
        artifactRefs := artifactRefs payload.payload
        resultIdentifier := h.1.1
        responseLength := h.1.2
        artifactCount := h.2 }
  else .error (.validationError "DelegatedRunCompleteCommand")

def failCommand (payload : AgentEvent) (record : ExecutionTicketRecord) (occurredAt : Instant) :
    Except StoreError DelegatedRunFailCommand := do
  let common ← eventCommand payload record occurredAt
  return { toDelegatedRunEventCommand := common, error := objectField payload.payload "error" }

def cancelCommand (cfg : Config) (payload : AgentEvent) (record : ExecutionTicketRecord)
    (occurredAt : Instant) : Except StoreError DelegatedRunCancelCommand := do
  let common ← eventCommand payload record occurredAt
  if h : (1 ≤ (cancelReason cfg payload).length && (cancelReason cfg payload).length ≤ 500) = true then
    .ok
      { toDelegatedRunEventCommand := common
        reason := cancelReason cfg payload
        reasonLength := h }
  else .error (.validationError "DelegatedRunCancelCommand")

def commandOf (cfg : Config) (payload : AgentEvent) (record : ExecutionTicketRecord)
    (occurredAt : Instant) : Except StoreError AgentCommand :=
  match payload.eventType with
  | .agentStarted | .agentProgress | .agentClarify =>
    .progress <$> progressCommand payload record occurredAt
  | .agentResult => .complete <$> completeCommand cfg payload record occurredAt
  | .agentError => .fail <$> failCommand payload record occurredAt
  | .agentCancelled => .cancel <$> cancelCommand cfg payload record occurredAt

/-- The second component of its result is `isTerminalType payload.event_type`.
mirrors app/services/agent_event_service.py:235-302 (`_apply_delegated_event`) -/
def applyDelegatedEvent (cfg : Config) (payload : AgentEvent) (record : ExecutionTicketRecord)
    (occurredAt : Instant) (generated : Generated) : Service DelegatedRunCommandResult := do
  let command ← .ofExcept .store (commandOf cfg payload record occurredAt)
  onRuns generated command

/-! ## Recording an event -/

/-- The exceptions that are a `ValueError`. -/
def Raised.isValueError : Raised → Bool
  | .rejected _ _ => true
  | .ticket .operationalError => false
  | .ticket _ => true
  | .store error =>
    match error with
    | .delegatedRunStartConflict _ | .turnTransactionConflict _ | .turnOwnershipConflict _
    | .turnTerminalStateError _ | .turnIdempotencyConflict _ | .orphanTurnRepairConflict _
    | .valueError _ | .validationError _ => true
    | .planStateConflict _ | .invocationError _ | .typeError _ | .attributeError _ | .keyError _
    | .stopIteration | .integrityError | .operationalError => false

/-- `except (DelegatedRunStartConflict, ExecutionTicketError, ValueError)`: `cleanup`,
then a rejection. -/
def rejecting {α : Type} (cleanup : Service Unit) (body : Service α) : Service α :=
  tryCatch body fun raised =>
    if raised.isValueError then do
      cleanup
      throw (.rejected .conflict "agent_event_conflict")
    else throw raised

/-- `resolve_bound`. -/
def resolveTicket (cfg : Config) (ticket : String) (now : Instant) :
    Service ExecutionTicketRecord := do
  let reply ← onTickets (fun _ => .rejected .unauthorized "execution_ticket_invalid") <|
    resolveBound cfg.tickets ticket executionTicketPurpose now fun record => .ret (.ok (.record record))
  match reply with
  | .record record => return record
  | _ => throw (.rejected .unauthorized "execution_ticket_invalid")

/-- The category of a claim that fails: the text of the exception has "claimed" in it. -/
def unavailable (error : TicketError) : Raised :=
  .rejected (if error = .executionTicketError "Execution ticket is claimed" then .conflict
    else .unauthorized) "execution_ticket_unavailable"

/-- `claim`, with its record and whether it is a duplicate. -/
def claimTicket (cfg : Config) (ticket owner : String) (claims : ExecutionTicketClaims)
    (readings : Readings) : Service (ExecutionTicketRecord × Bool) := do
  let reply ← onTickets unavailable <|
    claim cfg.tickets ticket claims.tenantId claims.userId executionTicketPurpose owner
      cfg.leaseSeconds readings.claimedAt readings.leaseToken
  match reply with
  | .claim record duplicate => return (record, duplicate)
  | _ => throw (.rejected .unauthorized "execution_ticket_unavailable")

/-- mirrors app/services/agent_event_service.py:172-197 -/
def validateConsumedReplay (cfg : Config) (payload : AgentEvent) (record : ExecutionTicketRecord)
    (occurredAt : Instant) (readings : Readings) : Service AgentEventResponse := do
  if record.consumedEventId ≠ some payload.eventId then
    throw (.rejected .conflict "execution_ticket_consumed")
  else
    let result ← rejecting (pure ()) <|
      applyDelegatedEvent cfg payload record occurredAt readings.generated
    if !isTerminalType payload.eventType || !result.duplicate then
      throw (.rejected .conflict "agent_event_conflict")
    else
      return { eventId := payload.eventId, accepted := true, duplicate := true
               message := "Agent event already committed" }

/-- What becomes of the claim once the command has been accepted.
mirrors app/services/agent_event_service.py:117-155 -/
def settle (cfg : Config) (payload : AgentEvent) (record : ExecutionTicketRecord)
    (ticketHash owner : String) (readings : Readings) (result : DelegatedRunCommandResult) :
    TicketProg :=
  let sequence := eventSequence payload record
  let progress : TicketProg :=
    releaseAfterProgress cfg.tickets ticketHash owner readings.leaseToken result.run.stateVersion
      sequence readings.settledAt
  if isTerminalType payload.eventType then
    consume cfg.tickets ticketHash payload.eventId owner readings.leaseToken readings.settledAt
  else if result.duplicate then
    if record.runStateVersion < result.run.stateVersion && record.eventSequence < sequence then
      progress
    else if result.run.stateVersion = record.runStateVersion && sequence = record.eventSequence then
      releaseClaim cfg.tickets ticketHash owner readings.leaseToken readings.settledAt
    else Tickets.raise "Execution ticket cursor conflict"
  else progress

/-- mirrors app/services/agent_event_service.py:487-501 -/
def releaseRejectedClaim (cfg : Config) (ticketHash owner : String) (readings : Readings) :
    Service Unit :=
  tryCatch
    (do
      let _ ← onTickets .ticket
        (releaseClaim cfg.tickets ticketHash owner readings.leaseToken readings.releasedAt))
    fun raised => match raised with
      | .ticket (.executionTicketError _) => return
      | raised => throw raised

/-- `owner` of a submission. -/
def claimOwner (payload : AgentEvent) : String := "native-agent-event:" ++ payload.eventId

def commitEvent (cfg : Config) (ticket : String) (payload : AgentEvent)
    (record : ExecutionTicketRecord) (occurredAt : Instant) (readings : Readings) :
    Service AgentEventResponse := do
  let ticketHash := cfg.tickets.digest ticket
  let result ← rejecting (releaseRejectedClaim cfg ticketHash (claimOwner payload) readings) do
    let result ← applyDelegatedEvent cfg payload record occurredAt readings.generated
    let _ ← onTickets .ticket <|
      settle cfg payload record ticketHash (claimOwner payload) readings result
    return result
  return { eventId := payload.eventId, accepted := true, duplicate := result.duplicate
           message := "Agent event committed" }

/-- mirrors app/services/agent_event_service.py:49-170 -/
def record (cfg : Config) (submission : Submission) (readings : Readings) :
    Service AgentEventResponse := do
  let payload := submission.payload
  let ticket := submission.executionTicket.getD ""
  if ticket = "" then throw (.rejected .unauthorized "execution_ticket_required")
  else
    let resolved ← resolveTicket cfg ticket readings.resolvedAt
    .ofExcept id (validateTicketCorrelation payload submission.pathRunId resolved.claims)
    let run ← .lift id fun s => (validateCanonicalRun payload resolved s.stores, s)
    let _ ← .ofExcept (fun _ => .rejected .invalid "agent_event_status_conflict")
      (validateAgentEventContract payload)
    let (record, duplicate) ← claimTicket cfg ticket (claimOwner payload) resolved.claims readings
    let occurredAt ← .ofExcept id (resolveEventOccurrence payload record run readings.now)
    if duplicate then validateConsumedReplay cfg payload record occurredAt readings
    else if record.leaseToken = none || record.leaseToken = some "" then
      throw (.rejected .conflict "execution_ticket_claim_invalid")
    else commitEvent cfg ticket payload record occurredAt readings

end OpenIntentRouter.Services.AgentEvents
