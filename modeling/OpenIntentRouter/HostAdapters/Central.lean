import OpenIntentRouter.HostAdapters.Verifier
import OpenIntentRouter.Services.AgentEventService

/-!
# The host's agent events

`POST /events/agent` of the host adapter. The host reports on a delegated run
with an execution ticket, or without one, and then the ticket is looked up by
what the event says. The handler is a `Core.Client`: other requests may come
between two of its operations. A command on the runs and a read of a plan are one
operation each. Traces are left out: recording one never raises, and only the
completeness header shows whether it worked.
-/
namespace OpenIntentRouter.HostAdapters.Central

open Core Schemas Repositories OpenIntentRouter.DelegatedRuns
open Repositories.Tickets Services.Tickets Services.DelegatedRuns

/-! ## Requests and answers -/

/-- `output: JsonDict | str | None`. -/
inductive EventOutput where
  | object (fields : JsonDict)
  | text (value : String)
  | none
  deriving DecidableEq

def EventOutput.json : EventOutput → Json
  | .object fields => .obj fields
  | .text value => .str value
  | .none => .null

/-- mirrors host_adapters/oac/schemas/central.py:126-143 -/
structure AgentEventRequest where
  eventId : String
  sessionId : String
  agentId : String
  status : RunStatus
  eventType : AgentEventType := .agentResult
  agentSessionId : Option String := none
  planId : Option String := none
  stepId : Option String := none
  resultRef : Option String := none
  output : EventOutput := .none
  message : String := ""
  artifactRefs : List String := []
  createdAt : Option Instant := none
  executionTicket : Option String := none
  expectedStateVersion : Option Nat := none
  statusAllowed : status ∈ [RunStatus.pending, .running, .completed, .failed, .blocked, .clarify]
    := by decide
  typeAllowed : eventType ∈ [AgentEventType.agentResult, .agentProgress, .agentError, .agentClarify]
    := by decide

/-- mirrors host_adapters/oac/schemas/central.py:146-153 (`AgentEventCompatResponse`);
`plan` before `plan_to_compat`, which drops fields of it -/
structure AgentEventCompatResponse where
  eventId : String
  sessionId : String
  accepted : Bool
  duplicate : Bool := false
  routeRequired : Bool := true
  conflict : Option Bool := none
  plan : Option Plan := none
  deriving DecidableEq

/-- What ends a request without an answer of its own: a 403, a 409 for an
exception that is a `ValueError`, or an exception that nothing catches. -/
inductive HostError where
  | forbidden
  | conflict (raised : Services.AgentEvents.Raised)
  | raised (raised : Services.AgentEvents.Raised)
  deriving DecidableEq

/-- A record of the quarantine; `recorded_at` is read by nothing. -/
structure QuarantineRecord where
  eventIdHash : String
  sessionIdHash : String
  userIdHash : String
  agentIdHash : String
  eventEpoch : Instant
  cutoverWatermark : Instant
  deriving DecidableEq

structure HostState where
  stores : Stores
  tickets : TicketStore
  quarantine : List QuarantineRecord

/-- `fingerprint` is the first half of a `sha256` digest. -/
structure Config where
  tickets : Services.Tickets.Config
  executionTicketLeaseSeconds : Int
  executionTicketTtlSeconds : Int
  watermark : Option Instant
  fingerprint : String → String

/-- What a request reads from the clock and draws: the reading it claims its
ticket at, the one it takes for the time of the event when the request names
none, the lease token, and what the stores generate. -/
structure Readings where
  handledAt : Instant
  now : Instant
  leaseToken : String
  generated : Generated

structure Call where
  request : AgentEventRequest
  identity : TrustedHostIdentity
  readings : Readings

namespace Call

/-- `raw_ticket`: the ticket the request carries. -/
def rawTicket (call : Call) : Option String := call.request.executionTicket.filter (· ≠ "")

def owner (call : Call) : String := "agent-event:" ++ call.request.eventId

/-- `request.created_at or datetime.now(UTC)` of the event. -/
def occurredAt (call : Call) : Instant := call.request.createdAt.getD call.readings.now

def correlatedAt (call : Call) : Instant := call.request.createdAt.getD call.readings.handledAt

end Call

abbrev Handler := ExceptT HostError (Client HostState)

/-! ## The operations -/

def operation {α : Type} (f : HostState → α × HostState) : Handler α :=
  ExceptT.mk (Client.once fun s => (.ok (f s).1, (f s).2))

def ofExcept {α : Type} (x : Except StoreError α) : Handler α :=
  ExceptT.mk (pure (x.mapError fun e => .raised (.store e)))

def ticketCall (q : TicketProg) : Client HostState (Except TicketError TicketReply) :=
  q.within HostState.tickets fun tickets s => { s with tickets }

def onTickets (q : TicketProg) : Handler TicketReply :=
  ExceptT.mk do
    let reply ← ticketCall q
    return reply.mapError fun e => .raised (.ticket e)

def onRuns (generated : Generated) (command : AgentCommand) : Handler DelegatedRunCommandResult := do
  let reply ← operation fun s =>
    ((serve generated command s.stores).1, { s with stores := (serve generated command s.stores).2 })
  ofExcept reply

/-- mirrors app/repositories/memory.py:341-345 and app/repositories/database.py:594-616
(`get`), each of one transaction here -/
def getPlan (planId tenantId userId : String) : Stores → Except StoreError (Option Plan)
  | .memory s => .ok (s.plans.get planId tenantId userId)
  | .database db =>
    ((db.plans.get? planId).filter fun row => row.tenantId = tenantId && row.userId = userId).mapM
      fun row => planFromRows row row.steps

/-- Whether the event was there already.
mirrors app/repositories/memory.py:152-158 and app/repositories/database.py:234-246
(`add_agent_event`) -/
def recordAgentEvent (stamp : Instant) (event : AgentEvent) :
    Stores → Except StoreError Bool × Stores
  | .memory s =>
    (.ok (s.agentEvents.get? event.eventId).isSome,
      .memory { s with agentEvents := addAgentEvent s.agentEvents stamp event })
  | .database db =>
    match db.events.get? event.eventId with
    | some existing => (existing.validate.map fun _ => true, .database db)
    | none =>
      let row := { event with createdAt := some stamp }
      (row.validate.map fun _ => false, .database { db with events := db.events.put row })

/-! ## The checks before a claim -/

/-- mirrors host_adapters/oac/identity/policy.py:7-18 (`authorize_host_operation`) for
`runtime_write_own`, which one profile of host_adapters/oac/identity/profiles.py:17-45 allows -/
def mayWriteRuntime (identity : TrustedHostIdentity) : Bool :=
  (credentialProfiles.find? (·.credentialClass = identity.credentialClass)).any fun profile =>
    identity.principalType = profile.principalType && profile.credentialClass = "oac_user"

def eventEpoch (cfg : Config) (occurredAt ticketExpiresAt : Option Instant) : Option Instant :=
  match occurredAt, ticketExpiresAt with
  | some occurredAt, _ => some occurredAt
  | none, some expiresAt =>
    if cfg.executionTicketTtlSeconds ≠ 0 then
      some (expiresAt - seconds cfg.executionTicketTtlSeconds)
    else none
  | none, none => none

/-- mirrors host_adapters/oac/cutover/guard.py:10-43 -/
def quarantineIfLegacy (cfg : Config) (call : Call) (ticketExpiresAt : Option Instant) :
    Handler Bool := do
  let request := call.request
  match cfg.watermark, eventEpoch cfg request.createdAt ticketExpiresAt with
  | some watermark, some epoch =>
    if watermark ≤ epoch then return false
    else
      operation fun s => (true, { s with
        quarantine := s.quarantine ++
          [{ eventIdHash := cfg.fingerprint request.eventId
             sessionIdHash := cfg.fingerprint request.sessionId
             userIdHash := cfg.fingerprint call.identity.userId
             agentIdHash := cfg.fingerprint request.agentId
             eventEpoch := epoch
             cutoverWatermark := watermark }] })
  | _, _ => return false

def quarantined (request : AgentEventRequest) : AgentEventCompatResponse :=
  { eventId := request.eventId
    sessionId := request.sessionId
    accepted := false
    routeRequired := false }

def isExpectedPlan (request : AgentEventRequest) (plan : Plan) : Bool :=
  truthy request.stepId && plan.currentStepId = request.stepId &&
  some plan.stateVersion = request.expectedStateVersion && plan.status.isActive

/-- `canonical_plan`. -/
def canonicalPlan (call : Call) : Handler (Option Plan) :=
  match call.request.planId.filter (· ≠ "") with
  | none => return none
  | some planId => do
    let plan ← operation fun s =>
      (getPlan planId call.identity.tenantId call.identity.userId s.stores, s)
    ofExcept plan

def planConflict (request : AgentEventRequest) (plan : Option Plan) :
    Option AgentEventCompatResponse :=
  if plan.any (isExpectedPlan request) then none
  else
    some
      { eventId := request.eventId
        sessionId := request.sessionId
        accepted := false
        duplicate := true
        routeRequired := false
        conflict := some true
        plan }

/-- mirrors host_adapters/oac/api/central.py:58-91 -/
def planEventConflictResponse (call : Call) : Handler (Option AgentEventCompatResponse) := do
  if call.request.expectedStateVersion = none then return none
  else
    let plan ← canonicalPlan call
    return planConflict call.request plan

/-! ## The commands -/

def eventCommand (call : Call) (record : ExecutionTicketRecord) :
    Except StoreError DelegatedRunEventCommand :=
  let request := call.request
  let claims := record.claims
  if h : ([request.eventId, claims.runId, claims.turnId, call.identity.tenantId,
        call.identity.userId, request.agentId].all isIdentifier = true ∧
      [request.planId, request.stepId].all isOptionalIdentifier = true) ∧
      1 ≤ record.runStateVersion then
    .ok
      { eventId := request.eventId
        runId := claims.runId
        turnId := claims.turnId
        tenantId := call.identity.tenantId
        userId := call.identity.userId
        agentId := request.agentId
        planId := request.planId
        stepId := request.stepId
        expectedStateVersion := record.runStateVersion
        occurredAt := call.occurredAt
        identifiers := h.1.1
        optionals := h.1.2
        version := h.2 }
  else .error (.validationError "DelegatedRunEventCommand")

/-- The command is an `agent_progress`, which `blocked` conflicts with.
mirrors host_adapters/oac/api/central.py:381-398 -/
def progressCommand (call : Call) (record : ExecutionTicketRecord) :
    Except StoreError DelegatedRunProgressCommand := do
  let common ← eventCommand call record
  if call.request.status = .blocked then
    .error (.validationError "status=blocked conflicts with event_type=agent_progress")
  else
    .ok
      { toDelegatedRunEventCommand := common
        eventType := .agentProgress
        sequence := record.eventSequence + 1
        status := .running
        payload := [("message", .str call.request.message), ("output", call.request.output.json)]
        progressType := agentProgress_progress
        sequencePos := Nat.le_add_left 1 _
        eventStatus := rfl }

/-- `request.result_ref or f"result_{request.event_id}"`. -/
def resultId (request : AgentEventRequest) : String :=
  (request.resultRef.filter (· ≠ "")).getD ("result_" ++ request.eventId)

/-- mirrors host_adapters/oac/api/central.py:440-460 -/
def completeCommand (call : Call) (record : ExecutionTicketRecord) :
    Except StoreError DelegatedRunCompleteCommand := do
  let request := call.request
  let common ← eventCommand call record
  if h : (isIdentifier (resultId request) = true ∧ request.message.length ≤ 20000) ∧
      request.artifactRefs.length ≤ 50 then
    .ok
      { toDelegatedRunEventCommand := common
        resultId := resultId request
        responseText := request.message
        output := match request.output with
          | .object fields => some fields
          | .text _ | .none => none
        artifactRefs := request.artifactRefs.map fun item =>
          [("artifact_id", .str item), ("uri", .str item)]
        resultIdentifier := h.1.1
        responseLength := h.1.2
        artifactCount := by simpa using h.2 }
  else .error (.validationError "DelegatedRunCompleteCommand")

def providerErrorCodes : List String :=
  ["workflow_empty_result", "workflow_execution_failed", "workflow_request_failed",
    "workflow_unavailable"]

/-- An object or an array has no hash to look it up in a set by.
mirrors host_adapters/oac/api/central.py:880-890 -/
def safeProviderErrorCode : EventOutput → Except StoreError String
  | .object fields =>
    match Json.field fields "error_code" with
    | some (.str code) =>
      if code ∈ providerErrorCodes then .ok code else .ok "provider_execution_failed"
    | some (.arr _) => .error (.typeError "unhashable type: 'list'")
    | some (.obj _) => .error (.typeError "unhashable type: 'dict'")
    | some _ | none => .ok "provider_execution_failed"
  | .text _ | .none => .ok "provider_execution_failed"

/-- mirrors host_adapters/oac/api/central.py:509-522 -/
def failCommand (call : Call) (record : ExecutionTicketRecord) :
    Except StoreError DelegatedRunFailCommand := do
  let code ← safeProviderErrorCode call.request.output
  let common ← eventCommand call record
  return { toDelegatedRunEventCommand := common, error := [("code", .str code)] }

/-- mirrors host_adapters/oac/mappers/central.py:107-137 -/
def agentEventToNative (call : Call) (claims : ExecutionTicketClaims) :
    Except StoreError AgentEvent :=
  let request := call.request
  AgentEvent.validate
    { eventId := request.eventId
      runId := some claims.runId
      requestId := some claims.requestId
      sessionId := request.sessionId
      agentId := request.agentId
      userId := some call.identity.userId
      tenantId := some call.identity.tenantId
      turnId := some claims.turnId
      eventType := request.eventType
      status := some request.status
      planId := request.planId
      stepId := request.stepId
      sequence := none
      runStateVersion := none
      payload :=
        [("message", .str request.message),
          ("output", match request.output with
            | .object fields => .obj fields
            | output => .obj [("value", output.json)]),
          ("artifact_refs", .arr (request.artifactRefs.map .str)),
          ("result_ref", match request.resultRef with
            | some ref => .str ref
            | none => .null)]
      createdAt := request.createdAt }

/-! ## The handler -/

inductive Branch where
  | progress | completion | failure | other
  deriving DecidableEq

def branch (request : AgentEventRequest) : Branch :=
  if request.eventType = .agentProgress || (request.eventType ≠ .agentError &&
      (request.status = .running || request.status = .blocked)) then .progress
  else if request.status = .completed then .completion
  else if request.eventType = .agentError || request.status = .failed then .failure
  else .other

/-- The query by which the ticket of an event that carries none is looked up; its
fields have passed their constraints. -/
def correlationQuery (call : Call) : Except StoreError LegacyExecutionCorrelationQuery :=
  let request := call.request
  let identity := call.identity
  if [identity.tenantId, identity.userId, request.agentId, request.eventId].all isIdentifier &&
      [request.planId, request.stepId].all isOptionalIdentifier then
    .ok
      { tenantId := identity.tenantId
        userId := identity.userId
        requestId := none
        agentId := request.agentId
        planId := request.planId
        stepId := request.stepId
        eventId := request.eventId
        purpose := "agent_event"
        now := call.correlatedAt }
  else .error (.validationError "LegacyExecutionCorrelationQuery")

/-- The claim of the ticket of a request: by the ticket at the clock of the server,
or by correlation at the time the request gives. -/
def claimReply (cfg : Config) (call : Call) : Handler TicketReply :=
  match call.rawTicket with
  | some ticket =>
    onTickets <| claim cfg.tickets ticket call.identity.tenantId call.identity.userId "agent_event"
      call.owner cfg.executionTicketLeaseSeconds call.readings.handledAt call.readings.leaseToken
  | none => do
    let query ← ofExcept (correlationQuery call)
    onTickets <| claimLegacy query call.owner cfg.executionTicketLeaseSeconds
      call.readings.leaseToken

def claimTicket (cfg : Config) (call : Call) : Handler ExecutionTicketRecord := do
  let reply ← claimReply cfg call
  match reply with
  | .claim record _ => return record
  | _ => throw (.raised (.ticket (.executionTicketError "Invalid execution ticket")))

/-- The call that ends a claim, by the ticket or by its hash; a consumed ticket
has no lease token, and nothing is called. -/
def settle (cfg : Config) (call : Call) (record : ExecutionTicketRecord)
    (ends : String → String → TicketProg) : Handler Unit := do
  match record.leaseToken.filter (· ≠ "") with
  | none => return
  | some leaseToken =>
    let _ ← onTickets (ends ((call.rawTicket.map cfg.tickets.digest).getD record.ticketHash) leaseToken)

def release (cfg : Config) (call : Call) (record : ExecutionTicketRecord)
    (runStateVersion eventSequence : Nat) : Handler Unit :=
  settle cfg call record fun ticketHash leaseToken =>
    releaseAfterProgress cfg.tickets ticketHash call.owner leaseToken runStateVersion eventSequence
      call.occurredAt

def consumeTicket (cfg : Config) (call : Call) (record : ExecutionTicketRecord) : Handler Unit :=
  settle cfg call record fun ticketHash leaseToken =>
    consume cfg.tickets ticketHash call.request.eventId call.owner leaseToken call.occurredAt

def accepted (request : AgentEventRequest) (duplicate : Bool) : AgentEventCompatResponse :=
  { eventId := request.eventId
    sessionId := request.sessionId
    accepted := true
    duplicate
    routeRequired := true }

def conclude (cfg : Config) (call : Call) (record : ExecutionTicketRecord) (command : AgentCommand) :
    Handler AgentEventCompatResponse := do
  let result ← onRuns call.readings.generated command
  consumeTicket cfg call record
  return accepted call.request result.duplicate

def apply (cfg : Config) (call : Call) (record : ExecutionTicketRecord) :
    Handler AgentEventCompatResponse := do
  match branch call.request with
  | .progress =>
    let command ← ofExcept (progressCommand call record)
    let result ← onRuns call.readings.generated (.progress command)
    release cfg call record result.run.stateVersion (record.eventSequence + 1)
    return accepted call.request result.duplicate
  | .completion =>
    let command ← ofExcept (completeCommand call record)
    conclude cfg call record (.complete command)
  | .failure =>
    let command ← ofExcept (failCommand call record)
    conclude cfg call record (.fail command)
  | .other =>
    let native ← ofExcept (agentEventToNative call record.claims)
    let recorded ← operation fun s =>
      let (reply, stores) := recordAgentEvent call.readings.generated.stamp native s.stores
      (reply, { s with stores })
    let duplicate ← ofExcept recorded
    consumeTicket cfg call record
    return accepted call.request duplicate

/-- What stands in the `try`. -/
def handle (cfg : Config) (call : Call) : Handler AgentEventCompatResponse := do
  let record ← claimTicket cfg call
  let legacy ← quarantineIfLegacy cfg call (some record.claims.expiresAt)
  if legacy then return quarantined call.request
  else apply cfg call record

/-- `except (ExecutionTicketError, ValueError)`. -/
def onError (call : Call) : HostError → Handler AgentEventCompatResponse
  | .raised raised => do
    if raised.isValueError then
      match ← planEventConflictResponse call with
      | some conflict => return conflict
      | none => throw (.conflict raised)
    else throw (.raised raised)
  | e => throw e

/-- mirrors host_adapters/oac/api/central.py:295-645 -/
def agentEvent (cfg : Config) (call : Call) : Handler AgentEventCompatResponse := do
  if !mayWriteRuntime call.identity then throw .forbidden
  else
    let legacy ← quarantineIfLegacy cfg call none
    if legacy then return quarantined call.request
    else
      match ← planEventConflictResponse call with
      | some conflict => return conflict
      | none => tryCatch (handle cfg call) (onError call)

end OpenIntentRouter.HostAdapters.Central
