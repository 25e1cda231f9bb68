import OpenIntentRouter.Services.MemoryCandidatePolicy
import OpenIntentRouter.Services.PlanService

/-!
# The projection of structured events

`StructuredEventProjector` makes candidates of plans, runs and results: one for
the object, and one for every artifact of a result. Its candidates are evidence
of their own event, certain and canonical.

`projectPlan_ok`, `projectRun_ok` and `projectResult_ok` say of a projection that
does not raise that each of its candidates names its object and its owner.
-/
namespace OpenIntentRouter.Services

open Core Core.Except Core.Text Schemas

/-- What `urlsplit` returns; reading a port that is not a number raises. -/
structure SplitUrl where
  scheme : String
  netloc : String
  path : String
  hostname : Option String
  port : Except StoreError (Option Nat)

/-- mirrors app/schemas/common.py:121-126 -/
structure ArtifactRef where
  artifactId : String
  type : String
  uri : String
  title : Option String
  deriving DecidableEq

structure StructuredEventProjector where
  py : Python
  isoformat : Instant → String
  urlsplit : String → Except StoreError SplitUrl
  urlunsplit : (scheme netloc path : String) → String

/-- mirrors app/services/structured_event_projector.py:32-43 -/
structure StructuredProjection where
  sourceType : String
  sourceId : String
  sourceVersion : String
  eventId : String
  tenantId : String
  userId : String
  idempotencyKey : String
  canonicalRefs : List String
  candidates : List FormationCandidate

/-- mirrors app/services/structured_event_projector.py:26 -/
inductive PlanProjectionEvent where
  | create | update | confirm | cancel
  deriving DecidableEq

def PlanProjectionEvent.value : PlanProjectionEvent → String
  | .create => "create"
  | .update => "update"
  | .confirm => "confirm"
  | .cancel => "cancel"

/-- mirrors app/services/structured_event_projector.py:27 -/
inductive RunProjectionEvent where
  | create | update | complete | fail
  deriving DecidableEq

def RunProjectionEvent.value : RunProjectionEvent → String
  | .create => "create"
  | .update => "update"
  | .complete => "complete"
  | .fail => "fail"

/-- mirrors app/services/memory_formation.py:702-711 -/
def structuredEventIdempotencyKey (py : Python)
    (tenantId userId sourceType sourceId sourceVersion : String) : String :=
  "structured-event:" ++ py.sha256 (String.intercalate "\x1f"
    [tenantId, userId, sourceType, sourceId, sourceVersion])

variable {version eventId tenantId userId : String} {modelSummary : Option Json} {run : AgentRun}
  {eventType : PlanProjectionEvent} {lastActivityAt : Instant}

namespace StructuredEventProjector

/-! ## Bounds and checks -/

/-- mirrors app/services/structured_event_projector.py:620-621 -/
def bounded (value : String) (limit : Nat) : String :=
  if value.length ≤ limit then value else String.ofList (value.toList.take limit)

/-- mirrors app/services/structured_event_projector.py:624-626 -/
def requireIdentifier (value field : String) : Except StoreError Unit :=
  Except.ensure (!(value = "" || strip value = "" || 128 < value.length))
    (.valueError (field ++ " must be a non-empty identifier of at most 128 characters"))

/-- mirrors app/services/structured_event_projector.py:629-631 -/
def requireOptionalIdentifier (value : Option String) (field : String) : Except StoreError Unit :=
  match value with
  | some value => requireIdentifier value field
  | none => .ok ()

/-- mirrors app/services/structured_event_projector.py:398-403 -/
def requireOwner (tenantId userId : Option String) (objectType : String) :
    Except StoreError (String × String) :=
  match tenantId, userId with
  | some tenantId, some userId =>
    if tenantId = "" || strip tenantId = "" || userId = "" || strip userId = "" then
      .error (.valueError (objectType ++ " projection requires stored tenant/user ownership"))
    else if 128 < tenantId.length || 128 < userId.length then
      .error (.valueError (objectType ++ " projection ownership exceeds 128 characters"))
    else .ok (tenantId, userId)
  | _, _ => .error (.valueError (objectType ++ " projection requires stored tenant/user ownership"))

def referenceId (ref : JsonDict) : String :=
  match Json.field ref "artifact_id" with
  | some (.str artifactId) => artifactId
  | _ => ""

/-- mirrors app/services/structured_event_projector.py:412-422 -/
def validatePlanIdentifiers (plan : Plan) : Except StoreError Unit := do
  requireIdentifier plan.planId "plan_id"
  requireOptionalIdentifier plan.sessionId "session_id"
  requireOptionalIdentifier plan.currentStepId "current_step_id"
  plan.steps.forM fun step => do
    requireIdentifier step.stepId "step_id"
    requireIdentifier step.agentId "step agent_id"
    step.dependsOn.forM (requireIdentifier · "step dependency")
    step.artifactRefs.forM fun ref => requireIdentifier (referenceId ref) "step artifact_id"

/-- mirrors app/services/structured_event_projector.py:406-409 -/
def validatePlanEvent (plan : Plan) (eventType : PlanProjectionEvent) : Except StoreError Unit :=
  let required := fun expected : PlanStatus =>
    Except.ensure (plan.status = expected)
      (.valueError ("Plan " ++ eventType.value ++ " projection requires status=" ++
        statusText expected))
  match eventType with
  | .confirm => required .running
  | .cancel => required .cancelled
  | .create | .update => .ok ()

/-- mirrors app/services/structured_event_projector.py:425-431 -/
def validateRunIdentifiers (run : AgentRun) : Except StoreError Unit := do
  requireIdentifier run.runId "run_id"
  requireOptionalIdentifier run.requestId "request_id"
  requireIdentifier run.sessionId "session_id"
  requireIdentifier run.agentId "agent_id"
  requireOptionalIdentifier run.planId "plan_id"
  requireOptionalIdentifier run.stepId "step_id"

/-- mirrors app/services/structured_event_projector.py:434-438 -/
def validateRunEvent (run : AgentRun) (eventType : RunProjectionEvent) : Except StoreError Unit :=
  match eventType with
  | .complete => Except.ensure (run.status = .completed)
      (.valueError "Run complete projection requires status=completed")
  | .fail => Except.ensure (run.status = .failed || run.status = .invalidOutput)
      (.valueError "Run fail projection requires a failed status")
  | .create | .update => .ok ()

/-- mirrors app/services/structured_event_projector.py:441-456 -/
def validateResultAssociation (result : AgentResult) (run : AgentRun) : Except StoreError Unit := do
  Except.ensure
    (result.runId = run.runId && result.sessionId = run.sessionId && result.agentId = run.agentId &&
      truthy result.tenantId && truthy result.userId && result.tenantId = run.tenantId &&
      result.userId = run.userId)
    (.valueError "Result does not belong to the canonical Run")
  Except.ensure (result.planId = none || result.planId = run.planId)
    (.valueError "Result plan relationship differs from the canonical Run")
  Except.ensure (result.stepId = none || result.stepId = run.stepId)
    (.valueError "Result step relationship differs from the canonical Run")

/-! ## Summaries -/

/-- mirrors app/services/structured_event_projector.py:524-529 -/
def summary : Option Json → String
  | some (.str value) => bounded value 1000
  | some (.obj value) =>
    match Json.field value "summary" with
    | some (.str value) => bounded value 1000
    | _ => ""
  | _ => ""

/-- mirrors app/services/structured_event_projector.py:532-539 -/
def resultSummary (output : Option JsonDict) : String :=
  let texts := ["summary", "message", "title"].filterMap fun key =>
    match Json.field (output.getD []) key with
    | some (.str value) => some value
    | _ => none
  match texts with
  | value :: _ => bounded value 1000
  | [] => ""

variable (projector : StructuredEventProjector)

/-- mirrors app/services/structured_event_projector.py:614-617 -/
def boundedRef (value : String) : String :=
  if value.length ≤ 500 then value else "sha256:" ++ projector.py.sha256 value

/-- mirrors app/services/structured_event_projector.py:603-611 -/
def boundedRefs (values : List String) : List String :=
  (values.map projector.boundedRef).eraseDups.take 50

/-- mirrors app/services/structured_event_projector.py:597-598 -/
def canonicalRefs (values : List (Option String)) : List String :=
  projector.boundedRefs (values.filterMap fun value => value.filter (· ≠ ""))

/-- mirrors app/services/structured_event_projector.py:573-587 -/
def memoryKey (tenantId userId objectType objectId slot : String) : Except StoreError String :=
  let value := String.intercalate ":"
    ["tenant", keySegment projector.py "tenant" tenantId, "user",
      keySegment projector.py "user" userId, objectType,
      keySegment projector.py objectType objectId, slot]
  if 512 < value.length then
    .error (.valueError "structured projection memory_key exceeds 512 characters")
  else .ok value

/-! ## Candidates -/

/-- The arguments of `_candidate`. A key of a Python `dict` occurs once. -/
structure CandidateArguments where
  sourceType : String
  sourceId : String
  sourceVersion : String
  slot : String
  operation : MemoryCandidateOperation
  scope : String
  memoryKey : String
  tenantId : String
  userId : String
  content : String
  structuredValue : JsonDict
  eventId : String
  structuredValue_keys : (Json.obj structuredValue).distinctKeys = true

/-- mirrors app/services/structured_event_projector.py:389-395 -/
def semanticProjectionValue (sourceType : String) (structuredValue : JsonDict) : Json :=
  if sourceType = "artifact" then artifactValue structuredValue
  else (Json.field structuredValue "status").getD .null

def projectedSemantics (arguments : CandidateArguments) : MemoryCandidateSemantics where
  target := if arguments.sourceType = "artifact" then .artifact else .task
  slot := arguments.slot
  value := semanticProjectionValue arguments.sourceType arguments.structuredValue
  temporalScope := .canonical
  polarity := .affirmed
  certainty := .certain
  changeIntent := if arguments.operation = .add then .set else .replace

/-- The candidate of arguments that pass the checks. -/
def madeCandidate (arguments : CandidateArguments) (h : strip arguments.content ≠ "") :
    FormationCandidate :=
  let identity := String.intercalate "\x1f"
    [arguments.tenantId, arguments.userId, arguments.sourceType, arguments.sourceId,
      arguments.sourceVersion, arguments.slot]
  { candidateId := "mfc_struct_" ++ String.ofList ((projector.py.sha256 identity).toList.take 32)
    proposedOperation := arguments.operation
    scope := arguments.scope
    content := arguments.content
    structuredValue := arguments.structuredValue
    semantic := some (projectedSemantics arguments)
    subjectType := "user"
    subjectIdHint := some arguments.userId
    tenantIdHint := some arguments.tenantId
    memoryKeyHint := some arguments.memoryKey
    targetMemoryId := none
    confidence := 1
    importance := 4 / 5
    sensitivity := "normal"
    evidenceRefs :=
      [{ turnId := none, eventId := some arguments.eventId, role := .canonical, quote := none,
         contentHash := none }]
    reason := "authoritative_" ++ arguments.sourceType ++ "_" ++ arguments.slot ++ "_projection"
    content_not_blank := fun hempty => h (by rw [hempty]; decide)
    structuredValue_keys := arguments.structuredValue_keys
    confidence_unit := unit_one
    importance_unit := by decide +kernel }

/-- mirrors app/services/structured_event_projector.py:339-386 (`_candidate`), with the checks
of `MemoryFormationCandidate` and `MemoryEvidenceRef` that an argument can fail -/
def candidate (arguments : CandidateArguments) : Except StoreError FormationCandidate :=
  if arguments.eventId = "" || 128 < arguments.eventId.length then
    .error (.validationError "MemoryEvidenceRef.event_id")
  else if h : strip arguments.content = "" then
    .error (.validationError "candidate content must not be blank")
  else if 8192 < (utf8 (compactDumps projector.py (.obj arguments.structuredValue))).length then
    .error (.validationError "candidate structured_value exceeds 8192 bytes")
  else .ok (projector.madeCandidate arguments h)

/-- mirrors app/services/structured_event_projector.py:303-336 -/
def projection (sourceType sourceId sourceVersion eventId tenantId userId : String)
    (refs : List String) (candidates : List FormationCandidate) :
    Except StoreError StructuredProjection := do
  requireIdentifier eventId "event_id"
  requireIdentifier sourceId "source_id"
  requireIdentifier sourceVersion "source_version"
  return {
    sourceType := sourceType
    sourceId := sourceId
    sourceVersion := sourceVersion
    eventId := eventId
    tenantId := tenantId
    userId := userId
    idempotencyKey :=
      structuredEventIdempotencyKey projector.py tenantId userId sourceType sourceId sourceVersion
    canonicalRefs := projector.boundedRefs refs
    candidates := candidates }

def projectedOperation (creates : Bool) : MemoryCandidateOperation :=
  if creates then .add else .update

/-! ## Plans -/

/-- The test `plan.status in _TERMINAL_PLAN_STATUSES`. -/
def terminalPlan (plan : Plan) : Bool := !plan.status.isActive

/-- mirrors app/services/structured_event_projector.py:459-471 -/
def currentStep (plan : Plan) : Option PlanStep :=
  let named := plan.steps.find? fun step => some step.stepId = plan.currentStepId
  if terminalPlan plan then named
  else named.or (plan.steps.find? fun step => step.status.isActive)

/-- `step is current` is the identity of the step, which its id tells.
mirrors app/services/structured_event_projector.py:474-483 (`_next_step`) -/
def nextStep (plan : Plan) (current : Option PlanStep) : Option PlanStep :=
  if terminalPlan plan then none
  else
    let completed := (plan.steps.filter (·.status = .completed)).map (·.stepId)
    plan.steps.find? fun step =>
      current.all (·.stepId ≠ step.stepId) && step.status = .pending &&
        step.dependsOn.all completed.contains

/-- mirrors app/services/structured_event_projector.py:486-496 -/
def stepProjection : Option PlanStep → Json
  | none => .null
  | some step => .obj
    [("step_id", .str step.stepId), ("agent_id", .str step.agentId),
      ("description", .str (bounded step.description 300)), ("status", .str (statusText step.status)),
      ("depends_on", .arr ((projector.boundedRefs step.dependsOn).map .str)),
      ("artifact_refs", .arr ((projector.boundedRefs (step.artifactRefs.map referenceId)).map .str))]

/-- `f"{label}={step_id}:{status}:{description}"` -/
def stepContent (label : String) (step : PlanStep) : String :=
  label ++ "=" ++ step.stepId ++ ":" ++ statusText step.status ++ ":" ++ bounded step.description 300

/-- mirrors app/services/structured_event_projector.py:499-521 -/
def planContent (plan : Plan) (current next : Option PlanStep) (summary : String)
    (lastActivityAt : Instant) : String :=
  bounded (String.intercalate "; "
    (["Plan " ++ plan.planId ++ " status=" ++ statusText plan.status,
        "last_activity_at=" ++ projector.isoformat lastActivityAt] ++
      (current.map (stepContent "current")).toList ++ (next.map (stepContent "next")).toList ++
      if summary = "" then [] else [summary])) 1000

def planValue (plan : Plan) (eventType : PlanProjectionEvent) (lastActivityAt : Instant)
    (summary : String) : JsonDict :=
  let current := currentStep plan
  [("object_type", .str "plan"), ("plan_id", .str plan.planId), ("tenant_id", .str plan.tenantId),
    ("user_id", .str plan.userId), ("session_id", optionJson plan.sessionId),
    ("status", .str (statusText plan.status)), ("current_step", projector.stepProjection current),
    ("next_step", projector.stepProjection (nextStep plan current)),
    ("event_type", .str eventType.value),
    ("last_activity_at", .str (projector.isoformat lastActivityAt)), ("summary", .str summary)]

theorem distinctKeys_stepProjection (step : Option PlanStep) :
    (projector.stepProjection step).distinctKeys = true := by
  cases step with
  | none => rfl
  | some step =>
    refine Json.distinctKeys_obj.2 ⟨by simp, ?_⟩
    simp [MemoryLifecycleService.distinctKeys_strings]

theorem distinctKeys_planValue (plan : Plan) (eventType : PlanProjectionEvent)
    (lastActivityAt : Instant) (summary : String) :
    (Json.obj (projector.planValue plan eventType lastActivityAt summary)).distinctKeys = true := by
  refine Json.distinctKeys_obj.2 ⟨by simp [planValue], ?_⟩
  simp [planValue, distinctKeys_stepProjection, MemoryLifecycleService.distinctKeys_optionJson]

/-- mirrors app/services/structured_event_projector.py:47-110 -/
def projectPlan (plan : Plan) (eventType : PlanProjectionEvent) (eventId sourceVersion : String)
    (lastActivityAt : Instant) (modelSummary : Option Json) :
    Except StoreError StructuredProjection := do
  let (tenantId, userId) ← requireOwner (some plan.tenantId) (some plan.userId) "Plan"
  validatePlanIdentifiers plan
  validatePlanEvent plan eventType
  let memoryKey ← projector.memoryKey tenantId userId "plan" plan.planId "task_status"
  let summary := summary modelSummary
  let current := currentStep plan
  let candidate ← projector.candidate {
    sourceType := "plan"
    sourceId := plan.planId
    sourceVersion := sourceVersion
    slot := "task_status"
    operation := projectedOperation (eventType = .create)
    scope := "task_memory"
    memoryKey := memoryKey
    tenantId := tenantId
    userId := userId
    content := projector.planContent plan current (nextStep plan current) summary lastActivityAt
    structuredValue := projector.planValue plan eventType lastActivityAt summary
    eventId := eventId
    structuredValue_keys := projector.distinctKeys_planValue plan eventType lastActivityAt summary }
  projector.projection "plan" plan.planId sourceVersion eventId tenantId userId
    (plan.planId :: (plan.sessionId.filter (· ≠ "")).toList) [candidate]

/-! ## Runs -/

def runFields (run : AgentRun) (tenantId userId : String) : JsonDict :=
  [("run_id", .str run.runId), ("request_id", optionJson run.requestId),
    ("session_id", .str run.sessionId), ("agent_id", .str run.agentId),
    ("tenant_id", .str tenantId), ("user_id", .str userId), ("plan_id", optionJson run.planId),
    ("step_id", optionJson run.stepId)]

def runValue (run : AgentRun) (tenantId userId : String) (eventType : RunProjectionEvent)
    (summary : String) : JsonDict :=
  ("object_type", .str "run") :: (runFields run tenantId userId ++
    [("status", .str (runStatusText run.status)), ("event_type", .str eventType.value),
      ("summary", .str summary)])

theorem distinctKeys_runValue (run : AgentRun) (tenantId userId : String)
    (eventType : RunProjectionEvent) (summary : String) :
    (Json.obj (runValue run tenantId userId eventType summary)).distinctKeys = true := by
  refine Json.distinctKeys_obj.2 ⟨by simp [runValue, runFields], ?_⟩
  simp [runValue, runFields, MemoryLifecycleService.distinctKeys_optionJson]

/-- `f"{label} {id} status={status}"`, with the summary if there is one. -/
def statusContent (label objectId : String) (status : RunStatus) (summary : String) : String :=
  bounded (label ++ " " ++ objectId ++ " status=" ++ runStatusText status ++
    if summary = "" then "" else ": " ++ summary) 1000

/-- mirrors app/services/structured_event_projector.py:112-172 -/
def projectRun (run : AgentRun) (eventType : RunProjectionEvent) (eventId sourceVersion : String)
    (modelSummary : Option Json) : Except StoreError StructuredProjection := do
  let (tenantId, userId) ← requireOwner run.tenantId run.userId "Run"
  validateRunIdentifiers run
  validateRunEvent run eventType
  let memoryKey ← projector.memoryKey tenantId userId "run" run.runId "execution_status"
  let summary := summary modelSummary
  let candidate ← projector.candidate {
    sourceType := "run"
    sourceId := run.runId
    sourceVersion := sourceVersion
    slot := "execution_status"
    operation := projectedOperation (eventType = .create)
    scope := "task_memory"
    memoryKey := memoryKey
    tenantId := tenantId
    userId := userId
    content := statusContent "Run" run.runId run.status summary
    structuredValue := runValue run tenantId userId eventType summary
    eventId := eventId
    structuredValue_keys := distinctKeys_runValue run tenantId userId eventType summary }
  projector.projection "run" run.runId sourceVersion eventId tenantId userId
    (projector.canonicalRefs
      [some run.runId, run.requestId, some run.sessionId, run.planId, run.stepId]) [candidate]

/-! ## Results and artifacts -/

/-- The checks of `ArtifactRef.model_validate`. -/
def validateArtifact (ref : JsonDict) : Except StoreError ArtifactRef :=
  let invalid : StoreError := .validationError "ArtifactRef"
  if !(ref.map Prod.fst).all ["artifact_id", "type", "uri", "title", "metadata"].contains then
    .error invalid
  else
    match Json.field ref "artifact_id", (Json.field ref "type").getD (.str "unknown"),
        Json.field ref "uri", (Json.field ref "title").getD .null,
        (Json.field ref "metadata").getD (.obj []) with
    | some (.str artifactId), .str type, some (.str uri), .null, .obj _ =>
      if artifactId = "" || uri = "" then .error invalid else .ok ⟨artifactId, type, uri, none⟩
    | some (.str artifactId), .str type, some (.str uri), .str title, .obj _ =>
      if artifactId = "" || uri = "" then .error invalid else .ok ⟨artifactId, type, uri, some title⟩
    | _, _, _, _, _ => .error invalid

def firstOfEach : List ArtifactRef → List String → List ArtifactRef
  | [], _ => []
  | artifact :: rest, seen =>
    if seen.contains artifact.artifactId then firstOfEach rest seen
    else artifact :: firstOfEach rest (artifact.artifactId :: seen)

/-- mirrors app/services/structured_event_projector.py:542-552 -/
def normalizedArtifacts (refs : List JsonDict) : Except StoreError (List ArtifactRef) := do
  let artifacts ← refs.mapM validateArtifact
  return (firstOfEach artifacts []).take 49

/-- mirrors app/services/structured_event_projector.py:555-570 -/
def normalizedUri (value : String) : Except StoreError String := do
  let parsed ← projector.urlsplit value
  let netloc ← cleanNetloc parsed
  let value := projector.urlunsplit parsed.scheme netloc parsed.path
  Except.ensure (value ≠ "") (.valueError "Artifact URI has no stable reference after redaction")
  return projector.boundedRef value
where
  /-- The network location without the user and the password. -/
  cleanNetloc (parsed : SplitUrl) : Except StoreError String :=
    if parsed.netloc = "" then .ok ""
    else
      let hostname := parsed.hostname.getD ""
      let hostname :=
        if containsText ":" hostname && !hostname.startsWith "[" then "[" ++ hostname ++ "]"
        else hostname
      match parsed.port with
      | .error _ => .error (.valueError "Artifact URI has an invalid port")
      | .ok (some port) => .ok (hostname ++ ":" ++ toString port)
      | .ok none => .ok hostname

def resultValue (result : AgentResult) (run : AgentRun) (tenantId userId summary : String) :
    JsonDict :=
  [("object_type", .str "result"), ("result_id", .str result.resultId)] ++
    runFields run tenantId userId ++
    [("status", .str (runStatusText result.status)), ("summary", .str summary)]

/-- The structured value of an artifact; `uri` is normalized. -/
def artifactFields (artifact : ArtifactRef) (uri : String) (result : AgentResult) (run : AgentRun)
    (tenantId userId : String) : JsonDict :=
  [("object_type", .str "artifact"), ("artifact_id", .str artifact.artifactId),
    ("type", .str (bounded artifact.type 64)), ("uri", .str uri),
    ("title", optionJson ((some (bounded (artifact.title.getD "") 200)).filter (· ≠ ""))),
    ("result_id", .str result.resultId)] ++ runFields run tenantId userId ++
    [("result_status", .str (runStatusText result.status))]

theorem distinctKeys_resultValue (result : AgentResult) (run : AgentRun)
    (tenantId userId summary : String) :
    (Json.obj (resultValue result run tenantId userId summary)).distinctKeys = true := by
  refine Json.distinctKeys_obj.2 ⟨by simp [resultValue, runFields], ?_⟩
  simp [resultValue, runFields, MemoryLifecycleService.distinctKeys_optionJson]

theorem distinctKeys_artifactFields (artifact : ArtifactRef) (uri : String) (result : AgentResult)
    (run : AgentRun) (tenantId userId : String) :
    (Json.obj (artifactFields artifact uri result run tenantId userId)).distinctKeys = true := by
  refine Json.distinctKeys_obj.2 ⟨by simp [artifactFields, runFields], ?_⟩
  simp [artifactFields, runFields, MemoryLifecycleService.distinctKeys_optionJson]

/-- mirrors app/services/structured_event_projector.py:252-300 -/
def artifactCandidate (artifact : ArtifactRef) (result : AgentResult) (run : AgentRun)
    (tenantId userId eventId sourceVersion : String) : Except StoreError FormationCandidate := do
  requireIdentifier artifact.artifactId "artifact_id"
  let uri ← projector.normalizedUri artifact.uri
  let memoryKey ← projector.memoryKey tenantId userId "artifact" artifact.artifactId "reference"
  let title := (artifact.title.filter (· ≠ "")).getD artifact.type
  projector.candidate {
    sourceType := "artifact"
    sourceId := result.resultId ++ ":" ++ artifact.artifactId
    sourceVersion := sourceVersion
    slot := "reference"
    operation := .add
    scope := "artifact_reference"
    memoryKey := memoryKey
    tenantId := tenantId
    userId := userId
    content := bounded ("Artifact " ++ artifact.artifactId ++ ": " ++ title) 1000
    structuredValue := artifactFields artifact uri result run tenantId userId
    eventId := eventId
    structuredValue_keys := distinctKeys_artifactFields artifact uri result run tenantId userId }

/-- mirrors app/services/structured_event_projector.py:174-250 -/
def projectResult (result : AgentResult) (run : AgentRun) (eventId sourceVersion : String)
    (modelSummary : Option Json) : Except StoreError StructuredProjection := do
  let (tenantId, userId) ← requireOwner run.tenantId run.userId "Run"
  validateRunIdentifiers run
  requireIdentifier result.resultId "result_id"
  validateResultAssociation result run
  let given := summary modelSummary
  let summary := if given = "" then resultSummary result.output else given
  let memoryKey ← projector.memoryKey tenantId userId "result" result.resultId "result_status"
  let candidate ← projector.candidate {
    sourceType := "result"
    sourceId := result.resultId
    sourceVersion := sourceVersion
    slot := "result_status"
    operation := .add
    scope := "task_memory"
    memoryKey := memoryKey
    tenantId := tenantId
    userId := userId
    content := statusContent "Result" result.resultId result.status summary
    structuredValue := resultValue result run tenantId userId summary
    eventId := eventId
    structuredValue_keys := distinctKeys_resultValue result run tenantId userId summary }
  let artifacts ← normalizedArtifacts result.artifactRefs
  let candidates ← artifacts.mapM fun artifact =>
    projector.artifactCandidate artifact result run tenantId userId eventId sourceVersion
  projector.projection "result" result.resultId sourceVersion eventId tenantId userId
    (projector.canonicalRefs
      ([some result.resultId, some run.runId, run.requestId, some run.sessionId, run.planId,
        run.stepId] ++ artifacts.map fun artifact => some artifact.artifactId))
    (candidate :: candidates)

/-! ## What is projected -/

variable {arguments : CandidateArguments}

section Projected

variable {projector : StructuredEventProjector}

/-- The object that the arguments of a candidate are about: its type and its id stand in the
structured value, and its key is the one of the candidate. -/
structure NamesObject (projector : StructuredEventProjector) (arguments : CandidateArguments)
    (idField objectId : String) : Prop where
  contract : canonicalContract arguments.scope (some (.str arguments.sourceType)) =
    some (arguments.sourceType, idField, arguments.slot)
  type : Json.field arguments.structuredValue "object_type" = some (.str arguments.sourceType)
  id : Json.field arguments.structuredValue idField = some (.str objectId)
  identifier : strip objectId ≠ "" ∧ objectId.length ≤ 128
  memoryKey : projector.memoryKey arguments.tenantId arguments.userId arguments.sourceType objectId
    arguments.slot = .ok arguments.memoryKey

structure ValidArguments (projector : StructuredEventProjector) (arguments : CandidateArguments) :
    Prop where
  object : ∃ idField objectId, NamesObject projector arguments idField objectId
  operation : arguments.operation = .add ∨ arguments.operation = .update
  tenant : Json.field arguments.structuredValue "tenant_id" = some (.str arguments.tenantId)
  user : Json.field arguments.structuredValue "user_id" = some (.str arguments.userId)
  slot : Json.field arguments.structuredValue "slot" = none
  privacy : Json.field arguments.structuredValue "privacy_subject" = none

/-- A projection: every candidate is made of valid arguments, with the owner and the event of
the projection. -/
structure ValidProjection (projector : StructuredEventProjector)
    (projection : StructuredProjection) : Prop where
  event : projection.eventId ≠ ""
  candidates : ∀ candidate ∈ projection.candidates, ∃ arguments : CandidateArguments,
    projector.candidate arguments = .ok candidate ∧ ValidArguments projector arguments ∧
    arguments.tenantId = projection.tenantId ∧ arguments.userId = projection.userId ∧
    arguments.eventId = projection.eventId

theorem requireIdentifier_ok {value field : String} {u : Unit}
    (h : requireIdentifier value field = .ok u) :
    value ≠ "" ∧ strip value ≠ "" ∧ value.length ≤ 128 := by
  have hc := ensure_eq_ok.1 h
  simpa [not_or, and_assoc] using hc

theorem projection_ok {sourceType sourceId : String} {refs : List String}
    {candidates : List FormationCandidate} {projection : StructuredProjection}
    (h : projector.projection sourceType sourceId version eventId tenantId userId refs candidates =
      .ok projection) :
    projection.eventId = eventId ∧ eventId ≠ "" ∧ projection.tenantId = tenantId ∧
      projection.userId = userId ∧ projection.sourceId = sourceId ∧
      projection.sourceVersion = version ∧ projection.candidates = candidates := by
  obtain ⟨_, hevent, h⟩ := bind_eq_ok.1 h
  obtain ⟨_, -, h⟩ := bind_eq_ok.1 h
  obtain ⟨_, -, h⟩ := bind_eq_ok.1 h
  cases h
  exact ⟨rfl, (requireIdentifier_ok hevent).1, rfl, rfl, rfl, rfl, rfl⟩

theorem valid_single {sourceType sourceId : String} {refs : List String}
    {candidate : FormationCandidate} {projection : StructuredProjection}
    (h : projector.projection sourceType sourceId version eventId tenantId userId refs [candidate] =
      .ok projection) (hcandidate : projector.candidate arguments = .ok candidate)
    (hvalid : ValidArguments projector arguments)
    (howner : arguments.tenantId = tenantId ∧ arguments.userId = userId ∧
      arguments.eventId = eventId) : ValidProjection projector projection := by
  obtain ⟨hevent, hne, htenant, huser, -, -, hcandidates⟩ := projection_ok h
  refine ⟨hevent ▸ hne, fun c hc => ?_⟩
  rw [hcandidates, List.mem_singleton] at hc
  subst hc
  exact ⟨arguments, hcandidate, hvalid, howner.1.trans htenant.symm, howner.2.1.trans huser.symm,
    howner.2.2.trans hevent.symm⟩

theorem requireOwner_ok {tenantId' userId' objectType : String}
    (h : requireOwner (some tenantId) (some userId) objectType = .ok (tenantId', userId')) :
    tenantId' = tenantId ∧ userId' = userId := by
  unfold requireOwner at h
  dsimp only at h
  split_ifs at h
  cases h
  exact ⟨rfl, rfl⟩

theorem projectedOperation_cases (creates : Bool) :
    projectedOperation creates = .add ∨ projectedOperation creates = .update := by
  cases creates
  · exact .inr rfl
  · exact .inl rfl

theorem projectPlan_ok {plan : Plan} {projection : StructuredProjection}
    (h : projector.projectPlan plan eventType eventId version lastActivityAt modelSummary =
      .ok projection) : ValidProjection projector projection := by
  obtain ⟨⟨tenantId, userId⟩, howner, h⟩ := bind_eq_ok.1 h
  obtain ⟨rfl, rfl⟩ := requireOwner_ok howner
  obtain ⟨_, hidentifiers, h⟩ := bind_eq_ok.1 h
  obtain ⟨_, hid, -⟩ := bind_eq_ok.1 hidentifiers
  obtain ⟨_, -, h⟩ := bind_eq_ok.1 h
  obtain ⟨memoryKey, hkey, h⟩ := bind_eq_ok.1 h
  obtain ⟨candidate, hcandidate, h⟩ := bind_eq_ok.1 h
  refine valid_single h hcandidate ?_ ⟨rfl, rfl, rfl⟩
  exact
    { object := ⟨"plan_id", plan.planId, rfl, rfl, rfl, (requireIdentifier_ok hid).2, hkey⟩
      operation := projectedOperation_cases _
      tenant := rfl
      user := rfl
      slot := rfl
      privacy := rfl }

theorem projectRun_ok {eventType : RunProjectionEvent} {projection : StructuredProjection}
    (h : projector.projectRun run eventType eventId version modelSummary = .ok projection) :
    ValidProjection projector projection := by
  obtain ⟨⟨tenantId, userId⟩, -, h⟩ := bind_eq_ok.1 h
  obtain ⟨_, hidentifiers, h⟩ := bind_eq_ok.1 h
  obtain ⟨_, hid, -⟩ := bind_eq_ok.1 hidentifiers
  obtain ⟨_, -, h⟩ := bind_eq_ok.1 h
  obtain ⟨memoryKey, hkey, h⟩ := bind_eq_ok.1 h
  obtain ⟨candidate, hcandidate, h⟩ := bind_eq_ok.1 h
  refine valid_single h hcandidate ?_ ⟨rfl, rfl, rfl⟩
  exact
    { object := ⟨"run_id", run.runId, rfl, rfl, rfl, (requireIdentifier_ok hid).2, hkey⟩
      operation := projectedOperation_cases _
      tenant := rfl
      user := rfl
      slot := rfl
      privacy := rfl }

theorem candidate_ok {candidate : FormationCandidate}
    (h : projector.candidate arguments = .ok candidate) :
    candidate.memoryKeyHint = some arguments.memoryKey ∧ candidate.scope = arguments.scope ∧
      candidate.structuredValue = arguments.structuredValue := by
  unfold StructuredEventProjector.candidate at h
  split_ifs at h
  cases h
  exact ⟨rfl, rfl, rfl⟩

structure ProjectsOne (projection : StructuredProjection) (tenantId userId memoryKey : String)
    (structuredValue : JsonDict) (candidate : FormationCandidate) : Prop where
  tenant : projection.tenantId = tenantId
  user : projection.userId = userId
  only : projection.candidates = [candidate]
  key : candidate.memoryKeyHint = some memoryKey
  scope : candidate.scope = "task_memory"
  value : candidate.structuredValue = structuredValue

theorem projectPlan_one {plan : Plan} {projection : StructuredProjection}
    (h : projector.projectPlan plan eventType eventId version lastActivityAt modelSummary =
      .ok projection) :
    ∃ memoryKey candidate,
      projector.memoryKey plan.tenantId plan.userId "plan" plan.planId "task_status" =
        .ok memoryKey ∧
      ProjectsOne projection plan.tenantId plan.userId memoryKey
        (projector.planValue plan eventType lastActivityAt (summary modelSummary)) candidate := by
  obtain ⟨⟨tenantId, userId⟩, howner, h⟩ := bind_eq_ok.1 h
  obtain ⟨rfl, rfl⟩ := requireOwner_ok howner
  obtain ⟨_, -, h⟩ := bind_eq_ok.1 h
  obtain ⟨_, -, h⟩ := bind_eq_ok.1 h
  obtain ⟨memoryKey, hkey, h⟩ := bind_eq_ok.1 h
  obtain ⟨candidate, hcandidate, h⟩ := bind_eq_ok.1 h
  obtain ⟨-, -, htenant, huser, -, -, honly⟩ := projection_ok h
  obtain ⟨hhint, hscope, hvalue⟩ := candidate_ok hcandidate
  exact ⟨memoryKey, candidate, hkey, htenant, huser, honly, hhint, hscope, hvalue⟩

theorem projectRun_one {eventType : RunProjectionEvent} {projection : StructuredProjection}
    (htenant : run.tenantId = some tenantId) (huser : run.userId = some userId)
    (h : projector.projectRun run eventType eventId version modelSummary = .ok projection) :
    ∃ memoryKey candidate,
      projector.memoryKey tenantId userId "run" run.runId "execution_status" = .ok memoryKey ∧
      ProjectsOne projection tenantId userId memoryKey
        (runValue run tenantId userId eventType (summary modelSummary)) candidate := by
  obtain ⟨⟨tenantId, userId⟩, howner, h⟩ := bind_eq_ok.1 h
  rw [htenant, huser] at howner
  obtain ⟨rfl, rfl⟩ := requireOwner_ok howner
  obtain ⟨_, -, h⟩ := bind_eq_ok.1 h
  obtain ⟨_, -, h⟩ := bind_eq_ok.1 h
  obtain ⟨memoryKey, hkey, h⟩ := bind_eq_ok.1 h
  obtain ⟨candidate, hcandidate, h⟩ := bind_eq_ok.1 h
  obtain ⟨-, -, htenant, huser, -, -, honly⟩ := projection_ok h
  obtain ⟨hhint, hscope, hvalue⟩ := candidate_ok hcandidate
  exact ⟨memoryKey, candidate, hkey, htenant, huser, honly, hhint, hscope, hvalue⟩

theorem artifactCandidate_ok {artifact : ArtifactRef} {result : AgentResult}
    {candidate : FormationCandidate}
    (h : projector.artifactCandidate artifact result run tenantId userId eventId version =
      .ok candidate) :
    ∃ arguments : CandidateArguments, projector.candidate arguments = .ok candidate ∧
      ValidArguments projector arguments ∧ arguments.tenantId = tenantId ∧ arguments.userId = userId ∧
      arguments.eventId = eventId := by
  obtain ⟨_, hid, h⟩ := bind_eq_ok.1 h
  obtain ⟨uri, -, h⟩ := bind_eq_ok.1 h
  obtain ⟨memoryKey, hkey, h⟩ := bind_eq_ok.1 h
  refine ⟨_, h, ?_, rfl, rfl, rfl⟩
  exact
    { object := ⟨"artifact_id", artifact.artifactId, rfl, rfl, rfl, (requireIdentifier_ok hid).2,
        hkey⟩
      operation := .inl rfl
      tenant := rfl
      user := rfl
      slot := rfl
      privacy := rfl }

theorem projectResult_ok {result : AgentResult} {projection : StructuredProjection}
    (h : projector.projectResult result run eventId version modelSummary = .ok projection) :
    ValidProjection projector projection := by
  obtain ⟨⟨tenantId, userId⟩, -, h⟩ := bind_eq_ok.1 h
  obtain ⟨_, -, h⟩ := bind_eq_ok.1 h
  obtain ⟨_, hid, h⟩ := bind_eq_ok.1 h
  obtain ⟨_, -, h⟩ := bind_eq_ok.1 h
  obtain ⟨memoryKey, hkey, h⟩ := bind_eq_ok.1 h
  obtain ⟨candidate, hcandidate, h⟩ := bind_eq_ok.1 h
  obtain ⟨artifacts, -, h⟩ := bind_eq_ok.1 h
  obtain ⟨candidates, hartifacts, h⟩ := bind_eq_ok.1 h
  obtain ⟨hevent, hne, htenant, huser, -, -, hcandidates⟩ := projection_ok h
  refine ⟨hevent ▸ hne, fun c hc => ?_⟩
  rw [hcandidates, List.mem_cons] at hc
  rw [hevent, htenant, huser]
  rcases hc with rfl | hc
  · refine ⟨_, hcandidate, ?_, rfl, rfl, rfl⟩
    exact
      { object := ⟨"result_id", result.resultId, rfl, rfl, rfl, (requireIdentifier_ok hid).2, hkey⟩
        operation := .inl rfl
        tenant := rfl
        user := rfl
        slot := rfl
        privacy := rfl }
  · obtain ⟨artifact, -, hartifact⟩ := Except.mem_mapM hartifacts hc
    exact artifactCandidate_ok hartifact

end Projected

end StructuredEventProjector
end OpenIntentRouter.Services
