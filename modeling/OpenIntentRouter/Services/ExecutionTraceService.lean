import OpenIntentRouter.Core.Dict
import OpenIntentRouter.Core.Except
import OpenIntentRouter.Repositories.ExecutionTraces

/-!
# The execution trace service

`ExecutionTraceService.stream` as an iterator: it reads the events after its
cursor, hands them out one by one, moving the cursor, and reads again. Its
sleep between two reads that find nothing is not modelled.

`try_record` and `snapshot` with the two tables of gaps that an instance keeps.
`fails` says which appends of a call raise; such an append stores nothing. What
a snapshot adds from the canonical turn and the memory items is left out: it
does not change the completeness.
-/
namespace OpenIntentRouter.Services

open Core Schemas Repositories

/-- mirrors app/services/execution_trace_service.py:83-86 -/
def eventsAfter (tables : TraceTables) (query : ExecutionTraceQuery) (afterOffset : Int) :
    List ExecutionTraceEvent :=
  listEvents tables query afterOffset

/-- `events`: what is left of the last read; `yielded`: a ghost, what was handed out. -/
structure TraceStream where
  cursor : Int
  events : List ExecutionTraceEvent
  yielded : List ExecutionTraceEvent
  deriving DecidableEq

namespace TraceStream

/-- mirrors app/services/execution_trace_service.py:97 -/
def start (afterOffset : Int) : TraceStream := ⟨afterOffset, [], []⟩

/-- mirrors app/services/execution_trace_service.py:98-99; the loop reads again
only when everything is handed out -/
def poll (stream : TraceStream) (tables : TraceTables) (query : ExecutionTraceQuery) :
    Option TraceStream :=
  match stream.events with
  | [] => some { stream with events := eventsAfter tables query stream.cursor }
  | _ :: _ => none

/-- mirrors app/services/execution_trace_service.py:101-103 -/
def next (stream : TraceStream) : Option TraceStream :=
  match stream.events with
  | [] => none
  | event :: events => some ⟨event.eventOffset, events, stream.yielded ++ [event]⟩

end TraceStream

structure TraceFeed where
  tables : TraceTables
  stream : TraceStream
  deriving DecidableEq

inductive TraceStep where
  | statement (statement : TraceStatement)
  | poll
  | next
  deriving DecidableEq

namespace TraceFeed

def step (query : ExecutionTraceQuery) (feed : TraceFeed) : TraceStep → Option TraceFeed
  | .statement s => (feed.tables.statement s).map fun tables => { feed with tables }
  | .poll => (feed.stream.poll feed.tables query).map fun stream => { feed with stream }
  | .next => feed.stream.next.map fun stream => { feed with stream }

end TraceFeed

/-! ## Gaps -/

/-- mirrors app/services/execution_trace_service.py:24-27 -/
structure TraceGap where
  event : ExecutionTraceEventDraft
  failureId : String
  deriving DecidableEq

/-- What the service takes from Python: a digest, and `str` of a value that is not a string. -/
structure TraceTools where
  sha256 : String → String
  str : Json → String

/-- `_scope_for` and `_query_for`: the owner and the turn of an event. -/
def queryFor (event : ExecutionTraceEventDraft) : ExecutionTraceQuery :=
  ⟨event.tenantId, event.userId, event.sessionId, event.turnId⟩

/-- mirrors app/services/execution_trace_service.py:299-301 -/
def failureIdFor (tools : TraceTools) (event : ExecutionTraceEventDraft) : String :=
  String.ofList ((tools.sha256 (String.intercalate "\x1f"
    [event.source, event.sourceEventId, toString event.sourceVersion])).toList.take 32)

/-- mirrors app/services/execution_trace_service.py:304-332 -/
def integrityEvent (gap : TraceGap) (stage status : String) (recovered : Bool) :
    ExecutionTraceEventDraft where
  traceId := gap.event.traceId
  tenantId := gap.event.tenantId
  userId := gap.event.userId
  sessionId := gap.event.sessionId
  turnId := gap.event.turnId
  runId := gap.event.runId
  eventType := .traceIntegrity
  stage := stage
  status := status
  source := "oir:trace_integrity"
  sourceEventId := "trace-integrity:" ++ gap.failureId ++ ":" ++ stage
  sourceVersion := 1
  reasonCode := some "trace_projection_write_failed"
  facts :=
    [("reason_code", .str "trace_projection_write_failed"), ("failed_source", .str gap.event.source),
      ("failure_id", .str gap.failureId), ("recovered", .bool recovered)]
  evidenceRefs := []
  visibility := .businessRuntime
  schemaVersion := 2
  occurredAt := gap.event.occurredAt

/-- mirrors app/services/execution_trace_service.py:140-145 -/
def failureEvent (gap : TraceGap) : ExecutionTraceEventDraft :=
  integrityEvent gap "projection_write_failed" "incomplete" false

/-- mirrors app/services/execution_trace_service.py:128 -/
def repairEvent (gap : TraceGap) : ExecutionTraceEventDraft :=
  integrityEvent gap "source_repaired" "completed" true

/-- The gaps of an instance, by their turn and failure: those that no stored event reports yet, and
those whose repair is not reported. -/
structure ExecutionTraceService where
  pendingGaps : Dict (ExecutionTraceQuery × String) TraceGap
  reportedGaps : Dict (ExecutionTraceQuery × String) TraceGap

def ExecutionTraceService.new : ExecutionTraceService := ⟨.empty, .empty⟩

/-! ## Snapshots -/

inductive TraceCompleteness where
  | complete | incomplete
  deriving DecidableEq

/-- mirrors app/schemas/execution_traces.py:188-200 -/
structure ExecutionTraceSnapshot where
  traceId : Option String
  events : List ExecutionTraceEvent
  watermark : Int
  completeness : TraceCompleteness
  incompleteReasonCodes : List String
  deriving DecidableEq

/-- `str(facts.get(key, default))` -/
def factText (tools : TraceTools) (facts : JsonDict) (key default : String) : String :=
  match Json.field facts key with
  | none => default
  | some (.str text) => text
  | some value => tools.str value

def trackFailure (tools : TraceTools) (failures : Dict String String) (event : ExecutionTraceEvent) :
    Dict String String :=
  if event.eventType ≠ .traceIntegrity then failures
  else
    let failureId := factText tools event.facts "failure_id" ""
    if event.status = "incomplete" then
      failures.set failureId ((event.reasonCode.filter (· ≠ "")).getD
        (factText tools event.facts "reason_code" "trace_incomplete"))
    else if Json.field event.facts "recovered" = some (.bool true) then failures.erase failureId
    else failures

def openFailures (tools : TraceTools) (events : List ExecutionTraceEvent) : Dict String String :=
  events.foldl (trackFailure tools) .empty

/-- `sorted(set(codes))` -/
def sortedCodes (codes : List String) : List String := codes.dedup.insertionSort (· ≤ ·)

/-- mirrors app/services/execution_trace_service.py:256-276 (`_snapshot`); the schema takes at most
20 codes -/
def snapshotOf (tools : TraceTools) (events : List ExecutionTraceEvent) :
    Except StoreError ExecutionTraceSnapshot := do
  match events.head?, events.getLast? with
  | some first, some last =>
    let failures := openFailures tools events
    let codes := sortedCodes failures.values
    Except.ensure (codes.length ≤ 20) (.validationError "ExecutionTraceSnapshot")
    return ⟨some first.traceId, events, last.eventOffset,
      if failures.values.isEmpty then .complete else .incomplete, codes⟩
  | _, _ => return ⟨none, [], 0, .complete, []⟩

namespace ExecutionTraceService

def pendingOf (service : ExecutionTraceService) (query : ExecutionTraceQuery) : List TraceGap :=
  (service.pendingGaps.entries.filter (·.1.1 = query)).map (·.2)

/-- mirrors app/services/execution_trace_service.py:68-81 -/
def snapshot (tools : TraceTools) (service : ExecutionTraceService) (tables : TraceTables)
    (query : ExecutionTraceQuery) : Except StoreError ExecutionTraceSnapshot := do
  let snapshot ← snapshotOf tools (listEvents tables query 0)
  match service.pendingOf query with
  | [] => return snapshot
  | pending =>
    return { snapshot with
      completeness := .incomplete
      incompleteReasonCodes := sortedCodes (snapshot.incompleteReasonCodes ++
        pending.map fun _ => "trace_projection_write_failed") }

end ExecutionTraceService

/-! ## Records -/

/-- A call on its way: `appends` counts those made. -/
structure TraceCall where
  tables : TraceTables
  service : ExecutionTraceService
  appends : Nat

inductive RecordError where
  | conflict | unavailable | snapshot (e : StoreError)
  deriving DecidableEq

namespace TraceCall

variable (tools : TraceTools) (fails : Nat → Bool)

/-- mirrors app/services/execution_trace_service.py:46-48 -/
def record (event : ExecutionTraceEventDraft) (call : TraceCall) :
    Except RecordError Unit × TraceCall :=
  let next := { call with appends := call.appends + 1 }
  if fails call.appends then (.error .unavailable, next)
  else
    let (result, tables) := call.tables.append event
    let outcome :=
      match result with
      | .ok _ => .ok ()
      | .error (.executionTraceSourceConflict _) => .error .conflict
      | .error .integrityError => .error .unavailable
    (outcome, { next with tables })

/-- mirrors app/services/execution_trace_service.py:107-117 -/
def rememberGap (event : ExecutionTraceEventDraft) (call : TraceCall) : TraceCall :=
  let key := (queryFor event, failureIdFor tools event)
  if call.service.pendingGaps.contains key then call
  else
    { call with
      service := { call.service with
        pendingGaps := call.service.pendingGaps.set key ⟨event, failureIdFor tools event⟩ } }

/-- mirrors app/services/execution_trace_service.py:119-134 -/
def recordRepairIfNeeded (scope : ExecutionTraceQuery) (failureId : String) (call : TraceCall) :
    TraceCall :=
  match call.service.reportedGaps.get? (scope, failureId) with
  | none => call
  | some gap =>
    match call.record fails (repairEvent gap) with
    | (.ok _, call) =>
      { call with
        service := { call.service with
          reportedGaps := call.service.reportedGaps.erase (scope, failureId) } }
    | (.error _, call) => call

def report (scope : ExecutionTraceQuery) (gap : TraceGap) (call : TraceCall) : TraceCall :=
  { call with
    service :=
      ⟨call.service.pendingGaps.erase (scope, gap.failureId),
        call.service.reportedGaps.set (scope, gap.failureId) gap⟩ }

def flushGaps (scope : ExecutionTraceQuery) : List TraceGap → TraceCall → TraceCall
  | [], call => call
  | gap :: gaps, call =>
    match call.record fails (failureEvent gap) with
    | (.ok _, call) => flushGaps scope gaps (call.report scope gap)
    | (.error _, call) => call

/-- mirrors app/services/execution_trace_service.py:136-152 -/
def flushPendingGaps (scope : ExecutionTraceQuery) (call : TraceCall) : TraceCall :=
  call.flushGaps fails scope (call.service.pendingOf scope)

def settle (event : ExecutionTraceEventDraft) (call : TraceCall) : TraceCall :=
  let scope := queryFor event
  let failureId := failureIdFor tools event
  ((call.recordRepairIfNeeded fails scope failureId).flushPendingGaps fails scope
    ).recordRepairIfNeeded fails scope failureId

/-- mirrors app/services/execution_trace_service.py:50-66 -/
def tryRecord (event : ExecutionTraceEventDraft) (call : TraceCall) :
    Except RecordError Bool × TraceCall :=
  match call.record fails event with
  | (.error .conflict, call) => (.error .conflict, call)
  | (.error _, call) => (.ok false, call.rememberGap tools event)
  | (.ok _, call) =>
    let call := call.settle tools fails event
    match call.service.snapshot tools call.tables (queryFor event) with
    | .ok snapshot => (.ok (snapshot.completeness = .complete), call)
    | .error e => (.error (.snapshot e), call)

end TraceCall

end OpenIntentRouter.Services
