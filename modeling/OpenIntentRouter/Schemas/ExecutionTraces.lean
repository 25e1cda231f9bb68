import OpenIntentRouter.Schemas.Common

/-!
# Execution traces

`app/schemas/execution_traces.py`: the event that a producer drafts, and the
stored event with its offset. `recorded_at` is left out: nothing reads it.
-/
namespace OpenIntentRouter.Schemas

open Core

/-- mirrors app/schemas/execution_traces.py:6-19 -/
inductive ExecutionTraceEventType where
  | canonicalTurn | contextPack | routeDecision | agentRun | agentEvent | agentResult | uiHandoff
  | memoryRecall | memoryFormation | memoryDecision | memoryRevision | traceIntegrity
  deriving DecidableEq

inductive TraceVisibility where
  | businessRuntime | technical
  deriving DecidableEq

/-- mirrors app/schemas/execution_traces.py:81-84 -/
structure TraceEvidenceRef where
  referenceType : String
  referenceId : String
  label : Option String
  deriving DecidableEq

/-- mirrors app/schemas/execution_traces.py:87-111 and :138-146 -/
structure ExecutionTraceEventDraft where
  traceId : String
  tenantId : String
  userId : String
  sessionId : String
  turnId : String
  runId : Option String
  eventType : ExecutionTraceEventType
  stage : String
  status : String
  source : String
  sourceEventId : String
  sourceVersion : Nat
  reasonCode : Option String
  facts : JsonDict
  evidenceRefs : List TraceEvidenceRef
  visibility : TraceVisibility
  schemaVersion : Nat
  occurredAt : Instant
  deriving DecidableEq

/-- mirrors app/schemas/execution_traces.py:149-151 -/
structure ExecutionTraceEvent extends ExecutionTraceEventDraft where
  eventOffset : Int
  deriving DecidableEq

instance : Coe ExecutionTraceEvent ExecutionTraceEventDraft := ⟨(·.1)⟩

/-- mirrors app/schemas/execution_traces.py:166-170 -/
structure ExecutionTraceQuery where
  tenantId : String
  userId : String
  sessionId : String
  turnId : String
  deriving DecidableEq

end OpenIntentRouter.Schemas
