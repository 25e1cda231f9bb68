import OpenIntentRouter.Core.Cursor
import OpenIntentRouter.Schemas.ExecutionTraces

/-!
# The execution trace repository

`DatabaseExecutionTraceRepository`, statement by statement. The `INSERT` of an
`append` draws its offset from the sequence first, then the unique index lets
the row in, refuses it, or makes it wait for the transaction that has written a
row of the same source; others see the row when the transaction commits. A
rolled back offset is not used again.
-/
namespace OpenIntentRouter.Repositories

open Core Schemas

/-- `nextOffset`: the sequence; `waiting`: rows that have their offset and are
not in the index yet; `written`: rows of open transactions. -/
structure TraceTables where
  nextOffset : Int
  waiting : List ExecutionTraceEvent
  written : List ExecutionTraceEvent
  rows : List ExecutionTraceEvent
  deriving DecidableEq

/-- What a transaction of `append` does next; an open one is named by its offset. -/
inductive TraceStatement where
  | insert (event : ExecutionTraceEventDraft)
  | enter (offset : Int)
  | commit (offset : Int)
  | rollback (offset : Int)
  deriving DecidableEq

inductive TraceError where
  | executionTraceSourceConflict (message : String)
  | integrityError
  deriving DecidableEq

def sourceKey (event : ExecutionTraceEventDraft) : String × String × Nat :=
  (event.source, event.sourceEventId, event.sourceVersion)

def withOffset (offset : Int) (events : List ExecutionTraceEvent) : Option ExecutionTraceEvent :=
  events.find? (·.eventOffset = offset)

def withoutOffset (offset : Int) (events : List ExecutionTraceEvent) : List ExecutionTraceEvent :=
  events.filter (·.eventOffset ≠ offset)

def hasSource (event : ExecutionTraceEventDraft) (events : List ExecutionTraceEvent) : Bool :=
  events.any fun row => sourceKey row = sourceKey event

namespace TraceTables

def empty : TraceTables := ⟨1, [], [], []⟩

/-- mirrors app/repositories/execution_traces.py:75-85 (`append`, up to its reply) -/
def statement (tables : TraceTables) : TraceStatement → Option TraceTables
  | .insert event =>
    some { tables with
      nextOffset := tables.nextOffset + 1
      waiting := tables.waiting ++ [⟨event, tables.nextOffset⟩] }
  | .enter offset =>
    match withOffset offset tables.waiting with
    | none => none
    | some row =>
      let waiting := withoutOffset offset tables.waiting
      if hasSource row tables.rows then
        -- `IntegrityError`: the session closes and rolls back.
        some { tables with waiting }
      else if hasSource row tables.written then none
      else some { tables with waiting, written := tables.written ++ [row] }
  | .commit offset =>
    match withOffset offset tables.written with
    | none => none
    | some row =>
      some { tables with
        written := withoutOffset offset tables.written
        rows := tables.rows ++ [row] }
  | .rollback offset =>
    some { tables with
      waiting := withoutOffset offset tables.waiting
      written := withoutOffset offset tables.written }

end TraceTables

/-- `stored_identity == incoming_identity`. -/
def sameIdentity (stored incoming : ExecutionTraceEventDraft) : Bool :=
  { stored with facts := [] } = { incoming with facts := [] } &&
  JsonDict.pyEq stored.facts incoming.facts

/-- mirrors app/repositories/execution_traces.py:131-145 -/
def isIdempotentReplay (stored : ExecutionTraceEvent) (incoming : ExecutionTraceEventDraft) : Bool :=
  let identity := stored
  if stored.schemaVersion = 1 && 2 ≤ incoming.schemaVersion then
    let upgraded := { identity with schemaVersion := incoming.schemaVersion }
    if stored.eventType = .memoryDecision then
      sameIdentity { upgraded with
        facts := identity.facts.filter fun p => p.1 ≠ "previous_value" && p.1 ≠ "proposed_value" }
        incoming
    else sameIdentity upgraded incoming
  else sameIdentity identity incoming

/-- What `append` answers after an `IntegrityError`.
mirrors app/repositories/execution_traces.py:86-101 -/
def replay (rows : List ExecutionTraceEvent) (event : ExecutionTraceEventDraft) :
    Except TraceError (ExecutionTraceEvent × Bool) :=
  match rows.find? fun row => sourceKey row.toExecutionTraceEventDraft = sourceKey event with
  | none => .error .integrityError
  | some stored =>
    if isIdempotentReplay stored event then .ok (stored, false)
    else .error (.executionTraceSourceConflict "execution trace source identity conflict")

/-- An `append` that no other one overlaps. mirrors app/repositories/execution_traces.py:79-101 -/
def TraceTables.append (tables : TraceTables) (event : ExecutionTraceEventDraft) :
    Except TraceError (ExecutionTraceEvent × Bool) × TraceTables :=
  let drawn := { tables with nextOffset := tables.nextOffset + 1 }
  if hasSource event tables.rows then (replay tables.rows event, drawn)
  else
    let row : ExecutionTraceEvent := ⟨event, tables.nextOffset⟩
    (.ok (row, true), { drawn with rows := tables.rows ++ [row] })

def belongs (query : ExecutionTraceQuery) (event : ExecutionTraceEvent) : Bool :=
  event.tenantId = query.tenantId && event.userId = query.userId &&
  event.sessionId = query.sessionId && event.turnId = query.turnId

/-- mirrors app/repositories/execution_traces.py:103-117 -/
def listEvents (tables : TraceTables) (query : ExecutionTraceQuery) (afterOffset : Int) :
    List ExecutionTraceEvent :=
  Cursor.page (·.eventOffset) afterOffset (tables.rows.filter (belongs query))

end OpenIntentRouter.Repositories
