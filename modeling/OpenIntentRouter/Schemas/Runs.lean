import OpenIntentRouter.Schemas.KnowledgePersistence

/-!
# Runs, results and agent events

The records of `app/schemas/logs.py` and `app/schemas/events.py`. A Pydantic
object may be built by its constructor, which validates, or by `model_copy`,
which does not; so the records are plain structures and `validate` is the
constructor's check: it passes the JSON bodies through `sanitize`. The claim,
latency and memory fields are not modelled: no function here reads them.
-/
namespace OpenIntentRouter.Schemas

open Core Core.Except

/-- `sanitize_persisted_knowledge` on an optional object. -/
def sanitizeBody : Option JsonDict → Except StoreError (Option JsonDict)
  | none => .ok none
  | some body => do return some (← sanitizeFields body)

theorem sanitizeBody_idem {b out : Option JsonDict} (h : sanitizeBody b = .ok out) :
    sanitizeBody out = .ok out := by
  cases b with
  | none => cases h; rfl
  | some d =>
    obtain ⟨a, ha, h⟩ := bind_eq_ok.1 h
    cases h
    rw [sanitizeBody, sanitizeFields_idem ha]
    rfl

/-- mirrors app/schemas/logs.py:9-43 -/
structure AgentRun where
  runId : String
  requestId : Option String
  sessionId : String
  agentId : String
  userId : Option String
  tenantId : Option String
  turnId : Option String
  planId : Option String
  stepId : Option String
  status : RunStatus
  invokerType : String
  delegated : Bool
  delegationKey : Option String
  stateVersion : Nat
  eventSequence : Nat
  deadlineAt : Option Instant
  heartbeatAt : Option Instant
  terminalEventId : Option String
  input : JsonDict
  output : Option JsonDict
  error : Option JsonDict
  formationSuppressed : Bool
  createdAt : Option Instant
  updatedAt : Option Instant
  deriving DecidableEq

/-- The constructor of `AgentRun`, also `AgentRun.model_validate(run.model_dump())`. -/
def AgentRun.validate (run : AgentRun) : Except StoreError AgentRun := do
  Except.ensure (1 ≤ run.stateVersion) (.validationError "AgentRun.state_version")
  let input ← sanitizeFields run.input
  let output ← sanitizeBody run.output
  let error ← sanitizeBody run.error
  return { run with input, output, error }

/-- mirrors app/schemas/logs.py:46-69 -/
structure AgentResult where
  resultId : String
  runId : String
  sessionId : String
  agentId : String
  userId : Option String
  tenantId : Option String
  turnId : Option String
  planId : Option String
  stepId : Option String
  status : RunStatus
  runStateVersion : Option Nat
  message : String
  formationSuppressed : Bool
  output : Option JsonDict
  artifactRefs : List JsonDict
  error : Option JsonDict
  createdAt : Option Instant
  deriving DecidableEq

def AgentResult.validate (result : AgentResult) : Except StoreError AgentResult := do
  Except.ensure (result.runStateVersion.all (1 ≤ ·)) (.validationError "AgentResult.run_state_version")
  let output ← sanitizeBody result.output
  let error ← sanitizeBody result.error
  return { result with output, error }

/-- mirrors app/schemas/events.py:9-31 -/
structure AgentEvent where
  eventId : String
  runId : Option String
  requestId : Option String
  sessionId : String
  agentId : String
  userId : Option String
  tenantId : Option String
  turnId : Option String
  eventType : AgentEventType
  status : Option RunStatus
  planId : Option String
  stepId : Option String
  sequence : Option Nat
  runStateVersion : Option Nat
  payload : JsonDict
  createdAt : Option Instant
  deriving DecidableEq

def AgentEvent.validate (event : AgentEvent) : Except StoreError AgentEvent := do
  Except.ensure (event.eventId ≠ "" && event.sessionId ≠ "" && event.agentId ≠ "")
    (.validationError "AgentEvent identifiers")
  Except.ensure (event.sequence.all (1 ≤ ·) && event.runStateVersion.all (1 ≤ ·))
    (.validationError "AgentEvent order")
  let payload ← sanitizeFields event.payload
  return { event with payload }

theorem AgentRun.validate_ok {run out : AgentRun} :
    run.validate = .ok out ↔ 1 ≤ run.stateVersion ∧ ∃ input output error,
      sanitizeFields run.input = .ok input ∧ sanitizeBody run.output = .ok output ∧
      sanitizeBody run.error = .ok error ∧ out = { run with input, output, error } := by
  constructor
  · intro h
    obtain ⟨u, hu, h⟩ := bind_eq_ok.1 h
    obtain ⟨i, hi, h⟩ := bind_eq_ok.1 h
    obtain ⟨o, ho, h⟩ := bind_eq_ok.1 h
    obtain ⟨e, he, h⟩ := bind_eq_ok.1 h
    cases h
    exact ⟨by simpa using ensure_eq_ok.1 hu, i, o, e, hi, ho, he, rfl⟩
  · rintro ⟨hv, i, o, e, hi, ho, he, rfl⟩
    simp only [AgentRun.validate, Except.ensure, decide_eq_true hv, hi, ho, he]
    rfl

theorem AgentRun.validate_eq {run out : AgentRun} (h : run.validate = .ok out) :
    out = { run with input := out.input, output := out.output, error := out.error } := by
  obtain ⟨-, input, output, error, -, -, -, rfl⟩ := AgentRun.validate_ok.1 h
  rfl

theorem AgentRun.runId_of_validate {run out : AgentRun} (h : run.validate = .ok out) :
    run.runId = out.runId := by
  rw [AgentRun.validate_eq h]

theorem AgentRun.validate_idem {run out : AgentRun} (h : run.validate = .ok out) :
    out.validate = .ok out := by
  obtain ⟨hv, input, output, error, hi, ho, he, rfl⟩ := AgentRun.validate_ok.1 h
  exact AgentRun.validate_ok.2 ⟨hv, input, output, error, sanitizeFields_idem hi,
    sanitizeBody_idem ho, sanitizeBody_idem he, rfl⟩

/-- A run that reads back unchanged is its validated self. -/
theorem AgentRun.validate_self {run : AgentRun} :
    run.validate = .ok run ↔ 1 ≤ run.stateVersion ∧ sanitizeFields run.input = .ok run.input ∧
      sanitizeBody run.output = .ok run.output ∧ sanitizeBody run.error = .ok run.error := by
  rw [AgentRun.validate_ok]
  constructor
  · rintro ⟨hv, input, output, error, hi, ho, he, hr⟩
    have hin : run.input = input := congrArg AgentRun.input hr
    have hout : run.output = output := congrArg AgentRun.output hr
    have herr : run.error = error := congrArg AgentRun.error hr
    exact ⟨hv, hi.trans (by rw [hin]), ho.trans (by rw [hout]), he.trans (by rw [herr])⟩
  · rintro ⟨hv, hi, ho, he⟩
    exact ⟨hv, _, _, _, hi, ho, he, rfl⟩

theorem AgentEvent.validate_ok {event out : AgentEvent} :
    event.validate = .ok out ↔
      (event.eventId ≠ "" ∧ event.sessionId ≠ "" ∧ event.agentId ≠ "") ∧
      ((∀ n, event.sequence = some n → 1 ≤ n) ∧ ∀ n, event.runStateVersion = some n → 1 ≤ n) ∧
      ∃ payload, sanitizeFields event.payload = .ok payload ∧ out = { event with payload } := by
  constructor
  · intro h
    obtain ⟨u, hu, h⟩ := bind_eq_ok.1 h
    obtain ⟨u, hv, h⟩ := bind_eq_ok.1 h
    obtain ⟨payload, hp, h⟩ := bind_eq_ok.1 h
    cases h
    rw [ensure_eq_ok] at hu hv
    simp only [Bool.and_eq_true, decide_eq_true_eq, Option.all_eq_true, ne_eq] at hu hv
    exact ⟨⟨hu.1.1, hu.1.2, hu.2⟩, hv, payload, hp, rfl⟩
  · rintro ⟨⟨h1, h2, h3⟩, ⟨h4, h5⟩, payload, hp, rfl⟩
    have hs : event.sequence.all (1 ≤ ·) = true := by simpa [Option.all_eq_true] using h4
    have hv : event.runStateVersion.all (1 ≤ ·) = true := by simpa [Option.all_eq_true] using h5
    simp only [AgentEvent.validate, Except.ensure, h1, h2, h3, hs, hv, hp, ne_eq, not_false_eq_true,
      decide_true, Bool.and_self, if_true]
    rfl

theorem AgentEvent.validate_eq {event out : AgentEvent} (h : event.validate = .ok out) :
    out = { event with payload := out.payload } := by
  obtain ⟨-, -, payload, -, rfl⟩ := AgentEvent.validate_ok.1 h
  rfl

theorem AgentResult.validate_ok {result out : AgentResult} :
    result.validate = .ok out ↔ (∀ n, result.runStateVersion = some n → 1 ≤ n) ∧
      ∃ output error, sanitizeBody result.output = .ok output ∧
        sanitizeBody result.error = .ok error ∧ out = { result with output, error } := by
  constructor
  · intro h
    obtain ⟨u, hu, h⟩ := bind_eq_ok.1 h
    obtain ⟨o, ho, h⟩ := bind_eq_ok.1 h
    obtain ⟨e, he, h⟩ := bind_eq_ok.1 h
    cases h
    rw [ensure_eq_ok, Option.all_eq_true] at hu
    exact ⟨fun n hn => by simpa using hu n hn, o, e, ho, he, rfl⟩
  · rintro ⟨hv, o, e, ho, he, rfl⟩
    have hall : result.runStateVersion.all (1 ≤ ·) = true := by
      simpa [Option.all_eq_true] using hv
    simp only [AgentResult.validate, Except.ensure, hall, ho, he]
    rfl

theorem AgentResult.validate_idem {result out : AgentResult} (h : result.validate = .ok out) :
    out.validate = .ok out := by
  obtain ⟨hv, o, e, ho, he, rfl⟩ := AgentResult.validate_ok.1 h
  exact AgentResult.validate_ok.2 ⟨hv, o, e, sanitizeBody_idem ho, sanitizeBody_idem he, rfl⟩

end OpenIntentRouter.Schemas
