import Mathlib.Data.Int.Order.Basic
import OpenIntentRouter.Core.Json

/-!
# Identifiers, instants, errors and enumerations

* `Instant`: a timestamp as microseconds since the epoch in UTC; the code
  compares timestamps only after `_as_utc`.
* `StoreError`: the exceptions the stores raise, with their messages.
* The status and type enumerations of `app/schemas`.
-/
namespace OpenIntentRouter.Schemas

abbrev Instant := Int

instance : Preorder Instant := Int.instLinearOrder.toPreorder

inductive StoreError where
  | delegatedRunStartConflict (message : String)
  | turnTransactionConflict (message : String)
  | turnOwnershipConflict (message : String)
  | turnTerminalStateError (message : String)
  | turnIdempotencyConflict (message : String)
  | orphanTurnRepairConflict (message : String)
  | planStateConflict (message : String)
  | invocationError (message : String)
  | valueError (message : String)
  | validationError (message : String)
  | typeError (message : String)
  | attributeError (message : String)
  | keyError (key : String)
  | stopIteration
  | integrityError
  | operationalError
  deriving DecidableEq

/-- The values of `AgentRun.status`: those of `DelegatedRunStatus` and of
`AgentRunStatus`, and the `"timeout"` that the orphan reconciler also knows.
mirrors app/schemas/delegated_runs.py:12-24, app/schemas/common.py:43-51 and
app/services/orphan_turn_reconciler.py:32 -/
inductive RunStatus where
  | pending | running | blocked | completed | failed | cancelled | timedOut
  | clarify | invalidOutput | timeout
  deriving DecidableEq

/-- The test `status in {"completed", "failed", "cancelled", "timed_out"}`. -/
def RunStatus.isTerminal : RunStatus → Bool
  | .completed | .failed | .cancelled | .timedOut => true
  | .pending | .running | .blocked | .clarify | .invalidOutput | .timeout => false

/-- mirrors app/schemas/turns.py:27-39 -/
inductive TurnStatus where
  | pending | routing | running | blocked | completed | failed | cancelled | timedOut
  deriving DecidableEq

def TurnStatus.isTerminal : TurnStatus → Bool
  | .completed | .failed | .cancelled | .timedOut => true
  | .pending | .routing | .running | .blocked => false

/-- mirrors app/schemas/common.py:41 (`PlanStatus`); `PlanStepStatus` (:42) has
the same values -/
inductive PlanStatus where
  | pending | running | blocked | completed | failed | cancelled
  deriving DecidableEq

abbrev PlanStepStatus := PlanStatus

/-- The test `status in {"pending", "running", "blocked"}`. -/
def PlanStatus.isActive : PlanStatus → Bool
  | .pending | .running | .blocked => true
  | .completed | .failed | .cancelled => false

/-- mirrors app/schemas/common.py:52-57 -/
inductive ExecutionPolicy where
  | returnPlanOnly | requireConfirmation | autoExecute | hostManaged
  deriving DecidableEq

/-- mirrors app/schemas/common.py:58-64 -/
inductive NextActionType where
  | confirmPlan | openUi | collectInput | waitForAgentEvent | none
  deriving DecidableEq

/-- mirrors app/schemas/common.py:65-72 -/
inductive AgentEventType where
  | agentStarted | agentProgress | agentResult | agentError | agentClarify | agentCancelled
  deriving DecidableEq

/-- mirrors app/schemas/turns.py:10 -/
inductive TurnResponseKind where
  | reply | clarify | unsupported | silent | agentResult | error
  deriving DecidableEq

/-- mirrors app/schemas/turns.py:109 (`TurnOutboxEvent.status`) -/
inductive OutboxStatus where
  | pending | claimed | retry | completed | deadLetter
  deriving DecidableEq

/-- Python's truth value of an optional string: `None` and `""` are false. -/
def truthy : Option String → Bool
  | some s => s ≠ ""
  | none => false

@[simp] theorem truthy_none : truthy none = false := rfl

theorem truthy_iff (o : Option String) : truthy o = true ↔ ∃ s, o = some s ∧ s ≠ "" := by
  cases o <;> simp [truthy]

end OpenIntentRouter.Schemas
