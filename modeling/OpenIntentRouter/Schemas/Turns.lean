import OpenIntentRouter.Core.Except
import OpenIntentRouter.Schemas.Common

/-!
# Canonical turns and their outbox events

`CanonicalTurn.validate` is the constructor with its validators; objects made
by `model_copy` and rows written column by column are not checked by it.

* `CanonicalTurn.valid_iff`: the validators as one list of conditions.
-/
namespace OpenIntentRouter.Schemas

open Core Core.Except

/-- mirrors app/schemas/turns.py:42-47 -/
structure TurnResultReferences where
  routeDecisionId : Option String
  runIds : List String
  resultIds : List String
  planId : Option String
  eventIds : List String
  deriving DecidableEq

/-- mirrors app/schemas/turns.py:50-52 -/
structure TurnUserInput where
  text : String
  metadata : JsonDict
  deriving DecidableEq

/-- mirrors app/schemas/turns.py:55-59 -/
structure TurnSemanticResponse where
  kind : TurnResponseKind
  text : String
  output : Option JsonDict
  error : Option JsonDict
  deriving DecidableEq

/-- mirrors app/schemas/turns.py:62-76 -/
structure CanonicalTurn where
  turnId : String
  tenantId : String
  userId : String
  sessionId : String
  requestId : String
  source : String
  status : TurnStatus
  stateVersion : Nat
  userInput : TurnUserInput
  references : TurnResultReferences
  finalResponse : Option TurnSemanticResponse
  createdAt : Instant
  updatedAt : Instant
  completedAt : Option Instant
  deriving DecidableEq

namespace CanonicalTurn

/-- The `Field` constraints of the turn, its input, references and response. -/
def fieldsValid (turn : CanonicalTurn) : Bool :=
  1 ≤ turn.source.length && turn.source.length ≤ 64 && 1 ≤ turn.stateVersion &&
  turn.userInput.text.length ≤ 20000 &&
  turn.references.runIds.length ≤ 50 && turn.references.resultIds.length ≤ 50 &&
  turn.references.eventIds.length ≤ 100 &&
  turn.finalResponse.all (·.text.length ≤ 20000)

/-- mirrors app/schemas/turns.py:78-86 (`validate_terminal_shape`) -/
def validate (turn : CanonicalTurn) : Except StoreError CanonicalTurn := do
  Except.ensure turn.fieldsValid (.validationError "CanonicalTurn field constraints")
  Except.ensure (!(turn.status = .completed && turn.finalResponse.isNone))
    (.validationError "completed turn requires a final semantic response")
  Except.ensure (turn.status.isTerminal == turn.completedAt.isSome)
    (.validationError "terminal turn and completed_at must be set together")
  Except.ensure (turn.completedAt.all (turn.createdAt ≤ ·))
    (.validationError "completed_at must not precede created_at")
  return turn

structure Valid (turn : CanonicalTurn) : Prop where
  source : 1 ≤ turn.source.length ∧ turn.source.length ≤ 64
  stateVersion : 1 ≤ turn.stateVersion
  text : turn.userInput.text.length ≤ 20000
  runIds : turn.references.runIds.length ≤ 50
  resultIds : turn.references.resultIds.length ≤ 50
  eventIds : turn.references.eventIds.length ≤ 100
  response : ∀ r, turn.finalResponse = some r → r.text.length ≤ 20000
  completed : turn.status = .completed → turn.finalResponse ≠ none
  terminal : turn.status.isTerminal = true ↔ turn.completedAt ≠ none
  order : ∀ t, turn.completedAt = some t → turn.createdAt ≤ t

theorem validate_eq {turn out : CanonicalTurn} (h : turn.validate = .ok out) : out = turn := by
  obtain ⟨-, -, h⟩ := bind_eq_ok.1 h
  obtain ⟨-, -, h⟩ := bind_eq_ok.1 h
  obtain ⟨-, -, h⟩ := bind_eq_ok.1 h
  obtain ⟨-, -, h⟩ := bind_eq_ok.1 h
  cases h
  rfl

theorem valid_iff (turn : CanonicalTurn) : turn.validate = .ok turn ↔ turn.Valid := by
  have hv : turn.validate = .ok turn ↔ turn.fieldsValid = true ∧
      (!(turn.status = .completed && turn.finalResponse.isNone)) = true ∧
      (turn.status.isTerminal == turn.completedAt.isSome) = true ∧
      turn.completedAt.all (turn.createdAt ≤ ·) = true := by
    simp only [validate, bind_eq_ok, ensure_eq_ok, pure, Except.pure, and_true,
      exists_and_left, exists_const]
  rw [hv]
  constructor
  · rintro ⟨hf, hc, ht, ho⟩
    simp only [fieldsValid, Bool.and_eq_true, decide_eq_true_eq, Option.all_eq_true] at hf
    obtain ⟨⟨⟨⟨⟨⟨⟨h1, h2⟩, h3⟩, h4⟩, h5⟩, h6⟩, h7⟩, h8⟩ := hf
    refine ⟨⟨h1, h2⟩, h3, h4, h5, h6, h7, h8, ?_, ?_, ?_⟩
    · intro hs hn
      simp [hs, hn] at hc
    · cases hcs : turn.completedAt <;> simp_all
    · intro t hcs
      simpa [hcs] using ho
  · intro h
    refine ⟨?_, ?_, ?_, ?_⟩
    · simp only [fieldsValid, Bool.and_eq_true, decide_eq_true_eq, Option.all_eq_true]
      exact ⟨⟨⟨⟨⟨⟨⟨h.source.1, h.source.2⟩, h.stateVersion⟩, h.text⟩, h.runIds⟩, h.resultIds⟩,
        h.eventIds⟩, h.response⟩
    · have := h.completed
      cases hs : turn.finalResponse <;> simp_all
    · have := h.terminal
      cases hcs : turn.completedAt <;> simp_all
    · cases hcs : turn.completedAt with
      | none => rfl
      | some t => simpa using h.order t hcs

theorem validate_of_valid {turn : CanonicalTurn} (h : turn.Valid) : turn.validate = .ok turn :=
  (valid_iff turn).2 h

theorem valid_of_validate {turn out : CanonicalTurn} (h : turn.validate = .ok out) :
    turn.Valid := (valid_iff turn).1 (by rw [h, validate_eq h])

instance (turn : CanonicalTurn) : Decidable turn.Valid := decidable_of_iff _ (valid_iff turn)

end CanonicalTurn

/-- mirrors app/schemas/turns.py:103-112; the lease fields
are the consumer's -/
structure TurnOutboxEvent where
  outboxId : String
  turnId : String
  eventType : String
  idempotencyKey : String
  payload : JsonDict
  status : OutboxStatus
  attemptCount : Nat
  maxAttempts : Nat
  availableAt : Instant
  deriving DecidableEq

end OpenIntentRouter.Schemas
