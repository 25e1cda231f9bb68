import OpenIntentRouter.Schemas.MemoryFormation
import OpenIntentRouter.Schemas.Turns

/-!
# Turn capsules

A canonical turn that is completed becomes a formation turn: its ids as they are, its
texts cut and its references digested. `TurnOutboxFormationConsumer` does this for each
entry of the turn outbox and completes the entry; whatever is raised fails it.
-/
namespace OpenIntentRouter.Services

open Core Schemas

/-- mirrors app/schemas/turns.py:89-100 -/
structure TurnCapsule where
  turnId : String
  tenantId : String
  userId : String
  sessionId : String
  requestId : String
  source : String
  stateVersion : Nat
  userInput : TurnUserInput
  finalResponse : TurnSemanticResponse
  references : TurnResultReferences
  completedAt : Instant
  deriving DecidableEq

/-- The constraints of the capsule itself; what it is built of is not validated again. -/
def TurnCapsule.validate (capsule : TurnCapsule) : Except StoreError TurnCapsule := do
  Except.ensure (1 ≤ capsule.source.length && capsule.source.length ≤ 64 &&
    1 ≤ capsule.stateVersion) (.validationError "TurnCapsule field constraints")
  return capsule

/-- The settings, and the digest of long references.
mirrors app/core/config.py:127-128 -/
structure TurnCapsuleBuilder where
  capsuleUserChars : Nat
  capsuleAssistantChars : Nat
  sha256 : String → String
  userChars_le : capsuleUserChars ≤ 20000
  assistantChars_le : capsuleAssistantChars ≤ 20000
  sha256_length : ∀ s, (sha256 s).length = 64

/-- mirrors app/services/memory_formation.py:772-773 -/
def boundedText (value : String) (limit : Nat) : String :=
  if value.length ≤ limit then value else String.ofList (value.toList.take limit)

namespace TurnCapsuleBuilder

variable (builder : TurnCapsuleBuilder)

/-- `normalized` of `_bounded_refs`. -/
def normalizedRef (value : String) : String :=
  if value.length ≤ 128 then value else "sha256:" ++ builder.sha256 value

/-- The loop, from what is `bounded` so far.
mirrors app/services/memory_formation.py:776-790 (`_bounded_refs`) -/
def boundedRefs (bounded : List String) : List String → List String
  | [] => bounded
  | value :: rest =>
    if value = "" then boundedRefs bounded rest
    else
      let normalized := builder.normalizedRef value
      let bounded := if normalized ∈ bounded then bounded else bounded ++ [normalized]
      if 50 ≤ bounded.length then bounded else boundedRefs bounded rest

/-- mirrors app/services/memory_formation.py:161-180 -/
def buildCanonicalCapsule (turn : CanonicalTurn) : Except StoreError TurnCapsule :=
  if turn.status ≠ .completed then
    .error (.valueError "Turn Capsule requires a completed Canonical Turn")
  else
    match turn.finalResponse, turn.completedAt with
    | some finalResponse, some completedAt =>
      if [turn.turnId, turn.tenantId, turn.userId, turn.sessionId, turn.requestId].all (· ≠ "")
      then
        TurnCapsule.validate
          { turnId := turn.turnId
            tenantId := turn.tenantId
            userId := turn.userId
            sessionId := turn.sessionId
            requestId := turn.requestId
            source := turn.source
            stateVersion := turn.stateVersion
            userInput := turn.userInput
            finalResponse := finalResponse
            references := turn.references
            completedAt := completedAt }
      else .error (.valueError "Turn Capsule requires trusted canonical ownership")
    | _, _ => .error (.valueError "Turn Capsule requires a final semantic response")

/-- The arguments of `MemoryFormationTurn`; the turn is created now. -/
def formationTurn (capsule : TurnCapsule) (now : Instant) : FormationTurn where
  turnId := capsule.turnId
  requestId := capsule.requestId
  sessionId := capsule.sessionId
  runId := capsule.references.runIds.head?
  userId := capsule.userId
  tenantId := capsule.tenantId
  agentId := none
  userText := boundedText capsule.userInput.text builder.capsuleUserChars
  assistantText := boundedText capsule.finalResponse.text builder.capsuleAssistantChars
  resultStatus := "completed"
  resultRefs := builder.boundedRefs [] capsule.references.resultIds
  planRefs := builder.boundedRefs [] (capsule.references.planId.filter (· ≠ "")).toList
  artifactRefs := []
  usedMemoryIds := []
  idleDeadlineAt := none
  status := .pending
  claimedJobId := none
  completedAt := capsule.completedAt
  createdAt := now

/-- mirrors app/services/memory_formation.py:182-205 -/
def buildFromCanonicalTurn (turn : CanonicalTurn) (now : Instant) :
    Except StoreError FormationTurn := do
  let capsule ← buildCanonicalCapsule turn
  (builder.formationTurn capsule now).validate

end TurnCapsuleBuilder

/-! ## The consumer -/

/-- mirrors app/schemas/turns.py:13-18, as far as it is read -/
structure FormationEligibilitySnapshot where
  suppressed : Bool
  reasonCode : Option String

inductive Delivery where
  | ignored
  | skipped (reason : String)
  | captured
  deriving DecidableEq

/-- The policy, the validation of a snapshot, and what the repositories do: `recordSkip` and
`append` may raise. -/
structure TurnOutboxFormationConsumer extends TurnCapsuleBuilder where
  executionPlane : String
  formationMode : MemoryFormationMode
  validateEligibility : Json → Except StoreError FormationEligibilitySnapshot
  recordSkip : CanonicalTurn → String → Except StoreError Unit
  append : FormationTurn → Except StoreError Unit

namespace TurnOutboxFormationConsumer

variable (consumer : TurnOutboxFormationConsumer)

/-- mirrors app/services/memory_formation.py:391-403 -/
def skipReason (event : TurnOutboxEvent) : Except StoreError (Option String) := do
  let policyReason :=
    if consumer.executionPlane = "decision_shadow" then some "decision_shadow_no_memory_side_effect"
    else if consumer.formationMode = .off then some "formation_mode_off"
    else none
  match (Json.field event.payload "formation_eligibility").filter (· ≠ .null) with
  | none => return policyReason
  | some eligibility =>
    let snapshot ← consumer.validateEligibility eligibility
    return if snapshot.suppressed then snapshot.reasonCode else policyReason

/-- mirrors app/services/memory_formation.py:405-417 -/
def validateEventOwner (event : TurnOutboxEvent) (turn : CanonicalTurn) : Except StoreError Unit :=
  Except.ensure
    ([("turn_id", turn.turnId), ("tenant_id", turn.tenantId), ("user_id", turn.userId),
      ("request_id", turn.requestId)].all fun p =>
        ((Json.field event.payload p.1).filter (· ≠ .null)).all (· = .str p.2))
    (.valueError "Turn Outbox ownership mismatch")

/-- A claimed entry with the turn that the repository has for it; the entry is completed unless
this raises.
mirrors app/services/memory_formation.py:362-379 (`run_once`) -/
def deliver (event : TurnOutboxEvent) (turn : Option CanonicalTurn) (now : Instant) :
    Except StoreError Delivery :=
  if event.eventType ≠ "turn.completed" then .ok .ignored
  else
    match turn with
    | none => .error (.valueError "Canonical Turn referenced by Outbox does not exist")
    | some turn => do
      validateEventOwner event turn
      match (← consumer.skipReason event).filter (· ≠ "") with
      | some reason =>
        consumer.recordSkip turn reason
        return .skipped reason
      | none =>
        consumer.append (← consumer.buildFromCanonicalTurn turn now)
        return .captured

end TurnOutboxFormationConsumer

end OpenIntentRouter.Services
