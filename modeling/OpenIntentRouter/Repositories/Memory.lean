import OpenIntentRouter.Core.Dict
import OpenIntentRouter.Core.Rollback
import OpenIntentRouter.Schemas.Plans
import OpenIntentRouter.Schemas.Runs
import OpenIntentRouter.Schemas.Turns

/-!
# The in-memory repositories

Each repository is its dictionaries; a method returns the new repository or
raises. `MemoryStores` is what the six delegated-run stores share when they are
wired together (`app/dependencies.py:520-575`); `delegationKeys` belongs to
the start store. Formation bookkeeping is not modelled.
-/
namespace OpenIntentRouter.Repositories

open Core Core.Except Schemas

/-! ## Runs -/

/-- mirrors app/repositories/memory.py:291-302 -/
def validateRunIdentity (existing incoming : AgentRun) : Except StoreError Unit :=
  Except.ensure (existing.requestId = incoming.requestId &&
      existing.sessionId = incoming.sessionId && existing.agentId = incoming.agentId &&
      existing.userId = incoming.userId && existing.tenantId = incoming.tenantId &&
      existing.planId = incoming.planId && existing.stepId = incoming.stepId)
    (.valueError "Agent run identity cannot be changed")

/-- mirrors app/repositories/memory.py:187-190 -/
def addRun (runs : Table AgentRun.runId) (run : AgentRun) :
    Except StoreError (Table AgentRun.runId) := do
  let stored ← run.validate
  return runs.put stored

/-- mirrors app/repositories/memory.py:192-199 -/
def updateRun (runs : Table AgentRun.runId) (run : AgentRun) :
    Except StoreError (Table AgentRun.runId) := do
  match runs.get? run.runId with
  | none => .error (.valueError "Agent run not found")
  | some existing =>
    validateRunIdentity existing run
    let stored ← run.validate
    return runs.put stored

/-! ## Events -/

/-- An event under an id that is taken is dropped.
mirrors app/repositories/memory.py:152-158 -/
def addAgentEvent (events : Table AgentEvent.eventId) (stamp : Instant) (event : AgentEvent) :
    Table AgentEvent.eventId :=
  match events.get? event.eventId with
  | some _ => events
  | none => events.put { event with createdAt := some stamp }

/-- mirrors app/repositories/memory.py:160-166 -/
def getEvent (events : Table AgentEvent.eventId) (eventId tenantId userId : String) :
    Option AgentEvent :=
  (events.get? eventId).filter fun event =>
    event.tenantId = some tenantId && event.userId = some userId

/-! ## Turns -/

/-- mirrors app/repositories/turns.py:44-48 (`MemoryTurnRepository.get`) -/
def getTurn (turns : Table CanonicalTurn.turnId) (turnId tenantId userId : String) :
    Option CanonicalTurn :=
  (turns.get? turnId).filter fun turn => turn.tenantId = tenantId && turn.userId = userId

/-- mirrors app/repositories/turns.py:177-186 -/
def validateUpdate (existing incoming : CanonicalTurn) (expectedVersion : Nat) :
    Except StoreError Unit := do
  Except.ensure (existing.turnId = incoming.turnId && existing.tenantId = incoming.tenantId &&
      existing.userId = incoming.userId && existing.sessionId = incoming.sessionId &&
      existing.requestId = incoming.requestId && existing.source = incoming.source)
    (.turnOwnershipConflict "turn identity cannot be changed")
  Except.ensure (!existing.status.isTerminal)
    (.turnTerminalStateError "terminal turn cannot be updated")
  Except.ensure (incoming.stateVersion = expectedVersion + 1)
    (.valueError "turn state_version must advance by exactly one")

/-- mirrors app/repositories/turns.py:66-78 -/
def updateIfVersion (turns : Table CanonicalTurn.turnId) (turn : CanonicalTurn)
    (expectedVersion : Nat) : Except StoreError (Option (Table CanonicalTurn.turnId)) :=
  match turns.get? turn.turnId with
  | none => .ok none
  | some existing =>
    if existing.stateVersion ≠ expectedVersion then .ok none
    else do
      validateUpdate existing turn expectedVersion
      return some (turns.put turn)

/-! ## Outbox -/

/-- mirrors app/repositories/turn_outbox.py:19-22 -/
structure MemoryTurnOutboxRepository where
  events : Table TurnOutboxEvent.outboxId
  idempotencyKeys : Dict String String
  deriving DecidableEq

/-- mirrors app/repositories/turn_outbox.py:24-32 -/
def MemoryTurnOutboxRepository.addIdempotent (outbox : MemoryTurnOutboxRepository)
    (event : TurnOutboxEvent) : Except StoreError MemoryTurnOutboxRepository :=
  let existingId := outbox.idempotencyKeys.get? event.idempotencyKey
  if truthy existingId then
    match existingId.bind outbox.events.get? with
    | some _ => .ok outbox
    | none => .error (.keyError (existingId.getD ""))
  else
    .ok { events := outbox.events.put event
          idempotencyKeys := outbox.idempotencyKeys.set event.idempotencyKey event.outboxId }

/-! ## Plans -/

/-- An entry of `execution_claims`. -/
structure ExecutionClaim where
  stepId : String
  claimId : String
  leaseExpiresAt : Instant
  stateVersion : Nat
  executionKey : String
  attempt : Nat
  deriving DecidableEq

/-- mirrors app/repositories/memory.py:305-316 -/
structure MemoryPlanRepository where
  plans : Table Plan.planId
  executionClaims : Dict String ExecutionClaim
  executionAttempts : Dict String Nat
  deriving DecidableEq

namespace MemoryPlanRepository

/-- Store a plan: its execution claim follows the version while the plan runs
and is dropped otherwise.
mirrors app/repositories/memory.py:324-337 and :411-424 -/
def store (repo : MemoryPlanRepository) (plan : Plan) : MemoryPlanRepository :=
  { repo with
    plans := repo.plans.put plan
    executionClaims :=
      match repo.executionClaims.get? plan.planId with
      | some claim =>
        if plan.status = .running then
          repo.executionClaims.set plan.planId { claim with stateVersion := plan.stateVersion }
        else repo.executionClaims.erase plan.planId
      | none => repo.executionClaims.erase plan.planId }

def storeOption (repo : MemoryPlanRepository) : Option Plan → MemoryPlanRepository
  | none => repo
  | some plan => repo.store plan

/-- mirrors app/repositories/memory.py:318-339 -/
def save (repo : MemoryPlanRepository) (plan : Plan) : Except StoreError MemoryPlanRepository :=
  match repo.plans.get? plan.planId with
  | some existing =>
    if existing.tenantId ≠ plan.tenantId || existing.userId ≠ plan.userId then
      .error (.valueError "Plan ownership cannot be changed")
    else .ok (repo.store plan)
  | none => .ok (repo.store plan)

/-- mirrors app/repositories/memory.py:341-345 -/
def get (repo : MemoryPlanRepository) (planId tenantId userId : String) : Option Plan :=
  (repo.plans.get? planId).filter fun plan => plan.tenantId = tenantId && plan.userId = userId

@[simp] theorem store_plans (repo : MemoryPlanRepository) (plan : Plan) :
    (repo.store plan).plans = repo.plans.put plan := rfl

theorem save_ok {repo out : MemoryPlanRepository} {plan : Plan} (h : repo.save plan = .ok out) :
    out = repo.store plan := by
  unfold save at h
  split at h
  · split at h
    · cases h
    · cases h
      rfl
  · cases h
    rfl

theorem get_eq_some {repo : MemoryPlanRepository} {planId tenantId userId : String} {plan : Plan} :
    repo.get planId tenantId userId = some plan ↔
      repo.plans.get? planId = some plan ∧ plan.tenantId = tenantId ∧ plan.userId = userId := by
  simp [get, Option.filter_eq_some_iff]

end MemoryPlanRepository

structure MemoryStores where
  runs : Table AgentRun.runId
  turns : Table CanonicalTurn.turnId
  plans : MemoryPlanRepository
  results : List AgentResult
  agentEvents : Table AgentEvent.eventId
  outbox : MemoryTurnOutboxRepository
  delegationKeys : Dict String String
  deriving DecidableEq

theorem getEvent_eq_some {events : Table AgentEvent.eventId} {eventId tenantId userId : String}
    {event : AgentEvent} :
    getEvent events eventId tenantId userId = some event ↔
      events.get? eventId = some event ∧ event.tenantId = some tenantId ∧
        event.userId = some userId := by
  simp [getEvent, Option.filter_eq_some_iff]

theorem getTurn_eq_some {turns : Table CanonicalTurn.turnId} {turnId tenantId userId : String}
    {turn : CanonicalTurn} :
    getTurn turns turnId tenantId userId = some turn ↔
      turns.get? turnId = some turn ∧ turn.tenantId = tenantId ∧ turn.userId = userId := by
  simp [getTurn, Option.filter_eq_some_iff]

theorem updateRun_ok {runs out : Table AgentRun.runId} {run : AgentRun}
    (h : updateRun runs run = .ok out) :
    ∃ existing stored, runs.get? run.runId = some existing ∧ run.validate = .ok stored ∧
      out = runs.put stored := by
  unfold updateRun at h
  split at h
  · cases h
  · next existing he =>
    obtain ⟨-, -, h⟩ := bind_eq_ok.1 h
    obtain ⟨stored, hs, h⟩ := bind_eq_ok.1 h
    cases h
    exact ⟨existing, stored, he, hs, rfl⟩

theorem updateIfVersion_ok {turns out : Table CanonicalTurn.turnId} {turn : CanonicalTurn}
    {version : Nat} (h : updateIfVersion turns turn version = .ok (some out)) :
    ∃ existing, turns.get? turn.turnId = some existing ∧ existing.stateVersion = version ∧
      existing.status.isTerminal = false ∧ turn.stateVersion = version + 1 ∧
      out = turns.put turn := by
  unfold updateIfVersion at h
  split at h
  · cases h
  · next existing he =>
    split at h
    · cases h
    · next hv =>
      obtain ⟨u, hu, h⟩ := bind_eq_ok.1 h
      obtain ⟨-, -, hu⟩ := bind_eq_ok.1 hu
      obtain ⟨_, ht, hu⟩ := bind_eq_ok.1 hu
      rw [ensure_eq_ok] at ht hu
      cases h
      refine ⟨existing, he, by simpa using hv, by simpa using ht, by simpa using hu, rfl⟩

end OpenIntentRouter.Repositories
