import Mathlib.Data.List.MinMax
import Mathlib.Data.Prod.Lex
import Mathlib.Data.String.Basic
import OpenIntentRouter.Core.Dict
import OpenIntentRouter.Core.Txn
import OpenIntentRouter.Schemas.Turns

/-!
# The turn outbox

A worker claims the entry that is due first, for a lease; with owner and token
of the lease it completes or fails the entry. `MemoryTurnOutboxRepository` does
each call under one lock. The calls of `DatabaseTurnOutboxRepository` are
`Core.Prog`: `claim` and `complete` guard their `UPDATE`, `fail` writes the row
it has selected back by its primary key.

`grants` is a ghost in both: the claims, last first.
-/
namespace OpenIntentRouter.Repositories.Outbox

open Core Schemas

/-- mirrors app/schemas/turns.py:103-119 (`TurnOutboxEvent`, with the fields of
the consumer) -/
structure OutboxEvent extends TurnOutboxEvent where
  leaseOwner : Option String
  leaseToken : Option String
  leaseExpiresAt : Option Instant
  publishedAt : Option Instant
  lastErrorCode : Option String
  createdAt : Option Instant
  updatedAt : Option Instant
  deriving DecidableEq

structure Grant where
  outboxId : String
  owner : String
  leaseToken : String
  deriving DecidableEq

inductive OutboxError where
  | outboxClaimConflict (message : String)
  | keyError (key : String)
  | integrityError
  | invalidRequest
  | staleData
  | operationalError
  deriving DecidableEq

inductive OutboxReply where
  | added (event : OutboxEvent) (created : Bool)
  | claimed (event : Option OutboxEvent)
  | updated (event : OutboxEvent)
  deriving DecidableEq

abbrev Entries := Table fun event : OutboxEvent => event.outboxId

/-! ## What both repositories compute -/

/-- mirrors app/repositories/turn_outbox.py:36-45 and :247-257 -/
def claimable (now : Instant) (event : OutboxEvent) : Bool :=
  ((event.status = .pending || event.status = .retry) && event.availableAt ≤ now) ||
  (event.status = .claimed && event.leaseExpiresAt.any (· ≤ now))

/-- The claimable entry with the least `(available_at, outbox_id)`. -/
def firstDue (now : Instant) (entries : Entries) : Option OutboxEvent :=
  (entries.values.filter (claimable now)).argmin fun event =>
    toLex (event.availableAt, event.outboxId)

def claimedEvent (owner leaseToken : String) (now : Instant) (lease : Int) (event : OutboxEvent) :
    OutboxEvent :=
  { event with
    status := .claimed
    leaseOwner := some owner
    leaseToken := some leaseToken
    leaseExpiresAt := some (now + lease)
    updatedAt := some now }

def completedEvent (now : Instant) (event : OutboxEvent) : OutboxEvent :=
  { event with
    status := .completed
    publishedAt := some now
    leaseOwner := none
    leaseToken := none
    leaseExpiresAt := none
    updatedAt := some now }

def failedEvent (now retryAt : Instant) (errorCode : String) (event : OutboxEvent) : OutboxEvent :=
  { event with
    status := if event.maxAttempts ≤ event.attemptCount + 1 then .deadLetter else .retry
    attemptCount := event.attemptCount + 1
    availableAt := retryAt
    lastErrorCode := some errorCode
    leaseOwner := none
    leaseToken := none
    leaseExpiresAt := none
    updatedAt := some now }

def heldBy (owner leaseToken : String) (event : OutboxEvent) : Bool :=
  event.status = .claimed && event.leaseOwner = some owner && event.leaseToken = some leaseToken

theorem outboxId_of_get? {entries : Entries} {id : String} {event : OutboxEvent}
    (h : entries.get? id = some event) : event.outboxId = id :=
  Table.key_of_get? (t := entries) h

theorem firstDue_mem {now : Instant} {entries : Entries} {event : OutboxEvent}
    (h : firstDue now entries = some event) :
    entries.get? event.outboxId = some event ∧ claimable now event = true := by
  have hmem := List.argmin_mem h
  rw [List.mem_filter] at hmem
  exact ⟨(Table.mem_values _ _).1 hmem.1, hmem.2⟩

theorem heldBy_iff {owner leaseToken : String} {event : OutboxEvent} :
    heldBy owner leaseToken event = true ↔ event.status = .claimed ∧
      event.leaseOwner = some owner ∧ event.leaseToken = some leaseToken := by
  simp [heldBy, and_assoc]

/-! ## The calls -/

/-- A call; a claim draws up to three tokens, `lease` and instants in microseconds. -/
inductive Call where
  | addIdempotent (event : OutboxEvent)
  | claim (owner : String) (leaseTokens : Fin 3 → String) (now : Instant) (lease : Int)
  | complete (outboxId owner leaseToken : String) (now : Instant)
  | fail (outboxId owner leaseToken : String) (now retryAt : Instant) (errorCode : String)

def Call.Presents : Call → Grant → Prop
  | .complete outboxId owner leaseToken _, grant => grant = ⟨outboxId, owner, leaseToken⟩
  | .fail outboxId owner leaseToken _ _ _, grant => grant = ⟨outboxId, owner, leaseToken⟩
  | _, _ => False

/-! ## The repository in memory -/

structure MemoryTurnOutboxRepository where
  events : Entries
  idempotencyKeys : Dict String String
  grants : List Grant

namespace MemoryTurnOutboxRepository

def empty : MemoryTurnOutboxRepository := ⟨.empty, .empty, []⟩

/-- mirrors app/repositories/turn_outbox.py:24-32 -/
def addIdempotent (repo : MemoryTurnOutboxRepository) (event : OutboxEvent) :
    Except OutboxError OutboxReply × MemoryTurnOutboxRepository :=
  match (repo.idempotencyKeys.get? event.idempotencyKey).filter (· ≠ "") with
  | some existingId =>
    match repo.events.get? existingId with
    | some existing => (.ok (.added existing false), repo)
    | none => (.error (.keyError existingId), repo)
  | none =>
    (.ok (.added event true),
      { repo with
        events := repo.events.put event
        idempotencyKeys := repo.idempotencyKeys.set event.idempotencyKey event.outboxId })

/-- mirrors app/repositories/turn_outbox.py:34-59 -/
def claim (repo : MemoryTurnOutboxRepository) (owner leaseToken : String) (now : Instant)
    (lease : Int) : Except OutboxError OutboxReply × MemoryTurnOutboxRepository :=
  match firstDue now repo.events with
  | none => (.ok (.claimed none), repo)
  | some event =>
    let claimed := claimedEvent owner leaseToken now lease event
    (.ok (.claimed (some claimed)),
      { repo with
        events := repo.events.put claimed
        grants := ⟨event.outboxId, owner, leaseToken⟩ :: repo.grants })

/-- mirrors app/repositories/turn_outbox.py:110-122 -/
def claimed (repo : MemoryTurnOutboxRepository) (outboxId owner leaseToken : String) :
    Except OutboxError OutboxEvent :=
  match repo.events.get? outboxId with
  | none => .error (.outboxClaimConflict "outbox event not found")
  | some event =>
    if event.status = .completed then .ok event
    else if !heldBy owner leaseToken event then
      .error (.outboxClaimConflict "outbox claim does not match")
    else .ok event

/-- mirrors app/repositories/turn_outbox.py:61-80 -/
def complete (repo : MemoryTurnOutboxRepository) (outboxId owner leaseToken : String)
    (now : Instant) : Except OutboxError OutboxReply × MemoryTurnOutboxRepository :=
  match repo.claimed outboxId owner leaseToken with
  | .error e => (.error e, repo)
  | .ok event =>
    if event.status = .completed then (.ok (.updated event), repo)
    else (.ok (.updated (completedEvent now event)),
      { repo with events := repo.events.put (completedEvent now event) })

/-- mirrors app/repositories/turn_outbox.py:82-108 -/
def fail (repo : MemoryTurnOutboxRepository) (outboxId owner leaseToken : String)
    (now retryAt : Instant) (errorCode : String) :
    Except OutboxError OutboxReply × MemoryTurnOutboxRepository :=
  match repo.claimed outboxId owner leaseToken with
  | .error e => (.error e, repo)
  | .ok event =>
    (.ok (.updated (failedEvent now retryAt errorCode event)),
      { repo with events := repo.events.put (failedEvent now retryAt errorCode event) })

def call (repo : MemoryTurnOutboxRepository) :
    Call → Except OutboxError OutboxReply × MemoryTurnOutboxRepository
  | .addIdempotent event => repo.addIdempotent event
  | .claim owner leaseTokens now lease => repo.claim owner (leaseTokens 0) now lease
  | .complete outboxId owner leaseToken now => repo.complete outboxId owner leaseToken now
  | .fail outboxId owner leaseToken now retryAt errorCode =>
    repo.fail outboxId owner leaseToken now retryAt errorCode

end MemoryTurnOutboxRepository

/-! ## The repository in the database -/

structure OutboxTables where
  rows : Entries
  grants : List Grant

/-- The statement a worker stands at: `failUpdate` is the `UPDATE` of `fail`. -/
inductive Site where
  | statement
  | failUpdate (outboxId owner leaseToken : String)

abbrev OutboxProg := Prog OutboxTables String Site (Except OutboxError OutboxReply)

namespace Db

def read (f : OutboxTables → OutboxProg) : OutboxProg := .select .statement f

def raise (e : OutboxError) : OutboxProg := .ret (.error e)

def rollback (next : OutboxProg) : OutboxProg := .commit (fun _ => none) (raise .invalidRequest) next

/-- `session.refresh(row)` and the reply. -/
def refresh (outboxId : String) (reply : OutboxEvent → OutboxReply) : OutboxProg :=
  read fun d =>
  match d.rows.get? outboxId with
  | none => raise .invalidRequest
  | some row => .ret (.ok (reply row))

/-- mirrors app/repositories/turn_outbox.py:129-144 -/
def addIdempotent (event : OutboxEvent) : OutboxProg :=
  .commit
    (fun d =>
      if d.rows.contains event.outboxId ||
          d.rows.values.any (·.idempotencyKey = event.idempotencyKey) then none
      else some { d with rows := d.rows.put event })
    (.ret (.ok (.added event true)))
    (read fun d =>
      match d.rows.values.find? (·.idempotencyKey = event.idempotencyKey) with
      | none => raise .integrityError
      | some row => .ret (.ok (.added row false)))

/-- One pass of the loop for each token.
mirrors app/repositories/turn_outbox.py:146-177 -/
def claim (owner : String) (now : Instant) (lease : Int) : List String → OutboxProg
  | [] => .ret (.ok (.claimed none))
  | leaseToken :: leaseTokens =>
    read fun d =>
    match firstDue now d.rows with
    | none => .ret (.ok (.claimed none))
    | some due =>
      .lock .statement due.outboxId fun d =>
      match (d.rows.get? due.outboxId).filter (claimable now) with
      | none => rollback (claim owner now lease leaseTokens)
      | some row =>
        .commit
          (fun d => some
            { rows := d.rows.put (claimedEvent owner leaseToken now lease row)
              grants := ⟨due.outboxId, owner, leaseToken⟩ :: d.grants })
          (refresh due.outboxId fun row => .claimed (some row)) (raise .integrityError)

/-- mirrors app/repositories/turn_outbox.py:179-210 -/
def complete (outboxId owner leaseToken : String) (now : Instant) : OutboxProg :=
  read fun d =>
  let existing := d.rows.get? outboxId
  match existing.filter (·.status = .completed) with
  | some row => .ret (.ok (.updated row))
  | none =>
    .lock .statement outboxId fun d =>
    match (d.rows.get? outboxId).filter (heldBy owner leaseToken) with
    | none => raise (.outboxClaimConflict "outbox claim does not match")
    | some row =>
      .commit (fun d => some { d with rows := d.rows.put (completedEvent now row) })
        (if existing.isSome then refresh outboxId .updated else raise .invalidRequest)
        (raise .integrityError)

/-- The session writes a column only if its value differs from the loaded one. -/
def flushed {α : Type} [DecidableEq α] (loaded value current : α) : α :=
  if value = loaded then current else value

/-- The row after the `UPDATE` of `fail`, which has loaded `loaded`. -/
def flushFailed (now retryAt : Instant) (errorCode : String) (loaded current : OutboxEvent) :
    OutboxEvent :=
  let failed := failedEvent now retryAt errorCode loaded
  { current with
    status := flushed loaded.status failed.status current.status
    attemptCount := flushed loaded.attemptCount failed.attemptCount current.attemptCount
    availableAt := flushed loaded.availableAt failed.availableAt current.availableAt
    lastErrorCode := flushed loaded.lastErrorCode failed.lastErrorCode current.lastErrorCode
    leaseOwner := flushed loaded.leaseOwner failed.leaseOwner current.leaseOwner
    leaseToken := flushed loaded.leaseToken failed.leaseToken current.leaseToken
    leaseExpiresAt := flushed loaded.leaseExpiresAt failed.leaseExpiresAt current.leaseExpiresAt
    updatedAt := flushed loaded.updatedAt failed.updatedAt current.updatedAt }

/-- mirrors app/repositories/turn_outbox.py:212-244 -/
def fail (outboxId owner leaseToken : String) (now retryAt : Instant) (errorCode : String) :
    OutboxProg :=
  read fun d =>
  match (d.rows.get? outboxId).filter (heldBy owner leaseToken) with
  | none => raise (.outboxClaimConflict "outbox claim does not match")
  | some loaded =>
    .lock (.failUpdate outboxId owner leaseToken) outboxId fun d =>
    match d.rows.get? outboxId with
    | none => raise .staleData
    | some current =>
      .commit
        (fun d => some { d with rows := d.rows.put (flushFailed now retryAt errorCode loaded current) })
        (refresh outboxId .updated) (raise .integrityError)

def prog : Call → OutboxProg
  | .addIdempotent event => addIdempotent event
  | .claim owner leaseTokens now lease => claim owner now lease (List.ofFn leaseTokens)
  | .complete outboxId owner leaseToken now => complete outboxId owner leaseToken now
  | .fail outboxId owner leaseToken now retryAt errorCode =>
    fail outboxId owner leaseToken now retryAt errorCode

/-- A row that was not changed since is written as the memory repository does. -/
theorem flushFailed_self (now retryAt : Instant) (errorCode : String) (row : OutboxEvent) :
    flushFailed now retryAt errorCode row row = failedEvent now retryAt errorCode row := by
  have hself : ∀ {α : Type} [DecidableEq α] (loaded value : α), flushed loaded value loaded = value := by
    intro α _ loaded value
    unfold flushed
    split
    · next heq => exact heq.symm
    · rfl
  simp only [flushFailed, hself]
  rfl

end Db

end OpenIntentRouter.Repositories.Outbox
