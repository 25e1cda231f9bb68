import OpenIntentRouter.Core.Dict
import OpenIntentRouter.Schemas.ExecutionTickets

/-!
# The ticket stores

Each call is one atomic step: under a lock in memory, a single guarded `UPDATE`
(and a read of the updated row in the same transaction) in the database.
`finalize_claim` is a compare-and-set on owner, token and lease; it writes the
record it is given, the database only the columns that can differ.

`grants` is a ghost: the successful claims, last first.
-/
namespace OpenIntentRouter.Repositories.Tickets

open Core Schemas

inductive Backend where
  | memory | database
  deriving DecidableEq

structure Grant where
  ticketHash : String
  owner : String
  leaseToken : String
  deriving DecidableEq

structure TicketStore where
  records : Table ExecutionTicketRecord.ticketHash
  grants : List Grant

namespace TicketStore

def empty : TicketStore := ⟨.empty, []⟩

end TicketStore

/-! ## The tests -/

/-- mirrors app/repositories/execution_tickets.py:344-349 -/
def claimable (record : ExecutionTicketRecord) (now : Instant) : Bool :=
  record.status = .issued ||
  (record.status = .claimed && record.leaseExpiresAt.any (· ≤ now))

/-- mirrors app/repositories/execution_tickets.py:352-364 -/
def claimOwned (record : ExecutionTicketRecord) (owner leaseToken : String) (now : Instant) : Bool :=
  record.status = .claimed && record.leaseOwner = some owner &&
  record.leaseToken = some leaseToken && record.leaseExpiresAt.any (now < ·)

/-- `status in {ISSUED, CLAIMED}`. -/
def isOpen (record : ExecutionTicketRecord) : Bool :=
  record.status = .issued || record.status = .claimed

/-- mirrors app/repositories/execution_tickets.py:329-341 -/
def matchesLegacy (query : LegacyExecutionCorrelationQuery) (record : ExecutionTicketRecord) : Bool :=
  isOpen record && query.now < record.claims.expiresAt &&
  record.claims.tenantId = query.tenantId && record.claims.userId = query.userId &&
  (query.requestId = none || some record.claims.requestId = query.requestId) &&
  record.claims.agentId = query.agentId && record.claims.planId = query.planId &&
  record.claims.stepId = query.stepId && record.claims.purpose = query.purpose

/-! ## What the calls write -/

def claimedRecord (owner leaseToken : String) (leaseExpiresAt : Instant)
    (record : ExecutionTicketRecord) : ExecutionTicketRecord :=
  { record with
    status := .claimed
    leaseOwner := some owner
    leaseToken := some leaseToken
    leaseExpiresAt := some leaseExpiresAt }

def expiredRecord (record : ExecutionTicketRecord) : ExecutionTicketRecord :=
  { record with
    status := .expired
    leaseOwner := none
    leaseToken := none
    leaseExpiresAt := none }

/-- The record `finalize_claim` leaves. -/
def finalizedRecord : Backend → ExecutionTicketRecord → ExecutionTicketRecord → ExecutionTicketRecord
  | .memory, record, _ => record
  | .database, record, current =>
    { current with
      status := record.status
      runStateVersion := record.runStateVersion
      eventSequence := record.eventSequence
      leaseOwner := record.leaseOwner
      leaseToken := record.leaseToken
      leaseExpiresAt := record.leaseExpiresAt
      consumedEventId := record.consumedEventId
      consumedAt := record.consumedAt }

namespace TicketStore

/-- mirrors app/repositories/execution_tickets.py:60-64 and :144-170 -/
def put (store : TicketStore) (record : ExecutionTicketRecord) : Bool × TicketStore :=
  if store.records.contains record.ticketHash then (false, store)
  else (true, { store with records := store.records.put record })

/-- mirrors app/repositories/execution_tickets.py:71-93 and :177-212 -/
def claim (store : TicketStore) (ticketHash owner leaseToken : String)
    (now leaseExpiresAt : Instant) : Option ExecutionTicketRecord × TicketStore :=
  match (store.records.get? ticketHash).filter (claimable · now) with
  | none => (none, store)
  | some record =>
    let claimed := claimedRecord owner leaseToken leaseExpiresAt record
    (some claimed,
      { records := store.records.put claimed
        grants := ⟨ticketHash, owner, leaseToken⟩ :: store.grants })

/-- mirrors app/repositories/execution_tickets.py:95-108 and :214-249 -/
def finalizeClaim (backend : Backend) (store : TicketStore) (record : ExecutionTicketRecord)
    (owner leaseToken : String) (now : Instant) : Option ExecutionTicketRecord × TicketStore :=
  match (store.records.get? record.ticketHash).filter (claimOwned · owner leaseToken now) with
  | none => (none, store)
  | some current =>
    let finalized := finalizedRecord backend record current
    (some finalized, { store with records := store.records.put finalized })

/-- mirrors app/repositories/execution_tickets.py:110-127 and :251-276 -/
def expire (store : TicketStore) (ticketHash : String) :
    Option ExecutionTicketRecord × TicketStore :=
  match (store.records.get? ticketHash).filter isOpen with
  | none => (none, store)
  | some record =>
    (some (expiredRecord record), { store with records := store.records.put (expiredRecord record) })

/-- mirrors app/repositories/execution_tickets.py:129-137 and :278-302 -/
def findActive (store : TicketStore) (query : LegacyExecutionCorrelationQuery) :
    List ExecutionTicketRecord :=
  store.records.values.filter (matchesLegacy query)

end TicketStore

end OpenIntentRouter.Repositories.Tickets
