import OpenIntentRouter.Schemas.DelegatedRuns

/-!
# Execution tickets

The records of `app/schemas/execution_tickets.py`. A ticket is a bearer token;
the store keeps its hash, the claims it was issued for, its state and the
cursor (run state version and event sequence) of the last event it let through.
-/
namespace OpenIntentRouter.Schemas

/-- mirrors app/schemas/execution_tickets.py:9-14 -/
inductive ExecutionTicketStatus where
  | issued | claimed | consumed | expired | revoked
  deriving DecidableEq

/-- mirrors app/schemas/execution_tickets.py:17-28 -/
structure ExecutionTicketClaims where
  requestId : String
  runId : String
  turnId : String
  tenantId : String
  userId : String
  agentId : String
  planId : Option String
  stepId : Option String
  purpose : String
  expiresAt : Instant
  nonce : String
  deriving DecidableEq

/-- The `Field` constraints of the claims. -/
def ExecutionTicketClaims.valid (claims : ExecutionTicketClaims) : Bool :=
  [claims.requestId, claims.runId, claims.turnId, claims.tenantId, claims.userId,
    claims.agentId].all isIdentifier &&
  [claims.planId, claims.stepId].all isOptionalIdentifier &&
  1 ≤ claims.purpose.length && claims.purpose.length ≤ 64 &&
  16 ≤ claims.nonce.length && claims.nonce.length ≤ 256

/-- mirrors app/schemas/execution_tickets.py:31-41 -/
structure ExecutionTicketRecord where
  ticketHash : String
  claims : ExecutionTicketClaims
  status : ExecutionTicketStatus
  runStateVersion : Nat
  eventSequence : Nat
  leaseOwner : Option String
  leaseToken : Option String
  leaseExpiresAt : Option Instant
  consumedEventId : Option String
  consumedAt : Option Instant
  deriving DecidableEq

/-- mirrors app/schemas/execution_tickets.py:54-63 -/
structure LegacyExecutionCorrelationQuery where
  tenantId : String
  userId : String
  requestId : Option String
  agentId : String
  planId : Option String
  stepId : Option String
  eventId : String
  purpose : String
  now : Instant
  deriving DecidableEq

end OpenIntentRouter.Schemas
