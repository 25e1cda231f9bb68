import OpenIntentRouter.Core.Clients
import OpenIntentRouter.Core.Text
import OpenIntentRouter.Repositories.ExecutionTickets

/-!
# The ticket service

Every operation reads the record and then compares and sets it, so the calls
are `Core.Client`s over the store: other calls may come between two of their
steps. A call's clock readings, and what it draws at random (`nonce`, the
ticket's text, the lease token), are its arguments.
-/
namespace OpenIntentRouter.Services.Tickets

open Core Schemas Repositories.Tickets

inductive TicketError where
  | executionTicketError (message : String)
  | executionTicketConflict (message : String)
  | validationError (message : String)
  | operationalError
  deriving DecidableEq

inductive TicketReply where
  | issued (ticket : String) (claims : ExecutionTicketClaims)
  | claim (record : ExecutionTicketRecord) (duplicate : Bool)
  | record (record : ExecutionTicketRecord)
  | expired (record : Option ExecutionTicketRecord)
  deriving DecidableEq

abbrev TicketProg := Client TicketStore (Except TicketError TicketReply)

/-- `digest` is `hashlib.sha256(...).hexdigest()`. -/
structure Config where
  backend : Backend
  digest : String → String
  secret : Option String

/-- `seconds` as microseconds. -/
def seconds (n : Int) : Int := n * 1000000

/-- `ticket.rpartition(".")` as `(raw, signature)`; `none` without a separator. -/
def rpartition (ticket : List Char) : Option (List Char × List Char) :=
  let signature := (ticket.reverse.takeWhile (· ≠ '.')).reverse
  match ticket.reverse.dropWhile (· ≠ '.') with
  | [] => none
  | _ :: raw => some (raw.reverse, signature)

def signature (cfg : Config) (raw secret : String) : List Char :=
  (cfg.digest (raw ++ "." ++ secret)).toList.take 32

/-- mirrors app/services/execution_ticket_service.py:368-377 -/
def validToken (cfg : Config) (ticket : String) : Bool :=
  if ticket = "" || 512 < ticket.length || ticket.toList.any Text.isSpace then false
  else
    match cfg.secret with
    | none => true
    | some secret =>
      match rpartition ticket.toList with
      | none => false
      | some (raw, given) =>
        raw ≠ [] && given ≠ [] && given = signature cfg (String.ofList raw) secret

/-- mirrors app/services/execution_ticket_service.py:360-365 -/
def encode (cfg : Config) (raw : String) : String :=
  match cfg.secret with
  | some secret => if secret = "" then raw else raw ++ "." ++ String.ofList (signature cfg raw secret)
  | none => raw

def raise (message : String) : TicketProg := .ret (.error (.executionTicketError message))

/-- mirrors app/services/execution_ticket_service.py:31-58 (`issue`); `claims`
without its expiry -/
def issue (cfg : Config) (claims : ExecutionTicketClaims) (ttlSeconds : Int) (now : Instant)
    (raw : String) : TicketProg :=
  if ttlSeconds ≤ 0 then raise "Ticket TTL must be positive"
  else
    let claims := { claims with expiresAt := now + seconds ttlSeconds }
    let ticket := encode cfg raw
    if !claims.valid then .ret (.error (.validationError "ExecutionTicketClaims"))
    else
      .atomic
        (fun store => store.put
          { ticketHash := cfg.digest ticket
            claims
            status := .issued
            runStateVersion := 1
            eventSequence := 0
            leaseOwner := none
            leaseToken := none
            leaseExpiresAt := none
            consumedEventId := none
            consumedAt := none })
        fun stored =>
          if !stored then
            .ret (.error (.executionTicketConflict "Execution Ticket already exists"))
          else if ticket.length < 32 || 512 < ticket.length then
            .ret (.error (.validationError "ExecutionTicketIssueResult.ticket"))
          else .ret (.ok (.issued ticket claims))

/-- mirrors app/services/execution_ticket_service.py:106-127 -/
def resolveBound (cfg : Config) (ticket purpose : String) (now : Instant)
    (k : ExecutionTicketRecord → TicketProg) : TicketProg :=
  .look (fun store => store.records.get? (cfg.digest ticket)) fun record =>
  match record.filter fun _ => validToken cfg ticket with
  | none => raise "Invalid execution ticket"
  | some record =>
    if record.claims.expiresAt ≤ now then
      if record.status ≠ .consumed && record.status ≠ .expired then
        .atomic (fun store => store.expire record.ticketHash) fun _ =>
        raise "Execution ticket expired"
      else raise "Execution ticket expired"
    else if record.status = .expired || record.status = .revoked ||
        record.claims.purpose ≠ purpose then
      raise "Invalid execution ticket"
    else k record

/-- mirrors app/services/execution_ticket_service.py:92-104 -/
def resolve (cfg : Config) (ticket tenantId userId purpose : String) (now : Instant)
    (k : ExecutionTicketRecord → TicketProg) : TicketProg :=
  resolveBound cfg ticket purpose now fun record =>
  if record.claims.tenantId ≠ tenantId || record.claims.userId ≠ userId then
    raise "Invalid execution ticket"
  else k record

/-- mirrors app/services/execution_ticket_service.py:129-164 -/
def claim (cfg : Config) (ticket tenantId userId purpose owner : String) (leaseSeconds : Int)
    (now : Instant) (leaseToken : String) : TicketProg :=
  if leaseSeconds ≤ 0 then raise "Ticket lease must be positive"
  else
    resolve cfg ticket tenantId userId purpose now fun record =>
    if record.status = .consumed then .ret (.ok (.claim record true))
    else
      .atomic
        (fun store => store.claim record.ticketHash owner leaseToken now (now + seconds leaseSeconds))
        fun claimed =>
          match claimed with
          | some claimed => .ret (.ok (.claim claimed false))
          | none =>
            .look (fun store => store.records.get? record.ticketHash) fun canonical =>
            match canonical.filter (·.status = .consumed) with
            | some canonical => .ret (.ok (.claim canonical true))
            | none => raise "Execution ticket is claimed"

/-- mirrors app/services/execution_ticket_service.py:68-90 -/
def claimLegacy (query : LegacyExecutionCorrelationQuery) (owner : String) (leaseSeconds : Int)
    (leaseToken : String) : TicketProg :=
  if leaseSeconds ≤ 0 then raise "Ticket lease must be positive"
  else
    .look (fun store => store.findActive query) fun found =>
    match found with
    | [record] =>
      .atomic
        (fun store => store.claim record.ticketHash owner leaseToken query.now
          (query.now + seconds leaseSeconds))
        fun claimed =>
          match claimed with
          | some claimed => .ret (.ok (.claim claimed false))
          | none => raise "Execution ticket is claimed"
    | _ => raise "Legacy execution correlation is not unique"

def releasedRecord (record : ExecutionTicketRecord) : ExecutionTicketRecord :=
  { record with
    status := .issued
    leaseOwner := none
    leaseToken := none
    leaseExpiresAt := none }

def progressedRecord (runStateVersion eventSequence : Nat) (record : ExecutionTicketRecord) :
    ExecutionTicketRecord :=
  { releasedRecord record with runStateVersion, eventSequence }

def consumedRecord (eventId : String) (now : Instant) (record : ExecutionTicketRecord) :
    ExecutionTicketRecord :=
  { releasedRecord record with
    status := .consumed
    consumedEventId := some eventId
    consumedAt := some now }

/-- `invalid` is what follows the error of a claim that is not, or no longer, owned.
mirrors app/services/execution_ticket_service.py:332-358 (`_finalize_claim`) -/
def finalizeClaim (cfg : Config) (record : Option ExecutionTicketRecord)
    (owner leaseToken : String) (now : Instant)
    (updates : ExecutionTicketRecord → ExecutionTicketRecord) (invalid : TicketProg) : TicketProg :=
  match record.filter (claimOwned · owner leaseToken now) with
  | none => invalid
  | some record =>
    .atomic (fun store => store.finalizeClaim cfg.backend (updates record) owner leaseToken now)
      fun finalized =>
        match finalized with
        | some finalized => .ret (.ok (.record finalized))
        | none => invalid

/-- mirrors app/services/execution_ticket_service.py:166-186 -/
def releaseClaim (cfg : Config) (ticketHash owner leaseToken : String) (now : Instant) :
    TicketProg :=
  .look (fun store => store.records.get? ticketHash) fun record =>
  finalizeClaim cfg record owner leaseToken now releasedRecord
    (raise "Execution ticket claim is invalid")

/-- mirrors app/services/execution_ticket_service.py:260-290
(`_release_record_after_progress`) -/
def releaseAfterProgress (cfg : Config) (ticketHash owner leaseToken : String)
    (runStateVersion eventSequence : Nat) (now : Instant) : TicketProg :=
  .look (fun store => store.records.get? ticketHash) fun record =>
  match record with
  | none => raise "Execution ticket claim is invalid"
  | some record =>
    if runStateVersion ≤ record.runStateVersion || eventSequence ≤ record.eventSequence then
      raise "Execution ticket claim is invalid"
    else
      finalizeClaim cfg (some record) owner leaseToken now
        (progressedRecord runStateVersion eventSequence) (raise "Execution ticket claim is invalid")

/-- mirrors app/services/execution_ticket_service.py:292-330 (`_consume_record`) -/
def consume (cfg : Config) (ticketHash eventId owner leaseToken : String) (now : Instant) :
    TicketProg :=
  .look (fun store => store.records.get? ticketHash) fun record =>
  match record with
  | none => raise "Invalid execution ticket"
  | some record =>
    if record.status = .consumed then
      if record.consumedEventId = some eventId then .ret (.ok (.record record))
      else raise "Execution ticket already consumed"
    else
      finalizeClaim cfg (some record) owner leaseToken now (consumedRecord eventId now)
        (.look (fun store => store.records.get? ticketHash) fun canonical =>
          match canonical.filter (·.status = .consumed) with
          | some canonical =>
            if canonical.consumedEventId = some eventId then .ret (.ok (.record canonical))
            else raise "Execution ticket already consumed"
          | none => raise "Execution ticket claim is invalid")

/-- The store's `expire`. -/
def expire (ticketHash : String) : TicketProg :=
  .atomic (fun store => store.expire ticketHash) fun record => .ret (.ok (.expired record))

/-- The calls; those by ticket and those by its hash end in the same functions. -/
inductive Call where
  | issue (claims : ExecutionTicketClaims) (ttlSeconds : Int) (now : Instant) (raw : String)
  | claim (ticket tenantId userId purpose owner : String) (leaseSeconds : Int) (now : Instant)
      (leaseToken : String)
  | claimLegacy (query : LegacyExecutionCorrelationQuery) (owner : String) (leaseSeconds : Int)
      (leaseToken : String)
  | releaseClaim (ticketHash owner leaseToken : String) (now : Instant)
  | releaseAfterProgress (ticketHash owner leaseToken : String)
      (runStateVersion eventSequence : Nat) (now : Instant)
  | consume (ticketHash eventId owner leaseToken : String) (now : Instant)
  | expire (ticketHash : String)

def prog (cfg : Config) : Call → TicketProg
  | .issue claims ttlSeconds now raw => issue cfg claims ttlSeconds now raw
  | .claim ticket tenantId userId purpose owner leaseSeconds now leaseToken =>
    claim cfg ticket tenantId userId purpose owner leaseSeconds now leaseToken
  | .claimLegacy query owner leaseSeconds leaseToken => claimLegacy query owner leaseSeconds leaseToken
  | .releaseClaim ticketHash owner leaseToken now => releaseClaim cfg ticketHash owner leaseToken now
  | .releaseAfterProgress ticketHash owner leaseToken runStateVersion eventSequence now =>
    releaseAfterProgress cfg ticketHash owner leaseToken runStateVersion eventSequence now
  | .consume ticketHash eventId owner leaseToken now =>
    consume cfg ticketHash eventId owner leaseToken now
  | .expire ticketHash => expire ticketHash

end OpenIntentRouter.Services.Tickets
