import OpenIntentRouter.DelegatedRuns.Redelivery
import OpenIntentRouter.Services.AgentEventService

/-!
# Accepted agent events

What a submission that `record` accepts has passed, and what it leaves on the
ticket.

* `claim_run`, `settle_run`: the calls of the ticket service, alone;
* `record_iff`: the submissions that are accepted, and what they leave.
-/
namespace OpenIntentRouter.Services.AgentEvents

open Core Schemas Repositories OpenIntentRouter.DelegatedRuns
open Repositories.Tickets Services.Tickets Services.DelegatedRuns

/-! ## The ticket calls, alone -/

/-- The record `resolve_bound` returns. -/
structure Resolves (cfg : Tickets.Config) (tickets : TicketStore) (ticket purpose : String)
    (now : Instant) (record : ExecutionTicketRecord) : Prop where
  get : tickets.records.get? (cfg.digest ticket) = some record
  valid : validToken cfg ticket = true
  unexpired : now < record.claims.expiresAt
  open_ : record.status ≠ .expired ∧ record.status ≠ .revoked
  purpose : record.claims.purpose = purpose

variable {tickets tickets' : TicketStore} {reply : TicketReply} {now occurredAt : Instant}
  {ticket purpose owner eventId : String} {claimed : ExecutionTicketRecord}
  {updates : ExecutionTicketRecord → ExecutionTicketRecord} {payload : AgentEvent}
  {result : DelegatedRunCommandResult} {s s' : State} {generated : Generated} {cfg : Config}
  {t : Readings}

theorem raise_run {message : String} :
    (Tickets.raise message).run tickets ≠ (.ok reply, tickets') := by
  rintro ⟨⟩

theorem resolveBound_run {cfg : Tickets.Config} {k : ExecutionTicketRecord → TicketProg} :
    (resolveBound cfg ticket purpose now k).run tickets = (.ok reply, tickets') ↔
      ∃ record, Resolves cfg tickets ticket purpose now record ∧
        (k record).run tickets = (.ok reply, tickets') := by
  unfold resolveBound Client.look
  rw [Client.run]
  dsimp only [id]
  split
  · next hnone =>
    refine ⟨fun h => absurd h raise_run, ?_⟩
    rintro ⟨record, ⟨hget, hvalid, -⟩, -⟩
    simp [hget, hvalid] at hnone
  · next record hsome =>
    obtain ⟨hget, hvalid⟩ := Option.filter_eq_some_iff.1 hsome
    constructor
    · intro h
      split at h
      · split at h
        · exact absurd h raise_run
        · exact absurd h raise_run
      · next hexp =>
        split at h
        · exact absurd h raise_run
        · next hopen =>
          simp only [Bool.or_eq_true, decide_eq_true_eq, not_or, ne_eq, not_not] at hopen
          exact ⟨record, ⟨hget, hvalid, not_le.1 hexp, hopen.1, hopen.2⟩, h⟩
    · rintro ⟨record', ⟨hget', -, hexp, hopen, hpurpose⟩, h⟩
      cases hget.symm.trans hget'
      rw [if_neg (not_le.2 hexp), if_neg (by simp [hopen.1, hopen.2, hpurpose])]
      exact h

/-- The record a claim returns: the stored one when it is consumed, or the newly claimed one. -/
inductive Claims (cfg : Tickets.Config) (tickets : TicketStore) (record : ExecutionTicketRecord)
    (owner leaseToken : String) (leaseSeconds : Int) (now : Instant) :
    ExecutionTicketRecord → Bool → TicketStore → Prop where
  | consumed : record.status = .consumed →
      Claims cfg tickets record owner leaseToken leaseSeconds now record true tickets
  | claimed : claimable record now = true →
      Claims cfg tickets record owner leaseToken leaseSeconds now
        (claimedRecord owner leaseToken (now + seconds leaseSeconds) record) false
        { records :=
            tickets.records.put (claimedRecord owner leaseToken (now + seconds leaseSeconds) record)
          grants := ⟨record.ticketHash, owner, leaseToken⟩ :: tickets.grants }

theorem Resolves.key {cfg : Tickets.Config} {record : ExecutionTicketRecord}
    (h : Resolves cfg tickets ticket purpose now record) :
    tickets.records.get? record.ticketHash = some record := by
  have hk : record.ticketHash = cfg.digest ticket := Table.key_of_get? h.get
  rw [hk]
  exact h.get

/-- The store's `claim` on the record it holds. -/
theorem claim_held {record : ExecutionTicketRecord}
    (hget : tickets.records.get? record.ticketHash = some record) (owner leaseToken : String)
    (now leaseExpiresAt : Instant) :
    tickets.claim record.ticketHash owner leaseToken now leaseExpiresAt =
      if claimable record now then
        (some (claimedRecord owner leaseToken leaseExpiresAt record),
          { records := tickets.records.put (claimedRecord owner leaseToken leaseExpiresAt record)
            grants := ⟨record.ticketHash, owner, leaseToken⟩ :: tickets.grants })
      else (none, tickets) := by
  simp only [TicketStore.claim, hget, Option.filter_some]
  split
  · next hnone =>
    split at hnone
    · cases hnone
    · next hc => rw [if_neg hc]
  · next found hsome =>
    split at hsome
    · next hc =>
      cases hsome
      rw [if_pos hc]
    · cases hsome

theorem claim_run {cfg : Tickets.Config} {tenantId userId leaseToken : String} {leaseSeconds : Int}
    {duplicate : Bool} :
    (claim cfg ticket tenantId userId purpose owner leaseSeconds now leaseToken).run tickets =
        (.ok (.claim claimed duplicate), tickets') ↔
      0 < leaseSeconds ∧ ∃ record, Resolves cfg tickets ticket purpose now record ∧
        record.claims.tenantId = tenantId ∧ record.claims.userId = userId ∧
        Claims cfg tickets record owner leaseToken leaseSeconds now claimed duplicate tickets' := by
  unfold claim
  split
  · next hl =>
    refine ⟨fun h => absurd h raise_run, ?_⟩
    rintro ⟨hpos, -⟩
    omega
  · next hl =>
    rw [resolve, resolveBound_run]
    constructor
    · rintro ⟨record, hres, h⟩
      split at h
      · exact absurd h raise_run
      · next ho =>
        simp only [Bool.or_eq_true, decide_eq_true_eq, not_or, ne_eq, not_not] at ho
        refine ⟨by omega, record, hres, ho.1, ho.2, ?_⟩
        split at h
        · next hconsumed =>
          cases h
          exact .consumed hconsumed
        · next hconsumed =>
          simp only [Client.atomic, Client.look, Client.run, claim_held hres.key] at h
          by_cases hc : claimable record now = true
          · simp only [if_pos hc] at h
            cases h
            exact .claimed hc
          · -- alone, the record is still the one that was found not to be consumed
            have hnone : (some record).filter (fun r => decide (r.status = .consumed)) = none := by
              simp [hconsumed]
            simp only [if_neg hc, Client.run, hres.key, hnone] at h
            exact absurd h raise_run
    · rintro ⟨-, record, hres, rfl, rfl, hclaims⟩
      refine ⟨record, hres, ?_⟩
      rw [if_neg (by simp)]
      cases hclaims with
      | consumed hc =>
        rw [if_pos hc]
        rfl
      | claimed hc =>
        have hne : record.status ≠ .consumed := by
          intro he
          simp [claimable, he] at hc
        simp only [if_neg hne, Client.atomic, Client.run, claim_held hres.key, if_pos hc]

inductive Settles (eventId : String) (now : Instant) :
    (ExecutionTicketRecord → ExecutionTicketRecord) → Prop where
  | released : Settles eventId now releasedRecord
  | progressed (runStateVersion eventSequence : Nat) :
      Settles eventId now (progressedRecord runStateVersion eventSequence)
  | consumed : Settles eventId now (consumedRecord eventId now)

theorem Settles.finalized (h : Settles eventId now updates) (backend : Backend)
    (record : ExecutionTicketRecord) :
    finalizedRecord backend (updates record) record = updates record := by
  cases backend <;> cases h <;> rfl

theorem Settles.hash (h : Settles eventId now updates) (record : ExecutionTicketRecord) :
    (updates record).ticketHash = record.ticketHash := by
  cases h <;> rfl

def putBack (tickets : TicketStore) (record : ExecutionTicketRecord) : TicketStore :=
  { tickets with records := tickets.records.put record }

theorem putBack_put (records : Table ExecutionTicketRecord.ticketHash) {grants : List Grant}
    {record : ExecutionTicketRecord} (h : Settles eventId now updates) :
    putBack ⟨records.put record, grants⟩ (updates record) = ⟨records.put (updates record), grants⟩ := by
  rw [putBack, Table.put_put records (h.hash record).symm]

theorem finalizeClaim_run {cfg : Tickets.Config} {leaseToken : String}
    {at_ leaseExpiresAt : Instant} {record : ExecutionTicketRecord} {invalid : TicketProg}
    (hu : Settles eventId at_ updates) (hget : tickets.records.get? record.ticketHash =
      some (claimedRecord owner leaseToken leaseExpiresAt record)) :
    (finalizeClaim cfg (some (claimedRecord owner leaseToken leaseExpiresAt record)) owner leaseToken
        now updates invalid).run tickets =
      if now < leaseExpiresAt then
        (.ok (.record (updates (claimedRecord owner leaseToken leaseExpiresAt record))),
          putBack tickets (updates (claimedRecord owner leaseToken leaseExpiresAt record)))
      else invalid.run tickets := by
  have howned : claimOwned (claimedRecord owner leaseToken leaseExpiresAt record) owner leaseToken now =
      decide (now < leaseExpiresAt) := by
    simp [claimOwned, claimedRecord]
  have hhash : (updates (claimedRecord owner leaseToken leaseExpiresAt record)).ticketHash =
      record.ticketHash := hu.hash _
  unfold finalizeClaim
  simp only [Option.filter_some, howned, decide_eq_true_eq]
  split
  · next hnone =>
    split at hnone
    · cases hnone
    · next hn => rw [if_neg hn]
  · next found hsome =>
    split at hsome
    · next hn =>
      cases hsome
      simp only [Client.atomic, Client.run, TicketStore.finalizeClaim, hhash, hget, Option.filter_some,
        howned, decide_eq_true_eq, if_pos hn, hu.finalized, putBack]
    · cases hsome

/-- The settlement of a claim on `record` for an accepted command. -/
inductive Settled (payload : AgentEvent) (record : ExecutionTicketRecord)
    (result : DelegatedRunCommandResult) (settledAt : Instant) :
    (ExecutionTicketRecord → ExecutionTicketRecord) → Prop where
  | consumed : isTerminalType payload.eventType = true →
      Settled payload record result settledAt (consumedRecord payload.eventId settledAt)
  | moved : isTerminalType payload.eventType = false →
      record.runStateVersion < result.run.stateVersion →
      record.eventSequence < eventSequence payload record →
      Settled payload record result settledAt
        (progressedRecord result.run.stateVersion (eventSequence payload record))
  | kept : isTerminalType payload.eventType = false → result.duplicate = true →
      result.run.stateVersion = record.runStateVersion →
      eventSequence payload record = record.eventSequence →
      Settled payload record result settledAt releasedRecord

theorem Settled.settles {record : ExecutionTicketRecord} {settledAt : Instant}
    (h : Settled payload record result settledAt updates) :
    Settles payload.eventId settledAt updates := by
  cases h with
  | consumed => exact .consumed
  | moved => exact .progressed _ _
  | kept => exact .released

section Settlement

variable {cfg : Tickets.Config} {record : ExecutionTicketRecord} {owner leaseToken : String}
  {leaseExpiresAt settledAt : Instant} {tickets tickets' : TicketStore} {reply : TicketReply}
variable (hget : tickets.records.get? record.ticketHash =
  some (claimedRecord owner leaseToken leaseExpiresAt record))
include hget

theorem releaseAfterProgress_run {runStateVersion sequence : Nat} :
    (releaseAfterProgress cfg record.ticketHash owner leaseToken runStateVersion sequence
        settledAt).run tickets = (.ok reply, tickets') ↔
      (record.runStateVersion < runStateVersion ∧ record.eventSequence < sequence) ∧
      settledAt < leaseExpiresAt ∧
      reply = .record (progressedRecord runStateVersion sequence
        (claimedRecord owner leaseToken leaseExpiresAt record)) ∧
      tickets' = putBack tickets (progressedRecord runStateVersion sequence
        (claimedRecord owner leaseToken leaseExpiresAt record)) := by
  simp only [releaseAfterProgress, Client.look, Client.run, hget, id]
  split
  · next hle =>
    refine ⟨fun h => absurd h raise_run, ?_⟩
    rintro ⟨⟨h1, h2⟩, -⟩
    have hle' : (decide (runStateVersion ≤ record.runStateVersion) ||
      decide (sequence ≤ record.eventSequence)) = true := hle
    simp only [Bool.or_eq_true, decide_eq_true_eq] at hle'
    omega
  · next hlt =>
    have hlt' : ¬(decide (runStateVersion ≤ record.runStateVersion) ||
      decide (sequence ≤ record.eventSequence)) = true := hlt
    simp only [Bool.or_eq_true, decide_eq_true_eq, not_or, not_le] at hlt'
    rw [finalizeClaim_run (.progressed runStateVersion sequence : Settles "" settledAt _) hget]
    split
    · next hlease =>
      simp only [Prod.mk.injEq, Except.ok.injEq, hlt'.1, hlt'.2, hlease, true_and, and_self, eq_comm]
    · next hlease =>
      refine ⟨fun h => absurd h raise_run, ?_⟩
      rintro ⟨-, hl, -⟩
      exact absurd hl hlease

theorem releaseClaim_run :
    (releaseClaim cfg record.ticketHash owner leaseToken settledAt).run tickets =
        (.ok reply, tickets') ↔
      settledAt < leaseExpiresAt ∧
      reply = .record (releasedRecord (claimedRecord owner leaseToken leaseExpiresAt record)) ∧
      tickets' = putBack tickets
        (releasedRecord (claimedRecord owner leaseToken leaseExpiresAt record)) := by
  simp only [releaseClaim, Client.look, Client.run, hget, id]
  rw [finalizeClaim_run (.released : Settles "" settledAt _) hget]
  split
  · next hlease => simp only [Prod.mk.injEq, Except.ok.injEq, hlease, true_and, eq_comm]
  · next hlease =>
    refine ⟨fun h => absurd h raise_run, ?_⟩
    rintro ⟨hl, -⟩
    exact absurd hl hlease

theorem consume_run :
    (consume cfg record.ticketHash eventId owner leaseToken settledAt).run tickets =
        (.ok reply, tickets') ↔
      settledAt < leaseExpiresAt ∧
      reply = .record (consumedRecord eventId settledAt
        (claimedRecord owner leaseToken leaseExpiresAt record)) ∧
      tickets' = putBack tickets (consumedRecord eventId settledAt
        (claimedRecord owner leaseToken leaseExpiresAt record)) := by
  have hopen : (claimedRecord owner leaseToken leaseExpiresAt record).status ≠ .consumed := by
    simp [claimedRecord]
  simp only [consume, Client.look, Client.run, hget, id, if_neg hopen]
  rw [finalizeClaim_run (.consumed : Settles eventId settledAt _) hget]
  split
  · next hlease => simp only [Prod.mk.injEq, Except.ok.injEq, hlease, true_and, eq_comm]
  · next hlease =>
    have hnone : (some (claimedRecord owner leaseToken leaseExpiresAt record)).filter
        (fun r => decide (r.status = .consumed)) = none := by
      simp [hopen]
    simp only [Client.run, hget, hnone, id]
    refine ⟨fun h => absurd h raise_run, ?_⟩
    rintro ⟨hl, -⟩
    exact absurd hl hlease

/-- The settlement of a claim goes through while its lease runs, when the cursor allows it. -/
theorem settle_run {service : Config} {readings : Readings}
    (htoken : readings.leaseToken = leaseToken) :
    (settle service payload (claimedRecord owner leaseToken leaseExpiresAt record) record.ticketHash
        owner readings result).run tickets = (.ok reply, tickets') ↔
      readings.settledAt < leaseExpiresAt ∧
      ∃ updates, Settled payload record result readings.settledAt updates ∧
        reply = .record (updates (claimedRecord owner leaseToken leaseExpiresAt record)) ∧
        tickets' = putBack tickets (updates (claimedRecord owner leaseToken leaseExpiresAt record)) := by
  subst htoken
  have hsequence : eventSequence payload (claimedRecord owner readings.leaseToken leaseExpiresAt record) =
      eventSequence payload record := rfl
  have hversion : (claimedRecord owner readings.leaseToken leaseExpiresAt record).runStateVersion =
      record.runStateVersion := rfl
  have hcursor : (claimedRecord owner readings.leaseToken leaseExpiresAt record).eventSequence =
      record.eventSequence := rfl
  have hmoved : isTerminalType payload.eventType = false →
      ((releaseAfterProgress service.tickets record.ticketHash owner readings.leaseToken
          result.run.stateVersion (eventSequence payload record) readings.settledAt).run tickets =
        (.ok reply, tickets') → readings.settledAt < leaseExpiresAt ∧
      ∃ updates, Settled payload record result readings.settledAt updates ∧
        reply = .record (updates (claimedRecord owner readings.leaseToken leaseExpiresAt record)) ∧
        tickets' = putBack tickets
          (updates (claimedRecord owner readings.leaseToken leaseExpiresAt record))) := by
    intro hprogress h
    obtain ⟨⟨hv, hs⟩, hlease, hreply, htickets⟩ := (releaseAfterProgress_run hget).1 h
    exact ⟨hlease, _, .moved hprogress hv hs, hreply, htickets⟩
  simp only [settle, hsequence, hversion, hcursor]
  split
  · next hterminal =>
    rw [consume_run hget]
    constructor
    · rintro ⟨hlease, hreply, htickets⟩
      exact ⟨hlease, _, .consumed hterminal, hreply, htickets⟩
    · rintro ⟨hlease, updates, hsettled, hreply, htickets⟩
      cases hsettled with
      | consumed => exact ⟨hlease, hreply, htickets⟩
      | moved hp | kept hp =>
        rw [hterminal] at hp
        cases hp
  · next hprogress =>
    have hprogress' : isTerminalType payload.eventType = false := by simpa using hprogress
    split
    · next hdup =>
      split
      · next hmove =>
        rw [Bool.and_eq_true, decide_eq_true_eq, decide_eq_true_eq] at hmove
        refine ⟨hmoved hprogress', ?_⟩
        rintro ⟨hlease, updates, hsettled, hreply, htickets⟩
        cases hsettled with
        | consumed hc => exact absurd hc hprogress
        | moved => exact (releaseAfterProgress_run hget).2 ⟨hmove, hlease, hreply, htickets⟩
        | kept _ _ hv => omega
      · next hstay =>
        rw [Bool.and_eq_true, decide_eq_true_eq, decide_eq_true_eq] at hstay
        split
        · next hkeep =>
          rw [Bool.and_eq_true, decide_eq_true_eq, decide_eq_true_eq] at hkeep
          rw [releaseClaim_run hget]
          constructor
          · rintro ⟨hlease, hreply, htickets⟩
            exact ⟨hlease, _, .kept hprogress' hdup hkeep.1 hkeep.2, hreply, htickets⟩
          · rintro ⟨hlease, updates, hsettled, hreply, htickets⟩
            cases hsettled with
            | consumed hc => exact absurd hc hprogress
            | moved _ hv hs => exact absurd ⟨hv, hs⟩ hstay
            | kept => exact ⟨hlease, hreply, htickets⟩
        · next hkeep =>
          rw [Bool.and_eq_true, decide_eq_true_eq, decide_eq_true_eq] at hkeep
          refine ⟨fun h => absurd h raise_run, ?_⟩
          rintro ⟨-, updates, hsettled, -⟩
          cases hsettled with
          | consumed hc => exact absurd hc hprogress
          | moved _ hv hs => exact absurd ⟨hv, hs⟩ hstay
          | kept _ _ hv hs => exact absurd ⟨hv, hs⟩ hkeep
    · next hfirst =>
      refine ⟨hmoved hprogress', ?_⟩
      rintro ⟨hlease, updates, hsettled, hreply, htickets⟩
      cases hsettled with
      | consumed hc => exact absurd hc hprogress
      | moved _ hv hs => exact (releaseAfterProgress_run hget).2 ⟨⟨hv, hs⟩, hlease, hreply, htickets⟩
      | kept _ hdup => exact absurd hdup hfirst

end Settlement

/-! ## Accepted submissions -/

theorem onTickets_ok {raised : TicketError → Raised} {q : TicketProg} :
    (onTickets raised q).run s = (.ok reply, s') ↔
      q.run s.tickets = (.ok reply, s'.tickets) ∧ s'.stores = s.stores := by
  rw [onTickets, Stateful.run_lift_ok]
  obtain ⟨stores', tickets'⟩ := s'
  simp only [State.mk.injEq, Prod.ext_iff, and_assoc, eq_comm (a := s.stores)]
  tauto

theorem onRuns_ok {command : AgentCommand} :
    (onRuns generated command).run s = (.ok result, s') ↔
      serve generated command s.stores = (.ok result, s'.stores) ∧ s'.tickets = s.tickets := by
  rw [onRuns, Stateful.run_lift_ok]
  obtain ⟨stores', tickets'⟩ := s'
  simp only [State.mk.injEq, Prod.ext_iff, and_assoc, eq_comm (a := s.tickets)]

theorem applyDelegatedEvent_ok {record : ExecutionTicketRecord} :
    (applyDelegatedEvent cfg payload record occurredAt generated).run s = (.ok result, s') ↔
      ∃ command, commandOf cfg payload record occurredAt = .ok command ∧
        serve generated command s.stores = (.ok result, s'.stores) ∧ s'.tickets = s.tickets := by
  simp only [applyDelegatedEvent, Stateful.run_bind_ok, Stateful.run_ofExcept_ok, onRuns_ok]
  constructor
  · rintro ⟨command, s1, ⟨hcommand, rfl⟩, h⟩
    exact ⟨command, hcommand, h⟩
  · rintro ⟨command, hcommand, h⟩
    exact ⟨command, s, ⟨hcommand, rfl⟩, h⟩

/-- A block whose exceptions become rejections returns when the block does. -/
theorem rejecting_ok {α : Type} {cleanup : Service Unit} {body : Service α} {a : α} :
    (rejecting cleanup body).run s = (.ok a, s') ↔ body.run s = (.ok a, s') := by
  rw [rejecting, Stateful.run_tryCatch_ok]
  refine ⟨?_, .inl⟩
  rintro (h | ⟨raised, s1, -, h⟩)
  · exact h
  · split at h
    · obtain ⟨_, s2, -, h⟩ := Stateful.run_bind_ok.1 h
      cases h
    · cases h

theorem resolveTicket_ok {record : ExecutionTicketRecord} :
    (resolveTicket cfg ticket now).run s = (.ok record, s') ↔
      Resolves cfg.tickets s.tickets ticket executionTicketPurpose now record ∧ s' = s := by
  simp only [resolveTicket, Stateful.run_bind_ok, onTickets_ok, resolveBound_run]
  constructor
  · rintro ⟨reply, s1, ⟨⟨found, hres, hreply⟩, hstores⟩, h⟩
    obtain ⟨stores, tickets⟩ := s1
    obtain ⟨hr, ht⟩ := Prod.mk.inj hreply
    cases hr
    cases h
    refine ⟨hres, ?_⟩
    show State.mk stores tickets = s
    rw [show stores = s.stores from hstores, show tickets = s.tickets from ht.symm]
  · rintro ⟨hres, rfl⟩
    exact ⟨.record record, s', ⟨⟨record, hres, rfl⟩, rfl⟩, rfl⟩

theorem claimTicket_ok {claims : ExecutionTicketClaims} {readings : Readings} {duplicate : Bool} :
    (claimTicket cfg ticket owner claims readings).run s = (.ok (claimed, duplicate), s') ↔
      0 < cfg.leaseSeconds ∧ ∃ record,
        Resolves cfg.tickets s.tickets ticket executionTicketPurpose readings.claimedAt record ∧
        record.claims.tenantId = claims.tenantId ∧ record.claims.userId = claims.userId ∧
        Claims cfg.tickets s.tickets record owner readings.leaseToken cfg.leaseSeconds
          readings.claimedAt claimed duplicate s'.tickets ∧ s'.stores = s.stores := by
  simp only [claimTicket, Stateful.run_bind_ok, onTickets_ok]
  constructor
  · rintro ⟨reply, s1, ⟨hrun, hstores⟩, h⟩
    split at h
    · cases h
      obtain ⟨hlease, record, hres, ht, hu, hclaims⟩ := claim_run.1 hrun
      exact ⟨hlease, record, hres, ht, hu, hclaims, hstores⟩
    · cases h
  · rintro ⟨hlease, record, hres, ht, hu, hclaims, hstores⟩
    exact ⟨_, s', ⟨claim_run.2 ⟨hlease, record, hres, ht, hu, hclaims⟩, hstores⟩, rfl⟩

structure Submits (cfg : Config) (s : State) (submission : Submission) (t : Readings)
    (record : ExecutionTicketRecord) (run : AgentRun) (command : AgentCommand)
    (result : DelegatedRunCommandResult) (stores' : Stores) : Prop where
  ticket : submission.executionTicket.getD "" ≠ ""
  resolves : Resolves cfg.tickets s.tickets (submission.executionTicket.getD "")
    executionTicketPurpose t.resolvedAt record
  unexpired : t.claimedAt < record.claims.expiresAt
  lease : 0 < cfg.leaseSeconds
  correlation : validateTicketCorrelation submission.payload submission.pathRunId record.claims = .ok ()
  canonical : validateCanonicalRun submission.payload record s.stores = .ok run
  contract : ∃ status, validateAgentEventContract submission.payload = .ok status
  issues : ∃ occurredAt, resolveEventOccurrence submission.payload record run t.now = .ok occurredAt ∧
    commandOf cfg submission.payload record occurredAt = .ok command
  serves : serve t.generated command s.stores = (.ok result, stores')

def claimOf (cfg : Config) (submission : Submission) (t : Readings)
    (record : ExecutionTicketRecord) : ExecutionTicketRecord :=
  claimedRecord (claimOwner submission.payload) t.leaseToken
    (t.claimedAt + seconds cfg.leaseSeconds) record

inductive Concludes (cfg : Config) (submission : Submission) (t : Readings)
    (record : ExecutionTicketRecord) (result : DelegatedRunCommandResult) (tickets : TicketStore) :
    TicketStore → AgentEventResponse → Prop where
  | replayed : record.status = .consumed →
      record.consumedEventId = some submission.payload.eventId →
      isTerminalType submission.payload.eventType = true → result.duplicate = true →
      Concludes cfg submission t record result tickets tickets
        { eventId := submission.payload.eventId, accepted := true, duplicate := true
          message := "Agent event already committed" }
  | committed (updates : ExecutionTicketRecord → ExecutionTicketRecord) :
      claimable record t.claimedAt = true → t.settledAt < t.claimedAt + seconds cfg.leaseSeconds →
      Settled submission.payload record result t.settledAt updates →
      Concludes cfg submission t record result tickets
        { records := tickets.records.put (updates (claimOf cfg submission t record))
          grants := ⟨record.ticketHash, claimOwner submission.payload, t.leaseToken⟩ :: tickets.grants }
        { eventId := submission.payload.eventId, accepted := true, duplicate := result.duplicate
          message := "Agent event committed" }

theorem validateConsumedReplay_ok {record : ExecutionTicketRecord} {reply : AgentEventResponse} :
    (validateConsumedReplay cfg payload record occurredAt t).run s = (.ok reply, s') ↔
      record.consumedEventId = some payload.eventId ∧ isTerminalType payload.eventType = true ∧
      ∃ command result, commandOf cfg payload record occurredAt = .ok command ∧
        serve t.generated command s.stores = (.ok result, s'.stores) ∧ s'.tickets = s.tickets ∧
        result.duplicate = true ∧
        reply = { eventId := payload.eventId, accepted := true, duplicate := true
                  message := "Agent event already committed" } := by
  unfold validateConsumedReplay
  split
  · next hother =>
    refine ⟨fun h => (by cases h), ?_⟩
    rintro ⟨hconsumed, -⟩
    exact absurd hconsumed hother
  · next hconsumed =>
    rw [not_not] at hconsumed
    simp only [Stateful.run_bind_ok, rejecting_ok, applyDelegatedEvent_ok]
    constructor
    · rintro ⟨result, s1, ⟨command, hcommand, hserve, htickets⟩, h⟩
      split at h
      · cases h
      · next hdup =>
        simp only [Bool.or_eq_true, Bool.not_eq_true', not_or, Bool.not_eq_false] at hdup
        cases h
        exact ⟨hconsumed, hdup.1, command, result, hcommand, hserve, htickets, hdup.2, rfl⟩
    · rintro ⟨-, hterminal, command, result, hcommand, hserve, htickets, hdup, rfl⟩
      refine ⟨result, s', ⟨command, hcommand, hserve, htickets⟩, ?_⟩
      rw [if_neg (by simp [hterminal, hdup])]
      rfl

theorem commitEvent_ok {record : ExecutionTicketRecord} {reply : AgentEventResponse} :
    (commitEvent cfg ticket payload record occurredAt t).run s = (.ok reply, s') ↔
      ∃ command result settled, commandOf cfg payload record occurredAt = .ok command ∧
        serve t.generated command s.stores = (.ok result, s'.stores) ∧
        (settle cfg payload record (cfg.tickets.digest ticket) (claimOwner payload) t result).run
          s.tickets = (.ok settled, s'.tickets) ∧
        reply = { eventId := payload.eventId, accepted := true, duplicate := result.duplicate
                  message := "Agent event committed" } := by
  simp only [commitEvent, Stateful.run_bind_ok, rejecting_ok, applyDelegatedEvent_ok, onTickets_ok]
  constructor
  · rintro ⟨result, s1, ⟨_, s2, ⟨command, hcommand, hserve, htickets⟩, settled, s3,
      ⟨hsettle, hstores⟩, h⟩, hreply⟩
    cases h
    cases hreply
    rw [htickets] at hsettle
    rw [← hstores] at hserve
    exact ⟨command, result, settled, hcommand, hserve, hsettle, rfl⟩
  · rintro ⟨command, result, settled, hcommand, hserve, hsettle, rfl⟩
    exact ⟨result, s', ⟨result, ⟨s'.stores, s.tickets⟩, ⟨command, hcommand, hserve, rfl⟩, settled, s',
      ⟨hsettle, rfl⟩, rfl⟩, rfl⟩

/-- The submissions that are accepted, and what they leave. -/
theorem record_iff {submission : Submission} {reply : AgentEventResponse} :
    (record cfg submission t).run s = (.ok reply, s') ↔
      ∃ record run command result, Submits cfg s submission t record run command result s'.stores ∧
        Concludes cfg submission t record result s.tickets s'.tickets reply := by
  unfold AgentEvents.record
  dsimp only
  split
  · next hempty =>
    refine ⟨fun h => (by cases h), ?_⟩
    rintro ⟨_, _, _, _, hsub, -⟩
    exact absurd hempty hsub.ticket
  · next hticket =>
    simp only [Stateful.run_bind_ok, resolveTicket_ok, Stateful.run_ofExcept_ok, Stateful.run_lift_ok]
    constructor
    · rintro ⟨resolved, s1, ⟨hres, rfl⟩, _, s2, ⟨hcorr, rfl⟩, run, s3, hrun, status, s4,
        ⟨hcontract, rfl⟩, ⟨claimed, duplicate⟩, s5, hclaim, occurredAt, s6, ⟨hocc, rfl⟩, h⟩
      obtain ⟨hcanonical, rfl⟩ := Prod.mk.inj hrun
      obtain ⟨hlease, again, hresAgain, -, -, hclaims, hstores⟩ := claimTicket_ok.1 hclaim
      obtain rfl : resolved = again := Option.some.inj (hres.get.symm.trans hresAgain.get)
      obtain ⟨claimedStores, claimedTickets⟩ := s6
      obtain rfl : claimedStores = _ := hstores
      dsimp only at hclaims h
      cases hclaims with
      | consumed hconsumed =>
        rw [if_pos rfl] at h
        obtain ⟨hevent, hterminal, command, result, hcommand, hserve, htickets, hdup, rfl⟩ :=
          validateConsumedReplay_ok.1 h
        refine ⟨resolved, run, command, result, ⟨hticket, hres, hresAgain.unexpired, hlease, hcorr,
          hcanonical, ⟨status, hcontract⟩, ⟨occurredAt, hocc, hcommand⟩, hserve⟩, ?_⟩
        rw [htickets]
        exact .replayed hconsumed hevent hterminal hdup
      | claimed hclaimable =>
        rw [if_neg (by simp)] at h
        split at h
        · cases h
        · obtain ⟨command, result, settled, hcommand, hserve, hsettle, rfl⟩ := commitEvent_ok.1 h
          have hhash : cfg.tickets.digest (submission.executionTicket.getD "") = resolved.ticketHash :=
            (Table.key_of_get? hres.get).symm
          rw [hhash] at hsettle
          obtain ⟨htime, updates, hsettled, -, htickets⟩ :=
            (settle_run (Table.get?_put_self _ _) rfl).1 hsettle
          refine ⟨resolved, run, command, result, ⟨hticket, hres, hresAgain.unexpired, hlease, hcorr,
            hcanonical, ⟨status, hcontract⟩, ⟨occurredAt, hocc, hcommand⟩, hserve⟩, ?_⟩
          rw [htickets, putBack_put _ hsettled.settles]
          exact .committed updates hclaimable htime hsettled
    · rintro ⟨record, run, command, result, hsub, hconc⟩
      obtain ⟨status, hcontract⟩ := hsub.contract
      obtain ⟨occurredAt, hocc, hcommand⟩ := hsub.issues
      have hres : Resolves cfg.tickets s.tickets (submission.executionTicket.getD "")
          executionTicketPurpose t.claimedAt record := { hsub.resolves with unexpired := hsub.unexpired }
      generalize hafter : s'.tickets = after at hconc
      cases hconc with
      | replayed hconsumed hevent hterminal hdup =>
        refine ⟨record, s, ⟨hsub.resolves, rfl⟩, (), s, ⟨hsub.correlation, rfl⟩, run, s,
          Prod.ext hsub.canonical rfl, status, s, ⟨hcontract, rfl⟩, (record, true), s,
          claimTicket_ok.2 ⟨hsub.lease, record, hres, rfl, rfl, .consumed hconsumed, rfl⟩,
          occurredAt, s, ⟨hocc, rfl⟩, ?_⟩
        rw [if_pos rfl]
        exact validateConsumedReplay_ok.2
          ⟨hevent, hterminal, command, result, hcommand, hsub.serves, hafter, hdup, rfl⟩
      | committed updates hclaimable htime hsettled =>
        refine ⟨record, s, ⟨hsub.resolves, rfl⟩, (), s, ⟨hsub.correlation, rfl⟩, run, s,
          Prod.ext hsub.canonical rfl, status, s, ⟨hcontract, rfl⟩,
          (claimOf cfg submission t record, false), ⟨s.stores, _⟩,
          claimTicket_ok.2 ⟨hsub.lease, record, hres, rfl, rfl, .claimed hclaimable, rfl⟩,
          occurredAt, _, ⟨hocc, rfl⟩, ?_⟩
        have htoken : ¬(decide ((claimOf cfg submission t record).leaseToken = none) ||
            decide ((claimOf cfg submission t record).leaseToken = some "")) = true := by
          simp [claimOf, claimedRecord, t.leaseToken_ne]
        rw [if_neg (by simp), if_neg htoken]
        have hhash : cfg.tickets.digest (submission.executionTicket.getD "") = record.ticketHash :=
          (Table.key_of_get? hsub.resolves.get).symm
        refine commitEvent_ok.2 ⟨command, result, .record (updates (claimOf cfg submission t record)),
          hcommand, hsub.serves, ?_, rfl⟩
        rw [hhash]
        refine (settle_run (Table.get?_put_self _ _) rfl).2 ⟨htime, updates, hsettled, rfl, ?_⟩
        rw [hafter]
        exact (putBack_put _ hsettled.settles).symm

end OpenIntentRouter.Services.AgentEvents
