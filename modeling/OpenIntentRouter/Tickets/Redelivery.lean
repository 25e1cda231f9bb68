import OpenIntentRouter.Tickets.Lifecycle
import OpenIntentRouter.Tickets.Submissions

/-!
# An agent event delivered twice

Two submissions of one payload with one ticket, nothing in between. The second
one goes through the ticket and its cursor again, and its command meets what the
first one has stored.

Of an accepted first submission: its payload has distinct keys, and `record`, `run` and
`command` are those it found and made (app/services/agent_event_service.py:49-302). The ticket
has not expired when the second one resolves and claims it, at whatever times.

* `commandOf_same`: when the two commands are one delivery;
* `redelivers_iff`: when the second submission is accepted as a duplicate and
  changes nothing.
-/
namespace OpenIntentRouter.Services.AgentEvents

open Core Core.Except Schemas Repositories OpenIntentRouter.DelegatedRuns
open Repositories.Tickets Services.Tickets Services.DelegatedRuns

/-! ## The two commands -/

/-- The fields every command of an event has from the event and its ticket. -/
structure Common (payload : AgentEvent) (record : ExecutionTicketRecord) (occurredAt : Instant)
    (command : DelegatedRunEventCommand) : Prop where
  eventId : command.eventId = payload.eventId
  runId : command.runId = record.claims.runId
  turnId : command.turnId = record.claims.turnId
  tenantId : command.tenantId = record.claims.tenantId
  userId : command.userId = record.claims.userId
  agentId : command.agentId = record.claims.agentId
  planId : command.planId = record.claims.planId
  stepId : command.stepId = record.claims.stepId
  version : command.expectedStateVersion = record.runStateVersion
  time : command.occurredAt = occurredAt

variable {payload : AgentEvent} {occurredAt occurredAt' time : Instant}
  {record' : ExecutionTicketRecord} {cfg : Config} {command : AgentCommand}
  {stores stores' : Stores}

theorem Common.same {record : ExecutionTicketRecord} {c d : DelegatedRunEventCommand}
    (h : Common payload record occurredAt c) (h' : Common payload record' occurredAt' d)
    (hclaims : record'.claims = record.claims) : SameEvent c d := by
  obtain ⟨h1, h2, h3, h4, h5, h6, h7, h8, -⟩ := h
  obtain ⟨g1, g2, g3, g4, g5, g6, g7, g8, -⟩ := h'
  rw [hclaims] at g2 g3 g4 g5 g6 g7 g8
  exact ⟨h1.trans g1.symm, h2.trans g2.symm, h3.trans g3.symm, h4.trans g4.symm, h5.trans g5.symm,
    h6.trans g6.symm, h7.trans g7.symm, h8.trans g8.symm⟩

theorem eventCommand_common {record : ExecutionTicketRecord} {command : DelegatedRunEventCommand}
    (h : eventCommand payload record occurredAt = .ok command) :
    Common payload record occurredAt command := by
  unfold eventCommand at h
  dsimp only at h
  split at h
  · cases h
    exact ⟨rfl, rfl, rfl, rfl, rfl, rfl, rfl, rfl, rfl, rfl⟩
  · cases h

/-- The fields of a command do not depend on the cursor of the ticket nor on the time. -/
theorem eventCommand_again {record : ExecutionTicketRecord} {command : DelegatedRunEventCommand}
    (h : eventCommand payload record occurredAt = .ok command)
    (hclaims : record'.claims = record.claims) (hv : 1 ≤ record'.runStateVersion)
    (occurredAt' : Instant) : ∃ again, eventCommand payload record' occurredAt' = .ok again := by
  unfold eventCommand at h
  dsimp only at h
  split at h
  · next hok =>
    unfold eventCommand
    dsimp only
    rw [dif_pos (by rw [hclaims]; exact ⟨hok.1, hv⟩)]
    exact ⟨_, rfl⟩
  · cases h

theorem eventSequence_pos (payload : AgentEvent) (record : ExecutionTicketRecord) :
    1 ≤ eventSequence payload record := by
  unfold eventSequence
  cases h : payload.sequence.filter (· ≠ 0) with
  | none => exact Nat.le_add_left 1 _
  | some n =>
    have hn : n ≠ 0 := by simpa using (Option.filter_eq_some_iff.1 h).2
    exact Nat.one_le_iff_ne_zero.2 hn

theorem progressCommand_ok {record : ExecutionTicketRecord} {command : DelegatedRunProgressCommand}
    (h : progressCommand payload record occurredAt = .ok command) :
    eventCommand payload record occurredAt = .ok command ∧
      command.eventType = payload.eventType ∧ command.sequence = eventSequence payload record ∧
      command.status = (if payload.eventType = .agentClarify then .blocked else .running) ∧
      command.payload = payload.payload := by
  obtain ⟨common, hcommon, h⟩ := bind_eq_ok.1 h
  split at h
  · cases h
    exact ⟨hcommon, rfl, rfl, rfl, rfl⟩
  · cases h

theorem completeCommand_ok {record : ExecutionTicketRecord} {command : DelegatedRunCompleteCommand}
    (h : completeCommand cfg payload record occurredAt = .ok command) :
    eventCommand payload record occurredAt = .ok command ∧
      command.resultId = resultId cfg payload ∧ command.responseText = responseText cfg payload ∧
      command.output = some (objectField payload.payload "output") ∧
      command.artifactRefs = artifactRefs payload.payload := by
  obtain ⟨common, hcommon, h⟩ := bind_eq_ok.1 h
  split at h
  · cases h
    exact ⟨hcommon, rfl, rfl, rfl, rfl⟩
  · cases h

theorem failCommand_ok {record : ExecutionTicketRecord} {command : DelegatedRunFailCommand}
    (h : failCommand payload record occurredAt = .ok command) :
    eventCommand payload record occurredAt = .ok command ∧
      command.error = objectField payload.payload "error" := by
  obtain ⟨common, hcommon, h⟩ := bind_eq_ok.1 h
  cases h
  exact ⟨hcommon, rfl⟩

theorem cancelCommand_ok {record : ExecutionTicketRecord} {command : DelegatedRunCancelCommand}
    (h : cancelCommand cfg payload record occurredAt = .ok command) :
    eventCommand payload record occurredAt = .ok command ∧
      command.reason = cancelReason cfg payload := by
  obtain ⟨common, hcommon, h⟩ := bind_eq_ok.1 h
  split at h
  · cases h
    exact ⟨hcommon, rfl⟩
  · cases h

inductive Issued (cfg : Config) (payload : AgentEvent) (record : ExecutionTicketRecord)
    (occurredAt : Instant) : AgentCommand → Prop where
  | progress {c : DelegatedRunProgressCommand} : isTerminalType payload.eventType = false →
      progressCommand payload record occurredAt = .ok c →
      Issued cfg payload record occurredAt (.progress c)
  | complete {c : DelegatedRunCompleteCommand} : payload.eventType = .agentResult →
      completeCommand cfg payload record occurredAt = .ok c →
      Issued cfg payload record occurredAt (.complete c)
  | fail {c : DelegatedRunFailCommand} : payload.eventType = .agentError →
      failCommand payload record occurredAt = .ok c → Issued cfg payload record occurredAt (.fail c)
  | cancel {c : DelegatedRunCancelCommand} : payload.eventType = .agentCancelled →
      cancelCommand cfg payload record occurredAt = .ok c →
      Issued cfg payload record occurredAt (.cancel c)

theorem commandOf_issued {record : ExecutionTicketRecord}
    (h : commandOf cfg payload record occurredAt = .ok command) :
    Issued cfg payload record occurredAt command := by
  unfold commandOf at h
  cases htype : payload.eventType with
  | agentStarted | agentProgress | agentClarify =>
    rw [htype] at h
    obtain ⟨c, hc, rfl⟩ := map_eq_ok.1 h
    exact .progress (by rw [htype]; rfl) hc
  | agentResult =>
    rw [htype] at h
    obtain ⟨c, hc, rfl⟩ := map_eq_ok.1 h
    exact .complete htype hc
  | agentError =>
    rw [htype] at h
    obtain ⟨c, hc, rfl⟩ := map_eq_ok.1 h
    exact .fail htype hc
  | agentCancelled =>
    rw [htype] at h
    obtain ⟨c, hc, rfl⟩ := map_eq_ok.1 h
    exact .cancel htype hc

theorem Issued.common {record : ExecutionTicketRecord}
    (h : Issued cfg payload record occurredAt command) :
    Common payload record occurredAt command.event := by
  cases h with
  | progress _ hc => exact eventCommand_common (progressCommand_ok hc).1
  | complete _ hc => exact eventCommand_common (completeCommand_ok hc).1
  | fail _ hc => exact eventCommand_common (failCommand_ok hc).1
  | cancel _ hc => exact eventCommand_common (cancelCommand_ok hc).1

/-- The second submission of an event has a command too. -/
theorem commandOf_again {record : ExecutionTicketRecord}
    (h : commandOf cfg payload record occurredAt = .ok command)
    (hclaims : record'.claims = record.claims) (hv : 1 ≤ record'.runStateVersion)
    (occurredAt' : Instant) : ∃ again, commandOf cfg payload record' occurredAt' = .ok again := by
  have hpos := eventSequence_pos payload record'
  unfold commandOf at h ⊢
  cases htype : payload.eventType with
  | agentStarted | agentProgress | agentClarify =>
    rw [htype] at h
    obtain ⟨c, hc, rfl⟩ := map_eq_ok.1 h
    obtain ⟨common, hcommon⟩ := eventCommand_again (progressCommand_ok hc).1 hclaims hv occurredAt'
    simp only [progressCommand, hcommon, htype, ok_bind, hpos]
    exact ⟨_, rfl⟩
  | agentResult =>
    rw [htype] at h
    obtain ⟨c, hc, rfl⟩ := map_eq_ok.1 h
    obtain ⟨common, hcommon⟩ := eventCommand_again (completeCommand_ok hc).1 hclaims hv occurredAt'
    obtain ⟨_, -, hc⟩ := bind_eq_ok.1 hc
    split at hc
    · next hok =>
      simp only [completeCommand, hcommon, ok_bind, dif_pos hok]
      exact ⟨_, rfl⟩
    · cases hc
  | agentError =>
    rw [htype] at h
    obtain ⟨c, hc, rfl⟩ := map_eq_ok.1 h
    obtain ⟨common, hcommon⟩ := eventCommand_again (failCommand_ok hc).1 hclaims hv occurredAt'
    simp only [failCommand, hcommon]
    exact ⟨_, rfl⟩
  | agentCancelled =>
    rw [htype] at h
    obtain ⟨c, hc, rfl⟩ := map_eq_ok.1 h
    obtain ⟨common, hcommon⟩ := eventCommand_again (cancelCommand_ok hc).1 hclaims hv occurredAt'
    obtain ⟨_, -, hc⟩ := bind_eq_ok.1 hc
    split at hc
    · next hok =>
      simp only [cancelCommand, hcommon, ok_bind, dif_pos hok]
      exact ⟨_, rfl⟩
    · cases hc

/-- The commands of two submissions are one delivery, for a progress event if they
carry one sequence. -/
theorem commandOf_same {record : ExecutionTicketRecord} {c d : AgentCommand}
    (hc : Issued cfg payload record occurredAt c) (hd : Issued cfg payload record' occurredAt' d)
    (hclaims : record'.claims = record.claims) (hs : isTerminalType payload.eventType = false →
      eventSequence payload record = eventSequence payload record') : SameDelivery c d := by
  have hsame : SameEvent c.event d.event := hc.common.same hd.common hclaims
  cases hc with
  | progress ht hc =>
    cases hd with
    | progress _ hd =>
      obtain ⟨-, h1, h2, h3, h4⟩ := progressCommand_ok hc
      obtain ⟨-, g1, g2, g3, g4⟩ := progressCommand_ok hd
      exact .progress hsame (h1.trans g1.symm) (h2.trans ((hs ht).trans g2.symm)) (h3.trans g3.symm)
        (h4.trans g4.symm)
    | complete hk | fail hk | cancel hk =>
      rw [hk] at ht
      cases ht
  | complete hk hc =>
    cases hd with
    | progress ht =>
      rw [hk] at ht
      cases ht
    | complete _ hd =>
      obtain ⟨-, h1, h2, h3, h4⟩ := completeCommand_ok hc
      obtain ⟨-, g1, g2, g3, g4⟩ := completeCommand_ok hd
      exact .complete hsame (h1.trans g1.symm) (h2.trans g2.symm) (h3.trans g3.symm)
        (h4.trans g4.symm)
    | fail hk' | cancel hk' =>
      rw [hk] at hk'
      cases hk'
  | fail hk hc =>
    cases hd with
    | progress ht =>
      rw [hk] at ht
      cases ht
    | fail _ hd => exact .fail hsame ((failCommand_ok hc).2.trans (failCommand_ok hd).2.symm)
    | complete hk' | cancel hk' =>
      rw [hk] at hk'
      cases hk'
  | cancel hk hc =>
    cases hd with
    | progress ht =>
      rw [hk] at ht
      cases ht
    | cancel _ hd => exact .cancel hsame ((cancelCommand_ok hc).2.trans (cancelCommand_ok hd).2.symm)
    | complete hk' | fail hk' =>
      rw [hk] at hk'
      cases hk'

/-! ## The bodies of the commands -/

theorem tidy_objectField {payload : JsonDict} (h : Tidy payload) {key : String}
    (hk : key ≠ "knowledge_context") : Tidy (objectField payload key) := by
  unfold objectField
  split
  · next fields hf =>
    refine ⟨sanitizeFields_of_field h.sanitized hk hf, ?_⟩
    exact (Json.distinctKeys_obj.1 h.distinct).2 (key, .obj fields) (Json.mem_of_field hf)
  · exact h

/-- An event as its constructor builds it has a command with tidy bodies. -/
theorem Issued.clean {record : ExecutionTicketRecord}
    (h : Issued cfg payload record occurredAt command) (htidy : Tidy payload.payload) :
    Clean command := by
  cases h with
  | @progress c _ hc =>
    show Tidy c.payload
    rw [(progressCommand_ok hc).2.2.2.2]
    exact htidy
  | @complete c _ hc =>
    obtain ⟨-, -, -, hout, hrefs⟩ := completeCommand_ok hc
    refine ⟨?_, ?_⟩
    · rintro body hbody
      rw [hout] at hbody
      cases hbody
      exact tidy_objectField htidy (by decide)
    · intro item hitem
      rw [hrefs, artifactRefs] at hitem
      split at hitem
      · next items hf =>
        obtain ⟨value, hvalue, hitem⟩ := List.mem_filterMap.1 hitem
        have hitems := (Json.distinctKeys_obj.1 htidy.distinct).2 _ (Json.mem_of_field hf)
        have hdistinct := Json.distinctKeysItems_iff.1 hitems value hvalue
        split at hitem
        · cases hitem
          exact hdistinct
        · cases hitem
      · cases hitem
  | @fail c _ hc =>
    show Tidy c.error
    rw [(failCommand_ok hc).2]
    exact tidy_objectField htidy (by decide)
  | cancel => trivial

/-! ## The second submission -/

def cursor (record : ExecutionTicketRecord) : Nat × Nat := (record.runStateVersion, record.eventSequence)

/-- The same submission, made at `t'`, is accepted as a duplicate and changes neither
the stores nor the cursor of a ticket. -/
def Redelivers (cfg : Config) (submission : Submission) (t' : Readings) (s' : State) : Prop :=
  ∃ reply s2, (record cfg submission t').run s' = (.ok reply, s2) ∧
    reply.accepted = true ∧ reply.duplicate = true ∧ s2.stores = s'.stores ∧
    ∀ ticketHash, (s2.tickets.records.get? ticketHash).map cursor =
      (s'.tickets.records.get? ticketHash).map cursor

theorem validateCanonicalRun_ok {record : ExecutionTicketRecord} {run : AgentRun} :
    validateCanonicalRun payload record stores = .ok run ↔
      stores.getRun record.claims.runId = .ok (some run) ∧
      isCanonicalRun payload record.claims run = true := by
  unfold validateCanonicalRun
  split
  · next e hget => simp [hget]
  · next hget => simp [hget, reject]
  · next found hget =>
    rw [hget]
    split
    · next hcanonical =>
      simp only [Except.ok.injEq, Option.some.injEq]
      constructor
      · rintro rfl
        exact ⟨rfl, hcanonical⟩
      · exact And.left
    · next hother =>
      simp only [reject, reduceCtorEq, Except.ok.injEq, Option.some.injEq, false_iff]
      rintro ⟨rfl, hcanonical⟩
      exact hother hcanonical

structure Left (cfg : Config) (submission : Submission) (s' : State)
    (record record' : ExecutionTicketRecord) (run run' : AgentRun) (command : AgentCommand) : Prop where
  get : s'.tickets.records.get? (cfg.tickets.digest (submission.executionTicket.getD "")) =
    some record'
  claims : record'.claims = record.claims
  version : 1 ≤ record'.runStateVersion
  reads : s'.stores.getRun record.claims.runId = .ok (some run')
  canonical : isCanonicalRun submission.payload record.claims run' = true
  referable : Referable run'
  started : run'.createdAt = run.createdAt
  found : ∀ event, s'.stores.ownEvent command.event = some event → Matches event command

section Second

variable {cfg : Config} {submission : Submission} {t t' : Readings} {s s' : State}
  {record record' : ExecutionTicketRecord} {run run' : AgentRun} {command : AgentCommand}
  {result : DelegatedRunCommandResult}

/-- The command of an event that is submitted at `now`. -/
def CommandAt (cfg : Config) (payload : AgentEvent) (record : ExecutionTicketRecord) (run : AgentRun)
    (now : Instant) (command : AgentCommand) : Prop :=
  ∃ occurredAt, resolveEventOccurrence payload record run now = .ok occurredAt ∧
    commandOf cfg payload record occurredAt = .ok command

variable (h : Submits cfg s submission t record run command result s'.stores)
  (hl : Left cfg submission s' record record' run run' command)
  (hresolved : t'.resolvedAt < record.claims.expiresAt)
  (hclaimed : t'.claimedAt < record.claims.expiresAt)
include h hl hresolved hclaimed

theorem second_iff (hopen : record'.status ≠ .expired ∧ record'.status ≠ .revoked)
    {reply : AgentEventResponse} {s2 : State} :
    (AgentEvents.record cfg submission t').run s' = (.ok reply, s2) ↔
      ∃ again result2, CommandAt cfg submission.payload record' run' t'.now again ∧
        serve t'.generated again s'.stores = (.ok result2, s2.stores) ∧
        Concludes cfg submission t' record' result2 s'.tickets s2.tickets reply := by
  rw [record_iff]
  constructor
  · rintro ⟨found, run2, again, result2, hsub, hconc⟩
    obtain rfl : found = record' := Option.some.inj (hsub.resolves.get.symm.trans hl.get)
    have hreads := (validateCanonicalRun_ok.1 hsub.canonical).1
    rw [hl.claims, hl.reads] at hreads
    cases hreads
    exact ⟨again, result2, hsub.issues, hsub.serves, hconc⟩
  · rintro ⟨again, result2, hissues, hserve, hconc⟩
    refine ⟨record', run', again, result2, ⟨h.ticket, ⟨hl.get, h.resolves.valid, ?_, hopen, ?_⟩, ?_,
      h.lease, ?_, ?_, h.contract, hissues, hserve⟩, hconc⟩
    · rw [hl.claims]
      exact hresolved
    · rw [hl.claims]
      exact h.resolves.purpose
    · rw [hl.claims]
      exact hclaimed
    · rw [hl.claims]
      exact h.correlation
    · refine validateCanonicalRun_ok.2 ⟨?_, ?_⟩
      · rw [hl.claims]
        exact hl.reads
      · rw [hl.claims]
        exact hl.canonical

omit h hresolved hclaimed in
/-- A duplicate of the second submission is found on the run it reads. -/
theorem recognises_second {generated : Generated} {now : Instant} {again : AgentCommand}
    {result2 : DelegatedRunCommandResult} {stores : Stores}
    (hissues : CommandAt cfg submission.payload record' run' now again)
    (hserve : serve generated again s'.stores = (.ok result2, stores))
    (hdup : result2.duplicate = true) :
    stores = s'.stores ∧ Recognises s'.stores again run' ∧
      result2.run.stateVersion = run'.stateVersion := by
  obtain ⟨occurredAt, -, hcommand⟩ := hissues
  obtain ⟨hstores, found, hrec, -, hversion⟩ := serve_duplicate hserve hdup
  have hid : again.event.runId = record.claims.runId := by
    rw [(commandOf_issued hcommand).common.runId, hl.claims]
  have hreads := hrec.reads
  rw [hid, hl.reads] at hreads
  cases hreads
  exact ⟨hstores, hrec, hversion⟩

theorem redelivers_consumed (hstatus : record'.status = .consumed)
    (hevent : record'.consumedEventId = some submission.payload.eventId)
    (hterminal : isTerminalType submission.payload.eventType = true) :
    Redelivers cfg submission t' s' ↔
      ∃ again, CommandAt cfg submission.payload record' run' t'.now again ∧
        Recognises s'.stores again run' := by
  have hopen : record'.status ≠ .expired ∧ record'.status ≠ .revoked := by simp [hstatus]
  constructor
  · rintro ⟨reply, s2, hrecord, -, hdup, -⟩
    obtain ⟨again, result2, hissues, hserve, hconc⟩ :=
      (second_iff h hl hresolved hclaimed hopen).1 hrecord
    generalize s2.tickets = tickets2 at hconc
    cases hconc with
    | replayed _ _ _ hd =>
      exact ⟨again, hissues, (recognises_second hl hissues hserve hd).2.1⟩
    | committed updates hclaimable =>
      simp [claimable, hstatus] at hclaimable
  · rintro ⟨again, hissues, hrec⟩
    obtain ⟨result2, hserve, hd, -⟩ := serve_of_recognises hrec hl.referable t'.generated
    refine ⟨_, s', (second_iff h hl hresolved hclaimed hopen).2
      ⟨again, result2, hissues, hserve, .replayed hstatus hevent hterminal hd⟩, rfl, rfl, rfl, ?_⟩
    exact fun _ => rfl

/-- Against a ticket that is issued again, with a cursor. -/
theorem redelivers_issued (hstatus : record'.status = .issued)
    (hprogress : isTerminalType submission.payload.eventType = false) :
    Redelivers cfg submission t' s' ↔
      t'.settledAt < t'.claimedAt + seconds cfg.leaseSeconds ∧
      eventSequence submission.payload record' = record'.eventSequence ∧
      run'.stateVersion = record'.runStateVersion ∧
      ∃ again, CommandAt cfg submission.payload record' run' t'.now again ∧
        Recognises s'.stores again run' := by
  have hopen : record'.status ≠ .expired ∧ record'.status ≠ .revoked := by simp [hstatus]
  have hkey : s'.tickets.records.get? record'.ticketHash = some record' := by
    have hhash : record'.ticketHash = cfg.tickets.digest (submission.executionTicket.getD "") :=
      Table.key_of_get? hl.get
    rw [hhash]
    exact hl.get
  constructor
  · rintro ⟨reply, s2, hrecord, -, hdup, -, hcursor⟩
    obtain ⟨again, result2, hissues, hserve, hconc⟩ :=
      (second_iff h hl hresolved hclaimed hopen).1 hrecord
    generalize s2.tickets = tickets2 at hconc hcursor
    cases hconc with
    | replayed hconsumed => rw [hstatus] at hconsumed; cases hconsumed
    | committed updates _ htime hsettled =>
      have hcursor' := hcursor record'.ticketHash
      have hput : (s'.tickets.records.put (updates (claimOf cfg submission t' record'))).get?
          record'.ticketHash = some (updates (claimOf cfg submission t' record')) := by
        have hhash : (updates (claimOf cfg submission t' record')).ticketHash = record'.ticketHash :=
          hsettled.settles.hash _
        rw [← hhash]
        exact Table.get?_put_self _ _
      rw [hput, hkey] at hcursor'
      obtain ⟨-, hrec, hversion⟩ := recognises_second hl hissues hserve hdup
      cases hsettled with
      | consumed hc =>
        rw [hprogress] at hc
        cases hc
      | moved _ hv _ =>
        -- a cursor that moves has another version
        have hmoved : result2.run.stateVersion = record'.runStateVersion :=
          congrArg Prod.fst (Option.some.inj hcursor')
        omega
      | kept _ _ hv hs => exact ⟨htime, hs, hversion.symm.trans hv, again, hissues, hrec⟩
  · rintro ⟨htime, hs, hv, again, hissues, hrec⟩
    obtain ⟨result2, hserve, hd, hversion⟩ := serve_of_recognises hrec hl.referable t'.generated
    have hclaimable : claimable record' t'.claimedAt = true := by simp [claimable, hstatus]
    have hrecord : (AgentEvents.record cfg submission t').run s' =
        (.ok { eventId := submission.payload.eventId, accepted := true, duplicate := result2.duplicate
               message := "Agent event committed" },
          { stores := s'.stores
            tickets :=
              { records := s'.tickets.records.put (releasedRecord (claimOf cfg submission t' record'))
                grants := ⟨record'.ticketHash, claimOwner submission.payload, t'.leaseToken⟩ ::
                  s'.tickets.grants } }) :=
      (second_iff h hl hresolved hclaimed hopen).2 ⟨again, result2, hissues, hserve,
        .committed releasedRecord hclaimable htime (.kept hprogress hd (hversion.trans hv) hs)⟩
    refine ⟨_, _, hrecord, rfl, hd, rfl, ?_⟩
    intro ticketHash
    dsimp only
    rw [Table.get?_put]
    split
    · next hhash =>
      have hhash' : record'.ticketHash = ticketHash := hhash
      rw [← hhash', hkey]
      rfl
    · rfl

end Second

/-! ## After the first submission -/

inductive Served (s s' : Stores) (command : AgentCommand) (result : DelegatedRunCommandResult)
    (run run' : AgentRun) : Prop where
  | duplicate : result.duplicate = true → s' = s → run' = run → Recognises s command run →
      Served s s' command result run run'
  | fresh (time : Instant) : result.duplicate = false → Delivered s s' command run run' time →
      (Recognises s' command run' ↔ Memorable s command) → Served s s' command result run run'

inductive TicketLeft (payload : AgentEvent) (result : DelegatedRunCommandResult)
    (record record' : ExecutionTicketRecord) : Prop where
  | consumed : isTerminalType payload.eventType = true → record'.status = .consumed →
      record'.consumedEventId = some payload.eventId → cursor record' = cursor record →
      TicketLeft payload result record record'
  | moved : isTerminalType payload.eventType = false → record'.status = .issued →
      cursor record' = (result.run.stateVersion, eventSequence payload record) →
      record.runStateVersion < result.run.stateVersion →
      record.eventSequence < eventSequence payload record → TicketLeft payload result record record'
  | kept : isTerminalType payload.eventType = false → record'.status = .issued →
      cursor record' = cursor record → result.duplicate = true →
      result.run.stateVersion = record.runStateVersion →
      eventSequence payload record = record.eventSequence → TicketLeft payload result record record'

section First

variable {cfg : Config} {submission : Submission} {t : Readings} {s s' : State}
  {record : ExecutionTicketRecord} {run : AgentRun} {command : AgentCommand}
  {result : DelegatedRunCommandResult} {reply : AgentEventResponse}

theorem Submits.issued (h : Submits cfg s submission t record run command result s'.stores) :
    ∃ occurredAt, resolveEventOccurrence submission.payload record run t.now = .ok occurredAt ∧
      Issued cfg submission.payload record occurredAt command := by
  obtain ⟨occurredAt, hocc, hcommand⟩ := h.issues
  exact ⟨occurredAt, hocc, commandOf_issued hcommand⟩

theorem Concludes.left {tickets tickets' : TicketStore}
    (hget : tickets.records.get? record.ticketHash = some record)
    (h : Concludes cfg submission t record result tickets tickets' reply) :
    ∃ record', tickets'.records.get? record.ticketHash = some record' ∧
      record'.claims = record.claims ∧ TicketLeft submission.payload result record record' := by
  cases h with
  | replayed hconsumed hevent hterminal =>
    exact ⟨record, hget, rfl, .consumed hterminal hconsumed hevent rfl⟩
  | committed updates _ _ hsettled =>
    have hhash : (updates (claimOf cfg submission t record)).ticketHash = record.ticketHash :=
      hsettled.settles.hash _
    refine ⟨updates (claimOf cfg submission t record), ?_, ?_, ?_⟩
    · rw [← hhash]
      exact Table.get?_put_self _ _
    · cases hsettled <;> rfl
    · cases hsettled with
      | consumed hterminal => exact .consumed hterminal rfl rfl rfl
      | moved hprogress hv hs => exact .moved hprogress rfl rfl hv hs
      | kept hprogress hdup hv hs => exact .kept hprogress rfl rfl hdup hv hs

theorem isCanonicalRun_of_bare {claims : ExecutionTicketClaims} {run' : AgentRun}
    (hnext : bare run' = bare (nextRun time run command)) :
    isCanonicalRun payload claims run' = isCanonicalRun payload claims run := by
  rw [of_bare (isCanonicalRun payload claims) (fun _ => rfl) hnext]
  cases command <;> rfl

theorem first_left (h : Submits cfg s submission t record run command result s'.stores)
    (hconc : Concludes cfg submission t record result s.tickets s'.tickets reply)
    (htidy : Tidy submission.payload.payload) :
    ∃ record' run', Left cfg submission s' record record' run run' command ∧
      result.run.stateVersion = run'.stateVersion ∧
      Served s.stores s'.stores command result run run' ∧
      TicketLeft submission.payload result record record' := by
  obtain ⟨occurredAt, -, hissued⟩ := h.issued
  obtain ⟨hreads, hcanonical⟩ := validateCanonicalRun_ok.1 h.canonical
  obtain ⟨record', hget, hclaims, hticket⟩ := hconc.left h.resolves.key
  have hhash : cfg.tickets.digest (submission.executionTicket.getD "") = record.ticketHash :=
    (Table.key_of_get? h.resolves.get).symm
  have hrunId : command.event.runId = record.claims.runId := hissued.common.runId
  have hpos : 1 ≤ record.runStateVersion := hissued.common.version ▸ command.event.version
  have hv : 1 ≤ record'.runStateVersion := by
    cases hticket with
    | consumed _ _ _ hcursor | kept _ _ hcursor =>
      have hkept : record'.runStateVersion = record.runStateVersion := congrArg Prod.fst hcursor
      omega
    | moved _ _ hcursor hlt =>
      have hmoved : record'.runStateVersion = result.run.stateVersion := congrArg Prod.fst hcursor
      omega
  cases hdup : result.duplicate with
  | true =>
    obtain ⟨hstores, found, hrec, hrefer, hversion⟩ := serve_duplicate h.serves hdup
    have hfound := hrec.reads
    rw [hrunId, hreads] at hfound
    cases hfound
    obtain ⟨event, hown, hm⟩ := hrec.event
    refine ⟨record', run, ⟨by rw [hhash, hget], hclaims, hv, by rw [hstores, hreads], hcanonical,
      hrefer, rfl, ?_⟩, hversion, .duplicate hdup hstores rfl hrec, hticket⟩
    intro event' hown'
    rw [hstores, hown] at hown'
    cases hown'
    exact hm
  | false =>
    obtain ⟨found, run', time, hdel, hrefer, hversion, hmatches, hiff⟩ :=
      serve_fresh h.serves (hissued.clean htidy) hdup
    have hfound := hdel.before
    rw [hrunId, hreads] at hfound
    cases hfound
    refine ⟨record', run', ⟨by rw [hhash, hget], hclaims, hv, by rw [← hrunId, hdel.after], ?_,
      hrefer, ?_, hmatches⟩, hversion, .fresh time hdup hdel hiff, hticket⟩
    · rw [isCanonicalRun_of_bare hdel.next, hcanonical]
    · rw [of_bare (·.createdAt) (fun _ => rfl) hdel.next]
      cases command <;> rfl

end First

/-! ## The occurrence of the second submission -/

theorem asUtc_ok {o : Option Instant} : asUtc o = .ok time ↔ o = some time := by
  cases o <;> simp [asUtc]

section Occurrence

variable {payload : AgentEvent} {record : ExecutionTicketRecord} {run : AgentRun}
  {now occurredAt : Instant}

/-- The occurrence of a terminal event that is taken in already is found when what the
payload says agrees with the run. -/
theorem replayOccurrence_ok :
    (∃ occurredAt, replayOccurrence payload record run = .ok occurredAt) ↔
      (payload.runStateVersion = none ∨ payload.runStateVersion = some record.runStateVersion) ∧
      (payload.sequence = none ∨ payload.sequence = some run.eventSequence) ∧
      ∃ canonical, run.updatedAt = some canonical ∧
        ∀ created, payload.createdAt = some created →
          ∃ started, run.createdAt = some started ∧ max created started = canonical := by
  unfold replayOccurrence
  split
  · next hv =>
    have hv' : ¬(payload.runStateVersion = none ∨
        payload.runStateVersion = some record.runStateVersion) := by
      simpa [not_or] using hv
    simp [reject, hv']
  · next hv =>
    have hv' : payload.runStateVersion = none ∨
        payload.runStateVersion = some record.runStateVersion := by
      by_contra hn
      rw [not_or] at hn
      simp [hn.1, hn.2] at hv
    split
    · next hs =>
      have hs' : ¬(payload.sequence = none ∨ payload.sequence = some run.eventSequence) := by
        simpa [not_or] using hs
      simp [reject, hs']
    · next hs =>
      have hs' : payload.sequence = none ∨ payload.sequence = some run.eventSequence := by
        by_contra hn
        rw [not_or] at hn
        simp [hn.1, hn.2] at hs
      simp only [hv', hs', true_and, bind_eq_ok, asUtc_ok]
      constructor
      · rintro ⟨occurredAt, canonical, hcanonical, h⟩
        refine ⟨canonical, hcanonical, ?_⟩
        intro created hcreated
        simp only [hcreated, bind_eq_ok, asUtc_ok] at h
        obtain ⟨started, hstarted, h⟩ := h
        split at h
        · cases h
        · next heq => exact ⟨started, hstarted, not_not.1 heq⟩
      · rintro ⟨canonical, hcanonical, h⟩
        refine ⟨canonical, canonical, hcanonical, ?_⟩
        cases hcreated : payload.createdAt with
        | none => rfl
        | some created =>
          obtain ⟨started, hstarted, heq⟩ := h created hcreated
          simp only [hstarted, asUtc, ok_bind, heq, ne_eq, not_true_eq_false, if_false]
          rfl

theorem occurrence_ok
    (hother : isTerminalType payload.eventType = false ∨ run.terminalEventId ≠ some payload.eventId) :
    resolveEventOccurrence payload record run now = .ok occurredAt ↔
      ∃ expected started, expectedClientVersion payload record = .ok expected ∧
        (payload.runStateVersion = none ∨ payload.runStateVersion = some expected) ∧
        run.createdAt = some started ∧ occurredAt = max (payload.createdAt.getD now) started := by
  unfold resolveEventOccurrence
  rw [if_neg (by rcases hother with h | h <;> simp [h])]
  simp only [bind_eq_ok]
  refine exists_congr fun expected => ?_
  split
  · next hv =>
    have hv' : ¬(payload.runStateVersion = none ∨ payload.runStateVersion = some expected) := by
      simpa [not_or] using hv
    simp [reject, hv']
  · next hv =>
    have hv' : payload.runStateVersion = none ∨ payload.runStateVersion = some expected := by
      by_contra hn
      rw [not_or] at hn
      simp [hn.1, hn.2] at hv
    simp only [hv', true_and, bind_eq_ok, asUtc_ok]
    constructor
    · rintro ⟨hexpected, started, hstarted, h⟩
      cases h
      exact ⟨started, hexpected, hstarted, rfl⟩
    · rintro ⟨started, hexpected, hstarted, rfl⟩
      exact ⟨hexpected, started, hstarted, rfl⟩

/-- A time the payload gives is the occurrence, unless the run is younger. -/
theorem occurrence_created (h : resolveEventOccurrence payload record run now = .ok occurredAt)
    {created : Instant} (hcreated : payload.createdAt = some created) :
    ∃ started, run.createdAt = some started ∧ occurredAt = max created started := by
  by_cases hreplay : isTerminalType payload.eventType = true ∧
      run.terminalEventId = some payload.eventId
  · unfold resolveEventOccurrence at h
    rw [if_pos (by simp [hreplay.1, hreplay.2])] at h
    unfold replayOccurrence at h
    split at h
    · cases h
    · split at h
      · cases h
      · obtain ⟨canonical, -, h⟩ := bind_eq_ok.1 h
        simp only [hcreated, bind_eq_ok, asUtc_ok] at h
        obtain ⟨started, hstarted, h⟩ := h
        split at h
        · cases h
        · next heq =>
          cases h
          exact ⟨started, hstarted, (not_not.1 heq).symm⟩
  · have hother : isTerminalType payload.eventType = false ∨
        run.terminalEventId ≠ some payload.eventId := by
      rw [not_and_or] at hreplay
      simpa using hreplay
    obtain ⟨_, started, -, -, hstarted, rfl⟩ := (occurrence_ok hother).1 h
    exact ⟨started, hstarted, by rw [hcreated, Option.getD_some]⟩

/-- Whether there is an occurrence does not depend on the clock, and only on the cursor of the
ticket. -/
theorem occurrence_again (h : resolveEventOccurrence payload record run now = .ok occurredAt)
    (hcursor : cursor record' = cursor record) (now' : Instant) :
    ∃ again, resolveEventOccurrence payload record' run now' = .ok again := by
  have hv : record'.runStateVersion = record.runStateVersion := congrArg Prod.fst hcursor
  have hs : record'.eventSequence = record.eventSequence := congrArg Prod.snd hcursor
  by_cases hreplay : isTerminalType payload.eventType = true ∧
      run.terminalEventId = some payload.eventId
  · unfold resolveEventOccurrence at h ⊢
    rw [if_pos (by simp [hreplay.1, hreplay.2])] at h ⊢
    refine ⟨occurredAt, ?_⟩
    simpa only [replayOccurrence, hv] using h
  · have hother : isTerminalType payload.eventType = false ∨
        run.terminalEventId ≠ some payload.eventId := by
      rw [not_and_or] at hreplay
      simpa using hreplay
    obtain ⟨expected, started, hexpected, hversion, hstarted, -⟩ := (occurrence_ok hother).1 h
    have hexpected' : expectedClientVersion payload record' = .ok expected := by
      simpa only [expectedClientVersion, hv, hs] using hexpected
    exact ⟨_, (occurrence_ok hother).2 ⟨expected, started, hexpected', hversion, hstarted, rfl⟩⟩

end Occurrence

/-! ## When an event is redelivered -/

/-- A progress event names its sequence. If it names the version of the run too, it has
been let through before or has not run ahead of the ticket; and the second submission
is settled within its lease. -/
structure Resumable (cfg : Config) (payload : AgentEvent) (record : ExecutionTicketRecord)
    (run : AgentRun) (t' : Readings) : Prop where
  sequence : ∃ n, payload.sequence = some n ∧ (payload.runStateVersion = none ∨
    n = record.eventSequence ∨ run.stateVersion ≤ record.runStateVersion + 1)
  lease : t'.settledAt < t'.claimedAt + seconds cfg.leaseSeconds

/-- A terminal event agrees with the run it will leave, whose sequence is the next one and
whose time is no earlier than the turn. -/
structure Conclusive (s : Stores) (payload : AgentEvent) (record : ExecutionTicketRecord)
    (run : AgentRun) (command : AgentCommand) : Prop where
  version : payload.runStateVersion = none ∨ payload.runStateVersion = some record.runStateVersion
  sequence : payload.sequence = none ∨ payload.sequence = some (run.eventSequence + 1)
  created : payload.eventType ≠ .agentResult → ∀ created started turn,
    payload.createdAt = some created → run.createdAt = some started →
    s.turn record.claims.turnId = some turn → turn.createdAt ≤ max created started
  memorable : Memorable s command

/-- What makes the second submission a harmless duplicate, in the state before the first. -/
structure Redeliverable (cfg : Config) (s : Stores) (payload : AgentEvent)
    (record : ExecutionTicketRecord) (run : AgentRun) (command : AgentCommand) (t' : Readings) :
    Prop where
  own : ∀ event, s.event payload.eventId = some event →
    event.tenantId = some record.claims.tenantId ∧ event.userId = some record.claims.userId
  progress : isTerminalType payload.eventType = false → Resumable cfg payload record run t'
  terminal : isTerminalType payload.eventType = true → s.event payload.eventId = none →
    Conclusive s payload record run command

section Redelivery

variable {cfg : Config} {submission : Submission} {t t' : Readings} {s s' : State}
  {record record' : ExecutionTicketRecord} {run run' : AgentRun} {command : AgentCommand}
  {result : DelegatedRunCommandResult}

/-- The owner of the event under the id is the one of the ticket, given that the first
submission was a duplicate or that it is recognised. -/
theorem Served.own (h : Served s.stores stores' command result run run')
    (hissued : Issued cfg payload record occurredAt command)
    (hrec : Recognises stores' command run') :
    ∀ event, s.stores.event payload.eventId = some event →
      event.tenantId = some record.claims.tenantId ∧ event.userId = some record.claims.userId := by
  intro event hevent
  have hcommon := hissued.common
  rw [← hcommon.eventId] at hevent
  cases h with
  | duplicate _ _ _ hrec =>
    obtain ⟨found, hown, hm⟩ := hrec.event
    rw [event_of_ownEvent hown] at hevent
    cases hevent
    rw [← hcommon.tenantId, ← hcommon.userId]
    exact hm.owner
  | fresh _ _ _ hiff =>
    rw [(hiff.1 hrec).unused] at hevent
    cases hevent

/-- With an id that is free for others, a first delivery meets no event at all. -/
theorem delivered_unused (h : Delivered stores stores' command run run' time)
    (hissued : Issued cfg payload record occurredAt command)
    (hown : ∀ event, stores.event payload.eventId = some event →
      event.tenantId = some record.claims.tenantId ∧ event.userId = some record.claims.userId) :
    stores.event command.event.eventId = none := by
  have hcommon := hissued.common
  cases hevent : stores.event command.event.eventId with
  | none => rfl
  | some event =>
    have howner := hown event (by rw [← hcommon.eventId, hevent])
    rw [← hcommon.tenantId, ← hcommon.userId] at howner
    have hfound := h.unseen
    rw [ownEvent_of_event hevent howner] at hfound
    cases hfound

/-- A sequence is met again where it has become the cursor of the ticket. -/
theorem eventSequence_cursor {moved : ExecutionTicketRecord}
    (hpayload : ∀ n, payload.sequence = some n → 1 ≤ n)
    (hmoved : moved.eventSequence = eventSequence payload record) :
    eventSequence payload moved = moved.eventSequence ↔ ∃ n, payload.sequence = some n := by
  cases hs : payload.sequence with
  | none => simp [eventSequence, hs]
  | some n =>
    have hn : n ≠ 0 := Nat.one_le_iff_ne_zero.1 (hpayload n hs)
    simp only [eventSequence, hs, Option.filter_some, hn, ne_eq, not_false_eq_true, decide_true,
      if_true, Option.getD_some] at hmoved ⊢
    simp [hmoved]

theorem eventSequence_some {n : Nat} (hn : 1 ≤ n) (hs : payload.sequence = some n)
    (record : ExecutionTicketRecord) : eventSequence payload record = n := by
  have hne : n ≠ 0 := Nat.one_le_iff_ne_zero.1 hn
  simp [eventSequence, hs, Option.filter_some, hne]

theorem expectedClientVersion_ok {n expected : Nat} (hs : payload.sequence = some n) :
    expectedClientVersion payload record = .ok expected ↔
      (n = record.eventSequence ∧ expected = record.runStateVersion - 1) ∨
      (n = record.eventSequence + 1 ∧ expected = record.runStateVersion) := by
  simp only [expectedClientVersion, hs]
  split
  · next hn => simp [hn, eq_comm]
  · next hn =>
    split
    · next hn' => simp [hn', eq_comm]
    · next hn' => simp [hn, hn', reject]

/-- The versions of the run before and after the first submission. -/
theorem Served.versions (h : Served stores stores' command result run run')
    (hissued : Issued cfg payload record occurredAt command) :
    run'.stateVersion = run.stateVersion ∨
      run.stateVersion = record.runStateVersion ∧ run'.stateVersion = run.stateVersion + 1 := by
  cases h with
  | duplicate _ _ hrun => exact .inl (by rw [hrun])
  | fresh time _ hdel =>
    refine .inr ⟨hdel.accepts.version.trans hissued.common.version, ?_⟩
    rw [of_bare (·.stateVersion) (fun _ => rfl) hdel.next]
    cases command <;> rfl

/-- The version a progress event names is accepted again, or it is not: `n` is its sequence,
which the ticket has moved to. -/
theorem version_again {n expected : Nat} (hn : payload.sequence = some n) (hpos : 1 ≤ n)
    (hexpected : expectedClientVersion payload record = .ok expected)
    (hclient : payload.runStateVersion = none ∨ payload.runStateVersion = some expected)
    (hticket : TicketLeft payload result record record')
    (hprogress : isTerminalType payload.eventType = false)
    (hversion : result.run.stateVersion = run'.stateVersion)
    (hruns : run'.stateVersion = run.stateVersion ∨
      run.stateVersion = record.runStateVersion ∧ run'.stateVersion = run.stateVersion + 1) :
    (payload.runStateVersion = none ∨
        payload.runStateVersion = some (record'.runStateVersion - 1)) ↔
      payload.runStateVersion = none ∨ n = record.eventSequence ∨
        run.stateVersion ≤ record.runStateVersion + 1 := by
  have hseq := eventSequence_some hpos hn record
  have hcases := (expectedClientVersion_ok hn).1 hexpected
  cases hw : payload.runStateVersion with
  | none => simp
  | some w =>
    rw [hw] at hclient
    have hw' : w = expected := by simpa using hclient
    simp only [reduceCtorEq, false_or, Option.some.injEq]
    cases hticket with
    | consumed ht =>
      rw [hprogress] at ht
      cases ht
    | moved _ _ hc hv hs =>
      have hc' : record'.runStateVersion = result.run.stateVersion := congrArg Prod.fst hc
      omega
    | kept _ _ hc _ hv hs =>
      have hc' : record'.runStateVersion = record.runStateVersion := congrArg Prod.fst hc
      omega

theorem redelivers_progress (hpayload : ∀ n, submission.payload.sequence = some n → 1 ≤ n)
    (h : Submits cfg s submission t record run command result s'.stores)
    (hl : Left cfg submission s' record record' run run' command)
    (hversion : result.run.stateVersion = run'.stateVersion)
    (hserved : Served s.stores s'.stores command result run run')
    (hticket : TicketLeft submission.payload result record record')
    (hresolved : t'.resolvedAt < record.claims.expiresAt)
    (hclaimed : t'.claimedAt < record.claims.expiresAt)
    (hprogress : isTerminalType submission.payload.eventType = false) :
    Redelivers cfg submission t' s' ↔
      Redeliverable cfg s.stores submission.payload record run command t' := by
  obtain ⟨occurredAt, hocc, hissued⟩ := h.issued
  obtain ⟨expected, started, hexpected, hclient, hstarted, -⟩ := (occurrence_ok (.inl hprogress)).1 hocc
  -- the ticket is issued again, its cursor where the event has been let through
  have hstatus : record'.status = .issued := by
    cases hticket with
    | consumed ht =>
      rw [hprogress] at ht
      cases ht
    | moved _ hs | kept _ hs => exact hs
  have hsequence : record'.eventSequence = eventSequence submission.payload record := by
    cases hticket with
    | consumed ht =>
      rw [hprogress] at ht
      cases ht
    | moved _ _ hc => exact congrArg Prod.snd hc
    | kept _ _ hc _ _ hs => exact (congrArg Prod.snd hc).trans hs.symm
  have hcursor : run'.stateVersion = record'.runStateVersion := by
    cases hticket with
    | consumed ht =>
      rw [hprogress] at ht
      cases ht
    | moved _ _ hc => exact hversion.symm.trans (congrArg Prod.fst hc).symm
    | kept _ _ hc _ hv _ => exact hversion.symm.trans (hv.trans (congrArg Prod.fst hc).symm)
  have hsame : ∀ {occurredAt' : Instant} {again : AgentCommand},
      eventSequence submission.payload record' = record'.eventSequence →
      Issued cfg submission.payload record' occurredAt' again → SameDelivery command again := by
    intro occurredAt' again hs hagain
    exact commandOf_same hissued hagain hl.claims fun _ => hsequence.symm.trans hs.symm
  rw [redelivers_issued h hl hresolved hclaimed hstatus hprogress,
    eventSequence_cursor hpayload hsequence]
  constructor
  · rintro ⟨hlease, ⟨n, hn⟩, -, again, ⟨occurredAt', hocc', hagain⟩, hrec⟩
    have hpos := hpayload n hn
    have hn' : n = record'.eventSequence := by rw [hsequence, eventSequence_some hpos hn]
    have hrec' : Recognises s'.stores command run' :=
      hrec.same (hsame ((eventSequence_some hpos hn _).trans hn') (commandOf_issued hagain)).symm
    refine ⟨hserved.own hissued hrec', fun _ => ⟨⟨n, hn, ?_⟩, hlease⟩, ?_⟩
    · obtain ⟨expected', -, hexpected', hclient', -⟩ := (occurrence_ok (.inl hprogress)).1 hocc'
      rw [(expectedClientVersion_ok hn).2 (.inl ⟨hn', rfl⟩)] at hexpected'
      cases hexpected'
      exact (version_again hn hpos hexpected hclient hticket hprogress hversion
        (hserved.versions hissued)).1 hclient'
    · intro hterminal
      rw [hprogress] at hterminal
      cases hterminal
  · rintro ⟨hown, hres, -⟩
    obtain ⟨⟨n, hn, hver⟩, hlease⟩ := hres hprogress
    have hpos := hpayload n hn
    have hn' : n = record'.eventSequence := by rw [hsequence, eventSequence_some hpos hn]
    have hclient' := (version_again hn hpos hexpected hclient hticket hprogress hversion
      (hserved.versions hissued)).2 hver
    have hocc' : resolveEventOccurrence submission.payload record' run' t'.now = .ok _ :=
      (occurrence_ok (.inl hprogress)).2 ⟨_, started, (expectedClientVersion_ok hn).2 (.inl ⟨hn', rfl⟩),
        hclient', hl.started.trans hstarted, rfl⟩
    obtain ⟨occ, -, hcommand⟩ := h.issues
    obtain ⟨again, hagain⟩ := commandOf_again hcommand hl.claims hl.version
      (max (submission.payload.createdAt.getD t'.now) started)
    have hdelivery := hsame ((eventSequence_some hpos hn _).trans hn') (commandOf_issued hagain)
    refine ⟨hlease, ⟨n, hn⟩, hcursor, again, ⟨_, hocc', hagain⟩, Recognises.same hdelivery ?_⟩
    cases hserved with
    | duplicate _ hstores hrun hrec =>
      rw [hstores, hrun]
      exact hrec
    | fresh time _ hdel hiff =>
      refine hiff.2 ⟨delivered_unused hdel hissued hown, ?_, ?_⟩
      · rintro c old rfl
        cases hissued with
        | complete hk =>
          rw [hk] at hprogress
          cases hprogress
      · rintro c db turn rfl
        cases hissued with
        | complete hk =>
          rw [hk] at hprogress
          cases hprogress

theorem concluded_run (h : Delivered stores stores' command run run' time)
    (hissued : Issued cfg payload record occurredAt command)
    (hterminal : isTerminalType payload.eventType = true) :
    run'.terminalEventId = some payload.eventId ∧ run'.updatedAt = some time ∧
      run'.eventSequence = run.eventSequence + 1 := by
  rw [of_bare (·.terminalEventId) (fun _ => rfl) h.next, of_bare (·.updatedAt) (fun _ => rfl) h.next,
    of_bare (·.eventSequence) (fun _ => rfl) h.next, ← hissued.common.eventId]
  cases hissued with
  | progress hp =>
    rw [hterminal] at hp
    cases hp
  | complete | fail | cancel => exact ⟨rfl, rfl, rfl⟩

theorem eq_max_left_iff (a b : Int) : a = max a b ↔ b ≤ a := by omega

/-- The time a terminal event leaves is its own, unless the turn is younger. -/
theorem conclusion_time {turn : CanonicalTurn}
    (hissued : Issued cfg payload record occurredAt command)
    (hterminal : isTerminalType payload.eventType = true) :
    occurredAt = conclusionOf turn command ↔
      (payload.eventType ≠ .agentResult → turn.createdAt ≤ occurredAt) := by
  have htime := hissued.common.time
  cases hissued with
  | progress hp =>
    rw [hterminal] at hp
    cases hp
  | @complete c hk =>
    have htime' : c.occurredAt = occurredAt := htime
    simp [hk, conclusionOf, htime']
  | @fail c hk =>
    have htime' : c.occurredAt = occurredAt := htime
    simp only [hk, conclusionOf, concludedAt, htime', ne_eq, reduceCtorEq, not_false_eq_true,
      true_imp_iff]
    exact eq_max_left_iff occurredAt turn.createdAt
  | @cancel c hk =>
    have htime' : c.occurredAt = occurredAt := htime
    simp only [hk, conclusionOf, concludedAt, htime', ne_eq, reduceCtorEq, not_false_eq_true,
      true_imp_iff]
    exact eq_max_left_iff occurredAt turn.createdAt

theorem redelivers_terminal (h : Submits cfg s submission t record run command result s'.stores)
    (hl : Left cfg submission s' record record' run run' command)
    (hserved : Served s.stores s'.stores command result run run')
    (hticket : TicketLeft submission.payload result record record')
    (hresolved : t'.resolvedAt < record.claims.expiresAt)
    (hclaimed : t'.claimedAt < record.claims.expiresAt)
    (hterminal : isTerminalType submission.payload.eventType = true) :
    Redelivers cfg submission t' s' ↔
      Redeliverable cfg s.stores submission.payload record run command t' := by
  obtain ⟨occurredAt, hocc, hcommand⟩ := h.issues
  have hissued := commandOf_issued hcommand
  obtain ⟨hstatus, hevent, hcursor⟩ : record'.status = .consumed ∧
      record'.consumedEventId = some submission.payload.eventId ∧ cursor record' = cursor record := by
    cases hticket with
    | consumed _ hs he hc => exact ⟨hs, he, hc⟩
    | moved hp | kept hp =>
      rw [hterminal] at hp
      cases hp
  have hsame : ∀ {occurredAt' : Instant} {again : AgentCommand},
      Issued cfg submission.payload record' occurredAt' again → SameDelivery command again := by
    intro occurredAt' again hagain
    refine commandOf_same hissued hagain hl.claims fun hp => ?_
    rw [hterminal] at hp
    cases hp
  -- the command is the same whatever its time, so it is enough that there is one
  have hsecond : Redelivers cfg submission t' s' ↔
      (∃ again, resolveEventOccurrence submission.payload record' run' t'.now = .ok again) ∧
      Recognises s'.stores command run' := by
    rw [redelivers_consumed h hl hresolved hclaimed hstatus hevent hterminal]
    constructor
    · rintro ⟨again, ⟨occurredAt', hocc', hagain⟩, hrec⟩
      exact ⟨⟨occurredAt', hocc'⟩, hrec.same (hsame (commandOf_issued hagain)).symm⟩
    · rintro ⟨⟨occurredAt', hocc'⟩, hrec⟩
      obtain ⟨again, hagain⟩ := commandOf_again hcommand hl.claims hl.version occurredAt'
      exact ⟨again, ⟨occurredAt', hocc', hagain⟩, hrec.same (hsame (commandOf_issued hagain))⟩
  rw [hsecond]
  cases hserved with
  | duplicate hdup hstores hrun hrec =>
    subst hrun
    rw [hstores]
    refine ⟨fun hrec' => ⟨?_, ?_, ?_⟩, fun _ => ⟨occurrence_again hocc hcursor t'.now, hrec⟩⟩
    · exact Served.own (.duplicate hdup rfl rfl hrec) hissued hrec
    · intro hp
      rw [hterminal] at hp
      cases hp
    · intro _ hfree
      obtain ⟨event, hown, -⟩ := hrec.event
      have htaken := event_of_ownEvent hown
      rw [hissued.common.eventId, hfree] at htaken
      cases htaken
  | fresh time hdup hdel hiff =>
    obtain ⟨hid, hupdated, hnext⟩ := concluded_run hdel hissued hterminal
    obtain ⟨turn, hturn, htime⟩ : ∃ turn, s.stores.turn record.claims.turnId = some turn ∧
        time = conclusionOf turn command := by
      rcases hdel.time with ⟨c, rfl⟩ | ⟨turn, hturn, htime⟩
      · cases hissued with
        | progress hp =>
          rw [hterminal] at hp
          cases hp
      · rw [hissued.common.turnId] at hturn
        exact ⟨turn, hturn, htime⟩
    have hv : record'.runStateVersion = record.runStateVersion := congrArg Prod.fst hcursor
    have hreplay : resolveEventOccurrence submission.payload record' run' t'.now =
        replayOccurrence submission.payload record' run' := by
      unfold resolveEventOccurrence
      rw [if_pos (by simp [hterminal, hid])]
    rw [hreplay, replayOccurrence_ok, hv, hnext, hupdated, hiff]
    constructor
    · rintro ⟨⟨hversion, hsequence, canonical, hcanonical, hcreated⟩, hmem⟩
      cases hcanonical
      have hfree := hmem.unused
      rw [hissued.common.eventId] at hfree
      refine ⟨?_, ?_, fun _ _ => ⟨hversion, hsequence, ?_, hmem⟩⟩
      · intro event hevent
        rw [hfree] at hevent
        cases hevent
      · intro hp
        rw [hterminal] at hp
        cases hp
      · intro hkind created started turn' hc hstarted hturn'
        cases hturn.symm.trans hturn'
        obtain ⟨started', hstarted', hocc'⟩ := occurrence_created hocc hc
        cases hstarted.symm.trans hstarted'
        obtain ⟨started', hstarted', hmax⟩ := hcreated created hc
        rw [hl.started, hstarted] at hstarted'
        cases hstarted'
        rw [← hocc']
        exact (conclusion_time hissued hterminal).1 (hocc'.trans (hmax.trans htime)) hkind
    · intro hred
      have hfree := delivered_unused hdel hissued hred.own
      rw [hissued.common.eventId] at hfree
      obtain ⟨hversion, hsequence, hcreated, hmem⟩ := hred.terminal hterminal hfree
      refine ⟨⟨hversion, hsequence, time, rfl, ?_⟩, hmem⟩
      intro created hc
      obtain ⟨started, hstarted, hocc'⟩ := occurrence_created hocc hc
      refine ⟨started, by rw [hl.started, hstarted], ?_⟩
      rw [← hocc', htime]
      refine (conclusion_time hissued hterminal).2 fun hkind => ?_
      rw [hocc']
      exact hcreated hkind created started turn hc hstarted hturn

/-- **Redelivery.** An event the service has accepted, submitted again with the unexpired
ticket, is accepted as a duplicate that changes nothing, just when it was redeliverable
before the first submission. -/
theorem redelivers_iff {reply : AgentEventResponse}
    (hpayload : submission.payload.validate = .ok submission.payload)
    (hkeys : (Json.obj submission.payload.payload).distinctKeys = true)
    (h : (AgentEvents.record cfg submission t).run s = (.ok reply, s'))
    (hrecord : s.tickets.records.get? (cfg.tickets.digest (submission.executionTicket.getD "")) =
      some record)
    (hrun : s.stores.getRun record.claims.runId = .ok (some run))
    (hcommand : CommandAt cfg submission.payload record run t.now command)
    (hresolved : t'.resolvedAt < record.claims.expiresAt)
    (hclaimed : t'.claimedAt < record.claims.expiresAt) :
    Redelivers cfg submission t' s' ↔
      Redeliverable cfg s.stores submission.payload record run command t' := by
  obtain ⟨-, ⟨hsequence, -⟩, payload, hsanitized, hself⟩ := AgentEvent.validate_ok.1 hpayload
  have htidy : Tidy submission.payload.payload := by
    refine ⟨?_, hkeys⟩
    rw [hsanitized]
    exact congrArg (fun event : AgentEvent => Except.ok event.payload) hself.symm
  obtain ⟨found, run0, command0, result, hsub, hconc⟩ := record_iff.1 h
  cases hsub.resolves.get.symm.trans hrecord
  have hreads := (validateCanonicalRun_ok.1 hsub.canonical).1
  cases hreads.symm.trans hrun
  obtain ⟨occurredAt, hocc, hissues⟩ := hsub.issues
  obtain ⟨occurredAt', hocc', hissues'⟩ := hcommand
  cases hocc.symm.trans hocc'
  cases hissues.symm.trans hissues'
  obtain ⟨record', run', hl, hversion, hserved, hticket⟩ := first_left hsub hconc htidy
  cases hkind : isTerminalType submission.payload.eventType with
  | true => exact redelivers_terminal hsub hl hserved hticket hresolved hclaimed hkind
  | false =>
    exact redelivers_progress hsequence hsub hl hversion hserved hticket hresolved hclaimed hkind

end Redelivery

/-! ## A progress event, twice -/

def sampleService : Config :=
  { tickets := OpenIntentRouter.Tickets.sampleConfig, leaseSeconds := 10, str := fun _ => "" }

def sampleState : State :=
  { stores := .memory
      (Memory.exec Memory.sampleStores (sampleGenerated "1") (.start (sampleStart none) "1" "key1")).2
    tickets :=
      ((issue OpenIntentRouter.Tickets.sampleConfig
        { OpenIntentRouter.Tickets.sampleClaims with runId := "run_1" } 60 0
        OpenIntentRouter.Tickets.sampleTicket).run .empty).2 }

def sampleProgressEvent (sequence : Option Nat) : AgentEvent :=
  { eventId := "event"
    runId := some "run_1"
    requestId := none
    sessionId := "session"
    agentId := "agent"
    userId := none
    tenantId := none
    turnId := none
    eventType := .agentProgress
    status := some .running
    planId := none
    stepId := none
    sequence
    runStateVersion := none
    payload := [("done", .num 1)]
    createdAt := none }

def sampleSubmission (sequence : Option Nat) : Submission :=
  { payload := sampleProgressEvent sequence
    executionTicket := some OpenIntentRouter.Tickets.sampleTicket
    pathRunId := none }

/-- A call that begins at `now`. -/
def sampleReadings (now : Instant) (leaseToken : String)
    (leaseToken_ne : leaseToken ≠ "" := by decide) : Readings :=
  { resolvedAt := now
    claimedAt := now
    now
    settledAt := now
    releasedAt := now
    leaseToken
    generated := sampleGenerated "2"
    leaseToken_ne }

def sampleAfter (sequence : Option Nat) : Except Raised AgentEventResponse × State :=
  (AgentEvents.record sampleService (sampleSubmission sequence) (sampleReadings 1 "token_1")).run
    sampleState

theorem redelivers_iff_sequenced :
    ∃ reply s', (AgentEvents.record sampleService (sampleSubmission (some 1))
        (sampleReadings 1 "token_1")).run sampleState = (.ok reply, s') ∧
      Redelivers sampleService (sampleSubmission (some 1)) (sampleReadings 2 "token_2") s' := by
  have hok : ∃ reply, (sampleAfter (some 1)).1 = .ok reply := ⟨_, rfl⟩
  obtain ⟨reply, hreply⟩ := hok
  have hrun : (AgentEvents.record sampleService (sampleSubmission (some 1))
      (sampleReadings 1 "token_1")).run sampleState = (.ok reply, (sampleAfter (some 1)).2) :=
    Prod.ext hreply rfl
  refine ⟨reply, _, hrun, (redelivers_iff (by decide) (by decide) hrun rfl rfl ⟨_, rfl, rfl⟩
    (by decide) (by decide)).2 ⟨?_, ?_, ?_⟩⟩
  · intro event hevent
    cases hevent
  · intro _
    exact ⟨⟨1, rfl, .inl rfl⟩, by decide⟩
  · intro hterminal
    cases hterminal

/-- Without a sequence the second submission is given the next one, and rejected. -/
theorem unsequenced_progress_rejected :
    ∃ reply s', (AgentEvents.record sampleService (sampleSubmission none)
        (sampleReadings 1 "token_1")).run sampleState = (.ok reply, s') ∧
      (sampleSubmission none).payload.validate = .ok (sampleSubmission none).payload ∧
      ((AgentEvents.record sampleService (sampleSubmission none)
        (sampleReadings 2 "token_2")).run s').1 = .error (.rejected .conflict "agent_event_conflict") ∧
      ¬Redelivers sampleService (sampleSubmission none) (sampleReadings 2 "token_2") s' := by
  have hok : ∃ reply, (sampleAfter none).1 = .ok reply := ⟨_, rfl⟩
  obtain ⟨reply, hreply⟩ := hok
  have hsecond : ((AgentEvents.record sampleService (sampleSubmission none)
      (sampleReadings 2 "token_2")).run (sampleAfter none).2).1 =
        .error (.rejected .conflict "agent_event_conflict") := by
    decide
  refine ⟨reply, (sampleAfter none).2, Prod.ext hreply rfl, by decide, hsecond, ?_⟩
  rintro ⟨reply', s2, haccepted, -⟩
  rw [haccepted] at hsecond
  cases hsecond

end OpenIntentRouter.Services.AgentEvents
