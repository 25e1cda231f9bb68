import OpenIntentRouter.DelegatedRuns.MemorySerial
import OpenIntentRouter.DelegatedRuns.ReadableTurns
import OpenIntentRouter.Services.DelegatedRunService

/-!
# A command delivered again

A store that knows an event answers a command under its id from what is stored.
`Recognises` is what it then compares, for the four commands an agent can send
and for both kinds of stores.

* `Recognises.same`: it does not depend on the time of the command, nor on the
  version it expects;
* `serve_duplicate`, `serve_of_recognises`: the commands that are answered as duplicates;
* `serve_fresh`: what an accepted first delivery leaves;
* `recognises_iff`: the first deliveries after which the same command is recognised.
-/
namespace OpenIntentRouter.DelegatedRuns

open Core Core.Except Schemas Repositories Services.DelegatedRuns

/-! ## The same command -/

structure SameEvent (c d : DelegatedRunEventCommand) : Prop where
  eventId : c.eventId = d.eventId
  runId : c.runId = d.runId
  turnId : c.turnId = d.turnId
  tenantId : c.tenantId = d.tenantId
  userId : c.userId = d.userId
  agentId : c.agentId = d.agentId
  planId : c.planId = d.planId
  stepId : c.stepId = d.stepId

variable {c d : DelegatedRunEventCommand} {eventType : AgentEventType} {status : RunStatus}
  {payload : JsonDict} {message runId : String} {command : AgentCommand} {run run' row : AgentRun}
  {gen : Generated} {s s' : MemoryStores} {reply r : Reply} {db db' : Database}
  {result : DelegatedRunCommandResult} {time : Instant}

theorem SameEvent.symm (h : SameEvent c d) : SameEvent d c :=
  ⟨h.1.symm, h.2.symm, h.3.symm, h.4.symm, h.5.symm, h.6.symm, h.7.symm, h.8.symm⟩

/-- Two commands that differ in their time and in the version they expect at most. -/
inductive SameDelivery : AgentCommand → AgentCommand → Prop where
  | progress {c d : DelegatedRunProgressCommand} :
      SameEvent c d →
      c.eventType = d.eventType → c.sequence = d.sequence → c.status = d.status →
      c.payload = d.payload → SameDelivery (.progress c) (.progress d)
  | complete {c d : DelegatedRunCompleteCommand} :
      SameEvent c d →
      c.resultId = d.resultId → c.responseText = d.responseText → c.output = d.output →
      c.artifactRefs = d.artifactRefs → SameDelivery (.complete c) (.complete d)
  | fail {c d : DelegatedRunFailCommand} :
      SameEvent c d →
      c.error = d.error → SameDelivery (.fail c) (.fail d)
  | cancel {c d : DelegatedRunCancelCommand} :
      SameEvent c d →
      c.reason = d.reason → SameDelivery (.cancel c) (.cancel d)

theorem SameDelivery.symm {c d : AgentCommand} (h : SameDelivery c d) : SameDelivery d c := by
  cases h with
  | progress hs h1 h2 h3 h4 => exact .progress hs.symm h1.symm h2.symm h3.symm h4.symm
  | complete hs h1 h2 h3 h4 => exact .complete hs.symm h1.symm h2.symm h3.symm h4.symm
  | fail hs h1 => exact .fail hs.symm h1.symm
  | cancel hs h1 => exact .cancel hs.symm h1.symm

def Matches (event : AgentEvent) : AgentCommand → Prop
  | .progress c =>
    validateProgressEventNamespace c = .ok () ∧ validateDuplicateEvent event c = .ok ()
  | .complete c => validateCompletionEventIdentity event c = .ok ()
  | .fail c => validateFailureEventIdentity event c = .ok ()
  | .cancel c => validateCancelEvent event c = .ok ()

theorem sameIdentity_congr {event : AgentEvent} (h : SameEvent c d) :
    sameIdentity event c = sameIdentity event d := by
  obtain ⟨-, h2, h3, h4, h5, h6, h7, h8⟩ := h
  simp only [sameIdentity, h2, h3, h4, h5, h6, h7, h8]

theorem validateTerminalEvent_congr {event : AgentEvent} (h : SameEvent c d) :
    validateTerminalEvent message eventType status payload event c =
      validateTerminalEvent message eventType status payload event d := by
  simp only [validateTerminalEvent, sameIdentity_congr h]

theorem Matches.same {event : AgentEvent} {c d : AgentCommand} (h : SameDelivery c d)
    (hm : Matches event c) : Matches event d := by
  cases h with
  | @progress c d hs ht hn hst hp =>
    obtain ⟨hns, hd⟩ := hm
    refine ⟨?_, ?_⟩
    · rwa [validateProgressEventNamespace, ← hs.eventId]
    · obtain ⟨-, h2, h3, h4, h5, h6, h7, h8⟩ := hs
      simpa only [validateDuplicateEvent, h2, h3, h4, h5, h6, h7, h8, ht, hn, hst, hp] using hd
  | @complete c d hs hr _ _ _ =>
    have hm' : validateCompletionEventIdentity event c = .ok () := hm
    rw [validateCompletionEventIdentity, validateTerminalEvent_congr hs, hr] at hm'
    exact hm'
  | @fail c d hs he =>
    have hm' : validateFailureEventIdentity event c = .ok () := hm
    rw [validateFailureEventIdentity, validateTerminalEvent_congr hs, he] at hm'
    exact hm'
  | @cancel c d hs hr =>
    have hm' : validateCancelEvent event c = .ok () := hm
    rw [validateCancelEvent, validateTerminalEvent_congr hs, hr] at hm'
    exact hm'

theorem validateDuplicateEvent_ok {event : AgentEvent} {c : DelegatedRunProgressCommand} :
    validateDuplicateEvent event c = .ok () ↔
      (event.runId = some c.runId ∧ event.turnId = some c.turnId ∧
        event.tenantId = some c.tenantId ∧ event.userId = some c.userId ∧
        event.agentId = c.agentId ∧ event.planId = c.planId ∧ event.stepId = c.stepId) ∧
      event.eventType = c.eventType ∧ event.status = some c.status ∧
      event.sequence = some c.sequence ∧ JsonDict.pyEq event.payload c.payload = true := by
  unfold validateDuplicateEvent
  split
  · next h => simpa [and_assoc] using h
  · next h =>
    simp only [conflict, reduceCtorEq, false_iff]
    simpa [and_assoc] using h

theorem validateTerminalEvent_ok {event : AgentEvent} :
    validateTerminalEvent message eventType status payload event c = .ok () ↔
      sameIdentity event c = true ∧ event.eventType = eventType ∧ event.status = some status ∧
        JsonDict.pyEq event.payload payload = true := by
  unfold validateTerminalEvent
  split
  · next h => simp_all [conflict]
  · next h =>
    split
    · next h' =>
      simp only [conflict, reduceCtorEq, false_iff]
      rintro ⟨-, ht, hs, hp⟩
      simp [ht, hs, hp] at h'
    · next h' => simp_all

theorem sameIdentity_iff {event : AgentEvent} :
    sameIdentity event c = true ↔
      event.runId = some c.runId ∧ event.turnId = some c.turnId ∧
      event.tenantId = some c.tenantId ∧ event.userId = some c.userId ∧
      event.agentId = c.agentId ∧ event.planId = c.planId ∧ event.stepId = c.stepId := by
  simp [sameIdentity, and_assoc]

/-- An event that matches is one of the command's owner. -/
theorem Matches.owner {event : AgentEvent} (h : Matches event command) :
    event.tenantId = some command.event.tenantId ∧ event.userId = some command.event.userId := by
  cases command with
  | progress c =>
    obtain ⟨⟨-, -, ht, hu, -⟩, -⟩ := validateDuplicateEvent_ok.1 h.2
    exact ⟨ht, hu⟩
  | complete c | fail c | cancel c =>
    obtain ⟨-, -, ht, hu, -⟩ := sameIdentity_iff.1 (validateTerminalEvent_ok.1 h).1
    exact ⟨ht, hu⟩

theorem Matches.resultId {event : AgentEvent} {c : DelegatedRunCompleteCommand}
    (h : Matches event (.complete c)) :
    Json.field event.payload "result_id" = some (.str c.resultId) := by
  have hp := JsonDict.pyEq_single (validateTerminalEvent_ok.1 h).2.2.2
  rw [hp]
  rfl

/-! ## What a store compares -/

def Remembers (s : Stores) (run : AgentRun) : AgentCommand → Prop
  | .progress _ => True
  | .complete c => ∃ turn result, s.getTurn c = .ok (some turn) ∧
      s.getResult c.resultId = .ok (some result) ∧ validateCompletionResultIdentity result c = .ok ()
  | .fail c => ∃ turn, s.getTurn c = .ok (some turn)
  | .cancel c => ∃ turn, s.getTurn c = .ok (some turn) ∧
      validateCancelledState (some run) (some turn) c = .ok (run, turn)

structure Recognises (s : Stores) (command : AgentCommand) (run : AgentRun) : Prop where
  event : ∃ event, s.ownEvent command.event = some event ∧ Matches event command
  reads : s.getRun command.event.runId = .ok (some run)
  rest : Remembers s run command

theorem SameDelivery.event {c d : AgentCommand} (h : SameDelivery c d) :
    SameEvent c.event d.event := by
  cases h <;> assumption

theorem ownEvent_congr {s : Stores} (h : SameEvent c d) : s.ownEvent c = s.ownEvent d := by
  cases s with
  | memory s => simp only [Stores.ownEvent, h.eventId, h.tenantId, h.userId]
  | database db => simp only [Stores.ownEvent, h.eventId]

theorem event_of_ownEvent {s : Stores} {event : AgentEvent} (h : s.ownEvent c = some event) :
    s.event c.eventId = some event := by
  cases s with
  | memory s => exact (getEvent_eq_some.1 h).1
  | database db => exact h

theorem ownEvent_of_event {s : Stores} {event : AgentEvent} (h : s.event c.eventId = some event)
    (howner : event.tenantId = some c.tenantId ∧ event.userId = some c.userId) :
    s.ownEvent c = some event := by
  cases s with
  | memory s => exact getEvent_eq_some.2 ⟨h, howner⟩
  | database db => exact h

theorem getTurn_congr {s : Stores} (h : SameEvent c d) : s.getTurn c = s.getTurn d := by
  cases s with
  | memory s => simp only [Stores.getTurn, h.turnId, h.tenantId, h.userId]
  | database db => simp only [Stores.getTurn, h.turnId]

theorem Remembers.same {s : Stores} {c d : AgentCommand} (h : SameDelivery c d)
    (hr : Remembers s run c) : Remembers s run d := by
  cases h with
  | progress => trivial
  | complete hs h1 h2 h3 h4 =>
    obtain ⟨turn, result, ht, hres, hid⟩ := hr
    refine ⟨turn, result, getTurn_congr hs ▸ ht, h1 ▸ hres, ?_⟩
    simpa only [validateCompletionResultIdentity, hs.runId, hs.turnId, hs.tenantId, hs.userId,
      hs.agentId, hs.planId, hs.stepId, h1, h2, h3, h4] using hid
  | fail hs he =>
    obtain ⟨turn, ht⟩ := hr
    exact ⟨turn, getTurn_congr hs ▸ ht⟩
  | cancel hs hreason =>
    obtain ⟨turn, ht, hst⟩ := hr
    refine ⟨turn, getTurn_congr hs ▸ ht, ?_⟩
    simpa only [validateCancelledState, hs.eventId] using hst

theorem Recognises.same {s : Stores} {c d : AgentCommand} (h : SameDelivery c d)
    (hr : Recognises s c run) : Recognises s d run := by
  obtain ⟨⟨event, he, hm⟩, hrun, hrest⟩ := hr
  refine ⟨⟨event, ?_, hm.same h⟩, ?_, hrest.same h⟩
  · rw [← ownEvent_congr h.event, he]
  · rw [← h.event.runId, hrun]

theorem validateCancelledState_ok {o : Option AgentRun} {t : Option CanonicalTurn}
    {c : DelegatedRunCancelCommand} {turn : CanonicalTurn} :
    validateCancelledState o t c = .ok (run, turn) ↔
      o = some run ∧ t = some turn ∧ run.status = .cancelled ∧
        run.terminalEventId = some c.eventId ∧ turn.status = .cancelled := by
  unfold validateCancelledState
  split
  · next run' turn' =>
    split
    · next h =>
      simp only [conflict, reduceCtorEq, Option.some.injEq, false_iff]
      rintro ⟨rfl, rfl, h1, h2, h3⟩
      simp [h1, h2, h3] at h
    · next h =>
      simp only [Except.ok.injEq, Prod.mk.injEq, Option.some.injEq]
      constructor
      · rintro ⟨rfl, rfl⟩
        simpa [and_assoc] using h
      · exact fun h => ⟨h.1, h.2.1⟩
  · next h =>
    simp only [conflict, reduceCtorEq, false_iff]
    rintro ⟨rfl, rfl, -⟩
    exact h _ _ rfl rfl

/-! ## Duplicates in memory -/

namespace Memory

theorem decideComplete_duplicate {c : DelegatedRunCompleteCommand} :
    decideComplete s c gen = .ok (.inl r) ↔
      ∃ event result, Redelivered c s event ∧
        Matches event (.complete c) ∧
        s.results.find? (fun result => result.resultId = c.resultId) = some result ∧
        validateCompletionResultIdentity result c = .ok () ∧
        r = { run := s.runs.get? c.runId
              turn := getTurn s.turns c.turnId c.tenantId c.userId
              result := some result
              duplicate := true } := by
  have hfind : ∀ event, Matches event (.complete c) →
      (s.results.find? fun item => some (.str item.resultId) = Json.field event.payload "result_id") =
        s.results.find? fun result => result.resultId = c.resultId := by
    intro event hm
    rw [hm.resultId]
    congr 1
    funext item
    simp
  constructor
  · intro h
    unfold decideComplete at h
    split at h
    · next event hev =>
      obtain ⟨u, hm, h⟩ := bind_eq_ok.1 h
      dsimp only at h
      rw [hfind event hm] at h
      split at h
      · cases h
      · next result hres =>
        obtain ⟨u, hid, h⟩ := bind_eq_ok.1 h
        cases h
        exact ⟨event, result, hev, hm, hres, hid, rfl⟩
    · obtain ⟨run, -, h⟩ := bind_eq_ok.1 h
      split at h
      · cases h
      · obtain ⟨bundle, -, h⟩ := bind_eq_ok.1 h
        cases h
  · rintro ⟨event, result, hev, hm, hres, hid, rfl⟩
    have hev' : getEvent s.agentEvents c.eventId c.tenantId c.userId = some event := hev
    have hm' : validateCompletionEventIdentity event c = .ok () := hm
    unfold decideComplete
    rw [hev']
    dsimp only
    rw [hfind event hm, hres, hm']
    dsimp only
    rw [ok_bind, hid]
    rfl

theorem recognises_of_exec {turnId : String} (h : exec s gen command.command = (.ok reply, s'))
    (hd : reply.duplicate = true) (hrun : reply.run = some run)
    (ht : replyTurnId command reply = .ok turnId) :
    s' = s ∧ Recognises (.memory s) command run := by
  cases command with
  | progress c =>
    rcases progress_ok h with ⟨hdec, rfl⟩ | ⟨p, -, hn, -⟩
    · obtain ⟨event, hev, hns, hm, rfl⟩ := decideProgress_duplicate.1 hdec
      exact ⟨rfl, ⟨event, hev, hns, hm⟩, congrArg Except.ok hrun, trivial⟩
    · rw [hn] at hd
      cases hd
  | complete c =>
    rcases complete_ok h with ⟨hdec, rfl⟩ | ⟨p, -, hn, -⟩
    · obtain ⟨event, result, hev, hm, hres, hid, rfl⟩ := decideComplete_duplicate.1 hdec
      simp only [replyTurnId] at ht
      split at ht
      · cases ht
      · next turn hturn =>
        exact ⟨rfl, ⟨event, hev, hm⟩, congrArg Except.ok hrun, turn, result,
          congrArg Except.ok hturn, congrArg Except.ok hres, hid⟩
    · rw [hn] at hd
      cases hd
  | fail c =>
    rcases fail_ok h with ⟨hdec, rfl⟩ | ⟨p, -, rfl, -⟩
    · obtain ⟨event, turn, hev, hm, hturn, rfl⟩ := decideFail_duplicate.1 hdec
      exact ⟨rfl, ⟨event, hev, hm⟩, congrArg Except.ok hrun, turn, congrArg Except.ok hturn⟩
    · cases hd
  | cancel c =>
    rcases cancel_ok h with ⟨hdec, rfl⟩ | ⟨p, -, rfl, -⟩
    · obtain ⟨event, run', turn, hev, hm, hst, rfl⟩ := decideCancel_duplicate.1 hdec
      cases hrun
      obtain ⟨hget, hturn, hrest⟩ := validateCancelledState_ok.1 hst
      exact ⟨rfl, ⟨event, hev, hm⟩, congrArg Except.ok hget, turn, congrArg Except.ok hturn,
        validateCancelledState_ok.2 ⟨rfl, rfl, hrest⟩⟩
    · cases hd

theorem perform_fresh {π : Type} {decision : Except StoreError (Reply ⊕ π)}
    {writes : π → List (Write MemoryStores StoreError)} {rollback : π → MemoryStores → MemoryStores}
    {reply : π → Reply} (hinl : decision = .ok (.inl r) → r.duplicate = true)
    (h : perform s decision writes rollback reply = (.ok r, s')) (hd : r.duplicate = false) :
    ∃ p, decision = .ok (.inr p) ∧ r = reply p ∧ Applied (writes p) s s' := by
  rcases perform_ok h with ⟨hdec, -⟩ | hwritten
  · rw [hinl hdec] at hd
    cases hd
  · exact hwritten

theorem perform_duplicate {π : Type} {decision : Except StoreError (Reply ⊕ π)}
    {writes : π → List (Write MemoryStores StoreError)} {rollback : π → MemoryStores → MemoryStores}
    {reply : π → Reply} (h : decision = .ok (.inl r)) :
    perform s decision writes rollback reply = (.ok r, s) := by
  rw [h]
  rfl

theorem exec_of_recognises (h : Recognises (.memory s) command run) (gen : Generated) :
    ∃ reply turnId, exec s gen command.command = (.ok reply, s) ∧ reply.duplicate = true ∧
      reply.run = some run ∧ replyTurnId command reply = .ok turnId := by
  obtain ⟨⟨event, hev, hm⟩, hrun, hrest⟩ := h
  have hget : s.runs.get? command.event.runId = some run := Except.ok.inj hrun
  cases command with
  | progress c =>
    have hdec : decideProgress s c = .ok (.inl _) :=
      decideProgress_duplicate.2 ⟨event, hev, hm.1, hm.2, rfl⟩
    exact ⟨_, _, perform_duplicate hdec, rfl, hget, rfl⟩
  | complete c =>
    obtain ⟨turn, result, hturn, hres, hid⟩ := hrest
    have hdec : decideComplete s c gen = .ok (.inl _) :=
      decideComplete_duplicate.2 ⟨event, result, hev, hm, Except.ok.inj hres, hid, rfl⟩
    have hturn' : getTurn s.turns c.turnId c.tenantId c.userId = some turn := Except.ok.inj hturn
    exact ⟨_, turn.turnId, perform_duplicate hdec, rfl, hget, by simp only [replyTurnId, hturn']⟩
  | fail c =>
    obtain ⟨turn, hturn⟩ := hrest
    have hdec : decideFail s c gen = .ok (.inl _) :=
      decideFail_duplicate.2 ⟨event, turn, hev, hm, Except.ok.inj hturn, rfl⟩
    exact ⟨_, _, perform_duplicate hdec, rfl, hget, rfl⟩
  | cancel c =>
    obtain ⟨turn, hturn, hst⟩ := hrest
    have hturn' : getTurn s.turns c.turnId c.tenantId c.userId = some turn := Except.ok.inj hturn
    have hget' : s.runs.get? c.runId = some run := hget
    have hdec : decideCancel s c gen = .ok (.inl _) :=
      decideCancel_duplicate.2 ⟨event, run, turn, hev, hm, by rw [hget', hturn', hst], rfl⟩
    exact ⟨_, _, perform_duplicate hdec, rfl, rfl, rfl⟩

end Memory

/-! ## Duplicates in the database -/

namespace Db

theorem mapM_eq_ok_some {α : Type} {f : α → Except StoreError α} {o : Option α} {b : α} :
    o.mapM f = .ok (some b) ↔ ∃ a, o = some a ∧ f a = .ok b := by
  cases o with
  | none =>
    constructor
    · intro h
      cases h
    · rintro ⟨a, ha, -⟩
      cases ha
  | some a =>
    show some <$> f a = _ ↔ _
    rw [map_eq_ok]
    simp

theorem recognises_of_exec (h : exec db gen command.command = (.ok reply, db'))
    (hd : reply.duplicate = true) (hrun : reply.run = some run) :
    db' = db ∧ Recognises (.database db) command run := by
  cases command with
  | progress c =>
    have h' : (progress c).run db = (.ok reply, db') := h
    cases hev : db.events.get? c.eventId with
    | none =>
      rw [(progress_fresh hev h').1] at hd
      cases hd
    | some event =>
      obtain ⟨u, hns, h'⟩ := attempt_ok h'
      simp only [run_read, hev] at h'
      obtain ⟨u, hm, h'⟩ := attempt_ok h'
      simp only [run_read] at h'
      split at h'
      · cases h'
      · next row hrow =>
        obtain ⟨run', hread, h'⟩ := attempt_ok h'
        cases h'
        cases hrun
        exact ⟨rfl, ⟨event, hev, hns, hm⟩, mapM_eq_ok_some.2 ⟨row, hrow, hread⟩, trivial⟩
  | complete c =>
    have h' : (complete c gen).run db = (.ok reply, db') := h
    cases hev : db.events.get? c.eventId with
    | none =>
      rw [(complete_fresh hev h').1] at hd
      cases hd
    | some event =>
      simp only [complete, completeDuplicate, run_read, hev] at h'
      obtain ⟨u, hm, h'⟩ := attempt_ok h'
      have hne : c.resultId ≠ "" := ne_empty_of_isIdentifier c.resultIdentifier
      have hfield : Json.field event.payload "result_id" = some (.str c.resultId) :=
        Matches.resultId hm
      simp only [run_read, hfield, if_neg hne] at h'
      split at h'
      · next row resultRow turnRow hrow hresult hturn =>
        obtain ⟨result, hres, h'⟩ := attempt_ok h'
        obtain ⟨u, hid, h'⟩ := attempt_ok h'
        obtain ⟨run', hread, h'⟩ := attempt_ok h'
        obtain ⟨turn, hreadTurn, h'⟩ := attempt_ok h'
        cases h'
        cases hrun
        exact ⟨rfl, ⟨event, hev, hm⟩, mapM_eq_ok_some.2 ⟨row, hrow, hread⟩, turn, result,
          mapM_eq_ok_some.2 ⟨turnRow, hturn, hreadTurn⟩, mapM_eq_ok_some.2 ⟨resultRow, hresult, hres⟩,
          hid⟩
      · exact absurd h' raise_not_ok
  | fail c =>
    have h' : (fail c gen).run db = (.ok reply, db') := h
    cases hev : db.events.get? c.eventId with
    | none =>
      rw [(fail_fresh hev h').1] at hd
      cases hd
    | some event =>
      simp only [fail, failDuplicate, run_read, hev] at h'
      obtain ⟨u, hm, h'⟩ := attempt_ok h'
      simp only [run_read] at h'
      split at h'
      · next row turnRow hrow hturn =>
        obtain ⟨run', hread, h'⟩ := attempt_ok h'
        obtain ⟨turn, hreadTurn, h'⟩ := attempt_ok h'
        cases h'
        cases hrun
        exact ⟨rfl, ⟨event, hev, hm⟩, mapM_eq_ok_some.2 ⟨row, hrow, hread⟩, turn,
          mapM_eq_ok_some.2 ⟨turnRow, hturn, hreadTurn⟩⟩
      · exact absurd h' raise_not_ok
  | cancel c =>
    have h' : (cancel c gen).run db = (.ok reply, db') := h
    cases hev : db.events.get? c.eventId with
    | none =>
      rw [(cancel_fresh hev h').1] at hd
      cases hd
    | some event =>
      simp only [cancel, run_read, hev] at h'
      obtain ⟨u, hm, h'⟩ := attempt_ok h'
      simp only [run_read] at h'
      split at h'
      · next row turnRow hrow hturn =>
        obtain ⟨run', hread, h'⟩ := attempt_ok h'
        obtain ⟨turn, hreadTurn, h'⟩ := attempt_ok h'
        obtain ⟨⟨run'', turn'⟩, hst, h'⟩ := attempt_ok h'
        cases h'
        cases hrun
        obtain ⟨hr, ht, hrest⟩ := validateCancelledState_ok.1 hst
        cases hr
        cases ht
        exact ⟨rfl, ⟨event, hev, hm⟩, mapM_eq_ok_some.2 ⟨row, hrow, hread⟩, turn,
          mapM_eq_ok_some.2 ⟨turnRow, hturn, hreadTurn⟩, hst⟩
      · exact absurd h' raise_not_ok

theorem exec_of_recognises (h : Recognises (.database db) command run) (gen : Generated) :
    ∃ reply turnId, exec db gen command.command = (.ok reply, db) ∧ reply.duplicate = true ∧
      reply.run = some run ∧ replyTurnId command reply = .ok turnId := by
  obtain ⟨⟨event, hev, hm⟩, hrun, hrest⟩ := h
  obtain ⟨row, hrow, hread⟩ := mapM_eq_ok_some.1 hrun
  cases command with
  | progress c =>
    have hev' : db.events.get? c.eventId = some event := hev
    have hrow' : db.runs.get? c.runId = some row := hrow
    have hx : (progress c).run db = (.ok ⟨some run, none, none, true⟩, db) := by
      simp only [progress, run_attempt, hm.1, run_read, hev', hm.2, hrow', hread, Prog.run_ret]
    exact ⟨_, _, hx, rfl, rfl, rfl⟩
  | complete c =>
    obtain ⟨turn, result, hturn, hres, hid⟩ := hrest
    obtain ⟨turnRow, hturnRow, hreadTurn⟩ := mapM_eq_ok_some.1 hturn
    obtain ⟨resultRow, hresultRow, hreadResult⟩ := mapM_eq_ok_some.1 hres
    have hev' : db.events.get? c.eventId = some event := hev
    have hrow' : db.runs.get? c.runId = some row := hrow
    have hturn' : db.turns.get? c.turnId = some turnRow := hturnRow
    have hm' : validateCompletionEventIdentity event c = .ok () := hm
    have hne : c.resultId ≠ "" := ne_empty_of_isIdentifier c.resultIdentifier
    have hfield : Json.field event.payload "result_id" = some (.str c.resultId) := hm.resultId
    have hx : (complete c gen).run db = (.ok ⟨some run, some turn, some result, true⟩, db) := by
      simp only [complete, completeDuplicate, run_attempt, run_read, hev', hm', hfield, if_neg hne,
        hrow', hresultRow, hturn', hreadResult, hid, hread, hreadTurn, Prog.run_ret]
    exact ⟨_, turn.turnId, hx, rfl, rfl, rfl⟩
  | fail c =>
    obtain ⟨turn, hturn⟩ := hrest
    obtain ⟨turnRow, hturnRow, hreadTurn⟩ := mapM_eq_ok_some.1 hturn
    have hev' : db.events.get? c.eventId = some event := hev
    have hrow' : db.runs.get? c.runId = some row := hrow
    have hturn' : db.turns.get? c.turnId = some turnRow := hturnRow
    have hm' : validateFailureEventIdentity event c = .ok () := hm
    have hx : (fail c gen).run db = (.ok ⟨some run, some turn, none, true⟩, db) := by
      simp only [fail, failDuplicate, run_attempt, run_read, hev', hm', hrow', hturn', hread,
        hreadTurn, Prog.run_ret]
    exact ⟨_, turn.turnId, hx, rfl, rfl, rfl⟩
  | cancel c =>
    obtain ⟨turn, hturn, hst⟩ := hrest
    obtain ⟨turnRow, hturnRow, hreadTurn⟩ := mapM_eq_ok_some.1 hturn
    have hev' : db.events.get? c.eventId = some event := hev
    have hrow' : db.runs.get? c.runId = some row := hrow
    have hturn' : db.turns.get? c.turnId = some turnRow := hturnRow
    have hm' : validateCancelEvent event c = .ok () := hm
    have hx : (cancel c gen).run db = (.ok ⟨some run, some turn, none, true⟩, db) := by
      simp only [cancel, run_attempt, run_read, hev', hm', hrow', hturn', hread, hreadTurn, hst,
        Prog.run_ret]
    exact ⟨_, turn.turnId, hx, rfl, rfl, rfl⟩

end Db

/-! ## Duplicates -/

theorem serve_duplicate {s s' : Stores} (h : serve gen command s = (.ok result, s'))
    (hd : result.duplicate = true) :
    s' = s ∧ ∃ run, Recognises s command run ∧ Referable run ∧
      result.run.stateVersion = run.stateVersion := by
  obtain ⟨reply, hx, hc⟩ := serve_ok h
  obtain ⟨href, hturn, hdup⟩ := commandResult_ok hc
  obtain ⟨run, hrun, hrefer, hversion⟩ := runReference_ok href
  rw [hdup] at hd
  cases s with
  | memory s =>
    rw [Stores.exec, Prod.mk.injEq] at hx
    obtain ⟨hs, hr⟩ := Memory.recognises_of_exec (Prod.ext hx.1 rfl) hd hrun hturn
    exact ⟨hx.2.symm.trans (congrArg Stores.memory hs), run, hr, hrefer, hversion⟩
  | database db =>
    rw [Stores.exec, Prod.mk.injEq] at hx
    obtain ⟨hs, hr⟩ := Db.recognises_of_exec (Prod.ext hx.1 rfl) hd hrun
    exact ⟨hx.2.symm.trans (congrArg Stores.database hs), run, hr, hrefer, hversion⟩

/-- A command the stores recognise is answered as a duplicate and changes nothing. -/
theorem serve_of_recognises {s : Stores} (h : Recognises s command run) (hr : Referable run)
    (gen : Generated) :
    ∃ result, serve gen command s = (.ok result, s) ∧ result.duplicate = true ∧
      result.run.stateVersion = run.stateVersion := by
  have hx : ∃ reply turnId, s.exec gen command.command = (.ok reply, s) ∧ reply.duplicate = true ∧
      reply.run = some run ∧ replyTurnId command reply = .ok turnId := by
    cases s with
    | memory s =>
      obtain ⟨reply, turnId, hx, hrest⟩ := Memory.exec_of_recognises h gen
      exact ⟨reply, turnId, by rw [Stores.exec, hx], hrest⟩
    | database db =>
      obtain ⟨reply, turnId, hx, hrest⟩ := Db.exec_of_recognises h gen
      exact ⟨reply, turnId, by rw [Stores.exec, hx], hrest⟩
  obtain ⟨reply, turnId, hx, hdup, hrun, hturn⟩ := hx
  obtain ⟨reference, href, hversion⟩ := runReference_of hr
  obtain ⟨result, hc, hres, hd⟩ := commandResult_of (hrun ▸ href) hturn
  exact ⟨result, by rw [serve_of hx, hc], by rw [hd, hdup], by rw [hres, hversion]⟩

/-! ## First deliveries -/

def bare (run : AgentRun) : AgentRun := { run with input := [], output := none, error := none }

theorem bare_of_validate {out : AgentRun} (h : run.validate = .ok out) : bare out = bare run := by
  rw [AgentRun.validate_eq h]
  rfl

theorem of_bare {β : Type} (f : AgentRun → β) (hf : ∀ run, f (bare run) = f run)
    (h : bare run' = bare run) : f run' = f run := by
  rw [← hf run', h, hf]

theorem referable_of_bare (h : Referable run) (hb : bare run' = bare run) : Referable run' := by
  obtain ⟨h1, h2, h3, h4, h5, h6⟩ := h
  exact ⟨of_bare (·.turnId) (fun _ => rfl) hb ▸ h1,
    of_bare (·.tenantId) (fun _ => rfl) hb ▸ h2,
    of_bare (·.userId) (fun _ => rfl) hb ▸ h3,
    of_bare (·.deadlineAt) (fun _ => rfl) hb ▸ h4,
    of_bare (·.status) (fun _ => rfl) hb ▸ h5,
    of_bare (·.stateVersion) (fun _ => rfl) hb ▸ h6⟩

def conclusionOf (turn : CanonicalTurn) : AgentCommand → Instant
  | .progress c => c.occurredAt
  | .complete c => c.occurredAt
  | .fail c => concludedAt c turn
  | .cancel c => concludedAt c turn

def nextRun (time : Instant) (run : AgentRun) : AgentCommand → AgentRun
  | .progress c => progressRun c run
  | .complete c => concludeRun .completed c time run
  | .fail c => concludeRun .failed c time run
  | .cancel c => concludeRun .cancelled c time run

/-- A first delivery, accepted on `run`, left `run'`. -/
structure Delivered (s s' : Stores) (command : AgentCommand) (run run' : AgentRun) (time : Instant) :
    Prop where
  before : s.getRun command.event.runId = .ok (some run)
  accepts : Accepts run command.event
  unseen : s.ownEvent command.event = none
  order : ∀ c, command = .progress c → run.eventSequence < c.sequence
  after : s'.getRun command.event.runId = .ok (some run')
  next : bare run' = bare (nextRun time run command)
  time : (∃ c, command = .progress c) ∨
    ∃ turn, s.turn command.event.turnId = some turn ∧ time = conclusionOf turn command

namespace Memory

theorem getRun_put {stored updated : AgentRun} (hv : updated.validate = .ok stored)
    (hs : s'.runs = s.runs.put stored) (hid : updated.runId = runId) :
    (Stores.memory s').getRun runId = .ok (some stored) := by
  have hkey : stored.runId = runId := by rw [← AgentRun.runId_of_validate hv, hid]
  rw [Stores.getRun, hs, ← hkey]
  exact congrArg Except.ok (Table.get?_put_self _ _)

theorem delivered_of_exec (h : exec s gen command.command = (.ok reply, s'))
    (hd : reply.duplicate = false) (hrun : reply.run = some run) :
    ∃ old stored time, Delivered (.memory s) (.memory s') command old stored time ∧
      bare stored = bare run := by
  cases command with
  | progress c =>
    obtain ⟨p, hp, rfl, ha⟩ := perform_fresh (fun hdec => (decideProgress_inl hdec).1) h hd
    have hprep := decideProgress_inr hp
    obtain ⟨stored, hv, hs⟩ := (progressWrites_applied ha).run
    cases hrun
    refine ⟨p.run, stored, c.occurredAt, ⟨congrArg Except.ok hprep.fresh.get, hprep.fresh.accepts,
      hprep.fresh.event, ?_, getRun_put hv hs ?_, ?_, .inl ⟨c, rfl⟩⟩, bare_of_validate hv⟩
    · rintro _ ⟨rfl⟩
      exact hprep.sequence
    · rw [hprep.updated]
      exact hprep.fresh.runId
    · rw [bare_of_validate hv, hprep.updated]
      rfl
  | complete c =>
    obtain ⟨p, hp, rfl, ha⟩ := perform_fresh (fun hdec => (decideComplete_inl hdec).1) h hd
    obtain ⟨hfresh, hturn, plan, -, hb⟩ := decideComplete_inr hp
    obtain ⟨stored, hv, hs⟩ := (completionWrites_applied ha).run
    cases hrun
    refine ⟨p.run, stored, c.occurredAt, ⟨congrArg Except.ok hfresh.get, hfresh.accepts,
      hfresh.event, (by rintro _ ⟨⟩), getRun_put hv hs ?_, ?_, .inr ⟨p.turn, hturn.get, rfl⟩⟩,
      bare_of_validate hv⟩
    · rw [hb.run_eq]
      exact hfresh.runId
    · rw [bare_of_validate hv, hb.run_eq]
      rfl
  | fail c =>
    obtain ⟨p, hp, rfl, ha⟩ := perform_fresh (fun hdec => (decideFail_inl hdec).1) h hd
    obtain ⟨hprep, -, hupdated, -⟩ := decideFail_inr hp
    obtain ⟨stored, hv, hs⟩ := (terminalWrites_applied ha).run
    cases hrun
    refine ⟨p.run, stored, concludedAt c p.turn,
      ⟨congrArg Except.ok hprep.fresh.get, hprep.fresh.accepts, hprep.fresh.event, (by rintro _ ⟨⟩),
        getRun_put hv hs ?_, ?_, .inr ⟨p.turn, hprep.turn.get, rfl⟩⟩, bare_of_validate hv⟩
    · rw [hupdated]
      exact hprep.fresh.runId
    · rw [bare_of_validate hv, hupdated]
      rfl
  | cancel c =>
    obtain ⟨p, hp, rfl, ha⟩ := perform_fresh (fun hdec => (decideCancel_inl hdec).1) h hd
    obtain ⟨hprep, -, hupdated, -⟩ := decideCancel_inr hp
    obtain ⟨stored, hv, hs⟩ := (terminalWrites_applied ha).run
    cases hrun
    refine ⟨p.run, stored, concludedAt c p.turn,
      ⟨congrArg Except.ok hprep.fresh.get, hprep.fresh.accepts, hprep.fresh.event, (by rintro _ ⟨⟩),
        getRun_put hv hs ?_, ?_, .inr ⟨p.turn, hprep.turn.get, rfl⟩⟩, bare_of_validate hv⟩
    · rw [hupdated]
      exact hprep.fresh.runId
    · rw [bare_of_validate hv, hupdated]
      rfl

end Memory

namespace Db

theorem getRun_put (hread : runFromRow row = .ok run) (hs : db'.runs = db.runs.put row)
    (hid : row.runId = runId) : (Stores.database db').getRun runId = .ok (some run) := by
  refine mapM_eq_ok_some.2 ⟨row, ?_, hread⟩
  rw [hs, ← hid]
  exact Table.get?_put_self _ _

/-- The row of a completed run is readable, given an output that reads as it is. -/
theorem completedRow_reads {command : DelegatedRunCompleteCommand}
    (hread : runFromRow row = .ok run) (hout : sanitizeBody command.output = .ok command.output) :
    ∃ stored, runFromRow (applyRun row (completedRun command run)) = .ok stored ∧
      bare stored = bare (completedRun command run) := by
  obtain ⟨hv, input, output, error, hi, ho, he, rfl⟩ := AgentRun.validate_ok.1 hread
  have hv' : 1 ≤ row.stateVersion + 1 := by omega
  refine ⟨_, AgentRun.validate_ok.2 ⟨hv', input, command.output, error, hi, hout,
    sanitizeBody_idem he, rfl⟩, rfl⟩

theorem runs_apply {c : Changes} (hn : c.newRun = none) (hr : c.run = some row) :
    (db.apply c).runs = db.runs.put row := by
  simp only [Database.apply, hn, hr, Table.putOption_none, Table.putOption_some]

theorem delivered_of_exec (h : exec db gen command.command = (.ok reply, db'))
    (hout : ∀ c, command = .complete c → sanitizeBody c.output = .ok c.output)
    (hd : reply.duplicate = false) (hrun : reply.run = some run) :
    ∃ old stored time, Delivered (.database db) (.database db') command old stored time ∧
      bare stored = bare run := by
  cases hev : db.events.get? command.event.eventId with
  | some event =>
    have hdup : reply.duplicate = true := by
      cases command with
      | progress c =>
        obtain ⟨hd, -⟩ | ⟨-, row, old, planRow, hfound, -, -, hfresh, -⟩ := progress_ok h
        · exact hd
        · have hnone := hfresh.event _ rfl
          exact absurd (hev.symm.trans hnone) (by simp)
      | complete c =>
        obtain ⟨hd, -⟩ | ⟨-, row, old, turn, plan, bundle, planRow, hfound, -, -, -, hb, -, -, hfresh, -⟩ :=
          complete_ok h
        · exact hd
        · have hnone := hfresh.event _ rfl
          rw [hb.event_eq] at hnone
          exact absurd (hev.symm.trans hnone) (by simp)
      | fail c =>
        obtain ⟨hd, -⟩ | ⟨-, row, old, turn, planRow, hfound, -, -, hfresh, -⟩ := fail_ok h
        · exact hd
        · have hnone := hfresh.event _ rfl
          exact absurd (hev.symm.trans hnone) (by simp)
      | cancel c =>
        obtain ⟨hd, -⟩ | ⟨-, row, old, turn, planRow, hfound, -, -, hfresh, -⟩ := cancel_ok h
        · exact hd
        · have hnone := hfresh.event _ rfl
          exact absurd (hev.symm.trans hnone) (by simp)
    rw [hd] at hdup
    cases hdup
  | none =>
    cases command with
    | progress c =>
      obtain ⟨-, row, old, planRow, hfound, hseq, -, ⟨stored, hread, hstored⟩, -, rfl⟩ :=
        progress_fresh hev h
      rw [hrun] at hstored
      cases hstored
      refine ⟨old, run, c.occurredAt, ⟨mapM_eq_ok_some.2 ⟨row, hfound.get, hfound.reads⟩,
        hfound.accepts, hev, ?_, getRun_put hread (runs_apply rfl rfl) hfound.rowId, ?_, .inl ⟨c, rfl⟩⟩,
        rfl⟩
      · rintro _ ⟨rfl⟩
        exact hseq
      · rw [bare_of_validate hread, AgentRun.validate_eq hfound.reads]
        rfl
    | complete c =>
      obtain ⟨-, row, old, turn, plan, bundle, planRow, rfl, hfound, hturn, -, -, hb, -, -, -, rfl⟩ :=
        complete_fresh hev h
      cases hrun
      obtain ⟨stored, hread, hbare⟩ := completedRow_reads hfound.reads (hout c rfl)
      rw [← hb.run_eq] at hread hbare
      refine ⟨old, stored, c.occurredAt, ⟨mapM_eq_ok_some.2 ⟨row, hfound.get, hfound.reads⟩,
        hfound.accepts, hev, (by rintro _ ⟨⟩), getRun_put hread (runs_apply rfl rfl) hfound.rowId, ?_,
        .inr ⟨turn, hturn, rfl⟩⟩, hbare⟩
      rw [hbare, hb.run_eq]
      rfl
    | fail c =>
      obtain ⟨-, row, old, turn, planRow, hfound, ht, -, ⟨stored, hread, hstored⟩, -, -, rfl⟩ :=
        fail_fresh hev h
      rw [hrun] at hstored
      cases hstored
      refine ⟨old, run, concludedAt c turn,
        ⟨mapM_eq_ok_some.2 ⟨row, hfound.get, hfound.reads⟩, hfound.accepts, hev, (by rintro _ ⟨⟩),
          getRun_put hread (runs_apply rfl rfl) hfound.rowId, ?_, .inr ⟨turn, ht.get, rfl⟩⟩, rfl⟩
      rw [bare_of_validate hread, AgentRun.validate_eq hfound.reads]
      rfl
    | cancel c =>
      obtain ⟨-, row, old, turn, planRow, hfound, ht, -, ⟨stored, hread, hstored⟩, -, -, rfl⟩ :=
        cancel_fresh hev h
      rw [hrun] at hstored
      cases hstored
      refine ⟨old, run, concludedAt c turn,
        ⟨mapM_eq_ok_some.2 ⟨row, hfound.get, hfound.reads⟩, hfound.accepts, hev, (by rintro _ ⟨⟩),
          getRun_put hread (runs_apply rfl rfl) hfound.rowId, ?_, .inr ⟨turn, ht.get, rfl⟩⟩, rfl⟩
      rw [bare_of_validate hread, AgentRun.validate_eq hfound.reads]
      rfl

end Db

/-! ## What a first delivery leaves to be recognised by -/

structure Tidy (body : JsonDict) : Prop where
  sanitized : sanitizeFields body = .ok body
  distinct : (Json.obj body).distinctKeys = true

def Clean : AgentCommand → Prop
  | .progress c => Tidy c.payload
  | .complete c => (∀ body, c.output = some body → Tidy body) ∧
      ∀ item ∈ c.artifactRefs, (Json.obj item).distinctKeys = true
  | .fail c => Tidy c.error
  | .cancel _ => True

theorem Tidy.pyEq {body : JsonDict} (h : Tidy body) : JsonDict.pyEq body body = true :=
  JsonDict.pyEq_refl h.distinct

theorem Clean.output {c : DelegatedRunCompleteCommand} (h : Clean (.complete c)) :
    sanitizeBody c.output = .ok c.output ∧ JsonDict.pyEqOption c.output c.output = true := by
  have hbody := h.1
  cases hout : c.output with
  | none => exact ⟨rfl, rfl⟩
  | some body =>
    obtain ⟨hs, hd⟩ := hbody body hout
    refine ⟨?_, JsonDict.pyEq_refl hd⟩
    rw [sanitizeBody, hs]
    rfl

def stampedAt (time : Option Instant) (event : AgentEvent) : AgentEvent :=
  { event with createdAt := time }

theorem progressEvent_matches {c : DelegatedRunProgressCommand} {event : AgentEvent}
    (hns : validateProgressEventNamespace c = .ok ()) (hc : Tidy c.payload)
    (he : event = progressEvent run c) (time : Option Instant) :
    Matches (stampedAt time event) (.progress c) := by
  subst he
  exact ⟨hns, validateDuplicateEvent_ok.2
    ⟨⟨rfl, rfl, rfl, rfl, rfl, rfl, rfl⟩, rfl, rfl, rfl, hc.pyEq⟩⟩

theorem progressEvent_validate {c : DelegatedRunProgressCommand} {event : AgentEvent}
    (hc : Tidy c.payload) (h : (progressEvent run c).validate = .ok event) :
    event = progressEvent run c := by
  obtain ⟨-, -, payload, hp, rfl⟩ := AgentEvent.validate_ok.1 h
  have heq : payload = c.payload := Except.ok.inj (hp.symm.trans hc.sanitized)
  rw [heq]
  rfl

theorem terminalEvent_validated {event : AgentEvent} (hp : sanitizeFields payload = .ok payload)
    (h : (terminalEvent run c runId eventType status payload time).validate = .ok event) :
    event = terminalEvent run c runId eventType status payload time := by
  obtain ⟨-, -, payload', hp', rfl⟩ := AgentEvent.validate_ok.1 h
  have heq : payload' = payload := Except.ok.inj (hp'.symm.trans hp)
  rw [heq]
  rfl

theorem terminalEvent_matches {event : AgentEvent} (ha : Accepts run c) (hid : runId = c.runId)
    (hp : JsonDict.pyEq payload payload = true)
    (he : event = terminalEvent run c runId eventType status payload time) (stamp : Option Instant) :
    validateTerminalEvent message eventType status payload (stampedAt stamp event) c = .ok () := by
  subst he hid
  exact validateTerminalEvent_ok.2 ⟨sameIdentity_iff.2
    ⟨rfl, ha.turn, ha.tenant, ha.user, ha.agent, ha.plan, ha.step⟩, rfl, rfl, hp⟩

theorem Tidy.error {body : JsonDict} (h : Tidy body) : Tidy [("error", .obj body)] := by
  refine ⟨?_, ?_⟩
  · have hk : ("error" : String) ≠ "knowledge_context" := by decide
    simp only [sanitizeFields, if_neg hk, h.sanitized]
    rfl
  · refine Json.distinctKeys_obj.2 ⟨by simp, ?_⟩
    simpa using h.distinct

theorem tidy_single (key s : String) : Tidy [(key, .str s)] :=
  ⟨rfl, Json.distinctKeys_obj.2 ⟨by simp, by simp [Json.distinctKeys]⟩⟩

theorem validateCompletionResultIdentity_of {c : DelegatedRunCompleteCommand} {result : AgentResult}
    (ha : Accepts run c) (hid : run.runId = c.runId)
    (hc : Clean (.complete c)) (hr : (completionResult c run).validate = .ok result) :
    result.resultId = c.resultId ∧ validateCompletionResultIdentity result c = .ok () := by
  obtain ⟨-, output, error, ho, -, rfl⟩ := AgentResult.validate_ok.1 hr
  obtain ⟨hsan, hpy⟩ := hc.output
  have heq : output = c.output := Except.ok.inj (ho.symm.trans hsan)
  subst heq
  have hrefs : Json.pyEq (.arr (c.artifactRefs.map .obj)) (.arr (c.artifactRefs.map .obj)) = true := by
    refine Json.pyEq_refl (Json.distinctKeysItems_iff.2 ?_)
    intro item hitem
    obtain ⟨body, hbody, rfl⟩ := List.mem_map.1 hitem
    exact hc.2 body hbody
  refine ⟨rfl, ?_⟩
  simp only [validateCompletionResultIdentity, completionResult, hid, ha.turn, ha.tenant, ha.user,
    ha.agent, ha.plan, ha.step, hpy, hrefs, decide_true, Bool.and_self, if_true]

/-- What a first delivery needs so that the same command is recognised after it:
its id is not taken by another owner's event, which the in-memory store would keep
instead; the first result under its id is its own; and the database can read back
the turn it has completed. -/
structure Memorable (s : Stores) (command : AgentCommand) : Prop where
  unused : s.event command.event.eventId = none
  result : ∀ c old, command = .complete c → s.result c.resultId = some old →
    validateCompletionResultIdentity old c = .ok ()
  turn : ∀ c db turn, command = .complete c → s = .database db →
    s.turn c.turnId = some turn → turn.createdAt ≤ c.occurredAt ∧
      (addNew turn.references.resultIds c.resultId).length ≤ 50

namespace Memory

/-- What is found under an id that was free for the owner: the new event, if the id
was free for all. -/
theorem getEvent_added {events : Table AgentEvent.eventId} {event : AgentEvent} (stamp : Instant)
    (hid : event.eventId = c.eventId)
    (howner : event.tenantId = some c.tenantId ∧ event.userId = some c.userId)
    (hnone : getEvent events c.eventId c.tenantId c.userId = none) :
    getEvent (addAgentEvent events stamp event) c.eventId c.tenantId c.userId =
      if events.get? c.eventId = none then some (stampedAt (some stamp) event) else none := by
  have hkey : events.get? event.eventId = events.get? c.eventId := by rw [hid]
  unfold addAgentEvent
  rw [hkey]
  cases hget : events.get? c.eventId with
  | some other => simpa using hnone
  | none =>
    have hput : (events.put (stampedAt (some stamp) event)).get? c.eventId =
        some (stampedAt (some stamp) event) := by
      rw [← hid]
      exact Table.get?_put_self events (stampedAt (some stamp) event)
    simp only [if_true]
    exact getEvent_eq_some.2 ⟨hput, howner⟩

theorem getTurn_put {turns : Table CanonicalTurn.turnId} {turn : CanonicalTurn}
    {turnId tenantId userId : String} (hid : turn.turnId = turnId) (ht : turn.tenantId = tenantId)
    (hu : turn.userId = userId) : getTurn (turns.put turn) turnId tenantId userId = some turn :=
  getTurn_eq_some.2 ⟨hid ▸ Table.get?_put_self _ _, ht, hu⟩

/-- The event of a first delivery is found again if its id was free for all owners. -/
theorem ownEvent_written (command : AgentCommand) {event : AgentEvent} {stamp : Instant}
    (hw : Written command.event stamp s s' run run' event) :
    (Stores.memory s').ownEvent command.event =
      if (Stores.memory s).event command.event.eventId = none then some (stampedAt (some stamp) event)
      else none := by
  simp only [Stores.ownEvent, Stores.event, hw.events,
    getEvent_added stamp hw.eventId hw.eventOwner hw.fresh.event]
  congr

/-- What an accepted first delivery stores under its id. -/
theorem ownEvent_of_exec (h : exec s gen command.command = (.ok reply, s'))
    (hd : reply.duplicate = false) (hc : Clean command) :
    ∃ event, Matches event command ∧ (Stores.memory s').ownEvent command.event =
      if (Stores.memory s).event command.event.eventId = none then some event else none := by
  cases command with
  | progress c =>
    obtain ⟨p, hp, -, ha⟩ := perform_fresh (fun hdec => (decideProgress_inl hdec).1) h hd
    have hprep := decideProgress_inr hp
    obtain ⟨u, hns, -⟩ := bind_eq_ok.1 hp
    exact ⟨_, progressEvent_matches hns hc (progressEvent_validate hc hprep.event) _,
      ownEvent_written (.progress c) ((progressWrites_applied ha).written hprep)⟩
  | complete c =>
    obtain ⟨p, hp, -, ha⟩ := perform_fresh (fun hdec => (decideComplete_inl hdec).1) h hd
    obtain ⟨hfresh, hturn, plan, -, hb⟩ := decideComplete_inr hp
    exact ⟨_, terminalEvent_matches hfresh.accepts hfresh.runId (tidy_single _ _).pyEq hb.event_eq _,
      ownEvent_written (.complete c) ((completionWrites_applied ha).written hfresh hb)⟩
  | fail c =>
    obtain ⟨p, hp, -, ha⟩ := perform_fresh (fun hdec => (decideFail_inl hdec).1) h hd
    obtain ⟨hprep, -, hrun, -, -, hev, hout⟩ := decideFail_inr hp
    have htidy := Tidy.error hc
    exact ⟨_, terminalEvent_matches hprep.fresh.accepts hprep.fresh.runId htidy.pyEq
        (terminalEvent_validated htidy.sanitized hev) _,
      ownEvent_written (.fail c)
        ((terminalWrites_applied ha).written hprep hrun rfl hev hout)⟩
  | cancel c =>
    obtain ⟨p, hp, -, ha⟩ := perform_fresh (fun hdec => (decideCancel_inl hdec).1) h hd
    obtain ⟨hprep, -, hrun, -, -, hev, hout⟩ := decideCancel_inr hp
    have htidy := tidy_single "reason" c.reason
    exact ⟨_, terminalEvent_matches hprep.fresh.accepts hprep.fresh.runId htidy.pyEq
        (terminalEvent_validated htidy.sanitized hev) _,
      ownEvent_written (.cancel c)
        ((terminalWrites_applied ha).written hprep hrun rfl hev hout)⟩

/-- What is compared beside the event, after an accepted first delivery. -/
theorem remembers_iff (h : exec s gen command.command = (.ok reply, s'))
    (hd : reply.duplicate = false) (hc : Clean command)
    (hnext : bare run' = bare (nextRun time run command)) :
    Remembers (.memory s') run' command ↔ ∀ c old, command = .complete c →
      (Stores.memory s).result c.resultId = some old →
      validateCompletionResultIdentity old c = .ok () := by
  cases command with
  | progress c => simp [Remembers]
  | fail c =>
    obtain ⟨p, hp, -, ha⟩ := perform_fresh (fun hdec => (decideFail_inl hdec).1) h hd
    obtain ⟨hprep, -, -, hupdated, -⟩ := decideFail_inr hp
    have hturn : getTurn s'.turns c.turnId c.tenantId c.userId = some p.updatedTurn := by
      rw [(terminalWrites_applied ha).turns, hupdated]
      exact getTurn_put hprep.turn.turnId hprep.turn.tenant hprep.turn.user
    simp only [Remembers, reduceCtorEq, false_imp_iff, implies_true, iff_true]
    exact ⟨_, congrArg Except.ok hturn⟩
  | cancel c =>
    obtain ⟨p, hp, -, ha⟩ := perform_fresh (fun hdec => (decideCancel_inl hdec).1) h hd
    obtain ⟨hprep, -, -, hupdated, -⟩ := decideCancel_inr hp
    have hturn : getTurn s'.turns c.turnId c.tenantId c.userId = some p.updatedTurn := by
      rw [(terminalWrites_applied ha).turns, hupdated]
      exact getTurn_put hprep.turn.turnId hprep.turn.tenant hprep.turn.user
    simp only [Remembers, reduceCtorEq, false_imp_iff, implies_true, iff_true]
    refine ⟨_, congrArg Except.ok hturn, validateCancelledState_ok.2 ⟨rfl, rfl, ?_, ?_, ?_⟩⟩
    · exact of_bare (·.status) (fun _ => rfl) hnext
    · exact of_bare (·.terminalEventId) (fun _ => rfl) hnext
    · rw [hupdated]
      rfl
  | complete c =>
    obtain ⟨p, hp, -, ha⟩ := perform_fresh (fun hdec => (decideComplete_inl hdec).1) h hd
    obtain ⟨hfresh, hturn, plan, -, hb⟩ := decideComplete_inr hp
    have happ := completionWrites_applied ha
    obtain ⟨hrid, hidentity⟩ := validateCompletionResultIdentity_of hfresh.accepts hfresh.runId hc
      hb.result_ok
    have hgetTurn : getTurn s'.turns c.turnId c.tenantId c.userId = some p.bundle.turn := by
      rw [happ.turns, hb.turn_eq]
      exact getTurn_put hturn.turnId hturn.tenant hturn.user
    have hgetResult : s'.results.find? (fun result => result.resultId = c.resultId) =
        (s.results.find? fun result => result.resultId = c.resultId).or (some p.bundle.result) := by
      rw [happ.results, List.find?_append, List.find?_singleton, if_pos (by simpa using hrid)]
    simp only [Remembers, Stores.getTurn, Stores.getResult, Stores.result, hgetTurn, hgetResult,
      AgentCommand.complete.injEq, Except.ok.injEq]
    constructor
    · rintro ⟨turn, result, -, hres, hid⟩ d old rfl hold
      rw [hold] at hres
      cases hres
      exact hid
    · intro hold
      cases hfind : s.results.find? fun result => result.resultId = c.resultId with
      | none => exact ⟨_, _, rfl, rfl, hidentity⟩
      | some old => exact ⟨_, _, rfl, rfl, hold c old rfl hfind⟩

theorem recognises_iff (h : exec s gen command.command = (.ok reply, s'))
    (hd : reply.duplicate = false) (hc : Clean command)
    (hdel : Delivered (.memory s) (.memory s') command run run' time) :
    Recognises (.memory s') command run' ↔ Memorable (.memory s) command := by
  have hremember := remembers_iff h hd hc hdel.next
  obtain ⟨event, hm, hown⟩ := ownEvent_of_exec h hd hc
  have hevent : (∃ event, (Stores.memory s').ownEvent command.event = some event ∧
      Matches event command) ↔ (Stores.memory s).event command.event.eventId = none := by
    rw [hown]
    split
    · next hfree => simpa [hfree] using hm
    · next htaken => simpa using htaken
  constructor
  · intro hr
    exact ⟨hevent.1 hr.event, hremember.1 hr.rest, by rintro _ _ _ _ ⟨⟩⟩
  · intro hm
    exact ⟨hevent.2 hm.unused, hdel.after, hremember.2 hm.result⟩

end Memory

namespace Db

theorem getTurn_put (db db' : Database) (turn : CanonicalTurn) (c : DelegatedRunEventCommand)
    (hs : db'.turns = db.turns.put turn) (hid : turn.turnId = c.turnId) :
    (Stores.database db').getTurn c = if turn.Valid then .ok (some turn) else
      some <$> turnFromRow turn := by
  have hget : db'.turns.get? c.turnId = some turn := by
    rw [hs, ← hid]
    exact Table.get?_put_self _ _
  simp only [Stores.getTurn, hget]
  split
  · next hv =>
    show some <$> turnFromRow turn = _
    rw [turnFromRow, CanonicalTurn.validate_of_valid hv]
    rfl
  · rfl

/-- The turn a command has written is readable just when it is valid. -/
theorem getTurn_put_iff (db db' : Database) (turn : CanonicalTurn) (c : DelegatedRunEventCommand)
    (hs : db'.turns = db.turns.put turn) (hid : turn.turnId = c.turnId) :
    (∃ read, (Stores.database db').getTurn c = .ok (some read)) ↔ turn.Valid := by
  rw [getTurn_put db db' turn c hs hid]
  split
  · next hv => exact ⟨fun _ => hv, fun _ => ⟨turn, rfl⟩⟩
  · next hv =>
    refine ⟨?_, fun h => absurd h hv⟩
    rintro ⟨read, hread⟩
    obtain ⟨turn', hturn', -⟩ := map_eq_ok.1 hread
    exact CanonicalTurn.valid_of_validate hturn'

theorem getEvent_put {event : AgentEvent} (hs : db'.events = db.events.put event)
    (hid : event.eventId = c.eventId) : (Stores.database db').ownEvent c = some event := by
  rw [Stores.ownEvent, hs, ← hid]
  exact Table.get?_put_self _ _

/-- What an accepted first delivery stores under its id. -/
theorem ownEvent_of_exec (hev : db.events.get? command.event.eventId = none)
    (h : exec db gen command.command = (.ok reply, db')) (hc : Clean command) :
    ∃ event, Matches event command ∧ (Stores.database db').ownEvent command.event = some event := by
  cases command with
  | progress c =>
    obtain ⟨-, row, old, planRow, hfound, -, -, -, -, rfl⟩ := progress_fresh hev h
    have hns : validateProgressEventNamespace c = .ok () := by
      obtain ⟨u, hns, -⟩ := attempt_ok h
      exact hns
    exact ⟨_, progressEvent_matches hns hc rfl _, getEvent_put rfl rfl⟩
  | complete c =>
    obtain ⟨-, row, old, turn, plan, bundle, planRow, rfl, hfound, -, -, -, hb, -, -, -, rfl⟩ :=
      complete_fresh hev h
    have hm : validateCompletionEventIdentity (stampedAt bundle.event.createdAt bundle.event) c =
        .ok () :=
      terminalEvent_matches hfound.accepts hfound.runId (tidy_single _ _).pyEq hb.event_eq _
    refine ⟨bundle.event, hm, getEvent_put rfl ?_⟩
    rw [hb.event_eq]
    rfl
  | fail c =>
    obtain ⟨-, row, old, turn, planRow, hfound, -, -, -, -, -, rfl⟩ := fail_fresh hev h
    exact ⟨_, terminalEvent_matches hfound.accepts rfl (Tidy.error hc).pyEq
      (rfl : _ = terminalEvent old _ _ _ _ _ (concludedAt c turn)) _,
      getEvent_put rfl rfl⟩
  | cancel c =>
    obtain ⟨-, row, old, turn, planRow, hfound, -, -, -, -, -, rfl⟩ := cancel_fresh hev h
    exact ⟨_, terminalEvent_matches hfound.accepts rfl (tidy_single _ _).pyEq
      (rfl : _ = terminalEvent old _ _ _ _ _ (concludedAt c turn)) _,
      getEvent_put rfl rfl⟩

theorem recognises_iff (h : exec db gen command.command = (.ok reply, db')) (hc : Clean command)
    (hdel : Delivered (.database db) (.database db') command run run' time) :
    Recognises (.database db') command run' ↔ Memorable (.database db) command := by
  have hev : db.events.get? command.event.eventId = none := hdel.unseen
  obtain ⟨event, hm, hown⟩ := ownEvent_of_exec hev h hc
  have hevent : ∃ event, (Stores.database db').ownEvent command.event = some event ∧
      Matches event command := ⟨event, hown, hm⟩
  cases command with
  | progress c =>
    exact ⟨fun _ => ⟨hev, (by rintro _ _ ⟨⟩), (by rintro _ _ _ ⟨⟩)⟩, fun _ => ⟨hevent, hdel.after, trivial⟩⟩
  | complete c =>
    obtain ⟨-, row, old, turn, plan, bundle, planRow, rfl, hfound, hturn, hvalid, -, hb, -, -, hfresh, rfl⟩ :=
      complete_fresh hev h
    have hturnId : turn.turnId = c.turnId := Table.key_of_get? hturn
    obtain ⟨hrid, hidentity⟩ := validateCompletionResultIdentity_of hfound.accepts hfound.runId hc
      hb.result_ok
    have happly : applyTurn turn bundle.turn = completedTurn c turn := by
      rw [hb.turn_eq]
      rfl
    have hread := getTurn_put_iff db (db.apply (bundleChanges bundle turn row planRow))
      (completedTurn c turn) c (by rw [← happly]; rfl) hturnId
    have hresult : (Stores.database (db.apply (bundleChanges bundle turn row planRow))).getResult
        c.resultId = .ok (some bundle.result) := by
      refine mapM_eq_ok_some.2 ⟨bundle.result, ?_, AgentResult.validate_idem hb.result_ok⟩
      rw [← hrid]
      exact Table.get?_put_self _ _
    have hunused : db.results.get? c.resultId = none := by
      rw [← hrid]
      exact hfresh.result _ rfl
    rw [completedTurn_valid hvalid] at hread
    constructor
    · intro hr
      obtain ⟨turn', result, ht, -⟩ := hr.rest
      refine ⟨hev, ?_, ?_⟩
      · rintro d old' ⟨rfl⟩ hold
        rw [Stores.result, hunused] at hold
        cases hold
      · rintro d db2 turn2 ⟨rfl⟩ ⟨rfl⟩ hturn2
        rw [Stores.turn, hturn] at hturn2
        cases hturn2
        exact hread.1 ⟨turn', ht⟩
    · intro hmem
      obtain ⟨read, hread'⟩ := hread.2 (hmem.turn c db turn rfl rfl hturn)
      exact ⟨hevent, hdel.after, read, bundle.result, hread', hresult, hidentity⟩
  | fail c =>
    obtain ⟨-, row, old, turn, planRow, hfound, ht, -, -, -, -, rfl⟩ := fail_fresh hev h
    have hturnId : turn.turnId = c.turnId := Table.key_of_get? ht.get
    obtain ⟨read, hread⟩ := (getTurn_put_iff db (db.apply (failChanges c gen row old turn planRow))
      _ c rfl hturnId).2 (failedTurn_valid ht.valid)
    exact ⟨fun _ => ⟨hev, (by rintro _ _ ⟨⟩), (by rintro _ _ _ ⟨⟩)⟩, fun _ => ⟨hevent, hdel.after, read, hread⟩⟩
  | cancel c =>
    obtain ⟨-, row, old, turn, planRow, hfound, ht, -, -, -, -, rfl⟩ := cancel_fresh hev h
    have hvalid : (concludeTurn .cancelled (concludedAt c turn) turn).Valid :=
      concludeTurn_valid ht.valid rfl (by decide) ht.valid.response
    have hturnId : turn.turnId = c.turnId := Table.key_of_get? ht.get
    have hread := getTurn_put db (db.apply (cancelChanges c gen row old turn planRow)) _
      c rfl hturnId
    rw [if_pos hvalid] at hread
    refine ⟨fun _ => ⟨hev, (by rintro _ _ ⟨⟩), (by rintro _ _ _ ⟨⟩)⟩,
      fun _ => ⟨hevent, hdel.after, _, hread, validateCancelledState_ok.2 ⟨rfl, rfl, ?_, ?_, rfl⟩⟩⟩
    · exact of_bare (·.status) (fun _ => rfl) hdel.next
    · exact of_bare (·.terminalEventId) (fun _ => rfl) hdel.next

end Db

/-! ## Both stores -/

/-- An accepted command that is no duplicate: what it found, what it left under its
id, and when the same command is recognised after it. -/
theorem serve_fresh {s s' : Stores} (h : serve gen command s = (.ok result, s'))
    (hc : Clean command) (hd : result.duplicate = false) :
    ∃ run run' time, Delivered s s' command run run' time ∧ Referable run' ∧
      result.run.stateVersion = run'.stateVersion ∧
      (∀ event, s'.ownEvent command.event = some event → Matches event command) ∧
      (Recognises s' command run' ↔ Memorable s command) := by
  obtain ⟨reply, hx, hres⟩ := serve_ok h
  obtain ⟨href, -, hdup⟩ := commandResult_ok hres
  obtain ⟨run, hrun, hrefer, hversion⟩ := runReference_ok href
  rw [hdup] at hd
  cases s with
  | memory s =>
    rw [Stores.exec, Prod.mk.injEq] at hx
    obtain ⟨hx, rfl⟩ := hx
    have hx' : Memory.exec s gen command.command = (.ok reply, _) := Prod.ext hx rfl
    obtain ⟨old, stored, time, hdel, hbare⟩ := Memory.delivered_of_exec hx' hd hrun
    refine ⟨old, stored, time, hdel, referable_of_bare hrefer hbare, ?_, ?_,
      Memory.recognises_iff hx' hd hc hdel⟩
    · rw [hversion]
      exact (of_bare (·.stateVersion) (fun _ => rfl) hbare).symm
    · intro event hevent
      obtain ⟨stored, hm, hown⟩ := Memory.ownEvent_of_exec hx' hd hc
      rw [hown] at hevent
      split at hevent
      · cases hevent
        exact hm
      · cases hevent
  | database db =>
    rw [Stores.exec, Prod.mk.injEq] at hx
    obtain ⟨hx, rfl⟩ := hx
    have hx' : Db.exec db gen command.command = (.ok reply, _) := Prod.ext hx rfl
    have hout : ∀ c, command = .complete c → sanitizeBody c.output = .ok c.output := by
      rintro c rfl
      exact (Clean.output hc).1
    obtain ⟨old, stored, time, hdel, hbare⟩ := Db.delivered_of_exec hx' hout hd hrun
    refine ⟨old, stored, time, hdel, referable_of_bare hrefer hbare, ?_, ?_,
      Db.recognises_iff hx' hc hdel⟩
    · rw [hversion]
      exact (of_bare (·.stateVersion) (fun _ => rfl) hbare).symm
    · intro event hevent
      obtain ⟨stored, hm, hown⟩ := Db.ownEvent_of_exec hdel.unseen hx' hc
      cases hown.symm.trans hevent
      exact hm

end OpenIntentRouter.DelegatedRuns
