import OpenIntentRouter.DelegatedRuns.DatabaseSerial

/-!
# The turn of the delegated runs in the database

`fail` and `cancel` refuse a terminal turn. `complete` and `timeout` do not look
at its status; what stops them there is only the unique key of the outbox, when
the turn was closed the same way before.

All serial runs from tables in which the terminal turns are settled (`Settled`), rejected
commands included. The condition reads the state before the step.

* `Concluded`: what the four terminal commands commit;
* `terminal_turn_absorbing`: as long as no `complete` or `timeout` reaches a turn
  closed in another way (`closesTwice`), terminal turns stay as they are.
-/
namespace OpenIntentRouter.DelegatedRuns.Db

open Core Schemas Repositories

/-! ## What the terminal commands commit -/

def closingEvent : TurnStatus → String
  | .completed => "turn.completed"
  | .failed => "turn.failed"
  | .cancelled => "turn.cancelled"
  | .timedOut => "turn.timed_out"
  | .pending | .routing | .running | .blocked => ""

structure Concluded (command : DelegatedRunEventCommand) (db db' : Database) (row : AgentRun)
    (turn turn' : CanonicalTurn) (changes : Changes) : Prop where
  found : ∃ run, RunFound command db row run
  turnGet : db.turns.get? command.turnId = some turn
  fresh : db.Fresh changes
  applied : db' = db.apply changes
  newRun : changes.newRun = none
  runPut : ∃ updated, changes.run = some updated ∧ updated.runId = row.runId ∧
    updated.turnId = row.turnId
  turnPut : changes.turn = some turn'
  turnId : turn'.turnId = turn.turnId
  closed : turn'.status.isTerminal = true
  eventPut : ∃ event, changes.event = some event ∧ event.eventId = command.eventId
  outboxPut : ∃ entry, changes.outbox = some entry ∧ entry.turnId = turn.turnId ∧
    entry.eventType = closingEvent turn'.status ∧
    entry.idempotencyKey = closingEvent turn'.status ++ ":" ++ turn.turnId

variable {db db' : Database} {turn turn' updated : CanonicalTurn} {gen : Generated} {r : Reply}
  {row run : AgentRun} {command : DelegatedRunEventCommand} {changes : Changes}

theorem turnId_of {turnId : String} (h : db.turns.get? turnId = some turn) :
    turn.turnId = turnId := Table.key_of_get? h

theorem terminalChanges_concluded {command : DelegatedRunEventCommand} {db db' : Database}
    {row run updated : AgentRun} {turn turn' : CanonicalTurn} {planRow : Option PlanModel}
    {event : AgentEvent} {entry : TurnOutboxEvent} (hf : RunFound command db row run)
    (ht : db.turns.get? command.turnId = some turn)
    (hfresh : db.Fresh (terminalChanges updated turn' planRow event entry))
    (hdb : db' = db.apply (terminalChanges updated turn' planRow event entry))
    (hid : updated.runId = row.runId ∧ updated.turnId = row.turnId)
    (htid : turn'.turnId = turn.turnId) (hclosed : turn'.status.isTerminal = true)
    (hevent : event.eventId = command.eventId)
    (hentry : entry.turnId = command.turnId ∧ entry.eventType = closingEvent turn'.status ∧
      entry.idempotencyKey = closingEvent turn'.status ++ ":" ++ command.turnId) :
    Concluded command db db' row turn turn' (terminalChanges updated turn' planRow event entry) where
  found := ⟨run, hf⟩
  turnGet := ht
  fresh := hfresh
  applied := hdb
  newRun := rfl
  runPut := ⟨updated, rfl, hid.1, hid.2⟩
  turnPut := rfl
  turnId := htid
  closed := hclosed
  eventPut := ⟨event, rfl, hevent⟩
  outboxPut := ⟨entry, rfl, by rw [turnId_of ht]; exact hentry⟩

theorem fail_concluded {command : DelegatedRunFailCommand}
    (h : (fail command gen).run db = (.ok r, db')) :
    (r.duplicate = true ∧ db' = db) ∨ (r.duplicate = false ∧ ∃ row turn changes,
      turn.Valid ∧ turn.status.isTerminal = false ∧
      Concluded command db db' row turn
        (failedTurn command (concludedAt command turn) turn) changes) := by
  rcases fail_ok h with hd | ⟨hd, row, run, turn, planRow, hf, ht, -, hfresh, hdb⟩
  · exact .inl hd
  · exact .inr ⟨hd, row, turn, _, ht.valid, ht.open_,
      terminalChanges_concluded hf ht.get hfresh hdb ⟨rfl, rfl⟩ rfl rfl rfl ⟨rfl, rfl, rfl⟩⟩

theorem cancel_concluded {command : DelegatedRunCancelCommand}
    (h : (cancel command gen).run db = (.ok r, db')) :
    (r.duplicate = true ∧ db' = db) ∨ (r.duplicate = false ∧ ∃ row turn changes,
      turn.Valid ∧ turn.status.isTerminal = false ∧
      Concluded command db db' row turn (concludeTurn .cancelled
        (concludedAt command turn) turn) changes) := by
  rcases cancel_ok h with hd | ⟨hd, row, run, turn, planRow, hf, ht, -, hfresh, hdb⟩
  · exact .inl hd
  · exact .inr ⟨hd, row, turn, _, ht.valid, ht.open_,
      terminalChanges_concluded hf ht.get hfresh hdb ⟨rfl, rfl⟩ rfl rfl rfl ⟨rfl, rfl, rfl⟩⟩

theorem timeout_concluded {command : DelegatedRunTimeoutCommand}
    (h : (timeout command gen).run db = (.ok r, db')) :
    (r.duplicate = true ∧ db' = db) ∨ (r.duplicate = false ∧ ∃ row turn changes,
      Concluded command db db' row turn (concludeTurn .timedOut
        (concludedAt command turn) turn) changes) := by
  rcases timeout_ok h with hd | ⟨hd, row, run, turn, planRow, hf, ht, -, hfresh, hdb⟩
  · exact .inl hd
  · exact .inr ⟨hd, row, turn, _,
      terminalChanges_concluded hf ht.get hfresh hdb ⟨rfl, rfl⟩ rfl rfl rfl ⟨rfl, rfl, rfl⟩⟩

theorem complete_concluded {command : DelegatedRunCompleteCommand}
    (h : (complete command gen).run db = (.ok r, db')) :
    (r.duplicate = true ∧ db' = db) ∨ (r.duplicate = false ∧ ∃ row turn changes,
      turn.Valid ∧ Concluded command db db' row turn
        (completedTurn command turn) changes) := by
  rcases complete_ok h with hd | ⟨hd, row, run, turn, plan, bundle, planRow, hf, ht, hv, -, hb, -,
    -, hfresh, hdb⟩
  · exact .inl hd
  · refine .inr ⟨hd, row, turn, _, hv, ⟨run, hf⟩, ht, hfresh, hdb, rfl, ⟨_, rfl, rfl, ?_⟩, ?_, rfl,
      rfl, ⟨bundle.event, rfl, ?_⟩, ⟨bundle.outbox, rfl, ?_⟩⟩
    · have hrow := AgentRun.validate_eq hf.reads
      rw [applyRun, hb.run_eq, hrow]
      rfl
    · rw [bundleChanges, hb.turn_eq]
      rfl
    · rw [hb.event_eq]
      rfl
    · rw [hb.outbox_eq]
      exact ⟨rfl, rfl, rfl⟩

/-! ## Serial runs -/

/-- Calls one after the other; one that raises leaves the tables as they are. -/
def serial (init : Database → Prop) : LTS Database (Generated × Command) where
  init := init
  step db call db' := db' = (exec db call.1 call.2).2

/-- A `turn.*` outbox entry of the turn. -/
def isTurnEvent (turnId : String) (entry : TurnOutboxEvent) : Bool :=
  entry.turnId = turnId && "turn.".toList.isPrefixOf entry.eventType.toList

def turnEvents (db : Database) (turnId : String) : List TurnOutboxEvent :=
  db.outbox.values.filter (isTurnEvent turnId)

/-- Every terminal turn has exactly the outbox entry it was closed with, every
other turn has none. -/
def Settled (db : Database) : Prop :=
  ∀ turnId turn, db.turns.get? turnId = some turn →
    if turn.status.isTerminal then
      ∃ entry, turnEvents db turnId = [entry] ∧
        entry.idempotencyKey = closingEvent turn.status ++ ":" ++ turnId
    else turnEvents db turnId = []

/-- A new command for a run that accepts it, on a turn closed with another status. -/
def lateFor (db : Database) (command : DelegatedRunEventCommand) (status : TurnStatus) : Bool :=
  match db.runs.get? command.runId, db.turns.get? command.turnId with
  | some run, some turn =>
    !db.events.contains command.eventId && !runConflict run command &&
      turn.status.isTerminal && turn.status ≠ status
  | _, _ => false

/-- A `complete` or `timeout` on a turn that is closed in another way. -/
def closesTwice (db : Database) : Command → Bool
  | .complete command => lateFor db command .completed
  | .timeout command => lateFor db command .timedOut
  | .start _ _ _ | .progress _ | .fail _ | .cancel _ => false

/-- What a later state shares with an earlier one: the terminal turn rows, and
no new run for such a turn. -/
structure Absorbed (db db' : Database) : Prop where
  turn : ∀ turnId turn, db.turns.get? turnId = some turn → turn.status.isTerminal = true →
    db'.turns.get? turnId = some turn
  runs : ∀ turnId turn, db.turns.get? turnId = some turn → turn.status.isTerminal = true →
    ∀ runId run, db'.runs.get? runId = some run → run.turnId = some turnId →
      ∃ old, db.runs.get? runId = some old ∧ old.turnId = some turnId

theorem Absorbed.refl (db : Database) : Absorbed db db :=
  ⟨fun _ _ hg _ => hg, fun _ _ _ _ _ run hg ht => ⟨run, hg, ht⟩⟩

theorem Absorbed.trans {a b c : Database} (h1 : Absorbed a b) (h2 : Absorbed b c) :
    Absorbed a c where
  turn turnId turn hg ht := h2.turn _ _ (h1.turn _ _ hg ht) ht
  runs turnId turn hg ht runId run hr hrt := by
    obtain ⟨mid, hm, hmt⟩ := h2.runs _ _ (h1.turn _ _ hg ht) ht runId run hr hrt
    exact h1.runs _ _ hg ht runId mid hm hmt

theorem turnEvents_put {entry : TurnOutboxEvent} (h : db.outbox.get? entry.outboxId = none)
    (turnId : String) :
    turnEvents { db with outbox := db.outbox.put entry } turnId =
      if isTurnEvent turnId entry then turnEvents db turnId ++ [entry] else turnEvents db turnId := by
  simp only [turnEvents, Table.values_put_of_none h, List.filter_append]
  split
  · next hc => rw [List.filter_cons_of_pos hc, List.filter_nil]
  · next hc => rw [List.filter_cons_of_neg hc, List.filter_nil, List.append_nil]

theorem closingEvent_prefix {status : TurnStatus} (h : status.isTerminal = true) :
    "turn.".toList.isPrefixOf (closingEvent status).toList = true := by
  cases status with
  | completed => decide
  | failed => decide
  | cancelled => decide
  | timedOut => decide
  | pending => cases h
  | routing => cases h
  | running => cases h
  | blocked => cases h

/-- A closing that finds the turn open, or closed the same way: the latter is
stopped by the unique key of the outbox. -/
theorem Concluded.open_ (h : Concluded command db db' row turn turn' changes) (hs : Settled db)
    (hsame : turn.status.isTerminal = true → turn.status = turn'.status) :
    turn.status.isTerminal = false := by
  rw [← Bool.not_eq_true]
  intro ht
  have hset := hs _ _ h.turnGet
  rw [if_pos ht] at hset
  obtain ⟨entry, hentry, hkey⟩ := hset
  obtain ⟨new, hnew, -, -, hnewKey⟩ := h.outboxPut
  have hmem : entry ∈ turnEvents db command.turnId := by rw [hentry]; exact List.mem_singleton_self _
  refine (h.fresh.outbox new hnew).2 entry (List.mem_filter.1 hmem).1 ?_
  rw [hkey, hnewKey, hsame ht, turnId_of h.turnGet]

theorem Concluded.settled {command : DelegatedRunEventCommand} {db db' : Database} {row : AgentRun}
    {turn turn' : CanonicalTurn} {changes : Changes}
    (h : Concluded command db db' row turn turn' changes) (hs : Settled db)
    (hopen : turn.status.isTerminal = false) : Settled db' := by
  obtain ⟨entry, hentry, hturn, htype, hkey⟩ := h.outboxPut
  have hunused := (h.fresh.outbox entry hentry).1
  have hid := turnId_of h.turnGet
  have hevents : ∀ turnId, turnEvents db' turnId =
      if entry.turnId = turnId then turnEvents db turnId ++ [entry] else turnEvents db turnId := by
    intro turnId
    have hp := turnEvents_put hunused turnId
    rw [isTurnEvent, htype, closingEvent_prefix h.closed] at hp
    simp only [Bool.and_true, decide_eq_true_eq] at hp
    rw [← hp, h.applied]
    simp only [turnEvents, Database.apply, hentry, Table.putOption_some]
  intro turnId other hg
  rw [h.applied] at hg
  simp only [Database.apply, h.turnPut, Table.putOption_some] at hg
  rw [Table.get?_put, h.turnId, hid] at hg
  rw [hevents, hturn, hid]
  split at hg
  · next heq =>
    cases hg
    have hnone := hs _ _ h.turnGet
    rw [hopen] at hnone
    rw [← heq, if_pos h.closed, if_pos rfl, hnone]
    exact ⟨entry, rfl, by rw [hkey, hid]⟩
  · next hne =>
    rw [if_neg hne]
    exact hs _ _ hg

theorem absorbed_of (turnId : String)
    (hopen : ∀ turn, db.turns.get? turnId = some turn → turn.status.isTerminal = false)
    (hturns : ∀ id, turnId ≠ id → db'.turns.get? id = db.turns.get? id)
    (hruns : ∀ runId run id, turnId ≠ id → db'.runs.get? runId = some run →
      run.turnId = some id → ∃ old, db.runs.get? runId = some old ∧ old.turnId = some id) :
    Absorbed db db' := by
  have hne : ∀ id turn, db.turns.get? id = some turn → turn.status.isTerminal = true →
      turnId ≠ id := by
    rintro id turn hg ht rfl
    rw [hopen _ hg] at ht
    cases ht
  refine ⟨fun id turn hg ht => ?_, fun id turn hg ht runId run hr hrt => ?_⟩
  · rw [hturns id (hne _ _ hg ht)]
    exact hg
  · exact hruns runId run id (hne _ _ hg ht) hr hrt

theorem Concluded.absorbed (h : Concluded command db db' row turn turn' changes)
    (hopen : turn.status.isTerminal = false) : Absorbed db db' := by
  have hid := turnId_of h.turnGet
  obtain ⟨updated, hup, hrid, hrturn⟩ := h.runPut
  obtain ⟨found, hf⟩ := h.found
  refine absorbed_of command.turnId ?_ ?_ ?_
  · intro other hg
    rw [h.turnGet] at hg
    cases hg
    exact hopen
  · intro id hne
    rw [h.applied]
    simp only [Database.apply, h.turnPut, Table.putOption_some]
    rw [Table.get?_put_ne _ (by rw [h.turnId, hid]; exact hne)]
  · intro runId run id _ hr hrt
    rw [h.applied] at hr
    simp only [Database.apply, h.newRun, hup, Table.putOption_some, Table.putOption_none] at hr
    rw [Table.get?_put] at hr
    split at hr
    · next heq =>
      cases hr
      refine ⟨row, ?_, by rw [← hrturn]; exact hrt⟩
      rw [← heq, hrid, hf.rowId]
      exact hf.get
    · exact ⟨run, hr, hrt⟩

/-! ## Commands that close nothing -/

theorem attachRun_eq {now : Instant} (h : attachRun turn run now = .ok updated) :
    ∃ planId, updated = { turn with
      status := .running
      stateVersion := turn.stateVersion + 1
      references := { turn.references with
        runIds := turn.references.runIds ++ [run.runId]
        planId }
      updatedAt := now } := by
  unfold attachRun at h
  dsimp only at h
  split at h
  · split at h
    · cases h
    · cases h
      exact ⟨_, rfl⟩
  · cases h
    exact ⟨_, rfl⟩

theorem start_absorbed {command : DelegatedRunStartCommand} {runId delegationKey : String}
    {now attachedAt : Instant} {values : AgentRun} (ht : TurnStartable command db turn)
    (hrun : newRun command runId delegationKey now = .ok run) (hv : run.validate = .ok values)
    (hup : attachRun turn run attachedAt = .ok updated) (hs : Settled db) :
    Settled (db.apply (startChanges values turn updated)) ∧
      Absorbed db (db.apply (startChanges values turn updated)) := by
  have hid := turnId_of ht.get
  obtain ⟨planId, rfl⟩ := attachRun_eq hup
  constructor
  · intro turnId other hg
    simp only [Database.apply, startChanges, Table.putOption_some, applyTurnRow] at hg
    rw [Table.get?_put] at hg
    split at hg
    · next heq =>
      cases hg
      have hnone := hs _ _ ht.get
      rw [ht.open_] at hnone
      rw [← heq]
      dsimp only
      rw [hid]
      exact hnone
    · exact hs _ _ hg
  · refine absorbed_of command.turnId ?_ ?_ ?_
    · intro other hg
      rw [ht.get] at hg
      cases hg
      exact ht.open_
    · intro id hne
      simp only [Database.apply, startChanges, Table.putOption_some, applyTurnRow]
      rw [Table.get?_put_ne _ (by dsimp only; rw [hid]; exact hne)]
    · intro id other turnId hne hr hrt
      simp only [Database.apply, startChanges, Table.putOption_some, Table.putOption_none] at hr
      rw [Table.get?_put] at hr
      split at hr
      · cases hr
        rw [AgentRun.validate_eq hv, AgentRun.validate_eq hrun] at hrt
        exact absurd (Option.some.inj hrt) hne
      · exact ⟨other, hr, hrt⟩

theorem progress_absorbed {command : DelegatedRunProgressCommand} {planRow : Option PlanModel}
    (hf : RunFound command db row run) (hs : Settled db) :
    Settled (db.apply (progressChanges command row run planRow)) ∧
      Absorbed db (db.apply (progressChanges command row run planRow)) := by
  refine ⟨hs, fun _ _ hg _ => hg, fun turnId turn hg ht runId other hr hrt => ?_⟩
  simp only [Database.apply, progressChanges, Table.putOption_some, Table.putOption_none] at hr
  rw [Table.get?_put] at hr
  split at hr
  · next heq =>
    cases hr
    refine ⟨row, ?_, hrt⟩
    rw [← heq]
    exact hf.rowId ▸ hf.get
  · exact ⟨other, hr, hrt⟩

/-- A closing is not late, or closes the turn as it was closed before. -/
theorem Concluded.same {status : TurnStatus} (h : Concluded command db db' row turn turn' changes)
    (hl : lateFor db command status = false) (ht : turn.status.isTerminal = true) :
    turn.status = status := by
  obtain ⟨run, hf⟩ := h.found
  obtain ⟨event, he, hid⟩ := h.eventPut
  have hnew := (Table.contains_eq_false _ _).2 (h.fresh.event event he)
  rw [hid] at hnew
  have hrow : runConflict row command = false := by
    refine (runConflict_iff _ _).2 ?_
    have ha := hf.accepts
    rw [AgentRun.validate_eq hf.reads] at ha
    exact ⟨ha.delegated, ha.active, ha.turn, ha.tenant, ha.user, ha.agent, ha.plan, ha.step,
      ha.version⟩
  simpa [lateFor, hf.get, h.turnGet, hnew, hrow, ht] using hl

theorem step_absorbed {command : Command} (hc : closesTwice db command = false) (hs : Settled db) :
    Settled (exec db gen command).2 ∧ Absorbed db (exec db gen command).2 := by
  have hkeep : ∀ db', db' = db → Settled db' ∧ Absorbed db db' := by
    rintro db' rfl
    exact ⟨hs, .refl _⟩
  have hclose : ∀ (event : DelegatedRunEventCommand) (db' : Database) (row : AgentRun)
      (turn turn' : CanonicalTurn) (changes : Changes),
      Concluded event db db' row turn turn' changes → turn.status.isTerminal = false →
      Settled db' ∧ Absorbed db db' := by
    intro event db' row turn turn' changes h hopen
    exact ⟨h.settled hs hopen, h.absorbed hopen⟩
  rcases hx : exec db gen command with ⟨e | r, db'⟩
  · exact hkeep _ (exec_error hx)
  · dsimp only
    cases command with
    | start command runHex key =>
      rcases start_ok hx with ⟨-, hdb⟩ | ⟨-, turn, run, values, updated, ht, -, hrun, hv, hup, -,
        -, rfl⟩
      · exact hkeep _ hdb
      · exact start_absorbed ht hrun hv hup hs
    | progress command =>
      rcases progress_ok hx with ⟨-, hdb⟩ | ⟨-, row, run, planRow, hf, -, -, -, rfl⟩
      · exact hkeep _ hdb
      · exact progress_absorbed hf hs
    | complete command =>
      rcases complete_concluded hx with ⟨-, hdb⟩ | ⟨-, row, turn, changes, -, h⟩
      · exact hkeep _ hdb
      · exact hclose _ _ _ _ _ _ h (h.open_ hs fun ht => h.same hc ht)
    | fail command =>
      rcases fail_concluded hx with ⟨-, hdb⟩ | ⟨-, row, turn, changes, -, hopen, h⟩
      · exact hkeep _ hdb
      · exact hclose _ _ _ _ _ _ h hopen
    | cancel command =>
      rcases cancel_concluded hx with ⟨-, hdb⟩ | ⟨-, row, turn, changes, -, hopen, h⟩
      · exact hkeep _ hdb
      · exact hclose _ _ _ _ _ _ h hopen
    | timeout command =>
      rcases timeout_concluded hx with ⟨-, hdb⟩ | ⟨-, row, turn, changes, h⟩
      · exact hkeep _ hdb
      · exact hclose _ _ _ _ _ _ h (h.open_ hs fun ht => h.same hc ht)

/-- Serial runs without a call that `closesTwice`. -/
def orderly : LTS Database (Generated × Command) :=
  (serial Settled).guarded fun db call => closesTwice db call.2 = false

theorem orderly_settled (h : orderly.Reachable db) : Settled db := by
  refine LTS.Inductive.reachable (T := orderly) ⟨fun db hi => hi, ?_⟩ h
  rintro db ⟨gen, command⟩ db' hs ⟨hc, rfl⟩
  exact (step_absorbed hc hs).1

/-- **Terminal turns are absorbing.** As long as no `complete` or `timeout`
reaches a turn that is closed in another way, a turn that is terminal keeps its
row, no further run is attached to it, and it has exactly one `turn.*` outbox
entry. -/
theorem terminal_turn_absorbing {db db' : Database} (h : orderly.Reachable db)
    (hs : orderly.Steps db db') {turnId : String} {turn : CanonicalTurn}
    (hg : db.turns.get? turnId = some turn) (ht : turn.status.isTerminal = true) :
    db'.turns.get? turnId = some turn ∧
      (∀ runId run, db'.runs.get? runId = some run → run.turnId = some turnId →
        ∃ old, db.runs.get? runId = some old ∧ old.turnId = some turnId) ∧
      (turnEvents db' turnId).length = 1 := by
  have ha : Absorbed db db' := by
    refine LTS.Steps.keeps Absorbed.refl (fun _ _ _ => Absorbed.trans) ?_ h hs
    rintro db ⟨gen, command⟩ db' hr ⟨hc, rfl⟩
    exact (step_absorbed hc (orderly_settled hr)).2
  have hget := ha.turn _ _ hg ht
  refine ⟨hget, ha.runs _ _ hg ht, ?_⟩
  have hone := orderly_settled (h.steps hs) _ _ hget
  rw [if_pos ht] at hone
  obtain ⟨entry, he, -⟩ := hone
  rw [he]
  rfl

theorem sampleDatabase_settled : Settled sampleDatabase := by
  intro turnId turn hg
  rw [sampleDatabase, Table.get?_put] at hg
  split at hg
  · cases hg
    rfl
  · cases hg

def twoRuns : Database :=
  execAll sampleDatabase
    [(sampleGenerated "1", .start (sampleStart none) "1" "key1"),
      (sampleGenerated "2", .start (sampleStart none) "2" "key2")]

def firstFails : Generated × Command :=
  (sampleGenerated "3", .fail (sampleFail (sampleEvent "event1" "run_1" none 1)))

def secondTimesOut : Generated × Command :=
  (sampleGenerated "4", .timeout (sampleTimeout (sampleEvent "event2" "run_2" none 2)))

theorem twoRuns_orderly : orderly.Reachable twoRuns :=
  .step (l := (sampleGenerated "2", .start (sampleStart none) "2" "key2"))
    (.step (l := (sampleGenerated "1", .start (sampleStart none) "1" "key1"))
      (.init sampleDatabase_settled) ⟨rfl, rfl⟩) ⟨rfl, rfl⟩

theorem terminal_turn_absorbing_twoRuns :
    ∃ turn, turn.status = .failed ∧
      (execAll twoRuns [firstFails, (sampleGenerated "4",
        .fail (sampleFail (sampleEvent "event2" "run_2" none 2)))]).turns.get? "turn" = some turn := by
  have hfirst : orderly.Reachable (execAll twoRuns [firstFails]) :=
    .step (l := firstFails) twoRuns_orderly ⟨rfl, rfl⟩
  have hsecond : orderly.Steps (execAll twoRuns [firstFails]) (execAll twoRuns [firstFails,
      (sampleGenerated "4", .fail (sampleFail (sampleEvent "event2" "run_2" none 2)))]) :=
    .single ⟨(sampleGenerated "4", .fail (sampleFail (sampleEvent "event2" "run_2" none 2))),
      rfl, rfl⟩
  have hturn : ∃ turn, (execAll twoRuns [firstFails]).turns.get? "turn" = some turn ∧
      turn.status = .failed := ⟨_, rfl, by decide⟩
  obtain ⟨turn, hg, hst⟩ := hturn
  exact ⟨turn, hst, (terminal_turn_absorbing hfirst hsecond hg (by rw [hst]; rfl)).1⟩

/-- The first run fails and closes the turn; the timeout of the second closes it again. -/
theorem timeout_closes_failed_turn :
    (serial Settled).Reachable (execAll twoRuns [firstFails]) ∧
      (serial Settled).Steps (execAll twoRuns [firstFails])
        (execAll twoRuns [firstFails, secondTimesOut]) ∧
      ((execAll twoRuns [firstFails]).turns.get? "turn").map (·.status) = some .failed ∧
      ((execAll twoRuns [firstFails, secondTimesOut]).turns.get? "turn").map (·.status) =
        some .timedOut ∧
      (turnEvents (execAll twoRuns [firstFails, secondTimesOut]) "turn").length = 2 := by
  refine ⟨?_, .single ⟨secondTimesOut, rfl⟩, ?_, ?_, ?_⟩
  · exact .step (l := firstFails) (LTS.Reachable.of_guarded twoRuns_orderly) rfl
  · decide
  · decide
  · decide

end OpenIntentRouter.DelegatedRuns.Db
