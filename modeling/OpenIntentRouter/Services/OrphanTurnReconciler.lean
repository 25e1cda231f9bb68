import OpenIntentRouter.Repositories.Database

/-!
# Repair of orphan turns

`DatabaseOrphanTurnReconciler.repair`: an active turn whose request has exactly
one terminal run with exactly one terminal result is closed with that result.
One transaction, its rows locked, so the repair is a function of the tables.
`sha256` is the hexadecimal digest of `hashlib.sha256`.

* `repair_ok`: what an accepted repair found and which turn it wrote.
-/
namespace OpenIntentRouter.Services

open Core Schemas Repositories

/-- The columns of `memory_events` the reconciler writes.
mirrors app/db/models.py:504-523 -/
structure MemoryEventModel where
  eventId : String
  eventType : String
  tenantId : String
  userId : String
  requestId : String
  sessionId : String
  turnId : String
  runId : String
  payload : JsonDict
  deriving DecidableEq

structure ReconcilerDatabase where
  stores : Database
  memoryEvents : Table MemoryEventModel.eventId

/-- mirrors app/services/orphan_turn_reconciler.py:22-27 -/
inductive OrphanTurnCategory where
  | repairableEnabled | repairableSkipped | ambiguous | ownershipConflict
  deriving DecidableEq

/-- mirrors app/services/orphan_turn_reconciler.py:34-41 -/
structure OrphanTurnRecord where
  turnId : String
  requestId : String
  category : OrphanTurnCategory
  reasonCode : String
  runId : Option String
  resultId : Option String
  resultStatus : Option RunStatus
  deriving DecidableEq

inductive RepairAction where
  | completedWithOutbox | completedSkipped | idempotentReplay
  deriving DecidableEq

/-- mirrors app/services/orphan_turn_reconciler.py:53-60 -/
structure OrphanTurnRepairResult where
  turnId : String
  requestId : String
  category : OrphanTurnCategory
  action : RepairAction
  outboxId : Option String
  auditEventId : Option String
  idempotentReplay : Bool
  deriving DecidableEq

/-- mirrors app/services/orphan_turn_reconciler.py:30 (`_TERMINAL_RUN_STATUSES`) -/
def terminalRunStatuses : List RunStatus := [.completed, .failed, .invalidOutput, .timeout, .timedOut]

/-! ## Classification -/

def terminalRuns (db : Database) (turn : CanonicalTurn) : List AgentRun :=
  db.runs.values.filter fun run =>
    run.requestId = some turn.requestId && run.status ∈ terminalRunStatuses

def terminalResults (db : Database) (runs : List AgentRun) : List AgentResult :=
  db.results.values.filter fun result =>
    result.runId ∈ runs.map (·.runId) && result.status ∈ terminalRunStatuses

/-- `pairs` of `_classify_turn`. -/
def associations (db : Database) (turn : CanonicalTurn) : List (AgentRun × AgentResult) :=
  let runs := terminalRuns db turn
  let results := terminalResults db runs
  runs.flatMap fun run => (results.filter (·.runId = run.runId)).map fun result => (run, result)

/-- mirrors app/services/orphan_turn_reconciler.py:359-378 (`_record`) -/
def OrphanTurnRecord.of (turn : CanonicalTurn) (category : OrphanTurnCategory) (reasonCode : String)
    (pair : Option (AgentRun × AgentResult)) : OrphanTurnRecord :=
  { turnId := turn.turnId
    requestId := turn.requestId
    category
    reasonCode
    runId := pair.map (·.1.runId)
    resultId := pair.map (·.2.resultId)
    resultStatus := pair.map (·.2.status) }

/-- mirrors app/services/orphan_turn_reconciler.py:240-312 -/
def classifyTurn (db : Database) (turn : CanonicalTurn) : OrphanTurnRecord :=
  let runs := terminalRuns db turn
  let results := terminalResults db runs
  if db.outbox.values.any (·.turnId = turn.turnId) then
    .of turn .ambiguous "active_turn_has_outbox" none
  else if runs.any fun run => run.tenantId ≠ some turn.tenantId || run.userId ≠ some turn.userId ||
      run.sessionId ≠ turn.sessionId then
    .of turn .ownershipConflict "run_ownership_conflict" none
  else if runs = [] then .of turn .ambiguous "terminal_run_missing" none
  else if results.any fun result => result.tenantId ≠ some turn.tenantId ||
      result.userId ≠ some turn.userId || result.sessionId ≠ turn.sessionId then
    .of turn .ownershipConflict "result_ownership_conflict" none
  else
    match associations db turn with
    | [(run, result)] =>
      let suppressed := run.formationSuppressed || result.formationSuppressed
      if suppressed || result.status ≠ .completed then
        .of turn .repairableSkipped
          (if suppressed then "formation_suppressed" else "terminal_result_not_completed")
          (some (run, result))
      else .of turn .repairableEnabled "unique_completed_result" (some (run, result))
    | _ => .of turn .ambiguous "terminal_association_not_unique" none

/-! ## Repair -/

/-- The turn of an owner's request.
mirrors app/services/orphan_turn_reconciler.py:118-127 -/
def ownedTurn (db : Database) (tenantId userId requestId : String) : Option CanonicalTurn :=
  db.turns.values.find? fun turn =>
    turn.tenantId = tenantId && turn.userId = userId && turn.requestId = requestId

/-- mirrors app/services/orphan_turn_reconciler.py:314-356 -/
def repairReplay (db : ReconcilerDatabase) (turn : CanonicalTurn) (repairToken : String) :
    Option OrphanTurnRepairResult :=
  let same (payload : JsonDict) : Bool := Json.field payload "repair_token" = some (.str repairToken)
  let outbox := db.stores.outbox.values.find? fun entry =>
    entry.turnId = turn.turnId && same entry.payload
  let event := db.memoryEvents.values.find? fun event =>
    event.turnId = turn.turnId && event.eventType = "formation_skipped" && same event.payload
  let replay (category : OrphanTurnCategory) (outboxId auditEventId : Option String) :
      OrphanTurnRepairResult :=
    { turnId := turn.turnId, requestId := turn.requestId, category, action := .idempotentReplay,
      outboxId, auditEventId, idempotentReplay := true }
  match outbox, event with
  | some entry, _ => some (replay .repairableEnabled (some entry.outboxId) none)
  | none, some event => some (replay .repairableSkipped none (some event.eventId))
  | none, none => none

/-- The turn row as the repair leaves it: `now` is not compared with
`created_at`, and neither lists nor text are bounded.
mirrors app/services/orphan_turn_reconciler.py:144-165 -/
def repairedTurn (turn : CanonicalTurn) (run : AgentRun) (result : AgentResult) (now : Instant) :
    CanonicalTurn :=
  { turn with
    status := if result.status = .completed then .completed else .failed
    stateVersion := turn.stateVersion + 1
    references := { turn.references with
      runIds := addNew turn.references.runIds run.runId
      resultIds := addNew turn.references.resultIds result.resultId }
    finalResponse := some
      { kind := if result.status = .completed then .agentResult else .error
        text := result.message
        output := result.output
        error := result.error }
    updatedAt := now
    completedAt := some now }

def repairOutbox (sha256 : String → String) (turn : CanonicalTurn) (run : AgentRun)
    (result : AgentResult) (repairToken : String) (now : Instant) : TurnOutboxEvent :=
  { outboxId := "outbox_repair_" ++ String.ofList ((sha256 turn.turnId).toList.take 24)
    turnId := turn.turnId
    eventType := "turn.completed"
    idempotencyKey := "turn.completed:" ++ turn.turnId
    payload :=
      [("turn_id", .str turn.turnId), ("tenant_id", .str turn.tenantId),
        ("user_id", .str turn.userId), ("request_id", .str turn.requestId),
        ("run_id", .str run.runId), ("result_id", .str result.resultId),
        ("state_version", .num turn.stateVersion), ("repair_token", .str repairToken),
        ("formation_eligibility", .obj
          [("mode", .str "enforced"), ("execution_mode", .str "live"), ("suppressed", .bool false),
            ("reason_code", .null), ("policy_version", .str "orphan-reconciler-v1")])]
    status := .pending
    attemptCount := 0
    maxAttempts := 5
    availableAt := now }

def repairAudit (sha256 : String → String) (turn : CanonicalTurn) (run : AgentRun)
    (reasonCode repairToken : String) : MemoryEventModel :=
  { eventId := "mevt_orphan_skip_" ++ String.ofList ((sha256 turn.turnId).toList.take 24)
    eventType := "formation_skipped"
    tenantId := turn.tenantId
    userId := turn.userId
    requestId := turn.requestId
    sessionId := turn.sessionId
    turnId := turn.turnId
    runId := run.runId
    payload :=
      [("reason_code", .str reasonCode), ("repair_token", .str repairToken),
        ("source", .str "orphan_turn_reconciler")] }

def repairRows (db : Database) (turn : CanonicalTurn) (run : AgentRun) (result : AgentResult)
    (now : Instant) : Database :=
  { db with
    turns := db.turns.put (repairedTurn turn run result now)
    runs := db.runs.put { run with turnId := some turn.turnId }
    results := db.results.put
      { result with turnId := some turn.turnId, runStateVersion := some run.stateVersion } }

/-- mirrors app/services/orphan_turn_reconciler.py:106-238 -/
def repair (sha256 : String → String) (tenantId userId requestId idempotencyKey : String)
    (now : Instant) (db : ReconcilerDatabase) :
    Except StoreError (OrphanTurnRepairResult × ReconcilerDatabase) :=
  if idempotencyKey = "" || idempotencyKey.length > 256 then
    .error (.valueError "idempotency_key must contain 1-256 characters")
  else
    let repairToken := sha256 idempotencyKey
    match ownedTurn db.stores tenantId userId requestId with
    | none => .error (.orphanTurnRepairConflict "Canonical Turn not found in owner scope")
    | some turn =>
      if turn.status.isTerminal then
        match repairReplay db turn repairToken with
        | some replay => .ok (replay, db)
        | none => .error (.orphanTurnRepairConflict "Canonical Turn is already terminal")
      else
        let record := classifyTurn db.stores turn
        match record.category, record.runId.bind db.stores.runs.get?,
            record.resultId.bind db.stores.results.get? with
        | .repairableEnabled, some run, some result =>
          let updated := repairRows db.stores turn run result now
          let entry := repairOutbox sha256 (repairedTurn turn run result now) run result repairToken
            now
          if db.stores.fresh { outbox := some entry } then
            .ok ({ turnId := turn.turnId, requestId, category := record.category
                   action := .completedWithOutbox, outboxId := some entry.outboxId
                   auditEventId := none, idempotentReplay := false },
              { db with stores := { updated with outbox := updated.outbox.put entry } })
          else .error .integrityError
        | .repairableSkipped, some run, some result =>
          let audit := repairAudit sha256 turn run record.reasonCode repairToken
          if db.memoryEvents.contains audit.eventId then .error .integrityError
          else
            .ok ({ turnId := turn.turnId, requestId, category := record.category
                   action := .completedSkipped, outboxId := none
                   auditEventId := some audit.eventId, idempotentReplay := false },
              { stores := repairRows db.stores turn run result now
                memoryEvents := db.memoryEvents.put audit })
        | .repairableEnabled, _, _ | .repairableSkipped, _, _ =>
          .error (.orphanTurnRepairConflict "Repair association changed concurrently")
        | .ambiguous, _, _ | .ownershipConflict, _, _ =>
          .error (.orphanTurnRepairConflict
            ("Canonical Turn is not repairable: " ++ record.reasonCode))

/-! ## What an accepted repair did -/

/-- The pair a repairable turn is closed with is its only association. -/
theorem classifyTurn_pair {db : Database} {turn : CanonicalTurn}
    (h : (classifyTurn db turn).category = .repairableEnabled ∨
      (classifyTurn db turn).category = .repairableSkipped) :
    ∃ run result, associations db turn = [(run, result)] ∧
      (classifyTurn db turn).runId = some run.runId ∧
      (classifyTurn db turn).resultId = some result.resultId := by
  unfold classifyTurn at h ⊢
  dsimp only at h ⊢
  split at h
  · rcases h with h | h <;> cases h
  next h1 =>
  split at h
  · rcases h with h | h <;> cases h
  next h2 =>
  split at h
  · rcases h with h | h <;> cases h
  next h3 =>
  split at h
  · rcases h with h | h <;> cases h
  next h4 =>
  rw [if_neg h1, if_neg h2, if_neg h3, if_neg h4]
  split at h
  · next run result heq =>
    refine ⟨run, result, heq, ?_⟩
    split
    · exact ⟨rfl, rfl⟩
    · exact ⟨rfl, rfl⟩
  · rcases h with h | h <;> cases h

theorem mem_associations {db : Database} {turn : CanonicalTurn} {run : AgentRun}
    {result : AgentResult} (h : (run, result) ∈ associations db turn) :
    db.runs.get? run.runId = some run ∧ db.results.get? result.resultId = some result := by
  simp only [associations, List.mem_flatMap, List.mem_map, List.mem_filter, Prod.mk.injEq] at h
  obtain ⟨run', hrun, result', ⟨hresult, -⟩, rfl, rfl⟩ := h
  rw [terminalRuns, List.mem_filter] at hrun
  rw [terminalResults, List.mem_filter] at hresult
  exact ⟨(Table.mem_values _ _).1 hrun.1, (Table.mem_values _ _).1 hresult.1⟩

theorem get_of_ownedTurn {db : Database} {tenantId userId requestId : String}
    {turn : CanonicalTurn} (h : ownedTurn db tenantId userId requestId = some turn) :
    db.turns.get? turn.turnId = some turn :=
  (Table.mem_values _ _).1 (List.mem_of_find?_eq_some h)

/-- An accepted repair is a replay, or closes an active turn with its only pair. -/
theorem repair_ok {sha256 : String → String} {tenantId userId requestId idempotencyKey : String}
    {now : Instant} {db db' : ReconcilerDatabase} {r : OrphanTurnRepairResult}
    (h : repair sha256 tenantId userId requestId idempotencyKey now db = .ok (r, db')) :
    (r.idempotentReplay = true ∧ db' = db) ∨
      (r.idempotentReplay = false ∧ ∃ turn run result,
        ownedTurn db.stores tenantId userId requestId = some turn ∧
        turn.status.isTerminal = false ∧
        associations db.stores turn = [(run, result)] ∧
        db'.stores.turns = db.stores.turns.put (repairedTurn turn run result now)) := by
  unfold repair at h
  split at h
  · cases h
  dsimp only at h
  split at h
  · cases h
  next turn hturn =>
  split at h
  · split at h
    · next replay hreplay =>
      cases h
      unfold repairReplay at hreplay
      dsimp only at hreplay
      split at hreplay
      · cases hreplay
        exact .inl ⟨rfl, rfl⟩
      · cases hreplay
        exact .inl ⟨rfl, rfl⟩
      · cases hreplay
    · cases h
  next hopen =>
  rw [Bool.not_eq_true] at hopen
  have hpair : ∀ run result, (classifyTurn db.stores turn).category = .repairableEnabled ∨
      (classifyTurn db.stores turn).category = .repairableSkipped →
      (classifyTurn db.stores turn).runId.bind db.stores.runs.get? = some run →
      (classifyTurn db.stores turn).resultId.bind db.stores.results.get? = some result →
      associations db.stores turn = [(run, result)] := by
    intro run result hc hr hs
    obtain ⟨run', result', ha, hrid, hsid⟩ := classifyTurn_pair hc
    obtain ⟨hgr, hgs⟩ := mem_associations (ha ▸ List.mem_singleton_self _)
    rw [hrid, Option.bind_some, hgr] at hr
    rw [hsid, Option.bind_some, hgs] at hs
    cases hr
    cases hs
    exact ha
  split at h
  · next run result hc hr hs =>
    split at h
    · cases h
      exact .inr ⟨rfl, turn, run, result, hturn, hopen,
        hpair run result (.inl hc) hr hs, rfl⟩
    · cases h
  · next run result hc hr hs =>
    split at h
    · cases h
    · cases h
      exact .inr ⟨rfl, turn, run, result, hturn, hopen,
        hpair run result (.inr hc) hr hs, rfl⟩
  · cases h
  · cases h
  · cases h
  · cases h

end OpenIntentRouter.Services
