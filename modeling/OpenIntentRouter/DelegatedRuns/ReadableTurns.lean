import OpenIntentRouter.DelegatedRuns.TurnLifecycle
import OpenIntentRouter.Services.OrphanTurnReconciler

/-!
# Turn rows that can be read back

Every reader of a turn row builds a `CanonicalTurn` and so validates it; the
writers change columns and validate nothing. `fail`, `cancel` and `timeout`
never write an earlier time than `created_at`; `complete` and the orphan repair
do not compare, and nobody counts the ids in the references.

Every accepted command and every repair (`Writer`) of tables whose turns are `Readable`.

* `…_valid`: what each writer needs for the row it writes;
* `readable_iff`: the accepted calls after which every turn row is readable.
-/
namespace OpenIntentRouter.DelegatedRuns.Db

open Core Schemas Repositories Services

/-! ## The turn of each writer -/

variable {turn : CanonicalTurn} {command : DelegatedRunEventCommand} {db db' : Database}

theorem attachRun_valid {updated : CanonicalTurn} {run : AgentRun} {now : Instant} (hv : turn.Valid)
    (hopen : turn.status.isTerminal = false) (h : attachRun turn run now = .ok updated) :
    (applyTurnRow turn updated).Valid ↔ turn.references.runIds.length < 50 := by
  obtain ⟨planId, rfl⟩ := attachRun_eq h
  constructor
  · intro hnew
    have hlen := hnew.runIds
    simp only [applyTurnRow, List.length_append, List.length_singleton] at hlen
    omega
  · intro hlen
    have hnone : turn.completedAt = none := by
      by_contra hsome
      rw [hv.terminal.2 hsome] at hopen
      cases hopen
    refine ⟨hv.source, ?_, hv.text, ?_, hv.resultIds, hv.eventIds, hv.response, ?_, ?_, hv.order⟩
    · simp [applyTurnRow]
    · simp only [applyTurnRow, List.length_append, List.length_singleton]
      omega
    · intro hc
      cases hc
    · simp [applyTurnRow, TurnStatus.isTerminal, hnone]

theorem completedTurn_valid {command : DelegatedRunCompleteCommand} (hv : turn.Valid) :
    (completedTurn command turn).Valid ↔ turn.createdAt ≤ command.occurredAt ∧
      (addNew turn.references.resultIds command.resultId).length ≤ 50 := by
  constructor
  · intro h
    exact ⟨h.order _ rfl, h.resultIds⟩
  · rintro ⟨ho, hr⟩
    refine ⟨hv.source, ?_, hv.text, hv.runIds, hr, hv.eventIds, ?_, ?_, ?_, ?_⟩
    · simp [completedTurn, concludeTurn]
    · intro r hresp
      cases hresp
      exact command.responseLength
    · simp [completedTurn]
    · simp [completedTurn, concludeTurn, TurnStatus.isTerminal]
    · intro t htime
      cases htime
      exact ho

/-- A closing at a time that is not before the turn, with no need of a response. -/
theorem concludeTurn_valid {status : TurnStatus} {response : Option TurnSemanticResponse}
    (hv : turn.Valid) (ht : status.isTerminal = true) (hc : status ≠ .completed)
    (hr : ∀ r, response = some r → r.text.length ≤ 20000) :
    ({ concludeTurn status (concludedAt command turn) turn with
      finalResponse := response } : CanonicalTurn).Valid := by
  refine ⟨hv.source, ?_, hv.text, hv.runIds, hv.resultIds, hv.eventIds, hr, ?_, ?_, ?_⟩
  · simp [concludeTurn]
  · intro hs
    exact absurd hs hc
  · simp [concludeTurn, ht]
  · intro t htime
    cases htime
    exact le_max_right _ _

theorem failedTurn_valid {command : DelegatedRunFailCommand} (hv : turn.Valid) :
    (failedTurn command (concludedAt command turn) turn).Valid := by
  have hlen : "Delegated agent execution failed".length ≤ 20000 := by decide
  refine concludeTurn_valid hv rfl (by decide) fun r hr => ?_
  cases hr
  exact hlen

theorem repairedTurn_valid {run : AgentRun} {result : AgentResult} {now : Instant} (hv : turn.Valid) :
    (repairedTurn turn run result now).Valid ↔ turn.createdAt ≤ now ∧
      (addNew turn.references.runIds run.runId).length ≤ 50 ∧
      (addNew turn.references.resultIds result.resultId).length ≤ 50 ∧
      result.message.length ≤ 20000 := by
  constructor
  · intro h
    exact ⟨h.order _ rfl, h.runIds, h.resultIds, h.response _ rfl⟩
  · rintro ⟨ho, hr, hs, hm⟩
    refine ⟨hv.source, ?_, hv.text, hr, hs, hv.eventIds, ?_, ?_, ?_, ?_⟩
    · simp [repairedTurn]
    · intro r hresp
      cases hresp
      exact hm
    · simp [repairedTurn]
    · simp only [repairedTurn]
      split
      · simp [TurnStatus.isTerminal]
      · simp [TurnStatus.isTerminal]
    · intro t htime
      cases htime
      exact ho

/-! ## Readable tables -/

/-- `_turn_from_row` raises on no row. -/
def Readable (db : Database) : Prop :=
  ∀ turnId row, db.turns.get? turnId = some row → turnFromRow row = .ok row

theorem Readable.valid (h : Readable db) {turnId : String} {row : CanonicalTurn}
    (hg : db.turns.get? turnId = some row) : row.Valid :=
  (CanonicalTurn.valid_iff row).1 (h _ _ hg)

theorem readable_put (h : Readable db) (hput : db'.turns = db.turns.put turn) :
    Readable db' ↔ turn.Valid := by
  constructor
  · intro hr
    have hg : db'.turns.get? turn.turnId = some turn := by
      rw [hput]
      exact Table.get?_put_self _ _
    exact hr.valid hg
  · intro hv turnId row hg
    rw [hput, Table.get?_put] at hg
    split at hg
    · cases hg
      exact CanonicalTurn.validate_of_valid hv
    · exact h _ _ hg

inductive Writer where
  | call (gen : Generated) (command : Command)
  | repair (sha256 : String → String) (tenantId userId requestId idempotencyKey : String)
      (now : Instant)

def Writer.Commits (db db' : ReconcilerDatabase) : Writer → Prop
  | .call gen command =>
    ∃ r, exec db.stores gen command = (.ok r, db'.stores) ∧ r.duplicate = false
  | .repair sha256 tenantId userId requestId idempotencyKey now =>
    ∃ r, Services.repair sha256 tenantId userId requestId idempotencyKey now db = .ok (r, db') ∧
      r.idempotentReplay = false

/-- What the tables and the command must be for the written row to be readable. -/
def Writer.KeepsReadable (db : Database) : Writer → Prop
  | .call _ (.start command _ _) =>
    ∀ turn, db.turns.get? command.turnId = some turn → turn.references.runIds.length < 50
  | .call _ (.complete command) =>
    ∀ turn, db.turns.get? command.turnId = some turn → turn.createdAt ≤ command.occurredAt ∧
      (addNew turn.references.resultIds command.resultId).length ≤ 50
  | .call _ (.progress _) | .call _ (.fail _) | .call _ (.cancel _) | .call _ (.timeout _) => True
  | .repair _ tenantId userId requestId _ now =>
    ∀ turn run result, ownedTurn db tenantId userId requestId = some turn →
      associations db turn = [(run, result)] → turn.createdAt ≤ now ∧
        (addNew turn.references.runIds run.runId).length ≤ 50 ∧
        (addNew turn.references.resultIds result.resultId).length ≤ 50 ∧
        result.message.length ≤ 20000

theorem Concluded.turns {row : AgentRun} {turn' : CanonicalTurn} {changes : Changes}
    (h : Concluded command db db' row turn turn' changes) : db'.turns = db.turns.put turn' := by
  rw [h.applied]
  simp only [Database.apply, h.turnPut, Table.putOption_some]

theorem call_readable_iff {gen : Generated} {command : Command} {r : Reply} (hread : Readable db)
    (h : exec db gen command = (.ok r, db')) (hnew : r.duplicate = false) :
    Readable db' ↔ (Writer.call gen command).KeepsReadable db := by
  have hnot : ∀ {p q : Prop}, (r.duplicate = true ∧ p) ∨ (r.duplicate = false ∧ q) → q := by
    rintro p q (⟨hd, -⟩ | ⟨-, hq⟩)
    · rw [hnew] at hd
      cases hd
    · exact hq
  cases command with
  | start command runHex key =>
    obtain ⟨turn, run, values, updated, ht, -, -, -, hup, -, -, rfl⟩ := hnot (start_ok h)
    rw [readable_put hread rfl, attachRun_valid ht.valid ht.open_ hup]
    constructor
    · intro hlen other hg
      rw [ht.get] at hg
      cases hg
      exact hlen
    · exact fun hall => hall _ ht.get
  | progress command =>
    obtain ⟨row, run, planRow, -, -, -, -, rfl⟩ := hnot (progress_ok h)
    exact ⟨fun _ => trivial, fun _ => hread⟩
  | complete command =>
    obtain ⟨row, turn, changes, hv, hc⟩ := hnot (complete_concluded h)
    rw [readable_put hread hc.turns, completedTurn_valid hv]
    constructor
    · intro hcond other hg
      rw [hc.turnGet] at hg
      cases hg
      exact hcond
    · exact fun hall => hall _ hc.turnGet
  | fail command =>
    obtain ⟨row, turn, changes, hv, -, hc⟩ := hnot (fail_concluded h)
    rw [readable_put hread hc.turns]
    exact ⟨fun _ => trivial, fun _ => failedTurn_valid hv⟩
  | cancel command =>
    obtain ⟨row, turn, changes, hv, -, hc⟩ := hnot (cancel_concluded h)
    rw [readable_put hread hc.turns]
    exact ⟨fun _ => trivial, fun _ => concludeTurn_valid hv rfl (by decide) hv.response⟩
  | timeout command =>
    obtain ⟨row, turn, changes, hc⟩ := hnot (timeout_concluded h)
    have hv := hread.valid hc.turnGet
    rw [readable_put hread hc.turns]
    exact ⟨fun _ => trivial, fun _ => concludeTurn_valid hv rfl (by decide) hv.response⟩

/-- **Turn rows stay readable.** An accepted call or repair on readable tables
leaves them readable exactly when `KeepsReadable` holds of it. -/
theorem readable_iff {db db' : ReconcilerDatabase} {w : Writer} (hread : Readable db.stores)
    (h : w.Commits db db') : Readable db'.stores ↔ w.KeepsReadable db.stores := by
  cases w with
  | call gen command =>
    obtain ⟨r, hx, hnew⟩ := h
    exact call_readable_iff hread hx hnew
  | repair sha256 tenantId userId requestId idempotencyKey now =>
    obtain ⟨r, hx, hnew⟩ := h
    rcases repair_ok hx with ⟨hd, -⟩ | ⟨-, turn, run, result, hturn, -, hpair, hput⟩
    · rw [hnew] at hd
      cases hd
    · have hv := hread.valid (get_of_ownedTurn hturn)
      rw [readable_put hread hput, repairedTurn_valid hv]
      constructor
      · intro hcond other run' result' hturn' hpair'
        rw [hturn] at hturn'
        cases hturn'
        rw [hpair] at hpair'
        cases hpair'
        exact hcond
      · exact fun hall => hall turn run result hturn hpair

def lateTurn : Database :=
  execAll { sampleDatabase with turns := Table.empty.put { sampleTurn with createdAt := 10 } }
    [(sampleGenerated "1", .start (sampleStart none) "1" "key1")]

theorem lateTurn_readable : Readable lateTurn := by
  have hget : ∀ turnId row, lateTurn.turns.get? turnId = some row → row ∈ lateTurn.turns.values := by
    intro turnId row hg
    rw [Table.mem_values, Table.key_of_get? hg]
    exact hg
  have hall : ∀ row ∈ lateTurn.turns.values, turnFromRow row = .ok row := by decide
  exact fun turnId row hg => hall row (hget _ _ hg)

def completeAt (occurredAt : Instant) : Generated × Command :=
  (sampleGenerated "2", .complete (sampleComplete (sampleEvent "event" "run_1" none occurredAt) "result"))

theorem readable_iff_completeAt :
    ∃ db', (Writer.call (completeAt 10).1 (completeAt 10).2).Commits ⟨lateTurn, .empty⟩ db' ∧
      (Readable db'.stores ↔ (Writer.call (completeAt 10).1 (completeAt 10).2).KeepsReadable
        lateTurn) := by
  have hc : (Writer.call (completeAt 10).1 (completeAt 10).2).Commits ⟨lateTurn, .empty⟩
      ⟨(exec lateTurn (completeAt 10).1 (completeAt 10).2).2, .empty⟩ :=
    ⟨_, rfl, by decide⟩
  exact ⟨_, hc, readable_iff lateTurn_readable hc⟩

/-- A completion that occurred before the turn was created is accepted, and the
row it writes cannot be read. -/
theorem completion_before_creation :
    Readable lateTurn ∧ ∃ r db', exec lateTurn (completeAt 5).1 (completeAt 5).2 = (.ok r, db') ∧
      r.duplicate = false ∧ ∃ row, db'.turns.get? "turn" = some row ∧
        turnFromRow row = .error (.validationError "completed_at must not precede created_at") :=
  ⟨lateTurn_readable, _, _, rfl, rfl, _, rfl, by decide⟩

end OpenIntentRouter.DelegatedRuns.Db
