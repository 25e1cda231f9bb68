import OpenIntentRouter.DelegatedRuns.DatabaseStores
import OpenIntentRouter.DelegatedRuns.MemoryStores

/-!
# The delegated-run service

`DelegatedRunService` hands a command to its store and answers with a reference
to the run. `Stores` is what it is built over: the in-memory stores or those on
the database, each call alone.
-/
namespace OpenIntentRouter.Services.DelegatedRuns

open Core Schemas Repositories OpenIntentRouter.DelegatedRuns

inductive Stores where
  | memory (stores : MemoryStores)
  | database (db : Database)
  deriving DecidableEq

namespace Stores

def exec (gen : Generated) (command : Command) : Stores → Except StoreError Reply × Stores
  | .memory s =>
    let called := Memory.exec s gen command
    (called.1, .memory called.2)
  | .database db =>
    let called := Db.exec db gen command
    (called.1, .database called.2)

/-- mirrors app/repositories/memory.py:201-203 and app/repositories/database.py:304-307 -/
def getRun (runId : String) : Stores → Except StoreError (Option AgentRun)
  | .memory s => .ok (s.runs.get? runId)
  | .database db => (db.runs.get? runId).mapM runFromRow

def event (eventId : String) : Stores → Option AgentEvent
  | .memory s => s.agentEvents.get? eventId
  | .database db => db.events.get? eventId

def turn (turnId : String) : Stores → Option CanonicalTurn
  | .memory s => s.turns.get? turnId
  | .database db => db.turns.get? turnId

def result (resultId : String) : Stores → Option AgentResult
  | .memory s => s.results.find? fun result => result.resultId = resultId
  | .database db => db.results.get? resultId

/-- The event of this id that a command of the owner finds: the database does not
look at the owner. -/
def ownEvent (c : DelegatedRunEventCommand) : Stores → Option AgentEvent
  | .memory s => getEvent s.agentEvents c.eventId c.tenantId c.userId
  | .database db => db.events.get? c.eventId

def getTurn (c : DelegatedRunEventCommand) : Stores → Except StoreError (Option CanonicalTurn)
  | .memory s => .ok (Repositories.getTurn s.turns c.turnId c.tenantId c.userId)
  | .database db => (db.turns.get? c.turnId).mapM turnFromRow

def getResult (resultId : String) : Stores → Except StoreError (Option AgentResult)
  | .memory s => .ok (s.results.find? fun result => result.resultId = resultId)
  | .database db => (db.results.get? resultId).mapM resultFromRow

end Stores

inductive AgentCommand where
  | progress (command : DelegatedRunProgressCommand)
  | complete (command : DelegatedRunCompleteCommand)
  | fail (command : DelegatedRunFailCommand)
  | cancel (command : DelegatedRunCancelCommand)

namespace AgentCommand

def command : AgentCommand → Command
  | .progress c => .progress c
  | .complete c => .complete c
  | .fail c => .fail c
  | .cancel c => .cancel c

def event : AgentCommand → DelegatedRunEventCommand
  | .progress c => c
  | .complete c => c
  | .fail c => c
  | .cancel c => c

end AgentCommand

/-- mirrors app/schemas/delegated_runs.py:87-97 -/
structure DelegatedRunReference where
  runId : String
  turnId : String
  tenantId : String
  userId : String
  agentId : String
  planId : Option String
  stepId : Option String
  status : RunStatus
  stateVersion : Nat
  deadlineAt : Instant
  deriving DecidableEq

/-- mirrors app/schemas/delegated_runs.py:100-105 -/
structure DelegatedRunCommandResult where
  run : DelegatedRunReference
  duplicate : Bool
  resultId : Option String
  turnId : String
  deriving DecidableEq

/-- The values of `DelegatedRunStatus`.
mirrors app/schemas/delegated_runs.py:12-24 -/
def isDelegatedStatus : RunStatus → Bool
  | .pending | .running | .blocked | .completed | .failed | .cancelled | .timedOut => true
  | .clarify | .invalidOutput | .timeout => false

/-- mirrors app/services/delegated_run_service.py:214-230 -/
def runReference (run : Option AgentRun) : Except StoreError DelegatedRunReference :=
  match run with
  | none => .error (.attributeError "'NoneType' object has no attribute 'turn_id'")
  | some run =>
    match run.turnId, run.tenantId, run.userId with
    | some turnId, some tenantId, some userId =>
      match run.deadlineAt with
      | none => .error (.valueError "Delegated Run is missing deadline")
      | some deadlineAt =>
        if isDelegatedStatus run.status && 1 ≤ run.stateVersion then
          .ok
            { runId := run.runId
              turnId
              tenantId
              userId
              agentId := run.agentId
              planId := run.planId
              stepId := run.stepId
              status := run.status
              stateVersion := run.stateVersion
              deadlineAt }
        else .error (.validationError "DelegatedRunReference")
    | _, _, _ => .error (.valueError "Delegated Run is missing canonical ownership")

/-- The answer to a progress command names the turn of the command, the others
the turn that came back. -/
def replyTurnId : AgentCommand → Reply → Except StoreError String
  | .progress command, _ => .ok command.turnId
  | _, reply =>
    match reply.turn with
    | none => .error (.attributeError "'NoneType' object has no attribute 'turn_id'")
    | some turn => .ok turn.turnId

/-- mirrors app/services/delegated_run_service.py:135-174 (the answers of `progress`,
`complete`, `fail` and `cancel`) -/
def commandResult (command : AgentCommand) (reply : Reply) :
    Except StoreError DelegatedRunCommandResult := do
  let run ← runReference reply.run
  let turnId ← replyTurnId command reply
  return { run, duplicate := reply.duplicate, resultId := reply.result.map (·.resultId), turnId }

/-- A command on its store, then the answer; what the store has written stays
when the answer cannot be built. -/
def serve (gen : Generated) (command : AgentCommand) (s : Stores) :
    Except StoreError DelegatedRunCommandResult × Stores :=
  match s.exec gen command.command with
  | (.error e, s') => (.error e, s')
  | (.ok reply, s') => (commandResult command reply, s')

theorem serve_ok {gen : Generated} {command : AgentCommand} {s s' : Stores}
    {result : DelegatedRunCommandResult} (h : serve gen command s = (.ok result, s')) :
    ∃ reply, s.exec gen command.command = (.ok reply, s') ∧ commandResult command reply = .ok result := by
  unfold serve at h
  split at h
  · cases h
  · next reply s1 hx =>
    rw [Prod.mk.injEq] at h
    obtain ⟨hc, rfl⟩ := h
    exact ⟨reply, hx, hc⟩

theorem serve_of {gen : Generated} {command : AgentCommand} {s s' : Stores} {reply : Reply}
    (h : s.exec gen command.command = (.ok reply, s')) :
    serve gen command s = (commandResult command reply, s') := by
  rw [serve, h]

theorem commandResult_ok {command : AgentCommand} {reply : Reply} {result : DelegatedRunCommandResult}
    (h : commandResult command reply = .ok result) :
    runReference reply.run = .ok result.run ∧ replyTurnId command reply = .ok result.turnId ∧
      result.duplicate = reply.duplicate := by
  obtain ⟨run, hr, h⟩ := Except.bind_eq_ok.1 h
  obtain ⟨turnId, ht, h⟩ := Except.bind_eq_ok.1 h
  cases h
  exact ⟨hr, ht, rfl⟩

theorem commandResult_of {command : AgentCommand} {reply : Reply}
    {reference : DelegatedRunReference} {turnId : String}
    (hr : runReference reply.run = .ok reference) (ht : replyTurnId command reply = .ok turnId) :
    ∃ result, commandResult command reply = .ok result ∧ result.run = reference ∧
      result.duplicate = reply.duplicate := by
  refine ⟨⟨reference, reply.duplicate, reply.result.map (·.resultId), turnId⟩, ?_, rfl, rfl⟩
  rw [commandResult, hr, ht]
  rfl

structure Referable (run : AgentRun) : Prop where
  turn : run.turnId ≠ none
  tenant : run.tenantId ≠ none
  user : run.userId ≠ none
  deadline : run.deadlineAt ≠ none
  status : isDelegatedStatus run.status = true
  version : 1 ≤ run.stateVersion

theorem runReference_ok {run : Option AgentRun} {reference : DelegatedRunReference}
    (h : runReference run = .ok reference) :
    ∃ r, run = some r ∧ Referable r ∧ reference.stateVersion = r.stateVersion := by
  unfold runReference at h
  split at h
  · cases h
  · next r =>
    split at h
    · next turnId tenantId userId ht htn hu =>
      split at h
      · cases h
      · next deadlineAt hd =>
        split at h
        · next hv =>
          rw [Bool.and_eq_true, decide_eq_true_eq] at hv
          cases h
          exact ⟨r, rfl, ⟨by simp [ht], by simp [htn], by simp [hu], by simp [hd], hv.1, hv.2⟩, rfl⟩
        · cases h
    · cases h

theorem runReference_of {run : AgentRun} (h : Referable run) :
    ∃ reference, runReference (some run) = .ok reference ∧
      reference.stateVersion = run.stateVersion := by
  obtain ⟨turnId, ht⟩ := Option.ne_none_iff_exists'.1 h.turn
  obtain ⟨tenantId, htn⟩ := Option.ne_none_iff_exists'.1 h.tenant
  obtain ⟨userId, hu⟩ := Option.ne_none_iff_exists'.1 h.user
  obtain ⟨deadlineAt, hd⟩ := Option.ne_none_iff_exists'.1 h.deadline
  simp only [runReference, ht, htn, hu, hd, h.status, h.version, decide_true, Bool.and_self, if_true,
    Except.ok.injEq, exists_eq_left']

end OpenIntentRouter.Services.DelegatedRuns
