import Mathlib.Data.List.Range
import OpenIntentRouter.DelegatedRuns.Atomicity

/-!
# The event log of the in-memory stores

Every accepted command on a run stores one event, numbered with the version it
gives the run. A redelivery is looked up among the events of the command's
owner, but events are stored under their id alone and the first one stays, so a
command that reuses the event id of another owner advances its run without an
event.

* `foreignEvent`: the commands this happens to;
* `log_complete`: without them each run of version `v` has exactly the events
  `2, …, v`, with increasing sequences, and a terminal run names one of them.
-/
namespace OpenIntentRouter.DelegatedRuns.Memory

open Core Schemas Repositories

/-! ## Serial runs -/

/-- A `uuid4` that a start generates is not the id of a stored run. -/
def newRunId (s : MemoryStores) : Command → Bool
  | .start _ runHex _ => !s.runs.contains (startRunId runHex)
  | _ => true

def next (s : MemoryStores) (call : Generated × Command) : Option MemoryStores :=
  if newRunId s call.2 then some (exec s call.1 call.2).2 else none

def serial : LTS MemoryStores (Generated × Command) :=
  .ofFn (fun s => s.runs = .empty ∧ s.agentEvents = .empty ∧ OutboxKeyed s.outbox) next

/-- The command is for a run that accepts it, and its event id is stored under
another tenant or user. -/
def foreignEvent (s : MemoryStores) (command : Command) : Bool :=
  match command.event? with
  | none => false
  | some command =>
    match s.runs.get? command.runId, s.agentEvents.get? command.eventId with
    | some run, some event =>
      !runConflict run command &&
        !(event.tenantId = some command.tenantId && event.userId = some command.userId)
    | _, _ => false

/-! ## Numbered events -/

/-- The events are those of the versions `2, …, v` in order, with increasing
sequences up to `n`. -/
structure Numbered (events : List AgentEvent) (v n : Nat) : Prop where
  versions : events.map (·.runStateVersion) = (List.range' 2 (v - 1)).map some
  bounded : ∀ event ∈ events, ∃ k, event.sequence = some k ∧ k ≤ n
  increasing : events.Pairwise fun a b =>
    ∃ k m, a.sequence = some k ∧ b.sequence = some m ∧ k < m

theorem Numbered.start : Numbered [] 1 0 := ⟨rfl, by simp, .nil⟩

theorem Numbered.append {events : List AgentEvent} {event : AgentEvent} {v n m : Nat}
    (h : Numbered events v n) (hv : 1 ≤ v) (hnm : n < m)
    (hversion : event.runStateVersion = some (v + 1)) (hseq : event.sequence = some m) :
    Numbered (events ++ [event]) (v + 1) m where
  versions := by
    obtain ⟨w, rfl⟩ := Nat.exists_eq_add_of_le' hv
    have hw := h.versions
    simp only [Nat.add_sub_cancel] at hw ⊢
    rw [List.map_append, hw, List.range'_1_concat, List.map_append]
    simp only [List.map_cons, List.map_nil, hversion]
    congr 3
    omega
  bounded := by
    intro e he
    rcases List.mem_append.1 he with he | he
    · obtain ⟨k, hk, hle⟩ := h.bounded e he
      exact ⟨k, hk, by omega⟩
    · rw [List.mem_singleton.1 he]
      exact ⟨m, hseq, Nat.le_refl m⟩
  increasing := by
    refine List.pairwise_append.2 ⟨h.increasing, List.pairwise_singleton _ _, ?_⟩
    intro a ha b hb
    obtain ⟨k, hk, hle⟩ := h.bounded a ha
    rw [List.mem_singleton.1 hb]
    exact ⟨k, m, hk, hseq, by omega⟩

/-! ## The log of a run -/

def runEvents (s : MemoryStores) (runId : String) : List AgentEvent :=
  s.agentEvents.values.filter fun event => event.runId = some runId

/-- A run of version `v` has `v - 1` stored events, the versions `2, …, v` in
order, with increasing sequences; a terminal run names one of them. -/
structure LogComplete (s : MemoryStores) (run : AgentRun) : Prop where
  count : (runEvents s run.runId).length = run.stateVersion - 1
  versions : (runEvents s run.runId).map (·.runStateVersion) =
    (List.range' 2 (run.stateVersion - 1)).map some
  increasing : (runEvents s run.runId).Pairwise fun a b =>
    ∃ k m, a.sequence = some k ∧ b.sequence = some m ∧ k < m
  terminal : run.status.isTerminal = true →
    ∃ event, s.agentEvents.get? event.eventId = some event ∧ event.runId = some run.runId ∧
      run.terminalEventId = some event.eventId

/-- The invariant: numbered events for every run, and no event without a run. -/
structure Logged (s : MemoryStores) : Prop where
  version : ∀ runId run, s.runs.get? runId = some run → 1 ≤ run.stateVersion
  numbered : ∀ runId run, s.runs.get? runId = some run →
    Numbered (runEvents s runId) run.stateVersion run.eventSequence
  terminal : ∀ runId run, s.runs.get? runId = some run → run.status.isTerminal = true →
    ∃ event, s.agentEvents.get? event.eventId = some event ∧ event.runId = some runId ∧
      run.terminalEventId = some event.eventId
  known : ∀ event ∈ s.agentEvents.values, ∃ runId run,
    event.runId = some runId ∧ s.runs.get? runId = some run
  outbox : OutboxKeyed s.outbox

theorem Logged.complete {s : MemoryStores} (h : Logged s) {runId : String} {run : AgentRun}
    (hg : s.runs.get? runId = some run) : LogComplete s run := by
  have hid : run.runId = runId := Table.key_of_get? hg
  have hn := h.numbered _ _ hg
  rw [← hid] at hn
  refine ⟨?_, hn.versions, hn.increasing, fun ht => ?_⟩
  · have hlen := congrArg List.length hn.versions
    simpa using hlen
  · rw [hid]
    exact h.terminal _ _ hg ht

variable {s s' : MemoryStores} {command : DelegatedRunEventCommand}

theorem runEvents_put (event : AgentEvent) (h : s.agentEvents.get? event.eventId = none)
    (runId : String) :
    runEvents { s with agentEvents := s.agentEvents.put event } runId =
      if event.runId = some runId then runEvents s runId ++ [event] else runEvents s runId := by
  simp only [runEvents, Table.values_put_of_none h, List.filter_append]
  by_cases hid : event.runId = some runId
  · simp [hid]
  · simp [hid]

/-- An event id of an accepted command that its owner has not used is not used at all. -/
theorem Written.unused {stamp : Instant} {run updated : AgentRun} {event : AgentEvent} {c : Command}
    (h : Written command stamp s s' run updated event) (hc : c.event? = some command)
    (hf : foreignEvent s c = false) : s.agentEvents.get? command.eventId = none := by
  cases he : s.agentEvents.get? command.eventId with
  | none => rfl
  | some stored =>
    have hrun : runConflict run command = false := (runConflict_iff _ _).2 h.fresh.accepts
    simp only [foreignEvent, hc, h.fresh.get, he, hrun, Bool.not_false, Bool.true_and,
      Bool.not_eq_false', Bool.and_eq_true, decide_eq_true_eq] at hf
    have hget := getEvent_eq_some.2 ⟨he, hf.1, hf.2⟩
    rw [h.fresh.event] at hget
    cases hget

theorem Written.logged {stamp : Instant} {run updated : AgentRun} {event : AgentEvent} {c : Command}
    (h : Written command stamp s s' run updated event) (hc : c.event? = some command)
    (hf : foreignEvent s c = false) (hl : Logged s) : Logged s' := by
  obtain ⟨stored, hv, hruns⟩ := h.runs
  have hunused : s.agentEvents.get? event.eventId = none := by
    rw [h.eventId]
    exact h.unused hc hf
  have hevents : s'.agentEvents = s.agentEvents.put { event with createdAt := some stamp } := by
    rw [h.events, addAgentEvent, hunused]
  have hid : stored.runId = run.runId := by
    rw [← AgentRun.runId_of_validate hv]
    exact h.same.1
  have hstored := AgentRun.validate_eq hv
  have hget : s.runs.get? run.runId = some run := by rw [h.fresh.runId]; exact h.fresh.get
  have hlog : ∀ runId, runEvents s' runId =
      if run.runId = runId then
        runEvents s runId ++ [{ event with createdAt := some stamp }]
      else runEvents s runId := by
    intro runId
    have hp := runEvents_put (s := s) { event with createdAt := some stamp } hunused
      runId
    have hs : runEvents s' runId = runEvents { s with
        agentEvents := s.agentEvents.put { event with createdAt := some stamp } } runId := by
      simp only [runEvents, hevents]
    rw [hs, hp]
    simp only [h.eventRun, Option.some.injEq]
  refine ⟨?_, ?_, ?_, ?_, h.outboxKeyed hl.outbox⟩
  · intro runId other hg
    rw [hruns, Table.get?_put] at hg
    split at hg
    · cases hg
      rw [hstored]
      simp only [h.version]
      omega
    · exact hl.version _ _ hg
  · intro runId other hg
    rw [hruns, Table.get?_put, hid] at hg
    rw [hlog]
    split at hg
    · next hr =>
      cases hg
      subst hr
      rw [if_pos rfl, hstored]
      simp only [h.version]
      refine (hl.numbered _ _ hget).append (hl.version _ _ hget) h.sequence ?_ h.eventSequence
      rw [← h.version]
      exact h.eventVersion
    · next hr =>
      rw [if_neg hr]
      exact hl.numbered _ _ hg
  · intro runId other hg ht
    rw [hruns, Table.get?_put, hid] at hg
    split at hg
    · next hr =>
      cases hg
      refine ⟨{ event with createdAt := some stamp }, ?_, ?_, ?_⟩
      · rw [hevents]
        exact Table.get?_put_self _ _
      · rw [← hr]
        exact h.eventRun
      · rw [hstored] at ht ⊢
        rw [h.eventId]
        exact h.terminal ht
    · obtain ⟨e, he, hr, hterm⟩ := hl.terminal _ _ hg ht
      refine ⟨e, ?_, hr, hterm⟩
      rw [hevents, Table.get?_put_ne _ ?_]
      · exact he
      · intro heq
        dsimp only at heq
        rw [heq, he] at hunused
        cases hunused
  · intro e he
    rw [hevents] at he
    rw [hruns]
    have hknown : ∀ runId other, s.runs.get? runId = some other →
        ∃ r, (s.runs.put stored).get? runId = some r := by
      intro runId other hg
      rw [Table.get?_put]
      split
      · exact ⟨_, rfl⟩
      · exact ⟨_, hg⟩
    rcases Table.mem_values_put he with rfl | he
    · obtain ⟨r, hr⟩ := hknown _ _ hget
      exact ⟨run.runId, r, h.eventRun, hr⟩
    · obtain ⟨runId, other, he, hg⟩ := hl.known e he
      obtain ⟨r, hr⟩ := hknown _ _ hg
      exact ⟨runId, r, he, hr⟩

theorem Started.logged {command : DelegatedRunStartCommand} {runId delegationKey : String}
    {gen : Generated} (h : Started command runId delegationKey gen s s')
    (hnew : s.runs.get? runId = none) (hl : Logged s) : Logged s' := by
  obtain ⟨turn, run, stored, updated, -, -, -, -, hrun, hv, -, rfl⟩ := h.started
  obtain ⟨hid, -, -, hversion, hsequence, hstatus⟩ := newRun_eq hrun
  have hstored := AgentRun.validate_eq hv
  have hsid : stored.runId = runId := by rw [← AgentRun.runId_of_validate hv, hid]
  have hempty : runEvents s runId = [] := by
    refine List.filter_eq_nil_iff.2 fun e he => ?_
    obtain ⟨other, r, hr, hg⟩ := hl.known e he
    simp only [decide_eq_true_eq]
    intro heq
    rw [hr] at heq
    cases heq
    rw [hnew] at hg
    cases hg
  refine ⟨?_, ?_, ?_, ?_, hl.outbox⟩
  · intro id other hg
    rw [Table.get?_put] at hg
    split at hg
    · cases hg
      rw [hstored]
      exact Nat.le_of_eq hversion.symm
    · exact hl.version _ _ hg
  · intro id other hg
    rw [Table.get?_put, hsid] at hg
    split at hg
    · next heq =>
      cases hg
      subst heq
      have hnum : Numbered (runEvents s runId) 1 0 := by
        rw [hempty]
        exact .start
      rw [hstored]
      simp only [hversion, hsequence]
      exact hnum
    · exact hl.numbered _ _ hg
  · intro id other hg ht
    rw [Table.get?_put] at hg
    split at hg
    · cases hg
      rw [hstored] at ht
      simp only [hstatus] at ht
      cases ht
    · exact hl.terminal _ _ hg ht
  · intro e he
    obtain ⟨id, r, hr, hg⟩ := hl.known e he
    refine ⟨id, r, hr, ?_⟩
    rw [Table.get?_put_ne _ ?_]
    · exact hg
    · rw [hsid]
      rintro rfl
      rw [hnew] at hg
      cases hg

theorem serial_logged (h : (serial.guarded fun s call => foreignEvent s call.2 = false).Reachable s) :
    Logged s := by
  refine LTS.Inductive.reachable ⟨?_, ?_⟩ h
  · rintro s ⟨hr, he, ho⟩
    refine ⟨?_, ?_, ?_, ?_, ho⟩
    · intro runId run hg
      rw [hr] at hg
      cases hg
    · intro runId run hg
      rw [hr] at hg
      cases hg
    · intro runId run hg
      rw [hr] at hg
      cases hg
    · intro e hm
      rw [he] at hm
      cases hm
  · rintro s ⟨gen, command⟩ s' hl ⟨hf, hst⟩
    simp only [serial, LTS.ofFn, next] at hst
    split at hst
    · next hnew =>
      cases hst
      rcases hx : exec s gen command with ⟨e | r, s'⟩
      · rw [exec_raise_frame hl.outbox hx]
        exact ⟨hl.version, hl.numbered, hl.terminal, hl.known, hl.outbox⟩
      · rcases exec_ok hx with ⟨-, rfl⟩ | ⟨start, runHex, key, rfl, hs⟩ | ⟨_, _, _, _, hc, hw⟩
        · exact hl
        · refine hs.logged ?_ hl
          simpa [newRunId, Table.contains_eq_false] using hnew
        · exact hw.logged hc hf hl
    · cases hst

/-- **The event log is complete.** In every state reached by calls none of
which reuses the event id of another owner, the log of every run is complete. -/
theorem log_complete {s : MemoryStores}
    (h : (serial.guarded fun s call => foreignEvent s call.2 = false).Reachable s)
    {runId : String} {run : AgentRun} (hg : s.runs.get? runId = some run) : LogComplete s run :=
  (serial_logged h).complete hg

def twoUsers : MemoryStores :=
  { sampleStores with
    turns := sampleStores.turns.put { sampleTurn with turnId := "turn2", userId := "other" } }

theorem twoUsers_init : serial.init twoUsers := ⟨rfl, rfl, fun _ _ h => by cases h⟩

def otherStart : DelegatedRunStartCommand :=
  { sampleStart none with turnId := "turn2", userId := "other", identifiers := by decide }

def otherProgress (eventId : String)
    (identifiers : [eventId, "run_2", "turn2", "tenant", "other", "agent"].all isIdentifier = true
      := by decide) : DelegatedRunProgressCommand :=
  sampleProgress
    { sampleEvent "event" "run_2" none 1 with
      eventId, turnId := "turn2", userId := "other", identifiers }

def twoProgresses (eventId : String)
    (identifiers : [eventId, "run_2", "turn2", "tenant", "other", "agent"].all isIdentifier = true
      := by decide) : List (Generated × Command) :=
  [(sampleGenerated "1", .start (sampleStart none) "1" "key1"),
    (sampleGenerated "2", .start otherStart "2" "key2"),
    (sampleGenerated "3", .progress (sampleProgress (sampleEvent "event" "run_1" none 1))),
    (sampleGenerated "4", .progress (otherProgress eventId identifiers))]

theorem log_complete_twoProgresses :
    ∃ s, LTS.execGuarded next (fun s call => !foreignEvent s call.2) twoUsers
      (twoProgresses "event2") = some s ∧ ∃ run, s.runs.get? "run_2" = some run ∧
        run.stateVersion = 2 ∧ LogComplete s run := by
  have hrun : ∃ s run, LTS.execGuarded next (fun s call => !foreignEvent s call.2) twoUsers
      (twoProgresses "event2") = some s ∧ s.runs.get? "run_2" = some run ∧
        run.stateVersion = 2 := by
    refine ⟨_, _, rfl, rfl, ?_⟩
    decide
  obtain ⟨s, run, hs, hg, hv⟩ := hrun
  have hreach : (serial.guarded fun s call => foreignEvent s call.2 = false).Reachable s :=
    LTS.Reachable.execGuarded (by simp) (.init twoUsers_init) hs
  exact ⟨s, hs, run, hg, hv, log_complete hreach hg⟩

/-- The second user's progress under the first one's event id leaves its run at
version 2 with no event. -/
theorem foreign_event_not_logged :
    ∃ s, serial.Reachable s ∧ ∃ run, s.runs.get? "run_2" = some run ∧ run.stateVersion = 2 ∧
      runEvents s "run_2" = [] ∧ ¬LogComplete s run := by
  have hrun : ∃ s run, LTS.exec next twoUsers (twoProgresses "event") = some s ∧
      s.runs.get? "run_2" = some run ∧ run.stateVersion = 2 ∧ run.runId = "run_2" ∧
      runEvents s "run_2" = [] := by
    refine ⟨_, _, rfl, rfl, ?_⟩
    decide
  obtain ⟨s, run, hs, hg, hv, hid, he⟩ := hrun
  have hreach : serial.Reachable s :=
    LTS.Reachable.exec (.init twoUsers_init) hs
  refine ⟨s, hreach, run, hg, hv, he, fun hlog => ?_⟩
  have hcount := hlog.count
  rw [hid, he, hv] at hcount
  cases hcount

end OpenIntentRouter.DelegatedRuns.Memory
