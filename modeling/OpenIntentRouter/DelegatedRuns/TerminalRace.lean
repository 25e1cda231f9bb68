import OpenIntentRouter.DelegatedRuns.Races

/-!
# At most one terminal transition

`complete` reads the run before the turn and takes no lock. A `fail`, `cancel`
or `timeout` that commits between the two reads has raised the version of the
turn already, so the coordinator's version check passes and `complete` writes
over the ended run (`overtaken_complete_overwrites_timeout`). A `complete` that
is overtaken by another `complete` there is stopped by the unique outbox key.

* `window_open`: a `complete` that is not overtaken there commits on an open run;
* `one_terminal_transition`: then nothing is committed after the run has ended.
-/
namespace OpenIntentRouter.DelegatedRuns.Db

open Core Schemas Repositories

variable {ι : Type} [DecidableEq ι] {commands : ι → Generated × Command}
  {fits : AgentRun → AgentRun → Prop} {i : ι} {command : DelegatedRunEventCommand}
  {h : Set Row} {d : Database}

def CompletedEntry (turnId : String) (d : Database) : Prop :=
  ∃ entry ∈ d.outbox.values, entry.idempotencyKey = "turn.completed" ++ ":" ++ turnId

/-- The run is on the turn, and a status that `closed` holds of comes with the
turn's `turn.completed` entry. -/
def EntryIf (closed : RunStatus → Prop) (runId turnId : String) (d : Database) : Prop :=
  ∃ row, d.runs.get? runId = some row ∧ row.turnId = some turnId ∧
    (closed row.status → CompletedEntry turnId d)

variable {d' : Database} {turnId runId : String}

theorem Overwrites.completedEntry {ends : Bool} {now new : AgentRun}
    (ho : Overwrites fits command ends h d d' now new) (he : CompletedEntry turnId d) :
    CompletedEntry turnId d' := by
  obtain ⟨entry, hmem, hkey⟩ := he
  cases ends with
  | false =>
    refine ⟨entry, ?_, hkey⟩
    rw [ho.rest.2]
    exact hmem
  | true =>
    obtain ⟨entry', hnone, hput, -⟩ := ho.rest.outbox
    refine ⟨entry, ?_, hkey⟩
    rw [hput, Table.mem_values, Table.get?_put_ne]
    · exact (Table.mem_values ..).1 hmem
    · intro heq
      rw [heq, (Table.mem_values ..).1 hmem] at hnone
      cases hnone

/-- A completed run has the entry, whatever is committed. -/
theorem relies_completed (he : EntryIf (· = .completed) runId turnId d)
    (hr : Relies (Guarantee commands fits) i h d d') :
    EntryIf (· = .completed) runId turnId d' := by
  refine hr.keeps (P := EntryIf (· = .completed) runId turnId) ?_ he
  rintro j - h' - d1 d2 ⟨row, hget, hrow, hentry⟩ ⟨command, now, new, -, ho⟩
  by_cases hid : command.runId = runId
  · subst hid
    have hturn := ho.turnId_eq hget hrow
    refine ⟨new, ho.runs_self, by rw [← hturn]; exact ho.turnId.2, fun hc => ?_⟩
    have hends := ho.ends_eq
    have hrest := ho.rest
    rw [← hends, hc] at hrest
    obtain ⟨entry, hnone, hput, hkey⟩ := hrest.outbox
    refine ⟨entry, ?_, by rw [← hturn]; exact hkey rfl⟩
    rw [hput, Table.mem_values, Table.get?_put_self]
  · exact ⟨row, (ho.runs_ne hid).trans hget, hrow, fun hc => ho.completedEntry (hentry hc)⟩

/-- The turn has moved past the version `v`, or its run has not ended without
the entry. -/
def OpenSince (v : Nat) (runId turnId : String) (d : Database) : Prop :=
  ∃ turn, d.turns.get? turnId = some turn ∧ v ≤ turn.stateVersion ∧
    (turn.stateVersion = v → EntryIf (·.isTerminal = true) runId turnId d)

theorem relies_open {v : Nat} (ho : OpenSince v runId turnId d)
    (hr : Relies (Guarantee commands fits) i h d d') : OpenSince v runId turnId d' := by
  refine hr.keeps (P := OpenSince v runId turnId) ?_ ho
  rintro j - h' - d1 d2 ⟨turn, hget, hle, hopen⟩ ⟨command, now, new, -, hover⟩
  by_cases hends : concludes (commands j).2 = true ∧ command.turnId = turnId
  · -- the commit raises the version of the turn
    obtain ⟨hends, rfl⟩ := hends
    rw [hends] at hover
    obtain ⟨old, new', hold, hput, hid, hv⟩ := hover.rest.turn
    cases hold.symm.trans hget
    refine ⟨new', ?_, by omega, fun he => by omega⟩
    rw [hput, ← hid, Table.get?_put_self]
  · have hturn : d2.turns.get? turnId = d1.turns.get? turnId := by
      by_cases hid : command.turnId = turnId
      · have hfalse : concludes (commands j).2 = false := by simpa [hid] using hends
        have hrest := hover.rest
        simp only [hfalse, Bool.false_eq_true, if_false] at hrest
        rw [hrest.1]
      · exact hover.turns_ne hid
    refine ⟨turn, hturn.trans hget, hle, fun he => ?_⟩
    obtain ⟨row, hrow, hrowTurn, hentry⟩ := hopen he
    by_cases hid : command.runId = runId
    · -- a progress of the run: it is still active
      subst hid
      have hsame := hover.turnId_eq hrow hrowTurn
      have hfalse : concludes (commands j).2 = false := by simpa [hsame] using hends
      refine ⟨new, hover.runs_self, by rw [← hsame]; exact hover.turnId.2, fun hc => ?_⟩
      dsimp only at hc
      rw [hover.ends_eq, hfalse] at hc
      cases hc
    · exact ⟨row, (hover.runs_ne hid).trans hrow, hrowTurn,
        fun hc => hover.completedEntry (hentry hc)⟩

/-- Between its reads of run and turn, no `complete` is overtaken by a command
that fails, cancels or times out the run it was accepted for. -/
def NotOvertaken : Site → Database → Prop
  | .completeReadsTurn command (some row), d =>
    Accepts row command →
      ∀ now, d.runs.get? command.runId = some now →
        now.status ≠ .failed ∧ now.status ≠ .cancelled ∧ now.status ≠ .timedOut
  | _, _ => True

def OverOpen (now _new : AgentRun) : Prop := now.status.isTerminal = false

theorem accepts_of_validate {row run : AgentRun} (hv : runFromRow row = .ok run)
    (ha : Accepts run command) : Accepts row command := by
  have he := AgentRun.validate_eq hv
  obtain ⟨h1, h2, h3, h4, h5, h6, h7, h8, h9⟩ := ha
  rw [he] at h1 h2 h3 h4 h5 h6 h7 h8 h9
  exact ⟨h1, h2, h3, h4, h5, h6, h7, h8, h9⟩

theorem window_open {complete : DelegatedRunCompleteCommand} {row run now : AgentRun}
    (hw : Window commands OverOpen NotOvertaken i complete row run now d) :
    now.status.isTerminal = false := by
  have hget := hw.get.1
  obtain ⟨hf, h1, hsite, hturn, -, h2, hturnNow, hv, h3, -, -, h4, hkey⟩ := hw
  obtain ⟨hrowTurn, hactive, -, -⟩ := runFound_row hf
  have hstart : EntryIf (· = .completed) complete.runId complete.turnId _ :=
    ⟨row, hf.get, hrowTurn, fun hc => by rw [hc] at hactive; cases hactive⟩
  -- at the read of the turn
  obtain ⟨r, hr, hrTurn, hentry⟩ := relies_completed hstart h1
  obtain ⟨h5, h6, h7⟩ := hsite (accepts_of_validate hf.reads hf.accepts) r hr
  have hopen : OpenSince _ complete.runId complete.turnId _ :=
    ⟨_, hturn, Nat.le_refl _, fun _ => ⟨r, hr, hrTurn, fun ht => hentry (by
      cases hs : r.status <;> simp_all [RunStatus.isTerminal])⟩⟩
  -- at the commit
  obtain ⟨t, ht, -, hend⟩ := relies_open (relies_open (relies_open hopen h2) h3) h4
  have hsame := (relies_turn (.inr rfl) h4).trans ((relies_turn (Set.mem_singleton _) h3).trans hturnNow)
  cases hsame.symm.trans ht
  obtain ⟨r', hr', -, hentry'⟩ := hend hv
  cases hget.symm.trans hr'
  by_contra hterminal
  obtain ⟨entry, hmem, hkey'⟩ := hentry' (by simpa using hterminal)
  exact hkey entry hmem hkey'

variable (commands) in
theorem safe_overOpen {runId : String} (hrun : OnRun commands runId) (i : ι) (d : Database) :
    Safe (Guarantee commands OverOpen) NotOvertaken i (Answers commands i) false ∅
      (progs commands i) d :=
  safe_prog hrun (fun _ _ h _ _ => h) (fun _ _ _ _ _ _ hw => window_open hw) i d

def Ended (runId : String) (d : Database) : Prop :=
  ∃ row, d.runs.get? runId = some row ∧ row.status.isTerminal = true

omit [DecidableEq ι] in
theorem Guarantee.not_ended {runId : String} {d' : Database} (hrun : OnRun commands runId)
    (hg : Guarantee commands OverOpen i h d d') : ¬Ended runId d := by
  rintro ⟨row, hget, hended⟩
  obtain ⟨command, now, new, hevent, ho⟩ := hg
  obtain ⟨command', hevent', rfl⟩ := hrun i
  cases hevent.symm.trans hevent'
  cases ho.get.symm.trans hget
  have hopen : row.status.isTerminal = false := ho.fits
  rw [hopen] at hended
  cases hended

variable {db : Database} {p p' : Pool ι Database Row Site (Except StoreError Reply)}

/-- A step from a state in which the run has ended commits nothing. -/
theorem ended_step (hrun : OnRun commands runId) {l : Pool.Label ι}
    (hp : (race commands NotOvertaken db).Reachable p)
    (hst : (race commands NotOvertaken db).step p l p') (he : Ended runId p.db) : p'.db = p.db := by
  have hsafe := Pool.reachable_safe answers_aborted (safe_overOpen commands hrun · db) hp
  rcases (Pool.sound answers_aborted hsafe hst.1 hst.2).2 with ⟨hd, -⟩ | ⟨i, -, -, hg⟩
  · exact hd
  · exact absurd he (hg.not_ended hrun)

variable (commands) in
def closings (commits : List ι) : List ι := commits.filter fun i => concludes (commands i).2

def ClosedOnce (runId : String) (d : Database) (closed : List ι) : Prop :=
  closed = [] ∨ (closed.length = 1 ∧ Ended runId d)

theorem closedOnce_reachable (hrun : OnRun commands runId)
    (hp : (race commands NotOvertaken db).Reachable p) :
    ClosedOnce runId p.db (closings commands p.commits) := by
  refine Pool.reachable_keeps (P := fun d cs => ClosedOnce runId d (closings commands cs))
    answers_aborted (safe_overOpen commands hrun · db) (.inl rfl) ?_ hp
  intro i h d d' cs hcs hg
  have hnil : closings commands cs = [] := hcs.resolve_right fun hc => hg.not_ended hrun hc.2
  obtain ⟨command, now, new, hevent, ho⟩ := hg
  obtain ⟨command', hevent', rfl⟩ := hrun i
  cases hevent.symm.trans hevent'
  cases hends : concludes (commands i).2 with
  | false =>
    left
    simpa [closings, hends] using hnil
  | true =>
    right
    refine ⟨by simpa [closings, hends] using hnil, new, ho.runs_self, ?_⟩
    rw [ho.ends_eq, hends]

/-- **At most one terminal transition.** If no `complete` is overtaken, nothing
is committed once the run has ended, at most one call that ends a run commits,
and every other accepted call is a duplicate of an event of the run. -/
theorem one_terminal_transition {runId : String} (hrun : OnRun commands runId)
    (hp : (race commands NotOvertaken db).Reachable p)
    (hs : (race commands NotOvertaken db).Steps p p') :
    (Ended runId p.db → p'.db = p.db) ∧
    (closings commands p.commits).length ≤ 1 ∧
    ∀ i reply, p.proc i = .ret (.ok reply) → i ∈ p.commits ∨ (reply.duplicate = true ∧
      ∃ command event, (commands i).2.event? = some command ∧
        p.db.events.get? command.eventId = some event ∧ event.runId = some runId) := by
  refine ⟨fun he => ?_, ?_, fun i reply hi => ?_⟩
  · refine LTS.Steps.keeps (R := fun p p' => Ended runId p.db → p'.db = p.db) ?_ ?_ ?_ hp hs he
    · exact fun _ _ => rfl
    · intro a b c hab hbc ha
      have hb := hab ha
      rw [← hb]
      exact hbc (hb ▸ ha)
    · exact fun a l b ha hst he => ended_step hrun ha hst he
  · rcases closedOnce_reachable hrun hp with h | h
    · rw [h]
      exact Nat.zero_le _
    · exact h.1.le
  · obtain ⟨command, hevent, rfl⟩ := hrun i
    have hq := Pool.reachable_reply answers_aborted (safe_overOpen commands hrun · db) hp hi
    rcases hq command hevent reply rfl with ⟨hcom, -⟩ | ⟨hdup, event, he, hr⟩
    · exact .inl (of_decide_eq_true hcom)
    · exact .inr ⟨hdup, command, event, hevent, he, hr⟩

/-! ## An overtaken completion -/

instance (site : Site) (d : Database) : Decidable (NotOvertaken site d) :=
  match site with
  | .statement | .completeLocksRun _ _ | .completeReadsTurn _ none => .isTrue trivial
  | .completeReadsTurn command (some row) =>
    decidable_of_iff
      (runConflict row command = false →
        ∀ now ∈ d.runs.get? command.runId,
          now.status ≠ .failed ∧ now.status ≠ .cancelled ∧ now.status ≠ .timedOut)
      (by rw [runConflict_iff]; rfl)

/-- A `complete` and a `timeout` of one run. -/
def completeOrTimeout : Bool → Generated × Command
  | true =>
    (sampleGenerated "complete", .complete (sampleComplete (sampleEvent "done" "run_1" none 5) "result"))
  | false => (sampleGenerated "timeout", .timeout (sampleTimeout (sampleEvent "late" "run_1" none 5)))

def sampleEnd (d : Database) : Option (RunStatus × Option String × TurnStatus) := do
  let row ← d.runs.get? "run_1"
  let turn ← d.turns.get? "turn"
  return (row.status, row.terminalEventId, turn.status)

/-- `complete` has read the active run; `timeout` commits; `complete` reads the
timed-out turn and completes it. -/
theorem overtaken_complete_overwrites_timeout :
    ∃ p p', (clients completeOrTimeout sampleRace).Reachable p ∧
      (clients completeOrTimeout sampleRace).Steps p p' ∧
      sampleEnd p.db = some (.timedOut, some "late", .timedOut) ∧
      sampleEnd p'.db = some (.completed, some "done", .completed) := by
  have hrun : ((LTS.exec (Pool.next (.error .operationalError))
      (Pool.start sampleRace (progs completeOrTimeout))
      (statements true 2 ++ statements false 4)).bind fun p =>
        (LTS.exec (Pool.next (.error .operationalError)) p (statements true 4)).map fun p' =>
          [sampleEnd p.db, sampleEnd p'.db]) =
      some [some (.timedOut, some "late", .timedOut), some (.completed, some "done", .completed)] := by
    decide
  simp only [Option.bind_eq_some_iff, Option.map_eq_some_iff, List.cons.injEq] at hrun
  obtain ⟨p, hp, p', hp', he, he', -⟩ := hrun
  exact ⟨p, p', LTS.Reachable.exec (.init rfl) hp, .exec hp', he, he'⟩

/-- `complete` has read run and turn; `timeout` commits; `complete` is refused. -/
theorem one_terminal_transition_lateComplete :
    ∃ p p', (race completeOrTimeout NotOvertaken sampleRace).Steps p p' ∧
      sampleEnd p.db = some (.timedOut, some "late", .timedOut) ∧ p'.db = p.db ∧
      (closings completeOrTimeout p.commits).length ≤ 1 := by
  have hrun : ((LTS.execGuarded (Pool.next (.error .operationalError))
      (fun p l => decide (Pool.Meets NotOvertaken p l))
      (Pool.start sampleRace (progs completeOrTimeout))
      (statements true 3 ++ statements false 4)).bind fun p =>
        (LTS.execGuarded (Pool.next (.error .operationalError))
          (fun p l => decide (Pool.Meets NotOvertaken p l)) p (statements true 2)).map fun _ =>
          sampleEnd p.db) = some (some (.timedOut, some "late", .timedOut)) := by
    decide
  simp only [Option.bind_eq_some_iff, Option.map_eq_some_iff] at hrun
  obtain ⟨p, hp, p', hp', he⟩ := hrun
  have hreach : (race completeOrTimeout NotOvertaken sampleRace).Reachable p :=
    LTS.Reachable.execGuarded (fun _ _ => of_decide_eq_true) (.init rfl) hp
  have hsteps : (race completeOrTimeout NotOvertaken sampleRace).Steps p p' :=
    LTS.Steps.execGuarded (fun _ _ => of_decide_eq_true) hp'
  have hon : OnRun completeOrTimeout "run_1" := by
    intro i
    cases i <;> exact ⟨_, rfl, rfl⟩
  obtain ⟨hsame, hone, -⟩ := one_terminal_transition hon hreach hsteps
  refine ⟨p, p', hsteps, he, hsame ?_, hone⟩
  simp only [sampleEnd, Option.bind_eq_bind, Option.bind_eq_some_iff] at he
  obtain ⟨row, hrow, turn, -, he⟩ := he
  simp only [pure, Option.some.injEq, Prod.mk.injEq] at he
  exact ⟨row, hrow, by rw [he.1]; rfl⟩

end OpenIntentRouter.DelegatedRuns.Db
