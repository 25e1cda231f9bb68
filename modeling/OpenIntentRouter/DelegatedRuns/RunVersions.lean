import OpenIntentRouter.DelegatedRuns.Races

/-!
# No lost run update

A `progress` raises the version of the run and not that of the turn, so it may
commit between the reads of a `complete` and its locks without being noticed:
`complete` then writes the version and the sequence it computed from its first
read (`overtaken_complete_loses_progress`).

* `window_advances`: a `complete` that finds the version it has read finds the
  whole row it has read;
* `no_lost_run_update`: then every commit raises the version by one, never
  lowers the sequence, and its event carries a version of its own.
-/
namespace OpenIntentRouter.DelegatedRuns.Db

open Core Schemas Repositories

variable {ι : Type} [DecidableEq ι] {commands : ι → Generated × Command} {i : ι}
  {h : Set Row} {d : Database}

/-- A `complete` that finds the turn at the version it has read locks the run
at the version it has read. -/
def VersionCurrent : Site → Database → Prop
  | .completeLocksRun bundle (some turn), d =>
    turn.stateVersion + 1 = bundle.turn.stateVersion → ∀ now ∈ d.runs.get? bundle.run.runId,
      now.stateVersion + 1 = bundle.run.stateVersion
  | _, _ => True

def Advances (now new : AgentRun) : Prop :=
  now.status.isTerminal = false ∧ new.stateVersion = now.stateVersion + 1 ∧
    now.eventSequence ≤ new.eventSequence

/-- The run row is `row` or has moved past its version. -/
def SameSince (row : AgentRun) (runId : String) (d : Database) : Prop :=
  ∃ now, d.runs.get? runId = some now ∧ row.stateVersion ≤ now.stateVersion ∧
    (now.stateVersion = row.stateVersion → now = row)

theorem relies_same {row : AgentRun} {runId : String} {d' : Database} (hs : SameSince row runId d)
    (hr : Relies (Guarantee commands Advances) i h d d') : SameSince row runId d' := by
  refine hr.keeps (P := SameSince row runId) ?_ hs
  rintro j - h' - d1 d2 ⟨r, hget, hle, hsame⟩ ⟨command, now, new, -, ho⟩
  by_cases hid : command.runId = runId
  · subst hid
    cases ho.get.symm.trans hget
    have hv := ho.fits.2.1
    exact ⟨new, ho.runs_self, by omega, fun he => by omega⟩
  · exact ⟨r, (ho.runs_ne hid).trans hget, hle, hsame⟩

theorem window_advances {complete : DelegatedRunCompleteCommand} {row run now : AgentRun}
    (hw : Window commands Advances VersionCurrent i complete row run now d) :
    Advances now (applyRun now (completedRun complete run)) := by
  obtain ⟨hf, h1, -, -, hb, h2, -, hv, h3, hsite, hnow, -, -⟩ := hw
  have hstart : SameSince row complete.runId _ :=
    ⟨row, hf.get, Nat.le_refl _, fun _ => rfl⟩
  obtain ⟨r, hr, -, hsame⟩ := relies_same (relies_same (relies_same hstart h1) h2) h3
  cases hr.symm.trans hnow
  obtain ⟨-, hactive, hversion, hsequence⟩ := runFound_row hf
  have hcurrent : now.stateVersion + 1 = run.stateVersion + 1 := by
    simp only [VersionCurrent, hb.run_eq, hb.turn_eq, hv] at hsite
    refine hsite rfl now ?_
    rw [Option.mem_def, ← hnow, ← hf.runId]
    rfl
  cases hsame (by omega)
  refine ⟨hactive, ?_, ?_⟩
  · simp only [applyRun, completedRun, concludeRun, hversion]
  · simp only [applyRun, completedRun, concludeRun, hsequence]
    omega

structure EventsNumbered (runId : String) (d : Database) : Prop where
  upTo : ∀ row, d.runs.get? runId = some row → ∀ event ∈ d.events.values,
    event.runId = some runId → ∃ n, event.runStateVersion = some n ∧ n ≤ row.stateVersion
  distinct : ∀ event ∈ d.events.values, ∀ other ∈ d.events.values, event.runId = some runId →
    other.runId = some runId → event.runStateVersion = other.runStateVersion → event = other

theorem Overwrites.eventsNumbered {command : DelegatedRunEventCommand} {ends : Bool} {d' : Database}
    {now new : AgentRun} (ho : Overwrites Advances command ends h d d' now new)
    (hn : EventsNumbered command.runId d) : EventsNumbered command.runId d' := by
  obtain ⟨added, -, hput, -, -, hversion⟩ := ho.event
  have hnext := ho.fits.2.1
  have hold : ∀ event ∈ d'.events.values, event = added ∨ event ∈ d.events.values := by
    intro event hmem
    rw [hput] at hmem
    exact Table.mem_values_put hmem
  have hbelow : ∀ event ∈ d.events.values, event.runId = some command.runId →
      event.runStateVersion ≠ added.runStateVersion := by
    intro event hmem hrun he
    obtain ⟨n, hv, hle⟩ := hn.upTo now ho.get event hmem hrun
    rw [hv, hversion] at he
    have := Option.some.inj he
    omega
  constructor
  · intro row hget event hmem hrun
    cases ho.runs_self.symm.trans hget
    rcases hold event hmem with rfl | hmem
    · exact ⟨_, hversion, Nat.le_refl _⟩
    · obtain ⟨n, hv, hle⟩ := hn.upTo now ho.get event hmem hrun
      exact ⟨n, hv, by omega⟩
  · intro event hmem other hmem' hrun hrun' he
    rcases hold event hmem with rfl | hmem <;> rcases hold other hmem' with rfl | hmem'
    · rfl
    · exact absurd he.symm (hbelow other hmem' hrun')
    · exact absurd he (hbelow event hmem hrun)
    · exact hn.distinct event hmem other hmem' hrun hrun' he

variable (commands) in
theorem safe_advances {runId : String} (hrun : OnRun commands runId) (i : ι) (d : Database) :
    Safe (Guarantee commands Advances) VersionCurrent i (Answers commands i) false ∅
      (progs commands i) d :=
  safe_prog hrun (fun _ _ h1 h2 h3 => ⟨h1, h2, h3⟩) (fun _ _ _ _ _ _ hw => window_advances hw) i d

def NextVersion (runId : String) (d d' : Database) : Prop :=
  ∃ now new, d.runs.get? runId = some now ∧ d'.runs.get? runId = some new ∧
    new.stateVersion = now.stateVersion + 1 ∧ now.eventSequence ≤ new.eventSequence

variable {db : Database} {p p' : Pool ι Database Row Site (Except StoreError Reply)}

/-- **No lost run update.** If every `complete` finds the version it has read,
the events of the run carry distinct versions in every reachable state, and
every step leaves the tables as they are or commits the next version of the run. -/
theorem no_lost_run_update {runId : String} (hrun : OnRun commands runId)
    (h0 : EventsNumbered runId db) (hp : (race commands VersionCurrent db).Reachable p) :
    EventsNumbered runId p.db ∧
    ∀ l p', (race commands VersionCurrent db).step p l p' →
      (p'.db = p.db ∧ p'.commits = p.commits) ∨ NextVersion runId p.db p'.db := by
  refine ⟨?_, fun l p' hst => ?_⟩
  · refine Pool.reachable_keeps (P := fun d _ => EventsNumbered runId d) answers_aborted
      (safe_advances commands hrun · db) h0 ?_ hp
    rintro i h d d' - hd ⟨command, now, new, hevent, ho⟩
    obtain ⟨command', hevent', rfl⟩ := hrun i
    cases hevent.symm.trans hevent'
    exact ho.eventsNumbered hd
  · have hsafe := Pool.reachable_safe answers_aborted (safe_advances commands hrun · db) hp
    rcases (Pool.sound answers_aborted hsafe hst.1 hst.2).2 with hsame | ⟨i, -, -, hg⟩
    · exact .inl hsame
    · obtain ⟨command, now, new, hevent, ho⟩ := hg
      obtain ⟨command', hevent', rfl⟩ := hrun i
      cases hevent.symm.trans hevent'
      exact .inr ⟨now, new, ho.get, ho.runs_self, ho.fits.2⟩

/-! ## A lost progress -/

instance (site : Site) (d : Database) : Decidable (VersionCurrent site d) :=
  match site with
  | .statement | .completeReadsTurn _ _ | .completeLocksRun _ none => .isTrue trivial
  | .completeLocksRun bundle (some turn) =>
    inferInstanceAs (Decidable (turn.stateVersion + 1 = bundle.turn.stateVersion →
      ∀ now ∈ d.runs.get? bundle.run.runId, now.stateVersion + 1 = bundle.run.stateVersion))

/-- A `complete` of the sample run at `version`, and a `progress` with sequence 5. -/
def completeOrProgress (version : Nat) (h : 1 ≤ version := by decide) : Bool → Generated × Command
  | true =>
    (sampleGenerated "complete", .complete (sampleComplete
      { sampleEvent "done" "run_1" none 5 with expectedStateVersion := version, version := h }
      "result"))
  | false =>
    (sampleGenerated "progress", .progress
      { sampleProgress (sampleEvent "step" "run_1" none 5) with
        sequence := 5, sequencePos := by decide })

def sampleVersion (d : Database) : Option (Nat × Nat) :=
  (d.runs.get? "run_1").map fun row => (row.stateVersion, row.eventSequence)

def eventVersions (d : Database) : List (String × Option Nat) :=
  d.events.values.map fun event => (event.eventId, event.runStateVersion)

/-- `complete` has read run and turn; `progress` commits; the last statement of
`complete` writes version 2 over version 2 and sequence 1 over sequence 5. -/
theorem overtaken_complete_loses_progress :
    ∃ p p', (clients (completeOrProgress 1) sampleRace).Reachable p ∧
      (clients (completeOrProgress 1) sampleRace).step p (.stmt true) p' ∧
      sampleVersion p.db = some (2, 5) ∧ sampleVersion p'.db = some (2, 1) ∧
      eventVersions p'.db = [("step", some 2), ("done", some 2)] := by
  have hrun : ((LTS.exec (Pool.next (.error .operationalError))
      (Pool.start sampleRace (progs (completeOrProgress 1)))
      (statements true 3 ++ statements false 3 ++ statements true 2)).bind fun p =>
        (Pool.next (.error .operationalError) p (.stmt true)).map fun p' =>
          ([sampleVersion p.db, sampleVersion p'.db], eventVersions p'.db)) =
      some ([some (2, 5), some (2, 1)], [("step", some 2), ("done", some 2)]) := by
    decide
  simp only [Option.bind_eq_some_iff, Option.map_eq_some_iff] at hrun
  obtain ⟨p, hp, p', hp', he⟩ := hrun
  obtain ⟨hversions, hevents⟩ := Prod.mk.inj he
  obtain ⟨hbefore, hafter⟩ := List.cons.inj hversions
  exact ⟨p, p', LTS.Reachable.exec (.init rfl) hp, hp', hbefore, (List.cons.inj hafter).1, hevents⟩

/-- `complete` looks for its event; `progress` commits; `complete` reads run and
turn, and both commits count. -/
theorem no_lost_run_update_progressFirst :
    ∃ p p', (race (completeOrProgress 2) VersionCurrent sampleRace).Reachable p ∧
      (race (completeOrProgress 2) VersionCurrent sampleRace).step p (.stmt true) p' ∧
      p'.commits = [true, false] ∧ EventsNumbered "run_1" p.db ∧ NextVersion "run_1" p.db p'.db := by
  have hrun : ((LTS.execGuarded (Pool.next (.error .operationalError))
      (fun p l => decide (Pool.Meets VersionCurrent p l))
      (Pool.start sampleRace (progs (completeOrProgress 2)))
      (statements true 1 ++ statements false 3 ++ statements true 4)).bind fun p =>
        (Pool.next (.error .operationalError) p (.stmt true)).map fun p' =>
          (decide (Pool.Meets VersionCurrent p (.stmt true)), [p.commits, p'.commits])) =
      some (true, [[false], [true, false]]) := by
    decide
  simp only [Option.bind_eq_some_iff, Option.map_eq_some_iff] at hrun
  obtain ⟨p, hp, p', hp', he⟩ := hrun
  obtain ⟨hmeets, hcommits⟩ := Prod.mk.inj he
  obtain ⟨hbefore, hafter⟩ := List.cons.inj hcommits
  have hafter := (List.cons.inj hafter).1
  have hreach : (race (completeOrProgress 2) VersionCurrent sampleRace).Reachable p :=
    LTS.Reachable.execGuarded (fun _ _ => of_decide_eq_true) (.init rfl) hp
  have hon : OnRun (completeOrProgress 2) "run_1" := by
    intro i
    cases i <;> exact ⟨_, rfl, rfl⟩
  have hnone : sampleRace.events.values = [] := by decide
  have hnumbered : EventsNumbered "run_1" sampleRace :=
    ⟨fun _ _ _ hmem => by simp [hnone] at hmem, fun _ hmem => by simp [hnone] at hmem⟩
  obtain ⟨hevents, hstep⟩ := no_lost_run_update hon hnumbered hreach
  have hst : (race (completeOrProgress 2) VersionCurrent sampleRace).step p (.stmt true) p' :=
    ⟨of_decide_eq_true hmeets, hp'⟩
  refine ⟨p, p', hreach, hst, hafter, hevents, (hstep _ _ hst).resolve_left fun hsame => ?_⟩
  rw [hsame.2, hbefore] at hafter
  cases hafter

end OpenIntentRouter.DelegatedRuns.Db
