import OpenIntentRouter.DelegatedRuns.DatabaseSerial

/-!
# Commands racing on one run

Any number of database calls, one statement at a time (`Core.Pool`). Every
call but `complete` reads the rows it writes under their locks; `complete`
reads run and turn before it takes a lock and compares the version of the turn
only.

* `Guarantee`: what a commit of a call does to run, turn, events and outbox,
  with the locks it holds while it commits;
* `Window`: what a `complete` has seen when it commits;
* `safe_prog`: every call keeps its guarantee, provided what `complete` writes
  over the run row at the end of its window `fits` that row.
-/
set_option linter.unusedSectionVars false

namespace OpenIntentRouter.DelegatedRuns.Db

open Core Schemas Repositories

/-! ## What a call commits -/

def concludes : Command → Bool
  | .start _ _ _ | .progress _ => false
  | .complete _ | .fail _ | .cancel _ | .timeout _ => true

structure Closes (turnId : String) (status : RunStatus) (h : Set Row) (d d' : Database) :
    Prop where
  locked : Row.turn turnId ∈ h
  turn : ∃ old new, d.turns.get? turnId = some old ∧ d'.turns = d.turns.put new ∧
    new.turnId = turnId ∧ new.stateVersion = old.stateVersion + 1
  outbox : ∃ entry, d.outbox.get? entry.outboxId = none ∧ d'.outbox = d.outbox.put entry ∧
    (status = .completed → entry.idempotencyKey = "turn.completed" ++ ":" ++ turnId)

/-- A commit of `command` that holds the locks `h`: `now` is the run row it
overwrites, `new` the one it writes. -/
structure Overwrites (fits : AgentRun → AgentRun → Prop) (command : DelegatedRunEventCommand)
    (ends : Bool) (h : Set Row) (d d' : Database) (now new : AgentRun) : Prop where
  locked : Row.run command.runId ∈ h
  get : d.runs.get? command.runId = some now
  put : d'.runs = d.runs.put new
  runId : new.runId = command.runId
  turnId : now.turnId = some command.turnId ∧ new.turnId = some command.turnId
  ends_eq : new.status.isTerminal = ends
  fits : fits now new
  event : ∃ event, d.events.get? event.eventId = none ∧ d'.events = d.events.put event ∧
    event.eventId = command.eventId ∧ event.runId = some command.runId ∧
    event.runStateVersion = some new.stateVersion
  rest : if ends then Closes command.turnId new.status h d d'
    else d'.turns = d.turns ∧ d'.outbox = d.outbox

variable {d' d : Database} {run now row new : AgentRun} {h : Set Row} {event : AgentEvent}
  {complete : DelegatedRunCompleteCommand} {gen : Generated} {ends : Bool} {runId turnId : String}
  {command : DelegatedRunEventCommand} {progress : DelegatedRunProgressCommand}
  {k : Option PlanModel → DbProg} {turn : CanonicalTurn} {eventType : AgentEventType}
  {timeout : DelegatedRunTimeoutCommand} {planRow : Option PlanModel}
  {bundle : TurnCompletionBundle}

section Guarantee

variable {ι : Type} {commands : ι → Generated × Command}
  {fits : AgentRun → AgentRun → Prop} {C : Site → Database → Prop}

variable (commands fits) in
/-- What the commits of worker `i` may do. -/
def Guarantee (i : ι) (h : Set Row) (d d' : Database) : Prop :=
  ∃ command now new, (commands i).2.event? = some command ∧
    Overwrites fits command (concludes (commands i).2) h d d' now new

theorem Overwrites.runs_ne (ho : Overwrites fits command ends h d d' now new)
    (hne : command.runId ≠ runId) : d'.runs.get? runId = d.runs.get? runId := by
  rw [ho.put, Table.get?_put_ne]
  rw [ho.runId]
  exact hne

theorem Overwrites.runs_self (ho : Overwrites fits command ends h d d' now new) :
    d'.runs.get? command.runId = some new := by
  rw [ho.put, ← ho.runId, Table.get?_put_self]

theorem Overwrites.turns_ne (ho : Overwrites fits command ends h d d' now new)
    (hne : command.turnId ≠ turnId) : d'.turns.get? turnId = d.turns.get? turnId := by
  cases ends with
  | false => rw [ho.rest.1]
  | true =>
    obtain ⟨old, new, -, hput, hid, -⟩ := ho.rest.turn
    rw [hput, Table.get?_put_ne]
    rw [hid]
    exact hne

theorem relies_run [DecidableEq ι] {i : ι} (hk : Row.run runId ∈ h)
    (hr : Relies (Guarantee commands fits) i h d d') : d'.runs.get? runId = d.runs.get? runId := by
  refine hr.keeps (P := fun d' => d'.runs.get? runId = d.runs.get? runId) ?_ rfl
  rintro j - h' hdis d1 d2 hd ⟨command, now, new, -, ho⟩
  rw [← hd]
  apply ho.runs_ne
  rintro rfl
  exact Set.disjoint_left.1 hdis hk ho.locked

theorem relies_turn [DecidableEq ι] {i : ι} (hk : Row.turn turnId ∈ h)
    (hr : Relies (Guarantee commands fits) i h d d') :
    d'.turns.get? turnId = d.turns.get? turnId := by
  refine hr.keeps (P := fun d' => d'.turns.get? turnId = d.turns.get? turnId) ?_ rfl
  rintro j - h' hdis d1 d2 hd ⟨command, now, new, -, ho⟩
  rw [← hd]
  cases he : concludes (commands j).2 with
  | false =>
    have hrest := ho.rest
    simp only [he, Bool.false_eq_true, if_false] at hrest
    rw [hrest.1]
  | true =>
    have hrest := ho.rest
    simp only [he, if_true] at hrest
    apply ho.turns_ne
    rintro rfl
    exact Set.disjoint_left.1 hdis hk hrest.locked

theorem relies_event [DecidableEq ι] {i : ι} {eventId : String}
    (he : d.events.get? eventId = some event) (hr : Relies (Guarantee commands fits) i h d d') :
    d'.events.get? eventId = some event := by
  refine hr.keeps (P := fun d' => d'.events.get? eventId = some event) ?_ he
  rintro j - h' - d1 d2 hd ⟨command, now, new, -, ho⟩
  obtain ⟨event', hnone, hput, -⟩ := ho.event
  rw [hput, Table.get?_put_ne]
  · exact hd
  · rintro rfl
    rw [hnone] at hd
    cases hd

variable [DecidableEq ι]

/-! ## Replies -/

def Answered (command : DelegatedRunEventCommand) (com : Bool) (r : Except StoreError Reply)
    (d : Database) : Prop :=
  ∀ reply, r = .ok reply → (com = true ∧ reply.duplicate = false) ∨ (reply.duplicate = true ∧
    ∃ event, d.events.get? command.eventId = some event ∧ event.runId = some command.runId)

theorem answered_error (command : DelegatedRunEventCommand) (com : Bool) (e : StoreError)
    (d : Database) : Answered command com (.error e) d := by
  intro reply h
  cases h

variable (commands fits C) in
/-- Worker `i` at this program keeps its guarantee and answers as `Answered` says. -/
abbrev Keeps (i : ι) (command : DelegatedRunEventCommand) : Bool → Set Row → DbProg → Database →
    Prop :=
  Safe (Guarantee commands fits) C i (Answered command)

variable {i : ι} {command : DelegatedRunEventCommand} {com : Bool} {h : Set Row} {d : Database}

theorem keeps_error (e : StoreError) : Keeps commands fits C i command com h (.ret (.error e)) d :=
  fun _ _ => answered_error command com e _

theorem keeps_attempt {β : Type} {x : Except StoreError β} {k : β → DbProg}
    (hk : ∀ b, x = .ok b → Keeps commands fits C i command com h (k b) d) :
    Keeps commands fits C i command com h (attempt x k) d := by
  cases x with
  | error e => exact keeps_error e
  | ok b => exact hk b rfl

def Repeats : DbProg → Prop
  | .ret r => ∀ reply, r = .ok reply → reply.duplicate = true
  | .select _ f => ∀ d, Repeats (f d)
  | .lock _ _ f => ∀ d, Repeats (f d)
  | .commit _ _ _ => False

theorem repeats_attempt {β : Type} {x : Except StoreError β} {k : β → DbProg}
    (hk : ∀ b, Repeats (k b)) : Repeats (attempt x k) := by
  cases x with
  | error e =>
    intro reply h
    cases h
  | ok b => exact hk b

theorem repeats_error (e : StoreError) : Repeats (.ret (.error e)) := by
  intro reply h
  cases h

theorem repeats_ok {reply : Reply} (h : reply.duplicate = true) : Repeats (.ret (.ok reply)) := by
  intro r hr
  cases hr
  exact h

theorem keeps_repeat {q : DbProg} (hq : Repeats q) (he : d.events.get? command.eventId = some event)
    (hrun : event.runId = some command.runId) : Keeps commands fits C i command com h q d := by
  induction q generalizing d h with
  | ret a =>
    intro d' hr reply ha
    exact .inr ⟨hq reply ha, event, relies_event he hr, hrun⟩
  | select n f ih => exact fun d' hr _ => ih d' (hq d') (relies_event he hr)
  | lock n k f ih => exact fun d' hr _ => ih d' (hq d') (relies_event he hr)
  | commit w done conflicted => cases hq

theorem runId_of_sameIdentity (hs : sameIdentity event command = true) :
    event.runId = some command.runId := by
  simp only [sameIdentity, Bool.and_eq_true, decide_eq_true_eq] at hs
  exact hs.1.1.1.1.1.1

theorem runId_of_terminalEvent {message : String} {status : RunStatus} {payload : JsonDict}
    {u : Unit} (hv : validateTerminalEvent message eventType status payload event command = .ok u) :
    event.runId = some command.runId := by
  unfold validateTerminalEvent at hv
  split at hv
  · cases hv
  · next hs => exact runId_of_sameIdentity (by simpa using hs)

theorem runId_of_duplicateEvent {u : Unit} (hv : validateDuplicateEvent event progress = .ok u) :
    event.runId = some progress.runId := by
  unfold validateDuplicateEvent at hv
  split at hv
  · next hs =>
    simp only [Bool.and_eq_true, decide_eq_true_eq] at hs
    exact hs.1.1.1.1.1.1.1.1.1.1
  · cases hv

theorem runId_of_maintenanceEvent {o : Option AgentRun}
    (hv : validateMaintenanceEvent event timeout o = .ok run) :
    event.runId = some timeout.runId := by
  unfold validateMaintenanceEvent at hv
  split at hv
  · cases hv
  · split at hv
    · next hs =>
      simp only [Bool.and_eq_true] at hs
      exact runId_of_sameIdentity hs.1.1.1.1.1.1.1.1.1
    · cases hv

theorem progress_status_active (progress : DelegatedRunProgressCommand) :
    progress.status.isTerminal = false := by
  rw [progress.eventStatus]
  split <;> rfl

/-! ## Calls that lock what they write -/

theorem keeps_concludePlanStep {status : PlanStatus} {message : String} {eventId : String}
    {time : Instant} (hk : ∀ row h' d', h ⊆ h' → Relies (Guarantee commands fits) i h d d' →
      Keeps commands fits C i command com h' (k row) d') :
    Keeps commands fits C i command com h
      (concludePlanStep status message run eventId time k) d := by
  unfold concludePlanStep
  split
  · split
    · exact hk none h d (Set.Subset.refl h) .refl
    · intro d1 h1 _ d2 h2 _
      dsimp only
      split
      · exact hk _ _ _ (Set.subset_insert _ _)
          (h1.trans (h2.mono (Set.subset_insert _ _)))
      · exact keeps_error _
  · exact hk none h d (Set.Subset.refl h) .refl

theorem keeps_projectClarification
    (hk : ∀ row h' d', h ⊆ h' → Relies (Guarantee commands fits) i h d d' →
      Keeps commands fits C i command com h' (k row) d') :
    Keeps commands fits C i command com h (projectClarification progress k) d := by
  unfold projectClarification
  split
  · exact hk none h d (Set.Subset.refl h) .refl
  · split
    · split
      · exact keeps_error _
      · intro d1 h1 _ d2 h2 _
        dsimp only
        split
        · split
          · refine hk _ _ _ ?_ (h1.trans (h2.mono (Set.subset_insert _ _)))
            exact (Set.subset_insert _ _).trans (Set.subset_insert _ _)
          · exact keeps_error _
        · exact keeps_error _
    · exact keeps_error _

theorem keeps_commit {changes : Changes} {reply : Reply} {conflicted : DbProg}
    (hg : ∀ d', Relies (Guarantee commands fits) i h d d' → d'.Fresh changes →
      Guarantee commands fits i h d' (d'.apply changes))
    (hreply : reply.duplicate = false)
    (hc : ∀ d', Relies (Guarantee commands fits) i h d d' →
      Keeps commands fits C i command com ∅ conflicted d') :
    Keeps commands fits C i command com h
      (.commit (Database.commit changes) (.ret (.ok reply)) conflicted) d := by
  intro d' hr
  cases hw : Database.commit changes d' with
  | none => exact hc d' hr
  | some d'' =>
    obtain ⟨hfresh, rfl⟩ := Database.commit_eq_some.1 hw
    refine ⟨hg d' hr hfresh, ?_⟩
    intro d2 _ r hok
    cases hok
    exact .inl ⟨rfl, hreply⟩

theorem runFound_of_relies (hf : RunFound command d row run) (hk : Row.run command.runId ∈ h)
    (hr : Relies (Guarantee commands fits) i h d d') : RunFound command d' row run :=
  ⟨(relies_run hk hr).trans hf.get, hf.reads, hf.accepts⟩

theorem runFound_row (hf : RunFound command d row run) :
    row.turnId = some command.turnId ∧ row.status.isTerminal = false ∧
      run.stateVersion = row.stateVersion ∧ run.eventSequence = row.eventSequence := by
  have he := AgentRun.validate_eq hf.reads
  have ht := hf.accepts.turn
  have ha := hf.accepts.active
  rw [he] at ht ha
  exact ⟨ht, ha, by rw [he], by rw [he]⟩

section Locking

variable (hfits : ∀ now new : AgentRun, now.status.isTerminal = false →
  new.stateVersion = now.stateVersion + 1 → now.eventSequence ≤ new.eventSequence → fits now new)
include hfits

/-- The commit of a `fail`, `cancel` or `timeout` on the rows it has read under
their locks. -/
theorem guarantee_terminal {h' : Set Row} {status : RunStatus} {turnStatus : TurnStatus}
    {error : Option JsonDict} {final : Option TurnSemanticResponse} {time eventTime : Instant}
    {eventStatus : RunStatus} {payload : JsonDict} {outbox : TurnOutboxEvent}
    (hi : (commands i).2.event? = some command) (hends : concludes (commands i).2 = true)
    (hrun : Row.run command.runId ∈ h) (hturn : Row.turn command.turnId ∈ h) (hsub : h ⊆ h')
    (hf : RunFound command d row run) (ht : d.turns.get? command.turnId = some turn)
    (hr : Relies (Guarantee commands fits) i h d d') (hs : status.isTerminal = true)
    (hne : status ≠ .completed)
    (hfresh : d'.Fresh (terminalChanges { concludeRun status command time row with error }
      { concludeTurn turnStatus time turn with finalResponse := final } planRow
      (terminalEvent run command command.runId eventType eventStatus payload eventTime) outbox)) :
    Guarantee commands fits i h' d'
      (d'.apply (terminalChanges { concludeRun status command time row with error }
        { concludeTurn turnStatus time turn with finalResponse := final } planRow
        (terminalEvent run command command.runId eventType eventStatus payload eventTime)
        outbox)) := by
  have hf' := runFound_of_relies hf hrun hr
  obtain ⟨hturnId, hactive, hversion, -⟩ := runFound_row hf'
  have htid : turn.turnId = command.turnId := Table.key_of_get? ht
  refine ⟨command, row, { concludeRun status command time row with error }, hi, ?_⟩
  rw [hends]
  exact
    { locked := hsub hrun
      get := hf'.get
      put := rfl
      runId := hf.rowId
      turnId := ⟨hturnId, hturnId⟩
      ends_eq := hs
      fits := hfits _ _ hactive rfl (Nat.le_succ _)
      event := ⟨_, hfresh.event _ rfl, rfl, rfl, rfl, by
        simp only [terminalEvent, concludeRun, hversion]⟩
      rest :=
        { locked := hsub hturn
          turn := ⟨turn, _, (relies_turn hturn hr).trans ht, rfl, htid, rfl⟩
          outbox := ⟨_, (hfresh.outbox _ rfl).1, rfl, fun hc => absurd hc hne⟩ } }

theorem keeps_fail {fail : DelegatedRunFailCommand} (hi : (commands i).2 = .fail fail) :
    Keeps commands fits C i fail com h (Db.fail fail gen) d := by
  have hevent : (commands i).2.event? = some fail := by rw [hi]; rfl
  have hdup : ∀ {existing d' h'}, d'.events.get? fail.eventId = some existing →
      Keeps commands fits C i fail com h' (failDuplicate existing fail)
        d' := by
    intro existing d' h' he
    refine keeps_attempt fun _ hv => keeps_repeat ?_ he (runId_of_terminalEvent hv)
    intro d1 d2
    dsimp only
    split
    · exact repeats_attempt fun _ => repeats_attempt fun _ => repeats_ok rfl
    · exact repeats_error _
  intro d1 _ _
  dsimp only
  split
  · next existing hev => exact hdup hev
  · intro d2 _ _
    refine keeps_attempt fun _ hrow => keeps_attempt fun run hrun => ?_
    obtain ⟨row, hf, -⟩ := runFound_of hrow hrun
    intro d3 hr3 _
    refine keeps_attempt fun _ hturnRow => keeps_attempt fun turn hturn => ?_
    have ht := turnFound_of hturnRow hturn
    rw [hf.get, ht.get]
    refine keeps_concludePlanStep fun planRow h' d4 hsub hr4 => ?_
    refine keeps_attempt fun _ _ => keeps_attempt fun _ _ => keeps_commit ?_ rfl ?_
    · intro d5 hr5 hfresh
      exact guarantee_terminal hfits hevent (by rw [hi]; rfl) (.inr (.inl rfl)) (.inl rfl) hsub
        (runFound_of_relies hf (Set.mem_insert _ _) hr3) ht.get (hr4.trans (Relies.mono hsub hr5))
        rfl (by decide) hfresh
    · intro d5 _ d6 _ _
      dsimp only
      split
      · exact keeps_error _
      · next existing hev => exact hdup hev

theorem keeps_cancel {cancel : DelegatedRunCancelCommand} (hi : (commands i).2 = .cancel cancel) :
    Keeps commands fits C i cancel com h (Db.cancel cancel gen) d := by
  have hevent : (commands i).2.event? = some cancel := by rw [hi]; rfl
  intro d1 _ _
  dsimp only
  split
  · next existing hev =>
    refine keeps_attempt fun _ hv => keeps_repeat ?_ hev (runId_of_terminalEvent hv)
    intro d2 d3
    dsimp only
    split
    · exact repeats_attempt fun _ => repeats_attempt fun _ => repeats_attempt fun _ =>
        repeats_ok rfl
    · exact repeats_error _
  · intro d2 _ _
    refine keeps_attempt fun _ hrow => keeps_attempt fun run hrun => ?_
    obtain ⟨row, hf, -⟩ := runFound_of hrow hrun
    intro d3 hr3 _
    refine keeps_attempt fun _ hturnRow => keeps_attempt fun turn hturn => ?_
    have ht := turnFound_of hturnRow hturn
    rw [hf.get, ht.get]
    refine keeps_concludePlanStep fun planRow h' d4 hsub hr4 => ?_
    refine keeps_attempt fun _ _ => keeps_commit ?_ rfl fun _ _ => keeps_error _
    intro d5 hr5 hfresh
    exact guarantee_terminal hfits hevent (by rw [hi]; rfl) (.inr (.inl rfl)) (.inl rfl) hsub
      (runFound_of_relies hf (Set.mem_insert _ _) hr3) ht.get (hr4.trans (Relies.mono hsub hr5))
      rfl (by decide) hfresh

theorem keeps_timeout (hi : (commands i).2 = .timeout timeout) :
    Keeps commands fits C i timeout com h (Db.timeout timeout gen) d := by
  have hevent : (commands i).2.event? = some timeout := by rw [hi]; rfl
  intro d1 _ _
  dsimp only
  split
  · next existing hev =>
    intro d2 hr2 _
    refine keeps_attempt fun _ _ => keeps_attempt fun _ hv => ?_
    exact keeps_repeat (repeats_ok rfl) (relies_event hev hr2) (runId_of_maintenanceEvent hv)
  · intro d2 _ _
    refine keeps_attempt fun _ hrow => keeps_attempt fun run hrun => ?_
    obtain ⟨row, hf, -⟩ := runFound_of hrow hrun
    intro d3 hr3 _
    dsimp only
    split
    · exact keeps_error _
    · next turn ht =>
      have ht := (Option.filter_eq_some_iff.1 ht).1
      rw [hf.get]
      refine keeps_concludePlanStep fun planRow h' d4 hsub hr4 => ?_
      refine keeps_attempt fun _ _ => keeps_commit ?_ rfl fun _ _ => keeps_error _
      intro d5 hr5 hfresh
      exact guarantee_terminal hfits hevent (by rw [hi]; rfl) (.inr (.inl rfl)) (.inl rfl) hsub
        (runFound_of_relies hf (Set.mem_insert _ _) hr3) ht (hr4.trans (Relies.mono hsub hr5))
        rfl (by decide) hfresh

theorem keeps_progress (hi : (commands i).2 = .progress progress) :
    Keeps commands fits C i progress com h (Db.progress progress) d := by
  have hevent : (commands i).2.event? = some progress := by
    rw [hi]; rfl
  refine keeps_attempt fun _ _ => ?_
  intro d1 _ _
  dsimp only
  split
  · next existing hev =>
    refine keeps_attempt fun _ hv => keeps_repeat ?_ hev (runId_of_duplicateEvent hv)
    intro d2
    dsimp only
    split
    · exact repeats_error _
    · exact repeats_attempt fun _ => repeats_ok rfl
  · intro d2 _ _
    refine keeps_attempt fun _ hrow => keeps_attempt fun run hrun => ?_
    obtain ⟨row, hf, hseq⟩ := runFound_of hrow hrun
    rw [hf.get]
    refine keeps_projectClarification fun planRow h' d3 hsub hr3 => ?_
    refine keeps_attempt fun _ _ => keeps_commit ?_ rfl fun _ _ => keeps_error _
    intro d4 hr4 hfresh
    have hrow := runFound_of_relies hf (Set.mem_insert _ _) (hr3.trans (Relies.mono hsub hr4))
    obtain ⟨hturnId, hactive, hversion, hs⟩ := runFound_row hrow
    have hstatus := progress_status_active progress
    simp only [decide_eq_false_iff_not, not_le] at hseq
    refine ⟨_, row, progressRun progress row, hevent, ?_⟩
    rw [hi]
    exact
      { locked := hsub (.inl rfl)
        get := hrow.get
        put := rfl
        runId := hrow.rowId
        turnId := ⟨hturnId, hturnId⟩
        ends_eq := hstatus
        fits := hfits _ _ hactive rfl (by simp only [progressRun]; omega)
        event := ⟨_, hfresh.event _ rfl, rfl, rfl, rfl, by
          simp only [progressEvent, progressRun, hversion]⟩
        rest := ⟨rfl, rfl⟩ }

end Locking

/-! ## Complete -/

def OnTurn (runId turnId : String) (d : Database) : Prop :=
  ∃ row, d.runs.get? runId = some row ∧ row.turnId = some turnId

theorem Overwrites.turnId_eq (ho : Overwrites fits command ends h d d' now new)
    (hget : d.runs.get? command.runId = some row) (hrow : row.turnId = some turnId) :
    command.turnId = turnId := by
  have hid := ho.turnId.1
  cases ho.get.symm.trans hget
  exact Option.some.inj (hid.symm.trans hrow)

theorem relies_onTurn (ht : OnTurn runId turnId d) (hr : Relies (Guarantee commands fits) i h d d') :
    OnTurn runId turnId d' := by
  refine hr.keeps (P := OnTurn runId turnId) ?_ ht
  rintro j - h' - d1 d2 ⟨row, hget, hrow⟩ ⟨command, now, new, -, ho⟩
  by_cases hid : command.runId = runId
  · subst hid
    exact ⟨new, ho.runs_self, by rw [← ho.turnId_eq hget hrow]; exact ho.turnId.2⟩
  · exact ⟨row, (ho.runs_ne hid).trans hget, hrow⟩

variable (commands fits C) in
/-- The databases a `complete` that commits has seen: it reads the run row `row`
and then the turn, locks the turn at the version it has read and then the run
row, by now `now`, and commits on `d` its turn's only `turn.completed` entry. -/
inductive Window (i : ι) (command : DelegatedRunCompleteCommand) (row run now : AgentRun)
    (d : Database) : Prop where
  | intro {readRun readTurn lockTurn lockRun : Database} {turn turnNow : CanonicalTurn}
      {plan : Option Plan} {hex : String} {bundle : TurnCompletionBundle} :
    RunFound command readRun row run →
    Relies (Guarantee commands fits) i ∅ readRun readTurn →
    C (.completeReadsTurn command (some row)) readTurn →
    readTurn.turns.get? command.turnId = some turn →
    BundleOf command run turn plan hex bundle →
    Relies (Guarantee commands fits) i ∅ readTurn lockTurn →
    lockTurn.turns.get? command.turnId = some turnNow →
    turnNow.stateVersion = turn.stateVersion →
    Relies (Guarantee commands fits) i {.turn command.turnId} lockTurn lockRun →
    C (.completeLocksRun bundle (some turnNow)) lockRun →
    lockRun.runs.get? command.runId = some now →
    Relies (Guarantee commands fits) i {.run command.runId, .turn command.turnId} lockRun d →
    (∀ other ∈ d.outbox.values,
      other.idempotencyKey ≠ "turn.completed" ++ ":" ++ command.turnId) →
    Window i command row run now d

theorem keeps_completeDuplicate {absent : DbProg}
    (habsent : ∀ d', Relies (Guarantee commands fits) i h d d' →
      Keeps commands fits C i complete com h absent d') :
    Keeps commands fits C i complete com h
      (completeDuplicate complete absent) d := by
  intro d1 hr1 _
  dsimp only
  split
  · exact habsent d1 hr1
  · next event he =>
    refine keeps_attempt fun _ hv => keeps_repeat ?_ he (runId_of_terminalEvent hv)
    intro d2 d3 d4
    dsimp only
    split
    · exact repeats_attempt fun _ => repeats_attempt fun _ => repeats_attempt fun _ =>
        repeats_attempt fun _ => repeats_ok rfl
    · exact repeats_error _

theorem keeps_readPlan {k : Option Plan → DbProg}
    (hk : ∀ plan d', Relies (Guarantee commands fits) i h d d' →
      Keeps commands fits C i command com h (k plan) d') :
    Keeps commands fits C i command com h (readPlan complete k) d := by
  unfold readPlan
  split
  · exact hk none d .refl
  · split
    · exact hk none d .refl
    · intro d1 h1 _
      dsimp only
      split
      · exact keeps_error _
      · intro d2 h2 _
        exact keeps_attempt fun plan _ => hk _ _ (h1.trans h2)

theorem keeps_lockPlan {plan : Option Plan}
    (hk : ∀ row h' d', h ⊆ h' → Relies (Guarantee commands fits) i h d d' →
      Keeps commands fits C i command com h' (k row) d') :
    Keeps commands fits C i command com h (lockPlan plan k) d := by
  unfold lockPlan
  split
  · exact hk none h d (Set.Subset.refl h) .refl
  · intro d1 h1 _
    dsimp only
    split
    · exact keeps_error _
    · split
      · exact keeps_error _
      · split
        · exact keeps_error _
        · exact hk _ _ _ (Set.subset_insert _ _) h1

theorem coordinatorCheck_ok {turnRow : Option CanonicalTurn} {runRow : Option AgentRun}
    (hc : coordinatorCheck bundle turnRow runRow = .ok (turn, run)) :
    turnRow = some turn ∧ runRow = some run ∧ turn.stateVersion + 1 = bundle.turn.stateVersion := by
  unfold coordinatorCheck at hc
  split at hc
  · split at hc
    · cases hc
    · next hno =>
      cases hc
      simp only [ne_eq, Bool.or_eq_true, decide_eq_true_eq, not_or, not_not] at hno
      exact ⟨rfl, rfl, hno.1.1.2⟩
  · cases hc

/-- The run row when a `complete` commits. -/
theorem Window.get (hw : Window commands fits C i complete row run now d) :
    d.runs.get? complete.runId = some now ∧ now.turnId = some complete.turnId := by
  obtain ⟨hf, h1, -, -, -, h2, -, -, h3, -, hnow, h4, -⟩ := hw
  have hget := (relies_run (.inl rfl) h4).trans hnow
  have hon : OnTurn complete.runId complete.turnId _ := ⟨row, hf.get, (runFound_row hf).1⟩
  obtain ⟨r, hr, ht⟩ :=
    relies_onTurn (relies_onTurn (relies_onTurn (relies_onTurn hon h1) h2) h3) h4
  cases hget.symm.trans hr
  exact ⟨hget, ht⟩

theorem Window.reads (hw : Window commands fits C i complete row run now d) :
    run.runId = complete.runId ∧ run.turnId = some complete.turnId := by
  obtain ⟨hf, -⟩ := hw
  exact ⟨hf.runId, hf.accepts.turn⟩

theorem guarantee_complete {turnNow : CanonicalTurn} {plan : Option Plan}
    (hi : (commands i).2 = .complete complete) (hb : BundleOf complete run turn plan gen.hex bundle)
    (hw : Window commands fits C i complete row run now d)
    (hfits : fits now (applyRun now (completedRun complete run)))
    (ht : d.turns.get? complete.turnId = some turnNow) (hid : turn.turnId = complete.turnId)
    (hv : turnNow.stateVersion = turn.stateVersion) (hrun : Row.run complete.runId ∈ h)
    (hturn : Row.turn complete.turnId ∈ h)
    (hfresh : d.Fresh (bundleChanges bundle turnNow now planRow)) :
    Guarantee commands fits i h d (d.apply (bundleChanges bundle turnNow now planRow)) := by
  obtain ⟨hget, hturnId⟩ := hw.get
  obtain ⟨hrunId, hrunTurn⟩ := hw.reads
  have hnowId : now.runId = complete.runId := Table.key_of_get? hget
  have hturnNowId : turnNow.turnId = complete.turnId := Table.key_of_get? ht
  refine ⟨_, now, applyRun now bundle.run, by rw [hi]; rfl, ?_⟩
  rw [hb.run_eq, hi]
  exact
    { locked := hrun
      get := hget
      put := by simp only [Database.apply, bundleChanges, hb.run_eq, Table.putOption]
      runId := hnowId
      turnId := ⟨hturnId, hrunTurn⟩
      ends_eq := rfl
      fits := hfits
      event := by
        refine ⟨bundle.event, hfresh.event _ rfl, rfl, ?_⟩
        rw [hb.event_eq, ← hrunId]
        exact ⟨rfl, rfl, rfl⟩
      rest :=
        { locked := hturn
          turn := by
            refine ⟨turnNow, applyTurn turnNow bundle.turn, ht, rfl, hturnNowId, ?_⟩
            rw [hb.turn_eq, hv]
            rfl
          outbox := by
            refine ⟨bundle.outbox, (hfresh.outbox _ rfl).1, rfl, fun _ => ?_⟩
            rw [hb.outbox_eq, ← hid]
            rfl } }

theorem keeps_complete (hi : (commands i).2 = .complete complete)
    (hfits : ∀ row run now d, Window commands fits C i complete row run now d →
      fits now (applyRun now (completedRun complete run))) :
    Keeps commands fits C i complete com ∅ (Db.complete complete gen)
      d := by
  refine keeps_completeDuplicate fun _ _ => ?_
  intro d1 _ _ d2 hr2 hc2
  refine keeps_attempt fun _ hrow => keeps_attempt fun run hrun => ?_
  obtain ⟨row, hf, -⟩ := runFound_of hrow hrun
  rw [hf.get] at hc2
  split
  · exact keeps_error _
  next turn ht =>
  refine keeps_attempt fun turn' hturn => keeps_readPlan fun plan d3 hr3 => ?_
  cases CanonicalTurn.validate_eq hturn
  refine keeps_attempt fun bundle hb => keeps_attempt fun _ _ => ?_
  have hbundle := bundleOf hb
  have hrunId : bundle.run.runId = complete.runId := by
    rw [hbundle.run_eq]
    exact hf.runId
  have hturnId : bundle.turn.turnId = complete.turnId := by
    have hkey : turn.turnId = complete.turnId := Table.key_of_get? ht
    rw [hbundle.turn_eq]
    exact hkey
  rw [hrunId, hturnId]
  intro d4 hr4 _ d5 hr5 hc5
  refine keeps_attempt fun (turnNow, now) hcheck => keeps_lockPlan fun planRow h' d6 hsub hr6 => ?_
  obtain ⟨hturnNow, hnow, hversion⟩ := coordinatorCheck_ok hcheck
  have htv : turnNow.stateVersion = turn.stateVersion := by
    rw [hbundle.turn_eq] at hversion
    exact Nat.succ.inj hversion
  refine keeps_commit ?_ rfl fun _ _ => ?_
  · intro d7 hr7 hfresh
    have hheld := hr6.trans (Relies.mono hsub hr7)
    have hwin : Window commands fits C i complete row run now d7 := by
      refine .intro hf hr2 hc2 ht hbundle (hr3.trans hr4) hturnNow htv ?_ ?_ hnow ?_ ?_
      · exact Relies.mono (fun _ hk => by simpa using hk) hr5
      · rw [← hturnNow]
        exact hc5
      · exact Relies.mono (fun _ hk => by simpa using hk) hheld
      · intro other hother
        have hkey := (hfresh.outbox _ rfl).2 other hother
        rw [hbundle.outbox_eq] at hkey
        have hid : turn.turnId = complete.turnId := Table.key_of_get? ht
        simpa only [completionOutbox, turnOutbox, hid] using hkey
    have hturn7 := (relies_turn (.inr (.inl rfl)) hheld).trans
      ((relies_turn (.inl rfl) hr5).trans hturnNow)
    exact guarantee_complete hi hbundle hwin (hfits _ _ _ _ hwin) hturn7
      (Table.key_of_get? ht) htv (hsub (.inl rfl)) (hsub (.inr (.inl rfl))) hfresh
  · exact keeps_completeDuplicate fun _ _ => keeps_error _

/-! ## Every call -/

variable (commands) in
def OnRun (runId : String) : Prop :=
  ∀ i, ∃ command, (commands i).2.event? = some command ∧ command.runId = runId

variable (commands) in
/-- Worker `i` answers as `Answered` says. -/
def Answers (i : ι) (com : Bool) (r : Except StoreError Reply) (d : Database) : Prop :=
  ∀ command, (commands i).2.event? = some command → Answered command com r d

variable (commands) in
def progs (i : ι) : DbProg := prog (commands i).1 (commands i).2

theorem safe_prog (hrun : OnRun commands runId)
    (hfits : ∀ now new : AgentRun, now.status.isTerminal = false →
      new.stateVersion = now.stateVersion + 1 → now.eventSequence ≤ new.eventSequence →
      fits now new)
    (hcomplete : ∀ i complete row run now d, Window commands fits C i complete row run now d →
      fits now (applyRun now (completedRun complete run))) (i : ι) (d : Database) :
    Safe (Guarantee commands fits) C i (Answers commands i) false ∅ (progs commands i) d := by
  obtain ⟨command, hevent, -⟩ := hrun i
  have hkeeps : Keeps commands fits C i command false ∅ (progs commands i) d := by
    unfold progs
    cases hi : (commands i).2 with
    | start start hex key =>
      rw [hi] at hevent
      cases hevent
    | progress progress =>
      rw [hi] at hevent
      cases hevent
      exact keeps_progress hfits hi
    | complete complete =>
      rw [hi] at hevent
      cases hevent
      exact keeps_complete hi (hcomplete i complete)
    | fail fail =>
      rw [hi] at hevent
      cases hevent
      exact keeps_fail hfits hi
    | cancel cancel =>
      rw [hi] at hevent
      cases hevent
      exact keeps_cancel hfits hi
    | timeout timeout =>
      rw [hi] at hevent
      cases hevent
      exact keeps_timeout hfits hi
  refine hkeeps.weaken fun com r d' h command' h' => ?_
  cases hevent.symm.trans h'
  exact h

theorem answers_aborted (i : ι) (com : Bool) (d : Database) :
    Answers commands i com (.error .operationalError) d :=
  fun command _ => answered_error command com _ d

variable (commands) in
/-- The calls from `db`, in any order of their statements. -/
def clients (db : Database) :
    LTS (Pool ι Database Row Site (Except StoreError Reply)) (Pool.Label ι) :=
  Pool.system (.error .operationalError) db (progs commands)

variable (commands C) in
/-- The calls from `db`, as long as their statements meet `C`. -/
def race (db : Database) : LTS (Pool ι Database Row Site (Except StoreError Reply)) (Pool.Label ι) :=
  (clients commands db).guarded (Pool.Meets C)

end Guarantee

def sampleRace : Database :=
  execAll sampleDatabase [(sampleGenerated "start", .start (sampleStart none) "1" "key")]

/-- The next `n` statements of worker `i`. -/
def statements {ι : Type} (i : ι) (n : Nat) : List (Pool.Label ι) := List.replicate n (.stmt i)

end OpenIntentRouter.DelegatedRuns.Db
