import OpenIntentRouter.Formation.Serial

/-!
# Turns and the jobs that list them

Every captured turn stays; it waits, or one range job lists it and has claimed
it; it is formed when that job has completed. Both repositories of
`app/repositories/memory_formation.py` take the same moves (`Move`), and a move
keeps the partition (`Partition`). That a new range job never meets an old one
under its key is an argument about texts: the first turn of the old range would
be read off the key, and that turn waits no more.

A run starts with empty tables and takes the calls in any order and with any
arguments that their callers give (`Admissible`): captured turns are pending and
unclaimed, their ids hold no unit separator, structured jobs have a key of their
own and name no turn, a drawn job id is new, every policy version holds as many
separators as the others, and the digest, a parameter, tells the texts of the
ranges apart (`CollisionFree`).

Results:

* `Moves`: what the calls of both repositories do;
* `Partition.moves`: the invariant;
* `oldest_take`, `Appended.full`: the job of a full window lists the oldest
  waiting turns by `(completed_at, turn_id)`;
* `turns_partitioned`: the runs of both repositories.
-/
namespace OpenIntentRouter.Formation

open Core Schemas Repositories.Formation

/-! ## Keys -/

/-- Texts around a separator are recovered if the second parts hold it equally often. -/
theorem cut_unique {c : Char} {x x' y y' : List Char} (h : x ++ c :: y = x' ++ c :: y')
    (hcount : y.count c = y'.count c) : x = x' ∧ y = y' := by
  rcases List.append_eq_append_iff.1 h with ⟨a, hx, hy⟩ | ⟨a, hx, hy⟩
  · cases a with
    | nil =>
      simp only [List.append_nil, List.nil_append, List.cons.injEq, true_and] at hx hy
      exact ⟨hx.symm, hy⟩
    | cons b a =>
      simp only [List.cons_append, List.cons.injEq] at hy
      have hlen := congrArg (List.count c) hy.2
      rw [List.count_append, List.count_cons_self] at hlen
      omega
  · cases a with
    | nil =>
      simp only [List.append_nil, List.nil_append, List.cons.injEq, true_and] at hx hy
      exact ⟨hx, hy.symm⟩
    | cons b a =>
      simp only [List.cons_append, List.cons.injEq] at hy
      have hlen := congrArg (List.count c) hy.2
      rw [List.count_append, List.count_cons_self] at hlen
      omega

def separators (s : String) : Nat := s.toList.count '\x1f'

theorem rangeText_toList (session : SessionIdentity) (first last policyVersion : String) :
    (rangeText session first last policyVersion).toList =
      (session.tenantId.toList ++ '\x1f' :: (session.userId.toList ++ '\x1f' ::
        session.sessionId.toList)) ++ '\x1f' :: (first.toList ++ '\x1f' ::
        (last.toList ++ '\x1f' :: policyVersion.toList)) := by
  simp [rangeText]

variable {session : SessionIdentity} {turn first existing : FormationTurn} {job job' : FormationJob}
  {jobs : Jobs} {turns : Turns} {repo : MemoryFormationTurnJobRepository} {p : RangeParameters}
  {rest : List FormationTurn} {trigger : MemoryFormationTrigger} {deadline : Option Instant}

/-- The first turn of a range is read off the text of its key. -/
theorem rangeText_first {session' : SessionIdentity}
    {first last policy first' last' policy' : String}
    (h : rangeText session first last policy = rangeText session' first' last' policy')
    (hp : separators policy = separators policy') (hf : separators first = 0)
    (hf' : separators first' = 0) (hl : separators last = 0) (hl' : separators last' = 0) :
    first = first' := by
  have htext := congrArg String.toList h
  rw [rangeText_toList, rangeText_toList] at htext
  unfold separators at hp hf hf' hl hl'
  obtain ⟨-, h1⟩ := cut_unique htext (by simp [hp, hf, hf', hl, hl'])
  obtain ⟨h2, -⟩ := cut_unique h1 (by simp [hp, hl, hl'])
  exact String.toList_inj.1 h2

/-! ## The two tables -/

structure Ledger where
  turns : Turns
  jobs : Jobs

def isRange (job : FormationJob) : Bool := job.firstTurnId.isSome

def ofSession (job : FormationJob) (session : SessionIdentity) : Prop :=
  job.tenantId = session.tenantId ∧ job.userId = session.userId ∧
    job.sessionId = some session.sessionId

def Lists (job : FormationJob) (turn : FormationTurn) : Prop :=
  isRange job = true ∧ turn.turnId ∈ job.sourceRefs ∧ turn.claimedJobId = some job.jobId

structure Frozen where
  jobId : String
  tenantId : String
  userId : String
  sessionId : Option String
  firstTurnId : Option String
  lastTurnId : Option String
  sourceRefs : List String
  idempotencyKey : String
  policyVersion : String
  deriving DecidableEq

def frozen (job : FormationJob) : Frozen :=
  ⟨job.jobId, job.tenantId, job.userId, job.sessionId, job.firstTurnId, job.lastTurnId,
    job.sourceRefs, job.idempotencyKey, job.policyVersion⟩

def Kept (turn turn' : FormationTurn) : Prop :=
  turn' = { turn with
    status := turn'.status
    claimedJobId := turn'.claimedJobId
    idleDeadlineAt := turn'.idleDeadlineAt }

/-- The ids of turns, and the number of separators in the versions of the policy. -/
structure Naming where
  isTurnId : String → Prop
  separators : Nat
  plain : ∀ id, isTurnId id → Formation.separators id = 0

def jobText (job : FormationJob) : String :=
  rangeText ⟨job.tenantId, job.userId, job.sessionId.getD ""⟩ (job.firstTurnId.getD "")
    (job.lastTurnId.getD "") job.policyVersion

def Keyed (digest : String → String) (names : Naming) (job : FormationJob) : Prop :=
  if isRange job then
    job.firstTurnId.getD "" ∈ job.sourceRefs ∧ job.lastTurnId.getD "" ∈ job.sourceRefs ∧
      job.idempotencyKey = "formation-range:" ++ digest (jobText job) ∧
      separators job.policyVersion = names.separators
  else ¬"formation-range:".toList <+: job.idempotencyKey.toList ∧
    ∀ ref ∈ job.sourceRefs, ¬names.isTurnId ref

/-- The turns are partitioned: each waits, or is listed by the one range job
that claimed it. -/
structure Partition (digest : String → String) (names : Naming) (s : Ledger) : Prop where
  named : ∀ id turn, s.turns.get? id = some turn → names.isTurnId id
  placed : ∀ id turn, s.turns.get? id = some turn →
    (turn.status = .pending ∧ turn.claimedJobId = none) ∨
    ∃ job, s.jobs.get? job.jobId = some job ∧ Lists job turn ∧
      (turn.status = .claimed ∨ turn.status = .formed ∧ job.status = .completed)
  listed : ∀ id job, s.jobs.get? id = some job → isRange job = true → ∀ ref ∈ job.sourceRefs,
    ∃ turn, s.turns.get? ref = some turn ∧ turn.claimedJobId = some id ∧
      ofSession job turn.session
  keyed : ∀ id job, s.jobs.get? id = some job → Keyed digest names job

theorem Partition.empty (digest : String → String) (names : Naming) :
    Partition digest names ⟨.empty, .empty⟩ where
  named _ _ h := by cases h
  placed _ _ h := by cases h
  listed _ _ h := by cases h
  keyed _ _ h := by cases h

/-! ## The moves -/

/-- The jobs are the same but for what their workers write, and completed ones
stay completed. -/
def Reworked (jobs jobs' : Jobs) : Prop :=
  ∀ id, (jobs.get? id = none → jobs'.get? id = none) ∧
    ∀ job, jobs.get? id = some job → ∃ job', jobs'.get? id = some job' ∧
      frozen job' = frozen job ∧ (job.status = .completed → job'.status = .completed)

inductive Move (digest : String → String) (names : Naming) (s : Ledger) : Ledger → Prop where
  | capture {turn : FormationTurn} {deadline : Option Instant} :
    s.turns.get? turn.turnId = none → waits turn.session turn = true →
    names.isTurnId turn.turnId →
    Move digest names s ⟨setDeadline (s.turns.put turn) turn.session deadline, s.jobs⟩
  | range {session : SessionIdentity} {job : FormationJob} :
    (∀ ref ∈ job.sourceRefs, ∃ turn, s.turns.get? ref = some turn ∧ waits session turn = true) →
    isRange job = true → ofSession job session → Keyed digest names job →
    s.jobs.get? job.jobId = none →
    Move digest names s ⟨claimTurns s.turns job.sourceRefs job.jobId, s.jobs.put job⟩
  | structured {job : FormationJob} :
    isRange job = false → Keyed digest names job → s.jobs.get? job.jobId = none →
    Move digest names s ⟨s.turns, s.jobs.put job⟩
  | rework {jobs : Jobs} : Reworked s.jobs jobs → Move digest names s ⟨s.turns, jobs⟩
  | complete {job job' : FormationJob} :
    s.jobs.get? job.jobId = some job → frozen job' = frozen job → job'.status = .completed →
    Move digest names s ⟨formTurns s.turns job.sourceRefs, s.jobs.put job'⟩

abbrev Moves (digest : String → String) (names : Naming) : Ledger → Ledger → Prop :=
  Relation.ReflTransGen (Move digest names)

theorem get?_updateTurns (turns : Turns) (test : FormationTurn → Bool)
    (f : FormationTurn → FormationTurn) (hf : ∀ turn, (f turn).turnId = turn.turnId) (id : String) :
    (updateTurns turns test f hf).get? id =
      (turns.get? id).map fun turn => if test turn then f turn else turn :=
  Table.get?_mapValues _ _ _ _

theorem waits_iff :
    waits session turn = true ↔
      turn.session = session ∧ turn.status = .pending ∧ turn.claimedJobId = none := by
  simp [waits, and_assoc]

theorem Lists.congr {turn' : FormationTurn} (hf : frozen job' = frozen job)
    (hid : turn'.turnId = turn.turnId) (hc : turn'.claimedJobId = turn.claimedJobId)
    (h : Lists job turn) : Lists job' turn' := by
  have hfirst : job'.firstTurnId = job.firstTurnId := congrArg Frozen.firstTurnId hf
  have hrefs : job'.sourceRefs = job.sourceRefs := congrArg Frozen.sourceRefs hf
  have hjob : job'.jobId = job.jobId := congrArg Frozen.jobId hf
  unfold Lists isRange
  rw [hfirst, hrefs, hjob, hid, hc]
  exact h

theorem Keyed.congr {digest : String → String} {names : Naming} (hf : frozen job' = frozen job)
    (h : Keyed digest names job) : Keyed digest names job' := by
  have h1 : job'.firstTurnId = job.firstTurnId := congrArg Frozen.firstTurnId hf
  have h2 : job'.sourceRefs = job.sourceRefs := congrArg Frozen.sourceRefs hf
  have h3 : job'.idempotencyKey = job.idempotencyKey := congrArg Frozen.idempotencyKey hf
  have h4 : job'.policyVersion = job.policyVersion := congrArg Frozen.policyVersion hf
  have h5 : job'.tenantId = job.tenantId := congrArg Frozen.tenantId hf
  have h6 : job'.userId = job.userId := congrArg Frozen.userId hf
  have h7 : job'.sessionId = job.sessionId := congrArg Frozen.sessionId hf
  have h8 : job'.lastTurnId = job.lastTurnId := congrArg Frozen.lastTurnId hf
  unfold Keyed isRange jobText
  rw [h1, h2, h3, h4, h5, h6, h7, h8]
  exact h

section Step

variable {digest : String → String} {names : Naming} {s s' : Ledger}

theorem Partition.rework (hp : Partition digest names s) (hr : Reworked s.jobs jobs) :
    Partition digest names ⟨s.turns, jobs⟩ := by
  have hback : ∀ {id job'}, jobs.get? id = some job' →
      ∃ job, s.jobs.get? id = some job ∧ frozen job' = frozen job := by
    intro id job' hget'
    cases hget : s.jobs.get? id with
    | none =>
      rw [(hr id).1 hget] at hget'
      cases hget'
    | some job =>
      obtain ⟨j, hj, hf, -⟩ := (hr id).2 job hget
      rw [hget'] at hj
      cases hj
      exact ⟨job, rfl, hf⟩
  refine ⟨hp.named, fun id turn hget => ?_, fun id job' hget' hrange ref href => ?_,
    fun id job' hget' => ?_⟩
  · refine (hp.placed id turn hget).imp_right fun ⟨job, hjob, hlists, hstatus⟩ => ?_
    obtain ⟨job', hjob', hf, hcompleted⟩ := (hr _).2 job hjob
    have hid : job'.jobId = job.jobId := congrArg Frozen.jobId hf
    refine ⟨job', by rw [hid]; exact hjob', hlists.congr hf rfl rfl, ?_⟩
    exact hstatus.imp_right fun h => ⟨h.1, hcompleted h.2⟩
  · obtain ⟨job, hget, hf⟩ := hback hget'
    have h1 : job'.firstTurnId = job.firstTurnId := congrArg Frozen.firstTurnId hf
    have h2 : job'.sourceRefs = job.sourceRefs := congrArg Frozen.sourceRefs hf
    have h5 : job'.tenantId = job.tenantId := congrArg Frozen.tenantId hf
    have h6 : job'.userId = job.userId := congrArg Frozen.userId hf
    have h7 : job'.sessionId = job.sessionId := congrArg Frozen.sessionId hf
    unfold isRange at hrange
    rw [h1] at hrange
    rw [h2] at href
    unfold ofSession
    rw [h5, h6, h7]
    exact hp.listed id job hget hrange ref href
  · obtain ⟨job, hget, hf⟩ := hback hget'
    exact (hp.keyed id job hget).congr hf

theorem get?_put_fresh {other : FormationJob} {id : String} (hfresh : jobs.get? job.jobId = none)
    (hget : jobs.get? id = some other) : (jobs.put job).get? id = some other := by
  rw [Table.get?_put_ne]
  · exact hget
  · rintro rfl
    rw [hfresh] at hget
    cases hget

theorem Partition.structured (hp : Partition digest names s) (hnot : isRange job = false)
    (hkey : Keyed digest names job) (hfresh : s.jobs.get? job.jobId = none) :
    Partition digest names ⟨s.turns, s.jobs.put job⟩ := by
  refine ⟨hp.named, fun id turn hget => ?_, fun id other hget hrange => ?_, fun id other hget => ?_⟩
  · refine (hp.placed id turn hget).imp_right fun ⟨other, hother, h⟩ => ?_
    exact ⟨other, get?_put_fresh hfresh hother, h⟩
  · dsimp only at hget
    rw [Table.get?_put] at hget
    split at hget
    · cases hget
      rw [hnot] at hrange
      cases hrange
    · exact hp.listed id other hget hrange
  · dsimp only at hget
    rw [Table.get?_put] at hget
    split at hget
    · cases hget
      exact hkey
    · exact hp.keyed id other hget

theorem Partition.capture {turn : FormationTurn} {deadline : Option Instant}
    (hp : Partition digest names s) (hfresh : s.turns.get? turn.turnId = none)
    (hwaits : waits turn.session turn = true) (hname : names.isTurnId turn.turnId) :
    Partition digest names ⟨setDeadline (s.turns.put turn) turn.session deadline, s.jobs⟩ := by
  -- a turn of the new table is the new turn or an old one, but for its deadline
  have hback : ∀ {id t'}, (setDeadline (s.turns.put turn) turn.session deadline).get? id = some t' →
      ∃ t, (s.turns.put turn).get? id = some t ∧ t'.turnId = t.turnId ∧ t'.status = t.status ∧
        t'.claimedJobId = t.claimedJobId := by
    intro id t' hget
    rw [setDeadline, get?_updateTurns, Option.map_eq_some_iff] at hget
    obtain ⟨t, ht, rfl⟩ := hget
    refine ⟨t, ht, ?_⟩
    split <;> exact ⟨rfl, rfl, rfl⟩
  refine ⟨fun id t' hget => ?_, fun id t' hget => ?_, fun id job hget hrange ref href => ?_, hp.keyed⟩
  · obtain ⟨t, ht, -⟩ := hback hget
    rw [Table.get?_put] at ht
    split at ht
    · next hid =>
      rw [← hid]
      exact hname
    · exact hp.named id t ht
  · obtain ⟨t, ht, hid, hs, hc⟩ := hback hget
    rw [Table.get?_put] at ht
    rw [hs, hc]
    split at ht
    · cases ht
      exact .inl ⟨(waits_iff.1 hwaits).2.1, (waits_iff.1 hwaits).2.2⟩
    · refine (hp.placed id t ht).imp_right fun hjobs => ?_
      obtain ⟨job, hjob, hlists, hstatus⟩ := hjobs
      exact ⟨job, hjob, hlists.congr rfl hid hc, hstatus⟩
  · obtain ⟨t, ht, hc, hsession⟩ := hp.listed id job hget hrange ref href
    have hput : (s.turns.put turn).get? ref = some t := by
      rw [Table.get?_put_ne]
      · exact ht
      · rintro rfl
        rw [hfresh] at ht
        cases ht
    have hnot : waits turn.session t = false := by
      simp [waits, hc]
    refine ⟨t, ?_, hc, hsession⟩
    dsimp only
    rw [setDeadline, get?_updateTurns, hput]
    simp [hnot]

theorem Partition.range (hp : Partition digest names s)
    (hwait : ∀ ref ∈ job.sourceRefs, ∃ turn, s.turns.get? ref = some turn ∧
      waits session turn = true) (hrange : isRange job = true) (hsession : ofSession job session)
    (hkey : Keyed digest names job) (hfresh : s.jobs.get? job.jobId = none) :
    Partition digest names ⟨claimTurns s.turns job.sourceRefs job.jobId, s.jobs.put job⟩ := by
  have hget? : ∀ id, (claimTurns s.turns job.sourceRefs job.jobId).get? id =
      (s.turns.get? id).map fun turn => if turn.turnId ∈ job.sourceRefs then
        { turn with status := .claimed, claimedJobId := some job.jobId } else turn := by
    intro id
    rw [claimTurns, get?_updateTurns]
    simp
  refine ⟨fun id t' hget => ?_, fun id t' hget => ?_, fun id other hget hr ref href => ?_,
    fun id other hget => ?_⟩
  · dsimp only at hget
    rw [hget?, Option.map_eq_some_iff] at hget
    obtain ⟨t, ht, -⟩ := hget
    exact hp.named id t ht
  · dsimp only at hget ⊢
    rw [hget?, Option.map_eq_some_iff] at hget
    obtain ⟨t, ht, rfl⟩ := hget
    split
    · next hmem =>
      exact .inr ⟨job, Table.get?_put_self _ _, ⟨hrange, hmem, rfl⟩, .inl rfl⟩
    · refine (hp.placed id t ht).imp_right fun hjobs => ?_
      obtain ⟨other, hother, h⟩ := hjobs
      exact ⟨other, get?_put_fresh hfresh hother, h⟩
  · dsimp only at hget ⊢
    rw [Table.get?_put] at hget
    split at hget
    · next hid =>
      cases hget
      obtain ⟨t, ht, hw⟩ := hwait ref href
      have hmem : t.turnId ∈ job.sourceRefs := by
        rw [turnId_of_get? ht]
        exact href
      refine ⟨{ t with status := .claimed, claimedJobId := some job.jobId }, ?_, ?_, ?_⟩
      · rw [hget?, ht]
        simp [hmem]
      · rw [← hid]
      · show ofSession job t.session
        rw [(waits_iff.1 hw).1]
        exact hsession
    · obtain ⟨t, ht, hc, hs⟩ := hp.listed id other hget hr ref href
      have hnot : t.turnId ∉ job.sourceRefs := by
        rw [turnId_of_get? ht]
        intro hmem
        obtain ⟨t2, ht2, hw⟩ := hwait ref hmem
        rw [ht] at ht2
        cases ht2
        rw [(waits_iff.1 hw).2.2] at hc
        cases hc
      refine ⟨t, ?_, hc, hs⟩
      rw [hget?, ht]
      simp [hnot]
  · dsimp only at hget
    rw [Table.get?_put] at hget
    split at hget
    · cases hget
      exact hkey
    · exact hp.keyed id other hget

/-- Forming the turns of a job that is no range job changes nothing. -/
theorem Partition.formTurns_structured {id : String} (hp : Partition digest names s)
    (hget : s.jobs.get? id = some job) (hnot : isRange job = false) :
    formTurns s.turns job.sourceRefs = s.turns := by
  refine Table.ext_get? (Table.keys_mapValues ..) fun ref => ?_
  rw [formTurns, get?_updateTurns]
  cases hturn : s.turns.get? ref with
  | none => rfl
  | some turn =>
    have hkey := hp.keyed id job hget
    rw [Keyed, hnot] at hkey
    have hmem : turn.turnId ∉ job.sourceRefs := fun hmem =>
      hkey.2 _ hmem (by rw [turnId_of_get? hturn]; exact hp.named ref turn hturn)
    simp [hmem]

theorem reworked_put (hget : jobs.get? job.jobId = some job) (hf : frozen job' = frozen job)
    (hs : job.status = .completed → job'.status = .completed) : Reworked jobs (jobs.put job') := by
  have hid : job'.jobId = job.jobId := congrArg Frozen.jobId hf
  intro id
  refine ⟨fun hnone => ?_, fun other hother => ?_⟩
  · rw [Table.get?_put_ne]
    · exact hnone
    · rintro rfl
      rw [hid, hget] at hnone
      cases hnone
  · rw [Table.get?_put]
    split
    · next heq =>
      rw [← heq, hid, hget] at hother
      cases hother
      exact ⟨job', rfl, hf, hs⟩
    · exact ⟨other, hother, rfl, fun h => h⟩

theorem Partition.complete {job job' : FormationJob} (hp : Partition digest names s)
    (hget : s.jobs.get? job.jobId = some job) (hf : frozen job' = frozen job)
    (hs : job'.status = .completed) :
    Partition digest names ⟨formTurns s.turns job.sourceRefs, s.jobs.put job'⟩ := by
  have hp' := hp.rework (reworked_put hget hf fun _ => hs)
  cases hr : isRange job with
  | false =>
    rw [hp.formTurns_structured hget hr]
    exact hp'
  | true =>
    have hget? : ∀ id, (formTurns s.turns job.sourceRefs).get? id =
        (s.turns.get? id).map fun turn =>
          if turn.turnId ∈ job.sourceRefs then { turn with status := .formed } else turn := by
      intro id
      rw [formTurns, get?_updateTurns]
      simp
    refine ⟨fun id t' ht' => ?_, fun id t' ht' => ?_, fun id other hother hrange ref href => ?_,
      hp'.keyed⟩
    · dsimp only at ht'
      rw [hget?, Option.map_eq_some_iff] at ht'
      obtain ⟨t, ht, -⟩ := ht'
      exact hp.named id t ht
    · dsimp only at ht' ⊢
      rw [hget?, Option.map_eq_some_iff] at ht'
      obtain ⟨t, ht, rfl⟩ := ht'
      split
      · next hmem =>
        obtain ⟨t2, ht2, hc, -⟩ := hp.listed _ job hget hr _ hmem
        rw [turnId_of_get? ht, ht] at ht2
        cases ht2
        refine .inr ⟨job', Table.get?_put_self _ _, ?_, .inr ⟨rfl, hs⟩⟩
        exact Lists.congr hf rfl rfl ⟨hr, hmem, hc⟩
      · exact hp'.placed id t ht
    · obtain ⟨t, ht, hc, hsession⟩ := hp'.listed id other hother hrange ref href
      dsimp only at ht ⊢
      rw [hget?, ht]
      refine ⟨if t.turnId ∈ job.sourceRefs then { t with status := .formed } else t, rfl, ?_, ?_⟩
      · split <;> exact hc
      · split <;> exact hsession

theorem Partition.move (hp : Partition digest names s) (hm : Move digest names s s') :
    Partition digest names s' := by
  cases hm with
  | capture hfresh hwaits hname => exact hp.capture hfresh hwaits hname
  | range hwait hrange hsession hkey hfresh => exact hp.range hwait hrange hsession hkey hfresh
  | structured hnot hkey hfresh => exact hp.structured hnot hkey hfresh
  | rework hr => exact hp.rework hr
  | complete hget hf hs => exact hp.complete hget hf hs

theorem Partition.moves (hp : Partition digest names s) (hm : Moves digest names s s') :
    Partition digest names s' := by
  induction hm with
  | refl => exact hp
  | tail _ hm ih => exact ih.move hm

/-! ## Captured turns stay -/

theorem Kept.refl (turn : FormationTurn) : Kept turn turn := rfl

theorem Kept.trans {a b c : FormationTurn} (h : Kept a b) (h' : Kept b c) : Kept a c := by
  unfold Kept at *
  rw [h', h]

theorem kept_updateTurns {test : FormationTurn → Bool} {f : FormationTurn → FormationTurn}
    {hf : ∀ turn, (f turn).turnId = turn.turnId} (hkept : ∀ turn, Kept turn (f turn)) {id : String}
    (hget : turns.get? id = some turn) :
    ∃ turn', (updateTurns turns test f hf).get? id = some turn' ∧ Kept turn turn' := by
  rw [get?_updateTurns, hget]
  refine ⟨if test turn then f turn else turn, rfl, ?_⟩
  split
  · exact hkept turn
  · exact Kept.refl turn

theorem kept_claimTurns (ids : List String) (jobId : String) {id : String}
    (hget : turns.get? id = some turn) :
    ∃ turn', (claimTurns turns ids jobId).get? id = some turn' ∧ Kept turn turn' := by
  refine kept_updateTurns ?_ hget
  exact fun _ => rfl

theorem Move.kept (hm : Move digest names s s') {id : String} {turn : FormationTurn}
    (hget : s.turns.get? id = some turn) : ∃ turn', s'.turns.get? id = some turn' ∧ Kept turn turn' := by
  cases hm with
  | @capture new deadline hfresh _ _ =>
    refine kept_updateTurns ?_ ?_
    · exact fun _ => rfl
    · rw [Table.get?_put_ne]
      · exact hget
      · rintro rfl
        rw [hfresh] at hget
        cases hget
  | range => exact kept_claimTurns _ _ hget
  | structured => exact ⟨turn, hget, Kept.refl turn⟩
  | rework => exact ⟨turn, hget, Kept.refl turn⟩
  | complete =>
    refine kept_updateTurns ?_ hget
    exact fun _ => rfl

theorem Moves.kept (hm : Moves digest names s s') {id : String} {turn : FormationTurn}
    (hget : s.turns.get? id = some turn) : ∃ turn', s'.turns.get? id = some turn' ∧ Kept turn turn' := by
  induction hm with
  | refl => exact ⟨turn, hget, Kept.refl turn⟩
  | tail _ hm ih =>
    obtain ⟨turn1, hget1, hkept1⟩ := ih
    obtain ⟨turn2, hget2, hkept2⟩ := hm.kept hget1
    exact ⟨turn2, hget2, hkept1.trans hkept2⟩

end Step

/-! ## The calls -/

structure Captured (names : Naming) (turn : FormationTurn) : Prop where
  pending : turn.status = .pending
  unclaimed : turn.claimedJobId = none
  named : names.isTurnId turn.turnId

structure Structured (names : Naming) (job : FormationJob) : Prop where
  unranged : job.firstTurnId = none
  keyed : "structured-event:".toList <+: job.idempotencyKey.toList
  refs : ∀ ref ∈ job.sourceRefs, ¬names.isTurnId ref

/-- The digests of the ranges of these turns are not those of other range jobs. -/
def CollisionFree (digest : String → String) (turns : List FormationTurn) (jobs : Jobs)
    (policyVersion : String) : Prop :=
  ∀ job ∈ jobs.values, isRange job = true → ∀ first ∈ turns, ∀ last ∈ turns,
    digest (rangeText first.session first.turnId last.turnId policyVersion) = digest (jobText job) →
    rangeText first.session first.turnId last.turnId policyVersion = jobText job

structure Fresh (digest : String → String) (names : Naming) (turns : List FormationTurn)
    (jobs : Jobs) (p : RangeParameters) : Prop where
  separators : separators p.policyVersion = names.separators
  jobId : jobs.get? p.jobId = none
  digests : CollisionFree digest turns jobs p.policyVersion

def Admissible (digest : String → String) (names : Naming) (turns : Turns) (jobs : Jobs) :
    Call → Prop
  | .appendTurn turn _ p =>
    Captured names turn ∧ Fresh digest names (turn :: turns.values) jobs p
  | .createJobForPending _ _ _ _ p => Fresh digest names turns.values jobs p
  | .addJob job => Structured names job
  | .claimJob .. | .completeJob .. | .failJob .. => True

variable {s : Ledger}

section Calls

variable {digest : String → String} {names : Naming}

theorem Captured.waits (h : Captured names turn) :
    waits turn.session turn = true := waits_iff.2 ⟨rfl, h.pending, h.unclaimed⟩

theorem Structured.keyed_of (h : Structured names job) (digest : String → String) :
    isRange job = false ∧ Keyed digest names job := by
  have hrange : isRange job = false := by simp [isRange, h.unranged]
  refine ⟨hrange, ?_⟩
  rw [Keyed, hrange]
  refine ⟨fun hp => ?_, h.refs⟩
  have hstart := List.prefix_or_prefix_of_prefix hp h.keyed
  revert hstart
  decide

theorem mem_listPendingTurns :
    turn ∈ listPendingTurns turns session ↔
      turns.get? turn.turnId = some turn ∧ waits session turn = true := by
  rw [listPendingTurns, ordered, List.mem_insertionSort, List.mem_filter, mem_turns]

/-- A new deadline changes neither the order of the waiting turns nor their ids. -/
theorem listPendingTurns_setDeadline (turns : Turns) (session : SessionIdentity)
    (deadline : Option Instant) :
    (listPendingTurns (setDeadline turns session deadline) session).map (·.turnId) =
      (listPendingTurns turns session).map (·.turnId) := by
  let f := fun turn : FormationTurn =>
    if waits session turn then { turn with idleDeadlineAt := deadline } else turn
  have hwaits : ∀ turn, waits session (f turn) = waits session turn := by
    intro turn
    simp only [f]
    split <;> rfl
  have hkey : ∀ turn, orderKey (f turn) = orderKey turn := by
    intro turn
    simp only [f]
    split <;> rfl
  have hid : ∀ turn, (f turn).turnId = turn.turnId := by
    intro turn
    simp only [f]
    split <;> rfl
  have hvalues : (setDeadline turns session deadline).values = turns.values.map f :=
    Table.values_mapValues _ _ _
  have hcomp : (waits session ∘ f) = waits session := funext hwaits
  unfold listPendingTurns ordered
  rw [hvalues, List.filter_map, hcomp, ← List.map_insertionSort (fun a b => orderKey a ≤ orderKey b)]
  · rw [List.map_map]
    exact List.map_congr_left fun turn _ => hid turn
  · intro a _ b _
    rw [hkey, hkey]

theorem rangeJob_keyed (hsep : separators p.policyVersion = names.separators) :
    Keyed digest names (rangeJob digest first rest trigger p) := by
  have hlast : ((first :: rest).getLast (List.cons_ne_nil _ _)).turnId ∈
      (first :: rest).map (·.turnId) :=
    List.mem_map_of_mem (List.getLast_mem _)
  rw [Keyed, if_pos (show isRange (rangeJob digest first rest trigger p) = true from rfl)]
  exact ⟨List.mem_map_of_mem List.mem_cons_self, hlast, rfl, hsep⟩

/-- No stored job has the key of a range of waiting turns. -/
theorem Partition.key_ne {turns : List FormationTurn} {id : String} (hp : Partition digest names s)
    (trigger : MemoryFormationTrigger)
    (hwait : ∀ turn ∈ first :: rest, s.turns.get? turn.turnId = some turn ∧
      waits session turn = true)
    (hknown : ∀ turn ∈ first :: rest, ∃ known ∈ turns, known.session = turn.session ∧
      known.turnId = turn.turnId) (hfresh : Fresh digest names turns s.jobs p)
    (hget : s.jobs.get? id = some job) :
    job.idempotencyKey ≠ (rangeJob digest first rest trigger p).idempotencyKey := by
  intro heq
  have hjob := hp.keyed id job hget
  obtain ⟨hfirst, hwaits⟩ := hwait first List.mem_cons_self
  have hid := jobId_of_get? hget
  subst hid
  let last := (first :: rest).getLast (List.cons_ne_nil _ _)
  have hlastmem : last ∈ first :: rest := List.getLast_mem _
  cases hr : isRange job with
  | false =>
    rw [Keyed, hr] at hjob
    refine hjob.1 ?_
    rw [heq]
    simp [rangeJob, formationRangeIdempotencyKey]
  | true =>
    rw [Keyed, if_pos hr] at hjob
    obtain ⟨hmem, hlast, hkey, hsep⟩ := hjob
    rw [hkey] at heq
    have hdigest : digest (jobText job) =
        digest (rangeText first.session first.turnId last.turnId p.policyVersion) := by
      have htext := congrArg String.toList heq
      simp only [rangeJob, formationRangeIdempotencyKey, String.toList_append] at htext
      exact String.toList_inj.1 (List.append_cancel_left htext)
    obtain ⟨first', hfirst', hfs, hfi⟩ := hknown first List.mem_cons_self
    obtain ⟨last', hlast', -, hli⟩ := hknown last hlastmem
    have htext := hfresh.digests job (mem_jobs.2 hget) hr first' hfirst' last' hlast'
    rw [hfs, hfi, hli] at htext
    have htext := htext hdigest.symm
    -- the old range's first turn is the new one's, which still waits
    have hplain : ∀ ref ∈ job.sourceRefs, separators ref = 0 := by
      intro ref href
      obtain ⟨turn, hturn, -⟩ := hp.listed _ job hget hr ref href
      exact names.plain ref (hp.named ref turn hturn)
    have hfirsts := rangeText_first htext (by rw [hfresh.separators, hsep])
      (names.plain _ (hp.named _ first hfirst)) (hplain _ hmem)
      (names.plain _ (hp.named _ last (hwait last hlastmem).1)) (hplain _ hlast)
    obtain ⟨turn, hturn, hc, -⟩ := hp.listed _ job hget hr _ hmem
    rw [← hfirsts, hfirst] at hturn
    cases hturn
    rw [(waits_iff.1 hwaits).2.2] at hc
    cases hc

theorem Partition.range_move {turns : List FormationTurn}
    (hwait : ∀ turn ∈ first :: rest, s.turns.get? turn.turnId = some turn ∧
      waits session turn = true) (hfresh : Fresh digest names turns s.jobs p) :
    Move digest names s
      ⟨claimTurns s.turns ((first :: rest).map (·.turnId)) p.jobId,
        s.jobs.put (rangeJob digest first rest trigger p)⟩ := by
  have hsession : first.session = session :=
    (waits_iff.1 (hwait first List.mem_cons_self).2).1
  have hof : ofSession (rangeJob digest first rest trigger p) session := by
    rw [← hsession]
    exact ⟨rfl, rfl, rfl⟩
  refine Move.range (fun ref href => ?_) rfl hof (rangeJob_keyed hfresh.separators) hfresh.jobId
  obtain ⟨turn, hmem, rfl⟩ := List.mem_map.1 href
  exact ⟨turn, hwait turn hmem⟩

theorem buildRangeJob_ok {turns : List FormationTurn}
    (h : buildRangeJob digest turns trigger p = .ok job) :
    ∃ first rest, turns = first :: rest ∧ job = rangeJob digest first rest trigger p ∧
      validates job = true := by
  cases turns with
  | nil => cases h
  | cons first rest =>
    simp only [buildRangeJob] at h
    split at h
    · next hv =>
      cases h
      exact ⟨first, rest, rfl, rfl, hv⟩
    · cases h

theorem reworked_sweep (now : Instant) (jobs : Jobs) : Reworked jobs (sweep now jobs) := by
  intro id
  rw [sweep, Table.get?_mapValues]
  refine ⟨fun hnone => by rw [hnone]; rfl, fun job hget => ?_⟩
  rw [hget]
  refine ⟨if exhausted now job then deadLettered now job else job, rfl, ?_, fun hs => ?_⟩
  · split <;> rfl
  · have hnot : exhausted now job = false := by simp [exhausted, hs]
    simp [hnot, hs]

theorem claim_moves {now : Instant} {owner leaseToken : String} {lease : Int}
    (h : (byClaimKey ((sweep now s.jobs).values.filter (eligible now))).head? = some job) :
    Moves digest names s ⟨s.turns, (sweep now s.jobs).put (claimed owner leaseToken now lease job)⟩ := by
  have hmem := List.mem_of_mem_head? h
  rw [byClaimKey, List.mem_insertionSort, List.mem_filter] at hmem
  have hget := mem_jobs.1 hmem.1
  have hs : job.status ≠ .completed := by
    intro hs
    have helig := hmem.2
    simp [eligible, hs] at helig
  refine .tail (.single (.rework (reworked_sweep now s.jobs))) (.rework ?_)
  exact reworked_put hget rfl fun h => absurd h hs

/-! ## Window jobs -/

/-- The order of `(completed_at, turn_id)`. -/
def Before (a b : FormationTurn) : Prop :=
  a.completedAt < b.completedAt ∨ a.completedAt = b.completedAt ∧ a.turnId < b.turnId

/-- The `n` first of the turns of a session that wait. -/
structure Oldest (turns : Turns) (session : SessionIdentity) (n : Nat)
    (oldest : List FormationTurn) : Prop where
  count : oldest.length = n
  waiting : ∀ turn ∈ oldest, turn ∈ turns.values ∧ waits session turn = true
  ordered : oldest.Pairwise Before
  first : ∀ turn ∈ turns.values, waits session turn = true → turn ∉ oldest →
    ∀ old ∈ oldest, Before old turn

structure WindowJob (turns : Turns) (turn : FormationTurn) (windowTurns : Nat)
    (job : FormationJob) : Prop where
  trigger : job.trigger = .turnWindow
  session : ofSession job turn.session
  refs : ∃ oldest, Oldest (turns.put turn) turn.session windowTurns oldest ∧
    job.sourceRefs = oldest.map (·.turnId)

/-- What an append does: a reply that is no error means that the turn is stored, a
full window makes its job, and no other job is added. -/
structure Appended (s s' : Ledger) (turn : FormationTurn) (windowTurns : Nat)
    (reply : Except FormationError Reply) : Prop where
  stored : ∀ accepted, reply = .ok accepted → ∃ kept, s'.turns.get? turn.turnId = some kept ∧
    kept.requestId = turn.requestId ∧ kept.session = turn.session ∧
    (s.turns.get? turn.turnId = none → Kept turn kept)
  window : ∀ accepted, reply = .ok accepted → s.turns.get? turn.turnId = none →
    windowTurns ≤ ((s.turns.put turn).values.filter (waits turn.session)).length →
    ∃ row job, accepted = .turn row (some job) ∧ s.jobs.get? job.jobId = none ∧
      s'.jobs.get? job.jobId = some job
  made : ∀ id job, s.jobs.get? id = none → s'.jobs.get? id = some job →
    WindowJob s.turns turn windowTurns job

theorem listPendingTurns_before (turns : Turns) (session : SessionIdentity) :
    (listPendingTurns turns session).Pairwise Before := by
  have hsorted : (listPendingTurns turns session).Pairwise fun a b => orderKey a ≤ orderKey b :=
    List.pairwise_insertionSort _ _
  have hids : (listPendingTurns turns session).Pairwise fun a b => a.turnId ≠ b.turnId := by
    have hnodup : ((turns.values.filter (waits session)).map (·.turnId)).Nodup :=
      turns.keys_nodup.sublist (List.filter_sublist.map _)
    exact List.pairwise_map.1 (((List.perm_insertionSort _ _).map _).nodup_iff.2 hnodup)
  refine (hsorted.and hids).imp fun {a b} h => ?_
  rcases Prod.Lex.toLex_le_toLex.1 h.1 with hlt | ⟨heq, hle⟩
  · exact .inl hlt
  · exact .inr ⟨heq, lt_of_le_of_ne hle h.2⟩

theorem oldest_take {turns : Turns} {session : SessionIdentity} {n : Nat}
    (hn : n ≤ (listPendingTurns turns session).length) :
    Oldest turns session n ((listPendingTurns turns session).take n) where
  count := List.length_take_of_le hn
  waiting turn hmem := by
    obtain ⟨hget, hwaits⟩ := mem_listPendingTurns.1 (List.mem_of_mem_take hmem)
    exact ⟨mem_turns.2 hget, hwaits⟩
  ordered := (listPendingTurns_before turns session).sublist (List.take_sublist _ _)
  first turn hmem hwaits hnot old hold := by
    have hpairs := listPendingTurns_before turns session
    rw [← List.take_append_drop n (listPendingTurns turns session), List.pairwise_append] at hpairs
    have hall := mem_listPendingTurns.2 ⟨mem_turns.1 hmem, hwaits⟩
    rw [← List.take_append_drop n (listPendingTurns turns session), List.mem_append] at hall
    exact hpairs.2.2 old hold turn (hall.resolve_left hnot)

theorem length_listPendingTurns (turns : Turns) (session : SessionIdentity)
    (deadline : Option Instant) :
    (listPendingTurns (setDeadline turns session deadline) session).length =
      (listPendingTurns turns session).length := by
  have hlen := congrArg List.length (listPendingTurns_setDeadline turns session deadline)
  rwa [List.length_map, List.length_map] at hlen

theorem windowJob_of_range {windowTurns : Nat}
    (hrange : (listPendingTurns (setDeadline (turns.put turn) turn.session deadline)
      turn.session).take windowTurns = first :: rest) (hlen : windowTurns ≤
      (listPendingTurns (setDeadline (turns.put turn) turn.session deadline) turn.session).length) :
    WindowJob turns turn windowTurns (rangeJob digest first rest .turnWindow p) := by
  have hrefs : (first :: rest).map (·.turnId) =
      ((listPendingTurns (turns.put turn) turn.session).take windowTurns).map (·.turnId) := by
    rw [← hrange, List.map_take, List.map_take, listPendingTurns_setDeadline]
  have hfirst : first ∈ listPendingTurns (setDeadline (turns.put turn) turn.session deadline)
      turn.session := List.mem_of_mem_take (hrange ▸ List.mem_cons_self)
  have hsession : first.session = turn.session :=
    (waits_iff.1 (mem_listPendingTurns.1 hfirst).2).1
  refine ⟨rfl, ?_, _, oldest_take (hlen.trans_eq (length_listPendingTurns ..)), hrefs⟩
  rw [← hsession]
  exact ⟨rfl, rfl, rfl⟩

/-- A job that is new in a table to which one job was added. -/
theorem eq_of_put {new : FormationJob} {id : String} (hnew : (jobs.put new).get? id = some job)
    (hold : jobs.get? id = none) : job = new := by
  rw [Table.get?_put] at hnew
  split at hnew
  · exact (Option.some.inj hnew).symm
  · rw [hold] at hnew
    cases hnew

section Appends

variable {s : Ledger} {turn : FormationTurn} {windowTurns : Nat}
  {reply : Except FormationError Reply} {deadline : Option Instant}

theorem Appended.failed {e : FormationError} {s' : Ledger} (hjobs : s'.jobs = s.jobs) :
    Appended s s' turn windowTurns (.error e) where
  stored accepted hok := by cases hok
  window accepted hok := by cases hok
  made id job hnone hsome := by
    rw [hjobs, hnone] at hsome
    cases hsome

theorem Appended.replayed (hget : s.turns.get? existing.turnId = some existing) :
    Appended s s turn windowTurns
      ((validateTurnIdentity existing turn).map fun _ => .turn existing none) := by
  cases hvalid : validateTurnIdentity existing turn with
  | error e => exact .failed rfl
  | ok _ =>
    simp only [validateTurnIdentity, ne_eq, Bool.or_eq_true, decide_eq_true_eq] at hvalid
    split at hvalid
    · cases hvalid
    · next hsame =>
      push Not at hsame
      rw [hsame.1.1] at hget
      refine ⟨fun _ _ => ⟨existing, hget, hsame.1.2, hsame.2, fun hnone => ?_⟩,
        fun _ _ hnone => ?_, fun id job hnone hsome => ?_⟩
      · rw [hget] at hnone
        cases hnone
      · rw [hget] at hnone
        cases hnone
      · rw [hnone] at hsome
        cases hsome

theorem kept_setDeadline (turns : Turns) (turn : FormationTurn) (deadline : Option Instant) :
    ∃ kept, (setDeadline (turns.put turn) turn.session deadline).get? turn.turnId = some kept ∧
      Kept turn kept := by
  refine kept_updateTurns ?_ (turns.get?_put_self turn)
  exact fun _ => rfl

theorem Appended.waiting
    (hlen : ¬windowTurns ≤
      (listPendingTurns (setDeadline (s.turns.put turn) turn.session deadline) turn.session).length) :
    Appended s ⟨setDeadline (s.turns.put turn) turn.session deadline, s.jobs⟩ turn windowTurns
      reply where
  stored _ _ := by
    obtain ⟨kept, hget, hkept⟩ := kept_setDeadline s.turns turn deadline
    exact ⟨kept, hget, by rw [hkept], by rw [hkept]; rfl, fun _ => hkept⟩
  window _ _ _ hfull := by
    rw [length_listPendingTurns, listPendingTurns, ordered, List.length_insertionSort] at hlen
    exact absurd hfull hlen
  made id job hnone hsome := by
    rw [hnone] at hsome
    cases hsome

theorem Appended.full {first row : FormationTurn} {rest : List FormationTurn} {p : RangeParameters}
    (hrange : (listPendingTurns (setDeadline (s.turns.put turn) turn.session deadline)
      turn.session).take windowTurns = first :: rest)
    (hlen : windowTurns ≤ (listPendingTurns (setDeadline (s.turns.put turn) turn.session deadline)
      turn.session).length)
    (hjob : s.jobs.get? p.jobId = none) :
    Appended s
      ⟨claimTurns (setDeadline (s.turns.put turn) turn.session deadline)
          ((first :: rest).map (·.turnId)) p.jobId,
        s.jobs.put (rangeJob digest first rest .turnWindow p)⟩ turn windowTurns
      (.ok (.turn row (some (rangeJob digest first rest .turnWindow p)))) where
  stored _ _ := by
    obtain ⟨kept, hget, hkept⟩ := kept_setDeadline s.turns turn deadline
    obtain ⟨claimed, hclaimed, hkept'⟩ := kept_claimTurns ((first :: rest).map (·.turnId)) p.jobId hget
    have hall := hkept.trans hkept'
    exact ⟨claimed, hclaimed, by rw [hall], by rw [hall]; rfl, fun _ => hall⟩
  window accepted hok _ _ := by
    cases hok
    exact ⟨row, _, rfl, hjob, s.jobs.get?_put_self _⟩
  made id job hnone hsome := by
    rw [eq_of_put hsome hnone]
    exact windowJob_of_range hrange hlen

end Appends

/-! ## The repository in memory -/

def Indexed (repo : MemoryFormationTurnJobRepository) : Prop :=
  ∀ key id, repo.jobsByIdempotency.get? key = some id →
    ∃ job, repo.jobs.get? id = some job ∧ job.idempotencyKey = key

def ledger (repo : MemoryFormationTurnJobRepository) : Ledger := ⟨repo.turns, repo.jobs⟩

theorem Indexed.put (hi : Indexed repo) (hfresh : repo.jobs.get? job.jobId = none) :
    Indexed
      { repo with
        turns := turns
        jobs := repo.jobs.put job
        jobsByIdempotency := repo.jobsByIdempotency.set job.idempotencyKey job.jobId } := by
  intro key id hget
  dsimp only at hget ⊢
  rw [Dict.get?_set] at hget
  split at hget
  · next hkey =>
    cases hget
    exact ⟨job, Table.get?_put_self _ _, hkey⟩
  · obtain ⟨other, hother, hkey⟩ := hi key id hget
    exact ⟨other, get?_put_fresh hfresh hother, hkey⟩

theorem Indexed.rework (hi : Indexed repo) (turns : Turns) (hr : Reworked repo.jobs jobs) :
    Indexed { repo with turns := turns, jobs := jobs } := by
  intro key id hget
  obtain ⟨job, hjob, hkey⟩ := hi key id hget
  obtain ⟨job', hjob', hf, -⟩ := (hr id).2 job hjob
  exact ⟨job', hjob', (congrArg Frozen.idempotencyKey hf).trans hkey⟩

theorem claimedJob_ok {jobId owner leaseToken : String} {now : Instant}
    (h : repo.claimedJob jobId owner leaseToken now = .ok job) :
    repo.jobs.get? jobId = some job ∧ heldBy owner leaseToken now job = true := by
  simp only [MemoryFormationTurnJobRepository.claimedJob] at h
  split at h
  · cases h
  · next job hget =>
    split at h
    · cases h
    · next hs =>
      split at h
      · cases h
      · next hl =>
        split at h
        · cases h
        · next he =>
          cases h
          simp only [ne_eq, not_not, Bool.or_eq_true, decide_eq_true_eq, not_or] at hs hl
          refine ⟨hget, heldBy_iff.2 ⟨hs, hl.1, hl.2, ?_⟩⟩
          cases hexp : job.leaseExpiresAt with
          | none => simp [hexp] at he
          | some at' => simpa [hexp] using he

theorem Indexed.get?_eq_none {key : String} (hi : Indexed repo)
    (hne : ∀ id job, repo.jobs.get? id = some job → job.idempotencyKey ≠ key) :
    repo.jobsByIdempotency.get? key = none := by
  cases hget : repo.jobsByIdempotency.get? key with
  | none => rfl
  | some id =>
    obtain ⟨job, hjob, hkey⟩ := hi key id hget
    exact absurd hkey (hne id job hjob)

/-- The waiting turns of the table after a capture are known. -/
theorem known_of_capture {t' : FormationTurn}
    (hget : (setDeadline (turns.put turn) session deadline).get? t'.turnId = some t') :
    ∃ known ∈ turn :: turns.values, known.session = t'.session ∧ known.turnId = t'.turnId := by
  rw [setDeadline, get?_updateTurns, Option.map_eq_some_iff] at hget
  obtain ⟨t, ht, heq⟩ := hget
  have hsame : t.session = t'.session ∧ t.turnId = t'.turnId := by
    rw [← heq]
    split <;> exact ⟨rfl, rfl⟩
  rw [Table.get?_put] at ht
  split at ht
  · cases ht
    exact ⟨turn, List.mem_cons_self, hsame⟩
  · refine ⟨t, List.mem_cons_of_mem _ (mem_turns.2 ?_), hsame⟩
    rw [hsame.2]
    exact ht

/-- A job built over listed turns has a key that no stored job has, and claims what it lists. -/
theorem Partition.range_fresh {turns listed : List FormationTurn} {p : RangeParameters}
    (trigger : MemoryFormationTrigger) (hp : Partition digest names s)
    (hf : Fresh digest names turns s.jobs p) (hrange : listed = first :: rest)
    (hlisted : ∀ t ∈ listed, t ∈ listPendingTurns s.turns session)
    (hknown : ∀ t, s.turns.get? t.turnId = some t →
      ∃ known ∈ turns, known.session = t.session ∧ known.turnId = t.turnId) :
    (∀ id job, s.jobs.get? id = some job →
      job.idempotencyKey ≠ (rangeJob digest first rest trigger p).idempotencyKey) ∧
    Move digest names s
      ⟨claimTurns s.turns ((first :: rest).map (·.turnId)) p.jobId,
        s.jobs.put (rangeJob digest first rest trigger p)⟩ := by
  have hwait : ∀ t ∈ first :: rest, s.turns.get? t.turnId = some t ∧ waits session t = true :=
    fun t ht => mem_listPendingTurns.1 (hlisted t (hrange ▸ ht))
  exact ⟨fun id job hget =>
      hp.key_ne trigger hwait (fun t ht => hknown t (hwait t ht).1) hf hget,
    Partition.range_move hwait hf⟩

theorem existingTurn_get? (h : repo.existingTurn turn = some existing) :
    repo.turns.get? existing.turnId = some existing := by
  rw [MemoryFormationTurnJobRepository.existingTurn, Option.or_eq_some_iff] at h
  rcases h with hget | ⟨-, hfind⟩
  · rwa [turnId_of_get? hget]
  · exact mem_turns.1 (List.mem_of_find?_eq_some hfind)

theorem known_of_stored (hget : turns.get? turn.turnId = some turn) :
    ∃ known ∈ turns.values, known.session = turn.session ∧ known.turnId = turn.turnId :=
  ⟨turn, mem_turns.2 hget, rfl, rfl⟩

theorem mem_limited {maxTurns : Option Nat} {pending : List FormationTurn}
    (h : turn ∈ limited maxTurns pending) : turn ∈ pending := by
  cases maxTurns with
  | none => exact h
  | some n => exact List.mem_of_mem_take h

open MemoryFormationTurnJobRepository in
theorem memory_append {repo : MemoryFormationTurnJobRepository} {turn : FormationTurn}
    {windowTurns : Nat} {p : RangeParameters} (hp : Partition digest names (ledger repo))
    (hi : Indexed repo) (hc : Captured names turn)
    (hf : Fresh digest names (turn :: repo.turns.values) repo.jobs p) :
    Moves digest names (ledger repo)
        (ledger (repo.appendTurnAndMaybeCreateWindowJob digest turn windowTurns p).2) ∧
      Indexed (repo.appendTurnAndMaybeCreateWindowJob digest turn windowTurns p).2 ∧
      Appended (ledger repo)
        (ledger (repo.appendTurnAndMaybeCreateWindowJob digest turn windowTurns p).2) turn
        windowTurns (repo.appendTurnAndMaybeCreateWindowJob digest turn windowTurns p).1 := by
  simp only [appendTurnAndMaybeCreateWindowJob]
  split
  · next existing hsome => exact ⟨.refl, hi, .replayed (existingTurn_get? hsome)⟩
  · next hnone =>
    have hfresh : repo.turns.get? turn.turnId = none := by
      rw [existingTurn, Option.or_eq_none_iff] at hnone
      exact hnone.1
    generalize ((((repo.turns.put turn).values.filter (waits turn.session)).filterMap
      (·.idleDeadlineAt)).max?.or turn.idleDeadlineAt) = deadline
    have hcap : Move digest names (ledger repo)
        ⟨setDeadline (repo.turns.put turn) turn.session deadline, repo.jobs⟩ :=
      .capture hfresh hc.waits hc.named
    split
    · next hlen =>
      split
      · exact ⟨.single hcap, hi, .failed rfl⟩
      · next job hbuild =>
        obtain ⟨first, rest, hrange, rfl, -⟩ := buildRangeJob_ok hbuild
        obtain ⟨hkeys, hmove⟩ := (hp.move hcap).range_fresh .turnWindow hf hrange
          (fun t => List.mem_of_mem_take) fun t => known_of_capture
        rw [hrange]
        simp only [storeRange, hi.get?_eq_none hkeys]
        exact ⟨.tail (.single hcap) hmove, hi.put hf.jobId, .full (s := ledger repo) hrange hlen hf.jobId⟩
    · next hlen => exact ⟨.single hcap, hi, .waiting (s := ledger repo) hlen⟩

open MemoryFormationTurnJobRepository in
theorem memory_create {repo : MemoryFormationTurnJobRepository} {session : SessionIdentity}
    {trigger : MemoryFormationTrigger} {maxTurns : Option Nat} {due : Option Instant}
    {p : RangeParameters} (hp : Partition digest names (ledger repo)) (hi : Indexed repo)
    (hf : Fresh digest names repo.turns.values repo.jobs p) :
    Moves digest names (ledger repo)
        (ledger (repo.createJobForPending digest session trigger maxTurns due p).2) ∧
      Indexed (repo.createJobForPending digest session trigger maxTurns due p).2 := by
  simp only [createJobForPending]
  split
  · exact ⟨.refl, hi⟩
  · next first rest hrange =>
    obtain ⟨hkeys, hmove⟩ := hp.range_fresh trigger hf hrange (fun t => mem_limited)
      fun t => known_of_stored
    split
    · exact ⟨.refl, hi⟩
    · rw [hi.get?_eq_none hkeys]
      dsimp only
      split
      · exact ⟨.single hmove, hi.put hf.jobId⟩
      · exact ⟨.refl, hi⟩

open MemoryFormationTurnJobRepository in
theorem memory_call {repo : MemoryFormationTurnJobRepository} {call : Call}
    (hp : Partition digest names (ledger repo)) (hi : Indexed repo)
    (ha : Admissible digest names repo.turns repo.jobs call) :
    Moves digest names (ledger repo) (ledger (repo.call digest call).2) ∧
      Indexed (repo.call digest call).2 := by
  cases call with
  | appendTurn turn windowTurns p =>
    obtain ⟨hmoves, hindexed, -⟩ := memory_append hp hi ha.1 ha.2
    exact ⟨hmoves, hindexed⟩
  | createJobForPending session trigger maxTurns due p => exact memory_create hp hi ha
  | addJob job =>
    simp only [MemoryFormationTurnJobRepository.call, addJob]
    split
    · split <;> exact ⟨.refl, hi⟩
    · split
      · exact ⟨.refl, hi⟩
      · next hfresh =>
        have hkeyed := ha.keyed_of digest
        exact ⟨.single (.structured hkeyed.1 hkeyed.2 hfresh), hi.put hfresh⟩
  | claimJob owner leaseToken now lease =>
    simp only [MemoryFormationTurnJobRepository.call, claimJob]
    have hsweep := reworked_sweep now repo.jobs
    split
    · exact ⟨.single (.rework hsweep), hi.rework _ hsweep⟩
    · next job hjob =>
      refine ⟨claim_moves (s := ledger repo) hjob, ?_⟩
      have hmem := List.mem_of_mem_head? hjob
      rw [byClaimKey, List.mem_insertionSort, List.mem_filter] at hmem
      have hput : Reworked (sweep now repo.jobs)
          ((sweep now repo.jobs).put (claimed owner leaseToken now lease job)) := by
        refine reworked_put (mem_jobs.1 hmem.1) rfl fun hs => ?_
        have helig := hmem.2
        simp [eligible, hs] at helig
      have hi' := hi.rework repo.turns hsweep
      exact hi'.rework repo.turns hput
  | completeJob jobId owner leaseToken now trace =>
    simp only [MemoryFormationTurnJobRepository.call, completeJob]
    split
    · exact ⟨.refl, hi⟩
    · next job hjob =>
      obtain ⟨hget, hheld⟩ := claimedJob_ok hjob
      have hid := jobId_of_get? hget
      subst hid
      have hmove : Move digest names (ledger repo)
          ⟨formTurns repo.turns job.sourceRefs,
            repo.jobs.put (completed now (JsonDict.merge job.traceSummary (trace.getD [])) job)⟩ :=
        .complete hget rfl rfl
      have hrework : Reworked repo.jobs
          (repo.jobs.put (completed now (JsonDict.merge job.traceSummary (trace.getD [])) job)) :=
        reworked_put hget rfl fun _ => rfl
      have hi' := hi.rework (formTurns repo.turns job.sourceRefs) hrework
      split
      · exact ⟨.single hmove, hi'⟩
      · simp only [advanceContiguousWatermark]
        split
        · exact ⟨.single hmove, hi'⟩
        · exact ⟨.single hmove, hi'⟩
  | failJob jobId owner leaseToken now code next =>
    simp only [MemoryFormationTurnJobRepository.call, failJob]
    split
    · exact ⟨.refl, hi⟩
    · next job hjob =>
      obtain ⟨hget, hheld⟩ := claimedJob_ok hjob
      have hid := jobId_of_get? hget
      subst hid
      have hrework : Reworked repo.jobs
          (repo.jobs.put (failed (failureStatus job) now next code job)) := by
        refine reworked_put hget rfl fun hs => ?_
        rw [(heldBy_iff.1 hheld).1] at hs
        cases hs
      exact ⟨.single (.rework hrework), hi.rework repo.turns hrework⟩

/-! ## The repository in the database -/

def tables (d : FormationTables) : Ledger := ⟨d.turns, d.jobs⟩

theorem find?_eq_none {key : String}
    (hne : ∀ id job, jobs.get? id = some job → job.idempotencyKey ≠ key) :
    jobs.values.find? (·.idempotencyKey = key) = none := by
  refine List.find?_eq_none.2 fun job hmem => ?_
  simpa using hne _ job (mem_jobs.1 hmem)

open Repositories.Formation.Db in
theorem insertJob_fresh {d : FormationTables} {job : FormationJob} {turns : Turns}
    (hfresh : d.jobs.get? job.jobId = none) :
    insertJob d job turns = .ok { d with turns := turns, jobs := d.jobs.put job } := by
  have hcontains : d.jobs.contains job.jobId = false := (Table.contains_eq_false _ _).2 hfresh
  simp [insertJob, hcontains]

open Repositories.Formation.Db in
theorem db_append {d : FormationTables} {turn : FormationTurn} {windowTurns : Nat}
    {p : RangeParameters} (hp : Partition digest names (tables d)) (hc : Captured names turn)
    (hf : Fresh digest names (turn :: d.turns.values) d.jobs p) :
    Moves digest names (tables d)
        (tables (appendTurnAndMaybeCreateWindowJob d digest turn windowTurns p).2) ∧
      Appended (tables d) (tables (appendTurnAndMaybeCreateWindowJob d digest turn windowTurns p).2)
        turn windowTurns (appendTurnAndMaybeCreateWindowJob d digest turn windowTurns p).1 := by
  simp only [appendTurnAndMaybeCreateWindowJob]
  split
  · next existing hsome =>
    exact ⟨.refl, .replayed (mem_turns.1 (List.mem_of_find?_eq_some hsome))⟩
  · next hnone =>
    have hfresh : d.turns.get? turn.turnId = none := by
      cases hget : d.turns.get? turn.turnId with
      | none => rfl
      | some old =>
        have hid := turnId_of_get? hget
        have hno := List.find?_eq_none.1 hnone old (mem_turns.2 (by rw [hid]; exact hget))
        simp [hid] at hno
    split
    · exact ⟨.refl, .failed rfl⟩
    · next deadline _ =>
      have hcap : Move digest names (tables d)
          ⟨setDeadline (d.turns.put turn) turn.session (some deadline), d.jobs⟩ :=
        .capture hfresh hc.waits hc.named
      split
      · next hlen =>
        split
        · exact ⟨.refl, .failed rfl⟩
        · next job hbuild =>
          obtain ⟨first, rest, hrange, rfl, -⟩ := buildRangeJob_ok hbuild
          obtain ⟨hkeys, hmove⟩ := (hp.move hcap).range_fresh .turnWindow hf hrange
            (fun t => List.mem_of_mem_take) fun t => known_of_capture
          dsimp only [tables] at hkeys
          rw [hrange, find?_eq_none hkeys]
          dsimp only
          rw [insertJob_fresh hf.jobId]
          exact ⟨.tail (.single hcap) hmove, .full (s := tables d) hrange hlen hf.jobId⟩
      · next hlen => exact ⟨.single hcap, .waiting (s := tables d) hlen⟩

open Repositories.Formation.Db in
theorem db_create {d : FormationTables} {session : SessionIdentity}
    {trigger : MemoryFormationTrigger} {maxTurns : Option Nat} {due : Option Instant}
    {p : RangeParameters} (hp : Partition digest names (tables d))
    (hf : Fresh digest names d.turns.values d.jobs p) :
    Moves digest names (tables d)
      (tables (createJobForPending d digest session trigger maxTurns due p).2) := by
  simp only [createJobForPending]
  split
  · exact .refl
  · next first rest hrange =>
    obtain ⟨hkeys, hmove⟩ := hp.range_fresh trigger hf hrange (fun t => mem_limited)
      fun t => known_of_stored
    dsimp only [tables] at hkeys
    split
    · exact .refl
    · rw [find?_eq_none hkeys]
      dsimp only
      split
      · rw [insertJob_fresh (by exact hf.jobId)]
        exact .single hmove
      · exact .refl

open Repositories.Formation.Db in
theorem db_call {d : FormationTables} {call : Call} (hp : Partition digest names (tables d))
    (ha : Admissible digest names d.turns d.jobs call) :
    Moves digest names (tables d) (tables (Repositories.Formation.Db.call d digest call).2) := by
  cases call with
  | appendTurn turn windowTurns p => exact (db_append hp ha.1 ha.2).1
  | createJobForPending session trigger maxTurns due p => exact db_create hp ha
  | addJob job =>
    simp only [Repositories.Formation.Db.call, addJob]
    split
    · exact .refl
    · split
      · exact .refl
      · next hfresh =>
        have hkeyed := ha.keyed_of digest
        exact .single (.structured hkeyed.1 hkeyed.2 hfresh)
  | claimJob owner leaseToken now lease =>
    simp only [Repositories.Formation.Db.call, Db.run_claimJob]
    split
    · exact .single (.rework (reworked_sweep now d.jobs))
    · next job hjob => exact claim_moves (s := tables d) hjob
  | completeJob jobId owner leaseToken now trace =>
    simp only [Repositories.Formation.Db.call, Db.run_completeJob]
    split
    · exact .refl
    · next job hget =>
      split
      · have hid := jobId_of_get? hget
        subst hid
        exact .single (.complete hget rfl rfl)
      · exact .refl
  | failJob jobId owner leaseToken now code next =>
    simp only [Repositories.Formation.Db.call, Db.run_failJob]
    split
    · exact .refl
    · next job hget =>
      split
      · next hheld =>
        have hid := jobId_of_get? hget
        subst hid
        refine .single (.rework (reworked_put hget rfl fun hs => ?_))
        rw [(heldBy_iff.1 hheld).1] at hs
        cases hs
      · exact .refl

end Calls

/-! ## Runs -/

/-- Each claimed or formed turn is listed by one range job, which has claimed
it; a formed one by a job that completed. -/
structure Partitioned (turns : Turns) (jobs : Jobs) : Prop where
  listed : ∀ turn ∈ turns.values, turn.status = .claimed ∨ turn.status = .formed →
    ∃ job ∈ jobs.values, Lists job turn ∧
      ∀ other ∈ jobs.values, isRange other = true → turn.turnId ∈ other.sourceRefs → other = job
  disjoint : ∀ job ∈ jobs.values, ∀ other ∈ jobs.values, isRange job = true →
    isRange other = true → job ≠ other → ∀ ref ∈ job.sourceRefs, ref ∉ other.sourceRefs
  formed : ∀ turn ∈ turns.values, turn.status = .formed →
    ∃ job ∈ jobs.values, Lists job turn ∧ job.status = .completed

section Runs

variable {digest : String → String} {names : Naming}

theorem Partition.partitioned (hp : Partition digest names s) : Partitioned s.turns s.jobs := by
  have hone : ∀ job ∈ s.jobs.values, ∀ other ∈ s.jobs.values, isRange job = true →
      isRange other = true → ∀ ref ∈ job.sourceRefs, ref ∈ other.sourceRefs → other = job := by
    intro job hjob other hother hr hr' ref href href'
    have hget := mem_jobs.1 hjob
    have hget' := mem_jobs.1 hother
    obtain ⟨turn, hturn, hc, -⟩ := hp.listed _ job hget hr ref href
    obtain ⟨turn', hturn', hc', -⟩ := hp.listed _ other hget' hr' ref href'
    rw [hturn] at hturn'
    cases hturn'
    rw [hc] at hc'
    rw [← Option.some.inj hc', hget] at hget'
    exact (Option.some.inj hget').symm
  refine ⟨fun turn hturn hs => ?_, fun job hjob other hother hr hr' hne ref href href' => ?_,
    fun turn hturn hs => ?_⟩
  · rcases hp.placed _ turn (mem_turns.1 hturn) with ⟨hpending, -⟩ | ⟨job, hget, hlists, -⟩
    · rw [hpending] at hs
      simp at hs
    · refine ⟨job, mem_jobs.2 hget, hlists, fun other hother hr href => ?_⟩
      exact hone job (mem_jobs.2 hget) other hother hlists.1 hr _ hlists.2.1 href
  · exact hne (hone job hjob other hother hr hr' ref href href').symm
  · rcases hp.placed _ turn (mem_turns.1 hturn) with ⟨hpending, -⟩ | ⟨job, hget, hlists, hdone⟩
    · rw [hpending] at hs
      cases hs
    · rw [hs] at hdone
      rcases hdone with hdone | ⟨-, hdone⟩
      · cases hdone
      · exact ⟨job, mem_jobs.2 hget, hlists, hdone⟩

variable (digest names) in
def memoryRuns : LTS MemoryFormationTurnJobRepository Call where
  init repo := repo = .empty
  step repo call repo' :=
    Admissible digest names repo.turns repo.jobs call ∧ repo' = (repo.call digest call).2

variable (digest names) in
def databaseRuns : LTS FormationTables Call where
  init d := d = ⟨.empty, .empty, []⟩
  step d call d' := Admissible digest names d.turns d.jobs call ∧
    d' = (Repositories.Formation.Db.call d digest call).2

theorem memory_reachable (hr : (memoryRuns digest names).Reachable repo) :
    Partition digest names (ledger repo) ∧ Indexed repo := by
  induction hr with
  | init h0 =>
    cases h0
    refine ⟨Partition.empty digest names, fun key id hget => ?_⟩
    cases hget
  | step _ hst ih =>
    obtain ⟨ha, rfl⟩ := hst
    obtain ⟨hm, hi⟩ := memory_call ih.1 ih.2 ha
    exact ⟨ih.1.moves hm, hi⟩

theorem database_reachable {d : FormationTables} (hr : (databaseRuns digest names).Reachable d) :
    Partition digest names (tables d) := by
  induction hr with
  | init h0 =>
    cases h0
    exact Partition.empty digest names
  | step _ hst ih =>
    obtain ⟨ha, rfl⟩ := hst
    exact ih.moves (db_call ih ha)

/-- What a run of either repository leaves of a captured turn. -/
theorem kept_steps {State : Type} {T : LTS State Call} {view : State → Ledger}
    (hmoves : ∀ a call b, T.Reachable a → T.step a call b → Moves digest names (view a) (view b))
    {s s' : State} (hr : T.Reachable s) (hs : T.Steps s s') {id : String}
    (hget : (view s).turns.get? id = some turn) :
    ∃ turn', (view s').turns.get? id = some turn' ∧ Kept turn turn' := by
  refine LTS.Steps.keeps (T := T) (R := fun a b => ∀ turn, (view a).turns.get? id = some turn →
    ∃ turn', (view b).turns.get? id = some turn' ∧ Kept turn turn')
    (fun _ turn hget => ⟨turn, hget, Kept.refl turn⟩) (fun a b c hab hbc turn hget => ?_)
    (fun {a call b} ha hstep turn hget => (hmoves a call b ha hstep).kept hget) hr hs turn hget
  obtain ⟨turn1, hget1, hk1⟩ := hab turn hget
  obtain ⟨turn2, hget2, hk2⟩ := hbc turn1 hget1
  exact ⟨turn2, hget2, hk1.trans hk2⟩

/-- **Formation turns are partitioned**, in memory and in the database: in every
reachable state, with the captured turns kept in every later one, every accepted
append storing its turn, and every full window making a job that lists the oldest
waiting turns of its session. -/
theorem turns_partitioned (digest : String → String) (names : Naming) :
    (∀ repo, (memoryRuns digest names).Reachable repo →
      Partitioned repo.turns repo.jobs ∧
      (∀ repo', (memoryRuns digest names).Steps repo repo' → ∀ id turn,
        repo.turns.get? id = some turn → ∃ turn', repo'.turns.get? id = some turn' ∧
          Kept turn turn') ∧
      ∀ turn windowTurns p, Admissible digest names repo.turns repo.jobs
          (.appendTurn turn windowTurns p) →
        Appended (ledger repo)
          (ledger (repo.call digest (.appendTurn turn windowTurns p)).2) turn windowTurns
          (repo.call digest (.appendTurn turn windowTurns p)).1) ∧
    ∀ d, (databaseRuns digest names).Reachable d →
      Partitioned d.turns d.jobs ∧
      (∀ d', (databaseRuns digest names).Steps d d' → ∀ id turn,
        d.turns.get? id = some turn → ∃ turn', d'.turns.get? id = some turn' ∧ Kept turn turn') ∧
      ∀ turn windowTurns p, Admissible digest names d.turns d.jobs
          (.appendTurn turn windowTurns p) →
        Appended (tables d)
          (tables (Db.call d digest (.appendTurn turn windowTurns p)).2) turn windowTurns
          (Db.call d digest (.appendTurn turn windowTurns p)).1 := by
  refine ⟨fun repo hr => ?_, fun d hr => ?_⟩
  · obtain ⟨hpartition, hindexed⟩ := memory_reachable hr
    refine ⟨hpartition.partitioned, fun repo' hs id turn hget => ?_,
      fun turn windowTurns p ha => (memory_append hpartition hindexed ha.1 ha.2).2.2⟩
    have hmoves : ∀ a call b, (memoryRuns digest names).Reachable a →
        (memoryRuns digest names).step a call b → Moves digest names (ledger a) (ledger b) := by
      rintro a call b ha ⟨hadm, rfl⟩
      obtain ⟨hp, hi⟩ := memory_reachable ha
      exact (memory_call hp hi hadm).1
    exact kept_steps hmoves hr hs hget
  · have hpartition := database_reachable hr
    refine ⟨hpartition.partitioned, fun d' hs id turn hget => ?_,
      fun turn windowTurns p ha => (db_append hpartition ha.1 ha.2).2⟩
    have hmoves : ∀ a call b, (databaseRuns digest names).Reachable a →
        (databaseRuns digest names).step a call b → Moves digest names (tables a) (tables b) := by
      rintro a call b ha ⟨hadm, rfl⟩
      exact db_call (database_reachable ha) hadm
    exact kept_steps hmoves hr hs hget

end Runs

/-! ## A window of two turns -/

def dayTurn (id : String) (completedAt : Instant) : FormationTurn where
  turnId := id
  userId := "ada"
  tenantId := "acme"
  userText := "Please answer in French."
  assistantText := ""
  usedMemoryIds := []
  status := .pending
  requestId := "req-" ++ id
  sessionId := "day"
  runId := none
  agentId := none
  resultStatus := "completed"
  resultRefs := []
  planRefs := []
  artifactRefs := []
  idleDeadlineAt := some (completedAt + 100)
  claimedJobId := none
  completedAt := completedAt
  createdAt := completedAt

def dayParameters (jobId : String) : RangeParameters :=
  ⟨.enforced, "formation-model-v1", "formation-prompt-v1", "formation-policy-v1", 5, jobId, 20⟩

def day : SessionIdentity := ⟨"acme", "ada", "day"⟩

def dayNames : Naming where
  isTurnId id := id = "noon" ∨ id = "morning"
  separators := 0
  plain := by
    rintro id (rfl | rfl) <;> rfl

/-- The turn of noon is captured first, the earlier one of the morning late. -/
def windowCalls : List Call :=
  [.appendTurn (dayTurn "noon" 12) 2 (dayParameters "mfjob_0"),
    .appendTurn (dayTurn "morning" 8) 2 (dayParameters "mfjob_1"),
    .claimJob "worker" "token" 30 60, .completeJob "mfjob_1" "worker" "token" 40 none]

def windowRepository (calls : List Call) : MemoryFormationTurnJobRepository :=
  calls.foldl (fun repo call => (repo.call id call).2) .empty

def windowTables (calls : List Call) : FormationTables :=
  calls.foldl (fun d call => (Db.call d id call).2) ⟨.empty, .empty, []⟩

theorem dayCaptured {turnId : String} (h : turnId = "noon" ∨ turnId = "morning") (at' : Instant) :
    Captured dayNames (dayTurn turnId at') := ⟨rfl, rfl, h⟩

theorem windowRepository_reachable :
    (memoryRuns id dayNames).Reachable (windowRepository (windowCalls.take 1)) ∧
      (memoryRuns id dayNames).Reachable (windowRepository windowCalls) := by
  have hnoon : (memoryRuns id dayNames).Reachable (windowRepository (windowCalls.take 1)) :=
    .step (l := .appendTurn (dayTurn "noon" 12) 2 (dayParameters "mfjob_0")) (.init rfl)
      ⟨⟨dayCaptured (.inl rfl) 12, by decide, rfl, fun _ _ _ _ _ _ _ h => h⟩, rfl⟩
  have hmorning : (memoryRuns id dayNames).Reachable (windowRepository (windowCalls.take 2)) :=
    .step (l := .appendTurn (dayTurn "morning" 8) 2 (dayParameters "mfjob_1")) hnoon
      ⟨⟨dayCaptured (.inr rfl) 8, by decide, by decide, fun _ _ _ _ _ _ _ h => h⟩, rfl⟩
  exact ⟨hnoon, .step (l := .completeJob "mfjob_1" "worker" "token" 40 none)
    (.step (l := .claimJob "worker" "token" 30 60) hmorning ⟨trivial, rfl⟩) ⟨trivial, rfl⟩⟩

theorem windowTables_reachable :
    (databaseRuns id dayNames).Reachable (windowTables windowCalls) := by
  have hnoon : (databaseRuns id dayNames).Reachable (windowTables (windowCalls.take 1)) :=
    .step (l := .appendTurn (dayTurn "noon" 12) 2 (dayParameters "mfjob_0")) (.init rfl)
      ⟨⟨dayCaptured (.inl rfl) 12, by decide, rfl, fun _ _ _ _ _ _ _ h => h⟩, rfl⟩
  have hmorning : (databaseRuns id dayNames).Reachable (windowTables (windowCalls.take 2)) :=
    .step (l := .appendTurn (dayTurn "morning" 8) 2 (dayParameters "mfjob_1")) hnoon
      ⟨⟨dayCaptured (.inr rfl) 8, by decide, by decide, fun _ _ _ _ _ _ _ h => h⟩, rfl⟩
  exact .step (l := .completeJob "mfjob_1" "worker" "token" 40 none)
    (.step (l := .claimJob "worker" "token" 30 60) hmorning ⟨trivial, rfl⟩) ⟨trivial, rfl⟩

/-- The late turn fills the window, whose job lists it first, is claimed and
completes, in memory and in the database. -/
theorem turns_partitioned_window :
    Partitioned (windowRepository windowCalls).turns (windowRepository windowCalls).jobs ∧
      Partitioned (windowTables windowCalls).turns (windowTables windowCalls).jobs ∧
      Appended (ledger (windowRepository (windowCalls.take 1)))
        (ledger (windowRepository (windowCalls.take 2))) (dayTurn "morning" 8) 2
        ((windowRepository (windowCalls.take 1)).call id
          (.appendTurn (dayTurn "morning" 8) 2 (dayParameters "mfjob_1"))).1 ∧
      ((windowRepository windowCalls).jobs.get? "mfjob_1").map
        (fun job => (job.sourceRefs, job.status)) = some (["morning", "noon"], .completed) ∧
      (windowTables windowCalls).turns.values.map (·.status) = [.formed, .formed] := by
  obtain ⟨hnoon, hall⟩ := windowRepository_reachable
  refine ⟨((turns_partitioned id dayNames).1 _ hall).1,
    ((turns_partitioned id dayNames).2 _ windowTables_reachable).1,
    ((turns_partitioned id dayNames).1 _ hnoon).2.2 _ _ _ ?_, by decide, by decide⟩
  exact ⟨dayCaptured (.inr rfl) 8, by decide, by decide, fun _ _ _ _ _ _ _ h => h⟩

end OpenIntentRouter.Formation
