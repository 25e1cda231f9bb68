import OpenIntentRouter.Formation.Turns

/-!
# The watermark of a session

The last turn before which everything is dealt with. The repository in memory
keeps the value of the last completion, the database reads it off the turns. A
turn that arrives late, ordered before turns that are formed, makes the two
differ (`late_turn_splits_watermark`); if no turn arrives at or before its
session's watermark, both report the same and everything up to it is dealt with
(`watermarks_agree`).

* `Dealt`: a turn up to which everything is dealt with; `contiguousLast_eq_some`
  says that the watermark is the last one;
* `Agree`: the two repositories hold the same, and the values in memory are current.
-/
namespace OpenIntentRouter.Formation

open Core Schemas Repositories.Formation

/-! ## Sorted lists cut at the first failure -/

section Sorted

variable {α β : Type} [LinearOrder β] {key : α → β} {l : List α} {test : α → Bool}

/-- The first part of a sorted list: the elements up to which all pass the test. -/
theorem mem_takeWhile_sorted (h : l.Pairwise fun a b => key a < key b) {u : α} :
    u ∈ l.takeWhile test ↔ u ∈ l ∧ ∀ v ∈ l, key v ≤ key u → test v = true := by
  induction l with
  | nil => simp
  | cons a l ih =>
    obtain ⟨ha, hl⟩ := List.pairwise_cons.1 h
    cases hta : test a with
    | false =>
      simp only [List.takeWhile_cons, hta, Bool.false_eq_true, if_false, List.not_mem_nil, false_iff,
        List.mem_cons, not_and]
      rintro (rfl | hu) hall
      · have htrue := hall u (.inl rfl) le_rfl
        rw [hta] at htrue
        cases htrue
      · have htrue := hall a (.inl rfl) (ha u hu).le
        rw [hta] at htrue
        cases htrue
    | true =>
      simp only [List.takeWhile_cons, hta, if_true, List.mem_cons, ih hl]
      constructor
      · rintro (rfl | ⟨hu, hall⟩)
        · refine ⟨.inl rfl, ?_⟩
          rintro v (rfl | hv) hle
          · exact hta
          · exact absurd hle (not_le.2 (ha v hv))
        · refine ⟨.inr hu, ?_⟩
          rintro v (rfl | hv) hle
          · exact hta
          · exact hall v hv hle
      · rintro ⟨rfl | hu, hall⟩
        · exact .inl rfl
        · exact .inr ⟨hu, fun v hv hle => hall v (.inr hv) hle⟩

theorem le_getLast_sorted (h : l.Pairwise fun a b => key a < key b) {last u : α}
    (hlast : l.getLast? = some last) (hu : u ∈ l) : key u ≤ key last := by
  obtain ⟨front, rfl⟩ := List.getLast?_eq_some_iff.1 hlast
  rcases List.mem_append.1 hu with hu | hu
  · exact ((List.pairwise_append.1 h).2.2 u hu last List.mem_cons_self).le
  · rw [List.mem_singleton.1 hu]

end Sorted

/-! ## The watermark -/

def Dealt (turns : Turns) (session : SessionIdentity) (turn : FormationTurn) : Prop :=
  turn ∈ turns.values ∧ turn.session = session ∧ ∀ other ∈ turns.values, other.session = session →
    orderKey other ≤ orderKey turn → handled other = true

variable {turns : Turns} {session : SessionIdentity} {turn first : FormationTurn}
  {test : FormationTurn → Bool} {f : FormationTurn → FormationTurn} {job : FormationJob}
  {jobId owner leaseToken : String} {now : Instant} {jobs : Jobs} {p : RangeParameters}
  {index : Dict String String} {rest : List FormationTurn}

theorem orderKey_inj {a b : FormationTurn} (ha : a ∈ turns.values) (hb : b ∈ turns.values)
    (h : orderKey a = orderKey b) : a = b := by
  have hid : a.turnId = b.turnId := congrArg (fun k => (ofLex k).2) h
  have hget := mem_turns.1 ha
  rw [hid, mem_turns.1 hb] at hget
  exact (Option.some.inj hget).symm

def sessionTurns (turns : Turns) (session : SessionIdentity) : List FormationTurn :=
  ordered (turns.values.filter (·.session = session))

theorem mem_sessionTurns :
    turn ∈ sessionTurns turns session ↔ turn ∈ turns.values ∧ turn.session = session := by
  rw [sessionTurns, ordered, List.mem_insertionSort, List.mem_filter, decide_eq_true_eq]

theorem sessionTurns_sorted (turns : Turns) (session : SessionIdentity) :
    (sessionTurns turns session).Pairwise fun a b => orderKey a < orderKey b := by
  have hle : (sessionTurns turns session).Pairwise fun a b => orderKey a ≤ orderKey b := by
    have htotal : Std.Total fun a b : FormationTurn => orderKey a ≤ orderKey b :=
      ⟨fun a b => le_total _ _⟩
    have htrans : IsTrans FormationTurn fun a b => orderKey a ≤ orderKey b :=
      ⟨fun _ _ _ h h' => h.trans h'⟩
    exact List.pairwise_insertionSort _ _
  have hnodup : (sessionTurns turns session).Nodup := by
    have hvalues : turns.values.Nodup := by
      refine List.Nodup.of_map (fun turn => turn.turnId) ?_
      have hkeys : turns.values.map (fun turn => turn.turnId) = turns.entries.map Prod.fst := by
        show (turns.entries.map Prod.snd).map _ = _
        rw [List.map_map]
        exact List.map_congr_left fun p hp => turns.keyed p hp
      rw [hkeys]
      exact turns.nodup
    exact (List.perm_insertionSort _ _).nodup_iff.2 (hvalues.filter _)
  refine (hle.and hnodup).imp_of_mem fun ha hb h => lt_of_le_of_ne h.1 fun heq => h.2 ?_
  exact orderKey_inj (mem_sessionTurns.1 ha).1 (mem_sessionTurns.1 hb).1 heq

theorem mem_dealt :
    turn ∈ (sessionTurns turns session).takeWhile handled ↔ Dealt turns session turn := by
  rw [mem_takeWhile_sorted (sessionTurns_sorted turns session)]
  simp only [mem_sessionTurns, Dealt, and_assoc, and_imp]

/-- The watermark is the last turn up to which everything is dealt with. -/
theorem contiguousLast_eq_some {last : String} :
    contiguousLast turns session = some last ↔ ∃ turn, Dealt turns session turn ∧
      turn.turnId = last ∧ ∀ other, Dealt turns session other → orderKey other ≤ orderKey turn := by
  have hsorted : ((sessionTurns turns session).takeWhile handled).Pairwise
      fun a b => orderKey a < orderKey b :=
    (sessionTurns_sorted turns session).sublist (List.takeWhile_sublist _)
  have hdef : contiguousLast turns session =
    ((sessionTurns turns session).takeWhile handled).getLast?.map (·.turnId) := rfl
  rw [hdef, Option.map_eq_some_iff]
  constructor
  · rintro ⟨turn, hlast, rfl⟩
    have hmem := List.mem_of_getLast? hlast
    exact ⟨turn, mem_dealt.1 hmem, rfl, fun other ho => le_getLast_sorted hsorted hlast (mem_dealt.2 ho)⟩
  · rintro ⟨turn, hd, rfl, hmax⟩
    cases hlast : ((sessionTurns turns session).takeWhile handled).getLast? with
    | none =>
      have hmem := mem_dealt.2 hd
      rw [List.getLast?_eq_none_iff.1 hlast] at hmem
      cases hmem
    | some last =>
      have hl := mem_dealt.1 (List.mem_of_getLast? hlast)
      have heq : orderKey last = orderKey turn :=
        le_antisymm (hmax last hl) (le_getLast_sorted hsorted hlast (mem_dealt.2 hd))
      exact ⟨last, rfl, congrArg (fun k => (ofLex k).2) heq⟩

theorem contiguousLast_eq_none :
    contiguousLast turns session = none ↔ ∀ turn, ¬Dealt turns session turn := by
  have hdef : contiguousLast turns session =
    ((sessionTurns turns session).takeWhile handled).getLast?.map (·.turnId) := rfl
  rw [hdef, Option.map_eq_none_iff, List.getLast?_eq_none_iff, List.eq_nil_iff_forall_not_mem]
  simp only [mem_dealt]

/-- Tables in which the same turns are dealt with have the same watermark. -/
theorem contiguousLast_congr {turns' : Turns}
    (h : ∀ k, (∃ turn, Dealt turns session turn ∧ orderKey turn = k) ↔
      ∃ turn, Dealt turns' session turn ∧ orderKey turn = k) :
    contiguousLast turns session = contiguousLast turns' session := by
  cases hlast : contiguousLast turns' session with
  | none =>
    rw [contiguousLast_eq_none] at hlast ⊢
    intro turn hd
    obtain ⟨turn', hd', -⟩ := (h _).1 ⟨turn, hd, rfl⟩
    exact hlast turn' hd'
  | some last =>
    rw [contiguousLast_eq_some] at hlast ⊢
    obtain ⟨turn', hd', rfl, hmax⟩ := hlast
    obtain ⟨turn, hd, heq⟩ := (h _).2 ⟨turn', hd', rfl⟩
    refine ⟨turn, hd, congrArg (fun k => (ofLex k).2) heq, fun other ho => ?_⟩
    obtain ⟨other', ho', heq'⟩ := (h _).1 ⟨other, ho, rfl⟩
    rw [← heq', heq]
    exact hmax other' ho'

/-- An update that changes neither the session nor the order nor whether a turn
is dealt with. -/
theorem contiguousLast_updateTurns {hf : ∀ turn, (f turn).turnId = turn.turnId}
    (hsame : ∀ turn ∈ turns.values, test turn = true → (f turn).session = turn.session ∧
      orderKey (f turn) = orderKey turn ∧ (turn.session = session → handled (f turn) = handled turn)) :
    contiguousLast (updateTurns turns test f hf) session = contiguousLast turns session := by
  let g := fun turn => if test turn then f turn else turn
  have hg : ∀ turn ∈ turns.values, (g turn).session = turn.session ∧
      orderKey (g turn) = orderKey turn ∧
      (turn.session = session → handled (g turn) = handled turn) := by
    intro turn hmem
    simp only [g]
    split
    · next ht => exact hsame turn hmem ht
    · exact ⟨rfl, rfl, fun _ => rfl⟩
  have hvalues : (updateTurns turns test f hf).values = turns.values.map g :=
    Table.values_mapValues _ _ _
  have hdealt : ∀ turn ∈ turns.values,
      (Dealt (updateTurns turns test f hf) session (g turn) ↔ Dealt turns session turn) := by
    intro turn hmem
    obtain ⟨hs, hk, -⟩ := hg turn hmem
    have hgmem : g turn ∈ turns.values.map g := List.mem_map_of_mem hmem
    simp only [Dealt, hvalues, hgmem, hmem, hs, hk, true_and, List.forall_mem_map]
    refine and_congr_right fun _ => forall₂_congr fun other hother => ?_
    obtain ⟨hs', hk', hh'⟩ := hg other hother
    rw [hs', hk']
    exact forall_congr' fun ho => by rw [hh' ho]
  refine contiguousLast_congr fun k => ⟨?_, ?_⟩
  · rintro ⟨turn', hd, hk⟩
    have hmem := hd.1
    rw [hvalues] at hmem
    obtain ⟨turn, hturn, rfl⟩ := List.mem_map.1 hmem
    exact ⟨turn, (hdealt turn hturn).1 hd, (hg turn hturn).2.1.symm.trans hk⟩
  · rintro ⟨turn, hd, hk⟩
    exact ⟨g turn, (hdealt turn hd.1).2 hd, (hg turn hd.1).2.1.trans hk⟩

/-- A new turn that is not dealt with and comes after the watermark of its session. -/
theorem contiguousLast_put {new : FormationTurn} (hfresh : turns.get? new.turnId = none)
    (hnot : handled new = false)
    (hafter : new.session = session → ∀ turn, Dealt turns session turn →
      orderKey turn < orderKey new) :
    contiguousLast (turns.put new) session = contiguousLast turns session := by
  have hvalues : (turns.put new).values = turns.values ++ [new] := Table.values_put_of_none hfresh
  have hdealt : ∀ turn, Dealt (turns.put new) session turn ↔ Dealt turns session turn := by
    intro turn
    simp only [Dealt, hvalues, List.mem_append, List.mem_singleton]
    constructor
    · rintro ⟨hmem, hs, hall⟩
      have hmem' : turn ∈ turns.values := by
        rcases hmem with hmem | rfl
        · exact hmem
        · have hself := hall turn (.inr rfl) hs le_rfl
          rw [hnot] at hself
          cases hself
      exact ⟨hmem', hs, fun other ho => hall other (.inl ho)⟩
    · intro hd
      refine ⟨.inl hd.1, hd.2.1, ?_⟩
      rintro other (ho | rfl) hs hle
      · exact hd.2.2 other ho hs hle
      · exact absurd hle (not_le.2 (hafter hs turn hd))
  exact contiguousLast_congr fun k => by simp only [hdealt]

theorem contiguousLast_formTurns_eq_none {ids : List String}
    (h : contiguousLast (formTurns turns ids) session = none) :
    contiguousLast turns session = none := by
  rw [contiguousLast_eq_none] at h ⊢
  intro turn hd
  let g := fun turn : FormationTurn => if decide (turn.turnId ∈ ids) then
    { turn with status := .formed } else turn
  have hvalues : (formTurns turns ids).values = turns.values.map g := Table.values_mapValues _ _ _
  have hg : ∀ turn : FormationTurn, (g turn).session = turn.session ∧
      orderKey (g turn) = orderKey turn ∧ (handled turn = true → handled (g turn) = true) := by
    intro turn
    simp only [g]
    split
    · exact ⟨rfl, rfl, fun _ => rfl⟩
    · exact ⟨rfl, rfl, fun h => h⟩
  refine h (g turn) ⟨?_, (hg turn).1.trans hd.2.1, ?_⟩
  · rw [hvalues]
    exact List.mem_map_of_mem hd.1
  · rw [hvalues, List.forall_mem_map]
    intro other ho hs hle
    obtain ⟨hs', hk', hh'⟩ := hg other
    rw [hs'] at hs
    rw [hk', (hg turn).2.1] at hle
    exact hh' (hd.2.2 other ho hs hle)

/-! ## The calls of the services -/

def validTurn (turn : FormationTurn) : Bool :=
  turn.tenantId ≠ "" && turn.userId ≠ "" && turn.sessionId ≠ "" &&
  1 ≤ turn.turnId.length && turn.turnId.length ≤ 128

/-- What the settings and the capture service give an append: a window of 1 to
100 turns, versions that are not empty, at least one attempt and an idle deadline. -/
def Served : Call → Prop
  | .appendTurn turn windowTurns p => validTurn turn = true ∧ turn.idleDeadlineAt.isSome = true ∧
    1 ≤ windowTurns ∧ windowTurns ≤ 100 ∧ p.modelVersion ≠ "" ∧ p.promptVersion ≠ "" ∧
    p.policyVersion ≠ "" ∧ 1 ≤ p.maxAttempts
  | _ => True

def AfterWatermark (repo : MemoryFormationTurnJobRepository) : Call → Prop
  | .appendTurn turn _ _ => ∀ last watermark, repo.successfulWatermark turn.session = some last →
    repo.turns.get? last = some watermark → repo.existingTurn turn = none →
    orderKey watermark < orderKey turn
  | _ => True

/-! ## Both repositories -/

/-- The two repositories hold the same turns and jobs, every job is found by its
key, and the watermarks in memory are current. -/
structure Agree (digest : String → String) (names : Naming)
    (repo : MemoryFormationTurnJobRepository) (d : FormationTables) : Prop where
  turns : repo.turns = d.turns
  jobs : repo.jobs = d.jobs
  partition : Partition digest names (ledger repo)
  indexed : Indexed repo
  keys : ∀ id job, repo.jobs.get? id = some job →
    repo.jobsByIdempotency.get? job.idempotencyKey = some id
  valid : ∀ turn ∈ repo.turns.values, validTurn turn = true
  marks : ∀ session, repo.watermarks.get? session = contiguousLast repo.turns session

section Simulation

variable {digest : String → String} {names : Naming} {repo : MemoryFormationTurnJobRepository}
  {d : FormationTables}

/-- The index and the scan of the table find the same job. -/
theorem Agree.find? (h : Agree digest names repo d) (key : String) :
    d.jobs.values.find? (·.idempotencyKey = key) =
      (repo.jobsByIdempotency.get? key).bind repo.jobs.get? := by
  rw [← h.jobs]
  cases hfind : repo.jobs.values.find? (·.idempotencyKey = key) with
  | none =>
    cases hget : repo.jobsByIdempotency.get? key with
    | none => rfl
    | some id =>
      obtain ⟨job, hjob, hkey⟩ := h.indexed key id hget
      have hid := jobId_of_get? hjob
      subst hid
      have hno := List.find?_eq_none.1 hfind job (mem_jobs.2 hjob)
      simp [hkey] at hno
  | some job =>
    have hmem := mem_jobs.1 (List.mem_of_find?_eq_some hfind)
    have hkey : job.idempotencyKey = key := by simpa using List.find?_some hfind
    have hidx := h.keys _ job hmem
    rw [hkey] at hidx
    rw [hidx]
    exact hmem.symm

theorem Agree.existing (h : Agree digest names repo d) (turn : FormationTurn) :
    repo.existingTurn turn = none ↔
      d.turns.values.find? (fun value => value.turnId = turn.turnId || sameRequest turn value) = none := by
  rw [MemoryFormationTurnJobRepository.existingTurn, Option.or_eq_none_iff, ← h.turns,
    List.find?_eq_none, List.find?_eq_none]
  constructor
  · rintro ⟨hid, hreq⟩ value hmem
    simp only [Bool.or_eq_true, decide_eq_true_eq, not_or]
    refine ⟨fun heq => ?_, hreq value hmem⟩
    rw [← heq, mem_turns.1 hmem] at hid
    cases hid
  · intro hall
    refine ⟨?_, fun value hmem hsame => hall value hmem (by simp [hsame])⟩
    cases hget : repo.turns.get? turn.turnId with
    | none => rfl
    | some old =>
      have hid := turnId_of_get? hget
      have hno := hall old (mem_turns.2 (by rw [hid]; exact hget))
      simp [hid] at hno

/-- What every move keeps of the agreement once the tables are equal again. -/
theorem Agree.intro {repo' : MemoryFormationTurnJobRepository} {d' : FormationTables}
    (h : Agree digest names repo d) (hturns : repo'.turns = d'.turns) (hjobs : repo'.jobs = d'.jobs)
    (hmoves : Moves digest names (ledger repo) (ledger repo')) (hindexed : Indexed repo')
    (hkeys : ∀ id job, repo'.jobs.get? id = some job →
      repo'.jobsByIdempotency.get? job.idempotencyKey = some id)
    (hvalid : ∀ turn ∈ repo'.turns.values, validTurn turn = true)
    (hmarks : ∀ session, repo'.watermarks.get? session = contiguousLast repo'.turns session) :
    Agree digest names repo' d' :=
  ⟨hturns, hjobs, h.partition.moves hmoves, hindexed, hkeys, hvalid, hmarks⟩

theorem keys_put {new : FormationJob}
    (hkeys : ∀ id job, jobs.get? id = some job → index.get? job.idempotencyKey = some id)
    (hnone : index.get? new.idempotencyKey = none) {id : String}
    (hget : (jobs.put new).get? id = some job) :
    (index.set new.idempotencyKey new.jobId).get? job.idempotencyKey = some id := by
  rw [Table.get?_put] at hget
  rw [Dict.get?_set]
  split at hget
  · next hid =>
    cases hget
    rw [if_pos rfl, ← hid]
  · have hold := hkeys id job hget
    rw [if_neg]
    · exact hold
    · intro heq
      rw [← heq, hnone] at hold
      cases hold

theorem keys_rework {jobs' : Jobs}
    (hkeys : ∀ id job, jobs.get? id = some job → index.get? job.idempotencyKey = some id)
    (hr : Reworked jobs jobs') {id : String} (hget : jobs'.get? id = some job) :
    index.get? job.idempotencyKey = some id := by
  cases hold : jobs.get? id with
  | none =>
    rw [(hr id).1 hold] at hget
    cases hget
  | some old =>
    obtain ⟨job', hjob', hf, -⟩ := (hr id).2 old hold
    rw [hget] at hjob'
    cases hjob'
    rw [show job.idempotencyKey = old.idempotencyKey from congrArg Frozen.idempotencyKey hf]
    exact hkeys id old hold

theorem valid_updateTurns {hf : ∀ turn, (f turn).turnId = turn.turnId}
    (hv : ∀ turn ∈ turns.values, validTurn turn = true)
    (hsame : ∀ turn, validTurn (f turn) = validTurn turn) :
    ∀ turn ∈ (updateTurns turns test f hf).values, validTurn turn = true := by
  have hvalues : (updateTurns turns test f hf).values =
      turns.values.map fun turn => if test turn then f turn else turn :=
    Table.values_mapValues _ _ _
  rw [hvalues, List.forall_mem_map]
  intro turn hmem
  split
  · rw [hsame]
    exact hv turn hmem
  · exact hv turn hmem

theorem handled_of_waits (h : waits session turn = true) : handled turn = false := by
  simp [handled, (waits_iff.1 h).2.1]

theorem contiguousLast_claimTurns {ids : List String} {session' : SessionIdentity}
    (hwait : ∀ turn ∈ turns.values, turn.turnId ∈ ids → waits session turn = true) :
    contiguousLast (claimTurns turns ids jobId) session' = contiguousLast turns session' := by
  refine contiguousLast_updateTurns fun turn hmem htest => ⟨rfl, rfl, fun _ => ?_⟩
  rw [handled_of_waits (hwait turn hmem (of_decide_eq_true htest))]
  rfl

theorem contiguousLast_setDeadline (turns : Turns) (session session' : SessionIdentity)
    (deadline : Option Instant) :
    contiguousLast (setDeadline turns session deadline) session' = contiguousLast turns session' :=
  contiguousLast_updateTurns fun _ _ _ => ⟨rfl, rfl, fun _ => rfl⟩

/-- The ids of listed waiting turns are ids of waiting turns. -/
theorem waits_of_mem {range : List FormationTurn}
    (hwait : ∀ t ∈ range, turns.get? t.turnId = some t ∧ waits session t = true)
    (turn : FormationTurn) (hmem : turn ∈ turns.values) (hid : turn.turnId ∈ range.map (·.turnId)) :
    waits session turn = true := by
  obtain ⟨t, ht, heq⟩ := List.mem_map.1 hid
  obtain ⟨hget, hw⟩ := hwait t ht
  have hget' := mem_turns.1 hmem
  rw [← show t.turnId = turn.turnId from heq, hget] at hget'
  cases hget'
  exact hw

theorem validates_rangeJob {trigger : MemoryFormationTrigger}
    (hv : ∀ turn ∈ first :: rest, validTurn turn = true) (hlen : (first :: rest).length ≤ 100)
    (hp : p.modelVersion ≠ "" ∧ p.promptVersion ≠ "" ∧ p.policyVersion ≠ "" ∧ 1 ≤ p.maxAttempts) :
    validates (rangeJob digest first rest trigger p) = true := by
  have hkey : formationRangeIdempotencyKey digest first.session first.turnId
      ((first :: rest).getLast (List.cons_ne_nil _ _)).turnId p.policyVersion ≠ "" := by
    intro h
    have hlist := congrArg String.toList h
    rw [formationRangeIdempotencyKey, String.toList_append] at hlist
    have hhead := (List.append_eq_nil_iff.1 hlist).1
    simp at hhead
  have hfirst := hv first List.mem_cons_self
  have hids : ((first :: rest).map (·.turnId)).all
      (fun id => 1 ≤ id.length && id.length ≤ 128) = true := by
    rw [List.all_eq_true, List.forall_mem_map]
    intro turn hmem
    have hturn := hv turn hmem
    simp only [validTurn, Bool.and_eq_true] at hturn ⊢
    exact ⟨hturn.1.2, hturn.2⟩
  simp only [validTurn, Bool.and_eq_true] at hfirst
  simp only [validates, rangeJob, List.length_map, hids, Bool.and_eq_true]
  exact ⟨⟨⟨⟨⟨⟨⟨⟨hfirst.1.1.1.1, hfirst.1.1.1.2⟩, decide_eq_true hlen⟩, trivial⟩,
    decide_eq_true hkey⟩, decide_eq_true hp.1⟩, decide_eq_true hp.2.1⟩, decide_eq_true hp.2.2.1⟩,
    decide_eq_true hp.2.2.2⟩

/-- Everything dealt with in the session comes before a turn after its watermark. -/
theorem Agree.dealt_lt (h : Agree digest names repo d) {other : FormationTurn} {windowTurns : Nat}
    (hafter : AfterWatermark repo (.appendTurn turn windowTurns p))
    (hnone : repo.existingTurn turn = none) (hd : Dealt repo.turns turn.session other) :
    orderKey other < orderKey turn := by
  cases hmark : contiguousLast repo.turns turn.session with
  | none => exact absurd hd (contiguousLast_eq_none.1 hmark other)
  | some last =>
    obtain ⟨watermark, hw, rfl, hmax⟩ := contiguousLast_eq_some.1 hmark
    have hlt := hafter watermark.turnId watermark ((h.marks _).trans hmark) (mem_turns.1 hw.1) hnone
    exact lt_of_le_of_lt (hmax other hd) hlt

/-- Both repositories compute the same deadline for the waiting turns. -/
theorem deadlines_agree {deadlines : List Instant} {x : Instant} (hmem : x ∈ deadlines) :
    ∃ m, deadlines.max?.or (some x) = some m ∧
      ([deadlines.max?, some x].filterMap id).max? = some m := by
  cases hmax : deadlines.max? with
  | none =>
    rw [List.max?_eq_none_iff.1 hmax] at hmem
    cases hmem
  | some m =>
    have hle : x ≤ m := (List.max?_eq_some_iff.1 hmax).2 x hmem
    refine ⟨m, rfl, ?_⟩
    show some (max m x) = some m
    rw [max_eq_left hle]

/-- A range job over waiting turns leaves the repositories in agreement. -/
theorem Agree.range {known : List FormationTurn} (trigger : MemoryFormationTrigger)
    (h : Agree digest names repo d) (hcap : Moves digest names (ledger repo) ⟨turns, repo.jobs⟩)
    (hvalid : ∀ turn ∈ turns.values, validTurn turn = true)
    (hmarks : ∀ session, contiguousLast turns session = contiguousLast repo.turns session)
    (hwait : ∀ t ∈ first :: rest, turns.get? t.turnId = some t ∧ waits session t = true)
    (hindex : repo.jobsByIdempotency.get?
      (rangeJob digest first rest trigger p).idempotencyKey = none)
    (hf : Fresh digest names known repo.jobs p) :
    Agree digest names
      { repo with
        turns := claimTurns turns ((first :: rest).map (·.turnId)) p.jobId
        jobs := repo.jobs.put (rangeJob digest first rest trigger p)
        jobsByIdempotency := repo.jobsByIdempotency.set
          (rangeJob digest first rest trigger p).idempotencyKey p.jobId }
      { d with
        turns := claimTurns turns ((first :: rest).map (·.turnId)) p.jobId
        jobs := d.jobs.put (rangeJob digest first rest trigger p) } := by
  have hmove : Move digest names ⟨turns, repo.jobs⟩
      ⟨claimTurns turns ((first :: rest).map (·.turnId)) p.jobId,
        repo.jobs.put (rangeJob digest first rest trigger p)⟩ :=
    Partition.range_move (s := ⟨turns, repo.jobs⟩) hwait hf
  refine h.intro rfl ?_ (hcap.tail hmove) (h.indexed.put hf.jobId)
    (fun id job hget => keys_put h.keys hindex hget) ?_ fun session' => ?_
  · rw [h.jobs]
  · exact valid_updateTurns hvalid fun _ => rfl
  · show repo.watermarks.get? session' = contiguousLast (claimTurns turns _ _) session'
    rw [contiguousLast_claimTurns (waits_of_mem hwait), hmarks, h.marks]

open MemoryFormationTurnJobRepository Repositories.Formation.Db in
theorem append_agree {turn : FormationTurn} {windowTurns : Nat} {p : RangeParameters}
    (h : Agree digest names repo d) (hc : Captured names turn)
    (hf : Fresh digest names (turn :: repo.turns.values) repo.jobs p)
    (hs : Served (.appendTurn turn windowTurns p))
    (hafter : AfterWatermark repo (.appendTurn turn windowTurns p)) :
    Agree digest names (repo.appendTurnAndMaybeCreateWindowJob digest turn windowTurns p).2
      (Db.appendTurnAndMaybeCreateWindowJob d digest turn windowTurns p).2 := by
  obtain ⟨hturn, hidle, hw1, hw100, hp⟩ := hs
  obtain ⟨x, hx⟩ := Option.isSome_iff_exists.1 hidle
  simp only [MemoryFormationTurnJobRepository.appendTurnAndMaybeCreateWindowJob,
    Db.appendTurnAndMaybeCreateWindowJob]
  cases hex : repo.existingTurn turn with
  | some existing =>
    cases hfind : d.turns.values.find?
        (fun value => value.turnId = turn.turnId || sameRequest turn value) with
    | none =>
      rw [(h.existing turn).2 hfind] at hex
      cases hex
    | some _ => exact h
  | none =>
    rw [(h.existing turn).1 hex]
    have hfresh : repo.turns.get? turn.turnId = none := by
      rw [existingTurn, Option.or_eq_none_iff] at hex
      exact hex.1
    -- the deadline
    have hstored : x ∈ ((repo.turns.put turn).values.filter (waits turn.session)).filterMap
        (·.idleDeadlineAt) := by
      refine List.mem_filterMap.2 ⟨turn, List.mem_filter.2 ⟨?_, hc.waits⟩, hx⟩
      exact mem_turns.2 (Table.get?_put_self _ _)
    obtain ⟨deadline, hmem, hdb⟩ := deadlines_agree hstored
    rw [← h.turns, hx, hmem, hdb]
    dsimp only
    -- the capture
    have hcap : Move digest names (ledger repo)
        ⟨setDeadline (repo.turns.put turn) turn.session (some deadline), repo.jobs⟩ :=
      .capture hfresh hc.waits hc.named
    have hpart := h.partition.move hcap
    have hvalid : ∀ t ∈ (setDeadline (repo.turns.put turn) turn.session (some deadline)).values,
        validTurn t = true := by
      refine valid_updateTurns ?_ fun _ => rfl
      rw [Table.values_put_of_none hfresh]
      intro t ht
      rcases List.mem_append.1 ht with ht | ht
      · exact h.valid t ht
      · rw [List.mem_singleton.1 ht]
        exact hturn
    have hmarks : ∀ session,
        contiguousLast (setDeadline (repo.turns.put turn) turn.session (some deadline)) session =
          contiguousLast repo.turns session := by
      intro session
      rw [contiguousLast_setDeadline]
      refine contiguousLast_put hfresh (handled_of_waits hc.waits) ?_
      rintro rfl other hd
      exact h.dealt_lt hafter hex hd
    by_cases hlen : windowTurns ≤ (listPendingTurns
        (setDeadline (repo.turns.put turn) turn.session (some deadline)) turn.session).length
    · rw [if_pos hlen, if_pos hlen]
      cases hrange : (listPendingTurns (setDeadline (repo.turns.put turn) turn.session
          (some deadline)) turn.session).take windowTurns with
      | nil =>
        have hnil := congrArg List.length hrange
        rw [List.length_take, List.length_nil] at hnil
        omega
      | cons first rest =>
        have hwait : ∀ t ∈ first :: rest, (setDeadline (repo.turns.put turn) turn.session
            (some deadline)).get? t.turnId = some t ∧ waits turn.session t = true := by
          intro t ht
          rw [← hrange] at ht
          exact mem_listPendingTurns.1 (List.mem_of_mem_take ht)
        have hbuild : validates (rangeJob digest first rest .turnWindow p) = true := by
          refine validates_rangeJob (fun t ht => hvalid t (mem_turns.2 (hwait t ht).1)) ?_ hp
          rw [← hrange, List.length_take]
          omega
        have hne : ∀ id job, repo.jobs.get? id = some job → job.idempotencyKey ≠
            (rangeJob digest first rest .turnWindow p).idempotencyKey :=
          fun _ _ hget => hpart.key_ne .turnWindow hwait
            (fun t ht => known_of_capture (hwait t ht).1) hf hget
        have hindex := h.indexed.get?_eq_none hne
        have hfind := find?_eq_none hne
        rw [h.jobs] at hfind
        simp only [buildRangeJob, hbuild, if_true, storeRange, hindex, hfind]
        rw [insertJob_fresh (by rw [← h.jobs]; exact hf.jobId)]
        exact h.range .turnWindow (.single hcap) hvalid hmarks hwait hindex hf
    · rw [if_neg hlen, if_neg hlen]
      exact h.intro rfl h.jobs (.single hcap) h.indexed h.keys hvalid fun session =>
        (h.marks session).trans (hmarks session).symm

open MemoryFormationTurnJobRepository Repositories.Formation.Db in
theorem create_agree {session : SessionIdentity} {trigger : MemoryFormationTrigger}
    {maxTurns : Option Nat} {due : Option Instant} {p : RangeParameters}
    (h : Agree digest names repo d) (hf : Fresh digest names repo.turns.values repo.jobs p) :
    Agree digest names (repo.createJobForPending digest session trigger maxTurns due p).2
      (Db.createJobForPending d digest session trigger maxTurns due p).2 := by
  simp only [MemoryFormationTurnJobRepository.createJobForPending, Db.createJobForPending]
  rw [← h.turns]
  cases hrange : limited maxTurns (listPendingTurns repo.turns session) with
  | nil => exact h
  | cons first rest =>
    have hwait : ∀ t ∈ first :: rest,
        repo.turns.get? t.turnId = some t ∧ waits session t = true := by
      intro t ht
      rw [← hrange] at ht
      exact mem_listPendingTurns.1 (mem_limited ht)
    have hne : ∀ id job, repo.jobs.get? id = some job → job.idempotencyKey ≠
        (rangeJob digest first rest trigger p).idempotencyKey :=
      fun _ _ hget => h.partition.key_ne trigger hwait
        (fun t ht => known_of_stored (hwait t ht).1) hf hget
    have hindex := h.indexed.get?_eq_none hne
    have hfind := find?_eq_none hne
    rw [h.jobs] at hfind
    dsimp only
    split
    · exact h
    · rw [hindex, hfind]
      dsimp only
      split
      · rw [insertJob_fresh (by rw [← h.jobs]; exact hf.jobId)]
        exact h.range trigger .refl h.valid (fun _ => rfl) hwait hindex hf
      · exact h

open MemoryFormationTurnJobRepository Repositories.Formation.Db in
theorem add_agree {job : FormationJob} (h : Agree digest names repo d) (hs : Structured names job) :
    Agree digest names (repo.addJob job).2 (Db.addJob d job).2 := by
  have hfind := h.find? job.idempotencyKey
  simp only [MemoryFormationTurnJobRepository.addJob, Db.addJob]
  cases hindex : repo.jobsByIdempotency.get? job.idempotencyKey with
  | some existingId =>
    obtain ⟨existing, hget, -⟩ := h.indexed _ _ hindex
    rw [hindex] at hfind
    simp only [Option.bind_some, hget] at hfind ⊢
    rw [hfind]
    exact h
  | none =>
    rw [hindex] at hfind
    simp only [Option.bind_none] at hfind
    rw [hfind, ← h.jobs]
    cases hget : repo.jobs.get? job.jobId with
    | some existing => exact h
    | none =>
      have hkeyed := hs.keyed_of digest
      have hmove : Move digest names (ledger repo) ⟨repo.turns, repo.jobs.put job⟩ :=
        .structured hkeyed.1 hkeyed.2 hget
      exact h.intro h.turns rfl (.single hmove) (h.indexed.put hget)
        (fun id other hother => keys_put h.keys hindex hother) h.valid h.marks

/-- Work on jobs that both repositories do the same way. -/
theorem Agree.rework (h : Agree digest names repo d) (grants : List Grant)
    (hr : Reworked repo.jobs jobs) :
    Agree digest names { repo with jobs := jobs } { d with jobs := jobs, grants := grants } :=
  h.intro h.turns rfl (.single (.rework hr)) (h.indexed.rework repo.turns hr)
    (fun _ _ hget => keys_rework h.keys hr hget) h.valid h.marks

theorem claim_agree {lease : Int} (h : Agree digest names repo d) :
    Agree digest names (repo.claimJob owner leaseToken now lease).2
      ((Repositories.Formation.Db.claimJob owner leaseToken now lease).run d).2 := by
  rw [Db.run_claimJob, ← h.jobs]
  simp only [MemoryFormationTurnJobRepository.claimJob]
  have hsweep := reworked_sweep now repo.jobs
  cases hjob : (byClaimKey ((sweep now repo.jobs).values.filter (eligible now))).head? with
  | none => exact h.rework _ hsweep
  | some job =>
    have hmem := List.mem_of_mem_head? hjob
    rw [byClaimKey, List.mem_insertionSort, List.mem_filter] at hmem
    have hput : Reworked (sweep now repo.jobs)
        ((sweep now repo.jobs).put (claimed owner leaseToken now lease job)) := by
      refine reworked_put (mem_jobs.1 hmem.1) rfl fun hs => ?_
      have helig := hmem.2
      simp [eligible, hs] at helig
    exact (h.rework d.grants hsweep).rework _ hput

theorem claimedJob_eq (hget : repo.jobs.get? jobId = some job)
    (hheld : heldBy owner leaseToken now job = true) :
    repo.claimedJob jobId owner leaseToken now = .ok job := by
  obtain ⟨hs, ho, ht, he⟩ := heldBy_iff.1 hheld
  have hrun : job.leaseExpiresAt.all (· ≤ now) = false := by
    cases hexp : job.leaseExpiresAt with
    | none => simp [hexp] at he
    | some at' => simpa [hexp] using he
  simp [MemoryFormationTurnJobRepository.claimedJob, hget, hs, ho, ht, hrun]

/-- A worker has the lease in both repositories or in none. -/
theorem Agree.held_cases (h : Agree digest names repo d) (jobId owner leaseToken : String)
    (now : Instant) :
    (∃ job, repo.jobs.get? jobId = some job ∧ heldBy owner leaseToken now job = true ∧
      repo.claimedJob jobId owner leaseToken now = .ok job ∧ d.jobs.get? jobId = some job) ∨
    ∃ e, repo.claimedJob jobId owner leaseToken now = .error e ∧ (d.jobs.get? jobId = none ∨
      ∃ job, d.jobs.get? jobId = some job ∧ heldBy owner leaseToken now job = false) := by
  rw [← h.jobs]
  cases hclaimed : repo.claimedJob jobId owner leaseToken now with
  | ok job =>
    obtain ⟨hget, hheld⟩ := claimedJob_ok hclaimed
    exact .inl ⟨job, hget, hheld, rfl, hget⟩
  | error e =>
    refine .inr ⟨e, rfl, ?_⟩
    cases hget : repo.jobs.get? jobId with
    | none => exact .inl rfl
    | some job =>
      refine .inr ⟨job, rfl, Bool.eq_false_iff.2 fun hheld => ?_⟩
      rw [claimedJob_eq hget hheld] at hclaimed
      cases hclaimed

/-- The listed turns are of the job's session, which has a name. -/
theorem Agree.job_session (h : Agree digest names repo d) {id : String}
    (hget : repo.jobs.get? id = some job) (hrange : isRange job = true) :
    ∃ sessionId, job.sessionId = some sessionId ∧ sessionId ≠ "" ∧
      ∀ turn ∈ repo.turns.values, turn.turnId ∈ job.sourceRefs →
        turn.session = ⟨job.tenantId, job.userId, sessionId⟩ := by
  have hkeyed := h.partition.keyed id job hget
  rw [Keyed, if_pos hrange] at hkeyed
  obtain ⟨turn, hturn, -, -, -, hsession⟩ := h.partition.listed id job hget hrange _ hkeyed.1
  have hvalid := h.valid turn (mem_turns.2 (by rw [turnId_of_get? hturn]; exact hturn))
  simp only [validTurn, Bool.and_eq_true, decide_eq_true_eq] at hvalid
  refine ⟨turn.sessionId, hsession, hvalid.1.1.2, fun other hother href => ?_⟩
  obtain ⟨t, ht, -, htenant, huser, hs⟩ := h.partition.listed id job hget hrange _ href
  have heq : other = t := Option.some.inj ((mem_turns.1 hother).symm.trans ht)
  have hid : t.session.sessionId = turn.sessionId := Option.some.inj (hs.symm.trans hsession)
  rw [heq, htenant, huser, ← hid]

/-- The watermarks in memory after the turns of a job are formed. -/
theorem Agree.marks_complete (h : Agree digest names repo d) {id : String} (jobs : Jobs)
    (hget : repo.jobs.get? id = some job) (session : SessionIdentity) :
    (match job.sessionId.filter (· ≠ "") with
      | none => { repo with turns := formTurns repo.turns job.sourceRefs, jobs := jobs }
      | some sessionId => MemoryFormationTurnJobRepository.advanceContiguousWatermark
        { repo with turns := formTurns repo.turns job.sourceRefs, jobs := jobs }
        ⟨job.tenantId, job.userId, sessionId⟩).watermarks.get? session =
      contiguousLast (formTurns repo.turns job.sourceRefs) session := by
  -- a session whose turns are none of the job's keeps its watermark
  have hother : (∀ turn ∈ repo.turns.values, turn.turnId ∈ job.sourceRefs →
      turn.session ≠ session) →
      contiguousLast (formTurns repo.turns job.sourceRefs) session =
        contiguousLast repo.turns session := by
    intro hne
    refine contiguousLast_updateTurns fun turn hmem htest => ⟨rfl, rfl, fun hs => ?_⟩
    exact absurd hs (hne turn hmem (of_decide_eq_true htest))
  have hadvance : ∀ own : SessionIdentity, (session ≠ own →
      contiguousLast (formTurns repo.turns job.sourceRefs) session =
        contiguousLast repo.turns session) →
      (MemoryFormationTurnJobRepository.advanceContiguousWatermark
        { repo with turns := formTurns repo.turns job.sourceRefs, jobs := jobs }
        own).watermarks.get? session =
      contiguousLast (formTurns repo.turns job.sourceRefs) session := by
    intro own hne
    simp only [MemoryFormationTurnJobRepository.advanceContiguousWatermark]
    split
    · next hnone =>
      by_cases heq : session = own
      · rw [heq, hnone, h.marks]
        exact contiguousLast_formTurns_eq_none hnone
      · rw [hne heq, h.marks]
    · next last hlast =>
      dsimp only
      rw [Dict.get?_set]
      split
      · next heq => rw [← heq, hlast]
      · next hns => rw [hne (Ne.symm hns), h.marks]
  cases hrange : isRange job with
  | false =>
    have hsame := h.partition.formTurns_structured (s := ledger repo) hget hrange
    have hkeep : contiguousLast (formTurns repo.turns job.sourceRefs) session =
        contiguousLast repo.turns session := congrArg (contiguousLast · session) hsame
    split
    · exact (h.marks session).trans hkeep.symm
    · exact hadvance _ fun _ => hkeep
  | true =>
    obtain ⟨sessionId, hs, hne, hall⟩ := h.job_session hget hrange
    rw [hs]
    simp only [Option.filter, hne, ne_eq, not_false_eq_true, decide_true, if_true]
    refine hadvance _ fun hsession => hother fun turn hmem href heq => ?_
    exact hsession (heq.symm.trans (hall turn hmem href))

theorem complete_agree {traceSummary : Option JsonDict} (h : Agree digest names repo d) :
    Agree digest names (repo.completeJob jobId owner leaseToken now traceSummary).2
      ((Repositories.Formation.Db.completeJob jobId owner leaseToken now traceSummary).run d).2 := by
  rw [Db.run_completeJob]
  simp only [MemoryFormationTurnJobRepository.completeJob]
  rcases h.held_cases jobId owner leaseToken now with
    ⟨job, hget, hheld, hclaimed, hrow⟩ | ⟨e, hclaimed, hrow | ⟨job, hrow, hheld⟩⟩
  · rw [hclaimed, hrow]
    dsimp only
    rw [if_pos hheld, ← h.jobs, ← h.turns]
    have hid := jobId_of_get? hget
    subst hid
    generalize hdone : completed now (JsonDict.merge job.traceSummary (traceSummary.getD [])) job =
      done
    have hfrozen : frozen done = frozen job := hdone ▸ rfl
    have hcompleted : done.status = .completed := hdone ▸ rfl
    have hmove : Move digest names (ledger repo)
        ⟨formTurns repo.turns job.sourceRefs, repo.jobs.put done⟩ :=
      .complete hget hfrozen hcompleted
    have hr : Reworked repo.jobs (repo.jobs.put done) :=
      reworked_put hget hfrozen fun _ => hcompleted
    have hmarks := h.marks_complete (repo.jobs.put done) hget
    have hi := h.indexed.rework (formTurns repo.turns job.sourceRefs) hr
    have hkeys : ∀ id job, (repo.jobs.put done).get? id = some job →
        repo.jobsByIdempotency.get? job.idempotencyKey = some id :=
      fun _ _ hget' => keys_rework h.keys hr hget'
    have hvalid : ∀ turn ∈ (formTurns repo.turns job.sourceRefs).values, validTurn turn = true :=
      valid_updateTurns h.valid fun _ => rfl
    split
    · next hs =>
      rw [hs] at hmarks
      exact h.intro rfl rfl (.single hmove) hi hkeys hvalid hmarks
    · next sessionId hs =>
      rw [hs] at hmarks
      dsimp only at hmarks
      simp only [MemoryFormationTurnJobRepository.advanceContiguousWatermark] at hmarks ⊢
      split
      · next hnone =>
        simp only [hnone] at hmarks
        exact h.intro rfl rfl (.single hmove) hi hkeys hvalid hmarks
      · next last hlast =>
        simp only [hlast] at hmarks
        exact h.intro rfl rfl (.single hmove) hi hkeys hvalid hmarks
  · rw [hclaimed, hrow]
    exact h
  · rw [hclaimed, hrow]
    dsimp only
    rw [hheld]
    exact h

theorem fail_agree {errorCode : String} {nextAttemptAt : Instant} (h : Agree digest names repo d) :
    Agree digest names (repo.failJob jobId owner leaseToken now errorCode nextAttemptAt).2
      ((Repositories.Formation.Db.failJob jobId owner leaseToken now errorCode nextAttemptAt).run
        d).2 := by
  rw [Db.run_failJob]
  simp only [MemoryFormationTurnJobRepository.failJob]
  rcases h.held_cases jobId owner leaseToken now with
    ⟨job, hget, hheld, hclaimed, hrow⟩ | ⟨e, hclaimed, hrow | ⟨job, hrow, hheld⟩⟩
  · rw [hclaimed, hrow]
    dsimp only
    rw [if_pos hheld, ← h.jobs]
    have hid := jobId_of_get? hget
    subst hid
    refine h.rework _ (reworked_put hget rfl fun hs => ?_)
    rw [(heldBy_iff.1 hheld).1] at hs
    cases hs
  · rw [hclaimed, hrow]
    exact h
  · rw [hclaimed, hrow]
    dsimp only
    rw [hheld]
    exact h

theorem Agree.call {call : Call} (h : Agree digest names repo d)
    (ha : Admissible digest names repo.turns repo.jobs call) (hs : Served call)
    (hafter : AfterWatermark repo call) :
    Agree digest names (repo.call digest call).2 (Repositories.Formation.Db.call d digest call).2 := by
  cases call with
  | appendTurn turn windowTurns p => exact append_agree h ha.1 ha.2 hs hafter
  | createJobForPending session trigger maxTurns due p => exact create_agree h ha
  | addJob job => exact add_agree h ha
  | claimJob owner leaseToken now lease => exact claim_agree h
  | completeJob jobId owner leaseToken now traceSummary => exact complete_agree h
  | failJob jobId owner leaseToken now errorCode nextAttemptAt => exact fail_agree h

end Simulation

/-! ## Runs -/

section Runs

variable (digest : String → String) (names : Naming)

def bothRuns : LTS (MemoryFormationTurnJobRepository × FormationTables) Call where
  init s := s = (.empty, ⟨.empty, .empty, []⟩)
  step s call s' := Admissible digest names s.1.turns s.1.jobs call ∧ Served call ∧
    s' = ((s.1.call digest call).2, (Repositories.Formation.Db.call s.2 digest call).2)

variable {digest names}

theorem bothRuns_agree {s : MemoryFormationTurnJobRepository × FormationTables}
    (hr : ((bothRuns digest names).guarded fun s call => AfterWatermark s.1 call).Reachable s) :
    Agree digest names s.1 s.2 := by
  induction hr with
  | init h0 =>
    cases h0
    refine ⟨rfl, rfl, Partition.empty digest names, fun key id hget => ?_, fun id job hget => ?_,
      fun turn hmem => ?_, fun session => rfl⟩
    · cases hget
    · cases hget
    · cases hmem
  | step _ hst ih =>
    obtain ⟨hafter, ha, hs, rfl⟩ := hst
    exact ih.call ha hs hafter

/-- **The watermark of a session.** If every new turn comes after the watermark
its session has in memory, both repositories report the same watermark for every
session, and every turn of the session up to it is formed or skipped. -/
theorem watermarks_agree {s : MemoryFormationTurnJobRepository × FormationTables}
    (hr : ((bothRuns digest names).guarded fun s call => AfterWatermark s.1 call).Reachable s)
    (session : SessionIdentity) :
    s.1.successfulWatermark session = Repositories.Formation.Db.successfulWatermark s.2 session ∧
    ∀ last, s.1.successfulWatermark session = some last →
      (∃ watermark, s.1.turns.get? last = some watermark ∧ watermark.session = session ∧
        ∀ turn ∈ s.1.turns.values, turn.session = session → orderKey turn ≤ orderKey watermark →
          turn.status = .formed ∨ turn.status = .skipped) ∧
      ∃ watermark, s.2.turns.get? last = some watermark ∧ watermark.session = session ∧
        ∀ turn ∈ s.2.turns.values, turn.session = session → orderKey turn ≤ orderKey watermark →
          turn.status = .formed ∨ turn.status = .skipped := by
  have h := bothRuns_agree hr
  have hmark : s.1.successfulWatermark session = contiguousLast s.1.turns session := h.marks session
  refine ⟨?_, fun last hlast => ?_⟩
  · rw [hmark, h.turns]
    rfl
  · rw [hmark] at hlast
    obtain ⟨watermark, ⟨hmem, hsession, hall⟩, rfl, -⟩ := contiguousLast_eq_some.1 hlast
    have hhandled : ∀ turn ∈ s.1.turns.values, turn.session = session →
        orderKey turn ≤ orderKey watermark → turn.status = .formed ∨ turn.status = .skipped := by
      intro turn hturn hs hle
      simpa [handled] using hall turn hturn hs hle
    refine ⟨⟨watermark, mem_turns.1 hmem, hsession, hhandled⟩, ?_⟩
    rw [← h.turns]
    exact ⟨watermark, mem_turns.1 hmem, hsession, hhandled⟩

end Runs

/-! ## A late turn -/

def noonCalls : List Call :=
  [.appendTurn (dayTurn "noon" 12) 1 (dayParameters "mfjob_1"),
    .claimJob "worker" "token" 30 60, .completeJob "mfjob_1" "worker" "token" 40 none]

def lateCall : Call := .appendTurn (dayTurn "morning" 8) 2 (dayParameters "mfjob_2")

def both (s : MemoryFormationTurnJobRepository × FormationTables) :
    List Call → MemoryFormationTurnJobRepository × FormationTables
  | [] => s
  | call :: calls =>
    both ((s.1.call id call).2, (Repositories.Formation.Db.call s.2 id call).2) calls

def noonState : MemoryFormationTurnJobRepository × FormationTables :=
  both (.empty, ⟨.empty, .empty, []⟩) noonCalls

theorem dayParameters_served (jobId : String) :
    (dayParameters jobId).modelVersion ≠ "" ∧ (dayParameters jobId).promptVersion ≠ "" ∧
      (dayParameters jobId).policyVersion ≠ "" ∧ 1 ≤ (dayParameters jobId).maxAttempts := by
  simp only [dayParameters]
  decide

theorem noon_reachable :
    ((bothRuns id dayNames).guarded fun s call => AfterWatermark s.1 call).Reachable noonState := by
  have h0 : ((bothRuns id dayNames).guarded fun s call => AfterWatermark s.1 call).Reachable
      (.empty, ⟨.empty, .empty, []⟩) := .init rfl
  refine .step (l := .completeJob "mfjob_1" "worker" "token" 40 none)
    (.step (l := .claimJob "worker" "token" 30 60)
      (.step (l := .appendTurn (dayTurn "noon" 12) 1 (dayParameters "mfjob_1")) h0 ⟨?_, ?_, ?_, rfl⟩)
      ⟨trivial, trivial, trivial, rfl⟩) ⟨trivial, trivial, trivial, rfl⟩
  · intro last watermark hmark
    cases hmark
  · refine ⟨⟨rfl, rfl, .inl rfl⟩, by decide, rfl, ?_⟩
    exact fun _ _ _ _ _ _ _ h => h
  · exact ⟨by decide, rfl, by decide, by decide, dayParameters_served _⟩

/-- The window of noon is formed; nothing came late. -/
theorem watermarks_agree_noon :
    noonState.1.successfulWatermark day =
      Repositories.Formation.Db.successfulWatermark noonState.2 day ∧
    (∃ watermark, noonState.1.turns.get? "noon" = some watermark ∧ watermark.session = day ∧
      ∀ turn ∈ noonState.1.turns.values, turn.session = day →
        orderKey turn ≤ orderKey watermark → turn.status = .formed ∨ turn.status = .skipped) := by
  obtain ⟨heq, hall⟩ := watermarks_agree noon_reachable day
  exact ⟨heq, (hall "noon" (by decide)).1⟩

/-- With the late turn the repositories report different watermarks, and the one
in memory covers a turn that still waits. -/
theorem late_turn_splits_watermark :
    ∃ s, (bothRuns id dayNames).Reachable s ∧
      s.1.successfulWatermark day ≠ Repositories.Formation.Db.successfulWatermark s.2 day ∧
      ∃ watermark turn, s.1.successfulWatermark day = some watermark.turnId ∧
        s.1.turns.get? watermark.turnId = some watermark ∧
        s.1.turns.get? turn.turnId = some turn ∧ turn.session = day ∧
        orderKey turn ≤ orderKey watermark ∧ turn.status = .pending := by
  have hr : (bothRuns id dayNames).Reachable (both noonState [lateCall]) := by
    refine .step (l := lateCall) noon_reachable.of_guarded ⟨⟨⟨rfl, rfl, .inr rfl⟩, ?_⟩, ?_, rfl⟩
    · exact ⟨by decide, by decide, fun _ _ _ _ _ _ _ h => h⟩
    · exact ⟨by decide, rfl, by decide, by decide, dayParameters_served _⟩
  obtain ⟨watermark, hwatermark⟩ : ∃ watermark, (both noonState [lateCall]).1.turns.get? "noon" =
    some watermark := Option.isSome_iff_exists.1 (by decide)
  obtain ⟨turn, hturn⟩ : ∃ turn, (both noonState [lateCall]).1.turns.get? "morning" = some turn :=
    Option.isSome_iff_exists.1 (by decide)
  have hdata : ((both noonState [lateCall]).1.turns.get? "noon").any (fun watermark =>
      ((both noonState [lateCall]).1.turns.get? "morning").any fun turn =>
        turn.session = day && orderKey turn ≤ orderKey watermark && turn.status = .pending) = true := by
    decide
  rw [hwatermark, hturn] at hdata
  simp only [Option.any_some, Bool.and_eq_true, decide_eq_true_eq] at hdata
  have hid := turnId_of_get? hwatermark
  have hid' := turnId_of_get? hturn
  refine ⟨_, hr, by decide, watermark, turn, ?_, ?_, ?_, hdata.1.1, hdata.1.2, hdata.2⟩
  · rw [hid]
    decide
  · rw [hid]
    exact hwatermark
  · rw [hid']
    exact hturn

end OpenIntentRouter.Formation
