import OpenIntentRouter.Services.ExecutionTraceService

/-!
# The completeness of a trace

Any number of instances of the trace service over one repository. A snapshot
that reports its turn complete should miss no event that was passed to
`try_record`, and should report the turn complete again once every missing
event was recorded. The gaps that are not reported yet are known to one
instance only, and only that instance reports the repair of a gap.

* `Sound.perform`: what a call keeps (`Ledger`, `Accounted`) and what it does
  to the stored events and the gaps;
* `trace_completeness`: when a complete snapshot misses nothing, and when
  resubmitted events complete the trace;
* `fresh_instance_misses_gap`: a snapshot after a restart.
-/
namespace OpenIntentRouter.Traces

open Core Schemas Repositories Services

/-- The instances of the service, by number, over one repository; one that was not called yet is
new. `passed`: a ghost, the events passed to `try_record`. -/
structure TraceWorld where
  tables : TraceTables
  services : Nat → ExecutionTraceService
  passed : List ExecutionTraceEventDraft

/-- A call of `try_record` through an instance. -/
structure TryRecord where
  service : Nat
  event : ExecutionTraceEventDraft
  fails : Nat → Bool

namespace TraceWorld

def new : TraceWorld := ⟨.empty, fun _ => .new, []⟩

def perform (tools : TraceTools) (world : TraceWorld) (call : TryRecord) : TraceWorld :=
  let result := (TraceCall.tryRecord tools call.fails call.event
    ⟨world.tables, world.services call.service, 0⟩).2
  { tables := result.tables
    services := Function.update world.services call.service result.service
    passed := call.event :: world.passed }

def after (tools : TraceTools) (world : TraceWorld) (calls : List TryRecord) : TraceWorld :=
  calls.foldl (perform tools) world

def Meets (tools : TraceTools) (C : TraceWorld → TryRecord → Prop) :
    TraceWorld → List TryRecord → Prop
  | _, [] => True
  | world, call :: calls => C world call ∧ Meets tools C (world.perform tools call) calls

end TraceWorld

def Has (tables : TraceTables) (event : ExecutionTraceEventDraft) : Prop :=
  ∃ row ∈ tables.rows, row = event

structure Observation (event : ExecutionTraceEventDraft) : Prop where
  type : event.eventType ≠ .traceIntegrity
  source : event.source ≠ "oir:trace_integrity"
  facts : (Json.obj event.facts).distinctKeys = true

def gapOf (tools : TraceTools) (event : ExecutionTraceEventDraft) : TraceGap :=
  ⟨event, failureIdFor tools event⟩

def keyOf (tools : TraceTools) (event : ExecutionTraceEventDraft) : ExecutionTraceQuery × String :=
  (queryFor event, failureIdFor tools event)

/-- What may be stored when certain events were passed: these, and the failures and repairs of
their gaps. -/
inductive Recorded (tools : TraceTools) (passed : List ExecutionTraceEventDraft) :
    ExecutionTraceEventDraft → Prop where
  | event {event : ExecutionTraceEventDraft} : event ∈ passed → Recorded tools passed event
  | failure {event : ExecutionTraceEventDraft} :
    event ∈ passed → Recorded tools passed (failureEvent (gapOf tools event))
  | repair {event : ExecutionTraceEventDraft} :
    event ∈ passed → Recorded tools passed (repairEvent (gapOf tools event))

structure Ledger (tools : TraceTools) (tables : TraceTables) (services : Nat → ExecutionTraceService)
    (passed : List ExecutionTraceEventDraft) : Prop where
  increasing : Cursor.Increasing (·.eventOffset) tables.rows
  bounds : ∀ row ∈ tables.rows, 0 < row.eventOffset ∧ row.eventOffset < tables.nextOffset
  next : 0 < tables.nextOffset
  observed : ∀ event ∈ passed, Observation event
  distinct : ∀ event ∈ passed, ∀ other ∈ passed,
    failureIdFor tools event = failureIdFor tools other → event = other
  rows : ∀ row ∈ tables.rows, Recorded tools passed row
  pending : ∀ i key gap, (services i).pendingGaps.get? key = some gap →
    ∃ event ∈ passed, gap = gapOf tools event ∧ key = keyOf tools event
  reported : ∀ i key gap, (services i).reportedGaps.get? key = some gap →
    ∃ event ∈ passed, gap = gapOf tools event ∧ key = keyOf tools event ∧
      Has tables (failureEvent gap)
  repaired : ∀ event ∈ passed, Has tables (repairEvent (gapOf tools event)) →
    Has tables event ∧ Has tables (failureEvent (gapOf tools event))
  unrepaired : ∀ event ∈ passed, Has tables (failureEvent (gapOf tools event)) →
    Has tables (repairEvent (gapOf tools event)) ∨
      ∃ i, (services i).reportedGaps.get? (keyOf tools event) = some (gapOf tools event)
  opened : ∀ query id,
    ((openFailures tools (tables.rows.filter (belongs query))).get? id).isSome = true ↔
      ∃ event ∈ passed, keyOf tools event = (query, id) ∧
        Has tables (failureEvent (gapOf tools event)) ∧
        ¬Has tables (repairEvent (gapOf tools event))

/-- Every event that was passed is stored, or its failure is, or an instance knows its gap. -/
def Accounted (tools : TraceTools) (tables : TraceTables) (services : Nat → ExecutionTraceService)
    (passed : List ExecutionTraceEventDraft) : Prop :=
  ∀ event ∈ passed, Has tables event ∨ Has tables (failureEvent (gapOf tools event)) ∨
    ∃ i, (services i).pendingGaps.get? (keyOf tools event) = some (gapOf tools event)

/-! ## Stored events -/

variable {gap : TraceGap} {row : ExecutionTraceEvent} {query : ExecutionTraceQuery}
  {failures : Dict String String} {tables' : TraceTables} {event : ExecutionTraceEventDraft}

section Stored

variable {tools : TraceTools} {tables tables' : TraceTables} {services : Nat → ExecutionTraceService}
  {passed : List ExecutionTraceEventDraft} {event other : ExecutionTraceEventDraft}

theorem observation_facts (gap : TraceGap) (stage status : String) (recovered : Bool) :
    (Json.obj (integrityEvent gap stage status recovered).facts).distinctKeys = true := by
  rw [Json.distinctKeys_obj]
  simp [integrityEvent]

theorem failureId_of_sourceKey (h : sourceKey event = sourceKey other) :
    failureIdFor tools event = failureIdFor tools other := by
  simp only [sourceKey, Prod.mk.injEq] at h
  obtain ⟨hsource, hid, hversion⟩ := h
  rw [failureIdFor, failureIdFor, hsource, hid, hversion]

/-- The source of an integrity event names its stage and its gap. -/
theorem gap_of_sourceKey {gap' : TraceGap} {stage stage' status status' : String}
    {recovered recovered' : Bool} (hstage : stage = stage')
    (h : sourceKey (integrityEvent gap stage status recovered) =
      sourceKey (integrityEvent gap' stage' status' recovered')) :
    gap.failureId = gap'.failureId := by
  simp only [sourceKey, integrityEvent, Prod.mk.injEq, true_and, and_true, hstage] at h
  have hleft := String.append_left_inj (stage' ) |>.1 h
  have hright := String.append_left_inj ":" |>.1 hleft
  exact String.append_right_inj "trace-integrity:" |>.1 hright

/-- No integrity event is about a failure and a repair. -/
theorem stage_of_sourceKey {gap' : TraceGap} :
    sourceKey (failureEvent gap) ≠ sourceKey (repairEvent gap') := by
  intro h
  simp only [sourceKey, failureEvent, repairEvent, integrityEvent, Prod.mk.injEq, true_and,
    and_true] at h
  have hlast := congrArg (fun text => text.toList.reverse.take 3) h
  simp [String.toList_append] at hlast

theorem Recorded.eq (hobserved : ∀ event ∈ passed, Observation event)
    (hdistinct : ∀ event ∈ passed, ∀ other ∈ passed,
      failureIdFor tools event = failureIdFor tools other → event = other)
    (hevent : Recorded tools passed event) (hother : Recorded tools passed other)
    (h : sourceKey event = sourceKey other) : event = other := by
  have hsource {e e' : ExecutionTraceEventDraft} (he : e ∈ passed)
      (hkey : sourceKey e = sourceKey e') (hintegrity : e'.source = "oir:trace_integrity") :
      False :=
    (hobserved e he).source ((congrArg Prod.fst hkey).trans hintegrity)
  cases hevent with
  | event he =>
    cases hother with
    | event he' => exact hdistinct _ he _ he' (failureId_of_sourceKey h)
    | failure => exact absurd rfl (hsource he h)
    | repair => exact absurd rfl (hsource he h)
  | failure he =>
    cases hother with
    | event he' => exact absurd rfl (hsource he' h.symm)
    | failure he' => rw [hdistinct _ he _ he' (gap_of_sourceKey rfl h)]
    | repair => exact absurd h stage_of_sourceKey
  | repair he =>
    cases hother with
    | event he' => exact absurd rfl (hsource he' h.symm)
    | failure => exact absurd h.symm stage_of_sourceKey
    | repair he' => rw [hdistinct _ he _ he' (gap_of_sourceKey rfl h)]

theorem Recorded.facts (hobserved : ∀ event ∈ passed, Observation event)
    (h : Recorded tools passed event) : (Json.obj event.facts).distinctKeys = true := by
  cases h with
  | event he => exact (hobserved _ he).facts
  | failure => exact observation_facts ..
  | repair => exact observation_facts ..

theorem Recorded.mono {passed' : List ExecutionTraceEventDraft} (hsub : passed ⊆ passed')
    (h : Recorded tools passed event) : Recorded tools passed' event := by
  cases h with
  | event he => exact .event (hsub he)
  | failure he => exact .failure (hsub he)
  | repair he => exact .repair (hsub he)

theorem isIdempotentReplay_self (h : (Json.obj row.facts).distinctKeys = true) :
    isIdempotentReplay row row = true := by
  have hsame : sameIdentity row row = true := by
    simp only [sameIdentity, decide_true, Bool.true_and]
    exact Json.pyEq_refl h
  unfold isIdempotentReplay
  split
  · next hversion =>
    simp only [Bool.and_eq_true, decide_eq_true_eq] at hversion
    omega
  · exact hsame

structure Appended (tables tables' : TraceTables) (event : ExecutionTraceEventDraft) : Prop where
  next : tables'.nextOffset = tables.nextOffset + 1
  rows : Has tables event ∧ tables'.rows = tables.rows ∨
    ¬Has tables event ∧ tables'.rows = tables.rows ++ [⟨event, tables.nextOffset⟩]

theorem Appended.has_iff (h : Appended tables tables' event) :
    Has tables' other ↔ Has tables other ∨ other = event := by
  rcases h.rows with ⟨hthere, hrows⟩ | ⟨-, hrows⟩
  · unfold Has at hthere ⊢
    rw [hrows]
    constructor
    · exact .inl
    · rintro (h | rfl)
      · exact h
      · exact hthere
  · unfold Has
    rw [hrows]
    simp only [List.mem_append, List.mem_singleton]
    constructor
    · rintro ⟨row, hmem | rfl, rfl⟩
      · exact .inl ⟨row, hmem, rfl⟩
      · exact .inr rfl
    · rintro (⟨row, hmem, rfl⟩ | rfl)
      · exact ⟨row, .inl hmem, rfl⟩
      · exact ⟨_, .inr rfl, rfl⟩

theorem Appended.self (h : Appended tables tables' event) : Has tables' event :=
  h.has_iff.2 (.inr rfl)

theorem Appended.keeps (h : Appended tables tables' event) (hother : Has tables other) :
    Has tables' other :=
  h.has_iff.2 (.inl hother)

/-- An append whose source is that of no other event is accepted. -/
theorem appended_of_append (hfacts : (Json.obj event.facts).distinctKeys = true)
    (hsource : ∀ row ∈ tables.rows,
      sourceKey row.toExecutionTraceEventDraft = sourceKey event →
        row.toExecutionTraceEventDraft = event) :
    ∃ result, (tables.append event).1 = .ok result ∧
      Appended tables (tables.append event).2 event := by
  by_cases hthere : hasSource event tables.rows
  · obtain ⟨found, hfind⟩ : ∃ found, tables.rows.find?
        (fun row => sourceKey row.toExecutionTraceEventDraft = sourceKey event) = some found :=
      List.find?_isSome.2 (List.any_eq_true.1 hthere) |> Option.isSome_iff_exists.1
    have hmem := List.mem_of_find?_eq_some hfind
    have hkey : sourceKey found.toExecutionTraceEventDraft = sourceKey event := by
      simpa using List.find?_some hfind
    obtain rfl := hsource found hmem hkey
    refine ⟨(found, false), ?_, ?_, .inl ⟨⟨found, hmem, rfl⟩, ?_⟩⟩
    · simp only [TraceTables.append, hthere, if_pos, replay, hfind]
      rw [if_pos (isIdempotentReplay_self hfacts)]
    · simp [TraceTables.append, hthere]
    · simp [TraceTables.append, hthere]
  · refine ⟨(⟨event, tables.nextOffset⟩, true), ?_, ?_, .inr ⟨?_, ?_⟩⟩
    · simp [TraceTables.append, hthere]
    · simp [TraceTables.append, hthere]
    · rintro ⟨row, hmem, rfl⟩
      exact hthere (List.any_eq_true.2 ⟨row, hmem, decide_eq_true rfl⟩)
    · simp [TraceTables.append, hthere]

end Stored

/-! ## One append -/

section Appends

variable {tools : TraceTools} {tables tables' : TraceTables} {services : Nat → ExecutionTraceService}
  {passed : List ExecutionTraceEventDraft} {event other : ExecutionTraceEventDraft}

theorem Ledger.appended (hl : Ledger tools tables services passed)
    (hevent : Recorded tools passed event) : ∃ result, (tables.append event).1 = .ok result ∧
      Appended tables (tables.append event).2 event :=
  appended_of_append (hevent.facts hl.observed) fun row hrow =>
    (hl.rows row hrow).eq hl.observed hl.distinct hevent

theorem Appended.increasing (h : Appended tables tables' event)
    (hincreasing : Cursor.Increasing (·.eventOffset) tables.rows)
    (hbounds : ∀ row ∈ tables.rows, 0 < row.eventOffset ∧ row.eventOffset < tables.nextOffset) :
    Cursor.Increasing (·.eventOffset) tables'.rows := by
  rcases h.rows with ⟨-, hrows⟩ | ⟨-, hrows⟩
  · rw [hrows]
    exact hincreasing
  · rw [hrows]
    refine hincreasing.append (List.pairwise_singleton _ _) ?_
    intro row hrow last hlast
    rw [List.mem_singleton.1 hlast]
    exact (hbounds row hrow).2

theorem Appended.bounds (h : Appended tables tables' event) (hnext : 0 < tables.nextOffset)
    (hbounds : ∀ row ∈ tables.rows, 0 < row.eventOffset ∧ row.eventOffset < tables.nextOffset) :
    ∀ row ∈ tables'.rows, 0 < row.eventOffset ∧ row.eventOffset < tables'.nextOffset := by
  have hold : ∀ row ∈ tables.rows, 0 < row.eventOffset ∧ row.eventOffset < tables'.nextOffset := by
    intro row hrow
    rw [h.next]
    obtain ⟨hpos, hlt⟩ := hbounds row hrow
    omega
  rcases h.rows with ⟨-, hrows⟩ | ⟨-, hrows⟩
  · rw [hrows]
    exact hold
  · rw [hrows, List.forall_mem_append, List.forall_mem_singleton]
    refine ⟨hold, hnext, ?_⟩
    rw [h.next]
    show tables.nextOffset < tables.nextOffset + 1
    omega

theorem belongs_iff :
    belongs query row = true ↔ queryFor row = query := by
  obtain ⟨tenantId, userId, sessionId, turnId⟩ := query
  simp only [belongs, queryFor, Bool.and_eq_true, decide_eq_true_eq,
    ExecutionTraceQuery.mk.injEq, and_assoc]

theorem openFailures_append (query : ExecutionTraceQuery) (rows : List ExecutionTraceEvent)
    (row : ExecutionTraceEvent) :
    openFailures tools ((rows ++ [row]).filter (belongs query)) =
      if queryFor row = query then
        trackFailure tools (openFailures tools (rows.filter (belongs query))) row
      else openFailures tools (rows.filter (belongs query)) := by
  rw [List.filter_append, openFailures, List.foldl_append]
  by_cases h : queryFor row = query
  · rw [List.filter_cons_of_pos (belongs_iff.2 h), if_pos h]
    rfl
  · rw [List.filter_cons_of_neg fun hb => h (belongs_iff.1 hb), if_neg h]
    rfl

theorem trackFailure_observation (h : Observation row) :
    trackFailure tools failures row = failures := by
  rw [trackFailure, if_pos h.type]

end Appends

/-! ## What a call does -/

section Steps

variable {tools : TraceTools} {tables tables' : TraceTables} {services : Nat → ExecutionTraceService}
  {passed : List ExecutionTraceEventDraft} {event other : ExecutionTraceEventDraft} {i : Nat}
  {service : ExecutionTraceService}

theorem get?_trackFailure_failure {offset : Int} (failures : Dict String String) (id : String) :
    (trackFailure tools failures ⟨failureEvent (gapOf tools event), offset⟩).get? id =
      if failureIdFor tools event = id then some "trace_projection_write_failed"
      else failures.get? id := Dict.get?_set ..

theorem get?_trackFailure_repair {offset : Int} (failures : Dict String String) (id : String) :
    (trackFailure tools failures ⟨repairEvent (gapOf tools event), offset⟩).get? id =
      if failureIdFor tools event = id then none else failures.get? id := Dict.get?_erase ..

/-- An event about a gap decides what is open under the key of the gap. -/
theorem get?_openFailures_append {rows : List ExecutionTraceEvent} {row : ExecutionTraceEvent}
    {open? : Option String}
    (htrack : ∀ failures id, (trackFailure tools failures row).get? id =
      if failureIdFor tools event = id then open? else failures.get? id)
    (hrow : queryFor row = queryFor event)
    (query : ExecutionTraceQuery) (id : String) :
    (openFailures tools ((rows ++ [row]).filter (belongs query))).get? id =
      if keyOf tools event = (query, id) then open?
      else (openFailures tools (rows.filter (belongs query))).get? id := by
  rw [openFailures_append, hrow, keyOf]
  by_cases hquery : queryFor event = query
  · simp only [hquery, if_true, htrack, Prod.mk.injEq, true_and]
  · simp only [hquery, if_false, Prod.mk.injEq, false_and]

def Apart (tools : TraceTools) (passed : List ExecutionTraceEventDraft)
    (event : ExecutionTraceEventDraft) : Prop :=
  ∀ other ∈ passed, failureIdFor tools other = failureIdFor tools event → other = event

/-- What is stored about the gap of an event tells that the event was passed. -/
theorem Ledger.mem_of_integrity (hl : Ledger tools tables services passed)
    (hapart : Apart tools passed event)
    (h : Has tables (failureEvent (gapOf tools event)) ∨
      Has tables (repairEvent (gapOf tools event))) : event ∈ passed := by
  have hmem {draft : ExecutionTraceEventDraft} (hdraft : Has tables draft)
      (htype : draft.eventType = .traceIntegrity)
      (hid : ∀ e, sourceKey draft = sourceKey (failureEvent (gapOf tools e)) ∨
        sourceKey draft = sourceKey (repairEvent (gapOf tools e)) →
          failureIdFor tools event = failureIdFor tools e) : event ∈ passed := by
    obtain ⟨row, hrow, heq⟩ := hdraft
    have hrecorded := hl.rows row hrow
    rw [heq] at hrecorded
    cases hrecorded with
    | event he => exact absurd htype (hl.observed _ he).type
    | failure he => exact hapart _ he (hid _ (.inl rfl)).symm ▸ he
    | repair he => exact hapart _ he (hid _ (.inr rfl)).symm ▸ he
  rcases h with h | h
  · refine hmem h rfl fun e hkey => ?_
    rcases hkey with hkey | hkey
    · exact gap_of_sourceKey rfl hkey
    · exact absurd hkey stage_of_sourceKey
  · refine hmem h rfl fun e hkey => ?_
    rcases hkey with hkey | hkey
    · exact absurd hkey.symm stage_of_sourceKey
    · exact gap_of_sourceKey rfl hkey

theorem Ledger.pass (hl : Ledger tools tables services passed) (hobservation : Observation event)
    (hapart : Apart tools passed event) : Ledger tools tables services (event :: passed) where
  increasing := hl.increasing
  bounds := hl.bounds
  next := hl.next
  observed := List.forall_mem_cons.2 ⟨hobservation, hl.observed⟩
  distinct := by
    intro e he e' he' hid
    rcases List.mem_cons.1 he with rfl | hmem
    · rcases List.mem_cons.1 he' with rfl | hmem'
      · rfl
      · exact (hapart e' hmem' hid.symm).symm
    · rcases List.mem_cons.1 he' with rfl | hmem'
      · exact hapart e hmem hid
      · exact hl.distinct e hmem e' hmem' hid
  rows row hrow := (hl.rows row hrow).mono (List.subset_cons_self _ _)
  pending j key gap h := by
    obtain ⟨e, he, hgap⟩ := hl.pending j key gap h
    exact ⟨e, List.mem_cons_of_mem _ he, hgap⟩
  reported j key gap h := by
    obtain ⟨e, he, hgap⟩ := hl.reported j key gap h
    exact ⟨e, List.mem_cons_of_mem _ he, hgap⟩
  repaired := by
    intro e he hrepair
    rcases List.mem_cons.1 he with rfl | he
    · exact hl.repaired e (hl.mem_of_integrity hapart (.inr hrepair)) hrepair
    · exact hl.repaired e he hrepair
  unrepaired := by
    intro e he hfailure
    rcases List.mem_cons.1 he with rfl | he
    · exact hl.unrepaired e (hl.mem_of_integrity hapart (.inl hfailure)) hfailure
    · exact hl.unrepaired e he hfailure
  opened query id := by
    rw [hl.opened query id]
    constructor
    · rintro ⟨e, he, h⟩
      exact ⟨e, List.mem_cons_of_mem _ he, h⟩
    · rintro ⟨e, he, hkey, hfailure, hrepair⟩
      rcases List.mem_cons.1 he with rfl | he
      · exact ⟨e, hl.mem_of_integrity hapart (.inl hfailure), hkey, hfailure, hrepair⟩
      · exact ⟨e, he, hkey, hfailure, hrepair⟩

theorem Appended.recorded (happended : Appended tables tables' event)
    (hl : Ledger tools tables services passed) (hevent : Recorded tools passed event) :
    ∀ row ∈ tables'.rows, Recorded tools passed row := by
  rcases happended.rows with ⟨-, hrows⟩ | ⟨-, hrows⟩
  · rw [hrows]
    exact hl.rows
  · rw [hrows, List.forall_mem_append, List.forall_mem_singleton]
    exact ⟨hl.rows, hevent⟩

theorem Observation.ne_failure (h : Observation event) (gap : TraceGap) : failureEvent gap ≠ event :=
  fun heq => h.type (heq ▸ rfl)

theorem Observation.ne_repair (h : Observation event) (gap : TraceGap) : repairEvent gap ≠ event :=
  fun heq => h.type (heq ▸ rfl)

theorem failure_ne_repair (gap gap' : TraceGap) : failureEvent gap ≠ repairEvent gap' :=
  fun heq => stage_of_sourceKey (congrArg sourceKey heq)

section Has

variable (hl : Ledger tools tables services passed)
include hl

theorem Ledger.failure_inj (he : event ∈ passed) (ho : other ∈ passed)
    (h : failureEvent (gapOf tools event) = failureEvent (gapOf tools other)) : event = other :=
  hl.distinct event he other ho (gap_of_sourceKey rfl (congrArg sourceKey h))

theorem Ledger.repair_inj (he : event ∈ passed) (ho : other ∈ passed)
    (h : repairEvent (gapOf tools event) = repairEvent (gapOf tools other)) : event = other :=
  hl.distinct event he other ho (gap_of_sourceKey rfl (congrArg sourceKey h))

theorem Ledger.store (he : event ∈ passed) (happended : Appended tables tables' event) :
    Ledger tools tables' services passed := by
  have hobservation := hl.observed event he
  have hfailure (gap : TraceGap) : Has tables' (failureEvent gap) ↔ Has tables (failureEvent gap) := by
    rw [happended.has_iff, or_iff_left (hobservation.ne_failure gap)]
  have hrepair (gap : TraceGap) : Has tables' (repairEvent gap) ↔ Has tables (repairEvent gap) := by
    rw [happended.has_iff, or_iff_left (hobservation.ne_repair gap)]
  refine ⟨happended.increasing hl.increasing hl.bounds, happended.bounds hl.next hl.bounds, ?_,
    hl.observed, hl.distinct, happended.recorded hl (.event he), hl.pending, ?_, ?_, ?_, ?_⟩
  · rw [happended.next]
    have := hl.next
    omega
  · intro j key gap hget
    obtain ⟨e, hmem, hgap, hkey, hhas⟩ := hl.reported j key gap hget
    exact ⟨e, hmem, hgap, hkey, (hfailure gap).2 hhas⟩
  · intro e hmem hhas
    rw [hrepair] at hhas
    obtain ⟨hstored, hthere⟩ := hl.repaired e hmem hhas
    exact ⟨happended.keeps hstored, (hfailure _).2 hthere⟩
  · intro e hmem hhas
    rw [hfailure] at hhas
    rw [hrepair]
    exact hl.unrepaired e hmem hhas
  · intro query id
    have hsame : openFailures tools (tables'.rows.filter (belongs query)) =
        openFailures tools (tables.rows.filter (belongs query)) := by
      rcases happended.rows with ⟨-, hrows⟩ | ⟨-, hrows⟩
      · rw [hrows]
      · rw [hrows, openFailures_append, trackFailure_observation hobservation, ite_self]
    rw [hsame, hl.opened]
    simp only [hfailure, hrepair]

theorem Ledger.reported_kept (hkeeps : ∀ e, Has tables e → Has tables' e) (j : Nat)
    (key : ExecutionTraceQuery × String) (gap : TraceGap)
    (hget : (services j).reportedGaps.get? key = some gap) : ∃ e ∈ passed,
      gap = gapOf tools e ∧ key = keyOf tools e ∧ Has tables' (failureEvent gap) := by
  obtain ⟨e, hmem, hgap, hkey, hhas⟩ := hl.reported j key gap hget
  exact ⟨e, hmem, hgap, hkey, hkeeps _ hhas⟩

/-- The open failures under another key, where only what is stored of one event changes. -/
theorem Ledger.opened_same {query : ExecutionTraceQuery} {id : String}
    (hkey : keyOf tools event ≠ (query, id))
    (hother : ∀ e ∈ passed, e ≠ event →
      (Has tables' (failureEvent (gapOf tools e)) ↔ Has tables (failureEvent (gapOf tools e))) ∧
      (Has tables' (repairEvent (gapOf tools e)) ↔ Has tables (repairEvent (gapOf tools e)))) :
    ((openFailures tools (tables.rows.filter (belongs query))).get? id).isSome = true ↔
      ∃ e ∈ passed, keyOf tools e = (query, id) ∧ Has tables' (failureEvent (gapOf tools e)) ∧
        ¬Has tables' (repairEvent (gapOf tools e)) := by
  rw [hl.opened]
  refine exists_congr fun e => and_congr_right fun hmem => and_congr_right fun hown => ?_
  obtain ⟨hfailure, hrepair⟩ := hother e hmem fun heq => hkey (heq ▸ hown)
  rw [hfailure, hrepair]

omit hl in
/-- The gaps of all instances, one of which has changed. -/
theorem forall_gaps_update {service : ExecutionTraceService}
    {gaps : ExecutionTraceService → Dict (ExecutionTraceQuery × String) TraceGap}
    {P : ExecutionTraceQuery × String → TraceGap → Prop}
    (hservice : ∀ key gap, (gaps service).get? key = some gap → P key gap)
    (hothers : ∀ j key gap, (gaps (services j)).get? key = some gap → P key gap) :
    ∀ j key gap, (gaps (Function.update services i service j)).get? key = some gap → P key gap :=
  (Function.forall_update_iff services fun _ service => ∀ key gap,
    (gaps service).get? key = some gap → P key gap).2 ⟨hservice, fun j _ => hothers j⟩

omit hl in
/-- A gap that an instance has reported stays reported while the instance changes others. -/
theorem reported_update {service : ExecutionTraceService}
    (hsame : service.reportedGaps.get? (keyOf tools event) =
      (services i).reportedGaps.get? (keyOf tools event))
    (h : ∃ j, (services j).reportedGaps.get? (keyOf tools event) = some (gapOf tools event)) :
    ∃ j, (Function.update services i service j).reportedGaps.get? (keyOf tools event) =
      some (gapOf tools event) := by
  obtain ⟨j, hget⟩ := h
  refine ⟨j, ?_⟩
  by_cases hj : j = i
  · subst hj
    rw [Function.update_self, hsame, hget]
  · rw [Function.update_of_ne hj, hget]

theorem Ledger.remember (he : event ∈ passed) :
    Ledger tools tables (Function.update services i { services i with
      pendingGaps := (services i).pendingGaps.set (keyOf tools event) (gapOf tools event) })
        passed := by
  refine ⟨hl.increasing, hl.bounds, hl.next, hl.observed, hl.distinct, hl.rows, ?_, ?_,
    hl.repaired, ?_, hl.opened⟩
  · refine forall_gaps_update (fun key gap hget => ?_) hl.pending
    rw [Dict.get?_set] at hget
    split at hget
    · next hkey =>
      cases hget
      exact ⟨event, he, rfl, hkey.symm⟩
    · exact hl.pending i key gap hget
  · exact forall_gaps_update (hl.reported i) hl.reported
  · intro e hmem hhas
    exact (hl.unrepaired e hmem hhas).imp_right (reported_update rfl)

theorem Ledger.report (he : event ∈ passed)
    (happended : Appended tables tables' (failureEvent (gapOf tools event))) :
    Ledger tools tables' (Function.update services i
      ⟨(services i).pendingGaps.erase (keyOf tools event),
        (services i).reportedGaps.set (keyOf tools event) (gapOf tools event)⟩) passed := by
  have hfailure {e : ExecutionTraceEventDraft} (hmem : e ∈ passed) :
      Has tables' (failureEvent (gapOf tools e)) ↔
        Has tables (failureEvent (gapOf tools e)) ∨ e = event := by
    rw [happended.has_iff]
    refine or_congr_right ⟨hl.failure_inj hmem he, ?_⟩
    rintro rfl
    rfl
  have hrepair (gap : TraceGap) : Has tables' (repairEvent gap) ↔ Has tables (repairEvent gap) := by
    rw [happended.has_iff, or_iff_left (failure_ne_repair _ gap).symm]
  have hkept := hl.reported_kept fun _ hhas => happended.keeps hhas
  refine ⟨happended.increasing hl.increasing hl.bounds, happended.bounds hl.next hl.bounds, ?_,
    hl.observed, hl.distinct, happended.recorded hl (.failure he), ?_, ?_, ?_, ?_, ?_⟩
  · rw [happended.next]
    have := hl.next
    omega
  · refine forall_gaps_update (fun key gap hget => ?_) hl.pending
    rw [Dict.get?_erase] at hget
    split at hget
    · cases hget
    · exact hl.pending i key gap hget
  · refine forall_gaps_update (fun key gap hget => ?_) hkept
    rw [Dict.get?_set] at hget
    split at hget
    · next hkey =>
      cases hget
      exact ⟨event, he, rfl, hkey.symm, happended.self⟩
    · exact hkept i key gap hget
  · intro e hmem hhas
    rw [hrepair] at hhas
    obtain ⟨hstored, hthere⟩ := hl.repaired e hmem hhas
    exact ⟨happended.keeps hstored, happended.keeps hthere⟩
  · intro e hmem hhas
    rw [hrepair]
    by_cases heq : e = event
    · subst heq
      exact .inr ⟨i, by rw [Function.update_self, Dict.get?_set_self]⟩
    · have hthere := ((hfailure hmem).1 hhas).resolve_right heq
      refine (hl.unrepaired e hmem hthere).imp_right (reported_update ?_)
      exact Dict.get?_set_ne _ _ fun hkey =>
        heq (hl.distinct e hmem event he (congrArg Prod.snd hkey).symm)
  · intro query id
    rcases happended.rows with ⟨-, hrows⟩ | ⟨hnew, hrows⟩
    · rw [hrows, hl.opened]
      simp only [Has, hrows]
    · have hopen : ¬Has tables (repairEvent (gapOf tools event)) :=
        fun hhas => hnew (hl.repaired event he hhas).2
      have hsame := fun hkey : keyOf tools event ≠ (query, id) => hl.opened_same hkey
        fun e hmem hne => ⟨by rw [hfailure hmem, or_iff_left hne], hrepair _⟩
      rw [hrows, get?_openFailures_append get?_trackFailure_failure rfl]
      split
      · next hkey =>
        simp only [Option.isSome_some, true_iff]
        exact ⟨event, he, hkey, happended.self, by rw [hrepair]; exact hopen⟩
      · next hkey => exact hsame hkey

/-- An instance reports the repair of the gap of a stored event. -/
theorem Ledger.repair (he : event ∈ passed) (hstored : Has tables event)
    (hthere : Has tables (failureEvent (gapOf tools event)))
    (happended : Appended tables tables' (repairEvent (gapOf tools event))) :
    Ledger tools tables' (Function.update services i { services i with
      reportedGaps := (services i).reportedGaps.erase (keyOf tools event) }) passed := by
  have hfailure (gap : TraceGap) : Has tables' (failureEvent gap) ↔ Has tables (failureEvent gap) := by
    rw [happended.has_iff, or_iff_left (failure_ne_repair gap _)]
  have hrepair {e : ExecutionTraceEventDraft} (hmem : e ∈ passed) :
      Has tables' (repairEvent (gapOf tools e)) ↔
        Has tables (repairEvent (gapOf tools e)) ∨ e = event := by
    rw [happended.has_iff]
    refine or_congr_right ⟨hl.repair_inj hmem he, ?_⟩
    rintro rfl
    rfl
  have hkept := hl.reported_kept fun _ hhas => happended.keeps hhas
  refine ⟨happended.increasing hl.increasing hl.bounds, happended.bounds hl.next hl.bounds, ?_,
    hl.observed, hl.distinct, happended.recorded hl (.repair he), ?_, ?_, ?_, ?_, ?_⟩
  · rw [happended.next]
    have := hl.next
    omega
  · exact forall_gaps_update (hl.pending i) hl.pending
  · refine forall_gaps_update (fun key gap hget => ?_) hkept
    rw [Dict.get?_erase] at hget
    split at hget
    · cases hget
    · exact hkept i key gap hget
  · intro e hmem hhas
    rcases (hrepair hmem).1 hhas with hhas | rfl
    · obtain ⟨hbefore, hfailed⟩ := hl.repaired e hmem hhas
      exact ⟨happended.keeps hbefore, happended.keeps hfailed⟩
    · exact ⟨happended.keeps hstored, happended.keeps hthere⟩
  · intro e hmem hhas
    rw [hfailure] at hhas
    by_cases heq : e = event
    · exact .inl ((hrepair hmem).2 (.inr heq))
    · refine (hl.unrepaired e hmem hhas).imp happended.keeps (reported_update ?_)
      dsimp only
      rw [Dict.get?_erase, if_neg fun hkey =>
        heq (hl.distinct e hmem event he (congrArg Prod.snd hkey).symm)]
  · intro query id
    rcases happended.rows with ⟨-, hrows⟩ | ⟨-, hrows⟩
    · rw [hrows, hl.opened]
      simp only [Has, hrows]
    · have hsame := fun hkey : keyOf tools event ≠ (query, id) => hl.opened_same hkey
        fun e hmem hne => ⟨hfailure _, by rw [hrepair hmem, or_iff_left hne]⟩
      rw [hrows, get?_openFailures_append get?_trackFailure_repair rfl]
      split
      · next hkey =>
        simp only [Option.isSome_none, Bool.false_eq_true, false_iff]
        rintro ⟨e, hmem, hown, -, hnot⟩
        have heq := hl.distinct e hmem event he (congrArg Prod.snd (hown.trans hkey.symm))
        exact hnot ((hrepair hmem).2 (.inr heq))
      · next hkey => exact hsame hkey

end Has

def HasGap (tools : TraceTools) (service : ExecutionTraceService)
    (event : ExecutionTraceEventDraft) : Prop :=
  service.pendingGaps.get? (keyOf tools event) = some (gapOf tools event) ∨
    service.reportedGaps.get? (keyOf tools event) = some (gapOf tools event)

/-- What a call keeps while it settles the gaps of an instance after its event was stored. -/
structure Settling (tools : TraceTools) (services : Nat → ExecutionTraceService)
    (passed : List ExecutionTraceEventDraft) (i : Nat) (event : ExecutionTraceEventDraft)
    (call : TraceCall) : Prop where
  ledger : Ledger tools call.tables (Function.update services i call.service) passed
  accounted : Accounted tools call.tables (Function.update services i call.service) passed
  passed : event ∈ passed
  stored : Has call.tables event

section Settle

variable {call : TraceCall} {fails : Nat → Bool}

variable (fails) in
theorem record_cases {draft : ExecutionTraceEventDraft}
    (hl : Ledger tools call.tables services passed) (hdraft : Recorded tools passed draft) :
    fails call.appends = true ∧
      call.record fails draft = (.error .unavailable, { call with appends := call.appends + 1 }) ∨
    fails call.appends = false ∧ ∃ tables', Appended call.tables tables' draft ∧
      call.record fails draft = (.ok (), ⟨tables', call.service, call.appends + 1⟩) := by
  cases hfails : fails call.appends with
  | true => exact .inl ⟨rfl, by simp [TraceCall.record, hfails]⟩
  | false =>
    obtain ⟨result, hok, happended⟩ := hl.appended hdraft
    refine .inr ⟨rfl, _, happended, ?_⟩
    simp [TraceCall.record, hfails, hok]

theorem Settling.report {call' : TraceCall} (hs : Settling tools services passed i event call)
    (ho : other ∈ passed)
    (happended : Appended call.tables call'.tables (failureEvent (gapOf tools other)))
    (hservice : call'.service = ⟨call.service.pendingGaps.erase (keyOf tools other),
      call.service.reportedGaps.set (keyOf tools other) (gapOf tools other)⟩) :
    Settling tools services passed i event call' := by
  have hledger := hs.ledger.report (i := i) ho happended
  simp only [Function.update_self, Function.update_idem] at hledger
  rw [← hservice] at hledger
  refine ⟨hledger, ?_, hs.passed, happended.keeps hs.stored⟩
  intro e he
  rcases hs.accounted e he with hhas | hhas | ⟨j, hget⟩
  · exact .inl (happended.keeps hhas)
  · exact .inr (.inl (happended.keeps hhas))
  · by_cases heq : e = other
    · exact .inr (.inl (heq ▸ happended.self))
    · refine .inr (.inr ⟨j, ?_⟩)
      by_cases hj : j = i
      · subst hj
        rw [Function.update_self] at hget ⊢
        rw [hservice, Dict.get?_erase, if_neg fun hkey => ?_]
        · exact hget
        · exact heq (hs.ledger.distinct e he other ho (congrArg Prod.snd hkey).symm)
      · rw [Function.update_of_ne hj] at hget ⊢
        exact hget

theorem Settling.repair {call' : TraceCall} (hs : Settling tools services passed i event call)
    (hreported : call.service.reportedGaps.get? (keyOf tools event) = some (gapOf tools event))
    (happended : Appended call.tables call'.tables (repairEvent (gapOf tools event)))
    (hservice : call'.service = { call.service with
      reportedGaps := call.service.reportedGaps.erase (keyOf tools event) }) :
    Settling tools services passed i event call' := by
  have hthere : Has call.tables (failureEvent (gapOf tools event)) := by
    obtain ⟨_, -, -, -, hhas⟩ := hs.ledger.reported i (keyOf tools event) (gapOf tools event)
      (by rw [Function.update_self]; exact hreported)
    exact hhas
  have hledger := hs.ledger.repair (i := i) hs.passed hs.stored hthere happended
  simp only [Function.update_self, Function.update_idem] at hledger
  rw [← hservice] at hledger
  refine ⟨hledger, ?_, hs.passed, happended.keeps hs.stored⟩
  intro e he
  rcases hs.accounted e he with hhas | hhas | ⟨j, hget⟩
  · exact .inl (happended.keeps hhas)
  · exact .inr (.inl (happended.keeps hhas))
  · refine .inr (.inr ⟨j, ?_⟩)
    by_cases hj : j = i
    · subst hj
      rw [Function.update_self] at hget ⊢
      rw [hservice]
      exact hget
    · rw [Function.update_of_ne hj] at hget ⊢
      exact hget

variable (fails) in
/-- The first and the last part of settling: the repair of the event of the call. -/
theorem Settling.recordRepair (hs : Settling tools services passed i event call) :
    let call' := call.recordRepairIfNeeded fails (queryFor event) (failureIdFor tools event)
    Settling tools services passed i event call' ∧
      call'.service.pendingGaps = call.service.pendingGaps ∧
      (∀ e, HasGap tools call'.service e → HasGap tools call.service e) ∧
      (∀ draft, Observation draft → (Has call'.tables draft ↔ Has call.tables draft)) ∧
      ((∀ n, fails n = false) → call'.service.reportedGaps.get? (keyOf tools event) = none) := by
  have hkeyOf : (queryFor event, failureIdFor tools event) = keyOf tools event := rfl
  simp only [TraceCall.recordRepairIfNeeded, hkeyOf]
  cases hget : call.service.reportedGaps.get? (keyOf tools event) with
  | none => exact ⟨hs, rfl, fun _ h => h, fun _ _ => .rfl, fun _ => hget⟩
  | some gap =>
    obtain ⟨e, he, rfl, hkey, -⟩ := hs.ledger.reported i _ gap (by rw [Function.update_self]; exact hget)
    obtain rfl : event = e :=
      hs.ledger.distinct event hs.passed e he (congrArg Prod.snd hkey)
    rcases record_cases fails hs.ledger (.repair hs.passed) with
      ⟨hfails, hrecord⟩ | ⟨-, tables', happended, hrecord⟩
    · simp only [hrecord]
      refine ⟨⟨hs.ledger, hs.accounted, hs.passed, hs.stored⟩, trivial, fun _ h => h,
        fun _ _ => trivial, fun hall => ?_⟩
      rw [hall] at hfails
      cases hfails
    · simp only [hrecord]
      refine ⟨hs.repair hget happended rfl, trivial, fun e he => ?_, fun draft hdraft => ?_,
        fun _ => ?_⟩
      · refine he.imp_right fun hreported => ?_
        rw [Dict.get?_erase] at hreported
        split at hreported
        · cases hreported
        · exact hreported
      · rw [happended.has_iff, or_iff_left (hdraft.ne_repair _).symm]
      · exact (Dict.get?_erase ..).trans (if_pos rfl)

variable (fails) in
theorem Settling.flushGaps {query : ExecutionTraceQuery} {gaps : List TraceGap}
    (hs : Settling tools services passed i event call)
    (hpending : ∀ gap ∈ gaps,
      call.service.pendingGaps.get? (query, gap.failureId) = some gap)
    (hnodup : (gaps.map (·.failureId)).Nodup) :
    let call' := call.flushGaps fails query gaps
    Settling tools services passed i event call' ∧
      (∀ e, HasGap tools call'.service e → HasGap tools call.service e) ∧
      (∀ key, (∀ gap ∈ gaps, key ≠ (query, gap.failureId)) →
        call'.service.pendingGaps.get? key = call.service.pendingGaps.get? key) ∧
      (∀ draft, Observation draft → (Has call'.tables draft ↔ Has call.tables draft)) ∧
      ((∀ n, fails n = false) → ∀ gap ∈ gaps,
        call'.service.pendingGaps.get? (query, gap.failureId) = none) := by
  induction gaps generalizing call with
  | nil => exact ⟨hs, fun _ h => h, fun _ _ => rfl, fun _ _ => .rfl, fun _ _ h => absurd h (by simp)⟩
  | cons gap gaps ih =>
    obtain ⟨hfirst, hothers⟩ := List.forall_mem_cons.1 hpending
    rw [List.map_cons, List.nodup_cons] at hnodup
    obtain ⟨hfresh, hnodup⟩ := hnodup
    obtain ⟨e, he, rfl, hkey⟩ := hs.ledger.pending i _ gap (by rw [Function.update_self]; exact hfirst)
    have hother : ∀ gap ∈ gaps, (query, gap.failureId) ≠ keyOf tools e := by
      intro gap hgap heq
      exact hfresh (List.mem_map.2 ⟨gap, hgap, congrArg Prod.snd heq⟩)
    rcases record_cases fails hs.ledger (.failure he) with
      ⟨hfails, hrecord⟩ | ⟨-, tables', happended, hrecord⟩
    · simp only [TraceCall.flushGaps, hrecord]
      refine ⟨⟨hs.ledger, hs.accounted, hs.passed, hs.stored⟩, fun _ h => h, fun _ _ => trivial,
        fun _ _ => trivial, fun hall => ?_⟩
      rw [hall] at hfails
      cases hfails
    · simp only [TraceCall.flushGaps, hrecord]
      have hreported : (TraceCall.report query (gapOf tools e)
          ⟨tables', call.service, call.appends + 1⟩).service =
            ⟨call.service.pendingGaps.erase (keyOf tools e),
              call.service.reportedGaps.set (keyOf tools e) (gapOf tools e)⟩ := by
        rw [TraceCall.report, ← hkey]
      have hnext : Settling tools services passed i event
          (TraceCall.report query (gapOf tools e) ⟨tables', call.service, call.appends + 1⟩) :=
        hs.report he happended hreported
      obtain ⟨hs', hgap, hkept, hhas, hcleared⟩ := ih hnext (by
        intro gap hgap
        rw [hreported, Dict.get?_erase, if_neg (hother gap hgap).symm]
        exact hothers gap hgap) hnodup
      refine ⟨hs', fun x hx => ?_, fun key hne => ?_, fun draft hdraft => ?_, fun hall => ?_⟩
      · have hx := hgap x hx
        unfold HasGap at hx
        rw [hreported, Dict.get?_erase, Dict.get?_set] at hx
        by_cases hxe : keyOf tools e = keyOf tools x
        · rw [if_pos hxe, if_pos hxe] at hx
          have hgaps : gapOf tools x = gapOf tools e := (Option.some.inj (hx.resolve_left (by simp))).symm
          left
          rw [← hxe, hgaps, ← hkey]
          exact hfirst
        · rw [if_neg hxe, if_neg hxe] at hx
          exact hx
      · obtain ⟨hne, hrest⟩ := List.forall_mem_cons.1 hne
        rw [hkept key hrest, hreported, Dict.get?_erase, if_neg]
        rw [← hkey]
        exact Ne.symm hne
      · rw [hhas draft hdraft]
        show Has tables' draft ↔ _
        rw [happended.has_iff, or_iff_left (hdraft.ne_failure _).symm]
      · refine List.forall_mem_cons.2 ⟨?_, hcleared hall⟩
        rw [hkept _ fun gap hgap heq => hother gap hgap (heq.symm.trans hkey), hreported,
          Dict.get?_erase, if_pos hkey.symm]

theorem mem_pendingOf :
    gap ∈ service.pendingOf query ↔ ∃ id, service.pendingGaps.get? (query, id) = some gap := by
  simp only [ExecutionTraceService.pendingOf, List.mem_map, List.mem_filter, decide_eq_true_eq]
  constructor
  · rintro ⟨⟨⟨_, id⟩, _⟩, ⟨hmem, rfl⟩, rfl⟩
    exact ⟨id, (Dict.mem_entries _ _ _).1 hmem⟩
  · rintro ⟨id, hget⟩
    exact ⟨((query, id), gap), ⟨(Dict.mem_entries _ _ _).2 hget, rfl⟩, rfl⟩

/-- The pending gaps of a turn have different failure ids. -/
theorem nodup_pendingOf
    (hids : ∀ key gap, service.pendingGaps.get? key = some gap → key.2 = gap.failureId) :
    ((service.pendingOf query).map (·.failureId)).Nodup := by
  have hkeys : ((service.pendingGaps.entries.filter (·.1.1 = query)).map Prod.fst).Nodup :=
    (List.filter_sublist.map Prod.fst).nodup service.pendingGaps.nodup
  rw [ExecutionTraceService.pendingOf, List.map_map]
  refine List.Nodup.map_on ?_ (List.Nodup.of_map _ hkeys)
  intro p hp p' hp' hid
  obtain ⟨hmem, hquery⟩ := List.mem_filter.1 hp
  obtain ⟨hmem', hquery'⟩ := List.mem_filter.1 hp'
  have hget := (Dict.mem_entries _ p.1 p.2).1 hmem
  have hget' := (Dict.mem_entries _ p'.1 p'.2).1 hmem'
  have hkey : p.1 = p'.1 := by
    refine Prod.ext ((of_decide_eq_true hquery).trans (of_decide_eq_true hquery').symm) ?_
    rw [hids _ _ hget, hids _ _ hget']
    exact hid
  refine Prod.ext hkey ?_
  rw [hkey, hget'] at hget
  exact (Option.some.inj hget).symm

variable (fails) in
/-- Settling keeps what a call keeps, and ends the gap of the event if no append fails. -/
theorem Settling.settle (hs : Settling tools services passed i event call) :
    let call' := call.settle tools fails event
    Settling tools services passed i event call' ∧
      (∀ e, HasGap tools call'.service e → HasGap tools call.service e) ∧
      (∀ draft, Observation draft → (Has call'.tables draft ↔ Has call.tables draft)) ∧
      ((HasGap tools call.service event → ∀ n, fails n = false) →
        ¬HasGap tools call'.service event) := by
  obtain ⟨hs₁, -, hgap₁, hhas₁, -⟩ := hs.recordRepair fails
  have hids : ∀ key gap, (call.recordRepairIfNeeded fails (queryFor event)
      (failureIdFor tools event)).service.pendingGaps.get? key = some gap → key.2 = gap.failureId := by
    intro key gap hget
    obtain ⟨e, -, rfl, rfl⟩ := hs₁.ledger.pending i key gap (by rw [Function.update_self]; exact hget)
    rfl
  obtain ⟨hs₂, hgap₂, hkept₂, hhas₂, hclear₂⟩ := hs₁.flushGaps fails (fun gap hgap => by
    obtain ⟨id, hget⟩ := mem_pendingOf.1 hgap
    have hid : id = gap.failureId := hids _ _ hget
    exact hid ▸ hget) (nodup_pendingOf hids)
  obtain ⟨hs₃, hpending₃, hgap₃, hhas₃, hclear₃⟩ := hs₂.recordRepair fails
  refine ⟨hs₃, fun e h => hgap₁ e (hgap₂ e (hgap₃ e h)), fun draft hdraft => ?_, fun hnone hgap => ?_⟩
  · exact (hhas₃ draft hdraft).trans ((hhas₂ draft hdraft).trans (hhas₁ draft hdraft))
  · have hall := hnone (hgap₁ _ (hgap₂ _ (hgap₃ _ hgap)))
    rcases hgap with hpending | hreported
    · have hpending := (congrArg (Dict.get? · (keyOf tools event)) hpending₃).symm.trans hpending
      by_cases hin : ∃ gap ∈ (call.recordRepairIfNeeded fails (queryFor event)
          (failureIdFor tools event)).service.pendingOf (queryFor event),
          keyOf tools event = (queryFor event, gap.failureId)
      · obtain ⟨gap, hmem, heq⟩ := hin
        rw [heq] at hpending
        exact absurd ((hclear₂ hall gap hmem).symm.trans hpending) (by simp)
      · have hbefore := (hkept₂ _ fun gap hgap heq => hin ⟨gap, hgap, heq⟩).symm.trans hpending
        exact hin ⟨gapOf tools event, mem_pendingOf.2 ⟨_, hbefore⟩, rfl⟩
    · exact absurd ((hclear₃ hall).symm.trans hreported) (by simp)

end Settle

end Steps

/-! ## Calls -/

structure Sound (tools : TraceTools) (world : TraceWorld) : Prop where
  ledger : Ledger tools world.tables world.services world.passed
  accounted : Accounted tools world.tables world.services world.passed

/-- The event of a call is an observation, and no other event has its failure id. -/
structure Observed (tools : TraceTools) (world : TraceWorld) (call : TryRecord) : Prop where
  observation : Observation call.event
  apart : Apart tools world.passed call.event

structure Performed (tools : TraceTools) (world world' : TraceWorld) (call : TryRecord) : Prop where
  has : ∀ draft, Observation draft →
    (Has world'.tables draft ↔ Has world.tables draft ∨ call.fails 0 = false ∧ draft = call.event)
  gaps : ∀ j e, HasGap tools (world'.services j) e → HasGap tools (world.services j) e ∨
    call.fails 0 = true ∧ j = call.service ∧ e = call.event
  settled : call.fails 0 = false →
    (HasGap tools (world.services call.service) call.event → ∀ n, call.fails n = false) →
      ¬HasGap tools (world'.services call.service) call.event

section Calls

variable {tools : TraceTools} {world : TraceWorld} {call : TryRecord}

theorem tryRecord_stored
    (h : TraceCall.record call.fails call.event ⟨world.tables, world.services call.service, 0⟩ =
      (.ok (), ⟨tables', world.services call.service, 1⟩)) :
    (TraceCall.tryRecord tools call.fails call.event
      ⟨world.tables, world.services call.service, 0⟩).2 =
        TraceCall.settle tools call.fails call.event ⟨tables', world.services call.service, 1⟩ := by
  simp only [TraceCall.tryRecord, h]
  split <;> rfl

theorem Sound.perform_stored (hw : Sound tools world) (ho : Observed tools world call)
    (happended : Appended world.tables tables' call.event) (hfails : call.fails 0 = false)
    (h : TraceCall.record call.fails call.event ⟨world.tables, world.services call.service, 0⟩ =
      (.ok (), ⟨tables', world.services call.service, 1⟩)) :
    Sound tools (world.perform tools call) ∧
      Performed tools world (world.perform tools call) call := by
  have hledger := hw.ledger.pass ho.observation ho.apart
  have hstart : Settling tools world.services (call.event :: world.passed) call.service call.event
      ⟨tables', world.services call.service, 1⟩ := by
    refine ⟨?_, ?_, List.mem_cons_self, happended.self⟩
    · rw [Function.update_eq_self]
      exact hledger.store List.mem_cons_self happended
    · rw [Function.update_eq_self]
      intro e he
      rcases List.mem_cons.1 he with rfl | he
      · exact .inl happended.self
      · rcases hw.accounted e he with hhas | hhas | hpending
        · exact .inl (happended.keeps hhas)
        · exact .inr (.inl (happended.keeps hhas))
        · exact .inr (.inr hpending)
  obtain ⟨hs, hgap, hhas, hsettled⟩ := hstart.settle call.fails
  have hworld : world.perform tools call =
      ⟨(TraceCall.settle tools call.fails call.event
          ⟨tables', world.services call.service, 1⟩).tables,
        Function.update world.services call.service (TraceCall.settle tools call.fails call.event
          ⟨tables', world.services call.service, 1⟩).service,
        call.event :: world.passed⟩ := by
    rw [TraceWorld.perform, tryRecord_stored h]
  rw [hworld]
  refine ⟨⟨hs.ledger, hs.accounted⟩, fun draft hdraft => ?_, fun j e he => ?_, fun _ hnone => ?_⟩
  · rw [hhas draft hdraft]
    show Has tables' draft ↔ _
    rw [happended.has_iff]
    simp [hfails]
  · left
    by_cases hj : j = call.service
    · subst hj
      simp only [Function.update_self] at he
      exact hgap e he
    · simp only [Function.update_of_ne hj] at he
      exact he
  · simp only [Function.update_self]
    exact hsettled hnone

theorem Sound.perform_failed (hw : Sound tools world) (ho : Observed tools world call)
    (hfails : call.fails 0 = true)
    (h : TraceCall.record call.fails call.event ⟨world.tables, world.services call.service, 0⟩ =
      (.error .unavailable, ⟨world.tables, world.services call.service, 1⟩)) :
    Sound tools (world.perform tools call) ∧
      Performed tools world (world.perform tools call) call := by
  have hledger := hw.ledger.pass ho.observation ho.apart
  have hresult : (TraceCall.tryRecord tools call.fails call.event
      ⟨world.tables, world.services call.service, 0⟩).2 =
        TraceCall.rememberGap tools call.event
          ⟨world.tables, world.services call.service, 1⟩ := by
    simp only [TraceCall.tryRecord, h]
  have hkeyOf : (queryFor call.event, failureIdFor tools call.event) = keyOf tools call.event := rfl
  rw [TraceWorld.perform, hresult]
  unfold TraceCall.rememberGap
  simp only [hkeyOf]
  by_cases hthere : (world.services call.service).pendingGaps.contains (keyOf tools call.event)
  · obtain ⟨gap, hget⟩ := (Dict.contains_iff _ _).1 hthere
    obtain ⟨e, he, rfl, hkey⟩ := hledger.pending _ _ gap hget
    obtain rfl : call.event = e :=
      hledger.distinct _ List.mem_cons_self e he (congrArg Prod.snd hkey)
    rw [if_pos hthere]
    simp only [Function.update_eq_self]
    refine ⟨⟨hledger, ?_⟩, fun draft _ => by simp [hfails], fun j e he => .inl he, fun hok => ?_⟩
    · exact List.forall_mem_cons.2 ⟨.inr (.inr ⟨_, hget⟩), hw.accounted⟩
    · rw [hfails] at hok
      cases hok
  · rw [if_neg hthere]
    refine ⟨⟨hledger.remember List.mem_cons_self, ?_⟩, fun draft _ => by simp [hfails],
      fun j e he => ?_, fun hok => ?_⟩
    · refine List.forall_mem_cons.2 ⟨.inr (.inr ⟨call.service, ?_⟩), fun e he => ?_⟩
      · simp only [Function.update_self]
        exact Dict.get?_set_self ..
      · rcases hw.accounted e he with hhas | hhas | ⟨j, hget⟩
        · exact .inl hhas
        · exact .inr (.inl hhas)
        · refine .inr (.inr ⟨j, ?_⟩)
          by_cases hj : j = call.service
          · subst hj
            simp only [Function.update_self]
            refine (Dict.get?_set_ne _ _ fun hkey => hthere ?_).trans hget
            exact (Dict.contains_iff _ _).2 ⟨_, hkey ▸ hget⟩
          · simp only [Function.update_of_ne hj]
            exact hget
    · by_cases hj : j = call.service
      · subst hj
        simp only [Function.update_self] at he
        rcases he with hpending | hreported
        · rw [Dict.get?_set] at hpending
          split at hpending
          · next hkey =>
            have hgap := Option.some.inj hpending
            exact .inr ⟨hfails, rfl, (congrArg TraceGap.event hgap).symm⟩
          · exact .inl (.inl hpending)
        · exact .inl (.inr hreported)
      · simp only [Function.update_of_ne hj] at he
        exact .inl he
    · rw [hfails] at hok
      cases hok

/-- A call keeps what the stored events and the gaps have in common. -/
theorem Sound.perform (hw : Sound tools world) (ho : Observed tools world call) :
    Sound tools (world.perform tools call) ∧
      Performed tools world (world.perform tools call) call := by
  have hledger : Ledger tools (TraceCall.tables ⟨world.tables, world.services call.service, 0⟩)
      world.services (call.event :: world.passed) :=
    hw.ledger.pass ho.observation ho.apart
  rcases record_cases call.fails hledger (.event List.mem_cons_self) with
    ⟨hfails, hrecord⟩ | ⟨hfails, tables', happended, hrecord⟩
  · exact hw.perform_failed ho hfails hrecord
  · exact hw.perform_stored ho happended hfails hrecord

end Calls

/-! ## Snapshots -/

section Snapshots

variable {tools : TraceTools} {tables : TraceTables} {services : Nat → ExecutionTraceService}
  {passed : List ExecutionTraceEventDraft} {query : ExecutionTraceQuery} {i : Nat}

theorem Ledger.listEvents (hl : Ledger tools tables services passed) (query : ExecutionTraceQuery) :
    listEvents tables query 0 = tables.rows.filter (belongs query) := by
  have hincreasing : Cursor.Increasing (·.eventOffset) (tables.rows.filter (belongs query)) :=
    hl.increasing.filter _
  have hnodup : ((tables.rows.filter (belongs query)).map (·.eventOffset)).Nodup := by
    refine List.pairwise_map.2 (hincreasing.imp ?_)
    intro row row' hlt
    exact ne_of_lt hlt
  unfold Repositories.listEvents
  refine Cursor.eq_of_increasing (Cursor.page_increasing hnodup) hincreasing fun row => ?_
  rw [Cursor.mem_page, and_iff_left_of_imp]
  intro hmem
  exact (hl.bounds row (List.mem_of_mem_filter hmem)).1

theorem snapshotOf_complete_iff {events : List ExecutionTraceEvent} :
    (∃ snapshot, snapshotOf tools events = .ok snapshot ∧ snapshot.completeness = .complete) ↔
      (openFailures tools events).values = [] := by
  unfold snapshotOf
  cases hfirst : events.head? with
  | none =>
    obtain rfl := List.head?_eq_none_iff.1 hfirst
    exact iff_of_true ⟨_, rfl, rfl⟩ rfl
  | some first =>
    cases hlast : events.getLast? with
    | none => simp [List.getLast?_eq_none_iff.1 hlast] at hfirst
    | some last =>
      simp only
      constructor
      · rintro ⟨snapshot, hok, hcomplete⟩
        obtain ⟨_, -, hok⟩ := Except.bind_eq_ok.1 hok
        obtain rfl := Except.ok.inj hok
        by_contra hopen
        rw [if_neg (by simpa using hopen)] at hcomplete
        cases hcomplete
      · intro hnone
        rw [hnone]
        exact ⟨_, rfl, rfl⟩

theorem Ledger.snapshot_complete_iff (hl : Ledger tools tables services passed) :
    (∃ snapshot, (services i).snapshot tools tables query = .ok snapshot ∧
      snapshot.completeness = .complete) ↔
    (services i).pendingOf query = [] ∧
      (openFailures tools (tables.rows.filter (belongs query))).values = [] := by
  rw [← snapshotOf_complete_iff]
  unfold ExecutionTraceService.snapshot
  rw [hl.listEvents]
  cases hpending : (services i).pendingOf query with
  | nil =>
    simp only [true_and]
    refine exists_congr fun snapshot => and_congr_left fun _ => ?_
    cases snapshotOf tools (tables.rows.filter (belongs query)) <;> exact .rfl
  | cons gap gaps =>
    refine iff_of_false ?_ (fun h => by cases h.1)
    rintro ⟨snapshot, hok, hcomplete⟩
    obtain ⟨_, -, hok⟩ := Except.bind_eq_ok.1 hok
    obtain rfl := Except.ok.inj hok
    cases hcomplete

theorem values_eq_nil_iff : failures.values = [] ↔ ∀ id, (failures.get? id).isSome = false := by
  rw [List.eq_nil_iff_forall_not_mem]
  constructor
  · intro hnone id
    rw [Option.isSome_eq_false_iff, Option.isNone_iff_eq_none]
    by_contra hsome
    obtain ⟨code, hget⟩ := Option.ne_none_iff_exists'.1 hsome
    exact hnone code ((failures.mem_values code).2 ⟨id, hget⟩)
  · intro hnone code hmem
    obtain ⟨id, hget⟩ := (failures.mem_values code).1 hmem
    have := hnone id
    rw [hget] at this
    cases this

/-- No failure of a turn is open when every stored failure of its gaps is repaired. -/
theorem Ledger.openFailures_eq_nil_iff (hl : Ledger tools tables services passed) :
    (openFailures tools (tables.rows.filter (belongs query))).values = [] ↔
      ∀ event ∈ passed, queryFor event = query → Has tables (failureEvent (gapOf tools event)) →
        Has tables (repairEvent (gapOf tools event)) := by
  rw [values_eq_nil_iff]
  constructor
  · intro hnone event he hquery hfailure
    by_contra hrepair
    have hopen := (hl.opened query (failureIdFor tools event)).2
      ⟨event, he, by rw [keyOf, hquery], hfailure, hrepair⟩
    rw [hnone] at hopen
    cases hopen
  · intro hall id
    by_contra hopen
    obtain ⟨event, he, hkey, hfailure, hrepair⟩ :=
      (hl.opened query id).1 (Bool.eq_true_of_not_eq_false hopen)
    exact hrepair (hall event he (congrArg Prod.fst hkey) hfailure)

theorem Ledger.pendingOf_eq_nil_iff (hl : Ledger tools tables services passed) :
    (services i).pendingOf query = [] ↔ ∀ event ∈ passed, queryFor event = query →
      (services i).pendingGaps.get? (keyOf tools event) ≠ some (gapOf tools event) := by
  rw [List.eq_nil_iff_forall_not_mem]
  constructor
  · intro hnone event he hquery hget
    refine hnone (gapOf tools event) (mem_pendingOf.2 ⟨failureIdFor tools event, ?_⟩)
    rw [← hquery]
    exact hget
  · intro hall gap hmem
    obtain ⟨id, hget⟩ := mem_pendingOf.1 hmem
    obtain ⟨event, he, rfl, hkey⟩ := hl.pending i _ _ hget
    refine hall event he (congrArg Prod.fst hkey).symm ?_
    rw [← hkey]
    exact hget

end Snapshots

/-! ## Runs -/

section Runs

variable {tools : TraceTools} {world : TraceWorld} {calls : List TryRecord}
  {C : TraceWorld → TryRecord → Prop}

/-- What every call that meets the condition keeps holds after the calls. -/
theorem TraceWorld.Meets.keeps {I : TraceWorld → Prop} (h : world.Meets tools C calls)
    (hstep : ∀ world call, C world call → I world → I (world.perform tools call)) (hI : I world) :
    I (world.after tools calls) := by
  induction calls generalizing world with
  | nil => exact hI
  | cons call calls ih => exact ih h.2 (hstep world call h.1 hI)

theorem TraceWorld.Meets.imp {C' : TraceWorld → TryRecord → Prop} (h : world.Meets tools C calls)
    (himp : ∀ world call, C world call → C' world call) : world.Meets tools C' calls := by
  induction calls generalizing world with
  | nil => trivial
  | cons call calls ih => exact ⟨himp _ _ h.1, ih h.2⟩

theorem Sound.new : Sound tools .new where
  ledger :=
    { increasing := List.Pairwise.nil
      bounds := fun _ h => absurd h (List.not_mem_nil)
      next := by decide
      observed := fun _ h => absurd h (List.not_mem_nil)
      distinct := fun _ h => absurd h (List.not_mem_nil)
      rows := fun _ h => absurd h (List.not_mem_nil)
      pending := fun _ _ _ h => absurd h (by simp [TraceWorld.new, ExecutionTraceService.new])
      reported := fun _ _ _ h => absurd h (by simp [TraceWorld.new, ExecutionTraceService.new])
      repaired := fun _ h => absurd h (List.not_mem_nil)
      unrepaired := fun _ h => absurd h (List.not_mem_nil)
      opened := fun query id => by simp [TraceWorld.new, TraceTables.empty, openFailures] }
  accounted _ h := absurd h (List.not_mem_nil)

theorem Sound.after (hw : Sound tools world) (h : world.Meets tools (Observed tools) calls) :
    Sound tools (world.after tools calls) :=
  h.keeps (fun _ _ ho hw => (hw.perform ho).1) hw

/-- Every instance but one has reported the gaps of the turn whose event is missing. -/
def ReportedElsewhere (tools : TraceTools) (world : TraceWorld) (i : Nat)
    (query : ExecutionTraceQuery) : Prop :=
  ∀ j ≠ i, ∀ event, queryFor event = query →
    (world.services j).pendingGaps.get? (keyOf tools event) = some (gapOf tools event) →
      Has world.tables event

theorem Sound.mem_of_hasGap (hw : Sound tools world) {j : Nat}
    (h : HasGap tools (world.services j) event) : event ∈ world.passed := by
  obtain ⟨e, he, hgap⟩ : ∃ e ∈ world.passed, gapOf tools event = gapOf tools e := by
    rcases h with hget | hget
    · obtain ⟨e, he, hgap, -⟩ := hw.ledger.pending j _ _ hget
      exact ⟨e, he, hgap⟩
    · obtain ⟨e, he, hgap, -⟩ := hw.ledger.reported j _ _ hget
      exact ⟨e, he, hgap⟩
  have heq : event = e := congrArg TraceGap.event hgap
  exact heq ▸ he

/-- A complete snapshot misses no event, unless another instance keeps its gap to itself. -/
theorem Sound.complete_iff (hw : Sound tools world) {i : Nat}
    (hcomplete : ∃ snapshot, (world.services i).snapshot tools world.tables query = .ok snapshot ∧
      snapshot.completeness = .complete) :
    (∀ event ∈ world.passed, queryFor event = query → Has world.tables event) ↔
      ReportedElsewhere tools world i query := by
  obtain ⟨hpending, hopen⟩ := hw.ledger.snapshot_complete_iff.1 hcomplete
  rw [hw.ledger.pendingOf_eq_nil_iff] at hpending
  rw [hw.ledger.openFailures_eq_nil_iff] at hopen
  constructor
  · intro hall j _ event hquery hget
    exact hall event (hw.mem_of_hasGap (.inl hget)) hquery
  · intro hknown event he hquery
    rcases hw.accounted event he with hhas | hfailure | ⟨j, hget⟩
    · exact hhas
    · exact (hw.ledger.repaired event he (hopen event he hquery hfailure)).1
    · by_cases hj : j = i
      · exact absurd (hj ▸ hget) (hpending event he hquery)
      · exact hknown j hj event hquery hget

/-- A stored event is appended again without an error, and only through an instance that knows
its gap, if any does; then no append of the call fails. -/
structure Settles (tools : TraceTools) (world : TraceWorld) (call : TryRecord) : Prop
    extends Observed tools world call where
  stored : Has world.tables call.event → call.fails 0 = false
  here : call.fails 0 = false → HasGap tools (world.services call.service) call.event →
    ∀ n, call.fails n = false
  elsewhere : call.fails 0 = false → ∀ j ≠ call.service, ¬HasGap tools (world.services j) call.event

structure Settled (tools : TraceTools) (world : TraceWorld) : Prop extends Sound tools world where
  met : ∀ j event, HasGap tools (world.services j) event → ¬Has world.tables event

theorem Settled.perform {call : TryRecord} (hw : Settled tools world)
    (hc : Settles tools world call) : Settled tools (world.perform tools call) := by
  obtain ⟨hsound, hp⟩ := hw.toSound.perform hc.toObserved
  refine ⟨hsound, fun j event hgap hhas => ?_⟩
  have hobservation := hsound.ledger.observed event (hsound.mem_of_hasGap hgap)
  rw [hp.has event hobservation] at hhas
  rcases hp.gaps j event hgap with hbefore | ⟨hfails, rfl, rfl⟩
  · rcases hhas with hhas | ⟨hfails, rfl⟩
    · exact hw.met j event hbefore hhas
    · by_cases hj : j = call.service
      · subst hj
        exact hp.settled hfails (hc.here hfails) hgap
      · exact hc.elsewhere hfails j hj hbefore
  · rw [hfails] at hhas
    have hthere := hhas.resolve_right (by simp)
    rw [hc.stored hthere] at hfails
    cases hfails

theorem Settled.new : Settled tools .new :=
  ⟨Sound.new, fun _ _ hgap => absurd (Sound.new.mem_of_hasGap hgap) List.not_mem_nil⟩

theorem Settled.after (hw : Settled tools world) (h : world.Meets tools (Settles tools) calls) :
    Settled tools (world.after tools calls) :=
  h.keeps (fun _ _ hc hw => hw.perform hc) hw

theorem TraceWorld.mem_passed_after :
    event ∈ (world.after tools calls).passed ↔
      event ∈ world.passed ∨ ∃ call ∈ calls, call.event = event := by
  induction calls generalizing world with
  | nil => simp [TraceWorld.after]
  | cons call calls ih =>
    show event ∈ ((world.perform tools call).after tools calls).passed ↔ _
    rw [ih]
    simp only [TraceWorld.perform, List.mem_cons, exists_eq_or_imp, eq_comm (a := event)]
    tauto

/-- What was stored stays, and calls without errors store their events. -/
theorem Sound.has_after (hw : Sound tools world) (h : world.Meets tools (Observed tools) calls)
    (hfails : ∀ call ∈ calls, ∀ n, call.fails n = false) (hevent : Observation event)
    (hhas : Has world.tables event ∨ ∃ call ∈ calls, call.event = event) :
    Has (world.after tools calls).tables event := by
  induction calls generalizing world with
  | nil =>
    rcases hhas with hhas | ⟨call, hcall, -⟩
    · exact hhas
    · cases hcall
  | cons call calls ih =>
    obtain ⟨hsound, hp⟩ := hw.perform h.1
    obtain ⟨hfirst, hfails⟩ := List.forall_mem_cons.1 hfails
    refine ih hsound h.2 hfails ?_
    rw [hp.has event hevent]
    rcases hhas with hhas | ⟨other, hother, rfl⟩
    · exact .inl (.inl hhas)
    · rcases List.mem_cons.1 hother with rfl | hother
      · exact .inl (.inr ⟨hfirst 0, rfl⟩)
      · exact .inr ⟨other, hother, rfl⟩

/-- When every event of a turn is stored, every instance reports the turn complete. -/
theorem Settled.complete (hw : Settled tools world) {query : ExecutionTraceQuery}
    (hall : ∀ event ∈ world.passed, queryFor event = query → Has world.tables event) (i : Nat) :
    ∃ snapshot, (world.services i).snapshot tools world.tables query = .ok snapshot ∧
      snapshot.completeness = .complete := by
  rw [hw.ledger.snapshot_complete_iff, hw.ledger.pendingOf_eq_nil_iff,
    hw.ledger.openFailures_eq_nil_iff]
  constructor
  · intro event he hquery hget
    exact hw.met i event (.inl hget) (hall event he hquery)
  · intro event he hquery hfailure
    rcases hw.ledger.unrepaired event he hfailure with hrepair | ⟨j, hget⟩
    · exact hrepair
    · exact absurd (hall event he hquery) (hw.met j event (.inr hget))

/-- Every run whose calls meet the condition. -/
theorem trace_completeness (tools : TraceTools) (calls : List TryRecord)
    (h : TraceWorld.new.Meets tools (Observed tools) calls) :
    let world := TraceWorld.new.after tools calls
    (∀ i query snapshot, (world.services i).snapshot tools world.tables query = .ok snapshot →
      snapshot.completeness = .complete →
        ((∀ event ∈ world.passed, queryFor event = query → Has world.tables event) ↔
          ReportedElsewhere tools world i query)) ∧
    (TraceWorld.new.Meets tools (Settles tools) calls →
      ∀ again : List TryRecord, world.Meets tools (Settles tools) again →
        (∀ call ∈ again, ∀ n, call.fails n = false) →
        ∀ query, (∀ event ∈ world.passed, queryFor event = query → ¬Has world.tables event →
          ∃ call ∈ again, call.event = event) →
        ∀ i, ∃ snapshot,
          ((world.after tools again).services i).snapshot tools (world.after tools again).tables
            query = .ok snapshot ∧ snapshot.completeness = .complete) := by
  have hsound : Sound tools (TraceWorld.new.after tools calls) := Sound.new.after h
  refine ⟨fun i query snapshot hok hcomplete => hsound.complete_iff ⟨snapshot, hok, hcomplete⟩, ?_⟩
  intro hsettles again hagain hfails query hmissing
  have hsettled := (Settled.new.after hsettles).after hagain
  refine hsettled.complete fun event he hquery => ?_
  refine hsound.has_after (hagain.imp fun _ _ hc => hc.toObserved) hfails
    (hsettled.ledger.observed event he) ?_
  rcases TraceWorld.mem_passed_after.1 he with he | hcall
  · by_cases hhas : Has (TraceWorld.new.after tools calls).tables event
    · exact .inl hhas
    · exact .inr (hmissing event he hquery hhas)
  · exact .inr hcall

end Runs

/-! ## A restart -/

def formed : ExecutionTraceEventDraft where
  traceId := "trace_turn"
  tenantId := "acme"
  userId := "ada"
  sessionId := "chat"
  turnId := "turn"
  runId := none
  eventType := .memoryFormation
  stage := "formation_processed"
  status := "completed"
  source := "oir:memory_formation"
  sourceEventId := "memory-formation:job:turn"
  sourceVersion := 1
  reasonCode := none
  facts :=
    [("candidate_count", .num 0), ("formation_status", .str "processed"), ("job_id", .str "job"),
      ("reason_code", .null)]
  evidenceRefs := []
  visibility := .businessRuntime
  schemaVersion := 2
  occurredAt := 0

def formedTools : TraceTools where
  sha256 := fun text =>
    if text = "oir:memory_formation\x1fmemory-formation:job:turn\x1f1" then
      "847485b2a1f7f71080eb7b8e6b7e697b73382ccec7169f33bf0d6db945611319"
    else ""
  str := fun _ => ""

def failedCall : TryRecord := ⟨0, formed, fun _ => true⟩

def retriedCall : TryRecord := ⟨0, formed, fun _ => false⟩

theorem formed_observed : Observation formed := by
  refine ⟨by decide, by decide, ?_⟩
  rw [Json.distinctKeys_obj]
  simp [formed]

theorem failedCall_settles : Settles formedTools .new failedCall where
  observation := formed_observed
  apart _ hother := absurd hother List.not_mem_nil
  stored hhas := by
    obtain ⟨row, hrow, -⟩ := hhas
    cases hrow
  here hfails := by cases hfails
  elsewhere hfails := by cases hfails

theorem retriedCall_settles :
    Settles formedTools (TraceWorld.new.after formedTools [failedCall]) retriedCall where
  observation := formed_observed
  apart other hother _ := List.mem_singleton.1 hother
  stored _ := rfl
  here _ _ _ := rfl
  elsewhere _ j hj hgap := by
    have hnew : (TraceWorld.new.after formedTools [failedCall]).services j = .new :=
      Function.update_of_ne hj _ _
    rw [hnew] at hgap
    rcases hgap with hget | hget <;> cases hget

/-- After the event is passed again, another instance reports its turn complete, and it is stored. -/
theorem trace_completeness_retried :
    let world := TraceWorld.new.after formedTools [failedCall, retriedCall]
    (∃ snapshot, (world.services 1).snapshot formedTools world.tables (queryFor formed) =
        .ok snapshot ∧ snapshot.completeness = .complete) ∧ Has world.tables formed := by
  intro world
  have hretried : ∃ snapshot, (world.services 1).snapshot formedTools world.tables
      (queryFor formed) = .ok snapshot ∧ snapshot.completeness = .complete := by
    refine (trace_completeness formedTools [failedCall] ⟨failedCall_settles.toObserved, trivial⟩).2
      ⟨failedCall_settles, trivial⟩ [retriedCall] ⟨retriedCall_settles, trivial⟩ ?_ _ ?_ 1
    · intro call hcall n
      rw [List.mem_singleton.1 hcall]
      rfl
    · intro event hevent _ _
      exact ⟨retriedCall, List.mem_singleton_self _, (List.mem_singleton.1 hevent).symm⟩
  obtain ⟨snapshot, hok, hcomplete⟩ := hretried
  -- no other instance has a pending gap: the first one reported it and repaired it
  have hreported : ReportedElsewhere formedTools world 1 (queryFor formed) := by
    intro j _ event _ hpending
    by_cases hj : j = 0
    · subst hj
      cases hpending
    · have hnew : world.services j = .new := by
        show Function.update (Function.update _ 0 _) 0 _ j = _
        rw [Function.update_of_ne hj, Function.update_of_ne hj]
        rfl
      rw [hnew] at hpending
      cases hpending
  have hall := ((trace_completeness formedTools [failedCall, retriedCall]
    ⟨failedCall_settles.toObserved, retriedCall_settles.toObserved, trivial⟩).1 1 _ snapshot hok
      hcomplete).2 hreported
  exact ⟨⟨snapshot, hok, hcomplete⟩, hall formed (List.mem_cons_self ..) rfl⟩

/-- The gap is known to the instance whose append failed; another one reports the turn
complete. -/
theorem fresh_instance_misses_gap :
    let world := TraceWorld.new.after formedTools [failedCall]
    formed ∈ world.passed ∧ ¬Has world.tables formed ∧
      (world.services 1).snapshot formedTools world.tables (queryFor formed) =
        .ok ⟨none, [], 0, .complete, []⟩ := by
  refine ⟨List.mem_singleton_self _, ?_, by decide⟩
  rintro ⟨row, hrow, -⟩
  cases hrow

end OpenIntentRouter.Traces
