import OpenIntentRouter.Core.LTS
import OpenIntentRouter.Services.ExecutionTraceService

/-!
# What the trace stream yields

Any number of appends, statement by statement, and one stream. The stream keeps
the largest offset it has read, so it misses an event that commits after a
larger offset of the same turn has been read. A read is `Calm` when no open
transaction of the turn has drawn a smaller offset than a row that is read.

Any query and any offset to start after, from empty tables; `Calm` reads the state before
the poll.

* `stream_loses_nothing`: with calm reads every committed event is yielded, once
  and in order;
* `late_commit_lost`: an event overtaken by a read is never yielded.
-/
namespace OpenIntentRouter.Traces

open Core Schemas Repositories Services

def observed (query : ExecutionTraceQuery) (afterOffset : Int) : LTS TraceFeed TraceStep :=
  .ofFn (· = ⟨.empty, .start afterOffset⟩) (TraceFeed.step query)

def inFlight (tables : TraceTables) : List ExecutionTraceEvent := tables.waiting ++ tables.written

def numbered (tables : TraceTables) : List ExecutionTraceEvent := inFlight tables ++ tables.rows

/-- A read of the turn finds no offset above that of an open transaction of the turn
which the cursor has not passed. -/
def Calm (query : ExecutionTraceQuery) (feed : TraceFeed) (l : TraceStep) : Prop :=
  l = .poll → ∀ event ∈ inFlight feed.tables, belongs query event = true →
    feed.stream.cursor < event.eventOffset →
    ∀ row ∈ feed.tables.rows, belongs query row = true → row.eventOffset < event.eventOffset

/-! ## Statements -/

section Statements

variable {tables tables' : TraceTables} {s : TraceStatement} {events : List ExecutionTraceEvent}
  {event row : ExecutionTraceEvent} {offset : Int}

theorem withOffset_some (h : withOffset offset events = some row) :
    row ∈ events ∧ row.eventOffset = offset :=
  ⟨List.mem_of_find?_eq_some h, by simpa using List.find?_some h⟩

theorem withoutOffset_sublist : (withoutOffset offset events).Sublist events := List.filter_sublist

theorem perm_withoutOffset (hapart : (events.map (·.eventOffset)).Nodup)
    (h : withOffset offset events = some row) :
    events.Perm (row :: withoutOffset offset events) := by
  induction events with
  | nil => cases h
  | cons head rest ih =>
    obtain ⟨hhead, hrest⟩ := List.nodup_cons.1 hapart
    unfold withOffset at h
    unfold withoutOffset
    by_cases heq : head.eventOffset = offset
    · rw [List.find?_cons_of_pos (by simpa using heq)] at h
      cases h
      have hkept : ∀ e ∈ rest, e.eventOffset ≠ offset := by
        intro e he hoffset
        exact hhead (List.mem_map.2 ⟨e, he, hoffset.trans heq.symm⟩)
      rw [List.filter_cons_of_neg (by simpa using heq),
        List.filter_eq_self.2 (by simpa using hkept)]
    · rw [List.find?_cons_of_neg (by simpa using heq)] at h
      rw [List.filter_cons_of_pos (by simpa using heq)]
      exact ((ih hrest h).cons head).trans (.swap _ _ _)

structure Numbered (tables : TraceTables) : Prop where
  apart : ((numbered tables).map (·.eventOffset)).Nodup
  below : ∀ event ∈ numbered tables, event.eventOffset < tables.nextOffset

theorem Numbered.subperm (h : Numbered tables) (hnext : tables'.nextOffset = tables.nextOffset)
    (hsub : (numbered tables').Subperm (numbered tables)) : Numbered tables' where
  apart := by
    obtain ⟨l, hperm, hsublist⟩ := hsub
    exact (hperm.map _).nodup_iff.1 (h.apart.sublist (hsublist.map _))
  below := by
    intro event hmem
    rw [hnext]
    exact h.below event (hsub.subset hmem)

theorem Numbered.statement (h : Numbered tables) (hs : tables.statement s = some tables') :
    Numbered tables' := by
  have hflying : ((inFlight tables).map (·.eventOffset)).Nodup :=
    h.apart.sublist ((List.sublist_append_left _ _).map _)
  cases s with
  | insert event =>
    cases hs
    have hperm : (numbered { tables with
        nextOffset := tables.nextOffset + 1
        waiting := tables.waiting ++ [⟨event, tables.nextOffset⟩] }).Perm
        (⟨event, tables.nextOffset⟩ :: numbered tables) := by
      unfold numbered inFlight
      simp only [List.append_assoc, List.singleton_append]
      exact List.perm_middle
    constructor
    · rw [(hperm.map _).nodup_iff, List.map_cons, List.nodup_cons]
      refine ⟨fun hmem => ?_, h.apart⟩
      obtain ⟨old, hold, heq⟩ := List.mem_map.1 hmem
      have hlt := h.below old hold
      dsimp only at heq
      omega
    · intro e hmem
      rcases List.mem_cons.1 (hperm.subset hmem) with rfl | hold
      · dsimp only
        omega
      · have hlt := h.below e hold
        dsimp only
        omega
  | enter offset =>
    simp only [TraceTables.statement] at hs
    split at hs
    · cases hs
    · next row hrow =>
      split at hs
      · cases hs
        refine h.subperm rfl (List.Sublist.subperm ?_)
        exact (withoutOffset_sublist.append (.refl _)).append (.refl _)
      · split at hs
        · cases hs
        · cases hs
          refine h.subperm rfl (List.Perm.subperm ?_)
          have hwaiting := perm_withoutOffset
            (hflying.sublist ((List.sublist_append_left _ _).map _)) hrow
          unfold numbered inFlight
          refine List.Perm.append ?_ (.refl _)
          rw [← List.append_assoc]
          exact (List.perm_append_singleton _ _).trans (hwaiting.symm.append (.refl _))
  | commit offset =>
    simp only [TraceTables.statement] at hs
    split at hs
    · cases hs
    · next row hrow =>
      cases hs
      refine h.subperm rfl (List.Perm.subperm ?_)
      have hwritten := perm_withoutOffset
        (hflying.sublist ((List.sublist_append_right _ _).map _)) hrow
      unfold numbered inFlight
      rw [List.append_assoc, List.append_assoc]
      refine List.Perm.append (.refl _) ?_
      rw [← List.append_assoc]
      exact (List.perm_append_singleton _ _).trans (hwritten.symm.append (.refl _))
  | rollback offset =>
    cases hs
    refine h.subperm rfl (List.Sublist.subperm ?_)
    exact (withoutOffset_sublist.append withoutOffset_sublist).append (.refl _)

/-- A statement commits one of the rows in flight, or no row. -/
theorem statement_rows (hs : tables.statement s = some tables') :
    tables'.rows = tables.rows ∨
      ∃ row ∈ inFlight tables, s = .commit row.eventOffset ∧ tables'.rows = tables.rows ++ [row] := by
  cases s with
  | insert event =>
    cases hs
    exact .inl rfl
  | enter offset =>
    simp only [TraceTables.statement] at hs
    split at hs
    · cases hs
    · split at hs
      · cases hs
        exact .inl rfl
      · split at hs
        · cases hs
        · cases hs
          exact .inl rfl
  | commit offset =>
    simp only [TraceTables.statement] at hs
    split at hs
    · cases hs
    · next row hrow =>
      cases hs
      obtain ⟨hmem, hoffset⟩ := withOffset_some hrow
      exact .inr ⟨row, List.mem_append_right _ hmem, by rw [hoffset], rfl⟩
  | rollback offset =>
    cases hs
    exact .inl rfl

/-- What is in flight after a statement was in flight, or has drawn its offset just now. -/
theorem statement_inFlight (hs : tables.statement s = some tables')
    (hmem : event ∈ inFlight tables') :
    event ∈ inFlight tables ∨ event.eventOffset = tables.nextOffset := by
  have hwithout : ∀ {offset : Int} {events : List ExecutionTraceEvent},
      event ∈ withoutOffset offset events → event ∈ events := fun h => withoutOffset_sublist.subset h
  unfold inFlight at hmem ⊢
  rw [List.mem_append] at hmem ⊢
  cases s with
  | insert draft =>
    cases hs
    rcases hmem with hmem | hmem
    · rcases List.mem_append.1 hmem with hmem | hmem
      · exact .inl (.inl hmem)
      · rw [List.mem_singleton.1 hmem]
        exact .inr rfl
    · exact .inl (.inr hmem)
  | enter offset =>
    simp only [TraceTables.statement] at hs
    split at hs
    · cases hs
    · next row hrow =>
      split at hs
      · cases hs
        exact .inl (hmem.imp_left hwithout)
      · split at hs
        · cases hs
        · cases hs
          rcases hmem with hmem | hmem
          · exact .inl (.inl (hwithout hmem))
          · rcases List.mem_append.1 hmem with hmem | hmem
            · exact .inl (.inr hmem)
            · rw [List.mem_singleton.1 hmem]
              exact .inl (.inl (withOffset_some hrow).1)
  | commit offset =>
    simp only [TraceTables.statement] at hs
    split at hs
    · cases hs
    · cases hs
      exact .inl (hmem.imp_right hwithout)
  | rollback offset =>
    cases hs
    exact .inl (hmem.imp hwithout hwithout)

end Statements

/-! ## The stream -/

section Stream

variable {query : ExecutionTraceQuery} {afterOffset : Int} {feed feed' : TraceFeed}
  {event row : ExecutionTraceEvent} {l : TraceStep}

def TraceFeed.seen (feed : TraceFeed) : List ExecutionTraceEvent :=
  feed.stream.yielded ++ feed.stream.events

def Ahead (feed : TraceFeed) (event : ExecutionTraceEvent) : Prop :=
  feed.stream.cursor < event.eventOffset ∧
  ∀ old ∈ feed.stream.events, old.eventOffset < event.eventOffset

structure Reads (query : ExecutionTraceQuery) (afterOffset : Int) (feed : TraceFeed) : Prop where
  numbered : Numbered feed.tables
  started : afterOffset ≤ feed.stream.cursor
  cursor : feed.stream.cursor = afterOffset ∨
    ∃ event ∈ feed.stream.yielded, event.eventOffset = feed.stream.cursor
  yielded : ∀ event ∈ feed.stream.yielded, event.eventOffset ≤ feed.stream.cursor
  events : ∀ event ∈ feed.stream.events, feed.stream.cursor < event.eventOffset
  increasing : Cursor.Increasing (·.eventOffset) (TraceFeed.seen feed)
  committed : ∀ event ∈ TraceFeed.seen feed, event ∈ feed.tables.rows ∧
    belongs query event = true ∧ afterOffset < event.eventOffset

structure Misses (query : ExecutionTraceQuery) (afterOffset : Int) (feed : TraceFeed) : Prop where
  rows : ∀ row ∈ feed.tables.rows, belongs query row = true → afterOffset < row.eventOffset →
    row ∈ TraceFeed.seen feed ∨ Ahead feed row
  inFlight : ∀ event ∈ inFlight feed.tables, belongs query event = true →
    afterOffset < event.eventOffset → Ahead feed event

theorem rows_apart {tables : TraceTables} (h : Numbered tables) :
    ((tables.rows.filter (belongs query)).map (·.eventOffset)).Nodup :=
  h.apart.sublist ((List.filter_sublist.trans (List.sublist_append_right _ _)).map _)

theorem Reads.statement {tables' : TraceTables} {s : TraceStatement}
    (h : Reads query afterOffset feed) (hs : feed.tables.statement s = some tables') :
    Reads query afterOffset { feed with tables := tables' } where
  numbered := h.numbered.statement hs
  started := h.started
  cursor := h.cursor
  yielded := h.yielded
  events := h.events
  increasing := h.increasing
  committed := by
    intro event hmem
    obtain ⟨hrow, hasked⟩ := h.committed event hmem
    rcases statement_rows hs with hsame | ⟨row, -, -, hgrown⟩
    · exact ⟨by rw [hsame]; exact hrow, hasked⟩
    · exact ⟨by rw [hgrown]; exact List.mem_append_left _ hrow, hasked⟩

theorem poll_some {stream stream' : TraceStream} {tables : TraceTables}
    (h : stream.poll tables query = some stream') :
    stream.events = [] ∧ stream' = { stream with events := listEvents tables query stream.cursor } := by
  unfold TraceStream.poll at h
  split at h
  · next hnil =>
    cases h
    exact ⟨hnil, rfl⟩
  · cases h

theorem next_some {stream stream' : TraceStream} (h : stream.next = some stream') :
    ∃ event events, stream.events = event :: events ∧
      stream' = ⟨event.eventOffset, events, stream.yielded ++ [event]⟩ := by
  unfold TraceStream.next at h
  split at h
  · cases h
  · next event events hcons =>
    cases h
    exact ⟨event, events, hcons, rfl⟩

theorem mem_listEvents {tables : TraceTables} {cursor : Int} :
    event ∈ listEvents tables query cursor ↔
      event ∈ tables.rows ∧ belongs query event = true ∧ cursor < event.eventOffset := by
  simp [listEvents, Cursor.mem_page, and_assoc]

theorem Reads.poll {stream' : TraceStream} (h : Reads query afterOffset feed)
    (hs : feed.stream.poll feed.tables query = some stream') :
    Reads query afterOffset { feed with stream := stream' } := by
  obtain ⟨hnil, rfl⟩ := poll_some hs
  have hread := h.increasing
  have hcommitted := h.committed
  simp only [TraceFeed.seen, hnil, List.append_nil] at hread hcommitted
  have habove : ∀ event ∈ listEvents feed.tables query feed.stream.cursor,
      feed.stream.cursor < event.eventOffset := fun event hmem => (mem_listEvents.1 hmem).2.2
  exact
    { numbered := h.numbered
      started := h.started
      cursor := h.cursor
      yielded := h.yielded
      events := habove
      increasing := by
        refine hread.append (Cursor.page_increasing (rows_apart h.numbered)) ?_
        intro old hold event hevent
        have hle := h.yielded old hold
        have hlt := habove event hevent
        omega
      committed := by
        intro event hmem
        rcases List.mem_append.1 hmem with hold | hnew
        · exact hcommitted event hold
        · obtain ⟨hrow, hbelongs, hlt⟩ := mem_listEvents.1 hnew
          have hstart := h.started
          exact ⟨hrow, hbelongs, by omega⟩ }

theorem Reads.next {stream' : TraceStream} (h : Reads query afterOffset feed)
    (hs : feed.stream.next = some stream') :
    Reads query afterOffset { feed with stream := stream' } := by
  obtain ⟨event, events, hcons, rfl⟩ := next_some hs
  have hseen : TraceFeed.seen feed = feed.stream.yielded ++ [event] ++ events := by
    simp [TraceFeed.seen, hcons]
  have hevent := h.events event (by rw [hcons]; exact List.mem_cons_self)
  have hincreasing := h.increasing
  rw [hseen] at hincreasing
  obtain ⟨-, -, hrest⟩ := List.pairwise_append.1 hincreasing
  have hstart := h.started
  exact
    { numbered := h.numbered
      started := by
        dsimp only
        omega
      cursor := .inr ⟨event, by simp, rfl⟩
      yielded := by
        intro old hold
        rcases List.mem_append.1 hold with hold | hold
        · have hle := h.yielded old hold
          dsimp only
          omega
        · rw [List.mem_singleton.1 hold]
      events := fun old hold => hrest event (by simp) old hold
      increasing := hincreasing
      committed := by
        intro old hold
        refine h.committed old ?_
        rw [hseen]
        exact hold }

theorem Reads.step (h : Reads query afterOffset feed) (hs : feed.step query l = some feed') :
    Reads query afterOffset feed' := by
  cases l with
  | statement s =>
    obtain ⟨tables, htables, rfl⟩ := Option.map_eq_some_iff.1 hs
    exact h.statement htables
  | poll =>
    obtain ⟨stream, hstream, rfl⟩ := Option.map_eq_some_iff.1 hs
    exact h.poll hstream
  | next =>
    obtain ⟨stream, hstream, rfl⟩ := Option.map_eq_some_iff.1 hs
    exact h.next hstream

theorem reads_start : Reads query afterOffset ⟨.empty, .start afterOffset⟩ where
  numbered := ⟨List.nodup_nil, fun _ h => by cases h⟩
  started := Int.le_refl _
  cursor := .inl rfl
  yielded _ h := by cases h
  events _ h := by cases h
  increasing := List.Pairwise.nil
  committed _ h := by cases h

theorem reads_reachable (h : (observed query afterOffset).Reachable feed) :
    Reads query afterOffset feed := by
  induction h with
  | init h0 =>
    cases h0
    exact reads_start
  | step _ hst ih => exact ih.step hst

/-! ## Calm reads -/

theorem Reads.new_ahead (h : Reads query afterOffset feed)
    (hoffset : event.eventOffset = feed.tables.nextOffset) (hasked : afterOffset < event.eventOffset) :
    Ahead feed event := by
  have hbelow : ∀ old ∈ TraceFeed.seen feed, old.eventOffset < event.eventOffset := by
    intro old hold
    rw [hoffset]
    exact h.numbered.below old (List.mem_append_right _ (h.committed old hold).1)
  refine ⟨?_, fun old hold => hbelow old (List.mem_append_right _ hold)⟩
  rcases h.cursor with heq | ⟨old, hold, heq⟩
  · omega
  · have hlt := hbelow old (List.mem_append_left _ hold)
    omega

theorem Misses.statement {tables' : TraceTables} {s : TraceStatement}
    (h : Misses query afterOffset feed) (hr : Reads query afterOffset feed)
    (hs : feed.tables.statement s = some tables') :
    Misses query afterOffset { feed with tables := tables' } where
  rows := by
    intro row hmem hbelongs hasked
    rcases statement_rows hs with hsame | ⟨new, hnew, -, hgrown⟩
    · dsimp only at hmem
      rw [hsame] at hmem
      exact h.rows row hmem hbelongs hasked
    · dsimp only at hmem
      rw [hgrown] at hmem
      rcases List.mem_append.1 hmem with hmem | hmem
      · exact h.rows row hmem hbelongs hasked
      · rw [List.mem_singleton.1 hmem] at hbelongs hasked ⊢
        exact .inr (h.inFlight new hnew hbelongs hasked)
  inFlight := by
    intro event hmem hbelongs hasked
    rcases statement_inFlight hs hmem with hold | hoffset
    · exact h.inFlight event hold hbelongs hasked
    · exact hr.new_ahead hoffset hasked

theorem Misses.poll {stream' : TraceStream} (h : Misses query afterOffset feed)
    (hcalm : Calm query feed .poll) (hs : feed.stream.poll feed.tables query = some stream') :
    Misses query afterOffset { feed with stream := stream' } := by
  obtain ⟨hnil, rfl⟩ := poll_some hs
  constructor
  · intro row hmem hbelongs hasked
    refine .inl ?_
    rcases h.rows row hmem hbelongs hasked with hseen | hahead
    · simp only [TraceFeed.seen, hnil, List.append_nil] at hseen
      exact List.mem_append_left _ hseen
    · exact List.mem_append_right _ (mem_listEvents.2 ⟨hmem, hbelongs, hahead.1⟩)
  · intro event hmem hbelongs hasked
    have hahead := (h.inFlight event hmem hbelongs hasked).1
    refine ⟨hahead, fun old hold => ?_⟩
    obtain ⟨hrow, hbelongs', -⟩ := mem_listEvents.1 hold
    exact hcalm rfl event hmem hbelongs hahead old hrow hbelongs'

theorem Ahead.next {stream' : TraceStream} (h : Ahead feed event)
    (hs : feed.stream.next = some stream') : Ahead { feed with stream := stream' } event := by
  obtain ⟨head, events, hcons, rfl⟩ := next_some hs
  refine ⟨h.2 head ?_, fun old hold => h.2 old ?_⟩
  · rw [hcons]
    exact List.mem_cons_self
  · rw [hcons]
    exact List.mem_cons_of_mem _ hold

theorem Misses.next {stream' : TraceStream} (h : Misses query afterOffset feed)
    (hs : feed.stream.next = some stream') :
    Misses query afterOffset { feed with stream := stream' } := by
  have hseen : TraceFeed.seen { feed with stream := stream' } = TraceFeed.seen feed := by
    obtain ⟨head, events, hcons, rfl⟩ := next_some hs
    simp [TraceFeed.seen, hcons]
  constructor
  · intro row hmem hbelongs hasked
    rw [hseen]
    exact (h.rows row hmem hbelongs hasked).imp_right fun hahead => hahead.next hs
  · intro event hmem hbelongs hasked
    exact (h.inFlight event hmem hbelongs hasked).next hs

theorem misses_reachable (h : ((observed query afterOffset).guarded (Calm query)).Reachable feed) :
    Misses query afterOffset feed := by
  induction h with
  | init h0 =>
    cases h0
    constructor <;> intro row hmem <;> cases hmem
  | @step feed feed' l hreach hst ih =>
    obtain ⟨hcalm, hst⟩ := hst
    have hreads := reads_reachable hreach.of_guarded
    cases l with
    | statement s =>
      obtain ⟨tables, htables, rfl⟩ := Option.map_eq_some_iff.1 hst
      exact ih.statement hreads htables
    | poll =>
      obtain ⟨stream, hstream, rfl⟩ := Option.map_eq_some_iff.1 hst
      exact ih.poll hcalm hstream
    | next =>
      obtain ⟨stream, hstream, rfl⟩ := Option.map_eq_some_iff.1 hst
      exact ih.next hstream

/-! ## Catching up -/

def handOut (cursor : Int) (yielded : List ExecutionTraceEvent) :
    List ExecutionTraceEvent → TraceStream
  | [] => ⟨cursor, [], yielded⟩
  | event :: events => handOut event.eventOffset (yielded ++ [event]) events

/-- The stream alone: it hands out what it has read, reads, and hands that out. -/
def catchUp (query : ExecutionTraceQuery) (feed : TraceFeed) : TraceFeed :=
  let stream := handOut feed.stream.cursor feed.stream.yielded feed.stream.events
  { feed with
    stream := handOut stream.cursor stream.yielded (listEvents feed.tables query stream.cursor) }

theorem handOut_spec (cursor : Int) (yielded events : List ExecutionTraceEvent) :
    (handOut cursor yielded events).events = [] ∧
      (handOut cursor yielded events).yielded = yielded ++ events := by
  induction events generalizing cursor yielded with
  | nil => exact ⟨rfl, by simp [handOut]⟩
  | cons event events ih =>
    obtain ⟨hevents, hyielded⟩ := ih event.eventOffset (yielded ++ [event])
    exact ⟨hevents, by simp [handOut, hyielded]⟩

/-- What handing out one event keeps, handing out all keeps. -/
theorem handOut_keeps {P : TraceFeed → Prop}
    (hnext : ∀ feed stream', P feed → feed.stream.next = some stream' →
      P { feed with stream := stream' }) (tables : TraceTables) (cursor : Int)
    (yielded events : List ExecutionTraceEvent) (h : P ⟨tables, ⟨cursor, events, yielded⟩⟩) :
    P ⟨tables, handOut cursor yielded events⟩ := by
  induction events generalizing cursor yielded with
  | nil => exact h
  | cons event events ih => exact ih _ _ (hnext _ _ h rfl)

theorem catchUp_yielded (hr : Reads query afterOffset feed) (hm : Misses query afterOffset feed) :
    (catchUp query feed).stream.yielded = listEvents feed.tables query afterOffset := by
  have hhanded : Reads query afterOffset
        ⟨feed.tables, handOut feed.stream.cursor feed.stream.yielded feed.stream.events⟩ ∧
      Misses query afterOffset
        ⟨feed.tables, handOut feed.stream.cursor feed.stream.yielded feed.stream.events⟩ := by
    refine handOut_keeps (P := fun feed =>
      Reads query afterOffset feed ∧ Misses query afterOffset feed) ?_ _ _ _ _ ⟨hr, hm⟩
    exact fun feed stream' h hs => ⟨h.1.next hs, h.2.next hs⟩
  have hnil := (handOut_spec feed.stream.cursor feed.stream.yielded feed.stream.events).1
  unfold catchUp
  dsimp only
  rw [(handOut_spec _ _ (listEvents _ _ _)).2]
  generalize handOut feed.stream.cursor feed.stream.yielded feed.stream.events = stream
    at hhanded hnil
  obtain ⟨hreads, hmisses⟩ := hhanded
  have hincreasing := hreads.increasing
  have hcommitted := hreads.committed
  have hrows := hmisses.rows
  simp only [TraceFeed.seen, hnil, List.append_nil] at hincreasing hcommitted hrows
  refine Cursor.read_append_page (rows_apart hreads.numbered) hincreasing ?_ hreads.started
  intro event
  constructor
  · intro hmem
    obtain ⟨hrow, hbelongs, hasked⟩ := hcommitted event hmem
    exact ⟨List.mem_filter.2 ⟨hrow, hbelongs⟩, hasked, hreads.yielded event hmem⟩
  · intro ⟨hmem, hasked, hle⟩
    obtain ⟨hrow, hbelongs⟩ := List.mem_filter.1 hmem
    rcases hrows event hrow hbelongs hasked with hseen | hahead
    · exact hseen
    · have hlt := hahead.1
      dsimp only at hlt
      omega

/-- **Nothing is lost.** In every run with calm reads: what is yielded is the beginning of the
committed events of the turn in the order of their offsets, a stream that catches up has
yielded all of them, and what commits later is above every cursor passed. -/
theorem stream_loses_nothing
    (h : ((observed query afterOffset).guarded (Calm query)).Reachable feed) :
    Cursor.Increasing (·.eventOffset) feed.stream.yielded ∧
    feed.stream.yielded <+: listEvents feed.tables query afterOffset ∧
    (catchUp query feed).stream.yielded = listEvents feed.tables query afterOffset ∧
    ∀ s tables', feed.tables.statement s = some tables' → ∀ row ∈ tables'.rows,
      row ∉ feed.tables.rows → belongs query row = true → afterOffset < row.eventOffset →
      feed.stream.cursor < row.eventOffset := by
  have hreads := reads_reachable h.of_guarded
  have hmisses := misses_reachable h
  have hcaught := catchUp_yielded hreads hmisses
  refine ⟨(List.pairwise_append.1 hreads.increasing).1, ?_, hcaught, ?_⟩
  · rw [← hcaught]
    unfold catchUp
    dsimp only
    rw [(handOut_spec _ _ _).2, (handOut_spec _ _ _).2, List.append_assoc]
    exact List.prefix_append _ _
  · intro s tables' hs row hmem hnew hbelongs hasked
    rcases (hmisses.statement hreads hs).rows row hmem hbelongs hasked with hseen | hahead
    · exact absurd (hreads.committed row hseen).1 hnew
    · exact hahead.1

end Stream

/-! ## Runs -/

def sampleQuery : ExecutionTraceQuery := ⟨"acme", "ada", "chat", "turn"⟩

/-- The `n`-th event of the sample turn. -/
def sampleDraft (n : Nat) : ExecutionTraceEventDraft where
  traceId := "trace_turn"
  tenantId := "acme"
  userId := "ada"
  sessionId := "chat"
  turnId := "turn"
  runId := none
  eventType := .agentEvent
  stage := "provider_progress"
  status := "running"
  source := "oac:agent_event"
  sourceEventId := "event"
  sourceVersion := n
  reasonCode := none
  facts := []
  evidenceRefs := []
  visibility := .businessRuntime
  schemaVersion := 2
  occurredAt := 0

instance (feed : TraceFeed) (l : TraceStep) : Decidable (Calm sampleQuery feed l) :=
  inferInstanceAs (Decidable (l = .poll → ∀ event ∈ inFlight feed.tables, _ → _ →
    ∀ row ∈ feed.tables.rows, _ → _))

/-- Both appends have drawn their offsets when the stream reads the first one; the second one
commits after that. -/
theorem stream_loses_nothing_interleaved :
    ∃ feed, feed.stream.yielded.map (·.eventOffset) = [1, 2] ∧
      (catchUp sampleQuery feed).stream.yielded = listEvents feed.tables sampleQuery 0 := by
  have hrun : (LTS.execGuarded (TraceFeed.step sampleQuery)
      (fun feed l => decide (Calm sampleQuery feed l)) ⟨.empty, .start 0⟩
      [.statement (.insert (sampleDraft 1)), .statement (.insert (sampleDraft 2)),
        .statement (.enter 2), .statement (.enter 1), .statement (.commit 1), .poll, .next,
        .statement (.commit 2), .poll, .next]).map (·.stream.yielded.map (·.eventOffset)) =
      some [1, 2] := by
    decide
  obtain ⟨feed, hfeed, hoffsets⟩ := Option.map_eq_some_iff.1 hrun
  have hreach : ((observed sampleQuery 0).guarded (Calm sampleQuery)).Reachable feed :=
    .execGuarded (fun _ _ => of_decide_eq_true) (.init rfl) hfeed
  exact ⟨feed, hoffsets, (stream_loses_nothing hreach).2.2.1⟩

/-- The second of two appends commits first and is read; the first one is not yielded. -/
theorem late_commit_lost :
    ¬∀ (query : ExecutionTraceQuery) (afterOffset : Int) (feed : TraceFeed),
      (observed query afterOffset).Reachable feed →
      Cursor.Increasing (·.eventOffset) feed.stream.yielded ∧
      feed.stream.yielded <+: listEvents feed.tables query afterOffset ∧
      (catchUp query feed).stream.yielded = listEvents feed.tables query afterOffset ∧
      ∀ s tables', feed.tables.statement s = some tables' → ∀ row ∈ tables'.rows,
        row ∉ feed.tables.rows → belongs query row = true → afterOffset < row.eventOffset →
        feed.stream.cursor < row.eventOffset := by
  intro hclaim
  have hrun : (LTS.exec (TraceFeed.step sampleQuery) ⟨.empty, .start 0⟩
      [.statement (.insert (sampleDraft 1)), .statement (.insert (sampleDraft 2)),
        .statement (.enter 2), .statement (.commit 2), .poll, .next, .statement (.enter 1),
        .statement (.commit 1)]).map (fun feed => decide
          ((catchUp sampleQuery feed).stream.yielded = listEvents feed.tables sampleQuery 0)) =
      some false := by
    decide
  obtain ⟨feed, hfeed, hlost⟩ := Option.map_eq_some_iff.1 hrun
  have hcaught := (hclaim sampleQuery 0 feed (LTS.Reachable.exec (.init rfl) hfeed)).2.2.1
  exact of_decide_eq_false hlost hcaught

end OpenIntentRouter.Traces
