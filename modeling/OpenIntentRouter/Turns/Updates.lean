import OpenIntentRouter.DelegatedRuns.Atomicity
import OpenIntentRouter.Services.TurnService

/-!
# The updates of a turn

Every accepted call is a creation, a replay, or the next version of one turn,
with its identity. The next versions are built by copying the references, but
for `complete_route_only`, which builds new ones: it drops what a turn with a run
or a plan has recorded.

Every state reached from turns whose outbox is keyed, with or without a
`route_completion_store`; no hypothesis on the calls.

* `exec_ok`: which turn an accepted call moves, and how;
* `turn_updates_monotone`: references are kept exactly when no route completion
  finds recorded ones, and then over whole runs.
-/
namespace OpenIntentRouter.Services.Turns

open Core Core.Except Schemas Repositories OpenIntentRouter.DelegatedRuns
open DelegatedRuns.Memory (NextTurn OutboxKeyed)

/-! ## Turns and their next versions -/

/-- The run ids, the result ids and the plan id that `old` records are in `new`. -/
structure RefsKept (old new : TurnResultReferences) : Prop where
  runIds : ∀ runId ∈ old.runIds, runId ∈ new.runIds
  resultIds : ∀ resultId ∈ old.resultIds, resultId ∈ new.resultIds
  planId : truthy old.planId = true → new.planId = old.planId

def recorded (references : TurnResultReferences) : Bool :=
  references.runIds ≠ [] || references.resultIds ≠ [] || truthy references.planId

/-- The same turn, at this version or a later one, with all its references. -/
structure Grown (old new : CanonicalTurn) : Prop where
  identity : new.turnId = old.turnId ∧ new.tenantId = old.tenantId ∧ new.userId = old.userId ∧
    new.sessionId = old.sessionId ∧ new.requestId = old.requestId ∧ new.source = old.source
  version : old.stateVersion ≤ new.stateVersion
  references : RefsKept old.references new.references

theorem RefsKept.refl (references : TurnResultReferences) : RefsKept references references :=
  ⟨fun _ h => h, fun _ h => h, fun _ => rfl⟩

theorem RefsKept.trans {a b c : TurnResultReferences} (h1 : RefsKept a b) (h2 : RefsKept b c) :
    RefsKept a c := by
  refine ⟨fun id h => h2.runIds id (h1.runIds id h), fun id h => h2.resultIds id (h1.resultIds id h),
    fun h => ?_⟩
  have hb := h1.planId h
  rw [h2.planId (by rwa [hb]), hb]

theorem Grown.refl (turn : CanonicalTurn) : Grown turn turn :=
  ⟨⟨rfl, rfl, rfl, rfl, rfl, rfl⟩, Nat.le_refl _, .refl _⟩

theorem Grown.trans {a b c : CanonicalTurn} (h1 : Grown a b) (h2 : Grown b c) : Grown a c := by
  obtain ⟨⟨t1, n1, u1, s1, r1, o1⟩, v1, k1⟩ := h1
  obtain ⟨⟨t2, n2, u2, s2, r2, o2⟩, v2, k2⟩ := h2
  exact ⟨⟨t2.trans t1, n2.trans n1, u2.trans u1, s2.trans s1, r2.trans r1, o2.trans o1⟩,
    Nat.le_trans v1 v2, k1.trans k2⟩

theorem Grown.next {old new : CanonicalTurn} (hn : NextTurn old new)
    (hr : RefsKept old.references new.references) : Grown old new := by
  obtain ⟨h0, h1, h2, h3, h4, h5, h6⟩ := hn
  exact ⟨⟨h0, h1, h2, h3, h4, h5⟩, by omega, hr⟩

/-- References that name only the route decision keep nothing that was recorded. -/
theorem refsKept_routed {references : TurnResultReferences} {routeDecisionId : Option String} :
    RefsKept references
        { routeDecisionId, runIds := [], resultIds := [], planId := none, eventIds := [] } ↔
      recorded references = false := by
  constructor
  · rintro ⟨hr, hs, hp⟩
    have hruns : references.runIds = [] := List.eq_nil_iff_forall_not_mem.2 fun id h => by
      cases hr id h
    have hresults : references.resultIds = [] := List.eq_nil_iff_forall_not_mem.2 fun id h => by
      cases hs id h
    have hplan : truthy references.planId = false := by
      cases ht : truthy references.planId with
      | false => rfl
      | true =>
        rw [← hp ht] at ht
        cases ht
    simp [recorded, hruns, hresults, hplan]
  · intro h
    simp only [recorded, Bool.or_eq_false_iff, decide_eq_false_iff_not, ne_eq, not_not] at h
    refine ⟨fun id hid => ?_, fun id hid => ?_, fun ht => ?_⟩
    · rw [h.1.1] at hid
      cases hid
    · rw [h.1.2] at hid
      cases hid
    · rw [h.2] at ht
      cases ht

theorem mem_addNew_of_mem {values : List String} {value id : String} (h : id ∈ values) :
    id ∈ addNew values value := by
  unfold addNew
  split
  · exact h
  · exact List.mem_append_left _ h

/-! ## Which turn a call moves -/

def requested (s : TurnStores) (tenantId userId requestId : String) : Option CanonicalTurn :=
  (s.ownerRequests.get? (tenantId, userId, requestId)).bind s.turns.get?

def concluding (s : TurnStores) (command : DelegatedRunEventCommand) : Option CanonicalTurn :=
  if (getEvent s.agentEvents command.eventId command.tenantId command.userId).isSome then none
  else s.turns.get? command.turnId

/-- The turn that a call moves to its next version if it is accepted; none for a
creation, a replay and a progress event. -/
def moved (s : TurnStores) : Call → Option CanonicalTurn
  | .startTurn _ => none
  | .attachActivity activity => requested s activity.tenantId activity.userId activity.requestId
  | .completeWithResult request =>
    (requested s request.tenantId request.userId request.requestId).filter
      fun turn => !turn.status.isTerminal
  | .completeRouteOnly request =>
    (requested s request.tenantId request.userId request.requestId).filter
      fun turn => !turn.status.isTerminal
  | .delegated (.start command _ delegationKey) =>
    if truthy (s.delegationKeys.get? delegationKey) then none else s.turns.get? command.turnId
  | .delegated (.progress _) => none
  | .delegated (.complete command) => concluding s command
  | .delegated (.fail command) => concluding s command
  | .delegated (.cancel command) => concluding s command
  | .delegated (.timeout command) => concluding s command

def dropsReferences (s : TurnStores) (call : Call) : Bool :=
  match call with
  | .completeRouteOnly _ => (moved s call).any (recorded ·.references)
  | .startTurn _ | .attachActivity _ | .completeWithResult _ | .delegated _ => false

/-- The moved turn is at its next version, under its identity and with all its
references; every other turn is as it was. -/
def Monotone (s s' : TurnStores) (moved : Option CanonicalTurn) : Prop :=
  ∀ turnId old, s.turns.get? turnId = some old → ∃ new, s'.turns.get? turnId = some new ∧
    if moved = some old then NextTurn old new ∧ RefsKept old.references new.references
    else new = old

/-- What an accepted call does to the turns; `drops`: the moved turn loses
references. -/
inductive Moves (s s' : TurnStores) : Option CanonicalTurn → Bool → Prop where
  | none : s'.turns = s.turns → Moves s s' none false
  | created {turn : CanonicalTurn} :
      s.turns.get? turn.turnId = none → s'.turns = s.turns.put turn → Moves s s' none false
  | next {old new : CanonicalTurn} {drops : Bool} :
      s.turns.get? old.turnId = some old → NextTurn old new → s'.turns = s.turns.put new →
      (RefsKept old.references new.references ↔ drops = false) → Moves s s' (some old) drops

variable {s s' : TurnStores} {turn old new : CanonicalTurn} {tenantId userId requestId : String}
  {outbox : Option TurnOutboxEvent} {now : Instant} {request : RouteCompletion}
  {response : TurnSemanticResponse} {found : Option CanonicalTurn} {gen : Generated} {routed : Bool}
  {command : DelegatedRunEventCommand}

theorem turnId_of {turnId : String} (h : s.turns.get? turnId = some turn) :
    turn.turnId = turnId := Table.key_of_get? h

theorem Moves.monotone_iff {turn : Option CanonicalTurn} {drops : Bool} (h : Moves s s' turn drops) :
    Monotone s s' turn ↔ drops = false := by
  cases h with
  | none hs =>
    refine iff_of_true (fun turnId old hg => ⟨old, ?_, ?_⟩) rfl
    · rw [hs]
      exact hg
    · rw [if_neg (by simp)]
  | created hnone hs =>
    refine iff_of_true (fun turnId old hg => ⟨old, ?_, ?_⟩) rfl
    · rw [hs, Table.get?_put_ne _ fun heq => ?_]
      · exact hg
      · rw [heq, hg] at hnone
        cases hnone
    · rw [if_neg (by simp)]
  | @next old new _ hget hn hs hdrops =>
    have hnew : s'.turns.get? old.turnId = some new := by
      rw [hs, ← hn.1]
      exact Table.get?_put_self ..
    rw [← hdrops]
    constructor
    · intro hm
      obtain ⟨new', hg, hif⟩ := hm _ _ hget
      cases hg.symm.trans hnew
      rw [if_pos rfl] at hif
      exact hif.2
    · intro hkept turnId turn hg
      by_cases heq : turnId = old.turnId
      · subst heq
        cases hg.symm.trans hget
        refine ⟨new, hnew, ?_⟩
        rw [if_pos rfl]
        exact ⟨hn, hkept⟩
      · refine ⟨turn, ?_, ?_⟩
        · rw [hs, Table.get?_put_ne _ fun h => heq (h.symm.trans hn.1)]
          exact hg
        · rw [if_neg]
          intro h
          cases h
          exact heq (turnId_of hg).symm

/-! ## What the service reads and stores -/

theorem getByRequest_ok (h : getByRequest s tenantId userId requestId = .ok (some turn)) :
    requested s tenantId userId requestId = some turn := by
  unfold getByRequest at h
  split at h
  · cases h
  · next turnId hk =>
    obtain ⟨found, hf, h⟩ := bind_eq_ok.1 h
    cases h
    unfold turnAt at hf
    split at hf
    · cases hf
    · next hg =>
      cases hf
      simp only [requested, hk, Option.bind_some]
      exact hg

theorem ownedTurn_ok (h : ownedTurn s tenantId userId requestId = .ok turn) :
    requested s tenantId userId requestId = some turn := by
  obtain ⟨found, hf, h⟩ := bind_eq_ok.1 h
  cases found with
  | none => cases h
  | some turn' =>
    cases h
    exact getByRequest_ok hf

theorem get_of_requested (h : requested s tenantId userId requestId = some turn) :
    s.turns.get? turn.turnId = some turn := by
  obtain ⟨turnId, -, hg⟩ := Option.bind_eq_some_iff.1 h
  rw [turnId_of hg]
  exact hg

/-- A call that stores the next version of a stored turn, and does not raise, has
stored it. -/
theorem store_next {otherwise : TurnStores → Except StoreError CanonicalTurn}
    (hg : s.turns.get? old.turnId = some old) (hn : NextTurn old new)
    (h : storedOr otherwise (store s new old.stateVersion outbox) = (.ok turn, s')) :
    s'.turns = s.turns.put new := by
  unfold store at h
  split at h
  · cases h
  · next hnone =>
    unfold updateIfVersion at hnone
    rw [hn.1, hg] at hnone
    simp only [ne_eq, not_true_eq_false, if_false] at hnone
    obtain ⟨-, -, hnone⟩ := bind_eq_ok.1 hnone
    cases hnone
  · next turns hsome =>
    obtain ⟨-, -, -, -, -, rfl⟩ := updateIfVersion_ok hsome
    split at h
    · cases h
      rfl
    · split at h
      · cases h
      · cases h
        rfl

/-- With keyed outbox entries a turn is stored or nothing changes, and the entries
stay keyed. -/
theorem store_keyed (turn : CanonicalTurn) (version : Nat) (ho : OutboxKeyed s.outbox)
    (hid : ∀ event, outbox = some event → event.outboxId ≠ "") :
    OutboxKeyed (store s turn version outbox).2.outbox ∧
      ((∃ stored, (store s turn version outbox).1 = .ok (some stored)) ∨
        (store s turn version outbox).2 = s) := by
  unfold store
  split
  · exact ⟨ho, .inr rfl⟩
  · exact ⟨ho, .inr rfl⟩
  · cases outbox with
    | none => exact ⟨ho, .inl ⟨_, rfl⟩⟩
    | some event =>
      obtain ⟨out, hadd, hout⟩ := Memory.addIdempotent_keyed ho (hid event rfl)
      simp only [hadd]
      exact ⟨hout, .inl ⟨_, rfl⟩⟩

theorem prepareActivity_ok {activity : Activity}
    (h : prepareActivity s activity now = .ok (old, new)) :
    requested s activity.tenantId activity.userId activity.requestId = some old ∧
      NextTurn old new ∧ RefsKept old.references new.references := by
  obtain ⟨-, -, h⟩ := bind_eq_ok.1 h
  obtain ⟨existing, hex, h⟩ := bind_eq_ok.1 h
  obtain ⟨-, -, h⟩ := bind_eq_ok.1 h
  obtain ⟨references, href, h⟩ := bind_eq_ok.1 h
  cases h
  refine ⟨ownedTurn_ok hex, ⟨rfl, rfl, rfl, rfl, rfl, rfl, rfl⟩, ?_⟩
  have hruns : ∀ runId ∈ old.references.runIds,
      runId ∈ attachedRuns activity old.references.runIds := by
    intro runId hr
    unfold attachedRuns
    split
    · exact mem_addNew_of_mem hr
    · exact hr
  unfold attachedReferences at href
  dsimp only at href
  split at href
  · obtain ⟨_, hplan, href⟩ := bind_eq_ok.1 href
    cases href
    rw [ensure_eq_ok] at hplan
    refine ⟨hruns, fun _ h => h, fun ht => ?_⟩
    simp only [ht, Bool.not_true, Bool.false_or, decide_eq_true_eq] at hplan
    exact hplan.symm
  · cases href
    exact ⟨hruns, fun _ h => h, fun _ => rfl⟩

/-- A completion replays a terminal turn or stores the next version of an active one. -/
theorem prepareRouteOnly_ok {prepared : Prepared}
    (h : prepareRouteOnly s request now = .ok (response, prepared)) :
    ∃ old, requested s request.tenantId request.userId request.requestId = some old ∧
      ((old.status.isTerminal = true ∧ prepared = .inl old) ∨
        (old.status.isTerminal = false ∧
          prepared = .inr (old, routeCompleted request response now old))) := by
  obtain ⟨-, -, h⟩ := bind_eq_ok.1 h
  obtain ⟨found, hf, h⟩ := bind_eq_ok.1 h
  cases found with
  | none => cases h
  | some old =>
    obtain ⟨response', -, h⟩ := bind_eq_ok.1 h
    refine ⟨old, getByRequest_ok hf, ?_⟩
    split at h
    · next ht =>
      split at h
      · cases h
        exact .inl ⟨ht, rfl⟩
      · cases h
    · next ht =>
      cases h
      exact .inr ⟨by simpa using ht, rfl⟩

theorem prepareResult_ok {request : ResultCompletion} {prepared : Prepared}
    (h : prepareResult s request now = .ok (response, prepared)) :
    ∃ old, requested s request.tenantId request.userId request.requestId = some old ∧
      ((old.status.isTerminal = true ∧ prepared = .inl old) ∨
        (old.status.isTerminal = false ∧
          prepared = .inr (old, resultCompleted request response now old))) := by
  obtain ⟨old, hold, h⟩ := bind_eq_ok.1 h
  obtain ⟨response', -, h⟩ := bind_eq_ok.1 h
  refine ⟨old, ownedTurn_ok hold, ?_⟩
  split at h
  · next ht =>
    split at h
    · cases h
      exact .inl ⟨ht, rfl⟩
    · cases h
  · next ht =>
    obtain ⟨-, -, h⟩ := bind_eq_ok.1 h
    obtain ⟨-, -, h⟩ := bind_eq_ok.1 h
    cases h
    exact .inr ⟨by simpa using ht, rfl⟩

/-! ## Accepted calls -/

theorem map_unit_ok {α : Type} {reply : Except StoreError α}
    (h : reply.map (fun _ => ()) = .ok ()) : ∃ a, reply = .ok a := by
  cases reply with
  | error e => cases h
  | ok a => exact ⟨a, rfl⟩

theorem moved_terminal (h : found = some turn) (ht : turn.status.isTerminal = true) :
    found.filter (fun turn => !turn.status.isTerminal) = none := by
  rw [h, Option.filter_some, if_neg (by simp [ht])]

theorem moved_active (h : found = some turn) (ht : turn.status.isTerminal = false) :
    found.filter (fun turn => !turn.status.isTerminal) = some turn := by
  rw [h, Option.filter_some, if_pos (by simp [ht])]

theorem startTurn_ok {request : TurnStart} (h : startTurn s request gen = .ok (turn, s')) :
    Moves s s' none false ∧ s'.outbox = s.outbox := by
  obtain ⟨found, hf, h⟩ := bind_eq_ok.1 h
  cases found with
  | some owner =>
    obtain ⟨-, -, h⟩ := bind_eq_ok.1 h
    cases h
    exact ⟨.none rfl, rfl⟩
  | none =>
    obtain ⟨new, hnew, h⟩ := bind_eq_ok.1 h
    split at h
    · cases h
    · next stored created s1 hcreate =>
      obtain ⟨-, -, h⟩ := bind_eq_ok.1 h
      cases h
      unfold createIdempotent at hcreate
      dsimp only at hcreate
      split at hcreate
      · obtain ⟨existing, -, hcreate⟩ := bind_eq_ok.1 hcreate
        cases hcreate
        exact ⟨.none rfl, rfl⟩
      · split at hcreate
        · cases hcreate
        · split at hcreate
          · cases hcreate
          · next hunused =>
            cases hcreate
            exact ⟨.created ((Table.contains_eq_false _ _).1 (by simpa using hunused)) rfl, rfl⟩

theorem attachActivity_ok {activity : Activity} (h : attachActivity s activity gen = (.ok turn, s')) :
    Moves s s' (requested s activity.tenantId activity.userId activity.requestId) false := by
  unfold attachActivity at h
  split at h
  · cases h
  · next old new hprep =>
    obtain ⟨hreq, hn, hkept⟩ := prepareActivity_ok hprep
    have hs := store_next (get_of_requested hreq) hn h
    rw [hreq]
    exact .next (get_of_requested hreq) hn hs (iff_of_true hkept rfl)

theorem completeRouteOnly_ok (h : completeRouteOnly routed s request gen = (.ok turn, s')) :
    Moves s s' (moved s (.completeRouteOnly request))
      (dropsReferences s (.completeRouteOnly request)) := by
  unfold completeRouteOnly at h
  simp only [dropsReferences, moved]
  split at h
  · cases h
  · next existing hprep =>
    obtain ⟨old, hreq, ⟨ht, -⟩ | ⟨-, hp⟩⟩ := prepareRouteOnly_ok hprep
    · cases h
      rw [moved_terminal hreq ht]
      exact .none rfl
    · cases hp
  · next response existing completed hprep =>
    obtain ⟨old, hreq, ⟨-, hp⟩ | ⟨ht, hp⟩⟩ := prepareRouteOnly_ok hprep
    · cases hp
    · cases hp
      rw [moved_active hreq ht]
      have hget := get_of_requested hreq
      have hn : NextTurn existing (routeCompleted request response gen.now existing) :=
        ⟨rfl, rfl, rfl, rfl, rfl, rfl, rfl⟩
      exact .next hget hn (store_next hget hn h) refsKept_routed

theorem completeWithResult_ok {request : ResultCompletion}
    (h : completeWithResult s request gen = (.ok turn, s')) :
    Moves s s' (moved s (.completeWithResult request)) false := by
  unfold completeWithResult at h
  simp only [moved]
  split at h
  · cases h
  · next existing hprep =>
    obtain ⟨old, hreq, ⟨ht, -⟩ | ⟨-, hp⟩⟩ := prepareResult_ok hprep
    · cases h
      rw [moved_terminal hreq ht]
      exact .none rfl
    · cases hp
  · next response existing completed hprep =>
    obtain ⟨old, hreq, ⟨-, hp⟩ | ⟨ht, hp⟩⟩ := prepareResult_ok hprep
    · cases hp
    · cases hp
      rw [moved_active hreq ht]
      have hget := get_of_requested hreq
      have hn : NextTurn existing (resultCompleted request response gen.now existing) :=
        ⟨rfl, rfl, rfl, rfl, rfl, rfl, rfl⟩
      have hkept : RefsKept existing.references
          (resultCompleted request response gen.now existing).references :=
        ⟨fun _ h => h, fun _ h => mem_addNew_of_mem h, fun _ => rfl⟩
      exact .next hget hn (store_next hget hn h) (iff_of_true hkept rfl)

/-! ## Delegated runs -/

theorem concluding_of
    (hev : getEvent s.agentEvents command.eventId command.tenantId command.userId = none)
    (hg : s.turns.get? command.turnId = some turn) : concluding s command = some turn := by
  rw [concluding, hev]
  exact hg

theorem concluding_redelivered {event : AgentEvent}
    (h : Memory.Redelivered command s.toMemoryStores event) : concluding s command = none := by
  rw [concluding, h]
  rfl

/-- A terminal command stores the next version of its turn. -/
theorem moves_concluding {run : AgentRun} (hf : Memory.Fresh command s.toMemoryStores run)
    (ht : Memory.TurnOwned command s.toMemoryStores old) (hn : NextTurn old new)
    (hkept : RefsKept old.references new.references) (hs : s'.turns = s.turns.put new) :
    Moves s s' (concluding s command) false := by
  rw [concluding_of hf.event ht.get]
  refine .next ?_ hn hs (iff_of_true hkept rfl)
  rw [ht.turnId]
  exact ht.get

theorem attachRun_kept {updated : CanonicalTurn} {run : AgentRun}
    (h : attachRun turn run now = .ok updated) : RefsKept turn.references updated.references := by
  unfold attachRun at h
  dsimp only at h
  split at h
  · split at h
    · cases h
    · next hp =>
      cases h
      refine ⟨fun _ h => List.mem_append_left _ h, fun _ h => h, fun ht => ?_⟩
      simp only [ht, Bool.true_and, decide_eq_true_eq, ne_eq, not_not] at hp
      exact hp.symm
  · cases h
    exact ⟨fun _ h => List.mem_append_left _ h, fun _ h => h, fun _ => rfl⟩

theorem delegated_ok {command : Command} {r : Reply} {stores : MemoryStores}
    (h : Memory.exec s.toMemoryStores gen command = (.ok r, stores)) :
    Moves s { s with toMemoryStores := stores } (moved s (.delegated command)) false := by
  cases command with
  | start command runHex key =>
    rcases Memory.start_ok h with ⟨hkey, -, rfl⟩ | ⟨-, hs⟩
    · simp only [moved, hkey, if_true]
      exact .none rfl
    · obtain ⟨turn, run, stored, updated, hg, -, -, -, -, -, hup, rfl⟩ := hs.started
      simp only [moved, hs.unused, Bool.false_eq_true, if_false]
      rw [hg]
      refine .next ?_ (Memory.attachRun_next hup) rfl (iff_of_true (attachRun_kept hup) rfl)
      rw [turnId_of hg]
      exact hg
  | progress command =>
    rcases Memory.progress_ok h with ⟨-, rfl⟩ | ⟨p, -, -, ha⟩
    · exact .none rfl
    · exact .none ha.turns
  | complete command =>
    rcases Memory.complete_ok h with ⟨hd, rfl⟩ | ⟨p, hp, -, ha⟩
    · obtain ⟨-, event, hev⟩ := Memory.decideComplete_inl hd
      simp only [moved, concluding_redelivered hev]
      exact .none rfl
    · obtain ⟨hf, ht, plan, -, hb⟩ := Memory.decideComplete_inr hp
      refine moves_concluding hf ht ?_ ?_ ha.turns
      · rw [hb.turn_eq]
        exact ⟨rfl, rfl, rfl, rfl, rfl, rfl, rfl⟩
      · rw [hb.turn_eq]
        exact ⟨fun _ h => h, fun _ h => mem_addNew_of_mem h, fun _ => rfl⟩
  | fail command =>
    rcases Memory.fail_ok h with ⟨hd, rfl⟩ | ⟨p, hp, -, ha⟩
    · obtain ⟨-, event, hev⟩ := Memory.decideFail_inl hd
      simp only [moved, concluding_redelivered hev]
      exact .none rfl
    · obtain ⟨hprep, -, -, hturn, -⟩ := Memory.decideFail_inr hp
      refine moves_concluding hprep.fresh hprep.turn ?_ ?_ ha.turns
      · rw [hturn]
        exact ⟨rfl, rfl, rfl, rfl, rfl, rfl, rfl⟩
      · rw [hturn]
        exact .refl _
  | cancel command =>
    rcases Memory.cancel_ok h with ⟨hd, rfl⟩ | ⟨p, hp, -, ha⟩
    · obtain ⟨-, event, hev⟩ := Memory.decideCancel_inl hd
      simp only [moved, concluding_redelivered hev]
      exact .none rfl
    · obtain ⟨hprep, -, -, hturn, -⟩ := Memory.decideCancel_inr hp
      refine moves_concluding hprep.fresh hprep.turn ?_ ?_ ha.turns
      · rw [hturn]
        exact ⟨rfl, rfl, rfl, rfl, rfl, rfl, rfl⟩
      · rw [hturn]
        exact .refl _
  | timeout command =>
    rcases Memory.timeout_ok h with ⟨hd, rfl⟩ | ⟨p, hp, -, ha⟩
    · obtain ⟨-, event, hev⟩ := Memory.decideTimeout_inl hd
      simp only [moved, concluding_redelivered hev]
      exact .none rfl
    · obtain ⟨hprep, -, -, hturn, -⟩ := Memory.decideTimeout_inr hp
      refine moves_concluding hprep.fresh hprep.turn ?_ ?_ ha.turns
      · rw [hturn]
        exact ⟨rfl, rfl, rfl, rfl, rfl, rfl, rfl⟩
      · rw [hturn]
        exact .refl _

/-- Every accepted call moves its turn, and drops references as `dropsReferences` says. -/
theorem exec_ok {call : Call} (h : (exec routed s gen call).1 = .ok ()) :
    Moves s (exec routed s gen call).2 (moved s call) (dropsReferences s call) := by
  cases call with
  | startTurn request =>
    simp only [exec] at h ⊢
    split at h
    · cases h
    · next turn s' hs => exact (startTurn_ok hs).1
  | attachActivity activity =>
    obtain ⟨turn, ht⟩ := map_unit_ok h
    exact attachActivity_ok (Prod.ext ht rfl)
  | completeWithResult request =>
    obtain ⟨turn, ht⟩ := map_unit_ok h
    exact completeWithResult_ok (Prod.ext ht rfl)
  | completeRouteOnly request =>
    obtain ⟨turn, ht⟩ := map_unit_ok h
    exact completeRouteOnly_ok (Prod.ext ht rfl)
  | delegated command =>
    obtain ⟨r, hr⟩ := map_unit_ok h
    exact delegated_ok (Prod.ext hr rfl)

/-! ## Calls that raise -/

/-- The outbox is keyed after a call, and a call that raises has left the turns alone. -/
def Settles {α : Type} (s : TurnStores) (call : Except StoreError α × TurnStores) : Prop :=
  OutboxKeyed call.2.outbox ∧ ∀ e, call.1 = .error e → call.2.turns = s.turns

theorem settles_same {α : Type} (ho : OutboxKeyed s.outbox) (reply : Except StoreError α) :
    Settles s (reply, s) := ⟨ho, fun _ _ => rfl⟩

theorem Settles.map {α β : Type} {f : α → β} {call : Except StoreError α × TurnStores}
    (h : Settles s call) : Settles s (call.1.map f, call.2) := by
  refine ⟨h.1, fun e he => ?_⟩
  cases hr : call.1 with
  | ok a =>
    rw [hr] at he
    cases he
  | error e' => exact h.2 e' hr

theorem settles_store (ho : OutboxKeyed s.outbox) (turn : CanonicalTurn) (version : Nat)
    (hid : ∀ event, outbox = some event → event.outboxId ≠ "")
    (otherwise : TurnStores → Except StoreError CanonicalTurn) :
    Settles s (storedOr otherwise (store s turn version outbox)) := by
  obtain ⟨hk, hs⟩ := store_keyed turn version ho hid
  rcases hcall : store s turn version outbox with ⟨e | _ | stored, s'⟩
  · rw [hcall] at hk hs
    rcases hs with ⟨_, hs⟩ | hs
    · cases hs
    · exact ⟨hk, fun _ _ => congrArg (·.turns) hs⟩
  · rw [hcall] at hk hs
    rcases hs with ⟨_, hs⟩ | hs
    · cases hs
    · exact ⟨hk, fun _ _ => congrArg (·.turns) hs⟩
  · rw [hcall] at hk
    exact ⟨hk, fun _ h => by cases h⟩

theorem settles_exec (ho : OutboxKeyed s.outbox) (gen : Generated) (call : Call) :
    Settles s (exec routed s gen call) := by
  cases call with
  | startTurn request =>
    simp only [exec]
    split
    · exact settles_same ho _
    · next turn s' hs =>
      refine ⟨?_, fun _ h => by cases h⟩
      rw [(startTurn_ok hs).2]
      exact ho
  | attachActivity activity =>
    refine Settles.map ?_
    split
    · exact settles_same ho _
    · exact settles_store ho _ _ (fun _ h => by cases h) _
  | completeWithResult request =>
    refine Settles.map ?_
    split
    · exact settles_same ho _
    · exact settles_same ho _
    · exact settles_store ho _ _ (fun _ h => by cases h) _
  | completeRouteOnly request =>
    refine Settles.map ?_
    split
    · exact settles_same ho _
    · exact settles_same ho _
    · refine settles_store ho _ _ (fun event h => ?_) _
      split at h
      · cases h
        exact Memory.turnOutbox_outboxId_ne _ _ _ _ _
      · cases h
  | delegated command =>
    simp only [exec]
    rcases hx : Memory.exec s.toMemoryStores gen command with ⟨e | r, stores⟩
    · rw [Memory.exec_raise_frame ho hx]
      exact ⟨ho, fun _ _ => rfl⟩
    · refine ⟨?_, fun _ h => by cases h⟩
      rcases Memory.exec_ok hx with ⟨-, rfl⟩ | ⟨_, _, _, -, hs⟩ | ⟨_, _, _, _, -, hw⟩
      · exact ho
      · obtain ⟨_, _, _, _, -, -, -, -, -, -, -, rfl⟩ := hs.started
        exact ho
      · exact hw.outboxKeyed ho

/-! ## Runs -/

/-- Calls one after the other, raising or not, from any turns whose outbox is keyed. -/
def turnCalls (routed : Bool) : LTS TurnStores (Generated × Call) where
  init s := OutboxKeyed s.outbox
  step s call s' := s' = (exec routed s call.1 call.2).2

theorem keyed_reachable (h : (turnCalls routed).Reachable s) : OutboxKeyed s.outbox := by
  refine LTS.Inductive.reachable (T := turnCalls routed) ⟨fun _ h0 => h0, ?_⟩ h
  rintro s ⟨gen, call⟩ s' ho rfl
  exact (settles_exec ho gen call).1

def AllGrown (s s' : TurnStores) : Prop :=
  ∀ turnId old, s.turns.get? turnId = some old →
    ∃ new, s'.turns.get? turnId = some new ∧ Grown old new

theorem allGrown_refl (s : TurnStores) : AllGrown s s := fun _ old h => ⟨old, h, .refl old⟩

theorem AllGrown.trans {a b c : TurnStores} (h1 : AllGrown a b) (h2 : AllGrown b c) :
    AllGrown a c := by
  intro turnId old h
  obtain ⟨new, hn, hg⟩ := h1 turnId old h
  obtain ⟨newer, hr, hg'⟩ := h2 turnId new hn
  exact ⟨newer, hr, hg.trans hg'⟩

theorem Monotone.allGrown {turn : Option CanonicalTurn} (h : Monotone s s' turn) :
    AllGrown s s' := by
  intro turnId old hg
  obtain ⟨new, hn, hif⟩ := h turnId old hg
  refine ⟨new, hn, ?_⟩
  split at hif
  · exact .next hif.1 hif.2
  · rw [hif]
    exact .refl old

def KeepsReferences (s : TurnStores) (call : Generated × Call) : Prop :=
  dropsReferences s call.2 = false

theorem step_allGrown (ho : OutboxKeyed s.outbox) {call : Generated × Call}
    (hc : KeepsReferences s call) : AllGrown s (exec routed s call.1 call.2).2 := by
  cases hr : (exec routed s call.1 call.2).1 with
  | ok u => exact ((exec_ok hr).monotone_iff.2 hc).allGrown
  | error e =>
    intro turnId old hg
    refine ⟨old, ?_, .refl old⟩
    rw [(settles_exec ho call.1 call.2).2 e hr]
    exact hg

/-- In every run an accepted call is monotone exactly when it is not a route
completion of a turn with recorded references; without such calls no recorded
reference is ever lost. -/
theorem turn_updates_monotone {routed : Bool} {s : TurnStores} (h : (turnCalls routed).Reachable s) :
    (∀ gen call, (exec routed s gen call).1 = .ok () →
      (Monotone s (exec routed s gen call).2 (moved s call) ↔ KeepsReferences s (gen, call))) ∧
    ∀ s', ((turnCalls routed).guarded KeepsReferences).Steps s s' → AllGrown s s' := by
  refine ⟨fun gen call hok => (exec_ok hok).monotone_iff, fun s' hsteps => ?_⟩
  have hs : ((turnCalls routed).guarded KeepsReferences).Reachable s := .init (keyed_reachable h)
  refine LTS.Steps.keeps allGrown_refl (fun _ _ _ => AllGrown.trans) ?_ hs hsteps
  rintro t call t' ht ⟨hc, rfl⟩
  exact step_allGrown (keyed_reachable ht.of_guarded) hc

/-! ## A session -/

def newSession : TurnStores :=
  { Memory.sampleStores with
    turns := .empty
    ownerRequests := .empty
    requestIds := .empty }

/-- A chat request opens a turn, a run is attached to it, and its result is there. -/
def openTurn : Call :=
  .startTurn
    { tenantId := "tenant"
      userId := "user"
      sessionId := "session"
      requestId := "request"
      source := "chat"
      userInput := { text := "hello", metadata := [] } }

def attachRunOne : Call :=
  .attachActivity
    { tenantId := "tenant"
      userId := "user"
      requestId := "request"
      runId := some "run_1"
      planId := some "plan"
      blocked := true }

def replyDirectly : Call :=
  .completeRouteOnly
    { tenantId := "tenant"
      userId := "user"
      requestId := "request"
      responseKind := .reply
      responseText := "done"
      error := none }

def finishRun : Call :=
  .completeWithResult
    { tenantId := "tenant"
      userId := "user"
      requestId := "request"
      runId := "run_1"
      resultId := "result_1"
      responseText := "done"
      planId := none }

def blockedTurn (routed : Bool) : TurnStores :=
  execAll routed newSession [(sampleGenerated "a", openTurn), (sampleGenerated "b", attachRunOne)]

theorem blockedTurn_reachable (routed : Bool) :
    (turnCalls routed).Reachable (blockedTurn routed) := by
  have h0 : (turnCalls routed).Reachable newSession := .init fun key id hk => by cases hk
  have h1 := h0.step (l := (sampleGenerated "a", openTurn)) rfl
  exact h1.step (l := (sampleGenerated "b", attachRunOne)) rfl

/-- A result keeps the run and the plan of the turn. -/
theorem turn_updates_monotone_finishRun :
    Monotone (blockedTurn true) (exec true (blockedTurn true) (sampleGenerated "c") finishRun).2
      (moved (blockedTurn true) finishRun) ∧
    AllGrown (blockedTurn true)
      (exec true (blockedTurn true) (sampleGenerated "c") finishRun).2 := by
  obtain ⟨hiff, hgrown⟩ := turn_updates_monotone (blockedTurn_reachable true)
  have hok : (exec true (blockedTurn true) (sampleGenerated "c") finishRun).1 = .ok () := by
    decide
  have hkeeps : dropsReferences (blockedTurn true) finishRun = false := by decide
  exact ⟨(hiff _ _ hok).2 hkeeps, hgrown _ (.single ⟨(sampleGenerated "c", finishRun), hkeeps, rfl⟩)⟩

/-- A route completion of the turn with a run and a plan is accepted and drops both. -/
theorem route_completion_drops_run :
    (turnCalls true).Reachable (blockedTurn true) ∧
    (exec true (blockedTurn true) (sampleGenerated "c") replyDirectly).1 = .ok () ∧
    ((blockedTurn true).turns.get? "turn_a").map (·.references.runIds) = some ["run_1"] ∧
    ((exec true (blockedTurn true) (sampleGenerated "c") replyDirectly).2.turns.get? "turn_a").map
        (fun turn => (turn.status, turn.references.runIds, turn.references.planId)) =
      some (.completed, [], none) ∧
    ¬ Monotone (blockedTurn true)
        (exec true (blockedTurn true) (sampleGenerated "c") replyDirectly).2
        (moved (blockedTurn true) replyDirectly) := by
  refine ⟨blockedTurn_reachable true, by decide, by decide, by decide, ?_⟩
  intro hm
  have hok : (exec true (blockedTurn true) (sampleGenerated "c") replyDirectly).1 = .ok () := by
    decide
  have hdrops : dropsReferences (blockedTurn true) replyDirectly = true := by decide
  rw [(exec_ok hok).monotone_iff.1 hm] at hdrops
  cases hdrops

end OpenIntentRouter.Services.Turns
