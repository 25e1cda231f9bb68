import OpenIntentRouter.DelegatedRuns.TurnLifecycle
import OpenIntentRouter.Services.TurnCapsuleBuilder
import OpenIntentRouter.Turns.Updates

/-!
# Turns that become capsules

Texts are cut and references are digested, but the ids of a turn go into its capsule as
they are: the schema of turns does not bound them, that of capsules does. A completed
turn is formed exactly if its ids are within that bound.

Every state reached from no turns. An entry is about its turn's owner, is not skipped, and
the repository takes what is formed of it; the consumer and the time are arbitrary.

* `buildFromCanonicalTurn_ok_iff`: which turns are formed;
* `exec_adds`: every call leaves completed turns with their response and their time;
* `completed_turn_formed_iff`: the completed turns of all runs, and their entries.
-/
namespace OpenIntentRouter.Services.Turns

open Core Core.Except Schemas Repositories OpenIntentRouter.DelegatedRuns
open DelegatedRuns.Memory (NextTurn OutboxKeyed)
open TurnCapsuleBuilder TurnOutboxFormationConsumer

/-! ## Texts and references -/

theorem boundedText_length (value : String) (limit : Nat) :
    (boundedText value limit).length ≤ limit := by
  unfold boundedText
  split
  · assumption
  · rw [String.length_ofList, List.length_take]
    exact Nat.min_le_left _ _

theorem normalizedRef_valid (builder : TurnCapsuleBuilder) {value : String} (h : value ≠ "") :
    formationIdentifier (builder.normalizedRef value) = true := by
  have hpos : 1 ≤ value.length := by
    rw [Nat.one_le_iff_ne_zero, ← String.length_toList]
    exact fun hlen => h (String.toList_eq_nil_iff.1 (List.length_eq_zero_iff.1 hlen))
  unfold normalizedRef formationIdentifier
  rw [Bool.and_eq_true, decide_eq_true_eq, decide_eq_true_eq]
  split
  · next hlen => exact ⟨hpos, hlen⟩
  · have hprefix : ("sha256:" : String).length = 7 := by decide
    rw [String.length_append, builder.sha256_length, hprefix]
    omega

/-- The references of a capsule are at most fifty, each with an id that the capsule allows. -/
theorem boundedRefs_valid (builder : TurnCapsuleBuilder) {bounded : List String}
    (values : List String) (hlen : bounded.length < 50)
    (hvalid : ∀ ref ∈ bounded, formationIdentifier ref = true) :
    (builder.boundedRefs bounded values).length ≤ 50 ∧
      ∀ ref ∈ builder.boundedRefs bounded values, formationIdentifier ref = true := by
  induction values generalizing bounded with
  | nil => exact ⟨Nat.le_of_lt hlen, hvalid⟩
  | cons value rest ih =>
    unfold boundedRefs
    split
    · exact ih hlen hvalid
    · next hvalue =>
      dsimp only
      -- the list with the value, if it is new
      have hnext : ∀ next, next = (if builder.normalizedRef value ∈ bounded then bounded
          else bounded ++ [builder.normalizedRef value]) →
          next.length ≤ 50 ∧ ∀ ref ∈ next, formationIdentifier ref = true := by
        rintro next rfl
        split
        · exact ⟨Nat.le_of_lt hlen, hvalid⟩
        · refine ⟨by rw [List.length_append, List.length_singleton]; omega, fun ref href => ?_⟩
          rcases List.mem_append.1 href with href | href
          · exact hvalid ref href
          · rw [List.mem_singleton.1 href]
            exact normalizedRef_valid builder hvalue
      generalize heq : (if builder.normalizedRef value ∈ bounded then bounded
        else bounded ++ [builder.normalizedRef value]) = next
      obtain ⟨hlen', hvalid'⟩ := hnext next heq.symm
      split
      · exact ⟨hlen', hvalid'⟩
      · next hmore => exact ih (Nat.not_le.1 hmore) hvalid'

/-! ## The conversion -/

def Closes (turn : CanonicalTurn) : Prop :=
  turn.status = .completed → ∃ response time,
    turn.finalResponse = some response ∧ turn.completedAt = some time

structure Kept (turn : CanonicalTurn) : Prop where
  source : 1 ≤ turn.source.length ∧ turn.source.length ≤ 64
  version : 1 ≤ turn.stateVersion
  closes : Closes turn

/-- The ids that go into the capsule have at least one and at most 128 characters. -/
def IdsBounded (turn : CanonicalTurn) : Prop :=
  ∀ id ∈ [turn.turnId, turn.requestId, turn.sessionId, turn.userId, turn.tenantId] ++
    turn.references.runIds.head?.toList, 1 ≤ id.length ∧ id.length ≤ 128

theorem formationIdentifier_iff (id : String) :
    formationIdentifier id = true ↔ 1 ≤ id.length ∧ id.length ≤ 128 := by
  simp [formationIdentifier]

theorem idsBounded_iff (turn : CanonicalTurn) :
    IdsBounded turn ↔ formationIdentifier turn.turnId = true ∧
      formationIdentifier turn.requestId = true ∧ formationIdentifier turn.sessionId = true ∧
      turn.references.runIds.head?.all formationIdentifier = true ∧
      formationIdentifier turn.userId = true ∧ formationIdentifier turn.tenantId = true := by
  unfold IdsBounded
  simp only [← formationIdentifier_iff]
  cases turn.references.runIds.head? with
  | none => simp
  | some runId =>
    simp
    tauto

def capsuleOf (turn : CanonicalTurn) (response : TurnSemanticResponse) (time : Instant) :
    TurnCapsule where
  turnId := turn.turnId
  tenantId := turn.tenantId
  userId := turn.userId
  sessionId := turn.sessionId
  requestId := turn.requestId
  source := turn.source
  stateVersion := turn.stateVersion
  userInput := turn.userInput
  finalResponse := response
  references := turn.references
  completedAt := time

variable {turn : CanonicalTurn} {s s' : TurnStores} {gen : Generated} {routed : Bool}

theorem buildCanonicalCapsule_eq {response : TurnSemanticResponse} {time : Instant} (h : Kept turn)
    (hcompleted : turn.status = .completed) (hresponse : turn.finalResponse = some response)
    (htime : turn.completedAt = some time) :
    buildCanonicalCapsule turn =
      if [turn.turnId, turn.tenantId, turn.userId, turn.sessionId, turn.requestId].all (· ≠ "")
      then .ok (capsuleOf turn response time)
      else .error (.valueError "Turn Capsule requires trusted canonical ownership") := by
  have hvalid : (capsuleOf turn response time).validate = .ok (capsuleOf turn response time) := by
    refine bind_eq_ok.2 ⟨(), ?_, rfl⟩
    rw [ensure_eq_ok]
    simp [capsuleOf, h.source, h.version]
  unfold buildCanonicalCapsule
  rw [if_neg (fun hne => hne hcompleted), hresponse, htime]
  dsimp only
  split
  · exact hvalid
  · rfl

theorem ne_empty_of_identifier {id : String} (h : formationIdentifier id = true) : id ≠ "" := by
  rintro rfl
  exact absurd h (by decide)

/-- Of the constraints of a formation turn only those of the ids can fail. -/
theorem formationTurn_fieldsValid (builder : TurnCapsuleBuilder) (turn : CanonicalTurn)
    (response : TurnSemanticResponse) (time now : Instant) :
    (builder.formationTurn (capsuleOf turn response time) now).fieldsValid = true ↔
      IdsBounded turn := by
  have hrefs : ∀ values, (builder.boundedRefs [] values).length ≤ 50 ∧
      (builder.boundedRefs [] values).all formationIdentifier = true := by
    intro values
    obtain ⟨hlen, hvalid⟩ := @boundedRefs_valid builder [] values (by decide)
      (fun ref href => by cases href)
    exact ⟨hlen, List.all_eq_true.2 hvalid⟩
  have huser := Nat.le_trans (boundedText_length turn.userInput.text builder.capsuleUserChars)
    builder.userChars_le
  have hassistant := Nat.le_trans (boundedText_length response.text builder.capsuleAssistantChars)
    builder.assistantChars_le
  have hstatus : 1 ≤ ("completed" : String).length ∧ ("completed" : String).length ≤ 32 := by decide
  rw [idsBounded_iff]
  simp only [FormationTurn.fieldsValid, formationTurn, capsuleOf, hrefs, huser, hassistant, hstatus,
    Option.all_none, List.length_nil, List.all_nil, Nat.zero_le, decide_true, Bool.and_true,
    Bool.and_eq_true, and_assoc]

theorem buildFromCanonicalTurn_ok_iff (builder : TurnCapsuleBuilder) (now : Instant) (h : Kept turn)
    (hcompleted : turn.status = .completed) :
    (∃ formed, builder.buildFromCanonicalTurn turn now = .ok formed) ↔ IdsBounded turn := by
  obtain ⟨response, time, hresponse, htime⟩ := h.closes hcompleted
  have hcapsule := buildCanonicalCapsule_eq h hcompleted hresponse htime
  rw [← formationTurn_fieldsValid builder turn response time now]
  unfold buildFromCanonicalTurn
  constructor
  · rintro ⟨formed, hformed⟩
    obtain ⟨capsule, hok, hformed⟩ := bind_eq_ok.1 hformed
    rw [hcapsule] at hok
    split at hok
    · cases hok
      obtain ⟨u, hvalid, hformed⟩ := bind_eq_ok.1 hformed
      exact ensure_eq_ok.1 hvalid
    · cases hok
  · intro hvalid
    have hids := (formationTurn_fieldsValid builder turn response time now).1 hvalid
    refine ⟨_, bind_eq_ok.2 ⟨capsuleOf turn response time, ?_,
      bind_eq_ok.2 ⟨(), ensure_eq_ok.2 hvalid, rfl⟩⟩⟩
    obtain ⟨hturn, hrequest, hsession, -, huser, htenant⟩ := (idsBounded_iff turn).1 hids
    rw [hcapsule, if_pos]
    simp [ne_empty_of_identifier, hturn, hrequest, hsession, huser, htenant]

/-! ## The turns of the services -/

/-- The turns are as they were, but for a new one, or the next version of one of them. -/
def Adds (s s' : TurnStores) : Prop :=
  s'.turns = s.turns ∨ ∃ new, s'.turns = s.turns.put new ∧
    (Kept new ∨ Closes new ∧ ∃ old, s.turns.get? old.turnId = some old ∧ NextTurn old new)

theorem Adds.kept {s s' : TurnStores} (h : Adds s s') (hs : ∀ turn ∈ s.turns.values, Kept turn) :
    ∀ turn ∈ s'.turns.values, Kept turn := by
  rcases h with heq | ⟨new, heq, hnew⟩
  · rw [heq]
    exact hs
  · have hkept : Kept new := by
      rcases hnew with hkept | ⟨hcloses, old, hold, -, -, -, -, -, hsource, hversion⟩
      · exact hkept
      · have hkept := hs old ((Table.mem_values _ _).2 hold)
        exact ⟨hsource ▸ hkept.source, by omega, hcloses⟩
    intro turn hturn
    rw [heq] at hturn
    rcases Table.mem_values_put hturn with rfl | hturn
    · exact hkept
    · exact hs turn hturn

theorem closes_of_status (h : turn.status ≠ .completed) : Closes turn :=
  fun hcompleted => absurd hcompleted h

theorem startTurn_adds {request : TurnStart} (h : startTurn s request gen = .ok (turn, s')) :
    Adds s s' := by
  obtain ⟨found, hf, h⟩ := bind_eq_ok.1 h
  cases found with
  | some owner =>
    obtain ⟨-, -, h⟩ := bind_eq_ok.1 h
    cases h
    exact .inl rfl
  | none =>
    obtain ⟨new, hnew, h⟩ := bind_eq_ok.1 h
    have hvalid := CanonicalTurn.valid_of_validate hnew
    obtain rfl := CanonicalTurn.validate_eq hnew
    split at h
    · cases h
    · next stored created s1 hcreate =>
      obtain ⟨-, -, h⟩ := bind_eq_ok.1 h
      cases h
      unfold createIdempotent at hcreate
      dsimp only at hcreate
      split at hcreate
      · obtain ⟨existing, -, hcreate⟩ := bind_eq_ok.1 hcreate
        cases hcreate
        exact .inl rfl
      · split at hcreate
        · cases hcreate
        · split at hcreate
          · cases hcreate
          · cases hcreate
            exact .inr ⟨_, rfl, .inl ⟨hvalid.source, hvalid.stateVersion,
              closes_of_status (by simp)⟩⟩

theorem attachActivity_adds {activity : Activity}
    (h : attachActivity s activity gen = (.ok turn, s')) : Adds s s' := by
  unfold attachActivity at h
  split at h
  · cases h
  · next old new hprep =>
    obtain ⟨hreq, hn, -⟩ := prepareActivity_ok hprep
    have hget := get_of_requested hreq
    have hopen : new.status ≠ .completed := by
      obtain ⟨-, -, hprep⟩ := bind_eq_ok.1 hprep
      obtain ⟨existing, -, hprep⟩ := bind_eq_ok.1 hprep
      obtain ⟨-, -, hprep⟩ := bind_eq_ok.1 hprep
      obtain ⟨references, -, hprep⟩ := bind_eq_ok.1 hprep
      cases hprep
      cases activity.blocked <;> simp
    exact .inr ⟨new, store_next hget hn h, .inr ⟨closes_of_status hopen, old, hget, hn⟩⟩

theorem completeRouteOnly_adds {request : RouteCompletion}
    (h : completeRouteOnly routed s request gen = (.ok turn, s')) : Adds s s' := by
  unfold completeRouteOnly at h
  split at h
  · cases h
  · cases h
    exact .inl rfl
  · next response existing completed hprep =>
    obtain ⟨old, hreq, ⟨-, hp⟩ | ⟨-, hp⟩⟩ := prepareRouteOnly_ok hprep
    · cases hp
    · cases hp
      have hget := get_of_requested hreq
      have hn : NextTurn existing (routeCompleted request response gen.now existing) :=
        ⟨rfl, rfl, rfl, rfl, rfl, rfl, rfl⟩
      exact .inr ⟨_, store_next hget hn h,
        .inr ⟨fun _ => ⟨response, gen.now, rfl, rfl⟩, existing, hget, hn⟩⟩

theorem completeWithResult_adds {request : ResultCompletion}
    (h : completeWithResult s request gen = (.ok turn, s')) : Adds s s' := by
  unfold completeWithResult at h
  split at h
  · cases h
  · cases h
    exact .inl rfl
  · next response existing completed hprep =>
    obtain ⟨old, hreq, ⟨-, hp⟩ | ⟨-, hp⟩⟩ := prepareResult_ok hprep
    · cases hp
    · cases hp
      have hget := get_of_requested hreq
      have hn : NextTurn existing (resultCompleted request response gen.now existing) :=
        ⟨rfl, rfl, rfl, rfl, rfl, rfl, rfl⟩
      exact .inr ⟨_, store_next hget hn h,
        .inr ⟨fun _ => ⟨response, gen.now, rfl, rfl⟩, existing, hget, hn⟩⟩

/-- A terminal command stores the next version of its turn. -/
theorem adds_concluding {command : DelegatedRunEventCommand} {old new : CanonicalTurn}
    (ht : Memory.TurnOwned command s.toMemoryStores old) (hn : NextTurn old new)
    (hcloses : Closes new) (hs : s'.turns = s.turns.put new) : Adds s s' := by
  refine .inr ⟨new, hs, .inr ⟨hcloses, old, ?_, hn⟩⟩
  rw [ht.turnId]
  exact ht.get

theorem delegated_adds {command : Command} {r : Reply} {stores : MemoryStores}
    (h : Memory.exec s.toMemoryStores gen command = (.ok r, stores)) :
    Adds s { s with toMemoryStores := stores } := by
  cases command with
  | start command runHex key =>
    rcases Memory.start_ok h with ⟨-, -, rfl⟩ | ⟨-, hs⟩
    · exact .inl rfl
    · obtain ⟨turn, run, stored, updated, hg, -, -, -, -, -, hup, rfl⟩ := hs.started
      refine .inr ⟨updated, rfl, .inr ⟨?_, turn, ?_, Memory.attachRun_next hup⟩⟩
      · obtain ⟨planId, rfl⟩ := Db.attachRun_eq hup
        exact closes_of_status (by simp)
      · rw [turnId_of hg]
        exact hg
  | progress command =>
    rcases Memory.progress_ok h with ⟨-, rfl⟩ | ⟨p, -, -, ha⟩
    · exact .inl rfl
    · exact .inl ha.turns
  | complete command =>
    rcases Memory.complete_ok h with ⟨-, rfl⟩ | ⟨p, hp, -, ha⟩
    · exact .inl rfl
    · obtain ⟨-, ht, plan, -, hb⟩ := Memory.decideComplete_inr hp
      refine adds_concluding ht ?_ ?_ ha.turns
      · rw [hb.turn_eq]
        exact ⟨rfl, rfl, rfl, rfl, rfl, rfl, rfl⟩
      · rw [hb.turn_eq]
        exact fun _ => ⟨_, _, rfl, rfl⟩
  | fail command =>
    rcases Memory.fail_ok h with ⟨-, rfl⟩ | ⟨p, hp, -, ha⟩
    · exact .inl rfl
    · obtain ⟨hprep, -, -, hturn, -⟩ := Memory.decideFail_inr hp
      refine adds_concluding hprep.turn ?_ ?_ ha.turns
      · rw [hturn]
        exact ⟨rfl, rfl, rfl, rfl, rfl, rfl, rfl⟩
      · rw [hturn]
        exact closes_of_status (by simp [failedTurn, concludeTurn])
  | cancel command =>
    rcases Memory.cancel_ok h with ⟨-, rfl⟩ | ⟨p, hp, -, ha⟩
    · exact .inl rfl
    · obtain ⟨hprep, -, -, hturn, -⟩ := Memory.decideCancel_inr hp
      refine adds_concluding hprep.turn ?_ ?_ ha.turns
      · rw [hturn]
        exact ⟨rfl, rfl, rfl, rfl, rfl, rfl, rfl⟩
      · rw [hturn]
        exact closes_of_status (by simp [concludeTurn])
  | timeout command =>
    rcases Memory.timeout_ok h with ⟨-, rfl⟩ | ⟨p, hp, -, ha⟩
    · exact .inl rfl
    · obtain ⟨hprep, -, -, hturn, -⟩ := Memory.decideTimeout_inr hp
      refine adds_concluding hprep.turn ?_ ?_ ha.turns
      · rw [hturn]
        exact ⟨rfl, rfl, rfl, rfl, rfl, rfl, rfl⟩
      · rw [hturn]
        exact closes_of_status (by simp [concludeTurn])

theorem exec_adds (ho : OutboxKeyed s.outbox) (gen : Generated) (call : Call) :
    Adds s (exec routed s gen call).2 := by
  cases hr : (exec routed s gen call).1 with
  | error e => exact .inl ((settles_exec ho gen call).2 e hr)
  | ok u =>
    cases call with
    | startTurn request =>
      simp only [exec] at hr ⊢
      split at hr
      · cases hr
      · next turn s' hs => exact startTurn_adds hs
    | attachActivity activity =>
      obtain ⟨turn, ht⟩ := map_unit_ok hr
      exact attachActivity_adds (Prod.ext ht rfl)
    | completeWithResult request =>
      obtain ⟨turn, ht⟩ := map_unit_ok hr
      exact completeWithResult_adds (Prod.ext ht rfl)
    | completeRouteOnly request =>
      obtain ⟨turn, ht⟩ := map_unit_ok hr
      exact completeRouteOnly_adds (Prod.ext ht rfl)
    | delegated command =>
      obtain ⟨r, hr⟩ := map_unit_ok hr
      exact delegated_adds (Prod.ext hr rfl)

/-! ## Runs and deliveries -/

def newTurns (routed : Bool) : LTS TurnStores (Generated × Call) where
  init s := s.turns = .empty ∧ OutboxKeyed s.outbox
  step s call s' := s' = (exec routed s call.1 call.2).2

theorem kept_reachable (h : (newTurns routed).Reachable s) :
    OutboxKeyed s.outbox ∧ ∀ turn ∈ s.turns.values, Kept turn := by
  refine LTS.Inductive.reachable (T := newTurns routed)
    (I := fun s => OutboxKeyed s.outbox ∧ ∀ turn ∈ s.turns.values, Kept turn) ⟨?_, ?_⟩ h
  · rintro s ⟨hempty, ho⟩
    refine ⟨ho, fun turn hturn => ?_⟩
    rw [hempty] at hturn
    cases hturn
  · rintro s ⟨gen, call⟩ s' ⟨ho, hkept⟩ rfl
    exact ⟨(settles_exec ho gen call).1, (exec_adds ho gen call).kept hkept⟩

/-- An entry of the turn that is not skipped is completed if the turn is formed, and if what is
formed is appended. -/
theorem deliver_ok_iff (consumer : TurnOutboxFormationConsumer) {event : TurnOutboxEvent}
    {now : Instant} (htype : event.eventType = "turn.completed")
    (howner : validateEventOwner event turn = .ok ()) (hskip : consumer.skipReason event = .ok none)
    (happend : ∀ formed, consumer.append formed = .ok ()) :
    (∃ delivery, consumer.deliver event (some turn) now = .ok delivery) ↔
      ∃ formed, consumer.buildFromCanonicalTurn turn now = .ok formed := by
  unfold deliver
  rw [if_neg (fun hne => hne htype)]
  simp only [howner, hskip, ok_bind, Option.filter_none]
  cases consumer.buildFromCanonicalTurn turn now with
  | error e => simp
  | ok formed => simp [happend]

/-- In every run of the services a completed turn is formed, and an entry of it that is not
skipped is completed, exactly if its ids are bounded. -/
theorem completed_turn_formed_iff {routed : Bool} {s : TurnStores}
    (h : (newTurns routed).Reachable s) (consumer : TurnOutboxFormationConsumer) (now : Instant) :
    ∀ turn ∈ s.turns.values, turn.status = .completed →
      ((∃ formed, consumer.buildFromCanonicalTurn turn now = .ok formed) ↔ IdsBounded turn) ∧
      ∀ event : TurnOutboxEvent, event.eventType = "turn.completed" →
        validateEventOwner event turn = .ok () → consumer.skipReason event = .ok none →
        (∀ formed, consumer.append formed = .ok ()) →
        ((∃ delivery, consumer.deliver event (some turn) now = .ok delivery) ↔
          IdsBounded turn) := by
  intro turn hturn hcompleted
  have hformed := buildFromCanonicalTurn_ok_iff consumer.toTurnCapsuleBuilder now
    ((kept_reachable h).2 turn hturn) hcompleted
  exact ⟨hformed, fun event htype howner hskip happend =>
    (deliver_ok_iff consumer htype howner hskip happend).trans hformed⟩

/-! ## A turn of a long session -/

def sampleConsumer : TurnOutboxFormationConsumer where
  capsuleUserChars := 2000
  capsuleAssistantChars := 2000
  sha256 := fun _ => String.ofList (List.replicate 64 '0')
  userChars_le := by decide
  assistantChars_le := by decide
  sha256_length s := by rw [String.length_ofList, List.length_replicate]
  executionPlane := "live"
  formationMode := .enforced
  validateEligibility := fun _ => .error (.validationError "FormationEligibilitySnapshot")
  recordSkip := fun _ _ => .ok ()
  append := fun _ => .ok ()

def openTurnOf (sessionId : String) : Call :=
  .startTurn
    { tenantId := "tenant"
      userId := "user"
      sessionId := sessionId
      requestId := "request"
      source := "chat"
      userInput := { text := "hello", metadata := [] } }

def answered (sessionId : String) : TurnStores :=
  execAll true newSession
    [(sampleGenerated "a", openTurnOf sessionId), (sampleGenerated "b", replyDirectly)]

theorem answered_reachable (sessionId : String) :
    (newTurns true).Reachable (answered sessionId) := by
  have h0 : (newTurns true).Reachable newSession := .init ⟨rfl, fun key id hk => by cases hk⟩
  have h1 := h0.step (l := (sampleGenerated "a", openTurnOf sessionId)) rfl
  exact h1.step (l := (sampleGenerated "b", replyDirectly)) rfl

/-- The turn of a session of an ordinary id is formed. -/
theorem completed_turn_formed_iff_session :
    ∃ turn ∈ (answered "session").turns.values,
      ∃ formed, sampleConsumer.buildFromCanonicalTurn turn 0 = .ok formed := by
  have hturn : ∃ turn ∈ (answered "session").turns.values, turn.status = .completed ∧
      ∀ id ∈ [turn.turnId, turn.requestId, turn.sessionId, turn.userId, turn.tenantId] ++
        turn.references.runIds.head?.toList, 1 ≤ id.length ∧ id.length ≤ 128 := by
    decide
  obtain ⟨turn, hturn, hcompleted, hbounded⟩ := hturn
  exact ⟨turn, hturn, ((completed_turn_formed_iff (answered_reachable "session") sampleConsumer 0
    turn hturn hcompleted).1).2 hbounded⟩

/-- The turn of a session whose id has 129 characters is completed and never formed. -/
theorem long_session_poisons :
    ¬∀ (routed : Bool) (s : TurnStores), (newTurns routed).Reachable s →
      ∀ (consumer : TurnOutboxFormationConsumer) (now : Instant),
        ∀ turn ∈ s.turns.values, turn.status = .completed →
          ∃ formed, consumer.buildFromCanonicalTurn turn now = .ok formed := by
  intro hclaim
  let session := String.ofList (List.replicate 129 's')
  have hturn : ∃ turn ∈ (answered session).turns.values, turn.status = .completed ∧
      sampleConsumer.buildFromCanonicalTurn turn 0 =
        .error (.validationError "MemoryFormationTurn field constraints") := by
    decide +kernel
  obtain ⟨turn, hturn, hcompleted, hraises⟩ := hturn
  obtain ⟨formed, hformed⟩ :=
    hclaim true (answered session) (answered_reachable session) sampleConsumer 0 turn hturn hcompleted
  rw [hraises] at hformed
  cases hformed

end OpenIntentRouter.Services.Turns
