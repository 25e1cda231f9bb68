import OpenIntentRouter.DelegatedRuns.MemoryStores

/-!
# The turn service

`TurnService` over the in-memory turn repository: starting a turn, attaching a
run or a plan to it, and closing it with a routed reply or with a result. Each
builds the next value of the turn on its own; the repository checks identity,
status and version. `TurnStores` adds the two request indices of the repository
to what the delegated-run stores share.

* `Call`: these calls and the delegated-run commands, on one state.
-/
namespace OpenIntentRouter.Services.Turns

open Core Schemas Repositories OpenIntentRouter.DelegatedRuns

/-- mirrors app/repositories/turns.py:20-25 (`MemoryTurnRepository`); `turns` is
that of the delegated-run stores -/
structure TurnStores extends MemoryStores where
  ownerRequests : Dict (String × String × String) String
  requestIds : Dict String String

/-! ## The repository -/

/-- `self.turns[turn_id]`. -/
def turnAt (s : TurnStores) (turnId : String) : Except StoreError CanonicalTurn :=
  match s.turns.get? turnId with
  | none => .error (.keyError turnId)
  | some turn => .ok turn

/-- mirrors app/repositories/turns.py:50-56 -/
def getByRequest (s : TurnStores) (tenantId userId requestId : String) :
    Except StoreError (Option CanonicalTurn) :=
  match s.ownerRequests.get? (tenantId, userId, requestId) with
  | none => .ok none
  | some turnId => do
    let turn ← turnAt s turnId
    return some turn

/-- mirrors app/repositories/turns.py:58-60 -/
def findByRequestId (s : TurnStores) (requestId : String) :
    Except StoreError (Option CanonicalTurn) :=
  match (s.requestIds.get? requestId).filter (· ≠ "") with
  | none => .ok none
  | some turnId => do
    let turn ← turnAt s turnId
    return some turn

/-- The stored turn, whether it is new, and the repository.
mirrors app/repositories/turns.py:27-42 -/
def createIdempotent (s : TurnStores) (turn : CanonicalTurn) :
    Except StoreError (CanonicalTurn × Bool × TurnStores) :=
  let key := (turn.tenantId, turn.userId, turn.requestId)
  match s.ownerRequests.get? key with
  | some existingId => do
    let existing ← turnAt s existingId
    return (existing, false, s)
  | none =>
    if s.requestIds.contains turn.requestId then
      .error (.turnOwnershipConflict "request_id is already owned by another identity")
    else if s.turns.contains turn.turnId then
      .error (.turnOwnershipConflict "turn_id is already owned by another request")
    else
      .ok (turn, true,
        { s with
          turns := s.turns.put turn
          ownerRequests := s.ownerRequests.set key turn.turnId
          requestIds := s.requestIds.set turn.requestId turn.turnId })

/-- `update_if_version`, after which a route completion adds its outbox entry; an
entry that raises leaves the turn updated.
mirrors app/repositories/turn_route_completion.py:19-33
(`MemoryRouteTurnCompletionStore.complete`) and app/repositories/turns.py:66-78 -/
def store (s : TurnStores) (turn : CanonicalTurn) (expectedVersion : Nat)
    (outbox : Option TurnOutboxEvent) : Except StoreError (Option CanonicalTurn) × TurnStores :=
  match updateIfVersion s.turns turn expectedVersion with
  | .error e => (.error e, s)
  | .ok none => (.ok none, s)
  | .ok (some turns) =>
    match outbox with
    | none => (.ok (some turn), { s with turns })
    | some event =>
      match s.outbox.addIdempotent event with
      | .error e => (.error e, { s with turns })
      | .ok outbox => (.ok (some turn), { s with turns, outbox })

/-- What a call returns of a store: the stored turn, or what it does `otherwise`. -/
def storedOr (otherwise : TurnStores → Except StoreError CanonicalTurn) :
    Except StoreError (Option CanonicalTurn) × TurnStores →
      Except StoreError CanonicalTurn × TurnStores
  | (.error e, s) => (.error e, s)
  | (.ok (some stored), s) => (.ok stored, s)
  | (.ok none, s) => (otherwise s, s)

/-! ## The service -/

/-- Python's `==` of two responses. -/
def sameResponse (a b : TurnSemanticResponse) : Bool :=
  a.kind = b.kind && a.text = b.text && JsonDict.pyEqOption a.output b.output &&
  JsonDict.pyEqOption a.error b.error

def semanticResponse (kind : TurnResponseKind) (text : String) (error : Option JsonDict) :
    Except StoreError TurnSemanticResponse := do
  Except.ensure (text.length ≤ 20000) (.validationError "TurnSemanticResponse.text")
  return { kind, text, output := none, error }

/-- The arguments of `start_turn`. -/
structure TurnStart where
  tenantId : String
  userId : String
  sessionId : String
  requestId : String
  source : String
  userInput : TurnUserInput

/-- mirrors app/services/turn_service.py:295-312 -/
def validateReplay (existing : CanonicalTurn) (request : TurnStart) : Except StoreError Unit :=
  Except.ensure (existing.tenantId = request.tenantId && existing.userId = request.userId &&
      existing.sessionId = request.sessionId && existing.source = request.source &&
      existing.userInput.text = request.userInput.text &&
      JsonDict.pyEq existing.userInput.metadata request.userInput.metadata)
    (.turnIdempotencyConflict "request identity or semantic input conflicts")

/-- The turn that `start_turn` creates; `gen.hex` is `uuid4().hex`. -/
def newTurn (request : TurnStart) (gen : Generated) : Except StoreError CanonicalTurn :=
  CanonicalTurn.validate
    { turnId := "turn_" ++ gen.hex
      tenantId := request.tenantId
      userId := request.userId
      sessionId := request.sessionId
      requestId := request.requestId
      source := request.source
      status := .pending
      stateVersion := 1
      userInput := request.userInput
      references :=
        { routeDecisionId := none, runIds := [], resultIds := [], planId := none, eventIds := [] }
      finalResponse := none
      createdAt := gen.now
      updatedAt := gen.now
      completedAt := none }

/-- `TurnOwnershipConflict` becomes `TurnIdempotencyConflict`. -/
def asIdempotencyConflict : StoreError → StoreError
  | .turnOwnershipConflict _ =>
    .turnIdempotencyConflict "request identity conflicts with existing turn"
  | e => e

/-- mirrors app/services/turn_service.py:32-78 -/
def startTurn (s : TurnStores) (request : TurnStart) (gen : Generated) :
    Except StoreError (CanonicalTurn × TurnStores) := do
  match ← findByRequestId s request.requestId with
  | some owner =>
    validateReplay owner request
    return (owner, s)
  | none =>
    let turn ← newTurn request gen
    match createIdempotent s turn with
    | .error e => .error (asIdempotencyConflict e)
    | .ok (stored, _, s') =>
      validateReplay stored request
      return (stored, s')

/-- The arguments of `complete_route_only`. -/
structure RouteCompletion where
  tenantId : String
  userId : String
  requestId : String
  responseKind : TurnResponseKind
  responseText : String
  error : Option JsonDict

/-- `response_kind in {"reply", "clarify", "unsupported", "silent"}`. -/
def isDirect : TurnResponseKind → Bool
  | .reply | .clarify | .unsupported | .silent => true
  | .agentResult | .error => false

def routeCompleted (request : RouteCompletion) (response : TurnSemanticResponse) (now : Instant)
    (existing : CanonicalTurn) : CanonicalTurn :=
  { concludeTurn .completed now existing with
    references :=
      { routeDecisionId := some ("route_decision:" ++ request.requestId)
        runIds := []
        resultIds := []
        planId := none
        eventIds := [] }
    finalResponse := some response }

def routeOutbox (turn : CanonicalTurn) (hex : String) (now : Instant) : TurnOutboxEvent :=
  turnOutbox hex "turn.completed" turn.turnId
    [("turn_id", .str turn.turnId), ("tenant_id", .str turn.tenantId),
      ("user_id", .str turn.userId), ("request_id", .str turn.requestId),
      ("state_version", .num turn.stateVersion)] now

def completedWith (response : TurnSemanticResponse) (turn : CanonicalTurn) : Bool :=
  turn.status = .completed && turn.finalResponse.any (sameResponse · response)

abbrev Prepared := CanonicalTurn ⊕ (CanonicalTurn × CanonicalTurn)

def prepareRouteOnly (s : TurnStores) (request : RouteCompletion) (now : Instant) :
    Except StoreError (TurnSemanticResponse × Prepared) := do
  Except.ensure (isDirect request.responseKind)
    (.valueError "route-only completion requires a direct response kind")
  match ← getByRequest s request.tenantId request.userId request.requestId with
  | none => .error (.valueError "canonical turn not found")
  | some existing =>
    let response ← semanticResponse request.responseKind request.responseText request.error
    if existing.status.isTerminal then
      if completedWith response existing then return (response, .inl existing)
      else .error (.turnTerminalStateError "terminal turn cannot be completed again")
    else return (response, .inr (existing, routeCompleted request response now existing))

/-- `routed`: the service has a `route_completion_store`.
mirrors app/services/turn_service.py:93-174 (`complete_route_only`) -/
def completeRouteOnly (routed : Bool) (s : TurnStores) (request : RouteCompletion)
    (gen : Generated) : Except StoreError CanonicalTurn × TurnStores :=
  match prepareRouteOnly s request gen.now with
  | .error e => (.error e, s)
  | .ok (_, .inl existing) => (.ok existing, s)
  | .ok (response, .inr (existing, completed)) =>
    storedOr
      (fun s' => do
        let concurrent ← getByRequest s' request.tenantId request.userId request.requestId
        match concurrent.filter (completedWith response) with
        | some concurrent => return concurrent
        | none => .error (.turnTerminalStateError "turn completion conflicted"))
      (store s completed existing.stateVersion
        (if routed then some (routeOutbox completed gen.hex gen.now) else none))

/-- mirrors app/services/turn_service.py:274-282 -/
def ownedTurn (s : TurnStores) (tenantId userId requestId : String) :
    Except StoreError CanonicalTurn := do
  match ← getByRequest s tenantId userId requestId with
  | none => .error (.valueError "canonical turn not found")
  | some turn => return turn

/-- The arguments of `attach_activity`. -/
structure Activity where
  tenantId : String
  userId : String
  requestId : String
  runId : Option String
  planId : Option String
  blocked : Bool

/-- `run_ids` of `attach_activity`. -/
def attachedRuns (activity : Activity) (runIds : List String) : List String :=
  match activity.runId.filter (· ≠ "") with
  | some runId => addNew runIds runId
  | none => runIds

/-- `references` of `attach_activity`. -/
def attachedReferences (activity : Activity) (references : TurnResultReferences) :
    Except StoreError TurnResultReferences :=
  let attached := { references with runIds := attachedRuns activity references.runIds }
  if truthy activity.planId then do
    Except.ensure (!truthy references.planId || references.planId = activity.planId)
      (.turnIdempotencyConflict "turn is already bound to another plan")
    return { attached with planId := activity.planId }
  else .ok attached

def prepareActivity (s : TurnStores) (activity : Activity) (now : Instant) :
    Except StoreError (CanonicalTurn × CanonicalTurn) := do
  Except.ensure (truthy activity.runId || truthy activity.planId)
    (.valueError "turn activity requires a Run or Plan reference")
  let existing ← ownedTurn s activity.tenantId activity.userId activity.requestId
  Except.ensure (!existing.status.isTerminal)
    (.turnTerminalStateError "terminal turn cannot attach activity")
  let references ← attachedReferences activity existing.references
  return (existing,
    { existing with
      status := if activity.blocked then .blocked else .running
      stateVersion := existing.stateVersion + 1
      references
      updatedAt := now })

/-- mirrors app/services/turn_service.py:176-210 (`attach_activity`) and :284-293
(`_store_transition`) -/
def attachActivity (s : TurnStores) (activity : Activity) (gen : Generated) :
    Except StoreError CanonicalTurn × TurnStores :=
  match prepareActivity s activity gen.now with
  | .error e => (.error e, s)
  | .ok (existing, updated) =>
    storedOr (fun _ => .error (.turnTerminalStateError "turn state changed concurrently"))
      (store s updated existing.stateVersion none)

/-- The arguments of `complete_with_result`. -/
structure ResultCompletion where
  tenantId : String
  userId : String
  requestId : String
  runId : String
  resultId : String
  responseText : String
  planId : Option String

def completedWithResult (response : TurnSemanticResponse) (resultId : String)
    (turn : CanonicalTurn) : Bool :=
  completedWith response turn && decide (resultId ∈ turn.references.resultIds)

def resultCompleted (request : ResultCompletion) (response : TurnSemanticResponse) (now : Instant)
    (existing : CanonicalTurn) : CanonicalTurn :=
  { concludeTurn .completed now existing with
    references := { existing.references with
      resultIds := addNew existing.references.resultIds request.resultId }
    finalResponse := some response }

def prepareResult (s : TurnStores) (request : ResultCompletion) (now : Instant) :
    Except StoreError (TurnSemanticResponse × Prepared) := do
  let existing ← ownedTurn s request.tenantId request.userId request.requestId
  let response ← semanticResponse .agentResult request.responseText none
  if existing.status.isTerminal then
    if completedWithResult response request.resultId existing then
      return (response, .inl existing)
    else .error (.turnTerminalStateError "terminal turn cannot accept another result")
  else do
    Except.ensure (decide (request.runId ∈ existing.references.runIds))
      (.turnIdempotencyConflict "result Run does not match the active turn")
    Except.ensure (!truthy request.planId || existing.references.planId = request.planId)
      (.turnIdempotencyConflict "result Plan does not match the active turn")
    return (response, .inr (existing, resultCompleted request response now existing))

/-- mirrors app/services/turn_service.py:212-272 -/
def completeWithResult (s : TurnStores) (request : ResultCompletion) (gen : Generated) :
    Except StoreError CanonicalTurn × TurnStores :=
  match prepareResult s request gen.now with
  | .error e => (.error e, s)
  | .ok (_, .inl existing) => (.ok existing, s)
  | .ok (response, .inr (existing, completed)) =>
    storedOr
      (fun s' => do
        let concurrent ← ownedTurn s' request.tenantId request.userId request.requestId
        if completedWithResult response request.resultId concurrent then return concurrent
        else .error (.turnTerminalStateError "turn result completion conflicted"))
      (store s completed existing.stateVersion none)

/-! ## The calls on a turn -/

inductive Call where
  | startTurn (request : TurnStart)
  | attachActivity (activity : Activity)
  | completeWithResult (request : ResultCompletion)
  | completeRouteOnly (request : RouteCompletion)
  | delegated (command : Command)

def exec (routed : Bool) (s : TurnStores) (gen : Generated) :
    Call → Except StoreError Unit × TurnStores
  | .startTurn request =>
    match startTurn s request gen with
    | .error e => (.error e, s)
    | .ok (_, s') => (.ok (), s')
  | .attachActivity activity =>
    let (reply, s') := attachActivity s activity gen
    (reply.map fun _ => (), s')
  | .completeWithResult request =>
    let (reply, s') := completeWithResult s request gen
    (reply.map fun _ => (), s')
  | .completeRouteOnly request =>
    let (reply, s') := completeRouteOnly routed s request gen
    (reply.map fun _ => (), s')
  | .delegated command =>
    let (reply, stores) := Memory.exec s.toMemoryStores gen command
    (reply.map fun _ => (), { s with toMemoryStores := stores })

def execAll (routed : Bool) (s : TurnStores) (calls : List (Generated × Call)) : TurnStores :=
  calls.foldl (fun s call => (exec routed s call.1 call.2).2) s

end OpenIntentRouter.Services.Turns
