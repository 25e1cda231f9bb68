import Mathlib.Order.Bounds.Basic
import OpenIntentRouter.Candidates.Projections
import OpenIntentRouter.Core.LTS

/-!
# The order of structured events

Workers process the structured jobs of one plan or run. `process` takes the
candidates of a job one after another: it evaluates the policy, holds back what
is not newer than the memory, and applies the decision. Each of the three is a
step, others may commit in between, and an attempt may fail anywhere; its job is
then processed again. Any number of attempts at a job may be under way.

* `Current`: the memory of the object shows the event of a job;
* `Intends`: a decision under way adds the memory, or updates what shows an
  older event, or writes nothing;
* `source_order_greatest`: the order never decreases, and in the end it is the
  largest of those whose candidates the policy accepted;
* `ObjectJobs.race`: two workers evaluate before either writes, the newer job is
  applied first and the check holds the older back.

The results take jobs that the publisher makes of one plan or run, and assume:
publisher and policy share the Python tables and the hash, the thresholds are at
most 1 (`Thresholds`), numbers print as numerals, jobs with one id are
one job, and the hash tells the texts of the ids apart (`Target.DigestsTell`).
-/
namespace OpenIntentRouter.Formation.SourceOrder

open Core Core.Except Core.Text Schemas Services Repositories.MemoryIndex Candidates

/-! ## Workers -/

/-- mirrors app/services/memory_integration.py:290-309 -/
structure MemoryFormationProcessor where
  policy : MemoryCandidatePolicy
  lifecycle : MemoryLifecycleService

inductive Stage where
  | ready
  | evaluated (decision : CandidatePolicyResult)
  | checked (decision : CandidatePolicyResult)

/-- A call of `process`, with the candidates that are left. -/
structure Attempt where
  job : StructuredJob
  candidates : List FormationCandidate
  stage : Stage

/-- The store, the attempts under way, the jobs whose candidate the policy accepted in some
attempt, and those processed to the end. -/
structure State where
  store : MemoryStore
  workers : Nat → Option Attempt
  accepted : List StructuredJob
  processed : List StructuredJob

instance : DecidablePred Accepts := fun _ => inferInstanceAs (Decidable (_ ∧ _))

def State.put (s : State) (worker : Nat) (attempt : Option Attempt) : State :=
  { s with workers := Function.update s.workers worker attempt }

def State.evaluated (s : State) (worker : Nat) (attempt : Attempt)
    (decision : CandidatePolicyResult) : State :=
  { s.put worker (some { attempt with stage := .evaluated decision }) with
    accepted := if Accepts decision then attempt.job :: s.accepted else s.accepted }

/-- A step of `process` for one of the jobs, which are given as they were published: what a
claim or a retry changes of a job is not read. The clock and what the verifier finds are
arbitrary.
mirrors app/services/memory_integration.py:311-362 (`process`, `execute_lifecycle` set) -/
inductive Step (processor : MemoryFormationProcessor) (jobs : List StructuredJob) (s : State)
    (worker : Nat) : State → Prop where
  | start {job : StructuredJob} {candidates : List FormationCandidate} :
    s.workers worker = none → job ∈ jobs →
    job.command.candidates.mapM (withStructuredSource · job) = .ok candidates →
    Step processor jobs s worker (s.put worker (some ⟨job, candidates, .ready⟩))
  | evaluate {job : StructuredJob} {candidate : FormationCandidate}
      {rest : List FormationCandidate} {decision : CandidatePolicyResult} {now now' : Instant}
      {reads' : Reads} {reply : VerifierReply} :
    s.workers worker = some ⟨job, candidate :: rest, .ready⟩ →
    processor.policy.evaluate now now' (storeReads s.store now) reads' reply job.toFormationJob
      candidate [] = .ok decision →
    Step processor jobs s worker (s.evaluated worker ⟨job, candidate :: rest, .ready⟩ decision)
  | check {job : StructuredJob} {candidates : List FormationCandidate}
      {decision decision' : CandidatePolicyResult} {now : Instant} :
    s.workers worker = some ⟨job, candidates, .evaluated decision⟩ →
    suppressStaleStructuredDecision (storeReads s.store now) job decision = .ok decision' →
    Step processor jobs s worker (s.put worker (some ⟨job, candidates, .checked decision'⟩))
  | apply {job : StructuredJob} {candidate : FormationCandidate} {rest : List FormationCandidate}
      {decision : CandidatePolicyResult} {now : Instant} {result : MemoryLifecycleResult}
      {store' : MemoryStore} :
    s.workers worker = some ⟨job, candidate :: rest, .checked decision⟩ →
    processor.lifecycle.apply decision now s.store = .ok (result, store') →
    Step processor jobs s worker
      { s.put worker (some ⟨job, rest, .ready⟩) with store := store' }
  | finish {job : StructuredJob} :
    s.workers worker = some ⟨job, [], .ready⟩ →
    Step processor jobs s worker { s.put worker none with processed := job :: s.processed }
  | fail {attempt : Attempt} :
    s.workers worker = some attempt → Step processor jobs s worker (s.put worker none)

def Initial (memoryKey : String) (s : State) : Prop :=
  (∀ item ∈ s.store.items.values, item.memoryKey ≠ some memoryKey) ∧
    (∀ worker, s.workers worker = none) ∧ s.accepted = [] ∧ s.processed = []

def system (processor : MemoryFormationProcessor) (jobs : List StructuredJob) (memoryKey : String) :
    LTS State Nat where
  init := Initial memoryKey
  step s worker s' := Step processor jobs s worker s'

def currentOrder (tenantId userId memoryKey : String) (s : State) : Option Int :=
  (s.store.getCurrentByKey tenantId userId "task_memory" memoryKey).bind appliedOrder

/-! ## The jobs of an object -/

inductive Source where
  | plan (planId : String)
  | run (runId : String)

def Source.memoryKey (projector : StructuredEventProjector) (tenantId userId : String) :
    Source → Except StoreError String
  | .plan planId => projector.memoryKey tenantId userId "plan" planId "task_status"
  | .run runId => projector.memoryKey tenantId userId "run" runId "execution_status"

inductive Published (publisher : StructuredFormationPublisher) (tenantId userId : String) :
    Source → StructuredJob → Prop where
  | plan {plan : Plan} {eventType : PlanProjectionEvent} {eventId version : String}
      {lastActivityAt : Instant} {modelSummary : Option Json} {projection : StructuredProjection}
      (now : Instant) (sessionId : Option String) (order : Nat) :
    publisher.projector.projectPlan plan eventType eventId version lastActivityAt modelSummary =
      .ok projection →
    plan.tenantId = tenantId → plan.userId = userId →
    Published publisher tenantId userId (.plan plan.planId)
      (publisher.publish now projection sessionId order)
  | run {run : AgentRun} {eventType : RunProjectionEvent} {eventId version : String}
      {modelSummary : Option Json} {projection : StructuredProjection}
      (now : Instant) (sessionId : Option String) (order : Nat) :
    publisher.projector.projectRun run eventType eventId version modelSummary = .ok projection →
    run.tenantId = some tenantId → run.userId = some userId →
    Published publisher tenantId userId (.run run.runId)
      (publisher.publish now projection sessionId order)

structure Target extends MemoryFormationProcessor where
  tenantId : String
  userId : String
  memoryKey : String

namespace Target

variable (target : Target)

structure Sends (job : StructuredJob) (candidate : FormationCandidate) : Prop where
  tenant : job.tenantId = target.tenantId
  user : job.userId = target.userId
  id : '\x1f' ∉ job.jobId.toList
  only : job.command.candidates.map (sourced · job job.command.sourceOrder) = [candidate]
  scope : candidate.scope = "task_memory"
  order : Json.field candidate.structuredValue "_formation_source_order" =
    some (.num job.command.sourceOrder)
  canonical : Canonical target.policy.py job.toFormationJob candidate target.memoryKey

end Target

theorem jobId_separator {py : Python} {key : String} :
    '\x1f' ∉ ("mfjob_struct_" ++ String.ofList ((py.sha256 key).toList.take 32)).toList := by
  rw [String.toList_append, List.mem_append, not_or]
  refine ⟨by decide, fun hmem => ?_⟩
  rw [String.toList_ofList] at hmem
  have hhex := py.sha256_hex key _ (List.mem_of_mem_take hmem)
  revert hhex
  decide

theorem Published.sends {publisher : StructuredFormationPublisher} {target : Target}
    {source : Source} {job : StructuredJob} (hpy : publisher.projector.py = target.policy.py)
    (hkey : source.memoryKey publisher.projector target.tenantId target.userId =
      .ok target.memoryKey)
    (h : Published publisher target.tenantId target.userId source job) :
    ∃ candidate, target.Sends job candidate := by
  have hsends : ∀ {projection : StructuredProjection} {value : JsonDict}
      {candidate : FormationCandidate} (now : Instant) (sessionId : Option String) (order : Nat),
      StructuredEventProjector.ValidProjection publisher.projector projection →
      StructuredEventProjector.ProjectsOne projection target.tenantId target.userId
        target.memoryKey value candidate →
      target.Sends (publisher.publish now projection sessionId order)
        (sourced candidate (publisher.publish now projection sessionId order) order) := by
    intro projection value candidate now sessionId order hvalid hone
    have hmem : candidate ∈ projection.candidates := by
      rw [hone.only]
      exact List.mem_cons_self
    obtain ⟨memoryKey, hcanonical, hhint⟩ := canonical_of_valid now sessionId order hvalid hmem
    obtain rfl : memoryKey = target.memoryKey := by
      rw [hone.key, Option.some.injEq] at hhint
      exact hhint.symm
    exact
      { tenant := hone.tenant
        user := hone.user
        id := jobId_separator
        only := by
          show projection.candidates.map _ = _
          rw [hone.only]
          rfl
        scope := hone.scope
        order := field_sourceOrder _ _ _
        canonical := hpy ▸ hcanonical }
  cases h with
  | plan now sessionId order hproject htenant huser =>
    obtain ⟨memoryKey, candidate, hbuilt, hone⟩ :=
      StructuredEventProjector.projectPlan_one hproject
    rw [htenant, huser] at hbuilt hone
    obtain rfl : memoryKey = target.memoryKey := Except.ok.inj (hbuilt.symm.trans hkey)
    exact ⟨_, hsends now sessionId order (StructuredEventProjector.projectPlan_ok hproject) hone⟩
  | run now sessionId order hproject htenant huser =>
    obtain ⟨memoryKey, candidate, hbuilt, hone⟩ :=
      StructuredEventProjector.projectRun_one htenant huser hproject
    obtain rfl : memoryKey = target.memoryKey := Except.ok.inj (hbuilt.symm.trans hkey)
    exact ⟨_, hsends now sessionId order (StructuredEventProjector.projectRun_ok hproject) hone⟩

/-! ## Decisions and revisions -/

namespace Target

variable (target : Target)

def addDecision (job : StructuredJob) (candidate : FormationCandidate) : CandidatePolicyResult :=
  result target.policy.py job.toFormationJob
    (openEvaluation target.policy.py candidate target.memoryKey none)
    .add .accepted .acceptedNew "confirmed" none

/-- The decision to update the memory, which was found as `item`. -/
def updateDecision (job : StructuredJob) (candidate : FormationCandidate) (item : MemoryItem) :
    CandidatePolicyResult :=
  result target.policy.py job.toFormationJob
    (openEvaluation target.policy.py candidate target.memoryKey (some item))
    .update .accepted .acceptedUpdate "confirmed" none

/-- What the policy decides about the candidate, given the memory with the key. -/
inductive Decides (job : StructuredJob) (candidate : FormationCandidate) :
    Option MemoryItem → CandidatePolicyResult → Prop where
  | add : containsSensitiveData target.policy.py candidate = false →
    Decides job candidate none (target.addDecision job candidate)
  | update {item : MemoryItem} : containsSensitiveData target.policy.py candidate = false →
    Decides job candidate (some item) (target.updateDecision job candidate item)
  | leave {current : Option MemoryItem} {decision : CandidatePolicyResult} :
    decision.operation.operation = .noop ∨ decision.operation.operation = .reject →
    (containsSensitiveData target.policy.py candidate = false →
      ∃ item, current = some item ∧ shows target.policy.py candidate item = true) →
    Decides job candidate current decision

theorem decides_canonicalDecision (job : StructuredJob) (candidate : FormationCandidate)
    (current : Option MemoryItem) :
    target.Decides job candidate current
      (canonicalDecision target.policy.py job.toFormationJob candidate target.memoryKey current) := by
  unfold canonicalDecision
  dsimp only
  by_cases hsensitive : containsSensitiveData target.policy.py candidate = true
  · rw [if_pos hsensitive]
    refine .leave (.inr rfl) fun hclean => ?_
    rw [hsensitive] at hclean
    cases hclean
  · have hclean : containsSensitiveData target.policy.py candidate = false :=
      Bool.not_eq_true _ ▸ hsensitive
    rw [if_neg hsensitive]
    cases current with
    | none => exact .add hclean
    | some item =>
      by_cases hshows : shows target.policy.py candidate item = true
      · rw [Option.any_some, if_pos hshows]
        exact .leave (.inl rfl) fun _ => ⟨item, rfl, hshows⟩
      · rw [Option.any_some, if_neg hshows]
        exact .update hclean

def operationText (job : StructuredJob) (candidate : FormationCandidate)
    (operation : MemoryOperation) (reason : MemoryFormationReasonCode) : String :=
  "\x1f".intercalate
    [job.jobId, target.memoryKey, buildCandidateHash target.policy.py candidate, operation.value,
      MemoryDecisionStatus.accepted.value, reason.value]

def operationTexts (job : StructuredJob) (candidate : FormationCandidate) : List String :=
  [target.operationText job candidate .add .acceptedNew,
    target.operationText job candidate .update .acceptedUpdate]

def revisionTexts (job : StructuredJob) (candidate : FormationCandidate) : List String :=
  [(target.addDecision job candidate).operation.operationId ++ ":revision:1",
    stableId target.policy.py.sha256 "mfop"
      (target.operationText job candidate .update .acceptedUpdate) ++ ":revision"]

def revisionIds (job : StructuredJob) (candidate : FormationCandidate) : List String :=
  (target.revisionTexts job candidate).map (stableId target.lifecycle.sha256 "mrev")

def DigestTells (sha256 : String → String) (s t : String) : Prop :=
  (sha256 s).toList.take 32 = (sha256 t).toList.take 32 → s = t

structure DigestsTell (jobs : List StructuredJob) : Prop where
  hash : ∀ {job job' candidate candidate'}, job ∈ jobs → job' ∈ jobs →
    target.Sends job candidate → target.Sends job' candidate' →
    DigestsApart target.policy.py candidate candidate'
  operation : ∀ {job job' candidate candidate'}, job ∈ jobs → job' ∈ jobs →
    target.Sends job candidate → target.Sends job' candidate' → job ≠ job' →
    ∀ s ∈ target.operationTexts job candidate, ∀ t ∈ target.operationTexts job' candidate',
      DigestTells target.policy.py.sha256 s t
  revision : ∀ {job job' candidate candidate'}, job ∈ jobs → job' ∈ jobs →
    target.Sends job candidate → target.Sends job' candidate' → job ≠ job' →
    ∀ s ∈ target.revisionTexts job candidate, ∀ t ∈ target.revisionTexts job' candidate',
      DigestTells target.lifecycle.sha256 s t

end Target

theorem stableId_inj {sha256 : String → String} {kind v w : String}
    (h : stableId sha256 kind v = stableId sha256 kind w) :
    (sha256 v).toList.take 32 = (sha256 w).toList.take 32 := by
  have htext := congrArg String.toList h
  simp only [stableId, String.toList_append, List.append_assoc, String.toList_ofList] at htext
  exact List.append_cancel_left (List.append_cancel_left htext)

section Revisions

variable {target : Target} {jobs : List StructuredJob} {job job' : StructuredJob}
  {candidate candidate' : FormationCandidate}

theorem Target.Sends.unique (h : target.Sends job candidate) (h' : target.Sends job candidate') :
    candidate = candidate' :=
  List.singleton_inj.1 (h.only.symm.trans h'.only)

theorem Target.DigestsTell.operation_apart (hd : target.DigestsTell jobs) (hjob : job ∈ jobs)
    (hjob' : job' ∈ jobs) (hs : target.Sends job candidate) (hs' : target.Sends job' candidate')
    {s t : String} (hmem : s ∈ target.operationTexts job candidate)
    (hmem' : t ∈ target.operationTexts job' candidate')
    (h : stableId target.policy.py.sha256 "mfop" s = stableId target.policy.py.sha256 "mfop" t) :
    job.jobId = job'.jobId := by
  by_contra hne
  have hjobs : job ≠ job' := fun heq => hne (by rw [heq])
  have htext := hd.operation hjob hjob' hs hs' hjobs s hmem t hmem' (stableId_inj h)
  simp only [Target.operationTexts, List.mem_cons, List.not_mem_nil, or_false] at hmem hmem'
  have hhead : ∀ {operation operation' reason reason'},
      target.operationText job candidate operation reason =
        target.operationText job' candidate' operation' reason' → job.jobId = job'.jobId :=
    fun heq => intercalate_head_inj hs.id hs'.id heq
  rcases hmem with rfl | rfl <;> rcases hmem' with rfl | rfl <;> exact hne (hhead htext)

theorem Target.DigestsTell.mono {jobs' : List StructuredJob} (hd : target.DigestsTell jobs')
    (hsub : ∀ job ∈ jobs, job ∈ jobs') : target.DigestsTell jobs where
  hash hjob hjob' := hd.hash (hsub _ hjob) (hsub _ hjob')
  operation hjob hjob' := hd.operation (hsub _ hjob) (hsub _ hjob')
  revision hjob hjob' := hd.revision (hsub _ hjob) (hsub _ hjob')

theorem Target.DigestsTell.revision_apart (hd : target.DigestsTell jobs) (hjob : job ∈ jobs)
    (hjob' : job' ∈ jobs) (hs : target.Sends job candidate) (hs' : target.Sends job' candidate')
    {id : String} (hid : id ∈ target.revisionIds job candidate)
    (hid' : id ∈ target.revisionIds job' candidate') : job.jobId = job'.jobId := by
  by_contra hne
  have hjobs : job ≠ job' := fun heq => hne (by rw [heq])
  obtain ⟨s, hmem, rfl⟩ := List.mem_map.1 hid
  obtain ⟨t, hmem', heq⟩ := List.mem_map.1 hid'
  have htext := hd.revision hjob hjob' hs hs' hjobs s hmem t hmem' (stableId_inj heq.symm)
  have hcut : ∀ {a b suffix : String}, a ++ suffix = b ++ suffix → a = b := by
    intro a b suffix happend
    have hlist := congrArg String.toList happend
    rw [String.toList_append, String.toList_append] at hlist
    exact String.toList_inj.1 (List.append_cancel_right hlist)
  have hsuffix : ∀ a b : String, a ++ ":revision:1" ≠ b ++ ":revision" := by
    intro a b happend
    have hlast := congrArg (fun s => s.toList.getLast?) happend
    simp [String.toList_append] at hlast
  simp only [Target.revisionTexts, List.mem_cons, List.not_mem_nil, or_false] at hmem hmem'
  have hadd : target.operationText job candidate .add .acceptedNew ∈
      target.operationTexts job candidate := List.mem_cons_self
  have hadd' : target.operationText job' candidate' .add .acceptedNew ∈
      target.operationTexts job' candidate' := List.mem_cons_self
  have hupdate : target.operationText job candidate .update .acceptedUpdate ∈
      target.operationTexts job candidate := List.mem_cons_of_mem _ List.mem_cons_self
  have hupdate' : target.operationText job' candidate' .update .acceptedUpdate ∈
      target.operationTexts job' candidate' := List.mem_cons_of_mem _ List.mem_cons_self
  rcases hmem with rfl | rfl <;> rcases hmem' with rfl | rfl
  · exact hne (hd.operation_apart hjob hjob' hs hs' hadd hadd' (hcut htext))
  · exact hsuffix _ _ htext
  · exact hsuffix _ _ htext.symm
  · exact hne (hd.operation_apart hjob hjob' hs hs' hupdate hupdate' (hcut htext))

end Revisions

/-! ## The memory of the object -/

namespace Target

variable (target : Target)

def Fresh (store : MemoryStore) : Prop :=
  ∀ item ∈ store.items.values, item.memoryKey ≠ some target.memoryKey

/-- The memory shows the event of the job. It is the only one with the key, and none of its
revisions has a later order. -/
structure Current (store : MemoryStore) (job : StructuredJob) (candidate : FormationCandidate)
    (item : MemoryItem) : Prop where
  sends : target.Sends job candidate
  stored : store.items.get? item.memoryId = some item
  key : item.memoryKey = some target.memoryKey
  unique : ∀ other ∈ store.items.values, other.memoryKey = some target.memoryKey → other = item
  owned : ownedBy target.tenantId target.userId item = true
  scope : item.scope = "task_memory"
  active : item.lifecycleStatus = .active
  written : WrittenFor target.policy.py candidate item
  revision : ∃ id ∈ target.revisionIds job candidate, item.currentRevisionId = some id
  history : ∀ revision ∈ store.history item.memoryId, ∃ n : Nat, n ≤ job.command.sourceOrder ∧
    Json.field revision.structuredValue "_formation_source_order" = some (.num n)

def AtLeast (store : MemoryStore) (order : Nat) : Prop :=
  ∃ job candidate item, target.Current store job candidate item ∧ order ≤ job.command.sourceOrder

end Target

section Current

variable {target : Target} {store : MemoryStore} {job job' : StructuredJob}
  {candidate candidate' : FormationCandidate} {item item' : MemoryItem}

theorem Target.Fresh.getCurrentByKey (h : target.Fresh store) :
    store.getCurrentByKey target.tenantId target.userId "task_memory" target.memoryKey = none :=
  getCurrentByKey_none.2 fun item hmem _ _ hkey => absurd hkey (h item hmem)

theorem Target.Current.mem (h : target.Current store job candidate item) :
    item ∈ store.items.values :=
  (Table.mem_values store.items item).2 h.stored

theorem Target.Current.getCurrentByKey (h : target.Current store job candidate item) :
    store.getCurrentByKey target.tenantId target.userId "task_memory" target.memoryKey =
      some item := by
  cases hget : store.getCurrentByKey target.tenantId target.userId "task_memory"
      target.memoryKey with
  | none => exact absurd h.active (getCurrentByKey_none.1 hget item h.mem h.owned h.scope h.key)
  | some other =>
    obtain ⟨hmem, -, -, hkey, -⟩ := getCurrentByKey_some hget
    rw [h.unique other hmem hkey]

theorem Target.Current.appliedOrder (h : target.Current store job candidate item) :
    appliedOrder item = some (job.command.sourceOrder : Int) := by
  unfold Services.appliedOrder
  rw [h.written.value, h.sends.order]
  simp

theorem Target.Current.item_eq (h : target.Current store job candidate item)
    (h' : target.Current store job' candidate' item') : item' = item :=
  h.unique item' h'.mem h'.key

theorem Target.Current.order_eq (h : target.Current store job candidate item)
    (h' : target.Current store job' candidate' item') :
    job'.command.sourceOrder = job.command.sourceOrder := by
  have horder := h'.appliedOrder
  rw [h.item_eq h', h.appliedOrder, Option.some.injEq] at horder
  omega

theorem Target.Current.not_fresh (h : target.Current store job candidate item) :
    ¬target.Fresh store :=
  fun hfresh => hfresh item h.mem h.key

theorem Target.Current.of_tables {store' : MemoryStore}
    (h : target.Current store job candidate item) (hitems : store'.items = store.items)
    (hrevisions : store'.revisions = store.revisions) :
    target.Current store' job candidate item := by
  have hhistory : store'.history item.memoryId = store.history item.memoryId := by
    rw [MemoryStore.history, hrevisions, MemoryStore.history]
  exact
    { h with
      stored := hitems ▸ h.stored
      unique := hitems ▸ h.unique
      history := hhistory ▸ h.history }

/-- A commit whose records are there already was made by an event that the memory has passed. -/
theorem Target.Current.order_le_of_replay (h : target.Current store job' candidate' item)
    (hsends : target.Sends job candidate) {revision : MemoryRevision} {event : MemoryEvent}
    {index : MemoryIndexOperation} {validateItem : MemoryItem → Checked} {commit : Commit}
    (hreplay : store.loadReplay event revision index validateItem = .ok (some commit))
    (hid : revision.memoryId = item.memoryId)
    (hvalue : revision.structuredValue = candidate.structuredValue) :
    job.command.sourceOrder ≤ job'.command.sourceOrder := by
  obtain ⟨-, -, hfound, -, -, hvalid, -⟩ := loadReplay_some.1 hreplay
  rw [hid] at hfound
  obtain ⟨n, hle, hfield⟩ := h.history _ (List.mem_of_find?_eq_some hfound)
  have hchecks := ensure_eq_ok.1 hvalid
  simp only [Bool.and_eq_true, decide_eq_true_eq] at hchecks
  have hsame : JsonDict.pyEq commit.revision.structuredValue revision.structuredValue = true :=
    hchecks.1.1.1.1.2
  rw [hvalue] at hsame
  obtain ⟨other, hother, heq⟩ := JsonDict.field_of_pyEq hsame hfield
  rw [hsends.order, Option.some.injEq] at hother
  subst hother
  have hnum : (n : Rat) = job.command.sourceOrder := of_decide_eq_true heq
  have horder : n = job.command.sourceOrder := by exact_mod_cast hnum
  omega

/-- A commit makes the memory show the event of its job. -/
theorem Target.current_of_write (target : Target) {revisions : List MemoryRevision}
    {event : MemoryEvent} {index : MemoryIndexOperation} (hsends : target.Sends job candidate)
    (hkey : item.memoryKey = some target.memoryKey)
    (hothers : ∀ other ∈ store.items.values, other.memoryKey = some target.memoryKey →
      other.memoryId = item.memoryId)
    (howned : ownedBy target.tenantId target.userId item = true) (hscope : item.scope = "task_memory")
    (hactive : item.lifecycleStatus = .active)
    (hwritten : WrittenFor target.policy.py candidate item)
    (hrevision : ∃ id ∈ target.revisionIds job candidate, item.currentRevisionId = some id)
    (hhistory : ∀ revision ∈ revisions, ∃ n : Nat, n ≤ job.command.sourceOrder ∧
      Json.field revision.structuredValue "_formation_source_order" = some (.num n)) :
    target.Current (store.write item revisions event index) job candidate item where
  sends := hsends
  stored := Table.get?_put_self _ _
  key := hkey
  unique other hmem hother := by
    have hget := (Table.mem_values _ _).1 hmem
    rcases Table.mem_values_put hmem with rfl | hold
    · rfl
    · rw [hothers other hold hother] at hget
      exact Option.some.inj (hget.symm.trans (Table.get?_put_self _ _))
  owned := howned
  scope := hscope
  active := hactive
  written := hwritten
  revision := hrevision
  history := by
    have hset : (store.write item revisions event index).history item.memoryId = revisions := by
      unfold MemoryStore.history MemoryStore.write
      simp
    rw [hset]
    exact hhistory

/-! ## What a decision does -/

variable {now : Instant} {store' : MemoryStore} {result : MemoryLifecycleResult}

/-- An ADD that is applied is the first, or one whose event the memory has passed. -/
theorem apply_addDecision (hsends : target.Sends job candidate)
    (hshown : target.Fresh store ∨ ∃ job' candidate' item,
      target.Current store job' candidate' item)
    (h : target.lifecycle.apply (target.addDecision job candidate) now store =
      .ok (result, store')) :
    store' = store ∧ target.AtLeast store job.command.sourceOrder ∨
      target.Fresh store ∧ ∃ item, target.Current store' job candidate item := by
  obtain ⟨commit, hadd⟩ := MemoryLifecycleService.apply_add rfl h
  have hcommit := MemoryLifecycleService.add_ok hadd
  rcases commitAdd_ok hcommit with ⟨hreplay, hsame⟩ | ⟨haccepted, -, rfl⟩
  · have hload := commitAdd_replay hcommit hreplay
    obtain ⟨-, hstored, -, -, -, -, -, hitem, -⟩ := loadReplay_some.1 hload
    have hmem : commit.item ∈ store.items.values := by
      rw [Table.mem_values, memoryId_of_get? hstored]
      exact hstored
    have hchecks := ensure_eq_ok.1 hitem
    simp only [Bool.and_eq_true, decide_eq_true_eq] at hchecks
    have hkey : commit.item.memoryKey = some target.memoryKey := hchecks.1.1.2
    rcases hshown with hfresh | ⟨shown, shownCandidate, item, hcurrent⟩
    · exact absurd hkey (hfresh _ hmem)
    · have hid := memoryId_of_get? hstored
      rw [hcurrent.unique _ hmem hkey] at hid
      exact .inl ⟨hsame, shown, shownCandidate, item, hcurrent,
        hcurrent.order_le_of_replay hsends hload hid.symm rfl⟩
  · have hfresh : target.Fresh store := by
      rcases hshown with hfresh | ⟨shown, shownCandidate, item, hcurrent⟩
      · exact hfresh
      · have howned := hcurrent.owned
        simp only [ownedBy, Bool.and_eq_true, decide_eq_true_eq] at howned
        refine absurd hcurrent.key (haccepted.keyFree item hcurrent.mem hcurrent.active ?_ ?_ ?_ ?_)
        · exact howned.1.1.1.trans (congrArg some hsends.tenant.symm)
        · exact howned.1.1.2
        · exact howned.1.2.trans hsends.user.symm
        · exact hcurrent.scope.trans hsends.scope.symm
    refine .inr ⟨hfresh, _, target.current_of_write hsends rfl ?_ ?_ hsends.scope rfl ⟨rfl, rfl⟩
      ⟨_, List.mem_cons_self, rfl⟩ ?_⟩
    · exact fun other hmem hother => absurd hother (hfresh other hmem)
    · simp [ownedBy, addedItem, MemoryLifecycleService.newItem, Target.addDecision, Services.result,
        hsends.tenant, hsends.user]
    · intro revision hmem
      rw [List.mem_singleton] at hmem
      subst hmem
      exact ⟨_, le_rfl, hsends.order⟩

/-- An UPDATE that is applied found the revision that it was decided for, or is one whose event
the memory has passed. -/
theorem apply_updateDecision {found : MemoryItem} (hsends : target.Sends job candidate)
    (hcurrent : target.Current store job' candidate' item) (hid : item.memoryId = found.memoryId)
    (hle : item.currentRevisionId = found.currentRevisionId →
      job'.command.sourceOrder ≤ job.command.sourceOrder)
    (h : target.lifecycle.apply (target.updateDecision job candidate found) now store =
      .ok (result, store')) :
    store' = store ∧ job.command.sourceOrder ≤ job'.command.sourceOrder ∨
      item.currentRevisionId = found.currentRevisionId ∧
        ∃ item', target.Current store' job candidate item' ∧ item'.memoryId = item.memoryId := by
  obtain ⟨commit, hupdate⟩ := MemoryLifecycleService.apply_update rfl h
  obtain ⟨memoryId, ⟨hnamed, -⟩, hcommit⟩ := MemoryLifecycleService.update_ok hupdate
  obtain rfl : found.memoryId = memoryId := Option.some.inj hnamed
  rcases commitUpdate_ok hcommit with ⟨hreplay, hsame⟩ | ⟨stored, haccepted, -, rfl⟩
  · have hload := commitUpdate_replay hcommit hreplay
    exact .inl ⟨hsame, hcurrent.order_le_of_replay hsends hload hid.symm rfl⟩
  · have hstored : stored = item := by
      have hget := haccepted.stored
      have hsame : found.memoryId = stored.memoryId := Option.some.inj haccepted.named
      rw [← hsame, ← hid, hcurrent.stored] at hget
      exact (Option.some.inj hget).symm
    subst hstored
    have hrevision : stored.currentRevisionId = found.currentRevisionId := haccepted.current
    refine .inr ⟨hrevision, _, target.current_of_write hsends hcurrent.key ?_ ?_ hcurrent.scope
      hcurrent.active ⟨rfl, rfl⟩ ⟨_, List.mem_cons_of_mem _ List.mem_cons_self, rfl⟩ ?_, rfl⟩
    · intro other hmem hother
      rw [hcurrent.unique other hmem hother]
      rfl
    · exact hcurrent.owned
    · intro revision hmem
      rcases List.mem_append.1 hmem with hold | hnew
      · obtain ⟨n, hn, hfield⟩ := hcurrent.history revision hold
        exact ⟨n, hn.trans (hle hrevision), hfield⟩
      · rw [List.mem_singleton] at hnew
        subst hnew
        exact ⟨_, le_rfl, hsends.order⟩

end Current

/-! ## Attempts -/

variable {decision decision' : CandidatePolicyResult} {attempt first second : Option Attempt}
  {now : Instant} {store : MemoryStore} {accepted processed : List StructuredJob}
  {eventType : RunProjectionEvent}

section Attempts

/-- The memory has passed the job's event, unless the policy refuses its candidate. -/
def Dealt (target : Target) (store : MemoryStore) (job : StructuredJob) : Prop :=
  ∀ candidate, target.Sends job candidate →
    containsSensitiveData target.policy.py candidate = false →
    target.AtLeast store job.command.sourceOrder

/-- What a decision under way will do: add the memory, update a revision that an earlier job
wrote, or nothing. Once it is checked (`newer`), the earlier job has an earlier order. -/
inductive Intends (target : Target) (jobs : List StructuredJob) (store : MemoryStore)
    (accepted : List StructuredJob) (newer : Bool) (job : StructuredJob)
    (candidate : FormationCandidate) : CandidatePolicyResult → Prop where
  | add : job ∈ accepted →
    Intends target jobs store accepted newer job candidate (target.addDecision job candidate)
  | update {earlier shown : StructuredJob} {earlierCandidate shownCandidate : FormationCandidate}
      {found item : MemoryItem} {id : String} :
    job ∈ accepted → earlier ∈ jobs → target.Sends earlier earlierCandidate →
    id ∈ target.revisionIds earlier earlierCandidate → found.currentRevisionId = some id →
    target.Current store shown shownCandidate item → item.memoryId = found.memoryId →
    earlier.command.sourceOrder ≤ shown.command.sourceOrder →
    (newer = true → earlier.command.sourceOrder < job.command.sourceOrder) →
    Intends target jobs store accepted newer job candidate
      (target.updateDecision job candidate found)
  | leave {decision : CandidatePolicyResult} :
    decision.operation.operation = .noop ∨ decision.operation.operation = .reject →
    Dealt target store job → Intends target jobs store accepted newer job candidate decision

inductive Sound (target : Target) (jobs : List StructuredJob) (store : MemoryStore)
    (accepted : List StructuredJob) : Attempt → Prop where
  | ready {job : StructuredJob} {candidate : FormationCandidate} :
    job ∈ jobs → target.Sends job candidate →
    Sound target jobs store accepted ⟨job, [candidate], .ready⟩
  | evaluated {job : StructuredJob} {candidate : FormationCandidate}
      {decision : CandidatePolicyResult} :
    job ∈ jobs → target.Sends job candidate →
    Intends target jobs store accepted false job candidate decision →
    Sound target jobs store accepted ⟨job, [candidate], .evaluated decision⟩
  | checked {job : StructuredJob} {candidate : FormationCandidate}
      {decision : CandidatePolicyResult} :
    job ∈ jobs → target.Sends job candidate →
    Intends target jobs store accepted true job candidate decision →
    Sound target jobs store accepted ⟨job, [candidate], .checked decision⟩
  | surpassed {job : StructuredJob} :
    Dealt target store job → Sound target jobs store accepted ⟨job, [], .ready⟩

structure Later (target : Target) (s s' : State) : Prop where
  grows : ∀ {job candidate item}, target.Current s.store job candidate item →
    ∃ job' candidate' item', target.Current s'.store job' candidate' item' ∧
      item'.memoryId = item.memoryId ∧ job.command.sourceOrder ≤ job'.command.sourceOrder
  accepted : ∀ job ∈ s.accepted, job ∈ s'.accepted

structure Inv (target : Target) (jobs : List StructuredJob) (s : State) : Prop where
  shown : target.Fresh s.store ∨ ∃ job ∈ s.accepted, ∃ candidate item,
    target.Current s.store job candidate item
  accepted : ∀ job ∈ s.accepted, job ∈ jobs ∧ ∃ candidate, target.Sends job candidate ∧
    containsSensitiveData target.policy.py candidate = false
  attempts : ∀ worker attempt, s.workers worker = some attempt →
    Sound target jobs s.store s.accepted attempt
  processed : ∀ job ∈ s.processed, Dealt target s.store job

variable {target : Target} {jobs : List StructuredJob} {s s' : State} {job : StructuredJob}
  {candidate : FormationCandidate}

theorem Inv.mono {jobs' : List StructuredJob} (hinv : Inv target jobs s)
    (hsub : ∀ job ∈ jobs, job ∈ jobs') : Inv target jobs' s := by
  have hintends : ∀ {newer job candidate decision},
      Intends target jobs s.store s.accepted newer job candidate decision →
      Intends target jobs' s.store s.accepted newer job candidate decision := by
    intro newer job candidate decision h
    cases h with
    | add haccepted => exact .add haccepted
    | update haccepted hearlier hsends hid hfound hcurrent hitem hle hnewer =>
      exact .update haccepted (hsub _ hearlier) hsends hid hfound hcurrent hitem hle hnewer
    | leave hop hdealt => exact .leave hop hdealt
  refine ⟨hinv.shown, fun job hjob => (hinv.accepted job hjob).imp_left (hsub job), ?_,
    hinv.processed⟩
  intro worker attempt hworker
  cases hinv.attempts worker attempt hworker with
  | ready hjob hsends => exact .ready (hsub _ hjob) hsends
  | evaluated hjob hsends h => exact .evaluated (hsub _ hjob) hsends (hintends h)
  | checked hjob hsends h => exact .checked (hsub _ hjob) hsends (hintends h)
  | surpassed hdealt => exact .surpassed hdealt

theorem Later.atLeast (h : Later target s s') {order : Nat} (hat : target.AtLeast s.store order) :
    target.AtLeast s'.store order := by
  obtain ⟨job, candidate, item, hcurrent, hle⟩ := hat
  obtain ⟨job', candidate', item', hcurrent', -, hgrows⟩ := h.grows hcurrent
  exact ⟨job', candidate', item', hcurrent', hle.trans hgrows⟩

theorem Later.dealt (h : Later target s s') (hdealt : Dealt target s.store job) :
    Dealt target s'.store job :=
  fun candidate hsends hclean => h.atLeast (hdealt candidate hsends hclean)

theorem Later.intends (h : Later target s s') {newer : Bool}
    (hi : Intends target jobs s.store s.accepted newer job candidate decision) :
    Intends target jobs s'.store s'.accepted newer job candidate decision := by
  cases hi with
  | add haccepted => exact .add (h.accepted job haccepted)
  | update haccepted hearlier hsends hid hfound hcurrent hitem hle hnewer =>
    obtain ⟨job', candidate', item', hcurrent', hsame, hgrows⟩ := h.grows hcurrent
    exact .update (h.accepted job haccepted) hearlier hsends hid hfound hcurrent'
      (hsame.trans hitem) (hle.trans hgrows) hnewer
  | leave hop hdealt => exact .leave hop (h.dealt hdealt)

theorem Later.sound (h : Later target s s') {attempt : Attempt}
    (hs : Sound target jobs s.store s.accepted attempt) :
    Sound target jobs s'.store s'.accepted attempt := by
  cases hs with
  | ready hjob hsends => exact .ready hjob hsends
  | evaluated hjob hsends hi => exact .evaluated hjob hsends (h.intends hi)
  | checked hjob hsends hi => exact .checked hjob hsends (h.intends hi)
  | surpassed hdealt => exact .surpassed (h.dealt hdealt)

theorem Later.trans {a b c : State} (h : Later target a b) (h' : Later target b c) :
    Later target a c where
  grows {job candidate item} hcurrent := by
    obtain ⟨job', candidate', item', hcurrent', hid, hle⟩ := h.grows hcurrent
    obtain ⟨job'', candidate'', item'', hcurrent'', hid', hle'⟩ := h'.grows hcurrent'
    exact ⟨job'', candidate'', item'', hcurrent'', hid'.trans hid, hle.trans hle'⟩
  accepted job hjob := h'.accepted job (h.accepted job hjob)

theorem Later.of_same (hstore : s'.store = s.store) (haccepted : ∀ job ∈ s.accepted, job ∈ s'.accepted) :
    Later target s s' where
  grows {job candidate item} hcurrent :=
    ⟨job, candidate, item, by rw [hstore]; exact hcurrent, rfl, le_rfl⟩
  accepted := haccepted

/-- A step of one worker: the others' attempts stay sound. -/
theorem Inv.later (hinv : Inv target jobs s) (hlater : Later target s s') {worker : Nat}
    {attempt : Option Attempt} (hworkers : s'.workers = Function.update s.workers worker attempt)
    (hattempt : ∀ a, attempt = some a → Sound target jobs s'.store s'.accepted a)
    (hshown : target.Fresh s'.store ∨ ∃ job ∈ s'.accepted, ∃ candidate item,
      target.Current s'.store job candidate item)
    (haccepted : ∀ job ∈ s'.accepted, job ∈ s.accepted ∨ job ∈ jobs ∧ ∃ candidate,
      target.Sends job candidate ∧ containsSensitiveData target.policy.py candidate = false)
    (hprocessed : ∀ job ∈ s'.processed, job ∈ s.processed ∨ Dealt target s'.store job) :
    Inv target jobs s' where
  shown := hshown
  accepted job hjob := (haccepted job hjob).elim (hinv.accepted job) id
  attempts w a ha := by
    rw [hworkers] at ha
    by_cases hw : w = worker
    · subst hw
      rw [Function.update_self] at ha
      exact hattempt a ha
    · rw [Function.update_of_ne hw] at ha
      exact hlater.sound (hinv.attempts w a ha)
  processed job hjob :=
    (hprocessed job hjob).elim (fun hold => hlater.dealt (hinv.processed job hold)) id

/-- A step of a worker that changes its own attempt only. -/
theorem Inv.put (hinv : Inv target jobs s) (worker : Nat)
    (hattempt : ∀ a, attempt = some a → Sound target jobs s.store s.accepted a) :
    Inv target jobs (s.put worker attempt) ∧ Later target s (s.put worker attempt) := by
  have hlater : Later target s (s.put worker attempt) := .of_same rfl fun _ h => h
  exact ⟨hinv.later hlater rfl hattempt hinv.shown (fun _ h => .inl h) fun _ h => .inl h, hlater⟩

/-! ## Steps -/

/-- The jobs are those of one object, each under its id, and no digests collide. -/
structure ObjectJobs (target : Target) (jobs : List StructuredJob) : Prop where
  sends : ∀ job ∈ jobs, ∃ candidate, target.Sends job candidate
  ids : ∀ job ∈ jobs, ∀ job' ∈ jobs, job.jobId = job'.jobId → job = job'
  digests : target.DigestsTell jobs
  thresholds : Thresholds target.policy
  numerals : Json.Numerals target.policy.py.number

theorem Target.Sends.started {candidates : List FormationCandidate}
    (hsends : target.Sends job candidate)
    (h : job.command.candidates.mapM (withStructuredSource · job) = .ok candidates) :
    candidates = [candidate] := by
  have honly := hsends.only
  obtain ⟨raw, hraw, hsent⟩ := List.map_eq_singleton_iff.1 honly
  rw [hraw, List.mapM_cons] at h
  obtain ⟨sent, hsource, h⟩ := bind_eq_ok.1 h
  cases h
  rw [(withStructuredSource_ok hsource).1, hsent]
  rfl

/-- The policy's decision, and what the memory was when it was made. -/
theorem ObjectJobs.evaluated (hjobs : ObjectJobs target jobs) (hinv : Inv target jobs s)
    (hjob : job ∈ jobs) (hsends : target.Sends job candidate) {now' : Instant} {reads' : Reads}
    {reply : VerifierReply}
    (h : target.policy.evaluate now now' (storeReads s.store now) reads' reply job.toFormationJob
      candidate [] = .ok decision) :
    (Accepts decision → containsSensitiveData target.policy.py candidate = false) ∧
      Intends target jobs s.store (if Accepts decision then job :: s.accepted else s.accepted)
        false job candidate decision := by
  rw [evaluate_canonical hsends.canonical hjobs.thresholds, Except.ok.injEq] at h
  have hread : (storeReads s.store now).currentByKey job.tenantId job.userId candidate.scope
      target.memoryKey =
        s.store.getCurrentByKey target.tenantId target.userId "task_memory" target.memoryKey := by
    rw [hsends.tenant, hsends.user, hsends.scope]
    rfl
  rw [hread] at h
  refine ⟨fun haccepts => (canonicalDecision_accepts.1 (h ▸ haccepts)).1, ?_⟩
  have hdecides := target.decides_canonicalDecision job candidate
    (s.store.getCurrentByKey target.tenantId target.userId "task_memory" target.memoryKey)
  rw [h] at hdecides
  rcases hinv.shown with hfresh | ⟨shown, hshown, shownCandidate, item, hcurrent⟩
  · rw [hfresh.getCurrentByKey] at hdecides
    cases hdecides with
    | add hclean =>
      rw [if_pos ⟨rfl, .inl rfl⟩]
      exact .add List.mem_cons_self
    | leave hop hwhy =>
      refine .leave hop fun other hother hclean => ?_
      rw [← hsends.unique hother] at hclean
      obtain ⟨item, hnone, -⟩ := hwhy hclean
      cases hnone
  · rw [hcurrent.getCurrentByKey] at hdecides
    have hmem := (hinv.accepted shown hshown).1
    cases hdecides with
    | update hclean =>
      rw [if_pos ⟨rfl, .inr rfl⟩]
      obtain ⟨id, hid, hrevision⟩ := hcurrent.revision
      exact .update List.mem_cons_self hmem hcurrent.sends hid hrevision hcurrent rfl le_rfl
        (fun h => by cases h)
    | leave hop hwhy =>
      refine .leave hop fun other hother hclean => ?_
      rw [← hsends.unique hother] at hclean
      obtain ⟨found, hfound, hshows⟩ := hwhy hclean
      obtain rfl : item = found := Option.some.inj hfound
      have horder := order_of_shows hjobs.numerals hcurrent.written
        (hjobs.digests.hash hmem hjob hcurrent.sends hsends) hsends.order hcurrent.appliedOrder
        hshows
      exact ⟨shown, shownCandidate, item, hcurrent, by omega⟩

/-- A decision is held back exactly if the memory shows an order that is not earlier. -/
theorem suppressStale_ok {reads : Reads}
    (h : suppressStaleStructuredDecision reads job decision = .ok decision') :
    let current := reads.currentByKey decision.operation.tenantId decision.operation.userId
      decision.candidate.scope decision.operation.memoryKey
    decision' = decision ∧ (∀ item applied, current = some item → appliedOrder item = some applied →
        applied < (job.command.sourceOrder : Int)) ∨
      decision'.operation.operation = .noop ∧ ∃ item applied, current = some item ∧
        appliedOrder item = some applied ∧ (job.command.sourceOrder : Int) ≤ applied := by
  unfold suppressStaleStructuredDecision at h
  dsimp only at h ⊢
  split at h
  · next hnone =>
    cases h
    refine .inl ⟨rfl, fun item applied hitem => ?_⟩
    rw [hnone] at hitem
    cases hitem
  · next current hcurrent =>
    rw [hcurrent]
    obtain ⟨incoming, hincoming, h⟩ := bind_eq_ok.1 h
    obtain rfl : incoming = job.command.sourceOrder := by
      unfold structuredSourceOrder at hincoming
      split_ifs at hincoming
      exact (Except.ok.inj hincoming).symm
    split at h
    · next happlied =>
      cases h
      refine .inl ⟨rfl, fun item applied hitem happlied' => ?_⟩
      obtain rfl : current = item := Option.some.inj hitem
      rw [happlied] at happlied'
      cases happlied'
    · next applied happlied =>
      split_ifs at h with hlt
      · cases h
        refine .inl ⟨rfl, fun item applied' hitem happlied' => ?_⟩
        obtain rfl : current = item := Option.some.inj hitem
        rw [happlied] at happlied'
        obtain rfl : applied = applied' := Option.some.inj happlied'
        exact hlt
      · cases h
        exact .inr ⟨rfl, current, applied, rfl, happlied, Int.not_lt.1 hlt⟩

/-- A decision that passes the check is newer than what the memory shows. -/
theorem Inv.checked (hinv : Inv target jobs s) (hsends : target.Sends job candidate)
    (hi : Intends target jobs s.store s.accepted false job candidate decision)
    (h : suppressStaleStructuredDecision (storeReads s.store now) job decision = .ok decision') :
    Intends target jobs s.store s.accepted true job candidate decision' := by
  have hread : (storeReads s.store now).currentByKey job.tenantId job.userId candidate.scope
      target.memoryKey =
        s.store.getCurrentByKey target.tenantId target.userId "task_memory" target.memoryKey := by
    rw [hsends.tenant, hsends.user, hsends.scope]
    rfl
  have hstale : ∀ item applied,
      (storeReads s.store now).currentByKey job.tenantId job.userId candidate.scope
        target.memoryKey = some item →
      appliedOrder item = some applied → (job.command.sourceOrder : Int) ≤ applied →
      Dealt target s.store job := by
    intro item applied hitem happlied hle other hother hclean
    rw [hread] at hitem
    rcases hinv.shown with hfresh | ⟨shown, hshown, shownCandidate, current, hcurrent⟩
    · rw [hfresh.getCurrentByKey] at hitem
      cases hitem
    · rw [hcurrent.getCurrentByKey] at hitem
      obtain rfl : current = item := Option.some.inj hitem
      rw [hcurrent.appliedOrder] at happlied
      obtain rfl : (shown.command.sourceOrder : Int) = applied := Option.some.inj happlied
      exact ⟨shown, shownCandidate, current, hcurrent, by omega⟩
  have hcases := suppressStale_ok h
  cases hi with
  | add haccepted =>
    rcases hcases with ⟨rfl, -⟩ | ⟨hop, item, applied, hitem, happlied, hle⟩
    · exact .add haccepted
    · exact .leave (.inl hop) (hstale item applied hitem happlied hle)
  | update haccepted hearlier hwriter hid hfound hcurrent hsame hle hnewer =>
    rcases hcases with ⟨rfl, hlt⟩ | ⟨hop, item, applied, hitem, happlied, hle⟩
    · have horder := hlt _ _ (hread.trans hcurrent.getCurrentByKey) hcurrent.appliedOrder
      exact .update haccepted hearlier hwriter hid hfound hcurrent hsame hle (fun _ => by omega)
    · exact .leave (.inl hop) (hstale item applied hitem happlied hle)
  | leave hop hdealt =>
    rcases hcases with ⟨rfl, -⟩ | ⟨hnoop, -⟩
    · exact .leave hop hdealt
    · exact .leave (.inl hnoop) hdealt

/-- Applying a checked decision: the memory keeps what it shows or shows the job. -/
theorem ObjectJobs.applied (hjobs : ObjectJobs target jobs) (hinv : Inv target jobs s)
    (hsends : target.Sends job candidate) {result : MemoryLifecycleResult} {store' : MemoryStore}
    (hi : Intends target jobs s.store s.accepted true job candidate decision)
    (h : target.lifecycle.apply decision now s.store = .ok (result, store')) (worker : Nat) :
    let s' := { s.put worker (some ⟨job, [], .ready⟩) with store := store' }
    Inv target jobs s' ∧ Later target s s' := by
  intro s'
  -- the three ways in which the memory comes out of a commit
  have hsame : store'.items = s.store.items → store'.revisions = s.store.revisions →
      (Dealt target s.store job) → Inv target jobs s' ∧ Later target s s' := by
    intro hitems hrevisions hdealt
    have hlater : Later target s s' :=
      ⟨fun {shown shownCandidate item} hcurrent =>
        ⟨shown, shownCandidate, item, hcurrent.of_tables hitems hrevisions, rfl, le_rfl⟩,
        fun _ h => h⟩
    refine ⟨hinv.later hlater rfl ?_ ?_ (fun _ h => .inl h) fun _ h => .inl h, hlater⟩
    · rintro _ ⟨⟩
      exact .surpassed (hlater.dealt hdealt)
    · rcases hinv.shown with hfresh | ⟨shown, hshown, shownCandidate, item, hcurrent⟩
      · refine .inl fun item hmem => hfresh item ?_
        rw [← hitems]
        exact hmem
      · exact .inr ⟨shown, hshown, shownCandidate, item, hcurrent.of_tables hitems hrevisions⟩
  have hmoves : ∀ item', target.Current store' job candidate item' → job ∈ s.accepted →
      (∀ shown shownCandidate item, target.Current s.store shown shownCandidate item →
        item'.memoryId = item.memoryId ∧
          shown.command.sourceOrder ≤ job.command.sourceOrder) →
      Inv target jobs s' ∧ Later target s s' := by
    intro item' hcurrent' haccepted hgrows
    have hlater : Later target s s' := by
      refine ⟨fun {shown shownCandidate item} hcurrent => ?_, fun _ h => h⟩
      obtain ⟨hid, hle⟩ := hgrows shown shownCandidate item hcurrent
      exact ⟨job, candidate, item', hcurrent', hid, hle⟩
    refine ⟨hinv.later hlater rfl ?_ (.inr ⟨job, haccepted, candidate, item', hcurrent'⟩)
      (fun _ h => .inl h) fun _ h => .inl h, hlater⟩
    rintro _ ⟨⟩
    exact .surpassed fun _ _ _ => ⟨job, candidate, item', hcurrent', le_rfl⟩
  cases hi with
  | add haccepted =>
    have hshown : target.Fresh s.store ∨ ∃ job' candidate' item,
        target.Current s.store job' candidate' item :=
      hinv.shown.imp id fun ⟨shown, _, rest⟩ => ⟨shown, rest⟩
    rcases apply_addDecision hsends hshown h with ⟨rfl, hat⟩ | ⟨hfresh, item', hcurrent'⟩
    · exact hsame rfl rfl fun _ _ _ => hat
    · exact hmoves item' hcurrent' haccepted fun shown shownCandidate item hcurrent =>
        absurd hfresh hcurrent.not_fresh
  | @update earlier shown earlierCandidate shownCandidate found item id haccepted hearlier hwriter
      hid hfound hcurrent hitem hle hnewer =>
    -- the memory shows the revision that was found only if it shows the same job
    have hcas : item.currentRevisionId = found.currentRevisionId →
        shown.command.sourceOrder ≤ job.command.sourceOrder := by
      intro hrevision
      rcases hinv.shown with hfresh | ⟨last, hlast, lastCandidate, lastItem, hlastCurrent⟩
      · exact absurd hfresh hcurrent.not_fresh
      · obtain ⟨lastId, hlastId, hlastRevision⟩ := hlastCurrent.revision
        rw [← hlastCurrent.item_eq hcurrent, hrevision, hfound, Option.some.injEq] at hlastRevision
        subst hlastRevision
        have hlastJob := (hinv.accepted last hlast).1
        have hsameJob := hjobs.ids last hlastJob earlier hearlier
          (hjobs.digests.revision_apart hlastJob hearlier hlastCurrent.sends hwriter hlastId hid)
        have horder := hlastCurrent.order_eq hcurrent
        have hlt := hnewer rfl
        rw [hsameJob] at horder
        omega
    rcases apply_updateDecision hsends hcurrent hitem hcas h with
      ⟨rfl, hpassed⟩ | ⟨hrevision, item', hcurrent', hid'⟩
    · exact hsame rfl rfl fun _ _ _ => ⟨shown, shownCandidate, item, hcurrent, hpassed⟩
    · refine hmoves item' hcurrent' haccepted fun other otherCandidate otherItem hother => ?_
      have horder := hcurrent.order_eq hother
      have hle := hcas hrevision
      rw [hcurrent.item_eq hother]
      exact ⟨hid', by omega⟩
  | leave hop hdealt =>
    obtain ⟨events, hstore⟩ := MemoryLifecycleService.apply_recorded hop h
    exact hsame (by rw [hstore]) (by rw [hstore]) hdealt

/-- A step keeps the invariant and does not take the memory back. -/
theorem ObjectJobs.step (hjobs : ObjectJobs target jobs) (hinv : Inv target jobs s) {worker : Nat}
    (h : Step target.toMemoryFormationProcessor jobs s worker s') :
    Inv target jobs s' ∧ Later target s s' := by
  cases h with
  | start hfree hjob hstarted =>
    obtain ⟨candidate, hsends⟩ := hjobs.sends _ hjob
    obtain rfl := hsends.started hstarted
    refine hinv.put worker ?_
    rintro _ ⟨⟩
    exact .ready hjob hsends
  | @evaluate job candidate rest decision now now' reads' reply hworker hevaluate =>
    cases hinv.attempts worker _ hworker with
    | ready hjob hsends =>
      obtain ⟨hclean, hintends⟩ := hjobs.evaluated hinv hjob hsends hevaluate
      have hlater : Later target s
          (s.evaluated worker ⟨job, [candidate], .ready⟩ decision) := by
        refine .of_same rfl fun other hother => ?_
        unfold State.evaluated
        dsimp only
        split
        · exact List.mem_cons_of_mem _ hother
        · exact hother
      refine ⟨hinv.later hlater rfl ?_ ?_ ?_ fun _ h => .inl h, hlater⟩
      · rintro _ ⟨⟩
        exact .evaluated hjob hsends hintends
      · rcases hinv.shown with hfresh | ⟨shown, hshown, hrest⟩
        · exact .inl hfresh
        · exact .inr ⟨shown, hlater.accepted shown hshown, hrest⟩
      · intro other hother
        unfold State.evaluated at hother
        dsimp only at hother
        split at hother
        · next haccepts =>
          rcases List.mem_cons.1 hother with rfl | hold
          · exact .inr ⟨hjob, candidate, hsends, hclean haccepts⟩
          · exact .inl hold
        · exact .inl hother
  | check hworker hcheck =>
    cases hinv.attempts worker _ hworker with
    | evaluated hjob hsends hintends =>
      refine hinv.put worker ?_
      rintro _ ⟨⟩
      exact .checked hjob hsends (hinv.checked hsends hintends hcheck)
  | apply hworker happly =>
    cases hinv.attempts worker _ hworker with
    | checked hjob hsends hintends => exact hjobs.applied hinv hsends hintends happly worker
  | @finish job hworker =>
    cases hinv.attempts worker _ hworker with
    | surpassed hdealt =>
      have hlater : Later target s { s.put worker none with processed := job :: s.processed } :=
        .of_same rfl fun _ h => h
      refine ⟨hinv.later hlater rfl (fun _ h => by cases h) hinv.shown (fun _ h => .inl h) ?_, hlater⟩
      intro other hother
      rcases List.mem_cons.1 hother with rfl | hold
      · exact .inr hdealt
      · exact .inl hold
  | fail hworker => exact hinv.put worker (fun _ h => by cases h)

theorem ObjectJobs.inductive (hjobs : ObjectJobs target jobs) :
    (system target.toMemoryFormationProcessor jobs target.memoryKey).Inductive (Inv target jobs) := by
  refine ⟨?_, fun s worker s' hinv h => (hjobs.step hinv h).1⟩
  rintro s ⟨hfresh, hworkers, haccepted, hprocessed⟩
  refine ⟨.inl hfresh, ?_, ?_, ?_⟩
  · intro job hjob
    rw [haccepted] at hjob
    cases hjob
  · intro worker attempt hworker
    rw [hworkers worker] at hworker
    cases hworker
  · intro job hjob
    rw [hprocessed] at hjob
    cases hjob

/-! ## The order that the memory shows -/

/-- The order is that of the job which the memory shows. -/
theorem Inv.currentOrder_iff (hinv : Inv target jobs s) {n : Int} :
    currentOrder target.tenantId target.userId target.memoryKey s = some n ↔
      ∃ job candidate item, target.Current s.store job candidate item ∧
        n = job.command.sourceOrder := by
  unfold currentOrder
  constructor
  · intro h
    rcases hinv.shown with hfresh | ⟨job, -, candidate, item, hcurrent⟩
    · rw [hfresh.getCurrentByKey] at h
      cases h
    · rw [hcurrent.getCurrentByKey, Option.bind_some, hcurrent.appliedOrder] at h
      exact ⟨job, candidate, item, hcurrent, (Option.some.inj h).symm⟩
  · rintro ⟨job, candidate, item, hcurrent, rfl⟩
    rw [hcurrent.getCurrentByKey, Option.bind_some, hcurrent.appliedOrder]

theorem ObjectJobs.order_grows (hjobs : ObjectJobs target jobs)
    (hs : (system target.toMemoryFormationProcessor jobs target.memoryKey).Reachable s)
    (hsteps : (system target.toMemoryFormationProcessor jobs target.memoryKey).Steps s s') {n : Int}
    (h : currentOrder target.tenantId target.userId target.memoryKey s = some n) :
    ∃ n', currentOrder target.tenantId target.userId target.memoryKey s' = some n' ∧ n ≤ n' := by
  have hinv := hjobs.inductive.reachable hs
  have hlater : Later target s s' :=
    LTS.Steps.keeps (fun s => .of_same rfl fun _ h => h) (fun a b c hab hbc => hab.trans hbc)
      (fun a worker b hreach hstep => (hjobs.step (hjobs.inductive.reachable hreach) hstep).2) hs
      hsteps
  have hinv' := hjobs.inductive.reachable (hs.steps hsteps)
  obtain ⟨job, candidate, item, hcurrent, rfl⟩ := hinv.currentOrder_iff.1 h
  obtain ⟨job', candidate', item', hcurrent', -, hle⟩ := hlater.grows hcurrent
  exact ⟨_, hinv'.currentOrder_iff.2 ⟨job', candidate', item', hcurrent', rfl⟩, by omega⟩

/-- Once all jobs are processed, the order is the largest of those accepted. -/
theorem ObjectJobs.order_greatest (hjobs : ObjectJobs target jobs)
    (hs : (system target.toMemoryFormationProcessor jobs target.memoryKey).Reachable s)
    (hall : ∀ job ∈ jobs, job ∈ s.processed) (n : Int) :
    currentOrder target.tenantId target.userId target.memoryKey s = some n ↔
      IsGreatest {order | ∃ job ∈ s.accepted, (job.command.sourceOrder : Int) = order} n := by
  have hinv := hjobs.inductive.reachable hs
  have hpassed : ∀ job ∈ s.accepted, target.AtLeast s.store job.command.sourceOrder := by
    intro job hjob
    obtain ⟨hmem, candidate, hsends, hclean⟩ := hinv.accepted job hjob
    exact hinv.processed job (hall job hmem) candidate hsends hclean
  rw [hinv.currentOrder_iff]
  constructor
  · rintro ⟨job, candidate, item, hcurrent, rfl⟩
    rcases hinv.shown with hfresh | ⟨shown, hshown, shownCandidate, shownItem, hshownCurrent⟩
    · exact absurd hfresh hcurrent.not_fresh
    · have hsame := hcurrent.order_eq hshownCurrent
      refine ⟨⟨shown, hshown, by omega⟩, ?_⟩
      rintro order ⟨other, hother, rfl⟩
      obtain ⟨last, lastCandidate, lastItem, hlast, hle⟩ := hpassed other hother
      have hlastSame := hcurrent.order_eq hlast
      omega
  · rintro ⟨⟨job, hjob, rfl⟩, hgreatest⟩
    obtain ⟨last, lastCandidate, lastItem, hlast, hle⟩ := hpassed job hjob
    rcases hinv.shown with hfresh | ⟨shown, hshown, shownCandidate, shownItem, hshownCurrent⟩
    · exact absurd hfresh hlast.not_fresh
    · have hbound := hgreatest ⟨shown, hshown, rfl⟩
      have hsame := hshownCurrent.order_eq hlast
      exact ⟨last, lastCandidate, lastItem, hlast, by omega⟩

end Attempts

theorem ObjectJobs.of_published {publisher : StructuredFormationPublisher} {source : Source}
    {target : Target} {jobs : List StructuredJob}
    (hpy : publisher.projector.py = target.policy.py) (hthresholds : Thresholds target.policy)
    (hnumerals : Json.Numerals target.policy.py.number)
    (hkey : source.memoryKey publisher.projector target.tenantId target.userId =
      .ok target.memoryKey)
    (hpublished : ∀ job ∈ jobs, Published publisher target.tenantId target.userId source job)
    (hids : ∀ job ∈ jobs, ∀ job' ∈ jobs, job.jobId = job'.jobId → job = job')
    (hdigests : target.DigestsTell jobs) : ObjectJobs target jobs where
  sends job hjob := (hpublished job hjob).sends hpy hkey
  ids := hids
  digests := hdigests
  thresholds := hthresholds
  numerals := hnumerals

/-- The structured jobs of a plan or a run: in any run of their workers the order that the
memory shows never decreases, and once every job is processed it is the largest of the
orders whose candidate the policy accepted. -/
theorem source_order_greatest {publisher : StructuredFormationPublisher} {source : Source}
    {processor : MemoryFormationProcessor} {tenantId userId memoryKey : String}
    {jobs : List StructuredJob} (hpy : publisher.projector.py = processor.policy.py)
    (hthresholds : Thresholds processor.policy)
    (hnumerals : Json.Numerals processor.policy.py.number)
    (hkey : source.memoryKey publisher.projector tenantId userId = .ok memoryKey)
    (hpublished : ∀ job ∈ jobs, Published publisher tenantId userId source job)
    (hids : ∀ job ∈ jobs, ∀ job' ∈ jobs, job.jobId = job'.jobId → job = job')
    (hdigests : Target.DigestsTell ⟨processor, tenantId, userId, memoryKey⟩ jobs) :
    let workers := system processor jobs memoryKey
    let order := currentOrder tenantId userId memoryKey
    (∀ s s', workers.Reachable s → workers.Steps s s' → ∀ n, order s = some n →
      ∃ n', order s' = some n' ∧ n ≤ n') ∧
    ∀ s, workers.Reachable s → (∀ job ∈ jobs, job ∈ s.processed) → ∀ n, order s = some n ↔
      IsGreatest {order | ∃ job ∈ s.accepted, (job.command.sourceOrder : Int) = order} n := by
  have hjobs : ObjectJobs ⟨processor, tenantId, userId, memoryKey⟩ jobs :=
    .of_published hpy hthresholds hnumerals hkey hpublished hids hdigests
  exact ⟨fun s s' hs hsteps n h => hjobs.order_grows hs hsteps h,
    fun s hs hall n => hjobs.order_greatest hs hall n⟩

/-! ## Two workers in a race -/

section Race

variable {target : Target} {jobs : List StructuredJob} {job older newer : StructuredJob}
  {candidate olderCandidate newerCandidate : FormationCandidate}

theorem Target.Sends.start (hsends : target.Sends job candidate)
    (hpositive : 1 ≤ job.command.sourceOrder) :
    job.command.candidates.mapM (withStructuredSource · job) = .ok [candidate] := by
  obtain ⟨raw, hraw, rfl⟩ := List.map_eq_singleton_iff.1 hsends.only
  have horder : structuredSourceOrder job = .ok job.command.sourceOrder :=
    if_neg (Nat.not_lt.2 hpositive)
  simp only [hraw, List.mapM_cons, List.mapM_nil, withStructuredSource, horder]
  rfl

/-- A clean candidate is added if there is no memory of its object. -/
theorem ObjectJobs.evaluate_fresh (hjobs : ObjectJobs target jobs)
    (hsends : target.Sends job candidate) (hfresh : target.Fresh store)
    (hclean : containsSensitiveData target.policy.py candidate = false) :
    target.policy.evaluate 0 0 (storeReads store 0) (storeReads store 0) .notConfigured
      job.toFormationJob candidate [] = .ok (target.addDecision job candidate) := by
  have hread : (storeReads store 0).currentByKey job.tenantId job.userId candidate.scope
      target.memoryKey = none := by
    rw [hsends.tenant, hsends.user, hsends.scope]
    exact hfresh.getCurrentByKey
  rw [evaluate_canonical hsends.canonical hjobs.thresholds]
  show Except.ok (canonicalDecision _ _ _ _ ((storeReads store 0).currentByKey job.tenantId
    job.userId candidate.scope target.memoryKey)) = _
  rw [hread, canonicalDecision, if_neg (by rw [hclean]; decide)]
  rfl

def decisionEventId (target : Target) (job : StructuredJob) (candidate : FormationCandidate) :
    String :=
  target.lifecycle.eventId (target.addDecision job candidate).operation.operationId "decision"

/-- A state with an attempt of each of two workers. -/
def lanes (store : MemoryStore) (first second : Option Attempt)
    (accepted processed : List StructuredJob) : State :=
  ⟨store, fun worker => if worker = 0 then first else if worker = 1 then second else none, accepted,
    processed⟩

theorem initial_lanes {memoryKey : String} : Initial memoryKey (lanes .empty none none [] []) :=
  ⟨fun _ hmem => absurd hmem List.not_mem_nil,
    fun worker => show (if worker = 0 then none else if worker = 1 then none else none) = none by
      split_ifs <;> rfl, rfl, rfl⟩

theorem lanes_put_zero :
    (lanes store first second accepted processed).put 0 attempt =
      lanes store attempt second accepted processed := by
  simp only [lanes, State.put, State.mk.injEq, true_and, and_true]
  funext worker
  by_cases h : worker = 0 <;> simp [Function.update, h]

theorem lanes_put_one :
    (lanes store first second accepted processed).put 1 attempt =
      lanes store first attempt accepted processed := by
  simp only [lanes, State.put, State.mk.injEq, true_and, and_true]
  funext worker
  by_cases h : worker = 1 <;> simp [Function.update, h]

/-- An ADD on the empty store writes one event. -/
theorem apply_addDecision_empty (target : Target) (job : StructuredJob)
    (candidate : FormationCandidate) :
    ∃ result store, target.lifecycle.apply (target.addDecision job candidate) 0 .empty =
        .ok (result, store) ∧
      store.events.map (·.eventId) = [decisionEventId target job candidate] :=
  ⟨_, _, rfl, rfl⟩

/-- A decision that is held back is recorded under an event of its own. -/
theorem apply_staleDecision (item : MemoryItem) (applied : Int)
    (hevents : decisionEventId target job candidate ∉ store.events.map (·.eventId)) :
    ∃ result store', target.lifecycle.apply (staleDecision (target.addDecision job candidate) item
      job.command.sourceOrder applied) 0 store = .ok (result, store') := by
  set decision := staleDecision (target.addDecision job candidate) item job.command.sourceOrder applied
  set event := target.lifecycle.recordedEvent decision.operation decision.candidate 0
  have hid : event.eventId = decisionEventId target job candidate := rfl
  have hnone : store.events.find? (·.eventId = event.eventId) = none := by
    rw [List.find?_eq_none, hid]
    intro stored hmem heq
    exact hevents (List.mem_map.2 ⟨stored, hmem, by simpa using heq⟩)
  have hrecorded : store.recordDecision event =
      .ok ((event, false), { store with events := store.events ++ [event] }) := by
    rw [MemoryStore.recordDecision, hnone]
    rfl
  exact ⟨_, _, bind_eq_ok.2 ⟨_, hrecorded, rfl⟩⟩

theorem suppressStale_older {item : MemoryItem} (hsends : target.Sends older olderCandidate)
    (hcurrent : target.Current store newer newerCandidate item)
    (hpositive : 1 ≤ older.command.sourceOrder)
    (hle : older.command.sourceOrder ≤ newer.command.sourceOrder) :
    suppressStaleStructuredDecision (storeReads store 0) older
      (target.addDecision older olderCandidate) =
        .ok (staleDecision (target.addDecision older olderCandidate) item
          older.command.sourceOrder newer.command.sourceOrder) := by
  set decision := target.addDecision older olderCandidate
  have hread : (storeReads store 0).currentByKey decision.operation.tenantId
      decision.operation.userId decision.candidate.scope decision.operation.memoryKey = some item := by
    show store.getCurrentByKey older.tenantId older.userId olderCandidate.scope target.memoryKey = _
    rw [hsends.tenant, hsends.user, hsends.scope]
    exact hcurrent.getCurrentByKey
  have horder : structuredSourceOrder older = .ok older.command.sourceOrder :=
    if_neg (Nat.not_lt.2 hpositive)
  unfold suppressStaleStructuredDecision
  simp only [hread, horder, hcurrent.appliedOrder]
  exact if_neg (by omega)

/-- Both jobs are evaluated before either is applied. The newer is applied first; the check
then holds the older back. -/
theorem ObjectJobs.race (hjobs : ObjectJobs target jobs) (holder : older ∈ jobs)
    (hnewer : newer ∈ jobs) (hsends : target.Sends older olderCandidate)
    (hsends' : target.Sends newer newerCandidate)
    (hclean : containsSensitiveData target.policy.py olderCandidate = false)
    (hclean' : containsSensitiveData target.policy.py newerCandidate = false)
    (hpositive : 1 ≤ older.command.sourceOrder)
    (hle : older.command.sourceOrder ≤ newer.command.sourceOrder)
    (hevents : decisionEventId target older olderCandidate ≠
      decisionEventId target newer newerCandidate) :
    ∃ store, (system target.toMemoryFormationProcessor jobs target.memoryKey).Steps
      (lanes .empty none none [] []) (lanes store none none [newer, older] [older, newer]) := by
  set processor := target.toMemoryFormationProcessor
  have hfresh : target.Fresh .empty := fun item hmem => by cases hmem
  have haccepts : ∀ job candidate, Accepts (target.addDecision job candidate) :=
    fun _ _ => ⟨rfl, .inl rfl⟩
  have hnoread : ∀ job candidate, target.Sends job candidate →
      suppressStaleStructuredDecision (storeReads .empty 0) job (target.addDecision job candidate) =
        .ok (target.addDecision job candidate) := fun _ _ _ => rfl
  have start0 : Step processor jobs (lanes .empty none none [] []) 0 _ :=
    .start rfl holder (hsends.start hpositive)
  have start1 : Step processor jobs
      (lanes .empty (some ⟨older, [olderCandidate], .ready⟩) none [] []) 1 _ :=
    .start rfl hnewer (hsends'.start (hpositive.trans hle))
  have evaluate0 : Step processor jobs (lanes .empty (some ⟨older, [olderCandidate], .ready⟩)
      (some ⟨newer, [newerCandidate], .ready⟩) [] []) 0 _ :=
    .evaluate rfl (hjobs.evaluate_fresh hsends hfresh hclean)
  have evaluate1 : Step processor jobs (lanes .empty
      (some ⟨older, [olderCandidate], .evaluated (target.addDecision older olderCandidate)⟩)
      (some ⟨newer, [newerCandidate], .ready⟩) [older] []) 1 _ :=
    .evaluate rfl (hjobs.evaluate_fresh hsends' hfresh hclean')
  have check1 : Step processor jobs (lanes .empty
      (some ⟨older, [olderCandidate], .evaluated (target.addDecision older olderCandidate)⟩)
      (some ⟨newer, [newerCandidate], .evaluated (target.addDecision newer newerCandidate)⟩)
      [newer, older] []) 1 _ :=
    .check rfl (hnoread newer newerCandidate hsends')
  obtain ⟨result, store, happly, hwritten⟩ := apply_addDecision_empty target newer newerCandidate
  have apply1 : Step processor jobs (lanes .empty
      (some ⟨older, [olderCandidate], .evaluated (target.addDecision older olderCandidate)⟩)
      (some ⟨newer, [newerCandidate], .checked (target.addDecision newer newerCandidate)⟩)
      [newer, older] []) 1 _ :=
    .apply rfl happly
  obtain ⟨item, hcurrent⟩ : ∃ item, target.Current store newer newerCandidate item := by
    rcases apply_addDecision hsends' (.inl hfresh) happly with ⟨-, shown, _, item, hshown, -⟩ | ⟨-, hnew⟩
    · exact absurd hfresh hshown.not_fresh
    · exact hnew
  have finish1 : Step processor jobs (lanes store
      (some ⟨older, [olderCandidate], .evaluated (target.addDecision older olderCandidate)⟩)
      (some ⟨newer, [], .ready⟩) [newer, older] []) 1 _ := .finish rfl
  have hstale := suppressStale_older hsends hcurrent hpositive hle
  have check0 : Step processor jobs (lanes store
      (some ⟨older, [olderCandidate], .evaluated (target.addDecision older olderCandidate)⟩)
      none [newer, older] [newer]) 0 _ := .check rfl hstale
  obtain ⟨recorded, store', hrecord⟩ := apply_staleDecision item newer.command.sourceOrder
    (show decisionEventId target older olderCandidate ∉ store.events.map (·.eventId) by
      rw [hwritten]; simpa using hevents)
  have apply0 : Step processor jobs (lanes store
      (some ⟨older, [olderCandidate], .checked (staleDecision (target.addDecision older olderCandidate)
        item older.command.sourceOrder newer.command.sourceOrder)⟩)
      none [newer, older] [newer]) 0 _ := .apply rfl hrecord
  have finish0 : Step processor jobs
      (lanes store' (some ⟨older, [], .ready⟩) none [newer, older] [newer]) 0 _ := .finish rfl
  simp only [State.evaluated, lanes_put_zero, lanes_put_one, if_pos (haccepts _ _)] at *
  refine ⟨store', ?_⟩
  refine .tail (.tail (.tail (.tail (.tail (.tail (.tail (.tail (.tail (.single ⟨0, start0⟩)
    ⟨1, start1⟩) ⟨0, evaluate0⟩) ⟨1, evaluate1⟩) ⟨1, check1⟩) ⟨1, apply1⟩) ⟨1, finish1⟩)
    ⟨0, check0⟩) ⟨0, apply0⟩) ⟨0, finish0⟩

end Race

/-! ### The first and the last event of a run -/

def cleanKey : String := (runArguments cleanRun .create "" "").memoryKey

def cleanTarget : Target := ⟨⟨plainPolicy, plainLifecycle⟩, "acme", "ada", cleanKey⟩

def cleanJobs : List StructuredJob := [cleanJob .create, cleanJob .complete]

theorem cleanJob_published (h : eventType = .create ∨ eventType = .complete) :
    Published plainPublisher "acme" "ada" (.run cleanRun.runId) (cleanJob eventType) := by
  have hid : (cleanSnapshot eventType).runId = cleanRun.runId := by cases eventType <;> rfl
  have howner : (cleanSnapshot eventType).tenantId = some "acme" ∧
      (cleanSnapshot eventType).userId = some "ada" := by
    cases eventType <;> exact ⟨rfl, rfl⟩
  rw [← hid]
  exact .run 0 (some "chat") _ (cleanSnapshot_projects h) howner.1 howner.2

theorem cleanJob_only {candidate : FormationCandidate}
    (h : cleanTarget.Sends (cleanJob eventType) candidate) :
    candidate = cleanCandidate eventType := by
  have honly := h.only
  rw [show (cleanJob eventType).command.candidates = [rawCandidate eventType] from rfl,
    List.map_singleton] at honly
  exact (List.singleton_inj.1 honly).symm

def operationIds (eventType : RunProjectionEvent) : List String :=
  (cleanTarget.operationTexts (cleanJob eventType) (cleanCandidate eventType)).map
    (stableId hexText "mfop")

theorem operationIds_create : operationIds .create =
    ["mfop_57837b8ef27896028e2992affd3f7773", "mfop_57837b8ef27896028e2992affd3f7773"] := by
  simp only [operationIds, Target.operationTexts, Target.operationText, stableId, hexText,
    String.toList_ofList, String.toList_intercalate, List.map_cons, List.map_nil]
  decide +kernel

theorem operationIds_complete : operationIds .complete =
    ["mfop_873a5b545f33dafb4b9fab138b0fa74a", "mfop_873a5b545f33dafb4b9fab138b0fa74a"] := by
  simp only [operationIds, Target.operationTexts, Target.operationText, stableId, hexText,
    String.toList_ofList, String.toList_intercalate, List.map_cons, List.map_nil]
  decide +kernel

theorem revisionTexts_clean {id id' : String} (h : operationIds eventType = [id, id']) :
    cleanTarget.revisionTexts (cleanJob eventType) (cleanCandidate eventType) =
        [id ++ ":revision:1", id' ++ ":revision"] ∧
      decisionEventId cleanTarget (cleanJob eventType) (cleanCandidate eventType) =
        stableId hexText "mevt" (id ++ ":" ++ "decision") := by
  obtain ⟨rfl, hrest⟩ := List.cons.inj h
  obtain ⟨rfl, -⟩ := List.cons.inj hrest
  exact ⟨rfl, rfl⟩

/-- Texts whose ids differ are told apart. -/
theorem digestTells_of_ids {kind : String} {texts texts' : List String}
    (h : ∀ id ∈ texts.map (stableId hexText kind), id ∉ texts'.map (stableId hexText kind)) :
    (∀ s ∈ texts, ∀ t ∈ texts', Target.DigestTells hexText s t) ∧
      ∀ t ∈ texts', ∀ s ∈ texts, Target.DigestTells hexText t s := by
  have hne : ∀ s ∈ texts, ∀ t ∈ texts', (hexText s).toList.take 32 ≠ (hexText t).toList.take 32 := by
    intro s hs t ht hsame
    refine h _ (List.mem_map_of_mem hs) (List.mem_map.2 ⟨t, ht, ?_⟩)
    rw [stableId, stableId, hsame]
  exact ⟨fun s hs t ht hsame => absurd hsame (hne s hs t ht),
    fun t ht s hs hsame => absurd hsame.symm (hne s hs t ht)⟩

theorem clean_digestsTell : cleanTarget.DigestsTell cleanJobs := by
  have hoperations := @digestTells_of_ids "mfop"
    (cleanTarget.operationTexts (cleanJob .create) (cleanCandidate .create))
    (cleanTarget.operationTexts (cleanJob .complete) (cleanCandidate .complete)) (by
      show ∀ id ∈ operationIds .create, id ∉ operationIds .complete
      rw [operationIds_create, operationIds_complete]
      decide)
  have hrevisions := @digestTells_of_ids "mrev"
    (cleanTarget.revisionTexts (cleanJob .create) (cleanCandidate .create))
    (cleanTarget.revisionTexts (cleanJob .complete) (cleanCandidate .complete)) (by
      rw [(revisionTexts_clean operationIds_create).1, (revisionTexts_clean operationIds_complete).1]
      decide +kernel)
  constructor <;> intro job job' candidate candidate' hjob hjob' hsends hsends'
  all_goals
    simp only [cleanJobs, List.mem_cons, List.not_mem_nil, or_false] at hjob hjob'
    rcases hjob with rfl | rfl <;> rcases hjob' with rfl | rfl <;>
      cases cleanJob_only hsends <;> cases cleanJob_only hsends'
  · exact fun _ => rfl
  · exact cleanCandidate_apart
  · exact fun h => (cleanCandidate_apart h.symm).symm
  · exact fun _ => rfl
  · exact fun h => absurd rfl h
  · exact fun _ => hoperations.1
  · exact fun _ => hoperations.2
  · exact fun h => absurd rfl h
  · exact fun h => absurd rfl h
  · exact fun _ => hrevisions.1
  · exact fun _ => hrevisions.2
  · exact fun h => absurd rfl h

theorem cleanJobs_cases {job : StructuredJob} (h : job ∈ cleanJobs) :
    ∃ eventType, (eventType = .create ∨ eventType = .complete) ∧ job = cleanJob eventType := by
  simp only [cleanJobs, List.mem_cons, List.not_mem_nil, or_false] at h
  rcases h with rfl | rfl
  · exact ⟨.create, .inl rfl, rfl⟩
  · exact ⟨.complete, .inr rfl, rfl⟩

theorem cleanJob_ids : ∀ job ∈ cleanJobs, ∀ job' ∈ cleanJobs, job.jobId = job'.jobId → job = job' := by
  have hne : (cleanJob .create).jobId ≠ (cleanJob .complete).jobId := by decide +kernel
  intro job hjob job' hjob' hid
  obtain ⟨_, rfl | rfl, rfl⟩ := cleanJobs_cases hjob <;>
    obtain ⟨_, rfl | rfl, rfl⟩ := cleanJobs_cases hjob'
  · rfl
  · exact absurd hid hne
  · exact absurd hid.symm hne
  · rfl

theorem cleanKey_eq : (Source.run cleanRun.runId).memoryKey plainPublisher.projector "acme" "ada" =
    .ok cleanKey := by
  decide +kernel

theorem cleanJobs_published :
    ∀ job ∈ cleanJobs, Published plainPublisher "acme" "ada" (.run cleanRun.runId) job := by
  intro job hjob
  obtain ⟨eventType, hevent, rfl⟩ := cleanJobs_cases hjob
  exact cleanJob_published hevent

theorem clean_objectJobs : ObjectJobs cleanTarget cleanJobs :=
  .of_published rfl plainPolicy_thresholds numeralText_numerals cleanKey_eq cleanJobs_published
    cleanJob_ids clean_digestsTell

theorem cleanJob_sends (h : eventType = .create ∨ eventType = .complete) :
    cleanTarget.Sends (cleanJob eventType) (cleanCandidate eventType) := by
  obtain ⟨candidate, hsends⟩ : ∃ candidate, cleanTarget.Sends (cleanJob eventType) candidate :=
    (cleanJob_published h).sends rfl cleanKey_eq
  exact cleanJob_only hsends ▸ hsends

theorem clean_race :
    ∃ store, (system cleanTarget.toMemoryFormationProcessor cleanJobs cleanKey).Steps
      (lanes .empty none none [] [])
      (lanes store none none [cleanJob .complete, cleanJob .create]
        [cleanJob .create, cleanJob .complete]) := by
  have hclean : ∀ eventType, eventType = .create ∨ eventType = .complete →
      containsSensitiveData cleanTarget.policy.py (cleanCandidate eventType) = false := by
    intro eventType hevent
    rw [(cleanJob_sends hevent).canonical.scanned]
    exact cleanCandidate_clean hevent
  refine clean_objectJobs.race (by simp [cleanJobs]) (by simp [cleanJobs]) (cleanJob_sends (.inl rfl))
    (cleanJob_sends (.inr rfl)) (hclean .create (.inl rfl)) (hclean .complete (.inr rfl)) (by decide)
    (by decide) ?_
  rw [(revisionTexts_clean operationIds_create).2, (revisionTexts_clean operationIds_complete).2]
  decide +kernel

/-- The two workers race, both candidates are accepted, and the memory shows the later event. -/
theorem source_order_greatest_race :
    ∃ s, (system cleanTarget.toMemoryFormationProcessor cleanJobs cleanKey).Reachable s ∧
      s.accepted = [cleanJob .complete, cleanJob .create] ∧ (∀ job ∈ cleanJobs, job ∈ s.processed) ∧
      currentOrder "acme" "ada" cleanKey s = some 3 := by
  obtain ⟨store, hsteps⟩ := clean_race
  set s := lanes store none none [cleanJob .complete, cleanJob .create]
    [cleanJob .create, cleanJob .complete]
  have hs : (system cleanTarget.toMemoryFormationProcessor cleanJobs cleanKey).Reachable s :=
    .steps (.init initial_lanes) hsteps
  have hall : ∀ job ∈ cleanJobs, job ∈ s.processed := fun job hjob => hjob
  have hgreatest := (@source_order_greatest plainPublisher (.run cleanRun.runId)
    ⟨plainPolicy, plainLifecycle⟩ "acme" "ada" cleanKey cleanJobs rfl plainPolicy_thresholds
    numeralText_numerals cleanKey_eq cleanJobs_published cleanJob_ids clean_digestsTell).2 s hs hall 3
  refine ⟨s, hs, rfl, hall, hgreatest.2 ⟨⟨cleanJob .complete, .head _, rfl⟩, ?_⟩⟩
  rintro order ⟨job, hjob, rfl⟩
  rcases hjob with _ | ⟨_, _ | ⟨_, ⟨⟩⟩⟩ <;> decide

end OpenIntentRouter.Formation.SourceOrder
