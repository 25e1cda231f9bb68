import OpenIntentRouter.Formation.SourceOrder

/-!
# The memory of a run's status

The stored run changes its status, calls of `publish_run_transitions`
(app/services/memory_integration.py:705-724) publish jobs for the copies of it that
they were given, and workers process the jobs. Every `await` is a step; a call may
end anywhere. A status has an event type, the event type the order of the job, and
the status an order of its own, which is marked as published: for a run that is
pending, cancelled or timed out the two orders differ.

* `Inv`: a job of the last order shows the status that the run ended with, and
  there is one if the last order is marked;
* `run_projection_converges`: if no call is given such a run, or one whose last
  candidate is sensitive, the memory shows the final status once everything is
  published and processed;
* `reachable_published`: the run of a witness, from running to marked.

The publisher and the policy are parameters: they share the Python tables and the
hash, the publisher is in enforced mode, the thresholds are at most 1 and numbers
print as numerals (`Setting`). What a run dumps, the clock and the order of
the steps are arbitrary. The last half assumes that the hash tells the texts of the
jobs' ids apart (`Target.DigestsTell`).
-/
namespace OpenIntentRouter.Formation.RunProjections

open Core Core.Except Core.Text Schemas Services Repositories.MemoryIndex Candidates SourceOrder

/-! ## Calls -/

/-- The next statement of `publish_run_transitions`. -/
inductive Stage where
  | called | create | markCreated | publish | mark
  deriving DecidableEq

/-- A call of `publish_run_transitions`, with the run that it was given. -/
structure Call where
  run : AgentRun
  stage : Stage

/-- The stored run and its published order, the calls under way, the jobs and their workers. -/
structure State where
  run : AgentRun
  publishedOrder : Nat
  calls : Nat → Option Call
  jobs : List StructuredJob
  formation : SourceOrder.State

def State.put (s : State) (id : Nat) (call : Option Call) : State :=
  { s with calls := Function.update s.calls id call }

def Ended (status : RunStatus) : Prop :=
  status ∈ [.completed, .failed, .invalidOutput, .cancelled, .timedOut, .timeout]

instance : DecidablePred Ended := fun status =>
  inferInstanceAs (Decidable (status ∈ [RunStatus.completed, .failed, .invalidOutput, .cancelled,
    .timedOut, .timeout]))

/-- A write of the stored run: its owner stays, and the status once it has ended. -/
structure Rewrites (run run' : AgentRun) : Prop where
  runId : run'.runId = run.runId
  tenant : run'.tenantId = run.tenantId
  user : run'.userId = run.userId
  ended : Ended run.status → run'.status = run.status

/-- The call goes on to publish the run, unless its order is published.
mirrors app/services/memory_integration.py:719-721 -/
def compare (run : AgentRun) (publishedOrder : Nat) : Option Call :=
  if runSourceOrder run.status ≤ publishedOrder then none else some ⟨run, .publish⟩

/-- `publish_run` with the repository of the jobs. -/
def publishJob (publisher : StructuredFormationPublisher) (now : Instant) (run : AgentRun)
    (eventType : RunProjectionEvent) (jobs : List StructuredJob) :
    Except StoreError (List StructuredJob) := do
  match ← publisher.publishRun now run eventType none none with
  | none => return jobs
  | some job => addStructuredJob jobs job

inductive Label where
  | write
  | call (id : Nat)
  | publishing (id : Nat)
  | work (worker : Nat)

/-- A write of the run, a step of `publish_run_transitions` or of a worker.
mirrors app/services/memory_integration.py:705-724 (`publish_run_transitions`) and
app/repositories/memory.py:237-245 -/
inductive Step (publisher : StructuredFormationPublisher) (processor : MemoryFormationProcessor)
    (s : State) : Label → State → Prop where
  | write {run : AgentRun} :
    Rewrites s.run run → Step publisher processor s .write { s with run := run }
  | call {id : Nat} :
    s.calls id = none → s.run.formationSuppressed = false →
    Step publisher processor s (.call id) (s.put id (some ⟨s.run, .called⟩))
  | read {id : Nat} {run : AgentRun} :
    s.calls id = some ⟨run, .called⟩ →
    Step publisher processor s (.publishing id)
      (s.put id
        (if s.publishedOrder < 1 then some ⟨run, .create⟩ else compare run s.publishedOrder))
  | create {id : Nat} {run : AgentRun} {now : Instant} {jobs : List StructuredJob} :
    s.calls id = some ⟨run, .create⟩ →
    publishJob publisher now (runningCopy run) .create s.jobs = .ok jobs →
    Step publisher processor s (.publishing id)
      { s.put id (some ⟨run, .markCreated⟩) with jobs := jobs }
  | markCreated {id : Nat} {run : AgentRun} :
    s.calls id = some ⟨run, .markCreated⟩ →
    Step publisher processor s (.publishing id)
      { s.put id (compare run 1) with publishedOrder := max 1 s.publishedOrder }
  | publish {id : Nat} {run : AgentRun} {now : Instant} {jobs : List StructuredJob} :
    s.calls id = some ⟨run, .publish⟩ →
    publishJob publisher now run (runEventType run.status) s.jobs = .ok jobs →
    Step publisher processor s (.publishing id) { s.put id (some ⟨run, .mark⟩) with jobs := jobs }
  | mark {id : Nat} {run : AgentRun} :
    s.calls id = some ⟨run, .mark⟩ →
    Step publisher processor s (.publishing id)
      { s.put id none with
        publishedOrder := max (runSourceOrder run.status) s.publishedOrder }
  | fail {id : Nat} {call : Call} :
    s.calls id = some call → Step publisher processor s (.publishing id) (s.put id none)
  | work {worker : Nat} {formation : SourceOrder.State} :
    SourceOrder.Step processor s.jobs s.formation worker formation →
    Step publisher processor s (.work worker) { s with formation := formation }

structure Initial (publisher : StructuredFormationPublisher) (target : Target) (s : State) :
    Prop where
  tenant : s.run.tenantId = some target.tenantId
  user : s.run.userId = some target.userId
  key : publisher.projector.memoryKey target.tenantId target.userId "run" s.run.runId
    "execution_status" = .ok target.memoryKey
  publishedOrder : s.publishedOrder = 0
  calls : ∀ id, s.calls id = none
  jobs : s.jobs = []
  formation : SourceOrder.Initial target.memoryKey s.formation

def system (publisher : StructuredFormationPublisher) (target : Target) : LTS State Label where
  init := Initial publisher target
  step s label s' := Step publisher target.toMemoryFormationProcessor s label s'

structure Settled (s : State) : Prop where
  ended : Ended s.run.status
  marked : runSourceOrder s.run.status ≤ s.publishedOrder
  processed : ∀ job ∈ s.jobs, job ∈ s.formation.processed

def ShowsStatus (target : Target) (s : State) : Prop :=
  ∃ item, s.formation.store.getCurrentByKey target.tenantId target.userId "task_memory"
      target.memoryKey = some item ∧
    Json.field item.structuredValue "status" = some (.str (runStatusText s.run.status))

/-! ## Publishing -/

section Publishing

variable {publisher : StructuredFormationPublisher} {now : Instant} {run : AgentRun}
  {eventType : RunProjectionEvent} {job : StructuredJob} {jobs jobs' : List StructuredJob}

theorem publishRun_ok (h : publisher.publishRun now run eventType none none = .ok (some job)) :
    ∃ eventId version projection,
      publisher.projector.projectRun run eventType eventId version none = .ok projection ∧
      job = publisher.publish now projection (some run.sessionId)
        (StructuredFormationPublisher.runEventOrder eventType) := by
  unfold StructuredFormationPublisher.publishRun at h
  split_ifs at h
  · cases h
  · obtain ⟨projection, hprojection, h⟩ := bind_eq_ok.1 h
    cases h
    exact ⟨_, _, projection, hprojection, rfl⟩

/-- A publisher that is on adds its job, or finds one with the same command. -/
theorem publishJob_ok (hmode : publisher.mode ≠ .off)
    (h : publishJob publisher now run eventType jobs = .ok jobs') :
    ∃ job, publisher.publishRun now run eventType none none = .ok (some job) ∧
      addStructuredJob jobs job = .ok jobs' := by
  obtain ⟨published, hpublished, h⟩ := bind_eq_ok.1 h
  cases published with
  | none =>
    unfold StructuredFormationPublisher.publishRun at hpublished
    rw [if_neg hmode] at hpublished
    obtain ⟨_, -, hpublished⟩ := bind_eq_ok.1 hpublished
    cases hpublished
  | some job => exact ⟨job, hpublished, h⟩

theorem mem_of_publishJob (h : publishJob publisher now run eventType jobs = .ok jobs')
    (hmem : job ∈ jobs) : job ∈ jobs' := by
  obtain ⟨published, -, h⟩ := bind_eq_ok.1 h
  cases published with
  | none =>
    cases h
    exact hmem
  | some added =>
    rcases addStructuredJob_ok h with ⟨rfl, -⟩ | ⟨rfl, -⟩
    · exact hmem
    · exact List.mem_append_left _ hmem

/-- The event type of a status has the last order if the status is the end of a run. -/
theorem runEventOrder_last {status : RunStatus}
    (h : StructuredFormationPublisher.runEventOrder (runEventType status) = 3) : Ended status := by
  revert h
  cases status <;> decide

end Publishing

/-! ## Runs that publish well -/

/-- The condition on a run that is given to `publish_run_transitions`: its status is not one
of those whose event comes too early, and no sensitive pattern occurs in the candidate of
its last event. -/
def Publishable (publisher : StructuredFormationPublisher) (policy : MemoryCandidatePolicy)
    (run : AgentRun) : Prop :=
  run.status ∈ [.running, .blocked, .clarify, .completed, .failed, .invalidOutput] ∧
    (runSourceOrder run.status = 3 → ∀ now job,
      publisher.publishRun now run (runEventType run.status) none none = .ok (some job) →
      ∀ candidate ∈ job.command.candidates, matchesSensitive policy.py.toTables
        (scannedText policy.py (sourced candidate job job.command.sourceOrder)) = false)

def CallsPublishable (publisher : StructuredFormationPublisher) (policy : MemoryCandidatePolicy)
    (s : State) : Label → Prop
  | .call _ => Publishable publisher policy s.run
  | .write | .publishing _ | .work _ => True

theorem Publishable.order {publisher : StructuredFormationPublisher}
    {policy : MemoryCandidatePolicy} {run : AgentRun} (h : Publishable publisher policy run) :
    StructuredFormationPublisher.runEventOrder (runEventType run.status) =
      runSourceOrder run.status := by
  have hstatus := h.1
  generalize run.status = status at hstatus ⊢
  revert hstatus
  cases status <;> decide

/-! ## The invariant -/

section Invariant

variable {publisher : StructuredFormationPublisher} {target : Target} {s s' : State}

/-- The job of an event of the run. That of the last order shows the status which the run has
ended with. -/
structure IsEvent (publisher : StructuredFormationPublisher) (target : Target) (s : State)
    (job : StructuredJob) : Prop where
  made : ∃ now snapshot eventType eventId version projection,
    publisher.projector.projectRun snapshot eventType eventId version none = .ok projection ∧
    job = publisher.publish now projection (some snapshot.sessionId)
      (StructuredFormationPublisher.runEventOrder eventType) ∧
    snapshot.runId = s.run.runId ∧ snapshot.tenantId = some target.tenantId ∧
    snapshot.userId = some target.userId ∧
    (StructuredFormationPublisher.runEventOrder eventType = 3 →
      Ended s.run.status ∧ snapshot.status = s.run.status)

/-- A job of the last order is there, and the policy does not refuse its candidate. -/
def Final (target : Target) (s : State) : Prop :=
  ∃ job ∈ s.jobs, job.command.sourceOrder = 3 ∧ ∀ candidate, target.Sends job candidate →
    containsSensitiveData target.policy.py candidate = false

structure CallOk (publisher : StructuredFormationPublisher) (target : Target) (s : State)
    (call : Call) : Prop where
  runId : call.run.runId = s.run.runId
  tenant : call.run.tenantId = some target.tenantId
  user : call.run.userId = some target.userId
  publishable : Publishable publisher target.policy call.run
  ended : Ended call.run.status → s.run.status = call.run.status
  marks : call.stage = .mark → runSourceOrder call.run.status = 3 → Final target s

structure Inv (publisher : StructuredFormationPublisher) (target : Target) (s : State) : Prop where
  tenant : s.run.tenantId = some target.tenantId
  user : s.run.userId = some target.userId
  key : publisher.projector.memoryKey target.tenantId target.userId "run" s.run.runId
    "execution_status" = .ok target.memoryKey
  jobs : ∀ job ∈ s.jobs, IsEvent publisher target s job
  ids : ∀ job ∈ s.jobs, ∀ job' ∈ s.jobs, job.jobId = job'.jobId → job = job'
  calls : ∀ id call, s.calls id = some call → CallOk publisher target s call
  published : 3 ≤ s.publishedOrder → Final target s
  formation : target.DigestsTell s.jobs → SourceOrder.Inv target s.jobs s.formation

structure Setting (publisher : StructuredFormationPublisher) (target : Target) : Prop where
  python : publisher.projector.py = target.policy.py
  mode : publisher.mode = .enforced
  thresholds : Thresholds target.policy
  numerals : Json.Numerals target.policy.py.number

theorem IsEvent.published {job : StructuredJob} (h : IsEvent publisher target s job) :
    Published publisher target.tenantId target.userId (.run s.run.runId) job := by
  obtain ⟨now, snapshot, eventType, eventId, version, projection, hproject, rfl, hid, htenant, huser,
    -⟩ := h.made
  rw [← hid]
  exact .run now (some snapshot.sessionId) _ hproject htenant huser

theorem Inv.objectJobs (hsetting : Setting publisher target) (hinv : Inv publisher target s)
    (hd : target.DigestsTell s.jobs) : ObjectJobs target s.jobs := by
  have hkey : (Source.run s.run.runId).memoryKey publisher.projector target.tenantId target.userId =
      .ok target.memoryKey := hinv.key
  exact .of_published hsetting.python hsetting.thresholds hsetting.numerals hkey
    (fun job hjob => (hinv.jobs job hjob).published) hinv.ids hd

theorem Final.mono (h : Final target s) (hjobs : ∀ job ∈ s.jobs, job ∈ s'.jobs) :
    Final target s' := by
  obtain ⟨job, hjob, horder, hclean⟩ := h
  exact ⟨job, hjobs job hjob, horder, hclean⟩

theorem IsEvent.of_run {job : StructuredJob} (h : IsEvent publisher target s job)
    (hid : s'.run.runId = s.run.runId) (hended : Ended s.run.status → s'.run.status = s.run.status) :
    IsEvent publisher target s' job := by
  obtain ⟨now, snapshot, eventType, eventId, version, projection, hproject, hjob, hrun, htenant,
    huser, hlast⟩ := h.made
  refine ⟨now, snapshot, eventType, eventId, version, projection, hproject, hjob, hrun.trans hid.symm,
    htenant, huser, fun horder => ?_⟩
  obtain ⟨hend, hstatus⟩ := hlast horder
  rw [hended hend]
  exact ⟨hend, hstatus⟩

theorem CallOk.of_run {call : Call} (h : CallOk publisher target s call)
    (hid : s'.run.runId = s.run.runId)
    (hended : Ended s.run.status → s'.run.status = s.run.status)
    (hjobs : ∀ job ∈ s.jobs, job ∈ s'.jobs) : CallOk publisher target s' call where
  runId := h.runId.trans hid.symm
  tenant := h.tenant
  user := h.user
  publishable := h.publishable
  ended hend := by
    have hsame := h.ended hend
    rw [hended (hsame ▸ hend), hsame]
  marks hstage horder := (h.marks hstage horder).mono hjobs

/-! ## Steps -/

theorem Inv.next (hinv : Inv publisher target s) {id : Nat} {call : Option Call}
    (hrun : s'.run = s.run) (hformation : s'.formation = s.formation)
    (hcalls : s'.calls = Function.update s.calls id call)
    (hcall : ∀ c, call = some c → CallOk publisher target s' c)
    (hsub : ∀ job ∈ s.jobs, job ∈ s'.jobs)
    (hjobs : ∀ job ∈ s'.jobs, IsEvent publisher target s' job)
    (hids : ∀ job ∈ s'.jobs, ∀ job' ∈ s'.jobs, job.jobId = job'.jobId → job = job')
    (hpublished : 3 ≤ s'.publishedOrder → Final target s') : Inv publisher target s' where
  tenant := hrun ▸ hinv.tenant
  user := hrun ▸ hinv.user
  key := hrun ▸ hinv.key
  jobs := hjobs
  ids := hids
  calls other c hc := by
    rw [hcalls] at hc
    by_cases heq : other = id
    · subst heq
      rw [Function.update_self] at hc
      exact hcall c hc
    · rw [Function.update_of_ne heq] at hc
      exact (hinv.calls other c hc).of_run (by rw [hrun]) (fun _ => by rw [hrun]) hsub
  published := hpublished
  formation hd := by
    rw [hformation]
    exact (hinv.formation (hd.mono hsub)).mono hsub

theorem Inv.keep (hinv : Inv publisher target s) {id : Nat} {call : Option Call}
    {publishedOrder : Nat} (hcall : ∀ c, call = some c → CallOk publisher target s c)
    (hpublished : 3 ≤ publishedOrder → Final target s) :
    Inv publisher target { s.put id call with publishedOrder := publishedOrder } := by
  refine hinv.next rfl rfl rfl (fun c hc => ?_) (fun _ h => h) (fun job hjob => ?_) hinv.ids
    hpublished
  · exact (hcall c hc).of_run rfl (fun _ => rfl) fun _ h => h
  · exact (hinv.jobs job hjob).of_run rfl fun _ => rfl

theorem CallOk.compare {run : AgentRun} {stage : Stage} {order : Nat}
    (h : CallOk publisher target s ⟨run, stage⟩) :
    ∀ c, RunProjections.compare run order = some c → CallOk publisher target s c := by
  intro c hc
  unfold RunProjections.compare at hc
  split_ifs at hc
  cases hc
  exact
    { runId := h.runId
      tenant := h.tenant
      user := h.user
      publishable := h.publishable
      ended := h.ended
      marks := fun hstage => by cases hstage }

theorem CallOk.stage {run : AgentRun} {stage stage' : Stage}
    (h : CallOk publisher target s ⟨run, stage⟩)
    (hmarks : stage' = .mark → runSourceOrder run.status = 3 → Final target s) :
    CallOk publisher target s ⟨run, stage'⟩ where
  runId := h.runId
  tenant := h.tenant
  user := h.user
  publishable := h.publishable
  ended := h.ended
  marks := hmarks

theorem Inv.publishes (hsetting : Setting publisher target) (hinv : Inv publisher target s)
    {id : Nat} {run snapshot : AgentRun} {stage stage' : Stage} {now : Instant}
    {eventType : RunProjectionEvent} {jobs : List StructuredJob}
    (hcall : CallOk publisher target s ⟨run, stage⟩)
    (h : publishJob publisher now snapshot eventType s.jobs = .ok jobs)
    (hid : snapshot.runId = run.runId) (htenant : snapshot.tenantId = run.tenantId)
    (huser : snapshot.userId = run.userId)
    (hlast : StructuredFormationPublisher.runEventOrder eventType = 3 →
      Ended s.run.status ∧ snapshot.status = s.run.status)
    (hmarks : stage' = .mark → runSourceOrder run.status = 3 →
      Final target { s with jobs := jobs }) :
    Inv publisher target { s.put id (some ⟨run, stage'⟩) with jobs := jobs } := by
  have hsub : ∀ job ∈ s.jobs, job ∈ jobs := fun job hjob => mem_of_publishJob h hjob
  have hmode : publisher.mode ≠ .off := by
    rw [hsetting.mode]
    decide
  obtain ⟨added, hadded, hjobs⟩ := publishJob_ok hmode h
  obtain ⟨eventId, version, projection, hproject, hmade⟩ := publishRun_ok hadded
  have hevent : IsEvent publisher target { s.put id (some ⟨run, stage'⟩) with jobs := jobs } added :=
    ⟨now, snapshot, eventType, eventId, version, projection, hproject, hmade,
      hid.trans hcall.runId, htenant.trans hcall.tenant, huser.trans hcall.user, hlast⟩
  refine hinv.next rfl rfl rfl ?_ hsub ?_ ?_ fun horder => (hinv.published horder).mono hsub
  · rintro _ ⟨⟩
    have hlater : CallOk publisher target { s.put id (some ⟨run, stage'⟩) with jobs := jobs }
        ⟨run, stage⟩ := hcall.of_run rfl (fun _ => rfl) hsub
    exact hlater.stage hmarks
  · intro job hjob
    rcases addStructuredJob_ok hjobs with ⟨rfl, -⟩ | ⟨rfl, -⟩
    · exact (hinv.jobs job hjob).of_run rfl fun _ => rfl
    · rcases List.mem_append.1 hjob with hold | hnew
      · exact (hinv.jobs job hold).of_run rfl fun _ => rfl
      · rw [List.mem_singleton] at hnew
        exact hnew ▸ hevent
  · rcases addStructuredJob_ok hjobs with ⟨rfl, -⟩ | ⟨rfl, hfresh⟩
    · exact hinv.ids
    · intro job hjob job' hjob' hsame
      rcases List.mem_append.1 hjob with hold | hnew
      · rcases List.mem_append.1 hjob' with hold' | hnew'
        · exact hinv.ids job hold job' hold' hsame
        · rw [List.mem_singleton] at hnew'
          exact absurd (hnew' ▸ hsame) (hfresh job hold)
      · rw [List.mem_singleton] at hnew
        rcases List.mem_append.1 hjob' with hold' | hnew'
        · exact absurd (hnew ▸ hsame.symm) (hfresh job' hold')
        · rw [List.mem_singleton] at hnew'
          rw [hnew, hnew']

/-- The job that is published for a run which has ended is there, and it is clean. -/
theorem CallOk.final (hsetting : Setting publisher target) {run : AgentRun} {stage : Stage}
    {now : Instant} {jobs : List StructuredJob} (hcall : CallOk publisher target s ⟨run, stage⟩)
    (h : publishJob publisher now run (runEventType run.status) s.jobs = .ok jobs)
    (horder : runSourceOrder run.status = 3) : Final target { s with jobs := jobs } := by
  have hmode : publisher.mode ≠ .off := by
    rw [hsetting.mode]
    decide
  obtain ⟨added, hadded, hjobs⟩ := publishJob_ok hmode h
  obtain ⟨eventId, version, projection, hproject, hmade⟩ := publishRun_ok hadded
  have hclean := hcall.publishable.2 horder now added hadded
  have hlast : added.command.sourceOrder = 3 := by
    rw [hmade]
    exact hcall.publishable.order.trans horder
  obtain ⟨job, hjob, hcommand⟩ : ∃ job ∈ jobs, job.command = added.command := by
    rcases addStructuredJob_ok hjobs with ⟨rfl, existing, hmem, hcommand⟩ | ⟨rfl, -⟩
    · exact ⟨existing, hmem, hcommand⟩
    · exact ⟨added, List.mem_append_right _ (List.mem_singleton_self _), rfl⟩
  refine ⟨job, hjob, by rw [hcommand]; exact hlast, fun candidate hsends => ?_⟩
  obtain ⟨raw, hraw, hsent⟩ := List.map_eq_singleton_iff.1 hsends.only
  have hmem : raw ∈ added.command.candidates := by
    rw [← hcommand, hraw]
    exact List.mem_cons_self
  have hsame : sourced raw added added.command.sourceOrder = candidate := by
    rw [← hsent]
    simp only [sourced, sourceFields, hcommand]
  rw [hsends.canonical.scanned, ← hsame]
  exact hclean raw hmem

/-- A step keeps the invariant if its call is given a run that publishes well. -/
theorem Inv.step (hsetting : Setting publisher target) (hinv : Inv publisher target s) {label : Label}
    (hc : CallsPublishable publisher target.policy s label)
    (h : Step publisher target.toMemoryFormationProcessor s label s') :
    Inv publisher target s' := by
  cases h with
  | @write run hrewrites =>
    refine ⟨hrewrites.tenant.trans hinv.tenant, hrewrites.user.trans hinv.user, ?_, ?_, hinv.ids, ?_,
      fun horder => (hinv.published horder).mono fun _ h => h, hinv.formation⟩
    · rw [show ({ s with run := run } : State).run.runId = s.run.runId from hrewrites.runId]
      exact hinv.key
    · exact fun job hjob => (hinv.jobs job hjob).of_run hrewrites.runId hrewrites.ended
    · exact fun id call hcall =>
        (hinv.calls id call hcall).of_run hrewrites.runId hrewrites.ended fun _ h => h
  | call hfree hsuppressed =>
    refine hinv.keep ?_ hinv.published
    rintro _ ⟨⟩
    exact ⟨rfl, hinv.tenant, hinv.user, hc, fun _ => rfl, fun hstage => by cases hstage⟩
  | read hcall =>
    have hok := hinv.calls _ _ hcall
    refine hinv.keep (fun c h => ?_) hinv.published
    split at h
    · cases h
      exact hok.stage fun hstage => by cases hstage
    · exact hok.compare c h
  | create hcall hpublish =>
    have hok := hinv.calls _ _ hcall
    refine hinv.publishes hsetting hok hpublish rfl rfl rfl (fun hlast => ?_)
      (fun hstage => by cases hstage)
    exact absurd hlast (by decide)
  | @markCreated id run hcall =>
    have hok := hinv.calls _ _ hcall
    exact hinv.keep hok.compare fun horder => hinv.published (by omega)
  | publish hcall hpublish =>
    have hok := hinv.calls _ _ hcall
    refine hinv.publishes hsetting hok hpublish rfl rfl rfl (fun hlast => ?_)
      (fun _ => hok.final hsetting hpublish)
    have hend := runEventOrder_last hlast
    have hsame := hok.ended hend
    exact ⟨hsame ▸ hend, hsame.symm⟩
  | @mark id run hcall =>
    have hok := hinv.calls _ _ hcall
    refine hinv.keep (fun c h => by cases h) fun horder => ?_
    by_cases hlast : runSourceOrder run.status = 3
    · exact hok.marks rfl hlast
    · have hbound : runSourceOrder run.status ≤ 3 := by
        cases run.status <;> decide
      exact hinv.published (by omega)
  | fail hcall => exact hinv.keep (fun c h => by cases h) hinv.published
  | work hwork =>
    refine ⟨hinv.tenant, hinv.user, hinv.key, ?_, hinv.ids, ?_,
      fun horder => (hinv.published horder).mono fun _ h => h, fun hd => ?_⟩
    · exact fun job hjob => (hinv.jobs job hjob).of_run rfl fun _ => rfl
    · exact fun id call hcall => (hinv.calls id call hcall).of_run rfl (fun _ => rfl) fun _ h => h
    · exact ((hinv.objectJobs hsetting hd).step (hinv.formation hd) hwork).1

theorem inductive_inv (hsetting : Setting publisher target) :
    ((system publisher target).guarded (CallsPublishable publisher target.policy)).Inductive
      (Inv publisher target) := by
  refine ⟨fun s hinit => ?_, fun s label s' hinv h => hinv.step hsetting h.1 h.2⟩
  refine ⟨hinit.tenant, hinit.user, hinit.key, ?_, ?_, ?_, ?_, fun hd => ?_⟩
  · intro job hjob
    rw [hinit.jobs] at hjob
    cases hjob
  · intro job hjob
    rw [hinit.jobs] at hjob
    cases hjob
  · intro id call hcall
    rw [hinit.calls id] at hcall
    cases hcall
  · intro horder
    rw [hinit.publishedOrder] at horder
    omega
  · have hempty : ObjectJobs target s.jobs := by
      refine ⟨?_, ?_, hd, hsetting.thresholds, hsetting.numerals⟩ <;>
        · intro job hjob
          rw [hinit.jobs] at hjob
          cases hjob
    exact hempty.inductive.1 _ hinit.formation

theorem IsEvent.status {job : StructuredJob} {candidate : FormationCandidate}
    (h : IsEvent publisher target s job) (hsends : target.Sends job candidate)
    (horder : job.command.sourceOrder = 3) :
    Json.field candidate.structuredValue "status" = some (.str (runStatusText s.run.status)) := by
  obtain ⟨now, snapshot, eventType, eventId, version, projection, hproject, rfl, -, htenant, huser,
    hlast⟩ := h.made
  obtain ⟨memoryKey, raw, -, hone⟩ :=
    StructuredEventProjector.projectRun_one htenant huser hproject
  obtain ⟨raw', hraw, hsent⟩ := List.map_eq_singleton_iff.1 hsends.only
  obtain rfl : raw = raw' := List.singleton_inj.1 (hone.only.symm.trans hraw)
  rw [← hsent, ← (hlast horder).2]
  refine (field_sourced _ _ "status" (by decide)).trans ?_
  rw [hone.value]
  rfl

/-- The last order is marked only when its job is there, with a candidate that the policy does
not refuse. Once a run that published well has ended, is marked and its jobs are processed, its
memory shows the status it ended with. -/
theorem run_projection_converges (hsetting : Setting publisher target) :
    (∀ s, ((system publisher target).guarded
        (CallsPublishable publisher target.policy)).Reachable s →
      3 ≤ s.publishedOrder → Final target s) ∧
    ∀ s, ((system publisher target).guarded
        (CallsPublishable publisher target.policy)).Reachable s →
      target.DigestsTell s.jobs → Settled s → ShowsStatus target s := by
  refine ⟨fun s hs => ((inductive_inv hsetting).reachable hs).published,
    fun s hs hd hsettled => ?_⟩
  have hinv := (inductive_inv hsetting).reachable hs
  have hformation := hinv.formation hd
  have hmarked : 3 ≤ s.publishedOrder := by
    have hlast : runSourceOrder s.run.status = 3 := by
      have hended := hsettled.ended
      generalize s.run.status = status at hended ⊢
      revert hended
      cases status <;> decide
    exact hlast ▸ hsettled.marked
  obtain ⟨job, hjob, horder, hclean⟩ := hinv.published hmarked
  obtain ⟨candidate, hsends⟩ := (hinv.objectJobs hsetting hd).sends job hjob
  obtain ⟨last, lastCandidate, lastItem, hlast, hle⟩ :=
    hformation.processed job (hsettled.processed job hjob) candidate hsends (hclean candidate hsends)
  rcases hformation.shown with hfresh | ⟨shown, hshown, shownCandidate, item, hcurrent⟩
  · exact absurd hfresh hlast.not_fresh
  · have hshownJob := hinv.jobs shown (hformation.accepted shown hshown).1
    have hsame := hcurrent.order_eq hlast
    have hbound : shown.command.sourceOrder ≤ 3 := by
      obtain ⟨now, snapshot, eventType, eventId, version, projection, -, rfl, -⟩ := hshownJob.made
      show StructuredFormationPublisher.runEventOrder eventType ≤ 3
      cases eventType <;> decide
    refine ⟨item, hcurrent.getCurrentByKey, ?_⟩
    rw [hcurrent.written.value]
    exact hshownJob.status hcurrent.sends (by omega)

end Invariant

/-! ## A run that ends well -/

theorem publishRun_clean {eventType : RunProjectionEvent}
    (h : eventType = .create ∨ eventType = .complete) (now : Instant) :
    plainPublisher.publishRun now (cleanSnapshot eventType) eventType none none =
      .ok (some (plainPublisher.publish now (cleanProjection eventType) (some "chat")
        (StructuredFormationPublisher.runEventOrder eventType))) := by
  have hid : (cleanSnapshot eventType).runId = cleanRun.runId := by cases eventType <;> rfl
  have hsession : (cleanSnapshot eventType).sessionId = "chat" := by cases eventType <;> rfl
  have hmode : plainPublisher.mode ≠ .off := by decide
  rw [StructuredFormationPublisher.publishRun, if_neg hmode, hid, hsession]
  exact bind_eq_ok.2 ⟨_, cleanSnapshot_projects h, rfl⟩

theorem cleanRun_publishable : Publishable plainPublisher plainPolicy cleanRun := by
  refine ⟨by decide, fun _ now job hjob candidate hmem => ?_⟩
  have hpublished := publishRun_clean (.inr rfl) now
  cases hpublished.symm.trans hjob
  obtain rfl := List.mem_singleton.1 hmem
  exact cleanCandidate_clean (.inr rfl)

/-- A state of the clean run with one call. -/
def during (run : AgentRun) (publishedOrder : Nat) (call : Option Call) (jobs : List StructuredJob) :
    State :=
  ⟨run, publishedOrder, fun id => if id = 0 then call else none, jobs, lanes .empty none none [] []⟩

theorem publishJob_clean {eventType : RunProjectionEvent}
    (h : eventType = .create ∨ eventType = .complete) {jobs : List StructuredJob}
    (hkey : ∀ job ∈ jobs, job.idempotencyKey ≠ (cleanJob eventType).idempotencyKey)
    (hid : ∀ job ∈ jobs, job.jobId ≠ (cleanJob eventType).jobId) :
    publishJob plainPublisher 0 (cleanSnapshot eventType) eventType jobs =
      .ok (jobs ++ [cleanJob eventType]) := by
  have hadd : addStructuredJob jobs (cleanJob eventType) = .ok (jobs ++ [cleanJob eventType]) := by
    have hnokey : jobs.find? (·.idempotencyKey = (cleanJob eventType).idempotencyKey) = none :=
      List.find?_eq_none.2 fun job hjob => by simpa using hkey job hjob
    have hnoid : jobs.find? (·.jobId = (cleanJob eventType).jobId) = none :=
      List.find?_eq_none.2 fun job hjob => by simpa using hid job hjob
    rw [addStructuredJob, hnokey, hnoid]
    rfl
  exact bind_eq_ok.2 ⟨_, publishRun_clean h 0, hadd⟩

abbrev cleanSystem : LTS State Label :=
  (system plainPublisher cleanTarget).guarded (CallsPublishable plainPublisher plainPolicy)

/-- A step with the one call, given by what it leaves. -/
theorem reachable_during (label : Label) {call call' : Option Call} {order order' : Nat}
    {jobs jobs' : List StructuredJob} {s' : State}
    (hs : cleanSystem.Reachable (during cleanRun order call jobs))
    (hc : CallsPublishable plainPublisher plainPolicy (during cleanRun order call jobs) label)
    (hstep : Step plainPublisher cleanTarget.toMemoryFormationProcessor
      (during cleanRun order call jobs) label s')
    (hrun : s'.run = cleanRun) (horder : s'.publishedOrder = order')
    (hcalls : s'.calls = Function.update (during cleanRun order call jobs).calls 0 call')
    (hjobs : s'.jobs = jobs') (hformation : s'.formation = lanes .empty none none [] []) :
    cleanSystem.Reachable (during cleanRun order' call' jobs') := by
  have hs' : s' = during cleanRun order' call' jobs' := by
    cases s'
    simp only [during, State.mk.injEq] at *
    refine ⟨hrun, horder, hcalls.trans (funext fun other => ?_), hjobs, hformation⟩
    by_cases h : other = 0 <;> simp [Function.update, h]
  exact hs' ▸ hs.step ⟨hc, hstep⟩

/-- What workers do with the jobs is done in the whole system. -/
theorem reachable_work {s : State} {formation : SourceOrder.State} (hs : cleanSystem.Reachable s)
    (hsteps : (SourceOrder.system cleanTarget.toMemoryFormationProcessor s.jobs cleanKey).Steps
      s.formation formation) : cleanSystem.Reachable { s with formation := formation } := by
  induction hsteps with
  | refl => exact hs
  | tail _ hstep ih =>
    obtain ⟨worker, hwork⟩ := hstep
    exact ih.step (l := Label.work worker) ⟨trivial, .work hwork⟩

/-- The run is stored as running, ends, and a call publishes its first and its last event. -/
theorem reachable_published : cleanSystem.Reachable (during cleanRun 3 none cleanJobs) := by
  have hinit : Initial plainPublisher cleanTarget (during (runningCopy cleanRun) 0 none []) :=
    { tenant := rfl
      user := rfl
      key := cleanKey_eq
      publishedOrder := rfl
      calls := fun id => show (if id = 0 then none else none) = none by split_ifs <;> rfl
      jobs := rfl
      formation := initial_lanes }
  have hwritten : cleanSystem.Reachable (during cleanRun 0 none []) :=
    .step (l := Label.write) (.init hinit) ⟨trivial, .write ⟨rfl, rfl, rfl, fun hended => absurd hended (by decide)⟩⟩
  have hcalled : cleanSystem.Reachable (during cleanRun 0 (some ⟨cleanRun, .called⟩) []) :=
    reachable_during (.call 0) hwritten cleanRun_publishable (.call rfl rfl) rfl rfl rfl rfl rfl
  have hread : cleanSystem.Reachable (during cleanRun 0 (some ⟨cleanRun, .create⟩) []) :=
    reachable_during (.publishing 0) hcalled trivial (.read rfl) rfl rfl rfl rfl rfl
  have hcreate : publishJob plainPublisher 0 (runningCopy cleanRun) .create [] =
      .ok [cleanJob .create] :=
    publishJob_clean (.inl rfl) (fun _ hmem => absurd hmem List.not_mem_nil)
      fun _ hmem => absurd hmem List.not_mem_nil
  have hcreated : cleanSystem.Reachable
      (during cleanRun 0 (some ⟨cleanRun, .markCreated⟩) [cleanJob .create]) :=
    reachable_during (.publishing 0) hread trivial (.create rfl hcreate) rfl rfl rfl rfl rfl
  have hmarked : cleanSystem.Reachable
      (during cleanRun 1 (some ⟨cleanRun, .publish⟩) [cleanJob .create]) :=
    reachable_during (.publishing 0) hcreated trivial (.markCreated rfl) rfl rfl rfl rfl rfl
  have hcomplete : publishJob plainPublisher 0 cleanRun .complete [cleanJob .create] =
      .ok cleanJobs := by
    refine publishJob_clean (.inr rfl) (fun job hjob => ?_) fun job hjob => ?_ <;>
      obtain rfl := List.mem_singleton.1 hjob
    · decide +kernel
    · decide +kernel
  have hpublished : cleanSystem.Reachable (during cleanRun 1 (some ⟨cleanRun, .mark⟩) cleanJobs) :=
    reachable_during (.publishing 0) hmarked trivial (.publish rfl hcomplete) rfl rfl rfl rfl rfl
  exact reachable_during (.publishing 0) hpublished trivial (.mark rfl) rfl rfl rfl rfl rfl

/-- The last order is marked, two workers process the two jobs in a race, and the memory shows
that the run is completed. -/
theorem run_projection_converges_clean :
    ∃ s, cleanSystem.Reachable s ∧ s.run.status = .completed ∧ s.publishedOrder = 3 ∧
      Final cleanTarget s ∧ Settled s ∧ ShowsStatus cleanTarget s := by
  obtain ⟨store, hsteps⟩ := clean_race
  have hs := reachable_work reachable_published hsteps
  have hsettled : Settled { during cleanRun 3 none cleanJobs with
      formation := lanes store none none [cleanJob .complete, cleanJob .create]
        [cleanJob .create, cleanJob .complete] } :=
    ⟨show Ended cleanRun.status by decide, show runSourceOrder cleanRun.status ≤ 3 by decide,
      fun _ hjob => hjob⟩
  have hconverges := @run_projection_converges plainPublisher cleanTarget
    ⟨rfl, rfl, plainPolicy_thresholds, numeralText_numerals⟩
  exact ⟨_, hs, rfl, rfl, hconverges.1 _ hs le_rfl, hsettled,
    hconverges.2 _ hs clean_digestsTell hsettled⟩

end OpenIntentRouter.Formation.RunProjections
