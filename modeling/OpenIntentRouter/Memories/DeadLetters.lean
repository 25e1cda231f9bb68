import OpenIntentRouter.Memories.ExposedContents

/-!
# Deletions that are given up

A delete operation is given up by the worker whose last attempt fails, which
then scrubs the item in a second transaction, and by a claim that finds the last
lease run out. The claim scrubs nothing, and nothing scrubs after a crash
between the two transactions.

* `every_runOnce`: what each operation of the worker does to the deletions that
  are given up unscrubbed, and that the scrubbing comes next;
* `dead_letters_scrubbed`: in a run without such a claim and such a crash there
  are none but those that a worker is just about to scrub, in memory and on the
  database;
* `expired_deletion_exposed`: a claim that leaves the content there.
-/
namespace OpenIntentRouter.Memories.DeadLetters

open Core Schemas Repositories Repositories.MemoryIndex Services MemoryIndexOperationWorker

/-! ## The system -/

/-- A worker with its settings, and one call of its `run_once`. -/
structure WorkerRun (P : Type) where
  adapter : MemoryStrategyAdapter P
  leaseSeconds : Int
  retryBaseSeconds : Int
  retryMaxSeconds : Int
  claimTenantId : Option String
  owner : String
  leaseToken : String
  latencyMs : Nat

/-- What is done besides the worker: a call of the lifecycle service, another time, anything that
happens to the provider. -/
inductive Event (P : Type) where
  | lifecycle (call : LifecycleCall)
  | clock (now : Instant)
  | provider (provider : P)

section System

variable {σ P ι : Type} [DecidableEq ι]

def WorkerRun.worker (run : WorkerRun P) (stores : IndexStores σ) (sha256 : String → String) :
    MemoryIndexOperationWorker σ P where
  stores := stores
  adapter := run.adapter
  sha256 := sha256
  leaseSeconds := run.leaseSeconds
  retryBaseSeconds := run.retryBaseSeconds
  retryMaxSeconds := run.retryMaxSeconds
  claimTenantId := run.claimTenantId

abbrev WorkerThread (σ P : Type) :=
  Thread IndexNote (IndexWorld σ P) (Except IndexError (Option MemoryIndexWorkerResult))

def WorkerRun.thread (stores : IndexStores σ) (sha256 : String → String) (run : WorkerRun P) :
    WorkerThread σ P :=
  ExceptT.run ((run.worker stores sha256).runOnce run.owner run.leaseToken run.latencyMs)

abbrev Workers (ι σ P : Type) :=
  Team ι IndexNote (IndexWorld σ P) (Except IndexError (Option MemoryIndexWorkerResult))

def happens (next : LifecycleCall → σ → σ) : Event P → IndexWorld σ P → IndexWorld σ P
  | .lifecycle call, world => { world with store := next call world.store }
  | .clock now, world => { world with now }
  | .provider provider, world => { world with provider }

/-- Any number of workers with any settings, which start, take their operations one at a time
and may crash, from an empty store. -/
def system (stores : IndexStores σ) (sha256 : String → String) (next : LifecycleCall → σ → σ)
    (empty : σ) : LTS (Workers ι σ P) (Team.Label ι (WorkerRun P) (Event P)) :=
  Team.system (·.store = empty) (WorkerRun.thread stores sha256) (happens next)

def Standing (team : Workers ι σ P) (note : IndexNote) : Prop :=
  ∃ i, ∃ thread ∈ team.proc i, thread.note? = some note

/-! ## The condition -/

variable (sha256 : String → String) (view : σ → MemoryView) (recorded : σ → String → Bool)

/-- What an operation of a worker must meet: a claim gives up no deletion whose content is there;
a worker that gives one up has claimed it as such and has found its item; and the event of the
scrubbing is new. -/
def Orderly (note : IndexNote) (world : IndexWorld σ P) : Prop :=
  match note with
  | .claim tenantId now =>
    ∀ index ∈ (view world.store).operations.values, index.operation = .delete →
      exhausted tenantId now index = true → ¬(view world.store).Exposed index
  | .fail operation item =>
    ∀ index, (view world.store).operations.get? operation.indexOperationId = some index →
      index.operation = .delete → index.maxAttempts ≤ index.attemptCount →
      (view world.store).Exposed index → operation.operation = .delete ∧ item ≠ none
  | .recordFailure operation =>
    operation.status = .deadLetter → (view world.store).Exposed operation →
      recorded world.store (failureEventId sha256 operation true) = false
  | _ => True

/-- The condition on steps: no worker crashes between giving a deletion up and scrubbing. -/
def Allowed (service : MemoryLifecycleService) (team : Workers ι σ P) :
    Team.Label ι (WorkerRun P) (Event P) → Prop
  | .start _ _ => True
  | .op i => ∀ thread ∈ team.proc i, ∀ note ∈ thread.note?,
      Orderly service.sha256 view recorded note team.shared
  | .abort i => ∀ thread ∈ team.proc i, ∀ index, thread.note? = some (.recordFailure index) →
      ¬(view team.shared.store).Neglected index
  | .call (.lifecycle call) =>
    NotGivenUp service (view team.shared.store) (recorded team.shared.store) call
  | .call _ => True

end System

/-! ## What the operations of a worker do -/

variable {note : IndexNote}

section Operations

variable {σ P α β : Type} {lifecycle : Lifecycle} {stores : IndexStores σ}
  {next : LifecycleCall → σ → σ} {view : σ → MemoryView} {recorded : σ → String → Bool}

/-- A deletion that is given up unscrubbed after an operation was so before, or is what the
worker scrubs next. -/
def Keeps (lifecycle : Lifecycle) (view : σ → MemoryView) (recorded : σ → String → Bool)
    (note : IndexNote) (effect : IndexWorld σ P → IndexWorld σ P)
    (after : IndexWorld σ P → Option IndexNote) : Prop :=
  ∀ world, Orderly lifecycle.service.sha256 view recorded note world →
    ∀ index, (view (effect world).store).Neglected index →
      after world = some (.recordFailure index) ∨
        (view world.store).Neglected index ∧ note ≠ .recordFailure index

theorem keeps_extends : Extends (Keeps (P := P) lifecycle view recorded) := by
  intro note effect f g hfg h world horderly index hindex
  exact (h world horderly index hindex).imp_left (hfg world _)

theorem keeps_quiet (hnote : ∀ index, note ≠ .recordFailure index)
    {effect : IndexWorld σ P → IndexWorld σ P}
    (h : ∀ world, Quiet (view world.store) (view (effect world).store))
    (after : IndexWorld σ P → Option IndexNote) : Keeps lifecycle view recorded note effect after :=
  fun world _ index hindex => .inr ⟨(h world).neglected hindex, hnote index⟩

theorem every_clock :
    (clock : IndexProgram σ P Instant).Every (Keeps lifecycle view recorded) :=
  Program.every_op (keeps_quiet (by simp) (fun _ => .refl _) _)

theorem every_storeLook (f : σ → α) :
    (storeLook f : IndexProgram σ P α).Every (Keeps lifecycle view recorded) :=
  Program.every_op (keeps_quiet (by simp) (fun _ => .refl _) _)

theorem every_providerCall (operation : MemoryIndexOperation) (item : Option MemoryItem)
    (f : P → α × P) :
    (providerCall (.provider operation item) f : IndexProgram σ P α).Every
      (Keeps lifecycle view recorded) :=
  Program.every_op (keeps_quiet (by simp) (fun _ => .refl _) _)

theorem every_storeCall {f : σ → α × σ} (h : ∀ store, Quiet (view store) (view (f store).2)) :
    (storeCall .step f : IndexProgram σ P α).Every (Keeps lifecycle view recorded) :=
  Program.every_op (keeps_quiet (by simp) (fun world => h world.store) _)

variable {f : σ → Except StoreError (α × σ)}

theorem effect_raising (world : IndexWorld σ P) :
    (∃ a store, f world.store = .ok (a, store) ∧
        Program.effect (raising f) world = { world with store } ∧
        ∀ (g : α → IndexProgram σ P β), Program.after (raising f) g world = (g a).note?) ∨
      (∃ error, f world.store = .error error) ∧ Program.effect (raising f) world = world := by
  unfold Program.effect Program.after raising
  cases f world.store with
  | ok r => exact .inl ⟨r.1, r.2, rfl, rfl, fun _ => rfl⟩
  | error e => exact .inr ⟨⟨e, rfl⟩, rfl⟩

theorem every_storePerform
    (h : ∀ store a store', f store = .ok (a, store') → Quiet (view store) (view store')) :
    (storePerform .step f : IndexProgram σ P α).Every (Keeps lifecycle view recorded) := by
  refine Program.every_perform (keeps_quiet (by simp) (fun world => ?_) _)
  obtain ⟨a, store, hf, heffect, -⟩ | ⟨-, heffect⟩ := effect_raising (β := Unit) (f := f) world
  · rw [heffect]
    exact h _ _ _ hf
  · rw [heffect]
    exact .refl _

theorem exposed_same {view : MemoryView} {a b : MemoryIndexOperation} (hsame : SameOperation a b)
    (h : view.Exposed a) : view.Exposed b := by
  obtain ⟨item, hget, hdeleting, hcontent⟩ := h
  rw [hsame.memoryId] at hget hcontent
  refine ⟨item, hget, ⟨?_, ?_, hdeleting.pending, ?_⟩, hcontent⟩
  · exact hdeleting.memoryId.trans hsame.memoryId
  · exact hdeleting.tenantId.trans (congrArg some hsame.tenantId)
  · exact hdeleting.revisionId.trans hsame.revisionId

/-- An operation that is given up after a claim was so before, or the claim gives it up. -/
theorem claim_deadLetter {owner token : String} {now : Instant} {lease : Int}
    {tenantId : Option String} {operations : IndexOperations} {index : MemoryIndexOperation}
    (hstatus : index.status = .deadLetter)
    (h : (claim owner token now lease tenantId operations).2.get? index.indexOperationId =
      some index) :
    operations.get? index.indexOperationId = some index ∨
      ∃ stored, operations.get? index.indexOperationId = some stored ∧
        exhausted tenantId now stored = true ∧ index = deadLetterOperation now stored := by
  have hretired : (retireExhausted tenantId now operations).get? index.indexOperationId =
      some index := by
    unfold claim at h
    dsimp only at h
    split at h
    · exact h
    · next operation _ =>
      refine stored_put ?_ hstatus h
      simp [claimedOperation]
  rw [get?_retireExhausted] at hretired
  obtain ⟨stored, hget, hindex⟩ := Option.map_eq_some_iff.1 hretired
  unfold retired at hindex
  split at hindex
  · next hexhausted => exact .inr ⟨stored, hget, hexhausted, hindex.symm⟩
  · exact .inl (hindex ▸ hget)

variable (laws : StoreLaws lifecycle stores next view recorded)
include laws

theorem every_claim (owner token : String) (now : Instant) (lease : Int) (tenantId : Option String) :
    (storeCall (.claim tenantId now) (stores.claim owner token now lease tenantId) :
      IndexProgram σ P (Option MemoryIndexOperation)).Every (Keeps lifecycle view recorded) := by
  refine Program.every_op fun world horderly index hindex => .inr ⟨?_, by simp⟩
  have hview := (laws.claim owner token now lease tenantId world.store).2
  have hclaimed : MemoryView.Neglected _ index := hview ▸ hindex
  obtain hget | ⟨stored, hget, hexhausted, rfl⟩ := claim_deadLetter hclaimed.status hclaimed.stored
  · exact ⟨hclaimed.delete, hclaimed.status, hget, hclaimed.exposed⟩
  · have hexposed : (view world.store).Exposed stored :=
      exposed_same (a := deadLetterOperation now stored) ⟨rfl, rfl, rfl, rfl, rfl, rfl⟩
        hclaimed.exposed
    refine absurd hexposed (horderly stored ?_ hclaimed.delete hexhausted)
    exact (Table.mem_values _ _).2 hget

variable (worker : MemoryIndexOperationWorker σ P) (hworker : worker.stores = stores)
  (owner : String) (operation : MemoryIndexOperation) (item : Option MemoryItem)
include hworker

theorem every_recordFailed (failed : MemoryIndexOperation) (errorCode : String) (now : Instant) :
    (worker.recordFailed operation failed item errorCode now).Every
      (Keeps lifecycle view recorded) := by
  unfold recordFailed
  cases item with
  | none => exact Program.every_pure _
  | some item =>
    dsimp only
    split
    · refine Program.every_bind keeps_extends (Program.every_perform ?_) fun _ => Program.every_pure _
      rw [hworker]
      intro world horderly index hindex
      obtain ⟨result, store, hrecord, heffect, -⟩ | ⟨⟨error, hrecord⟩, heffect⟩ :=
        effect_raising (β := Unit) (f := stores.recordDeleteIndexFailure failed errorCode
          (decide (failed.status = .deadLetter)) now) world
      · rw [heffect] at hindex
        obtain ⟨hquiet, hscrubbed⟩ := laws.recordDeleteIndexFailure _ _ _ _ _ _ _ hrecord
        refine .inr ⟨hquiet.neglected hindex, fun hsame => ?_⟩
        obtain rfl := IndexNote.recordFailure.inj hsame
        refine hscrubbed (decide_eq_true hindex.status) ?_ hindex.exposed
        exact horderly hindex.status (hquiet.exposed _ hindex.exposed)
      · rw [heffect] at hindex
        refine .inr ⟨hindex, fun hsame => ?_⟩
        obtain rfl := IndexNote.recordFailure.inj hsame
        obtain ⟨result, store, hok⟩ := laws.recordDeleteIndexFailure_ok failed errorCode
          (decide (failed.status = .deadLetter)) now world.store hindex.exposed
        cases hrecord.symm.trans hok
    · split
      · rw [hworker]
        exact Program.every_bind keeps_extends
          (every_storeCall fun store => laws.setIndexState _ _ _ _ _ _ store)
          fun _ => every_storePerform fun _ _ _ h => laws.addEvent _ _ _ h
      · exact Program.every_pure _

omit laws hworker in
/-- The scrubbing of an item that is found is the first thing. -/
theorem note_recordFailed (failed : MemoryIndexOperation) (errorCode : String) (now : Instant)
    (f : Unit → IndexProgram σ P α) (hdelete : operation.operation = .delete) (hitem : item ≠ none) :
    (worker.recordFailed operation failed item errorCode now >>= f).note? =
      some (.recordFailure failed) := by
  obtain ⟨item, rfl⟩ := Option.ne_none_iff_exists'.1 hitem
  unfold recordFailed
  dsimp only
  rw [if_pos hdelete]
  rfl

theorem every_fail (providerResult : MemoryIndexOperationResult) :
    (worker.fail owner operation item providerResult).Every (Keeps lifecycle view recorded) := by
  unfold MemoryIndexOperationWorker.fail
  refine Program.every_bind keeps_extends every_clock fun now => ?_
  refine Program.every_perform_bind ?_ fun failed => Program.every_bind keeps_extends
    (every_recordFailed laws worker hworker operation item failed _ now) fun _ =>
      Program.every_pure _
  rw [hworker]
  intro world horderly index hindex
  obtain ⟨failed, store, hfail, heffect, hafter⟩ | ⟨-, heffect⟩ := effect_raising (f := _) world
  · rw [heffect] at hindex
    rw [hafter]
    obtain ⟨stored, hget, hsame, hattempts, hview⟩ := laws.fail _ _ _ _ _ _ _ _ _ hfail
    have hneglected : MemoryView.Neglected _ index := hview ▸ hindex
    have hput : ((view world.store).operations.put failed).get? index.indexOperationId =
        some index := hneglected.stored
    rw [Table.get?_put] at hput
    split at hput
    · cases hput
      have hexposed : (view world.store).Exposed stored := exposed_same hsame hneglected.exposed
      obtain ⟨hdelete, hitem⟩ := horderly stored hget (hsame.operation ▸ hneglected.delete)
        (hattempts hneglected.status) hexposed
      exact .inl (note_recordFailed worker operation item index _ now _ hdelete hitem)
    · exact .inr ⟨⟨hneglected.delete, hneglected.status, hput, hneglected.exposed⟩, by simp⟩
  · rw [heffect] at hindex
    exact .inr ⟨hindex, by simp⟩

theorem every_finish (providerResult : MemoryIndexOperationResult) (now : Instant) :
    (worker.finish owner operation item providerResult now).Every
      (Keeps lifecycle view recorded) := by
  unfold finish recordCompleted
  rw [hworker]
  refine Program.every_bind keeps_extends
    (every_storePerform fun _ _ _ h => laws.complete _ _ _ _ _ _ _ _ _ h) fun completed => ?_
  refine Program.every_bind keeps_extends ?_ fun _ => Program.every_pure _
  have hevent : ∀ event, (storePerform .step (stores.addEvent event) : IndexProgram σ P Unit).Every
      (Keeps lifecycle view recorded) :=
    fun event => every_storePerform fun _ _ _ h => laws.addEvent _ _ _ h
  split
  · exact Program.every_bind keeps_extends
      (every_storePerform fun _ _ _ h => laws.completeDeleteFromIndex _ _ _ _ _ _ h)
      fun _ => Program.every_pure _
  · split <;> exact hevent _

theorem every_complete (providerResult : MemoryIndexOperationResult) :
    (worker.complete owner operation item providerResult).Every
      (Keeps lifecycle view recorded) := by
  unfold MemoryIndexOperationWorker.complete
  refine Program.every_bind keeps_extends every_clock fun now => ?_
  split
  · exact every_finish laws worker hworker owner operation item providerResult now
  · split
    · rw [hworker]
      refine Program.every_bind keeps_extends
        (every_storeCall fun store => laws.setIndexState _ _ _ _ _ _ store) fun updated => ?_
      cases updated with
      | none => exact every_fail laws worker hworker owner operation _ _
      | some _ => exact every_finish laws worker hworker owner operation _ providerResult now
    · exact every_fail laws worker hworker owner operation _ _

/-- Each operation of a worker keeps the deletions that are given up as they are, but for a
failure, which the scrubbing follows. -/
theorem every_runOnce (leaseToken : String) (latencyMs : Nat) :
    (worker.runOnce owner leaseToken latencyMs).Every (Keeps lifecycle view recorded) := by
  unfold runOnce
  refine Program.every_bind keeps_extends every_clock fun now => ?_
  rw [hworker]
  refine Program.every_bind keeps_extends (every_claim laws ..) fun claimed => ?_
  cases claimed with
  | none => exact Program.every_pure _
  | some operation =>
    refine Program.every_bind keeps_extends (every_storeLook _) fun item => ?_
    split
    · refine Program.every_bind keeps_extends (every_providerCall operation item _)
        fun providerResult => ?_
      split
      · exact Program.every_map keeps_extends _ (every_complete laws worker hworker owner _ _ _)
      · exact Program.every_map keeps_extends _ (every_fail laws worker hworker owner _ _ _)
    · refine Program.every_map keeps_extends _ ?_
      unfold completeSuperseded
      rw [hworker]
      refine Program.every_bind keeps_extends every_clock fun now => ?_
      refine Program.every_bind keeps_extends
        (every_storePerform fun _ _ _ h => laws.complete _ _ _ _ _ _ _ _ _ h) fun completed => ?_
      exact Program.every_bind keeps_extends
        (every_storePerform fun _ _ _ h => laws.addEvent _ _ _ h) fun _ => Program.every_pure _

end Operations

/-! ## Runs -/

section Runs

variable {σ P ι : Type} [DecidableEq ι] {lifecycle : Lifecycle} {stores : IndexStores σ}
  {next : LifecycleCall → σ → σ} {view : σ → MemoryView} {recorded : σ → String → Bool}
  {team team' : Workers ι σ P}

variable {thread : WorkerThread σ P}

theorem standing_goto_self {i : ι} (h : thread.note? = some note) :
    Standing (team.goto i thread) note := by
  cases thread with
  | ret a => cases h
  | op note' f k =>
    refine ⟨i, .op note' f k, ?_, h⟩
    simp [Team.goto, Thread.live]

/-- A worker that stands there still does after a step of another one. -/
theorem standing_goto {i : ι} (hi : ∀ thread ∈ team.proc i, thread.note? ≠ some note)
    (h : Standing team note) : Standing (team.goto i thread) note := by
  obtain ⟨j, other, hother, hnote⟩ := h
  have hj : j ≠ i := fun hji => hi other (hji ▸ hother) hnote
  refine ⟨j, other, ?_, hnote⟩
  simp only [Team.goto, Function.update_of_ne hj]
  exact hother

/-- A deletion that is given up unscrubbed has a worker that is about to scrub it. -/
structure Watched (lifecycle : Lifecycle) (view : σ → MemoryView) (recorded : σ → String → Bool)
    (team : Workers ι σ P) : Prop where
  every : ∀ i, ∀ thread ∈ team.proc i, thread.Every (Keeps lifecycle view recorded)
  standing : ∀ index, (view team.shared.store).Neglected index →
    Standing team (.recordFailure index)

theorem watched_next (laws : StoreLaws lifecycle stores next view recorded)
    {l : Team.Label ι (WorkerRun P) (Event P)} (h : Watched lifecycle view recorded team)
    (hallowed : Allowed view recorded lifecycle.service team l)
    (hn : Team.next (WorkerRun.thread stores lifecycle.service.sha256) (happens next) team l =
      some team') : Watched lifecycle view recorded team' where
  every := by
    refine Team.every_next (fun run => ?_) h.every hn
    exact every_runOnce laws _ rfl run.owner run.leaseToken run.latencyMs
  standing := by
    intro index hindex
    cases l with
    | start i run =>
      simp only [Team.next] at hn
      split at hn
      · next hnone =>
        cases hn
        refine standing_goto (fun thread hthread => ?_) (h.standing index hindex)
        rw [Option.isNone_iff_eq_none.1 hnone] at hthread
        cases hthread
      · cases hn
    | op i =>
      simp only [Team.next] at hn
      split at hn
      · next note f k hproc =>
        cases hn
        have horderly := hallowed _ hproc note rfl
        rcases (h.every i _ hproc).1 team.shared horderly index hindex with
          hafter | ⟨hbefore, hnote⟩
        · exact standing_goto_self hafter
        · refine standing_goto (fun thread hthread => ?_) (h.standing index hbefore)
          rw [hproc] at hthread
          cases hthread
          exact fun hsame => hnote (Option.some.inj hsame)
      · cases hn
    | abort i =>
      simp only [Team.next] at hn
      split at hn
      · cases hn
        obtain ⟨j, thread, hthread, hnote⟩ := h.standing index hindex
        have hj : j ≠ i := by
          rintro rfl
          exact hallowed thread hthread index hnote hindex
        refine ⟨j, thread, ?_, hnote⟩
        simp only [Function.update_of_ne hj]
        exact hthread
      · cases hn
    | call event =>
      cases hn
      cases event with
      | lifecycle call =>
        exact h.standing index (laws.next call team.shared.store hallowed index hindex)
      | clock now => exact h.standing index hindex
      | provider provider => exact h.standing index hindex

theorem reachable_watched (laws : StoreLaws lifecycle stores next view recorded) {empty : σ}
    (hempty : ∀ index, ¬(view empty).Neglected index)
    (h : ((system stores lifecycle.service.sha256 next empty).guarded
      (Allowed view recorded lifecycle.service)).Reachable team) :
    Watched lifecycle view recorded team := by
  induction h with
  | init hinit =>
    obtain ⟨world, rfl, rfl⟩ := hinit
    exact ⟨fun i thread hthread => (nomatch hthread),
      fun index hindex => absurd hindex (hempty index)⟩
  | step _ hst ih => exact watched_next laws ih hst.1 hst.2

end Runs

/-- Where a deletion was given up, the item and its revisions are empty, except for what is
still to be scrubbed. -/
def ScrubbedBut (toScrub : MemoryIndexOperation → Prop) (view : MemoryView) : Prop :=
  ∀ index ∈ view.operations.values, index.operation = .delete → index.status = .deadLetter →
    ∀ item, view.item index.memoryId = some item → Deleting item index →
      Scrubbed item (view.history index.memoryId) ∨ toScrub index

theorem Watched.scrubbed {σ P ι : Type} {lifecycle : Lifecycle} {view : σ → MemoryView}
    {recorded : σ → String → Bool} {team : Workers ι σ P} (h : Watched lifecycle view recorded team) :
    ScrubbedBut (fun index => Standing team (.recordFailure index)) (view team.shared.store) := by
  intro index hmem hdelete hstatus item hitem hdeleting
  by_cases hscrubbed : Scrubbed item ((view team.shared.store).history index.memoryId)
  · exact .inl hscrubbed
  · exact .inr (h.standing index ⟨hdelete, hstatus, (Table.mem_values _ _).1 hmem, item, hitem,
      hdeleting, hscrubbed⟩)

def memorySystem (ι P : Type) [DecidableEq ι] (lifecycle : Lifecycle) :
    LTS (Workers ι MemoryStore P) (Team.Label ι (WorkerRun P) (Event P)) :=
  system (memoryIndexStores lifecycle.service.sha256) lifecycle.service.sha256 lifecycle.memory
    .empty

def databaseSystem (ι P : Type) [DecidableEq ι] (lifecycle : Lifecycle) :
    LTS (Workers ι MemoryDatabase.MemoryTables P) (Team.Label ι (WorkerRun P) (Event P)) :=
  system (databaseIndexStores lifecycle.service.sha256) lifecycle.service.sha256
    lifecycle.database .empty

/-- In a run whose steps meet the condition, what was given up is scrubbed, or a worker is about
to scrub it. -/
theorem dead_letters_scrubbed (ι P : Type) [DecidableEq ι] (lifecycle : Lifecycle) :
    (∀ team, ((memorySystem ι P lifecycle).guarded
        (Allowed memoryView memoryRecorded lifecycle.service)).Reachable team →
      ScrubbedBut (fun index => Standing team (.recordFailure index))
        (memoryView team.shared.store)) ∧
    ∀ team, ((databaseSystem ι P lifecycle).guarded
        (Allowed databaseView databaseRecorded lifecycle.service)).Reachable team →
      ScrubbedBut (fun index => Standing team (.recordFailure index))
        (databaseView team.shared.store) :=
  ⟨fun _ h => (reachable_watched (memory_laws lifecycle) (fun _ h => by cases h.stored) h).scrubbed,
    fun _ h => (reachable_watched (database_laws lifecycle) (fun _ h => by cases h.stored) h).scrubbed⟩

/-! ## Two runs -/

section Samples

def sampleLifecycle : Lifecycle := ⟨{ Ledger.sampleService with maxAttempts := 1 }, fun _ => true⟩

def sampleWorker : WorkerRun Unit where
  adapter := repositoryAdapter
  leaseSeconds := 30
  retryBaseSeconds := 1
  retryMaxSeconds := 60
  claimTenantId := none
  owner := "w"
  leaseToken := "token"
  latencyMs := 1

def sampleCalls : List (Team.Label Bool (WorkerRun Unit) (Event Unit)) :=
  [.call (.lifecycle (.add (Ledger.sampleOperation "a" .add none none)
      (Ledger.sampleCandidate "vegan" Ledger.vegan_ne) 2)),
    .call (.lifecycle (.requestDelete
      (Ledger.sampleOperation "b" .delete (some "mem_a") (some "mrev_a:revision:1")) 1))]

def sampleFailure : List (Team.Label Bool (WorkerRun Unit) (Event Unit)) :=
  sampleCalls ++ .start false sampleWorker :: List.replicate 7 (.op false)

def sampleExpiry : List (Team.Label Bool (WorkerRun Unit) (Event Unit)) :=
  sampleCalls ++ [.start false sampleWorker, .op false, .op false, .call (.clock 100000000),
    .start true sampleWorker, .op true, .op true]

variable {σ : Type}

def allowed (sha256 : String → String) (view : σ → MemoryView) (recorded : σ → String → Bool)
    (team : Workers Bool σ Unit) : Team.Label Bool (WorkerRun Unit) (Event Unit) → Bool
  | .op i => (team.proc i).all fun thread => thread.note?.all fun
    | .claim tenantId now => (view team.shared.store).operations.values.all fun index =>
        index.operation ≠ .delete || !exhausted tenantId now index
    | .fail operation item => operation.operation = .delete && item.isSome
    | .recordFailure operation =>
      !recorded team.shared.store (failureEventId sha256 operation true)
    | _ => true
  | .call (.lifecycle (.requestDelete _ _)) =>
    (view team.shared.store).operations.values.all fun index =>
      index.operation ≠ .delete || index.status ≠ .deadLetter
  | .abort _ => false
  | _ => true

variable {view : σ → MemoryView} {recorded : σ → String → Bool} {team : Workers Bool σ Unit}

theorem allowed_sound {service : MemoryLifecycleService}
    {l : Team.Label Bool (WorkerRun Unit) (Event Unit)}
    (h : allowed service.sha256 view recorded team l = true) :
    Allowed view recorded service team l := by
  cases l with
  | start i run => trivial
  | op i =>
    intro thread hthread note hnote
    have htest := (Option.all_eq_true _ _).1 ((Option.all_eq_true _ _).1 h thread hthread) note hnote
    cases note with
    | claim tenantId now =>
      intro index hmem hdelete hexhausted
      have hindex := List.all_eq_true.1 htest index hmem
      simp [hdelete, hexhausted] at hindex
    | fail operation item =>
      intro index _ _ _ _
      simp only [Bool.and_eq_true, decide_eq_true_eq] at htest
      exact ⟨htest.1, Option.isSome_iff_ne_none.1 htest.2⟩
    | recordFailure operation =>
      intro _ _
      simpa using htest
    | _ => trivial
  | abort i => cases h
  | call event =>
    cases event with
    | lifecycle call =>
      cases call with
      | requestDelete operation now =>
        intro _ index hmem hdelete hstatus
        have hindex := List.all_eq_true.1 h index hmem
        simp [hdelete, hstatus] at hindex
      | _ => trivial
    | _ => trivial

def ends (stores : IndexStores σ) (next : LifecycleCall → σ → σ) (empty : σ)
    (test : Workers Bool σ Unit → Team.Label Bool (WorkerRun Unit) (Event Unit) → Bool)
    (labels : List (Team.Label Bool (WorkerRun Unit) (Event Unit))) :
    Option (Workers Bool σ Unit) :=
  LTS.execGuarded (Team.next (WorkerRun.thread stores sampleLifecycle.service.sha256)
    (happens next)) test (Team.start ⟨empty, (), 0⟩) labels

theorem reachable_ends {stores : IndexStores σ} {next : LifecycleCall → σ → σ} {empty : σ}
    {labels : List (Team.Label Bool (WorkerRun Unit) (Event Unit))}
    (h : ends stores next empty (allowed sampleLifecycle.service.sha256 view recorded) labels =
      some team) :
    ((system stores sampleLifecycle.service.sha256 next empty).guarded
      (Allowed view recorded sampleLifecycle.service)).Reachable team :=
  .execGuarded (fun _ _ => allowed_sound) (.init ⟨_, rfl, rfl⟩) h

def leftOvers (view : MemoryView) : List String :=
  (view.operations.values.filter fun index =>
    index.operation = .delete && index.status = .deadLetter).flatMap fun index =>
      ((view.item index.memoryId).filter fun item =>
        item.memoryId = index.memoryId && item.tenantId = some index.tenantId &&
          item.lifecycleStatus = .deletionPending &&
          item.currentRevisionId = index.revisionId).toList.map (·.content)

theorem dead_letters_scrubbed_sampleFailure :
    (∃ team : Workers Bool MemoryStore Unit, leftOvers (memoryView team.shared.store) = [""] ∧
      ScrubbedBut (fun index => Standing team (.recordFailure index))
        (memoryView team.shared.store)) ∧
    ∃ team : Workers Bool MemoryDatabase.MemoryTables Unit,
      leftOvers (databaseView team.shared.store) = [""] ∧
      ScrubbedBut (fun index => Standing team (.recordFailure index))
        (databaseView team.shared.store) := by
  have hmemory : (ends (memoryIndexStores id) sampleLifecycle.memory .empty
      (allowed id memoryView memoryRecorded) sampleFailure).map
        (leftOvers <| memoryView ·.shared.store) = some [""] := by decide
  have hdatabase : (ends (databaseIndexStores id) sampleLifecycle.database .empty
      (allowed id databaseView databaseRecorded) sampleFailure).map
        (leftOvers <| databaseView ·.shared.store) = some [""] := by decide
  obtain ⟨team, hteam, hleft⟩ := Option.map_eq_some_iff.1 hmemory
  obtain ⟨team', hteam', hleft'⟩ := Option.map_eq_some_iff.1 hdatabase
  obtain ⟨hscrubbed, hscrubbed'⟩ := dead_letters_scrubbed Bool Unit sampleLifecycle
  exact ⟨⟨team, hleft, hscrubbed team (reachable_ends hteam)⟩, team', hleft',
    hscrubbed' team' (reachable_ends hteam')⟩

/-- After the lease of the last attempt ran out, the content of a deletion that was given up is
still there. -/
theorem expired_deletion_exposed :
    ¬∀ team, (memorySystem Bool Unit sampleLifecycle).Reachable team →
      ScrubbedBut (fun _ => False) (memoryView team.shared.store) := by
  intro hclaim
  have hends : (ends (memoryIndexStores id) sampleLifecycle.memory .empty (fun _ _ => true)
      sampleExpiry).map (leftOvers <| memoryView ·.shared.store) = some ["vegan"] := by
    decide
  obtain ⟨team, hteam, hleft⟩ := Option.map_eq_some_iff.1 hends
  have hreachable : ((memorySystem Bool Unit sampleLifecycle).guarded fun _ _ => True).Reachable
      team := .execGuarded (fun _ _ _ => trivial) (.init ⟨_, rfl, rfl⟩) hteam
  have hscrubbed := hclaim team hreachable.of_guarded
  have hmem : "vegan" ∈ leftOvers (memoryView team.shared.store) := by
    rw [hleft]
    exact List.mem_singleton_self _
  obtain ⟨index, hindex, hitem⟩ := List.mem_flatMap.1 hmem
  obtain ⟨hstored, hdead⟩ := List.mem_filter.1 hindex
  obtain ⟨item, hfound, hcontent⟩ := List.mem_map.1 hitem
  obtain ⟨hget, hdeleting⟩ := Option.filter_eq_some_iff.1 (Option.mem_toList.1 hfound)
  simp only [Bool.and_eq_true, decide_eq_true_eq] at hdead hdeleting
  obtain hclean | hfalse := hscrubbed index hstored hdead.1 hdead.2 item hget
    ⟨hdeleting.1.1.1, hdeleting.1.1.2, hdeleting.1.2, hdeleting.2⟩
  · exact absurd (hcontent.symm.trans hclean.content) (by decide)
  · exact hfalse

end Samples

end OpenIntentRouter.Memories.DeadLetters
