import OpenIntentRouter.Repositories.TurnOutbox

/-!
# The life of an outbox entry

Both repositories, each called serially. `Change` says what a call may do to the
entries; `memory_change` and `database_change` show that the repositories do
only that, and the lifecycle is proved for `Change`. In memory two calls leave
it: `fail` on a completed entry (`late_fail_reopens`), since `_claimed` lets
every caller pass there, and `add_idempotent` of a used id under a new key.

Any workers and times. The runs add `Sound` events and, in memory, neither fail a completed
entry nor add a used id under a new key (`Orderly`, `AddsSound`).

* `Change.inv`: what a change keeps;
* `outbox_lifecycle`: final entries stay final, attempts are bounded, leases
  and their tokens are respected.
-/
namespace OpenIntentRouter.Outbox

open Core Schemas Repositories.Outbox

def isFinal : OutboxStatus → Bool
  | .completed | .deadLetter => true
  | .pending | .claimed | .retry => false

def latest (grants : List Grant) (outboxId : String) : Option Grant :=
  grants.find? (·.outboxId = outboxId)

abbrev Label := Call × Except OutboxError OutboxReply

/-- `complete` or `fail`. -/
def Call.settles : Call → Bool
  | .complete .. | .fail .. => true
  | .addIdempotent _ | .claim .. => false

/-! ## What a call may do -/

/-- An entry that can be added: attempts are left unless it is final, and it
brings no lease. -/
structure Sound (event : OutboxEvent) : Prop where
  attempts : event.attemptCount ≤ event.maxAttempts
  left : isFinal event.status = false → event.attemptCount < event.maxAttempts
  owner : event.leaseOwner = none
  token : event.leaseToken = none
  expiry : event.leaseExpiresAt = none

inductive Change (entries : Entries) (grants : List Grant) : Label → Entries → List Grant → Prop where
  | same {l : Label} : (∀ event, l.2 ≠ .ok (.claimed (some event))) →
    Change entries grants l entries grants
  | added {event : OutboxEvent} {r : Except OutboxError OutboxReply} :
    Sound event → entries.get? event.outboxId = none → (∀ event, r ≠ .ok (.claimed (some event))) →
    Change entries grants (.addIdempotent event, r) (entries.put event) grants
  | claimed {owner token : String} {tokens : Fin 3 → String} {now : Instant} {lease : Int}
      {event : OutboxEvent} :
    entries.get? event.outboxId = some event → claimable now event = true →
    Change entries grants
      (.claim owner tokens now lease, .ok (.claimed (some (claimedEvent owner token now lease event))))
      (entries.put (claimedEvent owner token now lease event))
      (⟨event.outboxId, owner, token⟩ :: grants)
  | settled {call : Call} {grant : Grant} {event new : OutboxEvent}
      {r : Except OutboxError OutboxReply} :
    call.Presents grant → entries.get? grant.outboxId = some event →
    heldBy grant.owner grant.leaseToken event = true → new.outboxId = event.outboxId →
    new.maxAttempts = event.maxAttempts → new.leaseExpiresAt = none → new.leaseOwner = none →
    new.attemptCount ≤ event.attemptCount + 1 →
    (isFinal new.status = false → new.attemptCount < new.maxAttempts) →
    (∀ event, r ≠ .ok (.claimed (some event))) →
    Change entries grants (call, r) (entries.put new) grants

structure Kept (grants : List Grant) (event : OutboxEvent) : Prop where
  attempts : event.attemptCount ≤ event.maxAttempts
  left : isFinal event.status = false → event.attemptCount < event.maxAttempts
  unleased : event.status ≠ .claimed → event.leaseExpiresAt = none
  held : ∀ owner token, heldBy owner token event = true →
    latest grants event.outboxId = some ⟨event.outboxId, owner, token⟩

def Inv (entries : Entries) (grants : List Grant) : Prop :=
  ∀ id event, entries.get? id = some event → Kept grants event

variable {event : OutboxEvent} {now : Instant} {owner outboxId token : String}
  {r : Except OutboxError OutboxReply} {repo : MemoryTurnOutboxRepository}

section Change

variable {entries entries' : Entries} {grants grants' : List Grant} {l : Label}

theorem claimable_not_final (h : claimable now event = true) : isFinal event.status = false := by
  simp only [claimable, Bool.or_eq_true, Bool.and_eq_true, decide_eq_true_eq] at h
  rcases h with ⟨hs | hs, -⟩ | ⟨hs, -⟩ <;> rw [hs] <;> rfl

theorem Inv.put {new : OutboxEvent} (hi : Inv entries grants) (hn : Kept grants' new)
    (hgrants : ∀ id, id ≠ new.outboxId → latest grants' id = latest grants id) :
    Inv (entries.put new) grants' := by
  intro id event hget
  rw [Table.get?_put] at hget
  split at hget
  · cases hget
    exact hn
  · next hne =>
    have hk := hi id event hget
    have hid : event.outboxId = id := outboxId_of_get? hget
    refine ⟨hk.attempts, hk.left, hk.unleased, fun owner token hh => ?_⟩
    rw [hgrants _ (hid ▸ Ne.symm hne)]
    exact hk.held owner token hh

theorem Change.inv (hc : Change entries grants l entries' grants') (hi : Inv entries grants) :
    Inv entries' grants' := by
  cases hc with
  | same _ => exact hi
  | @added event r hs hnone _ =>
    refine hi.put ⟨hs.attempts, hs.left, fun _ => hs.expiry, fun owner token hh => ?_⟩ fun _ _ => rfl
    have hheld := (heldBy_iff.1 hh).2.1
    rw [hs.owner] at hheld
    cases hheld
  | @claimed owner token tokens now lease event hget hclaim =>
    have hk := hi _ event hget
    have hleft := hk.left (claimable_not_final hclaim)
    refine hi.put ⟨hk.attempts, fun _ => hleft, fun hs => absurd rfl hs, fun owner' token' hh => ?_⟩
      fun id hne => ?_
    · obtain ⟨-, howner, htoken⟩ := heldBy_iff.1 hh
      cases howner
      cases htoken
      simp [latest, claimedEvent]
    · have hid : event.outboxId ≠ id := Ne.symm hne
      simp [latest, hid]
  | @settled call grant event new r hp hget hheld hid hmax hexpiry howner hattempts hleft _ =>
    have hk := hi _ event hget
    have hopen : isFinal event.status = false := by
      rw [(heldBy_iff.1 hheld).1]
      rfl
    have hbound : new.attemptCount ≤ new.maxAttempts := by
      have hlt := hk.left hopen
      omega
    refine hi.put ⟨hbound, hleft, fun _ => hexpiry, fun owner' token' hh => ?_⟩ fun _ _ => rfl
    have hnew := (heldBy_iff.1 hh).2.1
    rw [howner] at hnew
    cases hnew

theorem Change.final (hc : Change entries grants l entries' grants') {id : String}
    (hget : entries.get? id = some event) (hfinal : isFinal event.status = true) :
    entries'.get? id = some event := by
  cases hc with
  | same _ => exact hget
  | @added new r _ hnone _ =>
    rw [Table.get?_put_ne]
    · exact hget
    · rintro rfl
      rw [hget] at hnone
      cases hnone
  | @claimed owner token tokens now lease old hold hclaim =>
    rw [Table.get?_put_ne]
    · exact hget
    · rintro rfl
      cases hget.symm.trans hold
      rw [claimable_not_final hclaim] at hfinal
      cases hfinal
  | @settled call grant old new r _ hold hheld hid _ _ _ _ _ _ =>
    rw [Table.get?_put_ne]
    · exact hget
    · have hkey : old.outboxId = grant.outboxId := outboxId_of_get? hold
      rintro rfl
      rw [hid, hkey] at hget
      cases hget.symm.trans hold
      rw [(heldBy_iff.1 hheld).1] at hfinal
      cases hfinal

/-- An entry that a claim hands out has no unexpired lease. -/
theorem Change.handed_out (hc : Change entries grants l entries' grants') (hi : Inv entries grants)
    {tokens : Fin 3 → String} {lease : Int}
    (hl : l = (.claim owner tokens now lease, .ok (.claimed (some event)))) :
    ∃ old, entries.get? event.outboxId = some old ∧
      ∀ expiry, old.leaseExpiresAt = some expiry → expiry ≤ now := by
  cases hc with
  | same hno =>
    subst hl
    exact absurd rfl (hno event)
  | added _ _ _ => cases hl
  | @claimed owner' token' tokens' now' lease' old hold hclaim =>
    simp only [Prod.mk.injEq, Call.claim.injEq, Except.ok.injEq, OutboxReply.claimed.injEq,
      Option.some.injEq] at hl
    obtain ⟨⟨rfl, rfl, rfl, rfl⟩, rfl⟩ := hl
    refine ⟨old, hold, fun expiry he => ?_⟩
    simp only [claimable, Bool.or_eq_true, Bool.and_eq_true, decide_eq_true_eq, he,
      Option.any_some] at hclaim
    rcases hclaim with ⟨hs, -⟩ | ⟨-, hle⟩
    · have hnone := (hi _ old hold).unleased (by rcases hs with hs | hs <;> rw [hs] <;> decide)
      rw [hnone] at he
      cases he
    · exact hle
  | settled _ _ _ _ _ _ _ _ _ hno =>
    cases hl
    exact absurd rfl (hno event)

/-- `complete` and `fail` change only what they present the latest claim of. -/
theorem Change.fenced (hc : Change entries grants l entries' grants') (hi : Inv entries grants)
    (hl : Call.settles l.1 = true) {id : String} (hne : entries'.get? id ≠ entries.get? id) :
    ∃ grant, latest grants id = some grant ∧ l.1.Presents grant := by
  cases hc with
  | same _ => exact absurd rfl hne
  | added _ _ _ => cases hl
  | claimed _ _ => cases hl
  | @settled call grant event new r hp hget hheld hid _ _ _ _ _ _ =>
    have hkey : event.outboxId = grant.outboxId := outboxId_of_get? hget
    have hsame : id = grant.outboxId := by
      by_contra hother
      refine hne (Table.get?_put_ne _ ?_)
      rw [hid, hkey]
      exact Ne.symm hother
    have hlatest := (hi _ event hget).held _ _ hheld
    rw [hkey] at hlatest
    exact ⟨grant, by rw [hsame, hlatest], hp⟩

end Change

/-! ## The lifecycle -/

structure Lifecycle {S : Type} (T : LTS S Label) (entries : S → Entries) (grants : S → List Grant) :
    Prop where
  absorbing : ∀ {s s' : S}, T.Reachable s → T.Steps s s' → ∀ id event,
    (entries s).get? id = some event → isFinal event.status = true →
    ∃ event', (entries s').get? id = some event' ∧ event'.status = event.status
  bounded : ∀ {s : S}, T.Reachable s → ∀ id event, (entries s).get? id = some event →
    event.attemptCount ≤ event.maxAttempts
  handedOut : ∀ {s s' : S} {owner : String} {tokens : Fin 3 → String} {now : Instant} {lease : Int}
    {event : OutboxEvent}, T.Reachable s →
    T.step s (.claim owner tokens now lease, .ok (.claimed (some event))) s' →
    ∃ old, (entries s).get? event.outboxId = some old ∧
      ∀ expiry, old.leaseExpiresAt = some expiry → expiry ≤ now
  fenced : ∀ {s s' : S} {l : Label}, T.Reachable s → T.step s l s' → Call.settles l.1 = true →
    ∀ id, (entries s').get? id ≠ (entries s).get? id →
    ∃ grant, latest (grants s) id = some grant ∧ l.1.Presents grant

theorem lifecycle_of_change {S : Type} {T : LTS S Label} {entries : S → Entries}
    {grants : S → List Grant} (hinit : ∀ s, T.init s → Inv (entries s) (grants s))
    (hstep : ∀ s l s', T.step s l s' → Change (entries s) (grants s) l (entries s') (grants s')) :
    Lifecycle T entries grants := by
  have hinv : ∀ {s : S}, T.Reachable s → Inv (entries s) (grants s) := by
    intro s hs
    refine LTS.Inductive.reachable (I := fun s => Inv (entries s) (grants s)) ⟨hinit, ?_⟩ hs
    exact fun s l s' hi hst => (hstep s l s' hst).inv hi
  refine ⟨fun hr hs id event hget hfinal => ?_, fun hr id event hget => (hinv hr id event hget).attempts,
    fun hr hst => (hstep _ _ _ hst).handed_out (hinv hr) rfl,
    fun hr hst hl id hne => (hstep _ _ _ hst).fenced (hinv hr) hl hne⟩
  refine LTS.Steps.keeps (R := fun s s' => (entries s).get? id = some event →
    (entries s').get? id = some event) ?_ ?_ ?_ hr hs hget |> fun hkept => ⟨event, hkept, rfl⟩
  · exact fun _ h => h
  · exact fun _ _ _ h1 h2 h => h2 (h1 h)
  · exact fun s l s' _ hst h => (hstep s l s' hst).final h hfinal

/-! ## The repositories -/

def memory : LTS MemoryTurnOutboxRepository Label where
  init := (· = .empty)
  step repo l repo' := repo.call l.1 = (l.2, repo')

def database : LTS OutboxTables Label where
  init := (· = ⟨.empty, []⟩)
  step d l d' := (Db.prog l.1).run d = (l.2, d')

/-- In memory: an event that is stored is sound and its id is new, and no
completed entry is failed. -/
def Orderly (repo : MemoryTurnOutboxRepository) (l : Label) : Prop :=
  match l.1 with
  | .addIdempotent event =>
    (repo.idempotencyKeys.get? event.idempotencyKey).filter (· ≠ "") = none →
      Sound event ∧ repo.events.get? event.outboxId = none
  | .fail outboxId _ _ _ _ _ =>
    ∀ event, repo.events.get? outboxId = some event → event.status ≠ .completed
  | .claim .. | .complete .. => True

def AddsSound (d : OutboxTables) (l : Label) : Prop :=
  match l.1 with
  | .addIdempotent event =>
    d.rows.get? event.outboxId = none → d.rows.values.all (·.idempotencyKey ≠ event.idempotencyKey) →
      Sound event
  | .claim .. | .complete .. | .fail .. => True

theorem failedEvent_left {retryAt : Instant} {errorCode : String}
    (h : isFinal (failedEvent now retryAt errorCode event).status = false) :
    (failedEvent now retryAt errorCode event).attemptCount < event.maxAttempts := by
  simp only [failedEvent] at h ⊢
  split at h
  · cases h
  · next hlt => omega

theorem change_failed {entries : Entries} {grants : List Grant} {retryAt : Instant}
    {errorCode : String} (hget : entries.get? outboxId = some event)
    (hheld : heldBy owner token event = true) (hr : ∀ event, r ≠ .ok (.claimed (some event))) :
    Change entries grants (.fail outboxId owner token now retryAt errorCode, r)
      (entries.put (failedEvent now retryAt errorCode event)) grants :=
  @Change.settled _ _ _ ⟨outboxId, owner, token⟩ _ _ _ rfl hget hheld rfl rfl rfl rfl (le_refl _)
    failedEvent_left hr

theorem change_completed {entries : Entries} {grants : List Grant}
    (hget : entries.get? outboxId = some event) (hheld : heldBy owner token event = true)
    (hr : ∀ event, r ≠ .ok (.claimed (some event))) :
    Change entries grants (.complete outboxId owner token now, r)
      (entries.put (completedEvent now event)) grants :=
  @Change.settled _ _ _ ⟨outboxId, owner, token⟩ _ _ _ rfl hget hheld rfl rfl rfl rfl (Nat.le_succ _)
    (fun h => by cases h) hr

/-- What `_claimed` lets pass. -/
theorem claimed_ok (h : repo.claimed outboxId owner token = .ok event) :
    repo.events.get? outboxId = some event ∧
      (event.status = .completed ∨ heldBy owner token event = true) := by
  unfold MemoryTurnOutboxRepository.claimed at h
  split at h
  · cases h
  · next event' hget =>
    split at h
    · next hs =>
      cases h
      exact ⟨hget, .inl hs⟩
    · split at h
      · cases h
      · next hheld =>
        cases h
        exact ⟨hget, .inr (by simpa using hheld)⟩

theorem memory_change {repo' : MemoryTurnOutboxRepository} {l : Label} (ho : Orderly repo l)
    (hst : memory.step repo l repo') :
    Change repo.events repo.grants l repo'.events repo'.grants := by
  obtain ⟨call, r⟩ := l
  change repo.call call = (r, repo') at hst
  cases call with
  | addIdempotent event =>
    simp only [MemoryTurnOutboxRepository.call, MemoryTurnOutboxRepository.addIdempotent] at hst
    split at hst
    · split at hst <;> cases hst <;> exact .same (by rintro _ ⟨⟩)
    · next hkey =>
      cases hst
      obtain ⟨hs, hnew⟩ := ho hkey
      exact .added hs hnew (by rintro _ ⟨⟩)
  | claim owner tokens now lease =>
    simp only [MemoryTurnOutboxRepository.call, MemoryTurnOutboxRepository.claim] at hst
    split at hst
    · cases hst
      exact .same (by rintro _ ⟨⟩)
    · next event hdue =>
      cases hst
      obtain ⟨hget, hclaim⟩ := firstDue_mem hdue
      exact .claimed hget hclaim
  | complete outboxId owner token now =>
    simp only [MemoryTurnOutboxRepository.call, MemoryTurnOutboxRepository.complete] at hst
    split at hst
    · cases hst
      exact .same (by rintro _ ⟨⟩)
    · next event hok =>
      obtain ⟨hget, hpass⟩ := claimed_ok hok
      split at hst
      · cases hst
        exact .same (by rintro _ ⟨⟩)
      · next hopen =>
        cases hst
        exact change_completed hget (hpass.resolve_left hopen) (by rintro _ ⟨⟩)
  | fail outboxId owner token now retryAt errorCode =>
    simp only [MemoryTurnOutboxRepository.call, MemoryTurnOutboxRepository.fail] at hst
    split at hst
    · cases hst
      exact .same (by rintro _ ⟨⟩)
    · next event hok =>
      obtain ⟨hget, hpass⟩ := claimed_ok hok
      cases hst
      exact change_failed hget (hpass.resolve_left (ho event hget)) (by rintro _ ⟨⟩)

theorem refresh_run {reply : OutboxEvent → OutboxReply} {d : OutboxTables} {row : OutboxEvent}
    (hget : d.rows.get? outboxId = some row) :
    (Db.refresh outboxId reply).run d = (.ok (reply row), d) := by
  simp only [Db.refresh, Db.read, Prog.run_select, hget, Prog.run_ret]

theorem database_change {d d' : OutboxTables} {l : Label} (ho : AddsSound d l)
    (hst : database.step d l d') : Change d.rows d.grants l d'.rows d'.grants := by
  obtain ⟨call, r⟩ := l
  change (Db.prog call).run d = (r, d') at hst
  cases call with
  | addIdempotent event =>
    simp only [Db.prog, Db.addIdempotent, Prog.run_commit] at hst
    split at hst
    · next d1 hw =>
      split at hw
      · cases hw
      · next hfresh =>
        cases hw
        cases hst
        simp only [Bool.or_eq_true, not_or, Bool.not_eq_true] at hfresh
        have hnew := (Table.contains_eq_false _ _).1 hfresh.1
        refine .added (ho hnew ?_) hnew (by rintro _ ⟨⟩)
        simpa [List.any_eq_false] using hfresh.2
    · simp only [Db.read, Prog.run_select] at hst
      split at hst <;> cases hst <;> exact .same (by rintro _ ⟨⟩)
  | claim owner tokens now lease =>
    simp only [Db.prog, List.ofFn_succ, Db.claim, Db.read, Prog.run_select] at hst
    split at hst
    · cases hst
      exact .same (by rintro _ ⟨⟩)
    · next event hdue =>
      obtain ⟨hget, hclaim⟩ := firstDue_mem hdue
      simp only [Prog.run_lock, hget, Option.filter_some, hclaim, if_true, Prog.run_commit] at hst
      rw [refresh_run (Table.get?_put_self _ _)] at hst
      cases hst
      exact .claimed hget hclaim
  | complete outboxId owner token now =>
    simp only [Db.prog, Db.complete, Db.read, Prog.run_select] at hst
    split at hst
    · cases hst
      exact .same (by rintro _ ⟨⟩)
    · simp only [Prog.run_lock] at hst
      split at hst
      · cases hst
        exact .same (by rintro _ ⟨⟩)
      · next row hrow =>
        obtain ⟨hget, hheld⟩ := Option.filter_eq_some_iff.1 hrow
        have hid : row.outboxId = outboxId := outboxId_of_get? hget
        have hput : (d.rows.put (completedEvent now row)).get? outboxId =
            some (completedEvent now row) := by
          rw [← hid]
          exact Table.get?_put_self _ (completedEvent now row)
        simp only [Prog.run_commit, hget, Option.isSome_some, if_true] at hst
        rw [refresh_run hput] at hst
        cases hst
        exact change_completed hget hheld (by rintro _ ⟨⟩)
  | fail outboxId owner token now retryAt errorCode =>
    simp only [Db.prog, Db.fail, Db.read, Prog.run_select] at hst
    split at hst
    · cases hst
      exact .same (by rintro _ ⟨⟩)
    · next row hrow =>
      obtain ⟨hget, hheld⟩ := Option.filter_eq_some_iff.1 hrow
      have hid : row.outboxId = outboxId := outboxId_of_get? hget
      have hput : (d.rows.put (failedEvent now retryAt errorCode row)).get? outboxId =
          some (failedEvent now retryAt errorCode row) := by
        rw [← hid]
        exact Table.get?_put_self _ (failedEvent now retryAt errorCode row)
      simp only [Prog.run_lock, hget, Prog.run_commit, Db.flushFailed_self] at hst
      rw [refresh_run hput] at hst
      cases hst
      exact change_failed hget hheld (by rintro _ ⟨⟩)

inductive Implementation where
  | memory | database

namespace Implementation

def State : Implementation → Type
  | .memory => MemoryTurnOutboxRepository
  | .database => OutboxTables

/-- The runs whose calls add sound events and, in memory, fail no completed entry. -/
def runs : (i : Implementation) → LTS i.State Label
  | .memory => Outbox.memory.guarded Orderly
  | .database => Outbox.database.guarded AddsSound

def entries : (i : Implementation) → i.State → Entries
  | .memory => fun repo : MemoryTurnOutboxRepository => repo.events
  | .database => fun tables : OutboxTables => tables.rows

def grants : (i : Implementation) → i.State → List Grant
  | .memory => fun repo : MemoryTurnOutboxRepository => repo.grants
  | .database => fun tables : OutboxTables => tables.grants

end Implementation

/-- **The lifecycle of an outbox entry.** It holds of both implementations in every
run whose calls add sound events and, in memory, fail no completed entry. -/
theorem outbox_lifecycle (i : Implementation) : Lifecycle i.runs i.entries i.grants := by
  cases i with
  | memory =>
    refine lifecycle_of_change ?_ fun _ _ _ hst => memory_change hst.1 hst.2
    rintro repo rfl id event hget
    cases hget
  | database =>
    refine lifecycle_of_change ?_ fun _ _ _ hst => database_change hst.1 hst.2
    rintro d rfl id event hget
    cases hget

/-! ## A completed entry that is failed -/

def pendingEvent : OutboxEvent :=
  { outboxId := "outbox"
    turnId := "turn"
    eventType := "turn.completed"
    idempotencyKey := "turn:turn:completed"
    payload := []
    status := .pending
    attemptCount := 0
    maxAttempts := 5
    availableAt := 0
    leaseOwner := none
    leaseToken := none
    leaseExpiresAt := none
    publishedAt := none
    lastErrorCode := none
    createdAt := none
    updatedAt := none }

def afterCalls (calls : List Call) : MemoryTurnOutboxRepository :=
  calls.foldl (fun repo call => (repo.call call).2) .empty

/-- An entry is added and claimed. -/
def claiming : List Call :=
  [.addIdempotent pendingEvent, .claim "worker" (fun _ => "token") 1 10]

def completing : Call := .complete "outbox" "worker" "token" 2

/-- A guarded run: the claim of the entry is presented to complete it, and a later claim leaves it
completed. -/
theorem outbox_lifecycle_completing :
    let later := afterCalls (claiming ++ [completing, .claim "worker" (fun _ => "next") 30 10])
    (∃ grant, latest (afterCalls claiming).grants "outbox" = some grant ∧
      completing.Presents grant) ∧
    ∃ event, later.events.get? "outbox" = some event ∧ event.status = .completed := by
  intro later
  have hadds : Orderly .empty (.addIdempotent pendingEvent, .ok (.added pendingEvent true)) :=
    fun _ => ⟨⟨by decide, fun _ => by decide, rfl, rfl, rfl⟩, rfl⟩
  have hclaimed : (Implementation.runs .memory).Reachable (afterCalls claiming) :=
    .step (.step (.init rfl) ⟨hadds, rfl⟩)
      (l := (.claim "worker" (fun _ => "token") 1 10, _)) ⟨trivial, rfl⟩
  have hcompletes : (Implementation.runs .memory).step (afterCalls claiming)
      (completing, _) (afterCalls (claiming ++ [completing])) := ⟨trivial, rfl⟩
  have hlater : (Implementation.runs .memory).step (afterCalls (claiming ++ [completing]))
      (.claim "worker" (fun _ => "next") 30 10, .ok (.claimed none)) later := ⟨trivial, rfl⟩
  obtain ⟨habsorbing, -, -, hfenced⟩ := outbox_lifecycle .memory
  exact ⟨hfenced hclaimed hcompletes rfl "outbox" (by decide),
    habsorbing (hclaimed.step hcompletes) (.single ⟨_, hlater⟩) "outbox" _ rfl rfl⟩

theorem reachable_afterCalls (calls : List Call) : memory.Reachable (afterCalls calls) := by
  have hrun : ∀ repo, memory.Reachable repo →
      memory.Reachable (calls.foldl (fun repo call => (repo.call call).2) repo) := by
    induction calls with
    | nil => exact fun _ h => h
    | cons call calls ih =>
      intro repo h
      exact ih _ (.step (l := (call, (repo.call call).1)) h rfl)
  exact hrun _ (.init rfl)

/-- The entry is added, claimed and completed; then a caller that never held it
fails it, and it is open again. -/
theorem late_fail_reopens :
    ∃ repo repo' event, memory.Reachable repo ∧ memory.step repo
        (.fail "outbox" "stranger" "no_token" 3 9 "late", .ok (.updated event)) repo' ∧
      (repo.events.get? "outbox").map (·.status) = some .completed ∧
      (repo'.events.get? "outbox").map (·.status) = some .retry := by
  refine ⟨afterCalls (claiming ++ [completing]),
    ((afterCalls (claiming ++ [completing])).call
      (.fail "outbox" "stranger" "no_token" 3 9 "late")).2,
    failedEvent 3 9 "late" (completedEvent 2 (claimedEvent "worker" "token" 1 10 pendingEvent)),
    reachable_afterCalls _, ?_, ?_, ?_⟩
  · exact Prod.ext (by decide) rfl
  · decide
  · decide

end OpenIntentRouter.Outbox
