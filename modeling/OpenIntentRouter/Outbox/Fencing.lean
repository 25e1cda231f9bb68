import OpenIntentRouter.Outbox.Lifecycle

/-!
# Fencing off former holders

The database outbox under any number of workers, one statement at a time.
`claim` and `complete` test the row in the `UPDATE` that changes it. `fail`
tests it in a `SELECT` and writes it back by primary key, whoever holds it by
then (`overtaken_fail_clears_lease`).

* `StillHeld`: the row `fail` writes is held as it was selected;
* `Writes`: what a commit does under that condition;
* `former_holder_fenced`: a claim that was taken over changes nothing any more,
  and a lease ends by its holder or by its expiry.
-/
namespace OpenIntentRouter.Outbox

open Core Schemas Repositories.Outbox

/-! ## What a call commits -/

/-- When `fail` writes its row, the row still has the owner and the token by
which it was selected. -/
def StillHeld : Site → OutboxTables → Prop
  | .statement, _ => True
  | .failUpdate outboxId owner leaseToken, d =>
    ∀ row ∈ d.rows.get? outboxId, heldBy owner leaseToken row = true

instance (site : Site) (d : OutboxTables) : Decidable (StillHeld site d) :=
  match site with
  | .statement => .isTrue trivial
  | .failUpdate outboxId owner leaseToken =>
    inferInstanceAs (Decidable (∀ row ∈ d.rows.get? outboxId, heldBy owner leaseToken row = true))

def tokensOf : Call → List String
  | .claim _ leaseTokens _ _ => List.ofFn leaseTokens
  | _ => []

def claimsAt : Call → Option Instant
  | .claim _ _ now _ => some now
  | _ => none

/-- A commit of a call that holds the locks `h`. -/
inductive Writes (call : Call) (h : Set String) (d : OutboxTables) : OutboxTables → Prop where
  | added {event : OutboxEvent} :
    call = .addIdempotent event → d.rows.get? event.outboxId = none →
    Writes call h d { d with rows := d.rows.put event }
  | claimed {owner token : String} {now : Instant} {lease : Int} {row : OutboxEvent} :
    claimsAt call = some now → token ∈ tokensOf call → row.outboxId ∈ h →
    d.rows.get? row.outboxId = some row → claimable now row = true →
    Writes call h d
      { rows := d.rows.put (claimedEvent owner token now lease row)
        grants := ⟨row.outboxId, owner, token⟩ :: d.grants }
  | settled {owner token : String} {row new : OutboxEvent} :
    call.Presents ⟨row.outboxId, owner, token⟩ → row.outboxId ∈ h →
    d.rows.get? row.outboxId = some row → heldBy owner token row = true →
    new.outboxId = row.outboxId →
    (new.leaseToken = none ∨ new.leaseToken = row.leaseToken) →
    Writes call h d { d with rows := d.rows.put new }

variable {outboxId owner : String} {com : Bool} {now : Instant} {call : Call}

section Interleaving

variable {ι : Type} [DecidableEq ι] {calls : ι → Call} {i : ι} {h : Set String}
  {d d' : OutboxTables}

theorem relies_row {row : OutboxEvent} (hk : outboxId ∈ h) (hget : d.rows.get? outboxId = some row)
    (hr : Relies (fun i => Writes (calls i)) i h d d') : d'.rows.get? outboxId = some row := by
  refine hr.keeps (P := fun d' => d'.rows.get? outboxId = some row) ?_ hget
  intro j _ h' hdis d1 d2 hd hw
  have hother : ∀ id, id ∈ h' → id ≠ outboxId := by
    rintro _ hid rfl
    exact Set.disjoint_left.1 hdis hk hid
  cases hw with
  | @added event _ hnone =>
    rw [Table.get?_put_ne]
    · exact hd
    · rintro rfl
      rw [hd] at hnone
      cases hnone
  | @claimed owner token now lease old _ _ hlock _ _ =>
    dsimp only
    rw [Table.get?_put_ne]
    · exact hd
    · exact hother _ hlock
  | @settled owner token old new _ hlock _ _ hid _ =>
    dsimp only
    rw [Table.get?_put_ne]
    · exact hd
    · rw [hid]
      exact hother _ hlock

/-! ## The calls keep it -/

variable (calls) in
abbrev Keeps (i : ι) : Bool → Set String → OutboxProg → OutboxTables → Prop :=
  Safe (fun i => Writes (calls i)) StillHeld i fun _ _ _ => True

omit [DecidableEq ι] in
theorem keeps_ret {com : Bool} (r : Except OutboxError OutboxReply) : Keeps calls i com h (.ret r) d :=
  fun _ _ => trivial

omit [DecidableEq ι] in
theorem keeps_refresh {com : Bool} (outboxId : String) (reply : OutboxEvent → OutboxReply) :
    Keeps calls i com h (Db.refresh outboxId reply) d := by
  intro d1 _ _
  dsimp only
  split
  · exact keeps_ret _
  · exact keeps_ret _

omit [DecidableEq ι] in
theorem keeps_rollback {com : Bool} {next : OutboxProg} (hn : ∀ d, Keeps calls i com ∅ next d) :
    Keeps calls i com h (Db.rollback next) d :=
  fun d' _ => hn d'

omit [DecidableEq ι] in
theorem keeps_add {com : Bool} {event : OutboxEvent} (hi : calls i = .addIdempotent event) :
    Keeps calls i com h (Db.addIdempotent event) d := by
  intro d1 _
  dsimp only
  split
  · next d2 hw =>
    split at hw
    · cases hw
    · next hfresh =>
      cases hw
      simp only [Bool.or_eq_true, not_or, Bool.not_eq_true] at hfresh
      exact ⟨.added hi ((Table.contains_eq_false _ _).1 hfresh.1), keeps_ret _⟩
  · intro d2 _ _
    dsimp only
    split
    · exact keeps_ret _
    · exact keeps_ret _

theorem keeps_claim {lease : Int} {tokens : List String} (hi : claimsAt (calls i) = some now)
    (ht : ∀ token ∈ tokens, token ∈ tokensOf (calls i)) :
    Keeps calls i com ∅ (Db.claim owner now lease tokens) d := by
  induction tokens generalizing d with
  | nil => exact keeps_ret _
  | cons token tokens ih =>
    intro d1 _ _
    dsimp only
    split
    · exact keeps_ret _
    · next due _ =>
      intro d2 _ _
      dsimp only
      split
      · exact keeps_rollback fun _ => ih fun token' hm => ht token' (List.mem_cons_of_mem _ hm)
      · next row hrow =>
        obtain ⟨hget, hclaim⟩ := Option.filter_eq_some_iff.1 hrow
        have hid := outboxId_of_get? hget
        intro d3 hr3
        refine ⟨?_, keeps_refresh _ _⟩
        have hget3 := relies_row (.inl rfl) hget hr3
        dsimp only
        rw [← hid] at hget3 ⊢
        exact .claimed hi (ht token List.mem_cons_self) (.inl rfl) hget3 hclaim

theorem keeps_complete {token : String} (hi : (calls i).Presents ⟨outboxId, owner, token⟩) :
    Keeps calls i com ∅ (Db.complete outboxId owner token now) d := by
  intro d1 _ _
  dsimp only
  split
  · exact keeps_ret _
  · intro d2 _ _
    dsimp only
    split
    · exact keeps_ret _
    · next row hrow =>
      obtain ⟨hget, hheld⟩ := Option.filter_eq_some_iff.1 hrow
      have hid := outboxId_of_get? hget
      intro d3 hr3
      have hget3 := relies_row (.inl rfl) hget hr3
      constructor
      · subst hid
        exact .settled hi (.inl rfl) hget3 hheld rfl (.inl rfl)
      · split
        · exact keeps_refresh _ _
        · exact keeps_ret _

theorem keeps_fail {token : String} {retryAt : Instant} {errorCode : String}
    (hi : (calls i).Presents ⟨outboxId, owner, token⟩) :
    Keeps calls i com ∅ (Db.fail outboxId owner token now retryAt errorCode) d := by
  intro d1 _ _
  dsimp only
  split
  · exact keeps_ret _
  · next loaded _ =>
    intro d2 _ hsite
    dsimp only
    split
    · exact keeps_ret _
    · next row hget =>
      have hid := outboxId_of_get? hget
      have hheld := hsite row hget
      intro d3 hr3
      have hget3 := relies_row (.inl rfl) hget hr3
      refine ⟨?_, keeps_refresh _ _⟩
      subst hid
      refine .settled hi (.inl rfl) hget3 hheld rfl ?_
      change Db.flushed loaded.leaseToken none row.leaseToken = none ∨
        Db.flushed loaded.leaseToken none row.leaseToken = row.leaseToken
      unfold Db.flushed
      split
      · exact .inr rfl
      · exact .inl rfl

theorem keeps_prog (i : ι) (d : OutboxTables) : Keeps calls i false ∅ (Db.prog (calls i)) d := by
  cases hi : calls i with
  | addIdempotent event => exact keeps_add hi
  | claim owner leaseTokens now lease =>
    refine keeps_claim (by rw [hi]; rfl) fun token hm => ?_
    rw [hi]
    exact hm
  | complete outboxId owner token now => exact keeps_complete (by rw [hi]; exact rfl)
  | fail outboxId owner token now retryAt errorCode => exact keeps_fail (by rw [hi]; exact rfl)

/-! ## A call commits once -/

theorem silent_refresh (outboxId : String) (reply : OutboxEvent → OutboxReply) :
    (Db.refresh outboxId reply).Silent := by
  intro d
  dsimp only
  split <;> trivial

theorem once_claim (owner : String) (now : Instant) (lease : Int) (tokens : List String) :
    (Db.claim owner now lease tokens).Once := by
  induction tokens with
  | nil => trivial
  | cons token tokens ih =>
    intro d1
    dsimp only
    split
    · trivial
    · intro d2
      dsimp only
      split
      · exact ⟨trivial, ih⟩
      · exact ⟨silent_refresh _ _, trivial⟩

theorem once_prog (call : Call) : (Db.prog call).Once := by
  cases call with
  | addIdempotent event =>
    refine ⟨trivial, fun d => ?_⟩
    dsimp only
    split <;> trivial
  | claim owner leaseTokens now lease => exact once_claim owner now lease _
  | complete outboxId owner token now =>
    intro d1
    dsimp only
    split
    · trivial
    · intro d2
      dsimp only
      split
      · trivial
      · refine ⟨?_, trivial⟩
        split
        · exact silent_refresh _ _
        · trivial
  | fail outboxId owner token now retryAt errorCode =>
    intro d1
    dsimp only
    split
    · trivial
    · intro d2
      dsimp only
      split
      · trivial
      · exact ⟨silent_refresh _ _, trivial⟩

/-! ## Former holders -/

def Superseded (grant : Grant) (d : OutboxTables) : Prop :=
  grant ∈ d.grants ∧
    ∀ row, d.rows.get? grant.outboxId = some row → row.leaseToken ≠ some grant.leaseToken

/-- What is known of the claims of a run with the commits `commits`. -/
def Granted (calls : ι → Call) (d : OutboxTables) (commits : List ι) : Prop :=
  ∀ grant ∈ d.grants, (d.rows.get? grant.outboxId).isSome = true ∧
    ∃ i ∈ commits, grant.leaseToken ∈ tokensOf (calls i)

theorem isSome_put {entries : Entries} {id : String} (new : OutboxEvent)
    (hs : (entries.get? id).isSome = true) : ((entries.put new).get? id).isSome = true := by
  rw [Table.get?_put]
  split
  · rfl
  · exact hs

omit [DecidableEq ι] in
theorem Granted.writes {i : ι} {commits : List ι} (hg : Granted calls d commits)
    (hw : Writes (calls i) h d d') : Granted calls d' (i :: commits) := by
  have hkeep : ∀ new : OutboxEvent, ∀ grant ∈ d.grants,
      ((d.rows.put new).get? grant.outboxId).isSome = true ∧
        ∃ j ∈ i :: commits, grant.leaseToken ∈ tokensOf (calls j) := by
    intro new grant hm
    obtain ⟨hrow, j, hj, htoken⟩ := hg grant hm
    exact ⟨isSome_put new hrow, j, List.mem_cons_of_mem _ hj, htoken⟩
  cases hw with
  | @added event _ _ => exact hkeep event
  | @settled owner token row new _ _ _ _ _ _ => exact hkeep new
  | @claimed owner token now lease row _ htoken _ hget _ =>
    intro grant hm
    rcases List.mem_cons.1 hm with rfl | hm
    · exact ⟨isSome_put _ (by rw [hget]; rfl), i, List.mem_cons_self, htoken⟩
    · exact hkeep _ grant hm

theorem presents_unique {a b : Grant} (ha : call.Presents a) (hb : call.Presents b) : a = b := by
  cases call with
  | addIdempotent event => exact ha.elim
  | claim owner leaseTokens now lease => exact ha.elim
  | complete outboxId owner token now => exact Eq.trans ha (Eq.symm hb)
  | fail outboxId owner token now retryAt errorCode => exact Eq.trans ha (Eq.symm hb)

theorem Superseded.not_writes {grant : Grant} (hs : Superseded grant d) (hp : call.Presents grant) :
    ¬Writes call h d d' := by
  rintro (⟨hcall, -⟩ | ⟨hclaim, -⟩ | ⟨hpresents, -, hget, hheld, -⟩)
  · rw [hcall] at hp
    exact hp.elim
  · cases call <;> first | exact hp.elim | cases hclaim
  · cases presents_unique hp hpresents
    exact hs.2 _ hget (heldBy_iff.1 hheld).2.2

omit [DecidableEq ι] in
/-- Once superseded, always superseded: no token is drawn twice. -/
theorem Superseded.writes {i : ι} {commits : List ι} {grant : Grant} (hs : Superseded grant d)
    (hg : Granted calls d commits) (hfirst : i ∉ commits)
    (hfresh : ∀ i j, i ≠ j → ∀ token ∈ tokensOf (calls i), token ∉ tokensOf (calls j))
    (hw : Writes (calls i) h d d') : Superseded grant d' := by
  obtain ⟨hm, hrow⟩ := hs
  obtain ⟨hsome, j, hj, hdrawn⟩ := hg grant hm
  cases hw with
  | @added event _ hnone =>
    refine ⟨hm, fun row hget => hrow row ?_⟩
    rw [Table.get?_put_ne] at hget
    · exact hget
    · rintro heq
      rw [← heq, hnone] at hsome
      cases hsome
  | @claimed owner token now lease old _ htoken _ _ _ =>
    refine ⟨List.mem_cons_of_mem _ hm, fun row hget => ?_⟩
    rw [Table.get?_put] at hget
    split at hget
    · cases hget
      rintro ⟨⟩
      refine hfresh i j ?_ _ htoken hdrawn
      rintro rfl
      exact hfirst hj
    · exact hrow row hget
  | @settled owner token old new _ _ hold _ hid hnew =>
    refine ⟨hm, fun row hget => ?_⟩
    rw [Table.get?_put] at hget
    split at hget
    · next heq =>
      cases hget
      rcases hnew with hnone | hsame
      · rw [hnone]
        exact fun hc => by cases hc
      · rw [hsame]
        refine hrow old ?_
        rw [← heq, hid]
        exact hold
    · exact hrow row hget

/-- A lease ends by its holder, or by a claim after its expiry. -/
theorem Writes.lease (hw : Writes call h d d') {row : OutboxEvent}
    (hget : d.rows.get? row.outboxId = some row) (hs : row.status = .claimed)
    (hne : d'.rows.get? row.outboxId ≠ some row) :
    (∃ owner token, heldBy owner token row = true ∧ call.Presents ⟨row.outboxId, owner, token⟩) ∨
    ∃ now, claimsAt call = some now ∧ row.leaseExpiresAt.any (· ≤ now) = true := by
  have hsame : ∀ {old new : OutboxEvent}, d.rows.get? old.outboxId = some old →
      new.outboxId = old.outboxId → (d.rows.put new).get? row.outboxId ≠ some row → old = row := by
    intro old new hold hid hne
    by_contra hother
    refine hne ?_
    rw [Table.get?_put_ne]
    · exact hget
    · intro heq
      rw [← heq, hid] at hget
      exact hother (Option.some.inj (hold.symm.trans hget))
  cases hw with
  | @added event _ hnone =>
    refine absurd ?_ hne
    dsimp only
    rw [Table.get?_put_ne]
    · exact hget
    · rintro heq
      rw [heq, hget] at hnone
      cases hnone
  | @claimed owner token now lease old hclaims _ _ hold hclaim =>
    have hid : (claimedEvent owner token now lease old).outboxId = old.outboxId := rfl
    cases hsame hold hid hne
    refine .inr ⟨now, hclaims, ?_⟩
    simpa [claimable, hs] using hclaim
  | @settled owner token old new hp _ hold hheld hid _ =>
    cases hsame hold hid hne
    exact .inl ⟨owner, token, hheld, hp⟩

end Interleaving

/-! ## Runs -/

section Runs

variable {ι : Type} [DecidableEq ι] (calls : ι → Call)

/-- The calls from `db`, in any order of their statements. -/
def workers (db : OutboxTables) :
    LTS (Pool ι OutboxTables String Site (Except OutboxError OutboxReply)) (Pool.Label ι) :=
  Pool.system (.error .operationalError) db fun i => Db.prog (calls i)

/-- The calls from `db`, as long as `fail` writes what it has selected. -/
def race (db : OutboxTables) :
    LTS (Pool ι OutboxTables String Site (Except OutboxError OutboxReply)) (Pool.Label ι) :=
  (workers calls db).guarded (Pool.Meets StillHeld)

variable {calls} {db : OutboxTables}
  {p p' p'' : Pool ι OutboxTables String Site (Except OutboxError OutboxReply)} {l : Pool.Label ι}

/-- A step changes nothing, or is the first commit of a worker. -/
theorem race_step (hp : (race calls db).Reachable p) (hst : (race calls db).step p l p') :
    (p'.db = p.db ∧ p'.commits = p.commits) ∨
      ∃ i, l = .stmt i ∧ p'.commits = i :: p.commits ∧ i ∉ p.commits ∧
        Writes (calls i) (p.held i) p.db p'.db := by
  have hsafe := Pool.reachable_safe (Q := fun _ _ _ _ => True) (fun _ _ _ => trivial)
    (fun i => keeps_prog i db) hp
  rcases (Pool.sound (fun _ _ _ => trivial) hsafe hst.1 hst.2).2 with hsame | ⟨i, hl, hc, hw⟩
  · exact .inl hsame
  · have honce := Pool.reachable_once (fun i => once_prog (calls i)) (.step hp hst : (race calls db).Reachable p').of_guarded
    have hnodup := honce.nodup
    rw [hc, List.nodup_cons] at hnodup
    exact .inr ⟨i, hl, hc, hnodup.1, hw⟩

theorem granted_reachable (hdb : db.grants = []) (hp : (race calls db).Reachable p) :
    Granted calls p.db p.commits := by
  refine Pool.reachable_keeps (Q := fun _ _ _ _ => True) (P := Granted calls)
    (fun _ _ _ => trivial) (fun i => keeps_prog i db) ?_ ?_ hp
  · intro grant hm
    rw [hdb] at hm
    cases hm
  · exact fun i h d d' commits hg hw => hg.writes hw

/-- **Former holders are fenced off.** If every `fail` writes a row that is held
as it was selected, a worker presenting a claim that was taken over changes
nothing from then on; and a claimed entry changes only by its holder or by a
claim after its lease. The tokens of different claims are different. -/
theorem former_holder_fenced
    (hfresh : ∀ i j, i ≠ j → ∀ token ∈ tokensOf (calls i), token ∉ tokensOf (calls j))
    (hdb : db.grants = []) (hp : (race calls db).Reachable p) (hs : (race calls db).Steps p p')
    (hst : (race calls db).step p' l p'') :
    (∀ grant, Superseded grant p.db → ∀ i, l = .stmt i → (calls i).Presents grant →
      p''.db = p'.db) ∧
    (∀ row, p'.db.rows.get? row.outboxId = some row → row.status = .claimed →
      p''.db.rows.get? row.outboxId ≠ some row →
      ∃ i, l = .stmt i ∧
        ((∃ owner token, heldBy owner token row = true ∧
          (calls i).Presents ⟨row.outboxId, owner, token⟩) ∨
        ∃ now, claimsAt (calls i) = some now ∧ row.leaseExpiresAt.any (· ≤ now) = true)) := by
  have hp' := hp.steps hs
  constructor
  · rintro grant hsup i rfl hpresents
    have hsup' : Superseded grant p'.db := by
      refine LTS.Steps.keeps (R := fun p p' => Superseded grant p.db → Superseded grant p'.db)
        ?_ ?_ ?_ hp hs hsup
      · exact fun _ h => h
      · exact fun _ _ _ h1 h2 h => h2 (h1 h)
      intro a l b ha hab hsup
      rcases race_step ha hab with ⟨hd, -⟩ | ⟨i, -, -, hfirst, hw⟩
      · rw [hd]
        exact hsup
      · exact hsup.writes (granted_reachable hdb ha) hfirst hfresh hw
    rcases race_step hp' hst with ⟨hd, -⟩ | ⟨j, hl, -, -, hw⟩
    · exact hd
    · cases hl
      exact absurd hw (hsup'.not_writes hpresents)
  · intro row hget hclaimed hne
    rcases race_step hp' hst with ⟨hd, -⟩ | ⟨i, hl, -, -, hw⟩
    · rw [hd] at hne
      exact absurd hget hne
    · exact ⟨i, hl, hw.lease hget hclaimed hne⟩

end Runs

/-! ## A fail that is overtaken -/

/-- Two workers claim one entry, at 1 and at 20, for ten; the first fails it. -/
def takeover : Fin 3 → Call
  | 0 => .claim "worker_a" (fun _ => "token_a") 1 10
  | 1 => .claim "worker_b" (fun _ => "token_b") 20 10
  | 2 => .fail "outbox" "worker_a" "token_a" 21 40 "error"

def takeoverTables : OutboxTables := ⟨Table.empty.put pendingEvent, []⟩

def takeoverProgs (i : Fin 3) : OutboxProg := Db.prog (takeover i)

def sampleLease (d : OutboxTables) : Option (OutboxStatus × Option String × Option String) :=
  (d.rows.get? "outbox").map fun row => (row.status, row.leaseOwner, row.leaseToken)

/-- The first worker's `fail` has selected the row; the lease is over and the
second worker claims the entry; `fail` takes the entry away from it. -/
theorem overtaken_fail_clears_lease :
    ∃ p p', (workers takeover takeoverTables).Reachable p ∧
      (workers takeover takeoverTables).Steps p p' ∧
      Superseded ⟨"outbox", "worker_a", "token_a"⟩ p.db ∧
      sampleLease p.db = some (.claimed, some "worker_b", some "token_b") ∧
      sampleLease p'.db = some (.retry, none, none) := by
  have hrun : ((LTS.exec (Pool.next (.error .operationalError))
      (Pool.start takeoverTables takeoverProgs)
      (List.replicate 4 (.stmt 0) ++ [.stmt 2] ++ List.replicate 4 (.stmt 1))).bind fun p =>
        (LTS.exec (Pool.next (.error .operationalError)) p (List.replicate 2 (.stmt 2))).map fun p' =>
          [decide (⟨"outbox", "worker_a", "token_a"⟩ ∈ p.db.grants) &&
              decide (sampleLease p.db = some (.claimed, some "worker_b", some "token_b")),
            decide (sampleLease p'.db = some (.retry, none, none))]) = some [true, true] := by
    decide
  simp only [Option.bind_eq_some_iff, Option.map_eq_some_iff, List.cons.injEq, Bool.and_eq_true,
    decide_eq_true_eq] at hrun
  obtain ⟨p, hp, p', hp', ⟨hgrant, hlease⟩, hlease', -⟩ := hrun
  refine ⟨p, p', LTS.Reachable.exec (.init rfl) hp, .exec hp', ⟨hgrant, fun row hget => ?_⟩, hlease,
    hlease'⟩
  rw [sampleLease, hget] at hlease
  simp only [Option.map_some, Option.some.injEq, Prod.mk.injEq] at hlease
  rw [hlease.2.2]
  decide

/-- The second claim comes before the first worker's `fail` selects the row. -/
theorem former_holder_fenced_lateFail :
    ∃ p p', (race takeover takeoverTables).Reachable p ∧
      (race takeover takeoverTables).step p (.stmt 2) p' ∧
      Superseded ⟨"outbox", "worker_a", "token_a"⟩ p.db ∧ p'.db = p.db := by
  have hrun : ((LTS.execGuarded (Pool.next (.error .operationalError))
      (fun p l => decide (Pool.Meets StillHeld p l)) (Pool.start takeoverTables takeoverProgs)
      (List.replicate 4 (.stmt 0) ++ List.replicate 4 (.stmt 1))).bind fun p =>
        (Pool.next (.error .operationalError) p (.stmt 2)).map fun _ =>
          decide (Pool.Meets StillHeld p (.stmt 2)) &&
            (decide (⟨"outbox", "worker_a", "token_a"⟩ ∈ p.db.grants) &&
              decide (sampleLease p.db = some (.claimed, some "worker_b", some "token_b")))) =
      some true := by
    decide
  simp only [Option.bind_eq_some_iff, Option.map_eq_some_iff, Bool.and_eq_true,
    decide_eq_true_eq] at hrun
  obtain ⟨p, hp, p', hp', hmeets, hgrant, hlease⟩ := hrun
  have hreach : (race takeover takeoverTables).Reachable p :=
    LTS.Reachable.execGuarded (fun _ _ => of_decide_eq_true) (.init rfl) hp
  have hstep : (race takeover takeoverTables).step p (.stmt 2) p' := ⟨hmeets, hp'⟩
  have hsup : Superseded ⟨"outbox", "worker_a", "token_a"⟩ p.db := by
    refine ⟨hgrant, fun row hget => ?_⟩
    rw [sampleLease, hget] at hlease
    simp only [Option.map_some, Option.some.injEq, Prod.mk.injEq] at hlease
    rw [hlease.2.2]
    decide
  refine ⟨p, p', hreach, hstep, hsup, ?_⟩
  exact (former_holder_fenced (by decide) rfl hreach .refl hstep).1 _ hsup 2 rfl rfl

end OpenIntentRouter.Outbox
