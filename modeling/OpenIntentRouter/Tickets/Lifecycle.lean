import OpenIntentRouter.Services.ExecutionTicketService

/-!
# The life of an execution ticket

Any number of calls of the ticket service, one store operation at a time. A
release or a consumption writes back a record that it has read before; between
the two the lease may expire, be claimed again, or the ticket expire. That the
compare-and-set then fails rests on the token: no token is drawn twice, so a
record that carries the token still is the record that was read (`Lasting`).

* `Does`: what one store operation may do;
* `keeps_prog`: the calls do only that;
* `tickets_safe`: one holder at a time, final states stay, the cursor only grows.
-/
namespace OpenIntentRouter.Tickets

open Core Schemas Repositories.Tickets Services.Tickets

def drawnToken : Call → Option String
  | .claim _ _ _ _ _ _ _ leaseToken => some leaseToken
  | .claimLegacy _ _ _ leaseToken => some leaseToken
  | _ => none

def claimsAt : Call → Option Instant
  | .claim _ _ _ _ _ _ now _ => some now
  | .claimLegacy query _ _ _ => some query.now
  | _ => none

/-! ## What an operation may do -/

/-- `new` follows `record` at the end of a claim. -/
structure Follows (record new : ExecutionTicketRecord) : Prop where
  ticketHash : new.ticketHash = record.ticketHash
  claims : new.claims = record.claims
  status : new.status = .issued ∨ new.status = .consumed
  runStateVersion : record.runStateVersion ≤ new.runStateVersion
  eventSequence : record.eventSequence ≤ new.eventSequence
  leaseToken : new.leaseToken = none

inductive Does (call : Call) (s : TicketStore) : TicketStore → Prop where
  | idle : Does call s s
  | issued {record : ExecutionTicketRecord} :
    s.records.get? record.ticketHash = none → record.status = .issued → record.leaseToken = none →
    Does call s { s with records := s.records.put record }
  | granted {record : ExecutionTicketRecord} {owner token : String} {now expiry : Instant} :
    claimsAt call = some now → drawnToken call = some token →
    (∀ grant ∈ s.grants, grant.leaseToken ≠ token) →
    s.records.get? record.ticketHash = some record → claimable record now = true →
    Does call s
      { records := s.records.put (claimedRecord owner token expiry record)
        grants := ⟨record.ticketHash, owner, token⟩ :: s.grants }
  | finalized {record new : ExecutionTicketRecord} :
    s.records.get? record.ticketHash = some record → record.status = .claimed →
    Follows record new → Does call s { s with records := s.records.put new }
  | expired {record : ExecutionTicketRecord} :
    s.records.get? record.ticketHash = some record → isOpen record = true →
    Does call s { s with records := s.records.put (expiredRecord record) }

def latest (grants : List Grant) (hash : String) : Option Grant :=
  grants.find? (·.ticketHash = hash)

def Inv (s : TicketStore) : Prop :=
  ∀ hash record, s.records.get? hash = some record → record.status = .claimed →
    ∃ grant, latest s.grants hash = some grant ∧ record.leaseOwner = some grant.owner ∧
      record.leaseToken = some grant.leaseToken

variable {token owner hash : String} {record new : ExecutionTicketRecord} {now : Instant}

theorem claimOwned_iff :
    claimOwned record owner token now = true ↔ record.status = .claimed ∧
      record.leaseOwner = some owner ∧ record.leaseToken = some token ∧
      record.leaseExpiresAt.any (now < ·) = true := by
  simp [claimOwned, and_assoc]

section Does

variable {call : Call} {s s' : TicketStore}

theorem Inv.put (hi : Inv s) (hs : new.status ≠ .claimed) :
    Inv { s with records := s.records.put new } := by
  intro hash record hget hclaimed
  rw [Table.get?_put] at hget
  split at hget
  · cases hget
    exact absurd hclaimed hs
  · exact hi hash record hget hclaimed

theorem Inv.does (hi : Inv s) (hd : Does call s s') : Inv s' := by
  cases hd with
  | idle => exact hi
  | issued _ hs _ => exact hi.put (by rw [hs]; decide)
  | finalized _ _ hf => exact hi.put (by rcases hf.status with hs | hs <;> rw [hs] <;> decide)
  | expired _ _ => exact hi.put (by simp [expiredRecord])
  | @granted record owner token now expiry _ _ _ _ _ =>
    intro hash record' hget hclaimed
    rw [Table.get?_put] at hget
    split at hget
    · next heq =>
      cases hget
      have hlatest : latest (⟨record.ticketHash, owner, token⟩ :: s.grants) hash =
          some ⟨record.ticketHash, owner, token⟩ :=
        List.find?_cons_of_pos (decide_eq_true heq)
      exact ⟨_, hlatest, rfl, rfl⟩
    · next hother =>
      have hne : ¬record.ticketHash = hash := hother
      obtain ⟨grant, hlatest, hgrant⟩ := hi hash record' hget hclaimed
      refine ⟨grant, ?_, hgrant⟩
      rw [← hlatest]
      exact List.find?_cons_of_neg (by simpa using hne)

structure Later (record new : ExecutionTicketRecord) : Prop where
  final : record.status ≠ .issued → record.status ≠ .claimed → new = record
  runStateVersion : record.runStateVersion ≤ new.runStateVersion
  eventSequence : record.eventSequence ≤ new.eventSequence

theorem Later.refl (record : ExecutionTicketRecord) : Later record record :=
  ⟨fun _ _ => rfl, Nat.le_refl _, Nat.le_refl _⟩

theorem Later.trans {a b c : ExecutionTicketRecord} (hab : Later a b) (hbc : Later b c) :
    Later a c where
  final h1 h2 := by
    cases hab.final h1 h2
    exact hbc.final h1 h2
  runStateVersion := Nat.le_trans hab.runStateVersion hbc.runStateVersion
  eventSequence := Nat.le_trans hab.eventSequence hbc.eventSequence

/-- A record that is overwritten by one of its successors. -/
theorem later_put {old : ExecutionTicketRecord} (hold : s.records.get? old.ticketHash = some old)
    (hid : new.ticketHash = old.ticketHash) (hl : Later old new)
    (hget : s.records.get? hash = some record) :
    ∃ record', (s.records.put new).get? hash = some record' ∧ Later record record' := by
  rw [Table.get?_put]
  split
  · next heq =>
    rw [← heq, hid] at hget
    cases hold.symm.trans hget
    exact ⟨new, rfl, hl⟩
  · exact ⟨record, hget, .refl record⟩

theorem Does.later (hd : Does call s s') (hget : s.records.get? hash = some record) :
    ∃ record', s'.records.get? hash = some record' ∧ Later record record' := by
  cases hd with
  | idle => exact ⟨record, hget, .refl record⟩
  | @issued new hnone _ _ =>
    refine ⟨record, ?_, .refl record⟩
    dsimp only
    rw [Table.get?_put_ne]
    · exact hget
    · intro heq
      rw [heq, hget] at hnone
      cases hnone
  | @granted old owner token now expiry _ _ _ hold hclaim =>
    refine later_put hold rfl ⟨fun h1 h2 => ?_, Nat.le_refl _, Nat.le_refl _⟩ hget
    simp only [claimable, Bool.or_eq_true, Bool.and_eq_true, decide_eq_true_eq] at hclaim
    rcases hclaim with h | ⟨h, -⟩
    · exact absurd h h1
    · exact absurd h h2
  | finalized hold hs hf =>
    exact later_put hold hf.ticketHash ⟨fun _ h2 => absurd hs h2, hf.runStateVersion, hf.eventSequence⟩
      hget
  | @expired old hold hopen =>
    refine later_put hold rfl ⟨fun h1 h2 => ?_, Nat.le_refl _, Nat.le_refl _⟩ hget
    simp only [isOpen, Bool.or_eq_true, decide_eq_true_eq] at hopen
    rcases hopen with h | h
    · exact absurd h h1
    · exact absurd h h2

theorem Does.new_grant (hd : Does call s s') {grant : Grant} (hnew : s'.grants = grant :: s.grants) :
    ∃ now, claimsAt call = some now ∧
      ∀ record, s.records.get? grant.ticketHash = some record →
        ∀ owner token, claimOwned record owner token now = false := by
  cases hd with
  | idle => exact absurd (congrArg List.length hnew) (by simp)
  | issued _ _ _ => exact absurd (congrArg List.length hnew) (by simp)
  | finalized _ _ _ => exact absurd (congrArg List.length hnew) (by simp)
  | expired _ _ => exact absurd (congrArg List.length hnew) (by simp)
  | @granted old owner token now expiry hclaims _ _ hold hclaim =>
    refine ⟨now, hclaims, fun record hget owner' token' => ?_⟩
    cases hnew
    cases hold.symm.trans hget
    rw [Bool.eq_false_iff]
    intro howned
    obtain ⟨hs, -, -, hruns⟩ := claimOwned_iff.1 howned
    simp only [claimable, hs, reduceCtorEq, decide_false, Bool.false_or, decide_true, Bool.true_and] at hclaim
    cases hexpiry : old.leaseExpiresAt with
    | none => simp [hexpiry] at hclaim
    | some lease =>
      simp only [hexpiry, Option.any_some, decide_eq_true_eq] at hclaim hruns
      exact absurd hclaim (Int.not_le.2 hruns)

end Does

/-! ## Between two operations of a call -/

section Interleaving

variable {ι : Type} [DecidableEq ι] {cfg : Config} {calls : ι → Call} {i : ι} {s s' : TicketStore}

def Unused (token : String) (s : TicketStore) : Prop := ∀ grant ∈ s.grants, grant.leaseToken ≠ token

variable (calls) in
def FreshTokens : Prop :=
  ∀ i j token, i ≠ j → drawnToken (calls i) = some token → drawnToken (calls j) ≠ some token

theorem relies_unused (hfresh : FreshTokens calls) (hi : drawnToken (calls i) = some token)
    (hu : Unused token s) (hr : Client.Relies (fun i => Does (calls i)) i s s') :
    Unused token s' := by
  refine hr.keeps (P := Unused token) ?_ hu
  intro j hj s1 s2 hu hd
  cases hd with
  | idle => exact hu
  | issued _ _ _ => exact hu
  | finalized _ _ _ => exact hu
  | expired _ _ => exact hu
  | @granted record owner token' now expiry _ hdrawn _ _ _ =>
    intro grant hm
    rcases List.mem_cons.1 hm with rfl | hm
    · rintro rfl
      exact hfresh i j _ (Ne.symm hj) hi hdrawn
    · exact hu grant hm

/-- The record is as it was read, or does not carry the token any more; and the
token is spent. -/
def Lasting (record : ExecutionTicketRecord) (token : String) (s : TicketStore) : Prop :=
  (∃ grant ∈ s.grants, grant.leaseToken = token) ∧
  (s.records.get? record.ticketHash = some record ∨
    ∀ current, s.records.get? record.ticketHash = some current → current.leaseToken ≠ some token)

theorem Lasting.put {grants : List Grant} (hl : Lasting record token s)
    (hn : new.leaseToken ≠ some token) (hgrants : ∃ grant ∈ grants, grant.leaseToken = token) :
    Lasting record token ⟨s.records.put new, grants⟩ := by
  refine ⟨hgrants, ?_⟩
  dsimp only
  rw [Table.get?_put]
  split
  · refine .inr fun current hc => ?_
    cases hc
    exact hn
  · exact hl.2

theorem relies_lasting (hl : Lasting record token s)
    (hr : Client.Relies (fun i => Does (calls i)) i s s') : Lasting record token s' := by
  refine hr.keeps (P := Lasting record token) ?_ hl
  intro j _ s1 s2 hl hd
  cases hd with
  | idle => exact hl
  | issued _ _ hnone => exact hl.put (by rw [hnone]; exact fun hc => by cases hc) hl.1
  | finalized _ _ hf => exact hl.put (by rw [hf.leaseToken]; exact fun hc => by cases hc) hl.1
  | expired _ _ => exact hl.put (fun hc => by cases hc) hl.1
  | @granted old owner token' now expiry _ _ hunused _ _ =>
    obtain ⟨grant, hm, htoken⟩ := hl.1
    refine hl.put (fun hc => ?_) ⟨grant, List.mem_cons_of_mem _ hm, htoken⟩
    cases hc
    exact hunused grant hm htoken

/-! ## The calls -/

variable (calls) in
abbrev Keeps (i : ι) : TicketProg → TicketStore → Prop :=
  Client.Safe (fun i => Does (calls i)) Inv i fun _ _ => True

omit [DecidableEq ι] in
theorem keeps_ret (r : Except TicketError TicketReply) : Keeps calls i (.ret r) s :=
  fun _ _ _ => trivial

omit [DecidableEq ι] in
theorem keeps_raise (message : String) : Keeps calls i (raise message) s := keeps_ret _

omit [DecidableEq ι] in
theorem keeps_look {β : Type} {f : TicketStore → β} {k : β → TicketProg}
    (hk : ∀ s', Client.Relies (fun i => Does (calls i)) i s s' → Inv s' → Keeps calls i (k (f s')) s') :
    Keeps calls i (.look f k) s :=
  fun s' hr hi => ⟨.idle, hk s' hr hi⟩

omit [DecidableEq ι] in
theorem keeps_atomic {β : Type} {f : TicketStore → β × TicketStore} {k : β → TicketProg}
    (hf : ∀ s', Client.Relies (fun i => Does (calls i)) i s s' → Inv s' → Does (calls i) s' (f s').2)
    (hk : ∀ r s', Keeps calls i (k r) s') : Keeps calls i (.atomic f k) s :=
  fun s' hr hi => ⟨hf s' hr hi, hk _ _⟩

omit [DecidableEq ι] in
theorem keeps_expire {hash : String} {k : Option ExecutionTicketRecord → TicketProg}
    (hk : ∀ r s', Keeps calls i (k r) s') :
    Keeps calls i (.atomic (fun store => store.expire hash) k) s := by
  refine keeps_atomic (fun s' _ _ => ?_) hk
  dsimp only [TicketStore.expire]
  split
  · exact .idle
  · next record hrecord =>
    obtain ⟨hget, hopen⟩ := Option.filter_eq_some_iff.1 hrecord
    have hid : record.ticketHash = hash := Table.key_of_get? hget
    subst hid
    exact .expired hget hopen

theorem keeps_claim {expiry : Instant} {k : Option ExecutionTicketRecord → TicketProg}
    (hfresh : FreshTokens calls) (hclaims : claimsAt (calls i) = some now)
    (hdrawn : drawnToken (calls i) = some token) (hu : Unused token s)
    (hk : ∀ r s', Keeps calls i (k r) s') :
    Keeps calls i (.atomic (fun store => store.claim hash owner token now expiry) k) s := by
  refine keeps_atomic (fun s' hr _ => ?_) hk
  dsimp only [TicketStore.claim]
  split
  · exact .idle
  · next record hrecord =>
    obtain ⟨hget, hclaim⟩ := Option.filter_eq_some_iff.1 hrecord
    have hid : record.ticketHash = hash := Table.key_of_get? hget
    subst hid
    exact .granted hclaims hdrawn (relies_unused hfresh hdrawn hu hr) hget hclaim

/-- `_finalize_claim` of a record just read. -/
theorem keeps_finalize {record : Option ExecutionTicketRecord}
    {updates : ExecutionTicketRecord → ExecutionTicketRecord} {invalid : TicketProg} (hi : Inv s)
    (hread : s.records.get? hash = record)
    (hupdates : ∀ r, record = some r → r.status = .claimed → Follows r (updates r))
    (hinvalid : ∀ s', Keeps calls i invalid s') :
    Keeps calls i (finalizeClaim cfg record owner token now updates invalid) s := by
  unfold finalizeClaim
  split
  · exact hinvalid s
  · next r hr =>
    obtain ⟨hrecord, howned⟩ := Option.filter_eq_some_iff.1 hr
    obtain ⟨hclaimed, -, htoken, -⟩ := claimOwned_iff.1 howned
    have hget := hread.trans hrecord
    have hid : r.ticketHash = hash := Table.key_of_get? hget
    subst hid
    obtain ⟨grant, hlatest, -, hgrant⟩ := hi _ r hget hclaimed
    have hlasting : Lasting r token s :=
      ⟨⟨grant, List.mem_of_find?_eq_some hlatest, Option.some.inj (hgrant.symm.trans htoken)⟩, .inl hget⟩
    have hfollows := hupdates r hrecord hclaimed
    refine keeps_atomic (fun s' hrel _ => ?_) fun finalized s' => ?_
    · dsimp only [TicketStore.finalizeClaim]
      split
      · exact .idle
      · next current hcurrent =>
        obtain ⟨hget', howned'⟩ := Option.filter_eq_some_iff.1 hcurrent
        rw [hfollows.ticketHash] at hget'
        obtain ⟨-, -, htoken', -⟩ := claimOwned_iff.1 howned'
        -- the token is still there, so the record is the one that was read
        have hsame : s'.records.get? r.ticketHash = some r :=
          (relies_lasting hlasting hrel).2.resolve_right fun h => h current hget' htoken'
        cases hget'.symm.trans hsame
        refine .finalized hsame hclaimed ?_
        cases cfg.backend with
        | memory => exact hfollows
        | database =>
          exact ⟨rfl, rfl, hfollows.status, hfollows.runStateVersion, hfollows.eventSequence,
            hfollows.leaseToken⟩
    · cases finalized with
      | some record => exact keeps_ret _
      | none => exact hinvalid s'

omit [DecidableEq ι] in
theorem keeps_resolve {ticket tenantId userId purpose : String} {now : Instant}
    {k : ExecutionTicketRecord → TicketProg}
    (hk : ∀ r s', Client.Relies (fun i => Does (calls i)) i s s' → Keeps calls i (k r) s') :
    Keeps calls i (resolve cfg ticket tenantId userId purpose now k) s := by
  unfold resolve resolveBound
  refine keeps_look fun s' hr _ => ?_
  split
  · exact keeps_raise _
  · split
    · split
      · exact keeps_expire fun _ _ => keeps_raise _
      · exact keeps_raise _
    · split
      · exact keeps_raise _
      · dsimp only
        split
        · exact keeps_raise _
        · exact hk _ s' hr

omit [DecidableEq ι] in
theorem keeps_issue {claims : ExecutionTicketClaims} {ttlSeconds : Int} {now : Instant}
    {raw : String} : Keeps calls i (issue cfg claims ttlSeconds now raw) s := by
  unfold issue
  split
  · exact keeps_raise _
  · dsimp only
    split
    · exact keeps_ret _
    · refine keeps_atomic (fun s' _ _ => ?_) fun stored _ => ?_
      · dsimp only [TicketStore.put]
        split
        · exact .idle
        · next hnew =>
          refine .issued ?_ rfl rfl
          exact (Table.contains_eq_false _ _).1 (by simpa using hnew)
      · split
        · exact keeps_ret _
        · split
          · exact keeps_ret _
          · exact keeps_ret _

theorem keeps_prog (hfresh : FreshTokens calls) (i : ι) :
    Keeps calls i (Services.Tickets.prog cfg (calls i)) .empty := by
  have hunused : ∀ token, Unused token .empty := fun _ _ hm => by cases hm
  cases hi : calls i with
  | issue claims ttlSeconds now raw => exact keeps_issue
  | expire hash => exact keeps_expire fun r _ => keeps_ret (.ok (.expired r))
  | claim ticket tenantId userId purpose owner leaseSeconds now token =>
    have hdrawn : drawnToken (calls i) = some token := by rw [hi]; rfl
    simp only [Services.Tickets.prog, Services.Tickets.claim]
    split
    · exact keeps_raise _
    · refine keeps_resolve fun record s' hr => ?_
      split
      · exact keeps_ret _
      · refine keeps_claim hfresh (by rw [hi]; rfl) hdrawn
          (relies_unused hfresh hdrawn (hunused token) hr) fun claimed _ => ?_
        split
        · exact keeps_ret _
        · refine keeps_look fun _ _ _ => ?_
          split
          · exact keeps_ret _
          · exact keeps_raise _
  | claimLegacy query owner leaseSeconds token =>
    have hdrawn : drawnToken (calls i) = some token := by rw [hi]; rfl
    simp only [Services.Tickets.prog, Services.Tickets.claimLegacy]
    split
    · exact keeps_raise _
    · refine keeps_look fun s' hr _ => ?_
      split
      · refine keeps_claim hfresh (by rw [hi]; rfl) hdrawn
          (relies_unused hfresh hdrawn (hunused token) hr) fun claimed _ => ?_
        split
        · exact keeps_ret _
        · exact keeps_raise _
      · exact keeps_raise _
  | releaseClaim hash owner token now =>
    unfold Services.Tickets.prog releaseClaim
    refine keeps_look fun s' _ hinv => ?_
    exact keeps_finalize hinv rfl (fun r _ _ => ⟨rfl, rfl, .inl rfl, Nat.le_refl _, Nat.le_refl _, rfl⟩)
      fun _ => keeps_raise _
  | releaseAfterProgress hash owner token version sequence now =>
    unfold Services.Tickets.prog releaseAfterProgress
    refine keeps_look fun s' _ hinv => ?_
    split
    · exact keeps_raise _
    · next record hread =>
      split
      · exact keeps_raise _
      · next hcursor =>
        simp only [Bool.or_eq_true, decide_eq_true_eq, not_or, Nat.not_le] at hcursor
        refine keeps_finalize hinv hread (fun r hr _ => ?_) fun _ => keeps_raise _
        cases hr
        exact ⟨rfl, rfl, .inl rfl, Nat.le_of_lt hcursor.1, Nat.le_of_lt hcursor.2, rfl⟩
  | consume hash eventId owner token now =>
    unfold Services.Tickets.prog consume
    refine keeps_look fun s' _ hinv => ?_
    split
    · exact keeps_raise _
    · next record hread =>
      split
      · split
        · exact keeps_ret _
        · exact keeps_raise _
      · refine keeps_finalize hinv hread
          (fun r _ _ => ⟨rfl, rfl, .inr rfl, Nat.le_refl _, Nat.le_refl _, rfl⟩) fun s2 => ?_
        refine keeps_look fun _ _ _ => ?_
        split
        · split
          · exact keeps_ret _
          · exact keeps_raise _
        · exact keeps_raise _

end Interleaving

/-! ## Runs -/

section Runs

variable {ι : Type} [DecidableEq ι] (cfg : Config) (calls : ι → Call)

def holders : LTS (Crowd ι TicketStore (Except TicketError TicketReply)) (Crowd.Label ι) :=
  Crowd.system (.error .operationalError) .empty fun i => Services.Tickets.prog cfg (calls i)

variable {cfg calls} {c c' c'' : Crowd ι TicketStore (Except TicketError TicketReply)}
  {l : Crowd.Label ι}

theorem inv_reachable (hfresh : FreshTokens calls) (hc : (holders cfg calls).Reachable c) :
    Inv c.shared := by
  refine (Crowd.reachable_safe (G := fun i => Does (calls i)) (I := Inv) (Q := fun _ _ _ => True)
    (fun _ _ _ hi hd => hi.does hd) (fun _ _ => trivial) ?_ (keeps_prog hfresh) hc).1
  rintro hash record ⟨⟩

theorem holders_step (hfresh : FreshTokens calls) (hc : (holders cfg calls).Reachable c)
    (hst : (holders cfg calls).step c l c') :
    c'.shared = c.shared ∨ ∃ i, l = .op i ∧ Does (calls i) c.shared c'.shared := by
  refine Crowd.reachable_step (G := fun i => Does (calls i)) (I := Inv) (Q := fun _ _ _ => True)
    (fun _ _ _ hi hd => hi.does hd) (fun _ _ => trivial) ?_ (keeps_prog hfresh) hc hst
  rintro hash record ⟨⟩

/-- **Execution tickets.** A claim that is owned, at whatever clock reading, is
the last one granted for its ticket, so there is at most one; a claim is granted
only when no claim of the ticket is unexpired at its clock reading; a ticket that
is consumed or expired never changes, so it is consumed once, by one event; and
the cursor never decreases. -/
theorem tickets_safe (hfresh : FreshTokens calls) (hc : (holders cfg calls).Reachable c)
    (hs : (holders cfg calls).Steps c c') :
    (∀ hash record, c'.shared.records.get? hash = some record → ∀ grant, grant.ticketHash = hash →
      ∀ now, claimOwned record grant.owner grant.leaseToken now = true →
        latest c'.shared.grants hash = some grant) ∧
    (∀ l c'' grant, (holders cfg calls).step c' l c'' →
      c''.shared.grants = grant :: c'.shared.grants →
      ∃ i now, l = .op i ∧ claimsAt (calls i) = some now ∧
        ∀ record, c'.shared.records.get? grant.ticketHash = some record →
          ∀ owner token, claimOwned record owner token now = false) ∧
    (∀ hash record, c.shared.records.get? hash = some record →
      ∃ record', c'.shared.records.get? hash = some record' ∧
        (record.status = .consumed ∨ record.status = .expired → record' = record) ∧
        record.runStateVersion ≤ record'.runStateVersion ∧
        record.eventSequence ≤ record'.eventSequence) := by
  refine ⟨?_, fun l c'' grant hst hnew => ?_, fun hash record hget => ?_⟩
  · rintro hash record hget ⟨hash', owner, token⟩ rfl now howned
    obtain ⟨hclaimed, howner, htoken, -⟩ := claimOwned_iff.1 howned
    obtain ⟨grant, hlatest, howner', htoken'⟩ :=
      inv_reachable hfresh (hc.steps hs) _ record hget hclaimed
    have hhash : grant.ticketHash = hash' := by simpa using List.find?_some hlatest
    rw [hlatest]
    cases grant
    cases howner.symm.trans howner'
    cases htoken.symm.trans htoken'
    cases hhash
    rfl
  · rcases holders_step hfresh (hc.steps hs) hst with hsame | ⟨i, hl, hd⟩
    · rw [hsame] at hnew
      exact absurd (congrArg List.length hnew) (by simp)
    · obtain ⟨now, hclaims, hfree⟩ := hd.new_grant hnew
      exact ⟨i, now, hl, hclaims, hfree⟩
  · have hlater : ∃ record', c'.shared.records.get? hash = some record' ∧ Later record record' := by
      refine LTS.Steps.keeps (R := fun c c' => ∀ record, c.shared.records.get? hash = some record →
        ∃ record', c'.shared.records.get? hash = some record' ∧ Later record record') ?_ ?_ ?_ hc hs
        record hget
      · exact fun _ record h => ⟨record, h, .refl record⟩
      · intro a b c hab hbc record h
        obtain ⟨r1, h1, hl1⟩ := hab record h
        obtain ⟨r2, h2, hl2⟩ := hbc r1 h1
        exact ⟨r2, h2, hl1.trans hl2⟩
      · intro a l b ha hst record h
        rcases holders_step hfresh ha hst with hsame | ⟨i, -, hd⟩
        · exact ⟨record, by rw [hsame]; exact h, .refl record⟩
        · exact hd.later h
    obtain ⟨record', hget', hl⟩ := hlater
    refine ⟨record', hget', fun hfinal => hl.final ?_ ?_, hl.runStateVersion, hl.eventSequence⟩
    · rcases hfinal with h | h <;> rw [h] <;> decide
    · rcases hfinal with h | h <;> rw [h] <;> decide

end Runs

/-! ## A run -/

def sampleTicket : String := "ticket_ticket_ticket_ticket_ticket_ticket_1"

def sampleConfig : Config :=
  { backend := .memory
    digest := fun text =>
      if text = sampleTicket then
        "a3ec2b2adee1ac027de4f01cc8002b7f524ff332aa87516095309444ff18e6c1"
      else ""
    secret := none }

def sampleClaims : ExecutionTicketClaims :=
  { requestId := "request"
    runId := "run"
    turnId := "turn"
    tenantId := "tenant"
    userId := "user"
    agentId := "agent"
    planId := none
    stepId := none
    purpose := "agent_event"
    expiresAt := 0
    nonce := "nonce_nonce_nonce" }

/-- A ticket is issued, claimed and consumed; then it is expired and claimed. -/
def sampleCalls : Fin 5 → Call
  | 0 => .issue sampleClaims 60 0 sampleTicket
  | 1 => .claim sampleTicket "tenant" "user" "agent_event" "owner" 10 1 "token_1"
  | 2 => .consume (sampleConfig.digest sampleTicket) "event" "owner" "token_1" 2
  | 3 => .expire (sampleConfig.digest sampleTicket)
  | 4 => .claim sampleTicket "tenant" "user" "agent_event" "other" 10 3 "token_2"

def sampleRecord (store : TicketStore) : Option (ExecutionTicketStatus × Option String) :=
  (store.records.get? (sampleConfig.digest sampleTicket)).map fun record =>
    (record.status, record.consumedEventId)

theorem tickets_safe_consumed :
    ∃ c c', (holders sampleConfig sampleCalls).Reachable c ∧
      (holders sampleConfig sampleCalls).Steps c c' ∧
      sampleRecord c.shared = some (.consumed, some "event") ∧
      c'.shared.records.get? (sampleConfig.digest sampleTicket) =
        c.shared.records.get? (sampleConfig.digest sampleTicket) := by
  have hrun : ((LTS.exec (Crowd.next (.error .operationalError))
      ⟨.empty, fun i => Services.Tickets.prog sampleConfig (sampleCalls i)⟩
      [.op 0, .op 1, .op 1, .op 2, .op 2]).bind fun c =>
        (LTS.exec (Crowd.next (.error .operationalError)) c [.op 3, .op 4]).map fun _ =>
          sampleRecord c.shared) = some (some (.consumed, some "event")) := by
    decide
  simp only [Option.bind_eq_some_iff, Option.map_eq_some_iff] at hrun
  obtain ⟨c, hc, c', hc', he⟩ := hrun
  have hreach : (holders sampleConfig sampleCalls).Reachable c := LTS.Reachable.exec (.init rfl) hc
  have hsteps : (holders sampleConfig sampleCalls).Steps c c' := .exec hc'
  have hfresh : FreshTokens sampleCalls := by
    have hdrawn : ∀ i j, i ≠ j → ∀ token ∈ drawnToken (sampleCalls i),
        drawnToken (sampleCalls j) ≠ some token := by
      decide
    exact fun i j token hne hi => hdrawn i j hne token hi
  refine ⟨c, c', hreach, hsteps, he, ?_⟩
  simp only [sampleRecord, Option.map_eq_some_iff, Prod.mk.injEq] at he
  obtain ⟨record, hget, hstatus, -⟩ := he
  obtain ⟨record', hget', hsame, -⟩ := (tickets_safe hfresh hreach hsteps).2.2 _ record hget
  rw [hget', hget, hsame (.inl hstatus)]

end OpenIntentRouter.Tickets
