import OpenIntentRouter.HostAdapters.Central
import OpenIntentRouter.Tickets.Redelivery

/-!
# By which clock tickets expire

Any number of agent events, one operation at a time. An event that carries its
ticket claims it at the clock of the server. Without a ticket, the time the host
gives decides which tickets have expired, which leases have run out, and how long
the new one lasts.

* `Does`: what one operation may do to the tickets;
* `admits_agentEvent`: an event is let through only by a ticket that has not expired
  at the time it claims;
* `server_clock_governs`: where that time is the server's, expiry and leases are too.

Any configuration, any calls and any state at the start, in every interleaving, handlers cut
off where they are included. `server_clock_governs` holds under

* `FreshTokens`: no two calls draw one lease token, nor one that is in the store;
* `OnServerClock`, for every call without a ticket: `created_at` is left out or the time at
  which the server handles it.
-/
set_option linter.unusedSectionVars false

namespace OpenIntentRouter.HostAdapters.Central

open Core Schemas Repositories OpenIntentRouter.DelegatedRuns
open Repositories.Tickets Services.Tickets Services.DelegatedRuns

def claimsAt (call : Call) : Instant :=
  match call.rawTicket with
  | some _ => call.readings.handledAt
  | none => call.correlatedAt

/-! ## What an operation may do -/

inductive Does (cfg : Config) (call : Call) (t : TicketStore) : TicketStore → Prop where
  | idle : Does cfg call t t
  | granted {record : ExecutionTicketRecord} {owner : String} :
    t.records.get? record.ticketHash = some record → claimable record (claimsAt call) = true →
    Does cfg call t
      { records := t.records.put
          (claimedRecord owner call.readings.leaseToken
            (claimsAt call + seconds cfg.executionTicketLeaseSeconds) record)
        grants := ⟨record.ticketHash, owner, call.readings.leaseToken⟩ :: t.grants }
  | ended {record new : ExecutionTicketRecord} :
    t.records.get? record.ticketHash = some record → new.ticketHash = record.ticketHash →
    new.claims = record.claims → new.status ≠ .claimed →
    Does cfg call t { t with records := t.records.put new }

variable {hash owner token : String} {claims : ExecutionTicketClaims}
  {new record : ExecutionTicketRecord} {call : Call} {now : Instant} {t : TicketStore}
  {query : LegacyExecutionCorrelationQuery}

section Does

variable {cfg : Config} {call : Call} {t t' : TicketStore}

def Bound (hash : String) (claims : ExecutionTicketClaims) (t : TicketStore) : Prop :=
  ∃ record, t.records.get? hash = some record ∧ record.claims = claims

theorem Bound.put {old : ExecutionTicketRecord} {grants : List Grant} (hb : Bound hash claims t)
    (hold : t.records.get? old.ticketHash = some old) (hid : new.ticketHash = old.ticketHash)
    (hclaims : new.claims = old.claims) : Bound hash claims ⟨t.records.put new, grants⟩ := by
  obtain ⟨record, hget, hrecord⟩ := hb
  unfold Bound
  dsimp only
  rw [Table.get?_put]
  split
  · next heq =>
    have hkey : new.ticketHash = hash := heq
    rw [← hkey, hid, hold, Option.some.injEq] at hget
    exact ⟨new, rfl, by rw [hclaims, hget, hrecord]⟩
  · exact ⟨record, hget, hrecord⟩

theorem Does.bound (hd : Does cfg call t t') (hb : Bound hash claims t) : Bound hash claims t' := by
  cases hd with
  | idle => exact hb
  | @granted record owner hget _ => exact hb.put hget rfl rfl
  | ended hget hid hclaims _ => exact hb.put hget hid hclaims

theorem Does.grants (hd : Does cfg call t t') {grant : Grant} (hm : grant ∈ t.grants) :
    grant ∈ t'.grants := by
  cases hd with
  | idle => exact hm
  | granted _ _ => exact List.mem_cons_of_mem _ hm
  | ended _ _ _ _ => exact hm

def ItsTicket (cfg : Config) (call : Call) (t : TicketStore) (hash : String) : Prop :=
  match call.rawTicket with
  | some ticket => hash = cfg.tickets.digest ticket
  | none => ∃ grant ∈ t.grants,
      grant.leaseToken = call.readings.leaseToken ∧ grant.ticketHash = hash

def Unexpired (cfg : Config) (call : Call) (t : TicketStore) : Prop :=
  ∃ hash claims, ItsTicket cfg call t hash ∧ Bound hash claims t ∧ claimsAt call < claims.expiresAt

theorem Does.unexpired {other : Call} (hd : Does cfg other t t') (h : Unexpired cfg call t) :
    Unexpired cfg call t' := by
  obtain ⟨hash, claims, hits, hb, hlt⟩ := h
  refine ⟨hash, claims, ?_, hd.bound hb, hlt⟩
  unfold ItsTicket at hits ⊢
  split at hits
  · exact hits
  · obtain ⟨grant, hm, hgrant⟩ := hits
    exact ⟨grant, hd.grants hm, hgrant⟩

end Does

section Crowd

variable {ι : Type} [DecidableEq ι] (cfg : Config) (calls : ι → Call)

def Leased (s : HostState) : Prop :=
  ∀ hash record i, s.tickets.records.get? hash = some record → record.status = .claimed →
    record.leaseToken = some (calls i).readings.leaseToken →
      record.leaseExpiresAt =
        some (claimsAt (calls i) + seconds cfg.executionTicketLeaseSeconds)

def DistinctTokens : Prop :=
  ∀ i j, (calls i).readings.leaseToken = (calls j).readings.leaseToken → i = j

/-- What an operation of request `i` may do. -/
abbrev Op (i : ι) (s s' : HostState) : Prop := Does cfg (calls i) s.tickets s'.tickets

variable {cfg calls} {i : ι} {s s' : HostState}

theorem Leased.op (hdistinct : DistinctTokens calls) (hl : Leased cfg calls s)
    (hd : Op cfg calls i s s') : Leased cfg calls s' := by
  intro hash record j hget hclaimed htoken
  obtain ⟨stores', tickets', quarantine'⟩ := s'
  dsimp only at hd hget
  cases hd with
  | idle => exact hl hash record j hget hclaimed htoken
  | granted _ _ =>
    dsimp only at hget
    rw [Table.get?_put] at hget
    split at hget
    · cases hget
      have htoken : (calls i).readings.leaseToken = (calls j).readings.leaseToken :=
        Option.some.inj htoken
      cases hdistinct i j htoken
      rfl
    · exact hl hash record j hget hclaimed htoken
  | ended _ _ _ hstatus =>
    dsimp only at hget
    rw [Table.get?_put] at hget
    split at hget
    · cases hget
      exact absurd hclaimed hstatus
    · exact hl hash record j hget hclaimed htoken

/-! ## The handler -/

variable (cfg calls) in
abbrev Safely {α : Type} (i : ι) (Q : α → HostState → Prop) : Client HostState α → HostState → Prop :=
  Client.Safe (Op cfg calls) (Leased cfg calls) i Q

variable (cfg calls) in
/-- What `x` returns is acceptable only with a ticket that has not expired. -/
def Admits {α : Type} (i : ι) (acceptable : α → Prop) (x : Handler α) (s : HostState) : Prop :=
  Safely cfg calls i
    (fun r s => ∀ a, r = .ok a → acceptable a → Unexpired cfg (calls i) s.tickets) x.run s

abbrev Others (cfg : Config) (calls : ι → Call) (i : ι) : HostState → HostState → Prop :=
  Client.Relies (Op cfg calls) i

theorem Others.unexpired (hr : Others cfg calls i s s') (h : Unexpired cfg call s.tickets) :
    Unexpired cfg call s'.tickets :=
  Client.Relies.keeps (P := fun s => Unexpired cfg call s.tickets)
    (fun _ _ _ _ h hd => hd.unexpired h) hr h

theorem Others.bound (hr : Others cfg calls i s s') (h : Bound hash claims s.tickets) :
    Bound hash claims s'.tickets :=
  Client.Relies.keeps (P := fun s => Bound hash claims s.tickets)
    (fun _ _ _ _ h hd => hd.bound h) hr h

section Rules

variable {α β : Type} {acceptable : α → Prop}

theorem admits_pure {a : α} (h : acceptable a → Unexpired cfg (calls i) s.tickets) :
    Admits cfg calls i acceptable (pure a) s := by
  intro s' hr _ b hb hacc
  cases hb
  exact Others.unexpired hr (h hacc)

theorem admits_throw (e : HostError) : Admits cfg calls i acceptable (throw e) s := by
  intro s' _ _ a ha
  cases ha

theorem admits_ofExcept (x : Except StoreError α)
    (h : ∀ a, acceptable a → Unexpired cfg (calls i) s.tickets) :
    Admits cfg calls i acceptable (ofExcept x) s := by
  intro s' hr _ a _ hacc
  exact Others.unexpired hr (h a hacc)

theorem admits_ofExcept_bind {acceptable : β → Prop} {x : Except StoreError α} {f : α → Handler β}
    (hf : ∀ a, x = .ok a → Admits cfg calls i acceptable (f a) s) :
    Admits cfg calls i acceptable (ofExcept x >>= f) s := by
  cases x with
  | error e => exact admits_throw _
  | ok a => exact hf a rfl

theorem admits_operation {f : HostState → α × HostState} (hf : ∀ s, (f s).2.tickets = s.tickets)
    (h : ∀ a, acceptable a → Unexpired cfg (calls i) s.tickets) :
    Admits cfg calls i acceptable (operation f) s := by
  intro s' hr hi
  refine ⟨?_, ?_⟩
  · show Does cfg (calls i) s'.tickets (f s').2.tickets
    rw [hf]
    exact .idle
  · intro s2 hr2 _ a _ hacc
    have hmid : Unexpired cfg (calls i) (f s').2.tickets := by
      rw [hf]
      exact Others.unexpired hr (h a hacc)
    exact Others.unexpired hr2 hmid

/-- A block: what its first statement returns is acceptable only with a live ticket. -/
theorem admits_bind {P : α → Prop} {acceptable : β → Prop} {x : Handler α} {f : α → Handler β}
    (hdistinct : DistinctTokens calls) (hi : Leased cfg calls s) (hx : Admits cfg calls i P x s)
    (hf : ∀ a s', Leased cfg calls s' → (P a → Unexpired cfg (calls i) s'.tickets) →
      Admits cfg calls i acceptable (f a) s') :
    Admits cfg calls i acceptable (x >>= f) s := by
  refine Client.Safe.bind (fun _ _ _ hl hd => Leased.op hdistinct hl hd) hi hx fun r s' hi' hr => ?_
  cases r with
  | error e => exact admits_throw e
  | ok a => exact hf a s' hi' (hr a rfl)

theorem admits_tryCatch {x : Handler α} {handler : HostError → Handler α}
    (hdistinct : DistinctTokens calls) (hi : Leased cfg calls s) (hx : Admits cfg calls i acceptable x s)
    (hf : ∀ e s', Leased cfg calls s' → Admits cfg calls i acceptable (handler e) s') :
    Admits cfg calls i acceptable (tryCatch x handler) s := by
  refine Client.Safe.bind (fun _ _ _ hl hd => Leased.op hdistinct hl hd) hi hx fun r s' hi' hr => ?_
  cases r with
  | error e => exact hf e s' hi'
  | ok a => exact admits_pure (hr a rfl)

end Rules

/-! ## The calls of the ticket service -/

section Tickets

variable {Q : Except TicketError TicketReply → HostState → Prop}

theorem safely_look {β : Type} {f : TicketStore → β} {k : β → TicketProg}
    (hk : ∀ s', Others cfg calls i s s' → Safely cfg calls i Q (ticketCall (k (f s'.tickets))) s') :
    Safely cfg calls i Q (ticketCall (.look f k)) s :=
  fun s' hr _ => ⟨.idle, hk s' hr⟩

theorem safely_atomic {β : Type} {f : TicketStore → β × TicketStore} {k : β → TicketProg}
    (hk : ∀ s', Others cfg calls i s s' → Does cfg (calls i) s'.tickets (f s'.tickets).2 ∧
      Safely cfg calls i Q (ticketCall (k (f s'.tickets).1)) { s' with tickets := (f s'.tickets).2 }) :
    Safely cfg calls i Q (ticketCall (.atomic f k)) s :=
  fun s' hr _ => hk s' hr

theorem safely_ret {r : Except TicketError TicketReply}
    (hQ : ∀ s', Others cfg calls i s s' → Q r s') : Safely cfg calls i Q (ticketCall (.ret r)) s :=
  fun s' hr _ => hQ s' hr

/-- The write at the end of a claim, of a record that was read before. -/
theorem does_finalize {backend : Backend} (hb : Bound record.ticketHash record.claims t)
    (hid : new.ticketHash = record.ticketHash) (hclaims : new.claims = record.claims)
    (hstatus : new.status ≠ .claimed) :
    Does cfg call t (t.finalizeClaim backend new owner token now).2 := by
  dsimp only [TicketStore.finalizeClaim]
  split
  · exact .idle
  · next current hcurrent =>
    obtain ⟨hget, -⟩ := Option.filter_eq_some_iff.1 hcurrent
    have hkey : current.ticketHash = new.ticketHash := Table.key_of_get? hget
    rw [← hkey] at hget
    cases backend with
    | database => exact .ended hget rfl rfl hstatus
    | memory =>
      obtain ⟨record', hget', hsame⟩ := hb
      rw [← hid, ← hkey, hget, Option.some.injEq] at hget'
      exact .ended hget hkey.symm (by rw [finalizedRecord, hclaims, ← hsame, hget']) hstatus

theorem safely_finalize {updates : ExecutionTicketRecord → ExecutionTicketRecord}
    {invalid : TicketProg} (hget : s.tickets.records.get? hash = some record)
    (hid : (updates record).ticketHash = record.ticketHash)
    (hclaims : (updates record).claims = record.claims)
    (hstatus : (updates record).status ≠ .claimed)
    (hinvalid : ∀ s', Safely cfg calls i (fun _ _ => True) (ticketCall invalid) s') :
    Safely cfg calls i (fun _ _ => True)
      (ticketCall (finalizeClaim cfg.tickets (some record) owner token now updates invalid)) s := by
  unfold finalizeClaim
  split
  · exact hinvalid s
  · next r hr =>
    obtain ⟨hrecord, -⟩ := Option.filter_eq_some_iff.1 hr
    cases hrecord
    have hkey : record.ticketHash = hash := Table.key_of_get? hget
    have hb : Bound record.ticketHash record.claims s.tickets := ⟨record, by rw [hkey, hget], rfl⟩
    refine safely_atomic fun s' hr => ⟨does_finalize (Others.bound hr hb) hid hclaims hstatus, ?_⟩
    split
    · exact safely_ret fun _ _ => trivial
    · exact hinvalid _

theorem safely_raise (message : String) :
    Safely cfg calls i (fun _ _ => True) (ticketCall (Services.Tickets.raise message)) s :=
  safely_ret fun _ _ => trivial

theorem safely_release {version sequence : Nat} :
    Safely cfg calls i (fun _ _ => True)
      (ticketCall (releaseAfterProgress cfg.tickets hash owner token version sequence now)) s := by
  unfold releaseAfterProgress
  refine safely_look fun s' _ => ?_
  split
  · exact safely_raise _
  · next record hget =>
    split
    · exact safely_raise _
    · exact safely_finalize hget rfl rfl (fun h => by cases h) fun _ => safely_raise _

theorem safely_consume {eventId : String} :
    Safely cfg calls i (fun _ _ => True)
      (ticketCall (consume cfg.tickets hash eventId owner token now)) s := by
  unfold consume
  refine safely_look fun s' _ => ?_
  split
  · exact safely_raise _
  · next record hget =>
    split
    · split
      · exact safely_ret fun _ _ => trivial
      · exact safely_raise _
    · refine safely_finalize hget rfl rfl (fun h => by cases h) fun s2 => ?_
      refine safely_look fun s3 _ => ?_
      split
      · split
        · exact safely_ret fun _ _ => trivial
        · exact safely_raise _
      · exact safely_raise _

end Tickets

section Claims

variable (cfg calls) in
abbrev Grants (i : ι) : Client HostState (Except TicketError TicketReply) → HostState → Prop :=
  Safely cfg calls i fun r s => ∀ reply, r = .ok reply → Unexpired cfg (calls i) s.tickets

theorem grants_raise (message : String) :
    Grants cfg calls i (ticketCall (Services.Tickets.raise message)) s :=
  safely_ret fun _ _ reply hreply => by cases hreply

theorem grants_ret {reply : TicketReply} (h : Unexpired cfg (calls i) s.tickets) :
    Grants cfg calls i (ticketCall (.ret (.ok reply))) s :=
  safely_ret fun _ hr _ _ => Others.unexpired hr h

theorem does_claim :
    Does cfg call t (t.claim hash owner call.readings.leaseToken (claimsAt call)
      (claimsAt call + seconds cfg.executionTicketLeaseSeconds)).2 := by
  dsimp only [TicketStore.claim]
  split
  · exact .idle
  · next record hrecord =>
    obtain ⟨hget, hclaimable⟩ := Option.filter_eq_some_iff.1 hrecord
    have hkey : record.ticketHash = hash := Table.key_of_get? hget
    subst hkey
    exact .granted hget hclaimable

theorem does_expire : Does cfg call t (t.expire hash).2 := by
  dsimp only [TicketStore.expire]
  split
  · exact .idle
  · next record hrecord =>
    obtain ⟨hget, -⟩ := Option.filter_eq_some_iff.1 hrecord
    have hkey : record.ticketHash = hash := Table.key_of_get? hget
    subst hkey
    exact .ended hget rfl rfl fun h => by cases h

theorem grants_claim {ticket : String} (hraw : (calls i).rawTicket = some ticket)
    (tenantId userId purpose owner : String) :
    Grants cfg calls i
      (ticketCall (claim cfg.tickets ticket tenantId userId purpose owner
        cfg.executionTicketLeaseSeconds (calls i).readings.handledAt (calls i).readings.leaseToken))
      s := by
  have hclock : (calls i).readings.handledAt = claimsAt (calls i) := by simp only [claimsAt, hraw]
  unfold claim
  split
  · exact grants_raise _
  · unfold resolve resolveBound
    refine safely_look fun s1 _ => ?_
    split
    · exact grants_raise _
    · next record hrecord =>
      obtain ⟨hget, -⟩ := Option.filter_eq_some_iff.1 hrecord
      split
      · split
        · exact safely_atomic fun _ _ => ⟨does_expire, grants_raise _⟩
        · exact grants_raise _
      · next hexpires =>
        have hlive : Unexpired cfg (calls i) s1.tickets := by
          refine ⟨cfg.tickets.digest ticket, record.claims, ?_, ⟨record, hget, rfl⟩, ?_⟩
          · simp only [ItsTicket, hraw]
          · rw [← hclock]
            exact Int.not_le.1 hexpires
        split
        · exact grants_raise _
        · dsimp only
          split
          · exact grants_raise _
          · split
            · exact grants_ret hlive
            · rw [hclock]
              refine safely_atomic fun s2 hr => ⟨does_claim, ?_⟩
              have hdoes : Does cfg (calls i) s2.tickets (s2.tickets.claim record.ticketHash owner _ _ _).2 :=
                does_claim
              have hlive2 := hdoes.unexpired (Others.unexpired hr hlive)
              split
              · exact grants_ret hlive2
              · refine safely_look fun s3 hr3 => ?_
                split
                · exact grants_ret (Others.unexpired hr3 hlive2)
                · exact grants_raise _

theorem matchesLegacy_live (h : matchesLegacy query record = true) :
    query.now < record.claims.expiresAt := by
  simp only [matchesLegacy, Bool.and_eq_true, decide_eq_true_eq, and_assoc] at h
  exact h.2.1

theorem grants_claimLegacy (hraw : (calls i).rawTicket = none)
    (hnow : query.now = (calls i).correlatedAt) :
    Grants cfg calls i
      (ticketCall (claimLegacy query owner cfg.executionTicketLeaseSeconds
        (calls i).readings.leaseToken)) s := by
  have hclock : query.now = claimsAt (calls i) := by simp only [claimsAt, hraw, hnow]
  unfold claimLegacy
  split
  · exact grants_raise _
  · refine safely_look fun s1 _ => ?_
    split
    · next record hfound =>
      have hmem : record ∈ s1.tickets.findActive query := by rw [hfound]; exact List.mem_singleton.2 rfl
      rw [TicketStore.findActive, List.mem_filter] at hmem
      obtain ⟨hvalue, hmatches⟩ := hmem
      have hget : s1.tickets.records.get? record.ticketHash = some record :=
        (Table.mem_values _ _).1 hvalue
      have hexpires : claimsAt (calls i) < record.claims.expiresAt := by
        rw [← hclock]
        exact matchesLegacy_live hmatches
      rw [hclock]
      refine safely_atomic fun s2 hr => ⟨does_claim, ?_⟩
      have hbound := Others.bound hr ⟨record, hget, rfl⟩
      split
      · next claimed hclaimed =>
        refine grants_ret ⟨record.ticketHash, record.claims, ?_, does_claim.bound hbound, hexpires⟩
        simp only [ItsTicket, hraw]
        dsimp only [TicketStore.claim] at hclaimed ⊢
        split at hclaimed
        · cases hclaimed
        · exact ⟨_, List.mem_cons_self .., rfl, rfl⟩
      · exact grants_raise _
    · exact grants_raise _

end Claims

/-! ## The request -/

section Request

theorem admits_onTickets {acceptable : TicketReply → Prop} {q : TicketProg}
    (h : Grants cfg calls i (ticketCall q) s) (hdistinct : DistinctTokens calls)
    (hi : Leased cfg calls s) : Admits cfg calls i acceptable (onTickets q) s := by
  refine Client.Safe.bind (fun _ _ _ hl hd => Leased.op hdistinct hl hd) hi h fun r s' _ hr => ?_
  intro s2 hr2 _ reply hreply _
  cases r with
  | error e => cases hreply
  | ok reply' => exact Others.unexpired hr2 (hr reply' rfl)

/-- What a request with a live ticket does keeps the ticket live. -/
theorem admits_live {α : Type} {acceptable : α → Prop} {x : Client HostState (Except HostError α)}
    (h : Safely cfg calls i (fun _ _ => True) x s) (hlive : Unexpired cfg (calls i) s.tickets) :
    Admits cfg calls i acceptable (ExceptT.mk x) s := by
  show Safely cfg calls i _ x s
  induction x generalizing s with
  | ret r => exact fun s' hr _ _ _ _ => Others.unexpired hr hlive
  | op next k ih =>
    intro s' hr hi
    obtain ⟨hd, hk⟩ := h s' hr hi
    exact ⟨hd, ih s' hk (Does.unexpired hd (Others.unexpired hr hlive))⟩

variable (hdistinct : DistinctTokens calls)

include hdistinct in
theorem admits_settle {record : ExecutionTicketRecord} {ends : String → String → TicketProg}
    {acceptable : Unit → Prop}
    (hends : ∀ hash token s, Safely cfg calls i (fun _ _ => True) (ticketCall (ends hash token)) s)
    (hi : Leased cfg calls s) (hlive : Unexpired cfg (calls i) s.tickets) :
    Admits cfg calls i acceptable (settle cfg (calls i) record ends) s := by
  unfold settle
  split
  · exact admits_pure fun _ => hlive
  · next token _ =>
    refine admits_bind (P := fun _ => True) hdistinct hi (admits_live ?_ hlive)
      fun _ s' _ h => admits_pure fun _ => h trivial
    exact Client.Safe.bind (fun _ _ _ hl hd => Leased.op hdistinct hl hd) hi (hends _ token s)
      fun _ _ _ _ => fun _ _ _ => trivial

include hdistinct in
theorem admits_onRuns {generated : Generated} {command : AgentCommand}
    {acceptable : DelegatedRunCommandResult → Prop} (hi : Leased cfg calls s)
    (hlive : Unexpired cfg (calls i) s.tickets) :
    Admits cfg calls i acceptable (onRuns generated command) s :=
  admits_bind (P := fun _ => True) hdistinct hi (admits_operation (fun _ => rfl) fun _ _ => hlive)
    fun _ _ _ h => admits_ofExcept _ fun _ _ => h trivial

include hdistinct in
theorem admits_conclude {record : ExecutionTicketRecord} {command : AgentCommand}
    {acceptable : AgentEventCompatResponse → Prop} (hi : Leased cfg calls s)
    (hlive : Unexpired cfg (calls i) s.tickets) :
    Admits cfg calls i acceptable (conclude cfg (calls i) record command) s := by
  unfold conclude consumeTicket
  refine admits_bind (P := fun _ => True) hdistinct hi (admits_onRuns hdistinct hi hlive)
    fun _ s1 hi1 h1 => ?_
  refine admits_bind (P := fun _ => True) hdistinct hi1
    (admits_settle hdistinct (fun _ _ _ => safely_consume) hi1 (h1 trivial)) fun _ _ _ h2 => ?_
  exact admits_pure fun _ => h2 trivial

include hdistinct in
theorem admits_apply {record : ExecutionTicketRecord} {acceptable : AgentEventCompatResponse → Prop}
    (hi : Leased cfg calls s) (hlive : Unexpired cfg (calls i) s.tickets) :
    Admits cfg calls i acceptable (apply cfg (calls i) record) s := by
  unfold apply
  cases branch (calls i).request with
  | progress =>
    refine admits_bind (P := fun _ => True) hdistinct hi (admits_ofExcept _ fun _ _ => hlive)
      fun command s1 hi1 h1 => ?_
    refine admits_bind (P := fun _ => True) hdistinct hi1 (admits_onRuns hdistinct hi1 (h1 trivial))
      fun result s2 hi2 h2 => ?_
    refine admits_bind (P := fun _ => True) hdistinct hi2
      (admits_settle hdistinct (fun _ _ _ => safely_release) hi2 (h2 trivial)) fun _ _ _ h3 => ?_
    exact admits_pure fun _ => h3 trivial
  | completion =>
    exact admits_bind (P := fun _ => True) hdistinct hi (admits_ofExcept _ fun _ _ => hlive)
      fun command s1 hi1 h1 => admits_conclude hdistinct hi1 (h1 trivial)
  | failure =>
    exact admits_bind (P := fun _ => True) hdistinct hi (admits_ofExcept _ fun _ _ => hlive)
      fun command s1 hi1 h1 => admits_conclude hdistinct hi1 (h1 trivial)
  | other =>
    refine admits_bind (P := fun _ => True) hdistinct hi (admits_ofExcept _ fun _ _ => hlive)
      fun native s1 hi1 h1 => ?_
    refine admits_bind (P := fun _ => True) hdistinct hi1
      (admits_operation (fun _ => rfl) fun _ _ => h1 trivial) fun recorded s2 hi2 h2 => ?_
    refine admits_bind (P := fun _ => True) hdistinct hi2
      (admits_ofExcept _ fun _ _ => h2 trivial) fun duplicate s3 hi3 h3 => ?_
    refine admits_bind (P := fun _ => True) hdistinct hi3
      (admits_settle hdistinct (fun _ _ _ => safely_consume) hi3 (h3 trivial)) fun _ _ _ h4 => ?_
    exact admits_pure fun _ => h4 trivial

theorem admits_quarantine {ticketExpiresAt : Option Instant} {acceptable : Bool → Prop}
    (h : ∀ a, acceptable a → Unexpired cfg (calls i) s.tickets) :
    Admits cfg calls i acceptable (quarantineIfLegacy cfg (calls i) ticketExpiresAt) s := by
  unfold quarantineIfLegacy
  dsimp only
  split
  · split
    · exact admits_pure (h _)
    · exact admits_operation (fun _ => rfl) h
  · exact admits_pure (h _)

/-- The answer to a conflict with the plan accepts nothing. -/
theorem planConflict_accepted {request : AgentEventRequest} {plan : Option Plan}
    {response : AgentEventCompatResponse} (h : planConflict request plan = some response) :
    response.accepted = false := by
  unfold planConflict at h
  split at h
  · cases h
  · cases h
    rfl

def AcceptsOption (response : Option AgentEventCompatResponse) : Prop :=
  ∃ r, response = some r ∧ r.accepted = true

theorem admits_canonicalPlan :
    Admits cfg calls i (fun _ => False) (canonicalPlan (calls i)) s := by
  unfold canonicalPlan
  split
  · exact admits_pure False.elim
  · intro s' hr hi
    exact ⟨.idle, fun _ _ _ _ _ h => h.elim⟩

include hdistinct in
theorem admits_planConflict (hi : Leased cfg calls s) :
    Admits cfg calls i AcceptsOption (planEventConflictResponse (calls i)) s := by
  unfold planEventConflictResponse
  split
  · refine admits_pure ?_
    rintro ⟨r, hr, -⟩
    cases hr
  · refine admits_bind hdistinct hi admits_canonicalPlan fun plan s' _ _ => admits_pure ?_
    rintro ⟨r, hr, haccepted⟩
    rw [planConflict_accepted hr] at haccepted
    cases haccepted

theorem correlationQuery_now (h : correlationQuery call = .ok query) :
    query.now = call.correlatedAt := by
  unfold correlationQuery at h
  dsimp only at h
  split at h
  · cases h
    rfl
  · cases h

include hdistinct in
theorem admits_claimTicket (hi : Leased cfg calls s) :
    Admits cfg calls i (fun _ => True) (claimTicket cfg (calls i)) s := by
  unfold claimTicket
  refine admits_bind (P := fun _ => True) hdistinct hi ?_ fun reply s' _ h => ?_
  · unfold claimReply
    split
    · next ticket hraw =>
      exact admits_onTickets (grants_claim hraw _ _ _ _) hdistinct hi
    · next hraw =>
      exact admits_ofExcept_bind fun query hquery =>
        admits_onTickets (grants_claimLegacy hraw (correlationQuery_now hquery)) hdistinct hi
  · split
    · exact admits_pure h
    · exact admits_throw _

abbrev Accepts (response : AgentEventCompatResponse) : Prop := response.accepted = true

include hdistinct in
theorem admits_handle (hi : Leased cfg calls s) :
    Admits cfg calls i Accepts (handle cfg (calls i)) s := by
  unfold handle
  refine admits_bind hdistinct hi (admits_claimTicket hdistinct hi) fun record s1 hi1 h1 => ?_
  refine admits_bind (P := fun _ => True) hdistinct hi1 (admits_quarantine fun _ _ => h1 trivial)
    fun legacy s2 hi2 h2 => ?_
  split
  · exact admits_pure fun h => by cases h
  · exact admits_apply hdistinct hi2 (h2 trivial)

include hdistinct in
theorem admits_onError (e : HostError) (hi : Leased cfg calls s) :
    Admits cfg calls i Accepts (onError (calls i) e) s := by
  unfold onError
  split
  · split
    · refine admits_bind hdistinct hi (admits_planConflict hdistinct hi) fun conflict s' _ h => ?_
      split
      · next r => exact admits_pure fun haccepted => h ⟨r, rfl, haccepted⟩
      · exact admits_throw _
    · exact admits_throw _
  · exact admits_throw _

include hdistinct in
/-- An event is let through only by a ticket that has not expired at the time it claims. -/
theorem admits_agentEvent (hi : Leased cfg calls s) :
    Admits cfg calls i Accepts (agentEvent cfg (calls i)) s := by
  unfold agentEvent
  split
  · exact admits_throw _
  · refine admits_bind (P := fun _ => False) hdistinct hi
      (admits_quarantine fun _ h => h.elim) fun legacy s1 hi1 _ => ?_
    split
    · exact admits_pure fun h => by cases h
    · refine admits_bind hdistinct hi1 (admits_planConflict hdistinct hi1) fun conflict s2 hi2 h2 => ?_
      split
      · next r => exact admits_pure fun haccepted => h2 ⟨r, rfl, haccepted⟩
      · exact admits_tryCatch hdistinct hi2 (admits_handle hdistinct hi2)
          fun e s3 hi3 => admits_onError hdistinct e hi3

end Request

/-! ## Runs -/

def cutOff : Except HostError AgentEventCompatResponse :=
  .error (.raised (.ticket .operationalError))

variable (cfg calls) in
/-- The requests from the state `s`, in any order of their operations. -/
def requests (s : HostState) :
    LTS (Crowd ι HostState (Except HostError AgentEventCompatResponse)) (Crowd.Label ι) :=
  Crowd.system cutOff s fun i => (agentEvent cfg (calls i)).run

variable (calls) in
structure FreshTokens (s : HostState) : Prop where
  distinct : DistinctTokens calls
  unheld : ∀ hash record i, s.tickets.records.get? hash = some record →
    record.leaseToken ≠ some (calls i).readings.leaseToken
  ungranted : ∀ grant ∈ s.tickets.grants, ∀ i, grant.leaseToken ≠ (calls i).readings.leaseToken

def OnServerClock (call : Call) : Prop :=
  call.rawTicket = none →
    call.request.createdAt = none ∨ call.request.createdAt = some call.readings.handledAt

theorem claimsAt_eq (h : OnServerClock call) : claimsAt call = call.readings.handledAt := by
  unfold claimsAt
  split
  · rfl
  · next hraw =>
    rcases h hraw with hc | hc
    · simp only [Call.correlatedAt, hc, Option.getD_none]
    · simp only [Call.correlatedAt, hc, Option.getD_some]

variable (cfg calls) in
/-- A request that is accepted had a ticket that had not expired when the server took it up. -/
def ExpiryHolds (c : Crowd ι HostState (Except HostError AgentEventCompatResponse)) : Prop :=
  ∀ i response, c.proc i = .ret (.ok response) → response.accepted = true →
    ∃ hash record, ItsTicket cfg (calls i) c.shared.tickets hash ∧
      c.shared.tickets.records.get? hash = some record ∧
      (calls i).readings.handledAt < record.claims.expiresAt

variable (cfg calls) in
/-- A claim ends the claim of another request only when, by the clock of the server, the
lease of the other has run out. -/
def LeasesHold (c : Crowd ι HostState (Except HostError AgentEventCompatResponse)) : Prop :=
  ∀ l c' grant, Crowd.next cutOff c l = some c' →
    c'.shared.tickets.grants = grant :: c.shared.tickets.grants →
    ∃ i, l = .op i ∧ ∀ j record, c.shared.tickets.records.get? grant.ticketHash = some record →
      record.status = .claimed → record.leaseToken = some (calls j).readings.leaseToken →
      (calls j).readings.handledAt + seconds cfg.executionTicketLeaseSeconds ≤
        (calls i).readings.handledAt

variable {c c' : Crowd ι HostState (Except HostError AgentEventCompatResponse)} {s₀ : HostState}

variable (cfg calls) in
def LetsThrough (i : ι) (r : Except HostError AgentEventCompatResponse) (s : HostState) : Prop :=
  ∀ a, r = .ok a → Accepts a → Unexpired cfg (calls i) s.tickets

omit [DecidableEq ι] in
theorem cutOff_letsThrough (i : ι) (s : HostState) : LetsThrough cfg calls i cutOff s :=
  fun a ha => by cases ha

/-- In every reachable state the leases are as they were given out, and every request
is let through as `admits_agentEvent` says. -/
theorem requests_safe (hfresh : FreshTokens calls s₀) (hc : (requests cfg calls s₀).Reachable c) :
    Leased cfg calls c.shared ∧
      ∀ i, Safely cfg calls i (LetsThrough cfg calls i) (c.proc i) c.shared := by
  have hinit : Leased cfg calls s₀ := fun hash record i hget _ htoken =>
    absurd htoken (hfresh.unheld hash record i hget)
  have hsafe : ∀ i, Safely cfg calls i (LetsThrough cfg calls i) (agentEvent cfg (calls i)).run s₀ :=
    fun i => admits_agentEvent hfresh.distinct hinit
  exact Crowd.reachable_safe (G := Op cfg calls) (I := Leased cfg calls)
    (fun _ _ _ hl hd => Leased.op hfresh.distinct hl hd) cutOff_letsThrough hinit hsafe hc

theorem requests_step (hfresh : FreshTokens calls s₀) (hc : (requests cfg calls s₀).Reachable c)
    {l : Crowd.Label ι} (hst : Crowd.next cutOff c l = some c') :
    c'.shared = c.shared ∨ ∃ i, l = .op i ∧ Does cfg (calls i) c.shared.tickets c'.shared.tickets := by
  obtain ⟨hl, hs⟩ := requests_safe hfresh hc
  exact (Crowd.sound (G := Op cfg calls) (I := Leased cfg calls)
    (fun _ _ _ hl hd => Leased.op hfresh.distinct hl hd) cutOff_letsThrough hl hs hst).2

/-- **The clock of the server.** As long as every request carries its ticket or leaves
its time to the server, a request is accepted only with a ticket that has not expired at
the server's clock, and takes over no claim whose lease still runs by that clock. -/
theorem server_clock_governs (hfresh : FreshTokens calls s₀)
    (hclock : ∀ i, OnServerClock (calls i)) (hc : (requests cfg calls s₀).Reachable c) :
    ExpiryHolds cfg calls c ∧ LeasesHold cfg calls c := by
  obtain ⟨hl, hs⟩ := requests_safe hfresh hc
  refine ⟨fun i response hproc haccepted => ?_, fun l c' grant hst hnew => ?_⟩
  · have hi := hs i
    rw [hproc] at hi
    obtain ⟨hash, claims, hits, ⟨record, hget, hrecord⟩, hlt⟩ :=
      hi c.shared .refl hl response rfl haccepted
    refine ⟨hash, record, hits, hget, ?_⟩
    rw [hrecord, ← claimsAt_eq (hclock i)]
    exact hlt
  · rcases requests_step hfresh hc hst with hsame | ⟨i, hi, hd⟩
    · rw [hsame] at hnew
      exact absurd (congrArg List.length hnew) (by simp)
    · refine ⟨i, hi, fun j record hget hclaimed htoken => ?_⟩
      have hexpiry := hl _ record j hget hclaimed htoken
      obtain ⟨⟨stores', tickets', quarantine'⟩, proc'⟩ := c'
      dsimp only at hd hnew
      cases hd with
      | idle => exact absurd (congrArg List.length hnew) (by simp)
      | ended _ _ _ _ => exact absurd (congrArg List.length hnew) (by simp)
      | @granted old owner hold hclaimable =>
        cases hnew
        cases hold.symm.trans hget
        simp only [claimable, hclaimed, reduceCtorEq, decide_false, Bool.false_or, decide_true,
          Bool.true_and, hexpiry, Option.any_some, decide_eq_true_eq] at hclaimable
        rw [claimsAt_eq (hclock i), claimsAt_eq (hclock j)] at hclaimable
        exact hclaimable

end Crowd

/-! ## Two runs -/

def sampleHost : Config :=
  { tickets := OpenIntentRouter.Tickets.sampleConfig
    executionTicketLeaseSeconds := 30
    executionTicketTtlSeconds := 60
    watermark := none
    fingerprint := id }

def sampleState : HostState :=
  { stores := Services.AgentEvents.sampleState.stores
    tickets := Services.AgentEvents.sampleState.tickets
    quarantine := [] }

def sampleIdentity : TrustedHostIdentity :=
  { keyId := "key"
    audience := "oir"
    principalType := "user"
    tenantId := "tenant"
    userId := "user"
    groups := []
    credentialClass := "oac_user"
    claimsVersion := "oac-principal-v1"
    roles := []
    activeBundleId := ""
    policyVersion := "oac-authz-v1"
    signatureVersion := "v2"
    requestOperation := "runtime" }

/-- The run is completed, at `handledAt` by the clock of the server. -/
def sampleCall (ticket : Option String) (createdAt : Option Instant) (handledAt : Instant)
    (leaseToken : String) : Call :=
  { request :=
      { eventId := "event"
        sessionId := "session"
        agentId := "agent"
        status := .completed
        createdAt
        executionTicket := ticket }
    identity := sampleIdentity
    readings := { handledAt, now := handledAt, leaseToken, generated := sampleGenerated "2" } }

def replyOf {α : Type} : Client HostState α → Option α
  | .ret a => some a
  | .op _ _ => none

theorem replyOf_eq {α : Type} {p : Client HostState α} {a : α} (h : replyOf p = some a) :
    p = .ret a := by
  cases p with
  | ret b => exact congrArg Client.ret (Option.some.inj h)
  | op _ _ => cases h

def sampleHash : String := sampleHost.tickets.digest OpenIntentRouter.Tickets.sampleTicket

def sampleRun {n : Nat} (calls : Fin n → Call) (steps : List (Fin n)) :
    Option (Crowd (Fin n) HostState (Except HostError AgentEventCompatResponse)) :=
  LTS.exec (Crowd.next cutOff) ⟨sampleState, fun i => (agentEvent sampleHost (calls i)).run⟩
    (steps.map .op)

theorem sampleRun_reachable {n : Nat} {calls : Fin n → Call} {steps : List (Fin n)}
    {c : Crowd (Fin n) HostState (Except HostError AgentEventCompatResponse)}
    (h : sampleRun calls steps = some c) : (requests sampleHost calls sampleState).Reachable c :=
  .exec (.init rfl) h

theorem sampleState_fresh {n : Nat} {calls : Fin n → Call} (hdistinct : DistinctTokens calls) :
    FreshTokens calls sampleState := by
  refine ⟨hdistinct, fun hash record i hget => ?_, fun grant hm => by cases hm⟩
  have hmem : record ∈ sampleState.tickets.records.values := (Table.mem_values _ _).2 (by
    rw [Table.key_of_get? hget]
    exact hget)
  have htokens : sampleState.tickets.records.values.map (·.leaseToken) = [none] := by decide
  have hnone : record.leaseToken ∈ ([none] : List (Option String)) := by
    rw [← htokens]
    exact List.mem_map_of_mem hmem
  rw [List.mem_singleton.1 hnone]
  exact fun h => by cases h

/-- Without a time of its own the event is taken in while its ticket lasts. -/
theorem server_clock_governs_unset :
    ∃ c response, sampleRun (fun _ : Fin 1 => sampleCall none none 1 "token") [0, 0, 0, 0, 0] = some c ∧
      c.proc 0 = .ret (.ok response) ∧ response.accepted = true ∧
      ∃ hash record, c.shared.tickets.records.get? hash = some record ∧ 1 < record.claims.expiresAt := by
  have hrun : (sampleRun (fun _ : Fin 1 => sampleCall none none 1 "token") [0, 0, 0, 0, 0]).map
      (fun c => replyOf (c.proc 0)) =
        some (some (.ok (accepted (sampleCall none none 1 "token").request false))) := by
    decide
  obtain ⟨c, hc, hreply⟩ := Option.map_eq_some_iff.1 hrun
  have hproc := replyOf_eq hreply
  have hgoverned := server_clock_governs
    (sampleState_fresh fun _ _ _ => Subsingleton.elim _ _) (fun _ _ => .inl rfl)
    (sampleRun_reachable hc)
  obtain ⟨hash, record, -, hget, hlt⟩ := hgoverned.1 0 _ hproc rfl
  exact ⟨c, _, hc, hproc, rfl, hash, record, hget, hlt⟩

def lateCalls (_ : Fin 1) : Call := sampleCall none (some 1) 3600000000 "token"

def earlyCalls : Fin 2 → Call
  | 0 => sampleCall (some OpenIntentRouter.Tickets.sampleTicket) none 1 "token"
  | 1 => sampleCall none (some 40000000) 2 "other"

/-- An event dated back is accepted after its ticket has expired, and one dated ahead takes
over a claim made a moment ago. -/
theorem dated_events_accepted :
    (∃ c, (requests sampleHost lateCalls sampleState).Reachable c ∧ FreshTokens lateCalls sampleState ∧
      ¬ExpiryHolds sampleHost lateCalls c) ∧
    ∃ c, (requests sampleHost earlyCalls sampleState).Reachable c ∧
      FreshTokens earlyCalls sampleState ∧ ¬LeasesHold sampleHost earlyCalls c := by
  refine ⟨?_, ?_⟩
  · have hrun : (sampleRun lateCalls [0, 0, 0, 0, 0]).map (fun c =>
        (replyOf (c.proc 0), c.shared.tickets.grants.map (·.ticketHash),
          (c.shared.tickets.records.get? sampleHash).map (·.claims.expiresAt))) =
        some (some (.ok (accepted (lateCalls 0).request false)), [sampleHash], some 60000000) := by
      decide
    obtain ⟨c, hc, hsummary⟩ := Option.map_eq_some_iff.1 hrun
    simp only [Prod.mk.injEq, List.map_eq_singleton_iff, Option.map_eq_some_iff] at hsummary
    obtain ⟨hreply, ⟨grant, hgrants, hhash⟩, record, hget, hexpires⟩ := hsummary
    refine ⟨c, sampleRun_reachable hc, sampleState_fresh fun _ _ _ => Subsingleton.elim _ _,
      fun hholds => ?_⟩
    obtain ⟨hash, record', hits, hget', hlt⟩ := hholds 0 _ (replyOf_eq hreply) rfl
    obtain ⟨grant', hm, -, hkey⟩ : ∃ grant' ∈ c.shared.tickets.grants,
      grant'.leaseToken = (lateCalls 0).readings.leaseToken ∧ grant'.ticketHash = hash := hits
    rw [hgrants, List.mem_singleton] at hm
    rw [← hkey, hm, hhash, hget, Option.some.injEq] at hget'
    rw [← hget', hexpires] at hlt
    exact absurd hlt (by decide)
  · have hrun : (sampleRun earlyCalls [0, 0, 1]).bind (fun c =>
        (Crowd.next cutOff c (.op 1)).map fun c' =>
          ((c.shared.tickets.records.get? sampleHash).map fun record =>
              (record.status, record.leaseToken),
            c.shared.tickets.grants, c'.shared.tickets.grants)) =
        some (some (.claimed, some "token"), [⟨sampleHash, "agent-event:event", "token"⟩],
          [⟨sampleHash, "agent-event:event", "other"⟩, ⟨sampleHash, "agent-event:event", "token"⟩]) := by
      decide
    obtain ⟨c, hc, hnext⟩ := Option.bind_eq_some_iff.1 hrun
    obtain ⟨c', hc', hsummary⟩ := Option.map_eq_some_iff.1 hnext
    simp only [Prod.mk.injEq, Option.map_eq_some_iff] at hsummary
    obtain ⟨⟨record, hget, hstatus, htoken⟩, hgrants, hgrants'⟩ := hsummary
    have hdistinct : DistinctTokens earlyCalls := by
      have hall : ∀ i j, (earlyCalls i).readings.leaseToken = (earlyCalls j).readings.leaseToken →
          i = j := by
        decide
      exact hall
    refine ⟨c, sampleRun_reachable hc, sampleState_fresh hdistinct, fun hholds => ?_⟩
    obtain ⟨i, hi, hended⟩ := hholds _ c' _ hc' (by rw [hgrants', hgrants])
    cases hi
    exact absurd (hended 0 record hget hstatus htoken) (by decide)

end OpenIntentRouter.HostAdapters.Central
