import OpenIntentRouter.Core.LTS
import OpenIntentRouter.HostAdapters.Verifier

/-!
# When a signed request can be replayed

A request is fresh while the clock is within the allowed skew of its timestamp,
both ends included; its nonce is remembered from the reading `now'` at which it
was consumed until just before `now' + ttl`. A history is any sequence of calls
under a clock that never goes back; the two readings within one call are two
points of that clock.

* `recorded_consume`: a nonce is only forgotten once it has expired;
* `step_remembers`: what the nonces of accepted requests are recorded for, kept
  by every covered call;
* `replay_refused_when_covered`: no request is accepted twice as long as the
  calls are `Covered`, and every call that is not takes part in a history that
  accepts its request twice: with the default settings, one that is stamped a
  full minute ahead of the clock.
-/
namespace OpenIntentRouter.HostAdapters

open Core Core.Text

/-- A nonce that a call at the instant `t` would find used. -/
def MemoryNonceStore.Recorded (store : MemoryNonceStore) (key : String × String) (t : Int) : Prop :=
  ∃ expiry, store.get? key = some expiry ∧ t < expiry

section Store

variable {store : MemoryNonceStore} {keyId nonce : String} {now ttl t : Int}

theorem consume_eq_false :
    (store.consume keyId nonce now ttl).1 = false ↔ store.Recorded (keyId, nonce) now := by
  have hc : (store.filter fun _ expiry => now < expiry).contains (keyId, nonce) = true ↔
      store.Recorded (keyId, nonce) now := by
    simp only [Dict.contains_iff, Dict.get?_filter, Option.filter_eq_some_iff, decide_eq_true_eq,
      MemoryNonceStore.Recorded]
  unfold MemoryNonceStore.consume
  simp only
  split
  · next h => simpa using hc.1 h
  · next h => simpa using fun hr => h (hc.2 hr)

theorem recorded_consumed (h : (store.consume keyId nonce now ttl).1 = true) :
    (store.consume keyId nonce now ttl).2.Recorded (keyId, nonce) t ↔ t < now + ttl := by
  unfold MemoryNonceStore.consume at h ⊢
  simp only at h ⊢
  split at h
  · cases h
  · next hc =>
    rw [if_neg hc]
    simp [MemoryNonceStore.Recorded]

/-- A call at `now` keeps what is recorded for any instant from then on. -/
theorem recorded_consume {key : String × String} (h : store.Recorded key t) (ht : now ≤ t) :
    (store.consume keyId nonce now ttl).2.Recorded key t := by
  obtain ⟨expiry, he, hlt⟩ := h
  have hkept : (store.filter fun _ expiry => now < expiry).get? key = some expiry := by
    rw [Dict.get?_filter, he, Option.filter_some, if_pos (by simp; omega)]
  unfold MemoryNonceStore.consume
  simp only
  split
  · exact ⟨expiry, hkept, hlt⟩
  · next hc =>
    have hne : (keyId, nonce) ≠ key := by
      intro heq
      rw [heq] at hc
      exact hc ((Dict.contains_iff _ _).2 ⟨expiry, hkept⟩)
    exact ⟨expiry, by rw [Dict.get?_set_ne _ _ hne, hkept], hlt⟩

end Store

/-! ## Histories of calls -/

structure Call where
  request : SignedHostRequest
  now : Int
  now' : Int
  deriving DecidableEq

/-- The store, the last reading of the clock, and the requests accepted so far. -/
structure History where
  store : MemoryNonceStore
  clock : Int
  accepted : List SignedHostRequest

variable (lib : Library) (v : HostIdentityVerifier)

def afterCall (s : History) (c : Call) : History :=
  let reply := v.verify lib c.request c.now c.now' s.store
  { store := reply.2, clock := c.now'
    accepted := if reply.1.isOk then c.request :: s.accepted else s.accepted }

def calls : LTS History Call :=
  .ofFn (fun s => s.store = .empty ∧ s.accepted = []) fun s c =>
    if s.clock ≤ c.now ∧ c.now ≤ c.now' then some (afterCall lib v s c) else none

/-- The nonce outlives the request's window, and the nonce store is asked within
that window or early enough for any earlier use of the nonce to be remembered. -/
def Covered (c : Call) : Prop :=
  ∀ timestamp, int lib.unicode c.request.timestamp = some timestamp →
    timestamp + v.maxClockSkewSeconds < c.now' + v.nonceTtlSeconds ∧
    (c.now' ≤ timestamp + v.maxClockSkewSeconds ∨
      c.now' < timestamp - v.maxClockSkewSeconds + v.nonceTtlSeconds)

/-- No request was accepted twice, and the nonces of the accepted ones are recorded
as long as any call could need them. -/
structure Remembers (s : History) : Prop where
  once : s.accepted.Nodup
  recorded : ∀ r ∈ s.accepted, ∀ timestamp, int lib.unicode r.timestamp = some timestamp →
    ∀ t, s.clock ≤ t → (t ≤ timestamp + v.maxClockSkewSeconds ∨
      t < timestamp - v.maxClockSkewSeconds + v.nonceTtlSeconds) →
    s.store.Recorded (r.keyId, r.nonce) t

variable {lib v}

theorem isOk_iff {ε α : Type} (x : Except ε α) : x.isOk = true ↔ ∃ a, x = .ok a := by
  cases x <;> simp [Except.isOk, Except.toBool]

theorem store_afterCall (s : History) (c : Call) :
    (afterCall lib v s c).store = (v.verify lib c.request c.now c.now' s.store).2 := by
  simp only [afterCall]

theorem recorded_verify {s : History} {c : Call} {key : String × String} {t : Int}
    (h : s.store.Recorded key t) (ht : c.now' ≤ t) : (afterCall lib v s c).store.Recorded key t := by
  rw [store_afterCall]
  obtain hs | hs := @verify_store lib v c.request c.now c.now' s.store
  · rwa [hs]
  · rw [hs]
    exact recorded_consume h ht

theorem accepted_afterCall {s : History} {c : Call}
    (h : (v.verify lib c.request c.now c.now' s.store).1.isOk = true) :
    (afterCall lib v s c).accepted = c.request :: s.accepted := by
  simp only [afterCall, h, if_true]

theorem step_remembers {s s' : History} {c : Call} (hc : Covered lib v c) (hs : Remembers lib v s)
    (h : (calls lib v).step s c s') : Remembers lib v s' := by
  have h' : (if s.clock ≤ c.now ∧ c.now ≤ c.now' then some (afterCall lib v s c) else none) =
      some s' := h
  split at h'
  · next hclock =>
    obtain rfl := Option.some.inj h'
    have hold : ∀ r ∈ s.accepted, ∀ timestamp, int lib.unicode r.timestamp = some timestamp →
        ∀ t, c.now' ≤ t → (t ≤ timestamp + v.maxClockSkewSeconds ∨
          t < timestamp - v.maxClockSkewSeconds + v.nonceTtlSeconds) →
        (afterCall lib v s c).store.Recorded (r.keyId, r.nonce) t := by
      intro r hr timestamp hts t ht hw
      exact recorded_verify (hs.recorded r hr timestamp hts t (by omega) hw) ht
    by_cases hok : (v.verify lib c.request c.now c.now' s.store).1.isOk = true
    · have hacc := accepted_afterCall hok
      obtain ⟨identity, hid⟩ := (isOk_iff _).1 hok
      obtain ⟨⟨timestamp, secret, given, ha⟩, hconsume⟩ := verify_ok hid
      obtain ⟨hfresh, hwindow⟩ := hc timestamp ha.stamp
      have hage := ha.fresh
      constructor
      · rw [hacc]
        refine List.nodup_cons.2 ⟨fun hmem => ?_, hs.once⟩
        -- a request accepted before still has its nonce recorded
        have hrec := hs.recorded _ hmem timestamp ha.stamp c.now' (by omega) hwindow
        rw [consume_eq_false.2 hrec] at hconsume
        cases hconsume
      · intro r hr timestamp' hts t ht hw
        rw [hacc] at hr
        obtain rfl | hr := List.mem_cons.1 hr
        · have heq : timestamp' = timestamp := Option.some.inj (hts.symm.trans ha.stamp)
          subst heq
          rw [store_afterCall, (verify_admitted ha).2]
          exact (recorded_consumed hconsume).2 (by omega)
        · exact hold r hr timestamp' hts t ht hw
    · have hacc : (afterCall lib v s c).accepted = s.accepted := by
        simp only [afterCall, hok]
        rfl
      refine ⟨by rw [hacc]; exact hs.once, ?_⟩
      intro r hr timestamp hts t ht hw
      exact hold r (hacc ▸ hr) timestamp hts t ht hw
  · cases h'

theorem covered_remembers {s : History}
    (h : ((calls lib v).guarded fun _ c => Covered lib v c).Reachable s) : Remembers lib v s := by
  refine LTS.Inductive.reachable ⟨fun s h0 => ?_, fun s c s' hs hst => ?_⟩ h
  · obtain ⟨-, hacc⟩ := h0
    exact ⟨by rw [hacc]; exact List.nodup_nil, fun r hr => by rw [hacc] at hr; cases hr⟩
  · exact step_remembers hst.1 hs hst.2

/-- An admitted call is accepted by a verifier that has seen no nonce yet. -/
theorem accepted_first {c : Call} {timestamp : Int} {secret given : String}
    (ha : v.Admits lib c.request c.now timestamp secret given) (hnow : c.now ≤ c.now') :
    ∃ s s', (calls lib v).init s ∧ (calls lib v).step s c s' ∧ s'.accepted = [c.request] ∧
      s'.clock = c.now' := by
  let s : History := ⟨.empty, c.now, []⟩
  have hok := (isOk_iff _).2 (verify_unused c.now' ha)
  exact ⟨s, _, ⟨rfl, rfl⟩, if_pos ⟨Int.le_refl _, hnow⟩, accepted_afterCall hok, rfl⟩

/-- A replay: two calls with one request, the first into an empty store, the second
when the first one's nonce has expired. -/
theorem replayed {r : SignedHostRequest} (first second : Call) {timestamp timestamp' : Int}
    {secret given secret' given' : String} (hr : first.request = r) (hr' : second.request = r)
    (ha : v.Admits lib r first.now timestamp secret given)
    (ha' : v.Admits lib r second.now timestamp' secret' given')
    (h1 : first.now ≤ first.now') (h2 : first.now' ≤ second.now) (h3 : second.now ≤ second.now')
    (hexpired : first.now' + v.nonceTtlSeconds ≤ second.now') :
    ∃ s s₁ s₂, (calls lib v).init s ∧ (calls lib v).step s first s₁ ∧
      (calls lib v).step s₁ second s₂ ∧ s₂.accepted = [r, r] := by
  let s : History := ⟨.empty, first.now, []⟩
  have hconsume : (s.store.consume r.keyId r.nonce first.now' v.nonceTtlSeconds).1 = true := rfl
  have hstore : (afterCall lib v s first).store =
      (s.store.consume r.keyId r.nonce first.now' v.nonceTtlSeconds).2 := by
    rw [store_afterCall, hr, (verify_admitted ha).2]
  have hacc : (afterCall lib v s first).accepted = [r] := by
    have hok : ∃ identity, (v.verify lib r first.now first.now' s.store).1 = .ok identity :=
      (verify_admitted ha).1.2 hconsume
    rw [accepted_afterCall (hr ▸ (isOk_iff _).2 hok), hr]
  have hconsume' : ((afterCall lib v s first).store.consume r.keyId r.nonce second.now'
      v.nonceTtlSeconds).1 = true := by
    rw [← Bool.not_eq_false, consume_eq_false, hstore, recorded_consumed hconsume]
    omega
  refine ⟨s, afterCall lib v s first, afterCall lib v (afterCall lib v s first) second,
    ⟨rfl, rfl⟩, if_pos ⟨Int.le_refl _, h1⟩, if_pos ⟨h2, h3⟩, ?_⟩
  have hok : ∃ identity, (v.verify lib r second.now second.now'
      (afterCall lib v s first).store).1 = .ok identity := (verify_admitted ha').1.2 hconsume'
  rw [accepted_afterCall (hr' ▸ (isOk_iff _).2 hok), hr', hacc]

/-- Without an uncovered call no request is accepted twice, and the nonce of an
accepted one stays recorded while its timestamp is within the skew; every uncovered
call that is admitted is one of two calls that accept its request twice. -/
theorem replay_refused_when_covered (lib : Library) (v : HostIdentityVerifier)
    (httl : 2 * v.maxClockSkewSeconds ≤ v.nonceTtlSeconds) :
    (∀ s, ((calls lib v).guarded fun _ c => Covered lib v c).Reachable s → s.accepted.Nodup ∧
      ∀ r ∈ s.accepted, ∀ timestamp, int lib.unicode r.timestamp = some timestamp →
        ∀ t, s.clock ≤ t → (t - timestamp).natAbs ≤ v.maxClockSkewSeconds →
          s.store.Recorded (r.keyId, r.nonce) t) ∧
    ∀ c timestamp secret given, v.Admits lib c.request c.now timestamp secret given →
      c.now ≤ c.now' → ¬Covered lib v c →
      ∃ first second s s₁ s₂, (first = c ∨ second = c) ∧ (calls lib v).init s ∧
        (calls lib v).step s first s₁ ∧ (calls lib v).step s₁ second s₂ ∧
        s₂.accepted = [c.request, c.request] := by
  constructor
  · intro s h
    have hs := covered_remembers h
    refine ⟨hs.once, fun r hr timestamp hts t ht hw => ?_⟩
    exact hs.recorded r hr timestamp hts t ht (.inl (by omega))
  · intro c timestamp secret given ha hnow hc
    have hfresh := ha.fresh
    have hsplit : c.now' + v.nonceTtlSeconds ≤ timestamp + v.maxClockSkewSeconds ∨
        timestamp + v.maxClockSkewSeconds < c.now' ∧
          timestamp - v.maxClockSkewSeconds + v.nonceTtlSeconds ≤ c.now' := by
      by_contra hn
      refine hc fun timestamp' hts => ?_
      have heq : timestamp' = timestamp := Option.some.inj (hts.symm.trans ha.stamp)
      omega
    obtain hearly | ⟨-, hlate⟩ := hsplit
    · -- the nonce expires while the request is fresh: it is replayed in that last second
      let second : Call := ⟨c.request, timestamp + v.maxClockSkewSeconds,
        timestamp + v.maxClockSkewSeconds⟩
      have ha' : v.Admits lib c.request second.now timestamp secret given :=
        { ha with fresh := by show ((timestamp + _ - timestamp : Int).natAbs : Int) ≤ _; omega }
      obtain ⟨s, s₁, s₂, h0, h1, h2, hacc⟩ := replayed c second rfl rfl ha ha' hnow
        (show c.now' ≤ timestamp + v.maxClockSkewSeconds by omega) (Int.le_refl _) hearly
      exact ⟨c, second, s, s₁, s₂, .inl rfl, h0, h1, h2, hacc⟩
    · -- the call itself is the replay of one made as early as the skew allows
      let first : Call := ⟨c.request, timestamp - v.maxClockSkewSeconds,
        timestamp - v.maxClockSkewSeconds⟩
      have ha' : v.Admits lib c.request first.now timestamp secret given :=
        { ha with fresh := by show ((timestamp - _ - timestamp : Int).natAbs : Int) ≤ _; omega }
      obtain ⟨s, s₁, s₂, h0, h1, h2, hacc⟩ := replayed first c rfl rfl ha' ha
        (Int.le_refl _) (show timestamp - v.maxClockSkewSeconds ≤ c.now by omega) hnow hlate
      exact ⟨first, c, s, s₁, s₂, .inr rfl, h0, h1, h2, hacc⟩

def asciiTables : Unicode where
  upper s := String.ofList (s.toList.map Char.toUpper)
  lower s := String.ofList (s.toList.map Char.toLower)
  decimal c := if c.isDigit then some (c.toNat - 48) else none
  upper_ascii _ _ := rfl
  lower_ascii _ _ := rfl
  decimal_ascii _ _ := rfl

def contractRequest : SignedHostRequest where
  method := "POST"
  path := "/api/v1/central/route"
  query := ""
  body := utf8 "\x7b\"request_id\":\"req-v2\",\"session_id\":\"session-v2\",\"user_id\":\"42\",\"user_tags\":[\"运营版\"],\"source\":\"central_chat\",\"user_query\":\"排期\"\x7d"
  keyId := "kid-v2"
  audience := "oac-oir-adapter-local"
  timestamp := "1784170800"
  nonce := "bm9uY2UtZml4dHVyZS12Mi0wMDE"
  contentSha256 := "63f46b5783ec77106d58c9b160388edfffb2dcbd15017ee9497f8f220375148e"
  principalType := "user"
  userId := "42"
  groups := ""
  credentialClass := "oac_user"
  signature := "v2=4e8aa5c32ea9b7bdc898ee21239fd6af1f5df8abe1b43afd5926dd1291f9c725"
  claimsVersion := "oac-principal-v1"
  roles := "operator"
  activeBundleId := "oac-operations"
  policyVersion := "oac-authz-v1"

/-- The digests of `contractRequest`. -/
def contractLibrary : Library where
  unicode := asciiTables
  sha256 _ := "63f46b5783ec77106d58c9b160388edfffb2dcbd15017ee9497f8f220375148e"
  hmacSha256 _ _ := "4e8aa5c32ea9b7bdc898ee21239fd6af1f5df8abe1b43afd5926dd1291f9c725"

def contractVerifier : HostIdentityVerifier where
  audience := "oac-oir-adapter-local"
  tenantId := "oac"
  keys := Dict.empty.set "kid-v2" "fixture-v2-secret"
  keyCredentialClasses := Dict.empty.set "kid-v2" ["oac_user"]

theorem contract_admits (now : Int) (h : (now - 1784170800).natAbs ≤ (60 : Int)) :
    contractVerifier.Admits contractLibrary contractRequest now 1784170800 "fixture-v2-secret"
      "4e8aa5c32ea9b7bdc898ee21239fd6af1f5df8abe1b43afd5926dd1291f9c725" where
  stamp := by decide
  key := by decide
  signature := by decide
  audience := rfl
  fresh := h
  hex := by decide
  body := rfl
  identity := by decide
  credential := by decide
  nonce := by decide
  signed := rfl

/-- The contract's request, received in time, is accepted once, and its nonce is
recorded up to the last second at which it is fresh. -/
theorem replay_refused_when_covered_contract :
    ∃ s, ((calls contractLibrary contractVerifier).guarded
        fun _ c => Covered contractLibrary contractVerifier c).Reachable s ∧
      s.accepted = [contractRequest] ∧ s.accepted.Nodup ∧
      s.store.Recorded ("kid-v2", "bm9uY2UtZml4dHVyZS12Mi0wMDE") 1784170860 := by
  have ha := contract_admits 1784170800 (by decide)
  obtain ⟨s, s', hinit, hstep, hacc, hclock⟩ :=
    accepted_first (c := ⟨contractRequest, 1784170800, 1784170800⟩) ha (Int.le_refl _)
  have hcovered : Covered contractLibrary contractVerifier
      ⟨contractRequest, 1784170800, 1784170800⟩ := by
    intro timestamp hts
    have heq : timestamp = 1784170800 := Option.some.inj (hts.symm.trans ha.stamp)
    subst heq
    exact ⟨by decide, .inl (by decide)⟩
  have hreach : ((calls contractLibrary contractVerifier).guarded
      fun _ c => Covered contractLibrary contractVerifier c).Reachable s' :=
    .step (.init hinit) ⟨hcovered, hstep⟩
  obtain ⟨hnodup, hrecorded⟩ :=
    (replay_refused_when_covered contractLibrary contractVerifier (by decide)).1 s' hreach
  exact ⟨s', hreach, hacc, hnodup, hrecorded contractRequest (by rw [hacc]; simp) 1784170800
    ha.stamp 1784170860 (by rw [hclock]; decide) (by decide)⟩

/-- A request stamped a minute ahead is accepted again when its window closes. -/
theorem replay_accepted_at_the_boundary :
    ¬∀ (lib : Library) (v : HostIdentityVerifier),
      2 * v.maxClockSkewSeconds ≤ v.nonceTtlSeconds →
      ∀ s, (calls lib v).Reachable s → s.accepted.Nodup := by
  intro hclaim
  have hfirst := contract_admits 1784170740 (by decide)
  have hsecond := contract_admits 1784170860 (by decide)
  obtain ⟨s, s₁, s₂, h0, h1, h2, hacc⟩ := replayed
    ⟨contractRequest, 1784170740, 1784170740⟩ ⟨contractRequest, 1784170860, 1784170860⟩ rfl rfl
    hfirst hsecond (Int.le_refl _)
    (by decide) (Int.le_refl _) (by decide)
  have hnodup := hclaim contractLibrary contractVerifier (by decide) s₂
    (.step (.step (.init h0) h1) h2)
  rw [hacc] at hnodup
  exact absurd hnodup (by simp)

end OpenIntentRouter.HostAdapters
