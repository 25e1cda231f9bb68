import OpenIntentRouter.Core.Dict
import OpenIntentRouter.Core.Text

/-!
# The host adapter's request verifier

The signed request with its canonical text, the credential profiles, the nonce
store and `HostIdentityVerifier.verify`. The digests are parameters; the two
readings of the clock within one call are arguments, as nothing makes them equal.
-/
namespace OpenIntentRouter.HostAdapters

open Core Core.Text

/-- mirrors host_adapters/oac/identity/models.py:14-33 -/
structure SignedHostRequest where
  method : String
  path : String
  query : String
  body : List UInt8
  keyId : String
  audience : String
  timestamp : String
  nonce : String
  contentSha256 : String
  principalType : String
  userId : String
  groups : String
  credentialClass : String
  signature : String
  claimsVersion : String := ""
  roles : String := ""
  activeBundleId : String := ""
  policyVersion : String := ""
  deriving DecidableEq

/-- mirrors host_adapters/oac/identity/models.py:36-50 -/
structure TrustedHostIdentity where
  keyId : String
  audience : String
  principalType : String
  tenantId : String
  userId : String
  groups : List String
  credentialClass : String
  claimsVersion : String
  roles : List String
  activeBundleId : String
  policyVersion : String
  signatureVersion : String
  requestOperation : String
  deriving DecidableEq

inductive HostAuthenticationError where
  | mk
  deriving DecidableEq

/-- mirrors host_adapters/oac/identity/profiles.py:6-14 -/
structure CredentialProfile where
  credentialClass : String
  principalType : String
  claimsVersion : String
  policyVersion : String
  rolesRequired : Bool
  activeBundleRequired : Bool
  deriving DecidableEq

/-- mirrors host_adapters/oac/identity/profiles.py:17-45 -/
def credentialProfiles : List CredentialProfile :=
  [ { credentialClass := "oac_user", principalType := "user", claimsVersion := "oac-principal-v1"
      policyVersion := "oac-authz-v1", rolesRequired := true, activeBundleRequired := true },
    { credentialClass := "oac_admin", principalType := "user"
      claimsVersion := "oac-admin-principal-v1", policyVersion := "oac-control-v1"
      rolesRequired := false, activeBundleRequired := false },
    { credentialClass := "coze_workflow", principalType := "service"
      claimsVersion := "oac-service-principal-v1", policyVersion := "oac-readonly-v1"
      rolesRequired := false, activeBundleRequired := false } ]

/-- mirrors host_adapters/oac/identity/observability.py:56-63 -/
def classifyHostRequest (path : String) : String :=
  if path.startsWith "/api/v1/admin/agent-registry" then "registry"
  else if path = "/api/v1/central/route" then "route"
  else if path.startsWith "/api/v1/central" then "runtime"
  else "unknown"

/-- What the verifier takes from the standard library: the Unicode tables and the
hexadecimal digests of `hashlib` and `hmac`. -/
structure Library where
  unicode : Unicode
  sha256 : List UInt8 → String
  hmacSha256 : String → String → String

/-! ## The canonical text -/

/-- `sorted({item.strip() for item in text.split(",") if item.strip()})` -/
def names (text : String) : List String :=
  ((((split ',' text).map strip).filter (· ≠ "")).dedup).insertionSort (· ≤ ·)

/-- mirrors host_adapters/oac/identity/canonical.py:33-35 -/
def normalizePath (path : String) : String :=
  let normalized := quote ['/', '-', '.', '_', '~'] (unquote (if path = "" then "/" else path))
  if normalized.toList.head? = some '/' then normalized else "/" ++ normalized

def pairLe (p q : String × String) : Prop := p.1 < q.1 ∨ p.1 = q.1 ∧ p.2 ≤ q.2

instance : DecidableRel pairLe := fun _ _ => inferInstanceAs (Decidable (_ ∨ _))

def quotePair (p : String × String) : String × String :=
  (quote ['-', '.', '_', '~'] p.1, quote ['-', '.', '_', '~'] p.2)

/-- mirrors host_adapters/oac/identity/canonical.py:38-44 -/
def normalizeQuery (query : String) : String :=
  let encoded := ((parseQsl query).map quotePair).insertionSort pairLe
  "&".intercalate (encoded.map fun p => p.1 ++ "=" ++ p.2)

/-- mirrors host_adapters/oac/identity/canonical.py:6-30 -/
def canonicalizeHostRequest (lib : Library) (request : SignedHostRequest) (tenantId : String) :
    String :=
  let groups := names request.groups
  let roles := names request.roles
  "\n".intercalate
    [ "OIR-HOST-V2",
      request.keyId,
      request.audience,
      request.timestamp,
      request.nonce,
      lib.unicode.upper request.method,
      normalizePath request.path,
      normalizeQuery request.query,
      lib.unicode.lower request.contentSha256,
      request.principalType,
      tenantId,
      request.userId,
      ",".intercalate roles,
      ",".intercalate groups,
      request.activeBundleId,
      request.claimsVersion,
      request.policyVersion,
      request.credentialClass ]

/-! ## The nonce store -/

/-- mirrors host_adapters/oac/repositories/nonces.py:9-12 (`_expires_at`) -/
abbrev MemoryNonceStore := Dict (String × String) Int

/-- mirrors host_adapters/oac/repositories/nonces.py:14-23 -/
def MemoryNonceStore.consume (store : MemoryNonceStore) (keyId nonce : String)
    (now ttlSeconds : Int) : Bool × MemoryNonceStore :=
  let kept := store.filter fun _ expiry => now < expiry
  if kept.contains (keyId, nonce) then (false, kept)
  else (true, kept.set (keyId, nonce) (now + ttlSeconds))

/-! ## The verifier -/

/-- `[0-9a-f]{64}` -/
def isSha256Hex (s : String) : Bool :=
  s.length = 64 && s.toList.all fun c => c.isDigit || ('a' ≤ c && c ≤ 'f')

/-- The digest of a `v2=` signature. -/
def signatureHex (signature : String) : Option String :=
  match signature.toList with
  | 'v' :: '2' :: '=' :: hex =>
    if isSha256Hex (String.ofList hex) then some (String.ofList hex) else none
  | _ => none

def isSafeIdentityChar (c : Char) : Bool :=
  c.isAlphanum || c = '.' || c = '_' || c = ':' || c = '@' || c = '/' || c = '-'

/-- mirrors host_adapters/oac/identity/verifier.py:25 (`SAFE_IDENTITY_VALUE`) -/
def isSafeIdentityValue (s : String) : Bool :=
  1 ≤ s.length && s.length ≤ 128 && s.toList.all isSafeIdentityChar

/-- mirrors host_adapters/oac/identity/verifier.py:148-155 -/
def nonceHasMinimumEntropy (nonce : String) : Bool :=
  let padding := List.replicate ((4 - nonce.length % 4) % 4) '='
  match b64decode (nonce.toList ++ padding) with
  | none => false
  | some decoded => 16 ≤ decoded.length

/-- mirrors host_adapters/oac/identity/verifier.py:117-145 -/
def validIdentity (request : SignedHostRequest) (groups roles : List String) : Bool :=
  match credentialProfiles.find? (·.credentialClass = request.credentialClass) with
  | none => false
  | some profile =>
    (request.principalType = "user" || request.principalType = "service") &&
    isSafeIdentityValue request.userId &&
    isSafeIdentityValue request.credentialClass &&
    groups.all isSafeIdentityValue &&
    roles.all isSafeIdentityValue &&
    request.principalType = profile.principalType &&
    request.claimsVersion = profile.claimsVersion &&
    request.policyVersion = profile.policyVersion &&
    groups = [] &&
    (roles ≠ []) = profile.rolesRequired &&
    (request.activeBundleId ≠ "") = profile.activeBundleRequired &&
    (request.activeBundleId = "" || isSafeIdentityValue request.activeBundleId)

/-- mirrors host_adapters/oac/identity/verifier.py:28-49 -/
structure HostIdentityVerifier where
  audience : String
  tenantId : String
  keys : Dict String String
  keyCredentialClasses : Dict String (List String)
  maxClockSkewSeconds : Int := 60
  nonceTtlSeconds : Int := 120

/-- mirrors host_adapters/oac/identity/verifier.py:51-115 (`verify`); `now` and
`now'` are the clock's readings for the freshness check and for the nonce store. -/
def HostIdentityVerifier.verify (lib : Library) (v : HostIdentityVerifier)
    (request : SignedHostRequest) (now now' : Int) (store : MemoryNonceStore) :
    Except HostAuthenticationError TrustedHostIdentity × MemoryNonceStore :=
  let operation := classifyHostRequest request.path
  let groups := names request.groups
  let roles := names request.roles
  match int lib.unicode request.timestamp, v.keys.get? request.keyId,
    signatureHex request.signature with
  | some timestamp, some secret, some given =>
    if request.audience ≠ v.audience
        ∨ v.maxClockSkewSeconds < (now - timestamp).natAbs
        ∨ isSha256Hex request.contentSha256 = false
        ∨ lib.sha256 request.body ≠ request.contentSha256
        ∨ validIdentity request groups roles = false
        ∨ request.credentialClass ∉ (v.keyCredentialClasses.get? request.keyId).getD []
        ∨ nonceHasMinimumEntropy request.nonce = false then
      (.error .mk, store)
    else if given ≠ lib.hmacSha256 secret (canonicalizeHostRequest lib request v.tenantId) then
      (.error .mk, store)
    else
      match store.consume request.keyId request.nonce now' v.nonceTtlSeconds with
      | (false, store') => (.error .mk, store')
      | (true, store') =>
        (.ok { keyId := request.keyId, audience := request.audience
               principalType := request.principalType, tenantId := v.tenantId
               userId := request.userId, groups := groups
               credentialClass := request.credentialClass
               claimsVersion := request.claimsVersion, roles := roles
               activeBundleId := request.activeBundleId, policyVersion := request.policyVersion
               signatureVersion := "v2", requestOperation := operation }, store')
  | _, _, _ => (.error .mk, store)

/-- What a request passes before the nonce store is asked, at a reading of the clock. -/
structure HostIdentityVerifier.Admits (lib : Library) (v : HostIdentityVerifier)
    (request : SignedHostRequest) (now timestamp : Int) (secret given : String) : Prop where
  stamp : int lib.unicode request.timestamp = some timestamp
  key : v.keys.get? request.keyId = some secret
  signature : signatureHex request.signature = some given
  audience : request.audience = v.audience
  fresh : (now - timestamp).natAbs ≤ v.maxClockSkewSeconds
  hex : isSha256Hex request.contentSha256 = true
  body : lib.sha256 request.body = request.contentSha256
  identity : validIdentity request (names request.groups) (names request.roles) = true
  credential : request.credentialClass ∈ (v.keyCredentialClasses.get? request.keyId).getD []
  nonce : nonceHasMinimumEntropy request.nonce = true
  signed : given = lib.hmacSha256 secret (canonicalizeHostRequest lib request v.tenantId)

variable {lib : Library} {v : HostIdentityVerifier} {request : SignedHostRequest}
  {now now' timestamp : Int} {secret given : String} {store : MemoryNonceStore}

/-- An accepted call was admitted and found its nonce unused. -/
theorem verify_ok {identity : TrustedHostIdentity}
    (h : (v.verify lib request now now' store).1 = .ok identity) :
    (∃ timestamp secret given, v.Admits lib request now timestamp secret given) ∧
      (store.consume request.keyId request.nonce now' v.nonceTtlSeconds).1 = true := by
  unfold HostIdentityVerifier.verify at h
  simp only at h
  split at h
  · next timestamp secret given ht hk hs =>
    split at h
    · cases h
    · next hchecks =>
      simp only [not_or, not_not, not_lt, Bool.not_eq_false] at hchecks
      obtain ⟨ha, hf, hx, hb, hi, hc, hn⟩ := hchecks
      split at h
      · cases h
      · next hg =>
        split at h
        · cases h
        · next store' hconsume =>
          refine ⟨⟨timestamp, secret, given, ht, hk, hs, ha, hf, hx, hb, hi, hc, hn, ?_⟩, ?_⟩
          · exact not_not.1 hg
          · rw [hconsume]
  · cases h

theorem verify_admitted (h : v.Admits lib request now timestamp secret given) :
    ((∃ identity, (v.verify lib request now now' store).1 = .ok identity) ↔
      (store.consume request.keyId request.nonce now' v.nonceTtlSeconds).1 = true) ∧
    (v.verify lib request now now' store).2 =
      (store.consume request.keyId request.nonce now' v.nonceTtlSeconds).2 := by
  unfold HostIdentityVerifier.verify
  simp only [h.stamp, h.key, h.signature]
  have hskew : ¬v.maxClockSkewSeconds < (now - timestamp).natAbs := Int.not_lt.2 h.fresh
  rw [if_neg (by simp only [h.audience, hskew, h.hex, h.body, h.identity, h.credential, h.nonce,
      ne_eq, not_true_eq_false, reduceCtorEq, or_self, not_false_eq_true]),
    if_neg (by simp [h.signed])]
  obtain ⟨fresh, store'⟩ := store.consume request.keyId request.nonce now' v.nonceTtlSeconds
  cases fresh <;> simp

theorem verify_unused (now' : Int) (h : v.Admits lib request now timestamp secret given) :
    ∃ identity, (v.verify lib request now now' .empty).1 = .ok identity :=
  (verify_admitted h).1.2 rfl

/-- A call leaves the nonce store alone, or has consumed its nonce. -/
theorem verify_store : (v.verify lib request now now' store).2 = store ∨
    (v.verify lib request now now' store).2 =
      (store.consume request.keyId request.nonce now' v.nonceTtlSeconds).2 := by
  unfold HostIdentityVerifier.verify
  simp only
  split
  · split
    · exact .inl rfl
    · split
      · exact .inl rfl
      · split <;> next hconsume => exact .inr (by rw [hconsume])
  · exact .inl rfl

end OpenIntentRouter.HostAdapters
