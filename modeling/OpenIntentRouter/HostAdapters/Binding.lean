import OpenIntentRouter.HostAdapters.Replays
import Mathlib.Data.List.Count

/-!
# What a host signature binds

The canonical text joins eighteen fields with line breaks. The audience and the
tenant are the verifier's own, and the fields from the path on are single lines
because of their encoding or of a check `verify` makes. The timestamp may have
line breaks around it and the method is not checked at all, but a number, a
base64 text and what follows them can still be told apart.

* `requestPath_inj`, `normalizeQuery_perm`: what the encoded path and query keep;
* `stamp_nonce_method`: the three fields that are not separated by line counts;
* `signature_binds_request`: equal canonical texts have equal meanings;
* `meaning_not_bound`: an escaped slash and the order of a repeated parameter are
  not told apart, and the timestamp's check is needed.
-/
namespace OpenIntentRouter.HostAdapters

open Core Core.Text

def requestPath (path : String) : String :=
  let decoded := unquote (if path = "" then "/" else path)
  if decoded.toList.head? = some '/' then decoded else "/" ++ decoded

structure SameMeaning (lib : Library) (r r' : SignedHostRequest) : Prop where
  method : lib.unicode.upper r.method = lib.unicode.upper r'.method
  path : requestPath r.path = requestPath r'.path
  query : (parseQsl r.query).Perm (parseQsl r'.query)
  body : r.contentSha256 = r'.contentSha256
  timestamp : r.timestamp = r'.timestamp
  nonce : r.nonce = r'.nonce
  key : r.keyId = r'.keyId
  user : r.userId = r'.userId
  roles : names r.roles = names r'.roles
  bundle : r.activeBundleId = r'.activeBundleId
  credential : r.credentialClass = r'.credentialClass
  claims : r.claimsVersion = r'.claimsVersion
  policy : r.policyVersion = r'.policyVersion

/-- The format checks that `verify` makes. -/
structure Checked (lib : Library) (v : HostIdentityVerifier) (r : SignedHostRequest) : Prop where
  stamp : ∃ timestamp, int lib.unicode r.timestamp = some timestamp
  key : ∃ secret, v.keys.get? r.keyId = some secret
  audience : r.audience = v.audience
  hex : isSha256Hex r.contentSha256 = true
  body : lib.sha256 r.body = r.contentSha256
  identity : validIdentity r (names r.groups) (names r.roles) = true
  nonce : nonceHasMinimumEntropy r.nonce = true

variable {r : SignedHostRequest} {lib : Library} {v : HostIdentityVerifier} {s nonce : String}

theorem HostIdentityVerifier.Admits.checked {now timestamp : Int} {secret given : String}
    (h : v.Admits lib r now timestamp secret given) : Checked lib v r :=
  ⟨⟨timestamp, h.stamp⟩, ⟨secret, h.key⟩, h.audience, h.hex, h.body, h.identity, h.nonce⟩

/-! ## Path and query -/

theorem slash_of_utf8 {c : Char} {rest : List UInt8}
    (h : String.utf8EncodeChar c = 0x2f :: rest) : c = '/' := by
  have hbyte : ∀ n : Nat, n < 256 → UInt8.ofNat n = 0x2f → n = 47 := by
    intro n hn he
    have := congrArg UInt8.toNat he
    rw [UInt8.toNat_ofNat'] at this
    simp at this
    omega
  unfold String.utf8EncodeChar at h
  simp only at h
  split at h
  · have hv := hbyte _ (by omega) (List.cons.inj h).1
    exact Char.toNat_inj.1 hv
  · split at h
    · have := hbyte _ (by omega) (List.cons.inj h).1
      omega
    · split at h
      · have := hbyte _ (by omega) (List.cons.inj h).1
        omega
      · have := hbyte _ (by omega) (List.cons.inj h).1
        omega

/-- The characters that `normalize_path` leaves alone. -/
def pathSafe : List Char := ['/', '-', '.', '_', '~']

theorem head_quote (d : String) :
    (quote pathSafe d).toList.head? = some '/' ↔ d.toList.head? = some '/' := by
  constructor
  · intro h
    obtain ⟨rest, hrest⟩ := List.head?_eq_some_iff.1 h
    have hq : quoteBytes pathSafe (utf8 d) = '/' :: rest := by simpa [quote] using hrest
    have hb := congrArg unquoteToBytes hq
    rw [unquoteToBytes_quoteBytes (by decide), unquoteToBytes_cons (by decide)] at hb
    cases hd : d.toList with
    | nil => simp [utf8, hd] at hb
    | cons c cs =>
      rw [utf8, hd, List.flatMap_cons] at hb
      cases hc : String.utf8EncodeChar c with
      | nil => exact absurd hc String.utf8EncodeChar_ne_nil
      | cons b bs =>
        rw [hc, List.cons_append] at hb
        obtain ⟨rfl, -⟩ := List.cons.inj hb
        rw [slash_of_utf8 hc]
        rfl
  · intro h
    obtain ⟨cs, hcs⟩ := List.head?_eq_some_iff.1 h
    have hq : quoteByte pathSafe 0x2f = ['/'] := by decide
    simp only [quote, String.toList_ofList, utf8, hcs, List.flatMap_cons]
    show (quoteBytes pathSafe (0x2f :: _)).head? = some '/'
    rw [quoteBytes, List.flatMap_cons, hq]
    rfl

theorem quote_slash (d : String) : quote pathSafe ("/" ++ d) = "/" ++ quote pathSafe d := by
  have hq : quoteByte pathSafe 0x2f = ['/'] := by decide
  apply String.toList_inj.1
  have hslash : "/".toList = ['/'] := rfl
  simp only [quote, String.toList_append, String.toList_ofList, utf8, hslash]
  show quoteBytes pathSafe (0x2f :: _) = _
  rw [quoteBytes, List.flatMap_cons, hq]
  rfl

theorem normalizePath_eq (p : String) : normalizePath p = quote pathSafe (requestPath p) := by
  unfold normalizePath requestPath
  simp only
  by_cases h : (unquote (if p = "" then "/" else p)).toList.head? = some '/'
  · rw [if_pos h]
    exact if_pos ((head_quote _).2 h)
  · rw [if_neg h, quote_slash]
    exact if_neg fun hq => h ((head_quote _).1 hq)

theorem requestPath_inj {p p' : String} (h : normalizePath p = normalizePath p') :
    requestPath p = requestPath p' := by
  rw [normalizePath_eq, normalizePath_eq] at h
  exact quote_inj (by decide) h

theorem not_quoted_query {c : Char} (h : c = '&' ∨ c = '=' ∨ c = '\n') :
    ¬Quoted ['-', '.', '_', '~'] c := by
  obtain rfl | rfl | rfl := h <;> simp [Quoted, alwaysSafe]

def pairText (p : String × String) : String := p.1 ++ "=" ++ p.2

theorem pairText_inj {p p' : String × String} (hp : '=' ∉ p.1.toList) (hp' : '=' ∉ p'.1.toList)
    (h : pairText p = pairText p') : p = p' := by
  have hl := congrArg (fun s => s.toList.splitOn '=') h
  have heq : "=".toList = ['='] := rfl
  simp only [pairText, String.toList_append, heq, List.append_assoc, List.singleton_append,
    List.splitOn_append_cons_self_of_not_mem hp, List.splitOn_append_cons_self_of_not_mem hp',
    List.cons.injEq] at hl
  have h2 := congrArg (List.intercalate ['=']) hl.2
  rw [List.intercalate_splitOn, List.intercalate_splitOn] at h2
  exact Prod.ext (String.toList_inj.1 hl.1) (String.toList_inj.1 h2)

theorem pairTexts_inj {l l' : List (String × String)} (hl : ∀ p ∈ l, '=' ∉ p.1.toList)
    (hl' : ∀ p ∈ l', '=' ∉ p.1.toList) (h : l.map pairText = l'.map pairText) : l = l' := by
  induction l generalizing l' with
  | nil => simpa [eq_comm] using h
  | cons p l ih =>
    cases l' with
    | nil => simp at h
    | cons p' l' =>
      obtain ⟨h1, h2⟩ := List.cons.inj h
      rw [pairText_inj (hl p List.mem_cons_self) (hl' p' List.mem_cons_self) h1,
        ih (fun q hq => hl q (List.mem_cons_of_mem _ hq))
          (fun q hq => hl' q (List.mem_cons_of_mem _ hq)) h2]

theorem quotePair_injective : Function.Injective quotePair := by
  intro p p' h
  obtain ⟨h1, h2⟩ := Prod.mk.inj h
  exact Prod.ext (quote_inj (by simp) h1) (quote_inj (by simp) h2)

theorem mem_encoded {query : String} {p : String × String}
    (h : p ∈ ((parseQsl query).map quotePair).insertionSort pairLe) : ∃ q, p = quotePair q := by
  rw [List.mem_insertionSort, List.mem_map] at h
  obtain ⟨q, -, rfl⟩ := h
  exact ⟨q, rfl⟩

theorem normalizeQuery_perm {q q' : String} (h : normalizeQuery q = normalizeQuery q') :
    (parseQsl q).Perm (parseQsl q') := by
  have hpart : ∀ query, ∀ s ∈ (((parseQsl query).map quotePair).insertionSort pairLe).map pairText,
      '&' ∉ s.toList ∧ s ≠ "" := by
    intro query s hs
    obtain ⟨p, hp, rfl⟩ := List.mem_map.1 hs
    obtain ⟨r, rfl⟩ := mem_encoded hp
    have h1 := not_mem_quote (s := r.1) (not_quoted_query (.inl rfl))
    have h2 := not_mem_quote (s := r.2) (not_quoted_query (.inl rfl))
    constructor
    · simp only [pairText, String.toList_append, List.mem_append, not_or]
      exact ⟨⟨h1, by decide⟩, h2⟩
    · intro he
      have := congrArg String.toList he
      simp [pairText] at this
  have hkey : ∀ query, ∀ p ∈ ((parseQsl query).map quotePair).insertionSort pairLe,
      '=' ∉ p.1.toList := by
    intro query p hp
    obtain ⟨r, rfl⟩ := mem_encoded hp
    exact not_mem_quote (not_quoted_query (.inr (.inl rfl)))
  have hsorted := pairTexts_inj (hkey q) (hkey q') (intercalate_inj_of_ne (hpart q) (hpart q') h)
  have hmap : ((parseQsl q).map quotePair).Perm ((parseQsl q').map quotePair) :=
    (List.perm_insertionSort pairLe _).symm.trans
      (hsorted ▸ List.perm_insertionSort pairLe _)
  refine List.perm_iff_count.2 fun p => ?_
  rw [← List.count_map_of_injective (parseQsl q) quotePair quotePair_injective,
    ← List.count_map_of_injective (parseQsl q') quotePair quotePair_injective]
  exact hmap.count_eq _

/-! ## Lines -/

def lines (s : String) : List (List Char) := s.toList.splitOn '\n'

theorem lines_eq (h : '\n' ∉ s.toList) : lines s = [s.toList] :=
  List.splitOn_eq_singleton h

theorem nonce_chars (h : nonceHasMinimumEntropy nonce = true) :
    nonce ≠ "" ∧ ∀ c ∈ nonce.toList, isSpace c = false := by
  constructor
  · rintro rfl
    exact absurd h (by decide)
  · intro c hc
    unfold nonceHasMinimumEntropy at h
    simp only at h
    split at h
    · cases h
    · next decoded hd => exact isSpace_of_mem_b64 hd (List.mem_append_left _ hc)

theorem nonce_line (h : nonceHasMinimumEntropy nonce = true) : '\n' ∉ nonce.toList := by
  intro hc
  have := (nonce_chars h).2 _ hc
  exact absurd this (by decide)

/-- No number is the beginning of another one that goes on over the line break
before a nonce. -/
theorem stamp_longest {u : Unicode} {stamp stamp' nonce' : String} {n n' : Int}
    {rest rest' z : List Char} (hs : int u stamp = some n) (hs' : int u stamp' = some n')
    (hn : nonceHasMinimumEntropy nonce = true) (hz : stamp'.toList = stamp.toList ++ z)
    (h : '\n' :: (nonce.toList ++ '\n' :: rest) = z ++ '\n' :: (nonce'.toList ++ '\n' :: rest')) :
    z = [] := by
  cases z with
  | nil => rfl
  | cons y z =>
    obtain ⟨rfl, hrest⟩ := List.cons.inj h
    have hblank := int_after_newline hs hs' hz
    obtain ⟨hne, hnb⟩ := nonce_chars hn
    cases hl : nonce.toList with
    | nil => exact absurd (String.toList_eq_nil_iff.1 hl) hne
    | cons c cs =>
      have hc : isSpace c = false := hnb c (by simp [hl])
      rw [hl, List.cons_append] at hrest
      cases z with
      | nil =>
        obtain ⟨rfl, -⟩ := List.cons.inj hrest
        exact absurd hc (by decide)
      | cons y z =>
        obtain ⟨rfl, -⟩ := List.cons.inj hrest
        rw [hblank c (by simp)] at hc
        cases hc

theorem stamp_nonce_method {u : Unicode} {stamp stamp' nonce' : String} {n n' : Int}
    {rest rest' : List Char} (hs : int u stamp = some n) (hs' : int u stamp' = some n')
    (hn : nonceHasMinimumEntropy nonce = true) (hn' : nonceHasMinimumEntropy nonce' = true)
    (h : stamp.toList ++ '\n' :: (nonce.toList ++ '\n' :: rest) =
      stamp'.toList ++ '\n' :: (nonce'.toList ++ '\n' :: rest')) :
    stamp = stamp' ∧ nonce = nonce' ∧ rest = rest' := by
  have hstamp : stamp = stamp' := by
    obtain ⟨z, hz, hrest⟩ | ⟨z, hz, hrest⟩ := List.append_eq_append_iff.1 h
    · have hnil := stamp_longest hs hs' hn hz hrest
      rw [hnil, List.append_nil] at hz
      exact (String.toList_inj.1 hz).symm
    · have hnil := stamp_longest hs' hs hn' hz hrest
      rw [hnil, List.append_nil] at hz
      exact String.toList_inj.1 hz
  subst hstamp
  have hrest := (List.cons.inj (List.append_cancel_left h)).2
  have hlines := congrArg (List.splitOn '\n') hrest
  rw [List.splitOn_append_cons_self_of_not_mem (nonce_line hn),
    List.splitOn_append_cons_self_of_not_mem (nonce_line hn')] at hlines
  obtain ⟨hnonce, -⟩ := List.cons.inj hlines
  rw [hnonce] at hrest
  exact ⟨rfl, String.toList_inj.1 hnonce, (List.cons.inj (List.append_cancel_left hrest)).2⟩

/-! ## The canonical text -/

theorem safe_value (h : isSafeIdentityValue s = true) :
    '\n' ∉ s.toList ∧ ',' ∉ s.toList ∧ s ≠ "" := by
  simp only [isSafeIdentityValue, Bool.and_eq_true, decide_eq_true_eq, List.all_eq_true] at h
  obtain ⟨⟨hlen, -⟩, hall⟩ := h
  refine ⟨fun hc => ?_, fun hc => ?_, fun he => ?_⟩
  · exact absurd (hall _ hc) (by decide)
  · exact absurd (hall _ hc) (by decide)
  · subst he
    exact absurd hlen (by decide)

/-- What `_valid_identity` lets through. -/
theorem validIdentity_spec {groups roles : List String} (h : validIdentity r groups roles = true) :
    ∃ profile ∈ credentialProfiles, r.credentialClass = profile.credentialClass ∧
      r.principalType = profile.principalType ∧ r.claimsVersion = profile.claimsVersion ∧
      r.policyVersion = profile.policyVersion ∧ isSafeIdentityValue r.userId = true ∧
      (∀ role ∈ roles, isSafeIdentityValue role = true) ∧ groups = [] ∧
      (r.activeBundleId = "" ∨ isSafeIdentityValue r.activeBundleId = true) := by
  unfold validIdentity at h
  split at h
  · cases h
  · next profile hp =>
    have hclass := List.find?_some hp
    simp only [Bool.and_eq_true, decide_eq_true_eq, List.all_eq_true, Bool.or_eq_true] at h hclass
    obtain ⟨⟨⟨⟨⟨⟨⟨⟨⟨⟨⟨-, huser⟩, -⟩, -⟩, hroles⟩, htype⟩, hclaims⟩, hpolicy⟩, hgroups⟩, -⟩, -⟩,
      hbundle⟩ := h
    exact ⟨profile, List.mem_of_find?_eq_some hp, hclass.symm, htype, hclaims, hpolicy, huser,
      hroles, hgroups, hbundle⟩

theorem profile_lines {p : CredentialProfile} (h : p ∈ credentialProfiles) :
    '\n' ∉ p.credentialClass.toList ∧ '\n' ∉ p.principalType.toList ∧
      '\n' ∉ p.claimsVersion.toList ∧ '\n' ∉ p.policyVersion.toList := by
  have hall : ∀ p ∈ credentialProfiles, '\n' ∉ p.credentialClass.toList ∧
      '\n' ∉ p.principalType.toList ∧ '\n' ∉ p.claimsVersion.toList ∧
      '\n' ∉ p.policyVersion.toList := by decide
  exact hall p h

theorem hex_lower (lib : Library) (h : isSha256Hex s = true) :
    '\n' ∉ s.toList ∧ lib.unicode.lower s = s := by
  simp only [isSha256Hex, Bool.and_eq_true, decide_eq_true_eq, List.all_eq_true] at h
  have hchar : ∀ c ∈ s.toList, c.toNat < 128 ∧ c.toLower = c := by
    intro c hc
    have hr : 48 ≤ c.toNat ∧ c.toNat ≤ 57 ∨ 97 ≤ c.toNat ∧ c.toNat ≤ 102 := by
      have hh := h.2 c hc
      simp only [Char.isDigit, Bool.or_eq_true, Bool.and_eq_true, decide_eq_true_eq] at hh
      exact hh.imp (fun hd => ⟨hd.1, hd.2⟩) (fun hd => ⟨hd.1, hd.2⟩)
    refine ⟨by omega, ?_⟩
    refine dif_neg ?_
    rintro ⟨h1, h2⟩
    have h1' : 65 ≤ c.toNat := h1
    have h2' : c.toNat ≤ 90 := h2
    omega
  constructor
  · intro hc
    exact absurd (h.2 _ hc) (by decide)
  · rw [lib.unicode.lower_ascii s fun c hc => (hchar c hc).1]
    have hmap : s.toList.map Char.toLower = s.toList.map id :=
      List.map_congr_left fun c hc => (hchar c hc).2
    rw [hmap, List.map_id, String.ofList_toList]

theorem normalizePath_line (p : String) : '\n' ∉ (normalizePath p).toList := by
  rw [normalizePath_eq]
  exact not_mem_quote (by simp [Quoted, alwaysSafe, pathSafe])

theorem normalizeQuery_line (q : String) : '\n' ∉ (normalizeQuery q).toList := by
  intro h
  obtain h | ⟨s, hs, h⟩ := mem_intercalate h
  · exact absurd h (by decide)
  · obtain ⟨p, hp, rfl⟩ := List.mem_map.1 hs
    obtain ⟨r, rfl⟩ := mem_encoded hp
    rw [String.toList_append, String.toList_append, List.mem_append, List.mem_append] at h
    obtain (h | h) | h := h
    · exact not_mem_quote (not_quoted_query (.inr (.inr rfl))) h
    · exact absurd h (by decide)
    · exact not_mem_quote (not_quoted_query (.inr (.inr rfl))) h

theorem roles_line {roles : List String} (h : ∀ role ∈ roles, isSafeIdentityValue role = true) :
    '\n' ∉ (",".intercalate roles).toList := by
  intro hc
  obtain hc | ⟨role, hr, hc⟩ := mem_intercalate hc
  · exact absurd hc (by decide)
  · exact (safe_value (h role hr)).1 hc

def openLines (lib : Library) (r : SignedHostRequest) : List Char :=
  r.timestamp.toList ++ '\n' :: (r.nonce.toList ++ '\n' :: (lib.unicode.upper r.method).toList)

def closedLines (v : HostIdentityVerifier) (r : SignedHostRequest) : List (List Char) :=
  (normalizePath r.path).toList :: (normalizeQuery r.query).toList :: r.contentSha256.toList ::
    r.principalType.toList :: (lines v.tenantId ++
      [r.userId.toList, (",".intercalate (names r.roles)).toList, [], r.activeBundleId.toList,
        r.claimsVersion.toList, r.policyVersion.toList, r.credentialClass.toList])

theorem canonical_lines (hkey : '\n' ∉ r.keyId.toList) (h : Checked lib v r) :
    lines (canonicalizeHostRequest lib r v.tenantId) =
      "OIR-HOST-V2".toList :: r.keyId.toList :: (lines v.audience ++
        ((openLines lib r).splitOn '\n' ++ closedLines v r)) := by
  obtain ⟨profile, hp, hclass, htype, hclaims, hpolicy, huser, hroles, hgroups, hbundle⟩ :=
    validIdentity_spec h.identity
  obtain ⟨hclassl, htypel, hclaimsl, hpolicyl⟩ := profile_lines hp
  obtain ⟨hhex, hlower⟩ := hex_lower lib h.hex
  have hbundlel : '\n' ∉ r.activeBundleId.toList := by
    obtain hb | hb := hbundle
    · rw [hb]
      simp
    · exact (safe_value hb).1
  have hversion : lines "OIR-HOST-V2" = ["OIR-HOST-V2".toList] := lines_eq (by decide)
  have hnone : lines (",".intercalate (names r.groups)) = [[]] := by
    rw [hgroups]
    rfl
  have hopen : (openLines lib r).splitOn '\n' =
      lines r.timestamp ++ (lines r.nonce ++ lines (lib.unicode.upper r.method)) := by
    rw [openLines, List.splitOn_append_cons_self, List.splitOn_append_cons_self]
    rfl
  rw [lines, canonicalizeHostRequest, splitOn_intercalate_lines (by simp), hopen, closedLines]
  show List.flatMap lines _ = _
  simp only [List.flatMap_cons, List.flatMap_nil, hversion, lines_eq hkey, h.audience, hlower,
    lines_eq (normalizePath_line r.path), lines_eq (normalizeQuery_line r.query), lines_eq hhex,
    lines_eq (htype ▸ htypel), lines_eq (safe_value huser).1, lines_eq (roles_line hroles), hnone,
    lines_eq hbundlel, lines_eq (hclaims ▸ hclaimsl), lines_eq (hpolicy ▸ hpolicyl),
    lines_eq (hclass ▸ hclassl), List.append_assoc, List.cons_append, List.nil_append]

theorem canonical_binds {r' : SignedHostRequest} (hkey : '\n' ∉ r.keyId.toList)
    (hkey' : '\n' ∉ r'.keyId.toList) (h : Checked lib v r) (h' : Checked lib v r')
    (heq : canonicalizeHostRequest lib r v.tenantId =
      canonicalizeHostRequest lib r' v.tenantId) : SameMeaning lib r r' := by
  have hlines := congrArg lines heq
  rw [canonical_lines hkey h, canonical_lines hkey' h'] at hlines
  obtain ⟨hid, hlines⟩ := List.cons.inj (List.cons.inj hlines).2
  obtain ⟨hopen, hclosed⟩ := List.append_inj' (List.append_cancel_left hlines)
    (by simp [closedLines])
  -- what stands between the key and the path
  have hchars := congrArg (List.intercalate ['\n']) hopen
  rw [List.intercalate_splitOn, List.intercalate_splitOn] at hchars
  obtain ⟨_, hs⟩ := h.stamp
  obtain ⟨_, hs'⟩ := h'.stamp
  obtain ⟨hstamp, hnonce, hmethod⟩ := stamp_nonce_method hs hs' h.nonce h'.nonce hchars
  -- the lines from the path on
  simp only [closedLines, List.cons.injEq] at hclosed
  obtain ⟨hpath, hquery, hbody, -, hrest⟩ := hclosed
  simp only [List.append_cancel_left_eq, List.cons.injEq, and_true, true_and,
    String.toList_inj] at hrest
  obtain ⟨huser, hroles, hbundle, hclaims, hpolicy, hclass⟩ := hrest
  obtain ⟨_, _, _, _, _, _, _, hsafe, _, _⟩ := validIdentity_spec h.identity
  obtain ⟨_, _, _, _, _, _, _, hsafe', _, _⟩ := validIdentity_spec h'.identity
  exact {
    method := String.toList_inj.1 hmethod
    path := requestPath_inj (String.toList_inj.1 hpath)
    query := normalizeQuery_perm (String.toList_inj.1 hquery)
    body := String.toList_inj.1 hbody
    timestamp := hstamp
    nonce := hnonce
    key := String.toList_inj.1 hid
    user := huser
    roles := intercalate_inj_of_ne (fun s hs => (safe_value (hsafe s hs)).2)
      (fun s hs => (safe_value (hsafe' s hs)).2) hroles
    bundle := hbundle
    credential := hclass
    claims := hclaims
    policy := hpolicy }

/-- Checked requests with one canonical text mean the same, so a signature accepted
for one request is accepted for no other meaning. -/
theorem signature_binds_request (lib : Library) (v : HostIdentityVerifier)
    (hkeys : ∀ keyId secret, v.keys.get? keyId = some secret → '\n' ∉ keyId.toList)
    (hcollision : ∀ key message key' message',
      lib.hmacSha256 key message = lib.hmacSha256 key' message' → message = message') :
    (∀ r r', Checked lib v r → Checked lib v r' →
      canonicalizeHostRequest lib r v.tenantId = canonicalizeHostRequest lib r' v.tenantId →
      SameMeaning lib r r') ∧
    ∀ r r' now₁ now₁' now₂ now₂' store store' identity identity',
      (v.verify lib r now₁ now₁' store).1 = .ok identity →
      (v.verify lib r' now₂ now₂' store').1 = .ok identity' →
      r.signature = r'.signature → SameMeaning lib r r' := by
  have hbinds : ∀ r r', Checked lib v r → Checked lib v r' →
      canonicalizeHostRequest lib r v.tenantId = canonicalizeHostRequest lib r' v.tenantId →
      SameMeaning lib r r' := by
    intro r r' h h' heq
    obtain ⟨_, hk⟩ := h.key
    obtain ⟨_, hk'⟩ := h'.key
    exact canonical_binds (hkeys _ _ hk) (hkeys _ _ hk') h h' heq
  refine ⟨hbinds, ?_⟩
  intro r r' now₁ now₁' now₂ now₂' store store' identity identity' hok hok' hsignature
  obtain ⟨⟨_, secret, given, ha⟩, -⟩ := verify_ok hok
  obtain ⟨⟨_, secret', given', ha'⟩, -⟩ := verify_ok hok'
  have hgiven : given = given' := by
    have := ha'.signature
    rw [← hsignature, ha.signature] at this
    exact Option.some.inj this
  refine hbinds r r' ha.checked ha'.checked (hcollision secret _ secret' _ ?_)
  rw [← ha.signed, ← ha'.signed, hgiven]

/-- The canonical text of `contractRequest`. -/
def contractCanonical : String := canonicalizeHostRequest contractLibrary contractRequest "oac"

/-- `contractLibrary` with a digest that tells all messages apart. -/
def collisionFreeLibrary : Library where
  unicode := asciiTables
  sha256 := contractLibrary.sha256
  hmacSha256 key message :=
    if key = "fixture-v2-secret" ∧ message = contractCanonical then
      contractLibrary.hmacSha256 key message
    else "mac " ++ message

theorem collisionFree (key message key' message' : String)
    (h : collisionFreeLibrary.hmacSha256 key message =
      collisionFreeLibrary.hmacSha256 key' message') : message = message' := by
  have hne : ∀ m : String, "4e8aa5c32ea9b7bdc898ee21239fd6af1f5df8abe1b43afd5926dd1291f9c725" ≠
      "mac " ++ m := by
    intro m he
    have := congrArg (fun s => s.toList.head?) he
    simp at this
  simp only [collisionFreeLibrary, contractLibrary] at h
  split at h
  · next h1 =>
    split at h
    · next h2 => exact h1.2.trans h2.2.symm
    · exact absurd h (hne _)
  · split at h
    · exact absurd h.symm (hne _)
    · have hl := congrArg String.toList h
      rw [String.toList_append, String.toList_append] at hl
      exact String.toList_inj.1 (List.append_cancel_left hl)

/-- `contractRequest` with another spelling of its method and path. -/
def spelled (method path : String) : SignedHostRequest :=
  { contractRequest with method := method, path := path }

theorem spelled_admits (method path : String) (hm : asciiTables.upper method = "POST")
    (hp : normalizePath path = normalizePath "/api/v1/central/route") :
    contractVerifier.Admits collisionFreeLibrary (spelled method path) 1784170800 1784170800
      "fixture-v2-secret" "4e8aa5c32ea9b7bdc898ee21239fd6af1f5df8abe1b43afd5926dd1291f9c725" := by
  have h := contract_admits 1784170800 (by decide)
  have hsigned : "4e8aa5c32ea9b7bdc898ee21239fd6af1f5df8abe1b43afd5926dd1291f9c725" =
      collisionFreeLibrary.hmacSha256 "fixture-v2-secret"
        (canonicalizeHostRequest collisionFreeLibrary (spelled method path) "oac") := by
    have hc : canonicalizeHostRequest collisionFreeLibrary (spelled method path) "oac" =
        contractCanonical := by
      have hpost : asciiTables.upper "POST" = "POST" := by decide
      simp only [contractCanonical, canonicalizeHostRequest, collisionFreeLibrary, contractLibrary,
        spelled, contractRequest, hm, hp, hpost]
    rw [hc]
    simp [collisionFreeLibrary, contractLibrary]
  exact ⟨h.stamp, h.key, h.signature, h.audience, h.fresh, h.hex, h.body, h.identity,
    h.credential, h.nonce, hsigned⟩

/-- The contract's request, and the same one with its method in lower case and an
escaped letter in its path: one signature, one meaning. -/
theorem signature_binds_request_contract :
    SameMeaning collisionFreeLibrary (spelled "POST" "/api/v1/central/route")
      (spelled "post" "/api/v1/central/rout%65") := by
  have ha := spelled_admits "POST" "/api/v1/central/route" (by decide) rfl
  have ha' := spelled_admits "post" "/api/v1/central/rout%65" (by decide)
    (by decide +kernel)
  obtain ⟨identity, hok⟩ := verify_unused 1784170800 ha
  obtain ⟨identity', hok'⟩ := verify_unused 1784170800 ha'
  refine (signature_binds_request collisionFreeLibrary contractVerifier ?_ collisionFree).2 _ _
    _ _ _ _ _ _ identity identity' hok hok' rfl
  intro keyId secret hk
  have hid : keyId = "kid-v2" := by
    by_contra hne
    rw [contractVerifier, Dict.get?_set_ne _ _ (Ne.symm hne)] at hk
    cases hk
  rw [hid]
  decide

/-- The decoded segments of a path, where `%2F` does not separate. -/
def pathSegments (path : String) : List String := (split '/' path).map unquote

def parameterValues (query name : String) : List String :=
  ((parseQsl query).filter fun p => p.1 = name).map (·.2)

def upperNonce : String := "AAAAAAAAAAAAAAAAAAAAAA"

/-- Equal canonical texts with another path, another order of a parameter's values,
another timestamp where it need not be a number, and another key where a key id may
hold a line break. -/
theorem meaning_not_bound :
    (let r := { contractRequest with path := "/a%2Fb" }
     let r' := { contractRequest with path := "/a/b" }
     Checked contractLibrary contractVerifier r ∧ Checked contractLibrary contractVerifier r' ∧
      canonicalizeHostRequest contractLibrary r "oac" =
        canonicalizeHostRequest contractLibrary r' "oac" ∧
      pathSegments r.path ≠ pathSegments r'.path) ∧
    (let r := { contractRequest with query := "a=1&a=2" }
     let r' := { contractRequest with query := "a=2&a=1" }
     Checked contractLibrary contractVerifier r ∧ Checked contractLibrary contractVerifier r' ∧
      canonicalizeHostRequest contractLibrary r "oac" =
        canonicalizeHostRequest contractLibrary r' "oac" ∧
      parameterValues r.query "a" ≠ parameterValues r'.query "a") ∧
    (let r := { contractRequest with
      timestamp := "1", nonce := upperNonce, method := upperNonce ++ "\nGET" }
     let r' := { contractRequest with
      timestamp := "1\n" ++ upperNonce, nonce := upperNonce, method := "GET" }
     (∀ q ∈ [r, r'], q.audience = contractVerifier.audience ∧ isSha256Hex q.contentSha256 = true ∧
        contractLibrary.sha256 q.body = q.contentSha256 ∧
        validIdentity q (names q.groups) (names q.roles) = true ∧
        nonceHasMinimumEntropy q.nonce = true) ∧
      canonicalizeHostRequest contractLibrary r "oac" =
        canonicalizeHostRequest contractLibrary r' "oac" ∧
      r.timestamp ≠ r'.timestamp) ∧
    (let v := { contractVerifier with
      audience := "OAC"
      keys := (Dict.empty.set "k" "s").set ("k\nOAC\n1784170800\n" ++ upperNonce) "s" }
     let r := { contractRequest with
      audience := "OAC", keyId := "k", nonce := upperNonce
      method := "OAC\n1784170800\n" ++ upperNonce ++ "\nGET" }
     let r' := { contractRequest with
      audience := "OAC", keyId := "k\nOAC\n1784170800\n" ++ upperNonce, nonce := upperNonce
      method := "GET" }
     Checked contractLibrary v r ∧ Checked contractLibrary v r' ∧
      canonicalizeHostRequest contractLibrary r "oac" =
        canonicalizeHostRequest contractLibrary r' "oac" ∧ r.keyId ≠ r'.keyId) := by
  have h := (contract_admits 1784170800 (by decide)).checked
  have hnonce : nonceHasMinimumEntropy upperNonce = true := by decide +kernel
  refine ⟨⟨?_, ?_, ?_, ?_⟩, ⟨?_, ?_, ?_, ?_⟩, ⟨?_, ?_, ?_⟩, ⟨?_, ?_, ?_, ?_⟩⟩
  · exact ⟨h.stamp, h.key, h.audience, h.hex, h.body, h.identity, h.nonce⟩
  · exact ⟨h.stamp, h.key, h.audience, h.hex, h.body, h.identity, h.nonce⟩
  · have hpath : normalizePath "/a%2Fb" = normalizePath "/a/b" := by decide +kernel
    simp only [canonicalizeHostRequest, hpath]
  · decide +kernel
  · exact ⟨h.stamp, h.key, h.audience, h.hex, h.body, h.identity, h.nonce⟩
  · exact ⟨h.stamp, h.key, h.audience, h.hex, h.body, h.identity, h.nonce⟩
  · have hquery : normalizeQuery "a=1&a=2" = normalizeQuery "a=2&a=1" := by decide +kernel
    simp only [canonicalizeHostRequest, hquery]
  · decide +kernel
  · intro q hq
    obtain rfl | rfl : q = _ ∨ q = _ := by simpa using hq
    · exact ⟨h.audience, h.hex, h.body, h.identity, hnonce⟩
    · exact ⟨h.audience, h.hex, h.body, h.identity, hnonce⟩
  · have hmethod : asciiTables.upper (upperNonce ++ "\nGET") = upperNonce ++ "\n" ++ "GET" := by
      decide +kernel
    have hget : asciiTables.upper "GET" = "GET" := by decide
    apply String.toList_inj.1
    simp [canonicalizeHostRequest, contractLibrary, hmethod, hget, String.toList_intercalate]
  · decide +kernel
  · exact ⟨h.stamp, ⟨"s", by decide +kernel⟩, rfl, h.hex, h.body, h.identity, hnonce⟩
  · exact ⟨h.stamp, ⟨"s", by decide +kernel⟩, rfl, h.hex, h.body, h.identity, hnonce⟩
  · have hmethod : asciiTables.upper ("OAC\n1784170800\n" ++ upperNonce ++ "\nGET") =
        "OAC\n1784170800\n" ++ upperNonce ++ "\n" ++ "GET" := by decide +kernel
    have hget : asciiTables.upper "GET" = "GET" := by decide
    have hstamp : contractRequest.timestamp = "1784170800" := rfl
    apply String.toList_inj.1
    simp [canonicalizeHostRequest, contractLibrary, hmethod, hget, hstamp,
      String.toList_intercalate]
  · decide +kernel

end OpenIntentRouter.HostAdapters
