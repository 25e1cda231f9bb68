import Mathlib.Data.List.Sort
import Mathlib.Data.List.TakeWhile

/-!
# Text as Python's standard library handles it

`str.strip`, `str.split`, `int`, `urllib.parse.quote`, `unquote` and
`parse_qsl`, and `base64.b64decode(..., validate=True)`, as functions of Lean's
`String` (which holds no lone surrogate, so encoding never fails).

* `unquoteToBytes_quoteBytes`, `quote_inj`: percent-encoding loses nothing;
* `quoted_of_mem`, `not_mem_quote`: the characters of an encoded text;
* `int_line`, `int_after_newline`: what `int()` accepts is one line, blanks around it aside;
* `intercalate_inj`: joined parts are recovered when none holds the separator.
-/
namespace Core.Text

/-- `str.isspace` of one character. -/
def isSpace (c : Char) : Bool :=
  let n := c.toNat
  (0x09 ≤ n && n ≤ 0x0d) || (0x1c ≤ n && n ≤ 0x20) || n = 0x85 || n = 0xa0 || n = 0x1680 ||
  (0x2000 ≤ n && n ≤ 0x200a) || n = 0x2028 || n = 0x2029 || n = 0x202f || n = 0x205f || n = 0x3000

/-- `str.strip()`. -/
def strip (s : String) : String :=
  String.ofList ((s.toList.dropWhile isSpace).reverse.dropWhile isSpace).reverse

/-- `s.split(sep)` for a separator of one character. -/
def split (sep : Char) (s : String) : List String := (s.toList.splitOn sep).map String.ofList

/-- What Python takes from the Unicode tables: `str.upper`, `str.lower` and the
value of a decimal digit, which on ASCII are the usual ones. -/
structure Unicode where
  upper : String → String
  lower : String → String
  decimal : Char → Option Nat
  upper_ascii : ∀ s : String, (∀ c ∈ s.toList, c.toNat < 128) →
    upper s = String.ofList (s.toList.map Char.toUpper)
  lower_ascii : ∀ s : String, (∀ c ∈ s.toList, c.toNat < 128) →
    lower s = String.ofList (s.toList.map Char.toLower)
  decimal_ascii : ∀ c : Char, c.toNat < 128 →
    decimal c = if c.isDigit then some (c.toNat - 48) else none

/-! ## Percent-encoding -/

/-- `str.encode()`. -/
def utf8 (s : String) : List UInt8 := s.toList.flatMap String.utf8EncodeChar

def hexDigit (n : Nat) : Char := Char.ofNat (if n < 10 then 48 + n else 55 + n)

def hexValue (c : Char) : Option Nat :=
  if c.isDigit then some (c.toNat - 48)
  else if 65 ≤ c.toNat ∧ c.toNat ≤ 70 then some (c.toNat - 55)
  else if 97 ≤ c.toNat ∧ c.toNat ≤ 102 then some (c.toNat - 87)
  else none

/-- `_ALWAYS_SAFE` of `urllib.parse`. -/
def alwaysSafe (c : Char) : Bool := c.isAlphanum || c = '_' || c = '.' || c = '-' || c = '~'

def quoteByte (safe : List Char) (b : UInt8) : List Char :=
  let c := Char.ofNat b.toNat
  if b.toNat < 128 && (alwaysSafe c || safe.contains c) then [c]
  else ['%', hexDigit (b.toNat / 16), hexDigit (b.toNat % 16)]

def quoteBytes (safe : List Char) (bs : List UInt8) : List Char := bs.flatMap (quoteByte safe)

/-- `urllib.parse.quote(s, safe)`. -/
def quote (safe : List Char) (s : String) : String := String.ofList (quoteBytes safe (utf8 s))

/-- `urllib.parse.unquote_to_bytes` of ASCII text. -/
def unquoteToBytes : List Char → List UInt8
  | '%' :: a :: b :: rest =>
    match hexValue a, hexValue b with
    | some x, some y => UInt8.ofNat (16 * x + y) :: unquoteToBytes rest
    | _, _ => UInt8.ofNat '%'.toNat :: unquoteToBytes (a :: b :: rest)
  | c :: rest => UInt8.ofNat c.toNat :: unquoteToBytes rest
  | [] => []

def isContinuation (b : UInt8) : Bool := 0x80 ≤ b.toNat && b.toNat ≤ 0xbf

def secondByte (lead b : UInt8) : Bool :=
  match lead.toNat with
  | 0xe0 => 0xa0 ≤ b.toNat && b.toNat ≤ 0xbf
  | 0xed => 0x80 ≤ b.toNat && b.toNat ≤ 0x9f
  | 0xf0 => 0x90 ≤ b.toNat && b.toNat ≤ 0xbf
  | 0xf4 => 0x80 ≤ b.toNat && b.toNat ≤ 0x8f
  | _ => isContinuation b

def replacement : Char := '\uFFFD'

/-- `bytes.decode("utf-8", "replace")`: one U+FFFD for every maximal ill-formed part. -/
def decode : List UInt8 → List Char
  | [] => []
  | b :: rest =>
    if b.toNat < 0x80 then Char.ofNat b.toNat :: decode rest
    else if 0xc2 ≤ b.toNat ∧ b.toNat ≤ 0xdf then
      match rest with
      | c :: rest' =>
        if isContinuation c then Char.ofNat (b.toNat % 32 * 64 + c.toNat % 64) :: decode rest'
        else replacement :: decode (c :: rest')
      | [] => [replacement]
    else if 0xe0 ≤ b.toNat ∧ b.toNat ≤ 0xef then
      match rest with
      | c :: d :: rest' =>
        if !secondByte b c then replacement :: decode (c :: d :: rest')
        else if !isContinuation d then replacement :: decode (d :: rest')
        else Char.ofNat (b.toNat % 16 * 4096 + c.toNat % 64 * 64 + d.toNat % 64) :: decode rest'
      | [c] => if secondByte b c then [replacement] else replacement :: decode [c]
      | [] => [replacement]
    else if 0xf0 ≤ b.toNat ∧ b.toNat ≤ 0xf4 then
      match rest with
      | c :: d :: e :: rest' =>
        if !secondByte b c then replacement :: decode (c :: d :: e :: rest')
        else if !isContinuation d then replacement :: decode (d :: e :: rest')
        else if !isContinuation e then replacement :: decode (e :: rest')
        else Char.ofNat (b.toNat % 8 * 262144 + c.toNat % 64 * 4096 + d.toNat % 64 * 64 +
          e.toNat % 64) :: decode rest'
      | [c, d] =>
        if !secondByte b c then replacement :: decode [c, d]
        else if !isContinuation d then replacement :: decode [d]
        else [replacement]
      | [c] => if secondByte b c then [replacement] else replacement :: decode [c]
      | [] => [replacement]
    else replacement :: decode rest

def unquoteRuns (run : List Char) : List Char → List Char
  | [] => decode (unquoteToBytes run)
  | c :: rest =>
    if c.toNat < 128 then unquoteRuns (run ++ [c]) rest
    else decode (unquoteToBytes run) ++ c :: unquoteRuns [] rest

/-- `urllib.parse.unquote(s)`. -/
def unquote (s : String) : String :=
  if s.toList.contains '%' then String.ofList (unquoteRuns [] s.toList) else s

/-- `urllib.parse.unquote_plus(s)`. -/
def unquotePlus (s : List Char) : String :=
  unquote (String.ofList (s.map fun c => if c = '+' then ' ' else c))

/-- `urllib.parse.parse_qsl(query, keep_blank_values=True)`. -/
def parseQsl (query : String) : List (String × String) :=
  ((query.toList.splitOn '&').filter (· ≠ [])).map fun field =>
    (unquotePlus (field.takeWhile (· ≠ '=')), unquotePlus ((field.dropWhile (· ≠ '=')).drop 1))

/-! ## Numbers and base64 -/

/-- The rest of a number, after a digit: single underscores may stand between digits. -/
def digits (u : Unicode) (acc : Nat) : List Char → Option Nat
  | [] => some acc
  | '_' :: c :: rest => (u.decimal c).bind fun d => digits u (10 * acc + d) rest
  | c :: rest => (u.decimal c).bind fun d => digits u (10 * acc + d) rest

def natural (u : Unicode) : List Char → Option Nat
  | [] => none
  | c :: rest =>
    if 4300 < ((c :: rest).filter (· ≠ '_')).length then none
    else (u.decimal c).bind fun d => digits u d rest

/-- `int(s)`; `none` where it raises `ValueError`. -/
def int (u : Unicode) (s : String) : Option Int :=
  match (strip s).toList with
  | '+' :: rest => (natural u rest).map Int.ofNat
  | '-' :: rest => (natural u rest).map fun n => -Int.ofNat n
  | body => (natural u body).map Int.ofNat

/-- The six bits of a base64 character, with `altchars=b"-_"`. -/
def sextet (c : Char) : Option Nat :=
  if 65 ≤ c.toNat ∧ c.toNat ≤ 90 then some (c.toNat - 65)
  else if 97 ≤ c.toNat ∧ c.toNat ≤ 122 then some (c.toNat - 71)
  else if c.isDigit then some (c.toNat + 4)
  else if c = '-' ∨ c = '+' then some 62
  else if c = '_' ∨ c = '/' then some 63
  else none

def fromSextets : List Nat → List UInt8
  | a :: b :: c :: d :: rest =>
    UInt8.ofNat (4 * a + b / 16) :: UInt8.ofNat (b % 16 * 16 + c / 4) ::
      UInt8.ofNat (c % 4 * 64 + d) :: fromSextets rest
  | [a, b, c] => [UInt8.ofNat (4 * a + b / 16), UInt8.ofNat (b % 16 * 16 + c / 4)]
  | [a, b] => [UInt8.ofNat (4 * a + b / 16)]
  | _ => []

/-- `base64.b64decode(s, altchars=b"-_", validate=True)`; `none` where it raises. -/
def b64decode (s : List Char) : Option (List UInt8) :=
  let data := s.takeWhile (· ≠ '=')
  let pad := s.dropWhile (· ≠ '=')
  if pad.all (· = '=') && (data.length % 4 = 0 && pad.length = 0 ||
      data.length % 4 = 2 && pad.length = 2 || data.length % 4 = 3 && pad.length = 1) then
    (data.mapM sextet).map fromSextets
  else none

/-! ## What is kept -/

variable {s t sep : String} {n : Nat} {c : Char} {safe cs : List Char} {l l' : List String}
  {u : Unicode}

theorem utf8_inj (h : utf8 s = utf8 t) : s = t := by
  have hb : ∀ r : String, r.toByteArray = (utf8 r).toByteArray := by
    intro r
    have hr := String.utf8Encode_toList (b := r)
    exact hr.symm
  rw [← String.toByteArray_inj, hb s, hb t, h]

theorem length_utf8_le (s : String) : (utf8 s).length ≤ 4 * s.length := by
  unfold utf8
  rw [← String.length_toList]
  induction s.toList with
  | nil => simp
  | cons c cs ih =>
    have hc := c.utf8Size_le_four
    rw [List.flatMap_cons, List.length_append, String.length_utf8EncodeChar, List.length_cons]
    omega

theorem hexValue_hexDigit (h : n < 16) : hexValue (hexDigit n) = some n := by
  have hall : ∀ i : Fin 16, hexValue (hexDigit i.val) = some i.val := by decide
  exact hall ⟨n, h⟩

theorem toNat_ofNat (h : n < 128) : (Char.ofNat n).toNat = n := by
  rw [Char.ofNat, dif_pos (.inl (by omega))]
  rfl

theorem unquoteToBytes_cons (hc : c ≠ '%') (rest : List Char) :
    unquoteToBytes (c :: rest) = UInt8.ofNat c.toNat :: unquoteToBytes rest := by
  rw [unquoteToBytes]
  intro _ _ _ h
  exact absurd h hc

theorem unquoteToBytes_percent {a b : Char} {x y : Nat} (ha : hexValue a = some x)
    (hb : hexValue b = some y) (rest : List Char) :
    unquoteToBytes ('%' :: a :: b :: rest) = UInt8.ofNat (16 * x + y) :: unquoteToBytes rest := by
  rw [unquoteToBytes.eq_def]
  simp only [ha, hb]

theorem unquoteToBytes_quoteByte (hs : '%' ∉ safe) (b : UInt8) (rest : List Char) :
    unquoteToBytes (quoteByte safe b ++ rest) = b :: unquoteToBytes rest := by
  have hb : b.toNat < 256 := b.toNat_lt
  unfold quoteByte
  simp only
  split
  · next h =>
    have hlt : b.toNat < 128 := by simp at h; exact h.1
    have hne : Char.ofNat b.toNat ≠ '%' := by
      intro he
      rw [he] at h
      simp [alwaysSafe, hs] at h
    rw [List.singleton_append, unquoteToBytes_cons hne, toNat_ofNat hlt, UInt8.ofNat_toNat]
  · rw [List.cons_append, List.cons_append, List.cons_append, List.nil_append,
      unquoteToBytes_percent (hexValue_hexDigit (by omega)) (hexValue_hexDigit (by omega))]
    have hv : 16 * (b.toNat / 16) + b.toNat % 16 = b.toNat := by omega
    rw [hv, UInt8.ofNat_toNat]

theorem unquoteToBytes_quoteBytes (hs : '%' ∉ safe) (bs : List UInt8) :
    unquoteToBytes (quoteBytes safe bs) = bs := by
  induction bs with
  | nil => rfl
  | cons b bs ih =>
    show unquoteToBytes (quoteByte safe b ++ quoteBytes safe bs) = b :: bs
    rw [unquoteToBytes_quoteByte hs, ih]

theorem quote_inj (hs : '%' ∉ safe) (h : quote safe s = quote safe t) : s = t := by
  have hl : quoteBytes safe (utf8 s) = quoteBytes safe (utf8 t) := by
    have := congrArg String.toList h
    simpa [quote] using this
  have hd := congrArg unquoteToBytes hl
  rw [unquoteToBytes_quoteBytes hs, unquoteToBytes_quoteBytes hs] at hd
  exact utf8_inj hd

def Quoted (safe : List Char) (c : Char) : Prop := alwaysSafe c = true ∨ c ∈ safe ∨ c = '%'

theorem quoted_hexDigit (safe : List Char) (h : n < 16) : Quoted safe (hexDigit n) := by
  have hall : ∀ i : Fin 16, alwaysSafe (hexDigit i.val) = true := by decide
  exact .inl (hall ⟨n, h⟩)

theorem quoted_of_mem (h : c ∈ (quote safe s).toList) : Quoted safe c := by
  simp only [quote, String.toList_ofList, quoteBytes, List.mem_flatMap] at h
  obtain ⟨b, -, hc⟩ := h
  have hb : b.toNat < 256 := b.toNat_lt
  unfold quoteByte at hc
  simp only at hc
  split at hc
  · next hsafe =>
    rw [List.mem_singleton] at hc
    simp only [Bool.and_eq_true, Bool.or_eq_true, List.contains_iff_mem, ← hc] at hsafe
    exact hsafe.2.elim .inl fun h => .inr (.inl h)
  · simp only [List.mem_cons, List.not_mem_nil, or_false] at hc
    obtain rfl | rfl | rfl := hc
    · exact .inr (.inr rfl)
    · exact quoted_hexDigit safe (by omega)
    · exact quoted_hexDigit safe (by omega)

theorem not_mem_quote (h : ¬Quoted safe c) :
    c ∉ (quote safe s).toList := fun hc => h (quoted_of_mem hc)

/-! ## Joined parts -/

theorem intercalate_inj (hl : ∀ s ∈ l, c ∉ s.toList) (hl' : ∀ s ∈ l', c ∉ s.toList) (hne : l ≠ [])
    (hne' : l' ≠ []) (h : (String.singleton c).intercalate l = (String.singleton c).intercalate l') :
    l = l' := by
  have hs := congrArg (fun s => s.toList.splitOn c) h
  simp only [String.toList_intercalate, String.toList_singleton] at hs
  rw [List.splitOn_intercalate _ (by simpa using hl) (by simpa using hne),
    List.splitOn_intercalate _ (by simpa using hl') (by simpa using hne')] at hs
  exact List.map_injective_iff.2 (fun _ _ => String.toList_inj.1) hs

theorem intercalate_eq_empty (hl : ∀ s ∈ l, s ≠ "") (h : sep.intercalate l = "") : l = [] := by
  cases l with
  | nil => rfl
  | cons a l =>
    have ha : a.toList ≠ [] := by
      simpa using hl a List.mem_cons_self
    have hs := congrArg String.toList h
    rw [String.toList_intercalate, List.map_cons] at hs
    cases l with
    | nil => exact absurd (by simpa using hs) ha
    | cons b l =>
      rw [List.map_cons, List.intercalate_cons_cons] at hs
      simp at hs
      exact absurd (by simpa using hs.1) ha

/-- Parts that are not empty are recovered, also when there are none. -/
theorem intercalate_inj_of_ne (hl : ∀ s ∈ l, c ∉ s.toList ∧ s ≠ "")
    (hl' : ∀ s ∈ l', c ∉ s.toList ∧ s ≠ "")
    (h : (String.singleton c).intercalate l = (String.singleton c).intercalate l') : l = l' := by
  by_cases hne : l = []
  · subst hne
    exact (intercalate_eq_empty (fun s hs => (hl' s hs).2) h.symm).symm
  · by_cases hne' : l' = []
    · subst hne'
      exact intercalate_eq_empty (fun s hs => (hl s hs).2) h
    · exact intercalate_inj (fun s hs => (hl s hs).1) (fun s hs => (hl' s hs).1) hne hne' h

/-- The first of two or more parts is recovered if it does not hold the separator. -/
theorem intercalate_head_inj {a b x y : String} {m : List String} (ha : c ∉ a.toList)
    (hb : c ∉ b.toList) (h : (String.singleton c).intercalate (a :: x :: l) =
      (String.singleton c).intercalate (b :: y :: m)) : a = b := by
  have hs := congrArg (fun s => s.toList.takeWhile (· ≠ c)) h
  have hcut : ∀ (s t : List Char), c ∉ s → (s ++ ([c] ++ t)).takeWhile (· ≠ c) = s := by
    intro s t hnot
    have hall : ∀ d ∈ s, decide (d ≠ c) = true := by
      intro d hd
      rw [decide_eq_true_eq]
      rintro rfl
      exact hnot hd
    rw [List.takeWhile_append_of_pos hall]
    simp
  simp only [String.toList_intercalate, List.map_cons, List.intercalate_cons_cons,
    String.toList_singleton, List.append_assoc] at hs
  rw [hcut _ _ ha, hcut _ _ hb] at hs
  exact String.toList_inj.1 hs

theorem mem_intercalate (h : c ∈ (sep.intercalate l).toList) :
    c ∈ sep.toList ∨ ∃ s ∈ l, c ∈ s.toList := by
  rw [String.toList_intercalate] at h
  induction l with
  | nil => simp at h
  | cons a l ih =>
    cases l with
    | nil => exact .inr ⟨a, by simp, by simpa using h⟩
    | cons b l =>
      rw [List.map_cons, List.map_cons, List.intercalate_cons_cons, List.mem_append,
        List.mem_append] at h
      obtain (h | h) | h := h
      · exact .inr ⟨a, by simp, h⟩
      · exact .inl h
      · exact (ih h).imp_right fun ⟨s, hs, hc⟩ => ⟨s, List.mem_cons_of_mem _ hs, hc⟩

/-- The lines of joined texts are the lines of the texts. -/
theorem splitOn_intercalate_lines (hne : l ≠ []) :
    ("\n".intercalate l).toList.splitOn '\n' = l.flatMap fun s => s.toList.splitOn '\n' := by
  rw [String.toList_intercalate]
  induction l with
  | nil => exact absurd rfl hne
  | cons a l ih =>
    cases l with
    | nil => simp
    | cons b l =>
      have hnl : "\n".toList = ['\n'] := rfl
      rw [List.map_cons, List.map_cons, List.intercalate_cons_cons, List.append_assoc, hnl,
        List.singleton_append, List.splitOn_append_cons_self, List.flatMap_cons, ← ih (by simp),
        List.map_cons, hnl]

/-! ## What parses -/

theorem not_mem_digits {acc : Nat} (h : digits u acc cs = some n) : '\n' ∉ cs := by
  have hn : u.decimal '\n' = none := u.decimal_ascii '\n' (by decide)
  fun_induction digits u acc cs with
  | case1 => simp
  | case2 acc c rest ih =>
    obtain ⟨d, hd, hrest⟩ := Option.bind_eq_some_iff.1 h
    have hc : c ≠ '\n' := fun e => by simp [e, hn] at hd
    simp [Ne.symm hc, ih d hrest]
  | case3 acc c rest _ ih =>
    obtain ⟨d, hd, hrest⟩ := Option.bind_eq_some_iff.1 h
    have hc : c ≠ '\n' := fun e => by simp [e, hn] at hd
    simp [Ne.symm hc, ih d hrest]

theorem not_mem_natural (h : natural u cs = some n) : '\n' ∉ cs := by
  have hn : u.decimal '\n' = none := u.decimal_ascii '\n' (by decide)
  cases cs with
  | nil => simp
  | cons c rest =>
    rw [natural] at h
    split at h
    · cases h
    · obtain ⟨d, hd, hrest⟩ := Option.bind_eq_some_iff.1 h
      have hc : c ≠ '\n' := fun e => by simp [e, hn] at hd
      simp [Ne.symm hc, not_mem_digits hrest]

/-- What `int()` reads is a line: blanks, a text with no line break, blanks. -/
theorem int_line {n : Int} (h : int u s = some n) : '\n' ∉ (strip s).toList ∧ strip s ≠ "" := by
  unfold int at h
  split at h
  · next rest hs =>
    obtain ⟨m, hm, -⟩ := Option.map_eq_some_iff.1 h
    refine ⟨?_, fun he => by simp [he] at hs⟩
    rw [hs]
    simp [not_mem_natural hm]
  · next rest hs =>
    obtain ⟨m, hm, -⟩ := Option.map_eq_some_iff.1 h
    refine ⟨?_, fun he => by simp [he] at hs⟩
    rw [hs]
    simp [not_mem_natural hm]
  · obtain ⟨m, hm, -⟩ := Option.map_eq_some_iff.1 h
    refine ⟨not_mem_natural hm, fun he => ?_⟩
    simp [he, natural] at hm

/-- Stripping takes blanks off both ends, down to a character that is none. -/
theorem strip_parts (s : String) : ∃ w w' : List Char, s.toList = w ++ (strip s).toList ++ w' ∧
    (∀ c ∈ w, isSpace c = true) ∧ (∀ c ∈ w', isSpace c = true) ∧
    (strip s ≠ "" → ∃ c ∈ (strip s).toList, isSpace c = false) := by
  have hfront := List.takeWhile_append_dropWhile (p := isSpace) (l := s.toList)
  have hback := List.takeWhile_append_dropWhile (p := isSpace)
    (l := (s.toList.dropWhile isSpace).reverse)
  refine ⟨s.toList.takeWhile isSpace,
    ((s.toList.dropWhile isSpace).reverse.takeWhile isSpace).reverse, ?_, ?_, ?_, ?_⟩
  · have hr := congrArg List.reverse hback
    rw [List.reverse_append, List.reverse_reverse] at hr
    rw [strip, String.toList_ofList, List.append_assoc, hr, hfront]
  · exact fun c hc => List.mem_takeWhile_imp hc
  · intro c hc
    rw [List.mem_reverse] at hc
    exact List.mem_takeWhile_imp hc
  · intro hne
    rw [strip, String.toList_ofList]
    cases hd : (s.toList.dropWhile isSpace).reverse.dropWhile isSpace with
    | nil => exact absurd (by rw [strip, hd]; rfl) hne
    | cons c rest =>
      have hw : (s.toList.dropWhile isSpace).reverse.dropWhile isSpace ≠ [] := by simp [hd]
      have hc := List.head_dropWhile_not isSpace hw
      refine ⟨c, by simp, ?_⟩
      simpa [hd] using hc

/-- What follows a line break after the beginning of a number is blank. -/
theorem int_after_newline {n m : Int} {z : List Char} (hs : int u s = some n)
    (ht : int u t = some m) (h : t.toList = s.toList ++ '\n' :: z) : ∀ c ∈ z, isSpace c = true := by
  obtain ⟨-, hne⟩ := int_line hs
  obtain ⟨w₁, w₁', hsl, -, -, hnb⟩ := strip_parts s
  obtain ⟨x, hx, hxb⟩ := hnb hne
  have hxs : x ∈ s.toList := by rw [hsl]; simp [hx]
  obtain ⟨hnl, -⟩ := int_line ht
  obtain ⟨w, w', htl, hw, hw', -⟩ := strip_parts t
  -- the break cannot stand in the digits, nor before them
  rw [h, List.append_eq_append_iff] at htl
  obtain ⟨e, he, hz⟩ | ⟨e, he, hz⟩ := htl
  · cases e with
    | nil =>
      rw [List.nil_append] at hz
      exact fun c hc => hw' c (by rw [← hz]; exact List.mem_cons_of_mem _ hc)
    | cons y e =>
      obtain ⟨rfl, hz⟩ := List.cons.inj hz
      rw [List.append_eq_append_iff] at he
      obtain ⟨f, -, hd⟩ | ⟨f, hf, -⟩ := he
      · exact absurd (by rw [hd]; simp) hnl
      · have hxw : isSpace x = true := hw x (by rw [hf]; exact List.mem_append_left _ hxs)
        rw [hxw] at hxb
        cases hxb
  · exact fun c hc => hw' c (by rw [hz]; simp [hc])

theorem mem_sextets {data : List Char} {vs : List Nat} (h : data.mapM sextet = some vs)
    (hc : c ∈ data) : ∃ v, sextet c = some v := by
  induction data generalizing vs with
  | nil => cases hc
  | cons d data ih =>
    simp only [List.mapM_cons, Option.bind_eq_bind, Option.bind_eq_some_iff] at h
    obtain ⟨v, hv, ws, hws, -⟩ := h
    obtain rfl | hc := List.mem_cons.1 hc
    · exact ⟨v, hv⟩
    · exact ih hws hc

theorem isSpace_of_sextet {v : Nat} (h : sextet c = some v) : isSpace c = false := by
  have hr : 43 ≤ c.toNat ∧ c.toNat ≤ 122 := by
    unfold sextet at h
    split at h
    · omega
    · split at h
      · omega
      · split at h
        · next hd =>
          simp only [Char.isDigit, Bool.and_eq_true, decide_eq_true_eq] at hd
          have h1 : 48 ≤ c.toNat := hd.1
          have h2 : c.toNat ≤ 57 := hd.2
          omega
        · split at h
          · next hc => obtain rfl | rfl := hc <;> decide
          · split at h
            · next hc => obtain rfl | rfl := hc <;> decide
            · cases h
  unfold isSpace
  simp
  omega

theorem isSpace_of_mem_b64 {s : List Char} {bs : List UInt8} (h : b64decode s = some bs)
    (hc : c ∈ s) : isSpace c = false := by
  unfold b64decode at h
  simp only at h
  split at h
  · next hp =>
    obtain ⟨vs, hvs, -⟩ := Option.map_eq_some_iff.1 h
    rw [← List.takeWhile_append_dropWhile (p := fun c => decide (c ≠ '=')) (l := s),
      List.mem_append] at hc
    obtain hc | hc := hc
    · obtain ⟨v, hv⟩ := mem_sextets hvs hc
      exact isSpace_of_sextet hv
    · have hpad : c = '=' := by
        simp only [Bool.and_eq_true, List.all_eq_true, decide_eq_true_eq] at hp
        exact hp.1 c hc
      rw [hpad]
      decide
  · cases h

end Core.Text
