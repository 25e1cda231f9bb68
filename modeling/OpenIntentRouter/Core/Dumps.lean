import Mathlib.Algebra.GroupWithZero.Nat
import OpenIntentRouter.Core.Json
import OpenIntentRouter.Core.Text

/-!
# `json.dumps`

The text that `json.dumps` writes, with the separators and the `ensure_ascii` of
the call; `sortKeys` is what `sort_keys=True` writes instead of the value. How a
number is written is a parameter.

* `write_append_inj`: a value is read back from the start of its text, so
  `dumps_inj`: two values are not written alike.
* `field_of_sortKeys`: sorting the keys loses no field;
* `length_write_sortKeys`: nor does it change the length of the text;
* `length_write_arr_append_le`: more items make it no shorter.
-/
namespace Core.Json

structure Style where
  item : String := ", "
  key : String := ": "
  ensureAscii : Bool := false
  number : Rat → String

/-- `\uXXXX` -/
def unicodeEscape (n : Nat) : List Char :=
  let digit := fun n => (Text.hexDigit (n % 16)).toLower
  ['\\', 'u', digit (n / 4096), digit (n / 256), digit (n / 16), digit n]

/-- mirrors `ESCAPE_DCT` of `json.encoder`; with `ensure_ascii` whatever is not printable
ASCII is escaped, beyond the basic plane as two surrogates -/
def escape (ensureAscii : Bool) (c : Char) : List Char :=
  if c = '"' then ['\\', '"']
  else if c = '\\' then ['\\', '\\']
  else if c = '\n' then ['\\', 'n']
  else if c = '\r' then ['\\', 'r']
  else if c = '\t' then ['\\', 't']
  else if c.toNat = 12 then ['\\', 'f']
  else if c.toNat = 8 then ['\\', 'b']
  else if c.toNat < 32 then unicodeEscape c.toNat
  else if ensureAscii && 126 < c.toNat then
    if c.toNat < 65536 then unicodeEscape c.toNat
    else unicodeEscape (55296 + (c.toNat - 65536) / 1024) ++
      unicodeEscape (56320 + (c.toNat - 65536) % 1024)
  else [c]

def quoted (style : Style) (s : String) : List Char :=
  '"' :: (s.toList.flatMap (escape style.ensureAscii) ++ ['"'])

mutual

/-- The characters of `json.dumps(value)`. -/
def write (style : Style) : Json → List Char
  | .null => "null".toList
  | .bool true => "true".toList
  | .bool false => "false".toList
  | .num q => (style.number q).toList
  | .str s => quoted style s
  | .arr items => '[' :: (writeItems style items ++ [']'])
  | .obj fields => '{' :: (writeFields style fields ++ ['}'])

def writeItems (style : Style) : List Json → List Char
  | [] => []
  | [j] => write style j
  | j :: k :: rest => write style j ++ style.item.toList ++ writeItems style (k :: rest)

def writeFields (style : Style) : List (String × Json) → List Char
  | [] => []
  | [(name, j)] => quoted style name ++ style.key.toList ++ write style j
  | (name, j) :: p :: rest =>
    quoted style name ++ style.key.toList ++ write style j ++ style.item.toList ++
      writeFields style (p :: rest)

end

theorem write_arr (style : Style) (items : List Json) :
    write style (.arr items) = '[' :: (writeItems style items ++ [']']) := rfl

theorem write_obj (style : Style) (fields : List (String × Json)) :
    write style (.obj fields) = '{' :: (writeFields style fields ++ ['}']) := rfl

/-- `json.dumps(value)`. -/
def dumps (style : Style) (j : Json) : String := String.ofList (write style j)

mutual

def sortKeys : Json → Json
  | .null => .null
  | .bool b => .bool b
  | .num q => .num q
  | .str s => .str s
  | .arr items => .arr (sortItems items)
  | .obj fields => .obj ((sortFields fields).insertionSort fun p q => p.1 ≤ q.1)

def sortItems : List Json → List Json
  | [] => []
  | j :: rest => sortKeys j :: sortItems rest

def sortFields : List (String × Json) → List (String × Json)
  | [] => []
  | (name, j) :: rest => (name, sortKeys j) :: sortFields rest

end

theorem sortKeys_arr (items : List Json) : sortKeys (.arr items) = .arr (sortItems items) := rfl

theorem sortKeys_obj (fields : List (String × Json)) :
    sortKeys (.obj fields) = .obj ((sortFields fields).insertionSort fun p q => p.1 ≤ q.1) := rfl

/-! ## The text tells the value -/

def numeralChar (c : Char) : Bool :=
  c.isDigit || c = '-' || c = '+' || c = '.' || c = 'e' || c = 'E'

structure Numerals (number : Rat → String) : Prop where
  numeral : ∀ q, (number q).toList ≠ [] ∧ ∀ c ∈ (number q).toList, numeralChar c = true
  injective : ∀ p q, number p = number q → p = q

/-- The style of a call without `ensure_ascii`, whose separators start as those of JSON do. -/
structure Style.Readable (style : Style) : Prop where
  unicode : style.ensureAscii = false
  item : style.item.toList.head? = some ','
  key : style.key.toList.head? = some ':'
  numerals : Numerals style.number

/-- The characters that are escaped without `ensure_ascii`. -/
def escaped : List Char := '"' :: '\\' :: (List.range 32).map Char.ofNat

variable {c : Char} {u v : List Char} {style : Style} {α : Type}

theorem mem_escaped : c ∈ escaped ↔ c = '"' ∨ c = '\\' ∨ c.toNat < 32 := by
  simp only [escaped, List.mem_cons, List.mem_map, List.mem_range]
  constructor
  · rintro (h | h | ⟨n, hn, rfl⟩)
    · exact .inl h
    · exact .inr (.inl h)
    · rw [Text.toNat_ofNat (by omega)]
      exact .inr (.inr hn)
  · rintro (h | h | h)
    · exact .inl h
    · exact .inr (.inl h)
    · exact .inr (.inr ⟨c.toNat, h, Char.ofNat_toNat c⟩)

theorem escape_unambiguous : ∀ c ∈ escaped, ∀ d ∈ escaped,
    (escape false c).isPrefixOf (escape false d) = true → c = d := by
  have hall : (escaped.all fun c => escaped.all fun d =>
      !(escape false c).isPrefixOf (escape false d) || c == d) = true := by rfl
  intro c hc d hd hstart
  have hcd := List.all_eq_true.1 (List.all_eq_true.1 hall c hc) d hd
  simpa [hstart] using hcd

theorem escape_backslash : ∀ c ∈ escaped, (escape false c).head? = some '\\' := by
  have hall : (escaped.all fun c => (escape false c).head? == some '\\') = true := by rfl
  intro c hc
  simpa using List.all_eq_true.1 hall c hc

theorem escape_other (h : c ∉ escaped) : escape false c = [c] := by
  simp only [mem_escaped, not_or, Nat.not_lt] at h
  obtain ⟨hquote, hslash, hprintable⟩ := h
  have hne : ∀ d : Char, d.toNat < 32 → c ≠ d := by
    intro d hd heq
    rw [heq] at hprintable
    omega
  unfold escape
  rw [if_neg hquote, if_neg hslash, if_neg (hne _ (by decide)), if_neg (hne _ (by decide)),
    if_neg (hne _ (by decide)), if_neg (by omega), if_neg (by omega), if_neg (by omega), if_neg]
  simp

/-- What a character is written as is not the start of what another is written as. -/
theorem escape_append_inj {d : Char} (h : escape false c ++ u = escape false d ++ v) :
    c = d ∧ u = v := by
  suffices c = d by
    subst this
    exact ⟨rfl, List.append_cancel_left h⟩
  have hhead := congrArg List.head? h
  by_cases hc : c ∈ escaped
  · by_cases hd : d ∈ escaped
    · have hprefix : escape false c <+: escape false d ∨ escape false d <+: escape false c :=
        List.prefix_or_prefix_of_prefix (List.prefix_append _ u) (h ▸ List.prefix_append _ v)
      rcases hprefix with hp | hp
      · exact escape_unambiguous c hc d hd (List.isPrefixOf_iff_prefix.2 hp)
      · exact (escape_unambiguous d hd c hc (List.isPrefixOf_iff_prefix.2 hp)).symm
    · rw [List.head?_append, escape_backslash c hc, escape_other hd] at hhead
      simp at hhead
      exact absurd (mem_escaped.2 (.inr (.inl hhead.symm))) hd
  · rw [escape_other hc] at hhead
    by_cases hd : d ∈ escaped
    · rw [List.head?_append (l := escape false d), escape_backslash d hd] at hhead
      simp at hhead
      exact absurd (mem_escaped.2 (.inr (.inl hhead))) hc
    · rw [escape_other hd] at hhead
      simpa using hhead

/-- A text in quotes ends at the first quote that is not escaped. -/
theorem escapes_inj {s t : List Char}
    (h : s.flatMap (escape false) ++ '"' :: u = t.flatMap (escape false) ++ '"' :: v) :
    s = t ∧ u = v := by
  have hquote : '"' ∈ escaped := mem_escaped.2 (.inl rfl)
  have hno : ∀ (c : Char) (w x : List Char), escape false c ++ w ≠ '"' :: x := by
    intro c w x heq
    have hhead := congrArg List.head? heq
    by_cases hc : c ∈ escaped
    · rw [List.head?_append, escape_backslash c hc] at hhead
      simp at hhead
    · rw [escape_other hc] at hhead
      simp at hhead
      exact hc (hhead ▸ hquote)
  induction s generalizing t with
  | nil =>
    cases t with
    | nil => simpa using h
    | cons d t =>
      rw [List.flatMap_cons, List.append_assoc] at h
      exact absurd h.symm (hno d _ _)
  | cons c s ih =>
    cases t with
    | nil =>
      rw [List.flatMap_cons, List.append_assoc] at h
      exact absurd h (hno c _ _)
    | cons d t =>
      rw [List.flatMap_cons, List.flatMap_cons, List.append_assoc, List.append_assoc] at h
      obtain ⟨rfl, hrest⟩ := escape_append_inj h
      obtain ⟨rfl, huv⟩ := ih hrest
      exact ⟨rfl, huv⟩

theorem quoted_inj (hs : style.Readable) {s t : String}
    (h : quoted style s ++ u = quoted style t ++ v) : s = t ∧ u = v := by
  simp only [quoted, hs.unicode, List.cons_append, List.append_assoc, List.nil_append,
    List.cons.injEq, true_and] at h
  obtain ⟨hst, huv⟩ := escapes_inj h
  exact ⟨String.toList_inj.1 hst, huv⟩

def lead (c : Char) : Nat :=
  if c = 'n' then 0 else if c = 't' then 1 else if c = 'f' then 2 else if c = '"' then 3
  else if c = '[' then 4 else if c = '{' then 5 else if numeralChar c then 6 else 7

def leadOf : Json → Nat
  | .null => 0
  | .bool true => 1
  | .bool false => 2
  | .str _ => 3
  | .arr _ => 4
  | .obj _ => 5
  | .num _ => 6

theorem lead_numeral (h : numeralChar c = true) : lead c = 6 := by
  have hne : ∀ d, numeralChar d = false → c ≠ d := by
    intro d hd heq
    rw [heq, hd] at h
    cases h
  unfold lead
  rw [if_neg (hne _ (by decide)), if_neg (hne _ (by decide)), if_neg (hne _ (by decide)),
    if_neg (hne _ (by decide)), if_neg (hne _ (by decide)), if_neg (hne _ (by decide)), if_pos h]

theorem head_write (hs : style.Readable) (j : Json) (u : List Char) :
    ((write style j ++ u).head?).map lead = some (leadOf j) := by
  cases j with
  | null => rfl
  | bool b => cases b <;> rfl
  | str s => rfl
  | arr items => rfl
  | obj fields => rfl
  | num q =>
    obtain ⟨hne, hall⟩ := hs.numerals.numeral q
    show ((style.number q).toList ++ _).head?.map lead = _
    cases hq : (style.number q).toList with
    | nil => exact absurd hq hne
    | cons c cs =>
      rw [List.cons_append, List.head?_cons, Option.map_some,
        lead_numeral (hall c (by rw [hq]; exact List.mem_cons_self))]
      rfl

/-- What follows a value in a text: nothing, a separator or the end of its container. -/
def Stops (u : List Char) : Prop := ∀ c, u.head? = some c → c = ',' ∨ c = ']' ∨ c = '}'

theorem numeral_inj (hs : style.Readable) {p q : Rat} (hu : Stops u) (hv : Stops v)
    (h : (style.number p).toList ++ u = (style.number q).toList ++ v) : p = q ∧ u = v := by
  have hspan : ∀ (r : Rat) (w : List Char), Stops w →
      ((style.number r).toList ++ w).takeWhile numeralChar = (style.number r).toList := by
    intro r w hw
    rw [List.takeWhile_append_of_pos (hs.numerals.numeral r).2]
    cases w with
    | nil => simp
    | cons c w =>
      have hc : numeralChar c = false := by
        rcases hw c rfl with rfl | rfl | rfl <;> decide
      rw [List.takeWhile_cons, hc]
      simp
  have htext := congrArg (List.takeWhile numeralChar) h
  rw [hspan p u hu, hspan q v hv] at htext
  refine ⟨hs.numerals.injective p q (String.toList_inj.1 htext), ?_⟩
  rw [htext] at h
  exact List.append_cancel_left h

def joined {α : Type} (text : α → List Char) (separator : List Char) : List α → List Char
  | [] => []
  | [a] => text a
  | a :: b :: rest => text a ++ separator ++ joined text separator (b :: rest)

theorem joined_cons (text : α → List Char) (separator : List Char) (a : α) (l : List α) :
    joined text separator (a :: l) =
      text a ++ if l = [] then [] else separator ++ joined text separator l := by
  cases l with
  | nil => simp [joined]
  | cons b rest => simp [joined]

/-- Joined texts that can each be read back can be read back up to a closing character. -/
theorem joined_inj {text : α → List Char} {separator : List Char} {stop : Char}
    (hseparator : separator.head? = some ',') (hstop : stop = ']' ∨ stop = '}')
    (hne : ∀ a u, (text a ++ u).head? ≠ some stop) {l l' : List α}
    (hread : ∀ a ∈ l, ∀ b u v, Stops u → Stops v → text a ++ u = text b ++ v → a = b ∧ u = v)
    (h : joined text separator l ++ stop :: u = joined text separator l' ++ stop :: v) :
    l = l' ∧ u = v := by
  have hstops : ∀ (k : List α) (w : List Char),
      Stops ((if k = [] then [] else separator ++ joined text separator k) ++ stop :: w) := by
    intro k w c hc
    split at hc
    · cases hc
      exact .inr hstop
    · rw [List.append_assoc, List.head?_append, hseparator] at hc
      cases hc
      exact .inl rfl
  have hends : ∀ (k : List α) (w x : List Char), k ≠ [] →
      stop :: w ≠ (separator ++ joined text separator k) ++ stop :: x := by
    intro k w x _ heq
    have hhead := congrArg List.head? heq
    rw [List.append_assoc, List.head?_append, hseparator] at hhead
    have hcomma : stop = ',' := Option.some.inj hhead
    rcases hstop with hs | hs <;> rw [hs] at hcomma <;> cases hcomma
  induction l generalizing l' with
  | nil =>
    cases l' with
    | nil => simpa [joined] using h
    | cons b rest =>
      rw [joined_cons, List.append_assoc] at h
      exact absurd (congrArg List.head? h).symm (hne b _)
  | cons a l ih =>
    cases l' with
    | nil =>
      rw [joined_cons, List.append_assoc] at h
      exact absurd (congrArg List.head? h) (hne a _)
    | cons b l' =>
      rw [joined_cons, joined_cons, List.append_assoc, List.append_assoc] at h
      obtain ⟨rfl, hrest⟩ := hread a List.mem_cons_self b _ _ (hstops l u) (hstops l' v) h
      by_cases hl : l = []
      · by_cases hl' : l' = []
        · subst hl hl'
          exact ⟨rfl, by simpa using hrest⟩
        · rw [if_pos hl, if_neg hl'] at hrest
          exact absurd hrest (hends l' u v hl')
      · by_cases hl' : l' = []
        · rw [if_neg hl, if_pos hl'] at hrest
          exact absurd hrest.symm (hends l v u hl)
        · rw [if_neg hl, if_neg hl', List.append_assoc, List.append_assoc] at hrest
          obtain ⟨rfl, huv⟩ := ih (fun c hc => hread c (List.mem_cons_of_mem _ hc))
            (List.append_cancel_left hrest)
          exact ⟨rfl, huv⟩

def writeField (style : Style) (p : String × Json) : List Char :=
  quoted style p.1 ++ style.key.toList ++ write style p.2

theorem writeItems_eq (style : Style) (l : List Json) :
    writeItems style l = joined (write style) style.item.toList l := by
  induction l with
  | nil => rfl
  | cons j rest ih =>
    cases rest with
    | nil => rfl
    | cons k rest => rw [writeItems, ih, joined]

theorem writeFields_eq (style : Style) (l : List (String × Json)) :
    writeFields style l = joined (writeField style) style.item.toList l := by
  induction l with
  | nil => rfl
  | cons p rest ih =>
    cases rest with
    | nil => rfl
    | cons q rest => rw [writeFields, ih, joined, writeField]

theorem write_append_inj (hs : style.Readable) (j : Json) :
    ∀ (k : Json) (u v : List Char), Stops u → Stops v →
      write style j ++ u = write style k ++ v → j = k ∧ u = v := by
  intro k u v hu hv h
  have hlead : leadOf j = leadOf k := by
    have hhead := head_write hs j u
    rw [h, head_write hs k v] at hhead
    exact (Option.some.inj hhead).symm
  have hvalue : ∀ (c : Char) (j : Json) (w : List Char), lead c = 7 →
      (write style j ++ w).head? ≠ some c := by
    intro c j w hc hhead
    have hlead := head_write hs j w
    rw [hhead, Option.map_some, hc] at hlead
    cases j with
    | bool b => cases b <;> cases hlead
    | _ => cases hlead
  match j, k with
  | .null, .null => exact ⟨rfl, List.append_cancel_left h⟩
  | .bool true, .bool true => exact ⟨rfl, List.append_cancel_left h⟩
  | .bool false, .bool false => exact ⟨rfl, List.append_cancel_left h⟩
  | .num p, .num q =>
    obtain ⟨rfl, huv⟩ := numeral_inj hs hu hv h
    exact ⟨rfl, huv⟩
  | .str s, .str t =>
    obtain ⟨rfl, huv⟩ := quoted_inj hs h
    exact ⟨rfl, huv⟩
  | .arr items, .arr others =>
    simp only [write_arr, writeItems_eq, List.cons_append, List.append_assoc, List.cons.injEq, true_and,
      List.nil_append] at h
    obtain ⟨rfl, huv⟩ := joined_inj hs.item (.inl rfl) (fun a w => hvalue ']' a w (by decide))
      (fun a ha => write_append_inj hs a) h
    exact ⟨rfl, huv⟩
  | .obj fields, .obj others =>
    simp only [write_obj, writeFields_eq, List.cons_append, List.append_assoc, List.cons.injEq, true_and,
      List.nil_append] at h
    have hread : ∀ p ∈ fields, ∀ q u v, Stops u → Stops v →
        writeField style p ++ u = writeField style q ++ v → p = q ∧ u = v := by
      intro p hp q u v hu hv h
      simp only [writeField, List.append_assoc] at h
      obtain ⟨hname, h⟩ := quoted_inj hs h
      obtain ⟨hvalue, huv⟩ := write_append_inj hs p.2 q.2 u v hu hv (List.append_cancel_left h)
      exact ⟨Prod.ext hname hvalue, huv⟩
    obtain ⟨rfl, huv⟩ := joined_inj hs.item (.inr rfl) (fun p w hhead => by cases hhead) hread h
    exact ⟨rfl, huv⟩
termination_by j
decreasing_by
  · have := List.sizeOf_lt_of_mem ha
    simp
    omega
  · have := List.sizeOf_lt_of_mem hp
    obtain ⟨name, value⟩ := p
    simp at this ⊢
    omega

/-- `json.dumps` does not write two values alike. -/
theorem dumps_inj (hs : style.Readable) {j k : Json} (h : dumps style j = dumps style k) :
    j = k := by
  have htext : write style j ++ [] = write style k ++ [] := by
    rw [List.append_nil, List.append_nil]
    exact String.ofList_injective h
  have hstop : Stops [] := fun c hc => by cases hc
  exact (write_append_inj hs j k [] [] hstop hstop htext).1

/-! ## Values with sorted keys -/

theorem field_perm {l l' : List (String × Json)} (hp : l.Perm l') (hl : (l.map Prod.fst).Nodup)
    (key : String) : field l key = field l' key := by
  have hl' : (l'.map Prod.fst).Nodup := (hp.map Prod.fst).nodup_iff.1 hl
  cases h : field l key with
  | some value => exact (field_of_mem hl' (hp.mem_iff.1 (mem_of_field h))).symm
  | none =>
    cases h' : field l' key with
    | none => rfl
    | some value =>
      have hfound := field_of_mem hl (hp.mem_iff.2 (mem_of_field h'))
      rw [h] at hfound
      cases hfound

theorem sortFields_keys (fields : List (String × Json)) :
    (sortFields fields).map Prod.fst = fields.map Prod.fst := by
  induction fields with
  | nil => rfl
  | cons p rest ih =>
    rw [sortFields, List.map_cons, List.map_cons, ih]

theorem field_sortFields (fields : List (String × Json)) (key : String) :
    field (sortFields fields) key = (field fields key).map sortKeys := by
  induction fields with
  | nil => rfl
  | cons p rest ih =>
    obtain ⟨name, value⟩ := p
    by_cases hname : name = key
    · simp [sortFields, field, hname]
    · simp [sortFields, field, hname, ih]

/-- Objects that are the same with their keys sorted have the same fields, up to that. -/
theorem field_of_sortKeys {a b : List (String × Json)} (ha : (a.map Prod.fst).Nodup)
    (hb : (b.map Prod.fst).Nodup) (h : sortKeys (.obj a) = sortKeys (.obj b)) (key : String) :
    (field a key).map sortKeys = (field b key).map sortKeys := by
  have hsorted : ∀ fields : List (String × Json), (fields.map Prod.fst).Nodup →
      field ((sortFields fields).insertionSort fun p q => p.1 ≤ q.1) key =
        (field fields key).map sortKeys := by
    intro fields hfields
    rw [← field_sortFields]
    refine (field_perm (List.perm_insertionSort _ _).symm ?_ key).symm
    rwa [sortFields_keys]
  rw [← hsorted a ha, ← hsorted b hb]
  rw [sortKeys_obj, sortKeys_obj, Json.obj.injEq] at h
  rw [h]

/-! ## The length of the text -/

theorem length_joined (text : α → List Char) (separator : List Char) (l : List α) :
    (joined text separator l).length =
      (l.map fun a => (text a).length).sum + separator.length * (l.length - 1) := by
  induction l with
  | nil => rfl
  | cons a l ih =>
    cases l with
    | nil => simp [joined]
    | cons b rest =>
      simp only [joined, List.length_append, ih, List.map_cons, List.sum_cons, List.length_cons,
        Nat.add_sub_cancel, Nat.mul_add]
      omega

theorem sortItems_eq (items : List Json) : sortItems items = items.map sortKeys := by
  induction items with
  | nil => rfl
  | cons j rest ih => rw [sortItems, ih, List.map_cons]

theorem sortFields_eq (fields : List (String × Json)) :
    sortFields fields = fields.map fun p => (p.1, sortKeys p.2) := by
  induction fields with
  | nil => rfl
  | cons p rest ih => rw [sortFields, ih, List.map_cons]

/-- The order of the keys does not change how long the text is. -/
theorem length_write_sortKeys (style : Style) (j : Json) :
    (write style (sortKeys j)).length = (write style j).length := by
  match j with
  | .null | .bool _ | .num _ | .str _ => rfl
  | .arr items =>
    have hitems : ∀ j ∈ items, (write style (sortKeys j)).length = (write style j).length :=
      fun j hj => length_write_sortKeys style j
    simp only [sortKeys_arr, write_arr, writeItems_eq, sortItems_eq, List.length_cons, List.length_append,
      length_joined, List.length_map, List.map_map, Function.comp_def]
    rw [List.map_congr_left hitems]
  | .obj fields =>
    have hfields : ∀ p ∈ fields, (writeField style (p.1, sortKeys p.2)).length =
        (writeField style p).length := by
      intro p hp
      simp only [writeField, List.length_append, length_write_sortKeys style p.2]
    have hperm := List.perm_insertionSort (fun p q : String × Json => p.1 ≤ q.1) (sortFields fields)
    simp only [sortKeys_obj, write_obj, writeFields_eq, List.length_cons, List.length_append, length_joined,
      hperm.length_eq, (hperm.map fun p => (writeField style p).length).sum_nat]
    rw [sortFields_eq, List.length_map, List.map_map, Function.comp_def,
      List.map_congr_left hfields]
termination_by j
decreasing_by
  · have := List.sizeOf_lt_of_mem hj
    simp
    omega
  · have := List.sizeOf_lt_of_mem hp
    obtain ⟨name, value⟩ := p
    simp at this ⊢
    omega

theorem length_write_arr_append_le (style : Style) (items more : List Json) :
    (write style (.arr items)).length ≤ (write style (.arr (items ++ more))).length := by
  have hseparators : style.item.toList.length * (items.length - 1) ≤
      style.item.toList.length * (items.length + more.length - 1) :=
    Nat.mul_le_mul_left _ (by omega)
  simp only [write_arr, writeItems_eq, List.length_cons, List.length_append, length_joined,
    List.map_append, List.sum_append]
  omega

end Core.Json
