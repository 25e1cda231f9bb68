import OpenIntentRouter.Core.Dumps
import OpenIntentRouter.Core.Masks

/-!
# The text of a value up to what is under hidden keys

`marked` is the text of a value as `json.dumps` writes it, with one mark in the place of
what is stored under each hidden key. It is the same for all values with one mask
(`Core.Masks`), and the text of each of them fills its marks. A text that is cut before the
first mark is therefore the same for all of them.

The style of the text, in which numbers are written by any function, and the hidden keys
are parameters.

Results:
* `marked_mask`: the marked text is that of the mask;
* `fills_marked`: the text fills the marks;
* `Fills.take_eq`, `write_mask_cut`: what comes before the first mark, and whether there is
  more than that;
* `sortKeys_mask`: sorting the keys of a value sorts those of its mask.
-/
namespace Core

/-! ## Filling marks -/

/-- A text with marks, and one that has any text in their places. -/
inductive Fills : List (Option Char) → List Char → Prop where
  | nil : Fills [] []
  | char (c : Char) {m : List (Option Char)} {t : List Char} (h : Fills m t) :
      Fills (some c :: m) (c :: t)
  | mark (s : List Char) {m : List (Option Char)} {t : List Char} (h : Fills m t) :
      Fills (none :: m) (s ++ t)

namespace Fills

variable {m m' : List (Option Char)} {s t : List Char} {n : Nat}

theorem map_some (t : List Char) : Fills (t.map some) t := by
  induction t with
  | nil => exact .nil
  | cons c t ih => exact .char c ih

theorem append (h : Fills m s) (h' : Fills m' t) : Fills (m ++ m') (s ++ t) := by
  induction h with
  | nil => exact h'
  | char c _ ih => exact .char c ih
  | mark s _ ih =>
    rw [List.append_assoc]
    exact .mark s ih

theorem split (h : Fills (m ++ m') t) : ∃ s s', t = s ++ s' ∧ Fills m s ∧ Fills m' s' := by
  induction m generalizing t with
  | nil => exact ⟨[], t, rfl, .nil, h⟩
  | cons a m ih =>
    cases h with
    | char c h =>
      obtain ⟨s, s', rfl, hs, hs'⟩ := ih h
      exact ⟨c :: s, s', rfl, .char c hs, hs'⟩
    | mark r h =>
      obtain ⟨s, s', rfl, hs, hs'⟩ := ih h
      exact ⟨r ++ s, s', (List.append_assoc _ _ _).symm, .mark r hs, hs'⟩

/-- A text without marks is filled by itself. -/
theorem eq_of_not_mem (h : Fills m t) (hnone : none ∉ m) : m = t.map some := by
  induction h with
  | nil => rfl
  | char c _ ih => rw [List.map_cons, ← ih fun hmem => hnone (List.mem_cons_of_mem _ hmem)]
  | mark s _ _ => exact absurd List.mem_cons_self hnone

theorem ne_nil (h : Fills m t) {c : Char} (hc : some c ∈ m) : t ≠ [] := by
  induction h with
  | nil => cases hc
  | char c _ _ => exact List.cons_ne_nil _ _
  | mark s _ ih =>
    intro hnil
    refine ih ?_ (List.append_eq_nil_iff.1 hnil).2
    exact (List.mem_cons.1 hc).resolve_left (by simp)

/-- What comes before the marks is the beginning of the text, and there is more of the one if there
is more of the other, which ends with a character. -/
theorem take_eq (h : Fills m t) (hnone : none ∉ m.take n) (hlast : ∃ c, m.getLast? = some (some c)) :
    (t.take n).map some = m.take n ∧ (n < t.length ↔ n < m.length) := by
  rw [← List.take_append_drop n m] at h
  obtain ⟨s, s', rfl, hs, hs'⟩ := h.split
  have hstart := hs.eq_of_not_mem hnone
  have hlength : s.length = min n m.length := by
    rw [← List.length_map (f := some), ← hstart, List.length_take]
  rcases lt_or_ge n m.length with hlong | hshort
  · have hs : s.length = n := by omega
    have hmore : s' ≠ [] := by
      obtain ⟨c, hc⟩ := hlast
      refine hs'.ne_nil (c := c) ?_
      have hdrop : (m.drop n).getLast? = some (some c) := by
        rw [List.getLast?_drop, if_neg (by omega), hc]
      exact List.mem_of_getLast? hdrop
    rw [List.take_left' hs, ← hstart, List.length_append]
    have := List.length_pos_iff.2 hmore
    exact ⟨rfl, by omega⟩
  · rw [List.drop_eq_nil_of_le hshort] at hs'
    cases hs'
    rw [List.append_nil, List.take_of_length_le (by omega), ← hstart]
    exact ⟨rfl, by omega⟩

end Fills

namespace Json

/-! ## Marked texts -/

variable (style : Style) (hidden : String → Bool)

mutual

/-- The text of a value with a mark for what is under each hidden key. -/
def marked : Json → List (Option Char)
  | .arr items => some '[' :: (markedItems items ++ [some ']'])
  | .obj fields => some '{' :: (markedFields fields ++ [some '}'])
  | .null => (write style .null).map some
  | .bool b => (write style (.bool b)).map some
  | .num q => (write style (.num q)).map some
  | .str s => (write style (.str s)).map some

def markedItems : List Json → List (Option Char)
  | [] => []
  | [j] => marked j
  | j :: k :: rest => marked j ++ style.item.toList.map some ++ markedItems (k :: rest)

def markedFields : List (String × Json) → List (Option Char)
  | [] => []
  | [(name, j)] =>
    (quoted style name ++ style.key.toList).map some ++ if hidden name then [none] else marked j
  | (name, j) :: p :: rest =>
    (quoted style name ++ style.key.toList).map some ++ (if hidden name then [none] else marked j) ++
      style.item.toList.map some ++ markedFields (p :: rest)

end

variable {style hidden}

mutual

theorem marked_mask (j : Json) : marked style hidden (mask hidden j) = marked style hidden j := by
  cases j with
  | arr items => rw [mask, marked, marked, markedItems_mask items]
  | obj fields => rw [mask, marked, marked, markedFields_mask fields]
  | null | bool b | num q | str s => rfl

theorem markedItems_mask (items : List Json) :
    markedItems style hidden (maskItems hidden items) = markedItems style hidden items := by
  match items with
  | [] => rfl
  | [j] => rw [maskItems, maskItems, markedItems, markedItems, marked_mask j]
  | j :: k :: rest =>
    have hrest := markedItems_mask (k :: rest)
    rw [maskItems] at hrest
    rw [maskItems, maskItems, markedItems, markedItems, marked_mask j, hrest]

theorem markedFields_mask (fields : List (String × Json)) :
    markedFields style hidden (maskFields hidden fields) = markedFields style hidden fields := by
  have hvalue : ∀ (name : String) (j : Json), marked style hidden (mask hidden j) =
      marked style hidden j → (if hidden name then [none] else
        marked style hidden (if hidden name then .null else mask hidden j)) =
      if hidden name then [none] else marked style hidden j := by
    intro name j hj
    split
    · rfl
    · exact hj
  match fields with
  | [] => rfl
  | [(name, j)] =>
    rw [maskFields, maskFields, markedFields, markedFields, hvalue name j (marked_mask j)]
  | (name, j) :: (other, k) :: rest =>
    have hrest := markedFields_mask ((other, k) :: rest)
    rw [maskFields] at hrest
    rw [maskFields, maskFields, markedFields, markedFields, hvalue name j (marked_mask j), hrest]

end

mutual

theorem fills_marked (j : Json) : Fills (marked style hidden j) (write style j) := by
  cases j with
  | arr items => exact .char _ ((fills_markedItems items).append (.map_some [']']))
  | obj fields => exact .char _ ((fills_markedFields fields).append (.map_some ['}']))
  | null | bool b | num q | str s => exact .map_some _

theorem fills_markedItems (items : List Json) :
    Fills (markedItems style hidden items) (writeItems style items) := by
  match items with
  | [] => exact .nil
  | [j] => exact fills_marked j
  | j :: k :: rest =>
    exact ((fills_marked j).append (.map_some _)).append (fills_markedItems (k :: rest))

theorem fills_markedFields (fields : List (String × Json)) :
    Fills (markedFields style hidden fields) (writeFields style fields) := by
  have hvalue : ∀ (name : String) (j : Json), Fills (marked style hidden j) (write style j) →
      Fills (if hidden name then [none] else marked style hidden j) (write style j) := by
    intro name j hj
    split
    · simpa using Fills.mark (write style j) .nil
    · exact hj
  match fields with
  | [] => exact .nil
  | [(name, j)] => exact (Fills.map_some _).append (hvalue name j (fills_marked j))
  | (name, j) :: p :: rest =>
    exact (((Fills.map_some _).append (hvalue name j (fills_marked j))).append
      (.map_some _)).append (fills_markedFields (p :: rest))

end

theorem marked_getLast (fields : List (String × Json)) :
    ∃ c, (marked style hidden (.obj fields)).getLast? = some (some c) := by
  refine ⟨'}', ?_⟩
  rw [marked, ← List.cons_append, List.getLast?_concat]

/-- Cut before the first mark, the text of an object is that of its mask, and the one is longer if
the other is. -/
theorem write_mask_cut {n : Nat} {fields : List (String × Json)}
    (h : none ∉ (marked style hidden (.obj fields)).take n) :
    (write style (.obj (maskFields hidden fields))).take n = (write style (.obj fields)).take n ∧
      (n < (write style (.obj (maskFields hidden fields))).length ↔
        n < (write style (.obj fields)).length) := by
  have hmask : marked style hidden (.obj (maskFields hidden fields)) =
      marked style hidden (.obj fields) := marked_mask (.obj fields)
  obtain ⟨htext, hlength⟩ := (fills_marked (.obj fields)).take_eq h (marked_getLast fields)
  obtain ⟨hmasked, hlengthMasked⟩ :=
    (fills_marked (.obj (maskFields hidden fields))).take_eq (by rwa [hmask]) (marked_getLast _)
  rw [hmask] at hmasked hlengthMasked
  exact ⟨List.map_injective_iff.2 (Option.some_injective _) (hmasked.trans htext.symm),
    hlengthMasked.trans hlength.symm⟩

/-! ## Sorted keys -/

mutual

theorem sortKeys_mask (j : Json) : sortKeys (mask hidden j) = mask hidden (sortKeys j) := by
  cases j with
  | arr items => rw [mask, sortKeys_arr, sortKeys_arr, mask, sortItems_mask items]
  | obj fields =>
    rw [mask, sortKeys_obj, sortKeys_obj, mask, sortFields_mask fields, maskFields_eq, maskFields_eq]
    exact congrArg obj (List.map_insertionSort (fun p q : String × Json => p.1 ≤ q.1)
      (fun p q : String × Json => p.1 ≤ q.1) (maskField hidden) _ fun _ _ _ _ => Iff.rfl).symm
  | null | bool b | num q | str s => rfl

theorem sortItems_mask (items : List Json) :
    sortItems (maskItems hidden items) = maskItems hidden (sortItems items) := by
  cases items with
  | nil => rfl
  | cons item rest => rw [maskItems, sortItems, sortItems, maskItems, sortKeys_mask item,
      sortItems_mask rest]

theorem sortFields_mask (fields : List (String × Json)) :
    sortFields (maskFields hidden fields) = maskFields hidden (sortFields fields) := by
  cases fields with
  | nil => rfl
  | cons p rest =>
    obtain ⟨name, j⟩ := p
    rw [maskFields, sortFields, sortFields, maskFields, sortFields_mask rest]
    split
    · rfl
    · rw [sortKeys_mask j]

end

end Json

end Core
