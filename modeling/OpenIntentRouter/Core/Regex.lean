import OpenIntentRouter.Core.Text

/-!
# Regular expressions of `re`

Patterns as `re` compiles them, without groups and back references; what repeats
is one class of characters. A place of a text is the character before it and
those from it on; `ends` are the places where a match may end, in whatever order
a search tries them, so that `search` says whether there is a match.

* `search_of_ends`: a match at one place of a text.
-/
namespace Core.Text

/-- The Unicode tables of `re` and of `str.casefold`; `alnum` is `str.isalnum` of
one character. -/
structure Tables extends Unicode where
  alnum : Char → Bool
  casefold : String → String
  alnum_ascii : ∀ c : Char, c.toNat < 128 → alnum c = c.isAlphanum

namespace Tables

variable (t : Tables)

/-- `\d` -/
def digit (c : Char) : Bool := (t.decimal c).isSome

/-- `\w` -/
def word (c : Char) : Bool := t.alnum c || c = '_'

end Tables

end Core.Text

namespace Core

open Text

inductive Regex where
  | eps
  | one (test : Char → Bool)
  | many (test : Char → Bool) (least : Nat) (most : Option Nat)
  | seq (r r' : Regex)
  | alt (r r' : Regex)
  | boundary (word : Char → Bool)
  | notBehind (test : Char → Bool)
  | notAhead (test : Char → Bool)

structure Place where
  before : Option Char
  after : List Char
  deriving DecidableEq

/-- The places of a text whose first character comes after `before`. -/
def places (before : Option Char) : List Char → List Place
  | [] => [⟨before, []⟩]
  | c :: cs => ⟨before, c :: cs⟩ :: places (some c) cs

namespace Regex

def runs (test : Char → Bool) (before : Option Char) : List Char → List Place
  | [] => [⟨before, []⟩]
  | c :: cs => ⟨before, c :: cs⟩ :: if test c then runs test (some c) cs else []

def upTo (most : Option Nat) (l : List Place) : List Place :=
  match most with
  | none => l
  | some n => l.take (n + 1)

def ends : Regex → Place → List Place
  | .eps, p => [p]
  | .one test, p =>
    match p.after with
    | [] => []
    | c :: cs => if test c then [⟨some c, cs⟩] else []
  | .many test least most, p => (upTo most (runs test p.before p.after)).drop least
  | .seq r r', p => (r.ends p).flatMap r'.ends
  | .alt r r', p => r.ends p ++ r'.ends p
  | .boundary word, p => if p.before.any word = p.after.head?.any word then [] else [p]
  | .notBehind test, p => if p.before.any test then [] else [p]
  | .notAhead test, p => if p.after.head?.any test then [] else [p]

/-- `pattern.search(s) is not None` -/
def search (r : Regex) (s : String) : Bool :=
  (places none s.toList).any fun p => !(r.ends p).isEmpty

/-! ## Writing patterns -/

def cat (parts : List Regex) : Regex := parts.foldr .seq .eps

def lit (s : String) : Regex := cat (s.toList.map fun c => .one (· = c))

def oneOf : List Regex → Regex
  | [] => .eps
  | [r] => r
  | r :: rs => .alt r (oneOf rs)

/-- `r?` -/
def opt (r : Regex) : Regex := .alt r .eps

/-- The characters of a text, `[...]`. -/
def chars (s : String) (c : Char) : Bool := s.toList.contains c

/-- The characters of a range, `[a-z]`. -/
def range (a z : Char) (c : Char) : Bool := a ≤ c && c ≤ z

/-- The lower case that `re` compares under `(?i)`, as far as it is ASCII. -/
def simpleLower (c : Char) : Char :=
  if c = '\u0130' then 'i' else if c = '\u212a' then 'k' else c.toLower

/-- A class in lower case under `(?i)`: a dotless i is an i, and a long s is an s. -/
def ignoreCase (test : Char → Bool) (c : Char) : Bool :=
  let c := simpleLower c
  test c || (c = '\u0131' && test 'i') || (c = '\u017f' && test 's')

/-- A text in lower case under `(?i)`. -/
def litI (s : String) : Regex := cat (s.toList.map fun c => .one (ignoreCase (· = c)))

/-! ## Where matches end -/

theorem place_mem (before : Option Char) (front back : List Char) :
    ⟨front.getLast?.or before, back⟩ ∈ places before (front ++ back) := by
  induction front generalizing before with
  | nil =>
    cases back with
    | nil => exact List.mem_singleton_self _
    | cons c cs => exact List.mem_cons_self
  | cons c front ih =>
    refine List.mem_cons_of_mem _ ?_
    have hlast : (c :: front).getLast?.or before = front.getLast?.or (some c) := by
      rw [List.getLast?_cons]
      cases front.getLast? <;> rfl
    rw [hlast]
    exact ih (some c)

theorem search_of_ends {r : Regex} {s : String} {front back : List Char} {q : Place}
    (hs : s.toList = front ++ back) (hq : q ∈ r.ends ⟨front.getLast?, back⟩) :
    r.search s = true := by
  rw [search, List.any_eq_true, hs]
  refine ⟨⟨front.getLast?, back⟩, ?_, ?_⟩
  · have hmem := place_mem none front back
    rw [Option.or_none] at hmem
    exact hmem
  · cases hl : r.ends ⟨front.getLast?, back⟩ with
    | nil =>
      rw [hl] at hq
      cases hq
    | cons a l => rfl

end Regex

end Core
