import Mathlib.Algebra.Order.Archimedean.Basic
import Mathlib.Data.Int.Log
import Mathlib.Data.Rat.Floor
import OpenIntentRouter.Core.Text

/-!
# Numbers of double precision

Python's `float` as far as `float(s)`, a quotient and `math.ceil` go: a rational
number, an infinity, or no number. What is computed is rounded to the nearest number
with 53 bits, the even one of two, and to an infinity from `overflow` on. The sign of
a zero is left out: it does not change what is computed here. The language's own
arithmetic is modelled, nothing of this repository; what a decimal digit is comes from
the Unicode tables of `Core.Text`.

Results:
* `ceilDiv_isSome_iff`: when `math.ceil(n / x)` does not raise;
* `nearest_mono`: rounding keeps the order of the numbers that are not negative;
* `nearest_dyadic`: a fraction of a power of two with at most 53 bits is not rounded;
* `Arithmetic.ceilDiv_mono`, `Arithmetic.ceilDiv_le`: a rounded-up quotient, in
  either arithmetic, grows with what is divided, and is at most `t` for a number of
  at most `t` times the divisor (with doubles, below `2 ^ 53`).
-/
namespace Core

open Text

inductive Double where
  | finite (q : Rat)
  | infinite (negative : Bool)
  | nan
  deriving DecidableEq

namespace Double

def overflow : Rat := 2 ^ 1024 - 2 ^ 970

def ulp (q : Rat) : Rat := 2 ^ max (Int.log 2 |q| - 52) (-1074)

def roundEven (q : Rat) : Int :=
  let rest := q - ⌊q⌋
  if rest < 1 / 2 ∨ rest = 1 / 2 ∧ ⌊q⌋ % 2 = 0 then ⌊q⌋ else ⌊q⌋ + 1

/-- The nearest number with 53 bits, whatever its size. -/
def nearest (q : Rat) : Rat := roundEven (q / ulp q) * ulp q

def round (q : Rat) : Double :=
  if overflow ≤ |q| then .infinite (q < 0) else .finite (nearest q)

/-- `float(q)` of a number, or `OverflowError` -/
def ofRat (q : Rat) : Option Double :=
  match round q with
  | .finite q => some (.finite q)
  | _ => none

/-! ## `float(s)` -/

/-- What `float` strips: blanks other than the separators U+001C to U+001F. -/
def blank (c : Char) : Bool := isSpace c && !(0x1c ≤ c.toNat && c.toNat ≤ 0x1f)

/-- Digits, between which single underscores may stand. -/
def digitPart (u : Unicode) : List Char → Option Nat
  | [] => none
  | c :: rest => (u.decimal c).bind fun d => digits u d rest

/-- Digits with a point before, within or after them. -/
def decimalPart (u : Unicode) (s : List Char) : Option Rat :=
  let whole := s.takeWhile (· ≠ '.')
  match s.drop whole.length with
  | [] | [_] => (digitPart u whole).map Nat.cast
  | _ :: fraction => do
    let n ← if whole = [] then some 0 else digitPart u whole
    let part ← digitPart u fraction
    return n + part / 10 ^ (fraction.filter (· ≠ '_')).length

def exponentPart (u : Unicode) : List Char → Option Int
  | '+' :: rest => (digitPart u rest).map Int.ofNat
  | '-' :: rest => (digitPart u rest).map fun n => -Int.ofNat n
  | rest => (digitPart u rest).map Int.ofNat

def unsigned (u : Unicode) (s : List Char) : Option Rat := do
  let mantissa := s.takeWhile fun c => c ≠ 'e' ∧ c ≠ 'E'
  let q ← decimalPart u mantissa
  match s.drop mantissa.length with
  | [] => return q
  | _ :: exponent => return q * 10 ^ (← exponentPart u exponent)

/-- `float(s)`, or `ValueError` -/
def ofText (u : Unicode) (s : String) : Option Double :=
  let (negative, body) :=
    match ((s.toList.dropWhile blank).reverse.dropWhile blank).reverse with
    | '-' :: rest => (true, rest)
    | '+' :: rest => (false, rest)
    | body => (false, body)
  match String.ofList (body.map Char.toLower) with
  | "inf" | "infinity" => some (.infinite negative)
  | "nan" => some .nan
  | _ => (unsigned u body).map fun q => round (if negative then -q else q)

/-! ## Quotients -/

/-- `x / y`, or `ZeroDivisionError` -/
def div : Double → Double → Option Double
  | .finite x, .finite y => if y = 0 then none else some (round (x / y))
  | .infinite negative, .finite y =>
    if y = 0 then none else some (.infinite (xor negative (y < 0)))
  | .nan, .finite y => if y = 0 then none else some .nan
  | .finite _, .infinite _ => some (.finite 0)
  | _, _ => some .nan

/-- `math.ceil(x)`, or `OverflowError` or `ValueError` -/
def ceil : Double → Option Int
  | .finite q => some ⌈q⌉
  | _ => none

/-- `math.ceil(n / x)` -/
def ceilDiv (n : Int) (x : Double) : Option Int := do
  let n ← ofRat n
  let quotient ← n.div x
  quotient.ceil

theorem round_eq_finite {q : Rat} (h : |q| < overflow) : round q = .finite (nearest q) :=
  if_neg (not_le.2 h)

theorem round_eq_infinite {q : Rat} (h : overflow ≤ |q|) : round q = .infinite (q < 0) := if_pos h

theorem ofRat_eq (q : Rat) :
    ofRat q = if |q| < overflow then some (.finite (nearest q)) else none := by
  unfold ofRat
  by_cases h : |q| < overflow
  · rw [round_eq_finite h, if_pos h]
  · rw [round_eq_infinite (not_lt.1 h), if_neg h]

theorem ceil_round_isSome_iff {q : Rat} : (round q).ceil.isSome = true ↔ |q| < overflow := by
  by_cases h : |q| < overflow
  · simp [round_eq_finite h, ceil, h]
  · simp [round_eq_infinite (not_lt.1 h), ceil, h]

/-- A quotient that has a ceiling: the integer and the quotient are not too large, and it is
divided by a number other than zero. -/
def Divides (n : Int) : Double → Prop
  | .finite x => |(n : Rat)| < overflow ∧ x ≠ 0 ∧ |nearest n / x| < overflow
  | .infinite _ => |(n : Rat)| < overflow
  | .nan => False

theorem ceilDiv_isSome_iff {n : Int} {x : Double} : (ceilDiv n x).isSome = true ↔ Divides n x := by
  unfold ceilDiv
  rw [ofRat_eq]
  by_cases hn : |(n : Rat)| < overflow
  · rw [if_pos hn]
    cases x with
    | finite x =>
      show (Option.bind (if x = 0 then none else some (round (nearest n / x))) ceil).isSome = true ↔
        _
      by_cases hx : x = 0
      · rw [if_pos hx]
        exact iff_of_false (by simp) fun h => h.2.1 hx
      · rw [if_neg hx]
        show (round (nearest n / x)).ceil.isSome = true ↔ _
        rw [ceil_round_isSome_iff]
        exact ⟨fun h => ⟨hn, hx, h⟩, fun h => h.2.2⟩
    | infinite negative => exact iff_of_true rfl hn
    | nan => exact iff_of_false (by simp [div, ceil]) id
  · rw [if_neg hn]
    refine iff_of_false (by simp) ?_
    cases x with
    | finite x => exact fun h => hn h.1
    | infinite negative => exact hn
    | nan => exact id

/-! ## The order -/

theorem roundEven_intCast (n : Int) : roundEven n = n := by
  simp [roundEven]

theorem floor_le_roundEven (q : Rat) : ⌊q⌋ ≤ roundEven q := by
  unfold roundEven
  dsimp only
  split_ifs <;> omega

theorem roundEven_le_floor_add_one (q : Rat) : roundEven q ≤ ⌊q⌋ + 1 := by
  unfold roundEven
  dsimp only
  split_ifs <;> omega

theorem roundEven_mono {p q : Rat} (h : p ≤ q) : roundEven p ≤ roundEven q := by
  rcases (Int.floor_le_floor h).lt_or_eq with hlt | heq
  · exact (roundEven_le_floor_add_one p).trans (Int.le_trans hlt (floor_le_roundEven q))
  · unfold roundEven
    dsimp only
    rw [heq]
    -- only `p` up and `q` down is to be excluded: the rest of `p` is at most that of `q`
    have hrest : p - ⌊q⌋ ≤ q - ⌊q⌋ := sub_le_sub_right h _
    split_ifs with hp hq hq
    · exact le_rfl
    · omega
    · refine absurd ?_ hp
      rcases hq with hq | ⟨hhalf, heven⟩
      · exact .inl (hrest.trans_lt hq)
      · rcases (hhalf ▸ hrest).lt_or_eq with hlt | hhalf
        · exact .inl hlt
        · exact .inr ⟨hhalf, heven⟩
    · exact le_rfl

theorem ulp_pos (q : Rat) : 0 < ulp q := zpow_pos (by norm_num) _

theorem nearest_mono_of_ulp {p q : Rat} (hulp : ulp p = ulp q) (h : p ≤ q) :
    nearest p ≤ nearest q := by
  unfold nearest
  rw [hulp]
  refine mul_le_mul_of_nonneg_right (Int.cast_le.2 (roundEven_mono ?_)) (ulp_pos q).le
  exact div_le_div_of_nonneg_right h (ulp_pos q).le

/-- A multiple of the unit of `q` that is at least `q` is at least what `q` is rounded to. -/
theorem nearest_le_of_multiple {q b : Rat} {n : Int} (hb : b = n * ulp q) (h : q ≤ b) :
    nearest q ≤ b := by
  have hle : roundEven (q / ulp q) ≤ n := by
    rw [← roundEven_intCast n]
    exact roundEven_mono ((div_le_iff₀ (ulp_pos q)).2 (hb ▸ h))
  rw [hb]
  exact mul_le_mul_of_nonneg_right (Int.cast_le.2 hle) (ulp_pos q).le

theorem le_nearest_of_multiple {q b : Rat} {n : Int} (hb : b = n * ulp q) (h : b ≤ q) :
    b ≤ nearest q := by
  have hle : n ≤ roundEven (q / ulp q) := by
    rw [← roundEven_intCast n]
    exact roundEven_mono ((le_div_iff₀ (ulp_pos q)).2 (hb ▸ h))
  rw [hb]
  exact mul_le_mul_of_nonneg_right (Int.cast_le.2 hle) (ulp_pos q).le

theorem nearest_of_multiple {q : Rat} {n : Int} (h : q = n * ulp q) : nearest q = q :=
  le_antisymm (nearest_le_of_multiple h le_rfl) (le_nearest_of_multiple h le_rfl)

/-- A power of two is a multiple of a unit that is not larger. -/
theorem zpow_multiple {a b : Int} (h : b ≤ a) : ∃ n : Int, (2 : Rat) ^ a = n * 2 ^ b := by
  refine ⟨2 ^ (a - b).toNat, ?_⟩
  push_cast
  rw [← zpow_natCast, Int.toNat_of_nonneg (by omega), ← zpow_add₀ two_ne_zero]
  congr 1
  omega

theorem nearest_zero : nearest 0 = 0 := by
  simp [nearest, roundEven]

theorem nearest_nonneg {q : Rat} (h : 0 ≤ q) : 0 ≤ nearest q :=
  le_nearest_of_multiple (n := 0) (by simp) h

/-- Between numbers of different exponents lies the power of two that the larger begins with. -/
theorem nearest_mono {p q : Rat} (hp : 0 ≤ p) (h : p ≤ q) : nearest p ≤ nearest q := by
  rcases hp.eq_or_lt with rfl | hpos
  · rw [nearest_zero]
    exact nearest_nonneg h
  have hq : 0 < q := hpos.trans_le h
  have hlog : Int.log 2 p ≤ Int.log 2 q := Int.log_mono_right hpos h
  by_cases hsame : max (Int.log 2 p - 52) (-1074) = max (Int.log 2 q - 52) (-1074)
  · refine nearest_mono_of_ulp ?_ h
    rw [ulp, ulp, abs_of_pos hpos, abs_of_pos hq, hsame]
  have hfirst : ((2 : Nat) : Rat) ^ Int.log 2 q ≤ q := Int.zpow_log_le_self (by norm_num) hq
  have hbelow : p < ((2 : Nat) : Rat) ^ (Int.log 2 p + 1) := Int.lt_zpow_succ_log_self (by norm_num) p
  have hpower : p ≤ (2 : Rat) ^ Int.log 2 q := by
    refine hbelow.le.trans ?_
    rw [Nat.cast_ofNat]
    exact zpow_le_zpow_right₀ (by norm_num) (by omega)
  obtain ⟨n, hn⟩ := zpow_multiple (a := Int.log 2 q) (b := max (Int.log 2 p - 52) (-1074)) (by omega)
  obtain ⟨m, hm⟩ := zpow_multiple (a := Int.log 2 q) (b := max (Int.log 2 q - 52) (-1074)) (by omega)
  calc nearest p ≤ (2 : Rat) ^ Int.log 2 q :=
        nearest_le_of_multiple (n := n) (by rw [hn, ulp, abs_of_pos hpos]) hpower
    _ ≤ nearest q := le_nearest_of_multiple (n := m) (by rw [hm, ulp, abs_of_pos hq])
        (by exact_mod_cast hfirst)

theorem nearest_dyadic {m k : Nat} (hm : m < 2 ^ 53) (hk : k ≤ 1074) :
    nearest (m / 2 ^ k) = m / 2 ^ k := by
  rcases Nat.eq_zero_or_pos m with rfl | hpos
  · simp [nearest_zero]
  have hq : (0 : Rat) < m / 2 ^ k := by positivity
  have hlog : Int.log 2 ((m : Rat) / 2 ^ k) ≤ 52 - k := by
    have hlt : (m : Rat) / 2 ^ k < ((2 : Nat) : Rat) ^ (53 - k : Int) := by
      rw [Nat.cast_ofNat, zpow_sub₀ two_ne_zero, zpow_natCast]
      refine div_lt_div_of_pos_right ?_ (by positivity)
      exact_mod_cast hm
    have := (Int.lt_zpow_iff_log_lt (by norm_num) hq).1 hlt
    omega
  obtain ⟨n, hn⟩ := zpow_multiple (a := -(k : Int))
    (b := max (Int.log 2 ((m : Rat) / 2 ^ k) - 52) (-1074)) (by omega)
  refine nearest_of_multiple (n := m * n) ?_
  rw [ulp, abs_of_pos hq]
  push_cast
  rw [mul_assoc, ← hn, zpow_neg, zpow_natCast, div_eq_mul_inv]

theorem nearest_natCast {n : Nat} (h : n < 2 ^ 53) : nearest n = n := by
  simpa using nearest_dyadic (k := 0) h (Nat.zero_le _)

end Double

/-- How numbers are divided: exactly, or as Python divides a `float`. -/
inductive Arithmetic where
  | exact | double
  deriving DecidableEq

namespace Arithmetic

/-- The number that is computed with in place of `q`. -/
def number : Arithmetic → Rat → Rat
  | .exact, q => q
  | .double, q => Double.nearest q

/-- `math.ceil(n / x)` for a length `n`, which is far below the overflow. -/
def ceilDiv (arithmetic : Arithmetic) (n : Nat) (x : Rat) : Nat :=
  ⌈arithmetic.number (arithmetic.number n / x)⌉₊

/-- At a rate of 2.3 the doubles count 299 as 130, one less than exact division by that rate. -/
example : double.ceilDiv 299 (Double.nearest (23 / 10)) = 130 ∧
    exact.ceilDiv 299 (Double.nearest (23 / 10)) = 131 := by decide +kernel

/-- `int(n * x)` -/
def floorMul (arithmetic : Arithmetic) (n : Nat) (x : Rat) : Nat :=
  ⌊arithmetic.number (arithmetic.number n * x)⌋₊

theorem number_mono (arithmetic : Arithmetic) {p q : Rat} (hp : 0 ≤ p) (h : p ≤ q) :
    arithmetic.number p ≤ arithmetic.number q := by
  cases arithmetic with
  | exact => exact h
  | double => exact Double.nearest_mono hp h

theorem number_nonneg (arithmetic : Arithmetic) {q : Rat} (h : 0 ≤ q) : 0 ≤ arithmetic.number q := by
  cases arithmetic with
  | exact => exact h
  | double => exact Double.nearest_nonneg h

theorem number_natCast (arithmetic : Arithmetic) {n : Nat} (h : n < 2 ^ 53) :
    arithmetic.number n = n := by
  cases arithmetic with
  | exact => rfl
  | double => exact Double.nearest_natCast h

theorem ceilDiv_mono (arithmetic : Arithmetic) {m n : Nat} {x : Rat} (hx : 0 ≤ x) (h : m ≤ n) :
    arithmetic.ceilDiv m x ≤ arithmetic.ceilDiv n x := by
  have hm : 0 ≤ arithmetic.number m := arithmetic.number_nonneg (Nat.cast_nonneg m)
  refine Nat.ceil_mono (arithmetic.number_mono (div_nonneg hm hx) ?_)
  exact div_le_div_of_nonneg_right
    (arithmetic.number_mono (Nat.cast_nonneg m) (Nat.cast_le.2 h)) hx

theorem ceilDiv_le (arithmetic : Arithmetic) {n t : Nat} {x : Rat} (hx : 0 < x) (hn : n < 2 ^ 53)
    (ht : t < 2 ^ 53) (h : (n : Rat) ≤ t * x) : arithmetic.ceilDiv n x ≤ t := by
  unfold ceilDiv
  rw [arithmetic.number_natCast hn, Nat.ceil_le]
  calc arithmetic.number (n / x) ≤ arithmetic.number t :=
        arithmetic.number_mono (by positivity) ((div_le_iff₀ hx).2 h)
    _ = t := arithmetic.number_natCast ht

/-- Division by a power of two is exact. -/
theorem ceilDiv_two_pow (arithmetic : Arithmetic) {n k : Nat} (hn : n < 2 ^ 53) (hk : k ≤ 1074) :
    arithmetic.ceilDiv n (2 ^ k) = ⌈(n : Rat) / 2 ^ k⌉₊ := by
  unfold ceilDiv
  rw [arithmetic.number_natCast hn]
  cases arithmetic with
  | exact => rfl
  | double => exact congrArg _ (Double.nearest_dyadic hn hk)

end Arithmetic

end Core
