import Mathlib.Data.List.Infix

/-!
# Lists that are trimmed from the end

A loop pops the last element of a list while the list is over a bound. `Trimmed` says what it
leaves: the longest prefix within the bound, or nothing where no prefix is. The bound is any
predicate of lists; it need not be monotone.

Results:
* `Trimmed.refl`: a list within the bound, or empty, is left as it is;
* `Trimmed.pop`: one round of the loop; the loop itself is an induction over these two.
-/
namespace Core

variable {α : Type}

/-- `kept` is the longest prefix of `l` that is not over the bound, or empty if there is none. -/
structure Trimmed (exceeds : List α → Bool) (l kept : List α) : Prop where
  isPrefix : kept <+: l
  fits : kept = [] ∨ exceeds kept = false
  longest : ∀ longer, longer <+: l → kept.length < longer.length → exceeds longer = true

namespace Trimmed

variable {exceeds : List α → Bool} {l kept : List α}

theorem refl (h : l = [] ∨ exceeds l = false) : Trimmed exceeds l l :=
  ⟨List.prefix_rfl, h, fun _ hlonger hlength =>
    absurd hlonger.length_le (Nat.not_le.2 hlength)⟩

/-- A list that is over the bound is trimmed as without its last element. -/
theorem pop (hover : exceeds l = true) (h : Trimmed exceeds l.dropLast kept) :
    Trimmed exceeds l kept := by
  refine ⟨h.isPrefix.trans (List.dropLast_prefix l), h.fits, fun longer hlonger hlength => ?_⟩
  rcases Nat.lt_or_ge longer.length l.length with hlt | hge
  · refine h.longest longer ?_ hlength
    refine List.prefix_of_prefix_length_le hlonger (List.dropLast_prefix l) ?_
    rw [List.length_dropLast]
    omega
  · rw [hlonger.eq_of_length_le hge]
    exact hover

end Trimmed

end Core
