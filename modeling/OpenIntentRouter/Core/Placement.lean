import Mathlib.Data.List.Forall2

/-!
# Placing elements in full or in brief

Elements are placed one after another, each in full where that fits beside those placed before,
else in brief, and the placing fails where neither fits. What fits is closed under shorter forms
and under prefixes. All are placed exactly when they fit in their shorter forms and no element
that is placed in full crowds out those after it (`isSome_iff`).
-/
namespace Core.Placement

variable {α ρ : Type}

/-- The two forms of an element, what fits together, and which of two forms is shorter. -/
structure Forms (α ρ : Type) where
  full : α → ρ
  brief : α → ρ
  Fits : List ρ → Prop
  decFits : DecidablePred Fits
  shorter : α → ρ
  shorter_eq : ∀ a, shorter a = full a ∨ shorter a = brief a
  NoLonger : ρ → ρ → Prop
  refl : ∀ r, NoLonger r r
  shorter_full : ∀ a, NoLonger (shorter a) (full a)
  shorter_brief : ∀ a, NoLonger (shorter a) (brief a)
  fits_mono : ∀ {l l' : List ρ}, List.Forall₂ NoLonger l l' → Fits l' → Fits l
  fits_initial : ∀ {l l' : List ρ}, l <+: l' → Fits l' → Fits l

namespace Forms

variable (F : Forms α ρ)

instance : DecidablePred F.Fits := F.decFits

def place (placed : List ρ) (a : α) : Option (List ρ) :=
  if F.Fits (placed ++ [F.full a]) then some (placed ++ [F.full a])
  else if F.Fits (placed ++ [F.brief a]) then some (placed ++ [F.brief a])
  else none

/-- An element is placed in full although those after it do not fit beside it, not even in their
shorter forms. -/
def Crowds (placed : List ρ) (l : List α) : Prop :=
  ∃ before a after p, l = before ++ a :: after ∧ before.foldlM F.place placed = some p ∧
    F.Fits (p ++ [F.full a]) ∧ ¬F.Fits (p ++ F.full a :: after.map F.shorter)

variable {F} {placed placed' : List ρ} {l : List α} {a : α}

theorem place_full (h : F.Fits (placed ++ [F.full a])) :
    F.place placed a = some (placed ++ [F.full a]) := if_pos h

theorem place_brief (hfull : ¬F.Fits (placed ++ [F.full a]))
    (h : F.Fits (placed ++ [F.brief a])) : F.place placed a = some (placed ++ [F.brief a]) := by
  unfold place
  rw [if_neg hfull, if_pos h]

theorem place_none (hfull : ¬F.Fits (placed ++ [F.full a]))
    (hbrief : ¬F.Fits (placed ++ [F.brief a])) : F.place placed a = none := by
  unfold place
  rw [if_neg hfull, if_neg hbrief]

theorem place_eq_some (h : F.place placed a = some placed') :
    F.Fits placed' ∧ ∃ r, placed' = placed ++ [r] ∧ F.NoLonger (F.shorter a) r := by
  unfold place at h
  split_ifs at h with hfull hbrief
  · cases h
    exact ⟨hfull, _, rfl, F.shorter_full a⟩
  · cases h
    exact ⟨hbrief, _, rfl, F.shorter_brief a⟩

theorem forall₂_refl (l : List ρ) : List.Forall₂ F.NoLonger l l :=
  List.forall₂_same.2 fun r _ => F.refl r

/-- Whatever is placed, it is no shorter than the shorter forms. -/
theorem foldlM_eq_some (hplaced : F.Fits placed) (h : l.foldlM F.place placed = some placed') :
    F.Fits placed' ∧ ∃ forms, placed' = placed ++ forms ∧
      List.Forall₂ F.NoLonger (l.map F.shorter) forms := by
  induction l generalizing placed with
  | nil =>
    cases h
    exact ⟨hplaced, [], (List.append_nil _).symm, .nil⟩
  | cons a rest ih =>
    obtain ⟨next, hnext, h⟩ := Option.bind_eq_some_iff.1 h
    obtain ⟨hfits, r, rfl, hr⟩ := place_eq_some hnext
    obtain ⟨hfits', forms, rfl, hforms⟩ := ih hfits h
    exact ⟨hfits', r :: forms, by simp, .cons hr hforms⟩

theorem fits_shorter (hplaced : F.Fits placed) (h : l.foldlM F.place placed = some placed') :
    F.Fits (placed ++ l.map F.shorter) := by
  obtain ⟨hfits, forms, rfl, hforms⟩ := foldlM_eq_some hplaced h
  exact F.fits_mono (List.rel_append (forall₂_refl placed) hforms) hfits

theorem not_crowds (h : l.foldlM F.place placed = some placed') : ¬F.Crowds placed l := by
  rintro ⟨before, a, after, p, rfl, hbefore, hfull, hcrowded⟩
  rw [List.foldlM_append] at h
  obtain ⟨p', hp', h⟩ := Option.bind_eq_some_iff.1 h
  obtain rfl := Option.some.inj (hbefore.symm.trans hp')
  obtain ⟨next, hnext, h⟩ := Option.bind_eq_some_iff.1 h
  obtain rfl := Option.some.inj ((place_full hfull).symm.trans hnext)
  have hfits := fits_shorter hfull h
  rw [List.append_assoc, List.singleton_append] at hfits
  exact hcrowded hfits

theorem Crowds.cons (hnext : F.place placed a = some placed') (h : F.Crowds placed' l) :
    F.Crowds placed (a :: l) := by
  obtain ⟨before, b, after, p, rfl, hbefore, hrest⟩ := h
  refine ⟨a :: before, b, after, p, rfl, ?_, hrest⟩
  rw [List.foldlM_cons, hnext]
  exact hbefore

theorem isSome_of_fits (hfits : F.Fits (placed ++ l.map F.shorter)) (hcrowds : ¬F.Crowds placed l) :
    ∃ placed', l.foldlM F.place placed = some placed' := by
  induction l generalizing placed with
  | nil => exact ⟨placed, rfl⟩
  | cons a rest ih =>
    by_cases hfull : F.Fits (placed ++ [F.full a])
    · have hnext := place_full hfull
      have hroom : F.Fits (placed ++ [F.full a] ++ rest.map F.shorter) := by
        rw [List.append_assoc, List.singleton_append]
        by_contra hcrowded
        exact hcrowds ⟨[], a, rest, placed, rfl, rfl, hfull, hcrowded⟩
      obtain ⟨last, hlast⟩ := ih hroom fun h => hcrowds (h.cons hnext)
      exact ⟨last, by rw [List.foldlM_cons, hnext]; exact hlast⟩
    · rw [List.map_cons, ← List.singleton_append, ← List.append_assoc] at hfits
      have hshorter := F.fits_initial (List.prefix_append _ _) hfits
      have hbrief : F.shorter a = F.brief a :=
        (F.shorter_eq a).resolve_left fun h => hfull (h ▸ hshorter)
      rw [hbrief] at hfits hshorter
      have hnext := place_brief hfull hshorter
      obtain ⟨last, hlast⟩ := ih hfits fun h => hcrowds (h.cons hnext)
      exact ⟨last, by rw [List.foldlM_cons, hnext]; exact hlast⟩

/-- All are placed exactly when they fit in their shorter forms and none crowds out the others. -/
theorem isSome_iff (hplaced : F.Fits placed) :
    (∃ placed', l.foldlM F.place placed = some placed') ↔
      F.Fits (placed ++ l.map F.shorter) ∧ ¬F.Crowds placed l :=
  ⟨fun ⟨_, h⟩ => ⟨fits_shorter hplaced h, not_crowds h⟩,
    fun ⟨hfits, hcrowds⟩ => isSome_of_fits hfits hcrowds⟩

end Forms

end Core.Placement
