import Mathlib.Data.List.Basic
import Mathlib.Order.WellFoundedSet

/-!
# Acyclic relations

* `Acyclic.exists_last`: of finitely many elements one is related to none of them;
* `Topological.irrefl`: a list in which every element stands before those that it is related
  to has no cycle.
-/
namespace Core

variable {α : Type} {R : α → α → Prop}

def Acyclic (R : α → α → Prop) : Prop := ∀ a, ¬Relation.TransGen R a a

theorem Acyclic.exists_last (h : Acyclic R) {l : List α} (hl : l ≠ []) :
    ∃ a ∈ l, ∀ b ∈ l, ¬R a b := by
  have : IsStrictOrder α fun b a => Relation.TransGen R a b :=
    { irrefl := h
      trans := fun _ _ _ hab hbc => hbc.trans hab }
  have hwf := l.finite_toSet.wellFoundedOn (r := fun b a => Relation.TransGen R a b)
  obtain ⟨a, ha⟩ := List.exists_mem_of_ne_nil l hl
  obtain ⟨⟨last, hmem⟩, -, hlast⟩ := hwf.has_min Set.univ ⟨⟨a, ha⟩, trivial⟩
  exact ⟨last, hmem, fun b hb hr => hlast ⟨b, hb⟩ trivial (.single hr)⟩

/-- The elements are distinct, and every one stands before all that it is related to. -/
inductive Topological (R : α → α → Prop) : List α → Prop where
  | nil : Topological R []
  | cons {a : α} {l : List α} :
    a ∉ l → (∀ b, R a b → b ∈ l) → Topological R l → Topological R (a :: l)

theorem Topological.closed {l : List α} (h : Topological R l) {a b : α} (ha : a ∈ l)
    (hab : Relation.TransGen R a b) : b ∈ l := by
  have hstep : ∀ {a b : α}, a ∈ l → R a b → b ∈ l := by
    clear ha hab
    induction h with
    | nil => simp
    | cons hnew hbelow _ ih =>
      intro a b ha hab
      rcases List.mem_cons.1 ha with rfl | ha
      · exact List.mem_cons_of_mem _ (hbelow b hab)
      · exact List.mem_cons_of_mem _ (ih ha hab)
  induction hab with
  | single hab => exact hstep ha hab
  | tail _ hbc ih => exact hstep ih hbc

theorem Topological.irrefl {l : List α} (h : Topological R l) {a : α} (ha : a ∈ l) :
    ¬Relation.TransGen R a a := by
  induction h with
  | nil => cases ha
  | @cons first rest hnew hbelow hrest ih =>
    rcases List.mem_cons.1 ha with rfl | ha
    · intro hcycle
      -- the first step leaves for the rest, which is closed
      obtain ⟨b, hb, hback⟩ := Relation.TransGen.head'_iff.1 hcycle
      have hrestb := hbelow b hb
      rcases Relation.reflTransGen_iff_eq_or_transGen.1 hback with rfl | hback
      · exact hnew hrestb
      · exact hnew (hrest.closed hrestb hback)
    · exact ih ha

end Core
