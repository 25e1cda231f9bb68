import OpenIntentRouter.Core.Dumps

/-!
# Dumps that get no longer

An object whose keys keep their places and whose values get no longer has a text that is no
longer (`NoLonger.length_le`), also under the `dict` operations that write values into it.
-/
namespace Core.JsonDict

open Json

variable {style : Json.Style}

def NoLonger (style : Json.Style) : JsonDict → JsonDict → Prop :=
  List.Forall₂ fun p q => p.1 = q.1 ∧ (write style p.2).length ≤ (write style q.2).length

theorem NoLonger.refl (style : Json.Style) (d : JsonDict) : NoLonger style d d :=
  List.forall₂_same.2 fun _ _ => ⟨rfl, Nat.le_refl _⟩

theorem NoLonger.sum_le {d e : JsonDict} (h : NoLonger style d e) :
    (d.map fun p => (writeField style p).length).sum ≤
      (e.map fun p => (writeField style p).length).sum := by
  induction h with
  | nil => exact Nat.le_refl _
  | cons hpair _ ih =>
    obtain ⟨hkey, hvalue⟩ := hpair
    simp only [List.map_cons, List.sum_cons, writeField, List.length_append] at ih ⊢
    rw [hkey]
    omega

theorem NoLonger.length_le {d e : JsonDict} (h : NoLonger style d e) :
    (write style (.obj d)).length ≤ (write style (.obj e)).length := by
  have hsum := h.sum_le
  have hlength := List.Forall₂.length_eq h
  simp only [write_obj, writeFields_eq, List.length_cons, List.length_append, length_joined, hlength]
  omega

theorem NoLonger.set {d e : JsonDict} (h : NoLonger style d e) (key : String) {v w : Json}
    (hvalue : (write style v).length ≤ (write style w).length) :
    NoLonger style (JsonDict.set d key v) (JsonDict.set e key w) := by
  induction h with
  | nil => exact .cons ⟨rfl, hvalue⟩ .nil
  | @cons p q d e hpair hrest ih =>
    obtain ⟨k, old⟩ := p
    obtain ⟨k', old'⟩ := q
    obtain rfl : k = k' := hpair.1
    simp only [JsonDict.set]
    split
    · exact .cons ⟨rfl, hvalue⟩ hrest
    · exact .cons hpair ih

theorem NoLonger.merge {d e f g : JsonDict} (h : NoLonger style d e) (hnew : NoLonger style f g) :
    NoLonger style (JsonDict.merge d f) (JsonDict.merge e g) := by
  unfold JsonDict.merge
  induction hnew generalizing d e with
  | nil => exact h
  | @cons p q f g hpair _ ih =>
    rw [List.foldl_cons, List.foldl_cons, ← hpair.1]
    exact ih (h.set p.1 hpair.2)

end Core.JsonDict

namespace Core.Json

theorem length_write_arr_prefix_le (style : Style) {items others : List Json} (h : items <+: others) :
    (write style (.arr items)).length ≤ (write style (.arr others)).length := by
  obtain ⟨more, rfl⟩ := h
  exact length_write_arr_append_le style items more

theorem length_write_arr_le (style : Style) {items others : List Json}
    (h : List.Forall₂ (fun a b => (write style a).length ≤ (write style b).length) items others) :
    (write style (.arr items)).length ≤ (write style (.arr others)).length := by
  have hsum : (items.map fun a => (write style a).length).sum ≤
      (others.map fun a => (write style a).length).sum := by
    induction h with
    | nil => exact Nat.le_refl _
    | cons hab _ ih =>
      rw [List.map_cons, List.map_cons, List.sum_cons, List.sum_cons]
      exact Nat.add_le_add hab ih
  have hlength := h.length_eq
  simp only [write_arr, writeItems_eq, List.length_cons, List.length_append, length_joined, hlength]
  omega

/-- `true` is shorter than `false`. -/
theorem length_write_bool_le (style : Style) {b c : Bool} (h : c = true → b = true) :
    (write style (.bool b)).length ≤ (write style (.bool c)).length := by
  cases b with
  | true =>
    have htrue : (write style (.bool true)).length = 4 := rfl
    have hfalse : (write style (.bool false)).length = 5 := rfl
    cases c <;> omega
  | false =>
    cases c with
    | true => cases h rfl
    | false => exact Nat.le_refl _

end Core.Json
