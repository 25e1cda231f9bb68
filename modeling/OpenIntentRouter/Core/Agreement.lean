import Mathlib.Data.List.Forall2

/-!
# Two implementations of one interface

An implementation is a step function from a state and a call to a reply and the
next state. Two of them agree on a run when their replies match; to show it one
relates their states and looks at one call (`agree`). The condition `C` is
tested on the states of the first one.
-/
namespace Core

variable {σ τ ι ρ : Type}

def replies (step : σ → ι → ρ × σ) : σ → List ι → List ρ × σ
  | s, [] => ([], s)
  | s, call :: calls =>
    let (reply, s) := step s call
    let (rest, s) := replies step s calls
    (reply :: rest, s)

def AllAlong (step : σ → ι → ρ × σ) (C : σ → ι → Prop) : σ → List ι → Prop
  | _, [] => True
  | s, call :: calls => C s call ∧ AllAlong step C (step s call).2 calls

instance AllAlong.decidable (step : σ → ι → ρ × σ) (C : σ → ι → Prop)
    [∀ s call, Decidable (C s call)] : ∀ s calls, Decidable (AllAlong step C s calls)
  | _, [] => .isTrue trivial
  | s, call :: calls =>
    have := decidable step C (step s call).2 calls
    inferInstanceAs (Decidable (_ ∧ _))

def Simulates (step₁ : σ → ι → ρ × σ) (step₂ : τ → ι → ρ × τ) (C : σ → ι → Prop)
    (R : σ → τ → Prop) (E : ρ → ρ → Prop) : Prop :=
  ∀ s t call, R s t → C s call →
    E (step₁ s call).1 (step₂ t call).1 ∧ R (step₁ s call).2 (step₂ t call).2

theorem Simulates.agree {step₁ : σ → ι → ρ × σ} {step₂ : τ → ι → ρ × τ} {C : σ → ι → Prop}
    {R : σ → τ → Prop} {E : ρ → ρ → Prop} (h : Simulates step₁ step₂ C R E) {s : σ} {t : τ}
    {calls : List ι} (hr : R s t) (hc : AllAlong step₁ C s calls) :
    List.Forall₂ E (replies step₁ s calls).1 (replies step₂ t calls).1 ∧
      R (replies step₁ s calls).2 (replies step₂ t calls).2 := by
  induction calls generalizing s t with
  | nil => exact ⟨.nil, hr⟩
  | cons call calls ih =>
    obtain ⟨hreply, hnext⟩ := h s t call hr hc.1
    obtain ⟨hrest, hlast⟩ := ih hnext hc.2
    exact ⟨.cons hreply hrest, hlast⟩

end Core
