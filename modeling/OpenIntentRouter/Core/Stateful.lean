import OpenIntentRouter.Core.Except

/-!
# Computations on a state that may raise

`Stateful ε σ`: an exception does not take the state back.

* `run_bind_ok`: what a successful block went through, one statement at a time;
* `run_tryCatch_ok`: the body returned, or its handler did.
-/
namespace Core

abbrev Stateful (ε σ α : Type) := ExceptT ε (StateM σ) α

variable {ε' : Type}

namespace Stateful

variable {ε σ α β : Type}

def run (x : Stateful ε σ α) (s : σ) : Except ε α × σ := StateT.run (ExceptT.run x) s

/-- A function of the state, its exceptions translated by `g`. -/
def lift {ε' : Type} (g : ε' → ε) (f : σ → Except ε' α × σ) : Stateful ε σ α :=
  ExceptT.mk fun s => ((f s).1.mapError g, (f s).2)

def ofExcept {ε' : Type} (g : ε' → ε) (x : Except ε' α) : Stateful ε σ α := lift g fun s => (x, s)

@[simp] theorem run_pure (a : α) (s : σ) : (pure a : Stateful ε σ α).run s = (.ok a, s) := rfl

theorem run_bind (x : Stateful ε σ α) (f : α → Stateful ε σ β) (s : σ) :
    (x >>= f).run s = match x.run s with
      | (.ok a, s') => (f a).run s'
      | (.error e, s') => (.error e, s') := by
  show StateT.run (ExceptT.run (x >>= f)) s = _
  rw [ExceptT.run_bind, StateT.run_bind]
  unfold run
  rcases StateT.run (ExceptT.run x) s with ⟨_ | _, _⟩ <;> rfl

theorem run_tryCatch (x : Stateful ε σ α) (f : ε → Stateful ε σ α) (s : σ) :
    (tryCatch x f).run s = match x.run s with
      | (.ok a, s') => (.ok a, s')
      | (.error e, s') => (f e).run s' := by
  show StateT.run (ExceptT.run (tryCatch x f)) s = _
  rw [ExceptT.run_tryCatch, StateT.run_bind]
  unfold run
  rcases StateT.run (ExceptT.run x) s with ⟨_ | _, _⟩ <;> rfl

variable {s s' : σ} {x : Stateful ε σ α} {f : α → Stateful ε σ β} {a : α}

theorem run_bind_ok {b : β} :
    (x >>= f).run s = (.ok b, s') ↔ ∃ a s1, x.run s = (.ok a, s1) ∧ (f a).run s1 = (.ok b, s') := by
  rw [run_bind]
  rcases x.run s with ⟨e | a, s1⟩
  · simp
  · constructor
    · exact fun h => ⟨a, s1, rfl, h⟩
    · rintro ⟨_, _, ⟨rfl, rfl⟩, h⟩
      exact h

theorem run_bind_error {e : ε} :
    (x >>= f).run s = (.error e, s') ↔
      x.run s = (.error e, s') ∨ ∃ a s1, x.run s = (.ok a, s1) ∧ (f a).run s1 = (.error e, s') := by
  rw [run_bind]
  rcases x.run s with ⟨e' | a, s1⟩
  · simp
  · constructor
    · exact fun h => .inr ⟨a, s1, rfl, h⟩
    · rintro (h | ⟨_, _, ⟨rfl, rfl⟩, h⟩)
      · cases h
      · exact h

theorem run_tryCatch_ok {f : ε → Stateful ε σ α} :
    (tryCatch x f).run s = (.ok a, s') ↔
      x.run s = (.ok a, s') ∨ ∃ e s1, x.run s = (.error e, s1) ∧ (f e).run s1 = (.ok a, s') := by
  rw [run_tryCatch]
  rcases x.run s with ⟨e | b, s1⟩
  · constructor
    · exact fun h => .inr ⟨e, s1, rfl, h⟩
    · rintro (h | ⟨_, _, ⟨rfl, rfl⟩, h⟩)
      · cases h
      · exact h
  · simp

theorem run_lift (g : ε' → ε) (f : σ → Except ε' α × σ) (s : σ) :
    (lift g f).run s = ((f s).1.mapError g, (f s).2) := rfl

theorem run_lift_ok {g : ε' → ε} {f : σ → Except ε' α × σ} :
    (lift g f).run s = (.ok a, s') ↔ f s = (.ok a, s') := by
  show ((f s).1.mapError g, (f s).2) = _ ↔ _
  rcases f s with ⟨e | b, s1⟩
  · simp
  · simp

theorem run_ofExcept_ok {g : ε' → ε} {x : Except ε' α} :
    (ofExcept g x).run s = (.ok a, s') ↔ x = .ok a ∧ s' = s := by
  rw [ofExcept, run_lift_ok, Prod.mk.injEq, eq_comm (a := s)]

end Stateful
end Core
