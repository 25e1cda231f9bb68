import Mathlib.Logic.Relation

/-!
# Labelled transition systems

Runs of a system given by its initial states and labelled steps, the induction
rules for its reachable states (`Inductive.reachable`) and for what later states
keep (`Steps.keeps`), and two ways of cutting a system down: by a step function
(`ofFn`) and by a condition on steps (`guarded`).
-/
namespace Core

structure LTS (σ ℓ : Type) where
  init : σ → Prop
  step : σ → ℓ → σ → Prop

namespace LTS

variable {σ ℓ : Type}

inductive Reachable (T : LTS σ ℓ) : σ → Prop where
  | init {s : σ} : T.init s → Reachable T s
  | step {s s' : σ} {l : ℓ} : Reachable T s → T.step s l s' → Reachable T s'

/-- `I` holds initially and every step keeps it. -/
def Inductive (T : LTS σ ℓ) (I : σ → Prop) : Prop :=
  (∀ s, T.init s → I s) ∧ ∀ s l s', I s → T.step s l s' → I s'

variable {s s' : σ} {T : LTS σ ℓ} {C : σ → ℓ → Prop} {init : σ → Prop} {f : σ → ℓ → Option σ}
  {ls : List ℓ} {c : σ → ℓ → Bool}

theorem Inductive.reachable {I : σ → Prop} (h : T.Inductive I) (hs : T.Reachable s) : I s := by
  induction hs with
  | init h0 => exact h.1 _ h0
  | step _ hst ih => exact h.2 _ _ _ ih hst

def Steps (T : LTS σ ℓ) : σ → σ → Prop := Relation.ReflTransGen fun s s' => ∃ l, T.step s l s'

theorem Reachable.steps (h : T.Reachable s) (hs : T.Steps s s') : T.Reachable s' := by
  induction hs with
  | refl => exact h
  | tail _ hst ih =>
    obtain ⟨l, hl⟩ := hst
    exact .step ih hl

/-- What a reachable state and its later states have in common, if every step
from a reachable state keeps it. -/
theorem Steps.keeps {R : σ → σ → Prop} (hrefl : ∀ s, R s s)
    (htrans : ∀ a b c, R a b → R b c → R a c)
    (hstep : ∀ s l s', T.Reachable s → T.step s l s' → R s s') (h : T.Reachable s)
    (hs : T.Steps s s') : R s s' := by
  induction hs with
  | refl => exact hrefl _
  | tail hpre hst ih =>
    obtain ⟨l, hl⟩ := hst
    exact htrans _ _ _ ih (hstep _ l _ (h.steps hpre) hl)

def ofFn (init : σ → Prop) (f : σ → ℓ → Option σ) : LTS σ ℓ where
  init := init
  step s l s' := f s l = some s'

/-- The steps of `T` that meet a condition on the state before them. -/
def guarded (T : LTS σ ℓ) (C : σ → ℓ → Prop) : LTS σ ℓ where
  init := T.init
  step s l s' := C s l ∧ T.step s l s'

theorem Reachable.of_guarded (h : (T.guarded C).Reachable s) : T.Reachable s := by
  induction h with
  | init h0 => exact .init h0
  | step _ hst ih => exact .step ih hst.2

def exec (f : σ → ℓ → Option σ) : σ → List ℓ → Option σ
  | s, [] => some s
  | s, l :: ls => (f s l).bind (exec f · ls)

theorem exec_append (f : σ → ℓ → Option σ) (s : σ) (ls ls' : List ℓ) :
    exec f s (ls ++ ls') = (exec f s ls).bind (exec f · ls') := by
  induction ls generalizing s with
  | nil => rfl
  | cons l ls ih => simp [LTS.exec, ih, Option.bind_assoc]

theorem Steps.exec (h : exec f s ls = some s') : (ofFn init f).Steps s s' := by
  induction ls generalizing s with
  | nil => simp only [LTS.exec, Option.some.injEq] at h; exact h ▸ .refl
  | cons l ls ih =>
    simp only [LTS.exec, Option.bind_eq_some_iff] at h
    obtain ⟨t, ht, h⟩ := h
    exact .head ⟨l, ht⟩ (ih h)

theorem Reachable.exec (hs : (ofFn init f).Reachable s) (h : exec f s ls = some s') :
    (ofFn init f).Reachable s' :=
  hs.steps (.exec h)

/-- Run a step function along a list of labels as long as the steps meet a
checkable condition. -/
def execGuarded (f : σ → ℓ → Option σ) (c : σ → ℓ → Bool) : σ → List ℓ → Option σ :=
  exec fun s l => if c s l then f s l else none

theorem Steps.execGuarded (hc : ∀ s l, c s l = true → C s l) (h : execGuarded f c s ls = some s') :
    ((ofFn init f).guarded C).Steps s s' := by
  induction ls generalizing s with
  | nil => simp only [LTS.execGuarded, LTS.exec, Option.some.injEq] at h; exact h ▸ .refl
  | cons l ls ih =>
    simp only [LTS.execGuarded, LTS.exec, Option.bind_eq_some_iff] at h
    obtain ⟨t, ht, h⟩ := h
    split at ht
    · next hcl => exact .head ⟨l, hc _ _ hcl, ht⟩ (ih h)
    · cases ht

theorem Reachable.execGuarded (hc : ∀ s l, c s l = true → C s l)
    (hs : ((ofFn init f).guarded C).Reachable s) (h : execGuarded f c s ls = some s') :
    ((ofFn init f).guarded C).Reachable s' :=
  hs.steps (.execGuarded hc h)

end LTS
end Core
