import Mathlib.Data.List.Sublists
import OpenIntentRouter.Core.Dict

/-!
# Revision numbers that live with a value

A keyed store numbers the versions of a value next to the value itself and logs every number: a
new value starts at 1, a write counts one further, and a removal logs the number after the last
one and forgets it. The numbers logged for a key increase exactly as long as the key is not
created after it was removed (`Run.increasing_iff`), and as long as it is not, a number that is
read again is the number of the value that it was read with (`Run.unchanged`).
-/
namespace Core.Revisions

variable {κ α : Type}

inductive Change where
  | create | write | remove
  deriving DecidableEq

structure Store (κ α : Type) where
  live : κ → Option (Nat × α)
  log : List (κ × Nat)

/-- The number that a step logs, from what the key has before and after it. -/
inductive Numbers : Change → Option (Nat × α) → Option (Nat × α) → Nat → Prop
  | create (a : α) : Numbers .create none (some (1, a)) 1
  | write (n : Nat) (a b : α) : Numbers .write (some (n, a)) (some (n + 1, b)) (n + 1)
  | remove (n : Nat) (a : α) : Numbers .remove (some (n, a)) none (n + 1)

variable {n : Nat} {before after : Option (Nat × α)}

theorem Numbers.pos {change : Change} (h : Numbers change before after n) : 1 ≤ n := by
  cases h <;> omega

theorem Numbers.create_eq (h : Numbers .create before after n) : n = 1 := by
  cases h
  rfl

def Step (s : Store κ α) (step : κ × Change) (s' : Store κ α) : Prop :=
  (∀ k, k ≠ step.1 → s'.live k = s.live k) ∧
  ∃ n, Numbers step.2 (s.live step.1) (s'.live step.1) n ∧ s'.log = s.log ++ [(step.1, n)]

inductive Run (s : Store κ α) : List (κ × Change) → Store κ α → Prop
  | refl : Run s [] s
  | snoc {t u : Store κ α} {steps : List (κ × Change)} {step : κ × Change} :
      Run s steps t → Step t step u → Run s (steps ++ [step]) u

def Recreated (k : κ) (steps : List (κ × Change)) : Prop :=
  [(k, .remove), (k, .create)].Sublist steps

instance [DecidableEq κ] (k : κ) (steps : List (κ × Change)) : Decidable (Recreated k steps) :=
  inferInstanceAs (Decidable (List.Sublist _ _))

theorem Recreated.mono {k : κ} {steps : List (κ × Change)} (more : List (κ × Change))
    (h : ¬Recreated k (steps ++ more)) : ¬Recreated k steps :=
  fun hsteps => h (hsteps.trans (List.sublist_append_left _ _))

theorem recreated_of_create {k : κ} {steps : List (κ × Change)} (h : (k, Change.remove) ∈ steps) :
    Recreated k (steps ++ [(k, .create)]) :=
  (List.singleton_sublist.2 h).append (List.Sublist.refl [(k, Change.create)])

variable [DecidableEq κ]

def Store.numbers (s : Store κ α) (k : κ) : List Nat :=
  (s.log.filter fun entry => entry.1 = k).map (·.2)

variable {s s' : Store κ α} {step : κ × Change} {k : κ} {steps : List (κ × Change)}

theorem Step.numbers_self (h : Step s step s') :
    ∃ n, Numbers step.2 (s.live step.1) (s'.live step.1) n ∧
      s'.numbers step.1 = s.numbers step.1 ++ [n] := by
  obtain ⟨-, n, hn, hlog⟩ := h
  exact ⟨n, hn, by simp [Store.numbers, hlog]⟩

theorem Step.numbers_of_ne (h : Step s step s') (hk : k ≠ step.1) : s'.numbers k = s.numbers k := by
  obtain ⟨-, n, -, hlog⟩ := h
  simp [Store.numbers, hlog, Ne.symm hk]

/-! ## Numbers that increase -/

/-- The numbers increase, a live value has the last of them, and a key that is not live but has
numbers was removed. -/
structure Counted (k : κ) (steps : List (κ × Change)) (s : Store κ α) : Prop where
  increasing : (s.numbers k).Pairwise (· < ·)
  last : ∀ n a, s.live k = some (n, a) → ∀ m ∈ s.numbers k, m ≤ n
  gone : s.live k = none → s.numbers k ≠ [] → (k, Change.remove) ∈ steps

theorem pairwise_snoc {numbers : List Nat} (h : numbers.Pairwise (· < ·))
    (hn : ∀ m ∈ numbers, m < n) : (numbers ++ [n]).Pairwise (· < ·) := by
  rw [List.pairwise_append]
  exact ⟨h, List.pairwise_singleton _ _, fun m hm n' hn' => by
    rw [List.mem_singleton.1 hn']; exact hn m hm⟩

theorem Counted.snoc {k : κ} {steps : List (κ × Change)} {s s' : Store κ α} {step : κ × Change}
    (I : Counted k steps s) (hst : Step s step s') (hnew : ¬Recreated k (steps ++ [step])) :
    Counted k (steps ++ [step]) s' := by
  by_cases hk : k = step.1
  · obtain ⟨key, change⟩ := step
    subst hk
    obtain ⟨n, hn, hnumbers⟩ := hst.numbers_self
    simp only at hn hnumbers
    generalize hbefore : s.live k = before at hn
    generalize hafter : s'.live k = after at hn
    cases hn with
    | create a =>
      -- the key has no numbers: it would have been removed before
      have hempty : s.numbers k = [] := by
        by_contra hsome
        exact hnew (recreated_of_create (I.gone hbefore hsome))
      rw [hempty, List.nil_append] at hnumbers
      refine ⟨by simp [hnumbers], ?_, fun h => by simp [hafter] at h⟩
      intro m b hlive i hi
      simp_all
    | write n a b =>
      have hlast := I.last n a hbefore
      refine ⟨?_, ?_, fun h => by simp [hafter] at h⟩
      · rw [hnumbers]
        exact pairwise_snoc I.increasing fun m hm => Nat.lt_succ_of_le (hlast m hm)
      · intro m c hlive i hi
        rw [hafter, Option.some.injEq, Prod.mk.injEq] at hlive
        rw [hnumbers, List.mem_append, List.mem_singleton] at hi
        rcases hi with hi | rfl
        · have := hlast i hi
          omega
        · omega
    | remove n a =>
      have hlast := I.last n a hbefore
      refine ⟨?_, fun m b h => by simp [hafter] at h, fun _ _ => by simp⟩
      rw [hnumbers]
      exact pairwise_snoc I.increasing fun m hm => Nat.lt_succ_of_le (hlast m hm)
  · have hlive := hst.1 k hk
    have hnumbers := hst.numbers_of_ne hk
    refine ⟨by rw [hnumbers]; exact I.increasing, ?_, ?_⟩
    · rw [hlive, hnumbers]
      exact I.last
    · rw [hlive, hnumbers]
      exact fun hnone hsome => List.mem_append_left _ (I.gone hnone hsome)

theorem Run.counted (h : Run s steps s') (hlog : s.log = []) (hnew : ¬Recreated k steps) :
    Counted k steps s' := by
  induction h with
  | refl =>
    exact ⟨by simp [Store.numbers, hlog], by simp [Store.numbers, hlog],
      by simp [Store.numbers, hlog]⟩
  | snoc _ hst ih => exact (ih (Recreated.mono _ hnew)).snoc hst hnew

theorem Run.removed (h : Run s steps s') (hmem : (k, Change.remove) ∈ steps) :
    ∃ n ∈ s'.numbers k, 1 ≤ n := by
  induction h with
  | refl => simp at hmem
  | @snoc t u steps step _ hst ih =>
    by_cases hk : k = step.1
    · obtain ⟨n, hn, hnumbers⟩ := hst.numbers_self
      subst hk
      exact ⟨n, by simp [hnumbers], hn.pos⟩
    · have hbefore : (k, Change.remove) ∈ steps := by
        rcases List.mem_append.1 hmem with h | h
        · exact h
        · simp only [List.mem_singleton] at h
          exact absurd (congrArg Prod.fst h) hk
      obtain ⟨n, hn, hpos⟩ := ih hbefore
      exact ⟨n, by rw [hst.numbers_of_ne hk]; exact hn, hpos⟩

theorem sublist_pair_snoc {β : Type} {x y z : β} {l : List β}
    (h : [x, y].Sublist (l ++ [z])) : [x, y].Sublist l ∨ (x ∈ l ∧ y = z) := by
  obtain ⟨l₁, l₂, hl, h₁, h₂⟩ := List.sublist_append_iff.1 h
  match l₁, hl with
  | [], hl =>
    have := h₂.length_le
    simp only [List.nil_append] at hl
    simp [← hl] at this
  | [w], hl =>
    simp only [List.cons_append, List.nil_append, List.cons.injEq] at hl
    obtain ⟨rfl, rfl⟩ := hl
    exact .inr ⟨List.singleton_sublist.1 h₁, by simpa using h₂⟩
  | w :: w' :: rest, hl =>
    simp only [List.cons_append, List.cons.injEq] at hl
    obtain ⟨rfl, rfl, hrest⟩ := hl
    rw [eq_comm, List.append_eq_nil_iff] at hrest
    rw [hrest.1] at h₁
    exact .inl h₁

theorem Run.not_increasing (h : Run s steps s') (hnew : Recreated k steps) :
    ¬(s'.numbers k).Pairwise (· < ·) := by
  induction h with
  | refl => simp [Recreated] at hnew
  | @snoc t u steps step hrun hst ih =>
    intro hpairs
    by_cases hk : k = step.1
    · obtain ⟨n, hn, hnumbers⟩ := hst.numbers_self
      rw [hk, hnumbers, List.pairwise_append] at hpairs
      rcases sublist_pair_snoc hnew with hold | ⟨hmem, hlast⟩
      · exact ih hold (hk ▸ hpairs.1)
      · -- the creation logs 1, the removal logged at least 1
        obtain ⟨m, hm, hpos⟩ := hrun.removed hmem
        have hlt := hpairs.2.2 m (hk ▸ hm) n (List.mem_singleton.2 rfl)
        rw [← hlast] at hn
        have hone := hn.create_eq
        omega
    · rw [hst.numbers_of_ne hk] at hpairs
      rcases sublist_pair_snoc hnew with hold | ⟨-, hlast⟩
      · exact ih hold hpairs
      · exact hk (congrArg Prod.fst hlast)

/-- From an empty log, the numbers of a key increase exactly when it is never created after it
was removed. -/
theorem Run.increasing_iff (h : Run s steps s') (hlog : s.log = []) (k : κ) :
    (s'.numbers k).Pairwise (· < ·) ↔ ¬Recreated k steps :=
  ⟨fun hpairs hnew => h.not_increasing hnew hpairs, fun hnew => (h.counted hlog hnew).increasing⟩

/-! ## Numbers that are read again -/

/-- What a key that had a number has now: the same, a later number, or nothing since it was
removed. -/
inductive Since (k : κ) (n : Nat) (a : α) (steps : List (κ × Change)) :
    Option (Nat × α) → Prop
  | same : Since k n a steps (some (n, a))
  | later {m : Nat} (b : α) : n < m → Since k n a steps (some (m, b))
  | removed : (k, Change.remove) ∈ steps → Since k n a steps none

theorem Since.snoc {k : κ} {n : Nat} {a : α} {steps : List (κ × Change)} {s s' : Store κ α}
    {step : κ × Change} (I : Since k n a steps (s.live k)) (hst : Step s step s')
    (hnew : ¬Recreated k (steps ++ [step])) : Since k n a (steps ++ [step]) (s'.live k) := by
  by_cases hk : k = step.1
  · obtain ⟨key, change⟩ := step
    subst hk
    obtain ⟨-, number, hn, -⟩ := hst
    simp only at hn
    generalize s.live k = before at I hn
    generalize s'.live k = after at hn ⊢
    cases hn with
    | create b =>
      cases I with
      | removed hmem => exact absurd (recreated_of_create hmem) hnew
    | write m b c =>
      cases I with
      | same => exact .later c (Nat.lt_succ_self n)
      | later _ hlt => exact .later c (Nat.lt_succ_of_lt hlt)
    | remove m b => exact .removed (by simp)
  · rw [hst.1 k hk]
    generalize s.live k = before at I ⊢
    cases I with
    | same => exact .same
    | later b hlt => exact .later b hlt
    | removed hmem => exact .removed (List.mem_append_left _ hmem)

theorem Run.since (h : Run s steps s') {a : α} (hlive : s.live k = some (n, a))
    (hnew : ¬Recreated k steps) : Since k n a steps (s'.live k) := by
  induction h with
  | refl => rw [hlive]; exact .same
  | snoc _ hst ih => exact (ih (Recreated.mono _ hnew)).snoc hst hnew

/-- A value whose number is read again has not changed, if its key was not created again. -/
theorem Run.unchanged (h : Run s steps s') {a b : α} (hlive : s.live k = some (n, a))
    (hnew : ¬Recreated k steps) (hlater : s'.live k = some (n, b)) : b = a := by
  have hsince := h.since hlive hnew
  rw [hlater] at hsince
  cases hsince with
  | same => rfl
  | later _ hlt => exact absurd hlt (Nat.lt_irrefl n)

end Core.Revisions
