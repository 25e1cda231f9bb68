/-!
# Writes with a hand-written rollback

A list of writes is tried in order; each either raises and changes nothing, or
changes the state. When one raises, the writes before it have taken effect and
a rollback, written by hand, runs on the state they left.

* `transact_ok`: an accepted run of the writes is all of them, in order;
* `transact_error`: a raised one stops somewhere, and the rollback runs there.
-/
namespace Core

variable {σ ε : Type}

abbrev Write (σ ε : Type) := σ → Except ε σ

/-- Try the writes in order; the exception of the first that raises, and the state then. -/
def attempt : List (Write σ ε) → σ → Option ε × σ
  | [], s => (none, s)
  | w :: ws, s =>
    match w s with
    | .error e => (some e, s)
    | .ok s' => attempt ws s'

/-- `try: writes; except Exception: rollback; raise`. -/
def transact (writes : List (Write σ ε)) (rollback : σ → σ) (s : σ) : Except ε Unit × σ :=
  match attempt writes s with
  | (none, s') => (.ok (), s')
  | (some e, s') => (.error e, rollback s')

inductive Applied : List (Write σ ε) → σ → σ → Prop where
  | nil (s : σ) : Applied [] s s
  | cons {w : Write σ ε} {ws : List (Write σ ε)} {s s' s'' : σ} :
      w s = .ok s' → Applied ws s' s'' → Applied (w :: ws) s s''

variable {s s' : σ} {ws : List (Write σ ε)} {w : Write σ ε} {e : ε} {rollback : σ → σ}

theorem applied_cons {s'' : σ} :
    Applied (w :: ws) s s'' ↔ ∃ s', w s = .ok s' ∧ Applied ws s' s'' := by
  constructor
  · intro h
    cases h with
    | cons hw hws => exact ⟨_, hw, hws⟩
  · rintro ⟨s', hw, hws⟩
    exact .cons hw hws

theorem applied_nil : Applied ([] : List (Write σ ε)) s s' ↔ s' = s := by
  constructor
  · intro h
    cases h
    rfl
  · rintro rfl
    exact .nil s'

theorem attempt_none : attempt ws s = (none, s') ↔ Applied ws s s' := by
  induction ws generalizing s with
  | nil => simp [attempt, applied_nil, eq_comm]
  | cons w ws ih =>
    rw [attempt, applied_cons]
    cases hw : w s with
    | error e => simp
    | ok t => simp [ih]

/-- Raising at the first write, or later from the state it leaves. -/
theorem attempt_cons_some {t : σ} :
    attempt (w :: ws) s = (some e, t) ↔
      (w s = .error e ∧ t = s) ∨ ∃ s1, w s = .ok s1 ∧ attempt ws s1 = (some e, t) := by
  rw [attempt]
  cases hw : w s with
  | error e' => simp [eq_comm]
  | ok s1 => simp

theorem attempt_nil_some {t : σ} : ¬attempt ([] : List (Write σ ε)) s = (some e, t) := by
  simp [attempt]

theorem transact_ok {u : Unit} : transact ws rollback s = (.ok u, s') ↔ Applied ws s s' := by
  rw [← attempt_none]
  unfold transact
  split
  · next t h => simp [h]
  · next e t h => simp [h]

theorem transact_error :
    transact ws rollback s = (.error e, s') ↔
      ∃ t, attempt ws s = (some e, t) ∧ s' = rollback t := by
  unfold transact
  split
  · next t ht => simp [ht]
  · next e' t ht =>
    simp only [ht, Prod.mk.injEq, Except.error.injEq, Option.some.injEq]
    constructor
    · rintro ⟨rfl, rfl⟩
      exact ⟨t, ⟨rfl, rfl⟩, rfl⟩
    · rintro ⟨_, ⟨rfl, rfl⟩, rfl⟩
      exact ⟨rfl, rfl⟩

end Core
