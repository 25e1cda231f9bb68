import Mathlib.Logic.Function.Basic
import OpenIntentRouter.Core.LTS

/-!
# Clients of a shared state

A `Client` does one atomic operation after another on a state it shares, each
chosen from what the operations before it have returned, and then replies.

* `Crowd.next`: any number of clients, one operation of one client at a time;
* `Client.bind`, `within`: a client after another, and one that works on a part of the state;
* `Safe` and `Crowd.sound`: a rely-guarantee rule. `G i s s'` says what an
  operation of client `i` may do, `I` is an invariant that all of these keep,
  and each client is checked by itself against what the others may do between
  its operations.
-/
set_option linter.unusedSectionVars false

namespace Core

/-- `op next k`: the operation takes the state `s` to `next s`, and the client
goes on with `k s`. -/
inductive Client (S α : Type) where
  | ret (a : α)
  | op (next : S → S) (k : S → Client S α)

namespace Client

variable {S α β : Type}

def atomic (f : S → β × S) (k : β → Client S α) : Client S α :=
  .op (fun s => (f s).2) fun s => k (f s).1

def look (f : S → β) (k : β → Client S α) : Client S α := .op id fun s => k (f s)

def run : Client S α → S → α × S
  | ret a, s => (a, s)
  | op next k, s => run (k s) (next s)

protected def bind : Client S α → (α → Client S β) → Client S β
  | ret a, f => f a
  | op next k, f => op next fun s => Client.bind (k s) f

instance : Monad (Client S) where
  pure := ret
  bind := Client.bind

def within {T : Type} (get : T → S) (set : S → T → T) : Client S α → Client T α
  | ret a => ret a
  | op next k => op (fun t => set (next (get t)) t) fun t => within get set (k (get t))

def once (f : S → β × S) : Client S β := atomic f ret

end Client

structure Crowd (ι S α : Type) where
  shared : S
  proc : ι → Client S α

namespace Crowd

/-- `abort` ends a client before its next operation. -/
inductive Label (ι : Type) where
  | op (i : ι)
  | abort (i : ι)
  deriving DecidableEq

variable {ι S α : Type} [DecidableEq ι]

/-- One operation of client `i`, or the end of client `i` by `aborted`. -/
def next (aborted : α) (c : Crowd ι S α) : Label ι → Option (Crowd ι S α)
  | .op i =>
    match c.proc i with
    | .ret _ => none
    | .op f k => some ⟨f c.shared, Function.update c.proc i (k c.shared)⟩
  | .abort i =>
    match c.proc i with
    | .ret _ => none
    | .op _ _ => some ⟨c.shared, Function.update c.proc i (.ret aborted)⟩

/-- The clients `progs` on the state `s`. -/
def system (aborted : α) (s : S) (progs : ι → Client S α) : LTS (Crowd ι S α) (Label ι) :=
  .ofFn (· = ⟨s, progs⟩) (next aborted)

end Crowd

/-! ## Rely-guarantee -/

section RelyGuarantee

variable {ι S α : Type} [DecidableEq ι]
variable (G : ι → S → S → Prop) (I : S → Prop)

namespace Client

def Relies (i : ι) : S → S → Prop := Relation.ReflTransGen fun s s' => ∃ j, j ≠ i ∧ G j s s'

/-- From the state `s`, whatever the others do in between, client `i` does only
what `G` allows and replies as `Q` says. -/
def Safe (i : ι) (Q : α → S → Prop) : Client S α → S → Prop
  | .ret a, s => ∀ s', Relies G i s s' → I s' → Q a s'
  | .op next k, s => ∀ s', Relies G i s s' → I s' → G i s' (next s') ∧ Safe i Q (k s') (next s')

variable {G I}

theorem Relies.keeps {i : ι} {P : S → Prop} (hP : ∀ j, j ≠ i → ∀ s s', P s → G j s s' → P s')
    {s s' : S} (hr : Relies G i s s') (hs : P s) : P s' := by
  induction hr with
  | refl => exact hs
  | tail _ hst ih =>
    obtain ⟨j, hj, hg⟩ := hst
    exact hP j hj _ _ ih hg

theorem Safe.relies {i : ι} {Q : α → S → Prop} {q : Client S α} {s s' : S}
    (hq : Safe G I i Q q s) (hr : Relies G i s s') : Safe G I i Q q s' := by
  cases q with
  | ret a => exact fun s2 h2 hi => hq s2 (hr.trans h2) hi
  | op next k => exact fun s2 h2 hi => hq s2 (hr.trans h2) hi

/-- A client after another, from what the first one leaves. -/
theorem Safe.bind {β : Type} (hI : ∀ i s s', I s → G i s s' → I s') {i : ι} {Q : α → S → Prop}
    {R : β → S → Prop} {p : Client S α} {f : α → Client S β} {s : S} (hi : I s)
    (hp : Safe G I i Q p s) (hf : ∀ a s', I s' → Q a s' → Safe G I i R (f a) s') :
    Safe G I i R (p >>= f) s := by
  show Safe G I i R (p.bind f) s
  induction p generalizing s with
  | ret a => exact hf a s hi (hp s .refl hi)
  | op next k ih =>
    intro s' hr hi'
    obtain ⟨hg, hk⟩ := hp s' hr hi'
    exact ⟨hg, ih s' (hI i _ _ hi' hg) hk⟩

end Client

namespace Crowd

variable {G I} {Q : ι → α → S → Prop} {aborted : α}

/-- **Soundness.** An operation keeps the invariant and every client safe, and
is one that `G` allows. -/
theorem sound (hI : ∀ i s s', I s → G i s s' → I s') (hab : ∀ i s, Q i aborted s)
    {c c' : Crowd ι S α} {l : Label ι} (hi : I c.shared)
    (hs : ∀ i, Client.Safe G I i (Q i) (c.proc i) c.shared) (hn : next aborted c l = some c') :
    (I c'.shared ∧ ∀ i, Client.Safe G I i (Q i) (c'.proc i) c'.shared) ∧
      (c'.shared = c.shared ∨ ∃ i, l = .op i ∧ G i c.shared c'.shared) := by
  cases l with
  | op i =>
    have hsi := hs i
    simp only [next] at hn
    cases hp : c.proc i with
    | ret a => simp [hp] at hn
    | op f k =>
      simp only [hp, Option.some.injEq] at hn hsi
      subst hn
      obtain ⟨hg, hk⟩ := hsi c.shared .refl hi
      refine ⟨⟨hI i _ _ hi hg, fun j => ?_⟩, .inr ⟨i, rfl, hg⟩⟩
      by_cases hj : j = i
      · subst hj
        simpa using hk
      · dsimp only
        rw [Function.update_of_ne hj]
        exact (hs j).relies (.single ⟨i, Ne.symm hj, hg⟩)
  | abort i =>
    simp only [next] at hn
    split at hn
    · cases hn
    · cases hn
      refine ⟨⟨hi, fun j => ?_⟩, .inl rfl⟩
      by_cases hj : j = i
      · subst hj
        dsimp only
        rw [Function.update_self]
        exact fun s' _ _ => hab j s'
      · dsimp only
        rw [Function.update_of_ne hj]
        exact hs j

/-- In every reachable crowd the invariant holds and all clients are safe. -/
theorem reachable_safe (hI : ∀ i s s', I s → G i s s' → I s') (hab : ∀ i s, Q i aborted s) {s : S}
    {progs : ι → Client S α} (h0 : I s) (h : ∀ i, Client.Safe G I i (Q i) (progs i) s)
    {c : Crowd ι S α} (hc : (system aborted s progs).Reachable c) :
    I c.shared ∧ ∀ i, Client.Safe G I i (Q i) (c.proc i) c.shared := by
  induction hc with
  | init hs =>
    cases hs
    exact ⟨h0, h⟩
  | step _ hst ih => exact (sound hI hab ih.1 ih.2 hst).1

/-- A step of a reachable crowd leaves the state, or is one that `G` allows. -/
theorem reachable_step (hI : ∀ i s s', I s → G i s s' → I s') (hab : ∀ i s, Q i aborted s) {s : S}
    {progs : ι → Client S α} (h0 : I s) (h : ∀ i, Client.Safe G I i (Q i) (progs i) s)
    {c c' : Crowd ι S α} {l : Label ι} (hc : (system aborted s progs).Reachable c)
    (hst : (system aborted s progs).step c l c') :
    c'.shared = c.shared ∨ ∃ i, l = .op i ∧ G i c.shared c'.shared := by
  obtain ⟨hi, hs⟩ := reachable_safe hI hab h0 h hc
  exact (sound hI hab hi hs hst).2

end Crowd
end RelyGuarantee
end Core
