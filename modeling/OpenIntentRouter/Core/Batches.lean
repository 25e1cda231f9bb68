import Mathlib.Data.List.Nodup
import Mathlib.Order.Basic

/-!
# Requests that are made one after another

A loop makes the requests of some entries and ends with the first that raises;
what the earlier ones wrote stays. A request writes for its own entry, repeats
what was written before, or raises. What an entry writes may keep a later one
from writing (`Apart` says that it does not).

* `Requests.moved_run`: a loop moves the entries of its own only;
* `Requests.isolates_iff`: every entry whose request alone would be accepted is
  moved exactly if each such request alone writes, and so do those before it
  and leave it room.
-/
namespace Core.Batches

/-- `for x in xs: results.append(await request(x))`, and the state in which it ends. -/
def run {α β σ ε : Type} (request : Nat → α → σ → Except ε (β × σ)) :
    Nat → List α → σ → Except ε (List β) × σ
  | _, [], s => (.ok [], s)
  | k, x :: xs, s =>
    match request k x s with
    | .error e => (.error e, s)
    | .ok (result, s') =>
      let rest := run request (k + 1) xs s'
      (rest.1.map (result :: ·), rest.2)

/-- Requests, each about the entry of a key. The `k`-th request of a loop reads the `k`-th time
of a clock, which does not decide what is accepted. -/
structure Requests (α β σ ε ι : Type) where
  key : α → ι
  request : Nat → α → σ → Except ε (β × σ)
  Writes : α → σ → Prop
  next : Nat → α → σ → σ
  Moved : α → σ → Prop
  /-- What the first entry writes leaves the second what it needs. -/
  Apart : α → α → σ → Prop
  accepted_at : ∀ k k' x s p, request k x s = .ok p → ∃ p', request k' x s = .ok p'
  ok : ∀ k x s result s', request k x s = .ok (result, s') →
    Writes x s ∧ s' = next k x s ∨ ¬Writes x s ∧ s' = s
  written : ∀ k x s, Writes x s → ∃ result, request k x s = .ok (result, next k x s)
  moved_next : ∀ k x s, Writes x s → Moved x (next k x s)
  moved_other : ∀ k x y s, key x ≠ key y → Writes x s → (Moved y (next k x s) ↔ Moved y s)
  writes_next : ∀ k x y s, key x ≠ key y → Writes x s →
    (Writes y (next k x s) ↔ Writes y s ∧ Apart x y s)
  apart_next : ∀ k x y z s, key x ≠ key y → key x ≠ key z → Writes x s → Apart x y s →
    Apart x z s → (Apart y z (next k x s) ↔ Apart y z s)
  /-- What repeats after a write of another entry repeated before. -/
  repeats_next : ∀ k k' x y s p, key x ≠ key y → Writes x s → ¬Writes y (next k x s) →
    request k' y (next k x s) = .ok p → ∃ p', request k' y s = .ok p'

namespace Requests

variable {α β σ ε ι : Type} (q : Requests α β σ ε ι)

def Accepted (x : α) (s : σ) : Prop := ∃ k p, q.request k x s = .ok p

variable {q} {k : Nat} {x y : α} {xs : List α} {s s' : σ} {result : β} {e : ε}

theorem Accepted.at (h : q.Accepted x s) (k : Nat) : ∃ p, q.request k x s = .ok p := by
  obtain ⟨k', p, h⟩ := h
  exact q.accepted_at k' k x s p h

theorem accepted_of_writes (h : q.Writes x s) : q.Accepted x s := by
  obtain ⟨result, h⟩ := q.written 0 x s h
  exact ⟨0, _, h⟩

theorem run_error (h : q.request k x s = .error e) : run q.request k (x :: xs) s = (.error e, s) := by
  simp only [run, h]

theorem run_ok (h : q.request k x s = .ok (result, s')) :
    (run q.request k (x :: xs) s).2 = (run q.request (k + 1) xs s').2 := by
  simp only [run, h]

theorem run_writes (h : q.Writes x s) :
    (run q.request k (x :: xs) s).2 = (run q.request (k + 1) xs (q.next k x s)).2 := by
  obtain ⟨result, h⟩ := q.written k x s h
  exact run_ok h

/-- A loop leaves the entries of other keys as they are. -/
theorem moved_run (hkey : ∀ x ∈ xs, q.key x ≠ q.key y) :
    q.Moved y (run q.request k xs s).2 ↔ q.Moved y s := by
  induction xs generalizing k s with
  | nil => rfl
  | cons x xs ih =>
    have ih {k s} := ih (k := k) (s := s) fun z hz => hkey z (List.mem_cons_of_mem _ hz)
    cases h : q.request k x s with
    | error e => rw [run_error h]
    | ok p =>
      obtain ⟨result, s'⟩ := p
      rw [run_ok h, ih]
      rcases q.ok k x s result s' h with ⟨hwrites, rfl⟩ | ⟨-, rfl⟩
      · exact q.moved_other k x y s (hkey x List.mem_cons_self) hwrites
      · rfl

/-- An entry that a loop moves could have been written before the loop. -/
theorem writes_of_moved (hnodup : (xs.map q.key).Nodup) (hx : x ∈ xs) (hnot : ¬q.Moved x s)
    (hmoved : q.Moved x (run q.request k xs s).2) : q.Writes x s := by
  induction xs generalizing k s with
  | nil => cases hx
  | cons first xs ih =>
    rw [List.map_cons, List.nodup_cons] at hnodup
    obtain ⟨hfirst, hnodup⟩ := hnodup
    cases h : q.request k first s with
    | error e =>
      rw [run_error h] at hmoved
      exact absurd hmoved hnot
    | ok p =>
      obtain ⟨result, s'⟩ := p
      rw [run_ok h] at hmoved
      rcases List.mem_cons.1 hx with rfl | hrest
      · rw [moved_run fun y hy hkey => hfirst (hkey ▸ List.mem_map_of_mem hy)] at hmoved
        rcases q.ok k x s result s' h with ⟨hwrites, -⟩ | ⟨-, rfl⟩
        · exact hwrites
        · exact absurd hmoved hnot
      · have hkey : q.key first ≠ q.key x := fun hkey => hfirst (hkey ▸ List.mem_map_of_mem hrest)
        rcases q.ok k first s result s' h with ⟨hwrites, rfl⟩ | ⟨-, rfl⟩
        · have hnext := ih hnodup hrest (fun hm => hnot ((q.moved_other k _ _ s hkey hwrites).1 hm))
            hmoved
          exact ((q.writes_next k _ _ s hkey hwrites).1 hnext).1
        · exact ih hnodup hrest hnot hmoved

section Isolation

variable (hkey : q.key x ≠ q.key y) (hwrites : q.Writes x s)
include hkey hwrites

theorem accepted_of_next (h : q.Accepted y (q.next k x s)) : q.Accepted y s := by
  obtain ⟨k', p, h⟩ := h
  by_cases hnext : q.Writes y (q.next k x s)
  · exact accepted_of_writes ((q.writes_next k x y s hkey hwrites).1 hnext).1
  · obtain ⟨p', h⟩ := q.repeats_next k k' x y s p hkey hwrites hnext h
    exact ⟨k', p', h⟩

/-- An entry that is kept apart is written after as it was before. -/
theorem writes_next_of_apart (hy : q.Writes y s) (hapart : q.Apart x y s) :
    q.Writes y (q.next k x s) :=
  (q.writes_next k x y s hkey hwrites).2 ⟨hy, hapart⟩

end Isolation

/-- What the entries need of each other may be said of the state before or after the first of
them is written. -/
theorem pairwise_next (hwrites : q.Writes x s) (hkey : ∀ y ∈ xs, q.key x ≠ q.key y)
    (happart : ∀ y ∈ xs, q.Writes y s → q.Apart x y s) :
    xs.Pairwise (fun y z => q.Writes z (q.next k x s) →
        q.Writes y (q.next k x s) ∧ q.Apart y z (q.next k x s)) ↔
      xs.Pairwise fun y z => q.Writes z s → q.Writes y s ∧ q.Apart y z s := by
  have hnext : ∀ y ∈ xs, (q.Writes y (q.next k x s) ↔ q.Writes y s) := by
    intro y hy
    rw [q.writes_next k x y s (hkey y hy) hwrites]
    exact and_iff_left_of_imp (happart y hy)
  refine List.Pairwise.iff_of_mem fun {y z} hy hz => ?_
  rw [hnext y hy, hnext z hz]
  refine imp_congr_right fun hwz => and_congr_right fun hwy => ?_
  exact q.apart_next k x y z s (hkey y hy) (hkey z hz) hwrites (happart y hy hwy)
    (happart z hz hwz)

/-- Each entry whose request alone is accepted is moved by the loop, whatever becomes of the
others, exactly if such a request writes, and every entry before it writes and leaves it room. -/
theorem isolates_iff (hnodup : (xs.map q.key).Nodup) (hnot : ∀ x ∈ xs, ¬q.Moved x s) :
    (∀ x ∈ xs, q.Accepted x s → q.Moved x (run q.request k xs s).2) ↔
      (∀ x ∈ xs, q.Accepted x s → q.Writes x s) ∧
        xs.Pairwise fun x y => q.Writes y s → q.Writes x s ∧ q.Apart x y s := by
  induction xs generalizing k s with
  | nil => simp
  | cons x xs ih =>
    rw [List.map_cons, List.nodup_cons] at hnodup
    obtain ⟨hfirst, hnodup⟩ := hnodup
    have hkey : ∀ y ∈ xs, q.key x ≠ q.key y :=
      fun y hy hkey => hfirst (hkey ▸ List.mem_map_of_mem hy)
    rw [List.forall_mem_cons] at hnot
    obtain ⟨hx, hxs⟩ := hnot
    rw [List.forall_mem_cons, List.forall_mem_cons, List.pairwise_cons]
    by_cases hwrites : q.Writes x s
    · -- the loop goes on from what the first entry writes
      have hmoved : q.Moved x (run q.request k (x :: xs) s).2 := by
        rw [run_writes hwrites, moved_run fun y hy hk => hkey y hy hk.symm]
        exact q.moved_next k x s hwrites
      have hxs' : ∀ y ∈ xs, ¬q.Moved y (q.next k x s) :=
        fun y hy hm => hxs y hy ((q.moved_other k x y s (hkey y hy) hwrites).1 hm)
      have hrest := ih (k := k + 1) hnodup hxs'
      rw [run_writes hwrites] at hmoved ⊢
      constructor
      · rintro ⟨-, hall⟩
        have hnext : ∀ y ∈ xs, q.Accepted y s → q.Writes y (q.next k x s) :=
          fun y hy hacc => writes_of_moved hnodup hy (hxs' y hy) (hall y hy hacc)
        have hback : ∀ y ∈ xs, q.Writes y (q.next k x s) → q.Writes y s ∧ q.Apart x y s :=
          fun y hy => (q.writes_next k x y s (hkey y hy) hwrites).1
        have happart : ∀ y ∈ xs, q.Writes y s → q.Apart x y s :=
          fun y hy hw => (hback y hy (hnext y hy (accepted_of_writes hw))).2
        have hpairs := (hrest.1 fun y hy hacc =>
          hall y hy (accepted_of_next (hkey y hy) hwrites hacc)).2
        exact ⟨⟨fun _ => hwrites, fun y hy hacc => (hback y hy (hnext y hy hacc)).1⟩,
          fun y hy hw => ⟨hwrites, happart y hy hw⟩,
          (pairwise_next hwrites hkey happart).1 hpairs⟩
      · rintro ⟨⟨-, hall⟩, hapart, hpairs⟩
        have happart : ∀ y ∈ xs, q.Writes y s → q.Apart x y s := fun y hy hw => (hapart y hy hw).2
        have hnext : ∀ y ∈ xs, q.Accepted y s → q.Writes y (q.next k x s) := by
          intro y hy hacc
          have hw := hall y hy hacc
          exact writes_next_of_apart (hkey y hy) hwrites hw (happart y hy hw)
        refine ⟨fun _ => hmoved, fun y hy hacc => ?_⟩
        refine hrest.2 ⟨fun z hz hacc => ?_, (pairwise_next hwrites hkey happart).2 hpairs⟩ y hy
          (accepted_of_writes (hnext y hy hacc))
        exact hnext z hz (accepted_of_next (hkey z hz) hwrites hacc)
    · -- nothing the loop does moves the first entry
      have hstays : ¬q.Moved x (run q.request k (x :: xs) s).2 := by
        intro hm
        refine hwrites (writes_of_moved (k := k) ?_ List.mem_cons_self hx hm)
        rw [List.map_cons, List.nodup_cons]
        exact ⟨hfirst, hnodup⟩
      cases h : q.request k x s with
      | ok p =>
        have hacc : q.Accepted x s := ⟨k, p, h⟩
        exact ⟨fun hall => absurd (hall.1 hacc) hstays, fun hall => absurd (hall.1.1 hacc) hwrites⟩
      | error e =>
        have hrefused : ¬q.Accepted x s := by
          intro hacc
          obtain ⟨p, hp⟩ := hacc.at k
          rw [h] at hp
          cases hp
        rw [run_error h]
        constructor
        · rintro ⟨-, hall⟩
          have hnone : ∀ y ∈ xs, ¬q.Accepted y s := fun y hy hacc => hxs y hy (hall y hy hacc)
          exact ⟨⟨fun hacc => absurd hacc hrefused, fun y hy hacc => absurd hacc (hnone y hy)⟩,
            fun y hy hw => absurd (accepted_of_writes hw) (hnone y hy),
            List.pairwise_of_forall_mem_list fun _ _ z hz hw =>
              absurd (accepted_of_writes hw) (hnone z hz)⟩
        · rintro ⟨⟨-, hall⟩, hfirst, -⟩
          refine ⟨fun hacc => absurd hacc hrefused, fun y hy hacc => ?_⟩
          exact absurd (hfirst y hy (hall y hy hacc)).1 hwrites

end Requests

/-- What holds between the entries of a list in the order of a key holds from first to last. -/
theorem pairwise_iff_of_key {α γ : Type} [Preorder γ] {f : α → γ} {R : α → α → Prop} {l : List α}
    (hsorted : l.Pairwise fun a b => f a < f b) :
    l.Pairwise R ↔ ∀ a ∈ l, ∀ b ∈ l, f a < f b → R a b := by
  constructor
  · intro h
    induction l with
    | nil => simp
    | cons first l ih =>
      obtain ⟨hfirst, hsorted⟩ := List.pairwise_cons.1 hsorted
      obtain ⟨hR, h⟩ := List.pairwise_cons.1 h
      intro a ha b hb hlt
      rcases List.mem_cons.1 ha with rfl | hal
      · rcases List.mem_cons.1 hb with rfl | hbl
        · exact absurd hlt (lt_irrefl _)
        · exact hR b hbl
      · rcases List.mem_cons.1 hb with rfl | hbl
        · exact absurd (hlt.trans (hfirst a hal)) (lt_irrefl _)
        · exact ih hsorted h a hal b hbl hlt
  · intro h
    exact hsorted.imp_of_mem fun ha hb hlt => h _ ha _ hb hlt

end Core.Batches
