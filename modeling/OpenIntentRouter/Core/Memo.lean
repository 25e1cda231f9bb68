import OpenIntentRouter.Core.Dict
import OpenIntentRouter.Core.LTS

/-!
# A function behind a cache

Requests that are answered through one cache, any number of them at a time. A request that
comes to the cache looks its key up when it is asked: if the key is there, it is answered from
what is stored under it; if not, it is computed, and what is to be kept of the computation is
stored when it is done. Other requests are asked and done in between.

* `Memo.Sourced`: whatever is stored was computed for an earlier request with the same key;
* `Memo.answers_reachable`: a property that computed answers have, and that an answer from the
  cache has where the earlier request is related to the later one, holds of all answers of a
  run in which requests with one key are so related.
-/
namespace Core

/-- How requests use the cache: `key` is looked up, if there is one, `compute` is the answer
without the cache, `kept` is stored of it, and `reply` answers from what is stored. -/
structure Memo (ρ κ α β : Type) where
  key : ρ → Option κ
  compute : ρ → β
  kept : ρ → Option α
  reply : ρ → α → β

namespace Memo

variable {ρ κ α β : Type} [DecidableEq κ]

structure State (ρ κ α β : Type) [DecidableEq κ] where
  cache : Dict κ α
  running : List ρ
  /-- ghost: every request that was asked -/
  asked : List ρ
  answers : List (ρ × β)

inductive Label (ρ : Type) where
  /-- A request looks its key up. -/
  | ask (r : ρ)
  /-- A request that was not answered from the cache is computed. -/
  | done (r : ρ)

def start : State ρ κ α β := ⟨.empty, [], [], []⟩

def lookup (m : Memo ρ κ α β) (s : State ρ κ α β) (r : ρ) : Option α :=
  (m.key r).bind s.cache.get?

def store (m : Memo ρ κ α β) (cache : Dict κ α) (r : ρ) : Dict κ α :=
  match m.key r, m.kept r with
  | some k, some v => cache.set k v
  | _, _ => cache

inductive Step (m : Memo ρ κ α β) : State ρ κ α β → Label ρ → State ρ κ α β → Prop where
  | hit {s : State ρ κ α β} {r : ρ} {v : α} : m.lookup s r = some v →
      Step m s (.ask r)
        { s with asked := r :: s.asked, answers := (r, m.reply r v) :: s.answers }
  | miss {s : State ρ κ α β} {r : ρ} : m.lookup s r = none →
      Step m s (.ask r) { s with asked := r :: s.asked, running := r :: s.running }
  | done {s : State ρ κ α β} {r : ρ} {rest : List ρ} : s.running.Perm (r :: rest) →
      Step m s (.done r)
        { s with
          running := rest
          cache := m.store s.cache r
          answers := (r, m.compute r) :: s.answers }

def lts (m : Memo ρ κ α β) : LTS (State ρ κ α β) (Label ρ) where
  init s := s = start
  step := m.Step

structure Sourced (m : Memo ρ κ α β) (s : State ρ κ α β) : Prop where
  running : ∀ r ∈ s.running, r ∈ s.asked
  cache : ∀ k v, s.cache.get? k = some v → ∃ r ∈ s.asked, m.key r = some k ∧ m.kept r = some v

theorem Sourced.step {m : Memo ρ κ α β} {s s' : State ρ κ α β} {l : Label ρ}
    (h : m.Sourced s) (hst : m.Step s l s') : m.Sourced s' := by
  cases hst with
  | hit hv =>
    refine ⟨fun r hr => List.mem_cons_of_mem _ (h.running r hr), fun k v hk => ?_⟩
    obtain ⟨r, hr, hkey⟩ := h.cache k v hk
    exact ⟨r, List.mem_cons_of_mem _ hr, hkey⟩
  | miss hv =>
    refine ⟨fun r hr => ?_, fun k v hk => ?_⟩
    · rcases List.mem_cons.1 hr with rfl | hr
      · exact List.mem_cons_self
      · exact List.mem_cons_of_mem _ (h.running r hr)
    · obtain ⟨r, hr, hkey⟩ := h.cache k v hk
      exact ⟨r, List.mem_cons_of_mem _ hr, hkey⟩
  | @done r rest hperm =>
    have hmem : ∀ q ∈ r :: rest, q ∈ s.asked := fun q hq => h.running q (hperm.mem_iff.2 hq)
    refine ⟨fun q hq => hmem q (List.mem_cons_of_mem _ hq), fun k v hk => ?_⟩
    have hother : s.cache.get? k = some v →
        ∃ r ∈ s.asked, m.key r = some k ∧ m.kept r = some v := h.cache k v
    change (m.store s.cache r).get? k = some v at hk
    unfold store at hk
    split at hk
    · next k' v' hkey hkept =>
      by_cases he : k' = k
      · subst he
        rw [Dict.get?_set, if_pos rfl] at hk
        cases hk
        exact ⟨r, hmem r List.mem_cons_self, hkey, hkept⟩
      · rw [Dict.get?_set, if_neg he] at hk
        exact hother hk
    · exact hother hk

/-- Requests with one key are related: what was kept for the earlier one may answer the later. -/
def Related (m : Memo ρ κ α β) (R : ρ → ρ → Prop) (s : State ρ κ α β) : Label ρ → Prop
  | .ask r => ∀ k, m.key r = some k →
      ∀ earlier ∈ s.asked, m.key earlier = some k → (m.kept earlier).isSome → R earlier r
  | .done _ => True

/-- A property of the answers that the computed ones have, and those from what was kept for a
related request, holds of every answer. -/
theorem answers_reachable {m : Memo ρ κ α β} {R : ρ → ρ → Prop} {P : ρ → β → Prop}
    (hcompute : ∀ r, P r (m.compute r))
    (hrecall : ∀ k earlier r v, m.key earlier = some k → m.key r = some k →
      m.kept earlier = some v → R earlier r → P r (m.reply r v))
    {s : State ρ κ α β} (h : (m.lts.guarded (m.Related R)).Reachable s) :
    ∀ p ∈ s.answers, P p.1 p.2 := by
  have hinv : (m.lts.guarded (m.Related R)).Inductive
      fun s => m.Sourced s ∧ ∀ p ∈ s.answers, P p.1 p.2 := by
    refine ⟨?_, ?_⟩
    · rintro s rfl
      refine ⟨⟨by simp [start], fun k v hk => ?_⟩, by simp [start]⟩
      rw [start, Dict.get?_empty] at hk
      cases hk
    · rintro s l s' ⟨hsourced, hall⟩ ⟨hrelated, hst⟩
      refine ⟨hsourced.step hst, ?_⟩
      cases hst with
      | @hit r v hv =>
        intro p hp
        rcases List.mem_cons.1 hp with rfl | hp
        · obtain ⟨k, hkey, hk⟩ := Option.bind_eq_some_iff.1 hv
          obtain ⟨earlier, hearlier, hkey', hkept⟩ := hsourced.cache k v hk
          exact hrecall k earlier r v hkey' hkey hkept
            (hrelated k hkey earlier hearlier hkey' (by rw [hkept]; rfl))
        · exact hall p hp
      | miss hv => exact hall
      | @done r rest hperm =>
        intro p hp
        rcases List.mem_cons.1 hp with rfl | hp
        · exact hcompute r
        · exact hall p hp
  exact (hinv.reachable h).2

/-- A request with the key of an earlier one that is done is answered from the cache. -/
theorem exists_recall {m : Memo ρ κ α β} {R : ρ → ρ → Prop} {k : κ} {earlier r : ρ} {v : α}
    (hearlier : m.key earlier = some k) (hr : m.key r = some k) (hkept : m.kept earlier = some v)
    (hrelated : R earlier r) :
    ∃ s, (m.lts.guarded (m.Related R)).Reachable s ∧ (r, m.reply r v) ∈ s.answers := by
  let asked : State ρ κ α β := ⟨.empty, [earlier], [earlier], []⟩
  let stored : State ρ κ α β :=
    ⟨m.store .empty earlier, [], [earlier], [(earlier, m.compute earlier)]⟩
  have hasked : (m.lts.guarded (m.Related R)).Reachable asked := by
    have hnone : m.lookup start earlier = none := by
      rw [lookup, hearlier]
      exact Dict.get?_empty k
    refine .step (.init rfl) (l := .ask earlier) ⟨fun k' _ other hother => ?_, .miss hnone⟩
    cases hother
  have hdone : (m.lts.guarded (m.Related R)).Reachable stored :=
    .step hasked (l := .done earlier) ⟨trivial, .done (.refl _)⟩
  have hlookup : m.lookup stored r = some v := by
    simp only [stored, lookup, store, hearlier, hr, hkept, Option.bind_some, Dict.get?_set, if_true]
  refine ⟨_, .step hdone (l := .ask r) ⟨fun k' _ other hother _ _ => ?_, .hit hlookup⟩,
    List.mem_cons_self⟩
  cases List.mem_singleton.1 hother
  exact hrelated

end Memo

end Core
