import Mathlib.Data.List.Basic
import Mathlib.Data.List.Nodup

/-!
# Queues that are served in pages

A queue is a list of entries, each with a state of its own. A call takes the first
`limit` entries that are pending and visits each of them; an entry that is still
pending after its visit keeps its place.

* `Run.changes_iff`: the visit of a pending entry comes after finitely many calls
  exactly if fewer than `limit` of the entries before it stay pending.
-/
namespace Core.Sweeps

/-- What a visit makes of the state of an entry. A second visit changes nothing. -/
structure Queue (ι β : Type) where
  pending : ι → β → Bool
  visit : ι → β → β
  visit_visit : ∀ e b, visit e (visit e b) = visit e b

variable {ι β σ : Type} [DecidableEq ι]

namespace Queue

variable (q : Queue ι β)

def page (limit : Nat) (entries : List ι) (state : ι → β) : List ι :=
  (entries.filter fun e => q.pending e (state e)).take limit

def stuck (state : ι → β) (e : ι) : Bool :=
  q.pending e (state e) && q.pending e (q.visit e (state e))

end Queue

structure Run (q : Queue ι β) (limit : Nat) (entries : List ι) (states : Nat → ι → β) : Prop where
  next : ∀ n, ∀ e ∈ entries, states (n + 1) e =
    if e ∈ q.page limit entries (states n) then q.visit e (states n e) else states n e

/-- A loop that visits the entries of a list, each once. -/
theorem foldl_visit {q : Queue ι β} {step : σ → ι → σ} {view : σ → ι → β} {Inv : σ → Prop}
    {entries : List ι} (hinv : ∀ s e, Inv s → Inv (step s e))
    (hstep : ∀ s, Inv s → ∀ e ∈ entries, ∀ other ∈ entries, view (step s e) other =
      if other = e then q.visit e (view s e) else view s other)
    {l : List ι} (hnodup : l.Nodup) (hsub : ∀ e ∈ l, e ∈ entries) {s : σ} (hs : Inv s)
    {other : ι} (hother : other ∈ entries) :
    view (l.foldl step s) other =
      if other ∈ l then q.visit other (view s other) else view s other := by
  induction l generalizing s with
  | nil => simp
  | cons e l ih =>
    have he : e ∈ entries := hsub e List.mem_cons_self
    obtain ⟨hfresh, hnodup⟩ := List.nodup_cons.1 hnodup
    rw [List.foldl_cons, ih hnodup (fun x hx => hsub x (List.mem_cons_of_mem _ hx)) (hinv s e hs),
      hstep s hs e he other hother]
    by_cases heq : other = e
    · subst heq
      simp [hfresh]
    · simp [heq]

section Run

variable {q : Queue ι β} {limit : Nat} {entries before after : List ι} {states : Nat → ι → β} {e : ι}

theorem Run.shift (h : Run q limit entries states) : Run q limit entries fun n => states (n + 1) :=
  ⟨fun n => h.next (n + 1)⟩

theorem Run.cases (h : Run q limit entries states) (he : e ∈ entries) (n : Nat) :
    states n e = states 0 e ∨ states n e = q.visit e (states 0 e) := by
  induction n with
  | zero => exact .inl rfl
  | succ n ih =>
    rw [h.next n e he]
    split
    · rcases ih with ih | ih
      · exact .inr (by rw [ih])
      · exact .inr (by rw [ih, q.visit_visit])
    · exact ih

theorem Run.stuck_next (h : Run q limit entries states) (n : Nat) (he : e ∈ entries) :
    q.stuck (states (n + 1)) e = q.stuck (states n) e := by
  unfold Queue.stuck
  rw [h.next n e he]
  split
  · next hpage =>
    have hpending : q.pending e (states n e) = true :=
      (List.mem_filter.1 (List.mem_of_mem_take hpage)).2
    rw [q.visit_visit, hpending, Bool.and_self, Bool.true_and]
  · rfl

omit [DecidableEq ι] in
theorem filter_split (he : q.pending e (states 0 e) = true) :
    (before ++ e :: after).filter (fun x => q.pending x (states 0 x)) =
      before.filter (fun x => q.pending x (states 0 x)) ++
        e :: after.filter fun x => q.pending x (states 0 x) := by
  rw [List.filter_append, List.filter_cons, if_pos he]

omit [DecidableEq ι] in
/-- An entry is taken if fewer than `limit` pending ones stand before it. -/
theorem mem_page (hnodup : (before ++ e :: after).Nodup) (he : q.pending e (states 0 e) = true) :
    e ∈ q.page limit (before ++ e :: after) (states 0) ↔
      (before.filter fun x => q.pending x (states 0 x)).length < limit := by
  have hfresh : e ∉ before := by
    intro hmem
    exact (List.disjoint_of_nodup_append hnodup hmem) List.mem_cons_self
  rw [Queue.page, filter_split he]
  constructor
  · intro hmem
    by_contra hle
    rw [List.take_append_of_le_length (Nat.not_lt.1 hle)] at hmem
    exact hfresh (List.mem_filter.1 (List.mem_of_mem_take hmem)).1
  · intro hlt
    rw [List.take_append, List.mem_append]
    right
    obtain ⟨n, hn⟩ : ∃ n, limit - (before.filter fun x => q.pending x (states 0 x)).length = n + 1 :=
      ⟨limit - (before.filter fun x => q.pending x (states 0 x)).length - 1, by omega⟩
    rw [hn]
    exact List.mem_cons_self

/-- A full page of which not every entry is stuck shortens what stands before an entry. -/
theorem Run.shorter (h : Run q limit (before ++ e :: after) states) (he : q.pending e (states 0 e) = true)
    (hfull : limit ≤ (before.filter fun x => q.pending x (states 0 x)).length)
    (hstuck : (before.filter (q.stuck (states 0))).length < limit) :
    (before.filter fun x => q.pending x (states 1 x)).length <
      (before.filter fun x => q.pending x (states 0 x)).length := by
  have hpage : q.page limit (before ++ e :: after) (states 0) =
      (before.filter fun x => q.pending x (states 0 x)).take limit := by
    rw [Queue.page, filter_split he, List.take_append_of_le_length hfull]
  -- a full page of stuck entries would be too many of them
  obtain ⟨x, hx, hgoes⟩ : ∃ x ∈ q.page limit (before ++ e :: after) (states 0),
      q.stuck (states 0) x = false := by
    by_contra hall
    have hsub : ((before.filter fun x => q.pending x (states 0 x)).take limit).Sublist
        (before.filter (q.stuck (states 0))) := by
      have hfilter : ((before.filter fun x => q.pending x (states 0 x)).take limit).filter
          (q.stuck (states 0)) = (before.filter fun x => q.pending x (states 0 x)).take limit := by
        refine List.filter_eq_self.2 fun x hx => ?_
        by_contra hne
        exact hall ⟨x, hpage ▸ hx, Bool.not_eq_true _ ▸ hne⟩
      rw [← hfilter]
      exact ((List.take_sublist _ _).trans List.filter_sublist).filter _
    have hle := hsub.length_le
    rw [List.length_take_of_le hfull] at hle
    omega
  have hxb := List.mem_filter.1 (List.mem_of_mem_take (hpage ▸ hx))
  have hxe : x ∈ before ++ e :: after := List.mem_append_left _ hxb.1
  have hkept : before.filter (fun x => q.pending x (states 1 x)) =
      (before.filter fun x => q.pending x (states 0 x)).filter fun x =>
        q.pending x (states 1 x) := by
    rw [List.filter_filter]
    refine List.filter_congr fun y hy => ?_
    rw [h.next 0 y (List.mem_append_left _ hy)]
    split
    · next hpage =>
      rw [(List.mem_filter.1 (List.mem_of_mem_take hpage)).2, Bool.and_true]
    · rw [Bool.and_self]
  rw [hkept, List.length_filter_lt_length_iff_exists]
  refine ⟨x, List.mem_filter.2 hxb, ?_⟩
  rw [h.next 0 x hxe, if_pos hx]
  simpa [Queue.stuck, hxb.2] using hgoes

theorem Run.reached_iff (h : Run q limit (before ++ e :: after) states)
    (hnodup : (before ++ e :: after).Nodup) (he : q.pending e (states 0 e) = true) :
    (∃ n, e ∈ q.page limit (before ++ e :: after) (states n)) ↔
      (before.filter (q.stuck (states 0))).length < limit := by
  have hme : e ∈ before ++ e :: after := List.mem_append_right _ List.mem_cons_self
  have hsame : ∀ {states : Nat → ι → β}, Run q limit (before ++ e :: after) states →
      before.filter (q.stuck (states 1)) = before.filter (q.stuck (states 0)) :=
    fun h => List.filter_congr fun x hx => h.stuck_next 0 (List.mem_append_left _ hx)
  have hstays : ∀ {states : Nat → ι → β}, Run q limit (before ++ e :: after) states →
      e ∉ q.page limit (before ++ e :: after) (states 0) → states 1 e = states 0 e :=
    fun h hout => (h.next 0 e hme).trans (if_neg hout)
  constructor
  · rintro ⟨n, hn⟩
    induction n generalizing states with
    | zero =>
      refine Nat.lt_of_le_of_lt (List.Sublist.length_le ?_) ((mem_page hnodup he).1 hn)
      exact List.monotone_filter_right before fun x hx => (Bool.and_eq_true_iff.1 hx).1
    | succ n ih =>
      by_cases hout : e ∈ q.page limit (before ++ e :: after) (states 0)
      · refine Nat.lt_of_le_of_lt (List.Sublist.length_le ?_) ((mem_page hnodup he).1 hout)
        exact List.monotone_filter_right before fun x hx => (Bool.and_eq_true_iff.1 hx).1
      · rw [← hsame h]
        exact ih h.shift (by rw [hstays h hout]; exact he) hn
  · -- the pending entries before it become fewer until a page reaches it
    generalize hm : (before.filter fun x => q.pending x (states 0 x)).length = m
    intro hlt
    induction m using Nat.strongRecOn generalizing states with
    | _ m ih =>
      by_cases hshort : m < limit
      · exact ⟨0, (mem_page hnodup he).2 (hm ▸ hshort)⟩
      · have hout : e ∉ q.page limit (before ++ e :: after) (states 0) := by
          rw [mem_page hnodup he, hm]
          exact hshort
        have hshorter := h.shorter he (by omega) hlt
        rw [hm] at hshorter
        obtain ⟨n, hn⟩ := ih _ hshorter h.shift (by rw [hstays h hout]; exact he) rfl
          (by rw [hsame h]; exact hlt)
        exact ⟨n + 1, hn⟩

/-- What the visit of a pending entry brings about comes after finitely many calls exactly if
fewer than `limit` entries before it are stuck. -/
theorem Run.changes_iff (h : Run q limit (before ++ e :: after) states)
    (hnodup : (before ++ e :: after).Nodup) (he : q.pending e (states 0 e) = true) {P : β → Prop}
    (hnot : ¬P (states 0 e)) (hvisit : P (q.visit e (states 0 e))) :
    (∃ n, P (states n e)) ↔ (before.filter (q.stuck (states 0))).length < limit := by
  have hme : e ∈ before ++ e :: after := List.mem_append_right _ List.mem_cons_self
  rw [← h.reached_iff hnodup he]
  constructor
  · rintro ⟨n, hn⟩
    by_contra hnever
    have hstays : states n e = states 0 e := by
      clear hn
      induction n with
      | zero => rfl
      | succ n ih => rw [h.next n e hme, if_neg fun hpage => hnever ⟨n, hpage⟩, ih]
    exact hnot (hstays ▸ hn)
  · rintro ⟨n, hn⟩
    refine ⟨n + 1, ?_⟩
    rw [h.next n e hme, if_pos hn]
    rcases h.cases hme n with hsame | hsame
    · rw [hsame]
      exact hvisit
    · rw [hsame, q.visit_visit]
      exact hvisit

end Run

end Core.Sweeps
