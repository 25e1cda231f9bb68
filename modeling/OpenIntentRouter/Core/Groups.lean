import Mathlib.Data.List.Nodup

/-!
# Groups of a list

The elements of a list that have a key, grouped by it in the order of the first of each
group.

* `flatMap_groups_perm`: what is taken out of all groups, each by a test of its own.
-/
namespace Core.Groups

variable {α κ : Type}

theorem filter_append_filter_perm {p q : α → Bool} {l : List α}
    (h : ∀ a ∈ l, p a = true → q a = false) :
    (l.filter p ++ l.filter q).Perm (l.filter fun a => p a || q a) := by
  induction l with
  | nil => exact List.Perm.refl _
  | cons a l ih =>
    have ih := ih fun b hb => h b (List.mem_cons_of_mem a hb)
    by_cases hp : p a = true
    · have hq := h a List.mem_cons_self hp
      simpa [List.filter_cons, hp, hq] using ih
    · by_cases hq : q a = true
      · simp only [List.filter_cons, hp, hq, Bool.or_true, if_true]
        exact List.perm_middle.trans (ih.cons a)
      · simpa [List.filter_cons, hp, hq] using ih

/-- What passes the narrower of two tests, only the wider, or neither. -/
theorem filter_split_perm {t r : α → Bool} {l : List α} (h : ∀ a ∈ l, t a = true → r a = true) :
    (l.filter t ++ (l.filter (fun a => r a && !t a) ++ l.filter fun a => !r a)).Perm l := by
  have hrest : (l.filter (fun a => r a && !t a) ++ l.filter fun a => !r a).Perm
      (l.filter fun a => !t a) := by
    refine (filter_append_filter_perm fun a _ ha => ?_).trans
      (List.Perm.of_eq (List.filter_congr fun a ha => ?_))
    · simp only [Bool.and_eq_true] at ha
      simp [ha.1]
    · have := h a ha
      cases ht : t a <;> cases hr : r a <;> simp_all
  exact (hrest.append_left _).trans (List.filter_append_perm t l)

variable [DecidableEq κ]

theorem eraseDups_nodup (l : List κ) : l.eraseDups.Nodup := by
  induction h : l.length using Nat.strongRecOn generalizing l with
  | _ n ih =>
    cases l with
    | nil => exact List.nodup_nil
    | cons a l =>
      rw [List.eraseDups_cons, List.nodup_cons]
      constructor
      · rw [List.mem_eraseDups, List.mem_filter]
        simp
      · refine ih _ ?_ _ rfl
        have := List.length_filter_le (fun b => !b == a) l
        simp only [List.length_cons] at h
        omega

theorem flatMap_keys_perm (key : α → Option κ) (test : κ → α → Bool) (l : List α) {keys : List κ}
    (hkeys : keys.Nodup) :
    (keys.flatMap fun k => (l.filter fun a => key a = some k).filter (test k)).Perm
      (l.filter fun a => (key a).any fun k => k ∈ keys ∧ test k a) := by
  induction keys with
  | nil => simp
  | cons k keys ih =>
    obtain ⟨hk, hkeys⟩ := List.nodup_cons.1 hkeys
    rw [List.flatMap_cons, List.filter_filter]
    refine ((ih hkeys).append_left _).trans ((filter_append_filter_perm ?_).trans ?_)
    · intro a _ ha
      simp only [Bool.and_eq_true, decide_eq_true_eq] at ha
      simp [ha.2, hk]
    · refine List.Perm.of_eq (List.filter_congr fun a _ => ?_)
      cases hkey : key a with
      | none => simp
      | some k' =>
        by_cases heq : k' = k
        · subst heq
          simp [hk]
        · simp [heq]

/-- What is taken out of the groups is what passes the test of its own group. -/
theorem flatMap_groups_perm (key : α → Option κ) (test : κ → α → Bool) (l : List α) :
    ((l.filterMap key).eraseDups.flatMap fun k =>
        (l.filter fun a => key a = some k).filter (test k)).Perm
      (l.filter fun a => (key a).any fun k => test k a) := by
  refine (flatMap_keys_perm key test l (eraseDups_nodup _)).trans
    (List.Perm.of_eq (List.filter_congr fun a ha => ?_))
  cases hkey : key a with
  | none => rfl
  | some k =>
    have hmem : ∃ b ∈ l, key b = some k := ⟨a, ha, hkey⟩
    simp [hmem]

end Core.Groups
