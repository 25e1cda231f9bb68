import Mathlib.Data.List.Nodup

/-!
# Insertion-ordered dictionaries

`Dict κ β` is a finite map that remembers the order in which its keys were
first inserted: assigning to a key that is there replaces the value in place,
assigning to a new key appends. It is what a Python `dict` is, and what a
database table with a primary key is when rows are listed by insertion. The
entries carry the proof that no key occurs twice.

* `get?_set`, `get?_erase`: lookups after an update;
* `set_get?_self`, `set_set`, `erase_of_none`: the laws a hand-written rollback
  (`d[k] = old`, `d.pop(k)`) relies on;
* `values_set_of_none`, `mem_values`: the values as a list.

`Table key` is a dictionary whose values carry their own key: it cannot hold a
value under another one.
-/
namespace Core

variable {κ β γ : Type} [DecidableEq κ]

namespace Assoc

def find : List (κ × β) → κ → Option β
  | [], _ => none
  | (k', v) :: l, k => if k' = k then some v else find l k

def put : List (κ × β) → κ → β → List (κ × β)
  | [], k, v => [(k, v)]
  | (k', v') :: l, k, v => if k' = k then (k, v) :: l else (k', v') :: put l k v

def drop (l : List (κ × β)) (k : κ) : List (κ × β) := l.filter (fun p => !decide (p.1 = k))

theorem find_put (l : List (κ × β)) (k : κ) (v : β) (k' : κ) :
    find (put l k v) k' = if k = k' then some v else find l k' := by
  induction l with
  | nil => simp [put, find]
  | cons p l ih =>
    obtain ⟨kp, vp⟩ := p
    unfold put
    by_cases h : kp = k
    · subst h
      by_cases hk : kp = k' <;> simp [find, hk]
    · rw [if_neg h, find, ih]
      by_cases hp : kp = k'
      · have hk : k ≠ k' := fun e => h (hp.trans e.symm)
        simp [find, hp, hk]
      · simp [find, hp]

theorem find_eq_none (l : List (κ × β)) (k : κ) : find l k = none ↔ k ∉ l.map Prod.fst := by
  induction l with
  | nil => simp [find]
  | cons p l ih =>
    obtain ⟨kp, vp⟩ := p
    by_cases h : kp = k
    · simp [find, h]
    · simp [find, h, ih, Ne.symm h]

theorem keys_put (l : List (κ × β)) (k : κ) (v : β) :
    (put l k v).map Prod.fst =
      if k ∈ l.map Prod.fst then l.map Prod.fst else l.map Prod.fst ++ [k] := by
  induction l with
  | nil => simp [put]
  | cons p l ih =>
    obtain ⟨kp, vp⟩ := p
    unfold put
    by_cases h : kp = k
    · simp [h]
    · rw [if_neg h, List.map_cons, ih]
      by_cases hm : k ∈ l.map Prod.fst
      · simp [hm]
      · have hne : k ≠ kp := Ne.symm h
        simp only [hm, if_false, List.map_cons, List.mem_cons, hne, or_self, List.cons_append]

theorem nodup_put {l : List (κ × β)} (h : (l.map Prod.fst).Nodup) (k : κ) (v : β) :
    ((put l k v).map Prod.fst).Nodup := by
  rw [keys_put]
  split
  · exact h
  · next hk =>
    refine List.nodup_append.2 ⟨h, List.nodup_singleton k, ?_⟩
    intro a ha b hb e
    rw [List.mem_singleton.1 hb] at e
    exact hk (e ▸ ha)

theorem put_of_none {l : List (κ × β)} {k : κ} (h : find l k = none) (v : β) :
    put l k v = l ++ [(k, v)] := by
  induction l with
  | nil => rfl
  | cons p l ih =>
    obtain ⟨kp, vp⟩ := p
    by_cases hk : kp = k
    · simp [find, hk] at h
    · simp only [find, hk, if_false] at h
      simp [put, hk, ih h]

theorem put_find {l : List (κ × β)} {k : κ} {v : β} (h : find l k = some v) : put l k v = l := by
  induction l with
  | nil => simp [find] at h
  | cons p l ih =>
    obtain ⟨kp, vp⟩ := p
    by_cases hk : kp = k
    · simp only [find, hk, if_true, Option.some.injEq] at h
      simp [put, hk, h]
    · simp only [find, hk, if_false] at h
      simp [put, hk, ih h]

theorem put_put (l : List (κ × β)) (k : κ) (v w : β) : put (put l k v) k w = put l k w := by
  induction l with
  | nil => simp [put]
  | cons p l ih =>
    obtain ⟨kp, vp⟩ := p
    by_cases hk : kp = k
    · simp [put, hk]
    · simp [put, hk, ih]

theorem find_drop (l : List (κ × β)) (k k' : κ) :
    find (drop l k) k' = if k = k' then none else find l k' := by
  induction l with
  | nil => simp [drop, find]
  | cons p l ih =>
    obtain ⟨kp, vp⟩ := p
    unfold drop at ih ⊢
    by_cases h : kp = k
    · subst h
      by_cases hk : kp = k' <;> simp_all [find]
    · by_cases hk : k = k'
      · subst hk
        simpa [h, find] using ih
      · simp only [hk, if_false] at ih
        simp [h, find, ih, hk]

theorem drop_of_none {l : List (κ × β)} {k : κ} (h : find l k = none) : drop l k = l := by
  rw [find_eq_none] at h
  refine List.filter_eq_self.2 fun p hp => ?_
  simp only [Bool.not_eq_true', decide_eq_false_iff_not]
  intro e
  exact h (List.mem_map.2 ⟨p, hp, e⟩)

theorem mem_find {l : List (κ × β)} (h : (l.map Prod.fst).Nodup) (k : κ) (v : β) :
    (k, v) ∈ l ↔ find l k = some v := by
  induction l with
  | nil => simp [find]
  | cons p l ih =>
    obtain ⟨kp, vp⟩ := p
    rw [List.map_cons, List.nodup_cons] at h
    by_cases hk : kp = k
    · subst hk
      have hn : (kp, v) ∉ l := fun hm => h.1 (List.mem_map.2 ⟨(kp, v), hm, rfl⟩)
      simp [find, hn, eq_comm]
    · simp [find, hk, ih h.2, Ne.symm hk]

end Assoc

/-- A finite map with the order of first insertion; `nodup`: no key twice. -/
structure Dict (κ β : Type) where
  entries : List (κ × β)
  nodup : (entries.map Prod.fst).Nodup

namespace Dict

instance [DecidableEq β] : DecidableEq (Dict κ β) := fun a b =>
  decidable_of_iff (a.entries = b.entries) (by cases a; cases b; simp)

omit [DecidableEq κ] in
@[ext] theorem ext' {a b : Dict κ β} (h : a.entries = b.entries) : a = b := by
  cases a; cases b; simp_all

def empty : Dict κ β := ⟨[], List.nodup_nil⟩

def get? (d : Dict κ β) (k : κ) : Option β := Assoc.find d.entries k

/-- `d[k] = v`. -/
def set (d : Dict κ β) (k : κ) (v : β) : Dict κ β :=
  ⟨Assoc.put d.entries k v, Assoc.nodup_put d.nodup k v⟩

/-- `d.pop(k, None)`. -/
def erase (d : Dict κ β) (k : κ) : Dict κ β :=
  ⟨Assoc.drop d.entries k, (List.filter_sublist.map Prod.fst).nodup d.nodup⟩

def values (d : Dict κ β) : List β := d.entries.map Prod.snd

def contains (d : Dict κ β) (k : κ) : Bool := (d.get? k).isSome

@[simp] theorem get?_empty (k : κ) : (empty : Dict κ β).get? k = none := rfl

theorem get?_set (d : Dict κ β) (k : κ) (v : β) (k' : κ) :
    (d.set k v).get? k' = if k = k' then some v else d.get? k' := Assoc.find_put ..

@[simp] theorem get?_set_self (d : Dict κ β) (k : κ) (v : β) : (d.set k v).get? k = some v := by
  rw [get?_set, if_pos rfl]

theorem get?_set_ne (d : Dict κ β) {k k' : κ} (v : β) (h : k ≠ k') :
    (d.set k v).get? k' = d.get? k' := by
  rw [get?_set, if_neg h]

theorem get?_erase (d : Dict κ β) (k k' : κ) :
    (d.erase k).get? k' = if k = k' then none else d.get? k' := Assoc.find_drop ..

theorem set_get?_self {d : Dict κ β} {k : κ} {v : β} (h : d.get? k = some v) : d.set k v = d :=
  ext' (Assoc.put_find h)

@[simp] theorem set_set (d : Dict κ β) (k : κ) (v w : β) : (d.set k v).set k w = d.set k w :=
  ext' (Assoc.put_put ..)

theorem erase_of_none {d : Dict κ β} {k : κ} (h : d.get? k = none) : d.erase k = d :=
  ext' (Assoc.drop_of_none h)

theorem values_set_of_none {d : Dict κ β} {k : κ} (h : d.get? k = none) (v : β) :
    (d.set k v).values = d.values ++ [v] := by
  simp only [values, set, Assoc.put_of_none h, List.map_append, List.map_cons, List.map_nil]

def filter (d : Dict κ β) (test : κ → β → Bool) : Dict κ β :=
  ⟨d.entries.filter fun p => test p.1 p.2, (List.filter_sublist.map Prod.fst).nodup d.nodup⟩

theorem mem_entries (d : Dict κ β) (k : κ) (v : β) : (k, v) ∈ d.entries ↔ d.get? k = some v :=
  Assoc.mem_find d.nodup k v

theorem get?_filter (d : Dict κ β) (test : κ → β → Bool) (k : κ) :
    (d.filter test).get? k = (d.get? k).filter (test k) := by
  apply Option.ext
  intro v
  rw [Option.filter_eq_some_iff, ← mem_entries, ← mem_entries]
  exact List.mem_filter

theorem mem_values (d : Dict κ β) (v : β) : v ∈ d.values ↔ ∃ k, d.get? k = some v := by
  simp only [values, List.mem_map, Prod.exists, exists_eq_right, mem_entries]

/-- The entries are given by the keys, in their order, and the lookups. -/
theorem entries_eq (d : Dict κ β) :
    d.entries = (d.entries.map Prod.fst).filterMap fun k => (d.get? k).map (Prod.mk k) := by
  rw [List.filterMap_map]
  have hself : ∀ p ∈ d.entries, (d.get? p.1).map (Prod.mk p.1) = some p := by
    intro p hp
    rw [(d.mem_entries p.1 p.2).1 hp]
    rfl
  conv_lhs => rw [← List.filterMap_some (l := d.entries)]
  exact List.filterMap_congr fun p hp => (hself p hp).symm

/-- Two dictionaries with the same keys, in the same order, and the same lookups. -/
theorem ext_get? {d d' : Dict κ β} (hk : d.entries.map Prod.fst = d'.entries.map Prod.fst)
    (h : ∀ k, d.get? k = d'.get? k) : d = d' := by
  apply ext'
  rw [d.entries_eq, d'.entries_eq, hk]
  simp only [h]

theorem keys_set {d : Dict κ β} {k : κ} {v w : β} (h : d.get? k = some w) :
    (d.set k v).entries.map Prod.fst = d.entries.map Prod.fst := by
  have hmem : k ∈ d.entries.map Prod.fst := List.mem_map.2 ⟨(k, w), (d.mem_entries k w).2 h, rfl⟩
  simp only [set, Assoc.keys_put, if_pos hmem]

theorem contains_iff (d : Dict κ β) (k : κ) : d.contains k = true ↔ ∃ v, d.get? k = some v := by
  simp [contains, Option.isSome_iff_exists]

end Dict

structure Table (key : β → κ) extends Dict κ β where
  keyed : ∀ p ∈ entries, key p.2 = p.1

namespace Table

variable {key : β → κ}

instance [DecidableEq β] : DecidableEq (Table key) := fun a b =>
  decidable_of_iff (a.toDict = b.toDict) (by cases a; cases b; simp)

def empty : Table key := ⟨.empty, by simp [Dict.empty]⟩

def get? (t : Table key) (k : κ) : Option β := t.toDict.get? k

def values (t : Table key) : List β := t.toDict.values

def contains (t : Table key) (k : κ) : Bool := (t.get? k).isSome

theorem key_of_get? {t : Table key} {k : κ} {v : β} (h : t.get? k = some v) : key v = k :=
  t.keyed (k, v) ((t.toDict.mem_entries k v).2 h)

def put (t : Table key) (v : β) : Table key where
  toDict := t.toDict.set (key v) v
  keyed := by
    rintro ⟨k, w⟩ hp
    rw [Dict.mem_entries, Dict.get?_set] at hp
    split at hp
    · next hk => cases hp; exact hk
    · exact key_of_get? hp

def erase (t : Table key) (k : κ) : Table key where
  toDict := t.toDict.erase k
  keyed := fun p hp => t.keyed p (List.mem_of_mem_filter hp)

omit [DecidableEq κ] in
@[ext] theorem ext' {a b : Table key} (h : a.toDict = b.toDict) : a = b := by
  cases a; cases b; simp_all

@[simp] theorem get?_empty (k : κ) : (empty : Table key).get? k = none := rfl

theorem get?_put (t : Table key) (v : β) (k : κ) :
    (t.put v).get? k = if key v = k then some v else t.get? k := t.toDict.get?_set ..

@[simp] theorem get?_put_self (t : Table key) (v : β) : (t.put v).get? (key v) = some v := by
  rw [get?_put, if_pos rfl]

theorem get?_put_ne (t : Table key) {v : β} {k : κ} (h : key v ≠ k) :
    (t.put v).get? k = t.get? k := by
  rw [get?_put, if_neg h]

theorem get?_erase (t : Table key) (k k' : κ) :
    (t.erase k).get? k' = if k = k' then none else t.get? k' := t.toDict.get?_erase ..

theorem put_get?_self {t : Table key} {k : κ} {v : β} (h : t.get? k = some v) : t.put v = t := by
  apply ext'
  have hk : key v = k := key_of_get? h
  exact Dict.set_get?_self (by rw [hk]; exact h)

theorem put_put (t : Table key) {v w : β} (h : key v = key w) : (t.put v).put w = t.put w := by
  apply ext'
  simp [put, h]

theorem values_put_of_none {t : Table key} {v : β} (h : t.get? (key v) = none) :
    (t.put v).values = t.values ++ [v] := Dict.values_set_of_none h v

theorem mem_values (t : Table key) (v : β) : v ∈ t.values ↔ t.get? (key v) = some v := by
  rw [values, Dict.mem_values]
  constructor
  · rintro ⟨k, hk⟩
    have : key v = k := key_of_get? hk
    rw [this]
    exact hk
  · exact fun h => ⟨_, h⟩

theorem eq_of_key {t : Table key} {v w : β} (hv : v ∈ t.values) (hw : w ∈ t.values)
    (h : key v = key w) : v = w := by
  have hget := (mem_values t v).1 hv
  rw [h, (mem_values t w).1 hw] at hget
  exact (Option.some.inj hget).symm

omit [DecidableEq κ] in
theorem keys_nodup (t : Table key) : (t.values.map key).Nodup := by
  have hkeys : t.values.map key = t.entries.map Prod.fst := by
    rw [values, Dict.values, List.map_map]
    exact List.map_congr_left fun p hp => t.keyed p hp
  rw [hkeys]
  exact t.nodup

omit [DecidableEq κ] in
theorem values_nodup (t : Table key) : t.values.Nodup := t.keys_nodup.of_map key

theorem mem_values_put {t : Table key} {v w : β} (h : w ∈ (t.put v).values) :
    w = v ∨ w ∈ t.values := by
  rw [mem_values, get?_put] at h
  split at h
  · exact .inl (Option.some.inj h).symm
  · exact .inr ((t.mem_values w).2 h)

theorem ext_get? {t t' : Table key} (hk : t.entries.map Prod.fst = t'.entries.map Prod.fst)
    (h : ∀ k, t.get? k = t'.get? k) : t = t' := ext' (Dict.ext_get? hk h)

theorem keys_put {t : Table key} {v w : β} (h : t.get? (key v) = some w) :
    (t.put v).entries.map Prod.fst = t.entries.map Prod.fst := Dict.keys_set h

def mapValues (t : Table key) (f : β → β) (hf : ∀ v, key (f v) = key v) : Table key where
  entries := t.entries.map fun p => (p.1, f p.2)
  nodup := by
    have hkeys : (t.entries.map fun p => (p.1, f p.2)).map Prod.fst = t.entries.map Prod.fst := by
      simp
    rw [hkeys]
    exact t.nodup
  keyed := by
    intro p hp
    obtain ⟨q, hq, rfl⟩ := List.mem_map.1 hp
    exact (hf q.2).trans (t.keyed q hq)

omit [DecidableEq κ] in
theorem keys_mapValues (t : Table key) (f : β → β) (hf : ∀ v, key (f v) = key v) :
    (t.mapValues f hf).entries.map Prod.fst = t.entries.map Prod.fst := by
  simp [mapValues]

theorem get?_mapValues (t : Table key) (f : β → β) (hf : ∀ v, key (f v) = key v) (k : κ) :
    (t.mapValues f hf).get? k = (t.get? k).map f := by
  show Assoc.find (t.entries.map fun p => (p.1, f p.2)) k = (Assoc.find t.entries k).map f
  induction t.entries with
  | nil => rfl
  | cons p l ih =>
    obtain ⟨kp, vp⟩ := p
    by_cases hk : kp = k
    · simp [Assoc.find, hk]
    · simpa [Assoc.find, hk] using ih

omit [DecidableEq κ] in
theorem values_mapValues (t : Table key) (f : β → β) (hf : ∀ v, key (f v) = key v) :
    (t.mapValues f hf).values = t.values.map f := by
  show (t.entries.map fun p => (p.1, f p.2)).map Prod.snd = (t.entries.map Prod.snd).map f
  simp

def filter (t : Table key) (test : β → Bool) : Table key where
  entries := t.entries.filter fun p => test p.2
  nodup := (List.filter_sublist.map Prod.fst).nodup t.nodup
  keyed p hp := t.keyed p (List.mem_of_mem_filter hp)

theorem get?_filter (t : Table key) (test : β → Bool) (k : κ) :
    (t.filter test).get? k = (t.get? k).filter test := by
  apply Option.ext
  intro v
  rw [Option.filter_eq_some_iff]
  show (t.filter test).toDict.get? k = some v ↔ t.toDict.get? k = some v ∧ _
  rw [← Dict.mem_entries, ← Dict.mem_entries]
  exact List.mem_filter

def putOption (t : Table key) : Option β → Table key
  | none => t
  | some v => t.put v

@[simp] theorem putOption_none (t : Table key) : t.putOption none = t := rfl

@[simp] theorem putOption_some (t : Table key) (v : β) : t.putOption (some v) = t.put v := rfl

theorem contains_eq_false (t : Table key) (k : κ) : t.contains k = false ↔ t.get? k = none := by
  simp [contains]

end Table
end Core
