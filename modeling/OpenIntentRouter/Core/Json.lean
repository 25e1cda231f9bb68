import Mathlib.Data.Rat.Init

/-!
# JSON values

The values that `json.loads` builds. Numbers are exact rationals, so `pyEq` is
Python's `==` on them (`True == 1 == 1.0`); objects are compared without their
order, as Python compares `dict`s. `DecidableEq` is equality with the order.
-/
namespace Core

inductive Json where
  | null
  | bool (b : Bool)
  | num (q : Rat)
  | str (s : String)
  | arr (items : List Json)
  | obj (fields : List (String × Json))
  deriving Repr

variable {key : String} {value : Json} {fields : List (String × Json)}

namespace Json

mutual

def decEq : (a b : Json) → Decidable (a = b)
  | .null, .null => isTrue rfl
  | .bool a, .bool b => decidable_of_iff (a = b) (by simp)
  | .num a, .num b => decidable_of_iff (a = b) (by simp)
  | .str a, .str b => decidable_of_iff (a = b) (by simp)
  | .arr a, .arr b => @decidable_of_iff _ (a = b) (by simp) (decEqItems a b)
  | .obj a, .obj b => @decidable_of_iff _ (a = b) (by simp) (decEqFields a b)
  | .null, .bool _ | .null, .num _ | .null, .str _ | .null, .arr _ | .null, .obj _ =>
    isFalse (by simp)
  | .bool _, .null | .bool _, .num _ | .bool _, .str _ | .bool _, .arr _ | .bool _, .obj _ =>
    isFalse (by simp)
  | .num _, .null | .num _, .bool _ | .num _, .str _ | .num _, .arr _ | .num _, .obj _ =>
    isFalse (by simp)
  | .str _, .null | .str _, .bool _ | .str _, .num _ | .str _, .arr _ | .str _, .obj _ =>
    isFalse (by simp)
  | .arr _, .null | .arr _, .bool _ | .arr _, .num _ | .arr _, .str _ | .arr _, .obj _ =>
    isFalse (by simp)
  | .obj _, .null | .obj _, .bool _ | .obj _, .num _ | .obj _, .str _ | .obj _, .arr _ =>
    isFalse (by simp)

def decEqItems : (a b : List Json) → Decidable (a = b)
  | [], [] => isTrue rfl
  | x :: xs, y :: ys =>
    match decEq x y, decEqItems xs ys with
    | isTrue h, isTrue t => isTrue (by rw [h, t])
    | isFalse h, _ => isFalse (by simp [h])
    | _, isFalse t => isFalse (by simp [t])
  | [], _ :: _ => isFalse (by simp)
  | _ :: _, [] => isFalse (by simp)

def decEqFields : (a b : List (String × Json)) → Decidable (a = b)
  | [], [] => isTrue rfl
  | (k, x) :: xs, (l, y) :: ys =>
    if hk : k = l then
      match decEq x y, decEqFields xs ys with
      | isTrue h, isTrue t => isTrue (by rw [hk, h, t])
      | isFalse h, _ => isFalse (by simp [h])
      | _, isFalse t => isFalse (by simp [t])
    else isFalse (by simp [hk])
  | [], _ :: _ => isFalse (by simp)
  | _ :: _, [] => isFalse (by simp)

end

instance : DecidableEq Json := decEq

def boolNum (b : Bool) : Rat := if b then 1 else 0

/-- Value of a key, `d.get(key)` of a Python `dict`. -/
def field (fields : List (String × Json)) (key : String) : Option Json :=
  match fields with
  | [] => none
  | (k, v) :: rest => if k = key then some v else field rest key

mutual

/-- Python's `==`. -/
def pyEq : Json → Json → Bool
  | .null, .null => true
  | .bool a, .bool b => a = b
  | .bool a, .num q => boolNum a = q
  | .num p, .bool b => p = boolNum b
  | .num p, .num q => p = q
  | .str a, .str b => a = b
  | .arr a, .arr b => pyEqItems a b
  | .obj a, .obj b => a.length = b.length && pyEqFields a b
  | _, _ => false

def pyEqItems : List Json → List Json → Bool
  | [], [] => true
  | a :: as, b :: bs => pyEq a b && pyEqItems as bs
  | _, _ => false

def pyEqFields : List (String × Json) → List (String × Json) → Bool
  | [], _ => true
  | (k, v) :: rest, other =>
    (match field other k with
    | some w => pyEq v w
    | none => false) && pyEqFields rest other

end

/-- Python's `bool(value)`. -/
def truthy : Json → Bool
  | .null => false
  | .bool b => b
  | .num q => q ≠ 0
  | .str s => s ≠ ""
  | .arr l => l ≠ []
  | .obj l => l ≠ []

mutual

/-- No object in the value has a key twice, as in every value that `json.loads` builds. -/
def distinctKeys : Json → Bool
  | .null | .bool _ | .num _ | .str _ => true
  | .arr items => distinctKeysItems items
  | .obj fields => decide (fields.map Prod.fst).Nodup && distinctKeysFields fields

def distinctKeysItems : List Json → Bool
  | [] => true
  | item :: rest => distinctKeys item && distinctKeysItems rest

def distinctKeysFields : List (String × Json) → Bool
  | [] => true
  | (_, item) :: rest => distinctKeys item && distinctKeysFields rest

end

@[simp] theorem distinctKeys_null : distinctKeys .null = true := rfl

@[simp] theorem distinctKeys_bool (b : Bool) : distinctKeys (.bool b) = true := rfl

@[simp] theorem distinctKeys_num (q : Rat) : distinctKeys (.num q) = true := rfl

@[simp] theorem distinctKeys_str (s : String) : distinctKeys (.str s) = true := rfl

theorem field_of_mem (h : (fields.map Prod.fst).Nodup) (hm : (key, value) ∈ fields) :
    field fields key = some value := by
  induction fields with
  | nil => cases hm
  | cons p rest ih =>
    obtain ⟨k, v⟩ := p
    rw [List.map_cons, List.nodup_cons] at h
    rcases List.mem_cons.1 hm with he | hm
    · cases he
      simp [field]
    · have hne : k ≠ key := by
        rintro rfl
        exact h.1 (List.mem_map.2 ⟨_, hm, rfl⟩)
      simpa [field, hne] using ih h.2 hm

theorem mem_of_field (h : field fields key = some value) : (key, value) ∈ fields := by
  induction fields with
  | nil => cases h
  | cons p rest ih =>
    obtain ⟨k, v⟩ := p
    rw [field] at h
    split at h
    · next hk =>
      cases h
      rw [hk]
      exact List.mem_cons_self
    · exact List.mem_cons_of_mem _ (ih h)

theorem field_filter {f : String → Bool} (h : f key = true) (fields : List (String × Json)) :
    field (fields.filter fun p => f p.1) key = field fields key := by
  induction fields with
  | nil => rfl
  | cons p rest ih =>
    obtain ⟨k, v⟩ := p
    by_cases hk : k = key
    · subst hk
      simp [field, h]
    · rw [List.filter_cons]
      split <;> simpa [field, hk] using ih

theorem distinctKeysFields_iff :
    distinctKeysFields fields = true ↔ ∀ p ∈ fields, distinctKeys p.2 = true := by
  induction fields with
  | nil => simp [distinctKeysFields]
  | cons p rest ih => simp [distinctKeysFields, ih]

theorem distinctKeysItems_iff {items : List Json} :
    distinctKeysItems items = true ↔ ∀ item ∈ items, distinctKeys item = true := by
  induction items with
  | nil => simp [distinctKeysItems]
  | cons item rest ih => simp [distinctKeysItems, ih]

theorem distinctKeys_obj :
    distinctKeys (.obj fields) = true ↔
      (fields.map Prod.fst).Nodup ∧ ∀ p ∈ fields, distinctKeys p.2 = true := by
  rw [distinctKeys, Bool.and_eq_true, decide_eq_true_eq, distinctKeysFields_iff]

mutual

/-- A value is `==` to itself. -/
theorem pyEq_refl {j : Json} (h : j.distinctKeys = true) : pyEq j j = true := by
  cases j with
  | null => rfl
  | bool b => simp [pyEq]
  | num q => simp [pyEq]
  | str s => simp [pyEq]
  | arr items =>
    rw [pyEq]
    exact pyEqItems_refl h
  | obj fields =>
    rw [distinctKeys, Bool.and_eq_true, decide_eq_true_eq] at h
    rw [pyEq, decide_eq_true rfl, Bool.true_and]
    exact pyEqFields_of_field h.2 fun p hp => field_of_mem h.1 hp

theorem pyEqItems_refl {items : List Json} (h : distinctKeysItems items = true) :
    pyEqItems items items = true := by
  cases items with
  | nil => rfl
  | cons item rest =>
    rw [distinctKeysItems, Bool.and_eq_true] at h
    rw [pyEqItems, pyEq_refl h.1, pyEqItems_refl h.2]
    rfl

theorem pyEqFields_of_field {fields other : List (String × Json)}
    (h : distinctKeysFields fields = true) (hf : ∀ p ∈ fields, field other p.1 = some p.2) :
    pyEqFields fields other = true := by
  cases fields with
  | nil => rfl
  | cons p rest =>
    obtain ⟨key, value⟩ := p
    rw [distinctKeysFields, Bool.and_eq_true] at h
    have hv : field other key = some value := hf (key, value) List.mem_cons_self
    have hrest := pyEqFields_of_field h.2 fun q hq => hf q (List.mem_cons_of_mem _ hq)
    rw [pyEqFields, hv, hrest]
    simp only [pyEq_refl h.1, Bool.and_self]

end

end Json

/-- A JSON object, Python's `dict[str, Any]`. -/
abbrev JsonDict := List (String × Json)

variable {d other a b : JsonDict}

namespace JsonDict

/-- `d[key] = value`. -/
def set : JsonDict → String → Json → JsonDict
  | [], key, value => [(key, value)]
  | (k, v) :: rest, key, value =>
    if k = key then (key, value) :: rest else (k, v) :: set rest key value

theorem field_set_self (d : JsonDict) (key : String) (value : Json) :
    Json.field (set d key value) key = some value := by
  induction d with
  | nil => simp [set, Json.field]
  | cons p rest ih =>
    obtain ⟨k, v⟩ := p
    by_cases hk : k = key
    · simp [set, Json.field, hk]
    · simpa [set, Json.field, hk] using ih

theorem field_set_ne (d : JsonDict) {key' : String} (value : Json) (h : key ≠ key') :
    Json.field (set d key value) key' = Json.field d key' := by
  induction d with
  | nil => simp [set, Json.field, h]
  | cons p rest ih =>
    obtain ⟨k, v⟩ := p
    by_cases hk : k = key
    · subst hk
      simp [set, Json.field, h]
    · by_cases hk' : k = key'
      · subst hk'
        simp [set, Json.field, hk]
      · simpa [set, Json.field, hk, hk'] using ih

/-- `{**d, **other}`. -/
def merge (d other : JsonDict) : JsonDict := other.foldl (fun d p => set d p.1 p.2) d

/-- Python's `==` of two `dict`s. -/
def pyEq (a b : JsonDict) : Bool := Json.pyEq (.obj a) (.obj b)

/-- Python's `==` of two values of type `dict | None`. -/
def pyEqOption : Option JsonDict → Option JsonDict → Bool
  | none, none => true
  | some a, some b => pyEq a b
  | _, _ => false

theorem pyEq_refl (h : (Json.obj d).distinctKeys = true) : pyEq d d = true :=
  Json.pyEq_refl h

/-- `==` to an object of one string field. -/
theorem pyEq_single {s : String} (h : pyEq d [(key, .str s)] = true) : d = [(key, .str s)] := by
  rw [pyEq, Json.pyEq, Bool.and_eq_true, decide_eq_true_eq] at h
  obtain ⟨hl, hf⟩ := h
  obtain ⟨p, rfl⟩ := List.length_eq_one_iff.1 hl
  obtain ⟨k, v⟩ := p
  rw [Json.pyEqFields, Bool.and_eq_true] at hf
  by_cases hk : key = k
  · subst hk
    cases v <;> simp_all [Json.field, Json.pyEq]
  · simp [Json.field, hk] at hf

theorem mem_set {p : String × Json} (h : p ∈ set d key value) : p = (key, value) ∨ p ∈ d := by
  induction d with
  | nil => exact .inl (List.mem_singleton.1 h)
  | cons q rest ih =>
    obtain ⟨k, v⟩ := q
    rw [set] at h
    split at h
    · rcases List.mem_cons.1 h with h | h
      · exact .inl h
      · exact .inr (List.mem_cons_of_mem _ h)
    · rcases List.mem_cons.1 h with h | h
      · exact .inr (h ▸ List.mem_cons_self)
      · exact (ih h).imp_right (List.mem_cons_of_mem _)

theorem set_keys (d : JsonDict) (key : String) (value : Json) :
    (set d key value).map Prod.fst =
      if key ∈ d.map Prod.fst then d.map Prod.fst else d.map Prod.fst ++ [key] := by
  induction d with
  | nil => rfl
  | cons p rest ih =>
    obtain ⟨k, v⟩ := p
    by_cases hk : k = key
    · simp [set, hk]
    · have hk' : ¬key = k := fun h => hk h.symm
      rw [set, if_neg hk, List.map_cons, ih]
      by_cases hmem : key ∈ rest.map Prod.fst
      · simp only [List.map_cons, List.mem_cons, hmem, or_true, if_true]
      · simp only [List.map_cons, List.mem_cons, hmem, hk', or_self, if_false, List.cons_append]

theorem distinctKeys_set (h : (Json.obj d).distinctKeys = true) (key : String)
    (hv : value.distinctKeys = true) : (Json.obj (set d key value)).distinctKeys = true := by
  obtain ⟨hkeys, hvalues⟩ := Json.distinctKeys_obj.1 h
  refine Json.distinctKeys_obj.2 ⟨?_, fun p hp => ?_⟩
  · rw [set_keys]
    split
    · exact hkeys
    · next hmem =>
      refine List.nodup_append.2 ⟨hkeys, by simp, fun a ha b hb hab => hmem ?_⟩
      rwa [← List.mem_singleton.1 hb, ← hab]
  · rcases mem_set hp with rfl | hp
    · exact hv
    · exact hvalues p hp

theorem distinctKeys_merge (h : (Json.obj d).distinctKeys = true)
    (hother : ∀ p ∈ other, p.2.distinctKeys = true) :
    (Json.obj (merge d other)).distinctKeys = true := by
  unfold merge
  induction other generalizing d with
  | nil => exact h
  | cons p rest ih =>
    exact ih (distinctKeys_set h p.1 (hother p List.mem_cons_self))
      fun q hq => hother q (List.mem_cons_of_mem _ hq)

theorem field_merge_ne (h : key ∉ other.map Prod.fst) :
    Json.field (merge d other) key = Json.field d key := by
  unfold merge
  induction other generalizing d with
  | nil => rfl
  | cons p rest ih =>
    rw [List.map_cons, List.mem_cons, not_or] at h
    rw [List.foldl_cons, ih h.2, field_set_ne d p.2 (Ne.symm h.1)]

/-- Every entry of an object that is `==` to another is `==` to a field there. -/
theorem mem_pyEq (h : pyEq a b = true) (hmem : (key, value) ∈ a) :
    ∃ other, Json.field b key = some other ∧ Json.pyEq value other = true := by
  rw [pyEq, Json.pyEq, Bool.and_eq_true] at h
  have hall := h.2
  clear h
  induction a with
  | nil => cases hmem
  | cons p rest ih =>
    obtain ⟨k, v⟩ := p
    rw [Json.pyEqFields, Bool.and_eq_true] at hall
    rcases List.mem_cons.1 hmem with hp | hp
    · cases hp
      have hfield := hall.1
      split at hfield
      · next other hother => exact ⟨other, hother, hfield⟩
      · cases hfield
    · exact ih hp hall.2

/-- A field of an object that is `==` to another is `==` to the field there. -/
theorem field_of_pyEq (h : pyEq a b = true) (ha : Json.field a key = some value) :
    ∃ other, Json.field b key = some other ∧ Json.pyEq value other = true :=
  mem_pyEq h (Json.mem_of_field ha)

end JsonDict
end Core
