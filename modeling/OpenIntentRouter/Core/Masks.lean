import OpenIntentRouter.Core.Json

/-!
# Values up to what is under hidden keys

Two values are alike if they differ only in what is stored under keys that are hidden, at any
depth. `mask` puts a `null` there, so that values are alike if their masks are equal; a value
in which no key is hidden `shows`, and is its own mask.

* `field_maskFields`, `maskFields_pick`: masks of fields;
* `mask_of_shows`, `shows_mask`;
* `truthy_mask`: a mask is as truthy as the value.
-/
namespace Core.Json

variable (hidden : String → Bool)

mutual

/-- The value with a `null` under every hidden key. -/
def mask : Json → Json
  | .null => .null
  | .bool b => .bool b
  | .num q => .num q
  | .str s => .str s
  | .arr items => .arr (maskItems items)
  | .obj fields => .obj (maskFields fields)

def maskItems : List Json → List Json
  | [] => []
  | item :: rest => mask item :: maskItems rest

def maskFields : List (String × Json) → List (String × Json)
  | [] => []
  | (key, item) :: rest => (key, if hidden key then .null else mask item) :: maskFields rest

end

mutual

def shows : Json → Bool
  | .null | .bool _ | .num _ | .str _ => true
  | .arr items => showsItems items
  | .obj fields => showsFields fields

def showsItems : List Json → Bool
  | [] => true
  | item :: rest => shows item && showsItems rest

def showsFields : List (String × Json) → Bool
  | [] => true
  | (key, item) :: rest => !hidden key && shows item && showsFields rest

end

variable {hidden}

theorem maskItems_eq (items : List Json) : maskItems hidden items = items.map (mask hidden) := by
  induction items with
  | nil => rfl
  | cons item rest ih => rw [maskItems, ih, List.map_cons]

def maskField (hidden : String → Bool) (p : String × Json) : String × Json :=
  (p.1, if hidden p.1 then .null else mask hidden p.2)

theorem maskFields_eq (fields : List (String × Json)) :
    maskFields hidden fields = fields.map (maskField hidden) := by
  induction fields with
  | nil => rfl
  | cons p rest ih => rw [maskFields, ih, List.map_cons, maskField]

theorem field_maskFields (fields : List (String × Json)) (key : String) :
    field (maskFields hidden fields) key =
      (field fields key).map fun item => if hidden key then .null else mask hidden item := by
  induction fields with
  | nil => rfl
  | cons p rest ih =>
    obtain ⟨k, v⟩ := p
    by_cases hk : k = key
    · subst hk
      simp [maskFields, field]
    · simpa [maskFields, field, hk] using ih

theorem field_maskFields_of {key : String} (hkey : hidden key = false)
    (fields : List (String × Json)) :
    field (maskFields hidden fields) key = (field fields key).map (mask hidden) := by
  simp [field_maskFields, hkey]

theorem maskFields_pick (keys : List String) (fields : List (String × Json)) :
    maskFields hidden (keys.filterMap fun key => (field fields key).map fun item => (key, item)) =
      keys.filterMap fun key =>
        (field (maskFields hidden fields) key).map fun item => (key, item) := by
  induction keys with
  | nil => rfl
  | cons key rest ih =>
    rw [List.filterMap_cons, List.filterMap_cons, field_maskFields]
    cases field fields key with
    | none => exact ih
    | some item =>
      change maskFields hidden ((key, item) :: _) = (key, _) :: _
      rw [maskFields, ih]

mutual

theorem mask_of_shows {j : Json} (h : shows hidden j = true) : mask hidden j = j := by
  cases j with
  | null => rfl
  | bool b => rfl
  | num q => rfl
  | str s => rfl
  | arr items => rw [mask, maskItems_of_shows h]
  | obj fields => rw [mask, maskFields_of_shows h]

theorem maskItems_of_shows {items : List Json} (h : showsItems hidden items = true) :
    maskItems hidden items = items := by
  cases items with
  | nil => rfl
  | cons item rest =>
    rw [showsItems, Bool.and_eq_true] at h
    rw [maskItems, mask_of_shows h.1, maskItems_of_shows h.2]

theorem maskFields_of_shows {fields : List (String × Json)} (h : showsFields hidden fields = true) :
    maskFields hidden fields = fields := by
  cases fields with
  | nil => rfl
  | cons p rest =>
    obtain ⟨key, item⟩ := p
    rw [showsFields, Bool.and_eq_true, Bool.and_eq_true, Bool.not_eq_true'] at h
    rw [maskFields, h.1.1, mask_of_shows h.1.2, maskFields_of_shows h.2]
    rfl

end

mutual

theorem shows_mask (j : Json) : shows hidden (mask hidden j) = shows hidden j := by
  cases j with
  | null => rfl
  | bool b => rfl
  | num q => rfl
  | str s => rfl
  | arr items => rw [mask, shows, shows, showsItems_mask]
  | obj fields => rw [mask, shows, shows, showsFields_mask]

theorem showsItems_mask (items : List Json) :
    showsItems hidden (maskItems hidden items) = showsItems hidden items := by
  cases items with
  | nil => rfl
  | cons item rest => rw [maskItems, showsItems, showsItems, shows_mask, showsItems_mask]

theorem showsFields_mask (fields : List (String × Json)) :
    showsFields hidden (maskFields hidden fields) = showsFields hidden fields := by
  cases fields with
  | nil => rfl
  | cons p rest =>
    obtain ⟨key, item⟩ := p
    rw [maskFields, showsFields, showsFields, showsFields_mask]
    by_cases hkey : hidden key = true
    · rw [hkey]
      rfl
    · rw [if_neg hkey, shows_mask]

end

theorem truthy_mask (j : Json) : truthy (mask hidden j) = truthy j := by
  cases j with
  | arr items => cases items <;> rfl
  | obj fields => cases fields <;> rfl
  | _ => rfl

end Core.Json
