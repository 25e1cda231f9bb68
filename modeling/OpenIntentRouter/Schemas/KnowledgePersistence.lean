import Mathlib.Data.List.Nodup
import OpenIntentRouter.Core.Except
import OpenIntentRouter.Core.Masks
import OpenIntentRouter.Schemas.Common

/-!
# What is kept of knowledge contexts

Every persisted run, result and event passes its JSON through
`sanitize_persisted_knowledge`, which replaces each `knowledge_context` body by
references. The one way it raises is a `status` that is a list or an object:
the membership test in a `frozenset` needs a hashable value. Python's recursion
limit, which a body that is nested deep enough meets, is not modelled.

Any JSON value, with any hash and any way of printing numbers.

* `sanitize_idem`: what was sanitized is left as it is the next time;
* `persisted_knowledge_holds_references`: when it raises, and what is stored.
-/
namespace OpenIntentRouter.Schemas

open Core Core.Except

/-- mirrors app/schemas/knowledge_persistence.py:5 (`_REFERENCE_PATTERN`, full match) -/
def referencePattern (s : String) : Bool :=
  match s.toList with
  | [] => false
  | c :: cs =>
    c.isAlphanum && cs.length ≤ 255 &&
      cs.all fun c => c.isAlphanum || c == '.' || c == '_' || c == ':' || c == '/' || c == '-'

/-- mirrors app/schemas/knowledge_persistence.py:6 (`_ERROR_CODE_PATTERN`, full match) -/
def errorCodePattern (s : String) : Bool :=
  match s.toList with
  | [] => false
  | c :: cs =>
    c.isLower && cs.length ≤ 63 &&
      cs.all fun c => c.isLower || c.isDigit || c == '_' || c == '.' || c == '-'

/-- mirrors app/schemas/knowledge_persistence.py:7 (`_CONTEXT_STATUSES`) -/
def contextStatuses : List String := ["disabled", "ok", "empty", "timeout", "error", "denied"]

/-- The value when it is a reference.
mirrors app/schemas/knowledge_persistence.py:119-120 (`_is_reference`) -/
def reference? : Option Json → Option String
  | some (.str s) => if referencePattern s then some s else none
  | _ => none

/-- `if value not in values: values.append(value)`, also one step of `dict.fromkeys`. -/
def addNew (values : List String) (value : String) : List String :=
  if value ∈ values then values else values ++ [value]

/-- An entry of `_item_references`: the item's id and, if it is one, its source. -/
def itemReference : Json → Option (String × Option String)
  | .obj item =>
    match reference? (Json.field item "item_id") with
    | some itemId => some (itemId, reference? (Json.field item "source_id"))
    | none => none
  | _ => none

def itemReferenceJson : String × Option String → Json
  | (itemId, some sourceId) => .obj [("item_id", .str itemId), ("source_id", .str sourceId)]
  | (itemId, none) => .obj [("item_id", .str itemId)]

/-- mirrors app/schemas/knowledge_persistence.py:66-81 -/
def itemReferences : Option Json → List (String × Option String)
  | some (.arr items) => items.filterMap itemReference
  | _ => []

def citationSource : Json → Option String
  | .obj citation => reference? (Json.field citation "source_id")
  | _ => none

/-- The source ids of the citations, each once.
mirrors app/schemas/knowledge_persistence.py:84-96 -/
def citationReferences : Option Json → List String
  | some (.arr citations) => (citations.filterMap citationSource).foldl addNew []
  | _ => []

/-- mirrors app/schemas/knowledge_persistence.py:99-102 -/
def references : Option Json → List String
  | some (.arr items) => (items.filterMap fun item => reference? (some item)).foldl addNew []
  | _ => []

/-- mirrors app/schemas/knowledge_persistence.py:105-106 -/
def safeStatus : Option Json → Except StoreError String
  | some (.str s) => .ok (if s ∈ contextStatuses then s else "error")
  | some (.arr _) => .error (.typeError "unhashable type: 'list'")
  | some (.obj _) => .error (.typeError "unhashable type: 'dict'")
  | _ => .ok "error"

def errorCode : Json → Option String
  | .str s => if errorCodePattern s then some s else none
  | _ => none

/-- mirrors app/schemas/knowledge_persistence.py:109-116 -/
def errorCodes : Option Json → List String
  | some (.arr items) => (items.filterMap errorCode).foldl addNew []
  | _ => []

def traceId (context : JsonDict) : Option String :=
  let nested := match Json.field context "metadata" with
    | some (.obj metadata) => reference? (Json.field metadata "trace_id")
    | _ => none
  match nested with
  | some id => some id
  | none => reference? (Json.field context "trace_id")

def truncated (context : JsonDict) : Bool :=
  ((Json.field context "truncated").getD (.bool false)).truthy

structure KnowledgeReferences where
  status : String
  traceId : Option String
  items : List (String × Option String)
  citations : List String
  sourceIds : List String
  truncated : Bool
  errors : List String

def knowledgeReferences (context : JsonDict) : Except StoreError KnowledgeReferences := do
  let items := itemReferences (Json.field context "items")
  let citations := citationReferences (Json.field context "citations")
  let sourceIds := references (Json.field context "source_ids")
  let sourceIds := (items.filterMap Prod.snd).foldl addNew sourceIds
  let status ← safeStatus (Json.field context "status")
  return {
    status
    traceId := Schemas.traceId context
    items
    citations
    sourceIds := citations.foldl addNew sourceIds
    truncated := Schemas.truncated context
    errors := errorCodes (Json.field context "errors") }

def KnowledgeReferences.json (r : KnowledgeReferences) : JsonDict :=
  ("status", .str r.status) ::
  (match r.traceId with
    | some id => [("trace_id", .str id)]
    | none => []) ++
  [ ("item_count", .num r.items.length),
    ("items", .arr (r.items.map itemReferenceJson)),
    ("citations", .arr (r.citations.map fun id => .obj [("source_id", .str id)])),
    ("source_ids", .arr (r.sourceIds.map .str)),
    ("truncated", .bool r.truncated),
    ("errors", .arr (r.errors.map .str)) ]

/-- mirrors app/schemas/knowledge_persistence.py:26-63 -/
def knowledgeReferenceProjection (context : JsonDict) : Except StoreError JsonDict := do
  return (← knowledgeReferences context).json

mutual

/-- mirrors app/schemas/knowledge_persistence.py:10-23 (`sanitize_persisted_knowledge`) -/
def sanitize : Json → Except StoreError Json
  | .arr items => do return .arr (← sanitizeItems items)
  | .obj fields => do return .obj (← sanitizeFields fields)
  | .null => .ok .null
  | .bool b => .ok (.bool b)
  | .num q => .ok (.num q)
  | .str s => .ok (.str s)

def sanitizeItems : List Json → Except StoreError (List Json)
  | [] => .ok []
  | item :: rest => do return (← sanitize item) :: (← sanitizeItems rest)

def sanitizeFields : JsonDict → Except StoreError JsonDict
  | [] => .ok []
  | (key, .obj context) :: rest => do
    let value ←
      if key = "knowledge_context" then knowledgeReferenceProjection context
      else sanitizeFields context
    return (key, .obj value) :: (← sanitizeFields rest)
  | (key, item) :: rest => do return (key, ← sanitize item) :: (← sanitizeFields rest)

end

/-! ## Sanitizing twice -/

theorem mem_foldl_addNew (l acc : List String) (x : String) :
    x ∈ l.foldl addNew acc ↔ x ∈ acc ∨ x ∈ l := by
  induction l generalizing acc with
  | nil => simp
  | cons y l ih =>
    rw [List.foldl_cons, ih, List.mem_cons]
    unfold addNew
    split
    · next hy => grind
    · simp [or_assoc]

variable {l acc : List String} {s key : String} {v : Option Json} {i : String × Option String}
  {context : JsonDict} {r : KnowledgeReferences}

theorem foldl_addNew_of_subset (h : ∀ x ∈ l, x ∈ acc) : l.foldl addNew acc = acc := by
  induction l with
  | nil => rfl
  | cons y l ih =>
    rw [List.foldl_cons, addNew, if_pos (h y List.mem_cons_self)]
    exact ih fun x hx => h x (List.mem_cons_of_mem _ hx)

theorem foldl_addNew_nodup (h : acc.Nodup) : (l.foldl addNew acc).Nodup := by
  induction l generalizing acc with
  | nil => exact h
  | cons y l ih =>
    rw [List.foldl_cons]
    apply ih
    unfold addNew
    split
    · exact h
    · next hy =>
      simp only [List.nodup_append, h, List.nodup_cons, List.not_mem_nil, List.mem_singleton,
        not_false_eq_true, List.nodup_nil, true_and, forall_eq]
      exact fun a ha e => hy (e ▸ ha)

theorem foldl_addNew_append (h : (acc ++ l).Nodup) : l.foldl addNew acc = acc ++ l := by
  induction l generalizing acc with
  | nil => simp
  | cons y l ih =>
    have hy : y ∉ acc := by
      intro hm
      exact (List.nodup_append.1 h).2.2 y hm y List.mem_cons_self rfl
    rw [List.foldl_cons, addNew, if_neg hy, ih (by simpa using h)]
    simp

theorem fromKeys_eq (h : l.Nodup) : l.foldl addNew [] = l := by
  rw [foldl_addNew_append (by simpa using h), List.nil_append]

theorem reference?_str (h : referencePattern s = true) : reference? (some (.str s)) = some s := by
  simp [reference?, h]

theorem pattern_of_reference? (h : reference? v = some s) : referencePattern s = true := by
  unfold reference? at h
  split at h
  · split at h
    · next hs => rw [← Option.some.inj h]; exact hs
    · cases h
  · cases h

/-- What holds of every record `knowledgeReferences` builds. -/
structure KnowledgeReferences.Clean (r : KnowledgeReferences) : Prop where
  status : r.status ∈ contextStatuses
  trace : ∀ id, r.traceId = some id → referencePattern id = true
  items : ∀ i ∈ r.items, referencePattern i.1 = true ∧
    ∀ s, i.2 = some s → referencePattern s = true ∧ s ∈ r.sourceIds
  citations : r.citations.Nodup ∧ ∀ s ∈ r.citations, referencePattern s = true ∧ s ∈ r.sourceIds
  sources : r.sourceIds.Nodup ∧ ∀ s ∈ r.sourceIds, referencePattern s = true
  errors : r.errors.Nodup ∧ ∀ s ∈ r.errors, errorCodePattern s = true

theorem itemReferences_pattern (h : i ∈ itemReferences v) :
    referencePattern i.1 = true ∧ ∀ s, i.2 = some s → referencePattern s = true := by
  unfold itemReferences at h
  split at h
  · obtain ⟨j, -, hj⟩ := List.mem_filterMap.1 h
    unfold itemReference at hj
    split at hj
    · split at hj
      · next hid =>
        cases hj
        exact ⟨pattern_of_reference? hid, fun s hs => pattern_of_reference? hs⟩
      · cases hj
    · cases hj
  · cases h

theorem citationReferences_pattern (v : Option Json) :
    (citationReferences v).Nodup ∧ ∀ s ∈ citationReferences v, referencePattern s = true := by
  unfold citationReferences
  split
  · refine ⟨foldl_addNew_nodup List.nodup_nil, fun s hs => ?_⟩
    obtain ⟨j, -, hj⟩ := List.mem_filterMap.1 (by simpa [mem_foldl_addNew] using hs)
    unfold citationSource at hj
    split at hj
    · exact pattern_of_reference? hj
    · cases hj
  · exact ⟨List.nodup_nil, by simp⟩

theorem references_pattern (v : Option Json) :
    (references v).Nodup ∧ ∀ s ∈ references v, referencePattern s = true := by
  unfold references
  split
  · refine ⟨foldl_addNew_nodup List.nodup_nil, fun s hs => ?_⟩
    obtain ⟨j, -, hj⟩ := List.mem_filterMap.1 (by simpa [mem_foldl_addNew] using hs)
    exact pattern_of_reference? hj
  · exact ⟨List.nodup_nil, by simp⟩

theorem errorCodes_pattern (v : Option Json) :
    (errorCodes v).Nodup ∧ ∀ s ∈ errorCodes v, errorCodePattern s = true := by
  unfold errorCodes
  split
  · refine ⟨foldl_addNew_nodup List.nodup_nil, fun s hs => ?_⟩
    obtain ⟨j, -, hj⟩ := List.mem_filterMap.1 (by simpa [mem_foldl_addNew] using hs)
    unfold errorCode at hj
    split at hj
    · split at hj
      · next hp => cases hj; exact hp
      · cases hj
    · cases hj
  · exact ⟨List.nodup_nil, by simp⟩

theorem safeStatus_mem (h : safeStatus v = .ok s) : s ∈ contextStatuses := by
  unfold safeStatus at h
  split at h
  · next t =>
    cases h
    split
    · next ht => exact ht
    · decide
  · cases h
  · cases h
  · cases h
    decide

theorem traceId_pattern {id : String} (h : traceId context = some id) :
    referencePattern id = true := by
  unfold traceId at h
  simp only at h
  split at h
  · next hn =>
    cases h
    split at hn
    · exact pattern_of_reference? hn
    · cases hn
  · exact pattern_of_reference? h

theorem knowledgeReferences_clean (h : knowledgeReferences context = .ok r) : r.Clean := by
  unfold knowledgeReferences at h
  cases hs : safeStatus (Json.field context "status") with
  | error e => simp [hs, bind, Except.bind] at h
  | ok s =>
    simp only [hs, bind, Except.bind, pure, Except.pure, Except.ok.injEq] at h
    subst h
    have hc := citationReferences_pattern (Json.field context "citations")
    have hr := references_pattern (Json.field context "source_ids")
    refine ⟨safeStatus_mem hs, fun id => traceId_pattern, fun i hi => ?_, ⟨hc.1, fun s hs => ?_⟩,
      ⟨foldl_addNew_nodup (foldl_addNew_nodup hr.1), fun s hs => ?_⟩, errorCodes_pattern _⟩
    · have hp := itemReferences_pattern hi
      refine ⟨hp.1, fun s hs => ⟨hp.2 s hs, ?_⟩⟩
      have hm : s ∈ (itemReferences (Json.field context "items")).filterMap Prod.snd :=
        List.mem_filterMap.2 ⟨i, hi, hs⟩
      simp [mem_foldl_addNew, List.mem_filterMap.1 hm]
    · exact ⟨hc.2 s hs, by simp [mem_foldl_addNew, hs]⟩
    · simp only [mem_foldl_addNew] at hs
      rcases hs with (hs | hs) | hs
      · exact hr.2 s hs
      · obtain ⟨i, hi, his⟩ := List.mem_filterMap.1 hs
        exact (itemReferences_pattern hi).2 s his
      · exact hc.2 s hs

theorem itemReference_json (h : referencePattern i.1 = true)
    (h2 : ∀ s, i.2 = some s → referencePattern s = true) :
    itemReference (itemReferenceJson i) = some i := by
  obtain ⟨id, s⟩ := i
  cases s with
  | none => simp [itemReference, itemReferenceJson, Json.field, reference?, h]
  | some s => simp [itemReference, itemReferenceJson, Json.field, reference?, h, h2 s rfl]

theorem filterMap_map_eq {α β : Type} {f : β → Option α} {g : α → β} {l : List α}
    (h : ∀ a ∈ l, f (g a) = some a) : (l.map g).filterMap f = l := by
  induction l with
  | nil => rfl
  | cons a l ih =>
    rw [List.map_cons, List.filterMap_cons_some (h a List.mem_cons_self),
      ih fun b hb => h b (List.mem_cons_of_mem _ hb)]

theorem KnowledgeReferences.field_json (r : KnowledgeReferences) :
    Json.field r.json "status" = some (.str r.status) ∧
    Json.field r.json "metadata" = none ∧
    Json.field r.json "trace_id" = r.traceId.map .str ∧
    Json.field r.json "items" = some (.arr (r.items.map itemReferenceJson)) ∧
    Json.field r.json "citations" =
      some (.arr (r.citations.map fun id => .obj [("source_id", .str id)])) ∧
    Json.field r.json "source_ids" = some (.arr (r.sourceIds.map .str)) ∧
    Json.field r.json "truncated" = some (.bool r.truncated) ∧
    Json.field r.json "errors" = some (.arr (r.errors.map .str)) := by
  unfold KnowledgeReferences.json
  cases r.traceId <;> simp [Json.field]

theorem knowledgeReferences_json (h : r.Clean) : knowledgeReferences r.json = .ok r := by
  obtain ⟨hst, hme, htr, hit, hci, hso, htc, her⟩ := r.field_json
  have items : itemReferences (Json.field r.json "items") = r.items := by
    rw [hit]
    exact filterMap_map_eq fun i hi =>
      itemReference_json (h.items i hi).1 fun s hs => ((h.items i hi).2 s hs).1
  have citations : citationReferences (Json.field r.json "citations") = r.citations := by
    rw [hci, citationReferences, filterMap_map_eq fun s hs => ?_, fromKeys_eq h.citations.1]
    simp [citationSource, Json.field, reference?, (h.citations.2 s hs).1]
  have sources : references (Json.field r.json "source_ids") = r.sourceIds := by
    rw [hso, references, filterMap_map_eq fun s hs => ?_, fromKeys_eq h.sources.1]
    exact reference?_str (h.sources.2 s hs)
  have errors : errorCodes (Json.field r.json "errors") = r.errors := by
    rw [her, errorCodes, filterMap_map_eq fun s hs => ?_, fromKeys_eq h.errors.1]
    simp [errorCode, h.errors.2 s hs]
  have status : safeStatus (Json.field r.json "status") = .ok r.status := by
    rw [hst, safeStatus, if_pos h.status]
  have trace : traceId r.json = r.traceId := by
    unfold traceId
    rw [hme, htr]
    cases ht : r.traceId with
    | none => rfl
    | some id => exact reference?_str (h.trace id ht)
  have trunc : truncated r.json = r.truncated := by
    rw [truncated, htc]
    rfl
  have hitems : (r.items.filterMap Prod.snd).foldl addNew r.sourceIds = r.sourceIds := by
    apply foldl_addNew_of_subset
    intro s hs
    obtain ⟨i, hi, his⟩ := List.mem_filterMap.1 hs
    exact ((h.items i hi).2 s his).2
  have hcits : r.citations.foldl addNew r.sourceIds = r.sourceIds :=
    foldl_addNew_of_subset fun s hs => (h.citations.2 s hs).2
  simp only [knowledgeReferences, items, citations, sources, errors, status, trace, trunc, hitems,
    hcits, bind, Except.bind, pure, Except.pure]

theorem knowledgeReferenceProjection_idem {out : JsonDict}
    (h : knowledgeReferenceProjection context = .ok out) :
    knowledgeReferenceProjection out = .ok out := by
  unfold knowledgeReferenceProjection at h
  cases hr : knowledgeReferences context with
  | error e => simp [hr, bind, Except.bind] at h
  | ok r =>
    simp only [hr, bind, Except.bind, pure, Except.pure, Except.ok.injEq] at h
    subst h
    rw [knowledgeReferenceProjection, knowledgeReferences_json (knowledgeReferences_clean hr)]
    rfl

/-- What `sanitizeFields` makes of one field. -/
def sanitizeEntry (key : String) (item : Json) : Except StoreError Json :=
  match item with
  | .obj context =>
    if key = "knowledge_context" then do return .obj (← knowledgeReferenceProjection context)
    else sanitize (.obj context)
  | item => sanitize item

theorem sanitizeFields_cons (key : String) (item : Json) (rest : JsonDict) :
    sanitizeFields ((key, item) :: rest) = (do
      let value ← sanitizeEntry key item
      return (key, value) :: (← sanitizeFields rest)) := by
  cases item with
  | obj context =>
    rw [sanitizeFields, sanitizeEntry]
    split
    · cases knowledgeReferenceProjection context <;> rfl
    · rw [sanitize]
      cases sanitizeFields context <;> rfl
  | null | bool b | num q | str s | arr items => rw [sanitizeFields, sanitizeEntry] <;> simp

theorem sanitizeEntry_idem {item out : Json}
    (ih : ∀ out, sanitize item = .ok out → sanitize out = .ok out)
    (h : sanitizeEntry key item = .ok out) : sanitizeEntry key out = .ok out := by
  unfold sanitizeEntry at h
  split at h
  · next context =>
    split at h
    · next hk =>
      obtain ⟨p, hp, h⟩ := bind_eq_ok.1 h
      cases h
      simp only [sanitizeEntry, hk, if_true, knowledgeReferenceProjection_idem hp]
      rfl
    · next hk =>
      have hs := ih _ h
      obtain ⟨p, hp, h⟩ := bind_eq_ok.1 h
      cases h
      simpa only [sanitizeEntry, hk, if_false] using hs
  · next hobj =>
    -- the sanitized value of a non-object is no object either
    have hs := ih _ h
    have hout : ∀ c, out ≠ .obj c := by
      rintro c rfl
      cases item with
      | obj context => exact hobj context rfl
      | arr items => obtain ⟨l, -, h⟩ := bind_eq_ok.1 h; cases h
      | null | bool b | num q | str s => cases h
    unfold sanitizeEntry
    split
    · next c => exact absurd rfl (hout c)
    · exact hs

mutual

theorem sanitize_idem {j out : Json} (h : sanitize j = .ok out) : sanitize out = .ok out := by
  cases j with
  | arr items =>
    obtain ⟨l, hl, hout⟩ := bind_eq_ok.1 h
    cases hout
    rw [sanitize, sanitizeItems_idem hl]
    rfl
  | obj fields =>
    obtain ⟨l, hl, hout⟩ := bind_eq_ok.1 h
    cases hout
    rw [sanitize, sanitizeFields_idem hl]
    rfl
  | null | bool b | num q | str s => cases h; rfl

theorem sanitizeItems_idem {l out : List Json} (h : sanitizeItems l = .ok out) :
    sanitizeItems out = .ok out := by
  cases l with
  | nil => cases h; rfl
  | cons item rest =>
    obtain ⟨a, ha, h⟩ := bind_eq_ok.1 h
    obtain ⟨b, hb, h⟩ := bind_eq_ok.1 h
    cases h
    rw [sanitizeItems, sanitize_idem ha, sanitizeItems_idem hb]
    rfl

theorem sanitizeFields_idem {d out : JsonDict} (h : sanitizeFields d = .ok out) :
    sanitizeFields out = .ok out := by
  cases d with
  | nil => cases h; rfl
  | cons p rest =>
    obtain ⟨key, item⟩ := p
    rw [sanitizeFields_cons] at h
    obtain ⟨a, ha, h⟩ := bind_eq_ok.1 h
    obtain ⟨b, hb, h⟩ := bind_eq_ok.1 h
    cases h
    rw [sanitizeFields_cons, sanitizeEntry_idem (fun out => sanitize_idem) ha,
      sanitizeFields_idem hb]
    rfl

end

/-- A field of an object that is stored as it is. -/
theorem sanitizeEntry_of_field {d : JsonDict} (h : sanitizeFields d = .ok d) {value : Json}
    (hf : Json.field d key = some value) : sanitizeEntry key value = .ok value := by
  induction d with
  | nil => cases hf
  | cons p rest ih =>
    obtain ⟨k, v⟩ := p
    rw [sanitizeFields_cons] at h
    obtain ⟨a, ha, h⟩ := bind_eq_ok.1 h
    obtain ⟨b, hb, h⟩ := bind_eq_ok.1 h
    cases h
    rw [Json.field] at hf
    split at hf
    · next hk =>
      cases hf
      rw [← hk]
      exact ha
    · exact ih hb hf

/-- An object inside an object that is stored as it is. -/
theorem sanitizeFields_of_field {d body : JsonDict} (h : sanitizeFields d = .ok d)
    (hk : key ≠ "knowledge_context") (hf : Json.field d key = some (.obj body)) :
    sanitizeFields body = .ok body := by
  have he := sanitizeEntry_of_field h hf
  rw [sanitizeEntry, if_neg hk] at he
  obtain ⟨out, hout, he⟩ := bind_eq_ok.1 he
  cases he
  exact hout

/-! ## What is stored -/

mutual

/-- The objects under `knowledge_context` that are in no other. -/
def bodies : Json → List JsonDict
  | .arr items => bodiesItems items
  | .obj fields => bodiesFields fields
  | .null | .bool _ | .num _ | .str _ => []

def bodiesItems : List Json → List JsonDict
  | [] => []
  | item :: rest => bodies item ++ bodiesItems rest

def bodiesFields : JsonDict → List JsonDict
  | [] => []
  | (key, .obj context) :: rest =>
    (if key = "knowledge_context" then [context] else bodiesFields context) ++ bodiesFields rest
  | (_, item) :: rest => bodies item ++ bodiesFields rest

end

def entryBodies (key : String) : Json → List JsonDict
  | .obj context => if key = "knowledge_context" then [context] else bodies (.obj context)
  | item => bodies item

theorem bodiesFields_cons (key : String) (item : Json) (rest : JsonDict) :
    bodiesFields ((key, item) :: rest) = entryBodies key item ++ bodiesFields rest := by
  cases item <;> simp [bodiesFields, entryBodies, bodies]

theorem sanitizeEntry_of_ne (hk : key ≠ "knowledge_context") (item : Json) :
    sanitizeEntry key item = sanitize item := by
  cases item <;> simp [sanitizeEntry, hk]

theorem sanitizeEntry_bodies {item : Json}
    (ih : bodies <$> sanitize item = (bodies item).mapM knowledgeReferenceProjection) :
    entryBodies key <$> sanitizeEntry key item =
      (entryBodies key item).mapM knowledgeReferenceProjection := by
  by_cases hk : key = "knowledge_context"
  · cases item with
    | obj context =>
      simp only [sanitizeEntry, entryBodies, hk, if_true, List.mapM_cons, List.mapM_nil]
      cases knowledgeReferenceProjection context <;> simp [entryBodies]
    | arr items =>
      change entryBodies key <$> sanitize (.arr items) = (bodies (.arr items)).mapM _
      rw [← ih, sanitize]
      cases sanitizeItems items <;> rfl
    | null | bool b | num q | str s => rfl
  · have hbodies : entryBodies key = bodies := by
      funext out
      cases out <;> simp [entryBodies, hk]
    rw [hbodies, sanitizeEntry_of_ne hk, ih]

mutual

theorem sanitize_bodies (j : Json) :
    bodies <$> sanitize j = (bodies j).mapM knowledgeReferenceProjection := by
  cases j with
  | arr items =>
    rw [bodies, ← sanitizeItems_bodies items, sanitize]
    cases sanitizeItems items <;> rfl
  | obj fields =>
    rw [bodies, ← sanitizeFields_bodies fields, sanitize]
    cases sanitizeFields fields <;> rfl
  | null | bool b | num q | str s => rfl

theorem sanitizeItems_bodies (l : List Json) :
    bodiesItems <$> sanitizeItems l = (bodiesItems l).mapM knowledgeReferenceProjection := by
  cases l with
  | nil => rfl
  | cons item rest =>
    rw [bodiesItems, List.mapM_append, ← sanitize_bodies item, ← sanitizeItems_bodies rest,
      sanitizeItems]
    cases sanitize item <;> cases sanitizeItems rest <;> rfl

theorem sanitizeFields_bodies (d : JsonDict) :
    bodiesFields <$> sanitizeFields d = (bodiesFields d).mapM knowledgeReferenceProjection := by
  cases d with
  | nil => rfl
  | cons p rest =>
    obtain ⟨key, item⟩ := p
    rw [sanitizeFields_cons, bodiesFields_cons, List.mapM_append,
      ← sanitizeEntry_bodies (sanitize_bodies item), ← sanitizeFields_bodies rest]
    cases sanitizeEntry key item <;> cases sanitizeFields rest <;>
      simp [Functor.map, Except.map, bind, Except.bind, pure, Except.pure, bodiesFields_cons]

end

def underBody (key : String) : Bool := key = "knowledge_context"

mutual

theorem mask_sanitize {j out : Json} (h : sanitize j = .ok out) :
    j.mask underBody = out.mask underBody := by
  cases j with
  | arr items =>
    obtain ⟨l, hl, h⟩ := bind_eq_ok.1 h
    cases h
    rw [Json.mask, Json.mask, maskItems_sanitize hl]
  | obj fields =>
    obtain ⟨l, hl, h⟩ := bind_eq_ok.1 h
    cases h
    rw [Json.mask, Json.mask, maskFields_sanitize hl]
  | null | bool b | num q | str s => cases h; rfl

theorem maskItems_sanitize {l out : List Json} (h : sanitizeItems l = .ok out) :
    Json.maskItems underBody l = Json.maskItems underBody out := by
  cases l with
  | nil => cases h; rfl
  | cons item rest =>
    obtain ⟨a, ha, h⟩ := bind_eq_ok.1 h
    obtain ⟨b, hb, h⟩ := bind_eq_ok.1 h
    cases h
    rw [Json.maskItems, Json.maskItems, mask_sanitize ha, maskItems_sanitize hb]

theorem maskFields_sanitize {d out : JsonDict} (h : sanitizeFields d = .ok out) :
    Json.maskFields underBody d = Json.maskFields underBody out := by
  cases d with
  | nil => cases h; rfl
  | cons p rest =>
    obtain ⟨key, item⟩ := p
    rw [sanitizeFields_cons] at h
    obtain ⟨a, ha, h⟩ := bind_eq_ok.1 h
    obtain ⟨b, hb, h⟩ := bind_eq_ok.1 h
    cases h
    rw [Json.maskFields, Json.maskFields, maskFields_sanitize hb]
    by_cases hk : key = "knowledge_context"
    · simp [underBody, hk]
    · rw [mask_sanitize (sanitizeEntry_of_ne hk item ▸ ha)]

end

/-- Every body becomes its references, and what is under no `knowledge_context` stays. -/
theorem persisted_knowledge_holds_references (j : Json) :
    bodies <$> sanitize j = (bodies j).mapM knowledgeReferenceProjection ∧
    ∀ out, sanitize j = .ok out →
      (∀ body ∈ bodies out, ∃ r : KnowledgeReferences, r.Clean ∧ body = r.json) ∧
      j.mask underBody = out.mask underBody ∧ sanitize out = .ok out := by
  have hbodies := sanitize_bodies j
  refine ⟨hbodies, fun out h => ⟨fun body hbody => ?_, mask_sanitize h, sanitize_idem h⟩⟩
  rw [h] at hbodies
  obtain ⟨context, -, hcontext⟩ := Except.mem_mapM hbodies.symm hbody
  obtain ⟨r, hr, hjson⟩ := bind_eq_ok.1 hcontext
  exact ⟨r, knowledgeReferences_clean hr, (Except.ok.inj hjson).symm⟩

end OpenIntentRouter.Schemas
