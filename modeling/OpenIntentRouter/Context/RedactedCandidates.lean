import OpenIntentRouter.Context.ProviderCache
import OpenIntentRouter.Core.MaskedText

/-!
# Redacted candidates

`_bounded_projection` (app/services/context_pipeline_service.py:664-734) redacts the values
under sensitive keys in the structured value and the metadata of a candidate. The text of its
content is not redacted: the summaries (app/services/context_providers.py:702-793) quote the
frontend context, and evidence that has no text, as the first 2000 characters of its JSON,
and print whatever is stored as an id, a status or a title.

For each kind of value, `TextOpen`, `ResultOpen`, `ArtifactsOpen`, `EventOpen`, `PlanOpen` and
`EvidenceOpen` say that what is printed of it has no sensitive key; a field that is not read,
because another one is there or the value is not taken, is not mentioned. The redaction is
any one with the keys of the source (`Plain`), and the validation of a datetime and `float`
take no list and no object (`ScalarTools`).

Results:
* `redact_boundedValue_mask`: the projection of a value does not show what is under its
  sensitive keys;
* `boundedJson_open`, `artifacts_open` and `..Candidate_open`: nor does a candidate of an open
  value, which is governed as that of its mask;
* `..Open.mask_iff`: a value is open if its mask is.
-/
namespace OpenIntentRouter.Context

open Core Core.Except Core.Json Schemas Services ContextPipelineService

variable {R : Redaction}

/-! ## Structured values -/

def redactedUnder (R : Redaction) (key : String) (item : Json) : Json :=
  if R.isSensitiveKey key then .str "***REDACTED***"
  else
    match item with
    | .str s =>
      if ["_uri", "_url", "base_url"].any (Redaction.endsWith · (R.lower key)) then
        .str (R.location s)
      else R.redactValue item
    | _ => R.redactValue item

theorem redactFields_eq (fields : JsonDict) :
    R.redactFields fields = fields.map fun p => (p.1, redactedUnder R p.1 p.2) := by
  induction fields with
  | nil => rfl
  | cons p rest ih =>
    obtain ⟨key, item⟩ := p
    unfold Redaction.redactFields
    rw [ih]
    rfl

theorem redactItems_eq (items : List Json) : R.redactItems items = items.map R.redactValue := by
  induction items with
  | nil => rfl
  | cons item rest ih =>
    unfold Redaction.redactItems
    rw [ih]
    rfl

theorem boundedValue_mask_text (depth : Nat) (value : Json) :
    boundedValue R depth (mask R.isSensitiveKey value) = boundedValue R depth value ∨
      (∀ s, boundedValue R depth (mask R.isSensitiveKey value) ≠ .str s) ∧
        ∀ s, boundedValue R depth value ≠ .str s := by
  cases depth with
  | zero => exact .inl rfl
  | succ depth =>
    cases value with
    | arr items =>
      right
      constructor <;> (intro s; unfold boundedValue; simp [mask])
    | obj fields =>
      right
      constructor <;> (intro s; unfold boundedValue; simp [mask])
    | _ => exact .inl rfl

theorem redactedUnder_eq {key : String} {a b : Json}
    (h : a = b ∨ (∀ s, a ≠ .str s) ∧ ∀ s, b ≠ .str s)
    (hredacted : R.redactValue a = R.redactValue b) :
    redactedUnder R key a = redactedUnder R key b := by
  rcases h with rfl | ⟨ha, hb⟩
  · rfl
  · unfold redactedUnder
    split
    · rfl
    · cases a <;> cases b <;> first | exact hredacted | exact absurd rfl (ha _) | exact absurd rfl (hb _)

theorem not_redacted {key : String} (h : R.isSensitiveKey key = false) :
    Redaction.sensitiveKeys.contains (R.lower key) = false := by
  unfold Redaction.isSensitiveKey at h
  simp only [Bool.or_eq_false_iff] at h
  exact h.1.1.1

/-- What the projection shows of a value does not depend on what is under sensitive keys. -/
theorem redact_boundedValue_mask (depth : Nat) (value : Json) :
    R.redactValue (boundedValue R depth (mask R.isSensitiveKey value)) =
      R.redactValue (boundedValue R depth value) := by
  induction depth generalizing value with
  | zero => rfl
  | succ depth ih =>
    cases value with
    | arr items =>
      simp only [mask, boundedValue, Redaction.redactValue, redactItems_eq, maskItems_eq,
        ← List.map_take, List.map_map]
      exact congrArg Json.arr (List.map_congr_left fun item _ => ih item)
    | obj fields =>
      simp only [mask, boundedValue, Redaction.redactValue, redactFields_eq, maskFields_eq,
        ← List.map_take, List.map_map]
      refine congrArg Json.obj (List.map_congr_left fun p _ => ?_)
      obtain ⟨key, item⟩ := p
      simp only [Function.comp_apply, maskField]
      by_cases hkey : R.isSensitiveKey key = true
      · split <;> simp only [redactedUnder, hkey, if_true]
      · have hname := not_redacted (Bool.not_eq_true _ ▸ hkey)
        simp only [hname, hkey, Bool.false_eq_true, if_false]
        exact congrArg (Prod.mk key) (redactedUnder_eq (boundedValue_mask_text depth item) (ih item))
    | _ => rfl

theorem boundedFields_mask (fields : JsonDict) :
    boundedFields R (maskFields R.isSensitiveKey fields) = boundedFields R fields := by
  unfold boundedFields
  have h := redact_boundedValue_mask (R := R) 4 (.obj fields)
  rw [mask] at h
  rw [h]

theorem boundedProjection_mask (fields : JsonDict) (source : String) :
    boundedProjection R (some (maskFields R.isSensitiveKey fields)) source =
      boundedProjection R (some fields) source := by
  cases fields with
  | nil => rfl
  | cons p rest =>
    rw [maskFields_eq, List.map_cons]
    unfold boundedProjection
    dsimp only
    cases allowedFields source with
    | nil => rfl
    | cons key keys =>
      dsimp only
      rw [← List.map_cons, ← maskFields_eq, ← maskFields_pick, boundedFields_mask]

/-! ## Keys -/

/-- The keys under which the providers and the budget of a request look something up, but for
`chars_per_token`, which ends as a token does. -/
def readKeys : List String :=
  ["page", "route", "selection", "locale", "timezone", "interaction", "ui_state", "result_id",
    "run_id", "agent_id", "plan_id", "step_id", "status", "artifact_refs", "summary", "created_at",
    "output", "message", "text", "title", "event_id", "event_type", "referenced", "payload",
    "steps", "description", "tenant_id", "user_id", "id", "evidence_id", "source_id", "chunk_id",
    "item_id", "score", "confidence", "relevance", "content", "snippet", "question", "artifact_id",
    "uri", "type", "context_budget", "contextBudget", "context_char_limit", "contextCharLimit",
    "charsPerToken", "permission_evidence", "max_chars", "max_tokens", "source_budgets",
    "per_item_token_limit", "per_item_char_limit", "allow_summary_placeholder"]

/-- The test of `is_sensitive_key` on the key in lower case. -/
def sensitiveName (normalized : String) : Bool :=
  Redaction.sensitiveKeys.contains normalized || Redaction.endsWith "_dsn" normalized ||
    ["_token", "_prompt", "_quote"].any (Redaction.endsWith · normalized) ||
    Redaction.sensitiveKeyParts.any (Redaction.contains · normalized)

theorem isSensitiveKey_eq (key : String) : R.isSensitiveKey key = sensitiveName (R.lower key) := rfl

theorem sensitiveName_readKeys : ∀ key ∈ readKeys,
    (key.toList.all fun c => decide (c.toNat < 128)) = true ∧
      sensitiveName (String.ofList (key.toList.map Char.toLower)) = false := by
  decide +kernel

theorem isSensitiveKey_readKeys {unicode : Core.Text.Unicode} (hlower : R.lower = unicode.lower)
    {key : String} (hkey : key ∈ readKeys) : R.isSensitiveKey key = false := by
  obtain ⟨hascii, hname⟩ := sensitiveName_readKeys key hkey
  have hsmall : ∀ c ∈ key.toList, c.toNat < 128 := fun c hc =>
    of_decide_eq_true (List.all_eq_true.1 hascii c hc)
  rw [isSensitiveKey_eq, hlower, unicode.lower_ascii key hsmall, hname]

def Plain (R : Redaction) : Prop := ∀ key ∈ readKeys, R.isSensitiveKey key = false

theorem Plain.on (h : Plain R) {keys : List String} (hkeys : ∀ key ∈ keys, key ∈ readKeys) :
    ∀ key ∈ keys, R.isSensitiveKey key = false :=
  fun key hkey => h key (hkeys key hkey)

def evidenceTextKeys : List String := ["content", "text", "snippet", "question"]

def outputTextKeys : List String := ["summary", "message", "text", "title"]

theorem read_of_mem : ∀ keys ∈ [ProviderTools.frontendKeys, evidenceTextKeys, outputTextKeys,
    ["result_id", "run_id", "agent_id", "plan_id", "step_id", "status", "artifact_refs", "summary"],
    ["event_id", "event_type", "agent_id", "referenced"], ["evidence_id", "source_id", "score"]],
    ∀ key ∈ keys, key ∈ readKeys := by
  decide +kernel

/-! ## Reading masks -/

def Open (R : Redaction) (keys : List String) (value : JsonDict) : Prop :=
  ∀ key ∈ keys, ∀ item, field value key = some item → shows R.isSensitiveKey item = true

instance (R : Redaction) (keys : List String) (value : JsonDict) : Decidable (Open R keys value) :=
  inferInstanceAs (Decidable
    (∀ key ∈ keys, ∀ item ∈ field value key, shows R.isSensitiveKey item = true))

/-- The first of the fields that is truthy, which `or` takes. -/
def chosen (value : JsonDict) (keys : List String) : Option Json := keys.findSome? (truthyField value)

def ChosenOpen (R : Redaction) (keys : List String) (value : JsonDict) : Prop :=
  ∀ item, chosen value keys = some item → shows R.isSensitiveKey item = true

/-- What the validation of a datetime and `float` make of a list or an object. -/
structure ScalarTools (tools : ProviderTools) : Prop where
  datetime_arr : ∀ items, tools.datetime (.arr items) = none
  datetime_obj : ∀ fields, tools.datetime (.obj fields) = none
  float_arr : ∀ items, tools.float (.arr items) = .error (.raised "TypeError")
  float_obj : ∀ fields, tools.float (.obj fields) = .error (.raised "TypeError")

section

variable {value : JsonDict} {key : String} {keys : List String}

theorem field_open (hopen : Open R keys value) (hkey : key ∈ keys)
    (hplain : R.isSensitiveKey key = false) :
    field (maskFields R.isSensitiveKey value) key = field value key := by
  rw [field_maskFields_of hplain]
  cases hfield : field value key with
  | none => rfl
  | some item => rw [Option.map_some, mask_of_shows (hopen key hkey item hfield)]

theorem Open.mask_iff (keys : List String) (value : JsonDict)
    (hkeys : ∀ key ∈ keys, R.isSensitiveKey key = false) :
    Open R keys (maskFields R.isSensitiveKey value) ↔ Open R keys value := by
  refine forall₂_congr fun key hkey => ?_
  rw [field_maskFields_of (hkeys key hkey)]
  cases field value key with
  | none => simp
  | some item => simp [shows_mask]

theorem truthyField_mask (hplain : R.isSensitiveKey key = false) (value : JsonDict) :
    truthyField (maskFields R.isSensitiveKey value) key =
      (truthyField value key).map (mask R.isSensitiveKey) := by
  unfold truthyField
  rw [field_maskFields_of hplain]
  cases field value key with
  | none => rfl
  | some item =>
    rw [Option.map_some]
    by_cases hitem : item.truthy = true
    · rw [Option.filter_some, Option.filter_some, truthy_mask, if_pos hitem, if_pos hitem]
      rfl
    · rw [Option.filter_some, Option.filter_some, truthy_mask, if_neg hitem, if_neg hitem]
      rfl

theorem chosen_mask (hkeys : ∀ key ∈ keys, R.isSensitiveKey key = false) :
    chosen (maskFields R.isSensitiveKey value) keys =
      (chosen value keys).map (mask R.isSensitiveKey) := by
  unfold chosen
  induction keys with
  | nil => rfl
  | cons key rest ih =>
    rw [List.findSome?_cons, List.findSome?_cons, truthyField_mask (hkeys key List.mem_cons_self),
      ih fun other hother => hkeys other (List.mem_cons_of_mem _ hother)]
    cases truthyField value key <;> rfl

theorem chosen_open (hkeys : ∀ key ∈ keys, R.isSensitiveKey key = false)
    (hopen : ChosenOpen R keys value) :
    chosen (maskFields R.isSensitiveKey value) keys = chosen value keys := by
  rw [chosen_mask hkeys]
  cases hitem : chosen value keys with
  | none => rfl
  | some item => rw [Option.map_some, mask_of_shows (hopen item hitem)]

theorem ChosenOpen.mask_iff (keys : List String) (value : JsonDict)
    (hkeys : ∀ key ∈ keys, R.isSensitiveKey key = false) :
    ChosenOpen R keys (maskFields R.isSensitiveKey value) ↔ ChosenOpen R keys value := by
  unfold ChosenOpen
  rw [chosen_mask hkeys]
  cases chosen value keys with
  | none => simp
  | some item => simp [shows_mask]

theorem Open.chosen (hopen : Open R keys value) (key : String) (hkey : key ∈ keys) :
    ChosenOpen R [key] value := by
  intro item hitem
  unfold Context.chosen at hitem
  rw [List.findSome?_cons, List.findSome?_nil] at hitem
  cases hfield : truthyField value key with
  | none =>
    rw [hfield] at hitem
    cases hitem
  | some own =>
    rw [hfield] at hitem
    cases hitem
    exact hopen key hkey item (Option.filter_eq_some_iff.1 hfield).1

theorem getField_mask (hplain : R.isSensitiveKey key = false) (value : JsonDict) :
    getField (maskFields R.isSensitiveKey value) key =
      mask R.isSensitiveKey (getField value key) := by
  unfold getField
  rw [field_maskFields_of hplain]
  cases field value key <;> rfl

theorem Plain.gets (h : Plain R) (keys : List String) (hkeys : ∀ key ∈ keys, key ∈ readKeys)
    (value : JsonDict) : ∀ key ∈ keys, R.isSensitiveKey key = false ∧
      getField (maskFields R.isSensitiveKey value) key =
        mask R.isSensitiveKey (getField value key) :=
  fun key hkey => ⟨h key (hkeys key hkey), getField_mask (h key (hkeys key hkey)) value⟩

theorem getField_open (hopen : Open R keys value) (hkey : key ∈ keys)
    (hplain : R.isSensitiveKey key = false) :
    getField (maskFields R.isSensitiveKey value) key = getField value key := by
  unfold getField
  rw [field_open hopen hkey hplain]

theorem objectField_mask (hplain : R.isSensitiveKey key = false) (value : JsonDict) :
    objectField (maskFields R.isSensitiveKey value) key =
      (objectField value key).map (maskFields R.isSensitiveKey) := by
  unfold objectField
  rw [field_maskFields_of hplain]
  cases field value key with
  | none => rfl
  | some item => cases item <;> rfl

theorem listField_mask (hplain : R.isSensitiveKey key = false) (value : JsonDict) :
    listField (maskFields R.isSensitiveKey value) key =
      (listField value key).map (mask R.isSensitiveKey) := by
  unfold listField
  rw [field_maskFields_of hplain]
  cases field value key with
  | none => rfl
  | some item => cases item <;> first | rfl | exact maskItems_eq _

theorem inTexts_mask (item : Option Json) (texts : List String) :
    inTexts (item.map (mask R.isSensitiveKey)) texts = inTexts item texts := by
  cases item with
  | none => rfl
  | some item => cases item <;> rfl

variable {tools : ProviderTools}

theorem textOr_open (hplain : R.isSensitiveKey key = false) (hopen : ChosenOpen R [key] value)
    (fallback : String) :
    tools.textOr (maskFields R.isSensitiveKey value) key fallback =
      tools.textOr value key fallback := by
  have hchosen : chosen (maskFields R.isSensitiveKey value) [key] = chosen value [key] :=
    chosen_open (by simpa using hplain) hopen
  simp only [chosen, List.findSome?_cons, List.findSome?_nil] at hchosen
  unfold ProviderTools.textOr
  cases hmasked : truthyField (maskFields R.isSensitiveKey value) key <;>
    cases hown : truthyField value key <;> simp_all

theorem textOr_chosen (first second fallback : String) :
    tools.textOr value first (tools.textOr value second fallback) =
      ((chosen value [first, second]).map tools.py.str).getD fallback := by
  unfold ProviderTools.textOr chosen
  rw [List.findSome?_cons, List.findSome?_cons, List.findSome?_nil]
  cases truthyField value first with
  | some item => rfl
  | none => cases truthyField value second <;> rfl

theorem shown_open (hopen : Open R keys value) (hkey : key ∈ keys)
    (hplain : R.isSensitiveKey key = false) :
    tools.shown (maskFields R.isSensitiveKey value) key = tools.shown value key := by
  unfold ProviderTools.shown
  rw [getField_open hopen hkey hplain]

/-- A list or an object is no datetime, whatever it holds. -/
theorem createdAt_mask (hplain : Plain R) (hscalar : ScalarTools tools) (value : JsonDict) :
    tools.createdAt (maskFields R.isSensitiveKey value) = tools.createdAt value := by
  unfold ProviderTools.createdAt
  rw [getField_mask (hplain _ (by decide))]
  cases getField value "created_at" with
  | arr items => simp [mask, hscalar.datetime_arr]
  | obj fields => simp [mask, hscalar.datetime_obj]
  | null | bool b | num q | str s => rfl

theorem boundedScore_mask (hscalar : ScalarTools tools) (item : Json) :
    tools.boundedScore (mask R.isSensitiveKey item) = tools.boundedScore item := by
  unfold ProviderTools.boundedScore
  cases item with
  | arr items => simp [mask, hscalar.float_arr]
  | obj fields => simp [mask, hscalar.float_obj]
  | null | bool b | num q | str s => rfl

theorem plainText_mask (item : Option Json) :
    ProviderTools.plainText (item.map (mask R.isSensitiveKey)) = ProviderTools.plainText item := by
  cases item with
  | none => rfl
  | some item => cases item <;> rfl

theorem firstText_mask (hkeys : ∀ key ∈ keys, R.isSensitiveKey key = false) (value : JsonDict) :
    ProviderTools.firstText (maskFields R.isSensitiveKey value) keys =
      ProviderTools.firstText value keys := by
  unfold ProviderTools.firstText
  induction keys with
  | nil => rfl
  | cons key rest ih =>
    rw [List.findSome?_cons, List.findSome?_cons, field_maskFields_of (hkeys key List.mem_cons_self),
      plainText_mask, ih fun other hother => hkeys other (List.mem_cons_of_mem _ hother)]

end

/-! ## Quoted values -/

section

variable {tools : ProviderTools} {value : JsonDict}

/-- No sensitive value begins within the 2000 characters that `_bounded_json` writes. -/
def TextOpen (tools : ProviderTools) (R : Redaction) (value : JsonDict) : Prop :=
  none ∉ (marked { number := tools.py.number } R.isSensitiveKey (sortKeys (.obj value))).take 2000

instance (tools : ProviderTools) (R : Redaction) (value : JsonDict) :
    Decidable (TextOpen tools R value) :=
  inferInstanceAs (Decidable (none ∉ _))

theorem sortKeys_maskFields : sortKeys (.obj (maskFields R.isSensitiveKey value)) =
    mask R.isSensitiveKey (sortKeys (.obj value)) := sortKeys_mask (.obj value)

theorem TextOpen.mask_iff :
    TextOpen tools R (maskFields R.isSensitiveKey value) ↔ TextOpen tools R value := by
  unfold TextOpen
  rw [sortKeys_maskFields, marked_mask]

theorem boundedJson_open (hopen : TextOpen tools R value) :
    tools.boundedJson (maskFields R.isSensitiveKey value) = tools.boundedJson value := by
  unfold TextOpen at hopen
  unfold ProviderTools.boundedJson Services.dumps Json.dumps prefixText
  rw [sortKeys_maskFields]
  rw [sortKeys_obj] at hopen ⊢
  obtain ⟨htext, hlength⟩ := write_mask_cut hopen
  simp only [mask, String.toList_ofList, String.length_ofList, htext, hlength]

theorem frontendSummary_open
    (hopen : TextOpen tools R (ProviderTools.pickFields ProviderTools.frontendKeys value)) :
    tools.frontendSummary (maskFields R.isSensitiveKey value) = tools.frontendSummary value := by
  have hpick : ProviderTools.pickFields ProviderTools.frontendKeys (maskFields R.isSensitiveKey value) =
      maskFields R.isSensitiveKey (ProviderTools.pickFields ProviderTools.frontendKeys value) :=
    (maskFields_pick _ _).symm
  unfold ProviderTools.frontendSummary
  rw [hpick, boundedJson_open hopen]

end

/-! ## Results -/

section

variable {tools : ProviderTools} {value : JsonDict}

def outputText (value : JsonDict) : Option String :=
  (objectField value "output").bind fun output => ProviderTools.firstText output outputTextKeys

/-- The id of a result is printed, and its status if its output has no text. -/
structure ResultOpen (R : Redaction) (value : JsonDict) : Prop where
  id : ChosenOpen R ["result_id"] value
  status : outputText value = none → ChosenOpen R ["status"] value

theorem outputText_mask (hplain : Plain R) :
    outputText (maskFields R.isSensitiveKey value) = outputText value := by
  unfold outputText
  rw [objectField_mask (hplain _ (by decide))]
  cases objectField value "output" with
  | none => rfl
  | some output => exact firstText_mask (hplain.on (read_of_mem _ (by simp))) output

theorem ResultOpen.mask_iff (hplain : Plain R) :
    ResultOpen R (maskFields R.isSensitiveKey value) ↔ ResultOpen R value := by
  have hid := ChosenOpen.mask_iff (R := R) ["result_id"] value
    (by simpa using hplain "result_id" (by decide))
  have hstatus := ChosenOpen.mask_iff (R := R) ["status"] value
    (by simpa using hplain "status" (by decide))
  have htext : outputText (maskFields R.isSensitiveKey value) = outputText value :=
    outputText_mask hplain
  exact ⟨fun h => ⟨hid.1 h.id, fun hnone => hstatus.1 (h.status (htext.trans hnone))⟩,
    fun h => ⟨hid.2 h.id, fun hnone => hstatus.2 (h.status (htext.symm.trans hnone))⟩⟩

theorem resultSummary_open (hplain : Plain R) (hopen : ResultOpen R value) :
    tools.resultSummary (maskFields R.isSensitiveKey value) = tools.resultSummary value := by
  have hmask : outputText (maskFields R.isSensitiveKey value) = outputText value :=
    outputText_mask hplain
  unfold outputText outputTextKeys at hmask
  unfold ProviderTools.resultSummary
  rw [hmask]
  split
  · rfl
  · next htext =>
    rw [textOr_open (hplain _ (by decide)) hopen.id, textOr_open (hplain _ (by decide))
      (hopen.status htext)]

end

/-! ## Artifacts -/

section

variable {tools : ProviderTools} {context : ContextProviderContext} {results : List JsonDict}

/-- A reference to an artifact with its result and its index there. -/
abbrev FoundRef := JsonDict × Json × Nat

def foundRefs (results : List JsonDict) : List FoundRef :=
  results.flatMap fun result => (listField result "artifact_refs").zipIdx.map fun p => (result, p)

def FoundRef.id (tools : ProviderTools) (found : FoundRef) : String :=
  (tools.artifactRef found.2.1 found.2.2).1

/-- The id of every artifact is printed, and the rest of the first one with that id. -/
structure ArtifactsOpen (tools : ProviderTools) (R : Redaction) (results : List JsonDict) :
    Prop where
  ids : ∀ found ∈ foundRefs results, ∀ fields, found.2.1 = .obj fields →
    ChosenOpen R ["artifact_id", "uri"] fields
  first : ∀ before found after, foundRefs results = before ++ found :: after →
    (∀ earlier ∈ before, FoundRef.id tools earlier ≠ FoundRef.id tools found) →
    ChosenOpen R ["result_id"] found.1 ∧
      ∀ fields, found.2.1 = .obj fields → Open R ["type", "uri", "title"] fields

def maskFound (R : Redaction) (found : FoundRef) : FoundRef :=
  (maskFields R.isSensitiveKey found.1, mask R.isSensitiveKey found.2.1, found.2.2)

theorem foundRefs_mask (hplain : Plain R) :
    foundRefs (results.map (maskFields R.isSensitiveKey)) =
      (foundRefs results).map (maskFound R) := by
  unfold foundRefs
  rw [List.flatMap_map, List.map_flatMap]
  refine List.flatMap_congr fun result _ => ?_
  rw [listField_mask (hplain _ (by decide)), List.zipIdx_map, List.map_map, List.map_map]
  rfl

theorem artifactKeys_plain (hplain : Plain R) :
    ∀ key ∈ ["artifact_id", "uri"], R.isSensitiveKey key = false := by
  simpa using ⟨hplain "artifact_id" (by decide), hplain "uri" (by decide)⟩

theorem FoundRef.id_mask (hplain : Plain R) {found : FoundRef}
    (hopen : ∀ fields, found.2.1 = .obj fields → ChosenOpen R ["artifact_id", "uri"] fields) :
    FoundRef.id tools (maskFound R found) = FoundRef.id tools found := by
  obtain ⟨result, ref, index⟩ := found
  cases ref with
  | obj fields =>
    have hchosen := chosen_open (artifactKeys_plain hplain) (hopen fields rfl)
    simp only [FoundRef.id, maskFound, mask, ProviderTools.artifactRef, textOr_chosen, hchosen]
  | null | bool b | num q | str s | arr items => rfl

theorem obj_of_mask {ref : Json} {fields : JsonDict} (h : mask R.isSensitiveKey ref = .obj fields) :
    ∃ own, ref = .obj own ∧ maskFields R.isSensitiveKey own = fields := by
  cases ref with
  | obj own => exact ⟨own, rfl, Json.obj.inj h⟩
  | null | bool b | num q | str s | arr items => cases h

theorem refIds_mask_iff (hplain : Plain R) {refs : List FoundRef} :
    (∀ found ∈ refs.map (maskFound R), ∀ fields, found.2.1 = .obj fields →
      ChosenOpen R ["artifact_id", "uri"] fields) ↔
    ∀ found ∈ refs, ∀ fields, found.2.1 = .obj fields →
      ChosenOpen R ["artifact_id", "uri"] fields := by
  have hiff : ∀ fields, _ := fun fields =>
    ChosenOpen.mask_iff _ fields (artifactKeys_plain hplain)
  constructor
  · intro h found hfound fields hfields
    refine (hiff fields).1 (h _ (List.mem_map_of_mem hfound) _ ?_)
    simp only [maskFound, hfields, mask]
  · intro h found hfound fields hfields
    obtain ⟨own, hown, rfl⟩ := List.mem_map.1 hfound
    obtain ⟨ownFields, hownFields, rfl⟩ := obj_of_mask hfields
    exact (hiff ownFields).2 (h own hown ownFields hownFields)

theorem ArtifactsOpen.mask_iff (hplain : Plain R) :
    ArtifactsOpen tools R (results.map (maskFields R.isSensitiveKey)) ↔
      ArtifactsOpen tools R results := by
  have hresult : ∀ result : JsonDict, _ := fun result =>
    ChosenOpen.mask_iff (R := R) ["result_id"] result
      (by simpa using hplain "result_id" (by decide))
  have hrest : ∀ fields : JsonDict, _ := fun fields =>
    Open.mask_iff (R := R) ["type", "uri", "title"] fields
      (by simpa using ⟨hplain "type" (by decide), hplain "uri" (by decide),
        hplain "title" (by decide)⟩)
  constructor
  · intro h
    have hids := (refIds_mask_iff hplain).1 (foundRefs_mask hplain ▸ h.ids)
    refine ⟨hids, fun before found after hsplit hnew => ?_⟩
    have hmem : ∀ q ∈ before ++ [found], FoundRef.id tools (maskFound R q) = FoundRef.id tools q :=
      fun q hq => FoundRef.id_mask hplain (hids q (by
        rw [hsplit]
        simp only [List.mem_append, List.mem_cons, List.not_mem_nil, or_false] at hq ⊢
        tauto))
    obtain ⟨hfirst, hfields⟩ := h.first (before.map (maskFound R)) (maskFound R found)
      (after.map (maskFound R)) (by rw [foundRefs_mask hplain, hsplit, List.map_append, List.map_cons])
      (by
        intro earlier hearlier
        obtain ⟨own, hown, rfl⟩ := List.mem_map.1 hearlier
        rw [hmem own (List.mem_append_left _ hown), hmem found (by simp)]
        exact hnew own hown)
    refine ⟨(hresult _).1 hfirst, fun fields heq => (hrest _).1 (hfields _ ?_)⟩
    simp only [maskFound, heq, mask]
  · intro h
    refine ⟨by rw [foundRefs_mask hplain]; exact (refIds_mask_iff hplain).2 h.ids, ?_⟩
    intro before found after hsplit hnew
    rw [foundRefs_mask hplain] at hsplit
    obtain ⟨ownBefore, ownRest, hown, rfl, hownRest⟩ := List.map_eq_append_iff.1 hsplit
    obtain ⟨ownFound, ownAfter, rfl, rfl, rfl⟩ := List.map_eq_cons_iff.1 hownRest
    have hmem : ∀ q ∈ ownBefore ++ [ownFound],
        FoundRef.id tools (maskFound R q) = FoundRef.id tools q :=
      fun q hq => FoundRef.id_mask hplain (h.ids q (by
        rw [hown]
        simp only [List.mem_append, List.mem_cons, List.not_mem_nil, or_false] at hq ⊢
        tauto))
    obtain ⟨hfirst, hfields⟩ := h.first ownBefore ownFound ownAfter hown (by
      intro earlier hearlier
      rw [← hmem earlier (List.mem_append_left _ hearlier), ← hmem ownFound (by simp)]
      exact hnew _ (List.mem_map_of_mem hearlier))
    refine ⟨(hresult _).2 hfirst, fun fields heq => ?_⟩
    obtain ⟨ownFields, hownFields, rfl⟩ := obj_of_mask heq
    exact (hrest _).2 (hfields _ hownFields)

def FoundRef.candidate (tools : ProviderTools) (context : ContextProviderContext)
    (found : FoundRef) : ContextCandidate :=
  tools.artifactCandidate context (tools.textOr found.1 "result_id" "unknown")
    (tools.artifactRef found.2.1 found.2.2)

theorem FoundRef.candidate_id (found : FoundRef) :
    (found.candidate tools context).candidateId = "artifact:" ++ found.id tools := rfl

def keepFirst (candidates : List ContextCandidate) (candidate : ContextCandidate) :
    List ContextCandidate :=
  if candidates.any (·.candidateId = candidate.candidateId) then candidates
  else candidates ++ [candidate]

theorem artifacts_eq (results : List JsonDict) :
    (results.flatMap tools.artifactRefs).foldl (tools.addArtifact context) [] =
      ((foundRefs results).map (FoundRef.candidate tools context)).foldl keepFirst [] := by
  have hrefs : results.flatMap tools.artifactRefs = (foundRefs results).map fun found =>
      (tools.textOr found.1 "result_id" "unknown", tools.artifactRef found.2.1 found.2.2) := by
    unfold foundRefs ProviderTools.artifactRefs
    rw [List.map_flatMap]
    refine List.flatMap_congr fun result _ => ?_
    rw [List.map_map]
    rfl
  rw [hrefs, List.foldl_map, List.foldl_map]
  rfl

theorem keepFirst_of_any {kept : List ContextCandidate} {candidate : ContextCandidate}
    (h : kept.any (·.candidateId = candidate.candidateId) = true) : keepFirst kept candidate = kept :=
  if_pos h

theorem any_foldl_keepFirst (candidates : List ContextCandidate) (id : String) :
    (candidates.foldl keepFirst []).any (·.candidateId = id) =
      candidates.any (·.candidateId = id) := by
  induction candidates using List.reverseRecOn with
  | nil => rfl
  | append_singleton candidates last ih =>
    rw [List.foldl_append, List.foldl_cons, List.foldl_nil, List.any_append, ← ih]
    generalize candidates.foldl keepFirst [] = kept
    unfold keepFirst
    split
    · next hseen =>
      by_cases hid : last.candidateId = id
      · rw [← hid, hseen]
        rfl
      · simp [hid]
    · rw [List.any_append]

/-- What is kept of a list depends on the first of each id. -/
theorem foldl_keepFirst_congr {f g : FoundRef → ContextCandidate} {refs : List FoundRef}
    (hid : ∀ found ∈ refs, (f found).candidateId = (g found).candidateId)
    (hfirst : ∀ before found after, refs = before ++ found :: after →
      (∀ earlier ∈ before, (g earlier).candidateId ≠ (g found).candidateId) → f found = g found) :
    (refs.map f).foldl keepFirst [] = (refs.map g).foldl keepFirst [] := by
  induction refs using List.reverseRecOn with
  | nil => rfl
  | append_singleton refs last ih =>
    have hkept := ih (fun found hfound => hid found (List.mem_append_left _ hfound))
      fun before found after hsplit hnew =>
        hfirst before found (after ++ [last]) (by rw [hsplit, List.append_assoc]; rfl) hnew
    simp only [List.map_append, List.foldl_append, List.map_cons, List.map_nil, List.foldl_cons,
      List.foldl_nil, hkept]
    by_cases hnew : ∀ earlier ∈ refs, (g earlier).candidateId ≠ (g last).candidateId
    · rw [hfirst refs last [] rfl hnew]
    · have hseen : ((refs.map g).foldl keepFirst []).any
          (·.candidateId = (g last).candidateId) = true := by
        rw [any_foldl_keepFirst, List.any_map]
        simpa using hnew
      rw [keepFirst_of_any hseen, keepFirst_of_any (by rwa [hid last (by simp)])]

theorem artifacts_open (hplain : Plain R) (hopen : ArtifactsOpen tools R results) :
    ((results.map (maskFields R.isSensitiveKey)).flatMap tools.artifactRefs).foldl
        (tools.addArtifact context) [] =
      (results.flatMap tools.artifactRefs).foldl (tools.addArtifact context) [] := by
  have hids : ∀ found ∈ foundRefs results,
      FoundRef.id tools (maskFound R found) = FoundRef.id tools found :=
    fun found hfound => FoundRef.id_mask hplain (hopen.ids found hfound)
  rw [artifacts_eq, artifacts_eq, foundRefs_mask hplain, List.map_map]
  refine foldl_keepFirst_congr (fun found hfound => ?_) fun before found after hsplit hnew => ?_
  · rw [Function.comp_apply, FoundRef.candidate_id, FoundRef.candidate_id, hids found hfound]
  · have hfound : found ∈ foundRefs results := by
      rw [hsplit]
      simp
    obtain ⟨hresult, hfields⟩ := hopen.first before found after hsplit fun earlier hearlier heq => by
      refine hnew earlier hearlier ?_
      rw [FoundRef.candidate_id, FoundRef.candidate_id, heq]
    have href : tools.artifactRef (maskFound R found).2.1 (maskFound R found).2.2 =
        tools.artifactRef found.2.1 found.2.2 := by
      have hid := hids found hfound
      obtain ⟨result, ref, index⟩ := found
      cases ref with
      | obj fields =>
        have hrest := hfields fields rfl
        have hchosen := chosen_open (artifactKeys_plain hplain) (hopen.ids _ hfound fields rfl)
        have hartifact : ∀ fallback, tools.textOr (maskFields R.isSensitiveKey fields) "artifact_id"
            (tools.textOr (maskFields R.isSensitiveKey fields) "uri" fallback) =
              tools.textOr fields "artifact_id" (tools.textOr fields "uri" fallback) := by
          intro fallback
          rw [textOr_chosen, textOr_chosen, hchosen]
        simp only [maskFound, mask, ProviderTools.artifactRef]
        rw [hartifact, textOr_open (hplain "type" (by decide)) (hrest.chosen "type" (by simp)),
          textOr_open (hplain "uri" (by decide)) (hrest.chosen "uri" (by simp)),
          getField_open hrest (show "title" ∈ _ by simp) (hplain "title" (by decide))]
      | null | bool b | num q | str s | arr items => rfl
    simp only [Function.comp_apply, FoundRef.candidate, href]
    rw [show (maskFound R found).1 = maskFields R.isSensitiveKey found.1 from rfl,
      textOr_open (hplain "result_id" (by decide)) hresult]

end

/-! ## Events -/

section

variable {tools : ProviderTools} {value : JsonDict}

/-- What is printed of an event, and the id of the result in its payload, has no sensitive key. -/
structure EventOpen (R : Redaction) (value : JsonDict) : Prop where
  fields : ∀ key ∈ ["event_id", "event_type", "status"], ChosenOpen R [key] value
  payload : ∀ payload, objectField value "payload" = some payload →
    ChosenOpen R ["result_id"] payload

theorem eventKeys_plain (hplain : Plain R) :
    ∀ key ∈ ["event_id", "event_type", "status"], R.isSensitiveKey key = false :=
  hplain.on (by decide)

theorem EventOpen.mask_iff (hplain : Plain R) :
    EventOpen R (maskFields R.isSensitiveKey value) ↔ EventOpen R value := by
  have hfields : ∀ key ∈ ["event_id", "event_type", "status"], _ := fun key hkey =>
    ChosenOpen.mask_iff (R := R) [key] value
      (by simpa using eventKeys_plain hplain key hkey)
  have hresult : ∀ payload : JsonDict, _ := fun payload =>
    ChosenOpen.mask_iff (R := R) ["result_id"] payload
      (by simpa using hplain "result_id" (by decide))
  have hpayload := objectField_mask (hplain "payload" (by decide)) value
  constructor
  · intro h
    refine ⟨fun key hkey => (hfields key hkey).1 (h.fields key hkey), fun payload hown => ?_⟩
    exact (hresult payload).1 (h.payload _ (by rw [hpayload, hown]; rfl))
  · intro h
    refine ⟨fun key hkey => (hfields key hkey).2 (h.fields key hkey), fun payload hmasked => ?_⟩
    rw [hpayload] at hmasked
    obtain ⟨own, hown, rfl⟩ := Option.map_eq_some_iff.1 hmasked
    exact (hresult own).2 (h.payload own hown)

theorem eventText_open (hplain : Plain R) (hopen : EventOpen R value) {key : String}
    (hkey : key ∈ ["event_id", "event_type", "status"]) (fallback : String) :
    tools.textOr (maskFields R.isSensitiveKey value) key fallback =
      tools.textOr value key fallback :=
  textOr_open (eventKeys_plain hplain key hkey) (hopen.fields key hkey) fallback

theorem eventDedupeKey_open (hplain : Plain R) (hopen : EventOpen R value) (eventId : String) :
    tools.eventDedupeKey (maskFields R.isSensitiveKey value) eventId =
      tools.eventDedupeKey value eventId := by
  unfold ProviderTools.eventDedupeKey
  rw [objectField_mask (hplain _ (by decide))]
  cases hpayload : objectField value "payload" with
  | none => rfl
  | some payload =>
    have hchosen := chosen_open (by simpa using hplain "result_id" (by decide))
      (hopen.payload payload hpayload)
    unfold chosen at hchosen
    rw [List.findSome?_cons, List.findSome?_cons, List.findSome?_nil] at hchosen
    rw [Option.map_some, Option.bind_some, Option.bind_some]
    cases hmasked : truthyField (maskFields R.isSensitiveKey payload) "result_id" <;>
      cases hown : truthyField payload "result_id" <;> simp_all

end

/-! ## Plans -/

section

variable {tools : ProviderTools} {value : JsonDict}

def unfinishedStatuses : List String := ["pending", "running", "blocked"]

/-- A status that cannot be hashed raises. -/
def StatusesHashable (value : JsonDict) : Prop :=
  ∀ fields, .obj fields ∈ listField value "steps" →
    ∃ unfinished, inTexts (field fields "status") unfinishedStatuses = .ok unfinished

def unfinished : Json → Option JsonDict
  | .obj fields =>
    match inTexts (field fields "status") unfinishedStatuses with
    | .ok true => some fields
    | _ => none
  | _ => none

def unfinishedSteps (value : JsonDict) : List JsonDict :=
  (listField value "steps").filterMap unfinished

def stepKeys : List String := ["step_id", "description"]

def stepLine (tools : ProviderTools) (fields : JsonDict) : String :=
  tools.shown fields "step_id" ++ ": " ++ tools.shown fields "description"

/-- What is printed of a plan has no sensitive key: its id, the first ten of the steps that are not
finished and, if there are none, its status. -/
structure PlanOpen (R : Redaction) (value : JsonDict) : Prop where
  id : ChosenOpen R ["plan_id"] value
  status : unfinishedSteps value = [] → ChosenOpen R ["status"] value
  steps : ∀ fields ∈ (unfinishedSteps value).take 10, Open R stepKeys fields

theorem stepStatus_mask (hplain : Plain R) (fields : JsonDict) :
    inTexts (field (maskFields R.isSensitiveKey fields) "status") unfinishedStatuses =
      inTexts (field fields "status") unfinishedStatuses := by
  rw [field_maskFields_of (hplain _ (by decide)), inTexts_mask]

theorem statusesHashable_mask (hplain : Plain R) :
    StatusesHashable (maskFields R.isSensitiveKey value) ↔ StatusesHashable value := by
  unfold StatusesHashable
  rw [listField_mask (hplain _ (by decide))]
  constructor
  · intro h fields hfields
    obtain ⟨unfinished, hstatus⟩ := h (maskFields R.isSensitiveKey fields)
      (List.mem_map.2 ⟨_, hfields, rfl⟩)
    exact ⟨unfinished, by rwa [stepStatus_mask hplain] at hstatus⟩
  · intro h fields hfields
    obtain ⟨step, hstep, hmask⟩ := List.mem_map.1 hfields
    obtain ⟨own, rfl, rfl⟩ := obj_of_mask hmask
    rw [stepStatus_mask hplain]
    exact h own hstep

theorem unfinishedSteps_mask (hplain : Plain R) :
    unfinishedSteps (maskFields R.isSensitiveKey value) =
      (unfinishedSteps value).map (maskFields R.isSensitiveKey) := by
  unfold unfinishedSteps
  rw [listField_mask (hplain _ (by decide)), List.filterMap_map, List.map_filterMap]
  refine List.filterMap_congr fun step _ => ?_
  cases step with
  | obj fields =>
    simp only [Function.comp_apply, mask, unfinished, stepStatus_mask hplain]
    split <;> rfl
  | null | bool b | num q | str s | arr items => rfl

theorem PlanOpen.mask_iff (hplain : Plain R) :
    PlanOpen R (maskFields R.isSensitiveKey value) ↔ PlanOpen R value := by
  have hid := ChosenOpen.mask_iff (R := R) ["plan_id"] value
    (by simpa using hplain "plan_id" (by decide))
  have hstatus := ChosenOpen.mask_iff (R := R) ["status"] value
    (by simpa using hplain "status" (by decide))
  have hstep : ∀ fields : JsonDict, _ := fun fields =>
    Open.mask_iff (R := R) stepKeys fields (hplain.on (by decide))
  have hsteps : unfinishedSteps (maskFields R.isSensitiveKey value) =
      (unfinishedSteps value).map (maskFields R.isSensitiveKey) := unfinishedSteps_mask hplain
  constructor
  · intro h
    refine ⟨hid.1 h.id, fun hnil => hstatus.1 (h.status (by rw [hsteps, hnil]; rfl)), ?_⟩
    intro fields hfields
    refine (hstep fields).1 (h.steps _ ?_)
    rw [hsteps, ← List.map_take]
    exact List.mem_map_of_mem hfields
  · intro h
    refine ⟨hid.2 h.id, fun hnil => hstatus.2 (h.status ?_), fun fields hfields => ?_⟩
    · rw [hsteps] at hnil
      exact List.map_eq_nil_iff.1 hnil
    · rw [hsteps, ← List.map_take] at hfields
      obtain ⟨own, hown, rfl⟩ := List.mem_map.1 hfields
      exact (hstep own).2 (h.steps own hown)

theorem unfinishedStep_eq {step : Json} (hstatus : ∀ fields, step = .obj fields →
      ∃ unfinished, inTexts (field fields "status") unfinishedStatuses = .ok unfinished) :
    tools.unfinishedStep step = .ok ((unfinished step).map (stepLine tools)) := by
  cases step with
  | obj fields =>
    obtain ⟨pending, hpending⟩ := hstatus fields rfl
    unfold unfinishedStatuses at hpending
    unfold ProviderTools.unfinishedStep unfinished unfinishedStatuses
    dsimp only
    rw [hpending]
    cases pending <;> rfl
  | null | bool b | num q | str s | arr items => rfl

theorem planSummary_eq (hstatuses : StatusesHashable value) :
    tools.planSummary value = .ok (match (unfinishedSteps value).map (stepLine tools) with
      | [] => "Plan " ++ tools.textOr value "plan_id" "-" ++ " status: " ++
          tools.textOr value "status" "unknown"
      | lines => "Active plan unfinished steps:\n" ++ "\n".intercalate (lines.take 10)) := by
  have hlines : (listField value "steps").mapM tools.unfinishedStep =
      .ok ((listField value "steps").map fun step => (unfinished step).map (stepLine tools)) := by
    rw [mapM_congr fun step hstep => unfinishedStep_eq fun fields hfields =>
      hstatuses fields (hfields ▸ hstep)]
    exact List.mapM_pure
  unfold ProviderTools.planSummary unfinishedSteps
  rw [hlines, ok_bind, List.filterMap_map, List.map_filterMap]
  change (match (listField value "steps").filterMap
    (fun step => (unfinished step).map (stepLine tools)) with | [] => _ | _ => _) = _
  cases (listField value "steps").filterMap fun step => (unfinished step).map (stepLine tools) <;> rfl

theorem planSummary_raises (hstatuses : ¬StatusesHashable value) :
    tools.planSummary value = .error (.raised "TypeError") := by
  have hraises : ∀ steps : List Json, ¬(∀ fields, .obj fields ∈ steps →
      ∃ unfinished, inTexts (field fields "status") unfinishedStatuses = .ok unfinished) →
      steps.mapM tools.unfinishedStep = .error (.raised "TypeError") := by
    intro steps
    induction steps with
    | nil => exact fun h => absurd (fun fields hfields => by cases hfields) h
    | cons step steps ih =>
      intro h
      rw [List.mapM_cons]
      by_cases hhead : ∀ fields, step = .obj fields →
          ∃ unfinished, inTexts (field fields "status") unfinishedStatuses = .ok unfinished
      · rw [unfinishedStep_eq hhead, ok_bind, ih fun htail => h fun fields hfields => ?_]
        · rfl
        · rcases List.mem_cons.1 hfields with hfields | hfields
          · exact hhead fields hfields.symm
          · exact htail fields hfields
      · push Not at hhead
        obtain ⟨fields, rfl, hnone⟩ := hhead
        unfold ProviderTools.unfinishedStep
        dsimp only
        cases hstatus : inTexts (field fields "status") ["pending", "running", "blocked"] with
        | ok unfinished => exact absurd hstatus (hnone unfinished)
        | error e => rfl
  unfold ProviderTools.planSummary
  rw [hraises _ hstatuses]
  rfl

theorem planSummary_open (hplain : Plain R) (hopen : StatusesHashable value → PlanOpen R value) :
    tools.planSummary (maskFields R.isSensitiveKey value) = tools.planSummary value := by
  by_cases hstatuses : StatusesHashable value
  · have hopen := hopen hstatuses
    rw [planSummary_eq hstatuses, planSummary_eq ((statusesHashable_mask hplain).2 hstatuses),
      unfinishedSteps_mask hplain, List.map_map]
    have hlines : (((unfinishedSteps value).map
          (stepLine tools ∘ maskFields R.isSensitiveKey)).take 10) =
        ((unfinishedSteps value).map (stepLine tools)).take 10 := by
      rw [← List.map_take, ← List.map_take]
      refine List.map_congr_left fun fields hfields => ?_
      have hstep := hopen.steps fields hfields
      simp only [Function.comp_apply, stepLine,
        shown_open hstep (show "step_id" ∈ stepKeys by decide) (hplain _ (by decide)),
        shown_open hstep (show "description" ∈ stepKeys by decide) (hplain _ (by decide))]
    cases hsteps : unfinishedSteps value with
    | nil =>
      rw [textOr_open (hplain _ (by decide)) hopen.id,
        textOr_open (hplain _ (by decide)) (hopen.status hsteps)]
      rfl
    | cons fields rest =>
      rw [hsteps] at hlines
      rw [List.map_cons] at hlines ⊢
      exact congrArg (fun lines => Except.ok (_ ++ "\n".intercalate lines)) hlines
  · rw [planSummary_raises hstatuses,
      planSummary_raises (mt (statusesHashable_mask hplain).1 hstatuses)]

end

/-! ## Evidence -/

section

variable {tools : ProviderTools} {value : JsonDict}

def evidenceIdKeys : List String := ["id", "evidence_id"]

def sourceItemKeys : List String := ["chunk_id", "item_id", "id"]

/-- What is printed of evidence has no sensitive key: its id, its source and its place there if it
has both, and what is quoted of it if it has no text. -/
structure EvidenceOpen (tools : ProviderTools) (R : Redaction) (value : JsonDict) : Prop where
  id : ChosenOpen R evidenceIdKeys value
  source : (truthyField value "source_id").isSome → (chosen value sourceItemKeys).isSome →
    ChosenOpen R ["source_id"] value ∧ ChosenOpen R sourceItemKeys value
  content : ProviderTools.firstText value evidenceTextKeys = none → TextOpen tools R value

theorem EvidenceOpen.mask_iff (hplain : Plain R) :
    EvidenceOpen tools R (maskFields R.isSensitiveKey value) ↔ EvidenceOpen tools R value := by
  have hid := ChosenOpen.mask_iff (R := R) evidenceIdKeys value
    (hplain.on (by decide))
  have hsource := ChosenOpen.mask_iff (R := R) ["source_id"] value
    (hplain.on (by decide))
  have hitem := ChosenOpen.mask_iff (R := R) sourceItemKeys value
    (hplain.on (by decide))
  have htext : ProviderTools.firstText (maskFields R.isSensitiveKey value) evidenceTextKeys =
      ProviderTools.firstText value evidenceTextKeys :=
    firstText_mask (hplain.on (read_of_mem _ (by simp))) value
  have hsourceSome : (truthyField (maskFields R.isSensitiveKey value) "source_id").isSome =
      (truthyField value "source_id").isSome := by
    rw [truthyField_mask (hplain _ (by decide)), Option.isSome_map]
  have hitemSome : (chosen (maskFields R.isSensitiveKey value) sourceItemKeys).isSome =
      (chosen value sourceItemKeys).isSome := by
    rw [chosen_mask (hplain.on (by decide)), Option.isSome_map]
  constructor
  · intro h
    refine ⟨hid.1 h.id, fun hs hi => ?_, fun hnone => TextOpen.mask_iff.1 (h.content (htext ▸ hnone))⟩
    obtain ⟨hsourceOpen, hitemOpen⟩ := h.source (hsourceSome ▸ hs) (hitemSome ▸ hi)
    exact ⟨hsource.1 hsourceOpen, hitem.1 hitemOpen⟩
  · intro h
    refine ⟨hid.2 h.id, fun hs hi => ?_, fun hnone => TextOpen.mask_iff.2 (h.content (htext ▸ hnone))⟩
    obtain ⟨hsourceOpen, hitemOpen⟩ := h.source (hsourceSome ▸ hs) (hitemSome ▸ hi)
    exact ⟨hsource.2 hsourceOpen, hitem.2 hitemOpen⟩

theorem evidenceContent_open (hplain : Plain R) (hopen : EvidenceOpen tools R value) :
    tools.evidenceContent (maskFields R.isSensitiveKey value) = tools.evidenceContent value := by
  have hfirst : ProviderTools.firstText (maskFields R.isSensitiveKey value) evidenceTextKeys =
      ProviderTools.firstText value evidenceTextKeys :=
    firstText_mask (hplain.on (read_of_mem _ (by simp))) value
  change (ProviderTools.firstText _ evidenceTextKeys).getD _ =
    (ProviderTools.firstText _ evidenceTextKeys).getD _
  rw [hfirst]
  cases htext : ProviderTools.firstText value evidenceTextKeys with
  | some text => rw [Option.getD_some, Option.getD_some]
  | none => rw [boundedJson_open (hopen.content htext)]

theorem sourceItemKey_chosen (fallback : String) :
    tools.sourceItemKey value fallback =
      match truthyField value "source_id", chosen value sourceItemKeys with
      | some sourceId, some itemId =>
        "source:" ++ tools.py.str sourceId ++ ":" ++ tools.py.str itemId
      | _, _ => "evidence:" ++ fallback := by
  have hchosen : chosen value sourceItemKeys = ((truthyField value "chunk_id").or
      (truthyField value "item_id")).or (truthyField value "id") := by
    unfold chosen sourceItemKeys
    simp only [List.findSome?_cons, List.findSome?_nil]
    cases truthyField value "chunk_id" <;> cases truthyField value "item_id" <;>
      cases truthyField value "id" <;> rfl
  rw [hchosen]
  rfl

theorem sourceItemKey_open (hplain : Plain R) (hopen : EvidenceOpen tools R value)
    (fallback : String) :
    tools.sourceItemKey (maskFields R.isSensitiveKey value) fallback =
      tools.sourceItemKey value fallback := by
  have hitemMask : chosen (maskFields R.isSensitiveKey value) sourceItemKeys =
      (chosen value sourceItemKeys).map (mask R.isSensitiveKey) :=
    chosen_mask (hplain.on (by decide))
  rw [sourceItemKey_chosen, sourceItemKey_chosen, hitemMask,
    truthyField_mask (hplain _ (by decide))]
  cases hsource : truthyField value "source_id" with
  | none => rfl
  | some sourceId =>
    cases hitem : chosen value sourceItemKeys with
    | none => rfl
    | some itemId =>
      obtain ⟨hsourceOpen, hitemOpen⟩ := hopen.source (by rw [hsource]; rfl) (by rw [hitem]; rfl)
      rw [Option.map_some, Option.map_some, mask_of_shows (hitemOpen _ hitem),
        mask_of_shows (hsourceOpen _ (by simp [chosen, hsource]))]

end

/-! ## Candidates -/

section

variable {service : ContextPipelineService} {tools : ProviderTools}
  {context : ContextProviderContext} {value : JsonDict}

/-- A candidate whose structured value and metadata are masked is governed alike. -/
theorem governed_mask {c d : ContextCandidate}
    (h : { c with structuredValue := none, metadata := [] } =
      { d with structuredValue := none, metadata := [] })
    (hvalue : c.structuredValue =
      d.structuredValue.map (maskFields service.redaction.isSensitiveKey))
    (hmetadata : c.metadata = maskFields service.redaction.isSensitiveKey d.metadata) :
    service.governed c = service.governed d := by
  have hprojection : boundedProjection service.redaction c.structuredValue c.source =
      boundedProjection service.redaction d.structuredValue d.source := by
    have hsource := congrArg ContextCandidate.source h
    change c.source = d.source at hsource
    rw [hvalue, hsource]
    cases d.structuredValue with
    | none => rfl
    | some fields => exact boundedProjection_mask fields d.source
  have hfields : boundedFields service.redaction c.metadata =
      boundedFields service.redaction d.metadata := by
    rw [hmetadata, boundedFields_mask]
  unfold governed
  rw [hprojection, hfields]
  cases c
  cases d
  simp_all

theorem frontendContext_open (hplain : Plain service.redaction) {request : ProviderRequest}
    (hopen : TextOpen tools service.redaction
      (ProviderTools.pickFields ProviderTools.frontendKeys request.frontendContext))
    (call : ProviderCall) :
    (tools.frontendContext (call.context
        { request with
          frontendContext :=
            maskFields service.redaction.isSensitiveKey request.frontendContext })).map
        service.governed =
      (tools.frontendContext (call.context request)).map service.governed := by
  unfold ProviderTools.frontendContext
  simp only [List.map_cons, List.map_nil]
  refine congrArg (fun c => [c]) (governed_mask ?_ rfl ?_)
  · simp only [ProviderCall.context, frontendSummary_open hopen]
    rfl
  · simp [maskFields, hplain "permission_evidence" (by decide), mask]

theorem resultCandidate_open (hplain : Plain service.redaction) (hscalar : ScalarTools tools)
    (hopen : ResultOpen service.redaction value) (index : Nat) :
    (tools.resultCandidate context (maskFields service.redaction.isSensitiveKey value) index).map
        service.governed =
      (tools.resultCandidate context value index).map service.governed := by
  have hid : ∀ fallback,
      tools.textOr (maskFields service.redaction.isSensitiveKey value) "result_id" fallback =
        tools.textOr value "result_id" fallback :=
    textOr_open (hplain _ (by decide)) hopen.id
  have hsummary : tools.resultSummary (maskFields service.redaction.isSensitiveKey value) =
      tools.resultSummary value := resultSummary_open hplain hopen
  have hcreated := createdAt_mask hplain hscalar value
  have hrefs : (truthyField (maskFields service.redaction.isSensitiveKey value)
        "artifact_refs").getD (.arr []) =
      mask service.redaction.isSensitiveKey
        ((truthyField value "artifact_refs").getD (.arr [])) := by
    rw [truthyField_mask (hplain _ (by decide))]
    cases truthyField value "artifact_refs" <;> rfl
  unfold ProviderTools.resultCandidate
  simp only [hid, hsummary, hcreated, hrefs]
  cases tools.createdAt value with
  | error e => rfl
  | ok created =>
    have hget := hplain.gets ["result_id", "run_id", "agent_id", "plan_id", "step_id",
      "status", "artifact_refs", "summary"] (read_of_mem _ (by simp)) value
    simp only [List.mem_cons, List.not_mem_nil, or_false, forall_eq_or_imp, forall_eq] at hget
    refine congrArg Except.ok (governed_mask rfl ?_ ?_)
    · simp only [Option.map_some, maskFields, mask, hget, Bool.false_eq_true, if_false]
    · simp only [maskFields, mask, hget, Bool.false_eq_true, if_false]

theorem eventCandidate_open (hplain : Plain service.redaction) (hscalar : ScalarTools tools)
    (hopen : EventOpen service.redaction value) (index : Nat) :
    (tools.eventCandidate context (maskFields service.redaction.isSensitiveKey value) index).map
        service.governed =
      (tools.eventCandidate context value index).map service.governed := by
  have htext : ∀ key ∈ ["event_id", "event_type", "status"], ∀ fallback,
      tools.textOr (maskFields service.redaction.isSensitiveKey value) key fallback =
        tools.textOr value key fallback := fun _ hkey => eventText_open hplain hopen hkey
  simp only [List.mem_cons, List.not_mem_nil, or_false, forall_eq_or_imp, forall_eq] at htext
  have hsummary : tools.eventSummary (maskFields service.redaction.isSensitiveKey value) =
      tools.eventSummary value := by
    unfold ProviderTools.eventSummary
    simp only [htext]
  have hcreated := createdAt_mask hplain hscalar value
  have hdedupe : ∀ eventId,
      tools.eventDedupeKey (maskFields service.redaction.isSensitiveKey value) eventId =
        tools.eventDedupeKey value eventId := eventDedupeKey_open hplain hopen
  have hreferenced : (truthyField (maskFields service.redaction.isSensitiveKey value)
        "referenced").isSome = (truthyField value "referenced").isSome := by
    rw [truthyField_mask (hplain _ (by decide)), Option.isSome_map]
  unfold ProviderTools.eventCandidate
  simp only [htext, hsummary, hcreated, hdedupe, hreferenced]
  cases tools.createdAt value with
  | error e => rfl
  | ok created =>
    have hget := hplain.gets ["event_id", "event_type", "agent_id", "referenced"]
      (read_of_mem _ (by simp)) value
    simp only [List.mem_cons, List.not_mem_nil, or_false, forall_eq_or_imp, forall_eq] at hget
    refine congrArg Except.ok (governed_mask rfl rfl ?_)
    simp only [maskFields, mask, hget, Bool.false_eq_true, if_false]

/-- The score of evidence, from the first of three fields. -/
def scoreOf (tools : ProviderTools) (value : JsonDict) : Except CollectError Rat :=
  tools.boundedScore (((truthyField value "score").or (truthyField value "confidence")).getD
    (getField value "relevance"))

theorem scoreOf_mask (hplain : Plain R) (hscalar : ScalarTools tools) :
    scoreOf tools (maskFields R.isSensitiveKey value) = scoreOf tools value := by
  unfold scoreOf
  rw [truthyField_mask (hplain _ (by decide)), truthyField_mask (hplain _ (by decide)),
    getField_mask (hplain _ (by decide))]
  cases truthyField value "score" <;> cases truthyField value "confidence" <;>
    exact boundedScore_mask hscalar _

theorem evidenceCandidate_open (hplain : Plain service.redaction) (hscalar : ScalarTools tools)
    (hopen : EvidenceOpen tools service.redaction value) (index : Nat) :
    (tools.evidenceCandidate context (maskFields service.redaction.isSensitiveKey value) index).map
        service.governed =
      (tools.evidenceCandidate context value index).map service.governed := by
  have hid : ∀ fallback, tools.textOr (maskFields service.redaction.isSensitiveKey value) "id"
      (tools.textOr (maskFields service.redaction.isSensitiveKey value) "evidence_id" fallback) =
        tools.textOr value "id" (tools.textOr value "evidence_id" fallback) := by
    intro fallback
    rw [textOr_chosen, textOr_chosen]
    exact congrArg (fun item => (Option.map tools.py.str item).getD fallback)
      (chosen_open (hplain.on (by decide)) hopen.id)
  have hscore : scoreOf tools (maskFields service.redaction.isSensitiveKey value) =
      scoreOf tools value := scoreOf_mask hplain hscalar
  unfold scoreOf at hscore
  have hcontent := evidenceContent_open hplain hopen
  have hitem := sourceItemKey_open hplain hopen
  unfold ProviderTools.evidenceCandidate
  simp only [hid, hscore, hcontent, hitem]
  cases tools.boundedScore (((truthyField value "score").or (truthyField value "confidence")).getD
      (getField value "relevance")) with
  | error e => rfl
  | ok score =>
    have hget := hplain.gets ["evidence_id", "source_id", "score"] (read_of_mem _ (by simp)) value
    simp only [List.mem_cons, List.not_mem_nil, or_false, forall_eq_or_imp, forall_eq] at hget
    refine congrArg Except.ok (governed_mask rfl rfl ?_)
    simp only [maskFields, mask, hget, Bool.false_eq_true, if_false]

end

/-! ## Lists of values -/

section

variable {values : List Json}

theorem indexedObjects_mask (values : List Json) :
    indexedObjects (some (.arr (maskItems R.isSensitiveKey values))) =
      (indexedObjects (some (.arr values))).map fun p =>
        (maskFields R.isSensitiveKey p.1, p.2) := by
  unfold indexedObjects
  dsimp only
  rw [maskItems_eq, List.zipIdx_map, List.filterMap_map, List.map_filterMap]
  refine List.filterMap_congr fun p _ => ?_
  obtain ⟨value, index⟩ := p
  cases value <;> rfl

theorem mem_of_indexedObjects {p : JsonDict × Nat} (h : p ∈ indexedObjects (some (.arr values))) :
    .obj p.1 ∈ values := by
  unfold indexedObjects at h
  obtain ⟨⟨value, index⟩, hmem, hvalue⟩ := List.mem_filterMap.1 h
  cases value with
  | obj fields =>
    cases hvalue
    exact List.fst_mem_of_mem_zipIdx hmem
  | _ => cases hvalue

theorem exists_indexedObject {fields : JsonDict} (h : .obj fields ∈ values) :
    ∃ index, (fields, index) ∈ indexedObjects (some (.arr values)) := by
  obtain ⟨index, hindex⟩ := List.getElem?_of_mem h
  refine ⟨index, List.mem_filterMap.2 ⟨(.obj fields, index), ?_, rfl⟩⟩
  simpa [List.mem_zipIdx_iff_getElem?] using hindex

/-- Candidates made of the objects of a list and of those of its mask. Where one of them is not
read, none is made. -/
theorem mapM_indexedObjects_mask {α : Type} {service : ContextPipelineService}
    {candidate : JsonDict → Nat → Except CollectError ContextCandidate}
    {reads : JsonDict → Except CollectError α}
    (hreads : ∀ fields index, (candidate fields index).map (fun _ => ()) =
      (reads fields).map fun _ => ())
    (hmask : ∀ fields, reads (maskFields R.isSensitiveKey fields) = reads fields)
    (h : (∀ fields, .obj fields ∈ values → ∃ a, reads fields = .ok a) →
      ∀ fields index, .obj fields ∈ values →
        (candidate (maskFields R.isSensitiveKey fields) index).map service.governed =
          (candidate fields index).map service.governed) :
    ((indexedObjects (some (.arr (maskItems R.isSensitiveKey values)))).mapM
        fun p => candidate p.1 p.2).map (List.map service.governed) =
      ((indexedObjects (some (.arr values))).mapM
        fun p => candidate p.1 p.2).map (List.map service.governed) := by
  rw [indexedObjects_mask, List.mapM_map]
  by_cases hall : ∀ fields, .obj fields ∈ values → ∃ a, reads fields = .ok a
  · rw [← mapM_map fun _ _ => rfl, ← mapM_map fun _ _ => rfl]
    exact mapM_congr fun p hp => h hall p.1 p.2 (mem_of_indexedObjects hp)
  · refine Except.map_eq_of_raises _ _ (Except.mapM_raises_congr fun p _ => ?_) fun hok => hall ?_
    · exact (hreads _ _).trans ((congrArg _ (hmask p.1)).trans (hreads _ _).symm)
    · intro fields hfields
      obtain ⟨index, hindex⟩ := exists_indexedObject hfields
      obtain ⟨c, hc⟩ := Except.mapM_ok_iff.1 hok _ hindex
      have hread := (hreads (maskFields R.isSensitiveKey fields) index).symm.trans
        (congrArg (Except.map _) hc)
      rw [hmask] at hread
      cases hown : reads fields with
      | ok a => exact ⟨a, rfl⟩
      | error e =>
        rw [hown] at hread
        cases hread

end

end OpenIntentRouter.Context
