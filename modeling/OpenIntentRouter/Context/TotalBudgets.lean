import OpenIntentRouter.Context.RequestBudgets

/-!
# Requests whose budget can be computed

`ContextService.context_budget_for_request` (app/services/context_service.py:337-377, 928-981)
computes the budget of a request from the settings and from what the request asks for, be it
typed or in its frontend context, which may be any JSON. A field of the frontend context that is
not understood is skipped in some places and raises in others; the fields in camel case are
copied under their other name, but not taken away, and the schema forbids them.

The settings are arbitrary, as the configuration accepts any number, and so is the frontend
context. Parameters: `pydantic`, what the validation of a field reads a value as, `isInt`, which
numbers are an `int`, and `int(s)` for the source budgets of the settings. `float(value)` and
the division are those of doubles.

Results:
* `validateBudget_isSome_iff`: the mappings that the schema takes, by their keys and types;
* `mappedBudget_ok_iff`, `frontendBudget_ok_iff`: the frontend contexts that do not raise;
* `budget_total_iff`: when a valid budget within the settings is computed;
* `camel_case_budget_raises`: a budget in camel case.
-/
namespace OpenIntentRouter.Context

open Core Core.Except Schemas Services Services.ContextPipelineService Services.ContextService

/-! ## The schema -/

/-- A limit is left out, null, or read as a positive number. -/
def LimitField (pydantic : Pydantic) (data : JsonDict) (name : String) : Prop :=
  ∀ value, Json.field data name = some value →
    value = .null ∨ ∃ limit, pydantic.int value = some limit ∧ 0 < limit

/-- The fields of a budget other than its tokens are read as what they are to be. -/
structure TypedFields (pydantic : Pydantic) (data : JsonDict) : Prop where
  sources : ∀ value, Json.field data "source_budgets" = some value →
    ∃ fields, value = .obj fields ∧ ∀ p ∈ fields, (pydantic.int p.2).isSome
  itemTokens : LimitField pydantic data "per_item_token_limit"
  itemChars : LimitField pydantic data "per_item_char_limit"
  rate : ∀ value, Json.field data "chars_per_token" = some value →
    ∃ q, pydantic.float value = some q ∧ 0 < q
  placeholder : ∀ value, Json.field data "allow_summary_placeholder" = some value →
    (pydantic.bool value).isSome

variable {value : Json} {sourceBudgets : Dict String Int}
  {perItemTokenLimit perItemCharLimit : Option Int} {allowSummaryPlaceholder : Bool}
  {requested : Option ContextBudget} {tokens : Int} {budget : ContextBudget}

section Schema

variable {pydantic : Pydantic} {data other : JsonDict} {name : String} {tokens : Option Int}

theorem contextBudget_eq_ok {maxTokens : Int} {charsPerToken : Rat} :
    (∃ budget, contextBudget maxTokens sourceBudgets perItemTokenLimit perItemCharLimit
      charsPerToken allowSummaryPlaceholder = .ok budget) ↔
      0 < maxTokens ∧ (∀ limit ∈ perItemTokenLimit, 0 < limit) ∧
        (∀ limit ∈ perItemCharLimit, 0 < limit) ∧ 0 < charsPerToken := by
  unfold contextBudget
  split
  · next h => exact iff_of_true ⟨_, rfl⟩ h
  · next h => exact iff_of_false (by simp) h

theorem fieldOr_iff {α : Type} {default : α} {read : Json → Option α} {P : α → Prop}
    (hdefault : P default) :
    (∃ a, Pydantic.fieldOr data name default read = some a ∧ P a) ↔
      ∀ value, Json.field data name = some value → ∃ a, read value = some a ∧ P a := by
  unfold Pydantic.fieldOr
  cases Json.field data name with
  | none => exact iff_of_true ⟨default, rfl, hdefault⟩ fun _ h => by cases h
  | some value => simp

theorem optionalInt_iff :
    (∃ limit, pydantic.optionalInt value = some limit ∧ ∀ n ∈ limit, 0 < n) ↔
      value = .null ∨ ∃ limit, pydantic.int value = some limit ∧ 0 < limit := by
  by_cases hnull : value = .null
  · subst hnull
    exact iff_of_true ⟨none, rfl, by simp⟩ (.inl rfl)
  · have hread : pydantic.optionalInt value = (pydantic.int value).map some := by
      cases value <;> first | rfl | exact absurd rfl hnull
    rw [hread, or_iff_right hnull]
    cases pydantic.int value <;> simp

theorem foldlM_int_isSome {fields : JsonDict} (d : Dict String Int) :
    (fields.foldlM (fun d p => (pydantic.int p.2).map (d.set p.1)) d).isSome ↔
      ∀ p ∈ fields, (pydantic.int p.2).isSome := by
  induction fields generalizing d with
  | nil => simp
  | cons p fields ih =>
    rw [List.foldlM_cons, List.forall_mem_cons]
    cases pydantic.int p.2 with
    | none => simp
    | some n => simpa using ih (d.set p.1 n)

theorem intDict_iff :
    (∃ d, pydantic.intDict value = some d ∧ True) ↔
      ∃ fields, value = .obj fields ∧ ∀ p ∈ fields, (pydantic.int p.2).isSome := by
  cases value with
  | obj fields =>
    simp only [and_true, Json.obj.injEq, exists_eq_left', ← foldlM_int_isSome .empty]
    exact Option.isSome_iff_exists.symm
  | null | bool _ | num _ | str _ | arr _ => simp [Pydantic.intDict]

/-- The schema takes a mapping of its fields that are read as what they are to be, with positive
tokens. -/
theorem validateBudget_isSome_iff :
    (pydantic.validateBudget tokens data).isSome ↔
      data.map Prod.fst ⊆ budgetFields ∧ TypedFields pydantic data ∧
        ∃ n, tokens.or ((Json.field data "max_tokens").bind pydantic.int) = some n ∧ 0 < n := by
  have hbool : ∀ value, (∃ b, pydantic.bool value = some b ∧ True) ↔ (pydantic.bool value).isSome :=
    fun value => by simp [Option.isSome_iff_exists]
  have hparts : TypedFields pydantic data ↔
      (∃ d, Pydantic.fieldOr data "source_budgets" .empty pydantic.intDict = some d ∧ True) ∧
      (∃ limit, Pydantic.fieldOr data "per_item_token_limit" none pydantic.optionalInt =
        some limit ∧ ∀ n ∈ limit, 0 < n) ∧
      (∃ limit, Pydantic.fieldOr data "per_item_char_limit" none pydantic.optionalInt =
        some limit ∧ ∀ n ∈ limit, 0 < n) ∧
      (∃ q, Pydantic.fieldOr data "chars_per_token" 4 pydantic.float = some q ∧ 0 < q) ∧
      ∃ b, Pydantic.fieldOr data "allow_summary_placeholder" true pydantic.bool = some b ∧ True := by
    rw [fieldOr_iff trivial, fieldOr_iff (by simp), fieldOr_iff (by simp), fieldOr_iff (by norm_num),
      fieldOr_iff trivial]
    simp only [intDict_iff, optionalInt_iff, hbool]
    exact ⟨fun h => ⟨h.sources, h.itemTokens, h.itemChars, h.rate, h.placeholder⟩,
      fun ⟨hsources, hitem, hchars, hrate, hplaceholder⟩ =>
        ⟨hsources, hitem, hchars, hrate, hplaceholder⟩⟩
  have hbudget : ∀ maxTokens sources itemTokens itemChars rate placeholder,
      (∃ budget, (contextBudget maxTokens sources itemTokens itemChars rate placeholder).toOption =
        some budget) ↔
      0 < maxTokens ∧ (∀ n ∈ itemTokens, 0 < n) ∧ (∀ n ∈ itemChars, 0 < n) ∧ 0 < rate := by
    intro maxTokens sources itemTokens itemChars rate placeholder
    rw [← contextBudget_eq_ok]
    cases contextBudget maxTokens sources itemTokens itemChars rate placeholder <;>
      simp [Except.toOption]
  rw [hparts]
  unfold Pydantic.validateBudget
  have hkeys : (data.all fun p => p.1 ∈ budgetFields) = true ↔ data.map Prod.fst ⊆ budgetFields := by
    simp [List.subset_def]
  by_cases hknown : data.map Prod.fst ⊆ budgetFields
  · rw [if_pos (hkeys.2 hknown), and_iff_right hknown]
    simp only [Option.isSome_iff_exists, Option.bind_eq_bind, Option.bind_eq_some_iff]
    constructor
    · rintro ⟨budget, n, hn, d, hd, l, hl, c, hc, q, hq, b, hb, hok⟩
      obtain ⟨hpos, hitem, hchars, hrate⟩ := (hbudget n d l c q b).1 ⟨budget, hok⟩
      exact ⟨⟨⟨d, hd, trivial⟩, ⟨l, hl, hitem⟩, ⟨c, hc, hchars⟩, ⟨q, hq, hrate⟩, ⟨b, hb, trivial⟩⟩,
        n, hn, hpos⟩
    · rintro ⟨⟨⟨d, hd, -⟩, ⟨l, hl, hitem⟩, ⟨c, hc, hchars⟩, ⟨q, hq, hrate⟩, ⟨b, hb, -⟩⟩, n, hn, hpos⟩
      obtain ⟨budget, hok⟩ := (hbudget n d l c q b).2 ⟨hpos, hitem, hchars, hrate⟩
      exact ⟨budget, n, hn, d, hd, l, hl, c, hc, q, hq, b, hb, hok⟩
  · rw [if_neg fun h => hknown (hkeys.1 h)]
    exact iff_of_false (by simp) fun h => hknown h.1

theorem TypedFields.congr
    (h : ∀ name ∈ budgetFields, name ≠ "max_tokens" → Json.field data name = Json.field other name) :
    TypedFields pydantic data ↔ TypedFields pydantic other := by
  have hsources := h "source_budgets" (by decide) (by decide)
  have hitem := h "per_item_token_limit" (by decide) (by decide)
  have hchars := h "per_item_char_limit" (by decide) (by decide)
  have hrate := h "chars_per_token" (by decide) (by decide)
  have hplaceholder := h "allow_summary_placeholder" (by decide) (by decide)
  constructor <;> intro ht
  · exact ⟨hsources ▸ ht.sources, fun v hv => ht.itemTokens v (hitem ▸ hv),
      fun v hv => ht.itemChars v (hchars ▸ hv), hrate ▸ ht.rate, hplaceholder ▸ ht.placeholder⟩
  · exact ⟨hsources ▸ ht.sources, fun v hv => ht.itemTokens v (hitem ▸ hv),
      fun v hv => ht.itemChars v (hchars ▸ hv), hrate ▸ ht.rate, hplaceholder ▸ ht.placeholder⟩

end Schema

/-! ## The frontend context -/

def budgetMapping (context : JsonDict) : Option JsonDict :=
  let mapping := fun name =>
    match Json.field context name with
    | some (.obj data) => some data
    | _ => none
  (mapping "context_budget").or (mapping "contextBudget")

/-- The limit of characters of a frontend context, if it is a positive integer. -/
def characterLimit (service : ContextService) (context : JsonDict) : Option Int :=
  ((spelled context "context_char_limit" "contextCharLimit").bind service.integer).filter (0 < ·)

def camelNames : List (String × String) :=
  [("max_tokens", "maxTokens"), ("source_budgets", "sourceBudgets"),
    ("per_item_token_limit", "perItemTokenLimit"), ("per_item_char_limit", "perItemCharLimit"),
    ("chars_per_token", "charsPerToken")]

def renamed (data : JsonDict) : JsonDict :=
  camelNames.foldl copyField (data.filter (·.1 ≠ "max_chars"))

/-- A budget of the frontend context does not raise: it has no field but those of the schema and
`max_chars`, its values are of their types, and its tokens are positive, or counted from a positive
number of characters that can be divided by its rate. -/
structure ReadableBudget (service : ContextService) (data : JsonDict) : Prop where
  known : data.map Prod.fst ⊆ "max_chars" :: budgetFields
  typed : TypedFields service.pydantic data
  tokens : match Json.field data "max_tokens" with
    | some value => ∃ n, service.pydantic.int value = some n ∧ 0 < n
    | none => ∃ maxChars chars rate, Json.field data "max_chars" = some maxChars ∧
        service.integer maxChars = some chars ∧ 0 < chars ∧
        service.charsPerTokenOf [Json.field data "chars_per_token"] = .ok rate ∧
        Double.Divides chars rate

/-- A frontend context does not raise: its budget does not, or without one its limit of characters
can be divided by its rate. -/
def Readable (service : ContextService) (context : JsonDict) : Prop :=
  match budgetMapping context with
  | some data => ReadableBudget service data
  | none => ∀ limit, characterLimit service context = some limit → ∃ rate,
      service.charsPerTokenOf
        [Json.field context "chars_per_token", Json.field context "charsPerToken"] = .ok rate ∧
      Double.Divides limit rate

def Asks (service : ContextService) (context : JsonDict) : Prop :=
  (budgetMapping context).isSome ∨ (characterLimit service context).isSome

section Frontend

variable {service : ContextService} {context data : JsonDict} {chars : Int} {rate : Double}

theorem tokensOfChars_ok_iff :
    (∃ tokens, tokensOfChars chars rate = .ok tokens) ↔ Double.Divides chars rate := by
  rw [← Double.ceilDiv_isSome_iff]
  unfold tokensOfChars
  cases Double.ceilDiv chars rate with
  | none => simp
  | some tokens => simp

theorem tokensOfChars_pos (h : tokensOfChars chars rate = .ok tokens) : 0 < tokens := by
  unfold tokensOfChars at h
  cases hdiv : Double.ceilDiv chars rate with
  | none =>
    rw [hdiv] at h
    cases h
  | some quotient =>
    rw [hdiv] at h
    obtain rfl := Except.ok.inj h
    have := le_max_left 1 quotient
    omega

theorem contextBudget_tokens (h : 0 < tokens) :
    ∃ budget, contextBudget tokens .empty none none 4 true = .ok budget := by
  refine ⟨_, dif_pos ⟨h, ?_, ?_, by norm_num⟩⟩
  · simp
  · simp

def limitBudget (service : ContextService) (context : JsonDict) :
    Except ContextError (Option ContextBudget) :=
  match characterLimit service context with
  | none => .ok none
  | some limit => do
    let rate ← service.charsPerTokenOf
      [Json.field context "chars_per_token", Json.field context "charsPerToken"]
    let tokens ← tokensOfChars limit rate
    return some (← contextBudget tokens .empty none none 4 true)

def validatedBudget (service : ContextService) (tokens : Option Int) (data : JsonDict) :
    Except ContextError (Option ContextBudget) :=
  match service.pydantic.validateBudget tokens (renamed data) with
  | some budget => .ok (some budget)
  | none => .error .validation

def mappedBudget (service : ContextService) (data : JsonDict) :
    Except ContextError (Option ContextBudget) :=
  match Json.field data "max_chars", Json.field data "max_tokens" with
  | some maxChars, none => do
    let rate ← service.charsPerTokenOf [Json.field data "chars_per_token"]
    match (service.integer maxChars).filter (0 < ·) with
    | some chars => do
      let tokens ← tokensOfChars chars rate
      validatedBudget service (some tokens) (JsonDict.set data "max_tokens" (.num tokens))
    | none => validatedBudget service none data
  | _, _ => validatedBudget service none data

theorem frontendBudget_eq :
    service.frontendBudget context =
      match budgetMapping context with
      | none => limitBudget service context
      | some data => mappedBudget service data := by
  unfold ContextService.frontendBudget
  show (match budgetMapping context with | none => _ | some data => _) = _
  cases budgetMapping context with
  | none =>
    unfold limitBudget characterLimit
    cases (spelled context "context_char_limit" "contextCharLimit").bind service.integer with
    | none => rfl
    | some limit =>
      rw [Option.filter_some]
      dsimp only
      by_cases hpos : 0 < limit
      · rw [if_pos hpos, if_pos (decide_eq_true hpos)]
      · rw [if_neg hpos, if_neg (by simpa using hpos)]
  | some data =>
    dsimp only
    unfold mappedBudget
    cases hchars : Json.field data "max_chars" with
    | none => rfl
    | some maxChars =>
      cases htokens : Json.field data "max_tokens" with
      | some tokens => rfl
      | none =>
        dsimp only
        cases service.charsPerTokenOf [Json.field data "chars_per_token"] with
        | error e => rfl
        | ok rate =>
          cases service.integer maxChars with
          | none => rfl
          | some chars =>
            rw [Option.filter_some]
            show (if 0 < chars then _ else _) = _
            by_cases hpos : 0 < chars
            · rw [if_pos hpos, if_pos (decide_eq_true hpos)]
              rfl
            · rw [if_neg hpos, if_neg (by simpa using hpos)]
              rfl

theorem limitBudget_ok_iff :
    (∃ requested, limitBudget service context = .ok requested) ↔
      ∀ limit, characterLimit service context = some limit → ∃ rate,
        service.charsPerTokenOf
          [Json.field context "chars_per_token", Json.field context "charsPerToken"] = .ok rate ∧
        Double.Divides limit rate := by
  unfold limitBudget
  cases characterLimit service context with
  | none => simp
  | some limit =>
    simp only [Option.some.injEq, forall_eq']
    constructor
    · rintro ⟨requested, h⟩
      obtain ⟨rate, hrate, h⟩ := bind_eq_ok.1 h
      obtain ⟨tokens, htokens, -⟩ := bind_eq_ok.1 h
      exact ⟨rate, hrate, tokensOfChars_ok_iff.1 ⟨tokens, htokens⟩⟩
    · rintro ⟨rate, hrate, hdivides⟩
      obtain ⟨tokens, htokens⟩ := tokensOfChars_ok_iff.2 hdivides
      obtain ⟨budget, hbudget⟩ := contextBudget_tokens (tokensOfChars_pos htokens)
      refine ⟨some budget, ?_⟩
      rw [hrate, ok_bind, htokens, ok_bind, hbudget]
      rfl

theorem limitBudget_isSome (h : limitBudget service context = .ok requested) :
    requested.isSome = true ↔ (characterLimit service context).isSome = true := by
  unfold limitBudget at h
  cases hlimit : characterLimit service context with
  | none =>
    rw [hlimit] at h
    obtain rfl := Except.ok.inj h
    rfl
  | some limit =>
    rw [hlimit] at h
    obtain ⟨rate, -, h⟩ := bind_eq_ok.1 h
    obtain ⟨tokens, -, h⟩ := bind_eq_ok.1 h
    obtain ⟨budget, -, h⟩ := bind_eq_ok.1 h
    cases h
    exact iff_of_true rfl rfl

/-! ### The renamed fields -/

theorem subset_keys_set (d : JsonDict) (key : String) (value : Json) :
    d.map Prod.fst ⊆ (JsonDict.set d key value).map Prod.fst := by
  rw [JsonDict.set_keys]
  split
  · exact List.Subset.refl _
  · exact List.subset_append_left _ _

theorem subset_keys_copyField (p : String × String) :
    data.map Prod.fst ⊆ (copyField data p).map Prod.fst := by
  unfold copyField
  split
  · exact subset_keys_set _ _ _
  · exact List.Subset.refl _

theorem copyField_of_field {p : String × String} (h : p.2 ∉ data.map Prod.fst) :
    copyField data p = data := by
  unfold copyField
  split
  · next hfield _ => exact absurd (List.mem_map.2 ⟨_, Json.mem_of_field hfield, rfl⟩) h
  · rfl

theorem keys_filter : (data.filter (·.1 ≠ "max_chars")).map Prod.fst =
    (data.map Prod.fst).filter (· ≠ "max_chars") := by
  rw [List.filter_map]
  rfl

theorem filter_subset_iff {keys : List String} :
    keys.filter (· ≠ "max_chars") ⊆ budgetFields ↔ keys ⊆ "max_chars" :: budgetFields := by
  simp only [List.subset_def, List.mem_filter, decide_eq_true_eq, List.mem_cons, and_imp]
  exact forall₂_congr fun key _ => by rw [or_iff_not_imp_left]

theorem foldl_copyField_of_known (h : data.map Prod.fst ⊆ budgetFields) :
    camelNames.foldl copyField data = data := by
  have hcamel : ∀ p ∈ camelNames, p.2 ∉ budgetFields := by decide
  refine List.foldlRecOn camelNames copyField (motive := fun d => d = data) rfl ?_
  rintro _ rfl p hp
  exact copyField_of_field fun hmem => hcamel p hp (h hmem)

/-- A field in camel case stays, and the schema does not know it. -/
theorem keys_renamed_iff : (renamed data).map Prod.fst ⊆ budgetFields ↔
    data.map Prod.fst ⊆ "max_chars" :: budgetFields := by
  rw [← filter_subset_iff, ← keys_filter]
  unfold renamed
  constructor
  · refine List.Subset.trans ?_
    exact List.foldlRecOn camelNames copyField
      (motive := fun d : JsonDict => (data.filter (·.1 ≠ "max_chars")).map Prod.fst ⊆
        d.map Prod.fst) (List.Subset.refl _)
      fun d hd p _ => List.Subset.trans hd (subset_keys_copyField p)
  · intro h
    rwa [foldl_copyField_of_known h]

theorem renamed_of_known (h : data.map Prod.fst ⊆ "max_chars" :: budgetFields) :
    renamed data = data.filter (·.1 ≠ "max_chars") :=
  foldl_copyField_of_known (by rwa [keys_filter, filter_subset_iff])

theorem field_renamed (h : data.map Prod.fst ⊆ "max_chars" :: budgetFields) {name : String}
    (hname : name ≠ "max_chars") : Json.field (renamed data) name = Json.field data name := by
  rw [renamed_of_known h]
  exact Json.field_filter (f := fun key => key ≠ "max_chars") (decide_eq_true hname) data

theorem validatedBudget_ok_iff {tokens : Option Int} :
    (∃ requested, validatedBudget service tokens data = .ok requested) ↔
      data.map Prod.fst ⊆ "max_chars" :: budgetFields ∧ TypedFields service.pydantic data ∧
        ∃ n, tokens.or ((Json.field data "max_tokens").bind service.pydantic.int) = some n ∧
          0 < n := by
  have hvalid : (∃ requested, validatedBudget service tokens data = .ok requested) ↔
      (service.pydantic.validateBudget tokens (renamed data)).isSome = true := by
    unfold validatedBudget
    cases service.pydantic.validateBudget tokens (renamed data) <;> simp
  rw [hvalid, validateBudget_isSome_iff, keys_renamed_iff]
  refine and_congr_right fun hknown => ?_
  rw [field_renamed hknown (by decide)]
  refine and_congr_left fun _ => TypedFields.congr fun name hname _ => field_renamed hknown ?_
  rintro rfl
  revert hname
  decide

theorem validatedBudget_isSome {tokens : Option Int}
    (h : validatedBudget service tokens data = .ok requested) : requested.isSome = true := by
  unfold validatedBudget at h
  split at h
  · cases h
    rfl
  · cases h

/-- The tokens that are counted are another field of the mapping. -/
theorem keys_setTokens_iff :
    (JsonDict.set data "max_tokens" value).map Prod.fst ⊆ "max_chars" :: budgetFields ↔
      data.map Prod.fst ⊆ "max_chars" :: budgetFields := by
  rw [JsonDict.set_keys]
  split
  · exact Iff.rfl
  · rw [List.append_subset]
    exact and_iff_left (by decide)

theorem typed_setTokens_iff :
    TypedFields service.pydantic (JsonDict.set data "max_tokens" value) ↔
      TypedFields service.pydantic data :=
  TypedFields.congr fun _ _ hname => JsonDict.field_set_ne data value (Ne.symm hname)

theorem mappedBudget_ok_iff :
    (∃ requested, mappedBudget service data = .ok requested) ↔ ReadableBudget service data := by
  have hreadable : ReadableBudget service data ↔ _ :=
    ⟨fun h => And.intro h.known (And.intro h.typed h.tokens), fun h => ⟨h.1, h.2.1, h.2.2⟩⟩
  rw [hreadable]
  unfold mappedBudget
  cases htokens : Json.field data "max_tokens" with
  | some value =>
    have hunset : (∃ requested, validatedBudget service none data = .ok requested) ↔ _ :=
      validatedBudget_ok_iff
    rw [htokens] at hunset
    cases Json.field data "max_chars" <;> exact hunset
  | none =>
    have hunset : ¬∃ requested, validatedBudget service none data = .ok requested := by
      rw [validatedBudget_ok_iff, htokens]
      rintro ⟨-, -, n, hn, -⟩
      cases hn
    cases hchars : Json.field data "max_chars" with
    | none =>
      refine iff_of_false hunset ?_
      rintro ⟨-, -, maxChars, chars, rate, hmax, -⟩
      cases hmax
    | some maxChars =>
      dsimp only
      cases hrate : service.charsPerTokenOf [Json.field data "chars_per_token"] with
      | error e =>
        refine iff_of_false (by simp) ?_
        rintro ⟨-, -, maxChars, chars, rate, -, -, -, hok, -⟩
        cases hok
      | ok rate =>
        rw [ok_bind]
        cases hfilter : (service.integer maxChars).filter (0 < ·) with
        | none =>
          refine iff_of_false hunset ?_
          rintro ⟨-, -, other, chars, -, hother, hinteger, hpos, -⟩
          cases hother
          rw [hinteger, Option.filter_some, if_pos (decide_eq_true hpos)] at hfilter
          cases hfilter
        | some chars =>
          obtain ⟨hinteger, hpos⟩ := Option.filter_eq_some_iff.1 hfilter
          have hpos : 0 < chars := of_decide_eq_true hpos
          dsimp only
          constructor
          · rintro ⟨requested, h⟩
            obtain ⟨tokens, hdiv, h⟩ := bind_eq_ok.1 h
            obtain ⟨hknown, htyped, -⟩ := validatedBudget_ok_iff.1 ⟨requested, h⟩
            exact ⟨keys_setTokens_iff.1 hknown, typed_setTokens_iff.1 htyped, maxChars, chars, rate,
              rfl, hinteger, hpos, rfl, tokensOfChars_ok_iff.1 ⟨tokens, hdiv⟩⟩
          · rintro ⟨hknown, htyped, other, otherChars, otherRate, hother, hotherInteger, -, hok,
              hdivides⟩
            cases hother
            cases hok
            cases hinteger.symm.trans hotherInteger
            obtain ⟨tokens, hdiv⟩ := tokensOfChars_ok_iff.2 hdivides
            rw [hdiv, ok_bind]
            exact validatedBudget_ok_iff.2 ⟨keys_setTokens_iff.2 hknown,
              typed_setTokens_iff.2 htyped, tokens, rfl, tokensOfChars_pos hdiv⟩

theorem mappedBudget_isSome (h : mappedBudget service data = .ok requested) :
    requested.isSome = true := by
  unfold mappedBudget at h
  split at h
  · obtain ⟨rate, -, h⟩ := bind_eq_ok.1 h
    split at h
    · obtain ⟨tokens, -, h⟩ := bind_eq_ok.1 h
      exact validatedBudget_isSome h
    · exact validatedBudget_isSome h
  · exact validatedBudget_isSome h

theorem frontendBudget_ok_iff :
    (∃ requested, service.frontendBudget context = .ok requested) ↔ Readable service context := by
  rw [frontendBudget_eq]
  unfold Readable
  cases budgetMapping context with
  | none => exact limitBudget_ok_iff
  | some data => exact mappedBudget_ok_iff

theorem frontendBudget_isSome (h : service.frontendBudget context = .ok requested) :
    requested.isSome = true ↔ Asks service context := by
  rw [frontendBudget_eq] at h
  unfold Asks
  cases hmapping : budgetMapping context with
  | none =>
    rw [hmapping] at h
    rw [limitBudget_isSome h]
    simp
  | some data =>
    rw [hmapping] at h
    exact iff_of_true (mappedBudget_isSome h) (.inl rfl)

end Frontend

/-! ## The budget of a request -/

structure ValidSettings (settings : ContextSettings) : Prop where
  tokens : 0 < settings.defaultTokenBudget
  itemTokens : 0 < settings.perItemTokenLimit
  itemChars : 0 < settings.perItemCharLimit
  rate : 0 < settings.charsPerToken

def Overrides (service : ContextService) (request : ContextRequest) : Prop :=
  service.settings.allowRequestBudgetOverride = true ∧
    (request.contextBudget.isSome ∨ Asks service request.frontendContext)

def WithinSettings (service : ContextService) (request : ContextRequest) (budget : ContextBudget) :
    Prop :=
  1 ≤ budget.maxTokens ∧
    (Overrides service request → (budget.maxTokens : Int) ≤ service.settings.maxTokenBudget) ∧
    (¬Overrides service request →
      (budget.maxTokens : Int) = service.settings.defaultTokenBudget) ∧
    ∀ source tokens, budget.sourceBudgets.get? source = some tokens → 0 < tokens

section Requests

variable {service : ContextService} {request : ContextRequest} {budgets : Dict String Int}

def PositiveSources (budgets : Dict String Int) : Prop :=
  ∀ source tokens, budgets.get? source = some tokens → 0 < tokens

theorem PositiveSources.set (h : PositiveSources budgets) {source : String} (hpos : 0 < tokens) :
    PositiveSources (budgets.set source tokens) := by
  intro other found hget
  rw [Dict.get?_set] at hget
  split at hget
  · cases hget
    exact hpos
  · exact h other found hget

theorem parseSourceBudgets_positive (int : String → Option Int) (raw : String) :
    PositiveSources (parseSourceBudgets int raw) := by
  unfold parseSourceBudgets
  refine List.foldlRecOn _ _ (motive := PositiveSources) (fun _ _ h => by cases h) ?_
  intro budgets hbudgets item _
  split
  · exact hbudgets
  · dsimp only
    split
    · exact hbudgets
    · split
      · next h => exact hbudgets.set h.2
      · exact hbudgets

theorem grantedSources_positive {configured requested : Dict String Int} {maximum : Int}
    (h : 0 < maximum) : PositiveSources (grantedSources configured requested maximum) := by
  unfold grantedSources
  refine List.foldlRecOn _ _ (motive := PositiveSources) (fun _ _ h => by cases h) ?_
  intro budgets hbudgets p _
  split
  · next hpos => exact hbudgets.set (lt_min hpos h)
  · exact hbudgets

theorem requestedBudget_ok_iff :
    (∃ requested, service.requestedBudget request = .ok requested) ↔
      (request.contextBudget = none → Readable service request.frontendContext) := by
  unfold requestedBudget
  cases request.contextBudget with
  | none => simp [frontendBudget_ok_iff]
  | some budget => simp

theorem requestedBudget_isSome (hbudget : service.requestedBudget request = .ok requested) :
    requested.isSome = true ↔
      request.contextBudget.isSome = true ∨ Asks service request.frontendContext := by
  unfold requestedBudget at hbudget
  cases hcontext : request.contextBudget with
  | none =>
    rw [hcontext] at hbudget
    simp [frontendBudget_isSome hbudget]
  | some budget =>
    rw [hcontext] at hbudget
    cases hbudget
    simp

theorem contextBudget_sources {maxTokens : Int} {charsPerToken : Rat}
    (h : contextBudget maxTokens sourceBudgets perItemTokenLimit perItemCharLimit charsPerToken
      allowSummaryPlaceholder = .ok budget) : budget.sourceBudgets = sourceBudgets := by
  unfold contextBudget at h
  split at h
  · cases h
    rfl
  · cases h

theorem minOptionalPositive_pos {requested configured : Option Int} :
    ∀ limit ∈ minOptionalPositive requested configured, 0 < limit := by
  have hfilter (limits : Option Int) {limit : Int} (h : limits.filter (0 < ·) = some limit) :
      0 < limit := of_decide_eq_true (Option.filter_eq_some_iff.1 h).2
  intro limit h
  rw [Option.mem_def] at h
  unfold minOptionalPositive at h
  split at h
  · next hr hc =>
    cases h
    exact lt_min (hfilter _ hr) (hfilter _ hc)
  · next hr _ =>
    cases h
    exact hfilter _ hr
  · exact hfilter _ h

theorem defaultBudget_ok_iff :
    (∃ budget, defaultBudget service.settings service.int = .ok budget) ↔
      ValidSettings service.settings := by
  unfold defaultBudget
  rw [contextBudget_eq_ok]
  simp only [Option.mem_def, Option.some.injEq, forall_eq']
  exact ⟨fun ⟨htokens, hitem, hchars, hrate⟩ => ⟨htokens, hitem, hchars, hrate⟩,
    fun ⟨htokens, hitem, hchars, hrate⟩ => ⟨htokens, hitem, hchars, hrate⟩⟩

theorem defaultBudget_within (h : defaultBudget service.settings service.int = .ok budget)
    (hnot : ¬Overrides service request) : WithinSettings service request budget := by
  refine ⟨budget.maxTokens_pos, fun hoverrides => absurd hoverrides hnot,
    fun _ => (contextBudget_ok h).1, ?_⟩
  rw [contextBudget_sources h]
  exact parseSourceBudgets_positive _ _

/-- What a request asks for is granted within the settings. -/
theorem override_within (hoverrides : Overrides service request)
    (hmaximum : 0 < service.settings.maxTokenBudget) (asked : ContextBudget) :
    ∃ budget, contextBudget (min asked.maxTokens service.settings.maxTokenBudget)
        (grantedSources (parseSourceBudgets service.int service.settings.defaultSourceBudgets)
          asked.sourceBudgets service.settings.maxTokenBudget)
        (minOptionalPositive (asked.perItemTokenLimit.map Int.ofNat)
          (some service.settings.perItemTokenLimit))
        (minOptionalPositive (asked.perItemCharLimit.map Int.ofNat)
          (some service.settings.perItemCharLimit))
        asked.charsPerToken
        (asked.allowSummaryPlaceholder && service.settings.allowSummaryPlaceholder) = .ok budget ∧
      WithinSettings service request budget := by
  obtain ⟨budget, hbudget⟩ := contextBudget_eq_ok.2
    ⟨lt_min (Int.natCast_pos.2 asked.maxTokens_pos) hmaximum, minOptionalPositive_pos,
      minOptionalPositive_pos, asked.charsPerToken_pos⟩
  refine ⟨budget, hbudget, budget.maxTokens_pos, fun _ => ?_, fun h => absurd hoverrides h, ?_⟩
  · rw [(contextBudget_ok hbudget).1]
    exact min_le_right _ _
  · rw [contextBudget_sources hbudget]
    exact grantedSources_positive hmaximum

/-- For every settings and every request, a budget within the settings is computed exactly if the
settings are valid, the frontend context is readable unless the budget is typed, and the maximum is
positive if the request overrides the default. -/
theorem budget_total_iff (service : ContextService) (request : ContextRequest) :
    (∃ budget, service.contextBudgetForRequest request = .ok budget ∧
      WithinSettings service request budget) ↔
    ValidSettings service.settings ∧
      (request.contextBudget = none → Readable service request.frontendContext) ∧
      (Overrides service request → 0 < service.settings.maxTokenBudget) := by
  rw [← defaultBudget_ok_iff, ← requestedBudget_ok_iff]
  constructor
  · rintro ⟨budget, hbudget, hpos, hmaximum, -⟩
    obtain ⟨default, hdefault, hrest⟩ := bind_eq_ok.1 hbudget
    obtain ⟨requested, hrequested, -⟩ := bind_eq_ok.1 hrest
    refine ⟨⟨default, hdefault⟩, ⟨requested, hrequested⟩, fun hoverrides => ?_⟩
    have hmaximum := hmaximum hoverrides
    omega
  · rintro ⟨⟨default, hdefault⟩, ⟨requested, hrequested⟩, hmaximum⟩
    have hsome := requestedBudget_isSome hrequested
    unfold contextBudgetForRequest
    dsimp only
    rw [hdefault, ok_bind, hrequested, ok_bind]
    cases requested with
    | none =>
      refine ⟨default, rfl, defaultBudget_within hdefault fun hoverrides => ?_⟩
      have := hsome.2 hoverrides.2
      cases this
    | some asked =>
      cases hallow : service.settings.allowRequestBudgetOverride with
      | false =>
        refine ⟨default, rfl, defaultBudget_within hdefault fun hoverrides => ?_⟩
        rw [hoverrides.1] at hallow
        cases hallow
      | true =>
        have hoverrides : Overrides service request := ⟨hallow, hsome.1 rfl⟩
        exact override_within hoverrides (hmaximum hoverrides) asked

end Requests

/-- The numbers are read as they are, and no text is. -/
def plainPydantic : Pydantic where
  int
    | .num q => if q.den = 1 then some q.num else none
    | _ => none
  float
    | .num q => some q
    | _ => none
  bool
    | .bool b => some b
    | _ => none

def strictService : ContextService where
  toContextPipelineService := sampleService
  isInt := fun q => q.den = 1
  pydantic := plainPydantic

def camelRequest : ContextRequest :=
  { sampleRequest with
    frontendContext := [("contextBudget", .obj [("maxTokens", .num 100)])] }

theorem strictService_valid : ValidSettings strictService.settings :=
  ⟨by decide, by decide, by decide, by decide⟩

/-- The field is copied to `max_tokens`, and the schema refuses `maxTokens`. -/
theorem camel_case_budget_raises :
    ¬∀ (service : ContextService) (request : ContextRequest), ValidSettings service.settings →
      0 < service.settings.maxTokenBudget →
      ∃ budget, service.contextBudgetForRequest request = .ok budget ∧
        WithinSettings service request budget := by
  intro hclaim
  obtain ⟨budget, hbudget, -⟩ :=
    hclaim strictService camelRequest strictService_valid (by decide)
  have hraises : strictService.contextBudgetForRequest camelRequest = .error .validation := rfl
  rw [hraises] at hbudget
  cases hbudget

end OpenIntentRouter.Context
