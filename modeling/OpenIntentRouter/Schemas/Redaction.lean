import OpenIntentRouter.Core.Json

/-!
# Redaction

`app/core/redaction.py` and the scrubbing of stored payloads. The functions of
the standard library and the regular expressions they rest on are a parameter
(`Redaction`): nothing is assumed of them.
-/
namespace OpenIntentRouter.Schemas

open Core

/-- `str.lower`, `redact_text` and `redact_connection_location`. -/
structure Redaction where
  lower : String → String
  text : String → Option Nat → String
  location : String → String

namespace Redaction

variable (R : Redaction)

/-- mirrors app/core/redaction.py:6-25 (`SENSITIVE_KEYS`) -/
def sensitiveKeys : List String :=
  ["api_key", "apikey", "authorization", "access_token", "token", "secret", "password",
    "x-api-key", "credential", "credentials", "connection_string", "database_url", "dsn",
    "prompt", "quote", "candidate_quote", "user_text", "assistant_text"]

/-- mirrors app/core/redaction.py:27 (`_SENSITIVE_KEY_PARTS`) -/
def sensitiveKeyParts : List String := ["api_key", "apikey", "password", "secret", "credential"]

/-- The test `part in text`. -/
def contains (part text : String) : Bool :=
  (List.range (text.length + 1)).any fun n => part.toList.isPrefixOf (text.toList.drop n)

/-- The test `text.endswith(suffix)`. -/
def endsWith (suffix text : String) : Bool := suffix.toList.isSuffixOf text.toList

/-- mirrors app/core/redaction.py:43-50 -/
def isSensitiveKey (key : String) : Bool :=
  let normalized := R.lower key
  sensitiveKeys.contains normalized || endsWith "_dsn" normalized ||
    ["_token", "_prompt", "_quote"].any (endsWith · normalized) ||
    sensitiveKeyParts.any (contains · normalized)

mutual

/-- mirrors app/core/redaction.py:79-98 -/
def redactValue : Json → Json
  | .obj fields => .obj (redactFields fields)
  | .arr items => .arr (redactItems items)
  | .str s => .str (R.text s none)
  | value => value

def redactFields : List (String × Json) → List (String × Json)
  | [] => []
  | (key, item) :: rest =>
    let redacted :=
      if R.isSensitiveKey key then .str "***REDACTED***"
      else
        match item with
        | .str s =>
          if ["_uri", "_url", "base_url"].any (endsWith · (R.lower key)) then .str (R.location s)
          else redactValue item
        | _ => redactValue item
    (key, redacted) :: redactFields rest

def redactItems : List Json → List Json
  | [] => []
  | item :: rest => redactValue item :: redactItems rest

end

theorem keys_redactFields (fields : List (String × Json)) :
    (R.redactFields fields).map Prod.fst = fields.map Prod.fst := by
  induction fields with
  | nil => rfl
  | cons p rest ih =>
    unfold redactFields
    rw [List.map_cons, ih, List.map_cons]

mutual

theorem distinctKeys_redactValue {value : Json} (h : value.distinctKeys = true) :
    (R.redactValue value).distinctKeys = true := by
  cases value with
  | null => rfl
  | bool b => rfl
  | num q => rfl
  | str s => rfl
  | arr items =>
    rw [redactValue, Json.distinctKeys]
    exact distinctKeys_redactItems h
  | obj fields =>
    rw [Json.distinctKeys, Bool.and_eq_true, decide_eq_true_eq] at h
    rw [redactValue, Json.distinctKeys, keys_redactFields, decide_eq_true h.1, Bool.true_and]
    exact distinctKeys_redactFields h.2

theorem distinctKeys_redactItems {items : List Json} (h : Json.distinctKeysItems items = true) :
    Json.distinctKeysItems (R.redactItems items) = true := by
  cases items with
  | nil => rfl
  | cons item rest =>
    rw [Json.distinctKeysItems, Bool.and_eq_true] at h
    rw [redactItems, Json.distinctKeysItems, distinctKeys_redactValue h.1,
      distinctKeys_redactItems h.2]
    rfl

theorem distinctKeys_redactFields {fields : List (String × Json)}
    (h : Json.distinctKeysFields fields = true) :
    Json.distinctKeysFields (R.redactFields fields) = true := by
  cases fields with
  | nil => rfl
  | cons p rest =>
    obtain ⟨key, item⟩ := p
    rw [Json.distinctKeysFields, Bool.and_eq_true] at h
    have hitem := distinctKeys_redactValue h.1
    unfold redactFields
    rw [Json.distinctKeysFields, distinctKeys_redactFields h.2, Bool.and_true]
    split
    · rfl
    · split
      · split
        · rfl
        · exact hitem
      · exact hitem

end

/-- The keys that `_scrub_payload` redacts besides the sensitive ones. -/
def scrubbedKeys : List String :=
  ["content", "content_preview", "quote", "prompt", "user_text", "assistant_text",
    "structured_value", "pending_candidate"]

mutual

/-- mirrors app/repositories/memory_lifecycle_store.py:1496-1519 -/
def scrubPayload : Json → Json
  | .obj fields => .obj (scrubFields fields)
  | .arr items => .arr (scrubItems items)
  | value => value

def scrubFields : List (String × Json) → List (String × Json)
  | [] => []
  | (key, item) :: rest =>
    (key, if R.isSensitiveKey key || scrubbedKeys.contains (R.lower key) then .str "[redacted]"
      else scrubPayload item) :: scrubFields rest

def scrubItems : List Json → List Json
  | [] => []
  | item :: rest => scrubPayload item :: scrubItems rest

end

end Redaction

mutual

/-- mirrors app/repositories/memory_lifecycle_store.py:1522-1527 -/
def payloadContains (expected : String) : Json → Bool
  | .obj fields => fieldsContain expected fields
  | .arr items => itemsContain expected items
  | .str s => s = expected
  | _ => false

def fieldsContain (expected : String) : List (String × Json) → Bool
  | [] => false
  | (_, item) :: rest => payloadContains expected item || fieldsContain expected rest

def itemsContain (expected : String) : List Json → Bool
  | [] => false
  | item :: rest => payloadContains expected item || itemsContain expected rest

end

end OpenIntentRouter.Schemas
