import OpenIntentRouter.Core.Regex

/-!
# Sensitive data

The patterns that no accepted memory may match. Under `(?i)` the model writes
the texts in lower case, as `re` compares them.
-/
namespace OpenIntentRouter.Services

open Core Core.Text Core.Regex

section

variable (t : Tables)

/-- `\s*` -/
def blanks : Regex := .many isSpace 0 none

/-- `\s+` -/
def someBlanks : Regex := .many isSpace 1 none

/-- `\b` -/
def edge : Regex := .boundary t.word

/-- `\d{n}` -/
def digits (n : Nat) : Regex := .many t.digit n (some n)

/-- `[A-Za-z0-9]` and the characters of a text. -/
def alnumOr (others : String) (c : Char) : Bool :=
  range 'a' 'z' c || range 'A' 'Z' c || range '0' '9' c || chars others c

/-- `[a-z0-9]` and the characters of a text, under `(?i)`. -/
def alnumOrI (others : String) : Char → Bool :=
  ignoreCase fun c => range 'a' 'z' c || range '0' '9' c || chars others c

/-- Two words with a sign between them or none, under `(?i)`. -/
def twoWords (first second : String) : Regex :=
  cat [litI first, opt (.one (chars "_ -")), litI second]

def credentialAssignment : Regex :=
  cat [edge t,
    oneOf [litI "password", litI "passwd", twoWords "api" "key", twoWords "access" "token",
      twoWords "refresh" "token", twoWords "client" "secret", twoWords "session" "id",
      litI "cookie", litI "secret"],
    blanks, .one (chars ":="), blanks, .many (fun c => !isSpace c) 1 none]

def bearerToken : Regex :=
  cat [edge t, litI "bearer", someBlanks, .many (alnumOrI "._~+/=-") 12 none]

def basicCredential : Regex :=
  cat [edge t, litI "basic", someBlanks, .many (alnumOrI "+/=") 8 none]

def oneTimeCode : Regex :=
  cat [edge t,
    oneOf [litI "otp", litI "verification code",
      cat [litI "one", .one (chars "- "), litI "time code"]],
    blanks, opt (.one (chars ":=")), blanks, .many t.digit 4 (some 8), edge t]

def oneTimeCodeZh : Regex :=
  cat [oneOf [lit "验证码", lit "动态码"], blanks, opt (.one (chars ":=：")), blanks,
    .many t.digit 4 (some 8)]

def privateKey : Regex :=
  cat [lit "-----BEGIN ", opt (oneOf [lit "RSA ", lit "EC ", lit "OPENSSH "]),
    lit "PRIVATE KEY-----"]

def awsKey : Regex :=
  cat [edge t, lit "AKIA", .many (fun c => range '0' '9' c || range 'A' 'Z' c) 16 (some 16), edge t]

def apiKey : Regex :=
  cat [edge t, lit "sk-", opt (lit "proj-"), .many (alnumOr "_-") 16 none, edge t]

def githubToken : Regex :=
  cat [edge t, lit "gh", .one (chars "pousr"), lit "_", .many (alnumOr "") 20 none, edge t]

def jsonWebToken : Regex :=
  cat [edge t, lit "eyJ", .many (alnumOr "_-") 1 none, lit ".", .many (alnumOr "_-") 1 none, lit ".",
    .many (alnumOr "_-") 1 none, edge t]

def emailAddress : Regex :=
  cat [edge t, .many (alnumOr "._%+-") 1 none, lit "@", .many (alnumOr ".-") 1 none, lit ".",
    .many (fun c => range 'A' 'Z' c || range 'a' 'z' c) 2 none, edge t]

def socialSecurityNumber : Regex :=
  cat [edge t, digits t 3, lit "-", digits t 2, lit "-", digits t 4, edge t]

def cardNumber : Regex := cat [edge t, .many t.digit 15 (some 19), edge t]

def identityNumber : Regex :=
  cat [edge t, digits t 17, .one (fun c => range '0' '9' c || chars "Xx" c), edge t]

def medicalText : Regex :=
  .alt
    (cat [edge t, oneOf [litI "hiv", litI "aids", litI "medical record", litI "diagnosed with"],
      edge t])
    (oneOf [litI "艾滋", litI "病历", litI "诊断为"])

def addressText : Regex :=
  .alt
    (cat [edge t, oneOf [litI "home address", litI "street address", litI "address of"], edge t])
    (oneOf [litI "家庭住址", litI "住址", litI "地址是"])

/-- `1[3-9]\d{9}` -/
def mobileNumber : Regex := cat [lit "1", .one (range '3' '9'), digits t 9]

def phoneNumber : Regex :=
  cat [.notBehind t.digit,
    oneOf [
      cat [lit "+", .one t.digit, .many (fun c => t.digit c || chars " ()-" c) 8 none, .one t.digit],
      cat [lit "(", .many t.digit 2 (some 4), lit ")", opt (.one (chars " -")),
        .many t.digit 3 (some 4), opt (.one (chars " -")), digits t 4],
      cat [digits t 3, .one (chars " -"), digits t 3, .one (chars " -"), digits t 4],
      mobileNumber t],
    .notAhead t.digit]

/-- mirrors app/services/memory_candidate_hard_rules.py:39-61 (`_SENSITIVE_PATTERNS`) -/
def sensitivePatterns : List Regex :=
  [credentialAssignment t, bearerToken t, basicCredential t, oneTimeCode t, oneTimeCodeZh t,
    privateKey, awsKey t, apiKey t, githubToken t, jsonWebToken t, emailAddress t,
    socialSecurityNumber t, cardNumber t, identityNumber t, medicalText t, addressText t,
    phoneNumber t]

def matchesSensitive (s : String) : Bool := (sensitivePatterns t).any (·.search s)

end
end OpenIntentRouter.Services
