import BbAuth.Model.Json
import BbAuth.Model.RequestContext
import BbAuth.Model.TextNormalize
/-!
# What a request asks for

`PromptExtractors.cpp` and `PromptHeuristics.cpp`: the command, the thing to
unlock and the kind of touch, as they are read out of a request's texts. A
pattern is given by what it captures at the head of a text. In each of them
a class excludes what follows it, so no match is lost by taking every run
whole.
-/

namespace BbAuth

namespace TextNormalize

/-! ## Patterns -/

/-- What follows a word of ASCII, in either case. -/
def keyword (word : String) (text : List Char) : Option (List Char) :=
  if (word.toList.map Text.foldCase).isPrefixOf (text.map Text.foldCase) then
    some (text.drop word.length)
  else none

/-- What follows a character of a class. -/
def oneOf (p : Char → Bool) : List Char → Option (List Char)
  | [] => none
  | c :: text => if p c then some text else none

/-- So many digits, and what follows them. -/
def digits (n : ℕ) (text : List Char) : Option (List Char × List Char) :=
  if (text.take n).length = n ∧ (text.take n).all Char.isDigit then
    some (text.take n, text.drop n)
  else none

/-- `captureFirst`: what a pattern captures where it first matches. None
matches nothing. -/
def captureFirst (regex : List Char → Option (List Char)) : List Char → List Char
  | [] => []
  | c :: text =>
    match regex (c :: text) with
    | some captured => trimmed captured
    | none => captureFirst regex text

/-- The class `[A-Za-z0-9-]`, in either case. -/
def isNameChar (c : Char) : Bool := (Text.foldCase c).isAlphanum || c = '-'

/-- The class `[A-F0-9]`, in either case. -/
def isHexChar (c : Char) : Bool :=
  c.isDigit || ('a' ≤ Text.foldCase c && Text.foldCase c ≤ 'f')

/-- The three quotation marks of ASCII. -/
def isQuote (c : Char) : Bool := c ∈ ['`', '\'', '"']

/-- The pattern ``run\s+[`'"]([^`'"\s]+)[`'"]``, in either case. -/
def explicitRunRegex (text : List Char) : Option (List Char) := do
  let text ← keyword "run" text
  let (_, text) ← Text.many1 Text.isSpace text
  let text ← oneOf isQuote text
  let (command, text) ← Text.many1 (fun c => !isQuote c && !Text.isSpace c) text
  let _ ← oneOf isQuote text
  return command

/-- The pattern `(/[A-Za-z0-9_\-\./]+)`. -/
def pathRegex (text : List Char) : Option (List Char) := do
  let text ← Text.literal "/" text
  let (path, _) ← Text.many1 (fun c => c.isAlphanum || c ∈ ['_', '-', '.', '/']) text
  return '/' :: path

/-- The pattern `unlock\s+([^\n]+)`, in either case. It is looked for in
normalized texts: there what follows white space is not white space. -/
def unlockRegex (text : List Char) : Option (List Char) := do
  let text ← keyword "unlock" text
  let (_, text) ← Text.many1 Text.isSpace text
  let (target, _) ← Text.many1 (fun c => c ≠ '\n') text
  return target

/-- The pattern `"([^"]+)"`. -/
def identityRegex (text : List Char) : Option (List Char) := do
  let text ← oneOf (fun c => c = '"') text
  let (identity, text) ← Text.many1 (fun c => c ≠ '"') text
  let _ ← oneOf (fun c => c = '"') text
  return identity

/-- The pattern `ID\s+([A-F0-9]{8,})`, in either case. -/
def keyIdRegex (text : List Char) : Option (List Char) := do
  let text ← keyword "ID" text
  let (_, text) ← Text.many1 Text.isSpace text
  let (keyId, _) ← Text.many1 isHexChar text
  if 8 ≤ keyId.length then some keyId else none

/-- The pattern `(\d{3,5}-bit\s+[A-Za-z0-9-]+\s+key)`, in either case. -/
def keyTypeRegex (text : List Char) : Option (List Char) := do
  let (size, rest) ← Text.many1 Char.isDigit text
  let rest ← if 3 ≤ size.length ∧ size.length ≤ 5 then keyword "-bit" rest else none
  let (_, rest) ← Text.many1 Text.isSpace rest
  let (_, rest) ← Text.many1 isNameChar rest
  let (_, rest) ← Text.many1 Text.isSpace rest
  let rest ← keyword "key" rest
  return text.take (text.length - rest.length)

/-- The pattern `created\s+([0-9]{4}-[0-9]{2}-[0-9]{2})`, in either case. -/
def createdRegex (text : List Char) : Option (List Char) := do
  let text ← keyword "created" text
  let (_, text) ← Text.many1 Text.isSpace text
  let (year, text) ← digits 4 text
  let text ← Text.literal "-" text
  let (month, text) ← digits 2 text
  let text ← Text.literal "-" text
  let (day, _) ← digits 2 text
  return year ++ '-' :: month ++ '-' :: day

/-! ## Extractors -/

variable (K : LetterCase)

/-- `isTemplateUnlockLine`. -/
def isTemplateUnlockLine (line target : List Char) : Bool :=
  let normalized := normalizeCompareText K line
  let normalizedTarget := normalizeCompareText K target
  if normalized = [] then true
  else if normalizedTarget ≠ [] ∧ normalized = normalizedTarget then true
  else
    decide (normalizedTarget ≠ [] ∧ "unlock".toList <:+: normalized ∧
      normalizedTarget <:+: normalized) &&
    ("authenticate to unlock".toList.isPrefixOf normalized || "unlock".toList.isPrefixOf normalized ||
      "use your password to unlock".toList.isPrefixOf normalized ||
      "use your account password to unlock".toList.isPrefixOf normalized)

/-- `extractCommandName`. -/
def extractCommandName (message : List Char) : List Char :=
  let explicit := captureFirst explicitRunRegex message
  let command := if explicit = [] then captureFirst pathRegex message else explicit
  let commandName := (fileName (String.ofList command)).toList
  if commandName = [] then command else commandName

/-- `extractUnlockTarget`. -/
def extractUnlockTarget (text : List Char) : List Char :=
  let target := trimmed (captureFirst unlockRegex (normalizeDetailText text))
  trimmed (if target.getLast? = some '.' then target.dropLast else target)

/-- A text member of an object. -/
def textOf (o : QJsonObject) (key : String) : List Char := (o.value key).toString.toList

/-- `extractUnlockTargetFromContext`. -/
def extractUnlockTargetFromContext (context : QJsonObject) : List Char :=
  let byName := extractUnlockTarget (textOf context "keyringName")
  let byMessage :=
    if byName = [] then extractUnlockTarget (textOf context "message") else byName
  if byMessage = [] then extractUnlockTarget (textOf context "description") else byMessage

/-- What `buildUnlockDetails` takes from one text. -/
def unlockDetailLines (target candidate : List Char) : List (List Char) :=
  ((candidate.splitOn newline).map trimmed).filter fun line =>
    !(line.isEmpty || isTemplateUnlockLine K line target)

/-- `buildUnlockDetails`. -/
def buildUnlockDetails (context : QJsonObject) (target : List Char) : List Char :=
  let candidates := [normalizeDetailText (textOf context "description"),
    normalizeDetailText (textOf context "message"),
    normalizeDetailText (textOf context "keyringName")]
  uniqueJoined K (candidates.flatMap (unlockDetailLines K target))

/-! ## Heuristics -/

/-- `containsAnyTerm`. -/
def containsAnyTerm (text : List Char) (terms : List String) : Bool :=
  terms.any fun term => decide (term.toList <:+: toLower K text)

/-- `looksLikeFingerprintPrompt`. -/
def looksLikeFingerprintPrompt (text : List Char) : Bool :=
  containsAnyTerm K text ["fingerprint", "finger print", "fprint", "swipe", "scan your finger"]

/-- `looksLikeFidoPrompt`. -/
def looksLikeFidoPrompt (text : List Char) : Bool :=
  containsAnyTerm K text ["fido", "fido2", "webauthn", "security key", "yubikey", "hardware token",
    "user presence"]

/-- `looksLikeTouchPrompt`. -/
def looksLikeTouchPrompt (text : List Char) : Bool :=
  containsAnyTerm K text ["touch", "tap", "insert", "use your security key",
    "verify your identity"]

end TextNormalize

end BbAuth
