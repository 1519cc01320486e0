import BbAuth.Model.FallbackWindow
import BbAuth.Model.PromptExtractors
/-!
# What the prompt says

`PromptModelBuilder::build`: from an event of the daemon to the texts the
fallback window shows. What `build` reads and works out first is given under
the names of its locals; then come its steps, in their order, each from one
state of the model to the next.
-/

namespace BbAuth

/-- `PromptIntent`. -/
inductive PromptIntent where
  | generic
  | unlock
  | runCommand
  | openPgp
  | fingerprint
  | fido2
  deriving DecidableEq

/-- **Letter case** in all that `build` does with it. -/
structure PromptCase extends TextNormalize.LetterCase where
  /-- `QChar::toUpper`, of a UTF-16 unit that is a character. -/
  upper : Char → Char
  /-- `a.compare(b, Qt::CaseInsensitive) == 0`. -/
  equal : List Char → List Char → Bool

namespace PromptModelBuilder

open TextNormalize

/-- `PromptDisplayModel`, its texts as characters. -/
structure Model where
  intent : PromptIntent := .generic
  title : List Char := []
  summary : List Char := []
  requestor : List Char := []
  details : List Char := []
  prompt : List Char := []
  passphrasePrompt : Bool := false
  allowEmptyResponse : Bool := false
  deriving DecidableEq

/-- The model as the window is given it. -/
def Model.display (model : Model) : PromptDisplayModel where
  title := String.ofList model.title
  summary := String.ofList model.summary
  requestor := String.ofList model.requestor
  details := String.ofList model.details
  prompt := String.ofList model.prompt
  passphrasePrompt := model.passphrasePrompt
  allowEmptyResponse := model.allowEmptyResponse

/-- `isIdentityLine`. -/
def isIdentityLine (line : List Char) : Bool := '"' ∈ line ∧ '<' ∈ line ∧ '>' ∈ line

/-- `replace(keyword, "", Qt::CaseInsensitive)`, with the characters that
are still to be skipped. -/
def removeKeyword (word : String) : ℕ → List Char → List Char
  | _, [] => []
  | skipped + 1, _ :: text => removeKeyword word skipped text
  | 0, c :: text =>
    if (keyword word (c :: text)).isSome then removeKeyword word (word.length - 1) text
    else c :: removeKeyword word 0 text

/-- `cleanIdentity`. -/
def cleanIdentity (identity : List Char) : List Char :=
  trimmed (removeKeyword " (github)" 0 (simplified identity))

variable (P : PromptCase)

/-- `isLowSignalCommand`. -/
def isLowSignalCommand (commandName : List Char) : Bool :=
  let normalized := toLower P.toLetterCase (trimmed commandName)
  normalized = [] || normalized ∈ ["true", "sh", "bash"].map String.toList

/-- `isKeyMetadataLine`. -/
def isKeyMetadataLine (line : List Char) : Bool :=
  let lower := toLower P.toLetterCase line
  (" id ".toList <:+: lower ∨ "id ".toList <+: lower) ∧ "created".toList <:+: lower

/-- `word[0] = word[0].toUpper()`. Half a character stays as it is. -/
def capitalized : List Char → List Char
  | [] => []
  | c :: word => (if c.toNat < 0x10000 then P.upper c else c) :: word

/-- `humanizeActionId`: what follows the last dot, as words. -/
def humanizeActionId (actionId : List Char) : List Char :=
  let actionId := trimmed actionId
  let afterDot := (actionId.reverse.takeWhile (· ≠ '.')).reverse
  let actionId := if afterDot = [] then actionId else afterDot
  let actionId := simplified (replace '/' ' ' (replace '_' ' ' (replace '-' ' ' actionId)))
  let words := (actionId.splitOn ' ').filter fun word => !word.isEmpty
  [' '].intercalate (words.map (capitalized P))

/-- `genericSummaries`. -/
def genericSummaries : List String :=
  ["authentication is required", "authentication required", "authorization is required",
    "authorization required", "authenticate to continue", "authentication is required to continue",
    "authorization is required to continue"]

/-- `isGenericAuthSummary`. -/
def isGenericAuthSummary (summary : List Char) : Bool :=
  let normalized := normalizeCompareText P.toLetterCase summary
  normalized = [] || normalized ∈ genericSummaries.map String.toList

/-! ## The locals -/

section

variable (event : QJsonObject)

def source : String := (event.value "source").toString

def context : QJsonObject := (event.value "context").toObject

def message : List Char := textOf (context event) "message"

def description : List Char := textOf (context event) "description"

def requestorName : List Char :=
  trimmed (textOf ((context event).value "requestor").toObject "name")

def requestorPid : ℤ := (((context event).value "requestor").toObject.value "pid").toInteger

def actionId : List Char := trimmed (textOf (context event) "actionId")

def actionSummary : List Char :=
  if source event = "polkit" then humanizeActionId P (actionId event) else []

def actionUser : List Char := trimmed (textOf (context event) "user")

def infoText : List Char := normalizeDetailText (textOf event "info")

def livePromptText : List Char := normalizeDetailText (textOf event "prompt")

def normalizedMessage : List Char := normalizeDetailText (message event)

def normalizedDescription : List Char := normalizeDetailText (description event)

def detailText : List Char :=
  toLower P.toLetterCase (normalizedDescription event ++ ' ' :: normalizedMessage event)

def authHintText : List Char :=
  toLower P.toLetterCase
    (detailText P event ++ ' ' :: infoText event ++ ' ' :: livePromptText event)

def commandName : List Char :=
  if source event = "polkit" then extractCommandName (message event) else []

def unlockTarget : List Char :=
  let target :=
    if source event = "polkit" ∨ source event = "keyring" then
      extractUnlockTargetFromContext (context event)
    else []
  if source event = "keyring" ∧ target = [] then requestorName event else target

def fingerprintHint : Bool := looksLikeFingerprintPrompt P.toLetterCase (authHintText P event)

def fidoHint : Bool := looksLikeFidoPrompt P.toLetterCase (authHintText P event)

def touchHint : Bool :=
  fingerprintHint P event || fidoHint P event ||
    looksLikeTouchPrompt P.toLetterCase (authHintText P event)

/-- What `build` makes of the intent. -/
def intent : PromptIntent :=
  if source event = "polkit" ∧ fingerprintHint P event then .fingerprint
  else if source event = "polkit" ∧ fidoHint P event then .fido2
  else if source event = "pinentry" ∧
      ("openpgp".toList <:+: detailText P event ∨ "gpg".toList <:+: detailText P event) then .openPgp
  else if source event = "polkit" ∧ commandName event ≠ [] then .runCommand
  else if (source event = "polkit" ∨ source event = "keyring") ∧ unlockTarget event ≠ [] then .unlock
  else .generic

/-! ## The branches -/

/-- What pinentry's texts name: whom the key is of, which it is, and since
when. -/
def referenceText : List Char := if description event = [] then message event else description event

/-- `pieces`. -/
def pieces : List (List Char) :=
  let referenceText := referenceText event
  let identity := cleanIdentity (captureFirst identityRegex referenceText)
  let keyId := captureFirst keyIdRegex referenceText
  let keyType := captureFirst keyTypeRegex referenceText
  let created := captureFirst createdRegex referenceText
  (if identity ≠ [] then [trimToLength identity 72] else if keyType ≠ [] then [keyType] else []) ++
    (if keyId ≠ [] then [keyId] else []) ++
    if created ≠ [] then ["created ".toList ++ created] else []

/-- The branch of `PromptIntent::Unlock`. -/
def unlockModel : Model where
  intent := .unlock
  title := "Unlock ".toList ++ unlockTarget event
  summary := "Use your password to unlock ".toList ++ unlockTarget event
  details := buildUnlockDetails P.toLetterCase (context event) (unlockTarget event)

/-- The branches of `PromptIntent::Fingerprint` and `PromptIntent::Fido2`. -/
def touchModel (intent : PromptIntent) (title summary : String) : Model where
  intent := intent
  title := title.toList
  summary := if infoText event = [] then summary.toList else firstMeaningfulLine (infoText event)
  details := normalizeDetailText (description event)

/-- The branch of `PromptIntent::RunCommand`. -/
def runCommandModel : Model where
  intent := .runCommand
  title := "Authorization Required".toList
  summary :=
    let fromDescription := firstMeaningfulLine (normalizedDescription event)
    let fromMessage := firstMeaningfulLine (normalizedMessage event)
    if fromDescription ≠ [] then fromDescription
    else if fromMessage ≠ [] then fromMessage
    else if isLowSignalCommand P (commandName event) then
      "Administrative privileges required".toList
    else "Run ".toList ++ commandName event ++ " as superuser".toList

/-- The branch of pinentry. -/
def pinentryModel : Model where
  intent := intent P event
  title :=
    if intent P event = .openPgp then "Unlock OpenPGP Key".toList
    else if "ssh".toList <:+: detailText P event then "Unlock SSH Key".toList
    else "Authentication Required".toList
  summary :=
    if pieces event ≠ [] then "  •  ".toList.intercalate (pieces event)
    else firstMeaningfulLine (referenceText event)
  details :=
    let pinText := normalizeDetailText (referenceText event)
    let filtered := (pinText.splitOn newline).filter fun line =>
      !(isIdentityLine line || isKeyMetadataLine P line)
    if pinText = [] then [] else if filtered = [] then pinText else joinLines filtered

/-- The branch of everything else. -/
def genericModel : Model where
  intent := intent P event
  title :=
    if source event = "polkit" then "Authorization Required".toList
    else "Authentication Required".toList
  summary := genericSummary
  details :=
    if normalizedDescription event ≠ [] ∧
        textEquivalent P.toLetterCase (normalizedDescription event) genericSummary = false then
      normalizedDescription event
    else if normalizedMessage event ≠ [] ∧
        textEquivalent P.toLetterCase (normalizedMessage event) genericSummary = false then
      normalizedMessage event
    else []
where
  /-- Its summary. -/
  genericSummary : List Char :=
    let fromMessage := firstMeaningfulLine (normalizedMessage event)
    if fromMessage = [] then firstMeaningfulLine (normalizedDescription event) else fromMessage

/-- The model as the branch leaves it. -/
def branchModel : Model :=
  match intent P event with
  | .unlock => unlockModel P event
  | .fingerprint =>
    touchModel event .fingerprint "Verify Fingerprint" "Use your fingerprint sensor to continue"
  | .fido2 => touchModel event .fido2 "Use Security Key" "Touch your security key to continue"
  | .runCommand => runCommandModel P event
  | .openPgp | .generic =>
    if source event = "pinentry" then pinentryModel P event else genericModel P event

/-! ## The steps -/

/-- Who asks. -/
def requestorLine (model : Model) : List Char :=
  let byPid := "Requested by process ".toList ++ (toString (requestorPid event)).toList
  if requestorName event ≠ [] then
    if model.intent = .unlock ∧ P.equal (requestorName event) (unlockTarget event) then
      model.requestor
    else if source event = "polkit" ∧ Text.equalsKeyword (requestorName event) "unknown" ∧
        requestorPid event > 0 then byPid
    else "Requested by ".toList ++ requestorName event
  else if source event = "polkit" ∧ requestorPid event > 0 then byPid
  else model.requestor

/-- Without a summary, the first line of the details is it. -/
def promoteDetails (model : Model) : Model :=
  if model.summary = [] ∧ model.details ≠ [] then
    let normalizedDetails := normalizeDetailText model.details
    if newline ∈ normalizedDetails then
      { model with
        summary := trimmed (normalizedDetails.takeWhile (· ≠ newline))
        details := trimmed ((normalizedDetails.dropWhile (· ≠ newline)).drop 1) }
    else { model with summary := normalizedDetails, details := [] }
  else model

/-- Details that repeat the summary lose what repeats it. -/
def dropRepeated (model : Model) : Model :=
  if model.summary ≠ [] ∧ model.details ≠ [] then
    let detailLines := (normalizeDetailText model.details).splitOn newline
    let details :=
      if textEquivalent P.toLetterCase (detailLines.headD []) model.summary then
        trimmed (joinLines detailLines.tail)
      else model.details
    let details := if textEquivalent P.toLetterCase model.summary details then [] else details
    { model with details := details }
  else model

/-- The info text joins the details. -/
def mergeInfo (model : Model) : Model :=
  if infoText event ≠ [] ∧
      textEquivalent P.toLetterCase (infoText event) model.summary = false ∧
      textEquivalent P.toLetterCase (infoText event) model.details = false then
    { model with
      details :=
        if model.details = [] then infoText event
        else uniqueJoined P.toLetterCase [model.details, infoText event] }
  else model

/-- `actionLines`. -/
def actionLines : List (List Char) :=
  (if actionSummary P event ≠ [] then ["Action: ".toList ++ actionSummary P event] else []) ++
    (if actionId event ≠ [] ∧ P.equal (actionId event) (actionSummary P event) = false then
      ["Policy: ".toList ++ actionId event] else []) ++
    if actionUser event ≠ [] then ["Authenticate as ".toList ++ actionUser event] else []

/-- `actionDetails`. -/
def actionDetails : List Char := uniqueJoined P.toLetterCase (actionLines P event)

/-- The action is named, and what the policy says of it joins the details. -/
def mergeAction (model : Model) : Model :=
  if source event = "polkit" then
    { model with
      summary :=
        if isGenericAuthSummary P model.summary ∧ actionSummary P event ≠ [] then
          actionSummary P event
        else model.summary
      details :=
        if actionDetails P event = [] then model.details
        else if model.details = [] then actionDetails P event
        else uniqueJoined P.toLetterCase [model.details, actionDetails P event] }
  else model

/-- What is asked for. -/
def withPrompt (model : Model) : Model :=
  let eventPrompt := trimmed (textOf event "prompt")
  let pinPrompt :=
    if eventPrompt = [] then trimmed (textOf (context event) "message") else eventPrompt
  let touch := source event = "polkit" ∧ touchHint P event
  let prompt :=
    if source event = "pinentry" then if pinPrompt = [] then "Passphrase:".toList else pinPrompt
    else if touch then "Press Enter to continue (or wait)".toList
    else "Password:".toList
  { model with
    prompt := prompt
    allowEmptyResponse := touch
    passphrasePrompt :=
      (source event = "pinentry" ∨ Text.containsKeyword (String.ofList prompt) "passphrase") ∧
        ¬ touch }

/-- The model before what the policy says is merged. -/
def requestModel : Model :=
  let model := branchModel P event
  mergeInfo P event
    (dropRepeated P (promoteDetails { model with requestor := requestorLine P event model }))

/-- **`PromptModelBuilder::build`.** -/
def build : Model := withPrompt P event (mergeAction P event (requestModel P event))

end

end PromptModelBuilder

end BbAuth
