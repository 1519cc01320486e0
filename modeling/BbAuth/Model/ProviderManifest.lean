import BbAuth.Model.Text
/-!
# Provider manifests

`bb::providers::ProviderManifest` and the parser that reads one from a JSON
object.
-/

namespace BbAuth

/-- `bb::providers::ProviderManifest`. -/
structure ProviderManifest where
  id : String := ""
  name : String := ""
  kind : String := ""
  priority : ℤ := 0
  exec : String := ""
  args : List String := []
  env : QJsonObject := []
  autostart : Bool := true
  capabilities : List String := []
  sourcePath : String := ""
  deriving DecidableEq

namespace ProviderManifest

def PRIORITY_MIN : ℤ := -1000

def PRIORITY_MAX : ℤ := 1000

/-! ## The checks -/

/-- `[a-z0-9]`. -/
def isIdStart (c : Char) : Bool := c.isLower || c.isDigit

/-- `[a-z0-9._-]`. -/
def isIdChar (c : Char) : Bool := isIdStart c || c = '.' || c = '_' || c = '-'

/-- `isValidId`: the pattern `^[a-z0-9][a-z0-9._-]*$`, whose `$` matches
before a newline at the end of the text, too. -/
def isValidId (id : String) : Bool :=
  let chars := if id.toList.getLast? = some '\n' then id.toList.dropLast else id.toList
  match chars with
  | [] => false
  | c :: rest => isIdStart c && rest.all isIdChar

/-- `QDir::isAbsolutePath`: a path that starts with a colon names a
resource, and is absolute. -/
def isAbsolutePath (path : String) : Bool :=
  path.toList.head? = some '/' || path.toList.head? = some ':'

/-- `isValidExec`. -/
def isValidExec (exec : String) : Bool :=
  if exec = "" then false
  else if '/' ∈ exec.toList then isAbsolutePath exec
  else true

/-- `ProviderManifest::isValid`. -/
def isValid (m : ProviderManifest) : Bool :=
  m.id ≠ "" && isValidId m.id && m.name ≠ "" && m.kind ≠ "" && PRIORITY_MIN ≤ m.priority &&
    m.priority ≤ PRIORITY_MAX && isValidExec m.exec

/-! ## The parser -/

/-- The loop of `parseStringArray`. -/
def parseStrings (fieldName : String) : List QJsonValue → Except String (List String)
  | [] => .ok []
  | .string text :: rest => (parseStrings fieldName rest).map (text :: ·)
  | _ :: _ => .error (fieldName ++ " must contain only strings")

/-- `parseStringArray`. -/
def parseStringArray (value : QJsonValue) (fieldName : String) : Except String (List String) :=
  match value with
  | .undefined | .null => .ok []
  | .array entries => parseStrings fieldName entries
  | _ => .error (fieldName ++ " must be an array")

/-- The loop of `parseEnvMap`. The members are visited in the order of
their keys, so what is inserted comes last. -/
def parseEnvMembers : List (String × QJsonValue) → Except String QJsonObject
  | [] => .ok []
  | (key, .string text) :: rest => (parseEnvMembers rest).map ((key, .string text) :: ·)
  | _ :: _ => .error "env values must be strings"

/-- `parseEnvMap`. -/
def parseEnvMap (value : QJsonValue) : Except String QJsonObject :=
  match value with
  | .undefined | .null => .ok []
  | .object members => parseEnvMembers members
  | _ => .error "env must be an object of string values"

/-- The last part of `parseProviderManifest`: the checks on the fields that
have been read. -/
def checked (m : ProviderManifest) : Except String ProviderManifest :=
  if m.id = "" then .error "id is required"
  else if !isValidId m.id then .error "id must match [a-z0-9][a-z0-9._-]*"
  else if m.name = "" then .error "name is required"
  else if m.kind = "" then .error "kind is required"
  else if m.priority < PRIORITY_MIN ∨ m.priority > PRIORITY_MAX then
    .error "priority must be within [-1000, 1000]"
  else if m.exec = "" then .error "exec is required"
  else if !isValidExec m.exec then .error "exec must be absolute path or basename"
  else .ok m

/-- `parseProviderManifest`, of a JSON object. -/
def parseProviderManifest (json : QJsonObject) (sourcePath : String := "") :
    Except String ProviderManifest :=
  let text (key : String) := Text.trimmedText (json.value key).toString
  if json.contains "priority" && !(json.value "priority").isDouble then
    .error "priority must be an integer"
  else if json.contains "autostart" && !(json.value "autostart").isBool then
    .error "autostart must be a boolean"
  else do
    let args ← parseStringArray (json.value "args") "args"
    let env ← parseEnvMap (json.value "env")
    let capabilities ← parseStringArray (json.value "capabilities") "capabilities"
    checked
      { id := text "id"
        name := text "name"
        kind := text "kind"
        priority := (json.value "priority").toInt
        exec := text "exec"
        args := args
        env := env
        autostart := if json.contains "autostart" then (json.value "autostart").toBool else true
        capabilities := capabilities
        sourcePath := sourcePath }

end ProviderManifest

end BbAuth
