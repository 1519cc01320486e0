import BbAuth.Library.Framing
import BbAuth.Model.Json
import BbAuth.Model.Text
import BbAuth.Model.TextNormalize
/-!
# The bootstrap

What `bb-auth-bootstrap` writes before the daemon starts: the entry of
`gpg-agent.conf` that names the pinentry, and the report of what it did,
which the daemon reads back for its `pong`. A file is its text. `assign` is
what `awk -v` makes of a text it is given for a variable: the escape
sequences in it are replaced.

Competing agents that it stops, its back-up copies and its log are left out:
nothing reads them.
-/

namespace BbAuth

namespace Bootstrap

open TextNormalize

/-- The lines of a file: its last one may lack a newline. -/
def linesOf (text : List Char) : List (List Char) :=
  let last := Framing.residue '\n' text
  Framing.segments '\n' text ++ if last.isEmpty then [] else [last]

/-- Lines as they are printed. -/
def printed (lines : List (List Char)) : List Char := lines.flatMap (· ++ ['\n'])

/-- `canonical_mode`. -/
def canonicalMode (mode : String) : String :=
  if mode = "warn" ∨ mode = "session" ∨ mode = "persistent" then mode else "session"

/-! ## The pinentry of gpg -/

/-- `[[:space:]]*pinentry-program[[:space:]]+` at the head of a line, and
what follows the match. -/
def pinentryProgram (line : List Char) : Option (List Char) :=
  let rest := line.dropWhile Text.isSpace
  if "pinentry-program".toList.isPrefixOf rest then
    let value := rest.drop "pinentry-program".toList.length
    if (value.head?.map Text.isSpace).getD false then some (value.dropWhile Text.isSpace) else none
  else none

/-- The value of the last entry, empty where there is none:
`grep | tail -n 1 | sed`. -/
def currentPinentry (text : List Char) : List Char :=
  (((linesOf text).filterMap pinentryProgram).getLast?).getD []

/-- The entry that names `expected`. -/
def entryOf (expected : List Char) : List Char := "pinentry-program ".toList ++ expected

/-- The awk program: the first entry is replaced, the others are left out;
`replaced` is its variable. -/
def replaceEntries (replacement : List Char) : Bool → List (List Char) → List (List Char)
  | replaced, [] => if replaced then [] else [replacement]
  | replaced, line :: rest =>
    if (pinentryProgram line).isSome then
      if replaced then replaceEntries replacement true rest
      else replacement :: replaceEntries replacement true rest
    else line :: replaceEntries replacement replaced rest

/-- `ensure_gpg_pinentry`: the text of `gpg-agent.conf` after it, and
whether it was changed. -/
def ensureGpgPinentry (assign : List Char → List Char) (expected : List Char)
    (conf : Option (List Char)) : List Char × Bool :=
  match conf with
  | none => (printed [entryOf expected], true)
  | some text =>
    let current := currentPinentry text
    if current.isEmpty then (text ++ '\n' :: printed [entryOf expected], true)
    else if current ≠ expected then
      (printed (replaceEntries (assign (entryOf expected)) false (linesOf text)), true)
    else (text, false)

/-! ## The report -/

/-- `write_state_report`, at a time in seconds. -/
def writeStateReport (timestamp : ℕ) (mode expected : List Char) : List Char :=
  printed ["timestamp=".toList ++ (toString timestamp).toList, "mode=".toList ++ mode,
    "pinentry_path=".toList ++ expected]

/-- One line of the file in `readBootstrapState`. -/
def readLine (bootstrap : QJsonObject) (raw : List Char) : QJsonObject :=
  let line := trimmed raw
  if line.isEmpty || line.head? = some '#' then bootstrap
  else
    match line.idxOf? '=' with
    | none | some 0 => bootstrap
    | some delimiter =>
      let key := trimmed (line.take delimiter)
      let value := trimmed (line.drop (delimiter + 1))
      if key.isEmpty then bootstrap
      else if key = "timestamp".toList then
        bootstrap.set "timestamp" (.int ((Text.toLongLong (String.ofList value)).getD 0))
      else bootstrap.set (String.ofList key) (.string (String.ofList value))

/-- `readBootstrapState`: `stateFile` is the text of the file, if it can be
read, `modeOverride` is `BB_AUTH_CONFLICT_MODE`. -/
def readBootstrapState (stateFile : Option (List Char)) (modeOverride : String) : QJsonObject :=
  match stateFile with
  | none => []
  | some text =>
    let bootstrap := (linesOf text).foldl readLine []
    bootstrap.setIf (modeOverride ≠ "") "mode" modeOverride

end Bootstrap

end BbAuth
