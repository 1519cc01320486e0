import BbAuth.Model.Assuan
/-!
# A pinentry

`PinentrySession`: gpg's side of a pinentry flow. Commands come in as lines
of the Assuan protocol; `GETPIN` and `CONFIRM` ask the daemon under the
cookie of the flow and are answered to the caller by what it replies.
Once the daemon has let a prompt succeed the flow awaits its end, which
the session reports when the caller leaves.

`log` is the trace of what the session writes to the caller and sends to
the daemon: it is written and never read.
-/

namespace BbAuth

/-- `PinentryState`. -/
structure PinentryState where
  description : String := ""
  prompt : String := ""
  title : String := ""
  error : String := ""
  okText : String := ""
  cancelText : String := ""
  notOkText : String := ""
  keyinfo : String := ""
  repeats : String := ""
  deriving DecidableEq

/-- What the session does to the outside. -/
inductive PinentrySession.Output where
  /-- `IpcClient::sendRequest` was called with this request. -/
  | request (json : QJsonObject)
  /-- The lines written to the caller: `OK`, `ERR` and `D`. -/
  | ok (comment : String)
  | err (code : ℕ) (message : String)
  | data (text : String)
  deriving DecidableEq

/-- **Every answer a pinentry gets from outside itself.** -/
structure PinentryWorld where
  /-- `IpcClient::sendRequest`: what the daemon replies, where it does. -/
  sendRequest : ℕ → Option QJsonObject
  /-- `QUuid::createUuid().toString(QUuid::WithoutBraces)`. -/
  createUuid : ℕ → String
  createUuid_ne_empty : ∀ n, createUuid n ≠ ""
  createUuid_injective : Function.Injective createUuid
  /-- `QString::number(getpid())`. -/
  getpid : String

/-- The name of the `n`-th flow, in the world below. -/
def PinentryWorld.letters (n : ℕ) : String := String.ofList (List.replicate (n + 1) 'u')

theorem PinentryWorld.letters_ne_empty (n : ℕ) : letters n ≠ "" := by
  intro h
  have := congrArg String.toList h
  simp [letters, List.replicate_succ] at this

theorem PinentryWorld.letters_injective : Function.Injective letters := by
  intro m n h
  have := congrArg (fun s => s.toList.length) h
  simpa [letters] using this

/-- A daemon that answers every request with `reply`. -/
def PinentryWorld.constant (reply : QJsonObject) : PinentryWorld where
  sendRequest _ := some reply
  createUuid := letters
  createUuid_ne_empty := letters_ne_empty
  createUuid_injective := letters_injective
  getpid := "1"

/-- `PinentrySession`. -/
structure PinentrySession where
  state : PinentryState := {}
  flowCookie : String := ""
  awaitingTerminalResult : Bool := false
  /-- How many requests have been sent. -/
  requests : ℕ := 0
  /-- How many cookies have been made. -/
  cookies : ℕ := 0
  log : List PinentrySession.Output := []
  deriving DecidableEq

/-- The Assuan commands the session knows. -/
inductive AssuanCommand where
  | bye | setDesc | setPrompt | setTitle | setError | setOk | setCancel | setNotOk | setKeyInfo
  | setRepeat | option | getInfo | getPin | confirm | message | reset | nop
  deriving DecidableEq

/-- Their names, in the order they are compared with. -/
def assuanCommands : List (String × AssuanCommand) :=
  [("BYE", .bye), ("SETDESC", .setDesc), ("SETPROMPT", .setPrompt), ("SETTITLE", .setTitle),
    ("SETERROR", .setError), ("SETOK", .setOk), ("SETCANCEL", .setCancel),
    ("SETNOTOK", .setNotOk), ("SETKEYINFO", .setKeyInfo), ("SETREPEAT", .setRepeat),
    ("OPTION", .option), ("GETINFO", .getInfo), ("GETPIN", .getPin), ("CONFIRM", .confirm),
    ("MESSAGE", .message), ("RESET", .reset), ("NOP", .nop)]

namespace PinentrySession

variable (W : PinentryWorld) (s : PinentrySession)

/-! ## Speaking -/

/-- Append to the trace. -/
@[simps] def emit (o : Output) : PinentrySession := { s with log := s.log ++ [o] }

/-- Write the prompt's texts. -/
@[simps] def setState (state : PinentryState) : PinentrySession := { s with state := state }

/-- `PinentrySession::sendOk`. -/
@[simps!] def sendOk (comment : String := "") : PinentrySession := s.emit (.ok comment)

/-- `PinentrySession::sendError`. -/
@[simps!] def sendError (code : ℕ) (message : String) : PinentrySession := s.emit (.err code message)

/-- `PinentrySession::sendData`. -/
@[simps!] def sendData (data : String) : PinentrySession := s.emit (.data (Assuan.assuanEncode data))

/-- `IpcClient::sendRequest`. -/
def sendRequest (json : QJsonObject) : Option QJsonObject × PinentrySession :=
  (W.sendRequest s.requests, { s.emit (.request json) with requests := s.requests + 1 })

/-! ## The flow -/

/-- `PinentrySession::ensureFlowCookie`: the session with its cookie. -/
def ensureFlowCookie : PinentrySession :=
  if s.flowCookie = "" then
    { s with flowCookie := W.createUuid s.cookies, cookies := s.cookies + 1 }
  else s

/-- `PinentrySession::clearSubmitState`. -/
@[simps] def clearSubmitState : PinentrySession := { s with awaitingTerminalResult := false }

/-- `PinentrySession::resetFlow`. -/
@[simps!] def resetFlow : PinentrySession := { s.clearSubmitState with flowCookie := "" }

/-- `awaitingTerminalResult = true`. -/
@[simps] def awaitResult : PinentrySession := { s with awaitingTerminalResult := true }

/-- The message of `PinentrySession::reportTerminalResult`. -/
def resultMessage (cookie result error : String) : QJsonObject :=
  let request : QJsonObject := [("type", "pinentry_result"), ("id", cookie), ("result", result)]
  if error ≠ "" then request.set "error" error else request

/-- `PinentrySession::reportTerminalResult`. What the daemon replies is
only printed. -/
def reportTerminalResult (result : String) (error : String := "") : PinentrySession :=
  if s.flowCookie = "" then s
  else
    let (_, s) := s.sendRequest W (resultMessage s.flowCookie result error)
    if result = "retry" then s.clearSubmitState else s.resetFlow

/-- `PinentrySession::finalizeOnStreamClose`. -/
def finalizeOnStreamClose : PinentrySession :=
  if s.awaitingTerminalResult then
    if s.state.error ≠ "" then s.reportTerminalResult W "error" s.state.error
    else s.reportTerminalResult W "success"
  else if s.flowCookie ≠ "" then
    if s.state.error ≠ "" then s.reportTerminalResult W "error" s.state.error
    else s.reportTerminalResult W "cancelled"
  else s

/-! ## Asking the daemon -/

/-- A text, or another where it is empty. -/
def orDefault (text default : String) : String := if text = "" then default else text

/-- The request of `PinentrySession::requestPasswordFromDaemon`. -/
def passwordRequest (state : PinentryState) (cookie : String) : QJsonObject :=
  let request : QJsonObject :=
    [("type", "pinentry_request"), ("cookie", cookie),
      ("title", orDefault state.title "GPG Key"),
      ("prompt", orDefault state.prompt "Enter passphrase:"),
      ("description", state.description), ("repeat", .bool (state.repeats ≠ ""))]
  let request := request.setIf (state.error ≠ "") "error" state.error
  request.setIf (state.keyinfo ≠ "") "keyinfo" state.keyinfo

/-- `PinentrySession::requestPasswordFromDaemon`: the password, where the
request succeeds. -/
def requestPasswordFromDaemon : Option String × PinentrySession :=
  let s := s.ensureFlowCookie W
  let (response, s) := s.sendRequest W (passwordRequest s.state s.flowCookie)
  match response with
  | none => (none, s.resetFlow)
  | some response =>
    if (response.value "type").toString = "pinentry_response" then
      if (response.value "result").toString = "ok" then
        (some (response.value "password").toString, s.awaitResult)
      else (none, s.resetFlow)
    else (none, s.resetFlow)

/-- The request of `PinentrySession::requestConfirmFromDaemon`. -/
def confirmRequest (state : PinentryState) (cookie : String) : QJsonObject :=
  [("type", "pinentry_request"), ("cookie", cookie), ("title", orDefault state.title "Confirm"),
    ("prompt", orDefault state.description "Please confirm"), ("confirm_only", true)]

/-- `PinentrySession::requestConfirmFromDaemon`. -/
def requestConfirmFromDaemon : Bool × PinentrySession :=
  let s := s.ensureFlowCookie W
  let (response, s) := s.sendRequest W (confirmRequest s.state s.flowCookie)
  match response with
  | none => (false, s.resetFlow)
  | some response =>
    let confirmed := (response.value "type").toString = "pinentry_response" ∧
      (response.value "result").toString = "confirmed"
    if confirmed then (true, s.awaitResult) else (false, s.resetFlow)

/-! ## The commands -/

/-- `state.error.clear()`. -/
@[simps!] def clearError : PinentrySession := s.setState { s.state with error := "" }

/-- The first part of `PinentrySession::handleGetPin`: a prompt while the
result is awaited is a retry. -/
def reportRetry : PinentrySession :=
  if s.awaitingTerminalResult then
    s.reportTerminalResult W "retry" (orDefault s.state.error "Authentication failed")
  else s

/-- `PinentrySession::handleGetPin`. -/
def handleGetPin : PinentrySession :=
  let s := s.reportRetry W
  let (password, s) := s.requestPasswordFromDaemon W
  let s := match password with
    | some password =>
      if password ≠ "" then (s.sendData password).sendOk
      else s.sendError 83886179 "Operation cancelled"
    | none => s.sendError 83886179 "Operation cancelled"
  s.clearError

/-- `PinentrySession::handleConfirm`. -/
def handleConfirm : PinentrySession :=
  let (confirmed, s) := s.requestConfirmFromDaemon W
  let s := if confirmed then s.sendOk else s.sendError 83886179 "Operation cancelled"
  s.clearError

/-- The answer to `GETINFO`. -/
def handleGetInfo (arg : String) : PinentrySession :=
  if arg = "pid" then (s.sendData W.getpid).sendOk
  else if arg = "version" then (s.sendData "1.0.0").sendOk
  else if arg = "flavor" then (s.sendData "bb").sendOk
  else if arg = "ttyinfo" then (s.sendData "").sendOk
  else s.sendOk

/-- The command and the argument of a line. -/
def parseCommand (line : String) : Option AssuanCommand × String :=
  let left := line.toList.takeWhile (· ≠ ' ')
  let right := line.toList.dropWhile (· ≠ ' ')
  -- a line that starts with the first blank, or has none, is all command
  let (cmd, arg) :=
    if left = [] ∨ right = [] then (line.toList, "") else (left, Assuan.assuanDecode right.tail)
  ((assuanCommands.find? fun c => Text.equalsKeyword cmd c.1).map Prod.snd, arg)

/-- `PinentrySession::handleCommand`: does the session go on? -/
def handleCommand (line : String) : Bool × PinentrySession :=
  let (command, arg) := parseCommand line
  match command with
  | some .bye => (false, (s.finalizeOnStreamClose W).sendOk "closing connection")
  | some .setDesc => (true, (s.setState { s.state with description := arg }).sendOk)
  | some .setPrompt => (true, (s.setState { s.state with prompt := arg }).sendOk)
  | some .setTitle => (true, (s.setState { s.state with title := arg }).sendOk)
  | some .setError => (true, (s.setState { s.state with error := arg }).sendOk)
  | some .setOk => (true, (s.setState { s.state with okText := arg }).sendOk)
  | some .setCancel => (true, (s.setState { s.state with cancelText := arg }).sendOk)
  | some .setNotOk => (true, (s.setState { s.state with notOkText := arg }).sendOk)
  | some .setKeyInfo => (true, (s.setState { s.state with keyinfo := arg }).sendOk)
  | some .setRepeat => (true, (s.setState { s.state with repeats := arg }).sendOk)
  | some .option => (true, s.sendOk)
  | some .getInfo => (true, s.handleGetInfo W arg)
  | some .getPin => (true, s.handleGetPin W)
  | some .confirm => (true, s.handleConfirm W)
  | some .message => (true, s.sendOk)
  | some .reset => (true, (s.setState {}).sendOk)
  | some .nop => (true, s.sendOk)
  | none => (true, s.sendOk)

/-- `if (line.back() == '\r') line.pop_back();` -/
def chomp (line : String) : String :=
  if line.toList.getLast? = some '\r' then String.ofList line.toList.dropLast else line

/-- What `run` makes of the bytes of a line before `handleCommand` sees it. -/
def received (line : QByteArray) : String :=
  Assuan.fromStdString (if line.getLast? = some 13 then line.dropLast else line)

/-- The loop of `PinentrySession::run` over the lines still to come. -/
def loop : List String → PinentrySession → PinentrySession
  | [], s => s
  | line :: lines, s =>
    if line = "" then loop lines s
    else
      let (goesOn, s) := s.handleCommand W (chomp line)
      if goesOn then loop lines s else s

/-- The session once it has greeted the caller. -/
def greeted : PinentrySession := sendOk {} "BB Auth Pinentry"

/-- **`PinentrySession::run`**, on the lines read until the end of input. -/
def run (lines : List String) : PinentrySession := (loop W lines greeted).finalizeOnStreamClose W

end PinentrySession

end BbAuth
