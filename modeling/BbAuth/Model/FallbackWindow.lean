import BbAuth.Library.Machine
import BbAuth.Library.Undo
import BbAuth.Model.FallbackClient
import BbAuth.Model.Text
/-!
# The fallback window

`FallbackWindow`: the prompt of the fallback UI. It shows one session at a
time, the one created last, and keeps everything about it in its widgets:
what was typed, whether a confirmation is asked for, whether an empty
answer will do. Its handlers are the signals of the client, the user's
actions and two kinds of single-shot timers.

A delayed dismissal is a single-shot timer that nothing stops; it may fire
after any number of other events. The one after an error looks whether its
session is still displayed, the one after a success does not; `session` is
recorded for both, and read by the first alone. When the idle timer fires
the process ends, and with it the run.

The line is one for all sessions, and it keeps its history: what `clear`
removes can be brought back while the text is shown. How many edits are
joined to one undo is the toolkit's affair, and given with the input.

Geometry, focus and the folding of the details are left out: no handler
below reads them. What `PromptModelBuilder` makes of an event is a
parameter.
-/

namespace BbAuth

/-- `PromptDisplayModel`, without the intent, which only sizes the window. -/
structure PromptDisplayModel where
  title : String := ""
  summary : String := ""
  requestor : String := ""
  details : String := ""
  prompt : String := ""
  passphrasePrompt : Bool := false
  allowEmptyResponse : Bool := false
  deriving DecidableEq

namespace FallbackWindow

/-- `FallbackWindow::PendingAction`. -/
inductive PendingAction where
  | none
  | submit
  | cancel
  deriving DecidableEq

/-- **A delayed dismissal**, scheduled by the close of `session`. -/
structure Dismissal where
  timer : ℕ
  session : String
  /-- After a success; else after an error. -/
  afterSuccess : Bool
  deriving DecidableEq

/-- What the window asks of the client. -/
inductive Output where
  | sendResponse (id response : String)
  | sendCancel (id : String)
  deriving DecidableEq

/-- A user's edit of the line: what is selected is replaced. -/
structure Edit where
  start : ℕ
  length : ℕ
  entered : String
  deriving DecidableEq

/-- The line after an edit. -/
def Edit.apply (text : String) (e : Edit) : String :=
  String.ofList
    (text.toList.take e.start ++ e.entered.toList ++ text.toList.drop (e.start + e.length))

end FallbackWindow

/-- `QLineEdit`: the text, with its history. -/
abbrev LineEdit : Type := Undoable String

namespace LineEdit

variable (l : LineEdit)

/-- `QLineEdit::clear`: the text is removed as a user would remove it. -/
def clear : LineEdit := if l.value = "" then l else l.change ""

/-- `QLineEdit::undo`, of so many edits at once. In the password mode it
only clears the line. -/
def undo (echo : Bool) (edits : ℕ) : LineEdit :=
  if l.undos = [] then l else if echo then Undoable.back^[edits] l else l.clear

/-- `QLineEdit::redo`, of so many edits at once. -/
def redo (edits : ℕ) : LineEdit := Undoable.forth^[edits] l

end LineEdit

/-- `FallbackWindow`. -/
structure FallbackWindow where
  currentSessionId : String := ""
  currentSource : String := ""
  currentContext : QJsonObject := []
  confirmOnly : Bool := false
  busy : Bool := false
  allowEmptyResponse : Bool := false
  pendingAction : FallbackWindow.PendingAction := .none
  /-- `m_actionTimeoutTimer->isActive()`. -/
  actionTimeoutTimer : Bool := false
  /-- `m_idleExitTimer->isActive()`. -/
  idleExitTimer : Bool := false
  visible : Bool := false
  /-- `m_input`. -/
  input : LineEdit := { value := "" }
  placeholder : String := "Enter password"
  /-- The toggle of the echo mode. -/
  showPassword : Bool := false
  cancelEnabled : Bool := true
  title : String := "Authentication Required"
  summary : String := ""
  requestor : String := ""
  details : String := ""
  promptLabel : String := "Password:"
  submitText : String := "Authenticate"
  errorText : String := ""
  statusText : String := ""
  /-- The delayed dismissals that have not fired. -/
  dismissals : List FallbackWindow.Dismissal := []
  nextTimer : ℕ := 0
  log : List FallbackWindow.Output := []
  deriving DecidableEq

namespace FallbackWindow

variable (build : QJsonObject → PromptDisplayModel) (w : FallbackWindow)

/-- Append to the trace. -/
def emit (o : Output) : FallbackWindow := { w with log := w.log ++ [o] }

/-- `FallbackWindow::setErrorText`. -/
def setErrorText (text : String) : FallbackWindow := { w with errorText := text }

/-- `FallbackWindow::setStatusText`. -/
def setStatusText (text : String) : FallbackWindow := { w with statusText := text }

/-- `FallbackWindow::setBusy`: the line and the submit button are enabled
while the window is not busy. -/
def setBusy (busy : Bool) : FallbackWindow :=
  let hasSession : Bool := w.currentSessionId ≠ ""
  let cancelInFlight : Bool := busy && w.pendingAction = .cancel
  { w with busy := busy, cancelEnabled := hasSession && !cancelInFlight }

/-- `FallbackWindow::startPendingAction`. -/
def startPendingAction (action : PendingAction) : FallbackWindow :=
  { w with pendingAction := action, actionTimeoutTimer := true }

/-- `FallbackWindow::clearPendingAction`. -/
def clearPendingAction : FallbackWindow :=
  { w with pendingAction := .none, actionTimeoutTimer := false }

/-- `FallbackWindow::clearSession`. -/
def clearSession : FallbackWindow :=
  let w := w.clearPendingAction
  let w := { w with
    currentSessionId := "", currentSource := "", currentContext := [], confirmOnly := false,
    allowEmptyResponse := false, title := "Authentication Required", summary := "",
    requestor := "", details := "" }
  let w := (w.setErrorText "").setStatusText ""
  { w with input := w.input.clear }.setBusy false

/-- `QWidget::hide`. -/
def hide : FallbackWindow := { w with visible := false }

/-- `FallbackWindow::startIdleExitTimer`. -/
def startIdleExitTimer : FallbackWindow :=
  if w.currentSessionId = "" ∧ w.visible = false then { w with idleExitTimer := true } else w

/-- `FallbackWindow::stopIdleExitTimer`. -/
def stopIdleExitTimer : FallbackWindow := { w with idleExitTimer := false }

/-- `clearSession(); hide(); startIdleExitTimer();` -/
def dismissSession : FallbackWindow := w.clearSession.hide.startIdleExitTimer

/-- `QTimer::singleShot` with a dismissal for the session `id`. -/
def singleShot (id : String) (afterSuccess : Bool) : FallbackWindow :=
  { w with
    dismissals := w.dismissals ++ [⟨w.nextTimer, id, afterSuccess⟩]
    nextTimer := w.nextTimer + 1 }

/-! ## The user -/

/-- `FallbackWindow::handleCancelRequest`, with `m_client->isConnected()`. -/
def handleCancelRequest (connected : Bool) : FallbackWindow :=
  if w.currentSessionId = "" then w.hide.startIdleExitTimer
  else if w.busy && w.pendingAction = .cancel then w
  -- a submit is in flight and the transport is down
  else if w.busy && !connected then w.dismissSession
  else
    let w := (w.setErrorText "").setStatusText "Cancelling..."
    let w := (w.startPendingAction .cancel).setBusy true
    w.emit (.sendCancel w.currentSessionId)

/-- The submit button. -/
def onSubmitClicked : FallbackWindow :=
  if w.busy then w
  else if w.currentSessionId = "" then w
  else if !w.confirmOnly && !w.allowEmptyResponse && w.input.value = "" then
    w.setErrorText (if Text.containsKeyword w.promptLabel "passphrase" then
      "Please enter your passphrase." else "Please enter your password.")
  else
    let w := (w.setErrorText "").setStatusText "Verifying..."
    let w := w.startPendingAction .submit
    let response := if w.confirmOnly then "confirm" else w.input.value
    let w := w.emit (.sendResponse w.currentSessionId response)
    let w := if !w.confirmOnly then { w with input := w.input.clear } else w
    w.setBusy true

/-- A user's edit of the line, while it is enabled. -/
def onEdit (e : Edit) : FallbackWindow :=
  if w.busy then w else { w with input := w.input.change (e.apply w.input.value) }

/-- The line's undo key, while it is enabled. -/
def onUndo (edits : ℕ) : FallbackWindow :=
  if w.busy then w else { w with input := w.input.undo w.showPassword edits }

/-- And its redo key. -/
def onRedo (edits : ℕ) : FallbackWindow :=
  if w.busy then w else { w with input := w.input.redo edits }

/-- The toggle of the echo mode, while it is enabled. -/
def onToggle : FallbackWindow :=
  if w.confirmOnly then w else { w with showPassword := !w.showPassword }

/-- `FallbackWindow::closeEvent`: the event is accepted. -/
def closeEvent : FallbackWindow :=
  let w := if w.currentSessionId ≠ "" then
    (w.emit (.sendCancel w.currentSessionId)).clearSession else w
  w.hide

/-! ## The timers -/

/-- The action timer. -/
def onActionTimeout : FallbackWindow :=
  if !w.actionTimeoutTimer then w
  else
    let w := { w with actionTimeoutTimer := false }
    if w.currentSessionId = "" ∨ w.pendingAction = .none then w
    else
      let timedOutAction := w.pendingAction
      let w := (w.clearPendingAction.setBusy false).setStatusText ""
      if timedOutAction = .cancel then w.setErrorText "Cancel request timed out. Try again."
      else
        let w := w.setErrorText "Authentication request timed out. Review details and retry."
        if !w.confirmOnly then { w with submitText := "Retry" } else w

/-- **A delayed dismissal fires.** -/
def onDismissal (timer : ℕ) : FallbackWindow :=
  match w.dismissals.find? fun d => d.timer = timer with
  | none => w
  | some d =>
    let w := { w with dismissals := w.dismissals.filter fun d => d.timer ≠ timer }
    if d.afterSuccess then w.dismissSession
    else if w.currentSessionId = d.session then w.dismissSession
    else w

/-! ## The client's signals -/

/-- `connectionStateChanged`. -/
def onConnectionStateChanged (connected : Bool) : FallbackWindow :=
  if connected then
    if w.currentSessionId ≠ "" then w.setStatusText "Connected" else w
  else (w.setStatusText "Disconnected from daemon, reconnecting...").setBusy true

/-- `providerStateChanged`. -/
def onProviderStateChanged (active : Bool) : FallbackWindow :=
  if active then
    let w := w.setStatusText ""
    if w.currentSessionId ≠ "" then w.setBusy false else w
  else
    let w := if w.currentSessionId ≠ "" then w.clearSession else w
    w.hide.startIdleExitTimer

/-- The texts of the line and the submit button, for a prompt that is not
only confirmed. -/
def placeholderOf (model : PromptDisplayModel) : String :=
  if model.allowEmptyResponse then "Press Enter to continue (optional)"
  else if model.passphrasePrompt then "Enter passphrase" else "Enter password"

/-- `sessionCreated`: the session is displayed, whatever was before. -/
def onSessionCreated (event : QJsonObject) : FallbackWindow :=
  let id := (event.value "id").toString
  if id = "" then w
  else
    let context := (event.value "context").toObject
    let confirmOnly := (context.value "confirmOnly").toBool
    let w := { w with
      currentSessionId := id, currentSource := (event.value "source").toString,
      currentContext := context, confirmOnly := confirmOnly, allowEmptyResponse := false }
    let model := build event
    let w := w.clearPendingAction
    let w := { w with
      title := model.title, summary := model.summary, requestor := model.requestor,
      details := model.details, promptLabel := model.prompt, input := w.input.clear
      showPassword := false
      placeholder := if confirmOnly then "" else placeholderOf model
      submitText := if confirmOnly then "Confirm"
        else if model.allowEmptyResponse then "Continue" else "Authenticate"
      allowEmptyResponse := model.allowEmptyResponse }
    let w := ((w.setErrorText "").setStatusText "").setBusy false
    { w.stopIdleExitTimer with visible := true }

/-- The object an update is rebuilt from: the source and the context of
the creation, with the texts of the update. -/
def mergedEvent (event : QJsonObject) : QJsonObject :=
  let prompt := (event.value "prompt").toString
  let info := Text.trimmedText (event.value "info").toString
  let source := if w.currentSource = "" then (event.value "source").toString else w.currentSource
  let context := if w.currentContext = [] then (event.value "context").toObject
    else w.currentContext
  let merged : QJsonObject := [("source", .string source), ("context", .object context)]
  (merged.setIf (prompt ≠ "") "prompt" prompt).setIf (info ≠ "") "info" info

/-- The status an update leaves. -/
def updatedStatus (event : QJsonObject) : String :=
  let info := Text.trimmedText (event.value "info").toString
  if info ≠ "" then info
  else
    let curRetry := (event.value "curRetry").toInt
    let maxRetry := (event.value "maxRetries").toInt
    if w.currentSource = "pinentry" ∧ 0 < curRetry ∧ 0 < maxRetry then
      "Attempt " ++ toString curRetry ++ " of " ++ toString maxRetry
    else ""

/-- `sessionUpdated`: an update of the displayed session is shown. -/
def onSessionUpdated (event : QJsonObject) : FallbackWindow :=
  let id := (event.value "id").toString
  if id = "" ∨ id ≠ w.currentSessionId then w
  else
    let model := build (w.mergedEvent event)
    let error := (event.value "error").toString
    let status := w.updatedStatus event
    let w := w.clearPendingAction
    -- a confirmation keeps its line and its button
    let w := { w with
      title := model.title
      allowEmptyResponse := if w.confirmOnly then w.allowEmptyResponse else model.allowEmptyResponse
      promptLabel := if w.confirmOnly then w.promptLabel else model.prompt
      placeholder := if w.confirmOnly then w.placeholder else placeholderOf model
      submitText := if w.confirmOnly then w.submitText else if error ≠ "" then "Retry"
        else if model.allowEmptyResponse then "Continue" else "Authenticate"
      showPassword := if event.contains "echo" then (event.value "echo").toBool
        else w.showPassword }
    ((w.setErrorText error).setStatusText status).setBusy false

/-- `sessionClosed`: the close of the displayed session is shown, and the
window dismissed, at once or after a while. -/
def onSessionClosed (event : QJsonObject) : FallbackWindow :=
  let id := (event.value "id").toString
  if id = "" ∨ id ≠ w.currentSessionId then w
  else
    let result := (event.value "result").toString
    let error := (event.value "error").toString
    let w := w.clearPendingAction
    if result = "success" then
      ((w.setErrorText "").setStatusText "Authentication successful.").singleShot id true
    else if result = "cancelled" ∨ result = "canceled" then w.dismissSession
    else
      let w := w.setErrorText (if error ≠ "" then error else "Authentication failed.")
      ((w.setStatusText "Request ended.").setBusy false).singleShot id false

/-- A signal of the client, and what is connected to it. -/
def onSignal (signal : FallbackClient.Output) : FallbackWindow :=
  match signal with
  | .sent _ => w
  | .connectionStateChanged connected => w.onConnectionStateChanged connected
  | .providerStateChanged active => w.onProviderStateChanged active
  | .statusMessage status => w.setStatusText status
  | .sessionCreated event => w.onSessionCreated build event
  | .sessionUpdated event => w.onSessionUpdated build event
  | .sessionClosed event => w.onSessionClosed event

/-- **What can happen to the window.** A cancellation comes with the state
of the client's socket; it reaches the window through the button, while
that is enabled, or through the window's shortcut. -/
inductive Input where
  | signal (signal : FallbackClient.Output)
  | edit (e : Edit)
  | undo (edits : ℕ)
  | redo (edits : ℕ)
  | toggle
  | submit
  | cancelButton (connected : Bool)
  | cancelShortcut (connected : Bool)
  | close
  | actionTimeout
  | dismissal (timer : ℕ)
  deriving DecidableEq

/-- The handling of one input. -/
def step (i : Input) : FallbackWindow :=
  match i with
  | .signal signal => w.onSignal build signal
  | .edit e => w.onEdit e
  | .undo edits => w.onUndo edits
  | .redo edits => w.onRedo edits
  | .toggle => w.onToggle
  | .submit => w.onSubmitClicked
  | .cancelButton connected => if w.cancelEnabled then w.handleCancelRequest connected else w
  | .cancelShortcut connected => w.handleCancelRequest connected
  | .close => w.closeEvent
  | .actionTimeout => w.onActionTimeout
  | .dismissal timer => w.onDismissal timer

/-- **The window as a machine.** -/
def machine : Machine FallbackWindow Input where
  init := {}
  step := step build

end FallbackWindow

end BbAuth
