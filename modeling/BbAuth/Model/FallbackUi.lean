import BbAuth.Model.FallbackWindow
/-!
# The fallback UI

`FallbackClient` and `FallbackWindow` as one machine. The client's signals
are handled by the window before the client's handler returns, and no
handler of theirs calls back into the client, so they are fed to the window
in the order the client's trace has them. What the window asks of the
client is done at once.
-/

namespace BbAuth

/-- The client and its window. -/
structure FallbackUi where
  client : FallbackClient := {}
  window : FallbackWindow := {}
  deriving DecidableEq

namespace FallbackUi

/-- **What can happen to either.** -/
inductive Input where
  /-- The client's socket is connected. -/
  | connected
  /-- The client's socket is disconnected. -/
  | disconnected
  /-- The client reads a message of the daemon. -/
  | message (msg : QJsonObject)
  /-- The client reads a line that is no message. -/
  | invalidPayload
  /-- The client's timers. -/
  | subscribeWatchdog
  | heartbeatTimer
  /-- The user. -/
  | edit (e : FallbackWindow.Edit)
  | undo (edits : ℕ)
  | redo (edits : ℕ)
  | toggle
  | submit
  | cancelButton
  | cancelShortcut
  | close
  /-- The window's timers. -/
  | actionTimeout
  | dismissal (timer : ℕ)
  deriving DecidableEq

variable (build : QJsonObject → PromptDisplayModel) (x : FallbackUi)

/-- The client acts, and the window handles its signals. -/
def withClient (client : FallbackClient) : FallbackUi where
  client := client
  window := (client.log.drop x.client.log.length).foldl
    (fun w signal => w.onSignal build signal) x.window

/-- What the window asks for is done by the client. -/
def request (c : FallbackClient) : FallbackWindow.Output → FallbackClient
  | .sendResponse id response => c.sendResponse id response
  | .sendCancel id => c.sendCancel id

/-- The window acts, and the client does what it asks for. -/
def withWindow (i : FallbackWindow.Input) : FallbackUi :=
  let window := x.window.step build i
  { client := (window.log.drop x.window.log.length).foldl request x.client
    window := window }

/-- The handling of one input. The socket changes its state, and is read,
only as it can. -/
def step (i : Input) : FallbackUi :=
  match i with
  | .connected => if x.client.connected then x else x.withClient build x.client.onConnected
  | .disconnected => if x.client.connected then x.withClient build x.client.onDisconnected else x
  | .message msg =>
    if x.client.connected then x.withClient build (x.client.handleMessage msg) else x
  | .invalidPayload =>
    if x.client.connected then
      x.withClient build (x.client.emit (.statusMessage "Invalid daemon payload"))
    else x
  | .subscribeWatchdog => x.withClient build x.client.onSubscribeWatchdog
  | .heartbeatTimer => x.withClient build x.client.onHeartbeatTimer
  | .edit e => x.withWindow build (.edit e)
  | .undo edits => x.withWindow build (.undo edits)
  | .redo edits => x.withWindow build (.redo edits)
  | .toggle => x.withWindow build .toggle
  | .submit => x.withWindow build .submit
  | .cancelButton => x.withWindow build (.cancelButton x.client.connected)
  | .cancelShortcut => x.withWindow build (.cancelShortcut x.client.connected)
  | .close => x.withWindow build .close
  | .actionTimeout => x.withWindow build .actionTimeout
  | .dismissal timer => x.withWindow build (.dismissal timer)

/-- **The two as a machine.** -/
def machine : Machine FallbackUi Input where
  init := {}
  step := step build

end FallbackUi

end BbAuth
