import BbAuth.Model.FallbackUi
import BbAuth.Model.Joint
/-!
# The daemon and the fallback UI

The whole daemon and the whole fallback UI, client and window, as one
machine. A connection is made and lost as in `Joint`, and what one end
writes waits in a channel, message by message, until the other end reads
it. Each step gives one of the two an input, or neither. A daemon that has
used freed memory does nothing more; the UI goes on.
-/

namespace BbAuth

/-- The input comes from the user or from a timer. -/
def FallbackUi.Input.isOwn : FallbackUi.Input → Bool
  | .connected | .disconnected | .message _ | .invalidPayload => false
  | _ => true

/-- The daemon and the fallback UI. -/
structure Desktop where
  daemon : Daemon := .initial
  ui : FallbackUi := {}
  link : Option Link := none

namespace Desktop

/-- **What can happen to either.** -/
inductive Input where
  /-- The client's socket is connected. -/
  | connected (socket : Socket)
  /-- The daemon takes the client's connection. -/
  | accepted (peerPid : Pid)
  /-- The client's socket is disconnected. -/
  | lost
  /-- The daemon reads a message of the client. -/
  | toDaemon
  /-- The client reads a message of the daemon. -/
  | toClient
  /-- The user, and the timers of the UI. -/
  | ui (i : FallbackUi.Input)
  /-- Anything else that calls into the daemon. -/
  | daemon (i : BbAuth.Input)

variable (W : World) (build : QJsonObject → PromptDisplayModel) (x : Desktop)

/-- **What the daemon is given to handle.** It reads a socket once it has
taken the connection. -/
def input? (i : Input) : Option BbAuth.Input :=
  if x.daemon.listener.useAfterFree then none
  else
    match i, x.link with
    | .accepted peerPid, some link => some (.newConnection link.socket peerPid)
    | .toDaemon, some link =>
      if x.daemon.agent.isValid link.socket then
        link.toDaemon.head?.map fun msg => .line link.socket (some msg)
      else none
    | .daemon i, some link => if i.socket? = some link.socket then none else some i
    | .daemon i, none => some i
    | _, _ => none

/-- **What the UI is given to handle.** -/
def uiInput? (i : Input) : Option FallbackUi.Input :=
  match i, x.link with
  | .connected socket, none =>
    if x.daemon.agent.isValid socket then none else some .connected
  | .lost, some _ => some .disconnected
  | .toClient, some link => link.toClient.head?.map .message
  | .ui i, _ => if i.isOwn then some i else none
  | _, _ => none

/-- **The connection** once what is read has been taken from it. -/
def linkAfter (i : Input) : Option Link :=
  match i, x.link with
  | .connected socket, none =>
    if x.daemon.agent.isValid socket then none else some { socket := socket }
  | .lost, _ => none
  | .toClient, some link => some { link with toClient := link.toClient.tail }
  | .toDaemon, some link =>
    if (x.input? .toDaemon).isSome then some { link with toDaemon := link.toDaemon.tail }
    else some link
  | _, link => link

/-- **The two handle what they are given.** What they write is under way
then, in whatever is left of the connection. -/
def handle (di : Option BbAuth.Input) (ui : Option FallbackUi.Input) (link : Option Link) :
    Desktop :=
  let daemon := di.elim x.daemon (x.daemon.step W)
  let fallback := ui.elim x.ui (x.ui.step build)
  { daemon := daemon
    ui := fallback
    link := link.map fun link =>
      { link with
        toDaemon := link.toDaemon ++ x.ui.client.written fallback.client
        toClient := link.toClient ++ Agent.heard link.socket x.daemon.agent daemon.agent } }

/-- One step. -/
def step (i : Input) : Desktop := x.handle W build (x.input? i) (x.uiInput? i) (x.linkAfter i)

/-- **The two as a machine**, in a given world. -/
def machine : Machine Desktop Input where
  init := {}
  step := step W build

end Desktop

end BbAuth
