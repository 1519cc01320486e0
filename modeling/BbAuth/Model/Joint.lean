import BbAuth.Model.Daemon
import BbAuth.Model.FallbackClient
/-!
# The daemon and one fallback client

The two ends of the client's connection as one machine. What one end
writes waits in a channel until the other end reads it, in the order it was
written. The daemon is the whole daemon: besides the client's it handles
anything that can call into it, so that other providers come and go.

A connection is made in two halves: the client is connected, and writes,
before the daemon takes the connection. It may be lost at any time; what
the daemon still hears of that socket is then an input like any other.
-/

namespace BbAuth

/-- The socket an input is about. -/
def Input.socket? : Input → Option Socket
  | .newConnection socket _ | .closing socket | .line socket _ | .disconnected socket => some socket
  | _ => none

/-- The message an output of the daemon writes to a socket. -/
def Output.to? (socket : Socket) : Output → Option QJsonObject
  | .sent t json => if t = socket then some json else none
  | _ => none

/-- The message an output of the client writes. -/
def FallbackClient.Output.sent? : FallbackClient.Output → Option QJsonObject
  | .sent json => some json
  | _ => none

/-- What the daemon wrote to a socket since the agent was `a`. -/
def Agent.heard (s : Socket) (a b : Agent) : List QJsonObject :=
  (b.log.drop a.log.length).filterMap (Output.to? s)

/-- What the client wrote since it was `c`. -/
def FallbackClient.written (c c' : FallbackClient) : List QJsonObject :=
  (c'.log.drop c.log.length).filterMap Output.sent?

/-- The client's connection: the daemon's socket, and what is under way. -/
structure Link where
  socket : Socket
  toDaemon : List QJsonObject := []
  toClient : List QJsonObject := []
  deriving DecidableEq

/-- The daemon and the client. -/
structure Joint where
  daemon : Daemon := .initial
  client : FallbackClient := {}
  link : Option Link := none

namespace Joint

/-- What can happen to either. -/
inductive Input where
  /-- The client's socket is connected. -/
  | connected (socket : Socket)
  /-- The daemon takes the client's connection. -/
  | accepted (peerPid : Pid)
  /-- The client's socket is disconnected. -/
  | lost
  /-- The daemon reads a message of the client. -/
  | toDaemon
  /-- The client reads a message of the daemon. -/
  | toClient
  /-- The client's timers. -/
  | subscribeWatchdog
  | heartbeatTimer
  /-- The user's answers. -/
  | sendResponse (id response : String)
  | sendCancel (id : String)
  /-- Anything else that calls into the daemon. -/
  | daemon (i : BbAuth.Input)

variable (W : World) (x : Joint)

/-- **What the daemon is given to handle.** It reads a socket once it has
taken the connection. -/
def input? (i : Input) : Option BbAuth.Input :=
  match i, x.link with
  | .accepted peerPid, some link => some (.newConnection link.socket peerPid)
  | .toDaemon, some link =>
    if x.daemon.agent.isValid link.socket then
      link.toDaemon.head?.map fun msg => .line link.socket (some msg)
    else none
  | .daemon i, some link => if i.socket? = some link.socket then none else some i
  | .daemon i, none => some i
  | _, _ => none

/-- The daemon handles an input. -/
def serve (i : BbAuth.Input) : Joint :=
  let daemon := x.daemon.step W i
  { x with
    daemon := daemon
    link := x.link.map fun link =>
      { link with
        toClient := link.toClient ++ Agent.heard link.socket x.daemon.agent daemon.agent } }

/-- The client acts. -/
def act (f : FallbackClient → FallbackClient) : Joint :=
  let client := f x.client
  { x with
    client := client
    link := x.link.map fun link =>
      { link with toDaemon := link.toDaemon ++ x.client.written client } }

/-- The oldest message to the daemon is taken. -/
def takeToDaemon : Joint :=
  { x with link := x.link.map fun link => { link with toDaemon := link.toDaemon.tail } }

/-- One step: after a use after free nothing more is said. -/
def step (i : Input) : Joint :=
  if x.daemon.listener.useAfterFree then x
  else
    match i with
    | .connected socket =>
      if x.link.isSome || x.daemon.agent.isValid socket then x
      else { x with link := some { socket := socket } }.act .onConnected
    | .lost =>
      if x.link.isSome then { x with link := none, client := x.client.onDisconnected } else x
    | .toClient =>
      match x.link with
      | some { socket, toDaemon, toClient := msg :: rest } =>
        { x with link := some { socket, toDaemon, toClient := rest } }.act (·.handleMessage msg)
      | _ => x
    | .subscribeWatchdog => x.act .onSubscribeWatchdog
    | .heartbeatTimer => x.act .onHeartbeatTimer
    | .sendResponse id response => x.act (·.sendResponse id response)
    | .sendCancel id => x.act (·.sendCancel id)
    | .accepted _ | .daemon _ =>
      match x.input? i with
      | some i => x.serve W i
      | none => x
    | .toDaemon =>
      match x.input? i with
      | some i => x.takeToDaemon.serve W i
      | none => x

/-- **The two as a machine**, in a given world. -/
def machine : Machine Joint Input where
  init := {}
  step := step W

end Joint

end BbAuth
