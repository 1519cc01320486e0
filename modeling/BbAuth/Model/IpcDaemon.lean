import BbAuth.Library.Framing
import BbAuth.Model.Daemon
import BbAuth.Model.IpcServer
/-!
# The daemon at its sockets

`IpcServer` with `CAgent::handleMessage` as its handler: the same loop of
a read, with the agent for what the server calls. A read goes into the
buffer of its connection, and the lines it completes are handled where
the loop of the read finds them, so one read can be many calls of the
agent, or none. What does not come out of a socket calls the agent as it
does without the server.
-/

namespace BbAuth

/-- The inputs of the daemon that the server does not make out of its
sockets' signals. -/
def Input.fromWithin : Input → Bool
  | .newConnection .. | .line .. | .disconnected .. => false
  | _ => true

/-- `CAgent` and its `m_ipcServer`. -/
structure IpcDaemon where
  /-- `m_buffers`. -/
  buffers : Table Socket QByteArray := ∅
  daemon : Daemon := .initial

namespace IpcDaemon

/-- What can call into the process. -/
inductive Input where
  /-- A pending connection; its credentials name this pid. -/
  | newConnection (socket : Socket) (peerPid : Pid)
  /-- `data` can be read from the socket. -/
  | readyRead (socket : Socket) (data : QByteArray)
  | disconnected (socket : Socket)
  /-- A timer, a call or a signal of polkit, a socket that leaves the
  connected state. -/
  | signal (i : { i : BbAuth.Input // i.fromWithin = true })

variable (W : World) (fromJson : QByteArray → Option QJsonObject) (g : IpcDaemon)

/-- `m_buffers[socket]`. -/
def buffer (socket : Socket) : QByteArray := IpcServer.bufferOf g.buffers socket

/-- Write `m_buffers[socket]`. -/
def setBuffer (socket : Socket) (bytes : QByteArray) : IpcDaemon :=
  { g with buffers := g.buffers.insert socket bytes }

/-- The agent is called. -/
def call (i : BbAuth.Input) : IpcDaemon := { g with daemon := g.daemon.step W i }

/-- `IpcServer::onNewConnection`, at one pending connection. -/
def onNewConnection (socket : Socket) (peerPid : Pid) : IpcDaemon :=
  (g.setBuffer socket []).call W (.newConnection socket peerPid)

/-- `IpcServer::onDisconnected`. -/
def onDisconnected (socket : Socket) : IpcDaemon :=
  { g with buffers := g.buffers.erase socket }.call W (.disconnected socket)

/-- `IpcServer::handleLine`: the agent is handed what the line holds. -/
def handleLine (socket : Socket) (line : QByteArray) : IpcDaemon :=
  g.call W (.line socket (fromJson line))

/-- `IpcServer::onReadyRead`, when `data` can be read. -/
def onReadyRead (socket : Socket) (data : QByteArray) : IpcDaemon :=
  IpcServer.read (fun g line => g.handleLine W fromJson socket line)
    (fun g bytes => g.setBuffer socket bytes) (fun g => g.call W (.closing socket))
    (g.buffer socket ++ data) g

/-- The handling of one input. -/
def step : Input → IpcDaemon
  | .newConnection socket peerPid => g.onNewConnection W socket peerPid
  | .readyRead socket data => g.onReadyRead W fromJson socket data
  | .disconnected socket => g.onDisconnected W socket
  | .signal i => g.call W i

/-- **The process from a state on.** -/
@[simps] def machine : Machine IpcDaemon Input where
  init := g
  step := step W fromJson

end IpcDaemon

end BbAuth
