import BbAuth.Library.Framing
import BbAuth.Library.Table
import BbAuth.Model.Bytes
import BbAuth.Model.World
/-!
# The socket server

`IpcServer`: one receive buffer for each connection, out of which complete
lines are taken and handed on as JSON messages. `fromJson` is Qt's parser:
the object a line holds, if it holds one.

`log` is the trace of what the server calls and signals: it is written and
never read.
-/

namespace BbAuth

/-- `MAX_MESSAGE_SIZE`. -/
def maxMessageSize : ℕ := 64 * 1024

/-- What the server does to the outside. -/
inductive IpcServer.Output where
  | clientConnected (socket : Socket)
  | clientDisconnected (socket : Socket)
  /-- `socket->disconnectFromServer()` was called. -/
  | disconnectFromServer (socket : Socket)
  /-- `handleLine` was called with this line. -/
  | handleLine (socket : Socket) (line : QByteArray)
  /-- `m_handler` was called. -/
  | handler (socket : Socket) (type : String) (msg : QJsonObject)
  /-- `sendJson` was called. -/
  | sendJson (socket : Socket) (json : QJsonObject)
  deriving DecidableEq

/-- `IpcServer`. -/
structure IpcServer where
  /-- Is `m_handler` set? -/
  hasHandler : Bool := true
  buffers : Table Socket QByteArray := ∅
  log : List IpcServer.Output := []

namespace IpcServer

variable (v : IpcServer)

/-- Append to the trace. -/
def emit (o : Output) : IpcServer := { v with log := v.log ++ [o] }

/-- `m_buffers[socket]`: an absent buffer is created empty. -/
def bufferOf (buffers : Table Socket QByteArray) (socket : Socket) : QByteArray :=
  (buffers.lookup socket).getD []

/-- `m_buffers[socket]`. -/
def buffer (socket : Socket) : QByteArray := bufferOf v.buffers socket

/-- Write `m_buffers[socket]`. -/
def setBuffer (socket : Socket) (bytes : QByteArray) : IpcServer :=
  { v with buffers := v.buffers.insert socket bytes }

/-- `IpcServer::onNewConnection`, at one pending connection. -/
def onNewConnection (socket : Socket) : IpcServer :=
  (v.setBuffer socket []).emit (.clientConnected socket)

/-- `IpcServer::onDisconnected`. -/
def onDisconnected (socket : Socket) : IpcServer :=
  { v with buffers := v.buffers.erase socket }.emit (.clientDisconnected socket)

/-- An `error` reply. -/
def error (message : String) : QJsonObject := [("type", "error"), ("message", message)]

section Loop

variable {σ : Type} (handleLine : σ → QByteArray → σ)

/-- The body of the loop of `onReadyRead`, at the bytes before a newline.
`σ` is what the lines are handled in. -/
def takeLine (s : σ) (bytes : QByteArray) : σ :=
  let line := bytes.trimmed
  if line.isEmpty then s else handleLine s line

/-- `IpcServer::onReadyRead`, at a buffer with what was read appended to it.
`setBuffer` writes `m_buffers[socket]`, `disconnect` is what is done at a
buffer over the limit. -/
def read (setBuffer : σ → QByteArray → σ) (disconnect : σ → σ) (buffer : QByteArray) (s : σ) :
    σ :=
  let s := setBuffer s buffer
  if maxMessageSize < buffer.length then disconnect s
  else
    let (s, buffer) := Framing.drain QByteArray.newline (takeLine handleLine) buffer s
    setBuffer s buffer

end Loop

section Reading

variable (fromJson : QByteArray → Option QJsonObject)

/-- `IpcServer::handleLine`. -/
def handleLine (socket : Socket) (line : QByteArray) : IpcServer :=
  let v := v.emit (.handleLine socket line)
  if !v.hasHandler then v
  else match fromJson line with
    | none => v.emit (.sendJson socket (error "Invalid JSON"))
    | some obj =>
      let type := (obj.value "type").toString
      if type = "" then v.emit (.sendJson socket (error "Missing type field"))
      else v.emit (.handler socket type obj)

/-- `IpcServer::onReadyRead`, when `data` can be read. -/
def onReadyRead (socket : Socket) (data : QByteArray) : IpcServer :=
  read (fun v line => v.handleLine fromJson socket line) (fun v bytes => v.setBuffer socket bytes)
    (fun v => v.emit (.disconnectFromServer socket)) (v.buffer socket ++ data) v

end Reading

end IpcServer

end BbAuth
