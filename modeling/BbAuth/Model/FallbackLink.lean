import BbAuth.Library.Machine
import BbAuth.Model.FallbackClient
/-!
# The fallback client and its socket

`FallbackClient` with what keeps it connected: the state of `m_socket`, the
single-shot `m_reconnectTimer` and the delay it is next started with. A
`QLocalSocket` goes from unconnected to connecting when it is asked to, and
from there to connected or back with an error; a connection it has had ends
with `disconnected`, at once or after some time of closing. Errors may be
signalled at any point.
-/

namespace BbAuth

/-- `QLocalSocket::LocalSocketState`. -/
inductive LocalSocketState where
  | unconnected
  | connecting
  | connected
  | closing
  deriving DecidableEq

/-- `FallbackClient`, with its socket and its reconnect timer. -/
structure FallbackLink where
  client : FallbackClient := {}
  /-- `m_socket.state()`. -/
  socket : LocalSocketState := .unconnected
  /-- The interval `m_reconnectTimer` runs with, while it is active. -/
  reconnectTimer : Option ℕ := none
  reconnectDelayMs : ℕ := 200
  /-- `m_subscribeWatchdog` and `m_heartbeatTimer` are active. -/
  started : Bool := false

namespace FallbackLink

/-- What happens to the client. -/
inductive Input where
  /-- `FallbackClient::start`. -/
  | start
  /-- `QLocalSocket::connected`. -/
  | connected
  /-- `QLocalSocket::errorOccurred`. -/
  | errorOccurred
  /-- The connection begins to close. -/
  | closing
  /-- `QLocalSocket::disconnected`. -/
  | disconnected
  /-- `QTimer::timeout` of the reconnect timer. -/
  | reconnectTimeout
  /-- A message was read. -/
  | message (msg : QJsonObject)
  | subscribeWatchdog
  | heartbeatTimer
  /-- The window answers a session. -/
  | sendResponse (id response : String)
  /-- The window cancels a session. -/
  | sendCancel (id : String)
  deriving DecidableEq

variable (l : FallbackLink)

/-- `FallbackClient::isConnected`. -/
def isConnected : Bool := l.socket = .connected

/-- `FallbackClient::ensureConnected`. -/
def ensureConnected : FallbackLink :=
  if l.isConnected || l.socket = .connecting then l else { l with socket := .connecting }

/-- `if (!m_reconnectTimer.isActive()) { … }`. -/
def startReconnectTimer : FallbackLink :=
  if l.reconnectTimer.isSome then l
  else
    { l with
      reconnectTimer := some l.reconnectDelayMs
      reconnectDelayMs := min (l.reconnectDelayMs * 2) 4000 }

/-- The handler of `errorOccurred`. -/
def onErrorOccurred : FallbackLink :=
  if l.socket ≠ .connected then l.startReconnectTimer else l

/-- The handler of `connected`, on the socket that is. -/
def onConnected : FallbackLink :=
  { l with
    reconnectDelayMs := 200, socket := .connected, client := l.client.onConnected }

/-- The handler of `disconnected`, on the socket that is. -/
def onDisconnected : FallbackLink :=
  { l with socket := .unconnected, client := l.client.onDisconnected }.startReconnectTimer

/-- One of these. A signal that the socket cannot give in its state does not
come. -/
def step : Input → FallbackLink
  | .start => { l with started := true }.ensureConnected
  | .connected => if l.socket = .connecting then l.onConnected else l
  | .errorOccurred =>
    let l' := l.onErrorOccurred
    -- the attempt has failed
    if l.socket = .connecting then { l' with socket := .unconnected } else l'
  | .closing =>
    if l.socket = .connected then
      { l with socket := .closing, client := { l.client with connected := false } }
    else l
  | .disconnected =>
    if l.socket = .connected ∨ l.socket = .closing then l.onDisconnected else l
  | .reconnectTimeout =>
    if l.reconnectTimer.isSome then { l with reconnectTimer := none }.ensureConnected else l
  | .message msg => { l with client := l.client.handleMessage msg }
  | .subscribeWatchdog =>
    if l.started then { l with client := l.client.onSubscribeWatchdog } else l
  | .heartbeatTimer => if l.started then { l with client := l.client.onHeartbeatTimer } else l
  | .sendResponse id response => { l with client := l.client.sendResponse id response }
  | .sendCancel id => { l with client := l.client.sendCancel id }

/-- **The client and its socket as a machine.** -/
def machine : Machine FallbackLink Input where
  init := {}
  step := step

end FallbackLink

end BbAuth
