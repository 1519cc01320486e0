import BbAuth.Model.Json
/-!
# The fallback client

`FallbackClient`: the fallback UI's end of the connection. It registers as
a provider and subscribes as soon as it is connected, repeats either until
it is answered, and infers from what the daemon says whether it is the
active provider. A session event reaches the window only while it is, or
while the client is not registered.

`log` is the trace of what the client sends and signals: it is written and
never read.
-/

namespace BbAuth

/-- What the client does to the outside. -/
inductive FallbackClient.Output where
  /-- This message was written to the socket. -/
  | sent (json : QJsonObject)
  /-- The signals of the class. -/
  | connectionStateChanged (connected : Bool)
  | providerStateChanged (active : Bool)
  | statusMessage (status : String)
  | sessionCreated (event : QJsonObject)
  | sessionUpdated (event : QJsonObject)
  | sessionClosed (event : QJsonObject)
  deriving DecidableEq

/-- `FallbackClient`. -/
structure FallbackClient where
  /-- `m_socket.state() == QLocalSocket::ConnectedState`. -/
  connected : Bool := false
  subscribed : Bool := false
  registered : Bool := false
  providerActive : Bool := false
  providerId : String := ""
  pendingProviderActiveKnown : Bool := false
  pendingProviderActive : Bool := false
  pendingProviderId : String := ""
  log : List FallbackClient.Output := []
  deriving DecidableEq

namespace FallbackClient

variable (c : FallbackClient)

/-- Append to the trace. -/
def emit (o : Output) : FallbackClient := { c with log := c.log ++ [o] }

/-- `FallbackClient::sendJson`. -/
def sendJson (json : QJsonObject) : FallbackClient :=
  if !c.connected then c else c.emit (.sent json)

/-- The message of `FallbackClient::registerProvider`. -/
def registerMessage : QJsonObject :=
  [("type", "ui.register"), ("name", "bb-auth-fallback"), ("kind", "fallback"),
    ("priority", .int 10)]

/-- The message of `FallbackClient::subscribe`. -/
def subscribeMessage : QJsonObject := [("type", "subscribe")]

/-- `FallbackClient::registerProvider`. -/
def registerProvider : FallbackClient := c.sendJson registerMessage

/-- `FallbackClient::subscribe`. -/
def subscribe : FallbackClient := c.sendJson subscribeMessage

/-- `FallbackClient::sendResponse`. -/
def sendResponse (id response : String) : FallbackClient :=
  c.sendJson [("type", "session.respond"), ("id", id), ("response", response)]

/-- `FallbackClient::sendCancel`. -/
def sendCancel (id : String) : FallbackClient :=
  c.sendJson [("type", "session.cancel"), ("id", id)]

/-- `FallbackClient::setProviderActive`: a client that becomes active asks
for the open sessions. -/
def setProviderActive (active : Bool) : FallbackClient :=
  let changed := active ≠ c.providerActive
  if ¬ changed then c
  else
    let c := { c with providerActive := active }.emit (.providerStateChanged active)
    if c.providerActive && c.connected && c.registered then c.subscribe else c

/-- Forget the state that came before the registration. -/
def clearPending : FallbackClient :=
  { c with
    pendingProviderActiveKnown := false, pendingProviderActive := false, pendingProviderId := "" }

/-- `FallbackClient::applyPendingProviderState`. -/
def applyPendingProviderState : FallbackClient :=
  if !c.pendingProviderActiveKnown || !c.registered || c.providerId = "" then c
  else
    let shouldBeActive : Bool :=
      if c.pendingProviderActive then c.pendingProviderId = c.providerId else true
    (c.setProviderActive shouldBeActive).clearPending

/-! ## The socket -/

/-- What both signals of the socket reset. -/
def resetConnection : FallbackClient :=
  ({ c with subscribed := false, registered := false, providerId := "" }.clearPending).setProviderActive
    false

/-- `QLocalSocket::connected`. -/
def onConnected : FallbackClient :=
  let c := { c with connected := true }.resetConnection
  let c := c.emit (.connectionStateChanged true)
  let c := c.emit (.statusMessage "Connected to auth daemon")
  c.registerProvider.subscribe

/-- `QLocalSocket::disconnected`. -/
def onDisconnected : FallbackClient :=
  let c := { c with connected := false }.resetConnection
  let c := c.emit (.connectionStateChanged false)
  c.emit (.statusMessage "Disconnected from auth daemon, reconnecting...")

/-! ## The timers -/

/-- The subscribe watchdog. -/
def onSubscribeWatchdog : FallbackClient :=
  if !c.connected then c
  else
    let c := if !c.registered then c.registerProvider else c
    if !c.subscribed then c.subscribe else c

/-- The heartbeat timer. -/
def onHeartbeatTimer : FallbackClient :=
  if !c.connected || !c.registered then c
  else c.sendJson [("type", "ui.heartbeat"), ("id", c.providerId)]

/-! ## Messages -/

/-- `handleMessage` at `subscribed`. -/
def handleSubscribed (msg : QJsonObject) : FallbackClient :=
  let c := { c with subscribed := true }
  if msg.contains "active" then c.setProviderActive (msg.value "active").toBool else c

/-- `handleMessage` at `ui.registered`. -/
def handleRegistered (msg : QJsonObject) : FallbackClient :=
  let c := { c with registered := true, providerId := (msg.value "id").toString }
  if msg.contains "active" then (c.setProviderActive (msg.value "active").toBool).clearPending
  else c.applyPendingProviderState

/-- `handleMessage` at `ui.active`. -/
def handleActive (msg : QJsonObject) : FallbackClient :=
  let active := (msg.value "active").toBool
  let activeId := (msg.value "id").toString
  if active && (!c.registered || c.providerId = "") then
    { c with
      pendingProviderActiveKnown := true, pendingProviderActive := true,
      pendingProviderId := activeId }
  else if !active then
    if !c.registered then
      { c with
        pendingProviderActiveKnown := true, pendingProviderActive := false,
        pendingProviderId := "" }
    -- nobody is active: every provider may answer
    else (c.setProviderActive true).clearPending
  else c.setProviderActive (activeId = c.providerId)

/-- `handleMessage` at `error`. -/
def handleError (msg : QJsonObject) : FallbackClient :=
  let message := (msg.value "message").toString
  let c := if message = "Not active UI provider" then c.setProviderActive false else c
  c.emit (.statusMessage message)

/-- `handleMessage` at everything else. -/
def handleSessionEvent (type : String) (msg : QJsonObject) : FallbackClient :=
  if !c.providerActive && c.registered then c
  else if type = "session.created" then c.emit (.sessionCreated msg)
  else if type = "session.updated" then c.emit (.sessionUpdated msg)
  else if type = "session.closed" then c.emit (.sessionClosed msg)
  else c

/-- `FallbackClient::handleMessage`. -/
def handleMessage (msg : QJsonObject) : FallbackClient :=
  let type := (msg.value "type").toString
  if type = "subscribed" then c.handleSubscribed msg
  else if type = "ui.registered" then c.handleRegistered msg
  else if type = "ui.active" then c.handleActive msg
  else if type = "pong" then c
  else if type = "ok" then c
  else if type = "error" then c.handleError msg
  else c.handleSessionEvent type msg

end FallbackClient

end BbAuth
