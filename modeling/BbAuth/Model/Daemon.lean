import BbAuth.Library.Machine
import BbAuth.Model.Pinentry
import BbAuth.Model.Polkit
/-!
# The daemon

`CAgent` with its managers and its listener: the message handlers, the
clean-up after a disconnect, and the machine whose inputs are everything
that can call into the daemon: a connection, a line from a client, a
disconnect, a timer, a call or a signal of polkit. One input is handled to
its end before the next is taken, as Qt's event loop does.

A handler whose every branch ends in one reply to the client is written as
the function computing the reply, and the handler that sends it.
-/

namespace BbAuth

/-- `CAgent`. -/
structure Daemon where
  agent : Agent := {}
  keyringManager : KeyringManager := {}
  pinentryManager : PinentryManager := {}
  listener : PolkitListener := {}

/-- The daemon at start-up. -/
@[simp] def Daemon.initial : Daemon := { agent := .initial }

/-- The message types `CAgent` registers a handler for. -/
inductive MessageType where
  | ping
  | subscribe
  | next
  | keyringRequest
  | pinentryRequest
  | pinentryResult
  | uiRegister
  | uiHeartbeat
  | uiUnregister
  | sessionRespond
  | sessionCancel
  deriving DecidableEq

/-- The table `MessageRouter::registerHandler` fills. -/
def handlers : List (String × MessageType) :=
  [("ping", .ping), ("subscribe", .subscribe), ("next", .next),
    ("keyring_request", .keyringRequest), ("pinentry_request", .pinentryRequest),
    ("pinentry_result", .pinentryResult), ("ui.register", .uiRegister),
    ("ui.heartbeat", .uiHeartbeat), ("ui.unregister", .uiUnregister),
    ("session.respond", .sessionRespond), ("session.cancel", .sessionCancel)]

namespace Daemon

variable (W : World) (d : Daemon)

/-- Replace the agent's part. -/
def withAgent (a : Agent) : Daemon := { d with agent := a }

/-- `m_ipcServer.sendJson(socket, json)`. -/
def sendJson (socket : Socket) (json : QJsonObject) : Daemon :=
  d.withAgent (d.agent.sendJson socket json)

/-- `if (!hasActiveProvider() && !m_sessionStore.empty()) ensureFallbackUiRunning(reason);` -/
def summonFallback (reason : String) : Daemon :=
  if !d.agent.hasActiveProvider && !d.agent.sessionStore.empty then
    d.withAgent (d.agent.ensureFallbackUiRunning W reason)
  else d

/-! ## Replies -/

/-- The reply `{"type":"ok"}`. -/
def ok : QJsonObject := [("type", "ok")]

/-- A reply of type `error`. -/
def error (message : String) : QJsonObject := [("type", "error"), ("message", message)]

/-! ## Handlers -/

/-- The `ping` handler. -/
def handlePing (socket : Socket) : Daemon :=
  let pong : QJsonObject :=
    [("type", "pong"), ("version", "2.0"),
      ("capabilities", .array ["polkit", "keyring", "pinentry", "fingerprint", "fido2"])]
  let bootstrap := W.bootstrapState d.agent.tick
  let d := d.withAgent d.agent.ticked
  let pong := pong.setIf (bootstrap ≠ []) "bootstrap" (.object bootstrap)
  let pong := match d.agent.providerRegistry.activeProviderInfo with
    | none => pong
    | some provider => pong.set "provider" (.object
        [("id", provider.id), ("name", provider.name), ("kind", provider.kind),
          ("priority", .int provider.priority)])
  d.sendJson socket pong

/-- `CAgent::handleNext`. -/
def handleNext (socket : Socket) : Daemon :=
  if d.agent.eventQueue.isEmpty then
    d.withAgent (d.agent.setQueue (d.agent.eventQueue.subscribeNext socket))
  else
    let (event, queue) := d.agent.eventQueue.takeNext
    d.withAgent ((d.agent.setQueue queue).sendJson socket event)

/-- The events `handleSubscribe` generates for the open sessions, walked in
the order `entries`. -/
def replayEvents (entries : List (String × Session)) : List QJsonObject :=
  entries.flatMap fun e => [e.2.toCreatedEvent, e.2.toUpdatedEvent]

/-- `CAgent::handleSubscribe`. -/
def handleSubscribe (socket : Socket) : Daemon :=
  let a := d.agent.subscribe socket
  let isRegisteredProvider := a.providerRegistry.contains socket
  let isActiveProvider :=
    isRegisteredProvider && a.providerRegistry.activeProvider = some socket
  let canReceiveInteractiveEvents := !isRegisteredProvider || isActiveProvider
  let entries := W.walk a.tick a.sessionStore.sessions.pairs
  let a := a.ticked
  let a := if canReceiveInteractiveEvents then a.sendAll socket (replayEvents entries) else a
  let subscribedMsg : QJsonObject :=
    [("type", "subscribed"),
      ("sessionCount", .int (if canReceiveInteractiveEvents then a.sessionStore.size else 0))]
  d.withAgent
    (a.sendJson socket (subscribedMsg.setIf isRegisteredProvider "active" isActiveProvider))

/-- `CAgent::handleKeyringRequest`. -/
def handleKeyringRequest (socket : Socket) (msg : QJsonObject) : Daemon :=
  let (km, a) :=
    d.keyringManager.handleRequest W d.agent msg socket (d.agent.getPeerPid socket)
  { d with keyringManager := km, agent := a }

/-- `CAgent::handlePinentryRequest`. -/
def handlePinentryRequest (socket : Socket) (msg : QJsonObject) : Daemon :=
  let (pm, a) :=
    d.pinentryManager.handleRequest W d.agent msg socket (d.agent.getPeerPid socket)
  { d with pinentryManager := pm, agent := a }

/-- `PinentryManager::handleResult` at the daemon: its reply, and what it
leaves. -/
def resultReply (socket : Socket) (msg : QJsonObject) : QJsonObject × Daemon :=
  let (result, pm, a) :=
    d.pinentryManager.handleResult W d.agent msg (d.agent.getPeerPid socket)
  (result, { d with pinentryManager := pm, agent := a })

/-- `CAgent::handlePinentryResult`. -/
def handlePinentryResult (socket : Socket) (msg : QJsonObject) : Daemon :=
  let (result, d) := d.resultReply W socket msg
  d.sendJson socket result

/-- `CAgent::handleUIRegister`. -/
def handleUIRegister (socket : Socket) (msg : QJsonObject) : Daemon :=
  let a := d.agent
  let (provider, registry) := a.providerRegistry.registerProvider (W.currentMSecs a.tick)
    (W.createUuid a.tick) socket msg
  let a := (a.setRegistry registry).ticked
  let (activeProviderChanged, a) := a.recomputeActiveProvider W
  let nowActive : Bool := a.providerRegistry.activeProvider = some socket
  let a := a.sendJson socket
    [("type", "ui.registered"), ("id", provider.id), ("active", nowActive),
      ("priority", .int provider.priority)]
  d.withAgent (if activeProviderChanged || nowActive then a.emitProviderStatus W else a)

/-- `CAgent::handleUIHeartbeat`. -/
def handleUIHeartbeat (socket : Socket) : Daemon :=
  let a := d.agent
  match a.providerRegistry.heartbeat (W.currentMSecs a.tick) socket with
  | none => d.sendJson socket (error "Provider not registered")
  | some registry =>
    let a := (a.setRegistry registry).ticked.recomputeAndEmit W
    let active : Bool := a.providerRegistry.activeProvider = some socket
    d.withAgent (a.sendJson socket [("type", "ok"), ("active", active)])

/-- `CAgent::handleUIUnregister`. -/
def handleUIUnregister (socket : Socket) : Daemon :=
  let a := d.agent
  let (registered, registry) := a.providerRegistry.unregisterProvider socket
  if !registered then d.sendJson socket (error "Provider not registered")
  else
    let a := (a.setRegistry registry).recomputeAndEmit W
    (d.withAgent (a.sendJson socket ok)).summonFallback W "provider-unregistered"

/-- The reply of `CAgent::handleRespond`, and what it leaves. -/
def respond (socket : Socket) (msg : QJsonObject) : QJsonObject × Daemon :=
  let cookie := (msg.value "id").toString
  let response := (msg.value "response").toString
  let a := d.agent
  let km := d.keyringManager
  let pm := d.pinentryManager
  if !a.isAuthorizedProviderSocket socket then (error "Not active UI provider", d)
  else if km.hasPendingRequest cookie then
    let origSocket := km.getSocketForRequest cookie
    let (reply, km, a) := km.handleResponse W a cookie response
    let a := match origSocket with
      | some orig => a.sendJson orig reply
      | none => a
    (ok, { d with keyringManager := km, agent := a })
  else if pm.hasPendingInput cookie then
    let origSocket := pm.getSocketForPendingInput cookie
    let (socketResponse, pm) := pm.handleResponse cookie response
    let d := { d with pinentryManager := pm }
    let message := (socketResponse.value "message").toString
    let invalid := error (if message = "" then "Invalid pinentry session state" else message)
    match origSocket with
    | none => (invalid, d)
    | some orig =>
      if (socketResponse.value "type").toString = "error" then (invalid, d)
      else (ok, d.sendJson orig socketResponse)
  else if pm.hasRequest a cookie then (error "Session is not accepting input", d)
  else
    match a.getSession cookie with
    | none => (error "Unknown session", d)
    | some session =>
      if session.source ≠ .polkit then (error "Session is not awaiting direct response", d)
      else
        let (l, a) := d.listener.submitPassword a cookie response
        (ok, { d with listener := l, agent := a })

/-- `CAgent::handleRespond`. -/
def handleRespond (socket : Socket) (msg : QJsonObject) : Daemon :=
  let (reply, d) := d.respond W socket msg
  d.sendJson socket reply

/-- The reply of `CAgent::handleCancel`, and what it leaves. -/
def cancel (socket : Socket) (msg : QJsonObject) : QJsonObject × Daemon :=
  let cookie := (msg.value "id").toString
  let a := d.agent
  let km := d.keyringManager
  let pm := d.pinentryManager
  if !a.isAuthorizedProviderSocket socket then (error "Not active UI provider", d)
  else if km.hasPendingRequest cookie then
    let origSocket := km.getSocketForRequest cookie
    let (reply, km, a) := km.handleCancel W a cookie
    let a := match origSocket with
      | some orig => a.sendJson orig reply
      | none => a
    (ok, { d with keyringManager := km, agent := a })
  else if pm.hasRequest a cookie then
    let origSocket := pm.getSocketForPendingInput cookie
    let (reply, pm, a) := pm.handleCancel W a cookie
    let d := { d with pinentryManager := pm, agent := a }
    if (reply.value "type").toString = "error" then (reply, d)
    else
      (ok, match origSocket with
        | some orig => d.sendJson orig reply
        | none => d)
  else
    match a.getSession cookie with
    | none => (error "Unknown session", d)
    | some session =>
      if session.source ≠ .polkit then (error "Session is not cancellable from this path", d)
      else
        let (l, a) := d.listener.cancelPending W a cookie
        (ok, { d with listener := l, agent := a })

/-- `CAgent::handleCancel`. -/
def handleCancel (socket : Socket) (msg : QJsonObject) : Daemon :=
  let (reply, d) := d.cancel W socket msg
  d.sendJson socket reply

/-- The handler registered for a message type. -/
def dispatch (type : MessageType) (socket : Socket) (msg : QJsonObject) : Daemon :=
  match type with
  | .ping => d.handlePing W socket
  | .subscribe => d.handleSubscribe W socket
  | .next => d.handleNext socket
  | .keyringRequest => d.handleKeyringRequest W socket msg
  | .pinentryRequest => d.handlePinentryRequest W socket msg
  | .pinentryResult => d.handlePinentryResult W socket msg
  | .uiRegister => d.handleUIRegister W socket msg
  | .uiHeartbeat => d.handleUIHeartbeat W socket
  | .uiUnregister => d.handleUIUnregister W socket
  | .sessionRespond => d.handleRespond W socket msg
  | .sessionCancel => d.handleCancel W socket msg

/-- `IpcServer::handleLine` and `CAgent::handleMessage`, for a line that
parses to `doc`, or that is no JSON object. -/
def handleLine (socket : Socket) (doc : Option QJsonObject) : Daemon :=
  match doc with
  | none => d.sendJson socket (error "Invalid JSON")
  | some msg =>
    let type := (msg.value "type").toString
    if type = "" then d.sendJson socket (error "Missing type field")
    else
      match handlers.lookup type with
      | none => d.sendJson socket (error "Unknown type")
      | some handler => d.dispatch W handler socket msg

/-- The first part of `CAgent::onClientDisconnected`: the agent forgets
the subscriber, the provider and the waiter. -/
def forgetClient (a : Agent) (socket : Socket) : Agent :=
  let a := a.setSubscribers (a.subscribers.erase socket)
  let (removed, registry) := a.providerRegistry.removeSocket socket
  let a := a.setRegistry registry
  let a := if removed then a.recomputeAndEmit W else a
  a.setQueue (a.eventQueue.removeWaiter socket)

/-- `CAgent::onClientDisconnected`. -/
def onClientDisconnected (socket : Socket) : Daemon :=
  let a := forgetClient W d.agent socket
  let (km, a) := d.keyringManager.cleanupForSocket W a socket
  let (pm, a) := d.pinentryManager.cleanupForSocket W a socket
  { d with agent := a, keyringManager := km, pinentryManager := pm }.summonFallback W
    "provider-disconnected"

/-- The socket object is deleted: the `QPointer` to the active provider
forgets it. -/
def socketDeleted (socket : Socket) : Daemon :=
  let registry := d.agent.providerRegistry
  d.withAgent (d.agent.setRegistry { registry with
    activeProvider :=
      if registry.activeProvider = some socket then none else registry.activeProvider })

end Daemon

/-- **What can call into the daemon.** -/
inductive Input where
  /-- A client connected; its credentials name this pid. -/
  | newConnection (socket : Socket) (peerPid : Pid)
  /-- A client's socket left the connected state. -/
  | closing (socket : Socket)
  /-- A line arrived; `none` where it is no JSON object. -/
  | line (socket : Socket) (doc : Option QJsonObject)
  /-- A client's `disconnected` signal. -/
  | disconnected (socket : Socket)
  /-- The provider maintenance timer. -/
  | providerMaintenance
  /-- A pinentry result timer. -/
  | pinentryTimeout (timer : ℕ)
  /-- Polkit's calls. -/
  | initiateAuthentication (actionId message iconName : String) (details : Agent.Details)
      (cookie : String) (identities : List String)
  | cancelAuthentication
  /-- The signals of a `PolkitQt1::Agent::Session`. -/
  | request (session : ℕ) (text : String) (echo : Bool)
  | completed (session : ℕ) (gainedAuthorization : Bool)
  | showError (session : ℕ) (text : String)
  | showInfo (session : ℕ) (text : String)
  deriving DecidableEq

namespace Daemon

variable (W : World) (d : Daemon)

/-- What an access to the listener leaves. -/
def withListener (r : PolkitListener × Agent) : Daemon :=
  { d with listener := r.1, agent := r.2 }

/-- The handling of one input. -/
def handle (i : Input) : Daemon :=
  match i with
  | .newConnection socket peerPid =>
    if d.agent.isValid socket then d
    else d.withAgent
      (d.agent.setClients (d.agent.clients.insert socket { peerPid := peerPid }))
  | .closing socket =>
    match d.agent.clients.lookup socket with
    | none => d
    | some client => d.withAgent
        (d.agent.setClients (d.agent.clients.insert socket { client with state := .closing }))
  | .line socket doc => if d.agent.isValid socket then d.handleLine W socket doc else d
  | .disconnected socket =>
    if d.agent.isValid socket then
      let d := d.withAgent (d.agent.setClients (d.agent.clients.erase socket))
      (d.onClientDisconnected W socket).socketDeleted socket
    else d
  | .providerMaintenance => d.withAgent (d.agent.pruneStaleProviders W)
  | .pinentryTimeout timer =>
    let (pm, a) := d.pinentryManager.onTimeout W d.agent timer
    { d with pinentryManager := pm, agent := a }
  | .initiateAuthentication actionId message iconName details cookie identities =>
    d.withListener (d.listener.initiateAuthentication W d.agent actionId message iconName details
      cookie identities)
  | .cancelAuthentication => d.withListener (d.listener.cancelAuthentication W d.agent)
  | .request session text echo =>
    d.withListener (d.listener.onSessionRequest d.agent session text echo)
  | .completed session gainedAuthorization =>
    d.withListener (d.listener.onSessionCompleted W d.agent session gainedAuthorization)
  | .showError session text => d.withListener (d.listener.onSessionError d.agent session text)
  | .showInfo session text => d.withListener (d.listener.onSessionInfo d.agent session text)

/-- One step: after a use after free nothing more is said. -/
def step (i : Input) : Daemon := if d.listener.useAfterFree then d else d.handle W i

/-- **The daemon as a machine**, in a given world. -/
def machine : Machine Daemon Input where
  init := .initial
  step := step W

end Daemon

end BbAuth
