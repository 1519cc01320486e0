import BbAuth.Model.Session
import BbAuth.Model.Registry
import BbAuth.Model.EventQueue
import BbAuth.Model.Text
import Mathlib.Tactic.Simps.Basic
/-!
# The agent's services

The part of `CAgent` the request managers and the polkit listener call
back into, over the state those calls touch: the IPC server's clients, the
provider registry, the event queue, the session store, the subscribers.
The managers are kept apart, since no service reaches into them.

`log` is the trace of what the daemon does to the outside: it is written
and never read.
-/

namespace BbAuth

/-- `QLocalSocket::state()` of a client whose `disconnected` signal is
still to come. -/
inductive SocketState where
  | connected
  | closing
  deriving DecidableEq

/-- A client of the IPC server: its peer's pid and its socket's state. -/
structure Client where
  peerPid : Pid
  state : SocketState := .connected
  deriving DecidableEq

/-- What the daemon does to the outside. -/
inductive Output where
  /-- `emitSessionEvent` was called with this event. -/
  | emitted (event : QJsonObject)
  /-- This message was written to this socket. -/
  | sent (socket : Socket) (json : QJsonObject)
  /-- `ensureFallbackUiRunning` was called, with these providers and these
  sessions. -/
  | ensureFallbackUiRunning (reason : String) (registry : ProviderRegistry) (store : SessionStore)
  /-- `CPolkitListener::submitPassword` was called. -/
  | submitPassword (cookie pass : String)
  /-- A method of a `PolkitQt1::Agent::Session` was called. -/
  | initiate (session : ℕ)
  | setResponse (session : ℕ) (response : String)
  | cancel (session : ℕ)
  deriving DecidableEq

/-- The state of `CAgent` outside its managers and its listener. -/
structure Agent where
  /-- The sockets the IPC server knows. -/
  clients : Table Socket Client := ∅
  providerRegistry : ProviderRegistry := {}
  eventQueue : EventQueue := {}
  sessionStore : SessionStore := {}
  subscribers : List Socket := []
  lastFallbackLaunchMs : ℤ := 0
  /-- The number of questions asked of the world. -/
  tick : ℕ := 0
  log : List Output := []

/-- The agent at start-up. -/
@[simp] def Agent.initial : Agent := {}

/-- `FALLBACK_LAUNCH_COOLDOWN_MS`. -/
def FALLBACK_LAUNCH_COOLDOWN_MS : ℤ := 5000

namespace Agent

variable (W : World) (a : Agent)

/-! ## Writing the state -/

/-- Append to the trace. -/
@[simps] def trace (o : Output) : Agent := { a with log := a.log ++ [o] }

/-- One more question has been asked of the world. -/
@[simps] def ticked : Agent := { a with tick := a.tick + 1 }

/-- Write the table of clients. -/
@[simps] def setClients (clients : Table Socket Client) : Agent := { a with clients := clients }

/-- Write the provider registry. -/
@[simps] def setRegistry (registry : ProviderRegistry) : Agent :=
  { a with providerRegistry := registry }

/-- Write the event queue. -/
@[simps] def setQueue (queue : EventQueue) : Agent := { a with eventQueue := queue }

/-- Write the session store. -/
@[simps] def setStore (store : SessionStore) : Agent := { a with sessionStore := store }

/-- Write the list of subscribers. -/
@[simps] def setSubscribers (subscribers : List Socket) : Agent :=
  { a with subscribers := subscribers }

/-! ## The IPC server -/

/-- `socket->state() == QLocalSocket::ConnectedState`. -/
def isConnected (socket : Socket) : Bool :=
  match a.clients.lookup socket with
  | some client => client.state = .connected
  | none => false

/-- `socket->isValid()`, and `socket->isOpen()`: the socket has not yet
been disconnected. -/
def isValid (socket : Socket) : Bool := a.clients.contains socket

/-- `IpcServer::sendJson`. -/
def sendJson (socket : Socket) (json : QJsonObject) : Agent :=
  if a.isConnected socket then a.trace (.sent socket json) else a

/-- `IpcServer::getPeerPid`. -/
def getPeerPid (socket : Socket) : Pid :=
  match a.clients.lookup socket with
  | some client => client.peerPid
  | none => -1

/-- A socket written to directly, as the managers do on a collision. -/
def writeJson (socket : Socket) (json : QJsonObject) : Agent :=
  if a.isValid socket then a.trace (.sent socket json) else a

/-- Send to each valid socket of a list. -/
def sendEach (sockets : List Socket) (json : QJsonObject) : Agent :=
  sockets.foldl (fun a socket => if a.isValid socket then a.sendJson socket json else a) a

/-- Send each message of a list to one socket. -/
def sendAll (socket : Socket) (messages : List QJsonObject) : Agent :=
  messages.foldl (fun a message => a.sendJson socket message) a

/-- `if (!m_subscribers.contains(socket)) m_subscribers.append(socket);` -/
def subscribe (socket : Socket) : Agent :=
  if socket ∈ a.subscribers then a else a.setSubscribers (a.subscribers ++ [socket])

/-! ## Providers and events -/

/-- `CAgent::isAuthorizedProviderSocket`. -/
def isAuthorizedProviderSocket (socket : Socket) : Bool := a.providerRegistry.isAuthorized socket

/-- `CAgent::hasActiveProvider`. -/
def hasActiveProvider : Bool := a.providerRegistry.hasActiveProvider

/-- `m_providerRegistry.recomputeActiveProvider()`, with a fresh clock
reading and the table walked in a fresh order. -/
def recomputeActiveProvider : Bool × Agent :=
  let nowMs := W.currentMSecs a.tick
  let entries := W.walk a.tick a.providerRegistry.uiProviders.pairs
  let (changed, registry) :=
    a.providerRegistry.recomputeActiveProvider nowMs a.isConnected entries
  (changed, (a.setRegistry registry).ticked)

/-- The message of `CAgent::emitProviderStatus`. -/
def providerStatus : QJsonObject :=
  let status : QJsonObject := [("type", "ui.active"), ("active", a.hasActiveProvider)]
  match a.providerRegistry.activeProviderInfo with
  | none => status
  | some provider =>
    (((status.set "id" provider.id).set "name" provider.name).set "kind" provider.kind).set
      "priority" (.int provider.priority)

/-- `CAgent::emitProviderStatus`: to every registered socket, then to every
subscriber not yet served. -/
def emitProviderStatus : Agent :=
  let status := a.providerStatus
  let sockets := W.walk a.tick a.providerRegistry.sockets
  let sent := sockets.filter a.isValid
  let a := a.ticked.sendEach sockets status
  a.sendEach (a.subscribers.filter fun subscriber => subscriber ∉ sent) status

/-- `if (m_providerRegistry.recomputeActiveProvider()) emitProviderStatus();` -/
def recomputeAndEmit : Agent :=
  let (changed, a) := a.recomputeActiveProvider W
  if changed then a.emitProviderStatus W else a

/-- `EventRouter::isSessionEventForProviderRouting`. -/
def isSessionEventForProviderRouting (event : QJsonObject) : Bool :=
  "session.".toList.isPrefixOf (event.value "type").toString.toList

/-- The push half of `EventRouter::route`: session events go to the active
provider where there is one, everything else to the subscribers. -/
def push (event : QJsonObject) : Agent :=
  if isSessionEventForProviderRouting event && a.providerRegistry.hasActiveProvider then
    match a.providerRegistry.activeProvider with
    | some socket => if a.isValid socket then a.sendJson socket event else a
    | none => a
  else a.sendEach a.subscribers event

/-- `EventRouter::route`. -/
def route (event : QJsonObject) : Agent :=
  let a := a.push event
  let (sent, queue) := (a.eventQueue.enqueue event).drainToWaiters
  sent.foldl (fun a delivery => a.sendJson delivery.1 delivery.2) (a.setQueue queue)

/-- `CAgent::emitSessionEvent`. -/
def emitSessionEvent (event : QJsonObject) : Agent := (a.trace (.emitted event)).route event

/-- `CAgent::ensureFallbackUiRunning`. What the launcher chooses and
whether it succeeds are the world's. -/
def ensureFallbackUiRunning (reason : String) : Agent :=
  let a := a.trace (.ensureFallbackUiRunning reason a.providerRegistry a.sessionStore)
  if a.hasActiveProvider then a
  else
    let locked := W.fallbackLocked a.tick
    let nowMs := W.currentMSecs a.tick
    let launched := W.launches a.tick
    let a := a.ticked
    if locked then a
    else if nowMs - a.lastFallbackLaunchMs < FALLBACK_LAUNCH_COOLDOWN_MS then a
    else if launched then { a with lastFallbackLaunchMs := nowMs }
    else a

/-- `CAgent::pruneStaleProviders`. -/
def pruneStaleProviders : Agent :=
  let a := a.recomputeAndEmit W
  if !a.hasActiveProvider && !a.sessionStore.empty then
    a.ensureFallbackUiRunning W "provider-prune"
  else a

/-! ## Session management -/

/-- `CAgent::getSession`. -/
def getSession (id : String) : Option Session := a.sessionStore.getSession id

/-- `CAgent::createSession`. -/
def createSession (id : String) (source : Session.Source) (ctx : Session.Context) :
    Bool × Agent :=
  match a.sessionStore.createSession id source ctx with
  | none => (false, a)
  | some (createdEvent, store) =>
    let a := (a.setStore store).emitSessionEvent createdEvent
    if !a.hasActiveProvider then (true, a.ensureFallbackUiRunning W "session-created")
    else (true, a)

/-- Store the outcome of an update and emit its event; nothing where the
session is not found. -/
def emitUpdate (updated : Option (QJsonObject × SessionStore)) : Agent :=
  match updated with
  | none => a
  | some (event, store) => (a.setStore store).emitSessionEvent event

/-- `CAgent::updateSessionPrompt`. -/
def updateSessionPrompt (id prompt : String) (echo : Bool := false) (clearError : Bool := true) :
    Agent :=
  a.emitUpdate (a.sessionStore.updatePrompt id prompt echo clearError)

/-- `CAgent::updateSessionError`. -/
def updateSessionError (id error : String) : Agent :=
  a.emitUpdate (a.sessionStore.updateError id error)

/-- `CAgent::updateSessionPinentryRetry`. -/
def updateSessionPinentryRetry (id : String) (curRetry maxRetries : ℤ) : Agent :=
  a.setStore (a.sessionStore.updatePinentryRetry id curRetry maxRetries)

/-- `CAgent::closeSession`: a deferred close hands its event to the caller
instead of emitting it. -/
def closeSession (id : String) (result : Session.Result) (deferred : Bool := false) :
    QJsonObject × Agent :=
  match a.sessionStore.closeSession id result with
  | none => ([], a)
  | some (closed, store) =>
    let a := a.setStore store
    let a := if a.sessionStore.empty then a.recomputeAndEmit W else a
    if !deferred then ([], a.emitSessionEvent closed) else (closed, a)

/-- The requestor shown for a process. -/
def requestorOf (actor : ActorInfo) (pid : Pid) : Session.Requestor :=
  { name := actor.displayName, icon := actor.iconName, fallbackLetter := actor.fallbackLetter,
    fallbackKey := actor.fallbackKey, pid := pid }

/-! ## Callbacks of the polkit listener -/

/-- `PolkitQt1::Details`: the keys and their texts. -/
abbrev Details : Type := List (String × String)

/-- `RequestContextHelper::extractSubjectPid`. -/
def extractSubjectPid (details : Details) : Option Pid :=
  let pidAt (key : String) : Option Pid :=
    (Text.toLongLong ((details.lookup key).getD "")).filter (0 < ·)
  (pidAt "polkit.subject-pid").or (pidAt "polkit.caller-pid")

/-- The requestor `CAgent::onPolkitRequest` puts in the context. -/
def polkitRequestor (details : Details) : Session.Requestor :=
  let requestor : Session.Requestor :=
    match extractSubjectPid details with
    | none => {}
    | some pid =>
      match W.readActor a.tick pid with
      | none => {}
      | some actor => requestorOf actor pid
  if requestor.name = "" then
    { requestor with name := "Unknown", fallbackLetter := "?", fallbackKey := "unknown" }
  else requestor

/-- `CAgent::onPolkitRequest`. -/
def onPolkitRequest (cookie message actionId user : String) (details : Details) : Bool × Agent :=
  let ctx : Session.Context :=
    { message := message, actionId := actionId, user := user,
      requestor := a.polkitRequestor W details }
  a.ticked.createSession W cookie .polkit ctx

/-- `CAgent::onSessionRequest`. -/
def onSessionRequest (cookie prompt : String) (echo : Bool) : Agent :=
  a.emitUpdate (a.sessionStore.updatePrompt cookie prompt echo true)

/-- `CAgent::onSessionComplete`. -/
def onSessionComplete (cookie : String) (success : Bool) : Agent :=
  match a.sessionStore.closeSession cookie (if success then .success else .cancelled) with
  | none => a
  | some (closed, store) =>
    let a := (a.setStore store).emitSessionEvent closed
    if a.sessionStore.empty then a.recomputeAndEmit W else a

/-- `CAgent::onSessionRetry`. -/
def onSessionRetry (cookie error : String) : Agent :=
  a.emitUpdate (a.sessionStore.updateError cookie error)

/-- `CAgent::onSessionInfo`. -/
def onSessionInfo (cookie info : String) : Agent :=
  a.emitUpdate (a.sessionStore.updateInfo cookie info)

end Agent

end BbAuth
