import BbAuth.Model.Agent
/-!
# The keyring manager

`KeyringManager`: one pending request per cookie, each bound to the socket
it came on.
-/

namespace BbAuth

/-- `KeyringRequest`. -/
structure KeyringRequest where
  cookie : String
  socket : Socket
  peerPid : Pid
  title : String := ""
  message : String := ""
  choice : String := ""
  flags : ℤ := 0
  deriving DecidableEq

/-- `KeyringManager`: each request is kept under its cookie. -/
structure KeyringManager where
  pendingRequests : Table String KeyringRequest := ∅
  keyed : ∀ c r, pendingRequests.lookup c = some r → r.cookie = c := by simp

/-- The error both managers write to a socket whose id is taken. -/
def collisionError : QJsonObject := [("type", "error"), ("message", "Session ID collision")]

namespace KeyringManager

variable (W : World) (km : KeyringManager) (a : Agent)

/-- `m_pendingRequests[request.cookie] = request`. -/
def put (request : KeyringRequest) : KeyringManager where
  pendingRequests := km.pendingRequests.insert request.cookie request
  keyed c r h := by
    rw [Table.lookup_insert] at h
    split at h
    · rw [← Option.some.inj h]; exact Eq.symm ‹_›
    · exact km.keyed c r h

/-- `m_pendingRequests.remove(cookie)`. -/
def drop (cookie : String) : KeyringManager where
  pendingRequests := km.pendingRequests.erase cookie
  keyed c r h := by
    rw [Table.lookup_erase] at h
    split at h
    · cases h
    · exact km.keyed c r h

/-- The cookie of a request: the one it names, or a fresh one. -/
def requestCookie (msg : QJsonObject) : String :=
  let cookie := (msg.value "cookie").toString
  if cookie = "" then W.createUuid a.tick else cookie

/-- The request as `KeyringManager::handleRequest` reads it. -/
def readRequest (cookie : String) (msg : QJsonObject) (socket : Socket) (peerPid : Pid) :
    KeyringRequest :=
  { cookie := cookie
    socket := socket
    peerPid := peerPid
    title :=
      if msg.contains "title" then (msg.value "title").toString
      else (msg.value "prompt").toString
    message := (msg.value "message").toString
    choice := (msg.value "choice").toString
    flags := (msg.value "flags").toInt }

/-- `KeyringManager::handleRequest`. -/
def handleRequest (msg : QJsonObject) (socket : Socket) (peerPid : Pid) :
    KeyringManager × Agent :=
  let cookie := requestCookie W a msg
  let request := readRequest cookie msg socket peerPid
  let km := km.put request
  let actor := (W.readActor a.tick peerPid).getD {}
  let a := a.ticked
  let ctx : Session.Context :=
    { message := request.title
      keyringName := request.message
      requestor := Agent.requestorOf actor peerPid }
  let (created, a) := a.createSession W cookie .keyring ctx
  if !created then
    -- the rollback removes the entry whatever stood there before
    (km.drop cookie,
      a.writeJson socket collisionError)
  else (km, a.updateSessionPrompt cookie request.message false)

/-- `KeyringManager::handleResponse`. -/
def handleResponse (cookie response : String) : QJsonObject × KeyringManager × Agent :=
  match km.pendingRequests.lookup cookie with
  | none => ([("type", "error"), ("message", "Unknown cookie")], km, a)
  | some _ =>
    let km := km.drop cookie
    let a := (a.closeSession W cookie .success).2
    ([("type", "keyring_response"), ("id", cookie), ("result", "ok"), ("password", response)],
      km, a)

/-- `KeyringManager::handleCancel`. -/
def handleCancel (cookie : String) : QJsonObject × KeyringManager × Agent :=
  match km.pendingRequests.lookup cookie with
  | none => ([("type", "error"), ("message", "Unknown cookie")], km, a)
  | some _ =>
    let km := km.drop cookie
    let a := (a.closeSession W cookie .cancelled).2
    ([("type", "keyring_response"), ("result", "cancelled"), ("id", cookie)], km, a)

/-- `KeyringManager::hasPendingRequest`. -/
def hasPendingRequest (cookie : String) : Bool := km.pendingRequests.contains cookie

/-- `KeyringManager::getSocketForRequest`. -/
def getSocketForRequest (cookie : String) : Option Socket :=
  (km.pendingRequests.lookup cookie).map KeyringRequest.socket

/-- The loop of `KeyringManager::cleanupForSocket` over the entries still
to be visited. -/
def cleanupLoop (socket : Socket) :
    List (String × KeyringRequest) → KeyringManager → Agent → KeyringManager × Agent
  | [], km, a => (km, a)
  | (key, request) :: rest, km, a =>
    if request.socket = socket then
      cleanupLoop socket rest (km.drop key) (a.closeSession W request.cookie .cancelled).2
    else cleanupLoop socket rest km a

/-- `KeyringManager::cleanupForSocket`. -/
def cleanupForSocket (socket : Socket) : KeyringManager × Agent :=
  let entries := W.walk a.tick km.pendingRequests.pairs
  cleanupLoop W socket entries km a.ticked

end KeyringManager

end BbAuth
