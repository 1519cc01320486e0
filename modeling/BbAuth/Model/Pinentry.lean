import BbAuth.Model.Keyring
/-!
# The pinentry manager

`PinentryManager`: a flow per cookie, waiting for the user's input, or for
the result of a pinentry that has been given it. Timers are kept by their
handles: `activeTimers` holds the armed ones, with the cookie each was
started for.
-/

namespace BbAuth

/-- `PinentryRequest`. -/
structure PinentryRequest where
  cookie : String
  socket : Socket
  peerPid : Pid
  prompt : String := ""
  description : String := ""
  error : String := ""
  keyinfo : String := ""
  repeats : Bool := false
  confirmOnly : Bool := false
  deriving DecidableEq

/-- `PinentryRetryInfo`. -/
structure PinentryRetryInfo where
  keyinfo : String := ""
  curRetry : ℤ := 0
  maxRetries : ℤ := 0
  deriving DecidableEq

/-- `PinentryManager::AwaitingOutcome`. -/
structure AwaitingOutcome where
  request : PinentryRequest
  timer : ℕ
  deriving DecidableEq

/-- `PinentryManager`. -/
structure PinentryManager where
  pendingRequests : Table String PinentryRequest := ∅
  awaitingOutcome : Table String AwaitingOutcome := ∅
  retryInfo : Table String PinentryRetryInfo := ∅
  flowOwners : Table String Pid := ∅
  flowKeyinfos : Table String String := ∅
  /-- `QSet<QString>`: the keys bound here are its members. -/
  retryReported : Table String Unit := ∅
  /-- The armed timers. -/
  activeTimers : Table ℕ String := ∅
  nextTimer : ℕ := 0

namespace PinentryManager

variable (W : World) (pm : PinentryManager) (a : Agent)

/-- `parsePinentryRequest`. -/
def parsePinentryRequest (msg : QJsonObject) (socket : Socket) (peerPid : Pid) :
    PinentryRequest :=
  let prompt := (msg.value "prompt").toString
  { cookie := (msg.value "cookie").toString
    socket := socket
    peerPid := peerPid
    prompt := if prompt = "" then "Enter passphrase:" else prompt
    description := (msg.value "description").toString
    error := (msg.value "error").toString
    keyinfo := (msg.value "keyinfo").toString
    repeats := (msg.value "repeat").toBool
    confirmOnly := (msg.value "confirm_only").toBool }

/-- The request of a message, under a fresh cookie where it names none. -/
def readRequest (msg : QJsonObject) (socket : Socket) (peerPid : Pid) : PinentryRequest :=
  let request := parsePinentryRequest msg socket peerPid
  if request.cookie = "" then { request with cookie := W.createUuid a.tick } else request

/-- `PinentryManager::resolveRetryInfo`. -/
def resolveRetryInfo (request : PinentryRequest) : (ℤ × ℤ) × PinentryManager :=
  let matched := Text.findAttempts request.description.toList
  let parsed := matched.map fun (cur, max) => (Text.toInt cur, Text.toInt max)
  let (counters, pm) : (ℤ × ℤ) × PinentryManager :=
    if request.keyinfo = "" then (parsed.getD (0, 3), pm)
    else
      let info := (pm.retryInfo.lookup request.keyinfo).getD {}
      let info := { info with keyinfo := request.keyinfo }
      match parsed with
      | some (cur, max) =>
        let info := { info with curRetry := cur, maxRetries := max }
        ((cur, max), { pm with retryInfo := pm.retryInfo.insert request.keyinfo info })
      | none =>
        ((info.curRetry, if info.maxRetries > 0 then info.maxRetries else 3),
          { pm with retryInfo := pm.retryInfo.insert request.keyinfo info })
  let curRetry := if counters.1 < 0 then 0 else counters.1
  let maxRetries := if counters.2 ≤ 0 then 3 else counters.2
  ((curRetry, maxRetries), pm)

/-- `PinentryManager::validateResultOwner`. -/
def validateResultOwner (cookie : String) (peerPid : Pid) : Bool :=
  match pm.flowOwners.lookup cookie with
  | none => true
  | some owner => owner = peerPid

/-- `PinentryManager::cleanupAwaiting`: stop the timer, drop the entry. -/
def cleanupAwaiting (cookie : String) : PinentryManager :=
  match pm.awaitingOutcome.lookup cookie with
  | none => pm
  | some awaiting =>
    { pm with
      activeTimers := pm.activeTimers.erase awaiting.timer
      awaitingOutcome := pm.awaitingOutcome.erase cookie }

/-- Is there an open session of source Pinentry under this cookie? -/
def isPinentrySession (cookie : String) : Bool :=
  match a.getSession cookie with
  | none => false
  | some session => session.source = .pinentry

/-- The session half of `PinentryManager::closeFlow`. -/
def closeFlowSession (cookie : String) (result : Session.Result) (error : String) : Agent :=
  if isPinentrySession a cookie then
    let a := if error ≠ "" then a.updateSessionError cookie error else a
    (a.closeSession W cookie result).2
  else a

/-- The manager half of `PinentryManager::closeFlow`. -/
def forgetFlow (cookie : String) : PinentryManager :=
  let pm := { pm with pendingRequests := pm.pendingRequests.erase cookie }
  let pm := pm.cleanupAwaiting cookie
  let keyinfo := (pm.flowKeyinfos.lookup cookie).getD ""
  { pm with
    flowOwners := pm.flowOwners.erase cookie
    retryReported := pm.retryReported.erase cookie
    flowKeyinfos := pm.flowKeyinfos.erase cookie
    retryInfo := if keyinfo ≠ "" then pm.retryInfo.erase keyinfo else pm.retryInfo }

/-- `PinentryManager::closeFlow`. -/
def closeFlow (cookie : String) (result : Session.Result) (error : String := "") :
    PinentryManager × Agent :=
  (pm.forgetFlow cookie, closeFlowSession W a cookie result error)

/-- The session half of an accepted request: create the session, or renew
its retry counters. -/
def openSession (request : PinentryRequest) (counters : ℤ × ℤ) (sessionExists : Bool) :
    Bool × Agent :=
  if !sessionExists then
    let actor := (W.readActor a.tick request.peerPid).getD {}
    a.ticked.createSession W request.cookie .pinentry
      { message := request.prompt
        description := request.description
        keyinfo := request.keyinfo
        curRetry := counters.1
        maxRetries := counters.2
        confirmOnly := request.confirmOnly
        repeats := request.repeats
        requestor := Agent.requestorOf actor request.peerPid }
  else (true, a.updateSessionPinentryRetry request.cookie counters.1 counters.2)

/-- The last part of `PinentryManager::handleRequest`: show the prompt,
and the request's error unless a retry report has shown one already. -/
def showPrompt (request : PinentryRequest) : PinentryManager × Agent :=
  let cookie := request.cookie
  let a := a.updateSessionPrompt cookie request.prompt false false
  let shouldEmitRequestError := request.error ≠ "" && !pm.retryReported.contains cookie
  let pm := { pm with retryReported := pm.retryReported.erase cookie }
  (pm, if shouldEmitRequestError then a.updateSessionError cookie request.error else a)

/-- The error shown for a failed attempt: the one reported, or a standard
text. -/
def failureText (error : String) : String :=
  if error = "" then "Authentication failed" else error

/-- The middle of `PinentryManager::handleRequest`: a new request ends the
wait for a result, and counts as a failed attempt. -/
def leaveAwaiting (request : PinentryRequest) : PinentryManager × Agent :=
  if pm.awaitingOutcome.contains request.cookie then
    (pm.cleanupAwaiting request.cookie,
      a.updateSessionError request.cookie (failureText request.error))
  else (pm, a)

/-- `PinentryManager::handleRequest` from a sender the flow is not closed to. -/
def acceptRequest (request : PinentryRequest) : PinentryManager × Agent :=
  let cookie := request.cookie
  let pm := { pm with flowOwners := pm.flowOwners.insert cookie request.peerPid }
  let pm :=
    if request.keyinfo ≠ "" then
      { pm with flowKeyinfos := pm.flowKeyinfos.insert cookie request.keyinfo }
    else pm
  let (counters, pm) := pm.resolveRetryInfo request
  let sessionExists := (a.getSession cookie).isSome
  let (pm, a) := pm.leaveAwaiting a request
  let pm := { pm with pendingRequests := pm.pendingRequests.insert cookie request }
  let (created, a) := openSession W a request counters sessionExists
  if !created then
    ({ pm with
        pendingRequests := pm.pendingRequests.erase cookie
        flowOwners := pm.flowOwners.erase cookie
        flowKeyinfos :=
          if request.keyinfo ≠ "" then pm.flowKeyinfos.erase cookie else pm.flowKeyinfos },
      a.writeJson request.socket collisionError)
  else pm.showPrompt a request

/-- `PinentryManager::handleRequest`. -/
def handleRequest (msg : QJsonObject) (socket : Socket) (peerPid : Pid) :
    PinentryManager × Agent :=
  let request := readRequest W a msg socket peerPid
  let a := if (msg.value "cookie").toString = "" then a.ticked else a
  if pm.flowOwners.contains request.cookie &&
      pm.flowOwners.lookup request.cookie ≠ some peerPid then (pm, a)
  else pm.acceptRequest W a request

/-- `PinentryManager::handleResponse`. -/
def handleResponse (cookie response : String) : QJsonObject × PinentryManager :=
  match pm.pendingRequests.lookup cookie with
  | none =>
    if pm.awaitingOutcome.contains cookie then
      ([("type", "error"), ("message", "Session is already awaiting terminal result")], pm)
    else ([("type", "error"), ("message", "Unknown session")], pm)
  | some request =>
    let pm := { pm with pendingRequests := pm.pendingRequests.erase cookie }
    let socketResponse : QJsonObject := [("type", "pinentry_response"), ("id", cookie)]
    let socketResponse :=
      if request.confirmOnly then socketResponse.set "result" "confirmed"
      else (socketResponse.set "result" "ok").set "password" response
    let pm := pm.cleanupAwaiting cookie
    let timer := pm.nextTimer
    (socketResponse,
      { pm with
        nextTimer := timer + 1
        awaitingOutcome := pm.awaitingOutcome.insert cookie { request := request, timer := timer }
        activeTimers := pm.activeTimers.insert timer cookie })

/-- `QTimer::timeout` of an armed result timer. -/
def onTimeout (timer : ℕ) : PinentryManager × Agent :=
  match pm.activeTimers.lookup timer with
  | none => (pm, a)
  | some cookie =>
    { pm with activeTimers := pm.activeTimers.erase timer }.closeFlow W a cookie .error
      "Pinentry did not report terminal result"

/-- The reply to a result the daemon takes. -/
def okReply : QJsonObject := [("type", "ok")]

/-- An error reply. -/
def errorReply (message : String) : QJsonObject := [("type", "error"), ("message", message)]

/-- `PinentryManager::handleResult`. -/
def handleResult (msg : QJsonObject) (peerPid : Pid) : QJsonObject × PinentryManager × Agent :=
  let cookie := (msg.value "id").toString
  if cookie = "" then (errorReply "Missing id", pm, a)
  else if !pm.validateResultOwner cookie peerPid then
    (errorReply "Result sender does not own session", pm, a)
  else if !isPinentrySession a cookie then (errorReply "Unknown pinentry session", pm, a)
  else
    let result := Text.toLower (msg.value "result").toString
    let reason := failureText (msg.value "error").toString
    if result = "success" then (okReply, pm.closeFlow W a cookie .success)
    else if result = "retry" then
      let pm := pm.cleanupAwaiting cookie
      (okReply, { pm with retryReported := pm.retryReported.insert cookie () },
        a.updateSessionError cookie reason)
    else if result = "cancelled" || result = "canceled" then
      (okReply, pm.closeFlow W a cookie .cancelled)
    else if result = "error" then (okReply, pm.closeFlow W a cookie .error reason)
    else (errorReply "Invalid result type", pm, a)

/-- `PinentryManager::handleCancel`. -/
def handleCancel (cookie : String) : QJsonObject × PinentryManager × Agent :=
  let cancelled : QJsonObject :=
    [("type", "pinentry_response"), ("id", cookie), ("result", "cancelled")]
  if pm.pendingRequests.contains cookie then (cancelled, pm.closeFlow W a cookie .cancelled)
  else if pm.awaitingOutcome.contains cookie then (cancelled, pm.closeFlow W a cookie .cancelled)
  else if isPinentrySession a cookie then (cancelled, pm.closeFlow W a cookie .cancelled)
  else (errorReply "Unknown session", pm, a)

/-- `PinentryManager::hasPendingInput`. -/
def hasPendingInput (cookie : String) : Bool := pm.pendingRequests.contains cookie

/-- `PinentryManager::hasRequest`. -/
def hasRequest (cookie : String) : Bool :=
  if pm.pendingRequests.contains cookie || pm.awaitingOutcome.contains cookie then true
  else isPinentrySession a cookie

/-- `PinentryManager::getSocketForPendingInput`. -/
def getSocketForPendingInput (cookie : String) : Option Socket :=
  (pm.pendingRequests.lookup cookie).map PinentryRequest.socket

/-- The second loop of `PinentryManager::cleanupForSocket`. -/
def closeAll : List String → PinentryManager → Agent → PinentryManager × Agent
  | [], pm, a => (pm, a)
  | cookie :: rest, pm, a =>
    let (pm, a) := pm.closeFlow W a cookie .cancelled "Pinentry disconnected"
    closeAll rest pm a

/-- `PinentryManager::cleanupForSocket`. -/
def cleanupForSocket (socket : Socket) : PinentryManager × Agent :=
  let entries := W.walk a.tick pm.pendingRequests.pairs
  let cookiesToClose := (entries.filter fun e => e.2.socket = socket).map Prod.fst
  closeAll W cookiesToClose pm a.ticked

end PinentryManager

end BbAuth
