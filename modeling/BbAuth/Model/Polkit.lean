import BbAuth.Model.Agent
/-!
# The polkit listener

`CPolkitListener`. Its `SessionState` objects live on a heap: `states`
binds the handles of the live ones, `new` takes a fresh handle and
`delete` erases one, so that a read or a write through a handle that is
not bound is a use after free. The first such access sets `useAfterFree`
and nothing is modelled past it.

`PolkitQt1` sessions are handles too, never reused; the `AsyncResult` that
comes with each call is kept in `results`, with what was done to it.
-/

namespace BbAuth

/-- `PolkitQt1::Agent::AsyncResult`: the error set on it, and how often
`setCompleted` was called. -/
structure AsyncResult where
  error : String := ""
  completions : ℕ := 0
  deriving DecidableEq

/-- `CPolkitListener::SessionState`. -/
structure SessionState where
  inProgress : Bool := false
  cancelled : Bool := false
  gainedAuth : Bool := false
  cookie : String
  message : String := ""
  iconName : String := ""
  actionId : String := ""
  prompt : String := ""
  errorText : String := ""
  echoOn : Bool := false
  requestSent : Bool := false
  details : Agent.Details := []
  result : ℕ
  selectedUser : String
  session : Option ℕ := none
  retryCount : ℕ := 0
  deriving DecidableEq

/-- `SessionState::MAX_AUTH_RETRIES`. -/
def MAX_AUTH_RETRIES : ℕ := 3

/-- `CPolkitListener`. -/
structure PolkitListener where
  /-- The live `SessionState` objects. -/
  states : Table ℕ SessionState := ∅
  cookieToState : Table String ℕ := ∅
  sessionToState : Table ℕ ℕ := ∅
  /-- The `AsyncResult`s handed to `initiateAuthentication` so far. -/
  results : Table ℕ AsyncResult := ∅
  nextState : ℕ := 0
  nextSession : ℕ := 0
  nextResult : ℕ := 0
  useAfterFree : Bool := false

namespace PolkitListener

variable (W : World) (l : PolkitListener) (a : Agent)

/-- Write a live `SessionState` back. -/
def setState (h : ℕ) (st : SessionState) : PolkitListener :=
  { l with states := l.states.insert h st }

/-- An access through a dangling handle. -/
def dangling : PolkitListener := { l with useAfterFree := true }

/-- Do something to an `AsyncResult`. -/
def onResult (result : ℕ) (f : AsyncResult → AsyncResult) : PolkitListener :=
  match l.results.lookup result with
  | none => l
  | some r => { l with results := l.results.insert result (f r) }

/-- `AsyncResult::setCompleted`. -/
def setCompleted (result : ℕ) : PolkitListener :=
  l.onResult result fun r => { r with completions := r.completions + 1 }

/-- `AsyncResult::setError`. -/
def setError (result : ℕ) (text : String) : PolkitListener :=
  l.onResult result fun r => { r with error := text }

/-- `CPolkitListener::reattempt`: the signals are connected and the
attempt is started. -/
def reattempt (h : ℕ) (st : SessionState) : PolkitListener × Agent :=
  let st := { st with cancelled := false }
  (l.setState h st, match st.session with
    | some session => a.trace (.initiate session)
    | none => a)

/-- `m_sessionToState.remove(state->session)`, where there is a session. -/
def removeSession (session : Option ℕ) : PolkitListener :=
  match session with
  | none => l
  | some s => { l with sessionToState := l.sessionToState.erase s }

/-- The last part of `CPolkitListener::finishAuth`: complete the result,
report the outcome, remove and delete the state. The session's result is
the one it was constructed with, the state's own. -/
def conclude (h : ℕ) (st : SessionState) : PolkitListener × Agent :=
  let l := (l.setCompleted st.result).removeSession st.session
  let a := a.onSessionComplete W st.cookie st.gainedAuth
  ({ l with
      cookieToState := l.cookieToState.erase st.cookie
      states := l.states.erase h }, a)

/-- The retry branch of `CPolkitListener::finishAuth`: a new session for
the same state. -/
def renewSession (h : ℕ) (st : SessionState) : PolkitListener × Agent :=
  let l := l.removeSession st.session
  let session := l.nextSession
  let st := { st with session := some session }
  let l := { l with
    nextSession := session + 1
    sessionToState := l.sessionToState.insert session h }
  l.reattempt a h st

/-- `CPolkitListener::finishAuth`. -/
def finishAuth (h : ℕ) : PolkitListener × Agent :=
  match l.states.lookup h with
  | none => (l.dangling, a)
  | some st =>
    if !st.inProgress then (l, a)
    else if !st.gainedAuth && !st.cancelled then
      let st := { st with retryCount := st.retryCount + 1 }
      if st.retryCount < MAX_AUTH_RETRIES then l.renewSession a h st
      else
        let st := { st with errorText := "Too many failed attempts" }
        l.conclude W (a.onSessionRetry st.cookie st.errorText) h { st with inProgress := false }
    else l.conclude W a h { st with inProgress := false }

/-- `CPolkitListener::findStateForSession`, and the access through the
state it finds. -/
def withState (session : ℕ) (f : ℕ → SessionState → PolkitListener × Agent) :
    PolkitListener × Agent :=
  match l.sessionToState.lookup session with
  | none => (l, a)
  | some h =>
    match l.states.lookup h with
    | none => (l.dangling, a)
    | some st => f h st

/-- `CPolkitListener::onSessionRequest`. -/
def onSessionRequest (session : ℕ) (request : String) (echo : Bool) : PolkitListener × Agent :=
  l.withState a session fun h st =>
    (l.setState h { st with prompt := request, echoOn := echo, requestSent := true },
      a.onSessionRequest st.cookie request echo)

/-- `CPolkitListener::onSessionCompleted`. -/
def onSessionCompleted (session : ℕ) (gainedAuthorization : Bool) : PolkitListener × Agent :=
  l.withState a session fun h st =>
    let st := { st with gainedAuth := gainedAuthorization }
    if !gainedAuthorization then
      let st := { st with errorText := "Authentication failed" }
      (l.setState h st).finishAuth W (a.onSessionRetry st.cookie st.errorText) h
    else (l.setState h st).finishAuth W a h

/-- `CPolkitListener::onSessionError`. -/
def onSessionError (session : ℕ) (text : String) : PolkitListener × Agent :=
  l.withState a session fun h st =>
    (l.setState h { st with errorText := text }, a.onSessionRetry st.cookie text)

/-- `CPolkitListener::onSessionInfo`. -/
def onSessionInfo (session : ℕ) (text : String) : PolkitListener × Agent :=
  l.withState a session fun _ st => (l, a.onSessionInfo st.cookie text)

/-- The loop of `CPolkitListener::cancelAuthentication` over the states
still to be visited. -/
def cancelLoop : List ℕ → PolkitListener → Agent → PolkitListener × Agent
  | [], l, a => (l, a)
  | h :: rest, l, a =>
    match l.states.lookup h with
    | none => (l.dangling, a)
    | some st =>
      let (l, a) := (l.setState h { st with cancelled := true }).finishAuth W a h
      cancelLoop rest l a

/-- `CPolkitListener::cancelAuthentication`. -/
def cancelAuthentication : PolkitListener × Agent :=
  let states := W.walk a.tick (l.cookieToState.pairs.map Prod.snd)
  cancelLoop W states l a.ticked

/-- `CPolkitListener::submitPassword`. -/
def submitPassword (cookie pass : String) : PolkitListener × Agent :=
  let a := a.trace (.submitPassword cookie pass)
  match l.cookieToState.lookup cookie with
  | none => (l, a)
  | some h =>
    match l.states.lookup h with
    | none => (l.dangling, a)
    | some st =>
      match st.session with
      | none => (l, a)
      | some session => (l, a.trace (.setResponse session pass))

/-- `state->session->cancel()`, which may emit `completed(false)` before it
returns. -/
def cancelSession (session : ℕ) : PolkitListener × Agent :=
  let completes := W.cancelCompletes a.tick
  let a := a.ticked.trace (.cancel session)
  if completes then l.onSessionCompleted W a session false else (l, a)

/-- `CPolkitListener::cancelPending`. -/
def cancelPending (cookie : String) : PolkitListener × Agent :=
  match l.cookieToState.lookup cookie with
  | none => (l, a)
  | some h =>
    match l.states.lookup h with
    | none => (l.dangling, a)
    | some st =>
      match st.session with
      | none => (l, a)
      | some session =>
        let (l, a) := l.cancelSession W a session
        -- the state is read again: `cancel` may have replaced its session or deleted it
        match l.states.lookup h with
        | none => (l.dangling, a)
        | some st => (l.setState h { st with cancelled := true }).finishAuth W a h

/-- `CPolkitListener::initiateAuthentication`, with the `AsyncResult` of
the call. -/
def initiateAuthentication (actionId message iconName : String) (details : Agent.Details)
    (cookie : String) (identities : List String) : PolkitListener × Agent :=
  let result := l.nextResult
  let l := { l with nextResult := result + 1, results := l.results.insert result {} }
  if l.cookieToState.contains cookie then
    ((l.setError result "Duplicate session").setCompleted result, a)
  else
    match identities with
    | [] =>
      ((l.setError result
        "No identities, this is a problem with your system configuration.").setCompleted result, a)
    | selectedUser :: _ =>
      let h := l.nextState
      let session := l.nextSession
      let st : SessionState :=
        { selectedUser := selectedUser, cookie := cookie, result := result, actionId := actionId,
          message := message, iconName := iconName, details := details, inProgress := true,
          session := some session }
      let l := { l with
        nextState := h + 1
        nextSession := session + 1
        states := l.states.insert h st
        cookieToState := l.cookieToState.insert cookie h
        sessionToState := l.sessionToState.insert session h }
      let (accepted, a) := a.onPolkitRequest W cookie message actionId selectedUser details
      if !accepted then
        let l := { l with
          cookieToState := l.cookieToState.erase cookie
          sessionToState := l.sessionToState.erase session }
        let l := (l.setError result "Duplicate session").setCompleted result
        ({ l with states := l.states.erase h }, a)
      else l.reattempt a h st

end PolkitListener

end BbAuth
