import BbAuth.Library.Table
import BbAuth.Model.World
/-!
# Sessions and their store

`Session` and `agent::SessionStore`: one session per id, its mutators, the
three events it is serialised to, and the store that keeps the open ones.
The store answers every accepted operation with the event to be emitted.
-/

namespace BbAuth

namespace Session

/-- `Session::Source`. -/
inductive Source where
  | polkit
  | keyring
  | pinentry
  deriving DecidableEq

/-- `Session::State`. -/
inductive State where
  | prompting
  | closed
  deriving DecidableEq

/-- `Session::Result`. -/
inductive Result where
  | success
  | cancelled
  | error
  deriving DecidableEq

/-- `Session::Requestor`. -/
structure Requestor where
  name : String := ""
  icon : String := ""
  fallbackLetter : String := ""
  fallbackKey : String := ""
  pid : Pid := 0
  deriving DecidableEq

/-- `Session::Context`. -/
structure Context where
  message : String := ""
  requestor : Requestor := {}
  actionId : String := ""
  user : String := ""
  details : QJsonObject := []
  keyringName : String := ""
  description : String := ""
  keyinfo : String := ""
  curRetry : ℤ := 0
  maxRetries : ℤ := 3
  confirmOnly : Bool := false
  repeats : Bool := false
  deriving DecidableEq

end Session

/-- `Session`. -/
structure Session where
  id : String
  source : Session.Source
  context : Session.Context
  state : Session.State := .prompting
  prompt : String := ""
  error : String := ""
  info : String := ""
  echo : Bool := false
  result : Option Session.Result := none
  deriving DecidableEq

namespace Session

/-- `Session::setPrompt`. -/
def setPrompt (s : Session) (prompt : String) (echo clearError : Bool) : Session :=
  { s with
    prompt := prompt
    echo := echo
    state := .prompting
    error := if clearError then "" else s.error
    info := "" }

/-- `Session::setError`. -/
def setError (s : Session) (error : String) : Session := { s with error := error }

/-- `Session::setInfo`. -/
def setInfo (s : Session) (info : String) : Session := { s with info := info }

/-- `Session::setPinentryRetry`. -/
def setPinentryRetry (s : Session) (curRetry maxRetries : ℤ) : Session :=
  if s.source ≠ .pinentry then s
  else
    { s with
      context := { s.context with
        curRetry := if curRetry < 0 then 0 else curRetry
        maxRetries := if maxRetries > 0 then maxRetries else 3 } }

/-- `Session::close`. -/
def close (s : Session) (result : Result) : Session :=
  { s with
    result := some result
    state := .closed
    error := if result = .success then "" else s.error }

/-- `Session::sourceToString`. -/
def sourceToString : Source → String
  | .polkit => "polkit"
  | .keyring => "keyring"
  | .pinentry => "pinentry"

/-- `Session::resultToString`. -/
def resultToString : Result → String
  | .success => "success"
  | .cancelled => "cancelled"
  | .error => "error"

/-- `Session::requestorToJson`. -/
def requestorToJson (s : Session) : QJsonObject :=
  let r := s.context.requestor
  let obj : QJsonObject :=
    [("name", r.name), ("icon", r.icon), ("fallbackLetter", r.fallbackLetter)]
  (obj.setIf (r.fallbackKey ≠ "") "fallbackKey" r.fallbackKey).setIf (0 < r.pid) "pid"
    (.int r.pid)

/-- `Session::contextToJson`. -/
def contextToJson (s : Session) : QJsonObject :=
  let c := s.context
  let ctx : QJsonObject := [("message", c.message), ("requestor", .object s.requestorToJson)]
  match s.source with
  | .polkit =>
    ((ctx.setIf (c.actionId ≠ "") "actionId" c.actionId).setIf (c.user ≠ "") "user" c.user).setIf
      (c.details ≠ []) "details" (.object c.details)
  | .keyring => ctx.setIf (c.keyringName ≠ "") "keyringName" c.keyringName
  | .pinentry =>
    let ctx := (ctx.setIf (c.description ≠ "") "description" c.description).setIf
      (c.keyinfo ≠ "") "keyinfo" c.keyinfo
    (((ctx.set "curRetry" (.int c.curRetry)).set "maxRetries" (.int c.maxRetries)).set
      "confirmOnly" c.confirmOnly).set "repeat" c.repeats

/-- `Session::toCreatedEvent`. -/
def toCreatedEvent (s : Session) : QJsonObject :=
  [("type", "session.created"), ("id", s.id), ("source", sourceToString s.source),
    ("context", .object s.contextToJson)]

/-- `Session::toUpdatedEvent`. -/
def toUpdatedEvent (s : Session) : QJsonObject :=
  let event : QJsonObject :=
    [("type", "session.updated"), ("id", s.id), ("state", "prompting"), ("prompt", s.prompt),
      ("echo", s.echo)]
  let event := (event.setIf (s.source = .pinentry) "curRetry" (.int s.context.curRetry)).setIf
    (s.source = .pinentry) "maxRetries" (.int s.context.maxRetries)
  (event.setIf (s.error ≠ "") "error" s.error).setIf (s.info ≠ "") "info" s.info

/-- `Session::toClosedEvent`. -/
def toClosedEvent (s : Session) : QJsonObject :=
  let event : QJsonObject :=
    [("type", "session.closed"), ("id", s.id), ("result", resultToString (s.result.getD .error))]
  event.setIf (s.error ≠ "") "error" s.error

/-! ## What the events say -/

variable (s : Session)

@[simp] theorem value_type_created : s.toCreatedEvent.value "type" = "session.created" := by
  simp [toCreatedEvent]

@[simp] theorem value_type_updated : s.toUpdatedEvent.value "type" = "session.updated" := by
  simp [toUpdatedEvent]

@[simp] theorem value_type_closed : s.toClosedEvent.value "type" = "session.closed" := by
  simp [toClosedEvent]

@[simp] theorem value_id_created : s.toCreatedEvent.value "id" = s.id := by
  simp [toCreatedEvent]

@[simp] theorem value_id_updated : s.toUpdatedEvent.value "id" = s.id := by
  simp [toUpdatedEvent]

@[simp] theorem value_id_closed : s.toClosedEvent.value "id" = s.id := by
  simp [toClosedEvent]

@[simp] theorem value_result_closed (r : Result) :
    (s.close r).toClosedEvent.value "result" = resultToString r := by
  simp [toClosedEvent, close]

end Session

/-- `agent::SessionStore`: each session is kept under its id. -/
structure SessionStore where
  sessions : Table String Session := ∅
  keyed : ∀ id s, sessions.lookup id = some s → s.id = id := by simp
  deriving DecidableEq

namespace SessionStore

variable (st : SessionStore)

/-- `m_sessions[session.id()] = session`. -/
def put (session : Session) : SessionStore where
  sessions := st.sessions.insert session.id session
  keyed id s h := by
    rw [Table.lookup_insert] at h
    split at h
    · rw [← Option.some.inj h]; exact Eq.symm ‹_›
    · exact st.keyed id s h

/-- `m_sessions.erase(id)`. -/
def drop (id : String) : SessionStore where
  sessions := st.sessions.erase id
  keyed id' s h := by
    rw [Table.lookup_erase] at h
    split at h
    · cases h
    · exact st.keyed id' s h

/-- `SessionStore::createSession`: the event and the new store, or nothing
where the id is taken. -/
def createSession (id : String) (source : Session.Source) (ctx : Session.Context) :
    Option (QJsonObject × SessionStore) :=
  match st.sessions.lookup id with
  | some _ => none
  | none =>
    let session : Session := { id := id, source := source, context := ctx }
    some (session.toCreatedEvent, st.put session)

/-- The shape the three updates share: mutate the session, answer with its
updated event. -/
def update (id : String) (f : Session → Session) : Option (QJsonObject × SessionStore) :=
  match st.sessions.lookup id with
  | none => none
  | some session =>
    some ((f session).toUpdatedEvent, st.put (f session))

/-- `SessionStore::updatePrompt`. -/
def updatePrompt (id prompt : String) (echo clearError : Bool) :
    Option (QJsonObject × SessionStore) :=
  st.update id fun s => s.setPrompt prompt echo clearError

/-- `SessionStore::updateError`. -/
def updateError (id error : String) : Option (QJsonObject × SessionStore) :=
  st.update id fun s => s.setError error

/-- `SessionStore::updateInfo`. -/
def updateInfo (id info : String) : Option (QJsonObject × SessionStore) :=
  st.update id fun s => s.setInfo info

/-- `SessionStore::updatePinentryRetry`: no event of its own. -/
def updatePinentryRetry (id : String) (curRetry maxRetries : ℤ) : SessionStore :=
  match st.sessions.lookup id with
  | none => st
  | some session =>
    if session.source ≠ .pinentry then st
    else st.put (session.setPinentryRetry curRetry maxRetries)

/-- `SessionStore::closeSession`. -/
def closeSession (id : String) (result : Session.Result) : Option (QJsonObject × SessionStore) :=
  match st.sessions.lookup id with
  | none => none
  | some session =>
    some ((session.close result).toClosedEvent, st.drop id)

/-- `SessionStore::getSession`. -/
def getSession (id : String) : Option Session := st.sessions.lookup id

/-- `SessionStore::empty`. -/
def empty : Bool := st.sessions.pairs.isEmpty

/-- `SessionStore::size`. -/
def size : ℕ := st.sessions.pairs.length

end SessionStore

end BbAuth
