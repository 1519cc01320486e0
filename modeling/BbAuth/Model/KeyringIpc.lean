import BbAuth.Model.KeyringPrompter
/-!
# The keyring prompter's calls to the daemon

`ipc-client.c` again, from the connection on: each call connects, writes its
request, reads one line and parses it. GLib sets a `GError` where it fails,
and the code reads the message of the one it was given; where none was set
that is a read through `NULL`.
-/

namespace BbAuth

/-- A `GError`. -/
structure GError where
  message : String
  deriving DecidableEq

/-- **A read through `NULL`**: the program is gone. -/
inductive NullDereference where
  | mk
  deriving DecidableEq

/-- `error->message`. -/
def GError.message? : Option GError → Except NullDereference String
  | some error => .ok error.message
  | none => .error .mk

/-- **What the daemon does on a connection.** -/
inductive Peer where
  /-- It cannot be connected to. -/
  | refuses (error : GError)
  /-- The request cannot be written. -/
  | failsWrite (error : GError)
  /-- The stream ends before a byte of a reply. -/
  | closes
  /-- The reply cannot be read. -/
  | failsRead (error : GError)
  /-- A line is read, or what there was of one when the stream ended. -/
  | replies (line : String)
  deriving DecidableEq

namespace Peer

/-- The `GError` of `g_socket_client_connect`. -/
def connectError : Peer → Option GError
  | refuses error => some error
  | _ => none

/-- The `GError` of `g_output_stream_write_all`. -/
def writeError : Peer → Option GError
  | failsWrite error => some error
  | _ => none

/-- `g_data_input_stream_read_line`, and its `GError`: at the end of the
stream it returns `NULL` and sets none. -/
def readLine : Peer → Option String × Option GError
  | replies line => (some line, none)
  | failsRead error => (none, some error)
  | _ => (none, none)

end Peer

/-- **What a call asks of the outside.** -/
structure IpcWorld where
  /-- The daemon, on the connection a request is written to. -/
  daemon : QJsonObject → Peer
  /-- `json_parser_load_from_data`, and the root it leaves; a text without
  one has none. -/
  load : String → Except GError (Option QJsonValue)

namespace KeyringPrompter

variable (I : IpcWorld)

/-- `connect_to_socket`: is there a connection? -/
def connectToSocket (peer : Peer) : Except NullDereference Bool :=
  match peer.connectError with
  | some error => do
    let _ ← GError.message? (some error)
    return false
  | none => return true

/-- `send_json_command`. -/
def sendJsonCommand (request : QJsonObject) : Except NullDereference (Option String) := do
  let peer := I.daemon request
  if !(← connectToSocket peer) then return none
  match peer.writeError with
  | some error =>
    let _ ← GError.message? (some error)
    return none
  | none =>
    match peer.readLine with
    | (some line, _) => return some line
    | (none, error) =>
      let _ ← GError.message? error
      return none

/-- From the response to its root, where that is an object. -/
def responseObject (response : Option String) : Except NullDereference (Option QJsonObject) :=
  match response with
  | none => return none
  | some line =>
    match I.load line with
    | .error error => do
      let _ ← GError.message? (some error)
      return none
    | .ok (some (.object o)) => return some o
    | .ok _ => return none

/-- The message of `bb_auth_ipc_ping`. -/
def pingMessage : QJsonObject := [("type", "ping")]

/-- `bb_auth_ipc_ping`. -/
def ipcPing : Except NullDereference Bool := do
  let response ← sendJsonCommand I pingMessage
  match ← responseObject I response with
  | none => return false
  | some resp =>
    if !resp.contains "type" then return false
    return resp.getStringMember "type" = some "pong"

/-- `bb_auth_ipc_send_keyring_request`: what it returns, and what it leaves
in `out_password`. -/
def ipcSendKeyringRequest (cookie : String) (title message description warning : Option String)
    (passwordNew : Bool) : Except NullDereference (Bool × Option String) := do
  let outPassword := none
  let response ←
    sendJsonCommand I (keyringPayload cookie title message description warning passwordNew)
  match ← responseObject I response with
  | none => return (false, outPassword)
  | some resp =>
    if !resp.contains "type" then return (false, outPassword)
    if resp.getStringMember "type" ≠ some "keyring_response" then return (false, outPassword)
    if !resp.contains "result" then return (false, outPassword)
    let result := resp.getStringMember "result"
    if result = some "ok" then
      if !resp.contains "password" then return (false, outPassword)
      match resp.getStringMember "password" with
      | some password =>
        let outPassword := some password
        return (true, outPassword)
      | none => return (false, outPassword)
    if result = some "cancelled" then return (false, outPassword)
    return (false, outPassword)

/-- `bb_auth_ipc_send_confirm_request`. -/
def ipcSendConfirmRequest (cookie : String) (title message description : Option String) :
    Except NullDereference Bool := do
  let response ← sendJsonCommand I (confirmPayload cookie title message description)
  match ← responseObject I response with
  | none => return false
  | some resp =>
    if !resp.contains "type" then return false
    if resp.getStringMember "type" ≠ some "keyring_response" then return false
    if !resp.contains "result" then return false
    return resp.getStringMember "result" = some "confirmed"

end KeyringPrompter

end BbAuth
