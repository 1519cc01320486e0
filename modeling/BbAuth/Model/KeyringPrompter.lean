import BbAuth.Model.Json
import Mathlib.Data.List.TakeWhile
/-!
# The keyring prompter's end

`ipc-client.c` of the keyring prompter. A prompt asks for a password or for
a confirmation; both are written as a `keyring_request`, told apart by
`confirm_only`, and each has a function of its own that reads the reply.
-/

namespace BbAuth

/-- A JSON text as a C string: it ends at its first NUL. -/
def cString (s : String) : String := String.ofList (s.toList.takeWhile fun c => c ≠ '\x00')

theorem cString_eq_self {s : String} : cString s = s ↔ '\x00' ∉ s.toList := by
  rw [cString, ← String.toList_inj, String.toList_ofList, List.takeWhile_eq_self_iff]
  constructor
  · intro h hmem
    simpa using h _ hmem
  · intro h c hc
    have hne : c ≠ '\x00' := fun heq => h (heq ▸ hc)
    simpa using hne

namespace QJsonObject

/-- `json_object_get_string_member`: `NULL` where the member is no text. -/
def getStringMember (o : QJsonObject) (key : String) : Option String :=
  match o.value key with
  | .string s => some (cString s)
  | _ => none

end QJsonObject

/-- **A prompt**, with the texts it is given; each may be `NULL`. -/
inductive KeyringPrompt where
  | password (title message description warning : Option String) (passwordNew : Bool)
  | confirm (title message description : Option String)
  deriving DecidableEq

namespace KeyringPrompter

/-! ## The requests -/

/-- The payload of `bb_auth_ipc_send_keyring_request`. -/
def keyringPayload (cookie : String) (title message description warning : Option String)
    (passwordNew : Bool) : QJsonObject :=
  let payload : QJsonObject :=
    [("type", "keyring_request"), ("cookie", cookie), ("title", title.getD "Unlock Keyring"),
      ("message", message.getD "Password required")]
  let payload := payload.setIf description.isSome "description" (description.getD "")
  let payload := payload.setIf (warning.getD "" ≠ "") "warning" (warning.getD "")
  (payload.set "password_new" passwordNew).set "confirm_only" false

/-- The payload of `bb_auth_ipc_send_confirm_request`. -/
def confirmPayload (cookie : String) (title message description : Option String) : QJsonObject :=
  let payload : QJsonObject :=
    [("type", "keyring_request"), ("cookie", cookie), ("title", title.getD "Confirm"),
      ("message", message.getD "Please confirm")]
  let payload := payload.setIf description.isSome "description" (description.getD "")
  payload.set "confirm_only" true

/-- The message of `bb_auth_ipc_send_cancel`. -/
def cancelMessage (cookie : String) : QJsonObject := [("type", "session.cancel"), ("id", cookie)]

/-- `bb_auth_prompt_close`: what is sent, over a connection of its own, for
a prompt that has made a request. -/
def promptClose (requestCookie : Option String) : Option QJsonObject :=
  requestCookie.map cancelMessage

/-! ## The replies

What `send_json_command` returns is `none` where there is no line, or none
that is a JSON object. -/

/-- The tests both functions begin with: the reply is a
`keyring_response`, and has a result. -/
def keyringResult (response : Option QJsonObject) : Option (QJsonObject × String) :=
  match response with
  | none => none
  | some resp =>
    if !resp.contains "type" then none
    else if resp.getStringMember "type" ≠ some "keyring_response" then none
    else if !resp.contains "result" then none
    else (resp.getStringMember "result").map fun result => (resp, result)

/-- `bb_auth_ipc_send_keyring_request` from the reply on: `TRUE` with
`out_password`, or `FALSE`. -/
def sendKeyringRequest (response : Option QJsonObject) : Option String :=
  match keyringResult response with
  | none => none
  | some (resp, result) =>
    if result = "ok" then
      if !resp.contains "password" then none else resp.getStringMember "password"
    else none

/-- `bb_auth_ipc_send_confirm_request` from the reply on. -/
def sendConfirmRequest (response : Option QJsonObject) : Bool :=
  match keyringResult response with
  | none => false
  | some (_, result) => result = "confirmed"

end KeyringPrompter

namespace KeyringPrompt

open KeyringPrompter

/-- The request of a prompt. -/
def request (cookie : String) : KeyringPrompt → QJsonObject
  | .password title message description warning passwordNew =>
    keyringPayload cookie title message description warning passwordNew
  | .confirm title message description => confirmPayload cookie title message description

/-- **What the call for a prompt returns**: its `gboolean`, and
`out_password`. -/
def returns (response : Option QJsonObject) : KeyringPrompt → Bool × Option String
  | .password .. => ((sendKeyringRequest response).isSome, sendKeyringRequest response)
  | .confirm .. => (sendConfirmRequest response, none)

variable (prompt : KeyringPrompt) (cookie : String)

/-- Both kinds of prompt are one type of request. -/
@[simp] theorem value_type_request : (prompt.request cookie).value "type" = "keyring_request" := by
  cases prompt <;> simp [request, keyringPayload, confirmPayload]

@[simp] theorem value_cookie_request : (prompt.request cookie).value "cookie" = .string cookie := by
  cases prompt <;> simp [request, keyringPayload, confirmPayload]

end KeyringPrompt

end BbAuth
