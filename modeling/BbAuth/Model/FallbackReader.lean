import BbAuth.Library.Framing
import BbAuth.Model.Bytes
import BbAuth.Model.FallbackClient
/-!
# The fallback client's reader

`FallbackClient` with the receive buffer `m_buffer` in front of it: what
the socket delivers is cut into lines, and a line that holds a JSON object
is a message. `fromJson` is Qt's parser. The handlers of `connected` and
`disconnected` reset the client, and not the buffer.

`messages` is the trace of what was handed to `handleMessage`: it is
written and never read.
-/

namespace BbAuth

/-- `FallbackClient`, with `m_buffer`. -/
structure FallbackReader where
  client : FallbackClient := {}
  buffer : QByteArray := []
  messages : List QJsonObject := []

namespace FallbackReader

variable (r : FallbackReader)

/-- `QLocalSocket::connected`. -/
def onConnected : FallbackReader := { r with client := r.client.onConnected }

/-- `QLocalSocket::disconnected`. -/
def onDisconnected : FallbackReader := { r with client := r.client.onDisconnected }

/-- A call of `handleMessage`. -/
def handleMessage (msg : QJsonObject) : FallbackReader :=
  { r with client := r.client.handleMessage msg, messages := r.messages ++ [msg] }

variable (fromJson : QByteArray → Option QJsonObject)

/-- The body of the loop of `readyRead`, at the bytes before a newline. -/
def takeLine (bytes : QByteArray) : FallbackReader :=
  let line := bytes.trimmed
  if line.isEmpty then r
  else match fromJson line with
    | none => { r with client := r.client.emit (.statusMessage "Invalid daemon payload") }
    | some msg => r.handleMessage msg

/-- `QLocalSocket::readyRead`, when `data` can be read. -/
def onReadyRead (data : QByteArray) : FallbackReader :=
  let (r, buffer) :=
    Framing.drain QByteArray.newline (fun (r : FallbackReader) bytes => r.takeLine fromJson bytes)
      (r.buffer ++ data) r
  { r with buffer := buffer }

end FallbackReader

end BbAuth
