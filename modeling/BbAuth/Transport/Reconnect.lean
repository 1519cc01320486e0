import BbAuth.Model.FallbackReader
import BbAuth.Transport.Lines
/-!
# Transport — the messages of a connection

The fallback client keeps its receive buffer over a reconnection. What it
hands on during a connection is what the lines of the leftover and the
connection's stream together hold (`messages_run`), so the leftover can
only touch the first of them. The messages of every connection are its own
exactly when every first line reads the same with the leftover in front of
it (`freshStreams_iff`), as it does after a connection that ended at the
end of a line (`unglued_of_blank`).
-/

namespace BbAuth

namespace FallbackReader

open Framing QByteArray

/-- What happens to the client. -/
inductive Input where
  | connected
  | disconnected
  /-- `data` can be read from the socket. -/
  | readyRead (data : QByteArray)
  | subscribeWatchdog
  | heartbeatTimer
  /-- The window answers a session. -/
  | sendResponse (id response : String)
  /-- The window cancels a session. -/
  | sendCancel (id : String)
  deriving DecidableEq

variable (fromJson : QByteArray → Option QJsonObject)

/-- One of these at the client. -/
def step (r : FallbackReader) : Input → FallbackReader
  | .connected => r.onConnected
  | .disconnected => r.onDisconnected
  | .readyRead data => r.onReadyRead fromJson data
  | .subscribeWatchdog => { r with client := r.client.onSubscribeWatchdog }
  | .heartbeatTimer => { r with client := r.client.onHeartbeatTimer }
  | .sendResponse id response => { r with client := r.client.sendResponse id response }
  | .sendCancel id => { r with client := r.client.sendCancel id }

/-- **The fallback client and its reader.** -/
@[simps] def machine : Machine FallbackReader Input where
  init := {}
  step := step fromJson

/-! ## Connections -/

/-- Nothing that ends or begins a connection. -/
def Within (mid : List Input) : Prop := ∀ i ∈ mid, i ≠ .connected ∧ i ≠ .disconnected

instance (mid : List Input) : Decidable (Within mid) := List.decidableBAll ..

/-- **A connection of a run, up to some moment of it**: it began after
`pre`, and `mid` came since. -/
def Connection (ins pre mid : List Input) : Prop := pre ++ .connected :: mid <+: ins ∧ Within mid

/-- What one input adds to a stream. -/
def Input.bytes : Input → QByteArray
  | .readyRead data => data
  | _ => []

/-- The bytes read in a stretch of the run. -/
def received (mid : List Input) : QByteArray := mid.flatMap Input.bytes

/-- The message that the bytes before a newline hold. -/
def messageIn (bytes : QByteArray) : Option QJsonObject :=
  if bytes.trimmed.isEmpty then none else fromJson bytes.trimmed

/-- **The messages of a stream**: its valid JSON object lines. -/
def messagesOf (bytes : QByteArray) : List QJsonObject := (linesOf bytes).filterMap fromJson

/-- **Every connection's messages are those of its own stream.** -/
def FreshStreams (ins : List Input) : Prop :=
  ∀ pre mid, Connection ins pre mid →
    ((machine fromJson).run (pre ++ .connected :: mid)).messages =
      ((machine fromJson).run pre).messages ++ messagesOf fromJson (received mid)

/-- **The first line of a connection reads the same** with what was in the
buffer in front of it. -/
def Unglued (leftover stream : QByteArray) : Prop :=
  ∀ line ∈ (segments newline stream).head?,
    messageIn fromJson (leftover ++ line) = messageIn fromJson line

variable {J : QByteArray → Option QJsonObject} {r : FallbackReader} {ins pre mid : List Input}
  {i : Input} {bytes data leftover : QByteArray}

@[simp] theorem received_snoc : received (mid ++ [i]) = received mid ++ i.bytes := by
  simp [received]

/-! ## The messages of a stream -/

theorem messagesOf_of_notMem (h : newline ∉ bytes) : messagesOf J bytes = [] := by
  simp [messagesOf, linesOf, segments_of_notMem h]

/-- The first line of a stream holds its first message, if any. -/
theorem messagesOf_append_cons (h : newline ∉ bytes) :
    messagesOf J (bytes ++ newline :: data) = (messageIn J bytes).toList ++ messagesOf J data := by
  rw [messagesOf, linesOf, segments_append_cons h, List.map_cons, List.filter_cons, messageIn]
  by_cases hb : bytes.trimmed.isEmpty
  · simp [hb, messagesOf, linesOf]
  · cases hj : J bytes.trimmed <;> simp [hb, hj, messagesOf, linesOf]

theorem messagesOf_append (bytes data : QByteArray) :
    messagesOf J (bytes ++ data) =
      messagesOf J bytes ++ messagesOf J (residue newline bytes ++ data) := by
  rw [messagesOf, linesOf_append, List.filterMap_append, messagesOf, messagesOf]

/-- **A leftover without a newline touches the first line and no other.** -/
theorem messagesOf_append_eq_iff (hleft : newline ∉ leftover) :
    messagesOf J (leftover ++ data) = messagesOf J data ↔ Unglued J leftover data := by
  by_cases hd : newline ∈ data
  · obtain ⟨line, rest, rfl, hline⟩ := List.eq_append_cons_of_mem hd
    have hglued : newline ∉ leftover ++ line := by
      rw [List.mem_append]
      exact not_or.2 ⟨hleft, hline⟩
    rw [← List.append_assoc, messagesOf_append_cons hglued, messagesOf_append_cons hline,
      List.append_left_inj]
    simp only [Unglued, segments_append_cons hline, List.head?_cons, Option.mem_some_iff,
      forall_eq']
    cases messageIn J (leftover ++ line) <;> cases messageIn J line <;> simp
  · have hnone : newline ∉ leftover ++ data := by
      rw [List.mem_append]
      exact not_or.2 ⟨hleft, hd⟩
    simp [messagesOf_of_notMem hnone, messagesOf_of_notMem hd, Unglued, segments_of_notMem hd]

/-- **White space in the buffer does no harm.** -/
theorem unglued_of_blank (h : Blank leftover) : Unglued J leftover data := by
  intro line _
  rw [messageIn, trimmed_append_of_blank h, messageIn]

/-! ## Reads -/

theorem messages_takeLine (bytes : QByteArray) :
    (r.takeLine J bytes).messages = r.messages ++ (messageIn J bytes).toList := by
  rw [takeLine, messageIn]
  by_cases hb : bytes.trimmed.isEmpty
  · simp [hb]
  · cases J bytes.trimmed <;> simp [hb, handleMessage]

theorem messages_foldl (segs : List QByteArray) : ∀ r : FallbackReader,
    (segs.foldl (fun (r : FallbackReader) bytes => r.takeLine J bytes) r).messages =
      r.messages ++ segs.flatMap fun seg => (messageIn J seg).toList := by
  induction segs with
  | nil => simp
  | cons seg segs ih =>
      intro r
      rw [List.foldl_cons, ih, messages_takeLine, List.append_assoc, List.flatMap_cons]

theorem flatMap_segments (bytes : QByteArray) :
    ((segments newline bytes).flatMap fun seg => (messageIn J seg).toList) =
      messagesOf J bytes := by
  induction bytes using stream_induction newline with
  | tail s h => rw [segments_of_notMem h, messagesOf_of_notMem h, List.flatMap_nil]
  | line seg s h ih => rw [segments_append_cons h, messagesOf_append_cons h, List.flatMap_cons, ih]

variable (J r data) in
/-- **One read** hands on the messages of the buffer and the bytes read, and
keeps their residue. -/
theorem onReadyRead_spec :
    (r.onReadyRead J data).messages = r.messages ++ messagesOf J (r.buffer ++ data) ∧
      (r.onReadyRead J data).buffer = residue newline (r.buffer ++ data) := by
  rw [onReadyRead, drain_eq]
  exact ⟨by rw [messages_foldl, flatMap_segments], rfl⟩

/-- Nothing but a read touches the buffer or hands a message on. -/
theorem step_of_bytes_nil (h : ∀ data, i ≠ .readyRead data) :
    (step J r i).messages = r.messages ∧ (step J r i).buffer = r.buffer := by
  cases i with
  | readyRead data => exact absurd rfl (h data)
  | connected | disconnected | subscribeWatchdog | heartbeatTimer | sendResponse | sendCancel =>
      exact ⟨rfl, rfl⟩

/-! ## Runs -/

/-- The buffer never holds a complete line. -/
theorem newline_notMem_buffer (ins : List Input) :
    newline ∉ ((machine J).run ins).buffer := by
  refine Machine.invariant (M := machine J) (I := fun r => newline ∉ r.buffer)
    List.not_mem_nil (fun r i h => ?_) ins
  by_cases hr : ∃ data, i = .readyRead data
  · obtain ⟨data, rfl⟩ := hr
    change newline ∉ (r.onReadyRead J data).buffer
    rw [(onReadyRead_spec ..).2]
    exact notMem_residue
  · have hkeep := (step_of_bytes_nil (J := J) (r := r) (not_exists.1 hr)).2
    change newline ∉ (step J r i).buffer
    rwa [hkeep]

/-- **A connection hands on** the messages of what was in the buffer and its
stream together. -/
theorem messages_run (pre : List Input) :
    ∀ mid, Within mid →
      let r := (machine J).run pre
      let r' := (machine J).run (pre ++ .connected :: mid)
      r'.messages = r.messages ++ messagesOf J (r.buffer ++ received mid) ∧
        r'.buffer = residue newline (r.buffer ++ received mid) := by
  intro mid
  induction mid using List.reverseRecOn with
  | nil =>
      intro _
      have hopen := newline_notMem_buffer (J := J) pre
      have hrun : (machine J).run (pre ++ [.connected]) = ((machine J).run pre).onConnected :=
        Machine.run_snoc ..
      simp only [hrun, received, List.flatMap_nil, List.append_nil]
      rw [messagesOf_of_notMem hopen, residue_of_notMem hopen, List.append_nil]
      exact ⟨rfl, rfl⟩
  | append_singleton mid i ih =>
      intro hwithin
      obtain ⟨hmsg, hbuf⟩ := ih fun j hj => hwithin j (List.mem_append_left _ hj)
      have hrun : (machine J).run (pre ++ .connected :: (mid ++ [i])) =
          step J ((machine J).run (pre ++ .connected :: mid)) i := by
        rw [← List.cons_append, ← List.append_assoc]
        exact Machine.run_snoc ..
      simp only [hrun, received_snoc]
      by_cases hr : ∃ data, i = .readyRead data
      · obtain ⟨data, rfl⟩ := hr
        obtain ⟨hm, hb⟩ := onReadyRead_spec J
          ((machine J).run (pre ++ .connected :: mid)) data
        rw [hbuf] at hm hb
        -- what came before this read and what it brings are one stream
        rw [← List.append_assoc, messagesOf_append (_ ++ received mid),
          residue_append (s := _ ++ received mid), ← List.append_assoc, ← hmsg]
        exact ⟨hm, hb⟩
      · have hnone : i.bytes = [] := by
          cases i with
          | readyRead data => exact absurd ⟨data, rfl⟩ hr
          | connected | disconnected | subscribeWatchdog | heartbeatTimer | sendResponse
          | sendCancel => rfl
        obtain ⟨hm, hb⟩ := step_of_bytes_nil (J := J)
          (r := (machine J).run (pre ++ .connected :: mid)) (not_exists.1 hr)
        rw [hm, hb, hnone, List.append_nil]
        exact ⟨hmsg, hbuf⟩

/-- **Which runs start every connection with a fresh stream**: those where
the first line of each connection reads the same with what the buffer held
when it began. -/
theorem freshStreams_iff (fromJson : QByteArray → Option QJsonObject) (ins : List Input) :
    FreshStreams fromJson ins ↔
      ∀ pre mid, Connection ins pre mid →
        Unglued fromJson ((machine fromJson).run pre).buffer (received mid) := by
  refine forall₂_congr fun pre mid => imp_congr_right fun hc => ?_
  rw [(messages_run pre mid hc.2).1, List.append_right_inj]
  exact messagesOf_append_eq_iff (newline_notMem_buffer pre)

/-- The first connection ends inside a line, the second one brings an empty
object. -/
def brokenLine : List Input :=
  [.connected, .readyRead [123], .disconnected, .connected, .readyRead [123, 125, 10]]

/-- **A partial line spoils the first message of the next connection.** -/
theorem not_freshStreams_brokenLine : ¬ FreshStreams emptyObject brokenLine := by
  intro h
  have hc : Connection brokenLine [.connected, .readyRead [123], .disconnected]
      [.readyRead [123, 125, 10]] := ⟨List.prefix_rfl, by decide⟩
  have hbuf : ((machine emptyObject).run [.connected, .readyRead [123], .disconnected]).buffer =
      [123] := by
    have hread := (messages_run (J := emptyObject) [] [.readyRead [123]] (by decide)).2
    rw [residue_of_notMem (by decide)] at hread
    exact hread
  have hglued := h _ _ hc
  rw [(messages_run _ _ hc.2).1, List.append_right_inj,
    messagesOf_append_eq_iff (newline_notMem_buffer _), hbuf] at hglued
  have hline : [123, 125] ∈ (segments newline (received [.readyRead [123, 125, 10]])).head? := by
    change _ ∈ (segments newline ([123, 125] ++ newline :: [])).head?
    rw [segments_append_cons (by decide)]
    rfl
  exact absurd (hglued _ hline) (by decide)

end FallbackReader

end BbAuth
