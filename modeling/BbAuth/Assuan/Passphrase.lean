import BbAuth.Assuan.Encoding
import BbAuth.Assuan.Honesty
import BbAuth.Flow.Prompts
import BbAuth.Flow.Replies
/-!
# What gpg is told of a prompt

A `GETPIN` or a `CONFIRM` goes out on a connection of its own, and the
pinentry reads one line from it. Between the two the daemon serves everybody
else. What gpg is told is what the first decision about the flow says, if
the request was let in by the test of the flow's owner and nothing took its
entry out before: the passphrase as it was typed, or that the user gave up.
-/

namespace BbAuth

open Agent

namespace PinentryManager

/-- The reply to an answered request. -/
def answeredReply (cookie : String) (confirmOnly : Bool) (response : String) : QJsonObject :=
  if confirmOnly then
    [("type", "pinentry_response"), ("id", cookie), ("result", "confirmed")]
  else
    [("type", "pinentry_response"), ("id", cookie), ("result", "ok"), ("password", response)]

/-- The reply to a decision. -/
def verdictReply (cookie : String) (confirmOnly : Bool) : Verdict → QJsonObject
  | .answered response => answeredReply cookie confirmOnly response
  | .cancelled => cancelledReply cookie

theorem handleResponse_eq {pm : PinentryManager} {cookie : String} {request : PinentryRequest}
    (h : pm.pendingRequests.lookup cookie = some request) (response : String) :
    (pm.handleResponse cookie response).1 =
      answeredReply cookie request.confirmOnly response := by
  simp only [handleResponse, h, answeredReply]
  split <;> rfl

end PinentryManager

namespace Daemon

variable (W : World) (socket : Socket) (c : String) (d : Daemon) (i : Input)

/-- **The decision about the pinentry flow `c`** that an input brings: an
answer goes to a keyring prompt of that id first, where there is one. -/
def pinentryDecision : Option Verdict :=
  if d.keyringManager.pendingRequests.lookup c = none then d.decision c i else none

/-- The test of the flow's owner lets `socket` in. -/
def admits : Bool :=
  !(d.pinentryManager.flowOwners.contains c &&
    d.pinentryManager.flowOwners.lookup c ≠ some (d.agent.getPeerPid socket))

/-- The request of `socket` is abandoned before its flow is decided. -/
def disturbed : Daemon → List Input → Bool
  | _, [] => false
  | d, i :: rest =>
    if (d.pinentryDecision c i).isSome then false
    else decide (Abandons W socket c d i) || disturbed (d.step W i) rest

/-- **The verdict on a request** that `socket` makes for `c`, over the inputs
that follow: none where it is not let in, or abandoned. -/
def verdict (d : Daemon) (request : Input) (post : List Input) : Option Verdict :=
  if d.admits socket c && !disturbed W socket c (d.step W request) post then
    (machine W).firstFrom (pinentryDecision c) (d.step W request) post
  else none

/-- **The request for `c` waits**: nothing else is kept for its socket. -/
structure Pends (confirmOnly : Bool) (d : Daemon) : Prop where
  kept : Kept (mute socket) d.agent
  keyring : ∀ c r, d.keyringManager.pendingRequests.lookup c = some r → r.socket ≠ socket
  pinentry : ∀ c' r, d.pinentryManager.pendingRequests.lookup c' = some r → r.socket = socket →
    c' = c
  connected : d.agent.isConnected socket = true
  pending : ∃ r, d.pinentryManager.pendingRequests.lookup c = some r ∧ r.socket = socket ∧
    r.confirmOnly = confirmOnly

variable {W socket c d i} {confirmOnly : Bool}

theorem pinentryDecision_eq_some {v : Verdict} (h : d.pinentryDecision c i = some v) :
    d.keyringManager.pendingRequests.lookup c = none ∧ d.decision c i = some v := by
  unfold pinentryDecision at h
  split at h
  next hk => exact ⟨hk, h⟩
  · cases h

/-- Without a decision no authorized message answers the flow. -/
theorem not_decides_of_none (h : d.pinentryDecision c i = none) {u : Socket} {msg : QJsonObject}
    (hd : d.Decides i u msg) (hk : d.keyringManager.pendingRequests.lookup (messageId msg) = none) :
    messageId msg ≠ c := by
  rintro rfl
  rw [pinentryDecision, if_pos hk] at h
  exact decision_eq_none h hd rfl

theorem admits_iff : d.admits socket c = true ↔
    ∀ owner, d.pinentryManager.flowOwners.lookup c = some owner →
      owner = d.agent.getPeerPid socket := by
  unfold admits
  cases h : d.pinentryManager.flowOwners.lookup c with
  | none => simp [Table.contains, h]
  | some owner => simp [Table.contains, h]

/-! ## The request -/

section

variable {msg : QJsonObject}

/-- A request is not answered by the step that takes it. -/
theorem firstWritten_of_asked (hm : d.message? i = some (.pinentryRequest, socket, msg))
    (hk : Kept (mute socket) d.agent) :
    d.firstWritten W socket i = none ∧ Kept (mute socket) (d.step W i).agent := by
  have ho : Obeys (mute socket) d.agent (d.step W i).agent := by
    rw [step_of_message hm]
    exact Calls.obeys (PinentryManager.calls_handleRequest W d.agent d.pinentryManager msg socket _)
      open_mute (fun s hs => absurd hs (Set.notMem_empty s)) fun _ => trivial
  exact ⟨findSome?_of_obeys ho hk, (ho hk).1⟩

theorem keyring_of_asked (hm : d.message? i = some (.pinentryRequest, socket, msg)) :
    (d.step W i).keyringManager = d.keyringManager := by
  rw [step_of_message hm]
  rfl

/-- **A request that is let in** is entered, and its client waits. -/
theorem pends_of_asked (ha : Aside socket (fun _ => False) d)
    (hm : d.message? i = some (.pinentryRequest, socket, msg))
    (hc : (d.pinentryRequestOf W socket msg).cookie = c)
    (hcon : d.agent.isConnected socket = true) (hadm : d.admits socket c = true) :
    Pends socket c (d.pinentryRequestOf W socket msg).confirmOnly (d.step W i) := by
  have hclients := clients_of_message (W := W) (.inl hm)
  refine ⟨(firstWritten_of_asked hm ha.kept).2, fun c' r hr hs => ?_, fun c' r hr hs => ?_, ?_, ?_⟩
  · rw [keyring_of_asked hm] at hr
    exact ha.keyring c' r hr hs
  · by_contra hne
    have hr' : ((d.step W i).flow c').pending = some r := hr
    rw [step_of_message hm] at hr'
    rcases flow_pinentryRequest W d c' msg socket with ⟨-, heq⟩ | ⟨⟨hc', -⟩, -⟩
    · exact ha.pinentry c' r ((congrArg Flow.pending heq).symm.trans hr') hs
    · exact hne (hc'.symm.trans hc)
  · rw [isConnected_of_clients hclients, hcon]
  · exact ⟨_, pending_of_owner hm hc (admits_iff.1 hadm), by simp [pinentryRequestOf], rfl⟩

/-- **A request that is not let in** leaves its client aside. -/
theorem aside_of_refused (ha : Aside socket (fun _ => False) d)
    (hm : d.message? i = some (.pinentryRequest, socket, msg))
    (hc : (d.pinentryRequestOf W socket msg).cookie = c) (hadm : d.admits socket c = false) :
    Aside socket (fun _ => False) (d.step W i) := by
  refine ⟨(firstWritten_of_asked hm ha.kept).2, fun c' r hr hs => ?_, fun c' r hr => ?_⟩
  · rw [keyring_of_asked hm] at hr
    exact ha.keyring c' r hr hs
  · have hr' : ((d.step W i).flow c').pending = some r := hr
    rw [step_of_message hm] at hr'
    rcases flow_pinentryRequest W d c' msg socket with ⟨-, heq⟩ | ⟨⟨hc', ho⟩, -⟩
    · exact ha.pinentry c' r ((congrArg Flow.pending heq).symm.trans hr')
    · obtain rfl : c' = c := hc'.symm.trans hc
      rw [admits_iff.2 ho] at hadm
      cases hadm

end

/-! ## While it waits -/

/-- **A decision is told to the pinentry**, before anything else. -/
theorem Pends.decided (h : Pends socket c confirmOnly d) {v : Verdict}
    (hv : d.pinentryDecision c i = some v) :
    d.firstWritten W socket i = some (PinentryManager.verdictReply c confirmOnly v) := by
  obtain ⟨hk, hv⟩ := pinentryDecision_eq_some hv
  obtain ⟨u, msg, ha, rfl, hcase⟩ := decision_eq_some hv
  obtain ⟨request, hp, rfl, rfl⟩ := h.pending
  -- what is done to the session tells the pinentry nothing, then it is told the reply
  have hsaid : ∀ (reply : QJsonObject) (r : PinentryManager × Agent), Calls W ∅ d.agent r.2 →
      (d.step W i).agent.log =
        (((d.withPinentry r).sendJson request.socket reply).sendJson u ok).agent.log →
      d.firstWritten W request.socket i = some reply := by
    intro reply r hcalls hlog
    have ho : Obeys (mute request.socket) d.agent r.2 :=
      Calls.obeys hcalls open_mute (fun s hs => absurd hs (Set.notMem_empty s)) fun _ => trivial
    obtain ⟨-, os, hos, hmute⟩ := ho h.kept
    have hconn : r.2.isConnected request.socket = true := by
      rw [isConnected_of_clients (Calls.clients W hcalls), h.connected]
    simp only [sendJson, withAgent, withPinentry, sendJson_log, hconn, if_true, hos] at hlog
    rw [firstWritten, hlog, List.append_assoc, List.append_assoc, List.drop_left,
      List.findSome?_append, List.findSome?_eq_none_iff.2 hmute]
    simp [Output.toSocket]
  rcases hcase with ⟨rfl, hm⟩ | ⟨rfl, hm⟩
  · refine hsaid _ ((d.pinentryManager.handleResponse (messageId msg) (messageResponse msg)).2,
      d.agent) .refl ?_
    rw [step_of_message hm]
    simp only [dispatch, handleRespond, respond_of_pinentry ha hk hp,
      PinentryManager.verdictReply, PinentryManager.handleResponse_eq hp]
  · refine hsaid _ (d.pinentryManager.closeFlow W d.agent (messageId msg) .cancelled)
      (PinentryManager.calls_closeFlow W d.agent d.pinentryManager (messageId msg) .cancelled "") ?_
    rw [step_of_message hm]
    simp only [dispatch, handleCancel, cancel_of_pinentry ha hk hp, PinentryManager.verdictReply]

/-- **Without a decision the pinentry is told nothing** by what others send. -/
theorem Pends.quiet (h : Pends socket c confirmOnly d) (hi : i.client ≠ some socket)
    (hv : d.pinentryDecision c i = none) :
    d.firstWritten W socket i = none ∧ Kept (mute socket) (d.step W i).agent := by
  have hclient : ∀ s, i.client = some s → s ≠ socket := fun s hs heq => hi (heq ▸ hs)
  have ho : Obeys (mute socket) d.agent (d.step W i).agent := by
    refine obeys_step W open_mute (fun _ => trivial) hclient (mute_edit hclient) mute_of_isPolkit
      fun s j hj => if_neg ?_
    cases hj with
    | plain hs hp => exact hclient s hs
    | replayed hm hsess hj => exact hclient s (client_of_message? hm)
    | next hm hq => exact hclient s (client_of_message? hm)
    | keyring hd hr ht => exact h.keyring _ _ hr
    | pinentry hd hk hr ht hid =>
        exact fun hs => not_decides_of_none hv hd hk (h.pinentry _ _ hr hs)
  exact ⟨findSome?_of_obeys ho h.kept, (ho h.kept).1⟩

/-- What others send enters nothing for the socket. -/
theorem Pends.entries (h : Pends socket c confirmOnly d) (hh : d.Heaped)
    (hi : i.client ≠ some socket) :
    (∀ c r, (d.step W i).keyringManager.pendingRequests.lookup c = some r → r.socket ≠ socket) ∧
    ∀ c' r, (d.step W i).pinentryManager.pendingRequests.lookup c' = some r →
      r.socket = socket → c' = c := by
  refine ⟨fun c' r hr hs => ?_, fun c' r hr hs => ?_⟩
  · rcases (flowStep W c' hh i).keyring hr with hk | ⟨-, s, msg, hm, -, hsock⟩
    · exact h.keyring c' r hk hs
    · exact absurd (client_of_message? (hsock.symm.trans hs ▸ hm)) hi
  · rcases (flowStep W c' hh i).pending hr with hp | ⟨msg, hm⟩
    · exact h.pinentry c' r hp hs
    · exact absurd (client_of_message? (hs ▸ hm)) hi

/-- **It waits on** unless it is decided or abandoned. -/
theorem Pends.step (h : Pends socket c confirmOnly d) (hans : Answering d) (hh : d.Heaped)
    (hi : i.client ≠ some socket) (hv : d.pinentryDecision c i = none)
    (hn : ¬ Abandons W socket c d i) : Pends socket c confirmOnly (d.step W i) := by
  obtain ⟨hkey, hpin⟩ := h.entries (W := W) hh hi
  have hconn : (d.step W i).agent.isConnected socket = true := isConnected_step h.connected hi
  obtain ⟨r, hr, hs, hb⟩ := h.pending
  refine ⟨(h.quiet hi hv).2, hkey, hpin, hconn, r, ?_, hs, hb⟩
  rcases replies_of_boundTo hans ⟨r, hr, hs⟩ h.connected hconn hn with ⟨-, hstay⟩ | ⟨hone, -⟩
  · exact hstay.trans hr
  · have hnd : ¬ Decided socket c d i := by
      rintro ⟨u, msg, hd, hid, hk, -⟩
      exact not_decides_of_none hv hd (hid ▸ hk) hid
    rw [replies_of_not_decided hans.quiet hnd] at hone
    cases hone

/-- **An abandoned request waits for nothing.** -/
theorem Pends.abandoned (h : Pends socket c confirmOnly d) (hc : c ≠ "") (hh : d.Heaped)
    (hi : i.client ≠ some socket) (hv : d.pinentryDecision c i = none)
    (hn : Abandons W socket c d i) : Aside socket (fun _ => False) (d.step W i) := by
  obtain ⟨hkey, hpin⟩ := h.entries (W := W) hh hi
  refine ⟨(h.quiet hi hv).2, fun c' r hr hs => hkey c' r hr hs, fun c' r hr hs => ?_⟩
  obtain rfl := hpin c' r hr hs
  obtain ⟨-, hn⟩ := hn
  split at hn
  next s msg hm =>
    obtain ⟨hcookie, hn⟩ := hn
    split at hn
    next howner =>
      -- the newer request is another socket's
      rw [pending_of_owner hm hcookie howner] at hr
      obtain rfl := Option.some.inj hr
      have hsock : s = socket := by simpa [pinentryRequestOf] using hs
      exact hi (hsock ▸ client_of_message? hm)
    · exact hi (hn ▸ client_of_message? hm)
  next s msg hm =>
    obtain ⟨rfl, -, ho, hsess, hres, hne⟩ := hn
    rw [pending_of_reported hm ho hsess hres hne hc] at hr
    cases hr
  · exact hn

/-! ## Runs -/

/-- **What a waiting pinentry is told first**: the reply to the decision, or
nothing where it is disturbed. -/
theorem firstFrom_of_pends (hc : c ≠ "") : ∀ (post ins : List Input),
    Pends socket c confirmOnly ((machine W).run ins) → (∀ i ∈ post, i.client ≠ some socket) →
    (machine W).firstFrom (firstWritten W socket) ((machine W).run ins) post =
      (if disturbed W socket c ((machine W).run ins) post then none
        else (machine W).firstFrom (pinentryDecision c) ((machine W).run ins) post).map
        (PinentryManager.verdictReply c confirmOnly)
  | [], ins, _, _ => by simp [Machine.firstFrom]
  | i :: post, ins, h, hpost => by
      have hi := hpost i List.mem_cons_self
      have hrest : ∀ j ∈ post, j.client ≠ some socket := fun j hj =>
        hpost j (List.mem_cons_of_mem _ hj)
      have hh := heaped_run W ins
      have hrun : (machine W).run (ins ++ [i]) = ((machine W).run ins).step W i :=
        Machine.run_snoc ..
      cases hv : ((machine W).run ins).pinentryDecision c i with
      | some v => simp [Machine.firstFrom, disturbed, hv, h.decided (W := W) hv]
      | none =>
          rw [Machine.firstFrom_cons_of_none (h.quiet (W := W) hi hv).1,
            Machine.firstFrom_cons_of_none hv]
          simp only [disturbed, hv, Option.isSome_none, Bool.false_eq_true, if_false]
          by_cases hn : Abandons W socket c ((machine W).run ins) i
          · have haside := h.abandoned hc hh hi hv hn
            rw [← hrun] at haside
            have hfirst := (firstFrom_of_aside post (ins ++ [i]) haside hrest).1
            rw [hrun] at hfirst
            simp only [decide_eq_true hn, Bool.true_or, if_true]
            exact hfirst
          · have hnext := h.step (answering_run W ins) hh hi hv hn
            rw [← hrun] at hnext
            have hih := firstFrom_of_pends hc post (ins ++ [i]) hnext hrest
            rw [hrun] at hih
            simp only [decide_eq_false hn, Bool.false_or]
            exact hih

/-- **What a pinentry is told first**: the reply to the verdict on its
request. -/
theorem firstFrom_of_pinentryRequest (hc : c ≠ "") (pid : Pid) {pre between post : List Input}
    {msg : QJsonObject} (hcookie : (msg.value "cookie").toString = c)
    (htype : (msg.value "type").toString = "pinentry_request")
    (hnew : socket ∉ ((machine W).run pre).agent.clients)
    (halone : ∀ i ∈ between ++ post, i.client ≠ some socket) :
    let request : Input := .line socket (some msg)
    (machine W).firstFrom (firstWritten W socket) ((machine W).run pre)
        (.newConnection socket pid :: (between ++ request :: post)) =
      (verdict W socket c ((machine W).run (pre ++ .newConnection socket pid :: between)) request
        post).map (PinentryManager.verdictReply c (msg.value "confirm_only").toBool) := by
  have hpost : ∀ i ∈ post, i.client ≠ some socket := fun i hi =>
    halone i (List.mem_append_right _ hi)
  have hbetween : ∀ i ∈ between, i.client ≠ some socket := fun i hi =>
    halone i (List.mem_append_left _ hi)
  obtain ⟨hasking, hconn, hfirst⟩ := aside_of_connected (W := W) pid hnew hbetween
    (.line socket (some msg) :: post)
  dsimp only
  rw [hfirst, verdict]
  generalize pre ++ .newConnection socket pid :: between = asked at hasking hconn ⊢
  have hrun : (machine W).run (asked ++ [.line socket (some msg)]) =
      ((machine W).run asked).step W (.line socket (some msg)) := Machine.run_snoc ..
  cases hf : ((machine W).run asked).listener.useAfterFree with
  | true =>
      have hsilent := firstFrom_of_useAfterFree (W := W) socket hf
        (.line socket (some msg) :: post)
      have hundecided : (machine W).firstFrom (pinentryDecision c) ((machine W).run asked) post =
          none := by
        refine Machine.firstFrom_of_stuck (fun j => step_of_useAfterFree hf) (fun j => ?_) post
        rw [pinentryDecision, decision_of_useAfterFree hf, ite_self]
      rw [hsilent.1, step_of_useAfterFree hf, hundecided]
      simp
  | false =>
      have hv := isValid_of_isConnected (hconn hf)
      have hm : ((machine W).run asked).message? (.line socket (some msg)) =
          some (.pinentryRequest, socket, msg) := by
        simp [message?, hf, hv, htype, handlers, List.lookup_cons]
      obtain ⟨hnone, -⟩ := firstWritten_of_asked (W := W) hm hasking.kept
      have hreq : (((machine W).run asked).pinentryRequestOf W socket msg).cookie = c := by
        simp [pinentryRequestOf, PinentryManager.readRequest,
          PinentryManager.parsePinentryRequest, hcookie, hc]
      have hconfirm : (((machine W).run asked).pinentryRequestOf W socket msg).confirmOnly =
          (msg.value "confirm_only").toBool := by
        simp [pinentryRequestOf, PinentryManager.readRequest,
          PinentryManager.parsePinentryRequest, hcookie, hc]
      rw [Machine.firstFrom_cons_of_none hnone]
      cases hadm : ((machine W).run asked).admits socket c with
      | true =>
          have hpends := pends_of_asked (W := W) hasking hm hreq (hconn hf) hadm
          rw [← hrun, hconfirm] at hpends
          have hsaid := firstFrom_of_pends hc post _ hpends hpost
          rw [hrun] at hsaid
          refine hsaid.trans ?_
          cases disturbed W socket c
            (((machine W).run asked).step W (.line socket (some msg))) post <;> rfl
      | false =>
          have haside := aside_of_refused (W := W) hasking hm hreq hadm
          rw [← hrun] at haside
          have hsaid := (firstFrom_of_aside post _ haside hpost).1
          rw [hrun] at hsaid
          exact hsaid

end Daemon

namespace PinentrySession

open Assuan Daemon

/-- The commands that prompt the user. -/
inductive Prompting where
  | getPin
  | confirm
  deriving DecidableEq

namespace Prompting

/-- The session as it sends its request. -/
def asking (P : PinentryWorld) (s : PinentrySession) : Prompting → PinentrySession
  | .getPin => (s.reportRetry P).ensureFlowCookie P
  | .confirm => s.ensureFlowCookie P

/-- The request it sends. -/
def request (t : PinentrySession) : Prompting → QJsonObject
  | .getPin => passwordRequest t.state t.flowCookie
  | .confirm => confirmRequest t.state t.flowCookie

/-- The command as `handleCommand` carries it out. -/
def handle (P : PinentryWorld) (s : PinentrySession) : Prompting → PinentrySession
  | .getPin => s.handleGetPin P
  | .confirm => s.handleConfirm P

/-- **What gpg should be told**: the passphrase where one was typed, `OK`
where the user agreed, and else that the operation was cancelled. -/
def told : Prompting → Option Verdict → List Output
  | .getPin, some (.answered response) =>
    if response ≠ "" then [.data (assuanEncode response), .ok ""]
    else [.err 83886179 "Operation cancelled"]
  | .confirm, some (.answered _) => [.ok ""]
  | _, _ => [.err 83886179 "Operation cancelled"]

/-- Does the flow go on? -/
def granted : Option Verdict → Bool
  | some (.answered _) => true
  | _ => false

variable (P : PinentryWorld) (s : PinentrySession) (prompting : Prompting)

/-- Only a password request may be answered with a password. -/
theorem confirm_only_request (t : PinentrySession) :
    ((prompting.request t).value "confirm_only").toBool = decide (prompting = .confirm) := by
  cases prompting with
  | getPin => simp [request, passwordRequest, QJsonValue.toBool]
  | confirm => simp [request, confirmRequest, QJsonValue.toBool]

theorem type_request (t : PinentrySession) :
    ((prompting.request t).value "type").toString = "pinentry_request" := by
  cases prompting with
  | getPin => simp [request, passwordRequest]
  | confirm => simp [request, confirmRequest]

theorem cookie_request (t : PinentrySession) :
    ((prompting.request t).value "cookie").toString = t.flowCookie := by
  cases prompting with
  | getPin => simp [request, passwordRequest]
  | confirm => simp [request, confirmRequest]

theorem asking_flowCookie_ne : (prompting.asking P s).flowCookie ≠ "" := by
  cases prompting with
  | getPin => exact ensureFlowCookie_ne _
  | confirm => exact ensureFlowCookie_ne _

/-- **The reply is read as the verdict**, and no reply as none. -/
theorem handle_of_reply (cookie : String) (verdict : Option Verdict)
    (h : P.sendRequest (prompting.asking P s).requests = verdict.map
      (PinentryManager.verdictReply cookie (decide (prompting = .confirm)))) :
    (prompting.handle P s).log = (prompting.asking P s).log ++
        .request (prompting.request (prompting.asking P s)) :: prompting.told verdict ∧
      (prompting.handle P s).awaitingTerminalResult = granted verdict := by
  cases prompting with
  | getPin =>
      simp only [asking, request, ensureFlowCookie_requests] at h ⊢
      have hask := requestPassword_eq (W := P) (s.reportRetry P)
      rw [h] at hask
      simp only [handle, handleGetPin]
      rcases verdict with _ | _ | _
      · rw [hask]
        simp [told, granted, asked, sendRequest]
      · next response =>
          have hask' : (s.reportRetry P).requestPasswordFromDaemon P =
              (some response, ((s.reportRetry P).asked P).awaitResult) := by
            rw [hask]
            simp [PinentryManager.verdictReply, PinentryManager.answeredReply,
              QJsonObject.value, List.lookup_cons]
          rw [hask']
          by_cases hne : response = ""
          · simp [told, granted, asked, sendRequest, hne]
          · simp [told, granted, asked, sendRequest, hne]
      · rw [hask]
        simp [told, granted, asked, sendRequest, PinentryManager.verdictReply,
          PinentryManager.cancelledReply, QJsonObject.value, List.lookup_cons]
  | confirm =>
      simp only [asking, request, ensureFlowCookie_requests] at h ⊢
      simp only [handle, handleConfirm, requestConfirmFromDaemon, sendRequest,
        ensureFlowCookie_requests]
      rw [h]
      rcases verdict with _ | _ | _
      · simp [told, granted]
      · simp [told, granted, PinentryManager.verdictReply, PinentryManager.answeredReply,
          QJsonObject.value, List.lookup_cons]
      · simp [told, granted, PinentryManager.verdictReply, PinentryManager.cancelledReply,
          QJsonObject.value, List.lookup_cons]

/-- A `D` line decodes to the passphrase of the verdict. -/
theorem told_data {verdict : Option Verdict} {text : String}
    (h : .data text ∈ prompting.told verdict) :
    verdict = some (.answered (assuanDecode text.toList)) := by
  unfold told at h
  split at h
  next response =>
    split at h
    · rcases List.mem_cons.1 h with h | h
      · obtain rfl := Output.data.inj h
        have hback := decode_flatMap_encodeChar response.toList
        simp only [assuanDecode, assuanEncode, String.toList_ofList, hback, String.ofList_toList]
      · simp at h
    · simp at h
  · simp at h
  · simp at h

end Prompting

/-- **Gpg is told the verdict.** The pinentry connects after `pre`, writes
its request after `between`, and reads the first line the daemon writes to
it before it gives up, at the end of `post`. Then gpg is told what the first
decision about the flow says, and what it decodes from a `D` line is the
text that the provider answered with. An empty answer to a `GETPIN` is an
error to gpg and an answer to the session, which waits for the result. -/
theorem told_verdict (W : World) (P : PinentryWorld) (s : PinentrySession)
    (prompting : Prompting) (pid : Pid) {socket : Socket} {pre between post : List Input}
    (hnew : socket ∉ ((Daemon.machine W).run pre).agent.clients)
    (halone : ∀ i ∈ between ++ post, i.client ≠ some socket)
    (hreply : P.sendRequest (prompting.asking P s).requests =
      (Daemon.machine W).firstFrom (firstWritten W socket) ((Daemon.machine W).run pre)
        (.newConnection socket pid :: (between ++
          .line socket (some (prompting.request (prompting.asking P s))) :: post))) :
    let asked := prompting.asking P s
    let request : Input := .line socket (some (prompting.request asked))
    let decided := verdict W socket asked.flowCookie
      ((Daemon.machine W).run (pre ++ .newConnection socket pid :: between)) request post
    (prompting.handle P s).log =
        asked.log ++ .request (prompting.request asked) :: prompting.told decided ∧
      (prompting.handle P s).awaitingTerminalResult = Prompting.granted decided ∧
      ∀ text, .data text ∈ prompting.told decided →
        decided = some (.answered (assuanDecode text.toList)) := by
  have hfirst := firstFrom_of_pinentryRequest (W := W) (prompting.asking_flowCookie_ne P s) pid
    (prompting.cookie_request (prompting.asking P s)) (prompting.type_request _) hnew halone
  rw [prompting.confirm_only_request] at hfirst
  obtain ⟨hlog, hgoes⟩ := prompting.handle_of_reply P s _ _ (hreply.trans hfirst)
  exact ⟨hlog, hgoes, fun text h => prompting.told_data h⟩

/-- A passphrase with a percent sign in it comes through. -/
theorem told_verdict_percent :
    (Prompting.getPin.handle (PinentryWorld.constant [("type", "pinentry_response"), ("id", "u"),
        ("result", "ok"), ("password", "50%")]) {}).log =
      [.request (passwordRequest {} "u"), .data "50%25", .ok ""] := by
  have hnew :
      1 ∉ ((Daemon.machine (World.plain (fun _ => 0) false)).run provided).agent.clients := by
    decide
  have halone : ∀ i ∈ [] ++ [Input.line 2 (some (respondMessage "u" "50%"))],
      i.client ≠ some 1 := by decide
  have h := (told_verdict (World.plain (fun _ => 0) false)
    (PinentryWorld.constant [("type", "pinentry_response"), ("id", "u"), ("result", "ok"),
      ("password", "50%")]) {} .getPin 100 hnew halone (by decide)).1
  rw [h]
  decide

end PinentrySession

end BbAuth
