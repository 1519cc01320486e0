import BbAuth.Flow.Disconnect
import BbAuth.Flow.Recipient
import BbAuth.Flow.Speech
import BbAuth.Model.KeyringPrompter
/-!
# What a keyring prompt returns

The prompter connects, writes its request and reads one line. While it
waits it is aside: it neither listens nor provides, and the daemon keeps one
thing for it, the request. So the first line it is sent decides what its
call returns, and that line is the reply to the first decision about its
session; unless another request under the same cookie has taken the entry
out before.

Both kinds of prompt are replied to alike, and a confirmation that was
accepted is not told apart from a password.
-/

namespace BbAuth

open Agent

/-- The message that an output is to `socket`. -/
def Output.toSocket (socket : Socket) : Output → Option QJsonObject
  | .sent s j => if s = socket then some j else none
  | _ => none

/-- What a provider decides about a session. -/
inductive Verdict where
  | answered (response : String)
  | cancelled
  deriving DecidableEq

namespace KeyringManager

/-- The reply to an answered request. -/
def answeredReply (cookie response : String) : QJsonObject :=
  [("type", "keyring_response"), ("id", cookie), ("result", "ok"), ("password", response)]

/-- The reply to a cancelled request. -/
def cancelledReply (cookie : String) : QJsonObject :=
  [("type", "keyring_response"), ("result", "cancelled"), ("id", cookie)]

/-- The reply to a decision. -/
def verdictReply (cookie : String) : Verdict → QJsonObject
  | .answered response => answeredReply cookie response
  | .cancelled => cancelledReply cookie

end KeyringManager

namespace KeyringPrompt

open KeyringManager

/-- **What the call should return**: the password that was typed, or
whether the prompt was accepted. -/
def expected : KeyringPrompt → Verdict → Bool × Option String
  | .password .., .answered response => (true, some response)
  | .confirm .., .answered _ => (true, none)
  | _, .cancelled => (false, none)

/-- **The prompt understands the decision**: it is a cancellation, or a
password without a NUL. -/
def Understands : KeyringPrompt → Verdict → Prop
  | .password .., .answered response => '\x00' ∉ response.toList
  | .confirm .., .answered _ => False
  | _, .cancelled => True

variable (prompt : KeyringPrompt) (cookie : String)

/-- **The reply is read as the decision** exactly where the prompt
understands it. -/
theorem returns_verdictReply (v : Verdict) :
    prompt.returns (some (verdictReply cookie v)) = prompt.expected v ↔ prompt.Understands v := by
  have htype : cString "keyring_response" = "keyring_response" := by decide
  have hok : cString "ok" = "ok" := by decide
  have hcancelled : cString "cancelled" = "cancelled" := by decide
  cases v with
  | answered response =>
      cases prompt <;>
        simp [returns, expected, Understands, KeyringPrompter.sendKeyringRequest,
          KeyringPrompter.sendConfirmRequest, KeyringPrompter.keyringResult, verdictReply,
          answeredReply, QJsonObject.getStringMember, htype, hok, cString_eq_self]
  | cancelled =>
      cases prompt <;>
        simp [returns, expected, Understands, KeyringPrompter.sendKeyringRequest,
          KeyringPrompter.sendConfirmRequest, KeyringPrompter.keyringResult, verdictReply,
          cancelledReply, QJsonObject.getStringMember, htype, hcancelled]

/-- A collision error makes either kind return `FALSE`. -/
theorem returns_collisionError : prompt.returns (some collisionError) = (false, none) := by
  cases prompt <;> rfl

end KeyringPrompt

namespace Daemon

variable (W : World) (socket : Socket) (c : String) (d : Daemon) (i : Input)

/-- The first message one step writes to `socket`. -/
def firstWritten : Option QJsonObject :=
  ((d.step W i).agent.log.drop d.agent.log.length).findSome? (Output.toSocket socket)

/-- **The decision about the session `c`** that an input brings from the
authorized provider. -/
def decision : Option Verdict :=
  match d.message? i with
  | some (.sessionRespond, u, msg) =>
    if d.agent.isAuthorizedProviderSocket u ∧ messageId msg = c then
      some (.answered (messageResponse msg))
    else none
  | some (.sessionCancel, u, msg) =>
    if d.agent.isAuthorizedProviderSocket u ∧ messageId msg = c then some .cancelled else none
  | _ => none

/-- A keyring request is made under the cookie `c`. -/
def requestsKeyring : Bool :=
  match d.message? i with
  | some (.keyringRequest, _, msg) => KeyringManager.requestCookie W d.agent msg = c
  | _ => false

/-- Another keyring request is made under the cookie `c` before its session
is decided. -/
def contended : Daemon → List Input → Bool
  | _, [] => false
  | d, i :: rest =>
    if (d.decision c i).isSome then false
    else d.requestsKeyring W c i || contended (d.step W i) rest

/-- The input is a keyring request whose session id is taken. -/
def collides : Bool :=
  match d.message? i with
  | some (.keyringRequest, _, msg) =>
    (d.agent.getSession (KeyringManager.requestCookie W d.agent msg)).isSome
  | _ => false

/-- **The call returns the decision.** The prompter connects after `pre`,
writes its request after `between`, and is read the first line the daemon
writes to it: where the id is taken its call returns `FALSE`, and elsewhere
what the first decision about its session says. -/
def ReturnsDecision (prompt : KeyringPrompt) (cookie : String) (pid : Pid)
    (pre between post : List Input) : Prop :=
  let asking := (machine W).run (pre ++ .newConnection socket pid :: between)
  let request : Input := .line socket (some (prompt.request cookie))
  let id := KeyringManager.requestCookie W asking.agent (prompt.request cookie)
  ((machine W).firstFrom (firstWritten W socket) ((machine W).run pre)
      (.newConnection socket pid :: (between ++ request :: post))).map
        (fun line => prompt.returns (some line)) =
    if asking.collides W request then some (false, none)
    else ((machine W).firstFrom (decision id) (asking.step W request) post).map prompt.expected

instance (prompt : KeyringPrompt) (cookie : String) (pid : Pid) (pre between post : List Input) :
    Decidable (ReturnsDecision W socket prompt cookie pid pre between post) := by
  unfold ReturnsDecision
  infer_instance

/-! ## Nothing is said to a socket that stands aside -/

/-- **The policy that `socket` is told nothing.** -/
def mute (socket : Socket) : Policy where
  listener s := s ≠ socket
  queue q := socket ∉ q.nextWaiters
  event _ := True
  output o := o.toSocket socket = none
  emitted _ _ := rfl
  sent _ _ _ h := if_neg h
  drained q e hq _ := by
    constructor
    · exact fun hm => hq ((EventQueue.waiters_drain q.nextWaiters _).subset hm)
    · intro x hx
      refine if_neg fun heq => hq ?_
      exact heq ▸ EventQueue.fst_mem_of_mem_drain hx
  status _ _ h := if_neg h
  fallback _ _ _ := rfl

variable {W socket c d i}

theorem mute_of_isPolkit (o : Output) (ho : o.isPolkit = true) : (mute socket).output o := by
  cases o with
  | sent s j => cases ho
  | _ => rfl

theorem open_mute : (mute socket).Open where
  updated _ := trivial
  closed _ := trivial

/-- What obeys it writes nothing to the socket. -/
theorem findSome?_of_obeys {a b : Agent} (h : Obeys (mute socket) a b) (hk : Kept (mute socket) a) :
    (b.log.drop a.log.length).findSome? (Output.toSocket socket) = none :=
  List.findSome?_eq_none_iff.2 fun _ ho => Obeys.of_mem_drop h hk ho

variable (socket) in
/-- **The socket stands aside**: it does not listen, and no request is
pending for it but keyring requests of `P`. -/
structure Aside (P : String → Prop) (d : Daemon) : Prop where
  kept : Kept (mute socket) d.agent
  keyring : ∀ c r, d.keyringManager.pendingRequests.lookup c = some r → r.socket = socket → P c
  pinentry : ∀ c r, d.pinentryManager.pendingRequests.lookup c = some r → r.socket ≠ socket

theorem Forgotten.aside (h : d.Forgotten socket) : Aside socket (fun _ => False) d where
  kept := by
    refine ⟨fun s hs heq => h.subscribers (heq ▸ hs), fun s hs heq => h.uiProviders (heq ▸ hs),
      fun s hs heq => h.activeProvider (heq ▸ hs), h.nextWaiters⟩
  keyring c r hr hs := h.keyring c r hr hs
  pinentry := h.pinentry

variable {P : String → Prop}

/-- A decision is an authorized message about the session. -/
theorem decision_eq_none (h : d.decision c i = none) {u : Socket} {msg : QJsonObject}
    (hd : d.Decides i u msg) : messageId msg ≠ c := by
  obtain ⟨hm | hm, ha⟩ := hd <;>
  · intro hc
    simp [decision, hm, ha, hc] at h

theorem decision_eq_some {v : Verdict} (h : d.decision c i = some v) :
    ∃ u msg, d.agent.isAuthorizedProviderSocket u = true ∧ messageId msg = c ∧
      (v = .answered (messageResponse msg) ∧ d.message? i = some (.sessionRespond, u, msg) ∨
        v = .cancelled ∧ d.message? i = some (.sessionCancel, u, msg)) := by
  unfold decision at h
  split at h
  next u msg hm =>
    split at h
    next hc => exact ⟨u, msg, hc.1, hc.2, .inl ⟨(Option.some.inj h).symm, hm⟩⟩
    · cases h
  next u msg hm =>
    split at h
    next hc => exact ⟨u, msg, hc.1, hc.2, .inr ⟨(Option.some.inj h).symm, hm⟩⟩
    · cases h
  · cases h

/-- No waiter of another socket is this one. -/
theorem mute_edit {t : Socket → Prop} (ht : ∀ s, t s → s ≠ socket) (q q' : EventQueue)
    (h : QueueEdit t q q') (hq : (mute socket).queue q) : (mute socket).queue q' := by
  cases h with
  | same => exact hq
  | left s => exact fun hm => hq (List.mem_of_mem_filter hm)
  | waits s hs _ =>
      intro hm
      rcases List.mem_append.1 hm with hm | hm
      · exact hq hm
      · exact ht s hs (List.mem_singleton.1 hm).symm
  | taken e rest _ => exact hq

/-- The keyring entry that a message of another socket leaves. -/
theorem Aside.entries (h : Aside socket P d) (hh : d.Heaped) (hi : i.client ≠ some socket) :
    (∀ c r, (d.step W i).keyringManager.pendingRequests.lookup c = some r →
      r.socket = socket → P c) ∧
    ∀ c r, (d.step W i).pinentryManager.pendingRequests.lookup c = some r →
      r.socket ≠ socket := by
  refine ⟨fun c r hr hs => ?_, fun c r hr hs => ?_⟩
  · rcases (flowStep W c hh i).keyring hr with hk | ⟨-, s, msg, hm, -, hsock⟩
    · exact h.keyring c r hk hs
    · exact absurd (client_of_message? (hsock.symm.trans hs ▸ hm)) hi
  · rcases (flowStep W c hh i).pending hr with hp | ⟨msg, hm⟩
    · exact h.pinentry c r hp hs
    · exact absurd (client_of_message? (hs ▸ hm)) hi

/-- **A socket that stands aside is told nothing** by the input of another
that decides none of its requests, and stands aside still. -/
theorem Aside.step (h : Aside socket P d) (hh : d.Heaped) (hi : i.client ≠ some socket)
    (hn : ∀ u msg, d.Decides i u msg → ¬ P (messageId msg)) :
    d.firstWritten W socket i = none ∧ Aside socket P (d.step W i) := by
  have hclient : ∀ s, i.client = some s → s ≠ socket := fun s hs heq => hi (heq ▸ hs)
  have ho : Obeys (mute socket) d.agent (d.step W i).agent := by
    refine obeys_step W open_mute (fun _ => trivial) hclient (mute_edit hclient) mute_of_isPolkit
      fun s j hj => if_neg ?_
    cases hj with
    | plain hs hp => exact hclient s hs
    | replayed hm hsess hj => exact hclient s (client_of_message? hm)
    | next hm hq => exact hclient s (client_of_message? hm)
    | keyring hd hr ht => exact fun hs => hn _ _ hd (h.keyring _ _ hr hs)
    | pinentry hd hk hr ht hid => exact h.pinentry _ _ hr
  obtain ⟨hkey, hpin⟩ := h.entries (W := W) hh hi
  exact ⟨findSome?_of_obeys ho h.kept, (ho h.kept).1, hkey, hpin⟩

/-! ## A stranger stands aside -/

theorem step_of_useAfterFree (h : d.listener.useAfterFree = true) : d.step W i = d := by
  simp [Daemon.step, h]

/-- What a socket that is no client sends is nothing, unless it connects. -/
theorem step_of_stranger (hs : socket ∉ d.agent.clients) (hi : i.client = some socket) :
    d.step W i = d ∨ socket ∈ (d.step W i).agent.clients := by
  have hv : d.agent.isValid socket = false := Table.contains_eq_false.2 hs
  cases hf : d.listener.useAfterFree with
  | true => exact .inl (step_of_useAfterFree hf)
  | false =>
      cases i with
      | newConnection s pid =>
          obtain rfl : s = socket := Option.some.inj hi
          refine .inr ?_
          simp [Daemon.step, hf, handle, hv, withAgent]
      | closing s =>
          obtain rfl : s = socket := Option.some.inj hi
          have hl : d.agent.clients.lookup s = none := AList.lookup_eq_none.2 hs
          exact .inl (by simp [Daemon.step, hf, handle, hl])
      | line s doc =>
          obtain rfl : s = socket := Option.some.inj hi
          exact .inl (by simp [Daemon.step, hf, handle, hv])
      | disconnected s =>
          obtain rfl : s = socket := Option.some.inj hi
          exact .inl (by simp [Daemon.step, hf, handle, hv])
      | _ => cases hi

/-- The clean-up after a disconnect leaves the socket aside. -/
theorem aside_disconnected (hw : Wired W d) (hs : socket ∈ d.agent.clients)
    (hf : d.listener.useAfterFree = false) :
    Aside socket (fun _ => False) (d.step W (.disconnected socket)) := by
  have hv : d.agent.isValid socket = true := Table.contains_eq_true.2 hs
  have hstep : d.step W (.disconnected socket) = (d.hungUp W socket).socketDeleted socket := by
    simp [Daemon.step, hf, handle, hv, hungUp]
  have ha := (forgotten_hungUp W (s := socket) hw).aside
  rw [hstep]
  refine ⟨⟨ha.kept.subscribers, ha.kept.providers, fun s hs => ?_, ha.kept.queue⟩, ha.keyring,
    ha.pinentry⟩
  simp only [socketDeleted, withAgent, setRegistry_providerRegistry] at hs
  split at hs
  · cases hs
  · exact ha.kept.active s hs

/-- **A socket that is no client stands aside**, in every state of a run. -/
theorem aside_of_stranger (W : World) (ins : List Input) :
    ∀ socket, socket ∉ ((machine W).run ins).agent.clients →
      Aside socket (fun _ => False) ((machine W).run ins) := by
  induction ins using List.reverseRecOn with
  | nil =>
      intro socket _
      refine ⟨⟨?_, ?_, ?_, ?_⟩, ?_, ?_⟩ <;> simp [machine, mute]
  | append_singleton ins i ih =>
      intro socket hout
      have hrun : (machine W).run (ins ++ [i]) = ((machine W).run ins).step W i :=
        Machine.run_snoc ..
      rw [hrun] at hout ⊢
      by_cases hin : socket ∈ ((machine W).run ins).agent.clients
      · -- it was a client and is none any more
        obtain ⟨client, hc⟩ := Table.mem_iff_exists.1 hin
        by_cases hi : i = .disconnected socket
        · subst hi
          cases hf : ((machine W).run ins).listener.useAfterFree with
          | true =>
              rw [step_of_useAfterFree hf] at hout
              exact absurd hin hout
          | false => exact aside_disconnected (wired_run W ins) hin hf
        · obtain ⟨client', hc', -⟩ := peer_step W hc hi
          exact absurd (Table.mem_iff_exists.2 ⟨client', hc'⟩) hout
      · have ha := ih socket hin
        by_cases hi : i.client = some socket
        · rcases step_of_stranger (W := W) hin hi with heq | hmem
          · rwa [heq]
          · exact absurd hmem hout
        · exact (ha.step (heaped_run W ins) hi fun _ _ _ => id).2

/-! ## The request -/

/-- **The prompt for `c` waits**: its socket stands aside and is connected,
and its request is pending. -/
structure Prompting (socket : Socket) (c : String) (d : Daemon) : Prop where
  aside : Aside socket (fun c' => c' = c) d
  connected : d.agent.isConnected socket = true
  pending : ∃ r, d.keyringManager.pendingRequests.lookup c = some r ∧ r.socket = socket

/-- A client stays connected while others speak. -/
theorem isConnected_step (hc : d.agent.isConnected socket = true)
    (hi : i.client ≠ some socket) : (d.step W i).agent.isConnected socket = true := by
  have hstep := clients_step W (d := d) i
  simp only [Agent.isConnected] at hc ⊢
  generalize (d.step W i).agent.clients = t at hstep
  have hne : ∀ s, i.client = some s → socket ≠ s := fun s hs heq => hi (heq ▸ hs)
  cases hstep with
  | same => exact hc
  | connected s pid hi' hn => simpa [hne s (hi' ▸ rfl)] using hc
  | closing s client hi' hl => simpa [hne s (hi' ▸ rfl)] using hc
  | disconnected s hi' => simpa [hne s (hi' ▸ rfl)] using hc

section

variable {msg : QJsonObject}

/-- **A request whose id is taken** is told so at once. -/
theorem firstWritten_of_collides (hm : d.message? i = some (.keyringRequest, socket, msg))
    (h : d.collides W i = true) : d.firstWritten W socket i = some collisionError := by
  simp only [collides, hm, Option.isSome_iff_exists] at h
  obtain ⟨s, hs⟩ := h
  obtain ⟨-, -, hv, -⟩ := message?_cases hm
  have hlog : (d.step W i).agent.log = d.agent.log ++ [.sent socket collisionError] := by
    rw [step_of_message hm]
    refine (congrArg Agent.log (KeyringManager.handleRequest_of_some W d.agent d.keyringManager hs
      socket (d.agent.getPeerPid socket))).trans ?_
    rw [writeJson, if_pos (show d.agent.ticked.isValid socket = true from hv)]
    rfl
  rw [firstWritten, hlog, List.drop_left]
  simp [Output.toSocket]

/-- **A request whose id is free** is entered, and its client waits. -/
theorem prompting_of_asked (ha : Aside socket (fun _ => False) d)
    (hm : d.message? i = some (.keyringRequest, socket, msg))
    (hc : KeyringManager.requestCookie W d.agent msg = c)
    (hcon : d.agent.isConnected socket = true) (h : d.collides W i = false) :
    d.firstWritten W socket i = none ∧ Prompting socket c (d.step W i) := by
  subst hc
  simp only [collides, hm, Option.isSome_eq_false_iff, Option.isNone_iff_eq_none] at h
  have hcalls := KeyringManager.calls_handleRequest_of_none W d.agent d.keyringManager h socket
    (d.agent.getPeerPid socket)
  have ho : Obeys (mute socket) d.agent (d.step W i).agent := by
    rw [step_of_message hm]
    exact Calls.obeys hcalls open_mute (fun s hs => absurd hs (Set.notMem_empty s)) fun _ => trivial
  have hflow : ∀ c', (d.step W i).flow c' = if c' = KeyringManager.requestCookie W d.agent msg then
      (d.flow c').keyringAsked (KeyringManager.readRequest c' msg socket
        (d.agent.getPeerPid socket)) else d.flow c' := by
    intro c'
    rw [step_of_message hm]
    exact flow_keyringRequest W d c' msg socket (d.agent.getPeerPid socket)
  have hclients : (d.step W i).agent.clients = d.agent.clients := by
    rw [step_of_message hm]
    exact Calls.clients W hcalls
  have hfree : (d.flow (KeyringManager.requestCookie W d.agent msg)).life.source = none :=
    (getSession_eq_none _ _).1 h
  refine ⟨findSome?_of_obeys ho ha.kept, ⟨(ho ha.kept).1, fun c' r hr hs => ?_,
    fun c' r hr hs => ?_⟩, ?_, ?_⟩
  · by_contra hne
    have hr' : ((d.step W i).flow c').keyring = some r := hr
    rw [hflow, if_neg hne] at hr'
    exact ha.keyring c' r hr' hs
  · have hr' : ((d.step W i).flow c').pending = some r := hr
    rw [hflow] at hr'
    split at hr' <;> exact ha.pinentry c' r hr' hs
  · rw [isConnected_of_clients hclients, hcon]
  · have hr := congrArg Flow.keyring (hflow (KeyringManager.requestCookie W d.agent msg))
    rw [if_pos rfl, Flow.keyringAsked, if_pos hfree] at hr
    exact ⟨_, hr, rfl⟩

end

/-! ## While it waits -/

/-- **A decision is told to the prompt**, before anything else. -/
theorem Prompting.decided (h : Prompting socket c d) {v : Verdict} (hv : d.decision c i = some v) :
    d.firstWritten W socket i = some (KeyringManager.verdictReply c v) := by
  obtain ⟨u, msg, ha, rfl, hcase⟩ := decision_eq_some hv
  obtain ⟨request, hr, rfl⟩ := h.pending
  -- closing the session tells the prompt nothing, then it is told the reply
  have hsaid : ∀ (reply : QJsonObject) (r : KeyringManager × Agent), Calls W ∅ d.agent r.2 →
      (d.step W i).agent.log =
        (((d.withKeyring r).sendJson request.socket reply).sendJson u ok).agent.log →
      d.firstWritten W request.socket i = some reply := by
    intro reply r hcalls hlog
    have ho : Obeys (mute request.socket) d.agent r.2 :=
      Calls.obeys hcalls open_mute (fun s hs => absurd hs (Set.notMem_empty s)) fun _ => trivial
    obtain ⟨-, os, hos, hmute⟩ := ho h.aside.kept
    have hconn : r.2.isConnected request.socket = true := by
      rw [isConnected_of_clients (Calls.clients W hcalls), h.connected]
    simp only [sendJson, withAgent, withKeyring, sendJson_log, hconn, if_true, hos] at hlog
    rw [firstWritten, hlog, List.append_assoc, List.append_assoc, List.drop_left,
      List.findSome?_append, List.findSome?_eq_none_iff.2 hmute]
    simp [Output.toSocket]
  rcases hcase with ⟨rfl, hm⟩ | ⟨rfl, hm⟩
  · have hreply : (d.keyringManager.handleResponse W d.agent (messageId msg)
        (messageResponse msg)).1 =
          KeyringManager.answeredReply (messageId msg) (messageResponse msg) := by
      simp only [KeyringManager.handleResponse, hr, KeyringManager.answeredReply]
    refine hsaid _ (d.keyringManager.handleResponse W d.agent (messageId msg)
      (messageResponse msg)).2 (KeyringManager.calls_handleResponse W d.agent _ _ _) ?_
    rw [step_of_message hm]
    simp only [dispatch, handleRespond, respond_of_keyring ha hr, hreply,
      KeyringManager.verdictReply]
  · have hreply : (d.keyringManager.handleCancel W d.agent (messageId msg)).1 =
        KeyringManager.cancelledReply (messageId msg) := by
      simp only [KeyringManager.handleCancel, hr, KeyringManager.cancelledReply]
    refine hsaid _ (d.keyringManager.handleCancel W d.agent (messageId msg)).2
      (KeyringManager.calls_handleCancel W d.agent _ _) ?_
    rw [step_of_message hm]
    simp only [dispatch, handleCancel, cancel_of_keyring ha hr, hreply,
      KeyringManager.verdictReply]

/-- A refused decision leaves the keyring's table. -/
theorem keyring_of_refused {u : Socket} {msg : QJsonObject}
    (hm : d.message? i = some (.sessionRespond, u, msg) ∨
      d.message? i = some (.sessionCancel, u, msg))
    (ha : d.agent.isAuthorizedProviderSocket u = false) :
    (d.step W i).keyringManager = d.keyringManager := by
  rcases hm with hm | hm
  · rw [step_of_message hm]
    simp [dispatch, handleRespond, respond, ha, sendJson, withAgent]
  · rw [step_of_message hm]
    simp [dispatch, handleCancel, cancel, ha, sendJson, withAgent]

/-- **What becomes of a keyring entry**: it stays, unless its session is
decided, its cookie is asked for again, or its socket is gone. -/
theorem keyring_stays {r : KeyringRequest}
    (hr : d.keyringManager.pendingRequests.lookup c = some r) (hv : d.decision c i = none)
    (hq : d.requestsKeyring W c i = false) (hi : i.client ≠ some r.socket) :
    (d.step W i).keyringManager.pendingRequests.lookup c = some r := by
  have hk : (d.flow c).keyring = some r := hr
  show ((d.step W i).flow c).keyring = some r
  have hdecided : ∀ u msg, (d.message? i = some (.sessionRespond, u, msg) ∨
      d.message? i = some (.sessionCancel, u, msg)) → c = messageId msg →
      ((d.step W i).flow c).keyring = some r := by
    intro u msg hm hc
    have ha : d.agent.isAuthorizedProviderSocket u = false := by
      rw [← Bool.not_eq_true]
      exact fun ha => decision_eq_none hv ⟨hm, ha⟩ hc.symm
    have hkm : ((d.step W i).flow c).keyring = (d.flow c).keyring := by
      simp only [Daemon.flow, keyring_of_refused (W := W) hm ha]
    rw [hkm, hk]
  cases turn_step W d i with
  | same h' => rwa [h'.flow]
  | connected socket peerPid hi' hn h' => rwa [h']
  | closing socket client hi' hc h' => rwa [h']
  | keyringRequest socket msg hm h' =>
      rw [h', flow_keyringRequest]
      split
      next hc => simp [requestsKeyring, hm, hc] at hq
      · exact hk
  | keyringAnswer socket msg hm request hreq h' =>
      by_cases hc : c = messageId msg
      · exact hdecided socket msg (.inl hm) hc
      · rwa [h'.flow, flow_keyringAnswer W d c _ _ hreq, if_neg hc]
  | keyringCancel socket msg hm request hreq h' =>
      by_cases hc : c = messageId msg
      · exact hdecided socket msg (.inr hm) hc
      · rwa [h'.flow, flow_keyringCancel W d c _ hreq, if_neg hc]
  | pinentryRequest socket msg hm h' => rwa [h']
  | pinentryAnswer socket msg hm ha hkey request hreq h' => rwa [h'.flow]
  | pinentryResult socket msg hm h' => rwa [h'.flow]
  | pinentryCancel socket msg hm h' => rwa [h'.flow]
  | pinentryTimeout timer hi' h' => rwa [h']
  | disconnected socket hi' h' =>
      have hne : (d.flow c).keyring.map KeyringRequest.socket ≠ some socket := by
        rw [hk, Option.map_some, ne_eq, Option.some_inj]
        rintro rfl
        exact hi (hi' ▸ rfl)
      rwa [h'.flow, flow_cleaned, Flow.pinentryLeft_keyring, Flow.keyringLeft, if_neg hne]
  | listener call hn hs h' => rwa [h'.flow]

/-- **A contended prompt waits for nothing**: the request that finds its
session open takes its entry out. -/
theorem Prompting.contended (h : Prompting socket c d) (hh : d.Heaped)
    (hsane : (d.flow c).Sane c) (hi : i.client ≠ some socket) (hv : d.decision c i = none)
    (hq : d.requestsKeyring W c i = true) : Aside socket (fun _ => False) (d.step W i) := by
  have ha := (h.aside.step (W := W) hh hi fun _ _ hd => decision_eq_none hv hd).2
  refine ⟨ha.kept, fun c' r hr hs => ?_, ha.pinentry⟩
  obtain rfl := ha.keyring c' r hr hs
  obtain ⟨request, hreq, -⟩ := h.pending
  have hsrc : (d.flow c').life.source = some .keyring := hsane.keyring (Option.isSome_of_mem hreq)
  unfold requestsKeyring at hq
  split at hq
  next s msg hm =>
    have hr' : ((d.step W i).flow c').keyring = some r := hr
    rw [step_of_message hm] at hr'
    have hflow := flow_keyringRequest W d c' msg s (d.agent.getPeerPid s)
    rw [if_pos (of_decide_eq_true hq).symm] at hflow
    have hnone := congrArg Flow.keyring hflow
    rw [Flow.keyringAsked, hsrc] at hnone
    have := hnone.symm.trans hr'
    cases this
  · cases hq

/-! ## Runs -/

/-- **Nothing is ever said to a socket aside**, while only others speak. -/
theorem firstFrom_of_aside : ∀ (rest ins : List Input),
    Aside socket (fun _ => False) ((machine W).run ins) →
    (∀ i ∈ rest, i.client ≠ some socket) →
    (machine W).firstFrom (firstWritten W socket) ((machine W).run ins) rest = none ∧
      Aside socket (fun _ => False) ((machine W).run (ins ++ rest))
  | [], ins, ha, _ => ⟨rfl, by rwa [List.append_nil]⟩
  | i :: rest, ins, ha, hrest => by
      obtain ⟨hnone, hnext⟩ := ha.step (W := W) (heaped_run W ins) (hrest i List.mem_cons_self)
        fun _ _ _ => id
      have hrun : (machine W).run (ins ++ [i]) = ((machine W).run ins).step W i :=
        Machine.run_snoc ..
      rw [← hrun] at hnext
      obtain ⟨hfirst, hlast⟩ := firstFrom_of_aside rest (ins ++ [i]) hnext fun j hj =>
        hrest j (List.mem_cons_of_mem _ hj)
      rw [Machine.firstFrom_cons_of_none hnone]
      rw [hrun] at hfirst
      exact ⟨hfirst, by simpa using hlast⟩

theorem isConnected_run : ∀ (rest ins : List Input),
    ((machine W).run ins).agent.isConnected socket = true →
    (∀ i ∈ rest, i.client ≠ some socket) →
    ((machine W).run (ins ++ rest)).agent.isConnected socket = true
  | [], ins, hc, _ => by rwa [List.append_nil]
  | i :: rest, ins, hc, hrest => by
      have hnext := isConnected_step (W := W) hc (hrest i List.mem_cons_self)
      have hrun : (machine W).run (ins ++ [i]) = ((machine W).run ins).step W i :=
        Machine.run_snoc ..
      rw [← hrun] at hnext
      have hlast := isConnected_run rest (ins ++ [i]) hnext fun j hj =>
        hrest j (List.mem_cons_of_mem _ hj)
      simpa using hlast

/-- **What a waiting prompt is told first**: the reply to the decision, or
nothing where it is contended. -/
theorem firstFrom_of_prompting : ∀ (post ins : List Input),
    Prompting socket c ((machine W).run ins) → (∀ i ∈ post, i.client ≠ some socket) →
    (machine W).firstFrom (firstWritten W socket) ((machine W).run ins) post =
      if contended W c ((machine W).run ins) post then none
      else ((machine W).firstFrom (decision c) ((machine W).run ins) post).map
        (KeyringManager.verdictReply c)
  | [], ins, _, _ => rfl
  | i :: post, ins, h, hpost => by
      have hi := hpost i List.mem_cons_self
      have hrest : ∀ j ∈ post, j.client ≠ some socket := fun j hj =>
        hpost j (List.mem_cons_of_mem _ hj)
      have hrun : (machine W).run (ins ++ [i]) = ((machine W).run ins).step W i :=
        Machine.run_snoc ..
      cases hv : ((machine W).run ins).decision c i with
      | some v => simp [Machine.firstFrom, contended, hv, h.decided (W := W) hv]
      | none =>
          obtain ⟨hnone, ha⟩ := h.aside.step (W := W) (heaped_run W ins) hi fun _ _ hd =>
            decision_eq_none hv hd
          rw [Machine.firstFrom_cons_of_none hnone, Machine.firstFrom_cons_of_none hv]
          simp only [Daemon.contended, hv, Option.isSome_none, Bool.false_eq_true, if_false]
          cases hq : ((machine W).run ins).requestsKeyring W c i with
          | true =>
              have haside := h.contended (W := W) (heaped_run W ins) (sane_run W ins c) hi hv hq
              rw [← hrun] at haside
              have hfirst := (firstFrom_of_aside post (ins ++ [i]) haside hrest).1
              rw [hrun] at hfirst
              simp only [Bool.true_or, if_true]
              exact hfirst
          | false =>
              obtain ⟨r, hr, hs⟩ := h.pending
              have hnext : Prompting socket c (((machine W).run ins).step W i) :=
                ⟨ha, isConnected_step h.connected hi, r, keyring_stays hr hv hq (hs ▸ hi), hs⟩
              rw [← hrun] at hnext
              have hih := firstFrom_of_prompting post (ins ++ [i]) hnext hrest
              rw [hrun] at hih
              simp only [Bool.false_or]
              exact hih

/-- A connection is told nothing. -/
theorem firstWritten_newConnection (pid : Pid) :
    d.firstWritten W socket (.newConnection socket pid) = none := by
  have hlog : (d.step W (.newConnection socket pid)).agent.log = d.agent.log := by
    simp only [Daemon.step, handle]
    split
    · rfl
    · split <;> rfl
  rw [firstWritten, hlog]
  simp

/-- A client that has just connected stands aside. -/
theorem aside_newConnection (h : Aside socket P d) (pid : Pid) :
    Aside socket P (d.step W (.newConnection socket pid)) := by
  simp only [Daemon.step, handle]
  split
  · exact h
  · split
    · exact h
    · exact ⟨h.kept.of_eq rfl rfl rfl, h.keyring, h.pinentry⟩

/-- It is connected, unless the daemon has used freed memory. -/
theorem isConnected_newConnection (hs : socket ∉ d.agent.clients)
    (hf : d.listener.useAfterFree = false) (pid : Pid) :
    (d.step W (.newConnection socket pid)).agent.isConnected socket = true := by
  have hv : d.agent.isValid socket = false := Table.contains_eq_false.2 hs
  simp [Daemon.step, hf, handle, hv, withAgent, isConnected]

/-- What was used after free stays so. -/
theorem useAfterFree_run {ins : List Input} (rest : List Input)
    (h : ((machine W).run (ins ++ rest)).listener.useAfterFree = false) :
    ((machine W).run ins).listener.useAfterFree = false := by
  induction rest using List.reverseRecOn with
  | nil => rwa [List.append_nil] at h
  | append_singleton rest i ih =>
      refine ih ?_
      rw [← Bool.not_eq_true]
      intro hf
      rw [← List.append_assoc, Machine.run_snoc] at h
      have hstep : (machine W).step ((machine W).run (ins ++ rest)) i = _ := step_of_useAfterFree hf
      rw [hstep, hf] at h
      cases h

theorem message?_of_useAfterFree (h : d.listener.useAfterFree = true) : d.message? i = none := by
  unfold message?
  split
  · simp [h]
  · rfl

theorem firstWritten_of_useAfterFree (h : d.listener.useAfterFree = true) :
    d.firstWritten W socket i = none := by
  rw [firstWritten, step_of_useAfterFree h]
  simp

theorem decision_of_useAfterFree (h : d.listener.useAfterFree = true) :
    d.decision c i = none := by
  simp [decision, message?_of_useAfterFree h]

theorem isValid_of_isConnected {a : Agent} (h : a.isConnected socket = true) :
    a.isValid socket = true := by
  refine Table.contains_eq_true.2 (Table.mem_iff_exists.2 ?_)
  unfold isConnected at h
  split at h
  next client hc => exact ⟨client, hc⟩
  · cases h

/-- What is read off the reply is the decision, where there is one. -/
theorem map_returns_iff (prompt : KeyringPrompt) (cookie : String) (lost : Bool)
    (decided : Option Verdict) :
    ((if lost then none else decided.map (KeyringManager.verdictReply cookie)).map fun line =>
        prompt.returns (some line)) = decided.map prompt.expected ↔
      ∀ v, decided = some v → lost = false ∧ prompt.Understands v := by
  cases decided with
  | none => cases lost <;> simp
  | some v =>
      cases lost with
      | true => simp
      | false => simp [prompt.returns_verdictReply cookie v]

/-- **Until the request nothing is said to the prompter**: it is connected,
unless the daemon has used freed memory, and stands aside. -/
theorem aside_of_connected (pid : Pid) {pre between : List Input}
    (hnew : socket ∉ ((machine W).run pre).agent.clients)
    (hbetween : ∀ i ∈ between, i.client ≠ some socket) (rest : List Input) :
    let asking := (machine W).run (pre ++ .newConnection socket pid :: between)
    Aside socket (fun _ => False) asking ∧
      (asking.listener.useAfterFree = false → asking.agent.isConnected socket = true) ∧
      (machine W).firstFrom (firstWritten W socket) ((machine W).run pre)
          (.newConnection socket pid :: (between ++ rest)) =
        (machine W).firstFrom (firstWritten W socket) asking rest := by
  have hrun : (machine W).run (pre ++ [.newConnection socket pid]) =
      ((machine W).run pre).step W (.newConnection socket pid) := Machine.run_snoc ..
  have hsplit : pre ++ .newConnection socket pid :: between =
      (pre ++ [.newConnection socket pid]) ++ between := by simp
  have haside := aside_newConnection (W := W) (aside_of_stranger W pre socket hnew) pid
  rw [← hrun] at haside
  obtain ⟨hquiet, hasking⟩ := firstFrom_of_aside between _ haside hbetween
  dsimp only
  rw [hsplit]
  refine ⟨hasking, fun hf => ?_, ?_⟩
  · have hf' : ((machine W).run pre).listener.useAfterFree = false :=
      useAfterFree_run (.newConnection socket pid :: between) (by rwa [hsplit])
    have hc := isConnected_newConnection (W := W) hnew hf' pid
    rw [← hrun] at hc
    exact isConnected_run between _ hc hbetween
  · rw [Machine.firstFrom_cons_of_none (firstWritten_newConnection pid), Machine.firstFrom_append]
    have hstep : (machine W).step ((machine W).run pre) (.newConnection socket pid) =
        (machine W).run (pre ++ [.newConnection socket pid]) := hrun.symm
    rw [hstep, hquiet, Option.none_or]
    simp [Machine.run]

/-- After a use of freed memory nothing is said, and nothing is decided. -/
theorem firstFrom_of_useAfterFree (socket : Socket) (hf : d.listener.useAfterFree = true)
    (rest : List Input) :
    (machine W).firstFrom (firstWritten W socket) d rest = none ∧
      ∀ c, (machine W).firstFrom (decision c) d rest = none := by
  have hstuck : ∀ j, (machine W).step d j = d := fun j => step_of_useAfterFree hf
  exact ⟨Machine.firstFrom_of_stuck hstuck (fun j => firstWritten_of_useAfterFree hf) rest,
    fun c => Machine.firstFrom_of_stuck hstuck
      (fun j => decision_of_useAfterFree (c := c) (i := j) hf) rest⟩

/-- **What the prompter is told first** of a request that is taken. -/
theorem firstFrom_of_request {asked post : List Input} {j : QJsonObject}
    (ha : Aside socket (fun _ => False) ((machine W).run asked))
    (hc : ((machine W).run asked).agent.isConnected socket = true)
    (hm : ((machine W).run asked).message? (.line socket (some j)) =
      some (.keyringRequest, socket, j))
    (hcol : ((machine W).run asked).collides W (.line socket (some j)) = false)
    (hpost : ∀ i ∈ post, i.client ≠ some socket) :
    let id := KeyringManager.requestCookie W ((machine W).run asked).agent j
    let asking := ((machine W).run asked).step W (.line socket (some j))
    (machine W).firstFrom (firstWritten W socket) ((machine W).run asked)
        (.line socket (some j) :: post) =
      if contended W id asking post then none
      else ((machine W).firstFrom (decision id) asking post).map
        (KeyringManager.verdictReply id) := by
  obtain ⟨hnone, hprompting⟩ := prompting_of_asked ha hm rfl hc hcol
  have hrun : (machine W).run (asked ++ [.line socket (some j)]) =
      ((machine W).run asked).step W (.line socket (some j)) := Machine.run_snoc ..
  rw [← hrun] at hprompting
  have hsaid := firstFrom_of_prompting post _ hprompting hpost
  rw [hrun] at hsaid
  exact (Machine.firstFrom_cons_of_none hnone).trans hsaid

/-- **The call returns the decision** exactly where its id is taken, or no
other request comes under its cookie before the decision and the prompt
understands it. -/
theorem returnsDecision_iff {prompt : KeyringPrompt} {cookie : String} {pid : Pid}
    {pre between post : List Input} (hnew : socket ∉ ((machine W).run pre).agent.clients)
    (halone : ∀ i ∈ between ++ post, i.client ≠ some socket) :
    ReturnsDecision W socket prompt cookie pid pre between post ↔
      let asking := (machine W).run (pre ++ .newConnection socket pid :: between)
      let request : Input := .line socket (some (prompt.request cookie))
      let id := KeyringManager.requestCookie W asking.agent (prompt.request cookie)
      asking.collides W request = true ∨
        ∀ v, (machine W).firstFrom (decision id) (asking.step W request) post = some v →
          contended W id (asking.step W request) post = false ∧ prompt.Understands v := by
  have hpost : ∀ i ∈ post, i.client ≠ some socket := fun i hi =>
    halone i (List.mem_append_right _ hi)
  have hbetween : ∀ i ∈ between, i.client ≠ some socket := fun i hi =>
    halone i (List.mem_append_left _ hi)
  obtain ⟨hasking, hconn, hfirst⟩ := aside_of_connected (W := W) pid hnew hbetween
    (.line socket (some (prompt.request cookie)) :: post)
  rw [ReturnsDecision, hfirst]
  generalize pre ++ .newConnection socket pid :: between = asked at hasking hconn ⊢
  dsimp only
  cases hf : ((machine W).run asked).listener.useAfterFree with
  | true =>
      obtain ⟨hsilent, -⟩ := firstFrom_of_useAfterFree (W := W) socket hf
        (.line socket (some (prompt.request cookie)) :: post)
      obtain ⟨-, hundecided⟩ := firstFrom_of_useAfterFree (W := W) socket hf post
      rw [hsilent, step_of_useAfterFree hf, hundecided]
      simp [collides, message?_of_useAfterFree hf]
  | false =>
      have hm : ((machine W).run asked).message? (.line socket (some (prompt.request cookie))) =
          some (.keyringRequest, socket, prompt.request cookie) := by
        have hv := isValid_of_isConnected (hconn hf)
        simp [message?, hf, hv, handlers, List.lookup_cons]
      cases hcol : ((machine W).run asked).collides W
          (.line socket (some (prompt.request cookie))) with
      | true => simp [Machine.firstFrom, firstWritten_of_collides hm hcol,
          prompt.returns_collisionError]
      | false =>
          rw [firstFrom_of_request hasking (hconn hf) hm hcol hpost]
          exact (map_returns_iff prompt _ _ _).trans (by simp)

/-- A run up to a registered provider. -/
def provided : List Input :=
  [.newConnection 2 200, .line 2 (some [("type", "ui.register"), ("name", "ui")])]

/-- A password prompt that is answered: the call returns the password. -/
theorem returnsDecision_password :
    ReturnsDecision (World.plain (fun _ => 0) false) 1 (.password none none none none false) "k"
      100 provided [] [.line 2 (some (respondMessage "k" "secret"))] := by
  refine (returnsDecision_iff (by decide) (by decide)).2 (.inr fun v hv => ⟨by decide, ?_⟩)
  have hsecret : v = .answered "secret" := Option.some.inj (hv.symm.trans (by decide))
  rw [hsecret]
  show '\x00' ∉ "secret".toList
  decide

/-- A confirmation that is accepted: the call returns `FALSE`. -/
theorem not_returnsDecision :
    ¬ ∀ (W : World) (socket : Socket) (prompt : KeyringPrompt) (cookie : String) (pid : Pid)
      (pre between post : List Input), socket ∉ ((machine W).run pre).agent.clients →
      (∀ i ∈ between ++ post, i.client ≠ some socket) →
      (∀ u msg, .line u (some msg) ∈ post → '\x00' ∉ (messageResponse msg).toList) →
      ReturnsDecision W socket prompt cookie pid pre between post := by
  intro h
  have hmsg : ∀ u msg, Input.line u (some msg) ∈ [Input.line 2 (some (respondMessage "k" ""))] →
      '\x00' ∉ (messageResponse msg).toList := by
    intro u msg hm
    obtain ⟨-, rfl⟩ : u = 2 ∧ msg = respondMessage "k" "" := by simpa using hm
    decide
  have hcall := h (World.plain (fun _ => 0) false) 1 (.confirm none none none) "k" 100 provided []
    [.line 2 (some (respondMessage "k" ""))] (by decide) (by decide) hmsg
  revert hcall
  decide

end Daemon

end BbAuth
