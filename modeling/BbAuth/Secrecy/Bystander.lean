import BbAuth.Flow.Prompts
import BbAuth.Secrecy.Callers
/-!
# Nobody but the requestor learns an answer

Two runs whose inputs differ in nothing but the texts of the responses pass
through the same states: the answers are found again in the replies to the
requestors and in the calls of PAM, and nowhere else. So a client that has
made no request reads the same in both, whatever it asks for and whoever it
is to the daemon.
-/

namespace BbAuth

open Agent

/-- **An input with its answer blanked out.** -/
def Input.blinded : Input → Input
  | .line socket (some msg) =>
    .line socket (some
      (if (msg.value "type").toString = "session.respond" then msg.remove "response" else msg))
  | i => i

/-- **A daemon with the secrets of its trace blanked out.** -/
def Daemon.redacted (d : Daemon) : Daemon :=
  d.withAgent { d.agent with log := d.agent.log.map Output.redacted }

/-- Two inputs that differ in nothing but an answer: they are the same, or
two responses under one id from one client. -/
theorem Input.blinded_cases {i i' : Input} (h : i.blinded = i'.blinded) :
    i = i' ∨ ∃ socket msg msg', i = .line socket (some msg) ∧ i' = .line socket (some msg') ∧
      (msg.value "type").toString = "session.respond" ∧
      (msg'.value "type").toString = "session.respond" ∧
      (msg.value "id").toString = (msg'.value "id").toString := by
  -- a response and the same without its answer are of one type, and have one id
  have hkept : ∀ (msg : QJsonObject) k, k ≠ "response" →
      (msg.remove "response").value k = msg.value k := fun msg k hk => by simp [hk]
  have hself : ∀ j : Input, (∀ socket msg, j ≠ .line socket (some msg)) → j.blinded = j := by
    intro j hj
    unfold blinded
    split
    next socket msg => exact absurd rfl (hj socket msg)
    · rfl
  by_cases hi : ∃ socket msg, i = .line socket (some msg)
  · obtain ⟨socket, msg, rfl⟩ := hi
    by_cases hi' : ∃ socket msg, i' = .line socket (some msg)
    · obtain ⟨socket', msg', rfl⟩ := hi'
      simp only [blinded, Input.line.injEq, Option.some.injEq] at h
      obtain ⟨rfl, h⟩ := h
      split at h
      next ht =>
        split at h
        next ht' =>
          refine .inr ⟨socket, msg, msg', rfl, rfl, ht, ht', ?_⟩
          rw [← hkept msg "id" (by decide), h, hkept msg' "id" (by decide)]
        next ht' =>
          rw [← h, hkept msg "type" (by decide)] at ht'
          exact absurd ht ht'
      next ht =>
        split at h
        next ht' =>
          rw [h, hkept msg' "type" (by decide)] at ht
          exact absurd ht' ht
        · exact .inl (by rw [h])
    · rw [hself i' (fun s m he => hi' ⟨s, m, he⟩)] at h
      exact absurd ⟨_, _, h.symm⟩ hi'
  · rw [hself i (fun s m he => hi ⟨s, m, he⟩)] at h
    by_cases hi' : ∃ socket msg, i' = .line socket (some msg)
    · obtain ⟨socket, msg, rfl⟩ := hi'
      exact absurd ⟨_, _, h⟩ hi
    · exact .inl (h.trans (hself i' fun s m he => hi' ⟨s, m, he⟩))

namespace Daemon

variable {W : World} {d d' : Daemon} {socket s : Socket} {msg msg' : QJsonObject}

/-! ## The handlers between twins -/

/-- **Twins** agree on everything but the secrets in their traces. -/
def Twin (d d' : Daemon) : Prop := ∃ a, d' = d.withAgent a ∧ d.agent.Twin a

/-- Twins that reply the same. -/
def TwinReply (x y : QJsonObject × Daemon) : Prop := x.1 = y.1 ∧ Twin x.2 y.2

namespace Twin

theorem redacted (h : Twin d d') : d.redacted = d'.redacted := by
  obtain ⟨a, rfl, l, rfl, hl⟩ := h
  simp only [Daemon.redacted, withAgent, hl]

theorem sendJson (h : Twin d d') {j : QJsonObject} : Twin (d.sendJson s j) (d'.sendJson s j) := by
  obtain ⟨a, rfl, ha⟩ := h
  exact ⟨_, rfl, ha.sendJson⟩

theorem summonFallback (h : Twin d d') (reason : String) :
    Twin (d.summonFallback W reason) (d'.summonFallback W reason) := by
  obtain ⟨a, rfl, ha⟩ := h
  simp only [Daemon.summonFallback, withAgent, ha.hasActiveProvider, ha.sessionStore]
  split
  · exact ⟨_, rfl, ha.ensureFallbackUiRunning reason⟩
  · exact ⟨_, rfl, ha⟩

theorem handlePing (h : Twin d d') : Twin (d.handlePing W socket) (d'.handlePing W socket) := by
  obtain ⟨a, rfl, ha⟩ := h
  simp only [Daemon.handlePing, withAgent, ha.tick, ha.ticked.providerRegistry]
  exact ⟨_, rfl, ha.ticked.sendJson⟩

theorem handleNext (h : Twin d d') : Twin (d.handleNext socket) (d'.handleNext socket) := by
  obtain ⟨a, rfl, ha⟩ := h
  simp only [Daemon.handleNext, withAgent, ha.eventQueue]
  split
  · exact ⟨_, rfl, ha.setQueue _⟩
  · exact ⟨_, rfl, (ha.setQueue _).sendJson⟩

theorem handleSubscribe (h : Twin d d') :
    Twin (d.handleSubscribe W socket) (d'.handleSubscribe W socket) := by
  obtain ⟨a, rfl, ha⟩ := h
  have hs := ha.subscribe (s := socket)
  simp only [Daemon.handleSubscribe, withAgent, hs.providerRegistry, hs.tick, hs.sessionStore]
  split
  · have hr := hs.ticked.sendAll (s := socket)
      (replayEvents (W.walk (d.agent.subscribe socket).tick
        (d.agent.subscribe socket).sessionStore.sessions.pairs))
    rw [hr.sessionStore]
    exact ⟨_, rfl, hr.sendJson⟩
  · exact ⟨_, rfl, hs.ticked.sendJson⟩

theorem handleKeyringRequest (h : Twin d d') :
    Twin (d.handleKeyringRequest W socket msg) (d'.handleKeyringRequest W socket msg) := by
  obtain ⟨a, rfl, ha⟩ := h
  obtain ⟨hk, hr⟩ := d.keyringManager.twin_handleRequest (W := W) ha msg socket
    (d.agent.getPeerPid socket)
  simp only [Daemon.handleKeyringRequest, withAgent, ha.getPeerPid, ← hk]
  exact ⟨_, rfl, hr⟩

theorem handlePinentryRequest (h : Twin d d') :
    Twin (d.handlePinentryRequest W socket msg) (d'.handlePinentryRequest W socket msg) := by
  obtain ⟨a, rfl, ha⟩ := h
  obtain ⟨hp, hr⟩ := d.pinentryManager.twin_handleRequest (W := W) ha msg socket
    (d.agent.getPeerPid socket)
  simp only [Daemon.handlePinentryRequest, withAgent, ha.getPeerPid, ← hp]
  exact ⟨_, rfl, hr⟩

theorem handlePinentryResult (h : Twin d d') :
    Twin (d.handlePinentryResult W socket msg) (d'.handlePinentryResult W socket msg) := by
  obtain ⟨a, rfl, ha⟩ := h
  obtain ⟨hj, hp, hr⟩ := d.pinentryManager.twin_handleResult (W := W) ha msg
    (d.agent.getPeerPid socket)
  simp only [Daemon.handlePinentryResult, resultReply, withAgent, ha.getPeerPid, ← hj, ← hp]
  exact Twin.sendJson ⟨_, rfl, hr⟩

theorem handleUIRegister (h : Twin d d') :
    Twin (d.handleUIRegister W socket msg) (d'.handleUIRegister W socket msg) := by
  obtain ⟨a, rfl, ha⟩ := h
  simp only [Daemon.handleUIRegister, withAgent, ha.tick, ha.providerRegistry]
  generalize d.agent.providerRegistry.registerProvider _ _ _ _ = entered
  obtain ⟨hc, hr⟩ := (ha.setRegistry entered.2).ticked.recomputeActiveProvider (W := W)
  simp only [← hc, hr.providerRegistry]
  split
  · exact ⟨_, rfl, hr.sendJson.emitProviderStatus⟩
  · exact ⟨_, rfl, hr.sendJson⟩

theorem handleUIHeartbeat (h : Twin d d') :
    Twin (d.handleUIHeartbeat W socket) (d'.handleUIHeartbeat W socket) := by
  obtain ⟨a, rfl, ha⟩ := h
  simp only [Daemon.handleUIHeartbeat, withAgent, ha.tick, ha.providerRegistry]
  split
  · exact ⟨_, rfl, ha.sendJson⟩
  next registry _ =>
    have hr := (ha.setRegistry registry).ticked.recomputeAndEmit (W := W)
    simp only [hr.providerRegistry]
    exact ⟨_, rfl, hr.sendJson⟩

theorem handleUIUnregister (h : Twin d d') :
    Twin (d.handleUIUnregister W socket) (d'.handleUIUnregister W socket) := by
  obtain ⟨a, rfl, ha⟩ := h
  simp only [Daemon.handleUIUnregister, withAgent, ha.providerRegistry]
  split
  · exact ⟨_, rfl, ha.sendJson⟩
  · exact summonFallback ⟨_, rfl, (ha.setRegistry _).recomputeAndEmit.sendJson⟩ _

/-- **Two responses under one id**: what is replied is the same, and what
they leave differs in the answer only. -/
theorem respond (h : Twin d d') (hid : (msg.value "id").toString = (msg'.value "id").toString) :
    TwinReply (d.respond W socket msg) (d'.respond W socket msg') := by
  obtain ⟨a, rfl, ha⟩ := h
  have hkeep : Twin d (d.withAgent a) := ⟨a, rfl, ha⟩
  simp only [Daemon.respond, withAgent, ← hid, isAuthorizedProviderSocket, ha.providerRegistry]
  split
  · exact ⟨rfl, hkeep⟩
  split
  · obtain ⟨hj, hk, hr⟩ := d.keyringManager.twin_handleResponse (W := W) ha
      (msg.value "id").toString (msg.value "response").toString (msg'.value "response").toString
    rw [← hk]
    refine ⟨rfl, _, rfl, ?_⟩
    dsimp only
    split
    · exact hr.sendRedacted (hj _)
    · exact hr
  split
  · obtain ⟨hj, ht, hm, hp⟩ := d.pinentryManager.redacted_handleResponse
      (msg.value "id").toString (msg.value "response").toString (msg'.value "response").toString
    rw [← ht, ← hm, ← hp]
    split
    · exact ⟨rfl, _, rfl, ha⟩
    · split
      · exact ⟨rfl, _, rfl, ha⟩
      · exact ⟨rfl, _, rfl, ha.sendRedacted (hj _)⟩
  rw [d.pinentryManager.twin_hasRequest ha, ha.getSession]
  split
  · exact ⟨rfl, hkeep⟩
  split
  · exact ⟨rfl, hkeep⟩
  split
  · exact ⟨rfl, hkeep⟩
  · obtain ⟨hl, hr⟩ := d.listener.twin_submitPassword ha (msg.value "id").toString
      (msg.value "response").toString (msg'.value "response").toString
    rw [← hl]
    exact ⟨rfl, _, rfl, hr⟩

theorem handleRespond (h : Twin d d')
    (hid : (msg.value "id").toString = (msg'.value "id").toString) :
    Twin (d.handleRespond W socket msg) (d'.handleRespond W socket msg') := by
  have hboth : TwinReply (d.respond W socket msg) (d'.respond W socket msg') := h.respond hid
  obtain ⟨hj, hr⟩ := hboth
  simp only [Daemon.handleRespond, ← hj]
  exact hr.sendJson

theorem cancel (h : Twin d d') : TwinReply (d.cancel W socket msg) (d'.cancel W socket msg) := by
  obtain ⟨a, rfl, ha⟩ := h
  have hkeep : Twin d (d.withAgent a) := ⟨a, rfl, ha⟩
  unfold Daemon.cancel
  simp only [withAgent, isAuthorizedProviderSocket, ha.providerRegistry, ha.getSession,
    d.pinentryManager.twin_hasRequest ha]
  by_cases hauth : d.agent.providerRegistry.isAuthorized socket = true
  swap
  · simp only [hauth, Bool.not_false, if_true]
    exact ⟨rfl, hkeep⟩
  simp only [hauth, Bool.not_true, Bool.false_eq_true, if_false]
  by_cases hk : d.keyringManager.hasPendingRequest (msg.value "id").toString = true
  · obtain ⟨hj, hkm, hr⟩ := d.keyringManager.twin_handleCancel (W := W) ha
      (msg.value "id").toString
    simp only [hk, if_true, ← hj, ← hkm]
    refine ⟨rfl, _, rfl, ?_⟩
    dsimp only
    split
    · exact hr.sendJson
    · exact hr
  simp only [hk, Bool.false_eq_true, if_false]
  by_cases hp : d.pinentryManager.hasRequest d.agent (msg.value "id").toString = true
  · obtain ⟨hj, hpm, hr⟩ := d.pinentryManager.twin_handleCancel (W := W) ha
      (msg.value "id").toString
    simp only [hp, if_true, ← hj, ← hpm]
    split
    · exact ⟨rfl, _, rfl, hr⟩
    · refine ⟨rfl, ?_⟩
      dsimp only
      split
      · exact ⟨_, rfl, hr.sendJson⟩
      · exact ⟨_, rfl, hr⟩
  simp only [hp, Bool.false_eq_true, if_false]
  split
  · exact ⟨rfl, hkeep⟩
  split
  · exact ⟨rfl, hkeep⟩
  · obtain ⟨hl, hr⟩ := d.listener.twin_cancelPending (W := W) ha (msg.value "id").toString
    rw [← hl]
    exact ⟨rfl, _, rfl, hr⟩

theorem handleCancel (h : Twin d d') :
    Twin (d.handleCancel W socket msg) (d'.handleCancel W socket msg) := by
  have hboth : TwinReply (d.cancel W socket msg) (d'.cancel W socket msg) := h.cancel
  obtain ⟨hj, hr⟩ := hboth
  simp only [Daemon.handleCancel, ← hj]
  exact hr.sendJson

theorem dispatch (h : Twin d d') (type : MessageType) :
    Twin (d.dispatch W type socket msg) (d'.dispatch W type socket msg) := by
  cases type with
  | ping => exact h.handlePing
  | subscribe => exact h.handleSubscribe
  | next => exact h.handleNext
  | keyringRequest => exact h.handleKeyringRequest
  | pinentryRequest => exact h.handlePinentryRequest
  | pinentryResult => exact h.handlePinentryResult
  | uiRegister => exact h.handleUIRegister
  | uiHeartbeat => exact h.handleUIHeartbeat
  | uiUnregister => exact h.handleUIUnregister
  | sessionRespond => exact h.handleRespond rfl
  | sessionCancel => exact h.handleCancel

theorem onClientDisconnected (h : Twin d d') :
    Twin (d.onClientDisconnected W socket) (d'.onClientDisconnected W socket) := by
  obtain ⟨a, rfl, ha⟩ := h
  have hf : Agent.Twin (forgetClient W d.agent socket) (forgetClient W a socket) := by
    have hs := ha.setSubscribers (d.agent.subscribers.erase socket)
    simp only [forgetClient, ha.subscribers, hs.providerRegistry]
    generalize (d.agent.setSubscribers
      (d.agent.subscribers.erase socket)).providerRegistry.removeSocket socket = removed
    have hset := hs.setRegistry removed.2
    split
    · have hr := hset.recomputeAndEmit (W := W)
      rw [hr.eventQueue]
      exact hr.setQueue _
    · rw [hset.eventQueue]
      exact hset.setQueue _
  obtain ⟨hk, hkr⟩ := d.keyringManager.twin_cleanupForSocket (W := W) hf socket
  obtain ⟨hp, hpr⟩ := d.pinentryManager.twin_cleanupForSocket (W := W) hkr socket
  simp only [Daemon.onClientDisconnected, withAgent, ← hk, ← hp]
  exact summonFallback ⟨_, rfl, hpr⟩ _

theorem socketDeleted (h : Twin d d') :
    Twin (d.socketDeleted socket) (d'.socketDeleted socket) := by
  obtain ⟨a, rfl, ha⟩ := h
  simp only [Daemon.socketDeleted, withAgent, ha.providerRegistry]
  exact ⟨_, rfl, ha.setRegistry _⟩

theorem handle (h : Twin d d') (i : Input) : Twin (d.handle W i) (d'.handle W i) := by
  obtain ⟨a, rfl, ha⟩ := h
  have hkeep : Twin d (d.withAgent a) := ⟨a, rfl, ha⟩
  have hlistener : ∀ {x y : PolkitListener × Agent}, TwinWith x y →
      Twin (d.withListener x) ((d.withAgent a).withListener y) := by
    rintro ⟨l, b⟩ ⟨l', b'⟩ ⟨hl, hb⟩
    obtain rfl : l = l' := hl
    exact ⟨b', rfl, hb⟩
  cases i with
  | newConnection socket peerPid =>
      simp only [Daemon.handle, withAgent, ha.isValid, ha.clients]
      split
      · exact hkeep
      · exact ⟨_, rfl, ha.setClients _⟩
  | closing socket =>
      simp only [Daemon.handle, withAgent, ha.clients]
      split
      · exact hkeep
      · exact ⟨_, rfl, ha.setClients _⟩
  | line socket doc =>
      simp only [Daemon.handle, withAgent, ha.isValid]
      split
      · unfold handleLine
        split
        · exact hkeep.sendJson
        · dsimp only
          split
          · exact hkeep.sendJson
          split
          · exact hkeep.sendJson
          · exact hkeep.dispatch _
      · exact hkeep
  | disconnected socket =>
      simp only [Daemon.handle, withAgent, ha.isValid, ha.clients]
      split
      · exact socketDeleted (onClientDisconnected ⟨_, rfl, ha.setClients _⟩)
      · exact hkeep
  | providerMaintenance => exact ⟨_, rfl, ha.pruneStaleProviders⟩
  | pinentryTimeout timer =>
      obtain ⟨hp, hr⟩ := d.pinentryManager.twin_onTimeout (W := W) ha timer
      simp only [Daemon.handle, withAgent, ← hp]
      exact ⟨_, rfl, hr⟩
  | initiateAuthentication actionId message iconName details cookie identities =>
      exact hlistener (d.listener.twin_initiateAuthentication ha actionId message iconName details
        cookie identities)
  | cancelAuthentication => exact hlistener (d.listener.twin_cancelAuthentication ha)
  | request session text echo =>
      exact hlistener (d.listener.twin_onSessionRequest ha session text echo)
  | completed session gained =>
      exact hlistener (d.listener.twin_onSessionCompleted ha session gained)
  | showError session text => exact hlistener (d.listener.twin_onSessionError ha session text)
  | showInfo session text => exact hlistener (d.listener.twin_onSessionInfo ha session text)

/-- **Every step keeps twins twins**, also where the answers differ. -/
theorem step (h : Twin d d') {i i' : Input} (hi : i.blinded = i'.blinded) :
    Twin (d.step W i) (d'.step W i') := by
  have hfree : d'.listener = d.listener := by
    obtain ⟨a, rfl, -⟩ := h
    rfl
  unfold Daemon.step
  rw [hfree]
  split
  · exact h
  rcases Input.blinded_cases hi with rfl | ⟨socket, msg, msg', rfl, rfl, ht, ht', hid⟩
  · exact h.handle i
  · have hvalid : d'.agent.isValid socket = d.agent.isValid socket := by
      obtain ⟨a, rfl, ha⟩ := h
      exact congrFun ha.isValid socket
    have hl : handlers.lookup "session.respond" = some .sessionRespond := by decide
    simp only [Daemon.handle, hvalid, handleLine, ht, ht', hl]
    split
    · rw [if_neg (by decide)]
      exact h.handleRespond hid
    · exact h

end Twin

/-- **Noninterference.** Two runs whose inputs differ in nothing but the
texts of the responses end in the same state, up to the secrets in the
trace: what is stored, who is told what and when, and what is asked of
polkit does not depend on an answer. -/
theorem redacted_run_eq (W : World) {ins ins' : List Input}
    (h : List.Forall₂ (fun i i' => i.blinded = i'.blinded) ins ins') :
    ((machine W).run ins).redacted = ((machine W).run ins').redacted := by
  have htwin : Twin ((machine W).run ins) ((machine W).run ins') :=
    Machine.related_run (R := Twin) ⟨_, rfl, .refl _⟩ (fun _ _ _ _ ht hi => ht.step hi) h
  exact htwin.redacted

/-! ## What a bystander reads -/

/-- **The client `s` makes a request**, for a keyring or for a pinentry. -/
def Requests (s : Socket) (i : Input) : Prop :=
  ∃ msg, i = .line s (some msg) ∧
    (msg.value "type").toString ∈ ["keyring_request", "pinentry_request"]

/-- **What a client reads** of the daemon. -/
def view (s : Socket) (d : Daemon) : List QJsonObject := d.agent.log.filterMap (Output.toSocket s)

/-- The policy that no answer is sent to `s`. -/
def discreet (s : Socket) : Policy where
  queue q := ∀ e ∈ q.eventQueue, carriesAnswer e = false
  event e := carriesAnswer e = false
  output o := ∀ j, o = .sent s j → carriesAnswer j = false
  emitted _ _ := nofun
  sent e t h _ j hj := by
    cases hj
    exact h
  drained q e hq h := by
    have hall : ∀ e' ∈ (q.enqueue e).eventQueue, carriesAnswer e' = false := fun e' he' =>
      (EventQueue.mem_enqueue he').elim (hq e') fun heq => heq ▸ h
    obtain ⟨hsent, hleft⟩ := EventQueue.mem_drainToWaiters (q.enqueue e)
    refine ⟨fun e' he' => hall e' (hleft e' he'), fun x hx j hj => ?_⟩
    cases hj
    exact hall _ (hsent x hx)
  status t a _ j hj := by
    cases hj
    have ht : (a.providerStatus.value "type").toString = "ui.active" := by
      unfold Agent.providerStatus
      split <;> simp
    simp [carriesAnswer, ht]
  fallback _ _ _ := nofun

/-- A message handed to a request's handler is a request. -/
theorem requests_of_message {i : Input} {type : MessageType}
    (hm : d.message? i = some (type, s, msg))
    (ht : type = .keyringRequest ∨ type = .pinentryRequest) : Requests s i := by
  obtain ⟨rfl, -, -, hl⟩ := message?_cases hm
  obtain ⟨l, m, heq, -⟩ := List.lookup_eq_some_iff.1 hl
  have hmem : ((msg.value "type").toString, type) ∈ handlers := by simp [heq]
  refine ⟨msg, rfl, ?_⟩
  rcases ht with rfl | rfl
  · have : (msg.value "type").toString = "keyring_request" := by simpa [handlers] using hmem
    simp [this]
  · have : (msg.value "type").toString = "pinentry_request" := by simpa [handlers] using hmem
    simp [this]

/-- **The request a decision answers was made by the socket it is bound
to.** -/
theorem requests_of_bound {ins : List Input} {c : String}
    (h : (∃ r : KeyringRequest, ((machine W).run ins).keyringManager.pendingRequests.lookup c =
        some r ∧ r.socket = s) ∨
      ∃ r : PinentryRequest, ((machine W).run ins).pinentryManager.pendingRequests.lookup c =
        some r ∧ r.socket = s) : ∃ i ∈ ins, Requests s i := by
  rcases h with ⟨r, hr, rfl⟩ | ⟨r, hr, rfl⟩
  · obtain ⟨pre, i, m, ⟨post, rfl, -⟩, hm, -⟩ := keyring_openedAt (W := W) (c := c) hr
    exact ⟨i, by simp, requests_of_message hm (.inl rfl)⟩
  · induction ins using List.reverseRecOn with
    | nil => cases hr
    | append_singleton ins j ih =>
        rcases (flowStep_run W c ins j).pending hr with hp | ⟨m, hm⟩
        · obtain ⟨i, hi, hreq⟩ := ih hp
          exact ⟨i, List.mem_append_left _ hi, hreq⟩
        · exact ⟨j, by simp, requests_of_message hm (.inr rfl)⟩

/-- **No answer is sent to a bystander.** -/
theorem carriesAnswer_of_sent (W : World) {ins : List Input} (hs : ∀ i ∈ ins, ¬ Requests s i)
    {j : QJsonObject} (hj : Output.sent s j ∈ ((machine W).run ins).agent.log) :
    carriesAnswer j = false := by
  -- the queue is kept clean along with the trace
  suffices h : Kept (discreet s) ((machine W).run ins).agent ∧
      ∀ o ∈ ((machine W).run ins).agent.log, (discreet s).output o from h.2 _ hj j rfl
  clear hj
  induction ins using List.reverseRecOn with
  | nil =>
      refine ⟨⟨fun _ _ => trivial, fun _ _ => trivial, fun _ _ => trivial, fun e he => ?_⟩, ?_⟩
      · cases he
      · intro o ho
        cases ho
  | append_singleton ins i ih =>
      have hpre : ∀ k ∈ ins, ¬ Requests s k := fun k hk => hs k (List.mem_append_left _ hk)
      obtain ⟨hk, hlog⟩ := ih hpre
      set d := (machine W).run ins
      have hcreated : ∀ x : Session, (discreet s).event x.toCreatedEvent := fun x => by
        simp [discreet, carriesAnswer]
      have hopen : (discreet s).Open :=
        ⟨fun x => by simp [discreet, carriesAnswer], fun x => by simp [discreet, carriesAnswer]⟩
      have hobeys : Obeys (discreet s) d.agent (d.step W i).agent := by
        refine obeys_step W hopen hcreated (fun _ _ => trivial) (fun q q' he hq => ?_)
          (fun o ho j hj => ?_) fun t j hr j' hj' => ?_
        · cases he with
          | same => exact hq
          | left t => exact hq
          | waits t ht hempty => exact hq
          | taken e rest hrest =>
              exact fun e' he' => hq e' (by rw [hrest]; exact List.mem_cons_of_mem _ he')
        · rw [hj] at ho
          cases ho
        · cases hj'
          cases hr with
          | plain hcl hplain =>
              simp only [Plain, List.mem_cons, List.not_mem_nil, or_false] at hplain
              rcases hplain with h | h | h | h | h <;> simp [carriesAnswer, h]
          | replayed hm hsess hj => rcases hj with rfl | rfl <;> simp [carriesAnswer]
          | next hm hq => exact hk.queue _ (by rw [hq]; exact List.mem_cons_self)
          | keyring hd hr hj =>
              obtain ⟨k, hk', hreq⟩ := requests_of_bound (W := W) (.inl ⟨_, hr, rfl⟩)
              exact absurd hreq (hpre k hk')
          | pinentry hd hkey hr hj hid =>
              obtain ⟨k, hk', hreq⟩ := requests_of_bound (W := W) (.inr ⟨_, hr, rfl⟩)
              exact absurd hreq (hpre k hk')
      obtain ⟨hk', os, hl, ho⟩ := hobeys hk
      rw [Machine.run_snoc]
      refine ⟨hk', fun o hm => ?_⟩
      rw [show ((machine W).step d i).agent.log = d.agent.log ++ os from hl] at hm
      exact (List.mem_append.1 hm).elim (hlog o) (ho o)

/-- Where nothing that is sent to `s` carries an answer, `s` reads the same
in the redacted trace. -/
theorem view_redacted (h : ∀ j, Output.sent s j ∈ d.agent.log → carriesAnswer j = false) :
    view s d.redacted = view s d := by
  simp only [view, Daemon.redacted, withAgent, List.filterMap_map]
  refine List.filterMap_congr fun o ho => ?_
  cases o with
  | sent t j =>
      by_cases ht : t = s
      · subst ht
        simp [Output.redacted, Output.toSocket, h j ho]
      · simp [Output.redacted, Output.toSocket, ht]
  | _ => rfl

/-- **A bystander learns nothing.** A client that makes no request reads
the same in two runs that differ in nothing but the texts of the
responses. -/
theorem view_run_eq (W : World) {ins ins' : List Input} (s : Socket)
    (h : List.Forall₂ (fun i i' => i.blinded = i'.blinded) ins ins')
    (hs : ∀ i ∈ ins, ¬ Requests s i) :
    view s ((machine W).run ins) = view s ((machine W).run ins') := by
  have htwin : Twin ((machine W).run ins) ((machine W).run ins') :=
    Machine.related_run (R := Twin) ⟨_, rfl, .refl _⟩ (fun _ _ _ _ ht hi => ht.step hi) h
  -- a request blinded is itself, so the other run makes none either
  have hs' : ∀ i ∈ ins', ¬ Requests s i := by
    intro i' hi' hreq
    obtain ⟨hlen, hget⟩ := List.forall₂_iff_get.1 h
    obtain ⟨n, hn, rfl⟩ := List.getElem_of_mem hi'
    have heq := hget n (hlen ▸ hn) hn
    have hi := List.get_mem ins ⟨n, hlen ▸ hn⟩
    generalize ins.get ⟨n, hlen ▸ hn⟩ = i at heq hi
    simp only [List.get_eq_getElem] at heq
    generalize ins'[n] = i' at heq hreq
    rcases Input.blinded_cases heq with rfl | ⟨_, _, msg', -, rfl, -, ht', -⟩
    · exact hs i hi hreq
    · obtain ⟨m, hm, hmem⟩ := hreq
      cases hm
      rw [ht'] at hmem
      exact absurd hmem (by decide)
  rw [← view_redacted fun j hj => carriesAnswer_of_sent W hs hj,
    ← view_redacted fun j hj => carriesAnswer_of_sent W hs' hj, htwin.redacted]

/-- A keyring request that a subscriber answers with `password`. -/
def answeredWith (password : String) : List Input :=
  [.newConnection 1 100, .newConnection 2 200, .line 2 (some [("type", "subscribe")]),
    .line 1 (some [("type", "keyring_request"), ("cookie", "c")]),
    .line 2 (some (respondMessage "c" password))]

/-- **Two passwords**: the runs end in one state, though the client that
asked has read two different replies. -/
theorem redacted_run_eq_two :
    let W := World.plain (fun _ => 0) false
    ((machine W).run (answeredWith "a")).redacted = ((machine W).run (answeredWith "b")).redacted ∧
      view 1 ((machine W).run (answeredWith "a")) ≠ view 1 ((machine W).run (answeredWith "b")) :=
  ⟨redacted_run_eq _ (List.forall₂_iff_get.2 ⟨rfl, by decide⟩), by decide⟩

/-- And the client that answered has read the same. -/
theorem view_run_eq_two :
    let W := World.plain (fun _ => 0) false
    view 2 ((machine W).run (answeredWith "a")) = view 2 ((machine W).run (answeredWith "b")) := by
  refine view_run_eq _ 2 (List.forall₂_iff_get.2 ⟨rfl, by decide⟩) fun i hi hreq => ?_
  obtain ⟨msg, rfl, ht⟩ := hreq
  simp only [answeredWith, List.mem_cons, List.not_mem_nil, reduceCtorEq, false_or, or_false,
    Input.line.injEq, Option.some.injEq] at hi
  rcases hi with ⟨-, rfl⟩ | ⟨h, -⟩ | ⟨-, rfl⟩
  · exact absurd ht (by decide)
  · cases h
  · exact absurd ht (by decide)

end Daemon

end BbAuth
