import BbAuth.Polkit.LifeCycle
import BbAuth.Sessions.Moves
/-!
# What one input can do to the daemon

`Turn` says once what a step of the daemon is: which manager or the
listener it calls, with which arguments and under which guards. What goes
out on the wire, the providers, the queue and the subscribers are left
open by `Same`; every invariant about sessions and pending requests is
read off the turns.
-/

namespace BbAuth

open Agent

namespace KeyringManager

/-- Without a pending request of a cookie there is nothing to look up. -/
theorem hasPendingRequest_eq_false {km : KeyringManager} {cookie : String} :
    km.hasPendingRequest cookie = false ↔ km.pendingRequests.lookup cookie = none := by
  rw [hasPendingRequest, Table.contains_eq_false, ← AList.lookup_eq_none]

end KeyringManager

namespace PinentryManager

theorem hasPendingInput_eq_false {pm : PinentryManager} {cookie : String} :
    pm.hasPendingInput cookie = false ↔ pm.pendingRequests.lookup cookie = none := by
  rw [hasPendingInput, Table.contains_eq_false, ← AList.lookup_eq_none]

/-- The reply to a pending request that is answered. -/
theorem handleResponse_of_pending {pm : PinentryManager} {cookie : String}
    {request : PinentryRequest} (h : pm.pendingRequests.lookup cookie = some request)
    (response : String) :
    (pm.handleResponse cookie response).1.value "type" = .string "pinentry_response" ∧
      (pm.handleResponse cookie response).1.value "id" = .string cookie := by
  simp only [handleResponse, h]
  split <;> simp

/-- The reply to a client whose pinentry request is cancelled. -/
def cancelledReply (cookie : String) : QJsonObject :=
  [("type", "pinentry_response"), ("id", cookie), ("result", "cancelled")]

/-- A flow the manager knows is cancelled. -/
theorem handleCancel_of_hasRequest {W : World} {a : Agent} {pm : PinentryManager} {cookie : String}
    (h : pm.hasRequest a cookie = true) :
    pm.handleCancel W a cookie =
      (cancelledReply cookie, pm.closeFlow W a cookie .cancelled) := by
  -- all three branches of `handleCancel` close the flow
  unfold hasRequest at h
  unfold handleCancel cancelledReply
  split at h
  next hb => rcases (Bool.or_eq_true _ _).mp hb with hb | hb <;> simp [hb]
  · simp only [h, if_true]
    split_ifs <;> rfl

end PinentryManager

namespace Daemon

variable (W : World) (d : Daemon)

/-- **The message an input brings**, where the daemon hands it to a
handler: its type, its sender and itself. -/
def message? (i : Input) : Option (MessageType × Socket × QJsonObject) :=
  match i with
  | .line socket (some msg) =>
    if d.listener.useAfterFree || !d.agent.isValid socket then none
    else (handlers.lookup (msg.value "type").toString).map fun type => (type, socket, msg)
  | _ => none

/-- The `id` of a message. -/
def messageId (msg : QJsonObject) : String := (msg.value "id").toString

/-- The `response` of a message. -/
def messageResponse (msg : QJsonObject) : String := (msg.value "response").toString

/-- **The call an input makes of the listener**, if it gets that far: a
signal of polkit is one, a message is one where its handler does not
refuse it first. -/
def listenerCall? (i : Input) : Option PolkitListener.Call :=
  if d.listener.useAfterFree then none
  else match i with
  | .initiateAuthentication actionId message iconName details cookie identities =>
    some (.initiateAuthentication actionId message iconName details cookie identities)
  | .cancelAuthentication => some .cancelAuthentication
  | .request session text echo => some (.request session text echo)
  | .completed session gained => some (.completed session gained)
  | .showError session text => some (.showError session text)
  | .showInfo session text => some (.showInfo session text)
  | .line socket doc => match d.message? (.line socket doc) with
    | some (.sessionRespond, _, msg) =>
      some (.submitPassword (messageId msg) (messageResponse msg))
    | some (.sessionCancel, _, msg) => some (.cancelPending (messageId msg))
    | _ => none
  | _ => none

/-- Write back what a keyring handler returns. -/
def withKeyring (r : KeyringManager × Agent) : Daemon :=
  { d with keyringManager := r.1, agent := r.2 }

/-- Write back what a pinentry handler returns. -/
def withPinentry (r : PinentryManager × Agent) : Daemon :=
  { d with pinentryManager := r.1, agent := r.2 }

/-- The agent once a client is gone: the client first, then what was kept
for it. -/
def forget (socket : Socket) : Agent :=
  forgetClient W (d.agent.setClients (d.agent.clients.erase socket)) socket

/-- The clean-up of both managers after a disconnect. -/
def cleaned (socket : Socket) : Daemon :=
  let d := d.withKeyring (d.keyringManager.cleanupForSocket W (d.forget W socket) socket)
  d.withPinentry (d.pinentryManager.cleanupForSocket W d.agent socket)

/-- **Two daemons with the same sessions and pending requests.** -/
structure Same (d d' : Daemon) : Prop where
  agent : Silent d.agent d'.agent
  keyringManager : d'.keyringManager = d.keyringManager
  pinentryManager : d'.pinentryManager = d.pinentryManager
  listener : d'.listener = d.listener

variable {d} in
theorem Same.trans {d' d'' : Daemon} (h : Same d d') (h' : Same d' d'') : Same d d'' :=
  ⟨h.agent.trans h'.agent, h'.keyringManager.trans h.keyringManager,
    h'.pinentryManager.trans h.pinentryManager, h'.listener.trans h.listener⟩

theorem Same.refl : Same d d := ⟨.refl _, rfl, rfl, rfl⟩

theorem same_sendJson (socket : Socket) (json : QJsonObject) : Same d (d.sendJson socket json) :=
  ⟨silent_sendJson d socket json, rfl, rfl, rfl⟩

theorem same_summonFallback (reason : String) : Same d (d.summonFallback W reason) := by
  refine ⟨silent_summonFallback W d reason, ?_, ?_, ?_⟩ <;>
  · unfold summonFallback
    split <;> rfl

/-- **What an input does to the sessions and the pending requests.** -/
inductive Turn (i : Input) (d' : Daemon) : Prop
  | same (h : Same d d')
  | connected (socket : Socket) (peerPid : Pid) (hi : i = .newConnection socket peerPid)
      (hn : socket ∉ d.agent.clients)
      (h : d' = d.withAgent
        (d.agent.setClients (d.agent.clients.insert socket { peerPid := peerPid })))
  | closing (socket : Socket) (client : Client) (hi : i = .closing socket)
      (hc : d.agent.clients.lookup socket = some client)
      (h : d' = d.withAgent
        (d.agent.setClients (d.agent.clients.insert socket { client with state := .closing })))
  | keyringRequest (socket : Socket) (msg : QJsonObject)
      (hm : d.message? i = some (.keyringRequest, socket, msg))
      (h : d' = d.withKeyring
        (d.keyringManager.handleRequest W d.agent msg socket (d.agent.getPeerPid socket)))
  | keyringAnswer (socket : Socket) (msg : QJsonObject)
      (hm : d.message? i = some (.sessionRespond, socket, msg))
      (request : KeyringRequest)
      (hr : d.keyringManager.pendingRequests.lookup (messageId msg) = some request)
      (h : Same (d.withKeyring (d.keyringManager.handleResponse W d.agent (messageId msg)
        (messageResponse msg)).2) d')
  | keyringCancel (socket : Socket) (msg : QJsonObject)
      (hm : d.message? i = some (.sessionCancel, socket, msg))
      (request : KeyringRequest)
      (hr : d.keyringManager.pendingRequests.lookup (messageId msg) = some request)
      (h : Same (d.withKeyring (d.keyringManager.handleCancel W d.agent (messageId msg)).2) d')
  | pinentryRequest (socket : Socket) (msg : QJsonObject)
      (hm : d.message? i = some (.pinentryRequest, socket, msg))
      (h : d' = d.withPinentry
        (d.pinentryManager.handleRequest W d.agent msg socket (d.agent.getPeerPid socket)))
  | pinentryAnswer (socket : Socket) (msg : QJsonObject)
      (hm : d.message? i = some (.sessionRespond, socket, msg))
      (ha : d.agent.isAuthorizedProviderSocket socket = true)
      (hk : d.keyringManager.pendingRequests.lookup (messageId msg) = none)
      (request : PinentryRequest)
      (hr : d.pinentryManager.pendingRequests.lookup (messageId msg) = some request)
      (h : Same (d.withPinentry ((d.pinentryManager.handleResponse (messageId msg)
        (messageResponse msg)).2, d.agent)) d')
  | pinentryResult (socket : Socket) (msg : QJsonObject)
      (hm : d.message? i = some (.pinentryResult, socket, msg))
      (h : Same (d.withPinentry (d.pinentryManager.handleResult W d.agent msg
        (d.agent.getPeerPid socket)).2) d')
  | pinentryCancel (socket : Socket) (msg : QJsonObject)
      (hm : d.message? i = some (.sessionCancel, socket, msg))
      (h : Same (d.withPinentry (d.pinentryManager.closeFlow W d.agent (messageId msg)
        .cancelled)) d')
  | pinentryTimeout (timer : ℕ) (hi : i = .pinentryTimeout timer)
      (h : d' = d.withPinentry (d.pinentryManager.onTimeout W d.agent timer))
  | disconnected (socket : Socket) (hi : i = .disconnected socket)
      (h : Same (d.cleaned W socket) d')
  | listener (call : PolkitListener.Call) (hc : ∀ a, call ≠ .elsewhere a)
      (hs : d.listener.useAfterFree = false)
      (h : Same (d.withListener (PolkitListener.call W (d.listener, d.agent) call)) d')
      (hi : d.listenerCall? i = some call)

/-! ## Every step is a turn -/

variable {W d} {i : Input} {socket : Socket} {msg : QJsonObject} {type : MessageType}

/-- What a message says of the step that takes it. -/
theorem message?_cases (h : d.message? i = some (type, socket, msg)) :
    i = .line socket (some msg) ∧ d.listener.useAfterFree = false ∧
      d.agent.isValid socket = true ∧ handlers.lookup (msg.value "type").toString = some type := by
  unfold message? at h
  split at h
  next s m =>
    split at h
    · cases h
    next hv =>
      obtain ⟨t, ht, heq⟩ := Option.map_eq_some_iff.1 h
      simp only [Prod.mk.injEq] at heq
      obtain ⟨rfl, rfl, rfl⟩ := heq
      simp only [Bool.or_eq_true, Bool.not_eq_true', not_or, Bool.not_eq_true,
        Bool.not_eq_false] at hv
      exact ⟨rfl, hv.1, hv.2, ht⟩
  · cases h

/-- **A message is handed to its handler.** -/
theorem step_of_message (h : d.message? i = some (type, socket, msg)) :
    d.step W i = d.dispatch W type socket msg := by
  obtain ⟨rfl, hs, hv, ht⟩ := message?_cases h
  have hne : (msg.value "type").toString ≠ "" := by
    intro h0
    rw [h0] at ht
    cases ht
  simp [step, hs, handle, hv, handleLine, hne, ht]

/-- The call of a message. -/
theorem listenerCall?_of_message (h : d.message? i = some (type, socket, msg)) :
    d.listenerCall? i = match type with
      | .sessionRespond => some (.submitPassword (messageId msg) (messageResponse msg))
      | .sessionCancel => some (.cancelPending (messageId msg))
      | _ => none := by
  obtain ⟨rfl, hs, -⟩ := message?_cases h
  simp only [listenerCall?, hs, h, Bool.false_eq_true, if_false]
  cases type <;> rfl

/-- **Only a response submits a password.** -/
theorem message?_of_submits {cookie pass : String}
    (h : d.listenerCall? i = some (.submitPassword cookie pass)) :
    ∃ socket msg, d.message? i = some (.sessionRespond, socket, msg) := by
  unfold listenerCall? at h
  split at h
  · cases h
  · split at h <;> try cases h
    split at h
    next socket msg hm => exact ⟨socket, msg, hm⟩
    · cases h
    · cases h

/-- A line that reaches no handler gets at most an error. -/
theorem same_of_no_message {doc : Option QJsonObject} (h : d.message? (.line socket doc) = none) :
    Same d (d.step W (.line socket doc)) := by
  unfold step
  split
  · exact .refl d
  next hs =>
    simp only [handle]
    split
    next hv =>
      unfold handleLine
      split
      · exact same_sendJson d socket _
      next msg =>
        simp only
        split
        · exact same_sendJson d socket _
        · have hl : handlers.lookup (msg.value "type").toString = none := by
            simpa [message?, hs, hv] using h
          rw [hl]
          exact same_sendJson d socket _
    · exact .refl d

/-- A response is refused, or answers the request or the listener's
state that has its id. -/
theorem turn_respond (h : d.message? i = some (.sessionRespond, socket, msg)) :
    Turn W d i (d.handleRespond W socket msg) := by
  have hsend : Same (d.respond W socket msg).2 (d.handleRespond W socket msg) :=
    same_sendJson _ socket _
  generalize hd' : d.handleRespond W socket msg = d' at hsend ⊢
  clear hd'
  simp only [respond] at hsend
  split at hsend
  · exact .same hsend
  next ha =>
  rw [Bool.not_eq_true, Bool.not_eq_false'] at ha
  split at hsend
  next hk =>
    obtain ⟨r, hr⟩ := Table.mem_iff_exists.1 (Table.contains_eq_true.1 hk)
    refine .keyringAnswer socket msg h r hr (Same.trans ?_ hsend)
    simp only [KeyringManager.getSocketForRequest, messageId, hr, Option.map_some]
    exact ⟨(quiet_sendJson _ _ _).silent, rfl, rfl, rfl⟩
  next hk =>
  rw [Bool.not_eq_true, KeyringManager.hasPendingRequest_eq_false] at hk
  split at hsend
  next hp =>
    obtain ⟨r, hr⟩ := Table.mem_iff_exists.1 (Table.contains_eq_true.1 hp)
    refine .pinentryAnswer socket msg h ha hk r hr (Same.trans ?_ hsend)
    simp only [PinentryManager.getSocketForPendingInput, messageId, hr, Option.map_some]
    split
    · exact .refl _
    · exact same_sendJson _ _ _
  split at hsend
  · exact .same hsend
  split at hsend
  · exact .same hsend
  split at hsend
  · exact .same hsend
  · exact .listener (.submitPassword (messageId msg) (messageResponse msg)) (by simp)
      (message?_cases h).2.1 hsend (by rw [listenerCall?_of_message h])

/-- A cancellation is refused, or ends the request, the flow or the
listener's state that has its id. -/
theorem turn_cancel (h : d.message? i = some (.sessionCancel, socket, msg)) :
    Turn W d i (d.handleCancel W socket msg) := by
  have hsend : Same (d.cancel W socket msg).2 (d.handleCancel W socket msg) :=
    same_sendJson _ socket _
  generalize hd' : d.handleCancel W socket msg = d' at hsend ⊢
  clear hd'
  simp only [cancel] at hsend
  split at hsend
  · exact .same hsend
  split at hsend
  next hk =>
    obtain ⟨r, hr⟩ := Table.mem_iff_exists.1 (Table.contains_eq_true.1 hk)
    refine .keyringCancel socket msg h r hr (Same.trans ?_ hsend)
    simp only [KeyringManager.getSocketForRequest, messageId, hr, Option.map_some]
    exact ⟨(quiet_sendJson _ _ _).silent, rfl, rfl, rfl⟩
  split at hsend
  next hp =>
    have hclose : (d.pinentryManager.handleCancel W d.agent (messageId msg)).2 =
        d.pinentryManager.closeFlow W d.agent (messageId msg) .cancelled :=
      congrArg Prod.snd (PinentryManager.handleCancel_of_hasRequest hp)
    refine .pinentryCancel socket msg h (Same.trans ?_ hsend)
    rw [← hclose]
    unfold messageId
    split
    · exact .refl _
    · split
      · exact same_sendJson _ _ _
      · exact .refl _
  split at hsend
  · exact .same hsend
  split at hsend
  · exact .same hsend
  · exact .listener (.cancelPending (messageId msg)) (by simp) (message?_cases h).2.1 hsend
      (by rw [listenerCall?_of_message h])

theorem turn_dispatch (h : d.message? i = some (type, socket, msg)) :
    Turn W d i (d.dispatch W type socket msg) := by
  cases type with
  | ping => exact .same ⟨silent_handlePing W d socket, rfl, rfl, rfl⟩
  | subscribe => exact .same ⟨silent_handleSubscribe W d socket, rfl, rfl, rfl⟩
  | next =>
      refine .same ⟨silent_handleNext d socket, ?_, ?_, ?_⟩ <;>
      · simp only [dispatch, handleNext]
        split <;> rfl
  | keyringRequest => exact .keyringRequest socket msg h rfl
  | pinentryRequest => exact .pinentryRequest socket msg h rfl
  | pinentryResult => exact .pinentryResult socket msg h (same_sendJson _ socket _)
  | uiRegister => exact .same ⟨silent_handleUIRegister W d socket msg, rfl, rfl, rfl⟩
  | uiHeartbeat =>
      refine .same ⟨silent_handleUIHeartbeat W d socket, ?_, ?_, ?_⟩ <;>
      · simp only [dispatch, handleUIHeartbeat]
        split <;> rfl
  | uiUnregister =>
      have h : Same d (d.handleUIUnregister W socket) := by
        refine ⟨silent_handleUIUnregister W d socket, ?_, ?_, ?_⟩ <;>
        · simp only [handleUIUnregister]
          split
          · rfl
          · unfold summonFallback
            split <;> rfl
      exact .same h
  | sessionRespond => exact turn_respond h
  | sessionCancel => exact turn_cancel h

theorem same_onClientDisconnected (socket : Socket) :
    Same (d.cleaned W socket)
      (((d.withAgent (d.agent.setClients (d.agent.clients.erase socket))).onClientDisconnected W
        socket).socketDeleted socket) := by
  refine Same.trans (same_summonFallback W _ "provider-disconnected") ?_
  exact ⟨(quiet_setRegistry _ _).silent, rfl, rfl, rfl⟩

/-- **A disconnect** is nothing to the daemon, or the clean-up. -/
theorem step_disconnected (W : World) (d : Daemon) (socket : Socket) :
    d.step W (.disconnected socket) = d ∨
      Same (d.cleaned W socket) (d.step W (.disconnected socket)) := by
  unfold step
  split
  · exact .inl rfl
  · simp only [handle]
    split
    · exact .inr (same_onClientDisconnected socket)
    · exact .inl rfl

/-- **Every step of the daemon is a turn.** -/
theorem turn_step (W : World) (d : Daemon) (i : Input) : Turn W d i (d.step W i) := by
  cases hs : d.listener.useAfterFree with
  | true =>
      have : d.step W i = d := by simp [step, hs]
      rw [this]
      exact .same (.refl d)
  | false =>
    have hstep : d.step W i = d.handle W i := by simp [step, hs]
    cases i with
    | line socket doc =>
        cases hm : d.message? (.line socket doc) with
        | none => exact .same (same_of_no_message hm)
        | some m =>
            rw [step_of_message hm]
            exact turn_dispatch hm
    | newConnection socket peerPid =>
        rw [hstep]
        simp only [handle]
        split
        · exact .same (.refl d)
        next hv =>
          exact .connected socket peerPid rfl (by simpa [Agent.isValid] using hv) rfl
    | closing socket =>
        rw [hstep]
        simp only [handle]
        split
        · exact .same (.refl d)
        next client hc => exact .closing socket client rfl hc rfl
    | disconnected socket =>
        rcases step_disconnected W d socket with heq | hsame
        · rw [heq]
          exact .same (.refl d)
        · exact .disconnected socket rfl hsame
    | providerMaintenance =>
        rw [hstep]
        exact .same ⟨(quiet_pruneStaleProviders W d.agent).silent, rfl, rfl, rfl⟩
    | pinentryTimeout timer => exact .pinentryTimeout timer rfl hstep
    | initiateAuthentication actionId message iconName details cookie identities =>
        rw [hstep]
        exact .listener (.initiateAuthentication actionId message iconName details cookie
          identities) (by simp) hs (.refl _) (by simp [listenerCall?, hs])
    | cancelAuthentication =>
        rw [hstep]
        exact .listener .cancelAuthentication (by simp) hs (.refl _) (by simp [listenerCall?, hs])
    | request session text echo =>
        rw [hstep]
        exact .listener (.request session text echo) (by simp) hs (.refl _)
          (by simp [listenerCall?, hs])
    | completed session gained =>
        rw [hstep]
        exact .listener (.completed session gained) (by simp) hs (.refl _)
          (by simp [listenerCall?, hs])
    | showError session text =>
        rw [hstep]
        exact .listener (.showError session text) (by simp) hs (.refl _)
          (by simp [listenerCall?, hs])
    | showInfo session text =>
        rw [hstep]
        exact .listener (.showInfo session text) (by simp) hs (.refl _)
          (by simp [listenerCall?, hs])

end Daemon

end BbAuth
