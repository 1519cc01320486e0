import BbAuth.Model.Daemon
import BbAuth.Provider.Talk
/-!
# What one input does to the providers

`Deal` says once what the handling of an input is on the provider side. A
few inputs edit the clients, the subscribers or the table first; from
there every handler is a chain of services, so that it elects whoever the
table then allows. A registration and a subscription are answered in their
own words, and an answer from a socket that is not the active provider's
is refused.
-/

namespace BbAuth

open ProviderRegistry

namespace Agent

variable {W : World} {a b : Agent}

theorem recomputeAndEmit_providerRegistry (W : World) (a : Agent) :
    (a.recomputeAndEmit W).providerRegistry =
      (a.recomputeActiveProvider W).2.providerRegistry := by
  simp only [recomputeAndEmit]
  split
  · exact emitProviderStatus_providerRegistry W _
  · rfl

theorem elected_recomputeActiveProvider (W : World) (a : Agent) :
    (a.recomputeActiveProvider W).2.providerRegistry.Elected :=
  ProviderRegistry.elected_recomputeActiveProvider (W.walk_perm _ _)

theorem elected_recomputeAndEmit (W : World) (a : Agent) :
    (a.recomputeAndEmit W).providerRegistry.Elected := by
  rw [recomputeAndEmit_providerRegistry]
  exact elected_recomputeActiveProvider W a

/-- **Services keep the registry elected.** -/
theorem Talks.elected (h : Talks W a b) (ha : a.providerRegistry.Elected) :
    b.providerRegistry.Elected := by
  induction h with
  | refl => exact ha
  | tail _ hstep ih =>
      cases hstep with
      | still hs => exact hs.providerRegistry ▸ ih
      | elected he => exact he ▸ elected_recomputeAndEmit W _

/-- **And register nobody.** -/
theorem Talks.lookup (h : Talks W a b) {s : Socket} {p : UIProvider}
    (hb : b.providerRegistry.uiProviders.lookup s = some p) :
    a.providerRegistry.uiProviders.lookup s = some p := by
  induction h with
  | refl => exact hb
  | tail _ hstep ih =>
      refine ih ?_
      cases hstep with
      | still hs => rwa [hs.providerRegistry] at hb
      | elected he =>
          rw [he, recomputeAndEmit_providerRegistry] at hb
          exact ((lookup_recomputeActiveProvider (W.walk_perm _ _)).1 hb).1

theorem talks_pruneStaleProviders (W : World) (a : Agent) :
    Talks W a (a.pruneStaleProviders W) := by
  simp only [pruneStaleProviders]
  split
  · exact (talks_recomputeAndEmit a).tail (.still (still_ensureFallbackUiRunning W _ _))
  · exact talks_recomputeAndEmit a

theorem talks_sendJson (a : Agent) (s : Socket) {j : QJsonObject} (h : Inert j) :
    Talks W a (a.sendJson s j) := (still_sendJson a s h).talks

/-- The queue loses a waiter and no event. -/
theorem still_removeWaiter (a : Agent) (s : Socket) :
    Still a (a.setQueue (a.eventQueue.removeWaiter s)) :=
  ⟨rfl, rfl, rfl, le_rfl, fun h => ⟨h, [], by simp, by simp⟩⟩

end Agent

open Agent

namespace Daemon

variable (W : World) (d : Daemon)

/-- The clients, the subscribers and the table without a client. -/
def leave (a : Agent) (socket : Socket) : Agent :=
  ((a.setClients (a.clients.erase socket)).setSubscribers (a.subscribers.erase socket)).setRegistry
    (a.providerRegistry.removeSocket socket).2

/-- **What an input writes** to the clients, the subscribers or the table,
before anything else is done about the providers. -/
inductive Edit (a : Agent) (i : Input) : Agent → Prop
  | connected (socket : Socket) (peerPid : Pid) (hi : i = .newConnection socket peerPid)
      (hn : socket ∉ a.clients) :
      Edit a i (a.setClients (a.clients.insert socket { peerPid := peerPid }))
  | closing (socket : Socket) (client : Client) (hi : i = .closing socket)
      (hc : a.clients.lookup socket = some client) :
      Edit a i (a.setClients (a.clients.insert socket { client with state := .closing }))
  | heartbeat (socket : Socket) (provider : UIProvider) (nowMs : ℤ)
      (hp : a.providerRegistry.uiProviders.lookup socket = some provider) :
      Edit a i (a.setRegistry { a.providerRegistry with
        uiProviders := a.providerRegistry.uiProviders.insert socket
          { provider with lastHeartbeatMs := nowMs } })
  | unregistered (socket : Socket) :
      Edit a i (a.setRegistry (a.providerRegistry.unregisterProvider socket).2)
  | disconnected (socket : Socket) (hi : i = .disconnected socket) :
      Edit a i (leave a socket)

/-- **What the handling of an input is to the providers**: `b` is the agent
it leaves. -/
inductive Deal (i : Input) (b : Agent) : Prop
  | talks (h : Talks W d.agent b)
  | edited (a : Agent) (hedit : Edit d.agent i a) (h : Talks W a b)
      (he : b.providerRegistry.Elected)
  | refused (socket : Socket) (msg : QJsonObject) (hi : i = .line socket (some msg))
      (hu : d.agent.isAuthorizedProviderSocket socket = false)
      (h : b = d.agent.sendJson socket (error "Not active UI provider"))
  | subscribed (socket : Socket) (msg : QJsonObject) (hi : i = .line socket (some msg))
      (hv : socket ∈ d.agent.clients) (h : b = (d.handleSubscribe W socket).agent)
  | registered (socket : Socket) (msg : QJsonObject) (hi : i = .line socket (some msg))
      (ht : (msg.value "type").toString = "ui.register") (hv : socket ∈ d.agent.clients)
      (h : b = (d.handleUIRegister W socket msg).agent)

/-! ## The handlers -/

variable {W d} {i : Input} {socket : Socket} {msg : QJsonObject}

theorem still_summonFallback (reason : String) :
    Still d.agent (d.summonFallback W reason).agent := by
  unfold summonFallback
  split
  · exact still_ensureFallbackUiRunning W _ _
  · exact .refl _

theorem still_handlePing : Still d.agent (d.handlePing W socket).agent := by
  refine (still_ticked d.agent).trans (still_sendJson _ socket ?_)
  refine inert_of_type (t := "pong") ?_ (by decide)
  split <;> simp

/-- **`next`** makes the client wait, or hands it the oldest event. -/
theorem handleNext_cases (d : Daemon) (socket : Socket) :
    (d.agent.eventQueue.eventQueue = [] ∧ (d.handleNext socket).agent =
      d.agent.setQueue (d.agent.eventQueue.subscribeNext socket)) ∨
    ∃ e rest, d.agent.eventQueue.eventQueue = e :: rest ∧ (d.handleNext socket).agent =
      (d.agent.setQueue { d.agent.eventQueue with eventQueue := rest }).sendJson socket e := by
  cases hq : d.agent.eventQueue.eventQueue with
  | nil => exact .inl ⟨rfl, by simp [handleNext, EventQueue.isEmpty, hq, withAgent]⟩
  | cons e rest =>
      exact .inr ⟨e, rest, rfl, by
        simp [handleNext, EventQueue.isEmpty, EventQueue.takeNext, hq, withAgent]⟩

theorem still_handleNext : Still d.agent (d.handleNext socket).agent := by
  rcases handleNext_cases d socket with ⟨-, heq⟩ | ⟨e, rest, hq, heq⟩
  · rw [heq]
    exact ⟨rfl, rfl, rfl, le_rfl, fun h => ⟨h, [], by simp, by simp⟩⟩
  · rw [heq]
    refine ⟨by simp, by simp, by simp, by simp, fun hall => ?_⟩
    -- what the queue holds is inert, so what is taken from it is
    have hrest : EventQueue.AllInert { d.agent.eventQueue with eventQueue := rest } :=
      fun e' hm => hall e' (hq ▸ List.mem_cons_of_mem _ hm)
    exact (still_sendJson (d.agent.setQueue { d.agent.eventQueue with eventQueue := rest }) socket
      (hall e (hq ▸ List.mem_cons_self))).talk hrest

theorem inert_resultReply (pm : PinentryManager) (a : Agent) (msg : QJsonObject) (pid : Pid) :
    Inert (pm.handleResult W a msg pid).1 := by
  have hok : Inert PinentryManager.okReply := inert_of_type rfl (by decide)
  have herr : ∀ m, m ≠ "Not active UI provider" → Inert (PinentryManager.errorReply m) :=
    fun m hm => inert_error hm
  unfold PinentryManager.handleResult
  dsimp only
  split
  · exact herr _ (by decide)
  split
  · exact herr _ (by decide)
  split
  · exact herr _ (by decide)
  split
  · exact hok
  split
  · exact hok
  split
  · exact hok
  split
  · exact hok
  · exact herr _ (by decide)

theorem inert_ok : Inert ok := inert_of_type rfl (by decide)

/-- An authorized response is answered with an inert reply. -/
theorem talks_respond (h : d.agent.isAuthorizedProviderSocket socket = true) (msg : QJsonObject) :
    Talks W d.agent (d.respond W socket msg).2.agent ∧ Inert (d.respond W socket msg).1 := by
  simp only [respond, h, Bool.not_true, Bool.false_eq_true, if_false]
  split
  · have hk := (KeyringManager.calls_handleResponse W d.agent d.keyringManager
      (msg.value "id").toString (msg.value "response").toString).talks
    refine ⟨?_, inert_ok⟩
    split
    · refine hk.trans (talks_sendJson _ _ ?_)
      unfold KeyringManager.handleResponse
      split
      · exact inert_error (by decide)
      · exact inert_of_type (t := "keyring_response") rfl (by decide)
    · exact hk
  split
  next hp =>
    obtain ⟨r, hr⟩ := Table.mem_iff_exists.1 (Table.contains_eq_true.1 hp)
    have ht : (d.pinentryManager.handleResponse (msg.value "id").toString
        (msg.value "response").toString).1.value "type" = .string "pinentry_response" := by
      simp only [PinentryManager.handleResponse, hr]
      split <;> simp
    simp only [PinentryManager.getSocketForPendingInput, hr, Option.map_some, ht,
      QJsonValue.toString_string]
    rw [if_neg (by decide)]
    exact ⟨talks_sendJson _ _ (inert_of_type ht (by decide)), inert_ok⟩
  split
  · exact ⟨.refl, inert_error (by decide)⟩
  split
  · exact ⟨.refl, inert_error (by decide)⟩
  split
  · exact ⟨.refl, inert_error (by decide)⟩
  · exact ⟨(PolkitListener.calls_submitPassword W d.agent d.listener _ _).talks, inert_ok⟩

/-- And so is an authorized cancellation. -/
theorem talks_cancel (h : d.agent.isAuthorizedProviderSocket socket = true) (msg : QJsonObject) :
    Talks W d.agent (d.cancel W socket msg).2.agent ∧ Inert (d.cancel W socket msg).1 := by
  simp only [cancel, h, Bool.not_true, Bool.false_eq_true, if_false]
  split
  · have hk := (KeyringManager.calls_handleCancel W d.agent d.keyringManager
      (msg.value "id").toString).talks
    refine ⟨?_, inert_ok⟩
    split
    · refine hk.trans (talks_sendJson _ _ ?_)
      unfold KeyringManager.handleCancel
      split
      · exact inert_error (by decide)
      · exact inert_of_type (t := "keyring_response") rfl (by decide)
    · exact hk
  split
  · have hp := (PinentryManager.calls_handleCancel W d.agent d.pinentryManager
      (msg.value "id").toString).talks
    have hi : Inert (d.pinentryManager.handleCancel W d.agent (msg.value "id").toString).1 := by
      unfold PinentryManager.handleCancel
      dsimp only
      split
      · exact inert_of_type (t := "pinentry_response") rfl (by decide)
      split
      · exact inert_of_type (t := "pinentry_response") rfl (by decide)
      split
      · exact inert_of_type (t := "pinentry_response") rfl (by decide)
      · exact inert_error (by decide)
    split
    · exact ⟨hp, hi⟩
    · refine ⟨?_, inert_ok⟩
      split
      · exact hp.trans (talks_sendJson _ _ hi)
      · exact hp
  split
  · exact ⟨.refl, inert_error (by decide)⟩
  split
  · exact ⟨.refl, inert_error (by decide)⟩
  · exact ⟨(PolkitListener.calls_cancelPending W d.agent d.listener _).talks, inert_ok⟩

theorem deal_respond (hi : i = .line socket (some msg)) :
    Deal W d i (d.handleRespond W socket msg).agent := by
  cases hu : d.agent.isAuthorizedProviderSocket socket with
  | false => exact .refused socket msg hi hu (by simp [handleRespond, respond, hu, sendJson, withAgent])
  | true =>
      obtain ⟨ht, hj⟩ := talks_respond (W := W) hu msg
      exact .talks (ht.trans (talks_sendJson _ _ hj))

theorem deal_cancel (hi : i = .line socket (some msg)) :
    Deal W d i (d.handleCancel W socket msg).agent := by
  cases hu : d.agent.isAuthorizedProviderSocket socket with
  | false => exact .refused socket msg hi hu (by simp [handleCancel, cancel, hu, sendJson, withAgent])
  | true =>
      obtain ⟨ht, hj⟩ := talks_cancel (W := W) hu msg
      exact .talks (ht.trans (talks_sendJson _ _ hj))

/-- A heartbeat is unknown, or renews the entry and elects. -/
theorem deal_handleUIHeartbeat : Deal W d i (d.handleUIHeartbeat W socket).agent := by
  simp only [handleUIHeartbeat, ProviderRegistry.heartbeat]
  cases hp : d.agent.providerRegistry.uiProviders.lookup socket with
  | none => exact .talks (talks_sendJson _ _ (inert_error (by decide)))
  | some provider =>
      refine .edited _ (.heartbeat socket provider (W.currentMSecs d.agent.tick) hp)
        (((still_ticked _).talks.trans (talks_recomputeAndEmit _)).trans
          (talks_sendJson _ _ (inert_of_type (t := "ok") rfl (by decide)))) ?_
      simp only [withAgent, sendJson_providerRegistry]
      exact elected_recomputeAndEmit W _

/-- An unregistration is unknown, or drops the entry and elects. -/
theorem deal_handleUIUnregister : Deal W d i (d.handleUIUnregister W socket).agent := by
  simp only [handleUIUnregister]
  split
  · exact .talks (talks_sendJson _ _ (inert_error (by decide)))
  · have ht := (talks_recomputeAndEmit (W := W) (d.agent.setRegistry
      (d.agent.providerRegistry.unregisterProvider socket).2)).trans (talks_sendJson _ socket inert_ok)
    have hs := still_summonFallback (W := W) (d := d.withAgent
      (((d.agent.setRegistry (d.agent.providerRegistry.unregisterProvider socket).2).recomputeAndEmit
        W).sendJson socket ok)) "provider-unregistered"
    refine .edited _ (.unregistered socket) (ht.trans hs.talks) ?_
    rw [hs.providerRegistry]
    simp only [withAgent, sendJson_providerRegistry]
    exact elected_recomputeAndEmit W _

/-- Only `ui.register` registers. -/
theorem handlers_uiRegister {type : String} (h : handlers.lookup type = some .uiRegister) :
    type = "ui.register" := by
  obtain ⟨l, m, heq, -⟩ := List.lookup_eq_some_iff.1 h
  have hm : (type, MessageType.uiRegister) ∈ handlers := by simp [heq]
  simpa [handlers] using hm

theorem deal_dispatch {type : MessageType} (hi : i = .line socket (some msg))
    (hv : socket ∈ d.agent.clients) (ht : handlers.lookup (msg.value "type").toString = some type) :
    Deal W d i (d.dispatch W type socket msg).agent := by
  cases type with
  | ping => exact .talks still_handlePing.talks
  | subscribe => exact .subscribed socket msg hi hv rfl
  | next => exact .talks still_handleNext.talks
  | keyringRequest =>
      exact .talks (KeyringManager.calls_handleRequest W d.agent d.keyringManager msg socket _).talks
  | pinentryRequest =>
      exact .talks
        (PinentryManager.calls_handleRequest W d.agent d.pinentryManager msg socket _).talks
  | pinentryResult =>
      exact .talks ((PinentryManager.calls_handleResult W d.agent d.pinentryManager msg _).talks.trans
        (talks_sendJson _ _ (inert_resultReply _ _ msg _)))
  | uiRegister => exact .registered socket msg hi (handlers_uiRegister ht) hv rfl
  | uiHeartbeat => exact deal_handleUIHeartbeat
  | uiUnregister => exact deal_handleUIUnregister
  | sessionRespond => exact deal_respond hi
  | sessionCancel => exact deal_cancel hi

theorem deal_handleLine (hv : socket ∈ d.agent.clients) (doc : Option QJsonObject) :
    Deal W d (.line socket doc) (d.handleLine W socket doc).agent := by
  unfold handleLine
  split
  · exact .talks (talks_sendJson _ _ (inert_error (by decide)))
  · dsimp only
    split
    · exact .talks (talks_sendJson _ _ (inert_error (by decide)))
    · split
      · exact .talks (talks_sendJson _ _ (inert_error (by decide)))
      next ht => exact deal_dispatch rfl hv ht

/-! ## The disconnect -/

theorem talks_forgetClient (a : Agent) (socket : Socket) :
    Talks W (leave a socket) (forgetClient W (a.setClients (a.clients.erase socket)) socket) := by
  simp only [forgetClient]
  split
  · exact (talks_recomputeAndEmit _).tail (.still (still_removeWaiter _ _))
  · exact (still_removeWaiter _ _).talks

/-- Where the socket was a provider's, an election follows; where it was
not, the registry stays. -/
theorem elected_forgetClient {a : Agent} (ha : a.providerRegistry.Elected) (socket : Socket) :
    (forgetClient W a socket).providerRegistry.Elected := by
  by_cases hm : socket ∈ a.providerRegistry.uiProviders
  · have hc : (a.providerRegistry.removeSocket socket).1 = true := Table.contains_eq_true.2 hm
    simp only [forgetClient, setSubscribers_providerRegistry, hc, if_true,
      setQueue_providerRegistry]
    exact elected_recomputeAndEmit W _
  · have hc : a.providerRegistry.removeSocket socket = (false, a.providerRegistry) := by
      have := Table.contains_eq_false.2 hm
      simp [removeSocket, unregisterProvider, Table.erase_of_notMem hm, this]
    simpa [forgetClient, hc] using ha

theorem talks_onClientDisconnected (socket : Socket) :
    Talks W (forgetClient W d.agent socket) (d.onClientDisconnected W socket).agent := by
  have hk := (KeyringManager.calls_cleanupForSocket W (forgetClient W d.agent socket)
    d.keyringManager socket).talks
  have hp := (PinentryManager.calls_cleanupForSocket W
    (d.keyringManager.cleanupForSocket W (forgetClient W d.agent socket) socket).2
    d.pinentryManager socket).talks
  simp only [onClientDisconnected]
  refine (hk.trans hp).tail (.still ?_)
  exact still_summonFallback (d := { d with
    agent := _, keyringManager := _, pinentryManager := _ }) "provider-disconnected"

theorem talks_disconnected (d : Daemon) (socket : Socket) :
    Talks W (leave d.agent socket)
      ((d.withAgent (d.agent.setClients (d.agent.clients.erase socket))).onClientDisconnected W
        socket).agent :=
  (talks_forgetClient d.agent socket).trans
    (talks_onClientDisconnected (d := d.withAgent (d.agent.setClients
      (d.agent.clients.erase socket))) socket)

/-- The socket that is gone is registered no more. -/
theorem lookup_onClientDisconnected (socket : Socket) :
    ((d.withAgent (d.agent.setClients (d.agent.clients.erase socket))).onClientDisconnected W
      socket).agent.providerRegistry.uiProviders.lookup socket = none := by
  rw [Option.eq_none_iff_forall_ne_some]
  intro p hp
  have := Talks.lookup (talks_disconnected d socket) hp
  simp [leave, removeSocket, unregisterProvider] at this

/-- The socket is not the active provider's any more, so its deletion
clears nothing. -/
theorem socketDeleted_onClientDisconnected (h : d.agent.providerRegistry.Elected)
    (socket : Socket) :
    (((d.withAgent (d.agent.setClients (d.agent.clients.erase socket))).onClientDisconnected W
        socket).socketDeleted socket).agent =
      ((d.withAgent (d.agent.setClients (d.agent.clients.erase socket))).onClientDisconnected W
        socket).agent := by
  set d' := (d.withAgent (d.agent.setClients (d.agent.clients.erase socket))).onClientDisconnected W
    socket with hd'
  have he : d'.agent.providerRegistry.Elected :=
    (talks_onClientDisconnected socket).elected (elected_forgetClient (by exact h) socket)
  have hne : d'.agent.providerRegistry.activeProvider ≠ some socket := by
    intro ha
    obtain ⟨p, hp⟩ := he.registered socket ha
    rw [hd', lookup_onClientDisconnected] at hp
    cases hp
  simp only [socketDeleted, withAgent, if_neg hne]
  rfl

theorem deal_disconnected (h : d.agent.providerRegistry.Elected) (socket : Socket) :
    Deal W d (.disconnected socket)
      (((d.withAgent (d.agent.setClients (d.agent.clients.erase socket))).onClientDisconnected W
        socket).socketDeleted socket).agent := by
  rw [socketDeleted_onClientDisconnected h]
  exact .edited _ (.disconnected socket rfl) (talks_disconnected d socket)
    ((talks_onClientDisconnected socket).elected (elected_forgetClient (by exact h) socket))

/-! ## Every input -/

/-- **The handling of an input is a deal.** -/
theorem deal_handle (h : d.agent.providerRegistry.Elected) (i : Input) :
    Deal W d i (d.handle W i).agent := by
  cases i with
  | newConnection socket peerPid =>
      simp only [handle]
      split
      · exact .talks .refl
      next hv =>
        exact .edited _ (.connected socket peerPid rfl (by simpa [isValid] using hv)) .refl h
  | closing socket =>
      simp only [handle]
      split
      · exact .talks .refl
      next client hc => exact .edited _ (.closing socket client rfl hc) .refl h
  | line socket doc =>
      simp only [handle]
      split
      next hv => exact deal_handleLine (by simpa [isValid] using hv) doc
      · exact .talks .refl
  | disconnected socket =>
      simp only [handle]
      split
      · exact deal_disconnected h socket
      · exact .talks .refl
  | providerMaintenance => exact .talks (talks_pruneStaleProviders W d.agent)
  | pinentryTimeout timer =>
      exact .talks (PinentryManager.calls_onTimeout W d.agent _ timer).talks
  | initiateAuthentication actionId message iconName details cookie identities =>
      exact .talks (PolkitListener.calls_initiateAuthentication W d.agent _ _ _ _ _ _ _).talks
  | cancelAuthentication => exact .talks (PolkitListener.calls_cancelAuthentication W d.agent _).talks
  | request session text echo =>
      exact .talks (PolkitListener.calls_onSessionRequest W d.agent _ _ _ _).talks
  | completed session gained =>
      exact .talks (PolkitListener.calls_onSessionCompleted W d.agent _ _ _).talks
  | showError session text =>
      exact .talks (PolkitListener.calls_onSessionError W d.agent _ _ _).talks
  | showInfo session text =>
      exact .talks (PolkitListener.calls_onSessionInfo W d.agent _ _ _).talks

/-! ## The election -/

theorem handleSubscribe_providerRegistry (socket : Socket) :
    (d.handleSubscribe W socket).agent.providerRegistry = d.agent.providerRegistry := by
  have hs : (d.agent.subscribe socket).providerRegistry = d.agent.providerRegistry := by
    unfold subscribe
    split <;> rfl
  simp only [handleSubscribe, withAgent, sendJson_providerRegistry]
  split
  · rw [sendAll_eq]
    exact hs
  · exact hs

theorem elected_handleUIRegister (socket : Socket) (msg : QJsonObject) :
    (d.handleUIRegister W socket msg).agent.providerRegistry.Elected := by
  simp only [handleUIRegister, withAgent]
  split
  · simp only [emitProviderStatus_providerRegistry, sendJson_providerRegistry]
    exact elected_recomputeActiveProvider W _
  · rw [sendJson_providerRegistry]
    exact elected_recomputeActiveProvider W _

/-- **A deal leaves the registry elected.** -/
theorem Deal.elected {b : Agent} (h : Deal W d i b) (hd : d.agent.providerRegistry.Elected) :
    b.providerRegistry.Elected := by
  cases h with
  | talks h => exact h.elected hd
  | edited _ _ _ he => exact he
  | refused socket msg hi hu h =>
      rw [h, sendJson_providerRegistry]
      exact hd
  | subscribed socket msg hi hv h =>
      rw [h, handleSubscribe_providerRegistry]
      exact hd
  | registered socket msg hi ht hv h => exact h ▸ elected_handleUIRegister socket msg

end Daemon

end BbAuth
