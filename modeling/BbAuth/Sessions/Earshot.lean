import BbAuth.Flow.Speech
import BbAuth.Sessions.Hearing
/-!
# What a step says to a socket that is the audience

Every input is `Attuned` to a socket that stays the audience through it:
the session events written to the socket are those the handling emits,
unless the socket subscribes, which replays, or asks for the next event,
which repeats one. A handler emits by calls of the services alone, and
what it replies is mute.
-/

namespace BbAuth

open Agent ProviderRegistry

namespace Agent

variable {W : World} {a b c : Agent} {s : Socket}

/-- **From `a` to `b` the socket hears what is emitted**, if it is the
audience, and does not come to wait. -/
structure Attuned (s : Socket) (a b : Agent) : Prop where
  waits : s ∈ b.eventQueue.nextWaiters → s ∈ a.eventQueue.nextWaiters
  pushed : Holds s a → Remains s a b → Pushed s a b

theorem Mutes.attuned (h : Mutes s a b) : Attuned s a b := ⟨h.waits, fun _ _ => h.pushed⟩

theorem Follows.attuned (h : Follows s a b) : Attuned s a b := ⟨h.waits, h.pushed⟩

end Agent

namespace Daemon

variable {W : World} {d : Daemon} {i : Input} {s socket : Socket} {msg : QJsonObject}
  {type : MessageType}

/-! ## The replies are mute -/

theorem unrouted_of_plain {j : QJsonObject} (h : Plain j) : Unrouted j := by
  rw [Unrouted, isSessionEventForProviderRouting]
  simp only [Plain, List.mem_cons, List.not_mem_nil, or_false] at h
  rcases h with h | h | h | h | h <;> rw [h] <;> decide

theorem unrouted_keyringReply (km : KeyringManager) (a : Agent) (cookie response : String) :
    Unrouted (km.handleResponse W a cookie response).1 ∧
      Unrouted (km.handleCancel W a cookie).1 := by
  constructor
  · unfold KeyringManager.handleResponse
    split
    · exact unrouted_of_type (t := "error") rfl (by decide)
    · exact unrouted_of_type (t := "keyring_response") rfl (by decide)
  · unfold KeyringManager.handleCancel
    split
    · exact unrouted_of_type (t := "error") rfl (by decide)
    · exact unrouted_of_type (t := "keyring_response") rfl (by decide)

/-! ## Handlers that emit nothing -/

theorem mutes_summonFallback (d : Daemon) (reason : String) :
    Mutes s d.agent (d.summonFallback W reason).agent := by
  unfold summonFallback
  split
  · exact mutes_ensureFallbackUiRunning _ _
  · exact .refl _

theorem mutes_handlePing : Mutes s d.agent (d.handlePing W socket).agent := by
  have ht : Mutes s d.agent d.agent.ticked := mutes_of_eq id rfl
  refine ht.trans (mutes_sendJson _ fun _ => unrouted_of_type (t := "pong") ?_ (by decide))
  split <;> simp

/-- Somebody else's `next` is not heard. -/
theorem mutes_handleNext (h : socket ≠ s) : Mutes s d.agent (d.handleNext socket).agent := by
  rcases handleNext_cases d socket with ⟨-, heq⟩ | ⟨e, rest, -, heq⟩
  · rw [heq]
    refine mutes_of_eq (fun hs => ?_) rfl
    simpa [EventQueue.subscribeNext, Ne.symm h] using hs
  · rw [heq]
    have hset : Mutes s d.agent
        (d.agent.setQueue { d.agent.eventQueue with eventQueue := rest }) := mutes_of_eq id rfl
    exact hset.trans (mutes_sendJson _ fun he => absurd he h)

/-- Nor somebody else's subscription. -/
theorem mutes_handleSubscribe (h : socket ≠ s) :
    Mutes s d.agent (d.handleSubscribe W socket).agent := by
  have hsub : Mutes s d.agent (d.agent.subscribe socket).ticked := by
    rw [subscribe_eq]
    exact mutes_of_eq id rfl
  have hreplayed : Mutes s d.agent (replayed W d.agent socket) := by
    unfold replayed
    dsimp only
    split
    · exact hsub.trans (mutes_sendAll _ _ h)
    · exact hsub
  rw [handleSubscribe_agent]
  exact hreplayed.trans (mutes_sendJson _ fun he => absurd he h)

theorem mutes_handleUIRegister : Mutes s d.agent (d.handleUIRegister W socket msg).agent := by
  have henter : Mutes s d.agent (enterElected W d.agent socket msg) := mutes_of_eq id rfl
  have hreply := henter.trans (mutes_sendJson (t := socket)
    (j := registeredReply W d.agent socket msg) _ fun _ =>
      unrouted_of_type (t := "ui.registered") rfl (by decide))
  rw [handleUIRegister_agent]
  split
  · exact hreply.trans (mutes_emitProviderStatus _)
  · exact hreply

theorem mutes_handleUIHeartbeat : Mutes s d.agent (d.handleUIHeartbeat W socket).agent := by
  simp only [handleUIHeartbeat]
  split
  · exact mutes_sendJson _ fun _ => unrouted_of_plain (plain_error _)
  next registry hr =>
    have hset : Mutes s d.agent (d.agent.setRegistry registry).ticked := mutes_of_eq id rfl
    exact (hset.trans (mutes_recomputeAndEmit _)).trans
      (mutes_sendJson _ fun _ => unrouted_of_type (t := "ok") rfl (by decide))

theorem mutes_handleUIUnregister : Mutes s d.agent (d.handleUIUnregister W socket).agent := by
  simp only [handleUIUnregister]
  split
  · exact mutes_sendJson _ fun _ => unrouted_of_plain (plain_error _)
  · have hset : Mutes s d.agent (d.agent.setRegistry
        (d.agent.providerRegistry.unregisterProvider socket).2) := mutes_of_eq id rfl
    have hok := (hset.trans (mutes_recomputeAndEmit (W := W) _)).trans
      (mutes_sendJson (t := socket) (j := ok) _ fun _ => unrouted_of_plain plain_ok)
    exact hok.trans (mutes_summonFallback (d.withAgent _) _)

/-! ## Handlers that call the services -/

theorem follows_handleRespond : Follows s d.agent (d.handleRespond W socket msg).agent := by
  have hresp : Follows s d.agent (d.respond W socket msg).2.agent ∧
      Unrouted (d.respond W socket msg).1 := by
    have herr : ∀ m, Unrouted (error m) := fun m => unrouted_of_plain (plain_error m)
    simp only [respond]
    split
    · exact ⟨.refl _, herr _⟩
    split
    · have hcalls := Calls.follows (s := s) (KeyringManager.calls_handleResponse W d.agent
        d.keyringManager (msg.value "id").toString (msg.value "response").toString)
      refine ⟨?_, unrouted_of_plain plain_ok⟩
      dsimp only
      split
      · exact hcalls.trans (follows_sendJson _ fun _ => (unrouted_keyringReply _ _ _ _).1)
      · exact hcalls
    split
    next hp =>
      obtain ⟨r, hr⟩ := Table.mem_iff_exists.1 (Table.contains_eq_true.1 hp)
      obtain ⟨ht, -⟩ := PinentryManager.handleResponse_of_pending hr (msg.value "response").toString
      simp only [PinentryManager.getSocketForPendingInput, hr, Option.map_some, ht,
        QJsonValue.toString_string]
      rw [if_neg (by decide)]
      exact ⟨follows_sendJson _ fun _ => unrouted_of_type ht (by decide),
        unrouted_of_plain plain_ok⟩
    split
    · exact ⟨.refl _, herr _⟩
    split
    · exact ⟨.refl _, herr _⟩
    split
    · exact ⟨.refl _, herr _⟩
    · exact ⟨Calls.follows (PolkitListener.calls_submitPassword W d.agent d.listener _ _),
        unrouted_of_plain plain_ok⟩
  exact hresp.1.trans (follows_sendJson _ fun _ => hresp.2)

theorem follows_handleCancel : Follows s d.agent (d.handleCancel W socket msg).agent := by
  have hcancel : Follows s d.agent (d.cancel W socket msg).2.agent ∧
      Unrouted (d.cancel W socket msg).1 := by
    have herr : ∀ m, Unrouted (error m) := fun m => unrouted_of_plain (plain_error m)
    simp only [cancel]
    split
    · exact ⟨.refl _, herr _⟩
    split
    · have hcalls := Calls.follows (s := s) (KeyringManager.calls_handleCancel W d.agent
        d.keyringManager (msg.value "id").toString)
      refine ⟨?_, unrouted_of_plain plain_ok⟩
      dsimp only
      split
      · exact hcalls.trans (follows_sendJson _ fun _ => (unrouted_keyringReply _ _ _ "").2)
      · exact hcalls
    split
    next hp =>
      have hcalls := Calls.follows (s := s) (PinentryManager.calls_handleCancel W d.agent
        d.pinentryManager (msg.value "id").toString)
      have hreply : (d.pinentryManager.handleCancel W d.agent (msg.value "id").toString).1 =
          PinentryManager.cancelledReply (msg.value "id").toString :=
        congrArg Prod.fst (PinentryManager.handleCancel_of_hasRequest hp)
      have hunrouted :
          Unrouted (d.pinentryManager.handleCancel W d.agent (msg.value "id").toString).1 := by
        rw [hreply]
        exact unrouted_of_type (t := "pinentry_response") rfl (by decide)
      split
      · exact ⟨hcalls, hunrouted⟩
      · refine ⟨?_, unrouted_of_plain plain_ok⟩
        split
        · exact hcalls.trans (follows_sendJson _ fun _ => hunrouted)
        · exact hcalls
    split
    · exact ⟨.refl _, herr _⟩
    split
    · exact ⟨.refl _, herr _⟩
    · exact ⟨Calls.follows (PolkitListener.calls_cancelPending W d.agent d.listener _),
        unrouted_of_plain plain_ok⟩
  exact hcancel.1.trans (follows_sendJson _ fun _ => hcancel.2)

/-- **A message**, but for a subscription and a `next` of the socket
itself. -/
theorem attuned_dispatch (hm : d.message? i = some (type, socket, msg))
    (hsub : ∀ msg, d.message? i ≠ some (.subscribe, s, msg))
    (hnext : ∀ msg, d.message? i ≠ some (.next, s, msg)) :
    Attuned s d.agent (d.dispatch W type socket msg).agent := by
  cases type with
  | ping => exact mutes_handlePing.attuned
  | subscribe =>
      exact (mutes_handleSubscribe fun he => hsub msg (by rw [hm, he])).attuned
  | next => exact (mutes_handleNext fun he => hnext msg (by rw [hm, he])).attuned
  | keyringRequest =>
      exact (Calls.follows (KeyringManager.calls_handleRequest W d.agent d.keyringManager msg
        socket _)).attuned
  | pinentryRequest =>
      exact (Calls.follows (PinentryManager.calls_handleRequest W d.agent d.pinentryManager msg
        socket _)).attuned
  | pinentryResult =>
      have hcalls := Calls.follows (s := s) (PinentryManager.calls_handleResult W d.agent
        d.pinentryManager msg (d.agent.getPeerPid socket))
      exact (hcalls.trans (follows_sendJson _ fun _ =>
        unrouted_of_plain (plain_resultReply _ _ _ _))).attuned
  | uiRegister => exact mutes_handleUIRegister.attuned
  | uiHeartbeat => exact mutes_handleUIHeartbeat.attuned
  | uiUnregister => exact mutes_handleUIUnregister.attuned
  | sessionRespond => exact follows_handleRespond.attuned
  | sessionCancel => exact follows_handleCancel.attuned

/-! ## The disconnect of somebody else -/

/-- What is forgotten with another client. -/
theorem follows_forget (hne : socket ≠ s) (hd : Holds s d.agent) :
    Mutes s d.agent (d.forget W socket) ∧ Holds s (d.forget W socket) ∧
      ∀ b, (∀ t ∈ b.providerRegistry.uiProviders,
          t ∈ (d.forget W socket).providerRegistry.uiProviders) →
        Remains s d.agent b → Remains s (d.forget W socket) b := by
  have htalks : Talks W (leave d.agent socket) (d.forget W socket) :=
    talks_forgetClient d.agent socket
  have hleave : Edit d.agent (.disconnected socket) (leave d.agent socket) :=
    .disconnected socket rfl
  have hf := Talks.framed htalks
  have hlookup : ∀ t p, (d.forget W socket).providerRegistry.uiProviders.lookup t = some p →
      ∃ q, d.agent.providerRegistry.uiProviders.lookup t = some q ∧ q.priority = p.priority :=
    fun t p hp => hleave.priorities t p (Talks.lookup htalks hp)
  have hunrouteds : Mutes s d.agent (d.forget W socket) := by
    have hl : Mutes s d.agent (leave d.agent socket) := mutes_of_eq id rfl
    have hq : ∀ a : Agent, Mutes s a (a.setQueue (a.eventQueue.removeWaiter socket)) :=
      fun a => mutes_of_eq (fun hs => (List.mem_filter.1 hs).1) rfl
    simp only [forget, forgetClient]
    split
    · exact (hl.trans (mutes_recomputeAndEmit _)).trans (hq _)
    · exact hl.trans (hq _)
  refine ⟨hunrouteds, ⟨?_, fun hs => hd.waits (hunrouteds.waits hs), ?_, ?_, ?_⟩, fun b hb hr => ?_⟩
  · rw [isConnected_of_clients hf.clients]
    simpa [leave, Agent.isConnected, Ne.symm hne] using hd.connected
  · rw [hf.subscribers]
    exact hd.nodup.erase _
  · exact elected_forgetClient (a := d.agent.setClients (d.agent.clients.erase socket))
      hd.elected socket
  · exact htalks.crowned (hd.crowned.of_lookup rfl fun t p hp => hleave.priorities t p hp)
  · have hmem : ∀ t ∈ (d.forget W socket).providerRegistry.uiProviders,
        t ∈ d.agent.providerRegistry.uiProviders := by
      intro t ht
      obtain ⟨p, hp⟩ := Table.mem_iff_exists.1 ht
      obtain ⟨q, hq, -⟩ := hlookup t p hp
      exact Table.mem_iff_exists.2 ⟨q, hq⟩
    rcases hr with hs | ⟨ho, hm⟩
    · refine .inl ⟨fun t ht => hs.alone t (hmem t ht), ?_⟩
      rw [hf.subscribers]
      exact (List.mem_erase_of_ne (Ne.symm hne)).2 hs.subscribed
    · exact .inr ⟨ho.of_lookup (hb s hm) hlookup, hm⟩

/-- **The disconnect of another client.** -/
theorem attuned_disconnected (hne : socket ≠ s) (hd : Holds s d.agent) :
    Attuned s d.agent (((d.withAgent (d.agent.setClients (d.agent.clients.erase
      socket))).onClientDisconnected W socket).socketDeleted socket).agent := by
  rw [socketDeleted_onClientDisconnected hd.elected]
  obtain ⟨hunrouteds, hholds, hremains⟩ := follows_forget (W := W) hne hd
  have hk := Calls.follows (s := s) (KeyringManager.calls_cleanupForSocket W (d.forget W socket)
    d.keyringManager socket)
  have hp := Calls.follows (s := s) (PinentryManager.calls_cleanupForSocket W
    (d.keyringManager.cleanupForSocket W (d.forget W socket) socket).2 d.pinentryManager socket)
  have hsummon : Follows s (d.cleaned W socket).agent
      ((d.withAgent (d.agent.setClients (d.agent.clients.erase socket))).onClientDisconnected W
        socket).agent := by
    have hst := still_summonFallback (W := W) (d := { d with
      agent := (d.cleaned W socket).agent
      keyringManager := (d.cleaned W socket).keyringManager
      pinentryManager := (d.cleaned W socket).pinentryManager }) "provider-disconnected"
    exact (mutes_summonFallback _ "provider-disconnected").follows hst.clients hst.subscribers
      hst.providerRegistry
  have hrest : Follows s (d.forget W socket)
      ((d.withAgent (d.agent.setClients (d.agent.clients.erase socket))).onClientDisconnected W
        socket).agent := (hk.trans hp).trans hsummon
  refine ⟨fun hs => hunrouteds.waits (hrest.waits hs), fun _ hr => ?_⟩
  exact hunrouteds.pushed.trans (hrest.pushed hholds (hremains _ (fun t ht => hrest.mem ht) hr))

/-! ## Every step -/

/-- **Every step is attuned** to a socket that is connected before and
after it, and neither subscribes nor asks for the next event. -/
theorem attuned_step (hd : Holds s d.agent) (hc : (d.step W i).agent.isConnected s = true)
    (hsub : ∀ msg, d.message? i ≠ some (.subscribe, s, msg))
    (hnext : ∀ msg, d.message? i ≠ some (.next, s, msg)) :
    Attuned s d.agent (d.step W i).agent := by
  cases hm : d.message? i with
  | some m =>
      obtain ⟨type, socket, msg⟩ := m
      rw [step_of_message hm]
      exact attuned_dispatch hm hsub hnext
  | none =>
    have hrefl : Attuned s d.agent d.agent := (Mutes.refl _).attuned
    have hclients : ∀ t, Attuned s d.agent (d.agent.setClients t) :=
      fun t => (mutes_of_eq id rfl : Mutes s d.agent (d.agent.setClients t)).attuned
    have herr : ∀ socket m, Attuned s d.agent (d.sendJson socket (error m)).agent :=
      fun socket m => (mutes_sendJson _ fun _ => unrouted_of_plain (plain_error m)).attuned
    unfold step at hc ⊢
    split
    · exact hrefl
    next hu =>
    simp only [if_neg hu] at hc
    cases i with
    | line socket doc =>
        simp only [handle]
        split
        next hv =>
          unfold handleLine
          split
          · exact herr _ _
          next msg =>
            dsimp only
            split
            · exact herr _ _
            · have hl : handlers.lookup (msg.value "type").toString = none := by
                simpa [message?, hu, hv] using hm
              rw [hl]
              exact herr _ _
        · exact hrefl
    | newConnection socket peerPid =>
        simp only [handle]
        split
        · exact hrefl
        · exact hclients _
    | closing socket =>
        simp only [handle]
        split
        · exact hrefl
        · exact hclients _
    | disconnected socket =>
        simp only [handle] at hc ⊢
        split
        next hv =>
          rw [if_pos hv, socketDeleted_onClientDisconnected hd.elected] at hc
          refine attuned_disconnected (fun he => ?_) hd
          -- a client that is gone is connected no more
          have hf := Talks.framed (talks_disconnected (W := W) d socket)
          rw [isConnected_of_clients hf.clients, he] at hc
          simp [leave, Agent.isConnected] at hc
        · exact hrefl
    | providerMaintenance =>
        simp only [handle, withAgent, pruneStaleProviders]
        split
        · exact ((mutes_recomputeAndEmit _).trans (mutes_ensureFallbackUiRunning _ _)).attuned
        · exact (mutes_recomputeAndEmit _).attuned
    | pinentryTimeout timer =>
        exact (Calls.follows (PinentryManager.calls_onTimeout W d.agent d.pinentryManager
          timer)).attuned
    -- from here on polkit calls the listener
    | initiateAuthentication actionId message iconName details cookie identities =>
        exact (Calls.follows (PolkitListener.calls_initiateAuthentication W d.agent d.listener
          actionId message iconName details cookie identities)).attuned
    | cancelAuthentication =>
        exact (Calls.follows (PolkitListener.calls_cancelAuthentication W d.agent
          d.listener)).attuned
    | request session text echo =>
        exact (Calls.follows (PolkitListener.calls_onSessionRequest W d.agent d.listener session
          text echo)).attuned
    | completed session gained =>
        exact (Calls.follows (PolkitListener.calls_onSessionCompleted W d.agent d.listener session
          gained)).attuned
    | showError session text =>
        exact (Calls.follows (PolkitListener.calls_onSessionError W d.agent d.listener session
          text)).attuned
    | showInfo session text =>
        exact (Calls.follows (PolkitListener.calls_onSessionInfo W d.agent d.listener session
          text)).attuned

end Daemon

end BbAuth
