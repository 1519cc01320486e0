import BbAuth.Flow.State
import BbAuth.Provider.Agreement
/-!
# Whoever loses the active provider summons the fallback UI

A session nobody can show is what `ensureFallbackUiRunning` is for. It is
called by hand: where a session is created, after an unregistration, after
a disconnect and at every maintenance tick. `Serves` says of a piece of a
handler that it does not lead into the situation without a call, and is
proved of every service and every handler but two. A registration and a
heartbeat elect as well, and make no call where nobody is left: which needs
a clock that runs ahead by more than the heartbeat timeout between the two
readings of one handler.
-/

namespace BbAuth

open ProviderRegistry

namespace Agent

variable {W : World} {a b c : Agent}

/-- **A session is open and no provider is active.** -/
def Unserved (a : Agent) : Prop :=
  a.hasActiveProvider = false ∧ a.sessionStore.empty = false

/-- **Between `a` and `b` the fallback UI is summoned**: it is called for,
with the providers of `b`, and with a session open. -/
def Summoned (a b : Agent) : Prop :=
  ∃ (reason : String) (store : SessionStore),
    .ensureFallbackUiRunning reason b.providerRegistry store ∈ b.log.drop a.log.length ∧
      store.empty = false

/-- What is written between `b` and `c` is written between `a` and `c`. -/
theorem mem_drop_of_prefix {o : Output} (h : a.log <+: b.log)
    (ho : o ∈ c.log.drop b.log.length) : o ∈ c.log.drop a.log.length := by
  refine List.mem_of_mem_drop (i := b.log.length - a.log.length) ?_
  rwa [List.drop_drop, Nat.add_sub_cancel' h.length_le]

/-- And so is what is written between `a` and `b`. -/
theorem mem_drop_prefix {o : Output} (h : b.log <+: c.log)
    (ho : o ∈ b.log.drop a.log.length) : o ∈ c.log.drop a.log.length :=
  (h.drop a.log.length).subset ho

/-- **No one is left unserved**: `b` is so only if `a` was, with the same
providers, or if the fallback UI has been summoned. -/
structure Serves (a b : Agent) : Prop where
  log : a.log <+: b.log
  served : b.Unserved → a.Unserved ∧ b.providerRegistry = a.providerRegistry ∨ Summoned a b

theorem Serves.of_eq (hl : a.log <+: b.log) (hr : b.providerRegistry = a.providerRegistry)
    (hs : b.sessionStore.empty = a.sessionStore.empty) : Serves a b where
  log := hl
  served h := .inl ⟨by simpa only [Unserved, hasActiveProvider, hr, hs] using h, hr⟩

theorem Serves.refl (a : Agent) : Serves a a := .of_eq List.prefix_rfl rfl rfl

theorem Serves.trans (h : Serves a b) (h' : Serves b c) : Serves a c where
  log := h.log.trans h'.log
  served hc := by
    rcases h'.served hc with ⟨hb, hr⟩ | ⟨reason, store, ho, hs⟩
    · rcases h.served hb with ⟨ha, hr'⟩ | ⟨reason, store, ho, hs⟩
      · exact .inl ⟨ha, hr.trans hr'⟩
      · exact .inr ⟨reason, store, hr ▸ mem_drop_prefix h'.log ho, hs⟩
    · exact .inr ⟨reason, store, mem_drop_of_prefix h.log ho, hs⟩

/-- What ends with no session open leaves nobody unserved. -/
theorem Serves.of_empty (hl : a.log <+: b.log) (hs : b.sessionStore.empty = true) :
    Serves a b where
  log := hl
  served h := absurd hs (by rw [h.2]; simp)

theorem serves_sendJson (a : Agent) (s : Socket) (j : QJsonObject) :
    Serves a (a.sendJson s j) :=
  .of_eq (quiet_sendJson a s j).log (sendJson_providerRegistry a s j)
    (by rw [sendJson_sessionStore])

/-! ## The services -/

theorem ensureFallbackUiRunning_log (a : Agent) (reason : String) :
    (a.ensureFallbackUiRunning W reason).log =
      a.log ++ [.ensureFallbackUiRunning reason a.providerRegistry a.sessionStore] := by
  simp only [ensureFallbackUiRunning]
  split
  · rfl
  · split
    · rfl
    · split
      · rfl
      · split <;> rfl

theorem ensureFallbackUiRunning_providerRegistry (a : Agent) (reason : String) :
    (a.ensureFallbackUiRunning W reason).providerRegistry = a.providerRegistry :=
  (still_ensureFallbackUiRunning W a reason).providerRegistry

/-- **A call with a session open summons.** -/
theorem summoned_ensureFallbackUiRunning (hl : a.log <+: b.log) (reason : String)
    (hs : b.sessionStore.empty = false) : Summoned a (b.ensureFallbackUiRunning W reason) := by
  refine ⟨reason, b.sessionStore, ?_, hs⟩
  rw [ensureFallbackUiRunning_providerRegistry, ensureFallbackUiRunning_log,
    List.drop_append_of_le_length hl.length_le]
  exact List.mem_append_right _ (List.mem_singleton_self _)

/-- **A call where it is due serves**, whatever was done before. -/
theorem serves_ensureFallbackUiRunning (hl : a.log <+: b.log) (reason : String) :
    Serves a (b.ensureFallbackUiRunning W reason) where
  log := hl.trans (quiet_ensureFallbackUiRunning W b reason).log
  served h := by
    refine .inr (summoned_ensureFallbackUiRunning hl reason ?_)
    rw [← (quiet_ensureFallbackUiRunning W b reason).sessionStore]
    exact h.2

theorem not_empty_of_lookup {st : SessionStore} {id : String} {s : Session}
    (h : st.sessions.lookup id = some s) : st.empty = false :=
  Table.isEmpty_pairs_of_lookup h

/-- Storing and then emitting leaves the providers alone. -/
theorem store_emit_providerRegistry (a : Agent) (store : SessionStore) {e : QJsonObject}
    (he : Inert e) : ((a.setStore store).emitSessionEvent e).providerRegistry =
      a.providerRegistry :=
  (still_emitSessionEvent (a.setStore store) he).providerRegistry

theorem serves_emitUpdate (a : Agent) (id : String) {f : Session → Session}
    (hf : ∀ s, (f s).id = s.id) : Serves a (a.emitUpdate (a.sessionStore.update id f)) := by
  cases h : a.getSession id with
  | none =>
      rw [emitUpdate_of_none a id h]
      exact .refl a
  | some s =>
      have hemits := emitUpdate_of_some a id h (hf s)
      have hreg : (a.emitUpdate (a.sessionStore.update id f)).providerRegistry =
          a.providerRegistry := by
        have h' : a.sessionStore.sessions.lookup id = some s := h
        simp only [emitUpdate, SessionStore.update, h']
        exact store_emit_providerRegistry a _ (inert_updated _)
      refine .of_eq hemits.log hreg ?_
      have hstored : (a.emitUpdate (a.sessionStore.update id f)).sessionStore.sessions.lookup id =
          some (f s) := by
        rw [hemits.sessions]
        simp
      rw [not_empty_of_lookup h, not_empty_of_lookup hstored]

theorem serves_createSession (a : Agent) (id : String) (source : Session.Source)
    (ctx : Session.Context) : Serves a (a.createSession W id source ctx).2 := by
  unfold createSession
  cases h : a.sessionStore.createSession id source ctx with
  | none => exact .refl a
  | some r =>
      obtain ⟨e, store⟩ := r
      have hl := (emits_store_emit a store e).log
      dsimp only
      split
      · exact serves_ensureFallbackUiRunning hl _
      next hact =>
        -- an active provider there was is there still
        refine ⟨hl, fun hu => ?_⟩
        rw [hu.1] at hact
        exact absurd rfl hact

/-- A close leaves the providers alone, or no session. -/
theorem serves_store_emit (a : Agent) {store : SessionStore} {id : String} {r : Session.Result}
    {e : QJsonObject} (h : a.sessionStore.closeSession id r = some (e, store))
    (he : store.empty = false) : Serves a ((a.setStore store).emitSessionEvent e) := by
  refine .of_eq (emits_store_emit a store e).log
    (store_emit_providerRegistry a store (inert_of_closeSession h)) ?_
  have hs : ((a.setStore store).emitSessionEvent e).sessionStore.empty = store.empty := by
    rw [SessionStore.empty, (emits_store_emit a store e).sessions, SessionStore.empty]
  unfold SessionStore.closeSession at h
  split at h
  · cases h
  next s hlook => rw [hs, he, not_empty_of_lookup hlook]

theorem Call.serves {S : Set Output} (h : Call W S a b) : Serves a b := by
  have hlog := h.extends.log
  cases h with
  | ticked => exact .of_eq List.prefix_rfl rfl rfl
  | trace o ho => exact .of_eq (List.prefix_append _ _) rfl rfl
  | collision socket hs =>
      refine .of_eq hlog ?_ (by rw [(quiet_writeJson a socket _).sessionStore])
      exact (still_writeJson a socket inert_collisionError).providerRegistry
  | create id source ctx => exact serves_createSession a id source ctx
  | update id f hf => exact serves_emitUpdate a id fun s => (hf s).id
  | retryPrompt id s h cur max prompt echo clearError =>
      have hr : Serves a (a.updateSessionPinentryRetry id cur max) := by
        refine .of_eq List.prefix_rfl rfl ?_
        rcases updateSessionPinentryRetry_of_some a id h cur max with heq | ⟨heq, -⟩
        · have hstored :
              (a.updateSessionPinentryRetry id cur max).sessionStore.sessions.lookup id =
                some (s.setPinentryRetry cur max) := by
            rw [heq]
            simp
          rw [not_empty_of_lookup h, not_empty_of_lookup hstored]
        · rw [heq]
      exact hr.trans (serves_emitUpdate _ id fun s => rfl)
  | close id r =>
      cases h : a.sessionStore.closeSession id r with
      | none =>
          simp only [closeSession, h]
          exact .refl a
      | some q =>
          obtain ⟨e, store⟩ := q
          simp only [closeSession, h, Bool.not_false, if_true] at hlog ⊢
          split at hlog
          next he =>
            rw [if_pos he]
            refine .of_empty hlog ?_
            rw [SessionStore.empty, (emits_store_recompute_emit W a store e).sessions]
            exact he
          next he =>
            rw [if_neg he]
            exact serves_store_emit a h (by simpa using he)
  | complete id success =>
      cases h : a.sessionStore.closeSession id (if success then .success else .cancelled) with
      | none =>
          simp only [onSessionComplete, h]
          exact .refl a
      | some q =>
          obtain ⟨e, store⟩ := q
          have hs : ((a.setStore store).emitSessionEvent e).sessionStore.empty = store.empty := by
            rw [SessionStore.empty, (emits_store_emit a store e).sessions, SessionStore.empty]
          simp only [onSessionComplete, h, hs] at hlog ⊢
          split at hlog
          next he =>
            rw [if_pos he]
            refine .of_empty hlog ?_
            rw [(quiet_recomputeAndEmit W _).sessionStore, hs]
            exact he
          next he =>
            rw [if_neg he]
            exact serves_store_emit a h (by simpa using he)

/-- **The services leave nobody unserved.** -/
theorem Calls.serves {S : Set Output} (h : Calls W S a b) : Serves a b := by
  induction h with
  | refl => exact .refl a
  | tail _ hcall ih => exact ih.trans hcall.serves

/-! ## Sending summons nobody -/

/-- From `a` to `b` messages are written, and nothing else is done to the
outside. -/
def Sends (a b : Agent) : Prop :=
  ∃ os, b.log = a.log ++ os ∧ ∀ o ∈ os, ∃ s j, o = .sent s j

theorem Sends.trans (h : Sends a b) (h' : Sends b c) : Sends a c := by
  obtain ⟨os, hl, ho⟩ := h
  obtain ⟨os', hl', ho'⟩ := h'
  refine ⟨os ++ os', by rw [hl', hl, List.append_assoc], fun o hm => ?_⟩
  exact (List.mem_append.1 hm).elim (ho o) (ho' o)

theorem sends_of_log (h : b.log = a.log) : Sends a b := ⟨[], by simp [h], by simp⟩

theorem sends_sendJson (a : Agent) (s : Socket) (j : QJsonObject) : Sends a (a.sendJson s j) := by
  unfold sendJson
  split
  · exact ⟨[.sent s j], rfl, fun o ho => ⟨s, j, List.mem_singleton.1 ho⟩⟩
  · exact sends_of_log rfl

theorem sends_emitProviderStatus (a : Agent) : Sends a (a.emitProviderStatus W) := by
  refine ⟨_, emitProviderStatus_log W a, fun o ho => ?_⟩
  rw [← List.map_append, List.mem_map] at ho
  obtain ⟨s, -, rfl⟩ := ho
  exact ⟨s, _, rfl⟩

theorem sends_recomputeAndEmit (a : Agent) : Sends a (a.recomputeAndEmit W) := by
  have hr : Sends a (a.recomputeActiveProvider W).2 := sends_of_log rfl
  simp only [recomputeAndEmit]
  split
  · exact hr.trans (sends_emitProviderStatus _)
  · exact hr

theorem Sends.not_summoned (h : Sends a b) : ¬ Summoned a b := by
  rintro ⟨reason, store, hm, -⟩
  obtain ⟨os, hl, ho⟩ := h
  rw [hl, List.drop_left] at hm
  obtain ⟨s, j, heq⟩ := ho _ hm
  cases heq

end Agent

open Agent

namespace Daemon

variable {W : World} {d : Daemon} {i : Input} {socket : Socket} {msg : QJsonObject}

/-! ## The handlers -/

theorem serves_reply {b : Agent} (h : Serves d.agent b) (socket : Socket) (json : QJsonObject) :
    Serves d.agent (b.sendJson socket json) := h.trans (serves_sendJson b socket json)

/-- **The test after a loss serves**, whatever was lost. -/
theorem serves_summonFallback {a : Agent} (hl : a.log <+: d.agent.log) (reason : String) :
    Serves a (d.summonFallback W reason).agent := by
  unfold summonFallback
  split
  · exact serves_ensureFallbackUiRunning hl reason
  next h =>
    refine ⟨hl, fun hu => absurd ?_ h⟩
    simp [hu.1, hu.2]

theorem serves_handlePing : Serves d.agent (d.handlePing W socket).agent := by
  have ht : Serves d.agent d.agent.ticked := .of_eq List.prefix_rfl rfl rfl
  exact serves_reply ht socket _

theorem serves_handleNext : Serves d.agent (d.handleNext socket).agent := by
  have hq : ∀ q, Serves d.agent (d.agent.setQueue q) := fun q => .of_eq List.prefix_rfl rfl rfl
  unfold handleNext
  split
  · exact hq _
  · exact serves_reply (hq _) socket _

theorem serves_handleSubscribe : Serves d.agent (d.handleSubscribe W socket).agent := by
  have hs : Serves d.agent (d.agent.subscribe socket).ticked := by
    rw [subscribe_eq]
    exact .of_eq List.prefix_rfl rfl rfl
  have hall : ∀ (l : List QJsonObject) (b : Agent), Serves b (b.sendAll socket l) := by
    intro l b
    refine .of_eq (quiet_sendAll b socket l).log ?_ ?_ <;> rw [sendAll_eq]
  rw [handleSubscribe_agent]
  refine Serves.trans ?_ (serves_sendJson _ socket _)
  unfold replayed
  dsimp only
  split
  · exact hs.trans (hall _ _)
  · exact hs

theorem serves_respond (h : d.agent.isAuthorizedProviderSocket socket = true) :
    Serves d.agent (d.respond W socket msg).2.agent := by
  simp only [respond, h, Bool.not_true, Bool.false_eq_true, if_false]
  split
  · have hk := (KeyringManager.calls_handleResponse W d.agent d.keyringManager
      (msg.value "id").toString (msg.value "response").toString).serves
    split
    · exact serves_reply hk _ _
    · exact hk
  split
  · split
    · exact .refl _
    · split
      · exact .refl _
      · exact serves_reply (.refl _) _ _
  split
  · exact .refl _
  split
  · exact .refl _
  split
  · exact .refl _
  · exact (PolkitListener.calls_submitPassword W d.agent d.listener _ _).serves

theorem serves_handleRespond : Serves d.agent (d.handleRespond W socket msg).agent := by
  cases hu : d.agent.isAuthorizedProviderSocket socket with
  | true => exact serves_reply (serves_respond hu) socket _
  | false =>
      have hr : d.respond W socket msg = (error "Not active UI provider", d) := by
        simp [respond, hu]
      simp only [handleRespond, hr]
      exact serves_sendJson _ socket _

theorem serves_cancel (h : d.agent.isAuthorizedProviderSocket socket = true) :
    Serves d.agent (d.cancel W socket msg).2.agent := by
  simp only [cancel, h, Bool.not_true, Bool.false_eq_true, if_false]
  split
  · have hk := (KeyringManager.calls_handleCancel W d.agent d.keyringManager
      (msg.value "id").toString).serves
    split
    · exact serves_reply hk _ _
    · exact hk
  split
  · have hp := (PinentryManager.calls_handleCancel W d.agent d.pinentryManager
      (msg.value "id").toString).serves
    split
    · exact hp
    · split
      · exact serves_reply hp _ _
      · exact hp
  split
  · exact .refl _
  split
  · exact .refl _
  · exact (PolkitListener.calls_cancelPending W d.agent d.listener _).serves

theorem serves_handleCancel : Serves d.agent (d.handleCancel W socket msg).agent := by
  cases hu : d.agent.isAuthorizedProviderSocket socket with
  | true => exact serves_reply (serves_cancel hu) socket _
  | false =>
      have hc : d.cancel W socket msg = (error "Not active UI provider", d) := by
        simp [cancel, hu]
      simp only [handleCancel, hc]
      exact serves_sendJson _ socket _

theorem serves_handleUIUnregister : Serves d.agent (d.handleUIUnregister W socket).agent := by
  simp only [handleUIUnregister]
  split
  · exact serves_sendJson _ socket _
  · refine serves_summonFallback ?_ "provider-unregistered"
    have hq := quiet_recomputeAndEmit W (d.agent.setRegistry
      (d.agent.providerRegistry.unregisterProvider socket).2)
    exact hq.log.trans (quiet_sendJson _ socket ok).log

theorem serves_pruneStaleProviders (a : Agent) : Serves a (a.pruneStaleProviders W) := by
  have hl := (quiet_recomputeAndEmit W a).log
  simp only [pruneStaleProviders]
  split
  · exact serves_ensureFallbackUiRunning hl _
  next h =>
    refine ⟨hl, fun hu => absurd ?_ h⟩
    simp [hu.1, hu.2]

theorem serves_disconnected (he : d.agent.providerRegistry.Elected) (socket : Socket) :
    Serves d.agent (d.handle W (.disconnected socket)).agent := by
  simp only [handle]
  split
  · rw [socketDeleted_onClientDisconnected he]
    have hf : d.agent.log <+: (d.forget W socket).log := by
      simp only [forget, forgetClient]
      split
      · exact (quiet_recomputeAndEmit W (leave d.agent socket)).log
      · exact List.prefix_rfl
    have hk := (KeyringManager.calls_cleanupForSocket W (d.forget W socket) d.keyringManager
      socket).extends
    have hp := (PinentryManager.calls_cleanupForSocket W
      (d.keyringManager.cleanupForSocket W (d.forget W socket) socket).2 d.pinentryManager
      socket).extends
    exact serves_summonFallback (d := d.cleaned W socket) ((hf.trans hk.log).trans hp.log)
      "provider-disconnected"
  · exact .refl _

/-! ## The two handlers that only elect -/

/-- A stamp of the socket is stale by the next reading of the clock, and so
is every other provider. -/
def StampOutrun (W : World) (d : Daemon) (socket : Socket) : Prop :=
  W.currentMSecs (d.agent.tick + 1) - W.currentMSecs d.agent.tick >
      PROVIDER_HEARTBEAT_TIMEOUT_MS ∧
    ∀ t p, t ≠ socket → d.agent.providerRegistry.uiProviders.lookup t = some p →
      isPruned (W.currentMSecs (d.agent.tick + 1)) d.agent.isConnected t p = true

/-- **The clock runs ahead within a handler**: a provider is active and a
session open; a registration, or the heartbeat of a registered provider,
is stamped by one clock reading, which the next one makes stale; and that
prunes the others too. -/
def Outruns (W : World) (d : Daemon) (i : Input) : Prop :=
  ∃ type socket msg, d.message? i = some (type, socket, msg) ∧
    (type = .uiRegister ∨ type = .uiHeartbeat ∧ socket ∈ d.agent.providerRegistry.uiProviders) ∧
    d.agent.hasActiveProvider = true ∧ d.agent.sessionStore.empty = false ∧ StampOutrun W d socket

/-- **A step turns the agent unserved**: before it no session was open or a
provider was active, and after it a session is and none is. -/
def TurnsUnserved (a b : Agent) : Prop := ¬ a.Unserved ∧ b.Unserved

/-- **An edit that stamps one entry, and an election.** Nobody is left
exactly where the clock outruns the stamp and the rest is pruned. -/
theorem unserved_elected_iff {a b : Agent} (stamped : UIProvider)
    (htick : a.tick = d.agent.tick + 1) (hclients : a.clients = d.agent.clients)
    (hconn : d.agent.isConnected socket = true)
    (hstamp : stamped.lastHeartbeatMs = W.currentMSecs d.agent.tick)
    (hlook : ∀ t, a.providerRegistry.uiProviders.lookup t =
      if t = socket then some stamped else d.agent.providerRegistry.uiProviders.lookup t)
    (hb : b.providerRegistry = (a.recomputeActiveProvider W).2.providerRegistry) :
    b.hasActiveProvider = false ↔ StampOutrun W d socket := by
  have hbe : b.providerRegistry.Elected := hb ▸ elected_recomputeActiveProvider W a
  have hisconn : a.isConnected = d.agent.isConnected := funext (isConnected_of_clients hclients)
  have hown : isPruned (W.currentMSecs (d.agent.tick + 1)) d.agent.isConnected socket stamped =
      true ↔ W.currentMSecs (d.agent.tick + 1) - W.currentMSecs d.agent.tick >
        PROVIDER_HEARTBEAT_TIMEOUT_MS := by
    simp [isPruned, hconn, hstamp]
  have hnone : b.hasActiveProvider = false ↔ ∀ t p,
      a.providerRegistry.uiProviders.lookup t = some p →
        isPruned (W.currentMSecs (d.agent.tick + 1)) d.agent.isConnected t p = true := by
    have hact : b.hasActiveProvider = false ↔ b.providerRegistry.activeProvider = none := by
      rw [← Bool.not_eq_true, Option.eq_none_iff_forall_ne_some]
      exact (not_congr hbe.hasActiveProvider_iff).trans not_exists
    rw [hact, hb]
    refine Iff.trans elects_none_iff ?_
    rw [ProviderRegistry.survivors, List.filter_eq_nil_iff, htick, hisconn]
    simp only [World.mem_walk, Prod.forall, Table.mem_pairs, Bool.not_eq_true', Bool.not_eq_false]
  rw [hnone, StampOutrun, ← hown]
  constructor
  · intro h
    refine ⟨h socket stamped (by rw [hlook, if_pos rfl]), fun t p hne hp => h t p ?_⟩
    rw [hlook, if_neg hne, hp]
  · rintro ⟨hs, ho⟩ t p hp
    rw [hlook] at hp
    split at hp
    next heq =>
      cases hp
      exact heq ▸ hs
    next hne => exact ho t p hne hp

/-- **A registration** summons nobody, and leaves nobody active exactly
where the clock outruns it. -/
theorem handleUIRegister_unserved (W : World) (msg : QJsonObject)
    (hconn : d.agent.isConnected socket = true) :
    Sends d.agent (d.handleUIRegister W socket msg).agent ∧
      (d.handleUIRegister W socket msg).agent.sessionStore = d.agent.sessionStore ∧
      ((d.handleUIRegister W socket msg).agent.hasActiveProvider = false ↔ StampOutrun W d socket) := by
  refine ⟨?_, (silent_handleUIRegister W d socket msg).sessionStore, ?_⟩
  · have hs := sends_sendJson (enterElected W d.agent socket msg) socket
      (registeredReply W d.agent socket msg)
    have he : Sends d.agent (enterElected W d.agent socket msg) := sends_of_log rfl
    rw [handleUIRegister_agent]
    split
    · exact (he.trans hs).trans (sends_emitProviderStatus _)
    · exact he.trans hs
  · refine unserved_elected_iff (a := enter W d.agent socket msg)
      (entry W d.agent socket msg) rfl rfl hconn rfl lookup_enter ?_
    rw [handleUIRegister_agent]
    split
    · rw [emitProviderStatus_providerRegistry, sendJson_providerRegistry]
      rfl
    · rw [sendJson_providerRegistry]
      rfl

/-- **And so does the heartbeat of a provider.** -/
theorem handleUIHeartbeat_unserved (hconn : d.agent.isConnected socket = true)
    (hm : socket ∈ d.agent.providerRegistry.uiProviders) :
    Sends d.agent (d.handleUIHeartbeat W socket).agent ∧
      (d.handleUIHeartbeat W socket).agent.sessionStore = d.agent.sessionStore ∧
      ((d.handleUIHeartbeat W socket).agent.hasActiveProvider = false ↔ StampOutrun W d socket) := by
  obtain ⟨provider, hp⟩ := Table.mem_iff_exists.1 hm
  set registry : ProviderRegistry := { d.agent.providerRegistry with
    uiProviders := d.agent.providerRegistry.uiProviders.insert socket
      { provider with lastHeartbeatMs := W.currentMSecs d.agent.tick } } with hregistry
  have hagent : (d.handleUIHeartbeat W socket).agent =
      ((d.agent.setRegistry registry).ticked.recomputeAndEmit W).sendJson socket
        [("type", "ok"), ("active", .bool (((d.agent.setRegistry registry).ticked.recomputeAndEmit
          W).providerRegistry.activeProvider = some socket))] := by
    simp only [handleUIHeartbeat, ProviderRegistry.heartbeat, hp]
    rfl
  refine ⟨?_, (silent_handleUIHeartbeat W d socket).sessionStore, ?_⟩
  · have he : Sends d.agent (d.agent.setRegistry registry).ticked := sends_of_log rfl
    rw [hagent]
    exact (he.trans (sends_recomputeAndEmit _)).trans (sends_sendJson _ socket _)
  · refine unserved_elected_iff (a := (d.agent.setRegistry registry).ticked)
      { provider with lastHeartbeatMs := W.currentMSecs d.agent.tick } rfl rfl hconn rfl
      (fun t => ?_) ?_
    · simp [hregistry]
    · rw [hagent, sendJson_providerRegistry, recomputeAndEmit_providerRegistry]

/-! ## Every input -/

/-- What a message of another kind does is served. -/
theorem serves_dispatch {type : MessageType} (hr : type ≠ .uiRegister)
    (hh : type = .uiHeartbeat → socket ∉ d.agent.providerRegistry.uiProviders) :
    Serves d.agent (d.dispatch W type socket msg).agent := by
  cases type with
  | ping => exact serves_handlePing
  | subscribe => exact serves_handleSubscribe
  | next => exact serves_handleNext
  | keyringRequest =>
      exact (KeyringManager.calls_handleRequest W d.agent d.keyringManager msg socket _).serves
  | pinentryRequest =>
      exact (PinentryManager.calls_handleRequest W d.agent d.pinentryManager msg socket _).serves
  | pinentryResult =>
      exact serves_reply (PinentryManager.calls_handleResult W d.agent d.pinentryManager msg _).serves
        socket _
  | uiRegister => exact absurd rfl hr
  | uiHeartbeat =>
      have hn : d.agent.providerRegistry.uiProviders.lookup socket = none :=
        AList.lookup_eq_none.2 (hh rfl)
      simp only [dispatch, handleUIHeartbeat, ProviderRegistry.heartbeat, hn]
      exact serves_sendJson _ socket _
  | uiUnregister => exact serves_handleUIUnregister
  | sessionRespond => exact serves_handleRespond
  | sessionCancel => exact serves_handleCancel

/-- And so is every input that is no message to a handler. -/
theorem serves_of_no_message (he : d.agent.providerRegistry.Elected)
    (hm : d.message? i = none) : Serves d.agent (d.step W i).agent := by
  unfold step
  split
  · exact .refl _
  next hs =>
  cases i with
  | newConnection socket peerPid =>
      simp only [handle]
      split
      · exact .refl _
      · exact .of_eq List.prefix_rfl rfl rfl
  | closing socket =>
      simp only [handle]
      split
      · exact .refl _
      · exact .of_eq List.prefix_rfl rfl rfl
  | line socket doc =>
      simp only [handle]
      split
      next hv =>
        unfold handleLine
        split
        · exact serves_sendJson _ socket _
        next msg =>
          dsimp only
          split
          · exact serves_sendJson _ socket _
          · have hl : handlers.lookup (msg.value "type").toString = none := by
              simpa [message?, hs, hv] using hm
            rw [hl]
            exact serves_sendJson _ socket _
      · exact .refl _
  | disconnected socket => exact serves_disconnected he socket
  | providerMaintenance => exact serves_pruneStaleProviders d.agent
  | pinentryTimeout timer =>
      exact (PinentryManager.calls_onTimeout W d.agent d.pinentryManager timer).serves
  | initiateAuthentication actionId message iconName details cookie identities =>
      exact (PolkitListener.calls_initiateAuthentication W d.agent d.listener _ _ _ _ _ _).serves
  | cancelAuthentication =>
      exact (PolkitListener.calls_cancelAuthentication W d.agent d.listener).serves
  | request session text echo =>
      exact (PolkitListener.calls_onSessionRequest W d.agent d.listener _ _ _).serves
  | completed session gained =>
      exact (PolkitListener.calls_onSessionCompleted W d.agent d.listener _ _).serves
  | showError session text =>
      exact (PolkitListener.calls_onSessionError W d.agent d.listener _ _).serves
  | showInfo session text =>
      exact (PolkitListener.calls_onSessionInfo W d.agent d.listener _ _).serves

/-- **A step that loses the provider summons the fallback UI**, exactly
where the clock does not outrun its handler. -/
theorem summoned_step_iff (he : d.agent.providerRegistry.Elected)
    (hconn : ∀ socket doc, i = .line socket doc → d.agent.isConnected socket = true) :
    (TurnsUnserved d.agent (d.step W i).agent → Summoned d.agent (d.step W i).agent) ↔
      ¬ Outruns W d i := by
  have hserves : Serves d.agent (d.step W i).agent → (TurnsUnserved d.agent (d.step W i).agent →
      Summoned d.agent (d.step W i).agent) :=
    fun hs hl => (hs.served hl.2).resolve_left fun h => hl.1 h.1
  cases hm : d.message? i with
  | none =>
      refine iff_of_true (hserves (serves_of_no_message he hm)) ?_
      rintro ⟨type, socket, msg, hm', -⟩
      rw [hm] at hm'
      cases hm'
  | some m =>
    obtain ⟨type, socket, msg⟩ := m
    have hc : d.agent.isConnected socket = true := hconn socket (some msg) (message?_cases hm).1
    rw [step_of_message hm] at hserves ⊢
    have houtruns : Outruns W d i ↔
        (type = .uiRegister ∨ type = .uiHeartbeat ∧ socket ∈ d.agent.providerRegistry.uiProviders) ∧
        d.agent.hasActiveProvider = true ∧ d.agent.sessionStore.empty = false ∧
        StampOutrun W d socket := by
      constructor
      · rintro ⟨type', socket', msg', hm', h⟩
        rw [hm, Option.some_inj, Prod.mk.injEq, Prod.mk.injEq] at hm'
        obtain ⟨rfl, rfl, -⟩ := hm'
        exact h
      · exact fun h => ⟨type, socket, msg, hm, h⟩
    rw [houtruns]
    -- a handler that sends and elects loses the provider unheard
    have hmiss : ∀ b : Agent, Sends d.agent b → b.sessionStore = d.agent.sessionStore →
        ((TurnsUnserved d.agent b → Summoned d.agent b) ↔
          ¬ (d.agent.hasActiveProvider = true ∧ d.agent.sessionStore.empty = false ∧
            b.hasActiveProvider = false)) := by
      intro b hsends hstore
      have hn : ¬ Summoned d.agent b := hsends.not_summoned
      simp only [hn, imp_false, TurnsUnserved, Unserved, hstore]
      refine not_congr ?_
      cases d.agent.hasActiveProvider <;> cases d.agent.sessionStore.empty <;> simp
    by_cases hr : type = .uiRegister
    · subst hr
      obtain ⟨hsends, hstore, hlast⟩ := handleUIRegister_unserved W msg hc
      simp only [dispatch, hmiss _ hsends hstore, hlast, true_or, true_and]
    · by_cases hh : type = .uiHeartbeat ∧ socket ∈ d.agent.providerRegistry.uiProviders
      · obtain ⟨rfl, hmem⟩ := hh
        obtain ⟨hsends, hstore, hlast⟩ := handleUIHeartbeat_unserved (W := W) hc hmem
        simp only [dispatch, hmiss _ hsends hstore, hlast, hmem, and_self, or_true, true_and]
      · exact iff_of_true (hserves (serves_dispatch hr fun h hmem => hh ⟨h, hmem⟩))
          fun h => h.1.elim hr hh

/-- **A maintenance tick summons the fallback UI** while nobody is active,
and leaves the situation as it is. -/
theorem summoned_providerMaintenance (he : d.agent.providerRegistry.Elected)
    (hu : d.agent.Unserved) :
    Summoned d.agent (d.handle W .providerMaintenance).agent ∧
      (d.handle W .providerMaintenance).agent.Unserved := by
  have hact : d.agent.providerRegistry.activeProvider = none := by
    rw [Option.eq_none_iff_forall_ne_some]
    intro t ht
    have h : d.agent.hasActiveProvider = true := he.hasActiveProvider_iff.2 ⟨t, ht⟩
    rw [hu.1] at h
    cases h
  set a := d.agent.recomputeAndEmit W with ha
  have hq := quiet_recomputeAndEmit W d.agent
  have hnone : a.hasActiveProvider = false := by
    rw [← Bool.not_eq_true]
    intro h
    obtain ⟨t, ht⟩ := (elected_recomputeAndEmit W d.agent).hasActiveProvider_iff.1 h
    obtain ⟨p, hp⟩ := (elected_recomputeAndEmit W d.agent).registered t ht
    have hp' := Talks.lookup (talks_recomputeAndEmit d.agent) hp
    rw [he.elected hact] at hp'
    simp at hp'
  have hstore : a.sessionStore.empty = false := by
    rw [hq.sessionStore]
    exact hu.2
  have hagent : (d.handle W .providerMaintenance).agent =
      a.ensureFallbackUiRunning W "provider-prune" := by
    simp only [handle, withAgent, pruneStaleProviders, ← ha, hnone, hstore, Bool.not_false,
      Bool.and_self, if_true]
  rw [hagent]
  have hreg := ensureFallbackUiRunning_providerRegistry (W := W) a "provider-prune"
  refine ⟨summoned_ensureFallbackUiRunning hq.log _ hstore, ?_, ?_⟩
  · rw [Agent.hasActiveProvider, hreg]
    exact hnone
  · rw [(quiet_ensureFallbackUiRunning W a _).sessionStore]
    exact hstore

variable (W)

/-- **No session is left without a UI being summoned, exactly where no
clock outruns a handler**: whatever the daemon handles, with messages from
connected sockets only. And as long as nobody is active every maintenance
tick summons again. -/
theorem summoned_iff :
    (∀ (ins : List Input) (i : Input),
      (∀ socket doc, i = .line socket doc →
        ((machine W).run ins).agent.isConnected socket = true) →
      ((TurnsUnserved ((machine W).run ins).agent ((machine W).run (ins ++ [i])).agent →
          Summoned ((machine W).run ins).agent ((machine W).run (ins ++ [i])).agent) ↔
        ¬ Outruns W ((machine W).run ins) i)) ∧
    ∀ ins : List Input, ((machine W).run ins).agent.Unserved →
      Summoned ((machine W).run ins).agent
          (((machine W).run ins).handle W .providerMaintenance).agent ∧
        (((machine W).run ins).handle W .providerMaintenance).agent.Unserved := by
  constructor
  · intro ins i hconn
    rw [Machine.run_snoc]
    exact summoned_step_iff (elected_run W ins) hconn
  · exact fun ins hu => summoned_providerMaintenance (elected_run W ins) hu

/-- The active provider registers again while a session is open, and the
clock jumps by twenty seconds between the stamp and the election: it is
pruned, and nobody is summoned. -/
theorem not_summoned_outrun :
    ¬ ∀ (W : World) (ins : List Input) (i : Input),
      (∀ socket doc, i = .line socket doc →
        ((machine W).run ins).agent.isConnected socket = true) →
      TurnsUnserved ((machine W).run ins).agent ((machine W).run (ins ++ [i])).agent →
        Summoned ((machine W).run ins).agent ((machine W).run (ins ++ [i])).agent := by
  intro h
  let W := World.plain (fun n => if n < 5 then 0 else 20000) false
  let ins : List Input :=
    [.newConnection 1 100, .line 1 (some [("type", "ui.register")]), .newConnection 2 200,
      .line 2 (some [("type", "keyring_request"), ("cookie", "c")])]
  let msg : QJsonObject := [("type", "ui.register")]
  let i : Input := .line 1 (some msg)
  have hturns : TurnsUnserved ((machine W).run ins).agent ((machine W).run (ins ++ [i])).agent :=
    ⟨fun hu => absurd hu.1 (by decide), by decide, by decide⟩
  have hconn : ((machine W).run ins).agent.isConnected 1 = true := by decide
  have hm : ((machine W).run ins).message? i =
      some (MessageType.uiRegister, 1, msg) := by decide
  have hno : ∀ d : Daemon, d.message? i = some (MessageType.uiRegister, 1, msg) →
      d.agent.isConnected 1 = true → ¬ Summoned d.agent (d.step W i).agent := by
    intro d hm hc
    rw [step_of_message hm]
    exact (handleUIRegister_unserved W _ hc).1.not_summoned
  refine hno _ hm hconn ?_
  have hsummoned := h W ins i (fun socket doc he => (Input.line.inj he).1 ▸ hconn) hturns
  rwa [Machine.run_snoc] at hsummoned

end Daemon

end BbAuth
