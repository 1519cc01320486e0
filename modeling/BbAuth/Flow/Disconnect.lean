import BbAuth.Flow.Owner
import BbAuth.Provider.Wiring
/-!
# What a disconnect takes along

A socket may be subscriber, waiter, provider and the asker of many
requests at once, and five structures are cleaned of it one after the
other, by services that themselves emit events and elect. Nothing they do
enters a socket anywhere, so what has been cleaned stays clean; and the
sessions that end are the ones whose request the socket was waiting on.
-/

namespace BbAuth

open ProviderRegistry

namespace EventQueue

/-- Draining serves the waiters in order. -/
theorem waiters_drain : ∀ (waiters : List Socket) (events : List QJsonObject),
    (drain waiters events).2.1 <:+ waiters
  | [], _ => List.suffix_rfl
  | _ :: _, [] => List.suffix_rfl
  | w :: waiters, _ :: events => (waiters_drain waiters events).trans (List.suffix_cons w waiters)

/-- And nobody but the waiters. -/
theorem fst_mem_of_mem_drain : ∀ {waiters : List Socket} {events : List QJsonObject}
    {d : Socket × QJsonObject}, d ∈ (drain waiters events).1 → d.1 ∈ waiters
  | [], _, _, h => absurd h (List.not_mem_nil)
  | _ :: _, [], _, h => absurd h (List.not_mem_nil)
  | w :: waiters, _ :: events, d, h => by
      rcases List.mem_cons.1 h with rfl | h
      · exact List.mem_cons_self
      · exact List.mem_cons_of_mem _ (fst_mem_of_mem_drain h)

end EventQueue

namespace Agent

variable (W : World) {a b c : Agent}

/-! ## Waiting for the next event -/

/-- **Nobody new waits**: the waiters are those there were, less the
first few. -/
def WaitsLess (a b : Agent) : Prop := b.eventQueue.nextWaiters <:+ a.eventQueue.nextWaiters

theorem WaitsLess.of_eq (h : b.eventQueue = a.eventQueue) : WaitsLess a b := by
  rw [WaitsLess, h]

theorem WaitsLess.trans (h : WaitsLess a b) (h' : WaitsLess b c) : WaitsLess a c :=
  List.IsSuffix.trans h' h

theorem push_eventQueue (a : Agent) (e : QJsonObject) : (a.push e).eventQueue = a.eventQueue := by
  unfold push
  split
  · split
    · split
      · exact sendJson_eventQueue a _ e
      · rfl
    · rfl
  · rw [sendEach_eq]

theorem waitsLess_emitSessionEvent (a : Agent) (e : QJsonObject) :
    WaitsLess a (a.emitSessionEvent e) := by
  simp only [emitSessionEvent, route]
  set a' := (a.trace (.emitted e)).push e with ha'
  have hq : a'.eventQueue = a.eventQueue := push_eventQueue _ e
  have hframe := foldl_eq (fun a (d : Socket × QJsonObject) => sendJson_eq a d.1 d.2)
    (a'.eventQueue.enqueue e).drainToWaiters.1
    (a'.setQueue (a'.eventQueue.enqueue e).drainToWaiters.2)
  rw [WaitsLess, hframe]
  have hw := EventQueue.waiters_drain (a'.eventQueue.enqueue e).nextWaiters
    (a'.eventQueue.enqueue e).eventQueue
  rw [← hq]
  exact hw

theorem ensureFallbackUiRunning_eventQueue (a : Agent) (reason : String) :
    (a.ensureFallbackUiRunning W reason).eventQueue = a.eventQueue := by
  simp only [ensureFallbackUiRunning]
  split
  · rfl
  · split
    · rfl
    · split
      · rfl
      · split <;> rfl

theorem waitsLess_emitUpdate (a : Agent) (updated : Option (QJsonObject × SessionStore)) :
    WaitsLess a (a.emitUpdate updated) := by
  unfold emitUpdate
  split
  · exact .of_eq rfl
  · exact waitsLess_emitSessionEvent (a.setStore _) _

/-- Storing and then emitting. -/
theorem waitsLess_store_emit (a : Agent) (store : SessionStore) (e : QJsonObject) :
    WaitsLess a ((a.setStore store).emitSessionEvent e) :=
  waitsLess_emitSessionEvent (a.setStore store) e

/-- **No call of a service enters a waiter.** -/
theorem Call.waitsLess {S : Set Output} (h : Call W S a b) : WaitsLess a b := by
  cases h with
  | ticked => exact .of_eq rfl
  | trace o ho => exact .of_eq rfl
  | collision socket hs =>
      unfold writeJson
      split <;> exact .of_eq rfl
  | create id source ctx =>
      unfold createSession
      cases a.sessionStore.createSession id source ctx with
      | none => exact .of_eq rfl
      | some r =>
          have hs := waitsLess_store_emit a r.2 r.1
          dsimp only
          split
          · exact hs.trans (.of_eq (ensureFallbackUiRunning_eventQueue W _ _))
          · exact hs
  | update id f hf => exact waitsLess_emitUpdate a _
  | retryPrompt id s h cur max prompt echo clearError =>
      have hs : WaitsLess a (a.updateSessionPinentryRetry id cur max) := .of_eq rfl
      exact hs.trans (waitsLess_emitUpdate _ _)
  | close id r =>
      unfold closeSession
      cases a.sessionStore.closeSession id r with
      | none => exact .of_eq rfl
      | some r =>
          simp only [Bool.not_false, if_true]
          split
          · have hs : WaitsLess a ((a.setStore r.2).recomputeAndEmit W) :=
              .of_eq (recomputeAndEmit_eventQueue W (a.setStore r.2))
            exact hs.trans (waitsLess_emitSessionEvent _ _)
          · exact waitsLess_store_emit a r.2 r.1
  | complete id success =>
      unfold onSessionComplete
      cases a.sessionStore.closeSession id (if success then .success else .cancelled) with
      | none => exact .of_eq rfl
      | some r =>
          have hs := waitsLess_store_emit a r.2 r.1
          dsimp only
          split
          · exact hs.trans (.of_eq (recomputeAndEmit_eventQueue W _))
          · exact hs

theorem Calls.waitsLess {S : Set Output} (h : Calls W S a b) : WaitsLess a b := by
  induction h with
  | refl => exact .of_eq rfl
  | tail _ hstep ih => exact ih.trans (hstep.waitsLess W)

/-! ## Ending sessions -/

/-- **Only sessions of `P` end**: every other session stays as it is, and
every event is about one of `P`. -/
structure EndsOnly (P : String → Prop) (a b : Agent) : Prop where
  stays : ∀ c, ¬ P c → b.getSession c = a.getSession c
  events : ∃ new, b.events = a.events ++ new ∧ ∀ e ∈ new, ∃ c, P c ∧ e.value "id" = .string c

variable {P : String → Prop}

theorem EndsOnly.trans (h : EndsOnly P a b) (h' : EndsOnly P b c) : EndsOnly P a c where
  stays id hid := (h'.stays id hid).trans (h.stays id hid)
  events := by
    obtain ⟨new, heq, hnew⟩ := h.events
    obtain ⟨new', heq', hnew'⟩ := h'.events
    refine ⟨new ++ new', by rw [heq', heq, List.append_assoc], fun e he => ?_⟩
    exact (List.mem_append.1 he).elim (hnew e) (hnew' e)

/-- What speaks of no session ends none. -/
theorem EndsOnly.of_eq (hs : b.sessionStore = a.sessionStore) (he : b.events = a.events) :
    EndsOnly P a b where
  stays id _ := by simp only [getSession, hs]
  events := ⟨[], by rw [he, List.append_nil], by simp⟩

/-- One event about a session of `P`. -/
theorem EndsOnly.of_emits {sessions : Table String Session} {e : QJsonObject} {id : String}
    (h : Emits a sessions e b) (hid : P id) (he : e.value "id" = .string id)
    (hs : ∀ c, c ≠ id → sessions.lookup c = a.sessionStore.sessions.lookup c) :
    EndsOnly P a b where
  stays c hc := by
    have hne : c ≠ id := fun heq => hc (heq ▸ hid)
    simp only [getSession, SessionStore.getSession, h.sessions, hs c hne]
  events := ⟨[e], h.events, fun e' he' => ⟨id, hid, by rw [List.mem_singleton.1 he', he]⟩⟩

theorem endsOnly_closeSession (a : Agent) {id : String} (r : Session.Result)
    (hid : (a.getSession id).isSome → P id) : EndsOnly P a (a.closeSession W id r).2 := by
  cases h : a.getSession id with
  | none =>
      rw [closeSession_of_none W a id h]
      exact .of_eq rfl rfl
  | some s =>
      have hkey : s.id = id := a.sessionStore.keyed id s h
      refine .of_emits (closeSession_of_some W a id h r) (hid (by simp [h])) ?_ ?_
      · rw [Session.value_id_closed]
        exact congrArg _ hkey
      · intro c hc
        simp [hc]

theorem endsOnly_updateSessionError (a : Agent) {id : String} (error : String)
    (hid : (a.getSession id).isSome → P id) : EndsOnly P a (a.updateSessionError id error) := by
  cases h : a.getSession id with
  | none =>
      rw [updateSessionError, SessionStore.updateError, emitUpdate_of_none a id h]
      exact .of_eq rfl rfl
  | some s =>
      have hkey : s.id = id := a.sessionStore.keyed id s h
      refine .of_emits (emitUpdate_of_some a id h (f := fun s => s.setError error) rfl)
        (hid (by simp [h])) ?_ ?_
      · rw [Session.value_id_updated]
        exact congrArg _ hkey
      · intro c hc
        simp [hc]

end Agent

open Agent

variable (W : World)

/-! ## The loops -/

theorem KeyringManager.endsOnly_cleanupLoop {P : String → Prop} (socket : Socket) :
    ∀ (entries : List (String × KeyringRequest)) (km : KeyringManager) (a : Agent),
      (∀ e ∈ entries, e.2.socket = socket → P e.2.cookie) →
      EndsOnly P a (cleanupLoop W socket entries km a).2
  | [], _, a, _ => .of_eq rfl rfl
  | (key, request) :: rest, km, a, hP => by
      have hrest := fun e he => hP e (List.mem_cons_of_mem (key, request) he)
      unfold cleanupLoop
      split
      next hs =>
        have hid := hP (key, request) List.mem_cons_self hs
        exact (endsOnly_closeSession W a .cancelled fun _ => hid).trans
          (endsOnly_cleanupLoop socket rest _ _ hrest)
      · exact endsOnly_cleanupLoop socket rest km a hrest

theorem KeyringManager.endsOnly_cleanupForSocket {P : String → Prop} (km : KeyringManager)
    (a : Agent) (socket : Socket)
    (hP : ∀ c r, km.pendingRequests.lookup c = some r → r.socket = socket → P c) :
    EndsOnly P a (km.cleanupForSocket W a socket).2 := by
  have h := endsOnly_cleanupLoop W (P := P) socket
    (W.walk a.tick km.pendingRequests.pairs) km a.ticked <| by
      rintro ⟨key, request⟩ he hs
      have hl := Table.mem_pairs.1 (W.mem_walk.1 he)
      exact km.keyed key request hl ▸ hP key request hl hs
  exact ⟨h.stays, h.events⟩

namespace PinentryManager

variable {P : String → Prop}

theorem endsOnly_closeFlow (pm : PinentryManager) (a : Agent) {cookie : String}
    (r : Session.Result) (error : String)
    (hP : (a.life cookie).source = some .pinentry → P cookie) :
    EndsOnly P a (pm.closeFlow W a cookie r error).2 := by
  simp only [closeFlow, closeFlowSession]
  split
  next hs =>
    have hid := hP ((isPinentrySession_iff a cookie).1 hs)
    have hclose : ∀ b : Agent, EndsOnly P b (b.closeSession W cookie r).2 :=
      fun b => endsOnly_closeSession W b r fun _ => hid
    split
    · exact (endsOnly_updateSessionError a error fun _ => hid).trans (hclose _)
    · exact hclose a
  · exact .of_eq rfl rfl

theorem endsOnly_closeAll : ∀ (cookies : List String) (pm : PinentryManager) (a : Agent),
    (∀ c ∈ cookies, (a.life c).source = some .pinentry → P c) →
      EndsOnly P a (closeAll W cookies pm a).2
  | [], _, a, _ => .of_eq rfl rfl
  | cookie :: rest, pm, a, hP => by
      have hhead := endsOnly_closeFlow W pm a .cancelled "Pinentry disconnected"
        (hP cookie List.mem_cons_self)
      refine hhead.trans (endsOnly_closeAll rest _ _ fun c hc hs => ?_)
      -- a session the head left alone is a pinentry session still
      by_contra hn
      refine hn (hP c (List.mem_cons_of_mem _ hc) ?_)
      simpa only [Agent.life, hhead.stays c hn] using hs

theorem endsOnly_cleanupForSocket (pm : PinentryManager) (a : Agent) (socket : Socket)
    (hP : ∀ c r, pm.pendingRequests.lookup c = some r → r.socket = socket →
      (a.life c).source = some .pinentry → P c) :
    EndsOnly P a (pm.cleanupForSocket W a socket).2 := by
  have h := endsOnly_closeAll W (P := P)
    (((W.walk a.tick pm.pendingRequests.pairs).filter fun e => e.2.socket = socket).map Prod.fst)
    pm a.ticked <| by
      intro c hc hs
      obtain ⟨⟨key, request⟩, he, rfl⟩ := List.mem_map.1 hc
      obtain ⟨hm, hsock⟩ := List.mem_filter.1 he
      exact hP key request (Table.mem_pairs.1 (W.mem_walk.1 hm)) (by simpa using hsock) hs
  exact ⟨h.stays, h.events⟩

end PinentryManager

/-! ## The disconnect -/

namespace Flow

variable (f : Flow) (s : Socket)

theorem keyring_keyringLeft :
    (f.keyringLeft s).keyring = f.keyring.filter fun r => r.socket ≠ s := by
  unfold keyringLeft
  cases hk : f.keyring with
  | none => simp [hk]
  | some r => by_cases h : r.socket = s <;> simp [keyringClosed, hk, h, Option.filter_some]

theorem pending_pinentryLeft :
    (f.pinentryLeft s).pending = f.pending.filter fun r => r.socket ≠ s := by
  unfold pinentryLeft
  cases hp : f.pending with
  | none => simp [hp]
  | some r => by_cases h : r.socket = s <;> simp [pinentryClosed, hp, h, Option.filter_some]

end Flow

namespace Daemon

variable (d : Daemon) (s : Socket)

/-- A client is gone: the IPC server has forgotten it, and
`onClientDisconnected` has run. -/
def hungUp : Daemon :=
  (d.withAgent (d.agent.setClients (d.agent.clients.erase s))).onClientDisconnected W s

/-- **The session of `c` ends with the socket**: it is a keyring session
whose request, or a pinentry session whose pending request, came from it. -/
def EndsWith (c : String) : Prop :=
  IsOpen c .keyring d ∧ (d.flow c).keyring.map KeyringRequest.socket = some s ∨
    IsOpen c .pinentry d ∧ (d.flow c).pending.map PinentryRequest.socket = some s

/-- **The socket occurs nowhere.** -/
structure Forgotten (d : Daemon) (s : Socket) : Prop where
  subscribers : s ∉ d.agent.subscribers
  nextWaiters : s ∉ d.agent.eventQueue.nextWaiters
  uiProviders : s ∉ d.agent.providerRegistry.uiProviders
  activeProvider : d.agent.providerRegistry.activeProvider ≠ some s
  keyring : ∀ c r, d.keyringManager.pendingRequests.lookup c = some r → r.socket ≠ s
  pinentry : ∀ c r, d.pinentryManager.pendingRequests.lookup c = some r → r.socket ≠ s

variable {d s}

theorem same_hungUp : Same (d.cleaned W s) (d.hungUp W s) :=
  same_summonFallback W (d.cleaned W s) "provider-disconnected"

theorem flow_hungUp (c : String) :
    (d.hungUp W s).flow c = ((d.flow c).keyringLeft s).pinentryLeft s := by
  rw [(same_hungUp W).flow, flow_cleaned]

/-- A clean-up takes the keyring requests of the socket and no others. -/
theorem keyring_hungUp (c : String) : (d.hungUp W s).keyringManager.pendingRequests.lookup c =
    (d.keyringManager.pendingRequests.lookup c).filter fun r => r.socket ≠ s := by
  have hf : ((d.hungUp W s).flow c).keyring = ((d.flow c).keyringLeft s).keyring := by
    rw [flow_hungUp, Flow.pinentryLeft_keyring]
  exact hf.trans ((d.flow c).keyring_keyringLeft s)

/-- And so it does with the pinentry requests. -/
theorem pinentry_hungUp (c : String) : (d.hungUp W s).pinentryManager.pendingRequests.lookup c =
    (d.pinentryManager.pendingRequests.lookup c).filter fun r => r.socket ≠ s := by
  obtain ⟨hk, -⟩ := (d.flow c).keyringLeft_pinentry s
  have hf : ((d.hungUp W s).flow c).pending = (d.flow c).pending.filter fun r => r.socket ≠ s := by
    rw [flow_hungUp, Flow.pending_pinentryLeft, hk]
  exact hf

theorem waitsLess_hungUp : s ∉ (d.hungUp W s).agent.eventQueue.nextWaiters := by
  intro hm
  have hk := (KeyringManager.calls_cleanupForSocket W (d.forget W s) d.keyringManager s).waitsLess
  have hp := (PinentryManager.calls_cleanupForSocket W
    (d.keyringManager.cleanupForSocket W (d.forget W s) s).2 d.pinentryManager s).waitsLess
  have hs : (d.hungUp W s).agent.eventQueue = (d.cleaned W s).agent.eventQueue := by
    change ((d.cleaned W s).summonFallback W "provider-disconnected").agent.eventQueue = _
    unfold summonFallback
    split
    · exact ensureFallbackUiRunning_eventQueue W _ _
    · rfl
  rw [hs] at hm
  have hw := (hk.trans hp).subset hm
  simp [forget, forgetClient, EventQueue.removeWaiter] at hw

theorem forgotten_hungUp (hw : Wired W d) : (d.hungUp W s).Forgotten s := by
  have he : (d.hungUp W s).agent.providerRegistry.Elected :=
    (talks_onClientDisconnected s).elected (elected_forgetClient (by exact hw.elected) s)
  have ht : (d.hungUp W s).agent.providerRegistry.uiProviders.lookup s = none :=
    lookup_onClientDisconnected s
  refine ⟨?_, waitsLess_hungUp W, fun hm => ?_, fun ha => ?_, fun c r hr => ?_, fun c r hr => ?_⟩
  · have hs := (talks_disconnected (W := W) d s).framed.subscribers
    have hs' : (d.hungUp W s).agent.subscribers = d.agent.subscribers.erase s := hs
    rw [hs', hw.plugged.nodup.mem_erase_iff]
    exact fun h => h.1 rfl
  · obtain ⟨p, hp⟩ := Table.mem_iff_exists.1 hm
    rw [ht] at hp
    cases hp
  · obtain ⟨p, hp⟩ := he.registered s ha
    rw [ht] at hp
    cases hp
  · rw [keyring_hungUp] at hr
    simpa using (Option.filter_eq_some_iff.1 hr).2
  · rw [pinentry_hungUp] at hr
    simpa using (Option.filter_eq_some_iff.1 hr).2

/-- The life of a session that ends with the socket is closed as cancelled. -/
theorem life_hungUp (hs : ∀ c, (d.flow c).Sane c) (c : String) (h : EndsWith d s c) :
    (d.hungUp W s).agent.life c = (d.agent.life c).closed .cancelled := by
  have hlife : (d.hungUp W s).agent.life c = ((d.hungUp W s).flow c).life := rfl
  rw [hlife, flow_hungUp]
  rcases h with ⟨hopen, hb⟩ | ⟨hopen, hb⟩
  · -- closed by the keyring's clean-up; no pinentry session is left to be closed
    have hl : (d.flow c).keyringLeft s = (d.flow c).keyringClosed .cancelled := if_pos hb
    rw [hl]
    unfold Flow.pinentryLeft
    split
    · simp [Flow.pinentryClosed, Flow.keyringClosed, Daemon.flow]
    · rfl
  · have hk : (d.flow c).keyring = none := by
      by_contra hk
      have := (hs c).keyring (Option.isSome_iff_ne_none.2 hk)
      rw [IsOpen, this] at hopen
      cases hopen
    have hl : (d.flow c).keyringLeft s = d.flow c := by simp [Flow.keyringLeft, hk]
    rw [hl, Flow.pinentryLeft, if_pos hb]
    have hsrc : (d.flow c).life.source = some .pinentry := hopen
    simp only [Flow.pinentryClosed, if_pos hsrc]
    rfl

theorem endsOnly_hungUp (hs : ∀ c, (d.flow c).Sane c) :
    EndsOnly (EndsWith d s) d.agent (d.hungUp W s).agent := by
  have hforget : EndsOnly (EndsWith d s) d.agent (d.forget W s) :=
    have h := silent_forgetClient W (d.agent.setClients (d.agent.clients.erase s)) s
    .of_eq h.sessionStore h.events
  have hk : EndsOnly (EndsWith d s) (d.forget W s)
      (d.keyringManager.cleanupForSocket W (d.forget W s) s).2 := by
    refine KeyringManager.endsOnly_cleanupForSocket W _ _ _ fun c r hr hsock => .inl ⟨?_, ?_⟩
    · exact (hs c).keyring (Option.isSome_of_mem hr)
    · exact (congrArg _ hr).trans (congrArg some hsock)
  have hp : EndsOnly (EndsWith d s) (d.keyringManager.cleanupForSocket W (d.forget W s) s).2
      (d.cleaned W s).agent := by
    refine PinentryManager.endsOnly_cleanupForSocket W _ _ _ fun c r hr hsock hsrc => ?_
    by_contra hn
    -- the session the clean-up of the keyring has left is the one there was
    refine hn (.inr ⟨?_, (congrArg _ hr).trans (congrArg some hsock)⟩)
    rwa [Agent.life, (hforget.trans hk).stays c hn] at hsrc
  have hsame := (same_hungUp W (d := d) (s := s)).agent
  exact ((hforget.trans hk).trans hp).trans (.of_eq hsame.sessionStore hsame.events)

/-- **A disconnect is cleaned up after, and nothing else is touched.** The
socket occurs nowhere any more. Every session that ends with it is closed,
with one `session.closed` event that says cancelled; every other session
is as it was and no event is about it; and every other socket's pending
requests are still there. -/
theorem disconnect_complete_and_local (ins : List Input) (s : Socket) :
    let d := (machine W).run ins
    let d' := d.hungUp W s
    d'.Forgotten s ∧
      (∃ new, d'.agent.events = d.agent.events ++ new ∧
        (∀ c, EndsWith d s c → d'.agent.getSession c = none ∧
          (new.filter fun e => IsClosing c e).map (fun e => e.value "result") =
            [.string "cancelled"]) ∧
        ∀ c, ¬ EndsWith d s c → d'.agent.getSession c = d.agent.getSession c ∧
          ∀ e ∈ new, e.value "id" ≠ .string c) ∧
      (∀ c, d'.keyringManager.pendingRequests.lookup c =
        (d.keyringManager.pendingRequests.lookup c).filter fun r => r.socket ≠ s) ∧
      ∀ c, d'.pinentryManager.pendingRequests.lookup c =
        (d.pinentryManager.pendingRequests.lookup c).filter fun r => r.socket ≠ s := by
  intro d d'
  have hw : Wired W d := wired_run W ins
  have hsane : ∀ c, (d.flow c).Sane c := sane_run W ins
  have hends := endsOnly_hungUp W (s := s) hsane
  obtain ⟨new, heq, hnew⟩ := hends.events
  refine ⟨forgotten_hungUp W hw, ⟨new, heq, fun c hc => ?_, fun c hc => ⟨hends.stays c hc, ?_⟩⟩,
    keyring_hungUp W, pinentry_hungUp W⟩
  · have hlife := life_hungUp W hsane c hc
    refine ⟨(getSession_eq_none _ c).2 (by rw [hlife, Life.closed_source]), ?_⟩
    have hsrc : (d.agent.life c).source ≠ none := by
      rcases hc with ⟨ho, -⟩ | ⟨ho, -⟩
      · exact fun hn => by rw [IsOpen, Daemon.flow, hn] at ho; cases ho
      · exact fun hn => by rw [IsOpen, Daemon.flow, hn] at ho; cases ho
    -- the closings of the new state are the old ones and those among the new events
    have hcl := congrArg Life.closings hlife
    simp only [Life.closed, if_neg hsrc] at hcl
    have hsplit : (d'.agent.life c).closings = (d.agent.life c).closings ++
        (new.filter fun e => IsClosing c e).map fun e => e.value "result" := by
      simp only [Agent.life]
      rw [heq, List.filter_append, List.map_append]
    exact List.append_cancel_left (hsplit.symm.trans hcl)
  · intro e he hid
    obtain ⟨c', hc', hid'⟩ := hnew e he
    rw [hid'] at hid
    exact hc (QJsonValue.string.inj hid ▸ hc')

end Daemon

end BbAuth
