import BbAuth.Agent.Life
import BbAuth.Model.Daemon
/-!
# What a handler does to the sessions

Every handler of the daemon is a chain of moves: a silent one, one that
changes the clients alone, or one that opens, touches or closes one
session and emits the one event that says so.
-/

namespace BbAuth

namespace Agent

/-- **A move of the agent.** -/
inductive Move (a b : Agent) : Prop
  | silent (h : Silent a b)
  | clients (t : Table Socket Client) (h : b = a.setClients t)
  | opened (id : String) (source : Session.Source) (ctx : Session.Context)
      (hn : a.getSession id = none)
      (h : Emits a (a.sessionStore.sessions.insert id (newSession id source ctx))
        (newSession id source ctx).toCreatedEvent b)
  | touched (id : String) (s s' : Session) (hs : a.getSession id = some s) (ht : s.Touch s')
      (h : Emits a (a.sessionStore.sessions.insert id s') s'.toUpdatedEvent b)
  | closed (id : String) (s : Session) (r : Session.Result) (hs : a.getSession id = some s)
      (h : Emits a (a.sessionStore.sessions.erase id) (s.close r).toClosedEvent b)

/-- A chain of moves. -/
abbrev Moves : Agent → Agent → Prop := Relation.ReflTransGen Move

variable (W : World) {a b c : Agent} (id : String)

theorem Silent.moves (h : Silent a b) : Moves a b := .single (.silent h)

theorem Quiet.moves (h : Quiet a b) : Moves a b := h.silent.moves

variable (a)

theorem moves_createSession (source : Session.Source) (ctx : Session.Context) :
    Moves a (a.createSession W id source ctx).2 := by
  cases h : a.getSession id with
  | some s => rw [createSession_of_some W a id h]
  | none => exact .single (.opened id source ctx h (createSession_of_none W a id h source ctx).2)

theorem moves_emitUpdate {f : Session → Session} (hf : ∀ s : Session, s.Touch (f s)) :
    Moves a (a.emitUpdate (a.sessionStore.update id f)) := by
  cases h : a.getSession id with
  | none => rw [emitUpdate_of_none a id h]
  | some s => exact .single (.touched id s (f s) h (hf s) (emitUpdate_of_some a id h (hf s).id))

theorem moves_closeSession (r : Session.Result) : Moves a (a.closeSession W id r).2 := by
  cases h : a.getSession id with
  | none => rw [closeSession_of_none W a id h]
  | some s => exact .single (.closed id s r h (closeSession_of_some W a id h r))

theorem moves_onSessionComplete (success : Bool) : Moves a (a.onSessionComplete W id success) := by
  cases h : a.getSession id with
  | none => rw [onSessionComplete_of_none W a id h]
  | some s => exact .single (.closed id s _ h (onSessionComplete_of_some W a id h success))

/-- **New counters and the prompt after them are one touch.** -/
theorem moves_retry_prompt {s : Session} (h : a.getSession id = some s) (cur max : ℤ)
    (prompt : String) (echo clearError : Bool) :
    Moves a ((a.updateSessionPinentryRetry id cur max).updateSessionPrompt id prompt echo
      clearError) := by
  rcases updateSessionPinentryRetry_of_some a id h cur max with hst | ⟨heq, -⟩
  · set s₁ := s.setPinentryRetry cur max
    set a₁ := a.updateSessionPinentryRetry id cur max
    have h₁ : a₁.getSession id = some s₁ := by
      simp [getSession, SessionStore.getSession, hst]
    have he := emitUpdate_of_some a₁ id (f := fun s => s.setPrompt prompt echo clearError) h₁ rfl
    rw [hst, AList.insert_insert] at he
    refine .single (.touched id s _ h
      ((s.touch_setPinentryRetry cur max).trans (s₁.touch_setPrompt prompt echo clearError)) ?_)
    exact ⟨he.clients, he.sessions, he.subscribers, he.events, he.log⟩
  · rw [heq]
    exact moves_emitUpdate a id fun s => s.touch_setPrompt prompt echo clearError

/-- **A call of a service is a chain of moves.** -/
theorem Call.moves {S : Set Output} {a b : Agent} (h : Call W S a b) : Moves a b := by
  cases h with
  | ticked => exact (quiet_ticked a).moves
  | trace o ho =>
      refine (quiet_trace a ?_).moves
      cases o <;> simp_all [Output.isPolkit, Output.event?]
  | collision socket hs => exact (quiet_writeJson a socket _).moves
  | create id source ctx => exact moves_createSession W a id source ctx
  | update id f hf => exact moves_emitUpdate a id hf
  | retryPrompt id s h cur max prompt echo clearError =>
      exact moves_retry_prompt a id h cur max prompt echo clearError
  | close id r => exact moves_closeSession W a id r
  | complete id success => exact moves_onSessionComplete W a id success

theorem Calls.moves {S : Set Output} {a b : Agent} (h : Calls W S a b) : Moves a b := by
  induction h with
  | refl => exact .refl
  | tail _ hstep ih => exact ih.trans hstep.moves

/-! ## Where the sessions come from -/

variable {a} {c : String} {S : Set Output}

theorem Move.closings (h : Move a b) (c : String) :
    (a.life c).closings <+: (b.life c).closings := by
  have hev : a.events <+: b.events := by
    cases h with
    | silent h => rw [h.events]
    | clients t h =>
        rw [h]
        exact List.prefix_rfl
    | opened id source ctx hn h => exact h.events ▸ List.prefix_append _ _
    | touched id s s' hs ht h => exact h.events ▸ List.prefix_append _ _
    | closed id s r hs h => exact h.events ▸ List.prefix_append _ _
  exact (hev.filter _).map _

/-- A session that is not closed is at most touched. -/
theorem Move.touch (h : Move a b) {s : Session} (hs : a.getSession c = some s)
    (hl : (b.life c).closings = (a.life c).closings) :
    ∃ s', b.getSession c = some s' ∧ s.Touch s' := by
  have hsame : a.sessionStore = b.sessionStore → ∃ s', b.getSession c = some s' ∧ s.Touch s' :=
    fun h => ⟨s, by rwa [getSession, ← h], .of_context rfl rfl rfl⟩
  have hs' : a.sessionStore.sessions.lookup c = some s := hs
  cases h with
  | silent h => exact hsame h.sessionStore.symm
  | clients t h => exact hsame (by rw [h]; rfl)
  | opened id source ctx hn h =>
      have hne : c ≠ id := by
        rintro rfl
        rw [hn] at hs
        cases hs
      exact ⟨s, by simp [getSession, SessionStore.getSession, h.sessions, hne, hs'],
        .of_context rfl rfl rfl⟩
  | touched id s₀ s₁ hs₀ ht h =>
      by_cases hid : c = id
      · subst hid
        obtain rfl : s₀ = s := Option.some.inj (hs₀.symm.trans hs)
        exact ⟨s₁, by simp [getSession, SessionStore.getSession, h.sessions], ht⟩
      · exact ⟨s, by simp [getSession, SessionStore.getSession, h.sessions, hid, hs'],
          .of_context rfl rfl rfl⟩
  | closed id s₀ r hs₀ h =>
      rw [life_of_closed a id c hs₀ h] at hl
      by_cases hid : c = id
      · subst hid
        simp [Life.closed, Agent.life, hs] at hl
      · exact ⟨s, by simp [getSession, SessionStore.getSession, h.sessions, hid, hs'],
          .of_context rfl rfl rfl⟩

theorem Moves.closings (h : Moves a b) (c : String) :
    (a.life c).closings <+: (b.life c).closings := by
  induction h with
  | refl => exact List.prefix_rfl
  | tail _ hmove ih => exact ih.trans (hmove.closings c)

/-- **A session that is not closed on the way is at most touched.** -/
theorem Moves.touch (h : Moves a b) {s : Session} (hs : a.getSession c = some s)
    (hl : (b.life c).closings = (a.life c).closings) :
    ∃ s', b.getSession c = some s' ∧ s.Touch s' := by
  induction h with
  | refl => exact ⟨s, hs, .of_context rfl rfl rfl⟩
  | @tail m b hchain hmove ih =>
      have h₁ := Moves.closings hchain c
      have h₂ := hmove.closings c
      have hm : (m.life c).closings = (a.life c).closings :=
        ((hl ▸ h₂ : (m.life c).closings <+: (a.life c).closings).eq_of_length_le h₁.length_le)
      obtain ⟨s₁, hs₁, ht₁⟩ := ih hm
      obtain ⟨s', hs', ht'⟩ := hmove.touch hs₁ (hl.trans hm.symm)
      exact ⟨s', hs', ht₁.trans ht'⟩

/-- **Where the sessions after a call come from.** -/
theorem Call.session (h : Call W S a b) {s' : Session} (hs' : b.getSession c = some s') :
    (∃ s, a.getSession c = some s ∧ s.Touch s') ∨
      (a.getSession c = none ∧ ∃ source ctx, b = (a.createSession W c source ctx).2 ∧
        s' = newSession c source ctx) := by
  have hmoves := h.moves W
  have hkept : b.life c = a.life c → ∃ s, a.getSession c = some s ∧ s.Touch s' := by
    intro hl
    cases hs : a.getSession c with
    | none =>
        rw [getSession_eq_none, ← hl, ← getSession_eq_none, hs'] at hs
        cases hs
    | some s =>
        obtain ⟨s'', hs'', ht⟩ := Moves.touch hmoves hs (by rw [hl])
        obtain rfl : s'' = s' := Option.some.inj (hs''.symm.trans hs')
        exact ⟨s, rfl, ht⟩
  have hclosed : ∀ r, b.life c = (a.life c).closed r → False := by
    intro r hl
    have hn : b.getSession c = none := by rw [getSession_eq_none, hl, Life.closed_source]
    rw [hn] at hs'
    cases hs'
  cases h with
  | ticked => exact .inl (hkept rfl)
  | trace o ho =>
      have hq : Quiet a (a.trace o) :=
        quiet_trace a (by cases o <;> simp_all [Output.isPolkit, Output.event?])
      exact .inl (hkept (hq.life c))
  | collision socket hs => exact .inl (hkept (life_writeJson a c socket _))
  | create id source ctx =>
      have hl := life_createSession (W := W) (a := a) id c source ctx
      by_cases hid : c = id
      · subst hid
        cases hs : a.getSession c with
        | none =>
            have he := (createSession_of_none W a c hs source ctx).2
            refine .inr ⟨rfl, source, ctx, rfl, ?_⟩
            have hs'' : (a.createSession W c source ctx).2.getSession c =
                some (newSession c source ctx) := by
              simp [getSession, SessionStore.getSession, he.sessions]
            exact Option.some.inj (hs'.symm.trans hs'')
        | some s =>
            rw [if_pos rfl, Life.opened_of_some (s := s.source) (by simp [Agent.life, hs])] at hl
            exact .inl (hs ▸ hkept hl)
      · exact .inl (hkept (by rw [hl, if_neg hid]))
  | update id f hf => exact .inl (hkept (life_emitUpdate a id c hf))
  | retryPrompt id s h cur max prompt echo clearError => exact .inl (hkept (by simp))
  | close id r =>
      by_cases hid : c = id
      · exact (hclosed r (by rw [life_closeSession, if_pos hid])).elim
      · exact .inl (hkept (by rw [life_closeSession, if_neg hid]))
  | complete id success =>
      by_cases hid : c = id
      · exact (hclosed _ (by rw [life_onSessionComplete, if_pos hid])).elim
      · exact .inl (hkept (by rw [life_onSessionComplete, if_neg hid]))

end Agent

open Agent

variable (W : World) (a : Agent)

/-! ## The daemon -/

namespace Daemon

variable (d : Daemon)

theorem silent_sendJson (socket : Socket) (json : QJsonObject) :
    Silent d.agent (d.sendJson socket json).agent :=
  (quiet_sendJson d.agent socket json).silent

theorem silent_summonFallback (reason : String) :
    Silent d.agent (d.summonFallback W reason).agent := by
  unfold summonFallback
  split
  · exact (quiet_ensureFallbackUiRunning W d.agent reason).silent
  · exact .refl _

theorem silent_handlePing (socket : Socket) : Silent d.agent (d.handlePing W socket).agent :=
  ((quiet_ticked d.agent).trans (quiet_sendJson _ socket _)).silent

theorem silent_handleNext (socket : Socket) : Silent d.agent (d.handleNext socket).agent := by
  simp only [handleNext]
  split
  · exact (quiet_setQueue d.agent _).silent
  · exact ((quiet_setQueue d.agent _).trans (quiet_sendJson _ socket _)).silent

theorem silent_subscribe (socket : Socket) : Silent a (a.subscribe socket) := by
  unfold subscribe
  split
  · exact .refl a
  · exact ⟨rfl, rfl, rfl, List.prefix_rfl⟩

theorem silent_handleSubscribe (socket : Socket) :
    Silent d.agent (d.handleSubscribe W socket).agent := by
  simp only [handleSubscribe]
  have hs := (silent_subscribe d.agent socket).trans (quiet_ticked _).silent
  split
  · exact (hs.trans (quiet_sendAll _ socket _).silent).trans (quiet_sendJson _ socket _).silent
  · exact hs.trans (quiet_sendJson _ socket _).silent

theorem silent_handleUIRegister (socket : Socket) (msg : QJsonObject) :
    Silent d.agent (d.handleUIRegister W socket msg).agent := by
  simp only [handleUIRegister]
  have h := ((quiet_setRegistry d.agent (d.agent.providerRegistry.registerProvider
    (W.currentMSecs d.agent.tick) (W.createUuid d.agent.tick) socket msg).2).trans
      (quiet_ticked _)).trans (quiet_recomputeActiveProvider W _)
  split
  · exact ((h.trans (quiet_sendJson _ socket _)).trans (quiet_emitProviderStatus W _)).silent
  · exact (h.trans (quiet_sendJson _ socket _)).silent

theorem silent_handleUIHeartbeat (socket : Socket) :
    Silent d.agent (d.handleUIHeartbeat W socket).agent := by
  simp only [handleUIHeartbeat]
  split
  · exact silent_sendJson d socket _
  · exact ((((quiet_setRegistry d.agent _).trans (quiet_ticked _)).trans
      (quiet_recomputeAndEmit W _)).trans (quiet_sendJson _ socket _)).silent

theorem silent_handleUIUnregister (socket : Socket) :
    Silent d.agent (d.handleUIUnregister W socket).agent := by
  simp only [handleUIUnregister]
  split
  · exact silent_sendJson d socket _
  · refine Silent.trans ?_ (silent_summonFallback W _ _)
    exact (((quiet_setRegistry d.agent _).trans (quiet_recomputeAndEmit W _)).trans
      (quiet_sendJson _ socket _)).silent

theorem silent_forgetClient (socket : Socket) : Silent a (forgetClient W a socket) := by
  simp only [forgetClient]
  have h : Silent a ((a.setSubscribers (a.subscribers.erase socket)).setRegistry
      (a.providerRegistry.removeSocket socket).2) := ⟨rfl, rfl, rfl, List.prefix_rfl⟩
  split
  · exact (h.trans (quiet_recomputeAndEmit W _).silent).trans (quiet_setQueue _ _).silent
  · exact h.trans (quiet_setQueue _ _).silent

theorem moves_respond (socket : Socket) (msg : QJsonObject) :
    Moves d.agent (d.respond W socket msg).2.agent := by
  simp only [respond]
  split
  · exact .refl
  split
  · split
    · exact (KeyringManager.calls_handleResponse W _ _ _ _).moves.trans
        (quiet_sendJson _ _ _).moves
    · exact (KeyringManager.calls_handleResponse W _ _ _ _).moves
  split
  · split
    · exact .refl
    · split
      · exact .refl
      · exact (silent_sendJson _ _ _).moves
  split
  · exact .refl
  split
  · exact .refl
  · split
    · exact .refl
    · exact (PolkitListener.calls_submitPassword W _ _ _ _).moves

theorem moves_cancel (socket : Socket) (msg : QJsonObject) :
    Moves d.agent (d.cancel W socket msg).2.agent := by
  simp only [cancel]
  split
  · exact .refl
  split
  · split
    · exact (KeyringManager.calls_handleCancel W _ _ _).moves.trans (quiet_sendJson _ _ _).moves
    · exact (KeyringManager.calls_handleCancel W _ _ _).moves
  split
  · split
    · exact (PinentryManager.calls_handleCancel W _ _ _).moves
    · split
      · exact (PinentryManager.calls_handleCancel W _ _ _).moves.trans
          (quiet_sendJson _ _ _).moves
      · exact (PinentryManager.calls_handleCancel W _ _ _).moves
  split
  · exact .refl
  · split
    · exact .refl
    · exact (PolkitListener.calls_cancelPending W _ _ _).moves

theorem moves_dispatch (type : MessageType) (socket : Socket) (msg : QJsonObject) :
    Moves d.agent (d.dispatch W type socket msg).agent := by
  cases type with
  | ping => exact (silent_handlePing W d socket).moves
  | subscribe => exact (silent_handleSubscribe W d socket).moves
  | next => exact (silent_handleNext d socket).moves
  | keyringRequest => exact (KeyringManager.calls_handleRequest W _ _ msg socket _).moves
  | pinentryRequest => exact (PinentryManager.calls_handleRequest W _ _ msg socket _).moves
  | pinentryResult =>
      exact (PinentryManager.calls_handleResult W d.agent d.pinentryManager msg _).moves.trans
        (quiet_sendJson _ _ _).moves
  | uiRegister => exact (silent_handleUIRegister W d socket msg).moves
  | uiHeartbeat => exact (silent_handleUIHeartbeat W d socket).moves
  | uiUnregister => exact (silent_handleUIUnregister W d socket).moves
  | sessionRespond => exact (moves_respond W d socket msg).trans (quiet_sendJson _ _ _).moves
  | sessionCancel => exact (moves_cancel W d socket msg).trans (quiet_sendJson _ _ _).moves

theorem moves_handleLine (socket : Socket) (doc : Option QJsonObject) :
    Moves d.agent (d.handleLine W socket doc).agent := by
  unfold handleLine
  split
  · exact (silent_sendJson d socket _).moves
  · dsimp only
    split
    · exact (silent_sendJson d socket _).moves
    · split
      · exact (silent_sendJson d socket _).moves
      · exact moves_dispatch W d _ socket _

theorem moves_onClientDisconnected (socket : Socket) :
    Moves d.agent (d.onClientDisconnected W socket).agent := by
  refine Relation.ReflTransGen.trans ?_ (silent_summonFallback W _ _).moves
  exact ((silent_forgetClient W d.agent socket).moves.trans
    (KeyringManager.calls_cleanupForSocket W _ _ socket).moves).trans
      (PinentryManager.calls_cleanupForSocket W _ _ socket).moves

/-- **Every input is a chain of moves.** -/
theorem moves_handle (i : Input) : Moves d.agent (d.handle W i).agent := by
  cases i with
  | newConnection socket peerPid =>
      simp only [handle]
      split
      · exact .refl
      · exact .single (.clients _ rfl)
  | closing socket =>
      simp only [handle]
      split
      · exact .refl
      · exact .single (.clients _ rfl)
  | line socket doc =>
      simp only [handle]
      split
      · exact moves_handleLine W d socket doc
      · exact .refl
  | disconnected socket =>
      simp only [handle]
      split
      · have h : Moves d.agent (d.agent.setClients (d.agent.clients.erase socket)) :=
          .single (.clients _ rfl)
        exact (h.trans (moves_onClientDisconnected W (d.withAgent _) socket)).trans
          (quiet_setRegistry _ _).moves
      · exact .refl
  | providerMaintenance => exact (quiet_pruneStaleProviders W d.agent).moves
  | pinentryTimeout timer => exact (PinentryManager.calls_onTimeout W d.agent _ timer).moves
  | initiateAuthentication actionId message iconName details cookie identities =>
      exact (PolkitListener.calls_initiateAuthentication W d.agent _ _ _ _ _ _ _).moves
  | cancelAuthentication => exact (PolkitListener.calls_cancelAuthentication W d.agent _).moves
  | request session text echo => exact (PolkitListener.calls_onSessionRequest W d.agent _ _ _ _).moves
  | completed session gained => exact (PolkitListener.calls_onSessionCompleted W d.agent _ _ _).moves
  | showError session text => exact (PolkitListener.calls_onSessionError W d.agent _ _ _).moves
  | showInfo session text => exact (PolkitListener.calls_onSessionInfo W d.agent _ _ _).moves

theorem moves_step (i : Input) : Moves d.agent (d.step W i).agent := by
  unfold step
  split
  · exact .refl
  · exact moves_handle W d i

end Daemon

end BbAuth
