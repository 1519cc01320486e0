import BbAuth.Secrecy.Twins
/-!
# The managers and the listener between twins

The managers and the listener act on the agent they are given through its
services, and decide by their own tables and by what twins agree on. So on
twins they do the same; what they return differs only where it carries an
answer.
-/

namespace BbAuth

open Agent

variable {W : World} {a b : Agent}

/-! ## The keyring manager -/

namespace KeyringManager

variable (km : KeyringManager)

theorem twin_handleRequest (h : Twin a b) (msg : QJsonObject) (socket : Socket) (peerPid : Pid) :
    TwinWith (km.handleRequest W a msg socket peerPid)
      (km.handleRequest W b msg socket peerPid) := by
  have hcookie : requestCookie W b msg = requestCookie W a msg := by
    rw [requestCookie, requestCookie, h.tick]
  unfold handleRequest
  dsimp only
  rw [hcookie, h.tick]
  generalize hctx : Session.Context.mk .. = ctx
  have hboth : TwinWith (a.ticked.createSession W (requestCookie W a msg) .keyring ctx)
      (b.ticked.createSession W (requestCookie W a msg) .keyring ctx) := h.ticked.createSession _ _
  obtain ⟨hc, hs⟩ := hboth
  rw [← hc]
  split
  · exact ⟨rfl, hs.writeJson⟩
  · exact ⟨rfl, hs.updateSessionPrompt _ _ _⟩

/-- **A response**: only the password of the reply differs. -/
theorem twin_handleResponse (h : Twin a b) (cookie response response' : String) :
    let x := km.handleResponse W a cookie response
    let y := km.handleResponse W b cookie response'
    (∀ s, (Output.sent s x.1).redacted = (Output.sent s y.1).redacted) ∧ TwinWith x.2 y.2 := by
  unfold handleResponse
  cases km.pendingRequests.lookup cookie with
  | none => exact ⟨fun _ => rfl, rfl, h⟩
  | some request =>
      refine ⟨fun s => ?_, rfl, (h.closeSession _ _).2⟩
      simp [Output.redacted, carriesAnswer, QJsonObject.remove]

theorem twin_handleCancel (h : Twin a b) (cookie : String) :
    let x := km.handleCancel W a cookie
    let y := km.handleCancel W b cookie
    x.1 = y.1 ∧ TwinWith x.2 y.2 := by
  unfold handleCancel
  cases km.pendingRequests.lookup cookie with
  | none => exact ⟨rfl, rfl, h⟩
  | some request => exact ⟨rfl, rfl, (h.closeSession _ _).2⟩

theorem twin_cleanupLoop (socket : Socket) :
    ∀ (entries : List (String × KeyringRequest)) (km : KeyringManager) {a b : Agent}, Twin a b →
      TwinWith (cleanupLoop W socket entries km a) (cleanupLoop W socket entries km b)
  | [], _, _, _, h => ⟨rfl, h⟩
  | (key, request) :: rest, km, _, _, h => by
      unfold cleanupLoop
      split
      · exact twin_cleanupLoop socket rest _ (h.closeSession _ _).2
      · exact twin_cleanupLoop socket rest km h

theorem twin_cleanupForSocket (h : Twin a b) (socket : Socket) :
    TwinWith (km.cleanupForSocket W a socket) (km.cleanupForSocket W b socket) := by
  unfold cleanupForSocket
  rw [h.tick]
  exact twin_cleanupLoop socket _ km h.ticked

end KeyringManager

/-! ## The pinentry manager -/

namespace PinentryManager

variable (pm : PinentryManager)

theorem twin_isPinentrySession (h : Twin a b) (cookie : String) :
    isPinentrySession b cookie = isPinentrySession a cookie := by
  rw [isPinentrySession, isPinentrySession, h.getSession]

theorem twin_closeFlow (h : Twin a b) (cookie : String) (result : Session.Result) (error : String) :
    TwinWith (pm.closeFlow W a cookie result error) (pm.closeFlow W b cookie result error) := by
  refine ⟨rfl, ?_⟩
  simp only [closeFlow, closeFlowSession, twin_isPinentrySession h]
  split
  · split
    · exact ((h.updateSessionError _).closeSession _ _).2
    · exact (h.closeSession _ _).2
  · exact h

theorem twin_openSession (h : Twin a b) (request : PinentryRequest) (counters : ℤ × ℤ)
    (sessionExists : Bool) :
    TwinWith (openSession W a request counters sessionExists)
      (openSession W b request counters sessionExists) := by
  unfold openSession
  rw [h.tick]
  split
  · exact h.ticked.createSession _ _
  · exact ⟨rfl, h.updateSessionPinentryRetry _ _⟩

theorem twin_showPrompt (h : Twin a b) (request : PinentryRequest) :
    TwinWith (pm.showPrompt a request) (pm.showPrompt b request) := by
  have hp : Twin (a.updateSessionPrompt request.cookie request.prompt false false)
      (b.updateSessionPrompt request.cookie request.prompt false false) :=
    h.updateSessionPrompt _ _ _
  refine ⟨rfl, ?_⟩
  simp only [showPrompt]
  split
  · exact hp.updateSessionError _
  · exact hp

theorem twin_leaveAwaiting (h : Twin a b) (request : PinentryRequest) :
    TwinWith (pm.leaveAwaiting a request) (pm.leaveAwaiting b request) := by
  unfold leaveAwaiting
  split
  · exact ⟨rfl, h.updateSessionError _⟩
  · exact ⟨rfl, h⟩

theorem twin_acceptRequest (h : Twin a b) (request : PinentryRequest) :
    TwinWith (pm.acceptRequest W a request) (pm.acceptRequest W b request) := by
  unfold acceptRequest
  dsimp only
  rw [h.getSession]
  generalize PinentryManager.resolveRetryInfo _ request = resolved
  obtain ⟨hl, hleft⟩ := twin_leaveAwaiting resolved.2 h request
  rw [← hl]
  obtain ⟨hc, hopen⟩ := twin_openSession (W := W) hleft request resolved.1
    (a.getSession request.cookie).isSome
  rw [← hc]
  split
  · exact ⟨rfl, hopen.writeJson⟩
  · exact twin_showPrompt _ hopen request

theorem twin_handleRequest (h : Twin a b) (msg : QJsonObject) (socket : Socket) (peerPid : Pid) :
    TwinWith (pm.handleRequest W a msg socket peerPid)
      (pm.handleRequest W b msg socket peerPid) := by
  have hread : readRequest W b msg socket peerPid = readRequest W a msg socket peerPid := by
    rw [readRequest, readRequest, h.tick]
  have ha : Twin (if (msg.value "cookie").toString = "" then a.ticked else a)
      (if (msg.value "cookie").toString = "" then b.ticked else b) := by
    split
    · exact h.ticked
    · exact h
  unfold handleRequest
  dsimp only
  rw [hread]
  split
  · exact ⟨rfl, ha⟩
  · exact twin_acceptRequest pm ha _

/-- **A response**: only the password of the reply differs. -/
theorem redacted_handleResponse (cookie response response' : String) :
    let x := pm.handleResponse cookie response
    let y := pm.handleResponse cookie response'
    (∀ s, (Output.sent s x.1).redacted = (Output.sent s y.1).redacted) ∧
      x.1.value "type" = y.1.value "type" ∧ x.1.value "message" = y.1.value "message" ∧
        x.2 = y.2 := by
  unfold handleResponse
  cases pm.pendingRequests.lookup cookie with
  | none =>
      dsimp only
      split
      · exact ⟨fun _ => rfl, rfl, rfl, rfl⟩
      · exact ⟨fun _ => rfl, rfl, rfl, rfl⟩
  | some request =>
      dsimp only
      split
      · exact ⟨fun _ => rfl, rfl, rfl, rfl⟩
      · refine ⟨fun s => ?_, by simp, by simp, rfl⟩
        have hcarry : ∀ r : String, carriesAnswer
            ((QJsonObject.set [("type", "pinentry_response"), ("id", cookie)] "result" "ok").set
              "password" r) = true := fun r => by simp [carriesAnswer]
        simp [Output.redacted, hcarry, QJsonObject.remove_set_self]

theorem twin_onTimeout (h : Twin a b) (timer : ℕ) :
    TwinWith (pm.onTimeout W a timer) (pm.onTimeout W b timer) := by
  unfold onTimeout
  cases pm.activeTimers.lookup timer with
  | none => exact ⟨rfl, h⟩
  | some cookie => exact twin_closeFlow _ h _ _ _

theorem twin_handleResult (h : Twin a b) (msg : QJsonObject) (peerPid : Pid) :
    let x := pm.handleResult W a msg peerPid
    let y := pm.handleResult W b msg peerPid
    x.1 = y.1 ∧ TwinWith x.2 y.2 := by
  simp only [handleResult, twin_isPinentrySession h]
  split_ifs
  · exact ⟨rfl, rfl, h⟩
  · exact ⟨rfl, rfl, h⟩
  · exact ⟨rfl, rfl, h⟩
  · exact ⟨rfl, twin_closeFlow pm h _ _ _⟩
  · exact ⟨rfl, rfl, h.updateSessionError _⟩
  · exact ⟨rfl, twin_closeFlow pm h _ _ _⟩
  · exact ⟨rfl, twin_closeFlow pm h _ _ _⟩
  · exact ⟨rfl, rfl, h⟩

theorem twin_hasRequest (h : Twin a b) (cookie : String) :
    pm.hasRequest b cookie = pm.hasRequest a cookie := by
  rw [hasRequest, hasRequest, twin_isPinentrySession h]

theorem twin_handleCancel (h : Twin a b) (cookie : String) :
    let x := pm.handleCancel W a cookie
    let y := pm.handleCancel W b cookie
    x.1 = y.1 ∧ TwinWith x.2 y.2 := by
  simp only [handleCancel, twin_isPinentrySession h]
  split_ifs
  · exact ⟨rfl, twin_closeFlow pm h _ _ _⟩
  · exact ⟨rfl, twin_closeFlow pm h _ _ _⟩
  · exact ⟨rfl, twin_closeFlow pm h _ _ _⟩
  · exact ⟨rfl, rfl, h⟩

theorem twin_closeAll : ∀ (cookies : List String) (pm : PinentryManager) {a b : Agent}, Twin a b →
    TwinWith (closeAll W cookies pm a) (closeAll W cookies pm b)
  | [], _, _, _, h => ⟨rfl, h⟩
  | cookie :: rest, pm, _, _, h => by
      obtain ⟨hpm, ha⟩ := twin_closeFlow (W := W) pm h cookie .cancelled "Pinentry disconnected"
      unfold closeAll
      dsimp only
      rw [← hpm]
      exact twin_closeAll rest _ ha

theorem twin_cleanupForSocket (h : Twin a b) (socket : Socket) :
    TwinWith (pm.cleanupForSocket W a socket) (pm.cleanupForSocket W b socket) := by
  unfold cleanupForSocket
  rw [h.tick]
  exact twin_closeAll _ pm h.ticked

end PinentryManager

/-! ## The listener -/

namespace PolkitListener

variable (l : PolkitListener)

theorem twin_reattempt (h : Twin a b) (handle : ℕ) (st : SessionState) :
    TwinWith (l.reattempt a handle st) (l.reattempt b handle st) := by
  refine ⟨rfl, ?_⟩
  simp only [reattempt]
  split
  · exact h.trace rfl
  · exact h

theorem twin_conclude (h : Twin a b) (handle : ℕ) (st : SessionState) :
    TwinWith (l.conclude W a handle st) (l.conclude W b handle st) :=
  ⟨rfl, h.onSessionComplete _ _⟩

theorem twin_finishAuth (h : Twin a b) (handle : ℕ) :
    TwinWith (l.finishAuth W a handle) (l.finishAuth W b handle) := by
  unfold finishAuth
  cases l.states.lookup handle with
  | none => exact ⟨rfl, h⟩
  | some st =>
      dsimp only
      split_ifs
      · exact ⟨rfl, h⟩
      · exact twin_reattempt _ h handle _
      · exact twin_conclude l (h.onSessionRetry _ _) handle _
      · exact twin_conclude l h handle _

theorem twin_withState (h : Twin a b) {session : ℕ}
    {f g : ℕ → SessionState → PolkitListener × Agent} (hf : ∀ x st, TwinWith (f x st) (g x st)) :
    TwinWith (l.withState a session f) (l.withState b session g) := by
  unfold withState
  split
  · exact ⟨rfl, h⟩
  · split
    · exact ⟨rfl, h⟩
    · exact hf _ _

theorem twin_onSessionRequest (h : Twin a b) (session : ℕ) (request : String) (echo : Bool) :
    TwinWith (l.onSessionRequest a session request echo)
      (l.onSessionRequest b session request echo) :=
  twin_withState l h fun _ st => ⟨rfl, h.onSessionRequest st.cookie request echo⟩

theorem twin_onSessionCompleted (h : Twin a b) (session : ℕ) (gained : Bool) :
    TwinWith (l.onSessionCompleted W a session gained)
      (l.onSessionCompleted W b session gained) := by
  refine twin_withState l h fun handle st => ?_
  dsimp only
  split
  · exact twin_finishAuth _ (h.onSessionRetry _ _) handle
  · exact twin_finishAuth _ h handle

theorem twin_onSessionError (h : Twin a b) (session : ℕ) (text : String) :
    TwinWith (l.onSessionError a session text) (l.onSessionError b session text) :=
  twin_withState l h fun _ st => ⟨rfl, h.onSessionRetry st.cookie text⟩

theorem twin_onSessionInfo (h : Twin a b) (session : ℕ) (text : String) :
    TwinWith (l.onSessionInfo a session text) (l.onSessionInfo b session text) :=
  twin_withState l h fun _ st => ⟨rfl, h.onSessionInfo st.cookie text⟩

theorem twin_cancelLoop : ∀ (handles : List ℕ) (l : PolkitListener) {a b : Agent}, Twin a b →
    TwinWith (cancelLoop W handles l a) (cancelLoop W handles l b)
  | [], _, _, _, h => ⟨rfl, h⟩
  | handle :: rest, l, a, b, h => by
      unfold cancelLoop
      split
      · exact ⟨rfl, h⟩
      next st _ =>
        obtain ⟨hl, ha⟩ :=
          twin_finishAuth (W := W) (l.setState handle { st with cancelled := true }) h handle
        dsimp only
        rw [← hl]
        exact twin_cancelLoop rest _ ha

theorem twin_cancelAuthentication (h : Twin a b) :
    TwinWith (l.cancelAuthentication W a) (l.cancelAuthentication W b) := by
  unfold cancelAuthentication
  rw [h.tick]
  exact twin_cancelLoop _ l h.ticked

/-- **A password is handed on and not kept.** -/
theorem twin_submitPassword (h : Twin a b) (cookie pass pass' : String) :
    TwinWith (l.submitPassword a cookie pass) (l.submitPassword b cookie pass') := by
  have ht : Twin (a.trace (.submitPassword cookie pass)) (b.trace (.submitPassword cookie pass')) :=
    h.trace rfl
  unfold submitPassword
  dsimp only
  split
  · exact ⟨rfl, ht⟩
  split
  · exact ⟨rfl, ht⟩
  split
  · exact ⟨rfl, ht⟩
  · exact ⟨rfl, ht.trace rfl⟩

theorem twin_cancelSession (h : Twin a b) (session : ℕ) :
    TwinWith (l.cancelSession W a session) (l.cancelSession W b session) := by
  have ht : Twin (a.ticked.trace (.cancel session)) (b.ticked.trace (.cancel session)) :=
    h.ticked.trace rfl
  unfold cancelSession
  rw [h.tick]
  dsimp only
  split
  · exact twin_onSessionCompleted l ht session false
  · exact ⟨rfl, ht⟩

theorem twin_cancelPending (h : Twin a b) (cookie : String) :
    TwinWith (l.cancelPending W a cookie) (l.cancelPending W b cookie) := by
  unfold cancelPending
  split
  · exact ⟨rfl, h⟩
  split
  · exact ⟨rfl, h⟩
  split
  · exact ⟨rfl, h⟩
  next session _ =>
    obtain ⟨hl, ha⟩ := twin_cancelSession (W := W) l h session
    dsimp only
    rw [← hl]
    split
    · exact ⟨rfl, ha⟩
    · exact twin_finishAuth _ ha _

theorem twin_initiateAuthentication (h : Twin a b) (actionId message iconName : String)
    (details : Agent.Details) (cookie : String) (identities : List String) :
    TwinWith (l.initiateAuthentication W a actionId message iconName details cookie identities)
      (l.initiateAuthentication W b actionId message iconName details cookie identities) := by
  unfold initiateAuthentication
  dsimp only
  split
  · exact ⟨rfl, h⟩
  split
  · exact ⟨rfl, h⟩
  next user _ =>
    obtain ⟨hc, ha⟩ := h.onPolkitRequest (W := W) cookie message actionId user details
    rw [← hc]
    split
    · exact ⟨rfl, ha⟩
    · exact twin_reattempt _ ha _ _

end PolkitListener

end BbAuth
