import BbAuth.Model.Daemon
/-!
# Agents that differ in a secret

What a user answers is written to the trace, in a reply to the requestor
or in a call of PAM, and nowhere else. Two agents are `Twin` where they
agree on everything but the secrets in their traces. Nothing the agent does
reads its trace, so every service keeps twins twins; the managers and the
listener do too, and return the same besides.
-/

namespace BbAuth

/-- Is this the type of a reply that may carry an answer? -/
def carriesAnswer (json : QJsonObject) : Bool :=
  (json.value "type").toString ∈ ["keyring_response", "pinentry_response"]

/-- **An output with its secrets blanked out**: the password of a reply to
a requestor, and what is handed to PAM. -/
def Output.redacted : Output → Output
  | .sent socket json => .sent socket (if carriesAnswer json then json.remove "password" else json)
  | .submitPassword cookie _ => .submitPassword cookie ""
  | .setResponse session _ => .setResponse session ""
  | o => o

namespace Agent

/-- **Twins** agree on everything but the secrets in their traces. -/
def Twin (a b : Agent) : Prop :=
  ∃ log, b = { a with log := log } ∧ a.log.map Output.redacted = log.map Output.redacted

/-- Twins that come with the same result. -/
def TwinWith {α : Type} (x y : α × Agent) : Prop := x.1 = y.1 ∧ x.2.Twin y.2

variable {a b : Agent} {W : World} {s : Socket} {j e : QJsonObject} {id : String}

theorem Twin.refl (a : Agent) : Twin a a := ⟨a.log, rfl, rfl⟩

namespace Twin

/-! ## What twins agree on -/

theorem clients (h : Twin a b) : b.clients = a.clients := by
  obtain ⟨l, rfl, -⟩ := h
  rfl

theorem providerRegistry (h : Twin a b) : b.providerRegistry = a.providerRegistry := by
  obtain ⟨l, rfl, -⟩ := h
  rfl

theorem eventQueue (h : Twin a b) : b.eventQueue = a.eventQueue := by
  obtain ⟨l, rfl, -⟩ := h
  rfl

theorem sessionStore (h : Twin a b) : b.sessionStore = a.sessionStore := by
  obtain ⟨l, rfl, -⟩ := h
  rfl

theorem subscribers (h : Twin a b) : b.subscribers = a.subscribers := by
  obtain ⟨l, rfl, -⟩ := h
  rfl

theorem lastFallbackLaunchMs (h : Twin a b) : b.lastFallbackLaunchMs = a.lastFallbackLaunchMs := by
  obtain ⟨l, rfl, -⟩ := h
  rfl

theorem tick (h : Twin a b) : b.tick = a.tick := by
  obtain ⟨l, rfl, -⟩ := h
  rfl

theorem isConnected (h : Twin a b) : b.isConnected = a.isConnected := by
  obtain ⟨l, rfl, -⟩ := h
  rfl

theorem isValid (h : Twin a b) : b.isValid = a.isValid := by
  obtain ⟨l, rfl, -⟩ := h
  rfl

theorem getPeerPid (h : Twin a b) : b.getPeerPid = a.getPeerPid := by
  obtain ⟨l, rfl, -⟩ := h
  rfl

theorem hasActiveProvider (h : Twin a b) : b.hasActiveProvider = a.hasActiveProvider := by
  obtain ⟨l, rfl, -⟩ := h
  rfl

theorem getSession (h : Twin a b) : b.getSession = a.getSession := by
  obtain ⟨l, rfl, -⟩ := h
  rfl

theorem providerStatus (h : Twin a b) : b.providerStatus = a.providerStatus := by
  obtain ⟨l, rfl, -⟩ := h
  rfl

/-! ## Writing the state -/

/-- **One more output each**, the same but for a secret. -/
theorem trace (h : Twin a b) {o o' : Output} (ho : o.redacted = o'.redacted) :
    Twin (a.trace o) (b.trace o') := by
  obtain ⟨l, rfl, hl⟩ := h
  exact ⟨l ++ [o'], rfl, by simp [hl, ho]⟩

theorem ticked (h : Twin a b) : Twin a.ticked b.ticked := by
  obtain ⟨l, rfl, hl⟩ := h
  exact ⟨l, rfl, hl⟩

theorem setClients (h : Twin a b) (clients : Table Socket Client) :
    Twin (a.setClients clients) (b.setClients clients) := by
  obtain ⟨l, rfl, hl⟩ := h
  exact ⟨l, rfl, hl⟩

theorem setRegistry (h : Twin a b) (registry : ProviderRegistry) :
    Twin (a.setRegistry registry) (b.setRegistry registry) := by
  obtain ⟨l, rfl, hl⟩ := h
  exact ⟨l, rfl, hl⟩

theorem setQueue (h : Twin a b) (queue : EventQueue) :
    Twin (a.setQueue queue) (b.setQueue queue) := by
  obtain ⟨l, rfl, hl⟩ := h
  exact ⟨l, rfl, hl⟩

theorem setStore (h : Twin a b) (store : SessionStore) :
    Twin (a.setStore store) (b.setStore store) := by
  obtain ⟨l, rfl, hl⟩ := h
  exact ⟨l, rfl, hl⟩

theorem setSubscribers (h : Twin a b) (subscribers : List Socket) :
    Twin (a.setSubscribers subscribers) (b.setSubscribers subscribers) := by
  obtain ⟨l, rfl, hl⟩ := h
  exact ⟨l, rfl, hl⟩

theorem setLastFallbackLaunchMs (h : Twin a b) (nowMs : ℤ) :
    Twin { a with lastFallbackLaunchMs := nowMs } { b with lastFallbackLaunchMs := nowMs } := by
  obtain ⟨l, rfl, hl⟩ := h
  exact ⟨l, rfl, hl⟩

/-! ## Sending -/

/-- **A message each**, the same but for a password. -/
theorem sendRedacted (h : Twin a b) {j' : QJsonObject}
    (hj : (Output.sent s j).redacted = (Output.sent s j').redacted) :
    Twin (a.sendJson s j) (b.sendJson s j') := by
  unfold Agent.sendJson
  rw [h.isConnected]
  split
  · exact h.trace hj
  · exact h

theorem sendJson (h : Twin a b) : Twin (a.sendJson s j) (b.sendJson s j) := h.sendRedacted rfl

theorem writeJson (h : Twin a b) : Twin (a.writeJson s j) (b.writeJson s j) := by
  unfold Agent.writeJson
  rw [h.isValid]
  split
  · exact h.trace rfl
  · exact h

theorem foldl {α : Type} {f : Agent → α → Agent} (hf : ∀ a b x, Twin a b → Twin (f a x) (f b x)) :
    ∀ (l : List α) {a b : Agent}, Twin a b → Twin (l.foldl f a) (l.foldl f b)
  | [], _, _, h => h
  | x :: l, _, _, h => foldl hf l (hf _ _ x h)

theorem sendEach (h : Twin a b) (l : List Socket) : Twin (a.sendEach l j) (b.sendEach l j) := by
  refine foldl (fun a b s h => ?_) l h
  rw [h.isValid]
  split
  · exact h.sendJson
  · exact h

theorem sendAll (h : Twin a b) (l : List QJsonObject) : Twin (a.sendAll s l) (b.sendAll s l) :=
  foldl (fun _ _ message h => h.sendJson (j := message)) l h

theorem subscribe (h : Twin a b) : Twin (a.subscribe s) (b.subscribe s) := by
  unfold Agent.subscribe
  rw [h.subscribers]
  split
  · exact h
  · exact h.setSubscribers _

/-! ## Providers and events -/

theorem recomputeActiveProvider (h : Twin a b) :
    TwinWith (a.recomputeActiveProvider W) (b.recomputeActiveProvider W) := by
  unfold Agent.recomputeActiveProvider
  rw [h.tick, h.providerRegistry, h.isConnected]
  exact ⟨rfl, (h.setRegistry _).ticked⟩

theorem emitProviderStatus (h : Twin a b) :
    Twin (a.emitProviderStatus W) (b.emitProviderStatus W) := by
  have hsent := h.ticked.sendEach (j := a.providerStatus) (W.walk a.tick a.providerRegistry.sockets)
  simp only [Agent.emitProviderStatus, h.providerStatus, h.tick, h.providerRegistry, h.isValid]
  rw [hsent.subscribers]
  exact hsent.sendEach _

theorem recomputeAndEmit (h : Twin a b) : Twin (a.recomputeAndEmit W) (b.recomputeAndEmit W) := by
  obtain ⟨hc, hr⟩ := h.recomputeActiveProvider (W := W)
  simp only [Agent.recomputeAndEmit, ← hc]
  split
  · exact hr.emitProviderStatus
  · exact hr

theorem push (h : Twin a b) : Twin (a.push e) (b.push e) := by
  unfold Agent.push
  rw [h.providerRegistry, h.subscribers]
  split
  · split
    · rw [h.isValid]
      split
      · exact h.sendJson
      · exact h
    · exact h
  · exact h.sendEach _

theorem route (h : Twin a b) : Twin (a.route e) (b.route e) := by
  have hp := h.push (e := e)
  simp only [Agent.route, hp.eventQueue]
  exact foldl (fun _ _ d h => h.sendJson (s := d.1) (j := d.2)) _ (hp.setQueue _)

theorem emitSessionEvent (h : Twin a b) : Twin (a.emitSessionEvent e) (b.emitSessionEvent e) :=
  (h.trace rfl).route

theorem ensureFallbackUiRunning (h : Twin a b) (reason : String) :
    Twin (a.ensureFallbackUiRunning W reason) (b.ensureFallbackUiRunning W reason) := by
  have ht := h.trace
    (o := .ensureFallbackUiRunning reason a.providerRegistry a.sessionStore) rfl
  unfold Agent.ensureFallbackUiRunning
  dsimp only
  rw [h.providerRegistry, h.sessionStore]
  rw [ht.hasActiveProvider]
  split
  · exact ht
  rw [ht.tick]
  split
  · exact ht.ticked
  rw [ht.ticked.lastFallbackLaunchMs]
  split
  · exact ht.ticked
  split
  · exact ht.ticked.setLastFallbackLaunchMs _
  · exact ht.ticked

theorem pruneStaleProviders (h : Twin a b) :
    Twin (a.pruneStaleProviders W) (b.pruneStaleProviders W) := by
  have hr := h.recomputeAndEmit (W := W)
  unfold Agent.pruneStaleProviders
  dsimp only
  rw [hr.hasActiveProvider, hr.sessionStore]
  split
  · exact hr.ensureFallbackUiRunning _
  · exact hr

/-! ## Sessions -/

theorem createSession (h : Twin a b) (source : Session.Source) (ctx : Session.Context) :
    TwinWith (a.createSession W id source ctx) (b.createSession W id source ctx) := by
  unfold Agent.createSession
  rw [h.sessionStore]
  cases a.sessionStore.createSession id source ctx with
  | none => exact ⟨rfl, h⟩
  | some created =>
      have he := (h.setStore created.2).emitSessionEvent (e := created.1)
      dsimp only
      rw [he.hasActiveProvider]
      split
      · exact ⟨rfl, he.ensureFallbackUiRunning _⟩
      · exact ⟨rfl, he⟩

theorem emitUpdate (h : Twin a b) (updated : Option (QJsonObject × SessionStore)) :
    Twin (a.emitUpdate updated) (b.emitUpdate updated) := by
  cases updated with
  | none => exact h
  | some updated => exact (h.setStore updated.2).emitSessionEvent

theorem updateSessionPrompt (h : Twin a b) (prompt : String) (echo clearError : Bool) :
    Twin (a.updateSessionPrompt id prompt echo clearError)
      (b.updateSessionPrompt id prompt echo clearError) := by
  unfold Agent.updateSessionPrompt
  rw [h.sessionStore]
  exact h.emitUpdate _

theorem updateSessionError (h : Twin a b) (error : String) :
    Twin (a.updateSessionError id error) (b.updateSessionError id error) := by
  unfold Agent.updateSessionError
  rw [h.sessionStore]
  exact h.emitUpdate _

theorem updateSessionPinentryRetry (h : Twin a b) (curRetry maxRetries : ℤ) :
    Twin (a.updateSessionPinentryRetry id curRetry maxRetries)
      (b.updateSessionPinentryRetry id curRetry maxRetries) := by
  unfold Agent.updateSessionPinentryRetry
  rw [h.sessionStore]
  exact h.setStore _

theorem closeSession (h : Twin a b) (result : Session.Result) (deferred : Bool) :
    TwinWith (a.closeSession W id result deferred) (b.closeSession W id result deferred) := by
  unfold Agent.closeSession
  rw [h.sessionStore]
  cases a.sessionStore.closeSession id result with
  | none => exact ⟨rfl, h⟩
  | some closed =>
      have hs := h.setStore closed.2
      have hr : Twin
          (if (a.setStore closed.2).sessionStore.empty then (a.setStore closed.2).recomputeAndEmit W
            else a.setStore closed.2)
          (if (b.setStore closed.2).sessionStore.empty then (b.setStore closed.2).recomputeAndEmit W
            else b.setStore closed.2) := by
        rw [hs.sessionStore]
        split
        · exact hs.recomputeAndEmit
        · exact hs
      dsimp only
      split
      · exact ⟨rfl, hr.emitSessionEvent⟩
      · exact ⟨rfl, hr⟩

theorem onPolkitRequest (h : Twin a b) (cookie message actionId user : String) (details : Details) :
    TwinWith (a.onPolkitRequest W cookie message actionId user details)
      (b.onPolkitRequest W cookie message actionId user details) := by
  unfold Agent.onPolkitRequest
  rw [show b.polkitRequestor W details = a.polkitRequestor W details by
    rw [Agent.polkitRequestor, Agent.polkitRequestor, h.tick]]
  exact h.ticked.createSession _ _

theorem onSessionRequest (h : Twin a b) (cookie prompt : String) (echo : Bool) :
    Twin (a.onSessionRequest cookie prompt echo) (b.onSessionRequest cookie prompt echo) := by
  unfold Agent.onSessionRequest
  rw [h.sessionStore]
  exact h.emitUpdate _

theorem onSessionRetry (h : Twin a b) (cookie error : String) :
    Twin (a.onSessionRetry cookie error) (b.onSessionRetry cookie error) := by
  unfold Agent.onSessionRetry
  rw [h.sessionStore]
  exact h.emitUpdate _

theorem onSessionInfo (h : Twin a b) (cookie info : String) :
    Twin (a.onSessionInfo cookie info) (b.onSessionInfo cookie info) := by
  unfold Agent.onSessionInfo
  rw [h.sessionStore]
  exact h.emitUpdate _

theorem onSessionComplete (h : Twin a b) (cookie : String) (success : Bool) :
    Twin (a.onSessionComplete W cookie success) (b.onSessionComplete W cookie success) := by
  unfold Agent.onSessionComplete
  rw [h.sessionStore]
  cases a.sessionStore.closeSession cookie (if success then .success else .cancelled) with
  | none => exact h
  | some closed =>
      have he := (h.setStore closed.2).emitSessionEvent (e := closed.1)
      dsimp only
      rw [he.sessionStore]
      split
      · exact he.recomputeAndEmit
      · exact he

end Twin

end Agent

end BbAuth
