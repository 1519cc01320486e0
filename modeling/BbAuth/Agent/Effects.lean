import BbAuth.Model.Agent
/-!
# What the agent's services do

The services fall in two: those that only talk (`Quiet`: the clients, the
store, the subscribers and the list of emitted session events stay), and
the four that open, mutate or close a session and emit one event. This
file places every service, and reads off what each leaves of the session
a given id names.
-/

namespace BbAuth

/-- The session event an output carries. -/
def Output.event? : Output → Option QJsonObject
  | .emitted event => some event
  | _ => none

namespace Agent

variable (W : World) {a b c : Agent}

/-- The session events emitted so far. -/
def events (a : Agent) : List QJsonObject := a.log.filterMap Output.event?

/-! ## Sending

A message changes the trace and nothing else. -/

theorem sendJson_eq (a : Agent) (s : Socket) (j : QJsonObject) :
    a.sendJson s j = { a with log := (a.sendJson s j).log } := by
  unfold sendJson
  split <;> rfl

/-- What is written, and to whom. -/
theorem sendJson_log (a : Agent) (s : Socket) (j : QJsonObject) :
    (a.sendJson s j).log = a.log ++ if a.isConnected s then [.sent s j] else [] := by
  unfold sendJson
  split <;> simp [trace]

/-- Who is connected is read off the clients. -/
theorem isConnected_of_clients (h : b.clients = a.clients) (s : Socket) :
    b.isConnected s = a.isConnected s := by
  simp only [isConnected, h]

/-- **A list of deliveries** is sent to those who are connected. -/
theorem foldl_sendJson_log (deliveries : List (Socket × QJsonObject)) (a : Agent) :
    (deliveries.foldl (fun a d => a.sendJson d.1 d.2) a).log =
      a.log ++ (deliveries.filter fun d => a.isConnected d.1).map fun d => .sent d.1 d.2 := by
  induction deliveries generalizing a with
  | nil => simp
  | cons d deliveries ih =>
      have hconn : (a.sendJson d.1 d.2).isConnected = a.isConnected := by
        funext t
        refine isConnected_of_clients ?_ t
        unfold sendJson
        split <;> rfl
      rw [List.foldl_cons, ih, hconn, sendJson_log, List.filter_cons, List.append_assoc]
      cases a.isConnected d.1 <;> rfl

theorem foldl_eq {α : Type} {f : Agent → α → Agent}
    (h : ∀ a x, f a x = { a with log := (f a x).log }) :
    ∀ (l : List α) (a : Agent), l.foldl f a = { a with log := (l.foldl f a).log }
  | [], _ => rfl
  | x :: l, a => by
      have ih := foldl_eq h l (f a x)
      rw [List.foldl_cons, ih, h a x]

theorem sendEach_eq (a : Agent) (l : List Socket) (j : QJsonObject) :
    a.sendEach l j = { a with log := (a.sendEach l j).log } := by
  refine foldl_eq (fun a s => ?_) l a
  split
  · exact sendJson_eq a s j
  · rfl

theorem sendAll_eq (a : Agent) (s : Socket) (l : List QJsonObject) :
    a.sendAll s l = { a with log := (a.sendAll s l).log } :=
  foldl_eq (fun a j => sendJson_eq a s j) l a

theorem emitProviderStatus_eq (a : Agent) :
    a.emitProviderStatus W = { a.ticked with log := (a.emitProviderStatus W).log } := by
  simp only [emitProviderStatus]
  rw [sendEach_eq, sendEach_eq a.ticked]

section

variable (a : Agent) (s : Socket) (j : QJsonObject)

@[simp] theorem sendJson_clients : (a.sendJson s j).clients = a.clients := by
  rw [sendJson_eq]

@[simp] theorem sendJson_providerRegistry :
    (a.sendJson s j).providerRegistry = a.providerRegistry := by
  rw [sendJson_eq]

@[simp] theorem sendJson_eventQueue : (a.sendJson s j).eventQueue = a.eventQueue := by
  rw [sendJson_eq]

@[simp] theorem sendJson_sessionStore : (a.sendJson s j).sessionStore = a.sessionStore := by
  rw [sendJson_eq]

@[simp] theorem sendJson_subscribers : (a.sendJson s j).subscribers = a.subscribers := by
  rw [sendJson_eq]

@[simp] theorem sendJson_tick : (a.sendJson s j).tick = a.tick := by
  rw [sendJson_eq]

@[simp] theorem emitProviderStatus_clients : (a.emitProviderStatus W).clients = a.clients := by
  rw [emitProviderStatus_eq]
  rfl

@[simp] theorem emitProviderStatus_providerRegistry :
    (a.emitProviderStatus W).providerRegistry = a.providerRegistry := by
  rw [emitProviderStatus_eq]
  rfl

@[simp] theorem emitProviderStatus_eventQueue :
    (a.emitProviderStatus W).eventQueue = a.eventQueue := by
  rw [emitProviderStatus_eq]
  rfl

@[simp] theorem emitProviderStatus_sessionStore :
    (a.emitProviderStatus W).sessionStore = a.sessionStore := by
  rw [emitProviderStatus_eq]
  rfl

@[simp] theorem emitProviderStatus_subscribers :
    (a.emitProviderStatus W).subscribers = a.subscribers := by
  rw [emitProviderStatus_eq]
  rfl

@[simp] theorem emitProviderStatus_tick : (a.emitProviderStatus W).tick = a.tick + 1 := by
  rw [emitProviderStatus_eq]
  rfl

end

theorem recomputeAndEmit_eventQueue (a : Agent) :
    (a.recomputeAndEmit W).eventQueue = a.eventQueue := by
  simp only [recomputeAndEmit]
  split
  · exact emitProviderStatus_eventQueue W _
  · rfl

/-- **A service that only talks.** -/
structure Quiet (a b : Agent) : Prop where
  clients : b.clients = a.clients
  sessionStore : b.sessionStore = a.sessionStore
  subscribers : b.subscribers = a.subscribers
  events : b.events = a.events
  log : a.log <+: b.log

theorem Quiet.refl (a : Agent) : Quiet a a := ⟨rfl, rfl, rfl, rfl, List.prefix_rfl⟩

theorem Quiet.trans (h : Quiet a b) (h' : Quiet b c) : Quiet a c where
  clients := h'.clients.trans h.clients
  sessionStore := h'.sessionStore.trans h.sessionStore
  subscribers := h'.subscribers.trans h.subscribers
  events := h'.events.trans h.events
  log := h.log.trans h'.log

/-- **A step that speaks of no session**: the clients, the store and the
events stay, and the trace grows. -/
structure Silent (a b : Agent) : Prop where
  clients : b.clients = a.clients
  sessionStore : b.sessionStore = a.sessionStore
  events : b.events = a.events
  log : a.log <+: b.log

theorem Silent.refl (a : Agent) : Silent a a := ⟨rfl, rfl, rfl, List.prefix_rfl⟩

theorem Silent.trans (h : Silent a b) (h' : Silent b c) : Silent a c :=
  ⟨h'.clients.trans h.clients, h'.sessionStore.trans h.sessionStore, h'.events.trans h.events,
    h.log.trans h'.log⟩

theorem Quiet.silent (h : Quiet a b) : Silent a b := ⟨h.clients, h.sessionStore, h.events, h.log⟩

/-- A trace entry that is no session event is quiet. -/
theorem quiet_trace (a : Agent) {o : Output} (h : o.event? = none) : Quiet a (a.trace o) where
  clients := rfl
  sessionStore := rfl
  subscribers := rfl
  events := by simp [Agent.events, trace, h]
  log := List.prefix_append _ _

theorem quiet_sendJson (a : Agent) (s : Socket) (j : QJsonObject) : Quiet a (a.sendJson s j) := by
  unfold sendJson
  split
  · exact quiet_trace a rfl
  · exact Quiet.refl a

theorem quiet_writeJson (a : Agent) (s : Socket) (j : QJsonObject) :
    Quiet a (a.writeJson s j) := by
  unfold writeJson
  split
  · exact quiet_trace a rfl
  · exact Quiet.refl a

/-- Folding quiet calls is quiet. -/
theorem quiet_foldl {α : Type} {f : Agent → α → Agent} (h : ∀ a x, Quiet a (f a x)) :
    ∀ (l : List α) (a : Agent), Quiet a (l.foldl f a)
  | [], a => Quiet.refl a
  | x :: l, a => (h a x).trans (quiet_foldl h l (f a x))

theorem quiet_sendEach (a : Agent) (l : List Socket) (j : QJsonObject) :
    Quiet a (a.sendEach l j) := by
  refine quiet_foldl (fun a s => ?_) l a
  split
  · exact quiet_sendJson a s j
  · exact Quiet.refl a

theorem quiet_sendAll (a : Agent) (s : Socket) (l : List QJsonObject) : Quiet a (a.sendAll s l) :=
  quiet_foldl (fun a j => quiet_sendJson a s j) l a

/-- Asking the world a question is quiet. -/
theorem quiet_ticked (a : Agent) : Quiet a a.ticked := ⟨rfl, rfl, rfl, rfl, List.prefix_rfl⟩

theorem quiet_setRegistry (a : Agent) (r : ProviderRegistry) : Quiet a (a.setRegistry r) :=
  ⟨rfl, rfl, rfl, rfl, List.prefix_rfl⟩

theorem quiet_setQueue (a : Agent) (q : EventQueue) : Quiet a (a.setQueue q) :=
  ⟨rfl, rfl, rfl, rfl, List.prefix_rfl⟩

theorem quiet_recomputeActiveProvider (a : Agent) :
    Quiet a (a.recomputeActiveProvider W).2 :=
  ⟨rfl, rfl, rfl, rfl, List.prefix_rfl⟩

theorem quiet_emitProviderStatus (a : Agent) : Quiet a (a.emitProviderStatus W) := by
  simp only [emitProviderStatus]
  exact ((quiet_ticked a).trans (quiet_sendEach _ _ _)).trans (quiet_sendEach _ _ _)

theorem quiet_recomputeAndEmit (a : Agent) : Quiet a (a.recomputeAndEmit W) := by
  simp only [recomputeAndEmit]
  split
  · exact (quiet_recomputeActiveProvider W a).trans (quiet_emitProviderStatus W _)
  · exact quiet_recomputeActiveProvider W a

theorem quiet_push (a : Agent) (e : QJsonObject) : Quiet a (a.push e) := by
  unfold push
  split
  · split
    · split
      · exact quiet_sendJson a _ e
      · exact Quiet.refl a
    · exact Quiet.refl a
  · exact quiet_sendEach a _ e

theorem quiet_route (a : Agent) (e : QJsonObject) : Quiet a (a.route e) := by
  simp only [route]
  exact ((quiet_push a e).trans (quiet_setQueue _ _)).trans
    (quiet_foldl (fun a (d : Socket × QJsonObject) => quiet_sendJson a d.1 d.2) _ _)

theorem quiet_ensureFallbackUiRunning (a : Agent) (reason : String) :
    Quiet a (a.ensureFallbackUiRunning W reason) := by
  simp only [ensureFallbackUiRunning]
  refine (quiet_trace a
    (o := .ensureFallbackUiRunning reason a.providerRegistry a.sessionStore) rfl).trans ?_
  split
  · exact Quiet.refl _
  · split
    · exact quiet_ticked _
    · split
      · exact quiet_ticked _
      · split
        · exact ⟨rfl, rfl, rfl, rfl, List.prefix_rfl⟩
        · exact quiet_ticked _

theorem quiet_pruneStaleProviders (a : Agent) : Quiet a (a.pruneStaleProviders W) := by
  simp only [pruneStaleProviders]
  split
  · exact (quiet_recomputeAndEmit W a).trans (quiet_ensureFallbackUiRunning W _ _)
  · exact quiet_recomputeAndEmit W a

/-! ## The services that speak of a session -/

/-- **A service that leaves the store at `sessions` and emits `event`.** -/
structure Emits (a : Agent) (sessions : Table String Session) (event : QJsonObject) (b : Agent) :
    Prop where
  clients : b.clients = a.clients
  sessions : b.sessionStore.sessions = sessions
  subscribers : b.subscribers = a.subscribers
  events : b.events = a.events ++ [event]
  log : a.log <+: b.log

theorem Emits.quiet {sessions : Table String Session} {e : QJsonObject}
    (h : Emits a sessions e b) (h' : Quiet b c) : Emits a sessions e c where
  clients := h'.clients.trans h.clients
  sessions := by rw [h'.sessionStore, h.sessions]
  subscribers := h'.subscribers.trans h.subscribers
  events := h'.events.trans h.events
  log := h.log.trans h'.log

theorem emits_emitSessionEvent (a : Agent) (e : QJsonObject) :
    Emits a a.sessionStore.sessions e (a.emitSessionEvent e) := by
  refine Emits.quiet ?_ (quiet_route _ e)
  exact ⟨rfl, rfl, rfl, by simp [Agent.events, trace, Output.event?], List.prefix_append _ _⟩

/-- Storing and then emitting. -/
theorem emits_store_emit (a : Agent) (store : SessionStore) (e : QJsonObject) :
    Emits a store.sessions e ((a.setStore store).emitSessionEvent e) :=
  let h := emits_emitSessionEvent (a.setStore store) e
  ⟨h.clients, h.sessions, h.subscribers, h.events, h.log⟩

/-- Storing, electing and then emitting. -/
theorem emits_store_recompute_emit (a : Agent) (store : SessionStore) (e : QJsonObject) :
    Emits a store.sessions e (((a.setStore store).recomputeAndEmit W).emitSessionEvent e) := by
  have hq := quiet_recomputeAndEmit W (a.setStore store)
  have he := emits_emitSessionEvent ((a.setStore store).recomputeAndEmit W) e
  refine ⟨he.clients.trans hq.clients, ?_, he.subscribers.trans hq.subscribers, ?_,
    hq.log.trans he.log⟩
  · rw [he.sessions, hq.sessionStore]
    rfl
  · rw [he.events, hq.events]
    rfl

variable (a) (id : String)

/-- The session `createSession` opens. -/
def newSession (source : Session.Source) (ctx : Session.Context) : Session :=
  { id := id, source := source, context := ctx }

theorem createSession_of_some {s : Session} (h : a.getSession id = some s)
    (source : Session.Source) (ctx : Session.Context) :
    a.createSession W id source ctx = (false, a) := by
  have h' : a.sessionStore.sessions.lookup id = some s := h
  simp [createSession, SessionStore.createSession, h']

theorem createSession_of_none (h : a.getSession id = none) (source : Session.Source)
    (ctx : Session.Context) :
    (a.createSession W id source ctx).1 = true ∧
      Emits a (a.sessionStore.sessions.insert id (newSession id source ctx))
        (newSession id source ctx).toCreatedEvent (a.createSession W id source ctx).2 := by
  have h' : a.sessionStore.sessions.lookup id = none := h
  have he : Emits a (a.sessionStore.sessions.insert id (newSession id source ctx))
      (newSession id source ctx).toCreatedEvent _ :=
    emits_store_emit a (a.sessionStore.put (newSession id source ctx)) _
  have hlaunch := he.quiet (quiet_ensureFallbackUiRunning W _ "session-created")
  simp only [createSession, SessionStore.createSession, h']
  rw [← newSession]
  split <;> dsimp only
  · exact ⟨rfl, hlaunch⟩
  · exact ⟨rfl, he⟩

theorem emitUpdate_of_none {f : Session → Session} (h : a.getSession id = none) :
    a.emitUpdate (a.sessionStore.update id f) = a := by
  have h' : a.sessionStore.sessions.lookup id = none := h
  simp [emitUpdate, SessionStore.update, h']

theorem emitUpdate_of_some {s : Session} {f : Session → Session}
    (h : a.getSession id = some s) (hf : (f s).id = s.id) :
    Emits a (a.sessionStore.sessions.insert id (f s)) (f s).toUpdatedEvent
      (a.emitUpdate (a.sessionStore.update id f)) := by
  have h' : a.sessionStore.sessions.lookup id = some s := h
  obtain rfl : (f s).id = id := hf.trans (a.sessionStore.keyed id s h')
  simp only [emitUpdate, SessionStore.update, h']
  exact emits_store_emit a (a.sessionStore.put (f s)) (f s).toUpdatedEvent

theorem closeSession_of_none (h : a.getSession id = none) (r : Session.Result) :
    (a.closeSession W id r).2 = a := by
  have h' : a.sessionStore.sessions.lookup id = none := h
  simp [closeSession, SessionStore.closeSession, h']

theorem closeSession_of_some {s : Session} (h : a.getSession id = some s) (r : Session.Result) :
    Emits a (a.sessionStore.sessions.erase id) (s.close r).toClosedEvent
      (a.closeSession W id r).2 := by
  have h' : a.sessionStore.sessions.lookup id = some s := h
  simp only [closeSession, SessionStore.closeSession, h', Bool.not_false, if_true]
  split
  · exact emits_store_recompute_emit W a (a.sessionStore.drop id) _
  · exact emits_store_emit a (a.sessionStore.drop id) _

theorem onSessionComplete_of_none (h : a.getSession id = none) (success : Bool) :
    a.onSessionComplete W id success = a := by
  have h' : a.sessionStore.sessions.lookup id = none := h
  simp [onSessionComplete, SessionStore.closeSession, h']

theorem onSessionComplete_of_some {s : Session} (h : a.getSession id = some s) (success : Bool) :
    Emits a (a.sessionStore.sessions.erase id)
      (s.close (if success then .success else .cancelled)).toClosedEvent
      (a.onSessionComplete W id success) := by
  have h' : a.sessionStore.sessions.lookup id = some s := h
  simp only [onSessionComplete, SessionStore.closeSession, h']
  set event := (s.close (if success then .success else .cancelled)).toClosedEvent
  have he : Emits a (a.sessionStore.sessions.erase id) event _ :=
    emits_store_emit a (a.sessionStore.drop id) event
  split
  · exact he.quiet (quiet_recomputeAndEmit W _)
  · exact he

end Agent

end BbAuth
