import BbAuth.Agent.Calls
/-!
# The life of one session id

What the agent's services do to the session of a given id, as far as the
flows of the managers depend on it: its source while it is open, and the
results it has been closed with. Each service has one equation.
-/

namespace BbAuth

/-- **The life of a session id**: the source of the open session, and the
results of those closed before. -/
structure Life where
  source : Option Session.Source
  closings : List QJsonValue

namespace Life

/-- A session is created, unless one is open. -/
def opened (l : Life) (source : Session.Source) : Life :=
  if l.source = none then { l with source := some source } else l

/-- The open session, if any, is closed. -/
def closed (l : Life) (r : Session.Result) : Life :=
  if l.source = none then l
  else { source := none, closings := l.closings ++ [.string (Session.resultToString r)] }

variable {l : Life} {source : Session.Source} {r : Session.Result}

@[simp] theorem closed_source : (l.closed r).source = none := by
  unfold closed
  split
  · assumption
  · rfl

theorem opened_of_none (h : l.source = none) :
    l.opened source = { l with source := some source } := if_pos h

theorem opened_of_some {s : Session.Source} (h : l.source = some s) : l.opened source = l := by
  simp [opened, h]

theorem closed_of_none (h : l.source = none) : l.closed r = l := if_pos h

end Life

namespace Agent

/-- Is this event the close of the session `c`? -/
def IsClosing (c : String) (e : QJsonObject) : Prop :=
  e.value "type" = .string "session.closed" ∧ e.value "id" = .string c

instance (c : String) (e : QJsonObject) : Decidable (IsClosing c e) :=
  inferInstanceAs (Decidable (_ ∧ _))

/-- The life of the id `c`. -/
def life (a : Agent) (c : String) : Life where
  source := (a.getSession c).map Session.source
  closings := (a.events.filter fun e => IsClosing c e).map fun e => e.value "result"

variable {a b : Agent}

theorem Quiet.life (h : Quiet a b) (c : String) : b.life c = a.life c := by
  simp only [Agent.life, getSession, h.sessionStore, h.events]

/-- The life after an emission: the source is read off the table, and a
closing is added where the event is one. -/
theorem Emits.life {sessions : Table String Session} {e : QJsonObject}
    (h : Emits a sessions e b) (c : String) :
    b.life c =
      { source := (sessions.lookup c).map Session.source
        closings := (a.life c).closings ++ if IsClosing c e then [e.value "result"] else [] } := by
  simp only [Agent.life, getSession, SessionStore.getSession, h.sessions, h.events,
    List.filter_append, List.map_append]
  congr 2
  by_cases hc : IsClosing c e <;> simp [hc]

variable (W : World) (a) (id c : String)

theorem getSession_eq_none : a.getSession c = none ↔ (a.life c).source = none := by
  simp [Agent.life]

theorem isSome_getSession : (a.getSession c).isSome = (a.life c).source.isSome := by
  simp [Agent.life]

theorem createSession_fst (source : Session.Source) (ctx : Session.Context) :
    (a.createSession W id source ctx).1 = (a.life id).source.isNone := by
  cases h : a.getSession id with
  | some s => simp [createSession_of_some W a id h, Agent.life, h]
  | none => simp [(createSession_of_none W a id h source ctx).1, Agent.life, h]

@[simp] theorem life_createSession (source : Session.Source) (ctx : Session.Context) :
    (a.createSession W id source ctx).2.life c =
      if c = id then (a.life c).opened source else a.life c := by
  cases h : a.getSession id with
  | some s =>
      rw [createSession_of_some W a id h]
      split
      · subst c
        have hs : (a.life id).source = some s.source := by simp [Agent.life, h]
        rw [Life.opened_of_some hs]
      · rfl
  | none =>
      rw [(createSession_of_none W a id h source ctx).2.life]
      have hn : ¬ IsClosing c (newSession id source ctx).toCreatedEvent := by
        simp [IsClosing]
      by_cases hc : c = id
      · subst hc
        rw [if_pos rfl, Life.opened_of_none ((getSession_eq_none a c).1 h)]
        have hs : (newSession c source ctx).source = source := rfl
        simp [hn, hs]
      · simp [hn, hc, Agent.life, getSession, SessionStore.getSession]

@[simp] theorem life_emitUpdate {f : Session → Session} (hf : ∀ s : Session, s.Touch (f s)) :
    (a.emitUpdate (a.sessionStore.update id f)).life c = a.life c := by
  cases h : a.getSession id with
  | none => rw [emitUpdate_of_none a id h]
  | some s =>
      rw [(emitUpdate_of_some a id h (hf s).id).life]
      have hn : ¬ IsClosing c (f s).toUpdatedEvent := by simp [IsClosing]
      have h' : a.sessionStore.sessions.lookup id = some s := h
      by_cases hc : c = id
      · subst hc
        simp [hn, (hf s).source, Agent.life, getSession, SessionStore.getSession, h']
      · simp [hn, hc, Agent.life, getSession, SessionStore.getSession]

@[simp] theorem life_updateSessionPrompt (prompt : String) (echo clearError : Bool) :
    (a.updateSessionPrompt id prompt echo clearError).life c = a.life c :=
  life_emitUpdate a id c fun s => s.touch_setPrompt prompt echo clearError

@[simp] theorem life_updateSessionError (error : String) :
    (a.updateSessionError id error).life c = a.life c :=
  life_emitUpdate a id c fun s => s.touch_setError error

@[simp] theorem life_onSessionRequest (prompt : String) (echo : Bool) :
    (a.onSessionRequest id prompt echo).life c = a.life c :=
  life_emitUpdate a id c fun s => s.touch_setPrompt prompt echo true

@[simp] theorem life_onSessionRetry (error : String) :
    (a.onSessionRetry id error).life c = a.life c :=
  life_emitUpdate a id c fun s => s.touch_setError error

@[simp] theorem life_onSessionInfo (info : String) :
    (a.onSessionInfo id info).life c = a.life c :=
  life_emitUpdate a id c fun s => s.touch_setInfo info

@[simp] theorem life_updateSessionPinentryRetry (cur max : ℤ) :
    (a.updateSessionPinentryRetry id cur max).life c = a.life c := by
  cases h : a.getSession id with
  | none =>
      have h' : a.sessionStore.sessions.lookup id = none := h
      simp [updateSessionPinentryRetry, SessionStore.updatePinentryRetry, h', Agent.life,
        Agent.events, getSession]
  | some s =>
      have h' : a.sessionStore.sessions.lookup id = some s := h
      rcases updateSessionPinentryRetry_of_some a id h cur max with hst | ⟨heq, -⟩
      · have he : (a.updateSessionPinentryRetry id cur max).events = a.events := rfl
        simp only [Agent.life, getSession, SessionStore.getSession, hst, he,
          Table.lookup_insert]
        by_cases hc : c = id
        · subst hc
          simp [h', (s.touch_setPinentryRetry cur max).source]
        · simp [hc]
      · rw [heq]

/-- What a close adds to a life. -/
theorem life_of_closed {s : Session} {r : Session.Result} {b : Agent}
    (h : a.getSession id = some s)
    (he : Emits a (a.sessionStore.sessions.erase id) (s.close r).toClosedEvent b) :
    b.life c = if c = id then (a.life c).closed r else a.life c := by
  have hid : (s.close r).id = id := a.sessionStore.keyed id s h
  rw [he.life]
  by_cases hc : c = id
  · subst hc
    have hclosing : IsClosing c (s.close r).toClosedEvent := by simp [IsClosing, hid]
    simp [hclosing, Life.closed, Agent.life, h]
  · have hn : ¬ IsClosing c (s.close r).toClosedEvent := by
      simp [IsClosing, hid, Ne.symm hc]
    simp [hn, hc, Agent.life, getSession, SessionStore.getSession]

@[simp] theorem life_closeSession (r : Session.Result) :
    (a.closeSession W id r).2.life c = if c = id then (a.life c).closed r else a.life c := by
  cases h : a.getSession id with
  | none =>
      rw [closeSession_of_none W a id h]
      split
      · subst c
        rw [Life.closed_of_none ((getSession_eq_none a id).1 h)]
      · rfl
  | some s => exact life_of_closed a id c h (closeSession_of_some W a id h r)

@[simp] theorem life_onSessionComplete (success : Bool) :
    (a.onSessionComplete W id success).life c =
      if c = id then (a.life c).closed (if success then .success else .cancelled)
      else a.life c := by
  cases h : a.getSession id with
  | none =>
      rw [onSessionComplete_of_none W a id h]
      split
      · subst c
        rw [Life.closed_of_none ((getSession_eq_none a id).1 h)]
      · rfl
  | some s => exact life_of_closed a id c h (onSessionComplete_of_some W a id h success)

@[simp] theorem life_ticked : a.ticked.life c = a.life c := rfl

@[simp] theorem life_setQueue (q : EventQueue) : (a.setQueue q).life c = a.life c := rfl

@[simp] theorem life_setRegistry (r : ProviderRegistry) : (a.setRegistry r).life c = a.life c :=
  rfl

@[simp] theorem life_setClients (t : Table Socket Client) : (a.setClients t).life c = a.life c :=
  rfl

@[simp] theorem life_setSubscribers (l : List Socket) : (a.setSubscribers l).life c = a.life c :=
  rfl

@[simp] theorem life_sendJson (s : Socket) (j : QJsonObject) :
    (a.sendJson s j).life c = a.life c := (quiet_sendJson a s j).life c

@[simp] theorem life_writeJson (s : Socket) (j : QJsonObject) :
    (a.writeJson s j).life c = a.life c := (quiet_writeJson a s j).life c

/-- **A call leaves the clients alone and only adds to the trace.** -/
structure Extends (a b : Agent) : Prop where
  clients : b.clients = a.clients
  log : a.log <+: b.log

theorem Extends.refl (a : Agent) : Extends a a := ⟨rfl, List.prefix_rfl⟩

theorem Extends.trans {a b c : Agent} (h : Extends a b) (h' : Extends b c) : Extends a c :=
  ⟨h'.clients.trans h.clients, h.log.trans h'.log⟩

theorem Quiet.extends {a b : Agent} (h : Quiet a b) : Extends a b := ⟨h.clients, h.log⟩

theorem Emits.extends {a b : Agent} {sessions : Table String Session} {e : QJsonObject}
    (h : Emits a sessions e b) : Extends a b := ⟨h.clients, h.log⟩

theorem extends_emitUpdate (a : Agent) (id : String) {f : Session → Session}
    (hf : ∀ s, (f s).id = s.id) : Extends a (a.emitUpdate (a.sessionStore.update id f)) := by
  cases h : a.getSession id with
  | none =>
      rw [emitUpdate_of_none a id h]
      exact .refl a
  | some s => exact (emitUpdate_of_some a id h (hf s)).extends

theorem Call.extends {S : Set Output} {a b : Agent} (h : Call W S a b) : Extends a b := by
  cases h with
  | ticked => exact (quiet_ticked a).extends
  | trace o ho => exact ⟨rfl, List.prefix_append _ _⟩
  | collision socket hs => exact (quiet_writeJson a socket _).extends
  | create id source ctx =>
      cases h : a.getSession id with
      | some s =>
          rw [createSession_of_some W a id h]
          exact .refl a
      | none => exact (createSession_of_none W a id h source ctx).2.extends
  | update id f hf => exact extends_emitUpdate a id fun s => (hf s).id
  | retryPrompt id s h cur max prompt echo clearError =>
      have hr : Extends a (a.updateSessionPinentryRetry id cur max) := ⟨rfl, List.prefix_rfl⟩
      exact hr.trans (extends_emitUpdate _ id fun s => rfl)
  | close id r =>
      cases h : a.getSession id with
      | none =>
          rw [closeSession_of_none W a id h]
          exact .refl a
      | some s => exact (closeSession_of_some W a id h r).extends
  | complete id success =>
      cases h : a.getSession id with
      | none =>
          rw [onSessionComplete_of_none W a id h]
          exact .refl a
      | some s => exact (onSessionComplete_of_some W a id h success).extends

theorem Calls.extends {S : Set Output} {a b : Agent} (h : Calls W S a b) : Extends a b := by
  induction h with
  | refl => exact .refl _
  | tail _ hstep ih => exact ih.trans hstep.extends

theorem Call.clients {S : Set Output} {a b : Agent} (h : Call W S a b) : b.clients = a.clients :=
  h.extends.clients

theorem Calls.clients {S : Set Output} {a b : Agent} (h : Calls W S a b) : b.clients = a.clients :=
  (Calls.extends W h).clients

end Agent

/-- The managers' test for an open pinentry session. -/
theorem PinentryManager.isPinentrySession_iff (a : Agent) (c : String) :
    isPinentrySession a c = true ↔ (a.life c).source = some .pinentry := by
  unfold isPinentrySession
  cases h : a.getSession c <;> simp [Agent.life, h]

end BbAuth
