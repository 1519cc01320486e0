import BbAuth.Library.Journal
import BbAuth.Sessions.Moves
/-!
# The session events of a run

The session store and the events emitted so far are a table and its
journal. So the events of one id are a sequence of lifetimes, and a client
that folds every event into a map of its own holds what a client that
subscribes now is told of the open sessions.
-/

namespace BbAuth

/-- **A session as it is created.** -/
structure Session.Fresh (s : Session) : Prop where
  prompt : s.prompt = ""
  echo : s.echo = false
  error : s.error = ""
  info : s.info = ""

open Journal

/-- The event a journal entry is emitted as. -/
def sessionEvent : Entry Session → QJsonObject
  | .opened s => s.toCreatedEvent
  | .touched s => s.toUpdatedEvent
  | .closed s => s.toClosedEvent

namespace Agent

/-- **The emitted events are the journal of the store.** -/
def Recorded (a : Agent) : Prop :=
  ∃ js, a.events = js.map sessionEvent ∧
    Records Session.id Session.Fresh Session.Touch a.sessionStore.sessions js

variable {a b : Agent}

theorem Recorded.move (h : Recorded a) (hm : Move a b) : Recorded b := by
  obtain ⟨js, hjs, hr⟩ := h
  cases hm with
  | silent hs => exact ⟨js, hs.events.trans hjs, hs.sessionStore ▸ hr⟩
  | clients t hb => exact ⟨js, hb ▸ hjs, hb ▸ hr⟩
  | opened id source ctx hn he =>
      refine ⟨js ++ [.opened (newSession id source ctx)], ?_, ?_⟩
      · rw [he.events, hjs, List.map_append]
        rfl
      · rw [he.sessions]
        exact hr.opened (v := newSession id source ctx) hn ⟨rfl, rfl, rfl, rfl⟩
  | touched id s s' hs ht he =>
      obtain rfl : s.id = id := hr.key_eq hs
      refine ⟨js ++ [.touched s'], ?_, ?_⟩
      · rw [he.events, hjs, List.map_append]
        rfl
      · rw [he.sessions]
        exact hr.touched hs ht.id ht
  | closed id s r hs he =>
      obtain rfl : s.id = id := hr.key_eq hs
      refine ⟨js ++ [.closed (s.close r)], ?_, ?_⟩
      · rw [he.events, hjs, List.map_append]
        rfl
      · rw [he.sessions]
        exact hr.closed (v := s.close r) hs rfl

theorem Recorded.moves (h : Recorded a) (hm : Moves a b) : Recorded b := by
  induction hm with
  | refl => exact h
  | tail _ hstep ih => exact ih.move hstep

end Agent

/-- **Every state a run reaches has its events on record.** -/
theorem Daemon.recorded_run (W : World) (ins : List Input) :
    ((Daemon.machine W).run ins).agent.Recorded :=
  Machine.invariant (I := fun d : Daemon => d.agent.Recorded) ⟨[], rfl, .nil⟩
    (fun d i h => h.moves (Daemon.moves_step W d i)) ins

/-! ## Lifetimes -/

/-- The types of the events of one session id. -/
def eventTypes (id : String) (events : List QJsonObject) : List String :=
  (events.filter fun e => e.value "id" = .string id).map fun e => (e.value "type").toString

/-- A whole lifetime with `n` updates. -/
def sessionLifetime (n : ℕ) : List String :=
  "session.created" :: List.replicate n "session.updated" ++ ["session.closed"]

/-- The lifetime under way, with the updates so far. -/
def sessionUnderway : Option ℕ → List String
  | none => []
  | some n => "session.created" :: List.replicate n "session.updated"

/-- The type of a journal entry's event. -/
def eventType : Kind → String
  | .opened => "session.created"
  | .touched => "session.updated"
  | .closed => "session.closed"

theorem eventTypes_sessionEvent (id : String) (js : List (Entry Session)) :
    eventTypes id (js.map sessionEvent) = (history Session.id id js).map eventType := by
  induction js with
  | nil => rfl
  | cons e js ih =>
      have hid : (sessionEvent e).value "id" = .string e.object.id := by
        cases e <;> simp [sessionEvent, Entry.object]
      have htype : ((sessionEvent e).value "type").toString = eventType e.kind := by
        cases e <;> simp [sessionEvent, Entry.kind, eventType]
      by_cases h : e.object.id = id <;>
        simp_all [eventTypes, history]

/-- **The events of an id are lifetimes**, each opened by one
`session.created` and ended by one `session.closed`; the last one is under
way exactly while the session is in the store. -/
theorem Daemon.session_lifetimes (W : World) (ins : List Input) (id : String) :
    ∃ (past : List ℕ) (current : Option ℕ),
      eventTypes id ((Daemon.machine W).run ins).agent.events =
        past.flatMap sessionLifetime ++ sessionUnderway current ∧
      (current.isSome ↔ ∃ s, ((Daemon.machine W).run ins).agent.getSession id = some s) := by
  obtain ⟨js, hjs, hr⟩ := Daemon.recorded_run W ins
  obtain ⟨past, current, hh, hc⟩ := hr.lifetimes id
  refine ⟨past, current, ?_, hc⟩
  have hlife : ∀ n, (lifetime n).map eventType = sessionLifetime n := by
    intro n
    simp [lifetime, sessionLifetime, eventType]
  have hunder : (underway current).map eventType = sessionUnderway current := by
    cases current <;> simp [underway, sessionUnderway, eventType]
  rw [hjs, eventTypes_sessionEvent, hh, List.map_append, List.map_flatMap, hunder]
  simp only [hlife]

/-! ## A client's replica -/

/-- What a client shows of a session. -/
structure SessionView where
  source : QJsonValue
  context : QJsonObject
  prompt : String
  echo : Bool
  error : String
  info : String
  curRetry : QJsonValue
  maxRetries : QJsonValue

namespace SessionView

/-- A context without the retry counters. -/
def staticContext (ctx : QJsonObject) : QJsonObject :=
  QJsonObject.remove (QJsonObject.remove ctx "curRetry") "maxRetries"

/-- The view a created event starts. -/
def created (event : QJsonObject) : SessionView :=
  let ctx := (event.value "context").toObject
  { source := event.value "source"
    context := staticContext ctx
    prompt := ""
    echo := false
    error := ""
    info := ""
    curRetry := ctx.value "curRetry"
    maxRetries := ctx.value "maxRetries" }

/-- What an updated event makes of a view: an absent text is empty, an
absent counter is the one held. -/
def updated (event : QJsonObject) (v : SessionView) : SessionView :=
  { v with
    prompt := (event.value "prompt").toString
    echo := (event.value "echo").toBool
    error := (event.value "error").toString
    info := (event.value "info").toString
    curRetry := if event.contains "curRetry" then event.value "curRetry" else v.curRetry
    maxRetries := if event.contains "maxRetries" then event.value "maxRetries" else v.maxRetries }

/-- A client's map after one more event. -/
def apply (views : Table String SessionView) (event : QJsonObject) : Table String SessionView :=
  let id := (event.value "id").toString
  let type := (event.value "type").toString
  if type = "session.created" then views.insert id (created event)
  else if type = "session.updated" then
    match views.lookup id with
    | none => views
    | some v => views.insert id (updated event v)
  else if type = "session.closed" then views.erase id
  else views

/-- **A client's map after a stream of events.** -/
def fold (events : List QJsonObject) : Table String SessionView := events.foldl apply ∅

/-- The view of a session itself. -/
def of (s : Session) : SessionView :=
  { source := .string (Session.sourceToString s.source)
    context := staticContext s.contextToJson
    prompt := s.prompt
    echo := s.echo
    error := s.error
    info := s.info
    curRetry := s.contextToJson.value "curRetry"
    maxRetries := s.contextToJson.value "maxRetries" }

/-! ## What the two events show -/

theorem created_toCreatedEvent (s : Session) :
    created s.toCreatedEvent = { of s with prompt := "", echo := false, error := "", info := "" } := by
  simp [created, of, Session.toCreatedEvent, QJsonValue.toObject]

theorem created_of_fresh {s : Session} (h : s.Fresh) : created s.toCreatedEvent = of s := by
  rw [created_toCreatedEvent, of, h.prompt, h.echo, h.error, h.info]

/-- A touch leaves the static context. -/
theorem staticContext_of_touch {s s' : Session} (h : s.Touch s') :
    staticContext s'.contextToJson = staticContext s.contextToJson := by
  obtain ⟨cur, max, hc⟩ := h.context
  have hr : s'.requestorToJson = s.requestorToJson := by simp [Session.requestorToJson, hc]
  -- the counters are written first, so that the two removals take back both
  cases hs : s.source with
  | polkit => simp [Session.contextToJson, h.source, hs, hc, hr]
  | keyring => simp [Session.contextToJson, h.source, hs, hc, hr]
  | pinentry =>
      simp [Session.contextToJson, h.source, hs, hc, hr, staticContext,
        QJsonObject.remove_set_of_ne, QJsonObject.remove_set_self]

theorem curRetry_contextToJson (s : Session) :
    s.contextToJson.value "curRetry" =
      if s.source = .pinentry then .int s.context.curRetry else .undefined := by
  cases hs : s.source <;> simp [Session.contextToJson, hs]

theorem maxRetries_contextToJson (s : Session) :
    s.contextToJson.value "maxRetries" =
      if s.source = .pinentry then .int s.context.maxRetries else .undefined := by
  cases hs : s.source <;> simp [Session.contextToJson, hs]

/-- **An updated event shows all that a touch can change.** -/
theorem updated_of_touch {s s' : Session} {v : SessionView} (h : s.Touch s')
    (hsource : v.source = (of s).source) (hcontext : v.context = (of s).context)
    (hcur : v.curRetry = (of s).curRetry) (hmax : v.maxRetries = (of s).maxRetries) :
    updated s'.toUpdatedEvent v = of s' := by
  have hst := staticContext_of_touch h
  simp only [of] at hsource hcontext hcur hmax
  simp only [updated, of, hst, hsource, hcontext, hcur, hmax, h.source,
    curRetry_contextToJson, maxRetries_contextToJson]
  simp only [Session.toUpdatedEvent, h.source]
  by_cases hs : s.source = .pinentry
  · by_cases he : s'.error = "" <;> by_cases hi : s'.info = "" <;>
      simp [hs, he, hi]
  · by_cases he : s'.error = "" <;> by_cases hi : s'.info = "" <;>
      simp [hs, he, hi]

/-! ## The replica is a journal's reader -/

theorem apply_sessionEvent (views : Table String SessionView) (e : Entry Session) :
    apply views (sessionEvent e) =
      Journal.apply Session.id (fun s => created s.toCreatedEvent)
        (fun s => updated s.toUpdatedEvent) views e := by
  cases e with
  | opened s => simp [apply, sessionEvent, Journal.apply]
  | touched s =>
      have hid : (s.toUpdatedEvent.value "id").toString = s.id := by simp
      have htype : (s.toUpdatedEvent.value "type").toString = "session.updated" := by simp
      change apply views s.toUpdatedEvent = _
      rw [apply, hid, htype, if_neg (by decide), if_pos rfl, Journal.apply]
      cases hv : views.lookup s.id <;> rfl
  | closed s => simp [apply, sessionEvent, Journal.apply]

theorem fold_sessionEvent (js : List (Entry Session)) :
    fold (js.map sessionEvent) =
      replay Session.id (fun s => created s.toCreatedEvent)
        (fun s => updated s.toUpdatedEvent) js := by
  rw [fold, replay, List.foldl_map]
  congr 1
  funext views e
  exact apply_sessionEvent views e

end SessionView

namespace Daemon

variable (W : World) (ins : List Input)

/-- The events of a subscription are a snapshot of the store. -/
theorem replayEvents_eq (entries : List (String × Session)) :
    replayEvents entries = (snapshot (entries.map Prod.snd)).map sessionEvent := by
  simp [replayEvents, snapshot, List.map_flatMap, List.flatMap_map, sessionEvent]

/-- **Replay equals the live view.** All events since the start fold into
the same map as those a subscription sends for the open sessions, in
whatever order it walks them. -/
theorem fold_events_eq_fold_replayEvents (n : ℕ) (id : String) :
    (SessionView.fold ((machine W).run ins).agent.events).lookup id =
      (SessionView.fold (replayEvents
        (W.walk n ((machine W).run ins).agent.sessionStore.sessions.pairs))).lookup id := by
  obtain ⟨js, hjs, hr⟩ := recorded_run W ins
  set sessions := ((machine W).run ins).agent.sessionStore.sessions
  rw [hjs, replayEvents_eq, SessionView.fold_sessionEvent, SessionView.fold_sessionEvent]
  have hopen : ∀ s : Session, s.Fresh → SessionView.created s.toCreatedEvent = .of s :=
    fun s => SessionView.created_of_fresh
  have htouch : ∀ s s' : Session, s.Touch s' →
      SessionView.updated s'.toUpdatedEvent (.of s) = .of s' :=
    fun s s' h => SessionView.updated_of_touch h rfl rfl rfl rfl
  have hview : ∀ s : Session,
      SessionView.updated s.toUpdatedEvent (SessionView.created s.toCreatedEvent) = .of s := by
    intro s
    rw [SessionView.created_toCreatedEvent]
    exact SessionView.updated_of_touch (.of_context rfl rfl rfl) rfl rfl rfl rfl
  rw [hr.lookup_replay hopen htouch,
    lookup_replay_snapshot hview (fun k s hs => hr.key_eq hs) _ fun s => ?_]
  · rw [List.mem_map]
    constructor
    · rintro ⟨⟨k, s'⟩, hm, rfl⟩
      have hs := Table.mem_pairs.1 (W.mem_walk.1 hm)
      rwa [hr.key_eq hs]
    · exact fun hs => ⟨(s.id, s), W.mem_walk.2 (Table.mem_pairs.2 hs), rfl⟩

end Daemon

end BbAuth
