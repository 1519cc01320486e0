import BbAuth.Flow.Turn
import BbAuth.Provider.Agreement
/-!
# Who sees the sessions

Two pieces of code decide who may see session data. `EventRouter::route`
pushes a session event to the active provider, or to the subscribers where
there is none: the agent's `audience`. `handleSubscribe` replays the open
sessions to any socket that is not registered, and to the active provider.
The two agree but for one kind of socket: one that is not registered, while
somebody else is the active provider.
-/

namespace BbAuth

namespace Agent

variable {a b : Agent} {s : Socket} {e : QJsonObject}

theorem not_hasActiveProvider_iff (ha : a.providerRegistry.Elected) :
    a.hasActiveProvider = false ↔ a.providerRegistry.activeProvider = none := by
  rw [← Bool.not_eq_true, Option.eq_none_iff_forall_ne_some]
  exact (not_congr ha.hasActiveProvider_iff).trans not_exists

/-- **Who is pushed a session event**: the active provider where there is
one, the subscribers where there is none; of these, the connected. -/
def audience (a : Agent) : List Socket :=
  (if a.hasActiveProvider then a.providerRegistry.activeProvider.toList else a.subscribers).filter
    a.isConnected

theorem isConnected_of_not_isValid (h : a.isValid s = false) : a.isConnected s = false := by
  have hn : a.clients.lookup s = none := by
    simpa [isValid, AList.lookup_eq_none] using h
  simp [isConnected, hn]

/-- **A session event is pushed to the audience**, and to nobody else. -/
theorem push_log (a : Agent) (he : isSessionEventForProviderRouting e = true) :
    (a.push e).log = a.log ++ a.audience.map (Output.sent · e) := by
  unfold push audience
  cases ha : a.hasActiveProvider with
  | false =>
      have ha' : a.providerRegistry.hasActiveProvider = false := ha
      simp only [ha', he, Bool.and_false, Bool.false_eq_true, if_false]
      exact sendEach_log a a.subscribers e
  | true =>
      have ha' : a.providerRegistry.hasActiveProvider = true := ha
      simp only [ha', he, Bool.and_true, if_true]
      cases hp : a.providerRegistry.activeProvider with
      | none => simp
      | some t =>
          cases hv : a.isValid t with
          | false => simp [hv, isConnected_of_not_isValid hv]
          | true => cases hc : a.isConnected t <;> simp [sendJson, hc, hv]

/-- What it says does not matter, nor what has been said before. -/
theorem audience_congr (hc : b.clients = a.clients)
    (hr : b.providerRegistry = a.providerRegistry) (hs : b.subscribers = a.subscribers) :
    b.audience = a.audience := by
  have hconn : b.isConnected = a.isConnected := funext (isConnected_of_clients hc)
  unfold audience hasActiveProvider
  rw [hr, hs, hconn]

theorem mem_audience (ha : a.providerRegistry.Elected) :
    s ∈ a.audience ↔ a.isConnected s = true ∧
      (a.providerRegistry.activeProvider = some s ∨
        a.providerRegistry.activeProvider = none ∧ s ∈ a.subscribers) := by
  unfold audience
  cases h : a.hasActiveProvider with
  | true =>
      obtain ⟨t, ht⟩ := ha.hasActiveProvider_iff.1 h
      simp [ht, and_comm, eq_comm (a := s)]
  | false => simp [(not_hasActiveProvider_iff ha).1 h, and_comm]

/-- **The socket would be pushed any session event** emitted now. -/
def Hears (s : Socket) (a : Agent) : Prop :=
  ∀ e, isSessionEventForProviderRouting e = true → e ∈ heard s a (a.push e)

theorem hears_iff : Hears s a ↔ s ∈ a.audience := by
  have hpush : ∀ e, isSessionEventForProviderRouting e = true →
      (e ∈ heard s a (a.push e) ↔ s ∈ a.audience) := by
    intro e he
    rw [heard, push_log a he, List.drop_left, List.mem_filterMap]
    constructor
    · rintro ⟨o, ho, hto⟩
      obtain ⟨t, ht, rfl⟩ := List.mem_map.1 ho
      simp only [Output.to?, Option.ite_none_right_eq_some] at hto
      exact hto.1 ▸ ht
    · exact fun h => ⟨.sent s e, List.mem_map.2 ⟨s, h, rfl⟩, by simp [Output.to?]⟩
  constructor
  · intro h
    have he : isSessionEventForProviderRouting [("type", "session.created")] = true := by decide
    exact (hpush _ he).1 (h _ he)
  · exact fun h e he => (hpush e he).2 h

/-- The events of a session are session events. -/
theorem isSessionEvent_created (session : Session) :
    isSessionEventForProviderRouting session.toCreatedEvent = true := by
  rw [isSessionEventForProviderRouting, Session.value_type_created]
  decide

/-- Each message is written to the socket, if it is connected. -/
theorem tells_sendAll (hc : a.isConnected s = true) (l : List QJsonObject) :
    Tells s a (a.sendAll s l) l := by
  induction l generalizing a with
  | nil => exact tells_of_log rfl
  | cons j l ih =>
      have hc' : (a.sendJson s j).isConnected s = true :=
        (isConnected_of_clients (sendJson_clients a s j) s).trans hc
      exact (tells_sendJson hc).trans (ih hc')

/-- And a socket that is not is told nothing. -/
theorem sendJson_of_not_isConnected (hc : a.isConnected s = false) (j : QJsonObject) :
    a.sendJson s j = a := by
  simp [sendJson, hc]

theorem sendAll_of_not_isConnected (hc : a.isConnected s = false) (l : List QJsonObject) :
    a.sendAll s l = a := by
  induction l with
  | nil => rfl
  | cons j l ih =>
      change (a.sendJson s j).sendAll s l = a
      rw [sendJson_of_not_isConnected hc, ih]

end Agent

open Agent

namespace Daemon

variable {W : World} {d : Daemon} {i : Input} {socket : Socket} {msg : QJsonObject}

/-! ## The replay -/

/-- May this socket be shown the open sessions? -/
def canReceiveInteractiveEvents (a : Agent) (socket : Socket) : Bool :=
  !a.providerRegistry.contains socket ||
    (a.providerRegistry.contains socket && a.providerRegistry.activeProvider = some socket)

theorem subscribe_frame (a : Agent) (socket : Socket) :
    (a.subscribe socket).clients = a.clients ∧
      (a.subscribe socket).providerRegistry = a.providerRegistry ∧
      (a.subscribe socket).sessionStore = a.sessionStore ∧
      (a.subscribe socket).tick = a.tick ∧ (a.subscribe socket).log = a.log := by
  rw [subscribe_eq]
  exact ⟨rfl, rfl, rfl, rfl, rfl⟩

theorem clients_replayed (a : Agent) (socket : Socket) :
    (replayed W a socket).clients = a.clients :=
  (still_replayed a socket).clients.trans (subscribe_frame a socket).1

theorem canReceiveInteractiveEvents_iff (a : Agent) (socket : Socket) :
    canReceiveInteractiveEvents a socket = true ↔
      socket ∉ a.providerRegistry.uiProviders ∨ a.providerRegistry.activeProvider = some socket := by
  unfold canReceiveInteractiveEvents
  by_cases hm : socket ∈ a.providerRegistry.uiProviders
  · simp [ProviderRegistry.contains, Table.contains_eq_true.2 hm, hm]
  · simp [ProviderRegistry.contains, Table.contains_eq_false.2 hm, hm]

/-- Where nobody is active nobody is registered. -/
theorem notMem_of_not_hasActiveProvider {a : Agent} (he : a.providerRegistry.Elected)
    (ha : a.hasActiveProvider = false) : socket ∉ a.providerRegistry.uiProviders := by
  rw [he.elected ((not_hasActiveProvider_iff he).1 ha)]
  exact AList.notMem_empty socket

/-- **What a connected subscriber is told**: the sessions where it may see
them, and the reply. -/
theorem heard_handleSubscribe (hc : d.agent.isConnected socket = true) :
    heard socket d.agent (d.handleSubscribe W socket).agent =
      (if canReceiveInteractiveEvents d.agent socket then
        replayEvents (W.walk d.agent.tick d.agent.sessionStore.sessions.pairs) else []) ++
      [subscribedReply W d.agent socket] := by
  obtain ⟨hcl, hreg, hst, htick, hlog⟩ := subscribe_frame d.agent socket
  have hconn : (d.agent.subscribe socket).ticked.isConnected socket = true :=
    (isConnected_of_clients hcl socket).trans hc
  have hstart : Tells socket d.agent (d.agent.subscribe socket).ticked [] := tells_of_log hlog
  have hreplay : Tells socket d.agent (replayed W d.agent socket)
      (if canReceiveInteractiveEvents d.agent socket then
        replayEvents (W.walk d.agent.tick d.agent.sessionStore.sessions.pairs) else []) := by
    unfold replayed canReceiveInteractiveEvents
    dsimp only
    rw [hreg, hst, htick]
    split
    · exact hstart.trans (tells_sendAll hconn _)
    · exact hstart
  have hconn' : (replayed W d.agent socket).isConnected socket = true :=
    (isConnected_of_clients (clients_replayed d.agent socket) socket).trans hc
  rw [handleSubscribe_agent]
  exact (hreplay.trans (tells_sendJson hconn')).heard

theorem heard_handleSubscribe_of_not_isConnected (hc : d.agent.isConnected socket = false) :
    heard socket d.agent (d.handleSubscribe W socket).agent = [] := by
  obtain ⟨hcl, -, -, -, hlog⟩ := subscribe_frame d.agent socket
  have hconn : (d.agent.subscribe socket).ticked.isConnected socket = false :=
    (isConnected_of_clients hcl socket).trans hc
  have hreplayed : (replayed W d.agent socket).log = d.agent.log := by
    unfold replayed
    dsimp only
    split
    · rw [sendAll_of_not_isConnected hconn]
      exact hlog
    · exact hlog
  have hconn' : (replayed W d.agent socket).isConnected socket = false :=
    (isConnected_of_clients (clients_replayed d.agent socket) socket).trans hc
  rw [handleSubscribe_agent, sendJson_of_not_isConnected hconn']
  exact Tells.heard (tells_of_log hreplayed)

/-- Both events of every open session are replayed, and session events
only. -/
theorem mem_replayEvents {e : QJsonObject} :
    e ∈ replayEvents (W.walk d.agent.tick d.agent.sessionStore.sessions.pairs) ↔
      ∃ id session, d.agent.getSession id = some session ∧
        (e = session.toCreatedEvent ∨ e = session.toUpdatedEvent) := by
  simp only [replayEvents, List.mem_flatMap, World.mem_walk, Prod.exists, Table.mem_pairs,
    List.mem_cons, List.not_mem_nil, or_false]
  rfl

/-- **The replay is what the routing allows**: a socket that would be
pushed a session event is sent both events of every open session, and any
other socket is sent no session event. -/
def ReplaysAsRouted (W : World) (d : Daemon) (i : Input) (socket : Socket) : Prop :=
  let told := heard socket d.agent (d.step W i).agent
  (Hears socket (d.step W i).agent → ∀ id session, d.agent.getSession id = some session →
    session.toCreatedEvent ∈ told ∧ session.toUpdatedEvent ∈ told) ∧
  (¬ Hears socket (d.step W i).agent → ∀ e ∈ told, isSessionEventForProviderRouting e = false)

/-- **A stranger to the registry looks in**: a socket that is connected and
not registered subscribes while there are an active provider and an open
session. -/
def LooksIn (d : Daemon) (socket : Socket) : Prop :=
  d.agent.isConnected socket = true ∧ d.agent.hasActiveProvider = true ∧
    socket ∉ d.agent.providerRegistry.uiProviders ∧
    ∃ id session, d.agent.getSession id = some session

/-- The reply to a subscription is no session event. -/
theorem isSessionEvent_subscribedReply :
    isSessionEventForProviderRouting (subscribedReply W d.agent socket) = false := by
  have ht : (subscribedReply W d.agent socket).value "type" = "subscribed" := by
    simp [subscribedReply]
  rw [isSessionEventForProviderRouting, ht]
  decide

/-- After the subscription the socket hears sessions as the active
provider, or since there is none. -/
theorem hears_handleSubscribe (he : d.agent.providerRegistry.Elected) :
    Hears socket (d.handleSubscribe W socket).agent ↔
      d.agent.isConnected socket = true ∧
        (d.agent.providerRegistry.activeProvider = some socket ∨
          d.agent.hasActiveProvider = false) := by
  have hr : (d.handleSubscribe W socket).agent.providerRegistry = d.agent.providerRegistry :=
    handleSubscribe_providerRegistry socket
  have hst := still_replayed (W := W) d.agent socket
  have hsub : socket ∈ (d.handleSubscribe W socket).agent.subscribers := by
    rw [handleSubscribe_agent, sendJson_subscribers, hst.subscribers]
    exact (mem_subscribe _ _ _).2 (.inl rfl)
  have hcl : (d.handleSubscribe W socket).agent.clients = d.agent.clients := by
    rw [handleSubscribe_agent, sendJson_clients, clients_replayed]
  rw [hears_iff, mem_audience (hr ▸ he), isConnected_of_clients hcl, hr,
    not_hasActiveProvider_iff he]
  simp [hsub]

variable (W)

/-- **The replay obeys the routing exactly when no stranger looks in.** -/
theorem replaysAsRouted_iff (ins : List Input) (i : Input) (socket : Socket) (msg : QJsonObject)
    (hm : ((machine W).run ins).message? i = some (.subscribe, socket, msg)) :
    ReplaysAsRouted W ((machine W).run ins) i socket ↔ ¬ LooksIn ((machine W).run ins) socket := by
  have he : ((machine W).run ins).agent.providerRegistry.Elected := elected_run W ins
  generalize (machine W).run ins = d at hm he ⊢
  have hstep : d.step W i = d.handleSubscribe W socket := step_of_message hm
  rw [ReplaysAsRouted, LooksIn, hstep, hears_handleSubscribe he]
  have hin : d.agent.providerRegistry.activeProvider = some socket →
      socket ∈ d.agent.providerRegistry.uiProviders :=
    fun h => Table.mem_iff_exists.2 (he.registered socket h)
  cases hc : d.agent.isConnected socket with
  | false => simp [heard_handleSubscribe_of_not_isConnected hc]
  | true =>
    rw [heard_handleSubscribe hc]
    by_cases hears : d.agent.providerRegistry.activeProvider = some socket ∨
        d.agent.hasActiveProvider = false
    · -- the routing would serve the socket, and the replay does
      have hcan : canReceiveInteractiveEvents d.agent socket = true := by
        rw [canReceiveInteractiveEvents_iff]
        rcases hears with ha | ha
        · exact .inr ha
        · exact .inl (notMem_of_not_hasActiveProvider he ha)
      rw [if_pos hcan]
      refine iff_of_true ⟨fun _ id session hs => ?_, fun hn => absurd ⟨rfl, hears⟩ hn⟩ ?_
      · exact ⟨List.mem_append_left _ (mem_replayEvents.2 ⟨id, session, hs, .inl rfl⟩),
          List.mem_append_left _ (mem_replayEvents.2 ⟨id, session, hs, .inr rfl⟩)⟩
      · rintro ⟨-, hact, hnot, -⟩
        rcases hears with ha | ha
        · exact hnot (hin ha)
        · rw [hact] at ha
          cases ha
    · rw [not_or] at hears
      have hreply : isSessionEventForProviderRouting (subscribedReply W d.agent socket) = false :=
        isSessionEvent_subscribedReply
      by_cases hm : socket ∈ d.agent.providerRegistry.uiProviders
      · -- registered and not active: nothing is replayed
        have hcan : ¬ canReceiveInteractiveEvents d.agent socket = true := by
          rw [canReceiveInteractiveEvents_iff]
          exact fun h => h.elim (fun hn => hn hm) hears.1
        rw [if_neg hcan]
        exact iff_of_true ⟨fun h => (hears.2 (h.2.resolve_left hears.1)).elim, fun _ e he' => by
          rw [List.mem_singleton.1 he']; exact hreply⟩ fun h => h.2.2.1 hm
      -- a stranger is replayed what somebody else is active for
      · have hcan : canReceiveInteractiveEvents d.agent socket = true :=
          (canReceiveInteractiveEvents_iff _ _).2 (.inl hm)
        have hact : d.agent.hasActiveProvider = true := by simpa using hears.2
        rw [if_pos hcan]
        constructor
        · -- what is replayed to a stranger is a session event
          rintro ⟨-, hnone⟩ ⟨-, -, -, id, session, hs⟩
          have hcreated := hnone (fun h => (hears.2 (h.2.resolve_left hears.1)).elim)
            session.toCreatedEvent
            (List.mem_append_left _ (mem_replayEvents.2 ⟨id, session, hs, .inl rfl⟩))
          rw [isSessionEvent_created] at hcreated
          cases hcreated
        · intro hl
          refine ⟨fun h => (hears.2 (h.2.resolve_left hears.1)).elim, fun _ e he' => ?_⟩
          rcases List.mem_append.1 he' with hr | hr
          · obtain ⟨id, session, hs, -⟩ := mem_replayEvents.1 hr
            exact absurd ⟨rfl, hact, hm, id, session, hs⟩ hl
          · rw [List.mem_singleton.1 hr]
            exact hreply

/-- A provider is active and a session is open: the provider subscribes, and
is sent the session that it would be pushed. -/
theorem replaysAsRouted_provider :
    let W := World.plain (fun _ => 0) false
    ReplaysAsRouted W ((machine W).run [.newConnection 1 100,
        .line 1 (some [("type", "ui.register")]), .newConnection 2 200,
        .line 2 (some [("type", "keyring_request"), ("cookie", "c")])])
      (.line 1 (some [("type", "subscribe")])) 1 := by
  intro W
  refine (replaysAsRouted_iff W [.newConnection 1 100, .line 1 (some [("type", "ui.register")]),
    .newConnection 2 200, .line 2 (some [("type", "keyring_request"), ("cookie", "c")])]
    (.line 1 (some [("type", "subscribe")])) 1 [("type", "subscribe")] (by decide)).2 ?_
  rintro ⟨-, -, hnot, -⟩
  revert hnot
  decide

/-- A provider is active and a session is open; a third client subscribes,
and is sent the session that the routing keeps from it. -/
theorem not_replaysAsRouted_stranger :
    ¬ ∀ (W : World) (ins : List Input) (i : Input) (socket : Socket) (msg : QJsonObject),
      ((machine W).run ins).message? i = some (.subscribe, socket, msg) →
        ReplaysAsRouted W ((machine W).run ins) i socket := by
  intro h
  let W := World.plain (fun _ => 0) false
  let ins : List Input :=
    [.newConnection 1 100, .line 1 (some [("type", "ui.register")]), .newConnection 2 200,
      .line 2 (some [("type", "keyring_request"), ("cookie", "c")]), .newConnection 3 300]
  let i : Input := .line 3 (some [("type", "subscribe")])
  have hreplays := (h W ins i 3 [("type", "subscribe")] (by decide)).2
  have hnot : 3 ∉ ((machine W).run (ins ++ [i])).agent.audience := by decide
  rw [Machine.run_snoc] at hnot
  have hsome : ∃ e ∈ heard 3 ((machine W).run ins).agent ((machine W).run (ins ++ [i])).agent,
      isSessionEventForProviderRouting e = true := by decide
  obtain ⟨e, he, hsession⟩ := hsome
  rw [Machine.run_snoc] at he
  have := hreplays (fun hh => hnot (hears_iff.1 hh)) e he
  rw [hsession] at this
  cases this

end Daemon

end BbAuth
