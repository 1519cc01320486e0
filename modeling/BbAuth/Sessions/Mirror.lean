import BbAuth.Sessions.Earshot
import BbAuth.Sessions.Replay
/-!
# A provider's picture of the sessions

A client that folds every message it is written into a map of its own, and
that is the audience of the session events, holds the views of the open
sessions and nothing else, in every state between two handlers. Its first
subscription settles the map, every event that is emitted reaches it once,
and a later subscription repeats what it holds.
-/

namespace BbAuth

open Agent ProviderRegistry

namespace SessionView

variable {views : Table String SessionView}

/-- What is no session event is passed over. -/
theorem apply_of_unrouted {j : QJsonObject} (h : Unrouted j) : apply views j = views := by
  have hne : ∀ t : String, "session.".toList.isPrefixOf t.toList = true →
      (j.value "type").toString ≠ t := by
    intro t ht heq
    rw [Unrouted, isSessionEventForProviderRouting, heq, ht] at h
    cases h
  simp only [apply, if_neg (hne "session.created" (by decide)),
    if_neg (hne "session.updated" (by decide)), if_neg (hne "session.closed" (by decide))]

/-- So a map is made by the session events alone. -/
theorem foldl_apply_filter (ms : List QJsonObject) (views : Table String SessionView) :
    (ms.filter isSessionEventForProviderRouting).foldl apply views = ms.foldl apply views := by
  induction ms generalizing views with
  | nil => rfl
  | cons j ms ih =>
      cases hj : isSessionEventForProviderRouting j with
      | true => simp [hj, ih]
      | false => simp [hj, ih, apply_of_unrouted (show Unrouted j from hj)]

/-- **The map mirrors the store**: it holds the views of the open
sessions, and nothing else. -/
def Mirrors (views : Table String SessionView) (a : Agent) : Prop :=
  ∀ id, views.lookup id = (a.getSession id).map of

variable {a b : Agent}

theorem Mirrors.of_store (h : Mirrors views a) (hs : b.sessionStore = a.sessionStore) :
    Mirrors views b := fun id => by rw [h id, getSession, getSession, hs]

/-- An event opens, shows or closes the session it is about. -/
theorem apply_toCreatedEvent (s : Session) :
    apply views s.toCreatedEvent = views.insert s.id (created s.toCreatedEvent) := by
  simp [apply]

theorem apply_toUpdatedEvent (s : Session) {v : SessionView} (h : views.lookup s.id = some v) :
    apply views s.toUpdatedEvent = views.insert s.id (updated s.toUpdatedEvent v) := by
  have hid : (s.toUpdatedEvent.value "id").toString = s.id := by simp
  have htype : (s.toUpdatedEvent.value "type").toString = "session.updated" := by simp
  rw [apply, hid, htype, if_neg (by decide), if_pos rfl, h]

theorem apply_toClosedEvent (s : Session) (r : Session.Result) :
    apply views (s.close r).toClosedEvent = views.erase s.id := by
  simp [apply, Session.close]

/-- **A move keeps the mirror**, once its event is read. -/
theorem Mirrors.move (h : Move a b) : ∃ es, b.events = a.events ++ es ∧
    ∀ views, Mirrors views a → Mirrors (es.foldl apply views) b := by
  cases h with
  | silent hs =>
      exact ⟨[], by simp [hs.events], fun views hv => hv.of_store hs.sessionStore⟩
  | clients t hb => exact ⟨[], by simp [hb, Agent.events], fun views hv => hb ▸ hv.of_store rfl⟩
  | opened id source ctx hn he =>
      refine ⟨_, he.events, fun views hv k => ?_⟩
      have hfresh : (newSession id source ctx).Fresh := ⟨rfl, rfl, rfl, rfl⟩
      rw [List.foldl_cons, List.foldl_nil, apply_toCreatedEvent, created_of_fresh hfresh,
        getSession, SessionStore.getSession, he.sessions, Table.lookup_insert, Table.lookup_insert]
      change (if k = id then _ else _) = _
      split
      · rfl
      · exact hv k
  | touched id s s' hs ht he =>
      refine ⟨_, he.events, fun views hv k => ?_⟩
      obtain rfl : s'.id = id := ht.id.trans (a.sessionStore.keyed id s hs)
      have hheld : views.lookup s'.id = some (of s) := by rw [hv, hs]; rfl
      rw [List.foldl_cons, List.foldl_nil, apply_toUpdatedEvent s' hheld,
        updated_of_touch ht rfl rfl rfl rfl, getSession, SessionStore.getSession, he.sessions,
        Table.lookup_insert, Table.lookup_insert]
      split
      · rfl
      · exact hv k
  | closed id s r hs he =>
      refine ⟨_, he.events, fun views hv k => ?_⟩
      obtain rfl : s.id = id := a.sessionStore.keyed id s hs
      rw [List.foldl_cons, List.foldl_nil, apply_toClosedEvent, getSession,
        SessionStore.getSession, he.sessions, Table.lookup_erase, Table.lookup_erase]
      split
      · rfl
      · exact hv k

theorem Mirrors.moves (h : Moves a b) : ∃ es, b.events = a.events ++ es ∧
    ∀ views, Mirrors views a → Mirrors (es.foldl apply views) b := by
  induction h with
  | refl => exact ⟨[], by simp, fun views hv => hv⟩
  | tail _ hmove ih =>
      obtain ⟨es, he, hm⟩ := ih
      obtain ⟨es', he', hm'⟩ := Mirrors.move hmove
      refine ⟨es ++ es', by rw [he', he, List.append_assoc], fun views hv => ?_⟩
      rw [List.foldl_append]
      exact hm' _ (hm views hv)

/-- **A replay settles what it names**: where nothing is held that is not
open, the replay of the open sessions makes a mirror. -/
theorem mirrors_replay (views : Table String SessionView)
    (hviews : ∀ id, a.getSession id = none → views.lookup id = none)
    {entries : List (String × Session)}
    (hentries : ∀ id s, (id, s) ∈ entries ↔ a.getSession id = some s) :
    Mirrors ((Daemon.replayEvents entries).foldl apply views) a := by
  have hone : ∀ (t : Table String SessionView) (s : Session) k,
      ([s.toCreatedEvent, s.toUpdatedEvent].foldl apply t).lookup k =
        if k = s.id then some (of s) else t.lookup k := by
    intro t s k
    have hheld : (t.insert s.id (created s.toCreatedEvent)).lookup s.id =
        some (created s.toCreatedEvent) := by simp
    have htouch : updated s.toUpdatedEvent (created s.toCreatedEvent) = of s := by
      rw [created_toCreatedEvent]
      exact updated_of_touch (.of_context rfl rfl rfl) rfl rfl rfl rfl
    rw [List.foldl_cons, List.foldl_cons, List.foldl_nil, apply_toCreatedEvent,
      apply_toUpdatedEvent s hheld, htouch, Table.lookup_insert, Table.lookup_insert]
    split <;> rfl
  -- the part replayed so far settles the ids it names, and no others
  have hread : ∀ es : List (String × Session), (∀ e ∈ es, e ∈ entries) → ∀ k,
      ((Daemon.replayEvents es).foldl apply views).lookup k =
        if k ∈ es.map Prod.fst then (a.getSession k).map of else views.lookup k := by
    intro es
    induction es using List.reverseRecOn with
    | nil => simp [Daemon.replayEvents]
    | append_singleton es e ih =>
        intro hes k
        obtain ⟨id, s⟩ := e
        have hs : a.getSession id = some s := (hentries id s).1 (hes _ (by simp))
        obtain rfl : s.id = id := a.sessionStore.keyed id s hs
        have hsplit : Daemon.replayEvents (es ++ [(s.id, s)]) =
            Daemon.replayEvents es ++ [s.toCreatedEvent, s.toUpdatedEvent] := by
          simp [Daemon.replayEvents]
        rw [hsplit, List.foldl_append, hone, ih (fun e he => hes e (List.mem_append_left _ he))]
        by_cases hk : k = s.id
        · subst hk
          rw [if_pos rfl, if_pos (by simp), hs]
          rfl
        · have hiff : k ∈ (es ++ [(s.id, s)]).map Prod.fst ↔ k ∈ es.map Prod.fst := by
            simp [hk]
          simp only [if_neg hk, hiff]
  intro k
  rw [hread entries (fun e he => he)]
  split
  · rfl
  next hn =>
    cases hs : a.getSession k with
    | none => exact hviews k hs
    | some s => exact absurd (List.mem_map.2 ⟨(k, s), (hentries k s).2 hs, rfl⟩) hn

end SessionView

namespace Daemon

open SessionView

variable {W : World} {d : Daemon} {i : Input} {s : Socket} {msg : QJsonObject}
  {views : Table String SessionView}

/-- **The socket is the audience** of the session events: either nobody
else is registered, or it outranks whoever is. -/
structure Attends (s : Socket) (sole : Bool) (a : Agent) : Prop where
  connected : a.isConnected s = true
  alone : sole = true → ∀ t ∈ a.providerRegistry.uiProviders, t = s
  outranks : sole = false → a.providerRegistry.Outranks s

/-- **A step only adds to the trace.** -/
theorem exists_log_step (W : World) (d : Daemon) (i : Input) :
    ∃ os, (d.step W i).agent.log = d.agent.log ++ os := by
  have hall : Obeys (.ofDone (fun _ => True) (fun _ _ => trivial) fun _ _ _ => trivial) d.agent
      (d.step W i).agent :=
    Acts.obeys (acts_step W d i) ⟨fun _ => trivial, fun _ => trivial⟩ (fun _ => trivial)
      (fun _ _ => trivial) (fun _ _ _ _ => trivial) fun _ _ => trivial
  obtain ⟨-, os, hl, -⟩ := hall (kept_ofDone _)
  exact ⟨os, hl⟩

/-- So what was heard is read off any later trace. -/
theorem tells_step (W : World) (d : Daemon) (i : Input) (s : Socket) :
    Tells s d.agent (d.step W i).agent (heard s d.agent (d.step W i).agent) := by
  obtain ⟨os, hl⟩ := exists_log_step W d i
  exact ⟨os, hl, by rw [Agent.heard, hl, List.drop_left]⟩

theorem holds_run (W : World) (ins : List Input) {sole : Bool}
    (ha : Attends s sole ((machine W).run ins).agent)
    (hw : s ∉ ((machine W).run ins).agent.eventQueue.nextWaiters) :
    Holds s ((machine W).run ins).agent :=
  ⟨ha.connected, hw, (wired_run W ins).plugged.nodup, elected_run W ins, crowned_run W ins⟩

/-- **A subscription makes the mirror**, whatever was held of the open
sessions. -/
theorem mirrors_subscribe {sole : Bool} (he : d.agent.providerRegistry.Elected)
    (hcr : d.agent.providerRegistry.Crowned) (ha : Attends s sole d.agent)
    (hm : d.message? i = some (.subscribe, s, msg))
    (hviews : ∀ id, d.agent.getSession id = none → views.lookup id = none) :
    Mirrors ((heard s d.agent (d.step W i).agent).foldl apply views) (d.step W i).agent := by
  have hcan : canReceiveInteractiveEvents d.agent s = true := by
    rw [canReceiveInteractiveEvents_iff]
    by_cases hm : s ∈ d.agent.providerRegistry.uiProviders
    · refine .inr ?_
      cases hs : sole with
      | false => exact hcr.active he (ha.outranks hs)
      | true =>
          cases hact : d.agent.providerRegistry.activeProvider with
          | none =>
              rw [he.elected hact] at hm
              exact absurd hm (AList.notMem_empty s)
          | some t => rw [ha.alone hs t (Table.mem_iff_exists.2 (he.registered t hact))]
    · exact .inl hm
  rw [step_of_message hm]
  have hheard := heard_handleSubscribe (W := W) ha.connected
  rw [if_pos hcan] at hheard
  have hstore := (silent_handleSubscribe W d s).sessionStore
  rw [dispatch, hheard, List.foldl_append, List.foldl_cons, List.foldl_nil,
    apply_of_unrouted isSessionEvent_subscribedReply]
  refine Mirrors.of_store (mirrors_replay views hviews fun id session => ?_) hstore
  rw [World.mem_walk, Table.mem_pairs]
  rfl

/-- **Every other step keeps it.** -/
theorem mirrors_step (hd : Holds s d.agent) (hc : (d.step W i).agent.isConnected s = true)
    (hr : Remains s d.agent (d.step W i).agent)
    (hsub : ∀ msg, d.message? i ≠ some (.subscribe, s, msg))
    (hnext : ∀ msg, d.message? i ≠ some (.next, s, msg)) (h : Mirrors views d.agent) :
    Mirrors ((heard s d.agent (d.step W i).agent).foldl apply views) (d.step W i).agent := by
  obtain ⟨os, hl, ho⟩ := (attuned_step hd hc hsub hnext).pushed hd hr
  obtain ⟨es, he, hkeep⟩ := Mirrors.moves (moves_step W d i)
  have hheard : heard s d.agent (d.step W i).agent = os.filterMap (Output.to? s) := by
    rw [Agent.heard, hl, List.drop_left]
  -- what is emitted is what is heard
  have hes : os.filterMap Output.event? = es := by
    have hevents : (d.step W i).agent.events = d.agent.events ++ os.filterMap Output.event? := by
      simp [Agent.events, hl]
    exact List.append_cancel_left (hevents.symm.trans he)
  rw [hheard, ← foldl_apply_filter, ho, hes]
  exact hkeep views h

/-- The socket waits no more after a step than before. -/
theorem waits_step (hd : Holds s d.agent) (hc : (d.step W i).agent.isConnected s = true)
    (hnext : ∀ msg, d.message? i ≠ some (.next, s, msg)) :
    s ∉ (d.step W i).agent.eventQueue.nextWaiters := by
  by_cases hsub : ∃ msg, d.message? i = some (.subscribe, s, msg)
  · obtain ⟨msg, hm⟩ := hsub
    rw [step_of_message hm]
    have hq : (d.handleSubscribe W s).agent.eventQueue = d.agent.eventQueue := by
      have hsub : (d.agent.subscribe s).eventQueue = d.agent.eventQueue := by rw [subscribe_eq]
      rw [handleSubscribe_agent, sendJson_eventQueue]
      unfold replayed
      dsimp only
      split
      · rw [sendAll_eq]
        exact hsub
      · exact hsub
    rw [dispatch, hq]
    exact hd.waits
  · exact fun hs => hd.waits ((attuned_step hd hc (fun msg hm => hsub ⟨msg, hm⟩) hnext).waits hs)

/-- **A subscriber stays one** while it is connected. -/
theorem subscribed_step (he : d.Elected) (hs : s ∈ d.agent.subscribers)
    (hc : (d.step W i).agent.isConnected s = true) : s ∈ (d.step W i).agent.subscribers := by
  unfold step at hc ⊢
  split
  · exact hs
  next hu =>
  simp only [if_neg hu] at hc
  cases deal_handle (W := W) he i with
  | talks h => exact h.framed.subscribers ▸ hs
  | edited a hedit h _ =>
      have hf := h.framed
      rw [isConnected_of_clients hf.clients] at hc
      rw [hf.subscribers]
      cases hedit with
      | connected | closing | heartbeat | unregistered => exact hs
      | disconnected socket hi =>
          have hne : s ≠ socket := by
            rintro rfl
            simp [leave, Agent.isConnected] at hc
          exact (List.mem_erase_of_ne hne).2 hs
  | refused socket msg hi hu h => rwa [h, sendJson_subscribers]
  | subscribed socket msg hi hv h =>
      rw [h, handleSubscribe_agent, sendJson_subscribers, (still_replayed _ _).subscribers]
      exact (mem_subscribe _ _ _).2 (.inr hs)
  | registered socket msg hi ht hv h =>
      rw [h, (framed_handleUIRegister (W := W) d socket msg).1.subscribers]
      exact hs

theorem subscribed_of_message (hm : d.message? i = some (.subscribe, s, msg)) :
    s ∈ (d.step W i).agent.subscribers := by
  rw [step_of_message hm, dispatch, handleSubscribe_agent, sendJson_subscribers,
    (still_replayed _ _).subscribers]
  exact (mem_subscribe _ _ _).2 (.inl rfl)

/-! ## A run -/

/-- **A provider's picture is the store.** A client that does not wait for
an event subscribes. While it then stays connected and asks for no next
event, and all the time nobody else is registered, or all the time it
outranks whoever is, the messages it was written fold into the views of the
open sessions, and into nothing else. -/
theorem mirrors_run (W : World) (pre rest : List Input) (i : Input) (s : Socket)
    (msg : QJsonObject) (sole : Bool)
    (hm : ((machine W).run pre).message? i = some (.subscribe, s, msg))
    (hw : s ∉ ((machine W).run pre).agent.eventQueue.nextWaiters)
    (hattends : ∀ mid, mid <+: i :: rest → Attends s sole ((machine W).run (pre ++ mid)).agent)
    (hnext : ∀ mid j, mid ++ [j] <+: i :: rest →
      ∀ m, ((machine W).run (pre ++ mid)).message? j ≠ some (.next, s, m)) (id : String) :
    (fold (heard s ((machine W).run pre).agent
        ((machine W).run (pre ++ i :: rest)).agent)).lookup id =
      (((machine W).run (pre ++ i :: rest)).agent.getSession id).map SessionView.of := by
  -- what is heard so far makes a mirror, and the socket subscribes and does not wait
  suffices h : ∃ ms, Tells s ((machine W).run pre).agent
      ((machine W).run (pre ++ i :: rest)).agent ms ∧
      Mirrors (fold ms) ((machine W).run (pre ++ i :: rest)).agent ∧
      s ∈ ((machine W).run (pre ++ i :: rest)).agent.subscribers ∧
      s ∉ ((machine W).run (pre ++ i :: rest)).agent.eventQueue.nextWaiters by
    obtain ⟨ms, ht, hmir, -, -⟩ := h
    rw [ht.heard]
    exact hmir id
  have hstep : ∀ mid j, (machine W).run (pre ++ (mid ++ [j])) =
      ((machine W).run (pre ++ mid)).step W j := by
    intro mid j
    rw [← List.append_assoc, Machine.run_snoc]
    rfl
  induction rest using List.reverseRecOn with
  | nil =>
      have h₀ := hattends [] (List.nil_prefix)
      have h₁ := hattends [i] List.prefix_rfl
      rw [List.append_nil] at h₀
      have hrun := hstep [] i
      rw [List.append_nil, List.nil_append] at hrun
      rw [hrun] at h₁ ⊢
      have hn : ∀ m, ((machine W).run pre).message? i ≠ some (.next, s, m) := by
        intro m hm'
        rw [hm] at hm'
        cases hm'
      exact ⟨_, tells_step W _ i s,
        mirrors_subscribe (elected_run W pre) (crowned_run W pre) h₀ hm fun _ _ => rfl,
        subscribed_of_message hm, waits_step (holds_run W pre h₀ hw) h₁.connected hn⟩
  | append_singleton rest j ih =>
      have hpre : i :: rest <+: i :: (rest ++ [j]) := by simp
      obtain ⟨ms, ht, hmir, hsub, hwait⟩ := ih (fun mid h => hattends mid (h.trans hpre))
        fun mid k h => hnext mid k (h.trans hpre)
      have h₀ := hattends (i :: rest) hpre
      have h₁ := hattends (i :: rest ++ [j]) (by simp)
      have hn := hnext (i :: rest) j (by simp)
      have hrun := hstep (i :: rest) j
      have hheld := holds_run W _ h₀ hwait
      change ∃ ms, Tells s _ ((machine W).run (pre ++ (i :: rest ++ [j]))).agent ms ∧ _ ∧ _ ∧ _
      have helected : ((machine W).run (pre ++ i :: rest)).Elected := elected_run W _
      have hcrowned := crowned_run W (pre ++ i :: rest)
      rw [List.cons_append] at hrun h₁
      rw [hrun] at h₁
      rw [List.cons_append, hrun]
      generalize (machine W).run (pre ++ i :: rest) = d at *
      refine ⟨ms ++ heard s d.agent (d.step W j).agent, ht.trans (tells_step W d j s), ?_,
        subscribed_step helected hsub h₁.connected, waits_step hheld h₁.connected hn⟩
      rw [fold, List.foldl_append]
      by_cases hagain : ∃ m, d.message? j = some (.subscribe, s, m)
      · -- a later subscription finds nothing held that is not open
        obtain ⟨m, hm'⟩ := hagain
        refine mirrors_subscribe helected hcrowned h₀ hm' fun k hk => ?_
        have hheld : (ms.foldl apply ∅).lookup k = (d.agent.getSession k).map SessionView.of :=
          hmir k
        rw [hheld, hk]
        rfl
      · refine mirrors_step hheld h₁.connected ?_ (fun m hm' => hagain ⟨m, hm'⟩) hn hmir
        cases sole with
        | true => exact .inl ⟨h₀.alone rfl, hsub⟩
        | false =>
            obtain ⟨p, hp, -⟩ := h₁.outranks rfl
            exact .inr ⟨h₀.outranks rfl, Table.mem_iff_exists.2 ⟨p, hp⟩⟩

/-- A keyring request that a subscriber is pushed, and then registers
for. -/
def watched : List Input :=
  [.newConnection 2 200, .line 2 (some [("type", "keyring_request"), ("cookie", "c")]),
    .line 1 (some [("type", "ui.register")])]

/-- **A subscriber that registers** holds the session that was opened. -/
theorem mirrors_run_watched :
    let W := World.plain (fun _ => 0) false
    let pre : List Input := [.newConnection 1 100]
    let i : Input := .line 1 (some [("type", "subscribe")])
    let a := ((machine W).run (pre ++ i :: watched)).agent
    (fold (heard 1 ((machine W).run pre).agent a)).lookup "c" =
        (a.getSession "c").map SessionView.of ∧ (a.getSession "c").isSome = true := by
  refine ⟨mirrors_run _ _ _ _ 1 [("type", "subscribe")] true (by decide) (by decide) ?_ ?_ "c",
    by decide⟩
  · intro mid hmid
    have hconn : ∀ n < 5, ((machine (World.plain (fun _ => 0) false)).run
        ([.newConnection 1 100] ++ (.line 1 (some [("type", "subscribe")]) :: watched).take
          n)).agent.isConnected 1 = true := by decide
    have hkeys : ∀ n < 5, ∀ t ∈ ((machine (World.plain (fun _ => 0) false)).run
        ([.newConnection 1 100] ++ (.line 1 (some [("type", "subscribe")]) :: watched).take
          n)).agent.providerRegistry.uiProviders.keys, t = 1 := by decide
    have hlen : mid.length < 5 := Nat.lt_succ_of_le hmid.length_le
    rw [List.prefix_iff_eq_take.1 hmid]
    exact ⟨hconn _ hlen, fun _ t ht => hkeys _ hlen t (AList.mem_keys.1 ht), nofun⟩
  · intro mid j hmid m hm
    have hj : j ∈ Input.line 1 (some [("type", "subscribe")]) :: watched :=
      hmid.subset (by simp)
    obtain ⟨rfl, -, -, ht⟩ := message?_cases hm
    simp only [watched, List.mem_cons, List.not_mem_nil, or_false, Input.line.injEq,
      Option.some.injEq, reduceCtorEq, false_or] at hj
    rcases hj with ⟨-, rfl⟩ | ⟨h, -⟩ | ⟨-, rfl⟩
    · exact absurd ht (by decide)
    · cases h
    · exact absurd ht (by decide)

end Daemon

end BbAuth
