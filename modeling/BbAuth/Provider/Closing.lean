import BbAuth.Flow.Disconnect
import BbAuth.Provider.Audience
/-!
# Who hears that a session is closed

A session is closed by one of two services. `onSessionComplete` emits the
event and elects afterwards. `closeSession` elects first, where the session
is the last one open, and so may push the event to somebody else than the
provider that showed the session. Who is pushed it is read off the trace:
the sockets it is written to, but for the `next` waiters it is handed to
out of the queue.
-/

namespace BbAuth

open ProviderRegistry

namespace Agent

variable (W : World) {a b c : Agent} {id : String} {e : QJsonObject}

/-- **The agent in a reachable state, between handlers or within one**:
every handler calls the services one after the other, some after a client
has been forgotten. -/
inductive Visited : Agent → Prop
  | between (ins : List Input) : Visited ((Daemon.machine W).run ins).agent
  | forgotten (ins : List Input) (s : Socket) :
      Visited (((Daemon.machine W).run ins).forget W s)
  | call {a b : Agent} (h : Visited a) (hc : Call W Set.univ a b) : Visited b

/-- The two services that close a session. -/
inductive Closing where
  | close (r : Session.Result)
  | complete (success : Bool)

/-- The result they close it with. -/
def Closing.result : Closing → Session.Result
  | .close r => r
  | .complete success => if success then .success else .cancelled

/-- What the service leaves. -/
def closedBy (a : Agent) (id : String) : Closing → Agent
  | .close r => (a.closeSession W id r).2
  | .complete success => a.onSessionComplete W id success

variable {W} {how : Closing}

theorem Visited.elected (h : Visited W a) : a.providerRegistry.Elected := by
  induction h with
  | between ins => exact Daemon.elected_run W ins
  | forgotten ins s =>
      have he := Daemon.elected_run W ins
      generalize (Daemon.machine W).run ins = d at he ⊢
      exact Daemon.elected_forgetClient (a := d.agent.setClients (d.agent.clients.erase s)) he s
  | call h hc ih => exact (hc.talks W).elected ih

/-! ## The election -/

variable (W) in
/-- The providers an election held now would not prune. -/
def survivors (a : Agent) : List (Socket × UIProvider) :=
  ProviderRegistry.survivors (W.currentMSecs a.tick) a.isConnected
    (W.walk a.tick a.providerRegistry.uiProviders.pairs)

variable (W) in
/-- **An election would leave the audience as it is**: there is no active
provider; or it survives and leads the survivors; or nobody survives, and
the subscribers are the audience already. -/
def AudienceStays (a : Agent) : Prop :=
  a.providerRegistry.activeProvider = none ∨
    (∃ t p, a.providerRegistry.activeProvider = some t ∧ Leads Preferred (t, p) (a.survivors W)) ∨
    a.survivors W = [] ∧ ∀ s, s ∈ a.audience ↔ s ∈ a.subscribers ∧ a.isConnected s = true

/-- The audience once an election has been held. -/
theorem mem_audience_recomputeAndEmit (s : Socket) : s ∈ (a.recomputeAndEmit W).audience ↔
    a.isConnected s = true ∧
      ((a.recomputeActiveProvider W).2.providerRegistry.activeProvider = some s ∨
        (a.recomputeActiveProvider W).2.providerRegistry.activeProvider = none ∧
          s ∈ a.subscribers) := by
  have hf := framed_recomputeAndEmit W a
  rw [mem_audience (elected_recomputeAndEmit W a), isConnected_of_clients hf.clients,
    recomputeAndEmit_providerRegistry, hf.subscribers]

/-- **The audience outlasts the election exactly under that condition.** -/
theorem audience_recomputeAndEmit_iff (ha : a.providerRegistry.Elected) :
    (∀ s, s ∈ (a.recomputeAndEmit W).audience ↔ s ∈ a.audience) ↔ AudienceStays W a := by
  have helects : ∀ t, (a.recomputeActiveProvider W).2.providerRegistry.activeProvider = some t ↔
      ∃ p, Leads Preferred (t, p) (a.survivors W) := fun t => elects_iff
  have hnone : (a.recomputeActiveProvider W).2.providerRegistry.activeProvider = none ↔
      a.survivors W = [] := elects_none_iff
  simp only [mem_audience_recomputeAndEmit, AudienceStays]
  constructor
  · intro h
    cases hold : a.providerRegistry.activeProvider with
    | none => exact .inl rfl
    | some t =>
        cases hnew : (a.recomputeActiveProvider W).2.providerRegistry.activeProvider with
        | none =>
            refine .inr (.inr ⟨hnone.1 hnew, fun s => ?_⟩)
            rw [← h s]
            simp [hnew, and_comm]
        | some u =>
            obtain ⟨p, hlead⟩ := (helects u).1 hnew
            -- the elected survives, so it is connected, and hears the event
            have hu : a.isConnected u = true := by
              have hm := (List.mem_filter.1 hlead.mem).2
              simp only [isPruned, Bool.not_eq_true', Bool.or_eq_false_iff] at hm
              simpa using hm.1
            have haud := (mem_audience ha).1 ((h u).1 ⟨hu, .inl hnew⟩)
            rw [hold] at haud
            have htu : t = u := by simpa using haud.2
            exact .inr (.inl ⟨t, p, rfl, htu ▸ hlead⟩)
  · rintro (hold | ⟨t, p, hold, hlead⟩ | ⟨hs, hall⟩) s
    · have htable := ha.elected hold
      have hs : a.survivors W = [] := by
        rw [survivors, ProviderRegistry.survivors, List.filter_eq_nil_iff]
        rintro ⟨u, p⟩ hm
        rw [World.mem_walk, Table.mem_pairs, htable] at hm
        simp at hm
      rw [mem_audience ha, hnone.2 hs, hold]
    · rw [mem_audience ha, (helects t).2 ⟨p, hlead⟩, hold]
    · rw [hall s, hnone.2 hs]
      simp [and_comm]

/-! ## The closings -/

variable (W) in
/-- **The close disturbs no audience**: the event comes before any
election, or there is another session open, or the election would leave
the audience as it is. -/
def Undisturbed (a : Agent) (id : String) : Closing → Prop
  | .complete _ => True
  | .close _ => (∃ id' s, id' ≠ id ∧ a.getSession id' = some s) ∨ AudienceStays W a

/-- The store is empty once its last session is closed. -/
theorem empty_of_closeSession {store : SessionStore} {r : Session.Result}
    (h : a.sessionStore.closeSession id r = some (e, store)) :
    store.empty = true ↔ ¬ ∃ id' s, id' ≠ id ∧ a.getSession id' = some s := by
  unfold SessionStore.closeSession at h
  split at h
  · cases h
  next session hs =>
    cases h
    have hempty : (a.sessionStore.drop id).empty = true ↔
        ∀ id' s, (id', s) ∉ Table.pairs (AList.erase id a.sessionStore.sessions) := by
      rw [SessionStore.empty, List.isEmpty_iff, List.eq_nil_iff_forall_not_mem, Prod.forall]
      rfl
    rw [hempty]
    simp only [Table.mem_pairs, Table.lookup_erase, not_exists, not_and]
    refine forall_congr' fun id' => forall_congr' fun s => ?_
    by_cases hid : id' = id
    · simp [hid]
    · simp [hid, getSession, SessionStore.getSession]

/-! ## Who is written to -/

/-- The socket an output writes the message to. -/
def receiver? (e : QJsonObject) : Output → Option Socket
  | .sent s json => if json = e then some s else none
  | _ => none

/-- The sockets the message is written to between `a` and `b`, in order. -/
def receivers (e : QJsonObject) (a b : Agent) : List Socket :=
  (b.log.drop a.log.length).filterMap (receiver? e)

/-- The `next` waiters an event is handed to out of the queue, once it is
queued. -/
def handed (e : QJsonObject) (a : Agent) : List Socket :=
  ((a.eventQueue.enqueue e).drainToWaiters.1.filter fun d => d.2 = e ∧ a.isConnected d.1).map
    Prod.fst

/-- **Between `a` and `b` the event is pushed to these sockets**: they are
written to, and then the waiters the queue of `a` hands it to. -/
def PushedTo (e : QJsonObject) (a b : Agent) (pushed : List Socket) : Prop :=
  receivers e a b = pushed ++ a.handed e

theorem PushedTo.unique {pushed pushed' : List Socket} (h : PushedTo e a b pushed)
    (h' : PushedTo e a b pushed') : pushed = pushed' := by
  rw [PushedTo] at h h'
  exact List.append_cancel_right (h.symm.trans h')

/-- From `a` to `b` the message is written to these sockets. -/
def Writes (e : QJsonObject) (a b : Agent) (sockets : List Socket) : Prop :=
  ∃ os, b.log = a.log ++ os ∧ os.filterMap (receiver? e) = sockets

theorem Writes.receivers {sockets : List Socket} (h : Writes e a b sockets) :
    receivers e a b = sockets := by
  obtain ⟨os, hl, ho⟩ := h
  rw [Agent.receivers, hl, List.drop_left, ho]

theorem Writes.trans {sockets sockets' : List Socket} (h : Writes e a b sockets)
    (h' : Writes e b c sockets') : Writes e a c (sockets ++ sockets') := by
  obtain ⟨os, hl, rfl⟩ := h
  obtain ⟨os', hl', rfl⟩ := h'
  exact ⟨os ++ os', by rw [hl', hl, List.append_assoc], List.filterMap_append⟩

theorem writes_of_log (h : b.log = a.log) : Writes e a b [] := ⟨[], by simp [h], rfl⟩

/-- The push writes to the audience. -/
theorem writes_push (a : Agent) (he : isSessionEventForProviderRouting e = true) :
    Writes e a (a.push e) a.audience := by
  refine ⟨_, push_log a he, ?_⟩
  rw [List.filterMap_map]
  have hto : receiver? e ∘ (Output.sent · e) = some := funext fun s => by simp [receiver?]
  rw [hto, List.filterMap_some]

/-- The deliveries of the queue write to those who are connected. -/
theorem writes_deliveries (deliveries : List (Socket × QJsonObject)) (a : Agent) :
    Writes e a (deliveries.foldl (fun a d => a.sendJson d.1 d.2) a)
      ((deliveries.filter fun d => d.2 = e ∧ a.isConnected d.1).map Prod.fst) := by
  refine ⟨_, foldl_sendJson_log deliveries a, ?_⟩
  induction deliveries with
  | nil => rfl
  | cons d deliveries ih =>
      rw [List.filter_cons, List.filter_cons]
      by_cases hd : d.2 = e <;> cases a.isConnected d.1 <;> simpa [receiver?, hd] using ih

/-- **An event that is emitted is pushed to the audience.** -/
theorem writes_emitSessionEvent (a : Agent) (he : isSessionEventForProviderRouting e = true) :
    Writes e a (a.emitSessionEvent e) (a.audience ++ a.handed e) := by
  have htrace : Writes e a (a.trace (.emitted e)) [] := ⟨[.emitted e], rfl, by simp [receiver?]⟩
  have hpush := writes_push (a.trace (.emitted e)) he
  rw [show (a.trace (.emitted e)).audience = a.audience from audience_congr rfl rfl rfl] at hpush
  have hqueue : ((a.trace (.emitted e)).push e).eventQueue = a.eventQueue := push_eventQueue _ e
  have hset : Writes e ((a.trace (.emitted e)).push e)
      (((a.trace (.emitted e)).push e).setQueue (a.eventQueue.enqueue e).drainToWaiters.2) [] :=
    writes_of_log rfl
  have hdeliver := writes_deliveries (e := e) (a.eventQueue.enqueue e).drainToWaiters.1
    (((a.trace (.emitted e)).push e).setQueue (a.eventQueue.enqueue e).drainToWaiters.2)
  have hconn : (((a.trace (.emitted e)).push e).setQueue
      (a.eventQueue.enqueue e).drainToWaiters.2).isConnected = a.isConnected :=
    funext fun t => isConnected_of_clients (quiet_push (a.trace (.emitted e)) e).clients t
  rw [hconn] at hdeliver
  simp only [emitSessionEvent, route, hqueue]
  exact htrace.trans (hpush.trans (hset.trans hdeliver))

/-- An election writes of who is active, and of nothing else. -/
theorem writes_recomputeAndEmit (a : Agent) (he : Inert e) :
    Writes e a (a.recomputeAndEmit W) [] := by
  have hr : Writes e a (a.recomputeActiveProvider W).2 [] := writes_of_log rfl
  have hstatus : ∀ b : Agent, Writes e b (b.emitProviderStatus W) [] := by
    refine fun b => ⟨_, emitProviderStatus_log W b, ?_⟩
    rw [List.filterMap_eq_nil_iff]
    intro o ho
    rw [← List.map_append, List.mem_map] at ho
    obtain ⟨s, -, rfl⟩ := ho
    have hne : b.providerStatus ≠ e := by
      rintro rfl
      exact he.2.2.1 (by rw [value_type_providerStatus]; rfl)
    simp [receiver?, hne]
  simp only [recomputeAndEmit]
  split
  · exact hr.trans (hstatus _)
  · exact hr

theorem isSessionEvent_closed (session : Session) :
    isSessionEventForProviderRouting session.toClosedEvent = true := by
  rw [isSessionEventForProviderRouting, Session.value_type_closed]
  decide

/-! ## Who is pushed the closed event -/

variable (W) in
/-- The agent in which `closeSession` emits: the session is gone, and an
election has been held if it was the last. -/
def elected (a : Agent) (id : String) : Agent :=
  if (a.sessionStore.drop id).empty then (a.setStore (a.sessionStore.drop id)).recomputeAndEmit W
  else a.setStore (a.sessionStore.drop id)

theorem closeSession_of_open {s : Session} (hs : a.getSession id = some s) (r : Session.Result) :
    a.sessionStore.closeSession id r =
      some ((s.close r).toClosedEvent, a.sessionStore.drop id) := by
  rw [SessionStore.closeSession, show a.sessionStore.sessions.lookup id = some s from hs]

/-- **`closeSession` pushes to the audience it finds once it has elected.** -/
theorem pushedTo_close {s : Session} (hs : a.getSession id = some s) (r : Session.Result) :
    PushedTo (s.close r).toClosedEvent a (a.closedBy W id (.close r)) (a.elected W id).audience := by
  set e := (s.close r).toClosedEvent with he
  have hclosed : a.closedBy W id (.close r) = (a.elected W id).emitSessionEvent e := by
    simp only [closedBy, closeSession, closeSession_of_open hs, Bool.not_false, if_true]
    rfl
  have hemit := writes_emitSessionEvent (a.elected W id) (isSessionEvent_closed (s.close r))
  have hset : Writes e a (a.setStore (a.sessionStore.drop id)) [] := writes_of_log rfl
  have helected : Writes e a (a.elected W id) [] ∧ (a.elected W id).eventQueue = a.eventQueue ∧
      (a.elected W id).clients = a.clients := by
    simp only [elected]
    split
    · exact ⟨hset.trans (writes_recomputeAndEmit _ (inert_closed _)),
        recomputeAndEmit_eventQueue W _, (framed_recomputeAndEmit W _).clients⟩
    · exact ⟨hset, rfl, rfl⟩
  have hhanded : (a.elected W id).handed e = a.handed e := by
    have hconn : (a.elected W id).isConnected = a.isConnected :=
      funext (isConnected_of_clients helected.2.2)
    rw [handed, handed, helected.2.1, hconn]
  rw [PushedTo, hclosed, (helected.1.trans hemit).receivers, List.nil_append, hhanded]

/-- **`onSessionComplete` pushes to the audience there is.** -/
theorem pushedTo_complete {s : Session} (hs : a.getSession id = some s) (success : Bool) :
    PushedTo (s.close (Closing.complete success).result).toClosedEvent a
      (a.closedBy W id (.complete success)) a.audience := by
  set e := (s.close (Closing.complete success).result).toClosedEvent with he
  have hcl : a.sessionStore.closeSession id (if success then .success else .cancelled) =
      some (e, a.sessionStore.drop id) := closeSession_of_open hs _
  have hset : Writes e a (a.setStore (a.sessionStore.drop id)) [] := writes_of_log rfl
  have hemit := hset.trans (writes_emitSessionEvent (a.setStore (a.sessionStore.drop id))
    (isSessionEvent_closed (s.close (Closing.complete success).result)))
  have haudience : (a.setStore (a.sessionStore.drop id)).audience = a.audience :=
    audience_congr rfl rfl rfl
  have hhanded : (a.setStore (a.sessionStore.drop id)).handed e = a.handed e := rfl
  rw [haudience, hhanded, List.nil_append] at hemit
  have hwrites : Writes e a (a.closedBy W id (.complete success)) (a.audience ++ a.handed e) := by
    simp only [closedBy, onSessionComplete, hcl]
    split
    · have helect := hemit.trans (writes_recomputeAndEmit (W := W) _ (inert_closed _))
      rwa [List.append_nil] at helect
    · exact hemit
  exact hwrites.receivers

/-- **The election of `closeSession` leaves the audience as it is exactly
where the close does not disturb it.** -/
theorem audience_elected_iff (ha : a.providerRegistry.Elected) {s : Session}
    (hs : a.getSession id = some s) (r : Session.Result) :
    (∀ t, t ∈ (a.elected W id).audience ↔ t ∈ a.audience) ↔ Undisturbed W a id (.close r) := by
  have hempty := empty_of_closeSession (closeSession_of_open hs r)
  have hset : (a.setStore (a.sessionStore.drop id)).audience = a.audience :=
    audience_congr rfl rfl rfl
  simp only [elected]
  by_cases he : (a.sessionStore.drop id).empty = true
  · rw [if_pos he, ← hset]
    have hstays : AudienceStays W (a.setStore (a.sessionStore.drop id)) ↔ AudienceStays W a := by
      simp only [AudienceStays, hset]
      rfl
    rw [audience_recomputeAndEmit_iff (a := a.setStore (a.sessionStore.drop id)) ha, hstays]
    exact (or_iff_right (hempty.1 he)).symm
  · rw [if_neg he, hset]
    exact iff_of_true (fun _ => Iff.rfl) (.inl (by_contra fun hn => he (hempty.2 hn)))

/-- **The closed event is pushed to those who would have been pushed a
session event just before, exactly where the close does not disturb the
audience.** -/
theorem pushedTo_iff (ha : a.providerRegistry.Elected) {s : Session}
    (hs : a.getSession id = some s) (how : Closing) :
    ∃ pushed, PushedTo (s.close how.result).toClosedEvent a (a.closedBy W id how) pushed ∧
      ((∀ t, t ∈ pushed ↔ Hears t a) ↔ Undisturbed W a id how) := by
  simp only [hears_iff]
  cases how with
  | close r => exact ⟨_, pushedTo_close hs r, audience_elected_iff ha hs r⟩
  | complete success =>
      exact ⟨_, pushedTo_complete hs success, iff_of_true (fun _ => Iff.rfl) trivial⟩

/-! ## Every close is one of the two -/

/-- A call that ends a session closes it. -/
theorem Call.closes {S : Set Output} (h : Call W S a b) {s : Session}
    (hs : a.getSession id = some s)
    (hb : b.getSession id = none) : ∃ how, b = a.closedBy W id how := by
  have hsrc : (a.life id).source ≠ none := fun hn => by
    rw [(getSession_eq_none a id).2 hn] at hs
    cases hs
  have hstay : ∀ b : Agent, (b.life id).source = (a.life id).source → b.getSession id ≠ none :=
    fun b hl hn => hsrc (hl ▸ (getSession_eq_none b id).1 hn)
  cases h with
  | ticked => exact absurd hb (hstay _ rfl)
  | trace o ho => exact absurd hb (hstay _ rfl)
  | collision socket hs' => exact absurd hb (hstay _ (by rw [life_writeJson]))
  | create id' source ctx =>
      refine absurd hb (hstay _ ?_)
      rw [life_createSession]
      split
      · simp [Life.opened, hsrc]
      · rfl
  | update id' f hf => exact absurd hb (hstay _ (by rw [life_emitUpdate a id' id hf]))
  | retryPrompt id' s' h cur max prompt echo clearError =>
      exact absurd hb (hstay _ (by simp))
  | close id' r =>
      by_cases hid : id = id'
      · subst hid
        exact ⟨.close r, rfl⟩
      · exact absurd hb (hstay _ (by rw [life_closeSession, if_neg hid]))
  | complete id' success =>
      by_cases hid : id = id'
      · subst hid
        exact ⟨.complete success, rfl⟩
      · exact absurd hb (hstay _ (by rw [life_onSessionComplete, if_neg hid]))

/-- And so does a chain of calls that ends one. -/
theorem Calls.closes {S : Set Output} (h : Calls W S a b) {s : Session}
    (hs : a.getSession id = some s)
    (hb : b.getSession id = none) :
    ∃ a' s' how, Calls W S a a' ∧ a'.getSession id = some s' ∧
      Calls W S (a'.closedBy W id how) b := by
  induction h with
  | refl =>
      rw [hs] at hb
      cases hb
  | @tail c b hac hcall ih =>
      cases hc : c.getSession id with
      | none =>
          obtain ⟨a', s', how, h₁, h₂, h₃⟩ := ih hc
          exact ⟨a', s', how, h₁, h₂, h₃.tail hcall⟩
      | some s' =>
          obtain ⟨how, rfl⟩ := hcall.closes hc hb
          exact ⟨c, s', how, hac, hc, .refl⟩

theorem Visited.calls (h : Visited W a) (hc : Calls W Set.univ a b) : Visited W b := by
  induction hc with
  | refl => exact h
  | tail _ hcall ih => exact .call ih hcall

end Agent

open Agent

namespace Daemon

variable (W : World)

/-- **A step is a chain of calls**, from the agent before it or once a
client has been forgotten, as far as sessions go; what it writes besides,
it writes before and after. -/
theorem calls_step (d : Daemon) (i : Input) :
    ∃ a b, (a = d.agent ∨ ∃ s, a = d.forget W s) ∧ Calls W Set.univ a b ∧
      (a.sessionStore = d.agent.sessionStore ∧ d.agent.log <+: a.log) ∧
      (d.step W i).agent.sessionStore = b.sessionStore ∧ b.log <+: (d.step W i).agent.log := by
  have hthere : ∀ {S : Set Output} b, Calls W S d.agent b →
      (d.step W i).agent.sessionStore = b.sessionStore ∧ b.log <+: (d.step W i).agent.log →
      ∃ a b, (a = d.agent ∨ ∃ s, a = d.forget W s) ∧ Calls W Set.univ a b ∧
        (a.sessionStore = d.agent.sessionStore ∧ d.agent.log <+: a.log) ∧
        (d.step W i).agent.sessionStore = b.sessionStore ∧ b.log <+: (d.step W i).agent.log :=
    fun b hb hs => ⟨d.agent, b, .inl rfl, Calls.anyone hb, ⟨rfl, List.prefix_rfl⟩, hs⟩
  have hsame : ∀ {d'}, Same d' (d.step W i) →
      (d.step W i).agent.sessionStore = d'.agent.sessionStore ∧
        d'.agent.log <+: (d.step W i).agent.log :=
    fun h => ⟨h.agent.sessionStore, h.agent.log⟩
  cases turn_step W d i with
  | same h => exact hthere (S := ∅) _ .refl (hsame h)
  | connected socket peerPid hi hn h =>
      exact hthere (S := ∅) _ .refl (by rw [h]; exact ⟨rfl, List.prefix_rfl⟩)
  | closing socket client hi hc h =>
      exact hthere (S := ∅) _ .refl (by rw [h]; exact ⟨rfl, List.prefix_rfl⟩)
  | keyringRequest socket msg hm h =>
      exact hthere _ (KeyringManager.calls_handleRequest W d.agent d.keyringManager msg socket _)
        (by rw [h]; exact ⟨rfl, List.prefix_rfl⟩)
  | keyringAnswer socket msg hm r hr h =>
      exact hthere _ (KeyringManager.calls_handleResponse W d.agent d.keyringManager _ _)
        (hsame h)
  | keyringCancel socket msg hm r hr h =>
      exact hthere _ (KeyringManager.calls_handleCancel W d.agent d.keyringManager _)
        (hsame h)
  | pinentryRequest socket msg hm h =>
      exact hthere _ (PinentryManager.calls_handleRequest W d.agent d.pinentryManager msg socket _)
        (by rw [h]; exact ⟨rfl, List.prefix_rfl⟩)
  | pinentryAnswer socket msg hm ha hk r hr h =>
      exact hthere (S := ∅) d.agent .refl ⟨h.agent.sessionStore, h.agent.log⟩
  | pinentryResult socket msg hm h =>
      exact hthere _ (PinentryManager.calls_handleResult W d.agent d.pinentryManager msg _)
        (hsame h)
  | pinentryCancel socket msg hm h =>
      exact hthere _ (PinentryManager.calls_closeFlow W d.agent d.pinentryManager _ _ _)
        (hsame h)
  | pinentryTimeout timer hi h =>
      exact hthere _ (PinentryManager.calls_onTimeout W d.agent d.pinentryManager timer)
        (by rw [h]; exact ⟨rfl, List.prefix_rfl⟩)
  | disconnected socket hi h =>
      have hk := KeyringManager.calls_cleanupForSocket W (d.forget W socket) d.keyringManager socket
      have hp := PinentryManager.calls_cleanupForSocket W
        (d.keyringManager.cleanupForSocket W (d.forget W socket) socket).2 d.pinentryManager socket
      have hf := silent_forgetClient W (d.agent.setClients (d.agent.clients.erase socket)) socket
      exact ⟨d.forget W socket, _, .inr ⟨socket, rfl⟩, Calls.anyone (hk.trans hp),
        ⟨hf.sessionStore, hf.log⟩, hsame h⟩
  | listener call hn hs h =>
      exact hthere _ (PolkitListener.calls_call d.listener d.agent hn) (hsame h)

/-- **The closed event is pushed to those who would have been pushed a
session event just before the close, exactly where the close does not
disturb the audience; and every session that ends within a step, ends by
such a close.** -/
theorem closed_reaches_audience_iff :
    (∀ a id s how, Visited W a → a.getSession id = some s →
      ∃ pushed, PushedTo (s.close how.result).toClosedEvent a (a.closedBy W id how) pushed ∧
        ((∀ t, t ∈ pushed ↔ Hears t a) ↔ Undisturbed W a id how)) ∧
    ∀ ins i id s, ((machine W).run ins).agent.getSession id = some s →
      ((machine W).run (ins ++ [i])).agent.getSession id = none →
      ∃ a s' how, Visited W a ∧ a.getSession id = some s' ∧
        ((machine W).run ins).agent.log <+: a.log ∧
        (a.closedBy W id how).log <+: ((machine W).run (ins ++ [i])).agent.log := by
  refine ⟨fun a id s how ha hs => pushedTo_iff ha.elected hs how, fun ins i id s hs hn => ?_⟩
  rw [Machine.run_snoc] at hn ⊢
  obtain ⟨a, b, ha, hcalls, ⟨hsa, hla⟩, hsb, hlb⟩ := calls_step W ((machine W).run ins) i
  have hv : Visited W a := by
    rcases ha with rfl | ⟨t, rfl⟩
    · exact .between ins
    · exact .forgotten ins t
  have hs' : a.getSession id = some s := by rw [getSession, hsa]; exact hs
  have hn' : b.getSession id = none := by rw [getSession, ← hsb]; exact hn
  obtain ⟨a', s', how, h₁, h₂, h₃⟩ := Calls.closes hcalls hs' hn'
  exact ⟨a', s', how, hv.calls h₁, h₂, hla.trans (Calls.extends W h₁).log,
    (Calls.extends W h₃).log.trans hlb⟩

/-- A provider shows a keyring session and then sends no heartbeat for
twenty seconds. Its answer closes the session, the election prunes it, and
the closed event goes to a subscriber that never saw the session. -/
theorem closed_misses_audience :
    ¬ ∀ (W : World) a id s how, Visited W a → a.getSession id = some s →
      ∃ pushed, PushedTo (s.close how.result).toClosedEvent a (a.closedBy W id how) pushed ∧
        ∀ t, t ∈ pushed ↔ Hears t a := by
  intro h
  let W := World.plain (fun n => if n < 5 then 0 else 20000) false
  let ins : List Input :=
    [.newConnection 1 100, .line 1 (some [("type", "ui.register")]), .newConnection 2 200,
      .line 2 (some [("type", "subscribe")]),
      .line 2 (some [("type", "keyring_request"), ("cookie", "c")])]
  have hkeys : ((machine W).run ins).agent.sessionStore.sessions.keys = ["c"] := by decide
  have hactive : ((machine W).run ins).agent.providerRegistry.activeProvider = some 1 := by decide
  have hsurvivors : ((machine W).run ins).agent.survivors W = [] := by decide
  have haudience : 1 ∈ ((machine W).run ins).agent.audience := by decide
  have hsubscribers : 1 ∉ ((machine W).run ins).agent.subscribers := by decide
  have hv : Visited W ((machine W).run ins).agent := .between ins
  have hopen : (((machine W).run ins).agent.getSession "c").isSome = true := by decide
  generalize ((machine W).run ins).agent = a at *
  obtain ⟨s, hs⟩ := Option.isSome_iff_exists.1 hopen
  obtain ⟨pushed, hpushed, hall⟩ := h W a "c" s (.close .success) hv hs
  obtain ⟨pushed', hpushed', hiff⟩ := pushedTo_iff (W := W) hv.elected hs (.close .success)
  rw [hpushed'.unique hpushed] at hiff
  rcases hiff.1 hall with ⟨id', s', hne, hs'⟩ | hnone | ⟨t, p, -, hlead⟩ | ⟨-, hsubs⟩
  · have hmem : id' ∈ a.sessionStore.sessions.keys :=
      AList.mem_keys.1 (Table.mem_iff_exists.2 ⟨s', hs'⟩)
    rw [hkeys, List.mem_singleton] at hmem
    exact hne hmem
  · rw [hactive] at hnone
    cases hnone
  · have hmem := hlead.mem
    rw [hsurvivors] at hmem
    cases hmem
  · exact hsubscribers ((hsubs 1).1 haudience).1

end Daemon

end BbAuth
