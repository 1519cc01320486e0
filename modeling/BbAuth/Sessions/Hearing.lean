import BbAuth.Flow.Turn
import BbAuth.Provider.Audience
import BbAuth.Provider.Crown
/-!
# What one socket hears of the sessions

A socket that is the audience of every session event hears each event that
is emitted, once and in order, and no other message that could be taken
for one. `Stands` says who is the audience whatever is elected meanwhile: a
subscriber where nobody else is registered, or the provider that outranks
all the others. `Follows` is the relation a service keeps from one agent to
the next; it is closed under one service after the other.
-/

namespace BbAuth

open ProviderRegistry

/-- **A message no session event is mistaken for.** -/
abbrev Unrouted (j : QJsonObject) : Prop := Agent.isSessionEventForProviderRouting j = false

theorem unrouted_of_type {j : QJsonObject} {t : String} (h : j.value "type" = .string t)
    (ht : "session.".toList.isPrefixOf t.toList = false) : Unrouted j := by
  simpa [Unrouted, Agent.isSessionEventForProviderRouting, h] using ht

theorem Session.unrouted_not (s : Session) (r : Session.Result) :
    Agent.isSessionEventForProviderRouting s.toCreatedEvent = true ∧
      Agent.isSessionEventForProviderRouting s.toUpdatedEvent = true ∧
      Agent.isSessionEventForProviderRouting (s.close r).toClosedEvent = true := by
  refine ⟨?_, ?_, ?_⟩ <;>
  · simp only [Agent.isSessionEventForProviderRouting, Session.value_type_created,
      Session.value_type_updated, Session.value_type_closed, QJsonValue.toString_string]
    decide

namespace EventQueue

theorem waiting_of_drain : ∀ (waiters : List Socket) (events : List QJsonObject),
    (∀ d ∈ (drain waiters events).1, d.1 ∈ waiters) ∧
      ∀ w ∈ (drain waiters events).2.1, w ∈ waiters
  | [], events => by simp [drain]
  | _ :: _, [] => by simp [drain]
  | w :: waiters, e :: events => by
      obtain ⟨hs, hr⟩ := waiting_of_drain waiters events
      simp only [drain]
      constructor
      · intro d hd
        rcases List.mem_cons.1 hd with rfl | hd
        · exact List.mem_cons_self
        · exact List.mem_cons_of_mem _ (hs d hd)
      · exact fun w' hw => List.mem_cons_of_mem _ (hr w' hw)

/-- Who is served, and who waits on, was waiting. -/
theorem waiting_of_drainToWaiters (q : EventQueue) :
    (∀ d ∈ q.drainToWaiters.1, d.1 ∈ q.nextWaiters) ∧
      ∀ w ∈ q.drainToWaiters.2.nextWaiters, w ∈ q.nextWaiters :=
  waiting_of_drain q.nextWaiters q.eventQueue

end EventQueue

namespace Agent

variable {W : World} {a b c : Agent} {s t : Socket} {j e : QJsonObject}

/-! ## Where a socket stands -/

/-- **Nobody else is registered**, and the socket subscribes. -/
structure Sole (s : Socket) (a : Agent) : Prop where
  alone : ∀ t ∈ a.providerRegistry.uiProviders, t = s
  subscribed : s ∈ a.subscribers

/-- **The socket stays the audience** from `a` to `b`. -/
def Remains (s : Socket) (a b : Agent) : Prop :=
  Sole s a ∨ a.providerRegistry.Outranks s ∧ s ∈ b.providerRegistry.uiProviders

/-- **The socket can be pushed to**, and is pushed to once. -/
structure Holds (s : Socket) (a : Agent) : Prop where
  connected : a.isConnected s = true
  waits : s ∉ a.eventQueue.nextWaiters
  nodup : a.subscribers.Nodup
  elected : a.providerRegistry.Elected
  crowned : a.providerRegistry.Crowned

/-- **Such a socket is the audience**, whatever it stands by. -/
theorem Holds.filter_audience (h : Holds s a) (hs : Sole s a ∨ a.providerRegistry.Outranks s) :
    a.audience.filter (· = s) = [s] := by
  have hactive : a.providerRegistry.activeProvider = some s ∨
      a.providerRegistry.activeProvider = none ∧ s ∈ a.subscribers := by
    rcases hs with hs | hs
    · cases ha : a.providerRegistry.activeProvider with
      | none => exact .inr ⟨rfl, hs.subscribed⟩
      | some t =>
          rw [hs.alone t (Table.mem_iff_exists.2 (h.elected.registered t ha))]
          exact .inl rfl
    · exact .inl (h.crowned.active h.elected hs)
  unfold audience
  rcases hactive with ha | ⟨ha, hm⟩
  · have hact : a.hasActiveProvider = true := h.elected.hasActiveProvider_iff.2 ⟨s, ha⟩
    simp [hact, ha, h.connected]
  · have hact : a.hasActiveProvider = false := (not_hasActiveProvider_iff h.elected).2 ha
    have hcount : (a.subscribers.filter a.isConnected).count s = 1 := by
      rw [List.count_filter h.connected]
      exact List.count_eq_one_of_mem h.nodup hm
    simp only [hact, Bool.false_eq_true, if_false]
    rw [List.filter_eq, hcount]
    rfl

/-! ## What it hears -/

/-- **The socket hears what is emitted**: of what is done to the outside
from `a` to `b`, the session events written to it are those emitted. -/
def Pushed (s : Socket) (a b : Agent) : Prop :=
  ∃ os, b.log = a.log ++ os ∧
    (os.filterMap (Output.to? s)).filter isSessionEventForProviderRouting =
      os.filterMap Output.event?

theorem Pushed.trans (h : Pushed s a b) (h' : Pushed s b c) : Pushed s a c := by
  obtain ⟨os, hl, ho⟩ := h
  obtain ⟨os', hl', ho'⟩ := h'
  refine ⟨os ++ os', by rw [hl', hl, List.append_assoc], ?_⟩
  rw [List.filterMap_append, List.filterMap_append, List.filter_append, ho, ho']

theorem pushed_of_log (h : b.log = a.log) : Pushed s a b := ⟨[], by simp [h], rfl⟩

/-- What is pushed changes the trace and nothing else. -/
theorem push_eq (a : Agent) (e : QJsonObject) : a.push e = { a with log := (a.push e).log } := by
  unfold push
  split
  · split
    · split
      · exact sendJson_eq a _ e
      · rfl
    · rfl
  · exact sendEach_eq a _ e

theorem pushed_sendJson_of_ne (a : Agent) (h : t ≠ s) : Pushed s a (a.sendJson t j) := by
  unfold sendJson
  split
  · exact ⟨[.sent t j], rfl, by simp [Output.to?, h, Output.event?]⟩
  · exact pushed_of_log rfl

theorem pushed_foldl {α : Type} {f : Agent → α → Agent} :
    ∀ (l : List α) (_ : ∀ a, ∀ x ∈ l, Pushed s a (f a x)) (a : Agent), Pushed s a (l.foldl f a)
  | [], _, _ => pushed_of_log rfl
  | x :: l, h, a => (h a x List.mem_cons_self).trans
      (pushed_foldl l (fun a y hy => h a y (List.mem_cons_of_mem _ hy)) (f a x))

/-! ## What says nothing of the sessions -/

/-- **Nothing is said of the sessions**: no event is emitted, what is
written to the socket is mute, and the socket does not come to wait. -/
structure Mutes (s : Socket) (a b : Agent) : Prop where
  waits : s ∈ b.eventQueue.nextWaiters → s ∈ a.eventQueue.nextWaiters
  log : ∃ os, b.log = a.log ++ os ∧ (∀ o ∈ os, o.event? = none) ∧
    ∀ j, Output.sent s j ∈ os → Unrouted j

theorem Mutes.trans (h : Mutes s a b) (h' : Mutes s b c) : Mutes s a c where
  waits := h.waits ∘ h'.waits
  log := by
    obtain ⟨os, hl, he, hm⟩ := h.log
    obtain ⟨os', hl', he', hm'⟩ := h'.log
    refine ⟨os ++ os', by rw [hl', hl, List.append_assoc], fun o ho => ?_, fun j hj => ?_⟩
    · exact (List.mem_append.1 ho).elim (he o) (he' o)
    · exact (List.mem_append.1 hj).elim (hm j) (hm' j)

theorem mutes_of_eq (hw : s ∈ b.eventQueue.nextWaiters → s ∈ a.eventQueue.nextWaiters)
    (hl : b.log = a.log) : Mutes s a b := ⟨hw, [], by simp [hl], by simp, by simp⟩

theorem Mutes.refl (a : Agent) : Mutes s a a := mutes_of_eq id rfl

theorem Mutes.pushed (h : Mutes s a b) : Pushed s a b := by
  obtain ⟨os, hl, he, hm⟩ := h.log
  refine ⟨os, hl, ?_⟩
  rw [List.filterMap_eq_nil_iff.2 he, List.filter_eq_nil_iff]
  intro j hj
  obtain ⟨o, ho, hto⟩ := List.mem_filterMap.1 hj
  unfold Output.to? at hto
  split at hto
  next u k =>
    split at hto
    next hus =>
      cases hto
      rw [hm j (hus ▸ ho)]
      decide
    · cases hto
  · cases hto

theorem mutes_trace (a : Agent) {o : Output} (he : o.event? = none)
    (ho : ∀ j, o = .sent s j → Unrouted j) : Mutes s a (a.trace o) :=
  ⟨id, [o], rfl, fun _ hm => List.mem_singleton.1 hm ▸ he,
    fun j hj => ho j (List.mem_singleton.1 hj).symm⟩

theorem mutes_sendJson (a : Agent) (h : t = s → Unrouted j) : Mutes s a (a.sendJson t j) := by
  unfold sendJson
  split
  · refine mutes_trace a rfl fun j' he => ?_
    cases he
    exact h rfl
  · exact .refl a

theorem mutes_writeJson (a : Agent) (h : t = s → Unrouted j) : Mutes s a (a.writeJson t j) := by
  unfold writeJson
  split
  · refine mutes_trace a rfl fun j' he => ?_
    cases he
    exact h rfl
  · exact .refl a

theorem unrouted_providerStatus (a : Agent) : Unrouted a.providerStatus :=
  unrouted_of_type (value_type_providerStatus a) (by decide)

theorem mutes_emitProviderStatus (a : Agent) : Mutes s a (a.emitProviderStatus W) := by
  refine ⟨by simp, _, emitProviderStatus_log W a, fun o ho => ?_, fun j hj => ?_⟩
  · simp only [List.mem_append, List.mem_map] at ho
    rcases ho with ⟨t, -, rfl⟩ | ⟨t, -, rfl⟩ <;> rfl
  · simp only [List.mem_append, List.mem_map, Output.sent.injEq] at hj
    rcases hj with ⟨t, -, -, rfl⟩ | ⟨t, -, -, rfl⟩ <;> exact unrouted_providerStatus a

theorem mutes_recomputeAndEmit (a : Agent) : Mutes s a (a.recomputeAndEmit W) := by
  have hr : Mutes s a (a.recomputeActiveProvider W).2 := mutes_of_eq id rfl
  simp only [recomputeAndEmit]
  split
  · exact hr.trans (mutes_emitProviderStatus _)
  · exact hr

theorem mutes_ensureFallbackUiRunning (a : Agent) (reason : String) :
    Mutes s a (a.ensureFallbackUiRunning W reason) := by
  simp only [ensureFallbackUiRunning]
  have ht : Mutes s a (a.trace (.ensureFallbackUiRunning reason a.providerRegistry a.sessionStore)) :=
    mutes_trace a rfl fun j he => by cases he
  refine ht.trans ?_
  split
  · exact .refl _
  · split
    · exact mutes_of_eq id rfl
    · split
      · exact mutes_of_eq id rfl
      · split <;> exact mutes_of_eq id rfl

theorem mutes_sendAll (a : Agent) (l : List QJsonObject) (h : t ≠ s) :
    Mutes s a (a.sendAll t l) := by
  induction l generalizing a with
  | nil => exact .refl a
  | cons j l ih => exact (mutes_sendJson a fun he => absurd he h).trans (ih _)

/-! ## Services -/

/-- **A service and a socket that is the audience.** The clients and the
subscribers stay, the table only loses entries, nobody comes to wait; and
the socket hears what is emitted. -/
structure Follows (s : Socket) (a b : Agent) : Prop where
  clients : b.clients = a.clients
  subscribers : b.subscribers = a.subscribers
  lookup : ∀ t p, b.providerRegistry.uiProviders.lookup t = some p →
    a.providerRegistry.uiProviders.lookup t = some p
  waits : s ∈ b.eventQueue.nextWaiters → s ∈ a.eventQueue.nextWaiters
  elected : a.providerRegistry.Elected → b.providerRegistry.Elected
  crowned : a.providerRegistry.Crowned → b.providerRegistry.Crowned
  pushed : Holds s a → Remains s a b → Pushed s a b

namespace Follows

theorem holds (h : Follows s a b) (ha : Holds s a) : Holds s b where
  connected := (isConnected_of_clients h.clients s).trans ha.connected
  waits := fun hs => ha.waits (h.waits hs)
  nodup := h.subscribers ▸ ha.nodup
  elected := h.elected ha.elected
  crowned := h.crowned ha.crowned

theorem mem (h : Follows s a b) (ht : t ∈ b.providerRegistry.uiProviders) :
    t ∈ a.providerRegistry.uiProviders := by
  obtain ⟨p, hp⟩ := Table.mem_iff_exists.1 ht
  exact Table.mem_iff_exists.2 ⟨p, h.lookup t p hp⟩

/-- **Where it stands at the end it stood half way.** -/
theorem remains (h : Follows s a b) (h' : Follows s b c) (hr : Remains s a c) :
    Remains s a b ∧ Remains s b c := by
  rcases hr with hs | ⟨ho, hm⟩
  · exact ⟨.inl hs, .inl ⟨fun t ht => hs.alone t (h.mem ht), h.subscribers ▸ hs.subscribed⟩⟩
  · have hb := h'.mem hm
    exact ⟨.inr ⟨ho, hb⟩, .inr ⟨ho.of_lookup hb fun t p hp => ⟨p, h.lookup t p hp, rfl⟩, hm⟩⟩

theorem refl (a : Agent) : Follows s a a :=
  ⟨rfl, rfl, fun _ _ h => h, id, id, id, fun _ _ => pushed_of_log rfl⟩

theorem trans (h : Follows s a b) (h' : Follows s b c) : Follows s a c where
  clients := h'.clients.trans h.clients
  subscribers := h'.subscribers.trans h.subscribers
  lookup t p hp := h.lookup t p (h'.lookup t p hp)
  waits := h.waits ∘ h'.waits
  elected := h'.elected ∘ h.elected
  crowned := h'.crowned ∘ h.crowned
  pushed ha hr := by
    obtain ⟨h₁, h₂⟩ := h.remains h' hr
    exact (h.pushed ha h₁).trans (h'.pushed (h.holds ha) h₂)

end Follows

/-! ## The services -/

/-- What leaves the connections, the table and the waiters as they are. -/
theorem follows_of_eq (hc : b.clients = a.clients) (hs : b.subscribers = a.subscribers)
    (hr : b.providerRegistry = a.providerRegistry)
    (hw : s ∈ b.eventQueue.nextWaiters → s ∈ a.eventQueue.nextWaiters)
    (hp : Holds s a → Remains s a b → Pushed s a b) : Follows s a b :=
  ⟨hc, hs, fun _ _ h => hr ▸ h, hw, fun h => hr ▸ h, fun h => hr ▸ h, hp⟩

/-- What does nothing to the outside besides. -/
theorem follows_of_log (hc : b.clients = a.clients) (hs : b.subscribers = a.subscribers)
    (hr : b.providerRegistry = a.providerRegistry) (hq : b.eventQueue = a.eventQueue)
    (hl : b.log = a.log) : Follows s a b :=
  follows_of_eq hc hs hr (fun h => hq ▸ h) fun _ _ => pushed_of_log hl

theorem follows_ticked (a : Agent) : Follows s a a.ticked := follows_of_log rfl rfl rfl rfl rfl

theorem follows_setStore (a : Agent) (store : SessionStore) : Follows s a (a.setStore store) :=
  follows_of_log rfl rfl rfl rfl rfl

/-- What says nothing of the sessions is followed. -/
theorem Mutes.follows (h : Mutes s a b) (hc : b.clients = a.clients)
    (hs : b.subscribers = a.subscribers) (hr : b.providerRegistry = a.providerRegistry) :
    Follows s a b := follows_of_eq hc hs hr h.waits fun _ _ => h.pushed

theorem follows_sendJson (a : Agent) (h : t = s → Unrouted j) : Follows s a (a.sendJson t j) :=
  (mutes_sendJson a h).follows (by simp) (by simp) (by simp)

theorem follows_recomputeAndEmit (a : Agent) : Follows s a (a.recomputeAndEmit W) where
  clients := (framed_recomputeAndEmit W a).clients
  subscribers := (framed_recomputeAndEmit W a).subscribers
  lookup t p hp := by
    rw [recomputeAndEmit_providerRegistry] at hp
    exact lookup_of_recomputeActiveProvider hp
  waits := (mutes_recomputeAndEmit a).waits
  elected _ := elected_recomputeAndEmit W a
  crowned _ := crowned_recomputeAndEmit W a
  pushed _ _ := (mutes_recomputeAndEmit a).pushed

theorem follows_ensureFallbackUiRunning (a : Agent) (reason : String) :
    Follows s a (a.ensureFallbackUiRunning W reason) :=
  let h := still_ensureFallbackUiRunning W a reason
  (mutes_ensureFallbackUiRunning a reason).follows h.clients h.subscribers h.providerRegistry

/-! ## Events -/

/-- **A session event reaches the socket once.** -/
theorem follows_emitSessionEvent (a : Agent) (he : isSessionEventForProviderRouting e = true) :
    Follows s a (a.emitSessionEvent e) := by
  set b := (a.trace (.emitted e)).push e with hb
  obtain ⟨hserved, hleft⟩ := EventQueue.waiting_of_drainToWaiters (b.eventQueue.enqueue e)
  have hq : b.eventQueue = a.eventQueue := by rw [hb, push_eq]; rfl
  set sent := (b.eventQueue.enqueue e).drainToWaiters.1
  set queue := (b.eventQueue.enqueue e).drainToWaiters.2
  have hroute : a.emitSessionEvent e =
      sent.foldl (fun a d => a.sendJson d.1 d.2) (b.setQueue queue) := rfl
  have hframe := foldl_eq (fun a (d : Socket × QJsonObject) => sendJson_eq a d.1 d.2) sent
    (b.setQueue queue)
  have hpush : b = { a with log := b.log } := by
    rw [hb, push_eq]
    rfl
  rw [hroute]
  refine follows_of_eq ?_ ?_ ?_ (fun ht => ?_) fun ha hr => ?_
  · rw [hframe, hpush]; rfl
  · rw [hframe, hpush]; rfl
  · rw [hframe, hpush]; rfl
  · rw [hframe] at ht
    have := hleft s ht
    rwa [EventQueue.enqueue, hq] at this
  · -- the audience first, then the waiters, of whom the socket is none
    have haud := ha.filter_audience (hr.imp_right And.left)
    have hdrained : Pushed s (b.setQueue queue)
        (sent.foldl (fun a d => a.sendJson d.1 d.2) (b.setQueue queue)) := by
      refine pushed_foldl sent (fun c d hd => ?_) _
      refine pushed_sendJson_of_ne c fun hds => ha.waits ?_
      have := hserved d hd
      rwa [EventQueue.enqueue, hq, hds] at this
    refine Pushed.trans ?_ hdrained
    refine ⟨.emitted e :: a.audience.map (Output.sent · e), ?_, ?_⟩
    · rw [setQueue_log, hb, push_log _ he, trace_log, List.append_assoc]
      rfl
    · have hevents : (a.audience.map (Output.sent · e)).filterMap Output.event? = [] := by
        simp [List.filterMap_eq_nil_iff, Output.event?]
      have hheard : (a.audience.map (Output.sent · e)).filterMap (Output.to? s) = [e] := by
        have hto : ∀ t, (Output.to? s ∘ (Output.sent · e)) t =
            if t = s then some e else none := fun t => rfl
        rw [List.filterMap_map, List.filterMap_congr fun t _ => hto t]
        have := congrArg (List.map fun _ : Socket => e) haud
        rw [← List.filterMap_eq_map, List.filterMap_filter] at this
        simpa using this
      rw [List.filterMap_cons, List.filterMap_cons]
      simp only [Output.to?, Output.event?, hheard, hevents]
      simp [he]

/-! ## The services that emit -/

theorem follows_store_emit (a : Agent) (store : SessionStore)
    (he : isSessionEventForProviderRouting e = true) :
    Follows s a ((a.setStore store).emitSessionEvent e) :=
  (follows_setStore a store).trans (follows_emitSessionEvent _ he)

theorem follows_createSession (a : Agent) (id : String) (source : Session.Source)
    (ctx : Session.Context) : Follows s a (a.createSession W id source ctx).2 := by
  cases hs : a.sessionStore.sessions.lookup id with
  | some session =>
      rw [createSession_of_some W a id hs]
      exact .refl a
  | none =>
      have hc : a.sessionStore.createSession id source ctx =
          some ((newSession id source ctx).toCreatedEvent,
            a.sessionStore.put (newSession id source ctx)) := by
        simp only [SessionStore.createSession, hs, newSession]
      have he : Follows s a
          ((a.setStore (a.sessionStore.put (newSession id source ctx))).emitSessionEvent
            (newSession id source ctx).toCreatedEvent) :=
        follows_store_emit a _ (Session.unrouted_not _ .success).1
      simp only [createSession, hc]
      split
      · exact he.trans (follows_ensureFallbackUiRunning _ _)
      · exact he

theorem follows_emitUpdate (a : Agent) (id : String) (f : Session → Session) :
    Follows s a (a.emitUpdate (a.sessionStore.update id f)) := by
  unfold emitUpdate SessionStore.update
  split
  · exact .refl a
  next e store hu =>
    split at hu
    · cases hu
    next session hs =>
      simp only [Option.some.injEq, Prod.mk.injEq] at hu
      obtain ⟨rfl, rfl⟩ := hu
      exact follows_store_emit a _ (Session.unrouted_not _ .success).2.1

theorem follows_closeSession (a : Agent) (id : String) (r : Session.Result) :
    Follows s a (a.closeSession W id r).2 := by
  unfold closeSession SessionStore.closeSession
  split
  · exact .refl a
  next e store hc =>
    split at hc
    · cases hc
    next session hs =>
      simp only [Option.some.injEq, Prod.mk.injEq] at hc
      obtain ⟨rfl, rfl⟩ := hc
      have hevent := (Session.unrouted_not session r).2.2
      generalize (session.close r).toClosedEvent = event at hevent ⊢
      have hset := follows_setStore (s := s) a (a.sessionStore.drop id)
      simp only [Bool.not_false, if_true]
      split
      · exact (hset.trans (follows_recomputeAndEmit _)).trans (follows_emitSessionEvent _ hevent)
      · exact hset.trans (follows_emitSessionEvent _ hevent)

theorem follows_onSessionComplete (a : Agent) (id : String) (success : Bool) :
    Follows s a (a.onSessionComplete W id success) := by
  unfold onSessionComplete SessionStore.closeSession
  split
  · exact .refl a
  next e store hc =>
    split at hc
    · cases hc
    next session hs =>
      simp only [Option.some.injEq, Prod.mk.injEq] at hc
      obtain ⟨rfl, rfl⟩ := hc
      have hevent := (Session.unrouted_not session (if success then .success else .cancelled)).2.2
      generalize (session.close (if success then .success else .cancelled)).toClosedEvent = event
        at hevent ⊢
      have he := follows_store_emit (s := s) a (a.sessionStore.drop id) hevent
      dsimp only
      split
      · exact he.trans (follows_recomputeAndEmit _)
      · exact he

theorem unrouted_collisionError : Unrouted collisionError :=
  unrouted_of_type (t := "error") (by simp [collisionError]) (by decide)

/-- **Every call of a service is followed.** -/
theorem Call.follows {S : Set Output} (h : Call W S a b) : Follows s a b := by
  cases h with
  | ticked => exact follows_ticked a
  | trace o ho hS =>
      have hm : Mutes s a (a.trace o) := by
        refine mutes_trace a ?_ fun j he => ?_
        · cases o <;> simp_all [Output.isPolkit, Output.event?]
        · rw [he] at ho
          cases ho
      exact hm.follows rfl rfl rfl
  | collision socket hs =>
      have hst : Still a (a.writeJson socket collisionError) :=
        still_writeJson a socket inert_collisionError
      exact (mutes_writeJson a fun _ => unrouted_collisionError).follows hst.clients hst.subscribers
        hst.providerRegistry
  | create id source ctx => exact follows_createSession a id source ctx
  | update id f hf => exact follows_emitUpdate a id f
  | retryPrompt id session h cur max prompt echo clearError =>
      exact (follows_setStore a _).trans (follows_emitUpdate _ id _)
  | close id r => exact follows_closeSession a id r
  | complete id success => exact follows_onSessionComplete a id success

theorem Calls.follows {S : Set Output} (h : Calls W S a b) : Follows s a b := by
  induction h with
  | refl => exact .refl a
  | tail _ hcall ih => exact ih.trans (Call.follows hcall)

end Agent

end BbAuth
