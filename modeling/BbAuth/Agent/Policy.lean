import BbAuth.Provider.Election
/-!
# What the services do to the outside

The services write events and statuses to whoever listens, summon the
fallback UI, and record the events they emit. A policy says what of this
is allowed: who may listen, what the queue may be, which events may be
emitted, what may be done to the outside. Its laws close it under what
every service does, so that whether a service obeys it is a question about
the event this one emits.

`Obeys π` says that from one agent to another the policy is kept, and
that the trace grows by outputs it allows.
-/

namespace BbAuth

/-- **A policy for what an agent does to the outside.** -/
structure Policy where
  /-- Who may subscribe or be a provider. -/
  listener : Socket → Prop := fun _ => True
  /-- What the queue of events may be. -/
  queue : EventQueue → Prop := fun _ => True
  /-- Which events may be emitted. -/
  event : QJsonObject → Prop
  /-- What may be done to the outside. -/
  output : Output → Prop
  emitted : ∀ e, event e → output (.emitted e)
  sent : ∀ e s, event e → listener s → output (.sent s e)
  drained : ∀ q e, queue q → event e → queue (q.enqueue e).drainToWaiters.2 ∧
    ∀ d ∈ (q.enqueue e).drainToWaiters.1, output (.sent d.1 d.2)
  status : ∀ s a, listener s → output (.sent s (Agent.providerStatus a))
  fallback : ∀ reason registry store, output (.ensureFallbackUiRunning reason registry store)

/-- A policy that lets every message pass. -/
def Policy.ofDone (P : Output → Prop) (hs : ∀ s j, P (.sent s j))
    (hf : ∀ reason registry store, P (.ensureFallbackUiRunning reason registry store)) : Policy where
  event e := P (.emitted e)
  output := P
  emitted _ h := h
  sent e s _ _ := hs s e
  drained _ _ _ _ := ⟨trivial, fun d _ => hs d.1 d.2⟩
  status s _ _ := hs s _
  fallback := hf

/-- **The policy is open to open sessions**: it allows every event but a
creation. -/
structure Policy.Open (π : Policy) : Prop where
  updated : ∀ s : Session, π.event s.toUpdatedEvent
  closed : ∀ s : Session, π.event s.toClosedEvent

namespace Agent

variable {π : Policy} {W : World} {a b c : Agent} {s : Socket} {j e : QJsonObject}

/-- **The policy is kept**: those who listen may, and the queue is as it
may be. -/
structure Kept (π : Policy) (a : Agent) : Prop where
  subscribers : ∀ s ∈ a.subscribers, π.listener s
  providers : ∀ s ∈ a.providerRegistry.uiProviders, π.listener s
  active : ∀ s, a.providerRegistry.activeProvider = some s → π.listener s
  queue : π.queue a.eventQueue

/-- **From `a` to `b` the policy is obeyed.** -/
def Obeys (π : Policy) (a b : Agent) : Prop :=
  Kept π a → Kept π b ∧ ∃ os, b.log = a.log ++ os ∧ ∀ o ∈ os, π.output o

theorem kept_ofDone {P : Output → Prop} {hs : ∀ s j, P (.sent s j)}
    {hf : ∀ reason registry store, P (.ensureFallbackUiRunning reason registry store)} (a : Agent) :
    Kept (.ofDone P hs hf) a :=
  ⟨fun _ _ => trivial, fun _ _ => trivial, fun _ _ => trivial, trivial⟩

theorem Kept.of_eq (h : Kept π a) (hs : b.subscribers = a.subscribers)
    (hr : b.providerRegistry = a.providerRegistry) (hq : b.eventQueue = a.eventQueue) :
    Kept π b :=
  ⟨by rw [hs]; exact h.subscribers, by rw [hr]; exact h.providers, by rw [hr]; exact h.active,
    by rw [hq]; exact h.queue⟩

theorem obeys_of_eq (hs : b.subscribers = a.subscribers)
    (hr : b.providerRegistry = a.providerRegistry) (hq : b.eventQueue = a.eventQueue)
    (hl : b.log = a.log) : Obeys π a b :=
  fun h => ⟨h.of_eq hs hr hq, [], by simp [hl], by simp⟩

theorem Obeys.refl (a : Agent) : Obeys π a a := obeys_of_eq rfl rfl rfl rfl

theorem Obeys.trans (h : Obeys π a b) (h' : Obeys π b c) : Obeys π a c := by
  intro hk
  obtain ⟨hk', os, hl, ho⟩ := h hk
  obtain ⟨hk'', os', hl', ho'⟩ := h' hk'
  refine ⟨hk'', os ++ os', by rw [hl', hl, List.append_assoc], fun o hm => ?_⟩
  exact (List.mem_append.1 hm).elim (ho o) (ho' o)

/-- What was added, read off the end of the trace. -/
theorem Obeys.of_mem_drop (h : Obeys π a b) (hk : Kept π a) {o : Output}
    (ho : o ∈ b.log.drop a.log.length) : π.output o := by
  obtain ⟨-, os, hl, hP⟩ := h hk
  rw [hl, List.drop_left] at ho
  exact hP o ho

/-! ## Sending -/

theorem obeys_trace (a : Agent) {o : Output} (h : π.output o) : Obeys π a (a.trace o) :=
  fun hk => ⟨hk.of_eq rfl rfl rfl, [o], rfl, fun _ ho => List.mem_singleton.1 ho ▸ h⟩

theorem obeys_sendJson (a : Agent) (h : π.output (.sent s j)) : Obeys π a (a.sendJson s j) := by
  unfold sendJson
  split
  · exact obeys_trace a h
  · exact .refl a

theorem obeys_writeJson (a : Agent) (h : π.output (.sent s j)) : Obeys π a (a.writeJson s j) := by
  unfold writeJson
  split
  · exact obeys_trace a h
  · exact .refl a

theorem obeys_foldl {α : Type} {f : Agent → α → Agent} :
    ∀ (l : List α) (_ : ∀ a, ∀ x ∈ l, Obeys π a (f a x)) (a : Agent), Obeys π a (l.foldl f a)
  | [], _, a => .refl a
  | x :: l, h, a => (h a x List.mem_cons_self).trans
      (obeys_foldl l (fun a y hy => h a y (List.mem_cons_of_mem _ hy)) (f a x))

theorem obeys_sendEach (a : Agent) (l : List Socket) (h : ∀ s ∈ l, π.output (.sent s j)) :
    Obeys π a (a.sendEach l j) := by
  refine obeys_foldl l (fun a s hs => ?_) a
  split
  · exact obeys_sendJson a (h s hs)
  · exact .refl a

/-- What is pushed goes to the active provider or to the subscribers. -/
theorem obeys_push (a : Agent) (h : π.event e) : Obeys π a (a.push e) := by
  intro hk
  unfold push
  split
  · split
    next s hs =>
      split
      · exact obeys_sendJson a (π.sent e s h (hk.active s hs)) hk
      · exact Obeys.refl a hk
    · exact Obeys.refl a hk
  · exact obeys_sendEach a _ (fun s hs => π.sent e s h (hk.subscribers s hs)) hk

/-- An event goes to the listeners, and what it drains from the queue to
the waiters. -/
theorem obeys_route (a : Agent) (h : π.event e) : Obeys π a (a.route e) := by
  refine (obeys_push a h).trans fun hk => ?_
  obtain ⟨hleft, hsent⟩ := π.drained _ e hk.queue h
  simp only [route]
  generalize ((a.push e).eventQueue.enqueue e).drainToWaiters = r at hleft hsent ⊢
  obtain ⟨sent, left⟩ := r
  have hset : Kept π ((a.push e).setQueue left) :=
    ⟨hk.subscribers, hk.providers, hk.active, hleft⟩
  exact obeys_foldl sent (fun a d hd => obeys_sendJson a (hsent d hd)) _ hset

/-! ## The providers -/

/-- An election lets nobody listen who did not. -/
theorem obeys_recomputeActiveProvider (a : Agent) :
    Obeys π a (a.recomputeActiveProvider W).2 := by
  have hmem : ∀ s ∈ (a.recomputeActiveProvider W).2.providerRegistry.uiProviders,
      s ∈ a.providerRegistry.uiProviders := by
    intro s hs
    obtain ⟨p, hp⟩ := Table.mem_iff_exists.1 hs
    exact Table.mem_iff_exists.2
      ⟨p, ((ProviderRegistry.lookup_recomputeActiveProvider (W.walk_perm _ _)).1 hp).1⟩
  intro hk
  have hprov : ∀ s ∈ (a.recomputeActiveProvider W).2.providerRegistry.uiProviders,
      π.listener s := fun s hs => hk.providers s (hmem s hs)
  refine ⟨⟨hk.subscribers, hprov, fun s hs => hprov s ?_, hk.queue⟩, [], by
    simp [recomputeActiveProvider], by simp⟩
  -- whoever is elected stands in the table
  exact Table.mem_iff_exists.2
    ((ProviderRegistry.elected_recomputeActiveProvider (W.walk_perm _ _)).registered s hs)

theorem obeys_emitProviderStatus (a : Agent) : Obeys π a (a.emitProviderStatus W) := by
  intro hk
  have hticked : Obeys π a a.ticked := obeys_of_eq rfl rfl rfl rfl
  simp only [Agent.emitProviderStatus]
  refine (hticked.trans (Obeys.trans (obeys_sendEach _ _ fun s hs => ?_)
    (obeys_sendEach _ _ fun s hs => ?_))) hk
  · refine π.status s a (hk.providers s ?_)
    rw [W.mem_walk] at hs
    exact AList.mem_keys.2 hs
  · refine π.status s a (hk.subscribers s ?_)
    rw [sendEach_eq] at hs
    exact List.mem_of_mem_filter hs

theorem obeys_recomputeAndEmit (a : Agent) : Obeys π a (a.recomputeAndEmit W) := by
  have hr : Obeys π a (a.recomputeActiveProvider W).2 := obeys_recomputeActiveProvider a
  simp only [recomputeAndEmit]
  split
  · exact hr.trans (obeys_emitProviderStatus _)
  · exact hr

theorem obeys_ensureFallbackUiRunning (a : Agent) (reason : String) :
    Obeys π a (a.ensureFallbackUiRunning W reason) := by
  simp only [Agent.ensureFallbackUiRunning]
  refine (obeys_trace a (π.fallback reason a.providerRegistry a.sessionStore)).trans ?_
  split
  · exact .refl _
  · split
    · exact obeys_of_eq rfl rfl rfl rfl
    · split
      · exact obeys_of_eq rfl rfl rfl rfl
      · split <;> exact obeys_of_eq rfl rfl rfl rfl

/-! ## The services -/

theorem obeys_emitSessionEvent (a : Agent) (h : π.event e) : Obeys π a (a.emitSessionEvent e) :=
  (obeys_trace a (π.emitted e h)).trans (obeys_route _ h)

theorem obeys_store_emit (a : Agent) (store : SessionStore) (h : π.event e) :
    Obeys π a ((a.setStore store).emitSessionEvent e) := by
  have hset : Obeys π a (a.setStore store) := obeys_of_eq rfl rfl rfl rfl
  exact hset.trans (obeys_emitSessionEvent _ h)

theorem obeys_createSession (a : Agent) (id : String) (source : Session.Source)
    (ctx : Session.Context)
    (h : a.getSession id = none → π.event (newSession id source ctx).toCreatedEvent) :
    Obeys π a (a.createSession W id source ctx).2 := by
  cases hs : a.sessionStore.sessions.lookup id with
  | some s =>
      rw [createSession_of_some W a id hs]
      exact .refl a
  | none =>
      have hc : a.sessionStore.createSession id source ctx =
          some ((newSession id source ctx).toCreatedEvent,
            a.sessionStore.put (newSession id source ctx)) := by
        simp only [SessionStore.createSession, hs, newSession]
      have he := obeys_store_emit a (a.sessionStore.put (newSession id source ctx)) (h hs)
      simp only [Agent.createSession, hc]
      split
      · exact he.trans (obeys_ensureFallbackUiRunning _ _)
      · exact he

theorem obeys_emitUpdate (a : Agent) (id : String) {f : Session → Session}
    (h : ∀ s, a.getSession id = some s → π.event (f s).toUpdatedEvent) :
    Obeys π a (a.emitUpdate (a.sessionStore.update id f)) := by
  unfold emitUpdate SessionStore.update
  split
  · exact .refl a
  next e store hu =>
    split at hu
    · cases hu
    next s hs =>
      simp only [Option.some.injEq, Prod.mk.injEq] at hu
      obtain ⟨rfl, rfl⟩ := hu
      exact obeys_store_emit a _ (h s hs)

theorem obeys_closeSession (a : Agent) (id : String) (r : Session.Result)
    (h : ∀ s, a.getSession id = some s → π.event (s.close r).toClosedEvent) :
    Obeys π a (a.closeSession W id r).2 := by
  unfold Agent.closeSession SessionStore.closeSession
  split
  · exact .refl a
  next e store hc =>
    split at hc
    · cases hc
    next s hs =>
      simp only [Option.some.injEq, Prod.mk.injEq] at hc
      obtain ⟨rfl, rfl⟩ := hc
      have hevent := h s hs
      generalize (s.close r).toClosedEvent = event at hevent ⊢
      simp only [Bool.not_false, if_true]
      split
      · have hset : Obeys π a (a.setStore (a.sessionStore.drop id)) :=
          obeys_of_eq rfl rfl rfl rfl
        exact (hset.trans (obeys_recomputeAndEmit _)).trans (obeys_emitSessionEvent _ hevent)
      · exact obeys_store_emit a _ hevent

theorem obeys_onSessionComplete (a : Agent) (id : String) (success : Bool)
    (h : ∀ s, a.getSession id = some s →
      π.event (s.close (if success then .success else .cancelled)).toClosedEvent) :
    Obeys π a (a.onSessionComplete W id success) := by
  unfold Agent.onSessionComplete SessionStore.closeSession
  split
  · exact .refl a
  next e store hc =>
    split at hc
    · cases hc
    next s hs =>
      simp only [Option.some.injEq, Prod.mk.injEq] at hc
      obtain ⟨rfl, rfl⟩ := hc
      have hevent := h s hs
      generalize (s.close (if success then .success else .cancelled)).toClosedEvent = event
        at hevent ⊢
      have he := obeys_store_emit a (a.sessionStore.drop id) hevent
      dsimp only
      split
      · exact he.trans (obeys_recomputeAndEmit _)
      · exact he

/-! ## Calls -/

/-- **A call obeys an open policy** that allows what its caller says, where
it may emit the creation it is. -/
theorem Call.obeys {S : Set Output} (h : Call W S a b) (ho : π.Open) (hS : ∀ o ∈ S, π.output o)
    (hc : ∀ id source ctx, b = (a.createSession W id source ctx).2 → a.getSession id = none →
      π.event (newSession id source ctx).toCreatedEvent) : Obeys π a b := by
  cases h with
  | ticked => exact obeys_of_eq rfl rfl rfl rfl
  | trace o hp hs => exact obeys_trace a (hS o hs)
  | collision socket hs => exact obeys_writeJson a (hS _ hs)
  | create id source ctx => exact obeys_createSession a id source ctx (hc id source ctx rfl)
  | update id f hf => exact obeys_emitUpdate a id fun s _ => ho.updated (f s)
  | retryPrompt id s h cur max prompt echo clearError =>
      have hr : Obeys π a (a.updateSessionPinentryRetry id cur max) :=
        obeys_of_eq rfl rfl rfl rfl
      exact hr.trans (obeys_emitUpdate _ id fun s _ => ho.updated _)
  | close id r => exact obeys_closeSession a id r fun s _ => ho.closed _
  | complete id success => exact obeys_onSessionComplete a id success fun s _ => ho.closed _

/-- **A chain of calls obeys a policy that lets every session be created.** -/
theorem Calls.obeys {S : Set Output} (h : Calls W S a b) (ho : π.Open)
    (hS : ∀ o ∈ S, π.output o) (hc : ∀ s : Session, π.event s.toCreatedEvent) : Obeys π a b := by
  induction h with
  | refl => exact .refl a
  | tail _ hcall ih => exact ih.trans (hcall.obeys ho hS fun id source ctx _ _ => hc _)

end Agent

end BbAuth
