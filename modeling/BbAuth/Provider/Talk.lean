import BbAuth.Provider.Election
/-!
# What the agent says of its providers

A service either is `Still` about the providers, and then every message it
sends says nothing of who is active, or it elects and tells: the election
and the status that follows a change are one move. Every call of a manager
or of the listener is a chain of such moves, so the registry stays elected
and its table only shrinks.
-/

namespace BbAuth

/-- **A message that says nothing of who is active.** -/
def Inert (json : QJsonObject) : Prop :=
  let type := (json.value "type").toString
  type ≠ "subscribed" ∧ type ≠ "ui.registered" ∧ type ≠ "ui.active" ∧
    ¬ (type = "error" ∧ (json.value "message").toString = "Not active UI provider")

theorem inert_of_type {json : QJsonObject} {t : String} (h : json.value "type" = .string t)
    (ht : t ∉ ["subscribed", "ui.registered", "ui.active", "error"]) : Inert json := by
  simp only [List.mem_cons, List.not_mem_nil, or_false, not_or] at ht
  simp [Inert, h, ht]

theorem inert_error {message : String} (h : message ≠ "Not active UI provider") :
    Inert [("type", "error"), ("message", .string message)] := by
  simp [Inert, h]

theorem inert_collisionError : Inert collisionError := by
  simp [Inert, collisionError]

theorem inert_created (s : Session) : Inert s.toCreatedEvent :=
  inert_of_type s.value_type_created (by decide)

theorem inert_updated (s : Session) : Inert s.toUpdatedEvent :=
  inert_of_type s.value_type_updated (by decide)

theorem inert_closed (s : Session) : Inert s.toClosedEvent :=
  inert_of_type s.value_type_closed (by decide)

/-- The store's events are inert. -/
theorem inert_of_createSession {st st' : SessionStore} {id : String} {source : Session.Source}
    {ctx : Session.Context} {e : QJsonObject}
    (h : st.createSession id source ctx = some (e, st')) : Inert e := by
  unfold SessionStore.createSession at h
  split at h <;> cases h
  exact inert_created _

theorem inert_of_update {st st' : SessionStore} {id : String} {f : Session → Session}
    {e : QJsonObject} (h : st.update id f = some (e, st')) : Inert e := by
  unfold SessionStore.update at h
  split at h <;> cases h
  exact inert_updated _

theorem inert_of_closeSession {st st' : SessionStore} {id : String} {r : Session.Result}
    {e : QJsonObject} (h : st.closeSession id r = some (e, st')) : Inert e := by
  unfold SessionStore.closeSession at h
  split at h <;> cases h
  exact inert_closed _

namespace EventQueue

/-- Every queued event is inert. -/
def AllInert (q : EventQueue) : Prop := ∀ e ∈ q.eventQueue, Inert e

variable {q : EventQueue} {e : QJsonObject}

theorem AllInert.enqueue (h : q.AllInert) (he : Inert e) : (q.enqueue e).AllInert := by
  intro e' hm
  rcases mem_enqueue hm with hm | rfl
  · exact h e' hm
  · exact he

theorem AllInert.drainToWaiters (h : q.AllInert) :
    (∀ d ∈ q.drainToWaiters.1, Inert d.2) ∧ q.drainToWaiters.2.AllInert :=
  ⟨fun d hd => h _ (q.mem_drainToWaiters.1 d hd), fun e he => h _ (q.mem_drainToWaiters.2 e he)⟩

end EventQueue

namespace Agent

/-- **A move that is still about the providers.** -/
structure Still (a b : Agent) : Prop where
  clients : b.clients = a.clients
  providerRegistry : b.providerRegistry = a.providerRegistry
  subscribers : b.subscribers = a.subscribers
  tick : a.tick ≤ b.tick
  talk : a.eventQueue.AllInert → b.eventQueue.AllInert ∧
    ∃ os, b.log = a.log ++ os ∧ ∀ s j, Output.sent s j ∈ os → Inert j

variable {a b c : Agent}

theorem Still.refl (a : Agent) : Still a a :=
  ⟨rfl, rfl, rfl, le_rfl, fun h => ⟨h, [], by simp, by simp⟩⟩

theorem Still.trans (h : Still a b) (h' : Still b c) : Still a c where
  clients := h'.clients.trans h.clients
  providerRegistry := h'.providerRegistry.trans h.providerRegistry
  subscribers := h'.subscribers.trans h.subscribers
  tick := h.tick.trans h'.tick
  talk hq := by
    obtain ⟨hq₁, os₁, hl₁, hi₁⟩ := h.talk hq
    obtain ⟨hq₂, os₂, hl₂, hi₂⟩ := h'.talk hq₁
    refine ⟨hq₂, os₁ ++ os₂, by rw [hl₂, hl₁, List.append_assoc], fun s j hm => ?_⟩
    exact (List.mem_append.1 hm).elim (hi₁ s j) (hi₂ s j)

theorem still_trace (a : Agent) {o : Output} (h : ∀ s j, o = .sent s j → Inert j) :
    Still a (a.trace o) where
  clients := rfl
  providerRegistry := rfl
  subscribers := rfl
  tick := le_rfl
  talk hq := ⟨hq, [o], rfl, fun s j hm => h s j (List.mem_singleton.1 hm).symm⟩

theorem still_ticked (a : Agent) : Still a a.ticked :=
  ⟨rfl, rfl, rfl, Nat.le_succ _, fun h => ⟨h, [], by simp, by simp⟩⟩

theorem still_setStore (a : Agent) (store : SessionStore) : Still a (a.setStore store) :=
  ⟨rfl, rfl, rfl, le_rfl, fun h => ⟨h, [], by simp, by simp⟩⟩

theorem still_sendJson (a : Agent) (s : Socket) {j : QJsonObject} (h : Inert j) :
    Still a (a.sendJson s j) := by
  unfold sendJson
  split
  · refine still_trace a fun s' j' he => ?_
    cases he
    exact h
  · exact Still.refl a

theorem still_writeJson (a : Agent) (s : Socket) {j : QJsonObject} (h : Inert j) :
    Still a (a.writeJson s j) := by
  unfold writeJson
  split
  · refine still_trace a fun s' j' he => ?_
    cases he
    exact h
  · exact Still.refl a

theorem still_foldl {α : Type} {f : Agent → α → Agent} :
    ∀ (l : List α) (_ : ∀ a, ∀ x ∈ l, Still a (f a x)) (a : Agent), Still a (l.foldl f a)
  | [], _, a => Still.refl a
  | x :: l, h, a => (h a x List.mem_cons_self).trans
      (still_foldl l (fun a y hy => h a y (List.mem_cons_of_mem _ hy)) (f a x))

theorem still_sendEach (a : Agent) (l : List Socket) {j : QJsonObject} (h : Inert j) :
    Still a (a.sendEach l j) := by
  refine still_foldl l (fun a s _ => ?_) a
  split
  · exact still_sendJson a s h
  · exact Still.refl a

theorem still_sendAll (a : Agent) (s : Socket) {l : List QJsonObject} (h : ∀ j ∈ l, Inert j) :
    Still a (a.sendAll s l) :=
  still_foldl l (fun a j hj => still_sendJson a s (h j hj)) a

theorem still_push (a : Agent) {e : QJsonObject} (h : Inert e) : Still a (a.push e) := by
  unfold push
  split
  · split
    · split
      · exact still_sendJson a _ h
      · exact Still.refl a
    · exact Still.refl a
  · exact still_sendEach a _ h

theorem still_route (a : Agent) {e : QJsonObject} (h : Inert e) : Still a (a.route e) := by
  have hp := still_push a h
  simp only [route]
  set q := (a.push e).eventQueue.enqueue e
  refine hp.trans ?_
  have hdrain : (a.push e).eventQueue.AllInert →
      (∀ d ∈ q.drainToWaiters.1, Inert d.2) ∧ q.drainToWaiters.2.AllInert :=
    fun hq => (hq.enqueue h).drainToWaiters
  have hframe := foldl_eq (fun a (d : Socket × QJsonObject) => sendJson_eq a d.1 d.2)
    q.drainToWaiters.1 ((a.push e).setQueue q.drainToWaiters.2)
  refine ⟨by rw [hframe, setQueue], by rw [hframe, setQueue], by rw [hframe, setQueue],
    by rw [hframe, setQueue], fun hq => ?_⟩
  obtain ⟨hi, hq'⟩ := hdrain hq
  -- the deliveries are inert since the queue was
  obtain ⟨-, os, hl, ho⟩ := (still_foldl q.drainToWaiters.1
    (fun a d hd => still_sendJson a d.1 (hi d hd))
      ((a.push e).setQueue q.drainToWaiters.2)).talk hq'
  rw [setQueue_log] at hl
  exact ⟨by rwa [hframe, setQueue], os, hl, ho⟩

theorem still_emitSessionEvent (a : Agent) {e : QJsonObject} (h : Inert e) :
    Still a (a.emitSessionEvent e) := by
  refine (still_trace a (o := .emitted e) fun s j he => ?_).trans (still_route _ h)
  cases he

variable (W : World)

theorem still_ensureFallbackUiRunning (a : Agent) (reason : String) :
    Still a (a.ensureFallbackUiRunning W reason) := by
  simp only [ensureFallbackUiRunning]
  refine (still_trace a (o := .ensureFallbackUiRunning reason a.providerRegistry a.sessionStore)
    fun s j he => ?_).trans ?_
  · cases he
  · split
    · exact Still.refl _
    · split
      · exact still_ticked _
      · split
        · exact still_ticked _
        · split
          · exact ⟨rfl, rfl, rfl, Nat.le_succ _, fun h => ⟨h, [], by simp, by simp⟩⟩
          · exact still_ticked _

/-! ## Electing and telling -/

/-- **A move on the provider side.** -/
inductive Talk (a b : Agent) : Prop
  | still (h : Still a b)
  | elected (h : b = a.recomputeAndEmit W)

/-- A chain of them. -/
abbrev Talks : Agent → Agent → Prop := Relation.ReflTransGen (Talk W)

variable {W}

theorem Still.talks (h : Still a b) : Talks W a b := .single (.still h)

theorem talks_recomputeAndEmit (a : Agent) : Talks W a (a.recomputeAndEmit W) :=
  .single (.elected rfl)

variable (W)

theorem talks_createSession (a : Agent) (id : String) (source : Session.Source)
    (ctx : Session.Context) : Talks W a (a.createSession W id source ctx).2 := by
  unfold createSession
  cases h : a.sessionStore.createSession id source ctx with
  | none => exact .refl
  | some r =>
      obtain ⟨e, store⟩ := r
      have hs := (still_setStore a store).trans
        (still_emitSessionEvent _ (inert_of_createSession h))
      have hlaunch := hs.trans (still_ensureFallbackUiRunning W _ "session-created")
      dsimp only
      split <;> dsimp only
      · exact hlaunch.talks
      · exact hs.talks

theorem talks_emitUpdate (a : Agent) (id : String) (f : Session → Session) :
    Talks W a (a.emitUpdate (a.sessionStore.update id f)) := by
  unfold emitUpdate
  cases h : a.sessionStore.update id f with
  | none => exact .refl
  | some r =>
      obtain ⟨e, store⟩ := r
      exact ((still_setStore a store).trans
        (still_emitSessionEvent _ (inert_of_update h))).talks

theorem talks_closeSession (a : Agent) (id : String) (r : Session.Result) :
    Talks W a (a.closeSession W id r).2 := by
  unfold closeSession
  cases h : a.sessionStore.closeSession id r with
  | none => exact .refl
  | some q =>
      obtain ⟨e, store⟩ := q
      have he := inert_of_closeSession h
      simp only [Bool.not_false, if_true]
      split
      · exact ((still_setStore a store).talks.trans (talks_recomputeAndEmit _)).tail
          (.still (still_emitSessionEvent _ he))
      · exact (still_setStore a store).talks.tail (.still (still_emitSessionEvent _ he))

theorem talks_onSessionComplete (a : Agent) (id : String) (success : Bool) :
    Talks W a (a.onSessionComplete W id success) := by
  unfold onSessionComplete
  cases h : a.sessionStore.closeSession id (if success then .success else .cancelled) with
  | none => exact .refl
  | some q =>
      obtain ⟨e, store⟩ := q
      have hs : Talks W a ((a.setStore store).emitSessionEvent e) :=
        ((still_setStore a store).trans
          (still_emitSessionEvent _ (inert_of_closeSession h))).talks
      dsimp only
      split
      · exact hs.trans (talks_recomputeAndEmit _)
      · exact hs

/-- **A call of a service is a chain of moves on the provider side.** -/
theorem Call.talks {S : Set Output} (h : Call W S a b) : Talks W a b := by
  cases h with
  | ticked => exact (still_ticked a).talks
  | trace o ho =>
      refine (still_trace a fun s j he => ?_).talks
      rw [he] at ho
      cases ho
  | collision socket hs => exact (still_writeJson a socket inert_collisionError).talks
  | create id source ctx => exact talks_createSession W a id source ctx
  | update id f hf => exact talks_emitUpdate W a id f
  | retryPrompt id s h cur max prompt echo clearError =>
      exact (still_setStore a _).talks.trans (talks_emitUpdate W _ id _)
  | close id r => exact talks_closeSession W a id r
  | complete id success => exact talks_onSessionComplete W a id success

theorem Calls.talks {S : Set Output} (h : Calls W S a b) : Talks W a b := by
  induction h with
  | refl => exact .refl
  | tail _ hstep ih => exact ih.trans (hstep.talks W)

end Agent

end BbAuth
