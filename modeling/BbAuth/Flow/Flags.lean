import BbAuth.Flow.Speech
import BbAuth.Flow.Step
/-!
# The flags a UI is told, and the flags it is answered for

Whether a pinentry prompt asks for a passphrase or for a mere
confirmation, and whether the passphrase is to be repeated, a UI reads off
the context in the `session.created` event. The daemon answers by the
flags of the pending request. The context is made from the request that
creates the session and keeps its flags; a later request under the same
cookie takes the place of the pending one whatever its flags are.

So the two agree along a run that accepts, for an open pinentry session,
only requests with the flags of the session; and that hands out no
`session.created` event of an earlier session under the same id, which the
queue may still hold.
-/

namespace BbAuth

/-- The flags of a session: confirm only, and repeat. -/
def Session.flags (s : Session) : Bool × Bool := (s.context.confirmOnly, s.context.repeats)

/-- The flags of a pinentry request. -/
def PinentryRequest.flags (r : PinentryRequest) : Bool × Bool := (r.confirmOnly, r.repeats)

/-- The message creates the session `c`. -/
def isCreation (c : String) (j : QJsonObject) : Bool :=
  (j.value "type").toString = "session.created" && (j.value "id").toString = c

/-- The flags a message shows for the session `c`. -/
def shownFlags (c : String) (j : QJsonObject) : Option (Bool × Bool) :=
  if isCreation c j then
    match (j.value "context").toObject.value "confirmOnly",
        (j.value "context").toObject.value "repeat" with
    | .bool confirmOnly, .bool repeats => some (confirmOnly, repeats)
    | _, _ => none
  else none

/-- What has been told of the flags after an output: nothing yet when the
session is new. -/
def Output.tell (c : String) (told : Option (Bool × Bool)) : Output → Option (Bool × Bool)
  | .emitted e => if isCreation c e then none else told
  | .sent _ j => (shownFlags c j).or told
  | _ => told

/-- **The flags most recently sent** for the session `c`, since it was
created. -/
def Agent.toldFlags (a : Agent) (c : String) : Option (Bool × Bool) :=
  a.log.foldl (Output.tell c) none

/-! ## Which messages show flags -/

theorem Session.flags_of_touch {s s' : Session} (h : s.Touch s') : s'.flags = s.flags := by
  obtain ⟨cur, max, hc⟩ := h.context
  simp [Session.flags, hc]

variable {c : String} {f : Bool × Bool}

theorem isCreation_created (s : Session) : isCreation c s.toCreatedEvent = decide (s.id = c) := by
  simp [isCreation]

theorem shownFlags_of_type {j : QJsonObject} (h : (j.value "type").toString ≠ "session.created") :
    shownFlags c j = none := by
  simp [shownFlags, isCreation, h]

/-- **A created event shows the flags of a pinentry session.** -/
theorem shownFlags_created (s : Session) :
    shownFlags c s.toCreatedEvent =
      if s.id = c ∧ s.source = .pinentry then some s.flags else none := by
  by_cases hid : s.id = c
  · have hctx : (s.toCreatedEvent.value "context").toObject = s.contextToJson := by
      simp [Session.toCreatedEvent, QJsonValue.toObject]
    rw [shownFlags, isCreation_created, hctx]
    cases hs : s.source <;> simp [Session.contextToJson, hs, hid, Session.flags]
  · simp [shownFlags, isCreation_created, hid]

/-! ## Telling -/

namespace EventQueue

/-- **Nobody waits while something is queued.** -/
def Idle (q : EventQueue) : Prop := q.nextWaiters = [] ∨ q.eventQueue = []

/-- An idle queue hands out no event but the one that comes. -/
theorem Idle.drainToWaiters {q : EventQueue} (h : q.Idle) (e : QJsonObject) :
    (q.enqueue e).drainToWaiters.2.Idle ∧ ∀ d ∈ (q.enqueue e).drainToWaiters.1, d.2 = e := by
  rcases h with hw | hq
  · have hw' : (q.enqueue e).nextWaiters = [] := hw
    simp only [EventQueue.drainToWaiters, hw', drain]
    exact ⟨.inl rfl, by simp⟩
  · have hq' : (q.enqueue e).eventQueue = [e] := by simp [enqueue, hq]
    simp only [EventQueue.drainToWaiters, hq']
    cases (q.enqueue e).nextWaiters with
    | nil => exact ⟨.inl rfl, by simp [drain]⟩
    | cons w waiters =>
        have hd : drain waiters [] = ([], waiters, []) := by cases waiters <;> rfl
        exact ⟨.inr (by simp [drain, hd]), by simp [drain, hd]⟩

theorem Idle.edit {t : Socket → Prop} {q q' : EventQueue} (h : q.Idle)
    (he : Agent.QueueEdit t q q') : q'.Idle := by
  cases he with
  | same => exact h
  | left s =>
      refine h.imp (fun hw => ?_) id
      simp [removeWaiter, hw]
  | waits s hs hq => exact .inr hq
  | taken e rest hq =>
      refine .inl (h.resolve_right fun hq' => ?_)
      rw [hq] at hq'
      cases hq'

end EventQueue

/-- **The policy that for `c` no flags but `f` are shown.** -/
def flagged (c : String) (f : Bool × Bool) : Policy where
  queue := EventQueue.Idle
  event e := ∀ g, shownFlags c e = some g → g = f
  output o := ∀ s j g, o = .sent s j → shownFlags c j = some g → g = f
  emitted e h s j g ho := nomatch ho
  sent e s h _ s' j g ho hg := by
    cases ho
    exact h g hg
  drained q e hq h := by
    obtain ⟨hidle, hsent⟩ := hq.drainToWaiters e
    refine ⟨hidle, fun d hd s j g ho hg => ?_⟩
    cases ho
    rw [hsent d hd] at hg
    exact h g hg
  status s a _ s' j g ho hg := by
    cases ho
    have ht : (a.providerStatus.value "type").toString = "ui.active" := by
      unfold Agent.providerStatus
      split <;> simp
    rw [shownFlags_of_type (by rw [ht]; decide)] at hg
    cases hg
  fallback _ _ _ s j g ho := nomatch ho

theorem flagged_of_isPolkit {o : Output} (ho : o.isPolkit = true) : (flagged c f).output o := by
  intro s j g h
  rw [h] at ho
  cases ho

theorem open_flagged : (flagged c f).Open where
  updated s g hg := by
    rw [shownFlags_of_type (by simp)] at hg
    cases hg
  closed s g hg := by
    rw [shownFlags_of_type (by simp)] at hg
    cases hg

theorem flagged_sent {j : QJsonObject} (h : shownFlags c j = none) (s : Socket) :
    (flagged c f).output (.sent s j) := by
  intro s' j' g ho hg
  cases ho
  rw [h] at hg
  cases hg

namespace Agent

variable {W : World} {a b : Agent} {t : Socket → Prop} {K : Output → Prop}

theorem kept_flagged (h : a.eventQueue.Idle) : Kept (flagged c f) a :=
  ⟨fun _ _ => trivial, fun _ _ => trivial, fun _ _ => trivial, h⟩

theorem tell_flagged {told : Option (Bool × Bool)} {o : Output} (ho : (flagged c f).output o)
    (ht : ∀ g, told = some g → g = f) : ∀ g, o.tell c told = some g → g = f := by
  intro g hg
  cases o with
  | emitted e =>
      simp only [Output.tell] at hg
      split at hg
      · cases hg
      · exact ht g hg
  | sent s j =>
      rcases Option.or_eq_some_iff.1 hg with hg | ⟨-, hg⟩
      · exact ho s j g rfl hg
      · exact ht g hg
  | ensureFallbackUiRunning reason registry store => exact ht g hg
  | submitPassword cookie pass => exact ht g hg
  | initiate session => exact ht g hg
  | setResponse session response => exact ht g hg
  | cancel session => exact ht g hg

theorem foldl_tell_flagged : ∀ (os : List Output) (told : Option (Bool × Bool))
    (_ : ∀ o ∈ os, (flagged c f).output o) (_ : ∀ g, told = some g → g = f) (g : Bool × Bool),
    os.foldl (Output.tell c) told = some g → g = f
  | [], _, _, ht, g, hg => ht g hg
  | o :: os, _, ho, ht, g, hg =>
      foldl_tell_flagged os _ (fun o' h => ho o' (List.mem_cons_of_mem _ h))
        (tell_flagged (ho o List.mem_cons_self) ht) g hg

/-- What was told stays true while the policy is obeyed. -/
theorem Obeys.toldFlags (h : Obeys (flagged c f) a b) (hk : a.eventQueue.Idle)
    (ht : ∀ g, a.toldFlags c = some g → g = f) : ∀ g, b.toldFlags c = some g → g = f := by
  obtain ⟨-, os, hl, ho⟩ := h (kept_flagged hk)
  intro g hg
  rw [Agent.toldFlags, hl, List.foldl_append] at hg
  exact foldl_tell_flagged os _ ho ht g hg

/-- Where the session is created, nothing told before counts. -/
theorem Obeys.toldFlags_of_creation (h : Obeys (flagged c f) a b) (hk : a.eventQueue.Idle)
    {e : QJsonObject} (he : b.events = a.events ++ [e]) (hc : isCreation c e = true) :
    ∀ g, b.toldFlags c = some g → g = f := by
  obtain ⟨-, os, hl, ho⟩ := h (kept_flagged hk)
  have hmem : Output.emitted e ∈ os := by
    have hev : os.filterMap Output.event? = [e] := by
      rw [Agent.events, hl, List.filterMap_append] at he
      exact List.append_cancel_left he
    have hin : e ∈ os.filterMap Output.event? := by simp [hev]
    obtain ⟨o, hmem, ho⟩ := List.mem_filterMap.1 hin
    cases o with
    | emitted e' =>
        obtain rfl : e' = e := Option.some.inj ho
        exact hmem
    | _ => cases ho
  obtain ⟨os₁, os₂, rfl⟩ := List.append_of_mem hmem
  intro g hg
  rw [Agent.toldFlags, hl, List.foldl_append, List.foldl_append, List.foldl_cons] at hg
  refine foldl_tell_flagged os₂ _ (fun o h => ho o (by simp [h])) (fun g' hg' => ?_) g hg
  simp [Output.tell, hc] at hg'

/-- **The open pinentry session `c` is shown with its own flags**, and the
queue is idle. -/
structure Shows (c : String) (a : Agent) : Prop where
  idle : a.eventQueue.Idle
  told : ∀ s, a.getSession c = some s → s.source = .pinentry →
    ∀ g, a.toldFlags c = some g → g = s.flags

/-- What leaves the sessions alone and shows no flags but theirs. -/
theorem Shows.of_obeys (h : Shows c a) (hs : b.sessionStore = a.sessionStore)
    (hi : b.eventQueue.Idle)
    (ho : ∀ s, a.getSession c = some s → s.source = .pinentry → Obeys (flagged c s.flags) a b) :
    Shows c b where
  idle := hi
  told s hs' hp := by
    have hs' : a.getSession c = some s := by rwa [getSession, ← hs]
    exact (ho s hs' hp).toldFlags h.idle (h.told s hs' hp)

/-- The same for what obeys whatever the flags are. -/
theorem Shows.of_obeys_all (h : Shows c a) (hs : b.sessionStore = a.sessionStore)
    (ho : ∀ f, Obeys (flagged c f) a b) : Shows c b :=
  h.of_obeys hs (ho (false, false) (kept_flagged h.idle)).1.queue fun s _ _ => ho s.flags

/-- **A call of a service keeps the flags told true.** -/
theorem Call.shows {S : Set Output} (h : Call W S a b)
    (hS : ∀ o ∈ S, ∀ f, (flagged c f).output o) (hs : Shows c a) : Shows c b := by
  by_cases hcr : a.getSession c = none ∧ ∃ source ctx, b = (a.createSession W c source ctx).2
  · -- the session is new: whatever was told is of an earlier one
    obtain ⟨hn, source, ctx, rfl⟩ := hcr
    have he := (createSession_of_none W a c hn source ctx).2
    have ho : Obeys (flagged c (newSession c source ctx).flags) a
        (a.createSession W c source ctx).2 := by
      refine obeys_createSession a c source ctx fun _ g hg => ?_
      rw [shownFlags_created] at hg
      split at hg
      · exact (Option.some.inj hg).symm
      · cases hg
    refine ⟨(ho (kept_flagged hs.idle)).1.queue, fun s hs' hp => ?_⟩
    have hnew : (a.createSession W c source ctx).2.getSession c =
        some (newSession c source ctx) := by
      simp [getSession, SessionStore.getSession, he.sessions]
    obtain rfl := Option.some.inj (hnew.symm.trans hs')
    refine ho.toldFlags_of_creation hs.idle he.events ?_
    rw [isCreation_created]
    exact decide_eq_true rfl
  · have ho : ∀ f, Obeys (flagged c f) a b := by
      intro f
      refine h.obeys open_flagged (fun o ho => hS o ho f) fun id source ctx hb hn g hg => ?_
      rw [shownFlags_created] at hg
      split at hg
      next hid =>
        obtain rfl : id = c := hid.1
        exact absurd ⟨hn, source, ctx, hb⟩ hcr
      · cases hg
    refine ⟨(ho (false, false) (kept_flagged hs.idle)).1.queue, fun s' hs' hp => ?_⟩
    rcases h.session W hs' with ⟨s, hsa, ht⟩ | ⟨hn, source, ctx, hb, -⟩
    · rw [Session.flags_of_touch ht]
      exact (ho s.flags).toldFlags hs.idle (hs.told s hsa (ht.source ▸ hp))
    · exact absurd ⟨hn, source, ctx, hb⟩ hcr

theorem Edits.shows (h : Edits t a b) (hs : Shows c a) : Shows c b where
  idle := hs.idle.edit h.queue
  told s hs' hp := by
    have hs' : a.getSession c = some s := by rwa [getSession, ← h.sessionStore]
    rw [Agent.toldFlags, h.log]
    exact hs.told s hs' hp

/-- **Acts that reply without flags keep them true.** -/
theorem Acts.shows (h : Acts W t K a b) (hK : ∀ o, K o → ∀ f, (flagged c f).output o)
    (hs : Shows c a) : Shows c b := by
  induction h with
  | refl => exact hs
  | @tail a b _ hact ih =>
      cases hact with
      | call hcall hS => exact hcall.shows (fun o ho => hK o (hS o ho)) ih
      | reply s j hj =>
          exact ih.of_obeys_all (sendJson_sessionStore a s j)
            fun f => obeys_sendJson a (hK _ hj f)
      | edit he => exact he.shows ih
      | elected => exact ih.of_obeys_all rfl fun f => obeys_recomputeActiveProvider a
      | status =>
          exact ih.of_obeys_all (emitProviderStatus_sessionStore W a)
            fun f => obeys_emitProviderStatus a
      | summons reason =>
          exact ih.of_obeys_all (quiet_ensureFallbackUiRunning W a reason).sessionStore
            fun f => obeys_ensureFallbackUiRunning a reason

end Agent

open Agent

namespace Daemon

variable {W : World} {d : Daemon} {i : Input} {socket : Socket} {msg : QJsonObject}

/-! ## The steps that keep the flags -/

/-- An accepted request for the open pinentry session `c` has the flags of
the session. -/
def KeepsFlags (W : World) (c : String) (d : Daemon) (socket : Socket) (msg : QJsonObject) : Prop :=
  (d.pinentryRequestOf W socket msg).cookie = c →
    (∀ owner ∈ (d.flow c).owner, owner = d.agent.getPeerPid socket) →
      ∀ s ∈ d.agent.getSession c, s.source = .pinentry →
        s.flags = (d.pinentryRequestOf W socket msg).flags

/-- The event at the head of the queue shows no flags for the open
pinentry session `c` but its own. -/
def HandsOutFlags (c : String) (d : Daemon) : Prop :=
  ∀ e ∈ d.agent.eventQueue.eventQueue.head?, ∀ s ∈ d.agent.getSession c,
    s.source = .pinentry → ∀ f ∈ shownFlags c e, f = s.flags

/-- **The input leaves the flags of `c` steady.** -/
def Steady (W : World) (c : String) (d : Daemon) (i : Input) : Prop :=
  match d.message? i with
  | some (.pinentryRequest, socket, msg) => KeepsFlags W c d socket msg
  | some (.next, _, _) => HandsOutFlags c d
  | _ => True

instance (socket : Socket) (msg : QJsonObject) : Decidable (KeepsFlags W c d socket msg) :=
  inferInstanceAs (Decidable (_ → (∀ owner ∈ (d.flow c).owner, _) →
    ∀ s ∈ d.agent.getSession c, _ → _))

instance : Decidable (HandsOutFlags c d) :=
  inferInstanceAs (Decidable (∀ e ∈ d.agent.eventQueue.eventQueue.head?,
    ∀ s ∈ d.agent.getSession c, _ → ∀ f ∈ shownFlags c e, _))

instance : Decidable (Steady W c d i) := by
  unfold Steady
  split <;> infer_instance

theorem Steady.keepsFlags (h : Steady W c d i)
    (hm : d.message? i = some (.pinentryRequest, socket, msg)) : KeepsFlags W c d socket msg := by
  rwa [Steady, hm] at h

theorem Steady.handsOutFlags (h : Steady W c d i)
    (hm : d.message? i = some (.next, socket, msg)) : HandsOutFlags c d := by
  rwa [Steady, hm] at h

/-- The next event is handed out. -/
theorem shows_handleNext (hs : Shows c d.agent) (h : HandsOutFlags c d) :
    Shows c (d.handleNext socket).agent := by
  rcases handleNext_cases d socket with ⟨hq, heq⟩ | ⟨e, rest, hq, heq⟩
  · have hwaits : Edits (fun _ => True) d.agent
        (d.agent.setQueue (d.agent.eventQueue.subscribeNext socket)) :=
      .of_eq rfl rfl rfl rfl (.waits socket trivial hq)
    rw [heq]
    exact hwaits.shows hs
  · have htaken : Edits (fun _ => True) d.agent
        (d.agent.setQueue { d.agent.eventQueue with eventQueue := rest }) :=
      .of_eq rfl rfl rfl rfl (.taken e rest hq)
    have hset := htaken.shows hs
    rw [heq]
    refine hset.of_obeys (sendJson_sessionStore _ socket e) ?_ fun s hsess hp =>
      obeys_sendJson _ fun s' j g ho hg => ?_
    · rw [sendJson_eventQueue]
      exact hset.idle
    · cases ho
      exact h e (by rw [hq]; rfl) s hsess hp g hg

/-- A subscriber is replayed the sessions as they are. -/
theorem shows_handleSubscribe (hs : Shows c d.agent) :
    Shows c (d.handleSubscribe W socket).agent := by
  have hsub : Shows c (d.agent.subscribe socket).ticked :=
    (edits_subscribe (t := fun _ => True) d.agent trivial).shows hs
  have hreplayed : Shows c (replayed W d.agent socket) := by
    unfold replayed
    dsimp only
    split
    · have hall := fun (l : List QJsonObject) => sendAll_eq (d.agent.subscribe socket).ticked socket l
      refine hsub.of_obeys (by rw [hall]) (by rw [hall]; exact hsub.idle) fun s hsess hp => ?_
      refine obeys_foldl _ (fun a j hj => obeys_sendJson a fun s' j' g ho hg => ?_) _
      cases ho
      -- only the created event of the session `c` itself shows flags for it
      obtain ⟨id, session, hid, rfl | rfl⟩ := mem_replayed hj
      · rw [shownFlags_created] at hg
        split at hg
        next hc =>
          have hs' : (d.agent.subscribe socket).ticked.getSession id = some session := by
            rw [subscribe_eq]
            exact hid
          have hkey : session.id = id := d.agent.sessionStore.keyed id session hid
          rw [← hkey, hc.1] at hs'
          obtain rfl := Option.some.inj (hs'.symm.trans hsess)
          exact (Option.some.inj hg).symm
        · cases hg
      · rw [shownFlags_of_type (by simp)] at hg
        cases hg
    · exact hsub
  rw [handleSubscribe_agent]
  refine hreplayed.of_obeys_all (sendJson_sessionStore _ _ _) fun f => obeys_sendJson _ ?_
  exact flagged_sent (shownFlags_of_type (by simp [subscribedReply])) socket

/-- **A steady step keeps the flags told true.** -/
theorem shows_step (hs : Shows c d.agent) (h : Steady W c d i) : Shows c (d.step W i).agent := by
  by_cases hnext : ∃ socket msg, d.message? i = some (.next, socket, msg)
  · obtain ⟨socket, msg, hm⟩ := hnext
    rw [step_of_message hm]
    exact shows_handleNext hs (h.handsOutFlags hm)
  by_cases hsub : ∃ socket msg, d.message? i = some (.subscribe, socket, msg)
  · obtain ⟨socket, msg, hm⟩ := hsub
    rw [step_of_message hm]
    exact shows_handleSubscribe hs
  refine Acts.shows (acts_step W d i) (fun o ho f => ?_) hs
  cases ho with
  | attempt h => exact flagged_of_isPolkit (isPolkit_of_attempting h)
  | submitted hcall h => exact flagged_of_isPolkit (isPolkit_of_submission h)
  | @reply s j hj =>
  refine flagged_sent (shownFlags_of_type ?_) s
  cases hj with
  | plain hc hp =>
      intro ht
      rw [Plain, ht] at hp
      simp at hp
  | replayed hm hsess hj => exact absurd ⟨_, _, hm⟩ hsub
  | next hm hq => exact absurd ⟨_, _, hm⟩ hnext
  | keyring hd hr ht => simp [ht]
  | pinentry hd hk hr ht => simp [ht]

/-! ## The request and the session -/

/-- **The session of an accepted request that creates it has its flags.** -/
theorem flags_acceptRequest (pm : PinentryManager) (a : Agent) (request : PinentryRequest)
    (hn : a.getSession request.cookie = none) {s : Session}
    (hs : (pm.acceptRequest W a request).2.getSession request.cookie = some s) :
    s.flags = request.flags := by
  simp only [PinentryManager.acceptRequest, hn, Option.isSome_none] at hs
  generalize PinentryManager.resolveRetryInfo _ request = resolved at hs
  obtain ⟨counters, pm₁⟩ := resolved
  have hex := PinentryManager.isSome_leaveAwaiting a pm₁ request
  rw [hn, Option.isSome_none] at hex
  generalize pm₁.leaveAwaiting a request = left at hs hex
  obtain ⟨pm₂, a₂⟩ := left
  have hn₂ : a₂.getSession request.cookie = none := by simpa using hex
  simp only [PinentryManager.openSession, Bool.not_false, if_true] at hs
  generalize hctx : Session.Context.mk _ _ _ _ _ _ _ _ _ _ _ _ = ctx at hs
  have hflags : (newSession request.cookie .pinentry ctx).flags = request.flags := by
    rw [← hctx]
    rfl
  obtain ⟨htrue, hemits⟩ := createSession_of_none W a₂.ticked request.cookie hn₂ .pinentry ctx
  have hnew : (a₂.ticked.createSession W request.cookie .pinentry ctx).2.getSession request.cookie =
      some (newSession request.cookie .pinentry ctx) := by
    simp [getSession, SessionStore.getSession, hemits.sessions]
  rw [htrue] at hs
  simp only [Bool.not_true, Bool.false_eq_true, if_false] at hs
  generalize (a₂.ticked.createSession W request.cookie .pinentry ctx).2 = m at hnew hs
  -- the prompt, and the error after it, only touch the session
  have hcalls := PinentryManager.calls_showPrompt W { pm₂ with
      pendingRequests := pm₂.pendingRequests.insert request.cookie request }
    (Agent.calls_updateSessionPrompt W m request.cookie request.prompt false false)
  obtain ⟨s', hs', ht⟩ := Moves.touch (Calls.moves W hcalls) hnew
    (by rw [PinentryManager.life_showPrompt])
  obtain rfl : s' = s := Option.some.inj (hs'.symm.trans hs)
  rw [Session.flags_of_touch ht, hflags]

/-- A request that is accepted for a free id creates a session with its
flags. -/
theorem flags_pinentryRequest (hm : d.message? i = some (.pinentryRequest, socket, msg))
    (hc : (d.pinentryRequestOf W socket msg).cookie = c)
    (ho : ∀ owner, (d.flow c).owner = some owner → owner = d.agent.getPeerPid socket)
    (hn : d.agent.getSession c = none) {s : Session}
    (hs : (d.step W i).agent.getSession c = some s) :
    s.flags = (d.pinentryRequestOf W socket msg).flags := by
  subst hc
  rw [step_of_message hm] at hs
  simp only [dispatch, handlePinentryRequest, PinentryManager.handleRequest] at hs
  rw [if_neg (c := (_ && _) = true)] at hs
  · refine flags_acceptRequest d.pinentryManager _ (d.pinentryRequestOf W socket msg) ?_ hs
    split
    · exact hn
    · exact hn
  · intro hrefused
    simp only [Bool.and_eq_true, Table.contains_eq_true, decide_eq_true_eq] at hrefused
    obtain ⟨owner, hown⟩ := Table.mem_iff_exists.1 hrefused.1
    refine hrefused.2 ?_
    rw [hown, ho owner hown]

/-- **What a pinentry session after a step says of it**: it was open, and
has not been closed; or a request has just created it. -/
theorem FlowStep.pinentry {f : Flow} (h : FlowStep W d c i f)
    (hf : f.life.source = some .pinentry) :
    (f.life = (d.flow c).life ∧ (f.pending = none ∨ f.pending = (d.flow c).pending)) ∨
      ∃ socket msg, d.message? i = some (.pinentryRequest, socket, msg) ∧
        (d.pinentryRequestOf W socket msg).cookie = c ∧
        (∀ owner, (d.flow c).owner = some owner → owner = d.agent.getPeerPid socket) ∧
        f.pending = some (d.pinentryRequestOf W socket msg) ∧
        f.life = (d.flow c).life.opened .pinentry := by
  have hopened : ∀ source : Session.Source, source ≠ .pinentry →
      ((d.flow c).life.opened source).source = some .pinentry →
      (d.flow c).life.opened source = (d.flow c).life := by
    intro source hne ho
    unfold Life.opened at ho ⊢
    split at ho
    · exact absurd (Option.some.inj ho) hne
    next hn => rw [if_neg hn]
  have hclosed : ∀ (g : Flow) r, (g.pinentryClosed r).life.source ≠ some .pinentry := by
    intro g r h
    simp only [Flow.pinentryClosed] at h
    split at h
    · rw [Life.closed_source] at h
      cases h
    · contradiction
  cases h with
  | stay => exact .inl ⟨rfl, .inr rfl⟩
  | keyringRequest socket msg hm hc =>
      exact .inl ⟨hopened .keyring (by decide) hf, .inr rfl⟩
  | keyringEnd r hk => simp [Flow.keyringClosed] at hf
  | pinentryRequest socket msg hm hc ho => exact .inr ⟨socket, msg, hm, hc, ho, rfl, rfl⟩
  | pinentryAnswer socket msg hm ha hc hk r hp => exact .inl ⟨rfl, .inl rfl⟩
  | pinentryResult socket msg hm hc ho hs r hr => exact absurd hf (hclosed _ r)
  | pinentryRetry socket msg hm hc ho hs hr => exact .inl ⟨rfl, .inr rfl⟩
  | pinentryEnd r hr => exact absurd hf (hclosed _ r)
  | disconnected socket hi =>
      -- whatever leaves with the client leaves no pinentry session behind
      have hp : ∀ g : Flow, (g.pinentryLeft socket).life.source = some .pinentry →
          g.pinentryLeft socket = g := by
        intro g hg
        unfold Flow.pinentryLeft at hg ⊢
        split at hg
        · exact absurd hg (hclosed g _)
        next hs => rw [if_neg hs]
      have hk : ((d.flow c).keyringLeft socket).life.source = some .pinentry →
          (d.flow c).keyringLeft socket = d.flow c := by
        intro hg
        unfold Flow.keyringLeft at hg ⊢
        split at hg
        · simp [Flow.keyringClosed] at hg
        next hs => rw [if_neg hs]
      have hleft := hp _ hf
      rw [hleft] at hf ⊢
      rw [hk hf]
      exact .inl ⟨rfl, .inr rfl⟩
  | polkitRequest hs => exact .inl ⟨hopened .polkit (by decide) hf, .inr rfl⟩
  | polkitEnd r hp => simp [Flow.polkitClosed] at hf

/-! ## Runs -/

/-- **The open pinentry session `c` is shown with its own flags, and its
pending request has the same.** -/
structure Truthful (c : String) (d : Daemon) : Prop where
  shows : Shows c d.agent
  request : ∀ s r, d.agent.getSession c = some s → s.source = .pinentry →
    d.pinentryManager.pendingRequests.lookup c = some r → r.flags = s.flags

theorem Truthful.step (h : Truthful c d) (hh : d.Heaped) (hs : Steady W c d i) :
    Truthful c (d.step W i) where
  shows := shows_step h.shows hs
  request s' r hs' hp hr := by
    have hsource : ((d.step W i).flow c).life.source = some .pinentry := by
      simp [flow, Agent.life, hs', hp]
    -- a session that was open before the step has been touched at most
    have htouch : ∀ s, d.agent.getSession c = some s →
        ((d.step W i).flow c).life = (d.flow c).life → s'.flags = s.flags ∧ s.source = .pinentry := by
      intro s hsess hlife
      have hcl : ((d.step W i).agent.life c).closings = (d.agent.life c).closings :=
        congrArg Life.closings hlife
      obtain ⟨s'', hs'', ht⟩ := Moves.touch (moves_step W d i) hsess hcl
      obtain rfl : s'' = s' := Option.some.inj (hs''.symm.trans hs')
      exact ⟨Session.flags_of_touch ht, ht.source ▸ hp⟩
    rcases (flowStep W c hh i).pinentry hsource with
      ⟨hlife, hpend⟩ | ⟨socket, msg, hm, hc, ho, hpend, hlife⟩
    · obtain ⟨s, hsess⟩ : ∃ s, d.agent.getSession c = some s := by
        rw [hlife] at hsource
        obtain ⟨s, hsess, -⟩ := Option.map_eq_some_iff.1 hsource
        exact ⟨s, hsess⟩
      obtain ⟨hflags, hsp⟩ := htouch s hsess hlife
      have hr' : ((d.step W i).flow c).pending = some r := hr
      rcases hpend with hpend | hpend
      · rw [hpend] at hr'
        cases hr'
      · rw [hflags]
        exact h.request s r hsess hsp (hpend.symm.trans hr')
    · obtain rfl : r = d.pinentryRequestOf W socket msg :=
        Option.some.inj (hr.symm.trans hpend)
      cases hsess : d.agent.getSession c with
      | none => exact (flags_pinentryRequest hm hc ho hsess hs').symm
      | some s =>
          have hopen : (d.flow c).life.source = some s.source := by simp [flow, Agent.life, hsess]
          rw [Life.opened_of_some hopen] at hlife
          obtain ⟨hflags, hsp⟩ := htouch s hsess hlife
          rw [hflags]
          exact (hs.keepsFlags hm hc ho s hsess hsp).symm

/-- **What the UI is told of the flow `c` is what will be answered.** -/
def ToldAsAnswered (d : Daemon) (c : String) : Prop :=
  ∀ s r f, d.agent.getSession c = some s → s.source = .pinentry →
    d.pinentryManager.pendingRequests.lookup c = some r →
      d.agent.toldFlags c = some f → f = r.flags

/-- **Along a steady run the UI is told the flags that are answered for.** -/
theorem toldAsAnswered_of_steady {ins : List Input} (hm : (machine W).Meets (Steady W c) ins) :
    ToldAsAnswered ((machine W).run ins) c := by
  have h : ∀ ins, (machine W).Meets (Steady W c) ins → Truthful c ((machine W).run ins) := by
    intro ins
    induction ins using List.reverseRecOn with
    | nil =>
        intro _
        refine ⟨⟨.inl rfl, fun s hs => ?_⟩, fun s r hs => ?_⟩
        · simp [machine, getSession, SessionStore.getSession] at hs
        · simp [machine, getSession, SessionStore.getSession] at hs
    | append_singleton ins i ih =>
        intro hm
        obtain ⟨hm, hi⟩ := Machine.meets_snoc.1 hm
        rw [Machine.run_snoc]
        exact (ih hm).step (heaped_run W ins) hi
  intro s r f hs hp hr hf
  rw [(h ins hm).shows.told s hs hp f hf, (h ins hm).request s r hs hp hr]

/-- A `CONFIRM` is shown as such to a subscriber. -/
theorem toldAsAnswered_confirm :
    ToldAsAnswered ((machine (.plain (fun _ => 0) false)).run
      [.newConnection 2 200, .line 2 (some [("type", "subscribe")]), .newConnection 1 100,
        .line 1 (some [("type", "pinentry_request"), ("cookie", "c"), ("confirm_only", true)])])
      "c" :=
  toldAsAnswered_of_steady (by decide)

/-- A `CONFIRM` is answered, and a `GETPIN` follows under the same cookie:
the UI has been told to ask for a confirmation, and its answer to the
second prompt will be taken for a passphrase. -/
theorem not_toldAsAnswered :
    ¬ ∀ (W : World) (ins : List Input) (c : String), ToldAsAnswered ((machine W).run ins) c := by
  intro h
  let W := World.plain (fun _ => 0) false
  let ins : List Input :=
    [.newConnection 2 200, .line 2 (some [("type", "subscribe")]), .newConnection 1 100,
      .line 1 (some [("type", "pinentry_request"), ("cookie", "c"), ("confirm_only", true)]),
      .line 2 (some [("type", "session.respond"), ("id", "c"), ("response", "confirm")]),
      .line 1 (some [("type", "pinentry_request"), ("cookie", "c")])]
  have htold : ((machine W).run ins).agent.toldFlags "c" = some (true, false) := by decide
  have hopen : (((machine W).run ins).agent.getSession "c").map Session.source =
      some .pinentry := by decide
  have hpending : (((machine W).run ins).pinentryManager.pendingRequests.lookup "c").map
      PinentryRequest.flags = some (false, false) := by decide
  obtain ⟨s, hs, hp⟩ := Option.map_eq_some_iff.1 hopen
  obtain ⟨r, hr, hf⟩ := Option.map_eq_some_iff.1 hpending
  have heq := h W ins "c" s r (true, false) hs hp hr htold
  rw [hf] at heq
  cases heq

end Daemon

end BbAuth
