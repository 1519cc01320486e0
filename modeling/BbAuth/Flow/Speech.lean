import BbAuth.Agent.Policy
import BbAuth.Flow.Turn
import BbAuth.Provider.Wiring
/-!
# What the handling of an input does to the outside

Every input is handled by calls of the services, by edits that write
nothing, by elections and statuses, and by replies. `Act` is one of these,
`Reply` what may be replied and to whom: to the client the input is from,
except that an answer or a cancellation also replies to the client whose
request it decides. `Says` adds what the listener tells polkit: attempts
are begun and stopped at any time, a password is only handed on by a
response.

So a policy is obeyed by the handling of an input once it lets the client
listen and what is said pass.
-/

namespace BbAuth

/-- The client an input comes from. -/
def Input.client : Input → Option Socket
  | .newConnection socket _ | .closing socket | .line socket _ | .disconnected socket => some socket
  | _ => none

namespace Agent

variable {W : World} {t : Socket → Prop} {K : Output → Prop} {a b c : Agent}

/-- What may happen to the queue without an event: a waiter leaves, one of
`t` waits where nothing is queued, the oldest event is taken. -/
inductive QueueEdit (t : Socket → Prop) (q : EventQueue) : EventQueue → Prop
  | same : QueueEdit t q q
  | left (s : Socket) : QueueEdit t q (q.removeWaiter s)
  | waits (s : Socket) (hs : t s) (hq : q.eventQueue = []) : QueueEdit t q (q.subscribeNext s)
  | taken (e : QJsonObject) (rest : List QJsonObject) (hq : q.eventQueue = e :: rest) :
      QueueEdit t q { q with eventQueue := rest }

/-- **An edit on behalf of `t`**: nothing is done to the outside or to the
sessions, and only those of `t` come to listen. -/
structure Edits (t : Socket → Prop) (a b : Agent) : Prop where
  log : b.log = a.log
  sessionStore : b.sessionStore = a.sessionStore
  subscribers : ∀ s ∈ b.subscribers, s ∈ a.subscribers ∨ t s
  providers : ∀ s ∈ b.providerRegistry.uiProviders, s ∈ a.providerRegistry.uiProviders ∨ t s
  active : ∀ s, b.providerRegistry.activeProvider = some s →
    a.providerRegistry.activeProvider = some s
  queue : QueueEdit t a.eventQueue b.eventQueue

theorem Edits.of_eq (hl : b.log = a.log) (hs : b.sessionStore = a.sessionStore)
    (hsub : b.subscribers = a.subscribers) (hr : b.providerRegistry = a.providerRegistry)
    (hq : QueueEdit t a.eventQueue b.eventQueue) : Edits t a b :=
  ⟨hl, hs, fun _ h => .inl (hsub ▸ h), fun _ h => .inl (hr ▸ h), fun _ h => hr ▸ h, hq⟩

/-- **One act** in the handling of an input of `t`, where `K` may be
said. -/
inductive Act (W : World) (t : Socket → Prop) (K : Output → Prop) (a : Agent) : Agent → Prop
  | call {S : Set Output} {b : Agent} (h : Call W S a b) (hS : ∀ o ∈ S, K o) : Act W t K a b
  | reply (s : Socket) (j : QJsonObject) (h : K (.sent s j)) : Act W t K a (a.sendJson s j)
  | edit {b : Agent} (h : Edits t a b) : Act W t K a b
  | elected : Act W t K a (a.recomputeActiveProvider W).2
  | status : Act W t K a (a.emitProviderStatus W)
  | summons (reason : String) : Act W t K a (a.ensureFallbackUiRunning W reason)

/-- A chain of acts. -/
abbrev Acts (W : World) (t : Socket → Prop) (K : Output → Prop) : Agent → Agent → Prop :=
  Relation.ReflTransGen (Act W t K)

theorem Calls.acts {S : Set Output} (h : Calls W S a b) (hS : ∀ o ∈ S, K o) : Acts W t K a b := by
  induction h with
  | refl => exact .refl
  | tail _ hcall ih => exact ih.tail (.call hcall hS)

/-- Calls that say nothing. -/
theorem Calls.acts_empty (h : Calls W ∅ a b) : Acts W t K a b :=
  Calls.acts h fun _ hs => absurd hs (Set.notMem_empty _)

theorem Edits.acts (h : Edits t a b) : Acts W t K a b := .single (.edit h)

theorem acts_ticked (a : Agent) : Acts W t K a a.ticked :=
  Edits.acts (.of_eq rfl rfl rfl rfl .same)

theorem acts_reply {s : Socket} {j : QJsonObject} (h : Acts W t K a b) (hK : K (.sent s j)) :
    Acts W t K a (b.sendJson s j) :=
  h.tail (.reply s j hK)

theorem acts_sendAll {s : Socket} : ∀ (l : List QJsonObject) (a : Agent) (_ : ∀ j ∈ l, K (.sent s j)),
    Acts W t K a (a.sendAll s l)
  | [], _, _ => .refl
  | j :: l, _, h => .head (.reply s j (h j List.mem_cons_self))
      (acts_sendAll l _ fun j' hj' => h j' (List.mem_cons_of_mem _ hj'))

theorem acts_recomputeAndEmit (a : Agent) : Acts W t K a (a.recomputeAndEmit W) := by
  simp only [recomputeAndEmit]
  split
  · exact .tail (.single .elected) .status
  · exact .single .elected

/-- **An act obeys a policy** that is open, lets sessions be created and
those of `t` listen, and lets what is said pass. -/
theorem Act.obeys {π : Policy} (h : Act W t K a b) (ho : π.Open)
    (hc : ∀ s : Session, π.event s.toCreatedEvent) (ht : ∀ s, t s → π.listener s)
    (hq : ∀ q q', QueueEdit t q q' → π.queue q → π.queue q')
    (hK : ∀ o, K o → π.output o) : Obeys π a b := by
  cases h with
  | call hcall hS => exact hcall.obeys ho (fun o hm => hK o (hS o hm)) fun _ _ _ _ _ => hc _
  | reply s j h => exact obeys_sendJson a (hK _ h)
  | edit h =>
      intro hk
      refine ⟨⟨fun s hs => ?_, fun s hs => ?_, fun s hs => hk.active s (h.active s hs),
        hq _ _ h.queue hk.queue⟩, [], by simp [h.log], by simp⟩
      · exact (h.subscribers s hs).elim (hk.subscribers s) (ht s)
      · exact (h.providers s hs).elim (hk.providers s) (ht s)
  | elected => exact obeys_recomputeActiveProvider a
  | status => exact obeys_emitProviderStatus a
  | summons reason => exact obeys_ensureFallbackUiRunning a reason

theorem Acts.obeys {π : Policy} (h : Acts W t K a b) (ho : π.Open)
    (hc : ∀ s : Session, π.event s.toCreatedEvent) (ht : ∀ s, t s → π.listener s)
    (hq : ∀ q q', QueueEdit t q q' → π.queue q → π.queue q')
    (hK : ∀ o, K o → π.output o) : Obeys π a b := by
  induction h with
  | refl => exact .refl a
  | tail _ hact ih => exact ih.trans (hact.obeys ho hc ht hq hK)

end Agent

open Agent

namespace Daemon

variable (W : World) (d : Daemon) (i : Input)

/-- **The provider `u` decides the request its message names.** -/
def Decides (u : Socket) (msg : QJsonObject) : Prop :=
  (d.message? i = some (.sessionRespond, u, msg) ∨ d.message? i = some (.sessionCancel, u, msg)) ∧
    d.agent.isAuthorizedProviderSocket u = true

/-- A reply of a handler to its own client. -/
def Plain (j : QJsonObject) : Prop :=
  (j.value "type").toString ∈ ["pong", "subscribed", "ui.registered", "ok", "error"]

/-- **What may be replied** in the handling of an input. -/
inductive Reply : Socket → QJsonObject → Prop
  | plain {s : Socket} {j : QJsonObject} (hs : i.client = some s) (hj : Plain j) : Reply s j
  | replayed {s : Socket} {j msg : QJsonObject} {id : String} {session : Session}
      (hm : d.message? i = some (.subscribe, s, msg)) (h : d.agent.getSession id = some session)
      (hj : j = session.toCreatedEvent ∨ j = session.toUpdatedEvent) : Reply s j
  | next {s : Socket} {e msg : QJsonObject} {rest : List QJsonObject}
      (hm : d.message? i = some (.next, s, msg))
      (hq : d.agent.eventQueue.eventQueue = e :: rest) : Reply s e
  | keyring {u : Socket} {msg j : QJsonObject} (hd : d.Decides i u msg) {r : KeyringRequest}
      (hr : d.keyringManager.pendingRequests.lookup (messageId msg) = some r)
      (hj : j.value "type" = "keyring_response") : Reply r.socket j
  | pinentry {u : Socket} {msg j : QJsonObject} (hd : d.Decides i u msg)
      (hk : d.keyringManager.pendingRequests.lookup (messageId msg) = none) {r : PinentryRequest}
      (hr : d.pinentryManager.pendingRequests.lookup (messageId msg) = some r)
      (hj : j.value "type" = "pinentry_response") (hid : j.value "id" = .string (messageId msg)) :
      Reply r.socket j

/-- **What may be said** in the handling of an input: replies, and what the
listener tells polkit. -/
inductive Says : Output → Prop
  | reply {s : Socket} {j : QJsonObject} (h : d.Reply i s j) : Says (.sent s j)
  | attempt {o : Output} (h : o ∈ attempting) : Says o
  | submitted {o : Output} {cookie pass : String}
      (hc : d.listenerCall? i = some (.submitPassword cookie pass))
      (h : o ∈ submission cookie pass) : Says o

/-- The acts in the handling of an input. -/
abbrev ActsOf (a b : Agent) : Prop := Acts W (fun s => i.client = some s) (d.Says i) a b

/-! ## The handlers -/

variable {W d i} {socket : Socket} {msg : QJsonObject} {type : MessageType} {a : Agent}

theorem client_of_message? (hm : d.message? i = some (type, socket, msg)) :
    i.client = some socket := by
  rw [(message?_cases hm).1]
  rfl

theorem plain_of_type {j : QJsonObject} {t : String} (h : j.value "type" = .string t)
    (ht : t ∈ ["pong", "subscribed", "ui.registered", "ok", "error"]) : Plain j := by
  rwa [Plain, h]

theorem plain_ok : Plain ok := plain_of_type rfl (by decide)

theorem plain_error (message : String) : Plain (error message) := plain_of_type rfl (by decide)

/-- A reply of the handler to its own client. -/
theorem acts_plain {j : QJsonObject} (h : ActsOf W d i d.agent a) (hs : i.client = some socket)
    (hj : Plain j) : ActsOf W d i d.agent (a.sendJson socket j) :=
  acts_reply h (.reply (.plain hs hj))

/-- What the listener does but for a password. -/
theorem acts_attempting (h : Calls W attempting d.agent a) : ActsOf W d i d.agent a :=
  Calls.acts h fun _ ho => .attempt ho

theorem acts_summonFallback {t : Socket → Prop} {K : Output → Prop} (d : Daemon)
    (reason : String) : Acts W t K d.agent (d.summonFallback W reason).agent := by
  unfold summonFallback
  split
  · exact .single (.summons reason)
  · exact .refl

theorem acts_handlePing (hs : i.client = some socket) :
    ActsOf W d i d.agent (d.handlePing W socket).agent := by
  refine acts_plain (acts_ticked _) hs (plain_of_type (t := "pong") ?_ (by decide))
  split <;> simp

theorem acts_handleNext (hm : d.message? i = some (.next, socket, msg)) :
    ActsOf W d i d.agent (d.handleNext socket).agent := by
  rcases handleNext_cases d socket with ⟨hq, heq⟩ | ⟨e, rest, hq, heq⟩
  · rw [heq]
    exact Edits.acts (.of_eq rfl rfl rfl rfl (.waits socket (client_of_message? hm) hq))
  · have htaken : ActsOf W d i d.agent
        (d.agent.setQueue { d.agent.eventQueue with eventQueue := rest }) :=
      Edits.acts (.of_eq rfl rfl rfl rfl (.taken e rest hq))
    rw [heq]
    exact acts_reply htaken (.reply (.next hm hq))

/-- A subscriber is entered. -/
theorem edits_subscribe {t : Socket → Prop} (a : Agent) (hs : t socket) :
    Edits t a (a.subscribe socket).ticked := by
  have hsub : ∀ s ∈ (a.subscribe socket).ticked.subscribers, s ∈ a.subscribers ∨ t s := by
    intro s h
    rcases (mem_subscribe a socket s).1 h with rfl | h
    · exact .inr hs
    · exact .inl h
  rw [subscribe_eq] at hsub ⊢
  exact ⟨rfl, rfl, hsub, fun s h => .inl h, fun s h => h, .same⟩

/-- What is replayed are the events of open sessions. -/
theorem mem_replayed {a : Agent} {j : QJsonObject} {n : ℕ}
    (h : j ∈ replayEvents (W.walk n (a.subscribe socket).sessionStore.sessions.pairs)) :
    ∃ id session, a.getSession id = some session ∧
      (j = session.toCreatedEvent ∨ j = session.toUpdatedEvent) := by
  obtain ⟨⟨id, session⟩, hmem, hj⟩ := List.mem_flatMap.1 h
  rw [W.mem_walk, Table.mem_pairs, subscribe_eq] at hmem
  simp only [List.mem_cons, List.not_mem_nil, or_false] at hj
  exact ⟨id, session, hmem, hj⟩

/-- **A subscription** is replayed the open sessions, and answered. -/
theorem acts_handleSubscribe (hm : d.message? i = some (.subscribe, socket, msg)) :
    ActsOf W d i d.agent (d.handleSubscribe W socket).agent := by
  have hs := client_of_message? hm
  have hsub : ActsOf W d i d.agent (d.agent.subscribe socket).ticked :=
    (edits_subscribe d.agent hs).acts
  have hreplayed : ActsOf W d i d.agent (replayed W d.agent socket) := by
    unfold replayed
    dsimp only
    split
    · refine hsub.trans (acts_sendAll _ _ fun j hj => ?_)
      obtain ⟨id, session, hsess, hj⟩ := mem_replayed hj
      exact .reply (.replayed hm hsess hj)
    · exact hsub
  rw [handleSubscribe_agent]
  exact acts_plain hreplayed hs (plain_of_type (t := "subscribed") (by simp [subscribedReply])
    (by decide))

/-- **A registration** enters the provider, elects, and is answered. -/
theorem acts_handleUIRegister (hs : i.client = some socket) :
    ActsOf W d i d.agent (d.handleUIRegister W socket msg).agent := by
  have henter : ActsOf W d i d.agent (enter W d.agent socket msg) := by
    refine Edits.acts ⟨rfl, rfl, fun s h => .inl h, fun s h => ?_, fun s h => h, .same⟩
    by_cases hne : s = socket
    · exact .inr (hne ▸ hs)
    · refine .inl ?_
      simpa [enter, ProviderRegistry.registerProvider, hne] using h
  have hreply : ActsOf W d i d.agent ((enterElected W d.agent socket msg).sendJson socket
      (registeredReply W d.agent socket msg)) :=
    acts_plain (henter.tail .elected) hs (plain_of_type (t := "ui.registered") rfl (by decide))
  rw [handleUIRegister_agent]
  split
  · exact hreply.tail .status
  · exact hreply

theorem acts_handleUIHeartbeat (hs : i.client = some socket) :
    ActsOf W d i d.agent (d.handleUIHeartbeat W socket).agent := by
  simp only [handleUIHeartbeat, ProviderRegistry.heartbeat]
  cases hp : d.agent.providerRegistry.uiProviders.lookup socket with
  | none => exact acts_plain .refl hs (plain_error _)
  | some provider =>
      refine acts_plain (Relation.ReflTransGen.trans ?_ (acts_recomputeAndEmit _)) hs
        (plain_of_type (t := "ok") rfl (by decide))
      refine Edits.acts ⟨rfl, rfl, fun s h => .inl h, fun s h => ?_, fun s h => h, .same⟩
      by_cases hne : s = socket
      · exact .inr (hne ▸ hs)
      · refine .inl ?_
        simpa [hne] using h

theorem acts_handleUIUnregister (hs : i.client = some socket) :
    ActsOf W d i d.agent (d.handleUIUnregister W socket).agent := by
  simp only [handleUIUnregister]
  split
  · exact acts_plain .refl hs (plain_error _)
  · have herased : ActsOf W d i d.agent (d.agent.setRegistry
        (d.agent.providerRegistry.unregisterProvider socket).2) := by
      refine Edits.acts ⟨rfl, rfl, fun s h => .inl h, fun s h => .inl ?_, fun s h => h, .same⟩
      simp only [ProviderRegistry.unregisterProvider, setRegistry_providerRegistry] at h
      exact (AList.mem_erase.1 h).2
    have hok := acts_plain (herased.trans (acts_recomputeAndEmit _)) hs plain_ok
    exact hok.trans (acts_summonFallback (d.withAgent _) _)

/-- An authorized response replies to the client whose request it
answers, and to its own. -/
theorem acts_handleRespond (hm : d.message? i = some (.sessionRespond, socket, msg)) :
    ActsOf W d i d.agent (d.handleRespond W socket msg).agent := by
  have hs := client_of_message? hm
  have hresp : ActsOf W d i d.agent (d.respond W socket msg).2.agent ∧
      Plain (d.respond W socket msg).1 := by
    simp only [respond]
    split
    · exact ⟨.refl, plain_error _⟩
    next ha =>
    have hd : d.Decides i socket msg := ⟨.inl hm, by simpa using ha⟩
    split
    next hk =>
      obtain ⟨r, hr⟩ := Table.mem_iff_exists.1 (Table.contains_eq_true.1 hk)
      have hcalls := (KeyringManager.calls_handleResponse W d.agent d.keyringManager
        (messageId msg) (messageResponse msg))
      refine ⟨?_, plain_ok⟩
      simp only [KeyringManager.getSocketForRequest, hr, Option.map_some]
      exact acts_reply (Calls.acts_empty hcalls)
        (.reply (.keyring hd hr (by simp [KeyringManager.handleResponse, hr])))
    next hk =>
    rw [Bool.not_eq_true, KeyringManager.hasPendingRequest_eq_false] at hk
    split
    next hp =>
      obtain ⟨r, hr⟩ := Table.mem_iff_exists.1 (Table.contains_eq_true.1 hp)
      obtain ⟨ht, hid⟩ := PinentryManager.handleResponse_of_pending hr
        (msg.value "response").toString
      simp only [PinentryManager.getSocketForPendingInput, hr, Option.map_some, ht,
        QJsonValue.toString_string]
      rw [if_neg (by decide)]
      exact ⟨acts_reply .refl (.reply (.pinentry hd hk hr ht hid)), plain_ok⟩
    split
    · exact ⟨.refl, plain_error _⟩
    split
    · exact ⟨.refl, plain_error _⟩
    split
    · exact ⟨.refl, plain_error _⟩
    · refine ⟨Calls.acts (PolkitListener.calls_submitPassword W d.agent d.listener _ _)
        fun o ho => ?_, plain_ok⟩
      exact .submitted (listenerCall?_of_message hm) ho
  exact acts_plain hresp.1 hs hresp.2

/-- And so does an authorized cancellation. -/
theorem acts_handleCancel (hm : d.message? i = some (.sessionCancel, socket, msg)) :
    ActsOf W d i d.agent (d.handleCancel W socket msg).agent := by
  have hs := client_of_message? hm
  have hcancel : ActsOf W d i d.agent (d.cancel W socket msg).2.agent ∧
      Plain (d.cancel W socket msg).1 := by
    simp only [cancel]
    split
    · exact ⟨.refl, plain_error _⟩
    next ha =>
    have hd : d.Decides i socket msg := ⟨.inr hm, by simpa using ha⟩
    split
    next hk =>
      obtain ⟨r, hr⟩ := Table.mem_iff_exists.1 (Table.contains_eq_true.1 hk)
      have hcalls := KeyringManager.calls_handleCancel W d.agent d.keyringManager (messageId msg)
      refine ⟨?_, plain_ok⟩
      simp only [KeyringManager.getSocketForRequest, hr, Option.map_some]
      exact acts_reply (Calls.acts_empty hcalls)
        (.reply (.keyring hd hr (by simp [KeyringManager.handleCancel, hr])))
    next hk =>
    rw [Bool.not_eq_true, KeyringManager.hasPendingRequest_eq_false] at hk
    split
    next hp =>
      have hcalls := PinentryManager.calls_handleCancel W d.agent d.pinentryManager (messageId msg)
      have hreply : (d.pinentryManager.handleCancel W d.agent (messageId msg)).1 =
          PinentryManager.cancelledReply (messageId msg) :=
        congrArg Prod.fst (PinentryManager.handleCancel_of_hasRequest hp)
      have ht : (d.pinentryManager.handleCancel W d.agent (messageId msg)).1.value "type" =
          .string "pinentry_response" := by
        rw [hreply]
        rfl
      have hid : (d.pinentryManager.handleCancel W d.agent (messageId msg)).1.value "id" =
          .string (messageId msg) := by
        rw [hreply]
        simp [PinentryManager.cancelledReply]
      split
      next he =>
        rw [show (msg.value "id").toString = messageId msg from rfl, ht] at he
        exact absurd he (by decide)
      · refine ⟨?_, plain_ok⟩
        split
        next orig ho =>
          obtain ⟨r, hr, rfl⟩ := Option.map_eq_some_iff.1 ho
          exact acts_reply (Calls.acts_empty hcalls) (.reply (.pinentry hd hk hr ht hid))
        · exact Calls.acts_empty hcalls
    split
    · exact ⟨.refl, plain_error _⟩
    split
    · exact ⟨.refl, plain_error _⟩
    · exact ⟨acts_attempting (PolkitListener.calls_cancelPending W d.agent d.listener _),
        plain_ok⟩
  exact acts_plain hcancel.1 hs hcancel.2

theorem plain_resultReply (pm : PinentryManager) (a : Agent) (msg : QJsonObject) (pid : Pid) :
    Plain (pm.handleResult W a msg pid).1 := by
  have hok : Plain PinentryManager.okReply := plain_ok
  have herr : ∀ m, Plain (PinentryManager.errorReply m) := plain_error
  simp only [PinentryManager.handleResult]
  split_ifs
  · exact herr _
  · exact herr _
  · exact herr _
  · exact hok
  · exact hok
  · exact hok
  · exact hok
  · exact herr _

theorem acts_dispatch (hm : d.message? i = some (type, socket, msg)) :
    ActsOf W d i d.agent (d.dispatch W type socket msg).agent := by
  have hs := client_of_message? hm
  cases type with
  | ping => exact acts_handlePing hs
  | subscribe => exact acts_handleSubscribe hm
  | next => exact acts_handleNext hm
  | keyringRequest =>
      refine Calls.acts (KeyringManager.calls_handleRequest W d.agent d.keyringManager msg socket _)
        fun o ho => ?_
      obtain rfl : o = .sent socket collisionError := ho
      exact .reply (.plain hs (plain_error _))
  | pinentryRequest =>
      exact Calls.acts_empty
        (PinentryManager.calls_handleRequest W d.agent d.pinentryManager msg socket _)
  | pinentryResult =>
      exact acts_plain (Calls.acts_empty
        (PinentryManager.calls_handleResult W d.agent d.pinentryManager msg _)) hs
        (plain_resultReply _ _ _ _)
  | uiRegister => exact acts_handleUIRegister hs
  | uiHeartbeat => exact acts_handleUIHeartbeat hs
  | uiUnregister => exact acts_handleUIUnregister hs
  | sessionRespond => exact acts_handleRespond hm
  | sessionCancel => exact acts_handleCancel hm

/-! ## Every step -/

/-- A line that reaches no handler gets at most an error. -/
theorem acts_of_no_message {doc : Option QJsonObject}
    (h : d.message? (.line socket doc) = none) :
    ActsOf W d (.line socket doc) d.agent (d.step W (.line socket doc)).agent := by
  have herr : ∀ m, ActsOf W d (.line socket doc) d.agent (d.sendJson socket (error m)).agent :=
    fun m => acts_plain .refl rfl (plain_error m)
  unfold step
  split
  · exact .refl
  next hs =>
    simp only [handle]
    split
    next hv =>
      unfold handleLine
      split
      · exact herr _
      next msg =>
        simp only
        split
        · exact herr _
        · have hl : handlers.lookup (msg.value "type").toString = none := by
            simpa [message?, hs, hv] using h
          rw [hl]
          exact herr _
    · exact .refl

/-- The pointer to a deleted socket is forgotten. -/
theorem edits_socketDeleted {t : Socket → Prop} (d : Daemon) (socket : Socket) :
    Edits t d.agent (d.socketDeleted socket).agent := by
  refine ⟨rfl, rfl, fun s h => .inl h, fun s h => .inl h, fun s h => ?_, .same⟩
  simp only [socketDeleted, withAgent, setRegistry_providerRegistry] at h
  split at h
  · cases h
  · exact h

/-- The clean-up after a disconnect only speaks to those who listen. -/
theorem acts_disconnected :
    ActsOf W d (.disconnected socket) d.agent (d.handle W (.disconnected socket)).agent := by
  simp only [handle]
  split
  · have hforget : ActsOf W d (.disconnected socket) d.agent (d.forget W socket) := by
      have hleave : ActsOf W d (.disconnected socket) d.agent (leave d.agent socket) := by
        refine Edits.acts ⟨rfl, rfl, fun s h => .inl (List.mem_of_mem_erase h),
          fun s h => .inl ?_, fun s h => h, .same⟩
        simp only [leave, ProviderRegistry.removeSocket, ProviderRegistry.unregisterProvider,
          setRegistry_providerRegistry] at h
        exact (AList.mem_erase.1 h).2
      have hqueue : ∀ a : Agent, ActsOf W d (.disconnected socket) a
          (a.setQueue (a.eventQueue.removeWaiter socket)) :=
        fun a => Edits.acts (.of_eq rfl rfl rfl rfl (.left socket))
      simp only [forget, forgetClient]
      split
      · exact (hleave.trans (acts_recomputeAndEmit _)).trans (hqueue _)
      · exact hleave.trans (hqueue _)
    have hk := KeyringManager.calls_cleanupForSocket W (d.forget W socket) d.keyringManager socket
    have hp := PinentryManager.calls_cleanupForSocket W
      (d.keyringManager.cleanupForSocket W (d.forget W socket) socket).2 d.pinentryManager socket
    have hcleaned : ActsOf W d (.disconnected socket) d.agent (d.cleaned W socket).agent :=
      hforget.trans (Calls.acts_empty (hk.trans hp))
    exact (hcleaned.trans (acts_summonFallback _ "provider-disconnected")).trans
      (edits_socketDeleted _ socket).acts
  · exact .refl

/-- **Every step is a chain of acts.** -/
theorem acts_step (W : World) (d : Daemon) (i : Input) :
    ActsOf W d i d.agent (d.step W i).agent := by
  cases hs : d.listener.useAfterFree with
  | true =>
      have : d.step W i = d := by simp [step, hs]
      rw [this]
  | false =>
    have hstep : d.step W i = d.handle W i := by simp [step, hs]
    -- the sockets' own inputs edit the table of clients
    have hedit : ∀ b : Agent, b.log = d.agent.log → b.sessionStore = d.agent.sessionStore →
        b.subscribers = d.agent.subscribers → b.providerRegistry = d.agent.providerRegistry →
        b.eventQueue = d.agent.eventQueue → ActsOf W d i d.agent b :=
      fun b hl hst hsub hr hq => Edits.acts (.of_eq hl hst hsub hr (by rw [hq]; exact .same))
    cases i with
    | line socket doc =>
        cases hm : d.message? (.line socket doc) with
        | none => exact acts_of_no_message hm
        | some m =>
            rw [step_of_message hm]
            exact acts_dispatch hm
    | newConnection socket peerPid =>
        rw [hstep]
        simp only [handle]
        split
        · exact .refl
        · exact hedit _ rfl rfl rfl rfl rfl
    | closing socket =>
        rw [hstep]
        simp only [handle]
        split
        · exact .refl
        · exact hedit _ rfl rfl rfl rfl rfl
    | disconnected socket =>
        rw [hstep]
        exact acts_disconnected
    | providerMaintenance =>
        rw [hstep]
        simp only [handle, withAgent, pruneStaleProviders]
        split
        · exact (acts_recomputeAndEmit _).tail (.summons _)
        · exact acts_recomputeAndEmit _
    | pinentryTimeout timer =>
        rw [hstep]
        exact Calls.acts_empty (PinentryManager.calls_onTimeout W d.agent d.pinentryManager timer)
    -- from here on polkit calls the listener
    | initiateAuthentication actionId message iconName details cookie identities =>
        rw [hstep]
        exact acts_attempting (PolkitListener.calls_initiateAuthentication W d.agent d.listener
          actionId message iconName details cookie identities)
    | cancelAuthentication =>
        rw [hstep]
        exact acts_attempting (PolkitListener.calls_cancelAuthentication W d.agent d.listener)
    | request session text echo =>
        rw [hstep]
        exact acts_attempting
          (PolkitListener.calls_onSessionRequest W d.agent d.listener session text echo)
    | completed session gained =>
        rw [hstep]
        exact acts_attempting
          (PolkitListener.calls_onSessionCompleted W d.agent d.listener session gained)
    | showError session text =>
        rw [hstep]
        exact acts_attempting
          (PolkitListener.calls_onSessionError W d.agent d.listener session text)
    | showInfo session text =>
        rw [hstep]
        exact acts_attempting (PolkitListener.calls_onSessionInfo W d.agent d.listener session text)

/-- **A step obeys a policy** that is open, lets sessions be created and the
client listen, and lets the replies and what polkit is told pass. -/
theorem obeys_step {π : Policy} (W : World) (ho : π.Open)
    (hc : ∀ s : Session, π.event s.toCreatedEvent) (ht : ∀ s, i.client = some s → π.listener s)
    (hq : ∀ q q', QueueEdit (fun s => i.client = some s) q q' → π.queue q → π.queue q')
    (hp : ∀ o : Output, o.isPolkit = true → π.output o)
    (hK : ∀ s j, d.Reply i s j → π.output (.sent s j)) : Obeys π d.agent (d.step W i).agent := by
  refine Acts.obeys (acts_step W d i) ho hc ht hq fun o hs => ?_
  cases hs with
  | reply h => exact hK _ _ h
  | attempt h => exact hp o (isPolkit_of_attempting h)
  | submitted hcall h => exact hp o (isPolkit_of_submission h)

end Daemon

end BbAuth
