import BbAuth.Provider.Authorization
/-!
# The daemon's end of the connections

Three things hold in every state between two handlers. Every provider goes
by a uuid of its own that the daemon has made. Every provider and every
subscriber is a client, and subscribes once. And the queue holds nothing
that speaks of who is active.
-/

namespace BbAuth

open ProviderRegistry

namespace Agent

variable {W : World} {a b : Agent}

/-! ## What services leave as it is -/

@[simp] theorem recomputeActiveProvider_clients (W : World) (a : Agent) :
    (a.recomputeActiveProvider W).2.clients = a.clients := rfl

@[simp] theorem recomputeActiveProvider_subscribers (W : World) (a : Agent) :
    (a.recomputeActiveProvider W).2.subscribers = a.subscribers := rfl

@[simp] theorem recomputeActiveProvider_eventQueue (W : World) (a : Agent) :
    (a.recomputeActiveProvider W).2.eventQueue = a.eventQueue := rfl

@[simp] theorem recomputeActiveProvider_tick (W : World) (a : Agent) :
    (a.recomputeActiveProvider W).2.tick = a.tick + 1 := rfl

@[simp] theorem recomputeActiveProvider_log (W : World) (a : Agent) :
    (a.recomputeActiveProvider W).2.log = a.log := rfl

/-- An election registers nobody. -/
theorem lookup_of_recomputeActiveProvider {s : Socket} {p : UIProvider}
    (h : (a.recomputeActiveProvider W).2.providerRegistry.uiProviders.lookup s = some p) :
    a.providerRegistry.uiProviders.lookup s = some p :=
  ((lookup_recomputeActiveProvider (W.walk_perm _ _)).1 h).1

/-- **What a chain of services leaves as it is**: the clients, the
subscribers, an inert queue. -/
structure Framed (a b : Agent) : Prop where
  clients : b.clients = a.clients
  subscribers : b.subscribers = a.subscribers
  tick : a.tick ≤ b.tick
  inert : a.eventQueue.AllInert → b.eventQueue.AllInert

theorem framed_recomputeAndEmit (W : World) (a : Agent) : Framed a (a.recomputeAndEmit W) := by
  simp only [recomputeAndEmit]
  split
  · refine ⟨by simp, by simp, by simp; omega, by simp⟩
  · exact ⟨rfl, rfl, Nat.le_succ _, id⟩

theorem Talks.framed (h : Talks W a b) : Framed a b := by
  induction h with
  | refl => exact ⟨rfl, rfl, le_rfl, id⟩
  | @tail b c _ hstep ih =>
      have hs : Framed b c := by
        cases hstep with
        | still hs => exact ⟨hs.clients, hs.subscribers, hs.tick, fun hq => (hs.talk hq).1⟩
        | elected he => exact he ▸ framed_recomputeAndEmit W _
      exact ⟨hs.clients.trans ih.clients, hs.subscribers.trans ih.subscribers,
        ih.tick.trans hs.tick, hs.inert ∘ ih.inert⟩

/-! ## The wiring -/

/-- **The providers go by names the daemon made**, each by its own. -/
structure Minted (W : World) (a : Agent) : Prop where
  minted : ∀ t p, a.providerRegistry.uiProviders.lookup t = some p →
    ∃ n < a.tick, p.id = W.createUuid n
  distinct : ∀ t t' p p', a.providerRegistry.uiProviders.lookup t = some p →
    a.providerRegistry.uiProviders.lookup t' = some p' → p.id = p'.id → t = t'

/-- **Providers and subscribers are clients**, and the queue is inert. -/
structure Plugged (a : Agent) : Prop where
  registered : ∀ t ∈ a.providerRegistry.uiProviders, t ∈ a.clients
  subscribed : ∀ t ∈ a.subscribers, t ∈ a.clients
  nodup : a.subscribers.Nodup
  inert : a.eventQueue.AllInert

/-- The entries of `b` are those of `a`, under the same ids. -/
def Renamed (a b : Agent) : Prop := ∀ t p, b.providerRegistry.uiProviders.lookup t = some p →
  ∃ q, a.providerRegistry.uiProviders.lookup t = some q ∧ q.id = p.id

theorem Renamed.of_eq (h : b.providerRegistry = a.providerRegistry) : Renamed a b :=
  fun _ p hp => ⟨p, h ▸ hp, rfl⟩

theorem Talks.renamed (h : Talks W a b) : Renamed a b := fun _ p hp => ⟨p, Talks.lookup h hp, rfl⟩

theorem Renamed.mem (h : Renamed a b) {t : Socket} (ht : t ∈ b.providerRegistry.uiProviders) :
    t ∈ a.providerRegistry.uiProviders := by
  obtain ⟨p, hp⟩ := Table.mem_iff_exists.1 ht
  obtain ⟨q, hq, -⟩ := h t p hp
  exact Table.mem_iff_exists.2 ⟨q, hq⟩

theorem Minted.of_renamed (h : Minted W a) (hr : Renamed a b) (ht : a.tick ≤ b.tick) :
    Minted W b where
  minted t p hp := by
    obtain ⟨q, hq, hid⟩ := hr t p hp
    obtain ⟨n, hn, heq⟩ := h.minted t q hq
    exact ⟨n, by omega, hid ▸ heq⟩
  distinct t t' p p' hp hp' hid := by
    obtain ⟨q, hq, hqp⟩ := hr t p hp
    obtain ⟨q', hq', hqp'⟩ := hr t' p' hp'
    exact h.distinct t t' q q' hq hq' (by rw [hqp, hqp', hid])

theorem Plugged.of_framed (h : Plugged a) (hf : Framed a b) (hr : Renamed a b) : Plugged b where
  registered t ht := hf.clients ▸ h.registered t (hr.mem ht)
  subscribed t ht := hf.clients ▸ h.subscribed t (hf.subscribers ▸ ht)
  nodup := hf.subscribers ▸ h.nodup
  inert := hf.inert h.inert

end Agent

open Agent

namespace Daemon

variable {W : World} {d : Daemon} {a b : Agent} {i : Input} {socket : Socket} {msg : QJsonObject}

/-! ## Edits -/

theorem Edit.renamed (h : Edit a i b) : Renamed a b := by
  cases h with
  | connected | closing => exact .of_eq rfl
  | heartbeat socket provider nowMs hp =>
      intro t p ht
      simp only [setRegistry_providerRegistry, Table.lookup_insert] at ht
      split at ht
      next heq =>
        cases ht
        exact ⟨provider, heq ▸ hp, rfl⟩
      · exact ⟨p, ht, rfl⟩
  | unregistered | disconnected =>
      intro t p ht
      simp only [leave, removeSocket, unregisterProvider, setRegistry_providerRegistry,
        Table.lookup_erase] at ht
      split at ht
      · cases ht
      · exact ⟨p, ht, rfl⟩

/-- An edit asks nothing of the world and says nothing. -/
theorem Edit.said (h : Edit a i b) :
    b.tick = a.tick ∧ b.log = a.log ∧ b.eventQueue = a.eventQueue ∧
      b.providerRegistry.activeProvider = a.providerRegistry.activeProvider := by
  cases h <;> exact ⟨rfl, rfl, rfl, rfl⟩

theorem Edit.plugged (h : Edit a i b) (ha : Plugged a) : Plugged b := by
  have hr := h.renamed
  have hq : b.eventQueue.AllInert := h.said.2.2.1 ▸ ha.inert
  cases h with
  | connected | closing =>
      exact ⟨fun t ht => by simp [ha.registered t ht], fun t ht => by simp [ha.subscribed t ht],
        ha.nodup, hq⟩
  | heartbeat | unregistered =>
      exact ⟨fun t ht => ha.registered t (hr.mem ht), ha.subscribed, ha.nodup, hq⟩
  | disconnected socket hi =>
      refine ⟨fun t ht => ?_, fun t ht => ?_, ha.nodup.erase _, hq⟩
      · have hne : t ≠ socket := by
          rintro rfl
          simp [leave, removeSocket, unregisterProvider] at ht
        simpa [leave, hne] using ha.registered t (hr.mem ht)
      · have hm := (ha.nodup.mem_erase_iff).1 ht
        simpa [leave, hm.1] using ha.subscribed t hm.2

/-! ## A subscription -/

/-- The agent once a subscriber is entered and the sessions it may see are
replayed to it. -/
def replayed (W : World) (a : Agent) (socket : Socket) : Agent :=
  let a := a.subscribe socket
  let isRegisteredProvider := a.providerRegistry.contains socket
  let isActiveProvider :=
    isRegisteredProvider && a.providerRegistry.activeProvider = some socket
  if !isRegisteredProvider || isActiveProvider then
    a.ticked.sendAll socket (replayEvents (W.walk a.tick a.sessionStore.sessions.pairs))
  else a.ticked

/-- The reply to a subscription. -/
def subscribedReply (W : World) (a : Agent) (socket : Socket) : QJsonObject :=
  let registry := (a.subscribe socket).providerRegistry
  let isRegisteredProvider := registry.contains socket
  let isActiveProvider := isRegisteredProvider && registry.activeProvider = some socket
  QJsonObject.setIf
    [("type", "subscribed"), ("sessionCount", .int (if !isRegisteredProvider || isActiveProvider then
      (replayed W a socket).sessionStore.size else 0))]
    isRegisteredProvider "active" isActiveProvider

/-- **A subscription** is replayed the sessions, and answered. -/
theorem handleSubscribe_agent (d : Daemon) (socket : Socket) :
    (d.handleSubscribe W socket).agent =
      (replayed W d.agent socket).sendJson socket (subscribedReply W d.agent socket) := rfl

/-- The replay says nothing of who is active. -/
theorem still_replayed (a : Agent) (socket : Socket) :
    Still (a.subscribe socket) (replayed W a socket) := by
  refine (still_ticked _).trans ?_
  unfold replayed
  dsimp only
  split
  · refine still_sendAll _ _ fun j hj => ?_
    obtain ⟨e, -, hm⟩ := List.mem_flatMap.1 hj
    simp only [List.mem_cons, List.not_mem_nil, or_false] at hm
    rcases hm with rfl | rfl
    · exact inert_created _
    · exact inert_updated _
  · exact .refl _

/-- Entering a subscriber writes the list of subscribers alone. -/
theorem subscribe_eq (a : Agent) (s : Socket) :
    a.subscribe s = { a with subscribers := (a.subscribe s).subscribers } := by
  unfold subscribe
  split <;> rfl

theorem mem_subscribe (a : Agent) (s t : Socket) :
    t ∈ (a.subscribe s).subscribers ↔ t = s ∨ t ∈ a.subscribers := by
  unfold subscribe
  split
  · exact ⟨.inr, fun h => h.elim (fun h => h ▸ ‹_›) id⟩
  · simp [or_comm]

theorem plugged_subscribe (ha : Plugged a) (h : socket ∈ a.clients) :
    Plugged (a.subscribe socket) := by
  rw [subscribe_eq]
  refine ⟨ha.registered, fun t ht => ?_, ?_, ha.inert⟩
  · rcases (mem_subscribe a socket t).1 ht with rfl | ht
    · exact h
    · exact ha.subscribed t ht
  · unfold subscribe
    split
    · exact ha.nodup
    · rw [setSubscribers_subscribers, List.nodup_append]
      exact ⟨ha.nodup, List.nodup_singleton _, by simp; grind⟩

/-! ## A registration -/

/-- The entry a registration writes. -/
def entry (W : World) (a : Agent) (socket : Socket) (msg : QJsonObject) : UIProvider :=
  (a.providerRegistry.registerProvider (W.currentMSecs a.tick) (W.createUuid a.tick) socket msg).1

/-- The agent once the entry is written. -/
def enter (W : World) (a : Agent) (socket : Socket) (msg : QJsonObject) : Agent :=
  (a.setRegistry (a.providerRegistry.registerProvider (W.currentMSecs a.tick)
    (W.createUuid a.tick) socket msg).2).ticked

/-- The agent once the registration has been followed by an election. -/
def enterElected (W : World) (a : Agent) (socket : Socket) (msg : QJsonObject) : Agent :=
  ((enter W a socket msg).recomputeActiveProvider W).2

/-- The reply to a registration. -/
def registeredReply (W : World) (a : Agent) (socket : Socket) (msg : QJsonObject) : QJsonObject :=
  [("type", "ui.registered"), ("id", (entry W a socket msg).id),
    ("active", .bool ((enterElected W a socket msg).providerRegistry.activeProvider = some socket)),
    ("priority", .int (entry W a socket msg).priority)]

/-- **A registration** writes the entry, elects, replies, and tells
everybody where the active provider changed or is the one registered. -/
theorem handleUIRegister_agent (d : Daemon) (socket : Socket) (msg : QJsonObject) :
    (d.handleUIRegister W socket msg).agent =
      if ((enter W d.agent socket msg).recomputeActiveProvider W).1 ||
          decide ((enterElected W d.agent socket msg).providerRegistry.activeProvider = some socket)
      then ((enterElected W d.agent socket msg).sendJson socket
        (registeredReply W d.agent socket msg)).emitProviderStatus W
      else (enterElected W d.agent socket msg).sendJson socket
        (registeredReply W d.agent socket msg) := rfl

theorem lookup_enter (t : Socket) :
    (enter W a socket msg).providerRegistry.uiProviders.lookup t =
      if t = socket then some (entry W a socket msg)
      else a.providerRegistry.uiProviders.lookup t := by
  simp [enter, entry, registerProvider]

/-- A socket that is registered keeps its id, and any other gets a fresh
one. -/
theorem id_entry (h : Minted W a) : (entry W a socket msg).id =
    (a.providerRegistry.uiProviders.lookup socket).elim (W.createUuid a.tick) UIProvider.id := by
  unfold entry registerProvider
  cases hp : a.providerRegistry.uiProviders.lookup socket with
  | none => rfl
  | some p =>
      obtain ⟨n, -, hn⟩ := h.minted socket p hp
      have hne : p.id ≠ "" := hn ▸ W.createUuid_ne_empty n
      simp [hne]

/-- The id of the entry is nobody else's. -/
theorem id_entry_ne (h : Minted W a) {t : Socket} {p : UIProvider} (ht : t ≠ socket)
    (hp : a.providerRegistry.uiProviders.lookup t = some p) : p.id ≠ (entry W a socket msg).id := by
  rw [id_entry h]
  cases hq : a.providerRegistry.uiProviders.lookup socket with
  | none =>
      obtain ⟨n, hn, heq⟩ := h.minted t p hp
      rw [heq]
      exact fun he => absurd (W.createUuid_injective he) (by omega)
  | some q => exact fun he => ht (h.distinct t socket p q hp hq he)

theorem minted_enter (h : Minted W a) : Minted W (enter W a socket msg) where
  minted t p hp := by
    rw [lookup_enter] at hp
    split at hp
    · cases hp
      rw [id_entry h]
      cases hq : a.providerRegistry.uiProviders.lookup socket with
      | none => exact ⟨a.tick, Nat.lt_succ_self _, rfl⟩
      | some q =>
          obtain ⟨n, hn, heq⟩ := h.minted socket q hq
          exact ⟨n, Nat.lt_succ_of_lt hn, heq⟩
    · obtain ⟨n, hn, heq⟩ := h.minted t p hp
      exact ⟨n, Nat.lt_succ_of_lt hn, heq⟩
  distinct t t' p p' hp hp' hid := by
    rw [lookup_enter] at hp hp'
    split at hp <;> split at hp'
    · exact ‹t = socket›.trans ‹t' = socket›.symm
    · cases hp
      exact absurd hid.symm (id_entry_ne h ‹_› hp')
    · cases hp'
      exact absurd hid (id_entry_ne h ‹_› hp)
    · exact h.distinct t t' p p' hp hp' hid

theorem framed_handleUIRegister (d : Daemon) (socket : Socket) (msg : QJsonObject) :
    Framed d.agent (d.handleUIRegister W socket msg).agent ∧
      Renamed (enter W d.agent socket msg) (d.handleUIRegister W socket msg).agent ∧
      (enter W d.agent socket msg).tick ≤ (d.handleUIRegister W socket msg).agent.tick := by
  have hr : Renamed (enter W d.agent socket msg) (enterElected W d.agent socket msg) :=
    fun t p hp => ⟨p, lookup_of_recomputeActiveProvider hp, rfl⟩
  have ht : (enterElected W d.agent socket msg).tick = d.agent.tick + 2 := rfl
  have hs : (enter W d.agent socket msg).tick = d.agent.tick + 1 := rfl
  rw [handleUIRegister_agent]
  split
  · refine ⟨⟨by simp [enterElected, enter], by simp [enterElected, enter], ?_, ?_⟩, ?_, ?_⟩
    · rw [emitProviderStatus_tick, sendJson_tick]; omega
    · simp [enterElected, enter]
    · simpa only [Renamed, emitProviderStatus_providerRegistry, sendJson_providerRegistry] using hr
    · rw [emitProviderStatus_tick, sendJson_tick]; omega
  · refine ⟨⟨by simp [enterElected, enter], by simp [enterElected, enter], ?_, ?_⟩, ?_, ?_⟩
    · rw [sendJson_tick]; omega
    · simp [enterElected, enter]
    · simpa only [Renamed, sendJson_providerRegistry] using hr
    · rw [sendJson_tick]; omega

/-! ## Every step -/

theorem Deal.minted (h : Deal W d i b) (ha : Minted W d.agent) : Minted W b := by
  cases h with
  | talks h => exact ha.of_renamed h.renamed h.framed.tick
  | edited a hedit h he =>
      exact (ha.of_renamed hedit.renamed hedit.said.1.ge).of_renamed h.renamed h.framed.tick
  | refused socket msg hi hu h =>
      exact ha.of_renamed (.of_eq (by rw [h, sendJson_providerRegistry])) (by rw [h, sendJson_tick])
  | subscribed socket msg hi hv h =>
      have hs := still_replayed (W := W) d.agent socket
      refine ha.of_renamed (.of_eq (by rw [h, handleSubscribe_providerRegistry])) ?_
      rw [h, handleSubscribe_agent, sendJson_tick]
      exact le_trans (by rw [subscribe_eq]) hs.tick
  | registered socket msg hi ht hv h =>
      obtain ⟨-, hr, hle⟩ := framed_handleUIRegister (W := W) d socket msg
      exact h ▸ (minted_enter ha).of_renamed hr hle

theorem Deal.plugged (h : Deal W d i b) (ha : Plugged d.agent) : Plugged b := by
  cases h with
  | talks h => exact ha.of_framed h.framed h.renamed
  | edited a hedit h he => exact (hedit.plugged ha).of_framed h.framed h.renamed
  | refused socket msg hi hu h =>
      rw [h, sendJson_eq]
      exact ⟨ha.registered, ha.subscribed, ha.nodup, ha.inert⟩
  | subscribed socket msg hi hv h =>
      have hs := (still_replayed (W := W) d.agent socket).talks (W := W)
      have hp := (plugged_subscribe ha hv).of_framed hs.framed hs.renamed
      rw [h, handleSubscribe_agent, sendJson_eq]
      exact ⟨hp.registered, hp.subscribed, hp.nodup, hp.inert⟩
  | registered socket msg hi ht hv h =>
      obtain ⟨hf, hr, -⟩ := framed_handleUIRegister (W := W) d socket msg
      refine ⟨fun t hm => ?_, fun t hm => ?_, ?_, ?_⟩
      · rw [h] at hm
        have ht := hr.mem hm
        rw [Table.mem_iff_exists, lookup_enter] at ht
        rw [h, hf.clients]
        split at ht
        next heq => exact heq ▸ hv
        · exact ha.registered t (Table.mem_iff_exists.2 ht)
      · rw [h, hf.clients]
        exact ha.subscribed t (by rwa [h, hf.subscribers] at hm)
      · rw [h, hf.subscribers]
        exact ha.nodup
      · exact h ▸ hf.inert ha.inert

/-- **The wiring of the daemon**, in every state between two handlers. -/
structure Wired (W : World) (d : Daemon) : Prop where
  elected : d.Elected
  minted : Minted W d.agent
  plugged : Plugged d.agent

theorem Wired.step (h : Wired W d) (i : Input) : Wired W (d.step W i) := by
  refine ⟨h.elected.step W i, ?_, ?_⟩ <;> unfold Daemon.step <;> split
  · exact h.minted
  · exact (deal_handle h.elected i).minted h.minted
  · exact h.plugged
  · exact (deal_handle h.elected i).plugged h.plugged

theorem wired_init (W : World) : Wired W {} where
  elected := ⟨fun s hs => by simp at hs, fun _ => rfl⟩
  minted := ⟨by simp, by simp⟩
  plugged := ⟨by simp, by simp, List.nodup_nil, by simp [EventQueue.AllInert]⟩

theorem wired_run (W : World) (ins : List Input) : Wired W ((machine W).run ins) :=
  Machine.invariant (I := Wired W) (wired_init W) (fun _ i h => h.step i) ins

end Daemon

end BbAuth
