import BbAuth.Model.Joint
import BbAuth.Provider.Belief
import BbAuth.Provider.Wiring
/-!
# The client agrees with the daemon

`Agrees` relates the daemon to what a client will believe once it has read
everything it was sent: it goes by the id the daemon knows it by, and
believes itself active where nobody else is. A socket that listens, as a
provider or as a subscriber, is told of every change, so that every deal
carries the agreement along. A registration brings it about.
-/

namespace BbAuth

open ProviderRegistry

namespace Agent

variable {W : World} {a b c : Agent} {s : Socket} {ms ms' : List QJsonObject} {j : QJsonObject}

/-! ## What a socket is told -/

/-- **From `a` to `b` the socket is told `ms`.** -/
def Tells (s : Socket) (a b : Agent) (ms : List QJsonObject) : Prop :=
  ∃ os, b.log = a.log ++ os ∧ os.filterMap (Output.to? s) = ms

theorem Tells.heard (h : Tells s a b ms) : heard s a b = ms := by
  obtain ⟨os, hl, ho⟩ := h
  rw [Agent.heard, hl, List.drop_left, ho]

theorem Tells.trans (h : Tells s a b ms) (h' : Tells s b c ms') : Tells s a c (ms ++ ms') := by
  obtain ⟨os, hl, rfl⟩ := h
  obtain ⟨os', hl', rfl⟩ := h'
  exact ⟨os ++ os', by rw [hl', hl, List.append_assoc], List.filterMap_append⟩

theorem tells_of_log (h : b.log = a.log) : Tells s a b [] := ⟨[], by simp [h], rfl⟩

theorem tells_sendJson (h : a.isConnected s = true) : Tells s a (a.sendJson s j) [j] :=
  ⟨[.sent s j], by simp [sendJson, h], by simp [Output.to?]⟩

theorem tells_sendJson_of_ne {t : Socket} (h : t ≠ s) : Tells s a (a.sendJson t j) [] := by
  unfold sendJson
  split
  · exact ⟨[.sent t j], rfl, by simp [Output.to?, h]⟩
  · exact tells_of_log rfl

/-- A still move tells nothing of who is active. -/
theorem Still.tells (h : Still a b) (hq : a.eventQueue.AllInert) (s : Socket) :
    ∃ ms, Tells s a b ms ∧ ∀ j ∈ ms, Inert j := by
  obtain ⟨-, os, hl, hi⟩ := h.talk hq
  refine ⟨_, ⟨os, hl, rfl⟩, fun j hj => ?_⟩
  obtain ⟨o, ho, hto⟩ := List.mem_filterMap.1 hj
  unfold Output.to? at hto
  split at hto
  next t json =>
    split at hto
    · cases hto
      exact hi _ _ ho
    · cases hto
  · cases hto

/-- Each connected socket of the list is written to. -/
theorem sendEach_log (a : Agent) (l : List Socket) (j : QJsonObject) :
    (a.sendEach l j).log = a.log ++ (l.filter a.isConnected).map (Output.sent · j) := by
  induction l generalizing a with
  | nil => simp [sendEach]
  | cons t l ih =>
      have hstep : (if a.isValid t then a.sendJson t j else a) = a.sendJson t j := by
        split
        · rfl
        next hv =>
          have hc : a.isConnected t = false := by
            have hn : a.clients.lookup t = none := by
              simpa [isValid, AList.lookup_eq_none] using hv
            simp [isConnected, hn]
          simp [sendJson, hc]
      have hcons : a.sendEach (t :: l) j = (a.sendJson t j).sendEach l j := by
        simp only [sendEach, List.foldl_cons, hstep]
      have hconn : (a.sendJson t j).isConnected = a.isConnected :=
        funext fun t' => isConnected_of_clients (sendJson_clients a t j) t'
      rw [hcons, ih, hconn, List.filter_cons]
      cases hc : a.isConnected t <;> simp [sendJson, hc]

/-- **A socket listens** as a provider, or as a subscriber. -/
def Listens (s : Socket) (a : Agent) : Prop :=
  s ∈ a.providerRegistry.uiProviders ∨ s ∈ a.subscribers

/-- **The status is written** to the connected providers, and to the
connected subscribers not served yet. -/
theorem emitProviderStatus_log (W : World) (a : Agent) :
    (a.emitProviderStatus W).log = a.log ++
      ((((W.walk a.tick a.providerRegistry.sockets).filter a.isConnected).map
          (Output.sent · a.providerStatus)) ++
        (((a.subscribers.filter fun t => t ∉ (W.walk a.tick a.providerRegistry.sockets).filter
          a.isValid).filter a.isConnected).map (Output.sent · a.providerStatus))) := by
  set sockets := W.walk a.tick a.providerRegistry.sockets with hsockets
  have hconn : (a.ticked.sendEach sockets a.providerStatus).isConnected = a.isConnected :=
    funext fun t => isConnected_of_clients (by rw [sendEach_eq]; rfl) t
  have hsubs : (a.ticked.sendEach sockets a.providerStatus).subscribers = a.subscribers := by
    rw [sendEach_eq]; rfl
  simp only [emitProviderStatus, ← hsockets, hsubs]
  rw [sendEach_log, sendEach_log, hconn, List.append_assoc]
  rfl

/-- **The status reaches everybody who listens**, and nothing else is said. -/
theorem tells_emitProviderStatus (W : World) (a : Agent) (s : Socket) :
    ∃ ms, Tells s a (a.emitProviderStatus W) ms ∧ (∀ j ∈ ms, j = a.providerStatus) ∧
      (a.isConnected s = true → Listens s a → ms ≠ []) := by
  have hl := emitProviderStatus_log W a
  set sockets := W.walk a.tick a.providerRegistry.sockets with hsockets
  set rest := a.subscribers.filter fun t => t ∉ sockets.filter a.isValid with hrest
  refine ⟨_, ⟨_, hl, rfl⟩, fun j hj => ?_, fun hc hs => ?_⟩
  · simp only [List.filterMap_append, List.mem_append, List.mem_filterMap, List.mem_map] at hj
    rcases hj with ⟨o, ⟨t, -, rfl⟩, ho⟩ | ⟨o, ⟨t, -, rfl⟩, ho⟩ <;>
    · simp only [Output.to?, Option.ite_none_right_eq_some, Option.some_inj] at ho
      exact ho.2.symm
  · apply List.ne_nil_of_mem (a := a.providerStatus)
    rw [List.mem_filterMap]
    refine ⟨.sent s a.providerStatus, ?_, by simp [Output.to?]⟩
    simp only [List.mem_append, List.mem_map, List.mem_filter, Output.sent.injEq, and_true,
      exists_eq_right]
    by_cases hm : s ∈ sockets
    · exact .inl ⟨hm, hc⟩
    · -- not a provider, so a subscriber who has not been served yet
      have hsub : s ∈ a.subscribers := by
        refine hs.resolve_left fun hp => hm ?_
        rw [hsockets, World.mem_walk]
        exact AList.mem_keys.1 hp
      refine .inr ⟨?_, hc⟩
      rw [hrest]
      simp [hsub, hm]

/-! ## The agreement -/

/-- Does the active provider, or the lack of one, let this socket answer? -/
def permits (a : Agent) (s : Socket) : Bool :=
  decide (a.providerRegistry.activeProvider = none ∨ a.providerRegistry.activeProvider = some s)

/-- **The daemon knows the socket by this id**, and nobody else. -/
structure Named (W : World) (s : Socket) (a : Agent) (id : String) : Prop where
  minted : ∃ n < a.tick, id = W.createUuid n
  own : ∀ p, a.providerRegistry.uiProviders.lookup s = some p → p.id = id
  others : ∀ t p, t ≠ s → a.providerRegistry.uiProviders.lookup t = some p → p.id ≠ id

/-- **The client agrees with the daemon**: it goes by the id the daemon
knows its socket by, and believes itself active where the daemon would let
it answer. -/
def Agrees (W : World) (s : Socket) (a : Agent) (client : FallbackClient) : Prop :=
  ∃ id, Named W s a id ∧ client.Believes id (a.permits s)

variable {id : String} {client : FallbackClient} {bl : Bool}

theorem Named.ne_empty (h : Named W s a id) : id ≠ "" := by
  obtain ⟨n, -, rfl⟩ := h.minted
  exact W.createUuid_ne_empty n

theorem Named.of_renamed (h : Named W s a id) (hr : Renamed a b) (ht : a.tick ≤ b.tick) :
    Named W s b id where
  minted := by
    obtain ⟨n, hn, rfl⟩ := h.minted
    exact ⟨n, by omega, rfl⟩
  own p hp := by
    obtain ⟨q, hq, hid⟩ := hr s p hp
    exact hid ▸ h.own q hq
  others t p hne hp := by
    obtain ⟨q, hq, hid⟩ := hr t p hp
    exact hid ▸ h.others t q hne hq

/-- An entry's id names its socket. -/
theorem Minted.named (h : Minted W a) {p : UIProvider}
    (hp : a.providerRegistry.uiProviders.lookup s = some p) : Named W s a p.id where
  minted := h.minted s p hp
  own q hq := by rw [hp] at hq; cases hq; rfl
  others t q hne hq hid := hne (h.distinct t s q p hq hp hid)

theorem permits_of_activeProvider
    (h : b.providerRegistry.activeProvider = a.providerRegistry.activeProvider) (s : Socket) :
    b.permits s = a.permits s := by
  simp only [permits, h]

theorem isAuthorized_eq_permits (h : a.providerRegistry.Elected) (s : Socket) :
    a.providerRegistry.isAuthorized s = a.permits s := by
  rw [Bool.eq_iff_iff, h.isAuthorized_iff]
  simp [permits]

/-- **The status says who is permitted**, to whoever knows its own id. -/
theorem Named.verdict (h : Named W s a id) (he : a.providerRegistry.Elected) :
    (!(a.providerStatus.value "active").toBool ||
      decide ((a.providerStatus.value "id").toString = id)) = a.permits s := by
  cases ha : a.providerRegistry.activeProvider with
  | none => simp [providerStatus, hasActiveProvider, ProviderRegistry.hasActiveProvider,
      activeProviderInfo, permits, ha]
  | some t =>
      obtain ⟨p, hp⟩ := he.registered t ha
      have hc : a.providerRegistry.uiProviders.contains t = true :=
        Table.contains_eq_true.2 (Table.mem_iff_exists.2 ⟨p, hp⟩)
      have hid : p.id = id ↔ t = s := by
        constructor
        · intro heq
          by_contra hne
          exact h.others t p hne hp heq
        · rintro rfl
          exact h.own p hp
      simp [providerStatus, hasActiveProvider, ProviderRegistry.hasActiveProvider,
        activeProviderInfo, permits, ha, hc, hp, hid]

theorem value_type_providerStatus (a : Agent) :
    a.providerStatus.value "type" = .string "ui.active" := by
  unfold providerStatus
  dsimp only
  split <;> simp

/-- **The status brings the agreement about**, whatever was believed before. -/
theorem Named.agrees_emitProviderStatus (h : Named W s a id) (hb : client.Believes id bl)
    (he : a.providerRegistry.Elected) (hc : a.isConnected s = true) (hs : Listens s a) :
    ∃ ms, Tells s a (a.emitProviderStatus W) ms ∧
      Agrees W s (a.emitProviderStatus W) (client.receive ms) := by
  obtain ⟨ms, htells, hall, hne⟩ := tells_emitProviderStatus W a s
  have hp : (a.emitProviderStatus W).permits s = a.permits s :=
    permits_of_activeProvider (by rw [emitProviderStatus_providerRegistry]) s
  refine ⟨ms, htells, id, h.of_renamed (.of_eq (emitProviderStatus_providerRegistry W a))
    (by simp), ?_⟩
  rw [hp, ← h.verdict he]
  exact hb.receive_status h.ne_empty (value_type_providerStatus a) hall (.inl (hne hc hs))

/-! ## Services carry the agreement -/

theorem Agrees.still (h : Agrees W s a client) (hs : Still a b) (hq : a.eventQueue.AllInert) :
    ∃ ms, Tells s a b ms ∧ Agrees W s b (client.receive ms) := by
  obtain ⟨id, hn, hb⟩ := h
  obtain ⟨ms, htells, hi⟩ := hs.tells hq s
  have hp : b.permits s = a.permits s := permits_of_activeProvider (by rw [hs.providerRegistry]) s
  exact ⟨ms, htells, id, hn.of_renamed (.of_eq hs.providerRegistry) hs.tick,
    hp ▸ hb.receive_inert hi⟩

/-- An election that changes nobody is not told, and one that does is. -/
theorem Agrees.recomputeAndEmit (h : Agrees W s a client) (hc : a.isConnected s = true)
    (hs : Listens s (a.recomputeAndEmit W)) :
    ∃ ms, Tells s a (a.recomputeAndEmit W) ms ∧
      Agrees W s (a.recomputeAndEmit W) (client.receive ms) := by
  obtain ⟨id, hn, hb⟩ := h
  have hn' : Named W s (a.recomputeActiveProvider W).2 id :=
    hn.of_renamed (fun t p hp => ⟨p, lookup_of_recomputeActiveProvider hp, rfl⟩) (Nat.le_succ _)
  simp only [Agent.recomputeAndEmit] at hs ⊢
  split at hs
  next hch =>
    simp only [Listens, emitProviderStatus_providerRegistry, emitProviderStatus_subscribers] at hs
    rw [if_pos hch]
    obtain ⟨ms, htells, hag⟩ :=
      hn'.agrees_emitProviderStatus hb (elected_recomputeActiveProvider W a) hc hs
    exact ⟨ms, (tells_of_log rfl).trans htells, hag⟩
  next hch =>
    rw [if_neg hch]
    refine ⟨[], tells_of_log rfl, id, hn', ?_⟩
    have hsame : (a.recomputeActiveProvider W).2.providerRegistry.activeProvider =
        a.providerRegistry.activeProvider := by
      by_contra hne
      exact hch (ProviderRegistry.changed_iff.2 hne)
    rw [permits_of_activeProvider hsame s]
    exact hb

/-- Whoever listens after a chain of services listened before it. -/
theorem Talks.listens (h : Talks W a b) (hs : Listens s b) : Listens s a :=
  hs.imp (Renamed.mem (Talks.renamed h)) fun hm => (Talks.framed h).subscribers ▸ hm

/-- **Services carry the agreement** to whoever listens. -/
theorem Agrees.talks (h : Agrees W s a client) (ht : Talks W a b) (hc : a.isConnected s = true)
    (hq : a.eventQueue.AllInert) (hs : Listens s b) :
    ∃ ms, Tells s a b ms ∧ Agrees W s b (client.receive ms) := by
  induction ht with
  | refl => exact ⟨[], tells_of_log rfl, h⟩
  | @tail b c hab hstep ih =>
      obtain ⟨ms, htells, hag⟩ := ih (Talks.listens (.single hstep) hs)
      have hf := Talks.framed hab
      have hc' : b.isConnected s = true := (isConnected_of_clients hf.clients s).trans hc
      obtain ⟨ms', htells', hag'⟩ : ∃ ms', Tells s b c ms' ∧
          Agrees W s c ((client.receive ms).receive ms') := by
        cases hstep with
        | still hst => exact hag.still hst (hf.inert hq)
        | elected he =>
            subst he
            exact hag.recomputeAndEmit hc' hs
      exact ⟨ms ++ ms', htells.trans htells', by rwa [FallbackClient.receive_append]⟩

end Agent

open Agent

namespace Daemon

variable {W : World} {d : Daemon} {a b : Agent} {i : Input} {s socket : Socket} {msg : QJsonObject}
variable {client : FallbackClient}

/-! ## Edits, refusals and subscriptions -/

/-- An edit leaves another socket's connection, and its own unless it is
closed. -/
theorem Edit.isConnected (h : Edit a i b) (hc : a.isConnected s = true) (hne : i ≠ .closing s)
    (hne' : i ≠ .disconnected s) : b.isConnected s = true := by
  have hs : s ∈ a.clients := by
    by_contra hn
    simp [Agent.isConnected, AList.lookup_eq_none.2 hn] at hc
  cases h with
  | connected socket peerPid hi hn =>
      have hsn : s ≠ socket := fun he => hn (he ▸ hs)
      simpa [Agent.isConnected, hsn] using hc
  | closing socket c hi hl =>
      have hsn : s ≠ socket := fun he => hne (by rw [hi, he])
      simpa [Agent.isConnected, hsn] using hc
  | heartbeat | unregistered => exact hc
  | disconnected socket hi =>
      have hsn : s ≠ socket := fun he => hne' (by rw [hi, he])
      simpa [Agent.isConnected, leave, hsn] using hc

theorem Edit.agrees (h : Edit a i b) (hag : Agrees W s a client) : Agrees W s b client := by
  obtain ⟨id, hn, hb⟩ := hag
  obtain ⟨ht, -, -, ha⟩ := h.said
  refine ⟨id, hn.of_renamed h.renamed ht.ge, ?_⟩
  rwa [permits_of_activeProvider ha s]

/-- A refusal tells the client what it should know already. -/
theorem agrees_refused (hag : Agrees W s d.agent client) (hc : d.agent.isConnected s = true)
    (he : d.Elected) (hu : d.agent.isAuthorizedProviderSocket socket = false) :
    ∃ ms, Tells s d.agent (d.agent.sendJson socket (error "Not active UI provider")) ms ∧
      Agrees W s (d.agent.sendJson socket (error "Not active UI provider"))
        (client.receive ms) := by
  obtain ⟨id, hn, hb⟩ := hag
  have hn' : Named W s (d.agent.sendJson socket (error "Not active UI provider")) id :=
    hn.of_renamed (.of_eq (sendJson_providerRegistry _ _ _)) (by simp)
  have hp : (d.agent.sendJson socket (error "Not active UI provider")).permits s =
      d.agent.permits s := permits_of_activeProvider (by simp) s
  by_cases hs : socket = s
  · subst hs
    refine ⟨_, tells_sendJson hc, id, hn', ?_⟩
    have hf : d.agent.permits socket = false := by
      rw [← isAuthorized_eq_permits he]
      exact hu
    rw [hp, hf]
    have := hb.handleError (error "Not active UI provider")
    simpa [FallbackClient.handleMessage, error] using this
  · exact ⟨[], tells_sendJson_of_ne hs, id, hn', hp ▸ hb⟩

/-- **A subscription's reply** says to a provider whether it is active, and
nothing to anybody else. -/
theorem agrees_handleSubscribe (hag : Agrees W s d.agent client)
    (hc : d.agent.isConnected s = true) (he : d.Elected) (hq : d.agent.eventQueue.AllInert)
    (socket : Socket) :
    ∃ ms, Tells s d.agent (d.handleSubscribe W socket).agent ms ∧
      Agrees W s (d.handleSubscribe W socket).agent (client.receive ms) := by
  -- the replay first
  have hs := still_replayed (W := W) d.agent socket
  have hag₁ : Agrees W s (d.agent.subscribe socket) client := by
    obtain ⟨id, hn, hb⟩ := hag
    rw [subscribe_eq]
    exact ⟨id, ⟨hn.minted, hn.own, hn.others⟩, hb⟩
  obtain ⟨ms, htells, id, hn, hb⟩ := hag₁.still hs (by rw [subscribe_eq]; exact hq)
  have htells₁ : Tells s d.agent (replayed W d.agent socket) ms :=
    (tells_of_log (by rw [subscribe_eq])).trans htells
  have hreg : (replayed W d.agent socket).providerRegistry = d.agent.providerRegistry :=
    hs.providerRegistry.trans (by rw [subscribe_eq])
  rw [handleSubscribe_agent]
  have hn' : Named W s ((replayed W d.agent socket).sendJson socket
      (subscribedReply W d.agent socket)) id :=
    hn.of_renamed (.of_eq (sendJson_providerRegistry _ _ _)) (by simp)
  have hp : ((replayed W d.agent socket).sendJson socket
      (subscribedReply W d.agent socket)).permits s = (replayed W d.agent socket).permits s :=
    permits_of_activeProvider (by simp) s
  by_cases hsock : socket = s
  · subst hsock
    have hc' : (replayed W d.agent socket).isConnected socket = true :=
      (isConnected_of_clients (hs.clients.trans (by rw [subscribe_eq])) socket).trans hc
    refine ⟨_, htells₁.trans (tells_sendJson hc'), id, hn', ?_⟩
    rw [FallbackClient.receive_append, hp]
    have hreply := hb.handleSubscribed (subscribedReply W d.agent socket)
    have hr : (d.agent.subscribe socket).providerRegistry = d.agent.providerRegistry := by
      rw [subscribe_eq]
    have htype : ((subscribedReply W d.agent socket).value "type").toString = "subscribed" := by
      simp [subscribedReply]
    rw [FallbackClient.receive_cons, FallbackClient.receive_nil, FallbackClient.handleMessage]
    simp only [htype, if_true]
    cases hm : d.agent.providerRegistry.contains socket with
    | false => simpa [subscribedReply, hr, hm] using hreply
    | true =>
        have hsome : d.agent.providerRegistry.activeProvider ≠ none := by
          intro hnone
          have hmem := Table.contains_eq_true.1 hm
          rw [he.elected hnone] at hmem
          exact AList.notMem_empty socket hmem
        have hperm : (replayed W d.agent socket).permits socket =
            decide (d.agent.providerRegistry.activeProvider = some socket) := by
          simp [permits, hreg, hsome]
        rw [hperm]
        simpa [subscribedReply, hr, hm] using hreply
  · exact ⟨_, htells₁.trans (tells_sendJson_of_ne hsock), id, hn', by
      rw [List.append_nil, hp]; exact hb⟩

/-! ## Registrations -/

/-- Another socket's registration is news to whoever listens. -/
theorem agrees_handleUIRegister_of_ne (hag : Agrees W s d.agent client) (hne : socket ≠ s)
    (hc : d.agent.isConnected s = true) (hm : Minted W d.agent)
    (hs : Listens s (d.handleUIRegister W socket msg).agent) :
    ∃ ms, Tells s d.agent (d.handleUIRegister W socket msg).agent ms ∧
      Agrees W s (d.handleUIRegister W socket msg).agent (client.receive ms) := by
  obtain ⟨id, hn, hb⟩ := hag
  have hn₁ : Named W s (enter W d.agent socket msg) id := by
    refine ⟨?_, fun p hp => ?_, fun t p ht hp => ?_⟩
    · obtain ⟨n, hlt, heq⟩ := hn.minted
      exact ⟨n, Nat.lt_succ_of_lt hlt, heq⟩
    · rw [lookup_enter, if_neg hne.symm] at hp
      exact hn.own p hp
    · rw [lookup_enter] at hp
      split at hp
      · cases hp
        rw [id_entry hm]
        cases hq : d.agent.providerRegistry.uiProviders.lookup socket with
        | none =>
            obtain ⟨n, hlt, rfl⟩ := hn.minted
            exact fun heq => absurd (W.createUuid_injective heq) (by omega)
        | some q => exact hn.others socket q hne hq
      · exact hn.others t p ht hp
  have hn₂ : Named W s (enterElected W d.agent socket msg) id :=
    hn₁.of_renamed (fun t p hp => ⟨p, lookup_of_recomputeActiveProvider hp, rfl⟩) (Nat.le_succ _)
  have hlog : Tells s d.agent (enterElected W d.agent socket msg) [] := tells_of_log rfl
  have hreply : Tells s d.agent ((enterElected W d.agent socket msg).sendJson socket
      (registeredReply W d.agent socket msg)) [] := hlog.trans (tells_sendJson_of_ne hne)
  set told := (enterElected W d.agent socket msg).sendJson socket
    (registeredReply W d.agent socket msg) with htold
  have hn₃ : Named W s told id := hn₂.of_renamed (.of_eq (by simp [htold])) (by simp [htold])
  rw [handleUIRegister_agent] at hs ⊢
  split
  next hch =>
    rw [if_pos hch] at hs
    simp only [Listens, emitProviderStatus_providerRegistry, emitProviderStatus_subscribers] at hs
    have he : told.providerRegistry.Elected := by
      rw [htold, sendJson_providerRegistry]
      exact elected_recomputeActiveProvider W _
    have hct : told.isConnected s = true :=
      (isConnected_of_clients (by simp [htold, enterElected, enter]) s).trans hc
    obtain ⟨ms, htells, hag⟩ := hn₃.agrees_emitProviderStatus hb he hct hs
    exact ⟨ms, hreply.trans htells, hag⟩
  next hch =>
    refine ⟨[], hreply, id, hn₃, ?_⟩
    have hsame : told.providerRegistry.activeProvider =
        d.agent.providerRegistry.activeProvider := by
      rw [htold, sendJson_providerRegistry]
      by_contra hdiff
      exact hch ((Bool.or_eq_true _ _).mpr (.inl (ProviderRegistry.changed_iff.2 hdiff)))
    rw [permits_of_activeProvider hsame s]
    exact hb

/-- **A registration brings the agreement about**, whatever was believed
before, provided that the entry outlives its own election, or that the
socket subscribes and somebody was active. -/
theorem agrees_handleUIRegister (client : FallbackClient) (hc : d.agent.isConnected s = true)
    (hm : Minted W d.agent)
    (hs : s ∈ (d.handleUIRegister W s msg).agent.providerRegistry.uiProviders ∨
      s ∈ (d.handleUIRegister W s msg).agent.subscribers ∧
        d.agent.providerRegistry.activeProvider ≠ none) :
    ∃ ms, Tells s d.agent (d.handleUIRegister W s msg).agent ms ∧
      Agrees W s (d.handleUIRegister W s msg).agent (client.receive ms) := by
  have hn₁ : Named W s (enter W d.agent s msg) (entry W d.agent s msg).id :=
    (minted_enter hm).named (by rw [lookup_enter, if_pos rfl])
  have hn₂ : Named W s (enterElected W d.agent s msg) (entry W d.agent s msg).id :=
    hn₁.of_renamed (fun t p hp => ⟨p, lookup_of_recomputeActiveProvider hp, rfl⟩) (Nat.le_succ _)
  have he₂ : (enterElected W d.agent s msg).providerRegistry.Elected :=
    elected_recomputeActiveProvider W _
  have hc₂ : (enterElected W d.agent s msg).isConnected s = true := hc
  have hreply : Tells s d.agent ((enterElected W d.agent s msg).sendJson s
      (registeredReply W d.agent s msg)) [registeredReply W d.agent s msg] :=
    (tells_of_log (b := enterElected W d.agent s msg) rfl).trans (tells_sendJson hc₂)
  have hb : (client.receive [registeredReply W d.agent s msg]).Believes (entry W d.agent s msg).id
      (decide ((enterElected W d.agent s msg).providerRegistry.activeProvider = some s)) := by
    have := FallbackClient.believes_handleRegistered client (registeredReply W d.agent s msg)
      (by simp [registeredReply])
    simpa [FallbackClient.handleMessage, registeredReply] using this
  set told := (enterElected W d.agent s msg).sendJson s (registeredReply W d.agent s msg)
    with htold
  have hreg : told.providerRegistry = (enterElected W d.agent s msg).providerRegistry := by
    simp [htold]
  have hn₃ : Named W s told (entry W d.agent s msg).id :=
    hn₂.of_renamed (.of_eq hreg) (by simp [htold])
  rw [handleUIRegister_agent] at hs ⊢
  split
  next hch =>
    simp only [if_pos hch, emitProviderStatus_providerRegistry, emitProviderStatus_subscribers]
      at hs
    obtain ⟨ms, htells, hag⟩ := hn₃.agrees_emitProviderStatus hb (hreg ▸ he₂)
      ((isConnected_of_clients (by simp [htold]) s).trans hc₂) (hs.imp id And.left)
    exact ⟨_, hreply.trans htells, by rwa [FallbackClient.receive_append]⟩
  next hch =>
    rw [if_neg hch] at hs
    simp only [Bool.or_eq_true, decide_eq_true_eq, not_or] at hch
    refine ⟨_, hreply, _, hn₃, ?_⟩
    -- nobody was told, so somebody else was active and still is
    have hsome : (enterElected W d.agent s msg).providerRegistry.activeProvider ≠ none := by
      rcases hs with hs | ⟨-, hs⟩
      · intro hnone
        rw [hreg, he₂.elected hnone] at hs
        exact AList.notMem_empty s hs
      · have hsame : (enterElected W d.agent s msg).providerRegistry.activeProvider =
            d.agent.providerRegistry.activeProvider := by
          by_contra hdiff
          exact hch.1 (ProviderRegistry.changed_iff.2 hdiff)
        rwa [hsame]
    have hp : told.permits s =
        decide ((enterElected W d.agent s msg).providerRegistry.activeProvider = some s) := by
      simp [permits, hreg, hsome]
    rwa [hp]

/-! ## Deals -/

/-- **An input that registers the socket.** -/
def Registers (s : Socket) (i : Input) : Prop :=
  ∃ msg, i = .line s (some msg) ∧ (msg.value "type").toString = "ui.register"

instance (s : Socket) (i : Input) : Decidable (Registers s i) :=
  match i with
  | .line socket (some msg) =>
    decidable_of_iff (socket = s ∧ (msg.value "type").toString = "ui.register")
      ⟨fun ⟨h, ht⟩ => ⟨msg, h ▸ rfl, ht⟩, fun ⟨_, he, ht⟩ => by cases he; exact ⟨rfl, ht⟩⟩
  | .line _ none | .newConnection _ _ | .closing _ | .disconnected _ | .providerMaintenance
  | .pinentryTimeout _ | .initiateAuthentication _ _ _ _ _ _ | .cancelAuthentication
  | .request _ _ _ | .completed _ _ | .showError _ _ | .showInfo _ _ => isFalse nofun

/-- **Every deal that registers somebody else, or nobody, carries the
agreement** to whoever listens after it. -/
theorem Deal.agrees (h : Deal W d i b) (hw : Wired W d) (hag : Agrees W s d.agent client)
    (hc : d.agent.isConnected s = true) (hi : ¬ Registers s i) (hne : i ≠ .closing s)
    (hne' : i ≠ .disconnected s) (hs : Listens s b) :
    ∃ ms, Tells s d.agent b ms ∧ Agrees W s b (client.receive ms) := by
  cases h with
  | talks h => exact hag.talks h hc hw.plugged.inert hs
  | edited a hedit h he =>
      obtain ⟨ms, htells, hag'⟩ := (hedit.agrees hag).talks h (hedit.isConnected hc hne hne')
        (hedit.plugged hw.plugged).inert hs
      exact ⟨ms, (tells_of_log hedit.said.2.1).trans htells, hag'⟩
  | refused socket msg hi hu h =>
      subst h
      exact agrees_refused hag hc hw.elected hu
  | subscribed socket msg hi hv h =>
      subst h
      exact agrees_handleSubscribe hag hc hw.elected hw.plugged.inert socket
  | registered socket msg hi' ht hv h =>
      subst h
      have hsock : socket ≠ s := by
        rintro rfl
        exact hi ⟨msg, hi', ht⟩
      exact agrees_handleUIRegister_of_ne hag hsock hc hw.minted hs

end Daemon

end BbAuth
