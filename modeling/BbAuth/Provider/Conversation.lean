import BbAuth.Provider.Agreement
/-!
# The client and the daemon in conversation

A connection begins with two messages: a registration and a subscription.
From the first on the client agrees with the daemon, up to what is still
under way to it, as long as it listens. A provider that is not subscribed
listens only while it is registered: one that an election drops before its
subscription has been handled is told nothing of what follows, and the
reply to its subscription does not say who is active. That is the one way
in which the two come to disagree.
-/

namespace BbAuth

open Agent

namespace Daemon

variable {W : World} {d : Daemon} {a b : Agent} {i : Input} {s : Socket}
variable {client : FallbackClient}

/-! ## What a deal leaves of a connection -/

/-- A connection stays unless it is closed. -/
theorem Deal.isConnected (h : Deal W d i b) (hc : d.agent.isConnected s = true)
    (hne : i ≠ .closing s) (hne' : i ≠ .disconnected s) : b.isConnected s = true := by
  cases h with
  | talks h => exact (isConnected_of_clients h.framed.clients s).trans hc
  | edited a hedit h he =>
      exact (isConnected_of_clients h.framed.clients s).trans (hedit.isConnected hc hne hne')
  | refused socket msg hi hu h =>
      exact (isConnected_of_clients (h ▸ sendJson_clients _ _ _) s).trans hc
  | subscribed socket msg hi hv h =>
      have hcl : b.clients = d.agent.clients := by
        rw [h, handleSubscribe_agent, sendJson_clients, (still_replayed _ _).clients, subscribe_eq]
      exact (isConnected_of_clients hcl s).trans hc
  | registered socket msg hi ht hv h =>
      exact (isConnected_of_clients (h ▸ (framed_handleUIRegister d socket msg).1.clients) s).trans
        hc

/-- A subscriber stays one unless it is disconnected. -/
theorem Deal.subscribed_of_subscribed (h : Deal W d i b) (hs : s ∈ d.agent.subscribers)
    (hne : i ≠ .disconnected s) : s ∈ b.subscribers := by
  cases h with
  | talks h => exact h.framed.subscribers ▸ hs
  | edited a hedit h he =>
      rw [h.framed.subscribers]
      cases hedit with
      | connected | closing | heartbeat | unregistered => exact hs
      | disconnected socket hi =>
          have hsn : s ≠ socket := fun heq => hne (by rw [hi, heq])
          exact (List.mem_erase_of_ne hsn).2 hs
  | refused socket msg hi hu h => rwa [h, sendJson_subscribers]
  | subscribed socket msg hi hv h =>
      rw [h, handleSubscribe_agent, sendJson_subscribers, (still_replayed _ _).subscribers]
      exact (mem_subscribe _ _ _).2 (.inr hs)
  | registered socket msg hi ht hv h =>
      rwa [h, (framed_handleUIRegister d socket msg).1.subscribers]

/-- **Nobody gets into the registry** but by a registration of its own. -/
theorem Deal.registered_of_registered (h : Deal W d i b) (hi : ¬ Registers s i)
    (hs : s ∈ b.providerRegistry.uiProviders) : s ∈ d.agent.providerRegistry.uiProviders := by
  cases h with
  | talks h => exact Renamed.mem (Talks.renamed h) hs
  | edited a hedit h he => exact hedit.renamed.mem (Renamed.mem (Talks.renamed h) hs)
  | refused socket msg hi' hu h => simpa [h] using hs
  | subscribed socket msg hi' hv h => rwa [h, handleSubscribe_providerRegistry] at hs
  | registered socket msg hi' ht hv h =>
      have hsn : s ≠ socket := by
        rintro rfl
        exact hi ⟨msg, hi', ht⟩
      obtain ⟨-, hr, -⟩ := framed_handleUIRegister (W := W) d socket msg
      have ht := Table.mem_iff_exists.1 (hr.mem (h ▸ hs))
      rw [lookup_enter, if_neg hsn] at ht
      exact Table.mem_iff_exists.2 ht

theorem not_registers_of_ne (hi : i.socket? ≠ some s) : ¬ Registers s i := by
  rintro ⟨msg, rfl, -⟩
  exact hi rfl

/-- Nobody begins to listen but by its own messages. -/
theorem Deal.listens_of_listens (h : Deal W d i b) (hi : i.socket? ≠ some s) (hs : Listens s b) :
    Listens s d.agent := by
  refine hs.imp (h.registered_of_registered (not_registers_of_ne hi)) fun hs => ?_
  cases h with
  | talks h => exact h.framed.subscribers ▸ hs
  | edited a hedit h he =>
      rw [h.framed.subscribers] at hs
      cases hedit with
      | connected | closing | heartbeat | unregistered => exact hs
      | disconnected socket hi => exact List.mem_of_mem_erase hs
  | refused socket msg hi hu h => simpa [h] using hs
  | subscribed socket msg hi' hv h =>
      have hsn : s ≠ socket := fun heq => hi (by rw [hi', heq]; rfl)
      rw [h, handleSubscribe_agent, sendJson_subscribers, (still_replayed _ _).subscribers] at hs
      exact ((mem_subscribe _ _ _).1 hs).resolve_left hsn
  | registered socket msg hi' ht hv h =>
      exact (framed_handleUIRegister (W := W) d socket msg).1.subscribers ▸ h ▸ hs

/-- And its entry among the clients stays as it is. -/
theorem Deal.lookup_clients (h : Deal W d i b) (hi : i.socket? ≠ some s) :
    b.clients.lookup s = d.agent.clients.lookup s := by
  cases h with
  | talks h => rw [h.framed.clients]
  | edited a hedit h he =>
      rw [h.framed.clients]
      cases hedit with
      | connected socket peerPid hi' hn =>
          have hsn : s ≠ socket := fun heq => hi (by rw [hi', heq]; rfl)
          simp [hsn]
      | closing socket c hi' hl =>
          have hsn : s ≠ socket := fun heq => hi (by rw [hi', heq]; rfl)
          simp [hsn]
      | heartbeat | unregistered => rfl
      | disconnected socket hi' =>
          have hsn : s ≠ socket := fun heq => hi (by rw [hi', heq]; rfl)
          simp [leave, hsn]
  | refused socket msg hi hu h => rw [h, sendJson_clients]
  | subscribed socket msg hi hv h =>
      rw [h, handleSubscribe_agent, sendJson_clients, (still_replayed _ _).clients, subscribe_eq]
  | registered socket msg hi ht hv h =>
      rw [h, (framed_handleUIRegister d socket msg).1.clients]

/-- Every step is a deal. -/
theorem deal_step (h : d.Elected) (i : Input) : Deal W d i (d.step W i).agent := by
  unfold step
  split
  · exact .talks .refl
  · exact deal_handle h i

/-! ## The drop that goes unnoticed -/

/-- **The input drops a registration**: the socket is registered or asks to
be, and comes out registered no more. -/
def Drops (W : World) (d : Daemon) (i : Input) (s : Socket) : Prop :=
  (s ∈ d.agent.providerRegistry.uiProviders ∨ Registers s i) ∧
    s ∉ (d.step W i).agent.providerRegistry.uiProviders

/-- **A drop is noticed** by a subscriber; one that a registration's own
election drops must also be told that somebody else was active. -/
def Noticed (W : World) (d : Daemon) (i : Input) (s : Socket) : Prop :=
  Drops W d i s → s ∈ d.agent.subscribers ∧
    (Registers s i → d.agent.hasActiveProvider = true)

instance (W : World) (d : Daemon) (i : Input) (s : Socket) : Decidable (Drops W d i s) :=
  inferInstanceAs (Decidable (_ ∧ _))

instance (W : World) (d : Daemon) (i : Input) (s : Socket) : Decidable (Noticed W d i s) :=
  inferInstanceAs (Decidable (_ → _))

theorem mem_clients_of_isConnected (h : a.isConnected s = true) : s ∈ a.clients := by
  by_contra hn
  simp [Agent.isConnected, AList.lookup_eq_none.2 hn] at h

/-- **A registration opens the agreement**, whatever the client believed
before. -/
theorem step_registers (client : FallbackClient) (hw : Wired W d)
    (hc : d.agent.isConnected s = true) (hn : Noticed W d i s)
    (hf : d.listener.useAfterFree = false) (hr : Registers s i) :
    Listens s (d.step W i).agent ∧ ∃ ms, Tells s d.agent (d.step W i).agent ms ∧
      Agrees W s (d.step W i).agent (client.receive ms) := by
  have hnoticed := hn
  obtain ⟨msg, rfl, ht⟩ := hr
  have hv : d.agent.isValid s = true := by
    simpa [Agent.isValid] using mem_clients_of_isConnected hc
  have hstep : d.step W (.line s (some msg)) = d.handleUIRegister W s msg := by
    have hl : handlers.lookup "ui.register" = some .uiRegister := rfl
    simp [step, hf, handle, hv, handleLine, ht, hl, dispatch]
  by_cases hm : s ∈ (d.step W (.line s (some msg))).agent.providerRegistry.uiProviders
  · exact ⟨.inl hm, by
      rw [hstep] at hm ⊢
      exact agrees_handleUIRegister client hc hw.minted (.inl hm)⟩
  · obtain ⟨hs, ha⟩ := hn ⟨.inr ⟨msg, rfl, ht⟩, hm⟩
    obtain ⟨t, hact⟩ := hw.elected.hasActiveProvider_iff.1 (ha ⟨msg, rfl, ht⟩)
    have hs' : s ∈ (d.step W (.line s (some msg))).agent.subscribers := by
      rwa [hstep, (framed_handleUIRegister d s msg).1.subscribers]
    exact ⟨.inr hs', by
      rw [hstep] at hs' ⊢
      exact agrees_handleUIRegister client hc hw.minted (.inr ⟨hs', by simp [hact]⟩)⟩

/-- **And every other input carries it on** to a client that listens and
notices when it is dropped. -/
theorem step_agrees (hw : Wired W d) (hag : Agrees W s d.agent client)
    (hc : d.agent.isConnected s = true) (hl : Listens s d.agent) (hn : Noticed W d i s)
    (hf : d.listener.useAfterFree = false) (hne : i ≠ .closing s) (hne' : i ≠ .disconnected s) :
    Listens s (d.step W i).agent ∧ ∃ ms, Tells s d.agent (d.step W i).agent ms ∧
      Agrees W s (d.step W i).agent (client.receive ms) := by
  by_cases hr : Registers s i
  · exact step_registers client hw hc hn hf hr
  have hdeal := deal_step (W := W) hw.elected i
  have hlisten : Listens s (d.step W i).agent := by
    by_cases hm : s ∈ (d.step W i).agent.providerRegistry.uiProviders
    · exact .inl hm
    · refine .inr (hdeal.subscribed_of_subscribed ?_ hne')
      rcases hl with hl | hl
      · exact (hn ⟨.inl hl, hm⟩).1
      · exact hl
  exact ⟨hlisten, hdeal.agrees hw hag hc hr hne hne' hlisten⟩

end Daemon

namespace Joint

open Daemon

variable {W : World} {x : Joint} {i : Input} {link : Link}

/-! ## What a step does -/

/-- **What the client does unprompted**: its timers, and its user's answers. -/
inductive Unprompted : (FallbackClient → FallbackClient) → Prop
  | subscribeWatchdog : Unprompted .onSubscribeWatchdog
  | heartbeatTimer : Unprompted .onHeartbeatTimer
  | sendResponse (id response : String) : Unprompted (·.sendResponse id response)
  | sendCancel (id : String) : Unprompted (·.sendCancel id)

/-- **What one step does.** A connection is made or lost, the client acts
or reads, the daemon handles what is not the client's message, or its
oldest message; or nothing is done. -/
inductive Does (W : World) (x : Joint) (i : Input) : Joint → Prop
  | nothing : Does W x i x
  | connected (socket : Socket) (hi : i = .connected socket) (hl : x.link = none)
      (hv : x.daemon.agent.isValid socket = false) :
      Does W x i ({ x with link := some { socket := socket } }.act .onConnected)
  | lost (hi : i = .lost) :
      Does W x i { x with link := none, client := x.client.onDisconnected }
  | acted (f : FallbackClient → FallbackClient) (hu : Unprompted f) : Does W x i (x.act f)
  | read (socket : Socket) (toDaemon rest : List QJsonObject) (msg : QJsonObject)
      (hl : x.link = some { socket, toDaemon, toClient := msg :: rest }) :
      Does W x i
        ({ x with link := some { socket, toDaemon, toClient := rest } }.act (·.handleMessage msg))
  | served (di : BbAuth.Input) (hf : x.daemon.listener.useAfterFree = false)
      (hd : x.input? i = some di)
      (hs : ∀ link, x.link = some link → di.socket? ≠ some link.socket ∨
        ∃ peerPid, di = .newConnection link.socket peerPid) :
      Does W x i (x.serve W di)
  | handled (link : Link) (msg : QJsonObject) (rest : List QJsonObject)
      (hf : x.daemon.listener.useAfterFree = false)
      (hd : x.input? i = some (.line link.socket (some msg))) (hl : x.link = some link)
      (hv : x.daemon.agent.isValid link.socket = true) (hm : link.toDaemon = msg :: rest) :
      Does W x i (x.takeToDaemon.serve W (.line link.socket (some msg)))

/-- **Every step does one of these.** -/
theorem does_step (W : World) (x : Joint) (i : Input) : Does W x i (x.step W i) := by
  unfold Joint.step
  split
  · exact .nothing
  next hf =>
  rw [Bool.not_eq_true] at hf
  cases i with
  | connected socket =>
      dsimp only
      split
      · exact .nothing
      next hv =>
        simp only [Bool.or_eq_true, not_or, Bool.not_eq_true, Option.isSome_eq_false_iff,
          Option.isNone_iff_eq_none] at hv
        exact .connected socket rfl hv.1 hv.2
  | lost =>
      dsimp only
      split
      · exact .lost rfl
      · exact .nothing
  | toClient =>
      dsimp only
      split
      next socket toDaemon msg rest hl => exact .read socket toDaemon rest msg hl
      · exact .nothing
  | subscribeWatchdog => exact .acted _ .subscribeWatchdog
  | heartbeatTimer => exact .acted _ .heartbeatTimer
  | sendResponse id response => exact .acted _ (.sendResponse id response)
  | sendCancel id => exact .acted _ (.sendCancel id)
  | accepted peerPid =>
      dsimp only
      split
      next di hdi =>
        refine .served di hf hdi fun link hlink => .inr ⟨peerPid, ?_⟩
        simpa [input?, hlink, eq_comm] using hdi
      · exact .nothing
  | daemon di =>
      dsimp only
      split
      next di' hdi =>
        -- anything but what comes over the client's own socket
        refine .served di' hf hdi fun link hlink => .inl ?_
        simp only [input?, hlink] at hdi
        split at hdi
        · cases hdi
        next hne =>
          cases hdi
          exact hne
      · exact .nothing
  | toDaemon =>
      dsimp only
      split
      next di hdi =>
        -- the daemon reads the oldest message, of a connection it has taken
        have hin := hdi
        cases hl : x.link with
        | none => simp [input?, hl] at hdi
        | some link =>
            simp only [input?, hl] at hdi
            split at hdi
            next hv =>
              obtain ⟨msg, hmsg, rfl⟩ := Option.map_eq_some_iff.1 hdi
              obtain ⟨rest, hrest⟩ := List.head?_eq_some_iff.1 hmsg
              exact .handled link msg rest hf hin hl hv hrest
            · cases hdi
      · exact .nothing

/-! ## The two of them -/

/-- **The step is noticed** by the client, if the daemon handles anything
in it. -/
def Heeded (W : World) (x : Joint) (i : Input) : Prop :=
  ∀ link di, x.link = some link → x.input? i = some di → Noticed W x.daemon di link.socket

instance (W : World) (x : Joint) (i : Input) : Decidable (Heeded W x i) :=
  decidable_of_iff (∀ link ∈ x.link, ∀ di ∈ x.input? i, Noticed W x.daemon di link.socket)
    ⟨fun h link di hl hd => h link hl di hd, fun h link hl di hd => h link di hl hd⟩

/-- **How far a connection has come**: both greetings are under way; the
registration has been handled; both have been. -/
inductive Linked (W : World) (d : Daemon) (client : FallbackClient) (link : Link) : Prop
  | greeting (rest : List QJsonObject)
      (hrest : link.toDaemon =
        FallbackClient.registerMessage :: FallbackClient.subscribeMessage :: rest)
      (hl : ¬ Listens link.socket d.agent)
      (hc : ∀ c, d.agent.clients.lookup link.socket = some c → c.state = .connected)
  | registered (rest : List QJsonObject)
      (hrest : link.toDaemon = FallbackClient.subscribeMessage :: rest)
      (hl : Listens link.socket d.agent) (hc : d.agent.isConnected link.socket = true)
      (hag : Agrees W link.socket d.agent (client.receive link.toClient))
  | subscribed (hs : link.socket ∈ d.agent.subscribers)
      (hc : d.agent.isConnected link.socket = true)
      (hag : Agrees W link.socket d.agent (client.receive link.toClient))

/-- **The invariant of the two.** -/
structure Joined (W : World) (x : Joint) : Prop where
  wired : Wired W x.daemon
  linked : ∀ link, x.link = some link → Linked W x.daemon x.client link

/-! ## The client's steps -/

/-- What the client writes, it appends; what it believes is not touched. -/
theorem Linked.written {d : Daemon} {client client' : FallbackClient}
    (h : Linked W d client link) (ha : FallbackClient.Alike client client')
    (ms : List QJsonObject) :
    Linked W d client' { link with toDaemon := link.toDaemon ++ ms } := by
  have hag : Agrees W link.socket d.agent (client.receive link.toClient) →
      Agrees W link.socket d.agent (client'.receive link.toClient) :=
    fun ⟨id, hn, hb⟩ => ⟨id, hn, (ha.receive _).believes hb⟩
  cases h with
  | greeting rest hrest hl hc => exact .greeting (rest ++ ms) (by simp [hrest]) hl hc
  | registered rest hrest hl hc h => exact .registered (rest ++ ms) (by simp [hrest]) hl hc (hag h)
  | subscribed hs hc h => exact .subscribed hs hc (hag h)

/-- What the client reads was counted already. -/
theorem Linked.handled {d : Daemon} {client : FallbackClient} {socket : Socket}
    {toDaemon rest : List QJsonObject} {msg : QJsonObject}
    (h : Linked W d client { socket, toDaemon, toClient := msg :: rest }) (ms : List QJsonObject) :
    Linked W d (client.handleMessage msg)
      { socket, toDaemon := toDaemon ++ ms, toClient := rest } := by
  cases h with
  | greeting rest' hrest hl hc =>
      dsimp only at hrest
      exact .greeting (rest' ++ ms) (by simp [hrest]) hl hc
  | registered rest' hrest hl hc hag =>
      dsimp only at hrest
      exact .registered (rest' ++ ms) (by simp [hrest]) hl hc hag
  | subscribed hs hc hag => exact .subscribed hs hc hag

theorem Joined.act (h : Joined W x) {f : FallbackClient → FallbackClient}
    (hf : ∀ c, FallbackClient.Alike c (f c)) : Joined W (x.act f) where
  wired := h.wired
  linked link hlink := by
    obtain ⟨link', hl', rfl⟩ := Option.map_eq_some_iff.1 hlink
    exact (h.linked link' hl').written (hf x.client) _

theorem alike_onSubscribeWatchdog (c : FallbackClient) :
    FallbackClient.Alike c c.onSubscribeWatchdog := by
  have hr : FallbackClient.Alike c c.registerProvider := FallbackClient.alike_sendJson c _
  have hs : ∀ c : FallbackClient, FallbackClient.Alike c c.subscribe :=
    fun c => FallbackClient.alike_sendJson c _
  unfold FallbackClient.onSubscribeWatchdog
  dsimp only
  split
  · exact .refl c
  split <;> split
  · exact hr.trans (hs _)
  · exact hr
  · exact hs c
  · exact .refl c

theorem alike_onHeartbeatTimer (c : FallbackClient) :
    FallbackClient.Alike c c.onHeartbeatTimer := by
  unfold FallbackClient.onHeartbeatTimer
  split
  · exact .refl c
  · exact FallbackClient.alike_sendJson c _

/-- **A new connection** begins with the two greetings. -/
theorem written_onConnected (c : FallbackClient) : c.written c.onConnected =
    [FallbackClient.registerMessage, FallbackClient.subscribeMessage] := by
  obtain ⟨connected, subscribed, registered, active, id, known, pending, pendingId, log⟩ := c
  cases active <;>
  · simp [FallbackClient.written, FallbackClient.onConnected, FallbackClient.resetConnection,
      FallbackClient.clearPending, FallbackClient.setProviderActive,
      FallbackClient.registerProvider, FallbackClient.subscribe, FallbackClient.sendJson,
      FallbackClient.emit, List.append_assoc]
    rfl

/-! ## The daemon's steps -/

variable {d : Daemon} {client : FallbackClient} {di : BbAuth.Input}

/-- Where the client agrees and listens, it still does once the daemon has
handled an input that is noticed. -/
theorem Linked.goesOn (hw : Wired W d) (hf : d.listener.useAfterFree = false)
    (hn : Noticed W d di link.socket) (hne : di ≠ .closing link.socket)
    (hne' : di ≠ .disconnected link.socket) (hl : Listens link.socket d.agent)
    (hc : d.agent.isConnected link.socket = true)
    (hag : Agrees W link.socket d.agent (client.receive link.toClient)) :
    Listens link.socket (d.step W di).agent ∧
      (d.step W di).agent.isConnected link.socket = true ∧
      Agrees W link.socket (d.step W di).agent (client.receive
        (link.toClient ++ heard link.socket d.agent (d.step W di).agent)) := by
  obtain ⟨hl', ms, htells, hag'⟩ := step_agrees hw hag hc hl hn hf hne hne'
  refine ⟨hl', (deal_step hw.elected di).isConnected hc hne hne', ?_⟩
  rw [htells.heard, FallbackClient.receive_append]
  exact hag'

/-- The daemon handles something that is not the client's: a connection
that has only begun stays as it was, and one that has got further agrees on. -/
theorem Linked.elsewhere (h : Linked W d client link) (hw : Wired W d)
    (hf : d.listener.useAfterFree = false) (hn : Noticed W d di link.socket)
    (hi : di.socket? ≠ some link.socket) :
    Linked W (d.step W di) client
      { link with toClient := link.toClient ++ heard link.socket d.agent (d.step W di).agent } := by
  have hdeal := deal_step (W := W) hw.elected di
  have hne : di ≠ .closing link.socket := fun he => hi (by rw [he]; rfl)
  have hne' : di ≠ .disconnected link.socket := fun he => hi (by rw [he]; rfl)
  cases h with
  | greeting rest hrest hl hc =>
      refine .greeting rest hrest (fun hl' => hl (hdeal.listens_of_listens hi hl')) fun c hc' => ?_
      exact hc c (by rwa [hdeal.lookup_clients hi] at hc')
  | registered rest hrest hl hc hag =>
      obtain ⟨hl', hc', hag'⟩ := goesOn hw hf hn hne hne' hl hc hag
      exact .registered rest hrest hl' hc' hag'
  | subscribed hs hc hag =>
      obtain ⟨-, hc', hag'⟩ := goesOn hw hf hn hne hne' (.inr hs) hc hag
      exact .subscribed (hdeal.subscribed_of_subscribed hs hne') hc' hag'

/-- The daemon takes the connection, if it has not yet. -/
theorem Linked.accepted (h : Linked W d client link) (hf : d.listener.useAfterFree = false)
    (peerPid : Pid) :
    Linked W (d.step W (.newConnection link.socket peerPid)) client
      { link with
        toClient := link.toClient ++
          heard link.socket d.agent (d.step W (.newConnection link.socket peerPid)).agent } := by
  have hheard : heard link.socket d.agent
      (d.step W (.newConnection link.socket peerPid)).agent = [] := by
    simp only [Daemon.step, hf, Bool.false_eq_true, if_false, handle]
    split <;> simp [heard, withAgent]
  rw [hheard, List.append_nil]
  by_cases hv : d.agent.isValid link.socket = true
  · have hsame : d.step W (.newConnection link.socket peerPid) = d := by
      simp [Daemon.step, hf, handle, hv]
    rw [hsame]
    exact h
  · have hnew : d.step W (.newConnection link.socket peerPid) = d.withAgent
        (d.agent.setClients (d.agent.clients.insert link.socket { peerPid := peerPid })) := by
      simp [Daemon.step, hf, handle, hv]
    have hnot : d.agent.isConnected link.socket ≠ true :=
      fun hc => hv (by simpa [isValid] using mem_clients_of_isConnected hc)
    cases h with
    | greeting rest hrest hl hc =>
        rw [hnew]
        refine .greeting rest hrest hl fun c hc' => ?_
        simp only [withAgent, setClients_clients, Table.lookup_insert, if_true,
          Option.some_inj] at hc'
        exact hc' ▸ rfl
    | registered rest hrest hl hc hag => exact absurd hc hnot
    | subscribed hs hc hag => exact absurd hc hnot

/-- The daemon reads the client's oldest message. -/
theorem Linked.read (h : Linked W d client link) (hw : Wired W d)
    (hf : d.listener.useAfterFree = false) {msg : QJsonObject} {rest : List QJsonObject}
    (hd : link.toDaemon = msg :: rest) (hv : d.agent.isValid link.socket = true)
    (hn : Noticed W d (.line link.socket (some msg)) link.socket) :
    Linked W (d.step W (.line link.socket (some msg))) client
      { link with
        toDaemon := rest
        toClient := link.toClient ++
          heard link.socket d.agent (d.step W (.line link.socket (some msg))).agent } := by
  have hdeal := deal_step (W := W) hw.elected (.line link.socket (some msg))
  cases h with
  | greeting rest' hrest hl hc =>
      obtain ⟨rfl, rfl⟩ := List.cons_eq_cons.1 (hd.symm.trans hrest)
      have hconn : d.agent.isConnected link.socket = true := by
        obtain ⟨c, hc'⟩ := Table.mem_iff_exists.1 (Table.contains_eq_true.1 hv)
        simp [isConnected, hc', hc c hc']
      obtain ⟨hl', ms, htells, hag⟩ := step_registers (client.receive link.toClient) hw hconn hn hf
        ⟨_, rfl, rfl⟩
      refine .registered rest' rfl hl' (hdeal.isConnected hconn (by simp) (by simp)) ?_
      rw [htells.heard, FallbackClient.receive_append]
      exact hag
  | registered rest' hrest hl hc hag =>
      obtain ⟨rfl, rfl⟩ := List.cons_eq_cons.1 (hd.symm.trans hrest)
      obtain ⟨-, hc', hag'⟩ := goesOn hw hf hn (by simp) (by simp) hl hc hag
      refine .subscribed ?_ hc' hag'
      have hstep : d.step W (.line link.socket (some FallbackClient.subscribeMessage)) =
          d.handleSubscribe W link.socket := by
        have hl : handlers.lookup "subscribe" = some .subscribe := rfl
        simp [Daemon.step, hf, handle, hv, handleLine, FallbackClient.subscribeMessage, hl, dispatch]
      rw [hstep, handleSubscribe_agent, sendJson_subscribers, (still_replayed _ _).subscribers]
      exact (mem_subscribe _ _ _).2 (.inl rfl)
  | subscribed hs hc hag =>
      obtain ⟨-, hc', hag'⟩ := goesOn hw hf hn (by simp) (by simp) (.inr hs) hc hag
      exact .subscribed (hdeal.subscribed_of_subscribed hs (by simp)) hc' hag'

/-! ## Every step -/

/-- What the client does unprompted leaves what it believes. -/
theorem Unprompted.alike {f : FallbackClient → FallbackClient} (h : Unprompted f)
    (c : FallbackClient) : FallbackClient.Alike c (f c) := by
  cases h with
  | subscribeWatchdog => exact alike_onSubscribeWatchdog c
  | heartbeatTimer => exact alike_onHeartbeatTimer c
  | sendResponse id response => exact FallbackClient.alike_sendJson c _
  | sendCancel id => exact FallbackClient.alike_sendJson c _

/-- **Every step that is heeded keeps the invariant.** -/
theorem Joined.step (h : Joined W x) (hh : Heeded W x i) : Joined W (x.step W i) := by
  generalize hx : x.step W i = x'
  have hdoes : Does W x i x' := hx ▸ does_step W x i
  cases hdoes with
  | nothing => exact h
  | connected socket hi hl hv =>
      refine ⟨h.wired, fun link hlink => ?_⟩
      obtain rfl := Option.some.inj hlink
      have hnc : socket ∉ x.daemon.agent.clients := by simpa [isValid] using hv
      refine .greeting [] ?_ ?_ fun c hc => ?_
      · simp [written_onConnected]
      · rintro (hm | hm)
        · exact hnc (h.wired.plugged.registered _ hm)
        · exact hnc (h.wired.plugged.subscribed _ hm)
      · have hnone : x.daemon.agent.clients.lookup socket = some c := hc
        rw [AList.lookup_eq_none.2 hnc] at hnone
        cases hnone
  | lost => exact ⟨h.wired, fun link hlink => by cases hlink⟩
  | acted f hu => exact h.act hu.alike
  | read socket toDaemon rest msg hl =>
      refine ⟨h.wired, fun link hlink => ?_⟩
      obtain rfl := Option.some.inj hlink
      exact (h.linked _ hl).handled _
  | served di hf hd hs =>
      refine ⟨h.wired.step di, fun link hlink => ?_⟩
      obtain ⟨link', hl', rfl⟩ := Option.map_eq_some_iff.1 hlink
      rcases hs link' hl' with hi | ⟨peerPid, rfl⟩
      · exact (h.linked link' hl').elsewhere h.wired hf (hh link' di hl' hd) hi
      · exact (h.linked link' hl').accepted hf peerPid
  | handled link msg rest hf hd hl hv hm =>
      refine ⟨h.wired.step _, fun link' hlink => ?_⟩
      obtain ⟨link'', hl'', rfl⟩ := Option.map_eq_some_iff.1 hlink
      obtain ⟨l, hl', rfl⟩ := Option.map_eq_some_iff.1 hl''
      obtain rfl := Option.some.inj (hl.symm.trans hl')
      have hr := (h.linked link hl).read h.wired hf hm hv (hh link _ hl hd)
      rw [hm]
      exact hr

/-- The invariant holds in every state of a run whose steps are heeded. -/
theorem joined_run {ins : List Input} (h : (machine W).Meets (Heeded W) ins) :
    Joined W ((machine W).run ins) :=
  Machine.invariant_of_meets (I := Joined W) ⟨wired_init W, fun link hlink => by cases hlink⟩
    (fun _ _ hx hh => hx.step hh) ins h

/-- **A conversation at rest**: the client is connected, both its greetings
have been answered, and nothing is under way in either direction. -/
structure AtRest (x : Joint) (socket : Socket) : Prop where
  link : x.link = some { socket := socket }
  connected : x.client.connected = true
  registered : x.client.registered = true
  subscribed : x.client.subscribed = true

/-- **The client believes itself active exactly where the daemon authorizes
its socket**, whenever the conversation is at rest. -/
def Agreed (x : Joint) : Prop := ∀ socket, AtRest x socket →
  x.client.providerActive = x.daemon.agent.providerRegistry.isAuthorized socket

/-- **The two agree in every run whose steps are heeded.** As long as no
election drops the client's registration before its subscription has been
handled, they agree whenever nothing is under way. -/
theorem agreed_of_heeded (W : World) (ins : List Input) (h : (machine W).Meets (Heeded W) ins) :
    Agreed ((machine W).run ins) := by
  intro socket hrest
  have hj := joined_run h
  cases hj.linked _ hrest.link with
  | greeting rest hd hl hc => cases hd
  | registered rest hd hl hc hag => cases hd
  | subscribed hs hc hag =>
      obtain ⟨id, hn, hb⟩ := hag
      rw [isAuthorized_eq_permits hj.wired.elected]
      exact hb.providerActive

/-- The client registers and subscribes, and is dropped as stale only then:
it agrees. -/
theorem agreed_of_heeded_subscribed :
    let W := World.plain (fun n => if n < 3 then 0 else 20000) false
    let x := (machine W).run [.connected 1, .accepted 0, .toDaemon, .toDaemon,
      .daemon .providerMaintenance, .toClient, .toClient, .toClient, .toClient, .toDaemon, .toClient]
    x.link = some { socket := 1 } ∧ x.daemon.agent.providerRegistry.sockets = [] ∧ Agreed x :=
  ⟨by decide, by decide, agreed_of_heeded _ _ (by decide)⟩

/-- **The client is dropped before its subscription is handled.** Another
provider is active; the clock jumps, and both are dropped. The client is
authorized now, and does not know it. -/
theorem not_agreed_dropped : ¬ ∀ (W : World) (ins : List Input), Agreed ((machine W).run ins) := by
  intro h
  have hx := h (World.plain (fun n => if n < 5 then 0 else 20000) false)
    [.daemon (.newConnection 2 0),
      .daemon (.line 2 (some [("type", "ui.register"), ("priority", .int 100)])),
      .connected 1, .accepted 0, .toDaemon, .daemon .providerMaintenance, .toDaemon, .toClient,
      .toClient] 1 ⟨by decide, by decide, by decide, by decide⟩
  exact absurd hx (by decide)

end Joint

end BbAuth
