import BbAuth.Provider.Conduct
import BbAuth.Provider.Conversation
/-!
# A registration is not regained

A client that the daemon has pruned goes on sending heartbeats, and each is
refused: `Provider not registered`. The client shows the refusal and keeps
`registered` set; only a new connection clears it. Its watchdog registers a
client that is not registered, so this one is never registered again.

What makes the statement one about every run is the order of the channel.
A heartbeat is written by a registered client and a registration by one
that is not, so no registration is under way behind a heartbeat.
-/

namespace BbAuth

/-- The message registers a provider. -/
def IsRegister (j : QJsonObject) : Prop := (j.value "type").toString = "ui.register"

/-- The message is a provider's heartbeat. -/
def IsHeartbeat (j : QJsonObject) : Prop := (j.value "type").toString = "ui.heartbeat"

instance (j : QJsonObject) : Decidable (IsRegister j) := inferInstanceAs (Decidable (_ = _))

instance (j : QJsonObject) : Decidable (IsHeartbeat j) := inferInstanceAs (Decidable (_ = _))

namespace FallbackClient

variable {P : QJsonObject → Prop} {c c' : FallbackClient} {j : QJsonObject}

/-! ## What the client writes -/

/-- **What was written was sent by a deed.** -/
theorem Deeds.log (h : Deeds P c c') : ∃ os, c'.log = c.log ++ os ∧ ∀ j, .sent j ∈ os → P j := by
  induction h with
  | refl => exact ⟨[], (List.append_nil _).symm, fun j hj => by cases hj⟩
  | @tail c₁ c₂ _ hdeed ih =>
      obtain ⟨os, hos, hP⟩ := ih
      have hemit : ∀ {o}, (∀ j, o = .sent j → P j) → c₂.log = c₁.log ++ [o] →
          ∃ os, c₂.log = c.log ++ os ∧ ∀ j, .sent j ∈ os → P j := by
        intro o ho hl
        refine ⟨os ++ [o], by rw [hl, hos, List.append_assoc], fun j hj => ?_⟩
        rcases List.mem_append.1 hj with hj | hj
        · exact hP j hj
        · exact ho j (List.mem_singleton.1 hj).symm
      cases hdeed with
      | edit hl ha hc hr => exact ⟨os, hl.trans hos, hP⟩
      | @sent j hj =>
          by_cases hc : c₁.connected = true
          · refine hemit (o := .sent j) (fun k hk => Output.sent.inj hk ▸ hj) ?_
            simp [sendJson, hc, emit]
          · have hsame : c₁.sendJson j = c₁ := by simp [sendJson, hc]
            rw [hsame]
            exact ⟨os, hos, hP⟩
      | switched active => exact hemit (fun k hk => by cases hk) rfl
      | status text => exact hemit (fun k hk => by cases hk) rfl
      | told ho h => exact hemit (fun k hk => by subst hk; exact ho.elim) rfl

/-- What was written, in terms of the trace. -/
theorem Deeds.of_mem_written (h : Deeds P c c') (hj : j ∈ c.written c') : P j := by
  obtain ⟨os, hos, hP⟩ := h.log
  simp only [written, hos, List.drop_left, List.mem_filterMap] at hj
  obtain ⟨o, ho, hs⟩ := hj
  cases o with
  | sent k =>
      obtain rfl := Option.some.inj hs
      exact hP k ho
  | connectionStateChanged | providerStateChanged | statusMessage | sessionCreated | sessionUpdated
  | sessionClosed => cases hs

/-! ## What it writes of its own accord -/

/-- **What a client may write**: a registration while it is not
registered, a heartbeat while it is. -/
def Proper (c : FallbackClient) (j : QJsonObject) : Prop :=
  (IsRegister j → c.registered = false) ∧ (IsHeartbeat j → c.registered = true)

theorem proper_of_type {t : String} (ht : (j.value "type").toString = t) (hr : t ≠ "ui.register")
    (hh : t ≠ "ui.heartbeat") : c.Proper j :=
  ⟨fun h => absurd (ht.symm.trans h) hr, fun h => absurd (ht.symm.trans h) hh⟩

theorem proper_subscribeMessage : c.Proper subscribeMessage :=
  proper_of_type (t := "subscribe") rfl (by decide) (by decide)

/-- A client that reads writes properly. -/
theorem Deeds.proper (h : Deeds (· = subscribeMessage) c c') : Deeds c.Proper c c' :=
  h.mono fun _ hj => hj ▸ proper_subscribeMessage

theorem proper_onSubscribeWatchdog (c : FallbackClient) : Deeds c.Proper c c.onSubscribeWatchdog := by
  refine deeds_onSubscribeWatchdog c proper_subscribeMessage fun hr => ⟨fun _ => hr, fun h => ?_⟩
  exact absurd h (by decide)

theorem proper_onHeartbeatTimer (c : FallbackClient) : Deeds c.Proper c c.onHeartbeatTimer := by
  refine deeds_onHeartbeatTimer c fun hr => ⟨fun h => ?_, fun _ => hr⟩
  exact absurd h (by simp [IsRegister])

end FallbackClient

open FallbackClient

namespace Joint

open Daemon Agent ProviderRegistry

variable {W : World} {x x' : Joint} {i : Input} {link : Link} {s : Socket}

theorem Unprompted.deeds {f : FallbackClient → FallbackClient} (h : Unprompted f)
    (c : FallbackClient) : Deeds c.Proper c (f c) := by
  cases h with
  | subscribeWatchdog => exact proper_onSubscribeWatchdog c
  | heartbeatTimer => exact proper_onHeartbeatTimer c
  | sendResponse id response =>
      exact deeds_sendJson c
        (proper_of_type (t := "session.respond") (by simp) (by decide) (by decide))
  | sendCancel id =>
      exact deeds_sendJson c
        (proper_of_type (t := "session.cancel") (by simp) (by decide) (by decide))

/-! ## The order of the channel -/

/-- **What is under way to the daemon is in order**: heartbeats come from a
registered client, and no registration comes behind one. -/
structure InOrder (c : FallbackClient) (ms : List QJsonObject) : Prop where
  registered : ∀ j ∈ ms, IsHeartbeat j → c.registered = true
  pairwise : ms.Pairwise fun j k => IsHeartbeat j → ¬ IsRegister k

/-- What a client writes properly goes to the end of the channel. -/
theorem InOrder.append {c c' : FallbackClient} {ms : List QJsonObject} (h : InOrder c ms)
    (hu : Deeds c.Proper c c') : InOrder c' (ms ++ c.written c') where
  registered j hj hb := hu.registered <| (List.mem_append.1 hj).elim
    (fun hj => h.registered j hj hb) fun hj => (hu.of_mem_written hj).2 hb
  pairwise := by
    -- a registration is written while the client is not registered, so behind no heartbeat
    have hlast : c.registered = true → ∀ k ∈ c.written c', ¬ IsRegister k := by
      intro hr k hk hreg
      have := (hu.of_mem_written hk).1 hreg
      simp [hr] at this
    refine List.pairwise_append.2 ⟨h.pairwise, ?_, ?_⟩
    · exact List.pairwise_of_forall_mem_list fun j hj k hk hb =>
        hlast ((hu.of_mem_written hj).2 hb) k hk
    · exact fun j hj k hk hb => hlast (h.registered j hj hb) k hk

theorem InOrder.tail {c : FallbackClient} {ms : List QJsonObject} (h : InOrder c ms) :
    InOrder c ms.tail where
  registered j hj := h.registered j (List.mem_of_mem_tail hj)
  pairwise := h.pairwise.tail

/-- **The invariant of every run**: the channel is in order, and the daemon
does not close the client's connection of its own accord. -/
structure Orderly (W : World) (x : Joint) : Prop where
  wired : Wired W x.daemon
  inOrder : ∀ link, x.link = some link → InOrder x.client link.toDaemon
  isConnected : ∀ link, x.link = some link →
    x.daemon.agent.isValid link.socket = true → x.daemon.agent.isConnected link.socket = true

theorem Orderly.act (h : Orderly W x) {f : FallbackClient → FallbackClient}
    (hf : Deeds x.client.Proper x.client (f x.client)) : Orderly W (x.act f) where
  wired := h.wired
  inOrder link hlink := by
    obtain ⟨link', hl', rfl⟩ := Option.map_eq_some_iff.1 hlink
    exact (h.inOrder link' hl').append hf
  isConnected link hlink := by
    obtain ⟨link', hl', rfl⟩ := Option.map_eq_some_iff.1 hlink
    exact h.isConnected link' hl'

/-- A connection that the daemon has, or takes, is connected. -/
theorem isConnected_served {d : Daemon} {di : BbAuth.Input} (hw : Wired W d)
    (hf : d.listener.useAfterFree = false)
    (hc : d.agent.isValid s = true → d.agent.isConnected s = true)
    (hs : di.socket? ≠ some s ∨ ∃ peerPid, di = .newConnection s peerPid)
    (hv : (d.step W di).agent.isValid s = true) : (d.step W di).agent.isConnected s = true := by
  rcases hs with hs | ⟨peerPid, rfl⟩
  · have hl := (deal_step (W := W) hw.elected di).lookup_clients hs
    have hv' : d.agent.isValid s = true := by
      simp only [isValid, Table.contains_eq_true, Table.mem_iff_exists] at hv ⊢
      rwa [hl] at hv
    simpa only [isConnected, hl] using hc hv'
  · by_cases hv' : d.agent.isValid s = true
    · simpa [Daemon.step, hf, handle, hv'] using hc hv'
    · simp [Daemon.step, hf, handle, hv', withAgent, isConnected]

/-- **Every step keeps the invariant.** -/
theorem Orderly.step (h : Orderly W x) (i : Input) : Orderly W (x.step W i) := by
  generalize hx : x.step W i = x'
  have hdoes : Does W x i x' := hx ▸ does_step W x i
  cases hdoes with
  | nothing => exact h
  | connected socket hi hl hv =>
      refine ⟨h.wired, fun link hlink => ?_, fun link hlink hvalid => ?_⟩
      · obtain rfl := Option.some.inj hlink
        have hw : x.client.written x.client.onConnected = [registerMessage, subscribeMessage] :=
          written_onConnected x.client
        constructor
        · simp [hw, IsHeartbeat, registerMessage, subscribeMessage]
        · simp [hw, IsHeartbeat, registerMessage, subscribeMessage]
      · obtain rfl := Option.some.inj hlink
        exact absurd (hv.symm.trans hvalid) (by decide)
  | lost => exact ⟨h.wired, fun link hlink => (by cases hlink), fun link hlink => (by cases hlink)⟩
  | acted f hu => exact h.act (hu.deeds x.client)
  | read socket toDaemon rest msg hl =>
      refine Orderly.act (x := { x with link := some { socket, toDaemon, toClient := rest } })
        ⟨h.wired, fun link hlink => ?_, fun link hlink => ?_⟩ (deeds_handleMessage _ msg).proper
      · obtain rfl := Option.some.inj hlink
        have := h.inOrder _ hl
        exact this
      · obtain rfl := Option.some.inj hlink
        have := h.isConnected _ hl
        exact this
  | served di hf hd hs =>
      refine ⟨h.wired.step di, fun link hlink => ?_, fun link hlink hv => ?_⟩
      · obtain ⟨link', hl', rfl⟩ := Option.map_eq_some_iff.1 hlink
        exact h.inOrder link' hl'
      · obtain ⟨link', hl', rfl⟩ := Option.map_eq_some_iff.1 hlink
        exact isConnected_served h.wired hf (h.isConnected link' hl') (hs link' hl') hv
  | handled link msg rest hf hd hl hv hm =>
      refine ⟨h.wired.step _, fun link' hlink => ?_, fun link' hlink _ => ?_⟩
      · simp only [serve, takeToDaemon, hl, Option.map_some, Option.some_inj] at hlink
        exact hlink ▸ (h.inOrder link hl).tail
      · simp only [serve, takeToDaemon, hl, Option.map_some, Option.some_inj] at hlink
        exact hlink ▸ (deal_step h.wired.elected _).isConnected (h.isConnected link hl hv) (by simp)
          (by simp)

theorem orderly_run (ins : List Input) : Orderly W ((machine W).run ins) :=
  Machine.invariant ⟨wired_init W, fun link hlink => (by cases hlink),
    fun link hlink => (by cases hlink)⟩ (fun _ i h => h.step i) ins

/-! ## The lapse -/

/-- **The registration has lapsed** and nothing is under way that could
renew it: the client believes itself registered, and is not. -/
structure Lapsed (s : Socket) (x : Joint) : Prop where
  link : ∃ link, x.link = some link ∧ link.socket = s ∧ ∀ j ∈ link.toDaemon, ¬ IsRegister j
  registered : x.client.registered = true
  pruned : s ∉ x.daemon.agent.providerRegistry.uiProviders

theorem Lapsed.act (h : Lapsed s x) {f : FallbackClient → FallbackClient}
    (hf : Deeds x.client.Proper x.client (f x.client)) : Lapsed s (x.act f) := by
  obtain ⟨⟨link, hl, hs, hr⟩, hreg, hp⟩ := h
  refine ⟨⟨_, Option.map_eq_some_iff.2 ⟨link, hl, rfl⟩, hs, fun j hj hjr => ?_⟩, hf.registered hreg, hp⟩
  rcases List.mem_append.1 hj with hj | hj
  · exact hr j hj hjr
  · have := (hf.of_mem_written hj).1 hjr
    simp [hreg] at this

/-- **Only a new connection ends it.** -/
theorem Lapsed.step (h : Lapsed s x) (he : x.daemon.Elected) (hi : i ≠ .lost) :
    Lapsed s (x.step W i) := by
  generalize hx : x.step W i = x'
  have hdoes : Does W x i x' := hx ▸ does_step W x i
  have hlapsed := h
  obtain ⟨⟨link, hl, hs, hr⟩, hreg, hp⟩ := h
  cases hdoes with
  | nothing => exact hlapsed
  | connected socket hi' hn => exact absurd (hn.symm.trans hl) (by simp)
  | lost hi' => exact absurd hi' hi
  | acted f hu => exact hlapsed.act (hu.deeds x.client)
  | read socket toDaemon rest msg hl' =>
      obtain rfl := Option.some.inj (hl'.symm.trans hl)
      exact Lapsed.act (x := { x with link := some { socket, toDaemon, toClient := rest } })
        ⟨⟨_, rfl, hs, hr⟩, hreg, hp⟩ (deeds_handleMessage _ msg).proper
  | served di hf hd hs' =>
      refine ⟨⟨_, Option.map_eq_some_iff.2 ⟨link, hl, rfl⟩, hs, hr⟩, hreg, fun hm => hp ?_⟩
      refine (deal_step he di).registered_of_registered ?_ hm
      rcases hs' link hl with hne | ⟨peerPid, rfl⟩
      · exact not_registers_of_ne (hs ▸ hne)
      · rintro ⟨msg, hmsg, -⟩
        cases hmsg
  | handled link' msg rest hf hd hl' hv hm =>
      obtain rfl := Option.some.inj (hl.symm.trans hl')
      have htaken : x.takeToDaemon.link = some { link with toDaemon := link.toDaemon.tail } :=
        Option.map_eq_some_iff.2 ⟨link, hl, rfl⟩
      refine ⟨⟨_, Option.map_eq_some_iff.2 ⟨_, htaken, rfl⟩, hs, fun j hj => ?_⟩, hreg,
        fun hmem => hp ?_⟩
      · exact hr j (List.mem_of_mem_tail hj)
      · refine (deal_step he _).registered_of_registered ?_ hmem
        rintro ⟨j, hj, hjr⟩
        cases hj
        exact hr msg (hm ▸ List.mem_cons_self) hjr

/-- A lapsed client's watchdog does not register. -/
theorem Lapsed.not_isRegister (h : Lapsed s x) :
    ∀ j ∈ x.client.written x.client.onSubscribeWatchdog, ¬ IsRegister j := by
  intro j hj hr
  have := ((proper_onSubscribeWatchdog x.client).of_mem_written hj).1 hr
  simp [h.registered] at this

/-! ## The exchange -/

/-- **The daemon is about to read a heartbeat of the client.** -/
def Beats (x : Joint) (link : Link) : Prop :=
  x.link = some link ∧ x.daemon.listener.useAfterFree = false ∧
    x.daemon.agent.isValid link.socket = true ∧ ∃ j ∈ link.toDaemon.head?, IsHeartbeat j

instance (x : Joint) (link : Link) : Decidable (Beats x link) :=
  inferInstanceAs (Decidable (_ ∧ _ ∧ _ ∧ _))

/-- **A heartbeat renews the registration** of a provider, unless the clock
jumps while it is handled: the election that follows reads it again. -/
def Renews (W : World) (d : Daemon) (s : Socket) : Prop :=
  s ∈ d.agent.providerRegistry.uiProviders ∧
    W.currentMSecs (d.agent.tick + 1) - W.currentMSecs d.agent.tick ≤ PROVIDER_HEARTBEAT_TIMEOUT_MS

instance (W : World) (d : Daemon) (s : Socket) : Decidable (Renews W d s) :=
  inferInstanceAs (Decidable (_ ∧ _))

/-- **Who is registered after a heartbeat.** -/
theorem mem_handleUIHeartbeat {d : Daemon} (hc : d.agent.isConnected s = true) :
    s ∈ (d.handleUIHeartbeat W s).agent.providerRegistry.uiProviders ↔ Renews W d s := by
  cases hp : d.agent.providerRegistry.uiProviders.lookup s with
  | none =>
      have hn : s ∉ d.agent.providerRegistry.uiProviders := AList.lookup_eq_none.1 hp
      simp [handleUIHeartbeat, ProviderRegistry.heartbeat, hp, Renews, hn, Daemon.sendJson, withAgent]
  | some provider =>
      have hm : s ∈ d.agent.providerRegistry.uiProviders := Table.mem_iff_exists.2 ⟨_, hp⟩
      set stamped : UIProvider :=
        { provider with lastHeartbeatMs := W.currentMSecs d.agent.tick } with hstamped
      set renewed : Agent := (d.agent.setRegistry { d.agent.providerRegistry with
        uiProviders := d.agent.providerRegistry.uiProviders.insert s stamped }).ticked with hrenewed
      have hagent : (d.handleUIHeartbeat W s).agent.providerRegistry =
          (renewed.recomputeActiveProvider W).2.providerRegistry := by
        simp only [handleUIHeartbeat, ProviderRegistry.heartbeat, hp, withAgent,
          sendJson_providerRegistry, recomputeAndEmit_providerRegistry, hrenewed, hstamped]
      have hlook : renewed.providerRegistry.uiProviders.lookup s = some stamped := by
        simp [hrenewed]
      have hpruned : isPruned (W.currentMSecs (d.agent.tick + 1)) d.agent.isConnected s stamped =
          false ↔ W.currentMSecs (d.agent.tick + 1) - W.currentMSecs d.agent.tick ≤
            PROVIDER_HEARTBEAT_TIMEOUT_MS := by
        simp [isPruned, hc, hstamped]
      rw [hagent, Renews, ← hpruned]
      constructor
      · intro h
        obtain ⟨p, hp'⟩ := Table.mem_iff_exists.1 h
        obtain ⟨hl, hq⟩ := (lookup_recomputeActiveProvider (W.walk_perm _ _)).1 hp'
        obtain rfl := Option.some.inj (hlook.symm.trans hl)
        exact ⟨hm, hq⟩
      · rintro ⟨-, hq⟩
        exact Table.mem_iff_exists.2
          ⟨stamped, (lookup_recomputeActiveProvider (W.walk_perm _ _)).2 ⟨hlook, hq⟩⟩

/-- What the daemon makes of the heartbeat. -/
theorem step_heartbeat {d : Daemon} {j : QJsonObject} (hf : d.listener.useAfterFree = false)
    (hv : d.agent.isValid s = true) (hj : IsHeartbeat j) :
    d.step W (.line s (some j)) = d.handleUIHeartbeat W s := by
  have hl : handlers.lookup "ui.heartbeat" = some .uiHeartbeat := rfl
  simp only [IsHeartbeat] at hj
  simp [Daemon.step, hf, handle, hv, handleLine, hj, hl, dispatch]

/-- **What the reading of a heartbeat leaves.** -/
theorem step_toDaemon (h : Beats x link) :
    (x.step W .toDaemon).client = x.client ∧
      (x.step W .toDaemon).daemon = x.daemon.handleUIHeartbeat W link.socket ∧
      ∃ l, (x.step W .toDaemon).link = some l ∧ l.socket = link.socket ∧
        l.toDaemon = link.toDaemon.tail := by
  obtain ⟨hl, hf, hv, j, hj, hb⟩ := h
  have hin : x.input? .toDaemon = some (.line link.socket (some j)) := by
    simp only [Option.mem_def] at hj
    simp [input?, hl, hv, hj]
  have htaken : x.takeToDaemon.link = some { link with toDaemon := link.toDaemon.tail } :=
    Option.map_eq_some_iff.2 ⟨link, hl, rfl⟩
  have hstep : x.step W .toDaemon = x.takeToDaemon.serve W (.line link.socket (some j)) := by
    simp [Joint.step, hf, hin]
  rw [hstep]
  exact ⟨rfl, step_heartbeat hf hv hb, _, Option.map_eq_some_iff.2 ⟨_, htaken, rfl⟩, rfl, rfl⟩

/-- Nobody registers behind a heartbeat. -/
theorem Orderly.not_isRegister_tail (h : Orderly W x) (hb : Beats x link) :
    x.client.registered = true ∧ ∀ j ∈ link.toDaemon.tail, ¬ IsRegister j := by
  obtain ⟨hl, -, -, j, hj, hbeat⟩ := hb
  obtain ⟨rest, hrest⟩ := List.head?_eq_some_iff.1 hj
  have ho := h.inOrder link hl
  rw [hrest] at ho ⊢
  exact ⟨ho.registered j List.mem_cons_self hbeat,
    fun k hk => (List.pairwise_cons.1 ho.pairwise).1 k hk hbeat⟩

/-- **A heartbeat that does not renew lets the registration lapse.** -/
theorem lapsed_of_not_renews (h : Orderly W x) (hb : Beats x link)
    (hr : ¬ Renews W x.daemon link.socket) : Lapsed link.socket (x.step W .toDaemon) := by
  obtain ⟨hreg, htail⟩ := h.not_isRegister_tail hb
  obtain ⟨hclient, hdaemon, l, hl, hs, hto⟩ := step_toDaemon (W := W) hb
  have hc := h.isConnected link hb.1 hb.2.2.1
  exact ⟨⟨l, hl, hs, hto ▸ htail⟩, hclient ▸ hreg,
    fun hm => hr ((mem_handleUIHeartbeat hc).1 (hdaemon ▸ hm))⟩

/-! ## Every run -/

/-- What the client does: it reads, its timers go off, its user answers. -/
def Input.isClients : Input → Bool
  | .toClient | .subscribeWatchdog | .heartbeatTimer | .sendResponse _ _ | .sendCancel _ => true
  | _ => false

/-- The client's doings leave it registered, and the daemon as it is. -/
theorem step_isClients (hi : i.isClients = true) :
    (x.step W i).daemon = x.daemon ∧
      (x.client.registered = true → (x.step W i).client.registered = true) := by
  generalize hx : x.step W i = x'
  have hdoes : Does W x i x' := hx ▸ does_step W x i
  cases hdoes with
  | nothing => exact ⟨rfl, id⟩
  | connected socket hi' => simp [hi', Input.isClients] at hi
  | lost hi' => simp [hi', Input.isClients] at hi
  | acted f hu => exact ⟨rfl, (hu.deeds x.client).registered⟩
  | read socket toDaemon rest msg hl => exact ⟨rfl, (deeds_handleMessage x.client msg).registered⟩
  | served di hf hd hs => cases i <;> simp_all [input?, Input.isClients]
  | handled link msg rest hf hd => cases i <;> simp_all [input?, Input.isClients]

/-- So do several of them. -/
theorem run_isClients {pre post : List Input} (h : ∀ i ∈ post, i.isClients = true) :
    ((machine W).run (pre ++ post)).daemon = ((machine W).run pre).daemon ∧
      (((machine W).run pre).client.registered = true →
        ((machine W).run (pre ++ post)).client.registered = true) := by
  induction post using List.reverseRecOn with
  | nil => simp
  | append_singleton post i ih =>
      obtain ⟨hd, hr⟩ := ih fun j hj => h j (List.mem_append_left _ hj)
      obtain ⟨hd', hr'⟩ := step_isClients (W := W) (x := (machine W).run (pre ++ post))
        (h i (List.mem_append_right _ List.mem_cons_self))
      rw [← List.append_assoc, Machine.run_snoc]
      exact ⟨hd'.trans hd, fun h => hr' (hr h)⟩

/-- A lapse lasts as long as the connection does. -/
theorem lapsed_run {pre post : List Input} (h : Lapsed s ((machine W).run pre))
    (hpost : Input.lost ∉ post) : Lapsed s ((machine W).run (pre ++ post)) := by
  induction post using List.reverseRecOn with
  | nil => simpa using h
  | append_singleton post i ih =>
      simp only [List.mem_append, List.mem_singleton, not_or] at hpost
      rw [← List.append_assoc, Machine.run_snoc]
      exact (ih hpost.1).step (orderly_run _).wired.elected (Ne.symm hpost.2)

/-- **The client is in the registry, if it believes itself registered.** -/
def InRegistry (s : Socket) (x : Joint) : Prop :=
  x.client.registered = true → s ∈ x.daemon.agent.providerRegistry.uiProviders

/-- **The registration is regained**: whenever the daemon has read a
heartbeat, the client alone has acted since, and nothing is under way any
more, the client is in the registry if it believes itself registered. -/
def Regained (W : World) (ins : List Input) : Prop := ∀ pre post link,
  ins = pre ++ .toDaemon :: post → Beats ((machine W).run pre) link →
    (∀ i ∈ post, i.isClients = true) →
    ((machine W).run ins).link = some { socket := link.socket } →
    InRegistry link.socket ((machine W).run ins)

/-- The refusal of a heartbeat. -/
theorem heard_of_not_mem {d : Daemon} (hc : d.agent.isConnected s = true)
    (hn : s ∉ d.agent.providerRegistry.uiProviders) :
    heard s d.agent (d.handleUIHeartbeat W s).agent = [error "Provider not registered"] := by
  have hp : d.agent.providerRegistry.uiProviders.lookup s = none := AList.lookup_eq_none.2 hn
  simp only [handleUIHeartbeat, ProviderRegistry.heartbeat, hp, Daemon.sendJson, withAgent]
  exact (tells_sendJson hc).heard

/-- **A registration that lapsed is not regained.** The daemon reads a
heartbeat, and the connection lasts. When the exchange is over, the client
is in the registry, if it believes itself registered, exactly where the
heartbeat renewed its registration. Where it did not, as where the daemon
refused it, the client believes itself registered ever after, is not, and
its watchdog does not register it. -/
theorem regained_iff (W : World) (pre post : List Input) (link : Link)
    (hb : Beats ((machine W).run pre) link) (hpost : Input.lost ∉ post) :
    let x := (machine W).run pre
    let y := (machine W).run (pre ++ .toDaemon :: post)
    ((∀ i ∈ post, i.isClients = true) →
      (InRegistry link.socket y ↔ Renews W x.daemon link.socket)) ∧
    (link.socket ∉ x.daemon.agent.providerRegistry.uiProviders →
      heard link.socket x.daemon.agent (x.step W .toDaemon).daemon.agent =
        [error "Provider not registered"]) ∧
    (¬ Renews W x.daemon link.socket →
      y.client.registered = true ∧ link.socket ∉ y.daemon.agent.providerRegistry.uiProviders ∧
        ∀ j ∈ y.client.written y.client.onSubscribeWatchdog, ¬ IsRegister j) := by
  intro x y
  have ho : Orderly W x := orderly_run pre
  have hc := ho.isConnected link hb.1 hb.2.2.1
  obtain ⟨hclient, hdaemon, -⟩ := step_toDaemon (W := W) hb
  have hy : y = (machine W).run ((pre ++ [.toDaemon]) ++ post) := by simp [y]
  have hx : (machine W).run (pre ++ [.toDaemon]) = x.step W .toDaemon := Machine.run_snoc ..
  have hlapsed : ¬ Renews W x.daemon link.socket → Lapsed link.socket y := fun hr =>
    hy ▸ lapsed_run (hx ▸ lapsed_of_not_renews ho hb hr) hpost
  refine ⟨fun hcl => ⟨fun hin => ?_, fun hr _ => ?_⟩, fun hn => ?_, fun hr => ?_⟩
  · by_contra hr
    exact (hlapsed hr).pruned (hin (hlapsed hr).registered)
  · rw [hy, (run_isClients hcl).1, hx, hdaemon]
    exact (mem_handleUIHeartbeat hc).2 hr
  · rw [hdaemon]
    exact heard_of_not_mem hc hn
  · exact ⟨(hlapsed hr).registered, (hlapsed hr).pruned, (hlapsed hr).not_isRegister⟩

/-- The client registers and subscribes, the clock jumps, and it is dropped
as stale; then its heartbeat is under way. -/
def pruned : List Input :=
  [.connected 1, .accepted 0, .toDaemon, .toDaemon, .toClient, .toClient, .toClient, .toDaemon,
    .toClient, .daemon .providerMaintenance, .toClient, .heartbeatTimer]

/-- The client's message of that moment. -/
def prunedLink : Link :=
  { socket := 1, toDaemon := [[("type", "ui.heartbeat"), ("id", "u")]] }

/-- The heartbeat is refused. The client reads the refusal, and does not
register. -/
theorem regained_iff_pruned :
    let W := World.plain (fun n => if n < 3 then 0 else 20000) false
    let y := (machine W).run (pruned ++ .toDaemon :: [.toClient])
    y.client.registered = true ∧ 1 ∉ y.daemon.agent.providerRegistry.uiProviders ∧
      ∀ j ∈ y.client.written y.client.onSubscribeWatchdog, ¬ IsRegister j := by
  intro W
  exact (regained_iff W pruned [.toClient] prunedLink (by decide) (by simp)).2.2 (by decide)

/-- **A refused heartbeat leaves the client registered**, with nothing
under way. -/
theorem not_regained : ¬ ∀ (W : World) (ins : List Input), Regained W ins := by
  intro h
  have hin := h (World.plain (fun n => if n < 3 then 0 else 20000) false)
    (pruned ++ .toDaemon :: [.toClient]) pruned [.toClient] prunedLink rfl (by decide) (by decide)
    (by decide)
  exact absurd (hin (by decide)) (by decide)

end Joint

end BbAuth
