import BbAuth.Model.FallbackLink
import BbAuth.Provider.Conduct
import Mathlib
/-!
# Transport — the client finds its daemon again

A client that has been started is never stuck: it is connected, on its way
there or on its way out, or the reconnect timer will bring it back, within
four seconds. The waits double from one try to the next and start over with
each connection. Nothing of a connection outlives it: the id a heartbeat
carries is the one that was given on the connection it is sent on.
-/

namespace BbAuth

namespace FallbackClient

variable {c c' c'' : FallbackClient}

/-- **The same client on the same connection**: what it was registered as,
and whether it is connected, are as they were. -/
structure Keeps (c c' : FallbackClient) : Prop where
  registered : c'.registered = c.registered
  providerId : c'.providerId = c.providerId
  connected : c'.connected = c.connected

theorem Keeps.refl (c : FallbackClient) : Keeps c c := ⟨rfl, rfl, rfl⟩

theorem Keeps.trans (h : Keeps c c') (h' : Keeps c' c'') : Keeps c c'' :=
  ⟨h'.registered.trans h.registered, h'.providerId.trans h.providerId,
    h'.connected.trans h.connected⟩

theorem keeps_sendJson (c : FallbackClient) (j : QJsonObject) : Keeps c (c.sendJson j) := by
  unfold sendJson
  split <;> exact ⟨rfl, rfl, rfl⟩

theorem keeps_setProviderActive (c : FallbackClient) (active : Bool) :
    Keeps c (c.setProviderActive active) := by
  unfold setProviderActive
  dsimp only
  split
  · exact .refl c
  · have hset : Keeps c ({ c with providerActive := active }.emit (.providerStateChanged active)) :=
      ⟨rfl, rfl, rfl⟩
    split
    · exact hset.trans (keeps_sendJson _ _)
    · exact hset

theorem keeps_clearPending (c : FallbackClient) : Keeps c c.clearPending := ⟨rfl, rfl, rfl⟩

theorem keeps_applyPendingProviderState (c : FallbackClient) :
    Keeps c c.applyPendingProviderState := by
  unfold applyPendingProviderState
  split
  · exact .refl c
  · exact (keeps_setProviderActive c _).trans (keeps_clearPending _)

theorem keeps_handleSubscribed (c : FallbackClient) (msg : QJsonObject) :
    Keeps c (c.handleSubscribed msg) := by
  have hset : Keeps c { c with subscribed := true } := ⟨rfl, rfl, rfl⟩
  unfold handleSubscribed
  dsimp only
  split
  · exact hset.trans (keeps_setProviderActive _ _)
  · exact hset

theorem keeps_handleActive (c : FallbackClient) (msg : QJsonObject) :
    Keeps c (c.handleActive msg) := by
  unfold handleActive
  dsimp only
  split
  · exact ⟨rfl, rfl, rfl⟩
  · split
    · split
      · exact ⟨rfl, rfl, rfl⟩
      · exact (keeps_setProviderActive c true).trans (keeps_clearPending _)
    · exact keeps_setProviderActive c _

theorem keeps_handleError (c : FallbackClient) (msg : QJsonObject) :
    Keeps c (c.handleError msg) := by
  unfold handleError
  dsimp only
  split
  · exact (keeps_setProviderActive c false).trans ⟨rfl, rfl, rfl⟩
  · exact ⟨rfl, rfl, rfl⟩

theorem keeps_handleSessionEvent (c : FallbackClient) (type : String) (msg : QJsonObject) :
    Keeps c (c.handleSessionEvent type msg) := by
  unfold handleSessionEvent
  split_ifs <;> exact ⟨rfl, rfl, rfl⟩

/-- A registration gives the client its id. -/
theorem keeps_handleRegistered (c : FallbackClient) (msg : QJsonObject) :
    Keeps { c with registered := true, providerId := (msg.value "id").toString }
      (c.handleRegistered msg) := by
  unfold handleRegistered
  dsimp only
  split
  · exact (keeps_setProviderActive _ _).trans (keeps_clearPending _)
  · exact keeps_applyPendingProviderState _

/-- **What a message makes of the client's id.** -/
theorem keeps_handleMessage (c : FallbackClient) (msg : QJsonObject) :
    Keeps (if (msg.value "type").toString = "ui.registered" then
      { c with registered := true, providerId := (msg.value "id").toString } else c)
      (c.handleMessage msg) := by
  unfold handleMessage
  dsimp only
  by_cases hr : (msg.value "type").toString = "ui.registered"
  · have hs : (msg.value "type").toString ≠ "subscribed" := by rw [hr]; decide
    rw [if_pos hr, if_neg hs, if_pos hr]
    exact keeps_handleRegistered c msg
  · rw [if_neg hr, if_neg hr]
    split_ifs
    · exact keeps_handleSubscribed c msg
    · exact keeps_handleActive c msg
    · exact .refl c
    · exact .refl c
    · exact keeps_handleError c msg
    · exact keeps_handleSessionEvent c _ msg

/-- Both signals of the socket take the id away. -/
theorem keeps_resetConnection (c : FallbackClient) :
    Keeps { c with registered := false, providerId := "" } c.resetConnection := by
  have hforget : Keeps { c with registered := false, providerId := "" }
      { c with subscribed := false, registered := false, providerId := "" }.clearPending :=
    ⟨rfl, rfl, rfl⟩
  exact hforget.trans (keeps_setProviderActive _ false)

theorem keeps_onConnected (c : FallbackClient) :
    Keeps { c with registered := false, providerId := "", connected := true } c.onConnected := by
  have hreset := keeps_resetConnection { c with connected := true }
  have hsaid : Keeps { c with connected := true }.resetConnection
      ((({ c with connected := true }.resetConnection.emit (.connectionStateChanged true)).emit
        (.statusMessage "Connected to auth daemon"))) := ⟨rfl, rfl, rfl⟩
  exact (hreset.trans hsaid).trans ((keeps_sendJson _ _).trans (keeps_sendJson _ _))

theorem keeps_onDisconnected (c : FallbackClient) :
    Keeps { c with registered := false, providerId := "", connected := false }
      c.onDisconnected := by
  have hreset := keeps_resetConnection { c with connected := false }
  exact hreset.trans ⟨rfl, rfl, rfl⟩

theorem keeps_onSubscribeWatchdog (c : FallbackClient) : Keeps c c.onSubscribeWatchdog := by
  have hreg : Keeps c (if !c.registered then c.registerProvider else c) := by
    split
    · exact keeps_sendJson c _
    · exact .refl c
  unfold onSubscribeWatchdog
  by_cases hc : (!c.connected) = true
  · rw [if_pos hc]
    exact .refl c
  · rw [if_neg hc]
    generalize (if !c.registered then c.registerProvider else c) = c' at hreg ⊢
    dsimp only
    split
    · exact hreg.trans (keeps_sendJson _ _)
    · exact hreg

theorem keeps_onHeartbeatTimer (c : FallbackClient) : Keeps c c.onHeartbeatTimer := by
  unfold onHeartbeatTimer
  split
  · exact .refl c
  · exact keeps_sendJson c _

/-! ## What a handler writes -/

/-- **All that is written meets `P`.** -/
def SendsOnly (P : QJsonObject → Prop) (c c' : FallbackClient) : Prop :=
  ∃ os, c'.log = c.log ++ os ∧ ∀ json, .sent json ∈ os → P json

variable {P : QJsonObject → Prop}

theorem SendsOnly.of_eq (h : c'.log = c.log) : SendsOnly P c c' :=
  ⟨[], by rw [h, List.append_nil], fun _ hmem => absurd hmem List.not_mem_nil⟩

theorem SendsOnly.trans (h : SendsOnly P c c') (h' : SendsOnly P c' c'') : SendsOnly P c c'' := by
  obtain ⟨os, hlog, hos⟩ := h
  obtain ⟨os', hlog', hos'⟩ := h'
  refine ⟨os ++ os', by rw [hlog', hlog, List.append_assoc], fun json hmem => ?_⟩
  exact (List.mem_append.1 hmem).elim (hos json) (hos' json)

theorem sendsOnly_emit (c : FallbackClient) {o : Output} (ho : ∀ json, o = .sent json → P json) :
    SendsOnly P c (c.emit o) :=
  ⟨[o], rfl, fun json hmem => ho json (List.mem_singleton.1 hmem).symm⟩

theorem Deed.sendsOnly (h : Deed P c c') : SendsOnly P c c' := by
  cases h with
  | edit hl ha hc hr => exact .of_eq hl
  | @sent json hj =>
      unfold sendJson
      split
      · exact .of_eq rfl
      · exact sendsOnly_emit c fun json' he => Output.sent.inj he ▸ hj
  | switched active => exact ⟨[.providerStateChanged active], rfl, fun _ hmem => by simp at hmem⟩
  | status text => exact sendsOnly_emit c nofun
  | told ho h =>
      refine sendsOnly_emit c fun json he => ?_
      rw [he] at ho
      exact ho.elim

/-- **What deeds write meets what they ask of it.** -/
theorem Deeds.sendsOnly (h : Deeds P c c') : SendsOnly P c c' := by
  induction h with
  | refl => exact .of_eq rfl
  | tail _ hdeed ih => exact ih.trans hdeed.sendsOnly

theorem sendsOnly_resetConnection (c : FallbackClient) (hs : P subscribeMessage) :
    SendsOnly P c c.resetConnection := by
  have hset := (deeds_setProviderActive
    { c with subscribed := false, registered := false, providerId := "" }.clearPending false).mono
    (Q := P) (by rintro _ rfl; exact hs)
  exact SendsOnly.trans (.of_eq rfl) hset.sendsOnly

theorem sendsOnly_onConnected (c : FallbackClient) (hr : P registerMessage)
    (hs : P subscribeMessage) : SendsOnly P c c.onConnected := by
  have hreset : SendsOnly P c { c with connected := true }.resetConnection :=
    sendsOnly_resetConnection { c with connected := true } hs
  have hsaid := (hreset.trans (sendsOnly_emit _ (o := .connectionStateChanged true) nofun)).trans
    (sendsOnly_emit _ (o := .statusMessage "Connected to auth daemon") nofun)
  exact (hsaid.trans (deeds_sendJson _ hr).sendsOnly).trans (deeds_sendJson _ hs).sendsOnly

theorem sendsOnly_onDisconnected (c : FallbackClient) (hs : P subscribeMessage) :
    SendsOnly P c c.onDisconnected := by
  have hreset : SendsOnly P c { c with connected := false }.resetConnection :=
    sendsOnly_resetConnection { c with connected := false } hs
  exact (hreset.trans (sendsOnly_emit _ (o := .connectionStateChanged false) nofun)).trans
    (sendsOnly_emit _ nofun)

end FallbackClient

namespace FallbackLink

variable {l : FallbackLink} {i : Input} {ins : List Input}

/-! ## What an observer of the signals knows -/

/-- The signal `connected` comes. -/
def Connects (l : FallbackLink) (i : Input) : Prop := i = .connected ∧ l.socket = .connecting

/-- The signal `disconnected` comes. -/
def Disconnects (l : FallbackLink) (i : Input) : Prop :=
  i = .disconnected ∧ (l.socket = .connected ∨ l.socket = .closing)

/-- The reconnect timer is started. -/
def Arms (l : FallbackLink) (i : Input) : Prop :=
  l.reconnectTimer = none ∧ (l.step i).reconnectTimer ≠ none

instance : Decidable (l.Connects i) := inferInstanceAs (Decidable (_ ∧ _))

instance : Decidable (l.Disconnects i) := inferInstanceAs (Decidable (_ ∧ _))

instance : Decidable (l.Arms i) := inferInstanceAs (Decidable (_ ∧ _))

/-- **How often the reconnect timer was started** since the last
connection. -/
def waits (ins : List Input) : ℕ :=
  machine.observe (fun n l i => if l.Connects i then 0 else if l.Arms i then n + 1 else n) 0 ins

/-- The id that a message gives. -/
def givenId : Input → Option String
  | .message msg =>
    if (msg.value "type").toString = "ui.registered" then some (msg.value "id").toString else none
  | _ => none

/-- **The id that was given on this connection.** -/
def registration (ins : List Input) : Option String :=
  machine.observe (fun id l i => if l.Connects i ∨ l.Disconnects i then none
    else (givenId i).or id) none ins

@[simp] theorem waits_snoc : waits (ins ++ [i]) =
    if (machine.run ins).Connects i then 0
    else if (machine.run ins).Arms i then waits ins + 1 else waits ins := by
  rw [waits, Machine.observe_snoc]
  rfl

@[simp] theorem registration_snoc : registration (ins ++ [i]) =
    if (machine.run ins).Connects i ∨ (machine.run ins).Disconnects i then none
    else (givenId i).or (registration ins) := by
  rw [registration, Machine.observe_snoc]
  rfl

/-! ## The timer -/

/-- **What a step does to the timer**: it leaves it, stops it at its
timeout, or starts it with the delay, which then doubles. Only `connected`
starts the waits over. -/
inductive Ticks (l : FallbackLink) (i : Input) (l' : FallbackLink) : Prop
  | same (hc : ¬ l.Connects i) (ht : l'.reconnectTimer = l.reconnectTimer)
      (hd : l'.reconnectDelayMs = l.reconnectDelayMs)
  | connected (hc : l.Connects i) (ht : l'.reconnectTimer = l.reconnectTimer)
      (hd : l'.reconnectDelayMs = 200)
  | fired (hc : ¬ l.Connects i) (ht : l'.reconnectTimer = none)
      (hd : l'.reconnectDelayMs = l.reconnectDelayMs)
  | armed (hc : ¬ l.Connects i) (hn : l.reconnectTimer = none)
      (ht : l'.reconnectTimer = some l.reconnectDelayMs)
      (hd : l'.reconnectDelayMs = min (l.reconnectDelayMs * 2) 4000)

theorem ensureConnected_timer (l : FallbackLink) :
    l.ensureConnected.reconnectTimer = l.reconnectTimer ∧
      l.ensureConnected.reconnectDelayMs = l.reconnectDelayMs := by
  unfold ensureConnected
  split <;> exact ⟨rfl, rfl⟩

theorem ticks_startReconnectTimer {l₀ : FallbackLink} (hc : ¬ l₀.Connects i)
    (ht : l.reconnectTimer = l₀.reconnectTimer) (hd : l.reconnectDelayMs = l₀.reconnectDelayMs) :
    Ticks l₀ i l.startReconnectTimer := by
  unfold startReconnectTimer
  split
  · exact .same hc ht hd
  next hnone =>
    have hn : l₀.reconnectTimer = none := by simpa [ht] using hnone
    exact .armed hc hn (by rw [← hd]) (by rw [← hd])

/-- **The timer is active after a lost connection.** -/
theorem isSome_startReconnectTimer (l : FallbackLink) :
    l.startReconnectTimer.reconnectTimer.isSome = true := by
  unfold startReconnectTimer
  split
  · assumption
  · rfl

theorem ticks_step (l : FallbackLink) (i : Input) : Ticks l i (l.step i) := by
  have hother : ∀ {i l'}, i ≠ .connected → l'.reconnectTimer = l.reconnectTimer →
      l'.reconnectDelayMs = l.reconnectDelayMs → Ticks l i l' := fun hi ht hd =>
    .same (fun hc => hi hc.1) ht hd
  cases i with
  | start =>
      obtain ⟨ht, hd⟩ := ensureConnected_timer { l with started := true }
      exact hother nofun ht hd
  | connected =>
      simp only [step]
      split
      next hs => exact .connected ⟨rfl, hs⟩ rfl rfl
      next hs => exact .same (fun hc => hs hc.2) rfl rfl
  | errorOccurred =>
      have hc : ¬ l.Connects .errorOccurred := fun hc => nomatch hc.1
      have herror : Ticks l .errorOccurred l.onErrorOccurred := by
        unfold onErrorOccurred
        split
        · exact ticks_startReconnectTimer hc rfl rfl
        · exact .same hc rfl rfl
      simp only [step]
      split
      · cases herror with
        | same hc ht hd => exact .same hc ht hd
        | connected hc ht hd => exact .connected hc ht hd
        | fired hc ht hd => exact .fired hc ht hd
        | armed hc hn ht hd => exact .armed hc hn ht hd
      · exact herror
  | closing =>
      simp only [step]
      split <;> exact hother nofun rfl rfl
  | disconnected =>
      simp only [step]
      split
      · exact ticks_startReconnectTimer (fun hc => nomatch hc.1) rfl rfl
      · exact hother nofun rfl rfl
  | reconnectTimeout =>
      simp only [step]
      split
      · obtain ⟨ht, hd⟩ := ensureConnected_timer { l with reconnectTimer := none }
        exact .fired (fun hc => nomatch hc.1) ht hd
      · exact hother nofun rfl rfl
  | subscribeWatchdog | heartbeatTimer =>
      simp only [step]
      split <;> exact hother nofun rfl rfl
  | message | sendResponse | sendCancel => exact hother nofun rfl rfl

/-- **The waits double** from one to the next, up to four seconds. -/
theorem reconnectDelayMs_run (ins : List Input) :
    (machine.run ins).reconnectDelayMs = min (200 * 2 ^ waits ins) 4000 := by
  refine Machine.history_invariant
    (J := fun ins => (machine.run ins).reconnectDelayMs = min (200 * 2 ^ waits ins) 4000)
    (by decide) (fun ins i ih => ?_) ins
  have hrun : machine.run (ins ++ [i]) = (machine.run ins).step i := Machine.run_snoc ..
  rw [hrun, waits_snoc]
  cases ticks_step (machine.run ins) i with
  | same hc ht hd =>
      have ha : ¬ (machine.run ins).Arms i := fun ha => ha.2 (ht.trans ha.1)
      rw [if_neg hc, if_neg ha, hd, ih]
  | connected hc ht hd =>
      rw [if_pos hc, hd]
      rfl
  | fired hc ht hd =>
      have ha : ¬ (machine.run ins).Arms i := fun ha => ha.2 ht
      rw [if_neg hc, if_neg ha, hd, ih]
  | armed hc hn ht hd =>
      have ha : (machine.run ins).Arms i := ⟨hn, by rw [ht]; nofun⟩
      rw [if_neg hc, if_pos ha, hd, ih, Nat.pow_succ]
      omega

/-- What the timer is started with is at most four seconds. -/
theorem reconnectTimer_le (ins : List Input) :
    ∀ t ∈ (machine.run ins).reconnectTimer, t ≤ 4000 := by
  refine Machine.history_invariant
    (J := fun ins => ∀ t ∈ (machine.run ins).reconnectTimer, t ≤ 4000)
    (fun t ht => by cases ht) (fun ins i ih t ht => ?_) ins
  have hrun : machine.run (ins ++ [i]) = (machine.run ins).step i := Machine.run_snoc ..
  have hdelay := reconnectDelayMs_run ins
  rw [hrun] at ht
  cases ticks_step (machine.run ins) i with
  | same hc ht' hd => exact ih t (ht' ▸ ht)
  | connected hc ht' hd => exact ih t (ht' ▸ ht)
  | fired hc ht' hd =>
      rw [ht'] at ht
      cases ht
  | armed hc hn ht' hd =>
      rw [ht'] at ht
      obtain rfl := Option.some.inj ht
      omega

/-! ## The socket -/

/-- **Not stuck**: a client that has been started is not left unconnected
without its timer. -/
def Alive (l : FallbackLink) : Prop :=
  l.started = true → l.socket = .unconnected → l.reconnectTimer.isSome = true

theorem socket_ensureConnected (l : FallbackLink) : l.ensureConnected.socket ≠ .unconnected := by
  unfold ensureConnected
  split
  next h =>
    intro hu
    simp [isConnected, hu] at h
  · nofun

theorem alive_of_socket (h : l.socket ≠ .unconnected) : Alive l := fun _ hu => absurd hu h

theorem Alive.step (h : Alive l) (i : Input) : Alive (l.step i) := by
  cases i with
  | start => exact alive_of_socket (socket_ensureConnected _)
  | connected =>
      simp only [FallbackLink.step]
      split
      · exact alive_of_socket nofun
      · exact h
  | errorOccurred =>
      simp only [FallbackLink.step, onErrorOccurred]
      split
      next hs =>
        rw [if_pos (by rw [hs]; nofun)]
        exact fun _ _ => isSome_startReconnectTimer l
      · split
        · exact fun _ _ => isSome_startReconnectTimer l
        · exact h
  | closing =>
      simp only [FallbackLink.step]
      split
      · exact alive_of_socket nofun
      · exact h
  | disconnected =>
      simp only [FallbackLink.step]
      split
      · exact fun _ _ => isSome_startReconnectTimer _
      · exact h
  | reconnectTimeout =>
      simp only [FallbackLink.step]
      split
      · exact alive_of_socket (socket_ensureConnected _)
      · exact h
  | subscribeWatchdog | heartbeatTimer =>
      simp only [FallbackLink.step]
      split <;> exact h
  | message | sendResponse | sendCancel => exact h

theorem alive_run (ins : List Input) : Alive (machine.run ins) :=
  Machine.invariant (M := machine) (fun h => by cases h) (fun _ i h => h.step i) ins

/-! ## The registration -/

/-- **The client knows its connection**: whether there is one, and the id it
was given on it. -/
structure Informed (id : Option String) (l : FallbackLink) : Prop where
  connected : l.client.connected = l.isConnected
  registered : l.client.registered = id.isSome
  providerId : ∀ given, id = some given → l.client.providerId = given

theorem Informed.of_keeps {id : Option String} {l' : FallbackLink} (h : Informed id l)
    (hs : l'.isConnected = l.isConnected) (hk : FallbackClient.Keeps l.client l'.client) :
    Informed id l' :=
  ⟨by rw [hk.connected, h.connected, hs], by rw [hk.registered, h.registered],
    fun given hg => by rw [hk.providerId, h.providerId given hg]⟩

/-- A signal of the socket leaves no id. -/
theorem informed_none {connected : Bool} {c : FallbackClient}
    (hs : l.isConnected = connected)
    (hk : FallbackClient.Keeps
      { c with registered := false, providerId := "", connected := connected } l.client) :
    Informed none l :=
  ⟨by rw [hk.connected, hs], hk.registered, nofun⟩

theorem startReconnectTimer_client (l : FallbackLink) :
    l.startReconnectTimer.client = l.client ∧ l.startReconnectTimer.socket = l.socket := by
  unfold startReconnectTimer
  split <;> exact ⟨rfl, rfl⟩

theorem ensureConnected_client (l : FallbackLink) :
    l.ensureConnected.client = l.client ∧ l.ensureConnected.isConnected = l.isConnected := by
  unfold ensureConnected
  split
  · exact ⟨rfl, rfl⟩
  next h =>
    refine ⟨rfl, ?_⟩
    simp only [Bool.or_eq_true, not_or, Bool.not_eq_true] at h
    rw [h.1]
    rfl

theorem Informed.step {id : Option String} (h : Informed id l) (i : Input) :
    Informed (if l.Connects i ∨ l.Disconnects i then none else (givenId i).or id) (l.step i) := by
  have hno : ∀ i, i ≠ .connected → i ≠ .disconnected → ¬ (l.Connects i ∨ l.Disconnects i) :=
    fun i hc hd hcd => hcd.elim (fun hc' => hc hc'.1) fun hd' => hd hd'.1
  cases i with
  | connected =>
      by_cases hs : l.socket = .connecting
      · have hstep : l.step .connected = l.onConnected := if_pos hs
        rw [if_pos (.inl ⟨rfl, hs⟩), hstep]
        exact informed_none rfl (FallbackClient.keeps_onConnected l.client)
      · have hstep : l.step .connected = l := if_neg hs
        rw [if_neg (fun hcd => hcd.elim (fun hc => hs hc.2) fun hd => nomatch hd.1), hstep]
        exact h
  | disconnected =>
      by_cases hs : l.socket = .connected ∨ l.socket = .closing
      · have hstep : l.step .disconnected = l.onDisconnected := if_pos hs
        rw [if_pos (.inr ⟨rfl, hs⟩), hstep]
        obtain ⟨hclient, hsocket⟩ := startReconnectTimer_client
          { l with socket := .unconnected, client := l.client.onDisconnected }
        have hoff : l.onDisconnected.isConnected = false := by
          rw [onDisconnected, isConnected, hsocket]
          rfl
        refine informed_none (c := l.client) hoff ?_
        rw [onDisconnected, hclient]
        exact FallbackClient.keeps_onDisconnected l.client
      · have hstep : l.step .disconnected = l := if_neg hs
        rw [if_neg fun hcd => hcd.elim (fun hc => nomatch hc.1) fun hd => hs hd.2, hstep]
        exact h
  | message msg =>
      rw [if_neg (hno (.message msg) nofun nofun)]
      have hk := FallbackClient.keeps_handleMessage l.client msg
      simp only [FallbackLink.step, givenId]
      by_cases hr : (msg.value "type").toString = "ui.registered"
      · rw [if_pos hr] at hk ⊢
        refine ⟨hk.connected.trans h.connected, hk.registered, fun given hg => ?_⟩
        rw [← Option.some.inj hg]
        exact hk.providerId
      · rw [if_neg hr] at hk ⊢
        exact h.of_keeps rfl hk
  | start =>
      rw [if_neg (hno .start nofun nofun)]
      obtain ⟨hclient, hs⟩ := ensureConnected_client { l with started := true }
      exact h.of_keeps hs (by rw [FallbackLink.step, hclient]; exact .refl _)
  | errorOccurred =>
      rw [if_neg (hno .errorOccurred nofun nofun)]
      obtain ⟨hclient, hsocket⟩ := startReconnectTimer_client l
      simp only [FallbackLink.step, onErrorOccurred]
      split
      next hs =>
        rw [if_pos (by rw [hs]; nofun)]
        exact h.of_keeps (by simp [isConnected, hs]) (by rw [hclient]; exact .refl _)
      · split
        · exact h.of_keeps (by rw [isConnected, hsocket]; rfl) (by rw [hclient]; exact .refl _)
        · exact h
  | closing =>
      rw [if_neg (hno .closing nofun nofun)]
      simp only [FallbackLink.step]
      split
      · exact ⟨rfl, h.registered, h.providerId⟩
      · exact h
  | reconnectTimeout =>
      rw [if_neg (hno .reconnectTimeout nofun nofun)]
      simp only [FallbackLink.step]
      split
      · obtain ⟨hclient, hs⟩ := ensureConnected_client { l with reconnectTimer := none }
        exact h.of_keeps hs (by rw [hclient]; exact .refl _)
      · exact h
  | subscribeWatchdog =>
      rw [if_neg (hno .subscribeWatchdog nofun nofun)]
      simp only [FallbackLink.step]
      split
      · exact h.of_keeps rfl (FallbackClient.keeps_onSubscribeWatchdog _)
      · exact h
  | heartbeatTimer =>
      rw [if_neg (hno .heartbeatTimer nofun nofun)]
      simp only [FallbackLink.step]
      split
      · exact h.of_keeps rfl (FallbackClient.keeps_onHeartbeatTimer _)
      · exact h
  | sendResponse id' response =>
      rw [if_neg (hno (.sendResponse id' response) nofun nofun)]
      exact h.of_keeps rfl (FallbackClient.keeps_sendJson _ _)
  | sendCancel id' =>
      rw [if_neg (hno (.sendCancel id') nofun nofun)]
      exact h.of_keeps rfl (FallbackClient.keeps_sendJson _ _)

theorem informed_run (ins : List Input) : Informed (registration ins) (machine.run ins) := by
  refine Machine.history_invariant (J := fun ins => Informed (registration ins) (machine.run ins))
    ⟨rfl, rfl, nofun⟩ (fun ins i ih => ?_) ins
  rw [registration_snoc, Machine.run_snoc]
  exact ih.step i

/-! ## The heartbeats -/

/-- **Nothing but the heartbeat timer sends a heartbeat.** -/
theorem sendsOnly_step (l : FallbackLink) (i : Input) (hi : i ≠ .heartbeatTimer) :
    FallbackClient.SendsOnly (fun json => (json.value "type").toString ≠ "ui.heartbeat") l.client
      (l.step i).client := by
  cases i with
  | heartbeatTimer => exact absurd rfl hi
  | start => exact .of_eq (by rw [step, (ensureConnected_client _).1])
  | connected =>
      rw [step]
      split
      · exact FallbackClient.sendsOnly_onConnected _ (by decide) (by decide)
      · exact .of_eq rfl
  | errorOccurred =>
      refine .of_eq ?_
      simp only [step, onErrorOccurred]
      split_ifs <;> first | rfl | rw [(startReconnectTimer_client l).1]
  | closing =>
      rw [step]
      split <;> exact .of_eq rfl
  | disconnected =>
      rw [step]
      split
      -- the reconnect timer is started after the client has been told
      · rw [onDisconnected, (startReconnectTimer_client _).1]
        exact FallbackClient.sendsOnly_onDisconnected _ (by decide)
      · exact .of_eq rfl
  | reconnectTimeout =>
      refine .of_eq ?_
      rw [step]
      split
      · rw [(ensureConnected_client _).1]
      · rfl
  | message msg =>
      have hdeeds := FallbackClient.deeds_handleMessage l.client msg
      exact (hdeeds.mono (by rintro _ rfl; decide)).sendsOnly
  | subscribeWatchdog =>
      rw [step]
      split
      · have hdeeds := FallbackClient.deeds_onSubscribeWatchdog
          (P := fun json => (json.value "type").toString ≠ "ui.heartbeat") l.client (by decide)
          fun _ => by decide
        exact hdeeds.sendsOnly
      · exact .of_eq rfl
  | sendResponse id response => exact (FallbackClient.deeds_sendJson l.client (by simp)).sendsOnly
  | sendCancel id => exact (FallbackClient.deeds_sendJson l.client (by simp)).sendsOnly

/-- What the client sends when its heartbeat timer fires. -/
def heartbeats (l : FallbackLink) (id : Option String) : List FallbackClient.Output :=
  match id with
  | some id =>
    if l.started && l.isConnected then [.sent [("type", "ui.heartbeat"), ("id", id)]] else []
  | none => []

/-- **The client finds its daemon again.** In every run, for any order of
the socket's signals, timers, messages and the user's doings: once started
it is never left unconnected without an active reconnect timer, whose
timeout begins a new attempt; the timer is started with `200 * 2 ^ k`
milliseconds, four seconds at most, for the `k`-th time since the last
connection; a heartbeat is sent only while connected and registered, under
the id given on this very connection; and only its timer sends one. -/
theorem link_run (ins : List Input) :
    let l := machine.run ins
    (l.started = true → l.socket = .unconnected →
      l.reconnectTimer.isSome = true ∧ (l.step .reconnectTimeout).socket = .connecting) ∧
    (∀ i t, l.reconnectTimer = none → (l.step i).reconnectTimer = some t →
      t = min (200 * 2 ^ waits ins) 4000) ∧
    (∀ t ∈ l.reconnectTimer, t ≤ 4000) ∧
    (l.step .heartbeatTimer).client.log =
      l.client.log ++ heartbeats l (registration ins) ∧
    (∀ i, i ≠ .heartbeatTimer → FallbackClient.SendsOnly
      (fun json => (json.value "type").toString ≠ "ui.heartbeat") l.client (l.step i).client) := by
  have hi := informed_run ins
  refine ⟨fun hs hu => ?_, fun i t hn ht => ?_, reconnectTimer_le ins, ?_, sendsOnly_step _⟩
  · have htimer := alive_run ins hs hu
    refine ⟨htimer, ?_⟩
    simp [step, htimer, ensureConnected, isConnected, hu]
  · rw [← reconnectDelayMs_run]
    cases ticks_step (machine.run ins) i with
    | same hc ht' hd =>
        rw [ht', hn] at ht
        cases ht
    | connected hc ht' hd =>
        rw [ht', hn] at ht
        cases ht
    | fired hc ht' hd =>
        rw [ht'] at ht
        cases ht
    | armed hc _ ht' hd => exact (Option.some.inj (ht'.symm.trans ht)).symm
  · generalize machine.run ins = l at hi ⊢
    cases hid : registration ins with
    | none =>
        have hr : l.client.registered = false := by rw [hi.registered, hid]; rfl
        simp [step, heartbeats, FallbackClient.onHeartbeatTimer, hr]
    | some id =>
        have hr : l.client.registered = true := by rw [hi.registered, hid]; rfl
        have hp := hi.providerId id hid
        have hc := hi.connected
        cases hs : l.started <;> cases hconn : l.isConnected <;>
          simp [step, heartbeats, FallbackClient.onHeartbeatTimer, FallbackClient.sendJson,
            FallbackClient.emit, hs, hr, hp, hc, hconn]

end FallbackLink

end BbAuth
