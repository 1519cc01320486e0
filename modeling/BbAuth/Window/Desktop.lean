import BbAuth.Flow.Prompts
import BbAuth.Window.Exchange
/-!
# The window on the desktop

The daemon and the fallback UI together, over any connections. The daemon
writes nothing to a socket before it has read the registration, and the
reply to it first (`Greeted`); so each connection begins as the window
relies on, whatever else the daemon is doing. And the user's answers are
about sessions that the daemon has created on this very connection
(`answers_what_it_shows`): nothing that was shown before a loss is answered
after it.
-/

namespace BbAuth

open Agent

namespace Daemon

variable {W : World} {d : Daemon} {i : Input} {s : Socket}

/-! ## What the daemon writes first -/

theorem heard_of_firstWritten (h : d.firstWritten W s i = none) :
    heard s d.agent (d.step W i).agent = [] := by
  have hto : Output.to? s = Output.toSocket s := by
    funext o
    cases o <;> rfl
  rw [Agent.heard, hto]
  exact List.filterMap_eq_nil_iff.2 (List.findSome?_eq_none_iff.1 h)

/-- **The reply to a registration is written first.** -/
theorem heard_registration {msg : QJsonObject} (hf : d.listener.useAfterFree = false)
    (hc : d.agent.isConnected s = true) (ht : (msg.value "type").toString = "ui.register") :
    ∃ reply rest, heard s d.agent (d.step W (.line s (some msg))).agent = reply :: rest ∧
      (reply.value "type").toString = "ui.registered" := by
  have hv : d.agent.isValid s = true := by
    simpa [Agent.isValid] using mem_clients_of_isConnected hc
  have hstep : d.step W (.line s (some msg)) = d.handleUIRegister W s msg := by
    have hl : handlers.lookup "ui.register" = some .uiRegister := rfl
    simp [step, hf, handle, hv, handleLine, ht, hl, dispatch]
  have hreply : Tells s d.agent ((enterElected W d.agent s msg).sendJson s
      (registeredReply W d.agent s msg)) [registeredReply W d.agent s msg] :=
    (tells_of_log (b := enterElected W d.agent s msg) rfl).trans (tells_sendJson hc)
  rw [hstep, handleUIRegister_agent]
  split
  · obtain ⟨ms, hms, -⟩ := tells_emitProviderStatus W ((enterElected W d.agent s msg).sendJson s
      (registeredReply W d.agent s msg)) s
    exact ⟨_, ms, (hreply.trans hms).heard, rfl⟩
  · exact ⟨_, [], hreply.heard, rfl⟩

end Daemon

namespace Desktop

open Daemon FallbackWindow FallbackClient
open FallbackUi (FirstRegistered read listen)

variable {W : World} {build : QJsonObject → PromptDisplayModel} {x : Desktop} {i : Input}
  {uis : List FallbackUi.Input} {said : List QJsonObject}
  {di : Option BbAuth.Input} {ui : Option FallbackUi.Input} {link : Option Link}

/-! ## What one step gives to whom -/

/-- **Who handles what**, and what is left of the connection. -/
inductive Hands (x : Desktop) :
    Option BbAuth.Input → Option FallbackUi.Input → Option Link → Prop
  | nothing : Hands x none none x.link
  | connected (socket : Socket) (hl : x.link = none)
      (hv : x.daemon.agent.isValid socket = false) :
      Hands x none (some .connected) (some { socket := socket })
  | lost (hl : x.link.isSome = true) : Hands x none (some .disconnected) none
  | heard (socket : Socket) (toDaemon rest : List QJsonObject) (msg : QJsonObject)
      (hl : x.link = some { socket, toDaemon, toClient := msg :: rest }) :
      Hands x none (some (.message msg)) (some { socket, toDaemon, toClient := rest })
  | own (i : FallbackUi.Input) (hi : i.isOwn = true) : Hands x none (some i) x.link
  | served (di : BbAuth.Input) (hf : x.daemon.listener.useAfterFree = false)
      (hs : ∀ link, x.link = some link → di.socket? ≠ some link.socket) :
      Hands x (some di) none x.link
  | accepted (link : Link) (peerPid : Pid) (hf : x.daemon.listener.useAfterFree = false)
      (hl : x.link = some link) : Hands x (some (.newConnection link.socket peerPid)) none x.link
  | asked (socket : Socket) (rest toClient : List QJsonObject) (msg : QJsonObject)
      (hf : x.daemon.listener.useAfterFree = false)
      (hl : x.link = some { socket, toDaemon := msg :: rest, toClient })
      (hv : x.daemon.agent.isValid socket = true) :
      Hands x (some (.line socket (some msg))) none (some { socket, toDaemon := rest, toClient })

/-- **Every input is handed out so.** -/
theorem hands_step (x : Desktop) (i : Input) :
    Hands x (x.input? i) (x.uiInput? i) (x.linkAfter i) := by
  cases i with
  | connected socket =>
      cases hl : x.link with
      | some link => simpa [input?, uiInput?, linkAfter, hl] using Hands.nothing (x := x)
      | none =>
          cases hv : x.daemon.agent.isValid socket with
          | true => simpa [input?, uiInput?, linkAfter, hl, hv] using Hands.nothing (x := x)
          | false => simpa [input?, uiInput?, linkAfter, hl, hv] using Hands.connected socket hl hv
  | lost =>
      cases hl : x.link with
      | none => simpa [input?, uiInput?, linkAfter, hl] using Hands.nothing (x := x)
      | some link => simpa [input?, uiInput?, linkAfter, hl] using Hands.lost (by simp [hl])
  | toClient =>
      cases hl : x.link with
      | none => simpa [input?, uiInput?, linkAfter, hl] using Hands.nothing (x := x)
      | some link =>
          obtain ⟨socket, toDaemon, toClient⟩ := link
          cases toClient with
          | nil => simpa [input?, uiInput?, linkAfter, hl] using Hands.nothing (x := x)
          | cons msg rest =>
              simpa [input?, uiInput?, linkAfter, hl] using Hands.heard socket toDaemon rest msg hl
  | ui i =>
      cases hi : i.isOwn with
      | true => simpa [input?, uiInput?, linkAfter, hi] using Hands.own (x := x) i hi
      | false => simpa [input?, uiInput?, linkAfter, hi] using Hands.nothing (x := x)
  | accepted peerPid =>
      cases hf : x.daemon.listener.useAfterFree with
      | true => simpa [input?, uiInput?, linkAfter, hf] using Hands.nothing (x := x)
      | false =>
          cases hl : x.link with
          | none => simpa [input?, uiInput?, linkAfter, hf, hl] using Hands.nothing (x := x)
          | some link =>
              simpa [input?, uiInput?, linkAfter, hf, hl] using Hands.accepted link peerPid hf hl
  | daemon di =>
      cases hf : x.daemon.listener.useAfterFree with
      | true => simpa [input?, uiInput?, linkAfter, hf] using Hands.nothing (x := x)
      | false =>
          cases hl : x.link with
          | none =>
              simpa [input?, uiInput?, linkAfter, hf, hl] using
                Hands.served (x := x) di hf (by simp [hl])
          | some link =>
              by_cases hs : di.socket? = some link.socket
              · simpa [input?, uiInput?, linkAfter, hf, hl, hs] using Hands.nothing (x := x)
              · simpa [input?, uiInput?, linkAfter, hf, hl, hs] using
                  Hands.served (x := x) di hf (by simpa [hl] using hs)
  | toDaemon =>
      cases hl : x.link with
      | none => simpa [input?, uiInput?, linkAfter, hl] using Hands.nothing (x := x)
      | some link =>
          obtain ⟨socket, toDaemon, toClient⟩ := link
          cases hf : x.daemon.listener.useAfterFree with
          | true => simpa [input?, uiInput?, linkAfter, hf, hl] using Hands.nothing (x := x)
          | false =>
              cases hv : x.daemon.agent.isValid socket with
              | false =>
                  simpa [input?, uiInput?, linkAfter, hf, hl, hv] using Hands.nothing (x := x)
              | true =>
                  cases toDaemon with
                  | nil =>
                      simpa [input?, uiInput?, linkAfter, hf, hl, hv] using Hands.nothing (x := x)
                  | cons msg rest =>
                      simpa [input?, uiInput?, linkAfter, hf, hl, hv] using
                        Hands.asked socket rest toClient msg hf hl hv

/-! ## What holds of the two -/

/-- **The daemon's part of a connection**: it has written nothing and has the
registration to read; or the reply to it was written first. -/
inductive Greeted (d : Daemon) (link : Link) : List QJsonObject → Prop
  | waiting (rest : List QJsonObject) (hrest : link.toDaemon = registerMessage :: rest)
      (ha : Aside link.socket (fun _ => False) d)
      (hc : ∀ c, d.agent.clients.lookup link.socket = some c → c.state = .connected) :
      Greeted d link []
  | greeted (reply : QJsonObject) (rest : List QJsonObject)
      (ht : (reply.value "type").toString = "ui.registered") : Greeted d link (reply :: rest)

/-- **The session that is answered was created** by one of these messages. -/
def Created (said : List QJsonObject) (json : QJsonObject) : Prop :=
  ∃ event ∈ said, (event.value "type").toString = "session.created" ∧
    (event.value "id").toString = (json.value "id").toString

/-- **The invariant of the two**, of what the UI was given and of what the
daemon has written on the connection in force. -/
structure Matched (W : World) (build : QJsonObject → PromptDisplayModel) (x : Desktop)
    (uis : List FallbackUi.Input) (said : List QJsonObject) : Prop where
  served : ∃ ins, x.daemon = (Daemon.machine W).run ins
  ui : x.ui = (FallbackUi.machine build).run uis
  first : FirstRegistered build uis
  connected : x.ui.client.connected = x.link.isSome
  unlinked : x.link = none →
    said = [] ∧ (FallbackUi.machine build).observe read [] uis = []
  channel : ∀ link, x.link = some link →
    said = (FallbackUi.machine build).observe read [] uis ++ link.toClient
  greeted : ∀ link, x.link = some link → Greeted x.daemon link said
  answers : ∀ link, x.link = some link → ∀ json ∈ link.toDaemon, IsAnswer json →
    Created said json

/-! ## One step -/

theorem written_self (c : FallbackClient) : c.written c = [] := by
  simp [FallbackClient.written]

theorem heard_self (s : Socket) (a : Agent) : Agent.heard s a a = [] := by
  simp [Agent.heard]

theorem Created.mono {ms : List QJsonObject} {json : QJsonObject} (h : Created said json) :
    Created (said ++ ms) json := by
  obtain ⟨event, he, ht, hid⟩ := h
  exact ⟨event, List.mem_append_left _ he, ht, hid⟩

theorem Greeted.mono {d : Daemon} {link : Link} (h : Greeted d link said)
    (toClient ms : List QJsonObject) :
    Greeted d { link with toDaemon := link.toDaemon ++ ms, toClient := toClient } said := by
  cases h with
  | waiting rest hrest ha hc => exact .waiting (rest ++ ms) (by simp [hrest]) ha hc
  | greeted reply rest ht => exact .greeted reply rest ht

/-- What the daemon writes on the connection in force, one step further. -/
def sayOn (W : World) (build : QJsonObject → PromptDisplayModel) (said : List QJsonObject)
    (x : Desktop) (di : Option BbAuth.Input) (ui : Option FallbackUi.Input)
    (link : Option Link) : List QJsonObject :=
  link.elim [] fun link =>
    said ++ Agent.heard link.socket x.daemon.agent (x.handle W build di ui link).daemon.agent

section

variable (h : Matched W build x uis said)
include h

theorem Matched.run_snoc (i : FallbackUi.Input) :
    x.ui.step build i = (FallbackUi.machine build).run (uis ++ [i]) := by
  rw [Machine.run_snoc, ← h.ui]
  rfl

theorem Matched.read_snoc (i : FallbackUi.Input) :
    (FallbackUi.machine build).observe read [] (uis ++ [i]) =
      read ((FallbackUi.machine build).observe read [] uis) x.ui i := by
  rw [Machine.observe_snoc, ← h.ui]

/-- Where nothing is given to either, nothing changes. -/
theorem Matched.nothing : Matched W build (x.handle W build none none x.link) uis said := by
  have hsame : x.handle W build none none x.link = x := by
    obtain ⟨daemon, ui, link⟩ := x
    cases link <;> simp [handle, written_self, heard_self]
  rwa [hsame]

/-- **A new connection** begins with the registration under way. -/
theorem Matched.onConnected {socket : Socket} (hl : x.link = none)
    (hv : x.daemon.agent.isValid socket = false) :
    Matched W build (x.handle W build none (some .connected) (some { socket := socket }))
      (uis ++ [.connected]) [] := by
  have hdown : x.ui.client.connected = false := by rw [h.connected, hl]; rfl
  have hact : x.ui.step build .connected = x.ui.withClient build x.ui.client.onConnected :=
    if_neg (by simp [hdown])
  have hout : socket ∉ x.daemon.agent.clients := Table.contains_eq_false.1 hv
  have hwritten : x.ui.client.written (x.ui.step build .connected).client =
      [registerMessage, subscribeMessage] := by
    rw [hact]
    exact Joint.written_onConnected _
  refine ⟨h.served, h.run_snoc .connected, h.first.snoc (by rintro _ ⟨⟩), ?_,
    fun hlink => absurd hlink (Option.some_ne_none _), ?_, ?_, ?_⟩
  · change (x.ui.step build .connected).client.connected = true
    rw [hact]
    exact connected_onConnected _
  · intro link hlink
    obtain rfl := Option.some.inj hlink
    rw [h.read_snoc]
    simp [FallbackUi.read, hdown, heard_self]
  · intro link hlink
    obtain rfl := Option.some.inj hlink
    obtain ⟨ins, hins⟩ := h.served
    refine .waiting [subscribeMessage] hwritten ?_ fun c hc => ?_
    · have ha := aside_of_stranger W ins socket (hins ▸ hout)
      exact hins ▸ ha
    · have hnone := AList.lookup_eq_none.2 hout
      exact absurd (hnone.symm.trans hc) (Option.some_ne_none c).symm
  · intro link hlink json hjson
    obtain rfl := Option.some.inj hlink
    have hmem : json ∈ [registerMessage, subscribeMessage] := hwritten ▸ hjson
    rw [List.mem_pair] at hmem
    rcases hmem with rfl | rfl <;>
    · rintro (ht | ht) <;> exact absurd ht (by decide)

/-- The connection is lost, with all that is under way. -/
theorem Matched.onLost (hl : x.link.isSome = true) :
    Matched W build (x.handle W build none (some .disconnected) none)
      (uis ++ [.disconnected]) [] := by
  have hup : x.ui.client.connected = true := h.connected.trans hl
  have hact : x.ui.step build .disconnected = x.ui.withClient build x.ui.client.onDisconnected :=
    if_pos hup
  refine ⟨h.served, h.run_snoc .disconnected, h.first.snoc (by rintro _ ⟨⟩), ?_, fun _ => ?_,
    fun _ hlink => absurd hlink.symm (Option.some_ne_none _),
    fun _ hlink => absurd hlink.symm (Option.some_ne_none _),
    fun _ hlink => absurd hlink.symm (Option.some_ne_none _)⟩
  · change (x.ui.step build .disconnected).client.connected = false
    rw [hact]
    exact connected_onDisconnected _
  · rw [h.read_snoc]
    simp [FallbackUi.read, hup]

/-- **The UI reads what was written first** where it has read nothing. -/
theorem Matched.onHeard {socket : Socket} {toDaemon rest : List QJsonObject} {msg : QJsonObject}
    (hl : x.link = some { socket, toDaemon, toClient := msg :: rest }) :
    Matched W build
      (x.handle W build none (some (.message msg)) (some { socket, toDaemon, toClient := rest }))
      (uis ++ [.message msg]) said := by
  have hup : x.ui.client.connected = true := by rw [h.connected, hl]; rfl
  have hact : x.ui.step build (.message msg) =
      x.ui.withClient build (x.ui.client.handleMessage msg) := if_pos hup
  have hdeeds := deeds_handleMessage x.ui.client msg
  have hchannel := h.channel _ hl
  have hgreeted := h.greeted _ hl
  refine ⟨h.served, h.run_snoc (.message msg), h.first.snoc fun msg' he hs => ?_, ?_,
    fun hlink => absurd hlink (Option.some_ne_none _), ?_, ?_, ?_⟩
  · -- nothing has been read on the connection, so this is what was written first
    cases he
    rw [FallbackUi.read_of_since uis hs, List.nil_append] at hchannel
    subst hchannel
    cases hgreeted with
    | greeted _ _ ht => exact ht
  · change (x.ui.step build (.message msg)).client.connected = true
    rw [hact]
    exact hdeeds.connected.trans hup
  · intro link hlink
    obtain rfl := Option.some.inj hlink
    rw [h.read_snoc, hchannel]
    simp [FallbackUi.read, hup, heard_self]
  · intro link hlink
    obtain rfl := Option.some.inj hlink
    exact hgreeted.mono _ _
  · intro link hlink json hjson ha
    obtain rfl := Option.some.inj hlink
    rcases List.mem_append.1 hjson with hold | hnew
    · exact h.answers _ hl json hold ha
    · have hwritten : json ∈ x.ui.client.written (x.ui.step build (.message msg)).client := hnew
      rw [hact] at hwritten
      exact absurd ha (not_isAnswer_of_mem hdeeds hwritten)

/-- **What the UI does of its own** answers a session that was created on
the connection. -/
theorem Matched.onOwn {i : FallbackUi.Input} (hi : i.isOwn = true) :
    Matched W build (x.handle W build none (some i) x.link) (uis ++ [i]) said := by
  have hdeeds := FallbackUi.deeds_own build x.ui hi
  have hread : ∀ ms, read ms x.ui i = ms := by
    intro ms
    cases i with
    | connected | disconnected | message => cases hi
    | _ => rfl
  have hlinked : ∀ {link'}, (x.handle W build none (some i) x.link).link = some link' →
      ∃ link, x.link = some link ∧ link'.toClient = link.toClient ∧
        link'.toDaemon = link.toDaemon ++ x.ui.client.written (x.ui.step build i).client ∧
        link' = { link with toDaemon := link'.toDaemon, toClient := link'.toClient } := by
    intro link' hlink
    obtain ⟨link, hl, rfl⟩ := Option.map_eq_some_iff.1 hlink
    exact ⟨link, hl, by simp [heard_self], rfl, rfl⟩
  have hmessage : ∀ msg, i ≠ .message msg := by
    rintro msg rfl
    cases hi
  refine ⟨h.served, h.run_snoc i, h.first.snoc fun msg he => absurd he (hmessage msg), ?_, ?_,
    ?_, ?_, ?_⟩
  · change (x.ui.step build i).client.connected = (x.link.map _).isSome
    rw [Option.isSome_map, hdeeds.connected]
    exact h.connected
  · intro hlink
    rw [h.read_snoc, hread]
    exact h.unlinked (Option.map_eq_none_iff.1 hlink)
  · intro link' hlink
    obtain ⟨link, hl, htoClient, -, -⟩ := hlinked hlink
    rw [h.read_snoc, hread, htoClient]
    exact h.channel link hl
  · intro link' hlink
    obtain ⟨link, hl, -, htoDaemon, heq⟩ := hlinked hlink
    rw [heq, htoDaemon]
    exact (h.greeted link hl).mono _ _
  · intro link' hlink json hjson ha
    obtain ⟨link, hl, -, htoDaemon, -⟩ := hlinked hlink
    rw [htoDaemon] at hjson
    rcases List.mem_append.1 hjson with hold | hnew
    · exact h.answers link hl json hold ha
    · -- the session that is displayed was created by a message that was read
      obtain ⟨hs, hid⟩ := Deeds.of_mem_written hdeeds hnew ha
      obtain ⟨story, hheard, hshown⟩ := (FallbackUi.shows_run uis h.first).story (h.ui ▸ hs)
      have hstory := FallbackUi.tellsOf_listen uis story hheard
      refine ⟨story.created, ?_, hstory.type, ?_⟩
      · rw [h.channel link hl]
        exact List.mem_append_left _ hstory.created
      · rw [hid, h.ui]
        exact hshown.currentSessionId.symm

/-- **The daemon handles an input**, and the connection goes on as it does. -/
theorem Matched.onDaemon {di : BbAuth.Input} {link' : Option Link}
    (hsome : link'.isSome = x.link.isSome)
    (hlink : ∀ link₂, link' = some link₂ → ∃ link, x.link = some link ∧
      link₂.socket = link.socket ∧ link₂.toClient = link.toClient ∧
      link₂.toDaemon ⊆ link.toDaemon ∧
      Greeted (x.daemon.step W di) link₂
        (said ++ Agent.heard link.socket x.daemon.agent (x.daemon.step W di).agent)) :
    Matched W build (x.handle W build (some di) none link') uis
      (link'.elim [] fun link =>
        said ++ Agent.heard link.socket x.daemon.agent (x.daemon.step W di).agent) := by
  obtain ⟨ins, hins⟩ := h.served
  have hlinked : ∀ {link₃}, (x.handle W build (some di) none link').link = some link₃ →
      ∃ link₂, link' = some link₂ ∧ link₃ = { link₂ with
        toDaemon := link₂.toDaemon ++ [],
        toClient := link₂.toClient ++
          Agent.heard link₂.socket x.daemon.agent (x.daemon.step W di).agent } := by
    intro link₃ h₃
    obtain ⟨link₂, h₂, rfl⟩ := Option.map_eq_some_iff.1 h₃
    exact ⟨link₂, h₂, by simp [written_self]⟩
  refine ⟨⟨ins ++ [di], ?_⟩, h.ui, h.first, ?_, ?_, ?_, ?_, ?_⟩
  · rw [Machine.run_snoc, ← hins]
    rfl
  · change x.ui.client.connected = (link'.map _).isSome
    rw [Option.isSome_map, hsome]
    exact h.connected
  · intro hnone
    obtain rfl : link' = none := Option.map_eq_none_iff.1 hnone
    have hl : x.link = none := Option.isNone_iff_eq_none.1 (Option.isSome_eq_false_iff.1 hsome.symm)
    exact ⟨rfl, (h.unlinked hl).2⟩
  · intro link₃ h₃
    obtain ⟨link₂, rfl, rfl⟩ := hlinked h₃
    obtain ⟨link, hl, hsocket, htoClient, -, -⟩ := hlink _ rfl
    rw [Option.elim_some, h.channel link hl, htoClient, List.append_assoc]
  · intro link₃ h₃
    obtain ⟨link₂, rfl, rfl⟩ := hlinked h₃
    obtain ⟨link, hl, hsocket, -, -, hgreeted⟩ := hlink _ rfl
    rw [Option.elim_some, hsocket]
    exact hsocket ▸ hgreeted.mono _ []
  · intro link₃ h₃ json hjson ha
    obtain ⟨link₂, rfl, rfl⟩ := hlinked h₃
    obtain ⟨link, hl, -, -, hsub, -⟩ := hlink _ rfl
    rw [Option.elim_some]
    refine Created.mono (h.answers link hl json (hsub ?_) ha)
    simpa using hjson

end

/-! ## The daemon's part of a connection -/

/-- Input of others leaves the daemon waiting for the registration. -/
theorem Greeted.elsewhere {link : Link} {ins : List BbAuth.Input} {di : BbAuth.Input}
    (h : Greeted ((Daemon.machine W).run ins) link said) (hi : di.socket? ≠ some link.socket) :
    Greeted (((Daemon.machine W).run ins).step W di) link (said ++ Agent.heard link.socket
      ((Daemon.machine W).run ins).agent (((Daemon.machine W).run ins).step W di).agent) := by
  cases h with
  | waiting rest hrest ha hc =>
      have hclient : di.client ≠ some link.socket := by
        cases di <;> exact hi
      -- a socket that has neither registered nor asked for anything is told nothing
      obtain ⟨hfirst, ha'⟩ := ha.step (W := W) (heaped_run W ins) hclient fun _ _ _ => id
      rw [heard_of_firstWritten hfirst]
      refine .waiting rest hrest ha' fun c hc' => hc c ?_
      rwa [(deal_step (W := W) (wired_run W ins).elected di).lookup_clients hi] at hc'
  | greeted reply rest ht => exact .greeted reply _ ht

/-- The daemon takes the connection. -/
theorem Greeted.accepted {d : Daemon} {link : Link} (h : Greeted d link said) (peerPid : Pid) :
    Greeted (d.step W (.newConnection link.socket peerPid)) link (said ++ Agent.heard link.socket
      d.agent (d.step W (.newConnection link.socket peerPid)).agent) := by
  cases h with
  | waiting rest hrest ha hc =>
      rw [heard_of_firstWritten (firstWritten_newConnection peerPid)]
      refine .waiting rest hrest (aside_newConnection ha peerPid) fun c hc' => ?_
      simp only [Daemon.step, Daemon.handle] at hc'
      split at hc'
      · exact hc c hc'
      · split at hc'
        · exact hc c hc'
        · simp only [withAgent, setClients_clients, Table.lookup_insert, if_true,
            Option.some_inj] at hc'
          exact hc' ▸ rfl
  | greeted reply rest ht => exact .greeted reply _ ht

/-- **The daemon reads the registration**, or has read it. -/
theorem Greeted.asked {d : Daemon} {socket : Socket} {rest toClient : List QJsonObject}
    {msg : QJsonObject} (h : Greeted d { socket, toDaemon := msg :: rest, toClient } said)
    (hf : d.listener.useAfterFree = false) (hv : d.agent.isValid socket = true) :
    Greeted (d.step W (.line socket (some msg))) { socket, toDaemon := rest, toClient }
      (said ++ Agent.heard socket d.agent (d.step W (.line socket (some msg))).agent) := by
  cases h with
  | waiting rest' hrest ha hc =>
      obtain ⟨rfl, -⟩ := List.cons_eq_cons.1 hrest
      have hconn : d.agent.isConnected socket = true := by
        obtain ⟨c, hc'⟩ := Table.mem_iff_exists.1 (Table.contains_eq_true.1 hv)
        simp [isConnected, hc', hc c hc']
      obtain ⟨reply, more, heq, ht⟩ := heard_registration (W := W) hf hconn
        (show (registerMessage.value "type").toString = "ui.register" from rfl)
      rw [heq]
      exact .greeted reply more ht
  | greeted reply rest' ht => exact .greeted reply _ ht

/-! ## A run -/

/-- Where the daemon is given nothing it writes nothing. -/
theorem sayOn_none (ui : Option FallbackUi.Input) (link : Option Link) :
    sayOn W build said x none ui link = link.elim [] fun _ => said := by
  cases link <;> simp [sayOn, handle, heard_self]

/-- **Every step keeps the two matched.** -/
theorem Matched.step (h : Matched W build x uis said) (hg : Hands x di ui link) :
    Matched W build (x.handle W build di ui link) (uis ++ ui.toList)
      (sayOn W build said x di ui link) := by
  obtain ⟨ins, hins⟩ := h.served
  have hsaid : x.link.elim [] (fun _ => said) = said := by
    cases hl : x.link with
    | none => exact (h.unlinked hl).1.symm
    | some link => rfl
  cases hg with
  | nothing =>
      rw [sayOn_none, hsaid, Option.toList_none, List.append_nil]
      exact h.nothing
  | connected socket hl hv =>
      rw [sayOn_none, Option.elim_some, (h.unlinked hl).1]
      exact h.onConnected hl hv
  | lost hl =>
      rw [sayOn_none]
      exact h.onLost hl
  | heard socket toDaemon rest msg hl =>
      rw [sayOn_none]
      exact h.onHeard hl
  | own i hi =>
      rw [sayOn_none, hsaid]
      exact h.onOwn hi
  | served di hf hs =>
      rw [Option.toList_none, List.append_nil]
      refine h.onDaemon rfl fun link hl => ⟨link, hl, rfl, rfl, List.Subset.refl _, ?_⟩
      have hgreeted := h.greeted link hl
      rw [hins] at hgreeted ⊢
      exact hgreeted.elsewhere (hs link hl)
  | accepted link peerPid hf hl =>
      rw [Option.toList_none, List.append_nil]
      refine h.onDaemon rfl fun link₂ hl₂ => ⟨link₂, hl₂, rfl, rfl, List.Subset.refl _, ?_⟩
      obtain rfl := Option.some.inj (hl.symm.trans hl₂)
      exact (h.greeted link hl).accepted peerPid
  | asked socket rest toClient msg hf hl hv =>
      rw [Option.toList_none, List.append_nil]
      refine h.onDaemon (by rw [hl]; rfl) fun link₂ hl₂ => ?_
      obtain rfl := Option.some.inj hl₂
      exact ⟨_, hl, rfl, rfl, List.subset_cons_self _ _, (h.greeted _ hl).asked hf hv⟩

/-- What the UI is given in a run. -/
def toUi (ms : List FallbackUi.Input) (x : Desktop) (i : Input) : List FallbackUi.Input :=
  ms ++ (x.uiInput? i).toList

/-- **What the daemon has written on the connection in force.** -/
def say (W : World) (build : QJsonObject → PromptDisplayModel) (said : List QJsonObject)
    (x : Desktop) (i : Input) : List QJsonObject :=
  sayOn W build said x (x.input? i) (x.uiInput? i) (x.linkAfter i)

/-- **In every run the two match.** -/
theorem matched_run (W : World) (build : QJsonObject → PromptDisplayModel) (ins : List Input) :
    Matched W build ((machine W build).run ins) ((machine W build).observe toUi [] ins)
      ((machine W build).observe (say W build) [] ins) := by
  refine Machine.history_invariant
    (J := fun ins => Matched W build ((machine W build).run ins)
      ((machine W build).observe toUi [] ins) ((machine W build).observe (say W build) [] ins))
    ⟨⟨[], rfl⟩, rfl, ?_, rfl, fun _ => ⟨rfl, rfl⟩,
      fun _ hlink => absurd hlink.symm (Option.some_ne_none _),
      fun _ hlink => absurd hlink.symm (Option.some_ne_none _),
      fun _ hlink => absurd hlink.symm (Option.some_ne_none _)⟩
    (fun ins i ih => ?_) ins
  · intro pre msg hp
    have := List.prefix_nil.1 hp
    simp at this
  · rw [Machine.run_snoc, Machine.observe_snoc, Machine.observe_snoc]
    exact ih.step (hands_step _ i)

/-- Only the oldest message of the client is read of it. -/
theorem mem_toDaemon_of_input? {link : Link} {json : QJsonObject} (hl : x.link = some link)
    (hi : x.input? i = some (.line link.socket (some json))) : json ∈ link.toDaemon := by
  unfold input? at hi
  split at hi
  · cases hi
  · rw [hl] at hi
    cases i with
    | toDaemon =>
        dsimp only at hi
        split at hi
        · obtain ⟨msg, hmsg, heq⟩ := Option.map_eq_some_iff.1 hi
          obtain rfl : msg = json := by simpa using heq
          exact List.mem_of_mem_head? hmsg
        · cases hi
    | daemon di =>
        dsimp only at hi
        split at hi
        · cases hi
        next hne =>
          obtain rfl := Option.some.inj hi
          exact absurd rfl hne
    | _ => cases hi

/-- **What is answered was shown, and what is shown was said.** In every run
of the daemon and the fallback UI the window has no busy dead end and is
visible exactly while it has a session; its texts are those of a creation
and of updates of this session that the daemon wrote on the connection in
force; and an answer that the daemon reads on it is about a session whose
creation it wrote on it before. -/
theorem answers_what_it_shows (W : World) (build : QJsonObject → PromptDisplayModel)
    (ins : List Input) :
    let x := (machine W build).run ins
    let said := (machine W build).observe (say W build) [] ins
    FallbackUi.NoDeadEnd build x.ui ∧
      (x.ui.window.visible = true ↔ x.ui.window.currentSessionId ≠ "") ∧
      (x.ui.window.currentSessionId ≠ "" → ∃ story : Story, story.TellsOf said ∧
        x.ui.window.currentSessionId = story.session ∧ x.ui.window.face = story.face build) ∧
      ∀ i link json, x.link = some link → x.input? i = some (.line link.socket (some json)) →
        IsAnswer json → Created said json := by
  have h := matched_run W build ins
  dsimp only
  generalize (machine W build).run ins = x at *
  have hsound := FallbackUi.sound_run _ h.first
  have hshows := FallbackUi.shows_run _ h.first
  rw [← h.ui] at hsound hshows
  refine ⟨fun hs hb => ?_, hshows.visible, fun hs => ?_, fun i link json hl hi ha => ?_⟩
  · obtain ⟨-, htimed, hawake⟩ := hsound
    refine ⟨?_, FallbackUi.exists_due (hawake.due htimed build hs hb)⟩
    exact (hawake.busy hs hb).imp_left fun hp => ⟨hp, (hawake.pending hp).2⟩
  · obtain ⟨story, hheard, htells⟩ := hshows.story hs
    have hstory := FallbackUi.tellsOf_listen _ story hheard
    refine ⟨story, ?_, htells.currentSessionId, htells.face⟩
    cases hl : x.link with
    | none =>
        -- without a connection nothing has been read on one
        exact absurd ((h.unlinked hl).2 ▸ hstory.created) List.not_mem_nil
    | some link =>
        rw [h.channel link hl]
        exact hstory.mono (List.subset_append_left _ _)
  · exact h.answers link hl json (mem_toDaemon_of_input? hl hi) ha

/-- A keyring session is shown, and its answer is under way. -/
example :
    let x := (machine (World.plain (fun _ => 0) false) fun _ => {}).run
      ([.connected 1, .accepted 0, .toDaemon, .toDaemon, .daemon (.newConnection 2 7),
        .daemon (.line 2 (some [("type", "keyring_request"), ("cookie", "c")]))] ++
        List.replicate 7 .toClient ++ [.ui (.edit ⟨0, 0, "pw"⟩), .ui .submit])
    x.ui.window.currentSessionId = "c" ∧ x.link.map Link.toDaemon =
      some [subscribeMessage, [("type", "session.respond"), ("id", "c"), ("response", "pw")]] := by
  decide

end Desktop

end BbAuth
