import BbAuth.Flow.Owner
/-!
# Who is given a response

A response is routed by three tables tried in a fixed order. Two of them
agree with the session store by themselves; the third does not. A pinentry
request under the id of an open session of another source is accepted, and
takes the response meant for that session. Runs without such a request
give every response to the component that opened its session.
-/

namespace BbAuth

open Agent

namespace PolkitListener

variable (l : PolkitListener) (a : Agent)

/-- **The PAM session of the request of `cookie`**, as it stands. -/
def currentSession (cookie : String) : Option ℕ :=
  ((l.cookieToState.lookup cookie).bind fun h => l.states.lookup h).bind SessionState.session

/-- **A password is passed on** where its request has a PAM session. -/
theorem submitPassword_log (cookie pass : String) :
    (l.submitPassword a cookie pass).2.log = a.log ++ .submitPassword cookie pass ::
      ((l.currentSession cookie).map fun s => Output.setResponse s pass).toList := by
  simp only [submitPassword, currentSession]
  cases l.cookieToState.lookup cookie with
  | none => simp
  | some h =>
      simp only [Option.bind_some]
      cases l.states.lookup h with
      | none => simp
      | some st => cases hst : st.session <;> simp [hst]

end PolkitListener

namespace Daemon

variable (W : World) {d : Daemon} {i : Input} {c : String} {f : Flow}

/-- **A pinentry request under the id of an open session that is no
pinentry's.** -/
def CrossesSessions (d : Daemon) (i : Input) : Prop :=
  ∃ socket msg source, d.message? i = some (.pinentryRequest, socket, msg) ∧
    IsOpen (d.pinentryRequestOf W socket msg).cookie source d ∧ source ≠ .pinentry

/-- **A response for `c` is given to `out` and to nobody else**: what the
handler does to the outside is the same for all responses, but for
`out`. -/
def Gives (d : Daemon) (socket : Socket) (c : String) (out : String → List Output) : Prop :=
  ∃ before after, ∀ msg, messageId msg = c →
    (d.handleRespond W socket msg).agent.log =
      d.agent.log ++ before ++ out (messageResponse msg) ++ after

/-- A message to a socket, where it is connected. -/
def sentTo (d : Daemon) (socket : Socket) (json : QJsonObject) : List Output :=
  if d.agent.isConnected socket then [.sent socket json] else []

variable {W}

/-! ## The tables and the store -/

/-- A pending pinentry request belongs to an open pinentry session. -/
def Uncrossed (f : Flow) : Prop := f.pending.isSome → f.life.source = some .pinentry

theorem FlowStep.uncrossed (h : FlowStep W d c i f) (hsane : (d.flow c).Sane c)
    (hn : ¬ CrossesSessions W d i) (hu : Uncrossed (d.flow c)) : Uncrossed f := by
  intro hp
  cases h with
  | stay => exact hu hp
  | keyringRequest socket msg hm hc =>
      have hs := hu hp
      simp [Flow.keyringAsked, Life.opened, hs]
  | keyringEnd r hk =>
      have hs := hu hp
      rw [hsane.keyring hk] at hs
      cases hs
  | pinentryRequest socket msg hm hc ho =>
      cases hs : (d.flow c).life.source with
      | none => simp [Flow.pinentryAsked, Life.opened, hs]
      | some source =>
          have : source = .pinentry := by
            by_contra hne
            refine hn ⟨socket, msg, source, hm, ?_, hne⟩
            rw [hc]
            exact hs
          simp [Flow.pinentryAsked, Life.opened, hs, this]
  | pinentryAnswer socket msg hm ha hc hk r hr => cases hp
  | pinentryResult socket msg hm hc ho hs r hr => cases hp
  | pinentryRetry socket msg hm hc ho hs hr => exact hu hp
  | pinentryEnd r hr => cases hp
  | disconnected socket hi =>
      have hk : Uncrossed ((d.flow c).keyringLeft socket) := by
        unfold Flow.keyringLeft
        split
        next hkey =>
          intro hp
          obtain ⟨r, hr, -⟩ := Option.map_eq_some_iff.1 hkey
          have hs := hu hp
          rw [hsane.keyring (by simp [hr])] at hs
          cases hs
        · exact hu
      revert hp
      unfold Flow.pinentryLeft
      split
      · intro hp
        cases hp
      · exact hk
  | polkitRequest hs =>
      have := hu hp
      rw [hs] at this
      cases this
  | polkitEnd r hpk =>
      have := hu hp
      rw [hsane.polkit.1 hpk] at this
      cases this

theorem uncrossed_run {ins : List Input}
    (h : (machine W).Meets (fun d i => ¬ CrossesSessions W d i) ins) (c : String) :
    Uncrossed (((machine W).run ins).flow c) := by
  induction ins using List.reverseRecOn with
  | nil =>
      intro hp
      cases hp
  | append_singleton ins i ih =>
      obtain ⟨hm, hi⟩ := Machine.meets_snoc.1 h
      exact (flowStep_run W c ins i).uncrossed (sane_run W ins c) hi (ih hm)

/-- **The keyring entry of a step** is the one from before, or that of the
request that opens its session. -/
theorem FlowStep.keyring (h : FlowStep W d c i f) {request : KeyringRequest}
    (hk : f.keyring = some request) :
    (d.flow c).keyring = some request ∨
      (d.flow c).life.source = none ∧ ∃ socket msg,
        d.message? i = some (.keyringRequest, socket, msg) ∧
        KeyringManager.requestCookie W d.agent msg = c ∧ request.socket = socket := by
  cases h with
  | stay => exact .inl hk
  | keyringRequest socket msg hm hc =>
      simp only [Flow.keyringAsked] at hk
      split at hk
      next hs => exact .inr ⟨hs, socket, msg, hm, hc, by rw [← Option.some.inj hk]; rfl⟩
      · cases hk
  | keyringEnd r hkey => cases hk
  | pinentryRequest socket msg hm hc ho => exact .inl hk
  | pinentryAnswer socket msg hm ha hc hkey r hr => exact .inl hk
  | pinentryResult socket msg hm hc ho hs r hr => exact .inl hk
  | pinentryRetry socket msg hm hc ho hs hr => exact .inl hk
  | pinentryEnd r hr => exact .inl hk
  | disconnected socket hi =>
      rw [Flow.pinentryLeft_keyring] at hk
      unfold Flow.keyringLeft at hk
      split at hk
      · cases hk
      · exact .inl hk
  | polkitRequest hs => exact .inl hk
  | polkitEnd r hp => exact .inl hk

/-- **The pinentry request of a step** is the one from before, or the one
that is made. -/
theorem FlowStep.pending (h : FlowStep W d c i f) {request : PinentryRequest}
    (hp : f.pending = some request) :
    (d.flow c).pending = some request ∨
      ∃ msg, d.message? i = some (.pinentryRequest, request.socket, msg) := by
  cases h with
  | stay => exact .inl hp
  | keyringRequest socket msg hm hc => exact .inl hp
  | keyringEnd r hk => exact .inl hp
  | pinentryRequest socket msg hm hc ho =>
      obtain rfl : d.pinentryRequestOf W socket msg = request := Option.some.inj hp
      exact .inr ⟨msg, by simpa [pinentryRequestOf] using hm⟩
  | pinentryAnswer socket msg hm ha hc hkey r hr => cases hp
  | pinentryResult socket msg hm hc ho hs r hr => cases hp
  | pinentryRetry socket msg hm hc ho hs hr => exact .inl hp
  | pinentryEnd r hr => cases hp
  | disconnected socket hi =>
      obtain ⟨hk, -⟩ := (d.flow c).keyringLeft_pinentry socket
      unfold Flow.pinentryLeft at hp
      split at hp
      · cases hp
      · exact .inl (hk ▸ hp)
  | polkitRequest hs => exact .inl hp
  | polkitEnd r hpk => exact .inl hp

/-- **A keyring entry is bound to the socket whose request opened the
session.** -/
theorem keyring_openedAt {ins : List Input} {request : KeyringRequest}
    (h : (((machine W).run ins).flow c).keyring = some request) :
    ∃ pre i msg, (machine W).OpenedAt (IsOpen c .keyring) ins pre i ∧
      ((machine W).run pre).message? i = some (.keyringRequest, request.socket, msg) ∧
      KeyringManager.requestCookie W ((machine W).run pre).agent msg = c := by
  induction ins using List.reverseRecOn with
  | nil => cases h
  | append_singleton ins j ih =>
      have hopen : IsOpen c .keyring ((machine W).run (ins ++ [j])) :=
        (sane_run W (ins ++ [j]) c).keyring (Option.isSome_of_mem h)
      rw [Machine.run_snoc] at hopen
      rcases (flowStep_run W c ins j).keyring h with hk | ⟨hs, socket, msg, hm, hc, rfl⟩
      · obtain ⟨pre, i, msg, ho, hm, hc⟩ := ih hk
        exact ⟨pre, i, msg, ho.snoc hopen, hm, hc⟩
      · refine ⟨ins, j, msg, .new (fun hp => ?_) hopen, hm, hc⟩
        have := hs.symm.trans hp
        cases this

/-! ## The three ways a response can go -/

section

variable {socket : Socket} {msg : QJsonObject}

/-- A response is accepted from the authorized socket only. -/
theorem authorized_of_ok (h : (d.respond W socket msg).1 = ok) :
    d.agent.isAuthorizedProviderSocket socket = true := by
  by_contra hn
  rw [Bool.not_eq_true] at hn
  simp [respond, hn, ok, error] at h

variable (W) in
/-- What the handler adds to the reply of `respond`. -/
theorem handleRespond_log (d : Daemon) (socket : Socket) (msg : QJsonObject) :
    (d.handleRespond W socket msg).agent.log =
      (d.respond W socket msg).2.agent.log ++
        (d.respond W socket msg).2.sentTo socket (d.respond W socket msg).1 :=
  Agent.sendJson_log _ socket _

theorem sentTo_congr {d d' : Daemon} (h : d'.agent.clients = d.agent.clients) (socket : Socket)
    (json : QJsonObject) : d'.sentTo socket json = d.sentTo socket json := by
  unfold sentTo
  rw [Agent.isConnected_of_clients h]

/-- Closing a session extends the trace. -/
theorem log_closeSession (W : World) (a : Agent) (c : String) (r : Session.Result) :
    a.log <+: (a.closeSession W c r).2.log := by
  cases h : a.getSession c with
  | none => rw [closeSession_of_none W a c h]
  | some s => exact (closeSession_of_some W a c h r).log

/-- The response that finds a pending keyring request. -/
theorem respond_of_keyring (ha : d.agent.isAuthorizedProviderSocket socket = true)
    {request : KeyringRequest}
    (hk : d.keyringManager.pendingRequests.lookup (messageId msg) = some request) :
    d.respond W socket msg = (ok,
      (d.withKeyring (d.keyringManager.handleResponse W d.agent (messageId msg)
        (messageResponse msg)).2).sendJson request.socket
          (d.keyringManager.handleResponse W d.agent (messageId msg) (messageResponse msg)).1) := by
  unfold messageId at hk ⊢
  simp [respond, ha, KeyringManager.hasPendingRequest, Table.contains, hk,
    KeyringManager.getSocketForRequest, messageResponse, withKeyring, sendJson, withAgent]

/-- The response that finds none, but a pending pinentry request. -/
theorem respond_of_pinentry (ha : d.agent.isAuthorizedProviderSocket socket = true)
    (hk : d.keyringManager.pendingRequests.lookup (messageId msg) = none)
    {request : PinentryRequest}
    (hp : d.pinentryManager.pendingRequests.lookup (messageId msg) = some request) :
    d.respond W socket msg = (ok,
      (d.withPinentry ((d.pinentryManager.handleResponse (messageId msg)
        (messageResponse msg)).2, d.agent)).sendJson request.socket
          (d.pinentryManager.handleResponse (messageId msg) (messageResponse msg)).1) := by
  have htype := (PinentryManager.handleResponse_of_pending hp (messageResponse msg)).1
  unfold messageId at hk hp htype ⊢
  unfold messageResponse at htype
  simp [respond, ha, KeyringManager.hasPendingRequest, Table.contains, hk,
    PinentryManager.hasPendingInput, hp, PinentryManager.getSocketForPendingInput, htype,
    messageResponse, withPinentry, sendJson, withAgent]

/-- The cancellation of a pending keyring request. -/
theorem cancel_of_keyring (ha : d.agent.isAuthorizedProviderSocket socket = true)
    {request : KeyringRequest}
    (hk : d.keyringManager.pendingRequests.lookup (messageId msg) = some request) :
    d.cancel W socket msg = (ok,
      (d.withKeyring (d.keyringManager.handleCancel W d.agent (messageId msg)).2).sendJson
        request.socket (d.keyringManager.handleCancel W d.agent (messageId msg)).1) := by
  unfold messageId at hk ⊢
  simp [cancel, ha, KeyringManager.hasPendingRequest, Table.contains, hk,
    KeyringManager.getSocketForRequest, withKeyring, sendJson, withAgent]

/-- The cancellation of a pending pinentry request. -/
theorem cancel_of_pinentry (ha : d.agent.isAuthorizedProviderSocket socket = true)
    (hk : d.keyringManager.pendingRequests.lookup (messageId msg) = none)
    {request : PinentryRequest}
    (hp : d.pinentryManager.pendingRequests.lookup (messageId msg) = some request) :
    d.cancel W socket msg = (ok,
      (d.withPinentry (d.pinentryManager.closeFlow W d.agent (messageId msg) .cancelled)).sendJson
        request.socket (PinentryManager.cancelledReply (messageId msg))) := by
  have hreq : d.pinentryManager.hasRequest d.agent (messageId msg) = true := by
    simp [PinentryManager.hasRequest, Table.contains, hp]
  have hcancel := PinentryManager.handleCancel_of_hasRequest (W := W) hreq
  unfold messageId at hk hp hreq hcancel ⊢
  simp [cancel, ha, KeyringManager.hasPendingRequest, Table.contains, hk, hreq, hcancel,
    PinentryManager.cancelledReply, PinentryManager.getSocketForPendingInput, hp, withPinentry,
    sendJson, withAgent]

/-- **A response to a pending keyring request** goes to its socket. -/
theorem gives_keyring (ha : d.agent.isAuthorizedProviderSocket socket = true)
    {request : KeyringRequest} (hk : (d.flow c).keyring = some request) :
    Gives W d socket c fun r =>
      d.sentTo request.socket (d.keyringManager.handleResponse W d.agent c r).1 := by
  have hk' : d.keyringManager.pendingRequests.lookup c = some request := hk
  obtain ⟨before, hbefore⟩ := log_closeSession W d.agent c .success
  have hclients : (d.agent.closeSession W c .success).2.clients = d.agent.clients :=
    (Call.close (S := ∅) c .success).clients
  refine ⟨before, d.sentTo socket ok, fun msg hc => ?_⟩
  subst hc
  have hclosed : (d.keyringManager.handleResponse W d.agent (messageId msg)
      (messageResponse msg)).2.2 = (d.agent.closeSession W (messageId msg) .success).2 := by
    simp only [KeyringManager.handleResponse, hk']
  rw [handleRespond_log, respond_of_keyring ha hk']
  simp only [sendJson, withAgent, withKeyring, hclosed]
  rw [Agent.sendJson_log, Agent.isConnected_of_clients hclients, hbefore]
  congr 1
  exact sentTo_congr (d := d) (by rw [Agent.sendJson_clients, hclients]) socket ok

/-- **A response to a pending pinentry request** goes to its socket. -/
theorem gives_pinentry (ha : d.agent.isAuthorizedProviderSocket socket = true)
    (hk : (d.flow c).keyring = none) {request : PinentryRequest}
    (hp : (d.flow c).pending = some request) :
    Gives W d socket c fun r =>
      d.sentTo request.socket (d.pinentryManager.handleResponse c r).1 := by
  have hk' : d.keyringManager.pendingRequests.lookup c = none := hk
  have hp' : d.pinentryManager.pendingRequests.lookup c = some request := hp
  refine ⟨[], d.sentTo socket ok, fun msg hc => ?_⟩
  subst hc
  rw [handleRespond_log, respond_of_pinentry ha hk' hp', List.append_nil]
  simp only [sendJson, withAgent, withPinentry]
  rw [Agent.sendJson_log]
  congr 1
  exact sentTo_congr (d := d) (Agent.sendJson_clients _ _ _) socket ok

/-- A response that finds no pending request is accepted for an open
polkit session only. -/
theorem isOpen_polkit_of_ok (hacc : (d.respond W socket msg).1 = ok)
    (hk : (d.flow (messageId msg)).keyring = none)
    (hp : (d.flow (messageId msg)).pending = none) :
    IsOpen (messageId msg) .polkit d ∧
      d.pinentryManager.hasRequest d.agent (messageId msg) = false := by
  have ha := authorized_of_ok hacc
  have hk' : d.keyringManager.pendingRequests.lookup (messageId msg) = none := hk
  have hp' : d.pinentryManager.pendingRequests.lookup (messageId msg) = none := hp
  have hsrc : (d.flow (messageId msg)).life.source =
      (d.agent.getSession (messageId msg)).map Session.source := rfl
  unfold IsOpen
  rw [hsrc]
  unfold messageId at hk' hp' ⊢
  cases hreq : d.pinentryManager.hasRequest d.agent (msg.value "id").toString with
  | true =>
      simp [respond, ha, KeyringManager.hasPendingRequest, Table.contains, hk',
        PinentryManager.hasPendingInput, hp', hreq, ok, error] at hacc
  | false =>
      cases hs : d.agent.getSession (msg.value "id").toString with
      | none =>
          simp [respond, ha, KeyringManager.hasPendingRequest, Table.contains, hk',
            PinentryManager.hasPendingInput, hp', hreq, hs, ok, error] at hacc
      | some session =>
          refine ⟨?_, rfl⟩
          by_contra hne
          have hne' : session.source ≠ .polkit := fun h => hne (by simp [h])
          simp [respond, ha, KeyringManager.hasPendingRequest, Table.contains, hk',
            PinentryManager.hasPendingInput, hp', hreq, hs, hne', ok, error] at hacc

/-- **A response to an open polkit session** is handed to the listener. -/
theorem respond_of_polkit (ha : d.agent.isAuthorizedProviderSocket socket = true)
    (hk : (d.flow (messageId msg)).keyring = none) (hp : (d.flow (messageId msg)).pending = none)
    (hs : IsOpen (messageId msg) .polkit d)
    (hreq : d.pinentryManager.hasRequest d.agent (messageId msg) = false) :
    d.respond W socket msg = (ok, d.withListener
      (d.listener.submitPassword d.agent (messageId msg) (messageResponse msg))) := by
  have hk' : d.keyringManager.pendingRequests.lookup (messageId msg) = none := hk
  have hp' : d.pinentryManager.pendingRequests.lookup (messageId msg) = none := hp
  obtain ⟨session, hsession, hsrc⟩ := Option.map_eq_some_iff.1 (show
    (d.agent.getSession (messageId msg)).map Session.source = some .polkit from hs)
  unfold messageId at hk' hp' hreq hsession
  simp [respond, ha, KeyringManager.hasPendingRequest, Table.contains, hk',
    PinentryManager.hasPendingInput, hp', hreq, hsession, hsrc, withListener, messageId,
    messageResponse]

/-- **A response to a polkit session** is given to the listener, and to no
socket. -/
theorem gives_polkit (ha : d.agent.isAuthorizedProviderSocket socket = true)
    (hk : (d.flow c).keyring = none) (hp : (d.flow c).pending = none)
    (hs : IsOpen c .polkit d) (hreq : d.pinentryManager.hasRequest d.agent c = false) :
    ∃ session : Option ℕ, Gives W d socket c fun r =>
      .submitPassword c r :: (session.map fun s => Output.setResponse s r).toList := by
  refine ⟨d.listener.currentSession c, [], d.sentTo socket ok, fun msg hc => ?_⟩
  subst hc
  have hclients :
      (d.listener.submitPassword d.agent (messageId msg) (messageResponse msg)).2.clients =
      d.agent.clients := (PolkitListener.calls_submitPassword W _ _ _ _).clients
  rw [handleRespond_log, respond_of_polkit ha hk hp hs hreq, List.append_nil]
  simp only [withListener]
  rw [PolkitListener.submitPassword_log]
  congr 1
  exact sentTo_congr (d := d) hclients socket ok

end

/-! ## The secret reaches the opener -/

/-- **Secrets reach only the component that opened the session.** In a run
without crossing requests, an accepted response for an open polkit session
goes to the listener and to no socket, one for a keyring session to the
socket whose request opened it, and one for a pinentry session to a socket
of the peer that opened it. -/
theorem respond_gives_opener {ins : List Input}
    (h : (machine W).Meets (fun d i => ¬ CrossesSessions W d i) ins)
    {socket : Socket} {msg : QJsonObject}
    (hacc : (((machine W).run ins).respond W socket msg).1 = ok) :
    let d := (machine W).run ins
    let c := messageId msg
    (IsOpen c .polkit d → ∃ session : Option ℕ, Gives W d socket c fun r =>
      .submitPassword c r :: (session.map fun s => Output.setResponse s r).toList) ∧
    (IsOpen c .keyring d → ∃ pre i creator msg₀,
      (machine W).OpenedAt (IsOpen c .keyring) ins pre i ∧
      ((machine W).run pre).message? i = some (.keyringRequest, creator, msg₀) ∧
      KeyringManager.requestCookie W ((machine W).run pre).agent msg₀ = c ∧
      Gives W d socket c fun r =>
        d.sentTo creator (d.keyringManager.handleResponse W d.agent c r).1) ∧
    (IsOpen c .pinentry d → ∃ pre i creator msg₀ recipient,
      (machine W).OpenedAt (IsOpen c .pinentry) ins pre i ∧
      ((machine W).run pre).message? i = some (.pinentryRequest, creator, msg₀) ∧
      (((machine W).run pre).pinentryRequestOf W creator msg₀).cookie = c ∧
      d.agent.getPeerPid recipient = ((machine W).run pre).agent.getPeerPid creator ∧
      Gives W d socket c fun r => d.sentTo recipient (d.pinentryManager.handleResponse c r).1) := by
  intro d c
  have ha := authorized_of_ok hacc
  have hsane : (d.flow c).Sane c := sane_run W ins c
  have hu : Uncrossed (d.flow c) := uncrossed_run h c
  refine ⟨fun hs => ?_, fun hs => ?_, fun hs => ?_⟩
  · have hk : (d.flow c).keyring = none := by
      by_contra hk
      have := (hsane.keyring (Option.isSome_iff_ne_none.2 hk)).symm.trans hs
      cases this
    have hp : (d.flow c).pending = none := by
      by_contra hp
      have := (hu (Option.isSome_iff_ne_none.2 hp)).symm.trans hs
      cases this
    exact gives_polkit ha hk hp hs (isOpen_polkit_of_ok hacc hk hp).2
  · cases hk : (d.flow c).keyring with
    | some request =>
        obtain ⟨pre, i, msg₀, ho, hm, hc⟩ := keyring_openedAt hk
        exact ⟨pre, i, request.socket, msg₀, ho, hm, hc, gives_keyring ha hk⟩
    | none =>
        -- without its entry a keyring session accepts nothing
        have hp : (d.flow c).pending = none := by
          by_contra hp
          have := (hu (Option.isSome_iff_ne_none.2 hp)).symm.trans hs
          cases this
        have := (isOpen_polkit_of_ok hacc hk hp).1.symm.trans hs
        cases this
  · have hk : (d.flow c).keyring = none := by
      by_contra hk
      have := (hsane.keyring (Option.isSome_iff_ne_none.2 hk)).symm.trans hs
      cases this
    cases hp : (d.flow c).pending with
    | some request =>
        obtain ⟨pre, i, ho⟩ := Machine.exists_openedAt (M := machine W) (P := IsOpen c .pinentry)
          (by intro hn; cases hn) ins hs
        obtain ⟨creator, msg₀, hm, hc, howner⟩ := owner_of_openedAt ho
        obtain ⟨client, hcl, hpid⟩ := attended_run W ins c request hp
        refine ⟨pre, i, creator, msg₀, request.socket, ho, hm, hc, ?_, gives_pinentry ha hk hp⟩
        have hpeer : d.agent.getPeerPid request.socket = request.peerPid := by
          rw [← hpid]
          simp [Agent.getPeerPid, d, hcl]
        rw [hpeer]
        exact Option.some.inj ((hsane.asked request hp).2.symm.trans howner)
    | none =>
        have := (isOpen_polkit_of_ok hacc hk hp).1.symm.trans hs
        cases this

/-- A message that answers the session `id`. -/
def respondMessage (id response : String) : QJsonObject :=
  [("type", "session.respond"), ("id", id), ("response", response)]

/-- A keyring request and its answer: the run crosses nothing, and the
answer goes to the socket that asked. -/
theorem respond_gives_opener_keyring :
    let W := World.plain (fun _ => 0) false
    let d := (machine W).run [.newConnection 1 100,
      .line 1 (some [("type", "keyring_request"), ("cookie", "c")])]
    ∃ creator, Gives W d 1 "c" fun r =>
      d.sentTo creator (d.keyringManager.handleResponse W d.agent "c" r).1 := by
  intro W d
  let request : QJsonObject := [("type", "keyring_request"), ("cookie", "c")]
  let ask : Input := .line 1 (some request)
  have hm : (machine W).Meets (fun d i => ¬ CrossesSessions W d i)
      ([] ++ [.newConnection 1 100] ++ [ask]) := by
    refine Machine.meets_snoc.2 ⟨Machine.meets_snoc.2 ⟨Machine.meets_nil, ?_⟩, ?_⟩
    · rintro ⟨socket, msg, source, hmsg, -⟩
      cases hmsg
    · rintro ⟨socket, msg, source, hmsg, -⟩
      have hask : ((machine W).run ([] ++ [.newConnection 1 100])).message? ask =
          some (MessageType.keyringRequest, 1, request) := by decide
      have := (Prod.mk.inj (Option.some.inj (hask.symm.trans hmsg))).1
      cases this
  have hacc : (d.respond W 1 (respondMessage "c" "secret")).1 = ok := by decide
  have hopen : IsOpen "c" .keyring d := by
    unfold IsOpen
    decide
  obtain ⟨-, hkeyring, -⟩ := respond_gives_opener hm hacc
  obtain ⟨-, -, creator, -, -, -, -, hg⟩ := hkeyring hopen
  exact ⟨creator, hg⟩

/-- A pinentry request under the id of a polkit session: the password
typed for polkit goes to the pinentry's socket. -/
theorem respond_crossed :
    ¬ ∀ (W : World) (ins : List Input) (socket : Socket) (msg : QJsonObject),
      (((machine W).run ins).respond W socket msg).1 = ok →
      IsOpen (messageId msg) .polkit ((machine W).run ins) →
      ∃ session : Option ℕ, Gives W ((machine W).run ins) socket (messageId msg) fun r =>
        .submitPassword (messageId msg) r ::
          (session.map fun s => Output.setResponse s r).toList := by
  intro h
  let W := World.plain (fun _ => 0) false
  let ins : List Input :=
    [.initiateAuthentication "action" "message" "icon" [] "c" ["unix-user:1000"],
      .newConnection 1 100, askLine 1 "c"]
  let msg := respondMessage "c" "secret"
  have hopen : IsOpen (messageId msg) .polkit ((machine W).run ins) := by
    unfold IsOpen
    decide
  obtain ⟨session, before, after, hlog⟩ := h W ins 1 msg (by decide) hopen
  have hmem : Output.submitPassword "c" "secret" ∈
      (((machine W).run ins).handleRespond W 1 msg).agent.log := by
    rw [hlog msg rfl]
    simp [show messageId msg = "c" from rfl, show messageResponse msg = "secret" from rfl]
  revert hmem
  decide

end Daemon

end BbAuth
