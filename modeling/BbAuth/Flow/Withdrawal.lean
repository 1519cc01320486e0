import BbAuth.Flow.Prompts
/-!
# The withdrawal of a keyring prompt

A prompt that is closed sends a cancellation over a connection of its own.
That connection is a stranger's: it has registered no provider, and it says
nothing else. So it is authorized exactly where nobody has registered, and
then the daemon withdraws the request; elsewhere the cancellation is refused
and nothing is changed.
-/

namespace BbAuth

open Agent

namespace Daemon

variable (W : World) (socket : Socket) (c : String) (d d' : Daemon)

/-- **The keyring request `c` is withdrawn**: its entry is dropped and its
session closed as cancelled, and every other entry and session is left. -/
structure Withdrawn : Prop where
  dropped : d'.keyringManager.pendingRequests = d.keyringManager.pendingRequests.erase c
  closed : ∃ s, d.agent.getSession c = some s ∧ d'.agent.getSession c = none ∧
    d'.agent.events = d.agent.events ++ [(s.close .cancelled).toClosedEvent]
  others : ∀ id, id ≠ c → d'.agent.getSession id = d.agent.getSession id

/-- **The cancellation is refused**: it is answered with an error, and no
entry, no session and no event comes or goes. -/
structure TurnedAway : Prop where
  answered : d'.agent.log = d.agent.log ++ [.sent socket (error "Not active UI provider")]
  keyring : d'.keyringManager = d.keyringManager
  sessions : d'.agent.sessionStore = d.agent.sessionStore
  events : d'.agent.events = d.agent.events

variable {W socket c d}

/-- A stranger is authorized exactly where nobody has registered. -/
theorem isAuthorized_of_unregistered {reg : ProviderRegistry} (h : socket ∉ reg.uiProviders) :
    reg.isAuthorized socket = true ↔ reg.uiProviders = ∅ := by
  constructor
  · intro ha
    rw [Table.eq_empty_iff]
    intro s
    rw [AList.lookup_eq_none]
    intro hs
    obtain ⟨p, hp⟩ := Table.mem_iff_exists.1 hs
    have hne := Table.isEmpty_pairs_of_lookup hp
    simp [ProviderRegistry.isAuthorized, hne, Table.contains_eq_false.2 h] at ha
  · intro hempty
    simp [ProviderRegistry.isAuthorized, hempty, Table.pairs]

/-- The message of a prompt that is closed reaches the cancellation. -/
theorem message?_promptClose (hf : d.listener.useAfterFree = false)
    (hv : d.agent.isValid socket = true) :
    d.message? (.line socket (KeyringPrompter.promptClose (some c))) =
      some (.sessionCancel, socket, KeyringPrompter.cancelMessage c) := by
  simp [message?, hf, hv, KeyringPrompter.promptClose, KeyringPrompter.cancelMessage, handlers,
    List.lookup_cons]

/-- **An authorized cancellation withdraws** a pending keyring request. -/
theorem withdrawn_handleCancel {msg : QJsonObject} {r : KeyringRequest} {s : Session}
    (hid : messageId msg = c) (ha : d.agent.isAuthorizedProviderSocket socket = true)
    (hr : d.keyringManager.pendingRequests.lookup c = some r)
    (hs : d.agent.getSession c = some s) : Withdrawn c d (d.handleCancel W socket msg) := by
  subst hid
  have hclose := closeSession_of_some W d.agent (messageId msg) hs .cancelled
  have hsent : ∀ j, Quiet (d.agent.closeSession W (messageId msg) .cancelled).2
      (((d.agent.closeSession W (messageId msg) .cancelled).2.sendJson r.socket j).sendJson
        socket ok) := fun j =>
    (quiet_sendJson _ _ _).trans (quiet_sendJson _ _ _)
  have hcancel : d.handleCancel W socket msg =
      { d with
        keyringManager := d.keyringManager.drop (messageId msg)
        agent := ((d.agent.closeSession W (messageId msg) .cancelled).2.sendJson r.socket
          (KeyringManager.cancelledReply (messageId msg))).sendJson socket ok } := by
    simp only [handleCancel, cancel_of_keyring ha hr, KeyringManager.handleCancel, hr]
    rfl
  have hall := hclose.quiet (hsent (KeyringManager.cancelledReply (messageId msg)))
  have hget : ∀ id, (d.handleCancel W socket msg).agent.getSession id =
      (d.agent.sessionStore.sessions.erase (messageId msg)).lookup id := by
    intro id
    rw [hcancel, ← hall.sessions]
    rfl
  refine ⟨by rw [hcancel]; rfl, ⟨s, hs, ?_, ?_⟩, fun id hid => ?_⟩
  · rw [hget, Table.lookup_erase, if_pos rfl]
  · rw [hcancel]
    exact hall.events
  · rw [hget, Table.lookup_erase, if_neg hid]
    rfl

/-- **A cancellation that is not authorized is refused.** -/
theorem turnedAway_handleCancel {msg : QJsonObject}
    (hc : d.agent.isConnected socket = true)
    (ha : d.agent.isAuthorizedProviderSocket socket = false) :
    TurnedAway socket d (d.handleCancel W socket msg) := by
  have hcancel : d.handleCancel W socket msg =
      d.sendJson socket (error "Not active UI provider") := by
    simp [handleCancel, cancel, ha]
  rw [hcancel]
  refine ⟨?_, rfl, ?_, ?_⟩
  · simp [sendJson, withAgent, Agent.sendJson_log, hc]
  · simp [sendJson, withAgent]
  · exact (quiet_sendJson _ _ _).events

/-- **A closed prompt withdraws its request** where nobody has registered
as a provider; elsewhere its cancellation is refused. -/
theorem withdrawn_of_promptClose {pid : Pid} {pre between : List Input}
    (hnew : socket ∉ ((machine W).run pre).agent.clients)
    (hbetween : ∀ i ∈ between, i.client ≠ some socket) :
    let asking := (machine W).run (pre ++ .newConnection socket pid :: between)
    let closed := asking.step W (.line socket (KeyringPrompter.promptClose (some c)))
    asking.listener.useAfterFree = false → c ∈ asking.keyringManager.pendingRequests →
    (asking.agent.providerRegistry.uiProviders = ∅ → Withdrawn c asking closed) ∧
      (asking.agent.providerRegistry.uiProviders ≠ ∅ → TurnedAway socket asking closed) := by
  intro asking closed hf hpending
  obtain ⟨r, hr⟩ := Table.mem_iff_exists.1 hpending
  obtain ⟨haside, hconn, -⟩ := aside_of_connected (W := W) pid hnew hbetween []
  have hc : asking.agent.isConnected socket = true := hconn hf
  have hstep : closed = asking.handleCancel W socket (KeyringPrompter.cancelMessage c) :=
    step_of_message (message?_promptClose hf (isValid_of_isConnected hc))
  -- the connection has registered no provider
  have hout : socket ∉ asking.agent.providerRegistry.uiProviders := fun hs =>
    haside.kept.providers socket hs rfl
  have hauth : asking.agent.isAuthorizedProviderSocket socket = true ↔
      asking.agent.providerRegistry.uiProviders = ∅ := isAuthorized_of_unregistered hout
  rw [hstep]
  refine ⟨fun hempty => ?_, fun hne => ?_⟩
  · have hsource : (asking.agent.getSession c).map Session.source = some .keyring :=
      (sane_run W _ c).keyring (Option.isSome_of_mem hr)
    obtain ⟨s, hs, -⟩ := Option.map_eq_some_iff.1 hsource
    exact withdrawn_handleCancel (c := c) rfl (hauth.2 hempty) hr hs
  · refine turnedAway_handleCancel hc ?_
    rw [← Bool.not_eq_true]
    exact fun ha => hne (hauth.1 ha)

/-- A keyring request under the cookie `k`. -/
def asked : List Input :=
  [.newConnection 1 100, .line 1 (some (KeyringPrompt.request "k" (.confirm none none none)))]

/-- A prompt that is closed while nobody has registered: its request is
withdrawn. -/
theorem withdrawn_of_promptClose_unregistered :
    let W := World.plain (fun _ => 0) true
    let asking := (machine W).run (asked ++ [.newConnection 3 100])
    Withdrawn "k" asking
      (asking.step W (.line 3 (KeyringPrompter.promptClose (some "k")))) :=
  (withdrawn_of_promptClose (by decide) (by decide) (by decide) (by decide)).1 rfl

/-- With a provider registered, a prompt that is closed stays pending. -/
theorem not_withdrawn_of_promptClose :
    ¬ ∀ (W : World) (socket : Socket) (c : String) (pid : Pid) (pre : List Input),
      socket ∉ ((machine W).run pre).agent.clients →
      let asking := (machine W).run (pre ++ [.newConnection socket pid])
      asking.listener.useAfterFree = false → c ∈ asking.keyringManager.pendingRequests →
      Withdrawn c asking
        (asking.step W (.line socket (KeyringPrompter.promptClose (some c)))) := by
  intro h
  have hw := (h (.plain (fun _ => 0) true) 3 "k" 100 (provided ++ asked) (by decide) (by decide)
    (by decide)).dropped
  have hgone := congrArg (AList.lookup "k") hw
  rw [Table.lookup_erase, if_pos rfl] at hgone
  revert hgone
  decide

end Daemon

end BbAuth
