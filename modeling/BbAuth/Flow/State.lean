import BbAuth.Agent.Life
import BbAuth.Flow.Turn
import BbAuth.Polkit.Ending
/-!
# The flow of one id

Sessions are found by their ids, pending requests by their cookies, polkit
states by theirs; the three are one name space. `Flow` is everything the
daemon keeps under one name: the life of the session, the entries of the
managers' tables, and whether the listener has a state for it. Each
handler moves the flow of its own name by one of a few operations and
leaves every other flow alone.
-/

namespace BbAuth

namespace PolkitListener

/-- A call of the listener is a chain of calls of the agent's services. -/
theorem calls_call {W : World} (l : PolkitListener) (a : Agent) {c : Call}
    (hc : ∀ b, c ≠ .elsewhere b) : Agent.Calls W Set.univ a (call W (l, a) c).2 := by
  have hattempts : ∀ {b : Agent}, Agent.Calls W attempting a b → Agent.Calls W Set.univ a b :=
    Agent.Calls.anyone
  cases c with
  | initiateAuthentication actionId message iconName details cookie identities =>
      exact hattempts
        (calls_initiateAuthentication W a l actionId message iconName details cookie identities)
  | cancelAuthentication => exact hattempts (calls_cancelAuthentication W a l)
  | request session text echo => exact hattempts (calls_onSessionRequest W a l session text echo)
  | completed session gained => exact hattempts (calls_onSessionCompleted W a l session gained)
  | showError session text => exact hattempts (calls_onSessionError W a l session text)
  | showInfo session text => exact hattempts (calls_onSessionInfo W a l session text)
  | submitPassword cookie pass => exact Agent.Calls.anyone (calls_submitPassword W a l cookie pass)
  | cancelPending cookie => exact hattempts (calls_cancelPending W a l cookie)
  | elsewhere b => exact absurd rfl (hc b)

end PolkitListener

/-- **What the daemon keeps under one id.** -/
structure Flow where
  life : Life
  keyring : Option KeyringRequest
  pending : Option PinentryRequest
  awaiting : Option AwaitingOutcome
  owner : Option Pid
  polkit : Bool

namespace Flow

variable (f : Flow)

/-- A keyring request: it is kept where its session could be created, and
rolled back over whatever stood there where not. -/
def keyringAsked (request : KeyringRequest) : Flow :=
  { f with
    life := f.life.opened .keyring
    keyring := if f.life.source = none then some request else none }

/-- A keyring request is answered, cancelled or abandoned. -/
def keyringClosed (r : Session.Result) : Flow :=
  { f with life := f.life.closed r, keyring := none }

/-- A socket is gone, and with it the keyring request it made. -/
def keyringLeft (socket : Socket) : Flow :=
  if f.keyring.map KeyringRequest.socket = some socket then f.keyringClosed .cancelled else f

/-- A pinentry request of the flow's owner. -/
def pinentryAsked (request : PinentryRequest) : Flow :=
  { f with
    life := f.life.opened .pinentry
    pending := some request
    awaiting := none
    owner := some request.peerPid }

/-- A pinentry request is answered: its result is now awaited. -/
def pinentryAnswered (request : PinentryRequest) (timer : ℕ) : Flow :=
  { f with pending := none, awaiting := some { request := request, timer := timer } }

/-- The owner reports a failed attempt. -/
def pinentryRetried : Flow := { f with awaiting := none }

/-- The flow is closed: the session only if it is a pinentry's. -/
def pinentryClosed (r : Session.Result) : Flow :=
  { f with
    life := if f.life.source = some .pinentry then f.life.closed r else f.life
    pending := none
    awaiting := none
    owner := none }

/-- A socket is gone, and with it the flow that waits for input on it. -/
def pinentryLeft (socket : Socket) : Flow :=
  if f.pending.map PinentryRequest.socket = some socket then f.pinentryClosed .cancelled else f

/-- An accepted polkit request. -/
def polkitAsked : Flow := { f with life := f.life.opened .polkit, polkit := true }

/-- The listener concludes a request. -/
def polkitClosed (r : Session.Result) : Flow :=
  { f with life := f.life.closed r, polkit := false }

theorem keyringClosed_closed (r r' : Session.Result) :
    (f.keyringClosed r).keyringClosed r' = f.keyringClosed r := by
  simp [keyringClosed, Life.closed_of_none]

theorem pinentryClosed_closed (r r' : Session.Result) :
    (f.pinentryClosed r).pinentryClosed r' = f.pinentryClosed r := by
  by_cases h : f.life.source = some .pinentry <;> simp [pinentryClosed, h]

/-- The keyring half of a disconnect leaves the pinentry fields. -/
theorem keyringLeft_pinentry (socket : Socket) :
    (f.keyringLeft socket).pending = f.pending ∧ (f.keyringLeft socket).awaiting = f.awaiting ∧
      (f.keyringLeft socket).owner = f.owner := by
  unfold keyringLeft
  split <;> exact ⟨rfl, rfl, rfl⟩

/-- The pinentry half leaves the keyring entry. -/
theorem pinentryLeft_keyring (socket : Socket) :
    (f.pinentryLeft socket).keyring = f.keyring := by
  unfold pinentryLeft
  split <;> rfl

/-! ## What fits together -/

/-- **The tables agree under the id `c`**: a keyring entry belongs to a
keyring session and a listener's state to a polkit session, a pinentry
session has an owner, and no flow both waits for input and awaits a
result. -/
structure Sane (c : String) (f : Flow) : Prop where
  keyring : f.keyring.isSome → f.life.source = some .keyring
  polkit : f.polkit = true ↔ f.life.source = some .polkit
  owned : f.life.source = some .pinentry → f.owner.isSome
  asked : ∀ request, f.pending = some request →
    f.awaiting = none ∧ f.owner = some request.peerPid
  named : f.owner.isSome → c ≠ ""

variable {f} {c : String}

theorem Sane.keyringAsked (h : Sane c f) (request : KeyringRequest) :
    Sane c (f.keyringAsked request) := by
  obtain ⟨hk, hp, ho, ha, hn⟩ := h
  cases hs : f.life.source with
  | none =>
      rw [hs] at hp
      refine ⟨fun _ => ?_, ?_, ?_, ha, hn⟩ <;>
        simp_all [Flow.keyringAsked, Life.opened]
  | some source =>
      refine ⟨?_, ?_, ?_, ha, hn⟩ <;>
        simp_all [Flow.keyringAsked, Life.opened]

theorem Sane.keyringClosed (h : Sane c f) (hk : f.keyring.isSome) (r : Session.Result) :
    Sane c (f.keyringClosed r) := by
  have hs := h.keyring hk
  have hp := h.polkit
  rw [hs] at hp
  refine ⟨?_, ?_, ?_, h.asked, h.named⟩ <;>
    simp_all [Flow.keyringClosed]

theorem Sane.keyringLeft (h : Sane c f) (socket : Socket) : Sane c (f.keyringLeft socket) := by
  unfold Flow.keyringLeft
  split
  next hk =>
    obtain ⟨r, hr, -⟩ := Option.map_eq_some_iff.1 hk
    exact h.keyringClosed (by simp [hr]) _
  · exact h

theorem Sane.pinentryAsked (h : Sane c f) {request : PinentryRequest} (hc : c ≠ "") :
    Sane c (f.pinentryAsked request) := by
  obtain ⟨hk, hp, ho, ha, hn⟩ := h
  cases hs : f.life.source with
  | none => refine ⟨?_, ?_, ?_, ?_, fun _ => hc⟩ <;> simp_all [Flow.pinentryAsked, Life.opened]
  | some source =>
      refine ⟨?_, ?_, ?_, ?_, fun _ => hc⟩ <;> simp_all [Flow.pinentryAsked, Life.opened]

theorem Sane.pinentryAnswered (h : Sane c f) (request : PinentryRequest) (timer : ℕ) :
    Sane c (f.pinentryAnswered request timer) :=
  ⟨h.keyring, h.polkit, h.owned, fun _ hr => (nomatch hr), h.named⟩

theorem Sane.pinentryRetried (h : Sane c f) : Sane c f.pinentryRetried :=
  ⟨h.keyring, h.polkit, h.owned, fun r hr => ⟨rfl, (h.asked r hr).2⟩, h.named⟩

theorem Sane.pinentryClosed (h : Sane c f) (r : Session.Result) : Sane c (f.pinentryClosed r) := by
  obtain ⟨hk, hp, ho, ha, hn⟩ := h
  by_cases hs : f.life.source = some .pinentry
  · refine ⟨?_, ?_, ?_, fun _ hr => (nomatch hr), fun hf => (nomatch hf)⟩ <;>
      simp_all [Flow.pinentryClosed]
  · refine ⟨?_, ?_, ?_, fun _ hr => (nomatch hr), fun hf => (nomatch hf)⟩ <;>
      simp_all [Flow.pinentryClosed]

theorem Sane.pinentryLeft (h : Sane c f) (socket : Socket) : Sane c (f.pinentryLeft socket) := by
  unfold Flow.pinentryLeft
  split
  · exact h.pinentryClosed _
  · exact h

theorem Sane.polkitAsked (h : Sane c f) (hs : f.life.source = none) : Sane c f.polkitAsked := by
  obtain ⟨hk, hp, ho, ha, hn⟩ := h
  refine ⟨?_, ?_, ?_, ha, hn⟩ <;> simp_all [Flow.polkitAsked, Life.opened]

theorem Sane.polkitClosed (h : Sane c f) (hp : f.polkit = true) (r : Session.Result) :
    Sane c (f.polkitClosed r) := by
  have hs := h.polkit.1 hp
  refine ⟨fun hk => ?_, ?_, ?_, h.asked, h.named⟩
  · rw [h.keyring hk] at hs
    cases hs
  · simp [Flow.polkitClosed]
  · simp [Flow.polkitClosed]

end Flow

namespace Daemon

variable (W : World) (d : Daemon) (c : String)

/-- The flow of the id `c`. -/
def flow : Flow where
  life := d.agent.life c
  keyring := d.keyringManager.pendingRequests.lookup c
  pending := d.pinentryManager.pendingRequests.lookup c
  awaiting := d.pinentryManager.awaitingOutcome.lookup c
  owner := d.pinentryManager.flowOwners.lookup c
  polkit := d.listener.cookieToState.contains c

/-- The result a pinentry reports, in lower case. -/
def reportedResult (msg : QJsonObject) : String := Text.toLower (msg.value "result").toString

/-- The request a `pinentry_request` makes. -/
def pinentryRequestOf (socket : Socket) (msg : QJsonObject) : PinentryRequest :=
  PinentryManager.readRequest W d.agent msg socket (d.agent.getPeerPid socket)

/-- **What one input can do to the flow of `c`.** -/
inductive FlowStep (i : Input) : Flow → Prop
  | stay : FlowStep i (d.flow c)
  | keyringRequest (socket : Socket) (msg : QJsonObject)
      (hm : d.message? i = some (.keyringRequest, socket, msg))
      (hc : KeyringManager.requestCookie W d.agent msg = c) :
      FlowStep i ((d.flow c).keyringAsked
        (KeyringManager.readRequest c msg socket (d.agent.getPeerPid socket)))
  | keyringEnd (r : Session.Result) (hk : (d.flow c).keyring.isSome) :
      FlowStep i ((d.flow c).keyringClosed r)
  | pinentryRequest (socket : Socket) (msg : QJsonObject)
      (hm : d.message? i = some (.pinentryRequest, socket, msg))
      (hc : (d.pinentryRequestOf W socket msg).cookie = c)
      (ho : ∀ owner, (d.flow c).owner = some owner → owner = d.agent.getPeerPid socket) :
      FlowStep i ((d.flow c).pinentryAsked (d.pinentryRequestOf W socket msg))
  | pinentryAnswer (socket : Socket) (msg : QJsonObject)
      (hm : d.message? i = some (.sessionRespond, socket, msg))
      (ha : d.agent.isAuthorizedProviderSocket socket = true) (hc : messageId msg = c)
      (hk : (d.flow c).keyring = none) (request : PinentryRequest)
      (hp : (d.flow c).pending = some request) :
      FlowStep i ((d.flow c).pinentryAnswered request d.pinentryManager.nextTimer)
  | pinentryResult (socket : Socket) (msg : QJsonObject)
      (hm : d.message? i = some (.pinentryResult, socket, msg)) (hc : messageId msg = c)
      (ho : ∀ owner, (d.flow c).owner = some owner → owner = d.agent.getPeerPid socket)
      (hs : (d.flow c).life.source = some .pinentry) (r : Session.Result)
      (hr : r = .success → reportedResult msg = "success") :
      FlowStep i ((d.flow c).pinentryClosed r)
  | pinentryRetry (socket : Socket) (msg : QJsonObject)
      (hm : d.message? i = some (.pinentryResult, socket, msg)) (hc : messageId msg = c)
      (ho : ∀ owner, (d.flow c).owner = some owner → owner = d.agent.getPeerPid socket)
      (hs : (d.flow c).life.source = some .pinentry) (hr : reportedResult msg = "retry") :
      FlowStep i (d.flow c).pinentryRetried
  | pinentryEnd (r : Session.Result) (hr : r ≠ .success) : FlowStep i ((d.flow c).pinentryClosed r)
  | disconnected (socket : Socket) (hi : i = .disconnected socket) :
      FlowStep i (((d.flow c).keyringLeft socket).pinentryLeft socket)
  | polkitRequest (hs : (d.flow c).life.source = none) : FlowStep i (d.flow c).polkitAsked
  | polkitEnd (r : Session.Result) (hp : (d.flow c).polkit = true)
      (hr : ∃ call, d.listenerCall? i = some call ∧ d.listener.Reported c call r) :
      FlowStep i ((d.flow c).polkitClosed r)

end Daemon

end BbAuth
