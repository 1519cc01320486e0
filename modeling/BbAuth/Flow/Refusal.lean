import BbAuth.Flow.Owner
/-!
# What a refused request leaves behind

Each front end puts a request into its own table before it asks for the
session, and rolls back when it is refused. The rollback restores the
table where the name was free, which the listener and the pinentry
manager make sure of. The keyring manager does not: a second request under
a pending cookie replaces the first, and its rollback removes both.
-/

namespace BbAuth

open Agent

theorem KeyringManager.ext {km km' : KeyringManager}
    (h : km.pendingRequests = km'.pendingRequests) : km = km' := by
  cases km
  cases km'
  congr

/-- **The rollback of a keyring request** restores the manager exactly
where its cookie was free. -/
theorem KeyringManager.drop_put_eq_iff (km : KeyringManager) (request : KeyringRequest) :
    (km.put request).drop request.cookie = km ↔ request.cookie ∉ km.pendingRequests := by
  constructor
  · intro h hm
    rw [← h] at hm
    simp [drop] at hm
  · exact fun h => ext (Table.erase_insert_of_notMem h)

namespace Daemon

variable (W : World) {d : Daemon} {i : Input}

/-- **The sessions and all pending requests are as they were.** -/
structure Restores (d d' : Daemon) : Prop where
  sessionStore : d'.agent.sessionStore = d.agent.sessionStore
  keyringManager : d'.keyringManager = d.keyringManager
  pinentryManager : d'.pinentryManager = d.pinentryManager
  states : d'.listener.states = d.listener.states
  cookieToState : d'.listener.cookieToState = d.listener.cookieToState
  sessionToState : d'.listener.sessionToState = d.listener.sessionToState

/-- **A request the daemon refuses**: a keyring request whose id a session
has, a pinentry request for a flow of another owner, a polkit request the
listener refuses. -/
inductive Refused (d : Daemon) : Input → Prop
  | keyring {i : Input} {socket : Socket} {msg : QJsonObject} {session : Session}
      (hm : d.message? i = some (.keyringRequest, socket, msg))
      (hs : d.agent.getSession (KeyringManager.requestCookie W d.agent msg) = some session) :
      Refused d i
  | pinentry {i : Input} {socket : Socket} {msg : QJsonObject} {owner : Pid}
      (hm : d.message? i = some (.pinentryRequest, socket, msg))
      (ho : d.pinentryManager.flowOwners.lookup (d.pinentryRequestOf W socket msg).cookie =
        some owner)
      (hne : owner ≠ d.agent.getPeerPid socket) : Refused d i
  | polkit {actionId message iconName : String} {details : Agent.Details} {cookie : String}
      {identities : List String} (hs : d.listener.useAfterFree = false)
      (hr : PolkitListener.Refuses d.listener d.agent cookie identities) :
      Refused d (.initiateAuthentication actionId message iconName details cookie identities)

/-- **A keyring request under a cookie that is pending already.** -/
def KeyringClash (d : Daemon) (i : Input) : Prop :=
  ∃ socket msg, d.message? i = some (.keyringRequest, socket, msg) ∧
    KeyringManager.requestCookie W d.agent msg ∈ d.keyringManager.pendingRequests

variable {W}

/-- No other message is a keyring request. -/
theorem not_keyringClash {type : MessageType} {socket : Socket} {msg : QJsonObject}
    (hm : d.message? i = some (type, socket, msg)) (ht : type ≠ .keyringRequest) :
    ¬ KeyringClash W d i := by
  rintro ⟨socket', msg', hm', -⟩
  rw [hm] at hm'
  exact ht (Prod.mk.inj (Option.some.inj hm')).1

theorem restores_keyringRequest_iff {socket : Socket} {msg : QJsonObject} {session : Session}
    (hm : d.message? i = some (.keyringRequest, socket, msg))
    (hs : d.agent.getSession (KeyringManager.requestCookie W d.agent msg) = some session) :
    Restores d (d.step W i) ↔ ¬ KeyringClash W d i := by
  set cookie := KeyringManager.requestCookie W d.agent msg with hcookie
  set request := KeyringManager.readRequest cookie msg socket (d.agent.getPeerPid socket)
  have hstep : d.step W i = d.withKeyring ((d.keyringManager.put request).drop cookie,
      d.agent.ticked.writeJson socket collisionError) := by
    have hs' : d.agent.ticked.getSession cookie = some session := hs
    rw [step_of_message hm]
    simp only [dispatch, handleKeyringRequest, KeyringManager.handleRequest, ← hcookie,
      createSession_of_some W d.agent.ticked cookie hs']
    rfl
  have hclash : KeyringClash W d i ↔ cookie ∈ d.keyringManager.pendingRequests := by
    constructor
    · rintro ⟨socket', msg', hm', hmem⟩
      rw [hm] at hm'
      have hmsg : msg = msg' := (Prod.mk.inj (Prod.mk.inj (Option.some.inj hm')).2).2
      rw [hcookie, hmsg]
      exact hmem
    · exact fun hmem => ⟨socket, msg, hm, hmem⟩
  rw [hclash, hstep]
  have hkm := d.keyringManager.drop_put_eq_iff request
  constructor
  · exact fun h => hkm.1 h.keyringManager
  · intro h
    exact ⟨(quiet_writeJson d.agent.ticked socket collisionError).sessionStore, hkm.2 h,
      rfl, rfl, rfl, rfl⟩

theorem restores_pinentryRequest {socket : Socket} {msg : QJsonObject} {owner : Pid}
    (hm : d.message? i = some (.pinentryRequest, socket, msg))
    (ho : d.pinentryManager.flowOwners.lookup (d.pinentryRequestOf W socket msg).cookie =
      some owner) (hne : owner ≠ d.agent.getPeerPid socket) : Restores d (d.step W i) := by
  set a : Agent := if (msg.value "cookie").toString = "" then d.agent.ticked else d.agent with ha
  have hstore : a.sessionStore = d.agent.sessionStore := by
    rw [ha]
    split <;> rfl
  have hstep : d.step W i = d.withPinentry (d.pinentryManager, a) := by
    unfold pinentryRequestOf at ho
    rw [step_of_message hm]
    simp only [dispatch, handlePinentryRequest, PinentryManager.handleRequest]
    rw [if_pos (by simp [Table.contains, ho, hne])]
    rfl
  rw [hstep]
  exact ⟨hstore, rfl, rfl, rfl, rfl, rfl⟩

theorem restores_initiateAuthentication {actionId message iconName : String}
    {details : Agent.Details} {cookie : String} {identities : List String}
    (w : d.listener.Healthy) (hr : PolkitListener.Refuses d.listener d.agent cookie identities) :
    Restores d (d.step W
      (.initiateAuthentication actionId message iconName details cookie identities)) := by
  obtain ⟨text, states, sessions, a, -, -, ha, heq⟩ :=
    PolkitListener.initiateAuthentication_of_refuses W d.agent actionId message iconName details
      cookie identities w.linked hr
  have hstep : d.step W (.initiateAuthentication actionId message iconName details cookie
      identities) = d.withListener (d.listener.refused text states sessions, a) := by
    simp [step, w.safe, handle, heq]
  have hstore : a.sessionStore = d.agent.sessionStore := by rcases ha with rfl | rfl <;> rfl
  rw [hstep]
  exact ⟨hstore, rfl, rfl, rfl, rfl, rfl⟩

variable (W)

/-- **A refused request leaves everything as it was, exactly when it is no
keyring request under a pending cookie.** -/
theorem restores_iff_not_keyringClash (ins : List Input) (i : Input)
    (hr : Refused W ((machine W).run ins) i) :
    Restores ((machine W).run ins) ((machine W).run (ins ++ [i])) ↔
      ¬ KeyringClash W ((machine W).run ins) i := by
  have hheap := heaped_run W ins
  rw [Machine.run_snoc]
  change Restores _ (Daemon.step W _ i) ↔ _
  generalize (machine W).run ins = d at hr hheap ⊢
  cases hr with
  | keyring hm hs => exact restores_keyringRequest_iff hm hs
  | pinentry hm ho hne =>
      exact iff_of_true (restores_pinentryRequest hm ho hne) (not_keyringClash hm (by decide))
  | polkit hs hr =>
      refine iff_of_true (restores_initiateAuthentication (hheap hs).1 hr) ?_
      rintro ⟨socket, msg, hm, -⟩
      cases hm

/-- A keyring request is pending and a pinentry session open. A keyring
request under the name of the latter is refused, and leaves both as they
were. -/
theorem restores_pinentrySession :
    let M := machine (World.plain (fun _ => 0) false)
    let ins : List Input := [.newConnection 1 100,
      .line 1 (some [("type", "keyring_request"), ("cookie", "d")]),
      .line 1 (some [("type", "pinentry_request"), ("cookie", "c")])]
    let ask : Input := .line 1 (some [("type", "keyring_request"), ("cookie", "c")])
    Refused (World.plain (fun _ => 0) false) (M.run ins) ask ∧
      Restores (M.run ins) (M.run (ins ++ [ask])) := by
  intro M ins ask
  let msg : QJsonObject := [("type", "keyring_request"), ("cookie", "c")]
  have hm : (M.run ins).message? ask = some (MessageType.keyringRequest, 1, msg) := by decide
  have hs : ((M.run ins).agent.getSession "c").isSome = true := by decide
  obtain ⟨session, hs⟩ := Option.isSome_iff_exists.1 hs
  have hr : Refused (World.plain (fun _ => 0) false) (M.run ins) ask := .keyring hm hs
  refine ⟨hr, (restores_iff_not_keyringClash (World.plain (fun _ => 0) false) ins ask hr).2 ?_⟩
  rintro ⟨socket, msg', hm', hpending⟩
  rw [hm] at hm'
  cases hm'
  revert hpending
  decide

/-- The same keyring request twice: the second is refused, and takes the
first out of the table. -/
theorem refused_keyringRequest_not_restores :
    ¬ ∀ (W : World) (ins : List Input) (i : Input), Refused W ((machine W).run ins) i →
      Restores ((machine W).run ins) ((machine W).run (ins ++ [i])) := by
  intro h
  let W := World.plain (fun _ => 0) false
  let ask : QJsonObject := [("type", "keyring_request"), ("cookie", "c")]
  let ins : List Input := [.newConnection 1 100, .line 1 (some ask)]
  have hs : (((machine W).run ins).agent.getSession "c").isSome = true := by decide
  obtain ⟨session, hs⟩ := Option.isSome_iff_exists.1 hs
  have hm : ((machine W).run ins).message? (.line 1 (some ask)) =
      some (MessageType.keyringRequest, 1, ask) := by decide
  have hkm := (h W ins (.line 1 (some ask)) (.keyring hm hs)).keyringManager
  have := congrArg (fun km => (km.pendingRequests.lookup "c").isSome) hkm
  revert this
  decide

end Daemon

end BbAuth
