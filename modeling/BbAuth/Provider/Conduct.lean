import BbAuth.Provider.Belief
import Mathlib.Logic.Relation
/-!
# What the client does while its connection lasts

All that a client does of a message, of a timer or for the user comes down
to five deeds: it changes a field that nobody sees, it sends a message, it
signals a change of its belief, a status or a session. This file takes its
handlers apart into deeds once; what holds of every deed holds of every
handler.
-/

namespace BbAuth

namespace FallbackClient

/-- The signal tells of a session. -/
def Output.TellsOfSession : Output → Prop
  | .sessionCreated _ | .sessionUpdated _ | .sessionClosed _ => True
  | _ => False

/-- **One deed.** What is sent meets `P`; a registered client tells of a
session only while it believes itself active, and stays registered. -/
inductive Deed (P : QJsonObject → Prop) (c : FallbackClient) : FallbackClient → Prop
  | edit {c' : FallbackClient} (hl : c'.log = c.log) (ha : c'.providerActive = c.providerActive)
      (hc : c'.connected = c.connected) (hr : c.registered = true → c'.registered = true) :
      Deed P c c'
  | sent {j : QJsonObject} (hj : P j) : Deed P c (c.sendJson j)
  | switched (active : Bool) :
      Deed P c ({ c with providerActive := active }.emit (.providerStateChanged active))
  | status (text : String) : Deed P c (c.emit (.statusMessage text))
  | told {o : Output} (ho : o.TellsOfSession) (h : c.registered = true → c.providerActive = true) :
      Deed P c (c.emit o)

/-- Several deeds, one after the other. -/
abbrev Deeds (P : QJsonObject → Prop) : FallbackClient → FallbackClient → Prop :=
  Relation.ReflTransGen (Deed P)

variable {P Q : QJsonObject → Prop} {c c' : FallbackClient} {j : QJsonObject}

theorem deeds_sendJson (c : FallbackClient) (hj : P j) : Deeds P c (c.sendJson j) :=
  .single (.sent hj)

theorem Deed.mono (h : Deed P c c') (hPQ : ∀ j, P j → Q j) : Deed Q c c' := by
  cases h with
  | edit hl ha hc hr => exact .edit hl ha hc hr
  | sent hj => exact .sent (hPQ _ hj)
  | switched active => exact .switched active
  | status text => exact .status text
  | told ho h => exact .told ho h

theorem Deeds.mono (h : Deeds P c c') (hPQ : ∀ j, P j → Q j) : Deeds Q c c' := by
  induction h with
  | refl => exact .refl
  | tail _ hdeed ih => exact ih.tail (hdeed.mono hPQ)

/-! ## What no deed changes -/

theorem Deed.registered (h : Deed P c c') (hr : c.registered = true) : c'.registered = true := by
  cases h with
  | edit hl ha hc hr' => exact hr' hr
  | sent hj => rwa [sendJson_eq]
  | switched active => exact hr
  | status text => exact hr
  | told ho h => exact hr

/-- **Nothing that the client does ends its registration.** -/
theorem Deeds.registered (h : Deeds P c c') (hr : c.registered = true) : c'.registered = true := by
  induction h with
  | refl => exact hr
  | tail _ hdeed ih => exact hdeed.registered ih

theorem Deed.connected (h : Deed P c c') : c'.connected = c.connected := by
  cases h with
  | edit hl ha hc hr => exact hc
  | sent hj => rw [sendJson_eq]
  | switched active => rfl
  | status text => rfl
  | told ho h => rfl

theorem Deeds.connected (h : Deeds P c c') : c'.connected = c.connected := by
  induction h with
  | refl => rfl
  | tail _ hdeed ih => exact hdeed.connected.trans ih

/-! ## Reading

The client asks for the open sessions when it becomes active, and sends
nothing else of a message. -/

theorem deeds_setProviderActive (c : FallbackClient) (active : Bool) :
    Deeds (· = subscribeMessage) c (c.setProviderActive active) := by
  unfold setProviderActive
  dsimp only
  split
  · exact .refl
  · split
    · exact .tail (.single (.switched active)) (.sent rfl)
    · exact .single (.switched active)

theorem deeds_clearPending (c : FallbackClient) : Deeds P c c.clearPending :=
  .single (.edit rfl rfl rfl id)

theorem deeds_applyPendingProviderState (c : FallbackClient) :
    Deeds (· = subscribeMessage) c c.applyPendingProviderState := by
  unfold applyPendingProviderState
  dsimp only
  split
  · exact .refl
  · exact (deeds_setProviderActive c _).trans (deeds_clearPending _)

theorem deeds_handleSubscribed (c : FallbackClient) (msg : QJsonObject) :
    Deeds (· = subscribeMessage) c (c.handleSubscribed msg) := by
  have h : Deeds (· = subscribeMessage) c { c with subscribed := true } :=
    .single (.edit rfl rfl rfl id)
  unfold handleSubscribed
  dsimp only
  split
  · exact h.trans (deeds_setProviderActive _ _)
  · exact h

/-- The client that has been told its id. -/
def named (c : FallbackClient) (id : String) : FallbackClient :=
  { c with registered := true, providerId := id }

/-- What follows the registration is done by a registered client. -/
theorem deeds_named_handleRegistered (c : FallbackClient) (msg : QJsonObject) :
    Deeds (· = subscribeMessage) (c.named (msg.value "id").toString) (c.handleRegistered msg) := by
  unfold handleRegistered
  dsimp only
  split
  · exact (deeds_setProviderActive _ _).trans (deeds_clearPending _)
  · exact deeds_applyPendingProviderState _

theorem deeds_handleRegistered (c : FallbackClient) (msg : QJsonObject) :
    Deeds (· = subscribeMessage) c (c.handleRegistered msg) := by
  have h : Deed (· = subscribeMessage) c (c.named (msg.value "id").toString) :=
    .edit rfl rfl rfl fun _ => rfl
  exact .head h (deeds_named_handleRegistered c msg)

theorem deeds_handleActive (c : FallbackClient) (msg : QJsonObject) :
    Deeds (· = subscribeMessage) c (c.handleActive msg) := by
  unfold handleActive
  dsimp only
  split
  · exact .single (.edit rfl rfl rfl id)
  split
  · split
    · exact .single (.edit rfl rfl rfl id)
    · exact (deeds_setProviderActive c _).trans (deeds_clearPending _)
  · exact deeds_setProviderActive c _

/-- **A refusal is shown, and nothing else comes of it** but that the client
may no longer believe itself active. -/
theorem deeds_handleError (c : FallbackClient) (msg : QJsonObject) :
    Deeds (· = subscribeMessage) c (c.handleError msg) := by
  unfold handleError
  dsimp only
  split
  · exact (deeds_setProviderActive c _).tail (.status _)
  · exact .single (.status _)

/-- **A session is told** while the client believes itself active, or is
not registered. -/
theorem deeds_handleSessionEvent (c : FallbackClient) (type : String) (msg : QJsonObject) :
    Deeds (· = subscribeMessage) c (c.handleSessionEvent type msg) := by
  unfold handleSessionEvent
  split
  · exact .refl
  next h =>
    have hactive : c.registered = true → c.providerActive = true := fun hr => by
      simpa [hr] using h
    split
    · exact .single (.told trivial hactive)
    split
    · exact .single (.told trivial hactive)
    split
    · exact .single (.told trivial hactive)
    · exact .refl

theorem deeds_handleMessage (c : FallbackClient) (msg : QJsonObject) :
    Deeds (· = subscribeMessage) c (c.handleMessage msg) := by
  unfold handleMessage
  dsimp only
  split
  · exact deeds_handleSubscribed c msg
  split
  · exact deeds_handleRegistered c msg
  split
  · exact deeds_handleActive c msg
  split
  · exact .refl
  split
  · exact .refl
  split
  · exact deeds_handleError c msg
  · exact deeds_handleSessionEvent c _ msg

/-! ## The timers -/

/-- **The watchdog registers a client that is not registered**, and asks
for the sessions. -/
theorem deeds_onSubscribeWatchdog (c : FallbackClient) (hs : P subscribeMessage)
    (hr : c.registered = false → P registerMessage) : Deeds P c c.onSubscribeWatchdog := by
  have hsubscribe : ∀ c' : FallbackClient,
      Deeds P c' (if !c'.subscribed then c'.subscribe else c') := by
    intro c'
    split
    · exact deeds_sendJson c' hs
    · exact .refl
  unfold onSubscribeWatchdog
  dsimp only
  split
  · exact .refl
  · refine Relation.ReflTransGen.trans ?_ (hsubscribe _)
    split
    next hreg => exact deeds_sendJson c (hr (by simpa using hreg))
    · exact .refl

/-- **A heartbeat is sent by a registered client.** -/
theorem deeds_onHeartbeatTimer (c : FallbackClient)
    (hh : c.registered = true → P [("type", "ui.heartbeat"), ("id", c.providerId)]) :
    Deeds P c c.onHeartbeatTimer := by
  unfold onHeartbeatTimer
  split
  · exact .refl
  next h =>
    simp only [Bool.or_eq_true, not_or, Bool.not_eq_true', Bool.not_eq_false] at h
    exact deeds_sendJson c (hh h.2)

end FallbackClient

end BbAuth
