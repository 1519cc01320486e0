import BbAuth.Model.FallbackUi
import BbAuth.Provider.Conduct
/-!
# What the client signals

The window knows of the client what its signals say. They come in an order
that can be relied on (`Says`): a session is only told while the client
believes itself active, a change of that belief is signalled at once, and
the loss of the connection is signalled after the belief is given up. What
this rests on is that the client is registered when it reads of a session.
-/

namespace BbAuth

namespace FallbackClient

/-- What the client sends, and the signals that tell of neither a session
nor a loss. -/
def Output.Aside : Output → Prop
  | .sent _ | .statusMessage _ => True
  | .connectionStateChanged connected => connected = true
  | _ => False

/-- **One output**, with whether the client believes itself active before
it and after. -/
inductive Says : Bool → Output → Bool → Prop
  | aside {active : Bool} {o : Output} (h : o.Aside) : Says active o active
  | switched {active active' : Bool} : Says active (.providerStateChanged active') active'
  | session {o : Output} (h : o.TellsOfSession) : Says true o true
  | lost : Says false (.connectionStateChanged false) false

/-- Several outputs, one after the other. -/
inductive SaysAll : Bool → List Output → Bool → Prop
  | nil {active : Bool} : SaysAll active [] active
  | cons {active active' active'' : Bool} {o : Output} {os : List Output}
      (ho : Says active o active') (hos : SaysAll active' os active'') :
      SaysAll active (o :: os) active''

theorem SaysAll.append {a b e : Bool} {os os' : List Output} (h : SaysAll a os b)
    (h' : SaysAll b os' e) : SaysAll a (os ++ os') e := by
  induction h with
  | nil => exact h'
  | cons ho _ ih => exact .cons ho (ih h')

/-- **What the client puts out from the one state to the other is in
order.** -/
def Signals (c c' : FallbackClient) : Prop :=
  ∃ os, c'.log = c.log ++ os ∧ SaysAll c.providerActive os c'.providerActive

variable {P : QJsonObject → Prop} {c c' c'' : FallbackClient}

theorem signals_of_eq (hl : c'.log = c.log) (ha : c'.providerActive = c.providerActive) :
    Signals c c' :=
  ⟨[], by rw [hl, List.append_nil], ha ▸ .nil⟩

theorem Signals.refl (c : FallbackClient) : Signals c c := signals_of_eq rfl rfl

theorem Signals.trans (h : Signals c c') (h' : Signals c' c'') : Signals c c'' := by
  obtain ⟨os, hos, hs⟩ := h
  obtain ⟨os', hos', hs'⟩ := h'
  exact ⟨os ++ os', by rw [hos', hos, List.append_assoc], hs.append hs'⟩

theorem signals_emit {o : Output} (h : Says c.providerActive o c.providerActive) :
    Signals c (c.emit o) :=
  ⟨[o], rfl, .cons h .nil⟩

theorem signals_sendJson (c : FallbackClient) (j : QJsonObject) : Signals c (c.sendJson j) := by
  unfold sendJson
  split
  · exact .refl c
  · exact signals_emit (.aside trivial)

/-- Whatever it believed, it now believes what it was told. -/
theorem providerActive_setProviderActive (c : FallbackClient) (active : Bool) :
    (c.setProviderActive active).providerActive = active := by
  unfold setProviderActive
  dsimp only
  split
  next h => exact (not_not.1 h).symm
  · split
    · rw [subscribe, sendJson_eq]
      rfl
    · rfl

/-- **A change of the belief is signalled.** -/
theorem signals_setProviderActive (c : FallbackClient) (active : Bool) :
    Signals c (c.setProviderActive active) := by
  unfold setProviderActive
  dsimp only
  split
  · exact .refl c
  · have he : Signals c
        ({ c with providerActive := active }.emit (.providerStateChanged active)) :=
      ⟨[.providerStateChanged active], rfl, .cons .switched .nil⟩
    split
    · exact he.trans (signals_sendJson _ _)
    · exact he

/-- **What a registered client does is signalled in order.** -/
theorem Deed.signals (h : Deed P c c') (hr : c.registered = true) : Signals c c' := by
  cases h with
  | edit hl ha hc hr' => exact signals_of_eq hl ha
  | sent hj => exact signals_sendJson c _
  | switched active => exact ⟨[.providerStateChanged active], rfl, .cons .switched .nil⟩
  | status text => exact signals_emit (.aside trivial)
  | told ho hactive =>
      refine signals_emit ?_
      rw [hactive hr]
      exact .session ho

theorem Deeds.signals (h : Deeds P c c') (hr : c.registered = true) : Signals c c' := by
  induction h with
  | refl => exact .refl c
  | tail hbefore hdeed ih => exact ih.trans (hdeed.signals (Deeds.registered hbefore hr))

/-! ## The socket and the timers -/

theorem signals_resetConnection (c : FallbackClient) : Signals c c.resetConnection :=
  (signals_of_eq rfl rfl).trans (signals_setProviderActive _ false)

theorem providerActive_resetConnection (c : FallbackClient) :
    c.resetConnection.providerActive = false :=
  providerActive_setProviderActive _ false

theorem signals_onConnected (c : FallbackClient) : Signals c c.onConnected := by
  let c₁ := { c with connected := true }.resetConnection
  have hreset : Signals c c₁ :=
    (signals_of_eq rfl rfl : Signals c { c with connected := true }).trans
      (signals_resetConnection _)
  have hup : Says c₁.providerActive (.connectionStateChanged true) c₁.providerActive :=
    .aside rfl
  refine (hreset.trans ?_).trans ((signals_sendJson _ _).trans (signals_sendJson _ _))
  exact (signals_emit hup).trans (signals_emit (.aside trivial))

/-- **When the connection is lost** the client believes itself inactive. -/
theorem signals_onDisconnected (c : FallbackClient) : Signals c c.onDisconnected := by
  have hreset : Signals c { c with connected := false }.resetConnection :=
    (signals_of_eq rfl rfl : Signals c { c with connected := false }).trans
      (signals_resetConnection _)
  refine hreset.trans (Signals.trans (signals_emit ?_) (signals_emit (.aside trivial)))
  rw [providerActive_resetConnection]
  exact .lost

theorem connected_onDisconnected (c : FallbackClient) : c.onDisconnected.connected = false :=
  (deeds_setProviderActive _ false).connected

theorem signals_onSubscribeWatchdog (c : FallbackClient) : Signals c c.onSubscribeWatchdog := by
  unfold onSubscribeWatchdog
  dsimp only
  split
  · exact .refl c
  · have hsubscribe : ∀ c' : FallbackClient,
        Signals c' (if !c'.subscribed then c'.subscribe else c') := by
      intro c'
      split
      · exact signals_sendJson c' _
      · exact .refl c'
    refine Signals.trans ?_ (hsubscribe _)
    split
    · exact signals_sendJson c _
    · exact .refl c

theorem signals_onHeartbeatTimer (c : FallbackClient) : Signals c c.onHeartbeatTimer := by
  unfold onHeartbeatTimer
  split
  · exact .refl c
  · exact signals_sendJson c _

/-! ## Messages -/

/-- **What comes of a message is in order**, where a client that is not
registered reads of its registration first. -/
theorem signals_handleMessage (c : FallbackClient) (msg : QJsonObject)
    (h : c.registered = true ∨ (msg.value "type").toString = "ui.registered") :
    Signals c (c.handleMessage msg) ∧ (c.handleMessage msg).registered = true := by
  rcases h with h | h
  · have hdeeds := deeds_handleMessage c msg
    exact ⟨hdeeds.signals h, hdeeds.registered h⟩
  · have hread : c.handleMessage msg = c.handleRegistered msg := by simp [handleMessage, h]
    have hdeeds := deeds_named_handleRegistered c msg
    rw [hread]
    exact ⟨(signals_of_eq rfl rfl).trans (hdeeds.signals rfl), hdeeds.registered rfl⟩

end FallbackClient

end BbAuth
