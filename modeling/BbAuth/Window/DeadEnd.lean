import BbAuth.Window.Dismissals
import BbAuth.Window.Signals
/-!
# No busy dead end

A busy window takes no answer, so something must be due that ends it. Where
an action is pending its timer is armed; where the session was closed with
success its dismissal is scheduled (`Awake`). The loss of the connection
makes the window busy with neither, and does no harm: the client gives up
its part first, and with it the window its session. That the client has a
part to give up while a session is displayed is an invariant of the two
together (`Sound`).
-/

namespace BbAuth

namespace FallbackWindow

variable {build : QJsonObject → PromptDisplayModel} {w w' : FallbackWindow} {i : Input}

/-! ## The window alone -/

/-- **A busy window is waiting for something**: for the timer of a pending
action, or for the dismissal of its session. -/
structure Awake (w : FallbackWindow) : Prop where
  pending : w.pendingAction ≠ .none → w.currentSessionId ≠ "" ∧ w.actionTimeoutTimer = true
  busy : w.currentSessionId ≠ "" → w.busy = true →
    w.pendingAction ≠ .none ∨ ∃ d ∈ w.dismissals, d.session = w.currentSessionId

theorem Alike.awake (ha : Alike w w') (h : Awake w) : Awake w' := by
  constructor
  · rw [ha.pendingAction, ha.currentSessionId, ha.actionTimeoutTimer]
    exact h.pending
  · rw [ha.currentSessionId, ha.busy, ha.pendingAction, ha.dismissals]
    exact h.busy

/-- A window that is not busy waits for nothing. -/
theorem Awake.of_idle (hp : w.pendingAction = .none) (hb : w.busy = false) : Awake w :=
  ⟨fun h => absurd hp h, fun _ h => absurd (hb.symm.trans h) (by decide)⟩

theorem awake_clearSession (w : FallbackWindow) : Awake w.clearSession := .of_idle rfl rfl

/-- The dismissals of other timers stay. -/
theorem Timed.mem_filter {d e : Dismissal} {timer : ℕ} (h : Timed w) (hd : d ∈ w.dismissals)
    (he : w.dismissals.find? (fun d => d.timer = timer) = some e) (hne : d ≠ e) :
    d ∈ (w.fired timer).dismissals := by
  refine List.mem_filter.2 ⟨hd, decide_eq_true fun ht => hne ?_⟩
  have hfind := h.find? hd
  rw [ht, he, Option.some.injEq] at hfind
  exact hfind.symm

/-- **One step keeps the window waiting for something**, but for the loss of
the connection while a session is displayed. -/
theorem Turn.awake (ht : Turn build w i w') (htimed : Timed w)
    (hlost : i = .signal (.connectionStateChanged false) → w.currentSessionId = "")
    (h : Awake w) : Awake w' := by
  cases ht with
  | alike hi ha => exact ha.awake h
  | edited line hb hl ha => exact ha.awake ⟨h.pending, h.busy⟩
  | submitted hb hs he ha =>
      exact ha.awake ⟨fun _ => ⟨hs, rfl⟩, fun _ _ => .inl PendingAction.noConfusion⟩
  | cancelling hi hs ha =>
      exact ha.awake ⟨fun _ => ⟨hs, rfl⟩, fun _ _ => .inl PendingAction.noConfusion⟩
  | cleared hs hi ha => exact ha.awake (awake_clearSession w)
  | shut hs ha => exact ha.awake (awake_clearSession _)
  | timedOut htimer ha =>
      refine ha.awake ?_
      split
      next hc =>
        have hnone : w.pendingAction = .none := by
          by_contra hp
          exact hc.elim (h.pending hp).1 hp
        exact ⟨fun hp => absurd hnone hp, h.busy⟩
      next hc => exact .of_idle rfl rfl
  | dismissed timer d hd hc ha => exact ha.awake (awake_clearSession _)
  | lapsed timer d hd hc hne heq =>
      subst heq
      refine ⟨h.pending, fun hs hb => (h.busy hs hb).imp_right ?_⟩
      rintro ⟨e, he, hsess⟩
      have hother : e ≠ d := fun hed => hne (hed ▸ hsess.symm)
      exact ⟨e, htimed.mem_filter he hd hother, hsess⟩
  | disconnected ha =>
      exact ha.awake ⟨h.pending, fun hs => absurd (hlost rfl) hs⟩
  | active hs ha => exact ha.awake ⟨h.pending, fun _ hb => Bool.noConfusion hb⟩
  | created event hid ha => exact ha.awake (.of_idle rfl rfl)
  | updated event hs hid ha => exact ha.awake (.of_idle rfl rfl)
  | succeeded event hs hid ha =>
      refine ha.awake ⟨fun hp => absurd rfl hp, fun _ _ => .inr ?_⟩
      exact ⟨_, List.mem_append_right _ (List.mem_singleton_self _), rfl⟩
  | failed event hs hid ha => exact ha.awake (.of_idle rfl rfl)

/-! ## What is due -/

/-- The input is a timer that is running. -/
def Due (w : FallbackWindow) : Input → Prop
  | .actionTimeout => w.actionTimeoutTimer = true
  | .dismissal timer => ∃ d ∈ w.dismissals, d.timer = timer
  | _ => False

/-- The timer of a pending action makes the window usable. -/
theorem busy_onActionTimeout (hs : w.currentSessionId ≠ "") (hp : w.pendingAction ≠ .none)
    (ht : w.actionTimeoutTimer = true) : (w.step build .actionTimeout).busy = false := by
  cases turn_step build w .actionTimeout with
  | alike hi ha => exact absurd (ht.symm.trans hi) (by decide)
  | edited line hb hl ha => cases hl
  | cancelling hi hs ha => obtain ⟨_, hi | hi⟩ := hi <;> cases hi
  | cleared hs hi ha => cases hi
  | timedOut htimer ha =>
      rw [ha.busy, if_neg (not_or.2 ⟨hs, hp⟩)]
      rfl

/-- The dismissal of the displayed session makes the window usable. -/
theorem busy_onDismissal {d : Dismissal} (htimed : Timed w) (hd : d ∈ w.dismissals)
    (hs : d.session = w.currentSessionId) :
    (w.step build (.dismissal d.timer)).busy = false := by
  have hfind := htimed.find? hd
  cases turn_step build w (.dismissal d.timer) with
  | alike hi ha => exact absurd (hfind.symm.trans hi) (by simp)
  | edited line hb hl ha => cases hl
  | cancelling hi hs ha => obtain ⟨_, hi | hi⟩ := hi <;> cases hi
  | cleared hs hi ha => cases hi
  | dismissed timer e he hc ha => exact ha.busy
  | lapsed timer e he hc hne heq =>
      rw [hfind, Option.some.injEq] at he
      exact absurd (he ▸ hs.symm) hne

/-- **A busy window has a timer running that makes it usable.** -/
theorem Awake.due (h : Awake w) (htimed : Timed w) (build : QJsonObject → PromptDisplayModel)
    (hs : w.currentSessionId ≠ "") (hb : w.busy = true) :
    ∃ i, w.Due i ∧ (w.step build i).busy = false := by
  rcases h.busy hs hb with hp | ⟨d, hd, hsess⟩
  · obtain ⟨-, ht⟩ := h.pending hp
    exact ⟨.actionTimeout, ht, busy_onActionTimeout hs hp ht⟩
  · exact ⟨.dismissal d.timer, ⟨d, hd, rfl⟩, busy_onDismissal htimed hd hsess⟩

/-! ## The window under the client's signals -/

/-- The signals of the client, handled in their order. -/
def receive (build : QJsonObject → PromptDisplayModel) (w : FallbackWindow)
    (signals : List FallbackClient.Output) : FallbackWindow :=
  signals.foldl (fun w signal => w.onSignal build signal) w

/-- **The window displays a session only while the client is active**, and
is waiting for something while it is busy. -/
structure Sound (active : Bool) (w : FallbackWindow) : Prop where
  heeds : w.currentSessionId ≠ "" → active = true
  timed : Timed w
  awake : Awake w

variable {active active' : Bool} {o : FallbackClient.Output} {os : List FallbackClient.Output}

/-- A window that is told the provider is inactive displays nothing. -/
theorem current_of_inactive (w : FallbackWindow) :
    (w.onProviderStateChanged false).currentSessionId = "" := by
  unfold onProviderStateChanged
  rw [if_neg (by decide)]
  dsimp only
  split
  · exact (alike_hide w.clearSession).currentSessionId
  next hs => exact (alike_hide w).currentSessionId.trans (not_not.1 hs)

theorem Sound.onSignal (h : Sound active w) (ho : FallbackClient.Says active o active') :
    Sound active' (w.onSignal build o) := by
  have ht := turn_step build w (.signal o)
  have hkept : (∀ event, o ≠ .sessionCreated event) → (w.onSignal build o).currentSessionId ≠ "" →
      w.currentSessionId ≠ "" := by
    intro hne hs
    rcases ht.current with hcur | hcur | ⟨-, event, heq, -⟩
    · exact hcur ▸ hs
    · exact absurd hcur hs
    · exact absurd (Input.signal.inj heq) (hne event)
  refine ⟨fun hs => ?_, ht.timed h.timed, ht.awake h.timed (fun heq => ?_) h.awake⟩
  · cases ho with
    | aside ha =>
        refine h.heeds (hkept (fun event heq => ?_) hs)
        subst heq
        exact ha
    | @switched _ active' =>
        cases active' with
        | true => rfl
        | false => exact absurd (current_of_inactive w) hs
    | session => rfl
    | lost => exact h.heeds (hkept (by simp) hs)
  · -- the client is inactive by then, and the window has cleared its session
    rw [Input.signal.injEq] at heq
    by_contra hs
    have hactive := h.heeds hs
    subst hactive heq
    cases ho with
    | aside ha => exact Bool.noConfusion ha
    | session ha => exact ha

theorem Sound.receive (h : Sound active w) (ho : FallbackClient.SaysAll active os active') :
    Sound active' (w.receive build os) := by
  induction ho generalizing w with
  | nil => exact h
  | cons ho _ ih => exact ih (h.onSignal ho)

end FallbackWindow

open FallbackWindow FallbackClient

namespace FallbackUi

variable (build : QJsonObject → PromptDisplayModel)

/-! ## The two together -/

/-- A connection is made. -/
def Connects (x : FallbackUi) (i : Input) : Prop := i = .connected ∧ x.client.connected = false

/-- The daemon is heard, or lost. -/
def Hears (_ : FallbackUi) : Input → Prop
  | .message _ | .disconnected => True
  | _ => False

/-- **On each connection the registration's reply is the first message.** -/
def FirstRegistered (ins : List Input) : Prop :=
  ∀ pre msg, pre ++ [.message msg] <+: ins → (machine build).Since Connects Hears pre →
    (msg.value "type").toString = "ui.registered"

/-- The input is a timer of the window that is running. -/
def Due (x : FallbackUi) : Input → Prop
  | .actionTimeout => x.window.Due .actionTimeout
  | .dismissal timer => x.window.Due (.dismissal timer)
  | _ => False

/-- **No busy dead end.** While a session is displayed and the window is
busy, an action is pending with its timer armed or a dismissal of the
session is scheduled, and some timer is running that makes it usable. -/
def NoDeadEnd (x : FallbackUi) : Prop :=
  x.window.currentSessionId ≠ "" → x.window.busy = true →
    ((x.window.pendingAction ≠ .none ∧ x.window.actionTimeoutTimer = true) ∨
      ∃ d ∈ x.window.dismissals, d.session = x.window.currentSessionId) ∧
    ∃ i, x.Due i ∧ (x.step build i).window.busy = false

variable {build} {x : FallbackUi} {c' : FallbackClient} {ins : List Input}

/-- The client and the window agree. -/
def Sound (x : FallbackUi) : Prop := FallbackWindow.Sound x.client.providerActive x.window

theorem Sound.withClient (h : x.Sound) (hc : Signals x.client c') :
    (x.withClient build c').Sound := by
  obtain ⟨os, hlog, hos⟩ := hc
  have hwindow : (x.withClient build c').window = x.window.receive build os := by
    simp only [FallbackUi.withClient, FallbackWindow.receive, hlog, List.drop_left]
  rw [Sound, hwindow]
  exact h.receive hos

/-- **What is sent changes the client's trace only.** -/
theorem alike_request (c : FallbackClient) (outputs : List FallbackWindow.Output) :
    FallbackClient.Alike c (outputs.foldl request c) := by
  induction outputs generalizing c with
  | nil => exact .refl c
  | cons o outputs ih =>
      refine FallbackClient.Alike.trans ?_ (ih _)
      cases o with
      | sendResponse id response => exact alike_sendJson c _
      | sendCancel id => exact alike_sendJson c _

variable (build) in
theorem alike_withWindow (x : FallbackUi) (i : FallbackWindow.Input) :
    FallbackClient.Alike x.client (x.withWindow build i).client :=
  alike_request x.client _

/-- What the window does of itself is done in a sound state. -/
theorem Sound.withWindow (h : x.Sound) {i : FallbackWindow.Input}
    (hi : ∀ signal, i ≠ .signal signal) : (x.withWindow build i).Sound := by
  have ht := turn_step build x.window i
  have hactive : (x.withWindow build i).client.providerActive = x.client.providerActive := by
    obtain ⟨l, hl⟩ := alike_withWindow build x i
    rw [hl]
  rw [Sound, hactive]
  refine ⟨fun hs => h.heeds ?_, ht.timed h.timed, ht.awake h.timed (fun heq => ?_) h.awake⟩
  · rcases ht.current with hcur | hcur | ⟨-, event, heq, -⟩
    · exact hcur ▸ hs
    · exact absurd hcur hs
    · exact absurd heq (hi _)
  · exact absurd heq (hi _)

/-! ## The registration comes first -/

variable (build) in
/-- **The connection and the registration change with the socket and the
messages only.** -/
theorem registered_step (x : FallbackUi) {i : Input} (hc : i ≠ .connected)
    (hd : i ≠ .disconnected) (hm : ∀ msg, i ≠ .message msg) :
    (x.step build i).client.connected = x.client.connected ∧
      (x.client.registered = true → (x.step build i).client.registered = true) := by
  have hwindow : ∀ j, (x.withWindow build j).client.connected = x.client.connected ∧
      (x.client.registered = true → (x.withWindow build j).client.registered = true) := by
    intro j
    obtain ⟨l, hl⟩ := alike_withWindow build x j
    rw [hl]
    exact ⟨rfl, id⟩
  cases i with
  | connected => exact absurd rfl hc
  | disconnected => exact absurd rfl hd
  | message msg => exact absurd rfl (hm msg)
  | invalidPayload =>
      simp only [step]
      split
      · exact ⟨rfl, id⟩
      · exact ⟨rfl, id⟩
  | subscribeWatchdog =>
      have h : Deeds (fun _ => True) x.client x.client.onSubscribeWatchdog :=
        deeds_onSubscribeWatchdog x.client trivial fun _ => trivial
      exact ⟨h.connected, h.registered⟩
  | heartbeatTimer =>
      have h : Deeds (fun _ => True) x.client x.client.onHeartbeatTimer :=
        deeds_onHeartbeatTimer x.client fun _ => trivial
      exact ⟨h.connected, h.registered⟩
  | edit e => exact hwindow _
  | undo edits => exact hwindow _
  | redo edits => exact hwindow _
  | toggle => exact hwindow _
  | submit => exact hwindow _
  | cancelButton => exact hwindow _
  | cancelShortcut => exact hwindow _
  | close => exact hwindow _
  | actionTimeout => exact hwindow _
  | dismissal timer => exact hwindow _

theorem FirstRegistered.of_prefix {pre : List Input} (h : FirstRegistered build ins)
    (hp : pre <+: ins) : FirstRegistered build pre :=
  fun l msg hl => h l msg (hl.trans hp)

/-- One more input: a message that is read first on its connection is the
registration's reply. -/
theorem FirstRegistered.snoc {i : Input} (h : FirstRegistered build ins)
    (hi : ∀ msg, i = .message msg → (machine build).Since Connects Hears ins →
      (msg.value "type").toString = "ui.registered") : FirstRegistered build (ins ++ [i]) := by
  intro pre msg hp hs
  rcases List.prefix_concat_iff.1 hp with heq | hlt
  · obtain ⟨rfl, hmsg⟩ := List.append_inj' heq rfl
    exact hi msg (List.singleton_inj.1 hmsg).symm hs
  · exact h pre msg hlt hs

theorem not_hears {i : Input} (hd : i ≠ .disconnected) (hm : ∀ msg, i ≠ .message msg) :
    ¬ Hears x i := by
  unfold Hears
  split
  · exact absurd rfl (hm _)
  · exact absurd rfl hd
  · exact id

/-- **A connected client is registered**, or has heard nothing yet. -/
theorem registered_run (ins : List Input) : FirstRegistered build ins →
    ((machine build).run ins).client.connected = true →
      ((machine build).run ins).client.registered = true ∨
        (machine build).Since Connects Hears ins := by
  refine Machine.history_invariant
    (J := fun ins => FirstRegistered build ins →
      ((machine build).run ins).client.connected = true →
        ((machine build).run ins).client.registered = true ∨
          (machine build).Since Connects Hears ins)
    (fun _ h => Bool.noConfusion h) (fun ins i ih hf => ?_) ins
  have hins := ih (hf.of_prefix (List.prefix_append ins [i]))
  have hrun : (machine build).run (ins ++ [i]) = ((machine build).run ins).step build i :=
    Machine.run_snoc ..
  rw [hrun]
  generalize hx : (machine build).run ins = x at hins
  intro hconn
  by_cases hc : i = .connected
  · subst hc
    cases hup : x.client.connected with
    | false => exact .inr (.new ⟨rfl, hx ▸ hup⟩)
    | true =>
        have hsame : x.step build .connected = x := if_pos hup
        rw [hsame]
        exact (hins hup).imp_right fun h => h.snoc id
  by_cases hd : i = .disconnected
  · subst hd
    cases hup : x.client.connected with
    | false =>
        have hsame : x.step build .disconnected = x := if_neg (by simp [hup])
        rw [hsame, hup] at hconn
        cases hconn
    | true =>
        have hlost : x.step build .disconnected = x.withClient build x.client.onDisconnected :=
          if_pos hup
        rw [hlost] at hconn
        exact absurd (hconn.symm.trans (connected_onDisconnected x.client)) (by decide)
  by_cases hm : ∃ msg, i = .message msg
  · obtain ⟨msg, rfl⟩ := hm
    cases hup : x.client.connected with
    | false =>
        have hsame : x.step build (.message msg) = x := if_neg (by simp [hup])
        rw [hsame, hup] at hconn
        cases hconn
    | true =>
        have hread : x.step build (.message msg) =
            x.withClient build (x.client.handleMessage msg) := if_pos hup
        rw [hread]
        have hfirst := (hins hup).imp_right (hf ins msg List.prefix_rfl)
        exact .inl (signals_handleMessage x.client msg hfirst).2
  · rw [not_exists] at hm
    obtain ⟨hsame, hkept⟩ := registered_step build x hc hd hm
    exact (hins (hsame ▸ hconn)).imp hkept fun h => h.snoc (not_hears hd hm)

/-- **In every run the client and the window agree.** -/
theorem sound_run (ins : List Input) :
    FirstRegistered build ins → ((machine build).run ins).Sound := by
  refine Machine.history_invariant
    (J := fun ins => FirstRegistered build ins → ((machine build).run ins).Sound)
    (fun _ => ?_) (fun ins i ih hf => ?_) ins
  · exact ⟨fun h => absurd rfl h, timed_run (fun _ => {}) [], .of_idle rfl rfl⟩
  have hpre := hf.of_prefix (List.prefix_append ins [i])
  have hsound := ih hpre
  have hreg := registered_run ins hpre
  have hrun : (machine build).run (ins ++ [i]) = ((machine build).run ins).step build i :=
    Machine.run_snoc ..
  rw [hrun]
  cases i with
  | connected =>
      simp only [step]
      split
      · exact hsound
      · exact hsound.withClient (signals_onConnected _)
  | disconnected =>
      simp only [step]
      split
      · exact hsound.withClient (signals_onDisconnected _)
      · exact hsound
  | message msg =>
      simp only [step]
      split
      next hup =>
        have hfirst := (hreg hup).imp_right (hf ins msg List.prefix_rfl)
        exact hsound.withClient (signals_handleMessage _ msg hfirst).1
      · exact hsound
  | invalidPayload =>
      simp only [step]
      split
      · exact hsound.withClient (signals_emit (.aside trivial))
      · exact hsound
  | subscribeWatchdog => exact hsound.withClient (signals_onSubscribeWatchdog _)
  | heartbeatTimer => exact hsound.withClient (signals_onHeartbeatTimer _)
  | edit e => exact hsound.withWindow (by simp)
  | undo edits => exact hsound.withWindow (by simp)
  | redo edits => exact hsound.withWindow (by simp)
  | toggle => exact hsound.withWindow (by simp)
  | submit => exact hsound.withWindow (by simp)
  | cancelButton => exact hsound.withWindow (by simp)
  | cancelShortcut => exact hsound.withWindow (by simp)
  | close => exact hsound.withWindow (by simp)
  | actionTimeout => exact hsound.withWindow (by simp)
  | dismissal timer => exact hsound.withWindow (by simp)

/-! ## No dead end -/

/-- The window's timer is a timer of the two. -/
theorem exists_due (h : ∃ i, x.window.Due i ∧ (x.window.step build i).busy = false) :
    ∃ i, x.Due i ∧ (x.step build i).window.busy = false := by
  obtain ⟨i, hdue, hidle⟩ := h
  unfold FallbackWindow.Due at hdue
  split at hdue
  · exact ⟨.actionTimeout, hdue, hidle⟩
  · exact ⟨.dismissal _, hdue, hidle⟩
  · exact hdue.elim

/-- **No busy dead end**, in any run in which each connection begins with
the registration's reply. -/
theorem noDeadEnd (build : QJsonObject → PromptDisplayModel) (ins : List Input)
    (hf : FirstRegistered build ins) : NoDeadEnd build ((machine build).run ins) := by
  intro hs hb
  obtain ⟨-, htimed, hawake⟩ := sound_run ins hf
  refine ⟨?_, exists_due (hawake.due htimed build hs hb)⟩
  exact (hawake.busy hs hb).imp_left fun hp => ⟨hp, (hawake.pending hp).2⟩

/-- The registration's reply, for a client that is active. -/
def registeredMessage : QJsonObject :=
  [("type", "ui.registered"), ("id", "p1"), ("active", .bool true)]

/-- A session that is created. -/
def createdMessage : QJsonObject := [("type", "session.created"), ("id", "s")]

/-- A password is submitted, and the window waits for the timer of that. -/
theorem noDeadEnd_of_submit :
    let build : QJsonObject → PromptDisplayModel := fun _ => {}
    let ins : List Input :=
      [.connected, .message registeredMessage, .message createdMessage, .edit ⟨0, 0, "x"⟩,
        .submit]
    FirstRegistered build ins ∧ ((machine build).run ins).window.currentSessionId = "s" ∧
      ((machine build).run ins).window.busy = true ∧
      NoDeadEnd build ((machine build).run ins) := by
  intro build ins
  have h₀ : FirstRegistered build [] := by
    intro pre msg hp
    have := List.prefix_nil.1 hp
    simp at this
  have h₁ : FirstRegistered build [.connected, .message registeredMessage] :=
    (h₀.snoc (i := .connected) fun _ h => by cases h).snoc
      (i := .message registeredMessage) fun _ h _ => by cases h; decide
  -- the second message is not the first on its connection
  have h₂ : FirstRegistered build
      [.connected, .message registeredMessage, .message createdMessage] := by
    refine h₁.snoc (i := .message createdMessage) fun _ _ hs => ?_
    have hlast : (machine build).Since Connects Hears
        ([.connected] ++ [.message registeredMessage]) := hs
    rcases Machine.since_snoc.1 hlast with ⟨h, -⟩ | ⟨-, h⟩
    · cases h
    · exact absurd trivial h
  have hf : FirstRegistered build ins :=
    (h₂.snoc (i := .edit ⟨0, 0, "x"⟩) fun _ h => by cases h).snoc (i := .submit)
      fun _ h => by cases h
  exact ⟨hf, by decide, by decide, noDeadEnd build ins hf⟩

end FallbackUi

end BbAuth
