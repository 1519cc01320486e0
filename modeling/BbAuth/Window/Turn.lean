import BbAuth.Model.FallbackWindow
/-!
# What one input can do to the window

Most of the window is only shown. `Alike` is equality on the rest: the
displayed session and what was remembered of it, the line, the pending
action and the timers, and the trace. `Turn` says once what an input does
to these, and under which guards; every invariant of the window is read
off the turns.
-/

namespace BbAuth

namespace FallbackWindow

/-- **The two windows differ in what is shown only.** -/
structure Alike (w w' : FallbackWindow) : Prop where
  currentSessionId : w'.currentSessionId = w.currentSessionId
  currentSource : w'.currentSource = w.currentSource
  currentContext : w'.currentContext = w.currentContext
  confirmOnly : w'.confirmOnly = w.confirmOnly
  busy : w'.busy = w.busy
  allowEmptyResponse : w'.allowEmptyResponse = w.allowEmptyResponse
  pendingAction : w'.pendingAction = w.pendingAction
  actionTimeoutTimer : w'.actionTimeoutTimer = w.actionTimeoutTimer
  input : w'.input = w.input
  dismissals : w'.dismissals = w.dismissals
  nextTimer : w'.nextTimer = w.nextTimer
  log : w'.log = w.log

variable (build : QJsonObject → PromptDisplayModel) (w : FallbackWindow)

/-- The window that displays the session of `event`. -/
def displaying (event : QJsonObject) : FallbackWindow :=
  { w with
    currentSessionId := (event.value "id").toString
    currentSource := (event.value "source").toString
    currentContext := (event.value "context").toObject
    confirmOnly := ((event.value "context").toObject.value "confirmOnly").toBool
    busy := false
    allowEmptyResponse := (build event).allowEmptyResponse
    pendingAction := .none
    actionTimeoutTimer := false
    input := w.input.clear }

/-- The window that has shown an update. -/
def refreshed (event : QJsonObject) : FallbackWindow :=
  { w with
    busy := false
    allowEmptyResponse := if w.confirmOnly then w.allowEmptyResponse
      else (build (w.mergedEvent event)).allowEmptyResponse
    pendingAction := .none
    actionTimeoutTimer := false }

/-- What is sent when the user submits. -/
def response : String := if w.confirmOnly then "confirm" else w.input.value

/-- The window after a submission. -/
def submitted : FallbackWindow :=
  { w with
    busy := true
    pendingAction := .submit
    actionTimeoutTimer := true
    input := if w.confirmOnly then w.input else w.input.clear
    log := w.log ++ [.sendResponse w.currentSessionId w.response] }

/-- The window that has asked for a cancellation. -/
def cancelling : FallbackWindow :=
  { w with
    busy := true
    pendingAction := .cancel
    actionTimeoutTimer := true
    log := w.log ++ [.sendCancel w.currentSessionId] }

/-- **What the user can do to the line** while it is enabled. -/
inductive Edits : Input → LineEdit → Prop
  | edit (e : Edit) : Edits (.edit e) (w.input.change (e.apply w.input.value))
  | undo (edits : ℕ) : Edits (.undo edits) (w.input.undo w.showPassword edits)
  | redo (edits : ℕ) : Edits (.redo edits) (w.input.redo edits)

/-- The window without the dismissal that has fired. -/
def fired (timer : ℕ) : FallbackWindow :=
  { w with dismissals := w.dismissals.filter fun d => d.timer ≠ timer }

/-- **What clears the window**, but for a dismissal: a cancelled close, the
loss of the provider's part, a second cancellation without a connection. -/
inductive Clears : Input → Prop
  | closed {event : QJsonObject} (hid : (event.value "id").toString = w.currentSessionId)
      (hr : (event.value "result").toString = "cancelled" ∨
        (event.value "result").toString = "canceled") :
      Clears (.signal (.sessionClosed event))
  | inactive : Clears (.signal (.providerStateChanged false))
  | cancelButton (hb : w.busy = true) : Clears (.cancelButton false)
  | cancelShortcut (hb : w.busy = true) : Clears (.cancelShortcut false)

/-- **The window can take this input and stay as it is**: it is about no
session or another one, or the widget is disabled. -/
def Ignores : Input → Prop
  | .signal (.sessionCreated event) => (event.value "id").toString = ""
  | .signal (.sessionUpdated event) | .signal (.sessionClosed event) =>
    (event.value "id").toString = "" ∨ (event.value "id").toString ≠ w.currentSessionId
  | .signal (.connectionStateChanged connected) => connected = true
  | .signal (.providerStateChanged _) | .close => w.currentSessionId = ""
  | .edit _ | .undo _ | .redo _ => w.busy = true
  | .actionTimeout => w.actionTimeoutTimer = false
  | .dismissal timer => w.dismissals.find? (fun d => d.timer = timer) = none
  | _ => True

/-- **What one input does to the window.** -/
inductive Turn : Input → FallbackWindow → Prop
  | alike {i : Input} {w' : FallbackWindow} (hi : w.Ignores i) (h : Alike w w') : Turn i w'
  | edited {i : Input} {w' : FallbackWindow} (line : LineEdit) (hb : w.busy = false)
      (hl : w.Edits i line) (h : Alike { w with input := line } w') : Turn i w'
  | submitted {w' : FallbackWindow} (hb : w.busy = false) (hs : w.currentSessionId ≠ "")
      (he : w.response = "" → w.allowEmptyResponse = true) (h : Alike w.submitted w') :
      Turn .submit w'
  | cancelling {i : Input} {w' : FallbackWindow}
      (hi : ∃ connected, i = .cancelButton connected ∨ i = .cancelShortcut connected)
      (hs : w.currentSessionId ≠ "") (h : Alike w.cancelling w') : Turn i w'
  | cleared {i : Input} {w' : FallbackWindow} (hs : w.currentSessionId ≠ "") (hi : w.Clears i)
      (h : Alike w.clearSession w') : Turn i w'
  | shut {w' : FallbackWindow} (hs : w.currentSessionId ≠ "")
      (h : Alike (w.emit (.sendCancel w.currentSessionId)).clearSession w') : Turn .close w'
  | timedOut {w' : FallbackWindow} (ha : w.actionTimeoutTimer = true)
      (h : Alike (if w.currentSessionId = "" ∨ w.pendingAction = .none then
        { w with actionTimeoutTimer := false } else w.clearPendingAction.setBusy false) w') :
      Turn .actionTimeout w'
  | dismissed {w' : FallbackWindow} (timer : ℕ) (d : Dismissal)
      (hd : w.dismissals.find? (fun d => d.timer = timer) = some d)
      (hc : d.afterSuccess = true ∨ w.currentSessionId = d.session)
      (h : Alike (w.fired timer).clearSession w') : Turn (.dismissal timer) w'
  | lapsed {w' : FallbackWindow} (timer : ℕ) (d : Dismissal)
      (hd : w.dismissals.find? (fun d => d.timer = timer) = some d)
      (hc : d.afterSuccess = false) (hne : w.currentSessionId ≠ d.session)
      (h : w' = w.fired timer) : Turn (.dismissal timer) w'
  | disconnected {w' : FallbackWindow} (h : Alike { w with busy := true } w') :
      Turn (.signal (.connectionStateChanged false)) w'
  | active {w' : FallbackWindow} (hs : w.currentSessionId ≠ "")
      (h : Alike { w with busy := false } w') : Turn (.signal (.providerStateChanged true)) w'
  | created {w' : FallbackWindow} (event : QJsonObject) (hid : (event.value "id").toString ≠ "")
      (h : Alike (w.displaying build event) w') : Turn (.signal (.sessionCreated event)) w'
  | updated {w' : FallbackWindow} (event : QJsonObject) (hs : w.currentSessionId ≠ "")
      (hid : (event.value "id").toString = w.currentSessionId)
      (h : Alike (w.refreshed build event) w') : Turn (.signal (.sessionUpdated event)) w'
  | succeeded {w' : FallbackWindow} (event : QJsonObject) (hs : w.currentSessionId ≠ "")
      (hid : (event.value "id").toString = w.currentSessionId)
      (h : Alike (w.clearPendingAction.singleShot w.currentSessionId true) w') :
      Turn (.signal (.sessionClosed event)) w'
  | failed {w' : FallbackWindow} (event : QJsonObject) (hs : w.currentSessionId ≠ "")
      (hid : (event.value "id").toString = w.currentSessionId)
      (h : Alike ((w.clearPendingAction.setBusy false).singleShot w.currentSessionId false) w') :
      Turn (.signal (.sessionClosed event)) w'

/-! ## Every step is a turn -/

variable {w}

theorem Alike.refl (w : FallbackWindow) : Alike w w := by constructor <;> rfl

theorem alike_hide (w : FallbackWindow) : Alike w w.hide.startIdleExitTimer := by
  unfold startIdleExitTimer
  split <;> constructor <;> rfl

theorem alike_dismissSession (w : FallbackWindow) : Alike w.clearSession w.dismissSession :=
  alike_hide w.clearSession

variable (w)

theorem turn_handleCancelRequest {i : Input} {connected : Bool}
    (hi : i = .cancelButton connected ∨ i = .cancelShortcut connected) :
    Turn build w i (w.handleCancelRequest connected) := by
  have hign : w.Ignores i := by rcases hi with rfl | rfl <;> trivial
  unfold handleCancelRequest
  split
  · exact .alike hign (alike_hide w)
  next hs =>
    split
    · exact .alike hign (.refl w)
    · split
      next hb =>
        simp only [Bool.and_eq_true, Bool.not_eq_true'] at hb
        obtain ⟨hb, rfl⟩ := hb
        refine .cleared hs ?_ (alike_dismissSession w)
        rcases hi with rfl | rfl
        · exact .cancelButton hb
        · exact .cancelShortcut hb
      · exact .cancelling ⟨connected, hi⟩ hs (by constructor <;> rfl)

theorem turn_onSubmitClicked : Turn build w .submit w.onSubmitClicked := by
  unfold onSubmitClicked
  split
  · exact .alike trivial (.refl w)
  next hb =>
    split
    · exact .alike trivial (.refl w)
    next hs =>
      split
      · exact .alike trivial (by constructor <;> rfl)
      next he =>
        refine .submitted (by simpa using hb) hs (fun hr => ?_) ?_
        · cases hc : w.confirmOnly with
          | true => simp [response, hc] at hr
          | false =>
              simp only [response, hc, Bool.false_eq_true, if_false] at hr
              simpa [hc, hr] using he
        · cases hc : w.confirmOnly <;>
            constructor <;>
              simp [FallbackWindow.submitted, response, hc, startPendingAction, setErrorText,
                setStatusText, emit, setBusy]

theorem turn_onActionTimeout : Turn build w .actionTimeout w.onActionTimeout := by
  unfold onActionTimeout
  split
  next ha => exact .alike (by simpa [Ignores] using ha) (.refl w)
  next ha =>
    refine .timedOut (by simpa using ha) ?_
    dsimp only
    split
    · exact .refl _
    · split
      · constructor <;> rfl
      · split <;> constructor <;> rfl

theorem turn_onDismissal (timer : ℕ) : Turn build w (.dismissal timer) (w.onDismissal timer) := by
  unfold onDismissal
  split
  next hd => exact .alike hd (.refl w)
  next d hd =>
    dsimp only
    split
    next hc => exact .dismissed timer d hd (.inl hc) (alike_dismissSession (w.fired timer))
    next hc =>
      split
      next hs => exact .dismissed timer d hd (.inr hs) (alike_dismissSession (w.fired timer))
      next hs => exact .lapsed timer d hd (by simpa using hc) hs rfl

theorem turn_onSessionUpdated (event : QJsonObject) :
    Turn build w (.signal (.sessionUpdated event)) (w.onSessionUpdated build event) := by
  unfold onSessionUpdated
  dsimp only
  split
  next hid => exact .alike hid (.refl w)
  next hid =>
    rw [not_or, not_not] at hid
    exact .updated event (hid.2 ▸ hid.1) hid.2 (by constructor <;> rfl)

theorem turn_onSessionClosed (event : QJsonObject) :
    Turn build w (.signal (.sessionClosed event)) (w.onSessionClosed event) := by
  unfold onSessionClosed
  dsimp only
  split
  next hid => exact .alike hid (.refl w)
  next hid =>
    rw [not_or, not_not] at hid
    have hs : w.currentSessionId ≠ "" := hid.2 ▸ hid.1
    split
    · exact .succeeded event hs hid.2 (by rw [hid.2]; constructor <;> rfl)
    · split
      next hr => exact .cleared hs (.closed hid.2 hr) (alike_dismissSession w.clearPendingAction)
      · exact .failed event hs hid.2 (by rw [hid.2]; constructor <;> rfl)

/-- **Every step of the window is a turn.** -/
theorem turn_step (i : Input) : Turn build w i (w.step build i) := by
  cases i with
  | signal signal =>
      cases signal with
      | sent json => exact .alike trivial (.refl w)
      | connectionStateChanged connected =>
          simp only [step, onSignal, onConnectionStateChanged]
          split
          next hc =>
            split
            · exact .alike hc (by constructor <;> rfl)
            · exact .alike hc (.refl w)
          next hc =>
            obtain rfl : connected = false := by simpa using hc
            exact .disconnected (by constructor <;> rfl)
      | providerStateChanged active =>
          simp only [step, onSignal, onProviderStateChanged]
          split
          next ha =>
            subst ha
            split
            next hs => exact .active hs (by constructor <;> rfl)
            next hs => exact .alike (not_not.1 hs) (by constructor <;> rfl)
          next ha =>
            obtain rfl : active = false := by simpa using ha
            split
            next hs => exact .cleared hs .inactive (alike_hide w.clearSession)
            next hs => exact .alike (not_not.1 hs) (alike_hide w)
      | statusMessage status => exact .alike trivial (by constructor <;> rfl)
      | sessionCreated event =>
          simp only [step, onSignal, onSessionCreated]
          split
          next hid => exact .alike hid (.refl w)
          next hid => exact .created event hid (by constructor <;> rfl)
      | sessionUpdated event => exact turn_onSessionUpdated build w event
      | sessionClosed event => exact turn_onSessionClosed build w event
  | edit e =>
      simp only [step, onEdit]
      split
      next hb => exact .alike hb (.refl w)
      next hb => exact .edited _ (by simpa using hb) (.edit e) (.refl _)
  | undo edits =>
      simp only [step, onUndo]
      split
      next hb => exact .alike hb (.refl w)
      next hb => exact .edited _ (by simpa using hb) (.undo edits) (.refl _)
  | redo edits =>
      simp only [step, onRedo]
      split
      next hb => exact .alike hb (.refl w)
      next hb => exact .edited _ (by simpa using hb) (.redo edits) (.refl _)
  | toggle =>
      simp only [step, onToggle]
      split
      · exact .alike trivial (.refl w)
      · exact .alike trivial (by constructor <;> rfl)
  | submit => exact turn_onSubmitClicked build w
  | cancelButton connected =>
      simp only [step]
      split
      · exact turn_handleCancelRequest build w (.inl rfl)
      · exact .alike trivial (.refl w)
  | cancelShortcut connected => exact turn_handleCancelRequest build w (.inr rfl)
  | close =>
      simp only [step, closeEvent]
      split
      next hs => exact .shut hs (by constructor <;> rfl)
      next hs => exact .alike (not_not.1 hs) (by constructor <;> rfl)
  | actionTimeout => exact turn_onActionTimeout build w
  | dismissal timer => exact turn_onDismissal build w timer

end FallbackWindow

end BbAuth
