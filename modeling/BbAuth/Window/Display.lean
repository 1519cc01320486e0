import BbAuth.Window.DeadEnd
/-!
# The window shows what it answers

An answer is typed under the window's texts, so these have to be the texts
of the session it goes to. They are set by two handlers and cleared by many
timers and signals; `Glance` says what one input does to them. `Story` is
what the daemon has told of the session it created last, on the connection
in force. In every run a window that shows something shows the story of its
session (`shows_its_session`), and one that shows nothing is about to end
the process, unless it has shown nothing yet or the user closed it.
-/

namespace BbAuth

namespace FallbackWindow

/-! ## What is shown -/

/-- **The texts of the window** that are about its session. -/
structure Face where
  title : String
  summary : String
  requestor : String
  details : String
  promptLabel : String
  placeholder : String
  deriving DecidableEq

/-- The texts that are shown. -/
def face (w : FallbackWindow) : Face :=
  ⟨w.title, w.summary, w.requestor, w.details, w.promptLabel, w.placeholder⟩

/-- **What is told of a session**: its creation, and the updates since. -/
structure Story where
  created : QJsonObject
  updates : List QJsonObject := []

namespace Story

variable (build : QJsonObject → PromptDisplayModel) (story : Story)

/-- The session. -/
def session : String := (story.created.value "id").toString

/-- Whether the session is only confirmed. -/
def confirmOnly : Bool := ((story.created.value "context").toObject.value "confirmOnly").toBool

/-- The event an update is displayed as: its own texts, with the source and
the context of the creation. -/
def event (update : QJsonObject) : QJsonObject :=
  mergedEvent { currentSource := (story.created.value "source").toString
                currentContext := (story.created.value "context").toObject } update

/-- The display model of the last update, if there is one. -/
def latest : PromptDisplayModel :=
  (story.updates.getLast?.map fun update => build (story.event update)).getD (build story.created)

/-- **The texts a story is shown with.** The title and the prompt are those
of the last update; a confirmation has no prompt to be updated. -/
def face : Face where
  title := (story.latest build).title
  summary := (build story.created).summary
  requestor := (build story.created).requestor
  details := (build story.created).details
  promptLabel := if story.confirmOnly then (build story.created).prompt
    else (story.latest build).prompt
  placeholder := if story.confirmOnly then "" else placeholderOf (story.latest build)

/-- One more update. -/
def update (event : QJsonObject) : Story := { story with updates := story.updates ++ [event] }

@[simp] theorem latest_update (event : QJsonObject) :
    (story.update event).latest build = build (story.event event) := by
  simp [latest, update, Story.event]

end Story

/-! ## One input -/

variable (build : QJsonObject → PromptDisplayModel) (w : FallbackWindow)

/-- **Nothing moves** of what is shown and remembered of a session. -/
structure Unmoved (w' : FallbackWindow) : Prop where
  currentSessionId : w'.currentSessionId = w.currentSessionId
  currentSource : w'.currentSource = w.currentSource
  currentContext : w'.currentContext = w.currentContext
  confirmOnly : w'.confirmOnly = w.confirmOnly
  visible : w'.visible = w.visible
  idleExitTimer : w'.idleExitTimer = w.idleExitTimer
  face : w'.face = w.face

/-- **The window tells a story**: it shows its texts, and remembers of it
what an update is displayed with. -/
structure Tells (story : Story) (w : FallbackWindow) : Prop where
  currentSessionId : w.currentSessionId = story.session
  currentSource : w.currentSource = (story.created.value "source").toString
  currentContext : w.currentContext = (story.created.value "context").toObject
  confirmOnly : w.confirmOnly = story.confirmOnly
  face : w.face = story.face build

/-- The input tells of the session that is shown after it. -/
def Concerns : Input → Prop
  | .signal (.sessionCreated event) => (event.value "id").toString ≠ ""
  | .signal (.sessionUpdated event) =>
    (event.value "id").toString ≠ "" ∧ (event.value "id").toString = w.currentSessionId
  | _ => False

/-- **What one input does to what is shown.** -/
inductive Glance : Input → FallbackWindow → Prop
  | kept {i : Input} {w' : FallbackWindow} (hi : ¬ w.Concerns i) (h : w.Unmoved w') : Glance i w'
  | left {i : Input} {w' : FallbackWindow} (hs : w'.currentSessionId = "")
      (hv : w'.visible = false) (ht : w'.idleExitTimer = true) : Glance i w'
  | closed {w' : FallbackWindow} (hs : w'.currentSessionId = "") (hv : w'.visible = false) :
      Glance .close w'
  | created {w' : FallbackWindow} (event : QJsonObject) (hid : (event.value "id").toString ≠ "")
      (hv : w'.visible = true) (ht : w'.idleExitTimer = false)
      (h : Tells build { created := event } w') : Glance (.signal (.sessionCreated event)) w'
  | updated {w' : FallbackWindow} (event : QJsonObject) (hs : w.currentSessionId ≠ "")
      (hid : (event.value "id").toString = w.currentSessionId)
      (hcur : w'.currentSessionId = w.currentSessionId) (hv : w'.visible = w.visible)
      (ht : w'.idleExitTimer = w.idleExitTimer)
      (h : ∀ story, Tells build story w → Tells build (story.update event) w') :
      Glance (.signal (.sessionUpdated event)) w'

variable {w}

theorem Unmoved.refl (w : FallbackWindow) : w.Unmoved w := by constructor <;> rfl

theorem startIdleExitTimer_hide (hs : w.currentSessionId = "") :
    w.hide.startIdleExitTimer = { w with visible := false, idleExitTimer := true } := by
  rw [startIdleExitTimer, if_pos ⟨hs, rfl⟩]
  rfl

variable (w)

/-- A session that is dismissed leaves the window hidden, and about to end
the process. -/
theorem glance_dismissSession (v : FallbackWindow) (i : Input) :
    Glance build w i v.dismissSession := by
  have h := startIdleExitTimer_hide (w := v.clearSession) rfl
  rw [dismissSession, h]
  exact .left rfl rfl rfl

theorem glance_hide (hs : w.currentSessionId = "") (i : Input) :
    Glance build w i w.hide.startIdleExitTimer := by
  rw [startIdleExitTimer_hide hs]
  exact .left hs rfl rfl

theorem glance_handleCancelRequest (connected : Bool) {i : Input} (hi : ¬ w.Concerns i) :
    Glance build w i (w.handleCancelRequest connected) := by
  unfold handleCancelRequest
  split
  next hs => exact glance_hide build w hs i
  · split
    · exact .kept hi (.refl w)
    · split
      · exact glance_dismissSession build w w i
      · exact .kept hi (by constructor <;> rfl)

theorem glance_onSubmitClicked {i : Input} (hi : ¬ w.Concerns i) :
    Glance build w i w.onSubmitClicked := by
  unfold onSubmitClicked
  split
  · exact .kept hi (.refl w)
  · split
    · exact .kept hi (.refl w)
    · split
      · exact .kept hi (by constructor <;> rfl)
      · refine .kept hi ?_
        cases hc : w.confirmOnly <;>
          constructor <;>
            simp [hc, startPendingAction, setErrorText, setStatusText, emit, setBusy, face]

theorem glance_onActionTimeout {i : Input} (hi : ¬ w.Concerns i) :
    Glance build w i w.onActionTimeout := by
  unfold onActionTimeout
  split
  · exact .kept hi (.refl w)
  · dsimp only
    split
    · exact .kept hi (by constructor <;> rfl)
    · split
      · exact .kept hi (by constructor <;> rfl)
      · split
        · exact .kept hi (by constructor <;> rfl)
        · exact .kept hi (by constructor <;> rfl)

theorem glance_onDismissal (timer : ℕ) {i : Input} (hi : ¬ w.Concerns i) :
    Glance build w i (w.onDismissal timer) := by
  unfold onDismissal
  split
  · exact .kept hi (.refl w)
  · dsimp only
    split
    · exact glance_dismissSession build w _ i
    · split
      · exact glance_dismissSession build w _ i
      · exact .kept hi (by constructor <;> rfl)

theorem glance_onSessionCreated (event : QJsonObject) :
    Glance build w (.signal (.sessionCreated event)) (w.onSessionCreated build event) := by
  unfold onSessionCreated
  dsimp only
  split
  next hid => exact .kept (not_not_intro hid) (.refl w)
  next hid =>
    refine .created event hid rfl rfl ⟨rfl, rfl, rfl, rfl, ?_⟩
    have hlatest : Story.latest build { created := event } = build event := rfl
    rw [Story.face, hlatest, ite_self]
    rfl

theorem glance_onSessionUpdated (event : QJsonObject) :
    Glance build w (.signal (.sessionUpdated event)) (w.onSessionUpdated build event) := by
  unfold onSessionUpdated
  dsimp only
  split
  next hid => exact .kept (fun h => hid.elim h.1 fun hne => hne h.2) (.refl w)
  next hid =>
    rw [not_or, not_not] at hid
    refine .updated event (hid.2 ▸ hid.1) hid.2 rfl rfl rfl fun story h => ?_
    have hmerged : w.mergedEvent event = story.event event := by
      simp only [Story.event, mergedEvent, h.currentSource, h.currentContext]
    refine ⟨h.currentSessionId, h.currentSource, h.currentContext, h.confirmOnly, ?_⟩
    have hface := h.face
    have hconfirm := h.confirmOnly
    simp only [face, Story.face, Face.mk.injEq] at hface
    obtain ⟨-, hsummary, hrequestor, hdetails, hprompt, hplaceholder⟩ := hface
    have hsame : (story.update event).confirmOnly = story.confirmOnly := rfl
    rw [Story.face, Story.latest_update, hsame, ← hconfirm, hmerged]
    rw [← hconfirm] at hprompt hplaceholder
    cases hc : w.confirmOnly with
    | true =>
        simp only [hc, if_true] at hprompt hplaceholder
        simp [face, setBusy, setStatusText, setErrorText, clearPendingAction, hc, hsummary,
          hrequestor, hdetails, hprompt, hplaceholder, Story.update]
    | false =>
        simp [face, setBusy, setStatusText, setErrorText, clearPendingAction, hc, hsummary,
          hrequestor, hdetails, Story.update]

/-- **Every step of the window is a glance.** -/
theorem glance_step (i : Input) : Glance build w i (w.step build i) := by
  cases i with
  | signal signal =>
      cases signal with
      | sent json => exact .kept id (.refl w)
      | connectionStateChanged connected =>
          simp only [step, onSignal, onConnectionStateChanged]
          split
          · split
            · exact .kept id (by constructor <;> rfl)
            · exact .kept id (.refl w)
          · exact .kept id (by constructor <;> rfl)
      | providerStateChanged active =>
          simp only [step, onSignal, onProviderStateChanged]
          split
          · split
            · exact .kept id (by constructor <;> rfl)
            · exact .kept id (by constructor <;> rfl)
          · split
            · exact glance_dismissSession build w w _
            next hs => exact glance_hide build w (not_not.1 hs) _
      | statusMessage status => exact .kept id (by constructor <;> rfl)
      | sessionCreated event => exact glance_onSessionCreated build w event
      | sessionUpdated event => exact glance_onSessionUpdated build w event
      | sessionClosed event =>
          simp only [step, onSignal, onSessionClosed]
          split
          · exact .kept id (.refl w)
          · split
            · exact .kept id (by constructor <;> rfl)
            · split
              · exact glance_dismissSession build w _ _
              · exact .kept id (by constructor <;> rfl)
  | edit e =>
      simp only [step, onEdit]
      split
      · exact .kept id (.refl w)
      · exact .kept id (by constructor <;> rfl)
  | undo edits =>
      simp only [step, onUndo]
      split
      · exact .kept id (.refl w)
      · exact .kept id (by constructor <;> rfl)
  | redo edits =>
      simp only [step, onRedo]
      split
      · exact .kept id (.refl w)
      · exact .kept id (by constructor <;> rfl)
  | toggle =>
      simp only [step, onToggle]
      split
      · exact .kept id (.refl w)
      · exact .kept id (by constructor <;> rfl)
  | submit => exact glance_onSubmitClicked build w id
  | cancelButton connected =>
      simp only [step]
      split
      · exact glance_handleCancelRequest build w connected id
      · exact .kept id (.refl w)
  | cancelShortcut connected => exact glance_handleCancelRequest build w connected id
  | close =>
      simp only [step, closeEvent]
      split
      · exact .closed rfl rfl
      next hs => exact .closed (not_not.1 hs) rfl
  | actionTimeout => exact glance_onActionTimeout build w id
  | dismissal timer => exact glance_onDismissal build w timer id

/-! ## What is told and what is shown -/

/-- What a signal adds to what is told. -/
def hear (told : Option Story) : FallbackClient.Output → Option Story
  | .sessionCreated event =>
    if (event.value "id").toString = "" then told else some { created := event }
  | .sessionUpdated event =>
    told.map fun story =>
      if (event.value "id").toString = story.session then story.update event else story
  | _ => told

/-- **The window shows what was told of its session**, and nothing without
one. The process does not end while it shows something. -/
structure Shows (told : Option Story) (w : FallbackWindow) : Prop where
  visible : w.visible = true ↔ w.currentSessionId ≠ ""
  idle : w.idleExitTimer = true → w.currentSessionId = ""
  story : w.currentSessionId ≠ "" → ∃ story, told = some story ∧ Tells build story w

variable {build} {w} {w' : FallbackWindow} {i : Input} {told : Option Story} {story : Story}

theorem Tells.unmoved (h : Tells build story w) (hu : w.Unmoved w') : Tells build story w' :=
  ⟨hu.currentSessionId.trans h.currentSessionId, hu.currentSource.trans h.currentSource,
    hu.currentContext.trans h.currentContext, hu.confirmOnly.trans h.confirmOnly,
    hu.face.trans h.face⟩

theorem Shows.unmoved (h : Shows build told w) (hu : w.Unmoved w') : Shows build told w' := by
  refine ⟨?_, ?_, fun hs => ?_⟩
  · rw [hu.visible, hu.currentSessionId]
    exact h.visible
  · rw [hu.idleExitTimer, hu.currentSessionId]
    exact h.idle
  · obtain ⟨story, htold, htells⟩ := h.story (hu.currentSessionId ▸ hs)
    exact ⟨story, htold, htells.unmoved hu⟩

/-- A window without a session shows nothing. -/
theorem Shows.of_empty (hs : w.currentSessionId = "") (hv : w.visible = false) :
    Shows build told w :=
  ⟨by simp [hs, hv], fun _ => hs, fun h => absurd hs h⟩

/-- **Only the client's signals tell of a session.** -/
theorem Shows.step (h : Shows build told w) (hi : ∀ o, i ≠ .signal o) :
    Shows build told (w.step build i) := by
  cases glance_step build w i with
  | kept _ hu => exact h.unmoved hu
  | left hs hv ht => exact .of_empty hs hv
  | closed hs hv => exact .of_empty hs hv
  | created event hid hv ht htells => exact absurd rfl (hi _)
  | updated event hs hid hcur hv ht htells => exact absurd rfl (hi _)

/-- **What a signal tells is shown.** -/
theorem Shows.onSignal (h : Shows build told w) (o : FallbackClient.Output) :
    Shows build (hear told o) (w.onSignal build o) := by
  have hstep : w.step build (.signal o) = w.onSignal build o := rfl
  have hg := glance_step build w (.signal o)
  rw [hstep] at hg
  generalize w.onSignal build o = w' at hg
  cases hg with
  | kept hi hu =>
      have hsame : w.currentSessionId ≠ "" → hear told o = told := by
        intro hs
        obtain ⟨story, rfl, htells⟩ := h.story hs
        cases o with
        | sessionCreated event => exact if_pos (not_not.1 hi)
        | sessionUpdated event =>
            have hne : (event.value "id").toString ≠ story.session := by
              rintro heq
              rw [← htells.currentSessionId] at heq
              exact hi ⟨heq ▸ hs, heq⟩
            simp [hear, hne]
        | _ => rfl
      have hu' := h.unmoved hu
      refine ⟨hu'.visible, hu'.idle, fun hs => ?_⟩
      rw [hsame (hu.currentSessionId ▸ hs)]
      exact hu'.story hs
  | left hs hv ht => exact .of_empty hs hv
  | created event hid hv ht htells =>
      have hsession : w'.currentSessionId ≠ "" := by
        rw [htells.currentSessionId]
        exact hid
      refine ⟨by simp [hv, hsession], fun h => by simp [ht] at h, fun _ => ⟨_, ?_, htells⟩⟩
      exact if_neg hid
  | updated event hs hid hcur hv ht htells =>
      obtain ⟨story, rfl, hstory⟩ := h.story hs
      refine ⟨?_, ?_, fun _ => ⟨_, ?_, htells story hstory⟩⟩
      · rw [hv, hcur]
        exact h.visible
      · rw [ht, hcur]
        exact h.idle
      · have hsession := hid.trans hstory.currentSessionId
        simp [hear, hsession]

/-- **What the signals tell is shown**, in whatever order they come. -/
theorem Shows.receive (h : Shows build told w) (os : List FallbackClient.Output) :
    Shows build (os.foldl hear told) (w.receive build os) := by
  induction os generalizing told w with
  | nil => exact h
  | cons o os ih => exact ih (h.onSignal o)

/-! ## What shows nothing -/

/-- The window shows nothing, and nothing ends the process. -/
def Dormant (w : FallbackWindow) : Prop := w.currentSessionId = "" ∧ w.idleExitTimer = false

/-- **A window becomes dormant only when it is closed.** -/
theorem Dormant.of_step (h : Dormant (w.step build i)) (hi : i ≠ .close) : Dormant w := by
  cases glance_step build w i with
  | kept _ hu => exact ⟨hu.currentSessionId ▸ h.1, hu.idleExitTimer ▸ h.2⟩
  | left hs hv ht => exact absurd (ht.symm.trans h.2) (by decide)
  | closed hs hv => exact absurd rfl hi
  | created event hid hv ht htells => exact absurd (htells.currentSessionId.symm.trans h.1) hid
  | updated event hs hid hcur hv ht htells => exact absurd (hcur.symm.trans h.1) hs

theorem Dormant.of_receive {os : List FallbackClient.Output} (h : Dormant (w.receive build os)) :
    Dormant w := by
  induction os generalizing w with
  | nil => exact h
  | cons o os ih =>
      have hw : Dormant (w.step build (.signal o)) := ih h
      exact hw.of_step (by simp)

end FallbackWindow

namespace FallbackClient

open FallbackWindow (Story hear)

/-! ## What the client passes on -/

/-- **What the client puts out from the one state to the other** is heard
as `note` has it. -/
def HeardAs (note : Option Story → Option Story) (c c' : FallbackClient) : Prop :=
  ∃ os, c'.log = c.log ++ os ∧ ∀ told, os.foldl hear told = note told

/-- Nothing is heard of a session. -/
abbrev Silent : FallbackClient → FallbackClient → Prop := HeardAs id

variable {c c' c'' : FallbackClient} {note : Option Story → Option Story} {msg : QJsonObject}

theorem silent_of_eq (h : c'.log = c.log) : Silent c c' :=
  ⟨[], by rw [h, List.append_nil], fun _ => rfl⟩

theorem Silent.refl (c : FallbackClient) : Silent c c := silent_of_eq rfl

theorem Silent.trans (h : Silent c c') (h' : HeardAs note c' c'') : HeardAs note c c'' := by
  obtain ⟨os, hos, hheard⟩ := h
  obtain ⟨os', hos', hheard'⟩ := h'
  refine ⟨os ++ os', by rw [hos', hos, List.append_assoc], fun told => ?_⟩
  rw [List.foldl_append, hheard]
  exact hheard' told

theorem heardAs_emit (c : FallbackClient) (o : Output) :
    HeardAs (fun told => hear told o) c (c.emit o) :=
  ⟨[o], rfl, fun _ => rfl⟩

theorem silent_emit (c : FallbackClient) {o : Output} (ho : ∀ told, hear told o = told) :
    Silent c (c.emit o) :=
  ⟨[o], rfl, ho⟩

theorem silent_sendJson (c : FallbackClient) (j : QJsonObject) : Silent c (c.sendJson j) := by
  unfold sendJson
  split
  · exact .refl c
  · exact silent_emit c fun _ => rfl

theorem silent_setProviderActive (c : FallbackClient) (active : Bool) :
    Silent c (c.setProviderActive active) := by
  unfold setProviderActive
  dsimp only
  split
  · exact .refl c
  · have he : Silent c
        ({ c with providerActive := active }.emit (.providerStateChanged active)) :=
      ⟨[.providerStateChanged active], rfl, fun _ => rfl⟩
    split
    · exact he.trans (silent_sendJson _ _)
    · exact he

theorem silent_clearPending (c : FallbackClient) : Silent c c.clearPending := silent_of_eq rfl

theorem silent_resetConnection (c : FallbackClient) : Silent c c.resetConnection :=
  (silent_of_eq rfl : Silent c _).trans (silent_setProviderActive _ false)

theorem silent_onConnected (c : FallbackClient) : Silent c c.onConnected := by
  have hreset : Silent c { c with connected := true }.resetConnection :=
    (silent_of_eq rfl : Silent c _).trans (silent_resetConnection _)
  have hsent : ∀ c' : FallbackClient, Silent c' c'.registerProvider.subscribe :=
    fun c' => (silent_sendJson c' _).trans (silent_sendJson _ _)
  refine hreset.trans (Silent.trans ?_ (hsent _))
  exact (silent_emit _ fun _ => rfl).trans (silent_emit _ fun _ => rfl)

theorem silent_onDisconnected (c : FallbackClient) : Silent c c.onDisconnected := by
  have hreset : Silent c { c with connected := false }.resetConnection :=
    (silent_of_eq rfl : Silent c _).trans (silent_resetConnection _)
  exact hreset.trans ((silent_emit _ fun _ => rfl).trans (silent_emit _ fun _ => rfl))

theorem silent_onSubscribeWatchdog (c : FallbackClient) : Silent c c.onSubscribeWatchdog := by
  have hsubscribe : ∀ c' : FallbackClient,
      Silent c' (if !c'.subscribed then c'.subscribe else c') := by
    intro c'
    split
    · exact silent_sendJson c' _
    · exact .refl c'
  unfold onSubscribeWatchdog
  dsimp only
  split
  · exact .refl c
  · refine Silent.trans ?_ (hsubscribe _)
    split
    · exact silent_sendJson c _
    · exact .refl c

theorem silent_onHeartbeatTimer (c : FallbackClient) : Silent c c.onHeartbeatTimer := by
  unfold onHeartbeatTimer
  split
  · exact .refl c
  · exact silent_sendJson c _

theorem silent_handleSubscribed (c : FallbackClient) (msg : QJsonObject) :
    Silent c (c.handleSubscribed msg) := by
  have hsub : Silent c { c with subscribed := true } := silent_of_eq rfl
  unfold handleSubscribed
  dsimp only
  split
  · exact hsub.trans (silent_setProviderActive _ _)
  · exact hsub

theorem silent_applyPendingProviderState (c : FallbackClient) :
    Silent c c.applyPendingProviderState := by
  unfold applyPendingProviderState
  split
  · exact .refl c
  · exact (silent_setProviderActive c _).trans (silent_clearPending _)

theorem silent_handleRegistered (c : FallbackClient) (msg : QJsonObject) :
    Silent c (c.handleRegistered msg) := by
  have hreg : Silent c { c with registered := true, providerId := (msg.value "id").toString } :=
    silent_of_eq rfl
  unfold handleRegistered
  dsimp only
  split
  · exact hreg.trans ((silent_setProviderActive _ _).trans (silent_clearPending _))
  · exact hreg.trans (silent_applyPendingProviderState _)

theorem silent_handleActive (c : FallbackClient) (msg : QJsonObject) :
    Silent c (c.handleActive msg) := by
  unfold handleActive
  dsimp only
  split
  · exact silent_of_eq rfl
  · split
    · split
      · exact silent_of_eq rfl
      · exact (silent_setProviderActive c true).trans (silent_clearPending _)
    · exact silent_setProviderActive c _

theorem silent_handleError (c : FallbackClient) (msg : QJsonObject) :
    Silent c (c.handleError msg) := by
  unfold handleError
  dsimp only
  refine Silent.trans ?_ (silent_emit _ fun _ => rfl)
  split
  · exact silent_setProviderActive c false
  · exact .refl c

/-- **What a message tells** a client that is active. -/
def told (msg : QJsonObject) (told : Option Story) : Option Story :=
  if (msg.value "type").toString = "session.created" then hear told (.sessionCreated msg)
  else if (msg.value "type").toString = "session.updated" then hear told (.sessionUpdated msg)
  else told

/-- **A registered client passes on what it is told while it is active.** -/
theorem heardAs_handleMessage (c : FallbackClient) (msg : QJsonObject)
    (h : c.registered = true ∨ (msg.value "type").toString = "ui.registered") :
    HeardAs (if c.providerActive then told msg else id) c (c.handleMessage msg) := by
  have hquiet : (msg.value "type").toString ≠ "session.created" →
      (msg.value "type").toString ≠ "session.updated" → Silent c (c.handleMessage msg) →
        HeardAs (if c.providerActive then told msg else id) c (c.handleMessage msg) := by
    intro hc hu hs
    have htold : told msg = id := by
      funext t
      simp [told, hc, hu]
    rwa [htold, ite_self]
  by_cases hc : (msg.value "type").toString = "session.created"
  · have hr : c.registered = true := h.resolve_right (by rw [hc]; decide)
    have htold : told msg = fun t => hear t (.sessionCreated msg) := funext fun t => if_pos hc
    have hread : c.handleMessage msg =
        if c.providerActive then c.emit (.sessionCreated msg) else c := by
      cases ha : c.providerActive <;> simp [handleMessage, handleSessionEvent, hc, hr, ha]
    rw [hread]
    split
    · rw [htold]
      exact heardAs_emit c _
    · exact Silent.refl c
  by_cases hu : (msg.value "type").toString = "session.updated"
  · have hr : c.registered = true := h.resolve_right (by rw [hu]; decide)
    have htold : told msg = fun t => hear t (.sessionUpdated msg) :=
      funext fun t => (if_neg hc).trans (if_pos hu)
    have hread : c.handleMessage msg =
        if c.providerActive then c.emit (.sessionUpdated msg) else c := by
      cases ha : c.providerActive <;> simp [handleMessage, handleSessionEvent, hu, hr, ha]
    rw [hread]
    split
    · rw [htold]
      exact heardAs_emit c _
    · exact Silent.refl c
  refine hquiet hc hu ?_
  unfold handleMessage
  dsimp only
  split
  · exact silent_handleSubscribed c msg
  · split
    · exact silent_handleRegistered c msg
    · split
      · exact silent_handleActive c msg
      · split
        · exact .refl c
        · split
          · exact .refl c
          · split
            · exact silent_handleError c msg
            · rw [handleSessionEvent, if_neg hc, if_neg hu]
              split
              · exact .refl c
              · split
                · exact silent_emit c fun _ => rfl
                · exact .refl c

end FallbackClient

namespace FallbackUi

open FallbackWindow FallbackClient

/-! ## The two together -/

variable {build : QJsonObject → PromptDisplayModel} {x : FallbackUi} {c' : FallbackClient}
variable {heard : Option Story} {note : Option Story → Option Story} {i : Input} {ins : List Input}

/-- **What is heard on the connection in force**, by a client while it is
active. -/
def listen (heard : Option Story) (x : FallbackUi) : Input → Option Story
  | .connected => if x.client.connected then heard else none
  | .disconnected => if x.client.connected then none else heard
  | .message msg =>
    if x.client.connected && x.client.providerActive then told msg heard else heard
  | _ => heard

theorem shows_withClient (h : Shows build heard x.window) (hc : HeardAs note x.client c') :
    Shows build (note heard) (x.withClient build c').window := by
  obtain ⟨os, hlog, hos⟩ := hc
  have hwindow : (x.withClient build c').window = x.window.receive build os := by
    simp only [FallbackUi.withClient, FallbackWindow.receive, hlog, List.drop_left]
  rw [hwindow, ← hos]
  exact h.receive os

theorem shows_withWindow (h : Shows build heard x.window) {j : FallbackWindow.Input}
    (hj : ∀ o, j ≠ .signal o) : Shows build heard (x.withWindow build j).window :=
  h.step hj

/-- A window without a session may forget the story. -/
theorem shows_none {w : FallbackWindow} (h : Shows build heard w) (hs : w.currentSessionId = "") :
    Shows build none w :=
  ⟨h.visible, h.idle, fun hne => absurd hs hne⟩

theorem providerActive_onConnected (c : FallbackClient) : c.onConnected.providerActive = false := by
  have hreset := providerActive_resetConnection { c with connected := true }
  simp only [onConnected, registerProvider, subscribe]
  rw [sendJson_eq, sendJson_eq]
  exact hreset

theorem providerActive_onDisconnected (c : FallbackClient) :
    c.onDisconnected.providerActive = false :=
  providerActive_resetConnection { c with connected := false }

/-- **One step of the two.** What survives a connection would be shown by a
client that is not active. -/
theorem shows_step (h : Shows build heard x.window) (hafter : (x.step build i).Sound)
    (hfirst : ∀ msg, i = .message msg → x.client.connected = true →
      x.client.registered = true ∨ (msg.value "type").toString = "ui.registered") :
    Shows build (listen heard x i) (x.step build i).window := by
  have hinactive : (x.step build i).client.providerActive = false →
      (x.step build i).window.currentSessionId = "" := by
    intro ha
    by_contra hs
    exact absurd (ha.symm.trans (hafter.heeds hs)) (by decide)
  cases i with
  | connected =>
      simp only [step, listen] at hinactive ⊢
      split
      · exact h
      next hup =>
        rw [if_neg hup] at hinactive
        exact shows_none (shows_withClient h (silent_onConnected _))
          (hinactive (providerActive_onConnected _))
  | disconnected =>
      simp only [step, listen] at hinactive ⊢
      split
      next hup =>
        rw [if_pos hup] at hinactive
        exact shows_none (shows_withClient h (silent_onDisconnected _))
          (hinactive (providerActive_onDisconnected _))
      · exact h
  | message msg =>
      simp only [step, listen]
      cases hup : x.client.connected with
      | false => exact h
      | true =>
          have hheard := heardAs_handleMessage x.client msg (hfirst msg rfl hup)
          have hshown := shows_withClient h hheard
          cases ha : x.client.providerActive with
          | false => simpa [ha] using hshown
          | true => simpa [ha] using hshown
  | invalidPayload =>
      simp only [step]
      split
      · exact shows_withClient h (silent_emit _ fun _ => rfl)
      · exact h
  | subscribeWatchdog => exact shows_withClient h (silent_onSubscribeWatchdog _)
  | heartbeatTimer => exact shows_withClient h (silent_onHeartbeatTimer _)
  | edit e => exact shows_withWindow h (by simp)
  | undo edits => exact shows_withWindow h (by simp)
  | redo edits => exact shows_withWindow h (by simp)
  | toggle => exact shows_withWindow h (by simp)
  | submit => exact shows_withWindow h (by simp)
  | cancelButton => exact shows_withWindow h (by simp)
  | cancelShortcut => exact shows_withWindow h (by simp)
  | close => exact shows_withWindow h (by simp)
  | actionTimeout => exact shows_withWindow h (by simp)
  | dismissal timer => exact shows_withWindow h (by simp)

theorem shows_run (ins : List Input) : FirstRegistered build ins →
    Shows build ((machine build).observe listen none ins) ((machine build).run ins).window := by
  refine Machine.history_invariant
    (J := fun ins => FirstRegistered build ins →
      Shows build ((machine build).observe listen none ins) ((machine build).run ins).window)
    (fun _ => .of_empty rfl rfl) (fun ins i ih hf => ?_) ins
  have hpre := hf.of_prefix (List.prefix_append ins [i])
  have hafter := sound_run (ins ++ [i]) hf
  rw [Machine.run_snoc] at hafter
  rw [Machine.observe_snoc, Machine.run_snoc]
  refine shows_step (ih hpre) hafter fun msg hi hup => ?_
  subst hi
  exact (registered_run ins hpre hup).imp_right (hf ins msg List.prefix_rfl)

theorem dormant_of_withWindow {j : FallbackWindow.Input}
    (h : Dormant (x.withWindow build j).window) (hj : j ≠ .close) : Dormant x.window :=
  Dormant.of_step h hj

theorem dormant_of_step (h : Dormant (x.step build i).window) (hi : i ≠ .close) :
    Dormant x.window := by
  cases i with
  | connected | disconnected | message msg | invalidPayload =>
      simp only [step] at h
      split at h
      · first | exact h | exact Dormant.of_receive h
      · first | exact h | exact Dormant.of_receive h
  | subscribeWatchdog | heartbeatTimer => exact Dormant.of_receive h
  | close => exact absurd rfl hi
  | edit | undo | redo | toggle | submit | cancelButton | cancelShortcut | actionTimeout | dismissal =>
      exact dormant_of_withWindow h (by simp)

/-- **A window that has shown something is dormant only after a close.** -/
theorem dormant_run (ins : List Input) : Dormant ((machine build).run ins).window →
    ∀ pre post, ins = pre ++ post →
      ((machine build).run pre).window.currentSessionId ≠ "" → .close ∈ post := by
  refine Machine.history_invariant
    (J := fun ins => Dormant ((machine build).run ins).window → ∀ pre post, ins = pre ++ post →
      ((machine build).run pre).window.currentSessionId ≠ "" → .close ∈ post)
    (fun _ pre post heq hs => ?_) (fun ins i ih hd pre post heq hs => ?_) ins
  · obtain ⟨rfl, rfl⟩ := List.append_eq_nil_iff.1 heq.symm
    exact absurd rfl hs
  · rcases List.eq_nil_or_concat post with rfl | ⟨post, j, rfl⟩
    · rw [List.append_nil] at heq
      exact absurd (heq ▸ hd.1) hs
    · have heq' : ins ++ [i] = (pre ++ post) ++ [j] := by simpa using heq
      obtain ⟨rfl, hij⟩ := List.append_inj' heq' rfl
      obtain rfl := List.singleton_inj.1 hij
      by_cases hi : i = .close
      · simp [hi]
      · rw [Machine.run_snoc] at hd
        have hmem := ih (dormant_of_step hd hi) pre post rfl hs
        simp [hmem]

/-- **The window shows what it answers.** In every run in which each
connection begins with the registration's reply: the window is visible
exactly while it has a session; its texts are then those of the story the
daemon told of this session on the connection in force; the process is never
about to end while it has one; and without one it is about to end, unless
every session it had was followed by a close of the window. -/
theorem shows_its_session (build : QJsonObject → PromptDisplayModel) (ins : List Input)
    (hf : FirstRegistered build ins) :
    let w := ((machine build).run ins).window
    (w.visible = true ↔ w.currentSessionId ≠ "") ∧
      (w.currentSessionId ≠ "" → ∃ story, (machine build).observe listen none ins = some story ∧
        w.currentSessionId = story.session ∧ w.face = story.face build) ∧
      (w.idleExitTimer = true → w.currentSessionId = "") ∧
      (w.currentSessionId = "" → w.idleExitTimer = false → ∀ pre post, ins = pre ++ post →
        ((machine build).run pre).window.currentSessionId ≠ "" → .close ∈ post) := by
  have hshows := shows_run ins hf
  refine ⟨hshows.visible, fun hs => ?_, hshows.idle, fun hs hi => dormant_run ins ⟨hs, hi⟩⟩
  obtain ⟨story, hheard, htells⟩ := hshows.story hs
  exact ⟨story, hheard, htells.currentSessionId, htells.face⟩

/-- After a message has been read the next one is not the first. -/
theorem FirstRegistered.message {msg : QJsonObject}
    (h : FirstRegistered build (ins ++ [.message msg])) (msg' : QJsonObject) :
    FirstRegistered build (ins ++ [.message msg] ++ [.message msg']) := by
  refine h.snoc fun _ _ hsince => ?_
  rcases Machine.since_snoc.1 hsince with ⟨hc, -⟩ | ⟨-, hh⟩
  · cases hc
  · exact absurd trivial hh

/-- The prompt of a session that is updated is the one that is shown. -/
theorem shows_its_session_updated :
    let build : QJsonObject → PromptDisplayModel :=
      fun event => { prompt := (event.value "prompt").toString }
    let ins : List Input :=
      [.connected, .message registeredMessage, .message createdMessage,
        .message [("type", "session.updated"), ("id", "s"), ("prompt", "PIN:")]]
    ((machine build).run ins).window.promptLabel = "PIN:" ∧
      ∃ story, (machine build).observe listen none ins = some story ∧
        ((machine build).run ins).window.face = story.face build := by
  intro build ins
  have h₀ : FirstRegistered build [] := by
    intro pre msg hp
    have := List.prefix_nil.1 hp
    simp at this
  have h₁ : FirstRegistered build [.connected, .message registeredMessage] :=
    (h₀.snoc (i := .connected) fun _ h => by cases h).snoc
      (i := .message registeredMessage) fun _ h _ => by cases h; decide
  have h₂ := @FirstRegistered.message build [.connected] _ h₁ createdMessage
  have hf : FirstRegistered build ins :=
    @FirstRegistered.message build [.connected, .message registeredMessage] _ h₂ _
  refine ⟨by decide, ?_⟩
  obtain ⟨story, hheard, -, hface⟩ := (shows_its_session build ins hf).2.1 (by decide)
  exact ⟨story, hheard, hface⟩

end FallbackUi

end BbAuth
