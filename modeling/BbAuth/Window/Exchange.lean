import BbAuth.Model.Desktop
import BbAuth.Provider.Regain
import BbAuth.Window.Display
/-!
# What the UI reads and writes

The fallback UI is told of a session by what it reads, and what it writes
of one is the answer to the session it shows. Both are said here of the UI
alone: the story that its window shows was read on the connection in force
(`tellsOf_listen`), and whatever the UI does of its own writes no answer but
to the session that is displayed (`deeds_own`).
-/

namespace BbAuth

open Agent

/-- The message answers a session. -/
def IsAnswer (json : QJsonObject) : Prop :=
  (json.value "type").toString = "session.respond" ∨
    (json.value "type").toString = "session.cancel"

namespace FallbackWindow

variable {build : QJsonObject → PromptDisplayModel} {w w' : FallbackWindow} {i : Input}

/-- The session the window asks about. -/
def Output.session : Output → String
  | .sendResponse id _ | .sendCancel id => id

/-- The message the client makes of it. -/
def Output.message : Output → QJsonObject
  | .sendResponse id response =>
    [("type", "session.respond"), ("id", id), ("response", response)]
  | .sendCancel id => [("type", "session.cancel"), ("id", id)]

theorem Output.value_id_message (o : Output) : (o.message.value "id").toString = o.session := by
  cases o <;> simp [message, session]

/-- **What the window asks for is about the session it displays.** -/
theorem Turn.asks (ht : Turn build w i w') {o : Output} (h : o ∈ w'.log.drop w.log.length) :
    w.currentSessionId ≠ "" ∧ o.session = w.currentSessionId := by
  have hsame : w'.log = w.log → False := by
    intro heq
    rw [heq, List.drop_length] at h
    cases h
  have hone : ∀ o', w'.log = w.log ++ [o'] → o = o' := by
    intro o' heq
    rwa [heq, List.drop_left, List.mem_singleton] at h
  cases ht with
  | submitted hb hs he ha => exact ⟨hs, by rw [hone _ ha.log]; rfl⟩
  | cancelling hi hs ha => exact ⟨hs, by rw [hone _ ha.log]; rfl⟩
  | shut hs ha => exact ⟨hs, by rw [hone _ ha.log]; rfl⟩
  | timedOut htimer ha =>
      refine (hsame ?_).elim
      rw [ha.log]
      split <;> rfl
  | lapsed timer d hd hc hne heq => exact (hsame (by rw [heq]; rfl)).elim
  | alike hi ha => exact (hsame ha.log).elim
  | edited line hb hl ha => exact (hsame ha.log).elim
  | cleared hs hi ha => exact (hsame ha.log).elim
  | dismissed timer d hd hc ha => exact (hsame ha.log).elim
  | disconnected ha => exact (hsame ha.log).elim
  | active hs ha => exact (hsame ha.log).elim
  | created event hid ha => exact (hsame ha.log).elim
  | updated event hs hid ha => exact (hsame ha.log).elim
  | succeeded event hs hid ha => exact (hsame ha.log).elim
  | failed event hs hid ha => exact (hsame ha.log).elim

/-- **The story is told by these messages.** -/
structure Story.TellsOf (story : Story) (ms : List QJsonObject) : Prop where
  created : story.created ∈ ms
  type : (story.created.value "type").toString = "session.created"
  updates : ∀ event ∈ story.updates, event ∈ ms ∧
    (event.value "type").toString = "session.updated" ∧
      (event.value "id").toString = story.session

theorem Story.TellsOf.mono {story : Story} {ms ms' : List QJsonObject} (h : story.TellsOf ms)
    (hms : ms ⊆ ms') : story.TellsOf ms' :=
  ⟨hms h.created, h.type, fun event he => ⟨hms (h.updates event he).1, (h.updates event he).2⟩⟩

end FallbackWindow

namespace FallbackClient

open FallbackWindow (Story)

variable {c c' : FallbackClient} {j msg : QJsonObject}

/-- A client that has connected is connected. -/
theorem connected_onConnected (c : FallbackClient) : c.onConnected.connected = true := by
  have hreset : ({ c with connected := true } : FallbackClient).resetConnection.connected = true :=
    (deeds_setProviderActive _ false).connected
  simp only [onConnected, registerProvider, subscribe]
  rw [sendJson_eq, sendJson_eq]
  exact hreset

/-- What a client that only subscribes has written is no answer. -/
theorem not_isAnswer_of_mem (h : Deeds (· = subscribeMessage) c c') (hj : j ∈ c.written c') :
    ¬ IsAnswer j := by
  obtain rfl := Deeds.of_mem_written h hj
  rintro (h | h) <;> exact absurd h (by decide)

/-- What a message tells is told by it. -/
theorem tellsOf_told {heard : Option Story} {story : Story} {ms : List QJsonObject}
    (h : ∀ story, heard = some story → story.TellsOf ms) (hs : told msg heard = some story) :
    story.TellsOf (ms ++ [msg]) := by
  have hmono : ms ⊆ ms ++ [msg] := List.subset_append_left _ _
  unfold told at hs
  split at hs
  next hc =>
    rw [FallbackWindow.hear] at hs
    split at hs
    · exact (h story hs).mono hmono
    · obtain rfl := Option.some.inj hs
      exact ⟨by simp, hc, by simp⟩
  · split at hs
    next hu =>
      obtain ⟨before, rfl, heq⟩ := Option.map_eq_some_iff.1 hs
      have hb := (h before rfl).mono hmono
      split at heq
      next hid =>
        subst heq
        refine ⟨hb.created, hb.type, fun event he => ?_⟩
        rcases List.mem_append.1 he with he | he
        · exact hb.updates event he
        · obtain rfl := List.mem_singleton.1 he
          exact ⟨by simp, hu, hid⟩
      · exact heq ▸ hb
    · exact (h story hs).mono hmono

end FallbackClient

namespace FallbackUi

open FallbackWindow FallbackClient

/-! ## What the UI has read -/

variable {build : QJsonObject → PromptDisplayModel} {i : Input}

/-- **What is read on the connection in force.** -/
def read (ms : List QJsonObject) (x : FallbackUi) : Input → List QJsonObject
  | .connected => if x.client.connected then ms else []
  | .disconnected => if x.client.connected then [] else ms
  | .message msg => if x.client.connected then ms ++ [msg] else ms
  | _ => ms

/-- Where a connection is made and nothing has been heard since, nothing
has been read. -/
theorem read_of_since (ins : List Input) : (machine build).Since Connects Hears ins →
    (machine build).observe read [] ins = [] := by
  refine Machine.history_invariant
    (J := fun ins => (machine build).Since Connects Hears ins →
      (machine build).observe read [] ins = []) (fun _ => rfl) (fun ins i ih hs => ?_) ins
  rw [Machine.observe_snoc]
  rcases Machine.since_snoc.1 hs with ⟨rfl, hc⟩ | ⟨hbefore, hh⟩
  · simp [read, hc]
  · cases i with
    | message msg => exact absurd trivial hh
    | disconnected => exact absurd trivial hh
    | connected =>
        rw [read]
        split
        · exact ih hbefore
        · rfl
    | _ => exact ih hbefore

/-- **The story that is heard was read**, on the connection in force. -/
theorem tellsOf_listen (ins : List Input) : ∀ story,
    (machine build).observe listen none ins = some story →
      story.TellsOf ((machine build).observe read [] ins) := by
  refine Machine.history_invariant
    (J := fun ins => ∀ story, (machine build).observe listen none ins = some story →
      story.TellsOf ((machine build).observe read [] ins)) nofun (fun ins i ih => ?_) ins
  rw [Machine.observe_snoc, Machine.observe_snoc]
  generalize (machine build).run ins = x at *
  intro story hs
  cases i with
  | connected =>
      cases hc : x.client.connected with
      | true => exact (by simpa [read, hc] using ih story (by simpa [listen, hc] using hs))
      | false => simp [listen, hc] at hs
  | disconnected =>
      cases hc : x.client.connected with
      | true => simp [listen, hc] at hs
      | false => exact (by simpa [read, hc] using ih story (by simpa [listen, hc] using hs))
  | message msg =>
      cases hc : x.client.connected with
      | false => exact (by simpa [read, hc] using ih story (by simpa [listen, hc] using hs))
      | true =>
          simp only [listen, hc, Bool.true_and] at hs
          rw [read, if_pos hc]
          split at hs
          · exact tellsOf_told ih hs
          · exact (ih story hs).mono (List.subset_append_left _ _)
  | _ => exact ih story hs

/-! ## What the UI writes -/

/-- The messages of what is asked for are sent, and nothing else. -/
theorem deeds_request {P : QJsonObject → Prop} (c : FallbackClient)
    {outputs : List FallbackWindow.Output} (h : ∀ o ∈ outputs, P o.message) :
    Deeds P c (outputs.foldl request c) := by
  induction outputs generalizing c with
  | nil => exact .refl
  | cons o outputs ih =>
      have hsent : Deeds P c (request c o) := by
        cases o with
        | sendResponse id response => exact deeds_sendJson c (h _ (List.mem_cons_self ..))
        | sendCancel id => exact deeds_sendJson c (h _ (List.mem_cons_self ..))
      exact hsent.trans (ih _ fun o ho => h o (List.mem_cons_of_mem _ ho))

/-- The message is no answer, or answers the displayed session. -/
def AnswersShown (w : FallbackWindow) (json : QJsonObject) : Prop :=
  IsAnswer json → w.currentSessionId ≠ "" ∧ (json.value "id").toString = w.currentSessionId

theorem deeds_withWindow (build : QJsonObject → PromptDisplayModel) (x : FallbackUi)
    (j : FallbackWindow.Input) :
    Deeds (AnswersShown x.window) x.client (x.withWindow build j).client := by
  refine deeds_request _ fun o ho _ => ?_
  obtain ⟨hs, hid⟩ := (turn_step build x.window j).asks ho
  exact ⟨hs, o.value_id_message.trans hid⟩

/-- **What the UI does of its own answers the displayed session**, and
leaves the connection as it is. -/
theorem deeds_own (build : QJsonObject → PromptDisplayModel) (x : FallbackUi)
    (hi : i.isOwn = true) :
    Deeds (AnswersShown x.window) x.client (x.step build i).client := by
  have hquiet : ∀ {json : QJsonObject}, (json.value "type").toString ≠ "session.respond" →
      (json.value "type").toString ≠ "session.cancel" → AnswersShown x.window json :=
    fun hr hc ha => absurd ha (not_or.2 ⟨hr, hc⟩)
  cases i with
  | connected | disconnected | message | invalidPayload => cases hi
  | subscribeWatchdog =>
      exact deeds_onSubscribeWatchdog x.client (hquiet (by decide) (by decide))
        fun _ => hquiet (by decide) (by decide)
  | heartbeatTimer =>
      exact deeds_onHeartbeatTimer x.client fun _ => hquiet (by simp) (by simp)
  | edit | undo | redo | toggle | submit | cancelButton | cancelShortcut | close | actionTimeout
  | dismissal =>
      exact deeds_withWindow build x _

end FallbackUi

end BbAuth
