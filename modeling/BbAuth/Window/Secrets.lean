import BbAuth.Window.Turn
/-!
# Where typed text goes

What the window remembers of a session is spread over its widgets: the
line, whether a confirmation is asked for, whether an empty answer will
do. `Note` is what somebody notes who watches the events, the keys and how
far the line's history goes back. The window's widgets agree with the note
in every state, so a response is addressed to the session displayed. The
line is one for all sessions, and what was cleared for a new one can still
be undone: only as long as no undo or redo reaches back that far is a
response made of nothing but what was entered since.
-/

namespace BbAuth

namespace FallbackWindow

/-- **What is noted of the session displayed last**: how it was created,
whether the last display model built for it allows an empty response, what
was entered since, and how many of the line's undos and redos date from
before. -/
structure Note where
  session : String := ""
  confirmOnly : Bool := false
  allowsEmpty : Bool := false
  entered : List Edit := []
  undos : ℕ := 0
  redos : ℕ := 0

/-- The note, where the line is `l`: what it has lost of its history is not
there to be brought back. -/
def Note.left (n : Note) (l : LineEdit) : Note :=
  { n with undos := min n.undos l.undos.length, redos := min n.redos l.redos.length }

variable (build : QJsonObject → PromptDisplayModel)

/-- What an input adds to the note. Nothing is entered while the line is
disabled. -/
def takeNote (n : Note) (w : FallbackWindow) (i : Input) : Note :=
  let line := (w.step build i).input
  match i with
  | .signal (.sessionCreated event) =>
    if (event.value "id").toString = "" then n.left line
    else
      { session := (event.value "id").toString
        confirmOnly := ((event.value "context").toObject.value "confirmOnly").toBool
        allowsEmpty := (build event).allowEmptyResponse
        undos := line.undos.length
        redos := line.redos.length }
  | .signal (.sessionUpdated event) =>
    if (event.value "id").toString = "" ∨ (event.value "id").toString ≠ w.currentSessionId then
      n.left line
    else { n.left line with allowsEmpty := (build (w.mergedEvent event)).allowEmptyResponse }
  | .edit e => if w.busy then n.left line else { n.left line with entered := n.entered ++ [e] }
  | _ => n.left line

/-- The line after some edits of an empty one. -/
def typed (edits : List Edit) : String := edits.foldl Edit.apply ""

/-- **The text is made of what was entered** since the session was
displayed: of some of these edits, in their order, from an empty line on. -/
def Note.Made (n : Note) (text : String) : Prop :=
  ∃ edits, edits.Sublist n.entered ∧ text = typed edits

/-- **The input reaches back** beyond the display of the session: an undo,
while the text is shown, of more than was done since, or a redo of more
than was undone since. -/
def reachesBack (n : Note) (w : FallbackWindow) : Input → Bool
  | .undo edits => !w.busy && w.showPassword && decide (w.input.undos.length - edits < n.undos)
  | .redo edits => !w.busy && decide (w.input.redos.length - edits < n.redos)
  | _ => false

/-- **No input of the run reaches back.** -/
def NeverReachesBack (build : QJsonObject → PromptDisplayModel) (ins : List Input) : Prop :=
  ((machine build).watched (takeNote build) {}).Meets (fun x i => reachesBack x.1 x.2 i = false) ins

/-! ## The widgets agree with the note -/

/-- **The window's widgets agree with the note.** -/
structure Remembers (n : Note) (w : FallbackWindow) : Prop where
  session : w.currentSessionId ≠ "" → n.session = w.currentSessionId
  confirmOnly : w.currentSessionId ≠ "" → w.confirmOnly = n.confirmOnly
  allowsEmpty : w.currentSessionId ≠ "" → w.confirmOnly = false →
    w.allowEmptyResponse = n.allowsEmpty

variable {build} {n : Note} {w w' : FallbackWindow} {i : Input} {l : LineEdit}

/-- Neither the history nor what is entered matters. -/
theorem Remembers.left (h : Remembers n w) (l : LineEdit) : Remembers (n.left l) w :=
  ⟨h.session, h.confirmOnly, h.allowsEmpty⟩

/-- **An input that displays nothing** leaves what the widgets agree on. -/
theorem Remembers.takeNote (h : Remembers n w')
    (hc : ∀ event, i = .signal (.sessionCreated event) → (event.value "id").toString = "")
    (hu : ∀ event, i = .signal (.sessionUpdated event) →
      (event.value "id").toString = "" ∨ (event.value "id").toString ≠ w.currentSessionId) :
    Remembers (takeNote build n w i) w' := by
  unfold FallbackWindow.takeNote
  dsimp only
  split
  next event => rw [if_pos (hc event rfl)]; exact h.left _
  next event => rw [if_pos (hu event rfl)]; exact h.left _
  · split
    · exact h.left _
    · exact ⟨h.session, h.confirmOnly, h.allowsEmpty⟩
  · exact h.left _

/-- **The line holds what was entered**, and so does its history as far as
it was made since the session was displayed. -/
def Recorded (n : Note) (l : LineEdit) : Prop := Undoable.Holds n.Made n.undos n.redos l

theorem made_empty : n.Made "" := ⟨[], List.nil_sublist _, rfl⟩

/-- One more edit of what was entered. -/
theorem Note.Made.edit {text : String} (h : n.Made text) (e : Edit) :
    Note.Made { n with entered := n.entered ++ [e] } (e.apply text) := by
  obtain ⟨edits, hsub, rfl⟩ := h
  refine ⟨edits ++ [e], hsub.append (List.Sublist.refl _), ?_⟩
  simp [typed, List.foldl_append]

/-- What was made before is made of no less. -/
theorem Note.Made.more {text : String} (h : n.Made text) (e : Edit) :
    Note.Made { n with entered := n.entered ++ [e] } text := by
  obtain ⟨edits, hsub, rfl⟩ := h
  exact ⟨edits, hsub.trans (List.sublist_append_left _ _), rfl⟩

/-- **A clearing** is a change, or nothing. -/
theorem holds_clear {P : String → Prop} {u r : ℕ} (h : Undoable.Holds P u r l) (h0 : P "") :
    ∃ k ≤ r, Undoable.Holds P u k l.clear := by
  unfold LineEdit.clear
  split
  · exact ⟨r, Nat.le_refl _, h⟩
  · exact ⟨0, Nat.zero_le _, h.change h0⟩

/-- **What a turn does to the line**: nothing, or it is cleared, or the user
edits it. -/
theorem Turn.line (ht : Turn build w i w') :
    w'.input = w.input ∨ w'.input = w.input.clear ∨ w.busy = false ∧ w.Edits i w'.input := by
  cases ht with
  | alike hi ha => exact .inl ha.input
  | edited line hb hl ha => exact .inr (.inr ⟨hb, (ha.input : w'.input = line) ▸ hl⟩)
  | submitted hb hs he ha =>
      have hline : w'.input = if w.confirmOnly then w.input else w.input.clear := ha.input
      rw [hline]
      split
      · exact .inl rfl
      · exact .inr (.inl rfl)
  | cancelling hi hs ha => exact .inl ha.input
  | cleared hs hi ha => exact .inr (.inl ha.input)
  | shut hs ha => exact .inr (.inl ha.input)
  | timedOut htimer ha =>
      refine .inl (ha.input.trans ?_)
      split <;> rfl
  | dismissed timer d hd hc ha => exact .inr (.inl ha.input)
  | lapsed timer d hd hc hne heq => exact .inl (heq ▸ rfl)
  | disconnected ha => exact .inl ha.input
  | active hs ha => exact .inl ha.input
  | created event hid ha => exact .inr (.inl ha.input)
  | updated event hs hid ha => exact .inl ha.input
  | succeeded event hs hid ha => exact .inl ha.input
  | failed event hs hid ha => exact .inl ha.input

/-- **An input that displays no session** leaves the line recorded, where
the line is as far as it was noted before. -/
theorem recorded_takeNote
    (hc : ∀ event, i = .signal (.sessionCreated event) → (event.value "id").toString = "")
    (h : ∃ k ≤ n.redos, Undoable.Holds (takeNote build n w i).Made n.undos k
      (w.step build i).input) :
    Recorded (takeNote build n w i) (w.step build i).input := by
  obtain ⟨k, hk, h⟩ := h
  have hlimit := h.limit (Nat.le_refl n.undos) hk
  have hfields : (takeNote build n w i).undos = (n.left (w.step build i).input).undos ∧
      (takeNote build n w i).redos = (n.left (w.step build i).input).redos := by
    unfold takeNote
    dsimp only
    split
    next event => rw [if_pos (hc event rfl)]; exact ⟨rfl, rfl⟩
    · split <;> exact ⟨rfl, rfl⟩
    · split <;> exact ⟨rfl, rfl⟩
    · exact ⟨rfl, rfl⟩
  rw [Recorded, hfields.1, hfields.2]
  exact hlimit

/-- **A display empties the line**, and its history is of before. -/
theorem recorded_created {event : QJsonObject} (hid : (event.value "id").toString ≠ "") :
    Recorded (takeNote build n w (.signal (.sessionCreated event)))
      (w.step build (.signal (.sessionCreated event))).input := by
  have hline : (w.step build (.signal (.sessionCreated event))).input = w.input.clear := by
    simp only [step, onSignal, onSessionCreated, if_neg hid]
    rfl
  have hempty : w.input.clear.value = "" := by
    unfold LineEdit.clear
    split
    · assumption
    · rfl
  simp only [takeNote, if_neg hid]
  refine Undoable.holds_of_value ?_
  rw [hline, hempty]
  exact made_empty

/-- An input that displays no session takes nothing from what was entered. -/
theorem made_takeNote
    (hc : ∀ event, i = .signal (.sessionCreated event) → (event.value "id").toString = "")
    (text : String) (ht : n.Made text) : (takeNote build n w i).Made text := by
  unfold takeNote
  dsimp only
  split
  next event => rw [if_pos (hc event rfl)]; exact ht
  · split <;> exact ht
  · split
    · exact ht
    · exact ht.more _
  · exact ht

/-- **One step keeps the line recorded**, unless it reaches back. -/
theorem recorded_step (hr : reachesBack n w i = false) (h : Recorded n w.input) :
    Recorded (takeNote build n w i) (w.step build i).input := by
  by_cases hnew : ∃ event, i = .signal (.sessionCreated event) ∧ (event.value "id").toString ≠ ""
  · obtain ⟨event, rfl, hid⟩ := hnew
    exact recorded_created hid
  have hc : ∀ event, i = .signal (.sessionCreated event) → (event.value "id").toString = "" :=
    fun event he => by_contra fun hid => hnew ⟨event, he, hid⟩
  have h' : Undoable.Holds (takeNote build n w i).Made n.undos n.redos w.input :=
    h.mono (made_takeNote hc)
  refine recorded_takeNote hc ?_
  -- a clearing is one more change of the history, so what it can bring back is
  -- recorded if what it takes away is
  rcases (turn_step build w i).line with hline | hline | ⟨hb, hline⟩
  · exact ⟨n.redos, Nat.le_refl _, hline ▸ h'⟩
  · exact hline ▸ holds_clear h' made_empty
  · generalize (w.step build i).input = line at hline
    cases hline with
    | edit e =>
        refine ⟨0, Nat.zero_le _, h'.change ?_⟩
        simp only [takeNote, hb, Bool.false_eq_true, if_false]
        exact h.value.edit e
    | undo edits =>
        unfold LineEdit.undo
        split
        · exact ⟨n.redos, Nat.le_refl _, h'⟩
        · split
          -- only where the text is shown does an undo go back in the history
          next hecho =>
            simp only [reachesBack, hb, hecho, Bool.not_false, Bool.true_and,
              decide_eq_false_iff_not, Nat.not_lt] at hr
            exact ⟨n.redos, Nat.le_refl _, h'.iterate_back hr⟩
          · exact holds_clear h' made_empty
    | redo edits =>
        simp only [reachesBack, hb, Bool.not_false, Bool.true_and, decide_eq_false_iff_not,
          Nat.not_lt] at hr
        exact ⟨n.redos, Nat.le_refl _, h'.iterate_forth hr⟩

/-- **In every state of a run that does not reach back the line holds what
was entered.** -/
theorem recorded_run {ins : List Input} (h : NeverReachesBack build ins) :
    Recorded ((machine build).observe (takeNote build) {} ins) ((machine build).run ins).input := by
  have hinit : Recorded {} ({} : FallbackWindow).input :=
    Undoable.holds_of_value (u := ({} : FallbackWindow).input) made_empty
  have hinv := Machine.invariant_of_meets (M := (machine build).watched (takeNote build) {})
    (I := fun x : Note × FallbackWindow => Recorded x.1 x.2.input) hinit
    (fun x i hx hr => recorded_step hr hx) ins h
  rwa [Machine.run_watched] at hinv

/-! ## What is sent -/

end FallbackWindow

end BbAuth
