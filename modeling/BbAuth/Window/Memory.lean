import BbAuth.Window.Dismissals
/-!
# What the window forgets

The daemon may have any number of sessions open; the window displays one,
the one created last. `Bookkeeper` keeps the open sessions as the events
tell them. The window displays an open session exactly while the session
created last stands: when it ends, by its close or by a dismissal, nothing
brings back the ones before it.
-/

namespace BbAuth

namespace FallbackWindow

/-- The input closes the session `s`. -/
def Closes (s : String) (i : Input) : Prop :=
  ∃ event, i = .signal (.sessionClosed event) ∧ (event.value "id").toString = s

/-- What an input does to the list of the open sessions. -/
def book (sessions : List String) : Input → List String
  | .signal (.sessionCreated event) =>
    if (event.value "id").toString = "" then sessions else (event.value "id").toString :: sessions
  | .signal (.sessionClosed event) => sessions.filter fun s => s ≠ (event.value "id").toString
  | _ => sessions

/-- **Who keeps the open sessions**, as the events tell them. -/
def bookkeeper : Machine (List String) Input where
  init := []
  step := book

/-- **The grammar of the session events**: a session is created under a
name that is not in use, and updated and closed while it is open. -/
def Allowed (sessions : List String) : Input → Prop
  | .signal (.sessionCreated event) =>
    (event.value "id").toString ≠ "" ∧ (event.value "id").toString ∉ sessions
  | .signal (.sessionUpdated event) | .signal (.sessionClosed event) =>
    (event.value "id").toString ∈ sessions
  | _ => True

/-- The user neither cancels nor closes the window, and the provider stays
active and connected. -/
def Undisturbed : Input → Prop
  | .cancelButton _ | .cancelShortcut _ | .close => False
  | .signal (.providerStateChanged active) => active = true
  | .signal (.connectionStateChanged connected) => connected = true
  | _ => True

/-- **The window never forgets an open session.** Once all dismissals have
fired, it displays an open session if there is one. -/
def NeverForgets (build : QJsonObject → PromptDisplayModel) (ins : List Input) : Prop :=
  let w := (machine build).run ins
  w.dismissals = [] → bookkeeper.run ins ≠ [] → w.currentSessionId ∈ bookkeeper.run ins

/-- **What ends the display of `s`, or `s` itself**: the creation of another
session, its close, and a dismissal that is its own or comes after a
success. -/
def Ends (s : String) (w : FallbackWindow) : Input → Prop
  | .signal (.sessionCreated event) =>
    (event.value "id").toString ≠ "" ∧ (event.value "id").toString ≠ s
  | .signal (.sessionClosed event) => (event.value "id").toString = s
  | .dismissal timer =>
    ∃ d, w.dismissals.find? (fun d => d.timer = timer) = some d ∧
      (d.afterSuccess = true ∨ d.session = s)
  | _ => False

/-- The session `s` was created, and nothing has ended it since. -/
def Stands (build : QJsonObject → PromptDisplayModel) (s : String) (ins : List Input) : Prop :=
  (machine build).Since (fun _ => Creates s) (Ends s) ins

/-- **Once all dismissals have fired, the session created last stands**, if
any session is open. -/
def LastStands (build : QJsonObject → PromptDisplayModel) (ins : List Input) : Prop :=
  ((machine build).run ins).dismissals = [] → bookkeeper.run ins ≠ [] →
    ∃ s, Stands build s ins

variable {build : QJsonObject → PromptDisplayModel} {w : FallbackWindow} {i : Input}
variable {s : String} {sessions : List String} {ins : List Input}

/-! ## The bookkeeper -/

/-- **A session is in the book** if it was created, or was there and is not
closed. -/
theorem mem_book : s ∈ book sessions i ↔ Creates s i ∨ (s ∈ sessions ∧ ¬ Closes s i) := by
  unfold book
  split
  next event =>
    have hopen : ¬ Closes s (.signal (.sessionCreated event)) := by
      rintro ⟨event', h, -⟩
      cases h
    split
    next hid =>
      refine ⟨fun h => .inr ⟨h, hopen⟩, ?_⟩
      rintro (⟨hs, event', heq, hname⟩ | ⟨h, -⟩)
      · cases heq
        exact absurd (hname.symm.trans hid) hs
      · exact h
    next hid =>
      rw [List.mem_cons]
      refine ⟨?_, ?_⟩
      · rintro (rfl | h)
        · exact .inl ⟨hid, event, rfl, rfl⟩
        · exact .inr ⟨h, hopen⟩
      · rintro (⟨-, event', heq, hname⟩ | ⟨h, -⟩)
        · cases heq
          exact .inl hname.symm
        · exact .inr h
  next event =>
    have hcr : ¬ Creates s (.signal (.sessionClosed event)) := by
      rintro ⟨-, event', h, -⟩
      cases h
    rw [List.mem_filter, decide_eq_true_eq]
    refine ⟨fun h => .inr ⟨h.1, ?_⟩, fun h => ?_⟩
    · rintro ⟨event', heq, hname⟩
      cases heq
      exact h.2 hname.symm
    · obtain ⟨hmem, hcl⟩ := h.resolve_left hcr
      exact ⟨hmem, fun hname => hcl ⟨event, rfl, hname.symm⟩⟩
  next hcr hcl =>
    refine ⟨fun h => .inr ⟨h, fun ⟨event, heq, _⟩ => hcl event heq⟩, ?_⟩
    rintro (⟨-, event, heq, -⟩ | ⟨h, -⟩)
    · exact absurd heq (hcr event)
    · exact h

/-! ## The display of one session -/

/-- A creation displays its session. -/
theorem current_of_creates (h : Creates s i) : (w.step build i).currentSessionId = s := by
  obtain ⟨hs, event, rfl, rfl⟩ := h
  simp only [step, onSignal, onSessionCreated, if_neg hs]
  rfl

/-- **What ends a session leaves it off the display**, but for a close that
is shown for a while. -/
theorem current_ne_of_ends (h : Ends s w i) (hs : s ≠ "") (hc : ¬ Closes s i) :
    (w.step build i).currentSessionId ≠ s := by
  unfold Ends at h
  split at h
  next event =>
    rw [current_of_creates ⟨h.1, event, rfl, rfl⟩]
    exact h.2
  next event => exact absurd ⟨event, rfl, h⟩ hc
  next timer =>
    obtain ⟨d, hd, hfor⟩ := h
    cases turn_onDismissal build w timer with
    | alike hi ha =>
        simp only [Ignores] at hi
        rw [hd] at hi
        cases hi
    | edited line hb hl ha => cases hl
    | cancelling hi hs' ha => obtain ⟨_, hi | hi⟩ := hi <;> cases hi
    | cleared hs' hi ha => cases hi
    | dismissed timer e he hcl ha =>
        have hcur : (w.onDismissal timer).currentSessionId = "" := ha.currentSessionId
        change (w.onDismissal timer).currentSessionId ≠ s
        rw [hcur]
        exact hs.symm
    | lapsed timer e he hcl hne heq =>
        rw [he, Option.some.injEq] at hd
        subst hd
        have hsess : e.session = s := hfor.resolve_left (by rw [hcl]; decide)
        have hcur : (w.onDismissal timer).currentSessionId = w.currentSessionId := by
          rw [heq]
          rfl
        change (w.onDismissal timer).currentSessionId ≠ s
        rw [hcur, ← hsess]
        exact hne
  · exact h.elim

/-- **A session on display stays there** while nothing ends it and the user
and the connection leave the window alone. -/
theorem current_of_not_ends (hu : Undisturbed i) (hcur : w.currentSessionId = s)
    (he : ¬ Ends s w i) : (w.step build i).currentSessionId = s := by
  cases turn_step build w i with
  | alike hi ha => exact ha.currentSessionId.trans hcur
  | edited line hb hl ha => exact ha.currentSessionId.trans hcur
  | submitted hb hs he ha => exact ha.currentSessionId.trans hcur
  | cancelling hi hs ha => exact ha.currentSessionId.trans hcur
  | cleared hs hi ha =>
      cases hi with
      | closed hid hr => exact absurd (hid.trans hcur) he
      | inactive => cases hu
      | cancelButton hb => exact hu.elim
      | cancelShortcut hb => exact hu.elim
  | shut hs ha => exact hu.elim
  | timedOut htimer ha =>
      refine ha.currentSessionId.trans (Eq.trans ?_ hcur)
      split <;> rfl
  | dismissed timer d hd hc ha =>
      exact absurd ⟨d, hd, hc.imp_right fun h => h.symm.trans hcur⟩ he
  | lapsed timer d hd hc hne heq => exact (congrArg currentSessionId heq).trans hcur
  | disconnected ha => cases hu
  | active hs ha => exact ha.currentSessionId.trans hcur
  | created event hid ha =>
      refine (ha.currentSessionId : _ = (event.value "id").toString).trans ?_
      by_contra hne
      exact he ⟨hid, hne⟩
  | updated event hs hid ha => exact ha.currentSessionId.trans hcur
  | succeeded event hs hid ha => exact ha.currentSessionId.trans hcur
  | failed event hs hid ha => exact ha.currentSessionId.trans hcur

/-- **The session on display is open after a step** exactly when it was just
created, or was open and on display and is not ended. -/
theorem current_and_mem_book (hu : Undisturbed i) (hs : s ≠ "") :
    (w.step build i).currentSessionId = s ∧ s ∈ book sessions i ↔
      Creates s i ∨ ((w.currentSessionId = s ∧ s ∈ sessions) ∧ ¬ Ends s w i) := by
  rw [mem_book]
  constructor
  · rintro ⟨hcur, hnew | ⟨hmem, hcl⟩⟩
    · exact .inl hnew
    · rcases (turn_step build w i).current with hkept | hnone | hnew
      · exact .inr ⟨⟨hkept ▸ hcur, hmem⟩, fun he => current_ne_of_ends he hs hcl hcur⟩
      · exact absurd (hcur.symm.trans hnone) hs
      · exact .inl (hcur ▸ hnew)
  · rintro (hnew | ⟨⟨hcur, hmem⟩, he⟩)
    · exact ⟨current_of_creates hnew, .inl hnew⟩
    · refine ⟨current_of_not_ends hu hcur he, .inr ⟨hmem, fun hcl => he ?_⟩⟩
      obtain ⟨event, rfl, hname⟩ := hcl
      exact hname

/-- **In an undisturbed run a session stands exactly while it is on display
and open.** -/
theorem stands_iff (hs : s ≠ "") : ∀ ins : List Input, (∀ i ∈ ins, Undisturbed i) →
    (Stands build s ins ↔
      ((machine build).run ins).currentSessionId = s ∧ s ∈ bookkeeper.run ins) := by
  intro ins
  induction ins using List.reverseRecOn with
  | nil =>
      intro _
      exact ⟨fun h => absurd h Machine.not_since_nil, fun h => absurd h.1.symm hs⟩
  | append_singleton ins i ih =>
      intro hu
      have hins := ih fun j hj => hu j (List.mem_append_left _ hj)
      rw [Stands, Machine.since_snoc, Machine.run_snoc, Machine.run_snoc]
      rw [Stands] at hins
      rw [hins]
      exact (current_and_mem_book (hu i (by simp)) hs).symm

/-- The empty name is never in the book. -/
theorem empty_not_mem_book (ins : List Input) : "" ∉ bookkeeper.run ins := by
  refine Machine.invariant (M := bookkeeper) (I := fun sessions => "" ∉ sessions)
    List.not_mem_nil (fun sessions i h hm => ?_) ins
  rcases mem_book.1 hm with hnew | ⟨hm, -⟩
  · exact hnew.1 rfl
  · exact h hm

/-- **The window never forgets an open session** exactly when the session
created last stands whenever any is open. -/
theorem neverForgets_iff (build : QJsonObject → PromptDisplayModel) (ins : List Input)
    (hu : ∀ i ∈ ins, Undisturbed i) : NeverForgets build ins ↔ LastStands build ins := by
  constructor
  · intro h hd hopen
    have hmem := h hd hopen
    have hs : ((machine build).run ins).currentSessionId ≠ "" :=
      fun he => empty_not_mem_book ins (he ▸ hmem)
    exact ⟨_, (stands_iff hs ins hu).2 ⟨rfl, hmem⟩⟩
  · intro h hd hopen
    obtain ⟨s, hstands⟩ := h hd hopen
    have hs : s ≠ "" := by
      obtain ⟨pre, i, post, -, hcr, -⟩ := hstands
      exact hcr.1
    obtain ⟨hcur, hmem⟩ := (stands_iff hs ins hu).1 hstands
    exact hcur ▸ hmem

/-- Two sessions are open at once, and the first is closed: the second
stands, and is remembered. -/
theorem neverForgets_iff_of_last :
    let ins := [createdEvent "a", createdEvent "b", closedEvent "a" "cancelled"]
    (∀ i ∈ ins, Undisturbed i) ∧
      (NeverForgets (fun _ => {}) ins ↔ LastStands (fun _ => {}) ins) := by
  intro ins
  have hu : ∀ i ∈ ins, Undisturbed i := by
    intro i hi
    simp only [ins, List.mem_cons, List.not_mem_nil, or_false] at hi
    rcases hi with rfl | rfl | rfl <;> trivial
  exact ⟨hu, neverForgets_iff _ ins hu⟩

/-- Two sessions are created, the second is cancelled, and the window is
cleared while the first is open. -/
theorem not_neverForgets_of_two :
    let ins := [createdEvent "a", createdEvent "b", closedEvent "b" "cancelled"]
    bookkeeper.Meets Allowed ins ∧ (∀ i ∈ ins, Undisturbed i) ∧
      ¬ NeverForgets (fun _ => {}) ins := by
  refine ⟨?_, ?_, fun h => ?_⟩
  · have ha : bookkeeper.Meets Allowed [createdEvent "a"] :=
      (Machine.meets_snoc (i := createdEvent "a")).2 ⟨Machine.meets_nil, by decide, by decide⟩
    have hb : bookkeeper.Meets Allowed [createdEvent "a", createdEvent "b"] :=
      (Machine.meets_snoc (i := createdEvent "b")).2 ⟨ha, by decide, by decide⟩
    refine (Machine.meets_snoc (i := closedEvent "b" "cancelled")).2 ⟨hb, ?_⟩
    change "b" ∈ bookkeeper.run [createdEvent "a", createdEvent "b"]
    decide
  · intro i hi
    simp only [List.mem_cons, List.not_mem_nil, or_false] at hi
    rcases hi with rfl | rfl | rfl <;> trivial
  · exact absurd (h (by decide) (by decide)) (by decide)

end FallbackWindow

end BbAuth
