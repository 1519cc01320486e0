import BbAuth.Window.Turn
import Mathlib.Data.List.Nodup
/-!
# Delayed dismissals

A close that is shown for a while leaves a timer behind, and nothing stops
it. What it may find when it fires: its own session still displayed, none,
or one created since (`Traced`). The timer of an error looks which of these
it is. The timer of a success does not look, and so closes the prompt of a
session that was created in the meantime.
-/

namespace BbAuth

namespace FallbackWindow

/-- The input displays a session called `s`. -/
def Creates (s : String) (i : Input) : Prop :=
  s ≠ "" ∧ ∃ event, i = .signal (.sessionCreated event) ∧ (event.value "id").toString = s

variable (build : QJsonObject → PromptDisplayModel)

/-- The input schedules the dismissal `d`. -/
def Schedules (d : Dismissal) (w : FallbackWindow) (i : Input) : Prop :=
  (w.step build i).dismissals = w.dismissals ++ [d]

/-- **The session `t` was created after the close that scheduled `d`.** -/
def CreatedSince (d : Dismissal) (t : String) (ins : List Input) : Prop :=
  ∃ pre closing post, ins = pre ++ closing :: post ∧
    Schedules build d ((machine build).run pre) closing ∧ ∃ i ∈ post, Creates t i

/-- **Every delayed dismissal is bound to its session.** While another
session is displayed, created after the close that scheduled the dismissal,
its firing changes nothing but that the timer is gone. Sessions are told
apart by their ids, as the window does it: one that is created under the id
of a closed one is the same session to the dismissal of that one, which may
still dismiss it. -/
def DismissalsBound (ins : List Input) : Prop :=
  ∀ pre timer, pre ++ [.dismissal timer] <+: ins →
    let w := (machine build).run pre
    ∀ d, w.dismissals.find? (fun d => d.timer = timer) = some d →
      w.currentSessionId ≠ "" → w.currentSessionId ≠ d.session →
        CreatedSince build d w.currentSessionId pre →
          (machine build).run (pre ++ [.dismissal timer]) = w.fired timer

/-- **No dismissal after a success fires on another session's prompt.** -/
def Spares (w : FallbackWindow) : Input → Prop
  | .dismissal timer =>
    ∀ d, w.dismissals.find? (fun d => d.timer = timer) = some d → d.afterSuccess = true →
      w.currentSessionId = "" ∨ w.currentSessionId = d.session
  | _ => True

variable {build} {w w' : FallbackWindow} {i : Input} {ins : List Input} {d : Dismissal}

/-! ## What a turn does to the session and to the dismissals -/

/-- **A session is displayed by its creation**, and stays until the window
is cleared or another one is created. -/
theorem Turn.current (ht : Turn build w i w') :
    w'.currentSessionId = w.currentSessionId ∨ w'.currentSessionId = "" ∨
      Creates w'.currentSessionId i := by
  cases ht with
  | alike hi ha => exact .inl ha.currentSessionId
  | edited line hb hl ha => exact .inl ha.currentSessionId
  | submitted hb hs he ha => exact .inl ha.currentSessionId
  | cancelling hi hs ha => exact .inl ha.currentSessionId
  | cleared hs hi ha => exact .inr (.inl ha.currentSessionId)
  | shut hs ha => exact .inr (.inl ha.currentSessionId)
  | timedOut htimer ha =>
      refine .inl (ha.currentSessionId.trans ?_)
      split <;> rfl
  | dismissed timer d hd hc ha => exact .inr (.inl ha.currentSessionId)
  | lapsed timer d hd hc hne heq => exact .inl (heq ▸ rfl)
  | disconnected ha => exact .inl ha.currentSessionId
  | active hs ha => exact .inl ha.currentSessionId
  | created event hid ha =>
      have hcur : w'.currentSessionId = (event.value "id").toString := ha.currentSessionId
      exact .inr (.inr ⟨hcur ▸ hid, event, rfl, hcur.symm⟩)
  | updated event hs hid ha => exact .inl ha.currentSessionId
  | succeeded event hs hid ha => exact .inl ha.currentSessionId
  | failed event hs hid ha => exact .inl ha.currentSessionId

/-- **What a turn does to the dismissals**: nothing, or one fires, or the
close of the displayed session, which stays displayed, schedules one. -/
theorem Turn.dismissals (ht : Turn build w i w') :
    (w'.dismissals.Sublist w.dismissals ∧ w'.nextTimer = w.nextTimer) ∨
      ∃ afterSuccess, w'.dismissals =
          w.dismissals ++ [⟨w.nextTimer, w.currentSessionId, afterSuccess⟩] ∧
        w'.nextTimer = w.nextTimer + 1 ∧ w'.currentSessionId = w.currentSessionId := by
  have hsame : w'.dismissals = w.dismissals → w'.nextTimer = w.nextTimer →
      w'.dismissals.Sublist w.dismissals ∧ w'.nextTimer = w.nextTimer :=
    fun hd hn => ⟨hd ▸ List.Sublist.refl _, hn⟩
  cases ht with
  | alike hi ha => exact .inl (hsame ha.dismissals ha.nextTimer)
  | edited line hb hl ha => exact .inl (hsame ha.dismissals ha.nextTimer)
  | submitted hb hs he ha => exact .inl (hsame ha.dismissals ha.nextTimer)
  | cancelling hi hs ha => exact .inl (hsame ha.dismissals ha.nextTimer)
  | cleared hs hi ha => exact .inl (hsame ha.dismissals ha.nextTimer)
  | shut hs ha => exact .inl (hsame ha.dismissals ha.nextTimer)
  | timedOut htimer ha =>
      refine .inl (hsame (ha.dismissals.trans ?_) (ha.nextTimer.trans ?_)) <;> split <;> rfl
  | dismissed timer d hd hc ha =>
      refine .inl ⟨?_, ha.nextTimer⟩
      rw [ha.dismissals]
      exact List.filter_sublist
  | lapsed timer d hd hc hne heq =>
      subst heq
      exact .inl ⟨List.filter_sublist, rfl⟩
  | disconnected ha => exact .inl (hsame ha.dismissals ha.nextTimer)
  | active hs ha => exact .inl (hsame ha.dismissals ha.nextTimer)
  | created event hid ha => exact .inl (hsame ha.dismissals ha.nextTimer)
  | updated event hs hid ha => exact .inl (hsame ha.dismissals ha.nextTimer)
  | succeeded event hs hid ha =>
      exact .inr ⟨true, ha.dismissals, ha.nextTimer, ha.currentSessionId⟩
  | failed event hs hid ha =>
      exact .inr ⟨false, ha.dismissals, ha.nextTimer, ha.currentSessionId⟩

/-! ## What an outstanding dismissal can find -/

variable (build) in
/-- **The session displayed is the dismissal's own, or was created since.** -/
def Traced (d : Dismissal) (ins : List Input) : Prop :=
  ∃ pre closing post, ins = pre ++ closing :: post ∧
    Schedules build d ((machine build).run pre) closing ∧
      (((machine build).run ins).currentSessionId = d.session ∨
        ((machine build).run ins).currentSessionId = "" ∨
          ∃ i ∈ post, Creates ((machine build).run ins).currentSessionId i)

/-- The close that schedules a dismissal leaves its session displayed. -/
theorem traced_new (hs : Schedules build d ((machine build).run ins) i)
    (hc : ((machine build).run (ins ++ [i])).currentSessionId = d.session) :
    Traced build d (ins ++ [i]) :=
  ⟨ins, i, [], rfl, hs, .inl hc⟩

/-- One more input shows the session that was shown, none, or a new one. -/
theorem Traced.snoc (h : Traced build d ins) (i : Input) : Traced build d (ins ++ [i]) := by
  obtain ⟨pre, closing, post, rfl, hs, hc⟩ := h
  refine ⟨pre, closing, post ++ [i], by simp, hs, ?_⟩
  rw [Machine.run_snoc]
  rcases (turn_step build ((machine build).run (pre ++ closing :: post)) i).current with
    hcur | hcur | hcur
  · change ((machine build).step _ i).currentSessionId = _ at hcur
    rw [hcur]
    refine hc.imp_right (Or.imp_right ?_)
    rintro ⟨j, hj, hcr⟩
    exact ⟨j, List.mem_append_left _ hj, hcr⟩
  · exact .inr (.inl hcur)
  · exact .inr (.inr ⟨i, List.mem_append_right _ (List.mem_singleton_self i), hcur⟩)

/-- **Every outstanding dismissal is traced** to the close that scheduled it. -/
theorem traced_run (build : QJsonObject → PromptDisplayModel) (ins : List Input) :
    ∀ d ∈ ((machine build).run ins).dismissals, Traced build d ins := by
  refine Machine.history_invariant
    (J := fun ins => ∀ d ∈ ((machine build).run ins).dismissals, Traced build d ins)
    (fun d hd => by cases hd) (fun ins i ih d hd => ?_) ins
  have hrun : (machine build).run (ins ++ [i]) = ((machine build).run ins).step build i :=
    Machine.run_snoc ..
  rcases (turn_step build ((machine build).run ins) i).dismissals with
    ⟨hsub, -⟩ | ⟨afterSuccess, hdis, -, hcur⟩
  · rw [hrun] at hd
    exact (ih d (hsub.subset hd)).snoc i
  · rw [hrun, hdis, List.mem_append, List.mem_singleton] at hd
    rcases hd with hd | rfl
    · exact (ih d hd).snoc i
    · exact traced_new hdis (by rw [hrun]; exact hcur)

/-- A session displayed that is not the dismissal's own was created since. -/
theorem Traced.createdSince (h : Traced build d ins)
    (hs : ((machine build).run ins).currentSessionId ≠ "")
    (hne : ((machine build).run ins).currentSessionId ≠ d.session) :
    CreatedSince build d ((machine build).run ins).currentSessionId ins := by
  obtain ⟨pre, closing, post, hins, hsch, hown | hnone | hnew⟩ := h
  · exact absurd hown hne
  · exact absurd hnone hs
  · exact ⟨pre, closing, post, hins, hsch, hnew⟩

/-! ## When a dismissal keeps to its session -/

/-- **The firing of a dismissal changes nothing while another session is
displayed** exactly when it comes after an error. -/
theorem onDismissal_eq_fired_iff {timer : ℕ}
    (hd : w.dismissals.find? (fun d => d.timer = timer) = some d)
    (hs : w.currentSessionId ≠ "") (hne : w.currentSessionId ≠ d.session) :
    w.onDismissal timer = w.fired timer ↔ d.afterSuccess = false := by
  unfold onDismissal
  rw [hd]
  dsimp only
  cases hsucc : d.afterSuccess with
  | false =>
      rw [if_neg (by decide), if_neg hne]
      exact ⟨fun _ => rfl, fun _ => rfl⟩
  | true =>
      rw [if_pos rfl]
      refine ⟨fun heq => ?_, fun h => by cases h⟩
      have hcleared := (alike_dismissSession (w.fired timer)).currentSessionId
      exact absurd ((congrArg currentSessionId heq).symm.trans hcleared) hs

/-- **Every delayed dismissal is bound to its session** exactly when each
one after a success fires on the prompt of its own session's id, or on
none. -/
theorem dismissalsBound_iff (build : QJsonObject → PromptDisplayModel) (ins : List Input) :
    DismissalsBound build ins ↔ (machine build).Meets Spares ins := by
  constructor
  · intro h pre i hp
    cases i with
    | dismissal timer =>
        intro d hd hsucc
        by_contra hother
        rw [not_or] at hother
        obtain ⟨hs, hne⟩ := hother
        have htr := (traced_run build pre d (List.mem_of_find?_eq_some hd)).createdSince hs hne
        have hfired := h pre timer hp d hd hs hne htr
        rw [Machine.run_snoc] at hfired
        have hfail := (onDismissal_eq_fired_iff hd hs hne).1 hfired
        rw [hsucc] at hfail
        cases hfail
    | _ => trivial
  · intro h pre timer hp w d hd hs hne _
    rw [Machine.run_snoc]
    refine (onDismissal_eq_fired_iff hd hs hne).2 ?_
    cases hsucc : d.afterSuccess with
    | false => rfl
    | true => exact ((h pre (.dismissal timer) hp d hd hsucc).elim hs hne).elim

/-- The event that a session called `id` was created. -/
def createdEvent (id : String) : Input := .signal (.sessionCreated [("id", .string id)])

/-- The event that the session called `id` was closed with `result`. -/
def closedEvent (id result : String) : Input :=
  .signal (.sessionClosed [("id", .string id), ("result", .string result)])

/-- A session succeeds, another one is created while the success is shown,
and the dismissal of the first clears the window. -/
theorem not_dismissalsBound_of_success :
    ¬ DismissalsBound (fun _ => {})
      [createdEvent "s", closedEvent "s" "success", createdEvent "t", .dismissal 0] := by
  intro h
  have hfired := h [createdEvent "s", closedEvent "s" "success", createdEvent "t"] 0
    List.prefix_rfl ⟨0, "s", true⟩ (by decide) (by decide) (by decide)
    ⟨[createdEvent "s"], closedEvent "s" "success", [createdEvent "t"], rfl, rfl,
      createdEvent "t", List.mem_singleton_self _, by decide, _, rfl, rfl⟩
  exact absurd (congrArg currentSessionId hfired) (by decide)

/-! ## Timers are told apart -/

/-- **No two outstanding dismissals share a timer**, and no timer is reused. -/
structure Timed (w : FallbackWindow) : Prop where
  nodup : (w.dismissals.map Dismissal.timer).Nodup
  fresh : ∀ d ∈ w.dismissals, d.timer < w.nextTimer

theorem Turn.timed (ht : Turn build w i w') (h : Timed w) : Timed w' := by
  rcases ht.dismissals with ⟨hsub, hnext⟩ | ⟨afterSuccess, hdis, hnext, -⟩
  · exact ⟨h.nodup.sublist (hsub.map _), fun d hd => hnext ▸ h.fresh d (hsub.subset hd)⟩
  · constructor
    · rw [hdis, List.map_append, List.nodup_append]
      refine ⟨h.nodup, List.nodup_singleton _, fun a ha b hb => ?_⟩
      obtain ⟨d, hd, rfl⟩ := List.mem_map.1 ha
      rw [List.map_singleton, List.mem_singleton] at hb
      exact hb ▸ (h.fresh d hd).ne
    · intro d hd
      rw [hdis, List.mem_append, List.mem_singleton] at hd
      rw [hnext]
      rcases hd with hd | rfl
      · have := h.fresh d hd
        omega
      · exact Nat.lt_succ_self _

theorem timed_run (build : QJsonObject → PromptDisplayModel) (ins : List Input) :
    Timed ((machine build).run ins) :=
  Machine.invariant ⟨List.nodup_nil, fun d hd => by cases hd⟩
    (fun w i h => (turn_step build w i).timed h) ins

/-- An outstanding dismissal is found by its timer. -/
theorem Timed.find? (h : Timed w) (hd : d ∈ w.dismissals) :
    w.dismissals.find? (fun e => e.timer = d.timer) = some d := by
  cases hf : w.dismissals.find? (fun e => e.timer = d.timer) with
  | none =>
      have := List.find?_eq_none.1 hf d hd
      simp at this
  | some e =>
      have htimer : e.timer = d.timer := by simpa using List.find?_some hf
      rw [List.inj_on_of_nodup_map h.nodup (List.mem_of_find?_eq_some hf) hd htimer]

end FallbackWindow

end BbAuth
