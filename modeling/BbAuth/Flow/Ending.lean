import BbAuth.Flow.Owner
/-!
# What a polkit session is closed with

A polkit session is closed in the step that ends its request, with success
where authorization was gained and with `cancelled` everywhere else. The
third result, `error`, is never written for it: a request whose last
attempt failed is reported like a cancelled one.
-/

namespace BbAuth

/-- The results tell the endings apart. -/
theorem Ending.result_injective {e e' : Ending}
    (h : Session.resultToString e.result = Session.resultToString e'.result) : e = e' := by
  revert h
  cases e <;> cases e' <;> decide

namespace PolkitListener

variable (W : World) {l : PolkitListener} (a : Agent) {c : String} {call : Call}

/-- **The last attempt fails**: the session is closed as cancelled. -/
theorem Healthy.life_of_failed (w : l.Healthy) (he : l.ending c call = some .failed) :
    (PolkitListener.call W (l, a) call).2.life c = (a.life c).closed .cancelled := by
  cases call with
  | completed session gained =>
      simp only [ending, Option.bind_eq_some_iff] at he
      obtain ⟨st, ⟨h, hs, hst⟩, he⟩ := he
      split_ifs at he with hc hg hlt
      · cases he
      have hg' : gained = false := by simpa using hg
      rw [ne_eq, not_not] at hc
      subst hg' hc
      simp only [PolkitListener.call, PolkitListener.onSessionCompleted,
        PolkitListener.withState, hs, hst, Bool.not_false, if_true]
      set st' : SessionState := { st with gainedAuth := false, errorText := "Authentication failed" }
      have hst' : (l.setState h st').states.lookup h = some st' := by simp [lookup_setState]
      rw [life_finishAuth W _ hst' (w.idle h st hst).inProgress fun hr => hlt hr.2.2,
        if_pos rfl, Agent.life_onSessionRetry]
      rfl
  | cancelPending cookie =>
      simp only [ending] at he
      split_ifs at he
      cases he
  | cancelAuthentication => simp [ending] at he
  | _ => cases he

end PolkitListener

namespace Daemon

variable (W : World) {d : Daemon} {i : Input} {c : String} {f : Flow}

/-- **Why the polkit request of `c` ends with this input**, if it does. -/
def ending (d : Daemon) (c : String) (i : Input) : Option Ending :=
  (d.listenerCall? i).bind (d.listener.ending c)

/-- The results the session `c` was closed with between two states. -/
def closedWith (d d' : Daemon) (c : String) : List QJsonValue :=
  (d'.agent.life c).closings.drop (d.agent.life c).closings.length

/-- **Every close of a polkit session says why its request ended**: with
success where authorization was gained, with `cancelled` where the request
was cancelled, with `error` where its attempts failed. -/
def FaithfulOutcome (W : World) (ins : List Input) : Prop :=
  ∀ pre i c, pre ++ [i] <+: ins → IsOpen c .polkit ((machine W).run pre) →
    ∀ r ∈ closedWith ((machine W).run pre) ((machine W).run (pre ++ [i])) c,
      (∃ e, ((machine W).run pre).ending c i = some e) ∧
        ∀ e : Ending, r = .string (Session.resultToString e.result) ↔
          ((machine W).run pre).ending c i = some e

/-- **No open polkit request ends because its attempts failed.** -/
def EndsUnfailed (d : Daemon) (i : Input) : Prop :=
  ∀ c, IsOpen c .polkit d → d.ending c i ≠ some .failed

variable {W}

theorem closedWith_of_eq {d' : Daemon} (h : d'.agent.life c = d.agent.life c) :
    closedWith d d' c = [] := by
  simp [closedWith, h]

theorem closedWith_of_closed {d' : Daemon} {r : Session.Result} {source : Session.Source}
    (hs : IsOpen c source d) (h : d'.agent.life c = (d.agent.life c).closed r) :
    closedWith d d' c = [.string (Session.resultToString r)] := by
  have hs' : (d.agent.life c).source = some source := hs
  simp [closedWith, h, Life.closed, hs']

/-- **An open polkit session** is left alone, or closed by the listener. -/
theorem FlowStep.life_of_polkit (h : FlowStep W d c i f) (hsane : (d.flow c).Sane c)
    (hs : (d.flow c).life.source = some .polkit) :
    f.life = (d.flow c).life ∨
      ∃ r call, d.listenerCall? i = some call ∧ d.listener.Reported c call r ∧
        f.life = (d.flow c).life.closed r := by
  have hkeyring : (d.flow c).keyring = none := by
    cases hk : (d.flow c).keyring with
    | none => rfl
    | some r =>
        have := hsane.keyring (by simp [hk])
        rw [hs] at this
        cases this
  have hclosed : ∀ r, ((d.flow c).pinentryClosed r).life = (d.flow c).life := by
    intro r
    simp [Flow.pinentryClosed, hs]
  cases h with
  | stay => exact .inl rfl
  | keyringRequest socket msg hm hc => exact .inl (Life.opened_of_some hs)
  | keyringEnd r hk => simp [hkeyring] at hk
  | pinentryRequest socket msg hm hc ho => exact .inl (Life.opened_of_some hs)
  | pinentryAnswer socket msg hm ha hc hk r hp => exact .inl rfl
  | pinentryResult socket msg hm hc ho hsrc r hr => exact .inl (hclosed r)
  | pinentryRetry socket msg hm hc ho hsrc hr => exact .inl rfl
  | pinentryEnd r hr => exact .inl (hclosed r)
  | disconnected socket hi =>
      have hk : (d.flow c).keyringLeft socket = d.flow c := by
        simp [Flow.keyringLeft, hkeyring]
      rw [hk, Flow.pinentryLeft]
      split
      · exact .inl (hclosed .cancelled)
      · exact .inl rfl
  | polkitRequest hsrc => exact .inl (by rw [hs] at hsrc; cases hsrc)
  | polkitEnd r hp hr =>
      obtain ⟨call, hi, hr⟩ := hr
      exact .inr ⟨r, call, hi, hr, rfl⟩

/-- **The close of an open polkit session**: the step ends its request,
and says so with two of the three results. -/
theorem closedWith_of_polkit (ins : List Input) (hs : IsOpen c .polkit ((machine W).run ins)) :
    closedWith ((machine W).run ins) ((machine W).run (ins ++ [i])) c = [] ∨
      ∃ e, ((machine W).run ins).ending c i = some e ∧
        closedWith ((machine W).run ins) ((machine W).run (ins ++ [i])) c =
          [.string (Session.resultToString (if e = .gained then .success else .cancelled))] := by
  rcases (flowStep_run W c ins i).life_of_polkit (sane_run W ins c) hs with
    hl | ⟨r, call, hi, ⟨e, he, rfl⟩, hl⟩
  · exact .inl (closedWith_of_eq hl)
  · exact .inr ⟨e, by rw [ending, hi, Option.bind_some, he], closedWith_of_closed hs hl⟩

/-- **A request that ends failed** is closed as cancelled. -/
theorem closedWith_of_failed (ins : List Input) (hs : IsOpen c .polkit ((machine W).run ins))
    (he : ((machine W).run ins).ending c i = some .failed) :
    closedWith ((machine W).run ins) ((machine W).run (ins ++ [i])) c = [.string "cancelled"] := by
  have hheap := heaped_run W ins
  have hrun : (machine W).run (ins ++ [i]) = ((machine W).run ins).step W i := Machine.run_snoc ..
  rw [hrun]
  generalize (machine W).run ins = d at hs he hheap ⊢
  obtain ⟨call, hcall, he'⟩ := Option.bind_eq_some_iff.1 he
  clear he
  refine closedWith_of_closed hs (r := .cancelled) ?_
  -- a failed end is a signal of polkit, which the daemon hands on unguarded
  cases call with
  | completed session gained =>
      have hsafe : d.listener.useAfterFree = false := by
        by_contra hsafe
        simp [listenerCall?, hsafe] at hcall
      have hi : i = .completed session gained := by
        simp only [listenerCall?, hsafe, Bool.false_eq_true, if_false] at hcall
        split at hcall <;> try cases hcall
        · rfl
        · split at hcall <;> cases hcall
      subst hi
      have hstep : (d.step W (.completed session gained)).agent =
          (PolkitListener.call W (d.listener, d.agent) (.completed session gained)).2 := by
        simp [step, hsafe, handle, withListener, PolkitListener.call]
      rw [hstep]
      exact (hheap hsafe).1.life_of_failed W d.agent he'
  | cancelPending cookie =>
      simp only [PolkitListener.ending] at he'
      split_ifs at he'
      cases he'
  | cancelAuthentication => simp [PolkitListener.ending] at he'
  | _ => cases he'

/-- **A run's polkit sessions are closed faithfully exactly when none of
their requests ends because its attempts failed.** -/
theorem faithfulOutcome_iff (W : World) (ins : List Input) :
    FaithfulOutcome W ins ↔ (machine W).Meets EndsUnfailed ins := by
  constructor
  · intro h pre i hp c hs hfailed
    have hr := closedWith_of_failed pre hs hfailed
    obtain ⟨-, hr⟩ := h pre i c hp hs (.string "cancelled") (by rw [hr]; exact List.mem_cons_self)
    have hcancelled := (hr .cancelled).1 rfl
    rw [hfailed] at hcancelled
    cases hcancelled
  · intro h pre i c hp hs r hr
    rcases closedWith_of_polkit pre hs with hn | ⟨e, he, heq⟩
    · rw [hn] at hr
      cases hr
    rw [heq, List.mem_singleton] at hr
    have hne : e ≠ .failed := by
      rintro rfl
      exact h pre i hp c hs he
    have hres : (if e = .gained then Session.Result.success else .cancelled) = e.result := by
      cases e with
      | gained => rfl
      | cancelled => rfl
      | failed => exact absurd rfl hne
    rw [hres] at hr
    refine ⟨⟨e, he⟩, fun e' => ?_⟩
    rw [hr, he]
    constructor
    · intro hstr
      exact congrArg some (Ending.result_injective (QJsonValue.string.inj hstr))
    · rintro ⟨⟩
      rfl

/-- Three failed attempts: the session is closed as cancelled. -/
theorem not_faithfulOutcome_of_three_failures :
    ¬ ∀ (W : World) (ins : List Input), FaithfulOutcome W ins := by
  intro h
  let W := World.plain (fun _ => 0) false
  let pre : List Input :=
    [.initiateAuthentication "action" "message" "icon" [] "c" ["user"],
      .completed 0 false, .completed 1 false]
  have hopen : IsOpen "c" .polkit ((machine W).run pre) := by
    unfold IsOpen
    decide
  have hfailed : ((machine W).run pre).ending "c" (.completed 2 false) = some .failed := by
    decide
  obtain ⟨-, hr⟩ := h W (pre ++ [.completed 2 false]) pre (.completed 2 false) "c"
    List.prefix_rfl hopen (.string "cancelled") <| by
      rw [closedWith_of_failed pre hopen hfailed]
      exact List.mem_cons_self
  have hcancelled := (hr .cancelled).1 rfl
  rw [hfailed] at hcancelled
  cases hcancelled

end Daemon

end BbAuth
