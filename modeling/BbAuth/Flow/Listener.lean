import BbAuth.Flow.State
import BbAuth.Polkit.Ending
/-!
# The listener, flow by flow

The listener knows a cookie exactly as long as its state lives, and
reports the end of a request in the step that deletes the state. So each
of its calls leaves the flow of an id alone, opens it, or ends it.
-/

namespace BbAuth

open Agent

namespace PolkitListener

variable (W : World) {l : PolkitListener} (a : Agent) {h : ℕ} {st : SessionState} (c : String)

/-- **The request of `c`, if any, goes on, or ends with a result in `R`**:
the listener and the agent know it no more at the same time. -/
def SettlesAs (R : Session.Result → Prop) (s s' : PolkitListener × Agent) : Prop :=
  s'.2.life c = s.2.life c ∧ s'.1.cookieToState.contains c = s.1.cookieToState.contains c ∨
    ∃ r, R r ∧ s.1.cookieToState.contains c = true ∧ s'.1.cookieToState.contains c = false ∧
      s'.2.life c = (s.2.life c).closed r

variable {c} {R R' : Session.Result → Prop}

theorem SettlesAs.mono {s s' : PolkitListener × Agent} (h : SettlesAs c R s s')
    (hR : ∀ r, R r → R' r) : SettlesAs c R' s s' := by
  rcases h with h | ⟨r, hr, h⟩
  · exact .inl h
  · exact .inr ⟨r, hR r hr, h⟩

theorem SettlesAs.refl (s : PolkitListener × Agent) : SettlesAs c R s s := .inl ⟨rfl, rfl⟩

theorem SettlesAs.trans {s s' s'' : PolkitListener × Agent} (h : SettlesAs c R s s')
    (h' : SettlesAs c R s' s'') : SettlesAs c R s s'' := by
  rcases h with ⟨hl, hc⟩ | ⟨r, hr, hc, hc', hl⟩ <;>
    rcases h' with ⟨hl', hd⟩ | ⟨r', hr', hd, hd', hl'⟩
  · exact .inl ⟨hl'.trans hl, hd.trans hc⟩
  · exact .inr ⟨r', hr', hc.symm.trans hd, hd', by rw [hl', hl]⟩
  · exact .inr ⟨r, hr, hc, hd.trans hc', by rw [hl', hl]⟩
  · -- a request that has ended does not end again
    rw [hc'] at hd
    cases hd

variable {a} in
/-- What the agent did before without touching the life of `c`. -/
theorem SettlesAs.of_life {a' : Agent} {s : PolkitListener × Agent} (hl : a'.life c = a.life c)
    (h : SettlesAs c R (l, a') s) : SettlesAs c R (l, a) s := by
  refine SettlesAs.trans ?_ h
  exact .inl ⟨hl, rfl⟩

variable (c)

/-- The trace says nothing of a session's life. -/
@[simp] theorem life_trace {o : Output} (ho : o.event? = none) :
    (a.trace o).life c = a.life c := (quiet_trace a ho).life c

variable {c} in
theorem settlesAs_trace {o : Output} (ho : o.event? = none) :
    SettlesAs c R (l, a) (l, a.trace o) := .inl ⟨life_trace a c ho, rfl⟩

/-- **`finishAuth` retries the request, or concludes it** with what it has
gained. -/
theorem settlesAs_finishAuth (hst : l.states.lookup h = some st)
    (hc : st.cookie ∈ l.cookieToState) :
    SettlesAs c (fun r => c = st.cookie ∧ ¬ Retries st ∧ r = outcome st) (l, a)
      (l.finishAuth W a h) := by
  by_cases hp : st.inProgress = true
  · by_cases hr : Retries st
    · rw [finishAuth_of_retries W a hst hp hr]
      simp only [renewSession, reattempt, removeSession, setState]
      split <;> exact settlesAs_trace a rfl
    · have hlife := life_finishAuth W a hst hp hr c
      obtain ⟨a', st', hv, heq, -⟩ := finishAuth_of_not_retries W a hst hp hr
      have hmap : (l.finishAuth W a h).1.cookieToState = l.cookieToState.erase st.cookie := by
        rw [heq, conclude_cookieToState, hv.cookie]
      by_cases hcc : c = st.cookie
      · refine .inr ⟨outcome st, ⟨hcc, hr, rfl⟩, Table.contains_eq_true.2 (hcc ▸ hc), ?_, ?_⟩
        · rw [hmap]
          simp [Table.contains, hcc]
        · rw [hlife, if_pos hcc]
      · refine .inl ⟨by rw [hlife, if_neg hcc], ?_⟩
        rw [hmap]
        simp [Table.contains, hcc]
  · have : l.finishAuth W a h = (l, a) := by simp [PolkitListener.finishAuth, hst, hp]
    rw [this]
    exact .refl _

theorem Linked.cookie_mem (w : l.Linked) (hst : l.states.lookup h = some st) :
    st.cookie ∈ l.cookieToState := Table.mem_iff_exists.2 ⟨h, w.cookie_of_state h st hst⟩

/-- `finishAuth` after a field of a live state has been written. -/
theorem Linked.settlesAs_finishAuth (w : l.Linked) (hst : l.states.lookup h = some st)
    {st' : SessionState} (hv : st.Version st')
    (hR : c = st.cookie → ¬ Retries st' → R (outcome st')) :
    SettlesAs c R (l, a) ((l.setState h st').finishAuth W a h) := by
  have hst' : (l.setState h st').states.lookup h = some st' := by simp [lookup_setState]
  refine SettlesAs.trans (.inl ⟨rfl, rfl⟩)
    ((PolkitListener.settlesAs_finishAuth W a c hst' ?_).mono ?_)
  · rw [hv.cookie]
    exact w.cookie_mem hst
  · rintro r ⟨hc, hr, rfl⟩
    exact hR (hc.trans hv.cookie) hr

/-- A live state that is cancelled ends without authorization. -/
theorem Healthy.settlesAs_cancelled (w : l.Healthy) (hu : l.Ungained)
    (hst : l.states.lookup h = some st) (hR : c = st.cookie → R .cancelled) :
    SettlesAs c R (l, a) ((l.setState h { st with cancelled := true }).finishAuth W a h) := by
  refine w.linked.settlesAs_finishAuth W a c hst ⟨rfl, rfl, rfl⟩ fun hc _ => ?_
  have hg := hu h st hst
  simp only [outcome, hg, Bool.false_eq_true, if_false]
  exact hR hc

/-! ## The calls -/

variable (session : ℕ)

theorem Healthy.settles_onSessionRequest (w : l.Healthy) (text : String) (echo : Bool) :
    SettlesAs c R (l, a) (l.onSessionRequest a session text echo) := by
  refine w.withState a (Q := fun r => SettlesAs c R (l, a) r) (.refl _) fun h st hst => ?_
  exact .inl ⟨life_onSessionRequest a st.cookie c text echo, rfl⟩

theorem Healthy.settles_onSessionError (w : l.Healthy) (text : String) :
    SettlesAs c R (l, a) (l.onSessionError a session text) := by
  refine w.withState a (Q := fun r => SettlesAs c R (l, a) r) (.refl _) fun h st hst => ?_
  exact .inl ⟨life_onSessionRetry a st.cookie c text, rfl⟩

theorem Healthy.settles_onSessionInfo (w : l.Healthy) (text : String) :
    SettlesAs c R (l, a) (l.onSessionInfo a session text) := by
  refine w.withState a (Q := fun r => SettlesAs c R (l, a) r) (.refl _) fun h st hst => ?_
  exact .inl ⟨life_onSessionInfo a st.cookie c text, rfl⟩

/-- **A completed attempt**: its request ends if it has gained
authorization or was on its last attempt. -/
theorem Healthy.settles_onSessionCompleted (w : l.Healthy) (gained : Bool) :
    SettlesAs c (Reported l c (.completed session gained)) (l, a)
      (l.onSessionCompleted W a session gained) := by
  unfold PolkitListener.onSessionCompleted PolkitListener.withState
  split
  · exact .refl _
  next h hs =>
    obtain ⟨st, hst, -⟩ := w.linked.state_of_session session h hs
    have hend : ∀ e, (st.cookie = c → (if gained then some Ending.gained
        else if st.retryCount + 1 < MAX_AUTH_RETRIES then none else some .failed) = some e) →
        c = st.cookie → l.ending c (.completed session gained) = some e := by
      intro e he hc
      simp only [ending, hs, hst, Option.bind_some, hc, ne_eq, not_true_eq_false, if_false]
      exact he hc.symm
    rw [hst]
    cases gained with
    | true =>
        refine w.linked.settlesAs_finishAuth W a c hst ⟨rfl, rfl, rfl⟩ fun hc _ => ?_
        exact ⟨.gained, hend _ (fun _ => rfl) hc, rfl⟩
    | false =>
        refine .of_life (life_onSessionRetry a st.cookie c _)
          (w.linked.settlesAs_finishAuth W _ c hst ⟨rfl, rfl, rfl⟩ fun hc hr => ?_)
        have hlast : ¬ st.retryCount + 1 < MAX_AUTH_RETRIES :=
          fun hlt => hr ⟨rfl, (w.idle h st hst).cancelled, hlt⟩
        exact ⟨.failed, hend _ (fun _ => by simp [hlast]) hc, rfl⟩

theorem Healthy.settles_cancelLoop (hR : R .cancelled) :
    ∀ (hs : List ℕ) (l : PolkitListener) (a : Agent), l.Healthy → l.Ungained →
    hs.Nodup → (∀ h ∈ hs, ∃ st, l.states.lookup h = some st) →
    SettlesAs c R (l, a) (PolkitListener.cancelLoop W hs l a)
  | [], l, a, _, _, _, _ => .refl _
  | h :: hs, l, a, w, hu, hnd, hlive => by
      obtain ⟨hnot, hnd⟩ := List.nodup_cons.1 hnd
      obtain ⟨st, hst⟩ := hlive h List.mem_cons_self
      have hp := (w.idle h st hst).inProgress
      simp only [PolkitListener.cancelLoop, hst]
      have hfirst : SettlesAs c R (l, a)
          ((l.setState h { st with cancelled := true }).finishAuth W a h) :=
        w.settlesAs_cancelled W a c hu hst fun _ => hR
      have w' := w.markCancelled W a hst
      have hu' : ((l.setState h { st with cancelled := true }).finishAuth W a h).1.Ungained :=
        w.ungained_finishAuth W a hu hst ⟨rfl, rfl, rfl⟩ hp
      have hgone := lookup_finishAuth_cancelled W (l := l) (h := h) a hp
      generalize (l.setState h { st with cancelled := true }).finishAuth W a h = r
        at hfirst w' hu' hgone ⊢
      refine hfirst.trans (Healthy.settles_cancelLoop hR hs r.1 r.2 w' hu' hnd fun h' hh' => ?_)
      have hne : h' ≠ h := fun he => hnot (he ▸ hh')
      rw [hgone h', if_neg hne]
      exact hlive h' (List.mem_cons_of_mem _ hh')

theorem Healthy.settles_cancelAuthentication (w : l.Healthy) (hu : l.Ungained) :
    SettlesAs c (Reported l c .cancelAuthentication) (l, a) (l.cancelAuthentication W a) := by
  refine .of_life (life_ticked a c)
    (Healthy.settles_cancelLoop W c ⟨.cancelled, rfl, rfl⟩ _ l a.ticked w hu ?_ fun h hh => ?_)
  · rw [W.nodup_walk]
    exact w.cookieStates.1
  · exact w.cookieStates.2 h (W.mem_walk.1 hh)

theorem Healthy.settles_submitPassword (w : l.Healthy) (cookie pass : String) :
    SettlesAs c R (l, a) (l.submitPassword a cookie pass) := by
  have h₀ : SettlesAs c R (l, a) (l, a.trace (.submitPassword cookie pass)) :=
    settlesAs_trace a rfl
  unfold PolkitListener.submitPassword
  dsimp only
  split
  · exact h₀
  next h hc =>
    obtain ⟨st, hst, -⟩ := w.linked.state_of_cookie cookie h hc
    rw [hst]
    dsimp only
    split
    · exact h₀
    · exact h₀.trans (settlesAs_trace _ rfl)

/-- **Cancelling ends a request once**: what follows a `cancel()` that has
already ended it goes through a dangling handle, and reports nothing. -/
theorem Healthy.settles_cancelPending (w : l.Healthy) (hu : l.Ungained) (cookie : String) :
    SettlesAs c (Reported l c (.cancelPending cookie)) (l, a) (l.cancelPending W a cookie) := by
  have hcancelled : c = cookie → Reported l c (.cancelPending cookie) .cancelled :=
    fun hc => ⟨.cancelled, if_pos hc.symm, rfl⟩
  unfold PolkitListener.cancelPending
  split
  · exact .refl _
  next h hc =>
    obtain ⟨st, hst, hcookie⟩ := w.linked.state_of_cookie cookie h hc
    obtain ⟨s, hs, hsl⟩ := w.linked.session_of_state h st hst
    rw [hst]
    dsimp only
    rw [hs]
    dsimp only
    have hcancel : SettlesAs c (Reported l c (.cancelPending cookie)) (l, a)
        (l.cancelSession W a s) ∧ (l.cancelSession W a s).1.Healthy ∧
        (l.cancelSession W a s).1.Ungained ∧
        ∀ st', (l.cancelSession W a s).1.states.lookup h = some st' → st'.cookie = cookie := by
      have h₀ : SettlesAs c (Reported l c (.cancelPending cookie)) (l, a)
          (l, a.ticked.trace (.cancel s)) := settlesAs_trace a.ticked rfl
      simp only [cancelSession]
      split
      · refine ⟨h₀.trans ((w.settles_onSessionCompleted W _ c s false).mono ?_),
          w.onSessionCompleted W _ false, w.ungained_onSessionCompleted W _ hu s false, ?_⟩
        · -- the failure that `cancel()` reports is the request's own
          rintro r ⟨e, he, rfl⟩
          have hc' : c = cookie := by
            rw [← hcookie]
            by_contra hne
            simp [ending, hsl, hst, Ne.symm hne] at he
          have hng : e ≠ .gained := by
            rintro rfl
            simp only [ending, hsl, hst, Option.bind_some, Bool.false_eq_true, if_false] at he
            split_ifs at he
            simp at he
          rw [if_neg hng]
          exact hcancelled hc'
        · intro st' hst'
          obtain ⟨hgone, hkept⟩ :=
            lookup_onSessionCompleted_false W (a.ticked.trace (.cancel s)) w hst hs
          by_cases hlast : MAX_AUTH_RETRIES ≤ st.retryCount + 1
          · rw [hgone hlast] at hst'
            cases hst'
          · obtain ⟨st'', hst'', -, hck⟩ := hkept (not_le.1 hlast)
            rw [hst', Option.some_inj] at hst''
            rw [hst'', hck, hcookie]
      · refine ⟨h₀, w, hu, fun st' hst' => ?_⟩
        rw [hst, Option.some_inj] at hst'
        rw [← hst', hcookie]
    obtain ⟨hset, w', hu', hck⟩ := hcancel
    generalize l.cancelSession W a s = cancelled at hset w' hu' hck ⊢
    obtain ⟨l', a'⟩ := cancelled
    dsimp only
    split
    · exact hset.trans (.inl ⟨rfl, rfl⟩)
    next st' hst' =>
      refine hset.trans (w'.settlesAs_cancelled W a' c hu' hst' fun hc' => ?_)
      exact hcancelled (hc'.trans (hck st' hst'))

/-- **A call to a healthy listener**, seen from one id: a request with a
free id is opened, or what there is goes on or ends. -/
theorem Healthy.settles_call (w : l.Healthy) (hu : l.Ungained) (call : Call)
    (hn : ∀ a, call ≠ .elsewhere a) :
    SettlesAs c (Reported l c call) (l, a) (PolkitListener.call W (l, a) call) ∨
      (a.life c).source = none ∧
        (PolkitListener.call W (l, a) call).2.life c = (a.life c).opened .polkit ∧
        (PolkitListener.call W (l, a) call).1.cookieToState.contains c = true := by
  cases call with
  | initiateAuthentication actionId message iconName details cookie identities =>
      by_cases hr : Refuses l a cookie identities
      · obtain ⟨text, states, sessions, a', -, -, ha', heq⟩ :=
          initiateAuthentication_of_refuses W a actionId message iconName details cookie
            identities w.linked hr
        have hl : a'.life c = a.life c := by rcases ha' with rfl | rfl <;> rfl
        exact .inl (.inl ⟨by rw [PolkitListener.call, heq]; exact hl,
          by rw [PolkitListener.call, heq]; rfl⟩)
      · obtain ⟨user, a', ha', heq⟩ :=
          initiateAuthentication_of_not_refuses W a actionId message iconName details cookie
            identities hr
        simp only [PolkitListener.call, heq]
        have hl : (a'.trace (.initiate l.nextSession)).life c =
            if c = cookie then (a.life c).opened .polkit else a.life c := by
          rw [life_trace a' c rfl, ha', Agent.onPolkitRequest, life_createSession]
          rfl
        by_cases hcc : c = cookie
        · refine .inr ⟨?_, by rw [hl, if_pos hcc],
            by simp [accepted, newState, Table.contains, hcc]⟩
          rw [hcc, ← getSession_eq_none, Option.eq_none_iff_forall_ne_some]
          exact fun s hs => hr (.inr (.inr ⟨s, hs⟩))
        · exact .inl (.inl ⟨by rw [hl, if_neg hcc],
            by simp [accepted, newState, Table.contains, hcc]⟩)
  | cancelAuthentication => exact .inl (w.settles_cancelAuthentication W a c hu)
  | request session text echo => exact .inl (w.settles_onSessionRequest a c session text echo)
  | completed session gained => exact .inl (w.settles_onSessionCompleted W a c session gained)
  | showError session text => exact .inl (w.settles_onSessionError a c session text)
  | showInfo session text => exact .inl (w.settles_onSessionInfo a c session text)
  | submitPassword cookie pass => exact .inl (w.settles_submitPassword a c cookie pass)
  | cancelPending cookie => exact .inl (w.settles_cancelPending W a c hu cookie)
  | elsewhere a => exact absurd rfl (hn a)

end PolkitListener

end BbAuth
