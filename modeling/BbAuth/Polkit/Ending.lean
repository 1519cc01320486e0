import BbAuth.Agent.Life
import BbAuth.Polkit.LifeCycle
/-!
# Polkit — why a request ends

A request ends because its authorization is gained, because it is
cancelled, or because its last attempt failed. `Ending` is the reason and
`ending` reads it off the call that ends the request and the state it is
taken in. Between two handlers no live state has gained its authorization
(`Ungained`), so a cancelled request ends without it.
-/

namespace BbAuth

/-- **Why a polkit request ended.** -/
inductive Ending where
  | gained
  | cancelled
  | failed
  deriving DecidableEq

/-- The result that says so. -/
def Ending.result : Ending → Session.Result
  | .gained => .success
  | .cancelled => .cancelled
  | .failed => .error

namespace PolkitListener

variable (W : World) {l : PolkitListener} (a : Agent) {h : ℕ} {st st' : SessionState}

/-- **Why the request of `cookie` ends with this call**, if it does. -/
def ending (l : PolkitListener) (cookie : String) (call : Call) : Option Ending :=
  match call with
  | .completed session gained =>
    ((l.sessionToState.lookup session).bind fun h => l.states.lookup h).bind fun st =>
      if st.cookie ≠ cookie then none
      else if gained then some .gained
      else if st.retryCount + 1 < MAX_AUTH_RETRIES then none
      else some .failed
  | .cancelAuthentication => some .cancelled
  | .cancelPending c => if c = cookie then some .cancelled else none
  | _ => none

/-- **The request of `cookie` ends as the call says**, but for the failed
ones: they are reported as cancelled. -/
def Reported (l : PolkitListener) (cookie : String) (call : Call) (r : Session.Result) : Prop :=
  ∃ e, l.ending cookie call = some e ∧ r = if e = .gained then .success else .cancelled

/-- **No live state has gained its authorization.** -/
def Ungained (l : PolkitListener) : Prop :=
  ∀ h st, l.states.lookup h = some st → st.gainedAuth = false

theorem ungained_init : ({} : PolkitListener).Ungained := fun _ _ h => nomatch h

/-- None but one. -/
def UngainedBut (l : PolkitListener) (h : ℕ) : Prop :=
  ∀ h' st, h' ≠ h → l.states.lookup h' = some st → st.gainedAuth = false

theorem Ungained.but (hu : l.Ungained) (h : ℕ) : l.UngainedBut h := fun h' st _ => hu h' st

theorem UngainedBut.setState (hu : l.UngainedBut h) : (l.setState h st).UngainedBut h := by
  intro h' u hne hu'
  rw [lookup_setState, if_neg hne] at hu'
  exact hu h' u hne hu'

theorem Ungained.setState (hu : l.Ungained) (hst : st.gainedAuth = false) :
    (l.setState h st).Ungained := by
  intro h' u hu'
  rw [lookup_setState] at hu'
  split at hu'
  · rwa [← Option.some.inj hu']
  · exact hu h' u hu'

/-! ## What `finishAuth` reports -/

/-- The result a state is concluded with. -/
def outcome (st : SessionState) : Session.Result := if st.gainedAuth then .success else .cancelled

/-- **A state that is not given another attempt** is closed with what it
has gained. -/
theorem life_finishAuth (W : World) (a : Agent) (hst : l.states.lookup h = some st)
    (hp : st.inProgress = true)
    (hr : ¬ Retries st) (c : String) :
    (l.finishAuth W a h).2.life c =
      if c = st.cookie then (a.life c).closed (outcome st) else a.life c := by
  have hlife : ∀ (a : Agent) (st' : SessionState), st'.cookie = st.cookie →
      st'.gainedAuth = st.gainedAuth → (l.conclude W a h st').2.life c =
        if c = st.cookie then (a.life c).closed (outcome st) else a.life c := by
    intro a st' hc hg
    have hdef : (l.conclude W a h st').2 = a.onSessionComplete W st'.cookie st'.gainedAuth := rfl
    rw [hdef, Agent.life_onSessionComplete, hc, hg, outcome]
  by_cases hgc : st.gainedAuth = false ∧ st.cancelled = false
  · obtain ⟨hg, hc⟩ := hgc
    have hlt : ¬ st.retryCount + 1 < MAX_AUTH_RETRIES := fun hlt => hr ⟨hg, hc, hlt⟩
    simp only [finishAuth, hst, hp, hg, hc, hlt, Bool.not_true, Bool.not_false, Bool.and_self,
      Bool.false_eq_true, if_true, if_false]
    rw [hlife, Agent.life_onSessionRetry]
    · rfl
    · exact hg.symm
  · have hgc' : (!st.gainedAuth && !st.cancelled) = false := by
      revert hgc
      cases st.gainedAuth <;> cases st.cancelled <;> simp
    simp only [finishAuth, hst, hp, hgc', Bool.not_true, Bool.false_eq_true, if_false]
    exact hlife a _ rfl rfl

/-- `finishAuth` leaves no state that has gained its authorization. -/
theorem UngainedBut.finishAuth (hu : l.UngainedBut h) (hst : l.states.lookup h = some st)
    (hp : st.inProgress = true) {s : ℕ} (hs : st.session = some s) :
    (l.finishAuth W a h).1.Ungained := by
  intro h' u hu'
  by_cases hr : Retries st
  · rw [finishAuth_of_retries W a hst hp hr,
      renewSession_eq a { st with retryCount := st.retryCount + 1 } hs] at hu'
    simp only [Table.lookup_insert] at hu'
    split at hu'
    · rw [← Option.some.inj hu']
      exact hr.1
    next hne => exact hu h' u hne hu'
  · obtain ⟨a', st'', -, heq, -⟩ := finishAuth_of_not_retries W a hst hp hr
    rw [heq, conclude_states, Table.lookup_erase] at hu'
    split at hu'
    · cases hu'
    next hne => exact hu h' u hne hu'

/-- The same, after a field of a live state has been written. -/
theorem Healthy.ungained_finishAuth (w : l.Healthy) (hu : l.Ungained)
    (hst : l.states.lookup h = some st) (hv : st.Version st') (hp : st'.inProgress = true) :
    ((l.setState h st').finishAuth W a h).1.Ungained := by
  obtain ⟨s, hs, -⟩ := w.linked.session_of_state h st hst
  exact (hu.but h).setState.finishAuth W a (by simp [lookup_setState]) hp (hv.session.trans hs)

/-! ## The handlers -/

theorem Healthy.ungained_onSessionCompleted (w : l.Healthy) (hu : l.Ungained) (session : ℕ)
    (gained : Bool) : (l.onSessionCompleted W a session gained).1.Ungained := by
  refine w.withState a (Q := fun r => r.1.Ungained) hu fun h st hst => ?_
  have hp := (w.idle h st hst).inProgress
  dsimp only
  split
  · exact w.ungained_finishAuth W _ hu hst ⟨rfl, rfl, rfl⟩ hp
  · exact w.ungained_finishAuth W _ hu hst ⟨rfl, rfl, rfl⟩ hp

theorem Healthy.ungained_cancelLoop : ∀ (hs : List ℕ) (l : PolkitListener) (a : Agent),
    l.Healthy → l.Ungained → hs.Nodup → (∀ h ∈ hs, ∃ st, l.states.lookup h = some st) →
    (PolkitListener.cancelLoop W hs l a).1.Ungained
  | [], _, _, _, hu, _, _ => hu
  | h :: hs, l, a, w, hu, hnd, hlive => by
      obtain ⟨hnot, hnd⟩ := List.nodup_cons.1 hnd
      obtain ⟨st, hst⟩ := hlive h List.mem_cons_self
      have hp := (w.idle h st hst).inProgress
      simp only [PolkitListener.cancelLoop, hst]
      refine Healthy.ungained_cancelLoop hs _ _ (w.markCancelled W a hst)
        (w.ungained_finishAuth W a hu hst ⟨rfl, rfl, rfl⟩ hp) hnd fun h' hh' => ?_
      have hne : h' ≠ h := fun he => hnot (he ▸ hh')
      rw [lookup_finishAuth_cancelled W a hp, if_neg hne]
      exact hlive h' (List.mem_cons_of_mem _ hh')

theorem Healthy.ungained_cancelPending (w : l.Healthy) (hu : l.Ungained) (cookie : String) :
    (l.cancelPending W a cookie).1.Ungained := by
  unfold PolkitListener.cancelPending
  split
  · exact hu
  next h hc =>
    obtain ⟨st, hst, -⟩ := w.linked.state_of_cookie cookie h hc
    obtain ⟨s, hs, -⟩ := w.linked.session_of_state h st hst
    rw [hst]
    dsimp only
    rw [hs]
    dsimp only
    have hcancel : (l.cancelSession W a s).1.Healthy ∧ (l.cancelSession W a s).1.Ungained := by
      simp only [cancelSession]
      split
      · exact ⟨w.onSessionCompleted W _ false, w.ungained_onSessionCompleted W _ hu s false⟩
      · exact ⟨w, hu⟩
    obtain ⟨w', hu'⟩ := hcancel
    generalize l.cancelSession W a s = cancelled at w' hu' ⊢
    obtain ⟨l', a'⟩ := cancelled
    dsimp only
    split
    · exact hu'
    next st' hst' =>
      exact w'.ungained_finishAuth W a' hu' hst' ⟨rfl, rfl, rfl⟩ (w'.idle h st' hst').inProgress

/-- **A call to a healthy listener** leaves no state that has gained its
authorization. -/
theorem Healthy.ungained_call (w : l.Healthy) (hu : l.Ungained) (call : Call) :
    (PolkitListener.call W (l, a) call).1.Ungained := by
  cases call with
  | initiateAuthentication actionId message iconName details cookie identities =>
      by_cases hr : Refuses l a cookie identities
      · obtain ⟨text, states, sessions, a', -, -, -, heq⟩ :=
          initiateAuthentication_of_refuses W a actionId message iconName details cookie
            identities w.linked hr
        rw [PolkitListener.call, heq]
        exact hu
      · obtain ⟨user, a', -, heq⟩ :=
          initiateAuthentication_of_not_refuses W a actionId message iconName details cookie
            identities hr
        rw [PolkitListener.call, heq]
        intro h' u hu'
        simp only [accepted, Table.lookup_insert] at hu'
        split at hu'
        · rw [← Option.some.inj hu']
          rfl
        · exact hu h' u hu'
  | cancelAuthentication =>
      refine Healthy.ungained_cancelLoop W _ l a.ticked w hu ?_ fun h hh => ?_
      · rw [W.nodup_walk]
        exact w.cookieStates.1
      · exact w.cookieStates.2 h (W.mem_walk.1 hh)
  | request session text echo =>
      exact w.withState a (Q := fun r => r.1.Ungained) hu fun h st hst =>
        hu.setState (hu h st hst)
  | completed session gained => exact w.ungained_onSessionCompleted W a hu session gained
  | showError session text =>
      exact w.withState a (Q := fun r => r.1.Ungained) hu fun h st hst =>
        hu.setState (hu h st hst)
  | showInfo session text =>
      exact w.withState a (Q := fun r => r.1.Ungained) hu fun _ _ _ => hu
  | submitPassword cookie pass =>
      simp only [PolkitListener.call, PolkitListener.submitPassword]
      split
      · exact hu
      · split
        · exact hu
        · split <;> exact hu
  | cancelPending cookie => exact w.ungained_cancelPending W a hu cookie
  | elsewhere a => exact hu

end PolkitListener

end BbAuth
