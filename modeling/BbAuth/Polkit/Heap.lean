import BbAuth.Library.Index
import BbAuth.Model.Polkit
/-!
# The listener's heap

`Linked` is what ties the live `SessionState` objects to the two maps that
find them and to the `AsyncResult`s they owe: every pointer in a map is
live, every live state is found by its cookie and by its session, and the
results not yet completed are exactly those of the live states, one each.
`Idle` is what the fields of a live state say between two handlers.

Every operation of the listener keeps both, and none but `cancelPending`
can follow a dangling pointer.
-/

namespace BbAuth

/-- What a live state looks like between two handlers. -/
structure SessionState.Idle (st : SessionState) : Prop where
  inProgress : st.inProgress = true
  cancelled : st.cancelled = false
  retryCount : st.retryCount < MAX_AUTH_RETRIES

/-- Two versions of one state: the fields the maps and the results go by
agree. -/
structure SessionState.Version (st st' : SessionState) : Prop where
  cookie : st'.cookie = st.cookie
  result : st'.result = st.result
  session : st'.session = st.session

/-- Two states of one request, in the same session or in another. -/
structure SessionState.Kin (st st' : SessionState) : Prop where
  cookie : st'.cookie = st.cookie
  result : st'.result = st.result

theorem SessionState.Kin.refl (st : SessionState) : st.Kin st := ⟨rfl, rfl⟩

namespace PolkitListener

/-- **The heap, its maps and its debts fit together.** -/
structure Linked (l : PolkitListener) : Prop where
  state_of_cookie : ∀ c h, l.cookieToState.lookup c = some h →
    ∃ st, l.states.lookup h = some st ∧ st.cookie = c
  cookie_of_state : ∀ h st, l.states.lookup h = some st →
    l.cookieToState.lookup st.cookie = some h
  state_of_session : ∀ s h, l.sessionToState.lookup s = some h →
    ∃ st, l.states.lookup h = some st ∧ st.session = some s
  session_of_state : ∀ h st, l.states.lookup h = some st →
    ∃ s, st.session = some s ∧ l.sessionToState.lookup s = some h
  state_lt : ∀ h st, l.states.lookup h = some st → h < l.nextState
  session_lt : ∀ s h, l.sessionToState.lookup s = some h → s < l.nextSession
  result_lt : ∀ r, (∃ res, l.results.lookup r = some res) ↔ r < l.nextResult
  owes : ∀ h st, l.states.lookup h = some st →
    ∃ res, l.results.lookup st.result = some res ∧ res.completions = 0
  settled : ∀ r res, l.results.lookup r = some res → res.completions = 1 ∨
    res.completions = 0 ∧ ∃ h st, l.states.lookup h = some st ∧ st.result = r
  result_inj : ∀ h h' st st', l.states.lookup h = some st → l.states.lookup h' = some st' →
    st.result = st'.result → h = h'

/-- Every live state is idle. -/
def AllIdle (l : PolkitListener) : Prop := ∀ h st, l.states.lookup h = some st → st.Idle

/-- Every live state but one is idle. -/
def IdleBut (l : PolkitListener) (h : ℕ) : Prop :=
  ∀ h' st, h' ≠ h → l.states.lookup h' = some st → st.Idle

variable {l : PolkitListener} {h : ℕ} {st st' : SessionState}

theorem AllIdle.but (hi : l.AllIdle) (h : ℕ) : l.IdleBut h := fun h' st _ => hi h' st

/-! ## The two indices -/

/-- **The states are indexed by their cookies.** -/
theorem Linked.cookies (w : l.Linked) :
    Indexes (fun c => l.cookieToState.lookup c) (fun h => l.states.lookup h)
      (fun st => some st.cookie) where
  found c h hc := by
    obtain ⟨st, hst, rfl⟩ := w.state_of_cookie c h hc
    exact ⟨st, hst, rfl⟩
  listed h st hst := ⟨st.cookie, rfl, w.cookie_of_state h st hst⟩

/-- **And by their sessions.** -/
theorem Linked.sessions (w : l.Linked) :
    Indexes (fun s => l.sessionToState.lookup s) (fun h => l.states.lookup h)
      SessionState.session where
  found := w.state_of_session
  listed := w.session_of_state

/-- What the links are, beside the two indices. -/
theorem Linked.of_indexes
    (hcookies : Indexes (fun c => l.cookieToState.lookup c) (fun h => l.states.lookup h)
      (fun st => some st.cookie))
    (hsessions : Indexes (fun s => l.sessionToState.lookup s) (fun h => l.states.lookup h)
      SessionState.session)
    (hstate : ∀ h st, l.states.lookup h = some st → h < l.nextState)
    (hsession : ∀ s h, l.sessionToState.lookup s = some h → s < l.nextSession)
    (hresult : ∀ r, (∃ res, l.results.lookup r = some res) ↔ r < l.nextResult)
    (howes : ∀ h st, l.states.lookup h = some st →
      ∃ res, l.results.lookup st.result = some res ∧ res.completions = 0)
    (hsettled : ∀ r res, l.results.lookup r = some res → res.completions = 1 ∨
      res.completions = 0 ∧ ∃ h st, l.states.lookup h = some st ∧ st.result = r)
    (hinj : ∀ h h' st st', l.states.lookup h = some st → l.states.lookup h' = some st' →
      st.result = st'.result → h = h') : l.Linked where
  state_of_cookie c h hc := by
    obtain ⟨st, hst, hkey⟩ := hcookies.found c h hc
    exact ⟨st, hst, Option.some.inj hkey⟩
  cookie_of_state _ _ hst := hcookies.eq_some hst rfl
  state_of_session := hsessions.found
  session_of_state := hsessions.listed
  state_lt := hstate
  session_lt := hsession
  result_lt := hresult
  owes := howes
  settled := hsettled
  result_inj := hinj

/-! ## Writing a state back -/

theorem lookup_setState {h' : ℕ} :
    (l.setState h st).states.lookup h' = if h' = h then some st else l.states.lookup h' := by
  simp [setState]

/-- **A live state is replaced** by one of the same cookie and result. The
sessions are the caller's to link. -/
theorem Linked.replace {l' : PolkitListener} (w : l.Linked) (hst : l.states.lookup h = some st)
    (hk : st.Kin st')
    (hstates : l'.states = l.states.insert h st') (hcookies : l'.cookieToState = l.cookieToState)
    (hresults : l'.results = l.results) (hnext : l'.nextState = l.nextState)
    (hnext' : l'.nextResult = l.nextResult)
    (hsessions : Indexes (fun s => l'.sessionToState.lookup s) (fun h => l'.states.lookup h)
      SessionState.session)
    (hlt : ∀ s h', l'.sessionToState.lookup s = some h' → s < l'.nextSession) : l'.Linked := by
  -- a state of the new heap is one of the old heap, and the other way
  have hold : ∀ h' u', l'.states.lookup h' = some u' →
      ∃ u, l.states.lookup h' = some u ∧ u.Kin u' :=
    fun h' u' hu => Table.exists_of_lookup_replace hst hk .refl (hstates ▸ hu)
  have hnew : ∀ h' u, l.states.lookup h' = some u →
      ∃ u', l'.states.lookup h' = some u' ∧ u.Kin u' := by
    rw [hstates]
    exact fun h' u hu => Table.exists_lookup_replace hst hk .refl hu
  have hcookies' : Indexes (fun c => l'.cookieToState.lookup c) (fun h => l'.states.lookup h)
      (fun st => some st.cookie) := by
    rw [hcookies]
    exact w.cookies.replace hst (congrArg some hk.cookie) fun h' => by
      rw [hstates, Table.lookup_insert]
  refine .of_indexes hcookies' hsessions ?_ hlt ?_ ?_ ?_ ?_
  · intro h' u' hu'
    obtain ⟨u, hu, -⟩ := hold h' u' hu'
    exact hnext ▸ w.state_lt h' u hu
  · rw [hresults, hnext']
    exact w.result_lt
  · intro h' u' hu'
    obtain ⟨u, hu, hk'⟩ := hold h' u' hu'
    rw [hresults, hk'.result]
    exact w.owes h' u hu
  · intro r res hr
    refine (w.settled r res (hresults ▸ hr)).imp id fun ⟨h0, h', u, hu, hur⟩ => ?_
    obtain ⟨u', hu', hk'⟩ := hnew h' u hu
    exact ⟨h0, h', u', hu', hk'.result.trans hur⟩
  · intro h₁ h₂ u₁ u₂ hu₁ hu₂ heq
    obtain ⟨v₁, hv₁, hk₁⟩ := hold h₁ u₁ hu₁
    obtain ⟨v₂, hv₂, hk₂⟩ := hold h₂ u₂ hu₂
    rw [hk₁.result, hk₂.result] at heq
    exact w.result_inj h₁ h₂ v₁ v₂ hv₁ hv₂ heq

/-- A new version of a live state keeps the links. -/
theorem Linked.setState (w : l.Linked) (hst : l.states.lookup h = some st)
    (hv : st.Version st') : (l.setState h st').Linked := by
  refine w.replace hst ⟨hv.cookie, hv.result⟩ rfl rfl rfl rfl rfl ?_ w.session_lt
  exact w.sessions.replace hst hv.session fun _ => lookup_setState

/-- What a written state leaves of the others. -/
theorem IdleBut.setState (hi : l.IdleBut h) : (l.setState h st').IdleBut h := by
  intro h' u hne hu
  rw [lookup_setState, if_neg hne] at hu
  exact hi h' u hne hu

theorem AllIdle.of_setState (hi : l.IdleBut h) (hst : st'.Idle) : (l.setState h st').AllIdle := by
  intro h' u hu
  rw [lookup_setState] at hu
  split at hu
  · rw [← Option.some.inj hu]; exact hst
  · exact hi h' u ‹_› hu

/-! ## The two ways `finishAuth` ends -/

variable (W : World) (a : Agent)

theorem lookup_onResult {r r' : ℕ} {f : AsyncResult → AsyncResult} :
    (l.onResult r f).results.lookup r' =
      if r' = r then (l.results.lookup r).map f else l.results.lookup r' := by
  unfold onResult
  split
  next h =>
      by_cases hr : r' = r
      · rw [hr, if_pos rfl, h]
        rfl
      · rw [if_neg hr]
  next res h => by_cases hr : r' = r <;> simp [h, hr]

/-- Touching a result leaves the rest of the listener alone. -/
theorem onResult_eq {r : ℕ} {f : AsyncResult → AsyncResult} :
    l.onResult r f = { l with results := (l.onResult r f).results } := by
  unfold onResult
  split <;> rfl

@[simp] theorem conclude_states :
    (l.conclude W a h st).1.states = l.states.erase h := by
  simp only [conclude, setCompleted]
  rw [onResult_eq]
  unfold removeSession
  split <;> rfl

@[simp] theorem conclude_cookieToState :
    (l.conclude W a h st).1.cookieToState = l.cookieToState.erase st.cookie := by
  simp only [conclude, setCompleted]
  rw [onResult_eq]
  unfold removeSession
  split <;> rfl

@[simp] theorem conclude_useAfterFree :
    (l.conclude W a h st).1.useAfterFree = l.useAfterFree := by
  simp only [conclude, setCompleted]
  rw [onResult_eq]
  unfold removeSession
  split <;> rfl

/-- **`conclude` keeps the links.** The state and its entries go, and its
result is completed, for the first time. -/
theorem Linked.conclude (w : l.Linked) (hst : l.states.lookup h = some st)
    (hv : st.Version st') : (l.conclude W a h st').1.Linked := by
  obtain ⟨s, hs, hsl⟩ := w.session_of_state h st hst
  obtain ⟨res, hres, hres0⟩ := w.owes h st hst
  have hstates : ∀ h', (l.conclude W a h st').1.states.lookup h' =
      if h' = h then none else l.states.lookup h' := by
    intro h'
    rw [conclude_states, Table.lookup_erase]
  have hleft : ∀ h' u, (l.conclude W a h st').1.states.lookup h' = some u →
      h' ≠ h ∧ l.states.lookup h' = some u := by
    intro h' u hu
    rw [hstates] at hu
    split at hu
    · cases hu
    · exact ⟨‹_›, hu⟩
  have hcookies : ∀ c, (l.conclude W a h st').1.cookieToState.lookup c =
      if c = st.cookie then none else l.cookieToState.lookup c := by
    intro c
    rw [conclude_cookieToState, Table.lookup_erase, hv.cookie]
  have hsessions : ∀ s', (l.conclude W a h st').1.sessionToState.lookup s' =
      if s' = s then none else l.sessionToState.lookup s' := by
    intro s'
    have : (l.conclude W a h st').1.sessionToState = l.sessionToState.erase s := by
      simp only [PolkitListener.conclude, setCompleted, removeSession, hv.session, hs]
      rw [onResult_eq]
    rw [this, Table.lookup_erase]
  have hresults : ∀ r, (l.conclude W a h st').1.results.lookup r =
      if r = st.result then some { res with completions := 1 } else l.results.lookup r := by
    intro r
    have : (l.conclude W a h st').1.results = (l.setCompleted st.result).results := by
      simp only [PolkitListener.conclude, removeSession, hv.session, hs, hv.result]
    rw [this, setCompleted, lookup_onResult, hres]
    simp [hres0]
  have hnext : (l.conclude W a h st').1.nextState = l.nextState ∧
      (l.conclude W a h st').1.nextSession = l.nextSession ∧
      (l.conclude W a h st').1.nextResult = l.nextResult := by
    simp only [PolkitListener.conclude, setCompleted, removeSession, hv.session, hs]
    rw [onResult_eq]
    exact ⟨rfl, rfl, rfl⟩
  refine .of_indexes (w.cookies.erase hst rfl hcookies hstates)
    (w.sessions.erase hst hs hsessions hstates) ?_ ?_ ?_ ?_ ?_ ?_
  · intro h' u hu
    rw [hnext.1]
    exact w.state_lt h' u (hleft h' u hu).2
  · intro s' h' hs'
    rw [hsessions] at hs'
    rw [hnext.2.1]
    split at hs'
    · cases hs'
    · exact w.session_lt s' h' hs'
  · intro r
    rw [hnext.2.2, ← w.result_lt r, hresults]
    by_cases hr : r = st.result
    · subst hr; simp [hres]
    · simp [hr]
  · intro h' u hu
    obtain ⟨hne, hu⟩ := hleft h' u hu
    -- the result completed is owed by no other state
    rw [hresults, if_neg fun hr => hne (w.result_inj h' h u st hu hst hr)]
    exact w.owes h' u hu
  · intro r res' hr
    rw [hresults] at hr
    split at hr
    · rw [← Option.some.inj hr]; exact Or.inl rfl
    next hne =>
      -- a result still open is the result of a state that stays
      refine (w.settled r res' hr).imp id fun ⟨h0, h', u, hu, hur⟩ => ?_
      refine ⟨h0, h', u, ?_, hur⟩
      rw [hstates, if_neg, hu]
      rintro rfl
      rw [hst, Option.some_inj] at hu
      exact hne (hu ▸ hur.symm)
  · intro h₁ h₂ u₁ u₂ hu₁ hu₂ heq
    exact w.result_inj h₁ h₂ u₁ u₂ (hleft _ _ hu₁).2 (hleft _ _ hu₂).2 heq

theorem AllIdle.conclude (hi : l.IdleBut h) : (l.conclude W a h st').1.AllIdle := by
  intro h' u hu
  rw [conclude_states, Table.lookup_erase] at hu
  split at hu
  · cases hu
  · exact hi h' u ‹_› hu

/-- The state a retry leaves. -/
def renewed (l : PolkitListener) (st : SessionState) : SessionState :=
  { st with session := some l.nextSession, cancelled := false }

theorem renewSession_eq (st : SessionState) {s : ℕ} (hs : st.session = some s) :
    l.renewSession a h st =
      ({ l with
          nextSession := l.nextSession + 1
          sessionToState := (l.sessionToState.erase s).insert l.nextSession h
          states := l.states.insert h (l.renewed st) },
        a.trace (.initiate l.nextSession)) := by
  simp [renewSession, removeSession, hs, reattempt, setState, renewed]

/-- **And so does `renewSession`.** The state is found under its new
session instead of the old one. -/
theorem Linked.renewSession (w : l.Linked) (hst : l.states.lookup h = some st)
    (hv : st.Version st') : (l.renewSession a h st').1.Linked := by
  obtain ⟨s, hs, hsl⟩ := w.session_of_state h st hst
  rw [renewSession_eq a _ (hv.session.trans hs)]
  have hk : st.Kin (l.renewed st') := ⟨hv.cookie, hv.result⟩
  have hfresh := Table.lookup_eq_none_of_lt w.session_lt
  have hnew : (l.renewed st').session = some l.nextSession := rfl
  refine w.replace hst hk rfl rfl rfl rfl rfl
    (w.sessions.rekey hst hs hfresh hnew (fun s' => ?_) fun h' => ?_) fun s' h' hs' => ?_
  · rw [Table.lookup_insert, Table.lookup_erase]
  · rw [Table.lookup_insert]
  · simp only [Table.lookup_insert, Table.lookup_erase] at hs'
    split at hs'
    · subst s'
      exact Nat.lt_succ_self _
    · split at hs'
      · cases hs'
      · exact Nat.lt_succ_of_lt (w.session_lt s' h' hs')

theorem AllIdle.renewSession (w : l.Linked) (hst : l.states.lookup h = some st)
    (hv : st.Version st') (hi : l.IdleBut h) (hp : st'.inProgress = true)
    (hr : st'.retryCount < MAX_AUTH_RETRIES) : (l.renewSession a h st').1.AllIdle := by
  obtain ⟨s, hs, -⟩ := w.session_of_state h st hst
  rw [renewSession_eq a _ (hv.session.trans hs)]
  intro h' u hu
  by_cases hh : h' = h
  · subst hh
    simp only [Table.lookup_insert, if_true, Option.some_inj] at hu
    rw [← hu]
    exact ⟨hp, rfl, hr⟩
  · simp only [Table.lookup_insert, hh, if_false] at hu
    exact hi h' u hh hu

end PolkitListener

end BbAuth
