import BbAuth.Library.Machine
import BbAuth.Agent.Effects
import BbAuth.Polkit.Heap
/-!
# The life cycle of a polkit request

The listener as a machine of its own: its inputs are polkit's calls, the
signals of the PAM sessions, the two calls the daemon makes on behalf of a
provider, and any change at all of the agent in between. Handlers keep the
heap `Healthy`, with one exception. `cancelPending` goes on using its
state after `cancel()`, and where `cancel()` completes the last attempt
before it returns, the state is gone.
-/

namespace BbAuth

namespace PolkitListener

variable (W : World) {l : PolkitListener} (a : Agent) {h : ℕ} {st st' : SessionState}

/-! ## What `finishAuth` does -/

/-- **The state is given another attempt** by `finishAuth`. -/
def Retries (st : SessionState) : Prop :=
  st.gainedAuth = false ∧ st.cancelled = false ∧ st.retryCount + 1 < MAX_AUTH_RETRIES

theorem finishAuth_of_retries (hst : l.states.lookup h = some st) (hp : st.inProgress = true)
    (hr : Retries st) :
    l.finishAuth W a h = l.renewSession a h { st with retryCount := st.retryCount + 1 } := by
  obtain ⟨hg, hc, hlt⟩ := hr
  simp [finishAuth, hst, hp, hg, hc, hlt]

/-- Without another attempt the state is concluded, after one more error
where the attempts ran out. -/
theorem finishAuth_of_not_retries (hst : l.states.lookup h = some st)
    (hp : st.inProgress = true) (hr : ¬ Retries st) :
    ∃ a' st', st.Version st' ∧ l.finishAuth W a h = l.conclude W a' h st' ∧
      (a' = a ∨ a' = a.onSessionRetry st.cookie "Too many failed attempts") := by
  by_cases hgc : st.gainedAuth = false ∧ st.cancelled = false
  · obtain ⟨hg, hc⟩ := hgc
    have hlt : ¬ st.retryCount + 1 < MAX_AUTH_RETRIES := fun hlt => hr ⟨hg, hc, hlt⟩
    let st' : SessionState :=
      { st with
        retryCount := st.retryCount + 1
        errorText := "Too many failed attempts"
        inProgress := false }
    refine ⟨_, st', ⟨rfl, rfl, rfl⟩, ?_, .inr rfl⟩
    simp [finishAuth, hst, hp, hg, hc, hlt, st']
  · refine ⟨a, { st with inProgress := false }, ⟨rfl, rfl, rfl⟩, ?_, .inl rfl⟩
    have hgc' : (!st.gainedAuth && !st.cancelled) = false := by
      revert hgc
      cases st.gainedAuth <;> cases st.cancelled <;> simp
    simp [finishAuth, hst, hp, hgc']

/-! ## The heap between two handlers -/

/-- **The heap between two handlers.** -/
structure Healthy (l : PolkitListener) : Prop where
  linked : l.Linked
  idle : l.AllIdle
  safe : l.useAfterFree = false

@[simp] theorem renewSession_useAfterFree :
    (l.renewSession a h st).1.useAfterFree = l.useAfterFree := by
  simp only [renewSession, reattempt, setState, removeSession]
  split <;> rfl

/-- **`finishAuth` leaves a healthy heap**, whatever was written to the
state it is called on. -/
theorem Healthy.finishAuth (w : l.Healthy) (hst : l.states.lookup h = some st)
    (hv : st.Version st') (hp : st'.inProgress = true) :
    ((l.setState h st').finishAuth W a h).1.Healthy := by
  have hst' : (l.setState h st').states.lookup h = some st' := by simp [lookup_setState]
  have wl := w.linked.setState hst hv
  have wi : (l.setState h st').IdleBut h := (w.idle.but h).setState
  by_cases hr' : Retries st'
  · rw [finishAuth_of_retries W a hst' hp hr']
    refine ⟨wl.renewSession a hst' ⟨rfl, rfl, rfl⟩,
      AllIdle.renewSession a wl hst' ⟨rfl, rfl, rfl⟩ wi hp hr'.2.2, ?_⟩
    rw [renewSession_useAfterFree]
    exact w.safe
  · obtain ⟨a', st'', hv', heq, -⟩ := finishAuth_of_not_retries W a hst' hp hr'
    rw [heq]
    refine ⟨wl.conclude W a' hst' hv', AllIdle.conclude W a' wi, ?_⟩
    rw [conclude_useAfterFree]
    exact w.safe

/-- A healthy heap stays so when an idle version of a state is written. -/
theorem Healthy.setState (w : l.Healthy) (hst : l.states.lookup h = some st)
    (hv : st.Version st') (hi : st'.Idle) : (l.setState h st').Healthy :=
  ⟨w.linked.setState hst hv, AllIdle.of_setState (w.idle.but h) hi, w.safe⟩

/-- Where a handler starts from a signal, the session's state is live. -/
theorem Healthy.withState (w : l.Healthy) {session : ℕ}
    {f : ℕ → SessionState → PolkitListener × Agent} {Q : PolkitListener × Agent → Prop}
    (hnone : Q (l, a)) (hsome : ∀ h st, l.states.lookup h = some st → Q (f h st)) :
    Q (l.withState a session f) := by
  unfold PolkitListener.withState
  split
  · exact hnone
  next h hs =>
    obtain ⟨st, hst, -⟩ := w.linked.state_of_session session h hs
    rw [hst]
    exact hsome h st hst

/-! ## The handlers -/

variable {session : ℕ}

theorem Healthy.onSessionRequest (w : l.Healthy) (text : String) (echo : Bool) :
    (l.onSessionRequest a session text echo).1.Healthy := by
  refine w.withState a (Q := fun r => r.1.Healthy) w fun h st hst => ?_
  obtain ⟨hp, hc, hr⟩ := w.idle h st hst
  exact w.setState hst ⟨rfl, rfl, rfl⟩ ⟨hp, hc, hr⟩

theorem Healthy.onSessionError (w : l.Healthy) (text : String) :
    (l.onSessionError a session text).1.Healthy := by
  refine w.withState a (Q := fun r => r.1.Healthy) w fun h st hst => ?_
  obtain ⟨hp, hc, hr⟩ := w.idle h st hst
  exact w.setState hst ⟨rfl, rfl, rfl⟩ ⟨hp, hc, hr⟩

theorem Healthy.onSessionInfo (w : l.Healthy) (text : String) :
    (l.onSessionInfo a session text).1.Healthy :=
  w.withState a (Q := fun r => r.1.Healthy) w fun _ _ _ => w

theorem Healthy.onSessionCompleted (w : l.Healthy) (gained : Bool) :
    (l.onSessionCompleted W a session gained).1.Healthy := by
  refine w.withState a (Q := fun r => r.1.Healthy) w fun h st hst => ?_
  have hp := (w.idle h st hst).inProgress
  dsimp only
  split
  · exact w.finishAuth W _ hst ⟨rfl, rfl, rfl⟩ hp
  · exact w.finishAuth W _ hst ⟨rfl, rfl, rfl⟩ hp

/-- **A cancelled state is concluded**, and no other is touched. -/
theorem lookup_finishAuth_cancelled (hp : st.inProgress = true) (h' : ℕ) :
    ((l.setState h { st with cancelled := true }).finishAuth W a h).1.states.lookup h' =
      if h' = h then none else l.states.lookup h' := by
  have hst' : (l.setState h { st with cancelled := true }).states.lookup h =
      some { st with cancelled := true } := by simp [lookup_setState]
  obtain ⟨a', st'', -, heq, -⟩ := finishAuth_of_not_retries W a hst' hp fun hr => by
    have := hr.2.1
    simp at this
  rw [heq, conclude_states, Table.lookup_erase, lookup_setState]
  split <;> simp [*]

/-- The loop of `cancelAuthentication` visits live states only, since no
two cookies share one. -/
theorem Healthy.cancelLoop : ∀ (hs : List ℕ) (l : PolkitListener) (a : Agent), l.Healthy →
    hs.Nodup → (∀ h ∈ hs, ∃ st, l.states.lookup h = some st) →
    (cancelLoop W hs l a).1.Healthy
  | [], l, a, w, _, _ => w
  | h :: hs, l, a, w, hnd, hlive => by
      obtain ⟨hnot, hnd⟩ := List.nodup_cons.1 hnd
      obtain ⟨st, hst⟩ := hlive h List.mem_cons_self
      have hp := (w.idle h st hst).inProgress
      simp only [PolkitListener.cancelLoop, hst]
      refine Healthy.cancelLoop hs _ _ (w.finishAuth W a hst ⟨rfl, rfl, rfl⟩ hp) hnd
        fun h' hh' => ?_
      have hne : h' ≠ h := fun he => hnot (he ▸ hh')
      rw [lookup_finishAuth_cancelled W a hp, if_neg hne]
      exact hlive h' (List.mem_cons_of_mem _ hh')

/-- The states the cookies lead to are live, and no two are one. -/
theorem Healthy.cookieStates (w : l.Healthy) :
    (l.cookieToState.pairs.map Prod.snd).Nodup ∧
      ∀ h ∈ l.cookieToState.pairs.map Prod.snd, ∃ st, l.states.lookup h = some st := by
  have hlive : ∀ c h, (c, h) ∈ l.cookieToState.pairs →
      ∃ st, l.states.lookup h = some st ∧ st.cookie = c :=
    fun c h hm => w.linked.state_of_cookie c h (Table.mem_pairs.1 hm)
  constructor
  · have hnd : l.cookieToState.pairs.Nodup := by
      refine List.Nodup.of_map Prod.fst ?_
      rw [Table.map_fst_pairs]
      exact l.cookieToState.nodupKeys
    refine hnd.map_on fun ⟨c, h⟩ hm ⟨c', h'⟩ hm' he => ?_
    obtain rfl : h = h' := he
    obtain ⟨st, hst, rfl⟩ := hlive c h hm
    obtain ⟨st', hst', rfl⟩ := hlive c' h hm'
    rw [hst, Option.some_inj] at hst'
    rw [hst']
  · intro h hm
    obtain ⟨⟨c, h'⟩, hm', he⟩ := List.mem_map.1 hm
    obtain rfl : h' = h := he
    exact (hlive c h' hm').imp fun _ => And.left

theorem Healthy.cancelAuthentication (w : l.Healthy) :
    (l.cancelAuthentication W a).1.Healthy := by
  refine Healthy.cancelLoop W _ _ _ w ?_ fun h hh => ?_
  · rw [W.nodup_walk]
    exact w.cookieStates.1
  · exact w.cookieStates.2 h (W.mem_walk.1 hh)

theorem Healthy.submitPassword (w : l.Healthy) (cookie pass : String) :
    (l.submitPassword a cookie pass).1.Healthy := by
  unfold PolkitListener.submitPassword
  dsimp only
  split
  · exact w
  next h hc =>
    obtain ⟨st, hst, -⟩ := w.linked.state_of_cookie cookie h hc
    rw [hst]
    dsimp only
    split <;> exact w

/-! ## A new request -/

/-- What a refused request leaves: its result completed with an error, and
the handles it took. -/
def refused (l : PolkitListener) (text : String) (states sessions : ℕ) : PolkitListener :=
  { l with
    nextResult := l.nextResult + 1
    results := l.results.insert l.nextResult { error := text, completions := 1 }
    nextState := states
    nextSession := sessions }

/-- What an accepted one leaves, before the attempt is started. -/
def accepted (l : PolkitListener) (st : SessionState) : PolkitListener :=
  { l with
    nextResult := l.nextResult + 1
    results := l.results.insert l.nextResult {}
    nextState := l.nextState + 1
    nextSession := l.nextSession + 1
    states := l.states.insert l.nextState st
    cookieToState := l.cookieToState.insert st.cookie l.nextState
    sessionToState := l.sessionToState.insert l.nextSession l.nextState }

theorem Linked.nextState_notMem (w : l.Linked) : l.nextState ∉ l.states := by
  intro hm
  obtain ⟨st, hst⟩ := Table.mem_iff_exists.1 hm
  exact Nat.lt_irrefl _ (w.state_lt _ st hst)

theorem Linked.nextSession_notMem (w : l.Linked) : l.nextSession ∉ l.sessionToState := by
  intro hm
  obtain ⟨h, hs⟩ := Table.mem_iff_exists.1 hm
  exact Nat.lt_irrefl _ (w.session_lt _ h hs)

/-- The agent's answer to a polkit request. -/
theorem onPolkitRequest_of_some {s : Session} {cookie : String}
    (hs : a.getSession cookie = some s) (message actionId user : String)
    (details : Agent.Details) :
    a.onPolkitRequest W cookie message actionId user details =
      (false, a.ticked) := by
  unfold Agent.onPolkitRequest
  exact Agent.createSession_of_some W a.ticked cookie hs .polkit _

theorem onPolkitRequest_of_none {cookie : String} (hs : a.getSession cookie = none)
    (message actionId user : String) (details : Agent.Details) :
    (a.onPolkitRequest W cookie message actionId user details).1 = true :=
  (Agent.createSession_of_none W a.ticked cookie hs .polkit _).1

variable (actionId message iconName : String) (details : Agent.Details) (cookie : String)
  (identities : List String)

/-- A request is refused where the listener knows the cookie, where no
identity comes with it, and where a session has the cookie for its id. -/
def Refuses (l : PolkitListener) (a : Agent) (cookie : String) (identities : List String) :
    Prop :=
  cookie ∈ l.cookieToState ∨ identities = [] ∨ ∃ s, a.getSession cookie = some s

/-- **A refused request** leaves the heap and its maps as they were. -/
theorem initiateAuthentication_of_refuses (w : l.Linked)
    (hr : Refuses l a cookie identities) :
    ∃ text states sessions a', l.nextState ≤ states ∧ l.nextSession ≤ sessions ∧
      (a' = a ∨ a' = a.ticked) ∧
      l.initiateAuthentication W a actionId message iconName details cookie identities =
        (l.refused text states sessions, a') := by
  unfold initiateAuthentication
  by_cases hc : cookie ∈ l.cookieToState
  · refine ⟨"Duplicate session", l.nextState, l.nextSession, a, le_rfl, le_rfl, .inl rfl, ?_⟩
    simp [hc, setError, setCompleted, onResult, refused]
  have hc' : Table.contains l.cookieToState cookie = false := Table.contains_eq_false.2 hc
  rcases identities with - | ⟨user, others⟩
  · refine ⟨"No identities, this is a problem with your system configuration.", l.nextState,
      l.nextSession, a, le_rfl, le_rfl, .inl rfl, ?_⟩
    simp [hc', setError, setCompleted, onResult, refused]
  obtain ⟨s, hs⟩ : ∃ s, a.getSession cookie = some s := by simpa [Refuses, hc] using hr
  refine ⟨"Duplicate session", l.nextState + 1, l.nextSession + 1, a.ticked,
    Nat.le_succ _, Nat.le_succ _, .inr rfl, ?_⟩
  simp [hc', onPolkitRequest_of_some W a hs, setError, setCompleted, onResult, refused,
    Table.erase_insert_of_notMem hc, Table.erase_insert_of_notMem w.nextState_notMem,
    Table.erase_insert_of_notMem w.nextSession_notMem]

/-- The state an accepted request starts from. -/
def newState (l : PolkitListener) (user : String) : SessionState :=
  { selectedUser := user, cookie := cookie, result := l.nextResult, actionId := actionId,
    message := message, iconName := iconName, details := details, inProgress := true,
    session := some l.nextSession }

/-- **An accepted request** is put on the heap and into the maps. -/
theorem initiateAuthentication_of_not_refuses (hr : ¬ Refuses l a cookie identities) :
    ∃ user a', a' = (a.onPolkitRequest W cookie message actionId user details).2 ∧
      l.initiateAuthentication W a actionId message iconName details cookie identities =
        (l.accepted (newState actionId message iconName details cookie l user),
          a'.trace (.initiate l.nextSession)) := by
  simp only [Refuses, not_or, not_exists] at hr
  obtain ⟨hc, hi, hs⟩ := hr
  have hc' : Table.contains l.cookieToState cookie = false := Table.contains_eq_false.2 hc
  obtain ⟨user, others, rfl⟩ := List.exists_cons_of_ne_nil hi
  have hs' : a.getSession cookie = none := Option.eq_none_iff_forall_ne_some.2 hs
  refine ⟨user, _, rfl, ?_⟩
  simp [initiateAuthentication, hc', onPolkitRequest_of_none W a hs', reattempt, setState,
    accepted, newState]

theorem Linked.refused (w : l.Linked) {text : String} {states sessions : ℕ}
    (hs : l.nextState ≤ states) (hs' : l.nextSession ≤ sessions) :
    (l.refused text states sessions).Linked where
  state_of_cookie := w.state_of_cookie
  cookie_of_state := w.cookie_of_state
  state_of_session := w.state_of_session
  session_of_state := w.session_of_state
  state_lt h st hst := lt_of_lt_of_le (w.state_lt h st hst) hs
  session_lt s h hsl := lt_of_lt_of_le (w.session_lt s h hsl) hs'
  result_lt r := by
    have := w.result_lt r
    simp only [PolkitListener.refused, Table.lookup_insert, Nat.lt_succ_iff_lt_or_eq, ← this]
    by_cases hr : r = l.nextResult <;> simp [hr]
  owes h st hst := by
    obtain ⟨res, hres, h0⟩ := w.owes h st hst
    refine ⟨res, ?_, h0⟩
    have hlt := (w.result_lt _).1 ⟨res, hres⟩
    simp [PolkitListener.refused, Nat.ne_of_lt hlt, hres]
  settled r res hr := by
    simp only [PolkitListener.refused, Table.lookup_insert] at hr
    split at hr
    · rw [← Option.some.inj hr]; exact .inl rfl
    · exact w.settled r res hr
  result_inj := w.result_inj

theorem Linked.accepted (w : l.Linked) (hc : st.cookie ∉ l.cookieToState)
    (hres : st.result = l.nextResult) (hses : st.session = some l.nextSession) :
    (l.accepted st).Linked := by
  have hstates : ∀ h', (l.accepted st).states.lookup h' =
      if h' = l.nextState then some st else l.states.lookup h' := by
    intro h'
    simp [PolkitListener.accepted]
  have hstate := Table.lookup_eq_none_of_lt w.state_lt
  have hsession := Table.lookup_eq_none_of_lt w.session_lt
  have hrold : ∀ r res, l.results.lookup r = some res → r ≠ l.nextResult :=
    fun r res hr => Nat.ne_of_lt ((w.result_lt r).1 ⟨res, hr⟩)
  -- a state of the new heap is the new one, or one of the old heap
  have hcase : ∀ h' u, (l.accepted st).states.lookup h' = some u →
      (h' = l.nextState ∧ u = st) ∨ l.states.lookup h' = some u := by
    intro h' u hu
    rw [hstates] at hu
    split at hu
    · exact .inl ⟨‹_›, (Option.some.inj hu).symm⟩
    · exact .inr hu
  refine .of_indexes
    (w.cookies.insert hstate (AList.lookup_eq_none.2 hc) rfl (fun c => ?_) hstates)
    (w.sessions.insert hstate hsession hses (fun s' => ?_) hstates) ?_ ?_ ?_ ?_ ?_ ?_
  · simp [PolkitListener.accepted]
  · simp [PolkitListener.accepted]
  · intro h' u hu
    rcases hcase h' u hu with ⟨rfl, -⟩ | hu
    · exact Nat.lt_succ_self _
    · exact Nat.lt_succ_of_lt (w.state_lt h' u hu)
  · intro s' h' hs'
    simp only [PolkitListener.accepted, Table.lookup_insert] at hs'
    split at hs'
    · subst s'; exact Nat.lt_succ_self _
    · exact Nat.lt_succ_of_lt (w.session_lt s' h' hs')
  · intro r
    have := w.result_lt r
    simp only [PolkitListener.accepted, Table.lookup_insert, Nat.lt_succ_iff_lt_or_eq, ← this]
    by_cases hr : r = l.nextResult <;> simp [hr]
  · intro h' u hu
    rcases hcase h' u hu with ⟨rfl, rfl⟩ | hu
    · exact ⟨{}, by simp [PolkitListener.accepted, hres], rfl⟩
    · obtain ⟨res, hr, h0⟩ := w.owes h' u hu
      exact ⟨res, by simp [PolkitListener.accepted, hrold _ _ hr, hr], h0⟩
  · intro r res hr
    simp only [PolkitListener.accepted, Table.lookup_insert] at hr
    split at hr
    next heq =>
      rw [← Option.some.inj hr]
      exact .inr ⟨rfl, l.nextState, st, by rw [hstates, if_pos rfl], hres.trans heq.symm⟩
    next =>
      refine (w.settled r res hr).imp id fun ⟨h0, h', u, hu, hur⟩ => ⟨h0, h', u, ?_, hur⟩
      rw [hstates, if_neg (Nat.ne_of_lt (w.state_lt h' u hu)), hu]
  · intro h₁ h₂ u₁ u₂ hu₁ hu₂ heq
    -- the new state's result is newer than any owed before
    have hne : ∀ h' u, l.states.lookup h' = some u → u.result ≠ l.nextResult := by
      intro h' u hu
      obtain ⟨res, hr, -⟩ := w.owes h' u hu
      exact hrold _ _ hr
    rcases hcase h₁ u₁ hu₁ with ⟨rfl, e₁⟩ | ho₁ <;> rcases hcase h₂ u₂ hu₂ with ⟨rfl, e₂⟩ | ho₂
    · rfl
    · exact absurd (heq.symm.trans (e₁ ▸ hres)) (hne _ _ ho₂)
    · exact absurd (heq.trans (e₂ ▸ hres)) (hne _ _ ho₁)
    · exact w.result_inj h₁ h₂ u₁ u₂ ho₁ ho₂ heq

theorem Healthy.initiateAuthentication (w : l.Healthy) :
    (l.initiateAuthentication W a actionId message iconName details cookie
      identities).1.Healthy := by
  by_cases hr : Refuses l a cookie identities
  · obtain ⟨text, states, sessions, a', hs, hs', -, heq⟩ :=
      initiateAuthentication_of_refuses W a actionId message iconName details cookie identities
        w.linked hr
    rw [heq]
    exact ⟨w.linked.refused hs hs', w.idle, w.safe⟩
  · obtain ⟨user, a', -, heq⟩ :=
      initiateAuthentication_of_not_refuses W a actionId message iconName details cookie
        identities hr
    rw [heq]
    have hnc : cookie ∉ l.cookieToState := fun hm => hr (.inl hm)
    refine ⟨w.linked.accepted hnc rfl rfl, fun h' u hu => ?_, w.safe⟩
    simp only [accepted, Table.lookup_insert] at hu
    split at hu
    · rw [← Option.some.inj hu]
      exact ⟨rfl, rfl, Nat.succ_pos _⟩
    · exact w.idle h' u hu

/-! ## Cancelling -/

/-- **The request is on its last attempt**: one more failure and
`finishAuth` gives up. -/
def LastAttempt (l : PolkitListener) (cookie : String) : Prop :=
  ∃ h st, l.cookieToState.lookup cookie = some h ∧ l.states.lookup h = some st ∧
    MAX_AUTH_RETRIES ≤ st.retryCount + 1

/-- The last part of `cancelPending`: the state is read again, marked and
finished. -/
theorem Healthy.markCancelled (w : l.Healthy) (hst : l.states.lookup h = some st) :
    ((l.setState h { st with cancelled := true }).finishAuth W a h).1.Healthy :=
  w.finishAuth W a hst ⟨rfl, rfl, rfl⟩ (w.idle h st hst).inProgress

/-- What `completed(false)` leaves of the state whose session sent it. -/
theorem lookup_onSessionCompleted_false (w : l.Healthy) (hst : l.states.lookup h = some st)
    (hs : st.session = some session) :
    (MAX_AUTH_RETRIES ≤ st.retryCount + 1 →
      (l.onSessionCompleted W a session false).1.states.lookup h = none) ∧
    (st.retryCount + 1 < MAX_AUTH_RETRIES →
      ∃ st', (l.onSessionCompleted W a session false).1.states.lookup h = some st' ∧
        st'.retryCount = st.retryCount + 1 ∧ st'.cookie = st.cookie) := by
  obtain ⟨s, hs', hsl⟩ := w.linked.session_of_state h st hst
  obtain rfl : s = session := by rw [hs, Option.some_inj] at hs'; exact hs'.symm
  have hidle := w.idle h st hst
  simp only [PolkitListener.onSessionCompleted, PolkitListener.withState, hsl, hst, Bool.not_false,
    if_true]
  set st₁ : SessionState := { st with gainedAuth := false, errorText := "Authentication failed" }
  have hst₁ : (l.setState h st₁).states.lookup h = some st₁ := by simp [lookup_setState]
  constructor
  · intro hlast
    obtain ⟨a', st'', -, heq, -⟩ := finishAuth_of_not_retries W
      (a.onSessionRetry st.cookie "Authentication failed") hst₁ hidle.inProgress
      fun hr => absurd hr.2.2 (not_lt.2 hlast)
    rw [heq, conclude_states]
    simp
  · intro hmore
    let st₂ : SessionState := { st₁ with retryCount := st₁.retryCount + 1 }
    have hs₂ : st₂.session = some s := hs
    rw [finishAuth_of_retries W (a.onSessionRetry st.cookie "Authentication failed") hst₁
      hidle.inProgress ⟨rfl, hidle.cancelled, hmore⟩, renewSession_eq _ _ hs₂]
    exact ⟨(l.setState h st₁).renewed st₂, by simp, rfl, rfl⟩

/-- **Cancelling is safe but on the last attempt**, where a `cancel()`
that completes at once leaves `cancelPending` with a deleted state. -/
theorem cancelPending_cases (w : l.Healthy) :
    (LastAttempt l cookie ∧ W.cancelCompletes a.tick = true →
      (l.cancelPending W a cookie).1.useAfterFree = true) ∧
    (¬ (LastAttempt l cookie ∧ W.cancelCompletes a.tick = true) →
      (l.cancelPending W a cookie).1.Healthy) := by
  unfold PolkitListener.cancelPending
  split
  next hc =>
    refine ⟨?_, fun _ => w⟩
    rintro ⟨⟨h, st, hc', -⟩, -⟩
    rw [hc] at hc'
    cases hc'
  next h hc =>
    obtain ⟨st, hst, -⟩ := w.linked.state_of_cookie cookie h hc
    obtain ⟨s, hs, -⟩ := w.linked.session_of_state h st hst
    have hlast : LastAttempt l cookie ↔ MAX_AUTH_RETRIES ≤ st.retryCount + 1 := by
      constructor
      · rintro ⟨h', st', hc', hst', hle⟩
        obtain rfl : h = h' := by rw [hc, Option.some_inj] at hc'; exact hc'
        rw [hst, Option.some_inj] at hst'
        rwa [hst']
      · exact fun hle => ⟨h, st, hc, hst, hle⟩
    simp only [hst, hs, hlast, cancelSession]
    cases hcc : W.cancelCompletes a.tick with
    | false =>
        simp only [Bool.false_eq_true, and_false, if_false, false_implies, not_false_eq_true,
          true_implies, true_and, hst]
        exact w.markCancelled W _ hst
    | true =>
        simp only [and_true, if_true, not_le]
        set a' := a.ticked.trace (.cancel s)
        obtain ⟨hgone, hkept⟩ := lookup_onSessionCompleted_false W a' w hst hs
        constructor
        · intro hle
          rw [hgone hle]
          rfl
        · intro hlt
          obtain ⟨st', hst', -⟩ := hkept hlt
          rw [hst']
          exact (w.onSessionCompleted W a' false).markCancelled W _ hst'

end PolkitListener

/-! ## The listener's runs -/

/-- What can call into the listener, and what the rest of the daemon can
do meanwhile. -/
inductive PolkitListener.Call where
  | initiateAuthentication (actionId message iconName : String) (details : Agent.Details)
      (cookie : String) (identities : List String)
  | cancelAuthentication
  | request (session : ℕ) (text : String) (echo : Bool)
  | completed (session : ℕ) (gainedAuthorization : Bool)
  | showError (session : ℕ) (text : String)
  | showInfo (session : ℕ) (text : String)
  | submitPassword (cookie pass : String)
  | cancelPending (cookie : String)
  /-- The agent is now `a`: the daemon has done something else. -/
  | elsewhere (a : Agent)

namespace PolkitListener

variable (W : World)

/-- The handling of one call. -/
def call (s : PolkitListener × Agent) (c : Call) : PolkitListener × Agent :=
  match c with
  | .initiateAuthentication actionId message iconName details cookie identities =>
    s.1.initiateAuthentication W s.2 actionId message iconName details cookie identities
  | .cancelAuthentication => s.1.cancelAuthentication W s.2
  | .request session text echo => s.1.onSessionRequest s.2 session text echo
  | .completed session gained => s.1.onSessionCompleted W s.2 session gained
  | .showError session text => s.1.onSessionError s.2 session text
  | .showInfo session text => s.1.onSessionInfo s.2 session text
  | .submitPassword cookie pass => s.1.submitPassword s.2 cookie pass
  | .cancelPending cookie => s.1.cancelPending W s.2 cookie
  | .elsewhere a => (s.1, a)

/-- **The listener as a machine.** After a use after free nothing more is
said. -/
def machine : Machine (PolkitListener × Agent) Call where
  init := ({}, .initial)
  step s c := if s.1.useAfterFree then s else call W s c

/-- **The life cycle is kept.** No handler has used a deleted state, and
every result is completed at most once, and once when no live state owes
it any more. -/
structure Sound (l : PolkitListener) : Prop where
  safe : l.useAfterFree = false
  completed : ∀ r res, l.results.lookup r = some res → res.completions ≤ 1 ∧
    ((¬ ∃ h st, l.states.lookup h = some st ∧ st.result = r) → res.completions = 1)

/-- **The condition on a call.** A cancelled request is not on its last
attempt, or its `cancel()` does not complete before it returns. -/
def CancelsInTime (s : PolkitListener × Agent) (c : Call) : Prop :=
  match c with
  | .cancelPending cookie => ¬ (LastAttempt s.1 cookie ∧ W.cancelCompletes s.2.tick = true)
  | _ => True

theorem machine_step {s : PolkitListener × Agent} (hs : s.1.useAfterFree = false) (c : Call) :
    (machine W).step s c = call W s c := by
  simp [machine, hs]

theorem machine_step_of_useAfterFree {s : PolkitListener × Agent}
    (hs : s.1.useAfterFree = true) (c : Call) : (machine W).step s c = s := by
  simp [machine, hs]

theorem healthy_init : ({} : PolkitListener).Healthy := by
  refine ⟨?_, ?_, rfl⟩
  · constructor <;> simp
  · intro h st hst
    simp at hst

theorem Healthy.sound {l : PolkitListener} (w : l.Healthy) : l.Sound where
  safe := w.safe
  completed r res hr := by
    rcases w.linked.settled r res hr with h1 | ⟨h0, howed⟩
    · exact ⟨h1.le, fun _ => h1⟩
    · exact ⟨h0.le.trans (Nat.zero_le 1), fun hn => absurd howed hn⟩

/-- **One call from a healthy heap.** It stays healthy where the condition
is met, and is used after free where not. -/
theorem Healthy.call {s : PolkitListener × Agent} (w : s.1.Healthy) (c : Call) :
    (CancelsInTime W s c → (PolkitListener.call W s c).1.Healthy) ∧
    (¬ CancelsInTime W s c → (PolkitListener.call W s c).1.useAfterFree = true) := by
  cases c with
  | initiateAuthentication actionId message iconName details cookie identities =>
      exact ⟨fun _ => w.initiateAuthentication W _ _ _ _ _ _ _, fun h => absurd trivial h⟩
  | cancelAuthentication => exact ⟨fun _ => w.cancelAuthentication W _, fun h => absurd trivial h⟩
  | request session text echo =>
      exact ⟨fun _ => w.onSessionRequest _ _ _, fun h => absurd trivial h⟩
  | completed session gained =>
      exact ⟨fun _ => w.onSessionCompleted W _ _, fun h => absurd trivial h⟩
  | showError session text => exact ⟨fun _ => w.onSessionError _ _, fun h => absurd trivial h⟩
  | showInfo session text => exact ⟨fun _ => w.onSessionInfo _ _, fun h => absurd trivial h⟩
  | submitPassword cookie pass =>
      exact ⟨fun _ => w.submitPassword _ _ _, fun h => absurd trivial h⟩
  | cancelPending cookie =>
      obtain ⟨hbad, hgood⟩ := cancelPending_cases W s.2 cookie w
      exact ⟨hgood, fun h => hbad (not_not.1 h)⟩
  | elsewhere a => exact ⟨fun _ => w, fun h => absurd trivial h⟩

/-- In every run the heap is healthy, until it is used after free. -/
theorem heaped_run (ins : List Call) (hs : ((machine W).run ins).1.useAfterFree = false) :
    ((machine W).run ins).1.Healthy := by
  refine Machine.invariant (M := machine W)
    (I := fun s => s.1.useAfterFree = false → s.1.Healthy) (fun _ => healthy_init)
    (fun s c w hs' => ?_) ins hs
  cases hs : s.1.useAfterFree with
  | true => simp [machine, hs] at hs'
  | false =>
      rw [machine_step W hs] at hs' ⊢
      obtain ⟨hgood, hbad⟩ := (w hs).call W c
      by_cases hc : CancelsInTime W s c
      · exact hgood hc
      · rw [hbad hc] at hs'
        cases hs'

/-- Runs that meet the condition stay healthy. -/
theorem healthy_run {ins : List Call} (h : (machine W).Meets (CancelsInTime W) ins) :
    ((machine W).run ins).1.Healthy := by
  refine Machine.invariant_of_meets (I := fun s => s.1.Healthy) healthy_init
    (fun s c w hc => ?_) ins h
  rw [machine_step W w.safe]
  exact (w.call W c).1 hc

/-- **The life cycle holds all along a run exactly when every cancellation
in it comes in time.** -/
theorem sound_iff_cancelsInTime (ins : List Call) :
    (∀ pre, pre <+: ins → ((machine W).run pre).1.Sound) ↔
      (machine W).Meets (CancelsInTime W) ins := by
  constructor
  · induction ins using List.reverseRecOn with
    | nil => exact fun _ => Machine.meets_nil
    | append_singleton ins c ih =>
        intro hs
        have hm := ih fun pre hp => hs pre (hp.trans (List.prefix_append _ _))
        refine Machine.meets_snoc.2 ⟨hm, ?_⟩
        by_contra hc
        have w := healthy_run W hm
        have hsafe := (hs _ List.prefix_rfl).safe
        rw [Machine.run_snoc, machine_step W w.safe, (w.call W c).2 hc] at hsafe
        cases hsafe
  · exact fun hm pre hp => (healthy_run W (hm.of_prefix hp)).sound

/-- A request that fails twice and is then cancelled, by a `cancel()` that
completes at once: `cancelPending` uses the deleted state. -/
theorem cancelPending_useAfterFree :
    ¬ ∀ (W : World) (ins : List Call), ((machine W).run ins).1.Sound := by
  intro h
  have := (h (World.plain (fun _ => 0) true)
    [.initiateAuthentication "action" "message" "icon" [] "c" ["unix-user:1000"],
      .completed 0 false, .completed 1 false, .cancelPending "c"]).safe
  revert this
  decide

end PolkitListener

end BbAuth
