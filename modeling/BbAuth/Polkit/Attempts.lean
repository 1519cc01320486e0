import BbAuth.Agent.Policy
import BbAuth.Polkit.LifeCycle
/-!
# The attempts of a polkit request

A request goes by the handle of its `SessionState`, which is never reused.
Each call of the listener is about some requests: what it adds to the
trace is counted for these. The attempts of a request are the PAM sessions
initiated for it, its failures the errors told to the agent.

The state's own counter runs with the attempts, so that there are never
more than three. A cancelled request is at once marked and concluded, and
gone for good. But `cancelPending` calls `cancel()` before it marks the
state: where `cancel()` completes at once, the completion is counted and
reported as one more failure, and retried.
-/

namespace BbAuth

/-- The output starts an attempt. -/
def Output.isInitiate : Output → Bool
  | .initiate _ => true
  | _ => false

/-- The output shows an error of an open session. -/
def Output.isFailure : Output → Bool
  | .emitted e => e.value "type" = .string "session.updated" ∧ (e.value "error").toString ≠ ""
  | _ => false

namespace Agent

variable {W : World} {a b c : Agent}

/-- The trace grows by outputs of which `n` start an attempt. -/
def Starts (a b : Agent) (n : ℕ) : Prop :=
  ∃ os, b.log = a.log ++ os ∧ os.countP Output.isInitiate = n

theorem Starts.trans {m n : ℕ} (h : Starts a b m) (h' : Starts b c n) : Starts a c (m + n) := by
  obtain ⟨os, hl, hn⟩ := h
  obtain ⟨os', hl', hn'⟩ := h'
  exact ⟨os ++ os', by rw [hl', hl, List.append_assoc], by rw [List.countP_append, hn, hn']⟩

theorem starts_of_log (h : b.log = a.log) : Starts a b 0 := ⟨[], by simp [h], rfl⟩

theorem starts_trace (a : Agent) (o : Output) :
    Starts a (a.trace o) (if o.isInitiate then 1 else 0) :=
  ⟨[o], rfl, by simp [List.countP_cons]⟩

/-- Neither an attempt is started nor an error shown. -/
def Calm (o : Output) : Prop := o.isInitiate = false ∧ o.isFailure = false

/-- The policy that nothing but what is calm is done. -/
def calm : Policy := .ofDone Calm (fun _ _ => ⟨rfl, rfl⟩) fun _ _ _ => ⟨rfl, rfl⟩

/-- The policy that no attempt is started. -/
def notInitiate : Policy :=
  .ofDone (fun o => o.isInitiate = false) (fun _ _ => rfl) fun _ _ _ => rfl

/-- The end of a session is shown as such. -/
theorem calm_closed (s : Session) : calm.event s.toClosedEvent :=
  ⟨rfl, by simp [Output.isFailure]⟩

/-- A service starts no attempt. -/
theorem Obeys.starts (h : Obeys notInitiate a b) : Starts a b 0 := by
  obtain ⟨-, os, hl, ho⟩ := h (kept_ofDone a)
  refine ⟨os, hl, List.countP_eq_zero.2 fun o hm => ?_⟩
  have ho : o.isInitiate = false := ho o hm
  simp [ho]

theorem Obeys.starts_of_calm (h : Obeys calm a b) : Starts a b 0 := by
  obtain ⟨-, os, hl, ho⟩ := h (kept_ofDone a)
  refine ⟨os, hl, List.countP_eq_zero.2 fun o hm => ?_⟩
  have ho : Calm o := ho o hm
  simp [ho.1]

/-- The attempts started from `a` to `b`. -/
def started (a b : Agent) : ℕ := (b.log.drop a.log.length).countP Output.isInitiate

theorem Starts.started_eq {n : ℕ} (h : Starts a b n) : started a b = n := by
  obtain ⟨os, hl, hn⟩ := h
  rw [started, hl, List.drop_left, hn]

theorem starts_emitUpdate (a : Agent) (id : String) (f : Session → Session) :
    Starts a (a.emitUpdate (a.sessionStore.update id f)) 0 :=
  (obeys_emitUpdate a id fun _ _ => rfl : Obeys notInitiate _ _).starts

end Agent

open Agent

namespace PolkitListener

variable {W : World} {l : PolkitListener} {a : Agent} {h k n : ℕ} {st st' : SessionState}

/-! ## What the conclusion and the retry add -/

theorem obeys_conclude (W : World) (l : PolkitListener) (a : Agent) (h : ℕ) (st : SessionState) :
    Obeys calm a (l.conclude W a h st).2 :=
  obeys_onSessionComplete a st.cookie st.gainedAuth fun _ _ => calm_closed _

theorem starts_conclude (W : World) (l : PolkitListener) (a : Agent) (h : ℕ) (st : SessionState) :
    Starts a (l.conclude W a h st).2 0 :=
  (obeys_onSessionComplete a st.cookie st.gainedAuth fun _ _ => rfl :
    Obeys notInitiate _ _).starts

@[simp] theorem conclude_nextState : (l.conclude W a h st).1.nextState = l.nextState := by
  simp only [conclude, setCompleted]
  rw [onResult_eq]
  unfold removeSession
  split <;> rfl

@[simp] theorem finishAuth_nextState : (l.finishAuth W a h).1.nextState = l.nextState := by
  simp only [finishAuth]
  split
  · rfl
  split
  · rfl
  split
  · split
    · simp only [renewSession, reattempt, setState, removeSession]
      split <;> rfl
    · exact conclude_nextState
  · exact conclude_nextState

/-- **A cancelled state is concluded**, and no error is shown. -/
theorem obeys_finishAuth_cancelled (W : World) (l : PolkitListener) (a : Agent) (h : ℕ)
    (st : SessionState) :
    Obeys calm a ((l.setState h { st with cancelled := true }).finishAuth W a h).2 := by
  have hst : (l.setState h { st with cancelled := true }).states.lookup h =
      some { st with cancelled := true } := by simp [lookup_setState]
  simp only [finishAuth, hst, Bool.not_true, Bool.and_false, Bool.false_eq_true, if_false]
  split
  · exact .refl a
  · exact obeys_conclude W _ a h _

/-! ## How far a call takes a request -/

/-- **The request `k` gets `n` attempts further**: if it lives on, its
counter says so, and if it got any it had room for them. -/
structure Advances (k : ℕ) (s s' : PolkitListener × Agent) (n : ℕ) : Prop where
  kept : ∀ st', s'.1.states.lookup k = some st' →
    ∃ st, s.1.states.lookup k = some st ∧ st'.retryCount = st.retryCount + n
  room : n = 0 ∨ ∃ st, s.1.states.lookup k = some st ∧ st.retryCount + n < MAX_AUTH_RETRIES
  nextState : s.1.nextState ≤ s'.1.nextState

theorem advances_of_states {s s' : PolkitListener × Agent}
    (h : s'.1.states.lookup k = s.1.states.lookup k) (hn : s.1.nextState ≤ s'.1.nextState) :
    Advances k s s' 0 :=
  ⟨fun st' hst' => ⟨st', h ▸ hst', rfl⟩, .inl rfl, hn⟩

theorem advances_of_gone {s s' : PolkitListener × Agent}
    (h : s'.1.states.lookup k = none) (hn : s.1.nextState ≤ s'.1.nextState) :
    Advances k s s' 0 :=
  ⟨fun st' hst' => by simp [h] at hst', .inl rfl, hn⟩

theorem advances_setState {a a' : Agent} (hst : l.states.lookup h = some st)
    (hc : st'.retryCount = st.retryCount) : Advances k (l, a) (l.setState h st', a') 0 := by
  refine ⟨fun st'' hst'' => ?_, .inl rfl, le_rfl⟩
  rw [lookup_setState] at hst''
  split at hst''
  next hk =>
    obtain rfl := Option.some.inj hst''
    exact ⟨st, hk ▸ hst, hc⟩
  · exact ⟨st'', hst'', rfl⟩

/-- A request that has ended is given no more. -/
theorem Advances.trans {s s' s'' : PolkitListener × Agent} (h : Advances k s s' n)
    (h' : Advances k s' s'' 0) : Advances k s s'' n where
  kept st'' hst'' := by
    obtain ⟨st', hst', he'⟩ := h'.kept st'' hst''
    obtain ⟨st, hst, he⟩ := h.kept st' hst'
    exact ⟨st, hst, by omega⟩
  room := h.room
  nextState := h.nextState.trans h'.nextState

/-- **What a call does to the attempts**: it starts some, which are those
of the one request `h`. -/
def Attempts (h : ℕ) (s s' : PolkitListener × Agent) : Prop :=
  ∃ n, Starts s.2 s'.2 n ∧ ∀ k, Advances k s s' (if k = h then n else 0)

/-- `finishAuth` starts one attempt, or concludes the state. -/
theorem attempts_finishAuth (w : l.Healthy) (hst : l.states.lookup h = some st)
    (hv : st.Version st') (hp : st'.inProgress = true) (hc : st'.retryCount = st.retryCount) :
    Attempts h (l, a) ((l.setState h st').finishAuth W a h) := by
  have hst' : (l.setState h st').states.lookup h = some st' := by simp [lookup_setState]
  by_cases hr : Retries st'
  · obtain ⟨s, hs, -⟩ := w.linked.session_of_state h st hst
    have heq := finishAuth_of_retries W a hst' hp hr
    rw [renewSession_eq a { st' with retryCount := st'.retryCount + 1 }
      (hv.session.trans hs)] at heq
    rw [heq]
    refine ⟨1, starts_trace a _, fun k => ?_⟩
    by_cases hk : k = h
    · subst hk
      rw [if_pos rfl]
      refine ⟨fun st'' hst'' => ?_, .inr ⟨st, hst, hc ▸ hr.2.2⟩, le_rfl⟩
      simp only [Table.lookup_insert, if_true, Option.some_inj] at hst''
      exact ⟨st, hst, by rw [← hst'', renewed, hc]⟩
    · rw [if_neg hk]
      exact advances_of_states (by simp [setState, hk]) le_rfl
  · obtain ⟨a', st'', -, heq, ha'⟩ := finishAuth_of_not_retries W a hst' hp hr
    have hs : Starts a a' 0 := by
      rcases ha' with rfl | rfl
      · exact starts_of_log rfl
      · exact starts_emitUpdate a _ _
    rw [heq]
    refine ⟨0, hs.trans (starts_conclude W _ a' h st''), fun k => ?_⟩
    have hn : l.nextState ≤ ((l.setState h st').conclude W a' h st'').1.nextState := by
      rw [conclude_nextState]
      exact le_rfl
    rw [ite_self]
    by_cases hk : k = h
    · exact advances_of_gone (by rw [conclude_states, hk]; simp) hn
    · exact advances_of_states (by rw [conclude_states]; simp [setState, hk]) hn

/-- What the agent was told before. -/
theorem Attempts.of_starts {a' : Agent} {s : PolkitListener × Agent} (ha : Starts a a' 0)
    (h : Attempts k (l, a') s) : Attempts k (l, a) s := by
  obtain ⟨n, hs, hadv⟩ := h
  exact ⟨n, by simpa using ha.trans hs, fun j => ⟨(hadv j).kept, (hadv j).room, (hadv j).nextState⟩⟩

/-- What is concluded afterwards starts no more. -/
theorem Attempts.trans {s s' s'' : PolkitListener × Agent} (h : Attempts k s s')
    (hs : Starts s'.2 s''.2 0) (hadv : ∀ j, Advances j s' s'' 0) : Attempts k s s'' := by
  obtain ⟨n, hn, hadv'⟩ := h
  exact ⟨n, hn.trans hs, fun j => (hadv' j).trans (hadv j)⟩

/-- Nothing is started. -/
theorem attempts_of_states {s s' : PolkitListener × Agent} (hs : Starts s.2 s'.2 0)
    (h : ∀ k, Advances k s s' 0) : Attempts k s s' :=
  ⟨0, hs, fun j => by rw [ite_self]; exact h j⟩

/-! ## The calls -/

/-- **The requests a call is about.** -/
def Concerns (l : PolkitListener) (c : Call) (h : ℕ) : Prop :=
  match c with
  | .initiateAuthentication _ _ _ _ _ _ => h = l.nextState
  | .cancelAuthentication => h ∈ l.states
  | .request session _ _ | .completed session _ | .showError session _ | .showInfo session _ =>
    l.sessionToState.lookup session = some h
  | .submitPassword cookie _ | .cancelPending cookie => l.cookieToState.lookup cookie = some h
  | .elsewhere _ => False

instance (l : PolkitListener) (c : Call) (h : ℕ) : Decidable (Concerns l c h) :=
  match c with
  | .initiateAuthentication _ _ _ _ _ _ => inferInstanceAs (Decidable (h = l.nextState))
  | .cancelAuthentication => inferInstanceAs (Decidable (h ∈ l.states))
  | .request session _ _ | .completed session _ | .showError session _ | .showInfo session _ =>
    inferInstanceAs (Decidable (l.sessionToState.lookup session = some h))
  | .submitPassword cookie _ | .cancelPending cookie =>
    inferInstanceAs (Decidable (l.cookieToState.lookup cookie = some h))
  | .elsewhere _ => inferInstanceAs (Decidable False)

variable (W) in
/-- A signal of a session starts attempts for the request of that session. -/
theorem Healthy.attempts_onSessionCompleted (w : l.Healthy) {session : ℕ} (gained : Bool)
    (hs : l.sessionToState.lookup session = some h) :
    Attempts h (l, a) (l.onSessionCompleted W a session gained) := by
  obtain ⟨st, hst, -⟩ := w.linked.state_of_session session h hs
  have hp := (w.idle h st hst).inProgress
  simp only [PolkitListener.onSessionCompleted, PolkitListener.withState, hs, hst]
  split
  · exact .of_starts (starts_emitUpdate a _ _)
      (attempts_finishAuth w hst ⟨rfl, rfl, rfl⟩ hp rfl)
  · exact attempts_finishAuth w hst ⟨rfl, rfl, rfl⟩ hp rfl

/-- A state is marked and concluded: nothing is started. -/
theorem Healthy.markCancelled_cases (w : l.Healthy) (hst : l.states.lookup h = some st) :
    Starts a ((l.setState h { st with cancelled := true }).finishAuth W a h).2 0 ∧
      ∀ k, ((l.setState h { st with cancelled := true }).finishAuth W a h).1.states.lookup k =
        if k = h then none else l.states.lookup k :=
  ⟨(obeys_finishAuth_cancelled W l a h st).starts_of_calm,
    lookup_finishAuth_cancelled W a (w.idle h st hst).inProgress⟩

/-- Every state that `cancelAuthentication` visits is concluded. -/
theorem Healthy.lookup_cancelLoop : ∀ (hs : List ℕ) (l : PolkitListener) (a : Agent), l.Healthy →
    hs.Nodup → (∀ h ∈ hs, ∃ st, l.states.lookup h = some st) → ∀ k,
    (PolkitListener.cancelLoop W hs l a).1.states.lookup k =
      if k ∈ hs then none else l.states.lookup k
  | [], l, a, _, _, _, k => by simp [PolkitListener.cancelLoop]
  | h :: hs, l, a, w, hnd, hlive, k => by
      obtain ⟨hnot, hnd⟩ := List.nodup_cons.1 hnd
      obtain ⟨st, hst⟩ := hlive h List.mem_cons_self
      obtain ⟨-, hgone⟩ := w.markCancelled_cases (W := W) (a := a) hst
      have w' := w.markCancelled W a hst
      simp only [PolkitListener.cancelLoop, hst]
      generalize (l.setState h { st with cancelled := true }).finishAuth W a h = r at hgone w' ⊢
      rw [Healthy.lookup_cancelLoop hs r.1 r.2 w' hnd, hgone]
      · by_cases hk : k = h
        · simp [hk]
        · simp [hk]
      · intro h' hh'
        have hne : h' ≠ h := fun he => hnot (he ▸ hh')
        rw [hgone h', if_neg hne]
        exact hlive h' (List.mem_cons_of_mem _ hh')

/-- It shows no error. -/
theorem obeys_cancelLoop (W : World) : ∀ (hs : List ℕ) (l : PolkitListener) (a : Agent),
    Obeys calm a (cancelLoop W hs l a).2
  | [], _, a => .refl a
  | h :: hs, l, a => by
      unfold cancelLoop
      split
      · exact .refl a
      next st hst =>
        exact (obeys_finishAuth_cancelled W l a h st).trans (obeys_cancelLoop W hs _ _)

theorem cancelLoop_nextState (W : World) : ∀ (hs : List ℕ) (l : PolkitListener) (a : Agent),
    (cancelLoop W hs l a).1.nextState = l.nextState
  | [], _, _ => rfl
  | h :: hs, l, a => by
      unfold cancelLoop
      split
      · rfl
      · exact (cancelLoop_nextState W hs _ _).trans finishAuth_nextState

/-- **`cancelAuthentication` ends every request**, and shows no error. -/
theorem Healthy.cancelAuthentication_cases (w : l.Healthy) (a : Agent) :
    Obeys calm a (l.cancelAuthentication W a).2 ∧
      (l.cancelAuthentication W a).1.nextState = l.nextState ∧
      ∀ k, (l.cancelAuthentication W a).1.states.lookup k = none := by
  have hticked : Obeys calm a a.ticked := obeys_of_eq rfl rfl rfl rfl
  refine ⟨hticked.trans (obeys_cancelLoop W _ l a.ticked), cancelLoop_nextState W _ l a.ticked,
    fun k => ?_⟩
  have hlook := Healthy.lookup_cancelLoop (W := W)
    (W.walk a.tick (l.cookieToState.pairs.map Prod.snd)) l a.ticked w
    (by rw [W.nodup_walk]; exact w.cookieStates.1)
    (fun h hh => w.cookieStates.2 h (W.mem_walk.1 hh)) k
  refine hlook.trans ?_
  split
  · rfl
  next hk =>
    -- a live state is found by its cookie, so the loop visits it
    rw [Option.eq_none_iff_forall_ne_some]
    intro st hst
    refine hk (W.mem_walk.2 (List.mem_map.2 ⟨(st.cookie, k), Table.mem_pairs.2 ?_, rfl⟩))
    exact w.linked.cookie_of_state k st hst

variable (W) in
/-- **`cancelPending` ends the request of its cookie**, or uses it after
`cancel()` has ended it. -/
theorem Healthy.cancelPending_cases (w : l.Healthy) (a : Agent) {cookie : String}
    (hc : l.cookieToState.lookup cookie = some h) :
    Attempts h (l, a) (l.cancelPending W a cookie) ∧
      (l.cancelPending W a cookie).1.states.lookup h = none ∧
      (W.cancelCompletes a.tick = false → Obeys calm a (l.cancelPending W a cookie).2) := by
  obtain ⟨st, hst, -⟩ := w.linked.state_of_cookie cookie h hc
  obtain ⟨s, hs, hsl⟩ := w.linked.session_of_state h st hst
  have hcancel : Attempts h (l, a) (l.cancelSession W a s) ∧ (l.cancelSession W a s).1.Healthy := by
    have h₀ : Starts a (a.ticked.trace (.cancel s)) 0 := starts_trace a.ticked (.cancel s)
    simp only [cancelSession]
    split
    · exact ⟨.of_starts h₀ (w.attempts_onSessionCompleted W false hsl), w.onSessionCompleted W _ false⟩
    · exact ⟨attempts_of_states h₀ fun k => advances_of_states rfl le_rfl, w⟩
  have hquiet : W.cancelCompletes a.tick = false →
      l.cancelSession W a s = (l, a.ticked.trace (.cancel s)) := by
    intro hq
    simp [cancelSession, hq]
  obtain ⟨hatt, w'⟩ := hcancel
  simp only [PolkitListener.cancelPending, hc, hst, hs]
  generalize l.cancelSession W a s = r at hatt w' hquiet ⊢
  obtain ⟨l', a'⟩ := r
  dsimp only
  split
  next hgone =>
    refine ⟨hatt.trans (starts_of_log rfl) fun j => advances_of_states rfl le_rfl, hgone, fun hq => ?_⟩
    obtain ⟨rfl, -⟩ := Prod.mk.inj (hquiet hq)
    rw [hst] at hgone
    cases hgone
  next st' hst' =>
    obtain ⟨hstarts, hlook⟩ := w'.markCancelled_cases (W := W) (a := a') hst'
    refine ⟨hatt.trans hstarts fun j => ?_, by rw [hlook, if_pos rfl], fun hq => ?_⟩
    · by_cases hj : j = h
      · exact advances_of_gone (by rw [hlook, if_pos hj]) (by rw [finishAuth_nextState]; exact le_rfl)
      · exact advances_of_states (by rw [hlook, if_neg hj])
          (by rw [finishAuth_nextState]; exact le_rfl)
    · obtain ⟨rfl, rfl⟩ := Prod.mk.inj (hquiet hq)
      have hticked : Obeys calm a a.ticked := obeys_of_eq rfl rfl rfl rfl
      have hcancel : Obeys calm a.ticked (a.ticked.trace (.cancel s)) :=
        obeys_trace a.ticked ⟨rfl, rfl⟩
      exact (hticked.trans hcancel).trans (obeys_finishAuth_cancelled W _ _ h st')

/-! ## Every call -/

variable (W) in
/-- **What a call does to the attempts.** It starts some, which are those
of the requests it is about; or it accepts a request and starts its first;
or it is not the listener's. -/
inductive Turn (s : PolkitListener × Agent) (c : Call) : PolkitListener × Agent → Prop
  | starts (s' : PolkitListener × Agent) (m : ℕ) (hs : Starts s.2 s'.2 m)
      (hadv : ∀ k, Advances k s s' (if Concerns s.1 c k then m else 0)) : Turn s c s'
  | accepts (st : SessionState) (a : Agent) (h0 : st.retryCount = 0) (hs : Starts s.2 a 1)
      (hc : ∀ k, Concerns s.1 c k ↔ k = s.1.nextState) : Turn s c (s.1.accepted st, a)
  | elsewhere (b : Agent) (hc : ∀ k, ¬ Concerns s.1 c k) : Turn s c (s.1, b)

/-- Nothing is started. -/
theorem Turn.still {s s' : PolkitListener × Agent} (c : Call) (hs : Starts s.2 s'.2 0)
    (h : ∀ k, Advances k s s' 0) : Turn s c s' :=
  .starts s' 0 hs fun k => by rw [ite_self]; exact h k

/-- Attempts are started for one request. -/
theorem Attempts.turn {s s' : PolkitListener × Agent} {c : Call} (h : Attempts k s s')
    (hc : ∀ j, Concerns s.1 c j ↔ j = k) : Turn s c s' := by
  obtain ⟨m, hs, hadv⟩ := h
  exact .starts s' m hs fun j => by simpa only [hc] using hadv j

/-- A handler that starts from a signal and starts no attempt. -/
theorem Healthy.turn_withState (w : l.Healthy) (c : Call) (session : ℕ)
    {f : ℕ → SessionState → PolkitListener × Agent}
    (hf : ∀ h st, l.states.lookup h = some st → Starts a (f h st).2 0 ∧
      ∀ k, Advances k (l, a) (f h st) 0) : Turn (l, a) c (l.withState a session f) := by
  have hq : Starts a (l.withState a session f).2 0 ∧
      ∀ k, Advances k (l, a) (l.withState a session f) 0 :=
    w.withState a (Q := fun r => Starts a r.2 0 ∧ ∀ k, Advances k (l, a) r 0)
      ⟨starts_of_log rfl, fun k => advances_of_states rfl le_rfl⟩ hf
  exact .still c hq.1 hq.2

/-- **Every call of a healthy listener is such a turn.** -/
theorem turn_call (W : World) (w : l.Healthy) (a : Agent) (c : Call) :
    Turn (l, a) c (call W (l, a) c) := by
  cases c with
  | initiateAuthentication actionId message iconName details cookie identities =>
      by_cases hr : Refuses l a cookie identities
      · obtain ⟨text, states, sessions, a', hstates, -, ha', heq⟩ :=
          initiateAuthentication_of_refuses W a actionId message iconName details cookie
            identities w.linked hr
        have hs : Starts a a' 0 := by rcases ha' with rfl | rfl <;> exact starts_of_log rfl
        simp only [call, heq]
        exact .still _ hs fun k => advances_of_states rfl hstates
      · obtain ⟨user, a', ha', heq⟩ :=
          initiateAuthentication_of_not_refuses W a actionId message iconName details cookie
            identities hr
        -- the session is opened first, and that starts nothing
        have hcreate : Starts a a' 0 := by
          rw [ha']
          have hticked : Starts a a.ticked 0 := starts_of_log rfl
          exact hticked.trans (obeys_createSession a.ticked cookie .polkit _ fun _ => rfl :
            Obeys notInitiate _ _).starts
        simp only [call, heq]
        exact .accepts _ _ rfl (hcreate.trans (starts_trace a' _)) fun k => Iff.rfl
  | cancelAuthentication =>
      -- every live state is given up, and none is given another attempt
      obtain ⟨hcalm, hn, hgone⟩ := w.cancelAuthentication_cases (W := W) a
      exact .still _ hcalm.starts_of_calm fun k => advances_of_gone (hgone k) hn.ge
  | request session text echo =>
      simp only [call, onSessionRequest]
      exact w.turn_withState _ session fun h st hst =>
        ⟨starts_emitUpdate a _ _, fun k => advances_setState hst rfl⟩
  | completed session gained =>
      cases hs : l.sessionToState.lookup session with
      | none =>
          have heq : l.onSessionCompleted W a session gained = (l, a) := by
            simp [onSessionCompleted, withState, hs]
          simp only [call, heq]
          exact .still _ (starts_of_log rfl) fun k => advances_of_states rfl le_rfl
      | some h =>
          refine (w.attempts_onSessionCompleted W gained hs).turn fun k => ?_
          simp [Concerns, hs, eq_comm]
  | showError session text =>
      simp only [call, onSessionError]
      exact w.turn_withState _ session fun h st hst =>
        ⟨starts_emitUpdate a _ _, fun k => advances_setState hst rfl⟩
  | showInfo session text =>
      simp only [call, onSessionInfo]
      exact w.turn_withState _ session fun h st hst =>
        ⟨starts_emitUpdate a _ _, fun k => advances_of_states rfl le_rfl⟩
  | submitPassword cookie pass =>
      have hs : Starts a (a.trace (.submitPassword cookie pass)) 0 := starts_trace a _
      -- the password is handed to the session that runs: no attempt is started
      obtain ⟨hstarts, hstates, hnext⟩ : Starts a (l.submitPassword a cookie pass).2 0 ∧
          (l.submitPassword a cookie pass).1.states = l.states ∧
          l.nextState ≤ (l.submitPassword a cookie pass).1.nextState := by
        unfold submitPassword
        dsimp only
        split
        · exact ⟨hs, rfl, le_rfl⟩
        split
        · exact ⟨hs, rfl, le_rfl⟩
        split
        · exact ⟨hs, rfl, le_rfl⟩
        · exact ⟨hs.trans (starts_trace _ _), rfl, le_rfl⟩
      exact .still _ hstarts fun k => advances_of_states (by rw [call, hstates]) hnext
  | cancelPending cookie =>
      cases hc : l.cookieToState.lookup cookie with
      | none =>
          have heq : l.cancelPending W a cookie = (l, a) := by simp [cancelPending, hc]
          simp only [call, heq]
          exact .still _ (starts_of_log rfl) fun k => advances_of_states rfl le_rfl
      | some h =>
          refine (w.cancelPending_cases W a hc).1.turn fun k => ?_
          simp [Concerns, hc, eq_comm]
  | elsewhere b => exact .elsewhere b fun k => id

/-! ## The budget -/

/-- **The budget of a request**: it has been given `n` attempts. A live
state's counter is one behind, and none is given to a request to come. -/
structure Budget (l : PolkitListener) (k n : ℕ) : Prop where
  counted : ∀ st, l.states.lookup k = some st → n = st.retryCount + 1
  fresh : l.nextState ≤ k → n = 0
  bounded : n ≤ MAX_AUTH_RETRIES

theorem Budget.advance {s s' : PolkitListener × Agent} {m : ℕ} (hb : Budget s.1 k n)
    (hlt : ∀ st, s.1.states.lookup k = some st → k < s.1.nextState) (h : Advances k s s' m) :
    Budget s'.1 k (n + m) where
  counted st' hst' := by
    obtain ⟨st, hst, he⟩ := h.kept st' hst'
    have := hb.counted st hst
    omega
  fresh hk := by
    have hn := hb.fresh (h.nextState.trans hk)
    rcases h.room with hm | ⟨st, hst, -⟩
    · omega
    · have := hlt st hst
      have := h.nextState
      omega
  bounded := by
    rcases h.room with hm | ⟨st, hst, hlt⟩
    · have := hb.bounded
      omega
    · have := hb.counted st hst
      omega

/-- **Every call is within the budget**, and is counted for the requests it
is about. -/
theorem budget_call (W : World) (w : l.Healthy) (a : Agent) (c : Call) (hb : Budget l k n) :
    Budget (call W (l, a) c).1 k
      (n + if Concerns l c k then started a (call W (l, a) c).2 else 0) := by
  have hturn := turn_call W w a c
  generalize call W (l, a) c = s' at hturn ⊢
  cases hturn with
  | starts s' m hs hadv =>
      rw [hs.started_eq]
      exact Budget.advance (s := (l, a)) hb (w.linked.state_lt k) (hadv k)
  | accepts st a' h0 hs hc =>
      rw [hs.started_eq]
      by_cases hk : k = l.nextState
      · -- the new request has its first attempt
        have hn := hb.fresh hk.ge
        rw [if_pos ((hc k).2 hk), hn]
        refine ⟨fun st' hst' => ?_, fun hle => ?_, by decide⟩
        · simp only [accepted, Table.lookup_insert, if_pos hk, Option.some_inj] at hst'
          rw [← hst', h0]
        · have : l.nextState + 1 ≤ k := hle
          omega
      · have hadv : Advances k (l, a) (l.accepted st, a') 0 :=
          advances_of_states (by simp [accepted, hk]) (Nat.le_succ _)
        rw [if_neg (mt (hc k).1 hk)]
        exact Budget.advance (s := (l, a)) hb (w.linked.state_lt k) hadv
  | elsewhere b hc =>
      rw [if_neg (hc k)]
      exact hb

/-- **The request is over**: its state is gone, and no other takes its
handle. -/
def Over (l : PolkitListener) (k : ℕ) : Prop := l.states.lookup k = none ∧ k < l.nextState

/-- What is over stays so. -/
theorem over_call (W : World) (w : l.Healthy) (a : Agent) (c : Call) (h : Over l k) :
    Over (call W (l, a) c).1 k := by
  obtain ⟨hnone, hlt⟩ := h
  have hturn := turn_call W w a c
  generalize call W (l, a) c = s' at hturn ⊢
  cases hturn with
  | starts s' m hs hadv =>
      refine ⟨Option.eq_none_iff_forall_ne_some.2 fun st' hst' => ?_,
        lt_of_lt_of_le hlt (hadv k).nextState⟩
      obtain ⟨st, hst, -⟩ := (hadv k).kept st' hst'
      rw [hnone] at hst
      cases hst
  | accepts st a' h0 hs hc => exact ⟨by simp [accepted, hnone, hlt.ne], Nat.lt_succ_of_lt hlt⟩
  | elsewhere b hc => exact ⟨hnone, hlt⟩

/-- No call is about it any more. -/
theorem Over.not_concerns (h : Over l k) (w : l.Linked) (c : Call) : ¬ Concerns l c k := by
  obtain ⟨hnone, hlt⟩ := h
  have hsession : ∀ s, l.sessionToState.lookup s ≠ some k := by
    intro s hs
    obtain ⟨st, hst, -⟩ := w.state_of_session s k hs
    rw [hnone] at hst
    cases hst
  have hcookie : ∀ c, l.cookieToState.lookup c ≠ some k := by
    intro c hc
    obtain ⟨st, hst, -⟩ := w.state_of_cookie c k hc
    rw [hnone] at hst
    cases hst
  cases c with
  | initiateAuthentication => exact hlt.ne
  | cancelAuthentication => exact AList.lookup_eq_none.1 hnone
  | request session | completed session | showError session | showInfo session =>
      exact hsession session
  | submitPassword cookie | cancelPending cookie => exact hcookie cookie
  | elsewhere => exact id

/-! ## Every run -/

variable (W)

/-- What the handling of a call adds to the trace. -/
def said (s : PolkitListener × Agent) (c : Call) : List Output :=
  ((machine W).step s c).2.log.drop s.2.log.length

/-- What a run says that is `p`, in the calls that are about `k`. -/
def spoken (p : Output → Bool) (k : ℕ) (ins : List Call) : ℕ :=
  (machine W).tally (fun s c => if Concerns s.1 c k then (said W s c).countP p else 0) ins

/-- **The attempts initiated for a request.** -/
def attempts (k : ℕ) (ins : List Call) : ℕ := spoken W Output.isInitiate k ins

/-- **The failures reported for a request.** -/
def failures (k : ℕ) (ins : List Call) : ℕ := spoken W Output.isFailure k ins

variable {p : Output → Bool} {ins : List Call} {c : Call}

theorem spoken_snoc (ins : List Call) (c : Call) : spoken W p k (ins ++ [c]) = spoken W p k ins +
    if Concerns ((machine W).run ins).1 c k then (said W ((machine W).run ins) c).countP p else 0 :=
  Machine.tally_snoc ins c

/-- **Every run keeps the budget of every request.** -/
theorem budget_run (k : ℕ) (ins : List Call) :
    Budget ((machine W).run ins).1 k (attempts W k ins) := by
  induction ins using List.reverseRecOn with
  | nil => exact ⟨fun st hst => by simp [machine] at hst, fun _ => rfl, Nat.zero_le _⟩
  | append_singleton ins c ih =>
      rw [attempts, spoken_snoc, Machine.run_snoc]
      cases hs : ((machine W).run ins).1.useAfterFree with
      | true =>
          rw [said, machine_step_of_useAfterFree W hs]
          simpa [attempts] using ih
      | false =>
          rw [machine_step W hs, said, machine_step W hs]
          exact budget_call W (heaped_run W ins hs) _ c ih

/-- **The call cancels the request.** -/
def Cancels (l : PolkitListener) (c : Call) (k : ℕ) : Prop :=
  match c with
  | .cancelAuthentication | .cancelPending _ => Concerns l c k
  | _ => False

instance (l : PolkitListener) (c : Call) (k : ℕ) : Decidable (Cancels l c k) :=
  match c with
  | .cancelAuthentication => inferInstanceAs (Decidable (Concerns l .cancelAuthentication k))
  | .cancelPending cookie => inferInstanceAs (Decidable (Concerns l (.cancelPending cookie) k))
  | .initiateAuthentication _ _ _ _ _ _ | .request _ _ _ | .completed _ _ | .showError _ _
  | .showInfo _ _ | .submitPassword _ _ | .elsewhere _ => isFalse id

/-- **`cancel()` counts nothing**: the state that `cancelPending` marks is
the one it found. -/
def CountsNothing (s : PolkitListener × Agent) (c : Call) (k : ℕ) : Prop :=
  match c with
  | .cancelPending _ => ∀ st session, s.1.states.lookup k = some st → st.session = some session →
      (s.1.cancelSession W s.2 session).1.states.lookup k = some st
  | _ => True

/-- **Cancellation is final**: from a call that cancels a request on, no
attempt is initiated and no failure counted or reported for it. -/
def Final (ins : List Call) : Prop := ∀ pre c post k, ins = pre ++ c :: post →
  Cancels ((machine W).run pre).1 c k →
    CountsNothing W ((machine W).run pre) c k ∧
      attempts W k ins = attempts W k pre ∧ failures W k ins = failures W k pre

/-- **The condition on a call.** Where a live request is cancelled by
`cancelPending`, its `cancel()` does not complete before it returns. -/
def CancelsQuietly (s : PolkitListener × Agent) (c : Call) : Prop :=
  match c with
  | .cancelPending cookie =>
    ¬ (cookie ∈ s.1.cookieToState ∧ W.cancelCompletes s.2.tick = true)
  | _ => True

instance (s : PolkitListener × Agent) (c : Call) : Decidable (CancelsQuietly W s c) :=
  match c with
  | .cancelPending _ => inferInstanceAs (Decidable (¬ (_ ∧ _)))
  | .initiateAuthentication _ _ _ _ _ _ | .cancelAuthentication | .request _ _ _ | .completed _ _
  | .showError _ _ | .showInfo _ _ | .submitPassword _ _ | .elsewhere _ => isTrue trivial

theorem cancelsInTime_of_quietly (s : PolkitListener × Agent) (c : Call)
    (h : CancelsQuietly W s c) : CancelsInTime W s c := by
  cases c with
  | cancelPending cookie =>
      rintro ⟨⟨h', st, hc, -⟩, hcc⟩
      exact h ⟨Table.mem_iff_exists.2 ⟨h', hc⟩, hcc⟩
  | initiateAuthentication | cancelAuthentication | request | completed | showError | showInfo
  | submitPassword | elsewhere => trivial

/-- **A quiet cancellation** adds neither attempt nor failure, and the
request is over. -/
theorem cancels_call (w : l.Healthy) (a : Agent) (hq : CancelsQuietly W (l, a) c)
    (hc : Cancels l c k) :
    Obeys calm a (call W (l, a) c).2 ∧ Over (call W (l, a) c).1 k ∧
      CountsNothing W (l, a) c k := by
  cases c with
  | cancelAuthentication =>
      obtain ⟨hcalm, hn, hgone⟩ := w.cancelAuthentication_cases (W := W) a
      obtain ⟨st, hst⟩ := Table.mem_iff_exists.1 hc
      exact ⟨hcalm, ⟨hgone k, lt_of_lt_of_le (w.linked.state_lt k st hst) hn.ge⟩, trivial⟩
  | cancelPending cookie =>
      have hcookie : l.cookieToState.lookup cookie = some k := hc
      obtain ⟨st, hst, -⟩ := w.linked.state_of_cookie cookie k hcookie
      have hcc : W.cancelCompletes a.tick = false := by
        by_contra hcc
        exact hq ⟨Table.mem_iff_exists.2 ⟨k, hcookie⟩, by simpa using hcc⟩
      obtain ⟨⟨m, -, hadv⟩, hnone, hcalm⟩ := w.cancelPending_cases W a hcookie
      refine ⟨hcalm hcc, ⟨hnone, lt_of_lt_of_le (w.linked.state_lt k st hst) (hadv k).nextState⟩,
        fun st' session hst' hs => ?_⟩
      simpa [cancelSession, hcc] using hst'
  | initiateAuthentication | request | completed | showError | showInfo | submitPassword
  | elsewhere => exact hc.elim

/-- What is over is spoken of no more. -/
theorem spoken_over {pre post : List Call} (hm : (machine W).Meets (CancelsQuietly W) (pre ++ post))
    (h : Over ((machine W).run pre).1 k) :
    Over ((machine W).run (pre ++ post)).1 k ∧ spoken W p k (pre ++ post) = spoken W p k pre := by
  induction post using List.reverseRecOn with
  | nil => simpa using h
  | append_singleton post c ih =>
      rw [← List.append_assoc] at hm ⊢
      have hm' := (Machine.meets_snoc.1 hm).1
      have w := healthy_run W (hm'.mono (cancelsInTime_of_quietly W))
      obtain ⟨hover, hsame⟩ := ih hm'
      refine ⟨?_, ?_⟩
      · rw [Machine.run_snoc, machine_step W w.safe]
        exact over_call W w _ c hover
      · rw [spoken_snoc, if_neg (hover.not_concerns w.linked c), Nat.add_zero, hsame]

/-- A `cancel()` that completes at once is counted. -/
theorem not_countsNothing (w : l.Healthy) (a : Agent) {cookie : String}
    (hc : l.cookieToState.lookup cookie = some k) (hcc : W.cancelCompletes a.tick = true) :
    ¬ CountsNothing W (l, a) (.cancelPending cookie) k := by
  intro hn
  obtain ⟨st, hst, -⟩ := w.linked.state_of_cookie cookie k hc
  obtain ⟨session, hs, -⟩ := w.linked.session_of_state k st hst
  have hsame := hn st session hst hs
  simp only [cancelSession, hcc, if_true] at hsame
  obtain ⟨hgone, hkept⟩ :=
    lookup_onSessionCompleted_false W (a.ticked.trace (.cancel session)) w hst hs
  by_cases hlast : MAX_AUTH_RETRIES ≤ st.retryCount + 1
  · rw [hgone hlast] at hsame
    cases hsame
  · obtain ⟨st', hst', hcount, -⟩ := hkept (not_le.1 hlast)
    obtain rfl := Option.some.inj (hst'.symm.trans hsame)
    omega

/-- Runs of quiet cancellations are final. -/
theorem final_of_quietly (hm : (machine W).Meets (CancelsQuietly W) ins) : Final W ins := by
  rintro pre c post k rfl hc
  rw [show pre ++ c :: post = (pre ++ [c]) ++ post by simp] at hm ⊢
  have hpre : (machine W).Meets (CancelsQuietly W) (pre ++ [c]) :=
    hm.of_prefix (List.prefix_append _ _)
  obtain ⟨hpre', hq⟩ := Machine.meets_snoc.1 hpre
  have w := healthy_run W (hpre'.mono (cancelsInTime_of_quietly W))
  obtain ⟨hcalm, hover, hcounts⟩ := cancels_call W w _ hq hc
  have hstep : (machine W).step ((machine W).run pre) c = call W ((machine W).run pre) c :=
    machine_step W w.safe c
  have hover' : Over ((machine W).run (pre ++ [c])).1 k := by
    rw [Machine.run_snoc, hstep]
    exact hover
  -- the call itself says nothing of the kind, and no later one is about the request
  have hsame : ∀ p : Output → Bool, (∀ o, Calm o → p o = false) →
      spoken W p k ((pre ++ [c]) ++ post) = spoken W p k pre := by
    intro p hp
    have hsaid : (said W ((machine W).run pre) c).countP p = 0 := by
      refine List.countP_eq_zero.2 fun o ho => ?_
      rw [said, hstep] at ho
      simp [hp o (hcalm.of_mem_drop (kept_ofDone _) ho)]
    rw [(spoken_over W hm hover').2, spoken_snoc, hsaid, ite_self, Nat.add_zero]
  exact ⟨hcounts, hsame _ fun o ho => ho.1, hsame _ fun o ho => ho.2⟩

/-- A run that is final has quiet cancellations only. -/
theorem quietly_of_final (hf : Final W ins) : (machine W).Meets (CancelsQuietly W) ins := by
  have hall : ∀ pre, pre <+: ins → (machine W).Meets (CancelsQuietly W) pre := by
    intro pre
    induction pre using List.reverseRecOn with
    | nil => exact fun _ => Machine.meets_nil
    | append_singleton pre c ih =>
        intro hp
        have hm := ih ((List.prefix_append _ _).trans hp)
        have w := healthy_run W (hm.mono (cancelsInTime_of_quietly W))
        refine Machine.meets_snoc.2 ⟨hm, ?_⟩
        obtain ⟨post, rfl⟩ := hp
        cases c with
        | cancelPending cookie =>
            rintro ⟨hmem, hcc⟩
            obtain ⟨k, hk⟩ := Table.mem_iff_exists.1 hmem
            exact not_countsNothing W w _ hk hcc
              (hf pre (.cancelPending cookie) post k (by simp) hk).1
        | initiateAuthentication | cancelAuthentication | request | completed | showError
        | showInfo | submitPassword | elsewhere => trivial
  exact hall ins List.prefix_rfl

/-- **No request is given more than three attempts**, and a run's
cancellations are final exactly when every one in it is quiet. -/
theorem bounded_and_final_iff (ins : List Call) :
    (∀ k, attempts W k ins ≤ MAX_AUTH_RETRIES) ∧
      (Final W ins ↔ (machine W).Meets (CancelsQuietly W) ins) :=
  ⟨fun k => (budget_run W k ins).bounded, quietly_of_final W, final_of_quietly W⟩

/-- **A request is cancelled by a `cancel()` that completes at once**: one
more attempt is initiated, and a failure reported. -/
theorem not_final_completes :
    ¬ ∀ (W : World) (ins : List Call), (∀ k, attempts W k ins ≤ MAX_AUTH_RETRIES) ∧ Final W ins := by
  intro h
  have hf := (h (World.plain (fun _ => 0) true)
    [.initiateAuthentication "action" "message" "icon" [] "c" ["unix-user:1000"],
      .cancelPending "c"]).2
  have hsame := (hf [.initiateAuthentication "action" "message" "icon" [] "c" ["unix-user:1000"]]
    (.cancelPending "c") [] 0 rfl (by decide)).2
  exact absurd hsame (by decide)

end PolkitListener

end BbAuth
