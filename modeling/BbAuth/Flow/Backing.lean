import BbAuth.Flow.Expiry
import BbAuth.Flow.Refusal
import BbAuth.Flow.Waiting
/-!
# What stands behind an open session

The store keeps a session until somebody closes it, and knows nothing of
who that will be. A keyring session is closed through the request of a
client, a pinentry session through a request of a client or a result timer,
a polkit session through a state of the listener. Two messages cut a session
loose: a keyring request under a pending cookie, and a `retry` while the
result is awaited. Without them every open session is backed, and the daemon
can always be wound down: once the clients are gone, the timers have fired
and polkit has cancelled, nothing is left.
-/

namespace BbAuth

open Agent

namespace Daemon

variable (W : World) {d d' : Daemon} {i : Input} {c : String} {f : Flow}

/-- **The session `c`, if open, is backed** by what will end it. -/
structure Backed (c : String) (d : Daemon) : Prop where
  keyring : IsOpen c .keyring d → ∃ request, d.keyringManager.pendingRequests.lookup c =
    some request ∧ request.socket ∈ d.agent.clients
  pinentry : IsOpen c .pinentry d → PendingInput c d ∨ AwaitingTerminal c d
  polkit : IsOpen c .polkit d → d.listener.cookieToState.contains c = true

/-- **The two messages that cut a session loose.** -/
def CutsLoose (d : Daemon) (i : Input) : Prop := RetriesAwaiting d i ∨ KeyringClash W d i

/-! ## Keyring sessions -/

/-- An open keyring session has its request. -/
def Requested (f : Flow) : Prop := f.life.source = some .keyring → f.keyring.isSome

/-- The keyring request of `c` is bound to a client. -/
def Bound (c : String) (d : Daemon) : Prop :=
  ∀ request, (d.flow c).keyring = some request → request.socket ∈ d.agent.clients

variable {W}

/-- Only a request under a pending cookie takes the request from its
session. -/
theorem FlowStep.requested (h : FlowStep W d c i f) (hn : ¬ KeyringClash W d i)
    (hr : Requested (d.flow c)) : Requested f := by
  intro hs
  cases h with
  | stay => exact hr hs
  | keyringRequest socket msg hm hc =>
      cases hsrc : (d.flow c).life.source with
      | none => simp [Flow.keyringAsked, hsrc]
      | some source =>
          have hopen : (d.flow c).life.source = some .keyring := by
            simpa [Flow.keyringAsked, Life.opened_of_some hsrc] using hs
          obtain ⟨request, hk⟩ := Option.isSome_iff_exists.1 (hr hopen)
          exact absurd ⟨socket, msg, hm, Table.mem_iff_exists.2 ⟨request, hc ▸ hk⟩⟩ hn
  | keyringEnd r hk => simp [Flow.keyringClosed] at hs
  | pinentryRequest socket msg hm hc ho =>
      refine hr ?_
      cases hsrc : (d.flow c).life.source with
      | none => simp [Flow.pinentryAsked, Life.opened_of_none hsrc] at hs
      | some source =>
          rw [← hsrc]
          simpa [Flow.pinentryAsked, Life.opened_of_some hsrc, hsrc] using hs
  | pinentryAnswer socket msg hm ha hc hk request hp => exact hr hs
  | pinentryResult socket msg hm hc ho hsrc r hres => simp [Flow.pinentryClosed, hsrc] at hs
  | pinentryRetry socket msg hm hc ho hsrc hres => exact hr hs
  | pinentryEnd r hres =>
      by_cases hsrc : (d.flow c).life.source = some .pinentry
      · simp [Flow.pinentryClosed, hsrc] at hs
      · simp only [Flow.pinentryClosed, hsrc, if_false] at hs
        exact hr hs
  | disconnected socket hi =>
      -- either half closes the session, or leaves it and its request
      have hk : Requested ((d.flow c).keyringLeft socket) := by
        unfold Flow.keyringLeft
        split
        · intro hs
          simp [Flow.keyringClosed] at hs
        · exact hr
      rw [Flow.pinentryLeft_keyring]
      refine hk ?_
      revert hs
      unfold Flow.pinentryLeft
      split
      · intro hs
        by_cases hsrc : ((d.flow c).keyringLeft socket).life.source = some .pinentry
        · simp [Flow.pinentryClosed, hsrc] at hs
        · simpa only [Flow.pinentryClosed, hsrc, if_false] using hs
      · exact id
  | polkitRequest hsrc => simp [Flow.polkitAsked, Life.opened_of_none hsrc] at hs
  | polkitEnd r hp => simp [Flow.polkitClosed] at hs

/-- **The request that does harm**: it is refused, and its rollback takes
the request of the open session. -/
theorem flow_of_keyringClash (hsane : ∀ c, (d.flow c).Sane c) (h : KeyringClash W d i) :
    ∃ c, IsOpen c .keyring (d.step W i) ∧ ((d.step W i).flow c).keyring = none := by
  obtain ⟨socket, msg, hm, hmem⟩ := h
  obtain ⟨request, hk⟩ := Table.mem_iff_exists.1 hmem
  set cookie := KeyringManager.requestCookie W d.agent msg with hcookie
  have hopen : (d.flow cookie).life.source = some .keyring :=
    (hsane cookie).keyring (Option.isSome_of_mem hk)
  have hflow : (d.step W i).flow cookie = (d.flow cookie).keyringAsked
      (KeyringManager.readRequest cookie msg socket (d.agent.getPeerPid socket)) := by
    rw [step_of_message hm]
    exact (flow_keyringRequest W d cookie msg socket (d.agent.getPeerPid socket)).trans
      (if_pos hcookie)
  refine ⟨cookie, ?_, ?_⟩
  · unfold IsOpen
    rw [hflow]
    simp [Flow.keyringAsked, Life.opened_of_some hopen, hopen]
  · rw [hflow]
    simp [Flow.keyringAsked, hopen]

/-- A client stays until its disconnect. -/
theorem mem_clients_step {socket : Socket} (hs : socket ∈ d.agent.clients)
    (hi : i ≠ .disconnected socket) : socket ∈ (d.step W i).agent.clients := by
  obtain ⟨client, hc⟩ := Table.mem_iff_exists.1 hs
  obtain ⟨client', hc', -⟩ := peer_step W hc hi
  exact Table.mem_iff_exists.2 ⟨client', hc'⟩

/-- A disconnect takes along the keyring request of its socket. -/
theorem Bound.disconnected (h : Bound c d) (socket : Socket) :
    Bound c (d.step W (.disconnected socket)) := by
  rcases step_disconnected W d socket with heq | hsame
  · rwa [heq]
  intro request hr
  rw [hsame.flow, flow_cleaned, Flow.pinentryLeft_keyring] at hr
  unfold Flow.keyringLeft at hr
  split at hr
  · cases hr
  next hne =>
    refine mem_clients_step (h request hr) fun hi => hne ?_
    rw [hr, Input.disconnected.inj hi]
    rfl

theorem Bound.step (h : Bound c d) (hh : d.Heaped) (i : Input) : Bound c (d.step W i) := by
  by_cases hi : ∃ socket, i = .disconnected socket
  · obtain ⟨socket, rfl⟩ := hi
    exact h.disconnected socket
  intro request hr
  have hold : (d.flow c).keyring = some request →
      request.socket ∈ (d.step W i).agent.clients := fun hk =>
    mem_clients_step (h request hk) fun he => hi ⟨_, he⟩
  have hstep := flowStep W c hh i
  generalize (d.step W i).flow c = f at hr hstep
  cases hstep with
  | stay => exact hold hr
  | keyringRequest socket msg hm hc =>
      simp only [Flow.keyringAsked] at hr
      split at hr
      · obtain ⟨client, hcl, -⟩ := client_of_message hm
        obtain rfl := Option.some.inj hr
        exact mem_clients_step (Table.mem_iff_exists.2 ⟨client, hcl⟩)
          (not_disconnected_of_message hm)
      · cases hr
  | keyringEnd r hk => cases hr
  | pinentryRequest socket msg hm hc ho => exact hold hr
  | pinentryAnswer socket msg hm ha hc hk r hp => exact hold hr
  | pinentryResult socket msg hm hc ho hsrc r hrep => exact hold hr
  | pinentryRetry socket msg hm hc ho hsrc hrep => exact hold hr
  | pinentryEnd r hne => exact hold hr
  | disconnected socket he => exact absurd ⟨socket, he⟩ hi
  | polkitRequest hsrc => exact hold hr
  | polkitEnd r hp => exact hold hr

variable (W)

theorem bound_run (ins : List Input) (c : String) : Bound c ((machine W).run ins) := by
  refine Machine.history_invariant (J := fun ins => Bound c ((machine W).run ins)) ?_
    (fun ins i h => ?_) ins
  · intro request hr
    cases hr
  · rw [Machine.run_snoc]
    exact h.step (heaped_run W ins) i

theorem requested_run {ins : List Input}
    (h : (machine W).Meets (fun d i => ¬ KeyringClash W d i) ins) (c : String) :
    Requested (((machine W).run ins).flow c) := by
  induction ins using List.reverseRecOn with
  | nil =>
      intro hs
      cases hs
  | append_singleton ins i ih =>
      obtain ⟨hm, hi⟩ := Machine.meets_snoc.1 h
      exact (flowStep_run W c ins i).requested hi (ih hm)

/-! ## Every open session -/

theorem backed_run {ins : List Input} (h : (machine W).Meets (fun d i => ¬ CutsLoose W d i) ins)
    (c : String) : Backed c ((machine W).run ins) where
  keyring hopen := by
    have hr := requested_run W (h.mono fun d i hn hk => hn (.inr hk)) c hopen
    obtain ⟨request, hk⟩ := Option.isSome_iff_exists.1 hr
    exact ⟨request, hk, bound_run W ins c request hk⟩
  pinentry hopen := by
    have hw := waiting_run W (h.mono fun d i hn hr => hn (.inl hr)) c hopen
    rcases hw with hp | ha
    · obtain ⟨request, hp⟩ := Option.isSome_iff_exists.1 hp
      obtain ⟨client, hc, hpid⟩ := attended_run W ins c request hp
      exact .inl ⟨request, client, hp, hc, hpid⟩
    · obtain ⟨awaiting, ha⟩ := Option.isSome_iff_exists.1 ha
      exact .inr ⟨awaiting, ha, (clocked_run W ins).armed c awaiting ha⟩
  polkit hopen := (sane_run W ins c).polkit.2 hopen

/-- **Every open session is backed** throughout a run, exactly when no
message of the run cuts one loose. -/
theorem backed_iff_not_cutsLoose (ins : List Input) :
    (∀ pre, pre <+: ins → ∀ c, Backed c ((machine W).run pre)) ↔
      (machine W).Meets (fun d i => ¬ CutsLoose W d i) ins := by
  refine ⟨fun h pre i hpre hcut => ?_, fun h pre hpre c => backed_run W (h.of_prefix hpre) c⟩
  have hrun : (machine W).run (pre ++ [i]) = ((machine W).run pre).step W i :=
    (machine W).run_snoc pre i
  rcases hcut with hretry | hclash
  · obtain ⟨c, hopen, hpend, haw⟩ := flow_of_retriesAwaiting (W := W) (sane_run W pre) hretry
    rw [← hrun] at hopen hpend haw
    rcases (h _ hpre c).pinentry hopen with ⟨request, client, hp, -⟩ | ⟨awaiting, ha, -⟩
    · exact absurd (hpend.symm.trans hp) (by simp)
    · exact absurd (haw.symm.trans ha) (by simp)
  · obtain ⟨c, hopen, hk⟩ := flow_of_keyringClash (W := W) (sane_run W pre) hclash
    rw [← hrun] at hopen hk
    obtain ⟨request, hr, -⟩ := (h _ hpre c).keyring hopen
    exact absurd (hk.symm.trans hr) (by simp)

end Daemon

end BbAuth
