import BbAuth.Flow.Owner
import BbAuth.Flow.Timers
/-!
# The two live states of a pinentry flow

An open pinentry session waits for input or for a result. Every handler
moves it from one to the other or closes it, but for one: a `retry` that
its owner reports while the result is awaited takes the flow out of
`m_awaitingOutcome` and puts it nowhere. Runs without such a report are
exactly those in which every open session is in one live state throughout.
-/

namespace BbAuth

open Agent

namespace Daemon

variable (W : World) {d : Daemon} {i : Input} {c : String} {f : Flow}

/-- **`pending_input`**: an entry of `m_pendingRequests` on a socket whose
client is still there. -/
def PendingInput (c : String) (d : Daemon) : Prop :=
  ∃ request client, d.pinentryManager.pendingRequests.lookup c = some request ∧
    d.agent.clients.lookup request.socket = some client ∧ client.peerPid = request.peerPid

/-- **`awaiting_terminal`**: an entry of `m_awaitingOutcome` whose timer is
armed. -/
def AwaitingTerminal (c : String) (d : Daemon) : Prop :=
  ∃ awaiting, d.pinentryManager.awaitingOutcome.lookup c = some awaiting ∧
    d.pinentryManager.activeTimers.lookup awaiting.timer = some c

/-- **A `retry` of the owner while the flow awaits its result.** -/
def RetriesAwaiting (d : Daemon) (i : Input) : Prop :=
  ∃ socket msg, d.message? i = some (.pinentryResult, socket, msg) ∧
    reportedResult msg = "retry" ∧
    (∀ owner, (d.flow (messageId msg)).owner = some owner → owner = d.agent.getPeerPid socket) ∧
    IsOpen (messageId msg) .pinentry d ∧ (d.flow (messageId msg)).awaiting.isSome

/-- An open pinentry session is in one of its live states. -/
def Waiting (f : Flow) : Prop :=
  f.life.source = some .pinentry → f.pending.isSome ∨ f.awaiting.isSome

variable {W}

/-- **Every operation but that one keeps a live state.** -/
theorem FlowStep.waiting (h : FlowStep W d c i f) (hn : ¬ RetriesAwaiting d i)
    (hw : Waiting (d.flow c)) : Waiting f := by
  intro hs
  cases h with
  | stay => exact hw hs
  | keyringRequest socket msg hm hc =>
      cases hsrc : (d.flow c).life.source with
      | none => simp [Flow.keyringAsked, Life.opened, hsrc] at hs
      | some source =>
          refine hw ?_
          simpa [Flow.keyringAsked, Life.opened, hsrc] using hs
  | keyringEnd r hk => simp [Flow.keyringClosed] at hs
  | pinentryRequest socket msg hm hc ho => exact .inl rfl
  | pinentryAnswer socket msg hm ha hc hk r hr => exact .inr rfl
  | pinentryResult socket msg hm hc ho hsrc r hr => simp [Flow.pinentryClosed, hsrc] at hs
  | pinentryRetry socket msg hm hc ho hsrc hr =>
      subst hc
      refine (hw hsrc).imp id fun haw => ?_
      exact absurd ⟨socket, msg, hm, hr, ho, hsrc, haw⟩ hn
  | pinentryEnd r hr =>
      by_cases hsrc : (d.flow c).life.source = some .pinentry <;>
        simp [Flow.pinentryClosed, hsrc] at hs
  | disconnected socket hi =>
      -- the keyring half closes the session or leaves the flow, and so does the pinentry half
      have hk : Waiting ((d.flow c).keyringLeft socket) := by
        unfold Flow.keyringLeft
        split
        · intro hs
          simp [Flow.keyringClosed] at hs
        · exact hw
      revert hs
      unfold Flow.pinentryLeft
      split
      · intro hs
        by_cases hsrc : ((d.flow c).keyringLeft socket).life.source = some .pinentry <;>
          simp [Flow.pinentryClosed, hsrc] at hs
      · exact hk
  | polkitRequest hsrc => simp [Flow.polkitAsked, Life.opened, hsrc] at hs
  | polkitEnd r hp => simp [Flow.polkitClosed] at hs

/-- **The `retry` that does harm**: the flow it finds awaiting a result is
left waiting for nothing. -/
theorem flow_of_retriesAwaiting (hsane : ∀ c, (d.flow c).Sane c) (h : RetriesAwaiting d i) :
    ∃ c, IsOpen c .pinentry (d.step W i) ∧ ((d.step W i).flow c).pending = none ∧
      ((d.step W i).flow c).awaiting = none := by
  obtain ⟨socket, msg, hm, hr, ho, hs, haw⟩ := h
  have hopen : (d.flow (messageId msg)).life.source = some .pinentry := hs
  have hne : messageId msg ≠ "" := (hsane _).named ((hsane _).owned hopen)
  have ho' := (PinentryManager.validateResultOwner_iff d.pinentryManager (messageId msg)
    (d.agent.getPeerPid socket)).2 ho
  have hs' := (PinentryManager.isPinentrySession_iff d.agent (messageId msg)).2 hopen
  have hpend : (d.flow (messageId msg)).pending = none := by
    cases hp : (d.flow (messageId msg)).pending with
    | none => rfl
    | some request =>
        rw [((hsane _).asked request hp).1] at haw
        cases haw
  have hflow : (d.step W i).flow (messageId msg) = (d.flow (messageId msg)).pinentryRetried := by
    have hsame : Same (d.withPinentry (d.pinentryManager.handleResult W d.agent msg
        (d.agent.getPeerPid socket)).2) (d.step W i) := by
      rw [step_of_message hm]
      exact same_sendJson _ socket _
    have hcase := PinentryManager.handleResult_cases W d.pinentryManager d.agent msg
      (d.agent.getPeerPid socket)
    rw [hsame.flow]
    generalize PinentryManager.handleResult W d.pinentryManager d.agent msg
      (d.agent.getPeerPid socket) = result at hcase
    cases hcase with
    | refused message hwhy =>
        rw [ho', hs', hr] at hwhy
        simp [hne, PinentryManager.knownResults] at hwhy
    | closed _ _ r error _ hret => exact absurd hr hret
    | retried _ _ _ => simp [Daemon.flow, withPinentry, Flow.pinentryRetried]
  refine ⟨messageId msg, ?_, ?_, ?_⟩
  · unfold IsOpen
    rw [hflow]
    exact hopen
  · rw [hflow]
    exact hpend
  · rw [hflow]
    rfl

variable (W)

theorem waiting_run {ins : List Input} (h : (machine W).Meets (fun d i => ¬ RetriesAwaiting d i) ins)
    (c : String) : Waiting (((machine W).run ins).flow c) := by
  induction ins using List.reverseRecOn with
  | nil =>
      intro hs
      cases hs
  | append_singleton ins i ih =>
      obtain ⟨hm, hi⟩ := Machine.meets_snoc.1 h
      exact (flowStep_run W c ins i).waiting hi (ih hm)

/-- **The state model.** Along a run every open pinentry session is in
exactly one of its two live states, exactly when no owner reports a retry
while the result is awaited. -/
theorem live_iff_not_retriesAwaiting (ins : List Input) :
    (∀ pre, pre <+: ins → ∀ c, IsOpen c .pinentry ((machine W).run pre) →
        Xor (PendingInput c ((machine W).run pre)) (AwaitingTerminal c ((machine W).run pre))) ↔
      (machine W).Meets (fun d i => ¬ RetriesAwaiting d i) ins := by
  constructor
  · intro h pre i hpre hretry
    obtain ⟨c, hopen, hpend, haw⟩ := flow_of_retriesAwaiting (W := W) (sane_run W pre) hretry
    have hrun : (machine W).run (pre ++ [i]) = ((machine W).run pre).step W i :=
      (machine W).run_snoc pre i
    rw [← hrun] at hopen hpend haw
    rcases h (pre ++ [i]) hpre c hopen with ⟨⟨request, client, hp, -⟩, -⟩ | ⟨⟨awaiting, ha, -⟩, -⟩
    · exact absurd (hpend.symm.trans hp) (by simp)
    · exact absurd (haw.symm.trans ha) (by simp)
  · intro h pre hpre c hopen
    have hsane := sane_run W pre c
    cases hp : (((machine W).run pre).flow c).pending with
    | some request =>
        obtain ⟨client, hc, hpid⟩ := attended_run W pre c request hp
        refine .inl ⟨⟨request, client, hp, hc, hpid⟩, ?_⟩
        rintro ⟨awaiting, ha, -⟩
        exact absurd ((hsane.asked request hp).1.symm.trans ha) (by simp)
    | none =>
        have haw := (waiting_run W (h.of_prefix hpre) c hopen).resolve_left (by simp [hp])
        obtain ⟨awaiting, ha⟩ := Option.isSome_iff_exists.1 haw
        refine .inr ⟨⟨awaiting, ha, (clocked_run W pre).armed c awaiting ha⟩, ?_⟩
        rintro ⟨request, client, hp', -⟩
        exact absurd (hp.symm.trans hp') (by simp)

/-- A flow that is answered and then sent back for a retry: its session is
open, and waits for nothing. -/
theorem retry_leaves_live_states :
    ¬ ∀ (W : World) (ins : List Input) (c : String), IsOpen c .pinentry ((machine W).run ins) →
      Xor (PendingInput c ((machine W).run ins)) (AwaitingTerminal c ((machine W).run ins)) := by
  intro h
  let W := World.plain (fun _ => 0) false
  let ins : List Input :=
    [.newConnection 1 100, askLine 1 "c",
      .line 1 (some [("type", "session.respond"), ("id", "c"), ("response", "secret")]),
      .line 1 (some [("type", "pinentry_result"), ("id", "c"), ("result", "retry")])]
  have hopen : IsOpen "c" .pinentry ((machine W).run ins) := by
    unfold IsOpen
    decide
  have hp : ((machine W).run ins).pinentryManager.pendingRequests.lookup "c" = none := by decide
  have ha : ((machine W).run ins).pinentryManager.awaitingOutcome.lookup "c" = none := by decide
  rcases h W ins "c" hopen with ⟨⟨request, client, hp', -⟩, -⟩ | ⟨⟨awaiting, ha', -⟩, -⟩
  · exact absurd (hp.symm.trans hp') (by simp)
  · exact absurd (ha.symm.trans ha') (by simp)

end Daemon

end BbAuth
