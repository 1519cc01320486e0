import BbAuth.Flow.Owner
import BbAuth.Flow.Recipient
/-!
# Where a pinentry's success comes from

A pinentry session closes with success on its owner's report and on
nothing else. That an answer of the user came before is not looked at: the
result handler tests the owner and the session's source, and never
`m_awaitingOutcome`. A success is inferred exactly by a report the owner
makes before the flow awaits it.
-/

namespace BbAuth

open Agent

namespace Daemon

variable (W : World) {d : Daemon} {i : Input} {c : String} {f : Flow}

/-- **A `session.respond` for `c` is accepted.** -/
def RespondAccepted (c : String) (d : Daemon) (i : Input) : Prop :=
  ∃ socket msg, d.message? i = some (.sessionRespond, socket, msg) ∧ messageId msg = c ∧
    (d.respond W socket msg).1 = ok

/-- **A `pinentry_request` for `c` is accepted**: the flow has no other
owner. -/
def RequestAccepted (c : String) (d : Daemon) (i : Input) : Prop :=
  ∃ socket msg, d.message? i = some (.pinentryRequest, socket, msg) ∧
    (d.pinentryRequestOf W socket msg).cookie = c ∧
    ∀ owner, (d.flow c).owner = some owner → owner = d.agent.getPeerPid socket

/-- **The owner of an open pinentry session reports a success the flow does
not await.** -/
def ReportsUnanswered (d : Daemon) (i : Input) : Prop :=
  ∃ socket msg, d.message? i = some (.pinentryResult, socket, msg) ∧
    reportedResult msg = "success" ∧
    (∀ owner, (d.flow (messageId msg)).owner = some owner → owner = d.agent.getPeerPid socket) ∧
    IsOpen (messageId msg) .pinentry d ∧ (d.flow (messageId msg)).awaiting = none

/-- **The pinentry session `c` is closed with success.** -/
def Succeeds (c : String) (d d' : Daemon) : Prop :=
  IsOpen c .pinentry d ∧
    (d'.agent.life c).closings = (d.agent.life c).closings ++ [.string "success"]

variable {W}

/-- An accepted request ends the wait for a result. -/
theorem awaiting_of_requestAccepted (h : RequestAccepted W c d i) :
    ((d.step W i).flow c).awaiting = none := by
  obtain ⟨socket, msg, hm, hc, ho⟩ := h
  rw [step_of_message hm]
  rcases flow_pinentryRequest W d c msg socket with ⟨hn, -⟩ | ⟨-, heq⟩
  · exact absurd ⟨hc, ho⟩ hn
  · have heq' : (d.dispatch W .pinentryRequest socket msg).flow c =
        (d.flow c).pinentryAsked (d.pinentryRequestOf W socket msg) := heq
    rw [heq']
    rfl

/-- A response that reaches a pending pinentry request is accepted. -/
theorem respond_of_pending {socket : Socket} {msg : QJsonObject} {request : PinentryRequest}
    (ha : d.agent.isAuthorizedProviderSocket socket = true)
    (hk : (d.flow (messageId msg)).keyring = none)
    (hp : (d.flow (messageId msg)).pending = some request) :
    (d.respond W socket msg).1 = ok := by
  rw [respond_of_pinentry ha hk hp]

/-- **A flow that awaits a result has been answered** since its last
request. -/
theorem since_of_awaiting {ins : List Input}
    (h : (((machine W).run ins).flow c).awaiting.isSome) :
    (machine W).Since (RespondAccepted W c) (RequestAccepted W c) ins := by
  induction ins using List.reverseRecOn with
  | nil => cases h
  | append_singleton ins i ih =>
      by_cases hreq : RequestAccepted W c ((machine W).run ins) i
      · have := awaiting_of_requestAccepted hreq
        rw [Machine.run_snoc] at h
        rw [show (((machine W).step ((machine W).run ins) i).flow c).awaiting = none from this] at h
        cases h
      -- the wait is old, or the answer has just come
      have hold : (((machine W).run ins).flow c).awaiting.isSome →
          (machine W).Since (RespondAccepted W c) (RequestAccepted W c) (ins ++ [i]) :=
        fun hw => (ih hw).snoc hreq
      have hstep := flowStep_run W c ins i
      generalize ((machine W).run (ins ++ [i])).flow c = f at h hstep
      cases hstep with
      | stay => exact hold h
      | keyringRequest socket msg hm hc => exact hold h
      | keyringEnd r hk => exact hold h
      | pinentryRequest socket msg hm hc ho => cases h
      | pinentryAnswer socket msg hm ha hc hk r hp =>
          subst hc
          exact .new ⟨socket, msg, hm, rfl, respond_of_pending ha hk hp⟩
      | pinentryResult socket msg hm hc ho hs r hr => cases h
      | pinentryRetry socket msg hm hc ho hs hr => cases h
      | pinentryEnd r hr => cases h
      | disconnected socket hi =>
          refine hold ?_
          obtain ⟨-, hk, -⟩ := (((machine W).run ins).flow c).keyringLeft_pinentry socket
          unfold Flow.pinentryLeft at h
          split at h
          · cases h
          · rwa [hk] at h
      | polkitRequest hs => exact hold h
      | polkitEnd r hp => exact hold h

/-- A close adds its result, and no other. -/
theorem closings_of_closed {l : Life} {r q : Session.Result} (hs : l.source.isSome)
    (h : (l.closed r).closings = l.closings ++ [.string (Session.resultToString q)]) : r = q := by
  obtain ⟨source, hsrc⟩ := Option.isSome_iff_exists.1 hs
  have hstr : Session.resultToString r = Session.resultToString q := by
    simpa [Life.closed, hsrc] using h
  revert hstr
  cases r <;> cases q <;> simp [Session.resultToString]

/-- **Only the owner's report closes with success.** -/
theorem FlowStep.succeeds (h : FlowStep W d c i f) (hsane : (d.flow c).Sane c)
    (hs : (d.flow c).life.source = some .pinentry)
    (hc : f.life.closings = (d.flow c).life.closings ++ [.string "success"]) :
    ∃ socket msg, d.message? i = some (.pinentryResult, socket, msg) ∧ messageId msg = c ∧
      reportedResult msg = "success" ∧
      (d.flow c).owner = some (d.agent.getPeerPid socket) := by
  have hopen : (d.flow c).life.source.isSome := Option.isSome_of_mem hs
  have hkeyring : (d.flow c).keyring = none := by
    cases hk : (d.flow c).keyring with
    | none => rfl
    | some r =>
        have := hsane.keyring (by simp [hk])
        rw [hs] at this
        cases this
  cases h with
  | stay => simp at hc
  | keyringRequest socket msg hm hk => simp [Flow.keyringAsked, Life.opened, hs] at hc
  | keyringEnd r hk => simp [hkeyring] at hk
  | pinentryRequest socket msg hm hk ho => simp [Flow.pinentryAsked, Life.opened, hs] at hc
  | pinentryAnswer socket msg hm ha hk hn r hr => simp [Flow.pinentryAnswered] at hc
  | pinentryResult socket msg hm hid ho hsrc r hr =>
      obtain ⟨owner, howner⟩ := Option.isSome_iff_exists.1 (hsane.owned hs)
      simp only [Flow.pinentryClosed, hs, if_true] at hc
      refine ⟨socket, msg, hm, hid, hr (closings_of_closed hopen (q := .success) hc), ?_⟩
      rw [howner, ho owner howner]
  | pinentryRetry socket msg hm hid ho hsrc hr => simp [Flow.pinentryRetried] at hc
  | pinentryEnd r hr =>
      simp only [Flow.pinentryClosed, hs, if_true] at hc
      exact absurd (closings_of_closed hopen (q := .success) hc) hr
  | disconnected socket hi =>
      have hk : (d.flow c).keyringLeft socket = d.flow c := by
        simp [Flow.keyringLeft, hkeyring]
      rw [hk] at hc
      unfold Flow.pinentryLeft at hc
      split at hc
      · simp only [Flow.pinentryClosed, hs, if_true] at hc
        have := closings_of_closed hopen (q := .success) hc
        cases this
      · simp at hc
  | polkitRequest hsrc => simp [hs] at hsrc
  | polkitEnd r hp =>
      have := hsane.polkit.1 hp
      rw [hs] at this
      cases this

/-! ## Reports that are not awaited -/

/-- A report from another than the owner of an open pinentry session is
rejected. -/
theorem rejects_of_not_owner {socket : Socket} {msg : QJsonObject}
    (hm : d.message? i = some (.pinentryResult, socket, msg))
    (hn : ¬ ((∀ owner, (d.flow (messageId msg)).owner = some owner →
      owner = d.agent.getPeerPid socket) ∧ IsOpen (messageId msg) .pinentry d)) :
    Rejects d socket (d.step W i) := by
  rw [step_of_message hm]
  have hcase := PinentryManager.handleResult_cases W d.pinentryManager d.agent msg
    (d.agent.getPeerPid socket)
  have haccepted : d.pinentryManager.validateResultOwner (messageId msg)
      (d.agent.getPeerPid socket) = true →
        PinentryManager.isPinentrySession d.agent (messageId msg) = true → False :=
    fun ho hs => hn ⟨(PinentryManager.validateResultOwner_iff _ _ _).1 ho,
      (PinentryManager.isPinentrySession_iff _ _).1 hs⟩
  simp only [dispatch, handlePinentryResult, resultReply]
  generalize PinentryManager.handleResult W d.pinentryManager d.agent msg
    (d.agent.getPeerPid socket) = result at hcase ⊢
  cases hcase with
  | refused message _ => exact rejects_sendJson d socket rfl
  | closed ho hs r error hr hne => exact (haccepted ho hs).elim
  | retried ho hs hr => exact (haccepted ho hs).elim

/-- **The report that is believed**: it closes the session, answered or
not. -/
theorem not_rejects_of_reportsUnanswered (hsane : ∀ c, (d.flow c).Sane c)
    (h : ReportsUnanswered d i) :
    ∃ socket msg, d.message? i = some (.pinentryResult, socket, msg) ∧
      reportedResult msg = "success" ∧ (d.flow (messageId msg)).awaiting = none ∧
      ¬ Rejects d socket (d.step W i) := by
  obtain ⟨socket, msg, hm, hr, ho, hs, haw⟩ := h
  refine ⟨socket, msg, hm, hr, haw, fun hrej => ?_⟩
  have hopen : (d.flow (messageId msg)).life.source = some .pinentry := hs
  have hne : messageId msg ≠ "" := (hsane _).named ((hsane _).owned hopen)
  have hsame : Same (d.withPinentry (d.pinentryManager.handleResult W d.agent msg
      (d.agent.getPeerPid socket)).2) (d.step W i) := by
    rw [step_of_message hm]
    exact same_sendJson _ socket _
  have hlife : ((d.step W i).flow (messageId msg)).life.source = some .pinentry := by
    rw [hrej.state]
    exact hopen
  have hcase := PinentryManager.handleResult_cases W d.pinentryManager d.agent msg
    (d.agent.getPeerPid socket)
  rw [hsame.flow] at hlife
  generalize PinentryManager.handleResult W d.pinentryManager d.agent msg
    (d.agent.getPeerPid socket) = result at hcase hlife
  cases hcase with
  | refused message hwhy =>
      rw [(PinentryManager.validateResultOwner_iff _ _ _).2 ho,
        (PinentryManager.isPinentrySession_iff _ _).2 hopen, hr] at hwhy
      simp [hne, PinentryManager.knownResults] at hwhy
  | closed _ _ r error _ _ =>
      rw [flow_closeFlow, if_pos rfl] at hlife
      have hopen' : ((d.withPinentry (d.pinentryManager, d.agent)).flow (messageId msg)).life.source =
          some .pinentry := hopen
      simp [Flow.pinentryClosed, hopen'] at hlife
  | retried _ _ hret => simp [hr] at hret

variable (W)

/-- **No success is inferred in this step**: a pinentry session it closes
with success was reported successful by its owner, after the user's answer
to its last request was accepted; and a report of success that no flow
awaits is rejected. -/
def InfersNoSuccess (ins : List Input) (i : Input) : Prop :=
  (∀ c, Succeeds c ((machine W).run ins) ((machine W).run (ins ++ [i])) →
    (∃ socket msg, ((machine W).run ins).message? i = some (.pinentryResult, socket, msg) ∧
      messageId msg = c ∧ reportedResult msg = "success" ∧
      (((machine W).run ins).flow c).owner =
        some (((machine W).run ins).agent.getPeerPid socket)) ∧
    (machine W).Since (RespondAccepted W c) (RequestAccepted W c) ins) ∧
  ∀ socket msg, ((machine W).run ins).message? i = some (.pinentryResult, socket, msg) →
    reportedResult msg = "success" →
    (((machine W).run ins).flow (messageId msg)).awaiting = none →
      Rejects ((machine W).run ins) socket ((machine W).run (ins ++ [i]))

/-- **No inferred success.** No step of a run infers a success, exactly
when in no step an owner reports one the flow does not await. -/
theorem infersNoSuccess_iff (ins : List Input) :
    (∀ pre i, pre ++ [i] <+: ins → InfersNoSuccess W pre i) ↔
      (machine W).Meets (fun d i => ¬ ReportsUnanswered d i) ins := by
  constructor
  · intro h pre i hpre hrep
    obtain ⟨socket, msg, hm, hr, haw, hn⟩ :=
      not_rejects_of_reportsUnanswered (W := W) (sane_run W pre) hrep
    refine hn ?_
    have := (h pre i hpre).2 socket msg hm hr haw
    rwa [Machine.run_snoc] at this
  · intro h pre i hpre
    have hi := h pre i hpre
    refine ⟨fun c hsucc => ?_, fun socket msg hm hr haw => ?_⟩
    · obtain ⟨socket, msg, hm, hid, hr, ho⟩ :=
        (flowStep_run W c pre i).succeeds (sane_run W pre c) hsucc.1 hsucc.2
      refine ⟨⟨socket, msg, hm, hid, hr, ho⟩, since_of_awaiting ?_⟩
      -- a report that comes unanswered is what the condition rules out
      by_contra hnone
      refine hi ⟨socket, msg, hm, hr, fun owner howner => ?_, ?_, ?_⟩
      · rw [hid, ho, Option.some_inj] at howner
        exact howner.symm
      · rw [hid]
        exact hsucc.1
      · rw [hid]
        simpa using hnone
    · rw [Machine.run_snoc]
      refine rejects_of_not_owner hm fun hown => ?_
      exact hi ⟨socket, msg, hm, hr, hown.1, hown.2, haw⟩

/-- A pinentry that reports success right after asking: the session closes
with success though nobody has answered. -/
theorem success_unanswered :
    ¬ ∀ (W : World) (ins : List Input) (i : Input), InfersNoSuccess W ins i := by
  intro h
  let W := World.plain (fun _ => 0) false
  let ins : List Input := [.newConnection 1 100, askLine 1 "c"]
  let report : QJsonObject := [("type", "pinentry_result"), ("id", "c"), ("result", "success")]
  have hm : ((machine W).run ins).message? (.line 1 (some report)) =
      some (MessageType.pinentryResult, 1, report) := by decide
  have hrej := (h W ins (.line 1 (some report))).2 1 report hm (by decide) (by decide)
  have hopen := congrArg (fun d => (d.agent.getSession "c").isSome) hrej.state
  revert hopen
  decide

end Daemon

end BbAuth
