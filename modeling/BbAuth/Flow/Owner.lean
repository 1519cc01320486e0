import BbAuth.Flow.Step
/-!
# The owner of a pinentry flow

While a pinentry session is open its owner is the peer that opened it, so
that the two tests of the pinentry manager, one for requests and one for
results, keep every other peer out.
-/

namespace BbAuth

open Agent

namespace Daemon

variable (W : World) {d : Daemon} {i : Input} {c : String} {f : Flow}

/-- **A session of this source is open** under the id `c`. -/
def IsOpen (c : String) (source : Session.Source) (d : Daemon) : Prop :=
  (d.flow c).life.source = some source

variable {W}

/-- **A pinentry session is opened by a pinentry request.** -/
theorem FlowStep.opens_pinentry (h : FlowStep W d c i f)
    (hn : (d.flow c).life.source ≠ some .pinentry) (hp : f.life.source = some .pinentry) :
    ∃ socket msg, d.message? i = some (.pinentryRequest, socket, msg) ∧
      (d.pinentryRequestOf W socket msg).cookie = c ∧
      f.owner = some (d.agent.getPeerPid socket) := by
  cases h with
  | stay => exact absurd hp hn
  | keyringRequest socket msg hm hc =>
      cases hs : (d.flow c).life.source <;> simp_all [Flow.keyringAsked, Life.opened]
  | keyringEnd r hk => simp [Flow.keyringClosed] at hp
  | pinentryRequest socket msg hm hc ho =>
      exact ⟨socket, msg, hm, hc, by simp [Flow.pinentryAsked, pinentryRequestOf]⟩
  | pinentryAnswer socket msg hm ha hc hk r hr => exact absurd hp hn
  | pinentryResult socket msg hm hc ho hs r hr => exact absurd hs hn
  | pinentryRetry socket msg hm hc ho hs hr => exact absurd hs hn
  | pinentryEnd r hr => simp [Flow.pinentryClosed, hn] at hp
  | disconnected socket hi =>
      have : ((d.flow c).keyringLeft socket).life.source ≠ some .pinentry := by
        unfold Flow.keyringLeft
        split
        · simp [Flow.keyringClosed]
        · exact hn
      unfold Flow.pinentryLeft at hp
      split at hp
      · simp [Flow.pinentryClosed, this] at hp
      · exact absurd hp this
  | polkitRequest hs => simp [Flow.polkitAsked, Life.opened, hs] at hp
  | polkitEnd r hpk => simp [Flow.polkitClosed] at hp

/-- **An open pinentry session keeps its owner.** -/
theorem FlowStep.owner (h : FlowStep W d c i f) (hsane : (d.flow c).Sane c)
    (hs : (d.flow c).life.source = some .pinentry) (hp : f.life.source = some .pinentry) :
    f.owner = (d.flow c).owner := by
  cases h with
  | stay => rfl
  | keyringRequest socket msg hm hc => rfl
  | keyringEnd r hk => rfl
  | pinentryRequest socket msg hm hc ho =>
      obtain ⟨owner, howner⟩ := Option.isSome_iff_exists.1 (hsane.owned hs)
      rw [howner, ho owner howner]
      simp [Flow.pinentryAsked, pinentryRequestOf]
  | pinentryAnswer socket msg hm ha hc hk r hr => rfl
  | pinentryResult socket msg hm hc ho hsrc r hr => simp [Flow.pinentryClosed, hs] at hp
  | pinentryRetry socket msg hm hc ho hsrc hr => rfl
  | pinentryEnd r hr => simp [Flow.pinentryClosed, hs] at hp
  | disconnected socket hi =>
      obtain ⟨-, -, hk⟩ := (d.flow c).keyringLeft_pinentry socket
      unfold Flow.pinentryLeft at hp ⊢
      split
      next hpend =>
        rw [if_pos hpend] at hp
        simp only [Flow.pinentryClosed] at hp
        split at hp
        · simp at hp
        · exact absurd hp ‹_›
      · exact hk
  | polkitRequest hsrc => rfl
  | polkitEnd r hpk => simp [Flow.polkitClosed] at hp

/-- **The owner of an open pinentry session is the peer that opened it.** -/
theorem owner_of_openedAt {ins pre : List Input}
    (h : (machine W).OpenedAt (IsOpen c .pinentry) ins pre i) :
    ∃ socket msg, ((machine W).run pre).message? i = some (.pinentryRequest, socket, msg) ∧
      (((machine W).run pre).pinentryRequestOf W socket msg).cookie = c ∧
      (((machine W).run ins).flow c).owner =
        some (((machine W).run pre).agent.getPeerPid socket) := by
  induction ins using List.reverseRecOn with
  | nil =>
      obtain ⟨post, heq, -⟩ := h
      simp at heq
  | append_singleton ins j ih =>
      have hopen : IsOpen c .pinentry ((machine W).run (ins ++ [j])) := h.holds
      have hstep := flowStep_run W c ins j
      rcases h.of_snoc with ⟨rfl, rfl⟩ | hold
      · exact hstep.opens_pinentry h.not_before hopen
      · obtain ⟨socket, msg, hm, hc, ho⟩ := ih hold
        refine ⟨socket, msg, hm, hc, ?_⟩
        rw [hstep.owner (sane_run W ins c) hold.holds hopen]
        exact ho

/-! ## Everybody else is kept out -/

/-- **A message is rejected**: it leaves everything as it was, but for an
error to its sender. -/
structure Rejects (d : Daemon) (socket : Socket) (d' : Daemon) : Prop where
  state : d' = d.withAgent { d.agent with log := d'.agent.log }
  events : d'.agent.events = d.agent.events
  outputs : d'.agent.log = d.agent.log ∨
    ∃ json, json.value "type" = .string "error" ∧ d'.agent.log = d.agent.log ++ [.sent socket json]

theorem rejects_sendJson (d : Daemon) (socket : Socket) {json : QJsonObject}
    (h : json.value "type" = .string "error") : Rejects d socket (d.sendJson socket json) where
  state := by
    unfold Daemon.sendJson
    rw [Agent.sendJson_eq]
    rfl
  events := (quiet_sendJson d.agent socket json).events
  outputs := by
    unfold Daemon.sendJson Agent.sendJson
    split
    · exact .inr ⟨json, h, rfl⟩
    · exact .inl rfl

/-- A request for a flow of another owner changes nothing. -/
theorem step_pinentryRequest_of_owner {socket : Socket} {msg : QJsonObject} {owner : Pid}
    (hm : d.message? i = some (.pinentryRequest, socket, msg))
    (hc : (msg.value "cookie").toString = c) (hne : c ≠ "")
    (ho : (d.flow c).owner = some owner) (hpid : d.agent.getPeerPid socket ≠ owner) :
    d.step W i = d := by
  have ho' : d.pinentryManager.flowOwners.lookup c = some owner := ho
  have hcookie : (PinentryManager.readRequest W d.agent msg socket
      (d.agent.getPeerPid socket)).cookie = c := by
    simp [PinentryManager.readRequest, PinentryManager.parsePinentryRequest, hc, hne]
  rw [step_of_message hm]
  simp only [dispatch, handlePinentryRequest, PinentryManager.handleRequest]
  rw [hcookie, hc, if_neg hne, if_pos (by simp [Table.contains, ho', Ne.symm hpid])]

/-- A result for a flow of another owner is rejected. -/
theorem rejects_pinentryResult_of_owner {socket : Socket} {msg : QJsonObject} {owner : Pid}
    (hm : d.message? i = some (.pinentryResult, socket, msg)) (hc : messageId msg = c)
    (hne : c ≠ "") (ho : (d.flow c).owner = some owner)
    (hpid : d.agent.getPeerPid socket ≠ owner) : Rejects d socket (d.step W i) := by
  have hv : d.pinentryManager.validateResultOwner c (d.agent.getPeerPid socket) = false := by
    have ho' : d.pinentryManager.flowOwners.lookup c = some owner := ho
    simp [PinentryManager.validateResultOwner, ho', Ne.symm hpid]
  rw [step_of_message hm]
  have hr : d.pinentryManager.handleResult W d.agent msg (d.agent.getPeerPid socket) =
      (PinentryManager.errorReply "Result sender does not own session", d.pinentryManager,
        d.agent) := by
    subst hc
    unfold PinentryManager.handleResult
    unfold messageId at hne hv
    simp [hne, hv]
  simp only [dispatch, handlePinentryResult, resultReply, hr]
  exact rejects_sendJson d socket rfl

/-- **Owner isolation.** The open pinentry session `c` was opened by a
request, and from a peer with another pid than that request's no request
for `c` does anything, and no result for `c` does more than to get an
error back. -/
theorem owner_isolation {ins pre : List Input}
    (h : (machine W).OpenedAt (IsOpen c .pinentry) ins pre i) :
    ∃ creator msg₀, ((machine W).run pre).message? i = some (.pinentryRequest, creator, msg₀) ∧
      (((machine W).run pre).pinentryRequestOf W creator msg₀).cookie = c ∧
      ∀ j socket msg, ((machine W).run ins).agent.getPeerPid socket ≠
          ((machine W).run pre).agent.getPeerPid creator →
        (((machine W).run ins).message? j = some (.pinentryRequest, socket, msg) →
          (msg.value "cookie").toString = c →
            (machine W).run (ins ++ [j]) = (machine W).run ins) ∧
        (((machine W).run ins).message? j = some (.pinentryResult, socket, msg) →
          (msg.value "id").toString = c →
            Rejects ((machine W).run ins) socket ((machine W).run (ins ++ [j]))) := by
  obtain ⟨creator, msg₀, hm₀, hc₀, ho⟩ := owner_of_openedAt h
  have hne : c ≠ "" := (sane_run W ins c).named (Option.isSome_of_mem ho)
  refine ⟨creator, msg₀, hm₀, hc₀, fun j socket msg hpid => ⟨fun hm hc => ?_, fun hm hc => ?_⟩⟩
  · rw [Machine.run_snoc]
    exact step_pinentryRequest_of_owner hm hc hne ho hpid
  · rw [Machine.run_snoc]
    exact rejects_pinentryResult_of_owner hm hc hne ho hpid

/-- A line that asks for a passphrase under the cookie `cookie`. -/
def askLine (socket : Socket) (cookie : String) : Input :=
  .line socket (some [("type", "pinentry_request"), ("cookie", cookie)])

/-- Two peers, the first of which opens `c`: the other's request for `c`
does nothing. -/
theorem owner_isolation_two :
    let M := machine (World.plain (fun _ => 0) false)
    let ins : List Input := [.newConnection 1 100, .newConnection 2 200, askLine 1 "c"]
    M.run (ins ++ [askLine 2 "c"]) = M.run ins := by
  intro M ins
  let pre : List Input := [.newConnection 1 100, .newConnection 2 200]
  let ask : QJsonObject := [("type", "pinentry_request"), ("cookie", "c")]
  have hopened : M.OpenedAt (IsOpen "c" .pinentry) ins pre (askLine 1 "c") := by
    change M.OpenedAt (IsOpen "c" .pinentry) (pre ++ [askLine 1 "c"]) pre (askLine 1 "c")
    refine Machine.OpenedAt.new ?_ ?_ <;>
    · unfold IsOpen
      decide
  obtain ⟨creator, msg₀, hm₀, -, h⟩ := owner_isolation hopened
  have hasked : (M.run pre).message? (askLine 1 "c") =
      some (MessageType.pinentryRequest, 1, ask) := by decide
  have hcreator : creator = 1 := by
    have := Option.some.inj (hm₀.symm.trans hasked)
    exact (Prod.mk.inj (Prod.mk.inj this).2).1
  subst hcreator
  exact (h (askLine 2 "c") 2 ask (by decide)).1 (by decide) (by decide)

end Daemon

end BbAuth
