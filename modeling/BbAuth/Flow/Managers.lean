import BbAuth.Flow.State
/-!
# The managers, flow by flow

What each handler of the two managers does to the flow of every id: an
operation of `Flow` on the id it is called for, nothing elsewhere. A
clean-up after a disconnect does it to every id at once.
-/

namespace BbAuth

open Agent

namespace Daemon

variable (W : World) {d d' : Daemon} (c : String)

theorem Same.flow (h : Same d d') : d'.flow c = d.flow c := by
  have hl : d'.agent.life c = d.agent.life c := by
    simp only [Agent.life, getSession, h.agent.sessionStore, h.agent.events]
  simp [Daemon.flow, hl, h.keyringManager, h.pinentryManager, h.listener]

variable (d)

@[simp] theorem flow_setClients (t : Table Socket Client) :
    (d.withAgent (d.agent.setClients t)).flow c = d.flow c := rfl

/-! ## The keyring manager -/

/-- **A keyring request** moves the flow of its cookie. -/
theorem flow_keyringRequest (msg : QJsonObject) (socket : Socket) (peerPid : Pid) :
    (d.withKeyring (d.keyringManager.handleRequest W d.agent msg socket peerPid)).flow c =
      if c = KeyringManager.requestCookie W d.agent msg then
        (d.flow c).keyringAsked (KeyringManager.readRequest c msg socket peerPid)
      else d.flow c := by
  have hw : ∀ a : Agent, (a.writeJson socket collisionError).life c = a.life c :=
    fun a => (quiet_writeJson a socket collisionError).life c
  simp only [KeyringManager.handleRequest, createSession_fst]
  generalize hcookie : KeyringManager.requestCookie W d.agent msg = cookie
  cases hs : (d.agent.life cookie).source with
  | none =>
      by_cases hc : c = cookie
      · subst hc
        simp [Daemon.flow, withKeyring, Flow.keyringAsked, hs, KeyringManager.put,
          KeyringManager.readRequest]
      · simp [Daemon.flow, withKeyring, hs, hc, KeyringManager.put, KeyringManager.readRequest]
  | some source =>
      by_cases hc : c = cookie
      · subst hc
        simp [Daemon.flow, withKeyring, Flow.keyringAsked, hs, hw, KeyringManager.drop]
      · simp [Daemon.flow, withKeyring, hs, hc, hw, KeyringManager.put, KeyringManager.drop,
          KeyringManager.readRequest]

/-- The close of a keyring request. -/
theorem flow_keyringClose (km : KeyringManager) (a : Agent) (cookie : String)
    (r : Session.Result) :
    (d.withKeyring (km.drop cookie, (a.closeSession W cookie r).2)).flow c =
      if c = cookie then ((d.withKeyring (km, a)).flow c).keyringClosed r
      else (d.withKeyring (km, a)).flow c := by
  by_cases hc : c = cookie
  · simp [Daemon.flow, withKeyring, KeyringManager.drop, Flow.keyringClosed, hc]
  · simp [Daemon.flow, withKeyring, KeyringManager.drop, hc]

theorem flow_keyringAnswer (cookie response : String) {request : KeyringRequest}
    (hr : d.keyringManager.pendingRequests.lookup cookie = some request) :
    (d.withKeyring (d.keyringManager.handleResponse W d.agent cookie response).2).flow c =
      if c = cookie then (d.flow c).keyringClosed .success else d.flow c := by
  simp only [KeyringManager.handleResponse, hr]
  exact flow_keyringClose W d c d.keyringManager d.agent cookie .success

theorem flow_keyringCancel (cookie : String) {request : KeyringRequest}
    (hr : d.keyringManager.pendingRequests.lookup cookie = some request) :
    (d.withKeyring (d.keyringManager.handleCancel W d.agent cookie).2).flow c =
      if c = cookie then (d.flow c).keyringClosed .cancelled else d.flow c := by
  simp only [KeyringManager.handleCancel, hr]
  exact flow_keyringClose W d c d.keyringManager d.agent cookie .cancelled

/-- The loop of a clean-up closes what it finds, and nothing else. -/
theorem flow_cleanupLoop (socket : Socket) : ∀ (entries : List (String × KeyringRequest))
    (km : KeyringManager) (a : Agent), (∀ e ∈ entries, e.2.cookie = e.1) →
      ((∃ r, (c, r) ∈ entries ∧ r.socket = socket) →
        (d.withKeyring (KeyringManager.cleanupLoop W socket entries km a)).flow c =
          ((d.withKeyring (km, a)).flow c).keyringClosed .cancelled) ∧
      ((¬ ∃ r, (c, r) ∈ entries ∧ r.socket = socket) →
        (d.withKeyring (KeyringManager.cleanupLoop W socket entries km a)).flow c =
          (d.withKeyring (km, a)).flow c)
  | [], km, a, _ => by simp [KeyringManager.cleanupLoop]
  | (key, request) :: rest, km, a, hkeyed => by
      have hkey : request.cookie = key := hkeyed _ List.mem_cons_self
      have hrest : ∀ e ∈ rest, e.2.cookie = e.1 := fun e he => hkeyed e (List.mem_cons_of_mem _ he)
      unfold KeyringManager.cleanupLoop
      by_cases hs : request.socket = socket
      · rw [if_pos hs, hkey]
        obtain ⟨hin, hout⟩ := flow_cleanupLoop socket rest (km.drop key)
          (a.closeSession W key .cancelled).2 hrest
        have hhead := flow_keyringClose W d c km a key .cancelled
        by_cases hc : c = key
        · -- the head closes the flow, and closing it again changes nothing
          rw [if_pos hc] at hhead
          refine ⟨fun _ => ?_, fun hn => absurd ⟨request, by simp [hc], hs⟩ hn⟩
          by_cases hr : ∃ r, (c, r) ∈ rest ∧ r.socket = socket
          · rw [hin hr, hhead, Flow.keyringClosed_closed]
          · rw [hout hr, hhead]
        · rw [if_neg hc] at hhead
          rw [hhead] at hin hout
          have hiff : (∃ r, (c, r) ∈ (key, request) :: rest ∧ r.socket = socket) ↔
              ∃ r, (c, r) ∈ rest ∧ r.socket = socket := by simp [hc]
          rw [hiff]
          exact ⟨hin, hout⟩
      · rw [if_neg hs]
        have hiff : (∃ r, (c, r) ∈ (key, request) :: rest ∧ r.socket = socket) ↔
            ∃ r, (c, r) ∈ rest ∧ r.socket = socket := by
          refine exists_congr fun r => ?_
          simp only [List.mem_cons, Prod.mk.injEq]
          constructor
          · rintro ⟨⟨-, rfl⟩ | hr, hrs⟩
            · exact absurd hrs hs
            · exact ⟨hr, hrs⟩
          · exact fun ⟨hr, hrs⟩ => ⟨.inr hr, hrs⟩
        rw [hiff]
        exact flow_cleanupLoop socket rest km a hrest

/-- **A disconnect** takes the keyring requests of its socket along. -/
theorem flow_keyringCleanup (a : Agent) (socket : Socket) :
    (d.withKeyring (d.keyringManager.cleanupForSocket W a socket)).flow c =
      ((d.withAgent a).flow c).keyringLeft socket := by
  have hiff : (∃ r, (c, r) ∈ W.walk a.tick d.keyringManager.pendingRequests.pairs ∧
      r.socket = socket) ↔
        ((d.withAgent a).flow c).keyring.map KeyringRequest.socket = some socket := by
    simp only [World.mem_walk, Table.mem_pairs, Option.map_eq_some_iff]
    rfl
  obtain ⟨hin, hout⟩ := flow_cleanupLoop W d c socket
    (W.walk a.tick d.keyringManager.pendingRequests.pairs) d.keyringManager a.ticked <| by
      rintro ⟨k, r⟩ he
      exact d.keyringManager.keyed k r (Table.mem_pairs.1 (W.mem_walk.1 he))
  rw [hiff] at hin hout
  unfold Flow.keyringLeft
  split
  next h => exact hin h
  next h => exact hout h

end Daemon

/-! ## The pinentry manager's tables -/

namespace PinentryManager

variable (W : World) (pm : PinentryManager) (a : Agent) (c cookie : String)

@[simp] theorem cleanupAwaiting_pendingRequests :
    (pm.cleanupAwaiting cookie).pendingRequests = pm.pendingRequests := by
  unfold cleanupAwaiting
  split <;> rfl

@[simp] theorem cleanupAwaiting_flowOwners :
    (pm.cleanupAwaiting cookie).flowOwners = pm.flowOwners := by
  unfold cleanupAwaiting
  split <;> rfl

@[simp] theorem cleanupAwaiting_flowKeyinfos :
    (pm.cleanupAwaiting cookie).flowKeyinfos = pm.flowKeyinfos := by
  unfold cleanupAwaiting
  split <;> rfl

@[simp] theorem cleanupAwaiting_retryInfo :
    (pm.cleanupAwaiting cookie).retryInfo = pm.retryInfo := by
  unfold cleanupAwaiting
  split <;> rfl

@[simp] theorem cleanupAwaiting_retryReported :
    (pm.cleanupAwaiting cookie).retryReported = pm.retryReported := by
  unfold cleanupAwaiting
  split <;> rfl

@[simp] theorem cleanupAwaiting_nextTimer :
    (pm.cleanupAwaiting cookie).nextTimer = pm.nextTimer := by
  unfold cleanupAwaiting
  split <;> rfl

@[simp] theorem lookup_cleanupAwaiting :
    (pm.cleanupAwaiting cookie).awaitingOutcome.lookup c =
      if c = cookie then none else pm.awaitingOutcome.lookup c := by
  unfold cleanupAwaiting
  split
  next h =>
    split
    next hc => rw [hc, h]
    · rfl
  · simp

@[simp] theorem forgetFlow_pendingRequests :
    (pm.forgetFlow cookie).pendingRequests = pm.pendingRequests.erase cookie := by
  simp [forgetFlow]

@[simp] theorem forgetFlow_flowOwners :
    (pm.forgetFlow cookie).flowOwners = pm.flowOwners.erase cookie := by
  simp [forgetFlow]

@[simp] theorem lookup_forgetFlow :
    (pm.forgetFlow cookie).awaitingOutcome.lookup c =
      if c = cookie then none else pm.awaitingOutcome.lookup c := by
  simp [forgetFlow]

/-- The tables a flow is read off and the timers are untouched by the
retry counters. -/
theorem resolveRetryInfo_eq (request : PinentryRequest) :
    (pm.resolveRetryInfo request).2 =
      { pm with retryInfo := (pm.resolveRetryInfo request).2.retryInfo } := by
  simp only [resolveRetryInfo]
  split
  · rfl
  · split <;> rfl

/-- What the wait for a result leaves of the tables. -/
theorem leaveAwaiting_fst (request : PinentryRequest) :
    (pm.leaveAwaiting a request).1 = pm.cleanupAwaiting request.cookie := by
  unfold leaveAwaiting
  split
  · rfl
  next h =>
    have hn : pm.awaitingOutcome.lookup request.cookie = none := by
      simpa [Table.contains] using h
    simp [cleanupAwaiting, hn]

@[simp] theorem life_leaveAwaiting (request : PinentryRequest) :
    (pm.leaveAwaiting a request).2.life c = a.life c := by
  unfold leaveAwaiting
  split
  · simp
  · rfl

@[simp] theorem life_showPrompt (request : PinentryRequest) :
    (pm.showPrompt a request).2.life c = a.life c := by
  simp only [showPrompt]
  split <;> simp

/-- **An accepted request always finds or creates its session**: the
rollback of `handleRequest` is never taken. -/
theorem openSession_fst (request : PinentryRequest) (counters : ℤ × ℤ) :
    (openSession W a request counters (a.life request.cookie).source.isSome).1 = true := by
  unfold openSession
  cases h : (a.life request.cookie).source <;> simp [createSession_fst, h]

theorem life_openSession (request : PinentryRequest) (counters : ℤ × ℤ) :
    (openSession W a request counters (a.life request.cookie).source.isSome).2.life c =
      if c = request.cookie then (a.life c).opened .pinentry else a.life c := by
  unfold openSession
  cases h : (a.life request.cookie).source with
  | none => simp
  | some source =>
      by_cases hc : c = request.cookie
      · simp [hc, Life.opened_of_some h]
      · simp [hc]

/-- The wait for a result and the other tables do not meet. -/
theorem cleanupAwaiting_with (owners : Table String Pid) (keyinfos : Table String String)
    (retryInfo : Table String PinentryRetryInfo) :
    PinentryManager.cleanupAwaiting
        { pm with flowOwners := owners, flowKeyinfos := keyinfos, retryInfo := retryInfo } cookie =
      { pm.cleanupAwaiting cookie with
        flowOwners := owners, flowKeyinfos := keyinfos, retryInfo := retryInfo } := by
  unfold cleanupAwaiting
  dsimp only
  split <;> rfl

/-- What the retry counters of a key become with a request that names it. -/
def renewedInfo (request : PinentryRequest) (old : Option PinentryRetryInfo) : PinentryRetryInfo :=
  let info := { old.getD {} with keyinfo := request.keyinfo }
  match Text.findAttempts request.description.toList with
  | some (cur, max) => { info with curRetry := Text.toInt cur, maxRetries := Text.toInt max }
  | none => info

/-- **The counters are written under the key of the request**, if it names
one. -/
theorem retryInfo_resolveRetryInfo (request : PinentryRequest) :
    (pm.resolveRetryInfo request).2.retryInfo =
      if request.keyinfo = "" then pm.retryInfo
      else pm.retryInfo.insert request.keyinfo
        (renewedInfo request (pm.retryInfo.lookup request.keyinfo)) := by
  simp only [resolveRetryInfo, renewedInfo]
  by_cases hk : request.keyinfo = ""
  · simp only [hk, if_true]
  · simp only [hk, if_false]
    cases Text.findAttempts request.description.toList <;> rfl

/-- **The counters shown** depend on the request and on what is kept under
its key. -/
theorem resolveRetryInfo_congr {pm pm' : PinentryManager} {request : PinentryRequest}
    (h : request.keyinfo ≠ "" →
      pm.retryInfo.lookup request.keyinfo = pm'.retryInfo.lookup request.keyinfo) :
    (pm.resolveRetryInfo request).1 = (pm'.resolveRetryInfo request).1 := by
  simp only [resolveRetryInfo]
  by_cases hk : request.keyinfo = ""
  · simp only [hk, if_true]
  · simp only [hk, if_false, h hk]
    cases Text.findAttempts request.description.toList <;> rfl

/-- The first part of `acceptRequest` writes the owner, the key and the
counters. -/
theorem claimFlow_eq (request : PinentryRequest) :
    ((if request.keyinfo ≠ "" then
        { pm with flowOwners := pm.flowOwners.insert request.cookie request.peerPid,
                  flowKeyinfos := pm.flowKeyinfos.insert request.cookie request.keyinfo }
      else { pm with flowOwners := pm.flowOwners.insert request.cookie request.peerPid } :
        PinentryManager).resolveRetryInfo request) =
      ((pm.resolveRetryInfo request).1,
      { pm with
        flowOwners := pm.flowOwners.insert request.cookie request.peerPid
        flowKeyinfos := if request.keyinfo ≠ "" then
            pm.flowKeyinfos.insert request.cookie request.keyinfo
          else pm.flowKeyinfos
        retryInfo := (pm.resolveRetryInfo request).2.retryInfo }) := by
  refine Prod.ext (resolveRetryInfo_congr fun _ => ?_) ?_
  · split <;> rfl
  · rw [resolveRetryInfo_eq]
    by_cases hk : request.keyinfo = "" <;> simp [hk, retryInfo_resolveRetryInfo]

/-- **What an accepted request leaves** of the manager's tables. -/
structure Accepts (request : PinentryRequest) (pm' : PinentryManager) : Prop where
  pendingRequests : pm'.pendingRequests = pm.pendingRequests.insert request.cookie request
  flowOwners : pm'.flowOwners = pm.flowOwners.insert request.cookie request.peerPid
  flowKeyinfos : pm'.flowKeyinfos =
    if request.keyinfo ≠ "" then pm.flowKeyinfos.insert request.cookie request.keyinfo
    else pm.flowKeyinfos
  retryInfo : pm'.retryInfo = (pm.resolveRetryInfo request).2.retryInfo
  retryReported : pm'.retryReported = pm.retryReported.erase request.cookie
  awaitingOutcome : pm'.awaitingOutcome = (pm.cleanupAwaiting request.cookie).awaitingOutcome
  activeTimers : pm'.activeTimers = (pm.cleanupAwaiting request.cookie).activeTimers
  nextTimer : pm'.nextTimer = pm.nextTimer

/-- **An accepted request opens or renews its session** once its flow has
left the wait for a result, and then shows its prompt. -/
theorem acceptRequest_eq (request : PinentryRequest) :
    ∃ pm' : PinentryManager, pm.Accepts request (pm'.showPrompt a request).1 ∧
      pm.acceptRequest W a request = pm'.showPrompt (openSession W (pm.leaveAwaiting a request).2
        request (pm.resolveRetryInfo request).1 (a.life request.cookie).source.isSome).2 request := by
  simp only [acceptRequest, claimFlow_eq]
  set pm₁ : PinentryManager := { pm with
    flowOwners := pm.flowOwners.insert request.cookie request.peerPid
    flowKeyinfos := if request.keyinfo ≠ "" then
        pm.flowKeyinfos.insert request.cookie request.keyinfo
      else pm.flowKeyinfos
    retryInfo := (pm.resolveRetryInfo request).2.retryInfo } with hpm₁
  have hsnd : (pm₁.leaveAwaiting a request).2 = (pm.leaveAwaiting a request).2 := by
    unfold leaveAwaiting
    split <;> rfl
  have hpm := leaveAwaiting_fst pm₁ a request
  have hlife := life_leaveAwaiting pm₁ a request.cookie request
  generalize pm₁.leaveAwaiting a request = left at hpm hsnd hlife ⊢
  obtain ⟨pm₂, a₂⟩ := left
  dsimp only at hpm hsnd hlife ⊢
  have hopen := openSession_fst W a₂ request (pm.resolveRetryInfo request).1
  rw [isSome_getSession, ← hlife, hopen]
  subst hpm hsnd
  rw [hpm₁, cleanupAwaiting_with pm]
  simp only [Bool.not_true, Bool.false_eq_true, if_false]
  refine ⟨_, ?_, rfl⟩
  refine ⟨?_, rfl, rfl, rfl, ?_, rfl, rfl, ?_⟩
  · exact congrArg (AList.insert request.cookie request) (cleanupAwaiting_pendingRequests pm _)
  · exact congrArg (AList.erase request.cookie) (cleanupAwaiting_retryReported pm _)
  · exact cleanupAwaiting_nextTimer pm request.cookie

/-- **An accepted request**: it is pending under its owner, and its
session is open. -/
theorem accepts_acceptRequest (request : PinentryRequest) :
    pm.Accepts request (pm.acceptRequest W a request).1 ∧
      ∀ c, (pm.acceptRequest W a request).2.life c =
        if c = request.cookie then (a.life c).opened .pinentry else a.life c := by
  obtain ⟨pm', hacc, heq⟩ := acceptRequest_eq W pm a request
  refine ⟨heq ▸ hacc, fun c => ?_⟩
  rw [heq, life_showPrompt, ← life_leaveAwaiting pm a request.cookie request, life_openSession,
    life_leaveAwaiting]

/-- The cookie of a request is never empty. -/
theorem readRequest_cookie_ne (msg : QJsonObject) (socket : Socket) (peerPid : Pid) :
    (readRequest W a msg socket peerPid).cookie ≠ "" := by
  simp only [readRequest]
  split
  · exact W.createUuid_ne_empty a.tick
  · assumption

@[simp] theorem readRequest_peerPid (msg : QJsonObject) (socket : Socket) (peerPid : Pid) :
    (readRequest W a msg socket peerPid).peerPid = peerPid := by
  simp only [readRequest]
  split <;> rfl

@[simp] theorem readRequest_socket (msg : QJsonObject) (socket : Socket) (peerPid : Pid) :
    (readRequest W a msg socket peerPid).socket = socket := by
  simp only [readRequest]
  split <;> rfl

/-- The results a pinentry can report. -/
def knownResults : List String := ["success", "retry", "cancelled", "canceled", "error"]

/-- **What a reported result does**: it is refused, or comes from the owner
of an open pinentry session and ends its flow or sends it back. -/
inductive ResultCase (msg : QJsonObject) (peerPid : Pid) :
    QJsonObject × PinentryManager × Agent → Prop
  | refused (message : String)
      (h : Daemon.messageId msg = "" ∨
        pm.validateResultOwner (Daemon.messageId msg) peerPid = false ∨
        isPinentrySession a (Daemon.messageId msg) = false ∨
        Daemon.reportedResult msg ∉ knownResults) :
      ResultCase msg peerPid (errorReply message, pm, a)
  | closed (ho : pm.validateResultOwner (Daemon.messageId msg) peerPid = true)
      (hs : isPinentrySession a (Daemon.messageId msg) = true) (r : Session.Result)
      (error : String) (hr : r = .success ↔ Daemon.reportedResult msg = "success")
      (hne : Daemon.reportedResult msg ≠ "retry") :
      ResultCase msg peerPid (okReply, pm.closeFlow W a (Daemon.messageId msg) r error)
  | retried (ho : pm.validateResultOwner (Daemon.messageId msg) peerPid = true)
      (hs : isPinentrySession a (Daemon.messageId msg) = true)
      (hr : Daemon.reportedResult msg = "retry") :
      ResultCase msg peerPid (okReply,
        { pm.cleanupAwaiting (Daemon.messageId msg) with
          retryReported := (pm.cleanupAwaiting (Daemon.messageId msg)).retryReported.insert
            (Daemon.messageId msg) () },
        a.updateSessionError (Daemon.messageId msg) (failureText (msg.value "error").toString))

theorem handleResult_cases (msg : QJsonObject) (peerPid : Pid) :
    ResultCase W pm a msg peerPid (pm.handleResult W a msg peerPid) := by
  unfold handleResult
  dsimp only
  split
  next hid => exact .refused _ (.inl hid)
  split
  next ho => exact .refused _ (.inr (.inl (by rwa [Bool.not_eq_true'] at ho)))
  next ho =>
  rw [Bool.not_eq_true, Bool.not_eq_false'] at ho
  split
  next hs => exact .refused _ (.inr (.inr (.inl (by rwa [Bool.not_eq_true'] at hs))))
  next hs =>
  rw [Bool.not_eq_true, Bool.not_eq_false'] at hs
  split
  next hr =>
    refine .closed ho hs .success "" ⟨fun _ => hr, fun _ => rfl⟩ fun hretry => ?_
    have := hr.symm.trans hretry
    simp at this
  next hr =>
  have hne : ∀ r : Session.Result, r ≠ .success →
      (r = .success ↔ Daemon.reportedResult msg = "success") :=
    fun r h => ⟨fun h' => absurd h' h, fun h' => absurd h' hr⟩
  split
  next hretry => exact .retried ho hs hretry
  next hretry =>
  split
  · exact .closed ho hs .cancelled "" (hne _ (by decide)) hretry
  next hcancel =>
  split
  · exact .closed ho hs .error _ (hne _ (by decide)) hretry
  next herror =>
    simp only [Bool.or_eq_true, decide_eq_true_eq, not_or] at hcancel
    exact .refused _ (.inr (.inr (.inr (by
      simp only [knownResults, List.mem_cons, List.not_mem_nil, not_or]
      exact ⟨hr, hretry, hcancel.1, hcancel.2, herror, not_false⟩))))

/-- A result that is none of the known ones changes nothing. -/
theorem handleResult_of_unknown (msg : QJsonObject) (peerPid : Pid)
    (h : Daemon.reportedResult msg ∉ knownResults) :
    (pm.handleResult W a msg peerPid).2 = (pm, a) := by
  simp only [knownResults, List.mem_cons, List.not_mem_nil, or_false, not_or,
    Daemon.reportedResult] at h
  obtain ⟨h₁, h₂, h₃, h₄, h₅⟩ := h
  simp only [handleResult, h₁, h₂, h₃, h₄, h₅, decide_false, Bool.or_self, Bool.false_eq_true,
    if_false]
  split_ifs <;> rfl

theorem validateResultOwner_iff (peerPid : Pid) :
    pm.validateResultOwner cookie peerPid = true ↔
      ∀ owner, pm.flowOwners.lookup cookie = some owner → owner = peerPid := by
  unfold validateResultOwner
  cases pm.flowOwners.lookup cookie <;> simp

theorem life_closeFlowSession (r : Session.Result) (error : String) :
    (closeFlowSession W a cookie r error).life c =
      if c = cookie then
        if (a.life c).source = some .pinentry then (a.life c).closed r else a.life c
      else a.life c := by
  unfold closeFlowSession
  have hlife : ∀ b : Agent, (if error ≠ "" then b.updateSessionError cookie error else b).life c =
      b.life c := by
    intro b
    split <;> simp
  by_cases hs : isPinentrySession a cookie = true
  · rw [if_pos hs, life_closeSession, hlife]
    rw [isPinentrySession_iff] at hs
    split
    next hc => rw [hc, if_pos hs]
    · rfl
  · rw [if_neg hs]
    rw [isPinentrySession_iff] at hs
    split
    next hc => rw [hc, if_neg hs]
    · rfl

end PinentryManager

/-! ## The pinentry manager -/

namespace Daemon

variable (W : World) (d : Daemon) (c : String)

/-- **The close of a flow.** -/
theorem flow_closeFlow (pm : PinentryManager) (a : Agent) (cookie : String) (r : Session.Result)
    (error : String) :
    (d.withPinentry (pm.closeFlow W a cookie r error)).flow c =
      if c = cookie then ((d.withPinentry (pm, a)).flow c).pinentryClosed r
      else (d.withPinentry (pm, a)).flow c := by
  by_cases hc : c = cookie
  · simp [Daemon.flow, withPinentry, PinentryManager.closeFlow, Flow.pinentryClosed,
      PinentryManager.life_closeFlowSession, hc]
  · simp [Daemon.flow, withPinentry, PinentryManager.closeFlow,
      PinentryManager.life_closeFlowSession, hc]

/-- **A pinentry request** is refused to all but the flow's owner, and
moves the flow of its cookie. -/
theorem flow_pinentryRequest (msg : QJsonObject) (socket : Socket) :
    let request := d.pinentryRequestOf W socket msg
    let peerPid := d.agent.getPeerPid socket
    let d' := d.withPinentry (d.pinentryManager.handleRequest W d.agent msg socket peerPid)
    let accepted := request.cookie = c ∧ ∀ owner, (d.flow c).owner = some owner → owner = peerPid
    (¬ accepted ∧ d'.flow c = d.flow c) ∨
      (accepted ∧ d'.flow c = (d.flow c).pinentryAsked request) := by
  intro request peerPid d' accepted
  set a : Agent := if (msg.value "cookie").toString = "" then d.agent.ticked else d.agent
  have hlife : ∀ c, a.life c = d.agent.life c := by
    intro c
    simp only [a]
    split <;> rfl
  by_cases hrefused : d.pinentryManager.flowOwners.contains request.cookie &&
      d.pinentryManager.flowOwners.lookup request.cookie ≠ some peerPid
  · have hd' : d' = d.withPinentry (d.pinentryManager, a) := by
      simp only [d', PinentryManager.handleRequest]
      exact congrArg d.withPinentry (if_pos hrefused)
    refine .inl ⟨?_, by simp [hd', Daemon.flow, withPinentry, hlife]⟩
    rintro ⟨hc, hall⟩
    simp only [Bool.and_eq_true, Table.contains_eq_true, decide_eq_true_eq] at hrefused
    obtain ⟨owner, ho⟩ := Table.mem_iff_exists.1 hrefused.1
    refine hrefused.2 ?_
    rw [ho, hall owner (by rw [← hc]; exact ho)]
  · have hd' : d' = d.withPinentry (d.pinentryManager.acceptRequest W a request) := by
      simp only [d', PinentryManager.handleRequest]
      exact congrArg d.withPinentry (if_neg hrefused)
    obtain ⟨hpm, hl⟩ := PinentryManager.accepts_acceptRequest W d.pinentryManager a request
    by_cases hc : request.cookie = c
    · refine .inr ⟨⟨hc, fun owner ho => ?_⟩, ?_⟩
      · have ho' : d.pinentryManager.flowOwners.lookup request.cookie = some owner := by
          rw [hc]
          exact ho
        simpa [Table.contains, ho'] using hrefused
      · simp [hd', Daemon.flow, withPinentry, hpm.pendingRequests, hpm.flowOwners,
          hpm.awaitingOutcome, hl, hlife, Flow.pinentryAsked, hc]
    · have hc' : c ≠ request.cookie := Ne.symm hc
      refine .inl ⟨fun h => hc h.1, ?_⟩
      simp [hd', Daemon.flow, withPinentry, hpm.pendingRequests, hpm.flowOwners,
        hpm.awaitingOutcome, hl, hlife, hc']

/-- **The answer to a pending request.** -/
theorem flow_pinentryAnswer (cookie response : String) {request : PinentryRequest}
    (hr : d.pinentryManager.pendingRequests.lookup cookie = some request) :
    (d.withPinentry ((d.pinentryManager.handleResponse cookie response).2, d.agent)).flow c =
      if c = cookie then (d.flow c).pinentryAnswered request d.pinentryManager.nextTimer
      else d.flow c := by
  by_cases hc : c = cookie
  · subst hc
    simp [PinentryManager.handleResponse, hr, Daemon.flow, withPinentry, Flow.pinentryAnswered]
  · simp [PinentryManager.handleResponse, hr, Daemon.flow, withPinentry, hc]

/-- **The report of a result**: it is refused, ends the flow, or takes the
flow's awaited result away. -/
theorem flow_pinentryResult (msg : QJsonObject) (peerPid : Pid) :
    let d' := d.withPinentry (d.pinentryManager.handleResult W d.agent msg peerPid).2
    d'.flow c = d.flow c ∨
      messageId msg = c ∧ (∀ owner, (d.flow c).owner = some owner → owner = peerPid) ∧
        (d.flow c).life.source = some .pinentry ∧
        ((∃ r, (r = .success → reportedResult msg = "success") ∧
            d'.flow c = (d.flow c).pinentryClosed r) ∨
          reportedResult msg = "retry" ∧ d'.flow c = (d.flow c).pinentryRetried) := by
  dsimp only
  have hcase := PinentryManager.handleResult_cases W d.pinentryManager d.agent msg peerPid
  generalize PinentryManager.handleResult W d.pinentryManager d.agent msg peerPid = result at hcase ⊢
  by_cases hc : c = messageId msg
  · subst hc
    cases hcase with
    | refused message h => exact .inl rfl
    | closed ho hs r error hr hne =>
        refine .inr ⟨rfl, (PinentryManager.validateResultOwner_iff _ _ _).1 ho,
          (PinentryManager.isPinentrySession_iff _ _).1 hs, .inl ⟨r, hr.1, ?_⟩⟩
        rw [flow_closeFlow, if_pos rfl]
        rfl
    | retried ho hs hr =>
        refine .inr ⟨rfl, (PinentryManager.validateResultOwner_iff _ _ _).1 ho,
          (PinentryManager.isPinentrySession_iff _ _).1 hs, .inr ⟨hr, ?_⟩⟩
        simp [Daemon.flow, withPinentry, Flow.pinentryRetried]
  · left
    cases hcase with
    | refused message h => rfl
    | closed ho hs r error hr hne =>
        rw [flow_closeFlow, if_neg hc]
        rfl
    | retried ho hs hr => simp [Daemon.flow, withPinentry, hc]

/-- **A result timer** that is armed closes the flow it was started for. -/
theorem flow_pinentryTimeout (timer : ℕ) :
    let d' := d.withPinentry (d.pinentryManager.onTimeout W d.agent timer)
    d'.flow c = d.flow c ∨ d'.flow c = (d.flow c).pinentryClosed .error := by
  intro d'
  simp only [d', PinentryManager.onTimeout]
  split
  · exact .inl rfl
  · rw [flow_closeFlow]
    split
    · exact .inr rfl
    · exact .inl rfl

/-- The loop of a clean-up closes the flows of its list. -/
theorem flow_closeAll : ∀ (cookies : List String) (pm : PinentryManager) (a : Agent),
    (d.withPinentry (PinentryManager.closeAll W cookies pm a)).flow c =
      if c ∈ cookies then ((d.withPinentry (pm, a)).flow c).pinentryClosed .cancelled
      else (d.withPinentry (pm, a)).flow c
  | [], pm, a => by simp [PinentryManager.closeAll]
  | cookie :: rest, pm, a => by
      simp only [PinentryManager.closeAll]
      rw [flow_closeAll rest]
      have hhead := flow_closeFlow W d c pm a cookie .cancelled "Pinentry disconnected"
      by_cases hc : c = cookie
      · rw [if_pos hc] at hhead
        rw [hhead, Flow.pinentryClosed_closed]
        simp [hc]
      · rw [if_neg hc] at hhead
        rw [hhead]
        simp [hc]

/-- **A disconnect** takes along the flows that wait for input on its
socket. -/
theorem flow_pinentryCleanup (a : Agent) (socket : Socket) :
    (d.withPinentry (d.pinentryManager.cleanupForSocket W a socket)).flow c =
      ((d.withAgent a).flow c).pinentryLeft socket := by
  simp only [PinentryManager.cleanupForSocket]
  rw [flow_closeAll]
  have hiff : c ∈ ((W.walk a.tick d.pinentryManager.pendingRequests.pairs).filter
        fun e => e.2.socket = socket).map Prod.fst ↔
      ((d.withAgent a).flow c).pending.map PinentryRequest.socket = some socket := by
    simp [Table.mem_pairs, Daemon.flow, withAgent]
  simp only [hiff]
  rfl

end Daemon

end BbAuth
