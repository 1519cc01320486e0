import BbAuth.Flow.Timers
/-!
# A timeout is never stale

A result timer remembers its cookie and nothing else, while the same
cookie is asked for, answered and asked for again. The manager is taken
here as a machine of its operations, with any sessions around it at each
of them. Whatever it takes for a cookie stops the timer of that cookie, so
a timer that is still armed was armed by the last thing that happened to
its flow.
-/

namespace BbAuth

namespace PinentryManager

/-- **An operation of the manager.** -/
inductive Operation where
  /-- A `pinentry_request` of a client. -/
  | request (msg : QJsonObject) (socket : Socket) (peerPid : Pid)
  /-- The answer of a provider. -/
  | response (cookie response : String)
  /-- A `pinentry_result` of a client. -/
  | result (msg : QJsonObject) (peerPid : Pid)
  | cancel (cookie : String)
  /-- `cleanupForSocket`. -/
  | cleanup (socket : Socket)
  | timeout (timer : ℕ)

variable (W : World) {pm : PinentryManager} {a : Agent}

/-- What an operation leaves of the manager. -/
def perform (pm : PinentryManager) (a : Agent) : Operation → PinentryManager
  | .request msg socket peerPid => (pm.handleRequest W a msg socket peerPid).1
  | .response cookie response => (pm.handleResponse cookie response).2
  | .result msg peerPid => (pm.handleResult W a msg peerPid).2.1
  | .cancel cookie => (pm.handleCancel W a cookie).2.1
  | .cleanup socket => (pm.cleanupForSocket W a socket).1
  | .timeout timer => (pm.onTimeout W a timer).1

/-- **The manager as a machine** of its operations, each with the agent it
finds. -/
def machine : Machine PinentryManager (Operation × Agent) where
  init := {}
  step pm i := pm.perform W i.2 i.1

/-- **The operation is about the flow `c`**: a request, a result or a
cancel that names it. -/
def Names (c : String) : Operation × Agent → Prop
  | (.request msg socket peerPid, a) => (readRequest W a msg socket peerPid).cookie = c
  | (.result msg _, _) => (msg.value "id").toString = c
  | (.cancel cookie, _) => cookie = c
  | (.response .., _) => False
  | (.cleanup _, _) => False
  | (.timeout _, _) => False

/-- **The operation is taken for the flow `c`**: a request that is not
refused as another client's, a result or a cancel that is not answered
with an error, or a close of the flow. -/
def Takes (c : String) (pm : PinentryManager) : Operation × Agent → Prop
  | (.request msg socket peerPid, a) =>
    (readRequest W a msg socket peerPid).cookie = c ∧
      ∀ owner, pm.flowOwners.lookup c = some owner → owner = peerPid
  | (.result msg peerPid, a) =>
    (msg.value "id").toString = c ∧ (pm.handleResult W a msg peerPid).1 = okReply
  | (.cancel cookie, a) =>
    cookie = c ∧ (pm.handleCancel W a cookie).1 ≠ errorReply "Unknown session"
  | (.cleanup socket, _) =>
    ∃ request, pm.pendingRequests.lookup c = some request ∧ request.socket = socket
  | (.timeout timer, _) => pm.activeTimers.lookup timer = some c
  | (.response .., _) => False

/-- **The answer that armed the timer** for the flow `c`. -/
def Arms (t : ℕ) (c : String) (pm : PinentryManager) : Operation × Agent → Prop
  | (.response cookie _, _) => cookie = c ∧ pm.pendingRequests.contains c = true ∧ pm.nextTimer = t
  | _ => False

/-- No flow waits for its user and for its result at once. -/
def Apart (pm : PinentryManager) : Prop :=
  ∀ c, pm.pendingRequests.lookup c = none ∨ pm.awaitingOutcome.lookup c = none

/-! ## What is disarmed -/

variable {t : ℕ} {c cookie : String}

theorem Clocked.awaiting_of_armed (h : pm.Clocked) (ht : pm.activeTimers.lookup t = some c) :
    pm.awaitingOutcome.lookup c ≠ none := by
  obtain ⟨awaiting, haw, -⟩ := h.used t c ht
  rw [haw]
  exact Option.some_ne_none _

/-- Leaving the wait for a result arms no timer. -/
theorem lookup_of_cleanupAwaiting
    (ht : (pm.cleanupAwaiting cookie).activeTimers.lookup t = some c) :
    pm.activeTimers.lookup t = some c := by
  unfold cleanupAwaiting at ht
  split at ht
  next => exact ht
  next =>
    rw [Table.lookup_erase] at ht
    split at ht
    · cases ht
    · exact ht

/-- Leaving the wait for a result disarms the timer of that flow and no
other. -/
theorem Clocked.lookup_cleanupAwaiting (h : pm.Clocked) :
    (pm.cleanupAwaiting cookie).activeTimers.lookup t = some c ↔
      pm.activeTimers.lookup t = some c ∧ c ≠ cookie := by
  cases haw : pm.awaitingOutcome.lookup cookie with
  | none =>
    have hsame : pm.cleanupAwaiting cookie = pm := by
      simp [PinentryManager.cleanupAwaiting, haw]
    rw [hsame]
    refine ⟨fun ht => ⟨ht, ?_⟩, And.left⟩
    rintro rfl
    exact h.awaiting_of_armed ht haw
  | some awaiting =>
    have harmed := h.armed cookie awaiting haw
    have hlook : (pm.cleanupAwaiting cookie).activeTimers.lookup t =
        if t = awaiting.timer then none else pm.activeTimers.lookup t := by
      simp [PinentryManager.cleanupAwaiting, haw]
    rw [hlook]
    by_cases htimer : t = awaiting.timer
    · rw [if_pos htimer, htimer, harmed]
      refine ⟨fun hn => absurd hn.symm (Option.some_ne_none _), fun hc => ?_⟩
      exact absurd (Option.some.inj hc.1).symm hc.2
    · rw [if_neg htimer]
      refine ⟨fun ht => ⟨ht, ?_⟩, And.left⟩
      rintro rfl
      obtain ⟨awaiting', haw', rfl⟩ := h.used t c ht
      rw [haw, Option.some_inj] at haw'
      exact htimer (by rw [haw'])

theorem forgetFlow_activeTimers (pm : PinentryManager) (cookie : String) :
    (pm.forgetFlow cookie).activeTimers = (pm.cleanupAwaiting cookie).activeTimers := by
  unfold forgetFlow cleanupAwaiting
  dsimp only
  cases pm.awaitingOutcome.lookup cookie <;> rfl

theorem Clocked.lookup_forgetFlow (h : pm.Clocked) :
    (pm.forgetFlow cookie).activeTimers.lookup t = some c ↔
      pm.activeTimers.lookup t = some c ∧ c ≠ cookie := by
  rw [forgetFlow_activeTimers, h.lookup_cleanupAwaiting]

/-! ## One operation -/

/-- A request is refused as another client's, and nothing changes, or it
is taken. -/
theorem handleRequest_cases (W : World) (pm : PinentryManager) (a : Agent) (msg : QJsonObject)
    (socket : Socket) (peerPid : Pid) :
    (¬ Takes W (readRequest W a msg socket peerPid).cookie pm (.request msg socket peerPid, a) ∧
        (pm.handleRequest W a msg socket peerPid).1 = pm) ∨
      (Takes W (readRequest W a msg socket peerPid).cookie pm (.request msg socket peerPid, a) ∧
        pm.Accepts (readRequest W a msg socket peerPid)
          (pm.handleRequest W a msg socket peerPid).1) := by
  unfold handleRequest
  dsimp only
  split
  next hrefused =>
    refine .inl ⟨?_, rfl⟩
    rintro ⟨-, howner⟩
    simp only [Bool.and_eq_true, Table.contains_eq_true, Table.mem_iff_exists,
      decide_eq_true_eq] at hrefused
    obtain ⟨⟨owner, hlook⟩, hne⟩ := hrefused
    exact hne (by rw [hlook, howner owner hlook])
  next htaken =>
    refine .inr ⟨⟨rfl, fun owner hlook => ?_⟩, (accepts_acceptRequest W pm _ _).1⟩
    by_contra hne
    refine htaken ?_
    simp only [Bool.and_eq_true, Table.contains_eq_true, Table.mem_iff_exists, decide_eq_true_eq]
    refine ⟨⟨owner, hlook⟩, fun hsome => hne ?_⟩
    exact Option.some.inj (hlook.symm.trans hsome)

/-- A cancel is answered with an error, and nothing changes, or it closes
the flow. -/
theorem handleCancel_cases (W : World) (pm : PinentryManager) (a : Agent) (cookie : String) :
    ((pm.handleCancel W a cookie).1 = errorReply "Unknown session" ∧
        (pm.handleCancel W a cookie).2.1 = pm ∧ pm.awaitingOutcome.lookup cookie = none) ∨
      ((pm.handleCancel W a cookie).1 ≠ errorReply "Unknown session" ∧
        (pm.handleCancel W a cookie).2.1 = pm.forgetFlow cookie) := by
  cases hreq : pm.hasRequest a cookie with
  | true =>
    rw [handleCancel_of_hasRequest hreq]
    refine .inr ⟨fun h => ?_, rfl⟩
    have htype := congrArg (fun o : QJsonObject => o.value "type") h
    exact absurd htype (by simp [cancelledReply, errorReply, QJsonObject.value])
  | false =>
    unfold hasRequest at hreq
    split at hreq
    next => cases hreq
    next hno =>
      simp only [Bool.or_eq_true, not_or, Bool.not_eq_true] at hno
      refine .inl ⟨?_, ?_, ?_⟩
      · simp [handleCancel, hno, hreq]
      · simp [handleCancel, hno, hreq]
      · have := hno.2
        rw [Table.contains_eq_false, ← AList.lookup_eq_none] at this
        exact this

/-- A close of many flows disarms no other timer, and arms none. -/
theorem Clocked.lookup_closeAll (h : pm.Clocked) (cookies : List String) (a : Agent)
    (ht : (PinentryManager.closeAll W cookies pm a).1.activeTimers.lookup t = some c) :
    pm.activeTimers.lookup t = some c := by
  induction cookies generalizing pm a with
  | nil => exact ht
  | cons cookie rest ih => exact (h.lookup_forgetFlow.1 (ih (h.forgetFlow cookie) _ ht)).1

theorem Clocked.perform (h : pm.Clocked) (i : Operation × Agent) :
    (pm.perform W i.2 i.1).Clocked := by
  obtain ⟨op, a⟩ := i
  cases op with
  | request msg socket peerPid => exact h.handleRequest W a msg socket peerPid
  | response cookie response => exact h.handleResponse cookie response
  | result msg peerPid => exact h.handleResult W a msg peerPid
  | cancel cookie =>
    change (pm.handleCancel W a cookie).2.1.Clocked
    rcases handleCancel_cases W pm a cookie with ⟨-, hsame, -⟩ | ⟨-, hclose⟩
    · rwa [hsame]
    · rw [hclose]
      exact h.forgetFlow cookie
  | cleanup socket => exact Clocked.closeAll W _ pm _ h
  | timeout timer => exact h.onTimeout W a timer

/-- **An operation that is not taken for the flow it names** changes
nothing. -/
theorem perform_of_not_takes {i : Operation × Agent} (hn : Names W c i) (hi : ¬ Takes W c pm i) :
    pm.perform W i.2 i.1 = pm := by
  obtain ⟨op, a⟩ := i
  cases op with
  | request msg socket peerPid =>
    obtain rfl : (readRequest W a msg socket peerPid).cookie = c := hn
    rcases handleRequest_cases W pm a msg socket peerPid with ⟨-, hsame⟩ | ⟨htaken, -⟩
    · exact hsame
    · exact absurd htaken hi
  | response cookie response => exact hn.elim
  | result msg peerPid =>
    have hcase := handleResult_cases W pm a msg peerPid
    have hnot : (pm.handleResult W a msg peerPid).1 ≠ okReply := fun hok => hi ⟨hn, hok⟩
    unfold perform
    dsimp only
    generalize pm.handleResult W a msg peerPid = result at hcase hnot ⊢
    cases hcase with
    | refused message hr => rfl
    | closed => exact absurd rfl hnot
    | retried => exact absurd rfl hnot
  | cancel cookie =>
    rcases handleCancel_cases W pm a cookie with ⟨-, hsame, -⟩ | ⟨htaken, -⟩
    · exact hsame
    · exact absurd ⟨hn, htaken⟩ hi
  | cleanup socket => exact hn.elim
  | timeout timer => exact hn.elim

/-- An answer arms the next timer for its flow, where that waits for its
user, and no other. -/
theorem Clocked.armed_handleResponse (h : pm.Clocked) (response : String)
    (ht : (pm.handleResponse cookie response).2.activeTimers.lookup t = some c) :
    pm.activeTimers.lookup t = some c ∨
      cookie = c ∧ pm.pendingRequests.contains c = true ∧ pm.nextTimer = t := by
  unfold PinentryManager.handleResponse at ht
  split at ht
  next =>
    refine .inl ?_
    split at ht <;> exact ht
  next request hreq =>
    simp only [Table.lookup_insert, cleanupAwaiting_nextTimer] at ht
    split at ht
    next htimer =>
      refine .inr ⟨Option.some.inj ht, ?_, htimer.symm⟩
      rw [← Option.some.inj ht, Table.contains_eq_true]
      exact Table.mem_iff_exists.2 ⟨request, hreq⟩
    next => exact .inl ((h.setPending _).lookup_cleanupAwaiting.1 ht).1

/-- A timeout leaves no timer armed for the flow it closes. -/
theorem Clocked.armed_onTimeout (h : pm.Clocked) (timer : ℕ)
    (ht : (pm.onTimeout W a timer).1.activeTimers.lookup t = some c) :
    pm.activeTimers.lookup t = some c ∧ pm.activeTimers.lookup timer ≠ some c := by
  have hclocked := h.onTimeout W a timer
  unfold PinentryManager.onTimeout at ht hclocked
  cases hfired : pm.activeTimers.lookup timer with
  | none =>
    rw [hfired] at ht
    exact ⟨ht, by simp⟩
  | some cookie =>
    rw [hfired] at ht hclocked
    -- the flow of the timer that fired awaits no result any more
    have hne : c ≠ cookie := by
      rintro rfl
      exact hclocked.awaiting_of_armed ht (by simp [closeFlow])
    have hold : (pm.activeTimers.erase timer).lookup t = some c := by
      have ht := (forgetFlow_activeTimers _ cookie).symm ▸ ht
      exact lookup_of_cleanupAwaiting ht
    rw [Table.lookup_erase] at hold
    split at hold
    · cases hold
    · exact ⟨hold, fun hc => hne (Option.some.inj hc).symm⟩

/-- **One operation**: a timer that is armed after it was armed before it
and the operation is not taken for its flow, or it is the answer that
armed it. -/
theorem armed_perform (h : pm.Clocked) (hap : pm.Apart) (i : Operation × Agent)
    (ht : (pm.perform W i.2 i.1).activeTimers.lookup t = some c) :
    (pm.activeTimers.lookup t = some c ∧ ¬ Takes W c pm i) ∨ Arms t c pm i := by
  obtain ⟨op, a⟩ := i
  cases op with
  | request msg socket peerPid =>
    rcases handleRequest_cases W pm a msg socket peerPid with ⟨hnot, hsame⟩ | ⟨-, hacc⟩
    · have ht : (pm.handleRequest W a msg socket peerPid).1.activeTimers.lookup t = some c := ht
      rw [hsame] at ht
      refine .inl ⟨ht, fun htaken => hnot ?_⟩
      obtain rfl := htaken.1
      exact htaken
    · have ht : (pm.handleRequest W a msg socket peerPid).1.activeTimers.lookup t = some c := ht
      rw [hacc.activeTimers, h.lookup_cleanupAwaiting] at ht
      exact .inl ⟨ht.1, fun htaken => ht.2 htaken.1.symm⟩
  | response cookie response =>
    rcases h.armed_handleResponse response ht with harmed | harms
    · exact .inl ⟨harmed, not_false⟩
    · exact .inr harms
  | result msg peerPid =>
    have hcase := handleResult_cases W pm a msg peerPid
    have ht : (pm.handleResult W a msg peerPid).2.1.activeTimers.lookup t = some c := ht
    have htakes : Takes W c pm (.result msg peerPid, a) ↔
        Daemon.messageId msg = c ∧ (pm.handleResult W a msg peerPid).1 = okReply := Iff.rfl
    rw [htakes]
    generalize pm.handleResult W a msg peerPid = result at hcase ht ⊢
    cases hcase with
    | refused message hr =>
      refine .inl ⟨ht, fun htaken => ?_⟩
      have htype := congrArg (fun o : QJsonObject => o.value "type") htaken.2
      exact absurd htype (by simp [okReply, errorReply, QJsonObject.value])
    | closed =>
      have ht := h.lookup_forgetFlow.1 ht
      exact .inl ⟨ht.1, fun htaken => ht.2 htaken.1.symm⟩
    | retried =>
      have ht := h.lookup_cleanupAwaiting.1 ht
      exact .inl ⟨ht.1, fun htaken => ht.2 htaken.1.symm⟩
  | cancel cookie =>
    have ht : (pm.handleCancel W a cookie).2.1.activeTimers.lookup t = some c := ht
    rcases handleCancel_cases W pm a cookie with ⟨hreply, hsame, -⟩ | ⟨-, hclose⟩
    · rw [hsame] at ht
      exact .inl ⟨ht, fun htaken => htaken.2 hreply⟩
    · rw [hclose, h.lookup_forgetFlow] at ht
      exact .inl ⟨ht.1, fun htaken => ht.2 htaken.1.symm⟩
  | cleanup socket =>
    have ht := h.lookup_closeAll W _ _ ht
    refine .inl ⟨ht, ?_⟩
    -- the flow awaits its result, so it has no request that waits for its user
    rintro ⟨request, hpending, -⟩
    rcases hap c with hnone | hnone
    · rw [hnone] at hpending
      cases hpending
    · exact h.awaiting_of_armed ht hnone
  | timeout timer => exact .inl (h.armed_onTimeout W timer ht)

theorem Apart.forgetFlow (h : pm.Apart) (cookie : String) : (pm.forgetFlow cookie).Apart := by
  intro c
  simp only [forgetFlow_pendingRequests, lookup_forgetFlow, Table.lookup_erase]
  split
  next => exact .inl rfl
  next => exact h c

theorem Apart.closeAll : ∀ (cookies : List String) (pm : PinentryManager) (a : Agent),
    pm.Apart → (closeAll W cookies pm a).1.Apart
  | [], _, _, h => h
  | cookie :: rest, _, _, h => Apart.closeAll rest _ _ (h.forgetFlow cookie)

theorem Apart.perform (h : pm.Apart) (i : Operation × Agent) : (pm.perform W i.2 i.1).Apart := by
  obtain ⟨op, a⟩ := i
  cases op with
  | request msg socket peerPid =>
    change (pm.handleRequest W a msg socket peerPid).1.Apart
    rcases handleRequest_cases W pm a msg socket peerPid with ⟨-, hsame⟩ | ⟨-, hacc⟩
    · rwa [hsame]
    · intro c
      rw [hacc.pendingRequests, hacc.awaitingOutcome, Table.lookup_insert, lookup_cleanupAwaiting]
      split
      next => exact .inr rfl
      next => exact h c
  | response cookie response =>
    change (pm.handleResponse cookie response).2.Apart
    unfold PinentryManager.handleResponse
    split
    next => split <;> exact h
    next =>
      intro c
      simp only [cleanupAwaiting_pendingRequests, Table.lookup_erase, Table.lookup_insert,
        lookup_cleanupAwaiting]
      split
      next => exact .inl rfl
      next => exact h c
  | result msg peerPid =>
    have hcase := handleResult_cases W pm a msg peerPid
    change (pm.handleResult W a msg peerPid).2.1.Apart
    generalize pm.handleResult W a msg peerPid = result at hcase ⊢
    cases hcase with
    | refused message hr => exact h
    | closed => exact h.forgetFlow _
    | retried =>
      intro c
      simp only [cleanupAwaiting_pendingRequests, lookup_cleanupAwaiting]
      split
      next => exact .inr rfl
      next => exact h c
  | cancel cookie =>
    change (pm.handleCancel W a cookie).2.1.Apart
    rcases handleCancel_cases W pm a cookie with ⟨-, hsame, -⟩ | ⟨-, hclose⟩
    · rwa [hsame]
    · rw [hclose]
      exact h.forgetFlow cookie
  | cleanup socket => exact Apart.closeAll W _ pm _ h
  | timeout timer =>
    change (pm.onTimeout W a timer).1.Apart
    unfold PinentryManager.onTimeout
    split
    next => exact h
    next cookie _ =>
      have herased : Apart { pm with activeTimers := pm.activeTimers.erase timer } := h
      exact herased.forgetFlow cookie

/-! ## Every run -/

/-- **The timers of a run.** After any operations, each with any agent: an
armed timer belongs to one flow that awaits its result and each such flow
has it; no flow waits for its user as well; the flow that a timeout closes
was given the answer that armed the timer, and since that answer no
request, result, cancel or close was taken for it; and what is not taken
changes nothing. -/
theorem timers_of_run (ins : List (Operation × Agent)) :
    (∀ t c, ((machine W).run ins).activeTimers.lookup t = some c ↔
      ∃ awaiting, ((machine W).run ins).awaitingOutcome.lookup c = some awaiting ∧
        awaiting.timer = t) ∧
    (∀ c, ((machine W).run ins).pendingRequests.lookup c = none ∨
      ((machine W).run ins).awaitingOutcome.lookup c = none) ∧
    (∀ t c a, Takes W c ((machine W).run ins) (.timeout t, a) →
      (machine W).Since (Arms t c) (Takes W c) ins) ∧
    ∀ c i, Names W c i → ¬ Takes W c ((machine W).run ins) i →
      (machine W).step ((machine W).run ins) i = (machine W).run ins := by
  have hinv : ((machine W).run ins).Clocked ∧ ((machine W).run ins).Apart ∧
      ∀ t c, ((machine W).run ins).activeTimers.lookup t = some c →
        (machine W).Since (Arms t c) (Takes W c) ins := by
    induction ins using List.reverseRecOn with
    | nil =>
      refine ⟨?_, fun _ => .inl rfl, fun t c ht => ?_⟩
      · constructor <;> simp [machine]
      · cases ht
    | append_singleton ins i ih =>
      obtain ⟨hclocked, hapart, hsince⟩ := ih
      rw [Machine.run_snoc]
      refine ⟨hclocked.perform W i, hapart.perform W i, fun t c ht => Machine.since_snoc.2 ?_⟩
      rcases armed_perform W hclocked hapart i ht with ⟨harmed, hnot⟩ | harms
      · exact .inr ⟨hsince t c harmed, hnot⟩
      · exact .inl harms
  obtain ⟨hclocked, hapart, hsince⟩ := hinv
  refine ⟨fun t c => ⟨hclocked.used t c, ?_⟩, hapart, fun t c _ ht => hsince t c ht,
    fun c i hn hi => perform_of_not_takes W hn hi⟩
  rintro ⟨awaiting, haw, rfl⟩
  exact hclocked.armed c awaiting haw

end PinentryManager

namespace Daemon

open PinentryManager (Operation)

variable (W : World) {d : Daemon}

/-- Some agent has a pinentry session of this id open. -/
theorem exists_isPinentrySession (W : World) (c : String) :
    ∃ a, PinentryManager.isPinentrySession a c = true := by
  refine ⟨(Agent.createSession W {} c .pinentry {}).2, ?_⟩
  rw [PinentryManager.isPinentrySession_iff, Agent.life_createSession, if_pos rfl]
  rfl

/-- **A step of the daemon** is an operation of its pinentry manager, or
none. -/
theorem pinentryManager_step (d : Daemon) (i : Input) :
    (d.step W i).pinentryManager = d.pinentryManager ∨
      ∃ op : Operation × Agent,
        (d.step W i).pinentryManager = d.pinentryManager.perform W op.2 op.1 := by
  cases turn_step W d i with
  | same h' => exact .inl h'.pinentryManager
  | connected socket peerPid hi hn h' => exact .inl (by rw [h']; rfl)
  | closing socket client hi hc h' => exact .inl (by rw [h']; rfl)
  | keyringRequest socket msg hm h' => exact .inl (by rw [h']; rfl)
  | keyringAnswer socket msg hm r hr h' => exact .inl h'.pinentryManager
  | keyringCancel socket msg hm r hr h' => exact .inl h'.pinentryManager
  | pinentryRequest socket msg hm h' =>
    exact .inr ⟨(.request msg socket _, d.agent), by rw [h']; rfl⟩
  | pinentryAnswer socket msg hm ha hk r hr h' =>
    exact .inr ⟨(.response _ _, d.agent), h'.pinentryManager⟩
  | pinentryResult socket msg hm h' => exact .inr ⟨(.result msg _, d.agent), h'.pinentryManager⟩
  | pinentryCancel socket msg hm h' =>
    obtain ⟨a, ha⟩ := exists_isPinentrySession W (messageId msg)
    refine .inr ⟨(.cancel (messageId msg), a), h'.pinentryManager.trans ?_⟩
    have hreq : d.pinentryManager.hasRequest a (messageId msg) = true := by
      simp [PinentryManager.hasRequest, ha]
    have hclose := congrArg (fun r => r.2.1)
      (PinentryManager.handleCancel_of_hasRequest (W := W) hreq)
    exact hclose.symm
  | pinentryTimeout timer hi h' => exact .inr ⟨(.timeout timer, d.agent), by rw [h']; rfl⟩
  | disconnected socket hi h' => exact .inr ⟨(.cleanup socket, _), h'.pinentryManager⟩
  | listener call hn hs h' => exact .inl h'.pinentryManager

/-- **The manager of a daemon's run** is the manager of a run of
operations. -/
theorem exists_operations (ins : List Input) :
    ∃ ops, ((machine W).run ins).pinentryManager = (PinentryManager.machine W).run ops := by
  induction ins using List.reverseRecOn with
  | nil => exact ⟨[], rfl⟩
  | append_singleton ins i ih =>
    obtain ⟨ops, hops⟩ := ih
    rw [Machine.run_snoc]
    rcases pinentryManager_step W ((machine W).run ins) i with hsame | ⟨op, hstep⟩
    · exact ⟨ops, hsame.trans hops⟩
    · refine ⟨ops ++ [op], hstep.trans ?_⟩
      rw [Machine.run_snoc, hops]
      rfl

end Daemon

end BbAuth
