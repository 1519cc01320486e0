import BbAuth.Flow.Prompts
/-!
# The balance of keyring requests

A prompter asks with a `keyring_request` and waits on its socket for the
reply: a `keyring_response`, or at once the error that its session id is
taken. While the socket stays connected the daemon's books balance: what
was pending and what is asked since is what is replied, what is still
pending, and what is lost (`keyring_balance`). Only one thing loses a
request, another keyring request for its cookie: the roll-back of the one
that collides takes out the entry of the one that was there.
-/

namespace BbAuth

open Agent

/-- A reply to a keyring request of `socket` for `cookie`: a response, or an
error where it has just been made. -/
def Output.isKeyringReply (socket : Socket) (cookie : String) (asked : Bool) : Output → Bool
  | .sent s j => s = socket && (((j.value "type").toString = "keyring_response" &&
      (j.value "id").toString = cookie) || (asked && (j.value "type").toString = "error"))
  | _ => false

namespace Daemon

variable (W : World) (socket : Socket) (cookie : String) (d : Daemon) (i : Input)

/-- Does `socket` make a keyring request for `cookie`? -/
def keyringAsks : Bool := d.requestsKeyring W cookie i && i.client = some socket

/-- Is a keyring request of `socket` pending for `cookie`? -/
def keyringBound : Bool :=
  (d.keyringManager.pendingRequests.lookup cookie).map KeyringRequest.socket = some socket

/-- Does the input take out the request that is pending? -/
def keyringLost : Bool := d.requestsKeyring W cookie i && d.keyringBound socket cookie

/-- The replies of one step. -/
def keyringReplies : ℕ :=
  ((d.step W i).agent.log.drop d.agent.log.length).countP
    (Output.isKeyringReply socket cookie (d.keyringAsks W socket cookie i))

/-! ## What is no reply -/

/-- An event of a session, or the status of a provider. -/
def Pushed (j : QJsonObject) : Prop :=
  (j.value "type").toString ∈ ["session.created", "session.updated", "session.closed", "ui.active"]

variable {W socket cookie d i}

theorem isKeyringReply_of_pushed {asked : Bool} (s : Socket) {j : QJsonObject} (h : Pushed j) :
    Output.isKeyringReply socket cookie asked (.sent s j) = false := by
  have hne : (j.value "type").toString ≠ "keyring_response" ∧
      (j.value "type").toString ≠ "error" := by
    constructor <;>
    · intro ht
      rw [Pushed, ht] at h
      revert h
      decide
  simp [Output.isKeyringReply, hne]

theorem isKeyringReply_of_type {s : Socket} {j : QJsonObject}
    (h : (j.value "type").toString ≠ "keyring_response") :
    Output.isKeyringReply socket cookie false (.sent s j) = false := by
  simp [Output.isKeyringReply, h]

theorem sent_of_isKeyringReply {asked : Bool} (o : Output)
    (h : Output.isKeyringReply socket cookie asked o = true) : ∃ s j, o = .sent s j := by
  cases o with
  | sent s j => exact ⟨s, j, rfl⟩
  | _ => cases h

/-- **The policy that what is pushed passes**, and of the rest what `out`
does not pick out. -/
def pushing (out : Output → Bool) (hout : ∀ s j, Pushed j → out (.sent s j) = false)
    (hsent : ∀ o, out o = true → ∃ s j, o = .sent s j) : Policy where
  queue q := ∀ e ∈ q.eventQueue, Pushed e
  event := Pushed
  output o := out o = false
  emitted _ _ := Bool.eq_false_iff.2 fun h => by
    obtain ⟨s, j, he⟩ := hsent _ h
    cases he
  sent _ s h _ := hout s _ h
  drained q e hq h := by
    have hall : ∀ e' ∈ (q.enqueue e).eventQueue, Pushed e' := fun e' he' =>
      (EventQueue.mem_enqueue he').elim (hq e') fun heq => heq ▸ h
    obtain ⟨hsent, hleft⟩ := EventQueue.mem_drainToWaiters (q.enqueue e)
    exact ⟨fun e' he' => hall e' (hleft e' he'), fun x hx => hout _ _ (hall _ (hsent x hx))⟩
  status s a _ := by
    refine hout s _ ?_
    have ht : (a.providerStatus.value "type").toString = "ui.active" := by
      unfold Agent.providerStatus
      split <;> simp
    simp [Pushed, ht]
  fallback _ _ _ := Bool.eq_false_iff.2 fun h => by
    obtain ⟨s, j, he⟩ := hsent _ h
    cases he

section Pushing

variable {out : Output → Bool} {hout : ∀ s j, Pushed j → out (.sent s j) = false}
variable {hsent : ∀ o, out o = true → ∃ s j, o = .sent s j}

theorem open_pushing : (pushing out hout hsent).Open where
  updated s := by simp [pushing, Pushed]
  closed s := by simp [pushing, Pushed]

theorem pushed_created (s : Session) : Pushed s.toCreatedEvent := by simp [Pushed]

theorem kept_pushing {a : Agent} (h : ∀ e ∈ a.eventQueue.eventQueue, Pushed e) :
    Kept (pushing out hout hsent) a :=
  ⟨fun _ _ => trivial, fun _ _ => trivial, fun _ _ => trivial, h⟩

theorem pushed_edit {t : Socket → Prop} {q q' : EventQueue} (he : QueueEdit t q q')
    (h : ∀ e ∈ q.eventQueue, Pushed e) : ∀ e ∈ q'.eventQueue, Pushed e := by
  cases he with
  | same => exact h
  | left s => exact h
  | waits s hs hq => exact h
  | taken e rest hq => exact fun e' he' => h e' (by rw [hq]; exact List.mem_cons_of_mem _ he')

end Pushing

/-- **What a run queues** are events of sessions. -/
theorem pushed_run (W : World) (ins : List Input) :
    ∀ e ∈ ((machine W).run ins).agent.eventQueue.eventQueue, Pushed e := by
  refine Machine.invariant
    (I := fun d : Daemon => ∀ e ∈ d.agent.eventQueue.eventQueue, Pushed e) ?_
    (fun d i h => ?_) ins
  · intro e he
    cases he
  · have ho : Obeys (pushing (fun _ => false) (fun _ _ _ => rfl) fun _ h => nomatch h) d.agent
        (d.step W i).agent :=
      obeys_step W open_pushing pushed_created (fun _ _ => trivial)
        (fun _ _ => pushed_edit) (fun _ _ => rfl) fun _ _ _ => rfl
    exact (ho (kept_pushing h)).1.queue

variable (socket cookie) in
/-- The policy that nothing is replied to `socket` for `cookie`. -/
abbrev unreplied (asked : Bool) : Policy :=
  pushing (Output.isKeyringReply socket cookie asked) isKeyringReply_of_pushed
    sent_of_isKeyringReply

/-- What obeys it replies nothing. -/
theorem Obeys.keyringReplies {a b : Agent} {asked : Bool}
    (h : Obeys (unreplied socket cookie asked) a b)
    (hq : ∀ e ∈ a.eventQueue.eventQueue, Pushed e) :
    (b.log.drop a.log.length).countP (Output.isKeyringReply socket cookie asked) = 0 := by
  refine List.countP_eq_zero.2 fun o ho => ?_
  rw [Bool.not_eq_true]
  exact Obeys.of_mem_drop h (kept_pushing hq) ho

/-- **A step that decides no keyring request** and makes none for `cookie`
replies nothing. -/
theorem obeys_unreplied (hquiet : ∀ e ∈ d.agent.eventQueue.eventQueue, Pushed e)
    (hn : ∀ u msg, d.Decides i u msg →
      d.keyringManager.pendingRequests.lookup (messageId msg) = none) :
    Obeys (unreplied socket cookie false) d.agent (d.step W i).agent := by
  refine obeys_step W open_pushing pushed_created (fun _ _ => trivial)
    (fun _ _ => pushed_edit) (fun o ho => Bool.eq_false_iff.2 fun hr => ?_) fun s j hj => ?_
  · obtain ⟨s, j, rfl⟩ := sent_of_isKeyringReply o hr
    cases ho
  cases hj with
  | plain hs hp =>
      refine isKeyringReply_of_type fun ht => ?_
      rw [Plain, ht] at hp
      revert hp
      decide
  | replayed hm hsess hj =>
      refine isKeyringReply_of_type ?_
      rcases hj with rfl | rfl <;> simp
  | next hm hqe =>
      exact isKeyringReply_of_pushed _ (hquiet _ (by rw [hqe]; exact List.mem_cons_self))
  | keyring hd hr ht =>
      rw [hn _ _ hd] at hr
      cases hr
  | pinentry hd hk hr ht hid => exact isKeyringReply_of_type (by simp [ht])

/-! ## A request -/

theorem keyringAsks_of_message {s : Socket} {msg : QJsonObject}
    (hm : d.message? i = some (.keyringRequest, s, msg)) :
    d.requestsKeyring W cookie i = decide (KeyringManager.requestCookie W d.agent msg = cookie) ∧
      d.keyringAsks W socket cookie i =
        (decide (KeyringManager.requestCookie W d.agent msg = cookie) && decide (s = socket)) := by
  have hc := client_of_message? hm
  simp [keyringAsks, requestsKeyring, hm, hc]

/-- **What balances one step**: what is asked and what was pending is what
is replied, what is pending and what is lost. -/
def Balances (W : World) (socket : Socket) (cookie : String) (d : Daemon) (i : Input) : Prop :=
  (d.keyringAsks W socket cookie i).toNat + (d.keyringBound socket cookie).toNat =
    d.keyringReplies W socket cookie i + ((d.step W i).keyringBound socket cookie).toNat +
      (d.keyringLost W socket cookie i).toNat

/-- A step that asks and replies nothing, and leaves the pending request
alone. -/
theorem balances_of_bound (ha : d.requestsKeyring W cookie i = false)
    (hr : Obeys (unreplied socket cookie false) d.agent (d.step W i).agent)
    (hq : ∀ e ∈ d.agent.eventQueue.eventQueue, Pushed e)
    (hb : (d.step W i).keyringBound socket cookie = d.keyringBound socket cookie) :
    Balances W socket cookie d i := by
  have hasks : d.keyringAsks W socket cookie i = false := by simp [keyringAsks, ha]
  have hzero : d.keyringReplies W socket cookie i = 0 := by
    rw [keyringReplies, hasks]
    exact Obeys.keyringReplies hr hq
  simp [Balances, hasks, hzero, hb, keyringLost, ha]

/-- The entry of a request for `cookie`, and the replies to it. -/
theorem step_of_request {s : Socket} {msg : QJsonObject}
    (hq : ∀ e ∈ d.agent.eventQueue.eventQueue, Pushed e)
    (hm : d.message? i = some (.keyringRequest, s, msg))
    (hc : KeyringManager.requestCookie W d.agent msg = cookie) :
    if d.agent.getSession cookie = none then
      (d.step W i).keyringBound socket cookie = decide (s = socket) ∧
        d.keyringReplies W socket cookie i = 0
    else (d.step W i).keyringBound socket cookie = false ∧
      d.keyringReplies W socket cookie i = (decide (s = socket)).toNat := by
  have hown : d.keyringAsks W socket cookie i = _ := (keyringAsks_of_message hm).2
  rw [hc, decide_eq_true rfl, Bool.true_and] at hown
  have hflow := flow_keyringRequest W (c := cookie) d msg s (d.agent.getPeerPid s)
  rw [if_pos hc.symm] at hflow
  have hpend : (d.step W i).keyringManager.pendingRequests.lookup cookie =
      ((d.flow cookie).keyringAsked
        (KeyringManager.readRequest cookie msg s (d.agent.getPeerPid s))).keyring := by
    rw [step_of_message hm, ← hflow]
    rfl
  have hsource : (d.flow cookie).life.source = none ↔ d.agent.getSession cookie = none :=
    (Agent.getSession_eq_none d.agent cookie).symm
  split
  next hnone =>
    constructor
    · rw [keyringBound, hpend, Flow.keyringAsked, if_pos (hsource.2 hnone)]
      simp [KeyringManager.readRequest]
    · have ho : Obeys (unreplied socket cookie (decide (s = socket))) d.agent
          (d.step W i).agent := by
        rw [step_of_message hm]
        exact Calls.obeys (KeyringManager.calls_handleRequest_of_none W d.agent d.keyringManager
          (hc ▸ hnone) s _) open_pushing (fun _ hs => absurd hs (Set.notMem_empty _)) pushed_created
      rw [keyringReplies, hown]
      exact Obeys.keyringReplies ho hq
  next hsome =>
    constructor
    · rw [keyringBound, hpend, Flow.keyringAsked, if_neg (fun h => hsome (hsource.1 h))]
      rfl
    · obtain ⟨session, hsess⟩ := Option.ne_none_iff_exists'.1 hsome
      obtain ⟨-, -, hv, -⟩ := message?_cases hm
      have hlog : (d.step W i).agent.log = d.agent.log ++ [.sent s collisionError] := by
        rw [step_of_message hm]
        refine (congrArg Agent.log (KeyringManager.handleRequest_of_some W d.agent
          d.keyringManager (hc ▸ hsess) s (d.agent.getPeerPid s))).trans ?_
        rw [writeJson, if_pos (show d.agent.ticked.isValid s = true from hv)]
        rfl
      rw [keyringReplies, hown, hlog, List.drop_left, List.countP_singleton]
      by_cases hs : s = socket <;> simp [Output.isKeyringReply, hs, collisionError]

/-- **A keyring request balances**: it waits where its id is free, and is
replied to at once where it is not, at the cost of what was pending. -/
theorem balances_of_request (hsane : (d.flow cookie).Sane cookie)
    (hq : ∀ e ∈ d.agent.eventQueue.eventQueue, Pushed e) {s : Socket} {msg : QJsonObject}
    (hm : d.message? i = some (.keyringRequest, s, msg))
    (hc : KeyringManager.requestCookie W d.agent msg = cookie) :
    Balances W socket cookie d i := by
  have hasks : d.requestsKeyring W cookie i = _ :=
    (@keyringAsks_of_message W socket cookie d i s msg hm).1
  have hown : d.keyringAsks W socket cookie i = _ := (keyringAsks_of_message hm).2
  rw [hc, decide_eq_true rfl] at hasks
  rw [hc, decide_eq_true rfl, Bool.true_and] at hown
  have hstep := @step_of_request W socket cookie d i s msg hq hm hc
  rw [Balances, hown, keyringLost, hasks, Bool.true_and]
  split at hstep
  next hnone =>
    have hfree : d.keyringBound socket cookie = false := by
      rw [keyringBound, decide_eq_false_iff_not]
      intro hb
      have hsource := hsane.keyring (by
        obtain ⟨r, hr, -⟩ := Option.map_eq_some_iff.1 hb
        exact Option.isSome_iff_exists.2 ⟨r, hr⟩)
      have hnosource := (Agent.getSession_eq_none d.agent cookie).1 hnone
      rw [show (d.flow cookie).life = d.agent.life cookie from rfl, hnosource] at hsource
      cases hsource
    rw [hstep.1, hstep.2, hfree]
    simp
  next hsome =>
    rw [hstep.1, hstep.2]
    simp

/-! ## A decision -/

/-- **A decision that finds a keyring request** takes it out, sends its
socket the response, and the provider an `ok`. -/
theorem step_of_keyringDecision {u : Socket} {msg : QJsonObject} {request : KeyringRequest}
    (hd : d.Decides i u msg)
    (hk : d.keyringManager.pendingRequests.lookup (messageId msg) = some request) :
    ∃ (a : Agent) (j : QJsonObject), Calls W ∅ d.agent a ∧
      j.value "type" = .string "keyring_response" ∧ j.value "id" = .string (messageId msg) ∧
      d.step W i = ((d.withKeyring (d.keyringManager.drop (messageId msg), a)).sendJson
        request.socket j).sendJson u ok := by
  obtain ⟨hm | hm, ha⟩ := hd
  · refine ⟨_, [("type", "keyring_response"), ("id", .string (messageId msg)), ("result", "ok"),
      ("password", .string (messageResponse msg))],
      .single (.close (messageId msg) .success), rfl, by simp, ?_⟩
    rw [step_of_message hm]
    simp only [dispatch, handleRespond, respond_of_keyring ha hk, KeyringManager.handleResponse, hk]
  · refine ⟨_, [("type", "keyring_response"), ("result", "cancelled"),
      ("id", .string (messageId msg))], .single (.close (messageId msg) .cancelled), rfl,
      by simp, ?_⟩
    rw [step_of_message hm]
    simp only [dispatch, handleCancel, cancel_of_keyring ha hk, KeyringManager.handleCancel, hk]

/-- **A decision balances.** -/
theorem balances_of_decision (hq : ∀ e ∈ d.agent.eventQueue.eventQueue, Pushed e)
    (hconn : d.agent.isConnected socket = true) {u : Socket} {msg : QJsonObject}
    {request : KeyringRequest} (hd : d.Decides i u msg)
    (hk : d.keyringManager.pendingRequests.lookup (messageId msg) = some request) :
    Balances W socket cookie d i := by
  obtain ⟨a, j, hcalls, ht, hid, hstep⟩ := step_of_keyringDecision (W := W) hd hk
  have ha : d.requestsKeyring W cookie i = false := by
    rcases hd.1 with hm | hm <;> simp [requestsKeyring, hm]
  have hasks : d.keyringAsks W socket cookie i = false := by simp [keyringAsks, ha]
  have ho : Obeys (unreplied socket cookie false) d.agent a :=
    Calls.obeys hcalls open_pushing (fun _ hs => absurd hs (Set.notMem_empty _)) pushed_created
  obtain ⟨-, os, hlog, hos⟩ := ho (kept_pushing hq)
  have hnone : os.countP (Output.isKeyringReply socket cookie false) = 0 := by
    refine List.countP_eq_zero.2 fun o hmem => ?_
    rw [Bool.not_eq_true]
    exact hos o hmem
  have hclients : a.clients = d.agent.clients := Calls.clients W hcalls
  have hconn' : a.isConnected socket = true := by rw [isConnected_of_clients hclients, hconn]
  have hok : ∀ s, Output.isKeyringReply socket cookie false (.sent s ok) = false :=
    fun s => isKeyringReply_of_type (by decide)
  have hreply : Output.isKeyringReply socket cookie false (.sent request.socket j) =
      (decide (request.socket = socket) && decide (messageId msg = cookie)) := by
    simp [Output.isKeyringReply, ht, hid]
  have hfinal : (d.step W i).agent.log = d.agent.log ++ (os ++
      ((if a.isConnected request.socket then [.sent request.socket j] else []) ++
      if (a.sendJson request.socket j).isConnected u then [.sent u ok] else [])) := by
    rw [hstep]
    simp only [sendJson, withAgent, withKeyring]
    rw [sendJson_log, sendJson_log, hlog]
    simp only [List.append_assoc]
  have hcount : d.keyringReplies W socket cookie i =
      (decide (request.socket = socket) && decide (messageId msg = cookie)).toNat := by
    rw [keyringReplies, hasks, hfinal, List.drop_left, List.countP_append, List.countP_append,
      hnone]
    have hrest : ∀ b : Bool, (if b then [Output.sent u ok] else []).countP
        (Output.isKeyringReply socket cookie false) = 0 := by
      intro b
      cases b <;> simp [hok]
    rw [hrest, Nat.zero_add, Nat.add_zero]
    by_cases hs : request.socket = socket
    · rw [hs] at hreply ⊢
      rw [hconn', if_pos rfl, List.countP_singleton, hreply]
      by_cases hc : messageId msg = cookie <;> simp [hc]
    · have hzero : Output.isKeyringReply socket cookie false (.sent request.socket j) = false := by
        rw [hreply, decide_eq_false hs, Bool.false_and]
      rw [decide_eq_false hs, Bool.false_and]
      split <;> simp [hzero]
  have hbound : (d.step W i).keyringBound socket cookie =
      (d.keyringBound socket cookie && !decide (messageId msg = cookie)) := by
    rw [hstep]
    by_cases hc : messageId msg = cookie
    · subst hc
      simp [keyringBound, sendJson, withAgent, withKeyring, KeyringManager.drop]
    · have hne : cookie ≠ messageId msg := fun h => hc h.symm
      simp [keyringBound, sendJson, withAgent, withKeyring, KeyringManager.drop, hne, hc]
  rw [Balances, hasks, hcount, hbound, keyringLost, ha]
  by_cases hc : messageId msg = cookie
  · subst hc
    by_cases hs : request.socket = socket <;> simp [keyringBound, hk, hs]
  · simp [hc]

/-! ## Every other input -/

theorem keyringBound_congr {d' : Daemon} (h : d'.keyringManager = d.keyringManager) :
    d'.keyringBound socket cookie = d.keyringBound socket cookie := by
  rw [keyringBound, keyringBound, h]

/-- **An input that neither asks nor decides** leaves the pending request to
its socket, while that is connected. -/
theorem keyringBound_of_other (ha : d.requestsKeyring W cookie i = false)
    (hn : ∀ u msg, d.Decides i u msg →
      d.keyringManager.pendingRequests.lookup (messageId msg) = none)
    (hconn : (d.step W i).agent.isConnected socket = true) :
    (d.step W i).keyringBound socket cookie = d.keyringBound socket cookie := by
  have hdecided : ∀ u msg request,
      (d.message? i = some (.sessionRespond, u, msg) ∨
        d.message? i = some (.sessionCancel, u, msg)) →
      d.keyringManager.pendingRequests.lookup (messageId msg) = some request →
      (d.step W i).keyringBound socket cookie = d.keyringBound socket cookie := by
    intro u msg request hm hr
    cases hauth : d.agent.isAuthorizedProviderSocket u with
    | false => exact keyringBound_congr (keyring_of_refused hm hauth)
    | true =>
        rw [hn u msg ⟨hm, hauth⟩] at hr
        cases hr
  cases turn_step W d i with
  | same h' => exact keyringBound_congr h'.keyringManager
  | connected s peerPid hi hnew h' => exact keyringBound_congr (by rw [h']; rfl)
  | closing s client hi hc h' => exact keyringBound_congr (by rw [h']; rfl)
  | keyringRequest s msg hm h' =>
      have hc : cookie ≠ KeyringManager.requestCookie W d.agent msg := by
        rintro rfl
        simp [requestsKeyring, hm] at ha
      have hflow := flow_keyringRequest W (c := cookie) d msg s (d.agent.getPeerPid s)
      rw [if_neg hc] at hflow
      have hkeyring := congrArg Flow.keyring hflow
      rw [h']
      exact congrArg (fun o => decide (Option.map KeyringRequest.socket o = some socket)) hkeyring
  | keyringAnswer s msg hm request hr h' => exact hdecided s msg request (.inl hm) hr
  | keyringCancel s msg hm request hr h' => exact hdecided s msg request (.inr hm) hr
  | pinentryRequest s msg hm h' => exact keyringBound_congr (by rw [h']; rfl)
  | pinentryAnswer s msg hm hauth hk request hr h' => exact keyringBound_congr h'.keyringManager
  | pinentryResult s msg hm h' => exact keyringBound_congr h'.keyringManager
  | pinentryCancel s msg hm h' => exact keyringBound_congr h'.keyringManager
  | pinentryTimeout timer hi h' => exact keyringBound_congr (by rw [h']; rfl)
  | disconnected s hi h' =>
      have hne : s ≠ socket := by
        rintro rfl
        have hcl := h'.agent.clients.trans (clients_cleaned W s)
        simp [isConnected, hcl] at hconn
      have hflow : ((d.step W i).flow cookie).keyring =
          ((d.flow cookie).keyringLeft s).keyring := by
        rw [h'.flow, flow_cleaned, Flow.pinentryLeft_keyring]
      have hbound : ((d.step W i).flow cookie).keyring.map KeyringRequest.socket = some socket ↔
          (d.flow cookie).keyring.map KeyringRequest.socket = some socket := by
        rw [hflow, Flow.keyringLeft]
        split
        next hs =>
          rw [hs, Option.some_inj]
          exact ⟨fun h => (Option.some_ne_none _ h.symm).elim, fun h => absurd h hne⟩
        · rfl
      exact decide_eq_decide.2 hbound
  | listener call hcall hs h' => exact keyringBound_congr h'.keyringManager

/-- **Every step balances** while the socket is connected. -/
theorem balances_step (hsane : (d.flow cookie).Sane cookie)
    (hq : ∀ e ∈ d.agent.eventQueue.eventQueue, Pushed e)
    (hconn : d.agent.isConnected socket = true)
    (hconn' : (d.step W i).agent.isConnected socket = true) : Balances W socket cookie d i := by
  cases ha : d.requestsKeyring W cookie i with
  | true =>
      unfold requestsKeyring at ha
      split at ha
      next s msg hm => exact balances_of_request hsane hq hm (of_decide_eq_true ha)
      · cases ha
  | false =>
      by_cases hd : ∃ u msg request, d.Decides i u msg ∧
          d.keyringManager.pendingRequests.lookup (messageId msg) = some request
      · obtain ⟨u, msg, request, hdec, hk⟩ := hd
        exact balances_of_decision hq hconn hdec hk
      · have hn : ∀ u msg, d.Decides i u msg →
            d.keyringManager.pendingRequests.lookup (messageId msg) = none := by
          intro u msg hdec
          by_contra hne
          obtain ⟨request, hk⟩ := Option.ne_none_iff_exists'.1 hne
          exact hd ⟨u, msg, request, hdec, hk⟩
        exact balances_of_bound ha (obeys_unreplied hq hn) hq (keyringBound_of_other ha hn hconn')

/-! ## Runs -/

/-- **The balance of keyring requests.** Let a socket stay connected over
some inputs of a run. Then for every cookie, its requests that were pending
before, and those it makes, are as many as the replies it gets, the
requests that are pending after, and those that another request for the
cookie takes out. -/
theorem keyring_balance (W : World) (socket : Socket) (cookie : String) (pre post : List Input)
    (hconn : ∀ mid, mid <+: post →
      ((machine W).run (pre ++ mid)).agent.isConnected socket = true) :
    let before := (machine W).run pre
    let count := fun f : Daemon → Input → ℕ => (machine W).tallyFrom f before post
    (before.keyringBound socket cookie).toNat +
        count (fun d i => (d.keyringAsks W socket cookie i).toNat) =
      count (keyringReplies W socket cookie) +
        (((machine W).run (pre ++ post)).keyringBound socket cookie).toNat +
        count (fun d i => (d.keyringLost W socket cookie i).toNat) := by
  dsimp only
  induction post using List.reverseRecOn with
  | nil => simp [Machine.tallyFrom]
  | append_singleton post i ih =>
      have hc := hconn post (List.prefix_append _ _)
      have hc' := hconn (post ++ [i]) List.prefix_rfl
      rw [← List.append_assoc, Machine.run_snoc] at hc'
      have hstep := balances_step (sane_run W (pre ++ post) cookie) (pushed_run W (pre ++ post))
        hc hc'
      have hsum := ih fun mid hmid => hconn mid (hmid.trans (List.prefix_append _ _))
      have hrun : post.foldl (machine W).step ((machine W).run pre) =
          (machine W).run (pre ++ post) := (Machine.run_append _ pre post).symm
      rw [← List.append_assoc, Machine.run_snoc]
      simp only [Machine.tallyFrom_append, Machine.tallyFrom, hrun, Nat.add_zero]
      rw [Balances] at hstep
      simp only [machine] at hstep hsum ⊢
      omega

/-- A request, and an answer to it: one reply is what balances them. -/
theorem keyring_balance_answered :
    let W := World.plain (fun _ => 0) false
    let before := (machine W).run [.newConnection 1 100]
    let post : List Input :=
      [.line 1 (some [("type", "keyring_request"), ("cookie", "c")]),
        .line 1 (some (respondMessage "c" "secret"))]
    (machine W).tallyFrom (keyringReplies W 1 "c") before post = 1 := by
  intro W before post
  have hconn : ∀ mid ∈ post.inits,
      ((machine W).run ([.newConnection 1 100] ++ mid)).agent.isConnected 1 = true := by decide
  have hbalance := keyring_balance W 1 "c" [.newConnection 1 100] post
    fun mid hmid => hconn mid ((List.mem_inits mid post).2 hmid)
  have hfree : before.keyringBound 1 "c" = false := by decide
  have hleft : ((machine W).run ([.newConnection 1 100] ++ post)).keyringBound 1 "c" = false := by
    decide
  have hasks : (machine W).tallyFrom (fun d i => (d.keyringAsks W 1 "c" i).toNat) before post =
      1 := by decide
  have hlost : (machine W).tallyFrom (fun d i => (d.keyringLost W 1 "c" i).toNat) before post =
      0 := by decide
  dsimp only at hbalance
  rw [hasks, hfree, hleft, hlost] at hbalance
  simpa using hbalance.symm

end Daemon

end BbAuth
