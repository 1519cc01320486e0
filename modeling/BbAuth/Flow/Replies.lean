import BbAuth.Flow.Outcome
import BbAuth.Flow.Recipient
import BbAuth.Flow.Speech
import BbAuth.Flow.Timers
/-!
# What a pinentry is replied

A pinentry waits on its socket for the reply to its request. The daemon
keeps the request in `m_pendingRequests` under its cookie, and three things
take it out without a word: a newer request under the same cookie, a result
reported by the flow's owner, and the test of the owner, which keeps it
from being entered at all. Along a run in which none of the three happens
to a request, it is pending until it is replied to, and replied to once.

The replies to a request are counted from it to the next one its socket
makes under the same cookie.
-/

namespace BbAuth

open Agent

/-- A pinentry response for `cookie` to `socket`. -/
def Output.isResponse (socket : Socket) (cookie : String) : Output → Bool
  | .sent s j => s = socket && (j.value "type").toString = "pinentry_response" &&
      (j.value "id").toString = cookie
  | _ => false

/-- An error to `socket`. -/
def Output.isError (socket : Socket) : Output → Bool
  | .sent s j => s = socket && (j.value "type").toString = "error"
  | _ => false

/-- **A reply to a pinentry request**: a response, or an error where the
request has just been made. -/
def Output.isReply (socket : Socket) (cookie : String) (asked : Bool) (o : Output) : Bool :=
  o.isResponse socket cookie || (asked && o.isError socket)

namespace Daemon

variable (W : World) (socket : Socket) (cookie : String) (d : Daemon) (i : Input)

/-- The pinentry request that `socket` makes for `cookie`. -/
def asks : Option PinentryRequest :=
  match d.message? i with
  | some (.pinentryRequest, s, msg) =>
    let request := d.pinentryRequestOf W s msg
    if s = socket ∧ request.cookie = cookie then some request else none
  | _ => none

/-- The replies to it in one step. -/
def replies : ℕ :=
  ((d.step W i).agent.log.drop d.agent.log.length).countP
    (Output.isReply socket cookie (d.asks W socket cookie i).isSome)

/-- Does `socket` ask again? -/
def asksAgain : Daemon → List Input → Bool
  | _, [] => false
  | d, i :: rest => (d.asks W socket cookie i).isSome || asksAgain (d.step W i) rest

/-- The replies until it does. -/
def repliesUntil : Daemon → List Input → ℕ
  | _, [] => 0
  | d, i :: rest =>
    if (d.asks W socket cookie i).isSome then 0
    else d.replies W socket cookie i + repliesUntil (d.step W i) rest

/-- **The requests of `socket` for `cookie` are answered once**: at every
later point while the socket stays connected, a request is pending and
nothing has been replied to it, or exactly one reply has. -/
def AnsweredOnce (ins : List Input) : Prop :=
  ∀ pre i post request, ins = pre ++ i :: post →
    ((machine W).run pre).asks W socket cookie i = some request →
    (∀ mid, mid <+: post →
      ((machine W).run (pre ++ i :: mid)).agent.isConnected socket = true) →
    let asked := (machine W).run (pre ++ [i])
    let n := ((machine W).run pre).replies W socket cookie i +
      repliesUntil W socket cookie asked post
    (((machine W).run ins).pinentryManager.pendingRequests.lookup cookie = some request ∧
      asksAgain W socket cookie asked post = false ∧ n = 0) ∨ n = 1

/-- A request of `socket` is pending for `cookie`. -/
def BoundTo (d : Daemon) : Prop :=
  ∃ request, d.pinentryManager.pendingRequests.lookup cookie = some request ∧
    request.socket = socket

/-- **The request of `socket` for `cookie` is abandoned**: it comes from
another than the flow's owner; or it is pending, and the owner asks again
or reports a result. -/
def Abandons : Prop :=
  d.agent.isConnected socket = true ∧
    match d.message? i with
    | some (.pinentryRequest, s, msg) =>
      (d.pinentryRequestOf W s msg).cookie = cookie ∧
        if ∀ owner ∈ d.pinentryManager.flowOwners.lookup cookie, owner = d.agent.getPeerPid s then
          BoundTo socket cookie d
        else s = socket
    | some (.pinentryResult, s, msg) =>
      messageId msg = cookie ∧ BoundTo socket cookie d ∧
        (∀ owner ∈ d.pinentryManager.flowOwners.lookup cookie, owner = d.agent.getPeerPid s) ∧
        PinentryManager.isPinentrySession d.agent cookie = true ∧
        reportedResult msg ∈ PinentryManager.knownResults ∧ reportedResult msg ≠ "retry"
    | _ => False

instance : Decidable (BoundTo socket cookie d) :=
  decidable_of_iff ((d.pinentryManager.pendingRequests.lookup cookie).map PinentryRequest.socket =
    some socket) Option.map_eq_some_iff

instance : Decidable (Abandons W socket cookie d i) := by
  unfold Abandons
  rcases d.message? i with _ | ⟨type, s, msg⟩
  · infer_instance
  · cases type <;> infer_instance

/-! ## Messages that are no replies -/

/-- Its type is not that of a reply. -/
def NoReply (j : QJsonObject) : Prop :=
  (j.value "type").toString ∉ ["pinentry_response", "error"]

/-- **The policy that no reply passes**: the events are none, and the rest
is as `out` says. -/
def unanswered (out : Output → Bool) (hout : ∀ s j, NoReply j → out (.sent s j) = false)
    (hnone : ∀ o, (∀ s j, o ≠ .sent s j) → out o = false) : Policy where
  queue q := ∀ e ∈ q.eventQueue, NoReply e
  event := NoReply
  output o := out o = false
  emitted e _ := hnone _ fun _ _ => nofun
  sent e s h _ := hout s e h
  drained q e hq h := by
    have hall : ∀ e' ∈ (q.enqueue e).eventQueue, NoReply e' := fun e' he' =>
      (EventQueue.mem_enqueue he').elim (hq e') fun heq => heq ▸ h
    obtain ⟨hsent, hleft⟩ := EventQueue.mem_drainToWaiters (q.enqueue e)
    exact ⟨fun e' he' => hall e' (hleft e' he'), fun x hx => hout _ _ (hall _ (hsent x hx))⟩
  status s a _ := by
    refine hout s _ ?_
    have ht : (a.providerStatus.value "type").toString = "ui.active" := by
      unfold Agent.providerStatus
      split <;> simp
    simp [NoReply, ht]
  fallback _ _ _ := hnone _ fun _ _ => nofun

variable {W socket cookie d i}

theorem open_unanswered {out : Output → Bool}
    (hout : ∀ s j, NoReply j → out (.sent s j) = false)
    (hnone : ∀ o, (∀ s j, o ≠ .sent s j) → out o = false) : (unanswered out hout hnone).Open where
  updated s := by simp [unanswered, NoReply]
  closed s := by simp [unanswered, NoReply]

theorem unanswered_of_isPolkit {out : Output → Bool}
    (hnone : ∀ o, (∀ s j, o ≠ .sent s j) → out o = false) (o : Output) (h : o.isPolkit = true) :
    out o = false :=
  hnone o fun s j he => by
    rw [he] at h
    cases h

theorem noReply_created (s : Session) : NoReply s.toCreatedEvent := by simp [NoReply]

theorem kept_unanswered {a : Agent} {out : Output → Bool}
    {hout : ∀ s j, NoReply j → out (.sent s j) = false}
    {hnone : ∀ o, (∀ s j, o ≠ .sent s j) → out o = false}
    (h : ∀ e ∈ a.eventQueue.eventQueue, NoReply e) : Kept (unanswered out hout hnone) a :=
  ⟨fun _ _ => trivial, fun _ _ => trivial, fun _ _ => trivial, h⟩

/-- No event that is queued is a reply. -/
theorem noReply_edit {t : Socket → Prop} {q q' : EventQueue} (he : QueueEdit t q q')
    (h : ∀ e ∈ q.eventQueue, NoReply e) : ∀ e ∈ q'.eventQueue, NoReply e := by
  cases he with
  | same => exact h
  | left s => exact h
  | waits s hs hq => exact h
  | taken e rest hq => exact fun e' he' => h e' (by rw [hq]; exact List.mem_cons_of_mem _ he')

/-- **No event that a run queues is a reply.** -/
theorem noReply_run (W : World) (ins : List Input) :
    ∀ e ∈ ((machine W).run ins).agent.eventQueue.eventQueue, NoReply e := by
  refine Machine.invariant
    (I := fun d : Daemon => ∀ e ∈ d.agent.eventQueue.eventQueue, NoReply e) ?_
    (fun d i h => ?_) ins
  · intro e he
    cases he
  · have ho : Obeys (unanswered (fun _ => false) (fun _ _ _ => rfl) fun _ _ => rfl) d.agent
        (d.step W i).agent :=
      obeys_step W (open_unanswered _ _) noReply_created (fun _ _ => trivial)
        (fun _ _ => noReply_edit) (fun _ _ => rfl) fun _ _ _ => rfl
    exact (ho (kept_unanswered h)).1.queue

theorem isReply_of_noReply {asked : Bool} (s : Socket) (j : QJsonObject) (h : NoReply j) :
    Output.isReply socket cookie asked (.sent s j) = false := by
  simp only [NoReply, List.mem_cons, List.not_mem_nil, or_false, not_or] at h
  simp [Output.isReply, Output.isResponse, Output.isError, h.1, h.2]

theorem isReply_of_not_sent {asked : Bool} (o : Output) (h : ∀ s j, o ≠ .sent s j) :
    Output.isReply socket cookie asked o = false := by
  cases o with
  | sent s j => exact absurd rfl (h s j)
  | _ => simp [Output.isReply, Output.isResponse, Output.isError]

/-- A message of another type than a response is a reply only as an
error. -/
theorem isReply_of_type {s : Socket} {j : QJsonObject}
    (h : (j.value "type").toString ≠ "pinentry_response") :
    Output.isReply socket cookie false (.sent s j) = false := by
  simp [Output.isReply, Output.isResponse, h]

variable (socket cookie) in
/-- The policy that nothing is replied to `socket` for `cookie`. -/
abbrev silence (asked : Bool) : Policy :=
  unanswered (Output.isReply socket cookie asked) isReply_of_noReply isReply_of_not_sent

/-- What obeys it replies nothing. -/
theorem Obeys.countP_eq_zero {a b : Agent} {asked : Bool} (h : Obeys (silence socket cookie asked) a b)
    (hq : ∀ e ∈ a.eventQueue.eventQueue, NoReply e) :
    (b.log.drop a.log.length).countP (Output.isReply socket cookie asked) = 0 := by
  refine List.countP_eq_zero.2 fun o ho => ?_
  rw [Bool.not_eq_true]
  exact Obeys.of_mem_drop h (kept_unanswered hq) ho

/-! ## What is replied in one step -/

/-- What asks is a message of `socket`. -/
theorem asks_eq_some {request : PinentryRequest} (h : d.asks W socket cookie i = some request) :
    ∃ msg, d.message? i = some (.pinentryRequest, socket, msg) ∧
      d.pinentryRequestOf W socket msg = request ∧ request.cookie = cookie ∧
      request.socket = socket := by
  unfold asks at h
  split at h
  next s msg hm =>
    dsimp only at h
    split at h
    next hc =>
      obtain ⟨rfl, hcookie⟩ := hc
      obtain rfl := Option.some.inj h
      exact ⟨msg, hm, rfl, hcookie, by simp [pinentryRequestOf]⟩
    · cases h
  · cases h

/-- **A request is not replied to by the step that takes it.** -/
theorem replies_of_asks (hq : ∀ e ∈ d.agent.eventQueue.eventQueue, NoReply e)
    (h : (d.asks W socket cookie i).isSome) : d.replies W socket cookie i = 0 := by
  obtain ⟨request, hr⟩ := Option.isSome_iff_exists.1 h
  obtain ⟨msg, hm, -⟩ := asks_eq_some hr
  have ho : Obeys (silence socket cookie true) d.agent (d.step W i).agent := by
    rw [step_of_message hm]
    exact Calls.obeys (PinentryManager.calls_handleRequest W d.agent d.pinentryManager msg socket _)
      (open_unanswered _ _) (fun s hs => absurd hs (Set.notMem_empty s)) noReply_created
  rw [replies, h]
  exact Obeys.countP_eq_zero ho hq

/-- **The request of `socket` for `cookie` is decided.** -/
def Decided (socket : Socket) (cookie : String) (d : Daemon) (i : Input) : Prop :=
  ∃ u msg, d.Decides i u msg ∧ messageId msg = cookie ∧
    d.keyringManager.pendingRequests.lookup cookie = none ∧ BoundTo socket cookie d

/-- **Nothing is replied but by a decision.** -/
theorem replies_of_not_decided (hq : ∀ e ∈ d.agent.eventQueue.eventQueue, NoReply e)
    (hn : ¬ Decided socket cookie d i) : d.replies W socket cookie i = 0 := by
  by_cases ha : (d.asks W socket cookie i).isSome
  · exact replies_of_asks hq ha
  rw [Bool.not_eq_true] at ha
  have ho : Obeys (silence socket cookie false) d.agent (d.step W i).agent := by
    refine obeys_step W (open_unanswered _ _) noReply_created (fun _ _ => trivial)
      (fun _ _ => noReply_edit) (unanswered_of_isPolkit isReply_of_not_sent) fun s j hj => ?_
    cases hj with
    | plain hs hp =>
        refine isReply_of_type fun ht => ?_
        rw [Plain, ht] at hp
        simp at hp
    | replayed hm hsess hj =>
        refine isReply_of_type ?_
        rcases hj with rfl | rfl <;> simp
    | next hm hqe => exact isReply_of_noReply _ _ (hq _ (by rw [hqe]; exact List.mem_cons_self))
    | keyring hd hr ht => exact isReply_of_type (by simp [ht])
    | pinentry hd hk hr ht hid =>
        show Output.isReply socket cookie false _ = false
        rw [Bool.eq_false_iff]
        intro hreply
        simp only [Output.isReply, Output.isResponse, ht, hid,
          QJsonValue.toString_string, decide_true, Bool.and_true, Bool.false_and, Bool.or_false,
          Bool.and_eq_true, decide_eq_true_eq] at hreply
        obtain ⟨hs, hc⟩ := hreply
        subst hc
        exact hn ⟨_, _, hd, rfl, hk, _, hr, hs⟩
  rw [replies, ha]
  exact Obeys.countP_eq_zero ho hq

/-- **What a decision does**: the request is taken out, its socket is sent
the response, and the provider an `ok`. -/
theorem step_of_decides {u : Socket} {msg : QJsonObject} {request : PinentryRequest}
    (hd : d.Decides i u msg)
    (hk : d.keyringManager.pendingRequests.lookup (messageId msg) = none)
    (hp : d.pinentryManager.pendingRequests.lookup (messageId msg) = some request) :
    ∃ (pm : PinentryManager) (a : Agent) (j : QJsonObject), Calls W ∅ d.agent a ∧
      pm.pendingRequests.lookup (messageId msg) = none ∧
      j.value "type" = .string "pinentry_response" ∧ j.value "id" = .string (messageId msg) ∧
      d.step W i = ((d.withPinentry (pm, a)).sendJson request.socket j).sendJson u ok := by
  obtain ⟨hm | hm, ha⟩ := hd
  · obtain ⟨ht, hid⟩ := PinentryManager.handleResponse_of_pending hp (messageResponse msg)
    refine ⟨(d.pinentryManager.handleResponse (messageId msg) (messageResponse msg)).2, d.agent,
      _, .refl, ?_, ht, hid, ?_⟩
    · simp [PinentryManager.handleResponse, hp]
    · rw [step_of_message hm]
      simp only [dispatch, handleRespond, respond_of_pinentry ha hk hp]
  · have hcalls := PinentryManager.calls_closeFlow W d.agent d.pinentryManager (messageId msg)
      .cancelled ""
    refine ⟨d.pinentryManager.forgetFlow (messageId msg), _,
      PinentryManager.cancelledReply (messageId msg), hcalls, ?_, rfl, ?_, ?_⟩
    · simp
    · simp [PinentryManager.cancelledReply]
    · rw [step_of_message hm]
      simp only [dispatch, handleCancel, cancel_of_pinentry ha hk hp]
      rfl

/-- **A decision replies once**, to a socket that is connected. -/
theorem replies_of_decided (hq : ∀ e ∈ d.agent.eventQueue.eventQueue, NoReply e)
    (hd : Decided socket cookie d i) (hc : d.agent.isConnected socket = true) :
    d.replies W socket cookie i = 1 ∧
      (d.step W i).pinentryManager.pendingRequests.lookup cookie = none := by
  obtain ⟨u, msg, hdec, rfl, hk, request, hp, rfl⟩ := hd
  have hasks : d.asks W request.socket (messageId msg) i = none := by
    rcases hdec.1 with hm | hm <;> simp [asks, hm]
  obtain ⟨pm, a, j, hcalls, hpm, ht, hid, hstep⟩ := step_of_decides (W := W) hdec hk hp
  have ho : Obeys (silence request.socket (messageId msg) false) d.agent a :=
    Calls.obeys hcalls (open_unanswered _ _) (fun s hs => absurd hs (Set.notMem_empty s))
      noReply_created
  obtain ⟨-, os, hlog, hos⟩ := ho (kept_unanswered hq)
  have hconn : a.isConnected request.socket = true := by
    rw [isConnected_of_clients (Calls.clients W hcalls), hc]
  have hnone : os.countP (Output.isReply request.socket (messageId msg) false) = 0 := by
    refine List.countP_eq_zero.2 fun o hmem => ?_
    rw [Bool.not_eq_true]
    exact hos o hmem
  have hreply : Output.isReply request.socket (messageId msg) false (.sent request.socket j) =
      true := by simp [Output.isReply, Output.isResponse, ht, hid]
  have hok : ∀ s, Output.isReply request.socket (messageId msg) false (.sent s ok) = false :=
    fun s => isReply_of_type (by decide)
  refine ⟨?_, by rw [hstep]; exact hpm⟩
  have hfinal : (d.step W i).agent.log = d.agent.log ++ (os ++ [.sent request.socket j] ++
      if (a.sendJson request.socket j).isConnected u then [.sent u ok] else []) := by
    rw [hstep]
    simp only [sendJson, withAgent, withPinentry]
    rw [sendJson_log, sendJson_log, hconn, hlog]
    simp
  rw [replies, hasks, hfinal, List.drop_left, List.countP_append, List.countP_append]
  simp only [Option.isSome_none, List.countP_singleton, hnone, hreply, if_true]
  split <;> simp [hok]

/-! ## What becomes of a pending request -/

variable (W d i) in
/-- **What a step makes of the pending request of `c`.** -/
inductive Fate (c : String) : Option PinentryRequest → Prop
  | stays : Fate c (d.flow c).pending
  | asked (s : Socket) (msg : QJsonObject) (hm : d.message? i = some (.pinentryRequest, s, msg))
      (hc : (d.pinentryRequestOf W s msg).cookie = c)
      (ho : ∀ owner, (d.flow c).owner = some owner → owner = d.agent.getPeerPid s) :
      Fate c (some (d.pinentryRequestOf W s msg))
  | decided (u : Socket) (msg : QJsonObject) (hd : d.Decides i u msg) (hc : messageId msg = c)
      (hk : (d.flow c).keyring = none) : Fate c none
  | reported (s : Socket) (msg : QJsonObject) (hm : d.message? i = some (.pinentryResult, s, msg))
      (hc : messageId msg = c)
      (ho : ∀ owner, (d.flow c).owner = some owner → owner = d.agent.getPeerPid s)
      (hs : PinentryManager.isPinentrySession d.agent c = true)
      (hr : reportedResult msg ∈ PinentryManager.knownResults)
      (hne : reportedResult msg ≠ "retry") : Fate c none
  | left (s : Socket) (hs : (d.flow c).pending.map PinentryRequest.socket = some s)
      (hgone : (d.step W i).agent.isConnected s = false) : Fate c none

theorem fate_of_eq {c : String} {o : Option PinentryRequest} (h : o = (d.flow c).pending) :
    Fate W d i c o := h ▸ .stays

/-- A cancellation decides the pending request it names, if nothing comes
before it. -/
theorem fate_cancel {u : Socket} {msg : QJsonObject} (c : String)
    (hm : d.message? i = some (.sessionCancel, u, msg))
    (h : Same (d.withPinentry (d.pinentryManager.closeFlow W d.agent (messageId msg)
      .cancelled)) (d.step W i)) : Fate W d i c ((d.step W i).flow c).pending := by
  have hflow := h.flow c
  rw [flow_closeFlow] at hflow
  split at hflow
  next hc =>
    subst hc
    cases hp : (d.flow (messageId msg)).pending with
    | none =>
        refine fate_of_eq ?_
        rw [hflow, hp]
        rfl
    | some request =>
        by_cases ha : d.agent.isAuthorizedProviderSocket u = true
        · cases hk : (d.flow (messageId msg)).keyring with
          | none =>
              rw [hflow]
              exact .decided u msg ⟨.inr hm, ha⟩ rfl hk
          | some r =>
              refine fate_of_eq ?_
              rw [step_of_message hm]
              simp only [dispatch, handleCancel, cancel_of_keyring ha hk]
              rfl
        · refine fate_of_eq ?_
          rw [Bool.not_eq_true] at ha
          have hrefused : d.cancel W u msg = (error "Not active UI provider", d) := by
            simp [cancel, ha]
          rw [step_of_message hm]
          simp only [dispatch, handleCancel, hrefused]
          rfl
  · refine fate_of_eq ?_
    rw [hflow]
    rfl

/-- A result: it reports what became of the request, or leaves it. -/
theorem fate_result (c : String) {socket : Socket} {msg : QJsonObject}
    (hm : d.message? i = some (.pinentryResult, socket, msg)) :
    Fate W d i c ((d.withPinentry (d.pinentryManager.handleResult W d.agent msg
      (d.agent.getPeerPid socket)).2).flow c).pending := by
  by_cases hr : reportedResult msg ∈ PinentryManager.knownResults
  · have hcase := PinentryManager.handleResult_cases W d.pinentryManager d.agent msg
      (d.agent.getPeerPid socket)
    generalize PinentryManager.handleResult W d.pinentryManager d.agent msg
      (d.agent.getPeerPid socket) = result at hcase
    cases hcase with
    | refused message hwhy => exact .stays
    | closed ho hs r error hsucc hne =>
        rw [flow_closeFlow]
        split
        next hc =>
          subst hc
          exact .reported socket msg hm rfl
            ((PinentryManager.validateResultOwner_iff _ _ _).1 ho) hs hr hne
        · exact .stays
    | retried ho hs hretry => exact fate_of_eq (by simp [Daemon.flow, withPinentry])
  · rw [PinentryManager.handleResult_of_unknown W _ _ _ _ hr]
    exact .stays

/-- A timeout leaves the request: its timer belongs to a flow that awaits
its result. -/
theorem pending_onTimeout (hsane : (d.flow c).Sane c) (hclock : d.pinentryManager.Clocked)
    (timer : ℕ) :
    ((d.withPinentry (d.pinentryManager.onTimeout W d.agent timer)).flow c).pending =
      (d.flow c).pending := by
  simp only [PinentryManager.onTimeout]
  split
  · rfl
  next cookie ht =>
    rw [flow_closeFlow]
    split
    next hc =>
      subst hc
      obtain ⟨awaiting, haw, -⟩ := hclock.used timer c ht
      cases hp : (d.flow c).pending with
      | none => rfl
      | some request =>
          have := (hsane.asked request hp).1.symm.trans haw
          cases this
    · rfl

/-- **The fate of a pending request in one step.** -/
theorem fate_step (hsane : ∀ c, (d.flow c).Sane c)
    (hclock : d.pinentryManager.Clocked) (c : String) :
    Fate W d i c ((d.step W i).flow c).pending := by
  cases turn_step W d i with
  | same h' => exact fate_of_eq (by rw [h'.flow])
  | connected socket peerPid hi hn h' => exact fate_of_eq (by rw [h']; rfl)
  | closing socket client hi hc h' => exact fate_of_eq (by rw [h']; rfl)
  | keyringRequest socket msg hm h' => exact fate_of_eq (by rw [h']; rfl)
  | keyringAnswer socket msg hm r hr h' => exact fate_of_eq (by rw [h'.flow]; rfl)
  | keyringCancel socket msg hm r hr h' => exact fate_of_eq (by rw [h'.flow]; rfl)
  | pinentryRequest socket msg hm h' =>
      rw [h']
      rcases flow_pinentryRequest W d c msg socket with ⟨-, heq⟩ | ⟨⟨hc, ho⟩, heq⟩
      · exact fate_of_eq (congrArg Flow.pending heq)
      · have heq := congrArg Flow.pending heq
        exact heq ▸ .asked socket msg hm hc ho
  | pinentryAnswer socket msg hm ha hk r hr h' =>
      rw [h'.flow, flow_pinentryAnswer d c _ _ hr]
      split
      next hc => exact .decided socket msg ⟨.inl hm, ha⟩ hc.symm (hc ▸ hk)
      · exact .stays
  | pinentryResult socket msg hm h' =>
      rw [h'.flow]
      exact fate_result c hm
  | pinentryCancel socket msg hm h' => exact fate_cancel c hm h'
  | pinentryTimeout timer hi h' =>
      rw [h']
      exact fate_of_eq (pending_onTimeout (hsane c) hclock timer)
  | disconnected socket hi h' =>
      obtain ⟨hk, -⟩ := (d.flow c).keyringLeft_pinentry socket
      have hgone : (d.step W i).agent.isConnected socket = false := by
        have hcl := h'.agent.clients.trans (clients_cleaned W socket)
        simp [isConnected, hcl]
      rw [h'.flow, flow_cleaned]
      unfold Flow.pinentryLeft
      split
      next hs => exact .left socket (hk ▸ hs) hgone
      · exact fate_of_eq hk
  | listener call hn hs h' => exact fate_of_eq (by rw [h'.flow]; rfl)

/-! ## One step -/

/-- **The state a run reaches**, as far as the replies go. -/
structure Answering (d : Daemon) : Prop where
  sane : ∀ c, (d.flow c).Sane c
  clocked : d.pinentryManager.Clocked
  quiet : ∀ e ∈ d.agent.eventQueue.eventQueue, NoReply e

theorem answering_run (W : World) (ins : List Input) : Answering ((machine W).run ins) :=
  ⟨sane_run W ins, clocked_run W ins, noReply_run W ins⟩

/-- What the flow's owner asks for is pending after it. -/
theorem pending_of_owner {s : Socket} {msg : QJsonObject}
    (hm : d.message? i = some (.pinentryRequest, s, msg))
    (hcookie : (d.pinentryRequestOf W s msg).cookie = cookie)
    (ho : ∀ owner ∈ d.pinentryManager.flowOwners.lookup cookie, owner = d.agent.getPeerPid s) :
    (d.step W i).pinentryManager.pendingRequests.lookup cookie =
      some (d.pinentryRequestOf W s msg) := by
  rw [step_of_message hm]
  rcases flow_pinentryRequest W d cookie msg s with ⟨hrej, -⟩ | ⟨-, heq⟩
  · exact absurd ⟨hcookie, ho⟩ hrej
  · exact congrArg Flow.pending heq

/-- **A request that is not abandoned is entered**, and waits. -/
theorem pending_of_asks (h : Answering d) {request : PinentryRequest}
    (ha : d.asks W socket cookie i = some request) (hc : d.agent.isConnected socket = true)
    (hn : ¬ Abandons W socket cookie d i) :
    d.replies W socket cookie i = 0 ∧
      (d.step W i).pinentryManager.pendingRequests.lookup cookie = some request := by
  obtain ⟨msg, hm, rfl, hcookie, -⟩ := asks_eq_some ha
  refine ⟨replies_of_asks h.quiet (by rw [ha]; rfl), ?_⟩
  have howner : ∀ owner ∈ d.pinentryManager.flowOwners.lookup cookie,
      owner = d.agent.getPeerPid socket := by
    by_contra hne
    refine hn ⟨hc, ?_⟩
    simp only [hm]
    exact ⟨hcookie, by rw [if_neg hne]; trivial⟩
  exact pending_of_owner hm hcookie howner

/-- **A pending request waits on, or is replied to once and taken out.** -/
theorem replies_of_boundTo (h : Answering d) (hb : BoundTo socket cookie d)
    (hc : d.agent.isConnected socket = true)
    (hc' : (d.step W i).agent.isConnected socket = true)
    (hn : ¬ Abandons W socket cookie d i) :
    (d.replies W socket cookie i = 0 ∧
      (d.step W i).pinentryManager.pendingRequests.lookup cookie =
        d.pinentryManager.pendingRequests.lookup cookie) ∨
      d.replies W socket cookie i = 1 ∧ ¬ BoundTo socket cookie (d.step W i) := by
  by_cases hd : Decided socket cookie d i
  · obtain ⟨hone, hnone⟩ := replies_of_decided (W := W) h.quiet hd hc
    refine .inr ⟨hone, ?_⟩
    rintro ⟨request, hr, -⟩
    rw [hnone] at hr
    cases hr
  refine .inl ⟨replies_of_not_decided h.quiet hd, ?_⟩
  obtain ⟨request, hr, hs⟩ := hb
  have hfate := fate_step (W := W) (i := i) h.sane h.clocked cookie
  have hpend : ∀ d' : Daemon,
      (d'.flow cookie).pending = d'.pinentryManager.pendingRequests.lookup cookie := fun _ => rfl
  rw [← hpend, ← hpend]
  generalize ((d.step W i).flow cookie).pending = o at hfate ⊢
  cases hfate with
  | stays => rfl
  | asked s msg hm hcookie ho =>
      have howner : ∀ owner ∈ d.pinentryManager.flowOwners.lookup cookie,
          owner = d.agent.getPeerPid s := ho
      refine absurd ⟨hc, ?_⟩ hn
      simp only [hm]
      exact ⟨hcookie, by rw [if_pos howner]; exact ⟨request, hr, hs⟩⟩
  | decided u msg hdec hcookie hk =>
      exact absurd ⟨u, msg, hdec, hcookie, hk, request, hr, hs⟩ hd
  | reported s msg hm hcookie ho hsess hres hne =>
      refine absurd ⟨hc, ?_⟩ hn
      simp only [hm]
      exact ⟨hcookie, ⟨request, hr, hs⟩, ho, hsess, hres, hne⟩
  | left s hs' hgone =>
      rw [hpend, hr, Option.map_some, hs, Option.some_inj] at hs'
      rw [hs', hgone] at hc'
      cases hc'

/-- **Where nothing is pending, nothing is replied** until the next
request. -/
theorem replies_of_not_boundTo (h : Answering d) (hb : ¬ BoundTo socket cookie d)
    (ha : d.asks W socket cookie i = none) :
    d.replies W socket cookie i = 0 ∧ ¬ BoundTo socket cookie (d.step W i) := by
  refine ⟨replies_of_not_decided h.quiet fun hd => hb ?_, ?_⟩
  · obtain ⟨u, msg, -, -, -, hbound⟩ := hd
    exact hbound
  rintro ⟨request, hr, hs⟩
  have hfate := fate_step (W := W) (i := i) h.sane h.clocked cookie
  have hr' : ((d.step W i).flow cookie).pending = some request := hr
  rw [hr'] at hfate
  generalize ho : some request = o at hfate
  cases hfate with
  | stays => exact hb ⟨request, ho.symm, hs⟩
  | asked s msg hm hcookie howner =>
      obtain rfl : d.pinentryRequestOf W s msg = request := (Option.some.inj ho).symm
      have hsock : s = socket := by simpa [pinentryRequestOf] using hs
      subst hsock
      simp [asks, hm, hcookie] at ha
  | decided u msg hdec hcookie hk => cases ho
  | reported s msg hm hcookie howner hsess hres hne => cases ho
  | left s hs' hgone => cases ho

/-! ## Runs -/

theorem asksAgain_snoc : ∀ (d : Daemon) (post : List Input) (j : Input),
    asksAgain W socket cookie d (post ++ [j]) = (asksAgain W socket cookie d post ||
      ((post.foldl (step W) d).asks W socket cookie j).isSome)
  | _, [], _ => by simp [asksAgain]
  | d, i :: post, j => by
      simp only [List.cons_append, asksAgain, List.foldl_cons, asksAgain_snoc (d.step W i) post j,
        Bool.or_assoc]

/-- **One more step counts** until the socket asks again. -/
theorem repliesUntil_snoc : ∀ (d : Daemon) (post : List Input) (j : Input),
    repliesUntil W socket cookie d (post ++ [j]) = repliesUntil W socket cookie d post +
      if asksAgain W socket cookie d (post ++ [j]) then 0
      else (post.foldl (step W) d).replies W socket cookie j
  | d, [], j => by
      by_cases h : (d.asks W socket cookie j).isSome <;> simp [repliesUntil, asksAgain, h]
  | d, i :: post, j => by
      by_cases h : (d.asks W socket cookie i).isSome
      · simp [repliesUntil, asksAgain, h]
      · simp only [Bool.not_eq_true] at h
        simp only [List.cons_append, repliesUntil, asksAgain, h, Bool.false_eq_true, if_false,
          Bool.false_or, List.foldl_cons, repliesUntil_snoc (d.step W i) post j]
        omega

theorem run_append (W : World) (pre post : List Input) (i : Input) :
    post.foldl (step W) ((machine W).run (pre ++ [i])) = (machine W).run (pre ++ i :: post) := by
  simp [Machine.run, machine]

theorem run_cons_snoc (W : World) (pre post : List Input) (i j : Input) :
    (machine W).run (pre ++ i :: (post ++ [j])) =
      ((machine W).run (pre ++ i :: post)).step W j := by
  rw [← List.cons_append, ← List.append_assoc]
  exact Machine.run_snoc ..

/-- A message of these two types leaves the clients alone. -/
theorem clients_of_message {s : Socket} {msg : QJsonObject}
    (hm : d.message? i = some (.pinentryRequest, s, msg) ∨
      d.message? i = some (.pinentryResult, s, msg)) :
    (d.step W i).agent.clients = d.agent.clients := by
  rcases hm with hm | hm
  · rw [step_of_message hm]
    exact (PinentryManager.calls_handleRequest W d.agent d.pinentryManager msg s _).clients
  · rw [step_of_message hm]
    exact (sendJson_clients _ _ _).trans
      (PinentryManager.calls_handleResult W d.agent d.pinentryManager msg _).clients

/-- To ask while a request is pending is to abandon it. -/
theorem abandons_of_asks (hb : BoundTo socket cookie d) (hc : d.agent.isConnected socket = true)
    (ha : (d.asks W socket cookie i).isSome) : Abandons W socket cookie d i := by
  obtain ⟨request, hr⟩ := Option.isSome_iff_exists.1 ha
  obtain ⟨msg, hm, rfl, hcookie, -⟩ := asks_eq_some hr
  refine ⟨hc, ?_⟩
  simp only [hm]
  refine ⟨hcookie, ?_⟩
  split
  · exact hb
  · trivial

/-- **The history of one request** in a run that abandons none: it is
pending and has no reply, or it is not and has one. -/
theorem answered_from {pre : List Input} {request : PinentryRequest}
    (ha : ((machine W).run pre).asks W socket cookie i = some request) (post : List Input)
    (hm : (machine W).Meets (fun d i => ¬ Abandons W socket cookie d i) (pre ++ i :: post))
    (hconn : ∀ mid, mid <+: post →
      ((machine W).run (pre ++ i :: mid)).agent.isConnected socket = true) :
    let asked := (machine W).run (pre ++ [i])
    let n := ((machine W).run pre).replies W socket cookie i +
      repliesUntil W socket cookie asked post
    let d := (machine W).run (pre ++ i :: post)
    (asksAgain W socket cookie asked post = true ∧ n = 1) ∨
      asksAgain W socket cookie asked post = false ∧
        ((d.pinentryManager.pendingRequests.lookup cookie = some request ∧ n = 0) ∨
          ¬ BoundTo socket cookie d ∧ n = 1) := by
  induction post using List.reverseRecOn with
  | nil =>
      obtain ⟨msg, hmsg, -⟩ := asks_eq_some ha
      have hc := hconn [] List.prefix_rfl
      rw [Machine.run_snoc] at hc
      have hc' : ((machine W).run pre).agent.isConnected socket = true := by
        rw [← isConnected_of_clients (clients_of_message (.inl hmsg)) socket]
        exact hc
      obtain ⟨hzero, hpend⟩ := pending_of_asks (answering_run W pre) ha hc' (Machine.meets_snoc.1 hm).2
      refine .inr ⟨rfl, .inl ⟨?_, by simp [repliesUntil, hzero]⟩⟩
      rw [Machine.run_snoc]
      exact hpend
  | append_singleton post j ih =>
      have hsplit : pre ++ i :: (post ++ [j]) = (pre ++ i :: post) ++ [j] := by simp
      rw [hsplit] at hm
      obtain ⟨hm, hj⟩ := Machine.meets_snoc.1 hm
      have hc := hconn post (List.prefix_append _ _)
      have hc' := hconn (post ++ [j]) List.prefix_rfl
      specialize ih hm fun mid hmid => hconn mid (hmid.trans (List.prefix_append _ _))
      have hans := answering_run W (pre ++ i :: post)
      rw [run_cons_snoc] at hc'
      dsimp only at ih ⊢
      rw [run_cons_snoc, repliesUntil_snoc, asksAgain_snoc, run_append]
      generalize (machine W).run (pre ++ i :: post) = d at ih hj hc hc' hans ⊢
      generalize (machine W).run (pre ++ [i]) = asked at ih ⊢
      rcases ih with ⟨hagain, hn⟩ | ⟨hagain, hn⟩
      · exact .inl ⟨by simp [hagain], by simpa [hagain] using hn⟩
      cases hask : d.asks W socket cookie j with
      | some r =>
          -- the next request comes: the last one has its reply
          refine .inl ⟨by simp, ?_⟩
          rcases hn with ⟨hp, -⟩ | ⟨-, hn⟩
          · obtain ⟨-, -, -, -, hs⟩ := asks_eq_some ha
            exact absurd (abandons_of_asks ⟨request, hp, hs⟩ hc (by rw [hask]; rfl)) hj
          · simpa using hn
      | none =>
          refine .inr ⟨by simp [hagain], ?_⟩
          simp only [hagain, Option.isSome_none, Bool.or_self, Bool.false_eq_true, if_false]
          rcases hn with ⟨hp, hn⟩ | ⟨hb, hn⟩
          · obtain ⟨-, -, -, -, hs⟩ := asks_eq_some ha
            rcases replies_of_boundTo hans ⟨request, hp, hs⟩ hc hc' hj with
              ⟨hzero, hsame⟩ | ⟨hone, hb⟩
            · exact .inl ⟨hsame.trans hp, by omega⟩
            · exact .inr ⟨hb, by omega⟩
          · obtain ⟨hzero, hb'⟩ := replies_of_not_boundTo hans hb hask
            exact .inr ⟨hb', by omega⟩

variable (W socket cookie) in
/-- **The request `request`, made with the input `i` after `pre`, waits**:
its socket has stayed connected, has not asked again, and has no reply. -/
structure WaitsSince (ins pre : List Input) (i : Input) (post : List Input)
    (request : PinentryRequest) : Prop where
  split : ins = pre ++ i :: post
  asked : ((machine W).run pre).asks W socket cookie i = some request
  connected : ∀ mid, mid <+: post →
    ((machine W).run (pre ++ i :: mid)).agent.isConnected socket = true
  last : asksAgain W socket cookie ((machine W).run (pre ++ [i])) post = false
  silent : ((machine W).run pre).replies W socket cookie i +
    repliesUntil W socket cookie ((machine W).run (pre ++ [i])) post = 0

/-- **What is pending has been waiting** since its socket asked for it. -/
theorem waitsSince_of_boundTo {ins : List Input}
    (hm : (machine W).Meets (fun d i => ¬ Abandons W socket cookie d i) ins)
    (hb : BoundTo socket cookie ((machine W).run ins))
    (hc : ((machine W).run ins).agent.isConnected socket = true) :
    ∃ pre i post request, WaitsSince W socket cookie ins pre i post request := by
  induction ins using List.reverseRecOn with
  | nil =>
      obtain ⟨request, hr, -⟩ := hb
      cases hr
  | append_singleton ins j ih =>
      obtain ⟨hm, hj⟩ := Machine.meets_snoc.1 hm
      have hans := answering_run W ins
      have hrun : (machine W).run (ins ++ [j]) = ((machine W).run ins).step W j :=
        Machine.run_snoc ..
      rw [hrun] at hb hc
      cases hask : ((machine W).run ins).asks W socket cookie j with
      | some request =>
          refine ⟨ins, j, [], request, rfl, hask, fun mid hmid => ?_, rfl, ?_⟩
          · rw [List.prefix_nil.1 hmid, hrun]
            exact hc
          · exact replies_of_asks hans.quiet (by rw [hask]; rfl)
      | none =>
          have hb' : BoundTo socket cookie ((machine W).run ins) := by
            by_contra hn
            exact (replies_of_not_boundTo hans hn hask).2 hb
          have hc' : ((machine W).run ins).agent.isConnected socket = true := by
            obtain ⟨request, hr, hs⟩ := hb'
            obtain ⟨client, hcl, -⟩ := attended_run W ins cookie request hr
            refine connected_of_step W (Table.mem_iff_exists.2 ⟨client, ?_⟩) hc
            rw [← hs]
            exact hcl
          obtain ⟨pre, i, post, request, rfl, ha, hconn, hlast, hsilent⟩ := ih hm hb' hc'
          have hlast' : asksAgain W socket cookie ((machine W).run (pre ++ [i])) (post ++ [j]) =
              false := by
            rw [asksAgain_snoc, run_append, hlast, hask]
            rfl
          refine ⟨pre, i, post ++ [j], request, by simp, ha, fun mid hmid => ?_, hlast', ?_⟩
          · rcases List.prefix_concat_iff.1 hmid with rfl | hlt
            · rw [run_cons_snoc]
              exact hc
            · exact hconn mid hlt
          · rw [repliesUntil_snoc, hlast', if_neg (by decide), run_append]
            rcases replies_of_boundTo hans hb' hc' hc hj with ⟨hzero, -⟩ | ⟨-, hn⟩
            · rw [hzero]
              exact hsilent
            · exact absurd hb hn

/-- A result that is taken takes the pending request out. -/
theorem pending_of_reported {s : Socket} {msg : QJsonObject}
    (hm : d.message? i = some (.pinentryResult, s, msg))
    (ho : ∀ owner ∈ d.pinentryManager.flowOwners.lookup (messageId msg),
      owner = d.agent.getPeerPid s)
    (hs : PinentryManager.isPinentrySession d.agent (messageId msg) = true)
    (hr : reportedResult msg ∈ PinentryManager.knownResults) (hne : reportedResult msg ≠ "retry")
    (hid : messageId msg ≠ "") :
    (d.step W i).pinentryManager.pendingRequests.lookup (messageId msg) = none := by
  have ho' := (PinentryManager.validateResultOwner_iff d.pinentryManager (messageId msg)
    (d.agent.getPeerPid s)).2 ho
  have hcase := PinentryManager.handleResult_cases W d.pinentryManager d.agent msg
    (d.agent.getPeerPid s)
  rw [step_of_message hm]
  simp only [dispatch, handlePinentryResult, resultReply, sendJson, withAgent]
  generalize PinentryManager.handleResult W d.pinentryManager d.agent msg
    (d.agent.getPeerPid s) = result at hcase
  cases hcase with
  | refused message hwhy =>
      rw [ho', hs] at hwhy
      simp [hid, hr] at hwhy
  | closed _ _ r error _ _ => simp [PinentryManager.closeFlow]
  | retried _ _ hretry => exact absurd hretry hne

/-- Neither a request nor a result decides. -/
theorem not_decided_of_message {t : MessageType} {s : Socket} {msg : QJsonObject}
    (hm : d.message? i = some (t, s, msg)) (hr : t ≠ .sessionRespond) (hc : t ≠ .sessionCancel) :
    ¬ Decided socket cookie d i := by
  rintro ⟨u, msg', ⟨hdec, -⟩, -⟩
  rw [hm] at hdec
  rcases hdec with hdec | hdec
  · exact hr (Prod.mk.inj (Option.some.inj hdec)).1
  · exact hc (Prod.mk.inj (Option.some.inj hdec)).1

/-- **What waits is kept** by a step that decides nothing, if every request
is answered once. -/
theorem kept_of_answeredOnce {ins : List Input} {j : Input}
    (hm : (machine W).Meets (fun d i => ¬ Abandons W socket cookie d i) ins)
    (hall : AnsweredOnce W socket cookie (ins ++ [j]))
    (hb : BoundTo socket cookie ((machine W).run ins))
    (hc : ((machine W).run ins).agent.isConnected socket = true)
    (hc' : (((machine W).run ins).step W j).agent.isConnected socket = true)
    (hd : ¬ Decided socket cookie ((machine W).run ins) j) :
    ((machine W).run ins).asks W socket cookie j = none ∧
      ∃ request, request.socket = socket ∧
        (((machine W).run ins).step W j).pinentryManager.pendingRequests.lookup cookie =
          some request := by
  obtain ⟨pre, i, post, request, rfl, ha, hconn, hlast, hsilent⟩ := waitsSince_of_boundTo hm hb hc
  have hrun : (machine W).run (pre ++ i :: post ++ [j]) =
      ((machine W).run (pre ++ i :: post)).step W j := Machine.run_snoc ..
  have hn := hall pre i (post ++ [j]) request (by simp) ha fun mid hmid => by
    rcases List.prefix_concat_iff.1 hmid with rfl | hlt
    · rwa [run_cons_snoc]
    · exact hconn mid hlt
  have hzero : ((machine W).run (pre ++ i :: post)).replies W socket cookie j = 0 :=
    replies_of_not_decided (answering_run W (pre ++ i :: post)).quiet hd
  dsimp only at hn
  rw [repliesUntil_snoc, run_append, hzero, ite_self, hrun] at hn
  rcases hn with ⟨hp, hagain, -⟩ | hone
  · rw [asksAgain_snoc, run_append, Bool.or_eq_false_iff] at hagain
    obtain ⟨-, -, -, -, hs⟩ := asks_eq_some ha
    exact ⟨by simpa using hagain.2, request, hs, hp⟩
  · omega

/-- What another asks for than the flow's owner is not pending after it. -/
theorem not_pending_of_not_owner (hsane : (d.flow cookie).Sane cookie) {s : Socket}
    {msg : QJsonObject} (hm : d.message? i = some (.pinentryRequest, s, msg))
    (ho : ¬ ∀ owner ∈ d.pinentryManager.flowOwners.lookup cookie, owner = d.agent.getPeerPid s) :
    (d.step W i).pinentryManager.pendingRequests.lookup cookie ≠
      some (d.pinentryRequestOf W s msg) := by
  rw [step_of_message hm]
  intro hp
  rcases flow_pinentryRequest W d cookie msg s with ⟨-, heq⟩ | ⟨hacc, -⟩
  · -- what is pending is its owner's
    have hp' : (d.flow cookie).pending = some (d.pinentryRequestOf W s msg) :=
      (congrArg Flow.pending heq).symm.trans hp
    have hown := (hsane.asked _ hp').2
    refine ho fun owner howner => ?_
    rw [Option.some.inj (howner.symm.trans hown)]
    simp [pinentryRequestOf]
  · exact ho hacc.2

/-- **An abandoned request is not answered**: the step that abandons it
says nothing to its socket, and leaves something else in its place. -/
theorem not_answeredOnce_of_abandons {ins : List Input} {j : Input}
    (hm : (machine W).Meets (fun d i => ¬ Abandons W socket cookie d i) ins)
    (h : Abandons W socket cookie ((machine W).run ins) j) :
    ¬ AnsweredOnce W socket cookie (ins ++ [j]) := by
  intro hall
  have hans := answering_run W ins
  have hrun : (machine W).run (ins ++ [j]) = ((machine W).run ins).step W j := Machine.run_snoc ..
  obtain ⟨hc, h⟩ := h
  have hconn : ∀ s msg, (((machine W).run ins).message? j = some (.pinentryRequest, s, msg) ∨
      ((machine W).run ins).message? j = some (.pinentryResult, s, msg)) →
      (((machine W).run ins).step W j).agent.isConnected socket = true :=
    fun s msg hmsg => (isConnected_of_clients (clients_of_message hmsg) socket).trans hc
  split at h
  next s msg hmsg =>
    obtain ⟨hcookie, h⟩ := h
    have hc' := hconn s msg (.inl hmsg)
    split at h
    next howner =>
      -- the owner's new request stands in the place of the old one
      obtain ⟨ha, request, hs, hp⟩ := kept_of_answeredOnce hm hall h hc hc'
        (not_decided_of_message hmsg (by decide) (by decide))
      rw [pending_of_owner hmsg hcookie howner] at hp
      have hsock : s = socket := by
        rw [← hs, ← Option.some.inj hp]
        simp [pinentryRequestOf]
      subst hsock
      simp [asks, hmsg, hcookie] at ha
    next howner =>
      subst h
      have ha : ((machine W).run ins).asks W s cookie j =
          some (((machine W).run ins).pinentryRequestOf W s msg) := by
        simp [asks, hmsg, hcookie]
      have hn := hall ins j [] _ rfl ha fun mid hmid => by
        rw [List.prefix_nil.1 hmid, hrun]
        exact hc'
      have hzero := replies_of_asks (W := W) hans.quiet (by rw [ha]; rfl)
      dsimp only [repliesUntil] at hn
      rw [hzero, hrun] at hn
      rcases hn with ⟨hp, -, -⟩ | hone
      · exact not_pending_of_not_owner (hans.sane cookie) hmsg howner hp
      · omega
  next s msg hmsg =>
    -- the result takes the request out
    obtain ⟨rfl, hb, howner, hsess, hr, hne⟩ := h
    obtain ⟨-, request, -, hp⟩ := kept_of_answeredOnce hm hall hb hc (hconn s msg (.inr hmsg))
      (not_decided_of_message hmsg (by decide) (by decide))
    have hopen := (PinentryManager.isPinentrySession_iff _ _).1 hsess
    have hid := (hans.sane (messageId msg)).named ((hans.sane (messageId msg)).owned hopen)
    rw [pending_of_reported hmsg howner hsess hr hne hid] at hp
    cases hp
  · exact h

variable (W socket cookie) in
/-- **Every pinentry request is answered once**: along a run the requests
of `socket` for `cookie` are, at every point, exactly when none of them is
abandoned. -/
theorem answeredOnce_iff (ins : List Input) :
    (∀ pre, pre <+: ins → AnsweredOnce W socket cookie pre) ↔
      (machine W).Meets (fun d i => ¬ Abandons W socket cookie d i) ins := by
  constructor
  · intro h
    induction ins using List.reverseRecOn with
    | nil => exact Machine.meets_nil
    | append_singleton ins j ih =>
        have hm := ih fun pre hpre => h pre (hpre.trans (List.prefix_append _ _))
        refine Machine.meets_snoc.2 ⟨hm, fun habandons => ?_⟩
        exact not_answeredOnce_of_abandons hm habandons (h _ List.prefix_rfl)
  · rintro hm _ hpre pre i post request rfl ha hconn
    rcases answered_from ha post (hm.of_prefix hpre) hconn with
      ⟨-, hone⟩ | ⟨hlast, ⟨hp, hzero⟩ | ⟨-, hone⟩⟩
    · exact .inr hone
    · exact .inl ⟨hp, hlast, hzero⟩
    · exact .inr hone

/-- A pinentry reports a result before it has been answered: the request
it made is neither pending any more, nor has it been replied to. -/
theorem not_answeredOnce :
    ¬ ∀ (W : World) (socket : Socket) (cookie : String) (ins : List Input),
      AnsweredOnce W socket cookie ins := by
  intro h
  let W := World.plain (fun _ => 0) false
  let ins : List Input := [.newConnection 1 100, askLine 1 "c"]
  let report : Input :=
    .line 1 (some [("type", "pinentry_result"), ("id", "c"), ("result", "success")])
  have hm : (machine W).Meets (fun d i => ¬ Abandons W 1 "c" d i) ins := by decide
  have hj : Abandons W 1 "c" ((machine W).run ins) report := by decide
  exact not_answeredOnce_of_abandons hm hj (h W 1 "c" (ins ++ [report]))

end Daemon

end BbAuth
