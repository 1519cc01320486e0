import BbAuth.Library.Mailbox
import BbAuth.Flow.Speech
/-!
# The event queue and its waiters

The queue of events, the clients that wait for the next one, and the three
things that happen to them: an event is routed, a client asks for the next
event, a client disconnects. Between these the queue is a mailbox of its
capacity, so what is delivered and what is dropped is read off the
mailbox's two accounts; and what a run of the daemon does to its queue is
a run of these three.
-/

namespace BbAuth

namespace EventQueue

/-- **What happens to the queue.** -/
inductive Operation where
  /-- `EventRouter::route`. -/
  | route (event : QJsonObject)
  /-- `CAgent::handleNext`. -/
  | next (socket : Socket)
  /-- A client is gone. -/
  | disconnect (socket : Socket)

/-- What is delivered through `next`, and what is left. -/
def operate (q : EventQueue) : Operation → List (Socket × QJsonObject) × EventQueue
  | .route event => (q.enqueue event).drainToWaiters
  | .next socket =>
    if q.isEmpty then ([], q.subscribeNext socket)
    else
      let (event, q) := q.takeNext
      ([(socket, event)], q)
  | .disconnect socket => ([], q.removeWaiter socket)

/-- **The queue as a machine**, with its capacity. -/
def machine (maxSize : ℕ) : Machine EventQueue Operation where
  init := { maxSize := maxSize }
  step q op := (q.operate op).2

/-- The events that were routed, each with whether no client waited
then. -/
def routed (maxSize : ℕ) (ins : List Operation) : List (QJsonObject × Bool) :=
  (machine maxSize).observe (fun routed q op =>
    match op with
    | .route event => routed ++ [(event, q.nextWaiters.isEmpty)]
    | _ => routed) [] ins

/-- **What was delivered**, and to whom, in its order. -/
def delivered (maxSize : ℕ) (ins : List Operation) : List (Socket × QJsonObject) :=
  (machine maxSize).observe (fun delivered q op => delivered ++ (q.operate op).1) [] ins

/-- The clients that asked for the next event, in their order. -/
def asked (ins : List Operation) : List Socket :=
  ins.filterMap fun op => match op with
    | .next socket => some socket
    | _ => none

/-! ## The queue is a mailbox -/

/-- The operation at the mailbox. -/
def Operation.toOp : Operation → Mailbox.Op QJsonObject Socket
  | .route event => .put event
  | .next socket => .take socket
  | .disconnect socket => .leave socket

variable {q : EventQueue} {maxSize : ℕ} {ins : List Operation}

/-- **The queue holds what the mailbox holds.** -/
structure Holds (q : EventQueue) (m : Mailbox QJsonObject Socket maxSize) : Prop where
  maxSize : q.maxSize = maxSize
  eventQueue : q.eventQueue = m.items
  nextWaiters : q.nextWaiters = m.takers

theorem drain_nil_right (waiters : List Socket) : drain waiters [] = ([], waiters, []) := by
  cases waiters <;> rfl

/-- **One operation** does to the queue what it does to the mailbox. -/
theorem Holds.operate (hn : 0 < maxSize) {m : Mailbox QJsonObject Socket maxSize}
    (h : Holds q m) (op : Operation) :
    (q.operate op).1 = m.handed op.toOp ∧ Holds (q.operate op).2 (m.after hn op.toOp) := by
  obtain ⟨items, takers, apart, bounded⟩ := m
  obtain ⟨size, events, waiters⟩ := q
  obtain ⟨rfl, rfl, rfl⟩ := h
  cases op with
  | route event =>
    cases waiters with
    | nil =>
      simp only [EventQueue.operate, enqueue, drainToWaiters, drain]
      exact ⟨rfl, rfl, rfl, rfl⟩
    | cons w waiters =>
      obtain rfl : events = [] := apart.resolve_right (List.cons_ne_nil _ _)
      have hkept : (if size ≤ ([] : List QJsonObject).length then [].tail else []) ++ [event] =
          [event] := by simp
      simp only [EventQueue.operate, enqueue, drainToWaiters, hkept, drain, drain_nil_right]
      exact ⟨rfl, rfl, rfl, rfl⟩
  | next socket =>
    cases events with
    | nil => exact ⟨rfl, rfl, rfl, rfl⟩
    | cons event events =>
      obtain rfl : waiters = [] := apart.resolve_left (List.cons_ne_nil _ _)
      exact ⟨rfl, rfl, rfl, rfl⟩
  | disconnect socket => exact ⟨rfl, rfl, rfl, rfl⟩

/-- **A run of the queue is a run of the mailbox.** -/
theorem holds_run (hn : 0 < maxSize) (ins : List Operation) :
    Holds ((machine maxSize).run ins) ((Mailbox.machine hn).run (ins.map Operation.toOp)) ∧
      delivered maxSize ins = Mailbox.handovers hn (ins.map Operation.toOp) ∧
      routed maxSize ins = Mailbox.puts hn (ins.map Operation.toOp) := by
  induction ins using List.reverseRecOn with
  | nil => exact ⟨⟨rfl, rfl, rfl⟩, rfl, rfl⟩
  | append_singleton ins op ih =>
    obtain ⟨hholds, hdelivered, hrouted⟩ := ih
    obtain ⟨hhanded, hnext⟩ := hholds.operate hn op
    rw [List.map_append, List.map_singleton, Machine.run_snoc, Machine.run_snoc,
      Mailbox.handovers_snoc, Mailbox.puts_snoc, delivered, routed, Machine.observe_snoc,
      Machine.observe_snoc]
    refine ⟨hnext, ?_, ?_⟩
    · exact congrArg₂ _ hdelivered hhanded
    · cases op with
      | route event =>
        exact congrArg₂ (fun puts b => puts ++ [(event, b)]) hrouted (by rw [hholds.nextWaiters])
      | next socket => exact hrouted
      | disconnect socket => exact hrouted

theorem takes_map (ins : List Operation) : Mailbox.takes (ins.map Operation.toOp) = asked ins := by
  unfold Mailbox.takes asked
  rw [List.filterMap_map]
  refine List.filterMap_congr fun op _ => ?_
  cases op <;> rfl

/-- **The queue and its waiters.** In every run of a queue of at least one
place: nothing is queued, or nobody waits, and no more is queued than there
are places. The events that left it left in the order they were routed,
each for one client or for none, and those delivered are the ones for a
client; an event left for none only if as many as there are places had
been routed after it while nobody waited. The clients that asked are
served in the order they asked, but for those that disconnected meanwhile,
and those that wait are the last of them. -/
theorem accounts_of_run (hsize : 0 < maxSize) (ins : List Operation) :
    (((machine maxSize).run ins).eventQueue = [] ∨
      ((machine maxSize).run ins).nextWaiters = []) ∧
    ((machine maxSize).run ins).eventQueue.length ≤ maxSize ∧
    (∃ fates : List (Option Socket × QJsonObject),
      (routed maxSize ins).map Prod.fst =
        fates.map Prod.snd ++ ((machine maxSize).run ins).eventQueue ∧
      delivered maxSize ins = fates.filterMap (fun f => f.1.map fun socket => (socket, f.2)) ∧
      ∀ i event, fates[i]? = some (none, event) → ∀ k, i < k → k ≤ i + maxSize →
        ∃ newer, (routed maxSize ins)[k]? = some (newer, true)) ∧
    ∃ settled waiting : List (Socket × Bool),
      asked ins = (settled ++ waiting).map Prod.fst ∧
      (delivered maxSize ins).map Prod.fst = (settled.filter Prod.snd).map Prod.fst ∧
      ((machine maxSize).run ins).nextWaiters = (waiting.filter Prod.snd).map Prod.fst ∧
      ∀ j socket, (settled ++ waiting)[j]? = some (socket, false) →
        ∃ pre post, ins = pre ++ .disconnect socket :: post ∧ j < (asked pre).length := by
  obtain ⟨hholds, hdelivered, hrouted⟩ := holds_run hsize ins
  obtain ⟨⟨fates, hf⟩, settled, waiting, ht⟩ :=
    Mailbox.exists_accounts hsize (ins.map Operation.toOp)
  rw [← hholds.eventQueue, ← hdelivered, ← hrouted] at hf
  rw [← hholds.nextWaiters, ← hdelivered] at ht
  refine ⟨?_, ?_, ⟨fates, hf.account, hf.handed, hf.dropped⟩, settled, waiting, ?_, ht.served,
    ht.waits, fun j socket hj => ?_⟩
  · rw [hholds.eventQueue, hholds.nextWaiters]
    exact Mailbox.apart _
  · rw [hholds.eventQueue]
    exact Mailbox.bounded _
  · rw [← ht.account, takes_map]
  · obtain ⟨pre, post, hins, hlt⟩ := ht.left j socket hj
    obtain ⟨pre', rest, rfl, rfl, hrest⟩ := List.map_eq_append_iff.1 hins
    obtain ⟨op, post', rfl, hop, -⟩ := List.map_eq_cons_iff.1 hrest
    obtain rfl : op = .disconnect socket := by
      cases op with
      | route event => cases hop
      | next s => cases hop
      | disconnect s => cases hop; rfl
    exact ⟨pre', post', rfl, takes_map pre' ▸ hlt⟩

/-- A client that leaves and three events: the first to ask that is still
there has the first event, and the others are queued. -/
theorem accounts_of_run_two :
    delivered 2 [.next 1, .next 2, .disconnect 1, .route [("type", "a")], .route [("type", "b")],
      .route [("type", "c")]] = [(2, ([("type", "a")] : QJsonObject))] ∧
    ((machine 2).run [.next 1, .next 2, .disconnect 1, .route [("type", "a")],
      .route [("type", "b")], .route [("type", "c")]]).eventQueue.length ≤ 2 :=
  ⟨rfl, (@accounts_of_run 2 (by decide) _).2.1⟩

end EventQueue

/-! ## The daemon's queue -/

namespace Agent

/-- An operation at the agent's queue: what it delivers is sent. -/
def operate (a : Agent) (op : EventQueue.Operation) : Agent :=
  (a.eventQueue.operate op).1.foldl (fun a delivery => a.sendJson delivery.1 delivery.2)
    (a.setQueue (a.eventQueue.operate op).2)

/-- **What is delivered is what is sent**, to those who are connected. -/
theorem operate_log (a : Agent) (op : EventQueue.Operation) :
    (a.operate op).log = a.log ++
      ((a.eventQueue.operate op).1.filter fun d => a.isConnected d.1).map fun d =>
        .sent d.1 d.2 :=
  foldl_sendJson_log _ _

/-- **A routed event** is pushed, and then an operation. -/
theorem route_eq_operate (a : Agent) (event : QJsonObject) :
    a.route event = (a.push event).operate (.route event) := rfl

end Agent

namespace Daemon

/-- **A client that asks for the next event** is an operation. -/
theorem handleNext_eq_operate (d : Daemon) (socket : Socket) :
    d.handleNext socket = d.withAgent (d.agent.operate (.next socket)) := by
  unfold handleNext Agent.operate EventQueue.operate
  dsimp only
  split <;> rfl

/-- **A client that is gone** is an operation, once its other parts are. -/
theorem forgetClient_eq_operate (W : World) (a : Agent) (socket : Socket) :
    ∃ b : Agent, b.eventQueue = a.eventQueue ∧
      forgetClient W a socket = b.operate (.disconnect socket) := by
  simp only [forgetClient]
  split
  · refine ⟨_, ?_, rfl⟩
    rw [Agent.recomputeAndEmit_eventQueue]
    rfl
  · refine ⟨_, ?_, rfl⟩
    rfl

end Daemon

namespace EventQueue

variable {q : EventQueue}

/-- A queue that these operations lead to. -/
def Reached (q : EventQueue) : Prop := ∃ ops, q = (machine 256).run ops

theorem Reached.operate (h : Reached q) (op : Operation) : Reached (q.operate op).2 := by
  obtain ⟨ops, rfl⟩ := h
  exact ⟨ops ++ [op], by rw [Machine.run_snoc]; rfl⟩

theorem Reached.edit {t : Socket → Prop} {q' : EventQueue} (h : Reached q)
    (he : Agent.QueueEdit t q q') : Reached q' := by
  cases he with
  | same => exact h
  | left s => exact h.operate (.disconnect s)
  | waits s hs hq =>
    have hnext := h.operate (.next s)
    simpa [EventQueue.operate, isEmpty, hq] using hnext
  | taken e rest hq =>
    have hnext := h.operate (.next 0)
    simpa [EventQueue.operate, isEmpty, takeNext, hq] using hnext

/-- The policy that the queue is reached by operations. -/
def operated : Policy where
  queue := Reached
  event _ := True
  output _ := True
  emitted _ _ := trivial
  sent _ _ _ _ := trivial
  drained _ e hq _ := ⟨hq.operate (.route e), fun _ _ => trivial⟩
  status _ _ _ := trivial
  fallback _ _ _ := trivial

end EventQueue

namespace Daemon

/-- **The queue of a daemon's run** is the queue of a run of operations. -/
theorem reached_eventQueue (W : World) (ins : List Input) :
    ((machine W).run ins).agent.eventQueue.Reached := by
  have hkept : Agent.Kept EventQueue.operated ((machine W).run ins).agent := by
    refine Machine.invariant (I := fun d : Daemon => Agent.Kept EventQueue.operated d.agent) ?_
      (fun d i h => ?_) ins
    · exact ⟨fun _ _ => trivial, fun _ _ => trivial, fun _ _ => trivial, [], rfl⟩
    · have hobeys : Agent.Obeys EventQueue.operated d.agent (d.step W i).agent :=
        obeys_step W ⟨fun _ => trivial, fun _ => trivial⟩ (fun _ => trivial) (fun _ _ => trivial)
          (fun _ _ he hq => hq.edit he) (fun _ _ => trivial) fun _ _ _ => trivial
      exact (hobeys h).1
  exact hkept.queue

end Daemon

end BbAuth
