import BbAuth.Model.World
/-!
# The event queue

`agent::EventQueue`: a bounded queue of events and the sockets waiting for
the next one.
-/

namespace BbAuth

/-- `agent::EventQueue`. -/
structure EventQueue where
  maxSize : ℕ := 256
  eventQueue : List QJsonObject := []
  nextWaiters : List Socket := []

namespace EventQueue

variable (q : EventQueue)

/-- `EventQueue::isEmpty`. -/
def isEmpty : Bool := q.eventQueue.isEmpty

/-- `EventQueue::takeNext`: the oldest event, or an empty object. -/
def takeNext : QJsonObject × EventQueue :=
  match q.eventQueue with
  | [] => ([], q)
  | event :: rest => (event, { q with eventQueue := rest })

/-- `EventQueue::enqueue`: at capacity the oldest event is dropped. -/
def enqueue (event : QJsonObject) : EventQueue :=
  let queue := if q.maxSize ≤ q.eventQueue.length then q.eventQueue.tail else q.eventQueue
  { q with eventQueue := queue ++ [event] }

/-- `EventQueue::subscribeNext`. -/
def subscribeNext (socket : Socket) : EventQueue :=
  { q with nextWaiters := q.nextWaiters ++ [socket] }

/-- `EventQueue::removeWaiter`. -/
def removeWaiter (socket : Socket) : EventQueue :=
  { q with nextWaiters := q.nextWaiters.filter fun w => w ≠ socket }

/-- The loop of `EventQueue::drainToWaiters`: what is sent to whom, and the
waiters and events left. -/
def drain : List Socket → List QJsonObject →
    List (Socket × QJsonObject) × List Socket × List QJsonObject
  | socket :: waiters, event :: events =>
    let (sent, rest) := drain waiters events
    ((socket, event) :: sent, rest)
  | waiters, events => ([], waiters, events)

/-- `EventQueue::drainToWaiters`. -/
def drainToWaiters : List (Socket × QJsonObject) × EventQueue :=
  let (sent, waiters, events) := drain q.nextWaiters q.eventQueue
  (sent, { q with nextWaiters := waiters, eventQueue := events })

/-! ## What stays queued -/

variable {q}

theorem mem_enqueue {e e' : QJsonObject} (h : e' ∈ (q.enqueue e).eventQueue) :
    e' ∈ q.eventQueue ∨ e' = e := by
  simp only [enqueue, List.mem_append, List.mem_singleton] at h
  refine h.imp_left fun h => ?_
  split at h
  · exact List.mem_of_mem_tail h
  · exact h

theorem mem_drain : ∀ (waiters : List Socket) (events : List QJsonObject),
    (∀ d ∈ (drain waiters events).1, d.2 ∈ events) ∧
      ∀ e ∈ (drain waiters events).2.2, e ∈ events
  | [], events => by simp [drain]
  | _ :: _, [] => by simp [drain]
  | w :: waiters, e :: events => by
      obtain ⟨hs, hr⟩ := mem_drain waiters events
      simp only [drain]
      constructor
      · intro d hd
        rcases List.mem_cons.1 hd with rfl | hd
        · exact List.mem_cons_self
        · exact List.mem_cons_of_mem _ (hs d hd)
      · exact fun e' he' => List.mem_cons_of_mem _ (hr e' he')

/-- What is drained and what is left were queued. -/
theorem mem_drainToWaiters (q : EventQueue) :
    (∀ d ∈ q.drainToWaiters.1, d.2 ∈ q.eventQueue) ∧
      ∀ e ∈ q.drainToWaiters.2.eventQueue, e ∈ q.eventQueue :=
  mem_drain q.nextWaiters q.eventQueue

end EventQueue

end BbAuth
