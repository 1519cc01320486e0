import BbAuth.Flow.Managers
import BbAuth.Library.Index
/-!
# The result timers

Every flow that awaits a result has a timer armed for it, and every armed
timer belongs to such a flow. Each operation of the pinentry manager keeps
it so: it disarms the timer together with the entry, or arms a fresh one.
-/

namespace BbAuth

open Agent

namespace PinentryManager

variable (W : World) {pm pm' : PinentryManager} (a : Agent)

/-- **The armed timers and the awaited results are one to one.** -/
structure Clocked (pm : PinentryManager) : Prop where
  armed : ∀ c awaiting, pm.awaitingOutcome.lookup c = some awaiting →
    pm.activeTimers.lookup awaiting.timer = some c
  used : ∀ t c, pm.activeTimers.lookup t = some c →
    ∃ awaiting, pm.awaitingOutcome.lookup c = some awaiting ∧ awaiting.timer = t
  fresh : ∀ t c, pm.activeTimers.lookup t = some c → t < pm.nextTimer

/-- The operations that leave the timers and the awaited results alone. -/
theorem Clocked.congr (h : pm.Clocked) (ha : pm'.awaitingOutcome = pm.awaitingOutcome)
    (ht : pm'.activeTimers = pm.activeTimers) (hn : pm'.nextTimer = pm.nextTimer) :
    pm'.Clocked where
  armed := by
    rw [ha, ht]
    exact h.armed
  used := by
    rw [ha, ht]
    exact h.used
  fresh := by
    rw [ht, hn]
    exact h.fresh

theorem Clocked.setPending (h : pm.Clocked) (t : Table String PinentryRequest) :
    Clocked { pm with pendingRequests := t } := h.congr rfl rfl rfl

/-- **The timers index the awaited results.** -/
theorem Clocked.timers (h : pm.Clocked) :
    Indexes (fun t => pm.activeTimers.lookup t) (fun c => pm.awaitingOutcome.lookup c)
      (fun awaiting => some awaiting.timer) where
  found t c htc := by
    obtain ⟨awaiting, haw, rfl⟩ := h.used t c htc
    exact ⟨awaiting, haw, rfl⟩
  listed c awaiting haw := ⟨awaiting.timer, rfl, h.armed c awaiting haw⟩

theorem Clocked.of_timers
    (h : Indexes (fun t => pm.activeTimers.lookup t) (fun c => pm.awaitingOutcome.lookup c)
      (fun awaiting => some awaiting.timer))
    (hfresh : ∀ t c, pm.activeTimers.lookup t = some c → t < pm.nextTimer) : pm.Clocked where
  armed _ _ haw := h.eq_some haw rfl
  used t c htc := by
    obtain ⟨awaiting, haw, hkey⟩ := h.found t c htc
    exact ⟨awaiting, haw, Option.some.inj hkey⟩
  fresh := hfresh

/-- **A timer is disarmed with its entry.** -/
theorem Clocked.disarm (h : pm.Clocked) {c : String} {t : ℕ}
    (ht : pm.activeTimers.lookup t = some c)
    (ha : ∀ c', pm'.awaitingOutcome.lookup c' =
      if c' = c then none else pm.awaitingOutcome.lookup c')
    (hb : ∀ t', pm'.activeTimers.lookup t' = if t' = t then none else pm.activeTimers.lookup t')
    (hn : pm'.nextTimer = pm.nextTimer) : pm'.Clocked := by
  obtain ⟨awaiting, haw, rfl⟩ := h.used t c ht
  refine .of_timers (h.timers.erase haw rfl hb ha) fun t' c' htc => ?_
  rw [hb] at htc
  rw [hn]
  split at htc
  · cases htc
  · exact h.fresh t' c' htc

theorem Clocked.cleanupAwaiting (h : pm.Clocked) (cookie : String) :
    (pm.cleanupAwaiting cookie).Clocked := by
  cases haw : pm.awaitingOutcome.lookup cookie with
  | none =>
      have : pm.cleanupAwaiting cookie = pm := by simp [PinentryManager.cleanupAwaiting, haw]
      rwa [this]
  | some awaiting =>
      refine h.disarm (h.armed cookie awaiting haw) (fun c' => lookup_cleanupAwaiting pm c' cookie)
        (fun t' => ?_) (cleanupAwaiting_nextTimer pm cookie)
      simp [PinentryManager.cleanupAwaiting, haw]

theorem Clocked.forgetFlow (h : pm.Clocked) (cookie : String) : (pm.forgetFlow cookie).Clocked :=
  ((h.setPending (pm.pendingRequests.erase cookie)).cleanupAwaiting cookie).congr rfl rfl rfl

theorem Clocked.acceptRequest (h : pm.Clocked) (request : PinentryRequest) :
    (pm.acceptRequest W a request).1.Clocked := by
  obtain ⟨hacc, -⟩ := accepts_acceptRequest W pm a request
  refine (h.cleanupAwaiting request.cookie).congr hacc.awaitingOutcome hacc.activeTimers ?_
  rw [hacc.nextTimer, cleanupAwaiting_nextTimer]

theorem Clocked.handleRequest (h : pm.Clocked) (msg : QJsonObject) (socket : Socket)
    (peerPid : Pid) : (pm.handleRequest W a msg socket peerPid).1.Clocked := by
  simp only [PinentryManager.handleRequest]
  split
  · exact h
  · exact h.acceptRequest W _ _

/-- **A fresh timer is armed for a flow that has none.** -/
theorem Clocked.arm (h : pm.Clocked) {cookie : String}
    (hn : pm.awaitingOutcome.lookup cookie = none) (request : PinentryRequest) :
    Clocked { pm with
      nextTimer := pm.nextTimer + 1
      awaitingOutcome :=
        pm.awaitingOutcome.insert cookie { request := request, timer := pm.nextTimer }
      activeTimers := pm.activeTimers.insert pm.nextTimer cookie } := by
  have hnew := Table.lookup_eq_none_of_lt h.fresh
  refine .of_timers (h.timers.insert hn hnew rfl (fun _ => Table.lookup_insert)
    fun _ => Table.lookup_insert) fun t c htc => ?_
  simp only [Table.lookup_insert] at htc
  split at htc
  next ht =>
    rw [ht]
    exact Nat.lt_succ_self _
  next => exact Nat.lt_succ_of_lt (h.fresh t c htc)

theorem Clocked.handleResponse (h : pm.Clocked) (cookie response : String) :
    (pm.handleResponse cookie response).2.Clocked := by
  unfold PinentryManager.handleResponse
  split
  · split <;> exact h
  · refine ((h.setPending (pm.pendingRequests.erase cookie)).cleanupAwaiting cookie).arm ?_ _
    simp

theorem Clocked.handleResult (h : pm.Clocked) (msg : QJsonObject) (peerPid : Pid) :
    (pm.handleResult W a msg peerPid).2.1.Clocked := by
  have hcase := handleResult_cases W pm a msg peerPid
  generalize PinentryManager.handleResult W pm a msg peerPid = result at hcase ⊢
  cases hcase with
  | refused message hr => exact h
  | closed ho hs r error hr hne => exact h.forgetFlow _
  | retried ho hs hr => exact (h.cleanupAwaiting (Daemon.messageId msg)).congr rfl rfl rfl

/-- **A timer that fires is disarmed**, and its flow forgotten. -/
theorem Clocked.onTimeout (h : pm.Clocked) (timer : ℕ) : (pm.onTimeout W a timer).1.Clocked := by
  unfold PinentryManager.onTimeout
  split
  · exact h
  next cookie ht =>
    obtain ⟨awaiting, haw, rfl⟩ := h.used timer cookie ht
    have haw' : ({ pm with
        activeTimers := pm.activeTimers.erase awaiting.timer
        pendingRequests := pm.pendingRequests.erase cookie } : PinentryManager).awaitingOutcome.lookup
          cookie = some awaiting := haw
    refine h.disarm ht (fun c' => lookup_forgetFlow _ c' cookie) (fun t' => ?_) ?_
    · simp only [closeFlow, PinentryManager.forgetFlow, PinentryManager.cleanupAwaiting, haw,
        Table.lookup_erase]
      split <;> simp [*]
    · simp [closeFlow, PinentryManager.forgetFlow]

theorem Clocked.closeAll : ∀ (cookies : List String) (pm : PinentryManager) (a : Agent),
    pm.Clocked → (closeAll W cookies pm a).1.Clocked
  | [], _, _, h => h
  | cookie :: rest, _, _, h => Clocked.closeAll rest _ _ (h.forgetFlow cookie)

end PinentryManager

namespace Daemon

variable (W : World) {d : Daemon}

/-- **Every step keeps the timers and the awaited results together.** -/
theorem clocked_step (h : d.pinentryManager.Clocked) (i : Input) :
    (d.step W i).pinentryManager.Clocked := by
  cases turn_step W d i with
  | same h' => exact h'.pinentryManager ▸ h
  | connected socket peerPid hi hn h' => exact h' ▸ h
  | closing socket client hi hc h' => exact h' ▸ h
  | keyringRequest socket msg hm h' => exact h' ▸ h
  | keyringAnswer socket msg hm r hr h' => exact h'.pinentryManager ▸ h
  | keyringCancel socket msg hm r hr h' => exact h'.pinentryManager ▸ h
  | pinentryRequest socket msg hm h' => exact h' ▸ h.handleRequest W d.agent msg socket _
  | pinentryAnswer socket msg hm ha hk r hr h' =>
      exact h'.pinentryManager ▸ h.handleResponse _ _
  | pinentryResult socket msg hm h' => exact h'.pinentryManager ▸ h.handleResult W d.agent msg _
  | pinentryCancel socket msg hm h' => exact h'.pinentryManager ▸ h.forgetFlow _
  | pinentryTimeout timer hi h' => exact h' ▸ h.onTimeout W d.agent timer
  | disconnected socket hi h' => exact h'.pinentryManager ▸ PinentryManager.Clocked.closeAll W _ _ _ h
  | listener call hn hs h' => exact h'.pinentryManager ▸ h

theorem clocked_run (ins : List Input) : ((machine W).run ins).pinentryManager.Clocked := by
  refine Machine.invariant (I := fun d : Daemon => d.pinentryManager.Clocked) ?_
    (fun d i h => clocked_step W h i) ins
  constructor <;> simp [machine]

end Daemon

end BbAuth
