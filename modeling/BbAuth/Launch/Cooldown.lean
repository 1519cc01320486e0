import BbAuth.Launch.Failover
import BbAuth.Model.Summoner
/-!
# When a provider is summoned

`ensureFallbackUiRunning` keeps two clocks: the time of the last launch,
and, in the launcher, how long each provider is left alone after the starts
that failed. Both are functions of the calls made so far. So whether a call
launches something is read off its history: nothing was launched within the
last five seconds, and the candidate is not waiting for its next try.
-/

namespace BbAuth

/-- **The agent's call is the summoner's**, where the world answers as the
lock, the clock and the launcher do. -/
theorem Agent.lastFallbackLaunchMs_ensureFallbackUiRunning {W : World} {a : Agent} {s : Summoner}
    {call : SummonsCall} {locked : Bool} (hlast : a.lastFallbackLaunchMs = s.lastFallbackLaunchMs)
    (hactive : a.hasActiveProvider = call.hasActiveProvider)
    (hlocked : W.fallbackLocked a.tick = locked) (hnow : W.currentMSecs a.tick = call.nowMs)
    (hlaunches : W.launches a.tick = (s.providerLauncher.tryLaunch call.launchCall).1.launched) :
    (a.ensureFallbackUiRunning W call.reason).lastFallbackLaunchMs =
      (s.ensureFallbackUiRunning call locked).2.lastFallbackLaunchMs := by
  have htrace : ∀ o, (a.trace o).hasActiveProvider = a.hasActiveProvider := fun _ => rfl
  have htick : ∀ o, (a.trace o).tick = a.tick := fun _ => rfl
  have hkept : ∀ o, (a.trace o).ticked.lastFallbackLaunchMs = a.lastFallbackLaunchMs := fun _ => rfl
  simp only [Agent.ensureFallbackUiRunning, Summoner.ensureFallbackUiRunning, Summoner.search,
    htrace, htick, hkept, hactive, hlocked, hnow, hlaunches, hlast]
  split
  · exact hlast
  · split
    · exact hlast
    · split
      · exact hlast
      · split
        · rfl
        · exact hlast

namespace ProviderLauncher

variable {l : ProviderLauncher} {call : LaunchCall} {p : String}

/-- **How long a provider is left alone** after these calls: not at all
unless the last start of it that was tried has failed. -/
def waitsUntil (p : String) (calls : List LaunchCall) : Option ℤ :=
  match (own p calls).getLast? with
  | none => none
  | some last =>
    if last.starts then none
    else some (last.nowMs + computeBackoffMs (failuresInRow p calls) last.jitter)

theorem nextEligibleMs_run (p : String) (calls : List LaunchCall) :
    ((machine.run calls).retryByProvider.lookup p).map RetryState.nextEligibleMs =
      waitsUntil p calls := by
  have hcount : ((kept (own p calls)).getD {}).failures = failuresInRow p calls :=
    failures_kept _
  rw [lookup_run, waitsUntil]
  rcases List.eq_nil_or_concat' (own p calls) with hnil | ⟨before, last, hsnoc⟩
  · rw [hnil]
    rfl
  · rw [hsnoc] at hcount ⊢
    rw [List.getLast?_concat, kept_snoc, retried] at *
    cases hs : last.starts with
    | true => simp [hs]
    | false =>
        simp only [hs, Bool.false_eq_true, if_false, Option.getD_some] at hcount
        simp [hs, hcount]

/-- **A call launches its candidate** where one is required, its wait is
over and it starts. -/
theorem launched_run_iff (calls : List LaunchCall) :
    ((machine.run calls).tryLaunch call).1.launched = true ↔
      call.Selects call.candidate.id ∧ call.starts = true ∧
        ∀ t ∈ waitsUntil call.candidate.id calls, t ≤ call.nowMs := by
  have hwaits : (∀ t ∈ waitsUntil call.candidate.id calls, t ≤ call.nowMs) ↔
      ∀ state, (machine.run calls).retryByProvider.lookup call.candidate.id = some state →
        state.nextEligibleMs ≤ call.nowMs := by
    rw [← nextEligibleMs_run]
    simp
  rw [launched_iff, attempts_iff, canAttempt_iff, hwaits]
  exact ⟨fun h => ⟨h.1.1, h.2, h.1.2⟩, fun h => ⟨⟨h.1, h.2.2⟩, h.2.1⟩⟩

end ProviderLauncher

namespace Summoner

variable {s : Summoner} {i : SummonsCall × Bool} {ins : List (SummonsCall × Bool)}

/-- **The call gets to the launcher**: there is no active provider, the lock
is free, and the last launch is five seconds ago. -/
def Reaches (s : Summoner) (i : SummonsCall × Bool) : Prop :=
  i.1.hasActiveProvider = false ∧ i.2 = false ∧
    s.lastFallbackLaunchMs + FALLBACK_LAUNCH_COOLDOWN_MS ≤ i.1.nowMs

instance : Decidable (s.Reaches i) := inferInstanceAs (Decidable (_ ∧ _))

/-- Does the call launch something? -/
def launches (s : Summoner) (i : SummonsCall × Bool) : Bool :=
  (s.ensureFallbackUiRunning i.1 i.2).1.launched

/-- The times of the launches. -/
def launchTimes (ins : List (SummonsCall × Bool)) : List ℤ :=
  machine.observe (fun times s i => if s.launches i then times ++ [i.1.nowMs] else times) [] ins

/-- The calls of the launcher. -/
def launchCalls (ins : List (SummonsCall × Bool)) : List LaunchCall :=
  machine.observe
    (fun calls s i => if s.Reaches i then calls ++ [i.1.launchCall] else calls) [] ins

/-- The time of the last launch; `0` before the first. -/
def lastLaunch (ins : List (SummonsCall × Bool)) : ℤ := (launchTimes ins).getLast?.getD 0

@[simp] theorem launchTimes_snoc : launchTimes (ins ++ [i]) =
    if (machine.run ins).launches i then launchTimes ins ++ [i.1.nowMs] else launchTimes ins := by
  rw [launchTimes, Machine.observe_snoc]
  rfl

@[simp] theorem launchCalls_snoc : launchCalls (ins ++ [i]) =
    if (machine.run ins).Reaches i then launchCalls ins ++ [i.1.launchCall]
    else launchCalls ins := by
  rw [launchCalls, Machine.observe_snoc]
  rfl

/-! ## One call -/

theorem ensure_of_reaches (h : s.Reaches i) :
    s.ensureFallbackUiRunning i.1 i.2 =
      ((s.providerLauncher.tryLaunch i.1.launchCall).1,
        { providerLauncher := (s.providerLauncher.tryLaunch i.1.launchCall).2
          lastFallbackLaunchMs := if (s.providerLauncher.tryLaunch i.1.launchCall).1.launched
            then i.1.nowMs else s.lastFallbackLaunchMs }) := by
  obtain ⟨hactive, hlocked, hnow⟩ := h
  have hwaited : ¬ i.1.nowMs - s.lastFallbackLaunchMs < FALLBACK_LAUNCH_COOLDOWN_MS := by omega
  simp [ensureFallbackUiRunning, search, hactive, hlocked, hwaited]

theorem ensure_of_not_reaches (h : ¬ s.Reaches i) :
    s.ensureFallbackUiRunning i.1 i.2 = ({}, s) := by
  simp only [ensureFallbackUiRunning, search]
  split
  · rfl
  next hactive =>
    split
    · rfl
    next hlocked =>
      rw [if_pos]
      by_contra hwaited
      exact h ⟨by simpa using hactive, by simpa using hlocked, by omega⟩

/-! ## Many calls -/

/-- **What the daemon keeps** is what its calls have left: the launcher has
served those that got to it, and the time is that of the last launch. -/
theorem run_eq (ins : List (SummonsCall × Bool)) :
    machine.run ins =
      { providerLauncher := ProviderLauncher.machine.run (launchCalls ins)
        lastFallbackLaunchMs := lastLaunch ins } := by
  induction ins using List.reverseRecOn with
  | nil => rfl
  | append_singleton ins i ih =>
      have hrun : machine.run (ins ++ [i]) =
          ((machine.run ins).ensureFallbackUiRunning i.1 i.2).2 := Machine.run_snoc ..
      rw [hrun, lastLaunch, launchTimes_snoc, launchCalls_snoc, launches]
      by_cases h : (machine.run ins).Reaches i
      · have hstep : ProviderLauncher.machine.run (launchCalls ins ++ [i.1.launchCall]) =
            ((ProviderLauncher.machine.run (launchCalls ins)).tryLaunch i.1.launchCall).2 :=
          Machine.run_snoc ..
        rw [ensure_of_reaches h, if_pos h, ih, hstep]
        dsimp only
        congr 1
        split
        · simp
        · rfl
      · rw [ensure_of_not_reaches h, if_neg h, ih]
        rfl

/-- **Launches are five seconds apart**, whatever the clock does: a clock
that goes back holds them up. -/
theorem launchTimes_pairwise (ins : List (SummonsCall × Bool)) :
    (launchTimes ins).Pairwise fun t u => t + FALLBACK_LAUNCH_COOLDOWN_MS ≤ u := by
  induction ins using List.reverseRecOn with
  | nil => exact .nil
  | append_singleton ins i ih =>
      rw [launchTimes_snoc]
      split
      next hlaunch =>
        refine List.pairwise_append.2 ⟨ih, List.pairwise_singleton _ _, fun t ht u hu => ?_⟩
        obtain rfl := List.mem_singleton.1 hu
        have hreach : (machine.run ins).Reaches i := by
          by_contra hn
          rw [launches, ensure_of_not_reaches hn] at hlaunch
          cases hlaunch
        have hlast := hreach.2.2
        rw [run_eq] at hlast
        have hlast : lastLaunch ins + FALLBACK_LAUNCH_COOLDOWN_MS ≤ i.1.nowMs := hlast
        -- the last launch is the latest
        rcases List.eq_nil_or_concat' (launchTimes ins) with hnil | ⟨before, last, hsnoc⟩
        · rw [hnil] at ht
          cases ht
        · rw [lastLaunch, hsnoc, List.getLast?_concat, Option.getD_some] at hlast
          rw [hsnoc] at ht ih
          rcases List.mem_append.1 ht with ht | ht
          · have hle := (List.pairwise_append.1 ih).2.2 t ht last (by simp)
            have hpos : (0 : ℤ) ≤ FALLBACK_LAUNCH_COOLDOWN_MS := by decide
            omega
          · obtain rfl := List.mem_singleton.1 ht
            exact hlast
      · exact ih

/-- **When a call launches something**, in every sequence of calls on any
clock: it is made without an active provider and with a session open, the
lock is free, the last launch is five seconds ago, and its candidate is not
left alone after a failed start, and starts. -/
theorem launches_iff (ins : List (SummonsCall × Bool)) :
    (launchTimes ins).Pairwise (fun t u => t + FALLBACK_LAUNCH_COOLDOWN_MS ≤ u) ∧
    ∀ call locked, (machine.run ins).launches (call, locked) = true ↔
      (call.hasActiveProvider = false ∧ call.hasSessions = true ∧ locked = false) ∧
      lastLaunch ins + FALLBACK_LAUNCH_COOLDOWN_MS ≤ call.nowMs ∧
      call.launchCall.candidate.id ≠ "" ∧ call.launchCall.starts = true ∧
      ∀ t ∈ ProviderLauncher.waitsUntil call.launchCall.candidate.id (launchCalls ins),
        t ≤ call.launchNowMs := by
  refine ⟨launchTimes_pairwise ins, fun call locked => ?_⟩
  have hreaches : (machine.run ins).Reaches (call, locked) ↔ call.hasActiveProvider = false ∧
      locked = false ∧ lastLaunch ins + FALLBACK_LAUNCH_COOLDOWN_MS ≤ call.nowMs := by
    rw [run_eq]
    rfl
  have hlaunch : (machine.run ins).launches (call, locked) = true ↔
      (machine.run ins).Reaches (call, locked) ∧
        ((ProviderLauncher.machine.run (launchCalls ins)).tryLaunch call.launchCall).1.launched =
          true := by
    by_cases h : (machine.run ins).Reaches (call, locked)
    · rw [launches, ensure_of_reaches h, run_eq]
      simp [← run_eq, h]
    · rw [launches, ensure_of_not_reaches h]
      simp [h]
  rw [hlaunch, hreaches, ProviderLauncher.launched_run_iff]
  constructor
  · rintro ⟨⟨hactive, hlocked, hnow⟩, ⟨-, hsessions, -, hid⟩, hstarts, hwait⟩
    exact ⟨⟨hactive, hsessions, hlocked⟩, hnow, hid, hstarts, hwait⟩
  · rintro ⟨⟨hactive, hsessions, hlocked⟩, hnow, hid, hstarts, hwait⟩
    exact ⟨⟨hactive, hlocked, hnow⟩, ⟨hactive, hsessions, rfl, hid⟩, hstarts, hwait⟩

end Summoner

end BbAuth
