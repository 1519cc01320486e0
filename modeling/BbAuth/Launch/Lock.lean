import BbAuth.Launch.Selection
import BbAuth.Library.Machine
import BbAuth.Model.Summoner
/-!
# One fallback UI at a time

The daemon and the processes of the fallback UI meet at one lock file. The
daemon holds it for the moment of its probe, a process for as long as it
runs. In any interleaving the lock says the truth, so at most one process
runs; who is turned away has met a running one, or the probe.
-/

namespace BbAuth

namespace Summoning

variable {isFallback : String → Bool} {s : Summoning} {i : Input} {pid q : ℕ}

/-- **The lock says the truth**: a process holds it exactly while it runs,
and the daemon exactly while it probes. -/
structure Truthful (s : Summoning) : Prop where
  process : ∀ pid, s.Running pid ↔ s.lock = some (.process pid)
  daemon : s.Probing ↔ s.lock = some .daemon
  fresh : ∀ pid, s.nextPid ≤ pid → s.processes.lookup pid = none

/-- The daemon is in a call. -/
def Busy (s : Summoning) : Prop := s.phase ≠ .idle

theorem truthful_init : Truthful {} where
  process _ := by simp [Running]
  daemon := by simp [Probing]
  fresh _ _ := by simp

/-! ## Each step -/

theorem Truthful.spawn (h : Truthful s) : Truthful s.spawn where
  process pid := by
    rw [Running, Summoning.spawn, Table.lookup_insert]
    split
    next heq =>
      -- a new process has run nothing, and its pid is nobody's
      refine ⟨nofun, fun hl => ?_⟩
      have hrun := (h.process pid).2 hl
      rw [Running, h.fresh pid heq.ge] at hrun
      cases hrun
    · exact h.process pid
  daemon := h.daemon
  fresh pid hp := by
    have hp : s.nextPid + 1 ≤ pid := hp
    rw [Summoning.spawn, Table.lookup_insert, if_neg (by omega)]
    exact h.fresh pid (by omega)

/-- What the launcher does leaves the lock alone. -/
theorem Truthful.launch (h : Truthful s) (hp : ¬ s.Probing) (c : SummonsCall) :
    Truthful (s.launch isFallback c) := by
  have hquiet : Truthful { s with summoner := (s.summoner.search c).2, phase := .idle } :=
    ⟨h.process,
      ⟨fun hprobe => absurd hprobe.choose_spec nofun, fun hl => absurd (h.daemon.2 hl) hp⟩,
      h.fresh⟩
  simp only [Summoning.launch]
  split
  · exact hquiet.spawn
  · exact hquiet

/-- A process that is no more: it did not run, or has let go of the lock. -/
theorem Truthful.erase (h : Truthful s) (hr : ¬ s.Running pid) :
    Truthful { s with processes := s.processes.erase pid } where
  process q := by
    simp only [Running, Table.lookup_erase]
    split
    next heq =>
      subst heq
      exact ⟨nofun, fun hl => absurd ((h.process q).2 hl) hr⟩
    · exact h.process q
  daemon := h.daemon
  fresh q hq := by
    simp only [Table.lookup_erase]
    split
    · rfl
    · exact h.fresh q hq

theorem release_of_ne {holder : Holder} (h : s.lock ≠ some holder) : s.release holder = s :=
  if_neg h

/-- The running process lets go of the lock. -/
theorem Truthful.unlocked (h : Truthful s) (hr : s.Running pid) {t : Table ℕ Ui}
    (ht : ∀ q, t.lookup q = some .running ↔ q ≠ pid ∧ s.Running q)
    (hfresh : ∀ q, s.nextPid ≤ q → t.lookup q = none) :
    Truthful { s.release (.process pid) with processes := t } := by
  have hl := (h.process pid).1 hr
  rw [release, if_pos hl]
  refine ⟨fun q => ⟨fun hq => ?_, nofun⟩, ⟨fun hp => ?_, nofun⟩, hfresh⟩
  · obtain ⟨hne, hq⟩ := (ht q).1 hq
    have := hl.symm.trans ((h.process q).1 hq)
    exact absurd (Holder.process.inj (Option.some.inj this)).symm hne
  · have := hl.symm.trans (h.daemon.1 hp)
    cases this

/-- **One step keeps it.** -/
theorem Truthful.step (h : Truthful s) (i : Input) : Truthful (s.step isFallback i) := by
  cases i with
  | call c =>
      simp only [Summoning.step]
      split
      next hphase =>
        split
        · exact h
        · split
          · exact h
          next hfree =>
            have hnone : s.lock = none := by simpa using hfree
            refine ⟨fun pid => ⟨fun hr => ?_, fun hl => ?_⟩, ⟨fun _ => rfl, fun _ => ⟨c, rfl⟩⟩,
              h.fresh⟩
            · have := hnone.symm.trans ((h.process pid).1 hr)
              cases this
            · cases hl
      · exact h
  | resume =>
      simp only [Summoning.step]
      split
      · exact h
      next c hphase =>
        have hl := h.daemon.1 ⟨c, hphase⟩
        rw [release, if_pos hl]
        refine ⟨fun pid => ⟨fun hr => ?_, nofun⟩, ⟨fun hp => absurd hp.choose_spec nofun, nofun⟩,
          h.fresh⟩
        have := hl.symm.trans ((h.process pid).1 hr)
        cases this
      next c hphase =>
        refine h.launch ?_ c
        rintro ⟨c', hc'⟩
        rw [hphase] at hc'
        cases hc'
  | start => exact h.spawn
  | tryLock pid =>
      simp only [Summoning.step]
      split
      next hstart =>
        have hidle : ¬ s.Running pid := by
          rw [Running, hstart]
          nofun
        split
        · exact h.erase hidle
        next hfree =>
          have hnone : s.lock = none := by simpa using hfree
          refine ⟨fun q => ?_, ⟨fun hp => ?_, nofun⟩, fun q hq => ?_⟩
          · simp only [Running, Table.lookup_insert, Option.some_inj, Holder.process.injEq]
            split
            next heq => simp [heq]
            next hne =>
              refine ⟨fun hr => ?_, fun heq => absurd heq.symm hne⟩
              have := hnone.symm.trans ((h.process q).1 hr)
              cases this
          · have := hnone.symm.trans (h.daemon.1 hp)
            cases this
          · simp only [Table.lookup_insert]
            split
            next heq =>
              subst heq
              rw [h.fresh q hq] at hstart
              cases hstart
            · exact h.fresh q hq
      · exact h
  | unlock pid =>
      simp only [Summoning.step]
      split
      next hr =>
        refine h.unlocked hr (fun q => ?_) fun q hq => ?_
        · rw [Table.lookup_insert]
          split <;> simp_all [Running]
        · rw [Table.lookup_insert]
          split
          next heq =>
            subst heq
            rw [h.fresh q hq] at hr
            cases hr
          · exact h.fresh q hq
      · exact h
  | quit pid =>
      simp only [Summoning.step]
      split
      next hleft =>
        refine h.erase ?_
        rw [Running, hleft]
        nofun
      · exact h
  | kill pid =>
      simp only [Summoning.step]
      by_cases hr : s.Running pid
      · refine h.unlocked hr (fun q => ?_) fun q hq => ?_
        · rw [Table.lookup_erase]
          split <;> simp_all [Running]
        · rw [Table.lookup_erase]
          split
          · rfl
          · exact h.fresh q hq
      · rw [release_of_ne fun hl => hr ((h.process pid).2 hl)]
        exact h.erase hr

theorem truthful_run (isFallback : String → Bool) (ins : List Input) :
    Truthful ((machine isFallback).run ins) :=
  Machine.invariant (M := machine isFallback) truthful_init (fun _ i h => h.step i) ins

/-! ## At the lock -/

/-- Nobody holds the lock but who runs, and the daemon's probe. -/
theorem Truthful.lock_eq_none (h : Truthful s) :
    s.lock = none ↔ ¬ s.Probing ∧ ∀ q, ¬ s.Running q := by
  constructor
  · intro hl
    refine ⟨fun hp => ?_, fun q hq => ?_⟩
    · have := hl.symm.trans (h.daemon.1 hp)
      cases this
    · have := hl.symm.trans ((h.process q).1 hq)
      cases this
  · rintro ⟨hp, hr⟩
    cases hl : s.lock with
    | none => rfl
    | some holder =>
        cases holder with
        | daemon => exact absurd (h.daemon.2 hl) hp
        | process q => exact absurd ((h.process q).2 hl) (hr q)

/-- **A process at the lock** runs where it is free, and is gone where it is
not. -/
theorem Truthful.running_tryLock (h : Truthful s) (hp : s.processes.lookup pid = some .starting) :
    ((s.step isFallback (.tryLock pid)).Running pid ↔ ¬ s.Probing ∧ ∀ q, ¬ s.Running q) ∧
      (¬ (s.step isFallback (.tryLock pid)).Running pid →
        (s.step isFallback (.tryLock pid)).processes.lookup pid = none) := by
  rw [← h.lock_eq_none]
  simp only [Summoning.step, if_pos hp, Running]
  cases s.lock with
  | none => simp
  | some holder => simp

/-- **Nobody else ends a window**: a process that runs does so until its own
event loop ends, or it dies. -/
theorem Truthful.running_step (h : Truthful s) (hr : s.Running pid) (hu : i ≠ .unlock pid)
    (hk : i ≠ .kill pid) : (s.step isFallback i).Running pid := by
  have hne : pid ≠ s.nextPid := by
    rintro rfl
    rw [Running, h.fresh _ le_rfl] at hr
    cases hr
  have hspawn : s.spawn.Running pid := by
    rwa [Running, Summoning.spawn, Table.lookup_insert, if_neg hne]
  cases i with
  | call c =>
      simp only [Summoning.step]
      split
      · split
        · exact hr
        · split <;> exact hr
      · exact hr
  | resume =>
      simp only [Summoning.step]
      split
      · exact hr
      · simp only [release]
        split <;> exact hr
      · simp only [Summoning.launch]
        split
        · rwa [Running, Summoning.spawn, Table.lookup_insert, if_neg hne]
        · exact hr
  | start => exact hspawn
  | tryLock q =>
      simp only [Summoning.step]
      split
      next hstart =>
        have hq : pid ≠ q := by
          rintro rfl
          rw [Running, hstart] at hr
          cases hr
        split
        · rwa [Running, Table.lookup_erase, if_neg hq]
        · rwa [Running, Table.lookup_insert, if_neg hq]
      · exact hr
  | unlock q =>
      have hq : pid ≠ q := fun heq => hu (heq ▸ rfl)
      simp only [Summoning.step]
      split
      · rwa [Running, Table.lookup_insert, if_neg hq]
      · exact hr
  | quit q =>
      simp only [Summoning.step]
      split
      next hleft =>
        have hq : pid ≠ q := by
          rintro rfl
          rw [Running, hleft] at hr
          cases hr
        rwa [Running, Table.lookup_erase, if_neg hq]
      · exact hr
  | kill q =>
      have hq : pid ≠ q := fun heq => hk (heq ▸ rfl)
      simp only [Summoning.step, Running]
      rwa [Table.lookup_erase, if_neg hq]

/-! ## The daemon's call -/

/-- The call the daemon is in. -/
def Phase.call? : Phase → Option SummonsCall
  | .idle => none
  | .probing c | .searching c => some c

/-- **What opened a call**: it was made without an active provider, while
no process ran. -/
def Opened (isFallback : String → Bool) (ins : List Input) : Prop :=
  ∀ c, ((machine isFallback).run ins).phase.call? = some c →
    c.hasActiveProvider = false ∧
      ∃ pre, (machine isFallback).OpenedAt Busy ins pre (.call c) ∧
        ∀ q, ¬ ((machine isFallback).run pre).Running q

theorem busy_iff : s.Busy ↔ ∃ c, s.phase.call? = some c := by
  unfold Busy
  cases hp : s.phase <;> simp [Phase.call?]

/-- The phase after a step: as it was, further on in the same call, over, or
at the start of a call. -/
theorem call?_step (h : Truthful s) {c : SummonsCall}
    (hc : (s.step isFallback i).phase.call? = some c) :
    s.phase.call? = some c ∨
      i = .call c ∧ ¬ s.Busy ∧ c.hasActiveProvider = false ∧ ∀ q, ¬ s.Running q := by
  cases i with
  | call c' =>
      simp only [Summoning.step] at hc
      split at hc
      next hphase =>
        split at hc
        · exact .inl hc
        next hactive =>
          split at hc
          · exact .inl hc
          next hfree =>
            have hnone : s.lock = none := by simpa using hfree
            obtain rfl : c' = c := Option.some.inj hc
            refine .inr ⟨rfl, fun hb => hb hphase, by simpa using hactive, ?_⟩
            exact (h.lock_eq_none.1 hnone).2
      · exact .inl hc
  | resume =>
      simp only [Summoning.step] at hc
      split at hc
      · exact .inl hc
      next c' hphase => exact .inl (by rwa [hphase])
      · simp only [launch] at hc
        split at hc <;> cases hc
  | start => exact .inl hc
  | tryLock q | unlock q | quit q =>
      simp only [Summoning.step] at hc
      split at hc
      · first
          | exact .inl hc
          | (simp only [release] at hc; split at hc <;> exact .inl hc)
          | (split at hc <;> exact .inl hc)
      · exact .inl hc
  | kill q =>
      simp only [Summoning.step, release] at hc
      split at hc <;> exact .inl hc

theorem opened_run (isFallback : String → Bool) (ins : List Input) : Opened isFallback ins := by
  refine Machine.history_invariant (J := Opened isFallback) (fun c hc => by cases hc)
    (fun ins i ih c hc => ?_) ins
  have hrun : (machine isFallback).run (ins ++ [i]) =
      ((machine isFallback).run ins).step isFallback i := Machine.run_snoc ..
  rw [hrun] at hc
  have hbusy : ((machine isFallback).step ((machine isFallback).run ins) i).Busy :=
    busy_iff.2 ⟨c, hc⟩
  rcases call?_step (truthful_run isFallback ins) hc with hold | ⟨rfl, hidle, hactive, hnone⟩
  · obtain ⟨hactive, pre, hopen, hnone⟩ := ih c hold
    exact ⟨hactive, pre, hopen.snoc hbusy, hnone⟩
  · exact ⟨hactive, ins, .new hidle hbusy, hnone⟩

/-- **One fallback UI at a time.** In every interleaving of the daemon's
calls with processes that start, run, end or die at any point: at most one
runs; one that reaches the lock runs unless another does or the daemon is
in its probe, and ends there if not; one that runs is ended by nobody else;
and the daemon searches a provider only in a call that was made without an
active one, while no process ran. The lock file can be created, so that
`tryLock` fails only where the lock is held. -/
theorem one_fallback_run (isFallback : String → Bool) (ins : List Input) :
    let s := (machine isFallback).run ins
    (∀ p q, s.Running p → s.Running q → p = q) ∧
    (∀ p, s.processes.lookup p = some .starting →
      ((s.step isFallback (.tryLock p)).Running p ↔ ¬ s.Probing ∧ ∀ q, ¬ s.Running q) ∧
        (¬ (s.step isFallback (.tryLock p)).Running p →
          (s.step isFallback (.tryLock p)).processes.lookup p = none)) ∧
    (∀ p i, s.Running p → i ≠ .unlock p → i ≠ .kill p → (s.step isFallback i).Running p) ∧
    ∀ c, s.phase = .searching c → c.hasActiveProvider = false ∧
      ∃ pre, (machine isFallback).OpenedAt Busy ins pre (.call c) ∧
        ∀ q, ¬ ((machine isFallback).run pre).Running q := by
  have h := truthful_run isFallback ins
  refine ⟨fun p q hp hq => ?_, fun p hp => h.running_tryLock hp,
    fun p i hr hu hk => h.running_step hr hu hk, fun c hc => opened_run isFallback ins c ?_⟩
  · have hpq := ((h.process p).1 hp).symm.trans ((h.process q).1 hq)
    exact Holder.process.inj (Option.some.inj hpq)
  · rw [hc]
    rfl

/-- A call that finds the fallback UI at its default path. -/
def defaultCall (nowMs : ℤ) : SummonsCall :=
  { discovery :=
      { cleanPath := id, entryInfoList := fun _ => none, fromJson := fun _ => .error "" }
    legacyDefaultPath := "/usr/bin/bb-auth-fallback"
    platform := .ofFiles ["/usr/bin/bb-auth-fallback"]
    nowMs := nowMs
    launchNowMs := nowMs
    jitter := ⟨0, by decide⟩
    startProcess := fun _ _ _ => true }

/-- The UI that a call has launched meets the probe of the next call, and
ends; the next call is within the wait after the launch. Nobody runs. -/
example :
    let s := (machine fun _ => true).run [.call (defaultCall 10000), .resume, .resume,
      .call (defaultCall 10100), .tryLock 0, .resume, .resume]
    s.summoner.lastFallbackLaunchMs = 10000 ∧ s.nextPid = 1 ∧ s.processes.lookup 0 = none := by
  decide

end Summoning

end BbAuth
