import BbAuth.Launch.Backoff
/-!
# A provider that never starts

The selection does not know which starts have failed: as long as nothing
outside changes, every call selects the same candidate. So the launcher
comes to start a provider exactly where the first of the candidates can be
started, and the fallback behind a candidate that cannot is never
launched.
-/

namespace BbAuth

/-- **What stays the same** from call to call. -/
structure LaunchScene where
  manifests : List ProviderManifest
  socketPath : String := ""
  legacyFallbackPath : String := ""
  defaultFallbackPath : String := ""
  platform : LaunchPlatform
  /-- `m_startProcessFn`. -/
  startProcess : String → List String → QProcessEnvironment → Bool

/-- **What each call has of its own.** -/
structure LaunchReading where
  reason : String := ""
  nowMs : ℤ
  jitter : Fin 121 := 0

namespace LaunchScene

variable (s : LaunchScene)

/-- A call with sessions pending and no active provider. -/
def call (r : LaunchReading) : LaunchCall :=
  { manifests := s.manifests
    socketPath := s.socketPath
    reason := r.reason
    hasActiveProvider := false
    hasPendingSessions := true
    legacyFallbackPath := s.legacyFallbackPath
    defaultFallbackPath := s.defaultFallbackPath
    platform := s.platform
    nowMs := r.nowMs
    jitter := r.jitter
    startProcess := s.startProcess }

/-- The default fallback, where its binary is there. -/
def defaultCandidates : List SelectedCandidate :=
  let fallbackPath := Text.trimmedText s.defaultFallbackPath
  if fallbackPath = "" || !s.platform.isExecutableFile fallbackPath then []
  else [ProviderLauncher.legacyCandidate s.platform ProviderLauncher.LEGACY_DEFAULT_ID
    "legacy-default" fallbackPath s.socketPath]

/-- **The eligible candidates**, the first one first: the autostart
manifests whose executable is there in their order, and then the
default. -/
def eligible : List SelectedCandidate :=
  ((s.platform.sort (s.manifests.filter ProviderManifest.autostart)).filter
    (ProviderLauncher.isLaunchable s.platform)).map
      (ProviderLauncher.manifestCandidate s.platform · s.socketPath) ++ s.defaultCandidates

/-- Starting this candidate succeeds. -/
def starts (c : SelectedCandidate) : Bool := s.startProcess c.exec c.args c.env

end LaunchScene

namespace ProviderLauncher

variable {s : LaunchScene} {l : ProviderLauncher} {call : LaunchCall} {p : String}

/-! ## One call -/

/-- The selection takes the first of the eligible candidates. -/
theorem candidate_call (hpath : Text.trimmedText s.legacyFallbackPath = "") (r : LaunchReading) :
    (s.call r).candidate = s.eligible.head?.getD {} := by
  unfold LaunchCall.candidate LaunchScene.call selectCandidate LaunchScene.eligible
  dsimp only
  rw [if_neg (not_not.2 hpath), List.head?_append, List.head?_map, List.head?_filter]
  cases (s.platform.sort (s.manifests.filter ProviderManifest.autostart)).find?
      (isLaunchable s.platform) with
  | some m => rfl
  | none =>
    unfold LaunchScene.defaultCandidates
    dsimp only [Option.map_none, Option.none_or]
    split
    next => rfl
    next => rfl

/-- A call launches what it tries to start and can. -/
theorem launched_iff :
    (l.tryLaunch call).1.launched = true ↔
      l.Attempts call call.candidate.id ∧ call.starts = true := by
  by_cases hsel : ∃ p, call.Selects p
  · obtain ⟨p, hp⟩ := hsel
    obtain ⟨-, -, hlaunched, -⟩ := tryLaunch_of_selects (l := l) hp
    obtain rfl := hp.2.2.1
    rw [hlaunched, Bool.and_eq_true, attempts_iff]
    exact ⟨fun h => ⟨⟨hp, h.1⟩, h.2⟩, fun h => ⟨h.1.2, h.2⟩⟩
  · have hnone : ∀ p, ¬ call.Selects p := fun p hp => hsel ⟨p, hp⟩
    obtain ⟨-, hlaunched, -⟩ := tryLaunch_of_not_selects (l := l) hnone
    rw [hlaunched]
    exact ⟨fun h => absurd h Bool.false_ne_true, fun h => absurd (attempts_iff.1 h.1).1 (hnone _)⟩

/-! ## What an earlier failure leaves -/

/-- Every call that tried to start a provider was made. -/
theorem mem_of_mem_own {ins : List LaunchCall} (h : call ∈ own p ins) : call ∈ ins := by
  induction ins using List.reverseRecOn with
  | nil => exact h
  | append_singleton ins d ih =>
    rw [own_snoc] at h
    split at h
    next =>
      rcases List.mem_append.1 h with h | h
      · exact List.mem_append_left _ (ih h)
      · exact List.mem_append_right _ h
    next => exact List.mem_append_left _ (ih h)

/-- What is kept makes nobody wait for longer than the longest wait. -/
theorem nextEligibleMs_le {calls : List LaunchCall} {nowMs : ℤ} {state : RetryState}
    (hbefore : ∀ e ∈ calls, e.nowMs ≤ nowMs) (h : kept calls = some state) :
    state.nextEligibleMs ≤ nowMs + 5120 := by
  rcases List.eq_nil_or_concat calls with rfl | ⟨earlier, e, rfl⟩
  · cases h
  · rw [List.concat_eq_append] at *
    rw [kept_snoc, retried] at h
    split at h
    next => cases h
    next =>
      obtain rfl := Option.some.inj h
      have he := hbefore e (by simp)
      have hwait := (computeBackoffMs_bounds (((kept earlier).getD {}).failures + 1) e.jitter).2
      have hcap : min (250 * 2 ^ min (((kept earlier).getD {}).failures + 1) 8) 5000 ≤ (5000 : ℤ) :=
        min_le_right _ _
      dsimp only
      omega

/-- After the longest wait the call that selects a provider tries to start
it. -/
theorem attempts_of_later {ins : List LaunchCall} {nowMs : ℤ}
    (hbefore : ∀ e ∈ ins, e.nowMs ≤ nowMs) (hsel : call.Selects p)
    (hwait : nowMs + 5120 ≤ call.nowMs) : (machine.run ins).Attempts call p := by
  refine attempts_iff.2 ⟨hsel, canAttempt_iff.2 fun state hstate => ?_⟩
  rw [lookup_run] at hstate
  exact (nextEligibleMs_le (fun e he => hbefore e (mem_of_mem_own he)) hstate).trans hwait

/-! ## The first n + 1 calls -/

section Scene

variable (hpath : Text.trimmedText s.legacyFallbackPath = "")

include hpath

/-- A launch is one of the first of the candidates. -/
theorem first_starts_of_launched {r : LaunchReading}
    (h : (l.tryLaunch (s.call r)).1.launched = true) :
    ∃ c rest, s.eligible = c :: rest ∧ c.id ≠ "" ∧ s.starts c = true := by
  obtain ⟨hatt, hstarts⟩ := launched_iff.1 h
  obtain ⟨-, -, -, hne⟩ := (attempts_iff.1 hatt).1
  unfold LaunchCall.starts at hstarts
  rw [candidate_call hpath] at hne hstarts
  cases hel : s.eligible with
  | nil =>
    rw [hel] at hne
    exact absurd rfl hne
  | cons c rest =>
    rw [hel] at hne hstarts
    exact ⟨c, rest, rfl, hne, hstarts⟩

/-- A call that tries to start the first of the candidates launches it if
it can be started. -/
theorem launched_of_first {c : SelectedCandidate} {rest : List SelectedCandidate}
    {r : LaunchReading} (hel : s.eligible = c :: rest) (hstarts : s.starts c = true)
    (hatt : l.Attempts (s.call r) c.id) : (l.tryLaunch (s.call r)).1.launched = true := by
  have hcand : (s.call r).candidate = c := by
    rw [candidate_call hpath, hel]
    rfl
  have hs : (s.call r).starts = true := by
    unfold LaunchCall.starts
    rw [hcand]
    exact hstarts
  exact launched_iff.2 ⟨hcand ▸ hatt, hs⟩

/-- **Failover is the first of the candidates.** Whatever was called
before, of the first `n + 1` calls in the same scene, `n` the number of
the eligible candidates and the calls at least the longest wait apart, one
launches a provider if and only if the first of the candidates can be
started. -/
theorem launched_iff_first_starts (earlier : List LaunchCall) (readings : List LaunchReading)
    (hearlier : ∀ e ∈ earlier, ∀ r ∈ readings, e.nowMs ≤ r.nowMs)
    (hapart : readings.IsChain fun a b => a.nowMs + 5120 ≤ b.nowMs)
    (hlength : s.eligible.length + 1 ≤ readings.length) :
    (∃ pre r post, readings = pre ++ r :: post ∧ pre.length ≤ s.eligible.length ∧
      ((machine.run (earlier ++ pre.map s.call)).tryLaunch (s.call r)).1.launched = true) ↔
      ∃ c rest, s.eligible = c :: rest ∧ c.id ≠ "" ∧ s.starts c = true := by
  constructor
  · rintro ⟨pre, r, post, -, -, hlaunched⟩
    exact first_starts_of_launched hpath hlaunched
  · rintro ⟨c, rest, hel, hid, hstarts⟩
    have hsel : ∀ r, (s.call r).Selects c.id := by
      intro r
      refine ⟨rfl, rfl, ?_, hid⟩
      rw [candidate_call hpath, hel]
      rfl
    rw [hel, List.length_cons] at hlength
    -- what an earlier failure left is over at the second call
    match readings, hlength with
    | r :: r' :: more, _ =>
      have hgap : r.nowMs + 5120 ≤ r'.nowMs := (List.isChain_cons_cons.1 hapart).1
      have hbefore : ∀ e ∈ earlier, e.nowMs ≤ r.nowMs := fun e he => hearlier e he r (by simp)
      refine ⟨[r], r', more, rfl, by rw [hel]; simp, ?_⟩
      refine launched_of_first hpath hel hstarts (attempts_of_later ?_ (hsel r') hgap)
      intro e he
      rcases List.mem_append.1 he with he | he
      · exact hbefore e he
      · obtain rfl := List.mem_singleton.1 he
        exact le_refl _

end Scene

/-- Two providers are installed, and the first of them cannot be
started. -/
def gtkScene : LaunchScene :=
  { manifests := [gtkManifest, qtManifest]
    platform := .ofFiles ["/usr/bin/bb-gtk", "/usr/bin/bb-qt"]
    startProcess := fun program _ _ => program = "/usr/bin/bb-qt" }

def gtkReadings : List LaunchReading := [{ nowMs := 0 }, { nowMs := 5120 }, { nowMs := 10240 }]

/-- **The second provider is never launched**, though it could be. -/
theorem not_launched_gtkScene :
    gtkScene.eligible.length + 1 = gtkReadings.length ∧
    gtkReadings.IsChain (fun a b => a.nowMs + 5120 ≤ b.nowMs) ∧
    (∃ c ∈ gtkScene.eligible, gtkScene.starts c = true) ∧
    ¬ ∃ pre r post, gtkReadings = pre ++ r :: post ∧ pre.length ≤ gtkScene.eligible.length ∧
      ((machine.run (pre.map gtkScene.call)).tryLaunch (gtkScene.call r)).1.launched = true := by
  refine ⟨by decide, by decide, by decide, ?_⟩
  rintro ⟨pre, r, post, -, -, hlaunched⟩
  obtain ⟨c, rest, hel, -, hstarts⟩ := first_starts_of_launched (by decide) hlaunched
  have hfirst : gtkScene.eligible.head?.all fun c => !gtkScene.starts c := by decide
  rw [hel] at hfirst
  simp [hstarts] at hfirst

/-- The same providers, where the first can be started as well. -/
def startingScene : LaunchScene := { gtkScene with startProcess := fun _ _ _ => true }

theorem launched_iff_first_starts_gtk :
    ∃ pre r post, gtkReadings = pre ++ r :: post ∧ pre.length ≤ startingScene.eligible.length ∧
      ((machine.run ([] ++ pre.map startingScene.call)).tryLaunch
        (startingScene.call r)).1.launched = true :=
  (launched_iff_first_starts (by decide) [] gtkReadings (by decide) (by decide) (by decide)).2
    ⟨_, _, rfl, by decide, rfl⟩

end ProviderLauncher

end BbAuth
