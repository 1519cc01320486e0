import BbAuth.Model.Agent
import BbAuth.Model.ProviderDiscovery
import BbAuth.Model.ProviderLauncher
/-!
# Summoning a provider

`CAgent::ensureFallbackUiRunning` with what it calls: the probe of the lock
file, the wait after the last launch, discovery and the launcher. The other
side of the lock file is `main` of the fallback UI, which holds it for as
long as its window may be shown. `Summoning` puts the daemon and any number
of such processes around the one lock.
-/

namespace BbAuth

/-- **A call of `ensureFallbackUiRunning`**: the state of the daemon it
looks at, and what it reads of the outside while it runs. -/
structure SummonsCall where
  reason : String := ""
  hasActiveProvider : Bool := false
  /-- `!m_sessionStore.empty()`. -/
  hasSessions : Bool := true
  socketPath : String := ""
  /-- `m_providerSearchDirs`. -/
  searchDirs : List String := []
  discovery : DiscoveryPlatform
  /-- `BB_AUTH_FALLBACK_PATH`. -/
  legacyOverride : String := ""
  /-- `QCoreApplication::applicationDirPath() + "/bb-auth-fallback"`. -/
  legacyDefaultPath : String := ""
  platform : LaunchPlatform
  /-- `QDateTime::currentMSecsSinceEpoch()`. -/
  nowMs : ℤ
  /-- The launcher's own reading of the clock. -/
  launchNowMs : ℤ
  jitter : Fin 121
  startProcess : String → List String → QProcessEnvironment → Bool

/-- The call of `tryLaunch`. -/
def SummonsCall.launchCall (call : SummonsCall) : LaunchCall :=
  { manifests := (ProviderDiscovery.discover call.discovery call.searchDirs).manifests
    socketPath := call.socketPath
    reason := call.reason
    hasActiveProvider := call.hasActiveProvider
    hasPendingSessions := call.hasSessions
    legacyFallbackPath := call.legacyOverride
    defaultFallbackPath := call.legacyDefaultPath
    platform := call.platform
    nowMs := call.launchNowMs
    jitter := call.jitter
    startProcess := call.startProcess }

/-- What the daemon keeps of its launches. -/
structure Summoner where
  providerLauncher : ProviderLauncher := {}
  lastFallbackLaunchMs : ℤ := 0

namespace Summoner

variable (s : Summoner) (call : SummonsCall)

/-- The part of `CAgent::ensureFallbackUiRunning` that follows the probe. -/
def search : LaunchAttemptResult × Summoner :=
  if call.nowMs - s.lastFallbackLaunchMs < FALLBACK_LAUNCH_COOLDOWN_MS then ({}, s)
  else
    let (launch, providerLauncher) := s.providerLauncher.tryLaunch call.launchCall
    (launch,
      { providerLauncher := providerLauncher
        lastFallbackLaunchMs :=
          if launch.launched then call.nowMs else s.lastFallbackLaunchMs })

/-- `CAgent::ensureFallbackUiRunning`, where the lock is held by another
process or not. -/
def ensureFallbackUiRunning (locked : Bool) : LaunchAttemptResult × Summoner :=
  if call.hasActiveProvider then ({}, s)
  else if locked then ({}, s)
  else s.search call

/-- **The summoner as a machine** of its calls, each with what the probe
finds. -/
def machine : Machine Summoner (SummonsCall × Bool) where
  init := {}
  step s i := (s.ensureFallbackUiRunning i.1 i.2).2

end Summoner

/-! ## Around the lock file -/

/-- Who holds `bb-auth-fallback.lock`. -/
inductive Summoning.Holder where
  | daemon
  | process (pid : ℕ)
  deriving DecidableEq

/-- Where the daemon is in `ensureFallbackUiRunning`. -/
inductive Summoning.Phase where
  | idle
  /-- It has taken the lock. -/
  | probing (call : SummonsCall)
  /-- It has released it. -/
  | searching (call : SummonsCall)

/-- Where a process is in `main` of the fallback UI. -/
inductive Summoning.Ui where
  /-- Before `tryLock`. -/
  | starting
  /-- In `app.exec()`. -/
  | running
  /-- After `unlock`. -/
  | leaving
  deriving DecidableEq

/-- **The daemon, the processes of the fallback UI, and the lock file.** The
lock of a process that is dead is stale, and counts for free. -/
structure Summoning where
  summoner : Summoner := {}
  phase : Summoning.Phase := .idle
  lock : Option Summoning.Holder := none
  processes : Table ℕ Summoning.Ui := ∅
  nextPid : ℕ := 0

namespace Summoning

/-- What happens next, and to whom. -/
inductive Input where
  /-- The daemon calls `ensureFallbackUiRunning`. -/
  | call (c : SummonsCall)
  /-- It goes on. -/
  | resume
  /-- Somebody starts `bb-auth-fallback`. -/
  | start
  /-- A process is at `tryLock`. -/
  | tryLock (pid : ℕ)
  /-- Its event loop has ended: `unlock`. -/
  | unlock (pid : ℕ)
  /-- `std::_Exit`. -/
  | quit (pid : ℕ)
  /-- It dies. -/
  | kill (pid : ℕ)

variable (isFallback : String → Bool) (s : Summoning)

/-- A process of the fallback UI is started. -/
def spawn : Summoning :=
  { s with processes := s.processes.insert s.nextPid .starting, nextPid := s.nextPid + 1 }

/-- The holder lets go of the lock. -/
def release (holder : Holder) : Summoning :=
  if s.lock = some holder then { s with lock := none } else s

/-- The daemon searches a provider; what it starts may be the fallback UI. -/
def launch (c : SummonsCall) : Summoning :=
  let (result, summoner) := s.summoner.search c
  let s := { s with summoner := summoner, phase := .idle }
  if result.launched && isFallback result.executable then s.spawn else s

/-- One of these. -/
def step : Input → Summoning
  | .call c =>
    match s.phase with
    | .idle =>
      if c.hasActiveProvider then s
      else if s.lock.isSome then s
      else { s with phase := .probing c, lock := some .daemon }
    | _ => s
  | .resume =>
    match s.phase with
    | .idle => s
    | .probing c => { s.release .daemon with phase := .searching c }
    | .searching c => s.launch isFallback c
  | .start => s.spawn
  | .tryLock pid =>
    if s.processes.lookup pid = some .starting then
      if s.lock.isSome then { s with processes := s.processes.erase pid }
      else { s with processes := s.processes.insert pid .running, lock := some (.process pid) }
    else s
  | .unlock pid =>
    if s.processes.lookup pid = some .running then
      { s.release (.process pid) with processes := s.processes.insert pid .leaving }
    else s
  | .quit pid =>
    if s.processes.lookup pid = some .leaving then
      { s with processes := s.processes.erase pid }
    else s
  | .kill pid => { s.release (.process pid) with processes := s.processes.erase pid }

/-- **The whole as a machine.** -/
def machine : Machine Summoning Input where
  init := {}
  step := step isFallback

/-- A process runs its window. -/
def Running (pid : ℕ) : Prop := s.processes.lookup pid = some .running

instance (pid : ℕ) : Decidable (s.Running pid) := inferInstanceAs (Decidable (_ = _))

/-- The daemon is between its `tryLock` and its `unlock`. -/
def Probing : Prop := ∃ c, s.phase = .probing c

end Summoning

end BbAuth
