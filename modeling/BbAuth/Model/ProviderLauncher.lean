import BbAuth.Library.Machine
import BbAuth.Library.Table
import BbAuth.Model.ProviderManifest
import Mathlib.Algebra.Ring.Int.Defs
/-!
# The provider launcher

`bb::providers::ProviderLauncher`: it picks the provider to start, starts
it, and waits longer after every start that fails. The file system, the
environment and the order `std::sort` leaves equals in are the
platform's; the clock and the jitter are read once for each call.
-/

namespace BbAuth

/-- `QProcessEnvironment`. -/
abbrev QProcessEnvironment : Type := Table String String

/-- **The order of the candidates**: the higher priority first, then the
lower id. -/
def ProviderManifest.Before (a b : ProviderManifest) : Prop :=
  if a.priority ≠ b.priority then a.priority > b.priority else Text.LessThan a.id b.id

instance : DecidableRel ProviderManifest.Before := fun a b =>
  inferInstanceAs
    (Decidable (if a.priority ≠ b.priority then a.priority > b.priority
      else Text.LessThan a.id b.id))

/-- **What the launcher asks of the system.** -/
structure LaunchPlatform where
  /-- `isExecutableFile`. -/
  isExecutableFile : String → Bool
  /-- `QStandardPaths::findExecutable`. -/
  findExecutable : String → String
  /-- `QProcessEnvironment::systemEnvironment`. -/
  systemEnvironment : QProcessEnvironment
  /-- `std::sort` by `Before`; where it leaves equals is its own affair. -/
  sort : List ProviderManifest → List ProviderManifest
  sort_perm : ∀ l, (sort l).Perm l
  sort_sorted : ∀ l, (sort l).Pairwise fun a b => ¬ b.Before a

/-- `LaunchAttemptResult`. -/
structure LaunchAttemptResult where
  attempted : Bool := false
  launched : Bool := false
  providerId : String := ""
  executable : String := ""
  detail : String := ""
  deriving DecidableEq

/-- `ProviderLauncher::SelectedCandidate`. -/
structure SelectedCandidate where
  id : String := ""
  displayName : String := ""
  exec : String := ""
  args : List String := []
  env : QProcessEnvironment := ∅

/-- `ProviderLauncher::RetryState`. -/
structure RetryState where
  failures : ℕ := 0
  nextEligibleMs : ℤ := 0
  deriving DecidableEq

/-- `ProviderLauncher`. -/
structure ProviderLauncher where
  retryByProvider : Table String RetryState := ∅

/-- **A call of `tryLaunch`**: its arguments, and what it reads of the
outside while it runs. -/
structure LaunchCall where
  manifests : List ProviderManifest
  socketPath : String := ""
  reason : String := ""
  hasActiveProvider : Bool := false
  hasPendingSessions : Bool := true
  legacyFallbackPath : String := ""
  defaultFallbackPath : String := ""
  platform : LaunchPlatform
  /-- `m_nowFn()`. -/
  nowMs : ℤ
  /-- `QRandomGenerator::global()->bounded(121)`. -/
  jitter : Fin 121
  /-- `m_startProcessFn`. -/
  startProcess : String → List String → QProcessEnvironment → Bool

namespace ProviderLauncher

def BASE_BACKOFF_MS : ℤ := 250

def MAX_BACKOFF_MS : ℤ := 5000

def LEGACY_ENV_ID : String := "__legacy_env__"

def LEGACY_DEFAULT_ID : String := "__legacy_default__"

/-- `computeBackoffMs`. -/
def computeBackoffMs (failures : ℕ) (jitter : Fin 121) : ℤ :=
  let exp := BASE_BACKOFF_MS * 2 ^ min failures 8
  let cap := min exp MAX_BACKOFF_MS
  cap + jitter

/-! ## Selection -/

/-- `ProviderLauncher::resolveExecutable`. -/
def resolveExecutable (P : LaunchPlatform) (exec : String) : String :=
  if '/' ∈ exec.toList then exec else P.findExecutable exec

/-- `ProviderLauncher::mergeEnvironment`. -/
def mergeEnvironment (P : LaunchPlatform) (envObject : QJsonObject) : QProcessEnvironment :=
  envObject.foldl (fun env member => env.insert member.1 member.2.toString) P.systemEnvironment

/-- `if (!socketPath.isEmpty()) candidate.args << "--socket" << socketPath;` -/
def withSocket (args : List String) (socketPath : String) : List String :=
  if socketPath ≠ "" then args ++ ["--socket", socketPath] else args

/-- The candidate of a path that no manifest names. -/
def legacyCandidate (P : LaunchPlatform) (id displayName exec socketPath : String) :
    SelectedCandidate :=
  { id := id, displayName := displayName, exec := exec, args := withSocket [] socketPath,
    env := P.systemEnvironment }

/-- The candidate of a manifest. -/
def manifestCandidate (P : LaunchPlatform) (manifest : ProviderManifest) (socketPath : String) :
    SelectedCandidate :=
  { id := manifest.id
    displayName := manifest.name
    exec := resolveExecutable P manifest.exec
    args := withSocket manifest.args socketPath
    env := mergeEnvironment P manifest.env }

/-- The test of the loop in `selectCandidate`: the manifest's executable is
there. -/
def isLaunchable (P : LaunchPlatform) (manifest : ProviderManifest) : Bool :=
  let resolvedExec := resolveExecutable P manifest.exec
  !(resolvedExec = "" || !P.isExecutableFile resolvedExec)

/-- `ProviderLauncher::selectCandidate`: the candidate, and
`selectionError`. -/
def selectCandidate (P : LaunchPlatform) (manifests : List ProviderManifest)
    (legacyFallbackPath defaultFallbackPath socketPath : String) : SelectedCandidate × String :=
  let legacyEnvPath := Text.trimmedText legacyFallbackPath
  if legacyEnvPath ≠ "" then
    if !P.isExecutableFile legacyEnvPath then
      ({}, "skip: BB_AUTH_FALLBACK_PATH is not executable: " ++ legacyEnvPath)
    else (legacyCandidate P LEGACY_ENV_ID "legacy-env" legacyEnvPath socketPath, "")
  else
    let autostart := P.sort (manifests.filter ProviderManifest.autostart)
    match autostart.find? (isLaunchable P) with
    | some manifest => (manifestCandidate P manifest socketPath, "")
    | none =>
      let fallbackPath := Text.trimmedText defaultFallbackPath
      if fallbackPath = "" || !P.isExecutableFile fallbackPath then
        ({}, "skip: no launchable provider candidate")
      else (legacyCandidate P LEGACY_DEFAULT_ID "legacy-default" fallbackPath socketPath, "")

/-! ## Starting -/

variable (l : ProviderLauncher)

/-- `ProviderLauncher::canAttempt`, with its `detail`. -/
def canAttempt (id : String) (nowMs : ℤ) : Bool × String :=
  match l.retryByProvider.lookup id with
  | none => (true, "")
  | some state =>
    if nowMs < state.nextEligibleMs then
      (false, "skip: launch throttled until " ++ toString state.nextEligibleMs)
    else (true, "")

/-- `ProviderLauncher::markSuccess`. -/
def markSuccess (id : String) : ProviderLauncher :=
  { l with retryByProvider := l.retryByProvider.erase id }

/-- `ProviderLauncher::markFailure`. -/
def markFailure (id : String) (nowMs : ℤ) (jitter : Fin 121) : ProviderLauncher :=
  let state := (l.retryByProvider.lookup id).getD {}
  let failures := state.failures + 1
  { l with
    retryByProvider := l.retryByProvider.insert id
      { failures := failures, nextEligibleMs := nowMs + computeBackoffMs failures jitter } }

/-- `ProviderLauncher::tryLaunch`. -/
def tryLaunch (call : LaunchCall) : LaunchAttemptResult × ProviderLauncher :=
  if call.hasActiveProvider || !call.hasPendingSessions then
    ({ detail := "skip: no launch required" }, l)
  else
    let (candidate, selectionError) := selectCandidate call.platform call.manifests
      call.legacyFallbackPath call.defaultFallbackPath call.socketPath
    if candidate.id = "" then ({ detail := selectionError }, l)
    else
      let (eligible, throttleReason) := l.canAttempt candidate.id call.nowMs
      if !eligible then
        ({ providerId := candidate.id, executable := candidate.exec, detail := throttleReason }, l)
      else if !call.startProcess candidate.exec candidate.args candidate.env then
        ({ attempted := true
           providerId := candidate.id
           executable := candidate.exec
           detail :=
             "launch failed for '" ++ candidate.displayName ++ "' (" ++ call.reason ++ ")" },
          l.markFailure candidate.id call.nowMs call.jitter)
      else
        ({ attempted := true
           launched := true
           providerId := candidate.id
           executable := candidate.exec
           detail := "launched '" ++ candidate.displayName ++ "' (" ++ call.reason ++ ")" },
          l.markSuccess candidate.id)

/-- **The launcher as a machine** of its calls. -/
def machine : Machine ProviderLauncher LaunchCall where
  init := {}
  step l call := (l.tryLaunch call).2

end ProviderLauncher

end BbAuth
