import BbAuth.Model.Json
import Mathlib.Data.List.Perm.Basic
/-!
# What the daemon reads from outside

The daemon asks the world for the time, for fresh uuids, for the process
behind a pid, and walks its hash tables in an order Qt does not promise.
`World` collects these as functions of the number of the question, so
that every answer may differ from the last one, and a theorem over all
worlds is a theorem over all answers.
-/

namespace BbAuth

/-- A `QLocalSocket*`. Only its identity matters. -/
abbrev Socket : Type := ℕ

/-- A `pid_t`; `-1` when the peer's credentials cannot be read. -/
abbrev Pid : Type := ℤ

/-- What `RequestContextHelper::resolveRequestorFromSubject` says of a
process, in the fields a session context shows. -/
structure ActorInfo where
  displayName : String := ""
  iconName : String := ""
  fallbackLetter : String := ""
  fallbackKey : String := ""
  deriving DecidableEq

/-- **Every answer the daemon gets from outside itself.** -/
structure World where
  /-- `QDateTime::currentMSecsSinceEpoch`: any reading at all. -/
  currentMSecs : ℕ → ℤ
  /-- `QUuid::createUuid().toString(QUuid::WithoutBraces)`. -/
  createUuid : ℕ → String
  createUuid_ne_empty : ∀ n, createUuid n ≠ ""
  createUuid_injective : Function.Injective createUuid
  /-- The order in which a hash table is walked. -/
  walk : ℕ → {α : Type} → List α → List α
  walk_perm : ∀ n {α : Type} (l : List α), (walk n l).Perm l
  /-- `readProc` and, where it finds the process, the actor resolved from it. -/
  readActor : ℕ → Pid → Option ActorInfo
  /-- Does `PolkitQt1::Agent::Session::cancel` emit `completed(false)`
  before it returns? -/
  cancelCompletes : ℕ → Bool
  /-- Is the lock file of the fallback UI held by another process? -/
  fallbackLocked : ℕ → Bool
  /-- Does `ProviderLauncher::tryLaunch` launch a provider? -/
  launches : ℕ → Bool
  /-- `readBootstrapState`. -/
  bootstrapState : ℕ → QJsonObject

namespace World

variable (W : World) {α : Type} {n : ℕ} {l : List α} {x : α}

@[simp] theorem mem_walk : x ∈ W.walk n l ↔ x ∈ l := (W.walk_perm n l).mem_iff

theorem nodup_walk : (W.walk n l).Nodup ↔ l.Nodup := (W.walk_perm n l).nodup_iff

/-- A world that answers at once: the clock reads `clock`, tables are
walked as they are kept, no process is readable, and `cancel` completes
as `cancels` says. -/
def plain (clock : ℕ → ℤ) (cancels : Bool) : World where
  currentMSecs := clock
  createUuid n := String.ofList (List.replicate (n + 1) 'u')
  createUuid_ne_empty n h := by
    have := congrArg String.toList h
    simp [List.replicate_succ] at this
  createUuid_injective m n h := by
    have := congrArg (fun s => s.toList.length) h
    simpa using this
  walk _ _ l := l
  walk_perm _ _ l := List.Perm.refl l
  readActor _ _ := none
  cancelCompletes _ := cancels
  fallbackLocked _ := true
  launches _ := false
  bootstrapState _ := []

end World

end BbAuth
