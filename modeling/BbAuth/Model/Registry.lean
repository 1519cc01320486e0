import BbAuth.Library.Table
import BbAuth.Model.World
/-!
# The provider registry

`agent::ProviderRegistry`: the table of registered UI providers and the
cached pointer to the active one. Clock readings, fresh ids, the states of
the sockets and the order in which the table is walked are arguments; the
registry is otherwise a function of its own state.
-/

namespace BbAuth

/-- `agent::UIProvider`. -/
structure UIProvider where
  id : String := ""
  name : String := ""
  kind : String := ""
  priority : ℤ := 0
  lastHeartbeatMs : ℤ := 0
  deriving DecidableEq

/-- `PROVIDER_HEARTBEAT_TIMEOUT_MS`. -/
def PROVIDER_HEARTBEAT_TIMEOUT_MS : ℤ := 15000

/-- `agent::ProviderRegistry`. -/
structure ProviderRegistry where
  uiProviders : Table Socket UIProvider := ∅
  activeProvider : Option Socket := none
  deriving DecidableEq

namespace ProviderRegistry

variable (reg : ProviderRegistry)

/-- `ProviderRegistry::registerProvider`, at the clock reading `nowMs` and
the fresh id `uuid`. -/
def registerProvider (nowMs : ℤ) (uuid : String) (socket : Socket) (msg : QJsonObject) :
    UIProvider × ProviderRegistry :=
  let provider := (reg.uiProviders.lookup socket).getD {}
  let id := if provider.id = "" then uuid else provider.id
  let name := (msg.value "name").toString
  let name := if name = "" then "unknown" else name
  let kind := (msg.value "kind").toString
  let kind := if kind = "" then name else kind
  let requestedPriority := (msg.value "priority").toInt
  let priority : ℤ :=
    if msg.contains "priority" then requestedPriority
    else if kind = "quickshell" then 100
    else if kind = "fallback" then 10
    else 50
  let provider : UIProvider :=
    { id := id, name := name, kind := kind, priority := priority, lastHeartbeatMs := nowMs }
  (provider, { reg with uiProviders := reg.uiProviders.insert socket provider })

/-- `ProviderRegistry::heartbeat`. -/
def heartbeat (nowMs : ℤ) (socket : Socket) : Option ProviderRegistry :=
  match reg.uiProviders.lookup socket with
  | none => none
  | some provider =>
    some { reg with
      uiProviders := reg.uiProviders.insert socket { provider with lastHeartbeatMs := nowMs } }

/-- `ProviderRegistry::unregisterProvider`: was the socket registered, and
the registry without it. -/
def unregisterProvider (socket : Socket) : Bool × ProviderRegistry :=
  (reg.uiProviders.contains socket, { reg with uiProviders := reg.uiProviders.erase socket })

/-- `ProviderRegistry::removeSocket`. -/
def removeSocket (socket : Socket) : Bool × ProviderRegistry := reg.unregisterProvider socket

/-- The test that prunes a table entry: the socket is not connected, or
its last heartbeat is too old. -/
def isPruned (nowMs : ℤ) (connected : Socket → Bool) (socket : Socket) (provider : UIProvider) :
    Bool :=
  let socketInvalid := !connected socket
  let stale := nowMs - provider.lastHeartbeatMs > PROVIDER_HEARTBEAT_TIMEOUT_MS
  socketInvalid || stale

/-- The election step: a candidate replaces the best so far when there is
none, or on a higher priority, or on a later heartbeat at the same one. -/
def better (best : Option (Socket × UIProvider)) (socket : Socket) (provider : UIProvider) :
    Option (Socket × UIProvider) :=
  match best with
  | none => some (socket, provider)
  | some (bestSocket, b) =>
    if provider.priority > b.priority ∨
        (provider.priority = b.priority ∧ provider.lastHeartbeatMs > b.lastHeartbeatMs) then
      some (socket, provider)
    else some (bestSocket, b)

/-- The loop of `recomputeActiveProvider` over the entries still to be
visited: prune, or let the entry stand for election. -/
def recomputeLoop (nowMs : ℤ) (connected : Socket → Bool) :
    List (Socket × UIProvider) → Table Socket UIProvider → Option (Socket × UIProvider) →
      Table Socket UIProvider × Option (Socket × UIProvider)
  | [], table, best => (table, best)
  | (socket, provider) :: rest, table, best =>
    if isPruned nowMs connected socket provider then
      recomputeLoop nowMs connected rest (table.erase socket) best
    else recomputeLoop nowMs connected rest table (better best socket provider)

/-- `ProviderRegistry::recomputeActiveProvider`, walking the table in the
order `entries`: did the active provider change, and the new registry. -/
def recomputeActiveProvider (nowMs : ℤ) (connected : Socket → Bool)
    (entries : List (Socket × UIProvider)) : Bool × ProviderRegistry :=
  let (table, best) := recomputeLoop nowMs connected entries reg.uiProviders none
  let bestSocket := best.map Prod.fst
  if reg.activeProvider = bestSocket then (false, { reg with uiProviders := table })
  else (true, { uiProviders := table, activeProvider := bestSocket })

/-- `ProviderRegistry::isAuthorized`. -/
def isAuthorized (socket : Socket) : Bool :=
  if reg.uiProviders.pairs.isEmpty then true
  else if !reg.uiProviders.contains socket then false
  else reg.activeProvider = some socket

/-- `ProviderRegistry::hasActiveProvider`. -/
def hasActiveProvider : Bool :=
  match reg.activeProvider with
  | none => false
  | some socket => reg.uiProviders.contains socket

/-- `ProviderRegistry::activeProviderInfo`. -/
def activeProviderInfo : Option UIProvider :=
  if !reg.hasActiveProvider then none
  else reg.activeProvider.bind fun socket => reg.uiProviders.lookup socket

/-- `ProviderRegistry::contains`. -/
def contains (socket : Socket) : Bool := reg.uiProviders.contains socket

/-- `ProviderRegistry::sockets`, as the table keeps them. -/
def sockets : List Socket := reg.uiProviders.keys

end ProviderRegistry

end BbAuth
