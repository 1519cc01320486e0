import BbAuth.Library.Machine
import BbAuth.Provider.Deal
/-!
# The authorization boundary

Every deal leaves the registry elected: the edits of the table are
followed by an election, and the rest reaches the registry through
services that keep it so. So in every state between two handlers the
active provider is registered and is the one authorized socket, unless no
provider is registered at all. A response or a cancellation from any other
socket is turned away.
-/

namespace BbAuth

open ProviderRegistry

namespace Daemon

variable (W : World) (d : Daemon)

/-- The registry of a daemon is elected. -/
def Elected : Prop := d.agent.providerRegistry.Elected

variable {d}

theorem Elected.step (h : d.Elected) (i : Input) : (d.step W i).Elected := by
  unfold Daemon.step
  split
  · exact h
  · exact (deal_handle h i).elected h

/-- **The registry is elected in every state between two handlers.** -/
theorem elected_run (ins : List Input) : ((machine W).run ins).Elected := by
  have h0 : Elected ({} : Daemon) :=
    ⟨fun s hs => by simp at hs, fun _ => rfl⟩
  exact Machine.invariant (I := Elected) h0 (fun d i h => h.step W i) ins

/-! ## The boundary -/

/-- **A message is turned away**: the sessions, the pending requests and
the polkit states stay, and what goes out is an error to its sender. -/
structure TurnsAway (d : Daemon) (socket : Socket) (d' : Daemon) : Prop where
  sessionStore : d'.agent.sessionStore = d.agent.sessionStore
  keyringManager : d'.keyringManager = d.keyringManager
  pinentryManager : d'.pinentryManager = d.pinentryManager
  listener : d'.listener = d.listener
  outputs : ∃ os, d'.agent.log = d.agent.log ++ os ∧
    ∀ o ∈ os, o = .sent socket (error "Not active UI provider")

theorem turnsAway_sendJson (d : Daemon) (socket : Socket) :
    TurnsAway d socket (d.sendJson socket (error "Not active UI provider")) where
  sessionStore := Agent.sendJson_sessionStore _ _ _
  keyringManager := rfl
  pinentryManager := rfl
  listener := rfl
  outputs := by
    simp only [sendJson, withAgent, Agent.sendJson]
    split
    · exact ⟨_, rfl, fun o ho => List.mem_singleton.1 ho⟩
    · exact ⟨[], (List.append_nil _).symm, fun o ho => absurd ho List.not_mem_nil⟩

/-- **The authorization boundary.** Where a provider is registered, the
active one is, and it alone is authorized; where none is, there is no
active provider and every socket is authorized. A response or a
cancellation from an unauthorized socket is turned away. -/
theorem authorization_boundary (ins : List Input) :
    let d := (machine W).run ins
    let reg := d.agent.providerRegistry
    ((∃ s, s ∈ reg.uiProviders) → ∃ s, reg.activeProvider = some s ∧ s ∈ reg.uiProviders ∧
      ∀ socket, reg.isAuthorized socket = true ↔ socket = s) ∧
    ((¬ ∃ s, s ∈ reg.uiProviders) → reg.activeProvider = none ∧
      ∀ socket, reg.isAuthorized socket = true) ∧
    ∀ socket msg, reg.isAuthorized socket = false →
      TurnsAway d socket (d.dispatch W .sessionRespond socket msg) ∧
        TurnsAway d socket (d.dispatch W .sessionCancel socket msg) := by
  intro d reg
  have he : reg.Elected := elected_run W ins
  refine ⟨fun ⟨t, ht⟩ => ?_, fun hn => ?_, fun socket msg hs => ⟨?_, ?_⟩⟩
  · cases ha : reg.activeProvider with
    | none =>
        rw [he.elected ha] at ht
        exact absurd ht (AList.notMem_empty t)
    | some s =>
        refine ⟨s, rfl, Table.mem_iff_exists.2 (he.registered s ha), fun socket => ?_⟩
        rw [he.isAuthorized_iff, ha]
        simp [eq_comm]
  · have ha : reg.activeProvider = none := by
      rw [Option.eq_none_iff_forall_ne_some]
      exact fun s hs => hn ⟨s, Table.mem_iff_exists.2 (he.registered s hs)⟩
    exact ⟨ha, fun socket => he.isAuthorized_iff.2 (.inl ha)⟩
  · have hr : d.respond W socket msg = (error "Not active UI provider", d) := by
      simp only [respond, Agent.isAuthorizedProviderSocket]
      rw [show d.agent.providerRegistry.isAuthorized socket = false from hs]
      rfl
    simp only [dispatch, handleRespond, hr]
    exact turnsAway_sendJson d socket
  · have hc : d.cancel W socket msg = (error "Not active UI provider", d) := by
      simp only [cancel, Agent.isAuthorizedProviderSocket]
      rw [show d.agent.providerRegistry.isAuthorized socket = false from hs]
      rfl
    simp only [dispatch, handleCancel, hc]
    exact turnsAway_sendJson d socket

end Daemon

end BbAuth
