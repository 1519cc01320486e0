import BbAuth.Provider.Wiring
/-!
# The active provider has the highest priority

An election is won by the highest priority among those it does not prune.
Between two elections the table loses entries, or has a heartbeat renewed,
and neither lets anybody overtake. So in every state between two handlers
nobody outranks the active provider, and a provider that outranks all the
others is the one that may answer.
-/

namespace BbAuth

open Agent

namespace ProviderRegistry

variable {reg : ProviderRegistry} {nowMs : ℤ} {connected : Socket → Bool}
  {entries : List (Socket × UIProvider)} {s : Socket}

/-- **Crowned**: nobody in the table outranks the active provider. -/
def Crowned (reg : ProviderRegistry) : Prop :=
  ∀ t p, reg.activeProvider = some t → reg.uiProviders.lookup t = some p →
    ∀ u q, reg.uiProviders.lookup u = some q → q.priority ≤ p.priority

/-- **The socket outranks** every other provider. -/
def Outranks (reg : ProviderRegistry) (s : Socket) : Prop :=
  ∃ p, reg.uiProviders.lookup s = some p ∧
    ∀ t q, reg.uiProviders.lookup t = some q → t ≠ s → q.priority < p.priority

theorem crowned_recomputeActiveProvider (hperm : entries.Perm reg.uiProviders.pairs) :
    (reg.recomputeActiveProvider nowMs connected entries).2.Crowned := by
  intro t p ha hp u q hq
  obtain ⟨p', hlead⟩ := elects_iff.1 ha
  obtain ⟨hp, -⟩ := (lookup_recomputeActiveProvider hperm).1 hp
  obtain ⟨hq, hkept⟩ := (lookup_recomputeActiveProvider hperm).1 hq
  -- the leader is the entry of the table
  have hp' : reg.uiProviders.lookup t = some p' :=
    Table.mem_pairs.1 (hperm.mem_iff.1 (List.mem_filter.1 hlead.mem).1)
  obtain rfl : p' = p := Option.some.inj (hp'.symm.trans hp)
  have hu : (u, q) ∈ survivors nowMs connected entries :=
    List.mem_filter.2 ⟨hperm.mem_iff.2 (Table.mem_pairs.2 hq), by simp [hkept]⟩
  have hbeat := hlead.not_beaten Preferred.asymm (u, q) hu
  unfold Preferred at hbeat
  dsimp only at hbeat
  omega

/-- Who outranks the others is active. -/
theorem Crowned.active (hc : reg.Crowned) (he : reg.Elected) (h : reg.Outranks s) :
    reg.activeProvider = some s := by
  obtain ⟨p, hp, hlt⟩ := h
  cases ha : reg.activeProvider with
  | none =>
      rw [he.elected ha] at hp
      simp at hp
  | some t =>
      obtain ⟨q, hq⟩ := he.registered t ha
      by_contra hne
      have hts : t ≠ s := fun h => hne (by rw [h])
      have hle := hc t q ha hq s p hp
      have hlt := hlt t q hq hts
      omega

/-- The table may lose entries. -/
theorem Crowned.of_lookup {reg' : ProviderRegistry} (h : reg.Crowned)
    (ha : reg'.activeProvider = reg.activeProvider)
    (hl : ∀ t p, reg'.uiProviders.lookup t = some p →
      ∃ q, reg.uiProviders.lookup t = some q ∧ q.priority = p.priority) : reg'.Crowned := by
  intro t p hat hp u q hq
  obtain ⟨p', hp', hpp⟩ := hl t p hp
  obtain ⟨q', hq', hqq⟩ := hl u q hq
  rw [← hpp, ← hqq]
  exact h t p' (ha ▸ hat) hp' u q' hq'

/-- Who outranks the others still does when the table has lost some of
them. -/
theorem Outranks.of_lookup {reg' : ProviderRegistry} (h : reg.Outranks s)
    (hs : s ∈ reg'.uiProviders)
    (hl : ∀ t p, reg'.uiProviders.lookup t = some p →
      ∃ q, reg.uiProviders.lookup t = some q ∧ q.priority = p.priority) : reg'.Outranks s := by
  obtain ⟨p, hp, hlt⟩ := h
  obtain ⟨p', hp'⟩ := Table.mem_iff_exists.1 hs
  obtain ⟨r, hr, hrp⟩ := hl s p' hp'
  obtain rfl : p = r := Option.some.inj (hp.symm.trans hr)
  refine ⟨p', hp', fun t q hq hne => ?_⟩
  obtain ⟨q', hq', hqq⟩ := hl t q hq
  rw [← hrp, ← hqq]
  exact hlt t q' hq' hne

end ProviderRegistry

open ProviderRegistry

namespace Agent

variable {W : World} {a b : Agent}

theorem crowned_recomputeAndEmit (W : World) (a : Agent) :
    (a.recomputeAndEmit W).providerRegistry.Crowned := by
  rw [recomputeAndEmit_providerRegistry]
  exact crowned_recomputeActiveProvider (W.walk_perm _ _)

theorem Talks.crowned (h : Talks W a b) (ha : a.providerRegistry.Crowned) :
    b.providerRegistry.Crowned := by
  induction h with
  | refl => exact ha
  | tail _ hstep ih =>
      cases hstep with
      | still hs => exact hs.providerRegistry ▸ ih
      | elected he => exact he ▸ crowned_recomputeAndEmit W _

end Agent

namespace Daemon

variable {W : World} {d : Daemon} {a b : Agent} {i : Input}

/-- An edit changes no priority, and who is active stays so. -/
theorem Edit.priorities (h : Edit a i b) (t : Socket) (p : UIProvider)
    (hp : b.providerRegistry.uiProviders.lookup t = some p) :
    ∃ q, a.providerRegistry.uiProviders.lookup t = some q ∧ q.priority = p.priority := by
  cases h with
  | connected | closing => exact ⟨p, hp, rfl⟩
  | heartbeat socket provider nowMs hpr =>
      simp only [setRegistry_providerRegistry, Table.lookup_insert] at hp
      split at hp
      next heq =>
        cases hp
        exact ⟨provider, heq ▸ hpr, rfl⟩
      · exact ⟨p, hp, rfl⟩
  | unregistered | disconnected =>
      simp only [leave, removeSocket, unregisterProvider, setRegistry_providerRegistry,
        Table.lookup_erase] at hp
      split at hp
      · cases hp
      · exact ⟨p, hp, rfl⟩

theorem Deal.crowned (h : Deal W d i b) (hd : d.agent.providerRegistry.Crowned) :
    b.providerRegistry.Crowned := by
  cases h with
  | talks h => exact h.crowned hd
  | edited a hedit h he =>
      exact h.crowned (hd.of_lookup hedit.said.2.2.2 fun t p hp => hedit.priorities t p hp)
  | refused socket msg hi hu h =>
      rw [h, sendJson_providerRegistry]
      exact hd
  | subscribed socket msg hi hv h =>
      rw [h, handleSubscribe_providerRegistry]
      exact hd
  | registered socket msg hi ht hv h =>
      have hc : (enterElected W d.agent socket msg).providerRegistry.Crowned :=
        crowned_recomputeActiveProvider (W.walk_perm _ _)
      rw [h, handleUIRegister_agent]
      split
      · rw [emitProviderStatus_providerRegistry, sendJson_providerRegistry]
        exact hc
      · rw [sendJson_providerRegistry]
        exact hc

/-- **Nobody outranks the active provider**, in every state between two
handlers. -/
theorem crowned_run (W : World) (ins : List Input) :
    ((machine W).run ins).agent.providerRegistry.Crowned := by
  refine Machine.history_invariant (J := fun ins =>
    ((machine W).run ins).agent.providerRegistry.Crowned) ?_ (fun ins i h => ?_) ins
  · intro t p ht
    cases ht
  · rw [Machine.run_snoc]
    change (((machine W).run ins).step W i).agent.providerRegistry.Crowned
    unfold step
    split
    · exact h
    · exact (deal_handle (elected_run W ins) i).crowned h

/-- **Priority decides who may answer.** In every state between two
handlers nobody in the table outranks the active provider, and a socket
that outranks every other is authorized, and no other is: a heartbeat only
breaks ties. -/
theorem priority_decides (W : World) (ins : List Input) :
    let reg := ((machine W).run ins).agent.providerRegistry
    (∀ t p, reg.activeProvider = some t → reg.uiProviders.lookup t = some p →
      ∀ u q, reg.uiProviders.lookup u = some q → q.priority ≤ p.priority) ∧
    ∀ s, reg.Outranks s → ∀ socket, reg.isAuthorized socket = true ↔ socket = s := by
  intro reg
  have hc : reg.Crowned := crowned_run W ins
  have he : reg.Elected := elected_run W ins
  refine ⟨hc, fun s hs socket => ?_⟩
  rw [he.isAuthorized_iff, hc.active he hs]
  simp [eq_comm]

end Daemon

end BbAuth
