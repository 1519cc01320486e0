import BbAuth.Library.Machine
import BbAuth.Provider.Election
/-!
# The best provider, and the ones that stay

After an election the table holds the providers that are connected and
were heard of in the last fifteen seconds, and the active one is a best of
them, whatever the order of the walk. Over a run of registrations,
heartbeats and sweeps a provider stays in the table as long as every sweep
finds it connected and its last word recent enough.
-/

namespace BbAuth

namespace ProviderRegistry

variable {reg : ProviderRegistry} {nowMs : ℤ} {connected : Socket → Bool}
variable {entries : List (Socket × UIProvider)} {socket s : Socket} {p : UIProvider}

/-! ## One election -/

theorem isPruned_eq_false :
    isPruned nowMs connected s p = false ↔
      connected s = true ∧ nowMs - p.lastHeartbeatMs ≤ 15000 := by
  simp [isPruned, PROVIDER_HEARTBEAT_TIMEOUT_MS]

/-- The survivors are what the table holds afterwards. -/
theorem mem_survivors (hperm : entries.Perm reg.uiProviders.pairs) :
    (s, p) ∈ survivors nowMs connected entries ↔
      (reg.recomputeActiveProvider nowMs connected entries).2.uiProviders.lookup s = some p := by
  rw [lookup_recomputeActiveProvider hperm, survivors, List.mem_filter, hperm.mem_iff,
    Table.mem_pairs, Bool.not_eq_true']

/-- **The active provider is a best one**: no provider of the table has a
higher priority, and none of its priority was heard of later. -/
theorem best_of_activeProvider (hperm : entries.Perm reg.uiProviders.pairs)
    (hs : (reg.recomputeActiveProvider nowMs connected entries).2.activeProvider = some s) :
    ∃ p, (reg.recomputeActiveProvider nowMs connected entries).2.uiProviders.lookup s = some p ∧
      ∀ s' p', (reg.recomputeActiveProvider nowMs connected entries).2.uiProviders.lookup s' =
        some p' → p'.priority < p.priority ∨
          p'.priority = p.priority ∧ p'.lastHeartbeatMs ≤ p.lastHeartbeatMs := by
  obtain ⟨p, hlead⟩ := elects_iff.1 hs
  refine ⟨p, (mem_survivors hperm).1 hlead.mem, fun s' p' hp' => ?_⟩
  have hnot := hlead.not_beaten Preferred.asymm (s', p') ((mem_survivors hperm).2 hp')
  unfold Preferred at hnot
  dsimp only at hnot
  omega

/-- There is no active provider only where the table is empty. -/
theorem activeProvider_eq_none_iff (hperm : entries.Perm reg.uiProviders.pairs) :
    (reg.recomputeActiveProvider nowMs connected entries).2.activeProvider = none ↔
      ∀ s, (reg.recomputeActiveProvider nowMs connected entries).2.uiProviders.lookup s =
        none := by
  rw [elects_none_iff, List.eq_nil_iff_forall_not_mem]
  constructor
  · intro h s
    rw [Option.eq_none_iff_forall_ne_some]
    exact fun p hp => h (s, p) ((mem_survivors hperm).2 hp)
  · rintro h ⟨s, p⟩ hmem
    rw [mem_survivors hperm, h s] at hmem
    cases hmem

/-- Two walks keep the same providers, and what they elect is tied. -/
theorem tied_of_activeProvider {entries' : List (Socket × UIProvider)} {s' : Socket}
    (hperm : entries.Perm reg.uiProviders.pairs) (hperm' : entries'.Perm reg.uiProviders.pairs)
    (hs : (reg.recomputeActiveProvider nowMs connected entries).2.activeProvider = some s)
    (hs' : (reg.recomputeActiveProvider nowMs connected entries').2.activeProvider = some s') :
    ∃ p p', reg.uiProviders.lookup s = some p ∧ reg.uiProviders.lookup s' = some p' ∧
      p.priority = p'.priority ∧ p.lastHeartbeatMs = p'.lastHeartbeatMs := by
  obtain ⟨p, hp, hbest⟩ := best_of_activeProvider hperm hs
  obtain ⟨p', hp', hbest'⟩ := best_of_activeProvider hperm' hs'
  rw [lookup_recomputeActiveProvider hperm] at hp
  rw [lookup_recomputeActiveProvider hperm'] at hp'
  have h₁ := hbest s' p' ((lookup_recomputeActiveProvider hperm).2 hp')
  have h₂ := hbest' s p ((lookup_recomputeActiveProvider hperm').2 hp)
  exact ⟨p, p', hp.1, hp'.1, by omega, by omega⟩

/-! ## The registry as a machine -/

/-- **A call of the registry**, with what it reads of the clock, of the
sockets and of the order of the table. -/
inductive Call where
  | registerProvider (nowMs : ℤ) (uuid : String) (socket : Socket) (msg : QJsonObject)
  | heartbeat (nowMs : ℤ) (socket : Socket)
  | unregisterProvider (socket : Socket)
  | removeSocket (socket : Socket)
  /-- Also `pruneStale`. -/
  | recomputeActiveProvider (nowMs : ℤ) (connected : Socket → Bool) (tick : ℕ)

/-- What a call leaves of the registry. -/
def call (W : World) (reg : ProviderRegistry) : Call → ProviderRegistry
  | .registerProvider nowMs uuid socket msg => (reg.registerProvider nowMs uuid socket msg).2
  | .heartbeat nowMs socket => (reg.heartbeat nowMs socket).getD reg
  | .unregisterProvider socket => (reg.unregisterProvider socket).2
  | .removeSocket socket => (reg.removeSocket socket).2
  | .recomputeActiveProvider nowMs connected tick =>
    (reg.recomputeActiveProvider nowMs connected (W.walk tick reg.uiProviders.pairs)).2

/-- **The registry as a machine** of its calls. -/
def machine (W : World) : Machine ProviderRegistry Call where
  init := {}
  step := call W

/-- The last word of a provider, after one more call. -/
def nextBeat (s : Socket) (last : Option ℤ) : Call → Option ℤ
  | .registerProvider nowMs _ socket _ => if socket = s then some nowMs else last
  | .heartbeat nowMs socket => if socket = s then last.map fun _ => nowMs else last
  | .unregisterProvider socket => if socket = s then none else last
  | .removeSocket socket => if socket = s then none else last
  | .recomputeActiveProvider .. => last

/-- **The last registration or heartbeat** of a provider that has not left:
the clock reading it was taken at. -/
def lastBeat (s : Socket) (ins : List Call) : Option ℤ := ins.foldl (nextBeat s) none

/-- **A provider is attended to** throughout the run: every sweep finds it
connected, and its last registration or heartbeat at most fifteen seconds
back. -/
def Attended (s : Socket) (ins : List Call) : Prop :=
  ∀ pre nowMs connected tick, pre ++ [.recomputeActiveProvider nowMs connected tick] <+: ins →
    ∀ last, lastBeat s pre = some last → connected s = true ∧ nowMs - last ≤ 15000

/-- When the registry last heard of a provider it holds. -/
def heard (reg : ProviderRegistry) (s : Socket) : Option ℤ :=
  (reg.uiProviders.lookup s).map UIProvider.lastHeartbeatMs

variable {W : World} {ins pre : List Call}

@[simp] theorem lastBeat_snoc (c : Call) :
    lastBeat s (ins ++ [c]) = nextBeat s (lastBeat s ins) c := by
  simp [lastBeat]

/-! ## One call -/

theorem heard_eq_some {last : ℤ} :
    reg.heard s = some last ↔ ∃ p, reg.uiProviders.lookup s = some p ∧ p.lastHeartbeatMs = last :=
  Option.map_eq_some_iff

/-- What a sweep keeps of a provider. -/
theorem heard_recompute (hperm : entries.Perm reg.uiProviders.pairs) {last : ℤ} :
    (reg.recomputeActiveProvider nowMs connected entries).2.heard s = some last ↔
      reg.heard s = some last ∧ connected s = true ∧ nowMs - last ≤ 15000 := by
  rw [heard_eq_some, heard_eq_some]
  constructor
  · rintro ⟨p, hp, rfl⟩
    rw [lookup_recomputeActiveProvider hperm, isPruned_eq_false] at hp
    exact ⟨⟨p, hp.1, rfl⟩, hp.2⟩
  · rintro ⟨⟨p, hp, rfl⟩, hkeep⟩
    exact ⟨p, (lookup_recomputeActiveProvider hperm).2 ⟨hp, isPruned_eq_false.2 hkeep⟩, rfl⟩

/-- Every call but a sweep leaves of a provider what it says. -/
theorem heard_call (reg : ProviderRegistry) {c : Call}
    (hc : ∀ nowMs connected tick, c ≠ .recomputeActiveProvider nowMs connected tick) :
    (call W reg c).heard s = nextBeat s (reg.heard s) c := by
  unfold heard
  cases c with
  | registerProvider nowMs uuid socket msg =>
    by_cases hs : socket = s
    · subst hs
      simp [call, registerProvider, nextBeat]
    · simp [call, registerProvider, nextBeat, hs, Ne.symm hs]
  | heartbeat nowMs socket =>
    cases hlook : reg.uiProviders.lookup socket with
    | none =>
      by_cases hs : socket = s
      · subst hs
        simp [call, heartbeat, nextBeat, hlook]
      · simp [call, heartbeat, nextBeat, hs, hlook]
    | some p =>
      by_cases hs : socket = s
      · subst hs
        simp [call, heartbeat, nextBeat, hlook]
      · simp [call, heartbeat, nextBeat, hs, Ne.symm hs, hlook]
  | unregisterProvider socket =>
    by_cases hs : socket = s
    · subst hs
      simp [call, unregisterProvider, nextBeat]
    · simp [call, unregisterProvider, nextBeat, hs, Ne.symm hs]
  | removeSocket socket =>
    by_cases hs : socket = s
    · subst hs
      simp [call, removeSocket, unregisterProvider, nextBeat]
    · simp [call, removeSocket, unregisterProvider, nextBeat, hs, Ne.symm hs]
  | recomputeActiveProvider nowMs connected tick => exact absurd rfl (hc nowMs connected tick)

/-! ## Every run -/

theorem Attended.of_prefix (h : Attended s ins) (hp : pre <+: ins) : Attended s pre :=
  fun l nowMs connected tick hl => h l nowMs connected tick (hl.trans hp)

/-- A provider that is attended to stays. -/
theorem heard_run_of_attended (W : World) (h : Attended s ins) :
    ((machine W).run ins).heard s = lastBeat s ins := by
  induction ins using List.reverseRecOn with
  | nil => rfl
  | append_singleton ins c ih =>
    have ih := ih (h.of_prefix (List.prefix_append _ _))
    rw [Machine.run_snoc, lastBeat_snoc, ← ih]
    by_cases hsweep : ∃ nowMs connected tick, c = .recomputeActiveProvider nowMs connected tick
    · obtain ⟨nowMs, connected, tick, rfl⟩ := hsweep
      have hperm := W.walk_perm tick ((machine W).run ins).uiProviders.pairs
      refine Option.ext fun last => ?_
      refine (heard_recompute hperm).trans ⟨And.left, fun hlast => ⟨hlast, ?_⟩⟩
      exact h ins nowMs connected tick List.prefix_rfl last (ih ▸ hlast)
    · push Not at hsweep
      exact heard_call _ hsweep

/-- **The providers that stay.** Throughout a run the registry holds a
provider with its last word if and only if the provider is attended to. -/
theorem heard_run_iff_attended (W : World) (s : Socket) (ins : List Call) :
    (∀ pre, pre <+: ins → ((machine W).run pre).heard s = lastBeat s pre) ↔ Attended s ins := by
  constructor
  · intro h pre nowMs connected tick hpre last hlast
    have hheld := h (pre ++ [.recomputeActiveProvider nowMs connected tick]) hpre
    rw [lastBeat_snoc, Machine.run_snoc] at hheld
    have hperm := W.walk_perm tick ((machine W).run pre).uiProviders.pairs
    exact ((heard_recompute hperm).1 (hheld.trans hlast)).2
  · exact fun h pre hpre => heard_run_of_attended W (h.of_prefix hpre)

/-- **The election.** Whatever the table, the clock, the sockets and the
order of the walk, the providers that are kept are those that are
connected and were heard of at most fifteen seconds ago; the active one is
a best of them, none only where none is kept, and another order keeps the
same and elects one of the same rank; the answer says whether the active
provider changed. So in every run a provider stays exactly as long as it
is attended to. -/
theorem recomputeActiveProvider_elects (W : World) :
    (∀ (reg : ProviderRegistry) (nowMs : ℤ) (connected : Socket → Bool)
      (entries : List (Socket × UIProvider)), entries.Perm reg.uiProviders.pairs →
      let out := reg.recomputeActiveProvider nowMs connected entries
      (∀ s p, out.2.uiProviders.lookup s = some p ↔
        reg.uiProviders.lookup s = some p ∧ connected s = true ∧
          nowMs - p.lastHeartbeatMs ≤ 15000) ∧
      (∀ s, out.2.activeProvider = some s → ∃ p, out.2.uiProviders.lookup s = some p ∧
        ∀ s' p', out.2.uiProviders.lookup s' = some p' → p'.priority < p.priority ∨
          p'.priority = p.priority ∧ p'.lastHeartbeatMs ≤ p.lastHeartbeatMs) ∧
      (out.2.activeProvider = none ↔ ∀ s, out.2.uiProviders.lookup s = none) ∧
      (∀ entries', entries'.Perm reg.uiProviders.pairs →
        ∀ s s', out.2.activeProvider = some s →
          (reg.recomputeActiveProvider nowMs connected entries').2.activeProvider = some s' →
          ∃ p p', reg.uiProviders.lookup s = some p ∧ reg.uiProviders.lookup s' = some p' ∧
            p.priority = p'.priority ∧ p.lastHeartbeatMs = p'.lastHeartbeatMs) ∧
      (out.1 = true ↔ out.2.activeProvider ≠ reg.activeProvider)) ∧
    ∀ s ins, (∀ pre, pre <+: ins → ((machine W).run pre).heard s = lastBeat s pre) ↔
      Attended s ins := by
  refine ⟨fun reg nowMs connected entries hperm => ⟨fun s p => ?_, fun s hs => ?_, ?_, ?_, ?_⟩,
    heard_run_iff_attended W⟩
  · rw [← isPruned_eq_false]
    exact lookup_recomputeActiveProvider hperm
  · exact best_of_activeProvider hperm hs
  · exact activeProvider_eq_none_iff hperm
  · exact fun entries' hperm' s s' => tied_of_activeProvider hperm hperm'
  · exact changed_iff

/-- Two providers of one priority, one silent for longer. -/
def twoProviders : ProviderRegistry where
  uiProviders :=
    ((∅ : Table Socket UIProvider).insert 1 { priority := 10, lastHeartbeatMs := -5 }).insert 2
      { priority := 10, lastHeartbeatMs := 40 }

/-- The one heard of last is elected, in the other order of the walk as
well. -/
theorem recomputeActiveProvider_elects_two :
    ∃ p, (twoProviders.recomputeActiveProvider 100 (fun _ => true)
        twoProviders.uiProviders.pairs.reverse).2.uiProviders.lookup 2 = some p ∧
      ∀ s' p', (twoProviders.recomputeActiveProvider 100 (fun _ => true)
          twoProviders.uiProviders.pairs.reverse).2.uiProviders.lookup s' = some p' →
        p'.priority < p.priority ∨
          p'.priority = p.priority ∧ p'.lastHeartbeatMs ≤ p.lastHeartbeatMs :=
  ((recomputeActiveProvider_elects (.plain (fun _ => 0) true)).1 twoProviders 100 (fun _ => true)
    twoProviders.uiProviders.pairs.reverse (List.reverse_perm _)).2.1 2 (by decide)

end ProviderRegistry

end BbAuth
