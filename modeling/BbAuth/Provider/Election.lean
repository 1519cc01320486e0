import BbAuth.Agent.Calls
import BbAuth.Library.Champion
import BbAuth.Model.Registry
/-!
# The election of the active provider

`recomputeActiveProvider` keeps the entries that are not pruned and elects
one of them, if there is any. So after it the registry is `Elected`: the
active provider is one of the table, and there is one unless the table is
empty.
-/

namespace BbAuth

namespace ProviderRegistry

variable {reg : ProviderRegistry} {nowMs : ℤ} {connected : Socket → Bool}
variable {entries : List (Socket × UIProvider)} {socket : Socket} {p : UIProvider}

/-- **Table and active provider agree.** -/
structure Elected (reg : ProviderRegistry) : Prop where
  registered : ∀ s, reg.activeProvider = some s → ∃ p, reg.uiProviders.lookup s = some p
  elected : reg.activeProvider = none → reg.uiProviders = ∅

theorem Elected.isAuthorized_iff (h : reg.Elected) :
    reg.isAuthorized socket = true ↔
      reg.activeProvider = none ∨ reg.activeProvider = some socket := by
  unfold isAuthorized
  cases ha : reg.activeProvider with
  | none =>
      rw [h.elected ha]
      simp [Table.pairs]
  | some s =>
      obtain ⟨p, hp⟩ := h.registered s ha
      have hne := Table.isEmpty_pairs_of_lookup hp
      simp only [hne, Bool.false_eq_true, if_false]
      constructor
      · intro hs
        split at hs
        · cases hs
        · exact .inr (by simpa using hs)
      · rintro (hn | hs)
        · cases hn
        · cases hs
          have : reg.uiProviders.contains socket = true :=
            Table.contains_eq_true.2 (Table.mem_iff_exists.2 ⟨p, hp⟩)
          simp [this]

theorem Elected.hasActiveProvider_iff (h : reg.Elected) :
    reg.hasActiveProvider = true ↔ ∃ s, reg.activeProvider = some s := by
  unfold hasActiveProvider
  cases ha : reg.activeProvider with
  | none => simp
  | some s =>
      have hs := Table.contains_eq_true.2 (Table.mem_iff_exists.2 (h.registered s ha))
      simp [hs]

/-! ## The loop -/

/-- The loop erases the pruned entries and no others. -/
theorem lookup_recomputeLoop (nowMs : ℤ) (connected : Socket → Bool) (socket : Socket)
    (p : UIProvider) :
    ∀ (entries : List (Socket × UIProvider)) (table : Table Socket UIProvider)
      (best : Option (Socket × UIProvider)),
      (recomputeLoop nowMs connected entries table best).1.lookup socket = some p ↔
        table.lookup socket = some p ∧
          ∀ q, (socket, q) ∈ entries → isPruned nowMs connected socket q = false
  | [], table, best => by simp [recomputeLoop]
  | (s, q) :: rest, table, best => by
      unfold recomputeLoop
      have ih := lookup_recomputeLoop nowMs connected socket p rest
      split
      next hq =>
        rw [ih, Table.lookup_erase]
        by_cases hs : socket = s
        · subst hs
          simp [hq]
        · simp [hs]
      next hq =>
        rw [ih]
        by_cases hs : socket = s
        · subst hs
          simp [hq]
        · simp [hs]

/-- What the loop elects was elected before or survives. -/
theorem mem_recomputeLoop (nowMs : ℤ) (connected : Socket → Bool) :
    ∀ (entries : List (Socket × UIProvider)) (table : Table Socket UIProvider)
      (best : Option (Socket × UIProvider)) (socket : Socket) (p : UIProvider),
      (recomputeLoop nowMs connected entries table best).2 = some (socket, p) →
        best = some (socket, p) ∨
          (socket, p) ∈ entries ∧ isPruned nowMs connected socket p = false
  | [], table, best, socket, p, h => .inl h
  | (s, q) :: rest, table, best, socket, p, h => by
      unfold recomputeLoop at h
      split at h
      · exact (mem_recomputeLoop nowMs connected rest _ _ socket p h).imp id
          fun ⟨hm, hp⟩ => ⟨List.mem_cons_of_mem _ hm, hp⟩
      next hq =>
        rcases mem_recomputeLoop nowMs connected rest _ _ socket p h with hb | ⟨hm, hp⟩
        · unfold better at hb
          split at hb
          · cases hb
            exact .inr ⟨List.mem_cons_self, by simpa using hq⟩
          · split at hb
            · cases hb
              exact .inr ⟨List.mem_cons_self, by simpa using hq⟩
            · exact .inl hb
        · exact .inr ⟨List.mem_cons_of_mem _ hm, hp⟩

/-- It elects nobody only where nobody survives. -/
theorem recomputeLoop_eq_none (nowMs : ℤ) (connected : Socket → Bool) :
    ∀ (entries : List (Socket × UIProvider)) (table : Table Socket UIProvider)
      (best : Option (Socket × UIProvider)),
      (recomputeLoop nowMs connected entries table best).2 = none →
        best = none ∧ ∀ socket p, (socket, p) ∈ entries →
          isPruned nowMs connected socket p = true
  | [], table, best, h => ⟨h, by simp⟩
  | (s, q) :: rest, table, best, h => by
      unfold recomputeLoop at h
      split at h
      next hq =>
        obtain ⟨hb, hall⟩ := recomputeLoop_eq_none nowMs connected rest _ _ h
        refine ⟨hb, fun socket p hm => ?_⟩
        rcases List.mem_cons.1 hm with he | hm
        · cases he; exact hq
        · exact hall socket p hm
      · obtain ⟨hb, -⟩ := recomputeLoop_eq_none nowMs connected rest _ _ h
        unfold better at hb
        split at hb
        · cases hb
        · split at hb <;> cases hb

/-! ## The election -/

/-- **The table keeps what is not pruned.** -/
theorem lookup_recomputeActiveProvider (hperm : entries.Perm reg.uiProviders.pairs) :
    (reg.recomputeActiveProvider nowMs connected entries).2.uiProviders.lookup socket =
        some p ↔
      reg.uiProviders.lookup socket = some p ∧ isPruned nowMs connected socket p = false := by
  have htable : (reg.recomputeActiveProvider nowMs connected entries).2.uiProviders =
      (recomputeLoop nowMs connected entries reg.uiProviders none).1 := by
    simp only [recomputeActiveProvider]
    split <;> rfl
  rw [htable, lookup_recomputeLoop]
  simp only [hperm.mem_iff, Table.mem_pairs]
  constructor
  · exact fun ⟨hl, hq⟩ => ⟨hl, hq p hl⟩
  · rintro ⟨hl, hp⟩
    refine ⟨hl, fun q hq => ?_⟩
    rw [hl, Option.some_inj] at hq
    rwa [← hq]

/-- The active provider is the one the loop elects. -/
theorem activeProvider_recomputeActiveProvider :
    (reg.recomputeActiveProvider nowMs connected entries).2.activeProvider =
      (recomputeLoop nowMs connected entries reg.uiProviders none).2.map Prod.fst := by
  simp only [recomputeActiveProvider]
  split
  · assumption
  · rfl

/-- **The answer says whether the active provider changed.** -/
theorem changed_iff :
    (reg.recomputeActiveProvider nowMs connected entries).1 = true ↔
      (reg.recomputeActiveProvider nowMs connected entries).2.activeProvider ≠
        reg.activeProvider := by
  simp only [recomputeActiveProvider]
  split
  · simp
  next h => simpa using fun h' => h h'.symm

/-- **Every election leaves the registry elected**, whatever it was. -/
theorem elected_recomputeActiveProvider (hperm : entries.Perm reg.uiProviders.pairs) :
    (reg.recomputeActiveProvider nowMs connected entries).2.Elected where
  registered s hs := by
    rw [activeProvider_recomputeActiveProvider] at hs
    obtain ⟨⟨s', p⟩, hb, rfl⟩ := Option.map_eq_some_iff.1 hs
    rcases mem_recomputeLoop _ _ _ _ _ _ _ hb with h | ⟨hm, hp⟩
    · cases h
    · refine ⟨p, ?_⟩
      have hl := Table.mem_pairs.1 (hperm.mem_iff.1 hm)
      exact (lookup_recomputeActiveProvider hperm).2 ⟨hl, hp⟩
  elected hn := by
    rw [activeProvider_recomputeActiveProvider, Option.map_eq_none_iff] at hn
    obtain ⟨-, hall⟩ := recomputeLoop_eq_none _ _ _ _ _ hn
    rw [Table.eq_empty_iff]
    intro s
    rw [Option.eq_none_iff_forall_ne_some]
    intro p hl
    obtain ⟨hl, hp⟩ := (lookup_recomputeActiveProvider hperm).1 hl
    rw [hall s p (hperm.mem_iff.2 (Table.mem_pairs.2 hl))] at hp
    cases hp

/-! ## Who is elected -/

/-- **Preferred**: of a higher priority, or with a later heartbeat at the
same one. -/
def Preferred (e f : Socket × UIProvider) : Prop :=
  e.2.priority > f.2.priority ∨
    (e.2.priority = f.2.priority ∧ e.2.lastHeartbeatMs > f.2.lastHeartbeatMs)

instance : DecidableRel Preferred := fun _ _ => inferInstanceAs (Decidable (_ ∨ _))

theorem Preferred.asymm (e f : Socket × UIProvider) (h : Preferred e f) : ¬ Preferred f e := by
  unfold Preferred at h ⊢
  omega

theorem Preferred.split (e f g : Socket × UIProvider) (h : Preferred e f) :
    Preferred e g ∨ Preferred g f := by
  unfold Preferred at h ⊢
  omega

/-- The entries that are not pruned, in the order of the walk. -/
def survivors (nowMs : ℤ) (connected : Socket → Bool) (entries : List (Socket × UIProvider)) :
    List (Socket × UIProvider) :=
  entries.filter fun e => !isPruned nowMs connected e.1 e.2

theorem better_eq_challenge (best : Option (Socket × UIProvider)) :
    better best socket p = challenge Preferred best (socket, p) := by
  unfold better challenge
  cases best <;> rfl

/-- The loop is the scan for the champion of the survivors. -/
theorem recomputeLoop_snd (nowMs : ℤ) (connected : Socket → Bool) :
    ∀ (entries : List (Socket × UIProvider)) (table : Table Socket UIProvider)
      (best : Option (Socket × UIProvider)),
      (recomputeLoop nowMs connected entries table best).2 =
        (survivors nowMs connected entries).foldl (challenge Preferred) best
  | [], _, _ => rfl
  | (s, q) :: rest, table, best => by
      unfold recomputeLoop
      split
      next hq =>
        rw [recomputeLoop_snd nowMs connected rest]
        simp [survivors, hq]
      next hq =>
        rw [recomputeLoop_snd nowMs connected rest, better_eq_challenge]
        simp [survivors, hq]

theorem activeProvider_eq_champion :
    (reg.recomputeActiveProvider nowMs connected entries).2.activeProvider =
      (champion Preferred (survivors nowMs connected entries)).map Prod.fst := by
  rw [activeProvider_recomputeActiveProvider, recomputeLoop_snd]
  rfl

/-- **The first of the preferred survivors is elected.** -/
theorem elects_iff :
    (reg.recomputeActiveProvider nowMs connected entries).2.activeProvider = some socket ↔
      ∃ p, Leads Preferred (socket, p) (survivors nowMs connected entries) := by
  have hlead : ∀ e, champion Preferred (survivors nowMs connected entries) = some e ↔
      Leads Preferred e (survivors nowMs connected entries) :=
    fun e => champion_eq_some_iff Preferred.asymm Preferred.split
  rw [activeProvider_eq_champion, Option.map_eq_some_iff]
  constructor
  · rintro ⟨⟨s, p⟩, h, rfl⟩
    exact ⟨p, (hlead _).1 h⟩
  · exact fun ⟨p, h⟩ => ⟨(socket, p), (hlead _).2 h, rfl⟩

/-- Nobody is elected where nobody survives. -/
theorem elects_none_iff :
    (reg.recomputeActiveProvider nowMs connected entries).2.activeProvider = none ↔
      survivors nowMs connected entries = [] := by
  rw [activeProvider_eq_champion, Option.map_eq_none_iff, champion_eq_none]

end ProviderRegistry

end BbAuth
