import BbAuth.Library.Table
import Mathlib.Data.List.Induction
/-!
# Library — a table and the journal of its changes

A table of live objects, and a journal that gets an entry for each object
opened, touched and closed. Two things follow for every journal kept so.
Its entries for one key are a sequence of lifetimes, the last of which is
under way exactly while the key is bound. And a reader who folds the
journal into views of the objects holds the views of the table, the same
that a reader of a snapshot gets.
-/

namespace BbAuth

namespace Journal

variable {κ ν β : Type}

/-- An entry, with the object as the change left it. -/
inductive Entry (ν : Type) where
  | opened (v : ν)
  | touched (v : ν)
  | closed (v : ν)

/-- The kind of an entry. -/
inductive Kind where
  | opened
  | touched
  | closed
  deriving DecidableEq

namespace Entry

/-- The object of an entry. -/
def object : Entry ν → ν
  | .opened v | .touched v | .closed v => v

/-- The kind of an entry. -/
def kind : Entry ν → Kind
  | .opened _ => .opened
  | .touched _ => .touched
  | .closed _ => .closed

end Entry

variable [DecidableEq κ] (key : ν → κ) (Fresh : ν → Prop) (Touch : ν → ν → Prop)

/-- **The journal records the table.** An object is opened fresh under a
free key, touched as `Touch` allows, and closed once. -/
inductive Records : Table κ ν → List (Entry ν) → Prop
  | nil : Records ∅ []
  | opened {t js v} (h : Records t js) (hk : t.lookup (key v) = none) (hv : Fresh v) :
      Records (t.insert (key v) v) (js ++ [.opened v])
  | touched {t js u v} (h : Records t js) (hu : t.lookup (key u) = some u)
      (hk : key v = key u) (hv : Touch u v) :
      Records (t.insert (key u) v) (js ++ [.touched v])
  | closed {t js u v} (h : Records t js) (hu : t.lookup (key u) = some u)
      (hk : key v = key u) :
      Records (t.erase (key u)) (js ++ [.closed v])

variable {key Fresh Touch} {t : Table κ ν} {js : List (Entry ν)}

/-- Objects are kept under their keys. -/
theorem Records.key_eq (h : Records key Fresh Touch t js) {k : κ} {v : ν}
    (hv : t.lookup k = some v) : key v = k := by
  induction h generalizing k v with
  | nil => simp at hv
  | opened h hk hf ih =>
      rw [Table.lookup_insert] at hv
      split at hv
      · rw [← Option.some.inj hv]; exact Eq.symm ‹_›
      · exact ih hv
  | touched h hu hk hv' ih =>
      rw [Table.lookup_insert] at hv
      split at hv
      · rw [← Option.some.inj hv, hk]; exact Eq.symm ‹_›
      · exact ih hv
  | closed h hu hk ih =>
      rw [Table.lookup_erase] at hv
      split at hv
      · cases hv
      · exact ih hv

/-! ## Lifetimes -/

/-- A whole lifetime with `n` touches. -/
def lifetime (n : ℕ) : List Kind := .opened :: List.replicate n .touched ++ [.closed]

/-- The lifetime under way, with the touches so far. -/
def underway : Option ℕ → List Kind
  | none => []
  | some n => .opened :: List.replicate n .touched

variable (key) in
/-- What the journal says of one key. -/
def history (k : κ) (js : List (Entry ν)) : List Kind :=
  (js.filter fun e => key e.object = k).map Entry.kind

theorem history_snoc (k : κ) (e : Entry ν) :
    history key k (js ++ [e]) =
      history key k js ++ if key e.object = k then [e.kind] else [] := by
  by_cases h : key e.object = k <;> simp [history, h]

/-- **A key's entries are lifetimes**, the last one under way exactly while
the key is bound. -/
theorem Records.lifetimes (h : Records key Fresh Touch t js) (k : κ) :
    ∃ (past : List ℕ) (current : Option ℕ),
      history key k js = past.flatMap lifetime ++ underway current ∧
      (current.isSome ↔ ∃ v, t.lookup k = some v) := by
  induction h with
  | nil => exact ⟨[], none, by simp [history, underway]⟩
  | @opened t js v h hk hf ih =>
      obtain ⟨past, current, hh, hc⟩ := ih
      by_cases he : key v = k
      · subst he
        -- nothing was under way, since the key was free
        have hnone : current = none := by
          rw [hk] at hc
          rw [← Option.not_isSome_iff_eq_none, hc]
          simp
        subst hnone
        exact ⟨past, some 0, by simp [history_snoc, hh, underway, Entry.object, Entry.kind]⟩
      · exact ⟨past, current, by
          simp [history_snoc, hh, Entry.object, he, hc, Ne.symm he]⟩
  | @touched t js u v h hu hk hv ih =>
      obtain ⟨past, current, hh, hc⟩ := ih
      by_cases he : key u = k
      · subst he
        obtain ⟨n, rfl⟩ := Option.isSome_iff_exists.1 (hc.2 ⟨u, hu⟩)
        refine ⟨past, some (n + 1), ?_⟩
        simp [history_snoc, hh, underway, Entry.object, Entry.kind, hk, List.replicate_succ']
      · exact ⟨past, current, by
          simp [history_snoc, hh, Entry.object, hk, he, hc, Ne.symm he]⟩
  | @closed t js u v h hu hk ih =>
      obtain ⟨past, current, hh, hc⟩ := ih
      by_cases he : key u = k
      · subst he
        obtain ⟨n, rfl⟩ := Option.isSome_iff_exists.1 (hc.2 ⟨u, hu⟩)
        refine ⟨past ++ [n], none, ?_⟩
        simp [history_snoc, hh, underway, Entry.object, Entry.kind, hk, lifetime]
      · exact ⟨past, current, by
          simp [history_snoc, hh, Entry.object, hk, he, hc, Ne.symm he]⟩

/-! ## Replay -/

variable (key) (openView : ν → β) (touchView : ν → β → β)

/-- How a reader takes one entry. -/
def apply (s : Table κ β) : Entry ν → Table κ β
  | .opened v => s.insert (key v) (openView v)
  | .touched v =>
    match s.lookup (key v) with
    | none => s
    | some b => s.insert (key v) (touchView v b)
  | .closed v => s.erase (key v)

/-- **What a reader of the whole journal holds.** -/
def replay (js : List (Entry ν)) : Table κ β := js.foldl (apply key openView touchView) ∅

/-- A snapshot: each live object is opened and touched. -/
def snapshot (vs : List ν) : List (Entry ν) := vs.flatMap fun v => [.opened v, .touched v]

variable {key openView touchView} {view : ν → β}

theorem replay_snoc (e : Entry ν) :
    replay key openView touchView (js ++ [e]) =
      apply key openView touchView (replay key openView touchView js) e := by
  simp [replay]

/-- **A journal's reader holds the views of the table**, where a fresh
object looks as it is opened and a touch shows all it changed. -/
theorem Records.lookup_replay (h : Records key Fresh Touch t js)
    (hopen : ∀ v, Fresh v → openView v = view v)
    (htouch : ∀ u v, Touch u v → touchView v (view u) = view v) (k : κ) :
    (replay key openView touchView js).lookup k = (t.lookup k).map view := by
  induction h generalizing k with
  | nil => simp [replay]
  | @opened t js v h hk hf ih =>
      rw [replay_snoc, apply, Table.lookup_insert, Table.lookup_insert, ih, hopen v hf]
      split <;> rfl
  | @touched t js u v h hu hk hv ih =>
      have hb : (replay key openView touchView js).lookup (key v) = some (view u) := by
        rw [ih, hk, hu]
        rfl
      simp only [replay_snoc, apply, hb]
      rw [Table.lookup_insert, Table.lookup_insert, ih, hk, htouch u v hv]
      split <;> rfl
  | @closed t js u v h hu hk ih =>
      rw [replay_snoc, apply, Table.lookup_erase, Table.lookup_erase, ih, hk]
      split <;> rfl

/-- Opening an object and touching it shows its view, whatever was held
before, and leaves the other keys. -/
theorem lookup_apply_snapshot (hview : ∀ v, touchView v (openView v) = view v)
    (s : Table κ β) (v : ν) (k : κ) :
    ((snapshot [v]).foldl (apply key openView touchView) s).lookup k =
      if k = key v then some (view v) else s.lookup k := by
  simp only [snapshot, List.flatMap_cons, List.flatMap_nil, List.append_nil, List.foldl_cons,
    List.foldl_nil, apply, Table.lookup_insert, if_true, hview]
  split <;> rfl

/-- **A snapshot's reader holds them too**, in whatever order the objects
come. -/
theorem lookup_replay_snapshot (hview : ∀ v, touchView v (openView v) = view v)
    (hkey : ∀ k v, t.lookup k = some v → key v = k) (vs : List ν)
    (hvs : ∀ v, v ∈ vs ↔ t.lookup (key v) = some v) (k : κ) :
    (replay key openView touchView (snapshot vs)).lookup k = (t.lookup k).map view := by
  -- the part read so far settles the keys it names, and no others
  have hread : ∀ us : List ν, (∀ v ∈ us, v ∈ vs) →
      (replay key openView touchView (snapshot us)).lookup k =
        if ∃ v ∈ us, key v = k then (t.lookup k).map view else none := by
    intro us
    induction us using List.reverseRecOn with
    | nil => simp [replay, snapshot]
    | append_singleton us v ih =>
        intro hus
        have hsplit : snapshot (us ++ [v]) = snapshot us ++ snapshot [v] := by simp [snapshot]
        rw [replay, hsplit, List.foldl_append, lookup_apply_snapshot hview]
        have hv := (hvs v).1 (hus v (by simp))
        by_cases hk : k = key v
        · subst hk
          rw [if_pos rfl, if_pos ⟨v, by simp, rfl⟩, hv]
          rfl
        · have hiff : (∃ u ∈ us ++ [v], key u = k) ↔ ∃ u ∈ us, key u = k := by
            constructor
            · rintro ⟨u, hu, huk⟩
              rcases List.mem_append.1 hu with hu | hu
              · exact ⟨u, hu, huk⟩
              · rw [List.mem_singleton.1 hu] at huk
                exact absurd huk.symm hk
            · exact fun ⟨u, hu, huk⟩ => ⟨u, List.mem_append_left _ hu, huk⟩
          simp only [if_neg hk, hiff]
          exact ih fun u hu => hus u (List.mem_append_left _ hu)
  rw [hread vs fun v hv => hv]
  split
  · rfl
  next hn =>
    cases hl : t.lookup k with
    | none => rfl
    | some v =>
        have := hkey k v hl
        exact absurd ⟨v, (hvs v).2 (this ▸ hl), this⟩ hn

end Journal

end BbAuth
