import Mathlib.Data.List.AList
/-!
# Library — finite tables

A table is Mathlib's association list at a constant family: a list of
bindings no two of which share a key. This file adds what a program over
tables reads: the two lookups after a write as one conditional each, the
bindings as pairs, the round trips of a write that is undone, and what a
replaced value leaves.
-/

namespace BbAuth

variable {κ ν : Type}

/-- A finite map from `κ` to `ν`. -/
abbrev Table (κ ν : Type) : Type := AList fun _ : κ => ν

namespace Table

/-- The bindings, in the order the table keeps them. -/
def pairs (t : Table κ ν) : List (κ × ν) := t.entries.map fun e => (e.1, e.2)

variable [DecidableEq κ] {t : Table κ ν} {k l : κ} {v : ν}

/-- Is the key bound? -/
def contains (t : Table κ ν) (k : κ) : Bool := (t.lookup k).isSome

/-- What a lookup finds after an insertion. -/
@[simp] theorem lookup_insert :
    AList.lookup l (AList.insert k v t) = if l = k then some v else t.lookup l := by
  by_cases h : l = k
  · subst h; simp
  · rw [AList.lookup_insert_ne h, if_neg h]

/-- What a lookup finds after an erasure. -/
@[simp] theorem lookup_erase :
    AList.lookup l (AList.erase k t) = if l = k then none else t.lookup l := by
  by_cases h : l = k
  · subst h; simp
  · rw [AList.lookup_erase_ne h, if_neg h]

theorem mem_iff_exists : k ∈ t ↔ ∃ v, t.lookup k = some v := by
  rw [← AList.lookup_isSome, Option.isSome_iff_exists]

@[simp] theorem contains_eq_true : t.contains k = true ↔ k ∈ t := by
  rw [contains, AList.lookup_isSome]

@[simp] theorem contains_eq_false : t.contains k = false ↔ k ∉ t := by
  rw [← Bool.not_eq_true, contains_eq_true]

/-- A binding of the table is what the lookup finds. -/
theorem mem_pairs : (k, v) ∈ t.pairs ↔ t.lookup k = some v := by
  rw [← Option.mem_def, AList.mem_lookup_iff, pairs, List.mem_map]
  constructor
  · rintro ⟨⟨k', v'⟩, he, h⟩
    obtain ⟨rfl, rfl⟩ := Prod.mk.inj h
    exact he
  · exact fun h => ⟨⟨k, v⟩, h, rfl⟩

theorem isEmpty_pairs_of_lookup (h : t.lookup k = some v) : t.pairs.isEmpty = false := by
  rw [List.isEmpty_eq_false_iff]
  exact List.ne_nil_of_mem (mem_pairs.2 h)

omit [DecidableEq κ] in
/-- The keys, in the order the table keeps them. -/
theorem map_fst_pairs : t.pairs.map Prod.fst = t.keys := by
  simp only [pairs, List.map_map]
  rfl

/-- Erasing a key that is not bound changes nothing. -/
theorem erase_of_notMem (h : k ∉ t) : t.erase k = t := by
  apply AList.ext
  exact List.kerase_of_notMem_keys h

/-- **A fresh insertion undone.** Inserting at an unbound key and erasing
it again gives the table back. -/
theorem erase_insert_of_notMem (h : k ∉ t) : (t.insert k v).erase k = t := by
  apply AList.ext
  rw [AList.insert_of_notMem h]
  change List.kerase k (⟨k, v⟩ :: t.entries) = t.entries
  simp

/-- A table is empty when it binds no key. -/
theorem eq_empty_iff : t = ∅ ↔ ∀ k, t.lookup k = none := by
  constructor
  · rintro rfl k
    exact AList.lookup_empty k
  · intro h
    apply AList.ext
    rcases he : t.entries with - | ⟨⟨k, v⟩, es⟩
    · rfl
    · have hk : t.lookup k = some v := by
        rw [← Option.mem_def, AList.mem_lookup_iff, he]
        exact List.mem_cons_self
      rw [h k] at hk
      cases hk

omit [DecidableEq κ] in
/-- **The next handle is free**, where handles are counted up. -/
theorem lookup_eq_none_of_lt {t : Table ℕ ν} {n : ℕ}
    (h : ∀ k v, AList.lookup k t = some v → k < n) : AList.lookup n t = none := by
  rw [Option.eq_none_iff_forall_ne_some]
  exact fun v hv => absurd (h n v hv) (Nat.lt_irrefl n)

/-! ## A value replaced by a related one -/

section Replace

variable {R : ν → ν → Prop} {u v' : ν}

/-- What is bound after the replacement comes of what was bound before. -/
theorem exists_of_lookup_replace (hk : t.lookup k = some v) (hv : R v v') (hrefl : ∀ u, R u u)
    (h : AList.lookup l (AList.insert k v' t) = some u) : ∃ u', t.lookup l = some u' ∧ R u' u := by
  rw [lookup_insert] at h
  split at h
  · subst l
    exact ⟨v, hk, Option.some.inj h ▸ hv⟩
  · exact ⟨u, h, hrefl u⟩

/-- What was bound before it is bound to a related value after it. -/
theorem exists_lookup_replace (hk : t.lookup k = some v) (hv : R v v') (hrefl : ∀ u, R u u)
    (h : t.lookup l = some u) : ∃ u', AList.lookup l (AList.insert k v' t) = some u' ∧ R u u' := by
  rw [lookup_insert]
  split
  · subst l
    rw [hk, Option.some_inj] at h
    exact ⟨v', rfl, h ▸ hv⟩
  · exact ⟨u, h, hrefl u⟩

end Replace

end Table

end BbAuth
