import Mathlib.Data.Option.Basic
/-!
# Library — an index of a store

A store keeps values under handles, and a second table finds the handle of
a value by a key of that value. The two fit together where the second
table says of every key in it where the value is, and of every value that
it is found. Each operation on a store has the operation that the index
needs with it.

Both tables are taken as lookups, so that what is proved here holds of any
kind of table.
-/

namespace BbAuth

variable {γ κ ν : Type} {index index' : γ → Option κ} {store store' : κ → Option ν}
variable {key : ν → Option γ} {c : γ} {k : κ} {v v' : ν}

/-- **An index of a store** by a key of its values. -/
structure Indexes (index : γ → Option κ) (store : κ → Option ν) (key : ν → Option γ) : Prop where
  found : ∀ c k, index c = some k → ∃ v, store k = some v ∧ key v = some c
  listed : ∀ k v, store k = some v → ∃ c, key v = some c ∧ index c = some k

namespace Indexes

/-- Two values of one key are under one handle. -/
theorem inj (h : Indexes index store key) {l : κ} (hk : store k = some v) (hl : store l = some v')
    (hkey : key v = key v') : k = l := by
  obtain ⟨c, hc, hi⟩ := h.listed k v hk
  obtain ⟨c', hc', hi'⟩ := h.listed l v' hl
  rw [hc, hc', Option.some_inj] at hkey
  rw [hkey, hi', Option.some_inj] at hi
  exact hi.symm

/-- The key of a value finds it. -/
theorem eq_some (h : Indexes index store key) (hk : store k = some v) (hc : key v = some c) :
    index c = some k := by
  obtain ⟨c', hc', hi⟩ := h.listed k v hk
  rw [hc, Option.some_inj] at hc'
  rwa [hc']

section

variable [DecidableEq κ]

/-- **A value is replaced** by one of the same key. -/
theorem replace (h : Indexes index store key) (hk : store k = some v) (hkey : key v' = key v)
    (hs : ∀ x, store' x = if x = k then some v' else store x) : Indexes index store' key := by
  constructor
  · intro c k' hc
    obtain ⟨u, hu, huc⟩ := h.found c k' hc
    by_cases heq : k' = k
    · subst heq
      rw [hk, Option.some_inj] at hu
      exact ⟨v', by rw [hs, if_pos rfl], by rw [hkey, hu, huc]⟩
    · exact ⟨u, by rw [hs, if_neg heq, hu], huc⟩
  · intro k' u hu
    rw [hs] at hu
    split at hu
    next heq =>
      obtain ⟨c, hc, hi⟩ := h.listed k v hk
      rw [← Option.some.inj hu, heq]
      exact ⟨c, hkey.trans hc, hi⟩
    next => exact h.listed k' u hu

variable [DecidableEq γ]

/-- **A value goes**, and its key with it. -/
theorem erase (h : Indexes index store key) (hk : store k = some v) (hc : key v = some c)
    (hi : ∀ x, index' x = if x = c then none else index x)
    (hs : ∀ x, store' x = if x = k then none else store x) : Indexes index' store' key := by
  constructor
  · intro c' k' hc'
    rw [hi] at hc'
    split at hc'
    · cases hc'
    next hne =>
      obtain ⟨u, hu, huc⟩ := h.found c' k' hc'
      refine ⟨u, ?_, huc⟩
      rw [hs, if_neg, hu]
      rintro rfl
      rw [hk, Option.some_inj] at hu
      rw [← hu, hc, Option.some_inj] at huc
      exact hne huc.symm
  · intro k' u hu
    rw [hs] at hu
    split at hu
    · cases hu
    next hne =>
      obtain ⟨c', huc, hc'⟩ := h.listed k' u hu
      refine ⟨c', huc, ?_⟩
      rw [hi, if_neg, hc']
      rintro rfl
      exact hne (h.inj hu hk (huc.trans hc.symm))

/-- **A value comes** under a new handle, with a new key. -/
theorem insert (h : Indexes index store key) (hk : store k = none) (hnew : index c = none)
    (hc : key v = some c) (hi : ∀ x, index' x = if x = c then some k else index x)
    (hs : ∀ x, store' x = if x = k then some v else store x) : Indexes index' store' key := by
  constructor
  · intro c' k' hc'
    rw [hi] at hc'
    split at hc'
    next heq =>
      rw [← Option.some.inj hc', heq]
      exact ⟨v, by rw [hs, if_pos rfl], hc⟩
    next =>
      obtain ⟨u, hu, huc⟩ := h.found c' k' hc'
      refine ⟨u, ?_, huc⟩
      rw [hs, if_neg, hu]
      rintro rfl
      rw [hk] at hu
      cases hu
  · intro k' u hu
    rw [hs] at hu
    split at hu
    next heq =>
      rw [← Option.some.inj hu, heq]
      exact ⟨c, hc, by rw [hi, if_pos rfl]⟩
    next =>
      obtain ⟨c', huc, hc'⟩ := h.listed k' u hu
      refine ⟨c', huc, ?_⟩
      rw [hi, if_neg, hc']
      rintro rfl
      rw [hnew] at hc'
      cases hc'

/-- **A value changes its key**: it is found under the new one instead. -/
theorem rekey (h : Indexes index store key) {c' : γ} (hk : store k = some v) (hc : key v = some c)
    (hnew : index c' = none) (hc' : key v' = some c')
    (hi : ∀ x, index' x = if x = c' then some k else if x = c then none else index x)
    (hs : ∀ x, store' x = if x = k then some v' else store x) : Indexes index' store' key := by
  have herase := h.erase hk hc (fun _ => rfl) (fun _ => rfl)
  refine herase.insert (if_pos rfl) ?_ hc' hi fun x => ?_
  · rw [hnew, ite_self]
  · rw [hs]
    split <;> rfl

end

end Indexes

end BbAuth
