import Mathlib.Data.List.Induction
import Mathlib.Data.List.Infix
/-!
# Library — the sieve of a list

A scan that keeps an element unless one of those it kept already stands for
it. The relation need not be transitive: what is dropped has a kept element
before it that stands for it, and no kept element stands for a later one.
Where it is equality of a key, the scan keeps the first element of each key.
-/

namespace BbAuth

variable {α κ : Type} (r : α → α → Prop) [DecidableRel r]

/-- The kept elements meet one more. -/
def sift (kept : List α) (x : α) : List α := if ∃ y ∈ kept, r y x then kept else kept ++ [x]

/-- **The sieve**: what the scan keeps. -/
def sieve (l : List α) : List α := l.foldl (sift r) []

variable {r} {kept l m : List α} {x : α}

theorem sift_of_exists (h : ∃ y ∈ kept, r y x) : sift r kept x = kept := if_pos h

theorem sift_of_not_exists (h : ¬ ∃ y ∈ kept, r y x) : sift r kept x = kept ++ [x] := if_neg h

@[simp] theorem sieve_nil : sieve r ([] : List α) = [] := rfl

@[simp] theorem sieve_snoc : sieve r (l ++ [x]) = sift r (sieve r l) x := by
  simp [sieve]

theorem prefix_sift : kept <+: sift r kept x := by
  by_cases h : ∃ y ∈ kept, r y x
  · rw [sift_of_exists h]
  · rw [sift_of_not_exists h]
    exact List.prefix_append _ _

/-- **What is kept stays kept.** -/
theorem isPrefix_sieve (l m : List α) : sieve r l <+: sieve r (l ++ m) := by
  induction m using List.reverseRecOn with
  | nil => simp
  | append_singleton m x ih =>
      rw [← List.append_assoc, sieve_snoc]
      exact ih.trans prefix_sift

/-- **The kept elements stand in the order of the list.** -/
theorem sieve_sublist (l : List α) : (sieve r l).Sublist l := by
  induction l using List.reverseRecOn with
  | nil => simp
  | append_singleton l x ih =>
      rw [sieve_snoc]
      by_cases h : ∃ y ∈ sieve r l, r y x
      · rw [sift_of_exists h]
        exact ih.trans (List.sublist_append_left l [x])
      · rw [sift_of_not_exists h]
        exact ih.append_right [x]

/-- Elements that do not stand for each other are all kept. -/
theorem sieve_eq_self (h : l.Pairwise fun a b => ¬ r a b) : sieve r l = l := by
  induction l using List.reverseRecOn with
  | nil => rfl
  | append_singleton l x ih =>
      obtain ⟨hl, -, hx⟩ := List.pairwise_append.1 h
      rw [sieve_snoc, ih hl, sift_of_not_exists]
      rintro ⟨y, hy, hr⟩
      exact hx y hy x (by simp) hr

/-- **No kept element stands for a later one.** -/
theorem pairwise_sieve (l : List α) : (sieve r l).Pairwise fun a b => ¬ r a b := by
  induction l using List.reverseRecOn with
  | nil => simp
  | append_singleton l x ih =>
      rw [sieve_snoc]
      by_cases h : ∃ y ∈ sieve r l, r y x
      · rwa [sift_of_exists h]
      · rw [sift_of_not_exists h, List.pairwise_append]
        refine ⟨ih, List.pairwise_singleton _ _, fun a ha b hb hab => h ⟨a, ha, ?_⟩⟩
        rwa [List.mem_singleton.1 hb] at hab

/-- An element is kept, or stood for by one kept before it. -/
theorem mem_sieve_or_exists (h : x ∈ l) : x ∈ sieve r l ∨ ∃ y ∈ sieve r l, r y x := by
  obtain ⟨l₁, l₂, rfl⟩ := List.append_of_mem h
  have hp : sieve r (l₁ ++ [x]) <+: sieve r (l₁ ++ x :: l₂) := by
    rw [List.append_cons l₁ x l₂]
    exact isPrefix_sieve (l₁ ++ [x]) l₂
  by_cases hx : ∃ y ∈ sieve r l₁, r y x
  · obtain ⟨y, hy, hyx⟩ := hx
    have hsub : sieve r l₁ <+: sieve r (l₁ ++ x :: l₂) := isPrefix_sieve l₁ _
    exact .inr ⟨y, hsub.subset hy, hyx⟩
  · refine .inl (hp.subset ?_)
    rw [sieve_snoc, sift_of_not_exists hx]
    simp

/-- Under a transitive relation the kept elements stand for whatever the
list stands for. -/
theorem exists_mem_sieve_iff (htrans : ∀ a b c, r a b → r b c → r a c) :
    (∃ y ∈ sieve r l, r y x) ↔ ∃ y ∈ l, r y x := by
  constructor
  · rintro ⟨y, hy, hyx⟩
    exact ⟨y, (sieve_sublist l).subset hy, hyx⟩
  · rintro ⟨y, hy, hyx⟩
    rcases mem_sieve_or_exists (r := r) hy with hy | ⟨z, hz, hzy⟩
    · exact ⟨y, hy, hyx⟩
    · exact ⟨z, hz, htrans z y x hzy hyx⟩

/-! ## The first of each key -/

variable [DecidableEq κ] (key : α → κ)

/-- **The first of each key**: the elements that share their key with none
before them. -/
def firsts (l : List α) : List α :=
  (l.zipIdx.filter fun p : α × ℕ => decide (∀ y ∈ l.take p.2, key y ≠ key p.1)).map Prod.fst

variable {key}

theorem firsts_snoc : firsts key (l ++ [x]) =
    firsts key l ++ if ∃ y ∈ l, key y = key x then [] else [x] := by
  have hearlier :
      (l.zipIdx.filter fun p : α × ℕ => decide (∀ y ∈ (l ++ [x]).take p.2, key y ≠ key p.1)) =
        l.zipIdx.filter fun p : α × ℕ => decide (∀ y ∈ l.take p.2, key y ≠ key p.1) := by
    refine List.filter_congr fun p hp => ?_
    have hlt : p.2 ≤ l.length := (List.snd_lt_of_mem_zipIdx hp).le.trans (by simp)
    rw [List.take_append_of_le_length hlt]
  simp only [firsts, List.zipIdx_append, List.filter_append, List.map_append, hearlier]
  congr 1
  have hlast : [x].zipIdx (0 + l.length) = [(x, l.length)] := by simp
  rw [hlast, List.filter_singleton]
  by_cases h : ∃ y ∈ l, key y = key x
  · have hnot : ¬ ∀ y ∈ l, key y ≠ key x := fun hall => h.elim fun y hy => hall y hy.1 hy.2
    simp [if_pos h, hnot]
  · have hall : ∀ y ∈ l, key y ≠ key x := fun y hy hyx => h ⟨y, hy, hyx⟩
    have hdec : decide (∀ y ∈ (l ++ [x]).take l.length, key y ≠ key x) = true := by
      simpa using hall
    rw [if_neg h, hdec]
    rfl

/-- **A sieve by a key keeps the first of each key.** -/
theorem sieve_eq_firsts (l : List α) : sieve (fun a b => key a = key b) l = firsts key l := by
  induction l using List.reverseRecOn with
  | nil => rfl
  | append_singleton l x ih =>
      have hiff := exists_mem_sieve_iff (r := fun a b => key a = key b) (l := l) (x := x)
        fun a b c hab hbc => hab.trans hbc
      rw [sieve_snoc, firsts_snoc, ← ih, sift]
      by_cases h : ∃ y ∈ l, key y = key x
      · rw [if_pos (hiff.2 h), if_pos h, List.append_nil]
      · rw [if_neg (mt hiff.1 h), if_neg h]

end BbAuth
