import Mathlib.Data.List.Induction
/-!
# Library — the champion of a list

A scan that keeps the best element so far, and replaces it only by a
strictly better one. Under a strict preference that any third element
splits, the scan ends with the first of the best: it beats everything
before it, and nothing after it beats it. A list sorted by the preference
starts with one of the best.
-/

namespace BbAuth

variable {α : Type} (r : α → α → Prop)

/-- **The first of the best**: `y` beats what stands before it, and is not
beaten by what stands after it. -/
def Leads (y : α) (l : List α) : Prop :=
  ∃ l₁ l₂, l = l₁ ++ y :: l₂ ∧ (∀ x ∈ l₁, r y x) ∧ ∀ x ∈ l₂, ¬ r x y

variable {r} {y : α} {l : List α}

theorem Leads.mem (h : Leads r y l) : y ∈ l := by
  obtain ⟨l₁, l₂, rfl, -, -⟩ := h
  simp

/-- Nobody beats the leader. -/
theorem Leads.not_beaten (hasymm : ∀ x y, r x y → ¬ r y x) (h : Leads r y l) :
    ∀ x ∈ l, ¬ r x y := by
  obtain ⟨l₁, l₂, rfl, hbefore, hafter⟩ := h
  intro x hx
  rcases List.mem_append.1 hx with hx | hx
  · exact hasymm _ _ (hbefore x hx)
  · rcases List.mem_cons.1 hx with rfl | hx
    · exact fun hxx => hasymm _ _ hxx hxx
    · exact hafter x hx

section

variable (hasymm : ∀ x y, r x y → ¬ r y x) (hsplit : ∀ x y z, r x y → r x z ∨ r z y)
include hasymm hsplit

/-- Who beats the leader leads, since it beats everybody. -/
theorem Leads.beaten {x : α} (h : Leads r y l) (hx : r x y) : ∀ z ∈ l, r x z := by
  obtain ⟨l₁, l₂, rfl, hbefore, hafter⟩ := h
  intro z hz
  rcases List.mem_append.1 hz with hz | hz
  · exact (hsplit x y z hx).resolve_right (hasymm _ _ (hbefore z hz))
  · rcases List.mem_cons.1 hz with rfl | hz
    · exact hx
    · exact (hsplit x y z hx).resolve_right (hafter z hz)

end

/-! ## The scan -/

variable (r) [DecidableRel r]

/-- The best so far meets one more element. -/
def challenge (best : Option α) (x : α) : Option α :=
  match best with
  | none => some x
  | some b => if r x b then some x else some b

/-- The champion of a list. -/
def champion (l : List α) : Option α := l.foldl (challenge r) none

variable {r}

@[simp] theorem champion_nil : champion r ([] : List α) = none := rfl

theorem champion_snoc (l : List α) (x : α) :
    champion r (l ++ [x]) = challenge r (champion r l) x := by
  simp [champion]

theorem champion_eq_none : champion r l = none ↔ l = [] := by
  induction l using List.reverseRecOn with
  | nil => simp
  | append_singleton l x ih =>
      rw [champion_snoc]
      unfold challenge
      split
      · simp
      · split <;> simp

variable (hasymm : ∀ x y, r x y → ¬ r y x) (hsplit : ∀ x y z, r x y → r x z ∨ r z y)
include hasymm hsplit

/-- **The champion is the first of the best.** -/
theorem champion_eq_some_iff : champion r l = some y ↔ Leads r y l := by
  induction l using List.reverseRecOn generalizing y with
  | nil => simp [Leads]
  | append_singleton l x ih =>
      rw [champion_snoc]
      constructor
      · intro h
        cases hc : champion r l with
        | none =>
            rw [hc] at h
            cases h
            rw [champion_eq_none] at hc
            exact ⟨[], [], by rw [hc], by simp, by simp⟩
        | some b =>
            have hlead := ih.1 hc
            simp only [hc, challenge] at h
            split at h
            next hx =>
              cases h
              exact ⟨l, [], rfl, hlead.beaten hasymm hsplit hx, by simp⟩
            next hx =>
              cases h
              obtain ⟨l₁, l₂, heq, hbefore, hafter⟩ := hlead
              refine ⟨l₁, l₂ ++ [x], by rw [heq]; simp, hbefore, fun z hz => ?_⟩
              rcases List.mem_append.1 hz with hz | hz
              · exact hafter z hz
              · exact List.mem_singleton.1 hz ▸ hx
      · rintro ⟨l₁, l₂, heq, hbefore, hafter⟩
        rcases List.eq_nil_or_concat l₂ with rfl | ⟨l₂, z, rfl⟩
        · obtain ⟨rfl, hxy⟩ := List.append_inj' heq rfl
          obtain rfl : x = y := List.singleton_inj.1 hxy
          cases hc : champion r l with
          | none => rfl
          | some b => simp [challenge, hbefore b (ih.1 hc).mem]
        · have heq' : l ++ [x] = (l₁ ++ y :: l₂) ++ [z] := by simpa using heq
          obtain ⟨rfl, hxz⟩ := List.append_inj' heq' rfl
          obtain rfl : x = z := List.singleton_inj.1 hxz
          have hlead : Leads r y (l₁ ++ y :: l₂) :=
            ⟨l₁, l₂, rfl, hbefore, fun w hw => hafter w (by simp [hw])⟩
          have hn : ¬ r x y := hafter x (by simp)
          simp [ih.2 hlead, challenge, hn]

/-! ## The first of a sorted list -/

omit [DecidableRel r] hasymm hsplit in
/-- In a list sorted by the preference the first element of a kind is not
beaten by any other of its kind. -/
theorem not_beaten_of_find? {p : α → Bool} (hl : l.Pairwise fun a b => ¬ r b a)
    (hirrefl : ∀ x, ¬ r x x) (h : l.find? p = some y) : ∀ x ∈ l, p x = true → ¬ r x y := by
  obtain ⟨-, l₁, l₂, rfl, hbefore⟩ := List.find?_eq_some_iff_append.1 h
  intro x hx hp
  rcases List.mem_append.1 hx with hx | hx
  · simp at hbefore
    exact absurd hp (by simp [hbefore x hx])
  · rcases List.mem_cons.1 hx with rfl | hx
    · exact hirrefl x
    · exact List.rel_of_pairwise_cons (List.pairwise_append.1 hl).2.1 hx

end BbAuth
