import Mathlib.Data.List.Basic
import Mathlib.Logic.Function.Iterate
/-!
# Library — a value that can be undone

An `Undoable` is a value with the values that undoing and redoing would
bring back, the nearest first. `Holds P m n` says that the value meets `P`,
and so does whatever can be undone or redone but for the `m` furthest undos
and the `n` furthest redos. It survives a change that meets `P`, and going
back and forth as far as the `m` and `n` allow.
-/

namespace BbAuth

/-- A value and its history. -/
structure Undoable (α : Type) where
  value : α
  undos : List α := []
  redos : List α := []
  deriving DecidableEq

namespace Undoable

variable {α : Type}

/-- A change can be undone, and leaves nothing to be redone. -/
def change (u : Undoable α) (x : α) : Undoable α where
  value := x
  undos := u.value :: u.undos

/-- The last change is undone. -/
def back (u : Undoable α) : Undoable α :=
  match u.undos with
  | [] => u
  | x :: undos => { value := x, undos := undos, redos := u.value :: u.redos }

/-- The change undone last is redone. -/
def forth (u : Undoable α) : Undoable α :=
  match u.redos with
  | [] => u
  | x :: redos => { value := x, undos := u.value :: u.undos, redos := redos }

/-- **The value meets `P`**, and so does all that can be brought back but
for the `m` furthest undos and the `n` furthest redos. -/
structure Holds (P : α → Prop) (m n : ℕ) (u : Undoable α) : Prop where
  value : P u.value
  undos_le : m ≤ u.undos.length
  undos : ∀ x ∈ u.undos.take (u.undos.length - m), P x
  redos_le : n ≤ u.redos.length
  redos : ∀ x ∈ u.redos.take (u.redos.length - n), P x

variable {P Q : α → Prop} {m n : ℕ} {u : Undoable α} {x : α}

theorem Holds.mono (h : Holds P m n u) (hPQ : ∀ x, P x → Q x) : Holds Q m n u :=
  ⟨hPQ _ h.value, h.undos_le, fun x hx => hPQ x (h.undos x hx), h.redos_le,
    fun x hx => hPQ x (h.redos x hx)⟩

/-- Where only the value counts, it is all that is asked. -/
theorem holds_of_value (h : P u.value) : Holds P u.undos.length u.redos.length u :=
  ⟨h, Nat.le_refl _, by simp, Nat.le_refl _, by simp⟩

/-- Nothing more is asked where more is left out. -/
theorem Holds.limit {k l : ℕ} (h : Holds P m n u) (hk : m ≤ k) (hl : n ≤ l) :
    Holds P (min k u.undos.length) (min l u.redos.length) u where
  value := h.value
  undos_le := Nat.min_le_right _ _
  undos x hx := by
    have hle : m ≤ min k u.undos.length := Nat.le_min.2 ⟨hk, h.undos_le⟩
    exact h.undos x (List.take_subset_take_left _ (Nat.sub_le_sub_left hle _) hx)
  redos_le := Nat.min_le_right _ _
  redos x hx := by
    have hle : n ≤ min l u.redos.length := Nat.le_min.2 ⟨hl, h.redos_le⟩
    exact h.redos x (List.take_subset_take_left _ (Nat.sub_le_sub_left hle _) hx)

/-- One more element meets `P`, and as many of the furthest are left out. -/
theorem forall_take_cons {l : List α} (hm : m ≤ l.length) (hx : P x)
    (h : ∀ y ∈ l.take (l.length - m), P y) :
    ∀ y ∈ (x :: l).take ((x :: l).length - m), P y := by
  rw [List.length_cons, Nat.succ_sub hm, List.take_succ_cons]
  exact List.forall_mem_cons.2 ⟨hx, h⟩

/-- **A change that meets `P`** leaves nothing to be redone. -/
theorem Holds.change (h : Holds P m n u) (hx : P x) : Holds P m 0 (u.change x) where
  value := hx
  undos_le := Nat.le_succ_of_le h.undos_le
  undos := forall_take_cons h.undos_le h.value h.undos
  redos_le := Nat.zero_le _
  redos := by simp [Undoable.change]

/-- **One step back**, unless only the furthest are left. -/
theorem Holds.back (h : Holds P m n u) (hm : m ≤ u.undos.length - 1) : Holds P m n u.back := by
  unfold Undoable.back
  split
  · exact h
  next x undos heq =>
    rw [heq, List.length_cons, Nat.add_sub_cancel] at hm
    have hall := h.undos
    rw [heq, List.length_cons, Nat.succ_sub hm, List.take_succ_cons, List.forall_mem_cons] at hall
    exact ⟨hall.1, hm, hall.2, Nat.le_succ_of_le h.redos_le,
      forall_take_cons h.redos_le h.value h.redos⟩

/-- **One step forth**, likewise. -/
theorem Holds.forth (h : Holds P m n u) (hn : n ≤ u.redos.length - 1) : Holds P m n u.forth := by
  unfold Undoable.forth
  split
  · exact h
  next x redos heq =>
    rw [heq, List.length_cons, Nat.add_sub_cancel] at hn
    have hall := h.redos
    rw [heq, List.length_cons, Nat.succ_sub hn, List.take_succ_cons, List.forall_mem_cons] at hall
    exact ⟨hall.1, Nat.le_succ_of_le h.undos_le, forall_take_cons h.undos_le h.value h.undos,
      hn, hall.2⟩

theorem length_undos_back (u : Undoable α) : u.back.undos.length = u.undos.length - 1 := by
  unfold Undoable.back
  split
  next h => simp [h]
  next h => simp [h]

theorem length_redos_forth (u : Undoable α) : u.forth.redos.length = u.redos.length - 1 := by
  unfold Undoable.forth
  split
  next h => simp [h]
  next h => simp [h]

/-- **Several steps back**, as far as the furthest. -/
theorem Holds.iterate_back {k : ℕ} (h : Holds P m n u) (hm : m ≤ u.undos.length - k) :
    Holds P m n (Undoable.back^[k] u) := by
  induction k generalizing u with
  | zero => exact h
  | succ k ih =>
      rw [Function.iterate_succ_apply]
      refine ih (h.back (by omega)) ?_
      rw [length_undos_back]
      omega

/-- **Several steps forth**, likewise. -/
theorem Holds.iterate_forth {k : ℕ} (h : Holds P m n u) (hn : n ≤ u.redos.length - k) :
    Holds P m n (Undoable.forth^[k] u) := by
  induction k generalizing u with
  | zero => exact h
  | succ k ih =>
      rw [Function.iterate_succ_apply]
      refine ih (h.forth (by omega)) ?_
      rw [length_redos_forth]
      omega

end Undoable

end BbAuth
