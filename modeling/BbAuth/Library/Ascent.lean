import Mathlib.Data.List.Basic
/-!
# Library — a walk along what is read

A bounded walk reads the value of a key from an environment, and the value
says at which key it goes on. What the walk meets depends on the keys it
reads and on nothing else. A walk that halts at some values follows the
whole walk to the first of them; `Leaves` says when it goes on beyond a
given element to a key that it has not read before.
-/

namespace BbAuth

namespace Ascent

variable {κ ν : Type} (next : κ → ν → Option κ) (pass : ν → Bool) (env : κ → Option ν)

/-- **What is met** in at most `n` steps from a key. -/
def walk : ℕ → κ → List (κ × ν)
  | 0, _ => []
  | n + 1, k =>
    match env k with
    | none => []
    | some v => (k, v) :: (next k v).elim [] (walk n)

/-- **The keys that are read** in at most `n` steps from a key. -/
def reads : ℕ → κ → List κ
  | 0, _ => []
  | n + 1, k => k :: ((env k).bind (next k)).elim [] (reads n)

/-- The walk that goes on from a value only where it passes. -/
def halting (k : κ) (v : ν) : Option κ := if pass v then next k v else none

/-- **The halting walk leaves** what stands before `p` and `p` itself: all
of it passes, there are steps left, and the next key is a new one. -/
structure Leaves (n : ℕ) (pre : List (κ × ν)) (p : κ × ν) (k : κ) : Prop where
  passed : ∀ q ∈ pre ++ [p], pass q.2 = true
  steps : pre.length + 1 < n
  next : next p.1 p.2 = some k
  new : k ∉ (pre ++ [p]).map Prod.fst

variable {next pass env} {env' : κ → Option ν} {n : ℕ} {k : κ} {pre post : List (κ × ν)}
variable {p : κ × ν}

/-- **Environments that agree on what is read** give one walk. -/
theorem walk_congr (h : ∀ x ∈ reads next env n k, env' x = env x) :
    walk next env' n k = walk next env n k := by
  induction n generalizing k with
  | zero => rfl
  | succ n ih =>
      have hk : env' k = env k := h k List.mem_cons_self
      simp only [walk, hk]
      cases hv : env k with
      | none => rfl
      | some v =>
          cases hn : next k v with
          | none => simp [hn]
          | some l =>
              have hl : ∀ x ∈ reads next env n l, env' x = env x := fun x hx =>
                h x (List.mem_cons_of_mem _ (by simpa [hv, hn] using hx))
              simp only [hn, Option.elim_some, ih hl]

theorem env_of_mem_walk {q : κ × ν} (h : q ∈ walk next env n k) : env q.1 = some q.2 := by
  induction n generalizing k with
  | zero => cases h
  | succ n ih =>
      unfold walk at h
      cases hv : env k with
      | none => simp [hv] at h
      | some v =>
          simp only [hv, List.mem_cons] at h
          rcases h with rfl | h
          · exact hv
          · cases hn : next k v with
            | none => simp [hn] at h
            | some l => exact ih (by simpa [hn] using h)

/-- What a nonempty walk starts with, and how it goes on. -/
theorem walk_eq_cons {q : κ × ν} (h : walk next env n k = q :: post) :
    ∃ m, n = m + 1 ∧ q.1 = k ∧ env k = some q.2 ∧
      post = (next k q.2).elim [] (walk next env m) := by
  cases n with
  | zero => cases h
  | succ m =>
      unfold walk at h
      cases hv : env k with
      | none => simp [hv] at h
      | some v =>
          simp only [hv, List.cons.injEq] at h
          obtain ⟨rfl, rfl⟩ := h
          exact ⟨m, rfl, rfl, rfl, rfl⟩

/-- A walk that has more than its first element goes on from it. -/
theorem walk_eq_cons_append {q : κ × ν} (h : walk next env n k = q :: (pre ++ p :: post)) :
    ∃ m l, n = m + 1 ∧ q.1 = k ∧ env k = some q.2 ∧ next k q.2 = some l ∧
      walk next env m l = pre ++ p :: post := by
  obtain ⟨m, rfl, hq, hv, hpost⟩ := walk_eq_cons h
  cases hn : next k q.2 with
  | none => simp [hn] at hpost
  | some l => exact ⟨m, l, rfl, hq, hv, rfl, by simpa [hn] using hpost.symm⟩

theorem mem_keys_of_walk (h : walk next env n k = pre ++ p :: post) :
    k ∈ (pre ++ [p]).map Prod.fst := by
  cases pre with
  | nil =>
      obtain ⟨-, -, rfl, -⟩ := walk_eq_cons h
      simp
  | cons q pre =>
      obtain ⟨-, -, rfl, -⟩ := walk_eq_cons h
      simp

/-- What stands before `p` goes on within what stands up to `p`. -/
theorem next_mem_keys (h : walk next env n k = pre ++ p :: post) :
    ∀ q ∈ pre, ∀ l, next q.1 q.2 = some l → l ∈ (pre ++ [p]).map Prod.fst := by
  induction pre generalizing n k with
  | nil => exact fun q hq => absurd hq List.not_mem_nil
  | cons r pre ih =>
      obtain ⟨m, l, -, rfl, -, hn, hw⟩ := walk_eq_cons_append h
      intro q hq l' hl'
      rcases List.mem_cons.1 hq with rfl | hq
      · obtain rfl : l = l' := Option.some.inj (hn.symm.trans hl')
        exact List.mem_cons_of_mem _ (mem_keys_of_walk hw)
      · exact List.mem_cons_of_mem _ (ih hw q hq l' hl')

/-- A set of keys that is closed contains all that is read from a key of
it. -/
theorem reads_of_closed {S : κ → Prop}
    (hS : ∀ x v l, S x → env x = some v → next x v = some l → S l) (hk : S k) :
    ∀ x ∈ reads next env n k, S x := by
  induction n generalizing k with
  | zero => exact fun x hx => absurd hx List.not_mem_nil
  | succ n ih =>
      intro x hx
      rcases List.mem_cons.1 hx with rfl | hx
      · exact hk
      · cases hv : env k with
        | none => simp [hv] at hx
        | some v =>
            cases hn : next k v with
            | none => simp [hv, hn] at hx
            | some l => exact ih (hS k v l hk hv hn) x (by simpa [hv, hn] using hx)

/-- What the halting walk reads lies in `S`, if what it reads after `p`
does. -/
theorem reads_halting {S : κ → Prop} (hw : walk next env n k = pre ++ p :: post)
    (hin : ∀ q ∈ pre ++ [p], S q.1)
    (hout : (∀ q ∈ pre ++ [p], pass q.2 = true) → pre.length + 1 < n →
      ∀ l, next p.1 p.2 = some l → ∀ m, ∀ x ∈ reads (halting next pass) env m l, S x) :
    ∀ x ∈ reads (halting next pass) env n k, S x := by
  induction pre generalizing n k with
  | nil =>
      obtain ⟨m, rfl, rfl, hv, -⟩ := walk_eq_cons hw
      intro x hx
      rcases List.mem_cons.1 hx with rfl | hx
      · exact hin p (by simp)
      · simp only [hv, Option.bind_some, halting] at hx
        split at hx
        next hpass =>
          cases hn : next p.1 p.2 with
          | none => simp [hn] at hx
          | some l =>
              rw [hn, Option.elim_some] at hx
              refine hout (by simpa using hpass) ?_ l hn m x hx
              -- something is read from `l`, so a step is left
              cases m with
              | zero => cases hx
              | succ m => simp
        · cases hx
  | cons q pre ih =>
      obtain ⟨m, l, rfl, rfl, hv, hn, hw⟩ := walk_eq_cons_append hw
      intro x hx
      rcases List.mem_cons.1 hx with rfl | hx
      · exact hin q (by simp)
      · simp only [hv, Option.bind_some, halting] at hx
        split at hx
        next hpass =>
          rw [hn, Option.elim_some] at hx
          refine ih hw (fun r hr => hin r (List.mem_cons_of_mem _ hr))
            (fun hall hsteps => hout ?_ ?_) x hx
          · intro r hr
            rcases List.mem_cons.1 hr with rfl | hr
            · exact hpass
            · exact hall r hr
          · simpa using hsteps
        · cases hx

/-- **A halting walk that does not leave reads nothing else**: up to `p` it
goes on within what stands there, and after `p` it only turns back. -/
theorem reads_of_not_leaves (hw : walk next env n k = pre ++ p :: post)
    (h : ∀ l, ¬ Leaves next pass n pre p l) :
    ∀ x ∈ reads (halting next pass) env n k, x ∈ (pre ++ [p]).map Prod.fst := by
  refine reads_halting hw (fun q hq => List.mem_map_of_mem hq) fun hpass hsteps l hl m => ?_
  have hl' : l ∈ (pre ++ [p]).map Prod.fst := by
    by_contra hnew
    exact h l ⟨hpass, hsteps, hl, hnew⟩
  refine reads_of_closed (fun x v y hx hv hy => ?_) hl'
  obtain ⟨q, hq, rfl⟩ := List.mem_map.1 hx
  have hmem : q ∈ walk next env n k := by
    rw [hw]
    rcases List.mem_append.1 hq with hq | hq
    · exact List.mem_append_left _ hq
    · exact List.mem_append_right _ (List.mem_cons.2 (.inl (List.mem_singleton.1 hq)))
  obtain rfl : q.2 = v := Option.some.inj ((env_of_mem_walk hmem).symm.trans hv)
  have hy' : next q.1 q.2 = some y := by
    unfold halting at hy
    split at hy
    · exact hy
    · cases hy
  rcases List.mem_append.1 hq with hq | hq
  · exact next_mem_keys hw q hq y hy'
  · obtain rfl := List.mem_singleton.1 hq
    exact Option.some.inj (hl.symm.trans hy') ▸ hl'

/-- **A halting walk that leaves** goes on at the new key, in every
environment that agrees up to there. -/
theorem walk_of_passed {l : κ} (hw : walk next env n k = pre ++ p :: post)
    (hpass : ∀ q ∈ pre ++ [p], pass q.2 = true) (hl : next p.1 p.2 = some l)
    (hagree : ∀ q ∈ pre ++ [p], env' q.1 = env q.1) :
    walk (halting next pass) env' n k =
      (pre ++ [p]) ++ walk (halting next pass) env' (n - (pre.length + 1)) l := by
  induction pre generalizing n k with
  | nil =>
      obtain ⟨m, rfl, rfl, hv, -⟩ := walk_eq_cons hw
      have hv' : env' p.1 = some p.2 := (hagree p (by simp)).trans hv
      simp [walk, hv', halting, hpass p (by simp), hl]
  | cons q pre ih =>
      obtain ⟨m, l', rfl, rfl, hv, hn, hw⟩ := walk_eq_cons_append hw
      have hv' : env' q.1 = some q.2 := (hagree q (by simp)).trans hv
      have hih := ih hw (fun r hr => hpass r (List.mem_cons_of_mem _ hr))
        (fun r hr => hagree r (List.mem_cons_of_mem _ hr))
      simp [walk, hv', halting, hpass q (by simp), hn, hih]

end Ascent

end BbAuth
