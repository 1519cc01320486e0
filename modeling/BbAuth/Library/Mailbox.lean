import BbAuth.Library.Machine
/-!
# Library — a bounded mailbox and its takers

Items are put into a mailbox of `n` places and taken out of it, the oldest
first; who comes when there is none waits, and is handed the next item
that is put. So either there is nothing in the mailbox or nobody waits,
which a `Mailbox` carries with it. When the mailbox is full the oldest
item makes room for the new one.

A run is read off two accounts. `Fates` says of each item that has left
the mailbox who it was handed to, or that it was dropped, and what had to
happen for that. `Turns` says of each taker that came whether it was
served, and that those served came before all who wait.
-/

namespace BbAuth

/-- **A mailbox of `n` places**, and who waits for an item. -/
structure Mailbox (α ω : Type) (n : ℕ) where
  items : List α
  takers : List ω
  apart : items = [] ∨ takers = []
  bounded : items.length ≤ n

namespace Mailbox

variable {α ω : Type} {n : ℕ}

/-- What can be done at a mailbox. -/
inductive Op (α ω : Type) where
  | put (a : α)
  | take (w : ω)
  | leave (w : ω)

/-- Where nobody waits, a new item is kept; a full mailbox drops its
oldest. -/
def keep (n : ℕ) (items : List α) (a : α) : List α :=
  (if n ≤ items.length then items.tail else items) ++ [a]

theorem length_keep (hn : 0 < n) {items : List α} (h : items.length ≤ n) (a : α) :
    (keep n items a).length ≤ n := by
  unfold keep
  split
  · simp only [List.length_append, List.length_tail, List.length_singleton]
    omega
  · simp only [List.length_append, List.length_singleton]
    omega

/-- What is handed over, and to whom. -/
def handed (m : Mailbox α ω n) : Op α ω → List (ω × α)
  | .put a => (m.takers.head?.map fun w => (w, a)).toList
  | .take w => (m.items.head?.map fun a => (w, a)).toList
  | .leave _ => []

/-- An item is put: the first who waits has it. -/
def put (hn : 0 < n) : Mailbox α ω n → α → Mailbox α ω n
  | ⟨items, [], _, bounded⟩, a => ⟨keep n items a, [], .inr rfl, length_keep hn bounded a⟩
  | ⟨_, _ :: takers, _, _⟩, _ => ⟨[], takers, .inl rfl, Nat.zero_le n⟩

/-- Somebody comes: there is an item, or they wait. -/
def take : Mailbox α ω n → ω → Mailbox α ω n
  | ⟨[], takers, _, _⟩, w => ⟨[], takers ++ [w], .inl rfl, Nat.zero_le n⟩
  | ⟨_ :: items, _, _, bounded⟩, _ => ⟨items, [], .inr rfl, Nat.le_of_succ_le bounded⟩

variable [DecidableEq ω]

/-- Somebody leaves, and waits no more. -/
def leave (m : Mailbox α ω n) (w : ω) : Mailbox α ω n :=
  { m with
    takers := m.takers.filter fun v => v ≠ w
    apart := m.apart.imp_right fun h => by rw [h, List.filter_nil] }

/-- What is left. -/
def after (hn : 0 < n) (m : Mailbox α ω n) : Op α ω → Mailbox α ω n
  | .put a => m.put hn a
  | .take w => m.take w
  | .leave w => m.leave w

/-- **The mailbox as a machine**, empty at the start. -/
def machine (hn : 0 < n) : Machine (Mailbox α ω n) (Op α ω) where
  init := ⟨[], [], .inl rfl, Nat.zero_le n⟩
  step m op := m.after hn op

/-- The items that were put, each with whether nobody waited then. -/
def puts (hn : 0 < n) (ins : List (Op α ω)) : List (α × Bool) :=
  (machine hn).observe (fun puts m op =>
    match op with
    | .put a => puts ++ [(a, m.takers.isEmpty)]
    | _ => puts) [] ins

/-- All that was handed over, in its order. -/
def handovers (hn : 0 < n) (ins : List (Op α ω)) : List (ω × α) :=
  (machine hn).observe (fun handovers m op => handovers ++ m.handed op) [] ins

omit [DecidableEq ω] in
/-- The takers that came, in their order. -/
def takes (ins : List (Op α ω)) : List ω :=
  ins.filterMap fun op => match op with
    | .take w => some w
    | _ => none

/-! ## The account of the items -/

/-- **The fates of the items** that left, in the order they were put:
those that are in the mailbox come after them. An item was dropped only
when `n` items had been put after it that nobody waited for. -/
structure Fates (n : ℕ) (puts : List (α × Bool)) (handovers : List (ω × α)) (items : List α)
    (fates : List (Option ω × α)) : Prop where
  account : puts.map Prod.fst = fates.map Prod.snd ++ items
  handed : handovers = fates.filterMap fun f => f.1.map fun w => (w, f.2)
  /-- Who is in the mailbox behind another found nobody waiting. -/
  lonely : ∀ k p, fates.length < k → puts[k]? = some p → p.2 = true
  dropped : ∀ i a, fates[i]? = some (none, a) → ∀ k, i < k → k ≤ i + n →
    ∃ b, puts[k]? = some (b, true)

omit [DecidableEq ω]

/-- What stands where in a list with one more element. -/
theorem getElem?_snoc {β : Type} {l : List β} {x y : β} {k : ℕ} :
    (l ++ [x])[k]? = some y ↔ l[k]? = some y ∨ k = l.length ∧ x = y := by
  rw [List.getElem?_append]
  split
  next hk => simp [Nat.ne_of_lt hk]
  next hk =>
    rw [List.getElem?_singleton, List.getElem?_eq_none (Nat.le_of_not_lt hk)]
    by_cases heq : k = l.length
    · simp [heq]
    · have : k - l.length ≠ 0 := by omega
      simp [heq, this]

section

variable {puts : List (α × Bool)} {handovers : List (ω × α)} {items : List α}
variable {fates : List (Option ω × α)} {a : α} {w : ω}

theorem Fates.length (h : Fates n puts handovers items fates) :
    puts.length = fates.length + items.length := by
  have := congrArg List.length h.account
  simpa using this

/-- What was put stays in the account of what is dropped. -/
theorem Fates.dropped_snoc (h : Fates n puts handovers items fates) (p : α × Bool) {i : ℕ} {b : α}
    (hi : fates[i]? = some (none, b)) {k : ℕ} (hik : i < k) (hkn : k ≤ i + n) :
    ∃ c, (puts ++ [p])[k]? = some (c, true) := by
  obtain ⟨c, hc⟩ := h.dropped i b hi k hik hkn
  exact ⟨c, getElem?_snoc.2 (.inl hc)⟩

/-- An item that nobody waits for is kept. -/
theorem Fates.keep (h : Fates n puts handovers items fates) :
    Fates n (puts ++ [(a, true)]) handovers (items ++ [a]) fates where
  account := by simp [h.account]
  handed := h.handed
  lonely k p hk hp := by
    rcases getElem?_snoc.1 hp with hp | ⟨-, rfl⟩
    · exact h.lonely k p hk hp
    · rfl
  dropped i b hi k hik hkn := h.dropped_snoc _ hi hik hkn

/-- In a full mailbox the oldest item is dropped for it. -/
theorem Fates.drop {b : α} (h : Fates n puts handovers (b :: items) fates)
    (hfull : items.length + 1 = n) :
    Fates n (puts ++ [(a, true)]) handovers (items ++ [a]) (fates ++ [(none, b)]) where
  account := by simp [h.account]
  handed := by simp [h.handed]
  lonely k p hk hp := by
    rw [List.length_append, List.length_singleton] at hk
    rcases getElem?_snoc.1 hp with hp | ⟨-, rfl⟩
    · exact h.lonely k p (by omega) hp
    · rfl
  dropped i c hi k hik hkn := by
    rcases getElem?_snoc.1 hi with hi | ⟨rfl, -⟩
    · exact h.dropped_snoc _ hi hik hkn
    · -- the item was kept until as many as there are places had come after it
      have hlength := h.length
      rw [List.length_cons] at hlength
      rcases Nat.lt_or_eq_of_le (show k ≤ puts.length by omega) with hlt | heq
      · obtain ⟨p, hp⟩ : ∃ p, puts[k]? = some p := ⟨_, List.getElem?_eq_getElem hlt⟩
        have htrue := h.lonely k p hik hp
        exact ⟨p.1, getElem?_snoc.2 (.inl (by rw [hp, ← htrue]))⟩
      · exact ⟨a, getElem?_snoc.2 (.inr ⟨heq, rfl⟩)⟩

/-- An item that somebody waits for is handed to them. -/
theorem Fates.hand (h : Fates n puts handovers [] fates) :
    Fates n (puts ++ [(a, false)]) (handovers ++ [(w, a)]) [] (fates ++ [(some w, a)]) where
  account := by simp [h.account]
  handed := by simp [h.handed]
  lonely k p hk hp := by
    rw [List.length_append, List.length_singleton] at hk
    rcases getElem?_snoc.1 hp with hp | ⟨heq, -⟩
    · exact h.lonely k p (by omega) hp
    · have := h.length
      rw [List.length_nil] at this
      omega
  dropped i b hi k hik hkn := by
    rcases getElem?_snoc.1 hi with hi | ⟨-, heq⟩
    · exact h.dropped_snoc _ hi hik hkn
    · cases heq

/-- Who comes is given the oldest item. -/
theorem Fates.give (h : Fates n puts handovers (a :: items) fates) :
    Fates n puts (handovers ++ [(w, a)]) items (fates ++ [(some w, a)]) where
  account := by simp [h.account]
  handed := by simp [h.handed]
  lonely k p hk hp := by
    rw [List.length_append, List.length_singleton] at hk
    exact h.lonely k p (by omega) hp
  dropped i b hi k hik hkn := by
    rcases getElem?_snoc.1 hi with hi | ⟨-, heq⟩
    · exact h.dropped i b hi k hik hkn
    · cases heq

end

/-! ## The account of the takers -/

/-- **The turns of the takers**, in the order they came, each with whether
it did not leave unserved: those that wait came after all that were
served, and who left unserved did so after it came. -/
structure Turns (ins : List (Op α ω)) (handovers : List (ω × α)) (takers : List ω)
    (settled waiting : List (ω × Bool)) : Prop where
  account : takes ins = (settled ++ waiting).map Prod.fst
  served : handovers.map Prod.fst = (settled.filter Prod.snd).map Prod.fst
  waits : takers = (waiting.filter Prod.snd).map Prod.fst
  left : ∀ j w, (settled ++ waiting)[j]? = some (w, false) →
    ∃ pre post, ins = pre ++ .leave w :: post ∧ j < (takes pre).length

section

variable {ins : List (Op α ω)} {handovers : List (ω × α)} {takers : List ω}
variable {settled waiting : List (ω × Bool)} {a : α} {w : ω}

/-- Who left has left. -/
theorem Turns.left_snoc (h : Turns ins handovers takers settled waiting) (op : Op α ω) {j : ℕ}
    {v : ω} (hj : (settled ++ waiting)[j]? = some (v, false)) :
    ∃ pre post, ins ++ [op] = pre ++ .leave v :: post ∧ j < (takes pre).length := by
  obtain ⟨pre, post, rfl, hlt⟩ := h.left j v hj
  exact ⟨pre, post ++ [op], by simp, hlt⟩

/-- An item that is put, and kept, is nobody's turn. -/
theorem Turns.keep (h : Turns ins handovers takers settled waiting) :
    Turns (ins ++ [.put a]) handovers takers settled waiting where
  account := by simp [takes, ← h.account]
  served := h.served
  waits := h.waits
  left _ _ hj := h.left_snoc _ hj

/-- The first of those that wait has its turn, and who left before it. -/
theorem Turns.hand (h : Turns ins handovers (w :: takers) settled waiting) :
    ∃ settled' waiting',
      Turns (ins ++ [.put a]) (handovers ++ [(w, a)]) takers settled' waiting' := by
  obtain ⟨x, xs, hfilter, hx, rfl⟩ := List.map_eq_cons_iff.1 h.waits.symm
  obtain ⟨gone, rest, rfl, hgone, htrue, hrest⟩ := List.filter_eq_cons_iff.1 hfilter
  obtain rfl : x = (w, true) := Prod.ext hx htrue
  have hnone : gone.filter Prod.snd = [] := List.filter_eq_nil_iff.2 hgone
  have hsame : settled ++ gone ++ [(w, true)] ++ rest = settled ++ (gone ++ (w, true) :: rest) := by
    simp
  refine ⟨settled ++ gone ++ [(w, true)], rest, ?_, ?_, ?_, ?_⟩
  · rw [hsame, ← h.account]
    simp [takes]
  · simp [h.served, hnone]
  · rw [hrest]
  · intro j v hj
    rw [hsame] at hj
    exact h.left_snoc _ hj

/-- Who comes while nothing is there waits behind the others. -/
theorem Turns.wait (h : Turns ins handovers takers settled waiting) :
    Turns (ins ++ [.take w]) handovers (takers ++ [w]) settled (waiting ++ [(w, true)]) where
  account := by
    rw [← List.append_assoc, List.map_append, ← h.account]
    simp [takes]
  served := h.served
  waits := by simp [h.waits]
  left j v hj := by
    rw [← List.append_assoc] at hj
    rcases getElem?_snoc.1 hj with hj | ⟨-, heq⟩
    · exact h.left_snoc _ hj
    · cases heq

/-- Who comes while something is there is served at once: nobody waits. -/
theorem Turns.give (h : Turns ins handovers [] settled waiting) :
    Turns (ins ++ [.take w]) (handovers ++ [(w, a)]) [] (settled ++ waiting ++ [(w, true)]) [] where
  account := by
    rw [List.append_nil, List.map_append, ← h.account]
    simp [takes]
  served := by
    have hnone : waiting.filter Prod.snd = [] := List.map_eq_nil_iff.1 h.waits.symm
    simp [h.served, hnone]
  waits := rfl
  left j v hj := by
    rw [List.append_nil] at hj
    rcases getElem?_snoc.1 hj with hj | ⟨-, heq⟩
    · exact h.left_snoc _ hj
    · cases heq

/-- Who leaves is passed over, wherever it waits. -/
theorem Turns.leave [DecidableEq ω] (h : Turns ins handovers takers settled waiting) :
    Turns (ins ++ [.leave w]) handovers (takers.filter fun v => v ≠ w) settled
      (waiting.map fun x => (x.1, x.2 && x.1 ≠ w)) where
  account := by
    have hsame : (waiting.map fun x => (x.1, x.2 && decide (x.1 ≠ w))).map Prod.fst =
        waiting.map Prod.fst := by simp
    rw [List.map_append, hsame, ← List.map_append, ← h.account]
    simp [takes]
  served := h.served
  waits := by
    rw [h.waits, List.filter_map, List.filter_map, List.map_map, List.filter_filter]
    refine congrArg _ (List.filter_congr fun x _ => ?_)
    simp [Bool.and_comm]
  left j v hj := by
    rw [List.getElem?_append] at hj
    split at hj
    next hlt => exact h.left_snoc _ (by rw [List.getElem?_append_left hlt, hj])
    next hge =>
      rw [List.getElem?_map, Option.map_eq_some_iff] at hj
      obtain ⟨⟨u, b⟩, hx, hpair⟩ := hj
      have hplace : (settled ++ waiting)[j]? = some (u, b) := by
        rw [List.getElem?_append_right (Nat.le_of_not_lt hge), hx]
      obtain ⟨rfl, hb⟩ := Prod.mk.inj hpair
      cases b with
      | false => exact h.left_snoc _ hplace
      | true =>
        -- it still waited, so it is the one that leaves now
        obtain rfl : u = w := by simpa using hb
        refine ⟨ins, [], rfl, ?_⟩
        rw [h.account, List.length_map]
        exact (List.getElem?_eq_some_iff.1 hplace).1

end

/-! ## Every run -/

section

variable [DecidableEq ω] (hn : 0 < n) {ins : List (Op α ω)}

@[simp] theorem puts_snoc (op : Op α ω) :
    puts hn (ins ++ [op]) = match op with
      | .put a => puts hn ins ++ [(a, ((machine hn).run ins).takers.isEmpty)]
      | _ => puts hn ins := by
  rw [puts, Machine.observe_snoc]
  rfl

@[simp] theorem handovers_snoc (op : Op α ω) :
    handovers hn (ins ++ [op]) = handovers hn ins ++ ((machine hn).run ins).handed op := by
  rw [handovers, Machine.observe_snoc]
  rfl

/-- **Every run has its two accounts.** -/
theorem exists_accounts (ins : List (Op α ω)) :
    (∃ fates, Fates n (puts hn ins) (handovers hn ins) ((machine hn).run ins).items fates) ∧
      ∃ settled waiting,
        Turns ins (handovers hn ins) ((machine hn).run ins).takers settled waiting := by
  induction ins using List.reverseRecOn with
  | nil => exact ⟨⟨[], rfl, rfl, by simp [puts], by simp⟩, [], [], rfl, rfl, rfl, by simp⟩
  | append_singleton ins op ih =>
    obtain ⟨⟨fates, hf⟩, settled, waiting, ht⟩ := ih
    rw [puts_snoc, handovers_snoc, Machine.run_snoc]
    change (∃ fates, Fates n _ _ (((machine hn).run ins).after hn op).items fates) ∧
      ∃ settled waiting, Turns _ _ (((machine hn).run ins).after hn op).takers settled waiting
    generalize (machine hn).run ins = m at *
    obtain ⟨items, takers, apart, bounded⟩ := m
    cases op with
    | put a =>
      cases takers with
      | nil =>
        refine ⟨?_, settled, waiting, by simpa [handed, after, put] using ht.keep⟩
        by_cases hfull : n ≤ items.length
        · cases items with
          | nil => exact absurd hfull (by simp; omega)
          | cons b items =>
            have hlength : n ≤ items.length + 1 := hfull
            refine ⟨fates ++ [(none, b)], ?_⟩
            simpa [handed, after, put, Mailbox.keep, hlength] using
              hf.drop (a := a) (Nat.le_antisymm bounded hfull)
        · exact ⟨fates, by simpa [handed, after, put, Mailbox.keep, hfull] using hf.keep⟩
      | cons w takers =>
        obtain rfl : items = [] := apart.resolve_right (List.cons_ne_nil _ _)
        exact ⟨⟨_, by simpa [handed, after, put] using hf.hand⟩,
          by simpa [handed, after, put] using ht.hand⟩
    | take w =>
      cases items with
      | nil => exact ⟨⟨fates, by simpa [handed, after, take] using hf⟩, _, _, by
          simpa [handed, after, take] using ht.wait⟩
      | cons a items =>
        obtain rfl : takers = [] := apart.resolve_left (List.cons_ne_nil _ _)
        exact ⟨⟨_, by simpa [handed, after, take] using hf.give⟩, _, _, by
          simpa [handed, after, take] using ht.give⟩
    | leave w =>
      exact ⟨⟨fates, by simpa [handed, after, leave] using hf⟩, _, _, by
        simpa [handed, after, leave] using ht.leave⟩

end

end Mailbox

end BbAuth
