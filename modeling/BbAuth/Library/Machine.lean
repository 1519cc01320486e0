import Mathlib.Data.List.Forall2
import Mathlib.Data.List.Infix
import Mathlib.Data.List.Induction
/-!
# Library — deterministic machines and their runs

A machine takes inputs one at a time. This file defines its runs, the
condition "every input meets `C` in the state it is taken in", two history
operators, a count, an observer and a search. `OpenedAt` is the input from
which a state predicate has held without a break, `Since` an input after
which no other input of a given kind came, `tally` what a run counts step by
step, `observe` what somebody remembers who looks at each of its steps,
`watched` the machine with that beside it, `firstFrom` the first answer the
steps give. Each comes with the rule that carries it over one more input, so
that an invariant about histories is proved by one induction over the run.
-/

namespace BbAuth

/-- A deterministic machine with states `σ` and inputs `ι`. -/
structure Machine (σ ι : Type) where
  init : σ
  step : σ → ι → σ

namespace Machine

variable {σ ι : Type} (M : Machine σ ι)

/-- The state after a list of inputs. -/
def run (ins : List ι) : σ := ins.foldl M.step M.init

@[simp] theorem run_nil : M.run [] = M.init := rfl

@[simp] theorem run_snoc (ins : List ι) (i : ι) :
    M.run (ins ++ [i]) = M.step (M.run ins) i := by
  simp [run]

theorem run_append (l m : List ι) : M.run (l ++ m) = m.foldl M.step (M.run l) :=
  List.foldl_append

/-- **Every input of the run meets `C`** in the state it is taken in. -/
def Meets (C : σ → ι → Prop) (ins : List ι) : Prop :=
  ∀ pre i, pre ++ [i] <+: ins → C (M.run pre) i

variable {M} {C : σ → ι → Prop} {ins : List ι}

theorem meets_nil : M.Meets C [] := by
  intro pre i h
  have := List.prefix_nil.1 h
  simp at this

theorem meets_snoc {i : ι} : M.Meets C (ins ++ [i]) ↔ M.Meets C ins ∧ C (M.run ins) i := by
  constructor
  · intro h
    exact ⟨fun pre j hj => h pre j (hj.trans (List.prefix_append ins [i])),
      h ins i List.prefix_rfl⟩
  · rintro ⟨h, hi⟩ pre j hj
    rcases List.prefix_concat_iff.1 hj with heq | hlt
    · obtain ⟨rfl, hji⟩ := List.append_inj' heq rfl
      rw [List.singleton_inj] at hji
      exact hji ▸ hi
    · exact h pre j hlt

/-- A prefix of a run that meets the condition meets it. -/
theorem Meets.of_prefix {pre : List ι} (h : M.Meets C ins) (hp : pre <+: ins) :
    M.Meets C pre :=
  fun l i hl => h l i (hl.trans hp)

/-- A run that meets a condition meets every weaker one. -/
theorem Meets.mono {D : σ → ι → Prop} (h : M.Meets C ins) (hCD : ∀ s i, C s i → D s i) :
    M.Meets D ins :=
  fun l i hl => hCD _ _ (h l i hl)

/-- The condition, asked at each place of the list. -/
theorem meets_iff_forall_fin :
    M.Meets C ins ↔ ∀ n : Fin ins.length, C (M.run (ins.take n)) (ins.get n) := by
  constructor
  · refine fun h n => h _ _ ?_
    rw [List.get_eq_getElem, List.take_append_getElem n.isLt]
    exact List.take_prefix _ _
  · intro h pre i hp
    have hlt : pre.length < ins.length := by
      have := hp.length_le
      simp only [List.length_append, List.length_singleton] at this
      omega
    obtain ⟨post, rfl⟩ := hp
    simpa using h ⟨pre.length, hlt⟩

instance [∀ s i, Decidable (C s i)] : Decidable (M.Meets C ins) :=
  decidable_of_iff _ meets_iff_forall_fin.symm

/-! ## Invariants -/

/-- **The invariant rule.** What holds at the start and survives every
step holds in every state a run reaches. -/
theorem invariant {I : σ → Prop} (h0 : I M.init) (hstep : ∀ s i, I s → I (M.step s i)) :
    ∀ ins, I (M.run ins) := by
  intro ins
  induction ins using List.reverseRecOn with
  | nil => exact h0
  | append_singleton ins i ih =>
      rw [run_snoc]
      exact hstep _ _ ih

/-- **The invariant rule under a condition.** A step is only asked to
preserve the invariant when its input meets the condition. -/
theorem invariant_of_meets {I : σ → Prop} (h0 : I M.init)
    (hstep : ∀ s i, I s → C s i → I (M.step s i)) :
    ∀ ins, M.Meets C ins → I (M.run ins) := by
  intro ins
  induction ins using List.reverseRecOn with
  | nil => exact fun _ => h0
  | append_singleton ins i ih =>
      intro hm
      rw [meets_snoc] at hm
      rw [run_snoc]
      exact hstep _ _ (ih hm.1) hm.2

/-- **The rule for invariants about histories.** The step also knows the
inputs taken so far. -/
theorem history_invariant {J : List ι → Prop} (h0 : J [])
    (hstep : ∀ ins i, J ins → J (ins ++ [i])) : ∀ ins, J ins := by
  intro ins
  induction ins using List.reverseRecOn with
  | nil => exact h0
  | append_singleton ins i ih => exact hstep ins i ih

/-! ## Two runs side by side -/

/-- **The lockstep rule.** Two machines that start related, and that related
inputs keep related, are related after runs of related inputs. -/
theorem related_run {τ κ : Type} {N : Machine τ κ} {R : σ → τ → Prop} {S : ι → κ → Prop}
    (h0 : R M.init N.init) (hstep : ∀ s t i k, R s t → S i k → R (M.step s i) (N.step t k))
    {ks : List κ} (h : List.Forall₂ S ins ks) : R (M.run ins) (N.run ks) :=
  List.rel_foldl (P := R) (R := S) (fun s t hR i k hS => hstep s t i k hR hS) h0 h

/-! ## The input that opened a stretch -/

variable (M) in
/-- **The input `i`, taken after `pre`, made `P` true, and `P` has held
ever since.** -/
def OpenedAt (P : σ → Prop) (ins pre : List ι) (i : ι) : Prop :=
  ∃ post, ins = pre ++ i :: post ∧ ¬ P (M.run pre) ∧
    ∀ mid, mid <+: post → P (M.run (pre ++ i :: mid))

variable {P : σ → Prop} {pre : List ι} {i j : ι}

/-- One more input that keeps `P` true keeps the opening input. -/
theorem OpenedAt.snoc (h : M.OpenedAt P ins pre i) (hp : P (M.step (M.run ins) j)) :
    M.OpenedAt P (ins ++ [j]) pre i := by
  obtain ⟨post, rfl, hn, hall⟩ := h
  refine ⟨post ++ [j], by simp, hn, fun mid hmid => ?_⟩
  rcases List.prefix_concat_iff.1 hmid with rfl | hlt
  · have : pre ++ i :: (post ++ [j]) = (pre ++ i :: post) ++ [j] := by simp
    rw [this, run_snoc]
    exact hp
  · exact hall mid hlt

/-- The input that makes `P` true opens the stretch. -/
theorem OpenedAt.new (hn : ¬ P (M.run ins)) (hp : P (M.step (M.run ins) j)) :
    M.OpenedAt P (ins ++ [j]) ins j := by
  refine ⟨[], rfl, hn, fun mid hmid => ?_⟩
  rw [List.prefix_nil.1 hmid, run_snoc]
  exact hp

/-- An opening of the longer run is its last input, or an opening of the
shorter one. -/
theorem OpenedAt.of_snoc (h : M.OpenedAt P (ins ++ [j]) pre i) :
    (pre = ins ∧ i = j) ∨ M.OpenedAt P ins pre i := by
  obtain ⟨post, heq, hn, hall⟩ := h
  rcases List.eq_nil_or_concat post with rfl | ⟨post, k, rfl⟩
  · obtain ⟨h₁, h₂⟩ := List.append_inj' heq rfl
    exact .inl ⟨h₁.symm, (List.singleton_inj.1 h₂).symm⟩
  · have heq' : ins ++ [j] = (pre ++ i :: post) ++ [k] := by simpa using heq
    refine .inr ⟨post, (List.append_inj' heq' rfl).1, hn, fun mid hmid => ?_⟩
    exact hall mid (hmid.trans (by simp))

/-- What an opening says of the state it was taken in. -/
theorem OpenedAt.not_before (h : M.OpenedAt P ins pre i) : ¬ P (M.run pre) := h.choose_spec.2.1

/-- What an opening says of the state it leads to. -/
theorem OpenedAt.holds (h : M.OpenedAt P ins pre i) : P (M.run ins) := by
  obtain ⟨post, rfl, -, hall⟩ := h
  exact hall post List.prefix_rfl

/-- Where `P` holds now and did not at the start, some input opened it. -/
theorem exists_openedAt (h0 : ¬ P M.init) : ∀ ins, P (M.run ins) →
    ∃ pre i, M.OpenedAt P ins pre i := by
  intro ins
  induction ins using List.reverseRecOn with
  | nil => exact fun h => absurd h h0
  | append_singleton ins j ih =>
      rw [run_snoc]
      intro hp
      by_cases hb : P (M.run ins)
      · obtain ⟨pre, i, h⟩ := ih hb
        exact ⟨pre, i, h.snoc hp⟩
      · exact ⟨ins, j, OpenedAt.new hb hp⟩

/-! ## Since -/

variable (M) in
/-- **An input of kind `A` was taken, and none of kind `B` since.** -/
def Since (A B : σ → ι → Prop) (ins : List ι) : Prop :=
  ∃ pre i post, ins = pre ++ i :: post ∧ A (M.run pre) i ∧
    ∀ mid j, mid ++ [j] <+: post → ¬ B (M.run (pre ++ i :: mid)) j

variable {A B : σ → ι → Prop}

/-- An input of kind `A` starts the count. -/
theorem Since.new (h : A (M.run ins) i) : M.Since A B (ins ++ [i]) := by
  refine ⟨ins, i, [], rfl, h, fun mid j hmid => ?_⟩
  have := List.prefix_nil.1 hmid
  simp at this

/-- An input that is not of kind `B` keeps it. -/
theorem Since.snoc (h : M.Since A B ins) (hb : ¬ B (M.run ins) j) :
    M.Since A B (ins ++ [j]) := by
  obtain ⟨pre, i, post, rfl, ha, hall⟩ := h
  refine ⟨pre, i, post ++ [j], by simp, ha, fun mid k hmid => ?_⟩
  rcases List.prefix_concat_iff.1 hmid with heq | hlt
  · obtain ⟨rfl, hkj⟩ := List.append_inj' heq rfl
    rw [List.singleton_inj] at hkj
    exact hkj ▸ hb
  · exact hall mid k hlt

/-- **One more input**: it is of kind `A`, or there was one before and it is
not of kind `B`. -/
theorem since_snoc : M.Since A B (ins ++ [j]) ↔
    A (M.run ins) j ∨ (M.Since A B ins ∧ ¬ B (M.run ins) j) := by
  constructor
  · rintro ⟨pre, i, post, heq, ha, hall⟩
    rcases List.eq_nil_or_concat post with rfl | ⟨post, k, rfl⟩
    · obtain ⟨rfl, hij⟩ := List.append_inj' heq rfl
      rw [List.singleton_inj] at hij
      exact .inl (hij ▸ ha)
    · have heq' : ins ++ [j] = (pre ++ i :: post) ++ [k] := by simpa using heq
      obtain ⟨rfl, hjk⟩ := List.append_inj' heq' rfl
      rw [List.singleton_inj] at hjk
      subst hjk
      refine .inr ⟨⟨pre, i, post, rfl, ha, fun mid k hmid => ?_⟩, ?_⟩
      · exact hall mid k (hmid.trans (by simp))
      · exact hall post j (by simp)
  · rintro (ha | ⟨hs, hb⟩)
    · exact .new ha
    · exact hs.snoc hb

theorem not_since_nil : ¬ M.Since A B [] := by
  rintro ⟨pre, i, post, heq, -⟩
  simp at heq

/-! ## Counting along a run -/

/-- What a run counts, from the state `s` on. -/
def tallyFrom (M : Machine σ ι) (f : σ → ι → ℕ) : σ → List ι → ℕ
  | _, [] => 0
  | s, i :: rest => f s i + tallyFrom M f (M.step s i) rest

/-- **What a run counts**: the sum of `f` over its steps. -/
def tally (M : Machine σ ι) (f : σ → ι → ℕ) (ins : List ι) : ℕ := M.tallyFrom f M.init ins

variable {f : σ → ι → ℕ}

@[simp] theorem tally_nil : M.tally f [] = 0 := rfl

theorem tallyFrom_append (s : σ) (l m : List ι) :
    M.tallyFrom f s (l ++ m) = M.tallyFrom f s l + M.tallyFrom f (l.foldl M.step s) m := by
  induction l generalizing s with
  | nil => simp [tallyFrom]
  | cons i l ih => simp [tallyFrom, ih, Nat.add_assoc]

/-- **One more step counts once.** -/
@[simp] theorem tally_snoc (ins : List ι) (i : ι) :
    M.tally f (ins ++ [i]) = M.tally f ins + f (M.run ins) i := by
  simp [tally, tallyFrom_append, tallyFrom, run]

/-! ## What an observer remembers -/

/-- What an observer remembers that looks at every step taken from the
state `s` on. -/
def observeFrom {α : Type} (M : Machine σ ι) (note : α → σ → ι → α) : α → σ → List ι → α
  | a, _, [] => a
  | a, s, i :: rest => observeFrom M note (note a s i) (M.step s i) rest

/-- **What an observer remembers of a run.** -/
def observe {α : Type} (M : Machine σ ι) (note : α → σ → ι → α) (a : α) (ins : List ι) : α :=
  M.observeFrom note a M.init ins

theorem observeFrom_append {α : Type} (note : α → σ → ι → α) (a : α) (s : σ) (l m : List ι) :
    M.observeFrom note a s (l ++ m) =
      M.observeFrom note (M.observeFrom note a s l) (l.foldl M.step s) m := by
  induction l generalizing a s with
  | nil => rfl
  | cons i l ih => exact ih (note a s i) (M.step s i)

@[simp] theorem observe_nil {α : Type} (note : α → σ → ι → α) (a : α) :
    M.observe note a [] = a := rfl

/-- **One more step is noted once.** -/
@[simp] theorem observe_snoc {α : Type} (note : α → σ → ι → α) (a : α) (ins : List ι) (i : ι) :
    M.observe note a (ins ++ [i]) = note (M.observe note a ins) (M.run ins) i := by
  rw [observe, observeFrom_append]
  rfl

/-- **The machine with what an observer remembers beside it.** -/
def watched {α : Type} (M : Machine σ ι) (note : α → σ → ι → α) (a : α) : Machine (α × σ) ι where
  init := (a, M.init)
  step x i := (note x.1 x.2 i, M.step x.2 i)

theorem run_watched {α : Type} (note : α → σ → ι → α) (a : α) (ins : List ι) :
    (M.watched note a).run ins = (M.observe note a ins, M.run ins) := by
  induction ins using List.reverseRecOn with
  | nil => rfl
  | append_singleton ins i ih => rw [run_snoc, ih, observe_snoc, run_snoc]; rfl

/-! ## The first answer along a run -/

/-- **The first answer of `g`** over the steps taken from the state `s` on. -/
def firstFrom {α : Type} (M : Machine σ ι) (g : σ → ι → Option α) : σ → List ι → Option α
  | _, [] => none
  | s, i :: rest => (g s i).or (firstFrom M g (M.step s i) rest)

variable {α : Type} {g : σ → ι → Option α}

theorem firstFrom_append (s : σ) (l m : List ι) :
    M.firstFrom g s (l ++ m) = (M.firstFrom g s l).or (M.firstFrom g (l.foldl M.step s) m) := by
  induction l generalizing s with
  | nil => simp [firstFrom]
  | cons i l ih => simp [firstFrom, ih, Option.or_assoc]

/-- A step without an answer is passed over. -/
theorem firstFrom_cons_of_none {s : σ} {rest : List ι} (h : g s i = none) :
    M.firstFrom g s (i :: rest) = M.firstFrom g (M.step s i) rest := by
  rw [firstFrom, h, Option.none_or]

/-- **In a state that never changes** nothing is answered that is not
answered in it. -/
theorem firstFrom_of_stuck {s : σ} (hs : ∀ i, M.step s i = s) (hg : ∀ i, g s i = none) :
    ∀ l, M.firstFrom g s l = none
  | [] => rfl
  | i :: l => by rw [firstFrom_cons_of_none (hg i), hs i, firstFrom_of_stuck hs hg l]

end Machine

end BbAuth
