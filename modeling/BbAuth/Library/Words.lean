import Mathlib.Data.List.Basic
import Mathlib.Data.List.TakeWhile
/-!
# Library — the words of a text

A text is cut into words by a predicate that says what separates them. The
words depend on what stands between separators only: not on how many there
are, nor on a finer cut made before. So a text put together again from its
words has the same words, and a map that keeps separators apart carries
words to words.
-/

namespace BbAuth

variable {α β : Type} (p : α → Bool) (q : β → Bool)

/-- **The words of a text**: its runs free of separators. -/
def words (l : List α) : List (List α) := (l.splitOnP p).filter fun w => !w.isEmpty

/-- The text without the separators at its ends. -/
def trim (l : List α) : List α := ((l.dropWhile p).reverse.dropWhile p).reverse

variable {p q} {l m w : List α} {a b : α} {vs ws : List (List α)}

/-- **Along the separators**: a text has none, or it has a first one. -/
theorem separator_induction {P : List α → Prop} (last : ∀ l, (∀ a ∈ l, p a = false) → P l)
    (cut : ∀ l a m, (∀ x ∈ l, p x = false) → p a = true → P m → P (l ++ a :: m)) :
    ∀ l, P l := by
  -- what has been passed so far is free of separators
  have hpassed : ∀ l pre : List α, (∀ a ∈ pre, p a = false) → P (pre ++ l) := by
    intro l
    induction l with
    | nil =>
        intro pre hpre
        rw [List.append_nil]
        exact last pre hpre
    | cons a l ih =>
        intro pre hpre
        by_cases ha : p a = true
        · exact cut pre a l hpre ha (ih [] (by simp))
        · rw [List.append_cons]
          refine ih (pre ++ [a]) (List.forall_mem_append.2 ⟨hpre, ?_⟩)
          exact List.forall_mem_singleton.2 (by simpa using ha)
  exact fun l => hpassed l [] (by simp)

@[simp] theorem words_nil : words p ([] : List α) = [] := rfl

theorem words_append_cons (h : p a = true) : words p (l ++ a :: m) = words p l ++ words p m := by
  rw [words, List.splitOnP_append_cons l m h, List.filter_append, words, words]

theorem words_cons (h : p a = true) : words p (a :: m) = words p m := words_append_cons (l := []) h

theorem words_of_free (h : ∀ a ∈ l, p a = false) (hl : l ≠ []) : words p l = [l] := by
  rw [words, List.splitOnP_eq_singleton h]
  simp [hl]

theorem words_append_seps {s : List α} (hs : s ≠ []) (h : ∀ a ∈ s, p a = true) :
    words p (l ++ (s ++ m)) = words p l ++ words p m := by
  induction s generalizing l with
  | nil => exact (hs rfl).elim
  | cons a s ih =>
      obtain ⟨ha, hrest⟩ := List.forall_mem_cons.1 h
      rw [List.cons_append, words_append_cons ha]
      cases s with
      | nil => rfl
      | cons b s =>
          have := ih (l := []) (by simp) hrest
          rw [List.nil_append, words_nil, List.nil_append] at this
          rw [this]

/-- A text free of separators is one word, or none. -/
theorem eq_of_mem_words (h : ∀ a ∈ l, p a = false) (hw : w ∈ words p l) : w = l ∧ l ≠ [] := by
  by_cases hl : l = []
  · rw [hl] at hw
    exact absurd hw (by simp)
  · rw [words_of_free h hl, List.mem_singleton] at hw
    exact ⟨hw, hl⟩

/-- **A word** is not empty, free of separators, and made of elements of the
text. -/
theorem mem_words' (hw : w ∈ words p l) : w ≠ [] ∧ ∀ a ∈ w, p a = false ∧ a ∈ l := by
  induction l using separator_induction (p := p) with
  | last l hl =>
      obtain ⟨rfl, hne⟩ := eq_of_mem_words hl hw
      exact ⟨hne, fun a ha => ⟨hl a ha, ha⟩⟩
  | cut l x m hl hx ih =>
      rw [words_append_cons hx, List.mem_append] at hw
      rcases hw with hw | hw
      · obtain ⟨rfl, hne⟩ := eq_of_mem_words hl hw
        exact ⟨hne, fun a ha => ⟨hl a ha, List.mem_append_left _ ha⟩⟩
      · obtain ⟨hne, hmem⟩ := ih hw
        exact ⟨hne, fun a ha => ⟨(hmem a ha).1, by simp [(hmem a ha).2]⟩⟩

theorem mem_words (hw : w ∈ words p l) : w ≠ [] ∧ ∀ a ∈ w, p a = false :=
  ⟨(mem_words' hw).1, fun a ha => ((mem_words' hw).2 a ha).1⟩

theorem mem_of_mem_words (hw : w ∈ words p l) (ha : a ∈ w) : a ∈ l := ((mem_words' hw).2 a ha).2

theorem words_eq_nil_iff : words p l = [] ↔ ∀ a ∈ l, p a = true := by
  induction l using separator_induction (p := p) with
  | last l hl =>
      by_cases hnil : l = []
      · simp [hnil]
      · obtain ⟨a, m, rfl⟩ := List.exists_cons_of_ne_nil hnil
        simp [words_of_free hl hnil, hl a (by simp)]
  | cut l a m hl ha ih =>
      rw [words_append_cons ha, List.append_eq_nil_iff, ih]
      cases l with
      | nil => simp [ha]
      | cons x l =>
          have hx := hl x (by simp)
          simp [words_of_free hl, hx]

/-- Separators at either end do not matter. -/
theorem words_seps_append {s : List α} (h : ∀ a ∈ s, p a = true) : words p (s ++ m) = words p m := by
  induction s with
  | nil => rfl
  | cons a s ih =>
      obtain ⟨ha, hs⟩ := List.forall_mem_cons.1 h
      rw [List.cons_append, words_cons ha, ih hs]

theorem words_append_of_seps {s : List α} (h : ∀ a ∈ s, p a = true) :
    words p (l ++ s) = words p l := by
  by_cases hs : s = []
  · rw [hs, List.append_nil]
  · have := words_append_seps (l := l) (m := []) hs h
    rwa [List.append_nil, words_nil, List.append_nil] at this

theorem words_trim (l : List α) : words p (trim p l) = words p l := by
  have hfront : words p (l.dropWhile p) = words p l := by
    have h := words_seps_append (m := l.dropWhile p) fun a (ha : a ∈ l.takeWhile p) =>
      List.mem_takeWhile_imp ha
    rw [← h, List.takeWhile_append_dropWhile]
  have hback : ∀ m : List α, words p (m.reverse.dropWhile p).reverse = words p m := fun m => by
    have h := words_append_of_seps (l := (m.reverse.dropWhile p).reverse)
      fun a (ha : a ∈ (m.reverse.takeWhile p).reverse) =>
        List.mem_takeWhile_imp (List.mem_reverse.1 ha)
    rw [← h, ← List.reverse_append, List.takeWhile_append_dropWhile, List.reverse_reverse]
  rw [trim, hback, hfront]

/-! ## Putting texts together -/

theorem mem_intercalate {ls : List (List α)} (h : a ∈ [b].intercalate ls) :
    a = b ∨ ∃ l ∈ ls, a ∈ l := by
  induction ls with
  | nil => simp at h
  | cons l ls ih =>
      cases ls with
      | nil => exact .inr ⟨l, by simp, by simpa using h⟩
      | cons l' ls =>
          rw [List.intercalate_cons_cons, List.append_assoc, List.mem_append] at h
          rcases h with h | h
          · exact .inr ⟨l, by simp, h⟩
          · rcases List.mem_cons.1 h with h | h
            · exact .inl h
            · exact (ih h).imp_right fun ⟨l, hl, ha⟩ => ⟨l, List.mem_cons_of_mem _ hl, ha⟩

theorem intercalate_append (hws : ws ≠ []) (hvs : vs ≠ []) :
    [b].intercalate (ws ++ vs) = [b].intercalate ws ++ b :: [b].intercalate vs := by
  induction ws with
  | nil => exact absurd rfl hws
  | cons w ws ih =>
      cases ws with
      | nil => rw [List.singleton_append, List.intercalate_cons_of_ne_nil hvs,
          List.intercalate_singleton, List.append_assoc, List.singleton_append]
      | cons w' ws =>
          rw [List.cons_append, List.cons_append, List.intercalate_cons_cons,
            List.intercalate_cons_cons, ← List.cons_append, ih (by simp),
            List.append_assoc (w ++ [b])]

/-- More texts behind. -/
theorem isPrefix_intercalate (h : vs <+: ws) : [b].intercalate vs <+: [b].intercalate ws := by
  obtain ⟨us, rfl⟩ := h
  by_cases hvs : vs = []
  · rw [hvs]
    exact List.nil_prefix
  · by_cases hus : us = []
    · simp [hus]
    · rw [intercalate_append hvs hus]
      exact List.prefix_append _ _

/-- Texts put together start with the first of them. -/
theorem prefix_intercalate (w : List α) (ws : List (List α)) : w <+: [b].intercalate (w :: ws) := by
  simpa using isPrefix_intercalate (b := b) (List.prefix_append [w] ws)

theorem head?_intercalate (hw : w ≠ []) : ([b].intercalate (w :: ws)).head? = w.head? := by
  obtain ⟨rest, hrest⟩ := prefix_intercalate (b := b) w ws
  rw [← hrest, List.head?_append_of_ne_nil w hw]

theorem getLast?_intercalate (hw : w ≠ []) :
    ([b].intercalate (ws ++ [w])).getLast? = w.getLast? := by
  by_cases hws : ws = []
  · rw [hws, List.nil_append, List.intercalate_singleton]
  · rw [intercalate_append hws (by simp), List.intercalate_singleton,
      List.getLast?_append_of_ne_nil _ (by simp), List.getLast?_cons_of_ne_nil hw]

/-- More texts around. -/
theorem isInfix_intercalate (h : vs <:+: ws) : [b].intercalate vs <:+: [b].intercalate ws := by
  obtain ⟨us, us', rfl⟩ := h
  refine List.IsInfix.trans ?_ (isPrefix_intercalate (List.prefix_append (us ++ vs) us')).isInfix
  by_cases hvs : vs = []
  · rw [hvs]
    exact List.nil_infix
  · by_cases hus : us = []
    · simp [hus]
    · rw [intercalate_append hus hvs]
      exact ⟨[b].intercalate us ++ [b], [], by simp⟩

/-- The words of texts with a separator between them. -/
theorem words_intercalate (h : p b = true) (ls : List (List α)) :
    words p ([b].intercalate ls) = ls.flatMap (words p) := by
  induction ls with
  | nil => rfl
  | cons l ls ih =>
      cases ls with
      | nil => simp
      | cons l' ls =>
          rw [List.intercalate_cons_cons, List.append_assoc, List.singleton_append,
            words_append_cons h, ih, List.flatMap_cons (x := l)]

/-- **Words with a separator between them are read back.** -/
theorem words_unwords (h : p b = true) (hws : ∀ w ∈ ws, w ≠ [] ∧ ∀ a ∈ w, p a = false) :
    words p ([b].intercalate ws) = ws := by
  rw [words_intercalate h]
  induction ws with
  | nil => rfl
  | cons w ws ih =>
      obtain ⟨hw, hws⟩ := List.forall_mem_cons.1 hws
      rw [List.flatMap_cons, words_of_free hw.2 hw.1, ih hws, List.singleton_append]

/-- The words of the pieces of a text are its words. -/
theorem words_splitOn [DecidableEq α] (h : p b = true) (l : List α) :
    (l.splitOn b).flatMap (words p) = words p l := by
  rw [← words_intercalate h, List.intercalate_splitOn]

/-! ## Under a map -/

/-- **A map that keeps separators apart carries words to words**: cutting
the image is cutting first, and then the image of every word. -/
theorem words_flatMap {f : α → List β}
    (h : ∀ a ∈ l, p a = true → f a ≠ [] ∧ ∀ b ∈ f a, q b = true) :
    words q (l.flatMap f) = (words p l).flatMap fun w => words q (w.flatMap f) := by
  induction l using separator_induction (p := p) with
  | last l hl =>
      by_cases hnil : l = []
      · rw [hnil]
        rfl
      · rw [words_of_free hl hnil, List.flatMap_singleton]
  | cut l a m hl ha ih =>
      obtain ⟨hne, hsep⟩ := h a (by simp) ha
      rw [List.flatMap_append, List.flatMap_cons, words_append_seps hne hsep,
        words_append_cons ha, List.flatMap_append, ih fun a ha => h a (by simp [ha])]
      by_cases hnil : l = []
      · rw [hnil]
        rfl
      · rw [words_of_free hl hnil, List.flatMap_singleton]

/-- A map that tells the separators apart is one on the words. -/
theorem words_map {f : α → β} (h : ∀ a, q (f a) = p a) :
    words q (l.map f) = (words p l).map (List.map f) := by
  have hflat : l.map f = l.flatMap fun a => [f a] := List.map_eq_flatMap
  rw [hflat, words_flatMap (p := p) fun a _ ha => ⟨by simp, by simpa [h] using ha⟩,
    List.map_eq_flatMap]
  refine List.flatMap_congr fun w hw => ?_
  obtain ⟨hne, hfree⟩ := mem_words hw
  rw [← List.map_eq_flatMap, words_of_free (List.forall_mem_map.2 fun a ha => (h a).trans (hfree a ha))
    (by simpa using hne)]

end BbAuth
