import BbAuth.Library.Sieve
import BbAuth.Model.TextNormalize
/-!
# The laws of text normalization

A normalized text is its words, with one blank or one line break between
two of them; for a comparison the words are cut once more, at the
punctuation, and lower-cased. Nothing but the words is looked at, so a text
may be normalized once more, or before, and two texts compare as their
normal forms do. `uniqueJoined` is a sieve by that comparison.
-/

namespace BbAuth

namespace TextNormalize

section

variable {α : Type} [TextUnit α] {text l : List α} {c : α}

open TextUnit

/-! ## Words -/

theorem words_simplified (l : List α) : words isSpace (simplified l) = words isSpace l :=
  words_unwords isSpace_blank fun _ hw => mem_words hw

/-- **A simplified text is settled.** -/
theorem simplified_simplified (l : List α) : simplified (simplified l) = simplified l := by
  rw [simplified, words_simplified, ← simplified]

/-- The only white space of a simplified text is its blanks. -/
theorem eq_blank_of_mem_simplified (h : c ∈ simplified l) (hs : isSpace c = true) :
    c = ofAscii ' ' := by
  rcases mem_intercalate h with h | ⟨w, hw, hc⟩
  · exact h
  · exact absurd hs (by simp [(mem_words hw).2 c hc])

/-- It holds no line break. -/
theorem newline_notMem (h : simplified l = l) : (newline : α) ∉ l := fun hmem => by
  rw [← h] at hmem
  exact newline_ne_blank (eq_blank_of_mem_simplified hmem isSpace_newline)

/-- A simplified text starts with no white space. -/
theorem isSpace_head (h : simplified l = l) (hc : c ∈ l.head?) : isSpace c = false := by
  cases hw : words isSpace l with
  | nil =>
      rw [simplified, hw] at h
      rw [← h] at hc
      simp at hc
  | cons w ws =>
      obtain ⟨hne, hfree⟩ := mem_words (hw ▸ List.mem_cons_self .. : w ∈ words isSpace l)
      rw [← h, simplified, hw, head?_intercalate hne] at hc
      exact hfree c (List.mem_of_mem_head? hc)

/-- And ends with none. -/
theorem isSpace_last (h : simplified l = l) (hc : c ∈ l.getLast?) : isSpace c = false := by
  rcases List.eq_nil_or_concat (words isSpace l) with hw | ⟨ws, w, hw⟩
  · rw [simplified, hw] at h
    rw [← h] at hc
    simp at hc
  · obtain ⟨hne, hfree⟩ := mem_words (hw ▸ by simp : w ∈ words isSpace l)
    rw [← h, simplified, hw, List.concat_eq_append, getLast?_intercalate hne] at hc
    exact hfree c (List.mem_of_mem_getLast? hc)

/-- A text is trimmed to nothing if it is blank. -/
theorem isSpace_of_trimmed_eq_nil (h : trimmed l = []) : ∀ c ∈ l, isSpace c = true := by
  have hw : words isSpace (trimmed l) = words isSpace l := words_trim l
  rw [h, words_nil] at hw
  exact words_eq_nil_iff.1 hw.symm

variable [DecidableEq α]

/-! ## Lines -/

/-- The lines of a normalized text. -/
def detailLines (text : List α) : List (List α) :=
  (((replace (ofAscii '\r') newline text).splitOn newline).map simplified).filter
    fun line => !line.isEmpty

theorem normalizeDetailText_eq (text : List α) :
    normalizeDetailText text = joinLines (detailLines text) := rfl

/-- **A line of a normalized text** is not empty, and simplified. -/
theorem mem_detailLines (h : l ∈ detailLines text) : l ≠ [] ∧ simplified l = l := by
  obtain ⟨hl, hne⟩ := List.mem_filter.1 h
  obtain ⟨piece, -, rfl⟩ := List.mem_map.1 hl
  exact ⟨by simpa using hne, simplified_simplified piece⟩

/-- A normalized text has no white space but blanks and line breaks. -/
theorem eq_of_mem_normalizeDetailText (h : c ∈ normalizeDetailText text)
    (hs : isSpace c = true) : c = ofAscii ' ' ∨ c = newline := by
  rcases mem_intercalate h with h | ⟨line, hline, hc⟩
  · exact .inr h
  · rw [← (mem_detailLines hline).2] at hc
    exact .inl (eq_blank_of_mem_simplified hc hs)

/-- Lines that are settled are the lines of the text they make. -/
theorem detailLines_joinLines {lines : List (List α)}
    (h : ∀ l ∈ lines, l ≠ [] ∧ simplified l = l) : detailLines (joinLines lines) = lines := by
  have hreplace : replace (ofAscii '\r') newline (joinLines lines) = joinLines lines := by
    refine (List.map_congr_left fun c hc => ?_).trans (List.map_id' _)
    by_cases hr : c = ofAscii '\r'
    · rw [if_pos hr]
      rcases mem_intercalate hc with hn | ⟨l, hl, hcl⟩
      · exact hn.symm
      · have hs : isSpace c = true := hr ▸ isSpace_return
        rw [← (h l hl).2] at hcl
        exact (return_ne_blank (hr.symm.trans (eq_blank_of_mem_simplified hcl hs))).elim
    · exact if_neg hr
  rw [detailLines, hreplace]
  by_cases hnil : lines = []
  · rw [hnil]
    rfl
  · rw [joinLines, List.splitOn_intercalate newline (fun l hl => newline_notMem (h l hl).2) hnil]
    have hmap : lines.map simplified = lines :=
      List.map_congr_left (g := id) (fun l hl => (h l hl).2) |>.trans (List.map_id _)
    rw [hmap, List.filter_eq_self]
    exact fun l hl => by simpa using (h l hl).1

/-- **A normalized text is settled.** -/
theorem normalizeDetailText_idem (text : List α) :
    normalizeDetailText (normalizeDetailText text) = normalizeDetailText text := by
  rw [normalizeDetailText_eq (normalizeDetailText text), normalizeDetailText_eq text,
    detailLines_joinLines fun l hl => mem_detailLines hl]

/-- The lines of a normalized text that is not empty. -/
theorem splitOn_normalizeDetailText (h : detailLines text ≠ []) :
    (normalizeDetailText text).splitOn newline = detailLines text :=
  List.splitOn_intercalate newline (fun _ hl => newline_notMem (mem_detailLines hl).2) h

/-- **Normalizing keeps the words.** -/
theorem words_normalizeDetailText (text : List α) :
    words isSpace (normalizeDetailText text) = words isSpace text := by
  have hnewline : isSpace (newline : α) = true := isSpace_newline
  have hspace : ∀ c : α, isSpace (if c = ofAscii '\r' then newline else c) = isSpace c := fun c => by
    by_cases hr : c = ofAscii '\r'
    · rw [if_pos hr, hr, hnewline, isSpace_return]
    · rw [if_neg hr]
  have hreplace : words isSpace (replace (ofAscii '\r') newline text) = words isSpace text := by
    rw [replace, words_map hspace]
    refine (List.map_congr_left fun w hw => ?_).trans (List.map_id' _)
    refine (List.map_congr_left fun c hc => if_neg fun hr => ?_).trans (List.map_id' _)
    have := (mem_words hw).2 c hc
    rw [hr, isSpace_return] at this
    exact absurd this (by decide)
  have hfilter : ∀ lines : List (List α),
      (lines.filter fun line => !line.isEmpty).flatMap (words isSpace) =
        lines.flatMap (words isSpace) := fun lines => by
    induction lines with
    | nil => rfl
    | cons line lines ih => cases line <;> simp [ih]
  have hpieces : ∀ pieces : List (List α), (pieces.map simplified).flatMap (words isSpace) =
      pieces.flatMap (words isSpace) := fun pieces => by
    rw [List.flatMap_map]
    exact List.flatMap_congr fun piece _ => words_simplified piece
  rw [normalizeDetailText_eq, joinLines, words_intercalate hnewline, detailLines, hfilter, hpieces,
    words_splitOn hnewline, hreplace]

end

/-! ## Comparison -/

variable (K : LetterCase) {text t a b : List Char}

/-- What separates words in a comparison: white space and the punctuation
that is removed. -/
def separates (c : Char) : Bool := Text.isSpaceChar c || c ∈ ['`', '"', ',', '.']

/-- **The words a text is compared by.** -/
def compareWords (text : List Char) : List (List Char) :=
  (words Text.isSpaceChar text).flatMap fun w => words separates (toLower K w)

/-- A letter-cased blank or line break is still one. -/
theorem lower_of_space {c : Char} (h : c = ' ' ∨ c = '\n') : K.lower c = [c] := by
  rcases h with rfl | rfl <;> exact K.lower_ascii _ (by decide)

/-- Punctuation becomes a blank. -/
def blanked (c : Char) : Char := if c ∈ ['`', '"', ',', '.'] then ' ' else c

theorem replace_removed (l : List Char) :
    replace '.' ' ' (replace ',' ' ' (replace '"' ' ' (replace '`' ' ' l))) = l.map blanked := by
  simp only [replace, List.map_map]
  refine List.map_congr_left fun c _ => ?_
  by_cases h : c ∈ ['`', '"', ',', '.']
  · simp only [List.mem_cons, List.not_mem_nil, or_false] at h
    rcases h with rfl | rfl | rfl | rfl <;> rfl
  · rw [blanked, if_neg h]
    simp only [List.mem_cons, List.not_mem_nil, or_false, not_or] at h
    obtain ⟨h1, h2, h3, h4⟩ := h
    simp [h1, h2, h3, h4]

theorem isSpaceChar_blanked (c : Char) : Text.isSpaceChar (blanked c) = separates c := by
  by_cases h : c ∈ ['`', '"', ',', '.']
  · rw [blanked, if_pos h, separates, decide_eq_true h, Bool.or_true]
    decide
  · rw [blanked, if_neg h, separates, decide_eq_false h, Bool.or_false]

/-- **A text is compared by its words.** -/
theorem normalizeCompareText_eq (text : List Char) :
    normalizeCompareText K text = [' '].intercalate (compareWords K text) := by
  have hpunct : ∀ l : List Char,
      words Text.isSpaceChar (replace '.' ' ' (replace ',' ' ' (replace '"' ' '
        (replace '`' ' ' l)))) = words separates l := fun l => by
    rw [replace_removed, words_map isSpaceChar_blanked]
    refine (List.map_congr_left fun w hw => ?_).trans (List.map_id' _)
    refine (List.map_congr_left fun c hc => if_neg fun hr => ?_).trans (List.map_id' _)
    have := (mem_words hw).2 c hc
    simp [separates, hr] at this
  have hwords : words separates (toLower K (normalizeDetailText text)) = compareWords K text := by
    rw [toLower, words_flatMap (p := Text.isSpaceChar), compareWords]
    · exact congrArg (List.flatMap _) (words_normalizeDetailText text)
    · intro c hc hs
      rw [lower_of_space K (eq_of_mem_normalizeDetailText hc hs)]
      exact ⟨by simp, List.forall_mem_singleton.2 (by rw [separates, hs]; rfl)⟩
  rw [← hwords, ← hpunct]
  rfl

/-- **Characters that have been lower-cased stay as they are.** -/
theorem lower_of_mem {c d : Char} (h : d ∈ K.lower c) : K.lower d = [d] := by
  have hlist : ∀ l : List Char, l.flatMap K.lower = l → ∀ d ∈ l, K.lower d = [d] := by
    intro l
    induction l with
    | nil => simp
    | cons x l ih =>
        intro heq
        rw [List.flatMap_cons] at heq
        -- every character gives one at least, so none gives two
        have hle : ∀ m : List Char, m.length ≤ (m.flatMap K.lower).length := fun m => by
          induction m with
          | nil => simp
          | cons y m ihm =>
              have := List.length_pos_iff.2 (K.lower_ne_nil y)
              rw [List.flatMap_cons, List.length_append, List.length_cons]
              omega
        have hlen := congrArg List.length heq
        rw [List.length_append, List.length_cons] at hlen
        have hone : (K.lower x).length = 1 := by
          have := List.length_pos_iff.2 (K.lower_ne_nil x)
          have := hle l
          omega
        obtain ⟨y, hy⟩ := List.length_eq_one_iff.1 hone
        rw [hy, List.singleton_append, List.cons.injEq] at heq
        exact List.forall_mem_cons.2 ⟨by rw [hy, heq.1], ih heq.2⟩
  exact hlist _ (K.lower_lower c) d h

/-- The words of a comparison are free of what separates them, and
lower-cased. -/
theorem mem_compareWords {w : List Char} (h : w ∈ compareWords K text) :
    w ≠ [] ∧ (∀ c ∈ w, separates c = false) ∧ toLower K w = w := by
  obtain ⟨v, -, hw⟩ := List.mem_flatMap.1 h
  obtain ⟨hne, hfree⟩ := mem_words hw
  refine ⟨hne, hfree, (List.flatMap_congr fun d hd => ?_).trans (List.flatMap_singleton' _)⟩
  obtain ⟨c, -, hc⟩ := List.mem_flatMap.1 (mem_of_mem_words hw hd)
  exact lower_of_mem K hc

/-- **Comparison sees the words only.** -/
theorem normalizeCompareText_congr {u : List Char}
    (h : words Text.isSpaceChar text = words Text.isSpaceChar u) :
    normalizeCompareText K text = normalizeCompareText K u := by
  rw [normalizeCompareText_eq, normalizeCompareText_eq, compareWords, h, ← compareWords]

theorem normalizeCompareText_normalizeDetailText (text : List Char) :
    normalizeCompareText K (normalizeDetailText text) = normalizeCompareText K text :=
  normalizeCompareText_congr K (words_normalizeDetailText text)

theorem normalizeCompareText_trimmed (text : List Char) :
    normalizeCompareText K (trimmed text) = normalizeCompareText K text :=
  normalizeCompareText_congr K (words_trim text)

/-- **A text made comparable is settled.** -/
theorem normalizeCompareText_idem (text : List Char) :
    normalizeCompareText K (normalizeCompareText K text) = normalizeCompareText K text := by
  have hwords : words Text.isSpaceChar (normalizeCompareText K text) = compareWords K text := by
    rw [normalizeCompareText_eq]
    refine words_unwords (by decide) fun w hw => ?_
    obtain ⟨hne, hfree, -⟩ := mem_compareWords K hw
    exact ⟨hne, fun c hc => (Bool.or_eq_false_iff.1 (hfree c hc)).1⟩
  rw [normalizeCompareText_eq K (normalizeCompareText K text), compareWords, hwords,
    normalizeCompareText_eq]
  refine congrArg _ ((List.flatMap_congr fun w hw => ?_).trans (List.flatMap_singleton' _))
  obtain ⟨hne, hfree, hlower⟩ := mem_compareWords K hw
  rw [hlower, words_of_free hfree hne]

/-! ## Equivalence -/

theorem textEquivalent_iff : textEquivalent K a b = true ↔
    normalizeCompareText K a ≠ [] ∧ normalizeCompareText K b ≠ [] ∧
      (normalizeCompareText K b <+: normalizeCompareText K a ∨
        normalizeCompareText K a <+: normalizeCompareText K b) := by
  rw [textEquivalent]
  cases ha : normalizeCompareText K a with
  | nil => simp
  | cons x l =>
      cases hb : normalizeCompareText K b with
      | nil => simp
      | cons y m =>
          simp only [List.isEmpty_cons, Bool.or_self, Bool.false_eq_true, if_false, Bool.or_eq_true,
            decide_eq_true_eq, List.isPrefixOf_iff_prefix, ne_eq, List.cons_ne_nil, not_false_eq_true,
            true_and]
          refine ⟨?_, fun h => h.elim (fun h => .inl (.inr h)) .inr⟩
          rintro ((heq | h) | h)
          · exact .inl (heq ▸ List.prefix_rfl)
          · exact .inl h
          · exact .inr h

theorem textEquivalent_comm (a b : List Char) : textEquivalent K a b = textEquivalent K b a := by
  rw [Bool.eq_iff_iff, textEquivalent_iff, textEquivalent_iff]
  exact ⟨fun ⟨ha, hb, h⟩ => ⟨hb, ha, h.symm⟩, fun ⟨hb, ha, h⟩ => ⟨ha, hb, h.symm⟩⟩

/-- Equivalence looks at the compared forms only. -/
theorem textEquivalent_congr {a' b' : List Char}
    (ha : normalizeCompareText K a = normalizeCompareText K a')
    (hb : normalizeCompareText K b = normalizeCompareText K b') :
    textEquivalent K a b = textEquivalent K a' b' := by
  rw [textEquivalent, textEquivalent, ha, hb]

/-! ## The values that are kept -/

/-- The values that are looked at: trimmed, and not blank. -/
def considered (values : List (List Char)) : List (List Char) :=
  (values.map trimmed).filter fun v => !v.isEmpty

/-- One text stands for another. -/
def StandsFor (a b : List Char) : Prop := textEquivalent K a b = true

instance : DecidableRel (StandsFor K) := fun a b =>
  inferInstanceAs (Decidable (textEquivalent K a b = true))

theorem keepUnique_eq (filtered : List (List Char)) (value : List Char) :
    keepUnique K filtered value =
      if trimmed value = [] then filtered else sift (StandsFor K) filtered (trimmed value) := by
  rw [keepUnique, sift]
  by_cases hv : trimmed value = []
  · simp [hv]
  · simp only [if_neg hv, List.any_eq_true]
    exact if_congr Iff.rfl rfl rfl

/-- **`uniqueJoined` is a sieve by equivalence.** -/
theorem uniqueValues_eq (values : List (List Char)) :
    uniqueValues K values = sieve (StandsFor K) (considered values) := by
  induction values using List.reverseRecOn with
  | nil => rfl
  | append_singleton values value ih =>
      rw [uniqueValues, List.foldl_append, ← uniqueValues, ih, List.foldl_cons, List.foldl_nil,
        keepUnique_eq, considered, considered, List.map_append, List.filter_append]
      by_cases hv : trimmed value = []
      · simp [hv]
      · simp [hv]

/-- **The laws of normalization**, for any lower-casing as documented.
Normalizing is settled after the first time, for display and for comparison,
and may come before a comparison; equivalence is symmetric, and takes a text
for its normal forms. What `uniqueJoined` keeps is in the order of the
values, no kept value is equivalent to another, and each value that is
dropped is blank or equivalent to one kept before it. -/
theorem normalization_laws (K : LetterCase) :
    (∀ t : List Char, normalizeDetailText (normalizeDetailText t) = normalizeDetailText t) ∧
    (∀ t, normalizeCompareText K (normalizeCompareText K t) = normalizeCompareText K t) ∧
    (∀ t, normalizeCompareText K (normalizeDetailText t) = normalizeCompareText K t) ∧
    (∀ a b, textEquivalent K a b = textEquivalent K b a) ∧
    (∀ a b, textEquivalent K (normalizeDetailText a) b = textEquivalent K a b ∧
      textEquivalent K (normalizeCompareText K a) b = textEquivalent K a b ∧
      textEquivalent K a (normalizeDetailText b) = textEquivalent K a b ∧
      textEquivalent K a (normalizeCompareText K b) = textEquivalent K a b) ∧
    ∀ values, uniqueJoined K values = joinLines (uniqueValues K values) ∧
      (uniqueValues K values).Sublist (values.map trimmed) ∧
      ((uniqueValues K values).Pairwise fun a b => textEquivalent K a b = false) ∧
      ∀ before v after, values = before ++ v :: after →
        uniqueValues K before <+: uniqueValues K values ∧
          (uniqueValues K (before ++ [v]) = uniqueValues K before ++ [trimmed v] ∨
            uniqueValues K (before ++ [v]) = uniqueValues K before ∧
              (trimmed v = [] ∨ ∃ kept ∈ uniqueValues K before, textEquivalent K kept v = true)) := by
  refine ⟨normalizeDetailText_idem, normalizeCompareText_idem K,
    normalizeCompareText_normalizeDetailText K, textEquivalent_comm K, fun a b => ⟨?_, ?_, ?_, ?_⟩,
    fun values => ⟨rfl, ?_, ?_, ?_⟩⟩
  · exact textEquivalent_congr K (normalizeCompareText_normalizeDetailText K a) rfl
  · exact textEquivalent_congr K (normalizeCompareText_idem K a) rfl
  · exact textEquivalent_congr K rfl (normalizeCompareText_normalizeDetailText K b)
  · exact textEquivalent_congr K rfl (normalizeCompareText_idem K b)
  · rw [uniqueValues_eq]
    exact (sieve_sublist _).trans List.filter_sublist
  · rw [uniqueValues_eq]
    exact (pairwise_sieve _).imp fun h => by simpa [StandsFor] using h
  · rintro before v after rfl
    have hstep : uniqueValues K (before ++ [v]) = keepUnique K (uniqueValues K before) v := by
      rw [uniqueValues, List.foldl_append]
      rfl
    refine ⟨?_, ?_⟩
    · rw [uniqueValues_eq, uniqueValues_eq, considered, considered, List.map_append,
        List.filter_append]
      exact isPrefix_sieve _ _
    · rw [hstep, keepUnique_eq]
      by_cases hv : trimmed v = []
      · exact .inr ⟨if_pos hv, .inl hv⟩
      · rw [if_neg hv]
        by_cases hx : ∃ kept ∈ uniqueValues K before, StandsFor K kept (trimmed v)
        · obtain ⟨kept, hkept, hstands⟩ := hx
          refine .inr ⟨sift_of_exists ⟨kept, hkept, hstands⟩, .inr ⟨kept, hkept, ?_⟩⟩
          rw [← textEquivalent_congr K rfl (normalizeCompareText_trimmed K v)]
          exact hstands
        · exact .inl (sift_of_not_exists hx)

end TextNormalize

end BbAuth
