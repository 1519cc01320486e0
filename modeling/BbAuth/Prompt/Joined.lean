import BbAuth.Prompt.Normalize
import Mathlib.Data.List.DropRight
/-!
# Texts that are put together

The steps of the prompt's builder put texts together and never look into the
result. What is kept of a list of values is all there, line by line: for a
comparison, a text is within what it was joined into, and so are its own
lines.
-/

namespace BbAuth

namespace TextNormalize

section

variable {α : Type} [TextUnit α] {text l v a : List α} {c : α} {vs : List (List α)}

open TextUnit

/-! ## Trimmed texts -/

theorem trimmed_eq_self (hhead : ∀ c ∈ l.head?, isSpace c = false)
    (hlast : ∀ c ∈ l.getLast?, isSpace c = false) : trimmed l = l := by
  have hfront : l.dropWhile isSpace = l := by
    cases l with
    | nil => rfl
    | cons c l => exact List.dropWhile_cons_of_neg (by simp [hhead c rfl])
  have hback : l.rdropWhile isSpace = l := by
    rw [List.rdropWhile_eq_self_iff]
    exact fun hl => by simp [hlast _ (List.getLast?_eq_getLast_of_ne_nil hl)]
  rw [trimmed, trim, hfront]
  exact hback

theorem isSpace_head_trimmed (h : c ∈ (trimmed l).head?) : isSpace c = false := by
  have hpre : trimmed l <+: l.dropWhile isSpace := List.rdropWhile_prefix isSpace _
  obtain ⟨rest, hrest⟩ := hpre
  have hc : c ∈ (l.dropWhile isSpace).head? := by
    rw [← hrest, List.head?_append, h]
    rfl
  have := List.head?_dropWhile_not isSpace l
  rw [Option.mem_def.1 hc] at this
  simpa using this

theorem isSpace_last_trimmed (h : c ∈ (trimmed l).getLast?) : isSpace c = false := by
  have hne : trimmed l ≠ [] := fun hnil => by simp [hnil] at h
  have := List.rdropWhile_last_not isSpace (l.dropWhile isSpace) hne
  rw [List.getLast?_eq_getLast_of_ne_nil hne, Option.mem_some] at h
  rw [← h]
  exact Bool.eq_false_iff.2 this

@[simp] theorem trimmed_trimmed (l : List α) : trimmed (trimmed l) = trimmed l :=
  trimmed_eq_self (fun _ => isSpace_head_trimmed) fun _ => isSpace_last_trimmed

theorem trimmed_of_simplified (h : simplified l = l) : trimmed l = l :=
  trimmed_eq_self (fun _ => isSpace_head h) fun _ => isSpace_last h

/-- Trimmed values make a trimmed text. -/
theorem trimmed_joinLines (h : ∀ v ∈ vs, v ≠ [] ∧ trimmed v = v) :
    trimmed (joinLines vs) = joinLines vs := by
  refine trimmed_eq_self (fun c hc => ?_) fun c hc => ?_
  · cases vs with
    | nil => simp [joinLines] at hc
    | cons v vs =>
        obtain ⟨hne, hv⟩ := h v (by simp)
        rw [joinLines, head?_intercalate hne, ← hv] at hc
        exact isSpace_head_trimmed hc
  · rcases List.eq_nil_or_concat vs with rfl | ⟨us, v, rfl⟩
    · simp [joinLines] at hc
    · obtain ⟨hne, hv⟩ := h v (by simp)
      rw [joinLines, List.concat_eq_append, getLast?_intercalate hne, ← hv] at hc
      exact isSpace_last_trimmed hc

/-- A text is not empty if one of those it is joined from is not. -/
theorem joinLines_ne_nil (h : v ∈ vs) (hv : v ≠ []) : joinLines vs ≠ [] := fun hnil => by
  obtain ⟨us, us', rfl⟩ := List.append_of_mem h
  have hinfix : v <:+: joinLines (us ++ v :: us') := by
    simpa [joinLines] using isInfix_intercalate (b := (newline : α)) (⟨us, us', by simp⟩ :
      [v] <:+: us ++ v :: us')
  rw [hnil, List.infix_nil] at hinfix
  exact hv hinfix

variable [DecidableEq α]

@[simp] theorem trimmed_normalizeDetailText (text : List α) :
    trimmed (normalizeDetailText text) = normalizeDetailText text :=
  trimmed_joinLines fun _ hl => ⟨(mem_detailLines hl).1, trimmed_of_simplified (mem_detailLines hl).2⟩

/-! ## Lines -/

/-- The lines of texts put together are theirs. -/
theorem splitOn_joinLines (h : vs ≠ []) :
    (joinLines vs).splitOn newline = vs.flatMap fun v => v.splitOn newline := by
  induction vs with
  | nil => exact absurd rfl h
  | cons v vs ih =>
      cases vs with
      | nil => simp [joinLines]
      | cons v' vs =>
          rw [joinLines, List.intercalate_cons_cons, List.append_assoc, List.singleton_append,
            List.splitOn_append_cons_self, ← joinLines, ih (by simp), List.flatMap_cons (x := v)]

/-- **A text has a line**, or several of them, where the line is made of
several. -/
def HasLine (line text : List α) : Prop := line.splitOn newline <:+: text.splitOn newline

/-- A line of a text is a line of what it is joined into. -/
theorem HasLine.joinLines (h : HasLine l v) (hv : v ∈ vs) : HasLine l (joinLines vs) := by
  refine List.IsInfix.trans h ?_
  rw [splitOn_joinLines (List.ne_nil_of_mem hv)]
  obtain ⟨us, us', rfl⟩ := List.append_of_mem hv
  rw [List.flatMap_append, List.flatMap_cons]
  exact ⟨_, _, List.append_assoc _ _ _⟩

end

/-! ## Comparison -/

variable (K : LetterCase) {text line d a : List Char} {vs : List (List Char)}

/-- **A text is within another**, up to what a comparison takes no notice
of. -/
def Within (line text : List Char) : Prop :=
  normalizeCompareText K line <:+: normalizeCompareText K text

instance : Decidable (Within K line text) :=
  inferInstanceAs (Decidable (normalizeCompareText K line <:+: normalizeCompareText K text))

theorem Within.rfl : Within K text text := List.infix_rfl

variable {K} in
theorem Within.trans {u : List Char} (h : Within K line text) (h' : Within K text u) :
    Within K line u := List.IsInfix.trans h h'

/-- Nothing to compare is within anything. -/
theorem within_of_eq_nil (h : normalizeCompareText K line = []) : Within K line text := by
  rw [Within, h]
  exact List.nil_infix

theorem compareWords_joinLines (vs : List (List Char)) :
    compareWords K (joinLines vs) = vs.flatMap (compareWords K) := by
  rw [compareWords, joinLines, words_intercalate (by decide), List.flatMap_assoc]
  rfl

/-- What texts are joined from is within them. -/
theorem within_joinLines (h : line ∈ vs) : Within K line (joinLines vs) := by
  rw [Within, normalizeCompareText_eq, normalizeCompareText_eq, compareWords_joinLines]
  refine isInfix_intercalate ?_
  obtain ⟨us, us', rfl⟩ := List.append_of_mem h
  rw [List.flatMap_append, List.flatMap_cons]
  exact ⟨_, _, List.append_assoc _ _ _⟩

/-- And the first of them is in front. -/
theorem prefix_joinLines (line : List Char) (vs : List (List Char)) :
    normalizeCompareText K line <+: normalizeCompareText K (joinLines (line :: vs)) := by
  rw [normalizeCompareText_eq, normalizeCompareText_eq, compareWords_joinLines, List.flatMap_cons]
  exact isPrefix_intercalate (List.prefix_append _ _)

/-! ## `uniqueJoined` -/

theorem mem_considered (h : a ∈ considered vs) : a ≠ [] ∧ trimmed a = a := by
  obtain ⟨ha, hne⟩ := List.mem_filter.1 h
  obtain ⟨v, -, rfl⟩ := List.mem_map.1 ha
  exact ⟨by simpa using hne, trimmed_trimmed v⟩

theorem mem_uniqueValues (h : a ∈ uniqueValues K vs) : a ≠ [] ∧ trimmed a = a := by
  rw [uniqueValues_eq] at h
  exact mem_considered ((sieve_sublist _).subset h)

@[simp] theorem trimmed_uniqueJoined (vs : List (List Char)) :
    trimmed (uniqueJoined K vs) = uniqueJoined K vs :=
  trimmed_joinLines fun _ => mem_uniqueValues K

/-- **The first value is kept.** -/
theorem within_uniqueJoined (d : List Char) (vs : List (List Char)) :
    Within K d (uniqueJoined K (d :: vs)) := by
  by_cases hd : trimmed d = []
  · refine within_of_eq_nil K ?_
    rw [← normalizeCompareText_trimmed, hd]
    rfl
  · have hkept : trimmed d ∈ uniqueValues K (d :: vs) := by
      rw [uniqueValues_eq, considered, List.map_cons, List.filter_cons_of_pos (by simpa using hd),
        ← List.singleton_append]
      refine (isPrefix_sieve [trimmed d] _).subset ?_
      rw [sieve_eq_self (List.pairwise_singleton _ _)]
      exact List.mem_singleton_self _
    have hwithin := within_joinLines K hkept
    rwa [Within, normalizeCompareText_trimmed] at hwithin

@[simp] theorem textEquivalent_nil (a : List Char) : textEquivalent K [] a = false := rfl

/-- **Two values**: the second is dropped if it is equivalent to the
first. -/
theorem uniqueJoined_pair (ha : trimmed a = a) (hne : a ≠ []) :
    uniqueJoined K [d, a] =
      if textEquivalent K d a then trimmed d
      else if trimmed d = [] then a else joinLines [trimmed d, a] := by
  have hequiv : textEquivalent K (trimmed d) a = textEquivalent K d a :=
    textEquivalent_congr K (normalizeCompareText_trimmed K d) rfl
  have hvalues : uniqueValues K [d, a] = keepUnique K (keepUnique K [] d) a := rfl
  rw [uniqueJoined, hvalues, keepUnique, keepUnique, ha, ← hequiv]
  by_cases hd : trimmed d = []
  · simp [hd, hne, joinLines]
  · by_cases he : textEquivalent K (trimmed d) a = true
    · simp [hd, hne, he, joinLines]
    · simp [hd, hne, he]

/-- A text without another is itself. -/
theorem uniqueJoined_nil_left (ha : trimmed a = a) : uniqueJoined K [[], a] = a := by
  by_cases hne : a = []
  · rw [hne]
    rfl
  · rw [uniqueJoined_pair K ha hne, textEquivalent_nil]
    rfl

/-- So a step that first looks whether there is one does as it would
otherwise. -/
theorem ite_uniqueJoined (ha : trimmed a = a) :
    (if d = [] then a else uniqueJoined K [d, a]) = uniqueJoined K [d, a] := by
  split
  case isTrue hd => rw [hd, uniqueJoined_nil_left K ha]
  case isFalse => rfl

/-- A second value that is blank is dropped. -/
theorem uniqueJoined_nil (d : List Char) : uniqueJoined K [d, []] = trimmed d := by
  have hvalues : uniqueValues K [d, []] = keepUnique K [] d := rfl
  rw [uniqueJoined, hvalues, keepUnique]
  by_cases hd : trimmed d = []
  · simp [hd, joinLines]
  · simp [hd, joinLines]

end TextNormalize

end BbAuth
