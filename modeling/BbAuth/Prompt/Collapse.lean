import BbAuth.Library.Machine
import BbAuth.Model.DetailsView
import BbAuth.Prompt.Joined
/-!
# Collapsed details

What is shown of a text that is too long is a beginning of it: some of its
lines, the last of them perhaps cut short, and an ellipsis. The window never
shows less than the whole without the button that shows the rest.
-/

namespace BbAuth

section

variable {α : Type} {block lines whole : List (List α)} {line clip : List α}

open TextNormalize TextUnit

/-- How many units some lines have. -/
def chars (lines : List (List α)) : ℕ := lines.flatten.length

theorem chars_append_singleton : chars (whole ++ [line]) = chars whole + line.length := by
  simp [chars]

/-! ## Beginnings -/

/-- **The beginning of some lines**: the first of them, or the first of them
and a part of the next. -/
inductive Leading : List (List α) → List (List α) → Prop
  | whole (whole rest : List (List α)) : Leading whole (whole ++ rest)
  | clipped (whole rest : List (List α)) {line clip : List α} (h : clip <+: line) :
      Leading (whole ++ [clip]) (whole ++ line :: rest)

/-- **Lines within the limits.** -/
def Fits (maxLines maxChars : ℕ) (lines : List (List α)) : Prop :=
  lines.length ≤ maxLines ∧ chars lines ≤ maxChars

/-- Every line of a beginning is a part of a line. -/
theorem Leading.mem (h : Leading block lines) (hl : line ∈ block) : ∃ l ∈ lines, line <+: l := by
  cases h with
  | whole whole rest => exact ⟨line, by simp [hl], List.prefix_rfl⟩
  | clipped whole rest hclip =>
      rcases List.mem_append.1 hl with hl | hl
      · exact ⟨line, by simp [hl], List.prefix_rfl⟩
      · exact ⟨_, by simp, List.mem_singleton.1 hl ▸ hclip⟩

variable [TextUnit α]

/-- **An honest collapse** of a text: what it returns for it is the whole
text, normalized, where that is within the limits, and says so; otherwise it
is a beginning of it within the limits, with an ellipsis at most. -/
structure Collapsed [DecidableEq α] (text : List α) (maxLines maxChars : ℕ)
    (result : List α × Bool) : Prop where
  truncated_iff : result.2 = false ↔
    ((normalizeDetailText text).splitOn newline).length ≤ maxLines ∧
      ((normalizeDetailText text).filter (· ≠ newline)).length ≤ maxChars
  whole : result.2 = false → result.1 = normalizeDetailText text
  block : result.2 = true → ∃ block : List (List α),
    (result.1 = joinLines block ∨ result.1 = joinLines block ++ ascii "...") ∧
      Leading block ((normalizeDetailText text).splitOn newline) ∧
      (joinLines block).splitOn newline = block ∧ Fits maxLines maxChars block ∧
      joinLines block ≠ []

/-! ## The loop -/

variable {maxLines maxChars usedChars : ℕ}

/-- A part of a line, trimmed, is a part of it. -/
theorem trimmed_prefix (h : simplified line = line) (n : ℕ) :
    trimmed (line.take n) <+: line.take n := by
  have hfront : (line.take n).dropWhile isSpace = line.take n := by
    cases line with
    | nil => simp
    | cons c rest =>
        have hc : isSpace c = false := isSpace_head h (by simp)
        cases n with
        | zero => rfl
        | succ n => rw [List.take_succ_cons, List.dropWhile_cons_of_neg (by simp [hc])]
  have hback : trimmed (line.take n) = (line.take n).rdropWhile isSpace := by
    rw [trimmed, trim, hfront]
    rfl
  rw [hback]
  exact List.rdropWhile_prefix isSpace _

/-- And some of it is left. -/
theorem trimmed_ne_nil (h : simplified line = line) (hne : line ≠ []) {n : ℕ} (hn : 0 < n) :
    trimmed (line.take n) ≠ [] := fun hnil => by
  obtain ⟨c, rest, rfl⟩ := List.exists_cons_of_ne_nil hne
  obtain ⟨m, rfl⟩ := Nat.exists_eq_succ_of_ne_zero hn.ne'
  have := isSpace_of_trimmed_eq_nil hnil c (by simp)
  rw [isSpace_head h (by simp : c ∈ (c :: rest).head?)] at this
  exact absurd this (by decide)

/-- **The loop keeps a beginning within the limits**, and says whether
anything is missing. -/
theorem collapseLines_spec (hpos : 0 < maxLines) (hchars : 0 < maxChars) :
    ∀ lines whole : List (List α), (∀ l ∈ lines, l ≠ [] ∧ simplified l = l) →
      (∀ l ∈ whole, l ≠ []) → Fits maxLines maxChars whole →
      (collapseLines maxLines maxChars lines whole (chars whole) = (whole ++ lines, false) ∧
        Fits maxLines maxChars (whole ++ lines)) ∨
      ∃ block, collapseLines maxLines maxChars lines whole (chars whole) = (block, true) ∧
        ¬ Fits maxLines maxChars (whole ++ lines) ∧ Leading block (whole ++ lines) ∧
        Fits maxLines maxChars block ∧ block ≠ [] ∧ ∀ l ∈ block, l ≠ [] := by
  intro lines
  induction lines with
  | nil =>
      intro whole _ _ hfits
      exact .inl ⟨by rw [collapseLines, List.append_nil], by rwa [List.append_nil]⟩
  | cons line lines ih =>
      intro whole hlines hwhole hfits
      obtain ⟨⟨hne, hline⟩, hrest⟩ := List.forall_mem_cons.1 hlines
      have hcount : chars (whole ++ line :: lines) = chars whole + line.length + chars lines := by
        simp [chars, Nat.add_assoc]
      rw [collapseLines]
      by_cases hfull : whole.length ≥ maxLines
      · rw [if_pos hfull]
        refine .inr ⟨whole, rfl, fun h => ?_, .whole whole _, hfits, ?_, hwhole⟩
        · have := h.1
          rw [List.length_append, List.length_cons] at this
          omega
        · rintro rfl
          simp at hfull
          omega
      rw [if_neg hfull]
      by_cases hlong : chars whole + line.length > maxChars
      · rw [if_pos hlong]
        have hnot : ¬ Fits maxLines maxChars (whole ++ line :: lines) := fun h => by
          have := h.2
          omega
        by_cases hroom : 0 < maxChars - chars whole
        · -- a part of the line is kept
          have hclip := trimmed_ne_nil hline hne hroom
          have hpre := trimmed_prefix hline (maxChars - chars whole)
          simp only [gt_iff_lt, if_pos hroom, if_neg hclip]
          refine .inr ⟨_, rfl, hnot, .clipped whole lines (hpre.trans (List.take_prefix _ _)),
            ⟨?_, ?_⟩, by simp, ?_⟩
          · rw [List.length_append, List.length_singleton]
            omega
          · have hle := hpre.length_le
            rw [List.length_take] at hle
            rw [chars_append_singleton]
            omega
          · exact List.forall_mem_append.2 ⟨hwhole, List.forall_mem_singleton.2 hclip⟩
        · simp only [gt_iff_lt, if_neg hroom, if_true]
          refine .inr ⟨whole, rfl, hnot, .whole whole _, hfits, ?_, hwhole⟩
          rintro rfl
          simp [chars] at hroom
          omega
      · rw [if_neg hlong, ← chars_append_singleton, List.append_cons whole line lines]
        refine ih _ hrest (List.forall_mem_append.2 ⟨hwhole, List.forall_mem_singleton.2 hne⟩) ⟨?_, ?_⟩
        · rw [List.length_append, List.length_singleton]
          omega
        · rw [chars_append_singleton]
          omega

/-! ## The text -/

variable [DecidableEq α] {text : List α}

theorem filter_joinLines (h : ∀ l ∈ lines, (newline : α) ∉ l) :
    (joinLines lines).filter (· ≠ newline) = lines.flatten := by
  induction lines with
  | nil => rfl
  | cons line lines ih =>
      obtain ⟨hline, hlines⟩ := List.forall_mem_cons.1 h
      have hkeep : line.filter (· ≠ newline) = line :=
        List.filter_eq_self.2 fun c hc => decide_eq_true fun hn : c = newline => hline (hn ▸ hc)
      cases lines with
      | nil => simpa [joinLines] using hkeep
      | cons line' lines =>
          rw [joinLines, List.intercalate_cons_cons, List.append_assoc, List.filter_append, hkeep,
            List.singleton_append, List.filter_cons_of_neg (by simp), ← joinLines, ih hlines,
            List.flatten_cons (L := line' :: lines)]

theorem normalizeDetailText_ne_nil (h : detailLines text ≠ []) : normalizeDetailText text ≠ [] := by
  obtain ⟨l, hl⟩ := List.exists_mem_of_ne_nil _ h
  exact joinLines_ne_nil hl (mem_detailLines hl).1

/-- The limits, read off the text. -/
theorem fits_detailLines_iff (h : detailLines text ≠ []) :
    Fits maxLines maxChars (detailLines text) ↔
      ((normalizeDetailText text).splitOn newline).length ≤ maxLines ∧
        ((normalizeDetailText text).filter (· ≠ newline)).length ≤ maxChars := by
  have hcount : ((normalizeDetailText text).filter (· ≠ newline)).length =
      chars (detailLines text) := by
    rw [normalizeDetailText_eq, filter_joinLines fun l hl => newline_notMem (mem_detailLines hl).2,
      chars]
  rw [splitOn_normalizeDetailText h, hcount]
  rfl

/-- A loop that keeps everything leaves the text as it is. -/
theorem collapseDetailText_of_whole (h : detailLines text ≠ [])
    (hloop : collapseLines maxLines maxChars (detailLines text) [] 0 = (detailLines text, false)) :
    collapseDetailText text maxLines maxChars = (normalizeDetailText text, false) := by
  have hnone : decide ((detailLines text).length > (detailLines text).length) = false := by simp
  rw [collapseDetailText]
  simp only [if_neg (normalizeDetailText_ne_nil h), splitOn_normalizeDetailText h, hloop,
    Bool.false_or, hnone, Bool.false_and, Bool.false_eq_true, if_false]
  rfl

/-- A loop that is cut short leaves what it kept, and perhaps an
ellipsis. -/
theorem collapseDetailText_of_cut (h : detailLines text ≠ [])
    (hloop : collapseLines maxLines maxChars (detailLines text) [] 0 = (block, true)) :
    (collapseDetailText text maxLines maxChars).2 = true ∧
      ((collapseDetailText text maxLines maxChars).1 = joinLines block ∨
        (collapseDetailText text maxLines maxChars).1 = joinLines block ++ ascii "...") := by
  rw [collapseDetailText]
  simp only [if_neg (normalizeDetailText_ne_nil h), splitOn_normalizeDetailText h, hloop,
    Bool.true_or, Bool.true_and]
  split
  · exact ⟨rfl, .inr rfl⟩
  · exact ⟨rfl, .inl rfl⟩

/-- **Collapsed details are honest.** -/
theorem collapseDetailText_honest (text : List α) {maxLines maxChars : ℕ} (hpos : 0 < maxLines)
    (hchars : 0 < maxChars) :
    Collapsed text maxLines maxChars (collapseDetailText text maxLines maxChars) := by
  by_cases hnil : detailLines text = []
  · have hempty : normalizeDetailText text = [] := by rw [normalizeDetailText_eq, hnil]; rfl
    have hresult : collapseDetailText text maxLines maxChars = ([], false) := by
      simp only [collapseDetailText, if_pos hempty]
    rw [hresult]
    refine ⟨⟨fun _ => ?_, fun _ => rfl⟩, fun _ => hempty.symm, fun h => by cases h⟩
    rw [hempty]
    exact ⟨hpos, Nat.zero_le _⟩
  · have hlimits : Fits maxLines maxChars (detailLines text) ↔ _ := fits_detailLines_iff hnil
    have hspec := collapseLines_spec hpos hchars (detailLines text) []
      (fun l => mem_detailLines) (by simp) ⟨Nat.zero_le _, Nat.zero_le _⟩
    rw [List.nil_append] at hspec
    rcases hspec with ⟨hloop, hfits⟩ | ⟨block, hloop, hnot, hlead, hfits, hblock, hlines⟩
    · rw [collapseDetailText_of_whole hnil hloop]
      exact ⟨iff_of_true rfl (hlimits.1 hfits), fun _ => rfl, fun h => by cases h⟩
    · obtain ⟨htruncated, htext⟩ := collapseDetailText_of_cut hnil hloop
      have hjoin : joinLines block ≠ [] := by
        obtain ⟨l, hl⟩ := List.exists_mem_of_ne_nil _ hblock
        exact joinLines_ne_nil hl (hlines l hl)
      refine ⟨iff_of_false (by rw [htruncated]; decide) fun h => hnot (hlimits.2 h), fun h => ?_,
        fun _ => ⟨block, htext, splitOn_normalizeDetailText hnil ▸ hlead, ?_, hfits, hjoin⟩⟩
      · rw [htruncated] at h
        cases h
      · refine List.splitOn_intercalate newline (fun l hl hn => ?_) hblock
        obtain ⟨l', hl', hpre⟩ := hlead.mem hl
        exact newline_notMem (mem_detailLines hl').2 (hpre.subset hn)

/-- **A paragraph of four lines, collapsed to three.** -/
theorem collapsed_four_lines :
    Collapsed ([1, 2, 3, 4].flatMap fun c : ℕ => [c + 60, 10]) 3 220
      (collapseDetailText ([1, 2, 3, 4].flatMap fun c : ℕ => [c + 60, 10]) 3 220) :=
  collapseDetailText_honest _ (by decide) (by decide)

end

/-! ## The view -/

namespace DetailsView

variable {α : Type}

/-- **The view hides nothing silently**: the label shows the whole text, or
the button offers the rest of it. -/
def Open (v : DetailsView α) : Prop :=
  v.label = v.fullContextText ∨ v.toggleButton = some "Show more"

theorem open_setDetailsExpanded (v : DetailsView α) (expanded : Bool) :
    (v.setDetailsExpanded expanded).Open := by
  by_cases hfull : v.fullContextText = []
  · exact .inl (by simp [setDetailsExpanded, hfull])
  · cases he : v.contextExpandable <;> cases expanded <;>
      simp [Open, setDetailsExpanded, hfull, he]

variable [DecidableEq α] [TextUnit α]

open TextNormalize

/-- What the window does with the details: a text is set, or shown in full,
or not. -/
inductive Event (α : Type) where
  | setText (text : List α)
  | setExpanded (expanded : Bool)

/-- **The view as a machine.** -/
def machine : Machine (DetailsView α) (Event α) where
  init := {}
  step v
    | .setText text => v.setDetailsText text
    | .setExpanded expanded => v.setDetailsExpanded expanded

/-- **In every run** the label shows everything, or the button offers it. -/
theorem open_run (events : List (Event α)) : ((machine (α := α)).run events).Open := by
  refine (machine (α := α)).invariant (I := Open) (.inl rfl) (fun v event _ => ?_) events
  cases event with
  | setText text =>
      show (v.setDetailsText text).Open
      by_cases hempty : normalizeDetailText text = []
      · exact .inl (by simp [setDetailsText, hempty])
      · simp only [setDetailsText, if_neg hempty]
        exact open_setDetailsExpanded _ _
  | setExpanded expanded => exact open_setDetailsExpanded v expanded

end DetailsView

end BbAuth
