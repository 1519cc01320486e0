import BbAuth.Prompt.Steps
/-!
# The lines of a message

A request that says nothing but its message has the first line of it for a
summary. The rest of the message would be the details, but a text is taken
for a repetition of what it starts with: so the rest is shown only where the
first line is nothing to compare by, or where the other texts of the prompt
happen to hold it.
-/

namespace BbAuth

namespace TextNormalize

/-- The first line of a text. -/
theorem firstMeaningfulLine_eq {α : Type} [DecidableEq α] [TextUnit α] (text : List α) :
    firstMeaningfulLine text = (detailLines text).headD [] := by
  rw [firstMeaningfulLine, normalizeDetailText_eq]
  cases h : detailLines text with
  | nil => simp [joinLines]
  | cons line lines =>
      have hline : line ∈ detailLines text := h ▸ List.mem_cons_self ..
      have hfree := newline_notMem (mem_detailLines hline).2
      have hne : joinLines (line :: lines) ≠ [] :=
        joinLines_ne_nil (List.mem_cons_self ..) (mem_detailLines hline).1
      have hkeep : ∀ c ∈ line, decide (c ≠ newline) = true := fun c hc =>
        decide_eq_true fun hn => hfree (hn ▸ hc)
      simp only [if_neg hne, List.headD_cons]
      cases lines with
      | nil => rw [joinLines, List.intercalate_singleton, List.takeWhile_eq_self_iff.2 hkeep]
      | cons line' lines =>
          rw [joinLines, List.intercalate_cons_cons, List.append_assoc, List.singleton_append,
            List.takeWhile_append_of_pos hkeep]
          simp

theorem firstMeaningfulLine_normalizeDetailText {α : Type} [DecidableEq α] [TextUnit α]
    (text : List α) : firstMeaningfulLine (normalizeDetailText text) = firstMeaningfulLine text := by
  rw [firstMeaningfulLine_eq, firstMeaningfulLine_eq, normalizeDetailText_eq,
    detailLines_joinLines fun l hl => mem_detailLines hl]

theorem firstMeaningfulLine_eq_nil {α : Type} [DecidableEq α] [TextUnit α] {text : List α} :
    firstMeaningfulLine text = [] ↔ detailLines text = [] := by
  rw [firstMeaningfulLine_eq]
  cases h : detailLines text with
  | nil => simp
  | cons line lines => simpa using (mem_detailLines (h ▸ List.mem_cons_self ..)).1

/-- **A text is taken for a repetition of its first line**, where that is
anything to compare by. -/
theorem textEquivalent_firstMeaningfulLine (K : LetterCase) {text : List Char} :
    textEquivalent K (normalizeDetailText text) (firstMeaningfulLine text) = true ↔
      normalizeCompareText K (firstMeaningfulLine text) ≠ [] := by
  refine ⟨fun h => ((textEquivalent_iff K).1 h).2.1, fun h => ?_⟩
  have hpre : normalizeCompareText K (firstMeaningfulLine text) <+:
      normalizeCompareText K (normalizeDetailText text) := by
    rw [firstMeaningfulLine_eq, normalizeDetailText_eq]
    cases detailLines text with
    | nil => exact List.prefix_rfl
    | cons line lines => exact prefix_joinLines K line lines
  have hne : normalizeCompareText K (normalizeDetailText text) ≠ [] := fun hnil => by
    rw [hnil] at hpre
    exact h (List.prefix_nil.1 hpre)
  exact (textEquivalent_iff K).2 ⟨hne, h, .inl hpre⟩

end TextNormalize

namespace PromptModelBuilder

open TextNormalize

variable (P : PromptCase) (event : QJsonObject)

/-- The first line of the message. -/
def firstLine : List Char := firstMeaningfulLine (normalizedMessage event)

/-- **A plain request**: polkit's or a keyring's, without a description, and
of no intent of its own. -/
structure Plain : Prop where
  source_eq : source event = "polkit" ∨ source event = "keyring"
  description_eq : normalizedDescription event = []
  intent_eq : (build P event).intent = .generic

/-- **No line of the message is hidden**: each is within the summary or the
details, but for a generic first line that the action is named instead of. -/
def ShowsMessage : Prop :=
  ∀ line ∈ (normalizedMessage event).splitOn newline,
    Within P.toLetterCase line (build P event).summary ∨
      Within P.toLetterCase line (build P event).details ∨
      line = firstLine event ∧ isGenericAuthSummary P line = true ∧ actionSummary P event ≠ [] ∧
        (build P event).summary = actionSummary P event

/-- What the prompt says first: the first line, or the action instead of a
generic one. -/
def saidFirst : List Char :=
  if isGenericAuthSummary P (firstLine event) ∧ actionSummary P event ≠ [] then
    actionSummary P event
  else firstLine event

/-- What is said besides the message: the info text, unless it repeats the
first line, and what the policy says. -/
def saidBesides : List Char :=
  uniqueJoined P.toLetterCase
    [if textEquivalent P.toLetterCase (infoText event) (firstLine event) then [] else infoText event,
      if source event = "polkit" then actionDetails P event else []]

variable {P event}

/-! ## The steps -/

theorem mergeAction_summary {model : Model} (h : model.summary = firstLine event) :
    (mergeAction P event model).summary = saidFirst P event := by
  by_cases hs : source event = "polkit"
  · rw [mergeAction, if_pos hs, saidFirst, h]
  · rw [mergeAction_of_ne P hs, h, saidFirst, if_neg]
    exact fun hp => hp.2 (by rw [actionSummary, if_neg hs])

/-- What is within the details stays within them. -/
theorem within_mergeInfo {model : Model} {line : List Char}
    (h : Within P.toLetterCase line model.details) :
    Within P.toLetterCase line (mergeInfo P event model).details := by
  rw [mergeInfo_details]
  split
  · exact h.trans (within_uniqueJoined _ _ _)
  · exact h

theorem within_mergeAction {model : Model} {line : List Char}
    (h : Within P.toLetterCase line model.details) :
    Within P.toLetterCase line (mergeAction P event model).details := by
  by_cases hs : source event = "polkit"
  · rw [mergeAction_details P hs]
    split
    · exact h
    · exact h.trans (within_uniqueJoined _ _ _)
  · rwa [mergeAction_of_ne P hs]

namespace Plain

/-- **The prompt of a plain request**, before its details are looked at. -/
theorem branchModel_eq (h : Plain P event) :
    (branchModel P event).summary = firstLine event ∧
      (branchModel P event).details =
        if normalizeCompareText P.toLetterCase (firstLine event) = [] then normalizedMessage event
        else [] := by
  have hintent : intent P event = .generic := (build_intent P event).symm.trans h.intent_eq
  have hsource : source event ≠ "pinentry" := by
    rcases h.source_eq with hs | hs <;> rw [hs] <;> decide
  have hsummary : genericModel.genericSummary event = firstLine event := by
    have hnil : firstMeaningfulLine ([] : List Char) = [] := rfl
    rw [genericModel.genericSummary, h.description_eq, firstLine, hnil]
    split
    case isTrue hm => exact hm.symm
    case isFalse => rfl
  have hmodel : branchModel P event = genericModel P event := by
    rw [branchModel, hintent]
    exact if_neg hsource
  rw [hmodel, genericModel]
  dsimp only
  rw [hsummary, h.description_eq, if_neg (fun hp => hp.1 rfl)]
  refine ⟨rfl, ?_⟩
  have hrepeats : textEquivalent P.toLetterCase (normalizedMessage event) (firstLine event) = true ↔
      normalizeCompareText P.toLetterCase (firstLine event) ≠ [] := by
    rw [firstLine, normalizedMessage, firstMeaningfulLine_normalizeDetailText]
    exact textEquivalent_firstMeaningfulLine P.toLetterCase
  by_cases hf : normalizeCompareText P.toLetterCase (firstLine event) = []
  · have hnot := Bool.eq_false_iff.2 fun he => hrepeats.1 he hf
    rw [if_pos hf]
    split
    case isTrue => rfl
    case isFalse hm => exact (Decidable.not_not.1 fun hne => hm ⟨hne, hnot⟩).symm
  · rw [if_neg hf, if_neg]
    exact fun hp => Bool.eq_false_iff.1 hp.2 (hrepeats.2 hf)

/-- What the steps start from. -/
theorem exists_requestModel (h : Plain P event) :
    ∃ m : Model, requestModel P event = mergeInfo P event (dropRepeated P (promoteDetails m)) ∧
      m.summary = firstLine event ∧
      m.details = if normalizeCompareText P.toLetterCase (firstLine event) = [] then
        normalizedMessage event else [] :=
  ⟨{ branchModel P event with requestor := requestorLine P event (branchModel P event) }, rfl,
    h.branchModel_eq⟩

/-- **Where the first line is anything to compare by**, the rest of the
message is gone before the other texts are merged. -/
theorem requestModel_eq (h : Plain P event)
    (hf : normalizeCompareText P.toLetterCase (firstLine event) ≠ []) :
    (requestModel P event).summary = firstLine event ∧
      (requestModel P event).details =
        if textEquivalent P.toLetterCase (infoText event) (firstLine event) then []
        else infoText event := by
  obtain ⟨m, hm, hsummary, hdetails⟩ := h.exists_requestModel
  rw [if_neg hf] at hdetails
  have hne : m.summary ≠ [] := fun hnil => hf (by rw [← hsummary, hnil]; rfl)
  rw [hm, promoteDetails_of_summary hne, dropRepeated_of_nil P hdetails]
  refine ⟨(mergeInfo_summary P event).trans hsummary, ?_⟩
  rw [mergeInfo_details, hsummary, hdetails, textEquivalent_comm _ _ [], textEquivalent_nil,
    uniqueJoined_nil_left _ (trimmed_infoText event)]
  by_cases he : textEquivalent P.toLetterCase (infoText event) (firstLine event) = true
  · rw [if_pos he, if_neg fun hp => by simp [he] at hp]
  · rw [if_neg he]
    by_cases hi : infoText event = []
    · rw [if_neg fun hp => hp.1 hi, hi]
    · exact if_pos ⟨hi, Bool.eq_false_iff.2 he, rfl⟩

/-- **Where it is not**, the whole message is within the details. -/
theorem within_requestModel (h : Plain P event)
    (hf : normalizeCompareText P.toLetterCase (firstLine event) = []) :
    Within P.toLetterCase (normalizedMessage event) (requestModel P event).details := by
  obtain ⟨m, hm, hsummary, hdetails⟩ := h.exists_requestModel
  rw [if_pos hf] at hdetails
  by_cases hlines : detailLines (message event) = []
  · have hempty : normalizedMessage event = [] := by
      rw [normalizedMessage, normalizeDetailText_eq, hlines]
      rfl
    rw [hempty]
    exact within_of_eq_nil _ rfl
  have hline : firstLine event = firstMeaningfulLine (message event) :=
    firstMeaningfulLine_normalizeDetailText _
  have hne : m.summary ≠ [] := by
    rw [hsummary, hline]
    exact fun hnil => hlines (firstMeaningfulLine_eq_nil.1 hnil)
  have hfirst : ((normalizeDetailText m.details).splitOn newline).headD [] = firstLine event := by
    rw [hdetails, normalizedMessage, normalizeDetailText_idem, splitOn_normalizeDetailText hlines,
      hline, firstMeaningfulLine_eq]
  have hnot : ∀ t, textEquivalent P.toLetterCase (firstLine event) t = false := fun t =>
    Bool.eq_false_iff.2 fun he => ((textEquivalent_iff _).1 he).1 hf
  have hdrop : dropRepeated P m = m := by
    refine dropRepeated_of_not P ?_ ?_
    · rw [hfirst, hnot]
    · rw [hsummary, hnot]
  rw [hm, promoteDetails_of_summary hne, hdrop]
  refine within_mergeInfo ?_
  rw [hdetails]
  exact Within.rfl _

/-- **What the prompt says**, where the first line is anything to compare
by. -/
theorem build_eq (h : Plain P event)
    (hf : normalizeCompareText P.toLetterCase (firstLine event) ≠ []) :
    (build P event).summary = saidFirst P event ∧ (build P event).details = saidBesides P event := by
  obtain ⟨hsummary, hdetails⟩ := h.requestModel_eq hf
  refine ⟨(build_summary P event).trans (mergeAction_summary hsummary), ?_⟩
  have htrimmed : trimmed (requestModel P event).details = (requestModel P event).details := by
    rw [hdetails]
    split
    · rfl
    · exact trimmed_infoText event
  rw [build_details, saidBesides, ← hdetails]
  by_cases hs : source event = "polkit"
  · rw [mergeAction_details P hs, if_pos hs]
    by_cases ha : actionDetails P event = []
    · rw [if_pos ha, ha, uniqueJoined_nil, htrimmed]
    · exact if_neg ha
  · rw [mergeAction_of_ne P hs, if_neg hs, uniqueJoined_nil, htrimmed]

end Plain

/-! ## The message -/

/-- **When no line of the message is hidden.** Where its first line is
nothing to compare by, none is. Elsewhere the other lines are shown as far as
they are within what else the prompt says. -/
theorem message_shown_iff (h : Plain P event) :
    ShowsMessage P event ↔
      normalizeCompareText P.toLetterCase (firstLine event) = [] ∨
        ∀ line ∈ (normalizedMessage event).splitOn newline, line ≠ firstLine event →
          Within P.toLetterCase line (saidFirst P event) ∨
            Within P.toLetterCase line (saidBesides P event) := by
  by_cases hf : normalizeCompareText P.toLetterCase (firstLine event) = []
  · refine iff_of_true (fun line hline => .inr (.inl ?_)) (.inl hf)
    have hmessage : Within P.toLetterCase line (normalizedMessage event) := by
      have hwithin := within_joinLines P.toLetterCase hline
      rwa [joinLines, List.intercalate_splitOn] at hwithin
    exact hmessage.trans (within_mergeAction (h.within_requestModel hf))
  · obtain ⟨hsummary, hdetails⟩ := h.build_eq hf
    rw [or_iff_right hf]
    constructor
    · intro hshown line hline hne
      rcases hshown line hline with hs | hd | ⟨heq, -⟩
      · exact .inl (hsummary ▸ hs)
      · exact .inr (hdetails ▸ hd)
      · exact absurd heq hne
    · intro hothers line hline
      rw [hsummary, hdetails]
      by_cases hfirst : line = firstLine event
      · rw [hfirst, saidFirst]
        split
        case isTrue hg => exact .inr (.inr ⟨rfl, hg.1, hg.2, rfl⟩)
        case isFalse => exact .inl (Within.rfl _)
      · exact (hothers line hline hfirst).imp_right .inl

/-- A request of polkit that says nothing but its message. -/
def messageEvent (message : String) (actionId : String) : QJsonObject :=
  [("source", .string "polkit"),
    ("context", .object [("message", .string message), ("actionId", .string actionId)])]

/-- **A message that is shown**: its first line is generic, and the action is
named instead; its second line names the action. -/
theorem update_shown :
    ShowsMessage .ascii (messageEvent "Authentication is required.\nSystem update" "system-update") :=
  (message_shown_iff ⟨by decide, by decide +kernel, by decide +kernel⟩).2
    (.inr (by decide +kernel))

/-- **A message whose second line is hidden.** -/
theorem second_line_hidden :
    ¬ ∀ (P : PromptCase) (event : QJsonObject), Plain P event → ShowsMessage P event := fun h => by
  have hshown := h .ascii (messageEvent "Authenticate to format a disk.\nAll data is lost." "")
    ⟨by decide, by decide +kernel, by decide +kernel⟩ "All data is lost.".toList (by decide +kernel)
  exact absurd hshown (by decide +kernel)

end PromptModelBuilder

end BbAuth
