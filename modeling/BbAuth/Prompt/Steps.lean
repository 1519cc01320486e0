import BbAuth.Model.PromptModelBuilder
import BbAuth.Prompt.Joined
/-!
# The steps of the prompt's builder

What each step of `build` leaves alone, and what it makes of the details. The
intent is the one that was worked out first, whatever follows; the summary
and the details are settled once the policy's part is merged.
-/

namespace BbAuth

/-! ## Letter case on ASCII -/

/-- A character is lower-cased to itself, or to a small letter. -/
theorem toLower_cases (c : Char) :
    c.toLower = c ∨ ∃ n < 26, c.toLower = Char.ofNat ('a'.toNat + n) := by
  have hascii : ∀ n < 0x80, (Char.ofNat n).toLower = Char.ofNat n ∨
      ∃ m < 26, (Char.ofNat n).toLower = Char.ofNat ('a'.toNat + m) := by decide
  by_cases hc : c.toNat < 0x80
  · have := hascii c.toNat hc
    rwa [Char.ofNat_toNat] at this
  · left
    refine dif_neg ?_
    rintro ⟨-, hle⟩
    exact hc (lt_of_le_of_lt (UInt32.le_iff_toNat_le.1 hle) (by decide))

/-- What holds of a character and of the small letters holds of it in lower
case. -/
theorem toLower_keeps {c : Char} {p : Char → Bool} (hc : p c = false)
    (hp : ∀ n < 26, p (Char.ofNat ('a'.toNat + n)) = false) : p c.toLower = false := by
  rcases toLower_cases c with h | ⟨n, hn, h⟩
  · rwa [h]
  · rw [h, hp n hn]

theorem toLower_toLower (c : Char) : c.toLower.toLower = c.toLower := by
  rcases toLower_cases c with h | ⟨n, hn, h⟩
  · rw [h, h]
  · have hsmall : ∀ n < 26, (Char.ofNat ('a'.toNat + n)).toLower = Char.ofNat ('a'.toNat + n) := by
      decide
    rw [h, hsmall n hn]

/-- Letter case as it is on ASCII. -/
def PromptCase.ascii : PromptCase where
  lower c := [c.toLower]
  lower_ascii _ _ := rfl
  lower_ne_nil _ := List.cons_ne_nil _ _
  lower_lower c := by
    rw [List.flatMap_singleton, toLower_toLower]
  not_space c hc := by
    have := toLower_keeps (p := Text.isSpaceChar) hc (by decide)
    simpa using this
  not_removed c hc := by
    have := toLower_keeps (p := fun c => decide (c ∈ ['`', '"', ',', '.'])) (decide_eq_false hc)
      (by decide)
    simpa using this
  upper := Char.toUpper
  equal a b := a.map Char.toLower = b.map Char.toLower

namespace PromptModelBuilder

open TextNormalize

variable (P : PromptCase) (event : QJsonObject) {model : Model}

/-! ## The intent -/

theorem branchModel_intent : (branchModel P event).intent = intent P event := by
  rw [branchModel]
  cases hi : intent P event with
  | generic | openPgp =>
      by_cases hs : source event = "pinentry"
      · simp only [if_pos hs]
        exact hi
      · simp only [if_neg hs]
        exact hi
  | unlock | runCommand | fingerprint | fido2 => rfl

@[simp] theorem promoteDetails_intent : (promoteDetails model).intent = model.intent := by
  rw [promoteDetails]
  split
  · dsimp only
    split <;> rfl
  · rfl

@[simp] theorem dropRepeated_intent : (dropRepeated P model).intent = model.intent := by
  rw [dropRepeated]
  split <;> rfl

@[simp] theorem mergeInfo_intent : (mergeInfo P event model).intent = model.intent := by
  rw [mergeInfo]
  split <;> rfl

@[simp] theorem mergeAction_intent : (mergeAction P event model).intent = model.intent := by
  rw [mergeAction]
  split <;> rfl

/-- **The intent of the prompt** is the one its branch is chosen by. -/
theorem build_intent : (build P event).intent = intent P event := by
  have hintent : (build P event).intent = (mergeAction P event (requestModel P event)).intent := rfl
  rw [hintent, mergeAction_intent, requestModel, mergeInfo_intent, dropRepeated_intent,
    promoteDetails_intent, branchModel_intent]

/-! ## Summary and details -/

theorem build_summary :
    (build P event).summary = (mergeAction P event (requestModel P event)).summary := rfl

theorem build_details :
    (build P event).details = (mergeAction P event (requestModel P event)).details := rfl

/-- A prompt with a summary keeps its details apart. -/
theorem promoteDetails_of_summary (h : model.summary ≠ []) : promoteDetails model = model :=
  if_neg fun hp => h hp.1

theorem dropRepeated_of_nil (h : model.details = []) : dropRepeated P model = model :=
  if_neg fun hp => hp.2 h

/-- Details that do not start with the summary are left as they are. -/
theorem dropRepeated_of_not
    (hfirst : textEquivalent P.toLetterCase
      (((normalizeDetailText model.details).splitOn newline).headD []) model.summary = false)
    (hwhole : textEquivalent P.toLetterCase model.summary model.details = false) :
    dropRepeated P model = model := by
  rw [dropRepeated]
  split
  · simp only [hfirst, hwhole, Bool.false_eq_true, if_false]
  · rfl

@[simp] theorem mergeInfo_summary : (mergeInfo P event model).summary = model.summary := by
  rw [mergeInfo]
  split <;> rfl

theorem trimmed_infoText : trimmed (infoText event) = infoText event :=
  trimmed_normalizeDetailText _

/-- **What the info text makes of the details.** -/
theorem mergeInfo_details :
    (mergeInfo P event model).details =
      if infoText event ≠ [] ∧
          textEquivalent P.toLetterCase (infoText event) model.summary = false ∧
          textEquivalent P.toLetterCase (infoText event) model.details = false then
        uniqueJoined P.toLetterCase [model.details, infoText event]
      else model.details := by
  rw [mergeInfo]
  split
  · exact ite_uniqueJoined P.toLetterCase (trimmed_infoText event)
  · rfl

variable {event}

/-- **What the policy's part makes of the details.** -/
theorem mergeAction_details (hsource : source event = "polkit") :
    (mergeAction P event model).details =
      if actionDetails P event = [] then model.details
      else uniqueJoined P.toLetterCase [model.details, actionDetails P event] := by
  rw [mergeAction, if_pos hsource]
  exact if_congr Iff.rfl rfl (ite_uniqueJoined P.toLetterCase (trimmed_uniqueJoined _ _))

theorem mergeAction_of_ne (hsource : source event ≠ "polkit") : mergeAction P event model = model :=
  if_neg hsource

/-! ## What is asked for -/

variable (event)

theorem build_prompt_ne_nil : (build P event).prompt ≠ [] := by
  have hpin : ∀ pin : List Char, (if pin = [] then "Passphrase:".toList else pin) ≠ [] := by
    intro pin
    split
    case isTrue => decide
    case isFalse hne => exact hne
  rw [build, withPrompt]
  dsimp only
  split
  · exact hpin _
  · split <;> decide

/-- **The window always asks for something.** -/
theorem display_prompt_ne : (build P event).display.prompt ≠ "" := fun h =>
  build_prompt_ne_nil P event (String.ofList_eq_empty_iff.1 h)

/-- **Where an empty answer will do**, it is polkit that asks, for a touch,
and no passphrase is asked for. -/
theorem display_of_allowEmptyResponse (h : (build P event).display.allowEmptyResponse = true) :
    source event = "polkit" ∧ touchHint P event = true ∧
      (build P event).display.passphrasePrompt = false := by
  obtain ⟨hsource, htouch⟩ := of_decide_eq_true h
  exact ⟨hsource, htouch, decide_eq_false fun hp => hp.2 ⟨hsource, htouch⟩⟩

end PromptModelBuilder

end BbAuth
