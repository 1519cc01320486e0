import BbAuth.Prompt.Lines
import Mathlib.Data.Bool.AllAny
/-!
# What the policy says of a request

A polkit prompt names the action, its policy and the user to authenticate as
in a block of lines. The lines start with words of their own, so none of
them is dropped for another. The block itself is dropped where the text that
the request has contributed is equivalent to it: a text as short as the
block's first word is.
-/

namespace BbAuth

namespace TextNormalize

variable (K : LetterCase) {l w text u v a b : List Char}

/-- On ASCII lower-casing is the usual one. -/
theorem toLower_of_ascii (h : ∀ c ∈ l, c.toNat < 0x80) : toLower K l = l.map Char.toLower := by
  rw [toLower, List.flatMap_congr fun c hc => K.lower_ascii c (h c hc), List.map_eq_flatMap]

/-- **A text is compared by its first word first.** -/
theorem prefix_normalizeCompareText (hw : w ≠ [])
    (h : ∀ c ∈ w, c.toNat < 0x80 ∧ Text.isSpaceChar c = false ∧ separates c.toLower = false) :
    w.map Char.toLower <+: normalizeCompareText K (w ++ ' ' :: text) := by
  have hword : words Text.isSpaceChar (w ++ ' ' :: text) = w :: words Text.isSpaceChar text := by
    rw [words_append_cons (by decide), words_of_free (fun c hc => (h c hc).2.1) hw]
    rfl
  have hlower : words separates (toLower K w) = [w.map Char.toLower] := by
    rw [toLower_of_ascii K fun c hc => (h c hc).1]
    refine words_of_free (fun c hc => ?_) (by simpa using hw)
    obtain ⟨d, hd, rfl⟩ := List.mem_map.1 hc
    exact (h d hd).2.2
  rw [normalizeCompareText_eq, compareWords, hword, List.flatMap_cons, hlower,
    List.singleton_append]
  exact prefix_intercalate _ _

variable {K} in
/-- Texts that start differently are not equivalent. -/
theorem textEquivalent_of_heads (ha : u <+: normalizeCompareText K a)
    (hb : v <+: normalizeCompareText K b) (huv : ¬ u <+: v) (hvu : ¬ v <+: u) :
    textEquivalent K a b = false := by
  rw [← Bool.not_eq_true, textEquivalent_iff]
  rintro ⟨-, -, hba | hab⟩
  · exact (List.prefix_or_prefix_of_prefix ha (hb.trans hba)).elim huv hvu
  · exact (List.prefix_or_prefix_of_prefix (ha.trans hab) hb).elim huv hvu

instance : Decidable (HasLine l text) :=
  inferInstanceAs (Decidable (l.splitOn newline <:+: text.splitOn newline))

end TextNormalize

namespace PromptModelBuilder

open TextNormalize

variable (P : PromptCase) {event : QJsonObject}

/-! ## The block -/

/-- The line that names the policy. -/
def policyLine (event : QJsonObject) : List Char := "Policy: ".toList ++ actionId event

/-- The line that names the user. -/
def userLine (event : QJsonObject) : List Char := "Authenticate as ".toList ++ actionUser event

/-- A text trimmed, behind a word, is trimmed. -/
theorem trimmed_append {w l : List Char} (hw : w.head?.map Text.isSpaceChar = some false)
    (hl : trimmed l ≠ []) : trimmed (w ++ trimmed l) = w ++ trimmed l := by
  obtain ⟨d, hd, hspace⟩ := Option.map_eq_some_iff.1 hw
  refine trimmed_eq_self (fun c hc => ?_) fun c hc => ?_
  · rw [List.head?_append, hd] at hc
    exact (Option.some.inj hc) ▸ hspace
  · rw [List.getLast?_append_of_ne_nil w hl] at hc
    exact isSpace_last_trimmed hc

/-- **No line of the block is taken for another.** -/
theorem actionLines_pairwise :
    (actionLines P event).Pairwise fun a b => textEquivalent P.toLetterCase a b = false := by
  have haction : "action:".toList <+: normalizeCompareText P.toLetterCase
      ("Action: ".toList ++ actionSummary P event) :=
    prefix_normalizeCompareText (w := "Action:".toList) _ (by decide)
      (List.all_iff_forall_prop.1 (by decide))
  have hpolicy : "policy:".toList <+: normalizeCompareText P.toLetterCase
      ("Policy: ".toList ++ actionId event) :=
    prefix_normalizeCompareText (w := "Policy:".toList) _ (by decide)
      (List.all_iff_forall_prop.1 (by decide))
  have huser : "authenticate".toList <+: normalizeCompareText P.toLetterCase
      ("Authenticate as ".toList ++ actionUser event) :=
    prefix_normalizeCompareText (w := "Authenticate".toList) _ (by decide)
      (List.all_iff_forall_prop.1 (by decide))
  have hall : ["Action: ".toList ++ actionSummary P event, "Policy: ".toList ++ actionId event,
      "Authenticate as ".toList ++ actionUser event].Pairwise fun a b =>
        textEquivalent P.toLetterCase a b = false := by
    refine .cons ?_ (.cons ?_ (List.pairwise_singleton _ _))
    · simp only [List.forall_mem_cons, List.not_mem_nil, false_imp_iff, implies_true, and_true]
      exact ⟨textEquivalent_of_heads haction hpolicy (by decide) (by decide),
        textEquivalent_of_heads haction huser (by decide) (by decide)⟩
    · exact List.forall_mem_singleton.2
        (textEquivalent_of_heads hpolicy huser (by decide) (by decide))
  have hsub : ∀ (p : Prop) [Decidable p] (l : List (List Char)), (if p then l else []).Sublist l :=
    fun p _ l => by
      split
      · exact List.Sublist.refl l
      · exact List.nil_sublist l
  exact hall.sublist (((hsub _ [_]).append (hsub _ [_])).append (hsub _ [_]))

/-- **The block keeps all its lines.** -/
theorem uniqueValues_actionLines :
    uniqueValues P.toLetterCase (actionLines P event) = considered (actionLines P event) := by
  rw [uniqueValues_eq]
  refine sieve_eq_self (List.Pairwise.filter _ (List.pairwise_map.2 ?_))
  refine (actionLines_pairwise P).imp fun {a b} h => ?_
  rw [StandsFor, textEquivalent_congr P.toLetterCase
    (normalizeCompareText_trimmed P.toLetterCase a) (normalizeCompareText_trimmed P.toLetterCase b),
    h]
  decide

/-- A line of the block that is trimmed is kept. -/
theorem mem_uniqueValues_actionLines {l : List Char} (h : l ∈ actionLines P event)
    (ht : trimmed l = l) (hne : l ≠ []) : l ∈ uniqueValues P.toLetterCase (actionLines P event) := by
  rw [uniqueValues_actionLines, considered, List.mem_filter]
  exact ⟨List.mem_map.2 ⟨l, h, ht⟩, by simpa using hne⟩

/-! ## The request's own texts -/

/-- The first line of the first text that has one. -/
def firstSaid (texts : List (List Char)) (otherwise : List Char) : List Char :=
  ((texts.map firstMeaningfulLine).find? (· ≠ [])).getD otherwise

/-- A text behind a line, without that line where it starts with it. -/
def unrepeated (K : LetterCase) (first text : List Char) : List Char :=
  let lines := (normalizeDetailText text).splitOn newline
  let rest :=
    if textEquivalent K (lines.headD []) first then trimmed (joinLines lines.tail) else text
  if textEquivalent K first rest then [] else rest

/-- What is said first of a polkit request, by what it asks for. -/
def askedFirst (event : QJsonObject) : List Char :=
  match intent P event with
  | .unlock => "Use your password to unlock ".toList ++ unlockTarget event
  | .fingerprint =>
    firstSaid [textOf event "info"] "Use your fingerprint sensor to continue".toList
  | .fido2 => firstSaid [textOf event "info"] "Touch your security key to continue".toList
  | .runCommand =>
    firstSaid [description event, message event] <|
      if isLowSignalCommand P (commandName event) then "Administrative privileges required".toList
      else "Run ".toList ++ commandName event ++ " as superuser".toList
  | .openPgp | .generic => firstSaid [message event, description event] []

/-- What is said besides, of its texts. -/
def askedBesides (event : QJsonObject) : List Char :=
  match intent P event with
  | .unlock => buildUnlockDetails P.toLetterCase (context event) (unlockTarget event)
  | .fingerprint | .fido2 => normalizeDetailText (description event)
  | .runCommand => []
  | .openPgp | .generic =>
    ([normalizeDetailText (description event), normalizeDetailText (message event)].find? fun text =>
      text ≠ [] ∧ textEquivalent P.toLetterCase text (askedFirst P event) = false).getD []

/-- **What the request's own texts come to**: what is said of it besides its
first line, and its info text where that is none of these again. -/
def ownDetails (event : QJsonObject) : List Char :=
  let first := askedFirst P event
  let own := unrepeated P.toLetterCase first (askedBesides P event)
  if infoText event ≠ [] ∧ textEquivalent P.toLetterCase (infoText event) first = false ∧
      textEquivalent P.toLetterCase (infoText event) own = false then
    uniqueJoined P.toLetterCase [own, infoText event]
  else own

theorem firstSaid_nil (otherwise : List Char) : firstSaid [] otherwise = otherwise := rfl

theorem firstSaid_cons (text : List Char) (texts : List (List Char)) (otherwise : List Char) :
    firstSaid (text :: texts) otherwise =
      if firstMeaningfulLine text = [] then firstSaid texts otherwise
      else firstMeaningfulLine text := by
  rw [firstSaid, List.map_cons, List.find?_cons]
  by_cases h : firstMeaningfulLine text = []
  · simp [h, firstSaid]
  · simp [h]

theorem firstSaid_eq_nil {texts : List (List Char)} {otherwise : List Char} :
    firstSaid texts otherwise = [] ↔
      (∀ text ∈ texts, firstMeaningfulLine text = []) ∧ otherwise = [] := by
  induction texts with
  | nil => simp [firstSaid_nil]
  | cons text texts ih =>
      rw [firstSaid_cons, List.forall_mem_cons]
      by_cases h : firstMeaningfulLine text = []
      · rw [if_pos h, ih, and_assoc]
        exact ⟨fun hrest => ⟨h, hrest⟩, fun hall => hall.2⟩
      · rw [if_neg h]
        exact ⟨fun hnil => absurd hnil h, fun hall => absurd hall.1.1 h⟩

/-- A text is normalized to nothing where it has no line. -/
theorem normalizeDetailText_eq_nil {text : List Char} :
    normalizeDetailText text = [] ↔ firstMeaningfulLine text = [] := by
  rw [firstMeaningfulLine_eq_nil, normalizeDetailText_eq]
  constructor
  · intro h
    by_contra hne
    obtain ⟨line, hline⟩ := List.exists_mem_of_ne_nil _ hne
    exact joinLines_ne_nil hline (mem_detailLines hline).1 h
  · intro h
    rw [h]
    rfl

/-- The info text is said first where there is one. -/
theorem firstSaid_info (otherwise : List Char) :
    (if infoText event = [] then otherwise else firstMeaningfulLine (infoText event)) =
      firstSaid [textOf event "info"] otherwise := by
  rw [infoText, firstMeaningfulLine_normalizeDetailText, firstSaid_cons, firstSaid_nil]
  exact if_congr normalizeDetailText_eq_nil rfl rfl

/-- Of two texts the first one that says anything is said. -/
theorem firstSaid_pair (text text' otherwise : List Char) :
    (if firstMeaningfulLine (normalizeDetailText text) ≠ [] then
        firstMeaningfulLine (normalizeDetailText text)
      else if firstMeaningfulLine (normalizeDetailText text') ≠ [] then
        firstMeaningfulLine (normalizeDetailText text')
      else otherwise) = firstSaid [text, text'] otherwise := by
  rw [firstMeaningfulLine_normalizeDetailText, firstMeaningfulLine_normalizeDetailText,
    firstSaid_cons, firstSaid_cons, firstSaid_nil, ite_not, ite_not]

theorem getD_find?_pair {p : List Char → Prop} [DecidablePred p] (text text' : List Char) :
    ([text, text'].find? fun t => p t).getD [] =
      if p text then text else if p text' then text' else [] := by
  rw [List.find?_cons, List.find?_cons, List.find?_nil]
  by_cases h : p text
  · simp [h]
  · by_cases h' : p text' <;> simp [h, h']

theorem genericSummary_eq :
    genericModel.genericSummary event = firstSaid [message event, description event] [] := by
  simp only [genericModel.genericSummary, normalizedMessage, normalizedDescription,
    firstMeaningfulLine_normalizeDetailText, firstSaid_cons, firstSaid_nil]
  by_cases hd : firstMeaningfulLine (description event) = []
  · rw [if_pos hd, hd]
  · rw [if_neg hd]

/-- **What the branches make of a polkit request.** -/
theorem branchModel_polkit (hs : source event = "polkit") :
    (branchModel P event).summary = askedFirst P event ∧
      (branchModel P event).details = askedBesides P event := by
  have hpinentry : source event ≠ "pinentry" := by
    rw [hs]
    decide
  cases hi : intent P event with
  | unlock => simp only [branchModel, askedFirst, askedBesides, hi, unlockModel, and_self]
  | fingerprint | fido2 =>
      simp only [branchModel, askedFirst, askedBesides, hi, touchModel, firstSaid_info, and_self]
  | runCommand =>
      simp only [branchModel, askedFirst, askedBesides, hi, runCommandModel, and_true]
      exact firstSaid_pair _ _ _
  -- of these two only the second is polkit's, and both end in one branch
  | openPgp | generic =>
      simp only [branchModel, askedFirst, askedBesides, hi, if_neg hpinentry, genericModel,
        genericSummary_eq, true_and, normalizedDescription, normalizedMessage, getD_find?_pair]

/-- A request of which nothing is said first has no texts. -/
theorem askedBesides_of_nil (h : askedFirst P event = []) : askedBesides P event = [] := by
  rw [askedFirst] at h
  rw [askedBesides]
  cases hi : intent P event with
  | unlock => simp [hi] at h
  | fingerprint | fido2 => simp [hi, firstSaid_eq_nil] at h
  | runCommand => rfl
  | openPgp | generic =>
      simp only [hi, firstSaid_eq_nil, List.forall_mem_cons] at h
      simp [normalizeDetailText_eq_nil.2 h.1.1, normalizeDetailText_eq_nil.2 h.1.2.1]

theorem dropRepeated_summary {model : Model} :
    (dropRepeated P model).summary = model.summary := by
  rw [dropRepeated]
  split <;> rfl

theorem dropRepeated_details {model : Model} :
    (dropRepeated P model).details =
      unrepeated P.toLetterCase model.summary model.details := by
  have hright : ∀ text, textEquivalent P.toLetterCase text [] = false := fun text => by
    rw [textEquivalent_comm, textEquivalent_nil]
  rw [dropRepeated]
  split
  · rfl
  next h =>
    rw [not_and_or, not_ne_iff, not_ne_iff] at h
    rcases h with h | h
    · simp [unrepeated, h, hright]
    · have hempty : (normalizeDetailText ([] : List Char)).splitOn newline = [[]] := rfl
      simp [unrepeated, h, hright, hempty]

/-- **The details before the policy's part** are what the request's own texts
come to. -/
theorem requestModel_details (hs : source event = "polkit") :
    (requestModel P event).details = ownDetails P event := by
  obtain ⟨hfirst, hbesides⟩ := branchModel_polkit P hs
  rw [requestModel, promoteDetails, if_neg, mergeInfo_details, dropRepeated_summary,
    dropRepeated_details]
  · simp only [hfirst, hbesides]
    rfl
  -- there is always a first line where there are details, so none is promoted
  · rintro ⟨hnil, hne⟩
    exact hne (hbesides.trans (askedBesides_of_nil P (hfirst.symm.trans hnil)))

/-! ## The prompt -/

/-- **A request whose policy and user are to be named**: a polkit request of
an action that is more than its humanized form, for some user. -/
structure NamesPolicy (event : QJsonObject) : Prop where
  source_eq : source event = "polkit"
  actionId_ne : actionId event ≠ []
  differs : P.equal (actionId event) (humanizeActionId P (actionId event)) = false
  user_ne : actionUser event ≠ []

variable {P}

namespace NamesPolicy

theorem policyLine_mem (h : NamesPolicy P event) :
    policyLine event ∈ uniqueValues P.toLetterCase (actionLines P event) := by
  have hdiffers : P.equal (actionId event) (actionSummary P event) = false := by
    rw [actionSummary, if_pos h.source_eq, h.differs]
  refine mem_uniqueValues_actionLines P ?_ ?_ (List.append_ne_nil_of_right_ne_nil _ h.actionId_ne)
  · rw [actionLines, if_pos (And.intro h.actionId_ne hdiffers)]
    exact List.mem_append_left _ (List.mem_append_right _ (List.mem_singleton_self _))
  · exact trimmed_append (w := "Policy: ".toList) (by decide) h.actionId_ne

theorem userLine_mem (h : NamesPolicy P event) :
    userLine event ∈ uniqueValues P.toLetterCase (actionLines P event) := by
  refine mem_uniqueValues_actionLines P ?_ ?_ (List.append_ne_nil_of_right_ne_nil _ h.user_ne)
  · rw [actionLines, if_pos h.user_ne]
    exact List.mem_append_right _ (List.mem_singleton_self _)
  · exact trimmed_append (w := "Authenticate as ".toList) (by decide) h.user_ne

theorem actionDetails_ne_nil (h : NamesPolicy P event) : actionDetails P event ≠ [] :=
  joinLines_ne_nil h.policyLine_mem (List.append_ne_nil_of_right_ne_nil _ h.actionId_ne)

/-- **The details of the prompt**: the block is dropped, or it is all
there. -/
theorem details_eq (h : NamesPolicy P event) :
    (build P event).details =
      if textEquivalent P.toLetterCase (ownDetails P event) (actionDetails P event) then
        trimmed (ownDetails P event)
      else if trimmed (ownDetails P event) = [] then actionDetails P event
      else joinLines [trimmed (ownDetails P event), actionDetails P event] := by
  rw [build_details, mergeAction_details P h.source_eq, if_neg h.actionDetails_ne_nil,
    requestModel_details P h.source_eq]
  exact uniqueJoined_pair P.toLetterCase (trimmed_uniqueJoined _ _) h.actionDetails_ne_nil

end NamesPolicy

/-- **When the policy and the user are named.** The request's own texts are
all that decides it: the block is dropped where they come to a text that is
equivalent to it, and then its lines are shown only if that text has them
already. -/
theorem policy_named_iff (h : NamesPolicy P event) :
    (HasLine (policyLine event) (build P event).details ∧
        HasLine (userLine event) (build P event).details) ↔
      textEquivalent P.toLetterCase (ownDetails P event) (actionDetails P event) = false ∨
        HasLine (policyLine event) (trimmed (ownDetails P event)) ∧
          HasLine (userLine event) (trimmed (ownDetails P event)) := by
  have hpolicy : HasLine (policyLine event) (actionDetails P event) :=
    HasLine.joinLines List.infix_rfl h.policyLine_mem
  have huser : HasLine (userLine event) (actionDetails P event) :=
    HasLine.joinLines List.infix_rfl h.userLine_mem
  rw [h.details_eq]
  by_cases he : textEquivalent P.toLetterCase (ownDetails P event)
      (actionDetails P event) = true
  · rw [if_pos he, he]
    simp
  · rw [if_neg he]
    refine iff_of_true ?_ (.inl (Bool.eq_false_iff.2 he))
    split
    · exact ⟨hpolicy, huser⟩
    · exact ⟨hpolicy.joinLines (by simp), huser.joinLines (by simp)⟩

/-- A system update asked for as root. -/
def updateEvent : QJsonObject :=
  [("source", .string "polkit"),
    ("context", .object
      [("message", .string "Authentication is required"),
        ("actionId", .string "org.freedesktop.packagekit.system-update"),
        ("user", .string "root")])]

/-- **Asked for without more ado, it names both.** -/
theorem update_named :
    HasLine (policyLine updateEvent) (build .ascii updateEvent).details ∧
      HasLine (userLine updateEvent) (build .ascii updateEvent).details :=
  (policy_named_iff ⟨by decide, by decide +kernel, by decide +kernel, by decide +kernel⟩).2
    (.inl (by decide +kernel))

/-- **One word hides both**: the block starts with it, so it is taken for a
repetition. -/
theorem action_hides_policy :
    ¬ ∀ (P : PromptCase) (event : QJsonObject), NamesPolicy P event →
      HasLine (policyLine event) (build P event).details ∧
        HasLine (userLine event) (build P event).details := fun h => by
  have hnamed := h .ascii (updateEvent ++ [("info", .string "Action")])
    ⟨by decide, by decide +kernel, by decide +kernel, by decide +kernel⟩
  exact absurd hnamed.1 (by decide +kernel)

end PromptModelBuilder

end BbAuth
