import BbAuth.Model.TextNormalize
/-!
# The details of a prompt on the screen

`collapseDetailText`, and the part of `FallbackWindow` that shows a
request's details: a few lines at first, and the whole text once the user
asks for more.
-/

namespace BbAuth

section

variable {α : Type} [DecidableEq α] [TextUnit α]

open TextNormalize TextUnit

/-- The loop of `collapseDetailText`: the lines kept, and whether anything
was cut. -/
def collapseLines (maxLines maxChars : ℕ) :
    List (List α) → List (List α) → ℕ → List (List α) × Bool
  | [], collapsedLines, _ => (collapsedLines, false)
  | line :: lines, collapsedLines, usedChars =>
    if collapsedLines.length ≥ maxLines then (collapsedLines, true)
    else if usedChars + line.length > maxChars then
      let remaining := maxChars - usedChars
      let clipped := if remaining > 0 then trimmed (line.take remaining) else []
      (if clipped = [] then collapsedLines else collapsedLines ++ [clipped], true)
    else collapseLines maxLines maxChars lines (collapsedLines ++ [line]) (usedChars + line.length)

/-- `collapseDetailText`, for limits that are not negative. -/
def collapseDetailText (text : List α) (maxLines maxChars : ℕ) : List α × Bool :=
  let normalizedText := normalizeDetailText text
  if normalizedText = [] then ([], false)
  else
    let lines := normalizedText.splitOn newline
    let (collapsedLines, truncated) := collapseLines maxLines maxChars lines [] 0
    let truncated := truncated || decide (lines.length > collapsedLines.length)
    let collapsed := joinLines collapsedLines
    if truncated && collapsed ≠ [] && !(ascii "...").isSuffixOf collapsed then
      (collapsed ++ ascii "...", truncated)
    else (collapsed, truncated)

/-- **What `FallbackWindow` shows of the details.** -/
structure DetailsView (α : Type) where
  fullContextText : List α := []
  collapsedContextText : List α := []
  contextExpandable : Bool := false
  contextExpanded : Bool := false
  /-- `m_contextLabel`, and whether it is visible. -/
  label : List α := []
  labelVisible : Bool := false
  /-- The text of `m_contextToggleButton`, where it is visible. -/
  toggleButton : Option String := none
  deriving DecidableEq

namespace DetailsView

/-- `setDetailsExpanded`. -/
def setDetailsExpanded (v : DetailsView α) (expanded : Bool) : DetailsView α :=
  let v := { v with contextExpanded := expanded && v.contextExpandable }
  if v.fullContextText = [] then
    { v with label := [], labelVisible := false, toggleButton := none }
  else
    let text :=
      if v.contextExpanded || !v.contextExpandable then v.fullContextText
      else v.collapsedContextText
    let v := { v with label := text, labelVisible := text ≠ [] }
    if v.contextExpandable then
      { v with toggleButton := some (if v.contextExpanded then "Show less" else "Show more") }
    else { v with toggleButton := none }

/-- `setDetailsText`. -/
def setDetailsText (v : DetailsView α) (text : List α) : DetailsView α :=
  let v := { v with fullContextText := normalizeDetailText text }
  if v.fullContextText = [] then
    { v with
      collapsedContextText := [], contextExpandable := false, contextExpanded := false,
      label := [], labelVisible := false, toggleButton := none }
  else
    let (collapsed, truncated) := collapseDetailText v.fullContextText 3 220
    { v with collapsedContextText := collapsed, contextExpandable := truncated }.setDetailsExpanded
      false

end DetailsView

end

end BbAuth
