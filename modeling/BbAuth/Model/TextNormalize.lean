import BbAuth.Model.Text
/-!
# Text normalization

`TextNormalize.cpp`. Qt's strings are sequences of UTF-16 units; what only
splits, trims and joins is given for texts of any units, so that it can be
read on characters as well. Lower-casing is the platform's, a character at a
time.
-/

namespace BbAuth

/-- **What a text is made of**: UTF-16 units, or characters. -/
class TextUnit (α : Type) where
  /-- The unit of a character of ASCII. -/
  ofAscii : Char → α
  /-- `QChar::isSpace`. -/
  isSpace : α → Bool
  isSpace_blank : isSpace (ofAscii ' ') = true
  isSpace_newline : isSpace (ofAscii '\n') = true
  isSpace_return : isSpace (ofAscii '\r') = true
  newline_ne_blank : ofAscii '\n' ≠ ofAscii ' '
  return_ne_blank : ofAscii '\r' ≠ ofAscii ' '

instance : TextUnit Char where
  ofAscii := id
  isSpace := Text.isSpaceChar
  isSpace_blank := by decide
  isSpace_newline := by decide
  isSpace_return := by decide
  newline_ne_blank := by decide
  return_ne_blank := by decide

/-- A surrogate is no white space, and neither is the `NUL` it is read as
here. -/
instance : TextUnit ℕ where
  ofAscii := Char.toNat
  isSpace unit := Text.isSpaceChar (Char.ofNat unit)
  isSpace_blank := by decide
  isSpace_newline := by decide
  isSpace_return := by decide
  newline_ne_blank := by decide
  return_ne_blank := by decide

namespace TextNormalize

section

variable {α : Type} [DecidableEq α] [TextUnit α]

open TextUnit

/-- `'\n'`. -/
def newline : α := ofAscii '\n'

/-- A string literal of ASCII. -/
def ascii (s : String) : List α := s.toList.map ofAscii

/-- `QString::trimmed`. -/
def trimmed (text : List α) : List α := trim isSpace text

/-- `QString::simplified`: the words, with one blank between them. -/
def simplified (text : List α) : List α := [ofAscii ' '].intercalate (words isSpace text)

/-- `replace(before, after)`, of one unit by another. -/
def replace (before after : α) (text : List α) : List α :=
  text.map fun c => if c = before then after else c

/-- `QStringList::join("\n")`. -/
def joinLines (lines : List (List α)) : List α := [newline].intercalate lines

/-- `normalizeDetailText`. -/
def normalizeDetailText (text : List α) : List α :=
  let normalized := replace (ofAscii '\r') newline text
  joinLines (((normalized.splitOn newline).map simplified).filter fun line => !line.isEmpty)

/-- `firstMeaningfulLine`. -/
def firstMeaningfulLine (text : List α) : List α :=
  let cleaned := normalizeDetailText text
  if cleaned = [] then [] else cleaned.takeWhile (· ≠ newline)

end

/-! ## Comparison -/

/-- **Lower-casing**: a character becomes one or more. The other laws say
what its documentation does: on ASCII it is the usual one, it is done after
the first time, and it makes neither white space nor punctuation out of
anything else. -/
structure LetterCase where
  lower : Char → List Char
  lower_ascii : ∀ c, c.toNat < 0x80 → lower c = [c.toLower]
  lower_ne_nil : ∀ c, lower c ≠ []
  lower_lower : ∀ c, (lower c).flatMap lower = lower c
  not_space : ∀ c, Text.isSpaceChar c = false → ∀ d ∈ lower c, Text.isSpaceChar d = false
  not_removed : ∀ c, c ∉ ['`', '"', ',', '.'] → ∀ d ∈ lower c, d ∉ ['`', '"', ',', '.']

variable (K : LetterCase)

/-- `QString::toLower`. -/
def toLower (text : List Char) : List Char := text.flatMap K.lower

/-- `normalizeCompareText`. -/
def normalizeCompareText (text : List Char) : List Char :=
  let normalized := toLower K (normalizeDetailText text)
  let normalized := replace '`' ' ' normalized
  let normalized := replace '"' ' ' normalized
  let normalized := replace ',' ' ' normalized
  let normalized := replace '.' ' ' normalized
  simplified normalized

/-- `textEquivalent`. -/
def textEquivalent (left right : List Char) : Bool :=
  let a := normalizeCompareText K left
  let b := normalizeCompareText K right
  if a.isEmpty || b.isEmpty then false
  else a = b || b.isPrefixOf a || a.isPrefixOf b

/-- The body of the outer loop of `uniqueJoined`. -/
def keepUnique (filtered : List (List Char)) (value : List Char) : List (List Char) :=
  let simplified := trimmed value
  if simplified = [] then filtered
  else if filtered.any fun existing => textEquivalent K existing simplified then filtered
  else filtered ++ [simplified]

/-- What `uniqueJoined` keeps. -/
def uniqueValues (values : List (List Char)) : List (List Char) :=
  values.foldl (keepUnique K) []

/-- `uniqueJoined`. -/
def uniqueJoined (values : List (List Char)) : List Char := joinLines (uniqueValues K values)

/-- How many UTF-16 units a text has. -/
def unitsOf (text : List Char) : ℕ := (text.flatMap Text.utf16Units).length

/-- The first units of a text. Half a character is shown as `U+FFFD`. -/
def firstUnits : ℕ → List Char → List Char
  | _, [] => []
  | 0, _ => []
  | 1, c :: _ => if c.toNat < 0x10000 then [c] else [Char.ofNat 0xFFFD]
  | n + 2, c :: text =>
    c :: firstUnits (if c.toNat < 0x10000 then n + 1 else n) text

/-- `left`: a negative number leaves the text whole. -/
def left (n : ℤ) (text : List Char) : List Char := if n < 0 then text else firstUnits n.toNat text

/-- `trimToLength`. -/
def trimToLength (text : List Char) (maxChars : ℤ) : List Char :=
  if unitsOf text ≤ maxChars then text
  else trimmed (left (maxChars - 3) text) ++ ascii "..."

end TextNormalize

end BbAuth
