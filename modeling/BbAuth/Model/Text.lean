import BbAuth.Library.Words
import BbAuth.Model.World
import Mathlib.Data.List.Infix
/-!
# Text

The few `QString` operations the daemon decides by: number parsing, the
case folding of a keyword, the order of two texts, and the pattern that
reads a retry counter out of a pinentry description.
-/

namespace BbAuth

namespace Text

/-- White space, as `\s` has it. -/
def isSpace (c : Char) : Bool := c = ' ' || (9 ≤ c.toNat && c.toNat ≤ 13)

/-- `QChar::isSpace`. -/
def isSpaceChar (c : Char) : Bool :=
  isSpace c || c.toNat ∈ [0x85, 0xA0, 0x1680, 0x2028, 0x2029, 0x202F, 0x205F, 0x3000] ||
    (0x2000 ≤ c.toNat && c.toNat ≤ 0x200A)

/-- The value of a string of decimal digits. -/
def decimal (digits : List Char) : ℤ :=
  digits.foldl (fun n c => 10 * n + ((c.toNat - '0'.toNat : ℕ) : ℤ)) 0

/-- The text without the white space around it. -/
def trimmed (chars : List Char) : List Char := trim isSpaceChar chars

/-- A decimal number in a range, with a sign and white space around it
allowed. The minus sign of typography is one. -/
def toIntegral (low high : ℤ) (text : String) : Option ℤ :=
  let (negative, digits) := match trimmed text.toList with
    | '-' :: rest | '−' :: rest => (true, rest)
    | '+' :: rest => (false, rest)
    | rest => (false, rest)
  if digits.isEmpty || !digits.all Char.isDigit then none
  else
    let value := if negative then -decimal digits else decimal digits
    if low ≤ value ∧ value ≤ high then some value else none

/-- `QString::toLongLong`, with its `ok` flag. -/
def toLongLong : String → Option ℤ := toIntegral (-9223372036854775808) 9223372036854775807

/-- `QString::toInt`: `0` where the text is no `int`. -/
def toInt (text : String) : ℤ := (toIntegral (-2147483648) 2147483647 text).getD 0

/-- `QString::toLower` as far as a comparison with an ASCII keyword free of
the letter `k` sees it: no other letter folds onto one of ASCII. -/
def toLower (text : String) : String := String.ofList (text.toList.map Char.toLower)

/-- The case folding of `Qt::CaseInsensitive`, as far as a comparison with
an ASCII keyword sees it: two letters outside ASCII fold onto one of its. -/
def foldCase (c : Char) : Char :=
  if c.toNat = 0x17F then 's' else if c.toNat = 0x212A then 'k' else c.toLower

/-- `compare(keyword, Qt::CaseInsensitive) == 0`, for an ASCII keyword. -/
def equalsKeyword (chars : List Char) (keyword : String) : Bool :=
  chars.map foldCase = keyword.toList.map foldCase

/-- `contains(keyword, Qt::CaseInsensitive)`, for an ASCII keyword. -/
def containsKeyword (text keyword : String) : Bool :=
  decide (keyword.toList.map foldCase <:+: text.toList.map foldCase)

/-- `QString::trimmed`. -/
def trimmedText (text : String) : String := String.ofList (trimmed text.toList)

/-- The UTF-16 code units of a character. -/
def utf16Units (c : Char) : List ℕ :=
  if c.toNat < 0x10000 then [c.toNat]
  else [0xD800 + (c.toNat - 0x10000) / 0x400, 0xDC00 + (c.toNat - 0x10000) % 0x400]

theorem utf16Units_of_lt {c : Char} (h : c.toNat < 0x10000) : utf16Units c = [c.toNat] :=
  if_pos h

/-- The UTF-16 code units of a text. -/
def utf16 (text : String) : List ℕ := text.toList.flatMap utf16Units

/-- `operator<` of two `QString`s. -/
def LessThan (a b : String) : Prop := utf16 a < utf16 b

instance : DecidableRel LessThan := fun a b => inferInstanceAs (Decidable (utf16 a < utf16 b))

/-- A nonempty run of characters satisfying `p`, and what follows it. -/
def many1 (p : Char → Bool) (chars : List Char) : Option (List Char × List Char) :=
  let run := chars.takeWhile p
  if run.isEmpty then none else some (run, chars.dropWhile p)

/-- What follows a literal. -/
def literal (text : String) (chars : List Char) : Option (List Char) :=
  if text.toList.isPrefixOf chars then some (chars.drop text.length) else none

/-- The pattern `\((\d+)\s+of\s+(\d+)\s+attempts\)` at the head of a text.
Each class excludes what follows it, so no match is lost by taking every
run whole. -/
def attemptsAt (chars : List Char) : Option (String × String) := do
  let chars ← literal "(" chars
  let (first, chars) ← many1 Char.isDigit chars
  let (_, chars) ← many1 isSpace chars
  let chars ← literal "of" chars
  let (_, chars) ← many1 isSpace chars
  let (second, chars) ← many1 Char.isDigit chars
  let (_, chars) ← many1 isSpace chars
  let _ ← literal "attempts)" chars
  return (String.ofList first, String.ofList second)

/-- The first match of the pattern, and its two captures. -/
def findAttempts : List Char → Option (String × String)
  | [] => none
  | c :: chars => (attemptsAt (c :: chars)).or (findAttempts chars)

example : findAttempts "Bad PIN (2 of  3 attempts)".toList = some ("2", "3") := by decide

end Text

end BbAuth
