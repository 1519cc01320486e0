import BbAuth.Library.Utf8
import BbAuth.Model.Bytes
import BbAuth.Model.Text
/-!
# The Assuan text encoding

`assuanDecode` and `assuanEncode`, by which a pinentry reads the arguments
of its commands and writes the data of its answers. Qt's strings are
sequences of UTF-16 units; both functions are given on characters, and on
units at the end of the file. On the wire a text is its UTF-8 bytes.
-/

namespace BbAuth

namespace Assuan

/-- The value of a hexadecimal digit. -/
def hexDigit (c : Char) : Option ℕ :=
  if c.isDigit then some (c.toNat - '0'.toNat)
  else if 'a' ≤ c ∧ c ≤ 'f' then some (c.toNat - 'a'.toNat + 10)
  else if 'A' ≤ c ∧ c ≤ 'F' then some (c.toNat - 'A'.toNat + 10)
  else none

/-- `toInt(&ok, 16)` of a text of two characters: two digits, or one digit
with a sign before it or white space beside it. -/
def toIntHex (a b : Char) : Option ℤ :=
  match hexDigit a, hexDigit b with
  | some x, some y => some (16 * x + y)
  | some x, none => if Text.isSpaceChar b then some x else none
  | none, some y =>
    if Text.isSpaceChar a || a = '+' then some y
    else if a = '-' || a = '−' then some (-y) else none
  | none, none => none

/-- `QChar(int)`: the value is taken as a UTF-16 unit. -/
def qChar (code : ℤ) : Char := Char.ofNat (code % 65536).toNat

/-- The loop of `assuanDecode`. -/
def decode : List Char → List Char
  | '%' :: a :: b :: rest =>
    match toIntHex a b with
    | some code => qChar code :: decode rest
    | none => '%' :: decode (a :: b :: rest)
  | c :: rest => c :: decode rest
  | [] => []

/-- `assuanDecode`. -/
def assuanDecode (input : List Char) : String := String.ofList (decode input)

/-- `"0123456789ABCDEF"[n]`. -/
def hexChar (n : ℕ) : Char := if n < 10 then Char.ofNat (48 + n) else Char.ofNat (55 + n)

/-- What `assuanEncode` appends for one character. -/
def encodeChar (c : Char) : List Char :=
  if c = '%' ∨ c = '\n' ∨ c = '\r' then ['%', hexChar (c.toNat / 16 % 16), hexChar (c.toNat % 16)]
  else [c]

/-- `assuanEncode`. -/
def assuanEncode (input : String) : String := String.ofList (input.toList.flatMap encodeChar)

example : assuanDecode "100%25%0Aof %zz".toList = "100%\nof %zz" := by decide

example : assuanEncode "100%\n" = "100%25%0A" := by decide

/-! ## On bytes -/

/-- `QString::toStdString`. -/
def toStdString (text : String) : QByteArray := Utf8.encode text.toList

/-- The byte order mark in front of some bytes is left out. -/
def skipBom (bytes : QByteArray) : QByteArray :=
  if [0xEF, 0xBB, 0xBF].isPrefixOf bytes then bytes.drop 3 else bytes

/-- `QString::fromStdString`. -/
def fromStdString (bytes : QByteArray) : String := String.ofList (Utf8.decode (skipBom bytes))

/-! ## On UTF-16 units -/

/-- `QChar::toLatin1`. -/
def toLatin1 (unit : ℕ) : ℕ := if unit < 256 then unit else 0

/-- What `assuanEncode` appends for one unit. -/
def encodeUnit (unit : ℕ) : List ℕ :=
  let c := toLatin1 unit
  if c = '%'.toNat ∨ c = '\n'.toNat ∨ c = '\r'.toNat then
    ['%'.toNat, (hexChar (c / 16 % 16)).toNat, (hexChar (c % 16)).toNat]
  else [unit]

/-- The loop of `assuanDecode` over units. A surrogate is no part of a
number, and neither is the `NUL` it is read as here. -/
def decodeUnits : List ℕ → List ℕ
  | 37 :: a :: b :: rest =>
    match toIntHex (Char.ofNat a) (Char.ofNat b) with
    | some code => (code % 65536).toNat :: decodeUnits rest
    | none => 37 :: decodeUnits (a :: b :: rest)
  | c :: rest => c :: decodeUnits rest
  | [] => []

end Assuan

end BbAuth
