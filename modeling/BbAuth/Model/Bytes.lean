import Mathlib.Data.List.Basic
/-!
# Bytes

The `QByteArray` operations the two ends of the connection read their
lines with.
-/

namespace BbAuth

/-- A `QByteArray`. -/
abbrev QByteArray : Type := List UInt8

namespace QByteArray

/-- `'\n'`. -/
def newline : UInt8 := 10

/-- White space, as `QByteArray::trimmed` has it. -/
def isSpace (c : UInt8) : Bool := c = 32 || (9 ≤ c && c ≤ 13)

/-- `QByteArray::trimmed`. -/
def trimmed (bytes : QByteArray) : QByteArray :=
  ((bytes.dropWhile isSpace).reverse.dropWhile isSpace).reverse

example : trimmed [32, 123, 32, 125, 13] = [123, 32, 125] := by decide

/-- Nothing but white space. -/
def Blank (bytes : QByteArray) : Prop := ∀ c ∈ bytes, isSpace c = true

instance (bytes : QByteArray) : Decidable (Blank bytes) := List.decidableBAll ..

/-- White space in front does not matter. -/
theorem trimmed_append_of_blank {lead bytes : QByteArray} (h : Blank lead) :
    trimmed (lead ++ bytes) = trimmed bytes := by
  rw [trimmed, List.dropWhile_append_of_pos h, trimmed]

end QByteArray

end BbAuth
