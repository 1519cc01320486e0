import Mathlib.Data.Rat.Defs
/-!
# JSON values

Qt's `QJsonValue` and `QJsonObject` as the daemon uses them. An object is
the list of its members; a member read through `value` is the first of
its name, and a read of an absent or differently typed member gives the
default of the conversion, as Qt's does. Numbers are rationals: Qt holds
a double or a 64-bit integer, and both are.
-/

namespace BbAuth

/-- A JSON value; `undefined` is what reading an absent member gives. -/
inductive QJsonValue where
  | undefined
  | null
  | bool (b : Bool)
  | double (q : ℚ)
  | string (s : String)
  | array (xs : List QJsonValue)
  | object (members : List (String × QJsonValue))

namespace QJsonValue

mutual

/-- Equality of JSON values is decidable. -/
def decEq : (a b : QJsonValue) → Decidable (a = b)
  | .undefined, b => by cases b <;> first | exact isTrue rfl | exact isFalse nofun
  | .null, b => by cases b <;> first | exact isTrue rfl | exact isFalse nofun
  | .bool x, .bool y => decidable_of_iff (x = y) (by simp)
  | .double x, .double y => decidable_of_iff (x = y) (by simp)
  | .string x, .string y => decidable_of_iff (x = y) (by simp)
  | .array xs, .array ys => @decidable_of_iff _ (xs = ys) (by simp) (decEqArray xs ys)
  | .object xs, .object ys => @decidable_of_iff _ (xs = ys) (by simp) (decEqMembers xs ys)
  | .bool _, .undefined | .bool _, .null | .bool _, .double _ | .bool _, .string _
  | .bool _, .array _ | .bool _, .object _ => isFalse nofun
  | .double _, .undefined | .double _, .null | .double _, .bool _ | .double _, .string _
  | .double _, .array _ | .double _, .object _ => isFalse nofun
  | .string _, .undefined | .string _, .null | .string _, .bool _ | .string _, .double _
  | .string _, .array _ | .string _, .object _ => isFalse nofun
  | .array _, .undefined | .array _, .null | .array _, .bool _ | .array _, .double _
  | .array _, .string _ | .array _, .object _ => isFalse nofun
  | .object _, .undefined | .object _, .null | .object _, .bool _ | .object _, .double _
  | .object _, .string _ | .object _, .array _ => isFalse nofun

/-- And so is equality of arrays. -/
def decEqArray : (a b : List QJsonValue) → Decidable (a = b)
  | [], [] => isTrue rfl
  | [], _ :: _ | _ :: _, [] => isFalse nofun
  | x :: xs, y :: ys =>
    @decidable_of_iff _ (x = y ∧ xs = ys) (by simp)
      (@instDecidableAnd _ _ (decEq x y) (decEqArray xs ys))

/-- And of member lists. -/
def decEqMembers : (a b : List (String × QJsonValue)) → Decidable (a = b)
  | [], [] => isTrue rfl
  | [], _ :: _ | _ :: _, [] => isFalse nofun
  | (k, x) :: xs, (l, y) :: ys =>
    @decidable_of_iff _ (k = l ∧ x = y ∧ xs = ys) (by simp [and_assoc])
      (@instDecidableAnd _ _ _ (@instDecidableAnd _ _ (decEq x y) (decEqMembers xs ys)))

end

instance : DecidableEq QJsonValue := decEq

instance : Inhabited QJsonValue := ⟨.undefined⟩

instance : Coe String QJsonValue := ⟨.string⟩

instance : Coe Bool QJsonValue := ⟨.bool⟩

/-- An `int` member. -/
def int (n : ℤ) : QJsonValue := .double n

/-- `QJsonValue::toString`. -/
def toString : QJsonValue → String
  | .string s => s
  | _ => ""

@[simp] theorem toString_string (s : String) : (string s).toString = s := rfl

@[simp] theorem toString_undefined : undefined.toString = "" := rfl

/-- `QJsonValue::toBool`. -/
def toBool : QJsonValue → Bool
  | .bool b => b
  | _ => false

@[simp] theorem toBool_bool (b : Bool) : (bool b).toBool = b := rfl

/-- `QJsonValue::isBool`. -/
def isBool : QJsonValue → Bool
  | .bool _ => true
  | _ => false

/-- `QJsonValue::isDouble`. -/
def isDouble : QJsonValue → Bool
  | .double _ => true
  | _ => false

/-- `QJsonValue::toInt`: a whole number in the range of `int`, else `0`. -/
def toInt : QJsonValue → ℤ
  | .double q => if q.den = 1 ∧ -2147483648 ≤ q.num ∧ q.num ≤ 2147483647 then q.num else 0
  | _ => 0

/-- `QJsonValue::toInteger`: a whole number of 64 bits, else `0`. -/
def toInteger : QJsonValue → ℤ
  | .double q =>
    if q.den = 1 ∧ -9223372036854775808 ≤ q.num ∧ q.num ≤ 9223372036854775807 then q.num else 0
  | _ => 0

end QJsonValue

/-- A JSON object. -/
abbrev QJsonObject : Type := List (String × QJsonValue)

namespace QJsonObject

/-- `QJsonObject::value`. -/
def value (o : QJsonObject) (key : String) : QJsonValue := (o.lookup key).getD .undefined

/-- `QJsonObject::contains`. -/
def contains (o : QJsonObject) (key : String) : Bool := (o.lookup key).isSome

/-- `QJsonObject::remove`. -/
def remove (o : QJsonObject) (key : String) : QJsonObject := o.filter fun m => m.1 ≠ key

/-- `object[key] = value`. -/
def set (o : QJsonObject) (key : String) (v : QJsonValue) : QJsonObject :=
  o.remove key ++ [(key, v)]

/-- `object[key] = value`, under a condition. -/
def setIf (o : QJsonObject) (b : Bool) (key : String) (v : QJsonValue) : QJsonObject :=
  if b then o.set key v else o

end QJsonObject

/-- `QJsonValue::toObject`. -/
def QJsonValue.toObject : QJsonValue → QJsonObject
  | .object o => o
  | _ => []

namespace QJsonObject

/-! ## Reading back what was written -/

variable {o : QJsonObject} {k l : String} {v : QJsonValue} {b : Bool}

@[simp] theorem value_nil : value [] k = .undefined := rfl

@[simp] theorem value_cons :
    value ((l, v) :: o) k = if k = l then v else value o k := by
  by_cases h : k = l
  · simp [value, h]
  · simp [value, List.lookup_cons, beq_eq_false_iff_ne.mpr h, h]

/-- A removal hides the member and no other. -/
@[simp] theorem value_remove :
    value (o.remove l) k = if k = l then .undefined else value o k := by
  induction o with
  | nil => simp [remove]
  | cons m o ih =>
      obtain ⟨n, w⟩ := m
      simp only [remove] at ih ⊢
      by_cases hn : n = l
      · subst hn
        simp only [List.filter_cons, ne_eq, not_true_eq_false, decide_false,
          Bool.false_eq_true, if_false, ih, value_cons]
        by_cases hk : k = n <;> simp [hk]
      · simp only [List.filter_cons, ne_eq, hn, not_false_eq_true, decide_true, if_true,
          value_cons, ih]
        by_cases hk : k = n
        · subst hk; simp [hn]
        · simp [hk]

theorem value_append_of_undefined {p : QJsonObject} (h : o.lookup k = none) :
    value (o ++ p) k = value p k := by
  simp [value, List.lookup_append, h]

theorem lookup_remove_self : (o.remove k).lookup k = none := by
  rw [List.lookup_eq_none_iff]
  intro m hm
  simp only [remove, ne_eq, decide_not, List.mem_filter, Bool.not_eq_eq_eq_not, Bool.not_true,
    decide_eq_false_iff_not] at hm
  simpa using fun h => hm.2 h.symm

/-- **What a write leaves to be read.** -/
@[simp] theorem value_set :
    value (o.set l v) k = if k = l then v else value o k := by
  by_cases h : k = l
  · subst h
    rw [set, value_append_of_undefined lookup_remove_self]
    simp
  · rw [if_neg h, set]
    have hv : value (o.remove l) k = value o k := by simp [h]
    rw [← hv, value, value, List.lookup_append]
    cases (o.remove l).lookup k with
    | some w => rfl
    | none => simp [List.lookup_cons, beq_eq_false_iff_ne.mpr h]

@[simp] theorem value_setIf :
    value (o.setIf b l v) k = if b ∧ k = l then v else value o k := by
  cases b <;> simp [setIf]

@[simp] theorem contains_nil : contains [] k = false := rfl

@[simp] theorem contains_cons :
    contains ((l, v) :: o) k = (decide (k = l) || contains o k) := by
  by_cases h : k = l
  · simp [contains, h]
  · simp [contains, List.lookup_cons, beq_eq_false_iff_ne.mpr h, h]

@[simp] theorem contains_set :
    contains (o.set l v) k = (decide (k = l) || contains o k) := by
  by_cases h : k = l
  · subst h
    simp [set, contains, List.lookup_append, lookup_remove_self]
  · have hl : (o.remove l).lookup k = o.lookup k := by
      induction o with
      | nil => rfl
      | cons m o ih =>
          obtain ⟨n, w⟩ := m
          by_cases hn : n = l
          · subst hn
            simpa [remove, List.lookup_cons, beq_eq_false_iff_ne.mpr h] using ih
          · simp only [remove, ne_eq, decide_not] at ih
            simp [remove, hn, List.lookup_cons, ih]
    simp [set, contains, List.lookup_append, hl, List.lookup_cons, beq_eq_false_iff_ne.mpr h, h]

@[simp] theorem contains_setIf :
    contains (o.setIf b l v) k = (b && decide (k = l) || contains o k) := by
  cases b <;> simp [setIf]

/-! ## Removing what was written -/

theorem remove_set_self : (o.set k v).remove k = o.remove k := by
  simp [set, remove]

theorem remove_set_of_ne (h : k ≠ l) : (o.set k v).remove l = (o.remove l).set k v := by
  simp [set, remove, h, List.filter_filter, Bool.and_comm]

end QJsonObject

end BbAuth
