import BbAuth.Prompt.Joined
/-!
# Numbers that are read back

A number that is printed in decimal is read back by `QString::toLongLong`,
if it fits: its digits are no white space and no sign.
-/

namespace BbAuth

namespace TextNormalize

theorem decimal_toDigits (n : ℕ) : Text.decimal (Nat.toDigits 10 n) = n := by
  have hfold : ∀ (l : List Char) (m : ℕ),
      l.foldl (fun (n : ℤ) c => 10 * n + ((c.toNat - '0'.toNat : ℕ) : ℤ)) (m : ℤ) =
        (Nat.ofDigitChars 10 l m : ℤ) := by
    intro l
    induction l with
    | nil => exact fun m => rfl
    | cons c l ih =>
        intro m
        rw [List.foldl_cons, Nat.ofDigitChars_cons, ← ih]
        push_cast
        rfl
  have hten := hfold (Nat.toDigits 10 n) 0
  rwa [Nat.ofDigitChars_ten_toDigits] at hten

variable {n : ℕ} {c : Char}

theorem isDigit_of_mem_toDigits (h : c ∈ Nat.toDigits 10 n) : c.isDigit = true :=
  Nat.isDigit_of_mem_toDigits (by decide) (by decide) h

/-- A digit is neither white space nor a sign. -/
theorem plain_of_mem_toDigits (h : c ∈ Nat.toDigits 10 n) :
    TextUnit.isSpace c = false ∧ c ≠ '-' ∧ c ≠ '−' ∧ c ≠ '+' ∧ c ≠ '\n' := by
  have hrange : 48 ≤ c.toNat ∧ c.toNat ≤ 57 :=
    Char.isDigit_iff_toNat.1 (isDigit_of_mem_toDigits h)
  have hne : ∀ d : Char, ¬ (48 ≤ d.toNat ∧ d.toNat ≤ 57) → c ≠ d := by
    rintro d hd rfl
    exact hd hrange
  refine ⟨?_, hne _ (by decide), hne _ (by decide), hne _ (by decide), hne _ (by decide)⟩
  have hblank : c ≠ ' ' := hne _ (by decide)
  change Text.isSpaceChar c = false
  simp only [Text.isSpaceChar, Text.isSpace, Bool.or_eq_false_iff, Bool.and_eq_false_iff,
    decide_eq_false_iff_not, List.mem_cons, List.not_mem_nil, or_false]
  exact ⟨⟨⟨hblank, by omega⟩, by omega⟩, by omega⟩

theorem trimmed_toDigits (n : ℕ) : trimmed (Nat.toDigits 10 n) = Nat.toDigits 10 n :=
  trimmed_eq_self (fun _ hc => (plain_of_mem_toDigits (List.mem_of_mem_head? hc)).1)
    fun _ hc => (plain_of_mem_toDigits (List.mem_of_mem_getLast? hc)).1

/-- **A number that is printed is read back.** -/
theorem toLongLong_toDigits (hn : n ≤ 9223372036854775807) :
    Text.toLongLong (String.ofList (Nat.toDigits 10 n)) = some (n : ℤ) := by
  have hall : (Nat.toDigits 10 n).all Char.isDigit = true :=
    List.all_eq_true.2 fun _ => isDigit_of_mem_toDigits
  have hplain : ∀ c ∈ Nat.toDigits 10 n, c ≠ '-' ∧ c ≠ '−' ∧ c ≠ '+' := fun c hc =>
    have h := plain_of_mem_toDigits hc
    ⟨h.2.1, h.2.2.1, h.2.2.2.1⟩
  have htrim : Text.trimmed (Nat.toDigits 10 n) = Nat.toDigits 10 n := trimmed_toDigits n
  have hdec := decimal_toDigits n
  obtain ⟨c, rest, hcons⟩ := List.exists_cons_of_ne_nil (Nat.toDigits_ne_nil (n := n) (b := 10))
  rw [Text.toLongLong, Text.toIntegral, String.toList_ofList, htrim]
  rw [hcons] at hall hplain hdec ⊢
  obtain ⟨hminus, hdash, hplus⟩ := hplain c List.mem_cons_self
  split
  next negative digits hmatch =>
    have hplain : negative = false ∧ digits = c :: rest := by
      split at hmatch
      next heq => exact absurd (List.cons.inj heq).1 hminus
      next heq => exact absurd (List.cons.inj heq).1 hdash
      next heq => exact absurd (List.cons.inj heq).1 hplus
      next => exact ⟨(Prod.mk.inj hmatch).1.symm, (Prod.mk.inj hmatch).2.symm⟩
    obtain ⟨rfl, rfl⟩ := hplain
    have hrange : -9223372036854775808 ≤ (n : ℤ) ∧ (n : ℤ) ≤ 9223372036854775807 := by omega
    simp [hall, hdec, hrange]

end TextNormalize

end BbAuth
