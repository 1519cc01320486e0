import BbAuth.Model.Assuan
import Mathlib.Data.Bool.AllAny
/-!
# A passphrase on its way to the caller

`assuanEncode` escapes the three characters a data line cannot hold, so
nothing it writes ends the line, and both readers, this program's own and
the byte decoder of the protocol, get back what went in. On UTF-16 units the
two functions do what they do on characters.
-/

namespace BbAuth

namespace Assuan

variable {a b c : Char} {rest : List Char}

/-! ## The standard reader -/

/-- **The percent-decoding of the protocol**, byte by byte: a percent sign
and two hexadecimal digits are the byte they spell. -/
def percentDecode : QByteArray → QByteArray
  | 37 :: a :: b :: rest =>
    match hexDigit (Char.ofNat a.toNat), hexDigit (Char.ofNat b.toNat) with
    | some x, some y => UInt8.ofNat (16 * x + y) :: percentDecode rest
    | _, _ => 37 :: percentDecode (a :: b :: rest)
  | c :: rest => c :: percentDecode rest
  | [] => []

theorem percentDecode_cons_of_ne {x : UInt8} {bytes : QByteArray} (h : x ≠ 37) :
    percentDecode (x :: bytes) = x :: percentDecode bytes := by
  rw [percentDecode]
  exact fun a b rest hx => absurd hx h

theorem percentDecode_append {bytes more : QByteArray} (h : 37 ∉ bytes) :
    percentDecode (bytes ++ more) = bytes ++ percentDecode more := by
  induction bytes with
  | nil => rfl
  | cons x bytes ih =>
      rw [List.mem_cons, not_or] at h
      rw [List.cons_append, percentDecode_cons_of_ne (Ne.symm h.1), ih h.2, List.cons_append]

/-! ## Digits -/

theorem hexDigit_eq_some_iff {x : ℕ} : hexDigit c = some x ↔
    (48 ≤ c.toNat ∧ c.toNat ≤ 57 ∧ x = c.toNat - 48) ∨
      (97 ≤ c.toNat ∧ c.toNat ≤ 102 ∧ x = c.toNat - 87) ∨
      (65 ≤ c.toNat ∧ c.toNat ≤ 70 ∧ x = c.toNat - 55) := by
  have hdigit : c.isDigit = true ↔ 48 ≤ c.toNat ∧ c.toNat ≤ 57 := Char.isDigit_iff_toNat
  have hlower : ('a' ≤ c ∧ c ≤ 'f') ↔ 97 ≤ c.toNat ∧ c.toNat ≤ 102 := Iff.rfl
  have hupper : ('A' ≤ c ∧ c ≤ 'F') ↔ 65 ≤ c.toNat ∧ c.toNat ≤ 70 := Iff.rfl
  have h0 : '0'.toNat = 48 := rfl
  have ha : 'a'.toNat = 97 := rfl
  have hA : 'A'.toNat = 65 := rfl
  simp only [hexDigit, hdigit, hlower, hupper, h0, ha, hA]
  split
  · rw [Option.some_inj]
    omega
  · split
    · rw [Option.some_inj]
      omega
    · split
      · rw [Option.some_inj]
        omega
      · simp
        omega

/-- **One digit for two characters**: with white space beside it, or a sign
before it. -/
def ShortNumber (a b : Char) : Prop :=
  (hexDigit a ≠ none ∧ Text.isSpaceChar b = true) ∨
    (hexDigit b ≠ none ∧ (Text.isSpaceChar a = true ∨ a = '+' ∨ a = '-' ∨ a = '−'))

/-- **What `toInt` takes for a number**: two digits, or a number of one. -/
theorem isSome_toIntHex_iff : (toIntHex a b).isSome = true ↔
    (hexDigit a ≠ none ∧ hexDigit b ≠ none) ∨ ShortNumber a b := by
  rw [toIntHex, ShortNumber]
  cases hexDigit a <;> cases hexDigit b <;> grind

theorem toIntHex_bounds {code : ℤ} (h : toIntHex a b = some code) : -16 < code ∧ code < 256 := by
  have hdigit : ∀ {c x}, hexDigit c = some x → x < 16 := fun hc => by
    have := hexDigit_eq_some_iff.1 hc
    omega
  rw [toIntHex] at h
  cases ha : hexDigit a with
  | none =>
      cases hb : hexDigit b with
      | none => simp [ha, hb] at h
      | some y =>
          have := hdigit hb
          simp only [ha, hb] at h
          grind
  | some x =>
      have hx := hdigit ha
      cases hb : hexDigit b with
      | none =>
          simp only [ha, hb] at h
          grind
      | some y =>
          have := hdigit hb
          simp only [ha, hb, Option.some_inj] at h
          omega

theorem isSpaceChar_bounds (h : Text.isSpaceChar c = true) : c.toNat ≤ 0x3000 ∧ c ≠ '%' := by
  refine ⟨?_, ?_⟩
  · simp only [Text.isSpaceChar, Text.isSpace, Bool.or_eq_true, Bool.and_eq_true,
      decide_eq_true_eq, List.mem_cons, List.not_mem_nil, or_false] at h
    have hblank : c = ' ' → c.toNat = 32 := fun hc => hc ▸ rfl
    grind
  · rintro rfl
    exact absurd h (by decide)

/-- No number contains a percent sign, or a character of two units. -/
theorem toIntHex_chars (h : (toIntHex a b).isSome = true) :
    (a.toNat < 0x10000 ∧ a ≠ '%') ∧ b.toNat < 0x10000 ∧ b ≠ '%' := by
  have hdigit : ∀ {c}, hexDigit c ≠ none → c.toNat < 0x10000 ∧ c ≠ '%' := fun {c} hc => by
    obtain ⟨x, hx⟩ := Option.ne_none_iff_exists'.1 hc
    have hn := hexDigit_eq_some_iff.1 hx
    have hpercent : c = '%' → c.toNat = 37 := fun hc => hc ▸ rfl
    exact ⟨by omega, fun hc => by have := hpercent hc; omega⟩
  have hspace : ∀ {c}, Text.isSpaceChar c = true → c.toNat < 0x10000 ∧ c ≠ '%' := fun hc =>
    ⟨by have := (isSpaceChar_bounds hc).1; omega, (isSpaceChar_bounds hc).2⟩
  rcases isSome_toIntHex_iff.1 h with ⟨ha, hb⟩ | ⟨ha, hb⟩ | ⟨hb, ha⟩
  · exact ⟨hdigit ha, hdigit hb⟩
  · exact ⟨hdigit ha, hspace hb⟩
  · refine ⟨?_, hdigit hb⟩
    rcases ha with ha | rfl | rfl | rfl
    · exact hspace ha
    all_goals exact ⟨by decide, by decide⟩

/-! ## The program's own reader -/

theorem decode_cons_of_ne (h : c ≠ '%') : decode (c :: rest) = c :: decode rest := by
  rw [decode]
  rintro a b tail rfl
  exact absurd rfl h

theorem decode_escape {code : ℤ} (h : toIntHex a b = some code) :
    decode ('%' :: a :: b :: rest) = qChar code :: decode rest := by
  rw [decode, h]

theorem decode_of_none (h : toIntHex a b = none) :
    decode ('%' :: a :: b :: rest) = '%' :: decode (a :: b :: rest) := by
  rw [decode, h]

/-- **What is escaped is read back**, a character at a time. -/
theorem decode_encodeChar_append (c : Char) (rest : List Char) :
    decode (encodeChar c ++ rest) = c :: decode rest := by
  by_cases h : c = '%' ∨ c = '\n' ∨ c = '\r'
  · rcases h with rfl | rfl | rfl <;> rfl
  · rw [encodeChar, if_neg h]
    exact decode_cons_of_ne (not_or.1 h).1

theorem decode_flatMap_encodeChar (chars : List Char) :
    decode (chars.flatMap encodeChar) = chars := by
  induction chars with
  | nil => rfl
  | cons c chars ih => rw [List.flatMap_cons, decode_encodeChar_append, ih]

/-- No character is written as an end of line. -/
theorem not_newline_of_mem_encodeChar (h : a ∈ encodeChar c) : a ≠ '\r' ∧ a ≠ '\n' := by
  by_cases hc : c = '%' ∨ c = '\n' ∨ c = '\r'
  · have hall : (encodeChar c).all fun a => decide (a ≠ '\r' ∧ a ≠ '\n') := by
      rcases hc with rfl | rfl | rfl <;> decide
    exact List.all_iff_forall_prop.1 hall a h
  · rw [encodeChar, if_neg hc, List.mem_singleton] at h
    subst h
    exact ⟨fun hr => hc (.inr (.inr hr)), fun hn => hc (.inr (.inl hn))⟩

/-- The protocol's reader takes an escaped character for its bytes. -/
theorem percentDecode_encodeChar_append (c : Char) (more : QByteArray) :
    percentDecode (Utf8.encode (encodeChar c) ++ more) =
      String.utf8EncodeChar c ++ percentDecode more := by
  by_cases h : c = '%' ∨ c = '\n' ∨ c = '\r'
  · rcases h with rfl | rfl | rfl <;> rfl
  · have hpercent : 37 ∉ String.utf8EncodeChar c := fun hmem =>
      h (.inl (Char.toNat_inj.1 (Utf8.eq_of_mem_utf8EncodeChar hmem (by decide)).1))
    rw [encodeChar, if_neg h, Utf8.encode_cons, Utf8.encode_nil, List.append_nil,
      percentDecode_append hpercent]

theorem percentDecode_flatMap_encodeChar (chars : List Char) :
    percentDecode (Utf8.encode (chars.flatMap encodeChar)) = Utf8.encode chars := by
  induction chars with
  | nil => rfl
  | cons c chars ih =>
      rw [List.flatMap_cons, Utf8.encode_append, percentDecode_encodeChar_append, ih,
        Utf8.encode_cons]

/-- **A passphrase survives its data line.** What `assuanEncode` writes
holds no end of line, the program's own decoder reads the passphrase back,
and the protocol's decoder, given the bytes of the line, its bytes. -/
theorem assuanEncode_survives (s : String) :
    (∀ c ∈ (assuanEncode s).toList, c ≠ '\r' ∧ c ≠ '\n') ∧
      assuanDecode (assuanEncode s).toList = s ∧
      percentDecode (toStdString (assuanEncode s)) = toStdString s := by
  refine ⟨fun c hc => ?_, ?_, ?_⟩
  · rw [assuanEncode, String.toList_ofList] at hc
    obtain ⟨c', -, hc'⟩ := List.mem_flatMap.1 hc
    exact not_newline_of_mem_encodeChar hc'
  · rw [assuanDecode, assuanEncode, String.toList_ofList, decode_flatMap_encodeChar,
      String.ofList_toList]
  · rw [toStdString, assuanEncode, String.toList_ofList, percentDecode_flatMap_encodeChar,
      toStdString]

/-! ## On units -/

/-- A character beyond the plane of two bytes is two surrogates. -/
theorem utf16Units_of_le (h : 0x10000 ≤ c.toNat) : ∃ high low, Text.utf16Units c = [high, low] ∧
    0xD800 ≤ high ∧ high < 0xE000 ∧ 0xD800 ≤ low ∧ low < 0xE000 := by
  have hmax : c.toNat < 0x110000 := by
    have := c.valid
    simp only [UInt32.isValidChar, Nat.isValidChar, Char.toNat_val] at this
    omega
  exact ⟨_, _, if_neg (by omega), by omega, by omega, by omega, by omega⟩

theorem encodeUnit_of_latin1 {u : ℕ} (h : u < 256) (hc : u ≠ 37 ∧ u ≠ 10 ∧ u ≠ 13) :
    encodeUnit u = [u] := by
  have hp : '%'.toNat = 37 := rfl
  have hn : '\n'.toNat = 10 := rfl
  have hr : '\r'.toNat = 13 := rfl
  rw [encodeUnit, toLatin1, if_pos h, hp, hn, hr, if_neg (by omega)]

theorem encodeUnit_of_le {u : ℕ} (h : 256 ≤ u) : encodeUnit u = [u] := by
  have hnul : toLatin1 u = 0 := if_neg (by omega)
  rw [encodeUnit, hnul]
  rfl

/-- **`assuanEncode` on units**: the conversion to Latin-1 loses nothing it
looks for. -/
theorem utf16_assuanEncode (s : String) :
    Text.utf16 (assuanEncode s) = (Text.utf16 s).flatMap encodeUnit := by
  have hchar : ∀ c, (encodeChar c).flatMap Text.utf16Units =
      (Text.utf16Units c).flatMap encodeUnit := fun c => by
    by_cases h : c = '%' ∨ c = '\n' ∨ c = '\r'
    · rcases h with rfl | rfl | rfl <;> rfl
    · have hne : c.toNat ≠ 37 ∧ c.toNat ≠ 10 ∧ c.toNat ≠ 13 :=
        ⟨fun h' => h (.inl (Char.toNat_inj.1 h')), fun h' => h (.inr (.inl (Char.toNat_inj.1 h'))),
          fun h' => h (.inr (.inr (Char.toNat_inj.1 h')))⟩
      rw [encodeChar, if_neg h, List.flatMap_singleton]
      rcases Nat.lt_or_ge c.toNat 0x10000 with hlt | hge
      · rw [Text.utf16Units_of_lt hlt, List.flatMap_singleton]
        rcases Nat.lt_or_ge c.toNat 256 with hl | hl
        · exact (encodeUnit_of_latin1 hl hne).symm
        · exact (encodeUnit_of_le hl).symm
      · obtain ⟨high, low, hu, hhigh, -, hlow, -⟩ := utf16Units_of_le hge
        rw [hu, List.flatMap_cons, List.flatMap_singleton, encodeUnit_of_le (by omega),
          encodeUnit_of_le (by omega)]
        rfl
  rw [Text.utf16, Text.utf16, assuanEncode, String.toList_ofList, List.flatMap_assoc,
    List.flatMap_assoc]
  exact List.flatMap_congr fun c _ => hchar c

theorem decodeUnits_cons_of_ne {u : ℕ} {units : List ℕ} (h : u ≠ 37) :
    decodeUnits (u :: units) = u :: decodeUnits units := by
  rw [decodeUnits]
  rintro a b tail rfl
  exact absurd rfl h

theorem utf16Units_ne_percent (h : c ≠ '%') : ∀ u ∈ Text.utf16Units c, u ≠ 37 := by
  rcases Nat.lt_or_ge c.toNat 0x10000 with hlt | hge
  · rw [Text.utf16Units_of_lt hlt]
    exact List.forall_mem_singleton.2 fun h' => h (Char.toNat_inj.1 h')
  · obtain ⟨high, low, hu, hhigh, -, hlow, -⟩ := utf16Units_of_le hge
    rw [hu]
    exact List.forall_mem_cons.2 ⟨by omega, List.forall_mem_singleton.2 (by omega)⟩

theorem decodeUnits_append {units more : List ℕ} (h : ∀ u ∈ units, u ≠ 37) :
    decodeUnits (units ++ more) = units ++ decodeUnits more := by
  induction units with
  | nil => rfl
  | cons u units ih =>
      obtain ⟨hu, hunits⟩ := List.forall_mem_cons.1 h
      rw [List.cons_append, decodeUnits_cons_of_ne hu, ih hunits, List.cons_append]

theorem decodeUnits_of_none {u v : ℕ} {units : List ℕ}
    (h : toIntHex (Char.ofNat u) (Char.ofNat v) = none) :
    decodeUnits (37 :: u :: v :: units) = 37 :: decodeUnits (u :: v :: units) := by
  rw [decodeUnits, h]

/-- The value of a number is a unit, and no surrogate. -/
theorem utf16_qChar {code : ℤ} (h : toIntHex a b = some code) :
    Text.utf16Units (qChar code) = [(code % 65536).toNat] := by
  obtain ⟨hlo, hhi⟩ := toIntHex_bounds h
  have hvalid : (code % 65536).toNat.isValidChar := by
    simp only [Nat.isValidChar]
    omega
  have hn : (qChar code).toNat = (code % 65536).toNat := by
    rw [qChar, Char.ofNat, dif_pos hvalid]
    rfl
  rw [Text.utf16Units_of_lt (by omega), hn]

/-- A surrogate is no digit, no sign and no white space. -/
theorem toIntHex_surrogate {u : ℕ} (hlo : 0xD800 ≤ u) (hhi : u < 0xE000) (c : Char) :
    toIntHex (Char.ofNat u) c = none ∧ toIntHex c (Char.ofNat u) = none := by
  have hnul : Char.ofNat u = Char.ofNat 0 := by
    rw [Char.ofNat, dif_neg (by simp only [Nat.isValidChar]; omega)]
    rfl
  have hshort : ∀ a b, (hexDigit a = none ∧ hexDigit b = none ∨ hexDigit a = none ∧
      Text.isSpaceChar a = false ∧ a ≠ '+' ∧ a ≠ '-' ∧ a ≠ '−' ∨
        hexDigit b = none ∧ Text.isSpaceChar b = false) → toIntHex a b = none := fun a b h => by
    by_contra hne
    have := isSome_toIntHex_iff.1 (Option.isSome_iff_ne_none.2 hne)
    simp only [ShortNumber] at this
    grind
  rw [hnul]
  exact ⟨hshort _ _ (.inr (.inl (by decide))), hshort _ _ (.inr (.inr (by decide)))⟩

/-- The two units after a percent sign are a number where the two characters
are. -/
theorem decodeUnits_percent (h : toIntHex a b = none) (units : List ℕ) :
    decodeUnits (37 :: (Text.utf16Units a ++ (Text.utf16Units b ++ units))) =
      37 :: decodeUnits (Text.utf16Units a ++ (Text.utf16Units b ++ units)) := by
  rcases Nat.lt_or_ge a.toNat 0x10000 with ha | ha
  · rw [Text.utf16Units_of_lt ha]
    rcases Nat.lt_or_ge b.toNat 0x10000 with hb | hb
    · rw [Text.utf16Units_of_lt hb]
      exact decodeUnits_of_none (by rwa [Char.ofNat_toNat, Char.ofNat_toNat])
    · obtain ⟨high, low, hu, hlo, hhi, -⟩ := utf16Units_of_le hb
      rw [hu]
      exact decodeUnits_of_none (toIntHex_surrogate hlo hhi _).2
  · obtain ⟨high, low, hu, hlo, hhi, -⟩ := utf16Units_of_le ha
    rw [hu]
    exact decodeUnits_of_none (toIntHex_surrogate hlo hhi _).1

theorem decodeUnits_percent_singleton (a : Char) :
    decodeUnits (37 :: [a].flatMap Text.utf16Units) =
      37 :: decodeUnits ([a].flatMap Text.utf16Units) := by
  rw [List.flatMap_singleton]
  rcases Nat.lt_or_ge a.toNat 0x10000 with ha | ha
  · rw [Text.utf16Units_of_lt ha, decodeUnits]
    exact fun _ _ _ _ h => absurd h (by simp)
  · obtain ⟨high, low, hu, hlo, hhi, -⟩ := utf16Units_of_le ha
    rw [hu]
    exact decodeUnits_of_none (toIntHex_surrogate hlo hhi _).1

/-- **`assuanDecode` on units**: a surrogate is never taken for a digit. -/
theorem utf16_decode (chars : List Char) :
    (decode chars).flatMap Text.utf16Units = decodeUnits (chars.flatMap Text.utf16Units) := by
  fun_induction decode chars with
  | case1 a b rest code hcode ih =>
      obtain ⟨⟨ha, -⟩, hb, -⟩ := toIntHex_chars (Option.isSome_of_eq_some hcode)
      have hunits : decodeUnits (37 :: a.toNat :: b.toNat :: rest.flatMap Text.utf16Units) =
          (code % 65536).toNat :: decodeUnits (rest.flatMap Text.utf16Units) := by
        rw [decodeUnits, Char.ofNat_toNat, Char.ofNat_toNat, hcode]
      simp only [List.flatMap_cons, utf16_qChar hcode, Text.utf16Units_of_lt ha,
        Text.utf16Units_of_lt hb, ih]
      exact hunits.symm
  | case2 a b rest hnone ih =>
      rw [List.flatMap_cons, ih]
      simp only [List.flatMap_cons]
      exact (decodeUnits_percent hnone _).symm
  | case3 c rest hshort ih =>
      by_cases hc : c = '%'
      · subst hc
        have hend : decodeUnits (37 :: rest.flatMap Text.utf16Units) =
            37 :: decodeUnits (rest.flatMap Text.utf16Units) := by
          match rest with
          | [] => rfl
          | [a] => exact decodeUnits_percent_singleton a
          | a :: b :: tail => exact (hshort a b tail rfl rfl).elim
        rw [List.flatMap_cons, ih]
        exact hend.symm
      · rw [List.flatMap_cons, List.flatMap_cons, ih,
          decodeUnits_append (utf16Units_ne_percent hc)]
  | case4 => rfl

end Assuan

end BbAuth
