import BbAuth.Assuan.Encoding
import BbAuth.Model.PinentrySession
/-!
# The argument of a command

An escape on the command line stands for a byte of the argument's UTF-8,
but it is decoded once the line is text, and there it stands for a
character. For the bytes of ASCII that is the same. A character of several
bytes is read only where all of them are left as they are: with one of them
escaped it falls apart, and the argument grows longer. The number parser
reads a digit with white space beside it or a sign before it, too, and takes
such an escape for one.
-/

namespace BbAuth

namespace PinentrySession

open Assuan

/-! ## Command lines -/

/-- A byte that may stand for itself: no percent sign, no control. -/
def Plain (b : UInt8) : Prop := 0x20 ≤ b.toNat ∧ b.toNat ≠ 0x25 ∧ b.toNat ≠ 0x7F

/-- **A byte as the caller writes it**: itself, or escaped, with digits of
either case. -/
inductive Spelling where
  | raw (b : UInt8) (plain : Plain b)
  | escaped (b : UInt8) (upperHigh upperLow : Bool)

/-- A digit of an escape. -/
def digit (upper : Bool) (n : ℕ) : Char := if upper then hexChar n else (hexChar n).toLower

/-- The byte meant. -/
def Spelling.byte : Spelling → UInt8
  | raw b _ => b
  | escaped b _ _ => b

/-- The characters of an escape. -/
def escape (b : UInt8) (upperHigh upperLow : Bool) : List Char :=
  ['%', digit upperHigh (b.toNat / 16), digit upperLow (b.toNat % 16)]

/-- The bytes written. -/
def Spelling.text : Spelling → QByteArray
  | raw b _ => [b]
  | escaped b upperHigh upperLow => Utf8.encode (escape b upperHigh upperLow)

def Spelling.IsEscaped : Spelling → Prop
  | raw _ _ => False
  | escaped _ _ _ => True

/-- **A command and its argument**, and how each byte of it is written. -/
structure CommandLine where
  command : String
  /-- The command is one word. -/
  word : command ≠ "" ∧ ∀ c ∈ command.toList, 0x20 < c.toNat ∧ c.toNat < 0x7F
  argument : String
  spellings : List Spelling
  spells : spellings.map Spelling.byte = toStdString argument

/-- The line. -/
def CommandLine.bytes (L : CommandLine) : QByteArray :=
  toStdString L.command ++ 32 :: L.spellings.flatMap Spelling.text

/-- What `handleCommand` takes for the argument. -/
def argumentOf (line : QByteArray) : String := (parseCommand (received line)).2

/-- **The argument is decoded as bytes.** -/
def CommandLine.Decoded (L : CommandLine) : Prop := argumentOf L.bytes = L.argument

/-- **No byte above ASCII is escaped.** -/
def EscapesAscii (spellings : List Spelling) : Prop :=
  ∀ p ∈ spellings, p.IsEscaped → p.byte.toNat < 0x80

/-- What follows a percent sign is two digits. -/
def StartsWithDigits (rest : List Char) : Prop :=
  ∃ a b tail, rest = a :: b :: tail ∧ hexDigit a ≠ none ∧ hexDigit b ≠ none

/-- What follows a percent sign is a digit with white space beside it or a
sign before it. -/
def StartsWithShortNumber (rest : List Char) : Prop :=
  ∃ a b tail, rest = a :: b :: tail ∧ ShortNumber a b

/-- **A percent sign is left where it stands.** -/
def LeftInPlace (before rest : List Char) : Prop :=
  decode (before ++ '%' :: rest) = decode before ++ '%' :: decode rest

variable {b : UInt8} {c : Char} {more : QByteArray} {spellings group : List Spelling}
  {before rest : List Char}

/-! ## Escapes -/

theorem hexDigit_digit (upper : Bool) (n : Fin 16) : hexDigit (digit upper n) = some n.1 := by
  revert n upper
  decide

theorem digit_bounds (upper : Bool) (n : Fin 16) :
    0x20 ≤ (digit upper n).toNat ∧ (digit upper n).toNat < 0x80 := by
  revert n upper
  decide

/-- An escape is the character of its byte. -/
theorem decode_escape_append (b : UInt8) (upperHigh upperLow : Bool) (rest : List Char) :
    decode (escape b upperHigh upperLow ++ rest) = Char.ofNat b.toNat :: decode rest := by
  have hb := b.toNat_lt
  have hhigh := hexDigit_digit upperHigh ⟨b.toNat / 16, by omega⟩
  have hlow := hexDigit_digit upperLow ⟨b.toNat % 16, by omega⟩
  have hnum : toIntHex (digit upperHigh (b.toNat / 16)) (digit upperLow (b.toNat % 16)) =
      some (b.toNat : ℤ) := by
    rw [toIntHex, hhigh, hlow]
    simp only [Option.some_inj]
    omega
  have hchar : qChar (b.toNat : ℤ) = Char.ofNat b.toNat := by
    rw [qChar]
    congr
    omega
  rw [escape, List.cons_append, List.cons_append, List.cons_append, List.nil_append,
    decode_escape hnum, hchar]

theorem escape_ascii (b : UInt8) (upperHigh upperLow : Bool) :
    ∀ c ∈ escape b upperHigh upperLow, 0x20 ≤ c.toNat ∧ c.toNat < 0x80 := by
  have hb := b.toNat_lt
  simp only [escape, List.forall_mem_cons]
  exact ⟨by decide, digit_bounds upperHigh ⟨b.toNat / 16, by omega⟩,
    digit_bounds upperLow ⟨b.toNat % 16, by omega⟩, by simp⟩

/-! ## One character of the argument -/

/-- What the text of the line shows for a byte of a character that has
fallen apart. -/
def Spelling.shown : Spelling → List Char
  | raw _ _ => [Utf8.replacement]
  | escaped b upperHigh upperLow => escape b upperHigh upperLow

/-- What the argument shows for it. -/
def Spelling.value : Spelling → Char
  | raw _ _ => Utf8.replacement
  | escaped b _ _ => Char.ofNat b.toNat

theorem decode_flatMap_shown (group : List Spelling) (rest : List Char) :
    decode (group.flatMap Spelling.shown ++ rest) = group.map Spelling.value ++ decode rest := by
  induction group with
  | nil => rfl
  | cons p group ih =>
      rw [List.flatMap_cons, List.append_assoc, List.map_cons, List.cons_append]
      cases p with
      | raw b plain =>
          rw [Spelling.shown, List.singleton_append, decode_cons_of_ne (by decide), ih]
          rfl
      | escaped b upperHigh upperLow =>
          rw [Spelling.shown, decode_escape_append, ih]
          rfl

/-- Continuation bytes on their own are replaced one by one. -/
theorem utf8Decode_tails (h : ∀ p ∈ group, Utf8.IsTail p.byte) :
    Utf8.decode (group.flatMap Spelling.text ++ more) =
      group.flatMap Spelling.shown ++ Utf8.decode more := by
  induction group with
  | nil => rfl
  | cons p group ih =>
      obtain ⟨hp, hgroup⟩ := List.forall_mem_cons.1 h
      rw [List.flatMap_cons, List.append_assoc, List.flatMap_cons, List.append_assoc,
        ← ih hgroup]
      cases p with
      | raw b plain => exact Utf8.decode_cons_of_isTail hp
      | escaped b upperHigh upperLow => exact Utf8.decode_encode_append _ _

/-- An escape among some spellings leaves a percent sign among as many bytes. -/
theorem percent_mem_take (h : ∃ p ∈ group, p.IsEscaped) :
    37 ∈ (group.flatMap Spelling.text ++ more).take group.length := by
  induction group with
  | nil => simp at h
  | cons p group ih =>
      cases p with
      | raw b plain =>
          have hrest : ∃ p ∈ group, p.IsEscaped := by
            obtain ⟨p, hp, he⟩ := h
            rcases List.mem_cons.1 hp with rfl | hp
            · exact he.elim
            · exact ⟨p, hp, he⟩
          exact List.mem_cons_of_mem _ (ih hrest)
      | escaped b upperHigh upperLow => exact List.mem_cons_self ..

theorem flatMap_text_of_raw (h : ¬ ∃ p ∈ group, p.IsEscaped) :
    group.flatMap Spelling.text = group.map Spelling.byte := by
  induction group with
  | nil => rfl
  | cons p group ih =>
      have hgroup : ¬ ∃ p ∈ group, p.IsEscaped := fun ⟨p, hp, he⟩ =>
        h ⟨p, List.mem_cons_of_mem _ hp, he⟩
      cases p with
      | raw b plain => rw [List.flatMap_cons, ih hgroup]; rfl
      | escaped b upperHigh upperLow => exact (h ⟨_, List.mem_cons_self .., trivial⟩).elim

/-- **What spellings come to**: the line shows some text for them, and the
argument these characters for that. -/
def ComesTo (group : List Spelling) (value : List Char) : Prop :=
  ∃ shown, (∀ more, Utf8.decode (group.flatMap Spelling.text ++ more) = shown ++ Utf8.decode more) ∧
    ∀ rest, decode (shown ++ rest) = value ++ decode rest

/-- A byte of ASCII comes to its character, escaped or not. -/
theorem comesTo_of_ascii {p : Spelling} (h : p.byte.toNat < 0x80) :
    ComesTo [p] [Char.ofNat p.byte.toNat] := by
  cases p with
  | raw b plain =>
      have hb : (Char.ofNat b.toNat).toNat = b.toNat := by
        have hvalid : b.toNat.isValidChar := .inl (lt_trans h (by decide))
        rw [Char.ofNat, dif_pos hvalid]
        rfl
      have hne : Char.ofNat b.toNat ≠ '%' := fun heq =>
        plain.2.1 (hb.symm.trans (congrArg Char.toNat heq))
      exact ⟨[Char.ofNat b.toNat], Utf8.decode_cons_of_ascii h, fun rest => decode_cons_of_ne hne⟩
  | escaped b upperHigh upperLow =>
      refine ⟨escape b upperHigh upperLow, fun more => ?_, decode_escape_append b _ _⟩
      rw [List.flatMap_singleton]
      exact Utf8.decode_encode_append _ more

/-- The bytes of a character, all as they are, come to it. -/
theorem comesTo_of_raw (hgroup : group.map Spelling.byte = String.utf8EncodeChar c)
    (hne : c ≠ '%') (h : ¬ ∃ p ∈ group, p.IsEscaped) : ComesTo group [c] := by
  refine ⟨[c], fun more => ?_, fun rest => decode_cons_of_ne hne⟩
  rw [flatMap_text_of_raw h, hgroup]
  exact Utf8.decode_utf8EncodeChar_append c more

/-- The bytes of a character with one of them escaped come to a character
each. -/
theorem comesTo_of_escaped {p : Spelling} (htails : ∀ q ∈ group, Utf8.IsTail q.byte)
    (howed : group.length = Utf8.owed p.byte) (h : ∃ q ∈ p :: group, q.IsEscaped) :
    ComesTo (p :: group) ((p :: group).map Spelling.value) := by
  refine ⟨(p :: group).flatMap Spelling.shown, fun more => ?_, decode_flatMap_shown (p :: group)⟩
  rw [List.flatMap_cons, List.append_assoc, List.flatMap_cons, List.append_assoc,
    ← utf8Decode_tails htails]
  cases p with
  | raw b plain =>
      -- the first byte stands, so another one is escaped and cuts it short
      have hlater : ∃ q ∈ group, q.IsEscaped := by
        obtain ⟨q, hq, hqe⟩ := h
        rcases List.mem_cons.1 hq with rfl | hq
        · exact hqe.elim
        · exact ⟨q, hq, hqe⟩
      exact Utf8.decode_cons_of_cut (by decide) (howed ▸ percent_mem_take hlater)
  | escaped b upperHigh upperLow => exact Utf8.decode_encode_append _ _

/-- **What becomes of one character.** However its bytes are written, they
come to the character itself if none above ASCII is escaped, and to two
characters or more otherwise. -/
theorem exists_comesTo (hgroup : group.map Spelling.byte = String.utf8EncodeChar c) :
    ∃ value, ComesTo group value ∧ (EscapesAscii group → value = [c]) ∧
      (¬ EscapesAscii group → 2 ≤ value.length) := by
  obtain ⟨lead, tails, he, hlen, htails, -, hascii, hchar⟩ := Utf8.encode_shape c
  have hbytes := hgroup.trans he
  obtain ⟨p, group, rfl, hp, hrest⟩ := List.map_eq_cons_iff.1 hbytes
  rcases Nat.lt_or_ge lead.toNat 0x80 with hlt | hge
  · have hnil : tails = [] := List.length_eq_zero_iff.1 (by rw [hlen, Utf8.owed, if_pos hlt])
    obtain rfl := List.map_eq_nil_iff.1 (hrest.trans hnil)
    have hc : Char.ofNat p.byte.toNat = c := by rw [hp, hchar hlt, Char.ofNat_toNat]
    have hall : EscapesAscii [p] := List.forall_mem_singleton.2 fun _ => hp ▸ hlt
    exact ⟨[c], hc ▸ comesTo_of_ascii (hp ▸ hlt), fun _ => rfl, fun h => (h hall).elim⟩
  · have hhigh : ∀ q ∈ p :: group, 0x80 ≤ q.byte.toNat := by
      refine List.forall_mem_cons.2 ⟨hp ▸ hge, fun q hq => ?_⟩
      exact (htails q.byte (hrest ▸ List.mem_map_of_mem hq)).1
    have howed : group.length = Utf8.owed p.byte := by
      rw [hp, ← hlen, ← hrest, List.length_map]
    have hiff : EscapesAscii (p :: group) ↔ ¬ ∃ q ∈ p :: group, q.IsEscaped := by
      constructor
      · rintro h ⟨q, hq, hesc⟩
        exact absurd (h q hq hesc) (Nat.not_lt.2 (hhigh q hq))
      · exact fun h q hq hesc => (h ⟨q, hq, hesc⟩).elim
    by_cases hesc : ∃ q ∈ p :: group, q.IsEscaped
    · refine ⟨_, comesTo_of_escaped (fun q hq => ?_) howed hesc,
        fun h => (hiff.1 h hesc).elim, fun _ => ?_⟩
      · exact htails q.byte (hrest ▸ List.mem_map_of_mem hq)
      · have hone : 1 ≤ Utf8.owed p.byte := by
          rw [Utf8.owed, if_neg (by rw [hp]; omega)]
          split
          · exact Nat.le_refl 1
          · split <;> omega
        simp only [List.length_map, List.length_cons]
        omega
    · have hne : c ≠ '%' := by
        rintro rfl
        exact absurd (hascii.2 (by decide)) (by omega)
      exact ⟨[c], comesTo_of_raw hgroup hne hesc, fun _ => rfl, fun h => (h (hiff.2 hesc)).elim⟩

/-! ## The whole argument -/

theorem escapesAscii_append : EscapesAscii (group ++ spellings) ↔
    EscapesAscii group ∧ EscapesAscii spellings := by
  simp only [EscapesAscii, List.forall_mem_append]

/-- **The argument is what was meant, or longer.** -/
theorem decode_spellings : ∀ (chars : List Char) (spellings : List Spelling),
    spellings.map Spelling.byte = Utf8.encode chars →
      (EscapesAscii spellings →
        decode (Utf8.decode (spellings.flatMap Spelling.text)) = chars) ∧
      (¬ EscapesAscii spellings →
        chars.length < (decode (Utf8.decode (spellings.flatMap Spelling.text))).length)
  | [], spellings, h => by
      obtain rfl := List.map_eq_nil_iff.1 h
      exact ⟨fun _ => rfl, fun hnot => (hnot (by simp [EscapesAscii])).elim⟩
  | c :: chars, spellings, h => by
      obtain ⟨group, spellings, rfl, hgroup, hrest⟩ := List.map_eq_append_iff.1 h
      obtain ⟨value, ⟨shown, hshown, hvalue⟩, hgood, hbad⟩ := exists_comesTo hgroup
      obtain ⟨ihgood, ihbad⟩ := decode_spellings chars spellings hrest
      rw [List.flatMap_append, hshown, hvalue, escapesAscii_append]
      refine ⟨fun ⟨hg, hs⟩ => by rw [hgood hg, ihgood hs]; rfl, fun hnot => ?_⟩
      rw [List.length_append, List.length_cons]
      by_cases hg : EscapesAscii group
      · have := ihbad fun hs => hnot ⟨hg, hs⟩
        rw [hgood hg, List.length_singleton]
        omega
      · have htwo := hbad hg
        by_cases hs : EscapesAscii spellings
        · rw [ihgood hs]
          omega
        · have := ihbad hs
          omega

/-! ## Reading the line -/

theorem skipBom_snoc (bytes : QByteArray) : skipBom (bytes ++ [13]) = skipBom bytes ++ [13] := by
  have hiff : [0xEF, 0xBB, 0xBF] <+: bytes ++ [13] ↔ ([0xEF, 0xBB, 0xBF] : QByteArray) <+: bytes := by
    rw [List.prefix_concat_iff]
    refine or_iff_right fun h => ?_
    have := congrArg List.getLast? h
    rw [List.getLast?_concat] at this
    exact absurd this (by decide)
  simp only [skipBom, List.isPrefixOf_iff_prefix, hiff]
  by_cases hb : ([0xEF, 0xBB, 0xBF] : QByteArray) <+: bytes
  · have hlen : 3 ≤ bytes.length := hb.length_le
    rw [if_pos hb, if_pos hb, List.drop_append_of_le_length hlen]
  · rw [if_neg hb, if_neg hb]

/-- A carriage return ends the text only where it ends the bytes. -/
theorem eq_of_getLast?_fromStdString {x : UInt8} (l : QByteArray)
    (h : (fromStdString (l ++ [x])).toList.getLast? = some '\r') : x = 13 := by
  rw [fromStdString, String.toList_ofList] at h
  have hsuffix : skipBom (l ++ [x]) <:+ l ++ [x] := by
    rw [skipBom]
    split
    · exact List.drop_suffix _ _
    · exact List.suffix_rfl
  rcases List.eq_nil_or_concat' (skipBom (l ++ [x])) with hnil | ⟨d, y, hd⟩
  · rw [hnil] at h
    exact absurd h (by simp [Utf8.decode, Utf8.decodeFrom])
  · rw [hd] at h hsuffix
    obtain ⟨pre, hpre⟩ := hsuffix
    have hy : y = x := by
      have := congrArg List.getLast? hpre
      rw [← List.append_assoc, List.getLast?_concat, List.getLast?_concat] at this
      exact Option.some.inj this
    rw [hy] at h
    rcases Nat.lt_or_ge x.toNat 0x80 with hlt | hge
    · rw [Utf8.decode_snoc_of_ascii hlt, List.getLast?_concat, Option.some_inj] at h
      have hx : (Char.ofNat x.toNat).toNat = x.toNat := by
        rw [Char.ofNat, dif_pos (.inl (by omega))]
        rfl
      rw [h] at hx
      exact UInt8.toNat_inj.1 hx.symm
    · exact absurd (Utf8.ge_of_getLast?_decode hge (List.getLast?_concat ..) h) (by decide)

/-- The model takes the carriage return off the text, the program off the
bytes. -/
theorem received_eq (line : QByteArray) : received line = chomp (fromStdString line) := by
  rcases List.eq_nil_or_concat' line with rfl | ⟨l, x, rfl⟩
  · rfl
  · by_cases hx : x = 13
    · have hr : Char.ofNat (13 : UInt8).toNat = '\r' := rfl
      rw [hx, received, List.getLast?_concat, if_pos rfl, List.dropLast_concat, fromStdString,
        fromStdString, skipBom_snoc, Utf8.decode_snoc_of_ascii (by decide), hr, chomp,
        String.toList_ofList, List.getLast?_concat, if_pos rfl, List.dropLast_concat]
    · have hlast : (fromStdString (l ++ [x])).toList.getLast? ≠ some '\r' := fun h =>
        hx (eq_of_getLast?_fromStdString l h)
      rw [received, List.getLast?_concat, if_neg (fun h => hx (Option.some.inj h)), chomp,
        if_neg hlast]

theorem ge_of_mem_text {p : Spelling} (h : b ∈ p.text) : 0x20 ≤ b.toNat := by
  cases p with
  | raw b' plain =>
      obtain rfl := List.mem_singleton.1 h
      exact plain.1
  | escaped b' upperHigh upperLow =>
      obtain ⟨c, hc, hb⟩ := List.mem_flatMap.1 h
      obtain ⟨hlo, hhi⟩ := escape_ascii b' upperHigh upperLow c hc
      rw [Utf8.utf8EncodeChar_of_ascii hhi, List.mem_singleton] at hb
      rw [hb, UInt8.toNat_ofNat']
      omega

/-- **No byte of the line is a control**: it is one line, and ends in no
carriage return. -/
theorem ge_of_mem_bytes {L : CommandLine} (h : b ∈ L.bytes) : 0x20 ≤ b.toNat := by
  rw [CommandLine.bytes, List.mem_append, List.mem_cons] at h
  rcases h with h | rfl | h
  · obtain ⟨c, hc, hb⟩ := List.mem_flatMap.1 h
    obtain ⟨hlo, hhi⟩ := L.word.2 c hc
    rw [Utf8.utf8EncodeChar_of_ascii (by omega), List.mem_singleton] at hb
    rw [hb, UInt8.toNat_ofNat']
    omega
  · decide
  · obtain ⟨p, -, hb⟩ := List.mem_flatMap.1 h
    exact ge_of_mem_text hb

/-- What `handleCommand` gets of a command line. -/
theorem received_bytes (L : CommandLine) : (received L.bytes).toList =
    L.command.toList ++ ' ' :: Utf8.decode (L.spellings.flatMap Spelling.text) := by
  have hnocr : L.bytes.getLast? ≠ some 13 := fun h =>
    absurd (ge_of_mem_bytes (List.mem_of_getLast? h)) (by decide)
  have hbom : skipBom L.bytes = L.bytes := by
    obtain ⟨c, rest, hc⟩ := List.exists_cons_of_ne_nil (mt String.toList_eq_nil_iff.1 L.word.1)
    have hword := L.word.2 c (by rw [hc]; exact List.mem_cons_self ..)
    have hhead : L.bytes = UInt8.ofNat c.toNat :: (Utf8.encode rest ++
        32 :: L.spellings.flatMap Spelling.text) := by
      rw [CommandLine.bytes, toStdString, hc, Utf8.encode_cons,
        Utf8.utf8EncodeChar_of_ascii (by omega)]
      rfl
    have hne : (0xEF : UInt8) ≠ UInt8.ofNat c.toNat := fun h => by
      have := congrArg UInt8.toNat h
      rw [UInt8.toNat_ofNat'] at this
      have : (0xEF : UInt8).toNat = 0xEF := rfl
      omega
    rw [skipBom, hhead, if_neg]
    simp [hne]
  rw [received, if_neg hnocr, fromStdString, String.toList_ofList, hbom, CommandLine.bytes,
    toStdString, Utf8.decode_encode_append, Utf8.decode_cons_of_ascii (by decide)]
  rfl

/-- The argument is what stands after the command and a blank. -/
theorem argumentOf_bytes (L : CommandLine) : argumentOf L.bytes =
    assuanDecode (Utf8.decode (L.spellings.flatMap Spelling.text)) := by
  have hblank : ∀ c ∈ L.command.toList, (decide (c ≠ ' ')) = true := fun c hc => by
    have := (L.word.2 c hc).1
    simp only [ne_eq, decide_not, Bool.not_eq_eq_eq_not, Bool.not_true, decide_eq_false_iff_not]
    rintro rfl
    exact absurd this (by decide)
  have hne : L.command.toList ≠ [] := mt String.toList_eq_nil_iff.1 L.word.1
  rw [argumentOf, parseCommand, received_bytes]
  simp only [List.takeWhile_append_of_pos hblank, List.dropWhile_append_of_pos hblank]
  simp [hne]

/-- **A line is decoded as bytes if and only if it escapes ASCII only.** -/
theorem decoded_iff (L : CommandLine) : L.Decoded ↔ EscapesAscii L.spellings := by
  obtain ⟨hgood, hbad⟩ := decode_spellings _ _ L.spells
  rw [CommandLine.Decoded, argumentOf_bytes, assuanDecode]
  constructor
  · intro h
    by_contra hnot
    have hlt := hbad hnot
    have heq := congrArg String.toList h
    rw [String.toList_ofList] at heq
    exact absurd (congrArg List.length heq) (by omega)
  · intro h
    rw [hgood h, String.ofList_toList]

/-! ## Percent signs that escape nothing -/

/-- **Decoding starts anew at a percent sign**: none is part of an escape
before it. -/
theorem decode_append_percent (before rest : List Char) :
    decode (before ++ '%' :: rest) = decode before ++ decode ('%' :: rest) := by
  fun_induction decode before with
  | case1 a b tail code hcode ih =>
      rw [List.cons_append, List.cons_append, List.cons_append, decode_escape hcode, ih,
        List.cons_append]
  | case2 a b tail hnone ih =>
      rw [List.cons_append, List.cons_append, List.cons_append, decode_of_none hnone,
        List.cons_append]
      exact congrArg ('%' :: ·) ih
  | case3 c tail hshort ih =>
      have hcons : decode (c :: (tail ++ '%' :: rest)) = c :: decode (tail ++ '%' :: rest) := by
        by_cases hc : c = '%'
        · subst hc
          cases tail with
          | nil =>
              cases rest with
              | nil => rfl
              | cons b rest =>
                  refine decode_of_none (Option.not_isSome_iff_eq_none.1 fun h => ?_)
                  exact (toIntHex_chars h).1.2 rfl
          | cons a tail =>
              cases tail with
              | nil =>
                  refine decode_of_none (Option.not_isSome_iff_eq_none.1 fun h => ?_)
                  exact (toIntHex_chars h).2.2 rfl
              | cons b more => exact (hshort a b more rfl rfl).elim
        · exact decode_cons_of_ne hc
      rw [List.cons_append, hcons, ih, List.cons_append]
  | case4 => rfl

/-- **A percent sign without two digits is left in place** unless a short
number follows it. -/
theorem leftInPlace_iff (h : ¬ StartsWithDigits rest) :
    LeftInPlace before rest ↔ ¬ StartsWithShortNumber rest := by
  rw [LeftInPlace, decode_append_percent, List.append_cancel_left_eq]
  have hend : rest.length < 2 → decode ('%' :: rest) = '%' :: decode rest := fun hlen => by
    rw [decode]
    rintro a b tail - rfl
    simp only [List.length_cons] at hlen
    omega
  have hshort : rest.length < 2 → ¬ StartsWithShortNumber rest := by
    rintro hlen ⟨a, b, tail, rfl, -⟩
    simp only [List.length_cons] at hlen
    omega
  rcases Nat.lt_or_ge rest.length 2 with hlen | hlen
  · exact iff_of_true (hend hlen) (hshort hlen)
  · obtain ⟨a, b, tail, rfl⟩ : ∃ a b tail, rest = a :: b :: tail := by
      obtain ⟨a, rest, rfl⟩ := List.exists_cons_of_length_pos (by omega : 0 < rest.length)
      rw [List.length_cons] at hlen
      obtain ⟨b, tail, rfl⟩ := List.exists_cons_of_length_pos (by omega : 0 < rest.length)
      exact ⟨a, b, tail, rfl⟩
    have hiff : StartsWithShortNumber (a :: b :: tail) ↔ (toIntHex a b).isSome = true := by
      rw [isSome_toIntHex_iff]
      constructor
      · rintro ⟨a', b', tail', heq, hshort⟩
        simp only [List.cons.injEq] at heq
        obtain ⟨rfl, rfl, rfl⟩ := heq
        exact .inr hshort
      · rintro (hdigits | hshort)
        · exact (h ⟨a, b, tail, rfl, hdigits⟩).elim
        · exact ⟨a, b, tail, rfl, hshort⟩
    rw [hiff]
    cases hn : toIntHex a b with
    | none => simp [decode_of_none hn]
    | some code =>
        obtain ⟨⟨-, ha⟩, -, hb⟩ := toIntHex_chars (Option.isSome_of_eq_some hn)
        refine iff_of_false (fun heq => ?_) (by simp)
        rw [decode_escape hn, decode_cons_of_ne ha, decode_cons_of_ne hb] at heq
        have := congrArg List.length heq
        simp at this

/-- **When arguments are decoded as bytes.** A command line gives the
argument that was meant if and only if none of its escaped bytes is above
ASCII, and a percent sign that two digits do not follow is left in place if
and only if no digit beside white space or after a sign follows it. -/
theorem arguments_decoded (L : CommandLine) (before rest : List Char) :
    (L.Decoded ↔ EscapesAscii L.spellings) ∧
      (¬ StartsWithDigits rest → (LeftInPlace before rest ↔ ¬ StartsWithShortNumber rest)) :=
  ⟨decoded_iff L, leftInPlace_iff⟩

/-- `SETDESC %C3%A9`. -/
def escapedLetter : CommandLine where
  command := "SETDESC"
  word := ⟨by decide, List.all_iff_forall_prop.1 (by decide)⟩
  argument := "é"
  spellings := [.escaped 0xC3 true true, .escaped 0xA9 true true]
  spells := by decide

/-- **A letter whose bytes are escaped arrives as two**, and `100% 5` loses
its percent sign. -/
theorem escapedLetter_not_decoded :
    argumentOf escapedLetter.bytes = "Ã©" ∧ ¬ escapedLetter.Decoded ∧
      ¬ StartsWithDigits " 5".toList ∧ ¬ LeftInPlace "100".toList " 5".toList := by
  have hargument : argumentOf escapedLetter.bytes = "Ã©" := by decide
  refine ⟨hargument, fun h => ?_, ?_, by rw [LeftInPlace]; decide⟩
  · exact absurd (hargument.symm.trans h) (by decide)
  · rintro ⟨a, b, tail, heq, ha, -⟩
    have hblank : a = ' ' := (List.cons.inj (heq : [' ', '5'] = a :: b :: tail)).1.symm
    subst hblank
    exact ha rfl

end PinentrySession

end BbAuth
