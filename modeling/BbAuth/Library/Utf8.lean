import Mathlib.Data.List.Infix
/-!
# Library — UTF-8 with replacement

Decoding of arbitrary bytes. Where a character is encoded it is read, and
any byte that starts none is replaced on its own. What is encoded is read
back; an encoding with a byte missing falls apart into as many replacements
as it has bytes left.
-/

namespace BbAuth

namespace Utf8

/-- The bytes of a text. -/
def encode (text : List Char) : List UInt8 := text.flatMap String.utf8EncodeChar

/-- The character encoded at the head of some bytes. -/
def decodeChar? (bytes : List UInt8) : Option Char := bytes.toByteArray.utf8DecodeChar? 0

/-- `U+FFFD`. -/
def replacement : Char := Char.ofNat 0xFFFD

/-- The text of some bytes, the first few of which have been read. -/
def decodeFrom : ℕ → List UInt8 → List Char
  | _, [] => []
  | n + 1, _ :: rest => decodeFrom n rest
  | 0, b :: rest =>
    match decodeChar? (b :: rest) with
    | some c => c :: decodeFrom (c.utf8Size - 1) rest
    | none => replacement :: decodeFrom 0 rest

/-- **The text of some bytes.** -/
def decode (bytes : List UInt8) : List Char := decodeFrom 0 bytes

/-- A continuation byte. -/
def IsTail (b : UInt8) : Prop := 0x80 ≤ b.toNat ∧ b.toNat < 0xC0

instance (b : UInt8) : Decidable (IsTail b) := inferInstanceAs (Decidable (_ ∧ _))

/-- How many continuation bytes a first byte calls for. -/
def owed (b : UInt8) : ℕ :=
  if b.toNat < 0x80 then 0 else if b.toNat < 0xE0 then 1 else if b.toNat < 0xF0 then 2 else 3

variable {b x : UInt8} {c : Char} {bytes rest tails : List UInt8} {text : List Char}

/-! ## The shape of an encoding -/

/-- **An encoding is a first byte and the continuation bytes it owes.** A
character of ASCII is its one byte. -/
theorem encode_shape (c : Char) : ∃ lead tails, String.utf8EncodeChar c = lead :: tails ∧
    tails.length = owed lead ∧ (∀ b ∈ tails, IsTail b) ∧ ¬ IsTail lead ∧
      (lead.toNat < 0x80 ↔ c.toNat < 0x80) ∧ (lead.toNat < 0x80 → lead.toNat = c.toNat) := by
  have hc : c.val.toNat = c.toNat := rfl
  have htail : ∀ n, IsTail (UInt8.ofNat (n % 64 + 128)) := fun n => by
    simp only [IsTail, UInt8.toNat_ofNat']
    omega
  have hmax : c.toNat < 0x110000 := by
    have := c.valid
    simp only [UInt32.isValidChar, Nat.isValidChar] at this
    omega
  simp only [String.utf8EncodeChar, hc]
  split
  · refine ⟨_, [], rfl, ?_, by simp, ?_, ?_, ?_⟩ <;>
      simp only [owed, IsTail, UInt8.toNat_ofNat', List.length_nil] <;> grind
  · have htwo := List.forall_mem_singleton.2 (htail c.toNat)
    have hthree := List.forall_mem_cons.2 ⟨htail (c.toNat / 64), htwo⟩
    split
    · refine ⟨_, _, rfl, ?_, htwo, ?_, ?_, ?_⟩ <;>
        simp only [owed, IsTail, UInt8.toNat_ofNat', List.length_cons, List.length_nil] <;> grind
    · split
      · refine ⟨_, _, rfl, ?_, hthree, ?_, ?_, ?_⟩ <;>
          simp only [owed, IsTail, UInt8.toNat_ofNat', List.length_cons, List.length_nil] <;> grind
      · refine ⟨_, _, rfl, ?_, List.forall_mem_cons.2 ⟨htail (c.toNat / 4096), hthree⟩, ?_, ?_, ?_⟩ <;>
          simp only [owed, IsTail, UInt8.toNat_ofNat', List.length_cons, List.length_nil] <;> grind

theorem utf8EncodeChar_of_ascii (h : c.toNat < 0x80) :
    String.utf8EncodeChar c = [UInt8.ofNat c.toNat] := by
  obtain ⟨lead, tails, he, hlen, -, -, hiff, heq⟩ := encode_shape c
  have hl := hiff.2 h
  have htails : tails = [] := List.length_eq_zero_iff.1 (by rw [hlen, owed, if_pos hl])
  rw [he, htails, ← heq hl, UInt8.ofNat_toNat]

/-- A byte of ASCII in an encoding is all of it. -/
theorem eq_of_mem_utf8EncodeChar (hb : b ∈ String.utf8EncodeChar c) (h : b.toNat < 0x80) :
    c.toNat = b.toNat ∧ String.utf8EncodeChar c = [b] := by
  obtain ⟨lead, tails, he, hlen, htails, -, -, heq⟩ := encode_shape c
  rw [he] at hb
  rcases List.mem_cons.1 hb with rfl | hb
  · have hnil : tails = [] := List.length_eq_zero_iff.1 (by rw [hlen, owed, if_pos h])
    exact ⟨(heq h).symm, by rw [he, hnil]⟩
  · exact absurd (htails b hb).1 (by omega)

@[simp] theorem encode_nil : encode [] = [] := rfl

@[simp] theorem encode_cons : encode (c :: text) = String.utf8EncodeChar c ++ encode text := rfl

theorem encode_append (text more : List Char) : encode (text ++ more) = encode text ++ encode more :=
  List.flatMap_append

/-! ## Reading a character -/

theorem decodeChar?_eq_some_iff : decodeChar? bytes = some c ↔ String.utf8EncodeChar c <+: bytes := by
  constructor
  · intro h
    obtain ⟨l, hl⟩ := ByteArray.exists_of_utf8DecodeChar?_eq_some h
    refine ⟨l.data.toList, ?_⟩
    have := congrArg (fun a : ByteArray => a.data.toList) hl
    simpa using this.symm
  · rintro ⟨rest, rfl⟩
    rw [decodeChar?, List.toByteArray_append]
    exact ByteArray.utf8DecodeChar?_utf8EncodeChar_append

theorem decodeFrom_drop (n : ℕ) (bytes : List UInt8) :
    decodeFrom n bytes = decode (bytes.drop n) := by
  induction bytes generalizing n with
  | nil => cases n <;> rfl
  | cons b rest ih =>
      cases n with
      | zero => rfl
      | succ n => exact ih n

/-- **A character encoded at the head is read.** -/
theorem decode_utf8EncodeChar_append (c : Char) (rest : List UInt8) :
    decode (String.utf8EncodeChar c ++ rest) = c :: decode rest := by
  obtain ⟨lead, tails, he, -⟩ := encode_shape c
  have hsize : c.utf8Size = tails.length + 1 := by
    rw [← String.length_utf8EncodeChar, he, List.length_cons]
  have hsome : decodeChar? (lead :: (tails ++ rest)) = some c :=
    decodeChar?_eq_some_iff.2 ⟨rest, by rw [he, List.cons_append]⟩
  rw [he, List.cons_append, decode, decodeFrom, hsome]
  simp [hsize, decodeFrom_drop]

/-- **What is encoded is read back.** -/
theorem decode_encode_append (text : List Char) (rest : List UInt8) :
    decode (encode text ++ rest) = text ++ decode rest := by
  induction text with
  | nil => rfl
  | cons c text ih =>
      rw [encode_cons, List.append_assoc, decode_utf8EncodeChar_append, ih, List.cons_append]

/-- A byte of ASCII is its character. -/
theorem decode_cons_of_ascii (h : b.toNat < 0x80) (rest : List UInt8) :
    decode (b :: rest) = Char.ofNat b.toNat :: decode rest := by
  have hc : (Char.ofNat b.toNat).toNat = b.toNat := by
    have hvalid : b.toNat.isValidChar := .inl (by omega)
    rw [Char.ofNat, dif_pos hvalid]
    rfl
  have he : String.utf8EncodeChar (Char.ofNat b.toNat) = [b] := by
    rw [utf8EncodeChar_of_ascii (by omega), hc, UInt8.ofNat_toNat]
  have := decode_utf8EncodeChar_append (Char.ofNat b.toNat) rest
  rwa [he] at this

/-! ## Bytes that start no character -/

/-- **A byte that starts no character is replaced on its own.** -/
theorem decode_cons_of_stray (h : ∀ c, ¬ String.utf8EncodeChar c <+: b :: rest) :
    decode (b :: rest) = replacement :: decode rest := by
  have hnone : decodeChar? (b :: rest) = none := by
    rw [Option.eq_none_iff_forall_ne_some]
    exact fun c hc => h c (decodeChar?_eq_some_iff.1 hc)
  rw [decode, decodeFrom, hnone]
  rfl

/-- A continuation byte starts no character. -/
theorem decode_cons_of_isTail (h : IsTail b) : decode (b :: rest) = replacement :: decode rest := by
  refine decode_cons_of_stray fun c hc => ?_
  obtain ⟨lead, tails, he, -, -, hlead, -⟩ := encode_shape c
  rw [he, List.cons_prefix_cons] at hc
  exact hlead (hc.1 ▸ h)

/-- **A first byte whose continuation is cut short starts no character.** -/
theorem decode_cons_of_cut (hx : ¬ IsTail x) (hmem : x ∈ rest.take (owed b)) :
    decode (b :: rest) = replacement :: decode rest := by
  refine decode_cons_of_stray fun c hc => ?_
  obtain ⟨lead, tails, he, hlen, htails, -⟩ := encode_shape c
  rw [he, List.cons_prefix_cons] at hc
  obtain ⟨rfl, hpre⟩ := hc
  rw [← hlen, ← List.prefix_iff_eq_take.1 hpre] at hmem
  exact hx (htails x hmem)

/-! ## A byte of ASCII at the end -/

theorem decodeFrom_snoc_of_ascii (h : x.toNat < 0x80) : ∀ (n : ℕ) (bytes : List UInt8),
    n ≤ bytes.length → decodeFrom n (bytes ++ [x]) = decodeFrom n bytes ++ [Char.ofNat x.toNat]
  | 0, [], _ => by simpa [decode, decodeFrom] using decode_cons_of_ascii h []
  | n + 1, _ :: rest, hn => decodeFrom_snoc_of_ascii h n rest (Nat.le_of_succ_le_succ hn)
  | 0, b :: rest, _ => by
      have hiff : ∀ c, decodeChar? (b :: (rest ++ [x])) = some c ↔
          decodeChar? (b :: rest) = some c := fun c => by
        rw [decodeChar?_eq_some_iff, decodeChar?_eq_some_iff, ← List.cons_append,
          List.prefix_concat_iff]
        refine or_iff_right fun hall => ?_
        have hmem : x ∈ String.utf8EncodeChar c := by simp [hall]
        have := congrArg List.length (hall.symm.trans (eq_of_mem_utf8EncodeChar hmem h).2)
        simp at this
      have heq : decodeChar? (b :: (rest ++ [x])) = decodeChar? (b :: rest) :=
        Option.ext fun c => hiff c
      rw [List.cons_append, decodeFrom, decodeFrom, heq]
      cases hd : decodeChar? (b :: rest) with
      | none =>
          rw [List.cons_append, ← decodeFrom_snoc_of_ascii h 0 rest (Nat.zero_le _)]
      | some c =>
          have hle := (decodeChar?_eq_some_iff.1 hd).length_le
          rw [String.length_utf8EncodeChar, List.length_cons] at hle
          rw [List.cons_append, ← decodeFrom_snoc_of_ascii h _ rest (by omega)]

/-- **A byte of ASCII after any bytes is its character.** -/
theorem decode_snoc_of_ascii (h : x.toNat < 0x80) (bytes : List UInt8) :
    decode (bytes ++ [x]) = decode bytes ++ [Char.ofNat x.toNat] :=
  decodeFrom_snoc_of_ascii h 0 bytes (Nat.zero_le _)

theorem decodeFrom_eq_nil {n : ℕ} : decodeFrom n bytes = [] → bytes.length ≤ n := by
  rw [decodeFrom_drop]
  intro h
  by_contra hlt
  obtain ⟨b, rest, hd⟩ := List.exists_cons_of_ne_nil
    (mt List.drop_eq_nil_iff.1 (show ¬ bytes.length ≤ n by omega))
  rw [hd, decode, decodeFrom] at h
  split at h <;> exact absurd h (by simp)

/-- **After any other byte no character of ASCII ends the text.** -/
theorem ge_of_getLast?_decodeFrom (hx : 0x80 ≤ x.toNat) : ∀ (n : ℕ) (bytes : List UInt8),
    bytes.getLast? = some x → (decodeFrom n bytes).getLast? = some c → 0x80 ≤ c.toNat
  | _, [], hl, _ => by simp at hl
  | n + 1, [b], _, hc => by simp [decodeFrom] at hc
  | n + 1, b :: b' :: rest, hl, hc =>
      ge_of_getLast?_decodeFrom hx n (b' :: rest) (by simpa using hl) hc
  | 0, b :: rest, hl, hc => by
      -- the last character is the first one, or the last of what follows it
      have hlater : ∀ n c', (decodeFrom 0 (b :: rest)) = c' :: decodeFrom n rest →
          (decodeFrom n rest = [] → 0x80 ≤ c'.toNat) → 0x80 ≤ c.toNat := fun n c' heq hfirst => by
        rw [heq, List.getLast?_cons] at hc
        cases hrest : (decodeFrom n rest).getLast? with
        | none =>
            rw [hrest] at hc
            exact Option.some.inj hc ▸ hfirst (List.getLast?_eq_none_iff.1 hrest)
        | some c'' =>
            have hlast : (decodeFrom n rest).getLast? = some c := by
              rw [hrest] at hc ⊢
              exact hc
            cases rest with
            | nil => cases n <;> simp [decodeFrom] at hlast
            | cons b' rest =>
                exact ge_of_getLast?_decodeFrom hx n (b' :: rest) (by simpa using hl) hlast
      cases hd : decodeChar? (b :: rest) with
      | none =>
          exact hlater 0 replacement (by rw [decodeFrom, hd]) fun _ => by decide
      | some c' =>
          refine hlater _ c' (by rw [decodeFrom, hd]) fun hnil => ?_
          have hpre := decodeChar?_eq_some_iff.1 hd
          have hle := decodeFrom_eq_nil hnil
          have hpos := c'.utf8Size_pos
          have hall : String.utf8EncodeChar c' = b :: rest :=
            hpre.eq_of_length_le (by rw [String.length_utf8EncodeChar, List.length_cons]; omega)
          by_contra hlt
          rw [utf8EncodeChar_of_ascii (by omega)] at hall
          rw [← hall, List.getLast?_singleton] at hl
          have := congrArg UInt8.toNat (Option.some.inj hl)
          rw [UInt8.toNat_ofNat'] at this
          omega

theorem ge_of_getLast?_decode (hx : 0x80 ≤ x.toNat) (hl : bytes.getLast? = some x)
    (hc : (decode bytes).getLast? = some c) : 0x80 ≤ c.toNat :=
  ge_of_getLast?_decodeFrom hx 0 bytes hl hc

end Utf8

end BbAuth
