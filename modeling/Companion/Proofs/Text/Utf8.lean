import Companion.Text.Utf8
import Mathlib.Data.Char

/-!
# Texts as bytes

The bytes of a text are read as this text. A character is read byte by byte: the first byte tells
how many follow and holds the highest bits, and each further byte brings six more.
-/

set_option autoImplicit false

namespace Companion.Utf8

private theorem toNat_toUInt8 {number : Nat} (small : number < 0x100) :
    number.toUInt8.toNat = number :=
  Nat.mod_eq_of_lt small

/-- The first byte of two. -/
private theorem decodeFrom_lead_two {high : Nat} (least : 2 ≤ high) (most : high < 0x20)
    (rest : Bytes) :
    decodeFrom 0 0 0 0 ((0xC0 + high).toUInt8 :: rest) = decodeFrom 1 high 0x80 0xBF rest := by
  rw [decodeFrom, toNat_toUInt8 (by omega)]
  rw [if_neg (by omega), if_neg (by omega), if_pos (by omega), Nat.add_sub_cancel_left]

/-- The first byte of three. The next one has narrower bounds where shorter forms and surrogates
would be read. -/
private theorem decodeFrom_lead_three {high : Nat} (most : high < 0x10) (rest : Bytes) :
    decodeFrom 0 0 0 0 ((0xE0 + high).toUInt8 :: rest) =
      decodeFrom 2 high (if high = 0 then 0xA0 else 0x80) (if high = 0xD then 0x9F else 0xBF)
        rest := by
  rw [decodeFrom, toNat_toUInt8 (by omega)]
  rw [if_neg (by omega), if_neg (by omega), if_neg (by omega)]
  by_cases first : high = 0
  · subst first
    rfl
  · rw [if_neg (by omega), if_neg first]
    by_cases surrogates : high = 0xD
    · subst surrogates
      rfl
    · rw [if_neg (by omega), if_pos (by omega), if_neg surrogates, Nat.add_sub_cancel_left]

/-- The first byte of four. The next one has narrower bounds where shorter forms and code points
beyond the last one would be read. -/
private theorem decodeFrom_lead_four {high : Nat} (most : high ≤ 4) (rest : Bytes) :
    decodeFrom 0 0 0 0 ((0xF0 + high).toUInt8 :: rest) =
      decodeFrom 3 high (if high = 0 then 0x90 else 0x80) (if high = 4 then 0x8F else 0xBF)
        rest := by
  have bands : high = 0 ∨ (high = 1 ∨ high = 2 ∨ high = 3) ∨ high = 4 := by omega
  rcases bands with rfl | (rfl | rfl | rfl) | rfl <;> rfl

/-- A byte within its bounds brings six bits. -/
private theorem decodeFrom_next {owed value low high bits : Nat} (least : low ≤ 0x80 + bits)
    (most : 0x80 + bits ≤ high) (small : bits < 0x40) (rest : Bytes) :
    decodeFrom (owed + 1) value low high ((0x80 + bits).toUInt8 :: rest) =
      if owed = 0 then
        (decodeFrom 0 0 0 0 rest).map (Char.ofNat (value * 0x40 + bits) :: ·)
      else decodeFrom owed (value * 0x40 + bits) 0x80 0xBF rest := by
  rw [decodeFrom, toNat_toUInt8 (by omega)]
  dsimp only
  rw [if_pos (by simp [least, most]), Nat.add_sub_cancel_left]

/-- The bytes of a character are read as the character. -/
theorem decodeFrom_encodeChar (c : Char) (rest : Bytes) :
    decodeFrom 0 0 0 0 (encodeChar c ++ rest) = (decodeFrom 0 0 0 0 rest).map (c :: ·) := by
  have valid : c.toNat < 0xD800 ∨ 0xDFFF < c.toNat ∧ c.toNat < 0x110000 := c.valid
  have same : Char.ofNat c.toNat = c := Char.ofNat_toNat c
  rw [encodeChar]
  generalize c.toNat = code at valid same
  by_cases one : code < 0x80
  · rw [if_pos one, List.singleton_append, decodeFrom, toNat_toUInt8 (by omega), if_pos one, same]
  by_cases two : code < 0x800
  · have whole : code / 0x40 * 0x40 + code % 0x40 = code := Nat.div_add_mod' code 0x40
    rw [if_neg one, if_pos two, List.cons_append, List.singleton_append,
      decodeFrom_lead_two (by omega) (by omega), decodeFrom_next (by omega) (by omega) (by omega),
      if_pos rfl, whole, same]
  by_cases three : code < 0x10000
  · have whole : (code / 0x1000 * 0x40 + code / 0x40 % 0x40) * 0x40 + code % 0x40 = code := by
      omega
    rw [if_neg one, if_neg two, if_pos three, List.cons_append, List.cons_append,
      List.singleton_append, decodeFrom_lead_three (by omega),
      decodeFrom_next (by split <;> omega) (by split <;> omega) (by omega), if_neg (by omega),
      decodeFrom_next (by omega) (by omega) (by omega), if_pos rfl, whole, same]
  · have whole : ((code / 0x40000 * 0x40 + code / 0x1000 % 0x40) * 0x40 + code / 0x40 % 0x40) *
        0x40 + code % 0x40 = code := by
      omega
    rw [if_neg one, if_neg two, if_neg three, List.cons_append, List.cons_append, List.cons_append,
      List.singleton_append, decodeFrom_lead_four (by omega),
      decodeFrom_next (by split <;> omega) (by split <;> omega) (by omega), if_neg (by omega),
      decodeFrom_next (by omega) (by omega) (by omega), if_neg (by omega),
      decodeFrom_next (by omega) (by omega) (by omega), if_pos rfl, whole, same]

theorem encode_append (text rest : Text) : encode (text ++ rest) = encode text ++ encode rest :=
  List.flatMap_append

/-- Reading the bytes of a text gives the text. -/
theorem decode_encode (text : Text) : decode (encode text) = some text := by
  unfold decode
  induction text with
  | nil => rfl
  | cons c rest ih =>
      rw [show encode (c :: rest) = encodeChar c ++ encode rest from rfl, decodeFrom_encodeChar, ih]
      rfl

end Companion.Utf8
