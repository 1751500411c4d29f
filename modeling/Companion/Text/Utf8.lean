import Companion.Text.Basic

/-!
# UTF-8

Files hold bytes. Reading a text from them is strict: overlong forms, surrogates, code points beyond
the last one and incomplete sequences are refused.
-/

set_option autoImplicit false

namespace Companion

abbrev Bytes := List UInt8

namespace Utf8

def encodeChar (c : Char) : Bytes :=
  let code := c.toNat
  if code < 0x80 then [code.toUInt8]
  else if code < 0x800 then [(0xC0 + code / 0x40).toUInt8, (0x80 + code % 0x40).toUInt8]
  else if code < 0x10000 then
    [(0xE0 + code / 0x1000).toUInt8, (0x80 + code / 0x40 % 0x40).toUInt8,
      (0x80 + code % 0x40).toUInt8]
  else
    [(0xF0 + code / 0x40000).toUInt8, (0x80 + code / 0x1000 % 0x40).toUInt8,
      (0x80 + code / 0x40 % 0x40).toUInt8, (0x80 + code % 0x40).toUInt8]

def encode (text : Text) : Bytes := text.flatMap encodeChar

/-- Reads on inside a character: `owed` continuation bytes are missing, `value` is what has been
read of the code point, and the next byte must lie between `low` and `high`. -/
def decodeFrom : Nat → Nat → Nat → Nat → Bytes → Option Text
  | 0, _, _, _, [] => some []
  | _ + 1, _, _, _, [] => none
  | 0, _, _, _, byte :: rest =>
    let lead := byte.toNat
    if lead < 0x80 then (decodeFrom 0 0 0 0 rest).map (Char.ofNat lead :: ·)
    else if lead < 0xC2 then none
    else if lead < 0xE0 then decodeFrom 1 (lead - 0xC0) 0x80 0xBF rest
    else if lead = 0xE0 then decodeFrom 2 0 0xA0 0xBF rest
    else if lead = 0xED then decodeFrom 2 0xD 0x80 0x9F rest
    else if lead < 0xF0 then decodeFrom 2 (lead - 0xE0) 0x80 0xBF rest
    else if lead = 0xF0 then decodeFrom 3 0 0x90 0xBF rest
    else if lead < 0xF4 then decodeFrom 3 (lead - 0xF0) 0x80 0xBF rest
    else if lead = 0xF4 then decodeFrom 3 4 0x80 0x8F rest
    else none
  | owed + 1, value, low, high, byte :: rest =>
    let next := byte.toNat
    if low ≤ next && next ≤ high then
      let value := value * 0x40 + (next - 0x80)
      if owed = 0 then (decodeFrom 0 0 0 0 rest).map (Char.ofNat value :: ·)
      else decodeFrom owed value 0x80 0xBF rest
    else none

/-- The text that bytes encode, if they are well formed. -/
def decode (bytes : Bytes) : Option Text := decodeFrom 0 0 0 0 bytes

end Utf8

end Companion
