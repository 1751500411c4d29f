import Companion.Text.Word
import Companion.Value.Basic

/-!
# Reading values

The text form of values: JSON, in which the numbers that are not finite may be named, too. Of
several members of one name the last one counts, in the place of the first. Control characters must
be escaped in strings.
-/

set_option autoImplicit false

namespace Companion.Value

def skipBlanks (text : Text) : Text :=
  text.dropWhile fun c => c = ' ' || c = '\t' || c = '\n' || c = '\r'

def hexDigit? (c : Char) : Option Nat :=
  if '0' ≤ c && c ≤ '9' then some (c.toNat - 48)
  else if 'a' ≤ c && c ≤ 'f' then some (c.toNat - 87)
  else if 'A' ≤ c && c ≤ 'F' then some (c.toNat - 55)
  else none

def hexNumber? (text : Text) : Option Nat :=
  if text.length < 4 then none
  else (text.take 4).foldlM (fun number c => (hexDigit? c).map (number * 16 + ·)) 0

/-- The character behind a backslash that stands for a single one. -/
def escaped? : Char → Option Char
  | '"' => some '"'
  | '\\' => some '\\'
  | '/' => some '/'
  | 'b' => some '\x08'
  | 'f' => some '\x0c'
  | 'n' => some '\n'
  | 'r' => some '\r'
  | 't' => some '\t'
  | _ => none

/-- The character of a `\u` escape, given what follows the `u`, and what is left behind it. Two
escapes may stand for one character. -/
def unicodeEscape? (text : Text) : Option (Char × Text) := do
  let unit ← hexNumber? text
  let rest := text.drop 4
  if 0xD800 ≤ unit && unit < 0xDC00 then
    if !Text.startsWith rest "\\u" then none
    else
      let low ← hexNumber? (rest.drop 2)
      if 0xDC00 ≤ low && low < 0xE000 then
        some (Char.ofNat (0x10000 + (unit - 0xD800) * 0x400 + (low - 0xDC00)), rest.drop 6)
      else none
  else if 0xDC00 ≤ unit && unit < 0xE000 then none
  else some (Char.ofNat unit, rest)

/-- The rest of a string up to its closing quote, and what is left behind it. -/
def readString : Nat → Text → Option (Text × Text)
  | 0, _ => none
  | _, [] => none
  | fuel + 1, c :: rest =>
    if c = '"' then some ([], rest)
    else if c = '\\' then
      match rest with
      | 'u' :: digits => do
        let (d, rest) ← unicodeEscape? digits
        let (text, rest) ← readString fuel rest
        return (d :: text, rest)
      | mark :: rest => do
        let d ← escaped? mark
        let (text, rest) ← readString fuel rest
        return (d :: text, rest)
      | [] => none
    else if c.toNat < 0x20 then none
    else do
      let (text, rest) ← readString fuel rest
      return (c :: text, rest)

def numberOf (digits : Text) : Nat :=
  digits.foldl (fun number c => number * 10 + (c.toNat - 48)) 0

def readFraction : Text → Text × Text
  | '.' :: c :: rest =>
    if isAsciiDigit c then
      ((c :: rest).takeWhile isAsciiDigit, (c :: rest).dropWhile isAsciiDigit)
    else ([], '.' :: c :: rest)
  | text => ([], text)

def readExponent? (text : Text) : Option (Int × Text) :=
  match text with
  | mark :: rest =>
    if mark = 'e' || mark = 'E' then
      let (sign, digits) := match rest with
        | '-' :: digits => ((-1 : Int), digits)
        | '+' :: digits => (1, digits)
        | digits => (1, digits)
      let exponent := digits.takeWhile isAsciiDigit
      if exponent.isEmpty then none
      else some (sign * (numberOf exponent : Int), digits.dropWhile isAsciiDigit)
    else none
  | [] => none

def readNumber (text : Text) : Option (Value × Text) :=
  let (negative, digits) := match text with
    | '-' :: rest => (true, rest)
    | rest => (false, rest)
  let (whole, rest) := match digits with
    | '0' :: rest => (['0'], rest)
    | digits => (digits.takeWhile isAsciiDigit, digits.dropWhile isAsciiDigit)
  if whole.isEmpty then none
  else
    let (fraction, rest) := readFraction rest
    match readExponent? rest with
    | some (exponent, rest) =>
      some (decimal (.ofDecimal negative (numberOf (whole ++ fraction))
        (exponent - (fraction.length : Int))), rest)
    | none =>
      if fraction.isEmpty then
        some (integer (if negative then -(numberOf whole : Int) else numberOf whole), rest)
      else
        some (decimal (.ofDecimal negative (numberOf (whole ++ fraction))
          (-(fraction.length : Int))), rest)

/-- The words that stand for values. -/
def words : List (Text × Value) :=
  [("null", null), ("true", boolean true), ("false", boolean false), ("NaN", decimal .nan),
    ("Infinity", decimal (.infinite false)), ("-Infinity", decimal (.infinite true))]

/-- The word that opens a text as a value, and what is left behind it. -/
def readWord (text : Text) : Option (Value × Text) :=
  (words.find? fun word => text.startsWith word.1).map fun word =>
    (word.2, text.drop word.1.length)

mutual

def readValue : Nat → Text → Option (Value × Text)
  | 0, _ => none
  | fuel + 1, text =>
    match text with
    | '"' :: rest => (readString text.length rest).map fun (text, rest) => (string text, rest)
    | '[' :: rest =>
      match skipBlanks rest with
      | ']' :: rest => some (array [], rest)
      | rest => (readItems fuel rest).map fun (items, rest) => (array items, rest)
    | '\x7b' :: rest =>
      match skipBlanks rest with
      | '\x7d' :: rest => some (object [], rest)
      | rest =>
        (readMembers fuel rest).map fun (members, rest) =>
          (object (members.foldl (fun found member => setMember member.1 member.2 found) []), rest)
    | text =>
      match readWord text with
      | some result => some result
      | none => readNumber text

/-- The items of an array up to its closing bracket, and what is left behind it. -/
def readItems : Nat → Text → Option (List Value × Text)
  | 0, _ => none
  | fuel + 1, text => do
    let (item, rest) ← readValue fuel text
    match skipBlanks rest with
    | ']' :: rest => return ([item], rest)
    | ',' :: rest =>
      let (items, rest) ← readItems fuel (skipBlanks rest)
      return (item :: items, rest)
    | _ => none

/-- The members of an object up to its closing brace, and what is left behind it. -/
def readMembers : Nat → Text → Option (List (Text × Value) × Text)
  | 0, _ => none
  | fuel + 1, text =>
    match text with
    | '"' :: rest => do
      let (name, rest) ← readString text.length rest
      match skipBlanks rest with
      | ':' :: rest =>
        let (value, rest) ← readValue fuel (skipBlanks rest)
        match skipBlanks rest with
        | '\x7d' :: rest => return ([(name, value)], rest)
        | ',' :: rest =>
          let (members, rest) ← readMembers fuel (skipBlanks rest)
          return ((name, value) :: members, rest)
        | _ => none
      | _ => none
    | _ => none

end

def ofText? (text : Text) : Option Value :=
  match readValue (text.length + 1) (skipBlanks text) with
  | some (value, rest) => if (skipBlanks rest).isEmpty then some value else none
  | none => none

end Companion.Value
