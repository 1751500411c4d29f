import Companion.Pattern.Syntax
import Companion.Text.Word
import Companion.Text.Blank

/-!
# Reading patterns

The text of a pattern is read token by token, a token being a character or a backslash with the
character behind it; one token is always looked ahead, so a backslash at the end of the text is
reported as soon as it is next. Every fault is reported with the position at which it is noticed.
-/

set_option autoImplicit false

namespace Companion.Pattern

/-- Where the reading of a pattern stands: the next token, empty at the end, and what follows it. -/
structure Reader where
  pattern : Text
  next : Text
  rest : Text

/-- How letters, dots and anchors are to be read. -/
structure Flags where
  ignoreCase : Bool := false
  lines : Bool := false
  lineFeeds : Bool := false
  verbose : Bool := false

namespace Reader

/-- Looks at the first token of `rest`. -/
def load (pattern rest : Text) : Except SyntaxError Reader :=
  match rest with
  | [] => .ok ⟨pattern, [], []⟩
  | ['\\'] => .error ⟨.trailingBackslash, pattern.length - 1, pattern⟩
  | '\\' :: c :: rest => .ok ⟨pattern, ['\\', c], rest⟩
  | c :: rest => .ok ⟨pattern, [c], rest⟩

/-- Behind the next token. -/
def advance (reader : Reader) : Except SyntaxError Reader := load reader.pattern reader.rest

def position (reader : Reader) : Nat :=
  reader.pattern.length - reader.rest.length - reader.next.length

/-- Reports a fault `back` characters before the next token. -/
def fail {α : Type} (reader : Reader) (fault : Fault) (back : Nat := 0) : Except SyntaxError α :=
  .error ⟨fault, reader.position - back, reader.pattern⟩

def accept (reader : Reader) (c : Char) : Except SyntaxError (Bool × Reader) :=
  if reader.next = [c] then do return (true, ← reader.advance) else .ok (false, reader)

/-- Takes at most `limit` single characters of a class. -/
def takeWhile (allowed : Char → Bool) :
    Nat → Reader → Except SyntaxError (Text × Reader)
  | 0, reader => .ok ([], reader)
  | limit + 1, reader =>
    match reader.next with
    | [c] =>
      if allowed c then do
        let (more, reader) ← takeWhile allowed limit (← reader.advance)
        return (c :: more, reader)
      else .ok ([], reader)
    | _ => .ok ([], reader)

end Reader

/-- The value of digits in a base. -/
def digitsValue (radix : Nat) (digits : Text) : Nat :=
  digits.foldl (fun value c =>
    let code := c.toNat
    let digit :=
      if code ≤ 0x39 then code - 0x30 else if code ≤ 0x46 then code - 0x37 else code - 0x57
    value * radix + digit) 0

def isHexDigit (c : Char) : Bool :=
  isAsciiDigit c || ('a' ≤ c && c ≤ 'f') || ('A' ≤ c && c ≤ 'F')

def isOctalDigit (c : Char) : Bool := '0' ≤ c && c ≤ '7'

/-- The character classes that one escaped letter stands for. -/
def classEscape : Char → Option SetItem
  | 'w' => some (.word false)
  | 'W' => some (.word true)
  | 'd' => some (.digit false)
  | 'D' => some (.digit true)
  | 's' => some (.blank false)
  | 'S' => some (.blank true)
  | _ => none

/-- The control characters that one escaped letter stands for. -/
def controlEscape : Char → Option Char
  | 'a' => some (Char.ofNat 7)
  | 'f' => some (Char.ofNat 0xC)
  | 'n' => some '\n'
  | 'r' => some '\r'
  | 't' => some '\t'
  | 'v' => some (Char.ofNat 0xB)
  | '\\' => some '\\'
  | _ => none

def hexEscapeLength : Char → Option Nat
  | 'x' => some 2
  | 'u' => some 4
  | 'U' => some 8
  | _ => none

/-- Reads what follows the letter `c` of an escape and gives the character meant. -/
def readEscape (c : Char) (reader : Reader) : Except SyntaxError (Char × Reader) :=
  match controlEscape c with
  | some control => .ok (control, reader)
  | none =>
    match hexEscapeLength c with
    | some length => do
      let (digits, reader) ← reader.takeWhile isHexDigit length
      let escape := '\\' :: c :: digits
      if digits.length = length then return (Char.ofNat (digitsValue 16 digits), reader)
      else reader.fail (.incompleteEscape escape) escape.length
    | none =>
      if isAsciiLetter c then reader.fail (.badEscape ['\\', c]) 2
      else .ok (c, reader)

/-- Reads what follows an octal escape that opens with the digit `c`. -/
def readOctal (c : Char) (reader : Reader) : Except SyntaxError (Char × Reader) := do
  let (digits, reader) ← reader.takeWhile isOctalDigit 2
  let escape := '\\' :: c :: digits
  let value := digitsValue 8 (c :: digits)
  if value > 0o377 then reader.fail (.octalTooLarge escape) escape.length
  else return (Char.ofNat value, reader)

/-- An escape outside of character sets; `reader` is behind it. -/
def escapeItem (flags : Flags) (c : Char) (reader : Reader) :
    Except SyntaxError (Pattern × Reader) :=
  match classEscape c with
  | some item => .ok (.set flags.ignoreCase false [item], reader)
  | none =>
    match c with
    | 'A' => .ok (.textStart, reader)
    | 'Z' => .ok (.textEnd, reader)
    | 'b' => .ok (.boundary false, reader)
    | 'B' => .ok (.boundary true, reader)
    | '0' => do
      let (c, reader) ← readOctal c reader
      return (.char flags.ignoreCase c, reader)
    | _ => do
      if isAsciiDigit c then
        reader.fail (.invalidReference (digitsValue 10 [c])) 1
      else
        let (c, reader) ← readEscape c reader
        return (.char flags.ignoreCase c, reader)

/-- An escape inside a character set; `reader` is behind it. -/
def escapeMember (c : Char) (reader : Reader) : Except SyntaxError (SetItem × Reader) :=
  match classEscape c with
  | some item => .ok (item, reader)
  | none =>
    if c = 'b' then .ok (.char (Char.ofNat 8), reader)
    else if isOctalDigit c then do
      let (c, reader) ← readOctal c reader
      return (.char c, reader)
    else if isAsciiDigit c then reader.fail (.badEscape ['\\', c]) 2
    else do
      let (c, reader) ← readEscape c reader
      return (.char c, reader)

/-- One member of a set, given by its token; `reader` is behind the token. -/
def setMember (token : Text) (reader : Reader) : Except SyntaxError (SetItem × Reader) :=
  match token with
  | ['\\', c] => escapeMember c reader
  | c :: _ => .ok (.char c, reader)
  | [] => reader.fail .unterminatedSet

/-- The members of a set up to its closing bracket; the set opened at `opening`. The first member
may be a bracket. -/
def setMembers (opening : Nat) :
    Nat → List SetItem → Reader → Except SyntaxError (List SetItem × Reader)
  | 0, _, reader => reader.fail .unterminatedSet (reader.position - opening)
  | fuel + 1, members, reader => do
    let token := reader.next
    if token.isEmpty then reader.fail .unterminatedSet (reader.position - opening)
    let reader ← reader.advance
    if token = [']'] && !members.isEmpty then return (members, reader)
    let (low, reader) ← setMember token reader
    let (isRange, reader) ← reader.accept '-'
    if !isRange then setMembers opening fuel (members ++ [low]) reader
    else
      let last := reader.next
      if last.isEmpty then reader.fail .unterminatedSet (reader.position - opening)
      let reader ← reader.advance
      if last = [']'] then return (members ++ [low, .char '-'], reader)
      let (high, reader) ← setMember last reader
      match low, high with
      | .char low, .char high =>
        if high.toNat < low.toNat then
          reader.fail (.badRange token last) (token.length + 1 + last.length)
        else setMembers opening fuel (members ++ [.range low high]) reader
      | _, _ => reader.fail (.badRange token last) (token.length + 1 + last.length)

/-- A character set; `reader` is behind the opening bracket. -/
def characterSet (flags : Flags) (reader : Reader) : Except SyntaxError (Pattern × Reader) := do
  let opening := reader.position - 1
  let (negated, reader) ← reader.accept '^'
  let (members, reader) ← setMembers opening (reader.pattern.length + 1) [] reader
  return (.set flags.ignoreCase negated members, reader)

/-- The bounds of a counted repetition behind its brace, or nothing if the brace is a plain one. -/
def counts (reader : Reader) : Except SyntaxError (Option (Nat × Option Nat × Reader)) := do
  if reader.next = ['\x7d'] then return none
  let limit := reader.pattern.length
  let (low, behind) ← reader.takeWhile isAsciiDigit limit
  let (comma, behind) ← behind.accept ','
  let (high, behind) ←
    if comma then behind.takeWhile isAsciiDigit limit else pure (low, behind)
  let (closed, behind) ← behind.accept '\x7d'
  if !closed then return none
  let least := if low.isEmpty then 0 else digitsValue 10 low
  let greatest := if high.isEmpty then none else some (digitsValue 10 high)
  match greatest with
  | some bound =>
    if bound < least then
      behind.fail .reversedBounds (behind.position - reader.position)
    else return some (least, greatest, behind)
  | none => return some (least, greatest, behind)

/-- Whether an item cannot be repeated because it matches a place. -/
def isAnchor : Pattern → Bool
  | .start _ | .finish _ | .textStart | .textEnd | .boundary _ => true
  | _ => false

/-- Repeats the last item read, which is the first of `items`; the quantifier started at `opening`.
-/
def repeatLast (items : List Pattern) (opening least : Nat) (greatest : Option Nat)
    (reader : Reader) : Except SyntaxError (List Pattern × Reader) := do
  let back := reader.position - opening
  match items with
  | [] => reader.fail .nothingToRepeat back
  | .repetition .. :: _ => reader.fail .multipleRepeat back
  | item :: before =>
    if isAnchor item then reader.fail .nothingToRepeat back
    let (lazy, reader) ← reader.accept '?'
    let (_, reader) ← if lazy then pure (false, reader) else reader.accept '+'
    return (.repetition item least greatest :: before, reader)

/-- The flag that a letter names, switched on or off. -/
def setFlag (value : Bool) (c : Char) (flags : Flags) : Option Flags :=
  match c with
  | 'i' => some { flags with ignoreCase := value }
  | 'm' => some { flags with lines := value }
  | 's' => some { flags with lineFeeds := value }
  | 'x' => some { flags with verbose := value }
  | 'a' | 'u' => some flags
  | _ => none

def isLetter (c : Char) : Bool := isWordChar c && !isDecimalDigit c && c ≠ '_'

def readFlags (value : Bool) (missing : Fault) (isFinal : Char → Bool) :
    Nat → Char → Flags → Reader → Except SyntaxError (Char × Flags × Reader)
  | 0, _, _, reader => reader.fail missing
  | fuel + 1, c, flags, reader =>
    match setFlag value c flags with
    | none => reader.fail (if isLetter c then .unknownFlag else missing) 1
    | some flags => do
      match reader.next with
      | [] => reader.fail missing
      | token@(next :: _) =>
        let reader ← reader.advance
        if token.length = 1 && isFinal next then return (next, flags, reader)
        else if token.length = 1 then readFlags value missing isFinal fuel next flags reader
        else reader.fail missing token.length

/-- Reads the flags that are switched off; `reader` is behind the minus sign. -/
def readSwitchedOff (flags : Flags) (reader : Reader) : Except SyntaxError (Flags × Reader) :=
  match reader.next with
  | [c] => do
    if (setFlag false c flags).isNone then
      reader.fail (if isLetter c then .unknownFlag else .missingFlag)
    let (_, flags, reader) ←
      readFlags false .missingColon (· = ':') reader.pattern.length c flags (← reader.advance)
    return (flags, reader)
  | _ => reader.fail .missingFlag

/-- What opens behind the question mark of a group. -/
inductive Opening where
  /-- A group whose contents are read with these flags. -/
  | contents (flags : Flags)
  /-- A look-ahead. -/
  | ahead (negated : Bool)
  /-- Flags for the rest of the pattern. -/
  | switches (flags : Flags)
  /-- A comment that has been read. -/
  | comment

/-- Skips a comment group up to its parenthesis; the group opened at `opening`. -/
def skipComment (opening : Nat) : Nat → Reader → Except SyntaxError Reader
  | 0, reader => reader.fail .unterminatedComment (reader.position - opening)
  | fuel + 1, reader => do
    if reader.next.isEmpty then
      reader.fail .unterminatedComment (reader.position - opening)
    else
      let token := reader.next
      let reader ← reader.advance
      if token = [')'] then return reader else skipComment opening fuel reader

/-- Reads an extension group's opening; `reader` is behind the question mark. -/
def groupOpening (flags : Flags) (opening : Nat) (reader : Reader) :
    Except SyntaxError (Opening × Reader) := do
  match reader.next with
  | [] => reader.fail .unexpectedEnd
  | token =>
    let reader ← reader.advance
    let fuel := reader.pattern.length
    match token with
    | [':'] => return (.contents flags, reader)
    | ['='] => return (.ahead false, reader)
    | ['!'] => return (.ahead true, reader)
    | ['#'] => return (.comment, ← skipComment opening fuel reader)
    | ['-'] =>
      let (flags, reader) ← readSwitchedOff flags reader
      return (.contents flags, reader)
    | [c] =>
      if (setFlag true c flags).isNone then reader.fail (.unknownExtension token) 2
      let (final, on, reader) ←
        readFlags true .flagsNotClosed (fun c => c = ')' || c = '-' || c = ':') fuel c flags reader
      if final = ')' then return (.switches on, reader)
      else if final = ':' then return (.contents on, reader)
      else
        let (flags, reader) ← readSwitchedOff on reader
        return (.contents flags, reader)
    | _ => reader.fail (.unknownExtension token) (token.length + 1)

/-- The items read so far, last one first, as one pattern. -/
def sequenceOf (items : List Pattern) : Pattern :=
  match items.reverse with
  | [] => .empty
  | first :: rest => rest.foldl .sequence first

mutual

/-- Alternatives up to a closing parenthesis or the end; `outermost` for the whole pattern. -/
def alternatives : Nat → Bool → Flags → Reader → Except SyntaxError (Pattern × Reader)
  | 0, _, _, reader => reader.fail .unexpectedEnd
  | fuel + 1, outermost, flags, reader => do
    let (first, flags, reader) ← items fuel outermost flags [] reader
    moreAlternatives fuel first flags reader

def moreAlternatives : Nat → Pattern → Flags → Reader → Except SyntaxError (Pattern × Reader)
  | 0, _, _, reader => reader.fail .unexpectedEnd
  | fuel + 1, first, flags, reader => do
    let (more, reader) ← reader.accept '|'
    if more then
      let (second, flags, reader) ← items fuel false flags [] reader
      moreAlternatives fuel (.alternative first second) flags reader
    else return (first, reader)

/-- Items up to a bar, a closing parenthesis or the end; `leading` while switches for the whole
pattern may still come. -/
def items : Nat → Bool → Flags → List Pattern → Reader →
    Except SyntaxError (Pattern × Flags × Reader)
  | 0, _, _, _, reader => reader.fail .unexpectedEnd
  | fuel + 1, leading, flags, read, reader => do
    let token := reader.next
    match token with
    | [] | ['|'] | [')'] => return (sequenceOf read, flags, reader)
    | _ =>
    let opening := reader.position
    let reader ← reader.advance
    match token with
    | ['\\', c] =>
      let (item, reader) ← escapeItem flags c reader
      items fuel leading flags (item :: read) reader
    | ['['] =>
      let (item, reader) ← characterSet flags reader
      items fuel leading flags (item :: read) reader
    | ['?'] =>
      let (read, reader) ← repeatLast read opening 0 (some 1) reader
      items fuel leading flags read reader
    | ['*'] =>
      let (read, reader) ← repeatLast read opening 0 none reader
      items fuel leading flags read reader
    | ['+'] =>
      let (read, reader) ← repeatLast read opening 1 none reader
      items fuel leading flags read reader
    | ['\x7b'] =>
      match ← counts reader with
      | none => items fuel leading flags (.char flags.ignoreCase '\x7b' :: read) reader
      | some (least, greatest, reader) =>
        let (read, reader) ← repeatLast read opening least greatest reader
        items fuel leading flags read reader
    | ['.'] => items fuel leading flags (.any flags.lineFeeds :: read) reader
    | ['^'] => items fuel leading flags (.start flags.lines :: read) reader
    | ['$'] => items fuel leading flags (.finish flags.lines :: read) reader
    | ['('] =>
      let (extended, reader) ← reader.accept '?'
      let (kind, reader) ←
        if extended then groupOpening flags opening reader else pure (.contents flags, reader)
      match kind with
      | .comment => items fuel leading flags read reader
      | .switches switched =>
        if leading && read.isEmpty then items fuel leading switched read reader
        else reader.fail .misplacedFlags (reader.position - opening)
      | .contents inside =>
        let (item, reader) ← alternatives fuel false inside reader
        let (closed, reader) ← reader.accept ')'
        if closed then items fuel leading flags (.group item :: read) reader
        else reader.fail .unterminatedGroup (reader.position - opening)
      | .ahead negated =>
        let (item, reader) ← alternatives fuel false flags reader
        let (closed, reader) ← reader.accept ')'
        if closed then items fuel leading flags (.lookahead negated item :: read) reader
        else reader.fail .unterminatedGroup (reader.position - opening)
    | c :: _ => items fuel leading flags (.char flags.ignoreCase c :: read) reader
    | [] => return (sequenceOf read, flags, reader)

end

def parse (pattern : Text) : Except SyntaxError Pattern := do
  let reader ← Reader.load pattern pattern
  let (result, reader) ← alternatives (3 * pattern.length + 3) true {} reader
  if reader.next.isEmpty then return result
  else reader.fail .unbalancedParenthesis

end Companion.Pattern
