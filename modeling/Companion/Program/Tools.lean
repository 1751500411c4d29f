import Companion.Text.Utf8
import Companion.Text.Word

/-!
# Small tools

Filters and other small programs by name: what they write for given arguments and input.
-/

set_option autoImplicit false

namespace Companion.Tool

/-- What a tool leaves: its status, its outputs, and the milliseconds it took. -/
structure Result where
  status : Nat := 0
  output : Bytes := []
  errors : Bytes := []
  elapsed : Nat := 0
deriving Repr

def octalDigit? (c : Char) : Option Nat :=
  if '0' ≤ c && c ≤ '7' then some (c.toNat - 48) else none

/-- The byte written with octal digits at the start of a text, and how many of them. -/
def octalByte (most : Nat) (text : Text) : UInt8 × Nat :=
  let digits := (text.take most).takeWhile fun c => (octalDigit? c).isSome
  (UInt8.ofNat (digits.foldl (fun number c => number * 8 + (c.toNat - 48)) 0), digits.length)

def escapedByte? : Char → Option UInt8
  | 'a' => some 7
  | 'b' => some 8
  | 't' => some 9
  | 'n' => some 10
  | 'v' => some 11
  | 'f' => some 12
  | 'r' => some 13
  | '\\' => some 92
  | '"' => some 34
  | '\'' => some 39
  | _ => none

/-- The bytes of a text with its escapes replaced. Octal escapes have a leading zero if
`leadingZero`. -/
def unescape (leadingZero : Bool) : Nat → Text → Bytes
  | 0, _ => []
  | _, [] => []
  | fuel + 1, '\\' :: c :: rest =>
    match escapedByte? c with
    | some byte => byte :: unescape leadingZero fuel rest
    | none =>
      let digits := if leadingZero then (if c = '0' then rest else []) else c :: rest
      let (byte, length) := octalByte 3 digits
      if length = 0 && !(leadingZero && c = '0') then
        Utf8.encode ['\\', c] ++ unescape leadingZero fuel rest
      else byte :: unescape leadingZero fuel (digits.drop length)
  | fuel + 1, c :: rest => Utf8.encode [c] ++ unescape leadingZero fuel rest

/-- What is written for some arguments, with their escapes replaced and a final line feed or not. -/
def written (escapes final : Bool) (arguments : List Text) : Bytes :=
  let text := Text.join [' '] arguments
  (if escapes then unescape true text.length text else Utf8.encode text) ++
    (if final then [10] else [])

/-- Writes its arguments, as the shell itself does it: escapes are replaced, and a first `-n` leaves
out the final line feed. -/
def shellEcho : List Text → Result
  | ['-', 'n'] :: arguments => { output := written true false arguments }
  | arguments => { output := written true true arguments }

/-- Writes its arguments behind those that are options: `-n` leaves out the final line feed, `-e`
has escapes replaced and `-E` has them kept. -/
def echo (escapes final : Bool) : List Text → Result
  | [] => { output := written escapes final [] }
  | argument :: arguments =>
    match argument with
    | '-' :: c :: letters =>
      if (c :: letters).all fun letter => letter = 'n' || letter = 'e' || letter = 'E' then
        let escapes := (c :: letters).foldl (fun escapes letter =>
          if letter = 'e' then true else if letter = 'E' then false else escapes) escapes
        echo escapes (final && !(c :: letters).contains 'n') arguments
      else { output := written escapes final (argument :: arguments) }
    | _ => { output := written escapes final (argument :: arguments) }

/-- One pass over a format; the arguments that are left come with the bytes. -/
def formatOnce : Nat → Text → List Text → Bytes × List Text
  | 0, _, arguments => ([], arguments)
  | _, [], arguments => ([], arguments)
  | fuel + 1, '%' :: '%' :: rest, arguments =>
    let (bytes, arguments) := formatOnce fuel rest arguments
    (37 :: bytes, arguments)
  | fuel + 1, '%' :: c :: rest, arguments =>
    if c = 's' || c = 'd' then
      let argument := arguments.head?.getD (if c = 'd' then ['0'] else [])
      let (bytes, arguments) := formatOnce fuel rest (arguments.drop 1)
      (Utf8.encode argument ++ bytes, arguments)
    else
      let (bytes, arguments) := formatOnce fuel rest arguments
      (Utf8.encode ['%', c] ++ bytes, arguments)
  | fuel + 1, '\\' :: c :: rest, arguments =>
    match escapedByte? c with
    | some byte =>
      let (bytes, arguments) := formatOnce fuel rest arguments
      (byte :: bytes, arguments)
    | none =>
      let (byte, length) := octalByte 3 (c :: rest)
      if length = 0 then
        let (bytes, arguments) := formatOnce fuel rest arguments
        (Utf8.encode ['\\', c] ++ bytes, arguments)
      else
        let (bytes, arguments) := formatOnce fuel ((c :: rest).drop length) arguments
        (byte :: bytes, arguments)
  | fuel + 1, c :: rest, arguments =>
    let (bytes, arguments) := formatOnce fuel rest arguments
    (Utf8.encode [c] ++ bytes, arguments)

/-- Passes over a format as long as that uses up arguments. -/
def formatAll (format : Text) : Nat → List Text → Bytes
  | 0, _ => []
  | fuel + 1, arguments =>
    let (bytes, left) := formatOnce format.length format arguments
    if left.isEmpty || left.length = arguments.length then bytes
    else bytes ++ formatAll format fuel left

def printf : List Text → Result
  | [] => { status := 2 }
  | format :: arguments => { output := formatAll format (arguments.length + 1) arguments }

/-- The bytes that a set of characters stands for, ranges spelled out. -/
def byteSet : Nat → Bytes → Bytes
  | 0, _ => []
  | _, [] => []
  | fuel + 1, low :: 45 :: high :: rest =>
    ((List.range (high.toNat + 1 - low.toNat)).map fun index => UInt8.ofNat (low.toNat + index)) ++
      byteSet fuel rest
  | fuel + 1, byte :: rest => byte :: byteSet fuel rest

/-- The bytes that a text stands for as a set; two classes have names. -/
def setOf (text : Text) : Bytes :=
  let text :=
    if text = "[:lower:]".toList then "a-z".toList
    else if text = "[:upper:]".toList then "A-Z".toList
    else text
  let bytes := unescape false text.length text
  byteSet bytes.length bytes

/-- The byte that a byte is replaced by: that at the same position of the second set, whose last one
stands for all behind it. -/
def replaceByte (source target : Bytes) (byte : UInt8) : UInt8 :=
  let filled := target ++ List.replicate source.length (target.getLast?.getD 0)
  match (source.zip filled).find? fun pair => pair.1 = byte with
  | some pair => pair.2
  | none => byte

def tr (arguments : List Text) (input : Bytes) : Result :=
  match arguments with
  | [['-', 'd'], set] => { output := input.filter fun byte => !(setOf set).contains byte }
  | [source, target] => { output := input.map (replaceByte (setOf source) (setOf target)) }
  | _ => { status := 1 }

def number? (text : Text) : Option Nat :=
  if !text.isEmpty && text.all isAsciiDigit then
    some (text.foldl (fun number c => number * 10 + (c.toNat - 48)) 0)
  else none

/-- The milliseconds of a time in seconds, which may have a fraction. -/
def milliseconds? (text : Text) : Option Nat :=
  let whole := text.takeWhile isAsciiDigit
  match text.drop whole.length with
  | [] => (number? whole).map (· * 1000)
  | '.' :: fraction =>
    if fraction.all isAsciiDigit then
      number? ((if whole.isEmpty then ['0'] else whole) ++ (fraction ++ ['0', '0', '0']).take 3)
    else none
  | _ => none

def firstLines : Nat → Bytes → Bytes
  | 0, _ => []
  | _, [] => []
  | count + 1, byte :: rest => byte :: firstLines (if byte = 10 then count else count + 1) rest

def head (arguments : List Text) (input : Bytes) : Result :=
  match arguments with
  | [] => { output := firstLines 10 input }
  | [['-', 'c'], count] => { output := input.take ((number? count).getD 0) }
  | [['-', 'n'], count] => { output := firstLines ((number? count).getD 0) input }
  | ['-' :: count] =>
    match number? count with
    | some count => { output := firstLines count input }
    | none => { status := 1 }
  | _ => { status := 1 }

/-- The bytes of a file that is always there. -/
def specialFile? (input : Bytes) (path : Text) : Option Bytes :=
  if path.isOneOf ["-", "/dev/stdin"] then some input
  else if path.isOneOf ["/dev/null"] then some []
  else none

/-- The input, or the special files named; the input can be read only once. -/
def cat : List Text → Bytes → Result
  | [], input => { output := input }
  | [path], input =>
    match specialFile? input path with
    | some bytes => { output := bytes }
    | none => { status := 1 }
  | path :: next :: paths, input =>
    match specialFile? input path with
    | some bytes =>
      let rest := cat (next :: paths) (if path.isOneOf ["/dev/null"] then input else [])
      { rest with output := bytes ++ rest.output }
    | none => { status := 1 }

def wc (arguments : List Text) (input : Bytes) : Result :=
  let line : Nat → Result := fun number => { output := Utf8.encode (Text.ofNat number ++ ['\n']) }
  match arguments with
  | [['-', 'c']] => line input.length
  | [['-', 'l']] => line (input.filter (· = 10)).length
  | _ => { status := 1 }

def condition? : List Text → Option Bool
  | [] => some false
  | [text] => some !text.isEmpty
  | [['!'], text] => some text.isEmpty
  | [['-', 'n'], text] => some !text.isEmpty
  | [['-', 'z'], text] => some text.isEmpty
  | [left, ['='], right] => some (left = right)
  | [left, ['!', '='], right] => some (left ≠ right)
  | [left, ['-', 'e', 'q'], right] => some (left = right)
  | [left, ['-', 'n', 'e'], right] => some (left ≠ right)
  | [['!'], left, ['='], right] => some (left ≠ right)
  | _ => none

def test (arguments : List Text) : Result :=
  match condition? arguments with
  | some holds => { status := if holds then 0 else 1 }
  | none => { status := 2 }

def refuseOption (name option : Text) : Result where
  status := 1
  errors := Utf8.encode (name ++ ": unrecognized option '" ++ option ++ "'\nTry '" ++ name ++
    " --help' for more information.\n")

def longOption? (arguments : List Text) : Option Text :=
  arguments.find? fun argument => Text.startsWith argument "--" && 2 < argument.length

/-- Runs a tool that lives outside the shell; `none` if there is none of the name. All tools answer
the wish for their version, most of them wherever it stands among the arguments. -/
def run? (name : Text) (arguments : List Text) (input : Bytes) : Option Result :=
  let version := arguments = ["--version".toList]
  let guarded : (List Text → Result) → Option Result := fun tool =>
    match longOption? arguments with
    | some option =>
      if option.isOneOf ["--version"] && (version || !name.isOneOf ["tr"]) then some {}
      else some (refuseOption name option)
    | none => some (tool arguments)
  if name = "true".toList then some {}
  else if name = "false".toList then some { status := 1 }
  else if name = "echo".toList then some (if version then {} else echo false true arguments)
  else if name = "printf".toList then some (if version then {} else printf arguments)
  else if name = "cat".toList then guarded fun arguments => cat arguments input
  else if name = "wc".toList then guarded fun arguments => wc arguments input
  else if name = "tr".toList then guarded fun arguments => tr arguments input
  else if name = "head".toList then guarded fun arguments => head arguments input
  else if name = "sleep".toList then
    guarded fun arguments =>
      match arguments.mapM milliseconds? with
      | some (time :: times) => { elapsed := times.foldl Nat.add time }
      | _ => { status := 1 }
  else if name = "test".toList then some (test arguments)
  else none

end Companion.Tool
