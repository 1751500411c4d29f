/-!
# Text

A text is the list of its characters, so every function of the library on source code, paths and
messages is a recursion on that list. String literals are read as texts.
-/

set_option autoImplicit false

namespace Companion

/-- A text, character by character. -/
abbrev Text := List Char

instance : Coe String Text := ⟨String.toList⟩

namespace Text

def ofNat (number : Nat) : Text := (toString number).toList

def startsWith (text lead : Text) : Bool := lead.isPrefixOf text

def endsWith (text ending : Text) : Bool := ending.isSuffixOf text

def isOneOf (text : Text) (others : List String) : Bool :=
  others.any fun other => text = other.toList

def hasPart (part : Text) : Text → Bool
  | [] => part.isEmpty
  | c :: rest => part.isPrefixOf (c :: rest) || hasPart part rest

/-- The pieces between occurrences of a separator; a text without it is one piece. -/
def splitOn (separator : Char) : Text → List Text
  | [] => [[]]
  | c :: rest =>
    match splitOn separator rest with
    | [] => [[c]]
    | piece :: pieces =>
      if c = separator then [] :: piece :: pieces else (c :: piece) :: pieces

/-- The pieces put together with a separator between neighbours. -/
def join (separator : Text) : List Text → Text
  | [] => []
  | [piece] => piece
  | piece :: next :: pieces => piece ++ separator ++ join separator (next :: pieces)

/-- Replacement that still has to drop `skipped` characters of the last occurrence found. -/
def replaceFrom (old new : Text) : Nat → Text → Text
  | _, [] => []
  | skipped + 1, _ :: rest => replaceFrom old new skipped rest
  | 0, c :: rest =>
    if old.isPrefixOf (c :: rest) then new ++ replaceFrom old new (old.length - 1) rest
    else c :: replaceFrom old new 0 rest

/-- A text with `new` before each of its characters and at its end. -/
def interleave (new : Text) : Text → Text
  | [] => new
  | c :: rest => new ++ c :: interleave new rest

/-- Replaces every occurrence of `old`, found from left to right without overlaps. The empty text
occurs once before each character and once at the end. -/
def replaceAll (old new text : Text) : Text :=
  if old.isEmpty then interleave new text else replaceFrom old new 0 text

def count (wanted : Char) : Text → Nat
  | [] => 0
  | c :: rest => (if c = wanted then 1 else 0) + count wanted rest

/-- Order by code point, a proper opening part first. -/
def precedes : Text → Text → Bool
  | [], [] => false
  | [], _ :: _ => true
  | _ :: _, [] => false
  | c :: left, d :: right =>
    if c.toNat < d.toNat then true
    else if d.toNat < c.toNat then false
    else precedes left right

/-- Adds a text to an ascending list of distinct texts. -/
def insertSorted (text : Text) : List Text → List Text
  | [] => [text]
  | other :: rest =>
    if text = other then other :: rest
    else if precedes text other then text :: other :: rest
    else other :: insertSorted text rest

def sortedDistinct (texts : List Text) : List Text := texts.foldr insertSorted []

/-- The members of a list without later repetitions. -/
def distinct : List Text → List Text
  | [] => []
  | text :: rest => text :: (distinct rest).filter (· ≠ text)

/-- The part between the first character and the last one. -/
def inner (text : Text) : Text := (text.drop 1).dropLast

@[simp] theorem splitOn_nil (separator : Char) : splitOn separator [] = [[]] := rfl

theorem splitOn_ne_nil (separator : Char) (text : Text) : splitOn separator text ≠ [] := by
  cases text with
  | nil => simp
  | cons c rest =>
    unfold splitOn
    split <;> (try split) <;> simp

@[simp] theorem join_nil (separator : Text) : join separator [] = [] := rfl

@[simp] theorem join_singleton (separator piece : Text) : join separator [piece] = piece := rfl

@[simp] theorem join_cons_cons (separator piece next : Text) (pieces : List Text) :
    join separator (piece :: next :: pieces) =
      piece ++ separator ++ join separator (next :: pieces) := rfl

/-- Splitting loses nothing: the pieces put together again are the text. -/
theorem join_splitOn (separator : Char) (text : Text) :
    join [separator] (splitOn separator text) = text := by
  induction text with
  | nil => rfl
  | cons c rest ih =>
    unfold splitOn
    split
    · next pieces => exact absurd pieces (splitOn_ne_nil separator rest)
    · next piece pieces found =>
      rw [found] at ih
      split
      · next same => subst same; simp [ih]
      · cases pieces with
        | nil => simpa using ih
        | cons next pieces => simpa using ih

/-- No piece holds the separator. -/
theorem not_mem_of_mem_splitOn {separator : Char} {text piece : Text}
    (member : piece ∈ splitOn separator text) : separator ∉ piece := by
  induction text generalizing piece with
  | nil => simp_all
  | cons c rest ih =>
    unfold splitOn at member
    split at member
    · next pieces => exact absurd pieces (splitOn_ne_nil separator rest)
    · next head pieces found =>
      rw [found] at ih
      split at member
      · rcases List.mem_cons.mp member with rfl | member
        · simp
        · exact ih member
      · next differs =>
        rcases List.mem_cons.mp member with rfl | member
        · have := @ih head (by simp)
          simp [this, Ne.symm differs]
        · exact ih (by simp [member])

end Text

end Companion
