import Companion.Pattern.Syntax
import Companion.Text.Blank
import Companion.Text.LowerCase
import Companion.Text.Word

/-!
# Searching with patterns

A pattern denotes, at each place of a text, the places at which a match may end. Whether a text has
a match anywhere does not depend on the order in which the ways to match are tried.
-/

set_option autoImplicit false

namespace Companion.Pattern

/-- A place in a text: the character before it, if any, and the text behind it. -/
structure Place where
  before : Option Char
  rest : Text
deriving DecidableEq

def SetItem.holds (c : Char) : SetItem → Bool
  | .char d => c = d
  | .range low high => low.toNat ≤ c.toNat && c.toNat ≤ high.toNat
  | .word negated => isWordChar c != negated
  | .digit negated => isDecimalDigit c != negated
  | .blank negated => isBlank c != negated

/-- Whether a set member matches a character when case is ignored: a range does if it holds a
character that differs in case only, a class of characters if it holds the lower-case form. -/
def SetItem.holdsIgnoringCase (c : Char) : SetItem → Bool
  | .char d => foldCase c = foldCase d
  | .range low high =>
    (List.range (high.toNat + 1 - low.toNat)).any fun distance =>
      foldCase (Char.ofNat (low.toNat + distance)) = foldCase c
  | item => item.holds (lowerCase c)

/-- Behind the next character, if it passes a test. -/
def Place.step (place : Place) (accepts : Char → Bool) : List Place :=
  match place.rest with
  | [] => []
  | c :: rest => if accepts c then [⟨some c, rest⟩] else []

/-- The given place if a condition holds. -/
def Place.only (place : Place) (condition : Bool) : List Place :=
  if condition then [place] else []

/-- Whether a word character stands on exactly one side of the place. -/
def Place.isBoundary (place : Place) : Bool :=
  (place.before.any isWordChar) != (place.rest.head?.any isWordChar)

def distinctPlaces (places : List Place) : List Place :=
  places.foldr (fun place found => if found.contains place then found else place :: found) []

/-- Places reached by further repetitions: `frontier` has been reached by `done` of them, and at
most `fuel` more are tried. -/
def repeatFrom (step : Place → List Place) (least : Nat) (greatest : Option Nat) :
    Nat → Nat → List Place → List Place
  | 0, done, frontier => if least ≤ done then frontier else []
  | fuel + 1, done, frontier =>
    let here := if least ≤ done then frontier else []
    if frontier.isEmpty || greatest = some done then here
    else
      here ++ repeatFrom step least greatest fuel (done + 1)
        (distinctPlaces (frontier.flatMap step))

/-- The places at which a match that starts at a place may end. -/
def ends : Pattern → Place → List Place
  | .empty, place => [place]
  | .char ignoreCase c, place =>
    place.step fun d => if ignoreCase then foldCase d = foldCase c else d = c
  | .any lineFeeds, place => place.step fun d => lineFeeds || d ≠ '\n'
  | .set ignoreCase negated items, place =>
    place.step fun d =>
      (items.any fun item =>
        if ignoreCase then item.holdsIgnoringCase d else item.holds d) != negated
  | .start lines, place =>
    place.only (place.before.isNone || (lines && place.before = some '\n'))
  | .finish lines, place =>
    place.only (place.rest.isEmpty || place.rest = ['\n'] ||
      (lines && place.rest.head? = some '\n'))
  | .textStart, place => place.only place.before.isNone
  | .textEnd, place => place.only place.rest.isEmpty
  | .boundary negated, place => place.only (place.isBoundary != negated)
  | .sequence first second, place => (ends first place).flatMap (ends second)
  | .alternative first second, place => ends first place ++ ends second place
  | .repetition item least greatest, place =>
    distinctPlaces
      (repeatFrom (ends item) least greatest (least + place.rest.length + 1) 0 [place])
  | .group item, place => ends item place
  | .lookahead negated item, place => place.only ((ends item place).isEmpty == negated)

/-- Whether the pattern matches somewhere in the rest of a text behind `before`. -/
def searchFrom (pattern : Pattern) (before : Option Char) : Text → Bool
  | [] => !(pattern.ends ⟨before, []⟩).isEmpty
  | c :: rest =>
    !(pattern.ends ⟨before, c :: rest⟩).isEmpty || searchFrom pattern (some c) rest

def search (pattern : Pattern) (text : Text) : Bool := searchFrom pattern none text

end Companion.Pattern
