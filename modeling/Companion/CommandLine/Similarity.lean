import Companion.Text.Basic

/-!
# Similar texts

Two texts are similar if most of their characters lie in common parts: the longest common part, and
in turn those of what is left of it and right of it.
-/

set_option autoImplicit false

namespace Companion.Similarity

def commonStart : Text → Text → Nat
  | c :: left, d :: right => if c = d then 1 + commonStart left right else 0
  | _, _ => 0

/-- The longest common part: its position in both texts and its length. Of several the one that
starts first in the left text is taken, then in the right one. -/
def longestPart (left right : Text) : Nat × Nat × Nat :=
  let places := (List.range left.length).flatMap fun i =>
    (List.range right.length).map fun j => (i, j, commonStart (left.drop i) (right.drop j))
  places.foldl (fun best place => if best.2.2 < place.2.2 then place else best) (0, 0, 0)

/-- Number of characters in common parts. -/
def matching : Nat → Text → Text → Nat
  | 0, _, _ => 0
  | fuel + 1, left, right =>
    let (i, j, length) := longestPart left right
    if length = 0 then 0
    else
      length + matching fuel (left.take i) (right.take j) +
        matching fuel (left.drop (i + length)) (right.drop (j + length))

/-- Number of characters of `wanted` and `text` that lie in common parts, out of all of them. -/
def score (wanted text : Text) : Nat × Nat :=
  (2 * matching (text.length + wanted.length) text wanted, text.length + wanted.length)

/-- Puts a text behind those that are as similar or more, of two with equal scores the one that
comes later in the order of texts first. -/
def insertByScore (entry : (Nat × Nat) × Text) :
    List ((Nat × Nat) × Text) → List ((Nat × Nat) × Text)
  | [] => [entry]
  | other :: rest =>
    let mine := entry.1.1 * other.1.2
    let its := other.1.1 * entry.1.2
    if its < mine || (its = mine && Text.precedes other.2 entry.2) then entry :: other :: rest
    else other :: insertByScore entry rest

/-- The texts that are similar to a wanted one, at most three, in ascending order. -/
def similar (wanted : Text) (texts : List Text) : List Text :=
  let scored := texts.map fun text => (score wanted text, text)
  let close := scored.filter fun entry => 6 * entry.1.2 ≤ 10 * entry.1.1
  Text.sortedDistinct (((close.foldr insertByScore []).take 3).map (·.2))

end Companion.Similarity
