import Companion.Text.Basic

/-!
# Binary floating point

Numbers of 64 bits, kept as integers: a finite one is a mantissa of at most 53 bits times a power of
two. A decimal is read as the nearest such number, ties going to the even mantissa, and a number is
written with the fewest digits that are read back as it. All arithmetic is exact.
-/

set_option autoImplicit false

namespace Companion

/-- A number of 64 bits; the finite one with mantissa `m` and exponent `e` is `m · 2 ^ e`. -/
inductive Binary64 where
  | finite (negative : Bool) (mantissa : Nat) (exponent : Int)
  | infinite (negative : Bool)
  | nan
deriving DecidableEq, Repr

namespace Binary64

structure Quotient where
  numerator : Nat
  denominator : Nat

/-- The least mantissa that is not subnormal; every mantissa is below its double. -/
def leastMantissa : Nat := Nat.pow 2 52

/-- `factor · base ^ exponent`. -/
def Quotient.scaled (factor base : Nat) (exponent : Int) : Quotient :=
  if 0 ≤ exponent then ⟨factor * Nat.pow base exponent.toNat, 1⟩
  else ⟨factor, Nat.pow base (-exponent).toNat⟩

/-- The quotient divided by `base ^ exponent`. -/
def Quotient.over (quotient : Quotient) (base : Nat) (exponent : Int) : Quotient :=
  if 0 ≤ exponent then
    ⟨quotient.numerator, quotient.denominator * Nat.pow base exponent.toNat⟩
  else ⟨quotient.numerator * Nat.pow base (-exponent).toNat, quotient.denominator⟩

def Quotient.le (left right : Quotient) : Bool :=
  left.numerator * right.denominator ≤ right.numerator * left.denominator

def Quotient.floor (quotient : Quotient) : Nat := quotient.numerator / quotient.denominator

/-- The nearest natural number, the even one of two. -/
def Quotient.round (quotient : Quotient) : Nat :=
  let whole := quotient.floor
  let twice := 2 * (quotient.numerator % quotient.denominator)
  if twice < quotient.denominator then whole
  else if quotient.denominator < twice then whole + 1
  else whole + whole % 2

def leastExponent : Int := -1074

def greatestExponent : Int := 971

/-- The exponent with which a quotient has a mantissa of 53 bits, or the least one. -/
def exponentFor (quotient : Quotient) : Int :=
  let guess : Int := (quotient.numerator.log2 : Int) - (quotient.denominator.log2 : Int) - 52
  let fits := (quotient.over 2 guess).floor
  let exponent :=
    if fits < leastMantissa then guess - 1
    else if 2 * leastMantissa ≤ fits then guess + 1
    else guess
  if exponent < leastExponent then leastExponent else exponent

/-- The number nearest to a positive quotient, with a sign. -/
def ofQuotient (negative : Bool) (quotient : Quotient) : Binary64 :=
  let exponent := exponentFor quotient
  let mantissa := (quotient.over 2 exponent).round
  let (mantissa, exponent) :=
    if mantissa = 2 * leastMantissa then (leastMantissa, exponent + 1) else (mantissa, exponent)
  if greatestExponent < exponent then .infinite negative
  else if mantissa = 0 then .finite negative 0 0
  else .finite negative mantissa exponent

/-- The number nearest to `digits · 10 ^ exponent`, with a sign. -/
def ofDecimal (negative : Bool) (digits : Nat) (exponent : Int) : Binary64 :=
  let size : Int := (Text.ofNat digits).length + exponent
  if digits = 0 || size < -400 then .finite negative 0 0
  else if 400 < size then .infinite negative
  else ofQuotient negative (Quotient.scaled digits 10 exponent)

def isZero : Binary64 → Bool
  | finite _ mantissa _ => mantissa = 0
  | _ => false

/-- The quotients between which all decimals are read as the number. -/
def interval (mantissa : Nat) (exponent : Int) : Quotient × Quotient :=
  let low :=
    if mantissa = leastMantissa && leastExponent < exponent then
      Quotient.scaled (4 * mantissa - 1) 2 (exponent - 2)
    else Quotient.scaled (2 * mantissa - 1) 2 (exponent - 1)
  (low, Quotient.scaled (2 * mantissa + 1) 2 (exponent - 1))

/-- Whether `digits · 10 ^ exponent` is read as the number `mantissa · 2 ^ scale`. -/
def readsAs (mantissa : Nat) (scale : Int) (digits : Nat) (exponent : Int) : Bool :=
  let (low, high) := interval mantissa scale
  let decimal := Quotient.scaled digits 10 exponent
  if mantissa % 2 = 0 then low.le decimal && decimal.le high
  else !decimal.le low && !high.le decimal

/-- The number of digits in front of the point of a positive quotient; less by one for every zero
behind the point of a quotient below one tenth. -/
def pointPosition (quotient : Quotient) : Int :=
  if quotient.denominator ≤ quotient.numerator then (Text.ofNat quotient.floor).length
  else
    let inverse : Quotient := ⟨quotient.denominator, quotient.numerator⟩
    1 - ((Text.ofNat inverse.floor).length : Int)

/-- The nearest of the decimals with a power of ten as unit that are read as the number. -/
def onGrid? (mantissa : Nat) (scale exponent : Int) : Option Nat :=
  let grid := (Quotient.scaled mantissa 2 scale).over 10 exponent
  let below := grid.floor
  let nearest := grid.round
  let other := if nearest = below then below + 1 else below
  [nearest, other].find? fun digits => readsAs mantissa scale digits exponent

/-- The decimal with the fewest digits that is read as a positive number: digits and exponent. At
most `fuel` digits are tried, `count` of them first. -/
def shortestFrom (mantissa : Nat) (scale point : Int) : Nat → Nat → Nat × Int
  | 0, count => ((onGrid? mantissa scale (point - count)).getD 0, point - count)
  | fuel + 1, count =>
    match onGrid? mantissa scale (point - count) with
    | some digits => (digits, point - count)
    | none => shortestFrom mantissa scale point fuel (count + 1)

/-- The digits of a number without zeros at its end. -/
def significant (digits : Nat) : Text :=
  ((Text.ofNat digits).reverse.dropWhile (· = '0')).reverse

/-- An exponent with a sign and at least two digits. -/
def exponentText (exponent : Int) : Text :=
  let digits := Text.ofNat exponent.natAbs
  (if exponent < 0 then '-' else '+') :: (if digits.length < 2 then '0' :: digits else digits)

/-- Digits with the point behind `point` of them: positional if the point is within sixteen digits
and not more than four places before them, with an exponent otherwise. -/
def layOut (digits : Text) (point : Int) : Text :=
  if -4 < point && point ≤ 16 then
    if point ≤ 0 then "0." ++ List.replicate (-point).toNat '0' ++ digits
    else
      let whole := digits.take point.toNat
      let fraction := digits.drop point.toNat
      whole ++ List.replicate (point.toNat - digits.length) '0' ++ "." ++
        (if fraction.isEmpty then ['0'] else fraction)
  else
    match digits with
    | [] => []
    | first :: rest =>
      (first :: if rest.isEmpty then [] else '.' :: rest) ++ 'e' :: exponentText (point - 1)

def render : Binary64 → Text
  | nan => "nan"
  | infinite negative => if negative then "-inf" else "inf"
  | finite negative mantissa exponent =>
    let sign : Text := if negative then ['-'] else []
    if mantissa = 0 then sign ++ "0.0"
    else
      let point := pointPosition (Quotient.scaled mantissa 2 exponent)
      let (digits, unit) := shortestFrom mantissa exponent point 17 1
      sign ++ layOut (significant digits) ((Text.ofNat digits).length + unit)

end Binary64

end Companion
