import Joinery.Number.Binary64

/-!
# Decimal text of doubles

Three ways to write a double. `shortest` finds the fewest digits that read back as the same double,
and of those the nearest to it; `significant` rounds to a number of significant digits and `fixed`
to a number of places, both with ties to even on the exact value. How digits are laid out is data,
in `Layout`.
-/
namespace Joinery.Decimal

/-- A positive decimal number, `digits * 10 ^ exponent`. -/
structure Scaled where
  digits : Nat
  exponent : Int
  deriving DecidableEq, Repr

/-- Decimal digits of a number, at least one. -/
def digitsOf (n : Nat) : List Char := Nat.toDigits 10 n

/-- How many decimal digits a number has. -/
def digitCount (n : Nat) : Nat := (digitsOf n).length

/-- Removes zeros at the end of the digits, as far as the fuel goes. -/
def trimFrom : Nat → Nat → Int → Scaled
  | 0, digits, exponent => ⟨digits, exponent⟩
  | fuel + 1, digits, exponent =>
    if digits % 10 = 0 then trimFrom fuel (digits / 10) (exponent + 1) else ⟨digits, exponent⟩

/-- The same number without zeros at the end of its digits. -/
def Scaled.trim (s : Scaled) : Scaled :=
  if s.digits = 0 then ⟨0, 0⟩ else trimFrom (digitCount s.digits) s.digits s.exponent

/-- The decimal exponent of the first digit of `num / den`, up to one too small. -/
def leadingExponentGuess (num den : Nat) : Int :=
  ((num.log2 : Int) - den.log2 - 1) * 30103 / 100000

/-- Moves the guess up until the number is below the next power of ten. -/
def leadingExponentFrom (num den : Nat) : Nat → Int → Int
  | 0, e => e
  | fuel + 1, e =>
    if num * 10 ^ (-(e + 1)).toNat < den * 10 ^ (e + 1).toNat then e
    else leadingExponentFrom num den fuel (e + 1)

/-- The decimal exponent of the first digit of a positive quotient. -/
def leadingExponent (num den : Nat) : Int :=
  leadingExponentFrom num den 4 (leadingExponentGuess num den - 1)

/-- `num / den` counted in steps of `10 ^ exponent`, as a quotient. -/
def inSteps (num den : Nat) (exponent : Int) : Nat × Nat :=
  (num * 10 ^ (-exponent).toNat, den * 10 ^ exponent.toNat)

/-- The ends of the interval of numbers that round to a positive number of units, in half units. -/
def roundingInterval (units : Nat) : Nat × Nat :=
  let place := units.log2 - 52
  let below := if place ≠ 0 ∧ units = 2 ^ units.log2 then 2 ^ (place - 1) else 2 ^ place
  (2 * units - below, 2 * units + 2 ^ place)

/-- Whether `candidate * 10 ^ exponent` rounds to the number of units. Both ends belong to the
interval exactly when the last kept bit is even. -/
def readsBack (units candidate : Nat) (exponent : Int) : Bool :=
  let (low, high) := roundingInterval units
  let num := candidate * 10 ^ exponent.toNat * (2 * Binary64.one)
  let den := 10 ^ (-exponent).toNat
  if units / 2 ^ (units.log2 - 52) % 2 = 0 then low * den ≤ num && num ≤ high * den
  else low * den < num && num < high * den

/-- The number of units on the grid of `10 ^ exponent`: of its two neighbours that read back, the
nearer; the even one at a tie. -/
def onGrid? (units : Nat) (exponent : Int) : Option Nat :=
  let (num, den) := inSteps units Binary64.one exponent
  let below := num / den
  let nearer := roundDiv num den
  let other := if nearer = below then below + 1 else below
  if readsBack units nearer exponent then some nearer
  else if readsBack units other exponent then some other
  else none

/-- Tries ever finer grids, from one digit on. -/
def shortestFrom (units : Nat) : Nat → Int → Scaled
  | 0, exponent => ⟨roundDiv (inSteps units Binary64.one exponent).1
      (inSteps units Binary64.one exponent).2, exponent⟩
  | fuel + 1, exponent =>
    match onGrid? units exponent with
    | some digits => ⟨digits, exponent⟩
    | none => shortestFrom units fuel (exponent - 1)

/-- The fewest digits that read back as a positive number of units, the nearest of those. -/
def shortest (units : Nat) : Scaled :=
  (shortestFrom units 17 (leadingExponent units Binary64.one)).trim

/-- A positive number of units rounded to a number of significant digits. -/
def significant (count units : Nat) : Scaled :=
  let exponent := leadingExponent units Binary64.one - (count - 1 : Nat)
  let (num, den) := inSteps units Binary64.one exponent
  (⟨roundDiv num den, exponent⟩ : Scaled).trim

/-- How the digits of a number are laid out. -/
structure Layout where
  /-- Numbers are written with an exponent from this decimal exponent of the first digit on. -/
  exponentFrom : Int
  /-- Whole numbers end in `.0`. -/
  wholePoint : Bool

/-- Numbers are written with an exponent below this decimal exponent of the first digit. -/
def Layout.positionalFrom : Int := -4

/-- An exponent has a sign and at least two digits. -/
def exponentText (e : Int) : List Char :=
  let digits := digitsOf e.natAbs
  'e' :: (if e < 0 then '-' else '+') :: (if digits.length < 2 then '0' :: digits else digits)

/-- The text of a decimal number without zeros at its end. -/
def Layout.write (layout : Layout) (s : Scaled) : List Char :=
  let digits := digitsOf s.digits
  let first := s.exponent + digits.length - 1
  if first < Layout.positionalFrom || layout.exponentFrom ≤ first then
    let fraction := digits.drop 1
    digits.take 1 ++ (if fraction.isEmpty then [] else '.' :: fraction) ++ exponentText first
  else if 0 ≤ s.exponent then
    digits ++ List.replicate s.exponent.toNat '0' ++ (if layout.wholePoint then ['.', '0'] else [])
  else if first < 0 then
    '0' :: '.' :: List.replicate (-first - 1).toNat '0' ++ digits
  else
    digits.take (first + 1).toNat ++ '.' :: digits.drop (first + 1).toNat

/-- Puts the sign before a text. -/
def signed (negative : Bool) (text : List Char) : List Char :=
  if negative then '-' :: text else text

/-- Fixed places: the exact value rounded to whole steps of `10 ^ -places`. -/
def fixed (places units : Nat) : List Char :=
  let (num, den) := inSteps units Binary64.one (-places)
  let digits := digitsOf (roundDiv num den)
  let digits := List.replicate (places + 1 - digits.length) '0' ++ digits
  digits.take (digits.length - places) ++ '.' :: digits.drop (digits.length - places)

end Joinery.Decimal

namespace Joinery.Binary64

open Decimal

/-- Doubles stand in positional notation below `10 ^ 16`, and whole ones end in `.0`. -/
def exactLayout : Layout := ⟨16, true⟩

/-- Numbers in messages have six significant digits. -/
def briefLayout : Layout := ⟨6, false⟩

/-- Text of the values that no layout covers, and of finite ones by the given function. -/
def writeWith (finite : Nat → List Char) : Binary64 → String
  | .nan => "nan"
  | .infinite negative => String.ofList (signed negative "inf".toList)
  | .finite negative units _ => String.ofList (signed negative (finite units))

/-- The shortest text that reads back as the same double. -/
def text (x : Binary64) : String :=
  x.writeWith fun units => exactLayout.write (shortest units)

/-- The text with six significant digits. -/
def brief (x : Binary64) : String :=
  x.writeWith fun units => briefLayout.write (significant 6 units)

/-- The text with a fixed number of places. -/
def fixedText (places : Nat) (x : Binary64) : String :=
  x.writeWith (fixed places)

end Joinery.Binary64
