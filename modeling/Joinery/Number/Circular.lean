import Joinery.Number.Binary64

/-!
# Sine and cosine

The circular functions of a double, correctly rounded. A value is kept in fixed point, as a whole
number of steps of `2 ^ -bits`: the argument is reduced to an eighth of a turn with enough digits of
pi for its magnitude, the Taylor series is summed, and the result is rounded once both ends of its
error interval round to the same double. The first attempts use few bits; the last one uses enough
for every double.
-/
namespace Joinery.Circular

/-- Sum of the alternating series of `arctan (1 / n)`, in steps of the given scale. -/
def arctanInverseFrom (square : Nat) : Nat → Nat → Nat → Int
  | 0, _, _ => 0
  | fuel + 1, power, odd =>
    if power = 0 then 0
    else (power / odd : Nat) - arctanInverseFrom square fuel (power / square) (odd + 2)

/-- `arctan (1 / n)` in steps of `2 ^ -bits`, for `n` of at least two. -/
def arctanInverse (bits n : Nat) : Int :=
  arctanInverseFrom (n * n) (bits + 1) (2 ^ bits / n) 1

/-- Pi in steps of `2 ^ -bits`, by Machin's formula with guard bits. -/
def pi (bits : Nat) : Int :=
  (4 * (4 * arctanInverse (bits + 32) 5 - arctanInverse (bits + 32) 239)).fdiv (2 ^ 32)

/-- How many bits of pi are at hand. -/
def storedBits : Nat := 512

/-- Pi in steps of `2 ^ -512`. -/
def storedPi : Int := pi storedBits

/-- Pi in steps of `2 ^ -bits`, from the bits at hand where they suffice. -/
def piTo (bits : Nat) : Int :=
  if bits ≤ storedBits then storedPi.fdiv (2 ^ (storedBits - bits)) else pi bits

/-- Sum of `term - term * square / (k * (k + 1)) + …`, the tail common to both series. -/
def taylor (bits : Nat) (square : Int) : Nat → Int → Nat → Int
  | 0, _, _ => 0
  | fuel + 1, term, k =>
    if term = 0 then 0
    else
      term - taylor bits square fuel ((term * square).tdiv (2 ^ bits * ((k * (k + 1) : Nat) : Int))) (k + 2)

/-- Sine of a reduced argument. -/
def sineSeries (bits : Nat) (x : Int) : Int :=
  taylor bits (x * x / 2 ^ bits) (bits + 1) x 2

/-- Cosine of a reduced argument. -/
def cosineSeries (bits : Nat) (x : Int) : Int :=
  taylor bits (x * x / 2 ^ bits) (bits + 1) (2 ^ bits) 1

/-- Sine, or cosine, of a non-negative number of units, in steps of `2 ^ -bits`. -/
def approximate (cosine : Bool) (bits units : Nat) : Int :=
  let extra := units.log2 - 1074 + 8
  let wide := bits + extra
  let pi := piTo wide
  let x : Int := if 1074 ≤ wide then units <<< (wide - 1074) else units >>> (1074 - wide)
  let quarters := (4 * x + pi).fdiv (2 * pi)
  let rest := (x - (quarters * pi).fdiv 2).fdiv (2 ^ extra)
  match (quarters + if cosine then 1 else 0).fmod 4 with
  | 0 => sineSeries bits rest
  | 1 => cosineSeries bits rest
  | 2 => -sineSeries bits rest
  | _ => -cosineSeries bits rest

/-- The double nearest to a number of steps of `2 ^ -bits`. -/
def nearest (bits : Nat) (steps : Int) : Binary64 :=
  .ofQuotient (decide (steps < 0)) (steps.natAbs * Binary64.one) (2 ^ bits)

/-- Tries each precision in turn; the last one is taken as it is. -/
def settle (cosine : Bool) (units : Nat) : Nat → List Nat → Binary64
  | bits, [] => nearest bits (approximate cosine bits units)
  | bits, more :: rest =>
    let steps := approximate cosine bits units
    let slack : Int := 2 ^ 16
    let low := nearest bits (steps - slack)
    if low = nearest bits (steps + slack) then low else settle cosine units more rest

/-- Sine of a number of units, or cosine; the double nearest to the exact value. -/
def ofUnits (cosine : Bool) (units : Nat) : Binary64 :=
  if units.log2 < 1074 + 64 then settle cosine units 128 [256, 2600] else settle cosine units 2600 []

end Joinery.Circular

namespace Joinery.Binary64

/-- The correctly rounded sine of a finite angle in radians; none for an infinity. -/
def sin? : Binary64 → Option Binary64
  | .nan => some .nan
  | .infinite _ => none
  | .finite negative units fits =>
    if units = 0 then some (.finite negative units fits)
    else
      let value := Circular.ofUnits false units
      some (if negative then -value else value)

/-- The correctly rounded cosine of a finite angle in radians; none for an infinity. -/
def cos? : Binary64 → Option Binary64
  | .nan => some .nan
  | .infinite _ => none
  | .finite _ units _ => some (Circular.ofUnits true units)

end Joinery.Binary64
