import Joinery.Misuse
import Joinery.Number.Binary64

/-!
# Numbers

A number is an integer of any size or a double, and keeps its kind: sums, differences and products
of integers are integers, a division gives a double, and a double makes the result a double. An
integer that no double comes near fails where a double is needed. Comparisons are exact.
-/
namespace Joinery

inductive Number where
  | int (value : Int)
  | float (value : Binary64)
  deriving DecidableEq

namespace Number

/-- A rounded result, which must not have become infinite. -/
def inRange : Binary64 → Except Misuse Binary64
  | .infinite _ => .error .outOfRange
  | x => .ok x

/-- The nearest double; fails for an integer beyond all doubles. -/
def toDouble : Number → Except Misuse Binary64
  | .float x => .ok x
  | .int i => inRange (Binary64.ofInt i)

/-- Applies an operation on integers or, after conversion, one on doubles. -/
def combine (onInts : Int → Int → Int) (onDoubles : Binary64 → Binary64 → Binary64) :
    Number → Number → Except Misuse Number
  | .int a, .int b => .ok (.int (onInts a b))
  | x, y => do
    let a ← x.toDouble
    let b ← y.toDouble
    return .float (onDoubles a b)

protected def add : Number → Number → Except Misuse Number := combine (· + ·) (· + ·)
protected def sub : Number → Number → Except Misuse Number := combine (· - ·) (· - ·)
protected def mul : Number → Number → Except Misuse Number := combine (· * ·) (· * ·)

protected def neg : Number → Number
  | .int i => .int (-i)
  | .float x => .float (-x)

/-- The quotient as a double. Of two integers it is the double nearest to the exact quotient, which
fails when it is too large; the sign of a zero quotient is that of the operands. -/
protected def div : Number → Number → Except Misuse Number
  | .int a, .int b =>
    if b = 0 then .error .zeroDivisor
    else do
      let quotient :=
        Binary64.ofQuotient (decide (a < 0) ^^ decide (b < 0)) (a.natAbs * Binary64.one) b.natAbs
      return .float (← inRange quotient)
  | x, y => do
    let a ← x.toDouble
    let b ← y.toDouble
    if b.equals 0 then .error .zeroDivisor else return .float (a / b)

/-- Compares an integer with a double exactly: the integer's side of the comparison is given. -/
def compareInt (i : Int) : Binary64 → Option Ordering
  | .nan => none
  | .infinite negative => some (if negative then .gt else .lt)
  | x => some (compare (i * Binary64.one) x.signedUnits)

/-- Strictly below; never with NaN. -/
def lt : Number → Number → Bool
  | .int a, .int b => decide (a < b)
  | .float x, .float y => x.lt y
  | .int a, .float y => compareInt a y == some .lt
  | .float x, .int b => compareInt b x == some .gt

/-- At most; never with NaN. -/
def le : Number → Number → Bool
  | .int a, .int b => decide (a ≤ b)
  | .float x, .float y => x.le y
  | .int a, .float y => (compareInt a y).any (· != .gt)
  | .float x, .int b => (compareInt b x).any (· != .lt)

/-- Equal in value, across kinds; never with NaN. -/
def equals : Number → Number → Bool
  | .int a, .int b => a == b
  | .float x, .float y => x.equals y
  | .int a, .float y => compareInt a y == some .eq
  | .float x, .int b => compareInt b x == some .eq

/-- Equal in value, where NaN counts as equal to itself. -/
def same : Number → Number → Bool
  | .float .nan, .float .nan => true
  | a, b => a.equals b

/-- Whole part by a rule on doubles; NaN has none and neither have infinities. -/
def whole (rule : Binary64 → Option Int) : Number → Except Misuse Int
  | .int i => .ok i
  | .float .nan => .error .notWhole
  | .float x =>
    match rule x with
    | some i => .ok i
    | none => .error .outOfRange

def isNaN : Number → Bool
  | .int _ => false
  | .float x => x.isNaN

def isInfinite : Number → Bool
  | .int _ => false
  | .float x => x.isInfinite

end Number

end Joinery
