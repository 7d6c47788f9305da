import Joinery.Arithmetic

/-!
# Rounding to places

A number is rounded to a whole number of units, where a unit is a power of ten. Halves are rounded
up, for negative numbers too.
-/
namespace Joinery

/-- Which of the neighbouring whole numbers is taken. -/
inductive Rounding where
  | nearest | floor | ceil | trunc
  deriving DecidableEq, Repr

namespace Rounding

def label : Rounding → String
  | .nearest => "round"
  | .floor => "floor"
  | .ceil => "ceil"
  | .trunc => "trunc"

/-- The way of rounding that a word names; other words name the nearest. -/
def ofLabel : String → Rounding
  | "floor" => .floor
  | "ceil" => .ceil
  | "trunc" => .trunc
  | _ => .nearest

/-- The whole number that is taken for a number. -/
def whole {α : Type} [Arithmetic α] (mode : Rounding) (x : α) : Except Misuse Int :=
  match mode with
  | .nearest => do Arithmetic.floor (← Arithmetic.add x (Arithmetic.decimal 5 1))
  | .floor => Arithmetic.floor x
  | .ceil => Arithmetic.ceil x
  | .trunc => Arithmetic.trunc x

/-- Rounds to multiples of `1 / scale`. -/
def apply {α : Type} [Arithmetic α] (mode : Rounding) (scale x : α) : Except Misuse α := do
  let n ← mode.whole (← Arithmetic.mul x scale)
  Arithmetic.div (Arithmetic.ofInt n) scale

end Rounding

end Joinery
