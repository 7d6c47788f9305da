import Joinery.Number.Binary64

/-!
# Powers of ten

Ten to the power of a double. The exponent is split into its whole part and a fraction; the power of
the fraction is built from square roots, one for each binary digit, in fixed point with far more
digits than a double has, and the product is rounded once.
-/
namespace Joinery.Binary64

/-- `10 ^ (part / 2 ^ places)` in steps of `2 ^ -200`. The first binary digit `b` of the exponent
and the fraction `e` behind it give `10 ^ ((b + e) / 2)`, the square root of `10 ^ b * 10 ^ e`. -/
def tenPowFraction : (places part : Nat) → Nat
  | 0, _ => 2 ^ 200
  | places + 1, part =>
    let tail := tenPowFraction places (part % 2 ^ places)
    isqrt ((if part / 2 ^ places = 0 then 1 else 10) * tail * 2 ^ 200)

/-- Ten to the power of a double; infinite when it is too large. -/
def tenPow : Binary64 → Binary64
  | .nan => .nan
  | .infinite negative => if negative then zero false else .infinite false
  | x@(.finite ..) =>
    let whole := x.signedUnits.fdiv one
    if 400 < whole then .infinite false
    else if whole < -400 then zero false
    else
      let part := (x.signedUnits.fmod one).toNat / 2 ^ (1074 - 160)
      ofQuotient false (tenPowFraction 160 part * 10 ^ whole.toNat * one)
        (2 ^ 200 * 10 ^ (-whole).toNat)

end Joinery.Binary64
