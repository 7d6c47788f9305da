/-!
# Double precision numbers

Every finite double is a whole number of *units* of `2 ^ -1074` with at most 53 significant bits,
so a finite value is kept as its sign and its number of units. Arithmetic computes the exact result
as a quotient of natural numbers and rounds it once, to nearest with ties to even, by
`Binary64.ofQuotient`. Zero keeps its sign; NaN carries no payload.
-/
namespace Joinery

-- Powers with a natural exponent are the core library's, whatever else a module imports.
attribute [instance (high), default_instance (high + 1)] instPowNat

/-- The whole number nearest to `num / den`; a tie goes to the even neighbour. -/
def roundDiv (num den : Nat) : Nat :=
  let quotient := num / den
  let twice := 2 * (num % den)
  if twice < den then quotient
  else if den < twice then quotient + 1
  else quotient + quotient % 2

theorem roundDiv_le (num den : Nat) : roundDiv num den ≤ num / den + 1 := by
  unfold roundDiv
  have := Nat.mod_lt (num / den) (Nat.zero_lt_two)
  simp only
  split
  · omega
  · split <;> omega

/-- The number of units has at most 53 significant bits and lies in a binade that doubles have. -/
def Fits (units : Nat) : Prop := 2 ^ (units.log2 - 52) ∣ units ∧ units.log2 < 2098

instance (units : Nat) : Decidable (Fits units) := inferInstanceAs (Decidable (_ ∧ _))

/-- The multiple of the last kept binary place nearest to `num / den` units. -/
def nearestUnits (num den : Nat) : Nat :=
  let place := 2 ^ ((num / den).log2 - 52)
  roundDiv num (den * place) * place

theorem roundDiv_place_le (num den : Nat) :
    roundDiv num (den * 2 ^ ((num / den).log2 - 52)) ≤ 2 ^ 53 := by
  have h := roundDiv_le num (den * 2 ^ ((num / den).log2 - 52))
  have hlt : num / den < 2 ^ ((num / den).log2 + 1) := Nat.lt_log2_self
  have hpow : 2 ^ ((num / den).log2 + 1) ≤ 2 ^ 53 * 2 ^ ((num / den).log2 - 52) := by
    rw [← Nat.pow_add]
    exact Nat.pow_le_pow_right (by decide) (by omega)
  have hq : num / den / 2 ^ ((num / den).log2 - 52) < 2 ^ 53 := by
    rw [Nat.div_lt_iff_lt_mul (Nat.pow_pos (by decide))]
    omega
  rw [← Nat.div_div_eq_div_mul] at h
  omega

/-- Rounding leaves at most 53 significant bits. -/
theorem dvd_nearestUnits (num den : Nat) :
    2 ^ ((nearestUnits num den).log2 - 52) ∣ nearestUnits num den := by
  have hle := roundDiv_place_le num den
  unfold nearestUnits
  simp only
  generalize hk : (num / den).log2 - 52 = k at *
  generalize roundDiv num (den * 2 ^ k) = m at *
  by_cases hm : m = 0
  · simp [hm]
  by_cases hfull : m = 2 ^ 53
  · rw [hfull, ← Nat.pow_add, Nat.log2_two_pow]
    exact Nat.pow_dvd_pow 2 (by omega)
  · have hlt : m < 2 ^ 53 := by omega
    have hbits : (m * 2 ^ k).log2 < 53 + k := by
      refine (Nat.log2_lt (Nat.mul_ne_zero hm (Nat.pos_iff_ne_zero.1 (Nat.pow_pos (by decide))))).2 ?_
      rw [Nat.pow_add]
      exact Nat.mul_lt_mul_of_pos_right hlt (Nat.pow_pos (by decide))
    exact Nat.dvd_trans (Nat.pow_dvd_pow 2 (by omega)) (Nat.dvd_mul_left _ _)

/-- A double precision number. -/
inductive Binary64 where
  | nan
  | infinite (negative : Bool)
  | finite (negative : Bool) (units : Nat) (fits : Fits units)
  deriving DecidableEq

namespace Binary64

/-- Units in one. -/
def one : Nat := 1 <<< 1074

/-- The double nearest to `num / den` units, with the given sign. -/
def ofQuotient (negative : Bool) (num den : Nat) : Binary64 :=
  if h : (nearestUnits num den).log2 < 2098 then
    .finite negative (nearestUnits num den) ⟨dvd_nearestUnits num den, h⟩
  else
    .infinite negative

/-- Zero of the given sign. -/
def zero (negative : Bool) : Binary64 := .finite negative 0 (by decide)

instance : Inhabited Binary64 := ⟨zero false⟩

/-- The double nearest to an integer; infinite when the integer is too large. -/
def ofInt (i : Int) : Binary64 := ofQuotient (decide (i < 0)) (i.natAbs * one) 1

instance (n : Nat) : OfNat Binary64 n := ⟨ofInt n⟩

/-- The double nearest to `digits * 10 ^ exponent`. -/
def ofDecimal (negative : Bool) (digits : Nat) (exponent : Int) : Binary64 :=
  ofQuotient negative (digits * 10 ^ exponent.toNat * one) (10 ^ (-exponent).toNat)

instance : OfScientific Binary64 :=
  ⟨fun digits down places => ofDecimal false digits (if down then -places else places)⟩

/-- The signed number of units of a finite value; zero for the others. -/
def signedUnits : Binary64 → Int
  | .finite negative units _ => if negative then -units else units
  | _ => 0

/-- Whether the sign bit is set; NaN counts as positive. -/
def isNegative : Binary64 → Bool
  | .nan => false
  | .infinite negative => negative
  | .finite negative _ _ => negative

def isNaN : Binary64 → Bool
  | .nan => true
  | _ => false

def isInfinite : Binary64 → Bool
  | .infinite _ => true
  | _ => false

def isFinite : Binary64 → Bool
  | .finite .. => true
  | _ => false

protected def neg : Binary64 → Binary64
  | .nan => .nan
  | .infinite negative => .infinite !negative
  | .finite negative units fits => .finite (!negative) units fits

/-- The value without its sign. -/
def abs : Binary64 → Binary64
  | .nan => .nan
  | .infinite _ => .infinite false
  | .finite _ units fits => .finite false units fits

/-- The sum; an exact zero is positive unless both operands are negative. -/
protected def add : Binary64 → Binary64 → Binary64
  | .nan, _ => .nan
  | _, .nan => .nan
  | .infinite a, .infinite b => if a = b then .infinite a else .nan
  | .infinite a, .finite .. => .infinite a
  | .finite .., .infinite b => .infinite b
  | .finite a m hm, .finite b n hn =>
    let sum := (finite a m hm).signedUnits + (finite b n hn).signedUnits
    if sum = 0 then zero (a && b) else ofQuotient (decide (sum < 0)) sum.natAbs 1

protected def sub (x y : Binary64) : Binary64 := x.add y.neg

protected def mul : Binary64 → Binary64 → Binary64
  | .nan, _ => .nan
  | _, .nan => .nan
  | .infinite a, .infinite b => .infinite (a ^^ b)
  | .infinite a, .finite b n _ => if n = 0 then .nan else .infinite (a ^^ b)
  | .finite a m _, .infinite b => if m = 0 then .nan else .infinite (a ^^ b)
  | .finite a m _, .finite b n _ => ofQuotient (a ^^ b) (m * n) one

protected def div : Binary64 → Binary64 → Binary64
  | .nan, _ => .nan
  | _, .nan => .nan
  | .infinite _, .infinite _ => .nan
  | .infinite a, .finite b _ _ => .infinite (a ^^ b)
  | .finite a _ _, .infinite b => zero (a ^^ b)
  | .finite a m _, .finite b n _ =>
    if n = 0 then if m = 0 then .nan else .infinite (a ^^ b)
    else ofQuotient (a ^^ b) (m * one) n

instance : Neg Binary64 := ⟨Binary64.neg⟩
instance : Add Binary64 := ⟨Binary64.add⟩
instance : Sub Binary64 := ⟨Binary64.sub⟩
instance : Mul Binary64 := ⟨Binary64.mul⟩
instance : Div Binary64 := ⟨Binary64.div⟩

/-- Strictly below; never with NaN. -/
def lt : Binary64 → Binary64 → Bool
  | .nan, _ => false
  | _, .nan => false
  | .infinite a, .infinite b => a && !b
  | .infinite a, .finite .. => a
  | .finite .., .infinite b => !b
  | .finite a m hm, .finite b n hn => decide ((finite a m hm).signedUnits < (finite b n hn).signedUnits)

/-- At most; never with NaN. -/
def le : Binary64 → Binary64 → Bool
  | .nan, _ => false
  | _, .nan => false
  | .infinite a, .infinite b => a || !b
  | .infinite a, .finite .. => a
  | .finite .., .infinite b => !b
  | .finite a m hm, .finite b n hn => decide ((finite a m hm).signedUnits ≤ (finite b n hn).signedUnits)

/-- Equal as numbers: the zeros are equal, NaN equals nothing. -/
def equals : Binary64 → Binary64 → Bool
  | .infinite a, .infinite b => a == b
  | .finite a m hm, .finite b n hn => (finite a m hm).signedUnits == (finite b n hn).signedUnits
  | _, _ => false

/-- Greatest whole number that is not above a finite value. -/
def floor? : Binary64 → Option Int
  | x@(.finite ..) => some (x.signedUnits.fdiv one)
  | _ => none

/-- Least whole number that is not below a finite value. -/
def ceil? : Binary64 → Option Int
  | x@(.finite ..) => some (-((-x.signedUnits).fdiv one))
  | _ => none

/-- Whole part of a finite value, towards zero. -/
def trunc? : Binary64 → Option Int
  | x@(.finite ..) => some (x.signedUnits.tdiv one)
  | _ => none

/-- Whole number nearest to a finite value; a tie goes to the even neighbour. -/
def round? : Binary64 → Option Int
  | .finite negative units _ =>
    let whole : Int := roundDiv units one
    some (if negative then -whole else whole)
  | _ => none

/-- Whether a finite value is whole. -/
def isWhole : Binary64 → Bool
  | .finite _ units _ => units % one == 0
  | _ => false

/-- Integer square root: the greatest `r` with `r * r ≤ n`, by Newton's method from above. -/
def isqrtFrom (n : Nat) : Nat → Nat → Nat
  | 0, guess => guess
  | fuel + 1, guess =>
    let next := (guess + n / guess) / 2
    if next < guess then isqrtFrom n fuel next else guess

/-- Greatest `r` with `r * r ≤ n`. -/
def isqrt (n : Nat) : Nat :=
  if n = 0 then 0 else isqrtFrom n (n.log2 + 2) (2 ^ (n.log2 / 2 + 1))

/-- The double nearest to the square root of `n` squared units: `2 * sqrt n` is cut to a whole
number of half units and the half step above it stands for what was cut off. -/
def ofSquare (n : Nat) : Binary64 :=
  let root := isqrt (4 * n)
  if root * root = 4 * n then ofQuotient false root 2 else ofQuotient false (2 * root + 1) 4

/-- The correctly rounded square root; NaN for negative numbers, and zero keeps its sign. -/
def sqrt : Binary64 → Binary64
  | .nan => .nan
  | .infinite negative => if negative then .nan else .infinite false
  | .finite negative units fits =>
    if units = 0 then .finite negative units fits
    else if negative then .nan
    else ofSquare (units * one)

/-- The correctly rounded length of the vector; infinite as soon as one side is, even beside NaN. -/
def hypot : Binary64 → Binary64 → Binary64
  | .infinite _, _ => .infinite false
  | _, .infinite _ => .infinite false
  | .nan, _ => .nan
  | _, .nan => .nan
  | .finite _ m _, .finite _ n _ => ofSquare (m * m + n * n)

end Binary64

end Joinery
