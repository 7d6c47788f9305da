import Joinery.Binding.Handler
import Joinery.Proofs.Fails
import Joinery.Proofs.Number.Exact
import Mathlib.Algebra.Order.Round
import Mathlib.Tactic.Linarith

/-!
# Rounding to places in exact arithmetic

A handler that rounds asks for a number of places, and the unit of the last place is ten to the
power of that number, negated. In exact arithmetic the result is a whole number of units. It is the
neighbour that the way of rounding asks for, so a multiple of the unit stays, and order is kept.
Below zero the places are those before the point, and nothing else changes.
-/
namespace Joinery

namespace Rounding

/-! ### Whole numbers -/

/-- The whole number that is taken for a real number. -/
noncomputable def wholeOf (mode : Rounding) (x : ℝ) : ℤ :=
  match mode with
  | .nearest => round x
  | .floor => ⌊x⌋
  | .ceil => ⌈x⌉
  | .trunc => if 0 ≤ x then ⌊x⌋ else ⌈x⌉

theorem whole_exact (mode : Rounding) (x : ℝ) : mode.whole x = .ok (mode.wholeOf x) := by
  cases mode with
  | nearest =>
    have half : (Arithmetic.decimal 5 1 : ℝ) = 1 / 2 := by
      rw [Arithmetic.decimal_exact]
      norm_num
    rw [whole, half, Arithmetic.add_exact, ok_bind, wholeOf, round_eq]
    rfl
  | floor | ceil | trunc => rfl

theorem wholeOf_intCast (mode : Rounding) (n : ℤ) : mode.wholeOf n = n := by
  cases mode with
  | nearest => exact round_intCast n
  | floor => exact Int.floor_intCast n
  | ceil => exact Int.ceil_intCast n
  | trunc => simp [wholeOf]

theorem wholeOf_mono (mode : Rounding) : Monotone mode.wholeOf := by
  intro x y le
  cases mode with
  | nearest =>
    dsimp only [wholeOf]
    rw [round_eq, round_eq]
    exact Int.floor_le_floor (by linarith)
  | floor => exact Int.floor_le_floor le
  | ceil => exact Int.ceil_le_ceil le
  | trunc =>
    by_cases right : 0 ≤ x
    · have right' : 0 ≤ y := right.trans le
      simpa [wholeOf, right, right'] using Int.floor_le_floor le
    · by_cases right' : 0 ≤ y
      · -- the one comes up to zero at most, and the other down to zero at most
        have low : ⌈x⌉ ≤ 0 := Int.ceil_le.2 (by simpa using (not_le.1 right).le)
        have high : 0 ≤ ⌊y⌋ := Int.floor_nonneg.2 right'
        simpa [wholeOf, right, right'] using low.trans high
      · simpa [wholeOf, right, right'] using Int.ceil_le_ceil le

/-! ### Neighbours -/

/-- At most a number, and less than a unit below it. -/
def IsLower (unit v r : ℝ) : Prop := r ≤ v ∧ v < r + unit

/-- At least a number, and less than a unit above it. -/
def IsUpper (unit v r : ℝ) : Prop := r - unit < v ∧ v ≤ r

/-- The neighbour of a number that a way of rounding asks for, where neighbours are a unit apart.
Halves go up, on both sides of zero. -/
def IsNeighbour (mode : Rounding) (unit v r : ℝ) : Prop :=
  match mode with
  | .nearest => -unit < 2 • (r - v) ∧ 2 • (r - v) ≤ unit
  | .floor => IsLower unit v r
  | .ceil => IsUpper unit v r
  | .trunc => (0 ≤ v → IsLower unit v r) ∧ (v ≤ 0 → IsUpper unit v r)

theorem isLower_floor (x : ℝ) : IsLower 1 x ⌊x⌋ := ⟨Int.floor_le x, Int.lt_floor_add_one x⟩

theorem isUpper_ceil (x : ℝ) : IsUpper 1 x ⌈x⌉ :=
  ⟨by linarith [Int.ceil_lt_add_one x], Int.le_ceil x⟩

theorem isNeighbour_wholeOf (mode : Rounding) (x : ℝ) : mode.IsNeighbour 1 x (mode.wholeOf x) := by
  cases mode with
  | nearest =>
    have low := Int.floor_le (x + 1 / 2)
    have high := Int.lt_floor_add_one (x + 1 / 2)
    dsimp only [IsNeighbour, wholeOf]
    rw [round_eq, two_nsmul]
    constructor <;> linarith
  | floor => exact isLower_floor x
  | ceil => exact isUpper_ceil x
  | trunc =>
    constructor
    · intro right
      rw [wholeOf, if_pos right]
      exact isLower_floor x
    · intro left
      obtain below | rfl := left.lt_or_eq
      · rw [wholeOf, if_neg (not_le.2 below)]
        exact isUpper_ceil x
      · simpa [wholeOf] using isUpper_ceil 0

/-! ### Scales -/

section

variable {scale v n : ℝ} (positive : 0 < scale)

include positive

theorem IsLower.div (lower : IsLower 1 (v * scale) n) : IsLower scale⁻¹ v (n / scale) := by
  refine ⟨(div_le_iff₀ positive).2 lower.1, ?_⟩
  rw [inv_eq_one_div, ← add_div]
  exact (lt_div_iff₀ positive).2 lower.2

theorem IsUpper.div (upper : IsUpper 1 (v * scale) n) : IsUpper scale⁻¹ v (n / scale) := by
  refine ⟨?_, (le_div_iff₀ positive).2 upper.2⟩
  rw [inv_eq_one_div, ← sub_div]
  exact (div_lt_iff₀ positive).2 upper.1

/-- Neighbours stay neighbours when everything is divided by a scale. -/
theorem IsNeighbour.div {mode : Rounding} (near : mode.IsNeighbour 1 (v * scale) n) :
    mode.IsNeighbour scale⁻¹ v (n / scale) := by
  cases mode with
  | nearest =>
    have apart : 2 • (n / scale - v) = 2 • (n - v * scale) / scale := by
      rw [two_nsmul, two_nsmul, add_div, sub_div, mul_div_cancel_right₀ v positive.ne']
    obtain ⟨low, high⟩ := near
    dsimp only [IsNeighbour]
    rw [apart, inv_eq_one_div, ← neg_div]
    exact ⟨div_lt_div_of_pos_right low positive, div_le_div_of_nonneg_right high positive.le⟩
  | floor => exact IsLower.div positive near
  | ceil => exact IsUpper.div positive near
  | trunc =>
    obtain ⟨right, left⟩ := near
    exact ⟨fun h => (right (mul_nonneg h positive.le)).div positive,
      fun h => (left (mul_nonpos_of_nonpos_of_nonneg h positive.le)).div positive⟩

theorem apply_exact (mode : Rounding) (v : ℝ) :
    mode.apply scale v = .ok (mode.wholeOf (v * scale) / scale) := by
  rw [apply, Arithmetic.mul_exact, ok_bind, whole_exact, ok_bind, Arithmetic.ofInt_exact]
  exact Arithmetic.div_exact positive.ne'

end

/-! ### Places -/

/-- Rounding to places is rounding by the power of ten of these places, for as long as there is
one. -/
theorem process_places {places : ℤ} {scale : Value}
    (scaled : Handler.placeScale (.int places) = .ok scale) (mode : Rounding) (value : Value) :
    (Handler.round (.int places) mode).process value =
      Handler.onNumber value (mode.apply (Arithmetic.tenPow places)) := by
  have power : scale = Arithmetic.tenPow places := by
    by_cases negative : places < 0
    · rw [Handler.placeScale, if_pos negative] at scaled
      obtain ⟨-, -, power⟩ := bind_eq_ok_iff.1 scaled
      exact (Except.ok.inj power).symm
    · rw [Handler.placeScale, if_neg negative] at scaled
      split at scaled
      · cases scaled
      · exact (Except.ok.inj scaled).symm
  rw [Handler.process, scaled, power]
  rfl

/-- A handler rounds a number to places by its way of rounding and the power of ten of the places.
In exact arithmetic that gives a whole number of units of the last place, which is the neighbour of
the number that the way of rounding asks for. It stays when it is rounded again, and nothing smaller
comes of something greater. -/
theorem rounds_to_places (mode : Rounding) (places : ℤ) (v : ℝ) :
    (∀ value scale, Handler.placeScale (.int places) = .ok scale →
      (Handler.round (.int places) mode).process value =
        Handler.onNumber value (mode.apply (Arithmetic.tenPow places))) ∧
    ∃ r : ℝ, mode.apply (Arithmetic.tenPow places) v = .ok r ∧
      (∃ n : ℤ, r * 10 ^ places = n) ∧ mode.IsNeighbour (10 ^ (-places)) v r ∧
      mode.apply (Arithmetic.tenPow places) r = .ok r ∧
      ∀ w, v ≤ w → ∃ s : ℝ, mode.apply (Arithmetic.tenPow places) w = .ok s ∧ r ≤ s := by
  have positive : (0 : ℝ) < 10 ^ places := zpow_pos (by norm_num) places
  have scale : (Arithmetic.tenPow places : ℝ) = 10 ^ places := rfl
  rw [scale]
  refine ⟨fun value scale scaled => process_places scaled mode value,
    mode.wholeOf (v * 10 ^ places) / 10 ^ places, apply_exact positive mode v, ?_, ?_, ?_, ?_⟩
  · exact ⟨_, div_mul_cancel₀ _ positive.ne'⟩
  · rw [zpow_neg]
    exact (isNeighbour_wholeOf mode _).div positive
  · rw [apply_exact positive mode, div_mul_cancel₀ _ positive.ne', wholeOf_intCast]
  · intro w le
    refine ⟨_, apply_exact positive mode w, div_le_div_of_nonneg_right ?_ positive.le⟩
    exact Int.cast_le.2 (mode.wholeOf_mono (mul_le_mul_of_nonneg_right le positive.le))

end Rounding

end Joinery
