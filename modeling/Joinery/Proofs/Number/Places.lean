import Joinery.Binding.Handler
import Joinery.Proofs.Number.Combining

/-!
# Rounding doubles to places

A double is multiplied by a power of ten, a whole number is taken for the product, and it is divided
by the power again. The product may leave the range of doubles, and then no whole number is near.
The quotient always comes back into the range, unless the power itself is too small for a double and
counts as zero.
-/
namespace Joinery

/-- What has at most 53 significant bits up to a place. -/
theorem le_of_dvd_place {m place : Nat} (fits : 2 ^ (m.log2 - 52) ∣ m)
    (low : m.log2 - 52 ≤ place) : m ≤ (2 ^ 53 - 1) * 2 ^ place := by
  obtain ⟨k, hk⟩ := fits
  have bits : m < 2 ^ (m.log2 - 52) * 2 ^ 53 := by
    rw [← Nat.pow_add]
    exact Nat.lt_log2_self.trans_le (Nat.pow_le_pow_right (by decide) (by omega))
  have small : k < 2 ^ 53 := Nat.lt_of_mul_lt_mul_left (hk.symm.trans_lt bits)
  calc
    m = 2 ^ (m.log2 - 52) * k := hk
    _ ≤ 2 ^ place * (2 ^ 53 - 1) :=
      Nat.mul_le_mul (Nat.pow_le_pow_right (by decide) low) (Nat.le_pred_of_lt small)
    _ = (2 ^ 53 - 1) * 2 ^ place := Nat.mul_comm _ _

/-- Less than half of the last place is rounded away. -/
theorem nearestUnits_lt_of_half {m n place sum : Nat} (most : m ≤ (2 ^ 53 - 1) * 2 ^ (place + 1))
    (half : n < 2 ^ place) (total : sum ≤ m + n) : nearestUnits sum 1 < 2 ^ (54 + place) := by
  have below : sum < (2 ^ 54 - 1) * 2 ^ place := by
    have twice : 2 ^ (place + 1) = 2 ^ place * 2 := Nat.pow_succ ..
    rw [twice] at most
    omega
  have rounded := nearestUnits_lt_two_pow_iff sum 0 (54 + place) (Nat.le_add_right 54 place)
  rw [Nat.pow_zero, Nat.mul_one, Nat.add_sub_cancel_left] at rounded
  exact rounded.2 below

namespace Binary64

/-! ### The greatest double -/

/-- Units in the greatest double. -/
def topUnits : Nat := (2 ^ 53 - 1) * 2 ^ 2045

/-- Where the range of doubles ends. -/
theorem range_ends : Fits one ∧ Fits topUnits ∧ topUnits = topUnits / one * one ∧
    10 ^ 323 ≤ one ∧ 2 * one < 10 ^ 324 ∧ 324 ≤ beyond ∧ beyond ≤ 10 ^ 309 := by
  decide +kernel

theorem fits_topUnits : Fits topUnits := range_ends.2.1

theorem le_topUnits {m : Nat} (fits : Fits m) : m ≤ topUnits := by
  have low : m.log2 - 52 ≤ 2045 := by
    have := fits.2
    omega
  unfold topUnits
  exact @le_of_dvd_place m 2045 fits.1 low

/-- A sum does not leave the range when one summand is less than half of the last place of the
greatest double. -/
theorem add_isFinite_of_lt {a b : Bool} {m n : Nat} {hm : Fits m} {hn : Fits n}
    (small : n < 2 ^ 2044) : (finite a m hm + finite b n hn).isFinite = true := by
  change (Binary64.add _ _).isFinite = true
  unfold Binary64.add
  dsimp only
  split
  · rfl
  · have total : ((finite a m hm).signedUnits + (finite b n hn).signedUnits).natAbs ≤ m + n := by
      clear small
      unfold signedUnits
      cases a <;> cases b <;> simp <;> omega
    have most := le_topUnits hm
    rw [topUnits, show 2045 = 2044 + 1 from rfl] at most
    rw [ofQuotient_isFinite_iff, log2_lt_iff_lt_two_pow (by decide),
      show 2098 = 54 + 2044 from rfl]
    exact @nearestUnits_lt_of_half m n 2044 _ most small total

/-! ### Whole numbers near doubles -/

/-- The greatest double is whole. -/
theorem exists_topUnits_eq : ∃ top : Nat, topUnits = top * one :=
  ⟨topUnits / one, range_ends.2.2.1⟩

theorem natAbs_signedUnits_le (x : Binary64) : x.signedUnits.natAbs ≤ topUnits := by
  cases x with
  | nan | infinite => exact Nat.zero_le _
  | finite negative units fits =>
    have most := le_topUnits fits
    cases negative <;> simpa [signedUnits] using most

/-- Whole parts are not further from zero than the greatest double. -/
theorem natAbs_fdiv_mul_le {u : Int} (small : u.natAbs ≤ topUnits) :
    (u.fdiv one).natAbs * one ≤ topUnits := by
  have above : u < (u.fdiv one + 1) * one := by
    rw [Int.fdiv_eq_ediv_of_nonneg u (Int.natCast_nonneg one)]
    exact Int.lt_ediv_add_one_mul_self u (Int.natCast_pos.2 one_pos)
  have below : u.fdiv one * one ≤ u := by
    rw [Int.fdiv_eq_ediv_of_nonneg u (Int.natCast_nonneg one)]
    exact Int.ediv_mul_le u (Int.natCast_ne_zero.2 one_pos.ne')
  obtain ⟨top, htop⟩ := exists_topUnits_eq
  rw [htop] at small ⊢
  have range : (u.natAbs : Int) ≤ top * (one : Int) := by exact_mod_cast small
  have lower : -(top : Int) < u.fdiv one + 1 := by
    refine Int.lt_of_mul_lt_mul_right (Int.lt_of_le_of_lt ?_ above) (Int.natCast_nonneg one)
    rw [Int.neg_mul]
    omega
  have upper : u.fdiv one ≤ top :=
    Int.le_of_mul_le_mul_right (Int.le_trans below (by omega)) (Int.natCast_pos.2 one_pos)
  refine Nat.mul_le_mul_right one ?_
  omega

theorem natAbs_tdiv_mul_le {u : Int} (small : u.natAbs ≤ topUnits) :
    (u.tdiv one).natAbs * one ≤ topUnits := by
  rw [Int.natAbs_tdiv, Int.natAbs_natCast]
  exact (Nat.div_mul_le_self u.natAbs one).trans small

/-! ### Powers of ten -/

theorem beyond_le_tenPow {k : Nat} (large : 309 ≤ k) : beyond ≤ 10 ^ k := by
  obtain ⟨-, -, -, -, -, -, above⟩ := range_ends
  exact above.trans (@Nat.pow_le_pow_right 10 (by decide) 309 k large)

theorem ofDecimal_one_of_nonneg {i : Int} (nonneg : 0 ≤ i) :
    ofDecimal false 1 i = ofInt ((10 ^ i.toNat : Nat) : Int) := by
  have none_below : (-i).toNat = 0 := by omega
  have positive : decide (((10 ^ i.toNat : Nat) : Int) < 0) = false :=
    decide_eq_false (Int.not_lt.2 (Int.natCast_nonneg _))
  rw [ofDecimal, ofInt, positive, none_below, Int.natAbs_natCast, Nat.one_mul, Nat.pow_zero]

theorem ofDecimal_one_of_neg {i : Int} (negative : i < 0) :
    ofDecimal false 1 i = ofQuotient false one (10 ^ (-i).toNat) := by
  have up : i.toNat = 0 := by omega
  rw [ofDecimal, up, Nat.pow_zero, Nat.one_mul]

/-- A power of ten below one that is not too small for a double. -/
theorem exists_ofDecimal_one {i : Int} (large : -323 ≤ i) (negative : i < 0) :
    ∃ u fits, ofDecimal false 1 i = .finite false u fits ∧ 0 < u ∧ u ≤ one := by
  have above : 1 * 10 ^ (-i).toNat ≤ one := by
    rw [Nat.one_mul]
    obtain ⟨-, -, -, near, -⟩ := range_ends
    exact (Nat.pow_le_pow_right (by decide) (by omega)).trans near
  have below : one ≤ one * 10 ^ (-i).toNat := Nat.le_mul_of_pos_right one (Nat.pow_pos (by decide))
  obtain ⟨u, fits, heq, hle⟩ := ofQuotient_le false range_ends.1 below
  have units : u = nearestUnits one (10 ^ (-i).toNat) := by
    unfold ofQuotient at heq
    split at heq
    · cases heq
      rfl
    · cases heq
  refine ⟨u, fits, ?_, ?_, hle⟩
  · rw [ofDecimal_one_of_neg negative, heq]
  · rw [units]
    exact le_nearestUnits (Nat.pow_pos (by decide)) (by decide) above

/-- A power of ten that is too small for a double is rounded to zero. -/
theorem ofDecimal_one_of_lt {i : Int} (small : i < -323) : ofDecimal false 1 i = zero false := by
  have above : 2 * one < 10 ^ (-i).toNat := by
    obtain ⟨-, -, -, -, far, -⟩ := range_ends
    exact far.trans_le (@Nat.pow_le_pow_right 10 (by decide) 324 _ (by omega))
  have nothing : nearestUnits one (10 ^ (-i).toNat) = 0 := by
    have quotient : one / 10 ^ (-i).toNat = 0 := Nat.div_eq_of_lt (by omega)
    have rest : one % 10 ^ (-i).toNat = one := Nat.mod_eq_of_lt (by omega)
    simp [nearestUnits, roundDiv, quotient, rest, above]
  rw [ofDecimal_one_of_neg (by omega), ofQuotient]
  simp [nothing, zero]

/-- The double that is read for a power of ten below one. -/
theorem double_one {i : Int} (negative : i < 0) :
    Reading.double false 1 i = ofDecimal false 1 i := by
  have bits : (1 : Nat).log2 = 0 := by decide
  unfold Reading.double
  rw [if_neg Nat.one_ne_zero, if_neg (by omega), bits]
  split
  · exact (ofDecimal_one_of_lt (by omega)).symm
  · rfl

/-! ### Zero -/

theorem zero_eq : (0 : Binary64) = zero false := by decide +kernel

/-- Doubles that differ have a difference that is not zero: numbers of units are rounded to zero only
from below half of a unit. -/
theorem sub_equals_zero {x y : Binary64} (other : x.equals y = false) :
    (x - y).equals 0 = false := by
  rw [zero_eq]
  change (x.add y.neg).equals (zero false) = false
  cases x with
  | nan => rfl
  | infinite a =>
    cases y with
    | nan => rfl
    | infinite b => cases a <;> cases b <;> rfl
    | finite b n hn => rfl
  | finite a m hm =>
    cases y with
    | nan => rfl
    | infinite b => rfl
    | finite b n hn =>
      have differ : (finite a m hm).signedUnits + (finite (!b) n hn).signedUnits ≠ 0 := by
        have apart : (finite a m hm).signedUnits ≠ (finite b n hn).signedUnits := by
          simpa [equals] using other
        unfold signedUnits at apart ⊢
        cases a <;> cases b <;> simp at apart ⊢ <;> omega
      rw [Binary64.neg, Binary64.add, if_neg differ]
      generalize (finite a m hm).signedUnits + (finite (!b) n hn).signedUnits = sum at *
      have positive : 1 ≤ nearestUnits sum.natAbs 1 :=
        le_nearestUnits Nat.one_pos (by decide) (by omega)
      unfold ofQuotient
      split
      · cases decide (sum < 0) <;> simp [equals, zero, signedUnits] <;> omega
      · rfl

end Binary64

theorem Binary64.mul_isFinite_right {y : Binary64} (x : Binary64) (h : y.isFinite = false) :
    (x * y).isFinite = false := by
  cases y with
  | nan => cases x <;> rfl
  | infinite b =>
    cases x with
    | nan | infinite => rfl
    | finite a m hm =>
      change (if m = 0 then nan else infinite (a ^^ b)).isFinite = false
      split <;> rfl
  | finite => cases h

/-! ### Operations on values -/

namespace Value

open Binary64

theorem add_float (x y : Binary64) : Arithmetic.add (float x) (float y) = .ok (float (x + y)) := rfl

theorem sub_float (x y : Binary64) : Arithmetic.sub (float x) (float y) = .ok (float (x - y)) := rfl

theorem mul_float_int {k : Int} (small : k.natAbs < beyond) (x : Binary64) :
    Arithmetic.mul (float x) (int k) = .ok (float (x * ofInt k)) := by
  change onNumbers Number.mul (float x) (int k) = _
  exact float_onNumbers_eq_ok_iff.2 ⟨.int k, ofInt k, rfl, Number.toDouble_int small, rfl⟩

theorem fails_mul_float_int {k : Int} (large : beyond ≤ k.natAbs) (x : Binary64) :
    Fails (Arithmetic.mul (float x) (int k)) := by
  by_contra succeeds
  obtain ⟨s, success⟩ := not_fails_iff.1 succeeds
  change onNumbers Number.mul (float x) (int k) = _ at success
  obtain ⟨n, y, same, near, -⟩ := float_onNumbers_eq_ok_iff.1 success
  cases same
  cases near.symm.trans (Number.toDouble_int_of_beyond large)

theorem div_int_float {n : Int} (small : n.natAbs < beyond) (y : Binary64) :
    Arithmetic.div (int n) (float y) =
      if y.equals 0 then .error .zeroDivisor else .ok (float (ofInt n / y)) := by
  have hdiv : Number.div (.int n) (.float y) =
      (Number.int n).toDouble >>= fun a => (Number.float y).toDouble >>= fun b =>
        if b.equals 0 then .error .zeroDivisor else .ok (.float (a / b)) := rfl
  change Number.div (.int n) (.float y) >>= (fun n => .ok (ofNumber n)) = _
  rw [hdiv, Number.toDouble_int small, ok_bind, Number.toDouble_float, ok_bind]
  split <;> rfl

/-- A quotient of integers is in the range of doubles when the dividend is. -/
theorem exists_div_int {n k : Int} (small : n.natAbs * one ≤ topUnits) (positive : 0 < k) :
    ∃ y, Arithmetic.div (int n) (int k) = .ok (float y) := by
  have bound : n.natAbs * one ≤ topUnits * k.natAbs :=
    small.trans (Nat.le_mul_of_pos_right _ (Int.natAbs_pos.2 (Int.ne_of_gt positive)))
  obtain ⟨u, fits, heq, -⟩ :=
    ofQuotient_le (decide (n < 0) ^^ decide (k < 0)) fits_topUnits bound
  refine ⟨.finite (decide (n < 0) ^^ decide (k < 0)) u fits, ?_⟩
  change Number.div (.int n) (.int k) >>= (fun n => .ok (ofNumber n)) = _
  rw [Number.div, if_neg (Int.ne_of_gt positive), heq]
  rfl

end Value

/-! ### Rounding -/

namespace Rounding

open Binary64

variable (mode : Rounding) {x : Binary64}

theorem half_eq : ∃ u fits, ofDecimal false 5 (-(1 : Nat)) = .finite false u fits ∧ u < 2 ^ 2044 :=
  ⟨one / 2, by decide +kernel, by decide +kernel, by decide +kernel⟩

theorem whole_nearest (x : Binary64) : whole .nearest (Value.float x) =
    Arithmetic.floor (Value.float (x + ofDecimal false 5 (-(1 : Nat)))) := by
  rw [whole, Value.decimal_eq, Value.add_float, ok_bind]

/-- A finite double has a whole number near it, which is not beyond all doubles. -/
theorem exists_whole (finite : x.isFinite = true) :
    ∃ n : Int, mode.whole (Value.float x) = .ok n ∧ n.natAbs * one ≤ topUnits := by
  have floored {y : Binary64} (h : y.isFinite = true) :
      ∃ n : Int, Arithmetic.floor (Value.float y) = .ok n ∧ n.natAbs * one ≤ topUnits := by
    cases y with
    | nan | infinite => cases h
    | finite => exact ⟨_, rfl, natAbs_fdiv_mul_le (natAbs_signedUnits_le _)⟩
  cases x with
  | nan | infinite => cases finite
  | finite negative units fits =>
    cases mode with
    | nearest =>
      obtain ⟨u, hu, heq, small⟩ := half_eq
      rw [whole_nearest, heq]
      exact floored (add_isFinite_of_lt small)
    | floor => exact floored finite
    | ceil =>
      refine ⟨_, rfl, ?_⟩
      rw [Int.natAbs_neg]
      exact natAbs_fdiv_mul_le ((Int.natAbs_neg _).trans_le (natAbs_signedUnits_le _))
    | trunc => exact ⟨_, rfl, natAbs_tdiv_mul_le (natAbs_signedUnits_le _)⟩

/-- No whole number is near an infinity or NaN. -/
theorem fails_whole (h : x.isFinite = false) : Fails (mode.whole (Value.float x)) := by
  obtain ⟨u, hu, heq, -⟩ := half_eq
  cases x with
  | nan | infinite =>
    cases mode with
    | nearest =>
      rw [whole_nearest, heq]
      exact ⟨_, rfl⟩
    | floor | ceil | trunc => exact ⟨_, rfl⟩
  | finite => cases h

theorem apply_eq (scale : Value) (x : Binary64) : mode.apply scale (Value.float x) =
    Arithmetic.mul (Value.float x) scale >>= fun y =>
      mode.whole y >>= fun n => Arithmetic.div (Value.int n) scale :=
  rfl

/-- When the product has no whole number near it, rounding fails; otherwise the quotient tells. -/
theorem apply_cases {scale : Value} {x y : Binary64}
    (product : Arithmetic.mul (Value.float x) scale = .ok (.float y)) :
    (y.isFinite = false ∧ Fails (mode.apply scale (Value.float x))) ∨
      y.isFinite = true ∧ ∃ n : Int, n.natAbs * one ≤ topUnits ∧
        mode.apply scale (Value.float x) = Arithmetic.div (Value.int n) scale := by
  rw [apply_eq, product, ok_bind]
  cases finite : y.isFinite with
  | false => exact .inl ⟨rfl, fails_bind_iff.2 (.inl (mode.fails_whole finite))⟩
  | true =>
    obtain ⟨n, hn, small⟩ := mode.exists_whole finite
    exact .inr ⟨rfl, n, small, by rw [hn, ok_bind]⟩

/-- Nothing is a multiple of one by zero. -/
theorem fails_apply_zero (x : Binary64) :
    Fails (mode.apply (Value.float (zero false)) (Value.float x)) := by
  obtain ⟨-, fails⟩ | ⟨-, n, small, heq⟩ := mode.apply_cases (Value.mul_float x (zero false))
  · exact fails
  · have zeros : (zero false).equals 0 = true := by
      rw [zero_eq]
      rfl
    rw [heq, Value.div_int_float (lt_beyond_of_fits fits_topUnits small), if_pos zeros]
    exact ⟨_, rfl⟩

/-- Rounding with a positive double as the scale. -/
theorem apply_float {u : Nat} {hu : Fits u} (positive : 0 < u) (x : Binary64) :
    ((x * .finite false u hu).isFinite = false ∧
      Fails (mode.apply (Value.float (.finite false u hu)) (Value.float x))) ∨
    (x * .finite false u hu).isFinite = true ∧
      ∃ y, mode.apply (Value.float (.finite false u hu)) (Value.float x) = .ok (.float y) := by
  obtain fails | ⟨finite, n, small, heq⟩ := mode.apply_cases (Value.mul_float x (.finite false u hu))
  · exact .inl fails
  · have same : (Binary64.finite false u hu).le (.finite false u hu) = true :=
      decide_eq_true (Int.le_refl _)
    have differs : ¬ (Binary64.finite false u hu).equals 0 = true := by
      simp [equals_zero_of_le positive same]
    rw [heq, Value.div_int_float (lt_beyond_of_fits fits_topUnits small), if_neg differs]
    exact .inr ⟨finite, _, rfl⟩

/-- Rounding with a positive integer as the scale. -/
theorem apply_int {k : Int} (positive : 0 < k) (x : Binary64) :
    ((x * ofInt k).isFinite = false ∧ Fails (mode.apply (Value.int k) (Value.float x))) ∨
    (x * ofInt k).isFinite = true ∧
      ∃ y, mode.apply (Value.int k) (Value.float x) = .ok (.float y) := by
  obtain small | large := Nat.lt_or_ge k.natAbs beyond
  · obtain fails | ⟨finite, n, small, heq⟩ := mode.apply_cases (Value.mul_float_int small x)
    · exact .inl fails
    · obtain ⟨y, success⟩ := Value.exists_div_int small positive
      exact .inr ⟨finite, y, heq.trans success⟩
  · have infinite : (ofInt k).isFinite = false := by
      rw [← Bool.not_eq_true, ofInt_isFinite_iff]
      exact Nat.not_lt.2 large
    refine .inl ⟨mul_isFinite_right x infinite, ?_⟩
    rw [apply_eq]
    exact fails_bind_iff.2 (.inl (Value.fails_mul_float_int large x))

end Rounding

namespace Handler

open Binary64

theorem placeScale_of_neg {places : Int} (negative : places < 0) :
    placeScale (.int places) = (Number.int places).toDouble >>= fun _ =>
      .ok (.float (ofDecimal false 1 places)) := by
  rw [placeScale, if_pos negative, Value.tenPow, if_neg (Int.not_le.2 negative),
    double_one negative]
  rfl

theorem placeScale_of_nonneg {places : Int} (nonneg : 0 ≤ places) :
    placeScale (.int places) = if 2 ^ 32 < places then .error .tooLarge
      else .ok (.int ((10 ^ places.toNat : Nat) : Int)) := by
  rw [placeScale, if_neg (Int.not_lt.2 nonneg), Value.tenPow, if_pos nonneg]
  split <;> rfl

/-- The scale for places behind the point is an integer; one that is too large to be computed is
beyond all doubles. -/
theorem exists_placeScale {places : Int} (nonneg : 0 ≤ places) :
    ∃ k : Int, 0 < k ∧ ofDecimal false 1 places = ofInt k ∧
      (placeScale (.int places) = .ok (.int k) ∨
        placeScale (.int places) = .error .tooLarge ∧ (ofInt k).isFinite = false) := by
  refine ⟨((10 ^ places.toNat : Nat) : Int), Int.natCast_pos.2 (Nat.pow_pos (by decide)),
    ofDecimal_one_of_nonneg nonneg, ?_⟩
  rw [placeScale_of_nonneg nonneg]
  split
  · next huge =>
    refine .inr ⟨rfl, ?_⟩
    rw [← Bool.not_eq_true, ofInt_isFinite_iff, Int.natAbs_natCast]
    exact Nat.not_lt.2 (beyond_le_tenPow (by omega))
  · exact .inl rfl

/-- Rounding a double to places fails if the power of ten is too small for a double, or if the
product with it is not finite; otherwise it gives a double. -/
theorem round_cases (mode : Rounding) (places : Int) (x : Binary64) :
    ((places < -323 ∨ (x * ofDecimal false 1 places).isFinite = false) ∧
      Fails (placeScale (.int places) >>= fun scale => mode.apply scale (Value.float x))) ∨
    ¬ (places < -323 ∨ (x * ofDecimal false 1 places).isFinite = false) ∧
      ∃ y, (placeScale (.int places) >>= fun scale => mode.apply scale (Value.float x)) =
        .ok (.float y) := by
  obtain negative | nonneg := Int.lt_or_le places 0
  · rw [placeScale_of_neg negative]
    obtain small | large := Int.lt_or_le places (-323)
    · refine .inl ⟨.inl small, ?_⟩
      rw [ofDecimal_one_of_lt small]
      cases (Number.int places).toDouble with
      | error cause => exact ⟨cause, rfl⟩
      | ok far =>
        rw [ok_bind, ok_bind]
        exact mode.fails_apply_zero x
    · have near : places.natAbs < beyond := by
        obtain ⟨-, -, -, -, -, wide, -⟩ := range_ends
        omega
      obtain ⟨u, fits, heq, positive, -⟩ := exists_ofDecimal_one large negative
      rw [Number.toDouble_int near, ok_bind, ok_bind, heq]
      obtain ⟨infinite, fails⟩ | ⟨finite, success⟩ := mode.apply_float positive x
      · exact .inl ⟨.inr infinite, fails⟩
      · refine .inr ⟨?_, success⟩
        rintro (small | infinite)
        · exact absurd small (Int.not_lt.2 large)
        · cases infinite.symm.trans finite
  · obtain ⟨k, positive, heq, scale | ⟨scale, infinite⟩⟩ := exists_placeScale nonneg
    · rw [scale, ok_bind, heq]
      obtain ⟨infinite, fails⟩ | ⟨finite, success⟩ := mode.apply_int positive x
      · exact .inl ⟨.inr infinite, fails⟩
      · refine .inr ⟨?_, success⟩
        rintro (small | infinite)
        · omega
        · cases infinite.symm.trans finite
    · rw [scale, heq]
      exact .inl ⟨.inr (mul_isFinite_right x infinite), _, rfl⟩

end Handler

end Joinery
