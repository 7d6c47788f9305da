import Mathlib.Data.Nat.Basic
import Mathlib.Order.Basic
import Joinery.Number.Basic

/-!
# Bounds on rounding

Rounding to nearest keeps to the same side of every double: a quotient that is at most a double is
rounded to at most that double, and likewise from below. From this follows which quotients stay
finite. The integers beyond all doubles are those from `2 ^ 1024 - 2 ^ 970` on, halfway between the
greatest double and the next power of two, where the tie goes to the even neighbour.
-/
namespace Joinery

theorem roundDiv_le_of_le {num den bound : Nat} (h : num ≤ bound * den) :
    roundDiv num den ≤ bound := by
  obtain rfl | positive := Nat.eq_zero_or_pos den
  · have hzero : num = 0 := by simpa using h
    simp [hzero, roundDiv]
  · have hle : num / den ≤ bound := Nat.div_le_of_le_mul (by rwa [Nat.mul_comm])
    obtain heq | hlt := Nat.eq_or_lt_of_le hle
    · -- The quotient is the bound, so nothing is left over to round up.
      have hfloor : bound * den ≤ num := heq ▸ Nat.div_mul_le_self num den
      have hexact : num % den = 0 := by
        rw [Nat.le_antisymm h hfloor]
        exact Nat.mul_mod_left bound den
      simp [roundDiv, hexact, positive, heq]
    · exact (roundDiv_le num den).trans hlt

theorem le_roundDiv {num den bound : Nat} (positive : 0 < den) (h : bound * den ≤ num) :
    bound ≤ roundDiv num den := by
  have hle : bound ≤ num / den := (Nat.le_div_iff_mul_le positive).2 h
  unfold roundDiv
  simp only
  split
  · exact hle
  · split <;> omega

/-- At an odd number, a tie is rounded up. -/
theorem roundDiv_le_iff_of_odd {num den odd : Nat} (positive : 0 < den) (hodd : odd % 2 = 1) :
    roundDiv num den ≤ odd ↔ 2 * num < (2 * odd + 1) * den := by
  have hdiv := Nat.div_add_mod num den
  have hmod := Nat.mod_lt num positive
  have hexpand : (2 * odd + 1) * den = 2 * (den * odd) + den := by grind
  rw [hexpand]
  unfold roundDiv
  generalize num / den = quotient at *
  generalize num % den = left at *
  obtain hlt | rfl | hgt := Nat.lt_trichotomy quotient odd
  · have hmul : den * (quotient + 1) ≤ den * odd := Nat.mul_le_mul_left den hlt
    rw [Nat.mul_succ] at hmul
    simp only
    split
    · omega
    · split <;> omega
  · simp only
    split
    · omega
    · split <;> omega
  · have hmul : den * (odd + 1) ≤ den * quotient := Nat.mul_le_mul_left den hgt
    rw [Nat.mul_succ] at hmul
    simp only
    split
    · omega
    · split <;> omega

theorem log2_le_log2 {low high : Nat} (h : low ≤ high) : low.log2 ≤ high.log2 := by
  obtain rfl | hlow := Nat.eq_zero_or_pos low
  · simp
  · exact (Nat.le_log2 (by omega)).2 ((Nat.log2_self_le (by omega)).trans h)

theorem log2_lt_iff_lt_two_pow {n k : Nat} (positive : 0 < k) : n.log2 < k ↔ n < 2 ^ k := by
  obtain rfl | hn := Nat.eq_zero_or_pos n
  · rw [Nat.log2_zero]
    exact iff_of_true positive (Nat.two_pow_pos k)
  · exact Nat.log2_lt hn.ne'

theorem nearestUnits_le {num den bound : Nat} (fits : 2 ^ (bound.log2 - 52) ∣ bound)
    (h : num ≤ bound * den) : nearestUnits num den ≤ bound := by
  have hquotient : num / den ≤ bound := Nat.div_le_of_le_mul (by rwa [Nat.mul_comm])
  have hplace : 2 ^ ((num / den).log2 - 52) ∣ bound :=
    Nat.dvd_trans (Nat.pow_dvd_pow 2 (Nat.sub_le_sub_right (log2_le_log2 hquotient) 52)) fits
  unfold nearestUnits
  simp only
  generalize 2 ^ ((num / den).log2 - 52) = place at *
  obtain ⟨count, rfl⟩ := hplace
  rw [Nat.mul_comm place count]
  refine Nat.mul_le_mul_right place (roundDiv_le_of_le (h.trans (le_of_eq ?_)))
  grind

/-- The bound from below, for a bound in the binade of the quotient. -/
theorem le_nearestUnits_of_log2_eq {num den bound : Nat} (positive : 0 < den)
    (fits : 2 ^ (bound.log2 - 52) ∣ bound) (binade : bound.log2 = (num / den).log2)
    (h : bound * den ≤ num) : bound ≤ nearestUnits num den := by
  unfold nearestUnits
  simp only
  rw [← binade]
  have hplace : 0 < 2 ^ (bound.log2 - 52) := Nat.two_pow_pos _
  generalize 2 ^ (bound.log2 - 52) = place at *
  obtain ⟨count, rfl⟩ := fits
  rw [Nat.mul_comm place count] at *
  refine Nat.mul_le_mul_right place (le_roundDiv (Nat.mul_pos positive hplace) ?_)
  calc count * (den * place) = count * place * den := by grind
    _ ≤ num := h

theorem le_nearestUnits {num den bound : Nat} (positive : 0 < den)
    (fits : 2 ^ (bound.log2 - 52) ∣ bound) (h : bound * den ≤ num) :
    bound ≤ nearestUnits num den := by
  have hle : bound ≤ num / den := (Nat.le_div_iff_mul_le positive).2 h
  obtain hsame | hmore := Nat.eq_or_lt_of_le (log2_le_log2 hle)
  · exact le_nearestUnits_of_log2_eq positive fits hsame h
  · -- The quotient lies in a higher binade, which begins with a power of two.
    have hquotient : num / den ≠ 0 := by
      intro hzero
      simp [hzero] at hmore
    have hpower : bound ≤ 2 ^ (num / den).log2 :=
      (Nat.lt_log2_self (n := bound)).le.trans (Nat.pow_le_pow_right (by decide) hmore)
    refine hpower.trans (le_nearestUnits_of_log2_eq positive ?_ Nat.log2_two_pow ?_)
    · rw [Nat.log2_two_pow]
      exact Nat.pow_dvd_pow 2 (Nat.sub_le _ _)
    · exact (Nat.mul_le_mul_right den (Nat.log2_self_le hquotient)).trans
        (Nat.div_mul_le_self num den)

theorem two_pow_fits (k : Nat) : 2 ^ ((2 ^ k).log2 - 52) ∣ 2 ^ k := by
  rw [Nat.log2_two_pow]
  exact Nat.pow_dvd_pow 2 (Nat.sub_le k 52)

/-- Whole numbers are rounded up to a power of two from halfway to its neighbour below on. -/
theorem nearestUnits_lt_two_pow_iff (n shift top : Nat) (large : 54 ≤ top) :
    nearestUnits (n * 2 ^ shift) 1 < 2 ^ (top + shift) ↔ n < (2 ^ 54 - 1) * 2 ^ (top - 54) := by
  have htop : 2 ^ top = 2 ^ 54 * 2 ^ (top - 54) := by
    rw [← Nat.pow_add, Nat.add_sub_of_le large]
  have hshift : 0 < 2 ^ shift := Nat.two_pow_pos shift
  have htail : 0 < 2 ^ (top - 54) := Nat.two_pow_pos (top - 54)
  obtain hsmall | hlarge := Nat.lt_or_ge n (2 ^ (top - 1))
  · have hhalf : 2 ^ top = 2 * 2 ^ (top - 1) := by
      rw [← Nat.pow_succ', Nat.succ_eq_add_one, Nat.sub_add_cancel (by omega)]
    have hle : nearestUnits (n * 2 ^ shift) 1 ≤ 2 ^ (top - 1 + shift) := by
      refine nearestUnits_le (two_pow_fits _) ?_
      rw [Nat.mul_one, Nat.pow_add]
      exact Nat.mul_le_mul_right _ hsmall.le
    have hlt : 2 ^ (top - 1 + shift) < 2 ^ (top + shift) :=
      Nat.pow_lt_pow_right (by decide) (by omega)
    exact iff_of_true (hle.trans_lt hlt) (by omega)
  obtain hmiddle | hhuge := Nat.lt_or_ge n (2 ^ top)
  · have hlog : (n * 2 ^ shift).log2 = top - 1 + shift := by
      have hpositive : 0 < n := (Nat.two_pow_pos (top - 1)).trans_le hlarge
      rw [Nat.log2_eq_iff (Nat.mul_pos hpositive hshift).ne', Nat.pow_add,
        show top - 1 + shift + 1 = top + shift by omega, Nat.pow_add]
      exact ⟨Nat.mul_le_mul_right _ hlarge, Nat.mul_lt_mul_of_pos_right hmiddle hshift⟩
    have hplace : 2 ^ (top - 1 + shift - 52) = 2 * (2 ^ (top - 54) * 2 ^ shift) := by
      rw [← Nat.pow_add, ← Nat.pow_succ']
      congr 1
      omega
    have hbound : 2 ^ (top + shift) = 2 ^ 53 * (2 * (2 ^ (top - 54) * 2 ^ shift)) := by
      rw [Nat.pow_add, htop]
      grind
    unfold nearestUnits
    simp only [Nat.div_one, Nat.one_mul]
    rw [hlog, hplace, hbound]
    generalize 2 ^ (top - 54) = tail at *
    generalize 2 ^ shift = units at *
    have hpositive : 0 < 2 * (tail * units) := by
      have := Nat.mul_pos htail hshift
      omega
    have hodd : roundDiv (n * units) (2 * (tail * units)) ≤ 2 ^ 53 - 1 ↔ _ :=
      roundDiv_le_iff_of_odd hpositive rfl
    have hscaled : (2 * (2 ^ 53 - 1) + 1) * (2 * (tail * units)) =
        2 * ((2 ^ 54 - 1) * tail * units) := by grind
    rw [hscaled, Nat.mul_lt_mul_left Nat.two_pos, Nat.mul_lt_mul_right hshift] at hodd
    rw [Nat.mul_lt_mul_right hpositive, ← hodd]
    omega
  · have hle : 2 ^ (top + shift) ≤ nearestUnits (n * 2 ^ shift) 1 := by
      refine le_nearestUnits Nat.one_pos (two_pow_fits _) ?_
      rw [Nat.mul_one, Nat.pow_add]
      exact Nat.mul_le_mul_right _ hhuge
    exact iff_of_false hle.not_gt (by omega)

namespace Binary64

theorem one_pos : 0 < one := by
  rw [one, Nat.one_shiftLeft]
  exact Nat.two_pow_pos 1074

/-! ### Quotients that stay finite -/

theorem ofQuotient_isFinite_iff (negative : Bool) (num den : Nat) :
    (ofQuotient negative num den).isFinite = true ↔ (nearestUnits num den).log2 < 2098 := by
  unfold ofQuotient
  split <;> simp_all [isFinite]

/-- A quotient that is at most a double is rounded to at most that double. -/
theorem ofQuotient_le {num den bound : Nat} (negative : Bool) (fits : Fits bound)
    (h : num ≤ bound * den) :
    ∃ units fits, ofQuotient negative num den = .finite negative units fits ∧ units ≤ bound := by
  have hle := nearestUnits_le fits.1 h
  have hlog : (nearestUnits num den).log2 < 2098 := (log2_le_log2 hle).trans_lt fits.2
  exact ⟨nearestUnits num den, ⟨dvd_nearestUnits num den, hlog⟩, dif_pos hlog, hle⟩

/-! ### Integers beyond all doubles -/

/-- The least whole number without a nearest double: `2 ^ 1024 - 2 ^ 970`. -/
def beyond : Nat := (2 ^ 54 - 1) * 2 ^ 970

theorem ofInt_isFinite_iff (i : Int) : (ofInt i).isFinite = true ↔ i.natAbs < beyond := by
  rw [ofInt, ofQuotient_isFinite_iff, log2_lt_iff_lt_two_pow (by decide),
    show 2098 = 1024 + 1074 from rfl, one, Nat.one_shiftLeft, beyond,
    show 970 = 1024 - 54 from rfl]
  exact nearestUnits_lt_two_pow_iff i.natAbs 1074 1024 (by decide)

/-- What a double reaches is not beyond all of them. -/
theorem lt_beyond_of_fits {n bound : Nat} (fits : Fits bound) (h : n * one ≤ bound) :
    n < beyond := by
  have hbound : (n : Int).natAbs * one ≤ bound * 1 := by simpa using h
  obtain ⟨units, hunits, heq, -⟩ := ofQuotient_le (decide ((n : Int) < 0)) fits hbound
  have hfinite : (ofInt n).isFinite = true := by
    rw [ofInt, heq]
    rfl
  exact (ofInt_isFinite_iff n).1 hfinite

end Binary64

end Joinery
