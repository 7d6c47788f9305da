import Joinery.Parameter.Basic
import Joinery.Proofs.Fails
import Joinery.Proofs.Number.Extended

/-!
# What a parameter settles on

In exact arithmetic a value that is asked of a parameter is clamped into its range and then moved to
the nearest multiple of the step, by which it may leave the range again. Clamping what was moved out
leads back no further than to the value that was moved, and everything between the two has the same
nearest multiple. So what was settled on stays when it is asked for again.
-/
namespace Joinery

namespace Arithmetic

/-! ### The nearest integer -/

theorem nearestEven_intCast (n : ℤ) : nearestEven n = n := by
  simp [nearestEven]

theorem abs_nearestEven_sub_le (x : ℝ) : |nearestEven x - x| ≤ 1 / 2 := by
  have split := Int.floor_add_fract x
  have below := Int.fract_nonneg x
  have above := Int.fract_lt_one x
  unfold nearestEven
  split
  · next near =>
    have half : Int.fract x ≤ 1 / 2 := near.elim le_of_lt fun tie => tie.1.le
    rw [abs_le]
    constructor <;> linarith
  · next far =>
    have half : 1 / 2 ≤ Int.fract x := not_lt.1 fun near => far (.inl near)
    rw [Int.cast_add, Int.cast_one, abs_le]
    constructor <;> linarith

theorem floor_le_nearestEven (x : ℝ) : ⌊x⌋ ≤ nearestEven x := by
  unfold nearestEven
  split <;> omega

theorem nearestEven_le_floor_add_one (x : ℝ) : nearestEven x ≤ ⌊x⌋ + 1 := by
  unfold nearestEven
  split <;> omega

/-- Two numbers with one floor differ in their fractions alone, and the greater fraction is the one
that is rounded up. -/
theorem nearestEven_mono : Monotone nearestEven := by
  intro x y le
  obtain less | same := (Int.floor_le_floor le).lt_or_eq
  · calc
      nearestEven x ≤ ⌊x⌋ + 1 := nearestEven_le_floor_add_one x
      _ ≤ ⌊y⌋ := less
      _ ≤ nearestEven y := floor_le_nearestEven y
  · have fractions : Int.fract x ≤ Int.fract y := by
      rw [Int.fract, Int.fract, same]
      linarith
    by_cases down : Int.fract y < 1 / 2 ∨ Int.fract y = 1 / 2 ∧ Even ⌊y⌋
    · have down' : Int.fract x < 1 / 2 ∨ Int.fract x = 1 / 2 ∧ Even ⌊x⌋ := by
        obtain near | ⟨tie, even⟩ := down
        · exact .inl (fractions.trans_lt near)
        · obtain near | tie' := (fractions.trans_eq tie).lt_or_eq
          · exact .inl near
          · exact .inr ⟨tie', same ▸ even⟩
      rw [nearestEven, nearestEven, if_pos down, if_pos down', same]
    · have up : nearestEven y = ⌊y⌋ + 1 := if_neg down
      rw [up, ← same]
      exact nearestEven_le_floor_add_one x

@[simp] theorem round_coe (a : ℝ) : round (a : EReal) = .ok (nearestEven a) := if_pos (isReal_coe a)

end Arithmetic

namespace Parameter

open Arithmetic

/-! ### Ranges -/

/-- A value clamped into a range; a range that ends below its start clamps to its start. -/
noncomputable def clamped (low high v : EReal) : EReal := low ⊔ high ⊓ v

/-- What stands on some side of a clamped value is clamped to something between the two. -/
theorem clamped_mem_uIcc (low high v x : EReal) :
    clamped low high x ∈ Set.uIcc (clamped low high v) x := by
  have start : low ≤ clamped low high v := le_max_left _ _
  obtain above | below := le_total (clamped low high v) x
  · rw [Set.uIcc_of_le above]
    have inner : high ⊓ v ≤ x := (le_max_right _ _).trans above
    exact ⟨max_le_max_left _ (le_min (min_le_left _ _) inner),
      max_le (start.trans above) (min_le_right _ _)⟩
  · rw [Set.uIcc_of_ge below]
    refine ⟨?_, max_le start ((min_le_right _ _).trans below)⟩
    obtain first | second := le_max_iff.1 below
    · exact first.trans (le_max_left _ _)
    · exact (le_min (second.trans (min_le_left _ _)) le_rfl).trans (le_max_right _ _)

/-- Between real numbers there are real numbers only. -/
theorem exists_real_of_mem_uIcc {a b : ℝ} {x : EReal} (member : x ∈ Set.uIcc (a : EReal) b) :
    ∃ r ∈ Set.uIcc a b, x = r := by
  rw [Set.uIcc, ← EReal.coe_strictMono.monotone.map_inf, ← EReal.coe_strictMono.monotone.map_sup,
    ← EReal.image_coe_Icc] at member
  obtain ⟨r, between, rfl⟩ := member
  exact ⟨r, between, rfl⟩

/-! ### Steps -/

/-- The multiple of a step nearest to a number, the even one at a tie; without a step the number. -/
noncomputable def snapped (step c : ℝ) : ℝ :=
  if 0 < step then nearestEven (c / step) * step else c

theorem snapped_of_pos {step : ℝ} (positive : 0 < step) (c : ℝ) :
    snapped step c = nearestEven (c / step) * step := if_pos positive

theorem abs_snapped_sub_le {step : ℝ} (positive : 0 < step) (c : ℝ) :
    |snapped step c - c| ≤ step / 2 := by
  have apart : snapped step c - c = (nearestEven (c / step) - c / step) * step := by
    rw [snapped_of_pos positive, sub_mul, div_mul_cancel₀ _ positive.ne']
  rw [apart, abs_mul, abs_of_pos positive]
  calc
    |nearestEven (c / step) - c / step| * step ≤ 1 / 2 * step :=
      mul_le_mul_of_nonneg_right (abs_nearestEven_sub_le _) positive.le
    _ = step / 2 := by ring

theorem snapped_mono (step : ℝ) : Monotone (snapped step) := by
  intro c d le
  unfold snapped
  split
  · next positive =>
    have steps := nearestEven_mono (div_le_div_of_nonneg_right le positive.le)
    exact mul_le_mul_of_nonneg_right (Int.cast_le.2 steps) positive.le
  · exact le

theorem snapped_snapped (step c : ℝ) : snapped step (snapped step c) = snapped step c := by
  by_cases positive : 0 < step
  · rw [snapped_of_pos positive (snapped step c), snapped_of_pos positive c,
      mul_div_cancel_right₀ _ positive.ne', nearestEven_intCast]
  · exact if_neg positive

/-- Whatever stands between a number and its nearest multiple has the same nearest multiple. -/
theorem snapped_of_mem_uIcc {step c d : ℝ} (between : d ∈ Set.uIcc c (snapped step c)) :
    snapped step d = snapped step c := by
  have image := (snapped_mono step).mapsTo_uIcc between
  rw [snapped_snapped, Set.uIcc_self] at image
  exact image

/-! ### Settling -/

theorem settle_extended {low high v : EReal} {c : ℝ} (limited : clamped low high v = c) (step : ℝ) :
    settle low high (step : EReal) v = .ok (snapped step c : EReal) := by
  unfold settle snapped
  rw [least_extended, ok_bind, greatest_extended, ok_bind, ← clamped, limited, ofInt_coe,
    Int.cast_zero, lt_coe, ok_bind]
  simp only [decide_eq_true_eq]
  split
  · next positive => rw [div_coe positive.ne', ok_bind, round_coe, ok_bind, ofInt_coe, mul_coe]
  · rfl

/-- In exact arithmetic a parameter settles on the value asked for, clamped into its range, or else
on a multiple of its step that is no further from that than half a step. It settles on the same when
that is asked for again, and on nothing smaller when something greater is asked for. -/
theorem settle_steps (low high : EReal) {step v c : ℝ} (nonneg : 0 ≤ step)
    (limited : clamped low high v = c) :
    ∃ x : ℝ, settle low high (step : EReal) (v : EReal) = .ok (x : EReal) ∧
      (step = 0 → x = c) ∧ (step ≠ 0 → (∃ n : ℤ, x = n * step) ∧ |x - c| ≤ step / 2) ∧
      settle low high (step : EReal) (x : EReal) = .ok (x : EReal) ∧
      ∀ w : ℝ, v ≤ w →
        ∃ y : ℝ, settle low high (step : EReal) (w : EReal) = .ok (y : EReal) ∧ x ≤ y := by
  have near (w : ℝ) : ∃ d ∈ Set.uIcc c w, clamped low high w = d :=
    exists_real_of_mem_uIcc (limited ▸ clamped_mem_uIcc low high v w)
  refine ⟨snapped step c, settle_extended limited step, ?_, ?_, ?_, ?_⟩
  · rintro rfl
    exact if_neg (lt_irrefl 0)
  · intro nonzero
    have positive := lt_of_le_of_ne nonneg (Ne.symm nonzero)
    exact ⟨⟨_, snapped_of_pos positive c⟩, abs_snapped_sub_le positive c⟩
  · obtain ⟨d, between, again⟩ := near (snapped step c)
    rw [settle_extended again, snapped_of_mem_uIcc between]
  · intro w le
    obtain ⟨d, -, other⟩ := near w
    refine ⟨snapped step d, settle_extended other step, snapped_mono step ?_⟩
    rw [← EReal.coe_le_coe_iff, ← limited, ← other]
    exact max_le_max_left _ (min_le_min_left _ (EReal.coe_le_coe_iff.2 le))

/-- A hundred is clamped to 9.9 and moves to ten, out of the range, and ten stays. -/
theorem settle_steps_beyond : settle (0 : EReal) (9.9 : ℝ) (2 : ℝ) (100 : ℝ) = .ok ((10 : ℝ) : EReal) ∧
    settle (0 : EReal) (9.9 : ℝ) (2 : ℝ) (10 : ℝ) = .ok ((10 : ℝ) : EReal) := by
  have two : (0 : ℝ) ≤ 2 := by norm_num
  have limited : clamped (0 : EReal) (9.9 : ℝ) (100 : ℝ) = (9.9 : ℝ) := by
    have most : (9.9 : ℝ) ≤ 100 := by norm_num
    have least : (0 : ℝ) ≤ 9.9 := by norm_num
    unfold clamped
    rw [inf_eq_left.2 (EReal.coe_le_coe_iff.2 most), sup_eq_right.2 (EReal.coe_nonneg.2 least)]
  obtain ⟨x, first, -, stepped, again, -⟩ := settle_steps 0 (9.9 : ℝ) two limited
  obtain ⟨⟨n, rfl⟩, close⟩ := stepped (by norm_num)
  obtain ⟨low, high⟩ := abs_le.1 close
  have five : n = 5 := by
    have more : (4 : ℝ) < n := by linarith
    have less : (n : ℝ) < 6 := by linarith
    have more : 4 < n := by exact_mod_cast more
    have less : n < 6 := by exact_mod_cast less
    omega
  have ten : ((n : ℝ) * 2) = 10 := by
    rw [five]
    norm_num
  rw [ten] at first again
  exact ⟨first, again⟩

end Parameter

end Joinery
