import Mathlib
import Joinery.Proofs.Number.Doubles

/-!
# The order of numbers

Integers of any size and doubles, infinities included, lie on one line, and their comparisons are
those of their positions. NaN has no position: it is neither below nor above anything, so the
smaller of a number and NaN is the one that is asked first.
-/
namespace Joinery

/-! ### Positions -/

namespace Number

/-- The position of a number of units. -/
noncomputable def ofUnits (units : ℤ) : EReal := (units : ℝ)

@[simp] theorem ofUnits_lt_ofUnits {u v : ℤ} : ofUnits u < ofUnits v ↔ u < v := by simp [ofUnits]

@[simp] theorem ofUnits_le_ofUnits {u v : ℤ} : ofUnits u ≤ ofUnits v ↔ u ≤ v := by simp [ofUnits]

@[simp] theorem ofUnits_inj {u v : ℤ} : ofUnits u = ofUnits v ↔ u = v := by simp [ofUnits]

@[simp] theorem bot_lt_ofUnits (u : ℤ) : ⊥ < ofUnits u := EReal.bot_lt_coe _

@[simp] theorem ofUnits_lt_top (u : ℤ) : ofUnits u < ⊤ := EReal.coe_lt_top _

@[simp] theorem ofUnits_ne_bot (u : ℤ) : ofUnits u ≠ ⊥ := EReal.coe_ne_bot _

@[simp] theorem ofUnits_ne_top (u : ℤ) : ofUnits u ≠ ⊤ := EReal.coe_ne_top _

/-- Where a number lies, in units. NaN, which lies nowhere, is put at zero. -/
noncomputable def position : Number → EReal
  | .int i => ofUnits (i * Binary64.one)
  | .float .nan => 0
  | .float (.infinite negative) => if negative then ⊥ else ⊤
  | .float (.finite negative units fits) =>
    ofUnits (Binary64.finite negative units fits).signedUnits

theorem ofUnits_strictMono : StrictMono ofUnits := fun _ _ => ofUnits_lt_ofUnits.2

theorem position_int_lt_int {i j : ℤ} : (int i).position < (int j).position ↔ i < j := by
  have positive : (0 : ℤ) < Binary64.one := by exact_mod_cast Binary64.one_pos
  rw [position, position, ofUnits_lt_ofUnits]
  exact mul_lt_mul_iff_of_pos_right positive

theorem compareInt_eq (i : ℤ) {y : Binary64} (number : y.isNaN = false) :
    compareInt i y = some (cmp (int i).position (float y).position) := by
  cases y with
  | nan => cases number
  | infinite negative =>
    cases negative with
    | false => exact congrArg some ((cmp_eq_lt_iff _ _).2 (ofUnits_lt_top _)).symm
    | true => exact congrArg some ((cmp_eq_gt_iff _ _).2 (bot_lt_ofUnits _)).symm
  | finite negative units fits =>
    rw [position, position, ofUnits_strictMono.cmp_map_eq, cmp_eq_compare]
    rfl

theorem compare_float {x y : Binary64} (hx : x.isNaN = false) (hy : y.isNaN = false) :
    (x.lt y = true ↔ (float x).position < (float y).position) ∧
      (x.le y = true ↔ (float x).position ≤ (float y).position) ∧
      (x.equals y = true ↔ (float x).position = (float y).position) := by
  cases x with
  | nan => cases hx
  | infinite negative =>
    cases y with
    | nan => cases hy
    | infinite negative' =>
      cases negative <;> cases negative' <;>
        simp [Binary64.lt, Binary64.le, Binary64.equals, position]
    | finite negative' units fits =>
      cases negative <;>
        simp [Binary64.lt, Binary64.le, Binary64.equals, position, (ofUnits_ne_top _).symm,
          (ofUnits_ne_bot _).symm]
  | finite negative units fits =>
    cases y with
    | nan => cases hy
    | infinite negative' =>
      cases negative' <;> simp [Binary64.lt, Binary64.le, Binary64.equals, position]
    | finite negative' units' fits' =>
      simp [Binary64.lt, Binary64.le, Binary64.equals, position]

variable {m n : Number}

/-- Numbers other than NaN are compared by their positions. -/
theorem compared (hm : m.isNaN = false) (hn : n.isNaN = false) :
    (m.lt n = true ↔ m.position < n.position) ∧ (m.le n = true ↔ m.position ≤ n.position) ∧
      (m.equals n = true ↔ m.position = n.position) := by
  cases m with
  | int a =>
    cases n with
    | int b =>
      have order (i j : ℤ) : (int i).position ≤ (int j).position ↔ i ≤ j := by
        rw [← not_lt, position_int_lt_int, not_lt]
      refine ⟨?_, ?_, ?_⟩
      · rw [position_int_lt_int, lt, decide_eq_true_eq]
      · rw [order, le, decide_eq_true_eq]
      · rw [equals, beq_iff_eq, le_antisymm_iff, le_antisymm_iff (a := (int a).position), order,
          order]
    | float y =>
      simp only [lt, le, equals, compareInt_eq a hn]
      simp [cmp_eq_lt_iff, cmp_eq_eq_iff, cmp_eq_gt_iff]
  | float x =>
    cases n with
    | int b =>
      simp only [lt, le, equals, compareInt_eq b hm, eq_comm (a := (float x).position)]
      simp [cmp_eq_lt_iff, cmp_eq_eq_iff, cmp_eq_gt_iff]
    | float y => exact compare_float hm hn

theorem lt_iff (hm : m.isNaN = false) (hn : n.isNaN = false) :
    m.lt n = true ↔ m.position < n.position := (compared hm hn).1

theorem le_iff (hm : m.isNaN = false) (hn : n.isNaN = false) :
    m.le n = true ↔ m.position ≤ n.position := (compared hm hn).2.1

theorem equals_iff (hm : m.isNaN = false) (hn : n.isNaN = false) :
    m.equals n = true ↔ m.position = n.position := (compared hm hn).2.2

theorem lt_eq_false_iff (hm : m.isNaN = false) (hn : n.isNaN = false) :
    m.lt n = false ↔ n.position ≤ m.position := by
  rw [Bool.eq_false_iff, ne_eq, lt_iff hm hn, not_lt]

/-! ### Choosing -/

/-- The smaller of two numbers; the first one unless the second is strictly below it. -/
def least (m n : Number) : Number := if n.lt m then n else m

/-- The greater of two numbers; the first one unless the second is strictly above it. -/
def greatest (m n : Number) : Number := if m.lt n then n else m

/-- A number moved between two ends. -/
def clamped (lo hi n : Number) : Number := greatest lo (least hi n)

theorem isNaN_least (hm : m.isNaN = false) (hn : n.isNaN = false) :
    (least m n).isNaN = false := by
  unfold least
  split <;> assumption

theorem isNaN_greatest (hm : m.isNaN = false) (hn : n.isNaN = false) :
    (greatest m n).isNaN = false := by
  unfold greatest
  split <;> assumption

theorem position_least (hm : m.isNaN = false) (hn : n.isNaN = false) :
    (least m n).position = min m.position n.position := by
  unfold least
  split
  next below => exact (min_eq_right ((lt_iff hn hm).1 below).le).symm
  next above =>
    exact (min_eq_left ((lt_eq_false_iff hn hm).1 (Bool.eq_false_iff.2 above))).symm

theorem position_greatest (hm : m.isNaN = false) (hn : n.isNaN = false) :
    (greatest m n).position = max m.position n.position := by
  unfold greatest
  split
  next above => exact (max_eq_right ((lt_iff hm hn).1 above).le).symm
  next below =>
    exact (max_eq_left ((lt_eq_false_iff hm hn).1 (Bool.eq_false_iff.2 below))).symm

theorem eq_nan_of_isNaN (h : n.isNaN = true) : n = .float .nan := by
  cases n with
  | int => cases h
  | float x => cases x <;> first | rfl | cases h

/-- NaN is passed over in favour of the upper end. -/
theorem clamped_nan (lo hi : Number) : clamped lo hi (.float .nan) = greatest lo hi := by
  have passed : (float .nan).lt hi = false := by
    cases hi with
    | int => rfl
    | float x => cases x <;> rfl
  simp [clamped, least, passed]

variable {lo hi : Number}

theorem isNaN_clamped (hlo : lo.isNaN = false) (hhi : hi.isNaN = false) (n : Number) :
    (clamped lo hi n).isNaN = false := by
  cases number : n.isNaN with
  | true =>
    rw [eq_nan_of_isNaN number, clamped_nan]
    exact isNaN_greatest hlo hhi
  | false => exact isNaN_greatest hlo (isNaN_least hhi number)

theorem position_clamped (hlo : lo.isNaN = false) (hhi : hi.isNaN = false)
    (hn : n.isNaN = false) :
    (clamped lo hi n).position = max lo.position (min hi.position n.position) := by
  rw [clamped, position_greatest hlo (isNaN_least hhi hn), position_least hhi hn]

/-- What is moved between two ends lies between them, be it a number or NaN. -/
theorem clamped_mem (hlo : lo.isNaN = false) (hhi : hi.isNaN = false)
    (ascending : lo.le hi = true) (n : Number) :
    lo.le (clamped lo hi n) = true ∧ (clamped lo hi n).le hi = true := by
  have order := (le_iff hlo hhi).1 ascending
  have number := isNaN_clamped hlo hhi n
  rw [le_iff hlo number, le_iff number hhi]
  cases hn : n.isNaN with
  | true =>
    rw [eq_nan_of_isNaN hn, clamped_nan, position_greatest hlo hhi]
    exact ⟨le_max_left _ _, max_le order le_rfl⟩
  | false =>
    rw [position_clamped hlo hhi hn]
    exact ⟨le_max_left _ _, max_le order (min_le_left _ _)⟩

/-- The smaller and the larger of two ends are the ends of the interval, whichever way round they
are given. -/
theorem clamped_ends_mem (hlo : lo.isNaN = false) (hhi : hi.isNaN = false)
    (ascending : lo.le hi = true) {a b : Number} (ends : a = lo ∧ b = hi ∨ a = hi ∧ b = lo)
    (n : Number) :
    lo.le (clamped (least a b) (greatest a b) n) = true ∧
      (clamped (least a b) (greatest a b) n).le hi = true := by
  have order := (le_iff hlo hhi).1 ascending
  obtain ⟨ha, hb, low, high⟩ : a.isNaN = false ∧ b.isNaN = false ∧
      min a.position b.position = lo.position ∧ max a.position b.position = hi.position := by
    obtain ⟨rfl, rfl⟩ | ⟨rfl, rfl⟩ := ends
    · exact ⟨hlo, hhi, min_eq_left order, max_eq_right order⟩
    · exact ⟨hhi, hlo, min_eq_right order, max_eq_left order⟩
  have hl := isNaN_least ha hb
  have hg := isNaN_greatest ha hb
  have number := isNaN_clamped hl hg n
  rw [← position_least ha hb] at low
  rw [← position_greatest ha hb] at high
  have within := clamped_mem hl hg ((le_iff hl hg).2 (by rwa [low, high])) n
  rw [le_iff hl number, le_iff number hg, low, high] at within
  exact ⟨(le_iff hlo number).2 within.1, (le_iff number hhi).2 within.2⟩

/-- A number is moved to one that equals it just when it lies between the ends already. -/
theorem clamped_equals_iff (hlo : lo.isNaN = false) (hhi : hi.isNaN = false)
    (ascending : lo.le hi = true) (hn : n.isNaN = false) :
    (clamped lo hi n).equals n = true ↔ n.lt lo = false ∧ hi.lt n = false := by
  rw [equals_iff (isNaN_clamped hlo hhi n) hn, position_clamped hlo hhi hn,
    lt_eq_false_iff hn hlo, lt_eq_false_iff hhi hn]
  have order := (le_iff hlo hhi).1 ascending
  constructor
  · intro same
    rw [← same]
    exact ⟨le_max_left _ _, max_le order (min_le_left _ _)⟩
  · rintro ⟨above, below⟩
    rw [min_eq_right below, max_eq_right above]

end Number

/-! ### Values -/

namespace Value

theorem lt_ofNumber (m n : Number) :
    Arithmetic.lt (ofNumber m) (ofNumber n) = .ok (m.lt n) := by
  change compareBy Number.lt (ofNumber m) (ofNumber n) = _
  simp [compareBy]

theorem least_ofNumber (m n : Number) :
    Arithmetic.least (ofNumber m) (ofNumber n) = .ok (ofNumber (m.least n)) := by
  unfold Arithmetic.least Number.least
  rw [lt_ofNumber, ok_bind]
  split <;> rfl

theorem greatest_ofNumber (m n : Number) :
    Arithmetic.greatest (ofNumber m) (ofNumber n) = .ok (ofNumber (m.greatest n)) := by
  unfold Arithmetic.greatest Number.greatest
  rw [lt_ofNumber, ok_bind]
  split <;> rfl

end Value

end Joinery
