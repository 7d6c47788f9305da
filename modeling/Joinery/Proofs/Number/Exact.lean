import Joinery.Arithmetic
import Mathlib.Analysis.Real.Sqrt

/-!
# Exact arithmetic

The real numbers as an arithmetic. No operation rounds, lengths are Euclidean, and nothing is refused
but division by zero. Infinities and NaN stand for no real number.
-/
namespace Joinery

/-- The real number that a double is. -/
noncomputable def Binary64.toReal? (x : Binary64) : Option ℝ :=
  if x.isFinite then some (x.signedUnits / Binary64.one) else none

/-- The real number that a value stands for; integers of any size stand for themselves. -/
noncomputable def Value.toReal? (v : Value) : Option ℝ :=
  match v.number? with
  | some (.int i) => some i
  | some (.float x) => x.toReal?
  | none => v.toDouble.toOption.bind Binary64.toReal?

namespace Arithmetic

/-- The nearest integer, the even one at a tie. -/
noncomputable def nearestEven (x : ℝ) : ℤ :=
  if Int.fract x < 1 / 2 ∨ Int.fract x = 1 / 2 ∧ Even ⌊x⌋ then ⌊x⌋ else ⌊x⌋ + 1

noncomputable def half (x : ℝ) : ℝ := x / 2

noncomputable instance exact : Arithmetic ℝ where
  ofInt i := i
  decimal digits places := digits / 10 ^ places
  tenPow exponent := 10 ^ exponent
  add a b := .ok (a + b)
  sub a b := .ok (a - b)
  mul a b := .ok (a * b)
  div a b := if b = 0 then .error .zeroDivisor else .ok (a / b)
  neg a := .ok (-a)
  lt a b := .ok (decide (a < b))
  le a b := .ok (decide (a ≤ b))
  hypot a b := .ok √(a ^ 2 + b ^ 2)
  floor x := .ok ⌊x⌋
  ceil x := .ok ⌈x⌉
  trunc x := .ok (if 0 ≤ x then ⌊x⌋ else ⌈x⌉)
  round x := .ok (nearestEven x)
  read v := .ok v.toReal?
  isFinite _ := true

/-! ### Results -/

variable (a b : ℝ)

@[simp] theorem add_exact : add a b = .ok (a + b) := rfl

@[simp] theorem sub_exact : sub a b = .ok (a - b) := rfl

@[simp] theorem mul_exact : mul a b = .ok (a * b) := rfl

@[simp] theorem neg_exact : neg a = .ok (-a) := rfl

@[simp] theorem lt_exact : lt a b = .ok (decide (a < b)) := rfl

@[simp] theorem hypot_exact : hypot a b = .ok √(a ^ 2 + b ^ 2) := rfl

@[simp] theorem ofInt_exact (i : ℤ) : (ofInt i : ℝ) = i := rfl

@[simp] theorem decimal_exact (digits places : ℕ) :
    (decimal digits places : ℝ) = digits / 10 ^ places := rfl

variable {a b}

theorem div_exact (nonzero : b ≠ 0) : div a b = .ok (a / b) := if_neg nonzero

/-! ### The least and the greatest of several numbers -/

theorem least_exact (a b : ℝ) : least a b = .ok (min a b) := by
  have chosen : least a b = .ok (if decide (b < a) then b else a) := rfl
  rw [chosen]
  by_cases below : b < a
  · simp [below, min_eq_right below.le]
  · simp [below, min_eq_left (not_lt.1 below)]

theorem greatest_exact (a b : ℝ) : greatest a b = .ok (max a b) := by
  have chosen : greatest a b = .ok (if decide (a < b) then b else a) := rfl
  rw [chosen]
  by_cases above : a < b
  · simp [above, max_eq_right above.le]
  · simp [above, max_eq_left (not_lt.1 above)]

/-- Choosing between numbers one after the other leaves one of them that is related to all. -/
theorem foldlM_choice {f : ℝ → ℝ → Except Misuse ℝ} {op : ℝ → ℝ → ℝ} {r : ℝ → ℝ → Prop}
    [Std.Refl r] [IsTrans ℝ r] (step : ∀ a b, f a b = .ok (op a b))
    (choice : ∀ a b, op a b = a ∨ op a b = b) (related : ∀ a b, r (op a b) a ∧ r (op a b) b)
    (first : ℝ) (others : List ℝ) :
    ∃ m ∈ first :: others, others.foldlM f first = .ok m ∧ ∀ a ∈ first :: others, r m a := by
  induction others generalizing first with
  | nil => exact ⟨first, by simp, rfl, by simp [Std.Refl.refl]⟩
  | cons b rest ih =>
    obtain ⟨m, member, success, all⟩ := ih (op first b)
    refine ⟨m, ?_, ?_, ?_⟩
    · rcases List.mem_cons.1 member with rfl | later
      · rcases choice first b with h | h <;> simp [h]
      · simp [later]
    · rw [List.foldlM_cons, step]
      exact success
    · have chosen := all (op first b) (by simp)
      intro a ha
      simp only [List.mem_cons] at ha
      rcases ha with rfl | rfl | later
      · exact IsTrans.trans _ _ _ chosen (related _ _).1
      · exact IsTrans.trans _ _ _ chosen (related _ _).2
      · exact all a (by simp [later])

theorem leastOf_exact (first : ℝ) (others : List ℝ) :
    ∃ m ∈ first :: others, leastOf first others = .ok m ∧ ∀ a ∈ first :: others, m ≤ a :=
  foldlM_choice least_exact min_choice (fun a b => ⟨min_le_left a b, min_le_right a b⟩) first others

theorem greatestOf_exact (first : ℝ) (others : List ℝ) :
    ∃ m ∈ first :: others, greatestOf first others = .ok m ∧ ∀ a ∈ first :: others, a ≤ m :=
  foldlM_choice greatest_exact max_choice (fun a b => ⟨le_max_left a b, le_max_right a b⟩) first
    others

end Arithmetic

end Joinery
