import Joinery.Proofs.Number.Exact
import Mathlib.Data.EReal.Inv

/-!
# Exact arithmetic with infinities

The real numbers with two infinities as an arithmetic. Values may stand for infinities, and a joint
may ask for an infinite depth or for infinitely many slots. Between real numbers every operation is
that of exact arithmetic; an infinity is compared with others but has no whole part.
-/
namespace Joinery

/-- The extended real number that a double is; NaN is none. -/
noncomputable def Binary64.toEReal? : Binary64 → Option EReal
  | .nan => none
  | .infinite negative => some (if negative then ⊥ else ⊤)
  | .finite negative units fits => (finite negative units fits).toReal?.map Real.toEReal

/-- The extended real number that a value stands for; integers of any size stand for themselves. -/
noncomputable def Value.toEReal? (v : Value) : Option EReal :=
  match v.number? with
  | some (.int i) => some (i : ℝ)
  | some (.float x) => x.toEReal?
  | none => v.toDouble.toOption.bind Binary64.toEReal?

namespace Arithmetic

/-- A real number, not an infinity. -/
def IsReal (x : EReal) : Prop := x ≠ ⊤ ∧ x ≠ ⊥

open Classical in
/-- Applies an operation that asks for a real number; an infinity is out of its range. -/
noncomputable def onReal {α : Type} (op : ℝ → Except Misuse α) (x : EReal) : Except Misuse α :=
  if IsReal x then op x.toReal else .error .outOfRange

open Classical in
noncomputable instance extended : Arithmetic EReal where
  ofInt i := (ofInt i : ℝ)
  decimal digits places := (decimal digits places : ℝ)
  tenPow exponent := (tenPow exponent : ℝ)
  add a b := .ok (a + b)
  sub a b := .ok (a - b)
  mul a b := .ok (a * b)
  div a b := if b = 0 then .error .zeroDivisor else .ok (a / b)
  neg a := .ok (-a)
  lt a b := .ok (decide (a < b))
  le a b := .ok (decide (a ≤ b))
  hypot a b := .ok (if IsReal a ∧ IsReal b then √(a.toReal ^ 2 + b.toReal ^ 2) else ⊤)
  floor := onReal floor
  ceil := onReal ceil
  trunc := onReal trunc
  round := onReal round
  read v := .ok v.toEReal?
  isFinite x := decide (IsReal x)

/-! ### Results on real numbers -/

variable (a b : ℝ)

theorem isReal_coe : IsReal a := ⟨EReal.coe_ne_top a, EReal.coe_ne_bot a⟩

@[simp] theorem ofInt_coe (i : ℤ) : (ofInt i : EReal) = (i : ℝ) := rfl

@[simp] theorem decimal_coe (digits places : ℕ) :
    (decimal digits places : EReal) = (digits / 10 ^ places : ℝ) := rfl

@[simp] theorem mul_coe : mul (a : EReal) b = .ok ((a * b : ℝ) : EReal) := rfl

@[simp] theorem lt_coe : lt (a : EReal) b = .ok (decide (a < b)) :=
  congrArg _ (decide_eq_decide.2 EReal.coe_lt_coe_iff)

@[simp] theorem le_coe : le (a : EReal) b = .ok (decide (a ≤ b)) :=
  congrArg _ (decide_eq_decide.2 EReal.coe_le_coe_iff)

@[simp] theorem hypot_coe : hypot (a : EReal) b = .ok (√(a ^ 2 + b ^ 2) : ℝ) :=
  congrArg _ (if_pos ⟨isReal_coe a, isReal_coe b⟩)

@[simp] theorem floor_coe : floor (a : EReal) = .ok ⌊a⌋ := if_pos (isReal_coe a)

open Classical in
theorem isFinite_coe : isFinite (a : EReal) = true := decide_eq_true (isReal_coe a)

open Classical in
theorem exists_of_isFinite {x : EReal} (finite : isFinite x = true) : ∃ r : ℝ, x = r := by
  have real : IsReal x := of_decide_eq_true finite
  exact ⟨x.toReal, (EReal.coe_toReal real.1 real.2).symm⟩

variable {a b}

theorem div_coe (nonzero : b ≠ 0) : div (a : EReal) b = .ok ((a / b : ℝ) : EReal) := by
  have other : (b : EReal) ≠ 0 := EReal.coe_ne_zero.2 nonzero
  exact (if_neg other).trans (congrArg _ (EReal.coe_div a b).symm)

theorem least_extended (a b : EReal) : least a b = .ok (min a b) := by
  have chosen : least a b = .ok (if decide (b < a) then b else a) := rfl
  rw [chosen, min_comm, min_def_lt]
  simp

theorem greatest_extended (a b : EReal) : greatest a b = .ok (max a b) := by
  have chosen : greatest a b = .ok (if decide (a < b) then b else a) := rfl
  rw [chosen, max_def_lt]
  simp

@[simp] theorem least_coe (a b : ℝ) : least (a : EReal) b = .ok ((min a b : ℝ) : EReal) := by
  rw [least_extended, EReal.coe_strictMono.monotone.map_min]

@[simp] theorem greatest_coe (a b : ℝ) : greatest (a : EReal) b = .ok ((max a b : ℝ) : EReal) := by
  rw [greatest_extended, EReal.coe_strictMono.monotone.map_max]

theorem leastOf_coe (first : ℝ) (others : List ℝ) :
    leastOf (first : EReal) (others.map Real.toEReal) =
      .ok ((others.foldl min first : ℝ) : EReal) := by
  induction others generalizing first with
  | nil => rfl
  | cons next rest ih =>
    unfold leastOf at ih ⊢
    rw [List.map_cons, List.foldlM_cons, least_coe]
    exact ih _

theorem greatestOf_coe (first : ℝ) (others : List ℝ) :
    greatestOf (first : EReal) (others.map Real.toEReal) =
      .ok ((others.foldl max first : ℝ) : EReal) := by
  induction others generalizing first with
  | nil => rfl
  | cons next rest ih =>
    unfold greatestOf at ih ⊢
    rw [List.map_cons, List.foldlM_cons, greatest_coe]
    exact ih _

end Arithmetic

end Joinery
