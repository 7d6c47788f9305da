import Joinery.Proofs.Number.Combining

/-!
# Numbers of opposite sign

Turning a difference around changes its sign and nothing else, but that a difference of zero is
positive either way. So what is opposite is opposite up to the sign of zeros; products and sums keep
that, and lengths do not see it.
-/
namespace Joinery

namespace Binary64

/-- Of equal size and opposite sign, where zeros have either; NaN is opposite to itself. -/
inductive Opposite : Binary64 → Binary64 → Prop where
  | nan : Opposite .nan .nan
  | infinite (negative : Bool) : Opposite (.infinite negative) (.infinite !negative)
  | ofUnits {a b : Bool} {m n : Nat} {hm : Fits m} {hn : Fits n}
      (units : (finite b n hn).signedUnits = -(finite a m hm).signedUnits) :
      Opposite (.finite a m hm) (.finite b n hn)

/-! ### Signs -/

theorem signedUnits_not (a : Bool) (m : Nat) (hm : Fits m) :
    (finite (!a) m hm).signedUnits = -(finite a m hm).signedUnits := by
  cases a <;> simp [signedUnits]

theorem natAbs_signedUnits (a : Bool) (m : Nat) (hm : Fits m) :
    (finite a m hm).signedUnits.natAbs = m := by
  cases a <;> simp [signedUnits]

/-- The size does not turn around. -/
theorem units_eq_of_neg {a b : Bool} {m n : Nat} {hm : Fits m} {hn : Fits n}
    (units : (finite b n hn).signedUnits = -(finite a m hm).signedUnits) : n = m := by
  rw [← natAbs_signedUnits b n hn, units, Int.natAbs_neg, natAbs_signedUnits]

theorem opposite_neg (x : Binary64) : Opposite x (-x) := by
  cases x with
  | nan => exact .nan
  | infinite a => exact .infinite a
  | finite a m hm => exact .ofUnits (signedUnits_not a m hm)

theorem opposite_zero (a b : Bool) : Opposite (zero a) (zero b) := by
  refine .ofUnits ?_
  cases a <;> cases b <;> rfl

theorem neg_ofQuotient (negative : Bool) (num den : Nat) :
    -ofQuotient negative num den = ofQuotient (!negative) num den := by
  unfold ofQuotient
  split <;> rfl

/-- Nothing is rounded to a zero. -/
theorem ofQuotient_zero (negative : Bool) (den : Nat) :
    ofQuotient negative 0 den = zero negative := by
  obtain ⟨units, fits, found, small⟩ :=
    ofQuotient_le negative (by decide : Fits 0) (Nat.zero_le (0 * den))
  obtain rfl : units = 0 := Nat.le_zero.1 small
  exact found

theorem neg_neg (x : Binary64) : - -x = x := by
  cases x with
  | nan => rfl
  | infinite a => exact congrArg infinite (Bool.not_not a)
  | finite a m hm =>
    cases a <;> rfl

theorem neg_mul (x k : Binary64) : -x * k = -(x * k) := by
  cases x with
  | nan => rfl
  | infinite a =>
    cases k with
    | nan => rfl
    | infinite c => exact congrArg infinite (Bool.not_xor a c)
    | finite c r hr =>
      change (if r = 0 then nan else infinite (!a ^^ c)) =
        -(if r = 0 then nan else infinite (a ^^ c))
      rw [Bool.not_xor]
      split <;> rfl
  | finite a m hm =>
    cases k with
    | nan => rfl
    | infinite c =>
      change (if m = 0 then nan else infinite (!a ^^ c)) =
        -(if m = 0 then nan else infinite (a ^^ c))
      rw [Bool.not_xor]
      split <;> rfl
    | finite c r hr =>
      change ofQuotient (!a ^^ c) (m * r) one = -ofQuotient (a ^^ c) (m * r) one
      rw [neg_ofQuotient, Bool.not_xor]

theorem add_comm (x y : Binary64) : x + y = y + x := by
  cases x with
  | nan => cases y <;> rfl
  | infinite a =>
    cases y with
    | nan => rfl
    | infinite b => cases a <;> cases b <;> rfl
    | finite b n hn => rfl
  | finite a m hm =>
    cases y with
    | nan => rfl
    | infinite b => rfl
    | finite b n hn =>
      change Binary64.add (finite a m hm) (finite b n hn) =
        Binary64.add (finite b n hn) (finite a m hm)
      simp only [Binary64.add, Int.add_comm (finite b n hn).signedUnits, Bool.and_comm b]

theorem add_finite {a b : Bool} {m n : Nat} {hm : Fits m} {hn : Fits n} :
    finite a m hm + finite b n hn =
      if (finite a m hm).signedUnits + (finite b n hn).signedUnits = 0 then zero (a && b)
      else ofQuotient
        (decide ((finite a m hm).signedUnits + (finite b n hn).signedUnits < 0))
        ((finite a m hm).signedUnits + (finite b n hn).signedUnits).natAbs 1 := rfl

/-! ### Zero as a bound -/

theorem finite_lt_zero (a : Bool) (m : Nat) (hm : Fits m) :
    Number.lt (.float (finite a m hm)) (.int 0) = decide ((finite a m hm).signedUnits < 0) := by
  change (some (compare (0 * (one : Int)) (finite a m hm).signedUnits) == some .gt) = _
  rw [Bool.eq_iff_iff, beq_iff_eq, Option.some.injEq, Int.compare_eq_gt, Int.zero_mul,
    decide_eq_true_iff]

theorem zero_lt_finite (a : Bool) (m : Nat) (hm : Fits m) :
    Number.lt (.int 0) (.float (finite a m hm)) = decide (0 < (finite a m hm).signedUnits) := by
  change (some (compare (0 * (one : Int)) (finite a m hm).signedUnits) == some .lt) = _
  rw [Bool.eq_iff_iff, beq_iff_eq, Option.some.injEq, Int.compare_eq_lt, Int.zero_mul,
    decide_eq_true_iff]

/-- Nothing lies on both sides of zero. -/
theorem not_lt_zero {x : Binary64} (above : Number.lt (.int 0) (.float x) = true) :
    Number.lt (.float x) (.int 0) = false := by
  cases x with
  | nan => rfl
  | infinite a =>
    cases a with
    | false => rfl
    | true => cases above
  | finite a m hm =>
    rw [zero_lt_finite, decide_eq_true_iff] at above
    rw [finite_lt_zero, decide_eq_false_iff_not]
    omega

/-- What lies on a side of zero is a number. -/
theorem isNaN_of_side {x : Binary64}
    (side : Number.lt (.float x) (.int 0) = true ∨ Number.lt (.int 0) (.float x) = true) :
    x.isNaN = false := by
  cases x with
  | nan => rcases side with side | side <;> cases side
  | infinite | finite => rfl

theorem isNaN_of_add {x y : Binary64} (number : (x + y).isNaN = false) :
    x.isNaN = false ∧ y.isNaN = false := by
  cases x with
  | nan => cases number
  | infinite | finite =>
    cases y with
    | nan => cases number
    | infinite | finite => exact ⟨rfl, rfl⟩

theorem isNaN_of_mul {x y : Binary64} (number : (x * y).isNaN = false) :
    x.isNaN = false ∧ y.isNaN = false := by
  cases x with
  | nan => cases number
  | infinite | finite =>
    cases y with
    | nan => cases number
    | infinite | finite => exact ⟨rfl, rfl⟩

theorem isNaN_neg (x : Binary64) : (-x).isNaN = x.isNaN := by
  cases x <;> rfl

/-! ### Operations -/

namespace Opposite

variable {x x' y y' : Binary64}

/-- What is opposite is the negation, or both are zeros. -/
theorem eq_neg_or_zero (h : Opposite x y) : y = -x ∨ ∃ a b, x = zero a ∧ y = zero b := by
  cases h with
  | nan => exact .inl rfl
  | infinite a => exact .inl rfl
  | @ofUnits a b m n hm hn units =>
    obtain rfl := units_eq_of_neg units
    by_cases none : n = 0
    · subst none
      exact .inr ⟨a, b, rfl, rfl⟩
    · have sign : b = !a := by
        cases a <;> cases b <;> simp [signedUnits] at units ⊢ <;> omega
      subst sign
      exact .inl rfl

theorem symm (h : Opposite x y) : Opposite y x := by
  cases h with
  | nan => exact .nan
  | infinite a =>
    have back := Opposite.infinite !a
    rwa [Bool.not_not] at back
  | ofUnits units => exact .ofUnits (by omega)

theorem neg (h : Opposite x y) : Opposite (-x) (-y) := by
  cases h with
  | nan => exact .nan
  | infinite a => exact .infinite !a
  | ofUnits units =>
    refine .ofUnits ?_
    rw [signedUnits_not, signedUnits_not, units]

/-- A factor keeps what is opposite. -/
theorem mul_right (h : Opposite x y) (k : Binary64) : Opposite (x * k) (y * k) := by
  obtain rfl | ⟨a, b, rfl, rfl⟩ := h.eq_neg_or_zero
  · rw [neg_mul]
    exact opposite_neg _
  · cases k with
    | nan | infinite c => exact .nan
    | finite c r hr =>
      have product : ∀ negative, zero negative * finite c r hr = zero (negative ^^ c) := by
        intro negative
        change ofQuotient (negative ^^ c) (0 * r) one = _
        rw [Nat.zero_mul, ofQuotient_zero]
      rw [product, product]
      exact opposite_zero _ _

theorem mul_left (h : Opposite x y) (k : Binary64) : Opposite (k * x) (k * y) := by
  rw [mul_comm k x, mul_comm k y]
  exact h.mul_right k

theorem add (hx : Opposite x x') (hy : Opposite y y') : Opposite (x + y) (x' + y') := by
  cases hx with
  | nan => exact .nan
  | infinite a =>
    cases hy with
    | nan => exact .nan
    | infinite b => cases a <;> cases b <;> constructor
    | ofUnits units => exact .infinite a
  | ofUnits units =>
    cases hy with
    | nan => exact .nan
    | infinite b => exact .infinite b
    | ofUnits units' =>
      rw [add_finite, add_finite, units, units', ← Int.neg_add]
      split
      · next none =>
        rw [if_pos (by omega)]
        exact opposite_zero _ _
      · next some =>
        have sign : ∀ i : Int, i ≠ 0 → decide (-i < 0) = !decide (i < 0) := by
          intro i nonzero
          rw [← decide_not, decide_eq_decide]
          omega
        rw [if_neg (by omega), Int.natAbs_neg, sign _ some, ← neg_ofQuotient]
        exact opposite_neg _

/-- The length of a vector does not see the signs of its sides. -/
theorem hypot_eq (hx : Opposite x x') (hy : Opposite y y') : hypot x' y' = hypot x y := by
  cases hx with
  | nan => cases hy <;> rfl
  | infinite => rfl
  | ofUnits units =>
    cases hy with
    | nan => rfl
    | infinite => rfl
    | ofUnits units' =>
      obtain rfl := units_eq_of_neg units
      obtain rfl := units_eq_of_neg units'
      rfl

/-- What is opposite to the negation is equal, if it is a number. -/
theorem equals (h : Opposite x (-y)) (number : x.isNaN = false) : x.equals y = true := by
  obtain same | ⟨a, b, rfl, same⟩ := h.eq_neg_or_zero
  · rw [← neg_neg y, same, neg_neg]
    exact equals_self number
  · rw [← neg_neg y, same]
    cases a <;> cases b <;> rfl

/-- What is above zero is opposite to what is below. -/
theorem lt_zero (h : Opposite x y) :
    Number.lt (.float y) (.int 0) = Number.lt (.int 0) (.float x) := by
  cases h with
  | nan => rfl
  | infinite a => cases a <;> rfl
  | @ofUnits a b m n hm hn units =>
    rw [finite_lt_zero, zero_lt_finite, units, decide_eq_decide]
    omega

end Opposite

/-- A difference turned around. -/
theorem opposite_sub (x y : Binary64) : Opposite (x - y) (y - x) := by
  have turned : y - x = -x + y := add_comm y (-x)
  rw [turned]
  exact (opposite_neg x).add (opposite_neg y).symm

/-- The double near an integer turns around with it. -/
theorem opposite_ofInt (i : Int) : Opposite (ofInt i) (ofInt (-i)) := by
  obtain rfl | some := eq_or_ne i 0
  · have none : ofInt 0 = zero false := by decide +kernel
    rw [Int.neg_zero, none]
    exact opposite_zero _ _
  · have turned : ofInt (-i) = -ofInt i := by
      have sign : decide (-i < 0) = !decide (i < 0) := by
        rw [← decide_not, decide_eq_decide]
        omega
      rw [ofInt, ofInt, sign, Int.natAbs_neg, neg_ofQuotient]
    rw [turned]
    exact opposite_neg _

end Binary64

namespace Number

/-- The double of an integer turned around. -/
theorem toDouble_neg {i : Int} {x : Binary64} (near : (int i).toDouble = .ok x) :
    ∃ y, (int (-i)).toDouble = .ok y ∧ x.Opposite y := by
  have turned := Binary64.opposite_ofInt i
  change inRange (Binary64.ofInt i) = .ok x at near
  change ∃ y, inRange (Binary64.ofInt (-i)) = .ok y ∧ x.Opposite y
  generalize Binary64.ofInt i = u, Binary64.ofInt (-i) = w at near turned
  cases turned with
  | nan =>
    cases near
    exact ⟨_, rfl, .nan⟩
  | infinite => cases near
  | ofUnits units =>
    cases near
    exact ⟨_, rfl, .ofUnits units⟩

theorem add_float (m : Number) (y : Binary64) :
    Number.add m (float y) = m.toDouble >>= fun x => .ok (float (x + y)) := by
  have sum : Number.add m (float y) = _ := combine_of_not_ints (by simp)
  rw [sum]
  rfl

theorem float_add (x : Binary64) (n : Number) :
    Number.add (float x) n = n.toDouble >>= fun y => .ok (float (x + y)) :=
  combine_of_not_ints (by simp)

theorem add_comm (m n : Number) : Number.add m n = Number.add n m := by
  cases m with
  | int i =>
    cases n with
    | int j =>
      change Except.ok (int (i + j)) = .ok (int (j + i))
      rw [Int.add_comm]
    | float y => simp only [add_float, float_add, Binary64.add_comm y]
  | float x => simp only [add_float, float_add, Binary64.add_comm x]

/-- A difference turned around is near the opposite double, if the difference is near one. -/
theorem sub_turned {m n k : Number} (success : Number.sub m n = .ok k) :
    ∃ k', Number.sub n m = .ok k' ∧
      ∀ x, k.toDouble = .ok x → ∃ y, k'.toDouble = .ok y ∧ x.Opposite y := by
  by_cases ints : ∃ i j, m = .int i ∧ n = .int j
  · obtain ⟨i, j, rfl, rfl⟩ := ints
    cases success
    refine ⟨int (j - i), rfl, fun x near => ?_⟩
    rw [← Int.neg_sub i j]
    exact toDouble_neg near
  · have turned : ¬ ∃ i j, n = .int i ∧ m = .int j :=
      fun ⟨i, j, hn, hm⟩ => ints ⟨j, i, hm, hn⟩
    have difference : Number.sub m n = _ := combine_of_not_ints ints
    have other : Number.sub n m = _ := combine_of_not_ints turned
    rw [difference] at success
    obtain ⟨a, ha, success⟩ := bind_eq_ok_iff.1 success
    obtain ⟨b, hb, success⟩ := bind_eq_ok_iff.1 success
    cases success
    refine ⟨float (b - a), by rw [other, hb, ok_bind, ha, ok_bind], fun x near => ?_⟩
    cases near
    exact ⟨_, rfl, Binary64.opposite_sub a b⟩

end Number

namespace Value

variable {a b v : Value}

/-- The value is a number, and the double is the one that it is computed with beside doubles. -/
def NearTo (v : Value) (x : Binary64) : Prop := ∃ n, v.number? = some n ∧ n.toDouble = .ok x

theorem nearTo_of_real {n : Number} {x : Binary64} (number : v.real = .ok n)
    (near : n.toDouble = .ok x) : v.NearTo x := by
  unfold real at number
  split at number
  · next found =>
    cases number
    exact ⟨n, found, near⟩
  · cases number

theorem NearTo.hypot {x y : Binary64} (ha : a.NearTo x) (hb : b.NearTo y) :
    Arithmetic.hypot a b = .ok (float (Binary64.hypot x y)) := by
  obtain ⟨m, hm, hx⟩ := ha
  obtain ⟨n, hn, hy⟩ := hb
  change Value.hypot a b = _
  unfold Value.hypot real
  rw [hm, hn, ok_bind, hx, ok_bind, ok_bind, hy, ok_bind]
  rfl

theorem NearTo.mul {x : Binary64} (h : a.NearTo x) (k : Binary64) :
    Arithmetic.mul a (float k) = .ok (float (x * k)) := by
  obtain ⟨n, hn, hx⟩ := h
  exact mul_float_eq_ok_iff.2 ⟨n, x, hn, hx, rfl⟩

/-- What is stretched by a double is a number. -/
theorem nearTo_of_mul {k : Binary64} (success : Arithmetic.mul a (float k) = .ok v) :
    ∃ x, a.NearTo x ∧ v = float (x * k) := by
  obtain ⟨n, x, hn, hx, rfl⟩ := mul_float_eq_ok_iff.1 success
  exact ⟨x, ⟨n, hn, hx⟩, rfl⟩

/-- A difference turned around. -/
theorem sub_turned (success : Arithmetic.sub a b = .ok v) :
    ∃ w, Arithmetic.sub b a = .ok w ∧ ∀ x, v.NearTo x → ∃ y, w.NearTo y ∧ x.Opposite y := by
  rw [sub_eq] at success
  obtain ⟨m, n, k, ha, hb, hk, rfl⟩ := onNumbers_eq_ok_iff.1 success
  obtain ⟨k', hk', turned⟩ := Number.sub_turned hk
  refine ⟨ofNumber k', onNumbers_eq_ok_iff.2 ⟨n, m, k', hb, ha, hk', rfl⟩, ?_⟩
  rintro x ⟨n, hn, hx⟩
  cases (number?_ofNumber k).symm.trans hn
  obtain ⟨y, hy, opposite⟩ := turned x hx
  exact ⟨y, ⟨k', number?_ofNumber k', hy⟩, opposite⟩

/-- What has a difference has a sum, in either order. -/
theorem add_comm_of_sub (success : Arithmetic.sub a b = .ok v) :
    Arithmetic.add a b = Arithmetic.add b a := by
  rw [sub_eq] at success
  obtain ⟨m, n, -, ha, hb, -, -⟩ := onNumbers_eq_ok_iff.1 success
  rw [add_of_number (.inl ⟨m, ha⟩), add_of_number (.inr ⟨m, ha⟩)]
  unfold onNumbers
  rw [ha, hb]
  dsimp only
  rw [Number.add_comm]

end Value

end Joinery
