import Joinery.Arithmetic
import Joinery.Proofs.Fails
import Joinery.Proofs.Number.Rounding

/-!
# Arithmetic on doubles

Sums, products and comparisons of values that are doubles always succeed; a quotient asks for a
divisor other than zero. An integer joins in unless it lies beyond all doubles. Which results are
numbers and which stay finite is said for the cases that the measures of teeth meet: quotients of a
finite length by a width of one or more, and products with a finite factor other than zero.
-/
namespace Joinery

namespace Binary64

/-- A finite double other than zero. -/
def isFactor : Binary64 → Bool
  | .finite _ units _ => units != 0
  | _ => false

theorem equals_self {x : Binary64} (number : x.isNaN = false) : x.equals x = true := by
  cases x with
  | nan => cases number
  | infinite | finite => simp [equals]

theorem ofQuotient_isNaN (negative : Bool) (num den : Nat) :
    (ofQuotient negative num den).isNaN = false := by
  unfold ofQuotient
  split <;> rfl

theorem mul_isNaN_of_isFactor {x y : Binary64} (number : x.isNaN = false)
    (factor : y.isFactor = true) : (x * y).isNaN = false := by
  cases y with
  | nan => cases factor
  | infinite b => cases factor
  | finite b n hn =>
    have hn0 : n ≠ 0 := by simpa [isFactor] using factor
    cases x with
    | nan => cases number
    | infinite a =>
      change (if n = 0 then nan else infinite (a ^^ b)).isNaN = false
      rw [if_neg hn0]
      rfl
    | finite a m hm => exact ofQuotient_isNaN (a ^^ b) (m * n) one

theorem mul_comm (x y : Binary64) : x * y = y * x := by
  cases x with
  | nan => cases y <;> rfl
  | infinite a =>
    cases y with
    | nan => rfl
    | infinite b => exact congrArg infinite (Bool.xor_comm a b)
    | finite b n hn =>
      change (if n = 0 then nan else infinite (a ^^ b)) = if n = 0 then nan else infinite (b ^^ a)
      rw [Bool.xor_comm a b]
  | finite a m hm =>
    cases y with
    | nan => rfl
    | infinite b =>
      change (if m = 0 then nan else infinite (a ^^ b)) = if m = 0 then nan else infinite (b ^^ a)
      rw [Bool.xor_comm a b]
    | finite b n hn =>
      change ofQuotient (a ^^ b) (m * n) one = ofQuotient (b ^^ a) (n * m) one
      rw [Bool.xor_comm a b, Nat.mul_comm m n]

/-- Of two numbers, one is at most the other. -/
theorem le_of_lt_eq_false {x y : Binary64} (hx : x.isNaN = false) (hy : y.isNaN = false)
    (h : x.lt y = false) : y.le x = true := by
  cases x with
  | nan => cases hx
  | infinite a =>
    cases y with
    | nan => cases hy
    | infinite b => cases a <;> cases b <;> simp_all [lt, le]
    | finite b n hn => simpa [lt, le] using h
  | finite a m hm =>
    cases y with
    | nan => cases hy
    | infinite b => simpa [lt, le] using h
    | finite b n hn => exact decide_eq_true (Int.not_lt.1 (of_decide_eq_false h))

/-- What is at least a positive double. -/
theorem cases_of_le {n : Nat} {hn : Fits n} {x : Binary64} (positive : 0 < n)
    (h : (finite false n hn).le x = true) :
    x = .infinite false ∨ ∃ m hm, x = .finite false m hm ∧ n ≤ m := by
  cases x with
  | nan => cases h
  | infinite a =>
    cases a with
    | false => exact .inl rfl
    | true => cases h
  | finite a m hm =>
    have hle : (n : Int) ≤ (finite a m hm).signedUnits := of_decide_eq_true h
    cases a with
    | false => exact .inr ⟨m, hm, rfl, Int.ofNat_le.1 hle⟩
    | true =>
      have hneg : (n : Int) ≤ -(m : Int) := hle
      omega

/-- A double of a positive number of units or more is positive. -/
theorem eq_finite_of_le_signedUnits {x : Binary64} {low : Nat} (positive : 0 < low)
    (h : (low : Int) ≤ x.signedUnits) : ∃ n fits, x = .finite false n fits ∧ low ≤ n := by
  cases x with
  | nan =>
    have : (low : Int) ≤ 0 := h
    omega
  | infinite a =>
    have : (low : Int) ≤ 0 := h
    omega
  | finite a n fits =>
    cases a with
    | false => exact ⟨n, fits, rfl, Int.ofNat_le.1 h⟩
    | true =>
      have : (low : Int) ≤ -(n : Int) := h
      omega

/-- What is at least a positive double is not zero. -/
theorem equals_zero_of_le {n : Nat} {hn : Fits n} {x : Binary64} (positive : 0 < n)
    (h : (finite false n hn).le x = true) : x.equals 0 = false := by
  have hzero : (0 : Binary64) = zero false := by decide +kernel
  rw [hzero]
  obtain rfl | ⟨m, hm, rfl, hle⟩ := cases_of_le positive h
  · rfl
  · have hm0 : (m : Int) ≠ 0 := by omega
    exact beq_eq_false_iff_ne.2 hm0

theorem isNaN_ite {x y : Binary64} (hx : x.isNaN = false) (hy : y.isNaN = false) (choice : Bool) :
    (if choice then x else y).isNaN = false := by
  cases choice
  · exact hy
  · exact hx

theorem isNaN_of_le {x y : Binary64} (h : x.le y = true) : y.isNaN = false := by
  cases y with
  | nan => cases x <;> cases h
  | infinite b => rfl
  | finite b n hn => rfl

/-- A positive integer that is not beyond all doubles is near a double of one or more. -/
theorem ofInt_eq_finite {n : Nat} (positive : 0 < n) (small : n < beyond) :
    ∃ units fits, ofInt n = .finite false units fits ∧ one ≤ units := by
  have hone : one ≤ nearestUnits ((n : Int).natAbs * one) 1 := by
    refine le_nearestUnits Nat.one_pos ?_ ?_
    · rw [one, Nat.one_shiftLeft]
      exact two_pow_fits 1074
    · rw [Nat.mul_one, Int.natAbs_natCast]
      exact Nat.le_mul_of_pos_left one positive
  have hlog : (nearestUnits ((n : Int).natAbs * one) 1).log2 < 2098 :=
    (ofQuotient_isFinite_iff _ _ _).1 ((ofInt_isFinite_iff n).2 small)
  have hsign : decide ((n : Int) < 0) = false := by simp
  refine ⟨_, ⟨dvd_nearestUnits _ _, hlog⟩, ?_, hone⟩
  rw [ofInt, hsign]
  exact dif_pos hlog

/-- A finite length by a width of one or more is finite, and no more than the length. -/
theorem div_of_one_le {m : Nat} (hm : Fits m) {w : Binary64} {n : Nat} {hn : Fits n}
    (wide : one ≤ n) (h : (finite false n hn).le w = true) :
    ∃ q hq, finite false m hm / w = .finite false q hq ∧ q ≤ m := by
  obtain rfl | ⟨k, hk, rfl, hle⟩ := cases_of_le (one_pos.trans_le wide) h
  · exact ⟨0, by decide, rfl, Nat.zero_le m⟩
  · have hk0 : k ≠ 0 := by
      have := one_pos
      omega
    have hquotient : m * one ≤ m * k := Nat.mul_le_mul_left m (wide.trans hle)
    obtain ⟨q, hq, heq, hqm⟩ := ofQuotient_le false hm hquotient
    exact ⟨q, hq, (if_neg hk0).trans heq, hqm⟩

/-! ### Factors -/

/-- Above zero, and infinite perhaps. -/
def isPositive : Binary64 → Bool
  | .infinite negative => !negative
  | .finite negative units _ => !negative && units != 0
  | .nan => false

theorem isPositive_of_le {n : Nat} {hn : Fits n} {x : Binary64} (positive : 0 < n)
    (h : (finite false n hn).le x = true) : x.isPositive = true := by
  obtain rfl | ⟨m, hm, rfl, hle⟩ := cases_of_le positive h
  · rfl
  · have hm0 : m ≠ 0 := by omega
    simpa [isPositive] using hm0

/-- A product of one unit or more is not rounded to zero. -/
theorem mul_isPositive {m n : Nat} {hm : Fits m} {hn : Fits n} (large : one ≤ m * n) :
    (finite false m hm * finite false n hn).isPositive = true := by
  have hunits : 1 ≤ nearestUnits (m * n) one :=
    le_nearestUnits one_pos (by decide) (by rwa [Nat.one_mul])
  change (ofQuotient false (m * n) one).isPositive = true
  unfold ofQuotient
  split
  · have hunits0 : nearestUnits (m * n) one ≠ 0 := by omega
    simpa [isPositive] using hunits0
  · rfl

theorem mul_isPositive_of_one_le {x : Binary64} {n : Nat} {hn : Fits n}
    (positive : x.isPositive = true) (large : one ≤ n) :
    (x * finite false n hn).isPositive = true := by
  have hn0 : n ≠ 0 := (one_pos.trans_le large).ne'
  cases x with
  | nan => cases positive
  | infinite a =>
    cases a with
    | true => cases positive
    | false =>
      change (if n = 0 then nan else infinite false).isPositive = true
      rw [if_neg hn0]
      rfl
  | finite a m hm =>
    cases a with
    | true => cases positive
    | false =>
      have hm0 : 0 < m := Nat.pos_of_ne_zero (by simpa [isPositive] using positive)
      exact mul_isPositive (large.trans (Nat.le_mul_of_pos_left n hm0))

/-- So the product with a factor of one or less is a factor. -/
theorem mul_isFactor {m n : Nat} {hm : Fits m} {hn : Fits n} (large : one ≤ m * n)
    (small : n ≤ one) : (finite false m hm * finite false n hn).isFactor = true := by
  have positive : (finite false m hm * finite false n hn).isPositive = true := mul_isPositive large
  have product : finite false m hm * finite false n hn = ofQuotient false (m * n) one := rfl
  obtain ⟨units, fits, found, -⟩ := ofQuotient_le false hm (Nat.mul_le_mul_left m small)
  rw [product, found] at positive ⊢
  exact positive

/-- The least of a factor and of what is positive is a factor. -/
theorem isFactor_ite_lt {x y : Binary64} (positive : x.isPositive = true)
    (factor : y.isFactor = true) : (if y.lt x then y else x).isFactor = true := by
  split
  · exact factor
  · next above =>
    cases x with
    | nan => cases positive
    | finite a m hm => exact (Bool.and_eq_true_iff.1 positive).2
    | infinite a =>
      cases y with
      | nan | infinite b => cases factor
      | finite b n hn => exact absurd positive above

theorem floor?_finite (m : Nat) (hm : Fits m) :
    (finite false m hm).floor? = some ((m / one : Nat) : Int) :=
  congrArg some (Int.ofNat_fdiv m one).symm

end Binary64

/-! ### Integers as doubles -/

namespace Number

theorem toDouble_float (x : Binary64) : (float x).toDouble = .ok x := rfl

theorem toDouble_int {i : Int} (small : i.natAbs < Binary64.beyond) :
    (int i).toDouble = .ok (Binary64.ofInt i) := by
  have hfinite := (Binary64.ofInt_isFinite_iff i).2 small
  change inRange (Binary64.ofInt i) = _
  generalize Binary64.ofInt i = x at *
  cases x with
  | nan => cases hfinite
  | infinite negative => cases hfinite
  | finite negative units fits => rfl

theorem toDouble_int_of_beyond {i : Int} (large : Binary64.beyond ≤ i.natAbs) :
    (int i).toDouble = .error .outOfRange := by
  have hfinite : ¬ (Binary64.ofInt i).isFinite = true := fun finite =>
    absurd ((Binary64.ofInt_isFinite_iff i).1 finite) (Nat.not_lt.2 large)
  have hnumber : (Binary64.ofInt i).isNaN = false := Binary64.ofQuotient_isNaN _ _ _
  change inRange (Binary64.ofInt i) = _
  generalize Binary64.ofInt i = x at *
  cases x with
  | nan => cases hnumber
  | infinite negative => rfl
  | finite negative units fits => exact absurd rfl hfinite

theorem div_float (x y : Binary64) :
    Number.div (float x) (float y) =
      if y.equals 0 then .error .zeroDivisor else .ok (float (x / y)) := rfl

theorem div_float_int {i : Int} (small : i.natAbs < Binary64.beyond) (x : Binary64) :
    Number.div (float x) (int i) =
      if (Binary64.ofInt i).equals 0 then .error .zeroDivisor
      else .ok (float (x / Binary64.ofInt i)) := by
  have hdiv : Number.div (float x) (int i) =
      (float x).toDouble >>= fun a => (int i).toDouble >>= fun b =>
        if b.equals 0 then .error .zeroDivisor else .ok (float (a / b)) := rfl
  rw [hdiv, toDouble_int small, toDouble_float, ok_bind, ok_bind]

theorem mul_int_float {i : Int} (small : i.natAbs < Binary64.beyond) (x : Binary64) :
    Number.mul (int i) (float x) = .ok (float (Binary64.ofInt i * x)) := by
  have hmul : Number.mul (int i) (float x) =
      (int i).toDouble >>= fun a => (float x).toDouble >>= fun b => .ok (float (a * b)) := rfl
  rw [hmul, toDouble_int small, toDouble_float, ok_bind, ok_bind]

end Number

namespace Value

@[simp] theorem number?_ofNumber (n : Number) : (ofNumber n).number? = some n := by
  cases n <;> rfl

theorem ofNumber_injective {m n : Number} (same : ofNumber m = ofNumber n) : m = n := by
  have read := congrArg number? same
  rw [number?_ofNumber, number?_ofNumber] at read
  exact Option.some.inj read

/-- An integer beyond all doubles. -/
def IsBeyond (v : Value) : Prop := ∃ i, v = .int i ∧ Binary64.beyond ≤ i.natAbs

theorem toDouble_eq_outOfRange_iff (v : Value) : v.toDouble = .error .outOfRange ↔ v.IsBeyond := by
  have hint : ∀ i, (Number.int i).toDouble = .error .outOfRange ↔ Binary64.beyond ≤ i.natAbs := by
    intro i
    obtain small | large := Nat.lt_or_ge i.natAbs Binary64.beyond
    · rw [Number.toDouble_int small]
      exact iff_of_false nofun (Nat.not_le.2 small)
    · rw [Number.toDouble_int_of_beyond large]
      exact iff_of_true rfl large
  cases v with
  | int i =>
    refine (hint i).trans ⟨fun large => ⟨i, rfl, large⟩, ?_⟩
    rintro ⟨_, ⟨⟩, large⟩
    exact large
  | bool b =>
    refine (hint _).trans (iff_of_false ?_ nofun)
    cases b <;> decide +kernel
  | text s =>
    refine iff_of_false ?_ nofun
    simp only [toDouble, number?]
    split <;> nofun
  | _ => exact iff_of_false nofun nofun

/-- The only values whose reading as a number fails are integers beyond all doubles. -/
theorem fails_read_iff (v : Value) :
    Fails (Arithmetic.read v : Except Misuse (Option Value)) ↔ v.IsBeyond := by
  rw [← toDouble_eq_outOfRange_iff]
  change Fails (readNumber v) ↔ _
  unfold readNumber
  cases v.toDouble with
  | ok x => cases x <;> exact iff_of_false nofun nofun
  | error found => cases found <;> simp [Fails]

/-- What is read is no NaN. -/
theorem read_eq_some {v r : Value} (success : Arithmetic.read v = .ok (some r)) :
    ∃ x, r = .float x ∧ x.isNaN = false := by
  change readNumber v = .ok (some r) at success
  unfold readNumber at success
  split at success
  · cases success
  · next x number _ =>
    cases success
    refine ⟨x, rfl, ?_⟩
    cases x with
    | nan => exact absurd rfl number
    | infinite negative => rfl
    | finite negative units fits => rfl
  · cases success
  · cases success

/-! ### Operations on doubles -/

theorem decimal_eq (digits places : Nat) :
    (Arithmetic.decimal digits places : Value) = float (.ofDecimal false digits (-places)) := rfl

theorem mul_float (x y : Binary64) : Arithmetic.mul (float x) (float y) = .ok (float (x * y)) := rfl

theorem lt_float (x y : Binary64) : Arithmetic.lt (float x) (float y) = .ok (x.lt y) := rfl

theorem le_float (x y : Binary64) : Arithmetic.le (float x) (float y) = .ok (x.le y) := rfl

theorem least_float (x y : Binary64) :
    Arithmetic.least (float x) (float y) = .ok (float (if y.lt x then y else x)) := by
  unfold Arithmetic.least
  rw [lt_float]
  cases y.lt x <;> rfl

theorem greatest_float (x y : Binary64) :
    Arithmetic.greatest (float x) (float y) = .ok (float (if x.lt y then y else x)) := by
  unfold Arithmetic.greatest
  rw [lt_float]
  cases x.lt y <;> rfl

theorem le_int_float (i : Int) {x : Binary64} (finite : x.isFinite = true) :
    Arithmetic.le (int i) (float x) = .ok (decide (i * Binary64.one ≤ x.signedUnits)) := by
  have hle : Arithmetic.le (int i) (float x) =
      .ok ((Number.compareInt i x).any (· != .gt)) := rfl
  have hcompare : Number.compareInt i x =
      some (compare (i * (Binary64.one : Int)) x.signedUnits) := by
    cases x with
    | nan => cases finite
    | infinite negative => cases finite
    | finite negative units fits => rfl
  rw [hle, hcompare]
  generalize i * (Binary64.one : Int) = a
  generalize x.signedUnits = b
  congr 1
  simp only [Option.any_some, compare, compareOfLessAndEq]
  split
  · next hlt =>
    have : a ≤ b := by omega
    simp [this]
  · split
    · next heq => simp [heq]
    · next hlt hne =>
      have : ¬ a ≤ b := by omega
      simp [this]

theorem floor_float {x : Binary64} {i : Int} (h : x.floor? = some i) :
    Arithmetic.floor (float x) = .ok i := by
  have hfloor : ∀ y : Binary64,
      Arithmetic.floor (float y) = Number.whole Binary64.floor? (.float y) := fun _ => rfl
  rw [hfloor]
  cases x with
  | nan => cases h
  | infinite negative => cases h
  | finite negative units fits =>
    dsimp only [Number.whole]
    rw [h]

theorem fails_floor {x : Binary64} (h : x.isFinite = false) :
    Fails (Arithmetic.floor (float x)) := by
  cases x with
  | nan => exact fails_error _
  | infinite negative => exact fails_error _
  | finite negative units fits => cases h

theorem div_float {y : Binary64} (x : Binary64) (nonzero : y.equals 0 = false) :
    Arithmetic.div (float x) (float y) = .ok (float (x / y)) := by
  change Number.div (.float x) (.float y) >>= (fun n => .ok (ofNumber n)) = _
  rw [Number.div_float, nonzero]
  rfl

theorem div_float_int {i : Int} (small : i.natAbs < Binary64.beyond)
    (nonzero : (Binary64.ofInt i).equals 0 = false) (x : Binary64) :
    Arithmetic.div (float x) (int i) = .ok (float (x / Binary64.ofInt i)) := by
  change Number.div (.float x) (.int i) >>= (fun n => .ok (ofNumber n)) = _
  rw [Number.div_float_int small, nonzero]
  rfl

theorem mul_int_float {i : Int} (small : i.natAbs < Binary64.beyond) (x : Binary64) :
    Arithmetic.mul (int i) (float x) = .ok (float (Binary64.ofInt i * x)) := by
  change Number.mul (.int i) (.float x) >>= (fun n => .ok (ofNumber n)) = _
  rw [Number.mul_int_float small]
  rfl

end Value

end Joinery
