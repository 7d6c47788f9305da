import Joinery.Joint.Teeth
import Joinery.Proofs.Number.Doubles

/-!
# Depth and slots

The depth of teeth can be computed unless the thickness is an integer beyond all doubles. The slots
of an edge are counted by whole parts of quotients of its length, so an infinite length has no
count, nor has one whose quotient by the least width overflows when a number of slots is asked for.
A count that is found is two or more and comes near a double.
-/
namespace Joinery.Tooth

open Value

/-! ### Constants -/

/-- The least length of an edge with teeth. -/
def shortest : Binary64 := .ofDecimal false 1 (-3)

theorem minLength_eq : (minLength : Value) = .float shortest := rfl

theorem shortest_eq_finite : ∃ n fits, shortest = .finite false n fits ∧ 1 ≤ n :=
  Binary64.eq_finite_of_le_signedUnits Nat.one_pos (by decide +kernel)

/-- The least width of teeth whose number is free. -/
def freeWidth : Binary64 := .ofDecimal false 4 0

theorem freeWidth_eq_finite : ∃ n fits, freeWidth = .finite false n fits ∧ Binary64.one ≤ n :=
  Binary64.eq_finite_of_le_signedUnits Binary64.one_pos (by decide +kernel)

/-- The constants in the width of teeth whose number is free. -/
theorem width_constants : (Binary64.ofInt 2).isFactor = true ∧ freeWidth.isNaN = false ∧
    freeWidth.le freeWidth = true := by
  decide +kernel

/-- The constants in the depth of teeth. -/
theorem depth_constants : (Binary64.ofDecimal false 0 0).isNaN = false ∧
    (Binary64.ofDecimal false 5 (-1)).isNaN = false ∧
    (Binary64.ofDecimal false 45 (-2)).isFactor = true ∧
    (Binary64.ofDecimal false 16 (-1)).isFactor = true ∧
    (Binary64.ofDecimal false 6 (-1)).isFactor = true := by
  decide +kernel

/-- A length with teeth is infinite or a positive double. -/
theorem long_cases {x : Binary64} (long : shortest.le x = true) :
    x = .infinite false ∨ ∃ m hm, x = .finite false m hm ∧ 0 < m := by
  obtain ⟨n, hn, heq, positive⟩ := shortest_eq_finite
  rw [heq] at long
  obtain rfl | ⟨m, hm, rfl, hle⟩ := Binary64.cases_of_le positive long
  · exact .inl rfl
  · exact .inr ⟨m, hm, rfl, Nat.lt_of_lt_of_le positive hle⟩

theorem nonzero_of_long {x : Binary64} (long : shortest.le x = true) : x.equals 0 = false := by
  obtain ⟨n, hn, heq, positive⟩ := shortest_eq_finite
  rw [heq] at long
  exact Binary64.equals_zero_of_le positive long

/-! ### Depth -/

theorem depthFor_of_beyond {thickness : Value} (kind : JointKind) (length : Value)
    (beyond : thickness.IsBeyond) : Fails (depthFor kind thickness length) :=
  fails_bind_iff.2 (.inl ((fails_read_iff thickness).2 beyond))

/-- The depth asked for, or the least one. -/
def askedDepth (asked : Binary64) : Binary64 :=
  if asked.lt (.ofDecimal false 5 (-1)) then .ofDecimal false 5 (-1) else asked

/-- The depth of fingers for the depth asked for. -/
def fingerDouble (asked x : Binary64) : Binary64 :=
  if (x * .ofDecimal false 45 (-2)).lt (askedDepth asked) then x * .ofDecimal false 45 (-2)
  else askedDepth asked

/-- The depth of teeth of a kind for the thickness asked for. -/
def depthDouble (kind : JointKind) (asked x : Binary64) : Binary64 :=
  match kind with
  | .finger => fingerDouble asked x
  | .dovetail =>
    if (x * .ofDecimal false 6 (-1)).lt (fingerDouble asked x * .ofDecimal false 16 (-1)) then
      x * .ofDecimal false 6 (-1)
    else fingerDouble asked x * .ofDecimal false 16 (-1)

theorem depthFor_float {thickness : Value} (near : ¬ thickness.IsBeyond) :
    ∃ asked : Binary64, asked.isNaN = false ∧ ∀ kind x,
      depthFor kind thickness (float x) = .ok (float (depthDouble kind asked x)) := by
  obtain ⟨r, hread⟩ := not_fails_iff.1 (mt (fails_read_iff thickness).1 near)
  obtain ⟨asked, hasked, hnumber⟩ : ∃ y : Binary64,
      r.getD (Arithmetic.decimal 0 0) = float y ∧ y.isNaN = false := by
    cases r with
    | none => exact ⟨.ofDecimal false 0 0, rfl, depth_constants.1⟩
    | some v => exact read_eq_some hread
  refine ⟨asked, hnumber, fun kind x => ?_⟩
  unfold depthFor
  rw [hread, ok_bind, hasked]
  simp only [minDepth, maxDepthRatio, dovetailFactor, maxDovetailRatio, decimal_eq,
    greatest_float, least_float, mul_float, ok_bind]
  cases kind <;> rfl

theorem depthDouble_isNaN {asked x : Binary64} (asks : asked.isNaN = false) (number : x.isNaN = false)
    (kind : JointKind) : (depthDouble kind asked x).isNaN = false := by
  obtain ⟨-, hleast, hratio, hfactor, hwide⟩ := depth_constants
  have hdepth : (fingerDouble asked x).isNaN = false :=
    Binary64.isNaN_ite (Binary64.mul_isNaN_of_isFactor number hratio)
      (Binary64.isNaN_ite hleast asks _) _
  cases kind with
  | finger => exact hdepth
  | dovetail =>
    rw [depthDouble]
    exact Binary64.isNaN_ite (Binary64.mul_isNaN_of_isFactor number hwide)
      (Binary64.mul_isNaN_of_isFactor hdepth hfactor) _

theorem depthFor_of_not_beyond {thickness : Value} {x : Binary64} (kind : JointKind)
    (near : ¬ thickness.IsBeyond) (number : x.isNaN = false) :
    ∃ d : Binary64, depthFor kind thickness (float x) = .ok (float d) ∧ d.isNaN = false := by
  obtain ⟨asked, asks, depth⟩ := depthFor_float near
  exact ⟨_, depth kind x, depthDouble_isNaN asks number kind⟩

/-- A part of every length with teeth that is neither rounded to zero nor more than all of it. -/
def IsRatio (r : Binary64) : Prop :=
  0 < r.signedUnits ∧ r.signedUnits ≤ Binary64.one ∧
    (Binary64.one : Int) ≤ shortest.signedUnits * r.signedUnits

theorem IsRatio.mul {r : Binary64} (ratio : IsRatio r) {m : Nat} {hm : Fits m}
    (long : shortest.le (.finite false m hm) = true) :
    (Binary64.finite false m hm * r).isPositive = true ∧
      (Binary64.finite false m hm * r).isFactor = true := by
  obtain ⟨above, small, large⟩ := ratio
  obtain ⟨k, hk, rfl, -⟩ := Binary64.eq_finite_of_le_signedUnits Nat.one_pos above
  obtain ⟨n, hn, heq, -⟩ := shortest_eq_finite
  rw [heq] at long large
  have units : n ≤ m := Int.ofNat_le.1 (of_decide_eq_true long)
  have least : Binary64.one ≤ n * k := Int.ofNat_le.1 (by rwa [Int.natCast_mul])
  have product := least.trans (Nat.mul_le_mul_right k units)
  exact ⟨Binary64.mul_isPositive product, Binary64.mul_isFactor product (Int.ofNat_le.1 small)⟩

theorem depth_ratios : IsRatio (.ofDecimal false 45 (-2)) ∧ IsRatio (.ofDecimal false 6 (-1)) := by
  unfold IsRatio
  decide +kernel

/-- The least depth, and the factor that makes dovetails deeper. -/
theorem depth_factors :
    ((1 : Nat) : Int) ≤ (Binary64.ofDecimal false 5 (-1)).signedUnits ∧
    (Binary64.one : Int) ≤ (Binary64.ofDecimal false 16 (-1)).signedUnits := by
  decide +kernel

/-- On a finite length the depth is finite too, and not zero. -/
theorem depthDouble_isFactor {asked : Binary64} {m : Nat} {hm : Fits m} (asks : asked.isNaN = false)
    (long : shortest.le (.finite false m hm) = true) (kind : JointKind) :
    (depthDouble kind asked (.finite false m hm)).isFactor = true := by
  obtain ⟨hfinger, hdovetail⟩ := depth_ratios
  obtain ⟨hleast, hfactor⟩ := depth_factors
  obtain ⟨n, hn, least, positive⟩ := Binary64.eq_finite_of_le_signedUnits Nat.one_pos hleast
  obtain ⟨k, hk, factor, large⟩ := Binary64.eq_finite_of_le_signedUnits Binary64.one_pos hfactor
  have least_le : (Binary64.finite false n hn).le (askedDepth asked) = true := by
    rw [askedDepth, least]
    split
    · exact decide_eq_true (Int.le_refl _)
    · next above => exact Binary64.le_of_lt_eq_false asks rfl (Bool.eq_false_iff.2 above)
  have deep := Binary64.isPositive_of_le positive least_le
  obtain ⟨hlimit, hpart⟩ := hfinger.mul long
  cases kind with
  | finger =>
    rw [depthDouble, fingerDouble]
    exact Binary64.isFactor_ite_lt deep hpart
  | dovetail =>
    have depth : (fingerDouble asked (.finite false m hm)).isPositive = true := by
      rw [fingerDouble]
      split
      · exact hlimit
      · exact deep
    rw [depthDouble, factor]
    exact Binary64.isFactor_ite_lt (Binary64.mul_isPositive_of_one_le depth large)
      (hdovetail.mul long).2

/-! ### Slots -/

theorem two_lt_beyond : 2 < Binary64.beyond := by decide +kernel

/-- Two slots or more, of a number that comes near a double. -/
def Slots.Fit (s : Slots) : Prop := 2 ≤ s.count ∧ s.count.natAbs < Binary64.beyond

theorem fit_max {n bound : Nat} (fits : Fits bound) (h : n * Binary64.one ≤ bound)
    (limit : Option Int) : Slots.Fit ⟨max 2 n, limit⟩ := by
  have hsmall := Binary64.lt_beyond_of_fits fits h
  have htwo := two_lt_beyond
  unfold Slots.Fit
  simp only
  omega

/-- The width of teeth whose number is free, twice their depth if that is more than the least. -/
theorem width_of_depth {d : Binary64} (number : d.isNaN = false) :
    ∃ twice w : Binary64, Arithmetic.mul (Arithmetic.ofInt 2) (float d) = .ok (float twice) ∧
      Arithmetic.greatest (float twice) minFreeWidth = .ok (float w) ∧
      ∃ n hn, Binary64.one ≤ n ∧ (Binary64.finite false n hn).le w = true := by
  obtain ⟨n, hn, hfinite, hone⟩ := freeWidth_eq_finite
  obtain ⟨htwo, hwidth, hle⟩ := width_constants
  have htwice : (Binary64.ofInt 2 * d).isNaN = false := by
    rw [Binary64.mul_comm]
    exact Binary64.mul_isNaN_of_isFactor number htwo
  have hmul : Arithmetic.mul (Arithmetic.ofInt 2) (float d) =
      .ok (float (Binary64.ofInt 2 * d)) := @mul_int_float 2 two_lt_beyond d
  have hfree : (minFreeWidth : Value) = float freeWidth := rfl
  rw [hmul, hfree]
  refine ⟨_, _, rfl, greatest_float _ freeWidth, n, hn, hone, ?_⟩
  rw [← hfinite]
  cases hlt : (Binary64.ofInt 2 * d).lt freeWidth with
  | true =>
    rw [if_pos rfl]
    exact hle
  | false => exact Binary64.le_of_lt_eq_false htwice hwidth hlt

theorem freeSlots_finite {m : Nat} {hm : Fits m} {d : Binary64} (number : d.isNaN = false) :
    ∃ slots, freeSlots (float (.finite false m hm)) (float d) = .ok slots ∧ slots.Fit := by
  obtain ⟨twice, w, htwice, hwidth, n, hn, hone, wide⟩ := width_of_depth number
  have hnonzero := Binary64.equals_zero_of_le (Binary64.one_pos.trans_le hone) wide
  obtain ⟨q, hq, hquotient, -⟩ := Binary64.div_of_one_le hm hone wide
  have hfloor := floor_float (Binary64.floor?_finite q hq)
  have hdiv := div_float (.finite false m hm) hnonzero
  rw [hquotient] at hdiv
  unfold freeSlots
  rw [htwice, ok_bind, hwidth, ok_bind, hdiv, ok_bind, hfloor, ok_bind]
  exact ⟨_, rfl, fit_max hq (Nat.div_mul_le_self q _) none⟩

theorem freeSlots_infinite {d : Binary64} (number : d.isNaN = false) :
    Fails (freeSlots (float (.infinite false)) (float d)) := by
  obtain ⟨twice, w, htwice, hwidth, n, hn, hone, wide⟩ := width_of_depth number
  have hpositive := Binary64.one_pos.trans_le hone
  have hnonzero := Binary64.equals_zero_of_le hpositive wide
  have hquotient : (Binary64.infinite false / w).isFinite = false := by
    obtain rfl | ⟨m, hm, rfl, -⟩ := Binary64.cases_of_le hpositive wide <;> rfl
  unfold freeSlots
  rw [htwice, ok_bind, hwidth, ok_bind, div_float _ hnonzero, ok_bind]
  exact fails_bind_iff.2 (.inl (fails_floor hquotient))

/-- A quotient of a length by the least one is finite or has overflowed. -/
theorem div_shortest_cases {x : Binary64} (long : shortest.le x = true) :
    x / shortest = .infinite false ∨ ∃ q hq, x / shortest = .finite false q hq := by
  obtain ⟨n, hn, heq, hone⟩ := shortest_eq_finite
  rw [heq]
  obtain rfl | ⟨m, hm, rfl, -⟩ := long_cases long
  · exact .inl rfl
  · have hn0 : n ≠ 0 := by omega
    have hdiv : Binary64.finite false m hm / .finite false n hn =
        .ofQuotient false (m * Binary64.one) n := if_neg hn0
    rw [hdiv]
    unfold Binary64.ofQuotient
    split
    · next hlog => exact .inr ⟨_, ⟨dvd_nearestUnits _ _, hlog⟩, rfl⟩
    · exact .inl rfl

/-- A count asks for a number of slots when it reads as a number of two or more. -/
def Asks (count : Value) (asked : Binary64) : Prop :=
  Arithmetic.read count = .ok (some (float asked)) ∧
    2 * (Binary64.one : Int) ≤ asked.signedUnits

theorem infinite_div_shortest : (Binary64.infinite false / shortest).isFinite = false := by
  obtain ⟨n, hn, heq, -⟩ := shortest_eq_finite
  rw [heq]
  rfl

theorem div_shortest (x : Binary64) :
    Arithmetic.div (float x) minLength = .ok (float (x / shortest)) := by
  obtain ⟨n, hn, heq, positive⟩ := shortest_eq_finite
  have long : (Binary64.finite false n hn).le shortest = true := by
    rw [heq]
    exact decide_eq_true (Int.le_refl _)
  rw [minLength_eq]
  exact div_float x (Binary64.equals_zero_of_le positive long)

theorem askedSlots_finite {asked x : Binary64} (two : 2 * (Binary64.one : Int) ≤ asked.signedUnits)
    (long : shortest.le x = true) (finite : (x / shortest).isFinite = true) :
    ∃ slots, askedSlots (float asked) (float x) = .ok slots ∧ slots.Fit := by
  obtain hlarge | ⟨q, hq, hquotient⟩ := div_shortest_cases long
  · rw [hlarge] at finite
    cases finite
  have hdiv : Arithmetic.div (float x) minLength = .ok (float (.finite false q hq)) := by
    rw [div_shortest, hquotient]
  have hfloor := floor_float (Binary64.floor?_finite q hq)
  have hlimit := fit_max hq (Nat.div_mul_le_self q Binary64.one)
  have hcompare : ∀ limit : Int, Arithmetic.lt (Arithmetic.ofInt limit) (float asked) =
      .ok (Number.lt (.int limit) (.float asked)) := fun _ => rfl
  unfold askedSlots
  rw [hdiv, ok_bind, hfloor, ok_bind]
  simp only [hcompare, ok_bind]
  split
  · exact ⟨_, rfl, hlimit _⟩
  · have hlow : ((2 * Binary64.one : Nat) : Int) ≤ asked.signedUnits := by
      rwa [Int.natCast_mul]
    obtain ⟨k, hk, rfl, hle⟩ := Binary64.eq_finite_of_le_signedUnits
      (Nat.mul_pos Nat.two_pos Binary64.one_pos) hlow
    rw [floor_float (Binary64.floor?_finite k hk), ok_bind]
    refine ⟨_, rfl, ?_, Binary64.lt_beyond_of_fits hk (Nat.div_mul_le_self k _)⟩
    exact Int.ofNat_le.2 ((Nat.le_div_iff_mul_le Binary64.one_pos).2 hle)

theorem askedSlots_infinite {asked x : Binary64} (infinite : (x / shortest).isFinite = false) :
    Fails (askedSlots (float asked) (float x)) := by
  unfold askedSlots
  rw [div_shortest, ok_bind]
  exact fails_bind_iff.2 (.inl (fails_floor infinite))

theorem slotsFor_of_beyond {count : Value} (length depth : Value) (beyond : count.IsBeyond) :
    Fails (slotsFor count length depth) :=
  fails_bind_iff.2 (.inl ((fails_read_iff count).2 beyond))

theorem slotsFor_of_asks {count : Value} {asked : Binary64} (length depth : Value)
    (asks : Asks count asked) : slotsFor count length depth = askedSlots (float asked) length := by
  obtain ⟨hread, two⟩ := asks
  have hfinite : asked.isFinite = true := by
    cases asked with
    | finite negative units fits => rfl
    | _ =>
      have : 2 * (Binary64.one : Int) ≤ 0 := two
      have := Binary64.one_pos
      omega
  have hle : Arithmetic.le (Arithmetic.ofInt 2) (float asked) = .ok true := by
    rw [← decide_eq_true two]
    exact le_int_float 2 hfinite
  have hvalue : Arithmetic.isFinite (float asked) = true := hfinite
  unfold slotsFor
  rw [hread, ok_bind]
  simp only [hvalue, hle, ok_bind, if_true]

theorem slotsFor_of_not_asks {count : Value} (length depth : Value) (near : ¬ count.IsBeyond)
    (free : ∀ asked, ¬ Asks count asked) :
    slotsFor count length depth = freeSlots length depth := by
  obtain ⟨r, hread⟩ := not_fails_iff.1 (mt (fails_read_iff count).1 near)
  unfold slotsFor
  rw [hread, ok_bind]
  cases r with
  | none => rfl
  | some v =>
    obtain ⟨asked, rfl, -⟩ := read_eq_some hread
    have hvalue : Arithmetic.isFinite (float asked) = asked.isFinite := rfl
    simp only [hvalue]
    split
    · next hfinite =>
      have hle : Arithmetic.le (Arithmetic.ofInt 2) (float asked) = .ok false := by
        rw [← decide_eq_false fun two => free asked ⟨hread, two⟩]
        exact le_int_float 2 hfinite
      rw [hle, ok_bind]
      rfl
    · rfl

/-- What keeps the slots of an edge from being counted. -/
inductive Uncountable (count : Value) (x : Binary64) : Prop where
  | beyond (beyond : count.IsBeyond)
  | endless (infinite : x = .infinite false)
  | crowded (asked : Binary64) (asks : Asks count asked)
      (overflow : (x / shortest).isFinite = false)

theorem slotsFor_of_uncountable {count : Value} {x d : Binary64} (uncountable : Uncountable count x)
    (number : d.isNaN = false) : Fails (slotsFor count (float x) (float d)) := by
  cases uncountable with
  | beyond beyond => exact slotsFor_of_beyond _ _ beyond
  | crowded asked asks overflow =>
    rw [slotsFor_of_asks _ _ asks]
    exact askedSlots_infinite overflow
  | endless infinite =>
    subst infinite
    by_cases beyond : count.IsBeyond
    · exact slotsFor_of_beyond _ _ beyond
    by_cases free : ∀ asked, ¬ Asks count asked
    · rw [slotsFor_of_not_asks _ _ beyond free]
      exact freeSlots_infinite number
    · obtain ⟨asked, asks⟩ := not_forall_not.1 free
      rw [slotsFor_of_asks _ _ asks]
      exact askedSlots_infinite infinite_div_shortest

theorem slotsFor_of_countable {count : Value} {x d : Binary64} (countable : ¬ Uncountable count x)
    (long : shortest.le x = true) (number : d.isNaN = false) :
    ∃ slots, slotsFor count (float x) (float d) = .ok slots ∧ slots.Fit := by
  by_cases free : ∀ asked, ¬ Asks count asked
  · rw [slotsFor_of_not_asks _ _ (fun beyond => countable (.beyond beyond)) free]
    obtain rfl | ⟨m, hm, rfl, -⟩ := long_cases long
    · exact absurd (.endless rfl) countable
    · exact freeSlots_finite number
  · obtain ⟨asked, asks⟩ := not_forall_not.1 free
    rw [slotsFor_of_asks _ _ asks]
    refine askedSlots_finite asks.2 long ?_
    cases hfinite : (x / shortest).isFinite with
    | true => rfl
    | false => exact absurd (.crowded asked asks hfinite) countable

end Joinery.Tooth
