import Joinery.Proofs.Number.Rounding
import Joinery.Value.Basic

/-!
# Numbers of equal value

Numbers are compared across kinds, and a zero with either sign. Equal in value, where NaN counts as
equal to itself, are exactly the numbers that are one key; so this is an equivalence.
-/
namespace Joinery

namespace Binary64

theorem isWhole_iff_dvd (negative : Bool) (units : Nat) (fits : Fits units) :
    (finite negative units fits).isWhole = true ↔
      (one : Int) ∣ (finite negative units fits).signedUnits := by
  have natural : (one : Int) ∣ units ↔ units % one = 0 := by
    rw [Int.natCast_dvd_natCast, Nat.dvd_iff_mod_eq_zero]
  cases negative with
  | false => simp [isWhole, signedUnits, natural]
  | true => simp [isWhole, signedUnits, natural]

/-- But for the sign of zero, a finite double is given by its units. -/
theorem eq_of_signedUnits_eq {a b : Bool} {m n : Nat} {hm : Fits m} {hn : Fits n}
    (nonzero : (finite a m hm).signedUnits ≠ 0)
    (h : (finite a m hm).signedUnits = (finite b n hn).signedUnits) :
    finite a m hm = finite b n hn := by
  cases a <;> cases b <;> simp only [signedUnits] at h nonzero <;> simp at h nonzero ⊢ <;> omega

end Binary64

namespace Value.Key

open Binary64

theorem ofNumber_finite (negative : Bool) (units : Nat) (fits : Fits units) :
    ofNumber (.float (.finite negative units fits)) =
      if (one : Int) ∣ (finite negative units fits).signedUnits then
        .whole ((finite negative units fits).signedUnits.tdiv one)
      else .fraction (.finite negative units fits) := by
  simp only [← isWhole_iff_dvd]
  rfl

theorem ofNumber_finite_eq_whole_iff (negative : Bool) (units : Nat) (fits : Fits units) (i : Int) :
    ofNumber (.float (.finite negative units fits)) = .whole i ↔
      (finite negative units fits).signedUnits = i * one := by
  have nonzero : (one : Int) ≠ 0 := Int.natCast_ne_zero.2 Binary64.one_pos.ne'
  rw [ofNumber_finite]
  split
  · next whole =>
    obtain ⟨k, hk⟩ := whole
    rw [hk, whole.injEq, Int.mul_tdiv_cancel_left _ nonzero, Int.mul_comm,
      Int.mul_eq_mul_right_iff nonzero]
  · next fraction =>
    constructor
    · intro found
      cases found
    · intro units
      rw [units] at fraction
      exact absurd (Int.dvd_mul_left _ _) fraction

/-- The key of a finite double is that of an integer or its own. -/
theorem ofNumber_finite_ne (negative : Bool) (units : Nat) (fits : Fits units) {key : Value.Key}
    (notWhole : ∀ i, key ≠ .whole i) (other : key ≠ .fraction (.finite negative units fits)) :
    key ≠ ofNumber (.float (.finite negative units fits)) := by
  rw [ofNumber_finite]
  split
  · exact notWhole _
  · exact other

end Value.Key

namespace Number

open Binary64 Value.Key

theorem compareInt_eq_iff (i : Int) (x : Binary64) :
    compareInt i x = some .eq ↔ ofNumber (.float x) = .whole i := by
  cases x with
  | nan => exact iff_of_false nofun nofun
  | infinite negative => cases negative <;> exact iff_of_false nofun nofun
  | finite negative units fits =>
    rw [ofNumber_finite_eq_whole_iff, eq_comm (b := i * _), ← Int.compare_eq_eq]
    exact Option.some_inj

theorem equals_finite_iff_key_eq {a b : Bool} {m n : Nat} {hm : Fits m} {hn : Fits n} :
    (finite a m hm).equals (finite b n hn) = true ↔
      ofNumber (.float (finite a m hm)) = ofNumber (.float (finite b n hn)) := by
  have equals : (finite a m hm).equals (finite b n hn) = true ↔
      (finite a m hm).signedUnits = (finite b n hn).signedUnits := beq_iff_eq
  rw [equals]
  by_cases whole : (one : Int) ∣ (finite a m hm).signedUnits
  · have key := (ofNumber_finite a m hm).trans (if_pos whole)
    rw [key, eq_comm (b := ofNumber _), ofNumber_finite_eq_whole_iff,
      ← (ofNumber_finite_eq_whole_iff a m hm _).1 key, eq_comm]
  · have key := (ofNumber_finite a m hm).trans (if_neg whole)
    rw [key]
    constructor
    · intro units
      have nonzero : (finite a m hm).signedUnits ≠ 0 := by
        intro zero
        exact whole (zero ▸ Int.dvd_zero _)
      rw [← eq_of_signedUnits_eq nonzero units, key]
    · intro found
      rw [ofNumber_finite] at found
      split at found
      · cases found
      · rw [Value.Key.fraction.inj found]

/-- Equal in value are the numbers that are one key. -/
theorem same_iff_key_eq (m n : Number) : m.same n = true ↔ ofNumber m = ofNumber n := by
  cases m with
  | int i =>
    cases n with
    | int j => exact beq_iff_eq.trans (iff_of_eq (Value.Key.whole.injEq i j).symm)
    | float y => exact beq_iff_eq.trans ((compareInt_eq_iff i y).trans eq_comm)
  | float x =>
    cases n with
    | int j =>
      cases x <;> exact beq_iff_eq.trans (compareInt_eq_iff j _)
    | float y =>
      cases x with
      | nan =>
        cases y with
        | nan => exact iff_of_true rfl rfl
        | infinite => exact iff_of_false nofun nofun
        | finite b n hn => exact iff_of_false nofun (ofNumber_finite_ne b n hn nofun nofun)
      | infinite a =>
        cases y with
        | nan => exact iff_of_false nofun nofun
        | infinite b =>
          refine (beq_iff_eq (a := a) (b := b)).trans ?_
          change _ ↔ Value.Key.fraction (.infinite a) = .fraction (.infinite b)
          rw [Value.Key.fraction.injEq, infinite.injEq]
        | finite b n hn => exact iff_of_false nofun (ofNumber_finite_ne b n hn nofun nofun)
      | finite a m hm =>
        cases y with
        | nan =>
          have other : Value.Key.nan 0 ≠ _ := ofNumber_finite_ne a m hm nofun nofun
          exact iff_of_false nofun other.symm
        | infinite b =>
          have other : Value.Key.fraction (.infinite b) ≠ _ := ofNumber_finite_ne a m hm nofun nofun
          exact iff_of_false nofun other.symm
        | finite b n hn => exact equals_finite_iff_key_eq

theorem same_of_equals {m n : Number} (h : m.equals n = true) : m.same n = true := by
  unfold same
  split
  · rfl
  · exact h

/-- Equal are the numbers that are one key, but for NaN. -/
theorem equals_iff_key_eq (m n : Number) :
    m.equals n = true ↔ ofNumber m = ofNumber n ∧ ∀ mark, ofNumber m ≠ .nan mark := by
  rw [← same_iff_key_eq]
  constructor
  · intro equal
    refine ⟨same_of_equals equal, fun mark nan => ?_⟩
    cases m with
    | int => cases nan
    | float x =>
      cases x with
      | nan => cases n <;> cases equal
      | infinite => cases nan
      | finite a m hm =>
        have other : Value.Key.nan mark ≠ _ := ofNumber_finite_ne a m hm nofun nofun
        exact other nan.symm
  · rintro ⟨same, proper⟩
    unfold Number.same at same
    split at same
    · exact absurd rfl (proper 0)
    · exact same

end Number

namespace Value

theorem key_of_number {v : Value} {n : Number} (hn : v.number? = some n) :
    v.key = .ok (.ofNumber n) := by
  cases v with
  | bool | int | float => cases hn; rfl
  | null | text | list | object => cases hn


/-- Only a number can be equal to a number. -/
theorem equalsBy_number_iff {numbers : Number → Number → Bool} {a b : Value} {n : Number}
    (hn : b.number? = some n) :
    a.equalsBy numbers b = true ↔ ∃ m, a.number? = some m ∧ numbers m n = true := by
  cases a with
  | bool | int | float =>
    cases b <;> cases hn <;> exact ⟨fun h => ⟨_, rfl, h⟩, fun ⟨_, hm, h⟩ => by cases hm; exact h⟩
  | null | text | list | object => cases b <;> cases hn <;> exact iff_of_false nofun nofun

/-- Only a number is the key of a number. -/
theorem exists_number_of_key {v : Value} {n : Number} (hv : v.key = .ok (.ofNumber n)) :
    ∃ m, v.number? = some m := by
  cases v with
  | bool | int | float => exact ⟨_, rfl⟩
  | null | text =>
    cases n with
    | int => cases hv
    | float x =>
      have same := Except.ok.inj hv
      unfold Key.ofNumber at same
      dsimp only at same
      split at same
      · cases same
      · split at same <;> cases same
  | list | object => cases hv

theorem same_self_of_number {v : Value} {n : Number} (hn : v.number? = some n) :
    v.same v = true :=
  (equalsBy_number_iff hn).2 ⟨n, hn, (Number.same_iff_key_eq n n).2 rfl⟩

/-- What is the same as a number is the same as every number equal to that one. -/
theorem same_of_same_of_equals {a b c : Value} {n : Number} (hn : c.number? = some n)
    (hab : a.same b = true) (hbc : b.equals c = true) : a.same c = true := by
  obtain ⟨m, hm, equal⟩ := (equalsBy_number_iff hn).1 hbc
  obtain ⟨l, hl, same⟩ := (equalsBy_number_iff hm).1 hab
  refine (equalsBy_number_iff hn).2 ⟨l, hl, ?_⟩
  rw [Number.same_iff_key_eq] at same ⊢
  exact same.trans ((Number.same_iff_key_eq m n).1 (Number.same_of_equals equal))

end Value

end Joinery
