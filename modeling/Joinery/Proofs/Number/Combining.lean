import Joinery.Proofs.Number.Doubles

/-!
# Numbers that can be computed with together

The sum of integers is an integer of any size. As soon as a double is among the operands, all of
them have to be near doubles. Comparisons need nothing but numbers, and choosing the least or the
greatest of several values leaves one of them.
-/
namespace Joinery

namespace Number

/-- Some double is near the number. -/
def IsNear (n : Number) : Prop := ∃ x, n.toDouble = .ok x

theorem isNear_int_iff (i : Int) : (int i).IsNear ↔ i.natAbs < Binary64.beyond := by
  constructor
  · intro near
    by_contra large
    obtain ⟨x, success⟩ := near
    rw [toDouble_int_of_beyond (Nat.not_lt.1 large)] at success
    cases success
  · exact fun small => ⟨_, toDouble_int small⟩

variable {onInts : Int → Int → Int} {onDoubles : Binary64 → Binary64 → Binary64} {m n k : Number}

theorem combine_of_not_ints (mixed : ¬ ∃ i j, m = .int i ∧ n = .int j) :
    combine onInts onDoubles m n =
      m.toDouble >>= fun a => n.toDouble >>= fun b => .ok (.float (onDoubles a b)) := by
  cases m with
  | float x => rfl
  | int i =>
    cases n with
    | float y => rfl
    | int j => exact absurd ⟨i, j, rfl, rfl⟩ mixed

theorem combine_cases (success : combine onInts onDoubles m n = .ok k) :
    (∃ i j, m = .int i ∧ n = .int j ∧ k = .int (onInts i j)) ∨
      m.IsNear ∧ n.IsNear ∧ ∃ z, k = .float z := by
  by_cases ints : ∃ i j, m = .int i ∧ n = .int j
  · obtain ⟨i, j, rfl, rfl⟩ := ints
    cases success
    exact .inl ⟨i, j, rfl, rfl, rfl⟩
  · rw [combine_of_not_ints ints] at success
    obtain ⟨x, hx, success⟩ := bind_eq_ok_iff.1 success
    obtain ⟨y, hy, success⟩ := bind_eq_ok_iff.1 success
    cases success
    exact .inr ⟨⟨x, hx⟩, ⟨y, hy⟩, _, rfl⟩

end Number

namespace Value

def IsNumber (v : Value) : Prop := ∃ n, v.number? = some n

/-- The value is an integer, of any size. -/
def IsWhole (v : Value) : Prop := ∃ i, v.number? = some (.int i)

/-- The value is a number that a double is near. -/
def IsNear (v : Value) : Prop := ∃ n, v.number? = some n ∧ n.IsNear

/-- The values are numbers that can be computed with together: all are integers, or a double is near
each of them. -/
def Combine (vs : List Value) : Prop := (∀ v ∈ vs, v.IsWhole) ∨ ∀ v ∈ vs, v.IsNear

variable {a b s : Value} {us vs : List Value}

theorem IsWhole.number (whole : a.IsWhole) : a.IsNumber :=
  ⟨_, whole.choose_spec⟩

theorem IsNear.number (near : a.IsNear) : a.IsNumber :=
  ⟨_, near.choose_spec.1⟩

theorem Combine.number (together : Combine vs) (member : a ∈ vs) : a.IsNumber := by
  obtain whole | near := together
  · exact (whole a member).number
  · exact (near a member).number

theorem Combine.subset (together : Combine vs) (subset : us ⊆ vs) : Combine us := by
  obtain whole | near := together
  · exact .inl fun v member => whole v (subset member)
  · exact .inr fun v member => near v (subset member)

theorem onNumbers_eq_ok_iff {op : Number → Number → Except Misuse Number} :
    onNumbers op a b = .ok s ↔
      ∃ m n k, a.number? = some m ∧ b.number? = some n ∧ op m n = .ok k ∧ s = ofNumber k := by
  unfold onNumbers
  constructor
  · intro success
    split at success
    · next m n ha hb =>
      obtain ⟨k, hk, success⟩ := bind_eq_ok_iff.1 success
      cases success
      exact ⟨m, n, k, ha, hb, hk, rfl⟩
    · cases success
  · rintro ⟨m, n, k, ha, hb, hk, rfl⟩
    rw [ha, hb]
    dsimp only
    rw [hk]
    rfl

theorem sub_eq (a b : Value) : Arithmetic.sub a b = onNumbers Number.sub a b := rfl

theorem add_of_number (number : a.IsNumber ∨ b.IsNumber) :
    Arithmetic.add a b = onNumbers Number.add a b := by
  change Value.add a b = _
  unfold Value.add
  split
  · next s t => simp [IsNumber, number?] at number
  · next xs ys => simp [IsNumber, number?] at number
  · rfl

theorem mul_float_eq (v : Value) (k : Binary64) :
    Arithmetic.mul v (float k) = onNumbers Number.mul v (float k) := by
  change Value.mul v (float k) = _
  unfold Value.mul
  split
  · next n _ absent => cases absent
  · next n _ whole => cases whole
  · rfl

/-- With a double as one operand the other one has to be near a double, and the result is one. -/
theorem onNumbers_float_eq_ok_iff {onInts : Int → Int → Int}
    {onDoubles : Binary64 → Binary64 → Binary64} {k : Binary64} :
    onNumbers (Number.combine onInts onDoubles) a (float k) = .ok s ↔
      ∃ n x, a.number? = some n ∧ n.toDouble = .ok x ∧ s = .float (onDoubles x k) := by
  have doubles (n : Number) : Number.combine onInts onDoubles n (.float k) =
      n.toDouble >>= fun x => .ok (.float (onDoubles x k)) := by
    cases n <;> rfl
  constructor
  · intro success
    obtain ⟨n, m, r, hn, hm, hr, rfl⟩ := onNumbers_eq_ok_iff.1 success
    cases hm
    rw [doubles] at hr
    obtain ⟨x, hx, hr⟩ := bind_eq_ok_iff.1 hr
    cases hr
    exact ⟨n, x, hn, hx, rfl⟩
  · rintro ⟨n, x, hn, hx, rfl⟩
    refine onNumbers_eq_ok_iff.2 ⟨n, .float k, .float (onDoubles x k), hn, rfl, ?_, rfl⟩
    rw [doubles, hx, ok_bind]

theorem IsNear.exists_double (near : a.IsNear) :
    ∃ n x, a.number? = some n ∧ n.toDouble = .ok x := by
  obtain ⟨n, hn, x, hx⟩ := near
  exact ⟨n, x, hn, hx⟩

theorem add_float_eq_ok_iff {k : Binary64} : Arithmetic.add a (float k) = .ok s ↔
    ∃ n x, a.number? = some n ∧ n.toDouble = .ok x ∧ s = .float (x + k) := by
  rw [add_of_number (.inr ⟨_, rfl⟩)]
  exact onNumbers_float_eq_ok_iff

theorem mul_float_eq_ok_iff {k : Binary64} : Arithmetic.mul a (float k) = .ok s ↔
    ∃ n x, a.number? = some n ∧ n.toDouble = .ok x ∧ s = .float (x * k) := by
  rw [mul_float_eq]
  exact onNumbers_float_eq_ok_iff

theorem float_onNumbers_eq_ok_iff {onInts : Int → Int → Int}
    {onDoubles : Binary64 → Binary64 → Binary64} {k : Binary64} :
    onNumbers (Number.combine onInts onDoubles) (float k) a = .ok s ↔
      ∃ n x, a.number? = some n ∧ n.toDouble = .ok x ∧ s = .float (onDoubles k x) := by
  have doubles (n : Number) : Number.combine onInts onDoubles (.float k) n =
      n.toDouble >>= fun x => .ok (.float (onDoubles k x)) := by
    rw [Number.combine_of_not_ints (by simp), Number.toDouble_float, ok_bind]
  constructor
  · intro success
    obtain ⟨m, n, r, hm, hn, hr, rfl⟩ := onNumbers_eq_ok_iff.1 success
    cases hm
    rw [doubles] at hr
    obtain ⟨x, hx, hr⟩ := bind_eq_ok_iff.1 hr
    cases hr
    exact ⟨n, x, hn, hx, rfl⟩
  · rintro ⟨n, x, hn, hx, rfl⟩
    refine onNumbers_eq_ok_iff.2 ⟨.float k, n, .float (onDoubles k x), rfl, hn, ?_, rfl⟩
    rw [doubles, hx, ok_bind]

end Value

end Joinery
