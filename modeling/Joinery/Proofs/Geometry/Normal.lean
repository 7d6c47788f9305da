import Joinery.Joint.Teeth
import Joinery.Proofs.Number.Doubles

/-!
# Lengths and normals

An edge with doubles for coordinates always has a length and, if the length is not zero, a normal to
its outer side. Coordinates of other kinds may have no length; when they have one, it is a double,
and so are the coordinates of the normal.
-/
namespace Joinery

namespace Value

/-- A number that comes near a double is multiplied as that double. -/
theorem mul_real_float {v : Value} {n : Number} {x : Binary64} (number : v.real = .ok n)
    (near : n.toDouble = .ok x) (k : Binary64) :
    Arithmetic.mul v (float k) = .ok (float (x * k)) := by
  have hnumber : v.number? = some n := by
    unfold real at number
    split at number
    · next found =>
      cases number
      exact found
    · cases number
  have hmul : Number.mul n (.float k) = .ok (.float (x * k)) := by
    cases n with
    | float y =>
      cases near
      rfl
    | int i =>
      have hint : Number.mul (.int i) (.float k) =
          (Number.int i).toDouble >>= fun a => (Number.float k).toDouble >>= fun b =>
            .ok (.float (a * b)) := rfl
      rw [hint, near, Number.toDouble_float, ok_bind, ok_bind]
  have hvalue : Arithmetic.mul v (float k) =
      Number.mul n (.float k) >>= fun m => .ok (ofNumber m) := by
    change Value.mul v (float k) = _
    unfold Value.mul onNumbers
    rw [hnumber]
    cases n <;> rfl
  rw [hvalue, hmul, ok_bind]
  rfl

theorem hypot_eq_ok {a b v : Value} (success : Arithmetic.hypot a b = .ok v) :
    ∃ m n x y, a.real = .ok m ∧ m.toDouble = .ok x ∧ b.real = .ok n ∧ n.toDouble = .ok y ∧
      v = .float (Binary64.hypot x y) := by
  change (do
    let x ← (← a.real).toDouble
    let y ← (← b.real).toDouble
    return Value.float (Binary64.hypot x y)) = .ok v at success
  obtain ⟨m, hm, success⟩ := bind_eq_ok_iff.1 success
  obtain ⟨x, hx, success⟩ := bind_eq_ok_iff.1 success
  obtain ⟨n, hn, success⟩ := bind_eq_ok_iff.1 success
  obtain ⟨y, hy, success⟩ := bind_eq_ok_iff.1 success
  cases success
  exact ⟨m, n, x, y, hm, hx, hn, hy, rfl⟩

end Value

namespace Point

open Value

/-- A point with doubles for coordinates. -/
def ofDoubles (x y : Binary64) : Point Value := ⟨.float x, .float y⟩

theorem add_ofDoubles (a b c d : Binary64) :
    (ofDoubles a b).add (ofDoubles c d) = .ok (ofDoubles (a + c) (b + d)) := rfl

theorem sub_ofDoubles (a b c d : Binary64) :
    (ofDoubles a b).sub (ofDoubles c d) = .ok (ofDoubles (a - c) (b - d)) := rfl

theorem scale_ofDoubles (a b k : Binary64) :
    (ofDoubles a b).scale (.float k) = .ok (ofDoubles (a * k) (b * k)) := rfl

theorem leftTurn_ofDoubles (a b : Binary64) :
    (ofDoubles a b).leftTurn = .ok (ofDoubles (-b) a) := rfl

theorem length_ofDoubles (a b : Binary64) :
    (ofDoubles a b).length = .ok (.float (Binary64.hypot a b)) := rfl

/-- A length is a double. -/
theorem length_eq_ok {p : Point Value} {v : Value} (success : p.length = .ok v) :
    ∃ x, v = .float x := by
  obtain ⟨-, -, x, y, -, -, -, -, rfl⟩ := hypot_eq_ok success
  exact ⟨Binary64.hypot x y, rfl⟩

/-- A vector that has a length can be stretched by doubles. -/
theorem scale_of_length {p : Point Value} {v : Value} (success : p.length = .ok v) (k : Binary64) :
    ∃ x y, p.scale (.float k) = .ok (ofDoubles x y) := by
  obtain ⟨m, n, x, y, hm, hx, hn, hy, -⟩ := hypot_eq_ok success
  refine ⟨x * k, y * k, ?_⟩
  unfold scale
  rw [mul_real_float hm hx, mul_real_float hn hy, ok_bind, ok_bind]
  rfl

theorem unit_of_length {p : Point Value} {x : Binary64} (success : p.length = .ok (.float x))
    (nonzero : x.equals 0 = false) : ∃ a b, p.unit = .ok (ofDoubles a b) := by
  obtain ⟨a, b, hscale⟩ := scale_of_length success (.ofDecimal false 1 0 / x)
  refine ⟨a, b, ?_⟩
  have hdiv : Arithmetic.div (Arithmetic.decimal 1 0) (Value.float x) =
      .ok (Value.float (.ofDecimal false 1 0 / x)) := div_float _ nonzero
  unfold unit
  rw [success, ok_bind, hdiv, ok_bind, hscale]

end Point

namespace Edge

open Point

/-- An edge with doubles for coordinates. -/
def IsDouble (e : Edge Value) : Prop :=
  ∃ a b c d, e.start = ofDoubles a b ∧ e.stop = ofDoubles c d

theorem length_ofDoubles (a b c d : Binary64) :
    length { start := ofDoubles a b, stop := ofDoubles c d } =
      .ok (.float (Binary64.hypot (c - a) (d - b))) := rfl

theorem IsDouble.length {e : Edge Value} (doubles : e.IsDouble) :
    ∃ x, e.length = .ok (.float x) := by
  obtain ⟨a, b, c, d, hstart, hstop⟩ := doubles
  unfold Edge.length Point.distance
  rw [hstart, hstop, sub_ofDoubles, ok_bind]
  exact ⟨_, Point.length_ofDoubles _ _⟩

theorem length_eq_ok {e : Edge Value} {v : Value} (success : e.length = .ok v) :
    ∃ x, v = .float x := by
  obtain ⟨d, -, success⟩ := bind_eq_ok_iff.1 success
  exact Point.length_eq_ok success

/-- The vector along an edge of some length has a direction, and so a normal to the left. -/
theorem leftNormal_of_length {e : Edge Value} {x : Binary64} (success : e.length = .ok (.float x))
    (nonzero : x.equals 0 = false) :
    ∃ d a b, e.direction = .ok d ∧ d.unit = .ok (ofDoubles a b) := by
  obtain ⟨d, hdirection, hlength⟩ := bind_eq_ok_iff.1 success
  obtain ⟨a, b, hunit⟩ := unit_of_length hlength nonzero
  exact ⟨d, a, b, hdirection, hunit⟩

end Edge

namespace Box

/-- A box with doubles for its sides. -/
def IsDouble (b : Box Value) : Prop :=
  ∃ x y width height, b = ⟨.float x, .float y, .float width, .float height⟩

theorem IsDouble.center {b : Box Value} (doubles : b.IsDouble) :
    ∃ x y, b.center = .ok (Point.ofDoubles x y) := by
  obtain ⟨x, y, width, height, rfl⟩ := doubles
  have hhalf : ∀ z : Binary64, Arithmetic.div (Value.float z) (Arithmetic.decimal 2 0) =
      .ok (Value.float (z / .ofDecimal false 2 0)) := fun z =>
    Value.div_float z (by decide +kernel)
  refine ⟨x + width / .ofDecimal false 2 0, y + height / .ofDecimal false 2 0, ?_⟩
  unfold Box.center
  simp only [hhalf, ok_bind]
  rfl

end Box

namespace Tooth

open Point

/-- A normal has doubles for coordinates, whatever those of the edge and the box are. -/
theorem outwardNormal_eq_ok {e : Edge Value} {bounds : Option (Box Value)} {n : Point Value}
    {x : Binary64} (length : e.length = .ok (.float x)) (nonzero : x.equals 0 = false)
    (success : outwardNormal e bounds = .ok n) : ∃ a b, n = ofDoubles a b := by
  obtain ⟨d, a, b, hdirection, hunit⟩ := Edge.leftNormal_of_length length nonzero
  unfold outwardNormal at success
  rw [hdirection, ok_bind, hunit, ok_bind, leftTurn_ofDoubles, ok_bind] at success
  cases bounds with
  | none =>
    cases success
    exact ⟨-b, a, rfl⟩
  | some box =>
    obtain ⟨middle, -, success⟩ := bind_eq_ok_iff.1 success
    obtain ⟨center, -, success⟩ := bind_eq_ok_iff.1 success
    obtain ⟨away, -, success⟩ := bind_eq_ok_iff.1 success
    obtain ⟨side, -, success⟩ := bind_eq_ok_iff.1 success
    obtain ⟨inward, -, success⟩ := bind_eq_ok_iff.1 success
    cases inward with
    | false =>
      cases success
      exact ⟨-b, a, rfl⟩
    | true =>
      cases success
      exact ⟨- -b, -a, rfl⟩

end Tooth

end Joinery
