import Joinery.Proofs.Geometry.Convex
import Joinery.Proofs.Number.Extended

/-!
# Edges between real points

Edges and boxes with real coordinates in exact arithmetic with infinities: their lengths are
Euclidean, and the normal of an edge is a vector of length one that is upright on it.
-/
namespace Joinery

namespace Point

/-- A real point in arithmetic with infinities. -/
def extended (p : Point ℝ) : Point EReal := ⟨p.x, p.y⟩

theorem extended_injective : Function.Injective extended := by
  rintro ⟨a, b⟩ ⟨c, d⟩ same
  obtain ⟨first, second⟩ := Point.mk.inj same
  rw [mk.injEq]
  exact ⟨EReal.coe_eq_coe_iff.1 first, EReal.coe_eq_coe_iff.1 second⟩

variable (p q : Point ℝ)

theorem sub_extended : p.extended.sub q.extended = .ok (extended ⟨p.x - q.x, p.y - q.y⟩) := rfl

theorem dot_extended : p.extended.dot q.extended = .ok ((p.x * q.x + p.y * q.y : ℝ) : EReal) := rfl

theorem length_extended : p.extended.length = .ok (√(p.x ^ 2 + p.y ^ 2) : ℝ) :=
  Arithmetic.hypot_coe p.x p.y

end Point

namespace Box

/-- A real box in arithmetic with infinities. -/
def extended (b : Box ℝ) : Box EReal := ⟨b.x, b.y, b.width, b.height⟩

theorem center_extended (b : Box ℝ) :
    b.extended.center = .ok (Point.extended ⟨b.x + b.width / 2, b.y + b.height / 2⟩) := by
  have half (a : ℝ) :
      Arithmetic.div (a : EReal) (Arithmetic.decimal 2 0) = .ok ((a / 2 : ℝ) : EReal) := by
    rw [Arithmetic.decimal_coe, Arithmetic.div_coe (by simp)]
    simp
  unfold center extended
  rw [half, half]
  rfl

/-- The box around real points goes from the least to the greatest coordinates. -/
theorem around_extended (first : Point ℝ) (rest : List (Point ℝ)) :
    let left := (rest.map Point.x).foldl min first.x
    let bottom := (rest.map Point.y).foldl min first.y
    around ((first :: rest).map Point.extended) = .ok (extended ⟨left, bottom,
      (rest.map Point.x).foldl max first.x - left,
      (rest.map Point.y).foldl max first.y - bottom⟩) := by
  intro left bottom
  have xs : (rest.map Point.extended).map Point.x = (rest.map Point.x).map Real.toEReal := by
    rw [List.map_map, List.map_map]
    rfl
  have ys : (rest.map Point.extended).map Point.y = (rest.map Point.y).map Real.toEReal := by
    rw [List.map_map, List.map_map]
    rfl
  unfold around
  rw [List.map_cons]
  simp only [xs, ys, Point.extended, Arithmetic.leastOf_coe, Arithmetic.greatestOf_coe, ok_bind]
  rfl

end Box

namespace Edge

/-- An edge between real points in arithmetic with infinities. -/
def extended (e : Edge ℝ) : Edge EReal :=
  { start := e.start.extended, stop := e.stop.extended, shape := e.shape, path := e.path,
    index := e.index, closed := e.closed }

variable {e : Edge ℝ}

theorem length_extended (e : Edge ℝ) : e.extended.length = .ok (e.euclidean : EReal) :=
  Point.length_extended ⟨e.stop.x - e.start.x, e.stop.y - e.start.y⟩

/-- The vector of length one along an edge. -/
noncomputable def along (e : Edge ℝ) : Point ℝ :=
  ⟨(e.stop.x - e.start.x) * (1 / e.euclidean), (e.stop.y - e.start.y) * (1 / e.euclidean)⟩

theorem euclidean_sq (e : Edge ℝ) :
    e.euclidean ^ 2 = (e.stop.x - e.start.x) ^ 2 + (e.stop.y - e.start.y) ^ 2 :=
  Real.sq_sqrt (by positivity)

theorem along_unit (positive : 0 < e.euclidean) : e.along.x ^ 2 + e.along.y ^ 2 = 1 := by
  have sides : e.along.x ^ 2 + e.along.y ^ 2 =
      ((e.stop.x - e.start.x) ^ 2 + (e.stop.y - e.start.y) ^ 2) / e.euclidean ^ 2 := by
    unfold along
    ring
  rw [sides, ← euclidean_sq, div_self (pow_ne_zero 2 positive.ne')]

theorem direction_extended (e : Edge ℝ) : e.extended.direction =
    .ok (Point.extended ⟨e.stop.x - e.start.x, e.stop.y - e.start.y⟩) := rfl

theorem unit_extended (positive : 0 < e.euclidean) :
    Point.unit (Point.extended ⟨e.stop.x - e.start.x, e.stop.y - e.start.y⟩) =
      .ok e.along.extended := by
  have measured : (Point.extended ⟨e.stop.x - e.start.x, e.stop.y - e.start.y⟩).length =
      .ok (e.euclidean : EReal) := Point.length_extended _
  have inverse : Arithmetic.div (Arithmetic.decimal 1 0) (e.euclidean : EReal) =
      .ok ((1 / e.euclidean : ℝ) : EReal) := by
    rw [Arithmetic.decimal_coe, Arithmetic.div_coe positive.ne']
    simp
  unfold Point.unit
  rw [measured, ok_bind, inverse, ok_bind]
  rfl

/-- A vector of length one that is upright on an edge. -/
structure IsNormal (e : Edge ℝ) (n : Point ℝ) : Prop where
  unit : n.x ^ 2 + n.y ^ 2 = 1
  upright : n.x * e.along.x + n.y * e.along.y = 0

theorem isNormal_left (positive : 0 < e.euclidean) : e.IsNormal e.left where
  unit := by
    rw [← along_unit positive]
    unfold left along
    ring
  upright := by
    unfold left along
    ring

theorem IsNormal.neg {n : Point ℝ} (normal : e.IsNormal n) : e.IsNormal ⟨-n.x, -n.y⟩ where
  unit := by
    rw [← normal.unit]
    ring
  upright := by
    rw [← neg_eq_zero, ← normal.upright]
    ring

theorem midpoint_extended (e : Edge ℝ) : e.extended.midpoint = .ok e.middle.extended := by
  have half : (Arithmetic.decimal 5 1 : EReal) = ((1 / 2 : ℝ) : EReal) := by
    rw [Arithmetic.decimal_coe]
    norm_num
  have halved :
      e.middle = ⟨(e.start.x + e.stop.x) * (1 / 2), (e.start.y + e.stop.y) * (1 / 2)⟩ := by
    unfold middle Arithmetic.half
    rw [Point.mk.injEq]
    constructor <;> ring
  unfold midpoint Point.midpoint
  rw [half, halved]
  rfl

/-- To the right of an edge. -/
noncomputable def right (e : Edge ℝ) : Point ℝ := ⟨-e.left.x, -e.left.y⟩

theorem reach_right (e : Edge ℝ) (p : Point ℝ) : e.reach e.right p = -(e.area p / e.euclidean) := by
  rw [← reach_left]
  unfold reach right
  ring

/-- The normal is to the right when the center of the box is strictly to the left of the edge, and
to the left otherwise. -/
theorem outwardNormal_box (positive : 0 < e.euclidean) (b : Box ℝ) :
    Tooth.outwardNormal e.extended (some b.extended) =
      .ok (Point.extended (if 0 < e.area ⟨b.x + b.width / 2, b.y + b.height / 2⟩ then e.right
        else e.left)) := by
  let center : Point ℝ := ⟨b.x + b.width / 2, b.y + b.height / 2⟩
  have turned : e.along.extended.leftTurn = .ok e.left.extended := rfl
  have side : (e.middle.x - center.x) * e.left.x + (e.middle.y - center.y) * e.left.y < 0 ↔
      0 < e.area center := by
    have opposite : (e.middle.x - center.x) * e.left.x + (e.middle.y - center.y) * e.left.y =
        -e.reach e.left center := by
      unfold reach
      ring
    rw [opposite, neg_lt_zero, reach_left, div_pos_iff_of_pos_right positive]
  unfold Tooth.outwardNormal
  rw [direction_extended, ok_bind, unit_extended positive, ok_bind, turned, ok_bind]
  simp only [midpoint_extended, Box.center_extended, Point.sub_extended, Point.dot_extended,
    Arithmetic.ofInt_coe, Int.cast_zero, Arithmetic.lt_coe, ok_bind, decide_eq_true_eq]
  by_cases inner : 0 < e.area center
  · rw [if_pos inner, if_pos (side.2 inner)]
    rfl
  · rw [if_neg inner, if_neg (mt side.1 inner)]
    rfl

/-- Every edge of some length has a normal, whatever the box is. -/
theorem outwardNormal_extended (positive : 0 < e.euclidean) (bounds : Option (Box ℝ)) :
    ∃ n : Point ℝ, e.IsNormal n ∧
      Tooth.outwardNormal e.extended (bounds.map Box.extended) = .ok n.extended := by
  have normal := isNormal_left positive
  cases bounds with
  | none =>
    refine ⟨e.left, normal, ?_⟩
    unfold Tooth.outwardNormal
    rw [direction_extended, ok_bind, unit_extended positive, ok_bind]
    rfl
  | some b =>
    refine ⟨_, ?_, outwardNormal_box positive b⟩
    split
    · exact normal.neg
    · exact normal

end Edge

end Joinery
