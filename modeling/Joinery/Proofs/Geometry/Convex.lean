import Joinery.Joint.Teeth
import Joinery.Proofs.Fails
import Joinery.Proofs.Number.Exact

/-!
# Normals of convex polygons

In exact arithmetic the center of the box around a convex polygon lies on the inner side of every
edge or on the line of it. Off the line, the normal of the edge points out of the polygon whatever
the winding is. On the line the normal is to the left, which is outside only for clockwise corners.
-/
namespace Joinery

/-! ### Sides of an edge -/

namespace Edge

variable (e : Edge ℝ)

/-- Twice the area of the triangle over an edge with its apex at a point: positive for points to the
left, negative for points to the right, and zero on the line of the edge. -/
def area (p : Point ℝ) : ℝ :=
  (e.stop.x - e.start.x) * (p.y - e.start.y) - (e.stop.y - e.start.y) * (p.x - e.start.x)

@[simp] theorem area_start : e.area e.start = 0 := by simp [area]

@[simp] theorem area_stop : e.area e.stop = 0 := by
  unfold area
  ring

noncomputable def middle : Point ℝ :=
  ⟨Arithmetic.half (e.start.x + e.stop.x), Arithmetic.half (e.start.y + e.stop.y)⟩

noncomputable def euclidean : ℝ :=
  √((e.stop.x - e.start.x) ^ 2 + (e.stop.y - e.start.y) ^ 2)

/-- The vector of length one to the left. -/
noncomputable def left : Point ℝ :=
  ⟨-((e.stop.y - e.start.y) * (1 / e.euclidean)), (e.stop.x - e.start.x) * (1 / e.euclidean)⟩

/-- How far a point lies from the middle of an edge in the direction of a vector. -/
noncomputable def reach (n p : Point ℝ) : ℝ :=
  (p.x - e.middle.x) * n.x + (p.y - e.middle.y) * n.y

/-- The reach to the left is the height of the triangle over the edge. -/
theorem reach_left (p : Point ℝ) : e.reach e.left p = e.area p / e.euclidean := by
  unfold reach area middle left Arithmetic.half
  ring

theorem midpoint_exact : e.midpoint = .ok e.middle := by
  have halved : e.midpoint =
      .ok ⟨(e.start.x + e.stop.x) * ((5 : ℕ) / 10 ^ 1), (e.start.y + e.stop.y) * ((5 : ℕ) / 10 ^ 1)⟩ :=
    rfl
  rw [halved, middle, Arithmetic.half, Arithmetic.half]
  norm_num
  constructor <;> ring

variable {e}

theorem euclidean_pos (distinct : e.start ≠ e.stop) : 0 < e.euclidean := by
  refine Real.sqrt_pos.2 ?_
  by_contra flat
  have hx : e.stop.x - e.start.x = 0 := by nlinarith [sq_nonneg (e.stop.y - e.start.y)]
  have hy : e.stop.y - e.start.y = 0 := by nlinarith [sq_nonneg (e.stop.x - e.start.x)]
  cases hstart : e.start
  cases hstop : e.stop
  simp only [hstart, hstop] at hx hy distinct
  exact distinct (by simp only [Point.mk.injEq]; constructor <;> linarith)

/-- What reaches nowhere to the left is not to the left of the edge. -/
theorem reach_left_nonpos_iff (distinct : e.start ≠ e.stop) (p : Point ℝ) :
    e.reach e.left p ≤ 0 ↔ e.area p ≤ 0 := by
  rw [reach_left, div_le_iff₀ (euclidean_pos distinct), zero_mul]

theorem reach_right_nonpos_iff (distinct : e.start ≠ e.stop) (p : Point ℝ) :
    e.reach ⟨-e.left.x, -e.left.y⟩ p ≤ 0 ↔ 0 ≤ e.area p := by
  have opposite : e.reach ⟨-e.left.x, -e.left.y⟩ p = -e.reach e.left p := by
    unfold reach
    ring
  rw [opposite, reach_left, neg_nonpos, le_div_iff₀ (euclidean_pos distinct), zero_mul]

theorem unit_exact (distinct : e.start ≠ e.stop) :
    ∃ d u, e.direction = .ok d ∧ d.unit = .ok u ∧ u.leftTurn = .ok e.left := by
  refine ⟨⟨e.stop.x - e.start.x, e.stop.y - e.start.y⟩, ⟨(e.stop.x - e.start.x) * (1 / e.euclidean),
    (e.stop.y - e.start.y) * (1 / e.euclidean)⟩, rfl, ?_, rfl⟩
  have inverse : Arithmetic.div (Arithmetic.decimal 1 0) e.euclidean = .ok (1 / e.euclidean) := by
    rw [Arithmetic.div_exact (euclidean_pos distinct).ne']
    simp
  unfold Point.unit
  have hlength : Point.length (⟨e.stop.x - e.start.x, e.stop.y - e.start.y⟩ : Point ℝ) =
      .ok e.euclidean := rfl
  rw [hlength, ok_bind, inverse, ok_bind]
  rfl

/-- The normal is to the right when the center of the box is strictly to the left of the edge, and
to the left otherwise. -/
theorem outwardNormal_exact {b : Box ℝ} {center : Point ℝ} (distinct : e.start ≠ e.stop)
    (centered : b.center = .ok center) :
    Tooth.outwardNormal e (some b) =
      .ok (if 0 < e.area center then ⟨-e.left.x, -e.left.y⟩ else e.left) := by
  obtain ⟨d, u, hdirection, hunit, hturn⟩ := unit_exact distinct
  have hsub : e.middle.sub center = .ok ⟨e.middle.x - center.x, e.middle.y - center.y⟩ := rfl
  have hdot : Point.dot (⟨e.middle.x - center.x, e.middle.y - center.y⟩ : Point ℝ) e.left =
      .ok (-(e.area center / e.euclidean)) := by
    have product : Point.dot (⟨e.middle.x - center.x, e.middle.y - center.y⟩ : Point ℝ) e.left =
        .ok ((e.middle.x - center.x) * e.left.x + (e.middle.y - center.y) * e.left.y) := rfl
    rw [product, ← reach_left, reach]
    congr 1
    ring
  have negative : -(e.area center / e.euclidean) < 0 ↔ 0 < e.area center := by
    rw [neg_lt_zero, div_pos_iff_of_pos_right (euclidean_pos distinct)]
  unfold Tooth.outwardNormal
  rw [hdirection, ok_bind, hunit, ok_bind, hturn, ok_bind]
  simp only [midpoint_exact, centered, ok_bind, hsub, hdot, Arithmetic.lt_exact,
    Arithmetic.ofInt_exact, Int.cast_zero, negative, decide_eq_true_eq]
  split
  · rfl
  · rfl

end Edge

/-! ### Boxes -/

namespace Box

/-- A box that holds points, with one of them on each of its four sides. -/
structure Hugs (b : Box ℝ) (points : List (Point ℝ)) : Prop where
  within : ∀ p ∈ points, b.x ≤ p.x ∧ p.x ≤ b.x + b.width ∧ b.y ≤ p.y ∧ p.y ≤ b.y + b.height
  left : ∃ p ∈ points, p.x = b.x
  right : ∃ p ∈ points, p.x = b.x + b.width
  bottom : ∃ p ∈ points, p.y = b.y
  top : ∃ p ∈ points, p.y = b.y + b.height

theorem exists_around {points : List (Point ℝ)} (nonempty : points ≠ []) :
    ∃ b, around points = .ok b ∧ b.Hugs points := by
  obtain ⟨first, rest, rfl⟩ := List.exists_cons_of_ne_nil nonempty
  obtain ⟨x₀, hx₀, leastX, belowX⟩ := Arithmetic.leastOf_exact first.x (rest.map Point.x)
  obtain ⟨y₀, hy₀, leastY, belowY⟩ := Arithmetic.leastOf_exact first.y (rest.map Point.y)
  obtain ⟨x₁, hx₁, greatestX, aboveX⟩ := Arithmetic.greatestOf_exact first.x (rest.map Point.x)
  obtain ⟨y₁, hy₁, greatestY, aboveY⟩ := Arithmetic.greatestOf_exact first.y (rest.map Point.y)
  have xs : first.x :: rest.map Point.x = (first :: rest).map Point.x := rfl
  have ys : first.y :: rest.map Point.y = (first :: rest).map Point.y := rfl
  refine ⟨⟨x₀, y₀, x₁ - x₀, y₁ - y₀⟩, ?_, ?_⟩
  · unfold around
    simp only [leastX, leastY, greatestX, greatestY, ok_bind, Arithmetic.sub_exact]
    rfl
  · rw [xs, List.mem_map] at hx₀ hx₁
    rw [ys, List.mem_map] at hy₀ hy₁
    rw [xs, List.forall_mem_map] at belowX aboveX
    rw [ys, List.forall_mem_map] at belowY aboveY
    exact {
      within := fun p hp => ⟨belowX p hp, by simpa using aboveX p hp, belowY p hp,
        by simpa using aboveY p hp⟩
      left := hx₀
      right := by simpa using hx₁
      bottom := hy₀
      top := by simpa using hy₁ }

theorem center_exact (b : Box ℝ) : b.center = .ok ⟨b.x + b.width / 2, b.y + b.height / 2⟩ := by
  have half (a : ℝ) : Arithmetic.div a (Arithmetic.decimal 2 0) = .ok (a / 2) := by
    rw [Arithmetic.div_exact (by simp)]
    simp
  unfold center
  rw [half, half]
  rfl

/-- Where points are on one side of a line, the center of the box around them is not on the other
side. -/
theorem Hugs.center_side {b : Box ℝ} {points : List (Point ℝ)} (hugs : b.Hugs points) {u v w : ℝ}
    (inside : ∀ p ∈ points, 0 ≤ u * p.x + v * p.y + w) :
    0 ≤ u * (b.x + b.width / 2) + v * (b.y + b.height / 2) + w := by
  -- A point on the side where the first coordinate counts least, and one where the second does.
  have across : ∃ p ∈ points, u * p.x = u * (b.x + b.width / 2) - |u| * (b.width / 2) := by
    rcases le_total 0 u with sign | sign
    · obtain ⟨p, member, touches⟩ := hugs.left
      exact ⟨p, member, by rw [touches, abs_of_nonneg sign]; ring⟩
    · obtain ⟨p, member, touches⟩ := hugs.right
      exact ⟨p, member, by rw [touches, abs_of_nonpos sign]; ring⟩
  have upright : ∃ p ∈ points, v * p.y = v * (b.y + b.height / 2) - |v| * (b.height / 2) := by
    rcases le_total 0 v with sign | sign
    · obtain ⟨p, member, touches⟩ := hugs.bottom
      exact ⟨p, member, by rw [touches, abs_of_nonneg sign]; ring⟩
    · obtain ⟨p, member, touches⟩ := hugs.top
      exact ⟨p, member, by rw [touches, abs_of_nonpos sign]; ring⟩
  obtain ⟨p, hp, least⟩ := across
  obtain ⟨q, hq, lowest⟩ := upright
  have farY : v * p.y ≤ v * (b.y + b.height / 2) + |v| * (b.height / 2) := by
    obtain ⟨-, -, low, high⟩ := hugs.within p hp
    have near : |p.y - (b.y + b.height / 2)| ≤ b.height / 2 := abs_le.2 ⟨by linarith, by linarith⟩
    have bound := mul_le_mul_of_nonneg_left near (abs_nonneg v)
    rw [← abs_mul] at bound
    linarith [le_abs_self (v * (p.y - (b.y + b.height / 2)))]
  have farX : u * q.x ≤ u * (b.x + b.width / 2) + |u| * (b.width / 2) := by
    obtain ⟨low, high, -, -⟩ := hugs.within q hq
    have near : |q.x - (b.x + b.width / 2)| ≤ b.width / 2 := abs_le.2 ⟨by linarith, by linarith⟩
    have bound := mul_le_mul_of_nonneg_left near (abs_nonneg u)
    rw [← abs_mul] at bound
    linarith [le_abs_self (u * (q.x - (b.x + b.width / 2)))]
  linarith [inside p hp, inside q hq]

end Box

/-! ### Edges of closed outlines -/

namespace Path

variable {α : Type}

/-- Where an edge begins and ends. -/
def ends (e : Edge α) : Point α × Point α := (e.start, e.stop)

theorem segments_ends (shape path closed : Value) (index : Int) (points : List (Point α)) :
    (segments shape path closed index points).map ends = points.zip points.tail := by
  fun_induction segments with
  | case1 index p q rest ih => simpa [ends] using ih
  | case2 points index short =>
    cases points with
    | nil => rfl
    | cons p rest =>
      cases rest with
      | nil => rfl
      | cons q rest => exact absurd rfl (short p q rest)

theorem zip_concat (p q : Point α) (rest : List (Point α)) :
    (p :: rest).zip (rest ++ [q]) = (p :: rest).zip rest ++ [((p :: rest).getLast nofun, q)] := by
  induction rest generalizing p with
  | nil => rfl
  | cons r rest ih =>
    rw [List.cons_append, List.zip_cons_cons, ih r]
    simp

/-- The edges of a closed outline go from each point to the next one, and from the last to the
first. -/
theorem closed_edges_ends {points : List (Point α)} {closed : Value}
    (closes : closed.isTruthy = true) (several : 2 ≤ points.length) (path shape : Value) :
    (edges ⟨points, closed⟩ path shape).map ends = points.zip (points.rotate 1) := by
  cases points with
  | nil => simp at several
  | cons p rest =>
    have last : closing shape path (p :: rest) =
        [⟨(p :: rest).getLast nofun, p, shape, path, .int ((p :: rest).length - 1),
          .bool true⟩] := by
      unfold closing
      rw [List.getLast?_eq_getLast_of_ne_nil (List.cons_ne_nil p rest)]
      rfl
    unfold edges
    rw [if_neg (Nat.not_lt.2 several), if_pos closes, List.map_append, segments_ends, last,
      List.rotate_cons_succ, List.rotate_zero, zip_concat]
    rfl

end Path

/-! ### Convex polygons -/

/-- Which way round the corners of a polygon go; the interior lies to the left of the edges of a
counterclockwise one. -/
inductive Winding where
  | counterclockwise
  | clockwise

/-- The area that is positive for points on the inner side of an edge. -/
def Winding.inner (w : Winding) (e : Edge ℝ) (p : Point ℝ) : ℝ :=
  match w with
  | .counterclockwise => e.area p
  | .clockwise => -e.area p

theorem Winding.inner_linear (w : Winding) (e : Edge ℝ) :
    ∃ u v c, ∀ p, w.inner e p = u * p.x + v * p.y + c := by
  cases w with
  | counterclockwise =>
    refine ⟨-(e.stop.y - e.start.y), e.stop.x - e.start.x,
      (e.stop.y - e.start.y) * e.start.x - (e.stop.x - e.start.x) * e.start.y, fun p => ?_⟩
    simp only [inner, Edge.area]
    ring
  | clockwise =>
    refine ⟨e.stop.y - e.start.y, -(e.stop.x - e.start.x),
      (e.stop.x - e.start.x) * e.start.y - (e.stop.y - e.start.y) * e.start.x, fun p => ?_⟩
    simp only [inner, Edge.area]
    ring

/-- The corners of a strictly convex polygon in order: from each edge, all corners but its ends are
strictly on the inner side. -/
structure ConvexPolygon where
  corners : List (Point ℝ)
  winding : Winding
  three_le : 3 ≤ corners.length
  nodup : corners.Nodup
  strict : ∀ p q, (p, q) ∈ corners.zip (corners.rotate 1) → ∀ r ∈ corners, r ≠ p → r ≠ q →
    0 < winding.inner { start := p, stop := q } r

namespace ConvexPolygon

variable {P : ConvexPolygon} {e : Edge ℝ}

/-- The edges of a polygon, whatever they are labelled with. -/
def HasEdge (P : ConvexPolygon) (e : Edge ℝ) : Prop :=
  Path.ends e ∈ P.corners.zip (P.corners.rotate 1)

theorem hasEdge_of_mem {closed path shape : Value} (closes : closed.isTruthy = true)
    (member : e ∈ Path.edges ⟨P.corners, closed⟩ path shape) : P.HasEdge e := by
  have several : 2 ≤ P.corners.length := by
    have := P.three_le
    omega
  unfold HasEdge
  rw [← Path.closed_edges_ends closes several path shape]
  exact List.mem_map_of_mem member

theorem HasEdge.inner_nonneg (edge : P.HasEdge e) {r : Point ℝ} (corner : r ∈ P.corners) :
    0 ≤ P.winding.inner e r := by
  by_cases atStart : r = e.start
  · cases hw : P.winding <;> simp [Winding.inner, atStart]
  · by_cases atStop : r = e.stop
    · cases hw : P.winding <;> simp [Winding.inner, atStop]
    · exact (P.strict e.start e.stop edge r corner atStart atStop).le

/-- Beside the ends of an edge there is a third corner, which is strictly inside. -/
theorem HasEdge.exists_inner_pos (edge : P.HasEdge e) :
    ∃ r ∈ P.corners, 0 < P.winding.inner e r := by
  by_contra none
  have covered : P.corners ⊆ [e.start, e.stop] := by
    intro r corner
    by_contra other
    simp only [List.mem_cons, List.not_mem_nil, or_false, not_or] at other
    exact none ⟨r, corner, P.strict e.start e.stop edge r corner other.1 other.2⟩
  have short := (P.nodup.subperm covered).length_le
  have := P.three_le
  simp only [List.length_cons, List.length_nil] at short
  omega

theorem HasEdge.distinct (edge : P.HasEdge e) : e.start ≠ e.stop := by
  intro same
  obtain ⟨r, -, positive⟩ := edge.exists_inner_pos
  have flat : e.area r = 0 := by simp [Edge.area, same]
  cases hw : P.winding <;> simp [Winding.inner, hw, flat] at positive

/-- The center of the box around a polygon is not on the outer side of an edge. -/
theorem HasEdge.center_inner (edge : P.HasEdge e) {b : Box ℝ} (hugs : b.Hugs P.corners) :
    0 ≤ P.winding.inner e ⟨b.x + b.width / 2, b.y + b.height / 2⟩ := by
  obtain ⟨u, v, c, linear⟩ := P.winding.inner_linear e
  rw [linear]
  refine hugs.center_side fun p corner => ?_
  rw [← linear]
  exact edge.inner_nonneg corner

/-- The normal of an edge of a convex polygon points out of it, so that no corner is beyond the edge,
unless the center of the box around the polygon lies on the line of the edge and the corners go
counterclockwise. -/
theorem outwardNormal_pointsOut_iff (P : ConvexPolygon) {closed path shape : Value} {e : Edge ℝ}
    (closes : closed.isTruthy = true) (member : e ∈ Path.edges ⟨P.corners, closed⟩ path shape) :
    ∃ b center middle n, Box.around P.corners = .ok b ∧ b.center = .ok center ∧
      e.midpoint = .ok middle ∧ Tooth.outwardNormal e (some b) = .ok n ∧
      ((∀ p ∈ P.corners, (p.x - middle.x) * n.x + (p.y - middle.y) * n.y ≤ 0) ↔
        ¬ (e.area center = 0 ∧ P.winding = .counterclockwise)) := by
  have edge := hasEdge_of_mem closes member
  have nonempty : P.corners ≠ [] := by
    intro empty
    simpa [empty] using P.three_le
  obtain ⟨b, around, hugs⟩ := Box.exists_around nonempty
  let center : Point ℝ := ⟨b.x + b.width / 2, b.y + b.height / 2⟩
  have inside : 0 ≤ P.winding.inner e center := edge.center_inner hugs
  refine ⟨b, center, e.middle, _, around, b.center_exact, e.midpoint_exact,
    Edge.outwardNormal_exact edge.distinct b.center_exact, ?_⟩
  have outward : (∀ p ∈ P.corners, e.reach e.left p ≤ 0) ↔ ∀ p ∈ P.corners, e.area p ≤ 0 :=
    forall₂_congr fun p _ => Edge.reach_left_nonpos_iff edge.distinct p
  have inward : (∀ p ∈ P.corners, e.reach ⟨-e.left.x, -e.left.y⟩ p ≤ 0) ↔
      ∀ p ∈ P.corners, 0 ≤ e.area p :=
    forall₂_congr fun p _ => Edge.reach_right_nonpos_iff edge.distinct p
  have corners := fun r (corner : r ∈ P.corners) => edge.inner_nonneg corner
  obtain ⟨third, corner, beyond⟩ := edge.exists_inner_pos
  cases hw : P.winding with
  | clockwise =>
    simp only [hw, Winding.inner, neg_nonneg] at inside corners
    rw [if_neg inside.not_gt]
    exact iff_of_true (outward.2 corners) (fun impossible => nomatch impossible.2)
  | counterclockwise =>
    simp only [hw, Winding.inner] at inside corners beyond
    by_cases off : 0 < e.area center
    · rw [if_pos off]
      exact iff_of_true (inward.2 corners) fun on => off.ne' on.1
    · rw [if_neg off]
      refine iff_of_false (fun out => ?_) (not_not.2 ⟨le_antisymm (not_lt.1 off) inside, rfl⟩)
      exact beyond.not_ge (outward.1 out third corner)

/-! ### A right triangle -/

/-- A counterclockwise triangle with a right angle, and sides of length 3, 5 and 4. -/
def rightTriangle : ConvexPolygon where
  corners := [⟨0, 0⟩, ⟨3, 0⟩, ⟨0, 4⟩]
  winding := .counterclockwise
  three_le := by simp
  nodup := by simp
  strict := by
    intro p q edge r corner
    simp only [List.rotate_cons_succ, List.rotate_zero, List.cons_append, List.nil_append,
      List.zip_cons_cons, List.zip_nil_right, List.mem_cons, Prod.mk.injEq, List.not_mem_nil,
      or_false] at edge corner
    rcases edge with ⟨rfl, rfl⟩ | ⟨rfl, rfl⟩ | ⟨rfl, rfl⟩ <;>
      rcases corner with rfl | rfl | rfl <;> simp [Winding.inner, Edge.area]

theorem around_rightTriangle : Box.around rightTriangle.corners = .ok ⟨0, 0, 3, 4⟩ := by
  simp [rightTriangle, Box.around, Arithmetic.leastOf, Arithmetic.greatestOf,
    Arithmetic.least_exact, Arithmetic.greatest_exact, ok_bind]

/-- The edge of length 3, which runs along the bottom of the box. -/
def rightTriangle.bottom : Edge ℝ :=
  { start := ⟨0, 0⟩, stop := ⟨3, 0⟩, closed := .bool true }

/-- The edge of length 5, which is a diagonal of the box. -/
def rightTriangle.slope : Edge ℝ :=
  { start := ⟨3, 0⟩, stop := ⟨0, 4⟩, index := .int 1, closed := .bool true }

/-- The normal of the bottom points out of the triangle. -/
theorem outwardNormal_pointsOut_iff_bottom :
    (Value.bool true).isTruthy = true ∧
      rightTriangle.bottom ∈ Path.edges ⟨rightTriangle.corners, .bool true⟩ (.int 0) .null ∧
      ∃ b middle n, Box.around rightTriangle.corners = .ok b ∧
        rightTriangle.bottom.midpoint = .ok middle ∧
        Tooth.outwardNormal rightTriangle.bottom (some b) = .ok n ∧
        ∀ p ∈ rightTriangle.corners, (p.x - middle.x) * n.x + (p.y - middle.y) * n.y ≤ 0 := by
  have member :
      rightTriangle.bottom ∈ Path.edges ⟨rightTriangle.corners, .bool true⟩ (.int 0) .null :=
    .head _
  obtain ⟨b, center, middle, n, around, centered, halved, normal, points⟩ :=
    outwardNormal_pointsOut_iff rightTriangle rfl member
  refine ⟨rfl, member, b, middle, n, around, halved, normal, points.2 ?_⟩
  rintro ⟨flat, -⟩
  cases around_rightTriangle.symm.trans around
  cases (Box.center_exact _).symm.trans centered
  simp [rightTriangle.bottom, Edge.area] at flat

/-- The center of the box lies on the slope, whose normal points into the triangle. -/
theorem not_forall_outwardNormal_pointsOut :
    ¬ ∀ (P : ConvexPolygon) (e : Edge ℝ),
      e ∈ Path.edges ⟨P.corners, .bool true⟩ (.int 0) .null →
      ∃ b middle n, Box.around P.corners = .ok b ∧ e.midpoint = .ok middle ∧
        Tooth.outwardNormal e (some b) = .ok n ∧
        ∀ p ∈ P.corners, (p.x - middle.x) * n.x + (p.y - middle.y) * n.y ≤ 0 := by
  intro pointsOut
  have edge : rightTriangle.HasEdge rightTriangle.slope := .tail _ (.head _)
  obtain ⟨b, middle, n, around, halved, normal, out⟩ :=
    pointsOut rightTriangle rightTriangle.slope (.tail _ (.head _))
  cases around_rightTriangle.symm.trans around
  cases (Edge.midpoint_exact _).symm.trans halved
  have onSlope : rightTriangle.slope.area ⟨0 + 3 / 2, 0 + 4 / 2⟩ = 0 := by
    norm_num [rightTriangle.slope, Edge.area]
  rw [Edge.outwardNormal_exact edge.distinct (Box.center_exact _), if_neg onSlope.not_gt] at normal
  cases normal
  have origin : rightTriangle.slope.reach rightTriangle.slope.left ⟨0, 0⟩ ≤ 0 :=
    out ⟨0, 0⟩ (.head _)
  rw [Edge.reach_left, div_le_iff₀ (Edge.euclidean_pos edge.distinct), zero_mul] at origin
  norm_num [rightTriangle.slope, Edge.area] at origin

end ConvexPolygon

end Joinery
