import Joinery.Proofs.Joint.Trapezoids
import Joinery.Shape.Figure

/-!
# Teeth on rectangles

In exact arithmetic the teeth on the sides of a rectangle stand outside of it. Each side lies on the
boundary of the box, with all of the box on one side of it, so the normal that points away from the
center of the box points out of the box, whatever the signs of width and height are. A tooth has its
base on the boundary and all else beyond it.
-/
namespace Joinery

/-! ### Points of a box -/

namespace Box

/-- A point lies in a box, the boundary included. -/
structure Holds (b : Box ℝ) (p : Point ℝ) : Prop where
  left : b.x ≤ p.x
  right : p.x ≤ b.x + b.width
  bottom : b.y ≤ p.y
  top : p.y ≤ b.y + b.height

/-- A point lies inside of a box, off the boundary. -/
structure Encloses (b : Box ℝ) (p : Point ℝ) : Prop where
  left : b.x < p.x
  right : p.x < b.x + b.width
  bottom : b.y < p.y
  top : p.y < b.y + b.height

/-- The boundary of a box is what lies in it but not inside. -/
def OnBoundary (b : Box ℝ) (p : Point ℝ) : Prop := b.Holds p ∧ ¬ b.Encloses p

/-- The part of the plane inside of a box. -/
def inside (b : Box ℝ) : Set (ℝ × ℝ) := {p | b.Encloses ⟨p.1, p.2⟩}

theorem encloses_center {b : Box ℝ} (wide : 0 < b.width) (high : 0 < b.height) :
    b.Encloses ⟨b.x + b.width / 2, b.y + b.height / 2⟩ := by
  constructor <;> dsimp only <;> linarith

end Box

/-! ### Sides of a box -/

namespace Edge

/-- An edge of a box: its ends lie in the box, and all that is inside lies on one side of it. -/
structure IsSideOf (e : Edge ℝ) (b : Box ℝ) : Prop where
  start : b.Holds e.start
  stop : b.Holds e.stop
  turn : ∃ k : ℝ, (∀ p, b.Holds p → 0 ≤ k * e.area p) ∧ ∀ p, b.Encloses p → 0 < k * e.area p

variable {e : Edge ℝ} {b : Box ℝ} {n : Point ℝ}

/-- What lies between the ends of an edge is on the boundary of the box. -/
theorem IsSideOf.onBoundary (side : e.IsSideOf b) (positive : 0 < e.euclidean) {s : ℝ}
    (low : 0 ≤ s) (high : s ≤ e.euclidean) : b.OnBoundary (e.pointAt s) := by
  have share : s / e.euclidean ∈ Set.Icc (0 : ℝ) 1 :=
    ⟨div_nonneg low positive.le, (div_le_one positive).2 high⟩
  have between {a b u v : ℝ} (first : a ∈ Set.Icc u v) (last : b ∈ Set.Icc u v) :
      a + s / e.euclidean * (b - a) ∈ Set.Icc u v :=
    (convex_Icc u v).add_smul_sub_mem first last share
  obtain ⟨k, -, inner⟩ := side.turn
  constructor
  · obtain ⟨left, right⟩ := between ⟨side.start.left, side.start.right⟩
      ⟨side.stop.left, side.stop.right⟩
    obtain ⟨bottom, top⟩ := between ⟨side.start.bottom, side.start.top⟩
      ⟨side.stop.bottom, side.stop.top⟩
    exact ⟨left, right, bottom, top⟩
  · intro enclosed
    have flat : e.area (e.pointAt s) = 0 := by
      unfold area pointAt
      ring
    have beside := inner _ enclosed
    rw [flat, mul_zero] at beside
    exact lt_irrefl 0 beside

/-- The normal that points away from the center of a box points out of the box. -/
theorem IsSideOf.reach_nonpos (side : e.IsSideOf b) (positive : 0 < e.euclidean)
    (wide : 0 < b.width) (high : 0 < b.height)
    (normal : Tooth.outwardNormal e.extended (some b.extended) = .ok n.extended) :
    (∀ p, b.Holds p → e.reach n p ≤ 0) ∧ ∀ p, b.Encloses p → e.reach n p < 0 := by
  obtain ⟨k, holds, encloses⟩ := side.turn
  -- The center is inside, so the side on which it lies tells the sign of `k`.
  have center := encloses _ (Box.encloses_center wide high)
  rw [outwardNormal_box positive] at normal
  rw [← Point.extended_injective (Except.ok.inj normal)]
  split
  next left =>
    have sign : 0 < k := (pos_iff_pos_of_mul_pos center).2 left
    simp only [reach_right, neg_nonpos, neg_neg_iff_pos]
    exact ⟨fun p h => div_nonneg (nonneg_of_mul_nonneg_right (holds p h) sign) positive.le,
      fun p h => div_pos ((pos_iff_pos_of_mul_pos (encloses p h)).1 sign) positive⟩
  next notLeft =>
    have right := lt_of_le_of_ne (not_lt.1 notLeft) (right_ne_zero_of_mul center.ne')
    have sign : k < 0 := (neg_iff_neg_of_mul_pos center).2 right
    simp only [reach_left]
    exact ⟨fun p h => div_nonpos_of_nonpos_of_nonneg
        (nonpos_of_mul_nonneg_right (holds p h) sign) positive.le,
      fun p h => div_neg_of_neg_of_pos ((neg_iff_neg_of_mul_pos (encloses p h)).1 sign) positive⟩

/-- No corner of a trapezoid is behind its edge. -/
theorem reach_trapezoid {t : Tooth ℝ} (positive : 0 < e.euclidean) (normal : e.IsNormal n)
    (deep : 0 ≤ t.depth) : ∀ p ∈ (e.trapezoid n t).corners, 0 ≤ e.reach n p := by
  simp [Trapezoid.corners, trapezoid, reach_frame positive normal, deep]

/-- A trapezoid over a side of a box has nothing of what is inside. -/
theorem IsSideOf.disjoint_inside {t : Tooth ℝ} (positive : 0 < e.euclidean)
    (normal : e.IsNormal n) (deep : 0 ≤ t.depth)
    (out : ∀ p, b.Encloses p → e.reach n p < 0) : Disjoint (e.trapezoid n t).region b.inside := by
  refine Set.disjoint_left.2 fun p here enclosed => ?_
  have beyond : p.1 * -n.x + p.2 * -n.y ≤ -(e.middle.x * n.x + e.middle.y * n.y) := by
    refine Trapezoid.region_subset (u := ⟨-n.x, -n.y⟩) (fun q corner => ?_) here
    have reached := reach_trapezoid positive normal deep q corner
    unfold reach at reached
    dsimp only
    linarith
  have behind := out _ enclosed
  unfold reach at behind
  dsimp only at behind
  linarith

end Edge

/-! ### Rectangles -/

/-- A rectangle with real measures. Its sides may be negative but not zero. -/
structure Rectangle where
  x : ℝ
  y : ℝ
  width : ℝ
  height : ℝ
  wide : width ≠ 0
  high : height ≠ 0

namespace Rectangle

variable (r : Rectangle)

/-- The corners in order. -/
def corners : List (Point ℝ) :=
  [⟨r.x, r.y⟩, ⟨r.x + r.width, r.y⟩, ⟨r.x + r.width, r.y + r.height⟩, ⟨r.x, r.y + r.height⟩]

/-- The box around a rectangle. -/
noncomputable def box : Box ℝ :=
  ⟨min r.x (r.x + r.width), min r.y (r.y + r.height), |r.width|, |r.height|⟩

/-- The edges of the outline. -/
def sides (shape : Value) : List (Edge ℝ) := Path.edgesOf shape [⟨r.corners, .bool true⟩]

theorem rectangleCorners_extended :
    Figure.rectangleCorners (r.x : EReal) r.y r.width r.height =
      .ok (r.corners.map Point.extended) :=
  rfl

theorem edgesOf_extended (shape : Value) :
    Path.edgesOf shape [⟨r.corners.map Point.extended, .bool true⟩] =
      (r.sides shape).map Edge.extended :=
  rfl

theorem around_extended :
    Box.around (r.corners.map Point.extended) = .ok r.box.extended := by
  have xs : max r.x (r.x + r.width) - min r.x (r.x + r.width) = |r.width| := by
    rw [max_sub_min_eq_abs, add_sub_cancel_left]
  have ys : max r.y (r.y + r.height) - min r.y (r.y + r.height) = |r.height| := by
    rw [max_sub_min_eq_abs, add_sub_cancel_left]
  unfold corners box
  rw [Box.around_extended, ← xs, ← ys]
  simp

/-! ### Margins -/

/-- How far a point lies from the lines of the four sides, each time a side of the rectangle: in the
rectangle none of them is negative. -/
def margins : List (Point ℝ → ℝ) :=
  [fun p => r.width * (p.x - r.x), fun p => r.width * (r.x + r.width - p.x),
    fun p => r.height * (p.y - r.y), fun p => r.height * (r.y + r.height - p.y)]

/-- A range from `a` over a length that may be negative. -/
theorem margin_signs {a k : ℝ} (nonzero : k ≠ 0) (t : ℝ) :
    (min a (a + k) ≤ t → t ≤ min a (a + k) + |k| → 0 ≤ k * (t - a) ∧ 0 ≤ k * (a + k - t)) ∧
      (min a (a + k) < t → t < min a (a + k) + |k| → 0 < k * (t - a) ∧ 0 < k * (a + k - t)) := by
  obtain sign | sign := lt_or_gt_of_ne nonzero
  · rw [min_eq_right (by linarith), abs_of_neg sign]
    exact ⟨fun low high => ⟨mul_nonneg_of_nonpos_of_nonpos sign.le (by linarith),
        mul_nonneg_of_nonpos_of_nonpos sign.le (by linarith)⟩,
      fun low high => ⟨mul_pos_of_neg_of_neg sign (by linarith),
        mul_pos_of_neg_of_neg sign (by linarith)⟩⟩
  · rw [min_eq_left (by linarith), abs_of_pos sign]
    exact ⟨fun low high => ⟨mul_nonneg sign.le (by linarith), mul_nonneg sign.le (by linarith)⟩,
      fun low high => ⟨mul_pos sign (by linarith), mul_pos sign (by linarith)⟩⟩

variable {r} {p : Point ℝ}

theorem margins_nonneg (held : r.box.Holds p) : ∀ margin ∈ r.margins, 0 ≤ margin p := by
  obtain ⟨left, right⟩ := (margin_signs r.wide p.x).1 held.left held.right
  obtain ⟨bottom, top⟩ := (margin_signs r.high p.y).1 held.bottom held.top
  simp [margins, left, right, bottom, top]

theorem margins_pos (enclosed : r.box.Encloses p) : ∀ margin ∈ r.margins, 0 < margin p := by
  obtain ⟨left, right⟩ := (margin_signs r.wide p.x).2 enclosed.left enclosed.right
  obtain ⟨bottom, top⟩ := (margin_signs r.high p.y).2 enclosed.bottom enclosed.top
  simp [margins, left, right, bottom, top]

variable {shape : Value} {e : Edge ℝ}

/-- The sides go from each corner to the next one. -/
theorem ends_of_mem_sides (member : e ∈ r.sides shape) :
    Path.ends e ∈ r.corners.zip (r.corners.rotate 1) := by
  have outline : r.sides shape = Path.edges ⟨r.corners, .bool true⟩ (.int 0) shape := rfl
  have several : 2 ≤ r.corners.length := by simp [corners]
  have closed : (Value.bool true).isTruthy = true := rfl
  rw [← Path.closed_edges_ends closed several (.int 0) shape, ← outline]
  exact List.mem_map_of_mem member

/-- Points on one side of a side have one sign of its area. -/
theorem exists_margin (member : e ∈ r.sides shape) : ∃ margin ∈ r.margins, ∃ c > 0,
    ∀ p, r.width * r.height * e.area p = c * margin p := by
  have wide : 0 < r.width ^ 2 := by
    have := r.wide
    positivity
  have high : 0 < r.height ^ 2 := by
    have := r.high
    positivity
  have ends := ends_of_mem_sides member
  simp only [corners, Path.ends, List.rotate_cons_succ, List.rotate_zero, List.cons_append,
    List.nil_append, List.zip_cons_cons, List.zip_nil_right, List.mem_cons, Prod.mk.injEq,
    List.not_mem_nil, or_false] at ends
  simp only [margins, List.exists_mem_cons_iff]
  unfold Edge.area
  -- Bottom, right, top and left: the ends of a side differ in one coordinate only.
  obtain ⟨start, stop⟩ | ⟨start, stop⟩ | ⟨start, stop⟩ | ⟨start, stop⟩ := ends <;> rw [start, stop]
  · refine .inr (.inr (.inl ⟨_, wide, fun p => ?_⟩))
    ring
  · refine .inr (.inl ⟨_, high, fun p => ?_⟩)
    ring
  · refine .inr (.inr (.inr (.inl ⟨_, wide, fun p => ?_⟩)))
    ring
  · refine .inl ⟨_, high, fun p => ?_⟩
    ring

theorem box_width_pos (r : Rectangle) : 0 < r.box.width := abs_pos.2 r.wide

theorem box_height_pos (r : Rectangle) : 0 < r.box.height := abs_pos.2 r.high

/-- The corners lie in the box. -/
theorem holds_of_mem_corners (corner : p ∈ r.corners) : r.box.Holds p := by
  have low (a k : ℝ) : min a (a + k) ≤ a ∧ min a (a + k) ≤ a + k :=
    ⟨min_le_left _ _, min_le_right _ _⟩
  have high (a k : ℝ) : a ≤ min a (a + k) + |k| ∧ a + k ≤ min a (a + k) + |k| := by
    have span := max_sub_min_eq_abs a (a + k)
    rw [add_sub_cancel_left] at span
    rw [← span, add_sub_cancel]
    exact ⟨le_max_left _ _, le_max_right _ _⟩
  simp only [corners, List.mem_cons, List.not_mem_nil, or_false] at corner
  obtain rfl | rfl | rfl | rfl := corner <;> constructor <;> simp [box, low, high]

theorem isSideOf (member : e ∈ r.sides shape) : e.IsSideOf r.box := by
  obtain ⟨start, stop⟩ := List.of_mem_zip (ends_of_mem_sides member)
  obtain ⟨margin, among, c, positive, same⟩ := exists_margin member
  refine ⟨holds_of_mem_corners start, holds_of_mem_corners (List.mem_rotate.1 stop),
    r.width * r.height, fun p held => ?_, fun p enclosed => ?_⟩
  · rw [same]
    exact mul_nonneg positive.le (margins_nonneg held margin among)
  · rw [same]
    exact mul_pos positive (margins_pos enclosed margin among)

end Rectangle

/-! ### Teeth of a rectangle -/

namespace Tooth

/-- Within the box around the corners of a rectangle, a tooth on a side has its base on the boundary
of the box and its outer corners outside of it, and has nothing of what is inside. -/
theorem outlines_of_rectangle (r : Rectangle) (shape : Value) (j : Joint) :
    ∃ corners bounds, Figure.rectangleCorners (r.x : EReal) r.y r.width r.height = .ok corners ∧
      Box.around corners = .ok bounds ∧ bounds = r.box.extended ∧
      ∀ e ∈ Path.edgesOf shape [⟨corners, .bool true⟩], ∀ found,
        cut (some e) (some j) (some bounds) = .ok found → ∀ t ∈ found.list,
          ∃ q : Trapezoid, outline e t = .ok (q.corners.map Point.extended) ∧
            r.box.OnBoundary q.baseStart ∧ r.box.OnBoundary q.baseEnd ∧
            ¬ r.box.Holds q.outerEnd ∧ ¬ r.box.Holds q.outerStart ∧
            Disjoint q.region r.box.inside := by
  refine ⟨_, _, r.rectangleCorners_extended, r.around_extended, rfl, ?_⟩
  rw [Rectangle.edgesOf_extended]
  refine List.forall_mem_map.2 fun e member found success t tooth => ?_
  have within : cut (some e.extended) (some j) ((some r.box).map Box.extended) = .ok found :=
    success
  obtain ⟨m, sized, measured, teeth⟩ := exists_row within (List.ne_nil_of_mem tooth)
  rw [teeth] at tooth
  obtain ⟨slot, inSlots, rfl⟩ := List.mem_map.1 tooth
  have positive := sized.euclidean_pos
  have side := Rectangle.isSideOf member
  have stands := sized.standsOn (mem_slotIndices.1 inSlots).1
  obtain ⟨holds, encloses⟩ :=
    side.reach_nonpos positive r.box_width_pos r.box_height_pos measured.normal
  have outside : ∀ p, e.reach m.normal p = (m.tooth slot).depth → ¬ r.box.Holds p :=
    fun p height held => absurd (holds p held) (not_le.2 (height ▸ stands.deep))
  refine ⟨e.trapezoid m.normal (m.tooth slot), Edge.outline_extended positive rfl, ?_, ?_,
    outside _ stands.height.2, outside _ stands.height.1,
    Edge.IsSideOf.disjoint_inside positive sized.normal stands.deep.le encloses⟩
  · rw [stands.baseStart]
    exact side.onBoundary positive stands.start_nonneg (stands.start_lt.le.trans stands.stop_le)
  · rw [stands.baseEnd]
    exact side.onBoundary positive (stands.start_nonneg.trans stands.start_lt.le) stands.stop_le

/-- The board as a rectangle of height one, drawn from its right end to its left one. -/
def mirrored : Rectangle :=
  ⟨board.stop.x, 0, -board.stop.x, 1, by norm_num [board], one_ne_zero⟩

/-- The first side of the mirrored board. -/
def mirroredSide : Edge ℝ := { start := board.stop, stop := board.start, closed := .bool true }

theorem mirroredSide_mem_sides : mirroredSide ∈ mirrored.sides .null := by
  refine List.mem_cons.2 (.inl ?_)
  simp [mirroredSide, mirrored, board]

theorem long_mirroredSide : 0.001 ≤ mirroredSide.euclidean := by
  have same : mirroredSide.euclidean = board.euclidean := by
    unfold Edge.euclidean mirroredSide
    rw [sub_sq_comm board.start.x, sub_sq_comm board.start.y]
  rw [same]
  exact long_board

/-- The dovetails on the mirrored board stand outside of it. -/
theorem outlines_of_rectangle_mirrored :
    ∃ (corners : List (Point EReal)) (bounds : Box EReal) (found : Cut EReal),
      Figure.rectangleCorners (mirrored.x : EReal) mirrored.y mirrored.width mirrored.height =
        .ok corners ∧
      Box.around corners = .ok bounds ∧
      mirroredSide.extended ∈ Path.edgesOf .null [⟨corners, .bool true⟩] ∧
      cut (some mirroredSide.extended) (some fiveDovetails) (some bounds) = .ok found ∧
      found.list ≠ [] ∧
      ∀ t ∈ found.list, ∃ q : Trapezoid,
        outline mirroredSide.extended t = .ok (q.corners.map Point.extended) ∧
          mirrored.box.OnBoundary q.baseStart ∧ mirrored.box.OnBoundary q.baseEnd ∧
          ¬ mirrored.box.Holds q.outerEnd ∧ ¬ mirrored.box.Holds q.outerStart ∧
          Disjoint q.region mirrored.box.inside := by
  obtain ⟨corners, bounds, drawn, around, same, teeth⟩ :=
    outlines_of_rectangle mirrored .null fiveDovetails
  have first : mirroredSide.extended ∈ Path.edgesOf .null [⟨corners, .bool true⟩] := by
    obtain rfl := Except.ok.inj (drawn.symm.trans mirrored.rectangleCorners_extended)
    rw [Rectangle.edgesOf_extended]
    exact List.mem_map_of_mem mirroredSide_mem_sides
  obtain ⟨found, success, toothed⟩ :=
    exists_teeth readKind_fiveDovetails long_mirroredSide (some mirrored.box)
  rw [Option.map_some, ← same] at success
  exact ⟨corners, bounds, found, drawn, around, first, success, toothed,
    teeth _ first found success⟩

end Tooth

end Joinery
