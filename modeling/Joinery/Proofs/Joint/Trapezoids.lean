import Joinery.Proofs.Joint.Sizes
import Mathlib

/-!
# Trapezoids of teeth

In exact arithmetic the corners of a tooth form a trapezoid that stands on its edge, on the side of
the normal. The trapezoids of a row have nothing in common, for every tooth is followed by an empty
slot, of which the tapers of the teeth on both sides leave three fifths at least.
-/
namespace Joinery

/-! ### The frame of an edge -/

namespace Edge

variable {e : Edge ℝ} {n : Point ℝ}

/-- The point of an edge at a distance from its start. -/
noncomputable def pointAt (e : Edge ℝ) (s : ℝ) : Point ℝ :=
  ⟨e.start.x + s / e.euclidean * (e.stop.x - e.start.x),
    e.start.y + s / e.euclidean * (e.stop.y - e.start.y)⟩

/-- The point at a distance along an edge from its start and a height over it. -/
noncomputable def frame (e : Edge ℝ) (n : Point ℝ) (s height : ℝ) : Point ℝ :=
  ⟨e.start.x + e.along.x * s + n.x * height, e.start.y + e.along.y * s + n.y * height⟩

theorem frame_zero (s : ℝ) : e.frame n s 0 = e.pointAt s := by
  unfold frame pointAt along
  rw [Point.mk.injEq]
  constructor <;> ring

/-- How far along an edge a point of its frame lies. -/
theorem run_frame (positive : 0 < e.euclidean) (normal : e.IsNormal n) (s height : ℝ) :
    (e.frame n s height).x * e.along.x + (e.frame n s height).y * e.along.y =
      e.start.x * e.along.x + e.start.y * e.along.y + s := by
  have unit := along_unit positive
  have upright := normal.upright
  unfold frame
  linear_combination s * unit + height * upright

/-- How high over an edge a point of its frame lies. -/
theorem reach_frame (positive : 0 < e.euclidean) (normal : e.IsNormal n) (s height : ℝ) :
    e.reach n (e.frame n s height) = height := by
  have unit := normal.unit
  have upright := normal.upright
  have level : n.x * (e.stop.x - e.start.x) + n.y * (e.stop.y - e.start.y) = 0 := by
    have stretched : n.x * (e.stop.x - e.start.x) + n.y * (e.stop.y - e.start.y) =
        (n.x * e.along.x + n.y * e.along.y) * e.euclidean := by
      unfold along
      field_simp
    rw [stretched, upright, zero_mul]
  unfold reach middle frame Arithmetic.half
  linear_combination height * unit + s * upright - level / 2

/-- A segment along an edge, at one height over it, is as long as it goes along the edge. -/
theorem euclidean_frame (positive : 0 < e.euclidean) {s t : ℝ} (height : ℝ) (less : s ≤ t) :
    euclidean { start := e.frame n s height, stop := e.frame n t height } = t - s := by
  have unit := along_unit positive
  have squared : ((e.frame n t height).x - (e.frame n s height).x) ^ 2 +
      ((e.frame n t height).y - (e.frame n s height).y) ^ 2 = (t - s) ^ 2 := by
    unfold frame
    linear_combination (t - s) ^ 2 * unit
  unfold euclidean
  rw [squared, Real.sqrt_sq (sub_nonneg.2 less)]

/-- Such a segment has the direction of the edge. -/
theorem along_frame (positive : 0 < e.euclidean) {s t : ℝ} (height : ℝ) (less : s < t) :
    along { start := e.frame n s height, stop := e.frame n t height } = e.along := by
  have long := euclidean_frame (n := n) positive height less.le
  have nonzero : t - s ≠ 0 := (sub_pos.2 less).ne'
  cases ha : e.along with
  | mk x y =>
    unfold along
    rw [long, Point.mk.injEq]
    simp only [frame, ha]
    constructor <;> field_simp <;> ring

end Edge

/-! ### Trapezoids -/

/-- Four corners over an edge: start and end of the base, end and start of the outer side. -/
structure Trapezoid where
  baseStart : Point ℝ
  baseEnd : Point ℝ
  outerEnd : Point ℝ
  outerStart : Point ℝ

namespace Trapezoid

def corners (q : Trapezoid) : List (Point ℝ) := [q.baseStart, q.baseEnd, q.outerEnd, q.outerStart]

/-- The part of the plane that a trapezoid covers, its sides included. -/
def region (q : Trapezoid) : Set (ℝ × ℝ) := convexHull ℝ {p | ∃ c ∈ q.corners, p = (c.x, c.y)}

/-- The outer side. -/
def outer (q : Trapezoid) : Edge ℝ := { start := q.outerStart, stop := q.outerEnd }

/-- The segment from the end of one outer side to the start of another. -/
def gap (q r : Trapezoid) : Edge ℝ := { start := q.outerEnd, stop := r.outerStart }

/-- A trapezoid stands with its base on an edge, where a tooth has its slot, and has its outer side
parallel to the edge, in the direction of a normal and as high as the tooth is deep. -/
structure StandsOn (q : Trapezoid) (e : Edge ℝ) (n : Point ℝ) (t : Tooth ℝ) : Prop where
  start_nonneg : 0 ≤ t.startDistance
  start_lt : t.startDistance < t.startDistance + t.width
  stop_le : t.startDistance + t.width ≤ e.euclidean
  baseStart : q.baseStart = e.pointAt t.startDistance
  baseEnd : q.baseEnd = e.pointAt (t.startDistance + t.width)
  parallel : q.outer.along = e.along
  deep : 0 < t.depth
  height : e.reach n q.outerStart = t.depth ∧ e.reach n q.outerEnd = t.depth
  length : q.outer.euclidean = t.width + 2 * t.taper
  flare : t.width + 2 * t.taper ≤ 1.4 * t.width

/-- A trapezoid lies on the side of a line on which its corners lie. -/
theorem region_subset {q : Trapezoid} {u : Point ℝ} {c : ℝ}
    (below : ∀ p ∈ q.corners, p.x * u.x + p.y * u.y ≤ c) :
    q.region ⊆ {p | p.1 * u.x + p.2 * u.y ≤ c} := by
  have linear : IsLinearMap ℝ fun p : ℝ × ℝ => p.1 * u.x + p.2 * u.y := by
    constructor
    · intro p r
      simp only [Prod.fst_add, Prod.snd_add]
      ring
    · intro k p
      simp only [Prod.smul_fst, Prod.smul_snd, smul_eq_mul]
      ring
  refine convexHull_min ?_ (convex_halfSpace_le linear c)
  rintro _ ⟨p, corner, rfl⟩
  exact below p corner

end Trapezoid

namespace Edge

variable {e : Edge ℝ} {n : Point ℝ} {t : Tooth ℝ}

/-- The trapezoid of a tooth on an edge with a normal. -/
noncomputable def trapezoid (e : Edge ℝ) (n : Point ℝ) (t : Tooth ℝ) : Trapezoid where
  baseStart := e.frame n t.startDistance 0
  baseEnd := e.frame n (t.startDistance + t.width) 0
  outerEnd := e.frame n (t.startDistance + t.width + t.taper) t.depth
  outerStart := e.frame n (t.startDistance - t.taper) t.depth

/-- The corners of a tooth are those of its trapezoid. -/
theorem outline_extended (positive : 0 < e.euclidean)
    (outward : t.outwardOffset = ⟨n.x * t.depth, n.y * t.depth⟩) :
    Tooth.outline e.extended t.extended = .ok ((e.trapezoid n t).corners.map Point.extended) := by
  let start : Point ℝ := ⟨e.start.x + e.along.x * t.startDistance,
    e.start.y + e.along.y * t.startDistance⟩
  let stop : Point ℝ := ⟨e.start.x + e.along.x * (t.startDistance + t.width),
    e.start.y + e.along.y * (t.startDistance + t.width)⟩
  let outerEnd : Point ℝ := ⟨stop.x + t.outwardOffset.x + e.along.x * t.taper,
    stop.y + t.outwardOffset.y + e.along.y * t.taper⟩
  let outerStart : Point ℝ := ⟨start.x + t.outwardOffset.x - e.along.x * t.taper,
    start.y + t.outwardOffset.y - e.along.y * t.taper⟩
  have drawn : Tooth.outline e.extended t.extended =
      .ok ([start, stop, outerEnd, outerStart].map Point.extended) := by
    unfold Tooth.outline
    rw [direction_extended, ok_bind, unit_extended positive, ok_bind]
    rfl
  have same : [start, stop, outerEnd, outerStart] = (e.trapezoid n t).corners := by
    simp only [start, stop, outerEnd, outerStart, outward, Trapezoid.corners, trapezoid, frame,
      List.cons.injEq, Point.mk.injEq, and_true]
    refine ⟨⟨?_, ?_⟩, ⟨?_, ?_⟩, ⟨?_, ?_⟩, ?_, ?_⟩ <;> ring
  rw [drawn, same]

theorem trapezoid_standsOn (positive : 0 < e.euclidean) (normal : e.IsNormal n)
    (start : 0 ≤ t.startDistance) (stop : t.startDistance + t.width ≤ e.euclidean)
    (wide : 0 < t.width) (deep : 0 < t.depth) (flared : 0 ≤ t.taper)
    (flare : t.taper ≤ 0.2 * t.width) : (e.trapezoid n t).StandsOn e n t where
  start_nonneg := start
  start_lt := lt_add_of_pos_right _ wide
  stop_le := stop
  baseStart := frame_zero _
  baseEnd := frame_zero _
  parallel := along_frame positive t.depth (by linarith)
  deep := deep
  height := ⟨reach_frame positive normal _ _, reach_frame positive normal _ _⟩
  length := by
    have long := euclidean_frame (n := n) positive t.depth
      (by linarith : t.startDistance - t.taper ≤ t.startDistance + t.width + t.taper)
    refine long.trans ?_
    ring
  flare := by linarith

/-- Along the edge the corners of a trapezoid lie between the ends of its outer side. -/
theorem run_trapezoid (positive : 0 < e.euclidean) (normal : e.IsNormal n) (wide : 0 ≤ t.width)
    (flared : 0 ≤ t.taper) : ∀ p ∈ (e.trapezoid n t).corners,
      e.start.x * e.along.x + e.start.y * e.along.y + (t.startDistance - t.taper) ≤
        p.x * e.along.x + p.y * e.along.y ∧
      p.x * e.along.x + p.y * e.along.y ≤
        e.start.x * e.along.x + e.start.y * e.along.y +
          (t.startDistance + t.width + t.taper) := by
  simp only [Trapezoid.corners, trapezoid, List.forall_mem_cons, run_frame positive normal]
  refine ⟨⟨?_, ?_⟩, ⟨?_, ?_⟩, ⟨?_, ?_⟩, ⟨?_, ?_⟩, nofun⟩ <;> linarith

variable {s : Tooth ℝ}

/-- Teeth whose outer sides are apart along the edge have nothing in common. -/
theorem disjoint_trapezoids (positive : 0 < e.euclidean) (normal : e.IsNormal n)
    (wide : 0 ≤ t.width ∧ 0 ≤ s.width) (flared : 0 ≤ t.taper ∧ 0 ≤ s.taper)
    (apart : t.startDistance + t.width + t.taper < s.startDistance - s.taper) :
    Disjoint (e.trapezoid n t).region (e.trapezoid n s).region := by
  -- A line across the edge, between the two outer sides, has a trapezoid on each side of it.
  refine Set.disjoint_left.2 fun p here there => ?_
  have before : p.1 * e.along.x + p.2 * e.along.y ≤ e.start.x * e.along.x +
      e.start.y * e.along.y + (t.startDistance + t.width + t.taper) :=
    Trapezoid.region_subset
      (fun q corner => (run_trapezoid positive normal wide.1 flared.1 q corner).2) here
  have behind : p.1 * -e.along.x + p.2 * -e.along.y ≤ -(e.start.x * e.along.x +
      e.start.y * e.along.y + (s.startDistance - s.taper)) := by
    refine Trapezoid.region_subset (u := ⟨-e.along.x, -e.along.y⟩) (fun q corner => ?_) there
    have low := (run_trapezoid positive normal wide.2 flared.2 q corner).1
    dsimp only
    linarith
  linarith

/-- The gap between the outer sides of teeth of one depth is what lies between them along the
edge. -/
theorem euclidean_gap (positive : 0 < e.euclidean) (level : t.depth = s.depth)
    (apart : t.startDistance + t.width + t.taper ≤ s.startDistance - s.taper) :
    ((e.trapezoid n t).gap (e.trapezoid n s)).euclidean =
      s.startDistance - s.taper - (t.startDistance + t.width + t.taper) := by
  rw [← euclidean_frame (n := n) positive t.depth apart]
  unfold Trapezoid.gap trapezoid
  rw [level]

end Edge

/-! ### Teeth of a row -/

namespace Tooth

variable {e : Edge ℝ} {j : Joint} {m : Measures ℝ}

theorem Measures.Sized.standsOn (sized : m.Sized e j) {slot : ℕ}
    (below : slot < m.slots.count.toNat) :
    (e.trapezoid m.normal (m.tooth slot)).StandsOn e m.normal (m.tooth slot) := by
  have positive := sized.euclidean_pos
  have last : (slot : ℝ) + 1 ≤ m.slots.count := by
    exact_mod_cast (by omega : (slot : ℤ) + 1 ≤ m.slots.count)
  have stop : slot * m.width + m.width ≤ e.euclidean := by
    have fits := mul_le_mul_of_nonneg_right last sized.width_pos.le
    rw [sized.count_mul_width, sized.length] at fits
    linarith
  exact Edge.trapezoid_standsOn positive sized.normal
    (mul_nonneg (Nat.cast_nonneg slot) sized.width_pos.le) stop sized.width_pos sized.depth_pos
    sized.taper_nonneg sized.taper_le

/-- Behind a tooth an empty slot follows, so the outer sides of two teeth are apart. -/
theorem Measures.Sized.apart (sized : m.Sized e j) {slot next : ℕ} (turn : slot + 2 ≤ next) :
    (slot * m.width + m.width + m.taper) + 0.6 * m.width ≤ next * m.width - m.taper := by
  have later : (slot : ℝ) + 2 ≤ next := by exact_mod_cast turn
  have steps := mul_le_mul_of_nonneg_right later sized.width_pos.le
  have flare := sized.taper_le
  -- Each of the two tapers takes a fifth of the slot between the teeth at most.
  linarith

/-- The corners of the teeth of an edge form trapezoids that stand on the edge, where the teeth have
their slots, and between any two of which there is a gap. -/
theorem outlines_of_teeth {bounds : Option (Box ℝ)} {found : Cut EReal}
    (success : cut (some e.extended) (some j) (bounds.map Box.extended) = .ok found)
    (toothed : found.list ≠ []) :
    ∃ (n : Point ℝ) (row : List (Tooth ℝ × Trapezoid)),
      outwardNormal e.extended (bounds.map Box.extended) = .ok n.extended ∧ e.IsNormal n ∧
      found.list = row.map (fun r => r.1.extended) ∧
      (∀ r ∈ row,
        r.1.extended.endDistance = .ok ((r.1.startDistance + r.1.width : ℝ) : EReal) ∧
        outline e.extended r.1.extended = .ok (r.2.corners.map Point.extended) ∧
        r.2.StandsOn e n r.1) ∧
      row.Pairwise fun r s =>
        Disjoint r.2.region s.2.region ∧ 0.6 * r.1.width ≤ (r.2.gap s.2).euclidean := by
  obtain ⟨m, sized, measured, teeth⟩ := exists_row success toothed
  have positive := sized.euclidean_pos
  refine ⟨m.normal, (slotIndices j.isRight m.slots.count).map fun slot =>
    (m.tooth slot, e.trapezoid m.normal (m.tooth slot)), measured.normal, sized.normal, ?_, ?_, ?_⟩
  · rw [teeth, List.map_map]
    rfl
  · refine List.forall_mem_map.2 fun slot member => ⟨rfl, ?_, ?_⟩
    · exact Edge.outline_extended positive rfl
    · exact sized.standsOn (mem_slotIndices.1 member).1
  · refine List.pairwise_map.2 ((pairwise_slotIndices _ _).imp fun {slot next} turn => ?_)
    have apart := sized.apart turn
    have wide := sized.width_pos
    have flared := sized.taper_nonneg
    constructor
    · refine Edge.disjoint_trapezoids positive sized.normal ⟨wide.le, wide.le⟩ ⟨flared, flared⟩ ?_
      dsimp only [Measures.tooth]
      linarith
    · have level : (m.tooth slot).depth = (m.tooth next).depth := rfl
      dsimp only
      rw [Edge.euclidean_gap positive level] <;> dsimp only [Measures.tooth] <;> linarith

/-- The five dovetails of a board stand on it, ten units apart at least. -/
theorem outlines_of_teeth_board :
    ∃ (found : Cut EReal) (n : Point ℝ) (row : List (Tooth ℝ × Trapezoid)),
    cut (some board.extended) (some fiveDovetails) none = .ok found ∧ found.list ≠ [] ∧
    outwardNormal board.extended none = .ok n.extended ∧
    found.list = row.map (fun r => r.1.extended) ∧
    (∀ r ∈ row, outline board.extended r.1.extended = .ok (r.2.corners.map Point.extended) ∧
      r.2.StandsOn board n r.1) ∧
    row.Pairwise fun r s =>
      Disjoint r.2.region s.2.region ∧ 0.6 * r.1.width ≤ (r.2.gap s.2).euclidean := by
  obtain ⟨found, success, toothed⟩ := exists_teeth readKind_fiveDovetails long_board none
  obtain ⟨n, row, normal, -, teeth, stand, apart⟩ := outlines_of_teeth success toothed
  exact ⟨found, n, row, success, toothed, normal, teeth, fun r member => (stand r member).2, apart⟩

end Tooth

end Joinery
