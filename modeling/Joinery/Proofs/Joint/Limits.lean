import Joinery.Proofs.Joint.Sizes

/-!
# Limits of the sizes of teeth

In exact arithmetic the depth of teeth keeps between parts of the length of the edge and grows with
the thickness, a dovetail is deeper than a finger and hardly tapered, and the number of slots is the
one asked for as far as it fits, or else the greatest that leaves the teeth their least width.
-/
namespace Joinery.Tooth

variable {e : Edge ℝ} {j : Joint}

/-! ### Number of slots -/

namespace Measures.Sized

variable {m : Measures ℝ}

/-- There are never more slots than fit with the least width, two apart. -/
theorem count_le (sized : m.Sized e j) : m.slots.count ≤ max 2 ⌊m.length / 0.001⌋ := by
  by_cases free : ∀ r, ¬ Requests j.fingerCount r
  · rw [sized.free free]
    have wide : 0.001 ≤ max (2 * m.depth) 4 := le_max_of_le_right (by norm_num)
    exact max_le_max_left _ (Int.floor_mono
      (div_le_div_of_nonneg_left sized.length_pos.le (by norm_num) wide))
  · obtain ⟨r, requests⟩ := not_forall_not.1 free
    rw [sized.requested r requests]
    exact min_le_right _ _

theorem least_le_width (sized : m.Sized e j) (long : 0.002 ≤ m.length) : 0.001 ≤ m.width := by
  have most : (m.slots.count : ℝ) ≤ max 2 (m.length / 0.001) := by
    have fits : (m.slots.count : ℝ) ≤ ((max 2 ⌊m.length / 0.001⌋ : ℤ) : ℝ) :=
      Int.cast_le.2 sized.count_le
    rw [Int.cast_max, Int.cast_ofNat] at fits
    exact fits.trans (max_le_max_left _ (Int.floor_le _))
  -- Where two slots of the least width fit, the limit on their number is the quotient alone.
  have two : (2 : ℝ) ≤ m.length / 0.001 := (le_div_iff₀ (by norm_num)).2 (by linarith)
  rw [max_eq_right two, le_div_iff₀ (by norm_num)] at most
  rw [sized.width, le_div_iff₀ sized.count_pos]
  linarith

end Measures.Sized

/-- Of all numbers of slots that are two or leave a least width, the one that is found is the
greatest. -/
theorem isGreatest_free {L least : ℝ} (wide : 0 < least) :
    IsGreatest {k : ℤ | k = 2 ∨ 0 < k ∧ least ≤ L / k} (max 2 ⌊L / least⌋) := by
  constructor
  · rcases le_total ⌊L / least⌋ 2 with few | many
    · exact .inl (max_eq_left few)
    · rw [max_eq_right many]
      have positive : 0 < ⌊L / least⌋ := by omega
      refine .inr ⟨positive, (le_div_iff₀ (Int.cast_pos.2 positive)).2 ?_⟩
      rw [mul_comm]
      exact (le_div_iff₀ wide).1 (Int.floor_le _)
  · rintro k (rfl | ⟨positive, fits⟩)
    · exact le_max_left _ _
    · refine le_max_of_le_right (Int.le_floor.2 ((le_div_iff₀ wide).2 ?_))
      rw [mul_comm]
      exact (le_div_iff₀ (Int.cast_pos.2 positive)).1 fits

/-- The number of slots on an edge with teeth: the number asked for, as far as it fits, or else the
greatest that leaves the teeth their least width. -/
theorem slots_of_length {bounds : Option (Box ℝ)} {found : Cut EReal}
    (success : cut (some e.extended) (some j) (bounds.map Box.extended) = .ok found)
    (toothed : found.list ≠ []) :
    ∃ m : Measures ℝ, Measured e.extended j (bounds.map Box.extended) m.extended ∧
      m.length = e.euclidean ∧ m.width = m.length / m.slots.count ∧
      (∀ t ∈ found.list, t.width = m.width ∧ t.depth = m.depth) ∧
      2 ≤ m.slots.count ∧
      (∀ r, Requests j.fingerCount r → m.slots.count = min ⌊r⌋ (max 2 ⌊m.length / 0.001⌋)) ∧
      ((∀ r, ¬ Requests j.fingerCount r) →
        m.slots.count = max 2 ⌊m.length / max (2 * m.depth) 4⌋ ∧
        IsGreatest {k : ℤ | k = 2 ∨ 0 < k ∧ max (2 * m.depth) 4 ≤ m.length / k} m.slots.count) ∧
      (0.002 ≤ m.length → 0.001 ≤ m.width) := by
  obtain ⟨m, sized, measured, row⟩ := exists_row success toothed
  have shared : ∀ t ∈ found.list, t.width = m.width ∧ t.depth = m.depth := by
    rw [row]
    exact List.forall_mem_map.2 fun slot _ => ⟨rfl, rfl⟩
  refine ⟨m, measured, sized.length, sized.width, shared, sized.two_le, sized.requested, ?_,
    sized.least_le_width⟩
  intro free
  have count := sized.free free
  refine ⟨count, ?_⟩
  rw [count]
  exact isGreatest_free (lt_max_of_lt_right (by norm_num))

/-- A board of a hundred with five slots asked for has five of them, each twenty wide. -/
theorem slots_of_length_board : ∃ found,
    cut (some board.extended) (some fiveDovetails) none = .ok found ∧ found.list ≠ [] ∧
    ∃ m : Measures ℝ, Measured board.extended fiveDovetails none m.extended ∧
      m.slots.count = 5 ∧ m.width = 20 ∧ ∀ t ∈ found.list, t.width = m.width := by
  obtain ⟨found, success, toothed⟩ := exists_teeth readKind_fiveDovetails long_board none
  obtain ⟨m, measured, length, width, shared, -, requested, -, -⟩ :=
    slots_of_length success toothed
  rw [euclidean_board] at length
  have count : m.slots.count = 5 := by
    rw [requested 5 requests_five, length]
    norm_num
  refine ⟨found, success, toothed, m, measured, count, ?_, fun t member => (shared t member).1⟩
  rw [width, length, count]
  norm_num

/-! ### Depth and taper -/

/-- The limits that the depths of fingers and dovetails for one thickness keep. -/
structure DepthLimits (L : ℝ) (thickness : EReal) (finger dovetail : ℝ) : Prop where
  pos : 0 < finger
  le : finger ≤ 0.45 * L
  exact : ∀ x : ℝ, thickness = x → 0.5 ≤ x → x ≤ 0.45 * L → finger = x
  least : 0.5 ≤ 0.45 * L → 0.5 ≤ finger
  deeper : finger ≤ dovetail
  deepest : dovetail ≤ 0.6 * L
  factor : dovetail ≤ 1.6 * finger

theorem depthLimits {L : ℝ} (long : 0 < L) (thickness : EReal) :
    DepthLimits L thickness (depthOf .finger L thickness) (depthOf .dovetail L thickness) where
  pos := fingerDepth_pos thickness long
  le := fingerDepth_le L thickness
  exact := by
    rintro x rfl low high
    exact fingerDepth_eq low high
  least := fun enough => (le_min le_rfl enough).trans (le_fingerDepth L thickness)
  deeper := fingerDepth_le_dovetail thickness long
  deepest := min_le_right _ _
  factor := min_le_left _ _

/-- The depth of fingers and of dovetails keeps its limits, and it grows with the thickness;
dovetails are tapered by a fifth of their depth and width at most, and fingers are not. -/
theorem depth_taper_limits :
    (∀ (L : ℝ) (thickness : Value), 0.001 ≤ L → ∃ finger dovetail : ℝ,
      depthFor .finger thickness (L : EReal) = .ok (finger : EReal) ∧
      depthFor .dovetail thickness (L : EReal) = .ok (dovetail : EReal) ∧
      DepthLimits L (thicknessOf thickness) finger dovetail ∧
      ∀ thicker, thicknessOf thickness ≤ thicknessOf thicker → ∃ finger' dovetail' : ℝ,
        depthFor .finger thicker (L : EReal) = .ok (finger' : EReal) ∧
        depthFor .dovetail thicker (L : EReal) = .ok (dovetail' : EReal) ∧
        finger ≤ finger' ∧ dovetail ≤ dovetail') ∧
    ∀ (e : Edge ℝ) (j : Joint) (bounds : Option (Box ℝ)) (found : Cut EReal),
      cut (some e.extended) (some j) (bounds.map Box.extended) = .ok found →
      ∀ t ∈ found.list, ∃ (kind : JointKind) (depth width taper : ℝ),
        j.readKind = .ok (some kind) ∧
        depthFor kind j.thickness (e.euclidean : EReal) = .ok t.depth ∧
        t.depth = depth ∧ t.width = width ∧ t.taper = taper ∧
        (kind = .finger → taper = 0) ∧
        (kind = .dovetail → 0 < taper ∧ taper ≤ 0.2 * depth ∧ taper ≤ 0.2 * width) := by
  constructor
  · intro L thickness long
    have positive : 0 < L := lt_of_lt_of_le (by norm_num) long
    refine ⟨_, _, depthFor_extended .finger thickness L, depthFor_extended .dovetail thickness L,
      depthLimits positive _, fun thicker more => ?_⟩
    exact ⟨_, _, depthFor_extended .finger thicker L, depthFor_extended .dovetail thicker L,
      depthOf_mono L .finger more, depthOf_mono L .dovetail more⟩
  · intro e j bounds found success t member
    obtain ⟨m, sized, measured, row⟩ := exists_row success (List.ne_nil_of_mem member)
    rw [row, List.mem_map] at member
    obtain ⟨slot, -, rfl⟩ := member
    have depth : depthFor m.kind j.thickness (e.euclidean : EReal) = .ok (m.depth : EReal) := by
      rw [← sized.length]
      exact measured.depth
    refine ⟨m.kind, m.depth, m.width, m.taper, measured.kind, depth, rfl, rfl, rfl, ?_, ?_⟩
    · intro finger
      rw [sized.taper, finger]
      rfl
    · intro dovetail
      have deep := sized.depth_pos
      have wide := sized.width_pos
      rw [sized.taper, dovetail]
      exact ⟨lt_min (by positivity) (by positivity), min_le_left _ _, min_le_right _ _⟩

/-- On a board of a hundred a thickness of ten gives fingers of that depth, and an infinite one
gives deeper ones; the dovetails of the board are tapered. -/
theorem depth_taper_limits_board :
    (∃ finger dovetail endless : ℝ,
      depthFor .finger (.int 10) ((100 : ℝ) : EReal) = .ok (finger : EReal) ∧ finger = 10 ∧
      depthFor .dovetail (.int 10) ((100 : ℝ) : EReal) = .ok (dovetail : EReal) ∧ dovetail ≤ 16 ∧
      depthFor .finger (.float (.infinite false)) ((100 : ℝ) : EReal) = .ok (endless : EReal) ∧
      finger ≤ endless) ∧
    ∃ found, cut (some board.extended) (some fiveDovetails) none = .ok found ∧
      found.list ≠ [] ∧ ∀ t ∈ found.list, ∃ taper : ℝ, t.taper = taper ∧ 0 < taper := by
  have ten : thicknessOf (.int 10) = ((10 : ℝ) : EReal) := by
    have read : thicknessOf (.int 10) = (((10 : ℤ) : ℝ) : EReal) := rfl
    rw [read, Int.cast_ofNat]
  have endless : thicknessOf (.float (.infinite false)) = ⊤ := rfl
  obtain ⟨limits, tapers⟩ := depth_taper_limits
  constructor
  · obtain ⟨finger, dovetail, hfinger, hdovetail, kept, grows⟩ :=
      limits 100 (.int 10) (by norm_num)
    obtain ⟨deeper, -, hdeeper, -, more, -⟩ := grows (.float (.infinite false)) (by
      rw [endless]
      exact le_top)
    have exact : finger = 10 := kept.exact 10 ten (by norm_num) (by norm_num)
    refine ⟨finger, dovetail, deeper, hfinger, exact, hdovetail, ?_, hdeeper, more⟩
    have factor := kept.factor
    rw [exact] at factor
    linarith
  · obtain ⟨found, success, toothed⟩ := exists_teeth readKind_fiveDovetails long_board none
    refine ⟨found, success, toothed, fun t member => ?_⟩
    obtain ⟨kind, depth, width, taper, known, -, -, -, here, -, tapered⟩ :=
      tapers board fiveDovetails none found success t member
    cases known.symm.trans readKind_fiveDovetails
    exact ⟨taper, here, (tapered rfl).1⟩

end Joinery.Tooth
