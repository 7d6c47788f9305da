import Joinery.Proofs.Geometry.Extended
import Joinery.Proofs.Joint.Measures

/-!
# Sizes of teeth

In exact arithmetic every edge of the least length or more has measures for the teeth of a joint of
a known kind. Their depth, number and taper are given by formulas, from which the limits follow that
they keep.
-/
namespace Joinery.Tooth

/-! ### Depth -/

/-- The thickness that a value asks for, which may be infinite; what is no number asks for zero. -/
noncomputable def thicknessOf (thickness : Value) : EReal := thickness.toEReal?.getD 0

/-- The depth of fingers on an edge of a length. -/
noncomputable def fingerDepth (L : ℝ) (thickness : EReal) : ℝ :=
  (min (max thickness (0.5 : ℝ)) (0.45 * L : ℝ)).toReal

/-- The depth of teeth of a kind on an edge of a length. -/
noncomputable def depthOf (kind : JointKind) (L : ℝ) (thickness : EReal) : ℝ :=
  match kind with
  | .finger => fingerDepth L thickness
  | .dovetail => min (1.6 * fingerDepth L thickness) (0.6 * L)

section

variable (L : ℝ) (thickness : EReal)

/-- However much is asked for, the depth is a real number. -/
theorem coe_fingerDepth : (fingerDepth L thickness : EReal) =
    min (max thickness (0.5 : ℝ)) (0.45 * L : ℝ) := by
  refine EReal.coe_toReal (ne_top_of_le_ne_top (EReal.coe_ne_top _) (min_le_right _ _)) ?_
  refine ne_bot_of_le_ne_bot (EReal.coe_ne_bot (min 0.5 (0.45 * L))) ?_
  rw [EReal.coe_strictMono.monotone.map_min]
  exact min_le_min_right _ (le_max_right _ _)

theorem fingerDepth_le : fingerDepth L thickness ≤ 0.45 * L := by
  rw [← EReal.coe_le_coe_iff, coe_fingerDepth]
  exact min_le_right _ _

theorem le_fingerDepth : min 0.5 (0.45 * L) ≤ fingerDepth L thickness := by
  rw [← EReal.coe_le_coe_iff, coe_fingerDepth, EReal.coe_strictMono.monotone.map_min]
  exact min_le_min_right _ (le_max_right _ _)

theorem fingerDepth_mono : Monotone (fingerDepth L) := by
  intro a b more
  rw [← EReal.coe_le_coe_iff, coe_fingerDepth, coe_fingerDepth]
  exact min_le_min_right _ (max_le_max_right _ more)

theorem depthOf_mono (kind : JointKind) : Monotone (depthOf kind L) := by
  intro a b more
  have deeper := fingerDepth_mono L more
  cases kind with
  | finger => exact deeper
  | dovetail => exact min_le_min_right _ (mul_le_mul_of_nonneg_left deeper (by norm_num))

variable {L}

/-- Between its limits the depth of fingers is the thickness. -/
theorem fingerDepth_eq {x : ℝ} (low : 0.5 ≤ x) (high : x ≤ 0.45 * L) : fingerDepth L x = x := by
  rw [← EReal.coe_eq_coe_iff, coe_fingerDepth, max_eq_left (EReal.coe_le_coe_iff.2 low),
    min_eq_left (EReal.coe_le_coe_iff.2 high)]

theorem fingerDepth_pos (long : 0 < L) : 0 < fingerDepth L thickness :=
  lt_of_lt_of_le (lt_min (by norm_num) (by positivity)) (le_fingerDepth L thickness)

theorem depthOf_pos (kind : JointKind) (long : 0 < L) : 0 < depthOf kind L thickness := by
  have positive := fingerDepth_pos thickness long
  cases kind with
  | finger => exact positive
  | dovetail => exact lt_min (by positivity) (by positivity)

theorem fingerDepth_le_dovetail (long : 0 < L) :
    fingerDepth L thickness ≤ depthOf .dovetail L thickness := by
  have positive := fingerDepth_pos thickness long
  have shallow := fingerDepth_le L thickness
  exact le_min (by linarith) (by linarith)

end

theorem depthFor_extended (kind : JointKind) (thickness : Value) (L : ℝ) :
    depthFor kind thickness (L : EReal) = .ok (depthOf kind L (thicknessOf thickness) : EReal) := by
  have zero : (Arithmetic.decimal 0 0 : EReal) = 0 := by simp
  have least : (minDepth : EReal) = ((0.5 : ℝ) : EReal) := by
    unfold minDepth
    rw [Arithmetic.decimal_coe]
    norm_num
  have ratio : ((45 : ℕ) / 10 ^ 2 : ℝ) = 0.45 := by norm_num
  have factor : ((16 : ℕ) / 10 ^ 1 : ℝ) = 1.6 := by norm_num
  have widest : ((6 : ℕ) / 10 ^ 1 : ℝ) = 0.6 := by norm_num
  have read : Arithmetic.read thickness = .ok thickness.toEReal? := rfl
  unfold depthFor
  rw [read, ok_bind, zero, least]
  simp only [Arithmetic.greatest_extended, maxDepthRatio, dovetailFactor, maxDovetailRatio,
    Arithmetic.decimal_coe, Arithmetic.mul_coe, ratio, factor, widest, ok_bind,
    Arithmetic.least_extended]
  rw [mul_comm L, ← thicknessOf, ← coe_fingerDepth]
  cases kind with
  | finger => rfl
  | dovetail =>
    rw [mul_comm L, Arithmetic.mul_coe, ok_bind, mul_comm _ 1.6]
    exact congrArg Except.ok EReal.coe_strictMono.monotone.map_min.symm

/-! ### Slots -/

/-- A finger count that reads as a real number of two or more. -/
structure Requests (fingerCount : Value) (r : ℝ) : Prop where
  read : Arithmetic.read fingerCount = .ok (some (r : EReal))
  two_le : 2 ≤ r

theorem freeSlots_extended (L depth : ℝ) :
    freeSlots (L : EReal) depth = .ok ⟨max 2 ⌊L / max (2 * depth) 4⌋, none⟩ := by
  have least : (minFreeWidth : EReal) = ((4 : ℝ) : EReal) := by
    unfold minFreeWidth
    rw [Arithmetic.decimal_coe]
    norm_num
  have wide : max (2 * depth) 4 ≠ 0 := (lt_max_of_lt_right (by norm_num)).ne'
  unfold freeSlots
  rw [least, Arithmetic.ofInt_coe, Arithmetic.mul_coe, ok_bind, Arithmetic.greatest_coe, ok_bind,
    Int.cast_ofNat, Arithmetic.div_coe wide, ok_bind, Arithmetic.floor_coe, ok_bind]
  rfl

theorem minLength_extended : (minLength : EReal) = ((0.001 : ℝ) : EReal) := by
  unfold minLength
  rw [Arithmetic.decimal_coe]
  norm_num

/-- The slots are as many as asked for, down to whole ones and to those that fit. -/
theorem askedSlots_extended (L r : ℝ) : ∃ limit,
    askedSlots (r : EReal) (L : EReal) = .ok ⟨min ⌊r⌋ (max 2 ⌊L / 0.001⌋), limit⟩ := by
  unfold askedSlots
  rw [minLength_extended, Arithmetic.div_coe (by norm_num), ok_bind, Arithmetic.floor_coe, ok_bind]
  simp only [Arithmetic.ofInt_coe, Arithmetic.lt_coe, ok_bind, decide_eq_true_eq]
  by_cases many : ((max 2 ⌊L / 0.001⌋ : ℤ) : ℝ) < r
  · rw [if_pos many, min_eq_right (Int.le_floor.2 many.le)]
    exact ⟨_, rfl⟩
  · rw [if_neg many, Arithmetic.floor_coe, ok_bind,
      min_eq_left (Int.cast_le.1 ((Int.floor_le r).trans (not_lt.1 many)))]
    exact ⟨_, rfl⟩

theorem slotsFor_of_requests {fingerCount : Value} {r : ℝ} (requests : Requests fingerCount r)
    (L depth : ℝ) :
    slotsFor fingerCount (L : EReal) (depth : EReal) = askedSlots (r : EReal) L := by
  obtain ⟨read, two⟩ := requests
  have enough : Arithmetic.le (Arithmetic.ofInt 2) (r : EReal) = .ok true := by
    rw [Arithmetic.ofInt_coe, Arithmetic.le_coe, Int.cast_ofNat, decide_eq_true two]
  unfold slotsFor
  rw [read, ok_bind]
  simp only [Arithmetic.isFinite_coe, enough, ok_bind, if_true]

theorem slotsFor_of_not_requests {fingerCount : Value} (free : ∀ r, ¬ Requests fingerCount r)
    (L depth : ℝ) :
    slotsFor fingerCount (L : EReal) (depth : EReal) = freeSlots (L : EReal) depth := by
  have read : Arithmetic.read fingerCount = .ok fingerCount.toEReal? := rfl
  unfold slotsFor
  rw [read, ok_bind]
  cases found : fingerCount.toEReal? with
  | none => rfl
  | some x =>
    dsimp only
    split
    · next finite =>
      obtain ⟨r, rfl⟩ := Arithmetic.exists_of_isFinite finite
      have few : Arithmetic.le (Arithmetic.ofInt 2) (r : EReal) = .ok false := by
        rw [Arithmetic.ofInt_coe, Arithmetic.le_coe, Int.cast_ofNat,
          decide_eq_false fun two => free r ⟨read.trans (congrArg Except.ok found), two⟩]
      rw [few, ok_bind]
      rfl
    · rfl

/-! ### Taper -/

/-- How far the outer corners of teeth of a kind are moved. -/
noncomputable def taperOf (kind : JointKind) (depth width : ℝ) : ℝ :=
  match kind with
  | .finger => 0
  | .dovetail => min (0.2 * depth) (0.2 * width)

theorem taperFor_extended (kind : JointKind) (depth width : ℝ) :
    taperFor kind (depth : EReal) (width : EReal) = .ok (taperOf kind depth width : EReal) := by
  have zero : (Arithmetic.decimal 0 0 : EReal) = ((0 : ℝ) : EReal) := by simp
  have ratio : ((2 : ℕ) / 10 ^ 1 : ℝ) = 0.2 := by norm_num
  unfold taperFor taperRatio
  rw [zero]
  cases kind with
  | finger => rfl
  | dovetail =>
    simp only [Arithmetic.decimal_coe, ratio, Arithmetic.mul_coe, ok_bind, Arithmetic.least_coe,
      mul_comm _ (0.2 : ℝ)]
    rfl

theorem taperOf_nonneg (kind : JointKind) {depth width : ℝ} (deep : 0 < depth) (wide : 0 < width) :
    0 ≤ taperOf kind depth width := by
  cases kind with
  | finger => exact le_rfl
  | dovetail => exact le_min (by positivity) (by positivity)

theorem taperOf_le (kind : JointKind) {depth width : ℝ} (wide : 0 < width) :
    taperOf kind depth width ≤ 0.2 * width := by
  cases kind with
  | finger => exact mul_nonneg (by norm_num) wide.le
  | dovetail => exact min_le_right _ _

/-! ### Measures -/

/-- A tooth with real measures in arithmetic with infinities. -/
def extended (t : Tooth ℝ) : Tooth EReal :=
  ⟨t.index, t.startDistance, t.width, t.depth, t.outwardOffset.extended, t.taper⟩

namespace Measures

/-- Real measures in arithmetic with infinities. -/
def extended (m : Measures ℝ) : Measures EReal :=
  ⟨m.kind, m.length, m.normal.extended, m.depth, m.slots, m.width, m.taper⟩

/-- The tooth of some measures in a slot. -/
noncomputable def tooth (m : Measures ℝ) (slot : ℕ) : Tooth ℝ :=
  ⟨slot, slot * m.width, m.width, m.depth, ⟨m.normal.x * m.depth, m.normal.y * m.depth⟩, m.taper⟩

theorem teethIn_extended (m : Measures ℝ) (slots : List ℕ) :
    m.extended.teethIn slots = .ok (slots.map fun slot => (m.tooth slot).extended) := by
  have each (slot : ℕ) : inSlot m.extended.normal m.extended.depth m.extended.width
      m.extended.taper slot = .ok (m.tooth slot).extended := by
    unfold inSlot
    rw [Arithmetic.ofInt_coe, Int.cast_natCast]
    rfl
  unfold teethIn
  induction slots with
  | nil => rfl
  | cons slot rest ih =>
    rw [List.mapM_cons, each, ih]
    rfl

/-- The measures that the teeth of a joint have on an edge, by formulas. -/
structure Sized (m : Measures ℝ) (e : Edge ℝ) (j : Joint) : Prop where
  length : m.length = e.euclidean
  long : 0.001 ≤ m.length
  normal : e.IsNormal m.normal
  depth : m.depth = depthOf m.kind m.length (thicknessOf j.thickness)
  two_le : 2 ≤ m.slots.count
  requested : ∀ r, Requests j.fingerCount r →
    m.slots.count = min ⌊r⌋ (max 2 ⌊m.length / 0.001⌋)
  free : (∀ r, ¬ Requests j.fingerCount r) →
    m.slots.count = max 2 ⌊m.length / max (2 * m.depth) 4⌋
  width : m.width = m.length / m.slots.count
  taper : m.taper = taperOf m.kind m.depth m.width

end Measures

section

variable {e : Edge ℝ} {j : Joint}

/-- The number of slots for a joint on an edge of a length. -/
theorem exists_slots (j : Joint) (L depth : ℝ) :
    ∃ slots, slotsFor j.fingerCount (L : EReal) (depth : EReal) = .ok slots ∧ 2 ≤ slots.count ∧
      (∀ r, Requests j.fingerCount r → slots.count = min ⌊r⌋ (max 2 ⌊L / 0.001⌋)) ∧
      ((∀ r, ¬ Requests j.fingerCount r) → slots.count = max 2 ⌊L / max (2 * depth) 4⌋) := by
  by_cases free : ∀ r, ¬ Requests j.fingerCount r
  · refine ⟨⟨max 2 ⌊L / max (2 * depth) 4⌋, none⟩, ?_, le_max_left _ _,
      fun r requests => absurd requests (free r), fun _ => rfl⟩
    rw [slotsFor_of_not_requests free, freeSlots_extended]
  · obtain ⟨r, requests⟩ := not_forall_not.1 free
    obtain ⟨limit, counted⟩ := askedSlots_extended L r
    have two : (2 : ℤ) ≤ ⌊r⌋ := Int.le_floor.2 (by exact_mod_cast requests.two_le)
    refine ⟨⟨min ⌊r⌋ (max 2 ⌊L / 0.001⌋), limit⟩, ?_, le_min two (le_max_left _ _), ?_,
      fun none => absurd none free⟩
    · rw [slotsFor_of_requests requests, counted]
    · intro other same
      have equal := Except.ok.inj (requests.read.symm.trans same.read)
      rw [EReal.coe_eq_coe_iff.1 (Option.some.inj equal)]

/-- Every edge that is long enough has measures for the teeth of a joint of a known kind. -/
theorem exists_sized {kind : JointKind} (known : j.readKind = .ok (some kind))
    (long : 0.001 ≤ e.euclidean) (bounds : Option (Box ℝ)) :
    ∃ m : Measures ℝ, m.Sized e j ∧
      Measured e.extended j (bounds.map Box.extended) m.extended := by
  have positive : 0 < e.euclidean := lt_of_lt_of_le (by norm_num) long
  obtain ⟨n, normal, hn⟩ := Edge.outwardNormal_extended positive bounds
  let depth := depthOf kind e.euclidean (thicknessOf j.thickness)
  obtain ⟨slots, hslots, two, requested, free⟩ := exists_slots j e.euclidean depth
  let width := e.euclidean / slots.count
  have several : (slots.count : ℝ) ≠ 0 := by
    have : slots.count ≠ 0 := by omega
    exact_mod_cast this
  refine ⟨⟨kind, e.euclidean, n, depth, slots, width, taperOf kind depth width⟩, ?_, ?_⟩
  · exact ⟨rfl, long, normal, rfl, two, requested, free, rfl, rfl⟩
  · exact {
      kind := known
      length := e.length_extended
      long := by
        rw [minLength_extended]
        exact (Arithmetic.le_coe _ _).trans (congrArg Except.ok (decide_eq_true long))
      normal := hn
      depth := depthFor_extended kind j.thickness e.euclidean
      slots := hslots
      width := Arithmetic.div_coe several
      taper := taperFor_extended kind _ _ }

/-- The teeth of an edge are those of real measures. -/
theorem exists_row {bounds : Option (Box ℝ)} {found : Cut EReal}
    (success : cut (some e.extended) (some j) (bounds.map Box.extended) = .ok found)
    (toothed : found.list ≠ []) :
    ∃ m : Measures ℝ, m.Sized e j ∧ Measured e.extended j (bounds.map Box.extended) m.extended ∧
      found.list =
        (slotIndices j.isRight m.slots.count).map fun slot => (m.tooth slot).extended := by
  obtain ⟨answer, measured, -⟩ := exists_measured success toothed
  have long : 0.001 ≤ e.euclidean := by
    have enough := measured.long
    rw [Except.ok.inj (measured.length.symm.trans e.length_extended), minLength_extended,
      Arithmetic.le_coe] at enough
    exact of_decide_eq_true (Except.ok.inj enough)
  obtain ⟨m, sized, measured⟩ := exists_sized measured.kind long bounds
  refine ⟨m, sized, measured, ?_⟩
  have row := measured.cut_eq
  rw [success, Measures.teethIn_extended, ok_bind] at row
  cases row
  rfl

/-- Joints of a known kind have teeth on every edge that is long enough. -/
theorem exists_teeth {kind : JointKind} (known : j.readKind = .ok (some kind))
    (long : 0.001 ≤ e.euclidean) (bounds : Option (Box ℝ)) :
    ∃ found, cut (some e.extended) (some j) (bounds.map Box.extended) = .ok found ∧
      found.list ≠ [] := by
  obtain ⟨m, sized, measured⟩ := exists_sized known long bounds
  have row := measured.cut_eq
  rw [Measures.teethIn_extended, ok_bind] at row
  refine ⟨_, row, fun empty => ?_⟩
  exact slotIndices_ne_nil _ sized.two_le (List.map_eq_nil_iff.1 empty)

namespace Measures.Sized

variable {m : Measures ℝ}

theorem length_pos (sized : m.Sized e j) : 0 < m.length := lt_of_lt_of_le (by norm_num) sized.long

theorem euclidean_pos (sized : m.Sized e j) : 0 < e.euclidean := sized.length ▸ sized.length_pos

theorem count_pos (sized : m.Sized e j) : (0 : ℝ) < m.slots.count := by
  have two := sized.two_le
  exact_mod_cast (by omega : 0 < m.slots.count)

theorem width_pos (sized : m.Sized e j) : 0 < m.width := by
  rw [sized.width]
  exact div_pos sized.length_pos sized.count_pos

theorem count_mul_width (sized : m.Sized e j) : m.slots.count * m.width = m.length := by
  rw [sized.width, mul_div_cancel₀ _ sized.count_pos.ne']

theorem depth_pos (sized : m.Sized e j) : 0 < m.depth := by
  rw [sized.depth]
  exact depthOf_pos _ _ sized.length_pos

theorem taper_nonneg (sized : m.Sized e j) : 0 ≤ m.taper := by
  rw [sized.taper]
  exact taperOf_nonneg _ sized.depth_pos sized.width_pos

theorem taper_le (sized : m.Sized e j) : m.taper ≤ 0.2 * m.width := by
  rw [sized.taper]
  exact taperOf_le _ sized.width_pos

end Measures.Sized

end

/-! ### A board -/

/-- An edge that is a hundred long. -/
def board : Edge ℝ := { start := ⟨0, 0⟩, stop := ⟨100, 0⟩ }

/-- Dovetails in five slots for a thickness of ten. -/
def fiveDovetails : Joint := ⟨.text "dovetail", .int 10, .int 5, .text "left"⟩

theorem euclidean_board : board.euclidean = 100 := by
  have square : (board.stop.x - board.start.x) ^ 2 + (board.stop.y - board.start.y) ^ 2 =
      (100 : ℝ) ^ 2 := by
    norm_num [board]
  unfold Edge.euclidean
  rw [square, Real.sqrt_sq (by norm_num)]

theorem readKind_fiveDovetails : fiveDovetails.readKind = .ok (some .dovetail) := by
  decide +kernel

theorem long_board : 0.001 ≤ board.euclidean := by
  rw [euclidean_board]
  norm_num

theorem requests_five : Requests fiveDovetails.fingerCount 5 := by
  have read : Arithmetic.read fiveDovetails.fingerCount =
      .ok (some (((5 : ℤ) : ℝ) : EReal)) := rfl
  rw [Int.cast_ofNat] at read
  exact ⟨read, by norm_num⟩

end Joinery.Tooth
