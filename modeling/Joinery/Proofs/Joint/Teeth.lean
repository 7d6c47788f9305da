import Joinery.Proofs.Geometry.Normal
import Joinery.Proofs.Joint.Slots

/-!
# When teeth can be cut

The teeth of a joint on an edge can be computed unless a number is asked for that no double is near.
The ways in which this happens are listed by `Overflow`. Wherever there is an answer, it has no
teeth exactly if the edge or the joint is missing, the kind is unknown or the edge is too short.
-/
namespace Joinery.Tooth

open Value

/-- Teeth of a joint are to be cut along a length. -/
structure Cuts (e : Edge Value) (j : Joint) (x : Binary64) : Prop where
  written : j.type.isWritable = true
  known : j.kind? ≠ none
  length : e.length = .ok (float x)
  long : shortest.le x = true

/-- The ways in which teeth ask for a number that no double is near. -/
inductive Overflow (e : Edge Value) (j : Joint) (bounds : Option (Box Value)) : Prop where
  /-- The type holds an integer of too many digits to be written. -/
  | type (long : j.type.isWritable = false)
  /-- The coordinates of the edge have no distance. -/
  | length (written : j.type.isWritable = true) (known : j.kind? ≠ none) (failed : Fails e.length)
  /-- The coordinates of the box have no place beside those of the edge. -/
  | normal (x : Binary64) (cuts : Cuts e j x) (failed : Fails (outwardNormal e bounds))
  | thickness (x : Binary64) (cuts : Cuts e j x) (beyond : j.thickness.IsBeyond)
  | slots (x : Binary64) (cuts : Cuts e j x) (uncountable : Uncountable j.fingerCount x)

/-! ### A row of teeth -/

theorem slotIndices_ne_nil (right : Bool) {count : Int} (two : 2 ≤ count) :
    slotIndices right count ≠ [] := by
  have hlength : 1 ≤ (slotIndices right count).length := by
    unfold slotIndices
    cases right <;> simp <;> omega
  exact List.ne_nil_of_length_pos hlength

theorem lt_of_mem_slotIndices {right : Bool} {count : Int} {index : Nat}
    (member : index ∈ slotIndices right count) : index < count.toNat := by
  unfold slotIndices at member
  cases right <;> simp at member <;> omega

theorem taperFor_float (kind : JointKind) (d w : Binary64) :
    ∃ taper : Binary64, taperFor kind (float d) (float w) = .ok (float taper) := by
  cases kind with
  | finger => exact ⟨_, rfl⟩
  | dovetail =>
    unfold taperFor taperRatio
    simp only [decimal_eq, mul_float, least_float, ok_bind]
    exact ⟨_, rfl⟩

theorem not_fails_inSlot {index : Nat} (near : index < Binary64.beyond) (a b d w : Binary64)
    (taper : Value) :
    ¬ Fails (inSlot (Point.ofDoubles a b) (float d) (float w) taper index) := by
  have hmul : Arithmetic.mul (Arithmetic.ofInt index) (float w) =
      .ok (float (Binary64.ofInt index * w)) :=
    mul_int_float (show (index : Int).natAbs < Binary64.beyond from near) w
  unfold inSlot
  rw [hmul, ok_bind, Point.scale_ofDoubles, ok_bind]
  exact not_fails_ok _

/-- The double near a count of slots is not zero. -/
theorem Slots.Fit.width {slots : Slots} (fit : slots.Fit) (x : Binary64) :
    ∃ w : Binary64, Arithmetic.div (float x) (Arithmetic.ofInt slots.count) = .ok (float w) := by
  obtain ⟨two, near⟩ := fit
  obtain ⟨n, hn⟩ := Int.eq_ofNat_of_zero_le (Int.le_trans (by decide) two)
  rw [hn] at two near
  obtain ⟨units, fits, hunits, hone⟩ :=
    Binary64.ofInt_eq_finite (n := n) (by omega) (by simpa using near)
  have hnonzero : (Binary64.ofInt n).equals 0 = false := by
    have hzero : (0 : Binary64) = .zero false := by decide +kernel
    have hunits0 : (units : Int) ≠ 0 := by
      have := Binary64.one_pos
      omega
    rw [hzero, hunits]
    exact beq_eq_false_iff_ne.2 hunits0
  rw [hn]
  exact ⟨_, div_float_int near hnonzero x⟩

section

variable {e : Edge Value} {j : Joint} {bounds : Option (Box Value)} {x : Binary64}

theorem Cuts.number (cuts : Cuts e j x) : x.isNaN = false := Binary64.isNaN_of_le cuts.long

theorem row_of_overflow (cuts : Cuts e j x) (kind : JointKind)
    (overflow : Fails (outwardNormal e bounds) ∨ j.thickness.IsBeyond ∨
      Uncountable j.fingerCount x) : Fails (row e j kind bounds (float x)) := by
  unfold row
  refine fails_bind_iff.2 ?_
  by_cases normal : Fails (outwardNormal e bounds)
  · exact .inl normal
  obtain ⟨n, hn⟩ := not_fails_iff.1 normal
  refine .inr ⟨n, hn, fails_bind_iff.2 ?_⟩
  by_cases thick : j.thickness.IsBeyond
  · exact .inl (depthFor_of_beyond kind _ thick)
  obtain ⟨d, hd, number⟩ := depthFor_of_not_beyond kind thick cuts.number
  have uncountable : Uncountable j.fingerCount x :=
    (overflow.resolve_left normal).resolve_left thick
  exact .inr ⟨_, hd, fails_bind_iff.2 (.inl (slotsFor_of_uncountable uncountable number))⟩

theorem row_of_not_overflow (cuts : Cuts e j x) (kind : JointKind)
    (normal : ¬ Fails (outwardNormal e bounds)) (thin : ¬ j.thickness.IsBeyond)
    (countable : ¬ Uncountable j.fingerCount x) :
    ∃ found, row e j kind bounds (float x) = .ok found ∧ found.list ≠ [] := by
  obtain ⟨n, hn⟩ := not_fails_iff.1 normal
  obtain ⟨a, b, rfl⟩ := outwardNormal_eq_ok cuts.length (nonzero_of_long cuts.long) hn
  obtain ⟨d, hd, number⟩ := depthFor_of_not_beyond kind thin cuts.number
  obtain ⟨slots, hslots, fit⟩ := slotsFor_of_countable countable cuts.long number
  obtain ⟨w, hw⟩ := fit.width x
  obtain ⟨taper, htaper⟩ := taperFor_float kind d w
  have hteeth : ∀ index ∈ slotIndices j.isRight slots.count,
      ¬ Fails (inSlot (Point.ofDoubles a b) (float d) (float w) (float taper) index) := by
    intro index member
    have hindex := lt_of_mem_slotIndices member
    have near := fit.2
    exact not_fails_inSlot (by omega) a b d w (float taper)
  obtain ⟨teeth, success⟩ := not_fails_iff.1 (not_fails_mapM hteeth)
  have hlength := length_of_mapM success
  unfold row
  rw [hn, ok_bind, hd, ok_bind, hslots, ok_bind, hw, ok_bind, htaper, ok_bind, success, ok_bind]
  refine ⟨_, rfl, ?_⟩
  rintro rfl
  exact slotIndices_ne_nil j.isRight fit.1 (List.length_eq_zero_iff.1 hlength.symm)

/-! ### Teeth of an edge -/

theorem readKind_of_isWritable (written : j.type.isWritable = true) : j.readKind = .ok j.kind? :=
  if_pos written

theorem cut_of_kind {kind : JointKind} (written : j.type.isWritable = true)
    (hkind : j.kind? = some kind) (bounds : Option (Box Value)) :
    cut (some e) (some j) bounds = do
      let length ← e.length
      if ← Arithmetic.le minLength length then row e j kind bounds length
      else return .degenerate e.key length := by
  dsimp only [cut]
  rw [readKind_of_isWritable written, hkind]
  rfl

theorem Cuts.cut_eq_row (cuts : Cuts e j x) (bounds : Option (Box Value)) :
    ∃ kind, cut (some e) (some j) bounds = row e j kind bounds (float x) := by
  obtain ⟨kind, hkind⟩ := Option.ne_none_iff_exists'.1 cuts.known
  refine ⟨kind, ?_⟩
  rw [cut_of_kind cuts.written hkind, cuts.length, ok_bind, minLength_eq, le_float, cuts.long,
    ok_bind]
  rfl

theorem cut_of_overflow (overflow : Overflow e j bounds) :
    Fails (cut (some e) (some j) bounds) := by
  cases overflow with
  | type long =>
    unfold cut Joint.readKind
    simp only [long]
    exact fails_error _
  | length written known failed =>
    obtain ⟨kind, hkind⟩ := Option.ne_none_iff_exists'.1 known
    rw [cut_of_kind written hkind]
    exact fails_bind_iff.2 (.inl failed)
  | normal x cuts failed =>
    obtain ⟨kind, hrow⟩ := cuts.cut_eq_row bounds
    rw [hrow]
    exact row_of_overflow cuts kind (.inl failed)
  | thickness x cuts beyond =>
    obtain ⟨kind, hrow⟩ := cuts.cut_eq_row bounds
    rw [hrow]
    exact row_of_overflow cuts kind (.inr (.inl beyond))
  | slots x cuts uncountable =>
    obtain ⟨kind, hrow⟩ := cuts.cut_eq_row bounds
    rw [hrow]
    exact row_of_overflow cuts kind (.inr (.inr uncountable))

/-- An edge that is too short for teeth, or whose length is NaN. -/
def IsShort (e : Edge Value) : Prop := ∃ x, e.length = .ok (float x) ∧ shortest.le x = false

theorem cut_of_not_overflow (fine : ¬ Overflow e j bounds) :
    ∃ found, cut (some e) (some j) bounds = .ok found ∧
      (found.list = [] ↔ j.kind? = none ∨ IsShort e) := by
  have written : j.type.isWritable = true := by
    cases hwritten : j.type.isWritable with
    | true => rfl
    | false => exact absurd (.type hwritten) fine
  cases hkind : j.kind? with
  | none =>
    refine ⟨.unknownKind e.key j.type, ?_, iff_of_true rfl (.inl rfl)⟩
    dsimp only [cut]
    rw [readKind_of_isWritable written, hkind]
    rfl
  | some kind =>
    have known : j.kind? ≠ none := by simp [hkind]
    obtain ⟨length, hlength⟩ := not_fails_iff.1 fun failed => fine (.length written known failed)
    obtain ⟨x, rfl⟩ := Edge.length_eq_ok hlength
    cases long : shortest.le x with
    | false =>
      refine ⟨.degenerate e.key (float x), ?_, iff_of_true rfl (.inr ⟨x, hlength, long⟩)⟩
      rw [cut_of_kind written hkind, hlength, ok_bind, minLength_eq, le_float, long]
      rfl
    | true =>
      have cuts : Cuts e j x := ⟨written, known, hlength, long⟩
      obtain ⟨kind, hrow⟩ := cuts.cut_eq_row bounds
      obtain ⟨found, success, hteeth⟩ := row_of_not_overflow cuts kind
        (fun failed => fine (.normal x cuts failed))
        (fun beyond => fine (.thickness x cuts beyond))
        (fun uncountable => fine (.slots x cuts uncountable))
      refine ⟨found, hrow.trans success, iff_of_false hteeth ?_⟩
      rintro (unknown | ⟨y, hy, short⟩)
      · cases unknown
      · rw [hlength] at hy
        cases hy
        rw [long] at short
        cases short

end

/-! ### What is given as a joint -/

end Joinery.Tooth
