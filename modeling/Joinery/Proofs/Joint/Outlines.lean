import Joinery.Proofs.Joint.Measures
import Joinery.Proofs.Number.Combining

/-!
# Outlines of teeth

Where the teeth of an edge within a box can be computed, their measures are doubles, and so are the
corners of every tooth, even when the coordinates of the edge are integers.
-/
namespace Joinery.Tooth

open Value

/-- A tooth whose measures are doubles. -/
structure IsDouble (t : Tooth Value) : Prop where
  start : ∃ x : Binary64, t.startDistance = .float x
  width : ∃ x : Binary64, t.width = .float x
  depth : ∃ x : Binary64, t.depth = .float x
  outward : ∃ x y, t.outwardOffset = Point.ofDoubles x y
  taper : ∃ x : Binary64, t.taper = .float x

theorem inSlot_isDouble {a b d w z : Binary64} {index : Nat} {t : Tooth Value}
    (success : inSlot (Point.ofDoubles a b) (float d) (float w) (float z) index = .ok t) :
    t.IsDouble := by
  obtain ⟨start, hstart, success⟩ := bind_eq_ok_iff.1 success
  obtain ⟨n, x, -, -, rfl⟩ := mul_float_eq_ok_iff.1 hstart
  obtain ⟨outward, houtward, success⟩ := bind_eq_ok_iff.1 success
  cases houtward
  cases success
  exact ⟨⟨_, rfl⟩, ⟨_, rfl⟩, ⟨_, rfl⟩, ⟨_, _, rfl⟩, ⟨_, rfl⟩⟩

section

variable {e : Edge Value} {j : Joint} {x : Binary64}

/-- All teeth of a row have doubles for measures. -/
theorem teethIn_isDouble {bounds : Option (Box Value)} (cuts : Cuts e j x)
    (fine : ¬ Overflow e j bounds) {m : Measures Value} (measured : Measured e j bounds m)
    {indices : List Nat} {teeth : List (Tooth Value)} (success : m.teethIn indices = .ok teeth) :
    ∀ t ∈ teeth, t.IsDouble := by
  obtain ⟨kind, length, n, depth, slots, width, taper⟩ := m
  cases cuts.length.symm.trans measured.length
  have thin : ¬ j.thickness.IsBeyond := fun beyond => fine (.thickness x cuts beyond)
  have countable : ¬ Uncountable j.fingerCount x := fun many => fine (.slots x cuts many)
  obtain ⟨a, b, rfl⟩ := outwardNormal_eq_ok cuts.length (nonzero_of_long cuts.long) measured.normal
  obtain ⟨d, hd, number⟩ := depthFor_of_not_beyond kind thin cuts.number
  cases measured.depth.symm.trans hd
  obtain ⟨slots', hslots', fit⟩ := slotsFor_of_countable countable cuts.long number
  cases measured.slots.symm.trans hslots'
  obtain ⟨w, hw⟩ := fit.width x
  cases measured.width.symm.trans hw
  obtain ⟨z, hz⟩ := taperFor_float kind d w
  cases measured.taper.symm.trans hz
  intro t member
  obtain ⟨index, -, made⟩ := exists_of_mem_mapM success member
  exact inSlot_isDouble made

/-! ### Where an edge begins -/

/-- What has both a sum with another number and a difference to it that doubles are near is near a
double itself. -/
theorem near_of_sum_of_difference {a b s d : Value} (sum : Arithmetic.add a b = .ok s)
    (hs : s.IsNear) (difference : Arithmetic.sub b a = .ok d) (hd : d.IsNear) : a.IsNear := by
  rw [sub_eq] at difference
  obtain ⟨n, m, r, hn, hm, hr, rfl⟩ := onNumbers_eq_ok_iff.1 difference
  rw [add_of_number (.inl ⟨m, hm⟩)] at sum
  obtain ⟨m', n', k, hm', hn', hk, rfl⟩ := onNumbers_eq_ok_iff.1 sum
  cases hm.symm.trans hm'
  cases hn.symm.trans hn'
  obtain ⟨j, i, rfl, rfl, rfl⟩ | ⟨-, near, -⟩ := Number.combine_cases hr
  · cases hk
    obtain ⟨_, hsum, nearSum⟩ := hs
    obtain ⟨_, hdifference, nearDifference⟩ := hd
    cases hsum
    cases hdifference
    rw [Number.isNear_int_iff] at nearSum nearDifference
    dsimp only at nearSum nearDifference
    refine ⟨.int i, hm, (Number.isNear_int_iff i).2 ?_⟩
    omega
  · exact ⟨m, hm, near⟩

theorem near_of_real {v : Value} {n : Number} {y : Binary64} (number : v.real = .ok n)
    (near : n.toDouble = .ok y) : v.IsNear := by
  unfold real at number
  split at number
  · next m hm =>
    cases number
    exact ⟨_, hm, y, near⟩
  · cases number

/-- An edge with a length and a normal within a box begins at a point near doubles. -/
theorem start_near {box : Box Value} {n : Point Value} {length : Value}
    (hlength : e.length = .ok length) (normal : outwardNormal e (some box) = .ok n) :
    e.start.x.IsNear ∧ e.start.y.IsNear := by
  obtain ⟨vector, hvector, measured⟩ := bind_eq_ok_iff.1 hlength
  obtain ⟨dx, hdx, hvector⟩ := bind_eq_ok_iff.1 hvector
  obtain ⟨dy, hdy, hvector⟩ := bind_eq_ok_iff.1 hvector
  cases hvector
  obtain ⟨p, q, _, _, hp, nearX, hq, nearY, -⟩ := hypot_eq_ok measured
  obtain ⟨_, -, normal⟩ := bind_eq_ok_iff.1 normal
  obtain ⟨_, -, normal⟩ := bind_eq_ok_iff.1 normal
  obtain ⟨_, -, normal⟩ := bind_eq_ok_iff.1 normal
  obtain ⟨middle, hmiddle, -⟩ := bind_eq_ok_iff.1 normal
  obtain ⟨total, htotal, halved⟩ := bind_eq_ok_iff.1 hmiddle
  obtain ⟨sx, hsx, htotal⟩ := bind_eq_ok_iff.1 htotal
  obtain ⟨sy, hsy, htotal⟩ := bind_eq_ok_iff.1 htotal
  cases htotal
  obtain ⟨_, hx, halved⟩ := bind_eq_ok_iff.1 halved
  obtain ⟨_, hy, -⟩ := bind_eq_ok_iff.1 halved
  obtain ⟨k, c, hk, hc, -⟩ := mul_float_eq_ok_iff.1 hx
  obtain ⟨l, d, hl, hd, -⟩ := mul_float_eq_ok_iff.1 hy
  exact ⟨near_of_sum_of_difference hsx ⟨k, hk, c, hc⟩ hdx (near_of_real hp nearX),
    near_of_sum_of_difference hsy ⟨l, hl, d, hd⟩ hdy (near_of_real hq nearY)⟩

/-! ### Corners -/

theorem add_ofDoubles {p : Point Value} (hx : p.x.IsNear) (hy : p.y.IsNear) (a b : Binary64) :
    ∃ c d, p.add (Point.ofDoubles a b) = .ok (Point.ofDoubles c d) := by
  obtain ⟨m, c, hm, hc⟩ := hx.exists_double
  obtain ⟨n, d, hn, hd⟩ := hy.exists_double
  refine ⟨c + a, d + b, ?_⟩
  unfold Point.add
  rw [show (Point.ofDoubles a b).x = .float a from rfl,
    show (Point.ofDoubles a b).y = .float b from rfl,
    add_float_eq_ok_iff.2 ⟨m, c, hm, hc, rfl⟩, ok_bind,
    add_float_eq_ok_iff.2 ⟨n, d, hn, hd, rfl⟩]
  rfl

/-- The corners of a tooth with doubles for measures on an edge that begins near doubles. -/
theorem IsDouble.exists_outline {t : Tooth Value} (doubles : t.IsDouble)
    (hlength : e.length = .ok (float x)) (nonzero : x.equals 0 = false)
    (hx : e.start.x.IsNear) (hy : e.start.y.IsNear) : ∃ corners, outline e t = .ok corners := by
  obtain ⟨vector, a, b, hdirection, hunit⟩ := Edge.leftNormal_of_length hlength nonzero
  obtain ⟨start, hstart⟩ := doubles.start
  obtain ⟨width, hwidth⟩ := doubles.width
  obtain ⟨p, q, houtward⟩ := doubles.outward
  obtain ⟨taper, htaper⟩ := doubles.taper
  have hend : t.endDistance = .ok (float (start + width)) := by
    unfold endDistance
    rw [hstart, hwidth]
    rfl
  obtain ⟨c, d, hbaseStart⟩ := add_ofDoubles hx hy (a * start) (b * start)
  obtain ⟨f, g, hbaseEnd⟩ := add_ofDoubles hx hy (a * (start + width)) (b * (start + width))
  unfold outline
  rw [hdirection, ok_bind, hunit, ok_bind, hend, hstart, houtward, htaper]
  simp only [Point.scale_ofDoubles, ok_bind, hbaseStart, hbaseEnd, Point.add_ofDoubles,
    Point.sub_ofDoubles]
  exact ⟨_, rfl⟩

end

theorem not_overflow_of_cut {e : Edge Value} {j : Joint} {bounds : Option (Box Value)}
    {found : Cut Value} (success : cut (some e) (some j) bounds = .ok found) :
    ¬ Overflow e j bounds := by
  intro overflow
  have fails := cut_of_overflow overflow
  rw [success] at fails
  exact not_fails_ok found fails

/-- Teeth are there only for a known kind on an edge that is long enough. -/
theorem cuts_of_list_ne_nil {e : Edge Value} {j : Joint} {bounds : Option (Box Value)}
    {found : Cut Value} (success : cut (some e) (some j) bounds = .ok found)
    (some : found.list ≠ []) : ∃ x, Cuts e j x := by
  have fine := not_overflow_of_cut success
  obtain ⟨answer, hanswer, empty⟩ := cut_of_not_overflow fine
  cases success.symm.trans hanswer
  have toothed : ¬ (j.kind? = none ∨ IsShort e) := fun toothless => some (empty.2 toothless)
  have written : j.type.isWritable = true := by
    by_contra long
    exact fine (.type (Bool.eq_false_iff.2 long))
  have known : j.kind? ≠ none := fun unknown => toothed (.inl unknown)
  obtain ⟨length, hlength⟩ := not_fails_iff.1 fun failed => fine (.length written known failed)
  obtain ⟨x, rfl⟩ := Edge.length_eq_ok hlength
  refine ⟨x, written, known, hlength, ?_⟩
  by_contra short
  exact toothed (.inr ⟨x, hlength, Bool.eq_false_iff.2 short⟩)

/-- Where the teeth of an edge within a box can be computed, they have doubles for measures, and
their corners can be computed as well. -/
theorem exists_outlines {e : Edge Value} {j : Joint} {box : Box Value} {found : Cut Value}
    (success : cut (some e) (some j) (some box) = .ok found) :
    (∀ t ∈ found.list, t.IsDouble) ∧ ∃ outlines, found.list.mapM (outline e) = .ok outlines := by
  by_cases empty : found.list = []
  · rw [empty]
    exact ⟨nofun, [], rfl⟩
  · obtain ⟨x, cuts⟩ := cuts_of_list_ne_nil success empty
    obtain ⟨m, measured, made⟩ := exists_measured success empty
    have doubles := teethIn_isDouble cuts (not_overflow_of_cut success) measured made
    obtain ⟨hx, hy⟩ := start_near cuts.length measured.normal
    refine ⟨doubles, not_fails_iff.1 (not_fails_mapM fun t member => not_fails_iff.2 ?_)⟩
    exact (doubles t member).exists_outline cuts.length (nonzero_of_long cuts.long) hx hy

end Joinery.Tooth
