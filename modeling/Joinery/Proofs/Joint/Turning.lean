import Joinery.Proofs.Joint.Teeth
import Joinery.Proofs.Number.Opposite

/-!
# Edges turned around

With its two ends swapped an edge has the same length and the same middle, and its direction and its
normal to the left turn around. The side of the center of a box turns around with the normal: where
it was on one side it is on the other now, and the normal is flipped for just one of the two edges.
So the teeth point to the same side, and all their measures are the same.
-/
namespace Joinery

/-- The edge from its stop to its start. -/
def Edge.reversed {α : Type} (e : Edge α) : Edge α := { e with start := e.stop, stop := e.start }

/-! ### Vectors turned around -/

namespace Point

open Value

/-- Vectors of values that are near opposite doubles, wherever the first are near doubles. -/
structure Turned (d d' : Point Value) : Prop where
  x : ∀ x, d.x.NearTo x → ∃ y, d'.x.NearTo y ∧ x.Opposite y
  y : ∀ x, d.y.NearTo x → ∃ y, d'.y.NearTo y ∧ x.Opposite y

theorem sub_turned {p q d : Point Value} (success : p.sub q = .ok d) :
    ∃ d', q.sub p = .ok d' ∧ Turned d d' := by
  obtain ⟨x, hx, success⟩ := bind_eq_ok_iff.1 success
  obtain ⟨y, hy, success⟩ := bind_eq_ok_iff.1 success
  cases success
  obtain ⟨x', hx', alongX⟩ := Value.sub_turned hx
  obtain ⟨y', hy', alongY⟩ := Value.sub_turned hy
  refine ⟨⟨x', y'⟩, ?_, alongX, alongY⟩
  unfold sub
  rw [hx', ok_bind, hy', ok_bind]
  rfl

theorem add_comm_of_sub {p q d : Point Value} (success : p.sub q = .ok d) : p.add q = q.add p := by
  obtain ⟨x, hx, success⟩ := bind_eq_ok_iff.1 success
  obtain ⟨y, hy, -⟩ := bind_eq_ok_iff.1 success
  unfold add
  rw [Value.add_comm_of_sub hx, Value.add_comm_of_sub hy]

/-- A vector that has a direction is near doubles; these are stretched by one double. -/
theorem unit_eq_ok {d u : Point Value} (success : d.unit = .ok u) :
    ∃ x y k, d.x.NearTo x ∧ d.y.NearTo y ∧
      Arithmetic.div (Arithmetic.decimal 1 0) (float (Binary64.hypot x y)) = .ok (float k) ∧
      u = ofDoubles (x * k) (y * k) := by
  obtain ⟨length, hlength, success⟩ := bind_eq_ok_iff.1 success
  obtain ⟨factor, hfactor, success⟩ := bind_eq_ok_iff.1 success
  obtain ⟨m, n, x, y, hm, hx, hn, hy, rfl⟩ := hypot_eq_ok hlength
  have nonzero : (Binary64.hypot x y).equals 0 = false := by
    rw [Bool.eq_false_iff]
    intro zero
    have quotient : Arithmetic.div (float (.ofDecimal false 1 0)) (float (Binary64.hypot x y)) =
        Number.div (.float (.ofDecimal false 1 0)) (.float (Binary64.hypot x y)) >>=
          fun n => .ok (ofNumber n) := rfl
    rw [Number.div_float, if_pos zero] at quotient
    cases quotient.symm.trans hfactor
  have divided : Arithmetic.div (Arithmetic.decimal 1 0) (float (Binary64.hypot x y)) =
      .ok (float (.ofDecimal false 1 0 / Binary64.hypot x y)) := div_float _ nonzero
  cases divided.symm.trans hfactor
  have alongX := nearTo_of_real hm hx
  have alongY := nearTo_of_real hn hy
  unfold scale at success
  rw [alongX.mul, ok_bind, alongY.mul, ok_bind] at success
  cases success
  exact ⟨x, y, _, alongX, alongY, divided, rfl⟩

/-- The direction turns around with the vector, and the length stays. -/
theorem Turned.unit {d d' u : Point Value} (turned : Turned d d') (success : d.unit = .ok u) :
    ∃ length a b a' b', d.length = .ok (float length) ∧ d'.length = .ok (float length) ∧
      u = ofDoubles a b ∧ d'.unit = .ok (ofDoubles a' b') ∧ a.Opposite a' ∧ b.Opposite b' := by
  obtain ⟨x, y, k, alongX, alongY, divided, rfl⟩ := unit_eq_ok success
  obtain ⟨x', alongX', hx⟩ := turned.x x alongX
  obtain ⟨y', alongY', hy⟩ := turned.y y alongY
  have length : d.length = .ok (float (Binary64.hypot x y)) := alongX.hypot alongY
  have length' : d'.length = .ok (float (Binary64.hypot x y)) := by
    rw [← hx.hypot_eq hy]
    exact alongX'.hypot alongY'
  refine ⟨_, _, _, x' * k, y' * k, length, length', rfl, ?_, hx.mul_right k, hy.mul_right k⟩
  unfold Point.unit scale
  rw [length', ok_bind, divided, ok_bind, alongX'.mul, ok_bind, alongY'.mul, ok_bind]
  rfl

end Point

/-! ### Edges turned around -/

namespace Tooth

section

variable {α : Type} [Arithmetic α]

/-- The normal to the left of an edge. -/
def leftNormal (e : Edge α) : Except Misuse (Point α) := do
  (← (← e.direction).unit).leftTurn

/-- The product of the vector from the center of a box to the middle of an edge with the normal to
the left of the edge. -/
def side (e : Edge α) (box : Box α) : Except Misuse α := do
  let n ← leftNormal e
  (← (← e.midpoint).sub (← box.center)).dot n

end

open Point Value

variable {e : Edge Value} {box : Box Value} {s : Value}

/-- The side of an edge goes by the vector to its middle and by its normal. -/
theorem side_eq_ok (success : side e box = .ok s) :
    ∃ n away, leftNormal e = .ok n ∧ (e.midpoint >>= fun middle => box.center >>= middle.sub) =
      .ok away ∧ away.dot n = .ok s := by
  obtain ⟨n, hn, success⟩ := bind_eq_ok_iff.1 success
  obtain ⟨middle, hmiddle, success⟩ := bind_eq_ok_iff.1 success
  obtain ⟨center, hcenter, success⟩ := bind_eq_ok_iff.1 success
  obtain ⟨away, haway, success⟩ := bind_eq_ok_iff.1 success
  exact ⟨n, away, hn, by rw [hmiddle, ok_bind, hcenter, ok_bind, haway], success⟩

/-- The normal to the outer side, where the side of the center is known. -/
theorem outwardNormal_of_side {p q x : Binary64} {away : Point Value}
    (normal : leftNormal e = .ok (ofDoubles p q))
    (vector : (e.midpoint >>= fun middle => box.center >>= middle.sub) = .ok away)
    (product : away.dot (ofDoubles p q) = .ok (float x)) :
    outwardNormal e (some box) = .ok
      (if Number.lt (.float x) (.int 0) then ofDoubles (-p) (-q) else ofDoubles p q) := by
  obtain ⟨middle, hmiddle, vector⟩ := bind_eq_ok_iff.1 vector
  obtain ⟨center, hcenter, vector⟩ := bind_eq_ok_iff.1 vector
  obtain ⟨d, hd, normal⟩ := bind_eq_ok_iff.1 normal
  obtain ⟨u, hu, normal⟩ := bind_eq_ok_iff.1 normal
  have below : Arithmetic.lt (float x) (Arithmetic.ofInt 0) =
      .ok (Number.lt (.float x) (.int 0)) := rfl
  unfold outwardNormal
  simp only [hd, hu, normal, hmiddle, hcenter, vector, product, below, ok_bind]
  split <;> rfl

/-- Turned around, an edge has its length and its middle still, and the opposite normal. -/
structure IsTurned (e : Edge Value) (x a b a' b' : Binary64) : Prop where
  length : e.length = .ok (float x)
  lengthBack : e.reversed.length = .ok (float x)
  midpoint : e.reversed.midpoint = e.midpoint
  normal : leftNormal e = .ok (ofDoubles a b)
  normalBack : leftNormal e.reversed = .ok (ofDoubles a' b')
  alongX : a.Opposite a'
  alongY : b.Opposite b'

theorem exists_turned {n : Point Value} (success : leftNormal e = .ok n) :
    ∃ x a b a' b', n = ofDoubles a b ∧ IsTurned e x a b a' b' := by
  obtain ⟨d, hd, success⟩ := bind_eq_ok_iff.1 success
  obtain ⟨u, hu, success⟩ := bind_eq_ok_iff.1 success
  obtain ⟨d', hd', turned⟩ := sub_turned hd
  obtain ⟨x, a, b, a', b', hlength, hlength', rfl, hu', hx, hy⟩ := turned.unit hu
  cases success
  refine ⟨x, -b, a, -b', a', rfl, ?_, ?_, ?_, ?_, ?_, hy.neg, hx⟩
  · change (e.direction >>= Point.length) = _
    rw [hd, ok_bind, hlength]
  · change (e.start.sub e.stop >>= Point.length) = _
    rw [hd', ok_bind, hlength']
  · change (e.stop.add e.start >>= fun sum => sum.scale (Arithmetic.decimal 5 1)) =
      (e.start.add e.stop >>= fun sum => sum.scale (Arithmetic.decimal 5 1))
    rw [add_comm_of_sub hd]
  · unfold leftNormal
    rw [hd, ok_bind, hu, ok_bind]
    rfl
  · have back : e.reversed.direction = .ok d' := hd'
    unfold leftNormal
    rw [back, ok_bind, hu', ok_bind]
    rfl

/-- The product with the opposite normal is opposite. -/
theorem dot_turned {away : Point Value} {a b a' b' : Binary64}
    (success : away.dot (ofDoubles a b) = .ok s) (hx : a.Opposite a') (hy : b.Opposite b') :
    ∃ x x', s = float x ∧ away.dot (ofDoubles a' b') = .ok (float x') ∧ x.Opposite x' ∧
      (x.isNaN = false → a.isNaN = false ∧ b.isNaN = false) := by
  obtain ⟨p, hp, success⟩ := bind_eq_ok_iff.1 success
  obtain ⟨q, hq, success⟩ := bind_eq_ok_iff.1 success
  obtain ⟨u, nearX, rfl⟩ := nearTo_of_mul hp
  obtain ⟨v, nearY, rfl⟩ := nearTo_of_mul hq
  cases success
  refine ⟨u * a + v * b, u * a' + v * b', rfl, ?_, (hx.mul_left u).add (hy.mul_left v), ?_⟩
  · unfold dot
    rw [ofDoubles, nearX.mul, ok_bind, nearY.mul, ok_bind]
    rfl
  · intro number
    obtain ⟨left, right⟩ := Binary64.isNaN_of_add number
    exact ⟨(Binary64.isNaN_of_mul left).2, (Binary64.isNaN_of_mul right).2⟩

/-- The normal to the outer side is the same for an edge turned around, but for signs of zeros, if
the center of the box lies to one side of the edge. -/
theorem exists_outwardNormal (sided : side e box = .ok s)
    (off : Arithmetic.lt s (Arithmetic.ofInt 0) = .ok true ∨
      Arithmetic.lt (Arithmetic.ofInt 0) s = .ok true) :
    ∃ x p q p' q', e.length = .ok (float x) ∧ e.reversed.length = .ok (float x) ∧
      outwardNormal e (some box) = .ok (ofDoubles p q) ∧
      outwardNormal e.reversed (some box) = .ok (ofDoubles p' q') ∧
      (p.isNaN = false ∧ q.isNaN = false) ∧ p.Opposite (-p') ∧ q.Opposite (-q') := by
  obtain ⟨n, away, hn, vector, product⟩ := side_eq_ok sided
  obtain ⟨x, a, b, a', b', rfl, turned⟩ := exists_turned hn
  obtain ⟨y, y', rfl, product', opposite, numbers⟩ :=
    dot_turned product turned.alongX turned.alongY
  have vector' : (e.reversed.midpoint >>= fun middle => box.center >>= middle.sub) = .ok away := by
    rw [turned.midpoint, vector]
  have normal := outwardNormal_of_side turned.normal vector product
  have normal' := outwardNormal_of_side turned.normalBack vector' product'
  have sides : Number.lt (.float y) (.int 0) = true ∨ Number.lt (.int 0) (.float y) = true :=
    off.imp Except.ok.inj Except.ok.inj
  obtain ⟨hx, hy⟩ := numbers (Binary64.isNaN_of_side sides)
  rcases sides with below | above
  -- Only the normal of the edge itself is flipped.
  · have back := Binary64.not_lt_zero (opposite.symm.lt_zero.symm.trans below)
    rw [if_pos below] at normal
    rw [if_neg (by simp [back])] at normal'
    exact ⟨x, _, _, _, _, turned.length, turned.lengthBack, normal, normal',
      ⟨(Binary64.isNaN_neg a).trans hx, (Binary64.isNaN_neg b).trans hy⟩,
      turned.alongX.neg, turned.alongY.neg⟩
  -- Only the normal of the edge turned around is flipped.
  · have front := Binary64.not_lt_zero above
    rw [if_neg (by simp [front])] at normal
    rw [if_pos (opposite.lt_zero.trans above)] at normal'
    refine ⟨x, _, _, _, _, turned.length, turned.lengthBack, normal, normal', ⟨hx, hy⟩, ?_, ?_⟩
    · rw [Binary64.neg_neg]
      exact turned.alongX
    · rw [Binary64.neg_neg]
      exact turned.alongY

/-! ### Teeth that are alike -/

/-- Two teeth differ at most in the signs of zeros in their outward offsets. -/
structure Alike (t t' : Tooth Value) : Prop where
  index : t'.index = t.index
  startDistance : t'.startDistance = t.startDistance
  width : t'.width = t.width
  depth : t'.depth = t.depth
  taper : t'.taper = t.taper
  outward : t.outwardOffset.equals t'.outwardOffset = true

/-- The teeth are alike one by one, and what there is to tell of them is the same. -/
structure Cut.Alike (c c' : Cut Value) : Prop where
  teeth : List.Forall₂ Tooth.Alike c.list c'.list
  notices : c'.notices = c.notices

/-- Without teeth, a cut has only its notices. -/
theorem Cut.alike_self {c : Cut Value} (toothless : c.list = []) : c.Alike c := by
  refine ⟨?_, rfl⟩
  rw [toothless]
  exact .nil

/-- A normal times the depth is the same for the negation of the opposite normal. -/
theorem agree_inSlot {p q p' q' d : Binary64} (factor : d.isFactor = true)
    (numbers : p.isNaN = false ∧ q.isNaN = false) (hx : p.Opposite (-p')) (hy : q.Opposite (-q'))
    (width taper : Value) (index : Nat) :
    Agree Alike (inSlot (ofDoubles p q) (float d) width taper index)
      (inSlot (ofDoubles p' q') (float d) width taper index) := by
  have equals : ∀ {r r' : Binary64}, r.isNaN = false → r.Opposite (-r') →
      (r * d).equals (r' * d) = true := by
    intro r r' number opposite
    refine Binary64.Opposite.equals ?_ (Binary64.mul_isNaN_of_isFactor number factor)
    rw [← Binary64.neg_mul]
    exact opposite.mul_right d
  unfold inSlot
  refine agree_bind fun start _ => ?_
  rw [scale_ofDoubles, ok_bind, scale_ofDoubles, ok_bind]
  refine .ok ⟨rfl, rfl, rfl, rfl, rfl, ?_⟩
  exact Bool.and_eq_true_iff.2 ⟨equals numbers.1 hx, equals numbers.2 hy⟩

/-- Where slots are counted, the depth is finite and not zero. -/
theorem depth_isFactor {j : Joint} {kind : JointKind} {x : Binary64} {depth : Value} {slots : Slots}
    (long : shortest.le x = true) (success : depthFor kind j.thickness (float x) = .ok depth)
    (counted : slotsFor j.fingerCount (float x) depth = .ok slots) :
    ∃ d, depth = float d ∧ d.isFactor = true := by
  have near : ¬ j.thickness.IsBeyond := fun beyond => by
    have failed := depthFor_of_beyond kind (float x) beyond
    rw [success] at failed
    exact not_fails_ok _ failed
  obtain ⟨asked, asks, computed⟩ := depthFor_float near
  cases success.symm.trans (computed kind x)
  refine ⟨_, rfl, ?_⟩
  obtain rfl | ⟨m, hm, rfl, -⟩ := long_cases long
  · have endless : Uncountable j.fingerCount (.infinite false) := .endless rfl
    have failed := slotsFor_of_uncountable endless
      (depthDouble_isNaN (x := .infinite false) asks rfl kind)
    rw [counted] at failed
    exact absurd failed (not_fails_ok _)
  · exact depthDouble_isFactor asks long kind

/-! ### Teeth of edges turned around -/

variable {j : Joint} {kind : JointKind}

theorem agree_row {x p q p' q' : Binary64} (long : shortest.le x = true)
    (normal : outwardNormal e (some box) = .ok (ofDoubles p q))
    (normalBack : outwardNormal e.reversed (some box) = .ok (ofDoubles p' q'))
    (numbers : p.isNaN = false ∧ q.isNaN = false) (hx : p.Opposite (-p'))
    (hy : q.Opposite (-q')) :
    Agree Cut.Alike (row e j kind (some box) (float x))
      (row e.reversed j kind (some box) (float x)) := by
  unfold row
  rw [normal, normalBack, ok_bind, ok_bind]
  refine agree_bind fun depth hdepth => agree_bind fun slots hslots => ?_
  obtain ⟨d, rfl, factor⟩ := depth_isFactor long hdepth hslots
  refine agree_bind fun width _ => agree_bind fun taper _ => ?_
  have teeth := agree_mapM fun index (_ : index ∈ slotIndices j.isRight slots.count) =>
    agree_inSlot factor numbers hx hy width taper index
  refine teeth.bind fun found found' alike => .ok ⟨alike, ?_⟩
  cases slots.limit <;> rfl

/-- The teeth of an edge turned around are alike. -/
theorem agree_synthesize_reversed (sided : side e box = .ok s)
    (off : Arithmetic.lt s (Arithmetic.ofInt 0) = .ok true ∨
      Arithmetic.lt (Arithmetic.ofInt 0) s = .ok true) (given : Joint ⊕ Value) :
    Agree Cut.Alike (synthesize (some e) given (some box))
      (synthesize (some e.reversed) given (some box)) := by
  obtain ⟨x, p, q, p', q', length, lengthBack, normal, normalBack, numbers, hx, hy⟩ :=
    exists_outwardNormal sided off
  unfold synthesize
  refine agree_bind fun joint _ => ?_
  cases joint with
  | none => exact .ok (Cut.alike_self rfl)
  | some j =>
    dsimp only [cut]
    refine agree_bind fun kind? _ => ?_
    cases kind? with
    | none => exact .ok (Cut.alike_self rfl)
    | some kind =>
      dsimp only
      rw [length, lengthBack, ok_bind, ok_bind, minLength_eq, le_float, ok_bind, ok_bind]
      cases long : shortest.le x with
      | false => exact .ok (Cut.alike_self rfl)
      | true => exact agree_row long normal normalBack numbers hx hy

/-- The lower side of a slanted square. -/
def slanted : Edge Value := { start := ⟨.int 0, .int 0⟩, stop := ⟨.int 4, .int 3⟩ }

/-- The box around the slanted square. -/
def slantedBox : Box Value := ⟨.int (-3), .int 0, .int 7, .int 7⟩

/-- The square has its center above the edge; the edge has two teeth either way around. -/
theorem agree_synthesize_reversed_slanted :
    ∃ s found, side slanted slantedBox = .ok s ∧
      Arithmetic.lt s (Arithmetic.ofInt 0) = .ok true ∧
      synthesize (some slanted) (.inl ⟨.text "dovetail", .int 3, .int 5, .text "right"⟩)
        (some slantedBox) = .ok found ∧ found.list.length = 2 ∧
      Agree Cut.Alike (.ok found) (synthesize (some slanted.reversed)
        (.inl ⟨.text "dovetail", .int 3, .int 5, .text "right"⟩) (some slantedBox)) := by
  obtain ⟨s, sided, below⟩ := exists_of_any_toOption
    (x := side slanted slantedBox)
    (P := fun s => Arithmetic.lt s (Arithmetic.ofInt 0) = .ok true) (by decide +kernel)
  obtain ⟨found, made, two⟩ := exists_of_any_toOption
    (x := synthesize (some slanted) (.inl ⟨.text "dovetail", .int 3, .int 5, .text "right"⟩)
      (some slantedBox))
    (P := fun found => found.list.length = 2) (by decide +kernel)
  refine ⟨s, found, sided, below, made, two, ?_⟩
  rw [← made]
  exact agree_synthesize_reversed sided (.inl below) _

end Tooth

end Joinery
