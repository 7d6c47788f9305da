import Joinery.Proofs.Joint.Outlines
import Joinery.Proofs.Joint.Sizes

/-!
# Teeth of mating edges

The joint of the mating edge is the flipped one. Wherever a joint has teeth the flipped one has
teeth as well, of the same measures and in exactly the slots that are left empty. In exact
arithmetic the slots of both follow each other without gaps from the start of the edge to its end.
-/
namespace Joinery.Tooth

open Value

/-! ### Teeth of values -/

section

variable {e : Edge Value} {j : Joint} {bounds : Option (Box Value)}

theorem Cuts.flipped {x : Binary64} (cuts : Cuts e j.flipped x) : Cuts e j x :=
  ⟨cuts.written, cuts.known, cuts.length, cuts.long⟩

/-- Alignment is of no account for what keeps teeth from being computed. -/
theorem Overflow.flipped (overflow : Overflow e j.flipped bounds) : Overflow e j bounds := by
  cases overflow with
  | type long => exact .type long
  | length written known failed => exact .length written known failed
  | normal x cuts failed => exact .normal x cuts.flipped failed
  | thickness x cuts beyond => exact .thickness x cuts.flipped beyond
  | slots x cuts uncountable => exact .slots x cuts.flipped uncountable

/-- Where there are measures, there are two slots or more. -/
theorem Measured.fit {m : Measures Value} (measured : Measured e j bounds m) : m.slots.Fit := by
  obtain ⟨x, hx⟩ := Edge.length_eq_ok measured.length
  have long : shortest.le x = true := by
    have enough := measured.long
    rw [hx, minLength_eq, le_float] at enough
    exact Except.ok.inj enough
  -- Depth and slots have been computed, so neither thickness nor finger count is beyond all doubles.
  have thin : ¬ j.thickness.IsBeyond := by
    intro beyond
    have failed := depthFor_of_beyond m.kind m.length beyond
    rw [measured.depth] at failed
    exact not_fails_ok _ failed
  obtain ⟨d, hdepth, number⟩ := depthFor_of_not_beyond m.kind thin (Binary64.isNaN_of_le long)
  rw [← hx, measured.depth] at hdepth
  have depth : m.depth = float d := Except.ok.inj hdepth
  have slots := measured.slots
  rw [hx, depth] at slots
  have countable : ¬ Uncountable j.fingerCount x := by
    intro uncountable
    have failed := slotsFor_of_uncountable uncountable number
    rw [slots] at failed
    exact not_fails_ok _ failed
  obtain ⟨counted, hcounted, fit⟩ := slotsFor_of_countable countable long number
  rw [Except.ok.inj (slots.symm.trans hcounted)]
  exact fit

/-- The teeth of the flipped joint can be computed wherever those of a joint can. -/
theorem exists_mates {found : Cut Value} (success : cut (some e) (some j) bounds = .ok found) :
    ∃ mates, cut (some e) (some j.flipped) bounds = .ok mates := by
  have fine := not_overflow_of_cut success
  obtain ⟨mates, made, -⟩ := cut_of_not_overflow fun overflow => fine overflow.flipped
  exact ⟨mates, made⟩

end

/-- The teeth that measures give a flipped joint are in the other slots. -/
theorem Measured.teethIn_flipped {α : Type} [Arithmetic α] {e : Edge α} {j : Joint}
    {bounds : Option (Box α)} {m : Measures α} {mates : Cut α} (measured : Measured e j bounds m)
    (success : cut (some e) (some j.flipped) bounds = .ok mates) :
    m.teethIn (slotIndices (!j.isRight) m.slots.count) = .ok mates.list := by
  rw [measured.flipped.cut_eq, Joint.isRight_flipped] at success
  obtain ⟨teeth, made, success⟩ := bind_eq_ok_iff.1 success
  cases success
  exact made

/-! ### Slots without gaps -/

/-- The teeth of two rows follow each other along an edge, from its start to its end. -/
structure Tiles (L : EReal) (count : ℕ) (teeth mates : List (Tooth EReal)) : Prop where
  first : ∀ t ∈ teeth ++ mates, t.index = 0 → t.startDistance = 0
  next : ∀ t ∈ teeth, ∀ s ∈ mates,
    (t.index + 1 = s.index → t.endDistance = .ok s.startDistance) ∧
      (s.index + 1 = t.index → s.endDistance = .ok t.startDistance)
  last : ∀ t ∈ teeth ++ mates, t.index + 1 = count → t.endDistance = .ok L

/-- A tooth ends where the next slot begins. -/
theorem Measures.endDistance_tooth (m : Measures ℝ) (slot : ℕ) :
    (m.tooth slot).extended.endDistance = .ok (((slot + 1 : ℕ) * m.width : ℝ) : EReal) := by
  have stop : (m.tooth slot).extended.endDistance =
      .ok ((slot * m.width + m.width : ℝ) : EReal) := rfl
  rw [stop, Nat.cast_succ, add_mul, one_mul]

theorem Measures.tiles (m : Measures ℝ) (whole : m.slots.count.toNat * m.width = m.length)
    (slots others : List ℕ) :
    Tiles m.length m.slots.count.toNat (slots.map fun slot => (m.tooth slot).extended)
      (others.map fun slot => (m.tooth slot).extended) where
  first := by
    rw [← List.map_append]
    refine List.forall_mem_map.2 fun slot _ zero => ?_
    have start : (m.tooth slot).extended.startDistance = ((slot * m.width : ℝ) : EReal) := rfl
    have here : slot = 0 := zero
    rw [start, here, Nat.cast_zero, zero_mul, EReal.coe_zero]
  next := by
    refine List.forall_mem_map.2 fun slot _ => List.forall_mem_map.2 fun other _ => ⟨?_, ?_⟩
    · intro follows
      have here : slot + 1 = other := follows
      rw [m.endDistance_tooth, here]
      rfl
    · intro follows
      have here : other + 1 = slot := follows
      rw [m.endDistance_tooth, here]
      rfl
  last := by
    rw [← List.map_append]
    refine List.forall_mem_map.2 fun slot _ final => ?_
    have here : slot + 1 = m.slots.count.toNat := final
    rw [m.endDistance_tooth, here, whole]

/-- The teeth of a joint and those of the flipped one share their measures and fill the slots of the
edge by turns, the even ones to the left and the odd ones to the right. In exact arithmetic the
slots follow each other without gaps from the start of the edge to its end. -/
theorem flipped_complements (j : Joint) :
    (∀ (e : Edge Value) (bounds : Option (Box Value)) (found : Cut Value),
      synthesize (some e) (.inl j) bounds = .ok found → found.list ≠ [] →
      ∃ (mates : Cut Value) (m : Measures Value),
        synthesize (some e) (.inl j.flipped) bounds = .ok mates ∧ Measured e j bounds m ∧
        Complement m j.isRight found.list mates.list) ∧
    ∀ (e : Edge ℝ) (bounds : Option (Box ℝ)) (found : Cut EReal),
      cut (some e.extended) (some j) (bounds.map Box.extended) = .ok found → found.list ≠ [] →
      ∃ (mates : Cut EReal) (m : Measures ℝ),
        cut (some e.extended) (some j.flipped) (bounds.map Box.extended) = .ok mates ∧
        Measured e.extended j (bounds.map Box.extended) m.extended ∧ m.length = e.euclidean ∧
        Complement m.extended j.isRight found.list mates.list ∧
        Tiles m.length m.slots.count.toNat found.list mates.list := by
  constructor
  · intro e bounds found success toothed
    obtain ⟨m, measured, teeth⟩ := exists_measured success toothed
    obtain ⟨mates, made⟩ := exists_mates success
    exact ⟨mates, m, made, measured,
      complement_of_teethIn measured.fit.1 teeth (measured.teethIn_flipped made)⟩
  · intro e bounds found success toothed
    obtain ⟨m, sized, measured, teeth⟩ := exists_row success toothed
    have made := measured.flipped.cut_eq
    rw [Measures.teethIn_extended, ok_bind, Joint.isRight_flipped] at made
    have row : m.extended.teethIn (slotIndices j.isRight m.slots.count) = .ok found.list := by
      rw [Measures.teethIn_extended, teeth]
    have count : ((m.slots.count.toNat : ℕ) : ℝ) = m.slots.count := by
      have two := sized.two_le
      exact_mod_cast Int.toNat_of_nonneg (by omega : 0 ≤ m.slots.count)
    refine ⟨_, m, made, measured, sized.length,
      complement_of_teethIn sized.two_le row (measured.teethIn_flipped made), ?_⟩
    rw [teeth]
    refine m.tiles ?_ _ _
    rw [count, sized.count_mul_width]

/-- The board as it is drawn in a document. -/
def drawnBoard : Edge Value := { start := ⟨.int 0, .int 0⟩, stop := ⟨.int 100, .int 0⟩ }

/-- Of the five slots of a board the dovetails to the left take three, and those of the flipped
joint the other two. -/
theorem flipped_complements_board :
    (∃ (found mates : Cut Value) (m : Measures Value),
      synthesize (some drawnBoard) (.inl fiveDovetails) none = .ok found ∧
      synthesize (some drawnBoard) (.inl fiveDovetails.flipped) none = .ok mates ∧
      found.list.length = 3 ∧ Complement m fiveDovetails.isRight found.list mates.list) ∧
    ∃ (found mates : Cut EReal) (m : Measures ℝ),
      cut (some board.extended) (some fiveDovetails) none = .ok found ∧
      cut (some board.extended) (some fiveDovetails.flipped) none = .ok mates ∧
      m.length = 100 ∧ Tiles m.length m.slots.count.toNat found.list mates.list := by
  obtain ⟨doubles, exact⟩ := flipped_complements fiveDovetails
  constructor
  · obtain ⟨found, success, three⟩ := exists_of_any_toOption
      (x := synthesize (some drawnBoard) (.inl fiveDovetails) none)
      (P := fun found => found.list.length = 3) (by decide +kernel)
    have toothed : found.list ≠ [] := List.ne_nil_of_length_pos (by omega)
    obtain ⟨mates, m, made, -, complement⟩ := doubles _ none found success toothed
    exact ⟨found, mates, m, success, made, three, complement⟩
  · obtain ⟨found, success, toothed⟩ := exists_teeth readKind_fiveDovetails long_board none
    obtain ⟨mates, m, made, -, length, -, tiles⟩ := exact board none found success toothed
    rw [euclidean_board] at length
    exact ⟨found, mates, m, success, made, length, tiles⟩

end Joinery.Tooth
