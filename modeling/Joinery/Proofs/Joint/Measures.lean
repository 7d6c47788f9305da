import Joinery.Proofs.Joint.Teeth
import Mathlib.Data.List.Sort

/-!
# Measures of a row of teeth

The teeth of an edge with a joint differ only in the slots they stand in. What they have in common,
their measures, depends on the joint up to its alignment, so the mating edge has teeth of the same
measures in the other slots.
-/
namespace Joinery

theorem Joint.isRight_flipped (j : Joint) : j.flipped.isRight = !j.isRight := by
  unfold flipped isRight
  cases j.align.equals (.text "right") <;> rfl

namespace Tooth

variable {α : Type}

/-- What the teeth of a row have in common. -/
structure Measures (α : Type) where
  kind : JointKind
  length : α
  normal : Point α
  depth : α
  slots : Slots
  width : α
  taper : α

section

variable [Arithmetic α] {e : Edge α} {j : Joint} {bounds : Option (Box α)} {m : Measures α}

/-- The measures of the teeth that a joint has on an edge within a box. -/
structure Measured (e : Edge α) (j : Joint) (bounds : Option (Box α)) (m : Measures α) :
    Prop where
  kind : j.readKind = .ok (some m.kind)
  length : e.length = .ok m.length
  long : Arithmetic.le minLength m.length = .ok true
  normal : outwardNormal e bounds = .ok m.normal
  depth : depthFor m.kind j.thickness m.length = .ok m.depth
  slots : slotsFor j.fingerCount m.length m.depth = .ok m.slots
  width : Arithmetic.div m.length (Arithmetic.ofInt m.slots.count) = .ok m.width
  taper : taperFor m.kind m.depth m.width = .ok m.taper

/-- The teeth of some measures in slots. -/
def Measures.teethIn (m : Measures α) (indices : List Nat) : Except Misuse (List (Tooth α)) :=
  indices.mapM (inSlot m.normal m.depth m.width m.taper)

/-! ### Rows -/

theorem Measured.cut_eq (measured : Measured e j bounds m) :
    cut (some e) (some j) bounds = do
      let teeth ← m.teethIn (slotIndices j.isRight m.slots.count)
      return .teeth teeth m.slots.limit j.fingerCount m.length := by
  dsimp only [cut]
  rw [measured.kind, ok_bind]
  dsimp only
  rw [measured.length, ok_bind, measured.long, ok_bind, if_pos rfl]
  unfold row
  rw [measured.normal, ok_bind, measured.depth, ok_bind, measured.slots, ok_bind, measured.width,
    ok_bind, measured.taper, ok_bind]
  rfl

/-- An edge that has teeth has measures for them. -/
theorem exists_measured {found : Cut α} (success : cut (some e) (some j) bounds = .ok found)
    (toothed : found.list ≠ []) :
    ∃ m, Measured e j bounds m ∧
      m.teethIn (slotIndices j.isRight m.slots.count) = .ok found.list := by
  dsimp only [cut] at success
  obtain ⟨kind?, hkind, success⟩ := bind_eq_ok_iff.1 success
  cases kind? with
  | none =>
    cases success
    exact absurd rfl toothed
  | some kind =>
    obtain ⟨length, hlength, success⟩ := bind_eq_ok_iff.1 success
    obtain ⟨long, hlong, success⟩ := bind_eq_ok_iff.1 success
    cases long with
    | false =>
      cases success
      exact absurd rfl toothed
    | true =>
      obtain ⟨n, hn, success⟩ := bind_eq_ok_iff.1 success
      obtain ⟨depth, hdepth, success⟩ := bind_eq_ok_iff.1 success
      obtain ⟨slots, hslots, success⟩ := bind_eq_ok_iff.1 success
      obtain ⟨width, hwidth, success⟩ := bind_eq_ok_iff.1 success
      obtain ⟨taper, htaper, success⟩ := bind_eq_ok_iff.1 success
      obtain ⟨teeth, hteeth, success⟩ := bind_eq_ok_iff.1 success
      cases success
      exact ⟨⟨kind, length, n, depth, slots, width, taper⟩,
        ⟨hkind, hlength, hlong, hn, hdepth, hslots, hwidth, htaper⟩, hteeth⟩

/-- Alignment does not matter for measures. -/
theorem Measured.flipped (measured : Measured e j bounds m) : Measured e j.flipped bounds m :=
  ⟨measured.kind, measured.length, measured.long, measured.normal, measured.depth, measured.slots,
    measured.width, measured.taper⟩

/-! ### Teeth in slots -/

/-- A tooth stands in a slot and has the measures of its row. -/
structure Stands (m : Measures α) (slot : Nat) (t : Tooth α) : Prop where
  index : t.index = slot
  start : Arithmetic.mul (Arithmetic.ofInt slot) m.width = .ok t.startDistance
  width : t.width = m.width
  depth : t.depth = m.depth
  outward : m.normal.scale m.depth = .ok t.outwardOffset
  taper : t.taper = m.taper

theorem stands_of_inSlot {slot : Nat} {t : Tooth α}
    (success : inSlot m.normal m.depth m.width m.taper slot = .ok t) : Stands m slot t := by
  obtain ⟨start, hstart, success⟩ := bind_eq_ok_iff.1 success
  obtain ⟨outward, houtward, success⟩ := bind_eq_ok_iff.1 success
  cases success
  exact ⟨rfl, hstart, rfl, rfl, houtward, rfl⟩

/-- There is one tooth for each slot, in the same order. -/
theorem Measures.teethIn_eq_ok {slots : List Nat} {teeth : List (Tooth α)}
    (success : m.teethIn slots = .ok teeth) :
    teeth.map index = slots ∧ ∀ t ∈ teeth, Stands m t.index t := by
  have each := mapM_eq_ok_iff.1 success
  clear success
  induction each with
  | nil => exact ⟨rfl, nofun⟩
  | cons made _ ih =>
    have here := stands_of_inSlot made
    refine ⟨by rw [List.map_cons, here.index, ih.1], List.forall_mem_cons.2 ⟨?_, ih.2⟩⟩
    rw [here.index]
    exact here

end

/-! ### Slots by turns -/

theorem mem_slotIndices {right : Bool} {count : Int} {slot : Nat} :
    slot ∈ slotIndices right count ↔ slot < count.toNat ∧ slot % 2 = right.toNat := by
  unfold slotIndices
  rw [List.mem_map]
  constructor
  · rintro ⟨i, member, rfl⟩
    rw [List.mem_range] at member
    cases right <;> simp at member ⊢ <;> omega
  · rintro ⟨below, parity⟩
    refine ⟨slot / 2, List.mem_range.2 ?_, ?_⟩
    · cases right <;> simp at parity ⊢ <;> omega
    · cases right <;> simp at parity ⊢ <;> omega

/-- Between slots of one alignment there is another one. -/
theorem pairwise_slotIndices (right : Bool) (count : Int) :
    (slotIndices right count).Pairwise fun slot next => slot + 2 ≤ next := by
  refine List.pairwise_map.2 (List.pairwise_lt_range.imp fun less => ?_)
  omega

/-- The slots of one alignment are the even ones, those of the other the odd ones. -/
theorem slotIndices_eq_filter (right : Bool) (count : Int) :
    slotIndices right count =
      (List.range count.toNat).filter fun slot => slot % 2 = right.toNat := by
  have increasing : (slotIndices right count).Pairwise (· < ·) :=
    (pairwise_slotIndices right count).imp fun apart => by omega
  refine increasing.eq_of_mem_iff (List.pairwise_lt_range.filter _) fun slot => ?_
  rw [mem_slotIndices, List.mem_filter, List.mem_range, decide_eq_true_eq]

/-- Together the slots of both alignments are all slots. -/
theorem slotIndices_append_perm (right : Bool) (count : Int) :
    (slotIndices right count ++ slotIndices (!right) count).Perm (List.range count.toNat) := by
  have others : (fun slot : Nat => decide (slot % 2 = (!right).toNat)) =
      fun slot => !decide (slot % 2 = right.toNat) := by
    funext slot
    rcases Nat.mod_two_eq_zero_or_one slot with parity | parity <;> cases right <;> simp [parity]
  rw [slotIndices_eq_filter, slotIndices_eq_filter, others]
  exact List.filter_append_perm _ _

/-! ### Rows that complement each other -/

variable [Arithmetic α]

/-- Two rows of teeth of the same measures in the even and in the odd slots. -/
structure Complement (m : Measures α) (right : Bool) (teeth mates : List (Tooth α)) : Prop where
  /-- To the left the even slots, to the right the odd ones, in increasing order. -/
  slots : teeth.map index =
    (List.range m.slots.count.toNat).filter fun slot => slot % 2 = right.toNat
  others : mates.map index =
    (List.range m.slots.count.toNat).filter fun slot => slot % 2 = (!right).toNat
  disjoint : ∀ t ∈ teeth, ∀ s ∈ mates, t.index ≠ s.index
  covered : ((teeth ++ mates).map index).Perm (List.range m.slots.count.toNat)
  nonempty : teeth ≠ [] ∧ mates ≠ []
  shared : ∃ outward, m.normal.scale m.depth = .ok outward ∧ ∀ t ∈ teeth ++ mates,
    t.width = m.width ∧ t.depth = m.depth ∧ t.taper = m.taper ∧ t.outwardOffset = outward

theorem complement_of_teethIn {m : Measures α} {right : Bool} {teeth mates : List (Tooth α)}
    (two : 2 ≤ m.slots.count)
    (hteeth : m.teethIn (slotIndices right m.slots.count) = .ok teeth)
    (hmates : m.teethIn (slotIndices (!right) m.slots.count) = .ok mates) :
    Complement m right teeth mates := by
  obtain ⟨slots, stand⟩ := Measures.teethIn_eq_ok hteeth
  obtain ⟨others, matesStand⟩ := Measures.teethIn_eq_ok hmates
  have standing : ∀ t ∈ teeth ++ mates, Stands m t.index t := fun t member =>
    (List.mem_append.1 member).elim (stand t) (matesStand t)
  have some : teeth ≠ [] := by
    rintro rfl
    exact slotIndices_ne_nil right two slots.symm
  obtain ⟨first, member⟩ := List.exists_mem_of_ne_nil teeth some
  exact {
    slots := slots.trans (slotIndices_eq_filter right _)
    others := others.trans (slotIndices_eq_filter (!right) _)
    disjoint := by
      intro t ht s hs same
      have even := (mem_slotIndices.1 (slots ▸ List.mem_map_of_mem ht)).2
      have odd := (mem_slotIndices.1 (others ▸ List.mem_map_of_mem hs)).2
      rw [same, odd] at even
      cases right <;> cases even
    covered := by
      rw [List.map_append, slots, others]
      exact slotIndices_append_perm right _
    nonempty := by
      refine ⟨some, ?_⟩
      rintro rfl
      exact slotIndices_ne_nil (!right) two others.symm
    shared := by
      have outward := (stand first member).outward
      refine ⟨first.outwardOffset, outward, fun t ht => ?_⟩
      have here := standing t ht
      exact ⟨here.width, here.depth, here.taper, Except.ok.inj (here.outward.symm.trans outward)⟩ }

end Tooth

end Joinery
