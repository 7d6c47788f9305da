import Joinery.Value.Basic
import Mathlib.Data.List.Nodup

/-!
# Values up to the sign of zero

A double that is zero may have lost its sign on the way through a document. Values that differ in
nothing else are equal, where NaN counts as equal to itself and no object has two fields of a name.
-/
namespace Joinery

namespace Binary64

/-- The double without the sign of a zero. -/
def unsigned (x : Binary64) : Binary64 := if x.equals 0 then 0 else x

theorem unsigned_unsigned (x : Binary64) : x.unsigned.unsigned = x.unsigned := by
  unfold unsigned
  split
  · rfl
  · rfl

theorem same_self (x : Binary64) : Number.same (.float x) (.float x) = true := by
  cases x with
  | nan => rfl
  | infinite | finite => simp [Number.same, Number.equals, equals]

theorem equals_of_equals_zero {x y : Binary64} (hx : x.equals 0 = true) (hy : y.equals 0 = true) :
    x.equals y = true := by
  cases x with
  | nan | infinite => cases hx
  | finite a m hm =>
    cases y with
    | nan | infinite => cases hy
    | finite b n hn =>
      change ((finite a m hm).signedUnits == 0) = true at hx
      change ((finite b n hn).signedUnits == 0) = true at hy
      change ((finite a m hm).signedUnits == (finite b n hn).signedUnits) = true
      rw [eq_of_beq hx, eq_of_beq hy]
      rfl

theorem same_of_unsigned_eq {x y : Binary64} (h : x.unsigned = y.unsigned) :
    Number.same (.float x) (.float y) = true := by
  unfold unsigned at h
  split at h
  · next hx =>
    have hy : y.equals 0 = true := by
      split at h
      · next hy => exact hy
      · rw [← h]
        rfl
    cases x with
    | nan => cases hx
    | infinite | finite => exact equals_of_equals_zero hx hy
  · next hx =>
    split at h
    · rw [h] at hx
      exact absurd rfl hx
    · rw [h]
      exact same_self y

end Binary64

namespace Value

mutual

/-- The value without the signs of zeros. -/
def unsigned : Value → Value
  | .null => .null
  | .bool b => .bool b
  | .int i => .int i
  | .float x => .float x.unsigned
  | .text s => .text s
  | .list items => .list (unsignedItems items)
  | .object fields => .object (unsignedFields fields)

def unsignedItems : List Value → List Value
  | [] => []
  | v :: rest => v.unsigned :: unsignedItems rest

def unsignedFields : List (String × Value) → List (String × Value)
  | [] => []
  | (name, v) :: rest => (name, v.unsigned) :: unsignedFields rest

end

mutual

/-- No object in a value has two fields of a name. -/
def IsDistinct : Value → Prop
  | .list items => AreDistinct items
  | .object fields => (fields.map Prod.fst).Nodup ∧ HaveDistinct fields
  | _ => True

def AreDistinct : List Value → Prop
  | [] => True
  | v :: rest => v.IsDistinct ∧ AreDistinct rest

def HaveDistinct : List (String × Value) → Prop
  | [] => True
  | (_, v) :: rest => v.IsDistinct ∧ HaveDistinct rest

end

theorem length_unsignedFields (fields : List (String × Value)) :
    (unsignedFields fields).length = fields.length := by
  induction fields with
  | nil => rfl
  | cons field rest ih => rw [unsignedFields, List.length_cons, List.length_cons, ih]

theorem lookup_unsignedFields (fields : List (String × Value)) (name : String) :
    (unsignedFields fields).lookup name = (fields.lookup name).map unsigned := by
  induction fields with
  | nil => rfl
  | cons field rest ih =>
    rw [unsignedFields, List.lookup_cons, List.lookup_cons]
    split
    · rfl
    · exact ih

theorem lookup_eq_some_of_mem {fields : List (String × Value)}
    (nodup : (fields.map Prod.fst).Nodup) {name : String} {v : Value}
    (member : (name, v) ∈ fields) : fields.lookup name = some v := by
  induction fields with
  | nil => cases member
  | cons field rest ih =>
    obtain ⟨first, others⟩ := List.nodup_cons.1 nodup
    rw [List.lookup_cons]
    cases member with
    | head => simp
    | tail _ member =>
      have other : (name == field.1) = false := by
        rw [beq_eq_false_iff_ne]
        rintro rfl
        exact first (List.mem_map.2 ⟨_, member, rfl⟩)
      rw [other]
      exact ih others member

theorem exists_lookup_of_unsignedFields {fields others : List (String × Value)}
    (h : unsignedFields fields = unsignedFields others) (nodup : (fields.map Prod.fst).Nodup)
    {name : String} {v : Value} (member : (name, v) ∈ fields) :
    ∃ w, others.lookup name = some w ∧ v.unsigned = w.unsigned := by
  have found := lookup_eq_some_of_mem nodup member
  have same := lookup_unsignedFields others name
  rw [← h, lookup_unsignedFields, found] at same
  obtain ⟨w, hw, hunsigned⟩ := Option.map_eq_some_iff.1 same.symm
  exact ⟨w, hw, hunsigned.symm⟩

mutual

theorem same_of_unsigned_eq : ∀ v w : Value, v.unsigned = w.unsigned → v.IsDistinct →
    v.equalsBy Number.same w = true
  | .null, w, h, _ => by
    cases w <;> first | rfl | cases h
  | .bool b, w, h, _ => by
    cases w with
    | bool =>
      cases h
      simp [equalsBy, number?, Number.same, Number.equals]
    | _ => cases h
  | .int i, w, h, _ => by
    cases w with
    | int =>
      cases h
      simp [equalsBy, number?, Number.same, Number.equals]
    | _ => cases h
  | .float x, w, h, _ => by
    cases w with
    | float y => exact Binary64.same_of_unsigned_eq (Value.float.inj h)
    | _ => cases h
  | .text s, w, h, _ => by
    cases w with
    | text =>
      cases h
      simp [equalsBy]
    | _ => cases h
  | .list items, w, h, distinct => by
    cases w with
    | list others => exact sameItems_of_unsigned_eq items others (Value.list.inj h) distinct
    | _ => cases h
  | .object fields, w, h, distinct => by
    cases w with
    | object others =>
      have equal := Value.object.inj h
      have lengths := congrArg List.length equal
      rw [length_unsignedFields, length_unsignedFields] at lengths
      have each := sameFields_of_lookup fields others
        (fun name v member => exists_lookup_of_unsignedFields equal distinct.1 member) distinct.2
      rw [equalsBy, lengths, each]
      simp
    | _ => cases h

theorem sameItems_of_unsigned_eq : ∀ items others : List Value,
    unsignedItems items = unsignedItems others → AreDistinct items →
    equalsItems Number.same items others = true
  | [], others, h, _ => by
    cases others with
    | nil => rfl
    | cons => cases h
  | v :: rest, others, h, distinct => by
    cases others with
    | nil => cases h
    | cons w more =>
      obtain ⟨first, later⟩ := List.cons.inj h
      rw [equalsItems, same_of_unsigned_eq v w first distinct.1,
        sameItems_of_unsigned_eq rest more later distinct.2]
      rfl

theorem sameFields_of_lookup : ∀ fields others : List (String × Value),
    (∀ name v, (name, v) ∈ fields → ∃ w, others.lookup name = some w ∧ v.unsigned = w.unsigned) →
    HaveDistinct fields → equalsFields Number.same fields others = true
  | [], _, _, _ => rfl
  | (name, v) :: rest, others, each, distinct => by
    obtain ⟨w, found, equal⟩ := each name v (.head rest)
    rw [equalsFields, found]
    dsimp only
    rw [same_of_unsigned_eq v w equal distinct.1, sameFields_of_lookup rest others
      (fun name v member => each name v (.tail _ member)) distinct.2]
    rfl

end

end Value

end Joinery
