import Mathlib
import Joinery.Joint.Store

/-!
# Keys of edges

The identity of an edge is the id of its shape, if it has one, its path and its place on the path.
The key of an edge tells its identity: integers are written without colons, so the last colon of a
key stands before the place and the one before that, if there is one, behind the id, whatever colons
the id holds itself.
-/
namespace Joinery

/-- The id of a shape that has one. -/
abbrev ShapeId : Type := { id : String // id ≠ "" }

/-- The identity of an edge. -/
structure Spot where
  /-- The id of the shape, if it has one. -/
  shape : Option ShapeId
  path : Int
  index : Int
  deriving DecidableEq

namespace Spot

/-- The same place without the shape. -/
def unowned (p : Spot) : Spot := { p with shape := none }

/-- The id of the shape as an edge holds it. -/
def owner (p : Spot) : Value :=
  match p.shape with
  | some id => .text id
  | none => .null

/-- An edge of this identity. -/
def edge {α : Type} (p : Spot) (start stop : Point α) (closed : Value) : Edge α :=
  ⟨start, stop, p.owner, .int p.path, .int p.index, closed⟩

/-- The key without the shape. -/
def localKey (p : Spot) : String := toString p.path ++ ":" ++ toString p.index

def key (p : Spot) : String :=
  match p.shape with
  | some id => id ++ ":" ++ p.localKey
  | none => p.localKey

section

variable {α : Type} (p : Spot) (start stop : Point α) (closed : Value)

theorem localKey_edge : (p.edge start stop closed).localKey = p.localKey := rfl

theorem isOwned_edge : (p.edge start stop closed).isOwned = p.shape.isSome := by
  unfold Edge.isOwned edge owner
  cases p.shape with
  | none => rfl
  | some id => simp [Value.isTruthy, id.property]

theorem key_edge : (p.edge start stop closed).key = p.key := by
  unfold Edge.key
  rw [isOwned_edge, localKey_edge]
  unfold edge owner key
  cases p.shape with
  | none => rfl
  | some id => rfl

end

end Spot

/-! ### Colons -/

theorem colon_notMem_repr (n : Nat) : ':' ∉ (Nat.repr n).toList := by
  rw [Nat.repr_eq_ofList_toDigits, String.toList_ofList]
  intro member
  have digit := Nat.isDigit_of_mem_toDigits (by decide) (by decide) member
  exact absurd digit (by decide)

theorem colon_notMem_toString (i : Int) : ':' ∉ (toString i).toList := by
  rw [Int.toString_eq_repr, Int.repr_eq_if]
  split
  · exact colon_notMem_repr i.toNat
  · rw [String.toList_append, List.mem_append]
    rintro (sign | digit)
    · exact absurd sign (by decide)
    · exact colon_notMem_repr _ digit

namespace JointStore

theorem beforeLastColon?_append {cs ds : List Char} (plain : ':' ∉ ds) :
    beforeLastColon? (cs ++ ':' :: ds) = some cs := by
  have hskip : ∀ c ∈ ds.reverse, decide (c ≠ ':') = true := by
    intro c member
    refine decide_eq_true ?_
    rintro rfl
    exact plain (List.mem_reverse.1 member)
  have hreverse : (cs ++ ':' :: ds).reverse = ds.reverse ++ ':' :: cs.reverse := by simp
  unfold beforeLastColon?
  rw [hreverse, List.dropWhile_append_of_pos hskip]
  simp

theorem beforeLastColon?_eq_none {cs : List Char} (plain : ':' ∉ cs) :
    beforeLastColon? cs = none := by
  have hskip : cs.reverse.dropWhile (· ≠ ':') = [] := by
    refine List.dropWhile_eq_nil_iff.2 fun c member => decide_eq_true ?_
    rintro rfl
    exact plain (List.mem_reverse.1 member)
  unfold beforeLastColon?
  rw [hskip]

theorem toList_localKey (p : Spot) :
    p.localKey.toList = (toString p.path).toList ++ ':' :: (toString p.index).toList := by
  simp [Spot.localKey]

theorem beforeLastColon?_localKey (p : Spot) :
    beforeLastColon? p.localKey.toList = some (toString p.path).toList := by
  rw [toList_localKey]
  exact beforeLastColon?_append (colon_notMem_toString p.index)

/-- A key names the shape of its edge. -/
theorem shapeOf?_key (p : Spot) : shapeOf? p.key = p.shape.map Subtype.val := by
  unfold shapeOf? Spot.key
  cases hshape : p.shape with
  | none =>
    simp only [beforeLastColon?_localKey, Option.bind_eq_bind, Option.bind_some,
      beforeLastColon?_eq_none (colon_notMem_toString p.path)]
    rfl
  | some id =>
    obtain ⟨id, nonempty⟩ := id
    have hlist : (id ++ ":" ++ p.localKey).toList =
        (id.toList ++ ':' :: (toString p.path).toList) ++ ':' :: (toString p.index).toList := by
      simp [toList_localKey]
    simp only [hlist, beforeLastColon?_append (colon_notMem_toString p.index),
      Option.bind_eq_bind, Option.bind_some, beforeLastColon?_append (colon_notMem_toString p.path)]
    cases hid : id.toList with
    | nil => exact absurd (String.toList_eq_nil_iff.1 hid) nonempty
    | cons c cs =>
      simp only [Option.map_some, ← hid, String.ofList_toList]

end JointStore

namespace Spot

open JointStore

theorem localKey_injective {p q : Spot} (h : p.localKey = q.localKey) :
    p.path = q.path ∧ p.index = q.index := by
  have hpath : (toString p.path).toList = (toString q.path).toList := by
    have hbefore := beforeLastColon?_localKey p
    rw [h, beforeLastColon?_localKey q] at hbefore
    exact (Option.some.inj hbefore).symm
  have hlist : (toString p.path).toList ++ ':' :: (toString p.index).toList =
      (toString q.path).toList ++ ':' :: (toString q.index).toList := by
    rw [← toList_localKey, ← toList_localKey, h]
  rw [hpath] at hlist
  have hindex : (toString p.index).toList = (toString q.index).toList :=
    (List.cons.inj (List.append_cancel_left hlist)).2
  exact ⟨Int.repr_injective (String.toList_injective hpath),
    Int.repr_injective (String.toList_injective hindex)⟩

/-- Edges of different identity have different keys. -/
theorem key_injective {p q : Spot} (h : p.key = q.key) : p = q := by
  have hshape : p.shape = q.shape := by
    have howner := shapeOf?_key p
    rw [h, shapeOf?_key q] at howner
    exact (Option.map_injective Subtype.val_injective howner).symm
  have hlocal : p.localKey = q.localKey := by
    unfold key at h
    rw [hshape] at h
    cases hq : q.shape with
    | none => simpa [hq] using h
    | some id =>
      simp only [hq] at h
      exact (String.append_right_inj _).1 h
  obtain ⟨hpath, hindex⟩ := localKey_injective hlocal
  cases p
  cases q
  simp_all

end Spot

end Joinery
